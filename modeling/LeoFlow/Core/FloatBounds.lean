import LeoFlow.Core.Moments

/-!
# LeoFlow.Core.FloatBounds — rounding does not pass a float

A result that lies between zero and a float stays there when it is rounded, so an operation
on finite floats whose exact result has a representable bound is finite and within the bound.
-/

namespace LeoFlow

namespace PyFloat

/-! ## Rounded quotients -/

theorem roundDiv_le {a b k : Nat} (hb : 0 < b) (h : a ≤ k * b) : roundDiv a b ≤ k := by
  have hdiv : a / b ≤ k := Nat.div_le_of_le_mul (by rw [Nat.mul_comm]; exact h)
  unfold roundDiv
  rcases Nat.lt_or_eq_of_le hdiv with hlt | heq
  · split_ifs <;> omega
  · -- nothing is left to round up
    have hmod : a % b = 0 := by
      have hsplit := Nat.div_add_mod a b
      rw [heq, Nat.mul_comm] at hsplit
      omega
    rw [if_pos (by omega)]
    exact hdiv

theorem le_roundDiv {a b k : Nat} (hb : 0 < b) (h : k * b ≤ a) : k ≤ roundDiv a b := by
  have hdiv : k ≤ a / b := (Nat.le_div_iff_mul_le hb).2 h
  unfold roundDiv
  split_ifs <;> omega

/-- Rounding to an integer does not pass one. -/
theorem rint_bounds {x : ℚ} {n : Nat} (hlow : 0 ≤ x) (hhigh : x ≤ n) : 0 ≤ rint x ∧ rint x ≤ n := by
  have hnum : x.num.natAbs ≤ n * x.den := by
    have hden : (0 : ℚ) < x.den := by exact_mod_cast x.den_pos
    have hratio := magnitude x
    rw [abs_of_nonneg hlow, div_eq_iff hden.ne'] at hratio
    have hle : (x.num.natAbs : ℚ) ≤ n * x.den := by
      rw [hratio]
      exact mul_le_mul_of_nonneg_right hhigh hden.le
    exact_mod_cast hle
  have hround := roundDiv_le x.den_pos hnum
  unfold rint
  rw [if_neg (not_lt.2 hlow)]
  omega

/-- A larger quotient is not rounded to less. -/
theorem roundDiv_mono {a b a' b' : Nat} (hb : 0 < b) (hb' : 0 < b') (h : a * b' ≤ a' * b) :
    roundDiv a b ≤ roundDiv a' b' := by
  have hquotient : a / b ≤ a' / b' := by
    rw [Nat.le_div_iff_mul_le hb']
    have hleft : a / b * b ≤ a := Nat.div_mul_le_self a b
    exact Nat.le_of_mul_le_mul_right (calc a / b * b' * b = a / b * b * b' := by ring
      _ ≤ a * b' := Nat.mul_le_mul_right _ hleft
      _ ≤ a' * b := h) hb
  rcases Nat.lt_or_eq_of_le hquotient with hlt | heq
  · have hup : roundDiv a b ≤ a / b + 1 := by
      unfold roundDiv
      split_ifs <;> omega
    have hdown : a' / b' ≤ roundDiv a' b' := by
      unfold roundDiv
      split_ifs <;> omega
    omega
  · -- the same whole part, and no smaller remainder
    have hremainder : a % b * b' ≤ a' % b' * b := by
      have hsplit := Nat.div_add_mod a b
      have hsplit' := Nat.div_add_mod a' b'
      have hexpand : a * b' = a / b * b * b' + a % b * b' := by
        rw [← Nat.add_mul, Nat.mul_comm (a / b), hsplit]
      have hexpand' : a' * b = a / b * b * b' + a' % b' * b := by
        conv_lhs => rw [← hsplit']
        rw [← heq]
        ring
      omega
    have hbelow : 2 * (a' % b') < b' → 2 * (a % b) < b := by
      intro hlow
      refine Nat.lt_of_mul_lt_mul_right (a := b') ?_
      calc 2 * (a % b) * b' = 2 * (a % b * b') := by ring
        _ ≤ 2 * (a' % b' * b) := Nat.mul_le_mul_left _ hremainder
        _ = 2 * (a' % b') * b := by ring
        _ < b' * b := Nat.mul_lt_mul_of_pos_right hlow hb
        _ = b * b' := Nat.mul_comm _ _
    have htie : 2 * (a' % b') ≤ b' → 2 * (a % b) ≤ b := by
      intro hlow
      refine Nat.le_of_mul_le_mul_right ?_ hb'
      calc 2 * (a % b) * b' = 2 * (a % b * b') := by ring
        _ ≤ 2 * (a' % b' * b) := Nat.mul_le_mul_left _ hremainder
        _ = 2 * (a' % b') * b := by ring
        _ ≤ b' * b := Nat.mul_le_mul_right _ hlow
        _ = b * b' := Nat.mul_comm _ _
    unfold roundDiv
    rw [← heq]
    split_ifs <;> omega

/-! ## Rounded ratios -/

/-- The exponent of a rounded ratio -/
def ratioExponent (a b : Nat) : Int := max (-1074) (floorLog2 a b - 52)

/-- The mantissa of a rounded ratio -/
def ratioMantissa (a b : Nat) : Nat :=
  roundDiv (a * 2 ^ (-ratioExponent a b).toNat) (b * 2 ^ (ratioExponent a b).toNat)

section Ratios

variable {negative : Bool} {a b a' b' : Nat}

theorem ofRatio_eq (ha : a ≠ 0) : ofRatio negative a b = pack negative (ratioMantissa a b) (ratioExponent a b) := by
  unfold ofRatio
  rw [if_neg ha]
  rfl

theorem zpow_split (e : Int) (k : Nat) : (2 : ℚ) ^ (e + k) * 2 ^ (-e).toNat = 2 ^ k * 2 ^ e.toNat := by
  rw [← zpow_natCast (2 : ℚ) (-e).toNat, ← zpow_natCast (2 : ℚ) e.toNat, ← zpow_natCast (2 : ℚ) k,
    ← zpow_add₀ two_ne_zero, ← zpow_add₀ two_ne_zero]
  congr 1
  omega

/-- The mantissa has 53 bits, or is rounded up to the next power of two; fewer bits have only the smallest floats. -/
theorem ratioMantissa_bounds (ha : a ≠ 0) (hb : 0 < b) :
    ratioMantissa a b ≤ 2 ^ 53 ∧ (2 ^ 52 ≤ ratioMantissa a b ∨ ratioExponent a b = -1074) := by
  have hscale : 0 < b * 2 ^ (ratioExponent a b).toNat := Nat.mul_pos hb (Nat.two_pow_pos _)
  have hb' : (0 : ℚ) < b := by exact_mod_cast hb
  constructor
  · refine roundDiv_le hscale ?_
    have hbelow : (a : ℚ) / b < 2 ^ (ratioExponent a b + (53 : Nat)) :=
      (lt_floorLog2 hb).trans_le (zpow_le_zpow_right₀ one_le_two (by unfold ratioExponent; omega))
    rw [div_lt_iff₀ hb'] at hbelow
    have hle : (a : ℚ) * 2 ^ (-ratioExponent a b).toNat ≤ 2 ^ 53 * (b * 2 ^ (ratioExponent a b).toNat) := by
      calc (a : ℚ) * 2 ^ (-ratioExponent a b).toNat
          ≤ 2 ^ (ratioExponent a b + (53 : Nat)) * b * 2 ^ (-ratioExponent a b).toNat :=
            mul_le_mul_of_nonneg_right hbelow.le (by positivity)
        _ = 2 ^ (ratioExponent a b + (53 : Nat)) * 2 ^ (-ratioExponent a b).toNat * b := by ring
        _ = 2 ^ 53 * (b * 2 ^ (ratioExponent a b).toNat) := by rw [zpow_split]; ring
    exact_mod_cast hle
  · rcases max_choice (-1074 : Int) (floorLog2 a b - 52) with hmin | hlog
    · exact .inr hmin
    · left
      refine le_roundDiv hscale ?_
      have habove := floorLog2_le (Nat.pos_of_ne_zero ha) hb
      have hexp : floorLog2 a b = ratioExponent a b + (52 : Nat) := by
        unfold ratioExponent
        push_cast
        omega
      rw [hexp, le_div_iff₀ hb'] at habove
      have hle : (2 : ℚ) ^ 52 * (b * 2 ^ (ratioExponent a b).toNat) ≤ a * 2 ^ (-ratioExponent a b).toNat := by
        calc (2 : ℚ) ^ 52 * (b * 2 ^ (ratioExponent a b).toNat)
            = (2 : ℚ) ^ 52 * 2 ^ (ratioExponent a b).toNat * b := by ring
          _ = (2 : ℚ) ^ (ratioExponent a b + (52 : Nat)) * b * 2 ^ (-ratioExponent a b).toNat := by
            rw [← zpow_split]; ring
          _ ≤ a * 2 ^ (-ratioExponent a b).toNat := mul_le_mul_of_nonneg_right habove (by positivity)
      exact_mod_cast hle

/-- A mantissa and an exponent that are not past the largest float. -/
def Fits (m : Nat) (e : Int) : Prop := e ≤ 970 ∨ e ≤ 971 ∧ m < 2 ^ 53

/-- `pack` of a mantissa that fits is a float of its value. -/
theorem pack_fits (negative : Bool) {m : Nat} {e : Int} (hm : m ≤ 2 ^ 53) (hlow : 2 ^ 52 ≤ m ∨ e = -1074) (he : -1074 ≤ e) (h : Fits m e) :
    ∃ m' e', ∃ hcanonical : CanonicalFloat m' e',
      pack negative m e = finite negative m' e' hcanonical ∧ (m' : ℚ) * 2 ^ e' = m * 2 ^ e := by
  unfold pack
  rcases Nat.lt_or_eq_of_le hm with hlt | heq
  · have hcanonical : CanonicalFloat m e := ⟨hlt, he, by rcases h with h | h <;> omega, hlow⟩
    rw [dif_pos hcanonical]
    exact ⟨m, e, hcanonical, rfl, rfl⟩
  · -- rounded up to the next power of two
    have hcarry : CanonicalFloat (2 ^ 52) (e + 1) := ⟨by decide, by omega, by rcases h with h | h <;> omega, .inl le_rfl⟩
    rw [dif_neg (fun hcanonical => absurd hcanonical.1 (by omega)), dif_pos ⟨heq, hcarry⟩]
    refine ⟨2 ^ 52, e + 1, hcarry, rfl, ?_⟩
    rw [heq, zpow_add_one₀ two_ne_zero]
    push_cast
    ring

theorem fits_of_finite {m : Nat} {e : Int} (h : (pack negative m e).IsFinite) : Fits m e := by
  unfold pack at h
  split at h
  · rename_i hcanonical
    exact .inr ⟨hcanonical.2.2.1, hcanonical.1⟩
  split at h
  · rename_i hcarry
    exact .inl (by have := hcarry.2.2.2.1; omega)
  · exact h.elim

/-- A ratio no less than the smallest float is not rounded to zero. -/
theorem ofRatio_not_isZero (negative : Bool) (hb : 0 < b) (h : b ≤ a * 2 ^ 1074) : ¬(ofRatio negative a b).IsZero := by
  have ha : a ≠ 0 := by
    rintro rfl
    rw [Nat.zero_mul] at h
    omega
  have hmantissa : ratioMantissa a b ≠ 0 := by
    rcases (ratioMantissa_bounds ha hb).2 with hfull | hleast
    · have : 0 < 2 ^ 52 := Nat.two_pow_pos 52
      omega
    · have hone : 1 ≤ ratioMantissa a b := by
        unfold ratioMantissa
        have hup : (-(-1074 : Int)).toNat = 1074 := rfl
        have hdown : (-1074 : Int).toNat = 0 := rfl
        rw [hleast, hup, hdown, pow_zero, Nat.mul_one]
        exact le_roundDiv hb (by rw [Nat.one_mul]; exact h)
      omega
  rw [ofRatio_eq ha]
  unfold pack
  split
  · exact hmantissa
  split
  · exact (Nat.two_pow_pos 52).ne'
  · exact id

/-- The magnitude of a rounded ratio does not pass a float above it. -/
theorem ofRatio_bounds (negative : Bool) {n j : Nat} (hb : 0 < b) (hn : n < 2 ^ 53) (hj : j ≤ 970)
    (h : a ≤ n * 2 ^ j * b) : ∃ m e, ∃ hcanonical : CanonicalFloat m e,
      ofRatio negative a b = finite negative m e hcanonical ∧ (m : ℚ) * 2 ^ e ≤ n * 2 ^ j := by
  by_cases ha : a = 0
  · unfold ofRatio
    rw [if_pos ha]
    refine ⟨0, -1074, ⟨by decide, by decide, by decide, Or.inr rfl⟩, rfl, ?_⟩
    rw [Nat.cast_zero, zero_mul]
    positivity
  have hratio : (a : ℚ) / b ≤ n * 2 ^ j := by
    rw [div_le_iff₀ (by exact_mod_cast hb)]
    exact_mod_cast h
  -- the exponent is at most that of the bound
  have hexponent : floorLog2 a b - 52 ≤ j := by
    have hbelow : (2 : ℚ) ^ floorLog2 a b < 2 ^ ((53 + j : Nat) : Int) := by
      calc (2 : ℚ) ^ floorLog2 a b ≤ a / b := floorLog2_le (Nat.pos_of_ne_zero ha) hb
        _ ≤ n * 2 ^ j := hratio
        _ < 2 ^ 53 * 2 ^ j := mul_lt_mul_of_pos_right (by exact_mod_cast hn) (by positivity)
        _ = 2 ^ ((53 + j : Nat) : Int) := by rw [zpow_natCast, pow_add]
    have hlog := (zpow_lt_zpow_iff_right₀ (one_lt_two : (1 : ℚ) < 2)).1 hbelow
    push_cast at hlog
    omega
  have hej : ratioExponent a b ≤ j := by
    unfold ratioExponent
    omega
  have hle : ratioMantissa a b ≤ n * 2 ^ (j - ratioExponent a b).toNat := by
    refine roundDiv_le (Nat.mul_pos hb (Nat.two_pow_pos _)) ?_
    have hpowers : 2 ^ j * 2 ^ (-ratioExponent a b).toNat =
        2 ^ (j - ratioExponent a b).toNat * 2 ^ (ratioExponent a b).toNat := by
      rw [← pow_add, ← pow_add]
      congr 1
      omega
    calc a * 2 ^ (-ratioExponent a b).toNat ≤ n * 2 ^ j * b * 2 ^ (-ratioExponent a b).toNat := Nat.mul_le_mul_right _ h
      _ = n * b * (2 ^ j * 2 ^ (-ratioExponent a b).toNat) := by ring
      _ = n * 2 ^ (j - ratioExponent a b).toNat * (b * 2 ^ (ratioExponent a b).toNat) := by rw [hpowers]; ring
  rcases ratioMantissa_bounds ha hb with ⟨hhigh, hlow⟩
  have hsmallest : -1074 ≤ ratioExponent a b := le_max_left _ _
  rcases pack_fits negative hhigh hlow hsmallest (.inl (by omega)) with ⟨m, e, hcanonical, hpack, hvalue⟩
  refine ⟨m, e, hcanonical, (ofRatio_eq ha).trans hpack, ?_⟩
  have hcast : (ratioMantissa a b : ℚ) ≤ n * 2 ^ (j - ratioExponent a b) := by
    have hexp : ((j - ratioExponent a b).toNat : Int) = j - ratioExponent a b := by omega
    rw [← hexp, zpow_natCast]
    exact_mod_cast hle
  calc (m : ℚ) * 2 ^ e = ratioMantissa a b * 2 ^ ratioExponent a b := hvalue
    _ ≤ n * 2 ^ (j - ratioExponent a b) * 2 ^ ratioExponent a b := mul_le_mul_of_nonneg_right hcast (by positivity)
    _ = n * 2 ^ j := by
      rw [mul_assoc, ← zpow_add₀ two_ne_zero, sub_add_cancel, zpow_natCast]

/-- The magnitudes of rounded ratios are ordered as the ratios. -/
theorem ofRatio_mono (negative : Bool) {negative' : Bool} {m' : Nat} {e' : Int} {hcanonical' : CanonicalFloat m' e'} (hb : 0 < b) (hb' : 0 < b')
    (h : a * b' ≤ a' * b) (hfinite : ofRatio negative' a' b' = finite negative' m' e' hcanonical') :
    ∃ m e, ∃ hcanonical : CanonicalFloat m e,
      ofRatio negative a b = finite negative m e hcanonical ∧ (m : ℚ) * 2 ^ e ≤ m' * 2 ^ e' := by
  by_cases ha : a = 0
  · unfold ofRatio
    rw [if_pos ha]
    refine ⟨0, -1074, ⟨by decide, by decide, by decide, Or.inr rfl⟩, rfl, ?_⟩
    rw [Nat.cast_zero, zero_mul]
    positivity
  have ha' : a' ≠ 0 := by
    intro hzero
    rw [hzero, Nat.zero_mul] at h
    have := Nat.mul_pos (Nat.pos_of_ne_zero ha) hb'
    omega
  have hratio : (a : ℚ) / b ≤ a' / b' := by
    rw [div_le_div_iff₀ (by exact_mod_cast hb) (by exact_mod_cast hb')]
    exact_mod_cast h
  rw [ofRatio_eq ha'] at hfinite
  have hpacked : (pack negative' (ratioMantissa a' b') (ratioExponent a' b')).IsFinite := by
    rw [hfinite]
    trivial
  have hfits' : Fits (ratioMantissa a' b') (ratioExponent a' b') := fits_of_finite hpacked
  rcases ratioMantissa_bounds ha hb with ⟨hhigh, hlow⟩
  rcases ratioMantissa_bounds ha' hb' with ⟨hhigh', hlow'⟩
  have hsmallest : -1074 ≤ ratioExponent a b := le_max_left _ _
  have hvalue' : (m' : ℚ) * 2 ^ e' = ratioMantissa a' b' * 2 ^ ratioExponent a' b' := by
    rcases pack_fits negative' hhigh' hlow' (le_max_left _ _) hfits' with ⟨k, i, hk, hpack, hvalue⟩
    rw [hfinite] at hpack
    cases hpack
    exact hvalue
  have hexponents : floorLog2 a b ≤ floorLog2 a' b' := by
    have hbelow : (2 : ℚ) ^ floorLog2 a b < 2 ^ (floorLog2 a' b' + 1) :=
      ((floorLog2_le (Nat.pos_of_ne_zero ha) hb).trans hratio).trans_lt (lt_floorLog2 hb')
    have hlog := (zpow_lt_zpow_iff_right₀ (one_lt_two : (1 : ℚ) < 2)).1 hbelow
    omega
  have hexponents : ratioExponent a b ≤ ratioExponent a' b' := by
    unfold ratioExponent
    omega
  have hordered : (ratioMantissa a b : ℚ) * 2 ^ ratioExponent a b ≤ ratioMantissa a' b' * 2 ^ ratioExponent a' b' ∧
      Fits (ratioMantissa a b) (ratioExponent a b) := by
    rcases Int.lt_or_eq_of_le hexponents with hlt | heq
    · -- a smaller exponent, up to the power of two where the larger one starts
      have hpower : (2 : ℚ) ^ 53 * 2 ^ ratioExponent a b ≤ 2 ^ 52 * 2 ^ ratioExponent a' b' := by
        rw [← zpow_natCast (2 : ℚ) 53, ← zpow_natCast (2 : ℚ) 52, ← zpow_add₀ two_ne_zero, ← zpow_add₀ two_ne_zero]
        exact zpow_le_zpow_right₀ one_le_two (by push_cast; omega)
      have hfull : 2 ^ 52 ≤ ratioMantissa a' b' := by
        rcases hlow' with hfull | hleast
        · exact hfull
        · omega
      have hleft : (ratioMantissa a b : ℚ) ≤ 2 ^ 53 := by exact_mod_cast hhigh
      have hright : (2 : ℚ) ^ 52 ≤ ratioMantissa a' b' := by exact_mod_cast hfull
      constructor
      · calc (ratioMantissa a b : ℚ) * 2 ^ ratioExponent a b ≤ 2 ^ 53 * 2 ^ ratioExponent a b :=
              mul_le_mul_of_nonneg_right hleft (by positivity)
          _ ≤ 2 ^ 52 * 2 ^ ratioExponent a' b' := hpower
          _ ≤ _ := mul_le_mul_of_nonneg_right hright (by positivity)
      · exact .inl (by rcases hfits' with h | h <;> omega)
    · have hmantissa : ratioMantissa a b ≤ ratioMantissa a' b' := by
        unfold ratioMantissa
        rw [heq]
        refine roundDiv_mono (Nat.mul_pos hb (Nat.two_pow_pos _)) (Nat.mul_pos hb' (Nat.two_pow_pos _)) ?_
        calc a * 2 ^ (-ratioExponent a' b').toNat * (b' * 2 ^ (ratioExponent a' b').toNat)
            = a * b' * (2 ^ (-ratioExponent a' b').toNat * 2 ^ (ratioExponent a' b').toNat) := by ring
          _ ≤ a' * b * (2 ^ (-ratioExponent a' b').toNat * 2 ^ (ratioExponent a' b').toNat) := Nat.mul_le_mul_right _ h
          _ = _ := by ring
      have hcast : (ratioMantissa a b : ℚ) ≤ ratioMantissa a' b' := by exact_mod_cast hmantissa
      rw [heq]
      refine ⟨mul_le_mul_of_nonneg_right hcast (by positivity), ?_⟩
      rcases hfits' with h | h
      · exact .inl h
      · exact .inr ⟨h.1, by omega⟩
  rcases pack_fits negative hhigh hlow hsmallest hordered.2 with ⟨m, e, hcanonical, hpack, hvalue⟩
  refine ⟨m, e, hcanonical, (ofRatio_eq ha).trans hpack, ?_⟩
  rw [hvalue, hvalue']
  exact hordered.1

end Ratios

/-! ## Operations -/

section Operations

variable {f g : PyFloat} {x y : ℚ} {n j : Nat}

theorem value_zero (negative : Bool) : (zero negative).value = 0 := by
  unfold value
  rw [zero, toRat_zero_iff.2 rfl]
  rfl

/-- A finite float on the side of zero that a number is on, and within a bound. -/
structure Nearer (x bound : ℚ) (f : PyFloat) : Prop where
  finite : f.IsFinite
  nonneg : 0 ≤ x → 0 ≤ f.value
  nonpos : x ≤ 0 → f.value ≤ 0
  bound : |f.value| ≤ bound

theorem nearer_zero (negative : Bool) {bound : ℚ} (h : 0 ≤ bound) : Nearer x bound (zero negative) where
  finite := trivial
  nonneg := fun _ => (value_zero negative).ge
  nonpos := fun _ => (value_zero negative).le
  bound := by
    rw [value_zero, abs_zero]
    exact h

theorem abs_value_finite (negative : Bool) {m : Nat} {e : Int} (h : CanonicalFloat m e) :
    |(finite negative m e h).value| = (m : ℚ) * 2 ^ e := by
  have hnonneg : (0 : ℚ) ≤ m * 2 ^ e := by positivity
  unfold value
  rw [toRat_finite, Option.getD_some]
  cases negative with
  | true =>
    rw [if_pos rfl, abs_neg]
    exact abs_of_nonneg hnonneg
  | false => exact abs_of_nonneg hnonneg

theorem nearer_finite {bound : ℚ} {m : Nat} {e : Int} (hx : x ≠ 0) (h : CanonicalFloat m e)
    (hbound : (m : ℚ) * 2 ^ e ≤ bound) : Nearer x bound (PyFloat.finite (decide (x < 0)) m e h) := by
  have hmagnitude : (0 : ℚ) ≤ m * 2 ^ e := by positivity
  have hvalue : (PyFloat.finite (decide (x < 0)) m e h).value = if x < 0 then -((m : ℚ) * 2 ^ e) else m * 2 ^ e := by
    unfold value
    rw [toRat_finite, Option.getD_some]
    simp only [decide_eq_true_eq]
  refine ⟨trivial, ?_, ?_, by rw [abs_value_finite]; exact hbound⟩
  · intro hnonneg
    rw [hvalue, if_neg (not_lt.2 hnonneg)]
    exact hmagnitude
  · intro hnonpos
    rw [hvalue, if_pos (lt_of_le_of_ne hnonpos hx)]
    exact neg_nonpos.2 hmagnitude

theorem num_natAbs (x : ℚ) : (x.num.natAbs : ℚ) = |x| * x.den := by
  have hden : (0 : ℚ) < x.den := by exact_mod_cast x.den_pos
  rw [← magnitude x, div_mul_cancel₀ _ hden.ne']

/-- A float is nearest to its own value. -/
theorem nearest_value (hf : f.IsFinite) (hzero : f.value ≠ 0) : nearest f.value = f := by
  cases f with
  | nan => exact hf.elim
  | inf s => exact hf.elim
  | finite negative m e h =>
    have hm : m ≠ 0 := by
      rintro rfl
      refine hzero ?_
      unfold value
      rw [toRat_zero_iff.2 rfl]
      rfl
    have hpos : (0 : ℚ) < m * 2 ^ e := by
      have : (0 : ℚ) < m := by exact_mod_cast Nat.pos_of_ne_zero hm
      positivity
    have hsign : decide ((finite negative m e h).value < 0) = negative := by
      unfold value
      rw [toRat_finite, Option.getD_some]
      cases negative with
      | true =>
        rw [if_pos rfl, decide_eq_true_eq]
        exact neg_lt_zero.2 hpos
      | false => exact decide_eq_false (not_lt.2 hpos.le)
    have hratio : (finite negative m e h).value.num.natAbs * 2 ^ (-e).toNat =
        m * 2 ^ e.toNat * (finite negative m e h).value.den := by
      have hcast : ((finite negative m e h).value.num.natAbs : ℚ) * 2 ^ (-e).toNat =
          m * 2 ^ e.toNat * (finite negative m e h).value.den := by
        rw [num_natAbs, abs_value_finite, ← mul_two_pow_div]
        field_simp
      exact_mod_cast hcast
    unfold nearest
    rw [hsign, ofRatio_congr negative (finite negative m e h).value.den_pos (Nat.two_pow_pos _) hratio,
      ofRatio_finite negative hm h]

/-- Rounding does not pass a float. -/
theorem nearest_nearer (hn : n < 2 ^ 53) (hj : j ≤ 970) (hbound : |x| ≤ n * 2 ^ j) (hx : x ≠ 0) :
    Nearer x (n * 2 ^ j) (nearest x) := by
  have hratio : x.num.natAbs ≤ n * 2 ^ j * x.den := by
    have hle : (x.num.natAbs : ℚ) ≤ n * 2 ^ j * x.den := by
      rw [num_natAbs]
      exact mul_le_mul_of_nonneg_right hbound (Nat.cast_nonneg _)
    exact_mod_cast hle
  rcases ofRatio_bounds (decide (x < 0)) x.den_pos hn hj hratio with ⟨m, e, hcanonical, hread, hvalue⟩
  unfold nearest
  rw [hread]
  exact nearer_finite hx hcanonical hvalue

/-- The number of a small quotient. -/
theorem nearest_bounds (hlow : 0 ≤ x) (hhigh : x ≤ n) (hn : n < 2 ^ 53) :
    (nearest x).IsFinite ∧ 0 ≤ (nearest x).value ∧ (nearest x).value ≤ n := by
  rcases eq_or_ne x 0 with rfl | hne
  · have hzero : nearest 0 = zero false := rfl
    rw [hzero, value_zero]
    exact ⟨trivial, le_rfl, Nat.cast_nonneg n⟩
  · have hbound : |x| ≤ n * 2 ^ 0 := by
      rw [abs_of_nonneg hlow, pow_zero, mul_one]
      exact hhigh
    have hnearer := nearest_nearer hn (by omega) hbound hne
    have hvalue := hnearer.bound
    rw [pow_zero, mul_one] at hvalue
    exact ⟨hnearer.finite, hnearer.nonneg hlow, (le_abs_self _).trans hvalue⟩

/-- A smaller magnitude is rounded to a smaller one. -/
theorem nearest_mono (hle : |x| ≤ |y|) (hx : x ≠ 0) (hfinite : (nearest y).IsFinite) :
    Nearer x |(nearest y).value| (nearest x) := by
  have hy : y ≠ 0 := by
    rintro rfl
    rw [abs_zero] at hle
    exact hx (abs_nonpos_iff.1 hle)
  have hratio : x.num.natAbs * y.den ≤ y.num.natAbs * x.den := by
    have hcast : (x.num.natAbs : ℚ) * y.den ≤ y.num.natAbs * x.den := by
      rw [num_natAbs, num_natAbs]
      calc |x| * x.den * y.den ≤ |y| * x.den * y.den :=
            mul_le_mul_of_nonneg_right (mul_le_mul_of_nonneg_right hle (Nat.cast_nonneg _)) (Nat.cast_nonneg _)
        _ = |y| * y.den * x.den := by ring
    exact_mod_cast hcast
  have hshape : ∃ m e, ∃ h : CanonicalFloat m e, nearest y = PyFloat.finite (decide (y < 0)) m e h := by
    have hnonzero : y.num.natAbs ≠ 0 := Int.natAbs_ne_zero.2 (Rat.num_ne_zero.2 hy)
    unfold nearest at hfinite ⊢
    rw [ofRatio_eq hnonzero] at hfinite ⊢
    rcases ratioMantissa_bounds hnonzero y.den_pos with ⟨hhigh, hlow⟩
    rcases pack_fits (decide (y < 0)) hhigh hlow (le_max_left _ _) (fits_of_finite hfinite) with ⟨m, e, h, hpack, _⟩
    exact ⟨m, e, h, hpack⟩
  rcases hshape with ⟨m', e', hcanonical', hread'⟩
  rcases ofRatio_mono (decide (x < 0)) x.den_pos y.den_pos hratio hread' with ⟨m, e, hcanonical, hread, hbound⟩
  rw [hread', abs_value_finite]
  unfold nearest
  rw [hread]
  exact nearer_finite hx hcanonical hbound

/-- What is no less than a float is not rounded below it. -/
theorem value_le_nearest (hf : f.IsFinite) (hnonneg : 0 ≤ f.value) (hle : f.value ≤ x) (hfinite : (nearest x).IsFinite) :
    f.value ≤ (nearest x).value := by
  have hx : 0 ≤ x := hnonneg.trans hle
  rcases eq_or_ne x 0 with rfl | hne
  · have hzero : (nearest 0).value = 0 := value_zero false
    rw [hzero]
    exact hle
  have hself := nearest_mono (x := x) le_rfl hne hfinite
  rcases eq_or_ne f.value 0 with hzero | hpositive
  · rw [hzero]
    exact hself.nonneg hx
  · have habs : |f.value| ≤ |x| := by rwa [abs_of_nonneg hnonneg, abs_of_nonneg hx]
    have hbound := (nearest_mono habs hpositive hfinite).bound
    rwa [nearest_value hf hpositive, abs_of_nonneg hnonneg, abs_of_nonneg (hself.nonneg hx)] at hbound

/-- A number no less than the smallest float is not rounded to zero. -/
theorem nearest_not_isZero (hsmallest : 1 ≤ |x| * 2 ^ 1074) : ¬(nearest x).IsZero := by
  have hle : x.den ≤ x.num.natAbs * 2 ^ 1074 := by
    have hcast : (x.den : ℚ) ≤ x.num.natAbs * 2 ^ 1074 := by
      rw [num_natAbs, mul_right_comm]
      exact le_mul_of_one_le_left (Nat.cast_nonneg _) hsmallest
    exact_mod_cast hcast
  exact ofRatio_not_isZero _ x.den_pos hle

theorem mul_finite (hf : f.IsFinite) (hg : g.IsFinite) :
    f.mul g = if f.value * g.value = 0 then zero (f.sign != g.sign) else nearest (f.value * g.value) := by
  cases f with
  | nan => exact hf.elim
  | inf s => exact hf.elim
  | finite s m e h =>
    cases g with
    | nan => exact hg.elim
    | inf s' => exact hg.elim
    | finite s' m' e' h' => rfl

theorem add_finite (hf : f.IsFinite) (hg : g.IsFinite) :
    f.add g = if f.value + g.value = 0 then zero (f.sign && g.sign) else nearest (f.value + g.value) := by
  cases f with
  | nan => exact hf.elim
  | inf s => exact hf.elim
  | finite s m e h =>
    cases g with
    | nan => exact hg.elim
    | inf s' => exact hg.elim
    | finite s' m' e' h' => rfl

theorem mul_nearer (hf : f.IsFinite) (hg : g.IsFinite) (hn : n < 2 ^ 53) (hj : j ≤ 970)
    (hbound : |f.value * g.value| ≤ n * 2 ^ j) : Nearer (f.value * g.value) (n * 2 ^ j) (f.mul g) := by
  rw [mul_finite hf hg]
  split
  · exact nearer_zero _ (by positivity)
  · rename_i hzero
    exact nearest_nearer hn hj hbound hzero

theorem add_nearer (hf : f.IsFinite) (hg : g.IsFinite) (hn : n < 2 ^ 53) (hj : j ≤ 970)
    (hbound : |f.value + g.value| ≤ n * 2 ^ j) : Nearer (f.value + g.value) (n * 2 ^ j) (f.add g) := by
  rw [add_finite hf hg]
  split
  · exact nearer_zero _ (by positivity)
  · rename_i hzero
    exact nearest_nearer hn hj hbound hzero

theorem div_finite (hf : f.IsFinite) (hg : g.IsFinite) :
    f.div g = if f.value / g.value = 0 then zero (f.sign != g.sign) else nearest (f.value / g.value) := by
  cases f with
  | nan => exact hf.elim
  | inf s => exact hf.elim
  | finite s m e h =>
    cases g with
    | nan => exact hg.elim
    | inf s' => exact hg.elim
    | finite s' m' e' h' => rfl

/-- A smaller product is rounded to a smaller float. -/
theorem mul_mono {f' g' : PyFloat} (hf : f.IsFinite) (hg : g.IsFinite) (hf' : f'.IsFinite) (hg' : g'.IsFinite)
    (hle : |f.value * g.value| ≤ |f'.value * g'.value|) (hfinite : (f'.mul g').IsFinite) :
    Nearer (f.value * g.value) |(f'.mul g').value| (f.mul g) := by
  rw [mul_finite hf hg]
  by_cases hzero : f.value * g.value = 0
  · rw [if_pos hzero]
    exact nearer_zero _ (abs_nonneg _)
  · have hzero' : f'.value * g'.value ≠ 0 := by
      intro hzero'
      rw [hzero', abs_zero] at hle
      exact hzero (abs_nonpos_iff.1 hle)
    rw [mul_finite hf' hg', if_neg hzero'] at hfinite ⊢
    rw [if_neg hzero]
    exact nearest_mono hle hzero hfinite

end Operations

/-! ## Small integers -/

/-- Small integers are floats. -/
theorem toFloat_natCast {n : Nat} (h : n < 2 ^ 53) :
    ∃ f, Num.toFloat (.int n) = .ok f ∧ f.IsFinite ∧ f.value = n := by
  rcases toRat_ofInt h with ⟨f, hf, hvalue⟩
  refine ⟨f, Num.toFloat_some hf, ?_, ?_⟩
  · cases f with
    | nan => nomatch hvalue
    | inf s => nomatch hvalue
    | finite s m e h => trivial
  · unfold value
    rw [hvalue]
    rfl

theorem ofRatio_ne_nan (negative : Bool) (a b : Nat) : ofRatio negative a b ≠ nan := by
  unfold ofRatio
  split
  · rintro ⟨⟩
  dsimp only
  unfold pack
  split
  · rintro ⟨⟩
  split
  · rintro ⟨⟩
  · rintro ⟨⟩

/-- `float(n)` is the nearest float. -/
theorem toFloat_int {n : Int} {f : PyFloat} (h : Num.toFloat (.int n) = .ok f) : f = nearest n ∧ f.IsFinite := by
  have hnearest : nearest n = ofRatio (decide (n < 0)) n.natAbs 1 := by
    unfold nearest
    rw [Rat.num_intCast, Rat.den_intCast, decide_eq_decide.2 Int.cast_lt_zero]
  rw [hnearest]
  unfold Num.toFloat ofInt at h
  dsimp only at h
  cases hread : ofRatio (decide (n < 0)) n.natAbs 1 with
  | nan => exact absurd hread (ofRatio_ne_nan _ _ _)
  | inf s =>
    rw [hread] at h
    cases h
  | finite s m e hcanonical =>
    rw [hread] at h
    cases h
    exact ⟨rfl, trivial⟩

/-- The float of a positive integer is at least one. -/
theorem one_le_toFloat {n : Int} {f : PyFloat} (hn : 1 ≤ n) (h : Num.toFloat (.int n) = .ok f) :
    f.IsFinite ∧ 1 ≤ f.value := by
  obtain ⟨rfl, hfinite⟩ := toFloat_int h
  obtain ⟨one, -, hone, hvalue⟩ := toFloat_natCast (n := 1) (by decide)
  rw [Nat.cast_one] at hvalue
  refine ⟨hfinite, ?_⟩
  have hle : (1 : ℚ) ≤ n := by exact_mod_cast hn
  rw [← hvalue] at hle ⊢
  exact value_le_nearest hone (by rw [hvalue]; exact zero_le_one) hle hfinite

/-- A quotient by a small count exists. -/
theorem exists_divNat (f : PyFloat) {n : Nat} (hpos : 0 < n) (h : n < 2 ^ 53) : ∃ quotient, f.divNat n = .ok quotient := by
  rcases toFloat_natCast h with ⟨divisor, hdivisor, hfinite, hvalue⟩
  have hnonzero : ¬divisor.IsZero := by
    intro hzero
    have hnone : divisor.value = 0 := by
      cases divisor with
      | nan => exact hzero.elim
      | inf s => exact hzero.elim
      | finite s m e hcanonical =>
        unfold value
        rw [toRat_zero_iff.2 hzero]
        rfl
    rw [hvalue] at hnone
    have : n = 0 := by exact_mod_cast hnone
    omega
  refine exists_bind_ok hdivisor ?_
  rw [if_neg hnonzero]
  exact ⟨_, rfl⟩

end PyFloat

end LeoFlow
