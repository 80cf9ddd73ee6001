import LeoFlow.Core.FloatBounds
import LeoFlow.Core.JsonNumber

/-!
# LeoFlow.Core.NumberLayout — the layout of a number in canonical JSON

`_ecmascript_number` moves the decimal point in the digits that `repr` prints. The token denotes
the same number, has an exponent outside of `10 ^ -6 .. 10 ^ 21` only, and no superfluous zeros.
-/

namespace LeoFlow

namespace PyFloat

/-! ## The digits of repr -/

/-- No zero is left at the end when the fuel covers the digits. -/
theorem stripZeros_mod {fuel d : Nat} {k : Int} (hd : d ≠ 0) (hfuel : d < 10 ^ fuel) : (stripZeros fuel (d, k)).1 % 10 ≠ 0 := by
  induction fuel generalizing d k with
  | zero => omega
  | succ fuel ih =>
    unfold stripZeros
    split
    · rename_i h
      rw [pow_succ] at hfuel
      exact ih (by omega) (by omega)
    · rename_i h
      exact fun hmod => h ⟨hd, hmod⟩

theorem shortestDecimal_ne_zero {m : Nat} {e : Int} (hm : m ≠ 0) (h : CanonicalFloat m e) :
    (shortestDecimal m e (finite false m e h)).1 ≠ 0 := by
  intro hzero
  have hread := shortestDecimal_reads hm h
  rw [hzero] at hread
  simp only [ofDecimal, zero_mul, ofRatio, if_pos, zero, finite.injEq, true_and] at hread
  exact hm hread.1.symm

/-- The printed digits do not end in a zero. -/
theorem printed_mod {m : Nat} {e : Int} (hm : m ≠ 0) (h : CanonicalFloat m e) : (printed m e h).1 % 10 ≠ 0 :=
  stripZeros_mod (shortestDecimal_ne_zero hm h) (Json.lt_ten_pow_log2 _)

/-- A number as a ratio. -/
theorem decimal_ratio (d : Nat) (k : Int) : ((d * 10 ^ k.toNat : Nat) : ℚ) / (10 ^ (-k).toNat : Nat) = d * 10 ^ k := by
  push_cast
  rcases Int.le_total 0 k with hk | hk
  · obtain ⟨n, rfl⟩ := Int.eq_ofNat_of_zero_le hk
    have hnone : (-(n : Int)).toNat = 0 := by omega
    rw [hnone, pow_zero, div_one, zpow_natCast, Int.toNat_natCast]
  · obtain ⟨n, hn⟩ := Int.eq_ofNat_of_zero_le (Int.neg_nonneg_of_nonpos hk)
    obtain rfl : k = -(n : Int) := by omega
    have hnone : (-(n : Int)).toNat = 0 := by omega
    rw [hnone, neg_neg, Int.toNat_natCast, pow_zero, mul_one, zpow_neg, zpow_natCast, div_eq_mul_inv]

/-- Equal decimals are read alike. -/
theorem ofDecimal_congr (negative : Bool) {d d' : Nat} {k k' : Int} (h : (d : ℚ) * 10 ^ k = d' * 10 ^ k') :
    ofDecimal negative d k = ofDecimal negative d' k' := by
  have hten : (10 : ℚ) ≠ 0 := by norm_num
  have hle : ∀ {d d' : Nat} {k k' : Int}, k ≤ k' → (d : ℚ) * 10 ^ k = d' * 10 ^ k' → ofDecimal negative d k = ofDecimal negative d' k' := by
    intro d d' k k' hle h
    have hd : d = d' * 10 ^ (k' - k).toNat := by
      have hcast : (d : ℚ) = d' * 10 ^ (k' - k) := by
        rw [zpow_sub₀ hten, ← mul_div_assoc, ← h, mul_div_assoc, div_self (zpow_ne_zero _ hten), mul_one]
      rw [← Int.toNat_of_nonneg (by omega : 0 ≤ k' - k), zpow_natCast] at hcast
      exact_mod_cast hcast
    rw [hd, ofDecimal_mul_pow]
    congr 1
    omega
  rcases le_total k k' with hk | hk
  · exact hle hk h
  · exact (hle hk h.symm).symm

/-- A larger decimal is not read as a smaller float. -/
theorem ofDecimal_mono {d d' m m' : Nat} {k k' e e' : Int} {h : CanonicalFloat m e} {h' : CanonicalFloat m' e'} {s s' : Bool}
    (hle : (d : ℚ) * 10 ^ k ≤ d' * 10 ^ k') (hread : ofDecimal s d k = finite s m e h)
    (hread' : ofDecimal s' d' k' = finite s' m' e' h') : (m : ℚ) * 2 ^ e ≤ m' * 2 ^ e' := by
  rw [← decimal_ratio, ← decimal_ratio, div_le_div_iff₀ (by positivity) (by positivity)] at hle
  have hratio : d * 10 ^ k.toNat * 10 ^ (-k').toNat ≤ d' * 10 ^ k'.toNat * 10 ^ (-k).toNat := by exact_mod_cast hle
  obtain ⟨m₁, e₁, h₁, hread₁, hbound⟩ := ofRatio_mono s (Nat.pow_pos (by decide)) (Nat.pow_pos (by decide)) hratio hread'
  unfold ofDecimal at hread
  rw [hread₁] at hread
  cases hread
  exact hbound

theorem scaled_eq {m : Nat} {e : Int} (he : -1074 ≤ e) : (scaled m e : ℚ) = m * 2 ^ e * 2 ^ 1074 := by
  unfold scaled
  have hexp : ((e + 1074).toNat : Int) = e + 1074 := by omega
  push_cast
  rw [← zpow_natCast, hexp, zpow_add₀ two_ne_zero, mul_assoc]
  norm_cast

/-- The order of finite magnitudes. -/
theorem scaled_le_iff {m m' : Nat} {e e' : Int} (h : CanonicalFloat m e) (h' : CanonicalFloat m' e') :
    scaled m e ≤ scaled m' e' ↔ (m : ℚ) * 2 ^ e ≤ m' * 2 ^ e' := by
  rw [← Nat.cast_le (α := ℚ), scaled_eq h.2.1, scaled_eq h'.2.1]
  exact mul_le_mul_iff_of_pos_right (by positivity)

/-- The decimal that `repr` prints of a float that is not zero. -/
def printedOf : PyFloat → Nat × Int
  | finite _ m e h => printed m e h
  | _ => (0, 0)

/-- The limits of positional notation are printed as themselves. -/
theorem limit_ok {k : Int} (hk : k = -6 ∨ k = 21) :
    ∃ m e, ∃ h : CanonicalFloat m e, ofDecimal false 1 k = finite false m e h ∧ printed m e h = (1, k) := by
  have hlimit : (ofDecimal false 1 k).IsFinite ∧ (ofDecimal false 1 k).IsPositive ∧ printedOf (ofDecimal false 1 k) = (1, k) := by
    rcases hk with rfl | rfl
    · decide +kernel
    · decide +kernel
  obtain ⟨hfinite, hpositive, hprinted⟩ := hlimit
  cases hread : ofDecimal false 1 k with
  | nan =>
    rw [hread] at hfinite
    exact hfinite.elim
  | inf s =>
    rw [hread] at hfinite
    exact hfinite.elim
  | finite s m e h =>
    rw [hread] at hpositive hprinted
    obtain ⟨hs, -⟩ := hpositive
    subst hs
    exact ⟨m, e, h, rfl, hprinted⟩

section Limits

variable {m m' : Nat} {e e' k : Int} {h : CanonicalFloat m e} {h' : CanonicalFloat m' e'}

/-- A float of the same magnitude is the same. -/
theorem eq_of_magnitude (hm : m ≠ 0) (heq : (m : ℚ) * 2 ^ e = m' * 2 ^ e') : finite false m e h = finite false m' e' h' := by
  have hpositive : (0 : ℚ) < m * 2 ^ e := by
    have : (0 : ℚ) < m := by exact_mod_cast Nat.pos_of_ne_zero hm
    positivity
  refine eq_of_toRat (x := m * 2 ^ e) ?_ ?_ hpositive.ne'
  · rw [toRat_finite]
    rfl
  · rw [toRat_finite, heq]
    rfl

/-- A float is below a limit exactly when the decimal that `repr` prints is. -/
theorem lt_limit_iff (hm : m ≠ 0) (hread : ofDecimal false 1 k = finite false m' e' h') (hprinted : printed m' e' h' = (1, k)) :
    (m : ℚ) * 2 ^ e < m' * 2 ^ e' ↔ ((printed m e h).1 : ℚ) * 10 ^ (printed m e h).2 < 10 ^ k := by
  have hself := ofDecimal_printed false hm h
  constructor
  · -- a decimal above the limit is not read as a float below it
    intro hlt
    by_contra hge
    have hle : ((1 : Nat) : ℚ) * 10 ^ k ≤ (printed m e h).1 * 10 ^ (printed m e h).2 := by
      rw [Nat.cast_one, one_mul]
      exact not_lt.1 hge
    exact absurd (ofDecimal_mono hle hread hself) (not_le.2 hlt)
  · intro hlt
    by_contra hge
    have hle : ((printed m e h).1 : ℚ) * 10 ^ (printed m e h).2 ≤ (1 : Nat) * 10 ^ k := by
      rw [Nat.cast_one, one_mul]
      exact hlt.le
    have heq : finite false m e h = finite false m' e' h' :=
      eq_of_magnitude hm (le_antisymm (ofDecimal_mono hle hself hread) (not_lt.1 hge))
    -- the limit itself is printed as the limit
    cases heq
    rw [hprinted, Nat.cast_one, one_mul] at hlt
    exact lt_irrefl _ hlt

end Limits

/-- The comparison of the float with the limits is that of the printed decimal. -/
theorem between_iff {m : Nat} {e : Int} (hm : m ≠ 0) (h : CanonicalFloat m e) : Between (ofDecimal false 1 (-6)) (ofDecimal false 1 21) m e ↔
    (10 : ℚ) ^ (-6 : Int) ≤ (printed m e h).1 * 10 ^ (printed m e h).2 ∧
      ((printed m e h).1 : ℚ) * 10 ^ (printed m e h).2 < 10 ^ (21 : Int) := by
  obtain ⟨ml, el, hl, hlowread, hlowprinted⟩ := limit_ok (Or.inl rfl)
  obtain ⟨mh, eh, hh, hhighread, hhighprinted⟩ := limit_ok (Or.inr rfl)
  rw [hlowread, hhighread, ← lt_limit_iff hm hhighread hhighprinted, ← not_lt, ← lt_limit_iff hm hlowread hlowprinted, not_lt,
    ← scaled_le_iff hl h, ← not_le, ← scaled_le_iff hh h, not_le]
  exact Iff.rfl

end PyFloat

namespace Json

/-! ## The layout of a token -/

/-- The number `0.ds * 10 ^ decpt` -/
def decimalValue (ds : PyStr) (decpt : Int) : ℚ := digitsValue ds * 10 ^ (decpt - ds.length)

/-- The number that a token denotes. -/
def Numeral.value (n : Numeral) : ℚ := n.mantissa * 10 ^ n.scale

/-- No superfluous zeros: none ends a fraction or starts an exponent, and before an exponent stands one digit that is not zero. -/
structure Numeral.Tight (n : Numeral) : Prop where
  fraction : ∀ ds ∈ n.fraction, ds.getLast? ≠ some 48
  exponent : ∀ x ∈ n.exponent, x.2.head? ≠ some 48 ∧ n.whole.length = 1 ∧ n.whole ≠ [48]

/-- The text lays out the digits, with an exponent or without. -/
def LaysOut (ds : PyStr) (decpt : Int) (positional : Prop) (text : PyStr) : Prop :=
  ∃ n : Numeral, text = n.text ∧ n.value = decimalValue ds decpt ∧ (n.exponent = none ↔ positional) ∧ n.Tight

/-- A whole part that is not zero bounds the number from below. -/
theorem Numeral.pow_le_value {n : Numeral} (hexponent : n.exponent = none) (hwhole : n.whole ≠ [48]) :
    (10 : ℚ) ^ ((n.whole.length : Int) - 1) ≤ n.value := by
  obtain ⟨c, rest, hcons, hc⟩ := n.head_whole.resolve_left hwhole
  have hdigits : AllDigits (n.whole ++ n.fraction.getD []) := by
    refine allDigits_append n.allDigits_whole ?_
    cases hfraction : n.fraction with
    | none => exact fun _ hmem => absurd hmem List.not_mem_nil
    | some ds => exact (n.fraction_ok ds hfraction).2
  have hlow : 10 ^ (rest ++ n.fraction.getD []).length ≤ n.mantissa := by
    unfold Numeral.mantissa
    rw [hcons, List.cons_append] at hdigits ⊢
    exact pow_le_digitsValue hdigits hc
  have hcast : ((10 ^ (rest ++ n.fraction.getD []).length : Nat) : ℚ) ≤ n.mantissa := by exact_mod_cast hlow
  have hscale : n.scale = -((n.fraction.getD []).length : Int) := by
    unfold Numeral.scale Numeral.exponentValue
    rw [hexponent]
    exact zero_sub _
  unfold Numeral.value
  calc (10 : ℚ) ^ ((n.whole.length : Int) - 1)
      = ((10 ^ (rest ++ n.fraction.getD []).length : Nat) : ℚ) * 10 ^ n.scale := by
        rw [Nat.cast_pow, ← zpow_natCast, Nat.cast_ofNat, ← zpow_add₀ (by norm_num), hcons, hscale, List.length_append, List.length_cons]
        congr 1
        push_cast
        ring
    _ ≤ n.mantissa * 10 ^ n.scale := mul_le_mul_of_nonneg_right hcast (by positivity)

theorem value_of_mul {n : Numeral} {ds : PyStr} {decpt : Int} (j : Nat) (hm : n.mantissa = digitsValue ds * 10 ^ j)
    (hs : n.scale = decpt - ds.length - j) : n.value = decimalValue ds decpt := by
  unfold Numeral.value decimalValue
  rw [hm, hs, zpow_sub₀ (by norm_num), zpow_natCast]
  push_cast
  field_simp

/-- A string of digits that does not end in a zero. -/
structure Trimmed (ds : PyStr) : Prop extends Significant ds where
  last : ds.getLast? ≠ some 48

namespace Trimmed

variable {ds : PyStr}

theorem drop (h : Trimmed ds) {i : Nat} (hi : i < ds.length) : (ds.drop i).getLast? ≠ some 48 := by
  rw [List.getLast?_drop, if_neg (by omega)]
  exact h.last

theorem drop_ne (h : Trimmed ds) (i : Nat) : ds.drop i ≠ [48] := by
  intro heq
  have hlast := h.drop (i := i) (by
    by_contra hi
    rw [List.drop_eq_nil_of_le (by omega)] at heq
    cases heq)
  rw [heq] at hlast
  exact hlast rfl

/-- The digits of a number that is no multiple of ten. -/
theorem natStr {n : Nat} (hn : n % 10 ≠ 0) : Trimmed (PyFloat.natStr n) where
  toSignificant := Significant.natStr (by omega)
  last := by
    intro hlast
    obtain ⟨init, hinit⟩ := List.getLast?_eq_some_iff.1 hlast
    have hvalue := digitsValue_natStr n
    rw [hinit, digitsValue_append] at hvalue
    have hlen : ([48] : PyStr).length = 1 := rfl
    have hzero : digitsValue [48] = 0 := rfl
    rw [hlen, hzero, pow_one] at hvalue
    omega

end Trimmed

/-- Positional notation of digits that do not end in a zero. -/
theorem fixedText_laysOut {ds : PyStr} (h : Trimmed ds) (decpt : Int) : LaysOut ds decpt True (fixedText ds decpt) := by
  have hpos := h.length_pos
  have hne : ds ≠ [] := List.ne_nil_of_length_pos hpos
  unfold fixedText
  split
  · -- `0.000ds`
    rename_i hdecpt
    have hfrac : AllDigits (List.replicate (-decpt).toNat 48 ++ ds) :=
      allDigits_append (allDigits_zeros _) h.allDigits
    refine ⟨⟨[48], some (List.replicate (-decpt).toNat 48 ++ ds), none, allDigits_zeros 1, Or.inl rfl,
      ?_, by simp⟩, ?_, ?_, ?_, ?_, ?_⟩
    · intro _ hx
      cases hx
      exact ⟨by simp [hne], hfrac⟩
    · simp [Numeral.text, Numeral.fractionText, Numeral.exponentText]
    · refine value_of_mul 0 ?_ ?_
      · simp [Numeral.mantissa, digitsValue_append, digitsValue_cons]
      · simp [Numeral.scale, Numeral.exponentValue]
        omega
    · simp
    · intro _ hx
      cases hx
      rw [List.getLast?_append_of_ne_nil _ hne]
      exact h.last
    · simp
  split
  · -- `ds000`
    rename_i hdecpt hlen
    obtain ⟨c, rest, hcons, hc⟩ := h.head
    refine ⟨⟨ds ++ List.replicate (decpt.toNat - ds.length) 48, none, none,
      allDigits_append h.allDigits (allDigits_zeros _), Or.inr ?_, by simp,
      by simp⟩, ?_, ?_, ?_, ?_, ?_⟩
    · exact ⟨c, _, by rw [hcons, List.cons_append], hc⟩
    · simp [Numeral.text, Numeral.fractionText, Numeral.exponentText]
    · refine value_of_mul (decpt.toNat - ds.length) ?_ ?_
      · simp [Numeral.mantissa, digitsValue_append]
      · simp [Numeral.scale, Numeral.exponentValue]
        omega
    · simp
    · simp
    · simp
  · -- `d.ds`
    rename_i hdecpt hlen
    refine ⟨⟨ds.take decpt.toNat, some (ds.drop decpt.toNat), none, h.allDigits_take _,
      Or.inr (h.take_head (by omega)), ?_, by simp⟩, ?_, ?_, ?_, ?_, ?_⟩
    · intro _ hx
      cases hx
      exact ⟨by simpa using hlen, h.allDigits_drop _⟩
    · simp [Numeral.text, Numeral.fractionText, Numeral.exponentText]
    · refine value_of_mul 0 ?_ ?_
      · simp [Numeral.mantissa]
      · simp [Numeral.scale, Numeral.exponentValue]
        omega
    · simp
    · intro _ hx
      cases hx
      exact h.drop (by omega)
    · simp

/-- The digits of scientific notation lose nothing. -/
theorem removePointZero_mantissaText {ds : PyStr} (h : Trimmed ds) (negative : Bool) :
    removePointZero (signText negative ++ mantissaText ds) = signText negative ++ mantissaText ds := by
  unfold mantissaText
  split
  · rename_i hlen
    have hne : ds.drop 1 ≠ [] := List.ne_nil_of_length_pos (by simpa using hlen)
    have hstrip := removePointZero_fraction (signText negative ++ ds.take 1) (h.allDigits_drop 1) hne
    rw [if_neg (h.drop_ne 1)] at hstrip
    rw [← List.append_assoc, hstrip]
  · refine removePointZero_of_not_mem fun hmem => ?_
    rw [List.append_nil] at hmem
    rcases List.mem_append.1 hmem with hsign | hdigit
    · exact not_mem_signText negative (by decide) hsign
    · exact not_mem_of_allDigits (h.allDigits_take 1) (by decide) hdigit

/-- Scientific notation of digits that do not end in a zero, with an exponent that is not zero. -/
theorem scientific_laysOut {ds : PyStr} (h : Trimmed ds) {decpt : Int} (hexponent : decpt - 1 ≠ 0) :
    LaysOut ds decpt False (mantissaText ds ++
      101 :: ((if 0 ≤ decpt - 1 then [43] else [45]) ++ PyFloat.natStr (decpt - 1).natAbs)) := by
  have hpos := h.length_pos
  have hexp : ∀ x ∈ some (decide (decpt - 1 < 0), PyFloat.natStr (decpt - 1).natAbs), x.2 ≠ [] ∧ AllDigits x.2 := by
    intro x hx
    cases hx
    exact ⟨natStr_ne_nil _, allDigits_natStr _⟩
  have hsign : (if 0 ≤ decpt - 1 then [43] else [45]) = [if decide (decpt - 1 < 0) then 45 else 43] := by
    by_cases hneg : decpt - 1 < 0
    · rw [if_neg (by omega), decide_eq_true hneg, if_pos rfl]
    · rw [if_pos (by omega), decide_eq_false hneg, if_neg (by decide)]
  have hwhole := h.take_head Nat.one_pos
  have hlen1 : (ds.take 1).length = 1 := by
    rw [List.length_take]
    omega
  have hnotzero : ds.take 1 ≠ [48] := by
    obtain ⟨c, rest, hcons, hc⟩ := hwhole
    rw [hcons]
    exact fun heq => hc (List.cons.inj heq).1
  have htight : ∀ x ∈ some (decide (decpt - 1 < 0), PyFloat.natStr (decpt - 1).natAbs),
      x.2.head? ≠ some 48 ∧ (ds.take 1).length = 1 ∧ ds.take 1 ≠ [48] := by
    intro x hx
    cases hx
    obtain ⟨c, rest, hcons, hc⟩ := natStr_head (Int.natAbs_ne_zero.2 hexponent)
    rw [hcons]
    exact ⟨fun heq => hc (Option.some.inj heq), hlen1, hnotzero⟩
  unfold mantissaText
  split
  · rename_i hlen
    have hne : ds.drop 1 ≠ [] := List.ne_nil_of_length_pos (by simpa using hlen)
    have hjoin : ds.take 1 ++ ds.drop 1 = ds := List.take_append_drop 1 ds
    refine ⟨⟨ds.take 1, some (ds.drop 1), some (decide (decpt - 1 < 0), PyFloat.natStr (decpt - 1).natAbs),
      h.allDigits_take 1, Or.inr hwhole, ?_, hexp⟩, ?_, ?_, by simp, ?_, htight⟩
    · intro _ hx
      cases hx
      exact ⟨hne, h.allDigits_drop 1⟩
    · rw [hsign]
      simp [Numeral.text, Numeral.fractionText, Numeral.exponentText]
    · refine value_of_mul 0 ?_ ?_
      · simp only [Numeral.mantissa, Option.getD_some, hjoin, pow_zero, mul_one]
      · simp only [Numeral.scale, Numeral.exponentValue, Option.map_some, Option.getD_some, signed_natStr, List.length_drop]
        show decpt - 1 - ((ds.length - 1 : Nat) : Int) = decpt - (ds.length : Int) - ((0 : Nat) : Int)
        omega
    · intro _ hx
      cases hx
      exact h.drop hlen
  · rename_i hlen
    have hall : ds.take 1 = ds := List.take_of_length_le (by omega)
    refine ⟨⟨ds.take 1, none, some (decide (decpt - 1 < 0), PyFloat.natStr (decpt - 1).natAbs),
      h.allDigits_take 1, Or.inr hwhole, by simp, hexp⟩, ?_, ?_, by simp, by simp, htight⟩
    · rw [hsign]
      simp [Numeral.text, Numeral.fractionText, Numeral.exponentText]
    · refine value_of_mul 0 ?_ ?_
      · simp [Numeral.mantissa, hall]
      · simp only [Numeral.scale, Numeral.exponentValue, Option.map_some, Option.getD_some, Option.getD_none,
          List.length_nil, signed_natStr]
        show decpt - 1 - ((0 : Nat) : Int) = decpt - (ds.length : Int) - ((0 : Nat) : Int)
        omega

/-- Fixed `repr` of digits that do not end in a zero, without its `.0`. -/
theorem removePointZero_fixed {ds : PyStr} (h : Trimmed ds) {decpt : Int} (hfixed : ¬(decpt ≤ -4 ∨ 16 < decpt))
    (negative : Bool) :
    removePointZero (signText negative ++ PyFloat.formatDigits ds decpt) = signText negative ++ fixedText ds decpt := by
  unfold PyFloat.formatDigits fixedText
  rw [if_neg hfixed]
  split
  · -- `0.000ds`
    have hfrac : AllDigits (List.replicate (-decpt).toNat 48 ++ ds) := allDigits_append (allDigits_zeros _) h.allDigits
    have hnil : List.replicate (-decpt).toNat 48 ++ ds ≠ [] := by
      simp [List.ne_nil_of_length_pos h.length_pos]
    have hne : List.replicate (-decpt).toNat 48 ++ ds ≠ [48] := by
      intro heq
      have hlast : (List.replicate (-decpt).toNat 48 ++ ds).getLast? ≠ some 48 := by
        rw [List.getLast?_append_of_ne_nil _ (List.ne_nil_of_length_pos h.length_pos)]
        exact h.last
      rw [heq] at hlast
      exact hlast rfl
    have hstrip := removePointZero_fraction (signText negative ++ [48]) hfrac hnil
    rw [if_neg hne] at hstrip
    simpa using hstrip
  split
  · -- `ds000.0`
    have hstrip := removePointZero_fraction (signText negative ++ (ds ++ List.replicate (decpt.toNat - ds.length) 48))
      (f := [48]) (allDigits_zeros 1) (by decide)
    rw [if_pos rfl] at hstrip
    simpa using hstrip
  · -- `d.ds`
    rename_i hdecpt hlen
    have hne : ds.drop decpt.toNat ≠ [] := by simpa using hlen
    have hstrip := removePointZero_fraction (signText negative ++ ds.take decpt.toNat) (h.allDigits_drop decpt.toNat) hne
    rw [if_neg (h.drop_ne _)] at hstrip
    simpa using hstrip

/-! ## The text of a float -/

/-- The digits lie between two powers of ten. -/
theorem decimalValue_bounds {ds : PyStr} (h : Significant ds) (decpt : Int) :
    (10 : ℚ) ^ (decpt - 1) ≤ decimalValue ds decpt ∧ decimalValue ds decpt < 10 ^ decpt := by
  obtain ⟨c, rest, rfl, hc⟩ := h.head
  have hlow : ((10 ^ rest.length : Nat) : ℚ) ≤ digitsValue (c :: rest) := by exact_mod_cast pow_le_digitsValue h.allDigits hc
  have hhigh : (digitsValue (c :: rest) : ℚ) < ((10 ^ (rest.length + 1) : Nat) : ℚ) := by exact_mod_cast digitsValue_lt h.allDigits
  have hscale : (0 : ℚ) < 10 ^ (decpt - ((c :: rest).length : Int)) := by positivity
  have hten : (10 : ℚ) ≠ 0 := by norm_num
  unfold decimalValue
  constructor
  · calc (10 : ℚ) ^ (decpt - 1) = ((10 ^ rest.length : Nat) : ℚ) * 10 ^ (decpt - ((c :: rest).length : Int)) := by
          rw [Nat.cast_pow, ← zpow_natCast, Nat.cast_ofNat, ← zpow_add₀ hten]
          congr 1
          rw [List.length_cons]
          push_cast
          ring
      _ ≤ _ := mul_le_mul_of_nonneg_right hlow hscale.le
  · calc (digitsValue (c :: rest) : ℚ) * 10 ^ (decpt - ((c :: rest).length : Int))
        < ((10 ^ (rest.length + 1) : Nat) : ℚ) * 10 ^ (decpt - ((c :: rest).length : Int)) := mul_lt_mul_of_pos_right hhigh hscale
      _ = 10 ^ decpt := by
          rw [Nat.cast_pow, ← zpow_natCast, Nat.cast_ofNat, ← zpow_add₀ hten]
          congr 1
          rw [List.length_cons]
          push_cast
          ring

/-- The magnitude is in the range of positional notation. -/
def InRange (x : ℚ) : Prop := (10 : ℚ) ^ (-6 : Int) ≤ x ∧ x < 10 ^ (21 : Int)

theorem inRange_iff {ds : PyStr} (h : Significant ds) (decpt : Int) : InRange (decimalValue ds decpt) ↔ -6 < decpt ∧ decpt ≤ 21 := by
  obtain ⟨hlow, hhigh⟩ := decimalValue_bounds h decpt
  have hten : (1 : ℚ) < 10 := by norm_num
  constructor
  · rintro ⟨hbelow, habove⟩
    have hexp := (zpow_lt_zpow_iff_right₀ hten).1 (hbelow.trans_lt hhigh)
    have hexp' := (zpow_lt_zpow_iff_right₀ hten).1 (hlow.trans_lt habove)
    omega
  · rintro ⟨hbelow, habove⟩
    exact ⟨(zpow_le_zpow_right₀ hten.le (by omega)).trans hlow, hhigh.trans_le (zpow_le_zpow_right₀ hten.le habove)⟩

/-- The digits of the `repr` of a finite float, and where the decimal point stands before or after them. -/
def reprDigits : PyFloat → PyStr × Int
  | .finite _ m e h =>
    if m = 0 then ([48], 1)
    else (PyFloat.natStr (PyFloat.printed m e h).1, (PyFloat.natStr (PyFloat.printed m e h).1).length + (PyFloat.printed m e h).2)
  | _ => ([], 0)

/-- The magnitude that the `repr` of a finite float denotes. -/
def reprValue (f : PyFloat) : ℚ := decimalValue (reprDigits f).1 (reprDigits f).2

section Layout

variable {negative : Bool} {m : Nat} {e : Int}

theorem reprDigits_of_ne (hm : m ≠ 0) (h : CanonicalFloat m e) : reprDigits (.finite negative m e h) =
    (PyFloat.natStr (PyFloat.printed m e h).1, (PyFloat.natStr (PyFloat.printed m e h).1).length + (PyFloat.printed m e h).2) :=
  if_neg hm

theorem reprValue_of_ne (hm : m ≠ 0) (h : CanonicalFloat m e) :
    reprValue (.finite negative m e h) = (PyFloat.printed m e h).1 * 10 ^ (PyFloat.printed m e h).2 := by
  unfold reprValue decimalValue
  rw [reprDigits_of_ne hm h, digitsValue_natStr]
  dsimp only
  rw [add_sub_cancel_left]

/-- Zero is laid out as one digit. -/
theorem zero_laysOut (negative : Bool) (h : CanonicalFloat 0 e) : reprValue (.finite negative 0 e h) = 0 ∧ LaysOut [48] 1 True (str "0") := by
  have hvalue : decimalValue [48] 1 = 0 := by
    have hzero : digitsValue [48] = 0 := rfl
    unfold decimalValue
    rw [hzero, Nat.cast_zero, zero_mul]
  refine ⟨hvalue, ⟨[48], none, none, allDigits_zeros 1, Or.inl rfl, by simp, by simp⟩, rfl, ?_, by simp, by simp, by simp⟩
  rw [hvalue]
  unfold Numeral.value
  have hzero : digitsValue ([48] ++ (none : Option PyStr).getD []) = 0 := rfl
  unfold Numeral.mantissa
  rw [hzero, Nat.cast_zero, zero_mul]

/-- The token of a float that is not zero. -/
theorem ecmascriptNumber_of_ne (negative : Bool) (hm : m ≠ 0) (h : CanonicalFloat m e) :
    ∃ text, ecmascriptNumber (.finite negative m e h) = .ok (signText negative ++ text) ∧
      LaysOut (reprDigits (.finite negative m e h)).1 (reprDigits (.finite negative m e h)).2
        (InRange (reprValue (.finite negative m e h))) text := by
  have htrimmed := Trimmed.natStr (PyFloat.printed_mod hm h)
  have hbetween := PyFloat.between_iff hm h
  have hlayout := ecmascriptNumber_layout negative hm h htrimmed.toSignificant (repr_eq negative hm h)
  have hrange := inRange_iff htrimmed.toSignificant
    ((PyFloat.natStr (PyFloat.printed m e h).1).length + (PyFloat.printed m e h).2)
  have hvalue : decimalValue (PyFloat.natStr (PyFloat.printed m e h).1)
      ((PyFloat.natStr (PyFloat.printed m e h).1).length + (PyFloat.printed m e h).2) = reprValue (.finite negative m e h) := by
    unfold reprValue
    rw [reprDigits_of_ne hm h]
  have hself : reprValue (.finite negative m e h) = (PyFloat.printed m e h).1 * 10 ^ (PyFloat.printed m e h).2 := reprValue_of_ne hm h
  rw [← hself] at hbetween
  rw [hvalue] at hrange
  rw [reprDigits_of_ne hm h, hlayout]
  dsimp only
  generalize PyFloat.natStr (PyFloat.printed m e h).1 = ds at htrimmed hrange ⊢
  generalize (ds.length : Int) + (PyFloat.printed m e h).2 = decpt at hrange ⊢
  have hpositional : InRange (reprValue (.finite negative m e h)) → LaysOut ds decpt (InRange (reprValue (.finite negative m e h))) (fixedText ds decpt) := by
    intro hin
    rw [eq_true hin]
    exact fixedText_laysOut htrimmed decpt
  by_cases hfixed : decpt ≤ -4 ∨ 16 < decpt
  · rw [if_pos hfixed]
    by_cases hin : InRange (reprValue (.finite negative m e h))
    · rw [if_pos (hbetween.2 hin)]
      exact ⟨fixedText ds decpt, rfl, hpositional hin⟩
    · rw [if_neg fun hbound => hin (hbetween.1 hbound), removePointZero_mantissaText htrimmed, List.append_assoc]
      refine ⟨_, rfl, ?_⟩
      rw [eq_false hin]
      refine scientific_laysOut htrimmed fun hone => hin (hrange.2 ?_)
      omega
  · -- fixed `repr` is positional, whatever the comparison says
    rw [if_neg hfixed, removePointZero_fixed htrimmed hfixed]
    exact ⟨fixedText ds decpt, rfl, hpositional (hrange.2 (by omega))⟩

/-- The text of a float is a numeral of a decimal that rounds to it. -/
theorem ecmascriptNumber_numeral (negative : Bool) (hm : m ≠ 0) (h : CanonicalFloat m e) :
    ∃ n : Numeral, ecmascriptNumber (.finite negative m e h) = .ok (signText negative ++ n.text) ∧
      PyFloat.ofDecimal negative n.mantissa n.scale = .finite negative m e h ∧ n.whole.length ≤ 4300 := by
  obtain ⟨_, htext, n, rfl, hvalue, -, htight⟩ := ecmascriptNumber_of_ne negative hm h
  have hbound := (decimalValue_bounds (Significant.natStr (PyFloat.printed_ne_zero hm h))
    ((PyFloat.natStr (PyFloat.printed m e h).1).length + (PyFloat.printed m e h).2)).2
  have hdecpt := decpt_le hm h
  rw [reprDigits_of_ne hm h] at hvalue
  dsimp only at hvalue
  refine ⟨n, htext, ?_, ?_⟩
  · rw [← PyFloat.ofDecimal_printed negative hm h]
    refine PyFloat.ofDecimal_congr negative (hvalue.trans ?_)
    unfold decimalValue
    rw [digitsValue_natStr, add_sub_cancel_left]
  · by_contra hlong
    cases hexponent : n.exponent with
    | some x =>
      have hone := (htight.exponent x hexponent).2.1
      omega
    | none =>
      have hlow := n.pow_le_value hexponent fun hzero => hlong (by rw [hzero]; decide)
      rw [hvalue] at hlow
      have hexp := (zpow_lt_zpow_iff_right₀ (by norm_num : (1 : ℚ) < 10)).1 (hlow.trans_lt hbound)
      omega

end Layout

/-- The token of every finite float denotes the number that `repr` prints, positionally exactly where that is
zero or in the range, and without superfluous zeros. -/
theorem ecmascriptNumber_laysOut {f : PyFloat} (hf : f.IsFinite) :
    f.repr = signText f.sign ++ PyFloat.formatDigits (reprDigits f).1 (reprDigits f).2 ∧
      ∃ text, ecmascriptNumber f = .ok (signText (f.sign && decide (reprValue f ≠ 0)) ++ text) ∧
        LaysOut (reprDigits f).1 (reprDigits f).2 (reprValue f = 0 ∨ InRange (reprValue f)) text := by
  cases f with
  | nan => exact hf.elim
  | inf s => exact hf.elim
  | finite negative m e h =>
    by_cases hm : m = 0
    · subst hm
      obtain ⟨hvalue, hlays⟩ := zero_laysOut negative h
      refine ⟨by cases negative <;> rfl, str "0", ?_, ?_⟩
      · rw [hvalue]
        simp [ecmascriptNumber, signText]
      · rw [eq_true (Or.inl hvalue : reprValue _ = 0 ∨ InRange (reprValue _))]
        exact hlays
    · obtain ⟨text, htext, hlays⟩ := ecmascriptNumber_of_ne negative hm h
      have hne : reprValue (.finite negative m e h) ≠ 0 := by
        rw [reprValue_of_ne hm h]
        have hdigits : ((PyFloat.printed m e h).1 : ℚ) ≠ 0 := by exact_mod_cast PyFloat.printed_ne_zero hm h
        exact mul_ne_zero hdigits (zpow_ne_zero _ (by norm_num))
      refine ⟨?_, text, ?_, ?_⟩
      · rw [reprDigits_of_ne hm h]
        exact repr_eq negative hm h
      · rw [decide_eq_true hne, Bool.and_true]
        exact htext
      · rw [or_iff_right hne]
        exact hlays

/-- Minus one and a half is laid out as `-1.5`. -/
theorem ecmascriptNumber_laysOut_example :
    let f := PyFloat.ofDecimal true 15 (-1)
    f.repr = signText f.sign ++ PyFloat.formatDigits (reprDigits f).1 (reprDigits f).2 ∧
      ∃ text, ecmascriptNumber f = .ok (signText (f.sign && decide (reprValue f ≠ 0)) ++ text) ∧
        LaysOut (reprDigits f).1 (reprDigits f).2 (reprValue f = 0 ∨ InRange (reprValue f)) text :=
  ecmascriptNumber_laysOut (by decide +kernel)

end Json

end LeoFlow
