import LeoFlow.Core.Float

/-!
# LeoFlow.Core.Decimal — rounding is exact on floats

`ofRatio a b` depends only on the rational `a / b` (`ofRatio_congr`) and gives a
canonical float back from its own value (`ofRatio_finite`). Hence the decimal that
`repr` prints reads back as the float it was printed from
(`ofDecimal_printed`).
-/

namespace LeoFlow

namespace PyFloat

/-! ## The binary exponent of a ratio -/

variable {a b : Nat}

/-- Powers of two with integer exponents, without fractions. -/
theorem two_zpow_le_div_iff (hb : 0 < b) (k : Int) :
    (2 : ℚ) ^ k ≤ (a : ℚ) / b ↔ b * 2 ^ k.toNat ≤ a * 2 ^ (-k).toNat := by
  have hb' : (0 : ℚ) < b := by exact_mod_cast hb
  rw [le_div_iff₀ hb']
  rcases le_total 0 k with hk | hk
  · obtain ⟨n, rfl⟩ := Int.eq_ofNat_of_zero_le hk
    have hneg : (-(n : Int)).toNat = 0 := by omega
    rw [hneg, Int.toNat_natCast, zpow_natCast, pow_zero, mul_one, mul_comm]
    exact_mod_cast Iff.rfl
  · obtain ⟨n, hn⟩ := Int.eq_ofNat_of_zero_le (Int.neg_nonneg_of_nonpos hk)
    obtain rfl : k = -(n : Int) := by omega
    have hpos : (-(n : Int)).toNat = 0 := by omega
    have htwo : (0 : ℚ) < 2 ^ n := by positivity
    rw [hpos, neg_neg, Int.toNat_natCast, zpow_neg, zpow_natCast, pow_zero, mul_one, inv_mul_le_iff₀ htwo, mul_comm]
    exact_mod_cast Iff.rfl

theorem floorLog2_le (ha : 0 < a) (hb : 0 < b) :
    (2 : ℚ) ^ floorLog2 a b ≤ (a : ℚ) / b := by
  unfold floorLog2
  dsimp only
  split
  · rename_i h
    exact (two_zpow_le_div_iff hb _).2 h
  · -- `2 ^ log2 a ≤ a` and `b < 2 ^ (log2 b + 1)`
    have hla : (2 : ℚ) ^ Nat.log2 a ≤ a := by exact_mod_cast Nat.log2_self_le ha.ne'
    have hlb : (b : ℚ) ≤ 2 ^ (Nat.log2 b + 1) := by exact_mod_cast Nat.lt_log2_self.le
    have hb' : (0 : ℚ) < b := by exact_mod_cast hb
    rw [le_div_iff₀ hb']
    have hexp : (Nat.log2 a : Int) - Nat.log2 b - 1 + (Nat.log2 b + 1 : Nat) = Nat.log2 a := by
      push_cast
      ring
    calc (2 : ℚ) ^ ((Nat.log2 a : Int) - Nat.log2 b - 1) * b
        ≤ 2 ^ ((Nat.log2 a : Int) - Nat.log2 b - 1) * 2 ^ (Nat.log2 b + 1) := by
          gcongr
      _ = 2 ^ Nat.log2 a := by
          rw [← zpow_natCast (2 : ℚ) (Nat.log2 b + 1), ← zpow_add₀ two_ne_zero, hexp, zpow_natCast]
      _ ≤ a := hla

theorem lt_floorLog2 (hb : 0 < b) :
    (a : ℚ) / b < 2 ^ (floorLog2 a b + 1) := by
  have hb' : (0 : ℚ) < b := by exact_mod_cast hb
  unfold floorLog2
  dsimp only
  split
  · have hla : (a : ℚ) < 2 ^ (Nat.log2 a + 1) := by exact_mod_cast Nat.lt_log2_self
    have hlb : (2 : ℚ) ^ Nat.log2 b ≤ b := by exact_mod_cast Nat.log2_self_le hb.ne'
    rw [div_lt_iff₀ hb']
    have hexp : (Nat.log2 a : Int) - Nat.log2 b + 1 + (Nat.log2 b : Nat) = (Nat.log2 a + 1 : Nat) := by
      push_cast
      ring
    calc (a : ℚ) < 2 ^ (Nat.log2 a + 1) := hla
      _ = 2 ^ ((Nat.log2 a : Int) - Nat.log2 b + 1) * 2 ^ Nat.log2 b := by
          rw [← zpow_natCast (2 : ℚ) (Nat.log2 b), ← zpow_add₀ two_ne_zero, hexp, zpow_natCast]
      _ ≤ 2 ^ ((Nat.log2 a : Int) - Nat.log2 b + 1) * b := by gcongr
  · rename_i h
    rw [sub_add_cancel]
    exact not_le.1 fun hle => h ((two_zpow_le_div_iff hb _).1 hle)

/-- The exponent is the only one with these bounds. -/
theorem floorLog2_unique (ha : 0 < a) (hb : 0 < b) {k : Int} (hle : (2 : ℚ) ^ k ≤ (a : ℚ) / b)
    (hlt : (a : ℚ) / b < 2 ^ (k + 1)) : floorLog2 a b = k := by
  have h1 : floorLog2 a b < k + 1 :=
    (zpow_lt_zpow_iff_right₀ one_lt_two).1 ((floorLog2_le ha hb).trans_lt hlt)
  have h2 : k < floorLog2 a b + 1 :=
    (zpow_lt_zpow_iff_right₀ one_lt_two).1 (hle.trans_lt (lt_floorLog2 hb))
  omega

theorem floorLog2_mul_right {c : Nat} (ha : 0 < a) (hb : 0 < b) (hc : 0 < c) :
    floorLog2 (a * c) (b * c) = floorLog2 a b := by
  have hc' : (c : ℚ) ≠ 0 := by exact_mod_cast hc.ne'
  have hdiv : ((a * c : Nat) : ℚ) / (b * c : Nat) = (a : ℚ) / b := by
    push_cast
    exact mul_div_mul_right _ _ hc'
  refine floorLog2_unique (Nat.mul_pos ha hc) (Nat.mul_pos hb hc) ?_ ?_
  · rw [hdiv]
    exact floorLog2_le ha hb
  · rw [hdiv]
    exact lt_floorLog2 hb

/-! ## Rounding -/

theorem roundDiv_mul_right (a b : Nat) {c : Nat} (hc : 0 < c) :
    roundDiv (a * c) (b * c) = roundDiv a b := by
  have hmod : a * c % (b * c) = a % b * c := Nat.mul_mod_mul_right c a b
  have hdiv : a * c / (b * c) = a / b := Nat.mul_div_mul_right a b hc
  have hl : 2 * (a % b * c) < b * c ↔ 2 * (a % b) < b := by
    rw [← mul_assoc]
    exact Nat.mul_lt_mul_right hc
  have hr : b * c < 2 * (a % b * c) ↔ b < 2 * (a % b) := by
    rw [← mul_assoc]
    exact Nat.mul_lt_mul_right hc
  simp only [roundDiv, hmod, hdiv, hl, hr]

theorem roundDiv_mul_self (m : Nat) {c : Nat} (hc : 0 < c) : roundDiv (m * c) c = m := by
  unfold roundDiv
  rw [Nat.mul_mod_left, Nat.mul_div_cancel m hc, if_pos (by omega)]

theorem ofRatio_mul_right (negative : Bool) (a : Nat) {c : Nat} (hb : 0 < b) (hc : 0 < c) :
    ofRatio negative (a * c) (b * c) = ofRatio negative a b := by
  unfold ofRatio
  by_cases ha : a = 0
  · rw [ha, zero_mul, if_pos rfl, if_pos rfl]
  · have hac : a * c ≠ 0 := Nat.mul_ne_zero ha hc.ne'
    rw [if_neg ha, if_neg hac, floorLog2_mul_right (Nat.pos_of_ne_zero ha) hb hc]
    dsimp only
    rw [mul_right_comm a c, mul_right_comm b c, roundDiv_mul_right _ _ hc]

/-- Only the ratio counts. -/
theorem ofRatio_congr (negative : Bool) {a' b' : Nat} (hb : 0 < b) (hb' : 0 < b') (h : a * b' = a' * b) : ofRatio negative a b = ofRatio negative a' b' := by
  rw [← ofRatio_mul_right negative a hb hb', ← ofRatio_mul_right negative a' hb' hb, h, mul_comm b]

variable {m : Nat} {e : Int}

/-- A canonical float is nearest to its own value. -/
theorem ofRatio_finite (negative : Bool) (hm : m ≠ 0) (h : CanonicalFloat m e) :
    ofRatio negative (m * 2 ^ e.toNat) (2 ^ (-e).toNat) = finite negative m e h := by
  have hmpos : 0 < m := Nat.pos_of_ne_zero hm
  have hvalue : ((m * 2 ^ e.toNat : Nat) : ℚ) / (2 ^ (-e).toNat : Nat) = m * 2 ^ e := by
    push_cast
    rcases le_total 0 e with he | he
    · obtain ⟨n, rfl⟩ := Int.eq_ofNat_of_zero_le he
      have hneg : (-(n : Int)).toNat = 0 := by omega
      rw [hneg, Int.toNat_natCast, zpow_natCast, pow_zero, div_one]
    · obtain ⟨n, hn⟩ := Int.eq_ofNat_of_zero_le (Int.neg_nonneg_of_nonpos he)
      obtain rfl : e = -(n : Int) := by omega
      have hpos : (-(n : Int)).toNat = 0 := by omega
      rw [hpos, neg_neg, Int.toNat_natCast, zpow_neg, zpow_natCast, pow_zero, mul_one, div_eq_mul_inv]
  have hlog : floorLog2 (m * 2 ^ e.toNat) (2 ^ (-e).toNat) = Nat.log2 m + e := by
    have hl : (2 : ℚ) ^ Nat.log2 m ≤ m := by exact_mod_cast Nat.log2_self_le hm
    have hu : (m : ℚ) < 2 ^ (Nat.log2 m + 1) := by exact_mod_cast Nat.lt_log2_self
    refine floorLog2_unique (by positivity) (by positivity) ?_ ?_
    · rw [hvalue, zpow_add₀ two_ne_zero, zpow_natCast]
      gcongr
    · rw [hvalue, add_right_comm, zpow_add₀ two_ne_zero, ← Nat.cast_succ, zpow_natCast]
      gcongr
  -- the exponent chosen is the canonical one
  have hexp : max (-1074) (floorLog2 (m * 2 ^ e.toNat) (2 ^ (-e).toNat) - 52) = e := by
    rw [hlog]
    obtain ⟨hlt, hmin, _, hnormal | hsub⟩ := h
    · have h52 : Nat.log2 m = 52 :=
        (Nat.log2_eq_iff hm).2 ⟨hnormal, hlt⟩
      rw [h52]
      omega
    · have h53 : Nat.log2 m < 53 := (Nat.log2_lt hm).2 hlt
      omega
  have hround : roundDiv (m * 2 ^ e.toNat * 2 ^ (-e).toNat) (2 ^ (-e).toNat * 2 ^ e.toNat) = m := by
    rw [mul_assoc, mul_comm (2 ^ e.toNat)]
    exact roundDiv_mul_self m (by positivity)
  unfold ofRatio
  rw [if_neg (Nat.mul_ne_zero hm (by positivity)), hexp]
  dsimp only
  rw [hround, pack, dif_pos h]

variable {h : CanonicalFloat m e}

/-- The sign passes through. -/
theorem pack_negative {m' : Nat} {e' : Int} (hread : pack false m' e' = finite false m e h) (negative : Bool) :
    pack negative m' e' = finite negative m e h := by
  unfold pack at hread ⊢
  split at hread
  · rename_i hcanonical
    rw [dif_pos hcanonical]
    cases hread
    rfl
  split at hread
  · rename_i hcarry
    rw [dif_neg ‹_›, dif_pos hcarry]
    cases hread
    rfl
  · cases hread

theorem ofRatio_negative (hread : ofRatio false a b = finite false m e h) (negative : Bool) :
    ofRatio negative a b = finite negative m e h := by
  unfold ofRatio at hread ⊢
  split at hread
  · rw [if_pos ‹_›]
    cases hread
    rfl
  · rw [if_neg ‹_›]
    exact pack_negative hread negative

/-! ## Decimals -/

theorem ofDecimal_negative {d : Nat} {k : Int} (hread : ofDecimal false d k = finite false m e h) (negative : Bool) :
    ofDecimal negative d k = finite negative m e h :=
  ofRatio_negative hread negative

/-- The same number written with more digits. -/
theorem ofDecimal_mul_pow (negative : Bool) (d : Nat) (k : Int) (n : Nat) :
    ofDecimal negative (d * 10 ^ n) k = ofDecimal negative d (k + n) := by
  unfold ofDecimal
  refine ofRatio_congr negative (by positivity) (by positivity) ?_
  have hpow : n + k.toNat + (-(k + n)).toNat = (k + n).toNat + (-k).toNat := by omega
  calc d * 10 ^ n * 10 ^ k.toNat * 10 ^ (-(k + n)).toNat
      = d * 10 ^ (n + k.toNat + (-(k + n)).toNat) := by ring
    _ = d * 10 ^ (k + n).toNat * 10 ^ (-k).toNat := by
        rw [hpow]
        ring

/-- An integer numeral. -/
theorem ofDecimal_nat (negative : Bool) (n : Nat) : ofDecimal negative n 0 = ofRatio negative n 1 := by
  simp [ofDecimal]

theorem stripZeros_reads (negative : Bool) (fuel d : Nat) (k : Int) :
    ofDecimal negative (stripZeros fuel (d, k)).1 (stripZeros fuel (d, k)).2 = ofDecimal negative d k := by
  induction fuel generalizing d k with
  | zero => rfl
  | succ fuel ih =>
    unfold stripZeros
    split
    · rename_i h
      have hd : d / 10 * 10 ^ 1 = d := by omega
      rw [ih, ← Nat.cast_one (R := Int), ← ofDecimal_mul_pow, hd]
    · rfl

theorem decimalAt_reads {f : PyFloat} {s : Int} {d : Nat × Int} (h : decimalAt f a b s = some d) : ofDecimal false d.1 d.2 = f := by
  unfold decimalAt at h
  dsimp only at h
  split at h
  · rename_i hboth
    cases h
    -- rounding gives the quotient or its successor
    unfold roundDiv
    split_ifs
    · exact hboth.1
    · exact hboth.2
    · rcases Nat.mod_two_eq_zero_or_one (a * 10 ^ (-s).toNat / (b * 10 ^ s.toNat)) with heven | hodd
      · rw [heven]
        exact hboth.1
      · rw [hodd]
        exact hboth.2
  split at h
  · cases h
    assumption
  split at h
  · cases h
    assumption
  · cases h

theorem searchDecimal_reads {f : PyFloat} {fuel : Nat} {s : Int} {d : Nat × Int}
    (h : searchDecimal f a b fuel s = some d) : ofDecimal false d.1 d.2 = f := by
  induction fuel generalizing s with
  | zero => cases h
  | succ fuel ih =>
    unfold searchDecimal at h
    split at h
    · rename_i hfound
      cases h
      exact decimalAt_reads hfound
    · exact ih h

/-- The exact expansion of a float in tenths. -/
theorem ofDecimal_exact (negative : Bool) (hm : m ≠ 0) (h : CanonicalFloat m e) :
    ofDecimal negative (m * 2 ^ e.toNat * 5 ^ (-e).toNat) (min e 0) = finite negative m e h := by
  rw [← ofRatio_finite negative hm h]
  unfold ofDecimal
  refine ofRatio_congr negative (by positivity) (by positivity) ?_
  have hpos : (min e 0).toNat = 0 := by omega
  have hneg : (-min e 0).toNat = (-e).toNat := by omega
  have hten : 5 * 2 = 10 := rfl
  rw [hpos, hneg, pow_zero, mul_one, mul_assoc, ← mul_pow, hten]

theorem shortestDecimal_reads (hm : m ≠ 0) (h : CanonicalFloat m e) :
    ofDecimal false (shortestDecimal m e (finite false m e h)).1
      (shortestDecimal m e (finite false m e h)).2 = finite false m e h := by
  unfold shortestDecimal
  dsimp only
  split
  · rename_i hfound
    exact searchDecimal_reads hfound
  · exact ofDecimal_exact false hm h

/-- The decimal that `repr` prints, `d * 10 ^ k`. -/
def printed (m : Nat) (e : Int) (h : CanonicalFloat m e) : Nat × Int :=
  let (d, k) := shortestDecimal m e (finite false m e h)
  stripZeros (Nat.log2 d + 1) (d, k)

theorem ofDecimal_printed (negative : Bool) (hm : m ≠ 0) (h : CanonicalFloat m e) :
    ofDecimal negative (printed m e h).1 (printed m e h).2 = finite negative m e h := by
  refine ofDecimal_negative ?_ negative
  unfold printed
  dsimp only
  rw [stripZeros_reads]
  exact shortestDecimal_reads hm h

/-- A ratio that rounds to a finite float is below `2 ^ 1024`. -/
theorem lt_of_ofRatio_finite {negative : Bool} (hb : 0 < b) (hread : ofRatio negative a b = finite negative m e h) : a < 2 ^ 1024 * b := by
  rcases Nat.eq_zero_or_pos a with rfl | ha
  · positivity
  have hexp : floorLog2 a b - 52 ≤ 971 := by
    unfold ofRatio pack at hread
    rw [if_neg ha.ne'] at hread
    dsimp only at hread
    split at hread
    · rename_i hcanonical
      have := hcanonical.2.2.1
      omega
    split at hread
    · rename_i hcarry
      have := hcarry.2.2.2.1
      omega
    · cases hread
  have hb' : (0 : ℚ) < b := by exact_mod_cast hb
  have hlt : (a : ℚ) / b < 2 ^ (1024 : Int) :=
    (lt_floorLog2 hb).trans_le (zpow_le_zpow_right₀ one_le_two (by omega))
  rw [div_lt_iff₀ hb'] at hlt
  exact_mod_cast hlt

theorem printed_lt (hm : m ≠ 0) (h : CanonicalFloat m e) :
    (printed m e h).1 * 10 ^ (printed m e h).2.toNat < 2 ^ 1024 * 10 ^ (-(printed m e h).2).toNat :=
  lt_of_ofRatio_finite (by positivity) (ofDecimal_printed false hm h)

theorem printed_ne_zero (hm : m ≠ 0) (h : CanonicalFloat m e) :
    (printed m e h).1 ≠ 0 := by
  intro hzero
  have hread := ofDecimal_printed false hm h
  rw [hzero] at hread
  -- zero reads as zero
  simp only [ofDecimal, zero_mul, ofRatio, if_pos, zero, finite.injEq, true_and] at hread
  exact hm hread.1.symm

end PyFloat

end LeoFlow
