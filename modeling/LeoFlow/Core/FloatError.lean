import LeoFlow.Core.Decimal

/-!
# LeoFlow.Core.FloatError — floating-point arithmetic as rounding

An operation on binary64 values is the exact operation on the numbers they
denote, rounded to the nearest float (`rounded`). `rounded_error` bounds what one
rounding does: half a unit in the last place, which is a relative error of
`2 ^ -53` above the subnormal floats. `rint` rounds to an integer.
-/

namespace LeoFlow

namespace PyFloat

/-- The number a finite float denotes. -/
def toRat : PyFloat → Option ℚ
  | finite negative m e _ =>
    let a : Int := (m * 2 ^ e.toNat : Nat)
    some (mkRat (if negative then -a else a) (2 ^ (-e).toNat))
  | _ => none

/-- The number of the float nearest to `x`; `none` past the largest float. -/
def rounded (x : ℚ) : Option ℚ := (ofRatio (decide (x < 0)) x.num.natAbs x.den).toRat

/-- The integer nearest to `x`, ties to even. -/
def rint (x : ℚ) : Int :=
  let n : Int := roundDiv x.num.natAbs x.den
  if x < 0 then -n else n

/-! ## The error of one rounding -/

theorem roundDiv_error (a : Nat) {b : Nat} (hb : 0 < b) :
    |(roundDiv a b : ℚ) - a / b| ≤ 1 / 2 := by
  have hb' : (0 : ℚ) < b := by exact_mod_cast hb
  have hdiv : (a : ℚ) = b * (a / b : Nat) + (a % b : Nat) := by exact_mod_cast (Nat.div_add_mod a b).symm
  have hquotient : (a : ℚ) / b = (a / b : Nat) + (a % b : Nat) / b := by
    rw [div_eq_iff hb'.ne', add_mul, div_mul_cancel₀ _ hb'.ne', mul_comm]
    exact hdiv
  have hlow : (0 : ℚ) ≤ (a % b : Nat) / b := div_nonneg (Nat.cast_nonneg _) hb'.le
  rw [hquotient, abs_le]
  unfold roundDiv
  split_ifs with hdown hup
  · -- the remainder is below one half
    have hhalf : ((a % b : Nat) : ℚ) / b ≤ 1 / 2 := by
      rw [div_le_div_iff₀ hb' two_pos, one_mul]
      exact_mod_cast (by omega : a % b * 2 ≤ b)
    constructor <;> linarith
  · -- above one half
    have hhalf : (1 : ℚ) / 2 ≤ (a % b : Nat) / b := by
      rw [div_le_div_iff₀ two_pos hb', one_mul]
      exact_mod_cast (by omega : b ≤ a % b * 2)
    have hone : ((a % b : Nat) : ℚ) / b ≤ 1 := by
      rw [div_le_iff₀ hb', one_mul]
      exact_mod_cast (Nat.mod_lt a hb).le
    push_cast
    constructor <;> linarith
  · -- a tie
    have hhalf : ((a % b : Nat) : ℚ) / b = 1 / 2 := by
      rw [div_eq_div_iff hb'.ne' two_ne_zero, one_mul]
      exact_mod_cast (by omega : a % b * 2 = b)
    rcases Nat.mod_two_eq_zero_or_one (a / b) with heven | hodd
    · rw [heven]
      push_cast
      constructor <;> linarith
    · rw [hodd]
      push_cast
      constructor <;> linarith

/-- A magnitude with its exponent split in two is a power of two away. -/
theorem mul_two_pow_div (x : ℚ) (e : Int) :
    x * 2 ^ e.toNat / 2 ^ (-e).toNat = x * 2 ^ e := by
  rcases le_total 0 e with he | he
  · obtain ⟨n, rfl⟩ := Int.eq_ofNat_of_zero_le he
    have hneg : (-(n : Int)).toNat = 0 := by omega
    rw [hneg, Int.toNat_natCast, pow_zero, div_one, zpow_natCast]
  · obtain ⟨n, hn⟩ := Int.eq_ofNat_of_zero_le (Int.neg_nonneg_of_nonpos he)
    obtain rfl : e = -(n : Int) := by omega
    have hpos : (-(n : Int)).toNat = 0 := by omega
    rw [hpos, neg_neg, Int.toNat_natCast, pow_zero, mul_one, zpow_neg, zpow_natCast, div_eq_mul_inv]

theorem toRat_finite (negative : Bool) (m : Nat) (e : Int) (h : CanonicalFloat m e) :
    (finite negative m e h).toRat = some (if negative then -((m : ℚ) * 2 ^ e) else m * 2 ^ e) := by
  have hvalue := mul_two_pow_div m e
  simp only [toRat, Rat.mkRat_eq_div, Option.some.injEq]
  split
  · push_cast
    rw [neg_div, hvalue]
  · push_cast
    exact hvalue

/-- What `pack` holds is the mantissa it was given. -/
theorem toRat_pack {negative : Bool} {m : Nat} {e : Int} {y : ℚ}
    (h : (pack negative m e).toRat = some y) :
    y = if negative then -((m : ℚ) * 2 ^ e) else m * 2 ^ e := by
  unfold pack at h
  split at h
  · rw [toRat_finite] at h
    exact (Option.some.inj h).symm
  split at h
  · rename_i hcarry
    have hm : (m : ℚ) * 2 ^ e = ((2 ^ 52 : Nat) : ℚ) * 2 ^ (e + 1) := by
      rw [hcarry.1, zpow_add_one₀ two_ne_zero]
      push_cast
      ring
    rw [toRat_finite, ← hm] at h
    exact (Option.some.inj h).symm
  · cases h

/-- Half the smallest positive float. -/
def halfMin : ℚ := 2 ^ (-1075 : Int)

theorem halfMin_pos : 0 < halfMin := zpow_pos two_pos _

theorem halfMin_le : halfMin ≤ 1 / 2 ^ 64 := by
  calc halfMin ≤ 2 ^ (-64 : Int) := zpow_le_zpow_right₀ one_le_two (by decide)
    _ = 1 / 2 ^ 64 := by norm_num

/-- The magnitude `ofRatio` gives is within half a unit in the last place. -/
theorem ofRatio_error {negative : Bool} {a b : Nat} {y : ℚ} (hb : 0 < b)
    (h : (ofRatio negative a b).toRat = some y) :
    |y - (if negative then -((a : ℚ) / b) else a / b)| ≤ a / b / 2 ^ 53 + halfMin := by
  unfold ofRatio at h
  split at h
  · -- zero
    rename_i ha
    rw [zero, toRat_finite] at h
    rw [← Option.some.inj h, ha]
    simpa using halfMin_pos.le
  rename_i ha
  set e : Int := max (-1074) (floorLog2 a b - 52) with he
  have hy := toRat_pack h
  have hb' : (0 : ℚ) < b := by exact_mod_cast hb
  have hpow : (0 : ℚ) < 2 ^ e := zpow_pos two_pos e
  -- the mantissa is within one half of the scaled ratio
  have hround := roundDiv_error (a * 2 ^ (-e).toNat) (b := b * 2 ^ e.toNat) (by positivity)
  set m : Nat := roundDiv (a * 2 ^ (-e).toNat) (b * 2 ^ e.toNat) with hm
  have hscaled : ((a * 2 ^ (-e).toNat : Nat) : ℚ) / ((b * 2 ^ e.toNat : Nat) : ℚ) * 2 ^ e = a / b := by
    have hsplit : (2 : ℚ) ^ e = 2 ^ e.toNat / 2 ^ (-e).toNat := by
      rw [← one_mul ((2 : ℚ) ^ e), ← mul_two_pow_div, one_mul]
    rw [hsplit]
    push_cast
    field_simp
  have herror : |(m : ℚ) * 2 ^ e - a / b| ≤ 2 ^ e / 2 := by
    calc |(m : ℚ) * 2 ^ e - a / b|
        = |(m : ℚ) - ((a * 2 ^ (-e).toNat : Nat) : ℚ) / ((b * 2 ^ e.toNat : Nat) : ℚ)| * 2 ^ e := by
          rw [← hscaled, ← sub_mul, abs_mul, abs_of_pos hpow]
      _ ≤ 1 / 2 * 2 ^ e := by gcongr
      _ = 2 ^ e / 2 := by ring
  -- half a unit in the last place
  have hulp : (2 : ℚ) ^ e / 2 ≤ a / b / 2 ^ 53 + halfMin := by
    have hratio : (0 : ℚ) ≤ a / b / 2 ^ 53 :=
      div_nonneg (div_nonneg (Nat.cast_nonneg _) hb'.le) (by norm_num)
    rcases max_choice (-1074 : Int) (floorLog2 a b - 52) with hmin | hlog
    · have hsub : (2 : ℚ) ^ e / 2 = halfMin := by
        rw [he, hmin, div_eq_mul_inv, ← zpow_sub_one₀ (two_ne_zero : (2 : ℚ) ≠ 0)]
        rfl
      rw [hsub]
      linarith
    · have hnormal : (2 : ℚ) ^ e / 2 = 2 ^ floorLog2 a b / 2 ^ 53 := by
        rw [he, hlog, div_eq_mul_inv, ← zpow_sub_one₀ (two_ne_zero : (2 : ℚ) ≠ 0),
          ← zpow_natCast (2 : ℚ) 53, ← zpow_sub₀ (two_ne_zero : (2 : ℚ) ≠ 0), sub_sub]
        rfl
      have hle := floorLog2_le (Nat.pos_of_ne_zero ha) hb
      rw [hnormal]
      have hdiv : (2 : ℚ) ^ floorLog2 a b / 2 ^ 53 ≤ a / b / 2 ^ 53 := by gcongr
      exact hdiv.trans (le_add_of_nonneg_right halfMin_pos.le)
  rw [hy]
  split
  · rw [← neg_sub', abs_neg]
    exact herror.trans hulp
  · exact herror.trans hulp

theorem magnitude (x : ℚ) : ((x.num.natAbs : ℚ) / x.den) = |x| := by
  rw [Rat.abs_def, Rat.divInt_eq_div]
  rfl

/-- A rational from its sign and magnitude. -/
theorem sign_mul_magnitude (x : ℚ) :
    (if decide (x < 0) = true then -((x.num.natAbs : ℚ) / x.den) else x.num.natAbs / x.den) = x := by
  rw [magnitude]
  by_cases hx : x < 0
  · rw [if_pos (decide_eq_true hx), abs_of_neg hx, neg_neg]
  · rw [if_neg (by simpa using hx), abs_of_nonneg (not_lt.1 hx)]

/-- One rounding has a relative error of `2 ^ -53`, or a tiny absolute one. -/
theorem rounded_error {x y : ℚ} (h : rounded x = some y) : |y - x| ≤ |x| / 2 ^ 53 + halfMin := by
  have herror := ofRatio_error x.den_pos h
  rwa [sign_mul_magnitude, magnitude] at herror

/-- The error by the size of the operand. -/
theorem rounded_error_of_le_operand {x y M : ℚ} (h : rounded x = some y) (hM : 1 ≤ M)
    (hx : |x| ≤ M) : |y - x| ≤ M / 2 ^ 53 * (1001 / 1000) := by
  have herror := rounded_error h
  have hmin := halfMin_le
  norm_num at hmin herror ⊢
  linarith

/-- The error by the size of the result. -/
theorem rounded_error_of_le {x y M : ℚ} (h : rounded x = some y) (hM : 1 ≤ M) (hy : |y| ≤ M) :
    |y - x| ≤ M / 2 ^ 53 * (1001 / 1000) ∧ |x| ≤ M * (1001 / 1000) := by
  have herror := rounded_error h
  have hmin := halfMin_le
  have hx : |x| ≤ |y| + |y - x| := by
    have htriangle := abs_sub_abs_le_abs_sub x y
    rw [abs_sub_comm] at htriangle
    linarith
  norm_num at hmin herror ⊢
  constructor <;> linarith

theorem rint_error (x : ℚ) : |(rint x : ℚ) - x| ≤ 1 / 2 := by
  have herror := roundDiv_error x.num.natAbs x.den_pos
  rw [magnitude] at herror
  unfold rint
  dsimp only
  split
  · rename_i hx
    rw [abs_of_neg hx] at herror
    push_cast
    rwa [← abs_neg, neg_sub, sub_neg_eq_add, add_comm, ← sub_neg_eq_add]
  · rename_i hx
    rw [abs_of_nonneg (not_lt.1 hx)] at herror
    exact_mod_cast herror

end PyFloat

end LeoFlow
