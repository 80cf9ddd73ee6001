import LeoFlow.Core.FloatError

/-!
# LeoFlow.Dwell.Clock — PostgreSQL clock conversions

The dwell functions of migration 0019 compare integer nanoseconds with the database
clock. A `timestamptz` counts microseconds; `date_part('epoch', ..)` and
`to_timestamp` pass through `double precision`, and dividing a `numeric` rounds at a
scale chosen from the operands. Both conversions stay within `toleranceNs` of
the exact one (`epoch_ns_error`, `to_timestamp_error`).

Timestamps are microseconds from the Unix epoch.
-/

namespace LeoFlow

namespace Postgres

/-- A value of type `bigint`. -/
@[reducible] def IsBigint (n : Int) : Prop :=
  -9223372036854775808 ≤ n ∧ n ≤ 9223372036854775807

/-- `(date_part('epoch', t) * 1000000000)::bigint`; `none` is "bigint out of range". -/
def epoch_ns (t : Int) : Option Int := do
  let microseconds ← PyFloat.rounded t
  let seconds ← PyFloat.rounded (microseconds / 1000000)
  let nanoseconds ← PyFloat.rounded (seconds * 1000000000)
  let n := PyFloat.rint nanoseconds
  if IsBigint n then some n else none

/-- `select_div_scale` for an integer over `1000000000`: the fractional digits that give
the quotient at least 16 significant ones, counted in digits of base 10000. -/
def divScale (n : Nat) : Nat :=
  let weight := Nat.log 10000 n
  let firstdigit := n / 10000 ^ weight
  let qweight : Int := weight - 2 - if firstdigit ≤ 10 then 1 else 0
  (16 - 4 * qweight).toNat

/-- `n::numeric / 1000000000`, rounded half away from zero at the selected scale. -/
def numericSeconds (n : Int) : ℚ :=
  let scale := divScale n.natAbs
  let digits : Int := ((2 * n.natAbs * 10 ^ scale + 1000000000) / 2000000000 : Nat)
  mkRat (if n < 0 then -digits else digits) (10 ^ scale)

/-- 2000-01-01 in seconds from the Unix epoch. -/
def postgresEpoch : Int := 946684800

/-- `to_timestamp(n::numeric / 1000000000)`; the argument becomes a `double precision`. -/
def to_timestamp (n : Int) : Option Int := do
  let unixSeconds ← PyFloat.rounded (numericSeconds n)
  let seconds ← PyFloat.rounded (unixSeconds - postgresEpoch)
  let microseconds ← PyFloat.rounded (seconds * 1000000)
  some (PyFloat.rint microseconds + postgresEpoch * 1000000)

/-! ## How far the conversions are off -/

/-- Four microseconds: an upper bound for every `bigint` of nanoseconds. -/
def toleranceNs : Int := 4000

theorem epoch_ns_error {t n : Int} (h : epoch_ns t = some n) : |n - 1000 * t| ≤ toleranceNs := by
  simp only [epoch_ns, Option.bind_eq_bind, Option.bind_eq_some_iff] at h
  obtain ⟨us, hus, s, hs, ns, hns, hn⟩ := h
  split at hn
  · rename_i hrange
    cases hn
    have hlow : (-9223372036854775808 : ℚ) ≤ PyFloat.rint ns := by exact_mod_cast hrange.1
    have hhigh : (PyFloat.rint ns : ℚ) ≤ 9223372036854775807 := by exact_mod_cast hrange.2
    have hint := PyFloat.rint_error ns
    -- from the result back to the clock reading, each operand is bounded by its result
    have hns_le : |ns| ≤ 9223372036854775809 := by
      rw [abs_le] at hint ⊢
      constructor <;> linarith
    obtain ⟨herr3, hs_le⟩ := PyFloat.rounded_error_of_le hns (by norm_num) hns_le
    rw [abs_mul] at hs_le
    norm_num at hs_le
    have hs_le : |s| ≤ 9300000000 := by linarith
    obtain ⟨herr2, hus_le⟩ := PyFloat.rounded_error_of_le hs (by norm_num) hs_le
    rw [abs_div] at hus_le
    norm_num at hus_le
    have hus_le : |us| ≤ 9400000000000000 := by linarith
    obtain ⟨herr1, _⟩ := PyFloat.rounded_error_of_le hus (by norm_num) hus_le
    have hq : |(PyFloat.rint ns : ℚ) - 1000 * t| ≤ 4000 := by
      rw [abs_le] at hint herr1 herr2 herr3 ⊢
      norm_num at herr1 herr2 herr3
      constructor <;> linarith
    exact_mod_cast hq
  · cases hn

/-- Up to 20 digits, the quotient has at least eight fractional ones. -/
theorem le_divScale {n : Nat} (h : n < 10 ^ 20) : 8 ≤ divScale n := by
  have hweight : Nat.log 10000 n < 5 := Nat.log_lt_of_lt_pow' (by decide) h
  unfold divScale
  dsimp only
  split <;> omega

theorem numericSeconds_error {n : Int} (h : IsBigint n) :
    |numericSeconds n - n / 1000000000| ≤ 1 / 10 ^ 8 := by
  have hscale : 8 ≤ divScale n.natAbs := le_divScale (by omega)
  set scale := divScale n.natAbs with hs
  have hpow : (0 : ℚ) < 10 ^ scale := by positivity
  -- the digits are the scaled quotient, rounded
  set digits : Nat := (2 * n.natAbs * 10 ^ scale + 1000000000) / 2000000000 with hd
  have hdigits : |(digits : ℚ) - n.natAbs * 10 ^ scale / 1000000000| ≤ 1 / 2 := by
    have hlow : 2000000000 * digits ≤ 2 * n.natAbs * 10 ^ scale + 1000000000 := Nat.mul_div_le _ _
    have hhigh : 2 * n.natAbs * 10 ^ scale + 1000000000 < 2000000000 * (digits + 1) :=
      Nat.lt_mul_div_succ _ (by decide)
    have hlow' : (2000000000 : ℚ) * digits ≤ 2 * n.natAbs * 10 ^ scale + 1000000000 := by
      exact_mod_cast hlow
    have hhigh' : 2 * (n.natAbs : ℚ) * 10 ^ scale + 1000000000 < 2000000000 * (digits + 1) := by
      exact_mod_cast hhigh
    rw [abs_le]
    constructor <;> linarith
  have hmagnitude : |(digits : ℚ) / 10 ^ scale - n.natAbs / 1000000000| ≤ 1 / 10 ^ 8 := by
    have hsplit : (digits : ℚ) / 10 ^ scale - n.natAbs / 1000000000 =
        (digits - n.natAbs * 10 ^ scale / 1000000000) / 10 ^ scale := by
      field_simp
    rw [hsplit, abs_div, abs_of_pos hpow]
    calc |(digits : ℚ) - n.natAbs * 10 ^ scale / 1000000000| / 10 ^ scale
        ≤ 1 / 10 ^ scale := by
          gcongr
          linarith
      _ ≤ 1 / 10 ^ 8 := by
          gcongr
          norm_num
  unfold numericSeconds
  dsimp only
  rw [Rat.mkRat_eq_div, ← hs, ← hd, Nat.cast_pow, Nat.cast_ofNat]
  have hn : (n : ℚ) = if n < 0 then -(n.natAbs : ℚ) else n.natAbs := by
    rw [← Int.cast_natCast n.natAbs]
    split
    · exact congrArg Int.cast (by omega : n = -(n.natAbs : Int)) |>.trans (Int.cast_neg _)
    · exact congrArg Int.cast (by omega : n = (n.natAbs : Int))
  rw [hn]
  split
  · rw [Int.cast_neg, Int.cast_natCast, neg_div, neg_div, ← neg_sub', abs_neg]
    exact hmagnitude
  · rw [Int.cast_natCast]
    exact hmagnitude

theorem to_timestamp_error {n t : Int} (hn : IsBigint n) (h : to_timestamp n = some t) :
    |1000 * t - n| ≤ toleranceNs := by
  simp only [to_timestamp, Option.bind_eq_bind, Option.bind_eq_some_iff] at h
  obtain ⟨unix, hunix, s, hs, us, hus, ht⟩ := h
  cases ht
  have hnumeric := numericSeconds_error hn
  have hlow : (-9223372036854775808 : ℚ) ≤ n := by exact_mod_cast hn.1
  have hhigh : (n : ℚ) ≤ 9223372036854775807 := by exact_mod_cast hn.2
  have hint := PyFloat.rint_error us
  have hepoch : ((postgresEpoch : Int) : ℚ) = 946684800 := rfl
  rw [hepoch] at hs
  have hsize1 : |numericSeconds n| ≤ 9300000000 := by
    rw [abs_le] at hnumeric ⊢
    norm_num at hnumeric
    constructor <;> linarith
  have herr1 := PyFloat.rounded_error_of_le_operand hunix (by norm_num) hsize1
  have hsize2 : |unix - 946684800| ≤ 10300000000 := by
    rw [abs_le] at hsize1 herr1 ⊢
    norm_num at herr1
    constructor <;> linarith
  have herr2 := PyFloat.rounded_error_of_le_operand hs (by norm_num) hsize2
  have hsize3 : |s * 1000000| ≤ 10400000000000000 := by
    rw [abs_le] at hsize2 herr2 ⊢
    norm_num at herr2
    constructor <;> linarith
  have herr3 := PyFloat.rounded_error_of_le_operand hus (by norm_num) hsize3
  have hq : |1000 * ((PyFloat.rint us + postgresEpoch * 1000000 : Int) : ℚ) - n| ≤ 4000 := by
    rw [Int.cast_add, Int.cast_mul, hepoch]
    rw [abs_le] at hnumeric hint herr1 herr2 herr3 ⊢
    norm_num at hnumeric herr1 herr2 herr3 ⊢
    constructor <;> linarith
  exact_mod_cast hq

end Postgres

end LeoFlow
