import Mathlib

/-!
# LeoFlow.Core.Calendar — years and days of the Gregorian calendar

The arithmetic of `datetime`: days are counted by their ordinal, of which 1 is
January 1 of year 1, and `yearOf` finds the year of a day again.
-/

namespace LeoFlow

namespace Calendar

/-- `calendar.isleap(year)` -/
@[reducible] def IsLeap (year : Int) : Prop := year % 4 = 0 ∧ (year % 100 ≠ 0 ∨ year % 400 = 0)

def daysIn (year : Int) : Int := if IsLeap year then 366 else 365

/-- `_days_before_year(year)` -/
def daysBeforeYear (year : Int) : Int := (year - 1) * 365 + (year - 1) / 4 - (year - 1) / 100 + (year - 1) / 400

/-- The ordinal of 1970-01-01. -/
def unixEpoch : Int := 719163

/-- The year of `_ord2ymd(ordinal)`. -/
def yearOf (ordinal : Int) : Int :=
  let n := ordinal - 1
  let n400 := n / 146097
  let n := n % 146097
  let n100 := n / 36524
  let n := n % 36524
  let n4 := n / 1461
  let n := n % 1461
  let n1 := n / 365
  let year := n400 * 400 + 1 + n100 * 100 + n4 * 4 + n1
  if n1 = 4 ∨ n100 = 4 then year - 1 else year

theorem daysIn_bounds (year : Int) : 365 ≤ daysIn year ∧ daysIn year ≤ 366 := by
  unfold daysIn
  split <;> omega

theorem daysBeforeYear_succ (year : Int) : daysBeforeYear (year + 1) = daysBeforeYear year + daysIn year := by
  unfold daysBeforeYear daysIn IsLeap
  split <;> omega

/-- A year in its four-century cycle: whole centuries, whole leap cycles and years. -/
theorem cycle (year : Int) : ∃ a b c d : Int, year = a * 400 + b * 100 + c * 4 + d + 1 ∧
    0 ≤ b ∧ b < 4 ∧ 0 ≤ c ∧ c < 25 ∧ 0 ≤ d ∧ d < 4 :=
  ⟨(year - 1) / 400, (year - 1) % 400 / 100, (year - 1) % 100 / 4, (year - 1) % 4, by omega, by omega, by omega, by omega,
    by omega, by omega, by omega⟩

/-- Every day of a year is found in that year. -/
theorem yearOf_day {year day : Int} (hfirst : 1 ≤ day) (hlast : day ≤ daysIn year) :
    yearOf (daysBeforeYear year + day) = year := by
  obtain ⟨a, b, c, d, rfl, hb, hb', hc, hc', hd, hd'⟩ := cycle year
  have hbefore : daysBeforeYear (a * 400 + b * 100 + c * 4 + d + 1) = a * 146097 + b * 36524 + c * 1461 + d * 365 := by
    unfold daysBeforeYear
    omega
  have hleap : day ≤ 365 ∨ day = 366 ∧ d = 3 ∧ (c ≠ 24 ∨ b = 3) := by
    unfold daysIn IsLeap at hlast
    split at hlast <;> omega
  have h400 : (daysBeforeYear (a * 400 + b * 100 + c * 4 + d + 1) + day - 1) / 146097 = a := by omega
  have h146097 : (daysBeforeYear (a * 400 + b * 100 + c * 4 + d + 1) + day - 1) % 146097 =
      b * 36524 + c * 1461 + d * 365 + (day - 1) := by omega
  unfold yearOf
  dsimp only
  rw [h400, h146097]
  by_cases hcycle : day = 366 ∧ c = 24
  · -- the last day of the four centuries
    obtain ⟨rfl, rfl⟩ := hcycle
    rw [if_pos (Or.inr (by omega))]
    omega
  · have h100 : (b * 36524 + c * 1461 + d * 365 + (day - 1)) / 36524 = b := by omega
    have h36524 : (b * 36524 + c * 1461 + d * 365 + (day - 1)) % 36524 = c * 1461 + d * 365 + (day - 1) := by omega
    have h4 : (c * 1461 + d * 365 + (day - 1)) / 1461 = c := by omega
    have h1461 : (c * 1461 + d * 365 + (day - 1)) % 1461 = d * 365 + (day - 1) := by omega
    rw [h100, h36524, h4, h1461]
    by_cases hlastDay : day = 366
    · -- the last day of a leap year
      rw [if_pos (Or.inl (by omega))]
      omega
    · rw [if_neg (by omega)]
      omega

/-- The 366th day of a common year is in the next year. -/
theorem yearOf_day_iff {year day : Int} (hfirst : 1 ≤ day) (hlast : day ≤ 366) :
    yearOf (daysBeforeYear year + day) = year ↔ day ≤ daysIn year := by
  constructor
  · intro hyear
    by_contra hbeyond
    have hday : day = daysIn year + 1 := by
      have hdays := daysIn_bounds year
      omega
    have hnext : yearOf (daysBeforeYear (year + 1) + 1) = year + 1 :=
      yearOf_day (by omega) (by have hdays := daysIn_bounds (year + 1); omega)
    rw [daysBeforeYear_succ, add_assoc, ← hday, hyear] at hnext
    omega
  · exact yearOf_day hfirst

end Calendar

end LeoFlow
