import Mathlib

/-!
# LeoFlow.Core.Windows — windows on an interval

The windows of one length that start at regular steps in an interval, and one more at its end when the steps do not
reach it.
-/

namespace LeoFlow

/-- `range(start, stop, step)` for a positive step -/
def pyRange (start stop step : Int) : List Int :=
  (List.range ((stop - start + step - 1) / step).toNat).map fun i : Nat => start + i * step

theorem mem_pyRange {start stop step x : Int} (hstep : 0 < step) :
    x ∈ pyRange start stop step ↔ ∃ i : Nat, x = start + i * step ∧ x < stop := by
  have hcount : ∀ i : Nat, i < ((stop - start + step - 1) / step).toNat ↔ start + i * step < stop := by
    intro i
    rw [Int.lt_toNat]
    constructor
    · intro h
      have hmul := (Int.le_ediv_iff_mul_le hstep).1 (show ((i : Int) + 1) ≤ (stop - start + step - 1) / step by omega)
      linarith [hmul, Int.add_mul (i : Int) 1 step]
    · intro h
      have hle : (i : Int) + 1 ≤ (stop - start + step - 1) / step := by
        rw [Int.le_ediv_iff_mul_le hstep]
        linarith [Int.add_mul (i : Int) 1 step]
      omega
  unfold pyRange
  rw [List.mem_map]
  constructor
  · rintro ⟨i, hi, rfl⟩
    exact ⟨i, rfl, (hcount i).1 (List.mem_range.1 hi)⟩
  · rintro ⟨i, rfl, hi⟩
    exact ⟨i, List.mem_range.2 ((hcount i).2 hi), rfl⟩

theorem pairwise_pyRange (start stop : Int) {step : Int} (hstep : 0 < step) :
    (pyRange start stop step).Pairwise (· < ·) := by
  unfold pyRange
  refine List.pairwise_map.2 (List.pairwise_lt_range.imp ?_)
  intro i j hij
  have hmul : (i : Int) * step < (j : Int) * step := Int.mul_lt_mul_of_pos_right (by omega) hstep
  omega

section Consecutive

variable {start middle stop x : Int}

theorem mem_pyRange_one : x ∈ pyRange start stop 1 ↔ start ≤ x ∧ x < stop := by
  rw [mem_pyRange Int.one_pos]
  constructor
  · rintro ⟨i, rfl, hlt⟩
    omega
  · rintro ⟨hle, hlt⟩
    exact ⟨(x - start).toNat, by omega, hlt⟩

theorem pyRange_one_of_le (h : stop ≤ start) : pyRange start stop 1 = [] := by
  rw [List.eq_nil_iff_forall_not_mem]
  intro x hx
  have hrange := mem_pyRange_one.1 hx
  omega

theorem pyRange_one_append (hstart : start ≤ middle) (hstop : middle ≤ stop) :
    pyRange start middle 1 ++ pyRange middle stop 1 = pyRange start stop 1 := by
  have hsorted : (pyRange start middle 1 ++ pyRange middle stop 1).Pairwise (· < ·) := by
    refine List.pairwise_append.2 ⟨pairwise_pyRange _ _ Int.one_pos, pairwise_pyRange _ _ Int.one_pos, ?_⟩
    intro x hx y hy
    have hbefore := mem_pyRange_one.1 hx
    have hafter := mem_pyRange_one.1 hy
    omega
  refine hsorted.eq_of_mem_iff (pairwise_pyRange _ _ Int.one_pos) fun x => ?_
  rw [List.mem_append, mem_pyRange_one, mem_pyRange_one, mem_pyRange_one]
  omega

theorem getLast_pyRange_one (h : start < stop) : (pyRange start stop 1).getLast? = some (stop - 1) := by
  have hone : pyRange (stop - 1) stop 1 = [stop - 1] := by
    refine (pairwise_pyRange _ _ Int.one_pos).eq_of_mem_iff (List.pairwise_singleton _ _) fun x => ?_
    rw [mem_pyRange_one, List.mem_singleton]
    omega
  rw [← pyRange_one_append (show start ≤ stop - 1 by omega) (show stop - 1 ≤ stop by omega), hone]
  exact List.getLast?_concat

end Consecutive

/-- The starts of the windows in `[start, stop)`: the grid, and the window at the end. -/
def windowStarts (start stop window stride : Int) : List Int :=
  let starts := pyRange start (stop - window + 1) stride
  if stop - window ∈ starts then starts else starts ++ [stop - window]

section WindowStarts

variable {start stop window stride : Int} (hstride : 0 < stride)
include hstride

/-- A start leaves room for the window. -/
theorem mem_windowStarts (hfits : window ≤ stop - start) {x : Int} (hx : x ∈ windowStarts start stop window stride) :
    start ≤ x ∧ x + window ≤ stop := by
  have hgrid : ∀ y ∈ pyRange start (stop - window + 1) stride, start ≤ y ∧ y + window ≤ stop := by
    intro y hy
    rcases (mem_pyRange hstride).1 hy with ⟨i, rfl, hlt⟩
    have hnonneg : 0 ≤ (i : Int) * stride := Int.mul_nonneg (by omega) (by omega)
    omega
  unfold windowStarts at hx
  simp only at hx
  split at hx
  · exact hgrid x hx
  · rcases List.mem_append.1 hx with hx | hx
    · exact hgrid x hx
    · rw [List.mem_singleton.1 hx]
      omega

theorem pairwise_windowStarts : (windowStarts start stop window stride).Pairwise (· < ·) := by
  have hgrid := pairwise_pyRange start (stop - window + 1) hstride
  unfold windowStarts
  simp only
  split
  · exact hgrid
  · rename_i hlast
    rw [List.pairwise_append]
    refine ⟨hgrid, List.pairwise_singleton _ _, ?_⟩
    intro x hx y hy
    rw [List.mem_singleton.1 hy]
    rcases (mem_pyRange hstride).1 hx with ⟨_, _, hlt⟩
    rcases lt_or_eq_of_le (show x ≤ stop - window by omega) with hless | rfl
    · exact hless
    · exact absurd hx hlast

omit hstride in
/-- One window ends where the interval does. -/
theorem last_mem_windowStarts : stop - window ∈ windowStarts start stop window stride := by
  unfold windowStarts
  simp only
  split
  · assumption
  · simp

/-- When the stride is no longer than the window, no sample is left out. -/
theorem windowStarts_cover (hshort : stride ≤ window) {x : Int} (hstart : start ≤ x) (hx : x < stop) :
    ∃ y ∈ windowStarts start stop window stride, y ≤ x ∧ x < y + window := by
  by_cases htail : stop - window ≤ x
  · exact ⟨stop - window, last_mem_windowStarts, htail, by omega⟩
  · -- the window of the grid that starts last before `x`
    have hdiv := Int.emod_add_mul_ediv (x - start) stride
    have hmod := Int.emod_lt_of_pos (x - start) hstride
    have hmod' := Int.emod_nonneg (x - start) (by omega : stride ≠ 0)
    have hquot : 0 ≤ (x - start) / stride := Int.ediv_nonneg (by omega) (by omega)
    have hcast : (((x - start) / stride).toNat : Int) = (x - start) / stride := Int.toNat_of_nonneg hquot
    have hgrid : start + (((x - start) / stride).toNat : Int) * stride ∈ pyRange start (stop - window + 1) stride := by
      refine (mem_pyRange hstride).2 ⟨_, rfl, ?_⟩
      rw [hcast, Int.mul_comm]
      omega
    refine ⟨start + (((x - start) / stride).toNat : Int) * stride, ?_, ?_, ?_⟩
    · unfold windowStarts
      simp only
      split
      · exact hgrid
      · exact List.mem_append_left _ hgrid
    · rw [hcast, Int.mul_comm]
      omega
    · rw [hcast, Int.mul_comm]
      omega

/-- The last start of the grid is the only one that can be the end's. -/
theorem getLast_pyRange_eq_iff {x : Int} (hlast : (pyRange start (stop - window + 1) stride).getLast? = some x) :
    x = stop - window ↔ stop - window ∈ pyRange start (stop - window + 1) stride := by
  constructor
  · rintro rfl
    exact List.mem_of_getLast? hlast
  · intro hmem
    rcases List.getLast?_eq_some_iff.1 hlast with ⟨before, hbefore⟩
    have hx : x < stop - window + 1 := ((mem_pyRange hstride).1 (List.mem_of_getLast? hlast)).choose_spec.2
    have hsorted := pairwise_pyRange start (stop - window + 1) hstride
    rw [hbefore] at hmem hsorted
    rcases List.mem_append.1 hmem with hmem | hmem
    · have hlt := (List.pairwise_append.1 hsorted).2.2 _ hmem x (List.mem_singleton.2 rfl)
      omega
    · exact (List.mem_singleton.1 hmem).symm

end WindowStarts

end LeoFlow
