import Mathlib

/-!
# LeoFlow.Core.SampleUnion — the number of samples in a union of intervals

Half-open intervals taken by their starts are merged while they touch; the lengths of the merged intervals
add up to the number of distinct samples.
-/

namespace LeoFlow

/-- The samples of some interval. -/
noncomputable def coveredSamples (intervals : List (Int × Int)) : Finset Int := intervals.toFinset.biUnion fun x => Finset.Ico x.1 x.2

/-- The merging of the intervals after `[start, stop)`. -/
def unionLoop (total start stop : Int) : List (Int × Int) → Int
  | [] => total + stop - start
  | (next_start, next_stop) :: rest =>
    if next_start ≤ stop then unionLoop total start (max stop next_stop) rest
    else unionLoop (total + (stop - start)) next_start next_stop rest

/-- The samples of intervals in the order of their starts. -/
def unionCount : List (Int × Int) → Int
  | [] => 0
  | (start, stop) :: rest => unionLoop 0 start stop rest

/-- No interval ends before it starts. -/
def Forward (intervals : List (Int × Int)) : Prop := ∀ x ∈ intervals, x.1 ≤ x.2

variable {intervals : List (Int × Int)}

theorem mem_covered {sample : Int} : sample ∈ coveredSamples intervals ↔ ∃ x ∈ intervals, x.1 ≤ sample ∧ sample < x.2 := by
  unfold coveredSamples
  simp only [Finset.mem_biUnion, List.mem_toFinset, Finset.mem_Ico]

theorem covered_cons (x : Int × Int) : coveredSamples (x :: intervals) = Finset.Ico x.1 x.2 ∪ coveredSamples intervals := by
  unfold coveredSamples
  rw [List.toFinset_cons, Finset.biUnion_insert]

theorem covered_congr {intervals' : List (Int × Int)} (h : ∀ x, x ∈ intervals ↔ x ∈ intervals') :
    coveredSamples intervals = coveredSamples intervals' := by
  ext sample
  simp only [mem_covered, h]

/-- The interval `[start, stop)` and those after it, none of which starts before it. -/
theorem unionLoop_eq {total start stop : Int} (hle : start ≤ stop) (hforward : Forward intervals)
    (hlater : ∀ x ∈ intervals, start ≤ x.1) (hsorted : intervals.Pairwise fun x y => x.1 ≤ y.1) :
    unionLoop total start stop intervals = total + ((Finset.Ico start stop ∪ coveredSamples intervals).card : Int) := by
  induction intervals generalizing total start stop with
  | nil =>
    have hnone : Finset.Ico start stop ∪ coveredSamples [] = Finset.Ico start stop := Finset.union_empty _
    rw [hnone, Int.card_Ico, unionLoop]
    omega
  | cons x rest ih =>
    obtain ⟨next_start, next_stop⟩ := x
    obtain ⟨hnext, hrest⟩ := List.forall_mem_cons.1 hforward
    obtain ⟨hstart, -⟩ := List.forall_mem_cons.1 hlater
    obtain ⟨hhead, htail⟩ := List.pairwise_cons.1 hsorted
    rw [covered_cons, unionLoop]
    by_cases htouch : next_start ≤ stop
    · -- the intervals touch, so they are one
      have hmerged : Finset.Ico start stop ∪ (Finset.Ico next_start next_stop ∪ coveredSamples rest) =
          Finset.Ico start (max stop next_stop) ∪ coveredSamples rest := by
        rw [← Finset.union_assoc]
        congr 1
        ext sample
        simp only [Finset.mem_union, Finset.mem_Ico]
        omega
      rw [if_pos htouch, hmerged]
      exact ih (by omega) hrest (fun y hy => hstart.trans (hhead y hy)) htail
    · -- there is a gap, and everything else is after it
      have hdisjoint : Disjoint (Finset.Ico start stop) (Finset.Ico next_start next_stop ∪ coveredSamples rest) := by
        refine Finset.disjoint_left.2 fun sample hbefore hafter => ?_
        have hstop := (Finset.mem_Ico.1 hbefore).2
        rcases Finset.mem_union.1 hafter with hin | hin
        · have hfrom := (Finset.mem_Ico.1 hin).1
          omega
        · obtain ⟨y, hy, hfrom, -⟩ := mem_covered.1 hin
          have hnext_le := hhead y hy
          dsimp only at hnext_le
          omega
      rw [if_neg htouch, ih hnext hrest hhead htail, Finset.card_union_of_disjoint hdisjoint, Int.card_Ico]
      push_cast
      omega

theorem unionCount_eq (hforward : Forward intervals) (hsorted : intervals.Pairwise fun x y => x.1 ≤ y.1) :
    unionCount intervals = (coveredSamples intervals).card := by
  cases intervals with
  | nil => rfl
  | cons x rest =>
    obtain ⟨hnext, hrest⟩ := List.forall_mem_cons.1 hforward
    obtain ⟨hhead, htail⟩ := List.pairwise_cons.1 hsorted
    rw [covered_cons, unionCount, unionLoop_eq hnext hrest hhead htail, zero_add]

/-- Sorting puts the intervals in the order of their starts. -/
theorem unionCount_sorted_eq (hforward : Forward intervals) :
    unionCount (intervals.insertionSort fun a b => toLex a ≤ toLex b) = (coveredSamples intervals).card := by
  have htotal : Std.Total fun a b : Int × Int => toLex a ≤ toLex b := ⟨fun a b => le_total (toLex a) (toLex b)⟩
  have htrans : IsTrans (Int × Int) fun a b => toLex a ≤ toLex b := ⟨fun _ _ _ hab hbc => hab.trans hbc⟩
  have hsorted : (intervals.insertionSort fun a b => toLex a ≤ toLex b).Pairwise fun x y => x.1 ≤ y.1 := by
    refine (List.pairwise_insertionSort _ intervals).imp fun {a b} hab => ?_
    rcases (Prod.Lex.toLex_le_toLex).1 hab with hlt | ⟨heq, -⟩
    · exact hlt.le
    · exact heq.le
  have hmem : ∀ x, x ∈ (intervals.insertionSort fun a b => toLex a ≤ toLex b) ↔ x ∈ intervals := fun x => List.mem_insertionSort _
  rw [unionCount_eq (fun x hx => hforward x ((hmem x).1 hx)) hsorted, covered_congr hmem]

end LeoFlow
