import Mathlib

/-!
# LeoFlow.Core.Ranking — sets of positions, and the best of a ranking

A set of positions in ascending order, what the first items of a sorted list are, and which
items of a list a strictly ascending list of positions picks.
-/

namespace LeoFlow

namespace Ranking

/-! ## Positions -/

/-- `sorted(positions)` -/
def sorted (positions : Finset Nat) : List Nat := (List.range (positions.sup id + 1)).filter fun i => decide (i ∈ positions)

variable {positions : Finset Nat}

@[simp] theorem mem_sorted {i : Nat} : i ∈ sorted positions ↔ i ∈ positions := by
  unfold sorted
  rw [List.mem_filter, List.mem_range, decide_eq_true_eq, and_iff_right_iff_imp]
  intro hi
  exact Nat.lt_succ_of_le (Finset.le_sup (f := id) hi)

theorem sorted_ascending (positions : Finset Nat) : (sorted positions).Pairwise (· < ·) := List.pairwise_lt_range.filter _

theorem nodup_sorted : (sorted positions).Nodup := (sorted_ascending positions).imp fun h => h.ne

theorem toFinset_sorted : (sorted positions).toFinset = positions := by
  ext i
  rw [List.mem_toFinset, mem_sorted]

@[simp] theorem length_sorted : (sorted positions).length = positions.card := by
  rw [← List.toFinset_card_of_nodup nodup_sorted, toFinset_sorted]

/-! ## The first items of a sorted list -/

section Take

variable {β : Type} [LinearOrder β]

/-- An item is among the first `k` of a strictly ascending list when fewer than `k` items are below it. -/
theorem mem_take_iff {xs : List β} (hxs : xs.Pairwise (· < ·)) {x : β} (k : Nat) :
    x ∈ xs.take k ↔ x ∈ xs ∧ (xs.filter fun y => decide (y < x)).length < k := by
  induction xs generalizing k with
  | nil => simp
  | cons y ys ih =>
    have hhead : ∀ z ∈ ys, y < z := (List.pairwise_cons.1 hxs).1
    have htail := (List.pairwise_cons.1 hxs).2
    cases k with
    | zero => simp
    | succ k =>
      rw [List.take_succ_cons, List.mem_cons, List.mem_cons, ih htail]
      rcases eq_or_ne x y with rfl | hne
      · -- nothing is below the first item
        have hnone : ((x :: ys).filter fun z => decide (z < x)) = [] := by
          refine List.filter_eq_nil_iff.2 fun z hz => ?_
          rw [decide_eq_true_eq, not_lt]
          rcases List.mem_cons.1 hz with rfl | hz
          · exact le_rfl
          · exact (hhead z hz).le
        simp [hnone]
      · have hcount : x ∈ ys → ((y :: ys).filter fun z => decide (z < x)).length =
            (ys.filter fun z => decide (z < x)).length + 1 := by
          intro hx
          rw [List.filter_cons_of_pos (by simpa using hhead x hx), List.length_cons]
        constructor
        · rintro (rfl | ⟨hx, hlt⟩)
          · exact absurd rfl hne
          · exact ⟨Or.inr hx, by rw [hcount hx]; omega⟩
        · rintro ⟨rfl | hx, hlt⟩
          · exact absurd rfl hne
          · rw [hcount hx] at hlt
            exact Or.inr ⟨hx, by omega⟩

/-- The same for items with ascending keys. -/
theorem mem_take_key_iff {α : Type} {rank : α → β} {xs : List α} (hxs : xs.Pairwise fun a b => rank a < rank b) {x : α} (k : Nat) :
    x ∈ xs.take k ↔ x ∈ xs ∧ (xs.filter fun y => decide (rank y < rank x)).length < k := by
  have hkeys : (xs.map rank).Pairwise (· < ·) := List.pairwise_map.2 hxs
  have htake := mem_take_iff hkeys (x := rank x) k
  rw [← List.map_take, List.filter_map, List.length_map] at htake
  have hnodup : (xs.map rank).Nodup := hkeys.imp fun h => h.ne
  constructor
  · intro hx
    exact ⟨List.mem_of_mem_take hx, (htake.1 (List.mem_map_of_mem hx)).2⟩
  · rintro ⟨hx, hlt⟩
    obtain ⟨y, hy, heq⟩ := List.mem_map.1 (htake.2 ⟨List.mem_map_of_mem hx, hlt⟩)
    rwa [← List.inj_on_of_nodup_map hnodup (List.mem_of_mem_take hy) hx heq]

end Take

/-! ## Stable sorting -/

section Stable

variable {α β γ : Type} [LinearOrder β] [LinearOrder γ] {value : α → β} {position : α → γ}

/-- `sorted(.., reverse=True)` puts the larger first, and of equals the earlier. -/
theorem pairwise_insertionSort_descending {xs : List α} (hxs : xs.Pairwise fun a b => position a < position b) :
    (xs.insertionSort fun a b => value b ≤ value a).Pairwise
      fun a b => value b < value a ∨ value b = value a ∧ position a < position b := by
  induction xs with
  | nil => exact List.Pairwise.nil
  | cons x xs ih =>
    have hhead : ∀ y ∈ xs, position x < position y := (List.pairwise_cons.1 hxs).1
    have hrest := ih (List.pairwise_cons.1 hxs).2
    have hlater : ∀ y ∈ xs.insertionSort fun a b => value b ≤ value a, position x < position y :=
      fun y hy => hhead y ((List.mem_insertionSort _).1 hy)
    rw [List.insertionSort_cons]
    generalize (xs.insertionSort fun a b => value b ≤ value a) = ys at hrest hlater
    induction ys with
    | nil => exact List.pairwise_singleton _ _
    | cons y ys ihys =>
      obtain ⟨hy, hys⟩ := List.pairwise_cons.1 hrest
      by_cases hle : value y ≤ value x
      · rw [List.orderedInsert, if_pos hle]
        refine List.pairwise_cons.2 ⟨fun z hz => ?_, hrest⟩
        have hzy : value z ≤ value y := by
          rcases List.mem_cons.1 hz with rfl | hz
          · exact le_rfl
          · rcases hy z hz with hlt | ⟨heq, -⟩
            · exact hlt.le
            · exact heq.le
        rcases lt_or_eq_of_le (hzy.trans hle) with hlt | heq
        · exact Or.inl hlt
        · exact Or.inr ⟨heq, hlater z hz⟩
      · rw [List.orderedInsert, if_neg hle]
        refine List.pairwise_cons.2 ⟨fun z hz => ?_, ihys hys fun z hz => hlater z (List.mem_cons_of_mem _ hz)⟩
        rcases (List.mem_orderedInsert _).1 hz with rfl | hz
        · exact Or.inl (not_le.1 hle)
        · exact hy z hz

end Stable

/-- Lists that agree on their keys are sorted alike. -/
theorem forall₂_insertionSort {α α' β : Type} [LinearOrder β] (value : α → β) (value' : α' → β) {R : α → α' → Prop}
    (hvalue : ∀ a a', R a a' → value a = value' a') {xs : List α} {ys : List α'} (h : List.Forall₂ R xs ys) :
    List.Forall₂ R (xs.insertionSort fun a b => value b ≤ value a) (ys.insertionSort fun a b => value' b ≤ value' a) := by
  induction h with
  | nil => exact .nil
  | @cons x y xs ys hxy _ ih =>
    rw [List.insertionSort_cons, List.insertionSort_cons]
    generalize (xs.insertionSort fun a b => value b ≤ value a) = us at ih
    generalize (ys.insertionSort fun a b => value' b ≤ value' a) = vs at ih
    induction ih with
    | nil => exact .cons hxy .nil
    | @cons u v us vs huv hrest ihrest =>
      by_cases hle : value u ≤ value x
      · rw [List.orderedInsert, if_pos hle, List.orderedInsert, if_pos (by rwa [← hvalue u v huv, ← hvalue x y hxy])]
        exact .cons hxy (.cons huv hrest)
      · rw [List.orderedInsert, if_neg hle, List.orderedInsert, if_neg (by rwa [← hvalue u v huv, ← hvalue x y hxy])]
        exact .cons huv ihrest

/-! ## Picking by position -/

section Pick

variable {α : Type} {xs ys : List α} {is : List Nat}

theorem pick_sublist_drop (his : is.Pairwise (· < ·)) (hys : List.Forall₂ (fun i y => xs[i]? = some y) is ys)
    {start : Nat} (hstart : ∀ i ∈ is, start ≤ i) : ys.Sublist (xs.drop start) := by
  induction hys generalizing start with
  | nil => exact List.nil_sublist _
  | @cons i y is ys hy _ ih =>
    obtain ⟨hi, his⟩ := List.pairwise_cons.1 his
    have hrest : ys.Sublist (xs.drop (i + 1)) := ih his hi
    obtain ⟨hlt, hget⟩ := List.getElem?_eq_some_iff.1 hy
    have hfrom : xs.drop i = y :: xs.drop (i + 1) := by rw [List.drop_eq_getElem_cons hlt, hget]
    have hle : start ≤ i := hstart i List.mem_cons_self
    have hsub : (xs.drop i).Sublist (xs.drop start) := by
      obtain ⟨k, rfl⟩ := Nat.exists_eq_add_of_le hle
      rw [← List.drop_drop]
      exact List.drop_sublist k _
    have hcons : (y :: ys).Sublist (xs.drop i) := by
      rw [hfrom]
      exact hrest.cons_cons y
    exact hcons.trans hsub

/-- The items at ascending positions are a sublist. -/
theorem pick_sublist (his : is.Pairwise (· < ·)) (hys : List.Forall₂ (fun i y => xs[i]? = some y) is ys) :
    ys.Sublist xs :=
  pick_sublist_drop his hys fun i _ => Nat.zero_le i

end Pick

end Ranking

end LeoFlow
