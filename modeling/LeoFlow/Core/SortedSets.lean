import Mathlib

/-!
# LeoFlow.Core.SortedSets — sorted sets as lists

`sorted(set(xs), key=key)` depends on the members only where the key tells them apart.
-/

namespace LeoFlow

section SortedBy

variable {α κ : Type} [LinearOrder κ] {key : α → κ} {xs ys : List α}

theorem pairwise_sorted (key : α → κ) (xs : List α) :
    (xs.insertionSort fun a b => key a ≤ key b).Pairwise fun a b => key a ≤ key b := by
  have htotal : Std.Total fun a b : α => key a ≤ key b := ⟨fun a b => le_total (key a) (key b)⟩
  have htrans : IsTrans α fun a b => key a ≤ key b := ⟨fun _ _ _ hab hbc => hab.trans hbc⟩
  exact List.pairwise_insertionSort _ xs

/-- Sorting by a key that tells the items apart. -/
theorem ascending_sorted (hnodup : xs.Nodup) (hkey : ∀ a ∈ xs, ∀ b ∈ xs, key a = key b → a = b) :
    (xs.insertionSort fun a b => key a ≤ key b).Pairwise fun a b => key a < key b := by
  have hperm : (xs.insertionSort fun a b => key a ≤ key b).Perm xs := List.perm_insertionSort _ xs
  have hdistinct : (xs.insertionSort fun a b => key a ≤ key b).Pairwise (· ≠ ·) := hperm.nodup_iff.2 hnodup
  refine ((pairwise_sorted key xs).and hdistinct).imp_of_mem ?_
  rintro a b ha hb ⟨hle, hne⟩
  exact lt_of_le_of_ne hle fun heq => hne (hkey a (hperm.mem_iff.1 ha) b (hperm.mem_iff.1 hb) heq)

/-- Lists that are ascending by one key are equal when they have the same members. -/
theorem eq_of_ascending (hxs : xs.Pairwise fun a b => key a < key b) (hys : ys.Pairwise fun a b => key a < key b)
    (h : ∀ x, x ∈ xs ↔ x ∈ ys) : xs = ys := by
  have hantisymm : Std.Antisymm fun a b : α => key a < key b := ⟨fun _ _ hab hba => absurd hba (lt_asymm hab)⟩
  have hirrefl : Std.Irrefl fun a b : α => key a < key b := ⟨fun _ => lt_irrefl _⟩
  exact hxs.eq_of_mem_iff hys h

/-- The order of the items does not matter. -/
theorem sorted_perm (hperm : xs.Perm ys) (hnodup : xs.Nodup) (hkey : ∀ a ∈ xs, ∀ b ∈ xs, key a = key b → a = b) :
    (xs.insertionSort fun a b => key a ≤ key b) = ys.insertionSort fun a b => key a ≤ key b := by
  have hkey' : ∀ a ∈ ys, ∀ b ∈ ys, key a = key b → a = b := fun a ha b hb =>
    hkey a (hperm.mem_iff.2 ha) b (hperm.mem_iff.2 hb)
  refine eq_of_ascending (ascending_sorted hnodup hkey) (ascending_sorted (hperm.nodup_iff.1 hnodup) hkey') fun x => ?_
  rw [List.mem_insertionSort, List.mem_insertionSort, hperm.mem_iff]

/-- Ascending lists are related item by item when every item has its counterpart in the other. -/
theorem forall₂_of_ascending {R : α → α → Prop} (hkey : ∀ x y, R x y → key x = key y) (hxs : xs.Pairwise fun a b => key a < key b)
    (hys : ys.Pairwise fun a b => key a < key b) (hto : ∀ x ∈ xs, ∃ y ∈ ys, R x y) (hback : ∀ y ∈ ys, ∃ x ∈ xs, R x y) :
    List.Forall₂ R xs ys := by
  have hkeys : xs.map key = ys.map key := by
    have hx : (xs.map key).Pairwise (· < ·) := List.pairwise_map.2 hxs
    refine hx.eq_of_mem_iff (List.pairwise_map.2 hys) fun k => ?_
    rw [List.mem_map, List.mem_map]
    constructor
    · rintro ⟨x, hx, rfl⟩
      obtain ⟨y, hy, hxy⟩ := hto x hx
      exact ⟨y, hy, (hkey x y hxy).symm⟩
    · rintro ⟨y, hy, rfl⟩
      obtain ⟨x, hx, hxy⟩ := hback y hy
      exact ⟨x, hx, hkey x y hxy⟩
  have hlength : xs.length = ys.length := by simpa using congrArg List.length hkeys
  have hunique : ∀ y ∈ ys, ∀ y' ∈ ys, key y = key y' → y = y' := fun y hy y' hy' heq =>
    List.inj_on_of_nodup_map (List.pairwise_map.2 (hys.imp fun hlt => hlt.ne)) hy hy' heq
  refine List.forall₂_iff_zip.2 ⟨hlength, fun {x y} hmem => ?_⟩
  obtain ⟨hx, hy⟩ := List.of_mem_zip hmem
  have hequal : key x = key y := by
    have hzip := List.forall₂_iff_zip.1 (List.forall₂_eq_eq_eq ▸ hkeys)
    refine hzip.2 ?_
    rw [List.zip_map]
    exact List.mem_map_of_mem hmem
  obtain ⟨y', hy', hxy⟩ := hto x hx
  rwa [hunique y hy y' hy' (hequal.symm.trans (hkey x y' hxy))]

variable [DecidableEq α]

/-- `sorted(set(xs), key=key)` -/
def sortedBy (key : α → κ) (xs : List α) : List α := xs.dedup.insertionSort fun a b => key a ≤ key b

@[simp] theorem mem_sortedBy {x : α} : x ∈ sortedBy key xs ↔ x ∈ xs := by
  unfold sortedBy
  rw [List.mem_insertionSort, List.mem_dedup]

theorem ascending_sortedBy (hkey : ∀ a ∈ xs, ∀ b ∈ xs, key a = key b → a = b) :
    (sortedBy key xs).Pairwise fun a b => key a < key b :=
  ascending_sorted xs.nodup_dedup fun a ha b hb => hkey a (List.mem_dedup.1 ha) b (List.mem_dedup.1 hb)

theorem sortedBy_congr (hkey : ∀ a ∈ xs, ∀ b ∈ xs, key a = key b → a = b) (h : ∀ x, x ∈ xs ↔ x ∈ ys) :
    sortedBy key xs = sortedBy key ys := by
  have hkey' : ∀ a ∈ ys, ∀ b ∈ ys, key a = key b → a = b := fun a ha b hb => hkey a ((h a).2 ha) b ((h b).2 hb)
  refine eq_of_ascending (ascending_sortedBy hkey) (ascending_sortedBy hkey') fun x => ?_
  rw [mem_sortedBy, mem_sortedBy, h]

end SortedBy

section Related

variable {α β : Type} {R : α → β → Prop} {r : α → α → Prop} {s : β → β → Prop} [DecidableRel r] [DecidableRel s] {xs : List α}
  {ys : List β}

/-- Lists that are related item by item are sorted alike. -/
theorem insertionSort_related (hle : ∀ a b c d, R a c → R b d → (r a b ↔ s c d)) (h : List.Forall₂ R xs ys) :
    List.Forall₂ R (xs.insertionSort r) (ys.insertionSort s) := by
  have hinsert : ∀ {x y} {xs : List α} {ys : List β}, R x y → List.Forall₂ R xs ys →
      List.Forall₂ R (xs.orderedInsert r x) (ys.orderedInsert s y) := by
    intro x y xs ys hxy h
    induction h with
    | nil => exact .cons hxy .nil
    | @cons a b _ _ hfirst hrest ih =>
      rw [List.orderedInsert_cons, List.orderedInsert_cons]
      by_cases hr : r x a
      · rw [if_pos hr, if_pos ((hle _ _ _ _ hxy hfirst).1 hr)]
        exact .cons hxy (.cons hfirst hrest)
      · rw [if_neg hr, if_neg fun hs => hr ((hle _ _ _ _ hxy hfirst).2 hs)]
        exact .cons hfirst ih
  induction h with
  | nil => exact .nil
  | cons hxy _ ih => exact hinsert hxy ih

end Related

section SortedSet

variable {α : Type} [LinearOrder α] {xs ys : List α}

/-- `sorted(set(xs))` -/
def sortedSet (xs : List α) : List α := sortedBy id xs

@[simp] theorem mem_sortedSet {x : α} : x ∈ sortedSet xs ↔ x ∈ xs := mem_sortedBy

theorem ascending_sortedSet (xs : List α) : (sortedSet xs).Pairwise (· < ·) := ascending_sortedBy fun _ _ _ _ h => h

theorem sortedSet_congr (h : ∀ x, x ∈ xs ↔ x ∈ ys) : sortedSet xs = sortedSet ys := sortedBy_congr (fun _ _ _ _ h => h) h

/-- A list is its own sorted set when it is ascending. -/
theorem eq_sortedSet_iff : xs = sortedSet xs ↔ xs.Pairwise (· < ·) := by
  constructor
  · intro h
    rw [h]
    exact ascending_sortedSet xs
  · intro h
    exact h.eq_of_mem_iff (ascending_sortedSet xs) fun x => mem_sortedSet.symm

end SortedSet

end LeoFlow
