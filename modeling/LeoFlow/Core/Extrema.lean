import Mathlib

/-!
# LeoFlow.Core.Extrema — the first best item of a list

Python's `max(xs, key=f)` and `min(xs, key=f)` are `List.argmax` and `List.argmin`: of items
with the same key the first is taken.
-/

namespace LeoFlow

section Permutation

variable {α β : Type} [LinearOrder β] {f : α → β} {xs ys : List α}

/-- Where the keys tell the items apart, the best item does not depend on the order. -/
theorem argmax_perm (hperm : xs.Perm ys) (hkey : ∀ a ∈ xs, ∀ b ∈ xs, f a = f b → a = b) :
    xs.argmax f = ys.argmax f := by
  cases hxs : xs.argmax f with
  | none =>
    have hnil := List.argmax_eq_none.1 hxs
    subst hnil
    rw [List.nil_perm.1 hperm, List.argmax_nil]
  | some a =>
    cases hys : ys.argmax f with
    | none =>
      have hnil := List.argmax_eq_none.1 hys
      subst hnil
      rw [List.perm_nil.1 hperm, List.argmax_nil] at hxs
      cases hxs
    | some b =>
      have ha := List.argmax_mem hxs
      have hb := hperm.mem_iff.2 (List.argmax_mem hys)
      have hle := List.le_of_mem_argmax hb hxs
      have hge := List.le_of_mem_argmax (hperm.mem_iff.1 ha) hys
      rw [hkey a ha b hb (le_antisymm hge hle)]

theorem argmin_perm (hperm : xs.Perm ys) (hkey : ∀ a ∈ xs, ∀ b ∈ xs, f a = f b → a = b) :
    xs.argmin f = ys.argmin f :=
  argmax_perm (β := βᵒᵈ) hperm hkey

end Permutation

end LeoFlow
