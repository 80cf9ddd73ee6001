import LeoFlow.Contracts.Validation

/-!
# LeoFlow.Core.Alike — two runs side by side

Two runs are alike when both raise the same error or both return, with related results. A
computation whose parts are alike on two inputs is alike on them.
-/

namespace LeoFlow

/-- Both runs raise the same, or return related results. -/
inductive Alike {ε α β : Type} (R : α → β → Prop) : Except ε α → Except ε β → Prop where
  | ok {a : α} {b : β} (related : R a b) : Alike R (.ok a) (.ok b)
  | error (e : ε) : Alike R (.error e) (.error e)

namespace Alike

variable {ε α β γ δ : Type} {R : α → β → Prop} {S : γ → δ → Prop} {x : Except ε α} {y : Except ε β}

theorem bind {f : α → Except ε γ} {g : β → Except ε δ} (h : Alike R x y) (hnext : ∀ a b, R a b → Alike S (f a) (g b)) :
    Alike S (x >>= f) (y >>= g) := by
  cases h with
  | ok related => exact hnext _ _ related
  | error e => exact .error e

/-- A run beside itself. -/
theorem refl (x : Except ε α) : Alike Eq x x := by
  cases x with
  | ok a => exact .ok rfl
  | error e => exact .error e

theorem mapM {f : γ → Except ε α} {g : γ → Except ε β} {items : List γ} (h : ∀ c ∈ items, Alike R (f c) (g c)) :
    Alike (List.Forall₂ R) (items.mapM f) (items.mapM g) := by
  induction items with
  | nil => exact .ok .nil
  | cons item items ih =>
    rw [List.mapM_cons, List.mapM_cons]
    refine (h item List.mem_cons_self).bind fun a b hab => ?_
    refine (ih fun c hc => h c (List.mem_cons_of_mem _ hc)).bind fun as bs hall => ?_
    exact .ok (.cons hab hall)

/-- Both return, if one does. -/
theorem exists_ok {b : β} (h : Alike R x (.ok b)) : ∃ a, x = .ok a ∧ R a b := by
  cases h with
  | ok related => exact ⟨_, rfl, related⟩

end Alike

end LeoFlow
