import Mathlib

/-!
# LeoFlow.Core.Trellis — best walks through layers of states

A walk takes one state of every layer. It gains what the layers give its states and pays for
its moves. The dynamic programme keeps for every state the score of the best walk that ends
there and the state before it on that walk; following these states back gives the walk.
-/

namespace LeoFlow

structure Trellis (κ α : Type) where
  State : κ → Prop
  /-- The first state may come before the second. -/
  Before : κ → κ → Prop
  /-- The price of the move. -/
  cost : κ → κ → α

namespace Trellis

variable {κ α : Type}

/-- A walk, its last state first. -/
def Walk (T : Trellis κ α) : List κ → Prop
  | [] => False
  | [state] => T.State state
  | state :: previous :: walk => T.State state ∧ T.Before previous state ∧ T.Walk (previous :: walk)

variable [AddCommGroup α]

/-- What a walk gains, with the layers in the same order. -/
def value (T : Trellis κ α) : List (κ → α) → List κ → α
  | gain :: gains, state :: previous :: walk => gain state + T.value gains (previous :: walk) - T.cost previous state
  | gain :: _, [state] => gain state
  | _, _ => 0

variable {walk : List κ}

theorem Walk.head {T : Trellis κ α} {state : κ} (h : T.Walk (state :: walk)) : T.State state := by
  cases walk with
  | nil => exact h
  | cons previous walk => exact h.1

variable [LinearOrder α] [IsOrderedAddMonoid α]

/-- Scores and walks of the dynamic programme after some layers: the walk to a state has the score of
the state, and no other walk to it gains more. -/
structure Solves (T : Trellis κ α) (gains : List (κ → α)) (score : κ → α) (trace : κ → List κ) : Prop where
  walk : ∀ state, T.State state →
    T.Walk (trace state) ∧ (trace state).head? = some state ∧ (trace state).length = gains.length
  value : ∀ state, T.State state → T.value gains (trace state) = score state
  best : ∀ state walk, T.Walk (state :: walk) → (state :: walk).length = gains.length →
    T.value gains (state :: walk) ≤ score state

section Solves

variable {T : Trellis κ α} {gains : List (κ → α)} {score score' : κ → α} {trace trace' : κ → List κ} {gain : κ → α}
  {parent : κ → κ}

theorem solves_single (T : Trellis κ α) (gain : κ → α) : T.Solves [gain] gain fun state => [state] where
  walk := fun _ hstate => ⟨hstate, rfl, rfl⟩
  value := fun _ _ => rfl
  best := by
    intro state walk _ hlength
    have hnil : walk = [] := List.length_eq_zero_iff.1 (Nat.succ.inj hlength)
    rw [hnil]
    exact le_rfl

theorem Solves.congr (h : T.Solves gains score trace) (hscore : ∀ state, T.State state → score' state = score state)
    (htrace : ∀ state, T.State state → trace' state = trace state) : T.Solves gains score' trace' where
  walk := fun state hstate => by
    rw [htrace state hstate]
    exact h.walk state hstate
  value := fun state hstate => by
    rw [htrace state hstate, hscore state hstate]
    exact h.value state hstate
  best := fun state walk hwalk hlength => by
    rw [hscore state hwalk.head]
    exact h.best state walk hwalk hlength

/-- A walk of the trellis is a state, and a walk to a state before it. -/
theorem walk_cons {state previous : κ} (hstate : T.State state) (hbefore : T.Before previous state)
    (hwalk : T.Walk walk) (hhead : walk.head? = some previous) : T.Walk (state :: walk) := by
  cases walk with
  | nil => nomatch hhead
  | cons first walk =>
    cases hhead
    exact ⟨hstate, hbefore, hwalk⟩

theorem value_cons {state previous : κ} (hhead : walk.head? = some previous) :
    T.value (gain :: gains) (state :: walk) = gain state + T.value gains walk - T.cost previous state := by
  cases walk with
  | nil => nomatch hhead
  | cons first walk =>
    cases hhead
    rfl

/-- One more layer: every state takes the best state before it. -/
theorem Solves.step (h : T.Solves gains score trace) (hsome : gains ≠ [])
    (hparent : ∀ state, T.State state → T.State (parent state) ∧ T.Before (parent state) state)
    (hbest : ∀ state previous, T.State state → T.State previous → T.Before previous state →
      score previous - T.cost previous state ≤ score (parent state) - T.cost (parent state) state) :
    T.Solves (gain :: gains) (fun state => gain state + score (parent state) - T.cost (parent state) state)
      fun state => state :: trace (parent state) where
  walk := by
    intro state hstate
    rcases hparent state hstate with ⟨hprevious, hbefore⟩
    rcases h.walk _ hprevious with ⟨hwalk, hhead, hlength⟩
    exact ⟨walk_cons hstate hbefore hwalk hhead, rfl, by rw [List.length_cons, List.length_cons, hlength]⟩
  value := by
    intro state hstate
    have hprevious := (hparent state hstate).1
    rw [value_cons (h.walk _ hprevious).2.1, h.value _ hprevious]
  best := by
    intro state walk hwalk hlength
    cases walk with
    | nil =>
      rw [List.length_singleton, List.length_cons] at hlength
      exact absurd (List.length_eq_zero_iff.1 (Nat.succ.inj hlength).symm) hsome
    | cons previous walk =>
      rcases hwalk with ⟨hstate, hbefore, hrest⟩
      have hvalue := h.best previous walk hrest (Nat.succ.inj hlength)
      have hmove := hbest state previous hstate hrest.head hbefore
      calc T.value (gain :: gains) (state :: previous :: walk)
          = gain state + T.value gains (previous :: walk) - T.cost previous state := rfl
        _ ≤ gain state + score previous - T.cost previous state := by gcongr
        _ = gain state + (score previous - T.cost previous state) := by abel
        _ ≤ gain state + (score (parent state) - T.cost (parent state) state) := by gcongr
        _ = gain state + score (parent state) - T.cost (parent state) state := by abel

/-- The walk to a state with the highest score is the best of all. -/
theorem Solves.highest (h : T.Solves gains score trace) {last : κ} (hlast : T.State last)
    (hhighest : ∀ state, T.State state → score state ≤ score last) (hwalk : T.Walk walk)
    (hlength : walk.length = gains.length) : T.value gains walk ≤ T.value gains (trace last) := by
  rw [h.value last hlast]
  cases walk with
  | nil => exact hwalk.elim
  | cons state walk => exact (h.best state walk hwalk hlength).trans (hhighest state hwalk.head)

end Solves

end Trellis

end LeoFlow
