import Mathlib

/-!
# LeoFlow.Core.Effect — programs with state and exceptions

`EStateM ε σ`: an exception keeps the state it was raised in. `Keeps I x` says that
`x` keeps the invariant `I` whether it returns or raises; `Ensures I Q x` adds what
holds of a result. Both are closed under the ways programs are composed.
-/

namespace LeoFlow

namespace Effect

variable {ε σ α β : Type}

/-- The state at the end, raising or not. -/
def state : EStateM.Result ε σ α → σ
  | .ok _ s => s
  | .error _ s => s

/-- The outcome as a value. -/
def attempt (x : EStateM ε σ α) : EStateM ε σ (Except ε α) := fun s =>
  match x.run s with
  | .ok a t => .ok (.ok a) t
  | .error e t => .ok (.error e) t

theorem run_tryCatch (x : EStateM ε σ α) (h : ε → EStateM ε σ α) (s : σ) :
    (tryCatch x h : EStateM ε σ α).run s =
      match x.run s with
      | .ok a t => .ok a t
      | .error e t => (h e).run t := by
  show EStateM.tryCatch x h s = match x s with
    | .ok a t => .ok a t
    | .error e t => h e t
  unfold EStateM.tryCatch
  cases x s <;> rfl

theorem run_attempt (x : EStateM ε σ α) (s : σ) :
    (attempt x).run s =
      match x.run s with
      | .ok a t => .ok (.ok a) t
      | .error e t => .ok (.error e) t := rfl

variable {x : EStateM ε σ α} {f : α → EStateM ε σ β}

/-- What a sequence that returned did. -/
theorem bind_ok {s t : σ} {b : β} :
    (x >>= f).run s = .ok b t ↔ ∃ a u, x.run s = .ok a u ∧ (f a).run u = .ok b t := by
  rw [EStateM.run_bind]
  cases x.run s with
  | ok a u =>
    constructor
    · intro h
      exact ⟨a, u, rfl, h⟩
    · rintro ⟨_, _, heq, h⟩
      cases heq
      exact h
  | error e u =>
    constructor
    · intro h
      cases h
    · rintro ⟨_, _, heq, _⟩
      cases heq

theorem run_bind_of_ok {s u : σ} {a : α} (h : x.run s = .ok a u) : (x >>= f).run s = (f a).run u := by
  rw [EStateM.run_bind, h]

theorem run_bind_of_error {s u : σ} {e : ε} (h : x.run s = .error e u) : (x >>= f).run s = .error e u := by
  rw [EStateM.run_bind, h]

/-! ## Invariants -/

/-- The program keeps `I`, and `Q` holds of its result and last state if it returns. -/
def Ensures (I : σ → Prop) (Q : α → σ → Prop) (x : EStateM ε σ α) : Prop :=
  ∀ s, I s →
    match x.run s with
    | .ok a t => I t ∧ Q a t
    | .error _ t => I t

/-- The program keeps `I`, raising or not. -/
abbrev Keeps (I : σ → Prop) (x : EStateM ε σ α) : Prop := Ensures I (fun _ _ => True) x

variable {I : σ → Prop} {Q : α → σ → Prop} {R : β → σ → Prop}

theorem Ensures.of_ok (h : Ensures I Q x) {s t : σ} {a : α} (hs : I s) (hrun : x.run s = .ok a t) : I t ∧ Q a t := by
  have := h s hs
  rw [hrun] at this
  exact this

theorem Ensures.of_error (h : Ensures I Q x) {s t : σ} {e : ε} (hs : I s) (hrun : x.run s = .error e t) : I t := by
  have := h s hs
  rw [hrun] at this
  exact this

theorem ensures_pure {a : α} (h : ∀ s, I s → Q a s) : Ensures I Q (pure a : EStateM ε σ α) :=
  fun s hs => ⟨hs, h s hs⟩

theorem keeps_pure (a : α) : Keeps I (pure a : EStateM ε σ α) := ensures_pure fun _ _ => trivial

theorem ensures_throw (e : ε) : Ensures I Q (throw e : EStateM ε σ α) := fun _ hs => hs

theorem ensures_bind (hx : Keeps I x) (hf : ∀ a, Ensures I R (f a)) : Ensures I R (x >>= f) := by
  intro s hs
  rw [EStateM.run_bind]
  have h := hx s hs
  cases hrun : x.run s with
  | ok a t =>
    rw [hrun] at h
    exact hf a t h.1
  | error e t =>
    rw [hrun] at h
    exact h

theorem keeps_attempt (hx : Keeps I x) : Keeps I (attempt x) := by
  intro s hs
  rw [run_attempt]
  have hrun := hx s hs
  cases hcase : x.run s with
  | ok a t =>
    rw [hcase] at hrun
    exact hrun
  | error e t =>
    rw [hcase] at hrun
    exact ⟨hrun, trivial⟩

theorem keeps_foldlM {f : β → α → EStateM ε σ β} (hf : ∀ b a, Keeps I (f b a)) (as : List α) (b : β) :
    Keeps I (as.foldlM f b) := by
  induction as generalizing b with
  | nil => exact keeps_pure b
  | cons a as ih =>
    rw [List.foldlM_cons]
    exact ensures_bind (hf b a) fun b' => ih b'

/-- Either branch of a test. -/
theorem ensures_ite {p : Prop} [Decidable p] {y : EStateM ε σ α} (hx : Ensures I Q x) (hy : Ensures I Q y) : Ensures I Q (if p then x else y) := by
  split
  · exact hx
  · exact hy

end Effect

end LeoFlow
