import Mathlib

/-!
# LeoFlow.Core.Machine — executable machines and rules about their runs

A machine is a transition function whose label carries every choice of a step
(which process moves, what the clock reads, what a remote call answers), so a
run is a list of labels and can be evaluated.

* `Reachable` and `init_invariant`: the usual inductive-invariance rule;
* `AllStates` / `AllSteps`: what holds in every state of one run, and of every
  step of one run;
* `allStates_iff_allSteps`: when a step keeps a property exactly if the step
  meets a guard, a run keeps the property exactly if all its steps meet the
  guard.
-/

namespace LeoFlow

universe u v

/-- A machine with labelled steps; `step s a = none` when `a` is not enabled. -/
structure Machine (σ : Type u) (α : Type v) where
  Init : σ → Prop
  step : σ → α → Option σ

namespace Machine

variable {σ : Type u} {α : Type v} (M : Machine σ α)

/-- States some run from an initial state ends in. -/
inductive Reachable : σ → Prop where
  | init {s : σ} : M.Init s → Reachable s
  | step {s t : σ} (a : α) : Reachable s → M.step s a = some t → Reachable t

/-- The state after all labels of a run, or `none` when one is not enabled. -/
def run : σ → List α → Option σ
  | s, [] => some s
  | s, a :: as => (M.step s a).bind fun t => run t as

/-- `P` holds in every state the run visits (up to its first disabled label). -/
def AllStates (P : σ → Prop) : σ → List α → Prop
  | s, [] => P s
  | s, a :: as => P s ∧ ∀ t, M.step s a = some t → AllStates P t as

/-- `G` holds of every step the run takes, read in the state before the step. -/
def AllSteps (G : σ → α → Prop) : σ → List α → Prop
  | _, [] => True
  | s, a :: as => ∀ t, M.step s a = some t → G s a ∧ AllSteps G t as

instance decidableAllStates {P : σ → Prop} [DecidablePred P] (s : σ) :
    (as : List α) → Decidable (M.AllStates P s as)
  | [] => inferInstanceAs (Decidable (P s))
  | a :: as =>
    match h : M.step s a with
    | none => decidable_of_iff (P s) (by simp [AllStates, h])
    | some t =>
      have : Decidable (M.AllStates P t as) := decidableAllStates t as
      decidable_of_iff (P s ∧ M.AllStates P t as) (by simp [AllStates, h])

instance decidableAllSteps {G : σ → α → Prop} [∀ s, DecidablePred (G s)] (s : σ) :
    (as : List α) → Decidable (M.AllSteps G s as)
  | [] => inferInstanceAs (Decidable True)
  | a :: as =>
    match h : M.step s a with
    | none => isTrue (by simp [AllSteps, h])
    | some t =>
      have : Decidable (M.AllSteps G t as) := decidableAllSteps t as
      decidable_of_iff (G s a ∧ M.AllSteps G t as) (by simp [AllSteps, h])

/-! ## Invariants -/

variable {Inv : σ → Prop} {s : σ}

/-- Inductive invariance. -/
theorem init_invariant (hinit : ∀ s, M.Init s → Inv s) (hstep : ∀ s a t, Inv s → M.step s a = some t → Inv t)
    (h : M.Reachable s) : Inv s := by
  induction h with
  | init h0 => exact hinit _ h0
  | step a _ hs ih => exact hstep _ a _ ih hs

/-- A run from a reachable state ends in a reachable state. -/
theorem run_reachable {t : σ} {as : List α} (hs : M.Reachable s) (h : M.run s as = some t) : M.Reachable t := by
  induction as generalizing s with
  | nil =>
    simp only [run, Option.some.injEq] at h
    exact h ▸ hs
  | cons a as ih =>
    simp only [run, Option.bind_eq_some_iff] at h
    obtain ⟨u, hu, hrest⟩ := h
    exact ih (Reachable.step a hs hu) hrest

variable {P : σ → Prop}

/-- A property of all visited states holds in the last one. -/
theorem run_allStates {t : σ} {as : List α} (hall : M.AllStates P s as) (h : M.run s as = some t) : P t := by
  induction as generalizing s with
  | nil =>
    simp only [run, Option.some.injEq] at h
    exact h ▸ hall
  | cons a as ih =>
    simp only [run, Option.bind_eq_some_iff] at h
    obtain ⟨u, hu, hrest⟩ := h
    exact ih (hall.2 u hu) hrest

/-! ## Conditional safety -/

variable {G : σ → α → Prop}

theorem AllSteps.and_mem {Q : α → Prop} {as : List α} (h : M.AllSteps G s as) (hQ : ∀ a ∈ as, Q a) : M.AllSteps (fun s a => Q a ∧ G s a) s as := by
  induction as generalizing s with
  | nil => trivial
  | cons a as ih =>
    intro t ht
    obtain ⟨hg, hrest⟩ := h t ht
    exact ⟨⟨hQ a List.mem_cons_self, hg⟩, ih hrest fun b hb => hQ b (List.mem_cons_of_mem a hb)⟩

/-- An invariant that guarded steps keep holds along every run of guarded steps. -/
theorem allStates_of_allSteps (hkeep : ∀ s a t, Inv s → G s a → M.step s a = some t → Inv t)
    (hstate : ∀ s, Inv s → P s) (hs : Inv s) {as : List α} (h : M.AllSteps G s as) : M.AllStates P s as := by
  induction as generalizing s with
  | nil => exact hstate s hs
  | cons a as ih =>
    refine ⟨hstate s hs, ?_⟩
    intro t ht
    obtain ⟨hg, hrest⟩ := h t ht
    exact ih (hkeep s a t hs hg ht) hrest

/-- What an invariant gives for every step holds along every run. -/
theorem allSteps_of_inv (hkeep : ∀ s a t, Inv s → M.step s a = some t → Inv t) (hstep : ∀ s a, Inv s → G s a)
    (hs : Inv s) (as : List α) : M.AllSteps G s as := by
  induction as generalizing s with
  | nil => trivial
  | cons a as ih =>
    intro t ht
    constructor
    · exact hstep s a hs
    · exact ih (hkeep s a t hs ht)

/-- What an invariant gives for every state holds along every run. -/
theorem allStates_of_inv (hkeep : ∀ s a t, Inv s → M.step s a = some t → Inv t) (hstate : ∀ s, Inv s → P s)
    (hs : Inv s) (as : List α) : M.AllStates P s as := by
  induction as generalizing s with
  | nil => exact hstate s hs
  | cons a as ih =>
    constructor
    · exact hstate s hs
    · intro t ht
      exact ih (hkeep s a t hs ht)

/-- What holds in every reachable state holds along every run. -/
theorem allStates_of_reachable (h : ∀ s, M.Reachable s → P s) (hs : M.Reachable s) (as : List α) : M.AllStates P s as :=
  M.allStates_of_inv (fun _ a _ hs hstep => .step a hs hstep) h hs as

/-- Under an invariant of all steps, if one step keeps `P` exactly when it meets
the guard, then a run from a `P` state stays in `P` exactly when each of its
steps meets the guard. -/
theorem allStates_iff_allSteps (hkeep : ∀ s a t, Inv s → M.step s a = some t → Inv t)
    (hexact : ∀ s a t, Inv s → P s → M.step s a = some t → (P t ↔ G s a)) (hs : Inv s) (hP : P s) (as : List α) :
    M.AllStates P s as ↔ M.AllSteps G s as := by
  induction as generalizing s with
  | nil => exact iff_of_true hP trivial
  | cons a as ih =>
    constructor
    · rintro ⟨_, hrest⟩ t ht
      have hPt : P t := by
        cases as with
        | nil => exact hrest t ht
        | cons b bs => exact (hrest t ht).1
      exact ⟨(hexact s a t hs hP ht).1 hPt, (ih (hkeep s a t hs ht) hPt).1 (hrest t ht)⟩
    · intro hall
      refine ⟨hP, fun t ht => ?_⟩
      obtain ⟨hg, hrest⟩ := hall t ht
      exact (ih (hkeep s a t hs ht) ((hexact s a t hs hP ht).2 hg)).2 hrest

end Machine

end LeoFlow
