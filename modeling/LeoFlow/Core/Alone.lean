import LeoFlow.Core.Journal

/-!
# LeoFlow.Core.Alone — one program run to its end

`Prog.exec` runs a program alone on the journal, with given answers of the ports, to the journal
it leaves and its result. Such a run is a run of the machine of any number of processes
(`Journal.exec_reached`), so what programs reach one after the other is reachable.
-/

namespace LeoFlow

namespace Prog

variable {σ ι ε α β : Type} {ο : ι → Type}

/-- The journal afterwards and the result. -/
def exec (cas : CompareAndSwap σ ε) (answer : ∀ q, ο q) : σ → Prog σ ι ο ε α → σ × Except ε α
  | s, pure a => (s, .ok a)
  | s, raise e => (s, .error e)
  | s, load k => (k s).exec cas answer s
  | s, swap n r k =>
    match cas.swap s n r with
    | .ok t => k.exec cas answer t
    | .error e => (s, .error e)
  | s, call q k => (k (answer q)).exec cas answer s

variable {cas : CompareAndSwap σ ε} {answer : ∀ q, ο q} {s : σ}

@[simp] theorem exec_pure {a : α} : (Pure.pure a : Prog σ ι ο ε α).exec cas answer s = (s, .ok a) := rfl

@[simp] theorem exec_raise {e : ε} : (raise e : Prog σ ι ο ε α).exec cas answer s = (s, .error e) := rfl

theorem exec_bind (x : Prog σ ι ο ε α) (f : α → Prog σ ι ο ε β) :
    (x >>= f).exec cas answer s =
      match x.exec cas answer s with
      | (t, .ok a) => (f a).exec cas answer t
      | (t, .error e) => (t, .error e) := by
  show (x.bind f).exec cas answer s = _
  induction x generalizing s with
  | pure a => rfl
  | raise e => rfl
  | load k ih => exact ih s
  | swap n r k ih =>
    simp only [bind, exec]
    cases cas.swap s n r with
    | ok t => exact ih
    | error e => rfl
  | call q k ih => exact ih (answer q)

/-- Go on after a computation that returned. -/
theorem exec_bind_ok {x : Prog σ ι ο ε α} {f : α → Prog σ ι ο ε β} {t : σ} {a : α}
    (h : x.exec cas answer s = (t, .ok a)) : (x >>= f).exec cas answer s = (f a).exec cas answer t := by
  rw [exec_bind, h]

@[simp] theorem exec_ofExcept (x : Except ε α) : (ofExcept x : Prog σ ι ο ε α).exec cas answer s = (s, x) := by
  cases x <;> rfl

theorem exec_read : (read : Prog σ ι ο ε σ).exec cas answer s = (s, .ok s) := rfl

theorem exec_ask {q : ι} : (ask q : Prog σ ι ο ε (ο q)).exec cas answer s = (s, .ok (answer q)) := rfl

theorem exec_replace {n : Nat} {r t : σ} (h : cas.swap s n r = .ok t) :
    (replace n r : Prog σ ι ο ε σ).exec cas answer s = (t, .ok r) := by
  simp only [replace, exec, h]

end Prog

namespace Journal

variable {P Op σ ι ε α : Type} {ο : ι → Type} [DecidableEq P] {cas : CompareAndSwap σ ε} {initial : σ}
  {program : Op → Prog σ ι ο ε α}

/-- A running process that alone takes steps runs to its end. -/
theorem exec_steps (answer : ∀ q, ο q) {p : P} {x : Prog σ ι ο ε α} (st : State P σ ι ο ε α)
    (hp : st.procs p = some x) (hst : (machine cas initial program).Reachable st) :
    ∃ st', (machine cas initial program).Reachable st' ∧ st'.journal = (x.exec cas answer st.journal).1 ∧
      st'.procs p = none := by
  have step : ∀ (st : State P σ ι ο ε α) (x : Prog σ ι ο ε α), st.procs p = some x →
      (machine cas initial program).Reachable st →
        (machine cas initial program).Reachable (advance cas st p answer x) := by
    intro st x hp hst
    refine .step (.step p answer) hst ?_
    show (st.procs p).map (advance cas st p answer) = _
    rw [hp]
    rfl
  induction x generalizing st with
  | pure a => exact ⟨_, step st _ hp hst, rfl, Function.update_self ..⟩
  | raise e => exact ⟨_, step st _ hp hst, rfl, Function.update_self ..⟩
  | load k ih =>
    exact ih st.journal (advance cas st p answer (.load k)) (Function.update_self ..) (step st _ hp hst)
  | swap n r k ih =>
    have hnext := step st _ hp hst
    cases hswap : cas.swap st.journal n r with
    | ok t =>
      simp only [advance, hswap] at hnext
      simp only [Prog.exec, hswap]
      exact ih _ (Function.update_self ..) hnext
    | error e =>
      simp only [advance, hswap] at hnext
      simp only [Prog.exec, hswap]
      -- a refused replacement is raised by the next step
      have hend := step _ _ (Function.update_self p (some (.raise e)) st.procs) hnext
      exact ⟨_, hend, rfl, Function.update_self ..⟩
  | call q k ih =>
    exact ih (answer q) (advance cas st p answer (.call q k)) (Function.update_self ..) (step st _ hp hst)

/-- An operation that runs alone is a run of the machine. -/
theorem exec_reached (answer : ∀ q, ο q) {p : P} (op : Op) {st : State P σ ι ο ε α} (hp : st.procs p = none)
    (hst : (machine cas initial program).Reachable st) :
    ∃ st', (machine cas initial program).Reachable st' ∧
      st'.journal = ((program op).exec cas answer st.journal).1 ∧ st'.procs p = none := by
  have hstart : (machine cas initial program).Reachable
      { st with procs := Function.update st.procs p (some (program op)) } := by
    refine .step (.start p op) hst ?_
    simp only [machine, hp]
  exact exec_steps answer { st with procs := Function.update st.procs p (some (program op)) }
    (Function.update_self p (some (program op)) st.procs) hstart

end Journal

end LeoFlow
