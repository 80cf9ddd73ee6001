import LeoFlow.Core.Machine
import LeoFlow.Core.Value

/-!
# LeoFlow.Services.Lifecycle — one service loop and whoever stops it

`services/lifecycle.py`: one thread runs `run_forever`, other threads and signal handlers
call `request_stop`, anybody asks for `health`. `_lock` is reentrant and a signal handler
runs on the loop's own thread, so a handler may come between any two statements, those
of a critical section included; other threads wait for the lock. A statement that only
touches `_detail` or a counter is one step with its neighbour, and so is a critical
section with one access to `_state`.
-/

namespace LeoFlow

inductive ServiceState where
  | starting
  | ready
  | draining
  | stopped
  | failed
deriving DecidableEq

def ServiceState.value : ServiceState → String
  | starting => "starting"
  | ready => "ready"
  | draining => "draining"
  | stopped => "stopped"
  | failed => "failed"

structure HealthSnapshot where
  state : ServiceState
  ready : Bool
  completed_units : Nat
  failed_units : Nat
  detail : Option String
deriving DecidableEq

/-- What the service's own code does when it is called: `close` may also exceed its deadline. -/
inductive ServiceOutcome where
  | returned (worked : Bool)
  | raised (e : PyError)
  | deadline
deriving DecidableEq

/-- The attributes of a `ServiceLoop` that change. -/
structure ServiceLoop where
  stop : Bool
  state : ServiceState
  started : Bool
  completed : Nat
  failed : Nat
  detail : Option String
deriving DecidableEq

namespace ServiceLoop

/-- `ServiceLoop()` -/
def new : ServiceLoop := ⟨false, .stopped, false, 0, 0, none⟩

/-- `health` -/
def health (s : ServiceLoop) : HealthSnapshot :=
  ⟨s.state, decide (s.state = .ready), s.completed, s.failed, s.detail⟩

end ServiceLoop

namespace Service

/-- Where the thread of `run_forever` is. `again` tells the call of `_ensure_started` by
`run_once` from the one by `run_forever`. -/
inductive Pc where
  | idle
  /-- `with self._lock: if self._started` -/
  | ensure (again : Bool)
  /-- in the lock: `if self._state is not ServiceState.READY` -/
  | ensure_ready (again : Bool)
  /-- in the lock: `self._state = ServiceState.STARTING` -/
  | set_starting (again : Bool)
  | emit_starting (again : Bool)
  | call_start (again : Bool)
  | startup_failed (e : PyError)
  | emit_startup_failed (e : PyError)
  /-- `with self._lock: self._started = True` -/
  | set_started (again : Bool)
  /-- in the lock: `self._state = ServiceState.READY` -/
  | set_ready (again : Bool)
  | emit_ready (again : Bool)
  /-- `while not self._stop.is_set()` -/
  | loop_test
  /-- `run_once`: `if self._stop.is_set()` -/
  | once_test
  | call_step
  | unit_failed (e : PyError)
  | emit_unit_failed (e : PyError)
  | count_unit
  | emit_unit
  | after_once (worked : Bool)
  | wait
  /-- `with self._lock: if self._state is ServiceState.STOPPED` -/
  | shutdown
  /-- in the lock: `was_failed = self._state is ServiceState.FAILED` -/
  | was_failed
  /-- in the lock: `if self._state is not ServiceState.DRAINING` -/
  | drain_test (was_failed : Bool)
  /-- in the lock: `self._state = ServiceState.DRAINING` -/
  | set_draining (was_failed : Bool)
  | emit_draining (was_failed : Bool)
  | call_close (was_failed : Bool)
  | set_closed (was_failed : Bool) (close : ServiceOutcome)
  | emit_closed (was_failed : Bool) (close : ServiceOutcome)
  | finished
deriving DecidableEq

/-- The loop's thread is in the lock. -/
def Pc.locked : Pc → Bool
  | ensure_ready _ | set_starting _ | set_ready _ | was_failed | drain_test _ | set_draining _ => true
  | _ => false

/-- A `request_stop` that has set the flag. -/
inductive StopPc where
  /-- about to look at the state -/
  | flagged
  /-- about to emit "draining" -/
  | changed
deriving DecidableEq

inductive Event where
  /-- what `health` returned, and the event it was emitted with -/
  | reported (event : Option String) (health : HealthSnapshot)
  /-- a `request_stop` returned -/
  | stop_returned
  /-- `close` was called -/
  | closed
deriving DecidableEq

/-- A loop, its thread, and the threads `P` that may stop it. -/
structure State (P : Type) where
  loop : ServiceLoop
  pc : Pc
  iterations : Nat
  max_iterations : Option Nat
  /-- the exception that `run_forever` raises when it is done -/
  pending : Option PyError
  /-- signal handlers that interrupted each other, the running one first -/
  handlers : List StopPc
  stoppers : P → Option StopPc
  /-- newest first -/
  history : List Event

inductive Label (P : Type) where
  /-- `run_forever(max_iterations=max_iterations)`, positive or `None` -/
  | run_forever (max_iterations : Option Nat)
  /-- the loop's thread goes on -/
  | loop (outcome : ServiceOutcome)
  /-- thread `p` calls `request_stop` or goes on with it -/
  | request_stop (p : P)
  /-- a signal interrupts the loop's thread -/
  | signal
  /-- the running signal handler goes on -/
  | handler
  /-- some thread asks for `health` -/
  | health
deriving DecidableEq

variable {P : Type}

namespace State

def report (st : State P) (event : Option String) : List Event :=
  .reported event st.loop.health :: st.history

/-- `_emit` -/
def emit (st : State P) (event : String) (pc : Pc) : State P :=
  { st with pc := pc, history := st.report (some event) }

/-- `run_forever` is left with an exception, through its `finally`. -/
def raise (st : State P) (e : PyError) : State P := { st with pc := .shutdown, pending := some e }

/-- After `_ensure_started` returned. -/
def ensured (again : Bool) : Pc := if again then .call_step else .loop_test

/-- The state after `close`. -/
def closed (st : State P) (was_failed : Bool) : ServiceOutcome → ServiceLoop
  | .deadline => { st.loop with state := .failed, detail := some "shutdown deadline exceeded" }
  | .raised e => { st.loop with state := .failed, detail := some ("shutdown failed: " ++ e.kind.name) }
  | .returned _ =>
    if was_failed then { st.loop with state := .failed }
    else { st.loop with state := .stopped, detail := none }

/-- The next statement of `run_forever`. -/
def advance (st : State P) (outcome : ServiceOutcome) : Option (State P) :=
  match st.pc with
  | .idle | .finished => none
  | .ensure again =>
    some { st with pc := if st.loop.started then .ensure_ready again else .set_starting again }
  | .ensure_ready again =>
    if st.loop.state ≠ .ready then
      some (st.raise ⟨.service_lifecycle_error, st.loop.state.value ++ " service cannot accept work"⟩)
    else some { st with pc := ensured again }
  | .set_starting again =>
    some { st with loop := { st.loop with state := .starting }, pc := .emit_starting again }
  | .emit_starting again => some (st.emit "starting" (.call_start again))
  | .call_start again =>
    match outcome with
    | .returned _ => some { st with pc := .set_started again }
    | .raised e =>
      if e.kind.IsException then some { st with pc := .startup_failed e } else some (st.raise e)
    | .deadline => none
  | .startup_failed e =>
    some { st with
      loop := { st.loop with state := .failed, detail := some ("startup failed: " ++ e.kind.name) }
      pc := .emit_startup_failed e }
  | .emit_startup_failed e => some ((st.emit "startup_failed" .shutdown).raise e)
  | .set_started again =>
    some { st with loop := { st.loop with started := true }, pc := .set_ready again }
  | .set_ready again =>
    some { st with loop := { st.loop with state := .ready, detail := none }, pc := .emit_ready again }
  | .emit_ready again => some (st.emit "ready" (ensured again))
  | .loop_test => some { st with pc := if st.loop.stop then .shutdown else .once_test }
  | .once_test => some { st with pc := if st.loop.stop then .after_once false else .ensure true }
  | .call_step =>
    match outcome with
    | .returned worked => some { st with pc := if worked then .count_unit else .after_once false }
    | .raised e =>
      if e.kind.IsException then some { st with pc := .unit_failed e } else some (st.raise e)
    | .deadline => none
  | .unit_failed e =>
    some { st with
      loop := { st.loop with
        failed := st.loop.failed + 1, state := .failed, detail := some (e.kind.name ++ ": unit failed") }
      pc := .emit_unit_failed e }
  | .emit_unit_failed e => some ((st.emit "unit_failed" .shutdown).raise e)
  | .count_unit =>
    some { st with loop := { st.loop with completed := st.loop.completed + 1 }, pc := .emit_unit }
  | .emit_unit => some (st.emit "unit_completed" (.after_once true))
  | .after_once worked =>
    let iterations := st.iterations + 1
    some { st with
      iterations := iterations
      pc :=
        if ∃ maximum ∈ st.max_iterations, maximum ≤ iterations then .shutdown
        else if worked then .loop_test else .wait }
  | .wait => some { st with pc := .loop_test }
  | .shutdown => some { st with pc := if st.loop.state = .stopped then .finished else .was_failed }
  | .was_failed => some { st with pc := .drain_test (decide (st.loop.state = .failed)) }
  | .drain_test was_failed =>
    some { st with
      loop := { st.loop with
        detail := if was_failed ∨ st.loop.state ≠ .draining then st.loop.detail else none }
      pc := if st.loop.state = .draining then .call_close was_failed else .set_draining was_failed }
  | .set_draining was_failed =>
    some { st with
      loop := { st.loop with state := .draining, detail := if was_failed then st.loop.detail else none }
      pc := .emit_draining was_failed }
  | .emit_draining was_failed => some (st.emit "draining" (.call_close was_failed))
  | .call_close was_failed =>
    some { st with pc := .set_closed was_failed outcome, history := .closed :: st.history }
  | .set_closed was_failed close =>
    some { st with loop := st.closed was_failed close, pc := .emit_closed was_failed close }
  | .emit_closed was_failed close =>
    match close with
    | .returned _ =>
      some (st.emit (if was_failed then "shutdown_failed" else "stopped") .finished)
    | _ =>
      some { st.emit "shutdown_failed" .finished with
        pending := some ⟨.service_lifecycle_error, st.loop.detail.getD "shutdown failed"⟩ }

/-- The critical section of `request_stop`: where it goes on, if it has not returned. -/
def drain (st : State P) : State P × Option StopPc :=
  if st.loop.state = .starting ∨ st.loop.state = .ready then
    ({ st with loop := { st.loop with state := .draining, detail := none } }, some .changed)
  else ({ st with history := .stop_returned :: st.history }, none)

/-- The rest of `request_stop` after the flag. -/
def continueStop (st : State P) : StopPc → State P × Option StopPc
  | .flagged => st.drain
  | .changed =>
    ({ st with history := .stop_returned :: st.report (some "draining") }, none)

end State

/-- A fresh loop. -/
def State.start : State P := ⟨.new, .idle, 0, none, none, [], fun _ => none, []⟩

/-- A service loop among the threads that stop it. -/
def machine [DecidableEq P] : Machine (State P) (Label P) where
  Init st := st = .start
  step st
    | .run_forever max_iterations =>
      if st.pc = .idle ∧ ∀ maximum ∈ max_iterations, 0 < maximum then
        some { st with pc := .ensure false, max_iterations := max_iterations }
      else none
    | .loop outcome => if st.handlers = [] then st.advance outcome else none
    | .request_stop p =>
      match st.stoppers p with
      | none =>
        some { st with
          loop := { st.loop with stop := true }
          stoppers := Function.update st.stoppers p (some .flagged) }
      | some pc =>
        -- the lock, or the lock that `health` takes
        if st.pc.locked then none
        else
          let (st, rest) := st.continueStop pc
          some { st with stoppers := Function.update st.stoppers p rest }
    | .signal =>
      if st.pc = .idle then none
      else some { st with loop := { st.loop with stop := true }, handlers := .flagged :: st.handlers }
    | .handler =>
      match st.handlers with
      | [] => none
      | pc :: handlers =>
        let (st, rest) := st.continueStop pc
        some { st with handlers := rest.toList ++ handlers }
    | .health => if st.pc.locked then none else some { st with history := st.report none }

/-! ## Clean shutdown -/

/-- The service's own code works. -/
def Label.Succeeds : Label P → Prop
  | .loop (.returned _) => True
  | .loop _ => False
  | _ => True

instance : DecidablePred (Label.Succeeds (P := P)) := fun a => by
  unfold Label.Succeeds
  split <;> infer_instance

/-- No report after the return of a `request_stop` says ready. -/
def NoReadyAfterStop : List Event → Prop
  | [] => True
  | .reported _ health :: older =>
    (.stop_returned ∈ older → health.ready = false) ∧ NoReadyAfterStop older
  | _ :: older => NoReadyAfterStop older

/-- What a stopped service owes: it never raises, is stopped and closed once when it is done, and
is not ready once it was told to stop. -/
structure Clean (st : State P) : Prop where
  normal : st.pending = none
  finished : st.pc = .finished → st.loop.state = .stopped ∧ st.history.count .closed = 1
  not_ready : NoReadyAfterStop st.history

/-- The loop has become ready. -/
@[reducible] def Pc.Started : Pc → Prop
  | .idle | .ensure false | .set_starting _ | .emit_starting _ | .call_start _ | .set_started _
  | .set_ready _ => False
  | _ => True

/-- `run_once` has tested the flag, and `_ensure_started` has not looked at the state yet. -/
@[reducible] def Pc.Tested (pc : Pc) : Prop := pc = .ensure true ∨ pc = .ensure_ready true

/-- A `request_stop` looks at the state only after the loop has become ready, and not between the test
of the flag in `run_once` and the test of the state in `_ensure_started`. -/
def Timely (st : State P) : Label P → Prop
  | .request_stop p => st.stoppers p = some .flagged → st.pc.Started ∧ ¬st.pc.Tested
  | .handler => st.handlers.head? = some .flagged → st.pc.Started ∧ ¬st.pc.Tested
  | _ => True

/-! ### The invariant -/

/-- A `request_stop` has looked at the state. -/
def Marked (st : State P) : Prop :=
  (∃ p, st.stoppers p = some .changed) ∨ .changed ∈ st.handlers ∨ .stop_returned ∈ st.history

/-- What holds where the loop's thread is. -/
def Phase (loop : ServiceLoop) (closes : Nat) : Pc → Prop
  | .idle | .ensure false | .set_starting false | .emit_starting false | .call_start false
  | .set_started false => loop.started = false ∧ closes = 0
  | .set_ready false => loop.started = true ∧ closes = 0
  | .ensure true | .ensure_ready true => loop.started = true ∧ loop.state = .ready ∧ closes = 0
  | .emit_ready false | .loop_test | .once_test | .call_step | .count_unit | .emit_unit | .after_once _
  | .wait | .shutdown | .was_failed | .drain_test false =>
    loop.started = true ∧ (loop.state = .ready ∨ loop.state = .draining ∧ loop.stop = true) ∧ closes = 0
  | .set_draining false => loop.started = true ∧ closes = 0
  | .emit_draining false | .call_close false =>
    loop.started = true ∧ loop.state = .draining ∧ closes = 0
  | .set_closed false (.returned _) => loop.started = true ∧ loop.state = .draining ∧ closes = 1
  | .emit_closed false (.returned _) | .finished =>
    loop.started = true ∧ loop.state = .stopped ∧ closes = 1
  | _ => False

structure Inv (st : State P) : Prop where
  normal : st.pending = none
  phase : Phase st.loop (st.history.count .closed) st.pc
  flag : (∃ p, st.stoppers p ≠ none) ∨ st.handlers ≠ [] → st.loop.stop = true
  marked : Marked st → st.pc.Started ∧ st.loop.state ≠ .ready ∧ st.loop.state ≠ .starting
  not_ready : NoReadyAfterStop st.history

/-! ### One step -/

/-- What a statement of the loop's thread leaves alone. -/
structure State.Frame (st st' : State P) : Prop where
  handlers : st'.handlers = st.handlers
  stoppers : st'.stoppers = st.stoppers
  stop : st'.loop.stop = st.loop.stop
  returned : .stop_returned ∈ st'.history ↔ .stop_returned ∈ st.history

variable {st st' : State P}

theorem State.Frame.marked (h : st.Frame st') : Marked st' ↔ Marked st := by
  unfold Marked
  rw [h.handlers, h.stoppers, h.returned]

variable {outcome : ServiceOutcome}

theorem advance_frame (h : st.advance outcome = some st') :
    st.Frame st' := by
  rcases st with ⟨loop, pc, iterations, max_iterations, pending, handlers, stoppers, history⟩
  cases pc with
  | idle | finished => cases h
  | ensure_ready again =>
    simp only [State.advance] at h
    split at h <;>
      · cases h
        constructor <;> simp [State.raise]
  | call_start again | call_step =>
    cases outcome with
    | returned worked =>
      cases h
      constructor <;> simp
    | raised e =>
      simp only [State.advance] at h
      split at h <;>
        · cases h
          constructor <;> simp [State.raise]
    | deadline => cases h
  | set_closed was_failed close =>
    cases h
    constructor
    · rfl
    · rfl
    · simp only [State.closed]
      split
      · rfl
      · rfl
      · split <;> rfl
    · rfl
  | emit_closed was_failed close =>
    cases close <;>
      · cases h
        constructor <;> simp [State.emit, State.report]
  | _ =>
    cases h
    constructor <;> simp [State.emit, State.raise, State.report]

theorem count_report (st : State P) (event : Option String) :
    (st.report event).count .closed = st.history.count .closed := by
  unfold State.report
  rw [List.count_cons_of_ne]
  simp

/-- The loop's thread goes from phase to phase, as long as the service's own code works. -/
theorem advance_phase {worked : Bool} (h : st.advance (.returned worked) = some st')
    (hphase : Phase st.loop (st.history.count .closed) st.pc) :
    st'.pending = st.pending ∧ Phase st'.loop (st'.history.count .closed) st'.pc := by
  rcases st with ⟨loop, pc, iterations, max_iterations, pending, handlers, stoppers, history⟩
  cases pc with
  | idle | finished => cases h
  | startup_failed e | emit_startup_failed e | unit_failed e | emit_unit_failed e => exact hphase.elim
  | ensure again =>
    cases h
    cases again <;>
      · dsimp only
        rw [hphase.1]
        exact ⟨rfl, hphase⟩
  | ensure_ready again =>
    cases again
    · exact hphase.elim
    · simp only [State.advance] at h
      rw [if_neg (not_not_intro hphase.2.1)] at h
      cases h
      exact ⟨rfl, hphase.1, Or.inl hphase.2.1, hphase.2.2⟩
  | set_starting again | call_start again =>
    cases h
    cases again
    · exact ⟨rfl, hphase⟩
    · exact hphase.elim
  | set_started again =>
    cases h
    cases again
    · exact ⟨rfl, rfl, hphase.2⟩
    · exact hphase.elim
  | set_ready again =>
    cases h
    cases again
    · exact ⟨rfl, hphase.1, Or.inl rfl, hphase.2⟩
    · exact hphase.elim
  | emit_starting again | emit_ready again =>
    cases h
    cases again
    · refine ⟨rfl, ?_⟩
      dsimp only [State.emit]
      rw [count_report]
      exact hphase
    · exact hphase.elim
  | loop_test =>
    cases h
    refine ⟨rfl, ?_⟩
    dsimp only
    split <;> exact hphase
  | once_test =>
    cases h
    refine ⟨rfl, ?_⟩
    dsimp only
    obtain ⟨hstarted, hstate, hcloses⟩ := hphase
    split
    · exact ⟨hstarted, hstate, hcloses⟩
    · -- the state has not been changed while the flag is down
      rename_i hstop
      rcases hstate with hready | ⟨_, hset⟩
      · exact ⟨hstarted, hready, hcloses⟩
      · exact absurd hset hstop
  | call_step =>
    cases h
    refine ⟨rfl, ?_⟩
    dsimp only
    split <;> exact hphase
  | count_unit | wait =>
    cases h
    exact ⟨rfl, hphase⟩
  | emit_unit =>
    cases h
    refine ⟨rfl, ?_⟩
    dsimp only [State.emit]
    rw [count_report]
    exact hphase
  | after_once worked =>
    cases h
    refine ⟨rfl, ?_⟩
    dsimp only
    split
    · exact hphase
    · split <;> exact hphase
  | shutdown =>
    cases h
    refine ⟨rfl, ?_⟩
    dsimp only
    obtain ⟨hstarted, hstate, hcloses⟩ := hphase
    rw [if_neg]
    · exact ⟨hstarted, hstate, hcloses⟩
    · intro hstopped
      rcases hstate with hready | ⟨hdraining, _⟩ <;> simp_all
  | was_failed =>
    cases h
    refine ⟨rfl, ?_⟩
    dsimp only
    obtain ⟨hstarted, hstate, hcloses⟩ := hphase
    rw [decide_eq_false]
    · exact ⟨hstarted, hstate, hcloses⟩
    · intro hfailed
      rcases hstate with hready | ⟨hdraining, _⟩ <;> simp_all
  | drain_test was_failed =>
    cases h
    cases was_failed
    · refine ⟨rfl, ?_⟩
      dsimp only
      obtain ⟨hstarted, _, hcloses⟩ := hphase
      by_cases hdraining : loop.state = .draining
      · rw [if_pos (c := loop.state = .draining) hdraining]
        exact ⟨hstarted, hdraining, hcloses⟩
      · rw [if_neg (c := loop.state = .draining) hdraining]
        exact ⟨hstarted, hcloses⟩
    · exact hphase.elim
  | set_draining was_failed =>
    cases h
    cases was_failed
    · exact ⟨rfl, hphase.1, rfl, hphase.2⟩
    · exact hphase.elim
  | emit_draining was_failed =>
    cases h
    cases was_failed
    · refine ⟨rfl, ?_⟩
      dsimp only [State.emit]
      rw [count_report]
      exact hphase
    · exact hphase.elim
  | call_close was_failed =>
    cases h
    cases was_failed
    · refine ⟨rfl, hphase.1, hphase.2.1, ?_⟩
      dsimp only
      rw [List.count_cons_self, hphase.2.2]
    · exact hphase.elim
  | set_closed was_failed close =>
    cases h
    cases was_failed
    · cases close with
      | returned worked' => exact ⟨rfl, hphase.1, rfl, hphase.2.2⟩
      | raised e => exact hphase.elim
      | deadline => exact hphase.elim
    · exact hphase.elim
  | emit_closed was_failed close =>
    cases was_failed
    · cases close with
      | returned worked' =>
        cases h
        refine ⟨rfl, ?_⟩
        dsimp only [State.emit]
        rw [count_report]
        exact hphase
      | raised e => exact hphase.elim
      | deadline => exact hphase.elim
    · exact hphase.elim

/-- Once the loop has become ready, its thread stays behind that point and never makes the loop
ready or starting again. -/
theorem advance_started {worked : Bool} (h : st.advance (.returned worked) = some st')
    (hphase : Phase st.loop (st.history.count .closed) st.pc) (hstarted : st.pc.Started)
    (hready : st.loop.state ≠ .ready) (hstarting : st.loop.state ≠ .starting) :
    st'.pc.Started ∧ st'.loop.state ≠ .ready ∧ st'.loop.state ≠ .starting := by
  rcases st with ⟨loop, pc, iterations, max_iterations, pending, handlers, stoppers, history⟩
  cases pc with
  | idle | finished => cases h
  | startup_failed e | emit_startup_failed e | unit_failed e | emit_unit_failed e => exact hphase.elim
  | set_starting again | emit_starting again | call_start again | set_started again | set_ready again =>
    exact hstarted.elim
  | ensure again =>
    cases again
    · exact hstarted.elim
    · exact absurd hphase.2.1 hready
  | ensure_ready again =>
    cases again
    · exact hphase.elim
    · exact absurd hphase.2.1 hready
  | emit_ready again =>
    cases h
    cases again
    · exact ⟨trivial, hready, hstarting⟩
    · exact hphase.elim
  | loop_test | call_step =>
    cases h
    refine ⟨?_, hready, hstarting⟩
    dsimp only
    split <;> trivial
  | once_test =>
    cases h
    refine ⟨?_, hready, hstarting⟩
    dsimp only
    split <;> trivial
  | after_once worked =>
    cases h
    refine ⟨?_, hready, hstarting⟩
    dsimp only
    split
    · trivial
    · split <;> trivial
  | count_unit | wait | emit_unit | was_failed | emit_draining was_failed | call_close was_failed =>
    cases h
    exact ⟨trivial, hready, hstarting⟩
  | shutdown =>
    cases h
    refine ⟨?_, hready, hstarting⟩
    dsimp only
    split <;> trivial
  | drain_test was_failed =>
    cases h
    refine ⟨?_, hready, hstarting⟩
    dsimp only
    by_cases hdraining : loop.state = .draining
    · rw [if_pos (c := loop.state = .draining) hdraining]
      trivial
    · rw [if_neg (c := loop.state = .draining) hdraining]
      trivial
  | set_draining was_failed =>
    cases h
    exact ⟨trivial, nofun, nofun⟩
  | set_closed was_failed close =>
    cases h
    cases was_failed
    · cases close with
      | returned worked' => exact ⟨trivial, nofun, nofun⟩
      | raised e => exact hphase.elim
      | deadline => exact hphase.elim
    · exact hphase.elim
  | emit_closed was_failed close =>
    cases was_failed
    · cases close with
      | returned worked' =>
        cases h
        exact ⟨trivial, hready, hstarting⟩
      | raised e => exact hphase.elim
      | deadline => exact hphase.elim
    · exact hphase.elim

/-- A statement reports once at most. -/
theorem advance_reports (h : st.advance outcome = some st')
    (hnot : .stop_returned ∈ st.history → st.loop.state ≠ .ready) (hreports : NoReadyAfterStop st.history) :
    NoReadyAfterStop st'.history := by
  have hreport : ∀ event, NoReadyAfterStop (st.report event) :=
    fun _ => ⟨fun hmem => decide_eq_false (hnot hmem), hreports⟩
  rcases st with ⟨loop, pc, iterations, max_iterations, pending, handlers, stoppers, history⟩
  cases pc with
  | idle | finished => cases h
  | ensure_ready again =>
    simp only [State.advance] at h
    split at h <;>
      · cases h
        exact hreports
  | call_start again | call_step =>
    cases outcome with
    | returned worked =>
      cases h
      exact hreports
    | raised e =>
      simp only [State.advance] at h
      split at h <;>
        · cases h
          exact hreports
    | deadline => cases h
  | emit_starting again | emit_ready again | emit_unit | emit_draining was_failed =>
    cases h
    exact hreport _
  | emit_startup_failed e | emit_unit_failed e =>
    cases h
    exact hreport _
  | emit_closed was_failed close =>
    cases close <;>
      · cases h
        exact hreport _
  | _ =>
    cases h
    exact hreports

/-- Raising the flag keeps every phase. -/
theorem phase_flag {loop : ServiceLoop} {closes : Nat} {pc : Pc} (h : Phase loop closes pc) :
    Phase { loop with stop := true } closes pc := by
  unfold Phase at h ⊢
  split at h
  all_goals
    first
    | exact h
    | exact ⟨h.1, h.2.1.imp_right fun hdraining => ⟨hdraining.1, rfl⟩, h.2.2⟩

/-- Draining keeps every phase from which the loop's thread tests the state again. -/
theorem phase_drain {loop : ServiceLoop} {closes : Nat} {pc : Pc} (h : Phase loop closes pc)
    (hstarted : pc.Started) (htested : ¬pc.Tested) (hstop : loop.stop = true)
    (hstate : loop.state = .starting ∨ loop.state = .ready) :
    Phase { loop with state := .draining, detail := none } closes pc := by
  have hstopped : loop.state ≠ .stopped := by
    rcases hstate with hstate | hstate <;> rw [hstate] <;> nofun
  unfold Phase at h
  split at h
  all_goals
    first
    | exact hstarted.elim
    | exact (htested (Or.inl rfl)).elim
    | exact (htested (Or.inr rfl)).elim
    | exact absurd h.2.1 hstopped
    | exact ⟨h.1, Or.inr ⟨rfl, hstop⟩, h.2.2⟩
    | exact ⟨h.1, rfl, h.2.2⟩
    | exact h
    | exact h.elim

/-- What a `request_stop` does after it raised the flag. -/
structure State.Told (st st' : State P) : Prop where
  pc : st'.pc = st.pc
  pending : st'.pending = st.pending
  handlers : st'.handlers = st.handlers
  stoppers : st'.stoppers = st.stoppers
  stop : st'.loop.stop = st.loop.stop
  phase : Phase st'.loop (st'.history.count .closed) st'.pc
  started : st'.pc.Started
  not_ready : st'.loop.state ≠ .ready
  not_starting : st'.loop.state ≠ .starting
  reports : NoReadyAfterStop st'.history

theorem Inv.told (h : Inv st) (hstop : st.loop.stop = true) {pc : StopPc}
    (htimely : pc = .flagged → st.pc.Started ∧ ¬st.pc.Tested) (hmarked : pc = .changed → Marked st) :
    st.Told (st.continueStop pc).1 := by
  cases pc with
  | flagged =>
    obtain ⟨hstarted, htested⟩ := htimely rfl
    show st.Told st.drain.1
    unfold State.drain
    split
    · rename_i hstate
      exact ⟨rfl, rfl, rfl, rfl, rfl, phase_drain h.phase hstarted htested hstop hstate, hstarted, nofun,
        nofun, h.not_ready⟩
    · rename_i hstate
      rw [not_or] at hstate
      refine ⟨rfl, rfl, rfl, rfl, rfl, ?_, hstarted, hstate.2, hstate.1, h.not_ready⟩
      show Phase st.loop (List.count .closed (.stop_returned :: st.history)) st.pc
      rw [List.count_cons_of_ne (by simp)]
      exact h.phase
  | changed =>
    obtain ⟨hstarted, hready, hstarting⟩ := h.marked (hmarked rfl)
    refine ⟨rfl, rfl, rfl, rfl, rfl, ?_, hstarted, hready, hstarting, fun _ => decide_eq_false hready,
      h.not_ready⟩
    show Phase st.loop (List.count .closed (.stop_returned :: st.report (some "draining"))) st.pc
    rw [List.count_cons_of_ne (by simp), count_report]
    exact h.phase

/-- The invariant holds whatever the frames of that `request_stop` become. -/
theorem State.Told.inv (h : st.Told st') (hnormal : st.pending = none) (hstop : st.loop.stop = true)
    (handlers : List StopPc) (stoppers : P → Option StopPc) :
    Inv { st' with handlers := handlers, stoppers := stoppers } where
  normal := h.pending.trans hnormal
  phase := h.phase
  flag := fun _ => h.stop.trans hstop
  marked := fun _ => ⟨h.started, h.not_ready, h.not_starting⟩
  not_ready := h.reports

theorem inv_start : Inv (.start : State P) where
  normal := rfl
  phase := ⟨rfl, rfl⟩
  flag := by
    rintro (⟨p, hp⟩ | hhandlers)
    · exact absurd rfl hp
    · exact absurd rfl hhandlers
  marked := by
    rintro (⟨p, hp⟩ | hmem | hmem)
    · cases hp
    · cases hmem
    · cases hmem
  not_ready := trivial

theorem Inv.clean (h : Inv st) : Clean st where
  normal := h.normal
  finished := by
    intro hfinished
    have hphase := h.phase
    rw [hfinished] at hphase
    exact hphase.2
  not_ready := h.not_ready

section Runs

variable [DecidableEq P]

theorem Inv.step {a : Label P} (h : Inv st) (hsucceeds : a.Succeeds) (htimely : Timely st a)
    (hstep : machine.step st a = some st') : Inv st' := by
  cases a with
  | run_forever max_iterations =>
    simp only [machine] at hstep
    split at hstep
    · rename_i hidle
      cases hstep
      have hphase := h.phase
      rw [hidle.1] at hphase
      refine ⟨h.normal, hphase, h.flag, ?_, h.not_ready⟩
      intro hmarked
      have hstarted := (h.marked hmarked).1
      rw [hidle.1] at hstarted
      exact hstarted.elim
    · cases hstep
  | loop outcome =>
    simp only [machine] at hstep
    split at hstep
    · obtain ⟨worked, rfl⟩ : ∃ worked, outcome = .returned worked := by
        cases outcome with
        | returned worked => exact ⟨worked, rfl⟩
        | raised e => exact hsucceeds.elim
        | deadline => exact hsucceeds.elim
      have hframe := advance_frame hstep
      obtain ⟨hpending, hphase⟩ := advance_phase hstep h.phase
      refine ⟨hpending.trans h.normal, hphase, ?_, ?_, ?_⟩
      · rw [hframe.handlers, hframe.stoppers, hframe.stop]
        exact h.flag
      · intro hmarked
        obtain ⟨hstarted, hready, hstarting⟩ := h.marked (hframe.marked.1 hmarked)
        exact advance_started hstep h.phase hstarted hready hstarting
      · exact advance_reports hstep (fun hmem => (h.marked (Or.inr (Or.inr hmem))).2.1) h.not_ready
    · cases hstep
  | request_stop p =>
    simp only [machine] at hstep
    split at hstep
    · rename_i hnone
      cases hstep
      refine ⟨h.normal, phase_flag h.phase, fun _ => rfl, ?_, h.not_ready⟩
      intro hmarked
      refine h.marked ?_
      rcases hmarked with ⟨p', hp'⟩ | hmarked
      · refine Or.inl ⟨p', ?_⟩
        by_cases heq : p' = p
        · subst heq
          dsimp only at hp'
          rw [Function.update_self] at hp'
          cases hp'
        · dsimp only at hp'
          rwa [Function.update_of_ne heq] at hp'
      · exact Or.inr hmarked
    · rename_i pc hpc
      split at hstep
      · cases hstep
      · cases hstep
        have hstop := h.flag (Or.inl ⟨p, by rw [hpc]; nofun⟩)
        have htold := h.told hstop (fun heq => htimely (heq ▸ hpc)) fun heq => Or.inl ⟨p, heq ▸ hpc⟩
        exact htold.inv h.normal hstop _ _
  | signal =>
    simp only [machine] at hstep
    split at hstep
    · cases hstep
    · cases hstep
      refine ⟨h.normal, phase_flag h.phase, fun _ => rfl, ?_, h.not_ready⟩
      intro hmarked
      refine h.marked ?_
      rcases hmarked with hmarked | hmem | hmem
      · exact Or.inl hmarked
      · rcases List.mem_cons.1 hmem with heq | hmem
        · cases heq
        · exact Or.inr (Or.inl hmem)
      · exact Or.inr (Or.inr hmem)
  | handler =>
    simp only [machine] at hstep
    split at hstep
    · cases hstep
    · rename_i pc handlers hhandlers
      cases hstep
      have hstop := h.flag (Or.inr (by rw [hhandlers]; nofun))
      have htold := @Inv.told _ st h hstop pc
        (fun heq => htimely (by rw [hhandlers, heq]; rfl))
        fun heq => Or.inr (Or.inl (by rw [hhandlers, heq]; exact List.mem_cons_self))
      exact htold.inv h.normal hstop _ _
  | health =>
    simp only [machine] at hstep
    split at hstep
    · cases hstep
    · cases hstep
      refine ⟨h.normal, ?_, h.flag, ?_, ?_, h.not_ready⟩
      · dsimp only
        rw [count_report]
        exact h.phase
      · rintro (hmarked | hmarked | hmem)
        · exact h.marked (Or.inl hmarked)
        · exact h.marked (Or.inr (Or.inl hmarked))
        · rcases List.mem_cons.1 hmem with heq | hmem
          · cases heq
          · exact h.marked (Or.inr (Or.inr hmem))
      · exact fun hmem => decide_eq_false (h.marked (Or.inr (Or.inr hmem))).2.1

/-! ### Draining -/

/-- The statements that are left once the flag is up. -/
def Pc.rank : Pc → Nat
  | .finished => 0
  | .emit_closed _ _ => 1
  | .set_closed _ _ => 2
  | .call_close _ => 3
  | .emit_draining _ => 4
  | .set_draining _ => 5
  | .drain_test _ => 6
  | .was_failed => 7
  | .shutdown => 8
  | .loop_test | .emit_unit_failed _ | .emit_startup_failed _ => 9
  | .wait | .unit_failed _ | .startup_failed _ => 10
  | .after_once _ => 11
  | .emit_unit => 12
  | .count_unit => 13
  | .call_step => 14
  | .emit_ready _ => 15
  | .set_ready _ => 16
  | .set_started _ => 17
  | .call_start _ => 18
  | .emit_starting _ => 19
  | .set_starting _ => 20
  | .ensure_ready _ => 21
  | .ensure _ => 22
  | .once_test => 23
  | .idle => 24

omit [DecidableEq P] in
/-- With the flag up, the loop's thread does not go round again. -/
theorem rank_advance (h : st.advance outcome = some st') (hstop : st.loop.stop = true) : st'.pc.rank < st.pc.rank := by
  rcases st with ⟨loop, pc, iterations, max_iterations, pending, handlers, stoppers, history⟩
  replace hstop : loop.stop = true := hstop
  cases pc with
  | idle | finished => cases h
  | ensure_ready again =>
    simp only [State.advance] at h
    split at h
    · cases h
      exact Nat.le_of_ble_eq_true rfl
    · cases h
      cases again <;> exact Nat.le_of_ble_eq_true rfl
  | call_start again =>
    cases outcome with
    | returned worked =>
      cases h
      exact Nat.le_of_ble_eq_true rfl
    | raised e =>
      simp only [State.advance] at h
      split at h <;>
        · cases h
          exact Nat.le_of_ble_eq_true rfl
    | deadline => cases h
  | call_step =>
    cases outcome with
    | returned worked =>
      cases h
      cases worked <;> exact Nat.le_of_ble_eq_true rfl
    | raised e =>
      simp only [State.advance] at h
      split at h <;>
        · cases h
          exact Nat.le_of_ble_eq_true rfl
    | deadline => cases h
  | emit_ready again =>
    cases h
    cases again <;> exact Nat.le_of_ble_eq_true rfl
  | loop_test | once_test =>
    cases h
    dsimp only
    rw [if_pos hstop]
    exact Nat.le_of_ble_eq_true rfl
  | after_once worked =>
    cases h
    dsimp only
    split
    · exact Nat.le_of_ble_eq_true rfl
    · split <;> exact Nat.le_of_ble_eq_true rfl
  | ensure again | shutdown =>
    cases h
    dsimp only
    split <;> exact Nat.le_of_ble_eq_true rfl
  | drain_test was_failed =>
    cases h
    dsimp only
    by_cases hdraining : loop.state = .draining
    · rw [if_pos (c := loop.state = .draining) hdraining]
      exact Nat.le_of_ble_eq_true rfl
    · rw [if_neg (c := loop.state = .draining) hdraining]
      exact Nat.le_of_ble_eq_true rfl
  | emit_closed was_failed close =>
    cases close <;>
      · cases h
        exact Nat.zero_lt_one
  | _ =>
    cases h
    exact Nat.le_of_ble_eq_true rfl

@[reducible] def Label.IsLoop : Label P → Bool
  | .loop _ => true
  | _ => false

omit [DecidableEq P] in
theorem continueStop_frame (st : State P) (pc : StopPc) :
    (st.continueStop pc).1.pc = st.pc ∧ (st.continueStop pc).1.loop.stop = st.loop.stop := by
  cases pc with
  | changed => exact ⟨rfl, rfl⟩
  | flagged =>
    show st.drain.1.pc = _ ∧ st.drain.1.loop.stop = _
    unfold State.drain
    split <;> exact ⟨rfl, rfl⟩

theorem rank_step {a : Label P} (h : machine.step st a = some st') (hstop : st.loop.stop = true) :
    st'.loop.stop = true ∧ st'.pc.rank + (if a.IsLoop then 1 else 0) ≤ st.pc.rank := by
  cases a with
  | run_forever max_iterations =>
    simp only [machine] at h
    split at h
    · rename_i hidle
      cases h
      rw [hidle.1]
      exact ⟨hstop, Nat.le_of_ble_eq_true rfl⟩
    · cases h
  | loop outcome =>
    simp only [machine] at h
    split at h
    · exact ⟨(advance_frame h).stop.trans hstop, rank_advance h hstop⟩
    · cases h
  | request_stop p =>
    simp only [machine] at h
    split at h
    · cases h
      exact ⟨rfl, Nat.le_refl _⟩
    · split at h
      · cases h
      · rename_i pc _ _
        cases h
        obtain ⟨hpc, hflag⟩ := continueStop_frame st pc
        exact ⟨hflag.trans hstop, Nat.le_of_eq (congrArg Pc.rank hpc)⟩
  | signal =>
    simp only [machine] at h
    split at h
    · cases h
    · cases h
      exact ⟨rfl, Nat.le_refl _⟩
  | handler =>
    simp only [machine] at h
    split at h
    · cases h
    · rename_i pc _ _
      cases h
      obtain ⟨hpc, hflag⟩ := continueStop_frame st pc
      exact ⟨hflag.trans hstop, Nat.le_of_eq (congrArg Pc.rank hpc)⟩
  | health =>
    simp only [machine] at h
    split at h
    · cases h
    · cases h
      exact ⟨hstop, Nat.le_refl _⟩

theorem rank_run {as : List (Label P)} (h : machine.run st as = some st') (hstop : st.loop.stop = true) : as.countP Label.IsLoop + st'.pc.rank ≤ st.pc.rank := by
  induction as generalizing st with
  | nil =>
    cases h
    exact Nat.le_of_eq (Nat.zero_add _)
  | cons a as ih =>
    obtain ⟨next, hnext, hrest⟩ := Option.bind_eq_some_iff.1 h
    obtain ⟨hflag, hle⟩ := rank_step hnext hstop
    have hrest := ih hrest hflag
    rw [List.countP_cons]
    omega

theorem loop_enabled (hhandlers : st.handlers = []) (hidle : st.pc ≠ .idle) (hfinished : st.pc ≠ .finished)
    (worked : Bool) :
    (machine.step st (.loop (.returned worked))).isSome := by
  simp only [machine, if_pos hhandlers]
  unfold State.advance
  split
  all_goals
    first
    | exact absurd ‹_› hidle
    | exact absurd ‹_› hfinished
    | rfl
    | (split <;> rfl)

/-- With the flag up, `run_forever` is at most 24 statements from its end, and nothing but a running
signal handler holds it up. -/
structure Draining (st : State P) : Prop where
  bounded : ∀ as st', machine.run st as = some st' → as.countP Label.IsLoop ≤ 24
  enabled : st.handlers = [] → st.pc ≠ .idle → st.pc ≠ .finished → ∀ worked,
    (machine.step st (.loop (.returned worked))).isSome

theorem Pc.rank_le (pc : Pc) : pc.rank ≤ 24 := by
  cases pc <;> exact Nat.le_of_ble_eq_true rfl

end Runs

/-! ### Stops that come at another time -/

instance : DecidablePred NoReadyAfterStop := fun events => by
  induction events with
  | nil => exact inferInstanceAs (Decidable True)
  | cons e events ih =>
    cases e with
    | reported event health => exact inferInstanceAs (Decidable (_ ∧ _))
    | stop_returned => exact ih
    | closed => exact ih

instance (st : State P) : Decidable (Clean st) :=
  decidable_of_iff (st.pending = none ∧
      (st.pc = .finished → st.loop.state = .stopped ∧ st.history.count .closed = 1) ∧
      NoReadyAfterStop st.history)
    ⟨fun h => ⟨h.1, h.2.1, h.2.2⟩, fun h => ⟨h.normal, h.finished, h.not_ready⟩⟩

instance (pc : Pc) : Decidable pc.Started := by
  unfold Pc.Started
  split <;> infer_instance

instance (st : State P) : DecidablePred (Timely st) := fun a => by
  unfold Timely
  split <;> infer_instance

/-- The loop's thread executes `n` statements; all calls return. -/
def loopSteps (n : Nat) : List (Label P) := List.replicate n (.loop (.returned false))

end Service

end LeoFlow
