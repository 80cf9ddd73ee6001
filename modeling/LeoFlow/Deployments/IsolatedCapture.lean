import LeoFlow.Core.Script

/-!
# LeoFlow.Deployments.IsolatedCapture — one capture attempt in a spawned child

`deployments/process_isolated_capture.py`. The parent spawns a child and talks to it over a pipe: the child says
READY, the parent says RELEASE or CANCEL, the child answers RESULT or FAILED.

* `ChildWorld`, `respond`: the pipe, the child process and its handle;
* `child_main`: the child;
* `cleanup`, `abort_all`, `run`: the parent;
* `setting`: the thread that runs the attempt, the child, and any number of threads that abort it.

Sends and receives may fail at any time, the child may die at any time. Timeouts are left open: a join returns whether
or not the child is gone, and a loop makes any number of rounds. `Process.start` raises where no child was spawned.
-/

namespace LeoFlow

/-- `CaptureAttemptFailureReason` -/
inductive CaptureAttemptFailureReason where
  | child_build
  | cycle_preflight
  | host_spool_preflight
  | catalog_preflight
  | radio_attestation
  | first_segment_configuration
  | capture_engine
  | recording_publication
  | recording_resolution
  | child_cleanup
deriving DecidableEq

namespace IsolatedCapture

/-- What passes through the pipe; `V` are the values that a capture returns. -/
inductive Message (V : Type) where
  | ready
  | release
  | cancel
  | result (value : V)
  | failed (reason : CaptureAttemptFailureReason)
deriving DecidableEq

inductive Raised where
  | runtime_error (text : String)
  /-- `CaptureAttemptRunnerFailure` -/
  | runner_failure (reason : CaptureAttemptFailureReason)
  /-- `IsolatedAttemptPhaseFailure` -/
  | phase_failure (reason : CaptureAttemptFailureReason)
  /-- `EOFError`, `BrokenPipeError`, `OSError` -/
  | os_error
  /-- `ValueError`, of a process object that is closed or cannot be closed -/
  | value_error
  | other
deriving DecidableEq

inductive ChildStatus where
  | absent
  | alive
  /-- it is gone, and nobody waited for it -/
  | dead
  | reaped
deriving DecidableEq

/-- The thread that runs the attempt, the child, and the threads that call `abort_all`. -/
inductive Party where
  | runner
  | child
  | aborter (n : Nat)
deriving DecidableEq

structure ChildWorld (V : Type) where
  status : ChildStatus
  /-- messages that were sent and not yet received -/
  to_child : List (Message V)
  to_parent : List (Message V)
  /-- the connection of the parent -/
  connection_closed : Bool
  /-- the process object -/
  process_closed : Bool
  -- `_ProcessHandle`, and whether the supervisor knows it
  lock : Option Party
  closed : Bool
  registered : Bool
  -- what happened so far
  /-- `run` was called -/
  called : Bool
  /-- the child is in its main function -/
  entered : Bool
  /-- `ready_and_wait_for_release` returned true -/
  released : Bool
  capture_started : Bool
  /-- what the capture returned -/
  captured : Option V
  /-- did the work close without an error? -/
  work_closed : Option Bool
  /-- what `run` returned or raised -/
  returned : Option (Except Raised V)

inductive ChildAct (V : Type) where
  -- the parent's process, connection and control
  | start
  | send (message : Message V)
  | poll
  | recv
  | connection_close
  | is_alive
  | join
  | terminate
  | kill
  | process_close
  | cancelled
  | ready_and_wait_for_release
  | monotonic
  | delay
  -- the handle and the supervisor
  | acquire
  | release
  | read_closed
  | set_closed
  | register
  | discard
  | handles
  -- the child's connection and work
  | arm
  | child_send (message : Message V)
  | child_recv
  | build
  | preflight
  | start_capture
  | capture
  | close_work
  -- what is recorded
  | returned (result : Except Raised V)
  /-- one round more than the run makes; there is no answer to it -/
  | forever

namespace ChildAct

/-- The type of the answer. -/
@[reducible] def Answer {V : Type} : ChildAct V → Type
  | start | send _ | join | terminate | kill | process_close | arm | child_send _ | preflight | close_work =>
    Except Raised Unit
  | poll | is_alive | ready_and_wait_for_release | build => Except Raised Bool
  | recv | child_recv => Except Raised (Message V)
  | capture => Except Raised (Option V)
  | cancelled | read_closed | handles => Bool
  | monotonic => Int
  | connection_close | delay | acquire | release | set_closed | register | discard | start_capture | returned _
  | forever => Unit

end ChildAct

namespace ChildWorld

variable {V : Type} [DecidableEq V]

/-- Who looks at a child that is gone reaps it. -/
def reap (w : ChildWorld V) : ChildWorld V :=
  { w with status := if w.status = .dead then .reaped else w.status }

/-- A call on the process object. -/
def onProcess {α : Type} (w : ChildWorld V) (answer : Except Raised α) (next : α → Option (ChildWorld V)) :
    Option (ChildWorld V) :=
  match answer with
  | .ok a => if w.process_closed then none else next a
  | .error e => if w.process_closed ∧ e = .value_error then some w else none

/-- An act of the parent. -/
def respondParent (p : Party) (w : ChildWorld V) : (q : ChildAct V) → q.Answer → Option (ChildWorld V)
  | .start, .ok () => if w.status = .absent then some { w with status := .alive } else none
  | .start, .error _ => some w
  | .send message, .ok () =>
    if w.connection_closed then none else some { w with to_child := w.to_child ++ [message] }
  | .send _, .error e => if e = .os_error then some w else none
  | .poll, .ok ready => if w.connection_closed ∨ ready = false ∧ w.to_parent ≠ [] then none else some w
  | .poll, .error e => if e = .os_error then some w else none
  | .recv, .ok message =>
    match w.to_parent with
    | [] => none
    | first :: rest =>
      if w.connection_closed ∨ first ≠ message then none else some { w with to_parent := rest }
  | .recv, .error e => if w.connection_closed ∧ e ≠ .os_error then none else some w
  | .connection_close, () => some { w with connection_closed := true }
  | .is_alive, answer => w.onProcess answer fun alive =>
    if alive = decide (w.status = .alive) then some w.reap else none
  | .join, answer => w.onProcess answer fun _ => some w.reap
  | .terminate, answer => w.onProcess answer fun _ => some w
  | .kill, answer => w.onProcess answer fun _ => some w
  | .process_close, .ok () => if w.status = .alive then none else some { w.reap with process_closed := true }
  | .process_close, .error e => if w.status = .alive ∧ e = .value_error then some w else none
  | .cancelled, _ => some w
  | .ready_and_wait_for_release, .ok released => some { w with released := w.released || released }
  | .ready_and_wait_for_release, .error _ => some w
  | .monotonic, _ => some w
  | .delay, () => some w
  | .acquire, () => if w.lock = none then some { w with lock := some p } else none
  | .release, () => some { w with lock := none }
  | .read_closed, closed => if closed = w.closed then some w else none
  | .set_closed, () => some { w with closed := true }
  | .register, () => some { w with registered := true }
  | .discard, () => some { w with registered := false }
  | .handles, registered => if registered = w.registered then some w else none
  | .returned result, () => some { w with returned := some result }
  | _, _ => none

/-- An act of the child. -/
def respondChild (w : ChildWorld V) : (q : ChildAct V) → q.Answer → Option (ChildWorld V)
  | .arm, _ => some w
  | .child_send message, .ok () => some { w with to_parent := w.to_parent ++ [message] }
  | .child_send _, .error _ => some w
  | .child_recv, .ok message =>
    match w.to_child with
    | [] => none
    | first :: rest => if first = message then some { w with to_child := rest } else none
  | .child_recv, .error _ => some w
  | .build, _ => some w
  | .preflight, _ => some w
  | .start_capture, () => some { w with capture_started := true }
  | .capture, .ok result => some { w with captured := result }
  | .capture, .error _ => some w
  | .close_work, .ok () => some { w with work_closed := some true }
  | .close_work, .error _ => some { w with work_closed := some false }
  | _, _ => none

/-- A child that is gone does nothing. -/
def respond (p : Party) (w : ChildWorld V) (q : ChildAct V) (answer : q.Answer) : Option (ChildWorld V) :=
  match p with
  | .child => if w.status = .alive then w.respondChild q answer else none
  | .runner | .aborter _ => w.respondParent p q answer

end ChildWorld

/-! ## The child -/

section

variable {V : Type}

abbrev ChildScript (V α : Type) := Script (ChildAct V) ChildAct.Answer Raised α

abbrev ask (q : ChildAct V) : ChildScript V q.Answer := Script.ask q

/-- An operation that raises what it answers. -/
def attempt {α : Type} (x : ChildScript V (Except Raised α)) : ChildScript V α := x >>= .ofExcept

/-- `_safe_send` -/
def safe_send (message : Message V) : ChildScript V Unit := do
  match ← ask (.child_send message) with
  | .ok () => pure ()
  | .error e => if e = .os_error then pure () else .raise e

/-- The work is built and preflighted: is there one, and what failed? -/
def prepare : ChildScript V (Bool × Option CaptureAttemptFailureReason) := do
  match ← ask .build with
  | .error _ => pure (false, some .child_build)
  | .ok false => pure (false, none)
  | .ok true =>
    match ← ask .preflight with
    | .ok () => pure (true, none)
    | .error (.phase_failure reason) => pure (true, some reason)
    | .error _ => pure (true, some .cycle_preflight)

/-- What the capture of the work leaves in `failure_reason` and `result`. -/
def captureWork : ChildScript V (Option CaptureAttemptFailureReason × Option V) := do
  ask .start_capture
  match ← ask .capture with
  | .ok result => pure (none, result)
  | .error (.phase_failure reason) => pure (some reason, none)
  | .error _ => pure (some .capture_engine, none)

/-- The part of the child between its preflight and its `finally`. -/
def execute (work : Bool) : Option CaptureAttemptFailureReason →
    ChildScript V (Option CaptureAttemptFailureReason × Option V)
  | some reason => pure (some reason, none)
  | none => do
    attempt (ask (.child_send .ready))
    match ← attempt (ask .child_recv) with
    | .release => if work then captureWork else pure (none, none)
    | _ => pure (none, none)

/-- The work is closed. -/
def closeWork (work : Bool) (failure_reason : Option CaptureAttemptFailureReason) :
    ChildScript V (Option CaptureAttemptFailureReason) :=
  if work then do
    match ← ask .close_work with
    | .ok () => pure failure_reason
    | .error _ => pure (some .child_cleanup)
  else pure failure_reason

/-- The message at the end. -/
def lastMessage : Option CaptureAttemptFailureReason → Option V → Message V
  | none, some result => .result result
  | failure_reason, _ => .failed (failure_reason.getD .capture_engine)

/-- `_child_main` -/
def child_main : ChildScript V Unit := do
  attempt (ask .arm)
  let prepared ← prepare
  let outcome ← (execute prepared.1 prepared.2).result
  let locals := match outcome with
    | .ok locals => locals
    | .error _ => (prepared.2, none)
  let failure_reason ← closeWork prepared.1 locals.1
  safe_send (lastMessage failure_reason locals.2)
  match outcome with
  | .ok _ => pure ()
  | .error e => .raise e

/-! ## The parent -/

/-- The last error of `cleanup`. -/
def resisted : Raised := .runtime_error "isolated capture child resisted bounded cleanup"

/-- The child is asked to stop. -/
def sendCancel : ChildScript V Unit := do
  match ← ask (.send .cancel) with
  | .ok () => pure ()
  | .error e => if e = .os_error then pure () else .raise e

/-- A stage of `cleanup`: a child that is still alive is stopped in some way. -/
def stage (stop : ChildScript V Unit) : ChildScript V Unit := do
  if ← attempt (ask .is_alive) then do
    stop
    attempt (ask .join)
  else pure ()

/-- The part of `cleanup` under the lock. -/
def cleanupOpen : ChildScript V Unit := do
  stage sendCancel
  stage (attempt (ask .terminate))
  stage (attempt (ask .kill))
  if ← attempt (ask .is_alive) then .raise resisted
  else do
    ask .connection_close
    attempt (ask .process_close)
    ask .set_closed

/-- `_ProcessHandle.cleanup` -/
def cleanup : ChildScript V Unit := do
  ask .acquire
  Script.ensure (do if ← ask .read_closed then pure () else cleanupOpen) (ask .release)

/-- `SpawnProcessSupervisor.abort_all`, for this child. -/
def abort_all : ChildScript V Unit := do
  if ← ask .handles then do
    match ← cleanup.result with
    | .ok () => ask .discard
    | .error _ => .raise (.runtime_error "isolated capture cleanup failed")
  else pure ()

/-- `_receive`; it makes at most so many rounds. -/
def receive : Nat → ChildScript V (Message V)
  | 0 => .act .forever fun _ => .raise .other
  | rounds + 1 => do
    if ← attempt (ask .poll) then attempt (ask .recv)
    else if ← ask .cancelled then .raise (.runtime_error "isolated capture cancelled")
    else if ← attempt (ask .is_alive) then receive rounds
    else if ← attempt (ask .poll) then attempt (ask .recv)
    else .raise (.runtime_error "isolated capture child exited")

/-- The loop of `_wait_for_post_release_dispatch`. -/
def waitUntil (deadline : Int) : Nat → ChildScript V Unit
  | 0 => .act .forever fun _ => .raise .other
  | rounds + 1 => do
    if ← ask .cancelled then .raise (.runtime_error "isolated capture cancelled before dispatch")
    else do
      let now ← ask .monotonic
      if deadline - now ≤ 0 then pure ()
      else do
        ask .delay
        waitUntil deadline rounds

/-- `_wait_for_post_release_dispatch` -/
def wait_for_post_release_dispatch (post_release_dispatch_delay_s : Int) (rounds : Nat) : ChildScript V Unit :=
  if post_release_dispatch_delay_s = 0 then pure ()
  else do
    let now ← ask .monotonic
    waitUntil (now + post_release_dispatch_delay_s) rounds

/-- `_runner_failure_from_message` -/
def runner_failure_from_message (fallback_message : String) : Message V → Raised
  | .failed reason => .runner_failure reason
  | _ => .runtime_error fallback_message

/-- The answer of the child to RELEASE; `isResult` are the objects of type `CaptureAttemptRunResult`. -/
def lastAnswer (isResult : V → Bool) : Message V → Except Raised V
  | .failed reason => .error (.runner_failure reason)
  | .result value => if isResult value then .ok value else .error (.runtime_error "isolated capture child failed")
  | _ => .error (.runtime_error "isolated capture child failed")

/-- What `run` does once the child is started. -/
def communicate (isResult : V → Bool) (post_release_dispatch_delay_s : Int) (rounds : Nat) : ChildScript V V := do
  match ← receive rounds with
  | .ready =>
    if ← attempt (ask .ready_and_wait_for_release) then do
      wait_for_post_release_dispatch post_release_dispatch_delay_s rounds
      attempt (ask (.send .release))
      let message ← receive rounds
      .ofExcept (lastAnswer isResult message)
    else .raise (.runtime_error "isolated capture cancelled before release")
  | message => .raise (runner_failure_from_message "isolated capture child failed before readiness" message)

/-- `except (EOFError, BrokenPipeError, OSError)` -/
def translate (e : Raised) : Raised :=
  if e = .os_error then .runtime_error "isolated capture child failed" else e

/-- `SpawnIsolatedAttemptRunner.run` -/
def run (isResult : V → Bool) (post_release_dispatch_delay_s : Int) (rounds : Nat) : ChildScript V V := do
  match ← ask .start with
  | .error e => do
    ask .connection_close
    .raise (translate e)
  | .ok () =>
    Script.ensure (Script.handle (do
      ask .register
      communicate isResult post_release_dispatch_delay_s rounds) fun e => .raise (translate e)) (do
        cleanup
        ask .discard)

/-! ## Interleavings -/

inductive Task where
  | run (post_release_dispatch_delay_s : Int) (rounds : Nat)
  | child_main
  | abort_all

def program (isResult : V → Bool) : Task → ChildScript V Unit
  | .run post_release_dispatch_delay_s rounds => do
    let result ← (run isResult post_release_dispatch_delay_s rounds).result
    ask (.returned result)
  | .child_main => child_main
  | .abort_all => abort_all

/-- One run with its child; the child enters its main function once it was spawned. -/
def enter (w : ChildWorld V) : Party → Task → Option (ChildWorld V)
  | .runner, .run .. => if w.called then none else some { w with called := true }
  | .child, .child_main => if w.status = .alive ∧ w.entered = false then some { w with entered := true } else none
  | .aborter _, .abort_all => some w
  | _, _ => none

/-- The child exits, is killed or dies. -/
def dead (w : ChildWorld V) : ChildWorld V :=
  { w with status := if w.status = .alive then .dead else w.status }

variable [DecidableEq V]

/-- A thread that is killed moves no more. -/
def setting (isResult : V → Bool) :
    Setting Party Task (ChildWorld V) Unit (ChildAct V) ChildAct.Answer Raised Unit where
  program _ := program isResult
  enter p task w := enter w p task
  respond := ChildWorld.respond
  move _ w := some (dead w)
  leave _ _ w := w
  die
    | .child, w => dead w
    | _, w => w

def initial : ChildWorld V where
  status := .absent
  to_child := []
  to_parent := []
  connection_closed := false
  process_closed := false
  lock := none
  closed := false
  registered := false
  called := false
  entered := false
  released := false
  capture_started := false
  captured := none
  work_closed := none
  returned := none

abbrev machine (isResult : V → Bool) := (setting isResult).machine fun w => w = initial

end

end IsolatedCapture

end LeoFlow
