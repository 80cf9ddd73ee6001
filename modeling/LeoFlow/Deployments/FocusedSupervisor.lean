import LeoFlow.Core.Script
import LeoFlow.Deployments.FocusedJournal

/-!
# LeoFlow.Deployments.FocusedSupervisor — the focused continuous supervisor

`deployments/gauss_focused_continuous_operator.py`. A supervisor plans and captures one dwell after the other and
keeps a bounded number of analysis children; its `children` are lost with it, the journal and the children are not.
A later supervisor first recovers what the journal shows as incomplete.

* `FocusedWorld`: the journal, the completion receipts, the analysis processes, and the memory of the supervisor;
* `respond`: the acts of a supervisor on it, each atomic;
* `main`: the program, with `fuel` for the rounds of its loops;
* `setting`: supervisors one after the other, each killed at any point, while children end and receipts appear.

Publishing the optional-work guard, printing and sleeping are left out: the guard's failures are caught and nothing
here reads it.
-/

namespace LeoFlow

/-- `_completion_state` -/
inductive CompletionState where
  | absent
  | valid
  | invalid
deriving DecidableEq

/-- The identity of a process: `pid` and the start ticks of `/proc/pid/stat`. -/
structure ProcessIdentity where
  pid : Nat
  start_ticks : Nat
deriving DecidableEq

/-- An analysis process. -/
structure AnalysisProcess where
  identity : ProcessIdentity
  sequence : Nat
  /-- the exit status, negative for a signal -/
  exit : Option Int
  /-- it is in `/proc`: alive, or a zombie of a parent that has not waited for it -/
  visible : Bool
deriving DecidableEq

/-- `_AnalysisChild`: the record, and whether it is a `_RecoveredProcess`. -/
structure AnalysisChild where
  record : FocusedContinuousRecord
  identity : ProcessIdentity
  recovered : Bool
deriving DecidableEq

/-- A row that changed its state: what `transition` wrote, under which bound of attempts. -/
structure DwellTransition where
  row : FocusedContinuousRecord
  target : DwellState
  error : Option String
  maximum_analysis_attempts : Nat
deriving DecidableEq

structure FocusedWorld where
  journal : FocusedJournal
  /-- `failure-latch.json` -/
  latch : Bool
  /-- the completion receipts beside the batch stores -/
  completion : Nat → CompletionState
  processes : List AnalysisProcess
  /-- `children` of the running supervisor -/
  children : List (Nat × AnalysisChild)
  /-- the processes it started itself -/
  owned : List ProcessIdentity
  -- what was done so far
  /-- the largest `maximum_analysis_attempts` of a supervisor -/
  maximum_analysis_attempts : Nat
  /-- the dwells whose capture command was started -/
  captures : List Nat
  /-- the processes that a claim named in the journal -/
  claims : List (Nat × ProcessIdentity)
  /-- the dwells of which a recovery abandoned an attempt -/
  recovered : List Nat
  transitions : List DwellTransition
  /-- the rows at which `transition`, `claim_analysis_process` or `abandon_exact_analysis_process` raised -/
  refusals : List (Option FocusedContinuousRecord)

/-! ## Acts -/

/-- The arguments of one supervisor, as `_valid_args` accepts them. -/
structure FocusedArgs where
  maximum_in_flight_analyses : Nat
  maximum_analysis_attempts : Nat
  maximum_dwells : Nat
  /-- `canonical_digest(tuple(_analysis_command(args, record)))` -/
  analysis_command : FocusedContinuousRecord → Digest
  /-- `_prior_analysis_releases`: a sequence, and the digest of the command of that release -/
  prior_releases : List (Nat × (FocusedContinuousRecord → Digest))
  attempts_pos : 1 ≤ maximum_analysis_attempts
  releases_nodup : (prior_releases.map Prod.fst).Nodup

inductive SupervisorError where
  | py (e : PyError)
  | assertion
  /-- `subprocess.TimeoutExpired` -/
  | timeout_expired
deriving DecidableEq

inductive SupervisorAct where
  /-- an endless wait -/
  | block
  | latched
  | write_failure_latch (reason : String)
  /-- the flag of the signal handler -/
  | stopping
  | has_capacity
  | next_sequence
  | incomplete
  | get (sequence : Nat)
  /-- the record that `_plan` builds: it reads the clock and both stations -/
  | build_record (sequence : Nat)
  | insert_planned (record : FocusedContinuousRecord)
  | transition (sequence : Nat) (expected target : DwellState) (error : Option String)
      (maximum_analysis_attempts : Nat)
  | claim_analysis_process (sequence pid process_start_ticks : Nat) (command_digest : Digest)
  | abandon_exact_analysis_process (sequence : Nat) (expected_state : DwellState) (expected_error : Option String)
      (expected_pid expected_process_start_ticks : Option Nat) (expected_command_digest : Option Digest)
      (recovering : Bool)
  | start_capture (record : FocusedContinuousRecord)
  | wait_capture (record : FocusedContinuousRecord)
  | capture_closed (record : FocusedContinuousRecord)
  | completion_state (record : FocusedContinuousRecord)
  | popen (record : FocusedContinuousRecord)
  | set_analysis_nice (pid : Nat)
  | pid_start_ticks (pid : Nat)
  /-- `Popen.poll` -/
  | poll (identity : ProcessIdentity)
  | terminate (identity : ProcessIdentity)
  | kill (identity : ProcessIdentity)
  /-- `Popen.wait`, `none` when the timeout expired -/
  | wait (identity : ProcessIdentity) (timeout : Bool)
  /-- `time.monotonic() >= deadline` -/
  | deadline_passed
  | children
  /-- `children[record.sequence] = child` -/
  | set_child (child : AnalysisChild)
  /-- `del children[sequence]` -/
  | delete_child (sequence : Nat)

namespace SupervisorAct

/-- The type of the answer. -/
@[reducible] def Answer : SupervisorAct → Type
  | block | write_failure_latch _ | set_child _ | delete_child _ => Unit
  | latched | stopping | has_capacity | capture_closed _ | deadline_passed => Bool
  | next_sequence => Nat
  | incomplete => List FocusedContinuousRecord
  | get _ => Option FocusedContinuousRecord
  | build_record _ => Except PyError FocusedContinuousRecord
  | insert_planned _ | transition .. | claim_analysis_process .. | abandon_exact_analysis_process .. |
    start_capture _ | set_analysis_nice _ | terminate _ | kill _ => Except PyError Unit
  | wait_capture _ => Int
  | completion_state _ => CompletionState
  | popen .. => Except PyError ProcessIdentity
  | pid_start_ticks _ => Option Nat
  | poll _ => Option Int
  | wait .. => Option Int
  | children => List (Nat × AnalysisChild)

end SupervisorAct

namespace FocusedWorld

/-- The world after a journal statement with this answer. -/
def write (w : FocusedWorld) (sequence : Nat) (result : Except PyError FocusedJournal)
    (done : FocusedWorld → FocusedWorld) (answer : Except PyError Unit) : Option FocusedWorld :=
  match answer, result with
  | .ok (), .ok journal => some (done { w with journal := journal })
  | .error e, .error e' =>
    if e = e' then some { w with refusals := w.journal.get sequence :: w.refusals } else none
  | _, _ => none

/-- The exit status of an own child. -/
def status (w : FocusedWorld) (identity : ProcessIdentity) : Option (Option Int) :=
  (w.processes.find? fun p => p.identity = identity).map AnalysisProcess.exit

/-- A process that was waited for is gone from `/proc`. -/
def reaped (w : FocusedWorld) (identity : ProcessIdentity) : FocusedWorld :=
  { w with processes := w.processes.map fun p =>
      if p.identity = identity ∧ p.exit.isSome then { p with visible := false } else p }

/-- A process ends. -/
def ended (w : FocusedWorld) (identity : ProcessIdentity) (code : Int) : FocusedWorld :=
  { w with processes := w.processes.map fun p =>
      if p.identity = identity ∧ p.exit.isNone then { p with exit := some code } else p }

/-- `children[sequence] = child` -/
def setChild (children : List (Nat × AnalysisChild)) (sequence : Nat) (child : AnalysisChild) :
    List (Nat × AnalysisChild) :=
  if children.any fun c => c.1 = sequence then
    children.map fun c => if c.1 = sequence then (sequence, child) else c
  else children ++ [(sequence, child)]

/-- An act, with this answer. -/
def respond (w : FocusedWorld) : (q : SupervisorAct) → q.Answer → Option FocusedWorld
  | .block, _ => none
  | .latched, answer => if answer = w.latch then some w else none
  | .write_failure_latch _, _ => some { w with latch := true }
  -- the signal handler, the disk, the capture command and the scheduler answer anything
  | .stopping, _ | .has_capacity, _ | .wait_capture _, _ | .capture_closed _, _ | .deadline_passed, _ |
    .set_analysis_nice _, _ | .terminate _, _ | .kill _, _ => some w
  | .next_sequence, answer => if answer = w.journal.next_sequence then some w else none
  | .incomplete, answer => if answer = w.journal.incomplete then some w else none
  | .get sequence, answer => if answer = w.journal.get sequence then some w else none
  | .build_record sequence, answer =>
    match answer with
    | .error _ => some w
    | .ok record => if record.sequence = sequence then some w else none
  | .insert_planned record, answer =>
    match answer, w.journal.insert_planned record with
    | .ok (), .ok journal => some { w with journal := journal }
    | .error e, .error e' => if e = e' then some w else none
    | _, _ => none
  | .transition sequence expected target error maximum, answer =>
    w.write sequence (w.journal.transition sequence expected target error)
      (fun w' => { w' with
        transitions := (w.journal.get sequence).toList.map (⟨·, target, error, maximum⟩) ++ w'.transitions })
      answer
  | .claim_analysis_process sequence pid process_start_ticks digest, answer =>
    w.write sequence (w.journal.claim_analysis_process sequence pid process_start_ticks digest)
      (fun w' => { w' with claims := (sequence, ⟨pid, process_start_ticks⟩) :: w'.claims }) answer
  | .abandon_exact_analysis_process sequence state error pid ticks digest recovering, answer =>
    w.write sequence (w.journal.abandon_exact_analysis_process sequence state error pid ticks digest)
      (fun w' => { w' with recovered := if recovering then sequence :: w'.recovered else w'.recovered }) answer
  | .start_capture record, answer =>
    match answer with
    | .error _ => some w
    | .ok () => some { w with captures := record.sequence :: w.captures }
  | .completion_state record, answer => if answer = w.completion record.sequence then some w else none
  | .popen record, answer =>
    match answer with
    | .error _ => some w
    | .ok identity =>
      -- a new identity, whose pid no visible process has
      if identity.pid ≠ 0 ∧ identity.start_ticks ≠ 0 ∧ (∀ p ∈ w.processes, p.identity ≠ identity) ∧
          ∀ p ∈ w.processes, p.visible = true → p.identity.pid ≠ identity.pid then
        some { w with
          processes := ⟨identity, record.sequence, none, true⟩ :: w.processes
          owned := identity :: w.owned }
      else none
  | .pid_start_ticks pid, answer =>
    -- where no analysis process has the pid, any other process may have it
    if ∀ p ∈ w.processes, p.visible = true → p.identity.pid = pid → answer = some p.identity.start_ticks then some w
    else none
  | .poll identity, answer => if w.status identity = some answer then some (w.reaped identity) else none
  | .wait identity timeout, answer =>
    if w.status identity = some answer ∧ (answer = none → timeout = true) then some (w.reaped identity) else none
  | .children, answer => if answer = w.children then some w else none
  | .set_child child, _ => some { w with children := setChild w.children child.record.sequence child }
  | .delete_child sequence, _ => some { w with children := w.children.filter fun c => c.1 ≠ sequence }

end FocusedWorld

/-! ## The program -/

abbrev SupervisorScript (α : Type) := Script SupervisorAct SupervisorAct.Answer SupervisorError α

namespace FocusedSupervisor

open SupervisorAct

/-- An act that raises what it answers. -/
def attempt (x : SupervisorScript (Except PyError Unit)) : SupervisorScript Unit := do
  match ← x with
  | .ok () => pure ()
  | .error e => .raise (.py e)

/-- `_captured_work` -/
def captured_work : SupervisorScript (List FocusedContinuousRecord) := do
  let incomplete ← .ask incomplete
  pure (incomplete.filter fun record => record.state = .captured)

/-- The `try` of `_dispatch`. -/
def claim (args : FocusedArgs) (record : FocusedContinuousRecord) (identity : ProcessIdentity) :
    SupervisorScript Unit := do
  attempt (.ask (set_analysis_nice identity.pid))
  match ← .ask (pid_start_ticks identity.pid) with
  | none => .raise (.py ⟨.runtime_error, "analysis child process identity is unavailable"⟩)
  | some start_ticks =>
    attempt (.ask (claim_analysis_process record.sequence identity.pid start_ticks (args.analysis_command record)))

/-- The `except BaseException` of `_dispatch`. -/
def withdraw (identity : ProcessIdentity) (error : SupervisorError) : SupervisorScript Unit := do
  attempt (.ask (terminate identity))
  match ← .ask (wait identity true) with
  | none => .raise .timeout_expired
  | some _ => .raise error

/-- `_dispatch` -/
def dispatch (args : FocusedArgs) (record : FocusedContinuousRecord) : SupervisorScript Unit := do
  if record.state ≠ .captured then .raise (.py ⟨.runtime_error, "only captured analysis may be dispatched"⟩)
  else
    match ← .ask (popen record) with
    | .error e => .raise (.py e)
    | .ok identity =>
      (claim args record identity).handle (withdraw identity)
      match ← .ask (get record.sequence) with
      | none => .raise .assertion
      | some running => .ask (set_child ⟨running, identity, false⟩)

/-- `_dispatch_captured_available` -/
def dispatch_captured_available (args : FocusedArgs) : SupervisorScript Unit := do
  let children ← .ask children
  if args.maximum_in_flight_analyses ≤ children.length then pure ()
  else do
    let captured ← captured_work
    Script.forEach (captured.take (args.maximum_in_flight_analyses - children.length)) (dispatch args)

/-- `_RecoveredProcess.poll` and `Popen.poll` -/
def pollChild (child : AnalysisChild) : SupervisorScript (Option Int) :=
  if child.recovered then do
    if (← .ask (completion_state child.record)) = .valid then pure (some 0)
    else if (← .ask (pid_start_ticks child.identity.pid)) = some child.identity.start_ticks then pure none
    else pure (some 1)
  else .ask (poll child.identity)

/-- The outcome of a child that ended: its error, after closing the dwell if there is none. -/
def outcome (maximum_analysis_attempts sequence : Nat) (child : AnalysisChild) (result : Int) :
    SupervisorScript (Option String) :=
  if result = 0 then do
    if (← .ask (completion_state child.record)) = .valid then do
      attempt (.ask (transition sequence .analysis_running .complete none maximum_analysis_attempts))
      pure none
    else pure (some "analysis-completion-evidence-missing-or-invalid")
  else pure (some ("analysis-exit-" ++ toString result))

/-- An attempt that failed is retried or dead-lettered. -/
def retry (maximum_analysis_attempts sequence : Nat) (child : AnalysisChild) (error : String) :
    SupervisorScript Unit :=
  if child.record.analysis_attempt_count < maximum_analysis_attempts then
    attempt (.ask (abandon_exact_analysis_process sequence .analysis_running none child.record.analysis_pid
      child.record.analysis_process_start_ticks child.record.analysis_command_digest false))
  else attempt (.ask (transition sequence .analysis_running .failed (some error) maximum_analysis_attempts))

/-- The body of the loop of `_reap`. -/
def reapChild (maximum_analysis_attempts : Nat) (entry : Nat × AnalysisChild) : SupervisorScript Unit := do
  match ← pollChild entry.2 with
  | none => pure ()
  | some result =>
    match ← outcome maximum_analysis_attempts entry.1 entry.2 result with
    | none => .ask (delete_child entry.1)
    | some error => do
      retry maximum_analysis_attempts entry.1 entry.2 error
      .ask (delete_child entry.1)

/-- `_reap` -/
def reap (maximum_analysis_attempts : Nat) : SupervisorScript Unit := do
  let children ← .ask children
  Script.forEach children (reapChild maximum_analysis_attempts)

/-- The rows of `allow_prior_analysis_release` that have failed, if all of its rows exist. -/
def allowlisted : List Nat → SupervisorScript (Option (List FocusedContinuousRecord))
  | [] => pure (some [])
  | sequence :: rest => do
    match ← .ask (get sequence) with
    | none => pure none
    | some record => do
      let records ← allowlisted rest
      pure (records.map fun records => if record.state = .failed then record :: records else records)

/-- The process that a record names, if it runs one of these commands and is in `/proc`. -/
def identity_is_live (record : FocusedContinuousRecord) (allowed_commands : List Digest) :
    SupervisorScript (Option ProcessIdentity) := do
  match record.analysis_pid, record.analysis_process_start_ticks, record.analysis_command_digest with
  | some pid, some start_ticks, some digest =>
    if digest ∈ allowed_commands then do
      if (← .ask (pid_start_ticks pid)) = some start_ticks then pure (some ⟨pid, start_ticks⟩) else pure none
    else pure none
  | _, _, _ => pure none

/-- Recovery of an attempt: `false` stops it. -/
def recoverAttempt (args : FocusedArgs) (record : FocusedContinuousRecord) : SupervisorScript Bool := do
  let prior_command := (args.prior_releases.lookup record.sequence).map fun command => command record
  let allowed_commands := args.analysis_command record :: prior_command.toList
  if record.state = .failed ∧ (prior_command = none ∨ record.error ≠ some "analysis-process-identity-conflict" ∨
      record.analysis_command_digest ≠ prior_command) then pure false
  else if record.analysis_command_digest = prior_command ∧
      (record.analysis_pid = none ∨ record.analysis_process_start_ticks = none) then pure false
  else
    match ← identity_is_live record allowed_commands with
    | some identity =>
      if record.state = .failed then pure false
      else do
        attempt (.ask (set_analysis_nice identity.pid))
        .ask (set_child ⟨record, identity, true⟩)
        pure true
    | none =>
      if record.analysis_command_digest.any fun digest => digest ∉ allowed_commands then
        if record.state = .failed then pure false
        else do
          attempt (.ask (transition record.sequence .analysis_running .failed
            (some "analysis-process-identity-conflict") args.maximum_analysis_attempts))
          pure false
      else do
        attempt (.ask (abandon_exact_analysis_process record.sequence record.state record.error record.analysis_pid
          record.analysis_process_start_ticks record.analysis_command_digest true))
        pure true

/-- The body of the loop of `_recover`. -/
def recoverRecord (args : FocusedArgs) (record : FocusedContinuousRecord) : SupervisorScript Bool := do
  match ← .ask (completion_state record) with
  | .valid =>
    attempt (.ask (transition record.sequence record.state .complete none args.maximum_analysis_attempts))
    pure true
  | .invalid =>
    attempt (.ask (transition record.sequence record.state .failed (some "analysis-completion-evidence-invalid")
      args.maximum_analysis_attempts))
    pure false
  | .absent =>
    match record.state with
    | .planned => do
      if ← .ask (capture_closed record) then do
        attempt (.ask (transition record.sequence .planned .captured none args.maximum_analysis_attempts))
        pure true
      else do
        attempt (.ask (transition record.sequence .planned .failed (some "capture-outcome-uncertain-after-restart")
          args.maximum_analysis_attempts))
        pure false
    | .captured => pure true
    | .analysis_running | .failed => recoverAttempt args record
    | .complete => pure false

def recoverRecords (args : FocusedArgs) : List FocusedContinuousRecord → SupervisorScript Bool
  | [] => pure true
  | record :: rest => do
    if ← recoverRecord args record then recoverRecords args rest else pure false

/-- `_recover` -/
def recover (args : FocusedArgs) : SupervisorScript Bool := do
  let incomplete ← .ask incomplete
  match ← allowlisted (args.prior_releases.map Prod.fst) with
  | none => pure false
  | some failed => do
    if ← recoverRecords args ((incomplete ++ failed).insertionSort fun r r' => r.sequence ≤ r'.sequence) then do
      dispatch_captured_available args
      pure true
    else pure false

/-- `_plan` -/
def plan : SupervisorScript FocusedContinuousRecord := do
  let sequence ← .ask next_sequence
  match ← .ask (build_record sequence) with
  | .error e => .raise (.py e)
  | .ok record => do
    attempt (.ask (insert_planned record))
    pure record

/-- `result.returncode == 0 and _capture_closed(record)` -/
def captureSucceeded (record : FocusedContinuousRecord) (returncode : Int) : SupervisorScript Bool :=
  if returncode = 0 then .ask (capture_closed record) else pure false

/-- One dwell of `main`: the exit status, unless the loop goes on. -/
def captureDwell (args : FocusedArgs) : SupervisorScript (Option Nat) := do
  let record ← plan
  attempt (.ask (start_capture record))
  let returncode ← .ask (wait_capture record)
  if ← captureSucceeded record returncode then do
    attempt (.ask (transition record.sequence .planned .captured none args.maximum_analysis_attempts))
    match ← .ask (get record.sequence) with
    | none => .raise .assertion
    | some _ => do
      dispatch_captured_available args
      pure none
  else do
    attempt (.ask (transition record.sequence .planned .failed (some ("capture-exit-" ++ toString returncode))
      args.maximum_analysis_attempts))
    .ask (write_failure_latch "capture-failed")
    pure (some 4)

/-- The first loop of `main`, for at most `fuel` rounds. -/
def captureLoop (args : FocusedArgs) : Nat → Nat → SupervisorScript (Option Nat)
  | 0, _ => do
    .ask block
    pure none
  | fuel + 1, completed_capture_count => do
    if ← .ask stopping then pure none
    else if args.maximum_dwells ≠ 0 ∧ args.maximum_dwells ≤ completed_capture_count then pure none
    else do
      reap args.maximum_analysis_attempts
      dispatch_captured_available args
      if ← .ask stopping then pure none
      else if ← .ask has_capacity then do
        match ← captureDwell args with
        | some status => pure (some status)
        | none => captureLoop args fuel (completed_capture_count + 1)
      else do
        .ask (write_failure_latch "capacity-gate-failed")
        pure (some 4)

/-- The second loop of `main`. -/
def drainLoop (args : FocusedArgs) : Nat → SupervisorScript Nat
  | 0 => do
    .ask block
    pure 0
  | fuel + 1 => do
    let children ← .ask children
    let captured ← captured_work
    if children = [] ∧ captured = [] then pure 0
    else do
      reap args.maximum_analysis_attempts
      dispatch_captured_available args
      drainLoop args fuel

/-- `_RecoveredProcess.wait` -/
def recoveredWait (child : AnalysisChild) (timeout : Bool) : Nat → SupervisorScript (Option Int)
  | 0 => do
    .ask block
    pure none
  | fuel + 1 => do
    match ← pollChild child with
    | some result => pure (some result)
    | none =>
      if timeout ∧ (← .ask deadline_passed) then pure none else recoveredWait child timeout fuel

def waitChild (fuel : Nat) (child : AnalysisChild) (timeout : Bool) : SupervisorScript (Option Int) :=
  if child.recovered then recoveredWait child timeout fuel else .ask (wait child.identity timeout)

/-- The `finally` of `main`. -/
def shutdown (fuel : Nat) : SupervisorScript Unit := do
  let children ← .ask children
  Script.forEach children fun entry => do
    match ← pollChild entry.2 with
    | some _ => pure ()
    | none => attempt (.ask (terminate entry.2.identity))
  Script.forEach children fun entry => do
    match ← waitChild fuel entry.2 true with
    | some _ => pure ()
    | none => do
      attempt (.ask (kill entry.2.identity))
      let _ ← waitChild fuel entry.2 false
      pure ()

/-- The `try` of `main`. -/
def supervise (args : FocusedArgs) (fuel : Nat) : SupervisorScript Nat := do
  if ← recover args then do
    let completed_capture_count ← .ask next_sequence
    match ← captureLoop args fuel completed_capture_count with
    | some status => pure status
    | none => drainLoop args fuel
  else do
    .ask (write_failure_latch "recovery-failed")
    pure 4

/-- `main` -/
def main (args : FocusedArgs) (fuel : Nat) : SupervisorScript Nat := do
  if ← .ask latched then pure 70
  else (supervise args fuel).ensure (shutdown fuel)

/-! ## Supervisors one after the other -/

/-- What happens beside the supervisor. -/
inductive SupervisorMove where
  /-- an analysis process ends -/
  | ends (identity : ProcessIdentity) (code : Int)
  /-- an ended process whose parent is gone leaves `/proc` -/
  | vanish (identity : ProcessIdentity)
  /-- a completion receipt appears, or the batch store changes; a valid receipt stays -/
  | completion (sequence : Nat) (state : CompletionState)
  /-- an operator removes `failure-latch.json` -/
  | unlatch

def move : SupervisorMove → FocusedWorld → Option FocusedWorld
  | .ends identity code, w => some (w.ended identity code)
  | .vanish identity, w => if identity ∈ w.owned then none else some (w.reaped identity)
  | .completion sequence state, w =>
    if w.completion sequence = .valid then none
    else some { w with completion := Function.update w.completion sequence state }
  | .unlatch, w => some { w with latch := false }

/-- A supervisor is gone, with its memory; its analysis processes stay. -/
def gone (w : FocusedWorld) : FocusedWorld :=
  { w with
    children := []
    owned := [] }

/-- At most one supervisor at a time, with its arguments and the rounds of its loops. -/
def setting : Setting Unit (FocusedArgs × Nat) FocusedWorld SupervisorMove SupervisorAct SupervisorAct.Answer
    SupervisorError Nat where
  program _ op := main op.1 op.2
  enter _ op w := some { gone w with
    maximum_analysis_attempts := max w.maximum_analysis_attempts op.1.maximum_analysis_attempts }
  respond _ w q answer := w.respond q answer
  move := move
  leave _ _ w := gone w
  die _ w := gone w

/-- An empty journal. -/
def initial (completion : Nat → CompletionState) : FocusedWorld where
  journal := []
  latch := false
  completion := completion
  processes := []
  children := []
  owned := []
  maximum_analysis_attempts := 0
  captures := []
  claims := []
  recovered := []
  transitions := []
  refusals := []

abbrev SupervisorState := Setting.State Unit FocusedWorld SupervisorAct SupervisorAct.Answer SupervisorError Nat

abbrev machine := setting.machine fun w => ∃ completion, w = initial completion

end FocusedSupervisor

end LeoFlow
