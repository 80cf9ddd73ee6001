import LeoFlow.Core.JsonAscii
import LeoFlow.Core.Script

/-!
# LeoFlow.Admission.CaptureGuard — the ownership-fenced capture guard

`adapters/optional_heavy_work_admission.py`. Writers of one guard file take a lock, read which generation owns the
file, and replace the ownership document or the guard through a temporary file that is named after their process id.

* `writerDocument`, `readOwnership`: the ownership document;
* `GuardFiles`, `perform`: the lock and the files, one file operation at a time;
* `construct`, `publish`: the publisher;
* `setting`: any number of processes, each running publishers, killed between any two operations.

Directories and failures of the disk are left out.
-/

namespace LeoFlow

/-- `FocusedCaptureGuardV0_1` -/
structure FocusedCaptureGuard where
  observed_utc_ns : Nat
  valid_until_utc_ns : Nat
  capture_guard_from_utc_ns : Nat
  capture_guard_until_utc_ns : Nat
  focused_backlog : Nat
  in_flight_analyses : Nat
  continuous_capture_active : Bool
  validity : observed_utc_ns ≤ valid_until_utc_ns
  interval : capture_guard_from_utc_ns ≤ capture_guard_until_utc_ns

/-- `(json.dumps(..) + "\n").encode("utf-8")` -/
def encodeLine (text : PyStr) : Except PyError Bytes :=
  match encodeUtf8 (text ++ [10]) with
  | some bytes => .ok bytes
  | none => .error ⟨.unicode_encode_error, "surrogates not allowed"⟩

/-- `encode_focused_capture_guard_v0_1` -/
def encode_focused_capture_guard (snapshot : FocusedCaptureGuard) : Except PyError Bytes := do
  let capture_guard_from_utc_ns ← Json.intStr snapshot.capture_guard_from_utc_ns
  let capture_guard_until_utc_ns ← Json.intStr snapshot.capture_guard_until_utc_ns
  let focused_backlog ← Json.intStr snapshot.focused_backlog
  let in_flight_analyses ← Json.intStr snapshot.in_flight_analyses
  let observed_utc_ns ← Json.intStr snapshot.observed_utc_ns
  let valid_until_utc_ns ← Json.intStr snapshot.valid_until_utc_ns
  encodeLine (Json.objectAscii [
    (str "capture_guard_from_utc_ns", capture_guard_from_utc_ns),
    (str "capture_guard_until_utc_ns", capture_guard_until_utc_ns),
    (str "continuous_capture_active", if snapshot.continuous_capture_active then str "true" else str "false"),
    (str "focused_backlog", focused_backlog),
    (str "in_flight_analyses", in_flight_analyses),
    (str "observed_utc_ns", observed_utc_ns),
    (str "schema", Json.quoteAscii (str "org.leo-flow.focused-capture-heavy-work-guard/v0.1")),
    (str "valid_until_utc_ns", valid_until_utc_ns)])

/-! ## The ownership document -/

/-- The generation and the token of a publisher. -/
structure GuardWriter where
  generation : Nat
  token : PyStr
deriving DecidableEq

/-- What `__init__` asks of a token. -/
def ValidToken (token : PyStr) : Prop := token ≠ [] ∧ (∀ c ∈ token, c < 128) ∧ token.length ≤ 128

instance (token : PyStr) : Decidable (ValidToken token) := inferInstanceAs (Decidable (_ ∧ _ ∧ _))

/-- `_OWNERSHIP_SCHEMA` -/
def ownershipSchema : PyStr := str "org.leo-flow.focused-capture-guard-writer/v0.1"

/-- `_MAXIMUM_OWNERSHIP_BYTES` -/
def maximumOwnershipBytes : Nat := 1024

/-- The payload of `_write_ownership`. -/
def writerDocument (writer : GuardWriter) : Except PyError Bytes := do
  let generation ← Json.intStr writer.generation
  encodeLine (Json.objectAscii [(str "generation", generation), (str "owner_token", Json.quoteAscii writer.token),
    (str "schema", Json.quoteAscii ownershipSchema)])

def invalidOwnership : PyError := .value "capture guard writer ownership is invalid"

/-- The checks of `_read_ownership` on a document. -/
def ownershipOf : PyValue → Except PyError GuardWriter
  | .dict items =>
    if items.length ≠ 3 then .error invalidOwnership
    else
      match items.lookup (str "generation"), items.lookup (str "owner_token"), items.lookup (str "schema") with
      | some (.int generation), some (.str token), some (.str schema) =>
        if schema = ownershipSchema ∧ 1 ≤ generation ∧ ValidToken token then .ok ⟨generation.toNat, token⟩
        else .error invalidOwnership
      | _, _, _ => .error invalidOwnership
  | _ => .error invalidOwnership

/-- `_read_ownership` of what is on the disk. -/
def readOwnership (missing_ok : Bool) : Option Bytes → Except PyError (Option GuardWriter)
  | none =>
    if missing_ok then .ok none else .error (.value "capture guard writer ownership is missing")
  | some payload =>
    if maximumOwnershipBytes < payload.length then .error invalidOwnership
    else
      match Json.loads payload with
      | .error _ => .error invalidOwnership
      | .ok document => (ownershipOf document).map some

/-! ## The files -/

inductive GuardFile where
  | ownership
  | guard
deriving DecidableEq

/-- The lock and the files of one guard path; `P` are the processes. -/
structure GuardFiles (P : Type) where
  /-- who holds `flock` on the lock file -/
  holder : Option P
  files : GuardFile → Option Bytes
  /-- the temporary file of a process id -/
  temporaries : GuardFile → Nat → Option Bytes
  -- what happened so far
  /-- the ownerships that were written, the latest one first -/
  owners : List GuardWriter
  /-- the publishers whose construction returned -/
  constructed : List GuardWriter
  /-- the writers that replaced the guard, and whether they were superseded when `publish` was called -/
  published : List (GuardWriter × Bool)
  /-- the calls of `publish` that returned or raised -/
  returned : List (GuardWriter × Bool × Except PyError Bool)

inductive GuardAct where
  | flock
  | close
  | read_ownership
  | open_temporary (file : GuardFile)
  | write_temporary (file : GuardFile) (payload : Bytes)
  | unlink_temporary (file : GuardFile)
  | replace_ownership (writer : GuardWriter)
  | replace_guard (writer : GuardWriter) (superseded : Bool)
  /-- `publish` is called: has the construction of a successor returned? -/
  | called (writer : GuardWriter)
  | constructed (writer : GuardWriter)
  | returned (writer : GuardWriter) (superseded : Bool) (result : Except PyError Bool)

namespace GuardAct

/-- The type of the answer. -/
@[reducible] def Answer : GuardAct → Type
  | flock | close | write_temporary .. | unlink_temporary _ | constructed _ | returned .. => Unit
  | read_ownership => Option Bytes
  | open_temporary _ | replace_ownership _ | replace_guard .. => Except PyError Unit
  | called _ => Bool

instance : ∀ q, DecidableEq (Answer q)
  | flock | close | write_temporary .. | unlink_temporary _ | constructed _ | returned .. =>
    inferInstanceAs (DecidableEq Unit)
  | read_ownership => inferInstanceAs (DecidableEq (Option Bytes))
  | open_temporary _ | replace_ownership _ | replace_guard .. => inferInstanceAs (DecidableEq (Except PyError Unit))
  | called _ => inferInstanceAs (DecidableEq Bool)

end GuardAct

namespace GuardFiles

variable {P : Type} [DecidableEq P] (pid : P → Nat)

/-- The lock is free again when its holder closes it or is gone. -/
def release (p : P) (w : GuardFiles P) : GuardFiles P := { w with holder := if w.holder = some p then none else w.holder }

def setTemporary (w : GuardFiles P) (file : GuardFile) (n : Nat) (content : Option Bytes) : GuardFiles P :=
  { w with temporaries := Function.update w.temporaries file (Function.update (w.temporaries file) n content) }

/-- `os.replace(temporary, path)` -/
def replace (w : GuardFiles P) (file : GuardFile) (n : Nat) : Option (GuardFiles P) :=
  (w.temporaries file n).map fun content =>
    { w.setTemporary file n none with files := Function.update w.files file (some content) }

def fileExists : PyError := ⟨.os_error, "File exists"⟩

def fileNotFound : PyError := ⟨.os_error, "No such file or directory"⟩

/-- One act of `p`; a process waits for the lock. -/
def perform (p : P) (w : GuardFiles P) : (q : GuardAct) → Option (q.Answer × GuardFiles P)
  | .flock => if w.holder = none then some ((), { w with holder := some p }) else none
  | .close => some ((), w.release p)
  | .read_ownership => some (w.files .ownership, w)
  | .open_temporary file =>
    match w.temporaries file (pid p) with
    | some _ => some (.error fileExists, w)
    | none => some (.ok (), w.setTemporary file (pid p) (some []))
  | .write_temporary file payload =>
    some ((), w.setTemporary file (pid p) ((w.temporaries file (pid p)).map fun _ => payload))
  | .unlink_temporary file => some ((), w.setTemporary file (pid p) none)
  | .replace_ownership writer =>
    match w.replace .ownership (pid p) with
    | none => some (.error fileNotFound, w)
    | some w => some (.ok (), { w with owners := writer :: w.owners })
  | .replace_guard writer superseded =>
    match w.replace .guard (pid p) with
    | none => some (.error fileNotFound, w)
    | some w => some (.ok (), { w with published := (writer, superseded) :: w.published })
  | .called writer => some (w.constructed.any fun c => writer.generation < c.generation, w)
  | .constructed writer => some ((), { w with constructed := writer :: w.constructed })
  | .returned writer superseded result =>
    some ((), { w with returned := (writer, superseded, result) :: w.returned })

end GuardFiles

/-! ## The publisher -/

abbrev GuardScript (α : Type) := Script GuardAct GuardAct.Answer PyError α

namespace CaptureGuard

open GuardAct

/-- `with self._ownership_lock()` -/
def locked {α : Type} (body : GuardScript α) : GuardScript α := do
  .ask flock
  body.ensure (.ask close)

/-- An operation that raises what it answers. -/
def attempt (x : GuardScript (Except PyError Unit)) : GuardScript Unit := x >>= .ofExcept

/-- A temporary file is created, filled and moved into place; it is removed in any case. -/
def writeReplace (file : GuardFile) (encode : Except PyError Bytes) (replace : GuardScript (Except PyError Unit)) :
    GuardScript Unit := do
  attempt (.ask (open_temporary file))
  Script.ensure (do
    let payload ← .ofExcept encode
    .ask (write_temporary file payload)
    attempt replace) (.ask (unlink_temporary file))

/-- The publisher after the one that owns the file. -/
def successor (previous : Option GuardWriter) (token : PyStr) : GuardWriter :=
  ⟨(previous.map GuardWriter.generation).getD 0 + 1, token⟩

/-- `OwnershipFencedAtomicFocusedCaptureGuardPublisherV0_1.__init__` -/
def construct (token : PyStr) : GuardScript GuardWriter :=
  if ¬ValidToken token then .raise (.value "capture guard writer token is invalid")
  else
    locked do
      let ownership ← .ask read_ownership
      let previous ← .ofExcept (readOwnership true ownership)
      let payload ← .ofExcept (writerDocument (successor previous token))
      writeReplace .ownership (.ok payload) (.ask (replace_ownership (successor previous token)))
      pure (successor previous token)

/-- `publish` -/
def publish (writer : GuardWriter) (superseded : Bool) (snapshot : FocusedCaptureGuard) : GuardScript Bool :=
  locked do
    let ownership ← .ask read_ownership
    let owner ← .ofExcept (readOwnership false ownership)
    if owner ≠ some writer then pure false
    else do
      writeReplace .guard (encode_focused_capture_guard snapshot) (.ask (replace_guard writer superseded))
      pure true

/-! ## Processes -/

/-- What a process does with its publishers. -/
inductive Command where
  | construct (token : PyStr)
  /-- `publish` with the publisher of this index -/
  | publish (index : Nat) (snapshot : FocusedCaptureGuard)

/-- A process; its callers catch what a publisher raises. -/
def run : List Command → List GuardWriter → GuardScript Unit
  | [], _ => pure ()
  | .construct token :: commands, writers => do
    match ← (construct token).result with
    | .ok writer => do
      .ask (constructed writer)
      run commands (writers ++ [writer])
    | .error _ => run commands writers
  | .publish index snapshot :: commands, writers =>
    match writers[index]? with
    | none => run commands writers
    | some writer => do
      let superseded ← .ask (called writer)
      let result ← (publish writer superseded snapshot).result
      .ask (returned writer superseded result)
      run commands writers

variable {P : Type} [DecidableEq P] (pid : P → Nat)

/-- Processes with any process ids; a process id is free again when its process is gone. -/
def setting : Setting P (List Command) (GuardFiles P) Empty GuardAct GuardAct.Answer PyError Unit where
  program _ commands := run commands []
  enter _ _ w := some w
  respond p := Script.responds (GuardFiles.perform pid p)
  move := nofun
  leave p _ w := w.release p
  die p w := w.release p

/-- An empty directory. -/
def initial : GuardFiles P where
  holder := none
  files _ := none
  temporaries _ _ := none
  owners := []
  constructed := []
  published := []
  returned := []

abbrev machine := (setting pid).machine fun w => w = initial

end CaptureGuard

end LeoFlow
