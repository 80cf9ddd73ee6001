import LeoFlow.Capture.Spool
import LeoFlow.Core.Script

/-!
# LeoFlow.Capture.Publication — publication of locally completed recordings

`PublicationReconciler.reconcile`, over any spool, publisher and cleaner. The second part is about one run in which
each of them may raise at any call: every fetched recording is attempted, and the counts account for it.
-/

namespace LeoFlow

/-- The methods of the spool, the publisher and the cleaner that `reconcile` calls. -/
structure PublicationPorts (ι : Type) (ο : ι → Type) where
  pending_cleanup : Nat → Script ι ο PyError (List CompletedLocalRecording)
  pending_publication : Nat → Script ι ο PyError (List CompletedLocalRecording)
  publish : CompletedLocalRecording → PyStr → Script ι ο PyError PublishedRecordingRef
  note_publish_attempt : RecordingId → PyStr → Option PyStr → Script ι ο PyError Unit
  acknowledge : CompletedLocalRecording → PublishedRecordingRef → PyStr → Script ι ο PyError Unit
  cleanup : CompletedLocalRecording → Script ι ο PyError Unit
  mark_cleaned : RecordingId → Script ι ο PyError Unit

namespace Publication

/-- `ReconciliationResult` -/
structure ReconciliationResult where
  published : Nat
  cleaned : Nat
  deferred : Nat
  errors : List PyStr
deriving DecidableEq

/-- `publication_idempotency_key` -/
def publication_idempotency_key (recording : CompletedLocalRecording) : PyStr :=
  str "recording:" ++ recording.val.recording_id.value ++ str ":" ++ recording.val.manifest_digest.toStr

/-- `_validate_publication` -/
def validate_publication (recording : CompletedLocalRecording) (published : PublishedRecordingRef) :
    Except PyError Unit :=
  let remote := published.recording_object.val
  let expected := (recording.val.recording_id, recording.val.data_object.val.digest,
    recording.val.data_object.val.byte_count, recording.val.metadata_object.val.digest,
    recording.val.metadata_object.val.byte_count, recording.val.manifest_digest)
  let actual := (remote.recording_id, remote.data_object.val.digest, (remote.data_object.val.byte_count : Int),
    remote.metadata_object.val.digest, (remote.metadata_object.val.byte_count : Int), remote.manifest_digest)
  raiseIf (actual ≠ expected) (.value "publisher returned a different recording identity")

/-- `_error` -/
def errorText (recording : CompletedLocalRecording) (operation : String) (error : PyError) : PyStr :=
  recording.val.recording_id.value ++ str (":" ++ operation ++ ":" ++ error.kind.name ++ ":" ++ error.message)

/-- A failure is counted and described. -/
def deferEntry (counts : ReconciliationResult) (recording : CompletedLocalRecording) (operation : String)
    (error : PyError) : ReconciliationResult :=
  { counts with deferred := counts.deferred + 1
                errors := counts.errors ++ [errorText recording operation error] }

/-- The counts after a cleanup. -/
def afterCleanup (counts : ReconciliationResult) (recording : CompletedLocalRecording) :
    Option PyError → ReconciliationResult
  | none => { counts with cleaned := counts.cleaned + 1 }
  | some error => deferEntry counts recording "cleanup" error

variable {ι : Type} {ο : ι → Type} {α : Type} (ports : PublicationPorts ι ο)

/-- `except Exception as error` -/
def caught (x : Script ι ο PyError α) : Script ι ο PyError (Except PyError α) := do
  match ← x.result with
  | .ok a => pure (.ok a)
  | .error e => if e.kind.IsException then pure (.error e) else .raise e

/-- One recording is cleaned up. -/
def cleanupEntry (recording : CompletedLocalRecording) : Script ι ο PyError (Option PyError) := do
  match ← caught (do
    ports.cleanup recording
    ports.mark_cleaned recording.val.recording_id) with
  | .ok _ => pure none
  | .error e => pure (some e)

/-- The publisher is called, and what it returns is checked. -/
def publishChecked (recording : CompletedLocalRecording) : Script ι ο PyError PublishedRecordingRef := do
  let published ← ports.publish recording (publication_idempotency_key recording)
  .ofExcept (validate_publication recording published)
  pure published

/-- One recording is published and acknowledged: what failed? -/
def publishEntry (recording : CompletedLocalRecording) : Script ι ο PyError (Option (String × PyError)) := do
  let key := publication_idempotency_key recording
  match ← caught (publishChecked ports recording) with
  | .error e => do
    -- this call is in the handler, and nothing catches what it raises
    ports.note_publish_attempt recording.val.recording_id key (some (str (e.kind.name ++ ": " ++ e.message)))
    pure (some ("publication", e))
  | .ok published =>
    match ← caught (do
      ports.note_publish_attempt recording.val.recording_id key none
      ports.acknowledge recording published key) with
    | .error e => pure (some ("acknowledgement", e))
    | .ok _ => pure none

/-- `for recording in acknowledged` -/
def cleanupAll : List CompletedLocalRecording → ReconciliationResult → Script ι ο PyError ReconciliationResult
  | [], counts => pure counts
  | recording :: recordings, counts => do
    let failure ← cleanupEntry ports recording
    cleanupAll recordings (afterCleanup counts recording failure)

/-- `for recording in self._spool.pending_publication(remaining)` -/
def publishAll : List CompletedLocalRecording → ReconciliationResult → Script ι ο PyError ReconciliationResult
  | [], counts => pure counts
  | recording :: recordings, counts => do
    match ← publishEntry ports recording with
    | some (operation, e) => publishAll recordings (deferEntry counts recording operation e)
    | none => do
      let failure ← cleanupEntry ports recording
      publishAll recordings (afterCleanup { counts with published := counts.published + 1 } recording failure)

/-- `self._spool.pending_publication(remaining) if remaining else ()` -/
def fetchPending (remaining : Nat) : Script ι ο PyError (List CompletedLocalRecording) :=
  if remaining = 0 then pure [] else ports.pending_publication remaining

/-- `PublicationReconciler.reconcile` -/
def reconcile (limit : Int) : Script ι ο PyError ReconciliationResult :=
  if limit ≤ 0 then .raise (.value "limit must be positive")
  else do
    let acknowledged ← ports.pending_cleanup limit.toNat
    let counts ← cleanupAll ports acknowledged ⟨0, 0, 0, []⟩
    let pending ← fetchPending ports (limit.toNat - acknowledged.length)
    publishAll ports pending counts

/-! ## One run, with any failures -/

inductive Call where
  | pending_cleanup (limit : Nat)
  | pending_publication (limit : Nat)
  | publish (recording : CompletedLocalRecording) (idempotency_key : PyStr)
  | note_publish_attempt (recording_id : RecordingId) (idempotency_key : PyStr) (error : Option PyStr)
  | acknowledge (recording : CompletedLocalRecording) (published : PublishedRecordingRef) (idempotency_key : PyStr)
  | cleanup (recording : CompletedLocalRecording)
  | mark_cleaned (recording_id : RecordingId)
  /-- `reconcile` returns or raises -/
  | returned (result : Except PyError ReconciliationResult)

/-- The type of the answer. -/
@[reducible] def Call.Answer : Call → Type
  | pending_cleanup _ | pending_publication _ => Except PyError (List CompletedLocalRecording)
  | publish .. => Except PyError PublishedRecordingRef
  | note_publish_attempt .. | acknowledge .. | cleanup _ | mark_cleaned _ => Except PyError Unit
  | returned _ => Unit

/-- What happened so far. -/
structure Log where
  /-- the recordings that were fetched for cleanup and for publication -/
  acknowledged : List CompletedLocalRecording
  pending : List CompletedLocalRecording
  /-- the recordings with which the publisher and the cleaner were called -/
  published : List CompletedLocalRecording
  cleanups : List CompletedLocalRecording
  /-- the spool did not answer a query -/
  unfetched : Option PyError
  /-- the spool did not count a failed attempt -/
  unnoted : Option PyError
  returned : Option (Except PyError ReconciliationResult)

/-- Any answer is possible. -/
def Log.respond (w : Log) : (q : Call) → q.Answer → Log
  | .pending_cleanup _, .ok recordings => { w with acknowledged := recordings }
  | .pending_publication _, .ok recordings => { w with pending := recordings }
  | .pending_cleanup _, .error e | .pending_publication _, .error e => { w with unfetched := some e }
  | .publish recording _, _ => { w with published := w.published ++ [recording] }
  | .note_publish_attempt _ _ (some _), .error e => { w with unnoted := some e }
  | .note_publish_attempt .., _ | .acknowledge .., _ | .mark_cleaned _, _ => w
  | .cleanup recording, _ => { w with cleanups := w.cleanups ++ [recording] }
  | .returned result, () => { w with returned := some result }

abbrev ReconcilerScript (α : Type) := Script Call Call.Answer PyError α

abbrev ask (q : Call) : ReconcilerScript q.Answer := Script.ask q

def attempt (x : ReconcilerScript (Except PyError α)) : ReconcilerScript α := x >>= .ofExcept

def openPorts : PublicationPorts Call Call.Answer where
  pending_cleanup limit := attempt (ask (.pending_cleanup limit))
  pending_publication limit := attempt (ask (.pending_publication limit))
  publish recording key := attempt (ask (.publish recording key))
  note_publish_attempt recording_id key error := attempt (ask (.note_publish_attempt recording_id key error))
  acknowledge recording published key := attempt (ask (.acknowledge recording published key))
  cleanup recording := attempt (ask (.cleanup recording))
  mark_cleaned recording_id := attempt (ask (.mark_cleaned recording_id))

def initial : Log := ⟨[], [], [], [], none, none, none⟩

/-- Runs with positive limits, one after the other; the log is about the last one. -/
def setting : Setting Unit Int Log Empty Call Call.Answer PyError Unit where
  program _ limit := do
    let result ← (reconcile openPorts limit).result
    ask (.returned result)
  enter _ limit _ := if 0 < limit then some initial else none
  respond _ w q answer := some (w.respond q answer)
  move := nofun
  leave _ _ w := w
  die _ w := w

abbrev machine := setting.machine fun w => w = initial

end Publication

end LeoFlow
