import LeoFlow.Core.Effect
import LeoFlow.Contracts.Continuity
import LeoFlow.Capture.Spool
import LeoFlow.Contracts.Samples

/-!
# LeoFlow.Capture.Engine — execution of one capture plan

`PlanCaptureEngine.execute` with the `SQLiteLocalSpool` it allocates from. Everything
else (radio, writer and its session, both clocks, `sqlite3` itself) is an environment
of arbitrary state whose calls may return or raise anything.

* `World`: the environment, the committed table `recordings`, and the local variable
  `session` that the exception handler of `execute` reads;
* `capture`: the `try` block up to the return of `session.finalize`;
* `conclude` and `writeOff`: the rest of the `try` block, and the handler.
-/

namespace LeoFlow

namespace Engine

variable {ω : Type}

/-- A call of something outside. -/
abbrev Port (ω : Type) (α : Type) := EStateM PyError ω α

/-- What a driver does within one `acquire` call: it hands over blocks, sees whether its
callback returned or raised, and returns or raises itself in the end. -/
inductive Acquire (μ : Type) where
  | returned (segment : SegmentManifest)
  | raised (e : PyError)
  | write (data : Bytes) (metadata : μ) (next : Option PyError → Acquire μ)

/-- `RadioDevice`, or `ContinuityRadioDevice` -/
inductive Radio (ω : Type) where
  | plain (acquire_segment : SegmentRequest → Port ω (Acquire Unit))
  | metadata (acquire_segment_with_metadata : SegmentRequest → Port ω (Acquire (Option RefillMetadata)))
      (continuity_policy : Port ω ContinuityPolicy) (capture_provenance : Port ω CaptureProvenance)

/-- The two further methods of a `ContinuityRecordingWriteSession`. -/
structure ContinuityPorts (ω : Type) where
  append_refill : SegmentId → Bytes → RefillMetadata → Port ω Unit
  record_continuity : SegmentId → SegmentContinuity → Port ω Unit

structure Environment (ω : Type) where
  radio_id : Port ω RadioId
  radio : Radio ω
  now_utc_ns : Port ω Int
  /-- `delay` of a number of nanoseconds -/
  delay : Int → Port ω Unit
  begin : RecordingId → CapturePlan → HardwareSnapshotId → PyStr → Port ω Unit
  recording_id : Port ω RecordingId
  append_iq : SegmentId → Bytes → Port ω Unit
  continuity : Option (ContinuityPorts ω)
  finish_segment : SegmentManifest → Port ω Unit
  finalize : RecordingManifest → Port ω CompletedLocalRecording
  abort : String → Port ω Unit
  id_factory : Port ω RecordingId
  /-- the spool's own clock -/
  now_ns : Port ω Int
  /-- `sqlite3.connect` and the pragmas -/
  connect : Port ω Unit
  /-- one `SELECT`, `INSERT` or `UPDATE` -/
  execute : Port ω Unit
  commit : Port ω Unit

structure World (ω : Type) where
  env : ω
  rows : SpoolTable
  /-- the local variable `session` is not `None` -/
  session : Bool

abbrev Eff (ω : Type) (α : Type) := EStateM PyError (World ω) α

/-- A call of the environment. -/
def port {α : Type} (p : Port ω α) : Eff ω α := fun w =>
  match p.run w.env with
  | .ok a env => .ok a { w with env }
  | .error e env => .error e { w with env }

/-- A value that could be computed, or its exception. -/
def ofExcept {σ α : Type} (x : Except PyError α) : EStateM PyError σ α :=
  match x with
  | .ok a => pure a
  | .error e => throw e

/-! ## The spool -/

/-- The write of a method and its transaction. -/
def transaction (env : Environment ω) (stmt : Statement) (now : Int) : Eff ω Unit := do
  port env.execute
  match stmt.run now (← get).rows with
  | none => throw ⟨.integrity_error, "UNIQUE constraint failed"⟩
  | some (rows, rowcount) =>
    if rowcount = 0 ∧ stmt.rereads then port env.execute
    ofExcept (stmt.verdict rows rowcount)
    port env.commit
    modify fun w => { w with rows }

/-- `SQLiteLocalSpool.allocate`, with the attempts that are left. -/
def allocate (env : Environment ω) (root : PyStr) (plan_id : PlanId) : Nat → Eff ω RecordingId
  | 0 => throw ⟨.runtime_error, "could not allocate a unique recording ID"⟩
  | attempts + 1 => do
    let recording_id ← port env.id_factory
    let now ← port env.now_ns
    let insert : Eff ω Unit := do
      port env.connect
      transaction env (.insert recording_id.value plan_id.value (SpoolCall.destination root recording_id)) now
    match ← Effect.attempt insert with
    | .ok () => pure recording_id
    | .error e => if e.kind = .integrity_error then allocate env root plan_id attempts else throw e

/-- `SQLiteLocalSpool.record_complete` -/
def record_complete (env : Environment ω) (recording : CompletedLocalRecording) : Eff ω Unit := do
  let payload ← ofExcept (Serialization.encodeCompleted recording)
  let stmt : Statement :=
    .complete recording.val.recording_id.value payload recording.val.manifest.val.plan_id.value
  port env.connect
  port env.execute
  match stmt.select (← get).rows with
  | .raised e => throw e
  | .returned => pure ()
  | .proceed =>
    let now ← port env.now_ns
    transaction env stmt now

/-- `SQLiteLocalSpool.record_failure` -/
def record_failure (env : Environment ω) (recording_id : RecordingId) (reason : PyStr) : Eff ω Unit := do
  ofExcept (raiseIf (reason = []) (.value "failure reason cannot be empty"))
  port env.connect
  let now ← port env.now_ns
  transaction env (.fail recording_id.value reason) now

/-! ## Acquisition -/

/-- `_wait_until` -/
def waitUntil (env : Environment ω) (scheduled_utc_ns : Option Int) : Eff ω Unit :=
  match scheduled_utc_ns with
  | none => pure ()
  | some scheduled => do
    let remaining_ns := scheduled - (← port env.now_utc_ns)
    if 0 < remaining_ns then port (env.delay remaining_ns)

/-- What `write_refill` collects: `refills` and `missing_metadata_refills`. -/
structure Collected where
  refills : List RefillMetadata := []
  missing : Nat := 0

/-- `write_refill` -/
def writeRefill (env : Environment ω) (ports : ContinuityPorts ω) (segment_id : SegmentId)
    (collected : Collected) (data : Bytes) (metadata : Option RefillMetadata) :
    Eff ω (Option PyError × Collected) :=
  match metadata with
  | none => do
    let collected := { collected with missing := collected.missing + 1 }
    match ← Effect.attempt (port (env.append_iq segment_id data)) with
    | .ok () => pure (none, collected)
    | .error e => pure (some e, collected)
  | some metadata => do
    match ← Effect.attempt (port (ports.append_refill segment_id data metadata)) with
    | .ok () => pure (none, { collected with refills := collected.refills ++ [metadata] })
    | .error e => pure (some e, collected)

/-- `write_ci16` -/
def writeCi16 (env : Environment ω) (segment_id : SegmentId) (data : Bytes) :
    Eff ω (Option PyError × Unit) := do
  match ← Effect.attempt (port (env.append_iq segment_id data)) with
  | .ok () => pure (none, ())
  | .error e => pure (some e, ())

/-- A driver and its callback, whose local variables are `s`. -/
def drive {μ S : Type} (callback : S → Bytes → μ → Eff ω (Option PyError × S)) :
    Acquire μ → S → Eff ω (SegmentManifest × S)
  | .returned segment, s => pure (segment, s)
  | .raised e, _ => throw e
  | .write data metadata next, s => do
    let (outcome, s) ← callback s data metadata
    drive callback (next outcome) s

/-- The continuity evidence that the policy requires. -/
def checkPolicy (policy : ContinuityPolicy) (status : ContinuityStatus) : Except PyError Unit :=
  checkAll [
    raiseIf (policy = .require_contiguous ∧ status ≠ .verified_contiguous)
      ⟨.continuity_error, "contiguous IQ was required but a sample sequence gap " ++
        "or unavailable metadata prevented proof"⟩,
    raiseIf (policy = .allow_verified_gapped ∧ status = .unverified)
      ⟨.continuity_error, "verified IQ was required but v5 metadata was unavailable"⟩]

/-- Acquisition of one segment. -/
def acquire (env : Environment ω) (request : SegmentRequest) : Eff ω SegmentManifest :=
  match env.radio with
  | .plain acquire_segment => do
    let driver ← port (acquire_segment request)
    let (segment, _) ← drive (fun _ data _ => writeCi16 env request.val.segment_id data) driver ()
    pure segment
  | .metadata acquire_segment_with_metadata continuity_policy capture_provenance =>
    match env.continuity with
    | none => throw ⟨.continuity_error, "metadata-aware radio requires a continuity-aware writer"⟩
    | some ports => do
      let driver ← port (acquire_segment_with_metadata request)
      let (segment, collected) ← drive (writeRefill env ports request.val.segment_id) driver {}
      let policy ← port continuity_policy
      ofExcept (raiseIf (collected.refills ≠ [] ∧ collected.missing ≠ 0)
        ⟨.continuity_error, "segment mixed metadata-verified and unverified refills"⟩)
      let continuity ← ofExcept (SegmentContinuity.from_refills request.val.receiver_chain_ids
        (← port capture_provenance) collected.refills)
      ofExcept (checkPolicy policy continuity.val.status)
      port (ports.record_continuity request.val.segment_id continuity)
      pure segment

/-- One round of the loop over `activity.segments`. -/
def runSegment (env : Environment ω) (segments : List SegmentManifest) (request : SegmentRequest) :
    Eff ω (List SegmentManifest) := do
  waitUntil env request.val.scheduled_utc_ns
  let segment ← acquire env request
  ofExcept (raiseIf
    (PyValue.eq (SegmentRequest.toPy segment.val.requested) (SegmentRequest.toPy request) = false)
    ⟨.radio_configuration_error, "radio returned a manifest for different requested settings"⟩)
  port (env.finish_segment segment)
  pure (segments ++ [segment])

/-- What the loop over `plan.activities` collects. -/
structure Progress where
  activities : List ActivityManifest
  segments : List SegmentManifest
  previous_activity_finished : Int

/-- One round of the loop over `plan.activities`. -/
def runActivity (env : Environment ω) (progress : Progress) (activity : ActivityRequest) :
    Eff ω Progress := do
  let activity_started := max (← port env.now_utc_ns) progress.previous_activity_finished
  let segments ← activity.val.segments.foldlM (runSegment env) []
  let activity_finished := max (← port env.now_utc_ns) (activity_started + 1)
  let manifest ← ofExcept (Checked.make ActivityManifest.Fields.post_init {
    activity_id := activity.val.activity_id
    kind := activity.val.kind
    started_utc_ns := activity_started
    finished_utc_ns := activity_finished
    segment_ids := segments.map fun s => s.val.segment_id })
  pure {
    activities := progress.activities ++ [manifest]
    segments := progress.segments ++ segments
    previous_activity_finished := activity_finished }

/-! ## One plan -/

/-- `CaptureIdentity` -/
structure CaptureIdentity where
  station_id : StationId
  radio_serial : PyStr
  clock_status : PyStr
  hardware_metadata_snapshot_id : HardwareSnapshotId
  producer : PyStr

/-- `RecordingManifest.SCHEMA_ID` -/
def manifestSchema : SchemaRef := ⟨str "org.leo-flow.recording-manifest", V0_1, isToken_recording_manifest⟩

/-- The `try` block from the first use of `session` up to the return of `session.finalize`. -/
def captureSession (env : Environment ω) (identity : CaptureIdentity) (plan : CapturePlan)
    (created_utc_ns : Int) (recording_id : RecordingId) :
    Eff ω (RecordingManifest × CompletedLocalRecording) := do
  let session_recording_id ← port env.recording_id
  ofExcept (raiseIf (session_recording_id ≠ recording_id)
    ⟨.writer_identity_error, "writer session ID differs from the local spool allocation"⟩)
  let capture_started_utc_ns ← port env.now_utc_ns
  let progress ← plan.val.activities.foldlM (runActivity env) ⟨[], [], capture_started_utc_ns⟩
  let capture_finished_utc_ns := max (max (← port env.now_utc_ns) (capture_started_utc_ns + 1))
    progress.previous_activity_finished
  let manifest ← ofExcept (Checked.make RecordingManifest.Fields.post_init {
    schema := manifestSchema
    recording_id, created_utc_ns, capture_started_utc_ns, capture_finished_utc_ns
    station_id := identity.station_id
    radio_id := plan.val.radio_id
    radio_serial := identity.radio_serial
    receiver_chain_ids := plan.val.receiver_chain_ids
    clock_status := identity.clock_status
    hardware_metadata_snapshot_id := identity.hardware_metadata_snapshot_id
    activities := progress.activities
    segments := progress.segments
    plan_id := plan.val.plan_id
    producer := identity.producer
    experiment_tags := plan.val.experiment_tags })
  let completed ← port (env.finalize manifest)
  pure (manifest, completed)

/-- The `try` block up to the return of `session.finalize`. -/
def capture (env : Environment ω) (identity : CaptureIdentity) (plan : CapturePlan) (destination : PyStr)
    (created_utc_ns : Int) (recording_id : RecordingId) :
    Eff ω (RecordingManifest × CompletedLocalRecording) := do
  port (env.begin recording_id plan identity.hardware_metadata_snapshot_id destination)
  modify fun w => { w with session := true }
  captureSession env identity plan created_utc_ns recording_id

/-- The checks of what `finalize` returned. -/
def checkCompleted (recording_id : RecordingId) (manifest : RecordingManifest)
    (completed : CompletedLocalRecording) : Except PyError Unit :=
  if completed.val.recording_id ≠ recording_id ∨
      PyValue.eq (RecordingManifest.toPy completed.val.manifest) (RecordingManifest.toPy manifest) = false then
    .error ⟨.writer_identity_error, "writer changed recording identity or manifest"⟩
  else
    match canonicalDigest (RecordingManifest.toPy manifest) with
    | .error e => .error e
    | .ok digest =>
      raiseIf (completed.val.manifest_digest ≠ digest)
        ⟨.writer_identity_error, "writer returned the wrong manifest digest"⟩

/-- The rest of the `try` block. -/
def conclude (env : Environment ω) (recording_id : RecordingId) (manifest : RecordingManifest)
    (completed : CompletedLocalRecording) : Eff ω Unit := do
  ofExcept (checkCompleted recording_id manifest completed)
  record_complete env completed

/-- `f"{type(error).__name__}: {error}"` -/
def failureReason (e : PyError) : PyStr := str (e.kind.name ++ ": " ++ e.message)

/-- The body of `except Exception as error` before its `raise`. -/
def handle (env : Environment ω) (recording_id : RecordingId) (e : PyError) : Eff ω Unit := do
  if (← get).session then port (env.abort e.message)
  record_failure env recording_id (failureReason e)

/-- `except Exception as error` -/
def writeOff {α : Type} (env : Environment ω) (recording_id : RecordingId) (e : PyError) : Eff ω α := do
  if e.kind.IsException then handle env recording_id e
  throw e

/-- Everything before the `try` block. -/
def start (env : Environment ω) (root : PyStr) (plan : CapturePlan) : Eff ω (Int × RecordingId) := do
  let radio_id ← port env.radio_id
  ofExcept (raiseIf (radio_id ≠ plan.val.radio_id)
    ⟨.radio_configuration_error, "plan and attached radio IDs differ"⟩)
  let created_utc_ns ← port env.now_utc_ns
  let recording_id ← allocate env root plan.val.plan_id 8
  modify fun w => { w with session := false }
  pure (created_utc_ns, recording_id)

/-- `PlanCaptureEngine.execute` -/
def execute (env : Environment ω) (identity : CaptureIdentity) (root : PyStr) (plan : CapturePlan) :
    Eff ω CompletedLocalRecording := do
  let (created_utc_ns, recording_id) ← start env root plan
  tryCatch
    (do
      let (manifest, completed) ← capture env identity plan (SpoolCall.destination root recording_id)
        created_utc_ns recording_id
      conclude env recording_id manifest completed
      pure completed)
    (writeOff env recording_id)

/-- `execute`, up to the return of `session.finalize`. -/
def finalized (env : Environment ω) (identity : CaptureIdentity) (root : PyStr) (plan : CapturePlan) :
    Eff ω (RecordingId × RecordingManifest × CompletedLocalRecording) := do
  let (created_utc_ns, recording_id) ← start env root plan
  let (manifest, completed) ← capture env identity plan (SpoolCall.destination root recording_id)
    created_utc_ns recording_id
  pure (recording_id, manifest, completed)

/-! ## Which calls decide -/

/-- What `record_complete` does up to its commit. -/
def completing (env : Environment ω) (completed : CompletedLocalRecording) : Port ω Unit := do
  let _ ← ofExcept (Serialization.encodeCompleted completed)
  env.connect
  env.execute
  let _ ← env.now_ns
  env.execute
  env.commit

/-- What `record_failure` does up to its commit. -/
def failing (env : Environment ω) : Port ω Unit := do
  env.connect
  let _ ← env.now_ns
  env.execute
  env.commit

/-- What is done between the return of `finalize` and the commit of `record_complete`. -/
def finishing (env : Environment ω) (recording_id : RecordingId) (manifest : RecordingManifest)
    (completed : CompletedLocalRecording) : Port ω Unit := do
  ofExcept (checkCompleted recording_id manifest completed)
  completing env completed

/-- What the handler does up to the commit of `record_failure`. -/
def writingOff (env : Environment ω) (e : PyError) : Port ω Unit := do
  env.abort e.message
  failing env

/-- After an exception between `finalize` and the commit of `record_complete`, one of the
handler's own calls raises, too. -/
def Recoverable (env : Environment ω) (recording_id : RecordingId) (manifest : RecordingManifest)
    (completed : CompletedLocalRecording) (s : ω) : Prop :=
  ∀ e s', (finishing env recording_id manifest completed).run s = .error e s' → e.kind.IsException →
    ∀ s'', (writingOff env e).run s' ≠ .ok () s''

/-- The entry can still be recovered. -/
def Kept (rows : SpoolTable) (recording_id : RecordingId) : Prop :=
  ∃ row, rows.lookup recording_id.value = some row ∧ (row.state = .allocated ∨ row.state = .complete)

/-! ## Calls of the environment -/

theorem run_port {α : Type} (p : Port ω α) (w : World ω) :
    (port p).run w =
      match p.run w.env with
      | .ok a env => .ok a { w with env }
      | .error e env => .error e { w with env } := rfl

theorem keeps_port {I : World ω → Prop} (hI : ∀ w env, I w → I { w with env }) {α : Type}
    (p : Port ω α) : Effect.Keeps I (port p) := by
  intro w hw
  rw [run_port]
  cases p.run w.env with
  | ok a env => exact ⟨hI w env hw, trivial⟩
  | error e env => exact hI w env hw

theorem keeps_ofExcept {I : World ω → Prop} {α : Type} (x : Except PyError α) :
    Effect.Keeps I (ofExcept x) := by
  cases x with
  | ok a => exact Effect.keeps_pure a
  | error e => exact Effect.ensures_throw e

/-! ## Acquisition leaves the spool alone -/

section Acquisition

variable {I : World ω → Prop} (hI : ∀ w env, I w → I { w with env }) (env : Environment ω)
include hI

theorem keeps_waitUntil (scheduled_utc_ns : Option Int) : Effect.Keeps I (waitUntil env scheduled_utc_ns) := by
  cases scheduled_utc_ns with
  | none => exact Effect.keeps_pure ()
  | some scheduled =>
    refine Effect.ensures_bind (keeps_port hI _) fun now => ?_
    exact Effect.ensures_ite (keeps_port hI _) (Effect.keeps_pure ())

theorem keeps_writeCi16 (segment_id : SegmentId) (data : Bytes) :
    Effect.Keeps I (writeCi16 env segment_id data) := by
  refine Effect.ensures_bind (Effect.keeps_attempt (keeps_port hI _)) fun outcome => ?_
  cases outcome <;> exact Effect.keeps_pure _

theorem keeps_writeRefill (ports : ContinuityPorts ω) (segment_id : SegmentId) (collected : Collected)
    (data : Bytes) (metadata : Option RefillMetadata) :
    Effect.Keeps I (writeRefill env ports segment_id collected data metadata) := by
  cases metadata with
  | none =>
    refine Effect.ensures_bind (Effect.keeps_attempt (keeps_port hI _)) fun outcome => ?_
    cases outcome <;> exact Effect.keeps_pure _
  | some metadata =>
    refine Effect.ensures_bind (Effect.keeps_attempt (keeps_port hI _)) fun outcome => ?_
    cases outcome <;> exact Effect.keeps_pure _

omit hI in
theorem keeps_drive {μ S : Type} {callback : S → Bytes → μ → Eff ω (Option PyError × S)}
    (h : ∀ s data metadata, Effect.Keeps I (callback s data metadata)) (driver : Acquire μ) (s : S) :
    Effect.Keeps I (drive callback driver s) := by
  induction driver generalizing s with
  | returned segment => exact Effect.keeps_pure _
  | raised e => exact Effect.ensures_throw e
  | write data metadata next ih => exact Effect.ensures_bind (h s data metadata) fun r => ih r.1 r.2

theorem keeps_acquire (request : SegmentRequest) : Effect.Keeps I (acquire env request) := by
  unfold acquire
  split
  · refine Effect.ensures_bind (keeps_port hI _) fun driver => ?_
    exact Effect.ensures_bind (keeps_drive (fun _ data _ => keeps_writeCi16 hI env _ data) driver ())
      fun r => Effect.keeps_pure _
  · split
    · exact Effect.ensures_throw _
    · rename_i ports _
      refine Effect.ensures_bind (keeps_port hI _) fun driver => ?_
      refine Effect.ensures_bind (keeps_drive (keeps_writeRefill hI env ports _) driver {}) fun r => ?_
      refine Effect.ensures_bind (keeps_port hI _) fun policy => ?_
      refine Effect.ensures_bind (keeps_ofExcept _) fun _ => ?_
      refine Effect.ensures_bind (keeps_port hI _) fun provenance => ?_
      refine Effect.ensures_bind (keeps_ofExcept _) fun continuity => ?_
      refine Effect.ensures_bind (keeps_ofExcept _) fun _ => ?_
      exact Effect.ensures_bind (keeps_port hI _) fun _ => Effect.keeps_pure _

theorem keeps_runSegment (segments : List SegmentManifest) (request : SegmentRequest) :
    Effect.Keeps I (runSegment env segments request) := by
  refine Effect.ensures_bind (keeps_waitUntil hI env _) fun _ => ?_
  refine Effect.ensures_bind (keeps_acquire hI env request) fun segment => ?_
  refine Effect.ensures_bind (keeps_ofExcept _) fun _ => ?_
  exact Effect.ensures_bind (keeps_port hI _) fun _ => Effect.keeps_pure _

theorem keeps_runActivity (progress : Progress) (activity : ActivityRequest) :
    Effect.Keeps I (runActivity env progress activity) := by
  refine Effect.ensures_bind (keeps_port hI _) fun now => ?_
  refine Effect.ensures_bind (Effect.keeps_foldlM (keeps_runSegment hI env) _ _) fun segments => ?_
  refine Effect.ensures_bind (keeps_port hI _) fun now' => ?_
  exact Effect.ensures_bind (keeps_ofExcept _) fun _ => Effect.keeps_pure _

theorem keeps_captureSession (identity : CaptureIdentity) (plan : CapturePlan) (created_utc_ns : Int)
    (recording_id : RecordingId) :
    Effect.Keeps I (captureSession env identity plan created_utc_ns recording_id) := by
  refine Effect.ensures_bind (keeps_port hI _) fun session_recording_id => ?_
  refine Effect.ensures_bind (keeps_ofExcept _) fun _ => ?_
  refine Effect.ensures_bind (keeps_port hI _) fun started => ?_
  refine Effect.ensures_bind (Effect.keeps_foldlM (keeps_runActivity hI env) _ _) fun progress => ?_
  refine Effect.ensures_bind (keeps_port hI _) fun now => ?_
  refine Effect.ensures_bind (keeps_ofExcept _) fun manifest => ?_
  exact Effect.ensures_bind (keeps_port hI _) fun completed => Effect.keeps_pure _

end Acquisition

variable {identity : CaptureIdentity} {plan : CapturePlan} {recording_id : RecordingId}

/-- Acquisition neither reads nor writes the spool, and sets `session`. -/
theorem capture_ok {env : Environment ω} {destination : PyStr} {created_utc_ns : Int}
    {result : RecordingManifest × CompletedLocalRecording} {w w' : World ω}
    (h : (capture env identity plan destination created_utc_ns recording_id).run w = .ok result w') :
    w'.rows = w.rows ∧ w'.session = true := by
  rcases Effect.bind_ok.1 h with ⟨_, w₁, hbegin, hrest⟩
  rcases Effect.bind_ok.1 hrest with ⟨_, w₂, hset, hsession⟩
  cases hset
  have hrows : w₁.rows = w.rows :=
    ((keeps_port (I := fun v => v.rows = w.rows) (fun _ _ h => h) _).of_ok rfl hbegin).1
  have hkeep := keeps_captureSession (I := fun v => v.rows = w.rows ∧ v.session = true)
    (fun _ _ h => h) env identity plan created_utc_ns recording_id
  exact (hkeep.of_ok (s := { w₁ with session := true }) ⟨hrows, rfl⟩ hsession).1

/-! ## The spool's methods -/

theorem run_ofExcept_ok {σ α : Type} (a : α) (s : σ) :
    (ofExcept (.ok a) : EStateM PyError σ α).run s = .ok a s := rfl

/-- A value that was computed. -/
theorem ofExcept_ok {σ α : Type} {x : Except PyError α} {a : α} {s t : σ}
    (h : (ofExcept x : EStateM PyError σ α).run s = .ok a t) : x = .ok a := by
  cases x with
  | error e => cases h
  | ok b =>
    cases h
    rfl

/-- Run from `w`, `x` makes the calls of `p`: it raises what `p` raises, and otherwise
returns in a state with `Q`. -/
def Follows {α β : Type} (p : Port ω β) (x : Eff ω α) (Q : World ω → Prop) (w : World ω) : Prop :=
  match p.run w.env with
  | .error e s => x.run w = .error e { w with env := s }
  | .ok _ s => ∃ a w', x.run w = .ok a w' ∧ w'.env = s ∧ Q w'

section Follows

variable {α β γ : Type} {Q : World ω → Prop} {w : World ω}

theorem follows_port {p : Port ω γ} {g : γ → Port ω β} {f : γ → Eff ω α}
    (h : ∀ a s, Follows (g a) (f a) Q { w with env := s }) : Follows (p >>= g) (port p >>= f) Q w := by
  unfold Follows
  rw [EStateM.run_bind, EStateM.run_bind, run_port]
  cases p.run w.env with
  | error e s => rfl
  | ok a s => exact h a s

theorem follows_ofExcept {x : Except PyError γ} {g : γ → Port ω β} {f : γ → Eff ω α}
    (h : ∀ a, x = .ok a → Follows (g a) (f a) Q w) : Follows (ofExcept x >>= g) (ofExcept x >>= f) Q w := by
  unfold Follows
  rw [EStateM.run_bind, EStateM.run_bind]
  cases x with
  | error e => rfl
  | ok a => exact h a rfl

theorem follows_of_run {p : Port ω β} {x y : Eff ω α} (hrun : x.run w = y.run w)
    (h : Follows p y Q w) : Follows p x Q w := by
  unfold Follows at h ⊢
  rw [hrun]
  exact h

theorem Follows.of_ok {p : Port ω β} {x : Eff ω α} (h : Follows p x Q w) {a : α} {w' : World ω}
    (hrun : x.run w = .ok a w') : Q w' := by
  unfold Follows at h
  cases hp : p.run w.env with
  | error e s =>
    rw [hp, hrun] at h
    cases h
  | ok b s =>
    rw [hp, hrun] at h
    rcases h with ⟨_, _, heq, _, hQ⟩
    cases heq
    exact hQ

theorem Follows.mono {p : Port ω β} {x : Eff ω α} {Q' : World ω → Prop} (h : Follows p x Q w)
    (hQ : ∀ w', Q w' → Q' w') : Follows p x Q' w := by
  unfold Follows at h ⊢
  cases hp : p.run w.env with
  | error e s =>
    rw [hp] at h
    exact h
  | ok b s =>
    rw [hp] at h
    rcases h with ⟨a, w', hrun, henv, hw'⟩
    exact ⟨a, w', hrun, henv, hQ w' hw'⟩

/-- A transaction whose statement matched a row that the method accepts. -/
theorem follows_transaction (env : Environment ω) {stmt : Statement} {now : Int} {rows : SpoolTable}
    {n : Nat} (hrun : stmt.run now w.rows = some (rows, n)) (hn : n ≠ 0)
    (hverdict : stmt.verdict rows n = .ok ()) :
    Follows (do env.execute; env.commit) (transaction env stmt now) (fun w' => w'.rows = rows) w := by
  refine follows_port fun _ s => ?_
  have hskip : ¬(n = 0 ∧ stmt.rereads = true) := fun h => hn h.1
  refine follows_of_run (y := do
    port env.commit
    modify fun w => { w with rows }) ?_ ?_
  · rw [EStateM.run_bind, EStateM.run_get]
    dsimp only
    rw [hrun]
    dsimp only
    rw [if_neg hskip, hverdict, EStateM.run_bind, run_ofExcept_ok]
  · unfold Follows
    rw [EStateM.run_bind, run_port]
    dsimp only
    cases env.commit.run s with
    | error e s' => rfl
    | ok u s' => exact ⟨(), _, rfl, rfl, rfl⟩

end Follows

/-- A refused statement raises. -/
theorem transaction_refused (env : Environment ω) {stmt : Statement} {now : Int} {w w' : World ω}
    (hrun : stmt.run now w.rows = none) : (transaction env stmt now).run w ≠ .ok () w' := by
  intro h
  rcases Effect.bind_ok.1 h with ⟨_, w₁, hexecute, h₁⟩
  have hrows : w₁.rows = w.rows :=
    ((keeps_port (I := fun v => v.rows = w.rows) (fun _ _ h => h) _).of_ok rfl hexecute).1
  rcases Effect.bind_ok.1 h₁ with ⟨_, w₂, hget, h₂⟩
  cases hget
  rw [hrows, hrun] at h₂
  cases h₂

variable {row : SpoolRow}

/-- The update of the row of an entry. -/
theorem updateWhere_of_row {t : SpoolTable} {id : PyStr} {state : SpoolState} (set : SpoolRow → SpoolRow)
    (hrow : t.lookup id = some row) (hstate : row.state = state) :
    t.updateWhere id state set = (t.insert id (set row), 1) := by
  unfold SpoolTable.updateWhere
  rw [hrow]
  exact if_pos hstate

variable {completed : CompletedLocalRecording}

/-- `record_complete` of an allocated entry with the right plan. -/
theorem follows_record_complete (env : Environment ω) {w : World ω}
    (hrow : w.rows.lookup completed.val.recording_id.value = some row) (hstate : row.state = .allocated)
    (hplan : row.plan_id = completed.val.manifest.val.plan_id.value) :
    Follows (completing env completed) (record_complete env completed)
      (fun w' => ∃ row', w'.rows.lookup completed.val.recording_id.value = some row' ∧
        row'.state = .complete) w := by
  refine follows_ofExcept fun payload _ => ?_
  refine follows_port fun _ s => ?_
  refine follows_port fun _ s' => ?_
  have hselect : (Statement.complete completed.val.recording_id.value payload
      completed.val.manifest.val.plan_id.value).select w.rows = .proceed := by
    simp [Statement.select, hrow, hstate, hplan]
  refine follows_of_run (y := do
    let now ← port env.now_ns
    transaction env (.complete completed.val.recording_id.value payload
      completed.val.manifest.val.plan_id.value) now) ?_ ?_
  · rw [EStateM.run_bind, EStateM.run_get]
    dsimp only
    rw [hselect]
  · refine follows_port fun now s'' => ?_
    have hrun : Statement.run now w.rows (.complete completed.val.recording_id.value payload
        completed.val.manifest.val.plan_id.value) = some (_, 1) :=
      congrArg some (updateWhere_of_row _ hrow hstate)
    refine (follows_transaction (w := { w with env := s'' }) env hrun Nat.one_ne_zero rfl).mono fun w' hw' => ?_
    rw [hw']
    exact ⟨_, AList.lookup_insert _, rfl⟩

/-- `record_failure` of an allocated entry. -/
theorem follows_record_failure (env : Environment ω) {reason : PyStr} (hreason : reason ≠ []) {w : World ω}
    (hrow : w.rows.lookup recording_id.value = some row) (hstate : row.state = .allocated) :
    Follows (failing env) (record_failure env recording_id reason)
      (fun w' => ∃ row', w'.rows.lookup recording_id.value = some row' ∧ row'.state = .failed) w := by
  refine follows_of_run (y := do
    port env.connect
    let now ← port env.now_ns
    transaction env (.fail recording_id.value reason) now) ?_ ?_
  · unfold record_failure
    have hok : raiseIf (reason = []) (.value "failure reason cannot be empty") = .ok () :=
      raiseIf_ok.2 hreason
    rw [hok, EStateM.run_bind, run_ofExcept_ok]
  · refine follows_port fun _ s => ?_
    refine follows_port fun now s' => ?_
    have hrun : Statement.run now w.rows (.fail recording_id.value reason) = some (_, 1) :=
      congrArg some (updateWhere_of_row _ hrow hstate)
    refine (follows_transaction (w := { w with env := s' }) env hrun Nat.one_ne_zero rfl).mono fun w' hw' => ?_
    rw [hw']
    exact ⟨_, AList.lookup_insert _, rfl⟩

/-- What `allocate` returns is allocated to the plan. -/
theorem allocate_ok {env : Environment ω} {root : PyStr} {plan_id : PlanId} {attempts : Nat} {w w' : World ω}
    (h : (allocate env root plan_id attempts).run w = .ok recording_id w') :
    ∃ row, w'.rows.lookup recording_id.value = some row ∧ row.state = .allocated ∧
      row.plan_id = plan_id.value := by
  induction attempts generalizing w with
  | zero => cases h
  | succ attempts ih =>
    rcases Effect.bind_ok.1 h with ⟨id, w₁, _, h₁⟩
    rcases Effect.bind_ok.1 h₁ with ⟨now, w₂, _, h₂⟩
    rcases Effect.bind_ok.1 h₂ with ⟨outcome, w₃, hattempt, h₃⟩
    rw [Effect.run_attempt] at hattempt
    split at hattempt
    · -- the row was inserted
      rename_i u t hinsert
      cases hattempt
      cases h₃
      rcases Effect.bind_ok.1 hinsert with ⟨_, w₄, _, htransaction⟩
      cases hrun : Statement.run now w₄.rows
        (.insert recording_id.value plan_id.value (SpoolCall.destination root recording_id)) with
      | none => exact absurd htransaction (transaction_refused env hrun)
      | some r =>
        rcases r with ⟨rows, n⟩
        simp only [Statement.run] at hrun
        split at hrun
        · cases hrun
        rename_i hfree
        have hrows : Statement.run now w₄.rows
            (.insert recording_id.value plan_id.value (SpoolCall.destination root recording_id)) = some (_, 1) :=
          if_neg hfree
        rw [(follows_transaction env hrows Nat.one_ne_zero rfl).of_ok htransaction]
        exact ⟨_, AList.lookup_insert _, rfl, rfl⟩
    · cases hattempt
      dsimp only at h₃
      split at h₃
      · exact ih h₃
      · cases h₃

/-! ## The whole plan -/

theorem failureReason_ne_nil (e : PyError) : failureReason e ≠ [] := by
  have hname : str e.kind.name ≠ [] := by cases e.kind <;> decide
  intro h
  rw [failureReason, str, String.toList_append, String.toList_append, List.append_assoc,
    List.map_append] at h
  exact hname (List.append_eq_nil_iff.1 h).1

/-- Equal manifests have equal plans. -/
theorem plan_id_of_eq {m m' : RecordingManifest}
    (h : PyValue.eq (RecordingManifest.toPy m) (RecordingManifest.toPy m') = true) :
    m.val.plan_id.value = m'.val.plan_id.value := by
  simp only [RecordingManifest.toPy, PyValue.dataclass, List.map_cons, List.map_nil, PyValue.eq,
    PyValue.eqFields, ContractId.toPy, Bool.and_eq_true, decide_eq_true_eq] at h
  tauto

variable {manifest : RecordingManifest}

/-- `conclude`, when the entry is still allocated to the plan of the manifest. -/
theorem follows_conclude (env : Environment ω) {w : World ω} (hrow : w.rows.lookup recording_id.value = some row)
    (hstate : row.state = .allocated) (hplan : row.plan_id = manifest.val.plan_id.value) :
    Follows (finishing env recording_id manifest completed) (conclude env recording_id manifest completed)
      (fun w' => ∃ row', w'.rows.lookup recording_id.value = some row' ∧ row'.state = .complete) w := by
  refine follows_ofExcept fun _ hcheck => ?_
  unfold checkCompleted at hcheck
  split at hcheck
  · cases hcheck
  rename_i hsame
  rw [not_or, not_not, Bool.not_eq_false] at hsame
  rcases hsame with ⟨hid, hmanifest⟩
  subst hid
  exact follows_record_complete env hrow hstate (hplan.trans (plan_id_of_eq hmanifest).symm)

/-- When `finalize` returned, the entry is allocated to the plan of the manifest. -/
theorem finalized_ok {env : Environment ω} {root : PyStr} {w w₁ : World ω}
    (h : (finalized env identity root plan).run w = .ok (recording_id, manifest, completed) w₁) :
    (∃ row, w₁.rows.lookup recording_id.value = some row ∧ row.state = .allocated ∧
      row.plan_id = plan.val.plan_id.value) ∧ w₁.session = true := by
  rcases Effect.bind_ok.1 h with ⟨⟨created, id⟩, w₂, hstart, hrest⟩
  rcases Effect.bind_ok.1 hrest with ⟨⟨m, c⟩, w₃, hcapture, hpure⟩
  cases hpure
  rcases capture_ok hcapture with ⟨hrows, hsession⟩
  refine ⟨?_, hsession⟩
  rw [hrows]
  rcases Effect.bind_ok.1 hstart with ⟨_, _, _, hstart⟩
  rcases Effect.bind_ok.1 hstart with ⟨_, _, _, hstart⟩
  rcases Effect.bind_ok.1 hstart with ⟨_, _, _, hstart⟩
  rcases Effect.bind_ok.1 hstart with ⟨_, w₄, hallocate, hstart⟩
  rcases Effect.bind_ok.1 hstart with ⟨_, w₅, hset, hpure⟩
  cases hset
  cases hpure
  have hrow := allocate_ok hallocate
  exact hrow

/-- The manifest belongs to the plan. -/
theorem finalized_plan_id {env : Environment ω} {root : PyStr} {w w₁ : World ω}
    (h : (finalized env identity root plan).run w = .ok (recording_id, manifest, completed) w₁) :
    manifest.val.plan_id = plan.val.plan_id := by
  rcases Effect.bind_ok.1 h with ⟨⟨created, id⟩, w₂, _, hrest⟩
  rcases Effect.bind_ok.1 hrest with ⟨⟨m, c⟩, w₃, hcapture, hpure⟩
  cases hpure
  rcases Effect.bind_ok.1 hcapture with ⟨_, _, _, h⟩
  rcases Effect.bind_ok.1 h with ⟨_, _, _, h⟩
  rcases Effect.bind_ok.1 h with ⟨_, _, _, h⟩
  rcases Effect.bind_ok.1 h with ⟨_, _, _, h⟩
  rcases Effect.bind_ok.1 h with ⟨_, _, _, h⟩
  rcases Effect.bind_ok.1 h with ⟨progress, _, _, h⟩
  rcases Effect.bind_ok.1 h with ⟨_, _, _, h⟩
  rcases Effect.bind_ok.1 h with ⟨manifest, _, hmanifest, h⟩
  rcases Effect.bind_ok.1 h with ⟨_, _, _, hpure⟩
  cases hpure
  rw [Checked.val_of_make (ofExcept_ok hmanifest)]

/-- After `finalize` returned, `execute` goes on as `conclude` and the handler do. -/
theorem run_execute {env : Environment ω} {root : PyStr} {w w₁ : World ω}
    (h : (finalized env identity root plan).run w = .ok (recording_id, manifest, completed) w₁) :
    (execute env identity root plan).run w =
      match (conclude env recording_id manifest completed).run w₁ with
      | .ok _ w' => .ok completed w'
      | .error e w' => (writeOff env recording_id e).run w' := by
  rcases Effect.bind_ok.1 h with ⟨⟨created, id⟩, w₂, hstart, hrest⟩
  rcases Effect.bind_ok.1 hrest with ⟨⟨m, c⟩, w₃, hcapture, hpure⟩
  cases hpure
  unfold execute
  rw [Effect.run_bind_of_ok hstart]
  dsimp only
  rw [Effect.run_tryCatch, Effect.run_bind_of_ok hcapture]
  dsimp only
  rw [EStateM.run_bind]
  cases (conclude env recording_id manifest completed).run w₁ with
  | ok u w' => rfl
  | error e w' => rfl

/-- The handler, when the entry is still allocated. -/
theorem follows_handle (env : Environment ω) (e : PyError) {w : World ω} (hsession : w.session = true)
    (hrow : w.rows.lookup recording_id.value = some row) (hstate : row.state = .allocated) :
    Follows (writingOff env e) (handle env recording_id e)
      (fun w' => ∃ row', w'.rows.lookup recording_id.value = some row' ∧ row'.state = .failed) w := by
  refine follows_of_run (y := do
    port (env.abort e.message)
    record_failure env recording_id (failureReason e)) ?_ ?_
  · unfold handle
    rw [EStateM.run_bind, EStateM.run_get]
    dsimp only
    rw [if_pos hsession]
  · exact follows_port fun _ s => follows_record_failure env (failureReason_ne_nil e) hrow hstate

/-- The entry stays recoverable exactly if the handler does not get through. -/
theorem kept_writeOff {env : Environment ω} {e : PyError} {w : World ω} (hsession : w.session = true)
    (hrow : w.rows.lookup recording_id.value = some row) (hstate : row.state = .allocated) :
    Kept (Effect.state ((writeOff env recording_id e : Eff ω CompletedLocalRecording).run w)).rows
        recording_id ↔
      (e.kind.IsException → ∀ s, (writingOff env e).run w.env ≠ .ok () s) := by
  have hkept : Kept w.rows recording_id := ⟨row, hrow, Or.inl hstate⟩
  unfold writeOff
  by_cases hexception : e.kind.IsException
  · rw [if_pos hexception, EStateM.run_bind]
    have hfollows := follows_handle env e hsession hrow hstate
    unfold Follows at hfollows
    cases hrun : (writingOff env e).run w.env with
    | error e' s =>
      -- the handler raised before its commit
      rw [hrun] at hfollows
      rw [hfollows]
      exact iff_of_true hkept fun _ s' h => by cases h
    | ok u s =>
      -- the entry is failed
      rw [hrun] at hfollows
      rcases hfollows with ⟨_, w', hhandle, _, row', hrow', hfailed⟩
      rw [hhandle]
      refine iff_of_false ?_ fun h => h hexception s rfl
      rintro ⟨row'', hrow'', hstate''⟩
      have hsame : row'' = row' := Option.some.inj (hrow''.symm.trans hrow')
      rw [hsame, hfailed] at hstate''
      rcases hstate'' with h | h <;> cases h
  · rw [if_neg hexception]
    exact iff_of_true hkept fun h => absurd h hexception

/-- After the write session returned from `finalize`, the entry ends up allocated or
complete exactly if, whenever a call between `finalize` and the commit of
`record_complete` raises an `Exception`, `abort` or a call of `record_failure` raises as
well. Otherwise it is failed. -/
theorem finalized_kept_iff {env : Environment ω} {identity : CaptureIdentity} {root : PyStr}
    {plan : CapturePlan} {recording_id : RecordingId} {manifest : RecordingManifest}
    {completed : CompletedLocalRecording} {w w₁ : World ω}
    (h : (finalized env identity root plan).run w = .ok (recording_id, manifest, completed) w₁) :
    Kept (Effect.state ((execute env identity root plan).run w)).rows recording_id ↔
      Recoverable env recording_id manifest completed w₁.env := by
  rcases finalized_ok h with ⟨⟨row, hrow, hstate, hplan⟩, hsession⟩
  have hfollows : Follows (finishing env recording_id manifest completed) _ _ w₁ :=
    follows_conclude env hrow hstate (hplan.trans (congrArg ContractId.value (finalized_plan_id h)).symm)
  unfold Follows at hfollows
  rw [run_execute h]
  unfold Recoverable
  cases hrun : (finishing env recording_id manifest completed).run w₁.env with
  | error e s =>
    rw [hrun] at hfollows
    rw [hfollows]
    refine (kept_writeOff (w := { w₁ with env := s }) hsession hrow hstate).trans ?_
    constructor
    · intro hwrite e' s' heq
      cases heq
      exact hwrite
    · intro hall
      exact hall e s rfl
  | ok u s =>
    rw [hrun] at hfollows
    rcases hfollows with ⟨_, w', hconclude, _, row', hrow', hcomplete⟩
    rw [hconclude]
    refine iff_of_true ⟨row', hrow', Or.inr hcomplete⟩ ?_
    intro e s' heq
    cases heq

/-! ## A finalized recording that is written off -/

/-- One segment of four samples. -/
def shortRequest : SegmentRequest where
  val := {
    segment_id := Sample.seg_1
    center_frequency_hz := .int 1600000000
    sample_rate_hz := .int 2000000
    bandwidth_hz := .int 1500000
    receiver_chain_ids := [Sample.rx_1]
    gain := ⟨{ mode := .agc }, GainSetting.Fields.agc_ok⟩
    sample_count := some 4 }
  ok := by decide

def shortSegment : SegmentManifest where
  val := {
    segment_id := shortRequest.val.segment_id
    requested := shortRequest
    actual_center_frequency_hz := .int 1600000000
    actual_sample_rate_hz := .int 2000000
    actual_bandwidth_hz := .int 1500000
    actual_gain := ⟨{ mode := .agc }, GainSetting.Fields.agc_ok⟩
    start_utc_ns := 10
    monotonic_start_ns := 10
    sample_count := 4
    shape := (4, 1, 2) }
  ok := by decide +kernel

def shortPlan : CapturePlan where
  val := {
    schema := ⟨str "org.leo-flow.capture-plan", V0_1, isToken_capture_plan⟩
    plan_id := Sample.plan_1
    radio_id := Sample.radio_1
    receiver_chain_ids := [Sample.rx_1]
    activities := [⟨{
      activity_id := Sample.act_1
      kind := .dwell
      segments := [shortRequest] }, by decide⟩] }
  ok := by decide

def shortIdentity : CaptureIdentity where
  station_id := Sample.station_1
  radio_serial := str "1"
  clock_status := str "locked"
  hardware_metadata_snapshot_id := Sample.hw_1
  producer := str "leo-flow"

def shortData : LocalObjectRef :=
  ⟨⟨str "rec_1.sigmf-data", Digest.sha256 (List.replicate 16 0), 16⟩, by decide⟩

def shortMetadata : LocalObjectRef :=
  ⟨⟨str "rec_1.sigmf-meta", Digest.sha256 [123, 125], 2⟩, by decide⟩

theorem shortData_ne_shortMetadata : shortData.val.digest ≠ shortMetadata.val.digest := by
  decide +kernel

/-- What a writer returns for a manifest: 16 zero bytes, and `{}` as the metadata. -/
def sealRecording (manifest : RecordingManifest) : Except PyError CompletedLocalRecording :=
  match h : canonicalDigest (RecordingManifest.toPy manifest) with
  | .error e => .error e
  | .ok manifest_digest => .ok {
      val := {
        recording_id := manifest.val.recording_id
        data_object := shortData
        metadata_object := shortMetadata
        manifest, manifest_digest }
      ok := by
        simp [CompletedLocalRecording.Fields.post_init, shortData_ne_shortMetadata, h] }

/-- The state counts the connections: between the first one, of `allocate`, and the call
of `abort` the database cannot be opened. Nothing else raises. -/
def brokenConnect : Environment Nat where
  radio_id := pure Sample.radio_1
  radio := .plain fun _ => pure (.write (List.replicate 16 0) () fun _ => .returned shortSegment)
  now_utc_ns := pure 5
  delay _ := pure ()
  begin _ _ _ _ := pure ()
  recording_id := pure Sample.rec_1
  append_iq _ _ := pure ()
  continuity := none
  finish_segment _ := pure ()
  finalize manifest := ofExcept (sealRecording manifest)
  abort _ := set 2
  id_factory := pure Sample.rec_1
  now_ns := pure 5
  connect n := if n = 1 then .error ⟨.operational_error, "unable to open database file"⟩ n
    else .ok () (n + 1)
  execute := pure ()
  commit := pure ()

/-- The session returns from `finalize`. -/
theorem finalized_brokenConnect : ∃ r w₁,
    (finalized brokenConnect shortIdentity (str "/spool") shortPlan).run ⟨0, ∅, false⟩ = .ok r w₁ ∧
      w₁.env = 1 := by
  have hrun : (match (finalized brokenConnect shortIdentity (str "/spool") shortPlan).run ⟨0, ∅, false⟩ with
      | .ok _ w₁ => decide (w₁.env = 1)
      | .error _ _ => false) = true := by
    decide +kernel
  split at hrun
  · rename_i r w₁ h
    exact ⟨r, w₁, h, of_decide_eq_true hrun⟩
  · cases hrun

theorem finalized_kept_brokenConnect : ∃ recording_id manifest completed w₁,
    (finalized brokenConnect shortIdentity (str "/spool") shortPlan).run ⟨0, ∅, false⟩ =
      .ok (recording_id, manifest, completed) w₁ ∧
    (Kept (Effect.state ((execute brokenConnect shortIdentity (str "/spool") shortPlan).run
        ⟨0, ∅, false⟩)).rows recording_id ↔
      Recoverable brokenConnect recording_id manifest completed w₁.env) := by
  rcases finalized_brokenConnect with ⟨⟨recording_id, manifest, completed⟩, w₁, h, _⟩
  exact ⟨recording_id, manifest, completed, w₁, h, finalized_kept_iff h⟩

/-- Whether or not the encoder raises first, `record_complete` raises. -/
theorem finishing_brokenConnect (recording_id : RecordingId) (manifest : RecordingManifest)
    (completed : CompletedLocalRecording) :
    ∃ e, (finishing brokenConnect recording_id manifest completed).run 1 = .error e 1 ∧
      e.kind.IsException := by
  have hcheck : ∀ e, checkCompleted recording_id manifest completed = .error e → e.kind.IsException := by
    intro e he
    unfold checkCompleted at he
    split at he
    · cases he
      decide
    · split at he
      · rename_i hdigest
        cases he
        exact Json.isException_of_isEncodingError
          (raisesOnly_map (Json.raisesOnly_canonicalJsonBytes _) _ hdigest)
      · unfold raiseIf at he
        split at he
        · cases he
          decide
        · cases he
  unfold finishing completing
  cases hc : checkCompleted recording_id manifest completed with
  | error e => exact ⟨e, rfl, hcheck e hc⟩
  | ok u =>
    cases hencode : Serialization.encodeCompleted completed with
    | error e =>
      exact ⟨e, rfl, Json.isException_of_isEncodingError (Json.raisesOnly_canonicalJsonBytes _ e hencode)⟩
    | ok payload => exact ⟨_, rfl, by decide⟩

/-- `record_complete` cannot connect to the database, `record_failure` can. -/
theorem finalized_written_off : ∃ recording_id manifest completed w₁,
    (finalized brokenConnect shortIdentity (str "/spool") shortPlan).run ⟨0, ∅, false⟩ =
      .ok (recording_id, manifest, completed) w₁ ∧
    ∃ row, (Effect.state ((execute brokenConnect shortIdentity (str "/spool") shortPlan).run
        ⟨0, ∅, false⟩)).rows.lookup recording_id.value = some row ∧ row.state = .failed := by
  rcases finalized_brokenConnect with ⟨⟨recording_id, manifest, completed⟩, w₁, h, henv⟩
  refine ⟨recording_id, manifest, completed, w₁, h, ?_⟩
  rcases finalized_ok h with ⟨⟨row, hrow, hstate, hplan⟩, hsession⟩
  have hfollows : Follows (finishing brokenConnect recording_id manifest completed) _ _ w₁ :=
    follows_conclude brokenConnect hrow hstate
      (hplan.trans (congrArg ContractId.value (finalized_plan_id h)).symm)
  unfold Follows at hfollows
  rcases finishing_brokenConnect recording_id manifest completed with ⟨e, hfinishing, he⟩
  rw [henv, hfinishing] at hfollows
  have hhandle := follows_handle (w := { w₁ with env := 1 }) brokenConnect e hsession hrow hstate
  rcases hhandle with ⟨_, w', hhandle, _, hfailed⟩
  rw [run_execute h, hfollows]
  dsimp only
  unfold writeOff
  rw [if_pos he, Effect.run_bind_of_ok hhandle]
  exact hfailed

end Engine

end LeoFlow
