import LeoFlow.Capture.Engine
import LeoFlow.Contracts.Samples

/-!
# LeoFlow.Capture.EngineTimestamps — clock readings and the manifests

`PlanCaptureEngine.execute` reads the wall clock before it allocates, when the session is there, around every activity
and at the end, and clamps a reading to those before it; all but the first two are clamped. The readings of a run are
whatever the environment's clock returns.
-/

namespace LeoFlow

namespace Engine

variable {ω : Type}

/-! ## The constructor calls of a run -/

/-- What one activity has acquired. -/
structure AcquiredActivity where
  started : Int
  segments : List SegmentManifest
  finished : Int

/-- One round of the loop over `plan.activities`, up to the construction of its manifest. -/
def acquireActivity (env : Environment ω) (progress : Progress) (activity : ActivityRequest) :
    Eff ω AcquiredActivity := do
  let activity_started := max (← port env.now_utc_ns) progress.previous_activity_finished
  let segments ← activity.val.segments.foldlM (runSegment env) []
  let activity_finished := max (← port env.now_utc_ns) (activity_started + 1)
  pure ⟨activity_started, segments, activity_finished⟩

/-- The arguments of `ActivityManifest` -/
def AcquiredActivity.fields (a : AcquiredActivity) (activity : ActivityRequest) : ActivityManifest.Fields where
  activity_id := activity.val.activity_id
  kind := activity.val.kind
  started_utc_ns := a.started
  finished_utc_ns := a.finished
  segment_ids := a.segments.map fun s => s.val.segment_id

theorem runActivity_eq (env : Environment ω) (progress : Progress) (activity : ActivityRequest) :
    runActivity env progress activity = (do
      let acquired ← acquireActivity env progress activity
      let manifest ← ofExcept (Checked.make ActivityManifest.Fields.post_init (acquired.fields activity))
      pure {
        activities := progress.activities ++ [manifest]
        segments := progress.segments ++ acquired.segments
        previous_activity_finished := acquired.finished }) := by
  simp only [runActivity, acquireActivity, bind_assoc, pure_bind]
  rfl

/-- What a run has when it constructs the recording manifest. -/
structure AcquiredPlan where
  recording_id : RecordingId
  created : Int
  started : Int
  progress : Progress
  finished : Int

/-- `execute` up to the construction of the recording manifest: every acquisition has succeeded. -/
def acquirePlan (env : Environment ω) (identity : CaptureIdentity) (root : PyStr) (plan : CapturePlan) :
    Eff ω AcquiredPlan := do
  let (created_utc_ns, recording_id) ← start env root plan
  port (env.begin recording_id plan identity.hardware_metadata_snapshot_id (SpoolCall.destination root recording_id))
  modify fun w => { w with session := true }
  let session_recording_id ← port env.recording_id
  ofExcept (raiseIf (session_recording_id ≠ recording_id)
    ⟨.writer_identity_error, "writer session ID differs from the local spool allocation"⟩)
  let capture_started_utc_ns ← port env.now_utc_ns
  let progress ← plan.val.activities.foldlM (runActivity env) ⟨[], [], capture_started_utc_ns⟩
  let capture_finished_utc_ns := max (max (← port env.now_utc_ns) (capture_started_utc_ns + 1))
    progress.previous_activity_finished
  pure ⟨recording_id, created_utc_ns, capture_started_utc_ns, progress, capture_finished_utc_ns⟩

/-- The arguments of `RecordingManifest` -/
def AcquiredPlan.fields (a : AcquiredPlan) (identity : CaptureIdentity) (plan : CapturePlan) :
    RecordingManifest.Fields where
  schema := manifestSchema
  recording_id := a.recording_id
  created_utc_ns := a.created
  capture_started_utc_ns := a.started
  capture_finished_utc_ns := a.finished
  station_id := identity.station_id
  radio_id := plan.val.radio_id
  radio_serial := identity.radio_serial
  receiver_chain_ids := plan.val.receiver_chain_ids
  clock_status := identity.clock_status
  hardware_metadata_snapshot_id := identity.hardware_metadata_snapshot_id
  activities := a.progress.activities
  segments := a.progress.segments
  plan_id := plan.val.plan_id
  producer := identity.producer
  experiment_tags := plan.val.experiment_tags

theorem finalized_eq (env : Environment ω) (identity : CaptureIdentity) (root : PyStr) (plan : CapturePlan) :
    finalized env identity root plan = (do
      let acquired ← acquirePlan env identity root plan
      let manifest ← ofExcept (Checked.make RecordingManifest.Fields.post_init (acquired.fields identity plan))
      let completed ← port (env.finalize manifest)
      pure (acquired.recording_id, manifest, completed)) := by
  simp only [finalized, capture, captureSession, acquirePlan, bind_assoc, pure_bind]
  rfl

/-! ## What the constructors raise about the order of timestamps -/

def emptyInterval : PyError := .value "activity interval and segments must be non-empty"

def inconsistentTimestamps : PyError := .value "recording timestamps are inconsistent"

/-- An activity manifest is refused for its interval or its segments. -/
theorem activity_post_init_error_iff (a : ActivityManifest.Fields) :
    a.post_init = .error emptyInterval ↔
      0 ≤ a.started_utc_ns ∧ 0 ≤ a.finished_utc_ns ∧ (a.finished_utc_ns ≤ a.started_utc_ns ∨ a.segment_ids = []) := by
  have hfield : ∀ field ∈ ["started_utc_ns", "finished_utc_ns"],
      PyError.value (field ++ " must be a non-negative UTC nanosecond integer") ≠ emptyInterval := by decide
  have hstarted := hfield "started_utc_ns" (by simp)
  have hfinished := hfield "finished_utc_ns" (by simp)
  simp only [ActivityManifest.Fields.post_init, checkAll_cons_error_iff, checkAll_nil, requireUtcNs,
    raiseIf_error_iff, raiseIf_ok, hstarted, hfinished, not_lt, and_false, false_or, reduceCtorEq, or_false,
    show PyError.value "activity interval and segments must be non-empty" = emptyInterval from rfl, and_true]

/-- A recording manifest of the supported schema is refused for the order of its timestamps. -/
theorem recording_post_init_error_iff (m : RecordingManifest.Fields) (hschema : m.schema = manifestSchema) :
    m.post_init = .error inconsistentTimestamps ↔
      0 ≤ m.created_utc_ns ∧ 0 ≤ m.capture_started_utc_ns ∧ 0 ≤ m.capture_finished_utc_ns ∧
        ¬(m.created_utc_ns ≤ m.capture_started_utc_ns ∧ m.capture_started_utc_ns < m.capture_finished_utc_ns) := by
  have hsupported : ¬(m.schema.schema_id ≠ str "org.leo-flow.recording-manifest" ∨ m.schema.version ≠ V0_1) := by
    rw [hschema]
    decide
  have hfield : ∀ field ∈ ["created_utc_ns", "capture_started_utc_ns", "capture_finished_utc_ns"],
      PyError.value (field ++ " must be a non-negative UTC nanosecond integer") ≠ inconsistentTimestamps := by decide
  have hother : ∀ message ∈ ["unsupported recording manifest schema",
      "published recording manifests must be complete", "v0.1 recording sample representation is fixed",
      "receiver chains must be unique", "segment IDs must be unique",
      "each segment must belong to exactly one activity"], PyError.value message ≠ inconsistentTimestamps := by decide
  have hcreated := hfield "created_utc_ns" (by simp)
  have hstarted := hfield "capture_started_utc_ns" (by simp)
  have hfinished := hfield "capture_finished_utc_ns" (by simp)
  simp only [List.mem_cons, List.not_mem_nil, or_false, forall_eq_or_imp, forall_eq] at hother
  simp only [RecordingManifest.Fields.post_init, checkAll_cons_error_iff, checkAll_nil, requireUtcNs,
    raiseIf_error_iff, raiseIf_ok, hstarted, hfinished, hcreated, hother, hsupported, not_lt, and_false, false_or,
    not_false_eq_true, true_and, reduceCtorEq, or_false,
    show PyError.value "recording timestamps are inconsistent" = inconsistentTimestamps from rfl, and_true]

variable {env : Environment ω} {w w' : World ω}

/-- Every acquired activity has a segment for each request. -/
theorem length_runSegments {requests : List SegmentRequest} {segments segments' : List SegmentManifest}
    (h : (requests.foldlM (runSegment env) segments).run w = .ok segments' w') :
    segments'.length = segments.length + requests.length := by
  induction requests generalizing segments w with
  | nil =>
    cases h
    rfl
  | cons request requests ih =>
    rw [List.foldlM_cons] at h
    rcases Effect.bind_ok.1 h with ⟨segments₁, w₁, hsegment, hrest⟩
    have hone : segments₁.length = segments.length + 1 := by
      unfold runSegment at hsegment
      rcases Effect.bind_ok.1 hsegment with ⟨_, _, _, hacquire⟩
      rcases Effect.bind_ok.1 hacquire with ⟨segment, _, _, hcheck⟩
      rcases Effect.bind_ok.1 hcheck with ⟨_, _, _, hfinish⟩
      rcases Effect.bind_ok.1 hfinish with ⟨_, _, _, hpure⟩
      cases hpure
      rw [List.length_append, List.length_singleton]
    rw [ih hrest, hone, List.length_cons]
    omega

/-- The activity manifest of acquired segments is in order, whatever the clock says. -/
theorem activity_in_order {progress : Progress} {activity : ActivityRequest} {acquired : AcquiredActivity}
    (h : (acquireActivity env progress activity).run w = .ok acquired w') :
    Checked.make ActivityManifest.Fields.post_init (acquired.fields activity) ≠ .error emptyInterval := by
  unfold acquireActivity at h
  rcases Effect.bind_ok.1 h with ⟨now, w₁, _, hrest⟩
  rcases Effect.bind_ok.1 hrest with ⟨segments, w₂, hsegments, hrest'⟩
  rcases Effect.bind_ok.1 hrest' with ⟨now', w₃, _, hpure⟩
  cases hpure
  have hrequests : activity.val.segments ≠ [] := by
    have hok := activity.ok
    simp only [ActivityRequest.Fields.post_init, checkAll_cons, raiseIf_ok] at hok
    exact hok.1
  have hne : segments ≠ [] := by
    intro hnil
    have hlength := length_runSegments hsegments
    rw [hnil] at hlength
    simp only [List.length_nil] at hlength
    exact hrequests (List.length_eq_zero_iff.1 (by omega))
  rw [Ne, Checked.make_error_iff, activity_post_init_error_iff]
  rintro ⟨_, _, hbad | hbad⟩
  · -- the finish is clamped against the start
    have hclamped : max now' (max now progress.previous_activity_finished + 1) ≤
        max now progress.previous_activity_finished := hbad
    omega
  · exact hne (List.map_eq_nil_iff.1 hbad)

/-- The recording manifest is out of order exactly when the clock stepped back before the capture started. -/
theorem recording_out_of_order_iff {identity : CaptureIdentity} {root : PyStr} {plan : CapturePlan}
    {acquired : AcquiredPlan} (h : (acquirePlan env identity root plan).run w = .ok acquired w') :
    Checked.make RecordingManifest.Fields.post_init (acquired.fields identity plan) = .error inconsistentTimestamps ↔
      0 ≤ acquired.created ∧ 0 ≤ acquired.started ∧ acquired.started < acquired.created := by
  have hclamped : acquired.started < acquired.finished := by
    unfold acquirePlan at h
    rcases Effect.bind_ok.1 h with ⟨⟨created, recording_id⟩, w₁, _, h₁⟩
    rcases Effect.bind_ok.1 h₁ with ⟨_, w₂, _, h₂⟩
    rcases Effect.bind_ok.1 h₂ with ⟨_, w₃, _, h₃⟩
    rcases Effect.bind_ok.1 h₃ with ⟨_, w₄, _, h₄⟩
    rcases Effect.bind_ok.1 h₄ with ⟨_, w₅, _, h₅⟩
    rcases Effect.bind_ok.1 h₅ with ⟨started, w₆, _, h₆⟩
    rcases Effect.bind_ok.1 h₆ with ⟨progress, w₇, _, h₇⟩
    rcases Effect.bind_ok.1 h₇ with ⟨now, w₈, _, hpure⟩
    cases hpure
    simp only
    omega
  rw [Checked.make_error_iff, recording_post_init_error_iff _ rfl]
  show 0 ≤ acquired.created ∧ 0 ≤ acquired.started ∧ 0 ≤ acquired.finished ∧
    ¬(acquired.created ≤ acquired.started ∧ acquired.started < acquired.finished) ↔ _
  omega

/-- Once its segments are acquired, an activity is not refused for the order of its timestamps. -/
theorem runActivity_in_order {progress : Progress} {activity : ActivityRequest} {acquired : AcquiredActivity}
    (h : (acquireActivity env progress activity).run w = .ok acquired w') (w'' : World ω) :
    (runActivity env progress activity).run w ≠ .error emptyInterval w'' := by
  have horder := activity_in_order h
  rw [runActivity_eq, Effect.run_bind_of_ok h]
  cases hmake : Checked.make ActivityManifest.Fields.post_init (acquired.fields activity) with
  | ok manifest =>
    intro hrun
    cases hrun
  | error e =>
    intro hrun
    cases hrun
    exact horder hmake

/-- A run that is out of order raises, with everything acquired. -/
theorem finalized_out_of_order {identity : CaptureIdentity} {root : PyStr} {plan : CapturePlan}
    {acquired : AcquiredPlan} (h : (acquirePlan env identity root plan).run w = .ok acquired w')
    (hmake : Checked.make RecordingManifest.Fields.post_init (acquired.fields identity plan) = .error inconsistentTimestamps) :
    (finalized env identity root plan).run w = .error inconsistentTimestamps w' := by
  rw [finalized_eq, Effect.run_bind_of_ok h, hmake]
  rfl

/-- For every environment (radio, writer and clock) and every plan: when the segments are acquired, no activity
manifest is refused for the order of its timestamps, and the recording manifest is exactly when the capture starts
before the recording was created. -/
theorem manifests_in_order_iff (env : Environment ω) (identity : CaptureIdentity) (root : PyStr)
    (plan : CapturePlan) :
    (∀ progress activity acquired w w', (acquireActivity env progress activity).run w = .ok acquired w' →
      ∀ w'', (runActivity env progress activity).run w ≠ .error emptyInterval w'') ∧
      ∀ acquired w w', (acquirePlan env identity root plan).run w = .ok acquired w' →
        (Checked.make RecordingManifest.Fields.post_init (acquired.fields identity plan) ≠
            .error inconsistentTimestamps ↔
          acquired.created ≤ acquired.started ∨ acquired.created < 0 ∨ acquired.started < 0) ∧
          (acquired.started < acquired.created → 0 ≤ acquired.started →
            (finalized env identity root plan).run w = .error inconsistentTimestamps w') := by
  constructor
  · intro progress activity acquired w w' h w''
    exact runActivity_in_order h w''
  · intro acquired w w' h
    have hiff := recording_out_of_order_iff h
    constructor
    · rw [Ne, hiff]
      omega
    · intro hback hstarted
      exact finalized_out_of_order h (hiff.2 ⟨by omega, hstarted, hback⟩)

/-! ## A clock that steps back -/

/-- The state is what is left of the clock's readings; nothing raises. -/
def readings : Environment (List Int) where
  radio_id := pure Sample.radio_1
  radio := .plain fun _ => pure (.write (List.replicate 16 0) () fun _ => .returned shortSegment)
  now_utc_ns s := .ok (s.headD 0) s.tail
  delay _ := pure ()
  begin _ _ _ _ := pure ()
  recording_id := pure Sample.rec_1
  append_iq _ _ := pure ()
  continuity := none
  finish_segment _ := pure ()
  finalize manifest := ofExcept (sealRecording manifest)
  abort _ := pure ()
  id_factory := pure Sample.rec_1
  now_ns := pure 5
  connect := pure ()
  execute := pure ()
  commit := pure ()

/-- The clock reads 10 before the allocation, and 5 to 8 from then on: the one segment is acquired, and the run raises
over its timestamps. -/
theorem clock_step_back_raises : ∃ acquired w',
    (acquirePlan readings shortIdentity (str "/spool") shortPlan).run ⟨[10, 5, 6, 7, 8], ∅, false⟩ =
      .ok acquired w' ∧
    Checked.make RecordingManifest.Fields.post_init (acquired.fields shortIdentity shortPlan) =
      .error inconsistentTimestamps := by
  have hrun : (match (acquirePlan readings shortIdentity (str "/spool") shortPlan).run
        ⟨[10, 5, 6, 7, 8], ∅, false⟩ with
      | .ok acquired _ => decide (acquired.created = 10 ∧ acquired.started = 5)
      | .error _ _ => false) = true := by
    decide +kernel
  split at hrun
  · rename_i acquired w' h
    have htimes := of_decide_eq_true hrun
    exact ⟨acquired, w', h, (recording_out_of_order_iff h).2 (by omega)⟩
  · cases hrun

end Engine

end LeoFlow
