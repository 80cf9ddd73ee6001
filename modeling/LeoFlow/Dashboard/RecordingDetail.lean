import LeoFlow.Capture.EngineTimestamps
import LeoFlow.Contracts.Storage
import LeoFlow.Core.FloatArith
import LeoFlow.Core.SortedSets

/-!
# LeoFlow.Dashboard.RecordingDetail — the detail view of a recording

`recording_capture_detail_view_v0_1` of `adapters/dashboard_recording_postgres.py` maps the manifest of a
published recording to the view of `contracts/dashboard_recording.py`, whose checks restate those of the
manifest.
-/

namespace LeoFlow

namespace RecordingDetail

/-! ## The view -/

structure SegmentView.Fields where
  segment_id : SegmentId
  activity_id : ActivityId
  activity_kind : ActivityKind
  receiver_chain_ids : List ReceiverChainId
  started_utc_ns : Int
  finished_utc_ns : Int
  center_frequency_hz : Num
  sample_rate_hz : Num
  bandwidth_hz : Num
  gain_mode : GainMode
  gain_db : Option Num
  sample_count : Int
deriving DecidableEq

def SegmentView.Fields.post_init (v : SegmentView.Fields) : Except PyError Unit :=
  checkAll [
    raiseIf (v.receiver_chain_ids = [] ∨ ¬v.receiver_chain_ids.Nodup) (.value "receiver_chain_ids must be non-empty and unique"),
    requireUtcNs v.started_utc_ns "started_utc_ns",
    requireUtcNs v.finished_utc_ns "finished_utc_ns",
    raiseIf (v.finished_utc_ns ≤ v.started_utc_ns) (.value "segment interval must be non-empty"),
    requirePositive v.center_frequency_hz "center_frequency_hz",
    requirePositive v.sample_rate_hz "sample_rate_hz",
    requirePositive v.bandwidth_hz "bandwidth_hz",
    raiseIf (v.sample_rate_hz.Lt v.bandwidth_hz) (.value "bandwidth_hz cannot exceed sample_rate_hz"),
    raiseIf (v.sample_count ≤ 0) (.value "sample_count must be a positive integer"),
    raiseIf (v.gain_mode = .manual ∧ v.gain_db = none) (.value "manual gain requires gain_db"),
    raiseIf (v.gain_mode = .agc ∧ v.gain_db ≠ none) (.value "AGC gain cannot declare gain_db")]

/-- `RecordingSegmentViewV0_1` -/
abbrev SegmentView := Checked SegmentView.Fields.post_init

structure View.Fields where
  schema : SchemaRef
  recording_id : RecordingId
  plan_id : PlanId
  station_id : StationId
  radio_id : RadioId
  radio_serial : PyStr
  hardware_snapshot_id : HardwareSnapshotId
  producer : PyStr
  clock_status : PyStr
  capture_started_utc_ns : Int
  capture_finished_utc_ns : Int
  analysis_state : PyStr
  recording_object_available : Bool
  manifest_digest : Digest
  sample_dtype : PyStr
  sample_layout : PyStr × PyStr × PyStr
  segments : List SegmentView

/-- `RecordingCaptureDetailViewV0_1.SCHEMA_ID` -/
def View.schema : SchemaRef := ⟨str "org.leo-flow.dashboard.recording-capture-detail", V0_1, by decide⟩

def View.Fields.post_init (v : View.Fields) : Except PyError Unit :=
  checkAll [
    raiseIf (v.schema.schema_id ≠ View.schema.schema_id ∨ v.schema.version ≠ V0_1)
      (.value "unsupported recording capture detail schema"),
    requireToken v.radio_serial IsToken "radio_serial",
    requireToken v.producer IsToken "producer",
    requireToken v.clock_status IsToken "clock_status",
    requireToken v.analysis_state IsToken "analysis_state",
    requireUtcNs v.capture_started_utc_ns "capture_started_utc_ns",
    requireUtcNs v.capture_finished_utc_ns "capture_finished_utc_ns",
    raiseIf (v.capture_finished_utc_ns ≤ v.capture_started_utc_ns) (.value "capture interval must be non-empty"),
    raiseIf (v.sample_dtype ≠ str "<i2" ∨ v.sample_layout ≠ (str "sample", str "receiver", str "component"))
      (.value "recording sample representation is unsupported"),
    raiseIf (v.segments = []) (.value "recording detail requires at least one segment"),
    raiseIf ((v.segments.insertionSort fun a b => a.val.started_utc_ns ≤ b.val.started_utc_ns) ≠ v.segments)
      (.value "segments must use chronological order"),
    raiseIf (¬(v.segments.map fun item => item.val.segment_id).Nodup) (.value "segment IDs must be unique"),
    raiseIf (∃ item ∈ v.segments, item.val.started_utc_ns < v.capture_started_utc_ns ∨
      v.capture_finished_utc_ns < item.val.finished_utc_ns) (.value "segment intervals must be within the capture interval")]

/-- `RecordingCaptureDetailViewV0_1` -/
abbrev View := Checked View.Fields.post_init

/-! ## From the manifest -/

/-- `activity_by_segment[segment_id]`; the last activity that names the segment is kept. -/
def activityOf (manifest : RecordingManifest) (segment_id : SegmentId) : Except PyError (ActivityId × ActivityKind) :=
  let activity_by_segment := manifest.val.activities.flatMap fun activity =>
    activity.val.segment_ids.map fun id => (id, (activity.val.activity_id, activity.val.kind))
  match activity_by_segment.reverse.find? fun x => decide (x.1 = segment_id) with
  | none => .error ⟨.key_error, "segment_id"⟩
  | some x => .ok x.2

/-- `round(segment.sample_count * 1_000_000_000 / segment.actual_sample_rate_hz)` -/
def duration_ns (segment : SegmentManifest) : Except PyError Int := do
  let duration ← Num.div (.int (segment.val.sample_count * 1000000000)) segment.val.actual_sample_rate_hz
  Num.round duration

/-- The arguments of `RecordingSegmentViewV0_1` -/
def segmentFields (segment : SegmentManifest) (activity : ActivityId × ActivityKind) (duration : Int) : SegmentView.Fields where
  segment_id := segment.val.segment_id
  activity_id := activity.1
  activity_kind := activity.2
  receiver_chain_ids := segment.val.requested.val.receiver_chain_ids
  started_utc_ns := segment.val.start_utc_ns
  finished_utc_ns := segment.val.start_utc_ns + duration
  center_frequency_hz := segment.val.actual_center_frequency_hz
  sample_rate_hz := segment.val.actual_sample_rate_hz
  bandwidth_hz := segment.val.actual_bandwidth_hz
  gain_mode := segment.val.actual_gain.val.mode
  gain_db := segment.val.actual_gain.val.gain_db
  sample_count := segment.val.sample_count

/-- The view of one segment. -/
def segmentView (manifest : RecordingManifest) (segment : SegmentManifest) : Except PyError SegmentView := do
  let activity ← activityOf manifest segment.val.segment_id
  let duration ← duration_ns segment
  Checked.make SegmentView.Fields.post_init (segmentFields segment activity duration)

/-- `(int(item.started_utc_ns), str(item.segment_id))` -/
def segmentKey (item : SegmentView) : Int ×ₗ PyStr := toLex (item.val.started_utc_ns, item.val.segment_id.value)

/-- The arguments of `RecordingCaptureDetailViewV0_1` -/
def viewFields (manifest : RecordingManifest) (published : PublishedRecordingRef) (analysis_state : PyStr)
    (recording_object_available : Bool) (segments : List SegmentView) : View.Fields where
  schema := View.schema
  recording_id := manifest.val.recording_id
  plan_id := manifest.val.plan_id
  station_id := manifest.val.station_id
  radio_id := manifest.val.radio_id
  radio_serial := manifest.val.radio_serial
  hardware_snapshot_id := manifest.val.hardware_metadata_snapshot_id
  producer := manifest.val.producer
  clock_status := manifest.val.clock_status
  capture_started_utc_ns := manifest.val.capture_started_utc_ns
  capture_finished_utc_ns := manifest.val.capture_finished_utc_ns
  analysis_state
  recording_object_available
  manifest_digest := published.recording_object.val.manifest_digest
  sample_dtype := manifest.val.sample_dtype
  sample_layout := manifest.val.sample_layout
  segments := segments.insertionSort fun a b => segmentKey a ≤ segmentKey b

/-- `recording_capture_detail_view_v0_1` -/
def recording_capture_detail_view (manifest : RecordingManifest) (published : PublishedRecordingRef) (analysis_state : PyStr)
    (recording_object_available : Bool) : Except PyError View := do
  let recording := published.recording_object
  raiseIf (manifest.val.recording_id ≠ recording.val.recording_id) (.value "manifest and published recording IDs differ")
  let digest ← canonicalDigest (RecordingManifest.toPy manifest)
  raiseIf (recording.val.manifest_digest ≠ digest) (.value "manifest does not match the published digest")
  let segments ← manifest.val.segments.mapM (segmentView manifest)
  Checked.make View.Fields.post_init (viewFields manifest published analysis_state recording_object_available segments)

/-! ## When a segment can be shown -/

/-- The part of a segment that the capture side does not check: its interval is within that of the capture, and its
bandwidth no more than its sample rate. -/
structure SegmentFits (manifest : RecordingManifest) (segment : SegmentManifest) : Prop where
  interval : ∃ duration, duration_ns segment = .ok duration ∧ 0 < duration ∧
    manifest.val.capture_started_utc_ns ≤ segment.val.start_utc_ns ∧
    segment.val.start_utc_ns + duration ≤ manifest.val.capture_finished_utc_ns
  bandwidth : ¬segment.val.actual_sample_rate_hz.Lt segment.val.actual_bandwidth_hz

/-- A value that is positive under one name is under another. -/
theorem requirePositive_field {value : Num} {field field' : String} (h : requirePositive value field = .ok ()) :
    requirePositive value field' = .ok () := by
  cases value with
  | int n =>
    simp only [requirePositive, raiseIf_ok] at h ⊢
    exact h
  | float f =>
    simp only [requirePositive, checkAll_cons, raiseIf_ok] at h ⊢
    exact h

section Segment

variable {manifest : RecordingManifest} {segment : SegmentManifest}

/-- What the contracts of a segment, its request and its gain promise. -/
theorem segment_contract (segment : SegmentManifest) :
    (segment.val.requested.val.receiver_chain_ids ≠ [] ∧ segment.val.requested.val.receiver_chain_ids.Nodup) ∧
      0 ≤ segment.val.start_utc_ns ∧
      requirePositive segment.val.actual_center_frequency_hz "center_frequency_hz" = .ok () ∧
      requirePositive segment.val.actual_sample_rate_hz "sample_rate_hz" = .ok () ∧
      requirePositive segment.val.actual_bandwidth_hz "bandwidth_hz" = .ok () ∧ 0 < segment.val.sample_count ∧
      ¬(segment.val.actual_gain.val.mode = .manual ∧ segment.val.actual_gain.val.gain_db = none) ∧
      ¬(segment.val.actual_gain.val.mode = .agc ∧ segment.val.actual_gain.val.gain_db ≠ none) := by
  have hsegment := segment.ok
  have hrequest := segment.val.requested.ok
  have hgain := segment.val.actual_gain.ok
  simp only [SegmentManifest.Fields.post_init, checkAll_cons, requireUtcNs, raiseIf_ok, not_lt] at hsegment
  simp only [SegmentRequest.Fields.post_init, checkAll_cons, raiseIf_ok, not_or, not_not] at hrequest
  simp only [GainSetting.Fields.post_init, checkAll_cons, raiseIf_ok] at hgain
  obtain ⟨-, hstart, hcenter, hrate, hbandwidth, hcount, -⟩ := hsegment
  obtain ⟨-, -, -, -, -, -, hchains, -⟩ := hrequest
  obtain ⟨hmanual, hagc, -⟩ := hgain
  have hsamples : 0 < segment.val.sample_count := not_le.1 (raiseIf_ok.1 hcount)
  exact ⟨hchains, hstart, requirePositive_field hcenter, requirePositive_field hrate, requirePositive_field hbandwidth,
    hsamples, hmanual, hagc⟩

/-- The activity of a segment is there. -/
theorem exists_activityOf {segment_id : SegmentId} (h : segment_id ∈ manifest.val.activity_segments) :
    ∃ activity, activityOf manifest segment_id = .ok activity := by
  obtain ⟨activity, hactivity, hid⟩ := List.mem_flatMap.1 h
  unfold activityOf
  dsimp only
  split
  · rename_i hnone
    refine absurd (decide_eq_true rfl) (List.find?_eq_none.1 hnone (segment_id, (activity.val.activity_id, activity.val.kind)) ?_)
    exact List.mem_reverse.2 (List.mem_flatMap.2 ⟨activity, hactivity, List.mem_map_of_mem hid⟩)
  · exact ⟨_, rfl⟩

/-- The view of a segment needs a positive duration, and a bandwidth no more than the sample rate. -/
theorem exists_segmentView (h : segment.val.segment_id ∈ manifest.val.activity_segments) {duration : Int}
    (hduration : duration_ns segment = .ok duration) (hpositive : 0 < duration)
    (hbandwidth : ¬segment.val.actual_sample_rate_hz.Lt segment.val.actual_bandwidth_hz) :
    ∃ view, segmentView manifest segment = .ok view := by
  obtain ⟨activity, hactivity⟩ := exists_activityOf h
  obtain ⟨hchains, hstart, hcenter, hrate, hwidth, hcount, hmanual, hagc⟩ := segment_contract segment
  have hok : (segmentFields segment activity duration).post_init = .ok () := by
    simp only [SegmentView.Fields.post_init, checkAll_cons, requireUtcNs, raiseIf_ok]
    simp only [segmentFields, not_lt, not_le, not_or, not_not]
    exact ⟨hchains, hstart, by omega, by omega, hcenter, hrate, hwidth, hbandwidth, hcount, hmanual, hagc, rfl⟩
  exact ⟨_, bind_ok.2 ⟨activity, hactivity, bind_ok.2 ⟨duration, hduration, Checked.make_ok hok⟩⟩⟩

theorem segmentView_ok {view : SegmentView} (h : segmentView manifest segment = .ok view) :
    ∃ activity duration, duration_ns segment = .ok duration ∧ view.val = segmentFields segment activity duration ∧
      0 < duration ∧ ¬segment.val.actual_sample_rate_hz.Lt segment.val.actual_bandwidth_hz := by
  obtain ⟨activity, -, h⟩ := bind_ok.1 h
  obtain ⟨duration, hduration, h⟩ := bind_ok.1 h
  have hval := Checked.val_of_make h
  have hok := view.ok
  rw [hval] at hok
  simp only [SegmentView.Fields.post_init, checkAll_cons, raiseIf_ok] at hok
  simp only [segmentFields, not_le] at hok
  obtain ⟨-, -, -, hnonempty, -, -, -, hbandwidth, -⟩ := hok
  exact ⟨activity, duration, hduration, hval, by omega, hbandwidth⟩

end Segment

/-! ## When a recording can be shown -/

/-- What the view asks of a manifest beyond the contracts of the capture side. -/
structure Showable (manifest : RecordingManifest) : Prop where
  radio_serial : IsToken manifest.val.radio_serial
  producer : IsToken manifest.val.producer
  clock_status : IsToken manifest.val.clock_status
  segments : ∀ segment ∈ manifest.val.segments, SegmentFits manifest segment

/-- The published recording is that of the manifest. -/
structure Publishes (published : PublishedRecordingRef) (manifest : RecordingManifest) : Prop where
  recording_id : published.recording_object.val.recording_id = manifest.val.recording_id
  digest : canonicalDigest (RecordingManifest.toPy manifest) = .ok published.recording_object.val.manifest_digest

section View

variable {manifest : RecordingManifest} {published : PublishedRecordingRef} {analysis_state : PyStr} {available : Bool}

theorem manifest_contract (manifest : RecordingManifest) : 0 ≤ manifest.val.capture_started_utc_ns ∧
    manifest.val.capture_started_utc_ns < manifest.val.capture_finished_utc_ns ∧ manifest.val.sample_dtype = str "<i2" ∧
    manifest.val.sample_layout = (str "sample", str "receiver", str "component") ∧ manifest.val.segment_ids.Nodup ∧
    ∀ s ∈ manifest.val.segment_ids, s ∈ manifest.val.activity_segments := by
  have hok := manifest.ok
  simp only [RecordingManifest.Fields.post_init, checkAll_cons, requireUtcNs, raiseIf_ok, not_or, not_not, not_lt] at hok
  obtain ⟨-, -, hstarted, -, htimes, -, hrepresentation, -, hnodup, hmembers, -⟩ := hok
  exact ⟨hstarted, htimes.2, hrepresentation.1, hrepresentation.2, hnodup, hmembers.1.2⟩

theorem pairwise_sortedSegments (segments : List SegmentView) :
    (segments.insertionSort fun a b => segmentKey a ≤ segmentKey b).Pairwise
      fun a b => a.val.started_utc_ns ≤ b.val.started_utc_ns := by
  refine (pairwise_sorted segmentKey segments).imp fun {a b} hle => ?_
  rcases Prod.Lex.toLex_le_toLex.1 hle with hlt | ⟨heq, -⟩
  · exact hlt.le
  · exact heq.le

/-- The checks of the view, for the views of the segments of a manifest. -/
theorem viewFields_ok_iff {segments : List SegmentView} (hsome : manifest.val.segments ≠ [])
    (hsegments : List.Forall₂ (fun segment view => segmentView manifest segment = .ok view) manifest.val.segments segments) :
    (viewFields manifest published analysis_state available segments).post_init = .ok () ↔
      IsToken manifest.val.radio_serial ∧ IsToken manifest.val.producer ∧ IsToken manifest.val.clock_status ∧
        IsToken analysis_state ∧ ∀ view ∈ segments, manifest.val.capture_started_utc_ns ≤ view.val.started_utc_ns ∧
          view.val.finished_utc_ns ≤ manifest.val.capture_finished_utc_ns := by
  obtain ⟨hstarted, htimes, hdtype, hlayout, hnodup, -⟩ := manifest_contract manifest
  have hperm : (segments.insertionSort fun a b => segmentKey a ≤ segmentKey b).Perm segments := List.perm_insertionSort _ _
  have hchronological := (pairwise_sortedSegments segments).insertionSort_eq
  have hids : segments.map (fun view => view.val.segment_id) = manifest.val.segment_ids :=
    map_of_forall₂ hsegments fun segment view hview => by
      obtain ⟨activity, duration, -, hval, -⟩ := segmentView_ok hview
      rw [hval]
      rfl
  have hunique : ((segments.insertionSort fun a b => segmentKey a ≤ segmentKey b).map fun view => view.val.segment_id).Nodup := by
    rw [(hperm.map _).nodup_iff, hids]
    exact hnodup
  have hnonempty : (segments.insertionSort fun a b => segmentKey a ≤ segmentKey b) ≠ [] := by
    rw [ne_eq, ← List.length_eq_zero_iff, hperm.length_eq, ← hsegments.length_eq, List.length_eq_zero_iff]
    exact hsome
  have hschema : ¬(View.schema.schema_id ≠ View.schema.schema_id ∨ View.schema.version ≠ V0_1) := by decide
  simp only [View.Fields.post_init, checkAll_cons, requireToken, requireUtcNs, raiseIf_ok]
  simp only [viewFields, not_not, hschema, hchronological, hunique, hnonempty, hdtype, hlayout, not_lt, not_le, not_exists,
    not_and, not_or, hperm.mem_iff]
  constructor
  · rintro ⟨-, hserial, hproducer, hclock, hstate, -, -, -, -, -, -, -, hinside, -⟩
    exact ⟨hserial, hproducer, hclock, hstate, hinside⟩
  · rintro ⟨hserial, hproducer, hclock, hstate, hinside⟩
    exact ⟨not_false, hserial, hproducer, hclock, hstate, hstarted, by omega, htimes, ⟨trivial, trivial⟩, not_false, trivial, trivial,
      hinside, rfl⟩

/-- A manifest with segments has a view exactly when it is the published one, the state is a token, and it meets what
the view asks. -/
theorem exists_view_iff (hsome : manifest.val.segments ≠ []) :
    (∃ view, recording_capture_detail_view manifest published analysis_state available = .ok view) ↔
      Publishes published manifest ∧ IsToken analysis_state ∧ Showable manifest := by
  obtain ⟨-, -, -, -, -, hmembers⟩ := manifest_contract manifest
  constructor
  · rintro ⟨view, h⟩
    obtain ⟨_, hid, h⟩ := bind_ok.1 h
    obtain ⟨digest, hdigest, h⟩ := bind_ok.1 h
    obtain ⟨_, hsame, h⟩ := bind_ok.1 h
    obtain ⟨segments, hsegments, h⟩ := bind_ok.1 h
    have hval := Checked.val_of_make h
    have hok := view.ok
    rw [hval, viewFields_ok_iff hsome (mapM_ok.1 hsegments)] at hok
    obtain ⟨hserial, hproducer, hclock, hstate, hinside⟩ := hok
    have hpublished : published.recording_object.val.manifest_digest = digest := not_not.1 (raiseIf_ok.1 hsame)
    refine ⟨⟨(not_not.1 (raiseIf_ok.1 hid)).symm, hpublished ▸ hdigest⟩, hstate, hserial, hproducer, hclock, fun segment hsegment => ?_⟩
    obtain ⟨v, hv, hview⟩ := Json.exists_mem_of_forall₂ (mapM_ok.1 hsegments) hsegment
    obtain ⟨activity, duration, hduration, hfields, hpositive, hbandwidth⟩ := segmentView_ok hview
    have hwithin := hinside v hv
    rw [hfields] at hwithin
    exact ⟨⟨duration, hduration, hpositive, hwithin⟩, hbandwidth⟩
  · rintro ⟨hpublishes, hstate, hshowable⟩
    have hviews : ∃ segments, manifest.val.segments.mapM (segmentView manifest) = .ok segments := by
      refine exists_mapM_ok fun segment hsegment => ?_
      obtain ⟨⟨duration, hduration, hpositive, -⟩, hbandwidth⟩ := hshowable.segments segment hsegment
      exact exists_segmentView (hmembers _ (List.mem_map_of_mem hsegment)) hduration hpositive hbandwidth
    obtain ⟨segments, hsegments⟩ := hviews
    have hok : (viewFields manifest published analysis_state available segments).post_init = .ok () := by
      refine (viewFields_ok_iff hsome (mapM_ok.1 hsegments)).2
        ⟨hshowable.radio_serial, hshowable.producer, hshowable.clock_status, hstate, fun v hv => ?_⟩
      obtain ⟨segment, hsegment, hview⟩ := Json.exists_mem_of_forall₂ (mapM_ok.1 hsegments).flip hv
      obtain ⟨activity, duration, hduration, hfields, -, -⟩ := segmentView_ok hview
      obtain ⟨⟨duration', hduration', -, hfirst, hlast⟩, -⟩ := hshowable.segments segment hsegment
      cases hduration.symm.trans hduration'
      rw [hfields]
      exact ⟨hfirst, hlast⟩
    refine ⟨⟨_, hok⟩, bind_ok.2 ⟨(), raiseIf_ok.2 (not_not.2 hpublishes.recording_id.symm), ?_⟩⟩
    refine bind_ok.2 ⟨_, hpublishes.digest, bind_ok.2 ⟨(), raiseIf_ok.2 (not_not.2 rfl), ?_⟩⟩
    exact bind_ok.2 ⟨segments, hsegments, Checked.make_ok hok⟩

end View

/-! ## Recordings of the capture engine -/

section Engine

open Engine

variable {ω : Type} {env : Environment ω} {w w' : World ω}

/-- An activity adds its segments, of which there is one. -/
theorem segments_runActivity {progress progress' : Progress} {activity : ActivityRequest}
    (h : (runActivity env progress activity).run w = .ok progress' w') : progress'.segments ≠ [] := by
  unfold runActivity at h
  obtain ⟨now, w₁, -, h⟩ := Effect.bind_ok.1 h
  obtain ⟨segments, w₂, hsegments, h⟩ := Effect.bind_ok.1 h
  obtain ⟨now', w₃, -, h⟩ := Effect.bind_ok.1 h
  obtain ⟨manifest, w₄, -, hpure⟩ := Effect.bind_ok.1 h
  cases hpure
  have hrequests := activity.ok
  simp only [ActivityRequest.Fields.post_init, checkAll_cons, raiseIf_ok] at hrequests
  have hlength := length_runSegments hsegments
  rw [List.length_nil, zero_add] at hlength
  have hsome : segments ≠ [] := by
    rw [ne_eq, ← List.length_eq_zero_iff, hlength, List.length_eq_zero_iff]
    exact hrequests.1
  exact List.append_ne_nil_of_right_ne_nil _ hsome

theorem segments_runActivities {progress progress' : Progress} {activities : List ActivityRequest} (hsome : activities ≠ [])
    (h : (activities.foldlM (runActivity env) progress).run w = .ok progress' w') : progress'.segments ≠ [] := by
  induction activities generalizing progress w with
  | nil => exact absurd rfl hsome
  | cons activity activities ih =>
    rw [List.foldlM_cons] at h
    obtain ⟨next, w₁, hactivity, hrest⟩ := Effect.bind_ok.1 h
    by_cases hmore : activities = []
    · subst hmore
      cases hrest
      exact segments_runActivity hactivity
    · exact ih hmore hrest

/-- A finalized recording has a segment. -/
theorem segments_finalized {identity : CaptureIdentity} {root : PyStr} {plan : CapturePlan} {recording_id : RecordingId}
    {manifest : RecordingManifest} {completed : CompletedLocalRecording}
    (h : (finalized env identity root plan).run w = .ok (recording_id, manifest, completed) w') : manifest.val.segments ≠ [] := by
  rw [finalized_eq] at h
  obtain ⟨acquired, w₁, hacquired, h⟩ := Effect.bind_ok.1 h
  obtain ⟨m, w₂, hmanifest, h⟩ := Effect.bind_ok.1 h
  obtain ⟨c, w₃, -, hpure⟩ := Effect.bind_ok.1 h
  cases hpure
  rw [Checked.val_of_make (ofExcept_ok hmanifest)]
  unfold acquirePlan at hacquired
  obtain ⟨⟨created, id⟩, _, -, h₁⟩ := Effect.bind_ok.1 hacquired
  obtain ⟨_, _, -, h₂⟩ := Effect.bind_ok.1 h₁
  obtain ⟨_, _, -, h₃⟩ := Effect.bind_ok.1 h₂
  obtain ⟨_, _, -, h₄⟩ := Effect.bind_ok.1 h₃
  obtain ⟨_, _, -, h₅⟩ := Effect.bind_ok.1 h₄
  obtain ⟨started, _, -, h₆⟩ := Effect.bind_ok.1 h₅
  obtain ⟨progress, _, hprogress, h₇⟩ := Effect.bind_ok.1 h₆
  obtain ⟨now, _, -, hacquired_eq⟩ := Effect.bind_ok.1 h₇
  cases hacquired_eq
  have hplan := plan.ok
  simp only [CapturePlan.Fields.post_init, checkAll_cons, raiseIf_ok] at hplan
  exact segments_runActivities hplan.2.1 hprogress

/-- For every environment (radio, writer and clocks) and plan: a recording whose write session was finalized has a
detail view exactly when the names it was captured under are tokens and every segment fits. -/
theorem detail_view_iff {identity : CaptureIdentity} {root : PyStr} {plan : CapturePlan} {recording_id : RecordingId}
    {manifest : RecordingManifest} {completed : CompletedLocalRecording}
    (h : (finalized env identity root plan).run w = .ok (recording_id, manifest, completed) w')
    (published : PublishedRecordingRef) (analysis_state : PyStr) (available : Bool) :
    (∃ view, recording_capture_detail_view manifest published analysis_state available = .ok view) ↔
      Publishes published manifest ∧ IsToken analysis_state ∧ Showable manifest :=
  exists_view_iff (segments_finalized h)

/-! ## A recording that cannot be shown -/

/-- The clock reads 8 to 12 while four samples are taken from 10 on. -/
theorem finalized_short : ∃ recording_id manifest completed w',
    (finalized readings shortIdentity (str "/spool") shortPlan).run ⟨[8, 9, 10, 11, 12], ∅, false⟩ =
      .ok (recording_id, manifest, completed) w' ∧
    manifest.val.capture_finished_utc_ns = 12 ∧ manifest.val.segments.map (fun s => s.val.start_utc_ns) = [10] ∧
    manifest.val.segments.map duration_ns = [.ok 2000] ∧
    (canonicalDigest (RecordingManifest.toPy manifest)).toOption.isSome = true := by
  have hrun : (match (finalized readings shortIdentity (str "/spool") shortPlan).run ⟨[8, 9, 10, 11, 12], ∅, false⟩ with
      | .ok (_, manifest, _) _ => decide (manifest.val.capture_finished_utc_ns = 12 ∧
          manifest.val.segments.map (fun s => s.val.start_utc_ns) = [10] ∧
          manifest.val.segments.map duration_ns = [.ok 2000] ∧
          (canonicalDigest (RecordingManifest.toPy manifest)).toOption.isSome = true)
      | .error _ _ => false) = true := by
    decide +kernel
  split at hrun
  · rename_i recording_id manifest completed w' h
    exact ⟨recording_id, manifest, completed, w', h, of_decide_eq_true hrun⟩
  · cases hrun

theorem publishedData_ok : ObjectRef.post_init
    ⟨Digest.sha256 (List.replicate 16 0), 16, str "application/octet-stream", str "sigmf-data", str "data"⟩ = .ok () := by
  decide

/-- The reference under which a manifest is published. -/
def publishedAs (manifest : RecordingManifest) (digest : Digest) : PublishedRecordingRef where
  recording_object := {
    val := {
      recording_id := manifest.val.recording_id
      data_object := ⟨⟨Digest.sha256 (List.replicate 16 0), 16, str "application/octet-stream", str "sigmf-data", str "data"⟩,
        publishedData_ok⟩
      metadata_object := ⟨⟨Digest.sha256 [123, 125], 2, str "application/json", str "sigmf-meta", str "meta"⟩, by decide⟩
      manifest_digest := digest }
    ok := by
      simp only [RecordingObjectRef.Fields.post_init, checkAll_cons, raiseIf_ok]
      exact ⟨shortData_ne_shortMetadata, by decide, by decide, rfl⟩ }

/-- The recording is finalized and published; at its sample rate the four samples end after the capture. -/
theorem finalized_not_shown : ∃ recording_id manifest completed w',
    (finalized readings shortIdentity (str "/spool") shortPlan).run ⟨[8, 9, 10, 11, 12], ∅, false⟩ =
      .ok (recording_id, manifest, completed) w' ∧
    ∃ published, Publishes published manifest ∧
      ∀ available view, recording_capture_detail_view manifest published (str "pending") available ≠ .ok view := by
  obtain ⟨recording_id, manifest, completed, w', h, hfinished, hstart, hduration, hdigest⟩ := finalized_short
  obtain ⟨digest, hdigest⟩ := Option.isSome_iff_exists.1 hdigest
  refine ⟨recording_id, manifest, completed, w', h, publishedAs manifest digest, ⟨rfl, mem_toOption.1 hdigest⟩, ?_⟩
  intro available view hview
  obtain ⟨-, -, hshowable⟩ := (exists_view_iff (segments_finalized h)).1 ⟨view, hview⟩
  obtain ⟨segment, hsegment, hfirst⟩ := List.mem_map.1 (hstart ▸ List.mem_singleton_self 10)
  obtain ⟨⟨duration, hok, -, -, hlast⟩, -⟩ := hshowable.segments segment hsegment
  have hlong : duration_ns segment = .ok 2000 := by
    rw [← List.mem_singleton, ← hduration]
    exact List.mem_map_of_mem hsegment
  cases hlong.symm.trans hok
  omega

theorem detail_view_iff_short : ∃ manifest published,
    ((∃ view, recording_capture_detail_view manifest published (str "pending") true = .ok view) ↔
      Publishes published manifest ∧ IsToken (str "pending") ∧ Showable manifest) := by
  obtain ⟨recording_id, manifest, completed, w', h, -, -, -, hdigest⟩ := finalized_short
  obtain ⟨digest, hdigest⟩ := Option.isSome_iff_exists.1 hdigest
  exact ⟨manifest, publishedAs manifest digest, detail_view_iff h (publishedAs manifest digest) (str "pending") true⟩

end Engine

end RecordingDetail

end LeoFlow
