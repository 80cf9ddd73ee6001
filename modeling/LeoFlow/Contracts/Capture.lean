import LeoFlow.Contracts.Core
import LeoFlow.Contracts.Validation
import LeoFlow.Core.Json

/-!
# LeoFlow.Contracts.Capture — plans, manifests and completed recordings

`contracts/capture.py` and the identifiers of `contracts/core.py`. Every class is
its fields under the checks of its `__post_init__`; `toPy` is the instance as
`canonical_json_bytes` and `==` see it. Identifiers and enumeration members are
strings there.
-/

namespace LeoFlow

/-! ## Identifiers -/

inductive IdClass where
  | plan
  | activity
  | segment
  | recording
  | station
  | radio
  | receiver_chain
  | hardware_snapshot
  | capture_batch
  | capture_attempt
  | analysis_run
  | feature_set
  | job
  | receiver_pair
  | feature
  | dataset_snapshot
  | ephemeris_snapshot
  | model_run
  | model_snapshot
  /-- of `contracts/waterfall.py` -/
  | waterfall_product
  | ephemeris_retrieval
deriving DecidableEq

/-- `cls.__name__` -/
def IdClass.name : IdClass → String
  | plan => "PlanId"
  | activity => "ActivityId"
  | segment => "SegmentId"
  | recording => "RecordingId"
  | station => "StationId"
  | radio => "RadioId"
  | receiver_chain => "ReceiverChainId"
  | hardware_snapshot => "HardwareSnapshotId"
  | capture_batch => "CaptureBatchId"
  | capture_attempt => "CaptureAttemptId"
  | analysis_run => "AnalysisRunId"
  | feature_set => "FeatureSetId"
  | job => "JobId"
  | receiver_pair => "ReceiverPairId"
  | feature => "FeatureId"
  | dataset_snapshot => "DatasetSnapshotId"
  | ephemeris_snapshot => "EphemerisSnapshotId"
  | model_run => "ModelRunId"
  | model_snapshot => "ModelSnapshotId"
  | waterfall_product => "WaterfallProductId"
  | ephemeris_retrieval => "EphemerisRetrievalId"

/-- `cls.prefix` -/
def IdClass.stem : IdClass → String
  | plan => "plan"
  | activity => "act"
  | segment => "seg"
  | recording => "rec"
  | station => "station"
  | radio => "radio"
  | receiver_chain => "rx"
  | hardware_snapshot => "hw"
  | capture_batch => "cbatch"
  | capture_attempt => "cattempt"
  | analysis_run => "arun"
  | feature_set => "fset"
  | job => "job"
  | receiver_pair => "rxpair"
  | feature => "feature"
  | dataset_snapshot => "dataset"
  | ephemeris_snapshot => "eph"
  | model_run => "mrun"
  | model_snapshot => "model"
  | waterfall_product => "waterfall"
  | ephemeris_retrieval => "ephret"

/-- `value.startswith(f"{cls.prefix}_")` -/
@[reducible] def IdClass.Starts (c : IdClass) (value : PyStr) : Prop :=
  value.take (c.stem.length + 1) = str c.stem ++ str "_"

/-- `ContractId` -/
structure ContractId (c : IdClass) where
  value : PyStr
  isToken : IsToken value
  starts : c.Starts value

theorem ContractId.value_inj {c : IdClass} {a b : ContractId c} : a.value = b.value ↔ a = b := by
  rw [ContractId.mk.injEq]

instance {c : IdClass} : DecidableEq (ContractId c) := fun _ _ => decidable_of_iff _ ContractId.value_inj

instance {c : IdClass} : LawfulBEq (ContractId c) := inferInstance

/-- `cls(value)` -/
def ContractId.parse (c : IdClass) (value : PyStr) : Except PyError (ContractId c) :=
  if isToken : IsToken value then
    if starts : c.Starts value then .ok ⟨value, isToken, starts⟩
    else .error (.value (c.name ++ " must start with '" ++ c.stem ++ "_'"))
  else .error (.value (c.name ++ " must be a non-empty portable token"))

theorem ContractId.parse_value {c : IdClass} (id : ContractId c) : parse c id.value = .ok id := by
  unfold parse
  rw [dif_pos id.isToken, dif_pos id.starts]

theorem ContractId.value_of_parse {c : IdClass} {value : PyStr} {id : ContractId c}
    (h : parse c value = .ok id) : id.value = value := by
  unfold parse at h
  split at h
  · split at h
    · cases h
      rfl
    · cases h
  · cases h

def ContractId.toPy {c : IdClass} (id : ContractId c) : PyValue := .str id.value

abbrev PlanId := ContractId .plan
abbrev ActivityId := ContractId .activity
abbrev SegmentId := ContractId .segment
abbrev RecordingId := ContractId .recording
abbrev StationId := ContractId .station
abbrev RadioId := ContractId .radio
abbrev ReceiverChainId := ContractId .receiver_chain
abbrev HardwareSnapshotId := ContractId .hardware_snapshot
abbrev CaptureBatchId := ContractId .capture_batch
abbrev CaptureAttemptId := ContractId .capture_attempt
abbrev AnalysisRunId := ContractId .analysis_run
abbrev FeatureSetId := ContractId .feature_set
abbrev ReceiverPairId := ContractId .receiver_pair
abbrev FeatureId := ContractId .feature
abbrev DatasetSnapshotId := ContractId .dataset_snapshot
abbrev EphemerisSnapshotId := ContractId .ephemeris_snapshot
abbrev WaterfallProductId := ContractId .waterfall_product

/-- A tuple of identifiers. -/
def idsToPy {c : IdClass} (ids : List (ContractId c)) : PyValue := .tuple (ids.map ContractId.toPy)

/-! ## Shared values -/

def Digest.toPy (d : Digest) : PyValue :=
  .dataclass "Digest" [("algorithm", .str (str "sha256")), ("value", .str d.value)]

/-- `Digest(DigestAlgorithm(algorithm), value)` -/
def Digest.parse (algorithm value : PyStr) : Except PyError Digest :=
  if algorithm ≠ str "sha256" then .error (.value "not a valid DigestAlgorithm")
  else if h : value.length = 64 ∧ ∀ c ∈ value, IsLowerHex c then .ok ⟨value, h.1, h.2⟩
  else .error (.value "invalid sha256 digest")

def SchemaVersion.toPy (v : SchemaVersion) : PyValue :=
  .dataclass "SchemaVersion" [("major", .int v.major), ("minor", .int v.minor)]

/-- `V0_1` -/
def V0_1 : SchemaVersion := ⟨0, 1⟩

def SchemaRef.toPy (s : SchemaRef) : PyValue :=
  .dataclass "SchemaRef" [("schema_id", .str s.schema_id), ("version", s.version.toPy)]

/-- `canonical_digest` -/
def canonicalDigest (v : PyValue) : Except PyError Digest := (Json.canonicalJsonBytes v).map Digest.sha256

/-- `ActivityKind` -/
inductive ActivityKind where
  | scan
  | dwell
  | calibration
  | test
deriving DecidableEq

/-- `kind.value` -/
def ActivityKind.value : ActivityKind → PyStr
  | scan => str "scan"
  | dwell => str "dwell"
  | calibration => str "calibration"
  | test => str "test"

/-- `GainMode` -/
inductive GainMode where
  | manual
  | agc
deriving DecidableEq

/-- `mode.value` -/
def GainMode.value : GainMode → PyStr
  | manual => str "manual"
  | agc => str "agc"

/-- An optional value; `None` when absent. -/
def optionToPy {α : Type} (f : α → PyValue) : Option α → PyValue
  | none => .none
  | some a => f a

def ArtifactRef.toPy (a : ArtifactRef) : PyValue :=
  .dataclass "ArtifactRef" [("artifact_id", .str a.artifact_id), ("digest", a.digest.toPy),
    ("schema", optionToPy SchemaRef.toPy a.schema)]

/-! ## Plans -/

theorem isToken_capture_plan : IsToken (str "org.leo-flow.capture-plan") := by decide
theorem isToken_recording_manifest : IsToken (str "org.leo-flow.recording-manifest") := by decide

structure GainSetting.Fields where
  mode : GainMode
  gain_db : Option Num := none
deriving DecidableEq

def GainSetting.Fields.post_init (g : GainSetting.Fields) : Except PyError Unit :=
  checkAll [
    raiseIf (g.mode = .manual ∧ g.gain_db = none) (.value "manual gain requires gain_db"),
    raiseIf (g.mode = .agc ∧ g.gain_db ≠ none) (.value "AGC gain cannot declare gain_db")]

theorem GainSetting.Fields.agc_ok : GainSetting.Fields.post_init { mode := .agc } = .ok () := rfl

/-- `GainSetting` -/
abbrev GainSetting := Checked GainSetting.Fields.post_init

def GainSetting.toPy (g : GainSetting) : PyValue :=
  .dataclass "GainSetting" [("mode", .str g.val.mode.value),
    ("gain_db", optionToPy Num.toValue g.val.gain_db)]

structure SegmentRequest.Fields where
  segment_id : SegmentId
  center_frequency_hz : Num
  sample_rate_hz : Num
  bandwidth_hz : Num
  receiver_chain_ids : List ReceiverChainId
  gain : GainSetting
  duration_s : Option Num := none
  sample_count : Option Int := none
  scheduled_utc_ns : Option Int := none
  hardware_controls : PyValue.Pairs := []
  tags : PyValue.Pairs := []

def SegmentRequest.Fields.post_init (r : SegmentRequest.Fields) : Except PyError Unit :=
  checkAll [
    requirePositive r.center_frequency_hz "center_frequency_hz",
    requirePositive r.sample_rate_hz "sample_rate_hz",
    requirePositive r.bandwidth_hz "bandwidth_hz",
    raiseIf (r.duration_s.isNone = r.sample_count.isNone)
      (.value "exactly one of duration_s and sample_count is required"),
    (match r.duration_s with
      | none => .ok ()
      | some d => requirePositive d "duration_s"),
    (match r.sample_count with
      | none => .ok ()
      | some n => requirePositive (.int n) "sample_count"),
    raiseIf (r.receiver_chain_ids = [] ∨ ¬r.receiver_chain_ids.Nodup)
      (.value "receiver_chain_ids must be non-empty and unique"),
    (match r.scheduled_utc_ns with
      | none => .ok ()
      | some t => requireUtcNs t "scheduled_utc_ns")]

/-- `SegmentRequest` -/
abbrev SegmentRequest := Checked SegmentRequest.Fields.post_init

def SegmentRequest.toPy (r : SegmentRequest) : PyValue :=
  .dataclass "SegmentRequest" [
    ("segment_id", r.val.segment_id.toPy),
    ("center_frequency_hz", r.val.center_frequency_hz.toValue),
    ("sample_rate_hz", r.val.sample_rate_hz.toValue),
    ("bandwidth_hz", r.val.bandwidth_hz.toValue),
    ("receiver_chain_ids", idsToPy r.val.receiver_chain_ids),
    ("gain", GainSetting.toPy r.val.gain),
    ("duration_s", optionToPy Num.toValue r.val.duration_s),
    ("sample_count", optionToPy .int r.val.sample_count),
    ("scheduled_utc_ns", optionToPy .int r.val.scheduled_utc_ns),
    ("hardware_controls", .ofPairs r.val.hardware_controls),
    ("tags", .ofPairs r.val.tags)]

structure ActivityRequest.Fields where
  activity_id : ActivityId
  kind : ActivityKind
  segments : List SegmentRequest

def ActivityRequest.Fields.post_init (a : ActivityRequest.Fields) : Except PyError Unit :=
  checkAll [
    raiseIf (a.segments = []) (.value "activity requires at least one segment"),
    raiseIf (¬(a.segments.map fun s => s.val.segment_id).Nodup)
      (.value "segment IDs must be unique within an activity")]

/-- `ActivityRequest` -/
abbrev ActivityRequest := Checked ActivityRequest.Fields.post_init

structure CapturePlan.Fields where
  schema : SchemaRef
  plan_id : PlanId
  radio_id : RadioId
  receiver_chain_ids : List ReceiverChainId
  activities : List ActivityRequest
  experiment_tags : PyValue.Pairs := []

def CapturePlan.Fields.post_init (p : CapturePlan.Fields) : Except PyError Unit :=
  checkAll [
    raiseIf (p.schema.schema_id ≠ str "org.leo-flow.capture-plan" ∨ p.schema.version ≠ V0_1)
      (.value "unsupported capture plan schema"),
    raiseIf (p.activities = []) (.value "capture plan requires an activity"),
    raiseIf (¬(p.activities.map fun a => a.val.activity_id).Nodup)
      (.value "activity IDs must be unique"),
    raiseIf (p.receiver_chain_ids = [] ∨ ∃ a ∈ p.activities, ∃ s ∈ a.val.segments,
        ∃ rx ∈ s.val.receiver_chain_ids, rx ∉ p.receiver_chain_ids)
      (.value "segments may only use plan receiver chains")]

/-- `CapturePlan` -/
abbrev CapturePlan := Checked CapturePlan.Fields.post_init

/-! ## Manifests -/

structure ActivityManifest.Fields where
  activity_id : ActivityId
  kind : ActivityKind
  started_utc_ns : Int
  finished_utc_ns : Int
  segment_ids : List SegmentId
deriving DecidableEq

def ActivityManifest.Fields.post_init (a : ActivityManifest.Fields) : Except PyError Unit :=
  checkAll [
    requireUtcNs a.started_utc_ns "started_utc_ns",
    requireUtcNs a.finished_utc_ns "finished_utc_ns",
    raiseIf (a.finished_utc_ns ≤ a.started_utc_ns ∨ a.segment_ids = [])
      (.value "activity interval and segments must be non-empty")]

/-- `ActivityManifest` -/
abbrev ActivityManifest := Checked ActivityManifest.Fields.post_init

def ActivityManifest.toPy (a : ActivityManifest) : PyValue :=
  .dataclass "ActivityManifest" [
    ("activity_id", a.val.activity_id.toPy),
    ("kind", .str a.val.kind.value),
    ("started_utc_ns", .int a.val.started_utc_ns),
    ("finished_utc_ns", .int a.val.finished_utc_ns),
    ("segment_ids", idsToPy a.val.segment_ids)]

structure SegmentManifest.Fields where
  segment_id : SegmentId
  requested : SegmentRequest
  actual_center_frequency_hz : Num
  actual_sample_rate_hz : Num
  actual_bandwidth_hz : Num
  actual_gain : GainSetting
  start_utc_ns : Int
  monotonic_start_ns : Int
  sample_count : Int
  shape : Int × Int × Int
  diagnostics : PyValue.Pairs := []

def SegmentManifest.Fields.post_init (s : SegmentManifest.Fields) : Except PyError Unit :=
  checkAll [
    raiseIf (s.segment_id ≠ s.requested.val.segment_id) (.value "requested and actual segment IDs differ"),
    requireUtcNs s.start_utc_ns "start_utc_ns",
    requirePositive s.actual_center_frequency_hz "actual_center_frequency_hz",
    requirePositive s.actual_sample_rate_hz "actual_sample_rate_hz",
    requirePositive s.actual_bandwidth_hz "actual_bandwidth_hz",
    requirePositive (.int s.sample_count) "sample_count",
    raiseIf (s.monotonic_start_ns < 0) (.value "monotonic_start_ns must be non-negative"),
    raiseIf (s.shape ≠ (s.sample_count, (s.requested.val.receiver_chain_ids.length : Int), 2))
      (.value ("shape must be (" ++ toString s.sample_count ++ ", " ++
        toString s.requested.val.receiver_chain_ids.length ++ ", 2)"))]

/-- `SegmentManifest` -/
abbrev SegmentManifest := Checked SegmentManifest.Fields.post_init

def SegmentManifest.toPy (s : SegmentManifest) : PyValue :=
  .dataclass "SegmentManifest" [
    ("segment_id", s.val.segment_id.toPy),
    ("requested", SegmentRequest.toPy s.val.requested),
    ("actual_center_frequency_hz", s.val.actual_center_frequency_hz.toValue),
    ("actual_sample_rate_hz", s.val.actual_sample_rate_hz.toValue),
    ("actual_bandwidth_hz", s.val.actual_bandwidth_hz.toValue),
    ("actual_gain", GainSetting.toPy s.val.actual_gain),
    ("start_utc_ns", .int s.val.start_utc_ns),
    ("monotonic_start_ns", .int s.val.monotonic_start_ns),
    ("sample_count", .int s.val.sample_count),
    ("shape", .tuple [.int s.val.shape.1, .int s.val.shape.2.1, .int s.val.shape.2.2]),
    ("diagnostics", .ofPairs s.val.diagnostics)]

structure RecordingManifest.Fields where
  schema : SchemaRef
  recording_id : RecordingId
  created_utc_ns : Int
  capture_started_utc_ns : Int
  capture_finished_utc_ns : Int
  station_id : StationId
  radio_id : RadioId
  radio_serial : PyStr
  receiver_chain_ids : List ReceiverChainId
  clock_status : PyStr
  hardware_metadata_snapshot_id : HardwareSnapshotId
  activities : List ActivityManifest
  segments : List SegmentManifest
  plan_id : PlanId
  producer : PyStr
  experiment_tags : PyValue.Pairs := []
  sample_dtype : PyStr := str "<i2"
  sample_layout : PyStr × PyStr × PyStr := (str "sample", str "receiver", str "component")
  state : PyStr := str "complete"

/-- `[sid for activity in self.activities for sid in activity.segment_ids]` -/
def RecordingManifest.Fields.activity_segments (m : RecordingManifest.Fields) : List SegmentId :=
  m.activities.flatMap fun a => a.val.segment_ids

def RecordingManifest.Fields.segment_ids (m : RecordingManifest.Fields) : List SegmentId :=
  m.segments.map fun s => s.val.segment_id

def RecordingManifest.Fields.post_init (m : RecordingManifest.Fields) : Except PyError Unit :=
  checkAll [
    raiseIf (m.schema.schema_id ≠ str "org.leo-flow.recording-manifest" ∨ m.schema.version ≠ V0_1)
      (.value "unsupported recording manifest schema"),
    requireUtcNs m.created_utc_ns "created_utc_ns",
    requireUtcNs m.capture_started_utc_ns "capture_started_utc_ns",
    requireUtcNs m.capture_finished_utc_ns "capture_finished_utc_ns",
    raiseIf (¬(m.created_utc_ns ≤ m.capture_started_utc_ns ∧
        m.capture_started_utc_ns < m.capture_finished_utc_ns))
      (.value "recording timestamps are inconsistent"),
    raiseIf (m.state ≠ str "complete") (.value "published recording manifests must be complete"),
    raiseIf (m.sample_dtype ≠ str "<i2" ∨
        m.sample_layout ≠ (str "sample", str "receiver", str "component"))
      (.value "v0.1 recording sample representation is fixed"),
    raiseIf (¬m.receiver_chain_ids.Nodup) (.value "receiver chains must be unique"),
    raiseIf (¬m.segment_ids.Nodup) (.value "segment IDs must be unique"),
    raiseIf (¬((∀ s ∈ m.activity_segments, s ∈ m.segment_ids) ∧
        ∀ s ∈ m.segment_ids, s ∈ m.activity_segments) ∨
        m.activity_segments.length ≠ m.segment_ids.length)
      (.value "each segment must belong to exactly one activity")]

/-- `RecordingManifest` -/
abbrev RecordingManifest := Checked RecordingManifest.Fields.post_init

def RecordingManifest.toPy (m : RecordingManifest) : PyValue :=
  .dataclass "RecordingManifest" [
    ("schema", m.val.schema.toPy),
    ("recording_id", m.val.recording_id.toPy),
    ("created_utc_ns", .int m.val.created_utc_ns),
    ("capture_started_utc_ns", .int m.val.capture_started_utc_ns),
    ("capture_finished_utc_ns", .int m.val.capture_finished_utc_ns),
    ("station_id", m.val.station_id.toPy),
    ("radio_id", m.val.radio_id.toPy),
    ("radio_serial", .str m.val.radio_serial),
    ("receiver_chain_ids", idsToPy m.val.receiver_chain_ids),
    ("clock_status", .str m.val.clock_status),
    ("hardware_metadata_snapshot_id", m.val.hardware_metadata_snapshot_id.toPy),
    ("activities", .tuple (m.val.activities.map ActivityManifest.toPy)),
    ("segments", .tuple (m.val.segments.map SegmentManifest.toPy)),
    ("plan_id", m.val.plan_id.toPy),
    ("producer", .str m.val.producer),
    ("experiment_tags", .ofPairs m.val.experiment_tags),
    ("sample_dtype", .str m.val.sample_dtype),
    ("sample_layout", .tuple [.str m.val.sample_layout.1, .str m.val.sample_layout.2.1,
      .str m.val.sample_layout.2.2]),
    ("state", .str m.val.state)]

/-! ## Completed recordings -/

structure LocalObjectRef.Fields where
  locator : PyStr
  digest : Digest
  byte_count : Int
deriving DecidableEq

def LocalObjectRef.Fields.post_init (o : LocalObjectRef.Fields) : Except PyError Unit :=
  checkAll [
    requirePositive (.int o.byte_count) "byte_count",
    raiseIf (o.locator = []) (.value "local object locator cannot be empty")]

/-- `LocalObjectRef` -/
abbrev LocalObjectRef := Checked LocalObjectRef.Fields.post_init

def LocalObjectRef.toPy (o : LocalObjectRef) : PyValue :=
  .dataclass "LocalObjectRef" [("locator", .str o.val.locator), ("digest", o.val.digest.toPy),
    ("byte_count", .int o.val.byte_count)]

structure CompletedLocalRecording.Fields where
  recording_id : RecordingId
  data_object : LocalObjectRef
  metadata_object : LocalObjectRef
  manifest : RecordingManifest
  manifest_digest : Digest

def CompletedLocalRecording.Fields.post_init (r : CompletedLocalRecording.Fields) : Except PyError Unit :=
  checkAll [
    raiseIf (r.recording_id ≠ r.manifest.val.recording_id) (.value "recording IDs differ"),
    raiseIf (r.data_object.val.digest = r.metadata_object.val.digest)
      (.value "recording data and metadata must be distinct objects"),
    (match canonicalDigest (RecordingManifest.toPy r.manifest) with
      | .error e => .error e
      | .ok d => raiseIf (r.manifest_digest ≠ d) (.value "manifest digest does not identify the manifest"))]

/-- `CompletedLocalRecording` -/
abbrev CompletedLocalRecording := Checked CompletedLocalRecording.Fields.post_init

def CompletedLocalRecording.toPy (r : CompletedLocalRecording) : PyValue :=
  .dataclass "CompletedLocalRecording" [
    ("recording_id", r.val.recording_id.toPy),
    ("data_object", LocalObjectRef.toPy r.val.data_object),
    ("metadata_object", LocalObjectRef.toPy r.val.metadata_object),
    ("manifest", RecordingManifest.toPy r.val.manifest),
    ("manifest_digest", r.val.manifest_digest.toPy)]

/-! ## Instances are valid values -/

theorem PyValue.valid_dataclass {cls : String} {fields : List (String × PyValue)}
    (h : ∀ x ∈ fields, x.2.Valid) (hnames : (fields.map Prod.fst).Nodup := by simp) :
    (PyValue.dataclass cls fields).Valid := by
  constructor
  · have hmap := hnames.map fun _ _ h => str_injective h
    rw [List.map_map] at hmap ⊢
    exact hmap
  · refine (PyValue.validEntries_iff _).2 fun x hx => ?_
    rcases List.mem_map.1 hx with ⟨y, hy, rfl⟩
    exact h y hy

theorem PyValue.valid_object {fields : List (String × PyValue)} (h : ∀ x ∈ fields, x.2.Valid)
    (hnames : (fields.map Prod.fst).Nodup := by simp) : (PyValue.object fields).Valid := by
  have hrecord : (PyValue.dataclass "" fields).Valid := PyValue.valid_dataclass h hnames
  exact hrecord

theorem PyValue.valid_tuple {items : List PyValue} (h : ∀ v ∈ items, v.Valid) :
    (PyValue.tuple items).Valid :=
  (PyValue.validItems_iff items).2 h

theorem PyValue.valid_toValue (n : Num) : n.toValue.Valid := by
  cases n <;> trivial

theorem PyValue.valid_option {α : Type} {f : α → PyValue} (h : ∀ a, (f a).Valid) (o : Option α) :
    (optionToPy f o).Valid := by
  cases o with
  | none => trivial
  | some a => exact h a

theorem PyValue.valid_ofPairs (pairs : PyValue.Pairs) : (PyValue.ofPairs pairs).Valid := by
  refine PyValue.valid_tuple fun v hv => ?_
  rcases List.mem_map.1 hv with ⟨x, _, rfl⟩
  refine PyValue.valid_tuple fun w hw => ?_
  rcases List.mem_cons.1 hw with rfl | hw
  · trivial
  · rw [List.mem_singleton.1 hw]
    exact x.2.2

theorem valid_idsToPy {c : IdClass} (ids : List (ContractId c)) : (idsToPy ids).Valid := by
  refine PyValue.valid_tuple fun v hv => ?_
  rcases List.mem_map.1 hv with ⟨id, _, rfl⟩
  trivial

theorem Digest.valid_toPy (d : Digest) : d.toPy.Valid :=
  PyValue.valid_dataclass (by simp [PyValue.Valid])

theorem SchemaRef.valid_toPy (s : SchemaRef) : s.toPy.Valid := by
  have hversion : s.version.toPy.Valid := PyValue.valid_dataclass (by simp [PyValue.Valid])
  exact PyValue.valid_dataclass (by simp [PyValue.Valid, hversion])

theorem GainSetting.valid_toPy (g : GainSetting) : (GainSetting.toPy g).Valid := by
  have hgain := PyValue.valid_option PyValue.valid_toValue g.val.gain_db
  exact PyValue.valid_dataclass (by simp [PyValue.Valid, hgain])

theorem SegmentRequest.valid_toPy (r : SegmentRequest) : (SegmentRequest.toPy r).Valid := by
  have hnum := PyValue.valid_toValue
  have hoption := @PyValue.valid_option Num _ PyValue.valid_toValue
  have hint := @PyValue.valid_option Int .int fun _ => trivial
  exact PyValue.valid_dataclass (by
    simp [PyValue.Valid, ContractId.toPy, hnum, hoption, hint, valid_idsToPy, GainSetting.valid_toPy,
      PyValue.valid_ofPairs])

theorem ActivityManifest.valid_toPy (a : ActivityManifest) : (ActivityManifest.toPy a).Valid :=
  PyValue.valid_dataclass (by simp [PyValue.Valid, ContractId.toPy, valid_idsToPy])

theorem SegmentManifest.valid_toPy (s : SegmentManifest) : (SegmentManifest.toPy s).Valid := by
  have hnum := PyValue.valid_toValue
  have hshape : (PyValue.tuple [.int s.val.shape.1, .int s.val.shape.2.1, .int s.val.shape.2.2]).Valid :=
    PyValue.valid_tuple (by simp [PyValue.Valid])
  exact PyValue.valid_dataclass (by
    simp [PyValue.Valid, ContractId.toPy, hnum, SegmentRequest.valid_toPy, GainSetting.valid_toPy,
      PyValue.valid_ofPairs, PyValue.ValidItems])

theorem RecordingManifest.valid_toPy (m : RecordingManifest) : (RecordingManifest.toPy m).Valid := by
  have hactivities : (PyValue.tuple (m.val.activities.map ActivityManifest.toPy)).Valid :=
    PyValue.valid_tuple (by simp [ActivityManifest.valid_toPy])
  have hsegments : (PyValue.tuple (m.val.segments.map SegmentManifest.toPy)).Valid :=
    PyValue.valid_tuple (by simp [SegmentManifest.valid_toPy])
  refine PyValue.valid_dataclass fun x hx => ?_
  simp only [List.mem_cons, List.not_mem_nil, or_false] at hx
  rcases hx with rfl | rfl | rfl | rfl | rfl | rfl | rfl | rfl | rfl | rfl | rfl | rfl | rfl | rfl |
    rfl | rfl | rfl | rfl | rfl
  all_goals first
    | exact SchemaRef.valid_toPy _
    | exact valid_idsToPy _
    | exact PyValue.valid_ofPairs _
    | assumption
    | simp [PyValue.Valid, PyValue.ValidItems, ContractId.toPy]

end LeoFlow
