import LeoFlow.Capture.Serialization
import LeoFlow.Contracts.Continuity
import LeoFlow.Contracts.Interpreter
import LeoFlow.Contracts.Storage

/-!
# LeoFlow.Storage.RecordingCodec — reading the metadata of a recording

`_parse_metadata` of `storage/recording_codec.py`, with the helpers it reads the
document through, and `SigMFRecordingObjectReader.open`.
-/

namespace LeoFlow

namespace RecordingCodec

/-! ## Conversion of errors -/

/-- `except caught as error: raise MalformedRecordingError(message) from error` -/
def convert {α : Type} (caught : ErrorKind → Prop) [DecidablePred caught] (message : String)
    (x : Except PyError α) : Except PyError α :=
  match x with
  | .ok a => .ok a
  | .error e => .error (if caught e.kind then .malformed message else e)

/-- `(UnicodeDecodeError, json.JSONDecodeError)` -/
@[reducible] def IsJsonError (k : ErrorKind) : Prop := k = .unicode_decode_error ∨ k = .json_decode_error

/-! ## Fields -/

abbrev Entries := List (PyStr × PyValue)

/-- `set(value) == expected` -/
@[reducible] def HasFields (value : Entries) (expected : List String) : Prop :=
  (∀ x ∈ value, x.1 ∈ expected.map str) ∧ ∀ key ∈ expected, str key ∈ value.map Prod.fst

/-- `value[key]` -/
def item (value : Entries) (key : String) : Except PyError PyValue :=
  match value.lookup (str key) with
  | some v => .ok v
  | none => .error ⟨.key_error, key⟩

/-- `_mapping`; the keys of a document are strings. -/
def mapping (value : PyValue) (field : String) : Except PyError Entries :=
  match value with
  | .dict items => .ok items
  | _ => .error (.type (field ++ " must be an object"))

/-- `_exact_fields` -/
def exact_fields (value : Entries) (expected : List String) (field : String) : Except PyError Unit :=
  raiseIf (¬HasFields value expected) (.value (field ++ " fields differ from schema"))

/-- `_list` -/
def list (value : PyValue) (field : String) : Except PyError (List PyValue) :=
  match value with
  | .list items => .ok items
  | _ => .error (.type (field ++ " must be an array"))

/-- `_string` -/
def string (value : PyValue) (field : String) : Except PyError PyStr :=
  match value with
  | .str s => .ok s
  | _ => .error (.type (field ++ " must be a string"))

/-- `_number` -/
def number (value : PyValue) (field : String) : Except PyError Num :=
  match value with
  | .int n =>
    match PyFloat.ofInt n with
    | some f => .ok (.float f)
    | none => .error ⟨.overflow_error, "int too large to convert to float"⟩
  | .float f => .ok (.float f)
  | _ => .error (.type (field ++ " must be numeric"))

/-- `_number_tuple` -/
def number_tuple (value : PyValue) (field : String) : Except PyError (List Num) := do
  (← list value field).mapM fun v => number v field

/-- `_INT64_MAX` -/
def INT64_MAX : Int := 2 ^ 63 - 1

/-- `_nonnegative_int` -/
def nonnegative_int (value : PyValue) (field : String) : Except PyError Int :=
  match value with
  | .int n =>
    if n < 0 ∨ INT64_MAX < n then .error (.value (field ++ " must be a bounded non-negative integer"))
    else .ok n
  | _ => .error (.value (field ++ " must be a bounded non-negative integer"))

/-- `_positive_int` -/
def positive_int (value : PyValue) (field : String) : Except PyError Int := do
  let result ← nonnegative_int value field
  if result = 0 then .error (.value (field ++ " must be positive")) else .ok result

/-- `None`, or what `f` reads. -/
def optional {α : Type} (f : PyValue → String → Except PyError α) (value : PyValue) (field : String) :
    Except PyError (Option α) :=
  match value with
  | .none => .ok none
  | v => (f v field).map some

/-- `_optional_int` -/
def optional_int : PyValue → String → Except PyError (Option Int) := optional positive_int

/-- `_optional_number` -/
def optional_number : PyValue → String → Except PyError (Option Num) := optional number

/-- `_int_list` -/
def int_list (value : PyValue) (field : String) (length : Nat) : Except PyError (List Int) := do
  let result ← (← list value field).mapM fun v => nonnegative_int v field
  if result.length ≠ length then
    .error (.value (field ++ " must contain " ++ toString length ++ " integers"))
  else .ok result

/-- `_string_list` -/
def string_list (value : PyValue) (field : String) : Except PyError (List PyStr) := do
  (← list value field).mapM fun v => string v field

/-- `_three_ints` -/
def three_ints (value : PyValue) (field : String) : Except PyError (Int × Int × Int) := do
  match ← int_list value field 3 with
  | [a, b, c] => .ok (a, b, c)
  | _ => .error (.value (field ++ " must contain 3 integers"))

/-- `_three_strings` -/
def three_strings (value : PyValue) (field : String) : Except PyError (PyStr × PyStr × PyStr) := do
  match ← string_list value field with
  | [a, b, c] => .ok (a, b, c)
  | _ => .error (.value (field ++ " must contain three strings"))

/-- One pair of `_frozen_mapping`. A document repeats no key, so the value is always valid. -/
def frozen_pair (pair : PyValue) (field : String) : Except PyError (PyStr × PyValue.Any) :=
  match pair with
  | .list [.str key, v] =>
    if h : (Serialization.immutableJson v).Valid then .ok (key, ⟨Serialization.immutableJson v, h⟩)
    else .error (.type "repeated key")
  | _ => .error (.type (field ++ " must contain [key, value] pairs"))

/-- `_frozen_mapping`: pairs in the order of their keys, which are distinct. -/
def frozen_mapping (value : PyValue) (field : String) : Except PyError PyValue.Pairs := do
  let result ← (← list value field).mapM fun pair => frozen_pair pair field
  if ¬(result.map Prod.fst).Pairwise (· < ·) then
    .error (.value (field ++ " keys must be unique and canonical"))
  else .ok result

/-- `Id(_string(value[key], key))` -/
def idOf (c : IdClass) (value : PyValue) (field : String) : Except PyError (ContractId c) := do
  ContractId.parse c (← string value field)

/-- `SegmentId(_string(item["segment_id"], "segment_id"))` -/
def segmentIdOf (fields : Entries) : Except PyError SegmentId := do
  idOf .segment (← item fields "segment_id") "segment_id"

/-- `tuple(Id(item) for item in _string_list(value[key], key))` -/
def idsOf (c : IdClass) (value : PyValue) (field : String) : Except PyError (List (ContractId c)) := do
  (← string_list value field).mapM (ContractId.parse c)

/-! ## The manifest -/

/-- `_schema` -/
def schema (value : PyValue) : Except PyError SchemaRef := do
  let fields ← mapping value "schema"
  exact_fields fields ["schema_id", "version"] "schema"
  let version ← mapping (← item fields "version") "schema version"
  exact_fields version ["major", "minor"] "schema version"
  let schema_id ← string (← item fields "schema_id") "schema_id"
  let major ← nonnegative_int (← item version "major") "major"
  let minor ← nonnegative_int (← item version "minor") "minor"
  if h : IsToken schema_id then .ok ⟨schema_id, ⟨major.toNat, minor.toNat⟩, h⟩
  else .error (.value "schema_id must be a non-empty portable token")

/-- `_gain` -/
def gain (value : PyValue) : Except PyError GainSetting := do
  let fields ← mapping value "gain"
  exact_fields fields ["mode", "gain_db"] "gain"
  let gain ← item fields "gain_db"
  let mode ← Serialization.gainMode (← string (← item fields "mode") "gain mode")
  let gain_db ← optional number gain "gain_db"
  Checked.make GainSetting.Fields.post_init { mode, gain_db }

/-- `UtcNs(value) if value is not None else None`; `require_utc_ns` refuses other types. -/
def scheduledUtcNs (value : PyValue) : Except PyError (Option Int) :=
  match value with
  | .none => .ok none
  | .int n => .ok (some n)
  | _ => .error (.value "scheduled_utc_ns must be a non-negative UTC nanosecond integer")

/-- `_segment_request` -/
def segment_request (value : PyValue) : Except PyError SegmentRequest := do
  let fields ← mapping value "segment request"
  exact_fields fields ["segment_id", "center_frequency_hz", "sample_rate_hz", "bandwidth_hz",
    "receiver_chain_ids", "gain", "duration_s", "sample_count", "scheduled_utc_ns",
    "hardware_controls", "tags"] "segment request"
  let segment_id ← idOf .segment (← item fields "segment_id") "segment_id"
  let center_frequency_hz ← number (← item fields "center_frequency_hz") "center_frequency_hz"
  let sample_rate_hz ← number (← item fields "sample_rate_hz") "sample_rate_hz"
  let bandwidth_hz ← number (← item fields "bandwidth_hz") "bandwidth_hz"
  let receiver_chain_ids ← idsOf .receiver_chain (← item fields "receiver_chain_ids") "receiver_chain_ids"
  let gain ← gain (← item fields "gain")
  let duration_s ← optional_number (← item fields "duration_s") "duration_s"
  let sample_count ← optional_int (← item fields "sample_count") "sample_count"
  let scheduled ← item fields "scheduled_utc_ns"
  let hardware_controls ← frozen_mapping (← item fields "hardware_controls") "hardware_controls"
  let tags ← frozen_mapping (← item fields "tags") "tags"
  let scheduled_utc_ns ← scheduledUtcNs scheduled
  Checked.make SegmentRequest.Fields.post_init
    { segment_id, center_frequency_hz, sample_rate_hz, bandwidth_hz, receiver_chain_ids, gain,
      duration_s, sample_count, scheduled_utc_ns, hardware_controls, tags }

/-- `_segment_manifest` -/
def segment_manifest (value : PyValue) : Except PyError SegmentManifest := do
  let fields ← mapping value "segment manifest"
  exact_fields fields ["segment_id", "requested", "actual_center_frequency_hz",
    "actual_sample_rate_hz", "actual_bandwidth_hz", "actual_gain", "start_utc_ns",
    "monotonic_start_ns", "sample_count", "shape", "diagnostics"] "segment manifest"
  let requested ← segment_request (← item fields "requested")
  let actual_gain ← gain (← item fields "actual_gain")
  let segment_id ← idOf .segment (← item fields "segment_id") "segment_id"
  let actual_center_frequency_hz ←
    number (← item fields "actual_center_frequency_hz") "actual_center_frequency_hz"
  let actual_sample_rate_hz ← number (← item fields "actual_sample_rate_hz") "actual_sample_rate_hz"
  let actual_bandwidth_hz ← number (← item fields "actual_bandwidth_hz") "actual_bandwidth_hz"
  let start_utc_ns ← nonnegative_int (← item fields "start_utc_ns") "start_utc_ns"
  let monotonic_start_ns ← nonnegative_int (← item fields "monotonic_start_ns") "monotonic_start_ns"
  let sample_count ← positive_int (← item fields "sample_count") "sample_count"
  let shape ← three_ints (← item fields "shape") "shape"
  let diagnostics ← frozen_mapping (← item fields "diagnostics") "diagnostics"
  Checked.make SegmentManifest.Fields.post_init
    { segment_id, requested, actual_center_frequency_hz, actual_sample_rate_hz,
      actual_bandwidth_hz, actual_gain, start_utc_ns, monotonic_start_ns, sample_count, shape,
      diagnostics }

/-- `_activity_manifest` -/
def activity_manifest (value : PyValue) : Except PyError ActivityManifest := do
  let fields ← mapping value "activity manifest"
  exact_fields fields ["activity_id", "kind", "started_utc_ns", "finished_utc_ns", "segment_ids"]
    "activity manifest"
  let activity_id ← idOf .activity (← item fields "activity_id") "activity_id"
  let kind ← Serialization.activityKind (← string (← item fields "kind") "kind")
  let started_utc_ns ← nonnegative_int (← item fields "started_utc_ns") "started_utc_ns"
  let finished_utc_ns ← nonnegative_int (← item fields "finished_utc_ns") "finished_utc_ns"
  let segment_ids ← idsOf .segment (← item fields "segment_ids") "segment_ids"
  Checked.make ActivityManifest.Fields.post_init
    { activity_id, kind, started_utc_ns, finished_utc_ns, segment_ids }

/-- `_manifest_from_wire` -/
def manifest_from_wire (value : Entries) : Except PyError RecordingManifest := do
  exact_fields value ["schema", "recording_id", "created_utc_ns", "capture_started_utc_ns",
    "capture_finished_utc_ns", "station_id", "radio_id", "radio_serial", "receiver_chain_ids",
    "clock_status", "hardware_metadata_snapshot_id", "activities", "segments", "plan_id",
    "producer", "experiment_tags", "sample_dtype", "sample_layout", "state"] "manifest"
  let schema ← schema (← item value "schema")
  let activities ← (← list (← item value "activities") "activities").mapM activity_manifest
  let segments ← (← list (← item value "segments") "segments").mapM segment_manifest
  let recording_id ← idOf .recording (← item value "recording_id") "recording_id"
  let created_utc_ns ← nonnegative_int (← item value "created_utc_ns") "created_utc_ns"
  let capture_started_utc_ns ←
    nonnegative_int (← item value "capture_started_utc_ns") "capture_started_utc_ns"
  let capture_finished_utc_ns ←
    nonnegative_int (← item value "capture_finished_utc_ns") "capture_finished_utc_ns"
  let station_id ← idOf .station (← item value "station_id") "station_id"
  let radio_id ← idOf .radio (← item value "radio_id") "radio_id"
  let radio_serial ← string (← item value "radio_serial") "radio_serial"
  let receiver_chain_ids ← idsOf .receiver_chain (← item value "receiver_chain_ids") "receiver_chain_ids"
  let clock_status ← string (← item value "clock_status") "clock_status"
  let hardware_metadata_snapshot_id ←
    idOf .hardware_snapshot (← item value "hardware_metadata_snapshot_id") "hardware_metadata_snapshot_id"
  let plan_id ← idOf .plan (← item value "plan_id") "plan_id"
  let producer ← string (← item value "producer") "producer"
  let experiment_tags ← frozen_mapping (← item value "experiment_tags") "experiment_tags"
  let sample_dtype ← string (← item value "sample_dtype") "sample_dtype"
  let sample_layout ← three_strings (← item value "sample_layout") "sample_layout"
  let state ← string (← item value "state") "state"
  Checked.make RecordingManifest.Fields.post_init
    { schema, recording_id, created_utc_ns, capture_started_utc_ns, capture_finished_utc_ns,
      station_id, radio_id, radio_serial, receiver_chain_ids, clock_status,
      hardware_metadata_snapshot_id, activities, segments, plan_id, producer, experiment_tags,
      sample_dtype, sample_layout, state }

/-! ## Continuity -/

/-- `ContinuityStatus(value)` -/
def continuityStatus (value : PyStr) : Except PyError ContinuityStatus :=
  if value = str "verified_contiguous" then .ok .verified_contiguous
  else if value = str "verified_gapped" then .ok .verified_gapped
  else if value = str "unverified" then .ok .unverified
  else .error (.value "not a valid ContinuityStatus")

/-- `RefillFlag(value)` -/
def refillFlag (value : PyStr) : Except PyError RefillFlag :=
  if value = str "device_iio_overflow" then .ok .device_iio_overflow
  else if value = str "gain_read_failed" then .ok .gain_read_failed
  else if value = str "rssi_read_failed" then .ok .rssi_read_failed
  else if value = str "gain_observation_overflow" then .ok .gain_observation_overflow
  else if value = str "fpga_event_overflow" then .ok .fpga_event_overflow
  else if value = str "metadata_read_failed" then .ok .metadata_read_failed
  else .error (.value "not a valid RefillFlag")

/-- `_gap_from_wire` -/
def gap_from_wire (value : PyValue) : Except PyError ContinuityGap := do
  let fields ← mapping value "continuity gap"
  raiseIf (¬HasFields fields ["prior_refill_index", "next_refill_index", "stored_sample_offset",
    "first_missing_sample_sequence", "next_sample_sequence", "missing_sample_count",
    "missing_buffer_count"]) (.value "continuity gap fields differ")
  let prior_refill_index ← nonnegative_int (← item fields "prior_refill_index") "prior_refill_index"
  let next_refill_index ← nonnegative_int (← item fields "next_refill_index") "next_refill_index"
  let stored_sample_offset ← positive_int (← item fields "stored_sample_offset") "stored_sample_offset"
  let first_missing_sample_sequence ←
    nonnegative_int (← item fields "first_missing_sample_sequence") "first_missing_sample_sequence"
  let next_sample_sequence ← nonnegative_int (← item fields "next_sample_sequence") "next_sample_sequence"
  let missing_sample_count ← positive_int (← item fields "missing_sample_count") "missing_sample_count"
  let missing_buffer_count ← nonnegative_int (← item fields "missing_buffer_count") "missing_buffer_count"
  Checked.make ContinuityGap.Fields.post_init
    { prior_refill_index, next_refill_index, stored_sample_offset, first_missing_sample_sequence,
      next_sample_sequence, missing_sample_count, missing_buffer_count }

/-- `_gain_observation_from_wire` -/
def gain_observation_from_wire (value : PyValue) : Except PyError GainObservation := do
  let fields ← mapping value "gain observation"
  raiseIf (¬HasFields fields ["sample_sequence_before", "sample_sequence_after", "read_duration_ns",
    "gain_db"]) (.value "gain observation fields differ")
  let sample_sequence_before ←
    nonnegative_int (← item fields "sample_sequence_before") "sample_sequence_before"
  let sample_sequence_after ←
    nonnegative_int (← item fields "sample_sequence_after") "sample_sequence_after"
  let read_duration_ns ← nonnegative_int (← item fields "read_duration_ns") "read_duration_ns"
  let gain_db ← number_tuple (← item fields "gain_db") "gain_db"
  Checked.make GainObservation.Fields.post_init
    { sample_sequence_before, sample_sequence_after, read_duration_ns, gain_db }

/-- `_refill_from_wire` -/
def refill_from_wire (value : PyValue) : Except PyError RefillMetadata := do
  let fields ← mapping value "refill metadata"
  raiseIf (¬HasFields fields ["refill_index", "segment_sample_offset", "sample_count", "stream_id",
    "buffer_sequence", "first_sample_sequence", "monotonic_start_ns", "monotonic_end_ns",
    "utc_start_ns", "utc_end_ns", "time_uncertainty_ns", "gain_db_start", "gain_db_end",
    "rssi_db_start", "rssi_db_end", "gain_observation_overflow_count", "gain_event_overflow_count",
    "gain_observations", "flags"]) (.value "refill metadata fields differ")
  let refill_index ← nonnegative_int (← item fields "refill_index") "refill_index"
  let segment_sample_offset ← nonnegative_int (← item fields "segment_sample_offset") "segment_sample_offset"
  let sample_count ← positive_int (← item fields "sample_count") "sample_count"
  let stream_id ← nonnegative_int (← item fields "stream_id") "stream_id"
  let buffer_sequence ← nonnegative_int (← item fields "buffer_sequence") "buffer_sequence"
  let first_sample_sequence ← nonnegative_int (← item fields "first_sample_sequence") "first_sample_sequence"
  let monotonic_start_ns ← nonnegative_int (← item fields "monotonic_start_ns") "monotonic_start_ns"
  let monotonic_end_ns ← nonnegative_int (← item fields "monotonic_end_ns") "monotonic_end_ns"
  let utc_start_ns ← nonnegative_int (← item fields "utc_start_ns") "utc_start_ns"
  let utc_end_ns ← nonnegative_int (← item fields "utc_end_ns") "utc_end_ns"
  let time_uncertainty_ns ← nonnegative_int (← item fields "time_uncertainty_ns") "time_uncertainty_ns"
  let gain_db_start ← number_tuple (← item fields "gain_db_start") "gain_db_start"
  let gain_db_end ← number_tuple (← item fields "gain_db_end") "gain_db_end"
  let rssi_db_start ← number_tuple (← item fields "rssi_db_start") "rssi_db_start"
  let rssi_db_end ← number_tuple (← item fields "rssi_db_end") "rssi_db_end"
  let gain_observation_overflow_count ←
    nonnegative_int (← item fields "gain_observation_overflow_count") "gain_observation_overflow_count"
  let gain_event_overflow_count ←
    nonnegative_int (← item fields "gain_event_overflow_count") "gain_event_overflow_count"
  let gain_observations ←
    (← list (← item fields "gain_observations") "gain_observations").mapM gain_observation_from_wire
  let flags ← (← string_list (← item fields "flags") "flags").mapM refillFlag
  Checked.make RefillMetadata.Fields.post_init
    { refill_index, segment_sample_offset, sample_count, stream_id, buffer_sequence,
      first_sample_sequence, monotonic_start_ns, monotonic_end_ns, utc_start_ns, utc_end_ns,
      time_uncertainty_ns, gain_db_start, gain_db_end, rssi_db_start, rssi_db_end,
      gain_observation_overflow_count, gain_event_overflow_count, gain_observations, flags }

/-- The fields of `CaptureProvenance`, which are also those of its document. -/
def provenance_from_wire (value : PyValue) : Except PyError CaptureProvenance := do
  let fields ← mapping value "capture provenance"
  raiseIf (¬HasFields fields ["firmware_release", "firmware_commit", "host_libiio_version",
    "metadata_protocol", "capability"]) (.value "capture provenance fields differ")
  let firmware_release ← string (← item fields "firmware_release") "firmware_release"
  let firmware_commit ← string (← item fields "firmware_commit") "firmware_commit"
  let host_libiio_version ← string (← item fields "host_libiio_version") "host_libiio_version"
  let metadata_protocol ← string (← item fields "metadata_protocol") "metadata_protocol"
  let capability ← string (← item fields "capability") "capability"
  Checked.make CaptureProvenance.Fields.post_init
    { firmware_release, firmware_commit, host_libiio_version, metadata_protocol, capability }

/-- `_continuity_from_wire` -/
def continuity_from_wire (value : PyValue) (legacy : Bool) : Except PyError SegmentContinuity := do
  let fields ← mapping value "segment continuity"
  raiseIf (¬HasFields fields (["status", "receiver_chain_ids", "provenance", "refills"] ++
    if legacy then [] else ["gaps"])) (.value "segment continuity fields differ")
  let provenance ← provenance_from_wire (← item fields "provenance")
  let raw_status ← string (← item fields "status") "continuity status"
  let status ← if legacy ∧ raw_status = str "verified" then .ok .verified_contiguous
    else continuityStatus raw_status
  let receiver_chain_ids ← idsOf .receiver_chain (← item fields "receiver_chain_ids") "receiver_chain_ids"
  let refills ← (← list (← item fields "refills") "refills").mapM refill_from_wire
  let gaps ← if legacy then .ok [] else do
    (← list (← item fields "gaps") "gaps").mapM gap_from_wire
  Checked.make SegmentContinuity.Fields.post_init { status, receiver_chain_ids, provenance, refills, gaps }

/-! ## The document -/

/-- `_ParsedSegment` -/
structure ParsedSegment where
  byte_offset : Int
  byte_count : Int
  sample_count : Int
  receiver_count : Int
deriving DecidableEq

/-- `_ParsedMetadata`; dictionaries keep the order of insertion. -/
structure ParsedMetadata where
  manifest : RecordingManifest
  segments : List (SegmentId × ParsedSegment)
  continuity : List (SegmentId × SegmentContinuity)

/-- `_checked_segment_bytes` -/
def checked_segment_bytes (sample_count receiver_count : Int) : Except PyError Int :=
  if sample_count ≤ 0 ∨ receiver_count ≤ 0 then
    .error (.malformed "sample and receiver counts must be positive")
  else if INT64_MAX / receiver_count / 4 < sample_count then .error (.malformed "segment byte size overflows")
  else .ok (sample_count * receiver_count * 4)

/-- `_checked_add` -/
def checked_add (left right : Int) : Except PyError Int :=
  if INT64_MAX - right < left then .error (.malformed "segment range overflows") else .ok (left + right)

/-- `version in {..}` of versions: a list or a dictionary cannot be hashed. -/
@[reducible] def Hashable : PyValue → Prop
  | .list _ | .dict _ => False
  | _ => True

instance (v : PyValue) : Decidable (Hashable v) := by
  cases v <;> unfold Hashable <;> infer_instance

/-- `value.get("version")` -/
def version (value : Entries) : PyValue := (value.lookup (str "version")).getD .none

/-- `v == literal` -/
@[reducible] def IsText (v : PyValue) (literal : String) : Prop := PyValue.eq v (.str (str literal)) = true

/-- The fields of a document of this version. -/
def requiredFields (version : PyValue) : List String :=
  ["schema", "version", "core:datatype", "leo:namespace_version", "manifest", "manifest_digest", "segments"] ++
    if IsText version "1.1" ∨ IsText version "1.2" then ["continuity"] else []

/-- `value[key] != expected` -/
@[reducible] def Differs (value : Entries) (key : String) (expected : PyValue) : Prop :=
  PyValue.eq ((value.lookup (str key)).getD .none) expected = false

/-- The first part of `_parse_metadata`: a canonical JSON object. -/
def canonical_object (stack : Stack) (data : Bytes) : Except PyError Entries := do
  match ← convert IsJsonError "metadata is not valid UTF-8 JSON" (stack.loads data) with
  | .dict value =>
    let canonical ← stack.canonicalJsonBytes (.dict value)
    if canonical ≠ data then .error (.malformed "metadata is not canonical JSON") else .ok value
  | _ => .error (.malformed "metadata is not canonical JSON")

/-- Its envelope: the fields and the versions. -/
def checkEnvelope (value : Entries) : Except PyError Unit := do
  let version := version value
  raiseIf (¬Hashable version) (.type "unhashable type")
  checkAll [
    raiseIf (¬HasFields value (requiredFields version))
      (.malformed "metadata has missing or unknown required fields"),
    raiseIf (Differs value "schema" (.str (str "org.leo-flow.recording-object-metadata")) ∨
      ¬(IsText version "1.0" ∨ IsText version "1.1" ∨ IsText version "1.2"))
      (.malformed "unsupported recording metadata schema"),
    raiseIf (Differs value "core:datatype" (.str (str "ci16_le")) ∨
      Differs value "leo:namespace_version" version) (.malformed "unsupported data representation")]

/-- The embedded manifest. -/
def embeddedManifest (value : Entries) : Except PyError RecordingManifest :=
  convert IsWireError "invalid embedded manifest" do
    manifest_from_wire (← mapping (← item value "manifest") "manifest")

/-- The manifest against the reference. -/
def checkIdentity (stack : Stack) (value : Entries) (ref : RecordingObjectRef) (manifest : RecordingManifest) :
    Except PyError Unit := do
  raiseIf (manifest.val.recording_id ≠ ref.val.recording_id) (.malformed "metadata recording ID differs")
  let digest ← stack.canonicalDigest (RecordingManifest.toPy manifest)
  checkAll [
    raiseIf (digest ≠ ref.val.manifest_digest) (.malformed "embedded manifest digest differs"),
    raiseIf (Differs value "manifest_digest" (.str ref.val.manifest_digest.toStr))
      (.malformed "declared manifest digest differs")]

/-- `_MAX_SEGMENTS` -/
def MAX_SEGMENTS : Nat := 100000

/-- The segment table, of the size of the manifest. -/
def rawSegments (value : Entries) (manifest : RecordingManifest) : Except PyError (List PyValue) := do
  match ← item value "segments" with
  | .list raw_segments =>
    checkAll [
      raiseIf (raw_segments = [] ∨ MAX_SEGMENTS < raw_segments.length)
        (.malformed "invalid segment table size"),
      raiseIf (raw_segments.length ≠ manifest.val.segments.length)
        (.malformed "segment table and manifest differ")]
    .ok raw_segments
  | _ => .error (.malformed "invalid segment table size")

/-- The values of one entry of the segment table. -/
structure SegmentRange where
  offset : Int
  count : Int
  shape : List Int
  receiver_ids : List PyStr

def segmentRange (fields : Entries) : Except PyError SegmentRange := do
  let offset ← nonnegative_int (← item fields "byte_offset") "byte_offset"
  let count ← positive_int (← item fields "byte_count") "byte_count"
  let shape ← int_list (← item fields "shape") "shape" 3
  let receiver_ids ← string_list (← item fields "receiver_chain_ids") "receiver_chain_ids"
  .ok { offset, count, shape, receiver_ids }

/-- `parsed` and `prior_stop` -/
structure Table where
  parsed : List (SegmentId × ParsedSegment) := []
  prior_stop : Int := 0

/-- The checks of one entry against the manifest and the data object. -/
def placeSegment (ref : RecordingObjectRef) (manifest_segment : SegmentManifest) (table : Table)
    (segment_id : SegmentId) (range : SegmentRange) : Except PyError Table := do
  let samples := manifest_segment.val.shape.1
  let receivers := manifest_segment.val.shape.2.1
  checkAll [
    raiseIf (range.shape ≠ [samples, receivers, manifest_segment.val.shape.2.2])
      (.malformed "segment shape differs from manifest"),
    raiseIf (range.receiver_ids ≠ manifest_segment.val.requested.val.receiver_chain_ids.map fun id => id.value)
      (.malformed "receiver order differs from manifest")]
  let expected ← checked_segment_bytes samples receivers
  raiseIf (range.count ≠ expected ∨ range.offset ≠ table.prior_stop)
    (.malformed "segment ranges overlap, gap, or have wrong size")
  let stop ← checked_add range.offset range.count
  raiseIf ((ref.val.data_object.val.byte_count : Int) < stop) (.malformed "segment exceeds data object")
  .ok { parsed := table.parsed ++ [(segment_id, ⟨range.offset, range.count, samples, receivers⟩)],
        prior_stop := stop }

/-- `key in entries` -/
@[reducible] def Known {β : Type} (id : SegmentId) (entries : List (SegmentId × β)) : Prop :=
  id ∈ entries.map Prod.fst

/-- One round of the loop over the segment table. -/
def readSegment (ref : RecordingObjectRef) (table : Table) (x : PyValue × SegmentManifest) :
    Except PyError Table := do
  let fields ← mapping x.1 "segment"
  raiseIf (¬HasFields fields ["segment_id", "byte_offset", "byte_count", "shape", "receiver_chain_ids"])
    (.malformed "segment metadata fields differ")
  let segment_id ← segmentIdOf fields
  raiseIf (segment_id ≠ x.2.val.segment_id ∨ Known segment_id table.parsed)
    (.malformed "duplicate or reordered segment ID")
  let range ← segmentRange fields
  placeSegment ref x.2 table segment_id range

/-- The segment table. -/
def segmentTable (ref : RecordingObjectRef) (raw_segments : List PyValue) (manifest : RecordingManifest) :
    Except PyError (List (SegmentId × ParsedSegment)) := do
  let table ← (raw_segments.zip manifest.val.segments).foldlM (readSegment ref) {}
  raiseIf (table.prior_stop ≠ ref.val.data_object.val.byte_count)
    (.malformed "data object has truncation or trailing bytes")
  .ok table.parsed

/-- The receivers of the segment: `next(..)` over the manifest. -/
def receiversOf (manifest : RecordingManifest) (segment_id : SegmentId) : Except PyError (List ReceiverChainId) :=
  match manifest.val.segments.find? fun s => s.val.segment_id = segment_id with
  | some s => .ok s.val.requested.val.receiver_chain_ids
  | none => .error ⟨.stop_iteration, ""⟩

/-- The evidence of one segment against the manifest and its range. -/
def checkContinuity (manifest : RecordingManifest) (parsed : List (SegmentId × ParsedSegment))
    (segment_id : SegmentId) (continuity : SegmentContinuity) : Except PyError Unit := do
  let receivers ← receiversOf manifest segment_id
  checkAll [
    raiseIf (continuity.val.receiver_chain_ids ≠ receivers) (.malformed "continuity receiver order differs"),
    raiseIf (SegmentContinuity.IsVerified continuity ∧
        some (continuity.val.refills.map fun r => r.val.sample_count).sum ≠
          (parsed.lookup segment_id).map ParsedSegment.sample_count)
      (.malformed "verified refill evidence does not cover the whole segment")]

/-- One round of the loop over the continuity entries. -/
def readContinuity (manifest : RecordingManifest) (parsed : List (SegmentId × ParsedSegment)) (legacy : Bool)
    (continuity : List (SegmentId × SegmentContinuity)) (raw : PyValue) :
    Except PyError (List (SegmentId × SegmentContinuity)) := do
  let fields ← mapping raw "continuity entry"
  raiseIf (¬HasFields fields ["segment_id", "value"]) (.malformed "continuity entry fields differ")
  let segment_id ← segmentIdOf fields
  raiseIf (¬Known segment_id parsed ∨ Known segment_id continuity)
    (.malformed "unknown or duplicate continuity segment")
  let value ← item fields "value"
  let evidence ← convert IsWireError "invalid continuity metadata" (continuity_from_wire value legacy)
  checkContinuity manifest parsed segment_id evidence
  .ok (continuity ++ [(segment_id, evidence)])

/-- `_list(value.get("continuity", []), "continuity")` -/
def rawContinuity (value : Entries) : Except PyError (List PyValue) :=
  list ((value.lookup (str "continuity")).getD (.list [])) "continuity"

/-- `_parse_metadata` -/
def parse_metadata (stack : Stack) (data : Bytes) (ref : RecordingObjectRef) : Except PyError ParsedMetadata := do
  let value ← canonical_object stack data
  checkEnvelope value
  let manifest ← embeddedManifest value
  checkIdentity stack value ref manifest
  let raw_segments ← rawSegments value manifest
  let segments ← segmentTable ref raw_segments manifest
  let raw_continuity ← rawContinuity value
  let continuity ← raw_continuity.foldlM
    (readContinuity manifest segments (decide (IsText (version value) "1.1"))) []
  .ok { manifest, segments, continuity }

/-! ## The reader -/

/-- `ObjectMetadata` -/
structure ObjectMetadata where
  ref : Checked ObjectRef.post_init
  verified : Bool

/-- A `BlobReader` that answers: `head(ref)`, and the bytes that `open(ref)` streams. -/
structure BlobReader where
  head : Checked ObjectRef.post_init → ObjectMetadata
  content : Checked ObjectRef.post_init → Bytes

/-- `_MAX_METADATA_BYTES` -/
def MAX_METADATA_BYTES : Nat := 16 * 1024 * 1024

/-- The formats and the size that the reader supports. -/
def checkFormats (ref : RecordingObjectRef) : Except PyError Unit :=
  let data := ref.val.data_object.val
  let metadata := ref.val.metadata_object.val
  checkAll [
    raiseIf (data.media_type ≠ str "application/octet-stream" ∨ data.format_id ≠ str "leo-recording-data-v1" ∨
        metadata.media_type ≠ str "application/json" ∨ metadata.format_id ≠ str "leo-recording-metadata-v1")
      (.malformed "recording object formats are unsupported"),
    raiseIf (MAX_METADATA_BYTES < metadata.byte_count) (.malformed "recording metadata exceeds size limit")]

/-- The loop over the two objects: the store has verified exactly this one. -/
def checkVerified (blobs : BlobReader) (name : String) (object_ref : Checked ObjectRef.post_init) :
    Except PyError Unit :=
  raiseIf ((blobs.head object_ref).ref ≠ object_ref ∨ (blobs.head object_ref).verified = false)
    (.malformed (name ++ " object metadata is not exactly verified"))

/-- The bytes that were read against the reference. -/
def checkBytes (ref : RecordingObjectRef) (metadata_bytes : Bytes) : Except PyError Unit :=
  checkAll [
    raiseIf (MAX_METADATA_BYTES < metadata_bytes.length) (.malformed "recording metadata exceeds size limit"),
    raiseIf (metadata_bytes.length ≠ ref.val.metadata_object.val.byte_count ∨
        Digest.sha256 metadata_bytes ≠ ref.val.metadata_object.val.digest)
      (.malformed "metadata bytes differ from reference")]

/-- `SigMFRecordingObjectReader.open`, up to the view that it yields. -/
def openRecording (stack : Stack) (blobs : BlobReader) (recording_ref : RecordingObjectRef) :
    Except PyError ParsedMetadata := do
  checkFormats recording_ref
  checkVerified blobs "data" recording_ref.val.data_object
  checkVerified blobs "metadata" recording_ref.val.metadata_object
  let metadata_bytes := (blobs.content recording_ref.val.metadata_object).take (MAX_METADATA_BYTES + 1)
  checkBytes recording_ref metadata_bytes
  parse_metadata stack metadata_bytes recording_ref

end RecordingCodec

end LeoFlow
