import LeoFlow.Contracts.Features
import LeoFlow.Contracts.RecordingLinks

/-!
# LeoFlow.Contracts.TrackingInput — frozen inputs of tracking

`contracts/tracking_input.py`. Calibrations and snapshots carry the digests of what they
hold; a constructor computes them again.
-/

namespace LeoFlow

/-- `tuple[str, str]` -/
abbrev StrPair := PyStr × PyStr

def StrPair.toPy (p : StrPair) : PyValue := .tuple [.str p.1, .str p.2]

/-- `tuple[float, float]` -/
abbrev NumPair := Num × Num

def NumPair.toPy (p : NumPair) : PyValue := .tuple [p.1.toValue, p.2.toValue]

namespace TrackingInput

def RF_MEASUREMENT_BASIS : StrPair := (str "frequency_hz", str "drift_hz_s")

def RF_CALIBRATION_BASIS : StrPair := (str "frequency_bias_hz", str "frequency_drift_hz_s")

def RF_UNITS : StrPair := (str "Hz", str "Hz/s")

def MAX_CALIBRATION_SOURCE_REFS : Nat := 64

end TrackingInput

open TrackingInput

/-- `_require_covariance` -/
def requireCovariance (c : Covariance) (basis units : StrPair) (name : String) (positive_diagonal : Bool) :
    Except PyError Unit :=
  checkAll [
    raiseIf (c.val.basis ≠ [basis.1, basis.2] ∨ c.val.units ≠ [units.1, units.2]) (.value (name ++ " basis or units differ")),
    raiseIf (c.val.values.length ≠ 2 ∨ ∃ row ∈ c.val.values, row.length ≠ 2) (.value (name ++ " must be a full 2x2 matrix")),
    raiseIf (positive_diagonal = true ∧ ((c.val.cell 0 0).Le Num.zero ∨ (c.val.cell 1 1).Le Num.zero))
      (.value (name ++ " diagonal must be positive"))]

/-! ## Identities -/

/-- `RfReferenceFrame`, of one member -/
inductive RfReferenceFrame where
  | ABSOLUTE_RF
deriving DecidableEq

namespace RfReferenceFrame

end RfReferenceFrame

structure FeatureSetIdentity.Fields where
  feature_set_id : FeatureSetId
  analysis_run_id : AnalysisRunId
  bundle_digest : Digest
  bundle_byte_count : Int
  bundle_media_type : PyStr
  bundle_format_id : PyStr
deriving DecidableEq

def FeatureSetIdentity.Fields.post_init (i : FeatureSetIdentity.Fields) : Except PyError Unit :=
  checkAll [
    requirePositive (.int i.bundle_byte_count) "bundle_byte_count",
    raiseIf (47 ∉ i.bundle_media_type) (.value "bundle_media_type must be a MIME type"),
    requireToken i.bundle_format_id IsToken "bundle_format_id"]

/-- `FeatureSetIdentity` -/
abbrev FeatureSetIdentity := Checked FeatureSetIdentity.Fields.post_init

/-! ## Evidence -/

structure Measurement.Fields where
  feature_id : FeatureId
  recording_id : RecordingId
  receiver_chain_id : ReceiverChainId
  midpoint_utc_ns : Int
  reference_frame : RfReferenceFrame
  value : NumPair
  basis : StrPair
  units : StrPair
  covariance : Covariance

def Measurement.Fields.post_init (m : Measurement.Fields) : Except PyError Unit :=
  checkAll [
    requireUtcNs m.midpoint_utc_ns "midpoint_utc_ns",
    raiseIf (m.reference_frame ≠ .ABSOLUTE_RF) (.value "tracking measurement must use the ABSOLUTE_RF frame"),
    raiseIf (m.basis ≠ RF_MEASUREMENT_BASIS ∨ m.units ≠ RF_UNITS) (.value "tracking measurement basis or units differ"),
    requireFinite m.value.1 "measurement value",
    requireFinite m.value.2 "measurement value",
    requireCovariance m.covariance RF_MEASUREMENT_BASIS RF_UNITS "measurement covariance" true]

/-- `AbsoluteRfMeasurementEvidence` -/
abbrev Measurement := Checked Measurement.Fields.post_init

structure Calibration.Fields where
  calibration_ref : ArtifactRef
  receiver_chain_id : ReceiverChainId
  hardware_snapshot_ref : HardwareRef
  station_id : StationId
  validity : RecordingInterval
  value : NumPair
  basis : StrPair
  units : StrPair
  covariance : Covariance
  source_refs : List ArtifactRef

/-- `_artifact_key`; the text of a version has integers of at most 4300 digits. -/
def artifactKey (ref : ArtifactRef) : Except PyError (PyStr ×ₗ PyStr ×ₗ PyStr) :=
  match ref.schema with
  | none => .ok (toLex (ref.artifact_id, toLex (ref.digest.toStr, [])))
  | some schema => do
    raiseIf (¬(Json.ShortInt schema.version.major ∧ Json.ShortInt schema.version.minor))
      (.value "Exceeds the limit (4300 digits) for integer string conversion")
    .ok (toLex (ref.artifact_id, toLex (ref.digest.toStr, schema.schema_id ++ str "/" ++ schema.version.toStr)))

namespace Calibration.Fields

/-- `SchemaRef(ReceiverCalibrationEvidence.SCHEMA_ID, V0_1)` -/
def SCHEMA : SchemaRef := ⟨str "org.leo-flow.receiver-rf-calibration-evidence", V0_1, by decide⟩

variable (c : Calibration.Fields)

/-- `receiver_calibration_digest` -/
def digest : Except PyError Digest :=
  canonicalDigest (.object [
    ("receiver_chain_id", c.receiver_chain_id.toPy),
    ("hardware_snapshot_ref", c.hardware_snapshot_ref.toPy),
    ("station_id", c.station_id.toPy),
    ("validity", RecordingInterval.toPy c.validity),
    ("value", c.value.toPy),
    ("basis", c.basis.toPy),
    ("units", c.units.toPy),
    ("covariance", Covariance.toPy c.covariance),
    ("source_refs", .tuple (c.source_refs.map ArtifactRef.toPy))])

/-- What is checked before the source references are put in order. -/
def checkValues : Except PyError Unit :=
  checkAll [
    raiseIf (c.basis ≠ RF_CALIBRATION_BASIS ∨ c.units ≠ RF_UNITS) (.value "RF calibration basis or units differ"),
    requireFinite c.value.1 "calibration value",
    requireFinite c.value.2 "calibration value",
    requireCovariance c.covariance RF_CALIBRATION_BASIS RF_UNITS "calibration covariance" true,
    raiseIf (c.source_refs = []) (.value "RF calibration requires immutable source references"),
    raiseIf (MAX_CALIBRATION_SOURCE_REFS < c.source_refs.length) (.value "RF calibration has too many source references")]

def post_init : Except PyError Unit := do
  c.checkValues
  let keys ← c.source_refs.mapM artifactKey
  -- references are in the order that `sorted` puts them in exactly when their keys ascend
  checkAll [
    raiseIf (¬keys.Pairwise (· ≤ ·)) (.value "RF calibration source references are not canonical"),
    raiseIf (¬(c.source_refs.map ArtifactRef.artifact_id).Nodup) (.value "RF calibration source reference IDs are duplicated"),
    raiseIf (∃ ref ∈ c.source_refs, ref.schema = none) (.value "RF calibration source references require schemas")]
  let expected ← c.digest
  raiseIf (c.calibration_ref.schema ≠ some SCHEMA ∨ c.calibration_ref.digest ≠ expected ∨
    c.calibration_ref.artifact_id ≠ str "rfcal_" ++ expected.value.take 32)
    (.value "RF calibration reference differs from evidence")

end Calibration.Fields

/-- `ReceiverCalibrationEvidence` -/
abbrev Calibration := Checked Calibration.Fields.post_init

structure Prediction.Fields where
  policy_ref : ArtifactRef
  basis : StrPair
  units : StrPair
  covariance : Covariance

def Prediction.Fields.post_init (p : Prediction.Fields) : Except PyError Unit :=
  checkAll [
    raiseIf (p.policy_ref.schema = none) (.value "prediction covariance policy requires a schema"),
    raiseIf (p.basis ≠ RF_MEASUREMENT_BASIS ∨ p.units ≠ RF_UNITS) (.value "prediction covariance basis or units differ"),
    requireCovariance p.covariance RF_MEASUREMENT_BASIS RF_UNITS "prediction covariance" false]

/-- `PredictionCovarianceEvidence` -/
abbrev Prediction := Checked Prediction.Fields.post_init

/-! ## Entries -/

structure TrackingInputEntry.Fields where
  feature_set : FeatureSetIdentity
  recording_identity_digest : Digest
  recording_interval : RecordingInterval
  hardware_link : HardwareLink
  ephemeris_link : EphemerisLink
  measurement : Measurement
  calibration : Calibration
  prediction : Prediction

def TrackingInputEntry.Fields.post_init (e : TrackingInputEntry.Fields) : Except PyError Unit :=
  let midpoint := e.measurement.val.midpoint_utc_ns
  checkAll [
    raiseIf (e.hardware_link.val.recording_id ≠ e.measurement.val.recording_id ∨
      e.ephemeris_link.val.recording_id ≠ e.measurement.val.recording_id) (.value "tracking entry recording IDs differ"),
    raiseIf (e.hardware_link.val.recording_identity_digest ≠ e.recording_identity_digest ∨
      e.ephemeris_link.val.recording_identity_digest ≠ e.recording_identity_digest)
      (.value "tracking entry recording identity digests differ"),
    raiseIf (e.ephemeris_link.val.recording_interval ≠ e.recording_interval)
      (.value "tracking entry recording intervals differ"),
    raiseIf (e.ephemeris_link.val.selection.val.policy_ref.schema = none)
      (.value "ephemeris selection policy requires a schema"),
    raiseIf (¬e.recording_interval.Holds midpoint) (.value "measurement midpoint lies outside half-open recording"),
    raiseIf (¬e.calibration.val.validity.Holds midpoint) (.value "measurement midpoint lies outside calibration validity"),
    raiseIf (e.measurement.val.receiver_chain_id ≠ e.calibration.val.receiver_chain_id)
      (.value "measurement and calibration receiver chains differ"),
    raiseIf (e.hardware_link.val.hardware_snapshot_ref ≠ e.calibration.val.hardware_snapshot_ref)
      (.value "hardware link and calibration snapshot differ")]

/-- `TrackingInputEntry` -/
abbrev TrackingInputEntry := Checked TrackingInputEntry.Fields.post_init

end LeoFlow
