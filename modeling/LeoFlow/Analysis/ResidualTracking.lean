import LeoFlow.Analysis.ResidualFilter

/-!
# LeoFlow.Analysis.ResidualTracking — the offline residual tracker

`track_associated_observations` of `analysis/tracking/offline.py`. The loop carries an
open segment: its steps, its context, and the filter state. `finish` closes a segment;
a rejection closes it too. Of an observation the model keeps what the tracker reads, and
the whole of it as `canonical_digest` sees it.
-/

namespace LeoFlow

open ResidualFilter

namespace ResidualTracker

/-! ## Inputs -/

/-- `AssociationStatus` -/
inductive AssociationStatus where
  | isMatch
  | ambiguous
  | no_match
deriving DecidableEq

/-- `AssociationCandidate` -/
structure AssociationCandidate where
  norad_id : Int
  normalized_squared_residual : Num
  predicted_frequency_hz : Num
  predicted_drift_hz_s : Num
  elevation_deg : Num
deriving DecidableEq

/-- `AssociationDecision` -/
structure AssociationDecision where
  status : AssociationStatus
  selected_norad_id : Option Int
  candidates : List AssociationCandidate
  reason_codes : List PyStr

structure RfMeasurement.Fields where
  recording_id : RecordingId
  receiver_chain_id : ReceiverChainId
  midpoint_utc_ns : Int
  frequency_hz : Num
  drift_hz_s : Num
  frequency_variance_hz2 : Num
  drift_variance_hz2_s2 : Num

def RfMeasurement.Fields.post_init (m : RfMeasurement.Fields) : Except PyError Unit :=
  checkAll [
    requireUtcNs m.midpoint_utc_ns "midpoint_utc_ns",
    requireFinite m.frequency_hz "frequency_hz",
    requireFinite m.drift_hz_s "drift_hz_s",
    requirePositive m.frequency_variance_hz2 "frequency_variance_hz2",
    requirePositive m.drift_variance_hz2_s2 "drift_variance_hz2_s2"]

/-- `RfMeasurement`, without its feature -/
abbrev RfMeasurement := Checked RfMeasurement.Fields.post_init

/-- `TrackingContext` -/
structure TrackingContext where
  receiver_chain_id : ReceiverChainId
  hardware_snapshot_ref : HardwareRef
  station_id : StationId
  station_geometry_digest : Digest
deriving DecidableEq

/-- `require_nonnegative` of a number -/
def requireNonnegativeNum (value : Num) (field : String) : Except PyError Unit :=
  checkAll [requireFinite value field, raiseIf (value.Lt (.int 0)) (.value (field ++ " must be non-negative"))]

structure AssociatedTrackingObservation.Fields where
  decision : AssociationDecision
  measurement : RfMeasurement
  hardware_snapshot_ref : HardwareRef
  station_id : StationId
  station_geometry_digest : Digest
  prediction_frequency_variance_hz2 : Num
  prediction_drift_variance_hz2_s2 : Num
  /-- the whole observation -/
  document : PyValue.Any

/-- The checks that concern what is kept here; the digest of the request is another. -/
def AssociatedTrackingObservation.Fields.post_init (o : AssociatedTrackingObservation.Fields) :
    Except PyError Unit :=
  checkAll [
    requireNonnegativeNum o.prediction_frequency_variance_hz2 "prediction_frequency_variance_hz2",
    requireNonnegativeNum o.prediction_drift_variance_hz2_s2 "prediction_drift_variance_hz2_s2"]

/-- `AssociatedTrackingObservation` -/
abbrev AssociatedTrackingObservation := Checked AssociatedTrackingObservation.Fields.post_init

namespace AssociatedTrackingObservation

/-- `measurement.midpoint_utc_ns` -/
def time (o : AssociatedTrackingObservation) : Int := o.val.measurement.val.midpoint_utc_ns

/-- What an estimate or a rejection says it is about. -/
def label (o : AssociatedTrackingObservation) : RecordingId × Int := (o.val.measurement.val.recording_id, time o)

/-- `_context` -/
def context (o : AssociatedTrackingObservation) : TrackingContext where
  receiver_chain_id := o.val.measurement.val.receiver_chain_id
  hardware_snapshot_ref := o.val.hardware_snapshot_ref
  station_id := o.val.station_id
  station_geometry_digest := o.val.station_geometry_digest

end AssociatedTrackingObservation

open AssociatedTrackingObservation (time label context)

structure TrackingSpecification.Fields where
  specification_ref : ArtifactRef
  expected_norad_id : Int
  initial_state : Vector2
  initial_covariance : Matrix2
  process_noise_hz2_s3 : Num
  maximum_normalized_innovation_squared : Num
  maximum_gap_s : Num
  segment_on_context_change : Bool := true
  segment_on_excessive_gap : Bool := true
  enable_rts_smoothing : Bool := true

def TrackingSpecification.Fields.post_init (s : TrackingSpecification.Fields) : Except PyError Unit :=
  checkAll [
    raiseIf (s.expected_norad_id ≤ 0) (.value "expected NORAD ID must be positive"),
    requireVector s.initial_state "initial_state",
    requirePositiveDefinite s.initial_covariance "initial_covariance",
    requireNonnegativeNum s.process_noise_hz2_s3 "process_noise_hz2_s3",
    requirePositive s.maximum_normalized_innovation_squared "maximum_normalized_innovation_squared",
    requirePositive s.maximum_gap_s "maximum_gap_s"]

/-- `TrackingSpecification` -/
abbrev TrackingSpecification := Checked TrackingSpecification.Fields.post_init

/-! ## Outputs -/

/-- `RejectedTrackingObservation` -/
structure RejectedTrackingObservation where
  recording_id : RecordingId
  utc_ns : Int
  reason_code : String
deriving DecidableEq

def RejectedTrackingObservation.label (r : RejectedTrackingObservation) : RecordingId × Int :=
  (r.recording_id, r.utc_ns)

/-- `TrackSegment` -/
structure TrackSegment where
  segment_id : PyStr
  norad_id : Int
  context : TrackingContext
  start_reason : String
  termination_reason : String
  estimates : List TrackingEstimate
deriving DecidableEq

/-- `TrackingReport`; it is always experimental and software truth only. -/
structure TrackingReport where
  specification_ref : ArtifactRef
  expected_norad_id : Int
  input_digest : Digest
  segments : List TrackSegment
  rejected : List RejectedTrackingObservation

/-! ### As `canonical_digest` sees them -/

def vectorToPy (v : Vector2) : PyValue := .tuple [v.1.toValue, v.2.toValue]

def matrixToPy (m : Matrix2) : PyValue := .tuple [vectorToPy m.1, vectorToPy m.2]

def TrackingContext.toPy (c : TrackingContext) : PyValue :=
  .dataclass "TrackingContext" [
    ("receiver_chain_id", c.receiver_chain_id.toPy),
    ("hardware_snapshot_ref", c.hardware_snapshot_ref.toPy),
    ("station_id", c.station_id.toPy),
    ("station_geometry_digest", c.station_geometry_digest.toPy)]

def estimateToPy (e : TrackingEstimate) : PyValue :=
  .dataclass "TrackingEstimate" [
    ("recording_id", e.recording_id.toPy),
    ("utc_ns", .int e.utc_ns),
    ("state_basis", .tuple [.str (str "frequency_residual_hz"), .str (str "frequency_drift_residual_hz_s")]),
    ("filtered_state", vectorToPy e.filtered_state),
    ("filtered_covariance", matrixToPy e.filtered_covariance),
    ("predicted_state", vectorToPy e.predicted_state),
    ("predicted_covariance", matrixToPy e.predicted_covariance),
    ("innovation", vectorToPy e.innovation),
    ("innovation_covariance", matrixToPy e.innovation_covariance),
    ("normalized_innovation_squared", e.normalized_innovation_squared.toValue),
    ("smoothed_state", optionToPy vectorToPy e.smoothed_state),
    ("smoothed_covariance", optionToPy matrixToPy e.smoothed_covariance)]

/-! ## Association -/

/-- `_association_rejection` -/
def associationRejection (o : AssociatedTrackingObservation) (expected_norad_id : Int) :
    Except PyError (Option String) :=
  let decision := o.val.decision
  if ∃ code ∈ decision.reason_codes, str "propagation-error:" <+: code then .ok (some "propagation-error")
  else
    match decision.status with
    | .ambiguous => .ok (some "ambiguous-association")
    | .no_match => .ok (some "no-match-association")
    | .isMatch =>
      if decision.selected_norad_id ≠ some expected_norad_id then .ok (some "norad-identity-mismatch")
      else
        match decision.candidates.filter fun c => some c.norad_id = decision.selected_norad_id with
        | [candidate] =>
          -- the selected candidate is the only one with its identity, so it is the first one or differs from it
          if decision.candidates.head? ≠ some candidate then .ok (some "malformed-association-decision")
          else do
            let isfinite ← allFinite [candidate.normalized_squared_residual, candidate.predicted_frequency_hz,
              candidate.predicted_drift_hz_s, candidate.elevation_deg]
            return if isfinite then none else some "malformed-association-decision"
        | _ => .ok (some "malformed-association-decision")

/-- `_selected_candidate` -/
def selectedCandidate (decision : AssociationDecision) : Except PyError AssociationCandidate :=
  match decision.candidates.filter fun c => some c.norad_id = decision.selected_norad_id with
  | [candidate] => .ok candidate
  | _ => .error (.value "association decision has no unique selected candidate")

/-! ## The loop -/

/-- The local variables of the loop. -/
structure Tracker where
  previous_input_time : Option Int
  segments : List TrackSegment
  rejected : List RejectedTrackingObservation
  steps : List Step
  context : Option TrackingContext
  start_reason : String
  state : Vector2
  covariance : Matrix2
  previous_accepted_time : Option Int

variable (spec : TrackingSpecification)

/-- Before the first observation. -/
def fresh : Tracker where
  previous_input_time := none
  segments := []
  rejected := []
  steps := []
  context := none
  start_reason := "first-accepted-observation"
  state := spec.val.initial_state
  covariance := spec.val.initial_covariance
  previous_accepted_time := none

/-- The estimates of a segment. -/
def estimatesOf (steps : List Step) : Except PyError (List TrackingEstimate) :=
  if spec.val.enable_rts_smoothing then smooth steps else .ok (steps.map fun step => step.estimate)

/-- The tracker after a segment: only what was reported is kept. -/
def Tracker.closed (t : Tracker) (segment : TrackSegment) : Tracker :=
  { t with
    segments := t.segments ++ [segment]
    steps := []
    context := none
    state := spec.val.initial_state
    covariance := spec.val.initial_covariance
    previous_accepted_time := none }

/-- `finish` -/
def finish (reason : String) (t : Tracker) : Except PyError Tracker :=
  match t.context with
  | none => .ok t
  | some context =>
    if t.steps = [] then .ok t
    else do
      let estimates ← estimatesOf spec t.steps
      let digest ← canonicalDigest (.object [
        ("norad_id", .int spec.val.expected_norad_id),
        ("specification_ref", spec.val.specification_ref.toPy),
        ("context", context.toPy),
        ("estimates", .tuple (estimates.map estimateToPy))])
      return t.closed spec ⟨str "trackseg_" ++ digest.value.take 32, spec.val.expected_norad_id, context,
        t.start_reason, reason, estimates⟩

/-- A rejection closes the segment. -/
def reject (o : AssociatedTrackingObservation) (reason : String) (t : Tracker) : Except PyError Tracker := do
  let t ← finish spec ("rejected:" ++ reason) t
  return { t with
    rejected := t.rejected ++ [⟨o.val.measurement.val.recording_id, time o, reason⟩]
    start_reason := "after-rejected:" ++ reason }

/-- `(time_ns - previous) / 1_000_000_000.0` -/
def seconds (previous time_ns : Int) : Except PyError Num := (Num.int (time_ns - previous)).div (literal 1 9)

/-- The measurement against the prediction of its candidate. -/
def residual (o : AssociatedTrackingObservation) (candidate : AssociationCandidate) : Residual where
  measured := (o.val.measurement.val.frequency_hz, o.val.measurement.val.drift_hz_s)
  predicted := (candidate.predicted_frequency_hz, candidate.predicted_drift_hz_s)
  measured_variance := (o.val.measurement.val.frequency_variance_hz2, o.val.measurement.val.drift_variance_hz2_s2)
  predicted_variance := (o.val.prediction_frequency_variance_hz2, o.val.prediction_drift_variance_hz2_s2)

/-- `dt_s` -/
def elapsed (previous_accepted_time : Option Int) (time_ns : Int) : Except PyError Num :=
  match previous_accepted_time with
  | none => .ok Num.zero
  | some previous => seconds previous time_ns

/-- The estimate of an observation, and how it was reached. -/
def stepOf (o : AssociatedTrackingObservation) (dt_s : Num) (i : Innovation) (filtered_state : Vector2)
    (filtered_covariance : Matrix2) : Step where
  estimate := {
    recording_id := o.val.measurement.val.recording_id
    utc_ns := time o
    filtered_state, filtered_covariance
    predicted_state := i.predicted_state
    predicted_covariance := i.predicted_covariance
    innovation := i.innovation
    innovation_covariance := i.innovation_covariance
    normalized_innovation_squared := i.nis }
  transition_from_previous := transition dt_s

/-- The innovation gate and, behind it, the update of the filter. -/
def gate (o : AssociatedTrackingObservation) (candidate : AssociationCandidate) (t : Tracker) :
    Except PyError Tracker := do
  let t := { t with context := some (t.context.getD (context o)) }
  let dt_s ← elapsed t.previous_accepted_time (time o)
  let i ← innovate spec.val.process_noise_hz2_s3 t.state t.covariance dt_s (residual o candidate)
  if spec.val.maximum_normalized_innovation_squared.Lt i.nis then reject spec o "innovation-gate" t
  else do
    let (filtered_state, filtered_covariance) ← update i
    return { t with
      steps := t.steps ++ [stepOf o dt_s i filtered_state filtered_covariance]
      state := filtered_state
      covariance := filtered_covariance
      previous_accepted_time := some (time o) }

/-- The context of the observation against that of the segment. -/
def checkContext (o : AssociatedTrackingObservation) (candidate : AssociationCandidate) (t : Tracker) :
    Except PyError Tracker :=
  if t.context ≠ none ∧ t.context ≠ some (context o) then
    if spec.val.segment_on_context_change then do
      let t ← finish spec "context-change" t
      gate spec o candidate { t with start_reason := "after-context-change" }
    else reject spec o "context-change" t
  else gate spec o candidate t

/-- The gap since the last estimate of the segment is too long. -/
def exceedsGap (previous_accepted_time : Option Int) (time_ns : Int) : Except PyError Bool :=
  match previous_accepted_time with
  | none => .ok false
  | some previous => do
    let gap_s ← seconds previous time_ns
    return spec.val.maximum_gap_s.Lt gap_s

/-- One round of the loop. -/
def observe (t : Tracker) (o : AssociatedTrackingObservation) : Except PyError Tracker := do
  raiseIf (∃ previous ∈ t.previous_input_time, time o ≤ previous)
    (.value "tracking observations must have strictly increasing time")
  let t := { t with previous_input_time := some (time o) }
  match ← associationRejection o spec.val.expected_norad_id with
  | some rejection => reject spec o rejection t
  | none => do
    let candidate ← selectedCandidate o.val.decision
    if ← exceedsGap spec t.previous_accepted_time (time o) then
      if spec.val.segment_on_excessive_gap then do
        let t ← finish spec "excessive-gap" t
        checkContext spec o candidate { t with start_reason := "after-excessive-gap" }
      else reject spec o "excessive-gap" t
    else checkContext spec o candidate t

/-- The loop. -/
def run (t : Tracker) (observations : List AssociatedTrackingObservation) : Except PyError Tracker :=
  observations.foldlM (observe spec) t

/-- `track_associated_observations` -/
def track (observations : List AssociatedTrackingObservation) : Except PyError TrackingReport := do
  let t ← run spec (fresh spec) observations
  let t ← finish spec "end-of-input" t
  let input_digest ← canonicalDigest (.tuple (observations.map fun o => o.val.document.val))
  return {
    specification_ref := spec.val.specification_ref
    expected_norad_id := spec.val.expected_norad_id
    input_digest
    segments := t.segments
    rejected := t.rejected }

end ResidualTracker

end LeoFlow
