import LeoFlow.Contracts.AdaptiveCalibration

/-!
# LeoFlow.Analysis.AdaptiveCalibration — staged calibration

`analysis/dataset/starlink_adaptive_calibration.py`. The threshold is fitted on the
training nulls, audited on the validation split, and only then evaluated on the locked
test. The Wilson bounds are a parameter (`WilsonBounds`): functions of the counts and of
the confidence level.
-/

namespace LeoFlow

namespace AdaptiveCalibration

/-- `one_sided_wilson_upper_bound` and `one_sided_wilson_lower_bound`. -/
structure WilsonBounds where
  upper (exceedance_count search_count : Int) (confidence_level : Num) : Except PyError Num
  lower (success_count trial_count : Int) (confidence_level : Num) : Except PyError Num

/-- `math.floor(n * x)`; the product of an `int` and a `float` is a `float`. -/
def floorTimes (n : Nat) (x : Num) : Except PyError Int :=
  match x with
  | .int k => .ok (n * k)
  | .float f =>
    match PyFloat.ofInt n with
    | none => .error ⟨.overflow_error, "int too large to convert to float"⟩
    | some g =>
      match g.toRat, f.toRat with
      | some a, some b =>
        match PyFloat.rounded (a * b) with
        | some product => .ok product.floor
        | none => .error ⟨.overflow_error, "cannot convert float infinity to integer"⟩
      | _, _ => .error (.value "cannot convert float to integer")

/-! ## One dwell -/

/-- `_family_wise_maximum` -/
def family_wise_maximum (dwell : Dwell) : Num :=
  Num.maximumOf (dwell.val.patterns.map PatternDwellEvidence.whole_search_maximum) (by simpa using dwell.patterns_ne_nil)

/-- `_pattern_passes_evidence_gates` -/
def pattern_passes_evidence_gates (plan : Plan) (pattern : PatternDwellEvidence) : Bool :=
  if plan.val.minimum_coherent_qam_receiver_count = 0 then
    pattern.val.receiver_evidence.any fun e => plan.val.minimum_temporal_maximum.Le e.val.temporal_maximum
  else
    let qualified := pattern.val.receiver_evidence.countP fun e =>
      decide (e.val.qam_complete_frame_count > 0 ∧ plan.val.minimum_qam_goodness_per_receiver.Le e.val.qam_goodness ∧
        plan.val.minimum_temporal_maximum.Le e.val.temporal_maximum)
    pattern.val.dual_rx_coherent_qam && decide ((qualified : Int) ≥ plan.val.minimum_coherent_qam_receiver_count)

/-- A pattern above the threshold that passes the gates. -/
def pattern_fires (plan : Plan) (threshold : Num) (pattern : PatternDwellEvidence) : Bool :=
  decide (threshold.Lt pattern.whole_search_maximum) && pattern_passes_evidence_gates plan pattern

/-- `_dwell_fires` -/
def dwell_fires (plan : Plan) (dwell : Dwell) (threshold : Num) : Bool :=
  dwell.val.patterns.any (pattern_fires plan threshold)

/-- `_target_fires`: the pattern at index 0. -/
def target_fires (plan : Plan) (dwell : Dwell) (threshold : Num) : Bool :=
  pattern_fires plan threshold (dwell.val.patterns.head dwell.patterns_ne_nil)

/-! ## One split -/

/-- `_locked_dwells` -/
def locked_dwells (plan : Plan) (values : List Dwell) (split : Split) (label : Label) (expected_count : Int)
    (manifest_digest expected_manifest_digest : Digest) : Except PyError (List Dwell) := do
  checkAll [
    raiseIf (manifest_digest ≠ expected_manifest_digest)
      (.value "calibration split manifest differs from the frozen plan"),
    raiseIf ((values.length : Int) ≠ expected_count) (.value "calibration dwell count differs from the frozen plan"),
    raiseIf (¬(values.map fun d => d.val.dwell_id).Nodup ∨ ¬(values.map fun d => d.val.member_digest).Nodup ∨
        ¬(values.map fun d => d.val.group_digest).Nodup)
      (.value "calibration split contains duplicate dwell members"),
    raiseIf (∃ d ∈ values, d.val.split ≠ split ∨ d.val.label ≠ label ∨
        d.val.cell_identity_digest ≠ plan.val.cell_identity_digest ∨
        (d.val.patterns.length : Int) ≠ plan.val.pattern_count)
      (.value "calibration dwell differs from its frozen stratum")]
  return values

/-- `fit_adaptive_calibration_v0_1` -/
def fit_adaptive_calibration (plan : Plan) (train_manifest_digest : Digest) (training_null_dwells : List Dwell) :
    Except PyError Fit := do
  let dwells ← locked_dwells plan training_null_dwells .train .null plan.val.training_null_dwell_count
    train_manifest_digest plan.val.train_manifest_digest
  let maxima := dwells.map family_wise_maximum
  let allowed ← floorTimes maxima.length plan.val.target_family_wise_false_alarm_rate
  raiseIf (allowed ≤ 0) (.value "training split cannot resolve its declared FAR tail")
  match (Num.descending maxima)[allowed.toNat - 1]? with
  | none => .error ⟨.index_error, "list index out of range"⟩
  | some threshold => do
    let exceedances := maxima.countP fun value => decide (threshold.Lt value)
    let plan_digest ← canonicalDigest plan.toPy
    let identity ← canonicalDigest (.object [("plan_digest", plan_digest.toPy),
      ("train_manifest_digest", train_manifest_digest.toPy), ("threshold", threshold.toValue)])
    Checked.make Fit.Fields.post_init {
      schema := fitSchema
      fit_id := str "sladfit_" ++ identity.value.take 32
      plan_digest
      train_manifest_digest
      threshold
      threshold_descending_rank := allowed
      minimum_resolvable_family_wise_far := oneOver maxima.length
      training_dwell_count := maxima.length
      training_threshold_exceedance_count := exceedances
      training_member_digests := sortDigests (dwells.map fun d => d.val.member_digest)
      training_group_digests := sortDigests (dwells.map fun d => d.val.group_digest)
      candidate_only := true }

/-- `_fit_matches` -/
def fit_matches (plan : Plan) (fit : Fit) : Except PyError Unit := do
  let plan_digest ← canonicalDigest plan.toPy
  raiseIf (fit.val.plan_digest ≠ plan_digest ∨ fit.val.train_manifest_digest ≠ plan.val.train_manifest_digest ∨
      fit.val.candidate_only = false)
    (.value "adaptive fit differs from the frozen plan")

/-- Both bounds meet the plan's targets. -/
def bounds_accept (plan : Plan) (far_upper pd_lower : Num) : Bool :=
  decide (far_upper.Le plan.val.target_family_wise_false_alarm_rate) &&
    decide (plan.val.minimum_positive_detection_probability.Le pd_lower)

variable (wilson : WilsonBounds)

/-- `_evaluate_split` -/
def evaluate_split (plan : Plan) (fit : Fit) (split : Split) (manifest_digest expected_manifest_digest : Digest)
    (dwells : List Dwell) (expected_null_count expected_positive_count : Int)
    (excluded_member_digests excluded_group_digests : List Digest) : Except PyError SplitEvidence := do
  let nulls ← locked_dwells plan (dwells.filter fun d => d.val.label = .null) split .null expected_null_count
    manifest_digest expected_manifest_digest
  let positives ← locked_dwells plan (dwells.filter fun d => d.val.label = .positive) split .positive
    expected_positive_count manifest_digest expected_manifest_digest
  let member_digests := (nulls ++ positives).map fun d => d.val.member_digest
  let group_digests := (nulls ++ positives).map fun d => d.val.group_digest
  checkAll [
    raiseIf (nulls.length + positives.length ≠ dwells.length) (.value "held-out split contains an unknown truth label"),
    raiseIf (¬member_digests.Nodup) (.value "held-out split reuses a dwell member"),
    raiseIf (∃ digest ∈ member_digests, digest ∈ excluded_member_digests)
      (.value "calibration member overlaps an earlier frozen split"),
    raiseIf (∃ digest ∈ group_digests, digest ∈ excluded_group_digests)
      (.value "calibration group overlaps an earlier frozen split")]
  let false_alarms := nulls.countP fun d => dwell_fires plan d fit.val.threshold
  let detections := positives.countP fun d => target_fires plan d fit.val.threshold
  let far_upper ← wilson.upper false_alarms nulls.length plan.val.confidence_level
  let pd_lower ← wilson.lower detections positives.length plan.val.confidence_level
  Checked.make SplitEvidence.Fields.post_init {
    split
    manifest_digest
    threshold := fit.val.threshold
    null_dwell_count := nulls.length
    null_family_wise_exceedance_count := false_alarms
    null_far_upper_bound := far_upper
    positive_dwell_count := positives.length
    positive_detection_count := detections
    positive_detection_probability_lower_bound := pd_lower
    member_digests := sortDigests member_digests
    group_digests := sortDigests group_digests
    accepted := bounds_accept plan far_upper pd_lower }

/-- `validate_adaptive_calibration_v0_1` -/
def validate_adaptive_calibration (plan : Plan) (fit : Fit) (validation_manifest_digest : Digest)
    (validation_dwells : List Dwell) : Except PyError SplitEvidence := do
  fit_matches plan fit
  evaluate_split wilson plan fit .validation validation_manifest_digest plan.val.validation_manifest_digest
    validation_dwells plan.val.validation_null_dwell_count plan.val.validation_positive_dwell_count
    fit.val.training_member_digests fit.val.training_group_digests

/-- What `evaluate_locked_adaptive_calibration_v0_1` checks before it opens the locked test. -/
def validation_gate (plan : Plan) (fit : Fit) (validation : SplitEvidence) : Except PyError Unit := do
  let expected_far_upper ← wilson.upper validation.val.null_family_wise_exceedance_count
    validation.val.null_dwell_count plan.val.confidence_level
  let expected_pd_lower ← wilson.lower validation.val.positive_detection_count
    validation.val.positive_dwell_count plan.val.confidence_level
  raiseIf (validation.val.split ≠ .validation ∨
      validation.val.manifest_digest ≠ plan.val.validation_manifest_digest ∨
      ¬validation.val.threshold.Eq fit.val.threshold ∨
      validation.val.null_dwell_count ≠ plan.val.validation_null_dwell_count ∨
      validation.val.positive_dwell_count ≠ plan.val.validation_positive_dwell_count ∨
      (∃ digest ∈ validation.val.member_digests, digest ∈ fit.val.training_member_digests) ∨
      (∃ digest ∈ validation.val.group_digests, digest ∈ fit.val.training_group_digests) ∨
      ¬validation.val.null_far_upper_bound.Eq expected_far_upper ∨
      ¬validation.val.positive_detection_probability_lower_bound.Eq expected_pd_lower ∨
      validation.val.accepted ≠ bounds_accept plan validation.val.null_far_upper_bound
        validation.val.positive_detection_probability_lower_bound ∨
      validation.val.accepted = false)
    (.value "validation gate must pass before opening locked test")

/-- The identity of the locked evidence. -/
def lockedIdentity (plan_digest fit_digest : Digest) (validation locked : PyValue) : PyValue :=
  .object [("plan", plan_digest.toPy), ("fit", fit_digest.toPy), ("validation", validation), ("locked", locked)]

/-- `evaluate_locked_adaptive_calibration_v0_1` -/
def evaluate_locked_adaptive_calibration (plan : Plan) (fit : Fit) (validation : SplitEvidence)
    (locked_test_manifest_digest : Digest) (locked_test_dwells : List Dwell) : Except PyError LockedEvidence := do
  fit_matches plan fit
  validation_gate wilson plan fit validation
  let locked ← evaluate_split wilson plan fit .locked_test locked_test_manifest_digest
    plan.val.locked_test_manifest_digest locked_test_dwells plan.val.locked_test_null_dwell_count
    plan.val.locked_test_positive_dwell_count
    (fit.val.training_member_digests ++ validation.val.member_digests)
    (fit.val.training_group_digests ++ validation.val.group_digests)
  let eligible := validation.val.accepted && locked.val.accepted
  let plan_digest ← canonicalDigest plan.toPy
  let fit_digest ← canonicalDigest fit.toPy
  let identity ← canonicalDigest (lockedIdentity plan_digest fit_digest validation.toPy locked.toPy)
  Checked.make LockedEvidence.Fields.post_init {
    schema := lockedSchema
    evidence_id := str "sladlocked_" ++ identity.value.take 32
    plan_digest
    fit_digest
    validation
    locked_test := locked
    calibrated_decision_eligible := eligible
    candidate_only := !eligible
    warnings := WARNINGS }

/-! ## The frozen cell -/

/-- A split, its manifest and its inputs. -/
abbrev SplitInputs := Split × Digest × List AssembledInput

/-- `_verify_assembled_calibration_inputs` -/
def verify_assembled_calibration_inputs (plan : Plan) (inputs_by_split : List SplitInputs)
    (all_inputs : List AssembledInput) : Except PyError Unit :=
  checkAll [
    raiseIf (all_inputs = []) (.value "frozen calibration has no assembled inputs"),
    checkAll (inputs_by_split.map fun s => checkAll (s.2.2.map fun item =>
      checkAll [
        raiseIf (item.val.split_manifest_digest ≠ s.2.1 ∨ item.val.dwell.val.split ≠ s.1 ∨
            item.val.dwell.val.cell_identity_digest ≠ plan.val.cell_identity_digest ∨
            (item.val.dwell.val.patterns.length : Int) ≠ plan.val.pattern_count)
          (.value "assembled input differs from its frozen split"),
        raiseIf (plan.val.minimum_coherent_qam_receiver_count > 0 ∧ item.val.qam_bundle_digest = none)
          (.value "QAM-gated calibration requires assembled QAM input")])),
    raiseIf ((all_inputs.map fun i => i.val.search_identity_digest).dedup.length ≠ 1)
      (.value "assembled inputs do not share one frozen search identity"),
    raiseIf ((all_inputs.map fun i => i.val.pattern_template_digests).dedup.length ≠ 1)
      (.value "assembled inputs do not share one frozen pattern bank"),
    raiseIf ((all_inputs.map fun i => i.val.assembly_spec_digest).dedup.length ≠ all_inputs.length)
      (.value "assembled calibration member spec is reused")]

/-- The dwells of assembled inputs. -/
def dwellsOf (inputs : List AssembledInput) : List Dwell := inputs.map fun i => i.val.dwell

/-- What an evaluation returns. -/
abbrev Evaluation := Fit × SplitEvidence × LockedEvidence

/-- `evaluate_frozen_adaptive_calibration_inputs_v0_1` -/
def evaluate_frozen (plan : Plan) (training_inputs validation_inputs locked_test_inputs : List AssembledInput) :
    Except PyError Evaluation := do
  verify_assembled_calibration_inputs plan [
      (.train, plan.val.train_manifest_digest, training_inputs),
      (.validation, plan.val.validation_manifest_digest, validation_inputs),
      (.locked_test, plan.val.locked_test_manifest_digest, locked_test_inputs)]
    (training_inputs ++ validation_inputs ++ locked_test_inputs)
  let fit ← fit_adaptive_calibration plan plan.val.train_manifest_digest (dwellsOf training_inputs)
  let validation ← validate_adaptive_calibration wilson plan fit plan.val.validation_manifest_digest
    (dwellsOf validation_inputs)
  let locked ← evaluate_locked_adaptive_calibration wilson plan fit validation plan.val.locked_test_manifest_digest
    (dwellsOf locked_test_inputs)
  return (fit, validation, locked)

end AdaptiveCalibration

end LeoFlow
