import LeoFlow.Core.Numbers
import LeoFlow.Contracts.Capture

/-!
# LeoFlow.Contracts.AdaptiveCalibration — calibration of adaptive Starlink evidence

`contracts/starlink_adaptive_calibration.py` and the assembled input of
`contracts/starlink_adaptive_calibration_input.py`. Statistics are Python numbers that
the contracts confine to `[0, 1]`; `Num.Eq` is Python's `==` on them, which does not tell
`0.0` from `-0.0` or `1.0` from `1`.
-/

namespace LeoFlow

theorem finite_of_requireFinite {value : Num} {field : String} (h : requireFinite value field = .ok ()) : value.Finite := by
  cases value with
  | int n => rfl
  | float f =>
    cases f with
    | nan => simp [requireFinite] at h
    | inf => simp [requireFinite] at h
    | finite s m e hc =>
      show (PyFloat.toRat (.finite s m e hc)).isSome
      rw [PyFloat.toRat_finite]
      rfl

theorem requireFinite_of_finite {a : Num} {field : String} (h : a.Finite) : requireFinite a field = .ok () := by
  cases a with
  | int n => rfl
  | float f =>
    cases f with
    | nan => cases h
    | inf => cases h
    | finite s m e hc => simp [requireFinite]

/-- `sorted(digests, key=str)` -/
def sortDigests (digests : List Digest) : List Digest := digests.insertionSort fun a b => a.toStr ≤ b.toStr

namespace AdaptiveCalibration

/-- `MAXIMUM_CALIBRATION_PATTERNS` -/
def MAXIMUM_CALIBRATION_PATTERNS : Int := 33

/-- `MAXIMUM_CALIBRATION_RECEIVERS` -/
def MAXIMUM_CALIBRATION_RECEIVERS : Int := 8

/-- `AdaptiveCalibrationSplit` -/
inductive Split where
  | train
  | validation
  | locked_test
deriving DecidableEq

/-- `split.value` -/
def Split.value : Split → PyStr
  | train => str "train"
  | validation => str "validation"
  | locked_test => str "locked-test"

/-- `AdaptiveCalibrationLabel` -/
inductive Label where
  | null
  | positive
deriving DecidableEq

/-- `AdaptivePatternRole` -/
inductive PatternRole where
  | qin
  | surrogate
deriving DecidableEq

/-- `0 <= value <= 1` -/
@[reducible] def InUnit (value : Num) : Prop := (Num.int 0).Le value ∧ value.Le (.int 1)

/-- A finite number between zero and one. -/
def requireUnit (value : Num) (field : String) : Except PyError Unit :=
  checkAll [requireFinite value field, raiseIf (¬InUnit value) (.value (field ++ " must lie in [0,1]"))]

structure ReceiverPatternEvidence.Fields where
  radio_id : RadioId
  receiver_chain_id : ReceiverChainId
  whole_search_maximum : Num
  candidate_count : Int
  temporal_maximum : Num
  qam_goodness : Num
  qam_complete_frame_count : Int
deriving DecidableEq

def ReceiverPatternEvidence.Fields.post_init (e : ReceiverPatternEvidence.Fields) : Except PyError Unit :=
  checkAll [
    requireUnit e.whole_search_maximum "whole_search_maximum",
    requireUnit e.temporal_maximum "temporal_maximum",
    requireUnit e.qam_goodness "qam_goodness",
    raiseIf (e.candidate_count < 0 ∨ e.qam_complete_frame_count < 0)
      (.value "adaptive evidence counts cannot be negative"),
    raiseIf (e.candidate_count = 0 ∧ ¬e.whole_search_maximum.Eq (.int 0))
      (.value "zero-candidate evidence must retain a zero maximum"),
    raiseIf (e.qam_complete_frame_count = 0 ∧ ¬e.qam_goodness.Eq (.int 0))
      (.value "QAM goodness requires complete frames")]

/-- `AdaptiveReceiverPatternEvidenceV0_1` -/
abbrev ReceiverPatternEvidence := Checked ReceiverPatternEvidence.Fields.post_init

/-- `identity` -/
def ReceiverPatternEvidence.identity (e : ReceiverPatternEvidence) : PyStr × PyStr :=
  (e.val.radio_id.value, e.val.receiver_chain_id.value)

/-- The order of pairs of strings. -/
@[reducible] def PairLt (a b : PyStr × PyStr) : Prop := a.1 < b.1 ∨ a.1 = b.1 ∧ a.2 < b.2

structure PatternDwellEvidence.Fields where
  pattern_index : Int
  role : PatternRole
  receiver_evidence : List ReceiverPatternEvidence
  dual_rx_coherent_qam : Bool
deriving DecidableEq

def PatternDwellEvidence.Fields.post_init (p : PatternDwellEvidence.Fields) : Except PyError Unit :=
  checkAll [
    raiseIf (¬(0 ≤ p.pattern_index ∧ p.pattern_index < MAXIMUM_CALIBRATION_PATTERNS) ∨
        p.role ≠ (if p.pattern_index = 0 then .qin else .surrogate) ∨
        p.receiver_evidence = [] ∨
        (p.receiver_evidence.length : Int) > MAXIMUM_CALIBRATION_RECEIVERS ∨
        ¬(p.receiver_evidence.map ReceiverPatternEvidence.identity).Pairwise PairLt)
      (.value "adaptive pattern evidence is not canonical"),
    raiseIf (p.dual_rx_coherent_qam = true ∧
        p.receiver_evidence.countP (fun e => decide (e.val.qam_complete_frame_count > 0)) < 2)
      (.value "coherent dual-RX QAM requires two receiver fits")]

/-- `AdaptivePatternDwellEvidenceV0_1` -/
abbrev PatternDwellEvidence := Checked PatternDwellEvidence.Fields.post_init

theorem PatternDwellEvidence.receiver_evidence_ne_nil (p : PatternDwellEvidence) : p.val.receiver_evidence ≠ [] := by
  have hok := p.ok
  simp only [PatternDwellEvidence.Fields.post_init, checkAll_cons, raiseIf_ok, not_or] at hok
  exact hok.1.2.2.1

/-- The maxima of the receivers. -/
def PatternDwellEvidence.maxima (p : PatternDwellEvidence) : List Num :=
  p.val.receiver_evidence.map fun e => e.val.whole_search_maximum

/-- `whole_search_maximum` -/
def PatternDwellEvidence.whole_search_maximum (p : PatternDwellEvidence) : Num :=
  Num.maximumOf p.maxima (by simpa [maxima] using p.receiver_evidence_ne_nil)

structure Dwell.Fields where
  dwell_id : PyStr
  member_digest : Digest
  group_digest : Digest
  split : Split
  label : Label
  cell_identity_digest : Digest
  patterns : List PatternDwellEvidence
deriving DecidableEq

def Dwell.Fields.post_init (d : Dwell.Fields) : Except PyError Unit :=
  checkAll [
    requireToken d.dwell_id IsToken "dwell_id",
    raiseIf (d.patterns = [] ∨
        (d.patterns.map fun p => p.val.pattern_index) ≠ (List.range d.patterns.length).map Int.ofNat)
      (.value "every dwell must retain Qin and every surrogate"),
    raiseIf ((d.patterns.map fun p => p.val.receiver_evidence.map ReceiverPatternEvidence.identity).dedup.length ≠ 1)
      (.value "Qin and surrogates require symmetric receiver evidence")]

/-- `AdaptiveCalibrationDwellV0_1` -/
abbrev Dwell := Checked Dwell.Fields.post_init

theorem Dwell.patterns_ne_nil (d : Dwell) : d.val.patterns ≠ [] := by
  have hok := d.ok
  simp only [Dwell.Fields.post_init, checkAll_cons, raiseIf_ok, not_or] at hok
  exact hok.2.1.1

/-! ## The plan -/

/-- `statistic` -/
def STATISTIC : PyStr := str "maximum-over-time-cfo-epoch-receiver-and-pattern-per-dwell"

/-- `threshold_comparison` -/
def THRESHOLD_COMPARISON : PyStr := str "strict-greater-than"

/-- `threshold_selection` -/
def THRESHOLD_SELECTION : PyStr := str "descending-order-statistic-at-floor-n-times-target-far"

structure Plan.Fields where
  schema : SchemaRef
  plan_id : PyStr
  cell_identity_digest : Digest
  pattern_count : Int
  train_manifest_digest : Digest
  validation_manifest_digest : Digest
  locked_test_manifest_digest : Digest
  training_null_dwell_count : Int
  validation_null_dwell_count : Int
  validation_positive_dwell_count : Int
  locked_test_null_dwell_count : Int
  locked_test_positive_dwell_count : Int
  target_family_wise_false_alarm_rate : Num
  minimum_positive_detection_probability : Num
  confidence_level : Num
  minimum_temporal_maximum : Num
  minimum_qam_goodness_per_receiver : Num
  minimum_coherent_qam_receiver_count : Int
  statistic : PyStr := STATISTIC
  threshold_comparison : PyStr := THRESHOLD_COMPARISON
  threshold_selection : PyStr := THRESHOLD_SELECTION

/-- A finite number strictly between zero and one. -/
def requireOpenUnit (value : Num) (field : String) : Except PyError Unit :=
  checkAll [requireFinite value field,
    raiseIf (¬((Num.int 0).Lt value ∧ value.Lt (.int 1))) (.value (field ++ " must lie in (0,1)"))]

def Plan.Fields.post_init (p : Plan.Fields) : Except PyError Unit :=
  checkAll [
    raiseIf (p.schema.schema_id ≠ str "org.leo-flow.adaptive-starlink-calibration-plan" ∨ p.schema.version ≠ V0_1)
      (.value "unsupported adaptive calibration plan schema"),
    requireToken p.plan_id IsToken "plan_id",
    raiseIf (¬(1 ≤ p.pattern_count ∧ p.pattern_count ≤ MAXIMUM_CALIBRATION_PATTERNS))
      (.value "adaptive calibration pattern count is invalid"),
    raiseIf (p.training_null_dwell_count ≤ 0) (.value "training_null_dwell_count must be positive"),
    raiseIf (p.validation_null_dwell_count ≤ 0) (.value "validation_null_dwell_count must be positive"),
    raiseIf (p.validation_positive_dwell_count ≤ 0) (.value "validation_positive_dwell_count must be positive"),
    raiseIf (p.locked_test_null_dwell_count ≤ 0) (.value "locked_test_null_dwell_count must be positive"),
    raiseIf (p.locked_test_positive_dwell_count ≤ 0) (.value "locked_test_positive_dwell_count must be positive"),
    requireOpenUnit p.target_family_wise_false_alarm_rate "target_family_wise_false_alarm_rate",
    requireOpenUnit p.minimum_positive_detection_probability "minimum_positive_detection_probability",
    requireOpenUnit p.confidence_level "confidence_level",
    raiseIf (p.confidence_level.Le (.float (PyFloat.ofRatio false 1 2)))
      (.value "adaptive calibration confidence must exceed one half"),
    requireUnit p.minimum_temporal_maximum "minimum_temporal_maximum",
    requireUnit p.minimum_qam_goodness_per_receiver "minimum_qam_goodness_per_receiver",
    raiseIf (¬(0 ≤ p.minimum_coherent_qam_receiver_count ∧
        p.minimum_coherent_qam_receiver_count ≤ MAXIMUM_CALIBRATION_RECEIVERS))
      (.value "coherent QAM receiver gate is invalid"),
    raiseIf ((Num.int 0).Lt p.minimum_qam_goodness_per_receiver ∧ p.minimum_coherent_qam_receiver_count < 2)
      (.value "QAM gating requires coherent dual-RX evidence"),
    raiseIf (p.statistic ≠ STATISTIC) (.value "adaptive calibration must include every look-elsewhere axis"),
    raiseIf (p.threshold_comparison ≠ THRESHOLD_COMPARISON) (.value "adaptive calibration uses strict thresholds"),
    raiseIf (p.threshold_selection ≠ THRESHOLD_SELECTION)
      (.value "adaptive calibration order statistic is unsupported")]

/-- `AdaptiveCalibrationPlanV0_1` -/
abbrev Plan := Checked Plan.Fields.post_init

def Plan.toPy (p : Plan) : PyValue :=
  .dataclass "AdaptiveCalibrationPlanV0_1" [
    ("schema", p.val.schema.toPy),
    ("plan_id", .str p.val.plan_id),
    ("cell_identity_digest", p.val.cell_identity_digest.toPy),
    ("pattern_count", .int p.val.pattern_count),
    ("train_manifest_digest", p.val.train_manifest_digest.toPy),
    ("validation_manifest_digest", p.val.validation_manifest_digest.toPy),
    ("locked_test_manifest_digest", p.val.locked_test_manifest_digest.toPy),
    ("training_null_dwell_count", .int p.val.training_null_dwell_count),
    ("validation_null_dwell_count", .int p.val.validation_null_dwell_count),
    ("validation_positive_dwell_count", .int p.val.validation_positive_dwell_count),
    ("locked_test_null_dwell_count", .int p.val.locked_test_null_dwell_count),
    ("locked_test_positive_dwell_count", .int p.val.locked_test_positive_dwell_count),
    ("target_family_wise_false_alarm_rate", p.val.target_family_wise_false_alarm_rate.toValue),
    ("minimum_positive_detection_probability", p.val.minimum_positive_detection_probability.toValue),
    ("confidence_level", p.val.confidence_level.toValue),
    ("minimum_temporal_maximum", p.val.minimum_temporal_maximum.toValue),
    ("minimum_qam_goodness_per_receiver", p.val.minimum_qam_goodness_per_receiver.toValue),
    ("minimum_coherent_qam_receiver_count", .int p.val.minimum_coherent_qam_receiver_count),
    ("statistic", .str p.val.statistic),
    ("threshold_comparison", .str p.val.threshold_comparison),
    ("threshold_selection", .str p.val.threshold_selection)]

/-! ## Results -/

/-- `FittedAdaptiveCalibrationV0_1.SCHEMA_ID`, version 0.1 -/
def fitSchema : SchemaRef := ⟨str "org.leo-flow.fitted-adaptive-starlink-calibration", V0_1, by decide⟩

structure Fit.Fields where
  schema : SchemaRef
  fit_id : PyStr
  plan_digest : Digest
  train_manifest_digest : Digest
  threshold : Num
  threshold_descending_rank : Int
  minimum_resolvable_family_wise_far : Num
  training_dwell_count : Int
  training_threshold_exceedance_count : Int
  training_member_digests : List Digest
  training_group_digests : List Digest
  candidate_only : Bool

/-- `1 / n` of a positive integer. -/
def oneOver (n : Int) : Num := .float (PyFloat.ofRatio false 1 n.toNat)

/-- The digests are unique and sorted. -/
@[reducible] def Inventory (digests : List Digest) : Prop := digests = sortDigests digests.dedup

def Fit.Fields.post_init (f : Fit.Fields) : Except PyError Unit :=
  checkAll [
    raiseIf (f.schema ≠ fitSchema ∨ ¬str "sladfit_" <+: f.fit_id) (.value "invalid fitted adaptive calibration"),
    requireFinite f.threshold "threshold",
    raiseIf (¬InUnit f.threshold ∨ f.threshold_descending_rank ≤ 0 ∨
        f.threshold_descending_rank > f.training_dwell_count ∨ f.training_dwell_count ≤ 0 ∨
        ¬(0 ≤ f.training_threshold_exceedance_count ∧
          f.training_threshold_exceedance_count ≤ f.training_dwell_count) ∨
        f.training_threshold_exceedance_count ≥ f.threshold_descending_rank ∨
        ¬f.minimum_resolvable_family_wise_far.Eq (oneOver f.training_dwell_count) ∨
        (f.training_member_digests.length : Int) ≠ f.training_dwell_count ∨
        (f.training_group_digests.length : Int) ≠ f.training_dwell_count ∨
        ¬Inventory f.training_member_digests ∨ ¬Inventory f.training_group_digests)
      (.value "invalid training calibration counts"),
    raiseIf (f.candidate_only = false) (.value "training fit cannot authorize detections")]

/-- `FittedAdaptiveCalibrationV0_1` -/
abbrev Fit := Checked Fit.Fields.post_init

/-- The fields of a fit, apart from its threshold, around a value for that. -/
def Fit.toPyWith (f : Fit) (threshold : PyValue) : PyValue :=
  .dataclass "FittedAdaptiveCalibrationV0_1" [
    ("schema", f.val.schema.toPy),
    ("fit_id", .str f.val.fit_id),
    ("plan_digest", f.val.plan_digest.toPy),
    ("train_manifest_digest", f.val.train_manifest_digest.toPy),
    ("threshold", threshold),
    ("threshold_descending_rank", .int f.val.threshold_descending_rank),
    ("minimum_resolvable_family_wise_far", f.val.minimum_resolvable_family_wise_far.toValue),
    ("training_dwell_count", .int f.val.training_dwell_count),
    ("training_threshold_exceedance_count", .int f.val.training_threshold_exceedance_count),
    ("training_member_digests", .tuple (f.val.training_member_digests.map Digest.toPy)),
    ("training_group_digests", .tuple (f.val.training_group_digests.map Digest.toPy)),
    ("candidate_only", .bool f.val.candidate_only)]

def Fit.toPy (f : Fit) : PyValue := f.toPyWith f.val.threshold.toValue

structure SplitEvidence.Fields where
  split : Split
  manifest_digest : Digest
  threshold : Num
  null_dwell_count : Int
  null_family_wise_exceedance_count : Int
  null_far_upper_bound : Num
  positive_dwell_count : Int
  positive_detection_count : Int
  positive_detection_probability_lower_bound : Num
  member_digests : List Digest
  group_digests : List Digest
  accepted : Bool

def SplitEvidence.Fields.post_init (e : SplitEvidence.Fields) : Except PyError Unit :=
  checkAll [
    raiseIf (e.split = .train) (.value "held-out evidence cannot use the training split"),
    raiseIf (∃ c ∈ [(e.null_family_wise_exceedance_count, e.null_dwell_count),
        (e.positive_detection_count, e.positive_dwell_count)], c.2 ≤ 0 ∨ ¬(0 ≤ c.1 ∧ c.1 ≤ c.2))
      (.value "adaptive split evidence counts are invalid"),
    checkAll ([e.threshold, e.null_far_upper_bound, e.positive_detection_probability_lower_bound].map fun value =>
      checkAll [requireFinite value "adaptive split evidence value",
        raiseIf (¬InUnit value) (.value "adaptive split evidence values must lie in [0,1]")]),
    raiseIf ((e.member_digests.length : Int) ≠ e.null_dwell_count + e.positive_dwell_count ∨
        ¬Inventory e.member_digests ∨
        (e.group_digests.length : Int) ≠ e.null_dwell_count + e.positive_dwell_count ∨
        ¬Inventory e.group_digests)
      (.value "adaptive split member inventory is invalid")]

/-- `AdaptiveCalibrationSplitEvidenceV0_1` -/
abbrev SplitEvidence := Checked SplitEvidence.Fields.post_init

def SplitEvidence.toPyWith (e : SplitEvidence) (threshold : PyValue) : PyValue :=
  .dataclass "AdaptiveCalibrationSplitEvidenceV0_1" [
    ("split", .str e.val.split.value),
    ("manifest_digest", e.val.manifest_digest.toPy),
    ("threshold", threshold),
    ("null_dwell_count", .int e.val.null_dwell_count),
    ("null_family_wise_exceedance_count", .int e.val.null_family_wise_exceedance_count),
    ("null_far_upper_bound", e.val.null_far_upper_bound.toValue),
    ("positive_dwell_count", .int e.val.positive_dwell_count),
    ("positive_detection_count", .int e.val.positive_detection_count),
    ("positive_detection_probability_lower_bound", e.val.positive_detection_probability_lower_bound.toValue),
    ("member_digests", .tuple (e.val.member_digests.map Digest.toPy)),
    ("group_digests", .tuple (e.val.group_digests.map Digest.toPy)),
    ("accepted", .bool e.val.accepted)]

def SplitEvidence.toPy (e : SplitEvidence) : PyValue := e.toPyWith e.val.threshold.toValue

/-- `LockedAdaptiveCalibrationEvidenceV0_1.SCHEMA_ID`, version 0.1 -/
def lockedSchema : SchemaRef := ⟨str "org.leo-flow.locked-adaptive-starlink-calibration-evidence", V0_1, by decide⟩

/-- `required` warnings -/
def WARNINGS : List PyStr := [
  str "whole-search-family-wise-maxima",
  str "qin-and-surrogates-treated-symmetrically-under-null",
  str "zero-candidate-null-dwells-retained",
  str "locked-test-must-be-evaluated-once",
  str "binomial-confidence-bounds-not-p-values"]

structure LockedEvidence.Fields where
  schema : SchemaRef
  evidence_id : PyStr
  plan_digest : Digest
  fit_digest : Digest
  validation : SplitEvidence
  locked_test : SplitEvidence
  calibrated_decision_eligible : Bool
  candidate_only : Bool
  warnings : List PyStr

def LockedEvidence.Fields.post_init (e : LockedEvidence.Fields) : Except PyError Unit :=
  raiseIf (e.schema ≠ lockedSchema ∨ ¬str "sladlocked_" <+: e.evidence_id ∨ e.validation.val.split ≠ .validation ∨
      e.locked_test.val.split ≠ .locked_test ∨
      e.calibrated_decision_eligible ≠ (e.validation.val.accepted && e.locked_test.val.accepted) ∨
      e.candidate_only = e.calibrated_decision_eligible ∨ ¬∀ w ∈ WARNINGS, w ∈ e.warnings)
    (.value "invalid locked adaptive calibration evidence")

/-- `LockedAdaptiveCalibrationEvidenceV0_1` -/
abbrev LockedEvidence := Checked LockedEvidence.Fields.post_init

/-! ## Assembled inputs -/

/-- `complete_search_axes` -/
def SEARCH_AXES : List PyStr := [str "declared-time-windows", str "coarse-cfo", str "residual-cfo", str "epoch"]

structure AssembledInput.Fields where
  schema : SchemaRef
  assembly_spec_digest : Digest
  split_manifest_digest : Digest
  response_bundle_digest : Digest
  qam_bundle_digest : Option Digest
  search_identity_digest : Digest
  pattern_template_digests : List Digest
  dwell : Dwell
  complete_search_axes : List PyStr
  score_correction : PyStr
  candidate_only : Bool

def AssembledInput.Fields.post_init (i : AssembledInput.Fields) : Except PyError Unit :=
  raiseIf (i.schema.schema_id ≠ str "org.leo-flow.assembled-adaptive-calibration-input" ∨ i.schema.version ≠ V0_1 ∨
      i.complete_search_axes ≠ SEARCH_AXES ∨ i.score_correction ≠ str "none" ∨ i.candidate_only = false ∨
      i.pattern_template_digests = [] ∨ i.pattern_template_digests.length ≠ i.dwell.val.patterns.length)
    (.value "assembled adaptive calibration input is invalid")

/-- `AssembledAdaptiveCalibrationInputV0_1` -/
abbrev AssembledInput := Checked AssembledInput.Fields.post_init

end AdaptiveCalibration

end LeoFlow
