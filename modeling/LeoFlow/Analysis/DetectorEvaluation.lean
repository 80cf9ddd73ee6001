import LeoFlow.Analysis.DatasetSnapshots
import LeoFlow.Core.Moments
import LeoFlow.Core.Table

/-!
# LeoFlow.Analysis.DetectorEvaluation — detector reports over a frozen dataset

`evaluate_detectors` of `analysis/dataset/evaluation.py`. One pass over the feature sets
collects the rows (windows, with the methods that scored them); the report is then a
function of the members and the rows. Sets and dictionaries are Mathlib's finite sets and
the tables of `Core/Table`.
-/

namespace LeoFlow

namespace DetectorEvaluation

/-! ## Rows -/

/-- `_Window` -/
structure Window where
  feature_set_id : PyStr
  split : DatasetSplit
  segment_id : PyStr
  receiver_key : PyStr
  start : Int
  stop : Int
deriving DecidableEq

/-- An item of `rows`: a window, and for each method that scored it whether it fired. -/
abbrev Row := (_ : Window) × Table PyStr Bool

/-- `defaultdict(set)` -/
abbrev SetTable := Table PyStr (Finset PyStr)

/-- `sets.get(key, set())` -/
def SetTable.get (sets : SetTable) (key : PyStr) : Finset PyStr := (sets.lookup key).getD ∅

/-- `sets[key].add(item)` -/
def SetTable.add (sets : SetTable) (key item : PyStr) : SetTable := sets.insert key (insert item (sets.get key))

/-- What the pass over the feature sets collects. -/
structure Tally where
  rows : Table Window (Table PyStr Bool) := ∅
  present_by_feature : SetTable := ∅
  fired_by_feature : SetTable := ∅
  semantics : SetTable := ∅

/-- One score against its threshold. -/
structure Firing where
  window : Window
  method : PyStr
  fired : Bool
  score_semantics : PyStr

/-- `_method_identity` -/
def methodIdentity (score : MethodScore) : PyStr := score.val.method_id ++ str "@" ++ score.val.method_version

/-- The window of a score. -/
def windowOf (feature_id : PyStr) (member : DatasetMember) (score : MethodScore) : Window where
  feature_set_id := feature_id
  split := member.val.split
  segment_id := score.val.segment_id.value
  receiver_key := score.val.receiver_key
  start := score.val.window_start_sample
  stop := score.val.window_stop_sample

def firingOf (rule : ThresholdRule) (feature_id : PyStr) (member : DatasetMember) (score : MethodScore) :
    Except PyError Firing :=
  match rule.threshold (methodIdentity score) with
  | none => .error (.value "threshold rule has no entry for a method")
  | some threshold => .ok {
      window := windowOf feature_id member score
      method := methodIdentity score
      fired := threshold.Le score.val.score
      score_semantics := score.val.score_semantics }

/-- `rows[key]` -/
def Tally.row (t : Tally) (window : Window) : Table PyStr Bool := (t.rows.lookup window).getD ∅

def Tally.record (t : Tally) (f : Firing) : Except PyError Tally := do
  raiseIf ((t.row f.window).lookup f.method ≠ none) (.value "duplicate method score for shared window")
  return {
    rows := t.rows.insert f.window ((t.row f.window).insert f.method f.fired)
    present_by_feature := t.present_by_feature.add f.window.feature_set_id f.method
    semantics := t.semantics.add f.method f.score_semantics
    fired_by_feature :=
      if f.fired then t.fired_by_feature.add f.window.feature_set_id f.method else t.fired_by_feature }

/-- `_verify_feature_set` -/
def verifyFeatureSet (member : DatasetMember) (bundle : FeatureSetBundle) : Except PyError Unit := do
  let ref := member.val.feature_set_ref
  raiseIf (bundle.val.feature_set_id ≠ ref.feature_set_id)
    (.value "FeatureSet ID does not match frozen dataset membership")
  raiseIf (bundle.val.analysis_run_id ≠ ref.analysis_run_id)
    (.value "analysis run does not match frozen dataset membership")
  let digest ← canonicalDigest bundle.toPy
  raiseIf (digest ≠ ref.bundle_ref.digest) (.value "FeatureSet bytes do not match frozen dataset digest")

/-- A dictionary has the key. -/
def present {α : Type} (value : Option α) : Except PyError α :=
  match value with
  | some value => .ok value
  | none => .error ⟨.key_error, ""⟩

section Evaluation

variable (dataset : DatasetSnapshotBundle) (feature_sets : Table PyStr FeatureSetBundle) (rule : ThresholdRule)

/-- `member_by_feature.get(feature_id)` -/
def memberByFeature (feature_id : PyStr) : Option DatasetMember :=
  dictGet DatasetMember.feature_id dataset.val.members feature_id

/-- One round of the pass. -/
def collectFeature (t : Tally) (feature_id : PyStr) : Except PyError Tally := do
  let bundle ← present (feature_sets.lookup feature_id)
  let member ← present (memberByFeature dataset feature_id)
  verifyFeatureSet member bundle
  bundle.val.method_scores.foldlM (fun t score => do
    let f ← firingOf rule feature_id member score
    t.record f) t

/-- The pass over the feature sets. -/
def collect : Except PyError Tally :=
  (feature_sets.keys.insertionSort (· ≤ ·)).foldlM (collectFeature dataset feature_sets rule) {}

end Evaluation

/-! ## Association -/

structure MethodAssociationReport where
  method_ids : List PyStr
  firing_covariance : List (List (Option PyFloat))
  phi : List (List (Option PyFloat))
  shared_window_count : List (List Nat)
  shared_sample_count : List (List Int)
  method_present_window_count : List Nat
  union_window_count : Nat
  missing_window_count : List Int

/-- `shared`: the rows that both methods scored. -/
def sharedRows (rows : List Row) (left right : PyStr) : List (Window × Bool × Bool) :=
  rows.filterMap fun row =>
    match row.2.lookup left, row.2.lookup right with
    | some left_value, some right_value => some (row.1, left_value, right_value)
    | _, _ => none

/-- `cov / math.sqrt(left_var * right_var) if left_var and right_var else None` -/
def phi (m : Moments PyFloat) : Except PyError (Option PyFloat) :=
  if m.left_var.IsZero ∨ m.right_var.IsZero then .ok none
  else do
    let root ← PyFloat.sqrt (m.left_var.mul m.right_var)
    if root.IsZero then .error Num.zeroDivisionError else .ok (some (m.cov.div root))

/-- Covariance and phi of two methods. -/
def pairStatistics (shared : List (Bool × Bool)) : Except PyError (Option PyFloat × Option PyFloat) :=
  if shared = [] then .ok (none, none)
  else do
    let m ← floats.moments shared
    let p ← phi m
    return (some m.cov, p)

/-- The rows that the method scored. -/
def presentCount (rows : List Row) (method : PyStr) : Nat := rows.countP fun row => row.2.lookup method ≠ none

/-- A matrix over the methods. -/
def matrix {α : Type} (method_ids : List PyStr) (cell : PyStr → PyStr → α) : List (List α) :=
  method_ids.map fun left => method_ids.map fun right => cell left right

/-- `_association` -/
def association (rows : List Row) (method_ids : List PyStr) : Except PyError MethodAssociationReport := do
  let statistics ← method_ids.mapM fun left => method_ids.mapM fun right =>
    pairStatistics ((sharedRows rows left right).map (·.2))
  return {
    method_ids
    firing_covariance := statistics.map fun row => row.map (·.1)
    phi := statistics.map fun row => row.map (·.2)
    shared_window_count := matrix method_ids fun left right => (sharedRows rows left right).length
    shared_sample_count := matrix method_ids fun left right =>
      ((sharedRows rows left right).map fun x => x.1.stop - x.1.start).sum
    method_present_window_count := method_ids.map (presentCount rows)
    union_window_count := rows.length
    missing_window_count := method_ids.map fun method => (rows.length : Int) - presentCount rows method }

/-! ## Truth -/

/-- `truth_counts` -/
structure TruthCounts where
  context : Nat := 0
  inadmissible : Nat := 0
  missing : Nat := 0
  tp : Nat := 0
  fn : Nat := 0
  fp : Nat := 0
  tn : Nat := 0

structure BinaryClassificationCounts where
  true_positive : Nat
  false_positive : Nat
  true_negative : Nat
  false_negative : Nat
  admissible_truth_count : Nat
  scored_prediction_count : Nat
  missing_prediction_count : Nat
  inadmissible_truth_count : Nat
  context_only_count : Nat

/-- `Counter`, read out -/
def TruthCounts.report (c : TruthCounts) : BinaryClassificationCounts :=
  let scored := c.tp + c.fp + c.tn + c.fn
  { true_positive := c.tp
    false_positive := c.fp
    true_negative := c.tn
    false_negative := c.fn
    admissible_truth_count := scored + c.missing
    scored_prediction_count := scored
    missing_prediction_count := c.missing
    inadmissible_truth_count := c.inadmissible
    context_only_count := c.context }

/-- What one member counts as. -/
def countMember (tally : Tally) (method : PyStr) (c : TruthCounts) (member : DatasetMember) :
    Except PyError TruthCounts :=
  if member.val.role = .context_only then .ok { c with context := c.context + 1 }
  else if ¬member.val.truth.UsableAsTruthFor method then .ok { c with inadmissible := c.inadmissible + 1 }
  else if method ∉ tally.present_by_feature.get member.feature_id then .ok { c with missing := c.missing + 1 }
  else
    let predicted := decide (method ∈ tally.fired_by_feature.get member.feature_id)
    match member.val.truth.val.target_present with
    | some true => .ok (if predicted then { c with tp := c.tp + 1 } else { c with fn := c.fn + 1 })
    | some false => .ok (if predicted then { c with fp := c.fp + 1 } else { c with tn := c.tn + 1 })
    | none => .error (.value "admissible truth has no target")

structure SplitMethodReport where
  split : PyStr
  feature_set_count : Nat
  feature_set_present_count : Nat
  union_window_count : Nat
  present_window_count : Nat
  missing_window_count : Int
  firing_count : Nat
  truth : BinaryClassificationCounts

/-- The rows of a split. -/
def rowsIn (split : DatasetSplit) (rows : List Row) : List Row := rows.filter fun row => row.1.split = split

/-- The members of a split. -/
def membersIn (split : DatasetSplit) (members : List DatasetMember) : List DatasetMember :=
  members.filter fun member => member.val.split = split

/-- `_split_method_report` -/
def splitMethodReport (members : List DatasetMember) (tally : Tally) (method : PyStr) (split : DatasetSplit) :
    Except PyError SplitMethodReport := do
  let split_members := membersIn split members
  let split_rows := rowsIn split tally.rows.entries
  let present_windows := presentCount split_rows method
  let truth_counts ← split_members.foldlM (countMember tally method) {}
  return {
    split := split.value
    feature_set_count := split_members.length
    feature_set_present_count :=
      split_members.countP fun member => method ∈ tally.present_by_feature.get member.feature_id
    union_window_count := split_rows.length
    present_window_count := present_windows
    missing_window_count := (split_rows.length : Int) - present_windows
    firing_count := split_rows.countP fun row => row.2.lookup method = some true
    truth := truth_counts.report }

/-! ## The report -/

structure MethodEvaluation where
  method_id : PyStr
  threshold : Num
  score_semantics : Option PyStr
  by_split : List SplitMethodReport

structure SplitAssociationReport where
  split : PyStr
  association : MethodAssociationReport

/-- `DetectorEvaluationReport`; its schema is always the same. -/
structure DetectorEvaluationReport where
  schema : SchemaRef := ⟨str "org.leo-flow.detector-evaluation-report", V0_1, by decide⟩
  dataset_snapshot_id : PyStr
  dataset_snapshot_digest : Digest
  feature_membership_digest : Digest
  threshold_rule_id : PyStr
  threshold_rule_digest : Digest
  threshold_calibration_dataset_id : PyStr
  threshold_calibration_split : PyStr
  methods : List MethodEvaluation
  overall_association : MethodAssociationReport
  association_by_split : List SplitAssociationReport
  warnings : List PyStr

/-- The evaluation of one method. -/
def methodEvaluation (members : List DatasetMember) (rule : ThresholdRule) (tally : Tally) (method : PyStr) :
    Except PyError MethodEvaluation := do
  let threshold ← present (rule.threshold method)
  let by_split ← DatasetSplit.all.mapM (splitMethodReport members tally method)
  return {
    method_id := method
    threshold
    -- at most one is there
    score_semantics := ((tally.semantics.get method).sort (· ≤ ·)).head?
    by_split }

/-- `evaluate_detectors` -/
def evaluate_detectors (dataset : DatasetSnapshotBundle) (feature_sets : Table PyStr FeatureSetBundle)
    (rule : ThresholdRule) (threshold_calibration_split : DatasetSplit := .train) :
    Except PyError DetectorEvaluationReport := do
  raiseIf (threshold_calibration_split ≠ .train) (.value "threshold calibration is restricted to the train split")
  raiseIf (¬(rule.val.thresholds.map Prod.fst).Nodup) (.value "threshold method identities must be unique")
  raiseIf (feature_sets.keys.toFinset ≠ (dataset.val.members.map DatasetMember.feature_id).toFinset)
    (.value "FeatureSet membership differs")
  let tally ← collect dataset feature_sets rule
  raiseIf (∃ method ∈ rule.method_ids, 1 < (tally.semantics.get method).card)
    (.value "one method identity has multiple score semantics")
  let association_by_split ← DatasetSplit.all.mapM fun split => do
    let report ← association (rowsIn split tally.rows.entries) rule.method_ids
    return ({ split := split.value, association := report } : SplitAssociationReport)
  let overall_association ← association tally.rows.entries rule.method_ids
  let methods ← rule.method_ids.mapM (methodEvaluation dataset.val.members rule tally)
  let threshold_rule_digest ← canonicalDigest rule.toPy
  return {
    dataset_snapshot_id := dataset.val.feature_dataset.val.snapshot_id.value
    dataset_snapshot_digest := dataset.val.snapshot_digest
    feature_membership_digest := dataset.val.feature_dataset.val.membership_digest
    threshold_rule_id := rule.val.rule_id
    threshold_rule_digest
    threshold_calibration_dataset_id := rule.val.calibration_dataset_id
    threshold_calibration_split := threshold_calibration_split.value
    methods
    overall_association
    association_by_split
    warnings := dataset.val.promotion_warnings ++
      [str "calibration-dataset-split-membership-is-operator-attested"] ++
      if ∀ row ∈ feature_sets.entries, row.2.val.method_scores = [] then [str "no-method-scores"] else [] }

end DetectorEvaluation

end LeoFlow
