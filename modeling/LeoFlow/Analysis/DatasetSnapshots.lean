import LeoFlow.Analysis.Dataset
import LeoFlow.Capture.Campaign
import LeoFlow.Contracts.Features

/-!
# LeoFlow.Analysis.DatasetSnapshots — published datasets and threshold rules

`DatasetSnapshotBundle` of `analysis/dataset/snapshot.py` with the `FeatureDatasetSnapshot`
of `contracts/model.py` under it, and the `ThresholdRule` of `analysis/recording/decisions.py`.
-/

namespace LeoFlow

/-! ## Labels as `canonical_digest` sees them -/

def LabelEvidence.toPy (e : LabelEvidence) : PyValue :=
  .dataclass "LabelEvidence" [
    ("source", .str e.val.source.value),
    ("evidence_digest", e.val.evidence_digest.toPy),
    ("producer_id", .str e.val.producer_id),
    ("produced_utc_ns", .int e.val.produced_utc_ns),
    ("independent_of_method_ids", .tuple (e.val.independent_of_method_ids.map .str)),
    ("uncertainty", .tuple (e.val.uncertainty.map fun x => .tuple [.str x.1, .str x.2])),
    ("base_recording_digest", optionToPy Digest.toPy e.val.base_recording_digest),
    ("injection_spec_digest", optionToPy Digest.toPy e.val.injection_spec_digest)]

def TruthLabel.toPy (t : TruthLabel) : PyValue :=
  .dataclass "TruthLabel" [
    ("target_present", optionToPy .bool t.val.target_present),
    ("source", .str t.val.source.value),
    ("evidence", .tuple (t.val.evidence.map LabelEvidence.toPy)),
    ("confidence", optionToPy .float t.val.confidence)]

/-! ## Members -/

/-- `DatasetRole` -/
inductive DatasetRole where
  | scored_truth
  | context_only
deriving DecidableEq

/-- `role.value` -/
def DatasetRole.value : DatasetRole → PyStr
  | scored_truth => str "scored_truth"
  | context_only => str "context_only"

structure DatasetMember.Fields where
  feature_set_ref : FeatureSetRef
  split_group_id : PyStr
  split : DatasetSplit
  role : DatasetRole
  truth : TruthLabel

def DatasetMember.Fields.post_init (m : DatasetMember.Fields) : Except PyError Unit :=
  raiseIf (m.split_group_id = [] ∨ ∃ c ∈ m.split_group_id, IsWhitespace c)
    (.value "split_group_id must be a token")

/-- `DatasetMember` -/
abbrev DatasetMember := Checked DatasetMember.Fields.post_init

namespace DatasetMember

/-- `str(member.feature_set_ref.feature_set_id)` -/
def feature_id (m : DatasetMember) : PyStr := m.val.feature_set_ref.feature_set_id.value

/-- `_member_identity` -/
def identity (m : DatasetMember) : PyValue :=
  .object [
    ("feature_set_id", .str m.feature_id),
    ("analysis_run_id", .str m.val.feature_set_ref.analysis_run_id.value),
    ("bundle_digest", .str m.val.feature_set_ref.bundle_ref.digest.toStr),
    ("split_group_id", .str m.val.split_group_id),
    ("split", .str m.val.split.value),
    ("role", .str m.val.role.value),
    ("truth", TruthLabel.toPy m.val.truth)]

end DatasetMember

/-! ## Snapshots -/

/-- `feature_dataset_membership_digest` -/
def featureDatasetMembershipDigest (refs : List FeatureSetRef) : Except PyError Digest :=
  canonicalDigest (.list (refs.map fun ref => .object [
    ("feature_set_id", .str ref.feature_set_id.value),
    ("analysis_run_id", .str ref.analysis_run_id.value),
    ("bundle_digest", .str ref.bundle_ref.digest.toStr)]))

structure FeatureDatasetSnapshot.Fields where
  schema : SchemaRef
  snapshot_id : DatasetSnapshotId
  ordered_feature_set_refs : List FeatureSetRef
  selection_spec : PyStr
  selection_cutoff_utc_ns : Int
  membership_digest : Digest

/-- `SCHEMA_ID` -/
def FeatureDatasetSnapshot.SCHEMA_ID : PyStr := str "org.leo-flow.feature-dataset-snapshot"

def FeatureDatasetSnapshot.Fields.post_init (s : FeatureDatasetSnapshot.Fields) : Except PyError Unit := do
  checkAll [
    raiseIf (s.schema.schema_id ≠ FeatureDatasetSnapshot.SCHEMA_ID ∨ s.schema.version ≠ V0_1)
      (.value "unsupported dataset snapshot schema"),
    requireUtcNs s.selection_cutoff_utc_ns "selection_cutoff_utc_ns",
    raiseIf (s.ordered_feature_set_refs = []) (.value "dataset snapshot cannot be empty"),
    raiseIf (¬(s.ordered_feature_set_refs.map FeatureSetRef.feature_set_id).Nodup)
      (.value "dataset membership must be unique")]
  let digest ← featureDatasetMembershipDigest s.ordered_feature_set_refs
  raiseIf (s.membership_digest ≠ digest)
    (.value "membership_digest does not match ordered feature-set membership")

/-- `FeatureDatasetSnapshot` -/
abbrev FeatureDatasetSnapshot := Checked FeatureDatasetSnapshot.Fields.post_init

/-- `dataset_snapshot_digest` -/
def datasetSnapshotDigest (feature_dataset : FeatureDatasetSnapshot) (evaluated_method_id : PyStr)
    (members : List DatasetMember) (promoted : Bool) (promotion_warnings : List PyStr) : Except PyError Digest :=
  canonicalDigest (.object [
    ("feature_membership_digest", .str feature_dataset.val.membership_digest.toStr),
    ("selection_spec", .str feature_dataset.val.selection_spec),
    ("selection_cutoff_utc_ns", .int feature_dataset.val.selection_cutoff_utc_ns),
    ("evaluated_method_id", .str evaluated_method_id),
    ("members", .list (members.map DatasetMember.identity)),
    ("promoted", .bool promoted),
    ("promotion_warnings", .tuple (promotion_warnings.map .str))])

structure DatasetSnapshotBundle.Fields where
  schema : SchemaRef
  feature_dataset : FeatureDatasetSnapshot
  evaluated_method_id : PyStr
  members : List DatasetMember
  snapshot_digest : Digest
  promoted : Bool
  promotion_warnings : List PyStr

/-- `SCHEMA_ID` -/
def DatasetSnapshotBundle.SCHEMA_ID : PyStr := str "org.leo-flow.dataset-snapshot-bundle"

def DatasetSnapshotBundle.Fields.post_init (s : DatasetSnapshotBundle.Fields) : Except PyError Unit := do
  checkAll [
    raiseIf (s.schema.schema_id ≠ DatasetSnapshotBundle.SCHEMA_ID ∨ s.schema.version ≠ V0_1)
      (.value "unsupported durable dataset snapshot schema"),
    raiseIf (s.evaluated_method_id = [] ∨ ∃ c ∈ s.evaluated_method_id, IsWhitespace c)
      (.value "evaluated_method_id must be a token"),
    raiseIf (s.members = []) (.value "dataset snapshot cannot be empty"),
    raiseIf (s.members.map (fun m => m.val.feature_set_ref) ≠ s.feature_dataset.val.ordered_feature_set_refs)
      (.value "rich members do not match model feature membership"),
    raiseIf (∃ a ∈ s.members, ∃ b ∈ s.members,
        a.val.split_group_id = b.val.split_group_id ∧ a.val.split ≠ b.val.split)
      (.value "one split group cannot cross partitions"),
    raiseIf (s.promoted ≠ s.promotion_warnings.isEmpty) (.value "promotion state and warnings disagree")]
  let digest ← datasetSnapshotDigest s.feature_dataset s.evaluated_method_id s.members s.promoted s.promotion_warnings
  raiseIf (s.snapshot_digest ≠ digest) (.value "snapshot digest does not match durable membership")

/-- `DatasetSnapshotBundle` -/
abbrev DatasetSnapshotBundle := Checked DatasetSnapshotBundle.Fields.post_init

/-- The feature sets of a snapshot are distinct. -/
theorem DatasetSnapshotBundle.nodup_feature_ids (dataset : DatasetSnapshotBundle) :
    (dataset.val.members.map DatasetMember.feature_id).Nodup := by
  rcases bind_ok.1 dataset.ok with ⟨_, hchecks, _⟩
  rcases bind_ok.1 dataset.val.feature_dataset.ok with ⟨_, hmodel, _⟩
  have hrefs := not_not.1 (raiseIf_ok.1 (checkAll_cons.1 (checkAll_cons.1 (checkAll_cons.1
    (checkAll_cons.1 hchecks).2).2).2).1)
  have hunique := not_not.1 (raiseIf_ok.1 (checkAll_cons.1 (checkAll_cons.1 (checkAll_cons.1
    (checkAll_cons.1 hmodel).2).2).2).1)
  rw [← hrefs, List.map_map] at hunique
  have hinjective : Function.Injective (ContractId.value : FeatureSetId → PyStr) := by
    intro a b h
    cases a
    cases b
    cases h
    rfl
  have hvalues := hunique.map hinjective
  rwa [List.map_map] at hvalues

/-! ## Threshold rules -/

structure ThresholdRule.Fields where
  rule_id : PyStr
  calibration_dataset_id : PyStr
  thresholds : List (PyStr × Num)

def ThresholdRule.Fields.post_init (r : ThresholdRule.Fields) : Except PyError Unit :=
  checkAll [
    raiseIf (r.rule_id = [] ∨ r.calibration_dataset_id = [])
      (.value "threshold rule identity and calibration dataset are required"),
    raiseIf (r.thresholds = [] ∨ ¬(r.thresholds.map Prod.fst).Nodup)
      (.value "threshold method identities must be non-empty and unique"),
    raiseIf (∃ x ∈ r.thresholds, ¬x.2.Finite) (.value "thresholds must be finite")]

/-- `ThresholdRule` -/
abbrev ThresholdRule := Checked ThresholdRule.Fields.post_init

namespace ThresholdRule

def toPy (r : ThresholdRule) : PyValue :=
  .dataclass "ThresholdRule" [
    ("rule_id", .str r.val.rule_id),
    ("calibration_dataset_id", .str r.val.calibration_dataset_id),
    ("thresholds", .tuple (r.val.thresholds.map fun x => .tuple [.str x.1, x.2.toValue]))]

/-- `dict(rule.thresholds).get(method)` -/
def threshold (r : ThresholdRule) (method : PyStr) : Option Num := (dictGet (·.1) r.val.thresholds method).map (·.2)

/-- `sorted(thresholds)` -/
def method_ids (r : ThresholdRule) : List PyStr := (r.val.thresholds.map Prod.fst).insertionSort (· ≤ ·)

theorem mem_method_ids {r : ThresholdRule} {method : PyStr} :
    method ∈ r.method_ids ↔ ∃ value, r.threshold method = some value := by
  unfold method_ids threshold
  rw [List.mem_insertionSort, List.mem_map]
  constructor
  · rintro ⟨x, hx, rfl⟩
    have hunique : (r.val.thresholds.map Prod.fst).Nodup := by
      have hok := r.ok
      simp only [ThresholdRule.Fields.post_init, checkAll_cons, checkAll_nil, raiseIf_ok] at hok
      by_contra hdup
      exact hok.2.1 (.inr hdup)
    exact ⟨x.2, by rw [dictGet_of_mem hunique hx]; rfl⟩
  · rintro ⟨value, h⟩
    rcases Option.map_eq_some_iff.1 h with ⟨x, hx, _⟩
    exact ⟨x, (dictGet_some hx).1, (dictGet_some hx).2⟩

end ThresholdRule

end LeoFlow
