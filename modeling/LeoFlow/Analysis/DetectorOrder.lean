import LeoFlow.Analysis.DetectorReport
import LeoFlow.Contracts.Renderable
import LeoFlow.Contracts.Samples

/-!
# LeoFlow.Analysis.DetectorOrder — the order of feature sets and scores

A detector report depends neither on the order of the mapping nor on the order of the
scores inside a bundle. Reordered scores have other bytes, so then the dataset pins other
digests; the report is the same but for the identities of the dataset.
-/

namespace LeoFlow

namespace DetectorEvaluation

/-- The same bundle with its scores in another order. -/
structure ReorderedBundle (b b' : FeatureSetBundle) : Prop where
  scores : b.val.method_scores.Perm b'.val.method_scores
  rest : { b'.val with method_scores := b.val.method_scores } = b.val

/-- The same member with a reference to other bytes. -/
def Repinned (m m' : DatasetMember) : Prop :=
  { m'.val with feature_set_ref :=
    { m'.val.feature_set_ref with bundle_ref := m.val.feature_set_ref.bundle_ref } } = m.val

/-- The same dataset and feature sets, with scores in another order and pinned in it. -/
structure Reordered (dataset : DatasetSnapshotBundle) (feature_sets : Table PyStr FeatureSetBundle)
    (dataset' : DatasetSnapshotBundle) (feature_sets' : Table PyStr FeatureSetBundle) : Prop where
  members : List.Forall₂ Repinned dataset.val.members dataset'.val.members
  warnings : dataset'.val.promotion_warnings = dataset.val.promotion_warnings
  bundles : ∀ id, Option.Rel ReorderedBundle (feature_sets.lookup id) (feature_sets'.lookup id)
  pinned : ∀ id bundle member, feature_sets'.lookup id = some bundle → memberByFeature dataset' id = some member →
    canonicalDigest bundle.toPy = .ok member.val.feature_set_ref.bundle_ref.digest

/-- The report but for the identities of the dataset. -/
def SameButIdentities (report report' : DetectorEvaluationReport) : Prop :=
  report' = { report with
    dataset_snapshot_id := report'.dataset_snapshot_id
    dataset_snapshot_digest := report'.dataset_snapshot_digest
    feature_membership_digest := report'.feature_membership_digest }

section Members

variable {tally tally' : Tally} {method : PyStr} {split : DatasetSplit} {m m' : DatasetMember}
  {members members' : List DatasetMember} {rule : ThresholdRule}

theorem Repinned.same (h : Repinned m m') : SameMember m m' where
  feature_id := by
    have hid := congrArg (fun f : DatasetMember.Fields => f.feature_set_ref.feature_set_id.value) h
    exact hid
  split := by
    have hsplit := congrArg DatasetMember.Fields.split h
    exact hsplit
  role := by
    have hrole := congrArg DatasetMember.Fields.role h
    exact hrole
  truth := by
    have htruth := congrArg DatasetMember.Fields.truth h
    exact htruth

theorem countMember_fold (hmembers : List.Forall₂ SameMember members members') (h : Agree tally tally')
    (c : TruthCounts) :
    members'.foldlM (countMember tally' method) c = members.foldlM (countMember tally method) c := by
  induction hmembers generalizing c with
  | nil => rfl
  | cons hmember _ ih =>
    rw [List.foldlM_cons, List.foldlM_cons, countMember_congr hmember h]
    exact bind_congr fun u => ih u

theorem membersIn_same (hmembers : List.Forall₂ SameMember members members') :
    List.Forall₂ SameMember (membersIn split members) (membersIn split members') := by
  unfold membersIn
  induction hmembers with
  | nil => exact .nil
  | @cons m m' _ _ hmember _ ih =>
    rw [List.filter_cons, List.filter_cons, hmember.split]
    split
    · exact .cons hmember ih
    · exact ih

theorem countP_present (hmembers : List.Forall₂ SameMember members members') (h : Agree tally tally') :
    (members'.countP fun m => method ∈ tally'.present_by_feature.get m.feature_id) =
      members.countP fun m => method ∈ tally.present_by_feature.get m.feature_id := by
  induction hmembers with
  | nil => rfl
  | cons hmember _ ih => rw [List.countP_cons, List.countP_cons, ih, hmember.feature_id, h.present]

theorem splitMethodReport_agree (hmembers : List.Forall₂ SameMember members members') (h : Agree tally tally') :
    splitMethodReport members' tally' method split = splitMethodReport members tally method split := by
  have hrows : SameRows (rowsIn split tally.rows.entries) (rowsIn split tally'.rows.entries) := h.sameRows.rowsIn
  have hsame : List.Forall₂ SameMember (membersIn split members) (membersIn split members') := membersIn_same hmembers
  unfold splitMethodReport
  dsimp only
  rw [countMember_fold hsame h]
  refine bind_congr fun c => ?_
  rw [countP_present hsame h, ← hrows.length, ← hrows.present, ← hrows.firing, hsame.length_eq]

theorem methodEvaluation_agree (hmembers : List.Forall₂ SameMember members members') (h : Agree tally tally') :
    methodEvaluation members' rule tally' method = methodEvaluation members rule tally method := by
  have hsplits : splitMethodReport members' tally' method = splitMethodReport members tally method :=
    funext fun split => splitMethodReport_agree hmembers h
  unfold methodEvaluation
  rw [hsplits, h.semantics]

end Members

section Reordered

variable {dataset dataset' : DatasetSnapshotBundle} {feature_sets feature_sets' : Table PyStr FeatureSetBundle}
  {rule : ThresholdRule} {tally : Tally} {id : PyStr} {calibration_split : DatasetSplit}
  {report : DetectorEvaluationReport}

theorem Reordered.ids (h : Reordered dataset feature_sets dataset' feature_sets') :
    dataset'.val.members.map DatasetMember.feature_id = dataset.val.members.map DatasetMember.feature_id :=
  map_of_forall₂ h.members fun _ _ hmember => hmember.same.feature_id

theorem Reordered.keys (h : Reordered dataset feature_sets dataset' feature_sets') :
    feature_sets.keys.Perm feature_sets'.keys := by
  refine (List.perm_ext_iff_of_nodup feature_sets.keys_nodup feature_sets'.keys_nodup).2 fun id => ?_
  rw [← AList.mem_keys, ← AList.mem_keys, ← AList.lookup_isSome, ← AList.lookup_isSome]
  have hrel := h.bundles id
  generalize feature_sets.lookup id = value at hrel ⊢
  generalize feature_sets'.lookup id = value' at hrel ⊢
  cases hrel with
  | none => rfl
  | some _ => rfl

/-- The same keys are sorted the same. -/
theorem sorted_keys (h : feature_sets.keys.Perm feature_sets'.keys) :
    feature_sets'.keys.insertionSort (· ≤ ·) = feature_sets.keys.insertionSort (· ≤ ·) := by
  refine List.Perm.eq_of_pairwise (fun _ _ _ _ hab hba => le_antisymm hab hba)
    (List.pairwise_insertionSort _ _) (List.pairwise_insertionSort _ _) ?_
  exact (List.perm_insertionSort _ _).trans (h.symm.trans (List.perm_insertionSort _ _).symm)

/-- The member of a feature set is there again. -/
theorem Reordered.member (h : Reordered dataset feature_sets dataset' feature_sets') {member : DatasetMember}
    (hmember : memberByFeature dataset id = some member) :
    ∃ member', memberByFeature dataset' id = some member' ∧ Repinned member member' := by
  rcases dictGet_some hmember with ⟨hmem, hid⟩
  rcases Json.exists_mem_of_forall₂ h.members hmem with ⟨member', hmem', hrepinned⟩
  have hfound := dictGet_of_mem dataset'.nodup_feature_ids hmem'
  rw [hrepinned.same.feature_id, hid] at hfound
  exact ⟨member', hfound, hrepinned⟩

/-- Its firings are the same, in another order. -/
theorem Reordered.firings (h : Reordered dataset feature_sets dataset' feature_sets') {fs : List Firing}
    (hfs : featureFirings dataset feature_sets rule id = .ok fs) :
    ∃ fs', featureFirings dataset' feature_sets' rule id = .ok fs' ∧ fs.Perm fs' := by
  rcases featureFirings_ok hfs with ⟨bundle, member, hbundle, hmember, hverify, hscores⟩
  rcases h.member hmember with ⟨member', hmember', hrepinned⟩
  have hrel := h.bundles id
  rw [hbundle] at hrel
  cases hbundle' : feature_sets'.lookup id with
  | none =>
    rw [hbundle'] at hrel
    cases hrel
  | some bundle' =>
    rw [hbundle'] at hrel
    cases hrel with
    | some hreordered =>
      have hfiring : firingOf rule id member' = firingOf rule id member := by
        funext score
        unfold firingOf windowOf
        rw [hrepinned.same.split]
      rcases mapM_perm hreordered.scores hscores with ⟨fs', hfs', hperm⟩
      refine ⟨fs', ?_, hperm⟩
      -- identity and run are those of the other bundle; the digest is pinned
      have hverify' : verifyFeatureSet member' bundle' = .ok () := by
        rcases bind_ok.1 hverify with ⟨_, hidentity, h1⟩
        rcases bind_ok.1 h1 with ⟨_, hrun, _⟩
        have hsameId := congrArg FeatureSetBundle.Fields.feature_set_id hreordered.rest
        have hsameRun := congrArg FeatureSetBundle.Fields.analysis_run_id hreordered.rest
        have hrefId := congrArg (fun f : DatasetMember.Fields => f.feature_set_ref.feature_set_id) hrepinned
        have hrefRun := congrArg (fun f : DatasetMember.Fields => f.feature_set_ref.analysis_run_id) hrepinned
        dsimp only at hsameId hsameRun hrefId hrefRun
        refine bind_ok.2 ⟨(), ?_, bind_ok.2 ⟨(), ?_, bind_ok.2
          ⟨_, h.pinned id bundle' member' hbundle' hmember', raiseIf_ok.2 (not_not.2 rfl)⟩⟩⟩
        · rw [hsameId, hrefId]
          exact hidentity
        · rw [hsameRun, hrefRun]
          exact hrun
      refine bind_ok.2 ⟨bundle', present_ok.2 hbundle', bind_ok.2 ⟨member', present_ok.2 hmember', bind_ok.2
        ⟨(), hverify', ?_⟩⟩⟩
      rw [hfiring]
      exact hfs'

theorem Reordered.all_firings (h : Reordered dataset feature_sets dataset' feature_sets') {ids : List PyStr}
    {fss : List (List Firing)} (hfss : ids.mapM (featureFirings dataset feature_sets rule) = .ok fss) :
    ∃ fss', ids.mapM (featureFirings dataset' feature_sets' rule) = .ok fss' ∧ fss.flatten.Perm fss'.flatten := by
  induction ids generalizing fss with
  | nil =>
    cases hfss
    exact ⟨[], rfl, .refl _⟩
  | cons id ids ih =>
    rcases List.forall₂_cons_left_iff.1 (mapM_ok.1 hfss) with ⟨fs, rest, hfs, hrest, rfl⟩
    rcases h.firings hfs with ⟨fs', hfs', hperm⟩
    rcases ih (mapM_ok.2 hrest) with ⟨rest', hrest', hperm'⟩
    refine ⟨fs' :: rest', mapM_ok.2 (.cons hfs' (mapM_ok.1 hrest')), ?_⟩
    rw [List.flatten_cons, List.flatten_cons]
    exact hperm.append hperm'

/-- So the pass collects the same. -/
theorem Reordered.collect (h : Reordered dataset feature_sets dataset' feature_sets')
    (hcollect : collect dataset feature_sets rule = .ok tally) :
    ∃ tally', DetectorEvaluation.collect dataset' feature_sets' rule = .ok tally' ∧ Agree tally tally' := by
  rcases collect_ok.1 hcollect with ⟨fss, hfss, hfold⟩
  rcases h.all_firings hfss with ⟨fss', hfss', hperm⟩
  rcases exists_agree hfold hperm with ⟨tally', hfold', hagree⟩
  refine ⟨tally', collect_ok.2 ⟨fss', ?_, hfold'⟩, hagree⟩
  rw [sorted_keys h.keys]
  exact hfss'

/-- No scores in any order. -/
theorem Reordered.noScores (h : Reordered dataset feature_sets dataset' feature_sets') :
    (∀ row ∈ feature_sets'.entries, row.2.val.method_scores = []) ↔
      ∀ row ∈ feature_sets.entries, row.2.val.method_scores = [] := by
  have hlookup : ∀ sets : Table PyStr FeatureSetBundle, (∀ row ∈ sets.entries, row.2.val.method_scores = []) ↔
      ∀ id bundle, sets.lookup id = some bundle → bundle.val.method_scores = [] := by
    intro sets
    constructor
    · intro hall id bundle hbundle
      exact hall ⟨id, bundle⟩ ((Table.mem_entries_iff _ _ _).2 hbundle)
    · intro hall row hrow
      exact hall row.1 row.2 ((Table.mem_entries_iff _ _ _).1 hrow)
  rw [hlookup, hlookup]
  refine forall_congr' fun id => ?_
  have hrel := h.bundles id
  generalize feature_sets.lookup id = value at hrel ⊢
  generalize feature_sets'.lookup id = value' at hrel ⊢
  cases hrel with
  | none => simp
  | some hreordered =>
    constructor
    · intro hall bundle hbundle
      cases hbundle
      exact (hreordered.scores.trans (by rw [hall _ rfl])).eq_nil
    · intro hall bundle hbundle
      cases hbundle
      exact (hreordered.scores.symm.trans (by rw [hall _ rfl])).eq_nil

/-- Reordered inputs have the same report. -/
theorem Reordered.evaluate (h : Reordered dataset feature_sets dataset' feature_sets')
    (hreport : evaluate_detectors dataset feature_sets rule calibration_split = .ok report) :
    ∃ report', evaluate_detectors dataset' feature_sets' rule calibration_split = .ok report' ∧
      SameButIdentities report report' := by
  rcases evaluate_ok_iff.1 hreport with ⟨hcalibration, hunique, hmembership, tally, hcollect, hsemantics, hby_split,
    hoverall, hmethods, digest, hdigest, heq⟩
  rcases h.collect hcollect with ⟨tally', hcollect', hagree⟩
  have hmembers : List.Forall₂ SameMember dataset.val.members dataset'.val.members :=
    h.members.imp fun _ _ hmember => hmember.same
  refine ⟨{ report with
    dataset_snapshot_id := dataset'.val.feature_dataset.val.snapshot_id.value
    dataset_snapshot_digest := dataset'.val.snapshot_digest
    feature_membership_digest := dataset'.val.feature_dataset.val.membership_digest }, evaluate_ok_iff.2 ?_, rfl⟩
  refine ⟨hcalibration, hunique, ?_, tally', hcollect', ?_, ?_, ?_, ?_, digest, hdigest, ?_⟩
  · rw [h.ids, ← hmembership]
    exact (List.toFinset_eq_of_perm _ _ h.keys).symm
  · intro method hmethod
    rw [← hagree.semantics]
    exact hsemantics method hmethod
  · exact hby_split.imp fun split s hs => ⟨association_sameRows hagree.sameRows.rowsIn hs.1, hs.2⟩
  · exact association_sameRows hagree.sameRows hoverall
  · have hsame : methodEvaluation dataset'.val.members rule tally' = methodEvaluation dataset.val.members rule tally :=
      funext fun method => methodEvaluation_agree hmembers hagree
    rw [hsame]
    exact hmethods
  · rw [heq]
    simp only [h.warnings, h.noScores]

/-- The order of the mapping makes no difference at all. -/
theorem evaluate_perm (h : feature_sets'.entries.Perm feature_sets.entries) :
    evaluate_detectors dataset feature_sets' rule calibration_split =
      evaluate_detectors dataset feature_sets rule calibration_split := by
  have hlookup : ∀ id, feature_sets'.lookup id = feature_sets.lookup id := fun id => AList.perm_lookup h
  have hkeys : feature_sets'.keys.Perm feature_sets.keys := h.map Sigma.fst
  have hfinset : feature_sets'.keys.toFinset = feature_sets.keys.toFinset := List.toFinset_eq_of_perm _ _ hkeys
  have hcollect : collect dataset feature_sets' rule = collect dataset feature_sets rule := by
    unfold collect
    have hround : collectFeature dataset feature_sets' rule = collectFeature dataset feature_sets rule := by
      funext t id
      unfold collectFeature
      rw [hlookup]
    rw [hround, ← sorted_keys hkeys]
  have hscores : (∀ row ∈ feature_sets'.entries, row.2.val.method_scores = []) ↔
      ∀ row ∈ feature_sets.entries, row.2.val.method_scores = [] := by
    exact forall_congr' fun row => by rw [h.mem_iff]
  unfold evaluate_detectors
  simp only [hfinset, hcollect, hscores]

end Reordered

/-- An accepted evaluation accounts for every item once, and depends on no order. -/
theorem evaluation_accounted {dataset : DatasetSnapshotBundle} {feature_sets : Table PyStr FeatureSetBundle}
    {rule : ThresholdRule} {calibration_split : DatasetSplit} {report : DetectorEvaluationReport}
    (h : evaluate_detectors dataset feature_sets rule calibration_split = .ok report) :
    (∃ tally, collect dataset feature_sets rule = .ok tally ∧ Accounted dataset feature_sets rule tally report) ∧
      (∀ feature_sets', feature_sets'.entries.Perm feature_sets.entries →
        evaluate_detectors dataset feature_sets' rule calibration_split = .ok report) ∧
      ∀ dataset' feature_sets', Reordered dataset feature_sets dataset' feature_sets' →
        ∃ report', evaluate_detectors dataset' feature_sets' rule calibration_split = .ok report' ∧
          SameButIdentities report report' := by
  refine ⟨accounted_of_ok h, fun feature_sets' hperm => ?_, fun dataset' feature_sets' hreordered =>
    hreordered.evaluate h⟩
  rw [evaluate_perm hperm]
  exact h

/-! ### An evaluation -/

section Example

/-- The digest of a value that has one. -/
@[irreducible]
def digestOf (v : PyValue) : Digest :=
  (canonicalDigest v).toOption.getD Sample.zeros

theorem canonicalDigest_digestOf {v : PyValue} (hvalid : v.Valid) (h : Json.Renderable v) :
    canonicalDigest v = .ok (digestOf v) := by
  rcases (exists_canonicalDigest_iff hvalid).2 h with ⟨digest, hdigest⟩
  rw [digestOf, hdigest]
  rfl

/-- Any digest. -/
def zeroDigest : Digest := Sample.zeros

/-- A score of the window `[0, 100)`. -/
def scoreFields (method_id : String) (score : Int) : MethodScore.Fields where
  method_id := str method_id
  method_version := str "1"
  segment_id := Sample.seg_1
  receiver_key := str "rx_a"
  window_start_sample := 0
  window_stop_sample := 100
  score := .int score
  score_semantics := str "fixture-score"

/-- A feature set with one window, scored by two methods. -/
def exampleBundle : FeatureSetBundle where
  val := {
    schema := ⟨FeatureSetBundle.SCHEMA_ID, V0_1, FeatureSetBundle.isToken_SCHEMA_ID⟩
    feature_set_id := Sample.fset_1
    analysis_run_id := Sample.arun_1
    recording_id := Sample.rec_1
    input_recording_identity_digest := zeroDigest
    provenance := {
      val := {
        producer_name := str "fixture-producer"
        producer_version := str "1"
        git_commit := str "commit"
        environment_digest := zeroDigest
        normalized_config_digest := zeroDigest
        input_digests := [zeroDigest]
        dependency_digests := []
        started_utc_ns := 0
        completed_utc_ns := 1
        host_class := str "test-host" }
      ok := by decide }
    observations := []
    method_scores := [⟨scoreFields "a" 1, by decide⟩, ⟨scoreFields "b" 0, by decide⟩] }
  ok := by decide

/-- Observed truth that is independent of the first method. -/
def exampleTruth : TruthLabel where
  val := {
    target_present := some true
    source := .observed
    evidence := [{
      val := {
        source := .observed
        evidence_digest := zeroDigest
        producer_id := str "fixture"
        produced_utc_ns := 1
        independent_of_method_ids := [str "a@1"]
        uncertainty := []
        base_recording_digest := none
        injection_spec_digest := none }
      ok := by decide }]
    confidence := none }
  ok := by decide +kernel

def exampleRef : FeatureSetRef where
  feature_set_id := Sample.fset_1
  analysis_run_id := Sample.arun_1
  bundle_ref := ⟨digestOf exampleBundle.toPy, 1, str "application/json", str "feature-set-bundle-v0.1", str "memory"⟩

def exampleMember : DatasetMember where
  val := {
    feature_set_ref := exampleRef
    split_group_id := str "group_1"
    split := .train
    role := .scored_truth
    truth := exampleTruth }
  ok := by decide

/-- What the membership digest is taken from. -/
def membershipDocument : PyValue :=
  .list [.object [
    ("feature_set_id", .str (str "fset_1")),
    ("analysis_run_id", .str (str "arun_1")),
    ("bundle_digest", .str (digestOf exampleBundle.toPy).toStr)]]

theorem membership_ok : featureDatasetMembershipDigest [exampleRef] = .ok (digestOf membershipDocument) := by
  refine canonicalDigest_digestOf (v := membershipDocument) ?_ ?_
  · refine (PyValue.validItems_iff _).2 ?_
    simp only [List.forall_mem_singleton]
    exact PyValue.valid_object (by simp [PyValue.Valid])
  · have hdigest := encodable_toStr (digestOf exampleBundle.toPy)
    simp [membershipDocument]
    exact hdigest

def exampleModel : FeatureDatasetSnapshot where
  val := {
    schema := ⟨FeatureDatasetSnapshot.SCHEMA_ID, V0_1, by decide⟩
    snapshot_id := ⟨str "dataset_1", by decide, by decide⟩
    ordered_feature_set_refs := [exampleRef]
    selection_spec := str "fixture"
    selection_cutoff_utc_ns := 0
    membership_digest := digestOf membershipDocument }
  ok := bind_ok.2 ⟨(), by decide +kernel, bind_ok.2 ⟨_, membership_ok, raiseIf_ok.2 (not_not.2 rfl)⟩⟩

/-- What the snapshot digest is taken from. -/
def snapshotDocument : PyValue :=
  .object [
    ("feature_membership_digest", .str (digestOf membershipDocument).toStr),
    ("selection_spec", .str (str "fixture")),
    ("selection_cutoff_utc_ns", .int 0),
    ("evaluated_method_id", .str (str "a@1")),
    ("members", .list [exampleMember.identity]),
    ("promoted", .bool true),
    ("promotion_warnings", .tuple [])]

theorem snapshot_ok :
    datasetSnapshotDigest exampleModel (str "a@1") [exampleMember] true [] = .ok (digestOf snapshotDocument) := by
  have hvalid : (TruthLabel.toPy exampleTruth).Valid := by decide +kernel
  have htext : ∃ bytes ∈ (Json.canonicalJsonBytes (TruthLabel.toPy exampleTruth)).toOption, bytes ≠ [] := by
    decide +kernel
  have htruth : Json.Renderable (TruthLabel.toPy exampleTruth) := by
    rcases htext with ⟨bytes, hbytes, _⟩
    have hok := mem_toOption.1 hbytes
    exact (Json.exists_canonicalJsonBytes_iff hvalid).1 ⟨bytes, hok⟩
  have hbundle := encodable_toStr (digestOf exampleBundle.toPy)
  have hmembership := encodable_toStr (digestOf membershipDocument)
  have hidentity : exampleMember.identity.Valid := by
    refine PyValue.valid_object ?_
    simp only [List.forall_mem_cons]
    exact ⟨trivial, trivial, trivial, trivial, trivial, trivial, hvalid, by simp⟩
  have hmember : Json.Renderable exampleMember.identity := by
    simp only [DatasetMember.identity, Json.renderable_object, List.forall_mem_cons, Json.renderable_str]
    refine ⟨?_, ?_, ?_, ?_, ?_, ?_, htruth, by simp⟩
    · exact encodable_of_isToken exampleRef.feature_set_id.isToken
    · exact encodable_of_isToken exampleRef.analysis_run_id.isToken
    · exact hbundle
    · exact Json.encodable_literal "group_1"
    · exact Json.encodable_literal "train"
    · exact Json.encodable_literal "scored_truth"
  refine canonicalDigest_digestOf (v := snapshotDocument) ?_ ?_
  · refine PyValue.valid_object ?_
    simp only [List.forall_mem_cons]
    refine ⟨trivial, trivial, trivial, trivial, ?_, trivial, trivial, by simp⟩
    exact (PyValue.validItems_iff _).2 (by simpa using hidentity)
  · simp [snapshotDocument, hmember]
    exact ⟨hmembership, by decide⟩

def exampleDataset : DatasetSnapshotBundle where
  val := {
    schema := ⟨DatasetSnapshotBundle.SCHEMA_ID, V0_1, by decide⟩
    feature_dataset := exampleModel
    evaluated_method_id := str "a@1"
    members := [exampleMember]
    snapshot_digest := digestOf snapshotDocument
    promoted := true
    promotion_warnings := [] }
  ok := by
    -- the membership is compared by its terms: no digest has to be computed for it
    refine bind_ok.2 ⟨(), ?_, bind_ok.2 ⟨_, snapshot_ok, raiseIf_ok.2 (not_not.2 rfl)⟩⟩
    simp only [checkAll_cons, checkAll_nil, raiseIf_ok]
    exact ⟨by decide, by decide, by decide, not_not.2 rfl, by decide, by decide, trivial⟩

/-- The threshold of both methods is one half. -/
def exampleRule : ThresholdRule where
  val := {
    rule_id := str "rule_1"
    calibration_dataset_id := str "calibration_1"
    thresholds := [(str "b@1", .float (PyFloat.ofRatio false 1 2)), (str "a@1", .float (PyFloat.ofRatio false 1 2))] }
  ok := by decide +kernel

def exampleSets : Table PyStr FeatureSetBundle := (∅ : Table PyStr FeatureSetBundle).insert (str "fset_1") exampleBundle

theorem verified : verifyFeatureSet exampleMember exampleBundle = .ok () := by
  have hvalid : exampleBundle.toPy.Valid := by decide +kernel
  have htext : ∃ bytes ∈ (Json.canonicalJsonBytes exampleBundle.toPy).toOption, bytes ≠ [] := by
    decide +kernel
  have hdigest : canonicalDigest exampleBundle.toPy = .ok (digestOf exampleBundle.toPy) := by
    refine canonicalDigest_digestOf hvalid ?_
    rcases htext with ⟨bytes, hbytes, _⟩
    have hok := mem_toOption.1 hbytes
    exact (Json.exists_canonicalJsonBytes_iff hvalid).1 ⟨bytes, hok⟩
  refine bind_ok.2 ⟨(), raiseIf_ok.2 (by decide), bind_ok.2 ⟨(), raiseIf_ok.2 (by decide), ?_⟩⟩
  exact bind_ok.2 ⟨_, hdigest, raiseIf_ok.2 (not_not.2 rfl)⟩

/-- What the first method fired on, and what the second did not. -/
def exampleFirings : Option (List Firing) :=
  (exampleBundle.val.method_scores.mapM (firingOf exampleRule (str "fset_1") exampleMember)).toOption

theorem exists_tally : ∃ fs ∈ exampleFirings, ∃ tally ∈ (fs.foldlM Tally.record {}).toOption,
    (∀ method ∈ exampleRule.method_ids, (tally.semantics.get method).card ≤ 1) ∧
      (DatasetSplit.all.mapM fun split => do
        let report ← association (rowsIn split tally.rows.entries) exampleRule.method_ids
        return ({ split := split.value, association := report } : SplitAssociationReport)).toOption.isSome ∧
      (association tally.rows.entries exampleRule.method_ids).toOption.isSome ∧
      (exampleRule.method_ids.mapM (methodEvaluation [exampleMember] exampleRule tally)).toOption.isSome := by
  decide +kernel

theorem exists_evaluated : ∃ report, evaluate_detectors exampleDataset exampleSets exampleRule = .ok report := by
  rcases exists_tally with ⟨fs, hfs, tally, htally, hsemantics, hsplits, hoverall, hmethods⟩
  have hfirings : featureFirings exampleDataset exampleSets exampleRule (str "fset_1") = .ok fs := by
    refine bind_ok.2 ⟨exampleBundle, rfl, bind_ok.2 ⟨exampleMember, rfl, bind_ok.2 ⟨(), verified, ?_⟩⟩⟩
    exact mem_toOption.1 hfs
  have hcollect : collect exampleDataset exampleSets exampleRule = .ok tally := by
    refine collect_ok.2 ⟨[fs], mapM_ok.2 (.cons hfirings .nil), ?_⟩
    simpa using mem_toOption.1 htally
  rcases Option.isSome_iff_exists.1 hsplits with ⟨splits, hsplits⟩
  rcases Option.isSome_iff_exists.1 hoverall with ⟨overall, hoverall⟩
  rcases Option.isSome_iff_exists.1 hmethods with ⟨methods, hmethods⟩
  have hrule : ∃ digest, canonicalDigest exampleRule.toPy = .ok digest := by
    have htext : ∃ bytes ∈ (Json.canonicalJsonBytes exampleRule.toPy).toOption, bytes ≠ [] := by decide +kernel
    rcases htext with ⟨bytes, hbytes, _⟩
    exact ⟨Digest.sha256 bytes, by rw [canonicalDigest, mem_toOption.1 hbytes]; rfl⟩
  rcases hrule with ⟨digest, hdigest⟩
  refine ⟨_, bind_ok.2 ⟨(), raiseIf_ok.2 (by decide), bind_ok.2 ⟨(), raiseIf_ok.2 (by decide), bind_ok.2
    ⟨(), raiseIf_ok.2 (by decide +kernel), bind_ok.2 ⟨tally, hcollect, bind_ok.2 ⟨(), raiseIf_ok.2 ?_, bind_ok.2
    ⟨splits, mem_toOption.1 hsplits, bind_ok.2 ⟨overall, mem_toOption.1 hoverall, bind_ok.2 ⟨methods, mem_toOption.1 hmethods,
    bind_ok.2 ⟨digest, hdigest, rfl⟩⟩⟩⟩⟩⟩⟩⟩⟩⟩
  rintro ⟨method, hmethod, hmore⟩
  exact absurd (hsemantics method hmethod) (by omega)

/-- One window, two methods: the evaluation accounts for both. -/
theorem evaluation_accounted_example : ∃ report tally,
    evaluate_detectors exampleDataset exampleSets exampleRule = .ok report ∧
      collect exampleDataset exampleSets exampleRule = .ok tally ∧
      Accounted exampleDataset exampleSets exampleRule tally report := by
  rcases exists_evaluated with ⟨report, hreport⟩
  rcases (evaluation_accounted hreport).1 with ⟨tally, hcollect, haccounted⟩
  exact ⟨report, tally, hreport, hcollect, haccounted⟩

end Example

end DetectorEvaluation

end LeoFlow
