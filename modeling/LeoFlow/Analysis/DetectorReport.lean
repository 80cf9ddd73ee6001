import LeoFlow.Analysis.DetectorAccounts

/-!
# LeoFlow.Analysis.DetectorReport — a detector report accounts for every item once

`Accounted` says what the counts of a report are: of the members of a split, of the
windows that methods scored there, and of the overall rows as sums over the splits. A
report is accounted for, and depends on the order of nothing.
-/

namespace LeoFlow

namespace DetectorEvaluation

section Scored

variable (dataset : DatasetSnapshotBundle) (feature_sets : Table PyStr FeatureSetBundle) (rule : ThresholdRule)

/-- The windows of a split that the method scored, straight from the feature sets. -/
def scoredWindows (method : PyStr) (split : DatasetSplit) : Finset Window :=
  (feature_sets.entries.flatMap fun entry =>
    match memberByFeature dataset entry.1 with
    | some member => (entry.2.val.method_scores.filter (methodIdentity · = method)).map (windowOf entry.1 member)
    | none => []).toFinset.filter (·.split = split)

/-- The method scored the window. -/
def Scored (method : PyStr) (w : Window) : Prop :=
  ∃ id bundle member, feature_sets.lookup id = some bundle ∧ memberByFeature dataset id = some member ∧
    ∃ score ∈ bundle.val.method_scores, methodIdentity score = method ∧ windowOf id member score = w

variable {dataset feature_sets rule} {method : PyStr} {split : DatasetSplit} {w : Window} {tally : Tally}

theorem mem_scoredWindows :
    w ∈ scoredWindows dataset feature_sets method split ↔ Scored dataset feature_sets method w ∧ w.split = split := by
  unfold scoredWindows Scored
  rw [Finset.mem_filter, List.mem_toFinset, List.mem_flatMap]
  refine and_congr_left fun _ => ⟨?_, ?_⟩
  · rintro ⟨⟨id, bundle⟩, hentry, hw⟩
    dsimp only at hw
    split at hw
    · rename_i member hmember
      rcases List.mem_map.1 hw with ⟨score, hscore, hwindow⟩
      rw [List.mem_filter, decide_eq_true_eq] at hscore
      exact ⟨id, bundle, member, (Table.mem_entries_iff _ _ _).1 hentry, hmember, score, hscore.1, hscore.2, hwindow⟩
    · cases hw
  · rintro ⟨id, bundle, member, hbundle, hmember, score, hscore, hmethod, hwindow⟩
    refine ⟨⟨id, bundle⟩, (Table.mem_entries_iff _ _ _).2 hbundle, ?_⟩
    dsimp only
    rw [hmember]
    exact List.mem_map.2 ⟨score, List.mem_filter.2 ⟨hscore, decide_eq_true hmethod⟩, hwindow⟩

theorem firingOf_ok {id : PyStr} {member : DatasetMember} {score : MethodScore} {f : Firing}
    (h : firingOf rule id member score = .ok f) :
    f.window = windowOf id member score ∧ f.method = methodIdentity score ∧ f.method ∈ rule.method_ids := by
  unfold firingOf at h
  split at h
  · cases h
  · rename_i threshold hthreshold
    cases h
    exact ⟨rfl, rfl, ThresholdRule.mem_method_ids.2 ⟨threshold, hthreshold⟩⟩

/-- What a verified feature set gives. -/
theorem featureFirings_ok {id : PyStr} {fs : List Firing} (h : featureFirings dataset feature_sets rule id = .ok fs) :
    ∃ bundle member, feature_sets.lookup id = some bundle ∧ memberByFeature dataset id = some member ∧
      verifyFeatureSet member bundle = .ok () ∧
      bundle.val.method_scores.mapM (firingOf rule id member) = .ok fs := by
  rcases bind_ok.1 h with ⟨bundle, hbundle, h1⟩
  rcases bind_ok.1 h1 with ⟨member, hmember, h2⟩
  rcases bind_ok.1 h2 with ⟨_, hverify, hfs⟩
  exact ⟨bundle, member, present_ok.1 hbundle, present_ok.1 hmember, hverify, hfs⟩

/-- The firings are those of the scores. -/
theorem scored_iff {fss : List (List Firing)}
    (hfss : (feature_sets.keys.insertionSort (· ≤ ·)).mapM (featureFirings dataset feature_sets rule) = .ok fss) :
    Scored dataset feature_sets method w ↔ ∃ f ∈ fss.flatten, f.window = w ∧ f.method = method := by
  constructor
  · rintro ⟨id, bundle, member, hbundle, hmember, score, hscore, hmethod, hwindow⟩
    have hid : id ∈ feature_sets.keys.insertionSort (· ≤ ·) := by
      rw [List.mem_insertionSort]
      exact AList.mem_keys.1 (AList.lookup_isSome.1 (by rw [hbundle]; rfl))
    rcases Json.exists_mem_of_forall₂ (mapM_ok.1 hfss) hid with ⟨fs, hfs, hfirings⟩
    rcases featureFirings_ok hfirings with ⟨bundle', member', hbundle', hmember', _, hscores⟩
    cases hbundle.symm.trans hbundle'
    cases hmember.symm.trans hmember'
    rcases Json.exists_mem_of_forall₂ (mapM_ok.1 hscores) hscore with ⟨f, hf, hfiring⟩
    rcases firingOf_ok hfiring with ⟨hfwindow, hfmethod, _⟩
    exact ⟨f, List.mem_flatten.2 ⟨fs, hfs, hf⟩, hfwindow.trans hwindow, hfmethod.trans hmethod⟩
  · rintro ⟨f, hf, hwindow, hmethod⟩
    rcases List.mem_flatten.1 hf with ⟨fs, hfs, hmem⟩
    rcases Json.exists_mem_of_forall₂ (mapM_ok.1 hfss).flip hfs with ⟨id, _, hfirings⟩
    rcases featureFirings_ok hfirings with ⟨bundle, member, hbundle, hmember, _, hscores⟩
    rcases Json.exists_mem_of_forall₂ (mapM_ok.1 hscores).flip hmem with ⟨score, hscore, hfiring⟩
    rcases firingOf_ok hfiring with ⟨hfwindow, hfmethod, _⟩
    exact ⟨id, bundle, member, hbundle, hmember, score, hscore, hfmethod.symm.trans hmethod,
      hfwindow.symm.trans hwindow⟩

/-- The tally has the windows that were scored. -/
theorem scored_iff_row (h : collect dataset feature_sets rule = .ok tally) :
    Scored dataset feature_sets method w ↔ (tally.row w).lookup method ≠ none := by
  rcases collect_ok.1 h with ⟨fss, hfss, hfold⟩
  have htallied : Tallied tally ([] ++ fss.flatten) := tallied_empty.fold hfold
  rw [scored_iff hfss, Option.ne_none_iff_exists']
  constructor
  · rintro ⟨f, hf, hwindow, hmethod⟩
    exact ⟨f.fired, (htallied.cell w method f.fired).2 ⟨f, hf, hwindow, hmethod, rfl⟩⟩
  · rintro ⟨b, hb⟩
    rcases (htallied.cell w method b).1 hb with ⟨f, hf, hwindow, hmethod, _⟩
    exact ⟨f, hf, hwindow, hmethod⟩

theorem scored_iff_window (h : collect dataset feature_sets rule = .ok tally) :
    (∃ method ∈ rule.method_ids, Scored dataset feature_sets method w) ↔ w ∈ tally.rows := by
  rcases collect_ok.1 h with ⟨fss, hfss, hfold⟩
  have htallied : Tallied tally ([] ++ fss.flatten) := tallied_empty.fold hfold
  rw [htallied.window]
  constructor
  · rintro ⟨method, _, hscored⟩
    rcases (scored_iff hfss).1 hscored with ⟨f, hf, hwindow, _⟩
    exact ⟨f, hf, hwindow⟩
  · rintro ⟨f, hf, hwindow⟩
    rcases List.mem_flatten.1 hf with ⟨fs, hfs, hmem⟩
    rcases Json.exists_mem_of_forall₂ (mapM_ok.1 hfss).flip hfs with ⟨id, _, hfirings⟩
    rcases featureFirings_ok hfirings with ⟨_, _, _, _, _, hscores⟩
    rcases Json.exists_mem_of_forall₂ (mapM_ok.1 hscores).flip hmem with ⟨_, _, hfiring⟩
    exact ⟨f.method, (firingOf_ok hfiring).2.2, (scored_iff hfss).2 ⟨f, hf, hwindow, rfl⟩⟩

/-- The rows of a split are the windows that some method scored there. -/
theorem length_rowsIn (h : collect dataset feature_sets rule = .ok tally) :
    (rowsIn split tally.rows.entries).length =
      (rule.method_ids.toFinset.biUnion fun method => scoredWindows dataset feature_sets method split).card := by
  have hrows : (rowsIn split tally.rows.entries).length = (tally.rows.keys.filter (·.split = split)).length := by
    unfold rowsIn
    rw [entries_eq, List.filter_map, List.length_map]
    rfl
  rw [hrows, ← List.toFinset_card_of_nodup (tally.rows.keys_nodup.filter _)]
  congr 1
  ext w
  simp only [List.mem_toFinset, List.mem_filter, decide_eq_true_eq, Finset.mem_biUnion, mem_scoredWindows]
  rw [← AList.mem_keys, ← scored_iff_window h]
  constructor
  · rintro ⟨⟨method, hmethod, hscored⟩, hsplit⟩
    exact ⟨method, hmethod, hscored, hsplit⟩
  · rintro ⟨method, hmethod, hscored, hsplit⟩
    exact ⟨⟨method, hmethod, hscored⟩, hsplit⟩

/-- The present rows of a split are the windows that the method scored there. -/
theorem presentCount_rowsIn (h : collect dataset feature_sets rule = .ok tally) (hmethod : method ∈ rule.method_ids) :
    presentCount (rowsIn split tally.rows.entries) method = (scoredWindows dataset feature_sets method split).card := by
  have hrows : presentCount (rowsIn split tally.rows.entries) method =
      (tally.rows.keys.filter fun w => w.split = split ∧ (tally.row w).lookup method ≠ none).length := by
    unfold rowsIn presentCount
    rw [entries_eq, List.filter_map, List.countP_map, List.countP_filter, List.countP_eq_length_filter]
    congr 1
    refine List.filter_congr fun w _ => ?_
    simp [Bool.and_comm]
  rw [hrows, ← List.toFinset_card_of_nodup (tally.rows.keys_nodup.filter _)]
  congr 1
  ext w
  simp only [List.mem_toFinset, List.mem_filter, decide_eq_true_eq, mem_scoredWindows]
  rw [← AList.mem_keys, ← scored_iff_window h, ← scored_iff_row h]
  constructor
  · rintro ⟨_, hsplit, hscored⟩
    exact ⟨hscored, hsplit⟩
  · rintro ⟨hscored, hsplit⟩
    exact ⟨⟨method, hmethod, hscored⟩, hsplit, hscored⟩

end Scored

/-! ## The account -/

section Account

variable (dataset : DatasetSnapshotBundle) (feature_sets : Table PyStr FeatureSetBundle) (rule : ThresholdRule)
  (tally : Tally)

/-- The report of a method on a split. -/
structure SplitAccount (method : PyStr) (split : DatasetSplit) (s : SplitMethodReport) : Prop where
  members : s.feature_set_count = dataset.val.members.countP (·.val.split = split)
  /-- every feature set of the split counts as one thing -/
  total : s.truth.true_positive + s.truth.false_positive + s.truth.true_negative + s.truth.false_negative +
    s.truth.missing_prediction_count + s.truth.inadmissible_truth_count + s.truth.context_only_count =
      s.feature_set_count
  /-- the confusion counts are those of the members that are declared independent of the method -/
  independent : ∃ declared, splitMethodReport (dataset.val.members.filter (Declared method ·)) tally method split =
      .ok declared ∧
    declared.truth.true_positive = s.truth.true_positive ∧ declared.truth.false_positive = s.truth.false_positive ∧
    declared.truth.true_negative = s.truth.true_negative ∧ declared.truth.false_negative = s.truth.false_negative
  present : s.present_window_count = (scoredWindows dataset feature_sets method split).card
  union : s.union_window_count =
    (rule.method_ids.toFinset.biUnion fun other => scoredWindows dataset feature_sets other split).card
  missing : (s.present_window_count : Int) + s.missing_window_count = s.union_window_count

/-- A report that accounts for every item once. -/
structure Accounted (report : DetectorEvaluationReport) : Prop where
  methods : report.methods.map (·.method_id) = rule.method_ids
  by_split : ∀ e ∈ report.methods,
    List.Forall₂ (SplitAccount dataset feature_sets rule tally e.method_id) DatasetSplit.all e.by_split
  association_by_split : report.association_by_split.map (·.split) = DatasetSplit.all.map DatasetSplit.value
  /-- windows of the splits add up to those overall -/
  windows : ∀ e ∈ report.methods,
    (e.by_split.map (·.union_window_count)).sum = report.overall_association.union_window_count
  present_windows : report.overall_association.method_present_window_count =
    report.methods.map fun e => (e.by_split.map (·.present_window_count)).sum
  missing_windows : report.overall_association.missing_window_count =
    report.methods.map fun e => (e.by_split.map (·.missing_window_count)).sum
  association_windows : report.overall_association.union_window_count =
    (report.association_by_split.map (·.association.union_window_count)).sum
  shared_windows : ∀ i j, cellAt report.overall_association.shared_window_count i j =
    (report.association_by_split.map fun s => cellAt s.association.shared_window_count i j).sum
  shared_samples : ∀ i j, cellAt report.overall_association.shared_sample_count i j =
    (report.association_by_split.map fun s => cellAt s.association.shared_sample_count i j).sum
  balanced : Balanced report.overall_association ∧ ∀ s ∈ report.association_by_split, Balanced s.association
  covariances : Covariances (exactCovariance tally.rows.entries rule.method_ids) ∧
    ∀ split, Covariances (exactCovariance (rowsIn split tally.rows.entries) rule.method_ids)

end Account

section Evaluation

variable {dataset : DatasetSnapshotBundle} {feature_sets : Table PyStr FeatureSetBundle} {rule : ThresholdRule}
  {tally : Tally} {method : PyStr} {split : DatasetSplit} {members : List DatasetMember}
  {report : DetectorEvaluationReport} {calibration_split : DatasetSplit}

theorem splitMethodReport_ok {s : SplitMethodReport} (h : splitMethodReport members tally method split = .ok s) :
    ∃ c, (membersIn split members).foldlM (countMember tally method) {} = .ok c ∧ s.truth = c.report ∧
      s.feature_set_count = (membersIn split members).length ∧
      s.union_window_count = (rowsIn split tally.rows.entries).length ∧
      s.present_window_count = presentCount (rowsIn split tally.rows.entries) method ∧
      s.missing_window_count = s.union_window_count - s.present_window_count := by
  rcases bind_ok.1 h with ⟨c, hc, h1⟩
  cases h1
  exact ⟨c, hc, rfl, rfl, rfl, rfl, rfl⟩

theorem splitAccount_of_report (hcollect : collect dataset feature_sets rule = .ok tally)
    (hmethod : method ∈ rule.method_ids) {s : SplitMethodReport}
    (h : splitMethodReport dataset.val.members tally method split = .ok s) :
    SplitAccount dataset feature_sets rule tally method split s := by
  rcases splitMethodReport_ok h with ⟨c, hfold, htruth, hmembers, hunion, hpresent, hmissing⟩
  refine {
    members := ?_
    total := ?_
    independent := ?_
    present := hpresent.trans (presentCount_rowsIn hcollect hmethod)
    union := hunion.trans (length_rowsIn hcollect)
    missing := by rw [hmissing]; omega }
  · rw [hmembers, List.countP_eq_length_filter]
    rfl
  · have htotal := total_fold hfold
    rw [htruth, hmembers]
    unfold TruthCounts.total at htotal
    simpa [TruthCounts.report] using htotal
  · rcases confusion_fold (d := {}) rfl hfold with ⟨d, hd, hconfusion⟩
    have hcomm : membersIn split (dataset.val.members.filter (Declared method ·)) =
        (membersIn split dataset.val.members).filter (Declared method ·) := List.filter_comm _ _ _
    simp only [TruthCounts.confusion, Prod.mk.injEq] at hconfusion
    rcases hconfusion with ⟨htp, hfp, htn, hfn⟩
    refine ⟨_, bind_ok.2 ⟨d, by rw [hcomm]; exact hd, rfl⟩, ?_⟩
    rw [htruth]
    exact ⟨htp.symm, hfp.symm, htn.symm, hfn.symm⟩

/-- What an accepted evaluation went through. -/
theorem evaluate_ok_iff : evaluate_detectors dataset feature_sets rule calibration_split = .ok report ↔
    calibration_split = .train ∧ (rule.val.thresholds.map Prod.fst).Nodup ∧
      feature_sets.keys.toFinset = (dataset.val.members.map DatasetMember.feature_id).toFinset ∧
      ∃ tally, collect dataset feature_sets rule = .ok tally ∧
        (∀ method ∈ rule.method_ids, (tally.semantics.get method).card ≤ 1) ∧
        List.Forall₂ (fun split s => association (rowsIn split tally.rows.entries) rule.method_ids =
          .ok s.association ∧ s.split = split.value) DatasetSplit.all report.association_by_split ∧
        association tally.rows.entries rule.method_ids = .ok report.overall_association ∧
        rule.method_ids.mapM (methodEvaluation dataset.val.members rule tally) = .ok report.methods ∧
        ∃ digest, canonicalDigest rule.toPy = .ok digest ∧
          report = {
            dataset_snapshot_id := dataset.val.feature_dataset.val.snapshot_id.value
            dataset_snapshot_digest := dataset.val.snapshot_digest
            feature_membership_digest := dataset.val.feature_dataset.val.membership_digest
            threshold_rule_id := rule.val.rule_id
            threshold_rule_digest := digest
            threshold_calibration_dataset_id := rule.val.calibration_dataset_id
            threshold_calibration_split := calibration_split.value
            methods := report.methods
            overall_association := report.overall_association
            association_by_split := report.association_by_split
            warnings := dataset.val.promotion_warnings ++
              [str "calibration-dataset-split-membership-is-operator-attested"] ++
              if ∀ row ∈ feature_sets.entries, row.2.val.method_scores = [] then [str "no-method-scores"] else [] } := by
  have hassociate : ∀ (tally : Tally) (split : DatasetSplit) (s : SplitAssociationReport),
      (do
        let report ← association (rowsIn split tally.rows.entries) rule.method_ids
        return ({ split := split.value, association := report } : SplitAssociationReport)) = .ok s ↔
        association (rowsIn split tally.rows.entries) rule.method_ids = .ok s.association ∧ s.split = split.value := by
    intro tally split s
    rw [bind_ok]
    constructor
    · rintro ⟨r, hr, h⟩
      cases h
      exact ⟨hr, rfl⟩
    · rintro ⟨hr, hsplit⟩
      exact ⟨s.association, hr, by rw [← hsplit]; rfl⟩
  unfold evaluate_detectors
  constructor
  · intro h
    rcases bind_ok.1 h with ⟨_, hcalibration, h1⟩
    rcases bind_ok.1 h1 with ⟨_, hunique, h2⟩
    rcases bind_ok.1 h2 with ⟨_, hmembership, h3⟩
    rcases bind_ok.1 h3 with ⟨tally, hcollect, h4⟩
    rcases bind_ok.1 h4 with ⟨_, hsemantics, h5⟩
    rcases bind_ok.1 h5 with ⟨by_split, hby_split, h6⟩
    rcases bind_ok.1 h6 with ⟨overall, hoverall, h7⟩
    rcases bind_ok.1 h7 with ⟨methods, hmethods, h8⟩
    rcases bind_ok.1 h8 with ⟨digest, hdigest, h9⟩
    cases h9
    refine ⟨not_not.1 (raiseIf_ok.1 hcalibration), not_not.1 (raiseIf_ok.1 hunique),
      not_not.1 (raiseIf_ok.1 hmembership), tally, hcollect, ?_, ?_, hoverall, hmethods, digest, hdigest, rfl⟩
    · intro method hmethod
      by_contra hmany
      exact raiseIf_ok.1 hsemantics ⟨method, hmethod, by omega⟩
    · exact (mapM_ok.1 hby_split).imp fun split s hs => (hassociate tally split s).1 hs
  · rintro ⟨hcalibration, hunique, hmembership, tally, hcollect, hsemantics, hby_split, hoverall, hmethods, digest,
      hdigest, hreport⟩
    have hsemantics' : ¬∃ method ∈ rule.method_ids, 1 < (tally.semantics.get method).card := by
      rintro ⟨method, hmethod, hmany⟩
      have := hsemantics method hmethod
      omega
    have hby_split' := mapM_ok.2 (hby_split.imp fun split s hs => (hassociate tally split s).2 hs)
    refine bind_ok.2 ⟨(), raiseIf_ok.2 (not_not.2 hcalibration), bind_ok.2 ⟨(), raiseIf_ok.2 (not_not.2 hunique),
      bind_ok.2 ⟨(), raiseIf_ok.2 (not_not.2 hmembership), bind_ok.2 ⟨tally, hcollect, bind_ok.2
        ⟨(), raiseIf_ok.2 hsemantics', bind_ok.2 ⟨_, hby_split', bind_ok.2 ⟨_, hoverall, bind_ok.2 ⟨_, hmethods,
          bind_ok.2 ⟨digest, hdigest, ?_⟩⟩⟩⟩⟩⟩⟩⟩⟩
    rw [hreport]
    rfl

theorem methodEvaluation_ok {e : MethodEvaluation} (h : methodEvaluation members rule tally method = .ok e) :
    e.method_id = method ∧
      List.Forall₂ (fun split s => splitMethodReport members tally method split = .ok s) DatasetSplit.all e.by_split := by
  rcases bind_ok.1 h with ⟨threshold, _, h1⟩
  rcases bind_ok.1 h1 with ⟨by_split, hby_split, h2⟩
  cases h2
  exact ⟨rfl, mapM_ok.1 hby_split⟩

/-- The windows of a method's splits add up to those overall. -/
theorem sum_by_split {e : MethodEvaluation} (h : methodEvaluation members rule tally method = .ok e) :
    (e.by_split.map (·.union_window_count)).sum = tally.rows.entries.length ∧
      (e.by_split.map (·.present_window_count)).sum = presentCount tally.rows.entries method ∧
      (e.by_split.map (·.missing_window_count)).sum =
        tally.rows.entries.length - presentCount tally.rows.entries method := by
  have hsplits := (methodEvaluation_ok h).2
  have hunion : e.by_split.map (·.union_window_count) =
      DatasetSplit.all.map fun split => (rowsIn split tally.rows.entries).length :=
    map_of_forall₂ hsplits fun split s hs => by
      rcases splitMethodReport_ok hs with ⟨_, _, _, _, hunion, _, _⟩
      exact hunion
  have hpresent : e.by_split.map (·.present_window_count) =
      DatasetSplit.all.map fun split => presentCount (rowsIn split tally.rows.entries) method :=
    map_of_forall₂ hsplits fun split s hs => by
      rcases splitMethodReport_ok hs with ⟨_, _, _, _, _, hpresent, _⟩
      exact hpresent
  have hmissing : e.by_split.map (·.missing_window_count) = DatasetSplit.all.map fun split =>
      ((rowsIn split tally.rows.entries).length : Int) - presentCount (rowsIn split tally.rows.entries) method :=
    map_of_forall₂ hsplits fun split s hs => by
      rcases splitMethodReport_ok hs with ⟨_, _, _, _, hunion, hpresent, hmissing⟩
      rw [hmissing, hunion, hpresent]
  have hlength := sum_splits (f := List.length) (fun _ _ h => h.length_eq) (fun _ _ => List.length_append)
    tally.rows.entries
  have hcount := sum_splits (f := fun rows => presentCount rows method) (fun _ _ h => h.countP_eq _)
    (fun _ _ => List.countP_append) tally.rows.entries
  refine ⟨?_, ?_, ?_⟩
  · rw [hunion, hlength]
  · rw [hpresent, hcount]
  · rw [hmissing, hlength, hcount]
    simp [DatasetSplit.all]
    ring

/-- A report that is accepted accounts for every item once. -/
theorem accounted_of_ok (h : evaluate_detectors dataset feature_sets rule calibration_split = .ok report) :
    ∃ tally, collect dataset feature_sets rule = .ok tally ∧ Accounted dataset feature_sets rule tally report := by
  rcases evaluate_ok_iff.1 h with ⟨_, _, _, tally, hcollect, _, hby_split, hoverall, hmethods, _, _, _⟩
  have heach := mapM_ok.1 hmethods
  have hevaluated : ∀ e ∈ report.methods, ∃ method ∈ rule.method_ids,
      methodEvaluation dataset.val.members rule tally method = .ok e := by
    intro e he
    rcases Json.exists_mem_of_forall₂ heach.flip he with ⟨method, hmethod, hok⟩
    exact ⟨method, hmethod, hok⟩
  rcases association_ok hoverall with ⟨hshared, hsamples, hpresent, hunion, hmissing⟩
  have hcells : ∀ {α : Type} [AddCommMonoid α] (field : MethodAssociationReport → List (List α))
      (cell : List Row → PyStr → PyStr → α), (∀ rows r, association rows rule.method_ids = .ok r →
        field r = matrix rule.method_ids (cell rows)) →
      (∀ left right, cell tally.rows.entries left right =
        (DatasetSplit.all.map fun split => cell (rowsIn split tally.rows.entries) left right).sum) →
      ∀ i j, cellAt (field report.overall_association) i j =
        (report.association_by_split.map fun s => cellAt (field s.association) i j).sum := by
    intro α _ field cell hfield hsum i j
    have hmap : (report.association_by_split.map fun s => cellAt (field s.association) i j) =
        DatasetSplit.all.map fun split => cellAt (matrix rule.method_ids (cell (rowsIn split tally.rows.entries))) i j :=
      map_of_forall₂ hby_split fun split s hs => by rw [hfield _ _ hs.1]
    rw [hmap, hfield _ _ hoverall]
    simp only [cellAt_matrix]
    cases rule.method_ids[i]? with
    | none => simp
    | some left =>
      cases rule.method_ids[j]? with
      | none => simp
      | some right => exact hsum left right
  refine ⟨tally, hcollect, {
    methods := ?_
    by_split := ?_
    association_by_split := ?_
    windows := ?_
    present_windows := ?_
    missing_windows := ?_
    association_windows := ?_
    shared_windows := ?_
    shared_samples := ?_
    balanced := ?_
    covariances := ⟨covariances_exact _ _, fun split => covariances_exact _ _⟩ }⟩
  · have hids := map_of_forall₂ (f := id) heach fun method e he => (methodEvaluation_ok he).1
    rwa [List.map_id] at hids
  · intro e he
    rcases hevaluated e he with ⟨method, hmethod, hok⟩
    rcases methodEvaluation_ok hok with ⟨rfl, hsplits⟩
    exact hsplits.imp fun split s hs => splitAccount_of_report hcollect hmethod hs
  · exact map_of_forall₂ hby_split fun split s hs => hs.2
  · intro e he
    rcases hevaluated e he with ⟨method, _, hok⟩
    rw [hunion, (sum_by_split hok).1]
  · rw [hpresent]
    exact (map_of_forall₂ heach fun method e he => (sum_by_split he).2.1).symm
  · rw [hmissing]
    exact (map_of_forall₂ heach fun method e he => (sum_by_split he).2.2).symm
  · have hmap : (report.association_by_split.map (·.association.union_window_count)) =
        DatasetSplit.all.map fun split => (rowsIn split tally.rows.entries).length :=
      map_of_forall₂ hby_split fun split s hs => (association_ok hs.1).2.2.2.1
    rw [hunion, hmap]
    exact sum_splits (fun _ _ h => h.length_eq) (fun _ _ => List.length_append) _
  · refine hcells (·.shared_window_count) (fun rows left right => (sharedRows rows left right).length)
      (fun rows r hr => (association_ok hr).1) fun left right => ?_
    refine sum_splits (f := fun rows => (sharedRows rows left right).length) ?_ ?_ tally.rows.entries
    · intro rows rows' hperm
      exact (hperm.filterMap _).length_eq
    · intro rows rows'
      unfold sharedRows
      rw [List.filterMap_append, List.length_append]
  · refine hcells (·.shared_sample_count) (fun rows left right =>
      ((sharedRows rows left right).map fun x => x.1.stop - x.1.start).sum)
      (fun rows r hr => (association_ok hr).2.1) fun left right => ?_
    refine sum_splits (f := fun rows =>
      ((sharedRows rows left right).map fun x => x.1.stop - x.1.start).sum) ?_ ?_ tally.rows.entries
    · intro rows rows' hperm
      exact ((hperm.filterMap _).map _).sum_eq
    · intro rows rows'
      unfold sharedRows
      rw [List.filterMap_append, List.map_append, List.sum_append]
  · refine ⟨balanced_of_association hoverall, fun s hs => ?_⟩
    rcases Json.exists_mem_of_forall₂ hby_split.flip hs with ⟨split, _, hassociation⟩
    exact balanced_of_association hassociation.1

end Evaluation

end DetectorEvaluation

end LeoFlow
