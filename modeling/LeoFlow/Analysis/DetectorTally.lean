import LeoFlow.Analysis.DetectorEvaluation

/-!
# LeoFlow.Analysis.DetectorTally — what the pass over the feature sets collects

The pass is a fold of `Tally.record` over the firings of all scores. What is collected
depends on which firings there were (`Tallied`), so not on their order, and the fold
accepts them exactly when no method fires twice for a window.
-/

namespace LeoFlow

namespace DetectorEvaluation

/-! ## The firings -/

section Firings

variable (dataset : DatasetSnapshotBundle) (feature_sets : Table PyStr FeatureSetBundle) (rule : ThresholdRule)

/-- The firings of one feature set, which is verified first. -/
def featureFirings (feature_id : PyStr) : Except PyError (List Firing) := do
  let bundle ← present (feature_sets.lookup feature_id)
  let member ← present (memberByFeature dataset feature_id)
  verifyFeatureSet member bundle
  bundle.val.method_scores.mapM (firingOf rule feature_id member)

variable {dataset feature_sets rule} {t t' : Tally} {feature_id : PyStr}

theorem present_ok {α : Type} {value : Option α} {a : α} : present value = .ok a ↔ value = some a := by
  cases value with
  | none => simp [present]
  | some b => simp [present]

theorem collectFeature_ok : collectFeature dataset feature_sets rule t feature_id = .ok t' ↔
    ∃ fs, featureFirings dataset feature_sets rule feature_id = .ok fs ∧ fs.foldlM Tally.record t = .ok t' := by
  unfold collectFeature featureFirings
  constructor
  · intro h
    rcases bind_ok.1 h with ⟨bundle, hbundle, h1⟩
    rcases bind_ok.1 h1 with ⟨member, hmember, h2⟩
    rcases bind_ok.1 h2 with ⟨_, hverify, h3⟩
    rcases foldlM_convert.1 h3 with ⟨fs, hfs, hfold⟩
    exact ⟨fs, bind_ok.2 ⟨bundle, hbundle, bind_ok.2 ⟨member, hmember, bind_ok.2 ⟨(), hverify, hfs⟩⟩⟩, hfold⟩
  · rintro ⟨fs, h, hfold⟩
    rcases bind_ok.1 h with ⟨bundle, hbundle, h1⟩
    rcases bind_ok.1 h1 with ⟨member, hmember, h2⟩
    rcases bind_ok.1 h2 with ⟨_, hverify, hfs⟩
    exact bind_ok.2 ⟨bundle, hbundle, bind_ok.2 ⟨member, hmember, bind_ok.2
      ⟨(), hverify, foldlM_convert.2 ⟨fs, hfs, hfold⟩⟩⟩⟩

/-- The pass accepts the firings of all feature sets. -/
theorem collect_ok : collect dataset feature_sets rule = .ok t ↔
    ∃ fss, (feature_sets.keys.insertionSort (· ≤ ·)).mapM (featureFirings dataset feature_sets rule) = .ok fss ∧
      fss.flatten.foldlM Tally.record {} = .ok t := by
  have hround : ∀ t feature_id t', collectFeature dataset feature_sets rule t feature_id = .ok t' ↔
      (featureFirings dataset feature_sets rule feature_id >>= fun fs => fs.foldlM Tally.record t) = .ok t' := by
    intro t feature_id t'
    rw [collectFeature_ok, bind_ok]
  refine (foldlM_congr_ok hround).trans (foldlM_convert.trans (exists_congr fun fss => and_congr_right fun _ => ?_))
  rw [← foldlM_lists]

end Firings

/-! ## What is recorded -/

/-- The method that fired, or did not, and for which window. -/
def Firing.key (f : Firing) : Window × PyStr := (f.window, f.method)

/-- The tally after the firings `E`. -/
structure Tallied (t : Tally) (E : List Firing) : Prop where
  cell : ∀ w m b, (t.row w).lookup m = some b ↔ ∃ f ∈ E, f.window = w ∧ f.method = m ∧ f.fired = b
  window : ∀ w, w ∈ t.rows ↔ ∃ f ∈ E, f.window = w
  present : ∀ id m, m ∈ t.present_by_feature.get id ↔ ∃ f ∈ E, f.window.feature_set_id = id ∧ f.method = m
  fired : ∀ id m, m ∈ t.fired_by_feature.get id ↔
    ∃ f ∈ E, f.window.feature_set_id = id ∧ f.method = m ∧ f.fired = true
  semantics : ∀ m s, s ∈ t.semantics.get m ↔ ∃ f ∈ E, f.method = m ∧ f.score_semantics = s

section Tallied

variable {t t' : Tally} {E E' : List Firing} {f : Firing}

theorem mem_get_add {sets : SetTable} {key key' item item' : PyStr} :
    item' ∈ (sets.add key item).get key' ↔ item' ∈ sets.get key' ∨ key = key' ∧ item = item' := by
  unfold SetTable.add SetTable.get
  rw [Table.lookup_insert_ite]
  by_cases h : key' = key
  · subst h
    simp [or_comm, eq_comm]
  · simp [h, Ne.symm h]

theorem row_record {rows : Table Window (Table PyStr Bool)} (w : Window) :
    ((rows.insert f.window (((rows.lookup f.window).getD ∅).insert f.method f.fired)).lookup w).getD ∅ =
      if w = f.window then ((rows.lookup f.window).getD ∅).insert f.method f.fired else (rows.lookup w).getD ∅ := by
  rw [Table.lookup_insert_ite]
  split <;> rfl

theorem tallied_empty : Tallied {} [] where
  cell w m b := by
    have h : (Tally.row {} w).lookup m = none := rfl
    simp [h]
  window w := by simp
  present id m := by
    have h : SetTable.get ∅ id = ∅ := rfl
    simp [h]
  fired id m := by
    have h : SetTable.get ∅ id = ∅ := rfl
    simp [h]
  semantics m s := by
    have h : SetTable.get ∅ m = ∅ := rfl
    simp [h]

/-- A firing is refused exactly when its method has scored its window. -/
theorem Tallied.record_iff (h : Tallied t E) : (∃ t', t.record f = .ok t') ↔ f.key ∉ E.map Firing.key := by
  have hnone : (t.row f.window).lookup f.method = none ↔ f.key ∉ E.map Firing.key := by
    rw [List.mem_map]
    constructor
    · rintro hnone ⟨g, hg, hkey⟩
      have hsome := (h.cell f.window f.method g.fired).2 ⟨g, hg, congrArg Prod.fst hkey, congrArg Prod.snd hkey, rfl⟩
      rw [hnone] at hsome
      cases hsome
    · intro hnot
      cases hlookup : (t.row f.window).lookup f.method with
      | none => rfl
      | some b =>
        rcases (h.cell f.window f.method b).1 hlookup with ⟨g, hg, hwindow, hmethod, _⟩
        exact absurd ⟨g, hg, Prod.ext hwindow hmethod⟩ hnot
  rw [← hnone]
  constructor
  · rintro ⟨t', h'⟩
    rcases bind_ok.1 h' with ⟨_, hfree, _⟩
    exact not_not.1 (raiseIf_ok.1 hfree)
  · intro hfree
    exact ⟨_, bind_ok.2 ⟨(), raiseIf_ok.2 (not_not.2 hfree), rfl⟩⟩

theorem Tallied.record (h : Tallied t E) (hrecord : t.record f = .ok t') : Tallied t' (E ++ [f]) := by
  have hnew := h.record_iff.1 ⟨t', hrecord⟩
  rcases bind_ok.1 hrecord with ⟨_, _, h1⟩
  cases h1
  -- every table has what it had, and what the firing adds
  have hexists : ∀ P : Firing → Prop, (∃ g ∈ E ++ [f], P g) ↔ (∃ g ∈ E, P g) ∨ P f := by
    intro P
    simp [or_and_right, exists_or]
  constructor
  · intro w m b
    rw [hexists, ← h.cell]
    unfold Tally.row
    rw [row_record]
    by_cases hw : w = f.window
    · subst hw
      rw [if_pos rfl, Table.lookup_insert_ite]
      by_cases hm : m = f.method
      · subst hm
        have hnone : (t.row f.window).lookup f.method = none := by
          cases hlookup : (t.row f.window).lookup f.method with
          | none => rfl
          | some b' =>
            rcases (h.cell f.window f.method b').1 hlookup with ⟨g, hg, hwindow, hmethod, _⟩
            exact absurd (List.mem_map.2 ⟨g, hg, Prod.ext hwindow hmethod⟩) hnew
        unfold Tally.row at hnone
        simp [hnone]
      · simp [hm, Ne.symm hm]
    · simp [hw, Ne.symm hw]
  · intro w
    rw [hexists, ← h.window, AList.mem_insert]
    simp [or_comm, eq_comm]
  · intro id m
    rw [hexists, ← h.present, mem_get_add]
  · intro id m
    rw [hexists, ← h.fired]
    dsimp only
    cases hfired : f.fired with
    | true => simp [mem_get_add]
    | false => simp
  · intro m s
    rw [hexists, ← h.semantics, mem_get_add]

/-- The fold accepts firings with distinct keys, and no others. -/
theorem Tallied.fold_iff {more : List Firing} (h : Tallied t E) (hdistinct : (E.map Firing.key).Nodup) :
    (∃ t', more.foldlM Tally.record t = .ok t') ↔ ((E ++ more).map Firing.key).Nodup := by
  induction more generalizing t E with
  | nil =>
    rw [List.append_nil]
    exact iff_of_true ⟨t, rfl⟩ hdistinct
  | cons f more ih =>
    have happend : E ++ f :: more = (E ++ [f]) ++ more := by rw [List.append_assoc]; rfl
    constructor
    · rintro ⟨t', hfold⟩
      rw [List.foldlM_cons] at hfold
      rcases bind_ok.1 hfold with ⟨u, hrecord, hrest⟩
      have hnew := h.record_iff.1 ⟨u, hrecord⟩
      rw [happend]
      refine (ih (h.record hrecord) ?_).1 ⟨t', hrest⟩
      rw [List.map_append, List.map_singleton, List.nodup_append_comm]
      exact List.nodup_cons.2 ⟨hnew, hdistinct⟩
    · intro hnodup
      rw [happend, List.map_append] at hnodup
      have hfront := hnodup.of_append_left
      rw [List.map_append, List.map_singleton, List.nodup_append_comm] at hfront
      rcases h.record_iff.2 (List.nodup_cons.1 hfront).1 with ⟨u, hrecord⟩
      have hfront' : ((E ++ [f]).map Firing.key).Nodup := by
        exact hnodup.of_append_left
      rcases (ih (h.record hrecord) hfront').2 (by rw [List.map_append]; exact hnodup) with ⟨t', hrest⟩
      exact ⟨t', by rw [List.foldlM_cons]; exact bind_ok.2 ⟨u, hrecord, hrest⟩⟩

theorem Tallied.fold {more : List Firing} (h : Tallied t E) (hfold : more.foldlM Tally.record t = .ok t') :
    Tallied t' (E ++ more) := by
  induction more generalizing t E with
  | nil =>
    cases hfold
    rwa [List.append_nil]
  | cons f more ih =>
    rw [List.foldlM_cons] at hfold
    rcases bind_ok.1 hfold with ⟨u, hrecord, hrest⟩
    have := ih (h.record hrecord) hrest
    rwa [List.append_assoc] at this

end Tallied

/-! ## The order of the firings -/

/-- Two tallies with the same content. -/
structure Agree (t t' : Tally) : Prop where
  windows : t.rows.keys.Perm t'.rows.keys
  cell : ∀ w m, (t.row w).lookup m = (t'.row w).lookup m
  present : ∀ id, t.present_by_feature.get id = t'.present_by_feature.get id
  fired : ∀ id, t.fired_by_feature.get id = t'.fired_by_feature.get id
  semantics : ∀ m, t.semantics.get m = t'.semantics.get m

/-- The same firings in another order make the same tally. -/
theorem Tallied.agree {t t' : Tally} {E E' : List Firing} (h : Tallied t E) (h' : Tallied t' E')
    (hperm : E.Perm E') : Agree t t' := by
  have hexists : ∀ P : Firing → Prop, (∃ f ∈ E, P f) ↔ ∃ f ∈ E', P f := by
    intro P
    exact exists_congr fun f => and_congr_left fun _ => hperm.mem_iff
  refine ⟨?_, ?_, ?_, ?_, ?_⟩
  · refine (List.perm_ext_iff_of_nodup t.rows.keys_nodup t'.rows.keys_nodup).2 fun w => ?_
    rw [← AList.mem_keys, ← AList.mem_keys, h.window, h'.window, hexists]
  · intro w m
    refine Option.ext fun b => ?_
    rw [h.cell, h'.cell, hexists]
  · intro id
    refine Finset.ext fun m => ?_
    rw [h.present, h'.present, hexists]
  · intro id
    refine Finset.ext fun m => ?_
    rw [h.fired, h'.fired, hexists]
  · intro m
    refine Finset.ext fun s => ?_
    rw [h.semantics, h'.semantics, hexists]

/-- And are accepted in that order too. -/
theorem exists_agree {E E' : List Firing} {t : Tally} (hfold : E.foldlM Tally.record {} = .ok t)
    (hperm : E.Perm E') : ∃ t', E'.foldlM Tally.record {} = .ok t' ∧ Agree t t' := by
  have hdistinct := (tallied_empty.fold_iff .nil).1 ⟨t, hfold⟩
  have hdistinct' : (([] ++ E').map Firing.key).Nodup := (hperm.map Firing.key).nodup_iff.1 hdistinct
  rcases (tallied_empty.fold_iff .nil).2 hdistinct' with ⟨t', hfold'⟩
  exact ⟨t', hfold', (tallied_empty.fold hfold).agree (tallied_empty.fold hfold') hperm⟩

end DetectorEvaluation

end LeoFlow
