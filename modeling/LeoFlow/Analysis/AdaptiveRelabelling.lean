import LeoFlow.Analysis.AdaptiveSymmetry
import LeoFlow.Contracts.Samples

/-!
# LeoFlow.Analysis.AdaptiveRelabelling — the labels of the patterns do not choose the windows

A table of scores whose patterns are relabelled selects the same exact windows, and the patterns that select
a window are relabelled with the table.
-/

namespace LeoFlow

namespace AdaptiveRefinement

/-- The score of a pattern under its new label. -/
def relabel (σ : ArtifactRef → ArtifactRef) (item : PatternScore) : PatternScore :=
  ⟨{ item.val with pattern_ref := σ item.val.pattern_ref }, item.ok⟩

/-- The same window, selected by the relabelled patterns. -/
structure SameWindow (σ : ArtifactRef → ArtifactRef) (e e' : ExactWindow) : Prop where
  index : e'.val.window_index = e.val.window_index
  stage : e'.val.stage = e.val.stage
  start : e'.val.start_sample = e.val.start_sample
  stop : e'.val.stop_sample = e.val.stop_sample
  reasons : e'.val.base_selection_reasons = e.val.base_selection_reasons
  selecting : ∀ q, q ∈ e'.val.selected_by_pattern_refs ↔ ∃ p ∈ e.val.selected_by_pattern_refs, σ p = q

/-- The same selection, of relabelled patterns. -/
structure Relabelled (σ : ArtifactRef → ArtifactRef) (s s' : Selection) : Prop where
  patterns : ∀ q, q ∈ s'.val.pattern_refs ↔ ∃ p ∈ s.val.pattern_refs, σ p = q
  base : s'.val.base_windows = s.val.base_windows
  windows : List.Forall₂ (SameWindow σ) s.val.exact_windows s'.val.exact_windows

/-- The labels stay apart. -/
def KeepsApart (σ : ArtifactRef → ArtifactRef) (pattern_scores : List PatternScore) : Prop :=
  ∀ p ∈ patterns pattern_scores, ∀ q ∈ patterns pattern_scores, σ p = σ q → p = q

/-- The digests of the new labels tell the patterns apart. -/
def DigestsApart (σ : ArtifactRef → ArtifactRef) (pattern_scores : List PatternScore) : Prop :=
  ∀ p ∈ patterns pattern_scores, ∀ q ∈ patterns pattern_scores, identity (σ p) = identity (σ q) → p = q

section Table

variable {σ : ArtifactRef → ArtifactRef} {pattern_scores : List PatternScore} {plan : Plan} {last : Int} {p q : ArtifactRef}

theorem DigestsApart.keepsApart (h : DigestsApart σ pattern_scores) : KeepsApart σ pattern_scores :=
  fun p hp q hq heq => h p hp q hq (congrArg identity heq)

theorem mem_patterns_relabel : q ∈ patterns (pattern_scores.map (relabel σ)) ↔ ∃ p ∈ patterns pattern_scores, σ p = q := by
  rw [mem_patterns]
  constructor
  · rintro ⟨item', hitem', rfl⟩
    obtain ⟨item, hitem, rfl⟩ := List.mem_map.1 hitem'
    exact ⟨_, mem_patterns.2 ⟨item, hitem, rfl⟩, rfl⟩
  · rintro ⟨p, hp, rfl⟩
    obtain ⟨item, hitem, rfl⟩ := mem_patterns.1 hp
    exact ⟨relabel σ item, List.mem_map_of_mem hitem, rfl⟩

/-- The scores of a pattern go with it. -/
theorem scoresOf_relabel (hσ : KeepsApart σ pattern_scores) (hp : p ∈ patterns pattern_scores) :
    scoresOf (pattern_scores.map (relabel σ)) (σ p) = scoresOf pattern_scores p := by
  unfold scoresOf
  rw [List.filter_map, List.map_map]
  have hfilter : (pattern_scores.filter fun item => decide (σ item.val.pattern_ref = σ p)) =
      pattern_scores.filter fun item => decide (item.val.pattern_ref = p) := by
    refine List.filter_congr fun item hitem => decide_eq_decide.2 ⟨fun heq => ?_, fun heq => congrArg σ heq⟩
    exact hσ _ (mem_patterns.2 ⟨item, hitem, rfl⟩) p hp heq
  exact congrArg (List.map entry) hfilter

theorem ranked_relabel (hσ : KeepsApart σ pattern_scores) (hp : p ∈ patterns pattern_scores) :
    ranked (pattern_scores.map (relabel σ)) plan (σ p) = ranked pattern_scores plan p := by
  unfold ranked
  rw [scoresOf_relabel hσ hp]

theorem distinct_relabel (hσ : KeepsApart σ pattern_scores) (h : Distinct pattern_scores) :
    Distinct (pattern_scores.map (relabel σ)) := by
  unfold Distinct
  rw [List.map_map]
  refine List.Nodup.map_on (fun a ha b hb heq => ?_) (List.Nodup.of_map _ h)
  obtain ⟨hpattern, hstart⟩ := Prod.ext_iff.1 heq
  have hsame : a.val.pattern_ref = b.val.pattern_ref :=
    hσ _ (mem_patterns.2 ⟨a, ha, rfl⟩) _ (mem_patterns.2 ⟨b, hb, rfl⟩) hpattern
  exact List.inj_on_of_nodup_map h ha hb (Prod.ext hsame hstart)

/-- Every pattern is one of the old ones, so there are as many. -/
theorem length_patterns_relabel (hσ : KeepsApart σ pattern_scores) :
    (patterns (pattern_scores.map (relabel σ))).length = (patterns pattern_scores).length := by
  have hnodup : ∀ scores : List PatternScore, (patterns scores).Nodup := fun scores =>
    (List.perm_insertionSort _ _).nodup_iff.2 (List.nodup_dedup _)
  have hmap : ((patterns pattern_scores).map σ).Nodup := List.Nodup.map_on hσ (hnodup pattern_scores)
  have hperm : (patterns (pattern_scores.map (relabel σ))).Perm ((patterns pattern_scores).map σ) := by
    refine (List.perm_ext_iff_of_nodup (hnodup _) hmap).2 fun q => ?_
    rw [mem_patterns_relabel, List.mem_map]
  rw [hperm.length_eq, List.length_map]

/-- The local windows are those of before, under the new labels. -/
theorem selectedBy_relabel {selected : List (Int × ArtifactRef)} (hσ : KeepsApart σ pattern_scores)
    (h : selectedBy pattern_scores plan last = .ok selected) :
    ∃ selected', selectedBy (pattern_scores.map (relabel σ)) plan last = .ok selected' ∧
      ∀ start q, (start, q) ∈ selected' ↔ ∃ p, σ p = q ∧ (start, p) ∈ selected := by
  have hlocal := exists_selectedBy.1 ⟨selected, h⟩
  have hlocal' : ∀ q ∈ patterns (pattern_scores.map (relabel σ)),
      ∀ center_start ∈ ranked (pattern_scores.map (relabel σ)) plan q, ∃ starts, localStarts plan last center_start = .ok starts := by
    intro q hq center_start hcentre
    obtain ⟨p, hp, rfl⟩ := mem_patterns_relabel.1 hq
    rw [ranked_relabel hσ hp] at hcentre
    exact hlocal p hp center_start hcentre
  obtain ⟨selected', h'⟩ := exists_selectedBy.2 hlocal'
  refine ⟨selected', h', fun start q => ?_⟩
  rw [selectedBy_ok h']
  constructor
  · rintro ⟨hq, center_start, hcentre, hstart⟩
    obtain ⟨p, hp, rfl⟩ := mem_patterns_relabel.1 hq
    rw [ranked_relabel hσ hp] at hcentre
    exact ⟨p, rfl, (selectedBy_ok h).2 ⟨hp, center_start, hcentre, hstart⟩⟩
  · rintro ⟨p, rfl, hmem⟩
    obtain ⟨hp, center_start, hcentre, hstart⟩ := (selectedBy_ok h).1 hmem
    rw [← ranked_relabel hσ hp] at hcentre
    exact ⟨mem_patterns_relabel.2 ⟨p, hp, rfl⟩, center_start, hcentre, hstart⟩

end Table

section Windows

variable {σ : ArtifactRef → ArtifactRef} {segment_sample_count : Int} {plan : Plan} {base_windows : List BaseWindow}
  {pattern_scores : List PatternScore} {selected selected' : List (Int × ArtifactRef)} {exact_windows : List ExactWindow}

/-- The exact window of a start, under the new labels. -/
theorem exactWindow_relabel {x : Int × Nat} {e : ExactWindow} (h : exactWindow plan base_windows selected x = .ok e)
    (hdigests : ∀ p start, (start, p) ∈ selected → ∀ q stop, (stop, q) ∈ selected → identity (σ p) = identity (σ q) → p = q)
    (hselected : ∀ start q, (start, q) ∈ selected' ↔ ∃ p, σ p = q ∧ (start, p) ∈ selected) :
    ∃ e', exactWindow plan base_windows selected' x = .ok e' ∧ SameWindow σ e e' := by
  have hmem : ∀ q, q ∈ selecting selected' x.1 ↔ ∃ p ∈ selecting selected x.1, σ p = q := by
    intro q
    rw [mem_selecting, hselected]
    refine exists_congr fun p => ?_
    rw [mem_selecting, and_comm]
  unfold exactWindow at h ⊢
  dsimp only at h ⊢
  split at h
  · -- a base window has no selecting patterns
    have hval := Checked.val_of_make h
    refine ⟨e, h, ⟨rfl, rfl, rfl, rfl, rfl, fun q => ?_⟩⟩
    rw [hval]
    exact ⟨fun hq => absurd hq List.not_mem_nil, fun ⟨_, hp, _⟩ => absurd hp List.not_mem_nil⟩
  · have hval : e.val = ⟨x.2, .local, x.1, x.1 + plan.val.probe_sample_count, [], selecting selected x.1⟩ := Checked.val_of_make h
    have hwindow := e.ok
    rw [hval] at hwindow
    unfold ExactWindow.Fields.post_init at hwindow
    simp only [checkAll_cons, raiseIf_ok] at hwindow
    obtain ⟨hgeometry, -, -, -, hsome, -⟩ := hwindow
    have hascending : ((selecting selected' x.1).map identity).Pairwise (· < ·) := by
      refine List.pairwise_map.2 (ascending_sortedBy fun q hq r hr heq => ?_)
      obtain ⟨p, hp, rfl⟩ := (hmem q).1 (mem_sortedBy.2 hq)
      obtain ⟨p', hp', rfl⟩ := (hmem r).1 (mem_sortedBy.2 hr)
      rw [hdigests p x.1 (mem_selecting.1 hp) p' x.1 (mem_selecting.1 hp') heq]
    have hsome' : selecting selected' x.1 ≠ [] := by
      obtain ⟨p, hp⟩ := List.exists_mem_of_ne_nil _ fun hnil => hsome ⟨by decide, hnil⟩
      exact List.ne_nil_of_mem ((hmem (σ p)).2 ⟨p, hp, rfl⟩)
    have hok : ExactWindow.Fields.post_init
        ⟨x.2, .local, x.1, x.1 + plan.val.probe_sample_count, [], selecting selected' x.1⟩ = .ok () := by
      unfold ExactWindow.Fields.post_init
      simp only [checkAll_cons, raiseIf_ok]
      refine ⟨hgeometry, not_not.2 (eq_sortedSet_iff.2 List.Pairwise.nil), not_not.2 (eq_sortedSet_iff.2 hascending), ?_, ?_, rfl⟩
      · rintro ⟨hstage, -⟩
        cases hstage
      · rintro ⟨-, hnil⟩
        exact hsome' hnil
    refine ⟨_, Checked.make_ok hok, ?_⟩
    refine ⟨?_, ?_, ?_, ?_, ?_, fun q => ?_⟩
    all_goals rw [hval]
    exact hmem q

/-- The exact windows of a relabelled table. -/
theorem SelectionOk.relabel (h : SelectionOk segment_sample_count plan base_windows pattern_scores selected exact_windows)
    (hdigests : DigestsApart σ pattern_scores) : ∃ selected' exact_windows',
    SelectionOk segment_sample_count plan base_windows (pattern_scores.map (relabel σ)) selected' exact_windows' ∧
      List.Forall₂ (SameWindow σ) exact_windows exact_windows' := by
  have hσ := hdigests.keepsApart
  obtain ⟨selected', hselected', hmem⟩ := selectedBy_relabel hσ h.selected_ok
  have hstarts : allStarts base_windows selected' = allStarts base_windows selected := by
    refine sortedSet_congr fun start => ?_
    rw [List.mem_append, List.mem_append]
    refine or_congr_right ⟨fun hstart => ?_, fun hstart => ?_⟩
    · obtain ⟨⟨_, q⟩, hq, rfl⟩ := List.mem_map.1 hstart
      obtain ⟨p, -, hp⟩ := (hmem _ q).1 hq
      exact List.mem_map.2 ⟨_, hp, rfl⟩
    · obtain ⟨⟨_, p⟩, hp, rfl⟩ := List.mem_map.1 hstart
      exact List.mem_map.2 ⟨_, (hmem _ (σ p)).2 ⟨p, rfl, hp⟩, rfl⟩
  have hpattern : ∀ {p start}, (start, p) ∈ selected → p ∈ patterns pattern_scores := fun hp =>
    ((selectedBy_ok h.selected_ok).1 hp).1
  have hwindow : ∀ x e, exactWindow plan base_windows selected x = .ok e →
      ∃ e', exactWindow plan base_windows selected' x = .ok e' ∧ SameWindow σ e e' := fun x e he =>
    exactWindow_relabel he (fun p _ hp q _ hq heq => hdigests p (hpattern hp) q (hpattern hq) heq) hmem
  obtain ⟨exact_windows', hwindows', hsame⟩ := exists_forall₂ h.windows hwindow
  have hnodup : ∀ q ∈ patterns (pattern_scores.map (AdaptiveRefinement.relabel σ)),
      ∀ r ∈ patterns (pattern_scores.map (AdaptiveRefinement.relabel σ)), identity q = identity r → q = r := by
    intro q hq r hr heq
    obtain ⟨p, hp, rfl⟩ := mem_patterns_relabel.1 hq
    obtain ⟨p', hp', rfl⟩ := mem_patterns_relabel.1 hr
    rw [hdigests p hp p' hp' heq]
  have hlength := length_patterns_relabel hσ
  refine ⟨selected', exact_windows', ⟨h.nonempty, h.ascending, distinct_relabel hσ h.distinct, ?_, ?_, hselected', ?_, ?_, ?_⟩, hsame⟩
  · rw [ne_eq, ← List.length_eq_zero_iff, hlength, List.length_eq_zero_iff]
    exact h.some_pattern
  · intro q hq
    obtain ⟨p, hp, rfl⟩ := mem_patterns_relabel.1 hq
    rw [scoresOf_relabel hσ hp]
    exact h.complete p hp
  · rw [hstarts]
    exact h.count
  · rw [hstarts]
    exact hwindows'
  · have hcontract := h.contract
    unfold Selection.Fields.post_init at hcontract ⊢
    simp only [checkAll_cons, raiseIf_ok] at hcontract ⊢
    obtain ⟨hschema, hfits, hold, hbase, hexact, hindex, hstart, hgeometry, hwarnings, -⟩ := hcontract
    have hcount : exact_windows'.length = exact_windows.length := hsame.length_eq.symm
    have hascending : ((patterns (pattern_scores.map (AdaptiveRefinement.relabel σ))).map identity).Pairwise (· < ·) :=
      List.pairwise_map.2 (ascending_sortedBy fun q hq r hr => hnodup q (mem_sortedBy.2 hq) r (mem_sortedBy.2 hr))
    have hindexes : exact_windows'.map (fun e => e.val.window_index) = exact_windows.map fun e => e.val.window_index :=
      map_of_forall₂ hsame fun _ _ hw => hw.index
    have hsame_starts : exact_windows'.map (fun e => e.val.start_sample) = exact_windows.map fun e => e.val.start_sample :=
      map_of_forall₂ hsame fun _ _ hw => hw.start
    refine ⟨hschema, hfits, ?_, hbase, ?_, ?_, ?_, ?_, hwarnings, rfl⟩
    · simp only [not_or, not_not, not_lt, List.length_map] at hold ⊢
      refine ⟨?_, eq_sortedSet_iff.2 hascending, ?_⟩
      · rw [List.map_eq_nil_iff, ← List.length_eq_zero_iff, hlength, List.length_eq_zero_iff]
        exact h.some_pattern
      · rw [hlength]
        exact hold.2.2
    · rw [← List.length_eq_zero_iff, hcount, List.length_eq_zero_iff]
      exact hexact
    · rw [hindexes, hcount]
      exact hindex
    · rw [hsame_starts]
      exact hstart
    · rintro ⟨e', he', hbad⟩
      obtain ⟨e, he, hw⟩ := Json.exists_mem_of_forall₂ hsame.flip he'
      rw [hw.start, hw.stop] at hbad
      exact hgeometry ⟨e, he, hbad⟩

end Windows

/-- Labels that keep the patterns apart: the relabelled table selects the same windows where it is accepted,
and it is accepted where the digests tell its patterns apart. -/
theorem selection_relabel {σ : ArtifactRef → ArtifactRef} {segment_sample_count : Int} {plan : Plan} {base_windows : List BaseWindow}
    {pattern_scores : List PatternScore} {selection : Selection}
    (h : adaptive_refinement_selection segment_sample_count plan base_windows pattern_scores = .ok selection)
    (hσ : KeepsApart σ pattern_scores) :
    (∀ selection', adaptive_refinement_selection segment_sample_count plan base_windows (pattern_scores.map (relabel σ)) =
      .ok selection' → Relabelled σ selection selection') ∧
    (DigestsApart σ pattern_scores → ∃ selection',
      adaptive_refinement_selection segment_sample_count plan base_windows (pattern_scores.map (relabel σ)) = .ok selection') := by
  obtain ⟨selected, exact_windows, hok, hval⟩ := selection_iff.1 h
  have hrun : DigestsApart σ pattern_scores → ∃ selection',
      adaptive_refinement_selection segment_sample_count plan base_windows (pattern_scores.map (relabel σ)) = .ok selection' ∧
        Relabelled σ selection selection' := by
    intro hdigests
    obtain ⟨selected', exact_windows', hok', hsame⟩ := hok.relabel hdigests
    refine ⟨_, selection_iff.2 ⟨selected', exact_windows', hok', (rfl : (⟨_, hok'.contract⟩ : Selection).val = _)⟩, ?_⟩
    refine ⟨fun q => ?_, ?_, ?_⟩
    · rw [hval]
      exact mem_patterns_relabel
    · rw [hval]
    · rw [hval]
      exact hsame
  refine ⟨fun selection' h' => ?_, fun hdigests => ?_⟩
  · obtain ⟨selected', exact_windows', hok', -⟩ := selection_iff.1 h'
    have hdigests : DigestsApart σ pattern_scores := fun p hp q hq heq => hσ p hp q hq
      (hok'.identity_injective _ (mem_patterns_relabel.2 ⟨p, hp, rfl⟩) _ (mem_patterns_relabel.2 ⟨q, hq, rfl⟩) heq)
    obtain ⟨_, hagain, hrelabelled⟩ := hrun hdigests
    cases h'.symm.trans hagain
    exact hrelabelled
  · obtain ⟨selection', hagain, -⟩ := hrun hdigests
    exact ⟨selection', hagain⟩

/-! ## The search -/

/-- The search covers the segment and treats the patterns alike. -/
theorem adaptive_search_symmetric {segment_sample_count : Int} {plan : Plan} {seeds : List PowerSeed} {base : List BaseWindow}
    {pattern_scores : List PatternScore} {selection : Selection}
    (hbase : adaptive_base_windows segment_sample_count plan seeds = .ok base)
    (hselection : adaptive_refinement_selection segment_sample_count plan base pattern_scores = .ok selection) :
    Spans segment_sample_count plan seeds base ∧
      Keeps segment_sample_count plan base pattern_scores selection.val.exact_windows ∧
      (∀ seeds', seeds.Perm seeds' → adaptive_base_windows segment_sample_count plan seeds' = .ok base) ∧
      (∀ pattern_scores', pattern_scores.Perm pattern_scores' →
        adaptive_refinement_selection segment_sample_count plan base pattern_scores' = .ok selection) ∧
      ∀ σ, KeepsApart σ pattern_scores →
        (∀ selection', adaptive_refinement_selection segment_sample_count plan base (pattern_scores.map (relabel σ)) =
          .ok selection' → Relabelled σ selection selection') ∧
        (DigestsApart σ pattern_scores → ∃ selection',
          adaptive_refinement_selection segment_sample_count plan base (pattern_scores.map (relabel σ)) = .ok selection') := by
  obtain ⟨grid, hgrid⟩ := base_iff.1 hbase
  obtain ⟨selected, exact_windows, hok, hval⟩ := selection_iff.1 hselection
  have hkeeps : Keeps segment_sample_count plan base pattern_scores selection.val.exact_windows := by
    rw [hval]
    exact hok.keeps
  exact ⟨hgrid.spans, hkeeps, fun _ hperm => adaptive_base_windows_perm hbase hperm, fun _ hperm => selection_perm hselection hperm,
    fun _ hσ => selection_relabel hselection hσ⟩

/-- Windows of four samples, a sentinel every eight, and one centre for a pattern. -/
def examplePlan : Plan := ⟨⟨4, 8, 2, 1, 1, 2, 128, 512, str "fixed-sentinels-plus-pattern-blind-power-seeds",
  str "equal-top-score-quota-per-pattern-then-search-pattern-union"⟩, by decide⟩

def exampleSeeds : List PowerSeed := [⟨0, 10, 12⟩, ⟨1, 13, 14⟩]

def exampleTarget : ArtifactRef := ⟨str "target", Sample.zeros, none, by decide⟩

def exampleSurrogate : ArtifactRef := ⟨str "surrogate", Sample.ones, none, by decide⟩

/-- A score of nothing. -/
def silent (pattern_ref : ArtifactRef) (start : Nat) : PatternScore :=
  ⟨⟨pattern_ref, start, .zero false⟩, by
    simp only [PatternScore.Fields.post_init, checkAll_cons, raiseIf_ok]
    exact ⟨by omega, by decide, by decide +kernel, rfl⟩⟩

/-- The target scores alike everywhere, the surrogate highest at the end. -/
def exampleScores : List PatternScore :=
  [0, 8, 9, 11, 16, 20].map (silent exampleTarget) ++ [0, 8, 9, 11, 16].map (silent exampleSurrogate) ++
    [⟨⟨exampleSurrogate, 20, PyFloat.ofRatio false 1 2⟩, by decide +kernel⟩]

theorem example_runs : ∃ base selection, adaptive_base_windows 24 examplePlan exampleSeeds = .ok base ∧
    adaptive_refinement_selection 24 examplePlan base exampleScores = .ok selection := by
  have hrun : ((adaptive_base_windows 24 examplePlan exampleSeeds).bind fun base =>
      adaptive_refinement_selection 24 examplePlan base exampleScores).toOption.isSome = true := by decide +kernel
  obtain ⟨selection, hselection⟩ := Option.isSome_iff_exists.1 hrun
  obtain ⟨base, hbase, hselection⟩ := bind_ok.1 (mem_toOption.1 hselection)
  exact ⟨base, selection, hbase, hselection⟩

theorem adaptive_search_symmetric_example : ∃ (base : List BaseWindow) (selection : Selection), Spans 24 examplePlan exampleSeeds base ∧
    Keeps 24 examplePlan base exampleScores selection.val.exact_windows := by
  obtain ⟨base, selection, hbase, hselection⟩ := example_runs
  have h := adaptive_search_symmetric hbase hselection
  exact ⟨base, selection, h.1, h.2.1⟩

end AdaptiveRefinement

end LeoFlow
