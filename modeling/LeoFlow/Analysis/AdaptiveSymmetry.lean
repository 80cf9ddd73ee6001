import LeoFlow.Analysis.AdaptiveBase
import LeoFlow.Core.Ranking

/-!
# LeoFlow.Analysis.AdaptiveSymmetry — the search covers, and treats the patterns alike

The exact windows keep the base windows and the local windows around the centres of every pattern. The
labels of the patterns and the order of the scores have no influence on the windows.
-/

namespace LeoFlow

namespace AdaptiveRefinement

/-! ## Centres -/

/-- `other` ranks before `item`: its score is higher, or as high at an earlier start. -/
def Before (other item : PatternScore) : Prop :=
  item.val.score.value < other.val.score.value ∨
    item.val.score.value = other.val.score.value ∧ other.val.start_sample < item.val.start_sample

instance (other item : PatternScore) : Decidable (Before other item) := inferInstanceAs (Decidable (_ ∨ _))

/-- A top score of its pattern: fewer scores than the quota rank before it. -/
def IsCentre (pattern_scores : List PatternScore) (plan : Plan) (item : PatternScore) : Prop :=
  item ∈ pattern_scores ∧
    ((pattern_scores.filter fun other => decide (other.val.pattern_ref = item.val.pattern_ref ∧ Before other item)).length : Int) <
      plan.val.candidate_centers_per_pattern

/-- A start of the local grid around a centre, clipped at the ends of the segment. -/
def LocalStart (plan : Plan) (last center_start start : Int) : Prop :=
  (∃ i : Nat, start = max 0 (center_start - plan.val.local_radius_samples) + i * plan.val.local_stride_samples ∧
    start ≤ min last (center_start + plan.val.local_radius_samples)) ∨
    start = min last (center_start + plan.val.local_radius_samples)

/-- The start and the score of an item. -/
def entry (item : PatternScore) : Int × PyFloat := (item.val.start_sample, item.val.score)

/-- No pattern has two scores at one start. -/
def Distinct (pattern_scores : List PatternScore) : Prop :=
  (pattern_scores.map fun item => (item.val.pattern_ref, item.val.start_sample)).Nodup

section Centres

variable {pattern_scores : List PatternScore} {plan : Plan} {last : Int} {p : ArtifactRef}

theorem scoreKey_lt {other item : PatternScore} : scoreKey (entry other) < scoreKey (entry item) ↔ Before other item := by
  unfold scoreKey entry Before
  rw [Prod.Lex.toLex_lt_toLex]
  simp only [neg_lt_neg_iff, neg_inj]
  exact or_congr_right (and_congr_left' eq_comm)

theorem mem_scoresOf {x : Int × PyFloat} :
    x ∈ scoresOf pattern_scores p ↔ ∃ item ∈ pattern_scores, item.val.pattern_ref = p ∧ entry item = x := by
  unfold scoresOf
  rw [List.mem_map]
  constructor
  · rintro ⟨item, hitem, rfl⟩
    obtain ⟨hmem, hpattern⟩ := List.mem_filter.1 hitem
    exact ⟨item, hmem, of_decide_eq_true hpattern, rfl⟩
  · rintro ⟨item, hmem, hpattern, rfl⟩
    exact ⟨item, List.mem_filter.2 ⟨hmem, decide_eq_true hpattern⟩, rfl⟩

theorem mem_patterns : p ∈ patterns pattern_scores ↔ ∃ item ∈ pattern_scores, item.val.pattern_ref = p := by
  rw [patterns, mem_sortedBy, List.mem_map]

theorem Distinct.nodup_starts (h : Distinct pattern_scores) (p : ArtifactRef) :
    ((scoresOf pattern_scores p).map Prod.fst).Nodup := by
  have hscores : pattern_scores.Nodup := List.Nodup.of_map _ h
  unfold scoresOf
  rw [List.map_map]
  refine List.Nodup.map_on ?_ (hscores.filter _)
  intro a ha b hb heq
  obtain ⟨ha, hpa⟩ := List.mem_filter.1 ha
  obtain ⟨hb, hpb⟩ := List.mem_filter.1 hb
  have hstart : a.val.start_sample = b.val.start_sample := heq
  refine List.inj_on_of_nodup_map h ha hb ?_
  rw [of_decide_eq_true hpa, of_decide_eq_true hpb, hstart]

/-- The scores of a pattern have different keys. -/
theorem Distinct.key (h : Distinct pattern_scores) :
    ∀ a ∈ scoresOf pattern_scores p, ∀ b ∈ scoresOf pattern_scores p, scoreKey a = scoreKey b → a = b := by
  intro a ha b hb heq
  have hkey : -a.2.value = -b.2.value ∧ a.1 = b.1 := Prod.ext_iff.1 (toLex.injective heq)
  exact List.inj_on_of_nodup_map (h.nodup_starts p) ha hb hkey.2

theorem Distinct.nodup_scoresOf (h : Distinct pattern_scores) (p : ArtifactRef) : (scoresOf pattern_scores p).Nodup :=
  List.Nodup.of_map _ (h.nodup_starts p)

/-- The quota takes the top scores. -/
theorem mem_ranked (h : Distinct pattern_scores) {center_start : Int} : center_start ∈ ranked pattern_scores plan p ↔
    ∃ item, IsCentre pattern_scores plan item ∧ item.val.pattern_ref = p ∧ item.val.start_sample = center_start := by
  have hascending := ascending_sorted (h.nodup_scoresOf p) h.key
  have hperm : ((scoresOf pattern_scores p).insertionSort fun a b => scoreKey a ≤ scoreKey b).Perm (scoresOf pattern_scores p) :=
    List.perm_insertionSort _ _
  have hcount : ∀ item : PatternScore, item.val.pattern_ref = p →
      (((scoresOf pattern_scores p).insertionSort fun a b => scoreKey a ≤ scoreKey b).filter
        fun y => decide (scoreKey y < scoreKey (entry item))).length =
      (pattern_scores.filter fun other => decide (other.val.pattern_ref = item.val.pattern_ref ∧ Before other item)).length := by
    intro item hpattern
    rw [(hperm.filter _).length_eq, scoresOf, List.filter_map, List.length_map, List.filter_filter, hpattern]
    refine congrArg List.length (List.filter_congr fun other _ => ?_)
    simp only [Function.comp_apply]
    rw [Bool.and_comm, ← Bool.decide_and]
    exact decide_eq_decide.2 (and_congr_right' scoreKey_lt)
  have hquota : ∀ k : Nat, k < plan.val.candidate_centers_per_pattern.toNat ↔ (k : Int) < plan.val.candidate_centers_per_pattern :=
    fun k => Int.lt_toNat
  unfold ranked
  rw [List.mem_map]
  constructor
  · rintro ⟨x, hx, rfl⟩
    obtain ⟨hmem, hlt⟩ := (Ranking.mem_take_key_iff hascending _).1 hx
    obtain ⟨item, hitem, hpattern, rfl⟩ := mem_scoresOf.1 (hperm.mem_iff.1 hmem)
    rw [hcount item hpattern, hquota] at hlt
    exact ⟨item, ⟨hitem, hlt⟩, hpattern, rfl⟩
  · rintro ⟨item, ⟨hitem, hlt⟩, hpattern, rfl⟩
    refine ⟨entry item, (Ranking.mem_take_key_iff hascending _).2 ⟨?_, ?_⟩, rfl⟩
    · exact hperm.mem_iff.2 (mem_scoresOf.2 ⟨item, hitem, hpattern, rfl⟩)
    · rw [hcount item hpattern, hquota]
      exact hlt

theorem localStarts_ok {center_start : Int} {starts : List Int} (h : localStarts plan last center_start = .ok starts) {start : Int} :
    start ∈ starts ↔ LocalStart plan last center_start start :=
  mem_gridStarts (plan_positive plan).2.2.2 h

end Centres

/-! ## Local windows -/

section Local

variable {pattern_scores : List PatternScore} {plan : Plan} {last : Int} {selected : List (Int × ArtifactRef)}

/-- The local starts of every pattern. -/
theorem selectedBy_ok (h : selectedBy pattern_scores plan last = .ok selected) {start : Int} {p : ArtifactRef} :
    (start, p) ∈ selected ↔
      p ∈ patterns pattern_scores ∧ ∃ center_start ∈ ranked pattern_scores plan p, LocalStart plan last center_start start := by
  obtain ⟨lists, hlists, hselected⟩ := bind_ok.1 h
  cases hselected
  have heach := mapM_ok.1 hlists
  rw [List.mem_flatten]
  constructor
  · rintro ⟨xs, hxs, hx⟩
    obtain ⟨q, hq, hrow⟩ := Json.exists_mem_of_forall₂ heach.flip hxs
    obtain ⟨grids, hgrids, hpairs⟩ := bind_ok.1 hrow
    cases hpairs
    obtain ⟨x, hstart, heq⟩ := List.mem_map.1 hx
    cases heq
    obtain ⟨grid, hgrid, hin⟩ := List.mem_flatten.1 hstart
    obtain ⟨center_start, hcentre, hlocal⟩ := Json.exists_mem_of_forall₂ (mapM_ok.1 hgrids).flip hgrid
    exact ⟨hq, center_start, hcentre, (localStarts_ok hlocal).1 hin⟩
  · rintro ⟨hp, center_start, hcentre, hstart⟩
    obtain ⟨xs, hxs, hrow⟩ := Json.exists_mem_of_forall₂ heach hp
    obtain ⟨grids, hgrids, hpairs⟩ := bind_ok.1 hrow
    cases hpairs
    obtain ⟨grid, hgrid, hlocal⟩ := Json.exists_mem_of_forall₂ (mapM_ok.1 hgrids) hcentre
    exact ⟨_, hxs, List.mem_map.2 ⟨start, List.mem_flatten.2 ⟨grid, hgrid, (localStarts_ok hlocal).2 hstart⟩, rfl⟩⟩

/-- The grids exist around every centre. -/
theorem exists_selectedBy : (∃ selected, selectedBy pattern_scores plan last = .ok selected) ↔
    ∀ p ∈ patterns pattern_scores, ∀ center_start ∈ ranked pattern_scores plan p, ∃ starts,
      localStarts plan last center_start = .ok starts := by
  constructor
  · rintro ⟨selected, h⟩ p hp center_start hcentre
    obtain ⟨lists, hlists, -⟩ := bind_ok.1 h
    obtain ⟨xs, -, hrow⟩ := Json.exists_mem_of_forall₂ (mapM_ok.1 hlists) hp
    obtain ⟨grids, hgrids, -⟩ := bind_ok.1 hrow
    obtain ⟨grid, -, hlocal⟩ := Json.exists_mem_of_forall₂ (mapM_ok.1 hgrids) hcentre
    exact ⟨grid, hlocal⟩
  · intro h
    have hrows : ∃ lists, ((patterns pattern_scores).mapM fun pattern_ref => do
        let starts ← (ranked pattern_scores plan pattern_ref).mapM (localStarts plan last)
        pure (starts.flatten.map fun start => (start, pattern_ref))) = Except.ok (ε := PyError) lists := by
      refine exists_mapM_ok fun p hp => ?_
      obtain ⟨grids, hgrids⟩ := exists_mapM_ok (h p hp)
      exact ⟨_, bind_ok.2 ⟨grids, hgrids, rfl⟩⟩
    obtain ⟨lists, hlists⟩ := hrows
    exact ⟨lists.flatten, bind_ok.2 ⟨lists, hlists, rfl⟩⟩

end Local

/-! ## The selection -/

/-- The patterns that select a local start. -/
def selecting (selected : List (Int × ArtifactRef)) (start : Int) : List ArtifactRef :=
  sortedBy identity ((selected.filter fun y => decide (y.1 = start)).map Prod.snd)

theorem mem_selecting {selected : List (Int × ArtifactRef)} {start : Int} {p : ArtifactRef} :
    p ∈ selecting selected start ↔ (start, p) ∈ selected := by
  unfold selecting
  rw [mem_sortedBy, List.mem_map]
  constructor
  · rintro ⟨y, hy, rfl⟩
    obtain ⟨hmem, heq⟩ := List.mem_filter.1 hy
    rwa [← of_decide_eq_true heq]
  · intro h
    exact ⟨_, List.mem_filter.2 ⟨h, decide_eq_true rfl⟩, rfl⟩

/-- The starts of the base windows. -/
def baseStarts (base_windows : List BaseWindow) : List Int := base_windows.map fun item => item.val.start_sample

/-- The starts of the exact windows. -/
def allStarts (base_windows : List BaseWindow) (selected : List (Int × ArtifactRef)) : List Int :=
  sortedSet (baseStarts base_windows ++ selected.map Prod.fst)

/-- What a successful selection passed. -/
structure SelectionOk (segment_sample_count : Int) (plan : Plan) (base_windows : List BaseWindow)
    (pattern_scores : List PatternScore) (selected : List (Int × ArtifactRef)) (exact_windows : List ExactWindow) : Prop where
  nonempty : baseStarts base_windows ≠ []
  ascending : (baseStarts base_windows).Pairwise (· < ·)
  distinct : Distinct pattern_scores
  some_pattern : patterns pattern_scores ≠ []
  complete : ∀ p ∈ patterns pattern_scores, sortedSet ((scoresOf pattern_scores p).map Prod.fst) = baseStarts base_windows
  selected_ok : selectedBy pattern_scores plan (segment_sample_count - plan.val.probe_sample_count) = .ok selected
  count : ((allStarts base_windows selected).length : Int) ≤ plan.val.maximum_exact_windows
  windows : List.Forall₂ (fun x e => exactWindow plan base_windows selected x = .ok e)
    (allStarts base_windows selected).zipIdx exact_windows
  contract : Selection.Fields.post_init ⟨Selection.schema, segment_sample_count, plan, patterns pattern_scores, base_windows,
    exact_windows, requiredWarnings⟩ = .ok ()

section Selection

variable {segment_sample_count : Int} {plan : Plan} {base_windows : List BaseWindow} {pattern_scores : List PatternScore}
  {selection : Selection}

theorem selection_iff : adaptive_refinement_selection segment_sample_count plan base_windows pattern_scores = .ok selection ↔
    ∃ selected exact_windows, SelectionOk segment_sample_count plan base_windows pattern_scores selected exact_windows ∧
      selection.val = ⟨Selection.schema, segment_sample_count, plan, patterns pattern_scores, base_windows, exact_windows,
        requiredWarnings⟩ := by
  unfold adaptive_refinement_selection
  constructor
  · intro h
    obtain ⟨_, hcanonical, h⟩ := bind_ok.1 h
    obtain ⟨_, hdistinct, h⟩ := bind_ok.1 h
    obtain ⟨_, hcomplete, h⟩ := bind_ok.1 h
    obtain ⟨selected, hselected, h⟩ := bind_ok.1 h
    obtain ⟨_, hcount, h⟩ := bind_ok.1 h
    obtain ⟨exact_windows, hexact, h⟩ := bind_ok.1 h
    have hval := Checked.val_of_make h
    have hok := selection.ok
    rw [hval] at hok
    have hnodup := not_not.1 (raiseIf_ok.1 hdistinct)
    obtain ⟨hnonempty, hascending⟩ := not_or.1 (raiseIf_ok.1 hcanonical)
    obtain ⟨hpattern, hscored⟩ := not_or.1 (raiseIf_ok.1 hcomplete)
    refine ⟨selected, exact_windows, ⟨hnonempty, eq_sortedSet_iff.1 (not_not.1 hascending), hnodup,
      hpattern, fun p hp => ?_, hselected, not_lt.1 (raiseIf_ok.1 hcount), mapM_ok.1 hexact, hok⟩, hval⟩
    by_contra hne
    exact hscored ⟨p, hp, hne⟩
  · rintro ⟨selected, exact_windows, h, hval⟩
    refine bind_ok.2 ⟨(), raiseIf_ok.2 (not_or.2 ⟨h.nonempty, not_not.2 (eq_sortedSet_iff.2 h.ascending)⟩), ?_⟩
    refine bind_ok.2 ⟨(), raiseIf_ok.2 (not_not.2 (show List.Nodup _ from h.distinct)), ?_⟩
    refine bind_ok.2 ⟨(), raiseIf_ok.2 (not_or.2 ⟨h.some_pattern, ?_⟩), ?_⟩
    · rintro ⟨p, hp, hne⟩
      exact hne (h.complete p hp)
    refine bind_ok.2 ⟨selected, h.selected_ok, bind_ok.2 ⟨(), raiseIf_ok.2 (not_lt.2 h.count), ?_⟩⟩
    refine bind_ok.2 ⟨exact_windows, mapM_ok.2 h.windows, ?_⟩
    refine (Checked.make_ok h.contract).trans (congrArg Except.ok ?_)
    exact Checked.ext hval.symm

/-- An exact window is a base window as it stands, or a local window with the patterns that select it. -/
theorem exactWindow_ok {selected : List (Int × ArtifactRef)} {x : Int × Nat} {e : ExactWindow}
    (h : exactWindow plan base_windows selected x = .ok e) :
    (∃ w ∈ base_windows, w.val.start_sample = x.1 ∧
      e.val = ⟨x.2, .base, x.1, x.1 + plan.val.probe_sample_count, w.val.selection_reasons, []⟩) ∨
    ((∀ w ∈ base_windows, w.val.start_sample ≠ x.1) ∧
      e.val = ⟨x.2, .local, x.1, x.1 + plan.val.probe_sample_count, [], selecting selected x.1⟩) := by
  have hval := Checked.val_of_make h
  split at hval
  · rename_i w hw
    have hstart := List.find?_some hw
    exact Or.inl ⟨w, List.mem_of_find?_eq_some hw, of_decide_eq_true hstart, hval⟩
  · rename_i hnone
    exact Or.inr ⟨fun w hw heq => List.find?_eq_none.1 hnone w hw (decide_eq_true heq), hval⟩

section Ok

variable {selected : List (Int × ArtifactRef)} {exact_windows : List ExactWindow}
  (h : SelectionOk segment_sample_count plan base_windows pattern_scores selected exact_windows)
include h

theorem SelectionOk.digests : ((patterns pattern_scores).map identity).Pairwise (· < ·) ∧
    (patterns pattern_scores).length ≤ MAXIMUM_ADAPTIVE_PATTERNS := by
  have hcontract := h.contract
  unfold Selection.Fields.post_init at hcontract
  simp only [checkAll_cons, raiseIf_ok] at hcontract
  obtain ⟨-, -, hdigests, -⟩ := hcontract
  simp only [not_or, not_not, not_lt, List.length_map] at hdigests
  exact ⟨eq_sortedSet_iff.1 hdigests.2.1, hdigests.2.2⟩

/-- The digests tell the patterns apart. -/
theorem SelectionOk.identity_injective : ∀ p ∈ patterns pattern_scores, ∀ q ∈ patterns pattern_scores,
    identity p = identity q → p = q := fun _ hp _ hq heq =>
  List.inj_on_of_nodup_map (h.digests.1.imp fun hlt => hlt.ne) hp hq heq

theorem SelectionOk.map_start : exact_windows.map (fun e => e.val.start_sample) = allStarts base_windows selected := by
  have hstart := map_of_forall₂ (f := Prod.fst) (g := fun e : ExactWindow => e.val.start_sample) h.windows fun x e he => by
    rcases exactWindow_ok he with ⟨_, -, -, hval⟩ | ⟨-, hval⟩
    · rw [hval]
    · rw [hval]
  rwa [List.zipIdx_map_fst 0] at hstart

theorem SelectionOk.geometry {e : ExactWindow} (he : e ∈ exact_windows) : 0 ≤ e.val.start_sample ∧
    e.val.stop_sample ≤ segment_sample_count ∧ e.val.stop_sample = e.val.start_sample + plan.val.probe_sample_count := by
  have hcontract := h.contract
  unfold Selection.Fields.post_init at hcontract
  simp only [checkAll_cons, raiseIf_ok] at hcontract
  obtain ⟨-, -, -, -, -, -, -, hgeometry, -⟩ := hcontract
  have hwindow := e.ok
  unfold ExactWindow.Fields.post_init at hwindow
  simp only [checkAll_cons, raiseIf_ok, not_or, not_lt] at hwindow
  have hinside : ¬(segment_sample_count < e.val.stop_sample ∨
      e.val.stop_sample - e.val.start_sample ≠ plan.val.probe_sample_count) := fun hbad => hgeometry ⟨e, he, hbad⟩
  have hstart := hwindow.1.2.1
  omega

theorem SelectionOk.exists_window {start : Int} (hstart : start ∈ allStarts base_windows selected) :
    ∃ e ∈ exact_windows, e.val.start_sample = start := by
  rw [← h.map_start] at hstart
  exact List.mem_map.1 hstart

/-- The exact window of a start. -/
theorem SelectionOk.window {e : ExactWindow} (he : e ∈ exact_windows) :
    (∃ w ∈ base_windows, w.val.start_sample = e.val.start_sample ∧ e.val.stage = .base ∧
      e.val.base_selection_reasons = w.val.selection_reasons) ∨
    ((∀ w ∈ base_windows, w.val.start_sample ≠ e.val.start_sample) ∧ e.val.stage = .local ∧
      e.val.selected_by_pattern_refs = selecting selected e.val.start_sample) := by
  obtain ⟨x, -, hx⟩ := Json.exists_mem_of_forall₂ h.windows.flip he
  rcases exactWindow_ok hx with ⟨w, hw, hstart, hval⟩ | ⟨hnone, hval⟩
  · rw [hval]
    exact Or.inl ⟨w, hw, hstart, rfl, rfl⟩
  · rw [hval]
    exact Or.inr ⟨hnone, rfl, rfl⟩

/-- The order of the scores does not matter. -/
theorem SelectionOk.perm {pattern_scores' : List PatternScore} (hperm : pattern_scores.Perm pattern_scores') :
    SelectionOk segment_sample_count plan base_windows pattern_scores' selected exact_windows ∧
      patterns pattern_scores' = patterns pattern_scores := by
  have hscores : ∀ p, (scoresOf pattern_scores p).Perm (scoresOf pattern_scores' p) := fun p => (hperm.filter _).map _
  have hpatterns : patterns pattern_scores' = patterns pattern_scores := by
    refine (sortedBy_congr (fun p hp q hq => ?_) fun p => (hperm.map _).mem_iff).symm
    exact h.identity_injective p (mem_sortedBy.2 hp) q (mem_sortedBy.2 hq)
  have hranked : ranked pattern_scores' plan = ranked pattern_scores plan := by
    funext p
    unfold ranked
    rw [← sorted_perm (hscores p) (h.distinct.nodup_scoresOf p) h.distinct.key]
  have hselected : selectedBy pattern_scores' plan = selectedBy pattern_scores plan := by
    funext last
    unfold selectedBy
    rw [hpatterns, hranked]
  have hcomplete : ∀ p, sortedSet ((scoresOf pattern_scores' p).map Prod.fst) = sortedSet ((scoresOf pattern_scores p).map Prod.fst) :=
    fun p => sortedSet_congr fun x => ((hscores p).map Prod.fst).symm.mem_iff
  refine ⟨⟨h.nonempty, h.ascending, (hperm.map _).nodup_iff.1 h.distinct, ?_, fun p hp => ?_, ?_, h.count, h.windows, ?_⟩, hpatterns⟩
  · rw [hpatterns]
    exact h.some_pattern
  · rw [hpatterns] at hp
    rw [hcomplete]
    exact h.complete p hp
  · rw [hselected]
    exact h.selected_ok
  · rw [hpatterns]
    exact h.contract

end Ok

/-- The order of the scores does not matter. -/
theorem selection_perm {pattern_scores' : List PatternScore}
    (h : adaptive_refinement_selection segment_sample_count plan base_windows pattern_scores = .ok selection)
    (hperm : pattern_scores.Perm pattern_scores') :
    adaptive_refinement_selection segment_sample_count plan base_windows pattern_scores' = .ok selection := by
  obtain ⟨selected, exact_windows, hok, hval⟩ := selection_iff.1 h
  obtain ⟨hok', hpatterns⟩ := hok.perm hperm
  refine selection_iff.2 ⟨selected, exact_windows, hok', ?_⟩
  rw [hpatterns]
  exact hval

/-- The exact windows keep the base windows and the local windows of every pattern. -/
structure Keeps (segment_sample_count : Int) (plan : Plan) (base_windows : List BaseWindow) (pattern_scores : List PatternScore)
    (exact_windows : List ExactWindow) : Prop where
  ascending : exact_windows.Pairwise fun a b => a.val.start_sample < b.val.start_sample
  inside : ∀ e ∈ exact_windows, 0 ≤ e.val.start_sample ∧ e.val.stop_sample ≤ segment_sample_count ∧
    e.val.stop_sample = e.val.start_sample + plan.val.probe_sample_count
  base : ∀ w ∈ base_windows, ∃ e ∈ exact_windows, e.val.stage = .base ∧ e.val.start_sample = w.val.start_sample ∧
    e.val.base_selection_reasons = w.val.selection_reasons
  near : ∀ item, IsCentre pattern_scores plan item →
    ∀ start, LocalStart plan (segment_sample_count - plan.val.probe_sample_count) item.val.start_sample start →
      ∃ e ∈ exact_windows, e.val.start_sample = start ∧
        (e.val.stage = .base ∨ item.val.pattern_ref ∈ e.val.selected_by_pattern_refs)
  only : ∀ e ∈ exact_windows, ∀ p ∈ e.val.selected_by_pattern_refs, ∃ item, IsCentre pattern_scores plan item ∧
    item.val.pattern_ref = p ∧
    LocalStart plan (segment_sample_count - plan.val.probe_sample_count) item.val.start_sample e.val.start_sample

theorem SelectionOk.keeps {selected : List (Int × ArtifactRef)} {exact_windows : List ExactWindow}
    (h : SelectionOk segment_sample_count plan base_windows pattern_scores selected exact_windows) :
    Keeps segment_sample_count plan base_windows pattern_scores exact_windows := by
  have hstarts : (baseStarts base_windows).Nodup := h.ascending.imp fun hlt => hlt.ne
  refine ⟨?_, fun e he => h.geometry he, fun w hw => ?_, fun item hitem start hstart => ?_, fun e he p hp => ?_⟩
  · refine (List.pairwise_map (f := fun e : ExactWindow => e.val.start_sample)).1 ?_
    rw [h.map_start]
    exact ascending_sortedSet _
  · have hmem : w.val.start_sample ∈ allStarts base_windows selected :=
      mem_sortedSet.2 (List.mem_append_left _ (List.mem_map_of_mem hw))
    obtain ⟨e, he, heq⟩ := h.exists_window hmem
    rcases h.window he with ⟨w', hw', hsame, hstage, hreasons⟩ | ⟨hnone, -⟩
    · have hw_eq : w' = w := List.inj_on_of_nodup_map hstarts hw' hw (hsame.trans heq)
      exact ⟨e, he, hstage, heq, hw_eq ▸ hreasons⟩
    · exact absurd heq.symm (hnone w hw)
  · have hselected : (start, item.val.pattern_ref) ∈ selected :=
      (selectedBy_ok h.selected_ok).2 ⟨mem_patterns.2 ⟨item, hitem.1, rfl⟩, _,
        (mem_ranked h.distinct).2 ⟨item, hitem, rfl, rfl⟩, hstart⟩
    have hmem : start ∈ allStarts base_windows selected :=
      mem_sortedSet.2 (List.mem_append_right _ (List.mem_map.2 ⟨_, hselected, rfl⟩))
    obtain ⟨e, he, heq⟩ := h.exists_window hmem
    refine ⟨e, he, heq, ?_⟩
    rcases h.window he with ⟨_, -, -, hstage, -⟩ | ⟨-, -, hrefs⟩
    · exact Or.inl hstage
    · right
      rw [hrefs, heq]
      exact mem_selecting.2 hselected
  · rcases h.window he with ⟨w, -, -, hstage, -⟩ | ⟨-, -, hrefs⟩
    · have hwindow := e.ok
      unfold ExactWindow.Fields.post_init at hwindow
      simp only [checkAll_cons, raiseIf_ok, not_and, not_or, not_not] at hwindow
      rw [(hwindow.2.2.2.1 hstage).2] at hp
      cases hp
    · rw [hrefs] at hp
      obtain ⟨-, center_start, hcentre, hlocal⟩ := (selectedBy_ok h.selected_ok).1 (mem_selecting.1 hp)
      obtain ⟨item, hitem, hpattern, rfl⟩ := (mem_ranked h.distinct).1 hcentre
      exact ⟨item, hitem, hpattern, hlocal⟩

end Selection

end AdaptiveRefinement

end LeoFlow
