import LeoFlow.Analysis.AdaptiveCalibration
import LeoFlow.Contracts.CanonicalNumber

/-!
# LeoFlow.Analysis.CalibrationSplits — what an evaluation depends on

Of a dwell the evaluation sees its `summary`: its identity and stratum, its family-wise
maximum, and at which thresholds it fires. Two sets of inputs with the same summaries, in
any order, have the same evaluation (`evaluate_frozen_congr`); reordered dwells and null
dwells with permuted patterns are such inputs.
-/

namespace LeoFlow

namespace AdaptiveCalibration

/-! ## Numbers of the evidence -/

/-- A finite number between zero and one. -/
structure UnitNumber (a : Num) : Prop where
  finite : a.Finite
  nonneg : 0 ≤ a.rank
  le_one : a.rank ≤ 1

theorem rank_int (n : Int) : Num.rank (.int n) = n := rfl

theorem unitNumber_of_inUnit {a : Num} (hfinite : a.Finite) (h : InUnit a) : UnitNumber a := by
  have h0 := (Num.le_iff_rank rfl hfinite).1 h.1
  have h1 := (Num.le_iff_rank hfinite rfl).1 h.2
  rw [rank_int] at h0 h1
  exact ⟨hfinite, by exact_mod_cast h0, by exact_mod_cast h1⟩

theorem UnitNumber.inUnit {a : Num} (h : UnitNumber a) : InUnit a := by
  constructor
  · rw [Num.le_iff_rank rfl h.finite, rank_int]
    exact_mod_cast h.nonneg
  · rw [Num.le_iff_rank h.finite rfl, rank_int]
    exact_mod_cast h.le_one

theorem unitNumber_of_require {a : Num} {field : String} (h : requireUnit a field = .ok ()) : UnitNumber a := by
  simp only [requireUnit, checkAll_cons, raiseIf_ok, not_not] at h
  exact unitNumber_of_inUnit (finite_of_requireFinite h.1) h.2.1

theorem unitNumber_maxima (p : PatternDwellEvidence) : ∀ x ∈ p.maxima, UnitNumber x := by
  intro x hx
  rcases List.mem_map.1 hx with ⟨e, _, rfl⟩
  have hok := e.ok
  simp only [ReceiverPatternEvidence.Fields.post_init, checkAll_cons] at hok
  exact unitNumber_of_require hok.1

theorem unitNumber_pattern (p : PatternDwellEvidence) : UnitNumber p.whole_search_maximum :=
  unitNumber_maxima p _ (Num.maximumOf_mem _)

theorem unitNumber_family (d : Dwell) : UnitNumber (family_wise_maximum d) := by
  have hne : d.val.patterns.map PatternDwellEvidence.whole_search_maximum ≠ [] := by
    simpa using d.patterns_ne_nil
  rcases List.mem_map.1 (Num.maximumOf_mem hne) with ⟨p, _, hp⟩
  unfold family_wise_maximum
  rw [← hp]
  exact unitNumber_pattern p

theorem Fit.unitNumber (f : Fit) : UnitNumber f.val.threshold := by
  have hok := f.ok
  simp only [Fit.Fields.post_init, checkAll_cons, raiseIf_ok, not_or, not_not] at hok
  exact unitNumber_of_inUnit (finite_of_requireFinite hok.2.1) hok.2.2.1.1

/-- The rate is a number strictly between zero and one. -/
theorem Plan.rate_bounds (plan : Plan) : plan.val.target_family_wise_false_alarm_rate.Finite ∧
    0 < plan.val.target_family_wise_false_alarm_rate.rank ∧ plan.val.target_family_wise_false_alarm_rate.rank < 1 := by
  have hok := plan.ok
  simp only [Plan.Fields.post_init, requireOpenUnit, checkAll_cons, raiseIf_ok, not_not] at hok
  have hrate := hok.2.2.2.2.2.2.2.2.1
  have hfinite := finite_of_requireFinite hrate.1
  have h0 := (Num.lt_iff_rank rfl hfinite).1 hrate.2.1.1
  have h1 := (Num.lt_iff_rank hfinite rfl).1 hrate.2.1.2
  rw [rank_int] at h0 h1
  exact ⟨hfinite, by exact_mod_cast h0, by exact_mod_cast h1⟩

/-- The floor of the rounded product is less than one above the product, while the count is a float. -/
theorem floorTimes_lt {n : Nat} {x : Num} {k : Int} (hx : x.Finite) (h0 : 0 ≤ x.rank) (h1 : x.rank ≤ 1)
    (hn : n < 2 ^ 53) (h : floorTimes n x = .ok k) : (k : ℚ) - 1 < n * x.rank := by
  have hrank := Num.toRat_rank hx
  unfold floorTimes at h
  cases x with
  | int m =>
    have hm : (m : ℚ) = Num.rank (.int m) := Option.some.inj hrank
    cases h
    rw [← hm]
    push_cast
    linarith
  | float f =>
    rcases PyFloat.toRat_ofInt hn with ⟨g, hg, hgrat⟩
    have hrank' : f.toRat = some (Num.rank (.float f)) := hrank
    simp only [hg, hgrat, hrank'] at h
    split at h
    · rename_i product hproduct
      cases h
      have herror := PyFloat.rounded_error hproduct
      have hmin := PyFloat.halfMin_le
      have hfloor : ((product.floor : Int) : ℚ) ≤ product := Rat.floor_le product
      have hsize : |(n : ℚ) * Num.rank (.float f)| ≤ 2 ^ 53 - 1 := by
        have hn' : (n : ℚ) ≤ 2 ^ 53 - 1 := by
          have hle : (n : ℚ) + 1 ≤ 2 ^ 53 := by exact_mod_cast hn
          linarith
        have hmul : (n : ℚ) * Num.rank (.float f) ≤ n * 1 := mul_le_mul_of_nonneg_left h1 (Nat.cast_nonneg n)
        rw [abs_of_nonneg (mul_nonneg (Nat.cast_nonneg n) h0)]
        linarith
      have hupper := (abs_le.1 herror).2
      norm_num at hmin
      linarith
    · cases h

/-! ## Summaries -/

/-- What the evaluation sees of a dwell. -/
structure DwellSummary where
  dwell_id : PyStr
  member_digest : Digest
  group_digest : Digest
  split : Split
  label : Label
  cell_identity_digest : Digest
  pattern_count : Nat
  maximum : ℚ
  fires : ℚ → Bool
  target : ℚ → Bool

/-- The pattern is above a threshold and passes the gates. -/
def firesAt (plan : Plan) (threshold : ℚ) (pattern : PatternDwellEvidence) : Bool :=
  decide (threshold < pattern.whole_search_maximum.rank) && pattern_passes_evidence_gates plan pattern

/-- The target pattern counts for positives only. -/
def summary (plan : Plan) (d : Dwell) : DwellSummary where
  dwell_id := d.val.dwell_id
  member_digest := d.val.member_digest
  group_digest := d.val.group_digest
  split := d.val.split
  label := d.val.label
  cell_identity_digest := d.val.cell_identity_digest
  pattern_count := d.val.patterns.length
  maximum := (family_wise_maximum d).rank
  fires threshold := d.val.patterns.any (firesAt plan threshold)
  target threshold := decide (d.val.label = .positive) && firesAt plan threshold (d.val.patterns.head d.patterns_ne_nil)

variable {threshold : Num}

theorem pattern_fires_eq (plan : Plan) (h : threshold.Finite) (p : PatternDwellEvidence) :
    pattern_fires plan threshold p = firesAt plan threshold.rank p := by
  unfold pattern_fires firesAt
  simp only [Num.lt_iff_rank h (unitNumber_pattern p).finite]

theorem dwell_fires_eq (plan : Plan) (h : threshold.Finite) (d : Dwell) :
    dwell_fires plan d threshold = (summary plan d).fires threshold.rank := by
  have hfires : pattern_fires plan threshold = firesAt plan threshold.rank := funext (pattern_fires_eq plan h)
  unfold dwell_fires
  rw [hfires]
  rfl

theorem target_fires_eq (plan : Plan) (h : threshold.Finite) {d : Dwell} (hd : d.val.label = .positive) :
    target_fires plan d threshold = (summary plan d).target threshold.rank := by
  unfold target_fires summary
  rw [pattern_fires_eq plan h]
  simp [hd]

/-! ## One stratum -/

/-- What `_locked_dwells` checks of the dwells of one label. -/
structure Stratum (plan : Plan) (split : Split) (label : Label) (count : Int) (dwells : List DwellSummary) : Prop where
  length : (dwells.length : Int) = count
  ids : (dwells.map fun d => d.dwell_id).Nodup
  members : (dwells.map fun d => d.member_digest).Nodup
  groups : (dwells.map fun d => d.group_digest).Nodup
  each : ∀ d ∈ dwells, d.split = split ∧ d.label = label ∧ d.cell_identity_digest = plan.val.cell_identity_digest ∧
    (d.pattern_count : Int) = plan.val.pattern_count

theorem Stratum.perm {plan : Plan} {split : Split} {label : Label} {count : Int} {xs ys : List DwellSummary}
    (h : Stratum plan split label count xs) (hperm : xs.Perm ys) : Stratum plan split label count ys where
  length := by rw [← hperm.length_eq, h.length]
  ids := (hperm.map _).nodup_iff.1 h.ids
  members := (hperm.map _).nodup_iff.1 h.members
  groups := (hperm.map _).nodup_iff.1 h.groups
  each d hd := h.each d (hperm.mem_iff.2 hd)

theorem locked_dwells_iff {plan : Plan} {values out : List Dwell} {split : Split} {label : Label} {count : Int}
    {manifest : Digest} :
    locked_dwells plan values split label count manifest manifest = .ok out ↔
      Stratum plan split label count (values.map (summary plan)) ∧ out = values := by
  have hmap : ∀ {β : Type} (f : DwellSummary → β), (values.map (summary plan)).map f = values.map fun d => f (summary plan d) := by
    intro β f
    rw [List.map_map]
    rfl
  unfold locked_dwells
  rw [bind_ok]
  constructor
  · rintro ⟨⟨⟩, hchecks, hout⟩
    cases hout
    simp only [checkAll_cons, raiseIf_ok, not_or, not_not, not_exists, not_and] at hchecks
    rcases hchecks with ⟨_, hlength, ⟨hids, hmembers, hgroups⟩, heach, _⟩
    refine ⟨⟨by simpa using hlength, ?_, ?_, ?_, ?_⟩, rfl⟩
    · rw [hmap]
      exact hids
    · rw [hmap]
      exact hmembers
    · rw [hmap]
      exact hgroups
    · intro s hs
      rcases List.mem_map.1 hs with ⟨d, hd, rfl⟩
      exact heach d hd
  · rintro ⟨⟨hlength, hids, hmembers, hgroups, heach⟩, rfl⟩
    refine ⟨(), ?_, rfl⟩
    rw [hmap] at hids hmembers hgroups
    simp only [checkAll_cons, checkAll_nil, raiseIf_ok, not_or, not_not, not_exists, not_and, and_true, true_and]
    refine ⟨by simpa using hlength, ⟨hids, hmembers, hgroups⟩, ?_⟩
    intro d hd
    exact heach _ (List.mem_map_of_mem hd)

/-! ## The fit -/

theorem toStr_injective {a b : Digest} (h : a.toStr = b.toStr) : a = b := by
  rcases a with ⟨a, _, _⟩
  rcases b with ⟨b, _, _⟩
  have hvalue : a = b := List.append_cancel_left h
  subst hvalue
  rfl

/-- The order of the digests is not seen. -/
theorem sortDigests_perm {xs ys : List Digest} (h : xs.Perm ys) : sortDigests xs = sortDigests ys := by
  have hmap : ∀ zs : List Digest, (sortDigests zs).map Digest.toStr = (zs.map Digest.toStr).insertionSort (· ≤ ·) := by
    intro zs
    exact List.map_insertionSort _ _ _ _ fun a _ b _ => Iff.rfl
  have hsorted : (xs.map Digest.toStr).insertionSort (· ≤ ·) = (ys.map Digest.toStr).insertionSort (· ≤ ·) := by
    have hperm := ((List.perm_insertionSort (· ≤ ·) _).trans (h.map Digest.toStr)).trans
      (List.perm_insertionSort (· ≤ ·) _).symm
    apply hperm.eq_of_pairwise _ (List.pairwise_insertionSort (· ≤ ·) _) (List.pairwise_insertionSort (· ≤ ·) _)
    intro a b _ _ hab hba
    exact le_antisymm hab hba
  apply List.map_injective_iff.2 fun a b => toStr_injective
  rw [hmap, hmap, hsorted]

theorem mem_sortDigests {xs : List Digest} {d : Digest} : d ∈ sortDigests xs ↔ d ∈ xs := List.mem_insertionSort _

/-- Fits that Python calls equal: their thresholds are equal numbers. -/
structure Fit.Same (f g : Fit) : Prop where
  threshold : f.val.threshold.Eq g.val.threshold
  rest : { f.val with threshold := g.val.threshold } = g.val

variable {f g : Fit}

theorem Fit.Same.rank (h : f.Same g) : f.val.threshold.rank = g.val.threshold.rank :=
  (Num.eq_iff_rank f.unitNumber.finite g.unitNumber.finite).1 h.threshold

/-- Another threshold between zero and one passes the same checks. -/
theorem Fit.post_init_with (f : Fit) {t : Num} (ht : UnitNumber t) :
    Fit.Fields.post_init { f.val with threshold := t } = .ok () := by
  have hok := f.ok
  simp only [Fit.Fields.post_init, checkAll_cons, raiseIf_ok, not_or] at hok ⊢
  refine ⟨hok.1, requireFinite_of_finite ht.finite, ⟨?_, hok.2.2.1.2⟩, hok.2.2.2⟩
  exact not_not.2 ht.inUnit

/-- The dictionary that a fit is named after. -/
def fitIdentity (plan_digest train_manifest_digest : Digest) (threshold : PyValue) : PyValue :=
  .object [("plan_digest", plan_digest.toPy), ("train_manifest_digest", train_manifest_digest.toPy),
    ("threshold", threshold)]

/-- A fit of training nulls with these summaries. -/
structure FitRun (plan : Plan) (dwells : List DwellSummary) (fit : Fit) (allowed : Int) (plan_digest identity : Digest) :
    Prop where
  stratum : Stratum plan .train .null plan.val.training_null_dwell_count dwells
  floor : floorTimes dwells.length plan.val.target_family_wise_false_alarm_rate = .ok allowed
  resolved : 0 < allowed
  threshold : ((dwells.map fun d => d.maximum).insertionSort (· ≥ ·))[allowed.toNat - 1]? =
    some fit.val.threshold.rank
  plan_ok : canonicalDigest plan.toPy = .ok plan_digest
  identity_ok : canonicalDigest (fitIdentity plan_digest plan.val.train_manifest_digest fit.val.threshold.toValue) =
    .ok identity
  fields : fit.val = {
    schema := fitSchema
    fit_id := str "sladfit_" ++ identity.value.take 32
    plan_digest
    train_manifest_digest := plan.val.train_manifest_digest
    threshold := fit.val.threshold
    threshold_descending_rank := allowed
    minimum_resolvable_family_wise_far := oneOver dwells.length
    training_dwell_count := dwells.length
    training_threshold_exceedance_count := dwells.countP fun d => decide (fit.val.threshold.rank < d.maximum)
    training_member_digests := sortDigests (dwells.map fun d => d.member_digest)
    training_group_digests := sortDigests (dwells.map fun d => d.group_digest)
    candidate_only := true }

section Fit

variable {plan : Plan} {dwells : List Dwell}

theorem finite_family : ∀ x ∈ dwells.map family_wise_maximum, x.Finite := by
  intro x hx
  rcases List.mem_map.1 hx with ⟨d, _, rfl⟩
  exact (unitNumber_family d).finite

/-- The ranks of the sorted maxima. -/
theorem rank_descending (plan : Plan) : (Num.descending (dwells.map family_wise_maximum)).map Num.rank =
    ((dwells.map (summary plan)).map fun d => d.maximum).insertionSort (· ≥ ·) := by
  rw [Num.map_rank_descending finite_family, List.map_map, List.map_map]
  rfl

/-- The maxima above a threshold. -/
theorem countP_maxima (plan : Plan) {t : Num} (ht : t.Finite) :
    (dwells.map family_wise_maximum).countP (fun value => decide (t.Lt value)) =
      (dwells.map (summary plan)).countP fun d => decide (t.rank < d.maximum) := by
  rw [List.countP_map, List.countP_map]
  congr 1
  funext d
  exact decide_eq_decide.2 (Num.lt_iff_rank ht (unitNumber_family d).finite)

theorem fit_run {fit : Fit} (h : fit_adaptive_calibration plan plan.val.train_manifest_digest dwells = .ok fit) :
    ∃ allowed plan_digest identity, FitRun plan (dwells.map (summary plan)) fit allowed plan_digest identity := by
  unfold fit_adaptive_calibration at h
  rcases bind_ok.1 h with ⟨out, hout, hrest⟩
  rcases locked_dwells_iff.1 hout with ⟨hstratum, rfl⟩
  rcases bind_ok.1 hrest with ⟨allowed, hallowed, hrest⟩
  rcases bind_ok.1 hrest with ⟨⟨⟩, hresolved, hrest⟩
  rw [List.length_map] at hallowed
  rw [raiseIf_ok, not_le] at hresolved
  split at hrest
  · cases hrest
  rename_i threshold hthreshold
  rcases bind_ok.1 hrest with ⟨plan_digest, hplan_digest, hrest⟩
  rcases bind_ok.1 hrest with ⟨identity, hidentity, hrest⟩
  have hval := Checked.val_of_make hrest
  have heq : fit.val.threshold = threshold := by rw [hval]
  have hfinite : threshold.Finite := heq ▸ fit.unitNumber.finite
  refine ⟨allowed, plan_digest, identity, hstratum, ?_, hresolved, ?_, hplan_digest, ?_, ?_⟩
  · rw [List.length_map]
    exact hallowed
  · rw [← rank_descending, List.getElem?_map, hthreshold, heq]
    rfl
  · rw [heq]
    exact hidentity
  · rw [hval, countP_maxima plan hfinite]
    simp only [List.length_map, List.map_map]
    rfl

/-- Training nulls with the same summaries, in any order, have an equal fit. -/
theorem fit_of_run {fit : Fit} {allowed : Int} {plan_digest identity : Digest} {summaries : List DwellSummary}
    (h : FitRun plan summaries fit allowed plan_digest identity) (hperm : summaries.Perm (dwells.map (summary plan))) :
    ∃ fit', fit_adaptive_calibration plan plan.val.train_manifest_digest dwells = .ok fit' ∧ fit.Same fit' := by
  -- the order statistic is the same number
  have hsorted := insertionSort_ge_perm (hperm.map fun d => d.maximum)
  have hthreshold := h.threshold
  rw [hsorted, ← rank_descending, List.getElem?_map] at hthreshold
  rcases Option.map_eq_some_iff.1 hthreshold with ⟨t, ht, hrank⟩
  have hmem : t ∈ dwells.map family_wise_maximum := Num.mem_descending.1 (List.mem_of_getElem? ht)
  rcases List.mem_map.1 hmem with ⟨d, _, hd⟩
  have hunit : UnitNumber t := hd ▸ unitNumber_family d
  have hlength : summaries.length = dwells.length := by rw [hperm.length_eq, List.length_map]
  have htext : Json.SameText fit.val.threshold.toValue t.toValue :=
    Json.sameText_num fit.unitNumber.finite hunit.finite hrank.symm fit.unitNumber.nonneg fit.unitNumber.le_one
  have hidentity : canonicalDigest (fitIdentity plan_digest plan.val.train_manifest_digest t.toValue) = .ok identity :=
    (htext.object [("plan_digest", plan_digest.toPy),
      ("train_manifest_digest", plan.val.train_manifest_digest.toPy)] [] "threshold").digest h.identity_ok
  have hfloor := h.floor
  rw [hlength] at hfloor
  refine ⟨⟨{ fit.val with threshold := t }, fit.post_init_with hunit⟩, ?_, ⟨?_, rfl⟩⟩
  · unfold fit_adaptive_calibration
    rw [locked_dwells_iff.2 ⟨h.stratum.perm hperm, rfl⟩]
    refine bind_ok.2 ⟨dwells, rfl, bind_ok.2 ⟨allowed, ?_, bind_ok.2 ⟨(), ?_, ?_⟩⟩⟩
    · rw [List.length_map]
      exact hfloor
    · exact raiseIf_ok.2 (not_le.2 h.resolved)
    rw [ht]
    refine bind_ok.2 ⟨plan_digest, h.plan_ok, bind_ok.2 ⟨identity, hidentity, ?_⟩⟩
    have hfields := h.fields
    have hcount : summaries.countP (fun d => decide (fit.val.threshold.rank < d.maximum)) =
        (dwells.map family_wise_maximum).countP fun value => decide (t.Lt value) := by
      rw [countP_maxima plan hunit.finite, hrank]
      exact hperm.countP_eq _
    have hmembers : sortDigests (summaries.map fun d => d.member_digest) =
        sortDigests (dwells.map fun d => d.val.member_digest) := by
      rw [sortDigests_perm (hperm.map _), List.map_map]
      rfl
    have hgroups : sortDigests (summaries.map fun d => d.group_digest) =
        sortDigests (dwells.map fun d => d.val.group_digest) := by
      rw [sortDigests_perm (hperm.map _), List.map_map]
      rfl
    rw [hcount, hmembers, hgroups, hlength] at hfields
    have heq : ({ fit.val with threshold := t } : Fit.Fields) = {
        schema := fitSchema
        fit_id := str "sladfit_" ++ identity.value.take 32
        plan_digest
        train_manifest_digest := plan.val.train_manifest_digest
        threshold := t
        threshold_descending_rank := allowed
        minimum_resolvable_family_wise_far := oneOver (dwells.map family_wise_maximum).length
        training_dwell_count := (dwells.map family_wise_maximum).length
        training_threshold_exceedance_count :=
          (dwells.map family_wise_maximum).countP fun value => decide (t.Lt value)
        training_member_digests := sortDigests (dwells.map fun d => d.val.member_digest)
        training_group_digests := sortDigests (dwells.map fun d => d.val.group_digest)
        candidate_only := true } := by
      rw [hfields, List.length_map]
    have hmake := Checked.make_ok (fit.post_init_with hunit)
    exact (congrArg (Checked.make Fit.Fields.post_init) heq).symm.trans hmake
  · exact (Num.eq_iff_rank fit.unitNumber.finite hunit.finite).2 hrank.symm

end Fit

/-! ## A held-out split -/

/-- Evidence that Python calls equal. -/
structure SplitEvidence.Same (e e' : SplitEvidence) : Prop where
  threshold : e.val.threshold.Eq e'.val.threshold
  rest : { e.val with threshold := e'.val.threshold } = e'.val

theorem SplitEvidence.unitNumber (e : SplitEvidence) : UnitNumber e.val.threshold := by
  have hok := e.ok
  simp only [SplitEvidence.Fields.post_init, List.map_cons, checkAll_cons, raiseIf_ok, not_not] at hok
  exact unitNumber_of_inUnit (finite_of_requireFinite hok.2.2.1.1.1) hok.2.2.1.1.2.1

theorem SplitEvidence.post_init_with (e : SplitEvidence) {t : Num} (ht : UnitNumber t) :
    SplitEvidence.Fields.post_init { e.val with threshold := t } = .ok () := by
  have hok := e.ok
  simp only [SplitEvidence.Fields.post_init, List.map_cons, checkAll_cons, raiseIf_ok, not_not] at hok ⊢
  refine ⟨hok.1, hok.2.1, ⟨⟨requireFinite_of_finite ht.finite, ht.inUnit, hok.2.2.1.1.2.2⟩, hok.2.2.1.2⟩, hok.2.2.2⟩

def nullsOf (dwells : List DwellSummary) : List DwellSummary := dwells.filter fun d => d.label = .null

def positivesOf (dwells : List DwellSummary) : List DwellSummary := dwells.filter fun d => d.label = .positive

/-- A dwell is a null or a positive. -/
theorem length_labels (dwells : List DwellSummary) :
    (nullsOf dwells).length + (positivesOf dwells).length = dwells.length := by
  induction dwells with
  | nil => rfl
  | cons d rest ih =>
    unfold nullsOf positivesOf at ih ⊢
    cases hlabel : d.label with
    | null => simp only [List.filter_cons, hlabel, List.length_cons, reduceCtorEq, decide_true, decide_false, if_true,
        Bool.false_eq_true, if_false]; omega
    | positive => simp only [List.filter_cons, hlabel, List.length_cons, reduceCtorEq, decide_true, decide_false, if_true,
        Bool.false_eq_true, if_false]; omega

/-- The dwells of both labels. -/
def labelled (dwells : List DwellSummary) : List DwellSummary := nullsOf dwells ++ positivesOf dwells

theorem labelled_perm_labelled {xs ys : List DwellSummary} (h : xs.Perm ys) : (labelled xs).Perm (labelled ys) :=
  (h.filter _).append (h.filter _)

/-- The evidence of a split whose dwells have these summaries. -/
structure SplitRun (wilson : WilsonBounds) (plan : Plan) (split : Split) (manifest : Digest)
    (dwells : List DwellSummary) (null_count positive_count : Int) (members groups : List Digest) (e : SplitEvidence)
    (far_upper pd_lower : Num) : Prop where
  nulls : Stratum plan split .null null_count (nullsOf dwells)
  positives : Stratum plan split .positive positive_count (positivesOf dwells)
  distinct : ((labelled dwells).map fun d => d.member_digest).Nodup
  members_new : ∀ d ∈ (labelled dwells).map fun d => d.member_digest, d ∉ members
  groups_new : ∀ d ∈ (labelled dwells).map fun d => d.group_digest, d ∉ groups
  far : wilson.upper ((nullsOf dwells).countP fun d => d.fires e.val.threshold.rank) (nullsOf dwells).length
    plan.val.confidence_level = .ok far_upper
  pd : wilson.lower ((positivesOf dwells).countP fun d => d.target e.val.threshold.rank) (positivesOf dwells).length
    plan.val.confidence_level = .ok pd_lower
  fields : e.val = {
    split
    manifest_digest := manifest
    threshold := e.val.threshold
    null_dwell_count := (nullsOf dwells).length
    null_family_wise_exceedance_count := (nullsOf dwells).countP fun d => d.fires e.val.threshold.rank
    null_far_upper_bound := far_upper
    positive_dwell_count := (positivesOf dwells).length
    positive_detection_count := (positivesOf dwells).countP fun d => d.target e.val.threshold.rank
    positive_detection_probability_lower_bound := pd_lower
    member_digests := sortDigests ((labelled dwells).map fun d => d.member_digest)
    group_digests := sortDigests ((labelled dwells).map fun d => d.group_digest)
    accepted := bounds_accept plan far_upper pd_lower }

variable {e : SplitEvidence}

section SplitEvidence

variable {wilson : WilsonBounds} {plan : Plan} {split : Split} {manifest : Digest} {dwells : List Dwell}
  {null_count positive_count : Int} {members groups : List Digest}

/-- The summaries of the dwells of one label. -/
theorem map_filter_label (plan : Plan) (label : Label) (dwells : List Dwell) :
    (dwells.filter fun d => d.val.label = label).map (summary plan) =
      (dwells.map (summary plan)).filter fun d => d.label = label := by
  rw [List.filter_map]
  rfl

/-- What the evaluation of a split reads of the dwells, in terms of their summaries. -/
structure Reads (plan : Plan) (dwells : List Dwell) (threshold : Num) : Prop where
  members : ((dwells.filter fun d => d.val.label = .null) ++ dwells.filter fun d => d.val.label = .positive).map
      (fun d => d.val.member_digest) = (labelled (dwells.map (summary plan))).map fun d => d.member_digest
  groups : ((dwells.filter fun d => d.val.label = .null) ++ dwells.filter fun d => d.val.label = .positive).map
      (fun d => d.val.group_digest) = (labelled (dwells.map (summary plan))).map fun d => d.group_digest
  false_alarms : (dwells.filter fun d => d.val.label = .null).countP (fun d => dwell_fires plan d threshold) =
    (nullsOf (dwells.map (summary plan))).countP fun d => d.fires threshold.rank
  detections : (dwells.filter fun d => d.val.label = .positive).countP (fun d => target_fires plan d threshold) =
    (positivesOf (dwells.map (summary plan))).countP fun d => d.target threshold.rank
  null_length : (dwells.filter fun d => d.val.label = .null).length = (nullsOf (dwells.map (summary plan))).length
  positive_length : (dwells.filter fun d => d.val.label = .positive).length =
    (positivesOf (dwells.map (summary plan))).length

theorem reads (plan : Plan) (dwells : List Dwell) (h : threshold.Finite) :
    Reads plan dwells threshold where
  members := by
    unfold labelled nullsOf positivesOf
    rw [← map_filter_label, ← map_filter_label, ← List.map_append, List.map_map]
    rfl
  groups := by
    unfold labelled nullsOf positivesOf
    rw [← map_filter_label, ← map_filter_label, ← List.map_append, List.map_map]
    rfl
  false_alarms := by
    unfold nullsOf
    rw [← map_filter_label, List.countP_map]
    congr 1
    funext d
    exact dwell_fires_eq plan h d
  detections := by
    unfold positivesOf
    rw [← map_filter_label, List.countP_map]
    apply List.countP_congr
    intro d hd
    have hlabel : d.val.label = .positive := by simpa using (List.mem_filter.1 hd).2
    rw [target_fires_eq plan h hlabel]
    rfl
  null_length := by
    unfold nullsOf
    rw [← map_filter_label, List.length_map]
  positive_length := by
    unfold positivesOf
    rw [← map_filter_label, List.length_map]

theorem split_run {fit : Fit}
    (h : evaluate_split wilson plan fit split manifest manifest dwells null_count positive_count members groups = .ok e) : e.val.threshold = fit.val.threshold ∧
      ∃ far_upper pd_lower, SplitRun wilson plan split manifest (dwells.map (summary plan)) null_count positive_count
        members groups e far_upper pd_lower := by
  have hreads := reads plan dwells fit.unitNumber.finite
  unfold evaluate_split at h
  rcases bind_ok.1 h with ⟨nulls, hnulls, hrest⟩
  rcases locked_dwells_iff.1 hnulls with ⟨hnull, hnull_eq⟩
  rcases bind_ok.1 hrest with ⟨positives, hpositives, hrest⟩
  rcases locked_dwells_iff.1 hpositives with ⟨hpositive, hpositive_eq⟩
  rcases bind_ok.1 hrest with ⟨⟨⟩, hchecks, hrest⟩
  rcases bind_ok.1 hrest with ⟨far_upper, hfar, hrest⟩
  rcases bind_ok.1 hrest with ⟨pd_lower, hpd, hrest⟩
  rw [hnull_eq, hpositive_eq] at hchecks
  rw [hnull_eq] at hfar
  rw [hpositive_eq] at hpd
  rw [hnull_eq, hpositive_eq] at hrest
  have hval := Checked.val_of_make hrest
  have hthreshold : e.val.threshold = fit.val.threshold := by rw [hval]
  rw [map_filter_label] at hnull hpositive
  simp only [checkAll_cons, raiseIf_ok, not_exists, not_and, not_not] at hchecks
  rcases hchecks with ⟨_, hmembers, hmembers_new, hgroups_new, _⟩
  rw [hreads.members] at hmembers hmembers_new
  rw [hreads.groups] at hgroups_new
  rw [hreads.false_alarms, hreads.null_length] at hfar
  rw [hreads.detections, hreads.positive_length] at hpd
  refine ⟨hthreshold, far_upper, pd_lower, hnull, hpositive, hmembers, hmembers_new, hgroups_new, ?_, ?_, ?_⟩
  · rw [hthreshold]
    exact hfar
  · rw [hthreshold]
    exact hpd
  · rw [hval, hreads.members, hreads.groups, hreads.false_alarms, hreads.detections, hreads.null_length,
      hreads.positive_length]

/-- Dwells with the same summaries, in any order, have equal evidence under an equal fit. -/
theorem split_of_run {summaries : List DwellSummary} {fit' : Fit} {far_upper pd_lower : Num}
    (h : SplitRun wilson plan split manifest summaries null_count positive_count members groups e far_upper pd_lower)
    (hfit : e.val.threshold.rank = fit'.val.threshold.rank) (hperm : summaries.Perm (dwells.map (summary plan))) :
    ∃ e', evaluate_split wilson plan fit' split manifest manifest dwells null_count positive_count members groups =
      .ok e' ∧ e.Same e' ∧ e'.val.threshold = fit'.val.threshold := by
  have hreads := reads plan dwells fit'.unitNumber.finite
  have hunit := fit'.unitNumber
  have hnulls : (nullsOf summaries).Perm (nullsOf (dwells.map (summary plan))) := hperm.filter _
  have hpositives : (positivesOf summaries).Perm (positivesOf (dwells.map (summary plan))) := hperm.filter _
  have hlabelled := labelled_perm_labelled hperm
  refine ⟨⟨{ e.val with threshold := fit'.val.threshold }, e.post_init_with hunit⟩, ?_, ⟨?_, rfl⟩, rfl⟩
  · have hnull := h.nulls.perm hnulls
    have hpositive := h.positives.perm hpositives
    have hfar := h.far
    have hpd := h.pd
    have hfields := h.fields
    rw [hfit] at hfar hpd
    rw [hnulls.countP_eq, hnulls.length_eq, ← hreads.false_alarms, ← hreads.null_length] at hfar
    rw [hpositives.countP_eq, hpositives.length_eq, ← hreads.detections, ← hreads.positive_length] at hpd
    rw [nullsOf, ← map_filter_label] at hnull
    rw [positivesOf, ← map_filter_label] at hpositive
    unfold evaluate_split
    refine bind_ok.2 ⟨_, locked_dwells_iff.2 ⟨hnull, rfl⟩, bind_ok.2 ⟨_, locked_dwells_iff.2 ⟨hpositive, rfl⟩,
      bind_ok.2 ⟨(), ?_, bind_ok.2 ⟨far_upper, hfar, bind_ok.2 ⟨pd_lower, hpd, ?_⟩⟩⟩⟩⟩
    · simp only [checkAll_cons, checkAll_nil, raiseIf_ok, not_exists, not_and, not_not, and_true]
      rw [hreads.members, hreads.groups]
      refine ⟨?_, (hlabelled.map _).nodup_iff.1 h.distinct, ?_, ?_⟩
      · rw [hreads.null_length, hreads.positive_length, length_labels, List.length_map]
      · intro d hd
        exact h.members_new d ((hlabelled.map _).mem_iff.2 hd)
      · intro d hd
        exact h.groups_new d ((hlabelled.map _).mem_iff.2 hd)
    · rw [hfit, hnulls.countP_eq, hpositives.countP_eq, hnulls.length_eq, hpositives.length_eq,
        sortDigests_perm (hlabelled.map _), sortDigests_perm (hlabelled.map fun d => d.group_digest),
        ← hreads.false_alarms, ← hreads.detections, ← hreads.null_length, ← hreads.positive_length,
        ← hreads.members, ← hreads.groups] at hfields
      have heq := congrArg (fun fields : SplitEvidence.Fields => { fields with threshold := fit'.val.threshold }) hfields
      have hmake := Checked.make_ok (e.post_init_with hunit)
      exact (congrArg (Checked.make SplitEvidence.Fields.post_init) heq).symm.trans hmake
  · exact (Num.eq_iff_rank e.unitNumber.finite hunit.finite).2 hfit

end SplitEvidence

/-! ## The locked test -/

theorem Fit.Same.text (h : f.Same g) : Json.SameText f.toPy g.toPy := by
  have htext := Json.sameText_num f.unitNumber.finite g.unitNumber.finite h.rank f.unitNumber.nonneg f.unitNumber.le_one
  have hfields : ∀ t v, { f.val with threshold := t } = g.val → g.toPyWith v = f.toPyWith v := by
    intro t v heq
    unfold Fit.toPyWith
    rw [← heq]
  have hg : g.toPy = f.toPyWith g.val.threshold.toValue := hfields _ _ h.rest
  rw [hg]
  exact htext.dataclass "FittedAdaptiveCalibrationV0_1" [
    ("schema", f.val.schema.toPy),
    ("fit_id", .str f.val.fit_id),
    ("plan_digest", f.val.plan_digest.toPy),
    ("train_manifest_digest", f.val.train_manifest_digest.toPy)] _ "threshold"

theorem SplitEvidence.Same.rank {e' : SplitEvidence} (h : e.Same e') : e.val.threshold.rank = e'.val.threshold.rank :=
  (Num.eq_iff_rank e.unitNumber.finite e'.unitNumber.finite).1 h.threshold

theorem SplitEvidence.Same.text {e' : SplitEvidence} (h : e.Same e') : Json.SameText e.toPy e'.toPy := by
  have htext := Json.sameText_num e.unitNumber.finite e'.unitNumber.finite h.rank e.unitNumber.nonneg e.unitNumber.le_one
  have hfields : ∀ t v, { e.val with threshold := t } = e'.val → e'.toPyWith v = e.toPyWith v := by
    intro t v heq
    unfold SplitEvidence.toPyWith
    rw [← heq]
  have he' : e'.toPy = e.toPyWith e'.val.threshold.toValue := hfields _ _ h.rest
  rw [he']
  exact htext.dataclass "AdaptiveCalibrationSplitEvidenceV0_1" [
    ("split", .str e.val.split.value),
    ("manifest_digest", e.val.manifest_digest.toPy)] _ "threshold"

/-- What of the evidence of a split does not mention the threshold is the same. -/
theorem SplitEvidence.Same.field {e' : SplitEvidence} (h : e.Same e') {β : Type} (f : SplitEvidence.Fields → β)
    (hf : ∀ fields t, f { fields with threshold := t } = f fields) : f e'.val = f e.val := by
  have hrest := congrArg f h.rest
  rw [hf] at hrest
  exact hrest.symm

theorem Fit.Same.field {g' : Fit} (h : g.Same g') {β : Type} (f : Fit.Fields → β)
    (hf : ∀ fields t, f { fields with threshold := t } = f fields) : f g'.val = f g.val := by
  have hrest := congrArg f h.rest
  rw [hf] at hrest
  exact hrest.symm

/-- Locked evidence that Python calls equal. -/
structure LockedEvidence.Same (a b : LockedEvidence) : Prop where
  validation : a.val.validation.Same b.val.validation
  locked_test : a.val.locked_test.Same b.val.locked_test
  rest : { a.val with validation := b.val.validation, locked_test := b.val.locked_test } = b.val

variable {v : SplitEvidence}

theorem LockedEvidence.post_init_with (a : LockedEvidence) {l : SplitEvidence} (hv : a.val.validation.Same v)
    (hl : a.val.locked_test.Same l) :
    LockedEvidence.Fields.post_init { a.val with validation := v, locked_test := l } = .ok () := by
  have hok := a.ok
  unfold LockedEvidence.Fields.post_init at hok ⊢
  rw [raiseIf_ok] at hok ⊢
  have hvsplit := hv.field (fun e => e.split) fun _ _ => rfl
  have hlsplit := hl.field (fun e => e.split) fun _ _ => rfl
  have hvaccepted := hv.field (fun e => e.accepted) fun _ _ => rfl
  have hlaccepted := hl.field (fun e => e.accepted) fun _ _ => rfl
  dsimp only at hvsplit hlsplit hvaccepted hlaccepted ⊢
  rw [hvsplit, hlsplit, hvaccepted, hlaccepted]
  exact hok

section Congruence

variable {wilson : WilsonBounds} {plan : Plan}

theorem fit_matches_congr (h : f.Same g) : fit_matches plan g = fit_matches plan f := by
  have hplan := h.field (fun f => f.plan_digest) fun _ _ => rfl
  have hmanifest := h.field (fun f => f.train_manifest_digest) fun _ _ => rfl
  have hcandidate := h.field (fun f => f.candidate_only) fun _ _ => rfl
  unfold fit_matches
  rw [hplan, hmanifest, hcandidate]

theorem validation_gate_congr {w : SplitEvidence} (hf : f.Same g) (hv : v.Same w) :
    validation_gate wilson plan g w = validation_gate wilson plan f v := by
  have hthreshold : w.val.threshold.Eq g.val.threshold ↔ v.val.threshold.Eq f.val.threshold := by
    rw [Num.eq_iff_rank w.unitNumber.finite g.unitNumber.finite, Num.eq_iff_rank v.unitNumber.finite f.unitNumber.finite,
      hf.rank, hv.rank]
  have hfmembers := hf.field (fun f => f.training_member_digests) fun _ _ => rfl
  have hfgroups := hf.field (fun f => f.training_group_digests) fun _ _ => rfl
  have hsplit := hv.field (fun e => e.split) fun _ _ => rfl
  have hmanifest := hv.field (fun e => e.manifest_digest) fun _ _ => rfl
  have hnull := hv.field (fun e => e.null_dwell_count) fun _ _ => rfl
  have hexceed := hv.field (fun e => e.null_family_wise_exceedance_count) fun _ _ => rfl
  have hfar := hv.field (fun e => e.null_far_upper_bound) fun _ _ => rfl
  have hpositive := hv.field (fun e => e.positive_dwell_count) fun _ _ => rfl
  have hdetection := hv.field (fun e => e.positive_detection_count) fun _ _ => rfl
  have hpd := hv.field (fun e => e.positive_detection_probability_lower_bound) fun _ _ => rfl
  have hmembers := hv.field (fun e => e.member_digests) fun _ _ => rfl
  have hgroups := hv.field (fun e => e.group_digests) fun _ _ => rfl
  have haccepted := hv.field (fun e => e.accepted) fun _ _ => rfl
  unfold validation_gate
  simp only [hthreshold, hfmembers, hfgroups, hsplit, hmanifest, hnull, hexceed, hfar, hpositive, hdetection, hpd,
    hmembers, hgroups, haccepted]

theorem validate_congr {dwells dwells' : List Dwell} (hf : f.Same g)
    (hperm : (dwells.map (summary plan)).Perm (dwells'.map (summary plan)))
    (h : validate_adaptive_calibration wilson plan f plan.val.validation_manifest_digest dwells = .ok v) :
    ∃ w, validate_adaptive_calibration wilson plan g plan.val.validation_manifest_digest dwells' = .ok w ∧ v.Same w := by
  rcases bind_ok.1 h with ⟨⟨⟩, hmatches, hrest⟩
  rcases split_run hrest with ⟨hthreshold, far_upper, pd_lower, hrun⟩
  have hrank : v.val.threshold.rank = g.val.threshold.rank := by rw [hthreshold, hf.rank]
  rcases split_of_run hrun hrank hperm with ⟨w, hw, hsame, _⟩
  refine ⟨w, bind_ok.2 ⟨(), ?_, ?_⟩, hsame⟩
  · rw [fit_matches_congr hf]
    exact hmatches
  · rw [hf.field (fun f => f.training_member_digests) fun _ _ => rfl,
      hf.field (fun f => f.training_group_digests) fun _ _ => rfl]
    exact hw

theorem locked_congr {w : SplitEvidence} {dwells dwells' : List Dwell} {locked : LockedEvidence} (hf : f.Same g)
    (hv : v.Same w) (hperm : (dwells.map (summary plan)).Perm (dwells'.map (summary plan)))
    (h : evaluate_locked_adaptive_calibration wilson plan f v plan.val.locked_test_manifest_digest dwells = .ok locked) :
    ∃ locked', evaluate_locked_adaptive_calibration wilson plan g w plan.val.locked_test_manifest_digest dwells' =
      .ok locked' ∧ locked.Same locked' := by
  rcases bind_ok.1 h with ⟨⟨⟩, hmatches, hrest⟩
  rcases bind_ok.1 hrest with ⟨⟨⟩, hgate, hrest⟩
  rcases bind_ok.1 hrest with ⟨e, he, hrest⟩
  rcases bind_ok.1 hrest with ⟨plan_digest, hplan_digest, hrest⟩
  rcases bind_ok.1 hrest with ⟨fit_digest, hfit_digest, hrest⟩
  rcases bind_ok.1 hrest with ⟨identity, hidentity, hrest⟩
  rcases split_run he with ⟨hthreshold, far_upper, pd_lower, hrun⟩
  have hrank : e.val.threshold.rank = g.val.threshold.rank := by rw [hthreshold, hf.rank]
  rcases split_of_run hrun hrank hperm with ⟨e', he', hsame, _⟩
  have hval := Checked.val_of_make hrest
  have hsameV : locked.val.validation.Same w := by
    rw [hval]
    exact hv
  have hsameL : locked.val.locked_test.Same e' := by
    rw [hval]
    exact hsame
  -- the identity is computed from equal evidence
  have hidentity' : canonicalDigest (lockedIdentity plan_digest fit_digest w.toPy e'.toPy) = .ok identity := by
    have hvalidation := (hv.text.object [("plan", plan_digest.toPy), ("fit", fit_digest.toPy)]
      [("locked", e.toPy)] "validation").digest hidentity
    exact (hsame.text.object [("plan", plan_digest.toPy), ("fit", fit_digest.toPy), ("validation", w.toPy)]
      [] "locked").digest hvalidation
  have hvaccepted := hv.field (fun e => e.accepted) fun _ _ => rfl
  have heaccepted := hsame.field (fun e => e.accepted) fun _ _ => rfl
  have hvmembers := hv.field (fun e => e.member_digests) fun _ _ => rfl
  have hvgroups := hv.field (fun e => e.group_digests) fun _ _ => rfl
  refine ⟨⟨{ locked.val with validation := w, locked_test := e' }, locked.post_init_with hsameV hsameL⟩, ?_,
    ⟨hsameV, hsameL, rfl⟩⟩
  refine bind_ok.2 ⟨(), ?_, bind_ok.2 ⟨(), ?_, bind_ok.2 ⟨e', ?_, bind_ok.2 ⟨plan_digest, hplan_digest,
    bind_ok.2 ⟨fit_digest, hf.text.digest hfit_digest, bind_ok.2 ⟨identity, hidentity', ?_⟩⟩⟩⟩⟩⟩
  · rw [fit_matches_congr hf]
    exact hmatches
  · rw [validation_gate_congr hf hv]
    exact hgate
  · rw [hf.field (fun f => f.training_member_digests) fun _ _ => rfl,
      hf.field (fun f => f.training_group_digests) fun _ _ => rfl]
    rw [hvmembers, hvgroups]
    exact he'
  · have heq := congrArg (fun fields : LockedEvidence.Fields =>
      { fields with validation := w, locked_test := e' }) hval
    have hmake := Checked.make_ok (locked.post_init_with hsameV hsameL)
    rw [hvaccepted, heaccepted]
    exact (congrArg (Checked.make LockedEvidence.Fields.post_init) heq).symm.trans hmake

end Congruence

end AdaptiveCalibration

end LeoFlow
