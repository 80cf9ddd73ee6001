import LeoFlow.Analysis.CalibrationSplits
import LeoFlow.Contracts.Renderable
import LeoFlow.Contracts.Samples

/-!
# LeoFlow.Analysis.FrozenCalibration — the frozen calibration cell

What holds of every evaluation that returns (`frozen_calibration`): the splits are
disjoint, every held-out dwell is counted once, fewer training maxima than the target
fraction exceed the threshold, and the result depends on the summaries of the inputs only.
-/

namespace LeoFlow

namespace AdaptiveCalibration

/-! ## Inputs with the same summaries -/

/-- What the evaluation sees of an assembled input. -/
structure InputSummary where
  assembly_spec_digest : Digest
  split_manifest_digest : Digest
  qam : Bool
  search_identity_digest : Digest
  pattern_template_digests : List Digest
  dwell : DwellSummary

def inputSummary (plan : Plan) (i : AssembledInput) : InputSummary where
  assembly_spec_digest := i.val.assembly_spec_digest
  split_manifest_digest := i.val.split_manifest_digest
  qam := i.val.qam_bundle_digest.isSome
  search_identity_digest := i.val.search_identity_digest
  pattern_template_digests := i.val.pattern_template_digests
  dwell := summary plan i.val.dwell

/-- Two input sequences with the same summaries, in any order. -/
def SameInputs (plan : Plan) (xs ys : List AssembledInput) : Prop :=
  (xs.map (inputSummary plan)).Perm (ys.map (inputSummary plan))

variable {wilson : WilsonBounds} {plan : Plan} {xs ys xs' ys' : List AssembledInput}

theorem SameInputs.append (h : SameInputs plan xs ys) (h' : SameInputs plan xs' ys') :
    SameInputs plan (xs ++ xs') (ys ++ ys') := by
  unfold SameInputs
  rw [List.map_append, List.map_append]
  exact List.Perm.append h h'

/-- Anything that is read off the summaries is the same up to order. -/
theorem SameInputs.map (h : SameInputs plan xs ys) {β : Type} (f : AssembledInput → β) (g : InputSummary → β)
    (hf : ∀ i, f i = g (inputSummary plan i)) : (xs.map f).Perm (ys.map f) := by
  have hmap : ∀ zs : List AssembledInput, zs.map f = (zs.map (inputSummary plan)).map g := by
    intro zs
    rw [List.map_map]
    exact List.map_congr_left fun i _ => hf i
  rw [hmap, hmap]
  exact List.Perm.map g h

theorem SameInputs.dwells (h : SameInputs plan xs ys) :
    ((dwellsOf xs).map (summary plan)).Perm ((dwellsOf ys).map (summary plan)) := by
  unfold dwellsOf
  rw [List.map_map, List.map_map]
  exact h.map _ (fun s => s.dwell) fun _ => rfl

theorem SameInputs.exists_mem (h : SameInputs plan xs ys) {i : AssembledInput} (hi : i ∈ ys) :
    ∃ j ∈ xs, inputSummary plan j = inputSummary plan i :=
  List.mem_map.1 (h.mem_iff.2 (List.mem_map_of_mem hi))

/-- Reordered inputs. -/
theorem sameInputs_of_perm (h : xs.Perm ys) : SameInputs plan xs ys := h.map _

/-! ## Null dwells with permuted patterns -/

/-- What a pattern says apart from its position. -/
def evidence (p : PatternDwellEvidence) : List ReceiverPatternEvidence × Bool :=
  (p.val.receiver_evidence, p.val.dual_rx_coherent_qam)

/-- Two dwells that differ, if they are nulls, in which pattern has which evidence. -/
structure Permuted (d d' : Dwell) : Prop where
  rest : { d.val with patterns := d'.val.patterns } = d'.val
  positive : d.val.label = .positive → d'.val.patterns = d.val.patterns
  evidence : (d.val.patterns.map evidence).Perm (d'.val.patterns.map evidence)

/-- An assembled input with such a dwell. -/
structure InputPermuted (i i' : AssembledInput) : Prop where
  rest : { i.val with dwell := i'.val.dwell } = i'.val
  dwell : Permuted i.val.dwell i'.val.dwell

/-- What depends on the evidence only is permuted with it. -/
theorem perm_of_evidence {β : Type} [Inhabited β] {ps qs : List PatternDwellEvidence}
    (h : (ps.map evidence).Perm (qs.map evidence)) (g : PatternDwellEvidence → β)
    (hg : ∀ p q, evidence p = evidence q → g p = g q) : (ps.map g).Perm (qs.map g) := by
  have hfactors : Function.FactorsThrough g evidence := fun p q => hg p q
  have hmap : ∀ rs : List PatternDwellEvidence,
      rs.map g = (rs.map evidence).map (Function.extend evidence g fun _ => default) := by
    intro rs
    rw [List.map_map]
    apply List.map_congr_left
    intro p _
    exact (hfactors.extend_apply _ p).symm
  rw [hmap, hmap]
  exact h.map _

theorem rank_maximumOf_perm {as bs : List Num} (h : as.Perm bs) (ha : as ≠ []) (hb : bs ≠ [])
    (hfinite : ∀ x ∈ as, x.Finite) : (Num.maximumOf as ha).rank = (Num.maximumOf bs hb).rank := by
  apply le_antisymm
  · exact Num.rank_le_maximumOf hb (fun x hx => hfinite x (h.mem_iff.2 hx)) _ (h.mem_iff.1 (Num.maximumOf_mem ha))
  · exact Num.rank_le_maximumOf ha hfinite _ (h.mem_iff.2 (Num.maximumOf_mem hb))

theorem whole_search_maximum_congr {p q : PatternDwellEvidence} (h : evidence p = evidence q) :
    p.whole_search_maximum = q.whole_search_maximum := by
  have hreceivers : p.val.receiver_evidence = q.val.receiver_evidence := congrArg Prod.fst h
  unfold PatternDwellEvidence.whole_search_maximum PatternDwellEvidence.maxima
  simp only [hreceivers]

theorem firesAt_congr (plan : Plan) {p q : PatternDwellEvidence} (h : evidence p = evidence q) (t : ℚ) :
    firesAt plan t p = firesAt plan t q := by
  have hreceivers : p.val.receiver_evidence = q.val.receiver_evidence := congrArg Prod.fst h
  have hqam : p.val.dual_rx_coherent_qam = q.val.dual_rx_coherent_qam := congrArg Prod.snd h
  unfold firesAt pattern_passes_evidence_gates
  rw [whole_search_maximum_congr h, hreceivers, hqam]

/-- Neither the maximum of a dwell nor where it fires depends on which pattern has which evidence. -/
theorem summary_permuted {d d' : Dwell} (h : Permuted d d') : summary plan d = summary plan d' := by
  have hmaximum : (family_wise_maximum d).rank = (family_wise_maximum d').rank := by
    apply rank_maximumOf_perm
    · have hinhabited : Inhabited Num := ⟨.int 0⟩
      exact perm_of_evidence h.evidence _ fun p q => whole_search_maximum_congr
    · intro x hx
      rcases List.mem_map.1 hx with ⟨p, _, rfl⟩
      exact (unitNumber_pattern p).finite
  have hfires : ∀ t, d.val.patterns.any (firesAt plan t) = d'.val.patterns.any (firesAt plan t) := by
    intro t
    have hperm := perm_of_evidence h.evidence (firesAt plan t) fun p q hpq => firesAt_congr plan hpq t
    have hany : ∀ ps : List PatternDwellEvidence, ps.any (firesAt plan t) = (ps.map (firesAt plan t)).any id := by
      intro ps
      rw [List.any_map]
      rfl
    rw [hany, hany]
    exact hperm.any_eq
  have htarget : ∀ t, (decide (d.val.label = .positive) && firesAt plan t (d.val.patterns.head d.patterns_ne_nil)) =
      (decide (d.val.label = .positive) && firesAt plan t (d'.val.patterns.head d'.patterns_ne_nil)) := by
    intro t
    cases hlabel : d.val.label with
    | null => rfl
    | positive =>
      have hpatterns := h.positive hlabel
      simp only [hpatterns]
  have hrest := h.rest
  have hlength : d.val.patterns.length = d'.val.patterns.length := by
    simpa using h.evidence.length_eq
  have hid : d.val.dwell_id = d'.val.dwell_id := congrArg (fun f => f.dwell_id) hrest
  have hmember : d.val.member_digest = d'.val.member_digest := congrArg (fun f => f.member_digest) hrest
  have hgroup : d.val.group_digest = d'.val.group_digest := congrArg (fun f => f.group_digest) hrest
  have hsplit : d.val.split = d'.val.split := congrArg (fun f => f.split) hrest
  have hlabel : d.val.label = d'.val.label := congrArg (fun f => f.label) hrest
  have hcell : d.val.cell_identity_digest = d'.val.cell_identity_digest :=
    congrArg (fun f => f.cell_identity_digest) hrest
  unfold summary
  rw [hid, hmember, hgroup, hsplit, hcell, hlength, hmaximum]
  simp only [hfires, htarget]
  simp only [hlabel]

theorem sameInputs_of_permuted (h : List.Forall₂ InputPermuted xs ys) : SameInputs plan xs ys := by
  have hmap : xs.map (inputSummary plan) = ys.map (inputSummary plan) := by
    induction h with
    | nil => rfl
    | @cons i i' is is' hi _ ih =>
      have hrest := hi.rest
      have hspec : i.val.assembly_spec_digest = i'.val.assembly_spec_digest :=
        congrArg (fun f => f.assembly_spec_digest) hrest
      have hmanifest : i.val.split_manifest_digest = i'.val.split_manifest_digest :=
        congrArg (fun f => f.split_manifest_digest) hrest
      have hqam : i.val.qam_bundle_digest = i'.val.qam_bundle_digest := congrArg (fun f => f.qam_bundle_digest) hrest
      have hsearch : i.val.search_identity_digest = i'.val.search_identity_digest :=
        congrArg (fun f => f.search_identity_digest) hrest
      have htemplates : i.val.pattern_template_digests = i'.val.pattern_template_digests :=
        congrArg (fun f => f.pattern_template_digests) hrest
      have hhead : inputSummary plan i = inputSummary plan i' := by
        unfold inputSummary
        rw [hspec, hmanifest, hqam, hsearch, htemplates, summary_permuted hi.dwell]
      rw [List.map_cons, List.map_cons, hhead, ih]
  unfold SameInputs
  rw [hmap]

/-! ## The evaluation of such inputs -/

theorem dedup_length_perm {β : Type} [DecidableEq β] {as bs : List β} (h : as.Perm bs) :
    as.dedup.length = bs.dedup.length := h.dedup.length_eq

/-- What `_verify_assembled_calibration_inputs` checks of each input of a split. -/
def Verified (plan : Plan) (split : Split) (manifest : Digest) (inputs : List AssembledInput) : Prop :=
  ∀ i ∈ inputs, (i.val.split_manifest_digest = manifest ∧ i.val.dwell.val.split = split ∧
    i.val.dwell.val.cell_identity_digest = plan.val.cell_identity_digest ∧
    (i.val.dwell.val.patterns.length : Int) = plan.val.pattern_count) ∧
    ¬(plan.val.minimum_coherent_qam_receiver_count > 0 ∧ i.val.qam_bundle_digest = none)

theorem Verified.same {split : Split} {manifest : Digest} (h : Verified plan split manifest xs)
    (hsame : SameInputs plan xs ys) : Verified plan split manifest ys := by
  intro i hi
  rcases hsame.exists_mem hi with ⟨j, hj, hji⟩
  rcases h j hj with ⟨⟨hmanifest, hsplit, hcell, hcount⟩, hqam⟩
  have hmanifest' : j.val.split_manifest_digest = i.val.split_manifest_digest :=
    congrArg InputSummary.split_manifest_digest hji
  have hdwell : summary plan j.val.dwell = summary plan i.val.dwell := congrArg InputSummary.dwell hji
  have hsplit' : j.val.dwell.val.split = i.val.dwell.val.split := congrArg DwellSummary.split hdwell
  have hcell' : j.val.dwell.val.cell_identity_digest = i.val.dwell.val.cell_identity_digest :=
    congrArg DwellSummary.cell_identity_digest hdwell
  have hcount' : j.val.dwell.val.patterns.length = i.val.dwell.val.patterns.length :=
    congrArg DwellSummary.pattern_count hdwell
  have hqam' : j.val.qam_bundle_digest.isSome = i.val.qam_bundle_digest.isSome := congrArg InputSummary.qam hji
  rw [hmanifest'] at hmanifest
  rw [hsplit'] at hsplit
  rw [hcell'] at hcell
  rw [hcount'] at hcount
  refine ⟨⟨hmanifest, hsplit, hcell, hcount⟩, ?_⟩
  rintro ⟨hgated, hnone⟩
  apply hqam ⟨hgated, ?_⟩
  rw [hnone] at hqam'
  exact Option.not_isSome_iff_eq_none.1 (by rw [hqam']; simp)

theorem verify_iff {a b c : List AssembledInput} {s₁ s₂ s₃ : Split} {m₁ m₂ m₃ : Digest} :
    verify_assembled_calibration_inputs plan [(s₁, m₁, a), (s₂, m₂, b), (s₃, m₃, c)] (a ++ b ++ c) = .ok () ↔
      a ++ b ++ c ≠ [] ∧ (Verified plan s₁ m₁ a ∧ Verified plan s₂ m₂ b ∧ Verified plan s₃ m₃ c) ∧
        ((a ++ b ++ c).map fun i => i.val.search_identity_digest).dedup.length = 1 ∧
        ((a ++ b ++ c).map fun i => i.val.pattern_template_digests).dedup.length = 1 ∧
        ((a ++ b ++ c).map fun i => i.val.assembly_spec_digest).dedup.length = (a ++ b ++ c).length := by
  unfold verify_assembled_calibration_inputs Verified
  simp only [List.map_cons, List.map_nil, checkAll_cons, checkAll_nil, checkAll_map, raiseIf_ok, not_or, not_not,
    and_true, ne_eq]

/-- Evaluations that Python calls equal. -/
structure Evaluation.Same (r r' : Evaluation) : Prop where
  fit : r.1.Same r'.1
  validation : r.2.1.Same r'.2.1
  locked : r.2.2.Same r'.2.2

variable {t v l : List AssembledInput} {r : Evaluation}

/-- Inputs with the same summaries have equal evaluations. -/
theorem evaluate_frozen_congr {t' v' l' : List AssembledInput} (ht : SameInputs plan t t')
    (hv : SameInputs plan v v') (hl : SameInputs plan l l') (h : evaluate_frozen wilson plan t v l = .ok r) :
    ∃ r', evaluate_frozen wilson plan t' v' l' = .ok r' ∧ r.Same r' := by
  rcases bind_ok.1 h with ⟨⟨⟩, hverify, hrest⟩
  rcases bind_ok.1 hrest with ⟨fit, hfit, hrest⟩
  rcases bind_ok.1 hrest with ⟨validation, hvalidation, hrest⟩
  rcases bind_ok.1 hrest with ⟨locked, hlocked, hrest⟩
  cases hrest
  rcases fit_run hfit with ⟨allowed, plan_digest, identity, hrun⟩
  rcases fit_of_run hrun ht.dwells with ⟨fit', hfit', hsameF⟩
  rcases validate_congr hsameF hv.dwells hvalidation with ⟨validation', hvalidation', hsameV⟩
  rcases locked_congr hsameF hsameV hl.dwells hlocked with ⟨locked', hlocked', hsameL⟩
  have hall : SameInputs plan (t ++ v ++ l) (t' ++ v' ++ l') := (ht.append hv).append hl
  rcases verify_iff.1 hverify with ⟨hne, ⟨hT, hV, hL⟩, hsearch, htemplates, hspecs⟩
  have hverify' : verify_assembled_calibration_inputs plan [
      (.train, plan.val.train_manifest_digest, t'),
      (.validation, plan.val.validation_manifest_digest, v'),
      (.locked_test, plan.val.locked_test_manifest_digest, l')] (t' ++ v' ++ l') = .ok () := by
    have hlength : (t ++ v ++ l).length = (t' ++ v' ++ l').length := by simpa using List.Perm.length_eq hall
    refine verify_iff.2 ⟨?_, ⟨hT.same ht, hV.same hv, hL.same hl⟩, ?_, ?_, ?_⟩
    · intro hnil
      rw [hnil] at hlength
      exact hne (List.length_eq_zero_iff.1 hlength)
    · exact (dedup_length_perm (hall.map _ InputSummary.search_identity_digest fun _ => rfl)).symm.trans hsearch
    · exact (dedup_length_perm (hall.map _ InputSummary.pattern_template_digests fun _ => rfl)).symm.trans htemplates
    · rw [← hlength]
      exact (dedup_length_perm (hall.map _ InputSummary.assembly_spec_digest fun _ => rfl)).symm.trans hspecs
  refine ⟨(fit', validation', locked'), ?_, ⟨hsameF, hsameV, hsameL⟩⟩
  exact bind_ok.2 ⟨(), hverify', bind_ok.2 ⟨fit', hfit', bind_ok.2 ⟨validation', hvalidation',
    bind_ok.2 ⟨locked', hlocked', rfl⟩⟩⟩⟩

/-! ## What every evaluation keeps -/

/-- The nulls and the positives are all dwells. -/
theorem labelled_perm (dwells : List DwellSummary) : (labelled dwells).Perm dwells := by
  have hpositives : positivesOf dwells = dwells.filter fun d => !decide (d.label = .null) := by
    apply List.filter_congr
    intro d _
    cases d.label <;> rfl
  unfold labelled
  rw [hpositives]
  exact List.filter_append_perm _ dwells

theorem inventory_nodup {digests : List Digest} (h : Inventory digests) : digests.Nodup := by
  rw [h]
  exact (List.perm_insertionSort _ _).nodup_iff.2 (List.nodup_dedup digests)

theorem SplitEvidence.groups_nodup (e : SplitEvidence) : e.val.group_digests.Nodup := by
  have hok := e.ok
  simp only [SplitEvidence.Fields.post_init, checkAll_cons, raiseIf_ok, not_or, not_not] at hok
  exact inventory_nodup hok.2.2.2.1.2.2.2

/-- The evidence counts every dwell of a split once, as a null or as a positive. -/
structure CountedOnce (e : SplitEvidence) (dwells : List Dwell) : Prop where
  nulls : e.val.null_dwell_count = dwells.countP fun d => decide (d.val.label = .null)
  positives : e.val.positive_dwell_count = dwells.countP fun d => decide (d.val.label = .positive)
  all : e.val.null_dwell_count + e.val.positive_dwell_count = dwells.length

/-- Fewer training maxima exceed the threshold than the target fraction of their number: as the code multiplies, and
exactly, for as many dwells as a float can count. -/
structure FalseAlarmPromise (plan : Plan) (fit : Fit) (dwells : List Dwell) : Prop where
  exceedances : fit.val.training_threshold_exceedance_count =
    dwells.countP fun d => decide (fit.val.threshold.Lt (family_wise_maximum d))
  floor : ∃ allowed, floorTimes dwells.length plan.val.target_family_wise_false_alarm_rate = .ok allowed ∧
    fit.val.training_threshold_exceedance_count < allowed
  fraction : dwells.length < 2 ^ 53 →
    (fit.val.training_threshold_exceedance_count : ℚ) < dwells.length * plan.val.target_family_wise_false_alarm_rate.rank

section Kept

variable {split : Split} {manifest : Digest} {dwells : List Dwell} {null_count positive_count : Int}
  {members groups : List Digest} {e : SplitEvidence} {far_upper pd_lower : Num}

theorem map_summary {β : Type} (plan : Plan) (dwells : List Dwell) (f : DwellSummary → β) :
    (dwells.map (summary plan)).map f = dwells.map fun d => f (summary plan d) := List.map_map

theorem counted_once (h : SplitRun wilson plan split manifest (dwells.map (summary plan)) null_count positive_count
    members groups e far_upper pd_lower) : CountedOnce e dwells := by
  have hreads := reads plan dwells e.unitNumber.finite
  have hfields := h.fields
  have hnulls : e.val.null_dwell_count = (nullsOf (dwells.map (summary plan))).length := by rw [hfields]
  have hpositives : e.val.positive_dwell_count = (positivesOf (dwells.map (summary plan))).length := by rw [hfields]
  have hall := length_labels (dwells.map (summary plan))
  rw [List.length_map] at hall
  constructor
  · rw [hnulls, ← hreads.null_length, ← List.countP_eq_length_filter]
  · rw [hpositives, ← hreads.positive_length, ← List.countP_eq_length_filter]
  · rw [hnulls, hpositives]
    exact_mod_cast hall

/-- The digests of the evidence are those of the dwells. -/
theorem evidence_members (h : SplitRun wilson plan split manifest (dwells.map (summary plan)) null_count
    positive_count members groups e far_upper pd_lower) :
    e.val.member_digests.Perm (dwells.map fun d => d.val.member_digest) ∧
      e.val.group_digests.Perm (dwells.map fun d => d.val.group_digest) := by
  have hperm := labelled_perm (dwells.map (summary plan))
  have hmembers := hperm.map fun d => d.member_digest
  have hgroups := hperm.map fun d => d.group_digest
  rw [map_summary] at hmembers hgroups
  rw [h.fields]
  exact ⟨(List.perm_insertionSort _ _).trans hmembers, (List.perm_insertionSort _ _).trans hgroups⟩

theorem members_nodup (h : SplitRun wilson plan split manifest (dwells.map (summary plan)) null_count
    positive_count members groups e far_upper pd_lower) :
    (dwells.map fun d => d.val.member_digest).Nodup ∧ (dwells.map fun d => d.val.group_digest).Nodup := by
  have hmembers := (labelled_perm (dwells.map (summary plan))).map fun d => d.member_digest
  rw [map_summary] at hmembers
  constructor
  · exact hmembers.nodup_iff.1 h.distinct
  · exact (evidence_members h).2.nodup_iff.1 e.groups_nodup

theorem members_new (h : SplitRun wilson plan split manifest (dwells.map (summary plan)) null_count
    positive_count members groups e far_upper pd_lower) :
    (∀ d ∈ dwells.map fun d => d.val.member_digest, d ∉ members) ∧
      ∀ d ∈ dwells.map fun d => d.val.group_digest, d ∉ groups := by
  have hperm := labelled_perm (dwells.map (summary plan))
  constructor
  · intro d hd
    apply h.members_new
    apply (hperm.map _).mem_iff.2
    rw [map_summary]
    exact hd
  · intro d hd
    apply h.groups_new
    apply (hperm.map _).mem_iff.2
    rw [map_summary]
    exact hd

/-- The threshold is the order statistic at `allowed - 1`, so at most that many maxima exceed it. -/
theorem false_alarm_promise {fit : Fit} {allowed : Int} {plan_digest identity : Digest}
    (h : FitRun plan (dwells.map (summary plan)) fit allowed plan_digest identity) : FalseAlarmPromise plan fit dwells := by
  have hfields := h.fields
  have hcount : fit.val.training_threshold_exceedance_count =
      (dwells.map (summary plan)).countP fun d => decide (fit.val.threshold.rank < d.maximum) := by rw [hfields]
  have hfloor := h.floor
  rw [List.length_map] at hfloor
  rcases List.getElem?_eq_some_iff.1 h.threshold with ⟨hk, hget⟩
  -- counting above the threshold does not depend on the order, so count in the sorted list
  have hsorted := List.pairwise_insertionSort (· ≥ ·) ((dwells.map (summary plan)).map fun d => d.maximum)
  have habove := countP_above_getElem hsorted hk
  rw [hget, (List.perm_insertionSort _ _).countP_eq, List.countP_map] at habove
  have hresolved := h.resolved
  have hlt : fit.val.training_threshold_exceedance_count < allowed := by
    rw [hcount]
    have hle : (dwells.map (summary plan)).countP (fun d => decide (fit.val.threshold.rank < d.maximum)) ≤
        allowed.toNat - 1 := habove
    omega
  refine ⟨?_, ⟨allowed, hfloor, hlt⟩, ?_⟩
  · rw [hcount, ← countP_maxima plan fit.unitNumber.finite, List.countP_map]
    rfl
  · intro hsmall
    rcases plan.rate_bounds with ⟨hfinite, h0, h1⟩
    have hallowed := floorTimes_lt hfinite h0.le h1.le hsmall hfloor
    have hle : (fit.val.training_threshold_exceedance_count : ℚ) ≤ allowed - 1 := by
      have hint : fit.val.training_threshold_exceedance_count ≤ allowed - 1 := by omega
      exact_mod_cast hint
    linarith

end Kept

/-- The two nulls' counts of an evaluation, and its threshold, are those of another. -/
structure SameNulls (r r' : Evaluation) : Prop where
  threshold : r.1.val.threshold.Eq r'.1.val.threshold
  training : r'.1.val.training_threshold_exceedance_count = r.1.val.training_threshold_exceedance_count
  validation : r'.2.1.val.null_family_wise_exceedance_count = r.2.1.val.null_family_wise_exceedance_count
  locked : r'.2.2.val.locked_test.val.null_family_wise_exceedance_count =
    r.2.2.val.locked_test.val.null_family_wise_exceedance_count

theorem Evaluation.Same.nulls {r' : Evaluation} (h : r.Same r') : SameNulls r r' where
  threshold := h.fit.threshold
  training := h.fit.field (fun f => f.training_threshold_exceedance_count) fun _ _ => rfl
  validation := h.validation.field (fun e => e.null_family_wise_exceedance_count) fun _ _ => rfl
  locked := h.locked.locked_test.field (fun e => e.null_family_wise_exceedance_count) fun _ _ => rfl

/-- What an evaluation that returned went through. -/
structure FrozenRun (wilson : WilsonBounds) (plan : Plan) (t v l : List AssembledInput) (r : Evaluation) : Prop where
  fit : ∃ allowed plan_digest identity,
    FitRun plan ((dwellsOf t).map (summary plan)) r.1 allowed plan_digest identity
  validation : ∃ far_upper pd_lower, SplitRun wilson plan .validation plan.val.validation_manifest_digest
    ((dwellsOf v).map (summary plan)) plan.val.validation_null_dwell_count plan.val.validation_positive_dwell_count
    r.1.val.training_member_digests r.1.val.training_group_digests r.2.1 far_upper pd_lower
  locked : ∃ far_upper pd_lower, SplitRun wilson plan .locked_test plan.val.locked_test_manifest_digest
    ((dwellsOf l).map (summary plan)) plan.val.locked_test_null_dwell_count plan.val.locked_test_positive_dwell_count
    (r.1.val.training_member_digests ++ r.2.1.val.member_digests)
    (r.1.val.training_group_digests ++ r.2.1.val.group_digests) r.2.2.val.locked_test far_upper pd_lower
  decision : r.2.2.val.calibrated_decision_eligible = (r.2.1.val.accepted && r.2.2.val.locked_test.val.accepted)

theorem frozen_run (h : evaluate_frozen wilson plan t v l = .ok r) :
    FrozenRun wilson plan t v l r := by
  rcases bind_ok.1 h with ⟨⟨⟩, _, hrest⟩
  rcases bind_ok.1 hrest with ⟨fit, hfit, hrest⟩
  rcases bind_ok.1 hrest with ⟨validation, hvalidation, hrest⟩
  rcases bind_ok.1 hrest with ⟨locked, hlocked, hrest⟩
  cases hrest
  rcases bind_ok.1 hvalidation with ⟨_, _, hsplit⟩
  rcases bind_ok.1 hlocked with ⟨_, _, hlocked⟩
  rcases bind_ok.1 hlocked with ⟨_, _, hlocked⟩
  rcases bind_ok.1 hlocked with ⟨evidence, hevidence, hlocked⟩
  rcases bind_ok.1 hlocked with ⟨_, _, hlocked⟩
  rcases bind_ok.1 hlocked with ⟨_, _, hlocked⟩
  rcases bind_ok.1 hlocked with ⟨_, _, hlocked⟩
  have hval := Checked.val_of_make hlocked
  have htest : locked.val.locked_test = evidence := by rw [hval]
  refine ⟨fit_run hfit, (split_run hsplit).2, ?_, ?_⟩
  · show ∃ far_upper pd_lower, SplitRun wilson plan .locked_test _ _ _ _ _ _ locked.val.locked_test far_upper pd_lower
    rw [htest]
    exact (split_run hevidence).2
  · show locked.val.calibrated_decision_eligible = (validation.val.accepted && locked.val.locked_test.val.accepted)
    rw [htest, hval]

/-- No digest occurs twice in a split or in two splits. -/
theorem splits_apart (h : FrozenRun wilson plan t v l r) :
    ((dwellsOf (t ++ v ++ l)).map fun d => d.val.member_digest).Nodup ∧
      ((dwellsOf (t ++ v ++ l)).map fun d => d.val.group_digest).Nodup := by
  rcases h.fit with ⟨allowed, plan_digest, identity, hfit⟩
  rcases h.validation with ⟨_, _, hvalidation⟩
  rcases h.locked with ⟨_, _, hlocked⟩
  have htmembers := hfit.stratum.members
  have htgroups := hfit.stratum.groups
  rw [map_summary] at htmembers htgroups
  -- the inventories of the fit and of the validation evidence are those of the dwells
  have hfitMembers : ∀ d, d ∈ (dwellsOf t).map (fun d => d.val.member_digest) → d ∈ r.1.val.training_member_digests := by
    intro d hd
    rw [hfit.fields]
    apply mem_sortDigests.2
    rw [map_summary]
    exact hd
  have hfitGroups : ∀ d, d ∈ (dwellsOf t).map (fun d => d.val.group_digest) → d ∈ r.1.val.training_group_digests := by
    intro d hd
    rw [hfit.fields]
    apply mem_sortDigests.2
    rw [map_summary]
    exact hd
  rcases evidence_members hvalidation with ⟨hvMembers, hvGroups⟩
  rcases members_nodup hvalidation with ⟨hvm, hvg⟩
  rcases members_nodup hlocked with ⟨hlm, hlg⟩
  rcases members_new hvalidation with ⟨hvnewM, hvnewG⟩
  rcases members_new hlocked with ⟨hlnewM, hlnewG⟩
  have hsplit : ∀ f : Dwell → Digest, (dwellsOf (t ++ v ++ l)).map f =
      ((dwellsOf t).map f ++ (dwellsOf v).map f) ++ (dwellsOf l).map f := by
    intro f
    unfold dwellsOf
    rw [List.map_append, List.map_append, List.map_append, List.map_append]
  constructor
  · rw [hsplit]
    refine List.nodup_append'.2 ⟨List.nodup_append'.2 ⟨htmembers, hvm, ?_⟩, hlm, ?_⟩
    · intro d ht hv
      exact hvnewM d hv (hfitMembers d ht)
    · intro d htv hl
      rcases List.mem_append.1 htv with ht | hv
      · exact hlnewM d hl (List.mem_append.2 (.inl (hfitMembers d ht)))
      · exact hlnewM d hl (List.mem_append.2 (.inr (hvMembers.mem_iff.2 hv)))
  · rw [hsplit]
    refine List.nodup_append'.2 ⟨List.nodup_append'.2 ⟨htgroups, hvg, ?_⟩, hlg, ?_⟩
    · intro d ht hv
      exact hvnewG d hv (hfitGroups d ht)
    · intro d htv hl
      rcases List.mem_append.1 htv with ht | hv
      · exact hlnewG d hl (List.mem_append.2 (.inl (hfitGroups d ht)))
      · exact hlnewG d hl (List.mem_append.2 (.inr (hvGroups.mem_iff.2 hv)))

/-- The threshold and the validation evidence are computed before the locked test is read. -/
theorem locked_test_unread {l' : List AssembledInput} {r' : Evaluation}
    (h : evaluate_frozen wilson plan t v l = .ok r) (h' : evaluate_frozen wilson plan t v l' = .ok r') :
    r'.1 = r.1 ∧ r'.2.1 = r.2.1 := by
  rcases bind_ok.1 h with ⟨⟨⟩, _, hrest⟩
  rcases bind_ok.1 hrest with ⟨fit, hfit, hrest⟩
  rcases bind_ok.1 hrest with ⟨validation, hvalidation, hrest⟩
  rcases bind_ok.1 hrest with ⟨locked, _, hrest⟩
  cases hrest
  rcases bind_ok.1 h' with ⟨⟨⟩, _, hrest⟩
  rcases bind_ok.1 hrest with ⟨fit', hfit', hrest⟩
  rcases bind_ok.1 hrest with ⟨validation', hvalidation', hrest⟩
  rcases bind_ok.1 hrest with ⟨locked', _, hrest⟩
  cases hrest
  have hfits : fit' = fit := Except.ok.inj (hfit'.symm.trans hfit)
  subst hfits
  exact ⟨rfl, Except.ok.inj (hvalidation'.symm.trans hvalidation)⟩

/-! ## When an evaluation returns -/

/-- The checks and counts of an evaluation, without the digests that name its results. -/
def frozen_splits (wilson : WilsonBounds) (plan : Plan) (t v l : List AssembledInput) :
    Except PyError (Fit × SplitEvidence × SplitEvidence) := do
  verify_assembled_calibration_inputs plan [
      (.train, plan.val.train_manifest_digest, t),
      (.validation, plan.val.validation_manifest_digest, v),
      (.locked_test, plan.val.locked_test_manifest_digest, l)] (t ++ v ++ l)
  let fit ← fit_adaptive_calibration plan plan.val.train_manifest_digest (dwellsOf t)
  let validation ← evaluate_split wilson plan fit .validation plan.val.validation_manifest_digest
    plan.val.validation_manifest_digest (dwellsOf v) plan.val.validation_null_dwell_count
    plan.val.validation_positive_dwell_count fit.val.training_member_digests fit.val.training_group_digests
  validation_gate wilson plan fit validation
  let locked ← evaluate_split wilson plan fit .locked_test plan.val.locked_test_manifest_digest
    plan.val.locked_test_manifest_digest (dwellsOf l) plan.val.locked_test_null_dwell_count
    plan.val.locked_test_positive_dwell_count
    (fit.val.training_member_digests ++ validation.val.member_digests)
    (fit.val.training_group_digests ++ validation.val.group_digests)
  return (fit, validation, locked)

/-- A fit always matches the plan it was made from. -/
theorem fit_matches_of_run {fit : Fit} {allowed : Int} {plan_digest identity : Digest} {dwells : List DwellSummary}
    (h : FitRun plan dwells fit allowed plan_digest identity) : fit_matches plan fit = .ok () := by
  refine bind_ok.2 ⟨plan_digest, h.plan_ok, raiseIf_ok.2 ?_⟩
  rw [h.fields]
  simp

theorem renderable_unit {a : Num} (h : UnitNumber a) : Json.Renderable a.toValue :=
  Json.renderable_num h.finite h.nonneg h.le_one

theorem renderable_digests (digests : List Digest) : Json.Renderable (.tuple (digests.map Digest.toPy)) := by
  rw [Json.renderable_tuple]
  intro v hv
  rcases List.mem_map.1 hv with ⟨d, _, rfl⟩
  exact renderable_digest d

/-- A split's evidence has a text when its dwells can be counted in one. -/
theorem renderable_evidence (e : SplitEvidence) (hnull : Json.ShortInt e.val.null_dwell_count)
    (hpositive : Json.ShortInt e.val.positive_dwell_count) : Json.Renderable e.toPy := by
  have hok := e.ok
  simp only [SplitEvidence.Fields.post_init, checkAll_cons, raiseIf_ok, checkAll_map, not_not] at hok
  rcases hok with ⟨_, hcounts, hvalues, _⟩
  have hbounded : ∀ c ∈ [(e.val.null_family_wise_exceedance_count, e.val.null_dwell_count),
      (e.val.positive_detection_count, e.val.positive_dwell_count)], 0 ≤ c.1 ∧ c.1 ≤ c.2 := by
    intro c hc
    by_contra hbad
    exact hcounts ⟨c, hc, .inr hbad⟩
  have hexceed := hbounded _ List.mem_cons_self
  have hdetect := hbounded _ (List.mem_cons_of_mem _ List.mem_cons_self)
  have hexceedShort : Json.ShortInt e.val.null_family_wise_exceedance_count := hnull.mono (by dsimp only at hexceed; omega)
  have hdetectShort : Json.ShortInt e.val.positive_detection_count := hpositive.mono (by dsimp only at hdetect; omega)
  have hunit : ∀ x ∈ [e.val.threshold, e.val.null_far_upper_bound, e.val.positive_detection_probability_lower_bound],
      Json.Renderable x.toValue := by
    intro x hx
    have hx := hvalues x hx
    exact renderable_unit (unitNumber_of_inUnit (finite_of_requireFinite hx.1) hx.2.1)
  have hsplit : Encodable e.val.split.value := by
    cases e.val.split <;> exact Json.encodable_literal _
  rw [List.forall_mem_cons, List.forall_mem_cons, List.forall_mem_cons] at hunit
  unfold SplitEvidence.toPy SplitEvidence.toPyWith
  simp [hexceedShort, hdetectShort, hnull, hpositive, hunit.1, hunit.2.1, hunit.2.2.1, renderable_digests,
    -Json.renderable_tuple]
  exact hsplit

/-- A fit has a text when its dwells can be counted in one. -/
theorem renderable_fit {fit : Fit} {allowed : Int} {plan_digest identity : Digest} {dwells : List DwellSummary}
    (h : FitRun plan dwells fit allowed plan_digest identity) (hcount : Json.ShortInt fit.val.training_dwell_count)
    (hfinite : (oneOver dwells.length).Finite) : Json.Renderable fit.toPy := by
  have hok := fit.ok
  simp only [Fit.Fields.post_init, checkAll_cons, raiseIf_ok, not_or, not_not] at hok
  rcases hok with ⟨_, _, ⟨_, hrank, hrankle, _, hexceed, _⟩, _⟩
  have hrankShort : Json.ShortInt fit.val.threshold_descending_rank := hcount.mono (by omega)
  have hexceedShort : Json.ShortInt fit.val.training_threshold_exceedance_count := hcount.mono (by omega)
  have hfar : Json.Renderable fit.val.minimum_resolvable_family_wise_far.toValue := by
    rw [h.fields]
    exact Json.renderable_float hfinite
  have hid : Encodable fit.val.fit_id := by
    rw [h.fields]
    intro c hc
    rcases List.mem_append.1 hc with hc | hc
    · exact Json.encodable_literal "sladfit_" c hc
    · exact encodable_value identity c (List.mem_of_mem_take hc)
  have hschema : Json.Renderable fit.val.schema.toPy := by
    rw [h.fields]
    exact renderable_schema rfl
  unfold Fit.toPy Fit.toPyWith
  simp [hcount, hrankShort, hexceedShort, hfar, hschema, renderable_unit fit.unitNumber, renderable_digests,
    -Json.renderable_tuple]
  exact hid

theorem valid_digests (digests : List Digest) : PyValue.ValidItems (digests.map Digest.toPy) := by
  apply PyValue.valid_tuple
  intro v hv
  rcases List.mem_map.1 hv with ⟨d, _, rfl⟩
  exact Digest.valid_toPy d

theorem Fit.valid_toPy (fit : Fit) : fit.toPy.Valid :=
  PyValue.valid_dataclass (by
    simp [PyValue.Valid, Digest.valid_toPy, SchemaRef.valid_toPy, PyValue.valid_toValue, valid_digests])

theorem SplitEvidence.valid_toPy (e : SplitEvidence) : e.toPy.Valid :=
  PyValue.valid_dataclass (by simp [PyValue.Valid, Digest.valid_toPy, PyValue.valid_toValue, valid_digests])

/-- The counts of a plan that has a digest have a text. -/
theorem Plan.shortInts {digest : Digest} (h : canonicalDigest plan.toPy = .ok digest) :
    Json.ShortInt plan.val.training_null_dwell_count ∧ Json.ShortInt plan.val.validation_null_dwell_count ∧
      Json.ShortInt plan.val.validation_positive_dwell_count ∧ Json.ShortInt plan.val.locked_test_null_dwell_count ∧
      Json.ShortInt plan.val.locked_test_positive_dwell_count := by
  rcases map_ok h with ⟨bytes, hbytes, _⟩
  rcases Json.canonicalJsonBytes_iff.1 hbytes with ⟨text, htext, _⟩
  have hall := Json.renderable_dataclass.1 (show Json.Renderable plan.toPy from ⟨text, htext⟩)
  refine ⟨?_, ?_, ?_, ?_, ?_⟩
  · exact Json.renderable_int.1 (hall ("training_null_dwell_count", _) (by simp))
  · exact Json.renderable_int.1 (hall ("validation_null_dwell_count", _) (by simp))
  · exact Json.renderable_int.1 (hall ("validation_positive_dwell_count", _) (by simp))
  · exact Json.renderable_int.1 (hall ("locked_test_null_dwell_count", _) (by simp))
  · exact Json.renderable_int.1 (hall ("locked_test_positive_dwell_count", _) (by simp))

/-- The counts of a split's evidence are those of the plan. -/
theorem evidence_counts {split : Split} {manifest : Digest} {dwells : List DwellSummary} {null_count positive_count : Int}
    {members groups : List Digest} {e : SplitEvidence} {far_upper pd_lower : Num}
    (h : SplitRun wilson plan split manifest dwells null_count positive_count members groups e far_upper pd_lower) :
    e.val.null_dwell_count = null_count ∧ e.val.positive_dwell_count = positive_count := by
  have hnulls := h.nulls.length
  have hpositives := h.positives.length
  rw [h.fields]
  exact ⟨hnulls, hpositives⟩

/-- Naming the results never fails: an evaluation returns when its checks pass. -/
theorem evaluate_frozen_returns {c : Fit × SplitEvidence × SplitEvidence}
    (h : frozen_splits wilson plan t v l = .ok c) (hfinite : (oneOver (dwellsOf t).length).Finite) :
    ∃ r, evaluate_frozen wilson plan t v l = .ok r := by
  rcases bind_ok.1 h with ⟨⟨⟩, hverify, hrest⟩
  rcases bind_ok.1 hrest with ⟨fit, hfit, hrest⟩
  rcases bind_ok.1 hrest with ⟨validation, hvalidation, hrest⟩
  rcases bind_ok.1 hrest with ⟨⟨⟩, hgate, hrest⟩
  rcases bind_ok.1 hrest with ⟨locked, hlocked, _⟩
  rcases fit_run hfit with ⟨allowed, plan_digest, identity, hrun⟩
  rcases split_run hvalidation with ⟨_, _, _, hvrun⟩
  rcases split_run hlocked with ⟨_, _, _, hlrun⟩
  rcases Plan.shortInts hrun.plan_ok with ⟨htrain, hvnull, hvpositive, hlnull, hlpositive⟩
  rcases evidence_counts hvrun with ⟨hvn, hvp⟩
  rcases evidence_counts hlrun with ⟨hln, hlp⟩
  have hmatches := fit_matches_of_run hrun
  have hcount : fit.val.training_dwell_count = plan.val.training_null_dwell_count := by
    rw [hrun.fields]
    exact hrun.stratum.length
  have hfitText := renderable_fit hrun (by rw [hcount]; exact htrain) (by rw [List.length_map]; exact hfinite)
  have hvText := renderable_evidence validation (by rw [hvn]; exact hvnull) (by rw [hvp]; exact hvpositive)
  have hlText := renderable_evidence locked (by rw [hln]; exact hlnull) (by rw [hlp]; exact hlpositive)
  rcases (exists_canonicalDigest_iff fit.valid_toPy).2 hfitText with ⟨fit_digest, hfit_digest⟩
  have hidentityText : Json.Renderable (lockedIdentity plan_digest fit_digest validation.toPy locked.toPy) := by
    unfold lockedIdentity
    simp [hvText, hlText]
  have hidentityValid : (lockedIdentity plan_digest fit_digest validation.toPy locked.toPy).Valid :=
    PyValue.valid_object (by simp [Digest.valid_toPy, validation.valid_toPy, locked.valid_toPy])
  rcases (exists_canonicalDigest_iff hidentityValid).2 hidentityText with ⟨locked_identity, hlocked_identity⟩
  have hvsplit : validation.val.split = .validation := by rw [hvrun.fields]
  have hlsplit : locked.val.split = .locked_test := by rw [hlrun.fields]
  have hpost : LockedEvidence.Fields.post_init {
      schema := lockedSchema
      evidence_id := str "sladlocked_" ++ locked_identity.value.take 32
      plan_digest
      fit_digest
      validation
      locked_test := locked
      calibrated_decision_eligible := validation.val.accepted && locked.val.accepted
      candidate_only := !(validation.val.accepted && locked.val.accepted)
      warnings := WARNINGS } = .ok () := by
    unfold LockedEvidence.Fields.post_init
    rw [raiseIf_ok]
    simp [hvsplit, hlsplit]
    cases validation.val.accepted <;> cases locked.val.accepted <;> decide
  refine ⟨(fit, validation, ⟨_, hpost⟩), ?_⟩
  refine bind_ok.2 ⟨(), hverify, bind_ok.2 ⟨fit, hfit, bind_ok.2 ⟨validation, bind_ok.2 ⟨(), hmatches, hvalidation⟩,
    bind_ok.2 ⟨⟨_, hpost⟩, ?_, rfl⟩⟩⟩⟩
  exact bind_ok.2 ⟨(), hmatches, bind_ok.2 ⟨(), hgate, bind_ok.2 ⟨locked, hlocked, bind_ok.2 ⟨plan_digest, hrun.plan_ok,
    bind_ok.2 ⟨fit_digest, hfit_digest, bind_ok.2 ⟨locked_identity, hlocked_identity, Checked.make_ok hpost⟩⟩⟩⟩⟩⟩

/-! ## One small cell -/

section Example

/-- Sixty-four times one digit. -/
def repeatedDigit (digit : Fin 10) : Digest where
  value := List.replicate 64 (48 + digit)
  length_value := List.length_replicate
  lowerHex_value := by
    revert digit
    decide +kernel

/-- One receiver whose maximum is a number of quarters. -/
def oneReceiver (quarters : Fin 5) : ReceiverPatternEvidence where
  val := {
    radio_id := Sample.radio_1
    receiver_chain_id := Sample.rx_1
    whole_search_maximum := .float (PyFloat.ofRatio false quarters 4)
    candidate_count := 1
    temporal_maximum := .int 1
    qam_goodness := .int 0
    qam_complete_frame_count := 0 }
  ok := by
    revert quarters
    decide +kernel

def qinPattern (quarters : Fin 5) : PatternDwellEvidence where
  val := { pattern_index := 0, role := .qin, receiver_evidence := [oneReceiver quarters], dual_rx_coherent_qam := false }
  ok := by
    revert quarters
    decide +kernel

/-- An input whose dwell has its own digit. -/
def oneInput (split : Split) (label : Label) (digit : Fin 10) (quarters : Fin 5) : AssembledInput where
  val := {
    schema := ⟨str "org.leo-flow.assembled-adaptive-calibration-input", V0_1, by decide⟩
    assembly_spec_digest := repeatedDigit digit
    split_manifest_digest := repeatedDigit 0
    response_bundle_digest := repeatedDigit 0
    qam_bundle_digest := none
    search_identity_digest := repeatedDigit 0
    pattern_template_digests := [repeatedDigit 0]
    dwell := {
      val := {
        dwell_id := str "dwell_" ++ [48 + (digit : Nat)]
        member_digest := repeatedDigit digit
        group_digest := repeatedDigit digit
        split
        label
        cell_identity_digest := repeatedDigit 0
        patterns := [qinPattern quarters] }
      ok := by
        have hid : ∀ d : Fin 10, IsToken (str "dwell_" ++ [48 + (d : Nat)]) := by decide +kernel
        simp [Dwell.Fields.post_init, requireToken, hid, qinPattern] }
    complete_search_axes := SEARCH_AXES
    score_correction := str "none"
    candidate_only := true }
  ok := by
    unfold AssembledInput.Fields.post_init
    simp

def smallPlan : Plan where
  val := {
    schema := ⟨str "org.leo-flow.adaptive-starlink-calibration-plan", V0_1, by decide⟩
    plan_id := str "plan"
    cell_identity_digest := repeatedDigit 0
    pattern_count := 1
    train_manifest_digest := repeatedDigit 0
    validation_manifest_digest := repeatedDigit 0
    locked_test_manifest_digest := repeatedDigit 0
    training_null_dwell_count := 2
    validation_null_dwell_count := 1
    validation_positive_dwell_count := 1
    locked_test_null_dwell_count := 1
    locked_test_positive_dwell_count := 1
    target_family_wise_false_alarm_rate := .float (PyFloat.ofRatio false 1 2)
    minimum_positive_detection_probability := .float (PyFloat.ofRatio false 1 2)
    confidence_level := .float (PyFloat.ofRatio false 5 8)
    minimum_temporal_maximum := .int 0
    minimum_qam_goodness_per_receiver := .int 0
    minimum_coherent_qam_receiver_count := 0 }
  ok := by decide +kernel

/-- The bounds of no alarm in one trial and of one detection in one trial at confidence 0.625. -/
def smallBounds : WilsonBounds where
  upper _ _ _ := .ok (.float (PyFloat.ofRatio false 3320869987349031 36028797018963968))
  lower _ _ _ := .ok (.float (PyFloat.ofRatio false 4088490878951867 4503599627370496))

def smallTraining : List AssembledInput := [oneInput .train .null 1 1, oneInput .train .null 2 2]

def smallValidation : List AssembledInput := [oneInput .validation .null 3 1, oneInput .validation .positive 4 3]

def smallLocked : List AssembledInput := [oneInput .locked_test .null 5 1, oneInput .locked_test .positive 6 3]

theorem small_returns : ∃ r, evaluate_frozen smallBounds smallPlan smallTraining smallValidation smallLocked = .ok r := by
  have hok : (frozen_splits smallBounds smallPlan smallTraining smallValidation smallLocked).isOk = true := by
    decide +kernel
  cases hsplits : frozen_splits smallBounds smallPlan smallTraining smallValidation smallLocked with
  | error e =>
    rw [hsplits] at hok
    cases hok
  | ok c => exact evaluate_frozen_returns hsplits (by decide)

end Example

/-- Every evaluation that returns: no member and no group occurs twice, each held-out dwell is counted once, fewer
training maxima than the target fraction exceed the threshold, the result depends neither on the order of the dwells
nor on which pattern of a null has which evidence, the threshold and the validation evidence do not depend on the
locked test, and the decision is eligible exactly when both held-out splits were accepted. -/
theorem frozen_calibration {t v l : List AssembledInput} {r : Evaluation}
    (h : evaluate_frozen wilson plan t v l = .ok r) :
    (((dwellsOf (t ++ v ++ l)).map fun d => d.val.member_digest).Nodup ∧
      ((dwellsOf (t ++ v ++ l)).map fun d => d.val.group_digest).Nodup) ∧
    (CountedOnce r.2.1 (dwellsOf v) ∧ CountedOnce r.2.2.val.locked_test (dwellsOf l)) ∧
    FalseAlarmPromise plan r.1 (dwellsOf t) ∧
    (∀ t' v' l', t.Perm t' → v.Perm v' → l.Perm l' →
      ∃ r', evaluate_frozen wilson plan t' v' l' = .ok r' ∧ r.Same r') ∧
    (∀ t' v' l', List.Forall₂ InputPermuted t t' → List.Forall₂ InputPermuted v v' → List.Forall₂ InputPermuted l l' →
      ∃ r', evaluate_frozen wilson plan t' v' l' = .ok r' ∧ SameNulls r r') ∧
    (∀ l' r', evaluate_frozen wilson plan t v l' = .ok r' → r'.1 = r.1 ∧ r'.2.1 = r.2.1) ∧
    (r.2.2.val.calibrated_decision_eligible = true ↔
      r.2.1.val.accepted = true ∧ r.2.2.val.locked_test.val.accepted = true) := by
  have hrun := frozen_run h
  refine ⟨splits_apart hrun, ⟨?_, ?_⟩, ?_, ?_, ?_, ?_, ?_⟩
  · rcases hrun.validation with ⟨_, _, hvalidation⟩
    exact counted_once hvalidation
  · rcases hrun.locked with ⟨_, _, hlocked⟩
    exact counted_once hlocked
  · rcases hrun.fit with ⟨_, _, _, hfit⟩
    exact false_alarm_promise hfit
  · intro t' v' l' ht hv hl
    exact evaluate_frozen_congr (sameInputs_of_perm ht) (sameInputs_of_perm hv) (sameInputs_of_perm hl) h
  · intro t' v' l' ht hv hl
    rcases evaluate_frozen_congr (sameInputs_of_permuted ht) (sameInputs_of_permuted hv) (sameInputs_of_permuted hl) h
      with ⟨r', hr', hsame⟩
    exact ⟨r', hr', hsame.nulls⟩
  · intro l' r' h'
    exact locked_test_unread h h'
  · rw [hrun.decision, Bool.and_eq_true]

theorem frozen_calibration_small :
    ∃ r, evaluate_frozen smallBounds smallPlan smallTraining smallValidation smallLocked = .ok r ∧
      CountedOnce r.2.1 (dwellsOf smallValidation) ∧ FalseAlarmPromise smallPlan r.1 (dwellsOf smallTraining) := by
  rcases small_returns with ⟨r, hr⟩
  have h := frozen_calibration hr
  exact ⟨r, hr, h.2.1.1, h.2.2.1⟩

end AdaptiveCalibration

end LeoFlow
