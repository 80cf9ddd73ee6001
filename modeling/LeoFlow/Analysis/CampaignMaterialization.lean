import LeoFlow.Analysis.DatasetCampaign
import LeoFlow.Contracts.Renderable

/-!
# LeoFlow.Analysis.CampaignMaterialization — a frozen campaign as a dataset

What `validate_campaign` accepts, `materialize_campaign` carves as it was frozen, provided that the
identities of the members can be written as canonical JSON, which `validate_campaign` does not check.
-/

namespace LeoFlow

namespace DatasetCampaign

/-! ## What validation establishes -/

namespace CampaignManifest.Fields

structure Valid (c : CampaignManifest.Fields) : Prop where
  spec_ids : (c.truth_specs.map (·.val.truth_spec_id)).Nodup
  spec_digests : ∀ spec ∈ c.truth_specs, ∃ digest, CampaignTruthSpec.digest spec = .ok digest
  group_ids : (c.groups.map (·.val.group_id)).Nodup
  recordings : (c.members.map (·.val.recording_id)).Nodup
  feature_sets : (c.members.map (·.val.feature_set_id)).Nodup
  nonempty : c.members ≠ []
  member_specs : (c.members.map (·.val.truth_spec_id)).Nodup
  closed : SameSet (c.members.map (·.val.truth_spec_id)) (c.truth_specs.map (·.val.truth_spec_id))
  sorted : c.members = c.members.insertionSort c.MemberLe
  specs : ∀ spec ∈ c.truth_specs, c.checkSpec spec = .ok ()
  groups : ∀ group ∈ c.groups, c.checkGroup group = .ok ()
  train : c.StopsBefore .train .validation
  validation : c.StopsBefore .validation .locked_test
  populated : ∀ split ∈ DatasetSplit.all, c.partition split ≠ []

theorem valid_of_ok {c : CampaignManifest.Fields} (h : c.validate_campaign = .ok ()) : c.Valid := by
  unfold validate_campaign at h
  obtain ⟨⟨⟩, hids, h⟩ := bind_ok.1 h
  obtain ⟨digests, hdigests, h⟩ := bind_ok.1 h
  obtain ⟨_, _, h⟩ := bind_ok.1 h
  simp only [checkClosure, unique, checkAll_cons, checkAll_nil, checkAll_map, raiseIf_ok, and_true, not_not, not_or] at hids h
  obtain ⟨⟨_, hgroups⟩, ⟨hnonempty, hrecordings⟩, _, ⟨_, hfeatures⟩, _, hmembers, hclosed, hsorted, hspecs,
    hchecked, hpopulated, ⟨htrain, hvalidation⟩, _⟩ := h
  exact {
    spec_ids := hids.2
    spec_digests := fun spec hspec => by
      obtain ⟨digest, hdigest⟩ := Json.exists_of_forall₂ (mapM_ok.1 hdigests) hspec
      exact ⟨digest, hdigest⟩
    group_ids := hgroups
    recordings := hrecordings
    feature_sets := hfeatures
    nonempty := fun hnil => hnonempty (by rw [hnil]; rfl)
    member_specs := hmembers
    closed := hclosed
    sorted := hsorted
    specs := hspecs
    groups := hchecked
    train := htrain
    validation := hvalidation
    populated := fun split hsplit hempty => hpopulated ⟨split, hsplit, hempty⟩ }

/-- The specification and the group of a member. -/
structure Placement (c : CampaignManifest.Fields) (member : CampaignMember) (spec : CampaignTruthSpec)
    (group : CampaignGroup) : Prop where
  mem_spec : spec ∈ c.truth_specs
  mem_group : group ∈ c.groups
  spec_eq : c.spec member.val.truth_spec_id = some spec
  spec_id : spec.val.truth_spec_id = member.val.truth_spec_id
  group_eq : c.group member.val.group_id = some group
  group_id : group.val.group_id = member.val.group_id
  spec_group : spec.val.group_id = member.val.group_id
  started : group.val.start_utc_ns ≤ member.val.captured_utc_ns
  stopping : member.val.captured_utc_ns < group.val.stop_utc_ns

variable {c : CampaignManifest.Fields}

theorem Valid.memberBySpec (h : c.Valid) {member : CampaignMember} (hmember : member ∈ c.members) :
    c.memberBySpec member.val.truth_spec_id = some member := dictGet_of_mem h.member_specs hmember

theorem Valid.spec_of_mem (h : c.Valid) {spec : CampaignTruthSpec} (hspec : spec ∈ c.truth_specs) :
    c.spec spec.val.truth_spec_id = some spec := dictGet_of_mem h.spec_ids hspec

theorem Valid.placement (h : c.Valid) {member : CampaignMember} (hmember : member ∈ c.members) :
    ∃ spec group, c.Placement member spec group := by
  obtain ⟨spec, hspec, hid⟩ := List.mem_map.1 (h.closed.1 _ (List.mem_map_of_mem hmember))
  have hcheck := h.specs spec hspec
  unfold checkSpec at hcheck
  rw [hid, h.memberBySpec hmember] at hcheck
  simp only [checkAll_cons, checkAll_nil, raiseIf_ok, and_true, not_not] at hcheck
  obtain ⟨_, hcheck⟩ := hcheck
  split at hcheck
  · cases hcheck
  · cases hcheck
  · rename_i member' group hmember' hgroup
    cases hmember'
    simp only [checkAll_cons, checkAll_nil, raiseIf_ok, and_true, not_not] at hcheck
    obtain ⟨hgroup_id, ⟨hstart, hstop⟩, _⟩ := hcheck
    obtain ⟨hmem, hkey⟩ := dictGet_some hgroup
    refine ⟨spec, group, hspec, hmem, ?_, hid, ?_, ?_, hgroup_id.symm, hstart, hstop⟩
    · rw [← hid]
      exact h.spec_of_mem hspec
    · rw [hgroup_id]
      exact hgroup
    · rw [hgroup_id]
      exact hkey

/-- An injection derives from the recording of its group's base, which its specification pins. -/
theorem Valid.injection (h : c.Valid) {member : CampaignMember} {spec : CampaignTruthSpec}
    {group : CampaignGroup} (hplaced : c.Placement member spec group) (hmember : member ∈ c.members)
    (hkind : spec.val.kind = .digital_injection) :
    ∃ base ∈ c.members, spec.val.base_truth_spec_id.bind c.memberBySpec = some base ∧
      member.val.derived_from_recording_id = some base.val.recording_id ∧
        base.val.group_id = member.val.group_id := by
  have hcheck := h.groups group hplaced.mem_group
  unfold checkGroup at hcheck
  simp only [checkAll_cons, checkAll_nil, checkAll_map, raiseIf_ok, and_true, not_not] at hcheck
  obtain ⟨hclosure, _, _, hinjections, _⟩ := hcheck
  have hspec : spec ∈ (c.groupSpecs group).filter (·.val.kind = .digital_injection) := by
    unfold groupSpecs
    simp [hplaced.mem_spec, hplaced.spec_group, hplaced.group_id, hkind]
  split at hinjections
  · cases hinjections
  · rename_i base hbase
    rw [checkAll_map] at hinjections
    have hinjection := hinjections spec hspec
    unfold checkInjection at hinjection
    rw [hplaced.spec_id, h.memberBySpec hmember] at hinjection
    simp only [checkAll_cons, checkAll_nil, raiseIf_ok, and_true, not_not] at hinjection
    obtain ⟨hpins, hderived⟩ := hinjection
    obtain ⟨hbase_mem, hbase_id⟩ := dictGet_some hbase
    refine ⟨base, hbase_mem, ?_, hderived, ?_⟩
    · rw [hpins]
      exact hbase
    · -- the base specification is one of the group's
      have hlisted : group.val.base_truth_spec_id ∈ group.val.truth_spec_ids := by
        have hok := group.ok
        simp only [CampaignGroup.Fields.post_init, checkAll_cons, raiseIf_ok, not_not] at hok
        exact hok.2.2.2.2.2.2.2.1
      obtain ⟨base_spec, hbase_spec, hbase_spec_id⟩ := List.mem_map.1 (hclosure.1 _ hlisted)
      obtain ⟨hin, hgroup⟩ : base_spec ∈ c.truth_specs ∧ base_spec.val.group_id = group.val.group_id := by
        simpa [groupSpecs] using hbase_spec
      obtain ⟨spec', group', hplaced'⟩ := h.placement hbase_mem
      have hsame : some spec' = some base_spec := by
        rw [← hplaced'.spec_eq, hbase_id, ← hbase_spec_id]
        exact h.spec_of_mem hin
      cases hsame
      rw [← hplaced'.spec_group, hgroup, hplaced.group_id]

/-- Nothing else derives from a recording. -/
theorem Valid.underived (h : c.Valid) {member : CampaignMember} {spec : CampaignTruthSpec}
    {group : CampaignGroup} (hplaced : c.Placement member spec group) (hmember : member ∈ c.members)
    (hkind : spec.val.kind ≠ .digital_injection) : member.val.derived_from_recording_id = none := by
  have hcheck := h.groups group hplaced.mem_group
  unfold checkGroup at hcheck
  simp only [checkAll_cons, checkAll_nil, checkAll_map, raiseIf_ok, and_true, not_not] at hcheck
  obtain ⟨_, _, _, _, hothers⟩ := hcheck
  have hspec : spec ∈ (c.groupSpecs group).filter (·.val.kind ≠ .digital_injection) := by
    unfold groupSpecs
    simp [hplaced.mem_spec, hplaced.spec_group, hplaced.group_id, hkind]
  have hother := hothers spec hspec
  unfold checkUnderived at hother
  rw [hplaced.spec_id, h.memberBySpec hmember] at hother
  simpa using hother

end CampaignManifest.Fields

/-! ## Candidates -/

/-- A candidate that stands for a member. -/
structure Represents (member : CampaignMember) (spec : CampaignTruthSpec) (base_digest : Option Digest)
    (c : DatasetCandidate) : Prop where
  feature_set_id : c.val.feature_set_id = member.val.feature_set_id
  recording_id : c.val.recording_id = member.val.recording_id
  split_group_id : c.val.split_group_id = member.val.group_id
  captured_utc_ns : c.val.captured_utc_ns = member.val.captured_utc_ns
  sample_rate_hz : c.val.sample_rate_hz = member.val.sample_rate_hz
  derived : c.val.derived_from_recording_id = member.val.derived_from_recording_id
  evidence : ∃ e, c.val.truth.val.evidence = [e] ∧
    e.val.base_recording_digest = if spec.val.kind = .digital_injection then base_digest else none

theorem represents_of_candidate {member : CampaignMember} {spec : CampaignTruthSpec}
    {base_digest : Option Digest} {c : DatasetCandidate} (h : candidate member spec base_digest = .ok c) :
    Represents member spec base_digest c := by
  unfold candidate at h
  obtain ⟨_, _, h⟩ := bind_ok.1 h
  obtain ⟨evidence, hevidence, h⟩ := bind_ok.1 h
  obtain ⟨truth, htruth, h⟩ := bind_ok.1 h
  have hc := Checked.val_of_make h
  have ht := Checked.val_of_make htruth
  have he := Checked.val_of_make hevidence
  refine ⟨?_, ?_, ?_, ?_, ?_, ?_, evidence, ?_, ?_⟩
  case refine_7 =>
    rw [hc, candidateFields, ht]
    rfl
  case refine_8 =>
    rw [he]
    rfl
  all_goals
    rw [hc]
    rfl

theorem not_blank {value : PyStr} (h : IsToken value) : ¬(value = [] ∨ ∃ c ∈ value, IsWhitespace c) := by
  rintro (hempty | ⟨c, hc, hspace⟩)
  · exact h.1 hempty
  · exact h.2 c hc hspace

theorem labelSource_eq_injected {kind : CampaignTruthKind} :
    kind.labelSource = .injected ↔ kind = .digital_injection := by
  cases kind <;> decide

theorem labelSource_eq_unlabeled {kind : CampaignTruthKind} :
    kind.labelSource = .unlabeled ↔ kind = .base_noise := by
  cases kind <;> decide

/-- Base noise is unlabeled, and nothing else is. -/
theorem target_present_iff {spec : CampaignTruthSpec} :
    spec.val.kind = .base_noise ↔ spec.val.target_present = none := by
  have h := spec.ok
  simp only [CampaignTruthSpec.Fields.post_init, checkAll_cons, raiseIf_ok] at h
  obtain ⟨_, _, _, hbase, _, hothers, _⟩ := h
  constructor
  · intro hkind
    by_contra htarget
    exact hbase ⟨hkind, Or.inl htarget⟩
  · intro htarget
    by_contra hkind
    exact hothers ⟨hkind, htarget⟩

/-- A member can stand in the dataset: the constructors of labels and candidates ask for nothing that
those of specifications and members do not. -/
theorem exists_candidate (member : CampaignMember) {spec : CampaignTruthSpec} {digest : Digest}
    (hdigest : CampaignTruthSpec.digest spec = .ok digest) {base_digest : Option Digest}
    (hbase : spec.val.kind = .digital_injection → base_digest ≠ none) :
    ∃ c, candidate member spec base_digest = .ok c := by
  have hprovenance := spec.val.provenance.ok
  have hmember := member.ok
  simp only [CampaignTruthProvenance.Fields.post_init, CampaignMember.Fields.post_init, token, unique_tokens, non_negative_int, checkAll_cons, checkAll_nil,
    checkAll_map, raiseIf_ok, and_true, not_not, not_lt] at hprovenance hmember
  obtain ⟨hproducer, ⟨_, _, hmethods⟩, hproduced, _⟩ := hprovenance
  obtain ⟨_, hgroup, hrecording, hfeature, hradio, _, _, _, _, ⟨hlnb, _, hlnbs⟩, hcaptured, hrate, _⟩ := hmember
  have hinjection : ∃ d, CampaignTruthSpec.injectionSpecDigest spec = .ok d ∧
      (d ≠ none ↔ spec.val.kind = .digital_injection) := by
    unfold CampaignTruthSpec.injectionSpecDigest
    split
    · rename_i hkind
      exact ⟨some digest, by rw [hdigest]; rfl, by simp [hkind]⟩
    · rename_i hkind
      exact ⟨none, rfl, by simp [hkind]⟩
  obtain ⟨d, hd, hd_iff⟩ := hinjection
  have hevidence : (evidenceFields spec base_digest d).post_init = .ok () := by
    simp only [LabelEvidence.Fields.post_init, checkAll_cons, checkAll_nil, raiseIf_ok, and_true]
    refine ⟨not_blank hproducer, not_lt.2 hproduced, not_not.2 hmethods, ?_, ?_⟩
    · rintro ⟨hsource, hpair⟩
      have hkind := labelSource_eq_injected.1 hsource
      refine hpair ⟨?_, hd_iff.2 hkind⟩
      rw [evidenceFields, if_pos hkind]
      exact hbase hkind
    · rintro ⟨hsource, hlineage⟩
      have hkind : spec.val.kind ≠ .digital_injection := fun hkind => hsource (labelSource_eq_injected.2 hkind)
      rcases hlineage with hrecording | hspec
      · rw [evidenceFields, if_neg hkind] at hrecording
        exact hrecording rfl
      · exact hkind (hd_iff.1 hspec)
  have htruth : (truthFields spec ⟨_, hevidence⟩).post_init = .ok () := by
    simp only [TruthLabel.Fields.post_init, checkAll_cons, checkAll_nil, raiseIf_ok, and_true]
    refine ⟨List.cons_ne_nil _ _, ?_, ?_, ?_, ?_⟩
    · rintro ⟨e, he, hsource⟩
      rcases List.mem_singleton.1 he with rfl
      exact hsource rfl
    · rintro ⟨hsource, htarget⟩
      exact htarget (target_present_iff.1 (labelSource_eq_unlabeled.1 hsource))
    · rintro ⟨hsource, htarget⟩
      exact hsource (labelSource_eq_unlabeled.2 (target_present_iff.2 htarget))
    · rintro ⟨f, hf, hprobability⟩
      have hf : (if spec.val.target_present = none then none else some PyFloat.one) = some f := hf
      split at hf
      · cases hf
      · cases hf
        exact hprobability (by decide)
  have hcandidate : (candidateFields member ⟨_, htruth⟩).post_init = .ok () := by
    simp only [DatasetCandidate.Fields.post_init, checkAll_cons, checkAll_nil, raiseIf_ok, and_true]
    refine ⟨hfeature.1, hrecording.1, hgroup.1, hradio.1, ?_, ?_⟩
    · exact not_or.2 ⟨not_lt.2 hcaptured, hrate⟩
    · exact not_or.2 ⟨hlnb, not_not.2 hlnbs⟩
  refine ⟨⟨_, hcandidate⟩, ?_⟩
  unfold candidate
  rw [hd]
  exact bind_ok.2 ⟨_, rfl, bind_ok.2 ⟨_, Checked.make_ok hevidence,
    bind_ok.2 ⟨_, Checked.make_ok htruth, Checked.make_ok hcandidate⟩⟩⟩

namespace CampaignManifest.Fields

variable {c : CampaignManifest.Fields}

/-- The member of a specification. -/
theorem Valid.member_of_spec (h : c.Valid) {spec : CampaignTruthSpec} (hspec : spec ∈ c.truth_specs) :
    ∃ member ∈ c.members, ∃ group, c.Placement member spec group := by
  obtain ⟨member, hmember, hid⟩ := List.mem_map.1 (h.closed.2 _ (List.mem_map_of_mem hspec))
  obtain ⟨spec', group, hplaced⟩ := h.placement hmember
  have hsame : some spec' = some spec := by
    rw [← hplaced.spec_eq, hid]
    exact h.spec_of_mem hspec
  cases hsame
  exact ⟨member, hmember, group, hplaced⟩

end CampaignManifest.Fields

/-- Only injections name a base. -/
theorem digital_injection_iff {spec : CampaignTruthSpec} :
    spec.val.kind = .digital_injection ↔ spec.val.base_truth_spec_id ≠ none := by
  have h := spec.ok
  simp only [CampaignTruthSpec.Fields.post_init, checkAll_cons, raiseIf_ok] at h
  obtain ⟨_, _, _, _, _, _, hinjection, _, _, _, hothers, _⟩ := h
  constructor
  · intro hkind hnone
    exact hinjection ⟨hkind, Or.inr hnone⟩
  · intro hbase
    by_contra hkind
    exact hothers ⟨hkind, hbase⟩

namespace CampaignManifest

variable {c : CampaignManifest}

theorem valid (c : CampaignManifest) : c.val.Valid := by
  have h := c.ok
  simp only [CampaignManifest.Fields.post_init, checkAll_cons, checkAll_nil, and_true] at h
  exact CampaignManifest.Fields.valid_of_ok h.2.2.2

/-- The base of an injection is found with its recording's digest. -/
theorem exists_baseRecordingDigests (c : CampaignManifest) :
    ∃ digests, baseRecordingDigests c = .ok digests ∧
      ∀ spec ∈ c.val.truth_specs, ∀ base, spec.val.base_truth_spec_id.bind c.val.memberBySpec = some base →
        (dictGet Prod.fst digests spec.val.truth_spec_id).map Prod.snd = some base.val.recording_identity_digest := by
  have hvalid := valid c
  obtain ⟨digests, hdigests⟩ : ∃ digests, baseRecordingDigests c = .ok digests := by
    refine exists_mapM_ok ?_
    intro spec hspec
    obtain ⟨hmem, hnamed⟩ := List.mem_filter.1 hspec
    obtain ⟨member, hmember, group, hplaced⟩ := hvalid.member_of_spec hmem
    obtain ⟨base, _, hbase, _⟩ :=
      hvalid.injection hplaced hmember (digital_injection_iff.2 (of_decide_eq_true hnamed))
    exact ⟨_, by rw [baseRecordingDigest, hbase]⟩
  refine ⟨digests, hdigests, ?_⟩
  intro spec hspec base hbase
  have hall := mapM_ok.1 hdigests
  -- the entries have the keys of the specifications that name a base
  have hkeys : digests.map Prod.fst =
      (c.val.truth_specs.filter (·.val.base_truth_spec_id ≠ none)).map (·.val.truth_spec_id) := by
    have heq : List.Forall₂ (· = ·) (digests.map Prod.fst)
        ((c.val.truth_specs.filter (·.val.base_truth_spec_id ≠ none)).map (·.val.truth_spec_id)) := by
      rw [List.forall₂_map_left_iff, List.forall₂_map_right_iff]
      refine hall.flip.imp ?_
      intro entry spec hentry
      unfold baseRecordingDigest at hentry
      split at hentry
      · cases hentry
      · cases hentry
        rfl
    rwa [List.forall₂_eq_eq_eq] at heq
  have hnodup : (digests.map Prod.fst).Nodup := by
    rw [hkeys]
    exact hvalid.spec_ids.sublist (List.filter_sublist.map _)
  have hnamed : spec ∈ c.val.truth_specs.filter (·.val.base_truth_spec_id ≠ none) := by
    rw [List.mem_filter]
    refine ⟨hspec, decide_eq_true ?_⟩
    intro hnone
    rw [hnone] at hbase
    cases hbase
  obtain ⟨entry, hentry, hok⟩ := Json.exists_mem_of_forall₂ hall hnamed
  unfold baseRecordingDigest at hok
  rw [hbase] at hok
  cases hok
  rw [dictGet_of_mem hnodup hentry]
  rfl

/-- A member with its candidate. -/
structure Stands (c : CampaignManifest) (member : CampaignMember) (candidate : DatasetCandidate) : Prop where
  feature_set_id : candidate.val.feature_set_id = member.val.feature_set_id
  recording_id : candidate.val.recording_id = member.val.recording_id
  split_group_id : candidate.val.split_group_id = member.val.group_id
  captured_utc_ns : candidate.val.captured_utc_ns = member.val.captured_utc_ns
  sample_rate_hz : candidate.val.sample_rate_hz = member.val.sample_rate_hz
  derived : candidate.val.derived_from_recording_id = member.val.derived_from_recording_id
  /-- an injection has the evidence of its base, which is a member of the same group -/
  injection : ∀ spec, c.val.spec member.val.truth_spec_id = some spec → spec.val.kind = .digital_injection →
    ∃ base ∈ c.val.members, member.val.derived_from_recording_id = some base.val.recording_id ∧
      base.val.group_id = member.val.group_id ∧
        ∃ e, candidate.val.truth.val.evidence = [e] ∧
          e.val.base_recording_digest = some base.val.recording_identity_digest
  underived : (∀ spec, c.val.spec member.val.truth_spec_id = some spec → spec.val.kind ≠ .digital_injection) →
    member.val.derived_from_recording_id = none

theorem exists_candidates (c : CampaignManifest) :
    ∃ cs, candidates c = .ok cs ∧ List.Forall₂ (Stands c) c.val.members cs := by
  have hvalid := valid c
  obtain ⟨digests, hdigests, hbases⟩ := exists_baseRecordingDigests c
  have hmember : ∀ member ∈ c.val.members, ∃ candidate', candidateOf c digests member = .ok candidate' ∧
      Stands c member candidate' := by
    intro member hmember
    obtain ⟨spec, group, hplaced⟩ := hvalid.placement hmember
    obtain ⟨digest, hdigest⟩ := hvalid.spec_digests spec hplaced.mem_spec
    have hbase : spec.val.kind = .digital_injection →
        ∃ base ∈ c.val.members, member.val.derived_from_recording_id = some base.val.recording_id ∧
          base.val.group_id = member.val.group_id ∧
          (dictGet Prod.fst digests member.val.truth_spec_id).map Prod.snd =
            some base.val.recording_identity_digest := by
      intro hkind
      obtain ⟨base, hbase_mem, hbase, hderived, hgroup⟩ := hvalid.injection hplaced hmember hkind
      refine ⟨base, hbase_mem, hderived, hgroup, ?_⟩
      rw [← hplaced.spec_id]
      exact hbases spec hplaced.mem_spec base hbase
    have hfound : spec.val.kind = .digital_injection →
        (dictGet Prod.fst digests member.val.truth_spec_id).map Prod.snd ≠ none := by
      intro hkind
      obtain ⟨base, _, _, _, hbase⟩ := hbase hkind
      rw [hbase]
      exact Option.some_ne_none _
    obtain ⟨candidate', hcandidate⟩ := exists_candidate member hdigest hfound
    have hrep := represents_of_candidate hcandidate
    refine ⟨candidate', by rw [candidateOf, hplaced.spec_eq]; exact hcandidate, hrep.feature_set_id,
      hrep.recording_id, hrep.split_group_id, hrep.captured_utc_ns, hrep.sample_rate_hz, hrep.derived, ?_, ?_⟩
    · intro spec' hspec' hkind
      cases hplaced.spec_eq.symm.trans hspec'
      obtain ⟨base, hbase_mem, hderived, hgroup, hbase⟩ := hbase hkind
      obtain ⟨e, he, hdigest⟩ := hrep.evidence
      rw [if_pos hkind, hbase] at hdigest
      exact ⟨base, hbase_mem, hderived, hgroup, e, he, hdigest⟩
    · intro hkind
      exact hvalid.underived hplaced hmember (hkind spec hplaced.spec_eq)
  obtain ⟨cs, hcs⟩ := exists_mapM_ok fun member hm => (hmember member hm).imp fun _ h => h.1
  refine ⟨cs, bind_ok.2 ⟨digests, hdigests, hcs⟩, ?_⟩
  refine (Json.forall₂_mem (mapM_ok.1 hcs)).imp ?_
  rintro member candidate' ⟨hm, hok⟩
  obtain ⟨candidate'', hok', hstands⟩ := hmember member hm
  cases hok.symm.trans hok'
  exact hstands

/-! ## Order -/

instance {c : CampaignManifest.Fields} : Std.Total c.MemberLe := ⟨fun _ _ => le_total _ _⟩

instance {c : CampaignManifest.Fields} : IsTrans CampaignMember c.MemberLe := ⟨fun _ _ _ => le_trans⟩

theorem pairwise_members (c : CampaignManifest) : c.val.members.Pairwise c.val.MemberLe := by
  rw [(valid c).sorted]
  exact List.pairwise_insertionSort _ _

/-- Lists that correspond item by item are sorted alike. -/
theorem pairwise_of_forall₂ {α β : Type} {R : α → β → Prop} {P : α → α → Prop} {Q : β → β → Prop}
    (hPQ : ∀ a b a' b', R a b → R a' b' → P a a' → Q b b') {as : List α} {bs : List β}
    (h : List.Forall₂ R as bs) (has : as.Pairwise P) : bs.Pairwise Q := by
  induction h with
  | nil => exact .nil
  | @cons a b as bs hab hall ih =>
    rw [List.pairwise_cons] at has ⊢
    refine ⟨?_, ih has.2⟩
    intro b' hb'
    obtain ⟨a', ha', hab'⟩ := Json.exists_mem_of_forall₂ hall.flip hb'
    exact hPQ a b a' b' hab hab' (has.1 a' ha')

/-- The split of a member. -/
def splitOf (c : CampaignManifest) (member : CampaignMember) : Option DatasetSplit :=
  groupPartitions c member.val.group_id

theorem splitOf_of_placement {member : CampaignMember} {spec : CampaignTruthSpec} {group : CampaignGroup}
    (h : c.val.Placement member spec group) : splitOf c member = some group.val.partition := by
  unfold splitOf groupPartitions
  rw [h.group_eq]
  rfl

theorem exists_splitOf {member : CampaignMember} (hm : member ∈ c.val.members) :
    ∃ split, splitOf c member = some split := by
  obtain ⟨spec, group, hplaced⟩ := (valid c).placement hm
  exact ⟨_, splitOf_of_placement hplaced⟩

theorem splitOrder_of_splitOf {member : CampaignMember} {split : DatasetSplit}
    (h : splitOf c member = some split) : c.val.splitOrder member = split.order := by
  obtain ⟨group, hgroup, hsplit⟩ := Option.map_eq_some_iff.1 h
  unfold CampaignManifest.Fields.splitOrder
  rw [hgroup]
  show group.val.partition.order = _
  rw [hsplit]

/-- A candidate of the carve with the member it stands for. -/
structure Carries (c : CampaignManifest) (member : CampaignMember) (x : DatasetCandidate × DatasetSplit) :
    Prop where
  stands : Stands c member x.1
  split : splitOf c member = some x.2

theorem forall₂_place {members : List CampaignMember} {cs : List DatasetCandidate}
    (h : List.Forall₂ (Stands c) members cs) (hsplit : ∀ member ∈ members, splitOf c member ≠ none) :
    List.Forall₂ (Carries c) members (place (groupPartitions c) cs) := by
  induction h with
  | nil => exact .nil
  | @cons member candidate members cs hstands hall ih =>
    obtain ⟨split, hsome⟩ := Option.ne_none_iff_exists'.1 (hsplit member List.mem_cons_self)
    have hrest := ih fun member' hm => hsplit member' (List.mem_cons_of_mem _ hm)
    unfold place at hrest ⊢
    rw [List.filterMap_cons, hstands.split_group_id]
    have hpartition : groupPartitions c member.val.group_id = some split := hsome
    rw [hpartition]
    exact .cons ⟨hstands, hsome⟩ hrest

/-- The candidates are carved in the order of the members. -/
theorem forall₂_ordered {cs : List DatasetCandidate} (h : List.Forall₂ (Stands c) c.val.members cs) :
    List.Forall₂ (Carries c) c.val.members ((place (groupPartitions c) cs).insertionSort CarveLe) := by
  have hplaced : List.Forall₂ (Carries c) c.val.members (place (groupPartitions c) cs) := by
    refine forall₂_place h ?_
    intro member hm
    exact Option.ne_none_iff_exists'.2 (exists_splitOf hm)
  have hsorted : (place (groupPartitions c) cs).Pairwise CarveLe := by
    refine pairwise_of_forall₂ ?_ hplaced (pairwise_members c)
    intro a x b y ha hb hle
    unfold CampaignManifest.Fields.MemberLe at hle
    unfold CarveLe
    rw [ha.stands.captured_utc_ns, ha.stands.feature_set_id, hb.stands.captured_utc_ns,
      hb.stands.feature_set_id, ← splitOrder_of_splitOf ha.split, ← splitOrder_of_splitOf hb.split]
    exact hle
  rwa [hsorted.insertionSort_eq]

/-! ## The members of the splits -/

/-- The members whose group is in the split. -/
def membersOf (c : CampaignManifest) (split : DatasetSplit) : List CampaignMember :=
  c.val.members.filter (splitOf c · = some split)

/-- A sequence that is sorted by split is the train part, the validation part and the locked part. -/
theorem append_filter_of_sorted {α : Type} (split : α → DatasetSplit) {xs : List α}
    (h : xs.Pairwise fun a b => (split a).order ≤ (split b).order) :
    xs.filter (split · = .train) ++ xs.filter (split · = .validation) ++ xs.filter (split · = .locked_test) =
      xs := by
  induction xs with
  | nil => rfl
  | cons x xs ih =>
    rw [List.pairwise_cons] at h
    have hrest := ih h.2
    have hnone : ∀ s : DatasetSplit, s.order < (split x).order → xs.filter (split · = s) = [] := by
      intro s hs
      rw [List.filter_eq_nil_iff]
      intro y hy heq
      have hle := h.1 y hy
      rw [of_decide_eq_true heq] at hle
      exact absurd hs (not_lt.2 hle)
    cases hx : split x with
    | train => simpa [hx] using hrest
    | validation =>
      rw [hx] at hnone
      have htrain := hnone .train (by decide)
      simpa [hx, htrain] using hrest
    | locked_test =>
      rw [hx] at hnone
      have htrain := hnone .train (by decide)
      have hvalidation := hnone .validation (by decide)
      simpa [hx, htrain, hvalidation] using hrest

theorem membersOf_eq (c : CampaignManifest) (split : DatasetSplit) : membersOf c split =
    c.val.members.filter fun member => (splitOf c member).getD .train = split := by
  refine List.filter_congr ?_
  intro member hm
  obtain ⟨split', hsplit⟩ := exists_splitOf hm
  rw [hsplit]
  simp

theorem append_membersOf (c : CampaignManifest) :
    membersOf c .train ++ membersOf c .validation ++ membersOf c .locked_test = c.val.members := by
  rw [membersOf_eq, membersOf_eq, membersOf_eq]
  refine append_filter_of_sorted (fun member => (splitOf c member).getD .train) ?_
  refine (pairwise_members c).imp_of_mem ?_
  intro a b ha hb hle
  obtain ⟨s, hs⟩ := exists_splitOf ha
  obtain ⟨t, ht⟩ := exists_splitOf hb
  have horder := Prod.Lex.monotone_fst_ofLex hle
  have horder : c.val.splitOrder a ≤ c.val.splitOrder b := horder
  rw [splitOrder_of_splitOf hs, splitOrder_of_splitOf ht] at horder
  rw [hs, ht]
  exact horder

/-- Captures of one split come before captures of a later one. -/
theorem captured_lt {a b : CampaignMember} (ha : a ∈ c.val.members) (hb : b ∈ c.val.members)
    {s t : DatasetSplit} (hs : splitOf c a = some s) (ht : splitOf c b = some t)
    (hbefore : c.val.StopsBefore s t) : a.val.captured_utc_ns < b.val.captured_utc_ns := by
  obtain ⟨_, g, hplaced⟩ := (valid c).placement ha
  obtain ⟨_, g', hplaced'⟩ := (valid c).placement hb
  cases (splitOf_of_placement hplaced).symm.trans hs
  cases (splitOf_of_placement hplaced').symm.trans ht
  have hstop := hbefore g (List.mem_filter.2 ⟨hplaced.mem_group, by simp⟩) g'
    (List.mem_filter.2 ⟨hplaced'.mem_group, by simp⟩)
  calc a.val.captured_utc_ns < g.val.stop_utc_ns := hplaced.stopping
    _ ≤ g'.val.start_utc_ns := hstop
    _ ≤ b.val.captured_utc_ns := hplaced'.started

/-! ## Identities -/

end CampaignManifest

/-- The strings of a member's identity. -/
def CampaignMember.texts (m : CampaignMember) : List PyStr :=
  [m.val.truth_spec_id, m.val.group_id, m.val.recording_id, m.val.feature_set_id, m.val.radio_id,
    m.val.observation_mode, m.val.gain_mode] ++ m.val.lnb_ids ++ m.val.gain_db.toList ++
    m.val.derived_from_recording_id.toList

/-- Its numbers. -/
def CampaignMember.numbers (m : CampaignMember) : List Int :=
  [m.val.captured_utc_ns, m.val.sample_rate_hz] ++ m.val.ephemeris_input.toList.map (·.val.available_utc_ns)

/-- No string of the member's identity has a surrogate and no number more than 4300 digits. -/
def CampaignMember.Writable (m : CampaignMember) : Prop :=
  (∀ text ∈ m.texts, Encodable text) ∧ ∀ n ∈ m.numbers, Json.ShortInt n

@[simp] theorem renderable_ephemeris (e : CampaignEphemerisInput) :
    Json.Renderable (CampaignEphemerisInput.toPy e) ↔ Json.ShortInt e.val.available_utc_ns := by
  have hpolicy : Encodable e.val.selection_policy := by
    have h := e.ok
    simp only [CampaignEphemerisInput.Fields.post_init, checkAll_cons, raiseIf_ok, not_not] at h
    rw [h.1]
    exact Json.encodable_literal _
  simp only [CampaignEphemerisInput.toPy, Json.renderable_dataclass, List.forall_mem_cons, renderable_digest,
    Json.renderable_str, Json.renderable_int, true_and]
  exact ⟨fun h => h.2.1, fun h => ⟨hpolicy, h, fun _ hx => (List.not_mem_nil hx).elim⟩⟩

theorem renderable_identity (m : CampaignMember) : Json.Renderable m.identity ↔ m.Writable := by
  have hrecording := encodable_toStr m.val.recording_identity_digest
  have hfeature := encodable_toStr m.val.feature_set_digest
  unfold CampaignMember.identity CampaignMember.Writable CampaignMember.texts CampaignMember.numbers
  simp only [Json.renderable_object, List.forall_mem_cons, List.not_mem_nil, false_implies, implies_true,
    List.forall_mem_append, List.forall_mem_map, Json.renderable_str, Json.renderable_int, Json.renderable_tuple,
    Json.renderable_bool, renderable_option, renderable_ephemeris, Option.mem_toList, true_and, and_true]
  tauto

theorem valid_identity (m : CampaignMember) : m.identity.Valid := by
  have hephemeris : ∀ e : CampaignEphemerisInput, (CampaignEphemerisInput.toPy e).Valid := fun e =>
    PyValue.valid_dataclass (by simp [PyValue.Valid, Digest.valid_toPy])
  have htext := @PyValue.valid_option PyStr .str fun _ => trivial
  have hlnbs : PyValue.ValidItems (m.val.lnb_ids.map .str) :=
    (PyValue.validItems_iff _).2 (by simp [PyValue.Valid])
  exact PyValue.valid_object (by
    simp [PyValue.Valid, htext, hlnbs, PyValue.valid_option hephemeris])

theorem exists_membership_digest_iff (c : CampaignManifest) :
    (∃ digest, CampaignManifest.membership_digest c = .ok digest) ↔ ∀ m ∈ c.val.members, m.Writable := by
  unfold CampaignManifest.membership_digest
  rw [exists_canonicalDigest_iff (PyValue.valid_tuple (by simp [valid_identity])), Json.renderable_tuple,
    List.forall_mem_map]
  exact forall₂_congr fun m _ => renderable_identity m

/-! ## Materialization -/

/-- The opening is of this campaign and method, and was frozen no earlier than the campaign. -/
def Opens (c : CampaignManifest) (method : PyStr) (opening : Option LockedTestOpening) : Prop :=
  ∃ o, opening = some o ∧ CampaignManifest.digest c = .ok o.campaign_digest ∧ o.method_id = method ∧
    c.val.frozen_utc_ns ≤ o.frozen_utc_ns

theorem validate_opening_iff {c : CampaignManifest} {method : PyStr} {opening : Option LockedTestOpening} :
    validate_opening c method opening = .ok () ↔ Opens c method opening := by
  unfold validate_opening Opens
  cases opening with
  | none => exact iff_of_false nofun (by rintro ⟨o, ho, _⟩; cases ho)
  | some o =>
    dsimp only
    cases hdigest : CampaignManifest.digest c with
    | error e =>
      refine iff_of_false nofun ?_
      rintro ⟨_, _, h, _⟩
      cases h
    | ok digest =>
      simp only [checkAll_cons, checkAll_nil, raiseIf_ok, and_true, not_not, not_lt]
      constructor
      · rintro ⟨hcampaign, hmethod, hfrozen⟩
        exact ⟨o, rfl, by rw [hcampaign], hmethod, hfrozen⟩
      · rintro ⟨o', ho', hcampaign, hmethod, hfrozen⟩
        cases ho'
        exact ⟨(Except.ok.inj hcampaign).symm, hmethod, hfrozen⟩

/-- The candidate of an injection has the evidence of its base recording, a member of the same split. -/
def Evidenced (c : CampaignManifest) (member : CampaignMember) (candidate : DatasetCandidate) : Prop :=
  ∀ spec, c.val.spec member.val.truth_spec_id = some spec → spec.val.kind = .digital_injection →
    ∃ base ∈ c.val.members, member.val.derived_from_recording_id = some base.val.recording_id ∧
      CampaignManifest.splitOf c member = CampaignManifest.splitOf c base ∧
        ∃ e, candidate.val.truth.val.evidence = [e] ∧
          e.val.base_recording_digest = some base.val.recording_identity_digest

/-- The dataset is the campaign as it was frozen. -/
structure AsFrozen (c : CampaignManifest) (method : PyStr) (m : CampaignMaterialization) : Prop where
  members : m.val.ordered_members = c.val.members
  splits : CampaignManifest.membersOf c .train ++ CampaignManifest.membersOf c .validation ++
    CampaignManifest.membersOf c .locked_test = c.val.members
  unlocked : ∀ split, split ≠ .locked_test → ∀ opening,
    CampaignMaterialization.members_in m split opening = .ok (CampaignManifest.membersOf c split)
  locked : ∀ opening members, CampaignMaterialization.members_in m .locked_test opening = .ok members ↔
    Opens c method opening ∧ members = CampaignManifest.membersOf c .locked_test
  train : ∀ a ∈ CampaignManifest.membersOf c .train, ∀ b ∈ CampaignManifest.membersOf c .validation,
    a.val.captured_utc_ns < b.val.captured_utc_ns
  validation : ∀ a ∈ CampaignManifest.membersOf c .validation,
    ∀ b ∈ CampaignManifest.membersOf c .locked_test, a.val.captured_utc_ns < b.val.captured_utc_ns
  evidence : ∃ cs, CampaignManifest.candidates c = .ok cs ∧ List.Forall₂ (Evidenced c) c.val.members cs

/-- The campaign materializes for the method, as it was frozen. -/
def Materializes (c : CampaignManifest) (method : PyStr) : Prop :=
  ∃ m, materialize_campaign c method = .ok m ∧ AsFrozen c method m

theorem selected_eq {m : CampaignMaterialization} {c : CampaignManifest} (hmanifest : m.val.manifest = c)
    (hmembers : m.val.ordered_members = c.val.members) (split : DatasetSplit) :
    CampaignMaterialization.selected m split = .ok (CampaignManifest.membersOf c split) := by
  have hrows : m.val.ordered_members.mapM (CampaignMaterialization.withPartition m) =
      .ok (c.val.members.map fun member => (member, (CampaignManifest.splitOf c member).getD .train)) := by
    rw [hmembers, mapM_ok, List.forall₂_map_right_iff, List.forall₂_same]
    intro member hm
    obtain ⟨split', hsplit⟩ := CampaignManifest.exists_splitOf hm
    obtain ⟨group, hgroup, hpartition⟩ := Option.map_eq_some_iff.1 hsplit
    unfold CampaignMaterialization.withPartition
    rw [hmanifest, hgroup, hsplit, ← hpartition]
    rfl
  unfold CampaignMaterialization.selected
  rw [hrows]
  refine congrArg Except.ok ?_
  rw [CampaignManifest.membersOf_eq, List.filter_map, List.map_map]
  exact List.map_id' _

theorem members_in_locked {m : CampaignMaterialization} {opening : Option LockedTestOpening}
    {members : List CampaignMember} :
    CampaignMaterialization.members_in m .locked_test opening = .ok members ↔
      validate_opening m.val.manifest m.val.carved.val.evaluated_method_id opening = .ok () ∧
        CampaignMaterialization.selected m .locked_test = .ok members := by
  unfold CampaignMaterialization.members_in
  rw [if_pos rfl]
  cases validate_opening m.val.manifest m.val.carved.val.evaluated_method_id opening with
  | error e => exact iff_of_false nofun fun h => nomatch h.1
  | ok u => exact (and_iff_right rfl).symm

/-- What the carve of the candidates of a campaign froze is its members in their order. -/
theorem memberOfRow_carved {c : CampaignManifest} {cs : List DatasetCandidate}
    (hcs : List.Forall₂ (CampaignManifest.Stands c) c.val.members cs) :
    (((place (CampaignManifest.groupPartitions c) cs).insertionSort CarveLe).map rowOf).mapM
      (CampaignManifest.memberOfRow c) = .ok c.val.members := by
  rw [mapM_ok, List.forall₂_map_left_iff]
  refine (Json.forall₂_mem (CampaignManifest.forall₂_ordered hcs)).flip.imp ?_
  rintro x member ⟨hm, hcarries⟩
  have hid : (rowOf x).feature_set_id = member.val.feature_set_id := hcarries.stands.feature_set_id
  unfold CampaignManifest.memberOfRow
  rw [hid, dictGet_of_mem (CampaignManifest.valid c).feature_sets hm]

theorem exists_dimensions {c : CampaignManifest} {member : CampaignMember} {candidate : DatasetCandidate}
    (hstands : CampaignManifest.Stands c member candidate) (hwritable : member.Writable) :
    ∃ dimensions, candidate.dimensions = .ok dimensions := by
  obtain ⟨rate, hrate⟩ := Json.exists_intStr_iff.2
    (hwritable.2 member.val.sample_rate_hz (by simp [CampaignMember.numbers]))
  have hcaptured := hwritable.2 member.val.captured_utc_ns (by simp [CampaignMember.numbers])
  obtain ⟨day, hday⟩ := Json.exists_intStr_iff.2
    (hcaptured.mono (a := member.val.captured_utc_ns / 86400000000000) (Int.natAbs_ediv_le_natAbs _ _))
  unfold DatasetCandidate.dimensions
  rw [hstands.sample_rate_hz, hstands.captured_utc_ns, hrate, hday]
  exact ⟨_, rfl⟩

theorem exists_membershipDigest {c : CampaignManifest} {cs : List DatasetCandidate}
    (hcs : List.Forall₂ (CampaignManifest.Stands c) c.val.members cs)
    (hwritable : ∀ m ∈ c.val.members, m.Writable) :
    ∃ digest, membershipDigest
      (((place (CampaignManifest.groupPartitions c) cs).insertionSort CarveLe).map rowOf) = .ok digest := by
  have hrow : ∀ row : MemberRow, row.toPy.Valid := fun row => PyValue.valid_tuple (by simp [PyValue.Valid])
  unfold membershipDigest
  rw [exists_canonicalDigest_iff (PyValue.valid_tuple (List.forall_mem_map.2 fun row _ => hrow row)),
    Json.renderable_tuple, List.forall_mem_map, List.forall_mem_map]
  intro x hx
  obtain ⟨member, ⟨hm, hcarries⟩⟩ :=
    Json.exists_of_forall₂ (Json.forall₂_mem (CampaignManifest.forall₂_ordered hcs)).flip hx
  have hfeature : Encodable (rowOf x).feature_set_id := by
    show Encodable x.1.val.feature_set_id
    rw [hcarries.stands.feature_set_id]
    exact (hwritable member hm).1 _ (by simp [CampaignMember.texts])
  have hdigest : Encodable (rowOf x).feature_set_digest := encodable_toStr _
  have hsplit : Encodable (rowOf x).split := by
    show Encodable x.2.value
    cases x.2 <;> exact Json.encodable_literal _
  simpa [MemberRow.toPy] using ⟨hfeature, hdigest, hsplit⟩

/-- The dictionary of recordings agrees with the groups of the campaign. -/
theorem not_leavesBase {c : CampaignManifest} {cs : List DatasetCandidate}
    (hcs : List.Forall₂ (CampaignManifest.Stands c) c.val.members cs) {candidate : DatasetCandidate}
    (hcandidate : candidate ∈ cs) : ¬LeavesBase cs candidate := by
  rintro ⟨parent, hparent, group, hgroup, hne⟩
  have hvalid := CampaignManifest.valid c
  obtain ⟨member, hm, hstands⟩ := Json.exists_mem_of_forall₂ hcs.flip hcandidate
  have hderived : member.val.derived_from_recording_id = some parent := by
    rw [← hstands.derived]
    exact hparent
  obtain ⟨spec, g, hplaced⟩ := hvalid.placement hm
  have hkind : spec.val.kind = .digital_injection := by
    by_contra hkind
    rw [hvalid.underived hplaced hm hkind] at hderived
    cases hderived
  obtain ⟨base, hbase, hrecording, hbase_group, _⟩ := hstands.injection spec hplaced.spec_eq hkind
  cases hderived.symm.trans hrecording
  -- recordings are distinct, so the dictionary has the base's own candidate
  obtain ⟨other, hother, hother_group⟩ := Option.map_eq_some_iff.1 hgroup
  obtain ⟨hother_mem, hother_recording⟩ := dictGet_some hother
  obtain ⟨member', hm', hstands'⟩ := Json.exists_mem_of_forall₂ hcs.flip hother_mem
  have hsame : member' = base := by
    refine List.inj_on_of_nodup_map hvalid.recordings hm' hbase ?_
    rw [← hstands'.recording_id]
    exact hother_recording
  apply hne
  rw [← hother_group, hstands'.split_group_id, hsame, hbase_group, hstands.split_group_id]

theorem evidenced_of_stands {c : CampaignManifest} {member : CampaignMember} {candidate : DatasetCandidate}
    (h : CampaignManifest.Stands c member candidate) : Evidenced c member candidate := by
  intro spec hspec hkind
  obtain ⟨base, hbase, hderived, hgroup, hevidence⟩ := h.injection spec hspec hkind
  refine ⟨base, hbase, hderived, ?_, hevidence⟩
  unfold CampaignManifest.splitOf
  rw [hgroup]

theorem asFrozen {c : CampaignManifest} {method : PyStr} {m : CampaignMaterialization}
    (hmanifest : m.val.manifest = c) (hmethod : m.val.carved.val.evaluated_method_id = method)
    (hmembers : m.val.ordered_members = c.val.members) : AsFrozen c method m := by
  obtain ⟨cs, hcs, hstands⟩ := CampaignManifest.exists_candidates c
  have hvalid := CampaignManifest.valid c
  have hmem : ∀ {split : DatasetSplit} {a : CampaignMember}, a ∈ CampaignManifest.membersOf c split →
      a ∈ c.val.members ∧ CampaignManifest.splitOf c a = some split := by
    intro split a ha
    obtain ⟨hmem, hsplit⟩ := List.mem_filter.1 ha
    exact ⟨hmem, of_decide_eq_true hsplit⟩
  refine ⟨hmembers, CampaignManifest.append_membersOf c, ?_, ?_, ?_, ?_, cs, hcs, hstands.imp fun _ _ =>
    evidenced_of_stands⟩
  · intro split hsplit opening
    unfold CampaignMaterialization.members_in
    rw [if_neg hsplit]
    exact selected_eq hmanifest hmembers split
  · intro opening members
    rw [members_in_locked, hmanifest, hmethod, validate_opening_iff, selected_eq hmanifest hmembers]
    refine and_congr_right fun _ => ?_
    rw [Except.ok.injEq]
    exact eq_comm
  · intro a ha b hb
    exact CampaignManifest.captured_lt (hmem ha).1 (hmem hb).1 (hmem ha).2 (hmem hb).2 hvalid.train
  · intro a ha b hb
    exact CampaignManifest.captured_lt (hmem ha).1 (hmem hb).1 (hmem ha).2 (hmem hb).2 hvalid.validation

/-- A frozen campaign materializes exactly if its members can be written as canonical JSON. -/
theorem materializes_iff (c : CampaignManifest) {method : PyStr} (h : method ∈ c.val.candidate_method_ids) :
    Materializes c method ↔ ∀ member ∈ c.val.members, member.Writable := by
  constructor
  · rintro ⟨m, hm, _⟩
    unfold materialize_campaign at hm
    obtain ⟨_, _, hm⟩ := bind_ok.1 hm
    obtain ⟨_, _, hm⟩ := bind_ok.1 hm
    obtain ⟨_, _, hm⟩ := bind_ok.1 hm
    obtain ⟨_, _, hm⟩ := bind_ok.1 hm
    obtain ⟨digest, hdigest, _⟩ := bind_ok.1 hm
    exact (exists_membership_digest_iff c).1 ⟨digest, hdigest⟩
  · intro hwritable
    obtain ⟨cs, hcs, hstands⟩ := CampaignManifest.exists_candidates c
    obtain ⟨digest, hdigest⟩ := (exists_membership_digest_iff c).2 hwritable
    have hids : List.Forall₂ (fun member candidate => member.val.feature_set_id = candidate.val.feature_set_id)
        c.val.members cs := hstands.imp fun _ _ hs => hs.feature_set_id.symm
    have hids : c.val.members.map (·.val.feature_set_id) = cs.map (·.val.feature_set_id) := by
      rw [← List.forall₂_eq_eq_eq, List.forall₂_map_left_iff, List.forall₂_map_right_iff]
      exact hids
    have hcarve : ∃ carved,
        carve_dataset cs (CampaignManifest.groupPartitions c) method false = .ok carved := by
      refine exists_carve method ?_ (hids ▸ (CampaignManifest.valid c).feature_sets) ?_
        (fun _ => not_leavesBase hstands) ?_ (exists_membershipDigest hstands hwritable)
      · rintro rfl
        exact (CampaignManifest.valid c).nonempty (List.map_eq_nil_iff.1 hids)
      · intro candidate hcandidate
        obtain ⟨member, hm, hs⟩ := Json.exists_mem_of_forall₂ hstands.flip hcandidate
        rw [hs.split_group_id]
        exact Option.ne_none_iff_exists'.2 (CampaignManifest.exists_splitOf hm)
      · intro candidate hcandidate
        obtain ⟨member, hm, hs⟩ := Json.exists_mem_of_forall₂ hstands.flip hcandidate
        exact exists_dimensions hs (hwritable member hm)
    obtain ⟨carved, hcarved⟩ := hcarve
    have hrows := (carved_of_ok hcarved).members
    have hordered := memberOfRow_carved hstands
    rw [← hrows] at hordered
    have hmaterialization :
        (⟨c, carved, c.val.members⟩ : CampaignMaterialization.Fields).post_init = .ok () := by
      refine raiseIf_ok.2 (not_not.2 ?_)
      show c.val.members.map (·.val.feature_set_id) = carved.val.ordered_members.map (·.feature_set_id)
      rw [hrows, ← List.forall₂_eq_eq_eq, List.forall₂_map_left_iff, List.forall₂_map_right_iff,
        List.forall₂_map_right_iff]
      exact (CampaignManifest.forall₂_ordered hstands).imp fun _ _ hcarries =>
        hcarries.stands.feature_set_id.symm
    refine ⟨⟨_, hmaterialization⟩, ?_, asFrozen rfl (evaluated_method_id_of_carve hcarved) rfl⟩
    unfold materialize_campaign
    exact bind_ok.2 ⟨(), raiseIf_ok.2 (not_not.2 h), bind_ok.2 ⟨cs, hcs, bind_ok.2 ⟨carved, hcarved,
      bind_ok.2 ⟨_, hordered, bind_ok.2 ⟨digest, hdigest, Checked.make_ok hmaterialization⟩⟩⟩⟩⟩

/-! ### A campaign -/

namespace Sample

/-- A digest for every hexadecimal digit. -/
def digest (n : Nat) : Digest where
  value := hexDigit n :: List.replicate 63 48
  length_value := rfl
  lowerHex_value := by
    intro c hc
    rcases List.mem_cons.1 hc with rfl | hc
    · exact isLowerHex_hexDigit n
    · rw [List.eq_of_mem_replicate hc]
      decide

def provenance (kind : TruthProducerKind) : CampaignTruthProvenance.Fields where
  producer_id := str "p"
  producer_kind := kind
  producer_artifact_digest := digest 0
  evidence_digest := digest 0
  selection_policy_digest := digest 0
  produced_utc_ns := 0
  independent_of_method_ids := [str "m"]
  detector_derived := false

def blank : CampaignMatrixPoint.Fields where
  snr_db := none
  frequency_offset_hz := none
  drift_hz_s := none
  receiver_delay_samples := none
  receiver_gain_db := none
  clipping := false
  clip_min := none
  clip_max := none
  null_class := none
  confounders := []

/-- The base noise of a group of the same name. -/
def noise (id : String) : CampaignTruthSpec.Fields where
  truth_spec_id := str id
  group_id := str id
  kind := .base_noise
  target_present := none
  base_truth_spec_id := none
  provenance := ⟨provenance .score_blind_selection, by decide⟩
  matrix := ⟨blank, by decide⟩

def group (id : String) (partition : DatasetSplit) (start : Int) : CampaignGroup.Fields where
  group_id := str id
  partition := partition
  start_utc_ns := start
  stop_utc_ns := start + 10
  base_truth_spec_id := str id
  injection_truth_spec_ids := []
  truth_spec_ids := [str id]

def member (id : String) (captured : Nat) (radio : PyStr) : CampaignMember.Fields where
  truth_spec_id := str id
  group_id := str id
  recording_id := str id
  recording_identity_digest := digest captured
  feature_set_id := str id
  feature_set_digest := digest captured
  captured_utc_ns := captured
  radio_id := radio
  lnb_ids := [str "l"]
  observation_mode := str "o"
  sample_rate_hz := 1
  gain_mode := str "g"
  gain_db := none
  scored_truth := false
  derived_from_recording_id := none
  ephemeris_input := none

def specs : List CampaignTruthSpec :=
  [⟨noise "a", by decide⟩, ⟨noise "b", by decide⟩, ⟨noise "d", by decide⟩]

/-- One base noise in every split; the last member is given. -/
def fields (last : CampaignMember) : CampaignManifest.Fields where
  campaign_id := str "c"
  frozen_utc_ns := 30
  candidate_method_ids := [str "m"]
  truth_specs := specs
  groups := [⟨group "a" .train 0, by decide⟩, ⟨group "b" .validation 10, by decide⟩,
    ⟨group "d" .locked_test 20, by decide⟩]
  members := [⟨member "a" 0 (str "r"), by decide⟩, ⟨member "b" 12 (str "r"), by decide⟩, last]

theorem exists_digests : ∃ digests, specs.mapM CampaignTruthSpec.digest = .ok digests ∧ digests.Nodup := by
  have hdigests : ((specs.mapM CampaignTruthSpec.digest).toOption.map fun ds => decide ds.Nodup) = some true := by
    decide +kernel
  cases h : specs.mapM CampaignTruthSpec.digest with
  | error e =>
    rw [h] at hdigests
    cases hdigests
  | ok digests =>
    rw [h] at hdigests
    exact ⟨digests, rfl, of_decide_eq_true (Option.some.inj hdigests)⟩

theorem post_init_fields {last : CampaignMember} (h : (fields last).checkClosure = .ok ()) :
    (fields last).post_init = .ok () := by
  obtain ⟨digests, hdigests, hnodup⟩ := exists_digests
  have hunique : unique digests "truth spec digest" = .ok () := by
    refine raiseIf_ok.2 (not_or.2 ⟨?_, not_not.2 hnodup⟩)
    rintro rfl
    cases mapM_ok.1 hdigests
  have hvalid : (fields last).validate_campaign = .ok () :=
    bind_ok.2 ⟨(), rfl, bind_ok.2 ⟨digests, hdigests, bind_ok.2 ⟨(), hunique, h⟩⟩⟩
  simp only [CampaignManifest.Fields.post_init, checkAll_cons, checkAll_nil, hvalid, and_true]
  exact ⟨rfl, rfl, rfl⟩

def manifest : CampaignManifest :=
  ⟨fields ⟨member "d" 20 (str "r"), by decide⟩, post_init_fields (by decide +kernel)⟩

/-- A lone surrogate is a token. -/
def surrogate : CampaignManifest :=
  ⟨fields ⟨member "d" 20 [0xD800], by decide⟩, post_init_fields (by decide +kernel)⟩

instance (m : CampaignMember) : Decidable m.Writable := inferInstanceAs (Decidable (_ ∧ _))

end Sample

theorem materializes_sample : Materializes Sample.manifest (str "m") :=
  (materializes_iff Sample.manifest (by decide)).2 (by decide +kernel)

theorem surrogate_not_materialized : str "m" ∈ Sample.surrogate.val.candidate_method_ids ∧
    ¬Materializes Sample.surrogate (str "m") := by
  refine ⟨by decide, ?_⟩
  rintro ⟨m, hm, _⟩
  have hfails : (materialize_campaign Sample.surrogate (str "m")).toOption.isSome = false := by decide +kernel
  rw [hm] at hfails
  cases hfails

end DatasetCampaign

end LeoFlow
