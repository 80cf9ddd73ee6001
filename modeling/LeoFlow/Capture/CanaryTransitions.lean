import LeoFlow.Capture.SupercycleCanary

/-!
# LeoFlow.Capture.CanaryTransitions — what one replacement of the canary journal does

The valid states of `capture/supercycle_canary.py`, and the seven ways from one to the next: a
slot is planned, invoked and captured, the capture phase closes, a receipt is stored, the
canary completes, or it halts. Every transition passes the checks of `__post_init__`.
-/

namespace LeoFlow

namespace CanaryRecord

/-- `_replace_last` and `reconcile_next` build these records; all of them pass their own checks. -/
theorem fields_ok (r : CanaryRecord) :
    (r.val.unit.retry_index = 0 ∧ r.val.unit.success_index = r.val.unit.slot_index) ∧
      (CanaryState.Fields.Nonterminal r → r.val.snapshot = none ∧ r.val.analysis_receipt = none) ∧
      (¬CanaryState.Fields.Nonterminal r → r.val.snapshot ≠ none) ∧
      (r.val.phase = .complete ↔ r.val.analysis_receipt ≠ none) := by
  have h := r.ok
  simp only [Fields.post_init, checkAll_cons, checkAll_nil, raiseIf_ok, not_or, not_not, ne_eq, and_true] at h
  obtain ⟨hunit, hevidence, hreceipt⟩ := h
  refine ⟨hunit, ?_, ?_, hreceipt⟩
  · intro hn
    rw [if_pos (show _ ∨ _ from hn)] at hevidence
    simpa only [raiseIf_ok, not_or, not_not] using hevidence
  · intro hn
    rw [if_neg (show ¬(_ ∨ _) from hn)] at hevidence
    simpa only [raiseIf_ok] using hevidence

end CanaryRecord

namespace CanaryState

open Fields

/-! ## Valid states -/

/-- What `__post_init__` accepts. -/
structure Fields.Valid (s : Fields) : Prop where
  bound : s.records.length ≤ CANARY_SLOTS
  halted : s.phase = .halted ↔ s.halt_reason ≠ none
  schedule : s.records.map (·.val.unit.slot_index) = List.range s.records.length
  last : ∀ r ∈ s.records.dropLast, ¬Nonterminal r
  closed : s.phase = .analyzing ∨ s.phase = .complete → ∀ r ∈ s.records, ¬Nonterminal r
  complete : s.phase = .complete → s.analyzed_count = CANARY_SLOTS

theorem Fields.post_init_iff {s : Fields} : s.post_init = .ok () ↔ s.Valid := by
  unfold post_init
  simp only [checkAll_cons, raiseIf_ok, checkAll_nil, and_true, not_not, not_and, not_exists, not_lt, ne_eq]
  constructor
  · rintro ⟨hbound, hhalted, hschedule, hlast, hclosed, hcomplete⟩
    exact ⟨hbound, hhalted, hschedule, hlast, hclosed, hcomplete⟩
  · intro h
    exact ⟨h.bound, h.halted, h.schedule, h.last, h.closed, h.complete⟩

theorem valid (s : CanaryState) : s.val.Valid := Fields.post_init_iff.1 s.ok

namespace Fields.Valid

variable {s : Fields}

theorem no_halt_reason (h : s.Valid) (hphase : s.phase ≠ .halted) : s.halt_reason = none := by
  by_contra hreason
  exact hphase (h.halted.2 hreason)

/-- Without an open last record every record is terminal. -/
theorem terminal_of_last (h : s.Valid) (hlast : ∀ r ∈ s.records.getLast?, ¬Nonterminal r) :
    ∀ r ∈ s.records, ¬Nonterminal r := by
  intro r hr
  rcases List.eq_nil_or_concat s.records with hnil | ⟨before, last, hrecords⟩
  · rw [hnil] at hr
    exact absurd hr List.not_mem_nil
  · rw [List.concat_eq_append] at hrecords
    have hbefore := h.last
    rw [hrecords, List.dropLast_concat] at hbefore
    rw [hrecords, List.getLast?_concat] at hlast
    rw [hrecords] at hr
    rcases List.mem_append.1 hr with hr | hr
    · exact hbefore r hr
    · rw [List.mem_singleton.1 hr]
      exact hlast last rfl

end Fields.Valid

/-- A terminal record carries its snapshot. -/
theorem captured_count_eq_length {s : Fields} (h : ∀ r ∈ s.records, ¬Nonterminal r) :
    s.captured_count = s.records.length := by
  unfold Fields.captured_count
  rw [List.countP_eq_length]
  intro r hr
  simpa using r.fields_ok.2.2.1 (h r hr)

/-- Counting a record that is captured but not analyzed. -/
theorem analyzed_lt_of_mem {s : Fields} {r : CanaryRecord} (hr : r ∈ s.records) (hphase : r.val.phase = .captured) :
    s.analyzed_count < s.records.length := by
  unfold Fields.analyzed_count
  refine lt_of_le_of_ne List.countP_le_length ?_
  intro heq
  have hall := List.countP_eq_length.1 heq r hr
  simp [hphase] at hall

theorem analyzed_eq_of_none {s : Fields} (hterminal : ∀ r ∈ s.records, ¬Nonterminal r)
    (hnone : ∀ r ∈ s.records, r.val.phase ≠ .captured) : s.analyzed_count = s.records.length := by
  unfold Fields.analyzed_count
  rw [List.countP_eq_length]
  intro r hr
  have hterm := hterminal r hr
  have hcaptured := hnone r hr
  cases hphase : r.val.phase with
  | planned => exact absurd (Or.inl hphase) hterm
  | capture_invoked => exact absurd (Or.inr hphase) hterm
  | captured => exact absurd hphase hcaptured
  | complete => simp

/-! ## Transitions -/

/-- The ways from `s` to the next state, whose revision is the next one. -/
inductive Transition (s : CanaryState) : Fields → Prop where
  | plan (r : CanaryRecord) : s.val.phase = .capturing → (∀ r ∈ s.val.records, ¬Nonterminal r) →
      s.val.records.length < CANARY_SLOTS → r.val.unit.slot_index = s.val.records.length →
      Transition s { s.val with records := s.val.records ++ [r] }
  | invoke (before : List CanaryRecord) (r r' : CanaryRecord) : s.val.phase = .capturing →
      s.val.records = before ++ [r] → r.val.phase = .planned →
      r'.val = { r.val with phase := .capture_invoked } →
      Transition s { s.val with records := before ++ [r'] }
  | capture (before : List CanaryRecord) (r r' : CanaryRecord) (snapshot : CaptureBatchSnapshot) :
      s.val.phase = .capturing → s.val.records = before ++ [r] → r.val.phase = .capture_invoked →
      r'.val = { r.val with phase := .captured, snapshot := some snapshot } →
      Transition s { s.val with records := before ++ [r'] }
  | close : s.val.phase = .capturing → s.captured_count = CANARY_SLOTS →
      Transition s { s.val with phase := .analyzing }
  | receipt (index : Nat) (r r' : CanaryRecord) (receipt : CampaignAnalysisReceipt) :
      s.val.phase = .analyzing → s.val.records[index]? = some r → r.val.phase = .captured →
      r'.val = { r.val with phase := .complete, analysis_receipt := some receipt } →
      Transition s { s.val with records := s.val.records.set index r' }
  | finish : s.val.phase = .analyzing → s.analyzed_count = CANARY_SLOTS →
      Transition s { s.val with phase := .complete }
  | halt (reason : CanaryHaltReason) : s.val.phase = .capturing ∨ s.val.phase = .analyzing →
      Transition s { s.val with phase := .halted, halt_reason := some reason }

/-- `t` is stored over `s`. -/
def Moved (s t : CanaryState) : Prop :=
  ∃ f, Transition s f ∧ t.val = { f with revision := s.val.revision + 1 }

theorem Transition.digest {s : CanaryState} {f : Fields} (h : Transition s f) :
    f.definition_digest = s.val.definition_digest := by
  cases h <;> rfl

/-! ### Transitions pass the checks -/

/-- Replacing a record by one of its slot, of a state that is not closed for good. -/
theorem Fields.Valid.replace {s : Fields} (h : s.Valid) {before after : List CanaryRecord} {r r' : CanaryRecord}
    (hrecords : s.records = before ++ r :: after) (hunit : r'.val.unit = r.val.unit)
    (hphase : s.phase ≠ .complete) (hlast : after ≠ [] ∨ s.phase = .analyzing → ¬Nonterminal r') :
    ({ s with records := before ++ r' :: after } : Fields).Valid := by
  have hlength : (before ++ r' :: after).length = s.records.length := by
    rw [hrecords, List.length_append, List.length_append]
    rfl
  refine ⟨hlength ▸ h.bound, h.halted, ?_, ?_, ?_, fun hcomplete => absurd hcomplete hphase⟩
  · have hschedule := h.schedule
    rw [hrecords] at hschedule
    rw [List.map_append, List.map_cons] at hschedule ⊢
    rw [hunit, hschedule, ← hrecords, ← hlength]
  · have hbefore := h.last
    rw [hrecords] at hbefore
    intro x hx
    rcases List.eq_nil_or_concat after with hnil | ⟨front, last, hafter⟩
    · subst hnil
      rw [List.dropLast_concat] at hx hbefore
      exact hbefore x hx
    · rw [List.concat_eq_append] at hafter
      subst hafter
      rw [← List.cons_append, ← List.append_assoc, List.dropLast_concat] at hx hbefore
      rcases List.mem_append.1 hx with hx | hx
      · exact hbefore x (List.mem_append_left _ hx)
      · rcases List.mem_cons.1 hx with rfl | hx
        · exact hlast (Or.inl (by simp))
        · exact hbefore x (List.mem_append_right _ (List.mem_cons_of_mem _ hx))
  · intro hclosed x hx
    have hanalyzing := hclosed.resolve_right hphase
    have hall := h.closed (Or.inl hanalyzing)
    rw [hrecords] at hall
    rcases List.mem_append.1 hx with hx | hx
    · exact hall x (List.mem_append_left _ hx)
    · rcases List.mem_cons.1 hx with rfl | hx
      · exact hlast (Or.inr hanalyzing)
      · exact hall x (List.mem_append_right _ (List.mem_cons_of_mem _ hx))

/-- What a transition stores, `__post_init__` accepts. -/
theorem Transition.valid {s : CanaryState} {f : Fields} (h : Transition s f) : f.Valid := by
  have hs := s.valid
  cases h with
  | plan r hphase hterminal hlength hslot =>
    refine ⟨?_, hs.halted, ?_, ?_, ?_, ?_⟩
    · show (s.val.records ++ [r]).length ≤ CANARY_SLOTS
      rw [List.length_append]
      exact hlength
    · show (s.val.records ++ [r]).map _ = List.range (s.val.records ++ [r]).length
      rw [List.map_append, hs.schedule, List.length_append, List.length_singleton, List.range_succ,
        List.map_singleton, hslot]
    · intro x hx
      rw [List.dropLast_concat] at hx
      exact hterminal x hx
    · rw [show ({ s.val with records := s.val.records ++ [r] } : Fields).phase = .capturing from hphase]
      rintro (hclosed | hclosed) <;> cases hclosed
    · intro hcomplete
      rw [show ({ s.val with records := s.val.records ++ [r] } : Fields).phase = .capturing from hphase] at hcomplete
      cases hcomplete
  | invoke before r r' hphase hrecords _ hr' =>
    refine hs.replace hrecords (by rw [hr']) (by rw [hphase]; nofun) ?_
    rw [hphase]
    rintro (hclosed | hclosed)
    · exact absurd rfl hclosed
    · cases hclosed
  | capture before r r' snapshot hphase hrecords _ hr' =>
    refine hs.replace hrecords (by rw [hr']) (by rw [hphase]; nofun) ?_
    rintro - (hopen | hopen) <;> rw [hr'] at hopen <;> cases hopen
  | close hphase hcount =>
    have hreason := hs.no_halt_reason (by rw [hphase]; nofun)
    refine ⟨hs.bound, ?_, hs.schedule, hs.last, ?_, nofun⟩
    · exact iff_of_false nofun (fun h => h hreason)
    · intro _ r hr hopen
      -- an open record carries no snapshot, so fewer than 36 slots would be captured
      have hsnapshot := (r.fields_ok.2.1 hopen).1
      have hlt : s.val.captured_count < s.val.records.length := by
        refine lt_of_le_of_ne List.countP_le_length ?_
        intro heq
        have hall := List.countP_eq_length.1 heq r hr
        simp [hsnapshot] at hall
      have hbound := hs.bound
      have : s.val.captured_count = CANARY_SLOTS := hcount
      omega
  | receipt index r r' receipt hphase hget _ hr' =>
    obtain ⟨hlt, hget⟩ := List.getElem?_eq_some_iff.1 hget
    have hsplit : s.val.records = s.val.records.take index ++ r :: s.val.records.drop (index + 1) := by
      rw [← hget, List.getElem_cons_drop, List.take_append_drop]
    have hset : s.val.records.set index r' = s.val.records.take index ++ r' :: s.val.records.drop (index + 1) :=
      List.set_eq_take_append_cons_drop.trans (if_pos hlt)
    rw [hset]
    refine hs.replace hsplit (by rw [hr']) (by rw [hphase]; nofun) ?_
    rintro - (hopen | hopen) <;> rw [hr'] at hopen <;> cases hopen
  | finish hphase hcount =>
    have hreason := hs.no_halt_reason (by rw [hphase]; nofun)
    refine ⟨hs.bound, ?_, hs.schedule, hs.last, fun _ => hs.closed (Or.inl hphase), fun _ => hcount⟩
    exact iff_of_false nofun (fun h => h hreason)
  | halt reason _ =>
    refine ⟨hs.bound, ?_, hs.schedule, hs.last, ?_, nofun⟩
    · exact iff_of_true rfl nofun
    · rintro (hclosed | hclosed) <;> cases hclosed

/-! ### The closed capture phase -/

/-- The capture phase is closed with all 36 slots. -/
def Closed (s : Fields) : Prop := s.phase = .analyzing → s.records.length = CANARY_SLOTS

theorem Transition.closed {s : CanaryState} {f : Fields} (h : Transition s f) (hs : Closed s.val) : Closed f := by
  cases h with
  | plan _ hphase =>
    intro hopen
    rw [show ({ s.val with records := _ } : Fields).phase = .capturing from hphase] at hopen
    cases hopen
  | invoke before r r' hphase =>
    intro hopen
    rw [show ({ s.val with records := before ++ [r'] } : Fields).phase = .capturing from hphase] at hopen
    cases hopen
  | capture before r r' _ hphase =>
    intro hopen
    rw [show ({ s.val with records := before ++ [r'] } : Fields).phase = .capturing from hphase] at hopen
    cases hopen
  | close hphase hcount =>
    intro _
    have hle : s.val.captured_count ≤ s.val.records.length := List.countP_le_length
    have hbound := s.valid.bound
    have : s.val.captured_count = CANARY_SLOTS := hcount
    show s.val.records.length = CANARY_SLOTS
    omega
  | receipt index r r' _ hphase =>
    intro _
    show (s.val.records.set index r').length = CANARY_SLOTS
    rw [List.length_set]
    exact hs hphase
  | finish => nofun
  | halt => nofun

/-- The search for the next record of an open analysis finds one exactly if a receipt is missing. -/
theorem Closed.exists_captured {s : CanaryState} (h : Closed s.val) (hphase : s.val.phase = .analyzing) :
    (∃ r ∈ s.val.records, r.val.phase = .captured) ↔ s.analyzed_count < CANARY_SLOTS := by
  have hlength := h hphase
  constructor
  · rintro ⟨r, hr, hcaptured⟩
    have hlt := analyzed_lt_of_mem hr hcaptured
    rw [hlength] at hlt
    exact hlt
  · intro hlt
    by_contra hnone
    push Not at hnone
    have heq := analyzed_eq_of_none (s.valid.closed (Or.inl hphase)) hnone
    have : s.val.analyzed_count < CANARY_SLOTS := hlt
    omega

end CanaryState

end LeoFlow
