import LeoFlow.Capture.CampaignPorts

/-!
# LeoFlow.Capture.Continuous — capture first, analyze later

`capture/continuous.py` over the journal of `adapters/continuous_collection_sqlite.py`. Errors of a
record's or a state's own checks are kept apart from all others.
-/

namespace LeoFlow

/-! ## Records -/

inductive ContinuousCollectionPhase where
  | capturing
  | analyzing
  | complete
  | halted
deriving DecidableEq

inductive ContinuousCollectionHaltReason where
  | integrity_failure
  | capture_uncertain
  | missed_slot
  | window_ended
  | analysis_failed
deriving DecidableEq

inductive ContinuousCollectionRecordPhase where
  | planned
  | abandoned
  | captured
  | terminal_failed
  | analysis_failed
  | complete
deriving DecidableEq

namespace ContinuousCollectionRecordPhase

/-- `{CAPTURED, ANALYSIS_FAILED, COMPLETE}` -/
@[reducible] def Accepted (phase : ContinuousCollectionRecordPhase) : Prop :=
  phase = .captured ∨ phase = .analysis_failed ∨ phase = .complete

/-- `{CAPTURED, ANALYSIS_FAILED}` -/
@[reducible] def Pending (phase : ContinuousCollectionRecordPhase) : Prop :=
  phase = .captured ∨ phase = .analysis_failed

end ContinuousCollectionRecordPhase

structure ContinuousCollectionRecord.Fields where
  unit : CampaignUnit
  phase : ContinuousCollectionRecordPhase
  capture_invocations : Nat
  analysis_invocations : Nat
  snapshot : Option CaptureBatchSnapshot
  analysis_receipt : Option CampaignAnalysisReceipt
deriving DecidableEq

def ContinuousCollectionRecord.Fields.post_init (r : ContinuousCollectionRecord.Fields) :
    Except PyError Unit :=
  checkAll [
    raiseIf ((r.phase.Accepted ∨ r.phase = .terminal_failed) ∧ r.snapshot = none)
      (.value "terminal continuous record requires a snapshot"),
    raiseIf ((r.phase = .planned ∨ r.phase = .abandoned) ∧
        (r.snapshot ≠ none ∨ r.analysis_receipt ≠ none))
      (.value "nonterminal continuous record carries terminal evidence"),
    if r.phase = .complete then
      raiseIf (r.analysis_receipt = none)
        (.value "complete continuous record requires analysis evidence")
    else raiseIf (r.analysis_receipt ≠ none)
      (.value "incomplete continuous record carries analysis evidence"),
    raiseIf (r.analysis_invocations ≠ 0 ∧
        (r.phase = .planned ∨ r.phase = .abandoned ∨ r.phase = .terminal_failed))
      (.value "uncaptured continuous record has analysis invocations")]

/-- `ContinuousCollectionRecord` -/
abbrev ContinuousCollectionRecord := Checked ContinuousCollectionRecord.Fields.post_init

namespace ContinuousCollectionRecord

theorem post_init_iff {r : Fields} :
    r.post_init = .ok () ↔
      ((r.phase.Accepted ∨ r.phase = .terminal_failed) → r.snapshot ≠ none) ∧
      ((r.phase = .planned ∨ r.phase = .abandoned) → r.snapshot = none) ∧
      (r.phase = .complete ↔ r.analysis_receipt ≠ none) ∧
      ((r.phase = .planned ∨ r.phase = .abandoned ∨ r.phase = .terminal_failed) →
        r.analysis_invocations = 0) := by
  unfold Fields.post_init
  rcases r with ⟨unit, phase, captures, analyses, snapshot, receipt⟩
  cases phase <;> simp <;> tauto

end ContinuousCollectionRecord

/-! ## States -/

structure ContinuousCollectionState.Fields where
  definition_digest : Digest
  phase : ContinuousCollectionPhase
  records : List ContinuousCollectionRecord
  halt_reason : Option ContinuousCollectionHaltReason
  revision : Nat
deriving DecidableEq

namespace ContinuousCollectionState

/-- The loop of `__post_init__`: it returns `accepted`. -/
def checkSchedule : Nat → Nat → List ContinuousCollectionRecord → Except PyError Nat
  | _, accepted, [] => .ok accepted
  | index, accepted, r :: records =>
    if r.val.unit.slot_index ≠ index ∨ r.val.unit.success_index ≠ accepted then
      .error (.value "continuous collection record schedule is not canonical")
    else checkSchedule (index + 1) (if r.val.phase.Accepted then accepted + 1 else accepted) records

/-- `captured_count` -/
def captured (records : List ContinuousCollectionRecord) : Nat :=
  records.countP fun r => r.val.phase.Accepted

namespace Fields

def post_init (s : Fields) : Except PyError Unit :=
  checkAll [
    raiseIf (¬(s.phase = .halted ↔ s.halt_reason ≠ none))
      (.value "continuous collection halt evidence differs from phase"),
    match checkSchedule 0 0 s.records with
    | .error e => .error e
    | .ok accepted =>
      raiseIf (CAMPAIGN_SUCCESS_TARGET < accepted)
        (.value "continuous collection exceeds the campaign target"),
    raiseIf (∃ r ∈ s.records.dropLast, r.val.phase = .planned)
      (.value "only the last continuous identity may remain planned"),
    raiseIf ((s.phase = .analyzing ∨ s.phase = .complete) ∧ ∃ r ∈ s.records, r.val.phase = .planned)
      (.value "closed collection retains an uncertain capture identity"),
    raiseIf (s.phase = .complete ∧ ∃ r ∈ s.records, r.val.phase.Pending)
      (.value "complete collection retains pending analysis"),
    raiseIf (s.phase = .capturing ∧
        ∃ r ∈ s.records.getLast?, r.val.phase = .abandoned ∨ r.val.phase = .terminal_failed)
      (.value "capture stop evidence requires a halted phase")]

end Fields

end ContinuousCollectionState

/-- `ContinuousCollectionState` -/
abbrev ContinuousCollectionState := Checked ContinuousCollectionState.Fields.post_init

namespace ContinuousCollectionState

/-- `captured_count` -/
def captured_count (s : ContinuousCollectionState) : Nat := captured s.val.records

/-- `ContinuousCollectionState(digest)` -/
def initial (digest : Digest) : ContinuousCollectionState := ⟨⟨digest, .capturing, [], none, 0⟩, rfl⟩

/-- `SQLiteContinuousCollectionJournal` -/
def row : DigestBound ContinuousCollectionState where
  definition_digest s := s.val.definition_digest
  revision s := s.val.revision
  invalid := "continuous collection replacement is invalid"
  changed := "continuous collection revision changed"

end ContinuousCollectionState

namespace ContinuousCollectionState

/-! ### Schedules -/

@[simp] theorem captured_nil : captured [] = 0 := rfl

theorem captured_append (before after : List ContinuousCollectionRecord) :
    captured (before ++ after) = captured before + captured after := List.countP_append

theorem captured_cons (r : ContinuousCollectionRecord) (records : List ContinuousCollectionRecord) :
    captured (r :: records) = captured records + if r.val.phase.Accepted then 1 else 0 := by
  unfold captured
  rw [List.countP_cons]
  simp only [decide_eq_true_eq]

theorem checkSchedule_append (index accepted : Nat) (before after : List ContinuousCollectionRecord) :
    checkSchedule index accepted (before ++ after) =
      checkSchedule index accepted before >>= fun accepted =>
        checkSchedule (index + before.length) accepted after := by
  induction before generalizing index accepted with
  | nil => rfl
  | cons r before ih =>
    simp only [List.cons_append, checkSchedule]
    split
    · rfl
    · rw [ih, List.length_cons, Nat.add_assoc, Nat.add_comm 1]

theorem checkSchedule_ok {index accepted n : Nat} {records : List ContinuousCollectionRecord}
    (h : checkSchedule index accepted records = .ok n) : n = accepted + captured records := by
  induction records generalizing index accepted with
  | nil =>
    cases h
    rfl
  | cons r records ih =>
    simp only [checkSchedule] at h
    split at h
    · cases h
    · rw [ih h, captured_cons]
      split <;> omega

/-- The loop accepts the records. -/
def Scheduled (records : List ContinuousCollectionRecord) : Prop :=
  checkSchedule 0 0 records = .ok (captured records)

variable {before : List ContinuousCollectionRecord} {r : ContinuousCollectionRecord}

theorem scheduled_concat :
    Scheduled (before ++ [r]) ↔
      Scheduled before ∧ r.val.unit.slot_index = before.length ∧
        r.val.unit.success_index = captured before := by
  unfold Scheduled
  rw [checkSchedule_append, Nat.zero_add]
  constructor
  · intro h
    obtain ⟨accepted, hbefore, hlast⟩ := bind_ok.1 h
    have haccepted := checkSchedule_ok hbefore
    rw [Nat.zero_add] at haccepted
    subst haccepted
    refine ⟨hbefore, ?_⟩
    simp only [checkSchedule] at hlast
    split at hlast
    · cases hlast
    · rename_i hunit
      simpa only [not_or, not_not, ne_eq] using hunit
  · rintro ⟨hbefore, hslot, hsuccess⟩
    rw [hbefore]
    show checkSchedule before.length (captured before) [r] = _
    rw [checkSchedule, if_neg (by simp [hslot, hsuccess]), checkSchedule, captured_append, captured_cons]
    split <;> rfl

variable {r' : ContinuousCollectionRecord}

/-- Replacing a record by one of its unit that counts alike. -/
theorem Scheduled.replace {after : List ContinuousCollectionRecord} (h : Scheduled (before ++ r :: after))
    (hunit : r'.val.unit = r.val.unit) (hphase : r'.val.phase.Accepted ↔ r.val.phase.Accepted) :
    Scheduled (before ++ r' :: after) := by
  unfold Scheduled at h ⊢
  have hcaptured : captured (before ++ r' :: after) = captured (before ++ r :: after) := by
    rw [captured_append, captured_append, captured_cons, captured_cons]
    simp only [hphase]
  rw [hcaptured, ← h, checkSchedule_append, checkSchedule_append]
  simp only [checkSchedule, hunit, hphase]

/-! ### Valid states -/

/-- What `__post_init__` accepts. -/
structure Fields.Valid (s : Fields) : Prop where
  halted : s.phase = .halted ↔ s.halt_reason ≠ none
  schedule : Scheduled s.records
  target : captured s.records ≤ CAMPAIGN_SUCCESS_TARGET
  planned : ∀ r ∈ s.records.dropLast, r.val.phase ≠ .planned
  closed : s.phase = .analyzing ∨ s.phase = .complete → ∀ r ∈ s.records, r.val.phase ≠ .planned
  complete : s.phase = .complete → ∀ r ∈ s.records, ¬r.val.phase.Pending
  stopped : s.phase = .capturing → ∀ r ∈ s.records.getLast?,
    r.val.phase ≠ .abandoned ∧ r.val.phase ≠ .terminal_failed

theorem Fields.post_init_iff {s : Fields} : s.post_init = .ok () ↔ s.Valid := by
  unfold post_init
  simp only [checkAll_cons, raiseIf_ok, checkAll_nil, and_true, not_not, not_and, not_exists, not_or]
  constructor
  · rintro ⟨hhalted, hschedule, hplanned, hclosed, hcomplete, hstopped⟩
    split at hschedule
    · cases hschedule
    · rename_i accepted hcheck
      have haccepted := checkSchedule_ok hcheck
      rw [Nat.zero_add] at haccepted
      subst haccepted
      exact ⟨hhalted, hcheck, Nat.le_of_not_lt (raiseIf_ok.1 hschedule), hplanned, hclosed,
        fun hphase r hr => not_or.2 (hcomplete hphase r hr), hstopped⟩
  · intro h
    refine ⟨h.halted, ?_, h.planned, h.closed, fun hphase r hr => not_or.1 (h.complete hphase r hr),
      h.stopped⟩
    have hcheck : checkSchedule 0 0 s.records = .ok (captured s.records) := h.schedule
    rw [hcheck]
    exact raiseIf_ok.2 (Nat.not_lt.2 h.target)

theorem valid (s : ContinuousCollectionState) : s.val.Valid := Fields.post_init_iff.1 s.ok

/-! ### Transitions between valid states -/

namespace Fields.Valid

variable {s : Fields}

theorem no_halt_reason (h : s.Valid) (hphase : s.phase ≠ .halted) : s.halt_reason = none := by
  by_contra hreason
  exact hphase (h.halted.2 hreason)

/-- Before the last record nothing is planned. -/
theorem not_planned (h : s.Valid) (hrecords : s.records = before ++ [r]) :
    ∀ r' ∈ before, r'.val.phase ≠ .planned := by
  have hplanned := h.planned
  rw [hrecords, List.dropLast_concat] at hplanned
  exact hplanned

/-- Nothing is planned if the last record is not. -/
theorem not_planned_of_last (h : s.Valid) (hlast : ∀ r ∈ s.records.getLast?, r.val.phase ≠ .planned) :
    ∀ r ∈ s.records, r.val.phase ≠ .planned := by
  intro r hr
  rcases List.eq_nil_or_concat s.records with hnil | ⟨before, last, hrecords⟩
  · rw [hnil] at hr
    exact absurd hr List.not_mem_nil
  · rw [List.concat_eq_append] at hrecords
    rw [hrecords, List.getLast?_concat] at hlast
    rw [hrecords] at hr
    rcases List.mem_append.1 hr with hr | hr
    · exact h.not_planned hrecords r hr
    · rw [List.mem_singleton.1 hr]
      exact hlast last rfl

/-- Halting keeps the records. -/
theorem halt (h : s.Valid) (reason : ContinuousCollectionHaltReason) :
    ({ s with phase := .halted, halt_reason := some reason } : Fields).Valid where
  halted := by simp
  schedule := h.schedule
  target := h.target
  planned := h.planned
  closed := by rintro (h | h) <;> cases h
  complete := by rintro ⟨⟩
  stopped := by rintro ⟨⟩

/-- Capture closes once nothing is planned. -/
theorem close (h : s.Valid) (hplanned : ∀ r ∈ s.records, r.val.phase ≠ .planned) :
    ({ s with phase := .analyzing, halt_reason := none } : Fields).Valid where
  halted := by simp
  schedule := h.schedule
  target := h.target
  planned := h.planned
  closed := fun _ => hplanned
  complete := by rintro ⟨⟩
  stopped := by rintro ⟨⟩

/-- Analysis completes once nothing is pending. -/
theorem finish (h : s.Valid) (hphase : s.phase = .analyzing)
    (hpending : ∀ r ∈ s.records, ¬r.val.phase.Pending) :
    ({ s with phase := .complete } : Fields).Valid where
  halted := by
    have hreason := h.no_halt_reason (by rw [hphase]; decide)
    simp [hreason]
  schedule := h.schedule
  target := h.target
  planned := h.planned
  closed := fun _ => h.closed (Or.inl hphase)
  complete := fun _ => hpending
  stopped := by rintro ⟨⟩

/-- A unit is planned while capture is open and nothing else is planned. -/
theorem plan (h : s.Valid) (hphase : s.phase = .capturing) (hplanned : ∀ r ∈ s.records, r.val.phase ≠ .planned)
    (hr : r.val.phase = .planned) (hslot : r.val.unit.slot_index = s.records.length)
    (hsuccess : r.val.unit.success_index = captured s.records) :
    ({ s with records := s.records ++ [r] } : Fields).Valid where
  halted := h.halted
  schedule := scheduled_concat.2 ⟨h.schedule, hslot, hsuccess⟩
  target := by
    show captured (s.records ++ [r]) ≤ _
    rw [captured_append, captured_cons, hr]
    exact h.target
  planned := by
    show ∀ r' ∈ (s.records ++ [r]).dropLast, _
    rw [List.dropLast_concat]
    exact hplanned
  closed := by
    rintro (hs | hs) <;> rw [hphase] at hs <;> cases hs
  complete := by
    intro hs
    rw [hphase] at hs
    cases hs
  stopped := by
    intro _ r' hr'
    rw [List.getLast?_concat] at hr'
    cases hr'
    rw [hr]
    decide

/-- The last record of an open capture changes, and the phase stays or becomes halted. -/
theorem replace_last (h : s.Valid) (hrecords : s.records = before ++ [r]) (hunit : r'.val.unit = r.val.unit)
    (hsuccess : r.val.unit.success_index < CAMPAIGN_SUCCESS_TARGET) {phase : ContinuousCollectionPhase}
    {reason : Option ContinuousCollectionHaltReason}
    (hphase : phase = .capturing ∧ reason = none ∧ r'.val.phase ≠ .abandoned ∧ r'.val.phase ≠ .terminal_failed ∨ phase = .halted ∧ reason ≠ none) :
    ({ s with records := before ++ [r'], phase := phase, halt_reason := reason } : Fields).Valid := by
  have hschedule := h.schedule
  rw [hrecords] at hschedule
  obtain ⟨hbefore, hslot, hcount⟩ := scheduled_concat.1 hschedule
  constructor
  · rcases hphase with ⟨rfl, rfl, _⟩ | ⟨rfl, hreason⟩
    · simp
    · exact iff_of_true rfl hreason
  · exact scheduled_concat.2 ⟨hbefore, by rw [hunit]; exact hslot, by rw [hunit]; exact hcount⟩
  · show captured (before ++ [r']) ≤ _
    rw [captured_append, captured_cons, captured_nil, ← hcount]
    split <;> omega
  · show ∀ r'' ∈ (before ++ [r']).dropLast, _
    rw [List.dropLast_concat]
    exact h.not_planned hrecords
  · rcases hphase with ⟨rfl, _⟩ | ⟨rfl, _⟩ <;> rintro (h | h) <;> cases h
  · rcases hphase with ⟨rfl, _⟩ | ⟨rfl, _⟩ <;> rintro ⟨⟩
  · intro hopen r'' hr''
    rw [List.getLast?_concat] at hr''
    cases hr''
    rcases hphase with ⟨_, _, hrecord⟩ | ⟨rfl, _⟩
    · exact hrecord
    · cases hopen

/-- An accepted record changes while analysis is open. -/
theorem replace_accepted (h : s.Valid) (hphase : s.phase = .analyzing) {after : List ContinuousCollectionRecord}
    (hrecords : s.records = before ++ r :: after) (hunit : r'.val.unit = r.val.unit) (hr : r.val.phase.Accepted)
    (hr' : r'.val.phase.Accepted) :
    ({ s with records := before ++ r' :: after } : Fields).Valid := by
  have hschedule := h.schedule
  have htarget := h.target
  have hnot : ∀ r'' ∈ before ++ r' :: after, r''.val.phase ≠ .planned := by
    have hclosed := h.closed (Or.inl hphase)
    rw [hrecords] at hclosed
    intro r'' hr''
    rcases List.mem_append.1 hr'' with hr'' | hr''
    · exact hclosed r'' (List.mem_append_left _ hr'')
    · rcases List.mem_cons.1 hr'' with rfl | hr''
      · rcases hr' with h | h | h <;> rw [h] <;> decide
      · exact hclosed r'' (List.mem_append_right _ (List.mem_cons_of_mem _ hr''))
  rw [hrecords] at hschedule htarget
  constructor
  · exact h.halted
  · exact hschedule.replace hunit (iff_of_true hr' hr)
  · show captured (before ++ r' :: after) ≤ _
    rw [captured_append, captured_cons, if_pos hr']
    rw [captured_append, captured_cons, if_pos hr] at htarget
    exact htarget
  · intro r'' hr''
    exact hnot r'' (List.dropLast_subset _ hr'')
  · exact fun _ => hnot
  · intro hs
    rw [hphase] at hs
    cases hs
  · intro hs
    rw [hphase] at hs
    cases hs

end Fields.Valid

end ContinuousCollectionState

end LeoFlow
