import LeoFlow.Capture.CampaignPorts

/-!
# LeoFlow.Capture.SupercycleCanary — 36 slots without replay

`capture/supercycle_canary.py` over the journal of `adapters/supercycle_canary_sqlite.py`. Records
and states check themselves; a coordinator call raises where a state it builds does not
pass its own checks.
-/

namespace LeoFlow

/-! ## Definitions -/

def CANARY_SLOTS : Nat := 36
def CANARY_RECORDINGS : Nat := 72
def CANARY_SLOT_PERIOD_NUMERATOR_NS : Int := 400000000000
def CANARY_SLOT_PERIOD_DENOMINATOR : Int := 13
def CANARY_PREFLIGHT_LEAD_NS : Int := 15000000000
def CANARY_MAXIMUM_SKEW_NS : Int := 100000000

/-- `V8_QUALIFICATION_RECEIPT_DIGEST` -/
def V8_QUALIFICATION_RECEIPT_DIGEST : Digest where
  value := str "6a816b5da9be8cb86361610fe42004074512e64b0748de2be2b62e832cdbcb8d"
  length_value := by decide
  lowerHex_value := by decide

/-- `_CANARY_ID`: `canary_[a-z0-9][a-z0-9_-]{0,31}` -/
def IsCanaryId (id : PyStr) : Prop :=
  id.take 7 = str "canary_" ∧
    Matches IsLowerAlnum (fun c => IsLowerAlnum c ∨ c = 95 ∨ c = 45) (id.drop 7) ∧ id.length ≤ 39

instance (id : PyStr) : Decidable (IsCanaryId id) :=
  inferInstanceAs (Decidable (_ ∧ Matches IsLowerAlnum _ (id.drop 7) ∧ _))

structure SupercycleCanaryDefinition.Fields where
  canary_id : PyStr
  start_utc_ns : Int
  radio_a_id : RadioId
  radio_b_id : RadioId
  station_a_digest : Digest
  station_b_digest : Digest
  maximum_start_lateness_ns : Int
  qualification_receipt_digest : Digest
deriving DecidableEq

def SupercycleCanaryDefinition.Fields.post_init (d : SupercycleCanaryDefinition.Fields) :
    Except PyError Unit :=
  checkAll [
    raiseIf (¬IsCanaryId d.canary_id) (.value "canary ID must use the dedicated canary_ namespace"),
    raiseIf (d.start_utc_ns < 0) (.value "canary start must be non-negative"),
    raiseIf (d.radio_a_id = d.radio_b_id) (.value "canary radios must be distinct"),
    raiseIf (d.qualification_receipt_digest ≠ V8_QUALIFICATION_RECEIPT_DIGEST)
      (.value "canary requires the exact reviewed v8 receipt"),
    raiseIf (¬(0 ≤ d.maximum_start_lateness_ns ∧ d.maximum_start_lateness_ns ≤ 5000000000))
      (.value "canary lateness bound must be within five seconds")]

/-- `SupercycleCanaryDefinition` -/
abbrev SupercycleCanaryDefinition := Checked SupercycleCanaryDefinition.Fields.post_init

namespace SupercycleCanaryDefinition

/-- `document` -/
def document (d : SupercycleCanaryDefinition) : PyValue :=
  .dict [
    (str "schema", .str (str "org.leo-flow.gauss-v5-supercycle-canary/v1")),
    (str "canary_id", .str d.val.canary_id),
    (str "campaign_kind", .str (str "supercycle_canary")),
    (str "authorization_scope", .str (str "canary_only")),
    (str "main_campaign_authorized", .bool false),
    (str "start_utc_ns", .int d.val.start_utc_ns),
    (str "radios", .list [.str d.val.radio_a_id.value, .str d.val.radio_b_id.value]),
    (str "station_digests",
      .list [.str d.val.station_a_digest.toStr, .str d.val.station_b_digest.toStr]),
    (str "qualification_receipt_digest", .str d.val.qualification_receipt_digest.toStr),
    (str "slots", .int CANARY_SLOTS),
    (str "recordings", .int CANARY_RECORDINGS),
    (str "cells", .list (CAMPAIGN_CELLS.map CampaignCell.document)),
    (str "geometry_schedule", .list [
      .list [.str (str "L"), .str (str "L")], .list [.str (str "L"), .str (str "U")],
      .list [.str (str "U"), .str (str "U")], .list [.str (str "U"), .str (str "L")]]),
    (str "unit_schedule", .str (str "single_nine_cell_four_geometry_no_catch_up_supercycle")),
    (str "slot_period_numerator_ns", .int CANARY_SLOT_PERIOD_NUMERATOR_NS),
    (str "slot_period_denominator", .int CANARY_SLOT_PERIOD_DENOMINATOR),
    (str "preflight_lead_ns", .int CANARY_PREFLIGHT_LEAD_NS),
    (str "maximum_start_lateness_ns", .int d.val.maximum_start_lateness_ns),
    (str "maximum_observed_start_skew_ns", .int CANARY_MAXIMUM_SKEW_NS),
    (str "hardware_block_duration_ms", .int 40),
    (str "capture_mode", .str (str "coordinated")),
    (str "capture_first", .bool true),
    (str "no_catch_up", .bool true),
    (str "replay_allowed", .bool false),
    (str "raw_bytes", .int 1254400000),
    (str "capture_transition_limit", .int (2 * CANARY_SLOTS + 1)),
    (str "analysis_transition_limit", .int (CANARY_SLOTS + 1)),
    (str "staged_analysis", .dict [
      (str "migration_head", .str (str "0030_campaign_scoped_analysis_claims.sql")),
      (str "window_batches", .int CANARY_SLOTS),
      (str "compute_workers", .int 8),
      (str "projection_workers", .int 4)]),
    (str "result_semantics", .str (str "candidate_only_no_detection_count"))]

/-- `digest` -/
def digest (d : SupercycleCanaryDefinition) : Except PyError Digest := canonicalDigest d.document

end SupercycleCanaryDefinition

/-- `canary_cell` -/
def canary_cell (slot_index : Nat) : Except PyError CampaignCell :=
  match CAMPAIGN_CELLS[slot_index % CAMPAIGN_CELLS.length]? with
  | some cell =>
    if slot_index < CANARY_SLOTS then .ok cell
    else .error (.value "canary slot is outside the reviewed supercycle")
  | none => .error (.value "canary slot is outside the reviewed supercycle")

/-- `build_canary_unit` -/
def build_canary_unit (d : SupercycleCanaryDefinition) (slot_index : Nat) :
    Except PyError CampaignUnit := do
  let cell ← canary_cell slot_index
  let requested := d.val.start_utc_ns +
    slot_index * CANARY_SLOT_PERIOD_NUMERATOR_NS / CANARY_SLOT_PERIOD_DENOMINATOR
  let stem := d.val.canary_id ++ str "_u" ++ zeroPad 3 slot_index ++ str "_s" ++
    zeroPad 3 slot_index ++ str "_r00"
  buildUnit stem slot_index slot_index 0 cell d.val.radio_a_id d.val.radio_b_id
    CANARY_MAXIMUM_SKEW_NS requested

/-! ## States -/

inductive CanaryPhase where
  | capturing
  | analyzing
  | complete
  | halted
deriving DecidableEq

inductive CanaryHaltReason where
  | missed_slot
  | capture_uncertain
  | integrity_failure
  | analysis_failure
deriving DecidableEq

inductive CanaryRecordPhase where
  | planned
  | capture_invoked
  | captured
  | complete
deriving DecidableEq

structure CanaryRecord.Fields where
  unit : CampaignUnit
  phase : CanaryRecordPhase
  snapshot : Option CaptureBatchSnapshot
  analysis_receipt : Option CampaignAnalysisReceipt
deriving DecidableEq

def CanaryRecord.Fields.post_init (r : CanaryRecord.Fields) : Except PyError Unit :=
  checkAll [
    raiseIf (r.unit.retry_index ≠ 0 ∨ r.unit.success_index ≠ r.unit.slot_index)
      (.value "canary record identity permits no replay"),
    if r.phase = .planned ∨ r.phase = .capture_invoked then
      raiseIf (r.snapshot ≠ none ∨ r.analysis_receipt ≠ none)
        (.value "planned canary record carries terminal evidence")
    else raiseIf (r.snapshot = none) (.value "terminal canary record requires its snapshot"),
    raiseIf (¬(r.phase = .complete ↔ r.analysis_receipt ≠ none))
      (.value "canary analysis receipt differs from record phase")]

/-- `CanaryRecord` -/
abbrev CanaryRecord := Checked CanaryRecord.Fields.post_init

structure CanaryState.Fields where
  definition_digest : Digest
  phase : CanaryPhase
  records : List CanaryRecord
  halt_reason : Option CanaryHaltReason
  revision : Nat
deriving DecidableEq

namespace CanaryState.Fields

def captured_count (s : Fields) : Nat := s.records.countP fun r => r.val.snapshot ≠ none

def analyzed_count (s : Fields) : Nat := s.records.countP fun r => r.val.phase = .complete

/-- `phase in {PLANNED, CAPTURE_INVOKED}` -/
def Nonterminal (r : CanaryRecord) : Prop := r.val.phase = .planned ∨ r.val.phase = .capture_invoked

instance : DecidablePred Nonterminal := fun r =>
  inferInstanceAs (Decidable (r.val.phase = .planned ∨ r.val.phase = .capture_invoked))

def post_init (s : Fields) : Except PyError Unit :=
  checkAll [
    raiseIf (CANARY_SLOTS < s.records.length) (.value "canary state bounds differ"),
    raiseIf (¬(s.phase = .halted ↔ s.halt_reason ≠ none))
      (.value "canary halt evidence differs from phase"),
    raiseIf (s.records.map (·.val.unit.slot_index) ≠ List.range s.records.length)
      (.value "canary record schedule is not canonical"),
    raiseIf (∃ r ∈ s.records.dropLast, Nonterminal r)
      (.value "only the last canary record may remain nonterminal"),
    raiseIf ((s.phase = .analyzing ∨ s.phase = .complete) ∧ ∃ r ∈ s.records, Nonterminal r)
      (.value "closed canary retains a planned capture"),
    raiseIf (s.phase = .complete ∧ s.analyzed_count ≠ CANARY_SLOTS)
      (.value "complete canary lacks 36 analysis receipts")]

end CanaryState.Fields

/-- `CanaryState` -/
abbrev CanaryState := Checked CanaryState.Fields.post_init

namespace CanaryState

/-- `CanaryState(digest)` -/
def initial (digest : Digest) : CanaryState := ⟨⟨digest, .capturing, [], none, 0⟩, rfl⟩

/-- `SQLiteCanaryJournal` -/
def row : DigestBound CanaryState where
  definition_digest s := s.val.definition_digest
  revision s := s.val.revision
  invalid := "canary journal replacement is invalid"
  changed := "canary journal revision changed"

/-- `captured_count` -/
def captured_count (s : CanaryState) : Nat := s.val.captured_count

/-- `analyzed_count` -/
def analyzed_count (s : CanaryState) : Nat := s.val.analyzed_count

theorem slots (s : CanaryState) :
    s.val.records.map (·.val.unit.slot_index) = List.range s.val.records.length := by
  have h := s.ok
  simp only [Fields.post_init, checkAll_cons, raiseIf_ok, not_not, ne_eq] at h
  exact h.2.2.1

end CanaryState

/-! ## The coordinator -/

inductive CanaryStatus where
  | not_due
  | captured
  | capture_phase_closed
  | analyzed
  | complete
  | capacity_blocked
  | halted
deriving DecidableEq

structure CanaryResult where
  status : CanaryStatus
  state : CanaryState
  unit : Option CampaignUnit

abbrev CanaryProg := Prog CanaryState CampaignQuery CampaignQuery.Answer PyError

/-- `SupercycleCanaryCoordinator`, with what its constructor checked. -/
structure SupercycleCanaryCoordinator where
  definition : SupercycleCanaryDefinition
  digest : Digest
  capacity_margin_bytes : Int
  digest_ok : definition.digest = .ok digest
  margin_nonneg : 0 ≤ capacity_margin_bytes

/-- What an operator can ask a coordinator for. -/
inductive CanaryCall where
  | capture_next (now_utc_ns : Int)
  | reconcile_next (deadline_utc_ns : Int)
  | halt_analysis

namespace SupercycleCanaryCoordinator

variable (c : SupercycleCanaryCoordinator)

/-- `_store`; both `replace` calls check what they build. -/
def store (replacement : CanaryState.Fields) (current : CanaryState) : CanaryProg CanaryState := do
  let replacement ← .ofExcept (Checked.make CanaryState.Fields.post_init replacement)
  let replacement ← .ofExcept (Checked.make CanaryState.Fields.post_init
    { replacement.val with revision := current.val.revision + 1 })
  .replace current.val.revision replacement

/-- `_replace_last` -/
def replace_last (state : CanaryState) (record : CanaryRecord) : CanaryProg CanaryState :=
  match state.val.records.getLast? with
  | none => .raise ⟨.runtime_error, "canary transition targets another unit"⟩
  | some last =>
    if last.val.unit ≠ record.val.unit then
      .raise ⟨.runtime_error, "canary transition targets another unit"⟩
    else store { state.val with records := state.val.records.dropLast ++ [record] } state

/-- `_halt` -/
def halt (state : CanaryState) (reason : CanaryHaltReason) (unit : CampaignUnit) :
    CanaryProg CanaryResult := do
  let halted ← store { state.val with phase := .halted, halt_reason := some reason } state
  return ⟨.halted, halted, some unit⟩

/-- `_slot_deadline` -/
def slot_deadline (slot_index : Nat) : Int :=
  c.definition.val.start_utc_ns +
    (slot_index + 1) * CANARY_SLOT_PERIOD_NUMERATOR_NS / CANARY_SLOT_PERIOD_DENOMINATOR

/-- `required_remaining_capacity` -/
def required_remaining_capacity (state : CanaryState) : Except PyError Int := do
  let cells ← (List.range' state.captured_count (CANARY_SLOTS - state.captured_count)).mapM canary_cell
  let remaining_raw : Int := (cells.map fun cell => (cell.sample_count * 128 : Int)).sum
  return remaining_raw * 2 + c.capacity_margin_bytes

/-- Not the evidence of a captured slot. -/
def IntegrityFailure (unit : CampaignUnit) (snapshot : CaptureBatchSnapshot) (deadline : Int) : Prop :=
  ¬snapshot.terminal ∨ snapshot.val.definition ≠ unit.batch ∨
    snapshot.paired_analysis_eligibility ≠ .eligible ∨
    ∃ o ∈ snapshot.val.outcomes, o.val.state ≠ .succeeded ∨ deadline < o.val.terminal_utc_ns

instance (unit : CampaignUnit) (snapshot : CaptureBatchSnapshot) (deadline : Int) :
    Decidable (IntegrityFailure unit snapshot deadline) :=
  inferInstanceAs (Decidable (_ ∨ _ ∨ _ ∨ _))

/-- The part of `capture_next` after its record is planned. -/
def capture_planned (state : CanaryState) (record : CanaryRecord) (now_utc_ns : Int) :
    CanaryProg CanaryResult := do
  let unit := record.val.unit
  if now_utc_ns < unit.requested_start_utc_ns - CANARY_PREFLIGHT_LEAD_NS then
    return ⟨.not_due, state, some unit⟩
  else if unit.requested_start_utc_ns + c.definition.val.maximum_start_lateness_ns < now_utc_ns then
    halt state .missed_slot unit
  else
    let answer ← .ask .available_bytes
    let available ← .ofExcept answer
    let required ← .ofExcept (c.required_remaining_capacity state)
    if available < required then
      return ⟨.capacity_blocked, state, some unit⟩
    else
      let record ← .ofExcept (Checked.make CanaryRecord.Fields.post_init
        { record.val with phase := .capture_invoked })
      let state ← replace_last state record
      let answer : Except PyError CaptureBatchSnapshot ← .ask (CampaignQuery.capture unit
        unit.requested_start_utc_ns (c.slot_deadline unit.slot_index))
      match answer with
      | .error e => if e.kind.IsException then halt state .capture_uncertain unit else .raise e
      | .ok snapshot =>
        if IntegrityFailure unit snapshot (c.slot_deadline unit.slot_index) then
          halt state .integrity_failure unit
        else
          let replacement ← .ofExcept (Checked.make CanaryRecord.Fields.post_init
            { record.val with phase := .captured, snapshot := some snapshot })
          let state ← replace_last state replacement
          return ⟨.captured, state, some unit⟩

/-- `capture_next` -/
def capture_next (now_utc_ns : Int) : CanaryProg CanaryResult := do
  let state ← .read
  if state.val.phase = .halted then
    return ⟨.halted, state, none⟩
  else if state.val.phase ≠ .capturing then
    return ⟨.capture_phase_closed, state, none⟩
  else if state.captured_count = CANARY_SLOTS then
    let closed ← store { state.val with phase := .analyzing } state
    return ⟨.capture_phase_closed, closed, none⟩
  else
    match state.val.records.getLast? with
    | some ⟨⟨unit, .capture_invoked, _, _⟩, _⟩ => halt state .capture_uncertain unit
    | some ⟨⟨unit, .planned, snapshot, receipt⟩, ok⟩ =>
      c.capture_planned state ⟨⟨unit, .planned, snapshot, receipt⟩, ok⟩ now_utc_ns
    | _ =>
      let unit ← .ofExcept (build_canary_unit c.definition state.captured_count)
      let record ← .ofExcept (Checked.make CanaryRecord.Fields.post_init ⟨unit, .planned, none, none⟩)
      let state ← store { state.val with records := state.val.records ++ [record] } state
      c.capture_planned state record now_utc_ns

/-- The checks of `reconcile_next` on a receipt. -/
def validate_receipt (snapshot : CaptureBatchSnapshot) (deadline_utc_ns : Int)
    (receipt : CampaignAnalysisReceipt) : Except PyError Unit :=
  let expected := snapshot.val.recording_ids.insertionSort fun a b => a.value ≤ b.value
  checkAll [
    raiseIf (receipt.val.batch_id ≠ snapshot.batch_id)
      ⟨.runtime_error, "canary analysis receipt identifies another batch"⟩,
    raiseIf (receipt.recording_ids ≠ expected ∨ deadline_utc_ns < receipt.val.completed_utc_ns)
      ⟨.runtime_error, "canary analysis receipt closure differs"⟩]

/-- The first captured record and its index. -/
def first_captured (state : CanaryState) : Option (CanaryRecord × Nat) :=
  state.val.records.zipIdx.find? fun x => x.1.val.phase = .captured

/-- `reconcile_next` -/
def reconcile_next (deadline_utc_ns : Int) : CanaryProg CanaryResult := do
  let state ← .read
  if state.val.phase = .halted then
    return ⟨.halted, state, none⟩
  else if state.val.phase = .capturing then
    return ⟨.capture_phase_closed, state, none⟩
  else if CANARY_SLOTS ≤ state.analyzed_count then
    let completed ← store { state.val with phase := .complete } state
    return ⟨.complete, completed, none⟩
  else
    match first_captured state with
    | none => .raise ⟨.stop_iteration, ""⟩
    | some (record, index) =>
      match record.val.snapshot with
      | none => .raise ⟨.assertion_error, ""⟩
      | some snapshot =>
        let answer ← .ask (.analyze snapshot deadline_utc_ns)
        match checked answer (validate_receipt snapshot deadline_utc_ns) with
        | .error e =>
          if e.kind.IsException then halt state .analysis_failure record.val.unit else .raise e
        | .ok receipt =>
          let replacement ← .ofExcept (Checked.make CanaryRecord.Fields.post_init
            { record.val with phase := .complete, analysis_receipt := some receipt })
          let state ← store { state.val with records := state.val.records.set index replacement } state
          return ⟨.analyzed, state, some record.val.unit⟩

/-- `halt_analysis` -/
def halt_analysis : CanaryProg CanaryResult := do
  let state ← .read
  if state.val.phase = .halted then
    return ⟨.halted, state, none⟩
  else if state.val.phase ≠ .analyzing then
    .raise ⟨.runtime_error, "canary analysis phase is not open"⟩
  else
    match first_captured state with
    | none => .raise ⟨.stop_iteration, ""⟩
    | some (record, _) => halt state .analysis_failure record.val.unit

/-- What a call does. -/
def program : CanaryCall → CanaryProg CanaryResult
  | .capture_next now_utc_ns => c.capture_next now_utc_ns
  | .reconcile_next deadline_utc_ns => reconcile_next deadline_utc_ns
  | .halt_analysis => halt_analysis

/-! ## The discipline of a call -/

/-- The capture of a slot was announced. -/
def Invoked (records : List CanaryRecord) (slot : Nat) : Prop :=
  ∃ r ∈ records, r.val.unit.slot_index = slot ∧ r.val.phase ≠ .planned

instance (records : List CanaryRecord) (slot : Nat) : Decidable (Invoked records slot) :=
  inferInstanceAs (Decidable (∃ r ∈ records, r.val.unit.slot_index = slot ∧ r.val.phase ≠ .planned))

/-- Announced slots stay announced, and a slot is announced by its record being stored last, as
`CAPTURE_INVOKED`. -/
structure Moves (records records' : List CanaryRecord) : Prop where
  keeps : ∀ slot, Invoked records slot → Invoked records' slot
  announces : ∀ slot, ¬Invoked records slot → Invoked records' slot →
    ∃ r, records'.getLast? = some r ∧ r.val.unit.slot_index = slot ∧ r.val.phase = .capture_invoked

/-- The slot a capture call is for. -/
def slot : CampaignQuery → Option Nat
  | .capture unit _ _ => some unit.slot_index
  | _ => none

/-- A slot is announced before it is captured, and announced once. -/
def discipline : Discipline CanaryState CampaignQuery Nat PyError where
  Inv _ := True
  Move s t := Moves s.val.records t.val.records
  count s slot := if Invoked s.val.records slot then 1 else 0
  asks := slot
  Allowed _ _ := True
  MayRaise _ := True
  count_le := by
    intro s t slot h
    split
    · rename_i hs
      rw [if_pos (h.keeps slot hs)]
    · exact Nat.zero_le _

@[reducible] def Follows {α : Type} (Q : α → Option CanaryState → Option Nat → Prop)
    (view : Option CanaryState) (credit : Option Nat) (x : CanaryProg α) : Prop :=
  x.Follows (CanaryState.row.cas c.digest) discipline Q view credit

theorem Moves.of_iff {records records' : List CanaryRecord}
    (h : ∀ slot, Invoked records slot ↔ Invoked records' slot) : Moves records records' :=
  ⟨fun slot => (h slot).1, fun slot hnot hnew => absurd ((h slot).2 hnew) hnot⟩

theorem Moves.refl (records : List CanaryRecord) : Moves records records := .of_iff fun _ => Iff.rfl

variable {before after : List CanaryRecord}

theorem invoked_append {slot : Nat} :
    Invoked (before ++ after) slot ↔ Invoked before slot ∨ Invoked after slot := by
  simp only [Invoked, List.mem_append, or_and_right, exists_or]

variable {r : CanaryRecord}

theorem invoked_cons {slot : Nat} :
    Invoked (r :: after) slot ↔
      (r.val.unit.slot_index = slot ∧ r.val.phase ≠ .planned) ∨ Invoked after slot := by
  simp only [Invoked, List.mem_cons, exists_eq_or_imp]

theorem not_invoked_nil {slot : Nat} : ¬Invoked [] slot := by
  rintro ⟨r, hr, _⟩
  exact absurd hr List.not_mem_nil

variable {r' : CanaryRecord}

/-- Replacing a record by one of its unit that is announced alike. -/
theorem Moves.replace (hunit : r'.val.unit = r.val.unit) (hphase : r.val.phase ≠ .planned ↔ r'.val.phase ≠ .planned) :
    Moves (before ++ r :: after) (before ++ r' :: after) := by
  apply Moves.of_iff
  intro slot
  rw [invoked_append, invoked_append, invoked_cons, invoked_cons, hunit, hphase]

theorem Moves.append_planned (records : List CanaryRecord) (hphase : r.val.phase = .planned) : Moves records (records ++ [r]) := by
  apply Moves.of_iff
  intro slot
  rw [invoked_append, invoked_cons, hphase]
  simp [not_invoked_nil]

theorem Moves.announce (hphase : r.val.phase = .planned) (hphase' : r'.val.phase = .capture_invoked) :
    Moves (before ++ [r]) (before ++ [r']) := by
  constructor
  · intro slot
    rw [invoked_append, invoked_append, invoked_cons]
    rintro (h | ⟨_, h⟩ | h)
    · exact Or.inl h
    · exact absurd hphase h
    · exact absurd h not_invoked_nil
  · intro slot hnot hnew
    rcases invoked_append.1 hnew with h | h
    · exact absurd (invoked_append.2 (Or.inl h)) hnot
    · rcases invoked_cons.1 h with h | h
      · exact ⟨r', List.getLast?_concat, h.1, hphase'⟩
      · exact absurd h not_invoked_nil

/-- A planned last record's slot is not announced. -/
theorem not_invoked_planned {s : CanaryState} (hrecords : s.val.records = before ++ [r])
    (hphase : r.val.phase = .planned) :
    ¬Invoked s.val.records r.val.unit.slot_index := by
  have hslots : (s.val.records.map (·.val.unit.slot_index)).Nodup := s.slots ▸ List.nodup_range
  rw [hrecords, List.map_append, List.nodup_append] at hslots
  rw [hrecords, invoked_append, invoked_cons]
  rintro (⟨r', hr', hslot, _⟩ | ⟨_, h⟩ | h)
  · exact hslots.2.2 _ (List.mem_map.2 ⟨r', hr', rfl⟩) _ List.mem_cons_self hslot
  · exact h hphase
  · exact not_invoked_nil h

theorem moves_set {records : List CanaryRecord} {index : Nat} (hget : records[index]? = some r)
    (hunit : r'.val.unit = r.val.unit) (hphase : r.val.phase ≠ .planned ↔ r'.val.phase ≠ .planned) :
    Moves records (records.set index r') := by
  obtain ⟨hlt, hget⟩ := List.getElem?_eq_some_iff.1 hget
  have hsplit : records = records.take index ++ r :: records.drop (index + 1) := by
    rw [← hget, List.getElem_cons_drop, List.take_append_drop]
  have hset : records.set index r' = records.take index ++ r' :: records.drop (index + 1) :=
    List.set_eq_take_append_cons_drop.trans (if_pos hlt)
  have hmoves : Moves (records.take index ++ r :: records.drop (index + 1))
      (records.take index ++ r' :: records.drop (index + 1)) := Moves.replace hunit hphase
  rw [← hsplit, ← hset] at hmoves
  exact hmoves

section Calls

variable {c : SupercycleCanaryCoordinator} {state : CanaryState} {credit : Option Nat}

theorem follows_return {α : Type} {a : α} {view : Option CanaryState} :
    c.Follows (fun _ _ _ => True) view credit (pure a) := trivial

/-- A computation that may raise. -/
theorem follows_lift {α : Type} {x : Except PyError α} :
    c.Follows (fun a view credit' => x = .ok a ∧ view = some state ∧ credit' = credit) (some state) credit
      (.ofExcept x) :=
  Prog.follows_ofExcept (fun _ ha => ⟨ha, rfl, rfl⟩) fun _ _ => trivial

theorem follows_store {replacement : CanaryState.Fields}
    (hmoves : Moves state.val.records replacement.records) (earned : Option Nat)
    (hearned : ∀ slot, earned = some slot →
      ¬Invoked state.val.records slot ∧ Invoked replacement.records slot) :
    c.Follows (fun s view credit => s.val.records = replacement.records ∧ view = some s ∧ credit = earned)
      (some state) credit (store replacement state) := by
  unfold store
  refine Prog.follows_bind follows_lift ?_
  rintro first view credit ⟨hfirst, rfl, rfl⟩
  refine Prog.follows_bind follows_lift ?_
  rintro second view credit ⟨hsecond, rfl, rfl⟩
  have hval := Checked.val_of_make hsecond
  rw [Checked.val_of_make hfirst] at hval
  have hrecords : second.val.records = replacement.records := by rw [hval]
  have hrev : (CanaryState.row.cas c.digest).revision state < (CanaryState.row.cas c.digest).revision second := by
    show state.val.revision < second.val.revision
    rw [hval]
    exact Nat.lt_succ_self _
  refine Prog.follows_replace (D := discipline) trivial hrev ?_ earned ?_ ⟨hrecords, rfl, rfl⟩
  · show Moves _ second.val.records
    rw [hrecords]
    exact hmoves
  · intro slot hslot
    obtain ⟨hold, hnew⟩ := hearned slot hslot
    show (if Invoked state.val.records slot then 1 else 0) < if Invoked second.val.records slot then 1 else 0
    rw [if_neg hold, hrecords, if_pos hnew]
    exact Nat.zero_lt_one

/-- A replacement that announces nothing. -/
theorem follows_store_quiet {replacement : CanaryState.Fields}
    (hmoves : Moves state.val.records replacement.records) :
    c.Follows (fun s view _ => s.val.records = replacement.records ∧ view = some s) (some state) credit
      (store replacement state) := by
  refine (follows_store hmoves none ?_).mono ?_
  · intro slot hslot
    cases hslot
  · rintro s view credit ⟨hrecords, hview, _⟩
    exact ⟨hrecords, hview⟩

theorem follows_halt (reason : CanaryHaltReason) (unit : CampaignUnit) :
    c.Follows (fun _ _ _ => True) (some state) credit (halt state reason unit) :=
  Prog.follows_bind (follows_store_quiet (Moves.refl _)) fun _ _ _ _ => follows_return

theorem replace_last_eq (hrecords : state.val.records = before ++ [r]) (hunit : r'.val.unit = r.val.unit) :
    replace_last state r' = store { state.val with records := before ++ [r'] } state := by
  unfold replace_last
  rw [hrecords, List.getLast?_concat]
  simp only [hunit, ne_eq, not_true_eq_false, if_false, List.dropLast_concat]

/-- The slot is announced before it is captured. -/
theorem follows_capture_planned (hrecords : state.val.records = before ++ [r]) (hphase : r.val.phase = .planned)
    (now : Int) :
    c.Follows (fun _ _ _ => True) (some state) credit (c.capture_planned state r now) := by
  unfold capture_planned
  dsimp only
  split
  · exact follows_return
  split
  · exact follows_halt _ _
  refine Prog.follows_bind (Q := fun _ view _ => view = some state) ?_ ?_
  · exact Prog.follows_ask (D := discipline) trivial rfl fun _ => rfl
  rintro answer view credit rfl
  refine Prog.follows_bind follows_lift ?_
  rintro available view credit ⟨_, rfl, rfl⟩
  refine Prog.follows_bind follows_lift ?_
  rintro required view credit ⟨_, rfl, rfl⟩
  split
  · exact follows_return
  refine Prog.follows_bind follows_lift ?_
  rintro invoked view credit ⟨hinvoked, rfl, rfl⟩
  have hval := Checked.val_of_make hinvoked
  have hunit : invoked.val.unit = r.val.unit := by rw [hval]
  have hphase' : invoked.val.phase = .capture_invoked := by rw [hval]
  rw [replace_last_eq hrecords hunit]
  refine Prog.follows_bind (follows_store ?_ (some r.val.unit.slot_index) ?_) ?_
  · rw [hrecords]
    exact Moves.announce hphase hphase'
  · intro slot hslot
    cases hslot
    refine ⟨not_invoked_planned hrecords hphase, invoked_append.2 (Or.inr (invoked_cons.2 (Or.inl ?_)))⟩
    exact ⟨by rw [hunit], by rw [hphase']; decide⟩
  rintro announced view credit ⟨hannounced, rfl, rfl⟩
  refine Prog.follows_bind (Q := fun _ view _ => view = some announced) ?_ ?_
  · exact Prog.follows_ask_counted (D := discipline) trivial rfl fun _ => rfl
  rintro answer view credit rfl
  split
  · split
    · exact follows_halt _ _
    · trivial
  · split
    · exact follows_halt _ _
    refine Prog.follows_bind follows_lift ?_
    rintro captured view credit ⟨hcaptured, rfl, rfl⟩
    have hval' := Checked.val_of_make hcaptured
    have hunit' : captured.val.unit = invoked.val.unit := by rw [hval']
    rw [replace_last_eq hannounced hunit']
    refine Prog.follows_bind (follows_store_quiet ?_) fun _ _ _ _ => follows_return
    rw [hannounced]
    refine Moves.replace hunit' ?_
    rw [hphase', hval']
    exact iff_of_true nofun nofun

/-- A call reads first. -/
theorem follows_read {α : Type} {f : CanaryState → CanaryProg α}
    (h : ∀ s, c.Follows (fun _ _ _ => True) (some s) none (f s)) :
    c.Follows (fun _ _ _ => True) none none (.read >>= f) := by
  refine Prog.follows_bind (Q := fun s view credit => view = some s ∧ credit = none) ?_ ?_
  · exact Prog.follows_read (D := discipline) fun s _ => ⟨rfl, rfl⟩
  · rintro s view credit ⟨rfl, rfl⟩
    exact h s

theorem follows_capture_next (now : Int) :
    c.Follows (fun _ _ _ => True) none none (c.capture_next now) := by
  unfold capture_next
  apply follows_read
  intro s
  split
  · exact follows_return
  split
  · exact follows_return
  split
  · exact Prog.follows_bind (follows_store_quiet (Moves.refl _)) fun _ _ _ _ => follows_return
  split
  · exact follows_halt _ _
  · rename_i hlast
    exact follows_capture_planned (List.dropLast_append_getLast? _ hlast).symm rfl now
  · refine Prog.follows_bind follows_lift ?_
    rintro unit view credit ⟨_, rfl, rfl⟩
    refine Prog.follows_bind follows_lift ?_
    rintro record view credit ⟨hrecord, rfl, rfl⟩
    have hphase : record.val.phase = .planned := by rw [Checked.val_of_make hrecord]
    refine Prog.follows_bind (follows_store_quiet (Moves.append_planned _ hphase)) ?_
    rintro planned view credit ⟨hrecords, rfl⟩
    exact follows_capture_planned hrecords hphase now

theorem first_captured_ok {index : Nat} (h : first_captured state = some (r, index)) :
    state.val.records[index]? = some r ∧ r.val.phase = .captured := by
  have hmem := List.mem_of_find?_eq_some h
  have hphase := List.find?_some h
  exact ⟨List.mem_zipIdx_iff_getElem?.1 hmem, by simpa using hphase⟩

theorem follows_reconcile_next (deadline : Int) :
    c.Follows (fun _ _ _ => True) none none (reconcile_next deadline) := by
  unfold reconcile_next
  apply follows_read
  intro s
  split
  · exact follows_return
  split
  · exact follows_return
  split
  · exact Prog.follows_bind (follows_store_quiet (Moves.refl _)) fun _ _ _ _ => follows_return
  split
  · trivial
  rename_i r index hfirst
  obtain ⟨hget, hphase⟩ := first_captured_ok hfirst
  split
  · trivial
  refine Prog.follows_bind (Q := fun _ view _ => view = some s) ?_ ?_
  · exact Prog.follows_ask (D := discipline) trivial rfl fun _ => rfl
  rintro answer view credit rfl
  split
  · split
    · exact follows_halt _ _
    · trivial
  refine Prog.follows_bind follows_lift ?_
  rintro complete view credit ⟨hcomplete, rfl, rfl⟩
  have hval := Checked.val_of_make hcomplete
  refine Prog.follows_bind (follows_store_quiet (moves_set hget ?_ ?_)) fun _ _ _ _ => follows_return
  · rw [hval]
  · rw [hphase, hval]
    exact iff_of_true nofun nofun

theorem follows_halt_analysis : c.Follows (fun _ _ _ => True) none none halt_analysis := by
  unfold halt_analysis
  apply follows_read
  intro s
  split
  · exact follows_return
  split
  · trivial
  split
  · trivial
  · exact follows_halt _ _

theorem follows_program (call : CanaryCall) :
    c.Follows (fun _ _ _ => True) none none (c.program call) := by
  cases call with
  | capture_next now => exact follows_capture_next now
  | reconcile_next deadline => exact follows_reconcile_next deadline
  | halt_analysis => exact follows_halt_analysis

end Calls

/-! ## Every run -/

section Runs

variable {P : Type} [DecidableEq P] (c : SupercycleCanaryCoordinator)

/-- Any number of coordinators of one canary, started, stopped and restarted at any point. -/
def system : Machine (Journal.State P CanaryState CampaignQuery CampaignQuery.Answer PyError CanaryResult)
    (Journal.Label P CanaryCall CampaignQuery CampaignQuery.Answer) :=
  Journal.machine (CanaryState.row.cas c.digest) (.initial c.digest) c.program

/-- The canary before its first call. -/
def start : Journal.State P CanaryState CampaignQuery CampaignQuery.Answer PyError CanaryResult :=
  .start (.initial c.digest)

omit [DecidableEq P] in
/-- The journal write that a capture rests on. -/
theorem announced_of_credit {h : History P CanaryState CampaignQuery} {p : P} {slot : Nat}
    (hvalid : History.Valid discipline (.initial c.digest) h) (hcredit : History.Credit discipline p slot h) :
    ∃ newer old new older r, h = newer ++ .wrote p old new :: older ∧
      new.val.records.getLast? = some r ∧ r.val.unit.slot_index = slot ∧
      r.val.phase = .capture_invoked := by
  obtain ⟨newer, old, new, older, rfl, hcount, _⟩ := hcredit
  obtain ⟨_, _, hmoves, _⟩ := History.Valid.suffix hvalid
  have hold : ¬Invoked old.val.records slot := by
    intro h
    have hlt : (if Invoked old.val.records slot then 1 else 0) < if Invoked new.val.records slot then 1 else 0 :=
      hcount
    rw [if_pos h] at hlt
    split at hlt <;> omega
  have hnew : Invoked new.val.records slot := by
    by_contra h
    have hlt : (if Invoked old.val.records slot then 1 else 0) < if Invoked new.val.records slot then 1 else 0 :=
      hcount
    rw [if_neg h] at hlt
    omega
  obtain ⟨r, hlast, hslot, hphase⟩ := hmoves.announces slot hold hnew
  exact ⟨newer, old, new, older, r, rfl, hlast, hslot, hphase⟩

/-- In every run, a slot is captured at most once, by a coordinator that stored its
`CAPTURE_INVOKED` before; one that finds the slot announced never captures it. -/
theorem captures_once (as : List (Journal.Label P CanaryCall CampaignQuery CampaignQuery.Answer)) :
    c.system.AllStates (fun st =>
      (∀ slot, History.calls discipline slot st.history ≤ 1) ∧
      (∀ newer p u not_before deadline s older,
        st.history = newer ++ .called p (.capture u not_before deadline) s :: older →
          ∃ newer' old new older' r, older = newer' ++ .wrote p old new :: older' ∧
            new.val.records.getLast? = some r ∧ r.val.unit.slot_index = u.slot_index ∧
            r.val.phase = .capture_invoked) ∧
      ∀ newer p s older slot, st.history = newer ++ .loaded p s :: older →
        Invoked s.val.records slot → ∀ u not_before deadline t,
          .called p (.capture u not_before deadline) t ∈ newer → u.slot_index ≠ slot) c.start as := by
  have hbound : ∀ (s : CanaryState) (slot : Nat), discipline.count s slot ≤ 1 := by
    intro s slot
    show (if Invoked s.val.records slot then 1 else 0) ≤ 1
    split <;> omega
  refine Journal.allStates_of_follows (D := discipline) trivial follows_program
    (fun _ _ _ _ _ => trivial) ?_ as
  intro st hst
  refine ⟨?_, ?_, ?_⟩
  · intro slot
    exact Nat.le_trans (History.calls_le_count hst.valid slot) (hbound _ _)
  · intro newer p u not_before deadline s older heq
    have hvalid := heq ▸ hst.valid
    have hcredit := History.credit_of_called hvalid (show discipline.asks _ = some u.slot_index from rfl)
    exact c.announced_of_credit (History.Valid.suffix hvalid).2.2 hcredit
  · intro newer p s older slot heq hfound u not_before deadline t hmem
    have hcount : 1 ≤ discipline.count s slot := by
      show 1 ≤ if Invoked s.val.records slot then 1 else 0
      rw [if_pos hfound]
    have hvalid := heq ▸ hst.valid
    intro hu
    refine History.not_called_of_found hvalid (fun t _ => hbound t slot) hcount hmem ?_
    exact congrArg some hu

end Runs

end SupercycleCanaryCoordinator

end LeoFlow
