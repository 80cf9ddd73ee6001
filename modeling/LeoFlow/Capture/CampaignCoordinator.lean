import LeoFlow.Capture.CampaignPorts

/-!
# LeoFlow.Capture.CampaignCoordinator — one capture and its analysis at a time

`CampaignCoordinator.run_next` over the journal of `adapters/campaign_sqlite.py`.
-/

namespace LeoFlow

/-! ## The journal -/

namespace CampaignJournalState

/-- `SQLiteCampaignJournal.initialize` of a campaign without a row. -/
def initial (digest : Digest) : CampaignJournalState := ⟨digest, [], 0⟩

/-- `SQLiteCampaignJournal` -/
def row : DigestBound CampaignJournalState where
  definition_digest := definition_digest
  revision := revision
  invalid := "campaign journal replacement is invalid"
  changed := "campaign journal revision or definition changed"

end CampaignJournalState

/-! ## The coordinator -/

abbrev CampaignProg := Prog CampaignJournalState CampaignQuery CampaignQuery.Answer PyError

inductive CampaignRunStatus where
  | unit_complete
  | not_due
  | campaign_complete
  | window_ended
  | missed_slot
  | capacity_blocked
  | capture_uncertain
  | capture_failed
  | analysis_failed
deriving DecidableEq

structure CampaignRunResult where
  status : CampaignRunStatus
  state : CampaignJournalState
  unit : Option CampaignUnit

/-- `CampaignCoordinator`, with what its constructor checked. `qualification_receipt` is the
digest of the receipt. -/
structure CampaignCoordinator where
  definition : CampaignDefinition
  digest : Digest
  capacity_margin_bytes : Int
  qualification_receipt : Option Digest
  digest_ok : definition.digest = .ok digest
  per_capture : definition.val.analysis_after_each_capture = true
  margin_nonneg : 0 ≤ capacity_margin_bytes
  receipt_ok : qualification_receipt = definition.val.qualification_receipt_digest

/-- `_validate_snapshot` -/
def validateSnapshot (unit : CampaignUnit) (snapshot : CaptureBatchSnapshot) : Except PyError Unit :=
  raiseIf (¬snapshot.terminal ∨ snapshot.val.definition ≠ unit.batch)
    ⟨.runtime_error, "capture returned another or incomplete batch"⟩

variable {records : List CampaignUnitRecord}

namespace CampaignCoordinator

variable (c : CampaignCoordinator)

/-- `_store` -/
def store (replacement current : CampaignJournalState) : CampaignProg CampaignJournalState :=
  .replace current.revision { replacement with revision := current.revision + 1 }

/-- `_replace_last` -/
def replace_last (state : CampaignJournalState) (replacement : CampaignUnitRecord) :
    CampaignProg CampaignJournalState :=
  match state.records.getLast? with
  | none => .raise ⟨.runtime_error, "campaign journal transition targets another unit"⟩
  | some last =>
    if last.unit ≠ replacement.unit then
      .raise ⟨.runtime_error, "campaign journal transition targets another unit"⟩
    else store { state with records := state.records.dropLast ++ [replacement] } state

/-- `_slot_deadline` -/
def slot_deadline (unit : CampaignUnit) : Int :=
  if c.definition.val.qualification then
    unit.requested_start_utc_ns +
      c.definition.slot_period_numerator_ns / c.definition.slot_period_denominator
  else
    c.definition.val.start_utc_ns +
      ((unit.slot_index + 1) * c.definition.slot_period_numerator_ns) /
        c.definition.slot_period_denominator

/-- `_next_requested_start` -/
def next_requested_start (slot_index : Nat) : Int :=
  c.definition.val.start_utc_ns +
    slot_index * c.definition.slot_period_numerator_ns / c.definition.slot_period_denominator

/-- `_has_capacity` -/
def has_capacity (state : CampaignJournalState) : CampaignProg Bool := do
  let answer ← .ask .available_bytes
  let available ← .ofExcept answer
  if available < 0 then
    .raise ⟨.runtime_error, "campaign capacity evidence is invalid"⟩
  else
    return required_remaining_capacity_bytes c.definition state c.capacity_margin_bytes ≤ available

/-- `_run_analysis` -/
def run_analysis (state : CampaignJournalState) (record : CampaignUnitRecord) (now_utc_ns : Int) :
    CampaignProg CampaignRunResult := do
  match record.snapshot with
  | none => .raise ⟨.runtime_error, "captured campaign unit has no terminal snapshot"⟩
  | some snapshot =>
    if c.definition.val.maximum_analysis_invocations ≤ record.analysis_invocations then
      return ⟨.analysis_failed, state, some record.unit⟩
    else if c.slot_deadline record.unit ≤ now_utc_ns then
      return ⟨.analysis_failed, state, some record.unit⟩
    else
      let invoked := { record with analysis_invocations := record.analysis_invocations + 1 }
      let state ← replace_last state invoked
      let answer ← .ask (.analyze snapshot (c.slot_deadline record.unit))
      match checked answer (validateAnalysisReceipt snapshot) with
      | .error e =>
        if e.kind.IsException then
          let state ← replace_last state { invoked with phase := .analysis_failed }
          return ⟨.analysis_failed, state, some record.unit⟩
        else .raise e
      | .ok receipt =>
        if c.slot_deadline record.unit < receipt.val.completed_utc_ns then
          let state ← replace_last state
            { invoked with phase := .analysis_failed, analysis_receipt := some receipt }
          return ⟨.analysis_failed, state, some record.unit⟩
        else
          let state ← replace_last state
            { invoked with phase := .complete, analysis_receipt := some receipt }
          return ⟨.unit_complete, state, some record.unit⟩

/-- `_run_capture` -/
def run_capture (state : CampaignJournalState) (record : CampaignUnitRecord) :
    CampaignProg CampaignRunResult := do
  let invoked := { record with capture_invocations := record.capture_invocations + 1 }
  let state ← replace_last state invoked
  let answer ← .ask (.capture record.unit record.unit.requested_start_utc_ns
    (c.slot_deadline record.unit))
  match checked answer (validateSnapshot record.unit) with
  | .error e =>
    if e.kind.IsException then return ⟨.capture_uncertain, state, some record.unit⟩ else .raise e
  | .ok snapshot =>
    if CaptureFailed snapshot (c.slot_deadline record.unit) then
      let state ← replace_last state { invoked with phase := .terminal_failed, snapshot := some snapshot }
      return ⟨.capture_failed, state, some record.unit⟩
    else
      let captured := { invoked with phase := .captured, snapshot := some snapshot }
      let state ← replace_last state captured
      c.run_analysis state captured record.unit.requested_start_utc_ns

/-- The `slot_index` after the last record. -/
def nextSlot : Option CampaignUnitRecord → Nat
  | none => 0
  | some record => record.unit.slot_index + 1

/-- The `retry_index` after the last record, which is `none` unless it failed. -/
def nextRetry : Option CampaignUnitRecord → Nat
  | none => 0
  | some record => record.unit.retry_index + 1

/-- The part of `run_next` that plans the next unit. -/
def plan_next (state : CampaignJournalState) (record : Option CampaignUnitRecord) (now_utc_ns : Int) :
    CampaignProg CampaignRunResult := do
  let failed := record.filter (·.phase = .terminal_failed)
  if failed.isSome ∧ (c.definition.val.qualification ∨
      c.definition.val.maximum_fresh_attempts_per_cell ≤ nextRetry failed) then
    return ⟨.capture_failed, state, record.map (·.unit)⟩
  else
    let requested := c.next_requested_start (nextSlot record)
    if ¬c.definition.val.qualification ∧ c.definition.end_utc_ns ≤ requested then
      return ⟨.window_ended, state, none⟩
    else if requested + c.definition.val.maximum_start_lateness_ns < now_utc_ns then
      return ⟨.missed_slot, state, none⟩
    else
      let unit ← .ofExcept (build_campaign_unit c.definition state.completed_successes
        (nextSlot record) (nextRetry failed) requested)
      let state ← store { state with records := state.records ++ [.new unit] } state
      if now_utc_ns < unit.requested_start_utc_ns - c.definition.val.preflight_lead_ns then
        return ⟨.not_due, state, some unit⟩
      else
        let capacity ← c.has_capacity state
        if ¬capacity then return ⟨.capacity_blocked, state, some unit⟩
        -- `state.records[-1]` is the record just planned
        else c.run_capture state (.new unit)

/-- `run_next` -/
def run_next (now_utc_ns : Int) : CampaignProg CampaignRunResult := do
  let state ← .read
  if c.definition.target_successes ≤ state.completed_successes then
    return ⟨.campaign_complete, state, none⟩
  else
    match state.records.getLast? with
    | none => c.plan_next state none now_utc_ns
    | some record =>
      match record.phase with
      | .captured | .analysis_failed => c.run_analysis state record now_utc_ns
      | .planned =>
        if c.definition.val.maximum_capture_invocations ≤ record.capture_invocations then
          return ⟨.capture_uncertain, state, some record.unit⟩
        else if now_utc_ns < record.unit.requested_start_utc_ns - c.definition.val.preflight_lead_ns then
          return ⟨.not_due, state, some record.unit⟩
        else if record.unit.requested_start_utc_ns + c.definition.val.maximum_start_lateness_ns <
            now_utc_ns then
          return ⟨.missed_slot, state, some record.unit⟩
        else
          let capacity ← c.has_capacity state
          if ¬capacity then return ⟨.capacity_blocked, state, some record.unit⟩
          else c.run_capture state record
      | .terminal_failed | .complete => c.plan_next state (some record) now_utc_ns

/-! ## The invariant -/

open CampaignJournalState (completeCount Scheduled scheduled_append)

/-- Done, one way or the other. -/
def Settled (r : CampaignUnitRecord) : Prop :=
  r.phase = .complete ∨ r.phase = .terminal_failed

/-- A record that may follow the records `before`. -/
structure Continues (before : List CampaignUnitRecord) (r : CampaignUnitRecord) : Prop where
  slot : r.unit.slot_index = before.length
  success : r.unit.success_index = completeCount before
  cell : campaign_cell r.unit.success_index = .ok r.unit.cell
  named : r.unit.NamedAfter (campaignStem c.definition.val.campaign_id r.unit.success_index
    r.unit.slot_index r.unit.retry_index)
  retry : r.unit.retry_index < c.definition.val.maximum_fresh_attempts_per_cell
  invocations : r.capture_invocations ≤ c.definition.val.maximum_capture_invocations

/-- The records a campaign can have: each continues records that are done. -/
inductive Inv : List CampaignUnitRecord → Prop where
  | nil : Inv []
  | snoc {before : List CampaignUnitRecord} {r : CampaignUnitRecord} :
    Inv before → (∀ r' ∈ before, Settled r') → c.Continues before r → Inv (before ++ [r])

variable {c}

variable {r : CampaignUnitRecord}

theorem Inv.last {before : List CampaignUnitRecord} (h : c.Inv (before ++ [r])) :
    c.Inv before ∧ (∀ r' ∈ before, Settled r') ∧ c.Continues before r := by
  generalize hrecords : before ++ [r] = records at h
  cases h with
  | nil => exact absurd hrecords (by simp)
  | snoc hinv hsettled hcontinues =>
    obtain ⟨rfl, rfl⟩ := List.append_inj' hrecords rfl |>.imp_right List.cons.inj |>.imp_right And.left
    exact ⟨hinv, hsettled, hcontinues⟩

variable {r' : CampaignUnitRecord}

/-- The last record may change in everything but its unit. -/
theorem Inv.replace {before : List CampaignUnitRecord} (h : c.Inv (before ++ [r])) (hunit : r'.unit = r.unit)
    (hmax : r'.capture_invocations ≤ c.definition.val.maximum_capture_invocations) :
    c.Inv (before ++ [r']) := by
  obtain ⟨hinv, hsettled, hslot, hsuccess, hcell, hnamed, hretry, _⟩ := h.last
  refine hinv.snoc hsettled ⟨?_, ?_, ?_, ?_, ?_, hmax⟩ <;> rw [hunit] <;> assumption

theorem Inv.scheduled (h : c.Inv records) : Scheduled records := by
  induction h with
  | nil => exact ⟨fun _ _ h => by simp at h, fun _ h => absurd h List.not_mem_nil⟩
  | snoc _ _ hcontinues ih => exact scheduled_append.2 ⟨ih, hcontinues.success, hcontinues.cell⟩

theorem Inv.slot (h : c.Inv records) :
    records.map (·.unit.slot_index) = List.range records.length := by
  induction h with
  | nil => rfl
  | snoc _ _ hcontinues ih =>
    rw [List.map_append, ih, List.length_append, List.length_singleton, List.range_succ,
      List.map_singleton, hcontinues.slot]

/-- What every record of a campaign satisfies. -/
theorem Inv.forall_mem (h : c.Inv records) :
    ∀ r ∈ records, (r.unit.NamedAfter (campaignStem c.definition.val.campaign_id r.unit.success_index
      r.unit.slot_index r.unit.retry_index)) ∧
      r.unit.retry_index < c.definition.val.maximum_fresh_attempts_per_cell ∧
      r.capture_invocations ≤ c.definition.val.maximum_capture_invocations := by
  induction h with
  | nil => exact fun _ h => absurd h List.not_mem_nil
  | snoc _ _ hcontinues ih =>
    intro r hr
    rcases List.mem_append.1 hr with hr | hr
    · exact ih r hr
    · rw [List.mem_singleton.1 hr]
      exact ⟨hcontinues.named, hcontinues.retry, hcontinues.invocations⟩

theorem Inv.settled (h : c.Inv records) :
    ∀ r ∈ records.dropLast, Settled r := by
  cases h with
  | nil => exact fun _ h => absurd h List.not_mem_nil
  | snoc _ hsettled _ =>
    rw [List.dropLast_concat]
    exact hsettled

/-- What names determine about units, the records have distinct. -/
theorem Inv.nodup_map (h : c.Inv records) {β : Type} {f : CampaignUnitRecord → β}
    (hf : ∀ r ∈ records, ∀ r' ∈ records, f r = f r' → r.unit.slot_index = r'.unit.slot_index) :
    (records.map f).Nodup := by
  have hslots : (records.map (·.unit.slot_index)).Nodup := h.slot ▸ List.nodup_range
  apply List.Nodup.map_on _ hslots.of_map
  intro r hr r' hr' heq
  exact List.inj_on_of_nodup_map hslots hr hr' (hf r hr r' hr' heq)

theorem Inv.nodup_units (h : c.Inv records) :
    (records.map (·.unit)).Nodup := by
  apply h.nodup_map
  intro r _ r' _ heq
  rw [heq]

/-- Batches, plans and units of different records have different identifiers. -/
theorem Inv.nodup_ids (h : c.Inv records) :
    (records.map (·.unit.unit_id)).Nodup ∧ (records.map (·.unit.batch.val.batch_id)).Nodup ∧
      (records.flatMap fun r => [r.unit.plan_a_id, r.unit.plan_b_id]).Nodup := by
  have hslots : (records.map (·.unit.slot_index)).Nodup := h.slot ▸ List.nodup_range
  refine ⟨h.nodup_map ?_, h.nodup_map ?_, ?_⟩
  · intro r hr r' hr' heq
    simp only [CampaignUnit.unit_id, (h.forall_mem r hr).1.batch_id, (h.forall_mem r' hr').1.batch_id,
      List.append_assoc, List.append_cancel_left_eq] at heq
    exact (campaignStem_inj heq).2
  · intro r hr r' hr' heq
    have hvalue := congrArg ContractId.value heq
    simp only [(h.forall_mem r hr).1.batch_id, (h.forall_mem r' hr').1.batch_id,
      List.append_cancel_left_eq] at hvalue
    exact (campaignStem_inj (congrArg (· ++ []) hvalue)).2
  · rw [List.nodup_flatMap]
    constructor
    · intro r hr
      have hne := (h.forall_mem r hr).1.plan_ne (h.forall_mem r hr).1
      simpa using hne
    · refine (List.pairwise_map.1 hslots).imp_of_mem ?_
      intro r r' hr hr' hslot id hid hid'
      have hnamed := (h.forall_mem r hr).1
      have hnamed' := (h.forall_mem r' hr').1
      apply hslot
      rcases List.mem_pair.1 hid with rfl | rfl <;> rcases List.mem_pair.1 hid' with heq | heq
      · have hvalue := congrArg ContractId.value heq
        simp only [hnamed.plan_a_id, hnamed'.plan_a_id, List.append_assoc,
          List.append_cancel_left_eq] at hvalue
        exact (campaignStem_inj hvalue).2
      · exact absurd heq (hnamed.plan_ne hnamed')
      · exact absurd heq.symm (hnamed'.plan_ne hnamed)
      · have hvalue := congrArg ContractId.value heq
        simp only [hnamed.plan_b_id, hnamed'.plan_b_id, List.append_assoc,
          List.append_cancel_left_eq] at hvalue
        exact (campaignStem_inj hvalue).2

/-! ## The discipline of a call -/

/-- How often the journal counted a capture of `u`. -/
def invocations (records : List CampaignUnitRecord) (u : CampaignUnit) : Nat :=
  (records.map fun r => if r.unit = u then r.capture_invocations else 0).sum

/-- The unit a capture call is for. -/
def captured : CampaignQuery → Option CampaignUnit
  | .capture unit _ _ => some unit
  | _ => none

variable (c) in
/-- A call keeps the invariant and counts captures before it makes them. -/
def discipline : Discipline CampaignJournalState CampaignQuery CampaignUnit PyError where
  Inv s := c.Inv s.records
  Move s t := ∀ u, invocations s.records u ≤ invocations t.records u
  count s u := invocations s.records u
  asks := captured
  Allowed _ _ := True
  MayRaise _ := True
  count_le u h := h u

variable (c) in
/-- The last record, and that the state is good. -/
def At (r : CampaignUnitRecord) (s : CampaignJournalState) : Prop :=
  ∃ before, s.records = before ++ [r] ∧ c.Inv s.records

variable (c) in
@[reducible] def Follows {α : Type} (Q : α → Option CampaignJournalState → Option CampaignUnit → Prop)
    (view : Option CampaignJournalState) (credit : Option CampaignUnit) (x : CampaignProg α) : Prop :=
  x.Follows (CampaignJournalState.row.cas c.digest) c.discipline Q view credit

theorem invocations_concat (before : List CampaignUnitRecord) (r : CampaignUnitRecord)
    (u : CampaignUnit) :
    invocations (before ++ [r]) u =
      invocations before u + if r.unit = u then r.capture_invocations else 0 := by
  unfold invocations
  rw [List.map_append, List.sum_append]
  rfl

section Calls

variable {state : CampaignJournalState} {credit : Option CampaignUnit}

theorem follows_store (hinv : c.Inv records) (hmove : ∀ u, invocations state.records u ≤ invocations records u)
    (earned : Option CampaignUnit)
    (hearned : ∀ u, earned = some u → invocations state.records u < invocations records u) :
    c.Follows (fun s view credit => s.records = records ∧ view = some s ∧ credit = earned)
      (some state) credit (store { state with records := records } state) := by
  have hrev : (CampaignJournalState.row.cas c.digest).revision state <
      (CampaignJournalState.row.cas c.digest).revision
        { state with records := records, revision := state.revision + 1 } := Nat.lt_succ_self _
  exact Prog.follows_replace (D := c.discipline) hinv hrev hmove earned hearned ⟨rfl, rfl, rfl⟩

/-- Replacing the last record; one more invocation earns the capture. -/
theorem follows_replace_last (h : c.At r state) (hunit : r'.unit = r.unit)
    (hle : r.capture_invocations ≤ r'.capture_invocations)
    (hmax : r'.capture_invocations ≤ c.definition.val.maximum_capture_invocations) (earned : Option CampaignUnit)
    (hearned : ∀ u, earned = some u → r.unit = u ∧ r.capture_invocations < r'.capture_invocations) :
    c.Follows (fun s view credit => c.At r' s ∧ view = some s ∧ credit = earned) (some state) credit
      (replace_last state r') := by
  obtain ⟨before, hrecords, hinv⟩ := h
  unfold replace_last
  rw [hrecords, List.getLast?_concat]
  simp only [hunit, ne_eq, not_true_eq_false, if_false, List.dropLast_concat]
  rw [hrecords] at hinv
  refine (follows_store (hinv.replace hunit hmax) ?_ earned ?_).mono ?_
  · intro u
    rw [hrecords, invocations_concat, invocations_concat, hunit]
    split <;> omega
  · intro u hu
    obtain ⟨rfl, hlt⟩ := hearned u hu
    rw [hrecords, invocations_concat, invocations_concat, hunit, if_pos rfl, if_pos rfl]
    omega
  · rintro s view credit ⟨hs, hview, hcredit⟩
    exact ⟨⟨before, hs, hs ▸ hinv.replace hunit hmax⟩, hview, hcredit⟩

/-- A replacement that leaves the invocations alone. -/
theorem follows_replace_last_same (h : c.At r state) (hunit : r'.unit = r.unit)
    (heq : r'.capture_invocations = r.capture_invocations) :
    c.Follows (fun s view _ => c.At r' s ∧ view = some s) (some state) credit (replace_last state r') := by
  obtain ⟨before, hrecords, hinv⟩ := h
  have hmax := (hinv.forall_mem r (by rw [hrecords]; simp)).2.2
  refine (follows_replace_last ⟨before, hrecords, hinv⟩ hunit (Nat.le_of_eq heq.symm) ?_ none ?_).mono ?_
  · rw [heq]
    exact hmax
  · intro u hu
    cases hu
  · rintro s view credit ⟨hs, hview, _⟩
    exact ⟨hs, hview⟩

theorem follows_return {α : Type} {a : α} {view : Option CampaignJournalState} :
    c.Follows (fun _ _ _ => True) view credit (pure a) := trivial

theorem follows_has_capacity :
    c.Follows (fun _ view _ => view = some state) (some state) credit (c.has_capacity state) := by
  unfold has_capacity
  refine Prog.follows_bind (Q := fun _ view _ => view = some state) ?_ ?_
  · exact Prog.follows_ask (D := c.discipline) trivial rfl fun _ => rfl
  · rintro answer view credit rfl
    refine Prog.follows_bind (Q := fun _ view _ => view = some state) ?_ ?_
    · exact Prog.follows_ofExcept (fun _ _ => rfl) fun _ _ => trivial
    · rintro available view credit rfl
      split
      · trivial
      · exact rfl

theorem follows_run_analysis (h : c.At r state) (now : Int) :
    c.Follows (fun _ _ _ => True) (some state) credit (c.run_analysis state r now) := by
  unfold run_analysis
  split
  · trivial
  · rename_i snapshot _
    split
    · exact follows_return
    split
    · exact follows_return
    refine Prog.follows_bind (follows_replace_last_same h rfl rfl) ?_
    rintro invoked view credit ⟨hinvoked, rfl⟩
    refine Prog.follows_bind (Q := fun _ view _ => view = some invoked) ?_ ?_
    · exact Prog.follows_ask (D := c.discipline) trivial rfl fun _ => rfl
    rintro answer view credit rfl
    -- every outcome is one more replacement of the same record
    split
    · split
      · exact Prog.follows_bind (follows_replace_last_same hinvoked rfl rfl) fun _ _ _ _ => follows_return
      · trivial
    · split
      · exact Prog.follows_bind (follows_replace_last_same hinvoked rfl rfl) fun _ _ _ _ => follows_return
      · exact Prog.follows_bind (follows_replace_last_same hinvoked rfl rfl) fun _ _ _ _ => follows_return

/-- The count goes up before the capture. -/
theorem follows_run_capture (h : c.At r state)
    (hmax : r.capture_invocations < c.definition.val.maximum_capture_invocations) :
    c.Follows (fun _ _ _ => True) (some state) credit (c.run_capture state r) := by
  unfold run_capture
  refine Prog.follows_bind (follows_replace_last h ?_ ?_ ?_ (some r.unit) ?_) ?_
  · rfl
  · exact Nat.le_succ _
  · show ((r.capture_invocations + 1 : Nat) : Int) ≤ _
    omega
  · intro u hu
    exact ⟨Option.some.inj hu, Nat.lt_succ_self _⟩
  rintro invoked view credit ⟨hinvoked, rfl, rfl⟩
  refine Prog.follows_bind (Q := fun _ view _ => view = some invoked) ?_ ?_
  · exact Prog.follows_ask_counted (D := c.discipline) trivial rfl fun _ => rfl
  rintro answer view credit rfl
  split
  · split
    · exact follows_return
    · trivial
  · split
    · exact Prog.follows_bind (follows_replace_last_same hinvoked rfl rfl) fun _ _ _ _ => follows_return
    · refine Prog.follows_bind (follows_replace_last_same hinvoked rfl rfl) ?_
      rintro captured view credit ⟨hcaptured, rfl⟩
      exact follows_run_analysis hcaptured _

/-- What `plan_next` starts from: the last record, if any, is done. -/
def Done (records : List CampaignUnitRecord) : Option CampaignUnitRecord → Prop
  | none => records = []
  | some r => ∃ before, records = before ++ [r] ∧ Settled r

/-- The next unit continues the records. -/
theorem continues_next {last : Option CampaignUnitRecord} {retry : Nat} {requested : Int} {unit : CampaignUnit}
    (hinv : c.Inv records) (hdone : Done records last)
    (hretry : (retry : Int) < c.definition.val.maximum_fresh_attempts_per_cell)
    (hunit : build_campaign_unit c.definition (completeCount records) (nextSlot last) retry requested = .ok unit) : c.Inv (records ++ [.new unit]) := by
  have hslot : nextSlot last = records.length := by
    cases last with
    | none =>
      rw [show records = [] from hdone]
      rfl
    | some r =>
      obtain ⟨before, rfl, _⟩ := hdone
      rw [List.length_append, List.length_singleton, nextSlot, hinv.last.2.2.slot]
  have hsettled : ∀ r' ∈ records, Settled r' := by
    cases last with
    | none =>
      rw [show records = [] from hdone]
      exact fun _ h => absurd h List.not_mem_nil
    | some r =>
      obtain ⟨before, rfl, hr⟩ := hdone
      intro r' hr'
      rcases List.mem_append.1 hr' with hr' | hr'
      · exact hinv.last.2.1 r' hr'
      · rw [List.mem_singleton.1 hr']
        exact hr
  rw [hslot] at hunit
  obtain ⟨hsuccess', hslot', hretry', hcell, _, hnamed⟩ := build_campaign_unit_ok hunit
  have hpos := c.definition.post_init_ok.2.1
  refine hinv.snoc hsettled ⟨hslot', hsuccess', hsuccess' ▸ hcell, ?_, hretry' ▸ hretry, ?_⟩
  · show unit.NamedAfter (campaignStem _ unit.success_index unit.slot_index unit.retry_index)
    rw [hsuccess', hslot', hretry']
    exact hnamed
  · exact Int.le_of_lt hpos

theorem follows_plan_next {last : Option CampaignUnitRecord} (hinv : c.Inv state.records)
    (hdone : Done state.records last) (now : Int) :
    c.Follows (fun _ _ _ => True) (some state) credit (c.plan_next state last now) := by
  unfold plan_next
  dsimp only
  split
  · exact follows_return
  rename_i hfailed
  split
  · exact follows_return
  split
  · exact follows_return
  refine Prog.follows_bind (Q := fun unit view _ => c.Inv (state.records ++ [.new unit]) ∧ view = some state)
    (Prog.follows_ofExcept ?_ fun _ _ => trivial) ?_
  · intro unit hunit
    rw [CampaignJournalState.completed_successes_eq hinv.scheduled] at hunit
    refine ⟨continues_next hinv hdone ?_ hunit, rfl⟩
    -- a retry was checked, and a first attempt is always allowed
    cases hfilter : last.filter (·.phase = .terminal_failed) with
    | none => exact c.definition.post_init_ok.2.2.1
    | some r =>
      rw [hfilter] at hfailed
      simp only [Option.isSome_some, true_and, not_or, not_le] at hfailed
      exact hfailed.2
  rintro unit view credit ⟨hnext, rfl⟩
  refine Prog.follows_bind (follows_store hnext ?_ none ?_) ?_
  · intro u
    rw [invocations_concat]
    omega
  · intro u hu
    cases hu
  rintro planned view credit ⟨hrecords, rfl, -⟩
  split
  · exact follows_return
  refine Prog.follows_bind follows_has_capacity ?_
  rintro capacity view credit rfl
  split
  · exact follows_return
  · refine follows_run_capture ⟨state.records, hrecords, hrecords ▸ hnext⟩ ?_
    exact c.definition.post_init_ok.2.1

theorem follows_run_next (now : Int) :
    c.Follows (fun _ _ _ => True) none none (c.run_next now) := by
  unfold run_next
  refine Prog.follows_bind (Q := fun s view _ => c.Inv s.records ∧ view = some s) ?_ ?_
  · exact Prog.follows_read (D := c.discipline) fun s hs => ⟨hs, rfl⟩
  rintro state view credit ⟨hinv, rfl⟩
  split
  · exact follows_return
  split
  · rename_i hnone
    have hdone : Done state.records none := List.getLast?_eq_none_iff.1 hnone
    exact follows_plan_next hinv hdone now
  rename_i r hlast
  have hrecords : state.records = state.records.dropLast ++ [r] :=
    (List.dropLast_append_getLast? r hlast).symm
  have hat : c.At r state := ⟨_, hrecords, hinv⟩
  split
  · exact follows_run_analysis hat now
  · exact follows_run_analysis hat now
  · split
    · exact follows_return
    rename_i hmax
    split
    · exact follows_return
    split
    · exact follows_return
    refine Prog.follows_bind follows_has_capacity ?_
    rintro capacity view credit rfl
    split
    · exact follows_return
    · exact follows_run_capture hat (Int.not_le.1 hmax)
  · rename_i hphase
    have hdone : Done state.records (some r) := ⟨_, hrecords, Or.inr hphase⟩
    exact follows_plan_next hinv hdone now
  · rename_i hphase
    have hdone : Done state.records (some r) := ⟨_, hrecords, Or.inl hphase⟩
    exact follows_plan_next hinv hdone now

end Calls

end CampaignCoordinator

/-! ## Every run -/

namespace CampaignJournalState

/-- A state of a campaign: the records follow the schedule, and only the last may be
unfinished. -/
structure WellFormed (d : CampaignDefinition) (s : CampaignJournalState) : Prop where
  settled : ∀ r ∈ s.records.dropLast, r.phase = .complete ∨ r.phase = .terminal_failed
  slot : ∀ (i : Nat) (r : CampaignUnitRecord), s.records[i]? = some r → r.unit.slot_index = i
  success : ∀ (i : Nat) (r : CampaignUnitRecord), s.records[i]? = some r →
    r.unit.success_index = completeCount (s.records.take i)
  retries : ∀ r ∈ s.records, r.unit.retry_index < d.val.maximum_fresh_attempts_per_cell
  invocations : ∀ r ∈ s.records, r.capture_invocations ≤ d.val.maximum_capture_invocations
  unit_ids : (s.records.map (·.unit.unit_id)).Nodup
  batch_ids : (s.records.map (·.unit.batch.val.batch_id)).Nodup
  plan_ids :
    (s.records.flatMap fun r : CampaignUnitRecord => [r.unit.plan_a_id, r.unit.plan_b_id]).Nodup
  length_counts : s.successful_counts.length = CAMPAIGN_CELLS.length
  balance : ∀ (i j a b : Nat), i ≤ j → s.successful_counts[i]? = some a → s.successful_counts[j]? = some b →
    b ≤ a ∧ a ≤ b + 1

end CampaignJournalState

namespace CampaignCoordinator

theorem balanced_le {n i j a b : Nat} (hij : i ≤ j) (ha : (balanced n)[i]? = some a)
    (hb : (balanced n)[j]? = some b) : b ≤ a ∧ a ≤ b + 1 := by
  simp only [balanced, SLOTS_PER_ROUND, List.getElem?_map, Option.map_eq_some_iff] at ha hb
  obtain ⟨i', hi, rfl⟩ := ha
  obtain ⟨j', hj, rfl⟩ := hb
  obtain ⟨hi', rfl⟩ := List.getElem?_eq_some_iff.1 hi
  obtain ⟨hj', rfl⟩ := List.getElem?_eq_some_iff.1 hj
  rw [List.length_range] at hi' hj'
  rw [List.getElem_range, List.getElem_range]
  omega

theorem Inv.wellFormed {c : CampaignCoordinator} {s : CampaignJournalState} (h : c.Inv s.records) :
    s.WellFormed c.definition := by
  have hcounts := CampaignJournalState.successful_counts_eq h.scheduled
  constructor
  · exact h.settled
  · intro i r hr
    have hget : (s.records.map (·.unit.slot_index))[i]? = some r.unit.slot_index := by
      rw [List.getElem?_map, hr]
      rfl
    rw [h.slot] at hget
    obtain ⟨_, hget⟩ := List.getElem?_eq_some_iff.1 hget
    rw [List.getElem_range] at hget
    exact hget.symm
  · exact h.scheduled.success
  · exact fun r hr => (h.forall_mem r hr).2.1
  · exact fun r hr => (h.forall_mem r hr).2.2
  · exact h.nodup_ids.1
  · exact h.nodup_ids.2.1
  · exact h.nodup_ids.2.2
  · rw [hcounts]
    rfl
  · intro i j a b hij ha hb
    rw [hcounts] at ha hb
    exact balanced_le hij ha hb

/-- The invocations of one unit stay within the bound of the definition. -/
theorem Inv.invocations_le {c : CampaignCoordinator} (h : c.Inv records) (u : CampaignUnit) :
    invocations records u ≤ c.definition.val.maximum_capture_invocations := by
  have hunits := h.nodup_units
  have hmax := h.forall_mem
  have hpos := c.definition.post_init_ok.2.1
  clear h
  induction records with
  | nil => exact Int.le_of_lt hpos
  | cons r records ih =>
    obtain ⟨hnot, hrest⟩ := List.nodup_cons.1 hunits
    have hmax' := fun r hr => hmax r (List.mem_cons_of_mem _ hr)
    show (((if r.unit = u then r.capture_invocations else 0) + invocations records u : Nat) : Int) ≤ _
    split
    · rename_i hu
      have hzero : invocations records u = 0 := by
        unfold invocations
        rw [List.sum_eq_zero]
        intro n hn
        obtain ⟨r', hr', rfl⟩ := List.mem_map.1 hn
        rw [if_neg]
        intro hu'
        exact hnot (List.mem_map.2 ⟨r', hr', hu'.trans hu.symm⟩)
      rw [hzero, Nat.add_zero]
      exact (hmax r List.mem_cons_self).2.2
    · rw [Nat.zero_add]
      exact ih hrest hmax'

section Runs

variable {P : Type} [DecidableEq P] (c : CampaignCoordinator)

/-- Any number of coordinators of one campaign, started, stopped and restarted at any point: a
label says which of them moves, what the clock read when it began, and what its ports answer. -/
def system : Machine (Journal.State P CampaignJournalState CampaignQuery CampaignQuery.Answer PyError
    CampaignRunResult) (Journal.Label P Int CampaignQuery CampaignQuery.Answer) :=
  Journal.machine (CampaignJournalState.row.cas c.digest) (.initial c.digest) c.run_next

/-- The campaign before its first call. -/
def start : Journal.State P CampaignJournalState CampaignQuery CampaignQuery.Answer PyError
    CampaignRunResult := .start (.initial c.digest)

/-- Every journaled state is well formed, whatever the ports answer, the clock reads and
wherever calls are cut off. -/
theorem journal_wellFormed (as : List (Journal.Label P Int CampaignQuery CampaignQuery.Answer)) :
    c.system.AllStates (fun st => st.journal.WellFormed c.definition) c.start as := by
  have hinitial : c.discipline.Inv (.initial c.digest) := Inv.nil
  exact Journal.allStates_of_follows hinitial follows_run_next (fun _ _ _ _ _ => trivial)
    (fun _ hst => Inv.wellFormed hst.inv) as

/-- However many coordinators race, restart or stop, a unit is captured at most as often as the
definition allows: each capture follows a replacement by the same coordinator that counted it
and that no other capture of the unit used, and the journal it meets has counted all captures
so far. -/
theorem captures_counted (as : List (Journal.Label P Int CampaignQuery CampaignQuery.Answer)) :
    c.system.AllStates (fun st =>
      (∀ u, History.calls c.discipline u st.history ≤
        c.definition.val.maximum_capture_invocations) ∧
      ∀ newer p u not_before deadline s older,
        st.history = newer ++ .called p (.capture u not_before deadline) s :: older →
          History.Credit c.discipline p u older ∧
          History.calls c.discipline u (.called p (.capture u not_before deadline) s :: older) ≤
            invocations s.records u) c.start as := by
  have hinitial : c.discipline.Inv (.initial c.digest) := Inv.nil
  refine Journal.allStates_of_follows hinitial follows_run_next (fun _ _ _ _ _ => trivial) ?_ as
  intro st hst
  constructor
  · intro u
    have hcount := History.calls_le_count hst.valid u
    have hmax := Inv.invocations_le (History.inv_current hst.valid) u
    exact Int.le_trans (Int.ofNat_le.2 hcount) hmax
  · rintro newer p u not_before deadline s older heq
    have hvalid := heq ▸ hst.valid
    refine ⟨History.credit_of_called hvalid rfl, ?_⟩
    have hsuffix := History.Valid.suffix hvalid
    have hcount := History.calls_le_count hsuffix u
    rw [hsuffix.1]
    exact hcount

end Runs

end CampaignCoordinator

end LeoFlow
