import LeoFlow.Contracts.Core
import LeoFlow.Contracts.Validation

/-!
# LeoFlow.Deployments.FocusedJournal — the journal of the focused continuous supervisor

`adapters/focused_continuous_sqlite.py`: one row for each dwell, under its sequence. Every change is one statement
whose `WHERE` names the row it expects; a statement that meets another row raises and changes nothing.
-/

namespace LeoFlow

inductive DwellState where
  | planned
  | captured
  | analysis_running
  | complete
  | failed
deriving DecidableEq

/-- `FocusedContinuousRecordV0_1` -/
structure FocusedContinuousRecord where
  sequence : Nat
  monitor_id : PyStr
  requested_start_utc_ns : Int
  definition_digest : Digest
  state_root : PyStr
  batch_id : PyStr
  state : DwellState
  error : Option String
  analysis_pid : Option Nat
  analysis_process_start_ticks : Option Nat
  analysis_command_digest : Option Digest
  analysis_attempt_count : Nat
deriving DecidableEq

namespace FocusedContinuousRecord

/-- `state NOT IN ('complete','failed')` -/
def Incomplete (r : FocusedContinuousRecord) : Prop := r.state ≠ .complete ∧ r.state ≠ .failed

instance (r : FocusedContinuousRecord) : Decidable r.Incomplete := inferInstanceAs (Decidable (_ ∧ _))

/-- The `SET` list of `transition`. -/
def moveTo (r : FocusedContinuousRecord) (target : DwellState) (error : Option String) : FocusedContinuousRecord :=
  { r with
    state := target
    error := error }

/-- The `SET` list of `claim_analysis_process`. -/
def claimed (r : FocusedContinuousRecord) (pid process_start_ticks : Nat) (command_digest : Digest) :
    FocusedContinuousRecord :=
  { r with
    state := .analysis_running
    error := none
    analysis_pid := some pid
    analysis_process_start_ticks := some process_start_ticks
    analysis_command_digest := some command_digest
    analysis_attempt_count := r.analysis_attempt_count + 1 }

/-- The `SET` list of `abandon_exact_analysis_process`. -/
def abandoned (r : FocusedContinuousRecord) : FocusedContinuousRecord :=
  { r with
    state := .captured
    error := none
    analysis_pid := none
    analysis_process_start_ticks := none
    analysis_command_digest := none }

/-- No analysis process is named. -/
def Unclaimed (r : FocusedContinuousRecord) : Prop :=
  r.analysis_pid = none ∧ r.analysis_process_start_ticks = none ∧ r.analysis_command_digest = none

instance (r : FocusedContinuousRecord) : Decidable r.Unclaimed := inferInstanceAs (Decidable (_ ∧ _ ∧ _))

/-- A row names this process. -/
def Names (r : FocusedContinuousRecord) (pid process_start_ticks : Nat) : Prop :=
  r.analysis_pid = some pid ∧ r.analysis_process_start_ticks = some process_start_ticks

instance (r : FocusedContinuousRecord) (pid ticks : Nat) : Decidable (r.Names pid ticks) :=
  inferInstanceAs (Decidable (_ ∧ _))

end FocusedContinuousRecord

/-- The rows, by sequence. -/
abbrev FocusedJournal := List FocusedContinuousRecord

namespace FocusedJournal

/-- `next_sequence` -/
def next_sequence (j : FocusedJournal) : Nat := j.foldr (fun r n => max (r.sequence + 1) n) 0

/-- `get` -/
def get (j : FocusedJournal) (sequence : Nat) : Option FocusedContinuousRecord :=
  j.find? fun r => r.sequence = sequence

/-- `incomplete` -/
def incomplete (j : FocusedJournal) : List FocusedContinuousRecord := j.filter fun r => r.Incomplete

/-- `insert_planned` -/
def insert_planned (j : FocusedJournal) (record : FocusedContinuousRecord) : Except PyError FocusedJournal :=
  if record.state ≠ .planned ∨ record.error ≠ none then
    .error (.value "new focused record must be a clean planned record")
  else if record.requested_start_utc_ns < 0 ∨
      ∃ r ∈ j, r.sequence = record.sequence ∨ r.monitor_id = record.monitor_id ∨
        r.state_root = record.state_root ∨ r.batch_id = record.batch_id then
    .error ⟨.integrity_error, "constraint failed"⟩
  else .ok (j ++ [{ record with
    analysis_pid := none
    analysis_process_start_ticks := none
    analysis_command_digest := none
    analysis_attempt_count := 0 }])

/-- `UPDATE focused_dwell SET … WHERE sequence=? AND …`, of which one row must match. -/
def update (j : FocusedJournal) (sequence : Nat) (guard : FocusedContinuousRecord → Bool)
    (set : FocusedContinuousRecord → FocusedContinuousRecord) (conflict : String) : Except PyError FocusedJournal :=
  match j.get sequence with
  | none => .error ⟨.runtime_error, conflict⟩
  | some row =>
    if guard row then .ok (j.map fun r => if r.sequence = sequence then set r else r)
    else .error ⟨.runtime_error, conflict⟩

/-- `transition` -/
def transition (j : FocusedJournal) (sequence : Nat) (expected target : DwellState) (error : Option String) :
    Except PyError FocusedJournal :=
  if expected = target then .error (.value "focused journal transitions must change state")
  else
    j.update sequence (fun r => r.state = expected) (fun r => r.moveTo target error)
      "focused journal transition conflict"

/-- `claim_analysis_process` -/
def claim_analysis_process (j : FocusedJournal) (sequence pid process_start_ticks : Nat) (command_digest : Digest) :
    Except PyError FocusedJournal :=
  if pid = 0 ∨ process_start_ticks = 0 then .error (.value "analysis process identity must be positive")
  else
    j.update sequence (fun r => r.state = .captured ∧ r.Unclaimed)
      (fun r => r.claimed pid process_start_ticks command_digest) "focused journal analysis claim conflict"

/-- `abandon_exact_analysis_process` -/
def abandon_exact_analysis_process (j : FocusedJournal) (sequence : Nat) (expected_state : DwellState)
    (expected_error : Option String) (expected_pid expected_process_start_ticks : Option Nat)
    (expected_command_digest : Option Digest) : Except PyError FocusedJournal :=
  if expected_state ≠ .analysis_running ∧ expected_state ≠ .failed then
    .error (.value "only an analysis attempt may be abandoned")
  else if expected_pid.isNone ≠ expected_process_start_ticks.isNone ∨
      expected_pid.isNone ≠ expected_command_digest.isNone then
    .error (.value "expected analysis identity must be complete or absent")
  else if expected_pid = some 0 ∨ expected_process_start_ticks = some 0 then
    .error (.value "expected analysis process identity must be positive")
  else
    j.update sequence
      (fun r => r.state = expected_state ∧ r.error = expected_error ∧ r.analysis_pid = expected_pid ∧
        r.analysis_process_start_ticks = expected_process_start_ticks ∧
        r.analysis_command_digest = expected_command_digest)
      FocusedContinuousRecord.abandoned "focused journal recovery conflict"

/-! ## One row at a time -/

/-- The row of its sequence, replaced. -/
def put (j : FocusedJournal) (row : FocusedContinuousRecord) : FocusedJournal :=
  j.map fun r => if r.sequence = row.sequence then row else r

/-- `sequence INTEGER PRIMARY KEY` -/
def Distinct (j : FocusedJournal) : Prop := (j.map FocusedContinuousRecord.sequence).Nodup

variable {j j' : FocusedJournal} {r r' : FocusedContinuousRecord}

theorem Distinct.eq (hj : j.Distinct) (hr : r ∈ j) (hr' : r' ∈ j) (h : r.sequence = r'.sequence) : r = r' :=
  List.inj_on_of_nodup_map hj hr hr' h

theorem get_of_mem (hj : j.Distinct) (hr : r ∈ j) : j.get r.sequence = some r := by
  cases hget : j.get r.sequence with
  | none =>
    have := List.find?_eq_none.1 hget r hr
    simp at this
  | some r' =>
    have hsequence : r'.sequence = r.sequence := by simpa using List.find?_some hget
    rw [hj.eq (List.mem_of_find?_eq_some hget) hr hsequence]

theorem mem_of_get {sequence : Nat} (h : j.get sequence = some r) : r ∈ j ∧ r.sequence = sequence := by
  constructor
  · exact List.mem_of_find?_eq_some h
  · simpa using List.find?_some h

variable {row : FocusedContinuousRecord}

theorem mem_put (h : r ∈ j.put row) :
    r = row ∨ (r ∈ j ∧ r.sequence ≠ row.sequence) := by
  obtain ⟨r', hr', rfl⟩ := List.mem_map.1 h
  by_cases hsequence : r'.sequence = row.sequence
  · exact .inl (if_pos hsequence)
  · rw [if_neg hsequence]
    exact .inr ⟨hr', hsequence⟩

theorem mem_put_self (hr : r ∈ j) (h : r.sequence = row.sequence) :
    row ∈ j.put row :=
  List.mem_map.2 ⟨r, hr, if_pos h⟩

theorem mem_put_other (hr : r ∈ j) (h : r.sequence ≠ row.sequence) :
    r ∈ j.put row :=
  List.mem_map.2 ⟨r, hr, if_neg h⟩

/-- No sequence is lost. -/
theorem exists_put (hr : r ∈ j) : ∃ r' ∈ j.put row, r'.sequence = r.sequence := by
  by_cases h : r.sequence = row.sequence
  · exact ⟨row, mem_put_self hr h, h.symm⟩
  · exact ⟨r, mem_put_other hr h, rfl⟩

theorem Distinct.put (hj : j.Distinct) (row : FocusedContinuousRecord) : (j.put row).Distinct := by
  have hsame : (j.put row).map FocusedContinuousRecord.sequence = j.map FocusedContinuousRecord.sequence := by
    unfold FocusedJournal.put
    rw [List.map_map]
    refine List.map_congr_left ?_
    intro r _
    simp only [Function.comp_apply]
    split
    · exact Eq.symm ‹_›
    · rfl
  unfold Distinct
  rwa [hsame]

/-- An `UPDATE` of a row that is there. -/
theorem update_of_mem (hj : j.Distinct) (hr : r ∈ j) {guard : FocusedContinuousRecord → Bool}
    {set : FocusedContinuousRecord → FocusedContinuousRecord} {conflict : String} (hguard : guard r = true)
    (hset : (set r).sequence = r.sequence) : j.update r.sequence guard set conflict = .ok (j.put (set r)) := by
  unfold update
  rw [get_of_mem hj hr]
  simp only [hguard, if_true]
  unfold put
  rw [hset]
  congr 1
  refine List.map_congr_left ?_
  intro r' hr'
  by_cases h : r'.sequence = r.sequence
  · rw [hj.eq hr' hr h]
  · rw [if_neg h, if_neg h]

theorem transition_of_mem (hj : j.Distinct) (hr : r ∈ j) {target : DwellState} (hne : r.state ≠ target)
    (error : Option String) :
    j.transition r.sequence r.state target error = .ok (j.put (r.moveTo target error)) := by
  unfold transition
  rw [if_neg hne]
  exact update_of_mem hj hr (by simp) rfl

theorem claim_analysis_process_of_mem (hj : j.Distinct) (hr : r ∈ j) (hcaptured : r.state = .captured)
    (hunclaimed : r.Unclaimed) {pid process_start_ticks : Nat} (hpid : pid ≠ 0) (hticks : process_start_ticks ≠ 0)
    (command_digest : Digest) :
    j.claim_analysis_process r.sequence pid process_start_ticks command_digest =
      .ok (j.put (r.claimed pid process_start_ticks command_digest)) := by
  unfold claim_analysis_process
  rw [if_neg (by simp [hpid, hticks])]
  exact update_of_mem hj hr (by simp [hcaptured, hunclaimed]) rfl

theorem abandon_exact_analysis_process_of_mem (hj : j.Distinct) (hr : r ∈ j)
    (hstate : r.state = .analysis_running ∨ r.state = .failed) {pid process_start_ticks : Nat}
    {command_digest : Digest} (hpid : r.analysis_pid = some pid)
    (hticks : r.analysis_process_start_ticks = some process_start_ticks)
    (hdigest : r.analysis_command_digest = some command_digest) (hpos : pid ≠ 0 ∧ process_start_ticks ≠ 0) :
    j.abandon_exact_analysis_process r.sequence r.state r.error r.analysis_pid r.analysis_process_start_ticks
      r.analysis_command_digest = .ok (j.put r.abandoned) := by
  unfold abandon_exact_analysis_process
  rw [if_neg (by rcases hstate with h | h <;> simp [h]), if_neg (by simp [hpid, hticks, hdigest]),
    if_neg (by simp [hpid, hticks, hpos])]
  exact update_of_mem hj hr (by simp) rfl

/-- The row that a planned record becomes. -/
theorem insert_planned_ok {record : FocusedContinuousRecord} (h : j.insert_planned record = .ok j') :
    ∃ row, row.sequence = record.sequence ∧ row.state = .planned ∧ row.Unclaimed ∧ row.analysis_attempt_count = 0 ∧
      j' = j ++ [row] ∧ ∀ r ∈ j, r.sequence ≠ record.sequence := by
  unfold insert_planned at h
  split at h
  · cases h
  · split at h
    · cases h
    · rename_i hclean hfresh
      cases h
      simp only [not_or, not_not] at hclean
      refine ⟨{ record with
        analysis_pid := none
        analysis_process_start_ticks := none
        analysis_command_digest := none
        analysis_attempt_count := 0 }, rfl, hclean.1, ⟨rfl, rfl, rfl⟩, rfl, rfl, ?_⟩
      intro r hr
      push Not at hfresh
      exact (hfresh.2 r hr).1

end FocusedJournal

end LeoFlow
