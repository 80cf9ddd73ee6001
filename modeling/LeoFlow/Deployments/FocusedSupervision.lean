import LeoFlow.Deployments.FocusedRecovery
import LeoFlow.Contracts.Samples

/-!
# LeoFlow.Deployments.FocusedSupervision — what supervisors do over one journal

Any sequence of supervisors, each killed between any two of its acts, with children that end as they like.
-/

namespace LeoFlow

namespace FocusedSupervisor

open FocusedWorld SupervisorAct

variable {A : FocusedWorld → Prop} {args : FocusedArgs} {todo todo' : List Nat} {w w' : FocusedWorld}
  {record : FocusedContinuousRecord} {rows : List FocusedContinuousRecord}

/-! ## The dwells of one supervisor -/

/-- A dwell is planned. -/
structure Planned (args : FocusedArgs) (record : FocusedContinuousRecord) (w : FocusedWorld) : Prop where
  knows : Knows args [record.sequence] w
  row : ∃ r ∈ w.journal, r.sequence = record.sequence ∧ r.state = .planned

theorem kept_planned : Kept (Planned args record) := by
  intro w w' hages h
  refine ⟨kept_knows w w' hages h.knows, ?_⟩
  rw [hages.journal]
  exact h.row

theorem holds_next_sequence (hA : Kept A) :
    Holds A (.ask SupervisorAct.next_sequence) fun a w => A w ∧ a = w.journal.next_sequence := by
  refine holds_read hA ?_ ?_
  · intro a w w' hages h
    rw [hages.journal]
    exact h
  · intro w a w' _ _ hrespond
    simp only [respond] at hrespond
    split at hrespond
    · rename_i heq
      cases hrespond
      exact ⟨Ages.refl w, heq⟩
    · cases hrespond

/-- A new row, whose capture was not started. -/
theorem inv_insert (hw : w.Inv) {row : FocusedContinuousRecord} (hplanned : row.state = .planned)
    (hunclaimed : row.Unclaimed) (hzero : row.analysis_attempt_count = 0)
    (hfresh : ∀ r ∈ w.journal, r.sequence ≠ row.sequence) :
    FocusedWorld.Inv { w with journal := w.journal ++ [row] } := by
  have hexists : ∀ sequence, (∃ r ∈ w.journal, r.sequence = sequence) →
      ∃ r ∈ w.journal ++ [row], r.sequence = sequence := by
    rintro sequence ⟨r, hr, heq⟩
    exact ⟨r, List.mem_append_left _ hr, heq⟩
  have hunknown : ∀ c ∈ w.claims, c.1 ≠ row.sequence := by
    intro c hc heq
    obtain ⟨r, hr, hsequence⟩ := (hw.claims c hc).1
    exact hfresh r hr (hsequence.trans heq)
  have hrow : FocusedWorld.Row { w with journal := w.journal ++ [row] } row := by
    refine ⟨?_, .inr ?_, fun _ => ⟨hunclaimed, hzero⟩, by simp [hplanned], by simp [hplanned], ?_, by simp [hplanned]⟩
    · rw [hzero]
      refine (List.countP_eq_zero.2 ?_).symm
      intro c hc
      simpa using hunknown c hc
    · rw [hzero]
      exact Nat.zero_le _
    · rintro pid ticks ⟨hpid, _⟩
      rw [hunclaimed.1] at hpid
      cases hpid
  refine ⟨?_, hw.identities, hw.alive_visible, ?_, ?_, fun c hc => ⟨hexists _ (hw.claims c hc).1, (hw.claims c hc).2⟩,
    hw.captures_nodup, fun s hs => hexists s (hw.captures s hs), hw.transitions, hw.refusals⟩
  · unfold FocusedJournal.Distinct
    rw [List.map_append, List.nodup_append]
    refine ⟨hw.distinct, List.nodup_singleton _, ?_⟩
    intro s hs s' hs' heq
    obtain ⟨r, hr, rfl⟩ := List.mem_map.1 hs
    rw [List.map_singleton, List.mem_singleton] at hs'
    exact hfresh r hr (heq.trans hs')
  · intro r hr
    rcases List.mem_append.1 hr with hr | hr
    · exact (hw.row r hr).congr rfl id le_rfl id
    · rw [List.mem_singleton.1 hr]
      exact hrow
  · intro p hp halive r hr hclaim
    rcases List.mem_append.1 hr with hr | hr
    · exact hw.claimed p hp halive r hr hclaim
    · rw [List.mem_singleton.1 hr] at hclaim
      exact absurd rfl (hunknown _ hclaim)

theorem holds_build_record (hA : Kept A) (sequence : Nat) :
    Holds A (.ask (build_record sequence)) fun a w => A w ∧ ∀ record, a = .ok record → record.sequence = sequence := by
  refine holds_read hA (fun _ _ _ _ h => h) ?_
  intro w a w' _ _ hrespond
  simp only [respond] at hrespond
  split at hrespond
  · cases hrespond
    exact ⟨Ages.refl w, fun _ h => by cases h⟩
  · split at hrespond
    · cases hrespond
      refine ⟨Ages.refl w, ?_⟩
      intro record heq
      cases heq
      exact ‹_›
    · cases hrespond

theorem holds_plan (args : FocusedArgs) :
    Holds (Knows args []) plan fun record w => Planned args record w ∧ record.sequence ∉ w.captures := by
  unfold plan
  refine Script.returns_bind (holds_next_sequence kept_knows) ?_
  intro sequence
  have hkept : Kept fun w => Knows args [] w ∧ sequence = w.journal.next_sequence := by
    refine kept_knows.and ?_
    intro w w' hages h
    rw [hages.journal]
    exact h
  refine Script.returns_bind (holds_build_record hkept sequence) ?_
  intro built
  split
  · exact Script.returns_raise
  rename_i record
  refine Script.returns_bind (holds_attempt (B := fun w => Planned args record w ∧ record.sequence ∉ w.captures)
    (holds_write ?_ ?_)) ?_
  · intro a w w' hages h ha
    refine ⟨kept_planned w w' hages (h ha).1, ?_⟩
    rw [hages.captures]
    exact (h ha).2
  · rintro w a w' hw ⟨⟨hknows, hnext⟩, hsequence⟩ hrespond
    simp only [respond] at hrespond
    split at hrespond
    · rename_i journal hinsert
      cases hrespond
      obtain ⟨row, hrow, hplanned, hunclaimed, hzero, rfl, hfresh⟩ := FocusedJournal.insert_planned_ok hinsert
      refine ⟨inv_insert hw hplanned hunclaimed hzero (hrow ▸ hfresh), fun _ => ⟨⟨⟨hknows.maximum, hknows.keys, ?_, ?_⟩,
        row, List.mem_append_right _ (List.mem_singleton_self _), hrow, hplanned⟩, ?_⟩⟩
      · intro c hc
        have hfollows := hknows.follows c hc
        exact ⟨hfollows.key, List.mem_append_left _ hfollows.row, hfollows.running, hfollows.names⟩
      · intro r hr hopen
        rcases List.mem_append.1 hr with hr | hr
        · rcases hknows.settled r hr hopen with h | h | h
          · exact .inl h
          · exact .inr (.inl h)
          · cases h
        · rw [List.mem_singleton.1 hr, hrow]
          exact .inr (.inr List.mem_cons_self)
      · intro hmem
        obtain ⟨r, hr, heq⟩ := hw.captures _ hmem
        exact hfresh r hr heq
    · split at hrespond
      · cases hrespond
        exact ⟨hw, fun h => by cases h⟩
      · cases hrespond
    · cases hrespond
  · intro _
    exact Script.returns_pure fun _ _ h => h

theorem holds_start_capture :
    Holds (fun w => Planned args record w ∧ record.sequence ∉ w.captures)
      (attempt (.ask (start_capture record))) fun _ => Planned args record := by
  refine holds_attempt (holds_write ?_ ?_)
  · intro a w w' hages h ha
    exact kept_planned w w' hages (h ha)
  · rintro w a w' hw ⟨hplanned, hnew⟩ hrespond
    cases a with
    | error e =>
      cases hrespond
      exact ⟨hw, nofun⟩
    | ok _ =>
      cases hrespond
      have hknows := hplanned.knows
      refine ⟨⟨hw.distinct, hw.identities, hw.alive_visible, fun r hr => (hw.row r hr).congr rfl id le_rfl id,
        hw.claimed, hw.claims, List.nodup_cons.2 ⟨hnew, hw.captures_nodup⟩, ?_, hw.transitions, hw.refusals⟩,
        fun _ => ⟨⟨hknows.maximum, hknows.keys, ?_, hknows.settled⟩, hplanned.row⟩⟩
      · intro sequence h
        rcases List.mem_cons.1 h with rfl | h
        · obtain ⟨r, hr, heq, _⟩ := hplanned.row
          exact ⟨r, hr, heq⟩
        · exact hw.captures sequence h
      · intro c hc
        have hfollows := hknows.follows c hc
        exact ⟨hfollows.key, hfollows.row, hfollows.running, hfollows.names⟩

/-- The planned dwell is captured or fails. -/
theorem holds_planned_transition {target : DwellState} {error : Option String} {maximum : Nat}
    (htarget : target = .captured ∨ target = .failed) :
    Holds (Planned args record) (attempt (.ask (transition record.sequence .planned target error maximum))) fun _ =>
      Knows args [] := by
  let F := fun w : FocusedWorld => ∀ c ∈ w.children, c.1 ≠ record.sequence
  have hF : Kept F := by
    intro w w' hages h
    show ∀ c ∈ w'.children, _
    rw [hages.children]
    exact h
  refine Script.returns_weaken (holds_transition args [record.sequence] [] hF ?_ ?_) (fun _ _ h => h) ?_
  · intro other h
    exact .inl (List.mem_singleton.1 h)
  · intro w hw h
    obtain ⟨r, hr, heq, hplanned⟩ := h.row
    have hunfollowed := h.knows.unfollowed hw hr (by simp [hplanned])
    rw [heq] at hunfollowed
    refine ⟨h.knows, r, hr, heq, hplanned, ?_, hunfollowed⟩
    rcases htarget with rfl | rfl
    · exact ⟨.inl rfl, by simp [hplanned], fun _ => ⟨hplanned, args.attempts_pos.trans h.knows.maximum⟩, nofun, nofun⟩
    · exact ⟨.inr (.inr rfl), by simp [hplanned], nofun, nofun, fun _ => .inl hplanned⟩
  · rintro _ w _ ⟨hknows, hunfollowed⟩
    rwa [unfollow_eq hunfollowed] at hknows

theorem holds_wait_capture (hA : Kept A) (record : FocusedContinuousRecord) :
    Holds A (.ask (wait_capture record)) fun _ => A := by
  refine holds_quiet hA ?_
  intro w a w' hrespond
  cases hrespond
  exact Ages.refl w

theorem holds_write_failure_latch (reason : String) :
    Holds A (.ask (write_failure_latch reason)) fun _ _ => True := by
  refine holds_write (fun _ => kept_true) ?_
  intro w a w' hw _ hrespond
  cases hrespond
  exact ⟨⟨hw.distinct, hw.identities, hw.alive_visible, fun r hr => (hw.row r hr).congr rfl id le_rfl id,
    hw.claimed, hw.claims, hw.captures_nodup, hw.captures, hw.transitions, hw.refusals⟩, trivial⟩

/-- Without an exit status the supervisor goes on; the capture loop never exits with 0. -/
def GoesOn (args : FocusedArgs) (status : Option Nat) (w : FocusedWorld) : Prop :=
  match status with
  | none => Knows args [] w
  | some code => code ≠ 0

theorem goesOn_some {code : Nat} (h : code ≠ 0) : Holds A (pure (some code)) (GoesOn args) :=
  Script.returns_pure fun _ _ _ => h

theorem goesOn_none : Holds (Knows args []) (pure none) (GoesOn args) := Script.returns_pure fun _ _ h => h

theorem holds_captureDwell (args : FocusedArgs) : Holds (Knows args []) (captureDwell args) (GoesOn args) := by
  unfold captureDwell
  refine Script.returns_bind (holds_plan args) ?_
  intro record
  refine Script.returns_bind holds_start_capture ?_
  intro _
  refine Script.returns_bind (holds_wait_capture kept_planned record) ?_
  intro returncode
  have hclosed : Holds (Planned args record) (captureSucceeded record returncode) fun _ => Planned args record := by
    unfold captureSucceeded
    split
    · exact holds_capture_closed kept_planned record
    · exact Script.returns_pure fun _ _ h => h
  refine Script.returns_bind hclosed ?_
  intro closed
  split
  · refine Script.returns_bind (holds_planned_transition (.inl rfl)) ?_
    intro _
    refine Script.returns_bind (Script.returns_weaken (holds_get kept_knows record.sequence) (fun _ _ h => h)
      fun _ _ _ h => h.1) ?_
    intro captured
    split
    · exact Script.returns_raise
    · refine Script.returns_bind (holds_dispatch_captured_available args) ?_
      intro _
      exact goesOn_none
  · refine Script.returns_bind (holds_planned_transition (.inr rfl)) ?_
    intro _
    refine Script.returns_bind (holds_write_failure_latch _) ?_
    intro _
    exact goesOn_some (by decide)

theorem holds_block (B : FocusedWorld → Prop) (hB : Kept B) : Holds A (.ask block) fun _ => B := by
  refine holds_write (fun _ => hB) ?_
  intro w a w' _ _ hrespond
  cases hrespond

theorem holds_flag (hA : Kept A) (q : SupervisorAct) (h : ∀ (w : FocusedWorld) a w', w.respond q a = some w' → w' = w) :
    Holds A (.ask q) fun _ => A := by
  refine holds_quiet hA ?_
  intro w a w' hrespond
  rw [h w a w' hrespond]
  exact Ages.refl w

theorem respond_stopping (w : FocusedWorld) (a : Bool) (w' : FocusedWorld) (h : w.respond .stopping a = some w') :
    w' = w := by
  cases h
  rfl

theorem respond_has_capacity (w : FocusedWorld) (a : Bool) (w' : FocusedWorld)
    (h : w.respond .has_capacity a = some w') : w' = w := by
  cases h
  rfl

theorem holds_captureLoop (args : FocusedArgs) (fuel completed_capture_count : Nat) :
    Holds (Knows args []) (captureLoop args fuel completed_capture_count) (GoesOn args) := by
  induction fuel generalizing completed_capture_count with
  | zero =>
    refine Script.returns_bind (holds_block (Knows args []) kept_knows) ?_
    intro _
    exact goesOn_none
  | succ fuel ih =>
    refine Script.returns_bind (holds_flag kept_knows stopping respond_stopping) ?_
    intro stopping
    split
    · exact goesOn_none
    split
    · exact goesOn_none
    refine Script.returns_bind (holds_reap args) ?_
    intro _
    refine Script.returns_bind (holds_dispatch_captured_available args) ?_
    intro _
    refine Script.returns_bind (holds_flag kept_knows SupervisorAct.stopping respond_stopping) ?_
    intro stopping
    split
    · exact goesOn_none
    refine Script.returns_bind (holds_flag kept_knows has_capacity respond_has_capacity) ?_
    intro has_capacity
    split
    · refine Script.returns_bind (holds_captureDwell args) ?_
      intro status
      split
      · exact Script.returns_pure fun _ _ h => h
      · exact ih _
    · refine Script.returns_bind (holds_write_failure_latch _) ?_
      intro _
      exact goesOn_some (by decide)

/-- Every dwell is complete or failed. -/
def Closed (w : FocusedWorld) : Prop := ∀ r ∈ w.journal, r.state = .complete ∨ r.state = .failed

theorem kept_closed : Kept Closed := by
  intro w w' hages h
  unfold Closed
  rw [hages.journal]
  exact h

theorem Knows.closed (h : Knows args [] w) (hchildren : w.children = [])
    (hcaptured : (w.journal.incomplete.filter fun r => r.state = .captured) = []) : Closed w := by
  intro r hr
  by_contra hopen
  rw [not_or] at hopen
  rcases h.settled r hr hopen with hstate | ⟨_, hkey⟩ | hmem
  · have hmem : r ∈ w.journal.incomplete.filter fun r => r.state = .captured := by
      simp [FocusedJournal.incomplete, hr, hstate, FocusedContinuousRecord.Incomplete]
    rw [hcaptured] at hmem
    cases hmem
  · rw [hchildren] at hkey
    cases hkey
  · cases hmem

theorem holds_drainLoop (args : FocusedArgs) (fuel : Nat) :
    Holds (Knows args []) (drainLoop args fuel) fun status w => status = 0 → Closed w := by
  induction fuel with
  | zero =>
    refine Script.returns_bind (holds_block _ kept_closed) ?_
    intro _
    exact Script.returns_pure fun _ _ h _ => h
  | succ fuel ih =>
    refine Script.returns_bind (holds_children kept_knows) ?_
    intro children
    have hkept : Kept fun w => Knows args [] w ∧ children = w.children := by
      refine kept_knows.and ?_
      intro w w' hages h
      rw [hages.children]
      exact h
    refine Script.returns_bind (holds_captured_work hkept) ?_
    intro captured
    split
    · rename_i hempty
      refine Script.returns_pure ?_
      rintro w _ ⟨⟨hknows, hchildren⟩, hcaptured⟩ _
      exact hknows.closed (hchildren.symm.trans hempty.1) (hcaptured.symm.trans hempty.2)
    · refine Script.returns_weaken (Script.returns_bind (holds_reap args) ?_) (fun _ _ h => h.1.1) fun _ _ _ h => h
      intro _
      exact Script.returns_bind (holds_dispatch_captured_available args) fun _ => ih

theorem holds_supervise (args : FocusedArgs) (fuel : Nat) :
    Holds (Fresh args) (supervise args fuel) fun status w => status = 0 → Closed w := by
  refine Script.returns_bind (holds_recover args) ?_
  intro ok
  split
  · refine Script.returns_weaken (Script.returns_bind (holds_next_sequence kept_knows) ?_) (fun _ _ h => h ‹_›)
      fun _ _ _ h => h
    intro completed_capture_count
    refine Script.returns_weaken (Script.returns_bind (holds_captureLoop args fuel _) ?_) (fun _ _ h => h.1)
      fun _ _ _ h => h
    intro status
    split
    · exact Script.returns_pure fun _ _ h hzero => absurd hzero h
    · exact holds_drainLoop args fuel
  · refine Script.returns_bind (holds_write_failure_latch _) ?_
    intro _
    exact Script.returns_pure fun _ _ _ => nofun

/-! ## `main` -/

theorem holds_recoveredWait (hA : Kept A) (child : AnalysisChild) (timeout : Bool) (fuel : Nat) :
    Holds A (recoveredWait child timeout fuel) fun _ => A := by
  induction fuel with
  | zero =>
    refine Script.returns_bind (holds_block A hA) ?_
    intro _
    exact Script.returns_pure fun _ _ h => h
  | succ fuel ih =>
    refine Script.returns_bind (Script.returns_weaken (holds_pollChild hA child) (fun _ _ h => h)
      fun _ _ _ h => h.1) ?_
    intro result
    split
    · exact Script.returns_pure fun _ _ h => h
    · refine Script.returns_bind (holds_flag hA deadline_passed ?_) ?_
      · intro w a w' h
        cases h
        rfl
      intro passed
      split
      · exact Script.returns_pure fun _ _ h => h
      · exact ih

theorem holds_waitChild (hA : Kept A) (fuel : Nat) (child : AnalysisChild) (timeout : Bool) :
    Holds A (waitChild fuel child timeout) fun _ => A := by
  unfold waitChild
  split
  · exact holds_recoveredWait hA child timeout fuel
  · exact holds_wait hA child.identity timeout

theorem holds_kill (hA : Kept A) (identity : ProcessIdentity) :
    Holds A (attempt (.ask (kill identity))) fun _ => A := by
  refine holds_attempt (Script.returns_weaken (holds_quiet hA ?_) (fun _ _ h => h) fun _ _ _ h _ => h)
  intro w a w' hrespond
  cases hrespond
  exact Ages.refl w

/-- The `finally` of `main` changes nothing that is written down. -/
theorem holds_shutdown (hA : Kept A) (fuel : Nat) : Holds A (shutdown fuel) fun _ => A := by
  refine Script.returns_bind (Script.returns_weaken (holds_children hA) (fun _ _ h => h) fun _ _ _ h => h.1) ?_
  intro children
  refine Script.returns_bind (Script.returns_forEach (I := fun _ => A) ?_ children) ?_
  · intro entry _
    refine Script.returns_bind (Script.returns_weaken (holds_pollChild hA entry.2) (fun _ _ h => h)
      fun _ _ _ h => h.1) ?_
    intro result
    split
    · exact Script.returns_pure fun _ _ h => h
    · exact holds_terminate hA entry.2.identity
  · intro _
    refine Script.returns_forEach (I := fun _ => A) ?_ children
    intro entry _
    refine Script.returns_bind (holds_waitChild hA fuel entry.2 true) ?_
    intro result
    split
    · exact Script.returns_pure fun _ _ h => h
    · refine Script.returns_bind (holds_kill hA entry.2.identity) ?_
      intro _
      refine Script.returns_bind (holds_waitChild hA fuel entry.2 false) ?_
      intro _
      exact Script.returns_pure fun _ _ h => h

/-- `main` exits with 0 after every dwell is closed. -/
theorem holds_main (args : FocusedArgs) (fuel : Nat) :
    Holds (Fresh args) (main args fuel) fun status w => status = 0 → Closed w := by
  refine Script.returns_bind (holds_flag kept_fresh latched ?_) ?_
  · intro w a w' h
    simp only [respond] at h
    split at h
    · cases h
      rfl
    · cases h
  intro latched
  split
  · exact Script.returns_pure fun _ _ _ h => by cases h
  · exact Script.returns_ensure (holds_supervise args fuel) (fun _ => holds_shutdown (kept_imp kept_closed) fuel)
      (holds_shutdown kept_true fuel)

/-! ## Every interleaving -/

theorem sound : Setting.Sound setting contract fun _ => Script.Returns fun status w => status = 0 → Closed w where
  enter := by
    intro _ op w w' hw h
    cases h
    have hinv : FocusedWorld.Inv { gone w with
        maximum_analysis_attempts := max w.maximum_analysis_attempts op.1.maximum_analysis_attempts } :=
      ⟨hw.distinct, hw.identities, hw.alive_visible, fun r hr => (hw.row r hr).congr rfl id (le_max_left _ _) id,
        hw.claimed, hw.claims, hw.captures_nodup, hw.captures, hw.transitions, hw.refusals⟩
    exact ⟨allows hinv, Fresh op.1, kept_fresh.stable, ⟨le_max_right _ _, rfl⟩, holds_main op.1 op.2⟩
  leave := by
    intro _ _ w hw _
    exact allows ⟨hw.distinct, hw.identities, hw.alive_visible, fun r hr => (hw.row r hr).congr rfl id le_rfl id,
      hw.claimed, hw.claims, hw.captures_nodup, hw.captures, hw.transitions, hw.refusals⟩
  die := by
    intro _ w hw
    exact allows ⟨hw.distinct, hw.identities, hw.alive_visible, fun r hr => (hw.row r hr).congr rfl id le_rfl id,
      hw.claimed, hw.claims, hw.captures_nodup, hw.captures, hw.transitions, hw.refusals⟩
  move := by
    intro e w w' hw h
    have hbeside := beside_of_move h
    exact ⟨hbeside.ages.inv hw, fun _ => hbeside⟩

theorem inv_initial (completion : Nat → CompletionState) : (initial completion).Inv :=
  ⟨List.nodup_nil, List.nodup_nil, nofun, nofun, nofun, nofun, List.nodup_nil, nofun, nofun, nofun⟩

theorem running_of_reachable {st : SupervisorState}
    (h : machine.Reachable st) :
    Setting.Running setting contract (fun _ => Script.Returns fun status w => status = 0 → Closed w) st := by
  refine Setting.running_of_reachable sound ?_ h
  rintro w ⟨completion, rfl⟩
  exact inv_initial completion

def zeroDigest : Digest := Sample.zeros

def oneDigest : Digest := Sample.ones

def plannedDwell : FocusedContinuousRecord where
  sequence := 0
  monitor_id := str "focused_loop_00000000_1"
  requested_start_utc_ns := 1
  definition_digest := zeroDigest
  state_root := str "/state/focused_loop_00000000_1"
  batch_id := str "cbatch_focused_loop_00000000_1_u000"
  state := .planned
  error := none
  analysis_pid := none
  analysis_process_start_ticks := none
  analysis_command_digest := none
  analysis_attempt_count := 0

def capturedDwell : FocusedContinuousRecord := plannedDwell.moveTo .captured none

def runningDwell : FocusedContinuousRecord := capturedDwell.claimed 100 7 zeroDigest

def conflictingDwell : FocusedContinuousRecord :=
  runningDwell.moveTo .failed (some "analysis-process-identity-conflict")

/-- One attempt for each dwell; the next release has another command. -/
def oneAttempt (command : Digest) (prior_releases : List (Nat × (FocusedContinuousRecord → Digest)))
    (h : (prior_releases.map Prod.fst).Nodup) : FocusedArgs where
  maximum_in_flight_analyses := 1
  maximum_analysis_attempts := 1
  maximum_dwells := 1
  analysis_command _ := command
  prior_releases := prior_releases
  attempts_pos := by decide
  releases_nodup := h

def firstRelease : FocusedArgs := oneAttempt zeroDigest [] (by decide)

def nextRelease : FocusedArgs := oneAttempt oneDigest [] (by decide)

def allowingRelease : FocusedArgs := oneAttempt oneDigest [(0, fun _ => zeroDigest)] (by decide)

/-- What a supervisor is told while these rows are in the journal. -/
def answers (rows : List FocusedContinuousRecord) (completion : CompletionState) (identity : ProcessIdentity)
    (statement : Except PyError Unit) : (q : SupervisorAct) → q.Answer
  | .block | .write_failure_latch _ | .set_child _ | .delete_child _ => ()
  | .latched | .stopping | .deadline_passed => false
  | .has_capacity | .capture_closed _ => true
  | .next_sequence => rows.length
  | .incomplete => FocusedJournal.incomplete rows
  | .get _ => rows.head?
  | .build_record _ => .ok plannedDwell
  | .transition .. => statement
  | .insert_planned _ | .claim_analysis_process .. | .abandon_exact_analysis_process .. | .start_capture _ |
    .set_analysis_nice _ | .terminate _ | .kill _ => .ok ()
  | .wait_capture _ => 0
  | .completion_state _ => completion
  | .popen _ => .ok identity
  | .pid_start_ticks pid => if pid = identity.pid then some identity.start_ticks else none
  | .poll _ | .wait .. => none
  | .children => []

abbrev SupervisorLabel := Setting.Label Unit (FocusedArgs × Nat) SupervisorMove SupervisorAct SupervisorAct.Answer

/-- Steps with the same answers. -/
def steps (n : Nat) (rows : List FocusedContinuousRecord) (completion : CompletionState) (identity : ProcessIdentity) :
    List SupervisorLabel :=
  List.replicate n (.step () (answers rows completion identity (.ok ())))

/-- A supervisor captures a dwell and goes on for `n` steps. -/
def captured (n : Nat) : List SupervisorLabel :=
  .start () (firstRelease, 2) :: steps 18 [] .absent ⟨100, 7⟩ ++ steps n [capturedDwell] .absent ⟨100, 7⟩ ++ [.kill ()]

/-- Killed after `Popen`; the next supervisor finds the dwell captured. -/
def killedBeforeClaim : List SupervisorLabel :=
  captured 4 ++ .start () (firstRelease, 2) :: steps 6 [capturedDwell] .absent ⟨101, 9⟩

/-- Killed after the capture; the receipt is malformed. -/
def malformedReceipt : List SupervisorLabel :=
  captured 0 ++ .move (.completion 0 .invalid) :: .start () (firstRelease, 2) ::
    steps 4 [capturedDwell] .invalid ⟨101, 9⟩

/-- Killed after the claim; the child ends, and recovery gives its attempt up. -/
def diedUnwatched : List SupervisorLabel :=
  captured 7 ++ .move (.ends ⟨100, 7⟩ 1) :: .move (.vanish ⟨100, 7⟩) :: .start () (firstRelease, 2) ::
    steps 5 [runningDwell] .absent ⟨101, 9⟩ ++ steps 6 [runningDwell.abandoned] .absent ⟨101, 9⟩

/-- A failed dwell of a prior release is allowed again, with a malformed receipt. -/
def allowedAgain : List SupervisorLabel :=
  captured 7 ++ .start () (nextRelease, 2) :: steps 4 [runningDwell] .absent ⟨101, 9⟩ ++
    .kill () :: .move (.completion 0 .invalid) :: .start () (allowingRelease, 2) ::
      steps 4 [conflictingDwell] .invalid ⟨101, 9⟩ ++
    [.step () (answers [conflictingDwell] .invalid ⟨101, 9⟩
      (.error (.value "focused journal transitions must change state")))]

theorem reachable_of_run {α : Type} (labels : List SupervisorLabel) (f : FocusedWorld → α) (a : α)
    (h : ((machine.run ⟨initial fun _ => .absent, fun _ => none⟩ labels).map fun st => f st.world) = some a) :
    ∃ st, machine.Reachable st ∧ f st.world = a := by
  obtain ⟨st, hst, hf⟩ := Option.map_eq_some_iff.1 h
  exact ⟨st, machine.run_reachable (.init ⟨⟨_, rfl⟩, rfl⟩) hst, hf⟩

end FocusedSupervisor

end LeoFlow
