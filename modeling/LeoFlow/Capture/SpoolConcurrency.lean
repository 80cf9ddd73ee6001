import LeoFlow.Core.Machine
import LeoFlow.Capture.Spool
import LeoFlow.Contracts.Samples

/-!
# LeoFlow.Capture.SpoolConcurrency — processes on one spool database

Any number of processes call the spool's methods, and their SQL statements
interleave. A `SELECT` reads the committed table. A write waits until no other
transaction holds the write lock, and is visible to others when it commits. A
process may raise or crash at any point, which rolls its transaction back.

`transitions_committed_iff` says when a normal return of `record_complete` or
`acknowledge` means that the entry holds what the call was given: the methods do
not look at the row count of their `UPDATE`.
-/

namespace LeoFlow

namespace SpoolConcurrency

/-- The process that holds the write lock: the committed call, its statement, and the
table and row count after the statement. -/
structure Writer where
  proc : Nat
  call : SpoolCall
  stmt : Statement
  rows : SpoolTable
  rowcount : Nat

/-- Where a process stands. -/
inductive Phase where
  | idle
  /-- the checks and the `SELECT` are done, the write is next -/
  | ready (c : SpoolCall)
  /-- inside the transaction -/
  | writing
  | returned (c : SpoolCall)
  | raised (e : PyError)

structure State where
  /-- the committed table -/
  rows : SpoolTable
  writer : Option Writer
  phase : Nat → Phase

inductive Label where
  /-- the method is called, up to and including its `SELECT` -/
  | call (p : Nat) (c : SpoolCall)
  /-- the `UPDATE` or `INSERT`, at one clock reading -/
  | write (p : Nat) (now : Int)
  /-- the checks of the row count, and commit or rollback -/
  | finish (p : Nat)
  /-- an error of SQLite or of the clock, or a crash -/
  | abort (p : Nat) (e : PyError)

/-- `p` goes to a phase. -/
def State.goto (s : State) (p : Nat) (phase : Phase) : State :=
  { s with phase := Function.update s.phase p phase }

/-- A call, after `prepare` returned `stmt`. -/
def State.selected (s : State) (p : Nat) (c : SpoolCall) (stmt : Statement) : State :=
  match stmt.select s.rows with
  | .proceed => s.goto p (.ready c)
  | .returned => s.goto p (.returned c)
  | .raised e => s.goto p (.raised e)

/-- A call from its first line, or its next attempt. -/
def State.started (root : PyStr) (s : State) (p : Nat) (c : SpoolCall) : State :=
  match c.prepare root with
  | .error e => s.goto p (.raised e)
  | .ok stmt => s.selected p c stmt

/-- One step; `root` is `recording_root`. -/
def step (root : PyStr) (s : State) : Label → Option State
  | .call p c =>
    match s.phase p with
    | .ready _ | .writing => none
    | _ => some (s.started root p c.bounded)
  | .write p now =>
    match s.phase p, s.writer with
    | .ready c, none =>
      match c.prepare root with
      | .error _ => none
      | .ok stmt =>
        match stmt.run now s.rows with
        | none => some (s.started root p c.retry)
        | some (rows, rowcount) =>
          some { s.goto p .writing with writer := some ⟨p, c, stmt, rows, rowcount⟩ }
    | _, _ => none
  | .finish p =>
    match s.writer with
    | none => none
    | some w =>
      if w.proc ≠ p then none
      else
        match w.stmt.verdict w.rows w.rowcount with
        | .error e => some { s.goto p (.raised e) with writer := none }
        | .ok () => some { s.goto p (.returned w.call) with rows := w.rows, writer := none }
  | .abort p e =>
    some { s.goto p (.raised e) with
      writer := s.writer.filter fun w => decide (w.proc ≠ p) }

def machine (root : PyStr) : Machine State Label where
  Init s := s.writer = none ∧ ∀ p, s.phase p = .idle
  step := step root

/-- A database at rest. -/
def initial (rows : SpoolTable) : State := ⟨rows, none, fun _ => .idle⟩

/-! ## What a normal return promises -/

/-- The entry holds what the call was given. -/
def Stored (t : SpoolTable) : SpoolCall → Prop
  | .record_complete recording =>
    ∃ payload row, Serialization.encodeCompleted recording = .ok payload ∧
      t.lookup recording.val.recording_id.value = some row ∧ row.Durable ∧ row.payload = some payload
  | .acknowledge recording published idempotency_key =>
    ∃ identity row, RecordingObjectRef.identity_digest published.recording_object = .ok identity ∧
      t.lookup recording.val.recording_id.value = some row ∧ row.Acknowledged ∧
      row.published_identity_digest = some identity.toStr ∧ row.idempotency_key = some idempotency_key
  | _ => True

/-- Every call that returned last in its process finds its data in the spool. -/
def Returned (s : State) : Prop := ∀ p c, s.phase p = .returned c → Stored s.rows c

/-- Rows only move along `allocated → complete → acknowledged → cleaned` or
`allocated → failed`. -/
def Legal (root : PyStr) (s : State) (a : Label) : Prop :=
  ∀ t, (machine root).step s a = some t → s.rows.Moves t.rows

/-- The entry is in the state that the `UPDATE` of the call asks for. -/
def Expected (t : SpoolTable) : SpoolCall → Prop
  | .record_complete recording =>
    ∃ row, t.lookup recording.val.recording_id.value = some row ∧ row.state = .allocated
  | .acknowledge recording _ _ =>
    ∃ row, t.lookup recording.val.recording_id.value = some row ∧ row.state = .complete
  | _ => True

/-- No other call has moved the entry since the `SELECT` of the call that now commits,
unless that other call stored the same data. -/
def Guard (s : State) : Label → Prop
  | .finish p => ∀ w, s.writer = some w → w.proc = p → Expected s.rows w.call ∨ Stored s.rows w.call
  | _ => True

/-! ## Stability -/

theorem durable_of_moves {row row' : SpoolRow} (h : row.Moves row') (hrow : row.Durable) :
    row'.Durable ∧ row'.payload = row.payload := by
  have hstate : ∀ {s s' : SpoolState}, s.Moves s' → (s = .complete ∨ s = .acknowledged ∨ s = .cleaned) →
      (s' = .complete ∨ s' = .acknowledged ∨ s' = .cleaned) ∧ s ≠ .allocated := by
    intro s s' hmove hs
    cases hmove <;> simp_all
    rcases hs with rfl | rfl | rfl <;> decide
  rcases hstate h.state hrow with ⟨hdurable, hne⟩
  exact ⟨hdurable, h.payload hne⟩

theorem acknowledged_of_moves {row row' : SpoolRow} (h : row.Moves row') (hrow : row.Acknowledged) :
    row'.Acknowledged ∧ row'.published_identity_digest = row.published_identity_digest ∧
      row'.idempotency_key = row.idempotency_key := by
  have hstate : ∀ {s s' : SpoolState}, s.Moves s' → (s = .acknowledged ∨ s = .cleaned) →
      (s' = .acknowledged ∨ s' = .cleaned) := by
    intro s s' hmove hs
    cases hmove <;> simp_all
  exact ⟨hstate h.state hrow, h.published hrow⟩

variable {t : SpoolTable} {c : SpoolCall}

/-- What is stored stays stored. -/
theorem stored_of_moves {t' : SpoolTable} (h : t.Moves t') (hstored : Stored t c) :
    Stored t' c := by
  cases c with
  | record_complete recording =>
    rcases hstored with ⟨payload, row, hencode, hrow, hdurable, hpayload⟩
    rcases h.row _ row hrow with ⟨row', hrow', hmove⟩
    rcases durable_of_moves hmove hdurable with ⟨hdurable', hpayload'⟩
    exact ⟨payload, row', hencode, hrow', hdurable', hpayload'.trans hpayload⟩
  | acknowledge recording published idempotency_key =>
    rcases hstored with ⟨identity, row, hidentity, hrow, hack, hpublished, hkey⟩
    rcases h.row _ row hrow with ⟨row', hrow', hmove⟩
    rcases acknowledged_of_moves hmove hack with ⟨hack', hpublished', hkey'⟩
    exact ⟨identity, row', hidentity, hrow', hack', hpublished'.trans hpublished, hkey'.trans hkey⟩
  | _ => trivial

/-! ## One method -/

variable {root : PyStr}

/-- A return straight after the `SELECT` is right. -/
theorem stored_of_select {stmt : Statement} (hprepare : c.prepare root = .ok stmt)
    (hselect : stmt.select t = .returned) : Stored t c := by
  cases c with
  | record_complete recording =>
    rcases SpoolCall.prepare_record_complete hprepare with ⟨payload, hencode, rfl⟩
    simp only [Statement.select] at hselect
    split at hselect
    · cases hselect
    rename_i row hrow
    split at hselect
    · rename_i hsame
      exact ⟨payload, row, hencode, hrow, Or.inl hsame.1, hsame.2⟩
    · split at hselect
      · cases hselect
      · split at hselect <;> cases hselect
  | acknowledge recording published idempotency_key =>
    rcases SpoolCall.prepare_acknowledge hprepare with ⟨identity, hidentity, rfl⟩
    simp only [Statement.select] at hselect
    split at hselect
    · cases hselect
    rename_i row hrow
    split at hselect
    · rename_i hack
      split at hselect
      · cases hselect
      · rename_i hsame
        rw [not_or, not_not, not_not] at hsame
        exact ⟨identity, row, hidentity, hrow, hack, hsame.1, hsame.2⟩
    · split at hselect <;> cases hselect
  | _ => trivial

/-- The `UPDATE` stores the data of its call, unless the entry is not in the state it
asks for: then it changes nothing, and only what another call stored is there. -/
theorem stored_of_run {stmt : Statement} {now : Int} {t' : SpoolTable} {n : Nat}
    (hprepare : c.prepare root = .ok stmt) (hrun : stmt.run now t = some (t', n)) :
    Stored t' c ↔ Expected t c ∨ Stored t c := by
  cases c with
  | record_complete recording =>
    rcases SpoolCall.prepare_record_complete hprepare with ⟨payload, hencode, rfl⟩
    have ht : _ = t' := congrArg Prod.fst (Option.some.inj hrun)
    rw [← ht]
    rcases t.updateWhere_cases recording.val.recording_id.value .allocated fun row =>
      { row with state := .complete, payload := some payload, last_error := none, updated_utc_ns := now }
      with ⟨hnone, hstate⟩ | ⟨row, hrow, hstate, hset⟩
    · rw [hnone]
      have hnot : ¬Expected t (.record_complete recording) := by
        rintro ⟨row, hrow, hallocated⟩
        exact hstate row hrow hallocated
      exact (or_iff_right hnot).symm
    · rw [hset]
      refine iff_of_true ?_ (Or.inl ⟨row, hrow, hstate⟩)
      exact ⟨payload, _, hencode, AList.lookup_insert _, Or.inl rfl, rfl⟩
  | acknowledge recording published idempotency_key =>
    rcases SpoolCall.prepare_acknowledge hprepare with ⟨identity, hidentity, rfl⟩
    have ht : _ = t' := congrArg Prod.fst (Option.some.inj hrun)
    rw [← ht]
    rcases t.updateWhere_cases recording.val.recording_id.value .complete fun row =>
      { row with
        state := .acknowledged, published_identity_digest := some identity.toStr,
        idempotency_key := some idempotency_key, last_error := none, updated_utc_ns := now }
      with ⟨hnone, hstate⟩ | ⟨row, hrow, hstate, hset⟩
    · rw [hnone]
      have hnot : ¬Expected t (.acknowledge recording published idempotency_key) := by
        rintro ⟨row, hrow, hcomplete⟩
        exact hstate row hrow hcomplete
      exact (or_iff_right hnot).symm
    · rw [hset]
      refine iff_of_true ?_ (Or.inl ⟨row, hrow, hstate⟩)
      exact ⟨identity, _, hidentity, AList.lookup_insert _, Or.inl rfl, rfl, rfl⟩
  | _ => exact iff_of_true trivial (Or.inl trivial)

/-! ## One step -/

/-- The open transaction is a statement run on the committed table. -/
def Inv (root : PyStr) (s : State) : Prop :=
  ∀ w, s.writer = some w → w.call.prepare root = .ok w.stmt ∧
    ∃ now, w.stmt.run now s.rows = some (w.rows, w.rowcount)

/-- What a step does to the table, the lock and the returned calls. -/
inductive Effect (root : PyStr) (s : State) : Label → State → Prop where
  /-- a method returns or raises without a write, or goes on to it -/
  | started (p : Nat) (c : SpoolCall) (a : Label) (ha : ∀ q, a ≠ .finish q) :
    Effect root s a (s.started root p c)
  | write (p : Nat) (now : Int) (c : SpoolCall) (stmt : Statement) (rows : SpoolTable) (rowcount : Nat)
    (hprepare : c.prepare root = .ok stmt) (hrun : stmt.run now s.rows = some (rows, rowcount)) :
    Effect root s (.write p now) { s.goto p .writing with writer := some ⟨p, c, stmt, rows, rowcount⟩ }
  | rollback (p : Nat) (e : PyError) (a : Label) (writer : Option Writer)
    (hwriter : ∀ w ∈ writer, s.writer = some w)
    (ha : ∀ q, a = .finish q → ∃ w, s.writer = some w ∧ w.proc = q ∧ w.stmt.verdict w.rows w.rowcount = .error e) :
    Effect root s a { s.goto p (.raised e) with writer }
  | commit (p : Nat) (w : Writer) (hwriter : s.writer = some w) (hp : w.proc = p) :
    Effect root s (.finish p) { s.goto p (.returned w.call) with rows := w.rows, writer := none }

variable {s : State}

theorem step_effect {t : State} {a : Label} (h : step root s a = some t) :
    Effect root s a t := by
  cases a with
  | call p c =>
    simp only [step] at h
    split at h
    · cases h
    · cases h
    · cases h
      exact .started p _ _ fun q hq => by cases hq
  | write p now =>
    simp only [step] at h
    split at h
    · rename_i c hphase hwriter
      split at h
      · cases h
      rename_i stmt hprepare
      split at h
      · cases h
        exact .started p _ _ fun q hq => by cases hq
      · rename_i rows rowcount hrun
        cases h
        exact .write p now c stmt rows rowcount hprepare hrun
    · cases h
  | finish p =>
    simp only [step] at h
    split at h
    · cases h
    rename_i w hwriter
    split at h
    · cases h
    rename_i hp
    have hp : w.proc = p := not_not.1 hp
    split at h
    · rename_i e hverdict
      cases h
      refine .rollback p e _ none (fun w hw => by cases hw) ?_
      intro q hq
      cases hq
      exact ⟨w, hwriter, hp, hverdict⟩
    · cases h
      exact .commit p w hwriter hp
  | abort p e =>
    simp only [step] at h
    cases h
    refine .rollback p e _ _ ?_ fun q hq => by cases hq
    intro w hw
    exact (Option.mem_filter_iff.1 hw).1

/-- `started` changes one phase only. -/
theorem started_rows (root : PyStr) (s : State) (p : Nat) (c : SpoolCall) :
    (s.started root p c).rows = s.rows ∧ (s.started root p c).writer = s.writer := by
  unfold State.started
  split
  · exact ⟨rfl, rfl⟩
  · unfold State.selected
    split <;> exact ⟨rfl, rfl⟩

theorem inv_of_same {t : State} (hs : Inv root s) (hrows : t.rows = s.rows)
    (hwriter : ∀ w, t.writer = some w → s.writer = some w) : Inv root t := by
  intro w hw
  rw [hrows]
  exact hs w (hwriter w hw)

theorem inv_step {t : State} {a : Label} (hs : Inv root s) (h : step root s a = some t) : Inv root t := by
  rcases step_effect h with ⟨p, c, _, _⟩ | ⟨p, now, c, stmt, rows, rowcount, hprepare, hrun⟩ |
    ⟨p, e, _, writer, hwriter, _⟩ | ⟨p, w, _, _⟩
  · rcases started_rows root s p c with ⟨hrows, hwriter⟩
    exact inv_of_same hs hrows fun w hw => hwriter ▸ hw
  · intro w hw
    cases hw
    exact ⟨hprepare, now, hrun⟩
  · exact inv_of_same hs rfl fun w hw => hwriter w hw
  · intro w' hw'
    cases hw'

/-- Rows change only by a commit, and then as one statement changes them. -/
theorem step_legal {a : Label} (hs : Inv root s) : Legal root s a := by
  intro t h
  rcases step_effect h with ⟨p, c, _, _⟩ | _ | _ | ⟨p, w, hwriter, _⟩
  · rw [(started_rows root s p c).1]
    exact s.rows.moves_refl
  · exact s.rows.moves_refl
  · exact s.rows.moves_refl
  · rcases hs w hwriter with ⟨_, now, hrun⟩
    exact Statement.run_moves hrun

/-- A process that a step sends to `phase` keeps `Returned` exactly if the phase allows it. -/
theorem returned_goto {p : Nat} {phase : Phase} (hs : Returned s)
    (hphase : ∀ c, phase = .returned c → Stored s.rows c) : Returned (s.goto p phase) := by
  intro q c hq
  by_cases hqp : q = p
  · subst hqp
    simp only [State.goto, Function.update_self] at hq
    exact hphase c hq
  · simp only [State.goto, Function.update_of_ne hqp] at hq
    exact hs q c hq

/-- A method that returns or raises without a write. -/
theorem returned_started (hs : Returned s) (p : Nat) (c : SpoolCall) :
    Returned (s.started root p c) := by
  unfold State.started
  split
  · exact returned_goto hs fun c' hc' => by cases hc'
  · rename_i stmt hprepare
    unfold State.selected
    split
    · exact returned_goto hs fun c' hc' => by cases hc'
    · rename_i hselect
      refine returned_goto hs fun c' hc' => ?_
      cases hc'
      exact stored_of_select hprepare hselect
    · exact returned_goto hs fun c' hc' => by cases hc'

/-- Only methods whose return promises nothing check their row count. -/
theorem expected_of_verdict {stmt : Statement} {t' : SpoolTable} {n : Nat} {e : PyError}
    (hprepare : c.prepare root = .ok stmt) (h : stmt.verdict t' n = .error e) :
    Expected t c := by
  cases c with
  | record_complete recording =>
    rcases SpoolCall.prepare_record_complete hprepare with ⟨payload, _, rfl⟩
    cases h
  | acknowledge recording published idempotency_key =>
    rcases SpoolCall.prepare_acknowledge hprepare with ⟨identity, _, rfl⟩
    cases h
  | _ => trivial

/-- A commit keeps `Returned` exactly when it meets the guard. -/
theorem returned_commit (hinv : Inv root s) (hs : Returned s) {w : Writer} (hwriter : s.writer = some w) :
    Returned { s.goto w.proc (.returned w.call) with rows := w.rows, writer := none } ↔
      Guard s (.finish w.proc) := by
  rcases hinv w hwriter with ⟨hprepare, now, hrun⟩
  have hstored := stored_of_run hprepare hrun
  constructor
  · intro ht w' hw' _
    rw [hwriter] at hw'
    cases hw'
    exact hstored.1 (ht w.proc w.call (Function.update_self ..))
  · intro hguard q c hq
    by_cases hqp : q = w.proc
    · subst hqp
      simp only [State.goto, Function.update_self] at hq
      cases hq
      exact hstored.2 (hguard w hwriter rfl)
    · simp only [State.goto, Function.update_of_ne hqp] at hq
      exact stored_of_moves (Statement.run_moves hrun) (hs q c hq)

/-- Every step keeps `Returned` exactly when it meets the guard. -/
theorem returned_step {t : State} {a : Label} (hinv : Inv root s) (hs : Returned s) (h : step root s a = some t) : Returned t ↔ Guard s a := by
  have hguard : ∀ a : Label, (∀ q, a ≠ .finish q) → Guard s a := by
    intro a ha
    cases a with
    | finish q => exact absurd rfl (ha q)
    | _ => trivial
  rcases step_effect h with ⟨p, c, _, ha⟩ | ⟨p, now, c, stmt, rows, rowcount, hprepare, hrun⟩ |
    ⟨p, e, _, writer, hwriter, ha⟩ | ⟨p, w, hwriter, hp⟩
  · exact iff_of_true (returned_started hs p c) (hguard a ha)
  · exact iff_of_true (returned_goto hs fun c' hc' => by cases hc') trivial
  · refine iff_of_true (returned_goto hs fun c' hc' => by cases hc') ?_
    cases a with
    | finish q =>
      rcases ha q rfl with ⟨w, hw, _, hverdict⟩
      intro w' hw' _
      rw [hw] at hw'
      cases hw'
      exact Or.inl (expected_of_verdict (hinv w hw).1 hverdict)
    | _ => trivial
  · subst hp
    exact returned_commit hinv hs hwriter

/-! ## Runs -/

theorem inv_initial (root : PyStr) (rows : SpoolTable) : Inv root (initial rows) := by
  intro w hw
  cases hw

theorem returned_initial (rows : SpoolTable) : Returned (initial rows) := by
  intro p c hp
  cases hp

/-- In every run rows only move along the state diagram, and every normal return means
that the entry holds the data of its call, exactly when the run meets the guard: no
entry is moved by another call between the `SELECT` of `record_complete` or
`acknowledge` and its `UPDATE`, except by one that stores the same data. -/
theorem transitions_committed_iff (root : PyStr) (rows : SpoolTable) (as : List Label) :
    ((machine root).AllSteps (Legal root) (initial rows) as ∧
      (machine root).AllStates Returned (initial rows) as) ↔
      (machine root).AllSteps Guard (initial rows) as := by
  have hkeep : ∀ s a t, Inv root s → (machine root).step s a = some t → Inv root t :=
    fun _ _ _ hs h => inv_step hs h
  have hlegal : (machine root).AllSteps (Legal root) (initial rows) as :=
    (machine root).allSteps_of_inv hkeep (fun _ _ hs => step_legal hs) (inv_initial root rows) as
  have hreturned : (machine root).AllStates Returned (initial rows) as ↔
      (machine root).AllSteps Guard (initial rows) as :=
    (machine root).allStates_iff_allSteps hkeep (fun _ _ _ hinv hs h => returned_step hinv hs h)
      (inv_initial root rows) (returned_initial rows) as
  rw [hreturned]
  exact and_iff_right hlegal

/-! ## A lost completion -/

/-- A manifest without segments. -/
def emptyManifest : RecordingManifest where
  val := {
    schema := ⟨str "org.leo-flow.recording-manifest", V0_1, isToken_recording_manifest⟩
    recording_id := Sample.rec_1
    created_utc_ns := 9
    capture_started_utc_ns := 10
    capture_finished_utc_ns := 12
    station_id := Sample.station_1
    radio_id := Sample.radio_1
    radio_serial := str "1"
    receiver_chain_ids := [Sample.rx_1]
    clock_status := str "locked"
    hardware_metadata_snapshot_id := Sample.hw_1
    activities := []
    segments := []
    plan_id := Sample.plan_1
    producer := str "leo-flow" }
  ok := by decide +kernel

theorem emptyData_ok : LocalObjectRef.Fields.post_init
    ⟨str "rec_1.sigmf-data", Digest.sha256 (List.replicate 16 0), 16⟩ = .ok () := by decide

theorem emptyMetadata_ok : LocalObjectRef.Fields.post_init
    ⟨str "rec_1.sigmf-meta", Digest.sha256 [123, 125], 2⟩ = .ok () := by decide

/-- A completed recording of 16 zero bytes, with `{}` as its metadata. -/
def emptyRecording : CompletedLocalRecording where
  val := {
    recording_id := emptyManifest.val.recording_id
    data_object := ⟨⟨str "rec_1.sigmf-data", Digest.sha256 (List.replicate 16 0), 16⟩, emptyData_ok⟩
    metadata_object := ⟨⟨str "rec_1.sigmf-meta", Digest.sha256 [123, 125], 2⟩, emptyMetadata_ok⟩
    manifest := emptyManifest
    manifest_digest := ⟨str "6e946a33e4545d3b7e318bbf8477aa4fe5a164373cc441c51d533b5c358aff61",
      by decide +kernel, by decide +kernel⟩ }
  ok := by decide +kernel

/-- Process 1 fails the allocation between the `SELECT` and the `UPDATE` of process 0. -/
def overtaken : List Label :=
  [.call 0 (.allocate emptyManifest.val.plan_id [emptyManifest.val.recording_id]), .write 0 10, .finish 0,
    .call 0 (.record_complete emptyRecording),
    .call 1 (.record_failure emptyManifest.val.recording_id (str "interrupted")), .write 1 20, .finish 1,
    .write 0 30, .finish 0]

theorem record_complete_overtaken :
    ∃ s recording, (machine (str "/spool")).run (initial ∅) overtaken = some s ∧
      s.phase 0 = .returned (.record_complete recording) ∧
      ¬Stored s.rows (.record_complete recording) := by
  have hrun : ((machine (str "/spool")).run (initial ∅) overtaken).any (fun s =>
      (match s.phase 0 with
        | .returned (.record_complete recording) => decide (recording.val.recording_id.value = str "rec_1")
        | _ => false) &&
      decide ((s.rows.lookup (str "rec_1")).map SpoolRow.state = some .failed)) = true := by
    decide +kernel
  simp only [Option.any_eq_true, Bool.and_eq_true, decide_eq_true_eq] at hrun
  rcases hrun with ⟨s, hs, hphase, hrow⟩
  split at hphase
  · rename_i recording hreturned
    refine ⟨s, recording, hs, hreturned, ?_⟩
    rintro ⟨payload, row, _, hlookup, hdurable, _⟩
    rw [← of_decide_eq_true hphase, hlookup] at hrow
    have hstate : row.state = .failed := Option.some.inj hrow
    rw [SpoolRow.Durable, hstate] at hdurable
    revert hdurable
    decide
  · cases hphase

end SpoolConcurrency

end LeoFlow
