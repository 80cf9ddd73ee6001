import LeoFlow.Core.Table
import LeoFlow.Contracts.Storage
import LeoFlow.Capture.Serialization

/-!
# LeoFlow.Capture.Spool — the capture spool and its statements

The table `recordings` of `SQLiteLocalSpool` and the methods that write it. A
method is up to three parts, each one SQL statement:

* `prepare`: argument checks, and the values of the `UPDATE` or `INSERT`;
* `select`: the `SELECT` that `record_complete` and `acknowledge` do first, in
  autocommit mode;
* `run` and `verdict`: the write inside a transaction, and what the method does
  with its row count before the transaction commits or rolls back.

`incomplete_allocations`, `pending_publication` and `pending_cleanup` are the
queries that recovery and publication start from.
-/

namespace LeoFlow

/-- `SpoolState` -/
inductive SpoolState where
  | allocated
  | complete
  | failed
  | acknowledged
  | cleaned
deriving DecidableEq

/-- `state.value` -/
def SpoolState.value : SpoolState → String
  | allocated => "allocated"
  | complete => "complete"
  | failed => "failed"
  | acknowledged => "acknowledged"
  | cleaned => "cleaned"

/-- A row of `recordings`, under its `recording_id`. -/
structure SpoolRow where
  plan_id : PyStr
  destination : PyStr
  state : SpoolState
  payload : Option Bytes
  publish_attempts : Nat
  last_error : Option PyStr
  idempotency_key : Option PyStr
  published_identity_digest : Option PyStr
  created_utc_ns : Int
  updated_utc_ns : Int
deriving DecidableEq

abbrev SpoolTable := Table PyStr SpoolRow

/-- A string of ASCII characters in an error message. -/
def asciiText (s : PyStr) : String := String.ofList (s.map Char.ofNat)

/-! ## Statements -/

/-- The writes of the spool, with their parameters. -/
inductive Statement where
  | insert (recording_id plan_id destination : PyStr)
  /-- `plan_id` is compared by the `SELECT` before -/
  | complete (recording_id : PyStr) (payload : Bytes) (plan_id : PyStr)
  | fail (recording_id reason : PyStr)
  | fail_all (reason : PyStr)
  | attempt (recording_id idempotency_key : PyStr) (error : Option PyStr)
  | acknowledge (recording_id identity idempotency_key : PyStr)
  | clean (recording_id : PyStr)

namespace SpoolTable

/-- `UPDATE recordings SET .. WHERE recording_id = ? AND state = ?`, with its row count. -/
def updateWhere (t : SpoolTable) (recording_id : PyStr) (state : SpoolState)
    (set : SpoolRow → SpoolRow) : SpoolTable × Nat :=
  match t.lookup recording_id with
  | some row => if row.state = state then (t.insert recording_id (set row), 1) else (t, 0)
  | none => (t, 0)

/-- `UPDATE recordings SET .. WHERE state = ?`, with its row count. -/
def updateAll (t : SpoolTable) (state : SpoolState) (set : SpoolRow → SpoolRow) : SpoolTable × Nat :=
  t.keys.foldl (fun r id => ((r.1.updateWhere id state set).1, r.2 + (r.1.updateWhere id state set).2))
    (t, 0)

end SpoolTable

namespace Statement

/-- The write at one clock reading; `none` is `sqlite3.IntegrityError`. -/
def run (now : Int) (t : SpoolTable) : Statement → Option (SpoolTable × Nat)
  | insert recording_id plan_id destination =>
    if (t.lookup recording_id).isSome ∨ ∃ x ∈ t.entries, x.2.destination = destination then none
    else
      some (t.insert recording_id
        { plan_id, destination, state := .allocated, payload := none, publish_attempts := 0,
          last_error := none, idempotency_key := none, published_identity_digest := none,
          created_utc_ns := now, updated_utc_ns := now }, 1)
  | complete recording_id payload _ =>
    some (t.updateWhere recording_id .allocated fun row =>
      { row with state := .complete, payload := some payload, last_error := none, updated_utc_ns := now })
  | fail recording_id reason =>
    some (t.updateWhere recording_id .allocated fun row =>
      { row with state := .failed, last_error := some reason, updated_utc_ns := now })
  | fail_all reason =>
    some (t.updateAll .allocated fun row =>
      { row with state := .failed, last_error := some reason, updated_utc_ns := now })
  | attempt recording_id idempotency_key error =>
    some (t.updateWhere recording_id .complete fun row =>
      { row with
        publish_attempts := row.publish_attempts + 1, idempotency_key := some idempotency_key,
        last_error := error, updated_utc_ns := now })
  | acknowledge recording_id identity idempotency_key =>
    some (t.updateWhere recording_id .complete fun row =>
      { row with
        state := .acknowledged, published_identity_digest := some identity,
        idempotency_key := some idempotency_key, last_error := none, updated_utc_ns := now })
  | clean recording_id =>
    some (t.updateWhere recording_id .acknowledged fun row =>
      { row with state := .cleaned, updated_utc_ns := now })

/-- What a method does after its `SELECT`. -/
inductive Selected where
  | proceed
  | returned
  | raised (e : PyError)

/-- The `SELECT` before the write. -/
def select (t : SpoolTable) : Statement → Selected
  | complete recording_id payload plan_id =>
    match t.lookup recording_id with
    | none => .raised ⟨.key_error, "unknown spool recording " ++ asciiText recording_id⟩
    | some row =>
      if row.state = .complete ∧ row.payload = some payload then .returned
      else if row.state ≠ .allocated then
        .raised ⟨.runtime_error, "cannot complete recording in state " ++ row.state.value⟩
      else if row.plan_id ≠ plan_id then
        .raised ⟨.runtime_error, "completed recording belongs to a different plan"⟩
      else .proceed
  | acknowledge recording_id identity idempotency_key =>
    match t.lookup recording_id with
    | none => .raised ⟨.key_error, "unknown spool recording " ++ asciiText recording_id⟩
    | some row =>
      if row.state = .acknowledged ∨ row.state = .cleaned then
        if row.published_identity_digest ≠ some identity ∨ row.idempotency_key ≠ some idempotency_key then
          .raised ⟨.runtime_error, "publication acknowledgement collision"⟩
        else .returned
      else if row.state ≠ .complete then
        .raised ⟨.runtime_error, "cannot acknowledge recording in state " ++ row.state.value⟩
      else .proceed
  | _ => .proceed

/-- The checks of the row count, inside the transaction; an error rolls it back. -/
def verdict (t : SpoolTable) (rowcount : Nat) : Statement → Except PyError Unit
  | fail recording_id _ =>
    if rowcount = 0 then
      match t.lookup recording_id with
      | none => .error ⟨.key_error, "unknown spool recording " ++ asciiText recording_id⟩
      | some row =>
        raiseIf (row.state ≠ .failed) ⟨.runtime_error, "cannot fail recording in state " ++ row.state.value⟩
    else .ok ()
  | attempt _ _ _ =>
    raiseIf (rowcount ≠ 1) ⟨.runtime_error, "publish attempt requires a complete recording"⟩
  | clean recording_id =>
    if rowcount = 0 then
      raiseIf (∀ row ∈ t.lookup recording_id, row.state ≠ .cleaned)
        ⟨.runtime_error, "cleanup completion requires acknowledgement"⟩
    else .ok ()
  | _ => .ok ()

/-- Whether the method reads the row again when its write matched none. -/
def rereads : Statement → Bool
  | fail _ _ => true
  | clean _ => true
  | _ => false

end Statement

/-! ## Methods -/

/-- A call of a method. `allocate` carries what `id_factory` will return. -/
inductive SpoolCall where
  | allocate (plan_id : PlanId) (ids : List RecordingId)
  | record_complete (recording : CompletedLocalRecording)
  | record_failure (recording_id : RecordingId) (reason : PyStr)
  | fail_incomplete_allocations (reason : PyStr)
  | note_publish_attempt (recording_id : RecordingId) (idempotency_key : PyStr) (error : Option PyStr)
  | acknowledge (recording : CompletedLocalRecording) (published : PublishedRecordingRef)
      (idempotency_key : PyStr)
  | mark_cleaned (recording_id : RecordingId)

namespace SpoolCall

/-- `str(self.recording_root / str(recording_id))` -/
def destination (recording_root : PyStr) (recording_id : RecordingId) : PyStr :=
  recording_root ++ str "/" ++ recording_id.value

/-- Argument checks, and the statement they lead to. -/
def prepare (recording_root : PyStr) : SpoolCall → Except PyError Statement
  | allocate _ [] => .error ⟨.runtime_error, "could not allocate a unique recording ID"⟩
  | allocate plan_id (id :: _) => .ok (.insert id.value plan_id.value (destination recording_root id))
  | record_complete recording =>
    (Serialization.encodeCompleted recording).map fun payload =>
      .complete recording.val.recording_id.value payload recording.val.manifest.val.plan_id.value
  | record_failure recording_id reason =>
    if reason = [] then .error (.value "failure reason cannot be empty")
    else .ok (.fail recording_id.value reason)
  | fail_incomplete_allocations reason => .ok (.fail_all reason)
  | note_publish_attempt recording_id idempotency_key error =>
    if idempotency_key = [] then .error (.value "idempotency key cannot be empty")
    else .ok (.attempt recording_id.value idempotency_key error)
  | acknowledge recording published idempotency_key =>
    if published.recording_id ≠ recording.val.recording_id then
      .error (.value "publisher acknowledged a different recording")
    else
      (RecordingObjectRef.identity_digest published.recording_object).map fun identity =>
        .acknowledge recording.val.recording_id.value identity.toStr idempotency_key
  | mark_cleaned recording_id => .ok (.clean recording_id.value)

theorem prepare_record_complete {recording_root : PyStr} {recording : CompletedLocalRecording}
    {stmt : Statement} (h : prepare recording_root (.record_complete recording) = .ok stmt) :
    ∃ payload, Serialization.encodeCompleted recording = .ok payload ∧
      stmt = .complete recording.val.recording_id.value payload recording.val.manifest.val.plan_id.value :=
  map_ok h

theorem prepare_acknowledge {recording_root : PyStr} {recording : CompletedLocalRecording}
    {published : PublishedRecordingRef} {idempotency_key : PyStr} {stmt : Statement}
    (h : prepare recording_root (.acknowledge recording published idempotency_key) = .ok stmt) :
    ∃ identity, RecordingObjectRef.identity_digest published.recording_object = .ok identity ∧
      stmt = .acknowledge recording.val.recording_id.value identity.toStr idempotency_key := by
  rw [prepare] at h
  split at h
  · cases h
  · exact map_ok h

/-- The next attempt after `sqlite3.IntegrityError`. -/
def retry : SpoolCall → SpoolCall
  | allocate plan_id ids => allocate plan_id ids.tail
  | c => c

/-- `for _ in range(8)` -/
def bounded : SpoolCall → SpoolCall
  | allocate plan_id ids => allocate plan_id (ids.take 8)
  | c => c

end SpoolCall

/-! ## Moves of a row -/

/-- Bytes of this entry must be kept: it is complete, or later. -/
@[reducible] def SpoolRow.Durable (row : SpoolRow) : Prop :=
  row.state = .complete ∨ row.state = .acknowledged ∨ row.state = .cleaned

@[reducible] def SpoolRow.Acknowledged (row : SpoolRow) : Prop :=
  row.state = .acknowledged ∨ row.state = .cleaned

/-- `allocated → complete → acknowledged → cleaned` or `allocated → failed`, or no change. -/
inductive SpoolState.Moves : SpoolState → SpoolState → Prop where
  | stay (s : SpoolState) : Moves s s
  | complete : Moves .allocated .complete
  | fail : Moves .allocated .failed
  | acknowledge : Moves .complete .acknowledged
  | clean : Moves .acknowledged .cleaned

/-- What a write may do to one row: a legal move of its state. A payload is set only
with `complete`, a published identity and its key only with `acknowledged`. -/
structure SpoolRow.Moves (row row' : SpoolRow) : Prop where
  state : row.state.Moves row'.state
  payload : row.state ≠ .allocated → row'.payload = row.payload
  published : row.Acknowledged → row'.published_identity_digest = row.published_identity_digest ∧
    row'.idempotency_key = row.idempotency_key

/-- What a write may do to the table: rows move, and new rows are allocated. -/
structure SpoolTable.Moves (t t' : SpoolTable) : Prop where
  row : ∀ id row, t.lookup id = some row → ∃ row', t'.lookup id = some row' ∧ row.Moves row'
  new : ∀ id row', t'.lookup id = some row' → t.lookup id = none → row'.state = .allocated

namespace SpoolTable

theorem moves_refl (t : SpoolTable) : t.Moves t := by
  constructor
  · intro id row hrow
    exact ⟨row, hrow, .stay _, fun _ => rfl, fun _ => ⟨rfl, rfl⟩⟩
  · intro id row' hrow hnone
    rw [hnone] at hrow
    cases hrow

/-- The update changes one row that has the required state, or nothing. -/
theorem updateWhere_cases (t : SpoolTable) (id : PyStr) (state : SpoolState) (set : SpoolRow → SpoolRow) :
    (t.updateWhere id state set = (t, 0) ∧ ∀ row ∈ t.lookup id, row.state ≠ state) ∨
      ∃ row, t.lookup id = some row ∧ row.state = state ∧
        t.updateWhere id state set = (t.insert id (set row), 1) := by
  unfold updateWhere
  cases hrow : t.lookup id with
  | none => exact Or.inl ⟨rfl, fun row h => by cases h⟩
  | some row =>
    by_cases hstate : row.state = state
    · exact Or.inr ⟨row, rfl, hstate, if_pos hstate⟩
    · refine Or.inl ⟨if_neg hstate, ?_⟩
      intro row' hrow'
      cases hrow'
      exact hstate

/-- Every row stays or moves. -/
theorem moves_of_rows {t t' : SpoolTable}
    (h : ∀ id, t'.lookup id = t.lookup id ∨
      ∃ row row', t.lookup id = some row ∧ t'.lookup id = some row' ∧ row.Moves row') : t.Moves t' := by
  constructor
  · intro id row hrow
    rcases h id with hsame | ⟨old, row', hold, hnew, hmove⟩
    · exact ⟨row, hsame.trans hrow, .stay _, fun _ => rfl, fun _ => ⟨rfl, rfl⟩⟩
    · rw [hrow] at hold
      cases hold
      exact ⟨row', hnew, hmove⟩
  · intro id row' hrow hnone
    rcases h id with hsame | ⟨old, _, hold, _⟩
    · rw [hsame, hnone] at hrow
      cases hrow
    · rw [hnone] at hold
      cases hold

theorem lookup_updateWhere (t : SpoolTable) (k id : PyStr) (state : SpoolState)
    (set : SpoolRow → SpoolRow) :
    (t.updateWhere k state set).1.lookup id =
      (t.lookup id).map fun row => if id = k ∧ row.state = state then set row else row := by
  rcases t.updateWhere_cases k state set with ⟨hsame, hstate⟩ | ⟨row, hrow, hstate, hnew⟩
  · rw [hsame]
    cases hid : t.lookup id with
    | none => rfl
    | some row =>
      have hno : ¬(id = k ∧ row.state = state) := by
        rintro ⟨rfl, h⟩
        exact hstate row hid h
      rw [Option.map_some, if_neg hno]
  · rw [hnew, Table.lookup_insert_ite]
    by_cases hk : id = k
    · subst hk
      rw [if_pos rfl, hrow, Option.map_some, if_pos ⟨rfl, hstate⟩]
    · have hno : ∀ row : SpoolRow, ¬(id = k ∧ row.state = state) := fun _ h => hk h.1
      rw [if_neg hk]
      cases t.lookup id with
      | none => rfl
      | some row => rw [Option.map_some, if_neg (hno row)]

/-- Every row with the state is updated once. -/
theorem lookup_updateAll (t : SpoolTable) (id : PyStr) (state : SpoolState) (set : SpoolRow → SpoolRow) :
    (t.updateAll state set).1.lookup id =
      (t.lookup id).map fun row => if row.state = state then set row else row := by
  -- over any list of distinct keys, the keys in the list are updated
  have hfold : ∀ (ks : List PyStr) (r : SpoolTable × Nat), ks.Nodup →
      (ks.foldl (fun r k => ((r.1.updateWhere k state set).1,
        r.2 + (r.1.updateWhere k state set).2)) r).1.lookup id =
        (r.1.lookup id).map fun row => if id ∈ ks ∧ row.state = state then set row else row := by
    intro ks
    induction ks with
    | nil =>
      intro r _
      rw [List.foldl_nil]
      cases hrow : r.1.lookup id <;> simp
    | cons k ks ih =>
      intro r hks
      rw [List.nodup_cons] at hks
      rw [List.foldl_cons, ih _ hks.2, lookup_updateWhere]
      cases r.1.lookup id with
      | none => rfl
      | some row =>
        by_cases hk : id = k
        · subst hk
          simp [hks.1]
        · simp [hk]
  have hkeys : ∀ row, t.lookup id = some row → id ∈ t.keys := fun row hrow =>
    AList.lookup_isSome.1 (by rw [hrow]; rfl)
  unfold updateAll
  rw [hfold t.keys (t, 0) t.keys_nodup]
  cases hrow : t.lookup id with
  | none => rfl
  | some row => simp [hkeys row hrow]

theorem moves_updateWhere (t : SpoolTable) (k : PyStr) {state : SpoolState} {set : SpoolRow → SpoolRow}
    (hset : ∀ row : SpoolRow, row.state = state → row.Moves (set row)) :
    t.Moves (t.updateWhere k state set).1 := by
  refine moves_of_rows fun id => ?_
  rw [lookup_updateWhere]
  cases hrow : t.lookup id with
  | none => exact Or.inl rfl
  | some row =>
    by_cases h : id = k ∧ row.state = state
    · rw [Option.map_some, if_pos h]
      exact Or.inr ⟨row, set row, rfl, rfl, hset row h.2⟩
    · rw [Option.map_some, if_neg h]
      exact Or.inl rfl

theorem moves_updateAll (t : SpoolTable) {state : SpoolState} {set : SpoolRow → SpoolRow}
    (hset : ∀ row : SpoolRow, row.state = state → row.Moves (set row)) :
    t.Moves (t.updateAll state set).1 := by
  refine moves_of_rows fun id => ?_
  rw [lookup_updateAll]
  cases hrow : t.lookup id with
  | none => exact Or.inl rfl
  | some row =>
    by_cases h : row.state = state
    · rw [Option.map_some, if_pos h]
      exact Or.inr ⟨row, set row, rfl, rfl, hset row h⟩
    · rw [Option.map_some, if_neg h]
      exact Or.inl rfl

end SpoolTable

/-- A write that only moves the state on from `state`. -/
theorem SpoolRow.moves_of_state {row row' : SpoolRow} (hstate : row.state.Moves row'.state)
    (hpayload : row.state = .allocated ∨ row'.payload = row.payload)
    (hpublished : ¬row.Acknowledged ∨ row'.published_identity_digest = row.published_identity_digest ∧
      row'.idempotency_key = row.idempotency_key) : row.Moves row' := by
  constructor
  · exact hstate
  · intro hne
    exact hpayload.resolve_left hne
  · intro hack
    exact hpublished.resolve_left fun h => h hack

/-- Every statement moves rows legally. -/
theorem Statement.run_moves {now : Int} {t t' : SpoolTable} {stmt : Statement} {n : Nat}
    (h : stmt.run now t = some (t', n)) : t.Moves t' := by
  cases stmt with
  | insert recording_id plan_id destination =>
    simp only [run] at h
    split at h
    · cases h
    rename_i hfree
    have ht : _ = t' := congrArg Prod.fst (Option.some.inj h)
    subst ht
    have hnone : t.lookup recording_id = none := by
      cases hrow : t.lookup recording_id with
      | none => rfl
      | some row => exact absurd (Or.inl (by rw [hrow]; rfl)) hfree
    constructor
    · intro id row hrow
      have hne : id ≠ recording_id := by
        rintro rfl
        rw [hnone] at hrow
        cases hrow
      refine ⟨row, ?_, .stay _, fun _ => rfl, fun _ => ⟨rfl, rfl⟩⟩
      rw [Table.lookup_insert_ite, if_neg hne, hrow]
    · intro id row' hrow hold
      rw [Table.lookup_insert_ite] at hrow
      split at hrow
      · cases hrow
        rfl
      · rw [hold] at hrow
        cases hrow
  | complete recording_id payload plan_id =>
    have ht : _ = t' := congrArg Prod.fst (Option.some.inj h)
    rw [← ht]
    refine t.moves_updateWhere _ fun row hrow => SpoolRow.moves_of_state ?_ (Or.inl hrow) (Or.inl ?_)
    · rw [hrow]
      exact .complete
    · rw [SpoolRow.Acknowledged, hrow]
      decide
  | fail recording_id reason =>
    have ht : _ = t' := congrArg Prod.fst (Option.some.inj h)
    rw [← ht]
    refine t.moves_updateWhere _ fun row hrow => SpoolRow.moves_of_state ?_ (Or.inl hrow) (Or.inl ?_)
    · rw [hrow]
      exact .fail
    · rw [SpoolRow.Acknowledged, hrow]
      decide
  | fail_all reason =>
    have ht : _ = t' := congrArg Prod.fst (Option.some.inj h)
    rw [← ht]
    refine t.moves_updateAll fun row hrow => SpoolRow.moves_of_state ?_ (Or.inl hrow) (Or.inl ?_)
    · rw [hrow]
      exact .fail
    · rw [SpoolRow.Acknowledged, hrow]
      decide
  | attempt recording_id idempotency_key error =>
    have ht : _ = t' := congrArg Prod.fst (Option.some.inj h)
    rw [← ht]
    refine t.moves_updateWhere _ fun row hrow => SpoolRow.moves_of_state (.stay _) (Or.inr rfl) (Or.inl ?_)
    rw [SpoolRow.Acknowledged, hrow]
    decide
  | acknowledge recording_id identity idempotency_key =>
    have ht : _ = t' := congrArg Prod.fst (Option.some.inj h)
    rw [← ht]
    refine t.moves_updateWhere _ fun row hrow => SpoolRow.moves_of_state ?_ (Or.inr rfl) (Or.inl ?_)
    · rw [hrow]
      exact .acknowledge
    · rw [SpoolRow.Acknowledged, hrow]
      decide
  | clean recording_id =>
    have ht : _ = t' := congrArg Prod.fst (Option.some.inj h)
    rw [← ht]
    refine t.moves_updateWhere _ fun row hrow =>
      SpoolRow.moves_of_state ?_ (Or.inr rfl) (Or.inr ⟨rfl, rfl⟩)
    rw [hrow]
    exact .clean

end LeoFlow
