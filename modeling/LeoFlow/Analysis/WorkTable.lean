import LeoFlow.Core.Table
import LeoFlow.Jobs.Queue

/-!
# LeoFlow.Analysis.WorkTable — work tables of the analysis services

The work tables of migrations 0020, 0030, 0042, 0044, 0046, 0049, 0051 and 0052 share the columns of a lease and
the statements that move a row. `S` are the columns a row keeps from its admission, `E` those that its completion
or its parking fills. As in `LeoFlow.Jobs.Queue` a statement reads the clock in its `WHERE` clause (`now`) and
again in its `SET` list (`later`), in microseconds.
-/

namespace LeoFlow

/-- A row of a work table, under its primary key. -/
structure Work (S E : Type) where
  source : S
  state : JobState
  available_at_utc : Int
  attempt : Nat
  lease_token : Option PyStr
  lease_generation : Nat
  lease_expires_utc : Option Int
  last_error : Option PyStr
  outcome : E
  /-- the first unnamed check of every table -/
  lease_consistent :
    state = .leased ∧ lease_token.isSome ∧ lease_expires_utc.isSome ∨
      state ≠ .leased ∧ lease_token = none ∧ lease_expires_utc = none

namespace Work

variable {S E : Type}

/-- The fence of every report: this token and generation hold an unexpired lease. -/
def activeLease (w : Work S E) (lease_token : PyStr) (lease_generation now : Int) : Prop :=
  w.state = .leased ∧ w.lease_token = some lease_token ∧ (w.lease_generation : Int) = lease_generation ∧
    ∃ expires ∈ w.lease_expires_utc, now < expires

instance (w : Work S E) (lease_token : PyStr) (lease_generation now : Int) :
    Decidable (w.activeLease lease_token lease_generation now) :=
  inferInstanceAs (Decidable (_ ∧ _ ∧ _ ∧ ∃ expires ∈ w.lease_expires_utc, now < expires))

/-- `available_at_utc <= clock_timestamp() AND (state IN ('ready','failed') OR (state='leased' AND
lease_expires_utc <= clock_timestamp()))` -/
def due (w : Work S E) (now : Int) : Prop :=
  w.available_at_utc ≤ now ∧ ((w.state = .ready ∨ w.state = .failed) ∨
    w.state = .leased ∧ ∃ expires ∈ w.lease_expires_utc, expires ≤ now)

instance (w : Work S E) (now : Int) : Decidable (w.due now) :=
  inferInstanceAs (Decidable (_ ∧ (_ ∨ _ ∧ ∃ expires ∈ w.lease_expires_utc, expires ≤ now)))

/-- `succeeded` and `parked` are final. -/
def Terminal (w : Work S E) : Prop := w.state = .succeeded ∨ w.state = .parked

instance (w : Work S E) : Decidable w.Terminal := inferInstanceAs (Decidable (_ ∨ _))

/-- An inserted row. -/
def admitted (source : S) (outcome : E) (available_at_utc : Int) : Work S E where
  source := source
  state := .ready
  available_at_utc := available_at_utc
  attempt := 0
  lease_token := none
  lease_generation := 0
  lease_expires_utc := none
  last_error := none
  outcome := outcome
  lease_consistent := lease_released ready_ne_leased

/-- The `SET` list of a claim. -/
def claim (w : Work S E) (lease_token : PyStr) (expires : Int) (last_error : Option PyStr) : Work S E :=
  { w with
    state := .leased
    attempt := w.attempt + 1
    lease_generation := w.lease_generation + 1
    lease_token := some lease_token
    lease_expires_utc := some expires
    last_error := last_error
    lease_consistent := lease_held lease_token expires }

/-- A heartbeat. -/
def renew (w : Work S E) (expires : Int) (h : w.state = .leased) : Work S E :=
  { w with
    lease_expires_utc := some expires
    lease_consistent := by
      rcases w.lease_consistent with ⟨hstate, htoken, _⟩ | ⟨hstate, _⟩
      · exact Or.inl ⟨hstate, htoken, rfl⟩
      · exact absurd h hstate }

/-- A report gives the lease back. -/
def release (w : Work S E) (state : JobState) (h : state ≠ .leased) (last_error : Option PyStr)
    (available_at_utc : Int) (outcome : E) : Work S E :=
  { w with
    state := state
    available_at_utc := available_at_utc
    lease_token := none
    lease_expires_utc := none
    last_error := last_error
    outcome := outcome
    lease_consistent := Or.inr ⟨h, rfl, rfl⟩ }

/-- A leased row has an expiry. -/
theorem exists_expires {w : Work S E} (h : w.state = .leased) : ∃ expires, w.lease_expires_utc = some expires := by
  rcases w.lease_consistent with ⟨_, _, hexpires⟩ | ⟨hstate, _⟩
  · exact Option.isSome_iff_exists.1 hexpires
  · exact absurd h hstate

end Work

/-- What the functions raise. -/
inductive WorkSqlError where
  /-- invalid arguments, errcode 22023 -/
  | invalid_parameter_value
  /-- a source is missing or not live, errcode 23503 -/
  | foreign_key_violation
  /-- another identity, errcode 23505 -/
  | unique_violation
  /-- a `NULL` in a leased row, errcode 23514 -/
  | check_violation
  /-- the lease of the source job is not current, errcode 55000 -/
  | lease_not_current
  /-- a counter leaves the range of its column type, errcode 22003 -/
  | numeric_value_out_of_range
deriving DecidableEq

/-- The rows of a work table. -/
structure WorkTable (S E : Type) where
  rows : Table PyStr (Work S E)

namespace WorkTable

variable {S E : Type}

def empty : WorkTable S E := ⟨∅⟩

def row (q : WorkTable S E) (id : PyStr) : Option (Work S E) := q.rows.lookup id

def setRow (q : WorkTable S E) (id : PyStr) (w : Work S E) : WorkTable S E := ⟨q.rows.insert id w⟩

@[simp] theorem row_empty (id : PyStr) : (empty : WorkTable S E).row id = none := rfl

@[simp] theorem row_setRow (q : WorkTable S E) (id id' : PyStr) (w : Work S E) :
    (q.setRow id w).row id' = if id' = id then some w else q.row id' := by
  simp [row, setRow]

theorem mem_entries_iff {q : WorkTable S E} {id : PyStr} {w : Work S E} :
    ⟨id, w⟩ ∈ q.rows.entries ↔ q.row id = some w :=
  Table.mem_entries_iff _ _ _

/-- The rows that are neither succeeded nor parked. -/
def backlog (q : WorkTable S E) : Nat := Table.sum q.rows fun w => if w.Terminal then 0 else 1

/-- `INSERT .. ON CONFLICT DO NOTHING`, with the number of inserted rows. -/
def insertNew (q : WorkTable S E) (outcome : E) (later : Int) : List (PyStr × S) → WorkTable S E × Nat
  | [] => (q, 0)
  | (id, source) :: rows =>
    if (q.row id).isSome then q.insertNew outcome later rows
    else
      let inserted := (q.setRow id (.admitted source outcome later)).insertNew outcome later rows
      (inserted.1, inserted.2 + 1)

/-- The inserted rows are new, and the others stay as they are. -/
theorem insertNew_rows (q : WorkTable S E) (outcome : E) (later : Int) (rows : List (PyStr × S)) :
    ∃ added : List (PyStr × S), added ⊆ rows ∧ (added.map Prod.fst).Nodup ∧
      (q.insertNew outcome later rows).2 = added.length ∧ added.length ≤ rows.length ∧
      (∀ e ∈ added, q.row e.1 = none ∧
        (q.insertNew outcome later rows).1.row e.1 = some (.admitted e.2 outcome later)) ∧
      ∀ id, id ∉ added.map Prod.fst → (q.insertNew outcome later rows).1.row id = q.row id := by
  induction rows generalizing q with
  | nil => exact ⟨[], List.Subset.refl _, List.nodup_nil, rfl, le_refl _, nofun, fun _ _ => rfl⟩
  | cons e rows ih =>
    rcases e with ⟨id, source⟩
    unfold insertNew
    by_cases hrow : (q.row id).isSome
    · rw [if_pos hrow]
      rcases ih q with ⟨added, hsubset, hnodup, hcount, hlength, hadded, hkept⟩
      exact ⟨added, List.subset_cons_of_subset _ hsubset, hnodup, hcount, hlength.trans (Nat.le_succ _),
        hadded, hkept⟩
    · rw [if_neg hrow]
      have hnone : q.row id = none := by simpa using hrow
      rcases ih (q.setRow id (.admitted source outcome later)) with
        ⟨added, hsubset, hnodup, hcount, hlength, hadded, hkept⟩
      have hfresh : id ∉ added.map Prod.fst := by
        intro hmem
        rcases List.mem_map.1 hmem with ⟨e, he, rfl⟩
        have := (hadded e he).1
        simp at this
      refine ⟨(id, source) :: added, List.cons_subset_cons _ hsubset, ?_, ?_, ?_, ?_, ?_⟩
      · rw [List.map_cons, List.nodup_cons]
        exact ⟨hfresh, hnodup⟩
      · simp only [hcount, List.length_cons]
      · exact Nat.succ_le_succ hlength
      · intro e he
        rcases List.mem_cons.1 he with rfl | he
        · refine ⟨hnone, ?_⟩
          simp only
          rw [hkept _ hfresh, row_setRow, if_pos rfl]
        · rcases hadded e he with ⟨hbefore, hafter⟩
          refine ⟨?_, hafter⟩
          have hid : e.1 ≠ id := by
            intro heq
            exact hfresh (heq ▸ List.mem_map_of_mem he)
          rw [row_setRow, if_neg hid] at hbefore
          exact hbefore
      · intro id' hid'
        rw [List.map_cons, List.mem_cons, not_or] at hid'
        simp only
        rw [hkept _ hid'.2, row_setRow, if_neg hid'.1]

/-- Every inserted row waits. -/
theorem backlog_insertNew (q : WorkTable S E) (outcome : E) (later : Int) (rows : List (PyStr × S)) :
    (q.insertNew outcome later rows).1.backlog = q.backlog + (q.insertNew outcome later rows).2 := by
  induction rows generalizing q with
  | nil => rfl
  | cons e rows ih =>
    rcases e with ⟨id, source⟩
    unfold insertNew
    split
    · exact ih q
    · rename_i hrow
      have hnone : q.row id = none := by simpa using hrow
      have hone : (q.setRow id (.admitted source outcome later)).backlog = 1 + q.backlog := by
        unfold backlog
        exact Table.sum_insert_new _ _ hnone
      simp only
      rw [ih, hone]
      omega

/-! ## Claims -/

/-- What a claim statement looks for. -/
structure Claim (S E : Type) where
  /-- its `ORDER BY` -/
  before : PyStr × Work S E → PyStr × Work S E → Bool
  /-- the conditions of its `WHERE` beside the availability and the lease of a row -/
  admits : PyStr → Work S E → Bool
  /-- the joins of its final `SELECT` find the sources of the row -/
  joins : PyStr → S → Bool
  /-- what its `SET` list leaves of the last error -/
  last_error : Work S E → Option PyStr

/-- The rows a claim can take: due, admitted, and not locked by another transaction. -/
def candidates (q : WorkTable S E) (c : Claim S E) (locked : List PyStr) (now : Int) : List (PyStr × Work S E) :=
  (q.rows.entries.map fun e => (e.1, e.2)).filter fun e => e.1 ∉ locked ∧ e.2.due now ∧ c.admits e.1 e.2

/-- `ORDER BY .. FOR UPDATE SKIP LOCKED LIMIT 1` -/
def candidate (q : WorkTable S E) (c : Claim S E) (locked : List PyStr) (now : Int) : Option (PyStr × Work S E) :=
  ((q.candidates c locked now).insertionSort fun a b => c.before a b = true).head?

theorem mem_candidates {q : WorkTable S E} {c : Claim S E} {locked : List PyStr} {now : Int} {id : PyStr}
    {w : Work S E} : (id, w) ∈ q.candidates c locked now ↔
      q.row id = some w ∧ id ∉ locked ∧ w.due now ∧ c.admits id w = true := by
  unfold candidates
  rw [List.mem_filter, List.mem_map]
  simp only [decide_eq_true_eq, Prod.mk.injEq]
  constructor
  · rintro ⟨⟨⟨id', w'⟩, hmem, rfl, rfl⟩, hrest⟩
    exact ⟨mem_entries_iff.1 hmem, hrest⟩
  · rintro ⟨hrow, hrest⟩
    exact ⟨⟨⟨id, w⟩, mem_entries_iff.2 hrow, rfl, rfl⟩, hrest⟩

theorem candidate_ok {q : WorkTable S E} {c : Claim S E} {locked : List PyStr} {now : Int} {id : PyStr}
    {w : Work S E} (h : q.candidate c locked now = some (id, w)) :
    q.row id = some w ∧ id ∉ locked ∧ w.due now ∧ c.admits id w = true :=
  mem_candidates.1 ((List.mem_insertionSort _).1 (List.mem_of_mem_head? (Option.mem_def.2 h)))

/-- While a row can be taken, a claim takes one. -/
theorem exists_candidate {q : WorkTable S E} {c : Claim S E} {locked : List PyStr} {now : Int} {id : PyStr}
    {w : Work S E} (hrow : q.row id = some w) (hlocked : id ∉ locked) (hdue : w.due now)
    (hadmits : c.admits id w = true) : ∃ id' w', q.candidate c locked now = some (id', w') := by
  have hmem := mem_candidates.2 ⟨hrow, hlocked, hdue, hadmits⟩
  rw [← List.mem_insertionSort fun a b => c.before a b = true] at hmem
  unfold candidate
  rcases List.exists_cons_of_ne_nil (List.ne_nil_of_mem hmem) with ⟨⟨id', w'⟩, rest, hsort⟩
  rw [hsort]
  exact ⟨id', w', rfl⟩

/-- The largest values of an `integer` and of a `bigint`. -/
def maxInteger : Nat := 2147483647

def maxBigint : Nat := 9223372036854775807

/-- The statement of a claim: the candidate is leased, and returned if its sources join. -/
def claim_row (q : WorkTable S E) (c : Claim S E) (lease_token : Option PyStr) (ttl : Option Int)
    (locked : List PyStr) (now later : Int) : Except WorkSqlError (WorkTable S E × Option (PyStr × Work S E)) :=
  match q.candidate c locked now with
  | none => .ok (q, none)
  | some (id, w) =>
    match lease_token, ttl with
    | some lease_token, some ttl =>
      if maxInteger < w.attempt + 1 ∨ maxBigint < w.lease_generation + 1 then .error .numeric_value_out_of_range
      else
        let claimed := w.claim lease_token (later + ttl) (c.last_error w)
        .ok (q.setRow id claimed, if c.joins id w.source then some (id, claimed) else none)
    | _, _ => .error .check_violation

theorem claim_row_ok {q q' : WorkTable S E} {c : Claim S E} {lease_token : Option PyStr} {ttl : Option Int}
    {now later : Int} {locked : List PyStr} {r : Option (PyStr × Work S E)}
    (h : q.claim_row c lease_token ttl locked now later = .ok (q', r)) :
    q.candidate c locked now = none ∧ q' = q ∧ r = none ∨
      ∃ id w token interval, q.candidate c locked now = some (id, w) ∧ lease_token = some token ∧
        ttl = some interval ∧ q' = q.setRow id (w.claim token (later + interval) (c.last_error w)) ∧
        r = if c.joins id w.source then some (id, w.claim token (later + interval) (c.last_error w)) else none := by
  unfold claim_row at h
  split at h
  · rename_i hnone
    cases h
    exact Or.inl ⟨hnone, rfl, rfl⟩
  · rename_i id w hsome
    split at h
    · rename_i token interval
      split at h
      · cases h
      · cases h
        exact Or.inr ⟨id, w, token, interval, hsome, rfl, rfl, rfl, rfl⟩
    · cases h

/-- A claim with all its arguments takes the candidate, as long as the counters fit their columns. -/
theorem claim_row_of_candidate {q : WorkTable S E} {c : Claim S E} {token : PyStr} {ttl now later : Int}
    {locked : List PyStr} {id : PyStr} {w : Work S E} (h : q.candidate c locked now = some (id, w))
    (hattempt : w.attempt < maxInteger) (hgeneration : w.lease_generation < maxBigint) :
    q.claim_row c (some token) (some ttl) locked now later =
      .ok (q.setRow id (w.claim token (later + ttl) (c.last_error w)),
        if c.joins id w.source then some (id, w.claim token (later + ttl) (c.last_error w)) else none) := by
  unfold claim_row
  rw [h]
  simp only
  rw [if_neg]
  omega

/-! ## Reports -/

/-- The common form of the fenced updates: the row of an active lease, updated if `guard` finds nothing missing. -/
def updateActive (q : WorkTable S E) (id lease_token : PyStr) (lease_generation now : Int)
    (update : Work S E → Option (Work S E)) : WorkTable S E × Bool :=
  match q.row id with
  | none => (q, false)
  | some w =>
    if w.activeLease lease_token lease_generation now then
      match update w with
      | some w' => (q.setRow id w', true)
      | none => (q, false)
    else (q, false)

theorem updateActive_cases (q : WorkTable S E) (id lease_token : PyStr) (lease_generation now : Int)
    (update : Work S E → Option (Work S E)) :
    q.updateActive id lease_token lease_generation now update = (q, false) ∨
      ∃ w w', q.row id = some w ∧ w.activeLease lease_token lease_generation now ∧ update w = some w' ∧
        q.updateActive id lease_token lease_generation now update = (q.setRow id w', true) := by
  unfold updateActive
  split
  · exact Or.inl rfl
  · rename_i w hrow
    split
    · rename_i hactive
      split
      · rename_i w' hupdate
        exact Or.inr ⟨w, w', hrow, hactive, hupdate, rfl⟩
      · exact Or.inl rfl
    · exact Or.inl rfl

end WorkTable

end LeoFlow
