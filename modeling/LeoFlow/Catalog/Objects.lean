import LeoFlow.Core.Table
import LeoFlow.Contracts.Core

/-!
# LeoFlow.Catalog.Objects — the object catalog and its garbage-collection fence

Migrations 0001, 0013, 0014 and 0017: the tables of the object catalog and the
SQL functions of the collector. Each function is one statement sequence inside
one transaction, under the row lock of the object it names; an error leaves the
tables unchanged. Timestamps are microseconds.
-/

namespace LeoFlow

/-- `object_blob.lifecycle_state` -/
inductive LifecycleState where
  | live
  | gc_claimed
  | gc_delete_failed
  | gc_deleted
deriving DecidableEq

/-- A row of `object_blob`, under its digest. `verified_at` is only ever cleared and
is left out. -/
structure ObjectBlob where
  byte_count : Nat
  media_type : PyStr
  format_id : PyStr
  locator : PyStr
  registered_at : Int
  lifecycle_state : LifecycleState
  gc_claim_token : Option PyStr
  gc_claimed_at : Option Int
  gc_claim_expires_at : Option Int
  gc_last_error : Option PyStr
  gc_deleted_at : Option Int
deriving DecidableEq

/-- `object_retention_policy` -/
structure RetentionPolicy where
  retain_for_seconds : Nat
  grace_period_seconds : Nat
  allow_remote_delete : Bool
deriving DecidableEq

/-- `object_retention_assignment` -/
structure RetentionAssignment where
  digest : Digest
  policy_id : PyStr
  assigned_at : Int
deriving DecidableEq

/-- `object_gc_attempt.event` -/
inductive GcEvent where
  | claimed
  | delete_failed
  | deleted
deriving DecidableEq

/-- `object_gc_attempt`, with `UNIQUE (claim_token, event)`. -/
structure GcAttempt where
  digest : Digest
  claim_token : PyStr
  event : GcEvent
  event_at : Int
  detail : Option PyStr
deriving DecidableEq

/-- `FileEvidence`: the filesystem identity of one leaf. -/
structure FileEvidence where
  byte_count : Nat
  device : Nat
  inode : Nat
  parent_device : Nat
  parent_inode : Nat
  mtime_ns : Nat
deriving DecidableEq

/-- `object_orphan_observation.state` -/
inductive OrphanState where
  | observed
  | claimed
  | deleted
  | registered
deriving DecidableEq

/-- A row of `object_orphan_observation`, under its digest. -/
structure OrphanObservation where
  locator : PyStr
  evidence : FileEvidence
  first_observed_at : Int
  last_observed_at : Int
  state : OrphanState
  claim_token : Option PyStr
  claimed_at : Option Int
  deleted_at : Option Int
  registered_at : Option Int
deriving DecidableEq

/-- `object_orphan_event.event` -/
inductive OrphanEventKind where
  | observed
  | evidence_changed
  | claimed
  | delete_failed
  | deleted
  | registered
deriving DecidableEq

/-- `object_orphan_event`, with `UNIQUE (digest, event, claim_token)`. -/
structure OrphanEvent where
  digest : Digest
  event : OrphanEventKind
  claim_token : Option PyStr
  detail : Option PyStr
deriving DecidableEq

/-- The catalog tables. `live_reference` is the view `object_blob_live_reference`:
one digest for each row that refers to an object. -/
structure Catalog where
  object_blob : Table Digest ObjectBlob
  object_retention_policy : Table PyStr RetentionPolicy
  object_retention_assignment : List RetentionAssignment
  object_gc_attempt : List GcAttempt
  live_reference : List Digest
  object_orphan_observation : Table Digest OrphanObservation
  object_orphan_event : List OrphanEvent

/-- What the SQL functions raise. -/
inductive SqlError where
  /-- "invalid GC claim" -/
  | invalid_gc_claim
  /-- "invalid GC failure detail" -/
  | invalid_gc_failure_detail
  /-- "invalid orphan inventory evidence" -/
  | invalid_orphan_inventory_evidence
  /-- "invalid orphan claim" -/
  | invalid_orphan_claim
  /-- "invalid orphan delete failure detail" -/
  | invalid_orphan_delete_failure_detail
  /-- "object has an active orphan-deletion claim", errcode 40001 -/
  | active_orphan_claim
  /-- "object reference does not identify a live catalog object", errcode 23503 -/
  | reference_not_live
  /-- a `UNIQUE` constraint, errcode 23505 -/
  | unique_violation
deriving DecidableEq

/-! ## Rows

The `WHERE` clauses and `SET` lists of the functions below, row by row. -/

namespace ObjectBlob

/-- The claim's `WHERE` clause: `live`, `gc_delete_failed`, or an expired claim. -/
def claimable (row : ObjectBlob) (now : Int) : Prop :=
  row.lifecycle_state = .live ∨ row.lifecycle_state = .gc_delete_failed ∨
    row.lifecycle_state = .gc_claimed ∧ ∃ e ∈ row.gc_claim_expires_at, e ≤ now

instance (row : ObjectBlob) (now : Int) : Decidable (row.claimable now) :=
  inferInstanceAs (Decidable (_ ∨ _ ∨ _ ∧ ∃ e ∈ row.gc_claim_expires_at, e ≤ now))

/-- The finalizers' `WHERE` clause: the claim is still this token's. -/
def claimedBy (row : ObjectBlob) (claim_token : PyStr) : Prop :=
  row.lifecycle_state = .gc_claimed ∧ row.gc_claim_token = some claim_token

instance (row : ObjectBlob) (claim_token : PyStr) : Decidable (row.claimedBy claim_token) :=
  inferInstanceAs (Decidable (_ ∧ _))

/-- The row's immutable identity is the reference's. -/
def identifies (row : ObjectBlob) (ref : ObjectRef) : Prop :=
  row.byte_count = ref.byte_count ∧ row.media_type = ref.media_type ∧
    row.format_id = ref.format_id ∧ row.locator = ref.locator

instance (row : ObjectBlob) (ref : ObjectRef) : Decidable (row.identifies ref) :=
  inferInstanceAs (Decidable (_ ∧ _ ∧ _ ∧ _))

/-- The row registration inserts. -/
def ofRef (ref : ObjectRef) (registered_at : Int) : ObjectBlob where
  byte_count := ref.byte_count
  media_type := ref.media_type
  format_id := ref.format_id
  locator := ref.locator
  registered_at := registered_at
  lifecycle_state := .live
  gc_claim_token := none
  gc_claimed_at := none
  gc_claim_expires_at := none
  gc_last_error := none
  gc_deleted_at := none

def claim (row : ObjectBlob) (claim_token : PyStr) (now claim_expires_at : Int) : ObjectBlob :=
  { row with
    lifecycle_state := .gc_claimed
    gc_claim_token := some claim_token
    gc_claimed_at := some now
    gc_claim_expires_at := some claim_expires_at
    gc_last_error := none }

def deleteFailed (row : ObjectBlob) (detail : PyStr) : ObjectBlob :=
  { row with
    lifecycle_state := .gc_delete_failed
    gc_claim_token := none
    gc_claimed_at := none
    gc_claim_expires_at := none
    gc_last_error := some detail }

def gcDeleted (row : ObjectBlob) (now : Int) : ObjectBlob :=
  { row with
    lifecycle_state := .gc_deleted
    gc_claim_token := none
    gc_claimed_at := none
    gc_claim_expires_at := none
    gc_last_error := none
    gc_deleted_at := some now }

/-- The tombstone branch of registration. -/
def revive (row : ObjectBlob) (registered_at : Int) : ObjectBlob :=
  { row with
    lifecycle_state := .live
    gc_deleted_at := none
    gc_last_error := none
    registered_at := registered_at }

end ObjectBlob

/-- A row of the view `object_retention_status`. -/
structure RetentionStatus where
  policy_count : Nat
  all_policies_allow_delete : Bool
  eligible_after : Option Int
  live_reference_count : Nat

/-- The collector's reading of one status row at `now`. -/
def RetentionStatus.allows (s : RetentionStatus) (now : Int) : Prop :=
  s.policy_count ≠ 0 ∧ s.all_policies_allow_delete = true ∧
    (∀ deadline ∈ s.eligible_after, deadline ≤ now) ∧ s.live_reference_count = 0

instance (s : RetentionStatus) (now : Int) : Decidable (s.allows now) :=
  inferInstanceAs (Decidable (_ ∧ _ ∧ (∀ _ ∈ s.eligible_after, _) ∧ _))

namespace Catalog

def empty : Catalog := ⟨∅, ∅, [], [], [], ∅, []⟩

def blob (db : Catalog) (d : Digest) : Option ObjectBlob := db.object_blob.lookup d

def orphan (db : Catalog) (d : Digest) : Option OrphanObservation :=
  db.object_orphan_observation.lookup d

def setBlob (db : Catalog) (d : Digest) (row : ObjectBlob) : Catalog :=
  { db with object_blob := db.object_blob.insert d row }

def setOrphan (db : Catalog) (d : Digest) (row : OrphanObservation) : Catalog :=
  { db with object_orphan_observation := db.object_orphan_observation.insert d row }

def logGc (db : Catalog) (a : GcAttempt) : Catalog :=
  { db with object_gc_attempt := db.object_gc_attempt ++ [a] }

def logOrphan (db : Catalog) (e : OrphanEvent) : Catalog :=
  { db with object_orphan_event := db.object_orphan_event ++ [e] }

section Frame

variable (db : Catalog) (d d' : Digest)

@[simp] theorem blob_setBlob (row : ObjectBlob) :
    (db.setBlob d row).blob d' = if d' = d then some row else db.blob d' := by
  simp [blob, setBlob]

@[simp] theorem orphan_setBlob (row : ObjectBlob) : (db.setBlob d row).orphan d' = db.orphan d' := rfl

@[simp] theorem orphan_setOrphan (row : OrphanObservation) :
    (db.setOrphan d row).orphan d' = if d' = d then some row else db.orphan d' := by
  simp [orphan, setOrphan]

@[simp] theorem blob_setOrphan (row : OrphanObservation) :
    (db.setOrphan d row).blob d' = db.blob d' := rfl

@[simp] theorem blob_logGc (a : GcAttempt) : (db.logGc a).blob d' = db.blob d' := rfl

@[simp] theorem orphan_logGc (a : GcAttempt) : (db.logGc a).orphan d' = db.orphan d' := rfl

@[simp] theorem blob_logOrphan (e : OrphanEvent) : (db.logOrphan e).blob d' = db.blob d' := rfl

@[simp] theorem orphan_logOrphan (e : OrphanEvent) : (db.logOrphan e).orphan d' = db.orphan d' := rfl

@[simp] theorem references_setBlob (row : ObjectBlob) :
    (db.setBlob d row).live_reference = db.live_reference := rfl

@[simp] theorem references_setOrphan (row : OrphanObservation) :
    (db.setOrphan d row).live_reference = db.live_reference := rfl

@[simp] theorem references_logGc (a : GcAttempt) :
    (db.logGc a).live_reference = db.live_reference := rfl

@[simp] theorem references_logOrphan (e : OrphanEvent) :
    (db.logOrphan e).live_reference = db.live_reference := rfl

@[simp] theorem events_setBlob (row : ObjectBlob) :
    (db.setBlob d row).object_orphan_event = db.object_orphan_event := rfl

@[simp] theorem events_setOrphan (row : OrphanObservation) :
    (db.setOrphan d row).object_orphan_event = db.object_orphan_event := rfl

@[simp] theorem events_logGc (a : GcAttempt) :
    (db.logGc a).object_orphan_event = db.object_orphan_event := rfl

@[simp] theorem events_logOrphan (e : OrphanEvent) :
    (db.logOrphan e).object_orphan_event = db.object_orphan_event ++ [e] := rfl

end Frame

/-! ## Retention -/

/-- The view `object_retention_status` at one digest: policies joined to their
assignments, the latest deadline, and the number of live references. -/
def object_retention_status (db : Catalog) (d : Digest) : RetentionStatus :=
  let assigned := db.object_retention_assignment.filter fun a => a.digest = d
  let joined := assigned.filterMap fun a =>
    (db.object_retention_policy.lookup a.policy_id).map fun p => (a, p)
  { policy_count := (assigned.map (·.policy_id)).dedup.length
    all_policies_allow_delete := !joined.isEmpty && joined.all fun ap => ap.2.allow_remote_delete
    eligible_after := (joined.map fun ap =>
      ap.1.assigned_at
        + ((ap.2.retain_for_seconds + ap.2.grace_period_seconds : Nat) : Int) * 1000000).max?
    live_reference_count := db.live_reference.count d }

/-! ## The collector's functions -/

/-- A `UNIQUE (claim_token, event)` conflict in `object_gc_attempt`. -/
def gcAttemptExists (db : Catalog) (claim_token : PyStr) (event : GcEvent) : Prop :=
  ∃ a ∈ db.object_gc_attempt, a.claim_token = claim_token ∧ a.event = event

instance (db : Catalog) (claim_token : PyStr) (event : GcEvent) :
    Decidable (db.gcAttemptExists claim_token event) :=
  inferInstanceAs (Decidable (∃ a ∈ db.object_gc_attempt, _))

/-- `gc_claim_object` -/
def gc_claim_object (db : Catalog) (d : Digest) (claim_token : PyStr)
    (now claim_expires_at : Int) : Except SqlError (Catalog × Option ObjectBlob) :=
  if claim_token = [] ∨ claim_expires_at ≤ now then .error .invalid_gc_claim
  else
    match db.blob d with
    | none => .ok (db, none)
    | some candidate =>
      if ¬candidate.claimable now then .ok (db, none)
      else if ¬(db.object_retention_status d).allows now then .ok (db, none)
      else if db.gcAttemptExists claim_token .claimed then .error .unique_violation
      else
        let claimed := candidate.claim claim_token now claim_expires_at
        .ok ((db.setBlob d claimed).logGc ⟨d, claim_token, .claimed, now, none⟩, some claimed)

/-- The common body of the two finalizers: a fenced update, then the audit row. -/
def gcFinalize (db : Catalog) (d : Digest) (claim_token : PyStr) (now : Int) (event : GcEvent)
    (detail : Option PyStr) (update : ObjectBlob → ObjectBlob) : Except SqlError (Catalog × Bool) :=
  match db.blob d with
  | none => .ok (db, false)
  | some row =>
    if ¬row.claimedBy claim_token then .ok (db, false)
    else if db.gcAttemptExists claim_token event then .error .unique_violation
    else .ok ((db.setBlob d (update row)).logGc ⟨d, claim_token, event, now, detail⟩, true)

/-- `gc_record_delete_failure` -/
def gc_record_delete_failure (db : Catalog) (d : Digest) (claim_token : PyStr) (now : Int)
    (detail : PyStr) : Except SqlError (Catalog × Bool) :=
  if detail = [] ∨ 1000 < detail.length then .error .invalid_gc_failure_detail
  else
    gcFinalize db d claim_token now .delete_failed (some detail) (·.deleteFailed detail)

/-- `gc_complete_object_delete` -/
def gc_complete_object_delete (db : Catalog) (d : Digest) (claim_token : PyStr) (now : Int) :
    Except SqlError (Catalog × Bool) :=
  gcFinalize db d claim_token now .deleted none (·.gcDeleted now)

/-! ## Registration -/

/-- `INSERT INTO object_blob .. ON CONFLICT DO NOTHING`: both the primary key and the
unique locator are conflict targets. -/
def insertBlob (db : Catalog) (registered_at : Int) (ref : ObjectRef) : Catalog :=
  if (db.blob ref.digest).isSome ∨ ∃ e ∈ db.object_blob.entries, e.2.locator = ref.locator then db
  else db.setBlob ref.digest (.ofRef ref registered_at)

/-- The tombstone branch of registration: `gc_deleted` goes back to `live` when the
immutable identity is the same. -/
def reviveBlob (db : Catalog) (registered_at : Int) (ref : ObjectRef) : Catalog :=
  match db.blob ref.digest with
  | none => db
  | some row =>
    if row.lifecycle_state = .gc_deleted ∧ row.identifies ref then
      db.setBlob ref.digest (row.revive registered_at)
    else db

/-- The last statement of registration: the orphan observation becomes `registered`. -/
def registerOrphan (db : Catalog) (registered_at : Int) (d : Digest) : Catalog :=
  match db.orphan d with
  | none => db
  | some o =>
    if o.state = .registered then db
    else
      (db.setOrphan d
        { o with
          state := .registered
          claim_token := none
          claimed_at := none
          deleted_at := none
          registered_at := some registered_at }).logOrphan ⟨d, .registered, none, none⟩

/-- `register_live_object_blob`. A mismatch returns without an error; the adapter's
verification query reports it. -/
def register_live_object_blob (db : Catalog) (registered_at : Int) (ref : ObjectRef) :
    Except SqlError Catalog :=
  if ∃ o ∈ db.orphan ref.digest, o.state = .claimed then .error .active_orphan_claim
  else
    let db := reviveBlob (insertBlob db registered_at ref) registered_at ref
    match db.blob ref.digest with
    | none => .ok db
    | some registered =>
      if registered.lifecycle_state ≠ .live ∨ ¬registered.identifies ref then .ok db
      else .ok (registerOrphan db registered_at ref.digest)

/-- The row is live with exactly the reference's identity: what the adapters' own
verification query requires before the transaction commits. -/
def LiveAs (db : Catalog) (ref : ObjectRef) : Prop :=
  ∃ row ∈ db.blob ref.digest, row.lifecycle_state = .live ∧ row.identifies ref

instance (db : Catalog) (ref : ObjectRef) : Decidable (db.LiveAs ref) :=
  inferInstanceAs (Decidable (∃ row ∈ db.blob ref.digest, _))

/-- The trigger `object_blob_assert_live_reference` around the insertion of a row
that refers to `d`. -/
def insertReference (db : Catalog) (d : Digest) : Except SqlError Catalog :=
  if ∃ row ∈ db.blob d, row.lifecycle_state = .live then
    .ok { db with live_reference := d :: db.live_reference }
  else .error .reference_not_live

/-! ## What each function can do

One inversion lemma per function, guards included; everything proved about the
catalog goes through these. -/

theorem gc_claim_object_ok {db db' : Catalog} {d : Digest} {claim_token : PyStr}
    {now expires : Int} {r : Option ObjectBlob}
    (h : gc_claim_object db d claim_token now expires = .ok (db', r)) :
    db' = db ∧ r = none ∨
      ∃ row, db.blob d = some row ∧ row.claimable now ∧ (db.object_retention_status d).allows now ∧
        now < expires ∧ ¬db.gcAttemptExists claim_token .claimed ∧
        r = some (row.claim claim_token now expires) ∧
        db' = (db.setBlob d (row.claim claim_token now expires)).logGc
          ⟨d, claim_token, .claimed, now, none⟩ := by
  unfold gc_claim_object at h
  split at h
  · cases h
  rename_i hargs
  split at h
  · cases h
    exact Or.inl ⟨rfl, rfl⟩
  rename_i row hrow
  split at h
  · cases h
    exact Or.inl ⟨rfl, rfl⟩
  rename_i hclaimable
  split at h
  · cases h
    exact Or.inl ⟨rfl, rfl⟩
  rename_i hallows
  split at h
  · cases h
  rename_i hattempt
  cases h
  exact Or.inr ⟨row, hrow, not_not.1 hclaimable, not_not.1 hallows, by omega, hattempt, rfl, rfl⟩

theorem gcFinalize_ok {db db' : Catalog} {d : Digest} {claim_token : PyStr} {now : Int}
    {event : GcEvent} {detail : Option PyStr} {update : ObjectBlob → ObjectBlob} {r : Bool}
    (h : gcFinalize db d claim_token now event detail update = .ok (db', r)) :
    db' = db ∧ r = false ∨
      ∃ row, db.blob d = some row ∧ row.claimedBy claim_token ∧ r = true ∧
        db' = (db.setBlob d (update row)).logGc ⟨d, claim_token, event, now, detail⟩ := by
  unfold gcFinalize at h
  split at h
  · cases h
    exact Or.inl ⟨rfl, rfl⟩
  rename_i row hrow
  split at h
  · cases h
    exact Or.inl ⟨rfl, rfl⟩
  rename_i hfence
  split at h
  · cases h
  cases h
  exact Or.inr ⟨row, hrow, not_not.1 hfence, rfl, rfl⟩

/-- The row registration leaves at the reference's own digest. -/
def registeredBlob (db : Catalog) (registered_at : Int) (ref : ObjectRef) : Option ObjectBlob :=
  match db.blob ref.digest with
  | none =>
    if ∃ e ∈ db.object_blob.entries, e.2.locator = ref.locator then none
    else some (.ofRef ref registered_at)
  | some row =>
    if row.lifecycle_state = .gc_deleted ∧ row.identifies ref then some (row.revive registered_at)
    else some row

theorem blob_insertBlob (db : Catalog) (registered_at : Int) (ref : ObjectRef) (d : Digest) :
    (insertBlob db registered_at ref).blob d =
      if d = ref.digest ∧ db.blob ref.digest = none ∧
          ¬∃ e ∈ db.object_blob.entries, e.2.locator = ref.locator
      then some (.ofRef ref registered_at) else db.blob d := by
  unfold insertBlob
  cases hb : db.blob ref.digest with
  | none =>
    by_cases hl : ∃ e ∈ db.object_blob.entries, e.2.locator = ref.locator
    · simp [hl]
    · rw [if_neg (by simp [hl]), blob_setBlob]
      by_cases hd : d = ref.digest
      · rw [if_pos hd, if_pos ⟨hd, rfl, hl⟩]
      · rw [if_neg hd, if_neg (fun h => hd h.1)]
  | some row => simp

theorem blob_reviveBlob (db : Catalog) (registered_at : Int) (ref : ObjectRef) (d : Digest) :
    (reviveBlob db registered_at ref).blob d =
      if d = ref.digest then
        (db.blob d).map fun row =>
          if row.lifecycle_state = .gc_deleted ∧ row.identifies ref then row.revive registered_at
          else row
      else db.blob d := by
  unfold reviveBlob
  by_cases hd : d = ref.digest
  · subst hd
    rw [if_pos rfl]
    cases hb : db.blob ref.digest with
    | none => simp [hb]
    | some row =>
      by_cases hr : row.lifecycle_state = .gc_deleted ∧ row.identifies ref
      · simp [hr]
      · simp only [Option.map_some, if_neg hr]
        exact hb
  · rw [if_neg hd]
    split
    · rfl
    · split
      · rw [blob_setBlob, if_neg hd]
      · rfl

/-- The first two statements of registration leave `registeredBlob`. -/
theorem blob_insert_revive (db : Catalog) (registered_at : Int) (ref : ObjectRef) (d : Digest) :
    (reviveBlob (insertBlob db registered_at ref) registered_at ref).blob d =
      if d = ref.digest then registeredBlob db registered_at ref else db.blob d := by
  rw [blob_reviveBlob]
  by_cases hd : d = ref.digest
  · subst hd
    rw [if_pos rfl, if_pos rfl, blob_insertBlob]
    unfold registeredBlob
    cases hb : db.blob ref.digest with
    | none =>
      by_cases hl : ∃ e ∈ db.object_blob.entries, e.2.locator = ref.locator
      · simp [hl]
      · have hlive : ¬(ObjectBlob.ofRef ref registered_at).lifecycle_state = .gc_deleted :=
          fun h => LifecycleState.noConfusion h
        rw [if_pos ⟨rfl, rfl, hl⟩, Option.map_some, if_neg (fun h => hlive h.1)]
        simp [hl]
    | some row =>
      simp only [reduceCtorEq, false_and, and_false, if_false, Option.map_some]
      split <;> rfl
  · rw [if_neg hd, if_neg hd, blob_insertBlob, if_neg (fun h => hd h.1)]

/-- They leave the orphan tables alone. -/
theorem orphans_insert_revive (db : Catalog) (registered_at : Int) (ref : ObjectRef) :
    (∀ d, (reviveBlob (insertBlob db registered_at ref) registered_at ref).orphan d = db.orphan d) ∧
      (reviveBlob (insertBlob db registered_at ref) registered_at ref).object_orphan_event =
        db.object_orphan_event := by
  have hins : (∀ d, (insertBlob db registered_at ref).orphan d = db.orphan d) ∧
      (insertBlob db registered_at ref).object_orphan_event = db.object_orphan_event := by
    unfold insertBlob
    split <;> exact ⟨fun _ => rfl, rfl⟩
  unfold reviveBlob
  split
  · exact hins
  · split <;> exact hins

@[simp] theorem blob_registerOrphan (db : Catalog) (registered_at : Int) (d d' : Digest) :
    (registerOrphan db registered_at d).blob d' = db.blob d' := by
  unfold registerOrphan
  split
  · rfl
  · split <;> simp

/-- A registration that does not raise runs its first two statements, then perhaps
its last. -/
theorem register_live_object_blob_ok {db db' : Catalog} {registered_at : Int} {ref : ObjectRef}
    (h : register_live_object_blob db registered_at ref = .ok db') :
    (∀ o ∈ db.orphan ref.digest, o.state ≠ .claimed) ∧
      (db' = reviveBlob (insertBlob db registered_at ref) registered_at ref ∨
        db' = registerOrphan (reviveBlob (insertBlob db registered_at ref) registered_at ref)
          registered_at ref.digest) := by
  unfold register_live_object_blob at h
  split at h
  · cases h
  rename_i hclaim
  refine ⟨fun o ho hc => hclaim ⟨o, ho, hc⟩, ?_⟩
  dsimp only at h
  split at h
  · cases h
    exact Or.inl rfl
  split at h
  · cases h
    exact Or.inl rfl
  · cases h
    exact Or.inr rfl

/-- `d` has an unresolved deletion claim. -/
def Claimed (db : Catalog) (d : Digest) : Prop := ∃ o ∈ db.orphan d, o.state = .claimed

instance (db : Catalog) (d : Digest) : Decidable (db.Claimed d) :=
  inferInstanceAs (Decidable (∃ o ∈ db.orphan d, _))

theorem register_error {db : Catalog} {registered_at : Int} {ref : ObjectRef}
    (h : db.Claimed ref.digest) :
    db.register_live_object_blob registered_at ref = .error .active_orphan_claim := by
  have hclaim : ∃ o ∈ db.orphan ref.digest, o.state = .claimed := h
  unfold register_live_object_blob
  rw [if_pos hclaim]

/-- Registration raises exactly when there is an unresolved claim. -/
theorem register_ok_iff (db : Catalog) (registered_at : Int) (ref : ObjectRef) :
    (∃ db', db.register_live_object_blob registered_at ref = .ok db') ↔ ¬db.Claimed ref.digest := by
  constructor
  · rintro ⟨db', hok⟩ hclaim
    rw [register_error hclaim] at hok
    cases hok
  · intro hclaim
    have hnone : ¬∃ o ∈ db.orphan ref.digest, o.state = .claimed := hclaim
    unfold register_live_object_blob
    rw [if_neg hnone]
    dsimp only
    split
    · exact ⟨_, rfl⟩
    · split <;> exact ⟨_, rfl⟩

theorem register_live_object_blob_blob {db db' : Catalog} {registered_at : Int} {ref : ObjectRef}
    (h : register_live_object_blob db registered_at ref = .ok db') (d : Digest) :
    db'.blob d = if d = ref.digest then registeredBlob db registered_at ref else db.blob d := by
  rw [← blob_insert_revive]
  obtain ⟨_, rfl | rfl⟩ := register_live_object_blob_ok h
  · rfl
  · rw [blob_registerOrphan]

end Catalog

end LeoFlow
