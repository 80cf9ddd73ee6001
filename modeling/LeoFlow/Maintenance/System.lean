import LeoFlow.Core.Machine
import LeoFlow.Catalog.Orphans
import LeoFlow.Maintenance.FilesystemOrphans

/-!
# LeoFlow.Maintenance.System — publishers, collectors and reconcilers

Any number of processes over one store and one catalog. A step is one atomic
action of one process: one file operation, or one database transaction. A
process that crashes, stalls or raises simply takes no further step, or takes
its `quit` step.

* publishers run `FileSystemBlobStore.put` and then the registration
  transaction (`storage/filesystem.py`, `storage/postgres_catalog.py`);
* collectors run the loop body of `collect_objects`
  (`maintenance/object_gc.py`);
* reconcilers run the loop body of `reconcile_unregistered_objects`
  (`maintenance/orphan_reconciliation.py`, `maintenance/postgres_orphans.py`);
* operators add policies, assignments and references, and time passes.

The advisory lock of a digest is held across steps only by a reconciler inside
`delete_under_fence`; every other function takes and releases it in one step.
-/

namespace LeoFlow

abbrev ProcId := Nat

/-- Where a publisher stands in `put` and registration. -/
inductive PublisherPhase where
  | idle
  /-- the temporary file holds the verified content -/
  | staged (ref : ObjectRef) (content : Bytes)
  /-- `os.link` raised `FileExistsError` -/
  | leaf_exists (ref : ObjectRef)
  /-- `_verify_path` has checked kind and size -/
  | leaf_statted (ref : ObjectRef)
  /-- `put` returned -/
  | stored (ref : ObjectRef)
deriving DecidableEq

/-- Where a collector stands with one object. -/
inductive CollectorPhase where
  | idle
  | claimed (digest : Digest) (claim_token : PyStr)
  /-- `deleter.delete` returned -/
  | unlinked (digest : Digest) (claim_token : PyStr)
  /-- `deleter.delete` raised -/
  | delete_raised (digest : Digest) (claim_token : PyStr)
deriving DecidableEq

/-- Where a reconciler stands with one leaf. From `fenced` to `delete_raised` it is
inside the transaction of `delete_under_fence`. -/
inductive ReconcilerPhase where
  | idle
  | inventoried (digest : Digest) (evidence : FileEvidence)
  | unregistered (digest : Digest) (evidence : FileEvidence)
  | claimed (digest : Digest) (evidence : FileEvidence) (claim_token : PyStr)
  | fenced (digest : Digest) (evidence : FileEvidence) (claim_token : PyStr)
  /-- the exact-evidence check passed; `os.unlink` is next -/
  | inspected (digest : Digest) (evidence : FileEvidence) (claim_token : PyStr)
  | unlinked (digest : Digest) (evidence : FileEvidence) (claim_token : PyStr)
  | delete_raised (digest : Digest) (evidence : FileEvidence) (claim_token : PyStr)
deriving DecidableEq

/-- The digest whose advisory lock a reconciler holds. -/
def ReconcilerPhase.holds : ReconcilerPhase → Option Digest
  | .fenced d _ _ | .inspected d _ _ | .unlinked d _ _ | .delete_raised d _ _ => some d
  | _ => none

/-- The store, the catalog, the database clock, the advisory locks held across
steps, and every process. -/
structure System where
  cas : Cas
  db : Catalog
  clock : Int
  fence : Digest → Option ProcId
  publisher : ProcId → PublisherPhase
  collector : ProcId → CollectorPhase
  reconciler : ProcId → ReconcilerPhase

namespace System

def initial : System where
  cas := .empty
  db := .empty
  clock := 0
  fence := fun _ => none
  publisher := fun _ => .idle
  collector := fun _ => .idle
  reconciler := fun _ => .idle

def setPublisher (s : System) (p : ProcId) (phase : PublisherPhase) : System :=
  { s with publisher := Function.update s.publisher p phase }

def setCollector (s : System) (w : ProcId) (phase : CollectorPhase) : System :=
  { s with collector := Function.update s.collector w phase }

def setReconciler (s : System) (r : ProcId) (phase : ReconcilerPhase) : System :=
  { s with reconciler := Function.update s.reconciler r phase }

/-! ## Publishers -/

inductive PublisherStep where
  | stage (p : ProcId) (stream : List Bytes) (expected_digest : Digest) (expected_bytes : Nat)
      (media_type format_id : PyStr)
  | link (p : ProcId) (shard : Shard) (device inode mtime_ns : Nat)
  | verify_stat (p : ProcId)
  | verify_read (p : ProcId)
  | register (p : ProcId) (refer : Bool)
  | quit (p : ProcId)

/-- The publication transaction: registration, the adapter's verification query,
and the row that refers to the object. Any error rolls all of it back. -/
def publication (db : Catalog) (clock : Int) (ref : ObjectRef) (refer : Bool) :
    Except SqlError Catalog := do
  let db ← db.register_live_object_blob clock ref
  if ¬db.LiveAs ref then throw .reference_not_live
  if refer then db.insertReference ref.digest else return db

def publish (s : System) : PublisherStep → Option System
  | .stage p stream d n media_type format_id =>
    match s.publisher p, stage stream d n with
    | .idle, .ok content => some (s.setPublisher p (.staged (putRef d n media_type format_id) content))
    | .idle, .error _ => some s
    | _, _ => none
  | .link p shard device inode mtime_ns =>
    match s.publisher p with
    | .staged ref content =>
      match s.cas.link ref.digest shard ⟨content, device, inode, mtime_ns⟩ with
      | some cas => some ({ s with cas }.setPublisher p (.stored ref))
      | none => some (s.setPublisher p (.leaf_exists ref))
    | _ => none
  | .verify_stat p =>
    match s.publisher p with
    | .leaf_exists ref =>
      match verifyStat s.cas ref.digest ref.byte_count with
      | .ok () => some (s.setPublisher p (.leaf_statted ref))
      | .error _ => some (s.setPublisher p .idle)
    | _ => none
  | .verify_read p =>
    match s.publisher p with
    | .leaf_statted ref =>
      match verifyRead s.cas ref.digest with
      | .ok () => some (s.setPublisher p (.stored ref))
      | .error _ => some (s.setPublisher p .idle)
    | _ => none
  | .register p refer =>
    match s.publisher p with
    | .stored ref =>
      if s.fence ref.digest ≠ none then none
      else
        match publication s.db s.clock ref refer with
        | .ok db => some ({ s with db }.setPublisher p .idle)
        | .error _ => some (s.setPublisher p .idle)
    | _ => none
  | .quit p => some (s.setPublisher p .idle)

/-! ## Collectors -/

inductive CollectorStep where
  | claim (w : ProcId) (digest : Digest) (claim_token : PyStr) (now claim_expires_at : Int)
  | unlink (w : ProcId)
  | delete_error (w : ProcId)
  | complete (w : ProcId) (now : Int)
  | fail (w : ProcId) (now : Int) (detail : PyStr)
  | quit (w : ProcId)

/-- A database call of a collector: an error leaves the tables alone. -/
def committed {α : Type} (s : System) (result : Except SqlError (Catalog × α)) : System :=
  match result with
  | .ok (db, _) => { s with db }
  | .error _ => s

def collect (s : System) : CollectorStep → Option System
  | .claim w d claim_token now claim_expires_at =>
    match s.collector w with
    | .idle =>
      match s.db.gc_claim_object d claim_token now claim_expires_at with
      | .ok (db, some _) => some ({ s with db }.setCollector w (.claimed d claim_token))
      | _ => some s
    | _ => none
  | .unlink w =>
    match s.collector w with
    | .claimed d claim_token =>
      some ({ s with cas := s.cas.unlink d }.setCollector w (.unlinked d claim_token))
    | _ => none
  | .delete_error w =>
    match s.collector w with
    | .claimed d claim_token => some (s.setCollector w (.delete_raised d claim_token))
    | _ => none
  | .complete w now =>
    match s.collector w with
    | .unlinked d claim_token =>
      some ((s.committed (s.db.gc_complete_object_delete d claim_token now)).setCollector w .idle)
    | _ => none
  | .fail w now detail =>
    match s.collector w with
    | .delete_raised d claim_token =>
      some ((s.committed (s.db.gc_record_delete_failure d claim_token now detail)).setCollector w
        .idle)
    | _ => none
  | .quit w => some (s.setCollector w .idle)

/-! ## Reconcilers -/

/-- `deterministic_claim_token` -/
def deterministic_claim_token (d : Digest) (e : FileEvidence) : PyStr :=
  let field (n : Nat) : PyStr := 0 :: str (toString n)
  Sha256.hexdigest ((str "leo-orphan-claim-v1" ++ 0 :: str "sha256" ++ 0 :: d.value
    ++ field e.byte_count ++ field e.device ++ field e.inode ++ field e.parent_device
    ++ field e.parent_inode ++ field e.mtime_ns).map UInt8.ofNat)

inductive ReconcilerStep where
  | inventory (r : ProcId) (digest : Digest)
  | resume (r : ProcId) (digest : Digest)
  | observe (r : ProcId)
  | claim (r : ProcId) (minimum_age_seconds : Int)
  | open_fence (r : ProcId)
  | inspect (r : ProcId)
  | unlink (r : ProcId)
  | delete_error (r : ProcId)
  | complete (r : ProcId)
  | record_failure (r : ProcId) (detail : PyStr)
  | quit (r : ProcId)

/-- The transaction of a reconciler ends: its advisory lock is released. -/
def release (s : System) (r : ProcId) : System :=
  match (s.reconciler r).holds with
  | some d => { s with fence := Function.update s.fence d none }.setReconciler r .idle
  | none => s.setReconciler r .idle

def reconcile (s : System) : ReconcilerStep → Option System
  | .inventory r d =>
    match s.reconciler r, s.cas.leaf d, s.cas.shard d with
    | .idle, some l, some parent => some (s.setReconciler r (.inventoried d (fileEvidence l parent)))
    | _, _, _ => none
  | .resume r d =>
    match s.reconciler r, s.db.orphan d with
    | .idle, some o =>
      match o.state, o.claim_token with
      | .claimed, some claim_token => some (s.setReconciler r (.claimed d o.evidence claim_token))
      | _, _ => none
    | _, _ => none
  | .observe r =>
    match s.reconciler r with
    | .inventoried d evidence =>
      if s.fence d ≠ none then none
      else
        match s.db.observe_unregistered_object s.clock d (casLocator d) evidence with
        | .ok (db, .unregistered) => some ({ s with db }.setReconciler r (.unregistered d evidence))
        | .ok (db, _) => some ({ s with db }.setReconciler r .idle)
        | .error _ => some (s.setReconciler r .idle)
    | _ => none
  | .claim r minimum_age_seconds =>
    match s.reconciler r with
    | .unregistered d evidence =>
      if s.fence d ≠ none then none
      else
        match s.db.claim_unregistered_object s.clock d (casLocator d) evidence
          (deterministic_claim_token d evidence) minimum_age_seconds with
        | .ok (db, some claim_token) =>
          some ({ s with db }.setReconciler r (.claimed d evidence claim_token))
        | .ok (db, none) => some ({ s with db }.setReconciler r .idle)
        | .error _ => some (s.setReconciler r .idle)
    | _ => none
  | .open_fence r =>
    match s.reconciler r with
    | .claimed d evidence claim_token =>
      if s.fence d ≠ none then none
      else if s.db.orphan_claim_is_current d (casLocator d) evidence claim_token then
        some ({ s with fence := Function.update s.fence d (some r) }.setReconciler r
          (.fenced d evidence claim_token))
      else some (s.setReconciler r .idle)
    | _ => none
  | .inspect r =>
    match s.reconciler r with
    | .fenced d evidence claim_token =>
      match s.cas.inspect d evidence with
      | .missing => some (s.setReconciler r (.unlinked d evidence claim_token))
      | .changed => some (s.setReconciler r (.delete_raised d evidence claim_token))
      | .exact => some (s.setReconciler r (.inspected d evidence claim_token))
    | _ => none
  | .unlink r =>
    match s.reconciler r with
    | .inspected d evidence claim_token =>
      some ({ s with cas := s.cas.unlink d }.setReconciler r (.unlinked d evidence claim_token))
    | _ => none
  | .delete_error r =>
    match s.reconciler r with
    | .fenced d evidence claim_token | .inspected d evidence claim_token =>
      some (s.setReconciler r (.delete_raised d evidence claim_token))
    | _ => none
  | .complete r =>
    match s.reconciler r with
    | .unlinked d _ claim_token =>
      match s.db.complete_unregistered_object_delete s.clock d claim_token with
      | .ok (db, true) => some ({ s with db }.release r)
      | _ => some (s.release r)
    | _ => none
  | .record_failure r detail =>
    match s.reconciler r with
    | .delete_raised d _ claim_token =>
      match s.db.record_unregistered_object_delete_failure d claim_token detail with
      | .ok (db, true) => some ({ s with db }.release r)
      | _ => some (s.release r)
    | _ => none
  | .quit r => some (s.release r)

/-! ## Operators and time -/

inductive OperatorStep where
  | tick (microseconds : Nat)
  | policy (policy_id : PyStr) (policy : RetentionPolicy)
  | assign (digest : Digest) (policy_id : PyStr) (assigned_at : Int)
  | refer (digest : Digest)

/-- Policies and assignments are immutable rows with foreign keys; another reference
to an object passes the live-reference trigger. -/
def operate (s : System) : OperatorStep → Option System
  | .tick microseconds => some { s with clock := s.clock + microseconds }
  | .policy policy_id policy =>
    if s.db.object_retention_policy.lookup policy_id ≠ none then none
    else
      some { s with
        db := { s.db with
          object_retention_policy := s.db.object_retention_policy.insert policy_id policy } }
  | .assign d policy_id assigned_at =>
    if s.db.blob d = none ∨ s.db.object_retention_policy.lookup policy_id = none ∨
        (∃ a ∈ s.db.object_retention_assignment, a.digest = d ∧ a.policy_id = policy_id) then none
    else
      some { s with
        db := { s.db with
          object_retention_assignment :=
            ⟨d, policy_id, assigned_at⟩ :: s.db.object_retention_assignment } }
  | .refer d =>
    match s.db.insertReference d with
    | .ok db => some { s with db }
    | .error _ => none

end System

end LeoFlow
