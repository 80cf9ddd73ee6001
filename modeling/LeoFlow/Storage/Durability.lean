import LeoFlow.Core.Machine
import LeoFlow.Core.Value
import LeoFlow.Storage.Filesystem

/-!
# LeoFlow.Storage.Durability — what a crash leaves of the store

`FileSystemBlobStore.put` with its system calls one by one. A file's bytes survive a crash as
they were when the file was fsynced, and an entry of a directory survives if the
directory was fsynced after the entry was made; what is below a lost entry is lost.
-/

namespace LeoFlow

/-! ## The disk -/

structure File where
  bytes : Bytes
  /-- the bytes at the last `os.fsync` -/
  synced : Bytes
deriving DecidableEq

/-- A leaf in its shard directory. -/
structure LeafEntry where
  file : File
  /-- the directory was fsynced since -/
  synced : Bool
deriving DecidableEq

/-- The tree below the root: whether the directories `sha256` and `sha256/<shard>` are there and, if
so, whether their own entries were fsynced. -/
structure Disk where
  /-- the entries on the way to the root survive a crash; if not, the constructor of the store makes
  an empty root after it -/
  root : Bool
  sha256 : Option Bool
  shards : PyStr → Option Bool
  leaves : Digest → Option LeafEntry

namespace Disk

/-- The entries on the way to a shard's leaves survive a crash. -/
@[reducible] def DirectoryDurable (k : Disk) (shard : PyStr) : Prop :=
  k.root = true ∧ k.sha256 = some true ∧ k.shards shard = some true

/-- What a crash leaves. -/
def crash (k : Disk) : Disk where
  root := k.root
  sha256 := if k.root = true ∧ k.sha256 = some true then some true else none
  shards shard := if k.DirectoryDurable shard then some true else none
  leaves d :=
    match k.leaves d with
    | some ⟨file, true⟩ =>
      if k.DirectoryDurable (shardName d) then some ⟨⟨file.synced, file.synced⟩, true⟩ else none
    | _ => none

/-- `os.link` of a file under the name of a digest. -/
def link (k : Disk) (d : Digest) (file : File) : Disk :=
  { k with leaves := Function.update k.leaves d (some ⟨file, false⟩) }

/-- `_fsync_directory` -/
def fsyncDirectory (k : Disk) (shard : PyStr) : Disk :=
  { k with
    leaves := fun d => (k.leaves d).map fun e => if shardName d = shard then { e with synced := true } else e }

/-- Every leaf has the bytes of its name, fsynced. -/
def Sound (k : Disk) : Prop :=
  ∀ d e, k.leaves d = some e → Digest.sha256 e.file.bytes = d ∧ e.file.synced = e.file.bytes

end Disk

/-! ## put -/

inductive PutError where
  /-- "expected_bytes must be non-negative" -/
  | negative_bytes
  /-- "idempotency_key cannot be empty" -/
  | empty_key
  /-- `IdempotencyConflictError` -/
  | idempotency_conflict
  /-- `FileNotFoundError` from `os.link` -/
  | no_directory
  | blob (e : BlobStoreError)
deriving DecidableEq

/-- The arguments of `put`; `store` is the store object it is called on. -/
structure PutCall where
  store : Nat
  stream : List Bytes
  expected_digest : Digest
  expected_bytes : Int
  media_type : PyStr
  format_id : PyStr
  idempotency_key : PyStr
deriving DecidableEq

/-- `identity` -/
def PutCall.identity (call : PutCall) : Digest × Int := (call.expected_digest, call.expected_bytes)

def PutCall.ref (call : PutCall) : ObjectRef :=
  putRef call.expected_digest call.expected_bytes.toNat call.media_type call.format_id

/-- The next system call of a `put`, with its temporary file. -/
inductive PutPc where
  | check_key
  | copying (rest : List Bytes) (output : Bytes)
  | fsync (output : Bytes)
  /-- `target.parent.mkdir(parents=True, exist_ok=True)`: `os.mkdir(target.parent)` -/
  | mkdir (file : File)
  /-- `FileNotFoundError`: `os.mkdir(target.parent.parent)` -/
  | mkdir_parent (file : File)
  | link (file : File)
  | fsync_directory (file : File)
  | verify_stat (file : File)
  | verify_read (file : File)
  /-- the second look at the idempotency keys; `found` is `FileExistsError` -/
  | register (file : File) (found : Bool)
deriving DecidableEq

inductive PutEvent where
  | returned (ref : ObjectRef) (content : Bytes)
  | raised (e : PutError)
deriving DecidableEq

namespace Durability

variable {P : Type}

structure State (P : Type) where
  disk : Disk
  procs : P → Option (PutCall × PutPc)
  /-- `_idempotency` of every store object -/
  idempotency : Nat → PyStr → Option (Digest × Int)
  history : List PutEvent

inductive Label (P : Type) where
  | start (p : P) (call : PutCall)
  | step (p : P)
  | crash

/-- What a system call of `put` leads to. -/
inductive Next where
  | raises (e : PutError)
  | goes (disk : Disk) (pc : PutPc)
  | returns (content : Bytes)

/-- The key is free or identifies these bytes. -/
@[reducible] def KeyFree (prior : Option (Digest × Int)) (call : PutCall) : Prop :=
  ∀ identity ∈ prior, identity = call.identity

/-- The checks between the copy and the link. -/
def validate (call : PutCall) (content : Bytes) : Except PutError Unit :=
  if (content.length : Int) ≠ call.expected_bytes then .error (.blob .byte_count_differs)
  else if Digest.sha256 content ≠ call.expected_digest then .error (.blob .stream_digest_differs)
  else .ok ()

def next (disk : Disk) (prior : Option (Digest × Int)) (call : PutCall) : PutPc → Next
  | .check_key =>
    if call.expected_bytes < 0 then .raises .negative_bytes
    else if call.idempotency_key = [] then .raises .empty_key
    else if KeyFree prior call then .goes disk (.copying call.stream [])
    else .raises .idempotency_conflict
  | .copying [] output => .goes disk (.fsync output)
  | .copying (chunk :: rest) output =>
    if chunk = [] then .goes disk (.fsync output)
    else if call.expected_bytes < (output ++ chunk).length then .raises (.blob .stream_exceeds)
    else .goes disk (.copying rest (output ++ chunk))
  | .fsync output =>
    match validate call output with
    | .error e => .raises e
    | .ok () => .goes disk (.mkdir ⟨output, output⟩)
  | .mkdir file =>
    match disk.sha256, disk.shards (shardName call.expected_digest) with
    | none, _ => .goes disk (.mkdir_parent file)
    | some _, some _ => .goes disk (.link file)
    | some _, none =>
      .goes { disk with
        shards := Function.update disk.shards (shardName call.expected_digest) (some false) } (.link file)
  | .mkdir_parent file =>
    .goes { disk with sha256 := some (disk.sha256.getD false) } (.mkdir file)
  | .link file =>
    match disk.shards (shardName call.expected_digest), disk.leaves call.expected_digest with
    | none, _ => .raises .no_directory
    | some _, some _ => .goes disk (.verify_stat file)
    | some _, none => .goes (disk.link call.expected_digest file) (.fsync_directory file)
  | .fsync_directory file =>
    .goes (disk.fsyncDirectory (shardName call.expected_digest)) (.register file false)
  | .verify_stat file =>
    match disk.leaves call.expected_digest with
    | none => .raises (.blob .object_missing)
    | some e =>
      if (e.file.bytes.length : Int) ≠ call.expected_bytes then .raises (.blob .stored_byte_count_differs)
      else .goes disk (.verify_read file)
  | .verify_read file =>
    match disk.leaves call.expected_digest with
    | none => .raises (.blob .file_not_found)
    | some e =>
      if Digest.sha256 e.file.bytes ≠ call.expected_digest then .raises (.blob .stored_digest_differs)
      else .goes disk (.register file true)
  | .register file _ =>
    if KeyFree prior call then .returns file.bytes else .raises .idempotency_conflict

/-- The next system call of `p`. -/
def advance [DecidableEq P] (st : State P) (p : P) (call : PutCall) (pc : PutPc) : State P :=
  match next st.disk (st.idempotency call.store call.idempotency_key) call pc with
  | .raises e =>
    { st with procs := Function.update st.procs p none, history := .raised e :: st.history }
  | .goes disk pc =>
    { st with disk := disk, procs := Function.update st.procs p (some (call, pc)) }
  | .returns content =>
    { st with
      procs := Function.update st.procs p none
      idempotency := Function.update st.idempotency call.store
        (Function.update (st.idempotency call.store) call.idempotency_key (some call.identity))
      history := .returned call.ref content :: st.history }

/-- Any number of `put` calls on a disk that was there before; a crash ends them all. -/
def machine [DecidableEq P] (disk : Disk) : Machine (State P) (Label P) where
  Init st := st = ⟨disk, fun _ => none, fun _ _ => none, []⟩
  step st
    | .start p call =>
      match st.procs p with
      | none => some { st with procs := Function.update st.procs p (some (call, .check_key)) }
      | some _ => none
    | .step p => (st.procs p).map fun proc => advance st p proc.1 proc.2
    | .crash =>
      some { st with disk := st.disk.crash, procs := fun _ => none, idempotency := fun _ _ => none }

/-! ## Durable puts -/

/-- After a crash the leaf of `d` has exactly these bytes. -/
def Survives (disk : Disk) (d : Digest) (content : Bytes) : Prop :=
  ∃ e, disk.crash.leaves d = some e ∧ e.file.bytes = content

/-- Whatever `put` returned for survives a crash that comes now, and no leaf, now or after that
crash, has other bytes than its name says. -/
structure Durable (st : State P) : Prop where
  kept : ∀ ref content, .returned ref content ∈ st.history → Survives st.disk ref.digest content
  sound : ∀ d e, st.disk.leaves d = some e ∨ st.disk.crash.leaves d = some e →
    Digest.sha256 e.file.bytes = d

/-- When `put` returns, the root, `sha256` and `sha256/<shard>` have been fsynced into their own
parents; and if it found the leaf there, the leaf has its bytes and the shard was
fsynced since the leaf was made. -/
def Settled (st : State P) : Label P → Prop
  | .step p => ∀ call file found, st.procs p = some (call, .register file found) →
    KeyFree (st.idempotency call.store call.idempotency_key) call →
      st.disk.DirectoryDurable (shardName call.expected_digest) ∧
        (found = true → ∃ e, st.disk.leaves call.expected_digest = some e ∧ e.synced = true ∧
          e.file.bytes = file.bytes)
  | _ => True

/-! ### The disk only grows -/

/-- Nothing on the disk is lost or changed, and what was fsynced stays so. -/
structure Grows (k k' : Disk) : Prop where
  root : k.root = true → k'.root = true
  sha256 : k.sha256 = some true → k'.sha256 = some true
  shards : ∀ shard, k.shards shard = some true → k'.shards shard = some true
  leaves : ∀ d e, k.leaves d = some e →
    ∃ e', k'.leaves d = some e' ∧ e'.file = e.file ∧ (e.synced = true → e'.synced = true)

theorem Grows.refl (k : Disk) : Grows k k :=
  ⟨fun h => h, fun h => h, fun _ h => h, fun _ e he => ⟨e, he, rfl, fun h => h⟩⟩

variable {k : Disk} {d : Digest}

theorem crash_leaves {e : LeafEntry} :
    k.crash.leaves d = some e ↔ k.DirectoryDurable (shardName d) ∧
      ∃ file, k.leaves d = some ⟨file, true⟩ ∧ e = ⟨⟨file.synced, file.synced⟩, true⟩ := by
  unfold Disk.crash
  dsimp only
  split
  · rename_i file hleaf
    split
    · rename_i hdurable
      rw [hleaf]
      constructor
      · intro h
        cases h
        exact ⟨hdurable, file, rfl, rfl⟩
      · rintro ⟨_, file', hfile, rfl⟩
        cases hfile
        rfl
    · rename_i hdurable
      constructor
      · intro h
        cases h
      · intro h
        exact absurd h.1 hdurable
  · rename_i hleaf
    constructor
    · intro h
      cases h
    · rintro ⟨_, file, hfile, _⟩
      exact absurd hfile (hleaf file)

variable {content : Bytes}

/-- What survives a crash: a leaf with these bytes, and every entry on the way to it. -/
theorem survives_iff (hsound : k.Sound) :
    Survives k d content ↔ k.DirectoryDurable (shardName d) ∧
      ∃ e, k.leaves d = some e ∧ e.synced = true ∧ e.file.bytes = content := by
  constructor
  · rintro ⟨e, he, hbytes⟩
    obtain ⟨hdurable, file, hfile, rfl⟩ := crash_leaves.1 he
    refine ⟨hdurable, _, hfile, rfl, ?_⟩
    rw [← hbytes]
    exact (hsound d _ hfile).2.symm
  · rintro ⟨hdurable, ⟨file, synced⟩, hleaf, hsynced, hbytes⟩
    have hsynced : synced = true := hsynced
    subst hsynced
    refine ⟨_, crash_leaves.2 ⟨hdurable, file, hleaf, rfl⟩, ?_⟩
    exact (hsound d _ hleaf).2.trans hbytes

theorem Survives.grows {k' : Disk} (h : Grows k k') (hsound : k.Sound) (hsound' : k'.Sound)
    (hsurvives : Survives k d content) : Survives k' d content := by
  obtain ⟨⟨hroot, hsha, hshard⟩, e, hleaf, hsynced, hbytes⟩ := (survives_iff hsound).1 hsurvives
  obtain ⟨e', hleaf', hfile, hsync⟩ := h.leaves d e hleaf
  refine (survives_iff hsound').2
    ⟨⟨h.root hroot, h.sha256 hsha, h.shards _ hshard⟩, e', hleaf', hsync hsynced, ?_⟩
  rw [hfile, hbytes]

/-- A crash takes nothing that survives it. -/
theorem Survives.crash (h : Survives k d content) :
    Survives k.crash d content := by
  obtain ⟨e, he, hbytes⟩ := h
  obtain ⟨⟨hroot, hsha, hshard⟩, file, hfile, rfl⟩ := crash_leaves.1 he
  refine ⟨_, crash_leaves.2 ⟨⟨hroot, ?_, ?_⟩, _, he, rfl⟩, hbytes⟩
  · exact if_pos ⟨hroot, hsha⟩
  · exact if_pos ⟨hroot, hsha, hshard⟩

theorem Disk.Sound.crash (h : k.Sound) : k.crash.Sound := by
  intro d e he
  obtain ⟨_, file, hfile, rfl⟩ := crash_leaves.1 he
  obtain ⟨hdigest, hsynced⟩ := h d _ hfile
  refine ⟨?_, rfl⟩
  show Digest.sha256 file.synced = d
  have hsynced : file.synced = file.bytes := hsynced
  rw [hsynced]
  exact hdigest

/-! ### The invariant -/

/-- The temporary file is fsynced and has the digest it was promised under. -/
@[reducible] def Staged (call : PutCall) (file : File) : Prop :=
  Digest.sha256 file.bytes = call.expected_digest ∧ file.synced = file.bytes

/-- What a `put` knows at its next system call. -/
def Knows (disk : Disk) (call : PutCall) : PutPc → Prop
  | .check_key | .copying _ _ | .fsync _ => True
  | .mkdir file | .mkdir_parent file | .link file | .verify_stat file | .verify_read file
  | .register file true => Staged call file
  | .fsync_directory file =>
    Staged call file ∧ ∃ e, disk.leaves call.expected_digest = some e ∧ e.file = file
  | .register file false =>
    Staged call file ∧
      ∃ e, disk.leaves call.expected_digest = some e ∧ e.file = file ∧ e.synced = true

variable {call : PutCall}

theorem Knows.grows {k' : Disk} (h : Grows k k') {pc : PutPc} (hknows : Knows k call pc) :
    Knows k' call pc := by
  cases pc with
  | check_key | copying rest output | fsync output => trivial
  | mkdir file | mkdir_parent file | link file | verify_stat file | verify_read file => exact hknows
  | fsync_directory file =>
    obtain ⟨hstaged, e, hleaf, hfile⟩ := hknows
    obtain ⟨e', hleaf', hfile', _⟩ := h.leaves _ e hleaf
    exact ⟨hstaged, e', hleaf', hfile'.trans hfile⟩
  | register file found =>
    cases found with
    | true => exact hknows
    | false =>
      obtain ⟨hstaged, e, hleaf, hfile, hsynced⟩ := hknows
      obtain ⟨e', hleaf', hfile', hsync⟩ := h.leaves _ e hleaf
      exact ⟨hstaged, e', hleaf', hfile'.trans hfile, hsync hsynced⟩

structure Inv (st : State P) : Prop where
  sound : st.disk.Sound
  knows : ∀ p call pc, st.procs p = some (call, pc) → Knows st.disk call pc

theorem validate_ok (h : validate call content = .ok ()) :
    Digest.sha256 content = call.expected_digest := by
  unfold validate at h
  split at h
  · cases h
  split at h
  · cases h
  · exact not_not.1 ‹_›

/-- A new shard directory or a new leaf is one more entry. -/
theorem grows_link (file : File) (hfree : k.leaves d = none) :
    Grows k (k.link d file) := by
  refine ⟨fun h => h, fun h => h, fun _ h => h, ?_⟩
  intro d' e he
  refine ⟨e, ?_, rfl, fun h => h⟩
  show Function.update k.leaves d _ d' = _
  rw [Function.update_of_ne]
  · exact he
  · rintro rfl
    rw [hfree] at he
    cases he

theorem grows_fsyncDirectory (k : Disk) (shard : PyStr) : Grows k (k.fsyncDirectory shard) := by
  refine ⟨fun h => h, fun h => h, fun _ h => h, ?_⟩
  intro d e he
  refine ⟨if shardName d = shard then { e with synced := true } else e, ?_, ?_, ?_⟩
  · show (k.leaves d).map _ = _
    rw [he]
    rfl
  · split <;> rfl
  · intro hsynced
    split
    · rfl
    · exact hsynced

theorem sound_link (h : k.Sound) {file : File} (hdigest : Digest.sha256 file.bytes = d)
    (hsynced : file.synced = file.bytes) : (k.link d file).Sound := by
  intro d' e he
  have he : Function.update k.leaves d (some ⟨file, false⟩) d' = some e := he
  by_cases hd : d' = d
  · subst hd
    rw [Function.update_self] at he
    cases he
    exact ⟨hdigest, hsynced⟩
  · rw [Function.update_of_ne hd] at he
    exact h d' e he

theorem sound_fsyncDirectory (h : k.Sound) (shard : PyStr) : (k.fsyncDirectory shard).Sound := by
  intro d e he
  obtain ⟨e', he', rfl⟩ := Option.map_eq_some_iff.1 he
  have hleaf := h d e' he'
  split <;> exact hleaf

/-- A system call that `put` goes on after. -/
theorem next_goes {k' : Disk} (hsound : k.Sound) {prior : Option (Digest × Int)} {pc pc' : PutPc}
    (hknows : Knows k call pc) (h : next k prior call pc = .goes k' pc') :
    Grows k k' ∧ k'.Sound ∧ Knows k' call pc' := by
  cases pc with
  | check_key =>
    simp only [next] at h
    split at h
    · cases h
    split at h
    · cases h
    split at h
    · cases h
      exact ⟨.refl k, hsound, trivial⟩
    · cases h
  | copying rest output =>
    cases rest with
    | nil =>
      cases h
      exact ⟨.refl k, hsound, trivial⟩
    | cons chunk rest =>
      simp only [next] at h
      split at h
      · cases h
        exact ⟨.refl k, hsound, trivial⟩
      split at h
      · cases h
      · cases h
        exact ⟨.refl k, hsound, trivial⟩
  | fsync output =>
    simp only [next] at h
    split at h
    · cases h
    · rename_i hvalid
      cases h
      exact ⟨.refl k, hsound, validate_ok hvalid, rfl⟩
  | mkdir file =>
    simp only [next] at h
    split at h
    · cases h
      exact ⟨.refl k, hsound, hknows⟩
    · cases h
      exact ⟨.refl k, hsound, hknows⟩
    · rename_i hshard
      cases h
      refine ⟨⟨fun h => h, fun h => h, ?_, fun _ e he => ⟨e, he, rfl, fun h => h⟩⟩, hsound, hknows⟩
      intro shard h
      show Function.update k.shards _ _ shard = _
      rw [Function.update_of_ne]
      · exact h
      · rintro rfl
        rw [hshard] at h
        cases h
  | mkdir_parent file =>
    cases h
    refine ⟨⟨fun h => h, ?_, fun _ h => h, fun _ e he => ⟨e, he, rfl, fun h => h⟩⟩, hsound, hknows⟩
    intro h
    show some (k.sha256.getD false) = some true
    rw [h]
    rfl
  | link file =>
    simp only [next] at h
    split at h
    · cases h
    · cases h
      exact ⟨.refl k, hsound, hknows⟩
    · rename_i hfree
      cases h
      refine ⟨grows_link file hfree, sound_link hsound hknows.1 hknows.2, hknows, ⟨file, false⟩, ?_, rfl⟩
      exact Function.update_self ..
  | fsync_directory file =>
    cases h
    obtain ⟨hstaged, e, hleaf, hfile⟩ := hknows
    refine ⟨grows_fsyncDirectory k _, sound_fsyncDirectory hsound _, hstaged, { e with synced := true }, ?_,
      hfile, rfl⟩
    show (k.leaves call.expected_digest).map _ = _
    rw [hleaf, Option.map_some, if_pos rfl]
  | verify_stat file | verify_read file =>
    simp only [next] at h
    split at h
    · cases h
    split at h
    · cases h
    · cases h
      exact ⟨.refl k, hsound, hknows⟩
  | register file found =>
    simp only [next] at h
    split at h <;> cases h

/-- The last step of a `put` that returns. -/
theorem next_returns {prior : Option (Digest × Int)} {pc : PutPc} : next k prior call pc = .returns content ↔
      ∃ file found, pc = .register file found ∧ KeyFree prior call ∧ content = file.bytes := by
  constructor
  · intro h
    unfold next at h
    split at h
    case h_11 file found =>
      split at h
      · rename_i hkey
        cases h
        exact ⟨file, found, rfl, hkey, rfl⟩
      · cases h
    all_goals
      repeat' split at h
      all_goals cases h
  · rintro ⟨file, found, rfl, hkey, rfl⟩
    exact if_pos hkey

variable {st : State P}

theorem Inv.unharmed (h : Inv st) {e : LeafEntry} (he : st.disk.leaves d = some e ∨ st.disk.crash.leaves d = some e) : Digest.sha256 e.file.bytes = d := by
  rcases he with he | he
  · exact (h.sound d e he).1
  · exact (Disk.Sound.crash h.sound d e he).1

/-- A `put` that ends its step elsewhere than at the return promises nothing. -/
theorem settled_of_next_ne {p : P} {pc : PutPc} (hproc : st.procs p = some (call, pc))
    (hnext : ∀ content, next st.disk (st.idempotency call.store call.idempotency_key) call pc ≠ .returns content) : Settled st (.step p) := by
  intro call' file found hproc' hkey
  rw [hproc] at hproc'
  cases hproc'
  exact absurd (next_returns.2 ⟨file, found, rfl, hkey, rfl⟩) (hnext file.bytes)

theorem Durable.keep {st' : State P} (h : Durable st) (hst : st.disk.Sound) (hst' : Inv st')
    (hgrows : Grows st.disk st'.disk)
    (hhistory : ∀ ref content, .returned ref content ∈ st'.history → .returned ref content ∈ st.history) :
    Durable st' := by
  refine ⟨?_, fun _ _ he => hst'.unharmed he⟩
  intro ref content hmem
  exact (h.kept ref content (hhistory ref content hmem)).grows hgrows hst hst'.sound

/-- A return keeps the promise exactly if everything it rests on has been fsynced. -/
theorem settled_register (hinv : Inv st) {p : P} {file : File} {found : Bool}
    (hproc : st.procs p = some (call, .register file found))
    (hkey : KeyFree (st.idempotency call.store call.idempotency_key) call) :
    Settled st (.step p) ↔ Survives st.disk call.expected_digest file.bytes := by
  rw [survives_iff hinv.sound]
  constructor
  · intro hsettled
    obtain ⟨hdurable, hfound⟩ := hsettled call file found hproc hkey
    refine ⟨hdurable, ?_⟩
    cases found with
    | true => exact hfound rfl
    | false =>
      obtain ⟨_, e, hleaf, hfile, hsynced⟩ := hinv.knows p call _ hproc
      exact ⟨e, hleaf, hsynced, by rw [hfile]⟩
  · rintro ⟨hdurable, hleaf⟩ call' file' found' hproc' _
    rw [hproc] at hproc'
    cases hproc'
    exact ⟨hdurable, fun _ => hleaf⟩

/-- The store comes up over a disk whose leaves have the bytes of their names. -/
def start (P : Type) (disk : {k : Disk // k.Sound}) : State P := ⟨disk, fun _ => none, fun _ _ => none, []⟩

theorem inv_start (disk : {k : Disk // k.Sound}) : Inv (start P disk) :=
  ⟨disk.2, fun _ _ _ h => by cases h⟩

theorem durable_start (disk : {k : Disk // k.Sound}) : Durable (start P disk) :=
  ⟨fun _ _ h => (List.not_mem_nil h).elim, fun _ _ he => (inv_start (P := P) disk).unharmed he⟩

section Runs

variable [DecidableEq P]

theorem inv_step {disk : Disk} {st' : State P} {a : Label P} (h : Inv st)
    (hstep : (machine disk).step st a = some st') : Inv st' := by
  cases a with
  | start p call =>
    simp only [machine] at hstep
    split at hstep
    · cases hstep
      refine ⟨h.sound, ?_⟩
      intro p' call' pc' hp'
      dsimp only at hp'
      by_cases hp : p' = p
      · subst hp
        rw [Function.update_self] at hp'
        cases hp'
        trivial
      · rw [Function.update_of_ne hp] at hp'
        exact h.knows p' call' pc' hp'
    · cases hstep
  | crash =>
    cases hstep
    exact ⟨Disk.Sound.crash h.sound, fun p call pc hp => by cases hp⟩
  | step p =>
    obtain ⟨⟨call, pc⟩, hproc, rfl⟩ := Option.map_eq_some_iff.1 hstep
    have hothers : ∀ (k' : Disk), Grows st.disk k' → ∀ o, (∀ call' pc', o = some (call', pc') → Knows k' call' pc') →
        ∀ p' call' pc', Function.update st.procs p o p' = some (call', pc') → Knows k' call' pc' := by
      intro k' hgrows o ho p' call' pc' hp'
      by_cases hp : p' = p
      · subst hp
        rw [Function.update_self] at hp'
        exact ho call' pc' hp'
      · rw [Function.update_of_ne hp] at hp'
        exact (h.knows p' call' pc' hp').grows hgrows
    unfold advance
    dsimp only
    cases hnext : next st.disk (st.idempotency call.store call.idempotency_key) call pc with
    | raises e => exact ⟨h.sound, hothers _ (.refl _) none fun _ _ ho => by cases ho⟩
    | goes disk' pc' =>
      obtain ⟨hgrows, hsound, hknows⟩ := next_goes h.sound (h.knows p call pc hproc) hnext
      refine ⟨hsound, hothers _ hgrows _ ?_⟩
      intro call' pc'' ho
      cases ho
      exact hknows
    | returns content => exact ⟨h.sound, hothers _ (.refl _) none fun _ _ ho => by cases ho⟩

theorem durable_step {disk : Disk} {st' : State P} {a : Label P} (hinv : Inv st) (h : Durable st)
    (hstep : (machine disk).step st a = some st') : Durable st' ↔ Settled st a := by
  have hinv' : Inv st' := inv_step hinv hstep
  cases a with
  | start p call =>
    simp only [machine] at hstep
    split at hstep
    · cases hstep
      exact iff_of_true (h.keep hinv.sound hinv' (.refl _) fun _ _ hmem => hmem) trivial
    · cases hstep
  | crash =>
    cases hstep
    refine iff_of_true ⟨?_, fun _ _ he => hinv'.unharmed he⟩ trivial
    intro ref content hmem
    exact (h.kept ref content hmem).crash
  | step p =>
    obtain ⟨⟨call, pc⟩, hproc, hst'⟩ := Option.map_eq_some_iff.1 hstep
    simp only [advance] at hst'
    cases hnext : next st.disk (st.idempotency call.store call.idempotency_key) call pc with
    | raises e =>
      rw [hnext] at hst'
      subst hst'
      refine iff_of_true (h.keep hinv.sound hinv' (.refl _) ?_) (settled_of_next_ne hproc ?_)
      · intro ref content hmem
        exact (List.mem_cons.1 hmem).resolve_left (by simp)
      · rw [hnext]
        simp
    | goes disk' pc' =>
      rw [hnext] at hst'
      subst hst'
      obtain ⟨hgrows, _, _⟩ := next_goes hinv.sound (hinv.knows p call pc hproc) hnext
      refine iff_of_true (h.keep hinv.sound hinv' hgrows fun _ _ hmem => hmem) (settled_of_next_ne hproc ?_)
      rw [hnext]
      simp
    | returns content =>
      rw [hnext] at hst'
      subst hst'
      obtain ⟨file, found, rfl, hkey, rfl⟩ := next_returns.1 hnext
      rw [settled_register hinv hproc hkey]
      constructor
      · intro hdurable
        exact hdurable.kept call.ref file.bytes (List.mem_cons_self ..)
      · intro hsurvives
        refine ⟨?_, fun _ _ he => hinv'.unharmed he⟩
        intro ref content hmem
        rcases List.mem_cons.1 hmem with hnew | hold
        · cases hnew
          exact hsurvives
        · exact h.kept ref content hold

/-- Whatever the interleaving of the calls and wherever the crashes come: returned puts stay exactly if
every return came when all it rests on had been fsynced. -/
theorem put_durable_iff (disk : {k : Disk // k.Sound}) (as : List (Label P)) :
    (machine disk.1).AllStates Durable (start P disk) as ↔
      (machine disk.1).AllSteps Settled (start P disk) as := by
  refine Machine.allStates_iff_allSteps _ ?_ ?_ (inv_start disk) (durable_start disk) as
  · intro st a st' hinv hstep
    exact inv_step hinv hstep
  · intro st a st' hinv hdurable hstep
    exact durable_step hinv hdurable hstep

end Runs

/-! ### Puts that a crash takes back -/

/-- `put` of no bytes. -/
def emptyPut : PutCall where
  store := 0
  stream := []
  expected_digest := Digest.sha256 []
  expected_bytes := 0
  media_type := str "application/octet-stream"
  format_id := str "raw"
  idempotency_key := str "key"

/-- A root that a store has just made, and one where the shard of the empty object was fsynced. -/
def freshDisk : Disk := ⟨true, none, fun _ => none, fun _ => none⟩

def shardedDisk : Disk := ⟨true, some true, fun _ => some true, fun _ => none⟩

theorem sound_of_no_leaves (h : ∀ d, k.leaves d = none) : k.Sound := by
  intro d e he
  rw [h d] at he
  cases he

def steps (p : Bool) (n : Nat) : List (Label Bool) := List.replicate n (.step p)

/-- One `put` makes `sha256` and its shard. -/
def freshRun : List (Label Bool) := .start true emptyPut :: steps true 9

/-- One `put` links the leaf, the other finds it there and returns. -/
def racingRun : List (Label Bool) :=
  .start true emptyPut :: steps true 5 ++ .start false emptyPut :: steps false 8

/-- `put` has returned for the empty object, and its leaf does not survive. -/
def Broken (st : State Bool) : Prop :=
  st.history = [.returned emptyPut.ref []] ∧ st.disk.crash.leaves emptyPut.expected_digest = none

instance : DecidablePred Broken := fun _ => inferInstanceAs (Decidable (_ ∧ _))

theorem Broken.not_durable {st : State Bool} (h : Broken st) : ¬Durable st := by
  intro hdurable
  have hmem : PutEvent.returned emptyPut.ref [] ∈ st.history := by
    rw [h.1]
    exact List.mem_singleton_self _
  obtain ⟨e, he, _⟩ := hdurable.kept _ _ hmem
  have hnone : st.disk.crash.leaves emptyPut.ref.digest = none := h.2
  rw [hnone] at he
  cases he

/-- `sha256` and its shard are never fsynced into their parents, and a `put` that found the leaf there
fsyncs nothing. -/
theorem returned_put_can_be_lost :
    ¬(machine freshDisk).AllStates Durable (start Bool ⟨freshDisk, sound_of_no_leaves fun _ => rfl⟩)
        freshRun ∧
      ¬(machine shardedDisk).AllStates Durable (start Bool ⟨shardedDisk, sound_of_no_leaves fun _ => rfl⟩)
        racingRun := by
  constructor
  · intro hall
    have hrun : ∃ st ∈ (machine freshDisk).run
        (start Bool ⟨freshDisk, sound_of_no_leaves fun _ => rfl⟩) freshRun, Broken st := by
      decide +kernel
    obtain ⟨st, hst, hbroken⟩ := hrun
    exact hbroken.not_durable (Machine.run_allStates _ hall hst)
  · intro hall
    have hrun : ∃ st ∈ (machine shardedDisk).run
        (start Bool ⟨shardedDisk, sound_of_no_leaves fun _ => rfl⟩) racingRun, Broken st := by
      decide +kernel
    obtain ⟨st, hst, hbroken⟩ := hrun
    exact hbroken.not_durable (Machine.run_allStates _ hall hst)

end Durability

end LeoFlow
