import LeoFlow.Core.Table
import LeoFlow.Contracts.Core

/-!
# LeoFlow.Storage.Filesystem — the content-addressed store

`storage/filesystem.py`. An object lives in one leaf
`sha256/<first two digits>/<digest>`; `put` stages the bytes in a private
temporary file and publishes it with one `os.link`, or, when the leaf already
exists, verifies that leaf and relies on it. The file operations are separate
definitions because other processes can run between any two of them.
-/

namespace LeoFlow

/-- A regular file: its bytes and the `os.fstat` facts maintenance records. -/
structure Leaf where
  bytes : Bytes
  device : Nat
  inode : Nat
  mtime_ns : Nat
deriving DecidableEq

/-- The directory of one two-digit shard. -/
structure Shard where
  device : Nat
  inode : Nat
deriving DecidableEq

/-- The shard of a digest: `digest.value[:2]`. -/
def shardName (d : Digest) : PyStr := d.value.take 2

/-- The tree below `<root>/sha256`. `others` lists the keys of names that are not
canonical leaves. Every leaf has its shard directory. -/
structure Cas where
  shards : Table PyStr Shard
  leaves : Table Digest Leaf
  others : List PyStr
  shard_of_leaf : ∀ d leaf, leaves.lookup d = some leaf →
    (shards.lookup (shardName d)).isSome

namespace Cas

def empty : Cas where
  shards := ∅
  leaves := ∅
  others := []
  shard_of_leaf := by simp

def leaf (c : Cas) (d : Digest) : Option Leaf := c.leaves.lookup d

def shard (c : Cas) (d : Digest) : Option Shard := c.shards.lookup (shardName d)

/-- `target.parent.mkdir(parents=True, exist_ok=True)` -/
def mkdir (c : Cas) (d : Digest) (new : Shard) : Cas :=
  match c.shards.lookup (shardName d) with
  | some _ => c
  | none =>
    { c with
      shards := c.shards.insert (shardName d) new
      shard_of_leaf := by
        intro d' l hl
        have := c.shard_of_leaf d' l hl
        rw [Table.lookup_insert_ite]
        split
        · rfl
        · exact this }

theorem isSome_shard_mkdir (c : Cas) (d : Digest) (new : Shard) :
    ((c.mkdir d new).shards.lookup (shardName d)).isSome := by
  unfold mkdir
  split
  · rename_i h
    simp [h]
  · simp

@[simp] theorem leaf_mkdir (c : Cas) (d d' : Digest) (new : Shard) :
    (c.mkdir d new).leaf d' = c.leaf d' := by
  unfold mkdir leaf
  split <;> rfl

/-- `os.link(temporary, target)` after `mkdir`; `none` is `FileExistsError`. -/
def link (c : Cas) (d : Digest) (new : Shard) (l : Leaf) : Option Cas :=
  match c.leaf d with
  | some _ => none
  | none =>
    some
      { c.mkdir d new with
        leaves := (c.mkdir d new).leaves.insert d l
        shard_of_leaf := by
          intro d' l' hl
          rw [Table.lookup_insert_ite] at hl
          split at hl
          · rename_i h
            subst h
            exact c.isSome_shard_mkdir d' new
          · exact (c.mkdir d new).shard_of_leaf d' l' hl }

/-- `os.unlink`; a missing leaf stays missing. -/
def unlink (c : Cas) (d : Digest) : Cas :=
  { c with
    leaves := c.leaves.erase d
    shard_of_leaf := by
      intro d' l hl
      rw [Table.lookup_erase_ite] at hl
      split at hl
      · cases hl
      · exact c.shard_of_leaf d' l hl }

@[simp] theorem leaf_empty (d : Digest) : empty.leaf d = none := rfl

theorem link_eq_some {c c' : Cas} {d : Digest} {new : Shard} {l : Leaf}
    (h : c.link d new l = some c') :
    c.leaf d = none ∧ ∀ d', c'.leaf d' = if d' = d then some l else c.leaf d' := by
  unfold link at h
  split at h
  · cases h
  · rename_i hnone
    simp only [Option.some.injEq] at h
    subst h
    refine ⟨hnone, fun d' => ?_⟩
    have hmk : (c.mkdir d new).leaves.lookup d' = c.leaf d' := c.leaf_mkdir d d' new
    simp only [leaf, Table.lookup_insert_ite, hmk]

@[simp] theorem leaf_unlink (c : Cas) (d d' : Digest) :
    (c.unlink d).leaf d' = if d' = d then none else c.leaf d' := by
  simp [unlink, leaf]

/-- The leaf of `d` holds `n` bytes whose digest is `d`. -/
def Holds (c : Cas) (d : Digest) (n : Nat) : Prop :=
  ∃ l, c.leaf d = some l ∧ Digest.sha256 l.bytes = d ∧ l.bytes.length = n

/-- Every leaf hashes to its own name. -/
def Sound (c : Cas) : Prop :=
  ∀ d l, c.leaf d = some l → Digest.sha256 l.bytes = d

theorem Sound.unlink {c : Cas} (h : c.Sound) (d : Digest) : (c.unlink d).Sound := by
  intro d' l hl
  rw [leaf_unlink] at hl
  split at hl
  · cases hl
  · exact h d' l hl

end Cas

/-! ## put -/

/-- What `put` and `_verify_path` raise. -/
inductive BlobStoreError where
  /-- "stream exceeds expected byte count" -/
  | stream_exceeds
  /-- "byte count differs: expected .., received .." -/
  | byte_count_differs
  /-- "stream digest does not match expected digest" -/
  | stream_digest_differs
  /-- "object is missing" -/
  | object_missing
  /-- "stored object byte count differs" -/
  | stored_byte_count_differs
  /-- `FileNotFoundError` from opening a leaf that was there for `stat` -/
  | file_not_found
  /-- "stored object digest differs" -/
  | stored_digest_differs
deriving DecidableEq

/-- The copy loop of `put`: stops at the first empty read, and as soon as more
than `expected_bytes` bytes are written. -/
def copyStream (expected_bytes : Nat) : List Bytes → Bytes → Except BlobStoreError Bytes
  | [], output => .ok output
  | chunk :: rest, output =>
    if chunk = [] then .ok output
    else if expected_bytes < (output ++ chunk).length then .error .stream_exceeds
    else copyStream expected_bytes rest (output ++ chunk)

/-- `put` up to the link: the temporary file's bytes, checked against the caller's
digest and count. -/
def stage (stream : List Bytes) (expected_digest : Digest) (expected_bytes : Nat) :
    Except BlobStoreError Bytes := do
  let content ← copyStream expected_bytes stream []
  if content.length ≠ expected_bytes then throw .byte_count_differs
  if Digest.sha256 content ≠ expected_digest then throw .stream_digest_differs
  return content

/-- What `put` links was checked. -/
theorem stage_ok {stream : List Bytes} {d : Digest} {n : Nat} {content : Bytes}
    (h : stage stream d n = .ok content) :
    Digest.sha256 content = d ∧ content.length = n := by
  unfold stage at h
  cases hc : copyStream n stream [] with
  | error e => simp [hc, bind, Except.bind] at h
  | ok c =>
    simp only [hc, bind, Except.bind] at h
    split at h
    · cases h
    · rename_i hlen
      split at h
      · cases h
      · rename_i hd
        cases h
        exact ⟨not_not.1 hd, not_not.1 hlen⟩

/-- The first half of `_verify_path`: `stat`, kind and size. -/
def verifyStat (c : Cas) (d : Digest) (expected_bytes : Nat) : Except BlobStoreError Unit :=
  match c.leaf d with
  | none => .error .object_missing
  | some l =>
    if l.bytes.length ≠ expected_bytes then .error .stored_byte_count_differs else .ok ()

/-- The second half of `_verify_path`: open, read and hash. -/
def verifyRead (c : Cas) (d : Digest) : Except BlobStoreError Unit :=
  match c.leaf d with
  | none => .error .file_not_found
  | some l => if Digest.sha256 l.bytes ≠ d then .error .stored_digest_differs else .ok ()

/-- The reference `put` returns. -/
def putRef (d : Digest) (expected_bytes : Nat) (media_type format_id : PyStr) : ObjectRef :=
  ⟨d, expected_bytes, media_type, format_id, casLocator d⟩

end LeoFlow
