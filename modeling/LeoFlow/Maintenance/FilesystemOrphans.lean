import LeoFlow.Catalog.Objects
import LeoFlow.Storage.Filesystem

/-!
# LeoFlow.Maintenance.FilesystemOrphans — inventory and exact deletion

`maintenance/filesystem_orphans.py`: the bounded, deterministic inventory of the
store's leaves, and the unlink that first compares the leaf with the evidence
of the claim.
-/

namespace LeoFlow

/-- `InventoryEntry`: a canonical entry carries its digest and evidence, a
corrupt-name entry carries neither. -/
inductive InventoryEntry where
  | canonical (digest : Digest) (evidence : FileEvidence)
  | corrupt_name (key : PyStr)
deriving DecidableEq

/-- The key of a canonical leaf: `sha256/<shard>/<digest>`. -/
def leafKey (d : Digest) : PyStr := str "sha256/" ++ shardName d ++ str "/" ++ d.value

def InventoryEntry.key : InventoryEntry → PyStr
  | .canonical d _ => leafKey d
  | .corrupt_name key => key

/-- `_evidence`: the leaf's and its parent's facts. -/
def fileEvidence (l : Leaf) (parent : Shard) : FileEvidence :=
  ⟨l.bytes.length, l.device, l.inode, parent.device, parent.inode, l.mtime_ns⟩

/-- What the exact-evidence check finds under a canonical name. -/
inductive Inspection where
  /-- `FileNotFoundError`: the shard or the leaf is gone -/
  | missing
  /-- `EvidenceChangedError`: another shard directory or another file -/
  | changed
  /-- the leaf still has the recorded evidence -/
  | exact
deriving DecidableEq

namespace Cas

/-- `_open_parent` and `_leaf_evidence` of one claimed entry, compared with its
evidence: first the shard's identity, then the leaf. -/
def inspect (c : Cas) (d : Digest) (evidence : FileEvidence) : Inspection :=
  match c.shard d with
  | none => .missing
  | some parent =>
    if parent.device ≠ evidence.parent_device ∨ parent.inode ≠ evidence.parent_inode then .changed
    else
      match c.leaf d with
      | none => .missing
      | some l => if fileEvidence l parent = evidence then .exact else .changed

/-- The unlink itself removes only what the check found to be exact. -/
def unlinkExact (c : Cas) (d : Digest) (evidence : FileEvidence) : Except Unit Cas :=
  match c.inspect d evidence with
  | .missing => .ok c
  | .changed => .error ()
  | .exact => .ok (c.unlink d)

/-- `_all_entries`, in directory order. -/
def allEntries (c : Cas) : List InventoryEntry :=
  c.others.map .corrupt_name ++
    c.leaves.entries.filterMap fun e =>
      (c.shard e.1).map fun parent => .canonical e.1 (fileEvidence e.2 parent)

/-- The directory entries one scan reads: shards, leaves, and other names. -/
def directoryEntries (c : Cas) : Nat :=
  c.shards.entries.length + c.leaves.entries.length + c.others.length

/-- `inventory`: the entries after the cursor in key order, cut at `limit`, and the
cursor of the next page when there is one. -/
def inventory (c : Cas) (after : Option PyStr) (limit : Nat) :
    List InventoryEntry × Option PyStr :=
  let entries := c.allEntries.insertionSort fun a b => a.key ≤ b.key
  let selected := (entries.filter fun e => ∀ a ∈ after, a < e.key).take limit
  match selected.getLast? with
  | none => ([], none)
  | some last => (selected, if ∃ e ∈ entries, last.key < e.key then some last.key else none)

/-! ## Facts about the exact-evidence check -/

theorem inspect_unlink_ne {c : Cas} {d d' : Digest} (h : d' ≠ d) (evidence : FileEvidence) :
    (c.unlink d).inspect d' evidence = c.inspect d' evidence := by
  have hshard : (c.unlink d).shard d' = c.shard d' := rfl
  simp only [inspect, hshard, leaf_unlink, if_neg h]

/-- Removing a leaf never makes a check find a different file. -/
theorem inspect_unlink_ne_changed {c : Cas} {d' : Digest} {evidence : FileEvidence}
    (h : c.inspect d' evidence ≠ .changed) (d : Digest) :
    (c.unlink d).inspect d' evidence ≠ .changed := by
  by_cases hd : d' = d
  · subst hd
    have hshard : (c.unlink d').shard d' = c.shard d' := rfl
    unfold inspect at h ⊢
    rw [hshard, leaf_unlink, if_pos rfl]
    cases hp : c.shard d' with
    | none => exact fun h => Inspection.noConfusion h
    | some parent =>
      simp only [hp] at h ⊢
      split
      · rename_i hid
        rw [if_pos hid] at h
        exact absurd rfl h
      · exact fun h => Inspection.noConfusion h
  · rw [inspect_unlink_ne hd]
    exact h

end Cas

end LeoFlow
