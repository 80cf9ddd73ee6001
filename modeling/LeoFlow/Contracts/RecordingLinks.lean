import LeoFlow.Contracts.Raising
import LeoFlow.Contracts.Storage
import LeoFlow.Core.DecimalText

/-!
# LeoFlow.Contracts.RecordingLinks — the links of one recording

The hardware link of `contracts/hardware.py`, and the ephemeris selection and link of
`contracts/ephemeris.py`. A link names the digest of what it joins, and its identifier
begins with that digest.
-/

namespace LeoFlow

/-- The identifier and the digest of a link, against the digest of what it joins. Every `Digest` is a SHA-256. -/
def checkLink (name stem : String) (link_id : PyStr) (link_digest expected : Digest) : Except PyError Unit :=
  let suffix := link_id.drop (str stem).length
  checkAll [
    raiseIf (¬(str stem <+: link_id ∧ link_id.length = (str stem).length + 32))
      (.value (name ++ " link ID must be " ++ stem ++ " plus 32 hex characters")),
    raiseIf (HexText.reads suffix = false) (.value (name ++ " link ID suffix must be lowercase hex")),
    raiseIf (∃ c ∈ suffix, 65 ≤ c ∧ c ≤ 90) (.value (name ++ " link ID suffix must be lowercase hex")),
    raiseIf (link_digest ≠ expected) (.value (name ++ " link digest differs from linked identities")),
    raiseIf (link_id ≠ str stem ++ link_digest.value.take 32)
      (.value (name ++ " link ID must derive from link digest"))]

/-! ## Hardware -/

/-- `HardwareMetadataSnapshotRef` -/
structure HardwareRef where
  snapshot_id : HardwareSnapshotId
  digest : Digest
deriving DecidableEq

def HardwareRef.toPy (r : HardwareRef) : PyValue :=
  .dataclass "HardwareMetadataSnapshotRef" [("snapshot_id", r.snapshot_id.toPy), ("digest", r.digest.toPy)]

structure HardwareLink.Fields where
  link_id : PyStr
  recording_id : RecordingId
  recording_identity_digest : Digest
  hardware_snapshot_ref : HardwareRef
  link_digest : Digest
deriving DecidableEq

def HardwareLink.Fields.post_init (l : HardwareLink.Fields) : Except PyError Unit := do
  let expected ← canonicalDigest (.object [
    ("recording_id", .str l.recording_id.value),
    ("recording_identity_digest", .str l.recording_identity_digest.toStr),
    ("hardware_snapshot_id", .str l.hardware_snapshot_ref.snapshot_id.value),
    ("hardware_snapshot_digest", .str l.hardware_snapshot_ref.digest.toStr)])
  checkLink "hardware" "hwlink_" l.link_id l.link_digest expected

/-- `RecordingHardwareLink` -/
abbrev HardwareLink := Checked HardwareLink.Fields.post_init

/-! ## Ephemeris -/

/-- `EphemerisSource` -/
inductive EphemerisSource where
  | SPACE_TRACK
  | HUGGING_FACE
deriving DecidableEq

namespace EphemerisSource

def value : EphemerisSource → PyStr
  | SPACE_TRACK => str "space-track"
  | HUGGING_FACE => str "huggingface"

end EphemerisSource

/-- `EphemerisSelectionPolicy` -/
inductive EphemerisSelectionPolicy where
  | AVAILABLE_THEN
  | FIRST_AFTER
  | BEST_EPHEMERIS
deriving DecidableEq

namespace EphemerisSelectionPolicy

def value : EphemerisSelectionPolicy → PyStr
  | AVAILABLE_THEN => str "available_then"
  | FIRST_AFTER => str "first_after"
  | BEST_EPHEMERIS => str "best_ephemeris"

end EphemerisSelectionPolicy

structure RecordingInterval.Fields where
  started_utc_ns : Int
  finished_utc_ns : Int
deriving DecidableEq

def RecordingInterval.Fields.post_init (i : RecordingInterval.Fields) : Except PyError Unit :=
  checkAll [
    requireUtcNs i.started_utc_ns "started_utc_ns",
    requireUtcNs i.finished_utc_ns "finished_utc_ns",
    raiseIf (i.finished_utc_ns ≤ i.started_utc_ns) (.value "recording interval must be non-empty")]

/-- `RecordingInterval` -/
abbrev RecordingInterval := Checked RecordingInterval.Fields.post_init

def RecordingInterval.toPy (i : RecordingInterval) : PyValue :=
  .dataclass "RecordingInterval" [("started_utc_ns", .int i.val.started_utc_ns), ("finished_utc_ns", .int i.val.finished_utc_ns)]

/-- An instant of the half-open interval. -/
@[reducible] def RecordingInterval.Holds (i : RecordingInterval) (instant : Int) : Prop :=
  i.val.started_utc_ns ≤ instant ∧ instant < i.val.finished_utc_ns

/-- `EphemerisSnapshotRef` -/
structure EphemerisRef where
  snapshot_id : EphemerisSnapshotId
  source : EphemerisSource
  raw_digest : Digest
  normalized_digest : Digest
deriving DecidableEq

def EphemerisRef.toPy (r : EphemerisRef) : PyValue :=
  .dataclass "EphemerisSnapshotRef" [("snapshot_id", r.snapshot_id.toPy), ("source", .str r.source.value),
    ("raw_digest", r.raw_digest.toPy), ("normalized_digest", r.normalized_digest.toPy)]

structure EphemerisSelection.Fields where
  source : EphemerisSource
  policy : EphemerisSelectionPolicy
  policy_ref : ArtifactRef
  snapshot_ref : EphemerisRef
  as_of_utc_ns : Int
deriving DecidableEq

def EphemerisSelection.Fields.post_init (s : EphemerisSelection.Fields) : Except PyError Unit :=
  checkAll [
    requireUtcNs s.as_of_utc_ns "as_of_utc_ns",
    raiseIf (s.source ≠ s.snapshot_ref.source) (.value "selection cannot cross providers")]

/-- `EphemerisSelection` -/
abbrev EphemerisSelection := Checked EphemerisSelection.Fields.post_init

structure EphemerisLink.Fields where
  link_id : PyStr
  recording_id : RecordingId
  recording_identity_digest : Digest
  recording_interval : RecordingInterval
  scope : PyStr
  selection : EphemerisSelection
  link_digest : Digest
deriving DecidableEq

def EphemerisLink.Fields.post_init (l : EphemerisLink.Fields) : Except PyError Unit := do
  requireToken l.scope IsToken "scope"
  let expected ← canonicalDigest (.object [
    ("recording_identity_digest", .str l.recording_identity_digest.toStr),
    ("recording_interval", RecordingInterval.toPy l.recording_interval),
    ("source", .str l.selection.val.source.value),
    ("scope", .str l.scope),
    ("policy", .str l.selection.val.policy.value),
    ("policy_ref", l.selection.val.policy_ref.toPy),
    ("as_of_utc_ns", .int l.selection.val.as_of_utc_ns),
    ("snapshot_ref", l.selection.val.snapshot_ref.toPy)])
  checkLink "ephemeris" "ephlink_" l.link_id l.link_digest expected

/-- `RecordingEphemerisLink` -/
abbrev EphemerisLink := Checked EphemerisLink.Fields.post_init

end LeoFlow
