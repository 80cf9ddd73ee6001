import LeoFlow.Contracts.Capture

/-!
# LeoFlow.Contracts.Storage — published recordings

The values of `contracts/storage.py` that a publisher returns.
-/

namespace LeoFlow

/-- The checks of `ObjectRef.__post_init__`. -/
def ObjectRef.post_init (o : ObjectRef) : Except PyError Unit :=
  checkAll [
    requireNonnegative o.byte_count "byte_count",
    requireToken o.format_id IsToken "format_id",
    raiseIf (47 ∉ o.media_type) (.value "media_type must be a MIME type"),
    raiseIf (o.locator = []) (.value "opaque locator cannot be empty")]

def ObjectRef.toPy (o : ObjectRef) : PyValue :=
  .dataclass "ObjectRef" [("digest", o.digest.toPy), ("byte_count", .int o.byte_count), ("media_type", .str o.media_type),
    ("format_id", .str o.format_id), ("locator", .str o.locator)]

structure RecordingObjectRef.Fields where
  recording_id : RecordingId
  data_object : Checked ObjectRef.post_init
  metadata_object : Checked ObjectRef.post_init
  manifest_digest : Digest
deriving DecidableEq

def RecordingObjectRef.Fields.post_init (r : RecordingObjectRef.Fields) : Except PyError Unit :=
  checkAll [
    raiseIf (r.data_object.val.digest = r.metadata_object.val.digest)
      (.value "recording data and metadata must be distinct objects"),
    raiseIf (r.data_object.val.byte_count = 0) (.value "recording data object cannot be empty"),
    raiseIf (r.metadata_object.val.byte_count = 0) (.value "recording metadata object cannot be empty")]

/-- `RecordingObjectRef` -/
abbrev RecordingObjectRef := Checked RecordingObjectRef.Fields.post_init

/-- One object of the pair, without its locator. -/
def ObjectRef.identityToPy (o : ObjectRef) : PyValue :=
  .dict [(str "digest", .str o.digest.toStr), (str "byte_count", .int o.byte_count),
    (str "media_type", .str o.media_type), (str "format_id", .str o.format_id)]

/-- `RecordingObjectRef.identity_digest` -/
def RecordingObjectRef.identity_digest (r : RecordingObjectRef) : Except PyError Digest :=
  canonicalDigest (.dict [
    (str "recording_id", .str r.val.recording_id.value),
    (str "data", r.val.data_object.val.identityToPy),
    (str "metadata", r.val.metadata_object.val.identityToPy),
    (str "manifest_digest", .str r.val.manifest_digest.toStr)])

/-- `PublishedRecordingRef` -/
structure PublishedRecordingRef where
  recording_object : RecordingObjectRef
deriving DecidableEq

/-- `PublishedRecordingRef.recording_id` -/
def PublishedRecordingRef.recording_id (p : PublishedRecordingRef) : RecordingId :=
  p.recording_object.val.recording_id

end LeoFlow
