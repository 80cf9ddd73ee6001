import LeoFlow.Core.Effect
import LeoFlow.Core.PosixPath
import LeoFlow.Contracts.Storage

/-!
# LeoFlow.Storage.LegacyRecording — recordings of the old format, read in place

`storage/legacy_recording.py`. A recording is a source manifest and an ordered list of
chunk files, all registered beforehand; nothing is discovered. A reader verifies every
file when it opens a recording and reads ranges of the chunks afterwards.

The operating system is a `Host`: the directory walk, what each descriptor is open on,
and how much one `pread` returns at most. The state of an effect is the list of ranges
asked of `pread` so far.
-/

namespace LeoFlow

/-- A `LegacyRecordingError`. -/
def PyError.legacy (message : String) : PyError := ⟨.legacy_recording_error, message⟩

/-- An `UnsupportedLegacyRecordingError`. -/
def PyError.unsupportedLegacy (message : String) : PyError := ⟨.unsupported_legacy_recording_error, message⟩

/-! ## What is registered -/

/-- `_relative_parts` -/
def relativeParts (value : PyStr) : Except PyError (List PyStr) :=
  let path := PosixPath.parse value
  if value = [] ∨ path.IsAbsolute ∨ path.toStr ≠ value ∨ 92 ∈ value ∨
      ∃ part ∈ path.parts, part = [] ∨ part = [46] ∨ part = [46, 46] then
    .error (.value "legacy object path must be a confined POSIX relative path")
  else .ok path.parts

structure LegacyFileRef.Fields where
  root_id : PyStr
  relative_path : PyStr
  digest : Digest
  byte_count : Int
deriving DecidableEq

def LegacyFileRef.Fields.post_init (r : LegacyFileRef.Fields) : Except PyError Unit :=
  checkAll [
    raiseIf (r.root_id = []) (.value "legacy root ID cannot be empty"),
    (relativeParts r.relative_path).map fun _ => (),
    raiseIf (r.byte_count ≤ 0) (.value "legacy files must be non-empty")]

/-- `LegacyFileRef` -/
abbrev LegacyFileRef := Checked LegacyFileRef.Fields.post_init

theorem LegacyFileRef.byte_count_pos (r : LegacyFileRef) : 0 < r.val.byte_count := by
  have h := r.ok
  unfold LegacyFileRef.Fields.post_init at h
  rw [checkAll_cons, checkAll_cons, checkAll_cons] at h
  have hpos := raiseIf_ok.1 h.2.2.1
  omega

structure LegacyRecordingRegistration.Fields where
  recording_ref : RecordingObjectRef
  manifest : RecordingManifest
  source_manifest : LegacyFileRef
  payloads : List LegacyFileRef
  omitted_survey : Option LegacyFileRef := none

def LegacyRecordingRegistration.Fields.post_init (r : LegacyRecordingRegistration.Fields) : Except PyError Unit :=
  let recording_ref := r.recording_ref.val
  let metadata := recording_ref.metadata_object.val
  let data := recording_ref.data_object.val
  checkAll [
    raiseIf (recording_ref.recording_id ≠ r.manifest.val.recording_id)
      (.value "registration recording IDs differ"),
    (match canonicalDigest (RecordingManifest.toPy r.manifest) with
      | .error e => .error e
      | .ok d => raiseIf (recording_ref.manifest_digest ≠ d) (.value "registration manifest digest differs")),
    raiseIf (metadata.digest ≠ r.source_manifest.val.digest ∨
        (metadata.byte_count : Int) ≠ r.source_manifest.val.byte_count ∨
        metadata.media_type ≠ str "application/json" ∨ metadata.format_id ≠ str "legacy-beacon-manifest-v1")
      (.value "metadata object does not identify the source manifest"),
    raiseIf ((data.byte_count : Int) ≠ (r.payloads.map fun item => item.val.byte_count).sum ∨
        data.media_type ≠ str "application/octet-stream" ∨ data.format_id ≠ str "legacy-ci16-chunk-set-v1")
      (.value "data object cannot identify the ordered payload stream"),
    raiseIf (r.manifest.val.segments.length ≠ 1)
      (.unsupportedLegacy "legacy v1 registration supports exactly one redux segment")]

/-- `LegacyRecordingRegistration` -/
abbrev LegacyRecordingRegistration := Checked LegacyRecordingRegistration.Fields.post_init

/-- What is checked of a registration. -/
theorem LegacyRecordingRegistration.Fields.post_init_ok {r : LegacyRecordingRegistration.Fields} :
    r.post_init = .ok () ↔
      r.recording_ref.val.recording_id = r.manifest.val.recording_id ∧
      canonicalDigest (RecordingManifest.toPy r.manifest) = .ok r.recording_ref.val.manifest_digest ∧
      (r.recording_ref.val.metadata_object.val.digest = r.source_manifest.val.digest ∧
        (r.recording_ref.val.metadata_object.val.byte_count : Int) = r.source_manifest.val.byte_count ∧
        r.recording_ref.val.metadata_object.val.media_type = str "application/json" ∧
        r.recording_ref.val.metadata_object.val.format_id = str "legacy-beacon-manifest-v1") ∧
      ((r.recording_ref.val.data_object.val.byte_count : Int) =
          (r.payloads.map fun item => item.val.byte_count).sum ∧
        r.recording_ref.val.data_object.val.media_type = str "application/octet-stream" ∧
        r.recording_ref.val.data_object.val.format_id = str "legacy-ci16-chunk-set-v1") ∧
      r.manifest.val.segments.length = 1 := by
  have hdigest : ∀ x : Except PyError Digest, (match x with
      | .error e => Except.error e
      | .ok d => raiseIf (r.recording_ref.val.manifest_digest ≠ d)
        (.value "registration manifest digest differs")) = Except.ok () ↔
      x = .ok r.recording_ref.val.manifest_digest := by
    intro x
    cases x with
    | error e => simp
    | ok d => rw [raiseIf_ok, not_not, Except.ok.injEq, eq_comm]
  unfold LegacyRecordingRegistration.Fields.post_init
  dsimp only
  rw [checkAll_cons, checkAll_cons, checkAll_cons, checkAll_cons, checkAll_cons, hdigest, raiseIf_ok, raiseIf_ok,
    raiseIf_ok, raiseIf_ok]
  simp only [not_or, not_not, checkAll_nil, and_true]

theorem LegacyRecordingRegistration.length_segments (r : LegacyRecordingRegistration) :
    r.val.manifest.val.segments.length = 1 :=
  (LegacyRecordingRegistration.Fields.post_init_ok.1 r.ok).2.2.2.2

/-- `manifest.segments[0]` -/
def LegacyRecordingRegistration.segment (r : LegacyRecordingRegistration) : SegmentManifest :=
  r.val.manifest.val.segments.get ⟨0, by rw [r.length_segments]; exact Nat.one_pos⟩

/-! ## The source manifest -/

/-- A decoded source manifest, a `dict`. -/
abbrev LegacySource := List (PyStr × PyValue)

/-- `d.get(key)` -/
def LegacySource.get (d : LegacySource) (key : String) : PyValue := (d.lookup (str key)).getD .none

/-- `d.get(key) == value` -/
def LegacySource.Says (d : LegacySource) (key : String) (value : PyValue) : Prop := (d.get key).eq value = true

instance (d : LegacySource) (key : String) (value : PyValue) : Decidable (d.Says key value) :=
  inferInstanceAs (Decidable (_ = true))

/-- `str(PurePosixPath(source_manifest.relative_path).parent / PurePosixPath(path))` -/
def besideManifest (source_manifest : LegacyFileRef) (path : PyStr) : PyStr :=
  ((PosixPath.parse source_manifest.val.relative_path).parent.join (PosixPath.parse path)).toStr

/-- `_validate_omitted_survey` -/
def validateOmittedSurvey (source : LegacySource) (registration : LegacyRecordingRegistration) :
    Except PyError Unit :=
  match source.get "survey_iq", registration.val.omitted_survey with
  | .none, none => .ok ()
  | .none, some _ => .error (.legacy "omitted survey is not declared by source")
  | _, none => .error (.unsupportedLegacy "declared survey must be explicitly registered as omitted")
  | .dict raw, some omitted =>
    match LegacySource.get raw "path" with
    | .str path => do
      let _ ← relativeParts path
      raiseIf (omitted.val.root_id ≠ registration.val.source_manifest.val.root_id ∨
          omitted.val.relative_path ≠ besideManifest registration.val.source_manifest path ∨
          ¬LegacySource.Says raw "bytes" (.int omitted.val.byte_count) ∨
          ¬LegacySource.Says raw "sha256" (.str omitted.val.digest.value))
        (.legacy "omitted survey path, size, or digest differs")
    | _ => .error (.legacy "legacy survey path is malformed")
  | _, some _ => .error (.legacy "legacy survey declaration is malformed")

/-- One chunk against its registered file: the samples and the bytes it adds. -/
def validateChunk (registration : LegacyRecordingRegistration) (next_sample : Int) (raw : PyValue)
    (payload : LegacyFileRef) : Except PyError (Int × Int) :=
  match raw with
  | .dict raw =>
    match LegacySource.get raw "path", LegacySource.get raw "first_sample_index",
      LegacySource.get raw "sample_count", LegacySource.get raw "bytes" with
    | .str path, .int first, .int samples, .int byte_count => do
      raiseIf (samples ≤ 0) (.legacy "legacy chunk declaration is malformed")
      let _ ← relativeParts path
      raiseIf (payload.val.root_id ≠ registration.val.source_manifest.val.root_id ∨
          payload.val.relative_path ≠ besideManifest registration.val.source_manifest path ∨
          first ≠ next_sample ∨ byte_count ≠ samples * 8 ∨ byte_count ≠ payload.val.byte_count ∨
          ¬LegacySource.Says raw "sha256" (.str payload.val.digest.value))
        (.legacy "legacy chunk order, path, size, or digest differs")
      return (samples, byte_count)
    | _, _, _, _ => .error (.legacy "legacy chunk declaration is malformed")
  | _ => .error (.legacy "legacy chunk entry is not an object")

/-- The loop over the chunks and their files. -/
def validateChunks (registration : LegacyRecordingRegistration) (next_sample total_bytes : Int) :
    List (PyValue × LegacyFileRef) → Except PyError (Int × Int)
  | [] => .ok (next_sample, total_bytes)
  | (raw, payload) :: rest => do
    let (samples, byte_count) ← validateChunk registration next_sample raw payload
    validateChunks registration (next_sample + samples) (total_bytes + byte_count) rest

/-- The gain mode that `gain_mode` stands for; a list or a dictionary cannot be looked up in a set. -/
def expectedGainMode : PyValue → Except PyError GainMode
  | .str s =>
    if s = str "manual" then .ok .manual
    else if s = str "slow_attack" ∨ s = str "fast_attack" then .ok .agc
    else .error (.unsupportedLegacy "unsupported legacy gain mode")
  | .list _ => .error (.type "unhashable type: 'list'")
  | .dict _ => .error (.type "unhashable type: 'dict'")
  | _ => .error (.unsupportedLegacy "unsupported legacy gain mode")

/-- `checks`: the registered facts against those of the source. -/
def RegisteredFacts (source : LegacySource) (registration : LegacyRecordingRegistration) (mode : GainMode)
    (next_sample total_bytes : Int) : Prop :=
  let segment := registration.segment.val
  let requested := segment.requested.val
  segment.sample_count = next_sample ∧
  segment.shape = (next_sample, 2, 2) ∧
  requested.receiver_chain_ids = registration.val.manifest.val.receiver_chain_ids ∧
  source.Says "sample_rate_hz" segment.actual_sample_rate_hz.toValue ∧
  source.Says "sample_rate_hz" requested.sample_rate_hz.toValue ∧
  source.Says "center_frequency_hz" segment.actual_center_frequency_hz.toValue ∧
  source.Says "center_frequency_hz" requested.center_frequency_hz.toValue ∧
  source.Says "bandwidth_hz" segment.actual_bandwidth_hz.toValue ∧
  source.Says "bandwidth_hz" requested.bandwidth_hz.toValue ∧
  segment.actual_gain.val.mode = mode ∧
  requested.gain.val.mode = mode ∧
  source.Says "configured_gain_db" (optionToPy Num.toValue segment.actual_gain.val.gain_db) ∧
  source.Says "configured_gain_db" (optionToPy Num.toValue requested.gain.val.gain_db) ∧
  source.Says "created_utc_ns" (.int registration.val.manifest.val.created_utc_ns) ∧
  total_bytes = registration.val.recording_ref.val.data_object.val.byte_count

instance (source : LegacySource) (registration : LegacyRecordingRegistration) (mode : GainMode)
    (next_sample total_bytes : Int) :
    Decidable (RegisteredFacts source registration mode next_sample total_bytes) := by
  unfold RegisteredFacts
  infer_instance

/-- `_validate_source` -/
def validateSource (source : LegacySource) (registration : LegacyRecordingRegistration) : Except PyError Unit := do
  raiseIf (¬source.Says "schema" (.str (str "leo-tracker.beacon-iq/v1")))
    (.unsupportedLegacy "unsupported legacy manifest schema")
  raiseIf (¬source.Says "state" (.str (str "complete")))
    (.unsupportedLegacy "legacy recording is not complete")
  raiseIf (¬source.Says "dtype" (.str (str "ci16_le")) ∨
      ¬source.Says "layout" (.str (str "sample,receiver,component; receivers=rx0,rx1; components=i,q")))
    (.unsupportedLegacy "unsupported legacy dtype or layout")
  raiseIf (¬source.Says "receiver_count" (.int 2))
    (.unsupportedLegacy "only paired-receiver legacy IQ is supported")
  validateOmittedSurvey source registration
  match source.get "chunks" with
  | .list (chunk :: chunks) =>
    raiseIf ((chunk :: chunks).length ≠ registration.val.payloads.length)
      (.legacy "registered payload count differs from legacy chunks")
    let (next_sample, total_bytes) ←
      validateChunks registration 0 0 ((chunk :: chunks).zip registration.val.payloads)
    let mode ← expectedGainMode (source.get "gain_mode")
    raiseIf (¬RegisteredFacts source registration mode next_sample total_bytes)
      (.legacy "registered redux facts differ from legacy declarations")
  | _ => .error (.unsupportedLegacy "legacy manifest has no chunk stream")

/-! ## The files -/

/-- `_Fingerprint` -/
structure Fingerprint where
  device : Int
  inode : Int
  size : Int
  mtime_ns : Int
  ctime_ns : Int
deriving DecidableEq

/-- What a descriptor is open on. -/
structure HostFile where
  regular : Bool
  content : Bytes
  device : Int
  inode : Int
  mtime_ns : Int
  ctime_ns : Int

/-- `_fingerprint(os.fstat(descriptor))` -/
def HostFile.fingerprint (f : HostFile) : Fingerprint :=
  ⟨f.device, f.inode, f.content.length, f.mtime_ns, f.ctime_ns⟩

/-- The operating system. -/
structure Host where
  /-- device and inode of a configured root; absent when it cannot be opened -/
  rootInfo : PyStr → Option (Int × Int)
  /-- `os.open` from a root, one part after the other, no link followed -/
  openAt : PyStr → List PyStr → Option Nat
  files : Nat → HostFile
  /-- the most that one `pread` returns -/
  transfer : Nat

/-- A range that was asked of `pread`. -/
structure Fetch where
  descriptor : Nat
  start : Int
  stop : Int
deriving DecidableEq

abbrev LegacyEff (α : Type) := EStateM PyError (List Fetch) α

/-- `if bad: raise e` -/
def LegacyEff.raiseIf (bad : Prop) [Decidable bad] (e : PyError) : LegacyEff Unit :=
  if bad then throw e else pure ()

/-- `os.pread(descriptor, count, offset)`: what there is, up to `count` and up to the limit. -/
def Host.pread (host : Host) (descriptor : Nat) (count offset : Int) : LegacyEff Bytes := do
  modify fun fetched => fetched ++ [⟨descriptor, offset, offset + count⟩]
  return ((host.files descriptor).content.drop offset.toNat).take (min count.toNat host.transfer)

/-- `_VerifiedFile` -/
structure VerifiedFile where
  descriptor : Nat
  ref : LegacyFileRef
  fingerprint : Fingerprint

/-- `_VerifiedFile.byte_count` -/
def VerifiedFile.byte_count (f : VerifiedFile) : Int := f.ref.val.byte_count

/-- `_assert_unchanged` -/
def VerifiedFile.assertUnchanged (f : VerifiedFile) (host : Host) : LegacyEff Unit :=
  LegacyEff.raiseIf ((host.files f.descriptor).fingerprint ≠ f.fingerprint)
    (.legacy "verified legacy object changed while open")

/-- `read_range` -/
def VerifiedFile.read_range (f : VerifiedFile) (host : Host) (start stop : Int) : LegacyEff Bytes := do
  LegacyEff.raiseIf (¬(0 ≤ start ∧ start < stop ∧ stop ≤ f.byte_count))
    (.value "legacy byte range lies outside object")
  f.assertUnchanged host
  let data ← host.pread f.descriptor (stop - start) start
  f.assertUnchanged host
  LegacyEff.raiseIf ((data.length : Int) ≠ stop - start) (.legacy "legacy object changed or was truncated")
  return data

/-- The blocks of a file: each `pread` asks for a mebibyte at most and goes on where the last one ended. -/
def readBlocks (host : Host) (descriptor : Nat) (byte_count : Int) : Nat → Bytes → LegacyEff Bytes
  | 0, data => pure data
  | fuel + 1, data =>
    if (data.length : Int) < byte_count then do
      let block ← host.pread descriptor (min (1024 * 1024) (byte_count - data.length)) data.length
      LegacyEff.raiseIf (block = []) (.legacy "legacy object was truncated during verification")
      readBlocks host descriptor byte_count fuel (data ++ block)
    else pure data

/-- `_ConfiguredRoot`, without its path. -/
structure ConfiguredRoot where
  device : Int
  inode : Int
deriving DecidableEq

/-- `_open_verified`: the verified file, and its bytes for the logical digest. Every block
that is read has a byte, so the size of the file bounds their number. -/
def openVerified (host : Host) (roots : List (PyStr × ConfiguredRoot)) (ref : LegacyFileRef) :
    LegacyEff (VerifiedFile × Bytes) := do
  let parts ← MonadExcept.ofExcept (relativeParts ref.val.relative_path)
  match roots.lookup ref.val.root_id, host.rootInfo ref.val.root_id with
  | some root, some info =>
    LegacyEff.raiseIf (info ≠ (root.device, root.inode)) (.legacy "configured legacy storage root was replaced")
    match host.openAt ref.val.root_id parts with
    | some descriptor =>
      let file := host.files descriptor
      LegacyEff.raiseIf (¬file.regular ∨ file.fingerprint.size ≠ ref.val.byte_count)
        (.legacy "legacy object type or size differs")
      let data ← readBlocks host descriptor ref.val.byte_count ref.val.byte_count.toNat []
      let after := host.files descriptor
      LegacyEff.raiseIf (file.fingerprint ≠ after.fingerprint) (.legacy "legacy object changed during verification")
      LegacyEff.raiseIf (Digest.sha256 data ≠ ref.val.digest) (.legacy "legacy object SHA-256 differs")
      return (⟨descriptor, ref, after.fingerprint⟩, data)
    | none => throw (.legacy "legacy object is missing or violates confinement")
  | _, _ => throw (.legacy "legacy object is missing or violates confinement")

/-! ## Views -/

/-- `_LegacyRecordingView` -/
structure LegacyRecordingView where
  registration : LegacyRecordingRegistration
  payloads : List VerifiedFile

/-- `LegacyRecordingReader`: the configured roots, and the registrations by the digest of their identity. -/
structure LegacyRecordingReader where
  roots : List (PyStr × ConfiguredRoot)
  registrations : List (PyStr × LegacyRecordingRegistration)

/-- `_decode_source_manifest` -/
def decodeSourceManifest (data : Bytes) : Except PyError LegacySource :=
  match Json.loads data with
  | .ok (.dict source) => .ok source
  | .ok _ => .error (.legacy "legacy manifest must be a JSON object")
  | .error e =>
    if e.kind = .unicode_decode_error ∨ e.kind = .json_decode_error then
      .error (.legacy "legacy manifest is not valid UTF-8 JSON")
    else .error e

/-- A survey that was left out is verified all the same. -/
def openSurvey (host : Host) (roots : List (PyStr × ConfiguredRoot)) : Option LegacyFileRef → LegacyEff Unit
  | none => pure ()
  | some survey => do
    let _ ← openVerified host roots survey
    return ()

/-- `open`: the source manifest is verified first, then the payloads in order, then a survey. -/
def LegacyRecordingReader.open (reader : LegacyRecordingReader) (host : Host) (recording_ref : RecordingObjectRef) :
    LegacyEff LegacyRecordingView := do
  let identity ← MonadExcept.ofExcept recording_ref.identity_digest
  match reader.registrations.lookup identity.value with
  | none => throw (.legacy "legacy recording identity is not registered")
  | some registration =>
    LegacyEff.raiseIf (registration.val.source_manifest.val.byte_count > 16 * 1024 * 1024)
      (.unsupportedLegacy "legacy manifest exceeds size limit")
    let (source, _) ← openVerified host reader.roots registration.val.source_manifest
    let data ← source.read_range host 0 source.byte_count
    let source_value ← MonadExcept.ofExcept (decodeSourceManifest data)
    let opened ← registration.val.payloads.mapM fun payload => openVerified host reader.roots payload
    openSurvey host reader.roots registration.val.omitted_survey
    MonadExcept.ofExcept (validateSource source_value registration)
    LegacyEff.raiseIf
      (Digest.sha256 (opened.map Prod.snd).flatten ≠ registration.val.recording_ref.val.data_object.val.digest)
      (.legacy "logical dwell byte-stream SHA-256 differs")
    return ⟨registration, opened.map Prod.fst⟩

/-- `_segment_id` -/
def LegacyRecordingView.segment_id (v : LegacyRecordingView) : SegmentId := v.registration.segment.val.segment_id

/-- What one round of the loop appends: the part of the chunk that the range covers, if any. -/
def readCovered (host : Host) (start stop : Int) (payload : VerifiedFile) (cursor : Int) : LegacyEff Bytes :=
  let payload_stop := cursor + payload.byte_count
  if start < payload_stop ∧ stop > cursor then
    let local_start := max start cursor - cursor
    let local_stop := min stop payload_stop - cursor
    payload.read_range host local_start local_stop
  else pure []

/-- The loop of `read_iq_bytes`, from the byte `cursor` on. -/
def readPayloads (host : Host) (start stop : Int) : List VerifiedFile → Int → Bytes → LegacyEff Bytes
  | [], _, output => pure output
  | payload :: payloads, cursor, output => do
    let data ← readCovered host start stop payload cursor
    if cursor + payload.byte_count ≥ stop then pure (output ++ data)
    else readPayloads host start stop payloads (cursor + payload.byte_count) (output ++ data)

/-- `read_iq_bytes` -/
def LegacyRecordingView.read_iq_bytes (v : LegacyRecordingView) (host : Host) (segment_id : SegmentId)
    (start_sample stop_sample : Int) : LegacyEff Bytes := do
  LegacyEff.raiseIf (segment_id ≠ v.segment_id)
    ⟨.key_error, "unknown segment " ++ String.ofList (segment_id.value.map Char.ofNat)⟩
  LegacyEff.raiseIf (¬(0 ≤ start_sample ∧ start_sample < stop_sample ∧
      stop_sample ≤ v.registration.segment.val.sample_count))
    (.value "sample range lies outside segment")
  let start := start_sample * 8
  let stop := stop_sample * 8
  let output ← readPayloads host start stop v.payloads 0 []
  LegacyEff.raiseIf ((output.length : Int) ≠ stop - start) (.legacy "legacy payload stream was truncated")
  return output

end LeoFlow
