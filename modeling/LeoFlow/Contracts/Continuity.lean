import LeoFlow.Contracts.Capture

/-!
# LeoFlow.Contracts.Continuity — refill metadata and segment continuity

`contracts/continuity.py`: what a radio reports about one refill, the gaps between
refills, and the evidence of a segment that `_verify_refills` derives from them.
-/

namespace LeoFlow

/-- `ContinuityPolicy` -/
inductive ContinuityPolicy where
  | require_contiguous
  | allow_verified_gapped
  | allow_unverified
deriving DecidableEq

/-- `ContinuityStatus` -/
inductive ContinuityStatus where
  | verified_contiguous
  | verified_gapped
  | unverified
deriving DecidableEq

/-- `RefillFlag` -/
inductive RefillFlag where
  | device_iio_overflow
  | gain_read_failed
  | rssi_read_failed
  | gain_observation_overflow
  | fpga_event_overflow
  | metadata_read_failed
deriving DecidableEq

/-! ## Observations -/

structure CaptureProvenance.Fields where
  firmware_release : PyStr
  firmware_commit : PyStr
  host_libiio_version : PyStr
  metadata_protocol : PyStr
  capability : PyStr
deriving DecidableEq

def CaptureProvenance.Fields.post_init (p : CaptureProvenance.Fields) : Except PyError Unit :=
  raiseIf (p.firmware_release = [] ∨ p.firmware_commit = [] ∨ p.host_libiio_version = [] ∨
    p.metadata_protocol = [] ∨ p.capability = []) (.value "capture provenance fields cannot be empty")

/-- `CaptureProvenance` -/
abbrev CaptureProvenance := Checked CaptureProvenance.Fields.post_init

structure GainObservation.Fields where
  sample_sequence_before : Int
  sample_sequence_after : Int
  read_duration_ns : Int
  gain_db : List Num
deriving DecidableEq

def GainObservation.Fields.post_init (g : GainObservation.Fields) : Except PyError Unit :=
  checkAll [
    raiseIf (g.sample_sequence_before < 0 ∨ g.sample_sequence_after < g.sample_sequence_before ∨
      g.read_duration_ns < 0 ∨ g.gain_db = []) (.value "invalid gain observation"),
    requireIsfinite g.gain_db "gain observations must be finite"]

/-- `GainObservation` -/
abbrev GainObservation := Checked GainObservation.Fields.post_init

structure RefillMetadata.Fields where
  refill_index : Int
  segment_sample_offset : Int
  sample_count : Int
  stream_id : Int
  buffer_sequence : Int
  first_sample_sequence : Int
  monotonic_start_ns : Int
  monotonic_end_ns : Int
  utc_start_ns : Int
  utc_end_ns : Int
  time_uncertainty_ns : Int
  gain_db_start : List Num
  gain_db_end : List Num
  rssi_db_start : List Num
  rssi_db_end : List Num
  gain_observation_overflow_count : Int := 0
  gain_event_overflow_count : Int := 0
  gain_observations : List GainObservation := []
  flags : List RefillFlag := []
deriving DecidableEq

def RefillMetadata.Fields.post_init (r : RefillMetadata.Fields) : Except PyError Unit :=
  checkAll [
    raiseIf ((∃ n ∈ [r.refill_index, r.segment_sample_offset, r.stream_id, r.buffer_sequence,
        r.first_sample_sequence, r.monotonic_start_ns, r.utc_start_ns, r.time_uncertainty_ns,
        r.gain_observation_overflow_count, r.gain_event_overflow_count], n < 0) ∨ r.sample_count ≤ 0)
      (.value "refill counters, offsets and times are invalid"),
    raiseIf (r.monotonic_end_ns ≤ r.monotonic_start_ns ∨ r.utc_end_ns ≤ r.utc_start_ns)
      (.value "refill time intervals must be non-empty"),
    raiseIf (¬(r.gain_db_start.length = 2 ∧ r.gain_db_end.length = 2 ∧ r.rssi_db_start.length = 2 ∧
        r.rssi_db_end.length = 2)) (.value "v5 refill endpoints require exactly two receivers"),
    requireIsfinite (r.gain_db_start ++ r.gain_db_end ++ r.rssi_db_start ++ r.rssi_db_end)
      "gain and RSSI endpoints must be finite",
    raiseIf (¬r.flags.Nodup) (.value "refill flags must be unique")]

/-- `RefillMetadata` -/
abbrev RefillMetadata := Checked RefillMetadata.Fields.post_init

/-- `sample_sequence_end_exclusive` -/
def RefillMetadata.sample_sequence_end_exclusive (r : RefillMetadata) : Int :=
  r.val.first_sample_sequence + r.val.sample_count

theorem RefillMetadata.sample_count_pos (r : RefillMetadata) : 0 < r.val.sample_count := by
  have h := r.ok
  simp only [Fields.post_init, checkAll_cons, raiseIf_ok, not_or, not_le] at h
  exact h.1.2

structure ContinuityGap.Fields where
  prior_refill_index : Int
  next_refill_index : Int
  stored_sample_offset : Int
  first_missing_sample_sequence : Int
  next_sample_sequence : Int
  missing_sample_count : Int
  missing_buffer_count : Int
deriving DecidableEq

def ContinuityGap.Fields.post_init (g : ContinuityGap.Fields) : Except PyError Unit :=
  checkAll [
    raiseIf (g.prior_refill_index < 0 ∨ g.next_refill_index ≠ g.prior_refill_index + 1 ∨
      g.stored_sample_offset ≤ 0 ∨ g.first_missing_sample_sequence < 0 ∨
      g.next_sample_sequence ≤ g.first_missing_sample_sequence ∨
      g.missing_sample_count ≠ g.next_sample_sequence - g.first_missing_sample_sequence ∨
      g.missing_buffer_count < 0) (.value "invalid continuity gap extent"),
    raiseIf (g.missing_sample_count ≤ 0 ∧ g.missing_buffer_count ≤ 0)
      (.value "continuity gap must describe missing source data")]

/-- `ContinuityGap` -/
abbrev ContinuityGap := Checked ContinuityGap.Fields.post_init

/-! ## Verification -/

/-- The gap between two neighbours of `_verify_refills`, after the checks between them. -/
def gapBetween (prior refill : RefillMetadata) : Except PyError (Option ContinuityGap) :=
  let missing_buffers := refill.val.buffer_sequence - prior.val.buffer_sequence - 1
  let missing_samples := refill.val.first_sample_sequence -
    RefillMetadata.sample_sequence_end_exclusive prior
  if refill.val.stream_id ≠ prior.val.stream_id then
    .error (.value "stream identity changed within a segment")
  else if refill.val.buffer_sequence ≤ prior.val.buffer_sequence then
    .error (.value "capture buffer sequence regressed")
  else if refill.val.first_sample_sequence < RefillMetadata.sample_sequence_end_exclusive prior then
    .error (.value "hardware sample sequence regressed or overlapped")
  else if refill.val.segment_sample_offset ≠ prior.val.segment_sample_offset + prior.val.sample_count then
    .error (.value "stored IQ refill ranges have a gap or overlap")
  else if missing_buffers ≠ 0 ∨ missing_samples ≠ 0 then
    if missing_samples ≤ 0 then
      .error (.value "capture buffer sequence gap lacks a hardware sample sequence gap")
    else
      (Checked.make ContinuityGap.Fields.post_init {
        prior_refill_index := prior.val.refill_index
        next_refill_index := refill.val.refill_index
        stored_sample_offset := refill.val.segment_sample_offset
        first_missing_sample_sequence := RefillMetadata.sample_sequence_end_exclusive prior
        next_sample_sequence := refill.val.first_sample_sequence
        missing_sample_count := missing_samples
        missing_buffer_count := missing_buffers }).map some
  else .ok none

/-- One round of the loop of `_verify_refills`. -/
def verifyRefill (expected_index : Nat) (prior : Option RefillMetadata) (refill : RefillMetadata) :
    Except PyError (Option ContinuityGap) :=
  if refill.val.refill_index ≠ expected_index then
    .error (.value "refill indexes must be consecutive from zero")
  else if refill.val.flags ≠ [] ∨ refill.val.gain_observation_overflow_count ≠ 0 ∨
      refill.val.gain_event_overflow_count ≠ 0 then
    .error (.value "verified continuity cannot contain failure flags")
  else
    match prior with
    | none =>
      if refill.val.segment_sample_offset ≠ 0 then
        .error (.value "first refill must start at segment sample zero")
      else .ok none
    | some prior =>
      match gapBetween prior refill with
      | .error e => .error e
      | .ok gap =>
        if refill.val.monotonic_start_ns + refill.val.time_uncertainty_ns <
            prior.val.monotonic_end_ns - prior.val.time_uncertainty_ns then
          .error (.value "refill monotonic times contradict their uncertainty")
        else .ok gap

/-- The loop of `_verify_refills` from one refill on. -/
def verifyFrom : Nat → Option RefillMetadata → List RefillMetadata → Except PyError (List ContinuityGap)
  | _, _, [] => .ok []
  | expected_index, prior, refill :: refills =>
    match verifyRefill expected_index prior refill with
    | .error e => .error e
    | .ok gap => (verifyFrom (expected_index + 1) (some refill) refills).map (gap.toList ++ ·)

/-- `_verify_refills` -/
def verifyRefills (refills : List RefillMetadata) : Except PyError (List ContinuityGap) :=
  verifyFrom 0 none refills

structure SegmentContinuity.Fields where
  status : ContinuityStatus
  receiver_chain_ids : List ReceiverChainId
  provenance : CaptureProvenance
  refills : List RefillMetadata
  gaps : List ContinuityGap := []
deriving DecidableEq

/-- The status against the gaps that the refills show. -/
def SegmentContinuity.Fields.checkGaps (c : SegmentContinuity.Fields) (derived : List ContinuityGap) :
    Except PyError Unit :=
  checkAll [
    raiseIf (c.status = .verified_contiguous ∧ ∃ gap ∈ derived, gap.val.missing_buffer_count ≠ 0)
      (.value "capture buffer sequence gap"),
    raiseIf (c.status = .verified_contiguous ∧ derived ≠ []) (.value "hardware sample sequence gap"),
    raiseIf (c.status = .verified_gapped ∧ derived = [])
      (.value "verified-gapped continuity requires a source gap"),
    raiseIf (c.gaps ≠ derived) (.value "declared continuity gaps differ from refill evidence")]

def SegmentContinuity.Fields.post_init (c : SegmentContinuity.Fields) : Except PyError Unit :=
  checkAll [
    raiseIf (c.receiver_chain_ids.length ≠ 2 ∨ ¬c.receiver_chain_ids.Nodup)
      (.value "paired continuity requires two unique receiver chains"),
    (match c.status with
      | .unverified =>
        raiseIf (c.refills ≠ [] ∨ c.gaps ≠ [])
          (.value "unverified continuity cannot contain trusted evidence")
      | _ =>
        if c.refills = [] then .error (.value "verified continuity requires refill metadata")
        else
          match verifyRefills c.refills with
          | .error e => .error e
          | .ok derived => c.checkGaps derived)]

/-- `SegmentContinuity` -/
abbrev SegmentContinuity := Checked SegmentContinuity.Fields.post_init

/-- `is_verified` -/
@[reducible] def SegmentContinuity.IsVerified (c : SegmentContinuity) : Prop := c.val.status ≠ .unverified

/-- `SegmentContinuity.from_refills` -/
def SegmentContinuity.from_refills (receiver_chain_ids : List ReceiverChainId)
    (provenance : CaptureProvenance) (refills : List RefillMetadata) :
    Except PyError SegmentContinuity :=
  if refills = [] then
    Checked.make Fields.post_init { status := .unverified, receiver_chain_ids, provenance, refills := [] }
  else do
    let gaps ← verifyRefills refills
    Checked.make Fields.post_init {
      status := if gaps = [] then .verified_contiguous else .verified_gapped
      receiver_chain_ids, provenance, refills, gaps }

end LeoFlow
