import LeoFlow.Contracts.Features

/-!
# LeoFlow.Contracts.Waterfall — the waterfall of one recording

`contracts/waterfall.py`. A tile is checked with the arithmetic of its sample rate: the
midpoint of every row, rounded to a nanosecond, and the band of its frequencies.
-/

namespace LeoFlow

namespace Waterfall

/-- `MAX_WATERFALL_TILES` -/
def MAX_TILES : Nat := 64

/-- `MAX_WATERFALL_TIME_BINS_PER_TILE` -/
def MAX_TIME_BINS_PER_TILE : Nat := 128

/-- `MAX_WATERFALL_FREQUENCY_BINS` -/
def MAX_FREQUENCY_BINS : Nat := 128

/-- `MAX_WATERFALL_CELLS` -/
def MAX_CELLS : Nat := 262144

end Waterfall

/-! ## Time bins -/

structure WaterfallTimeBin.Fields where
  start_sample : Int
  stop_sample : Int
  midpoint_utc_ns : Int
  power_db : List Num

def WaterfallTimeBin.Fields.post_init (r : WaterfallTimeBin.Fields) : Except PyError Unit :=
  checkAll ([
    raiseIf (¬(0 ≤ r.start_sample ∧ r.start_sample < r.stop_sample))
      (.value "waterfall time bin sample interval is invalid"),
    requireUtcNs r.midpoint_utc_ns "midpoint_utc_ns",
    raiseIf (r.power_db = []) (.value "waterfall time bin requires frequency power")] ++
    r.power_db.map fun value => requireFinite value "power_db")

/-- `WaterfallTimeBinV0_1` -/
abbrev WaterfallTimeBin := Checked WaterfallTimeBin.Fields.post_init

def WaterfallTimeBin.toPy (r : WaterfallTimeBin) : PyValue :=
  .dataclass "WaterfallTimeBinV0_1" [
    ("start_sample", .int r.val.start_sample),
    ("stop_sample", .int r.val.stop_sample),
    ("midpoint_utc_ns", .int r.val.midpoint_utc_ns),
    ("power_db", .tuple (r.val.power_db.map Num.toValue))]

theorem caught_waterfallTimeBin (r : WaterfallTimeBin.Fields) : Caught r.post_init := by
  refine caught_checkAll ?_
  simp only [List.forall_mem_append, List.forall_mem_cons, List.forall_mem_map]
  exact ⟨⟨caught_raiseIf, caught_requireUtcNs, caught_raiseIf, nofun⟩, fun _ _ => caught_requireFinite⟩

/-! ## Tiles -/

structure WaterfallTile.Fields where
  segment_id : SegmentId
  receiver_chain_id : ReceiverChainId
  segment_start_utc_ns : Int
  segment_sample_count : Int
  center_frequency_hz : Num
  sample_rate_hz : Num
  fft_window_samples : Int
  power_reference : PyStr
  frequency_bin_offsets_hz : List Num
  time_bins : List WaterfallTimeBin

namespace WaterfallTile.Fields

variable (t : WaterfallTile.Fields)

/-- What is checked before the offsets, one by one. -/
def checkAxis : Except PyError Unit :=
  checkAll [
    requireUtcNs t.segment_start_utc_ns "segment_start_utc_ns",
    raiseIf (t.segment_sample_count ≤ 0) (.value "segment_sample_count must be a positive integer"),
    requirePositive t.center_frequency_hz "center_frequency_hz",
    requirePositive t.sample_rate_hz "sample_rate_hz",
    raiseIf (t.fft_window_samples < 8 ∨ t.fft_window_samples.toNat &&& (t.fft_window_samples.toNat - 1) ≠ 0)
      (.value "fft_window_samples must be a power of two >= 8"),
    requireToken t.power_reference IsToken "power_reference",
    raiseIf (¬(0 < t.frequency_bin_offsets_hz.length ∧ t.frequency_bin_offsets_hz.length ≤ Waterfall.MAX_FREQUENCY_BINS))
      (.value "waterfall frequency bin count exceeds its bound"),
    raiseIf (∃ neighbours ∈ t.frequency_bin_offsets_hz.zip t.frequency_bin_offsets_hz.tail, neighbours.2.Le neighbours.1)
      (.value "waterfall frequency offsets must be strictly increasing")]

/-- One offset inside the band of the sample rate. -/
def checkOffset (value : Num) : Except PyError Unit := do
  requireFinite value "frequency_bin_offset_hz"
  -- both quotients exist or neither does
  let low ← Num.div t.sample_rate_hz.neg (.int 2)
  let high ← Num.div t.sample_rate_hz (.int 2)
  raiseIf (¬(low.Le value ∧ value.Lt high)) (.value "waterfall frequency offset is outside Nyquist")

/-- The midpoint of a row, in nanoseconds. -/
def midpoint (start_sample stop_sample : Int) : Except PyError Int := do
  let quotient ← Num.div (.int ((start_sample + stop_sample) * 500000000)) t.sample_rate_hz
  let offset ← quotient.round
  .ok (t.segment_start_utc_ns + offset)

/-- One row after the row that stopped at `previous_stop`; where it stops. -/
def checkRow (previous_stop : Int) (row : WaterfallTimeBin) : Except PyError Int := do
  checkAll [
    raiseIf (row.val.start_sample < previous_stop) (.value "waterfall time bins overlap or are out of order"),
    raiseIf (t.segment_sample_count < row.val.stop_sample ∨
      row.val.stop_sample - row.val.start_sample ≠ t.fft_window_samples)
      (.value "waterfall time bin lies outside its segment"),
    raiseIf (row.val.power_db.length ≠ t.frequency_bin_offsets_hz.length)
      (.value "waterfall power row and frequency axis differ")]
  let expected_midpoint ← t.midpoint row.val.start_sample row.val.stop_sample
  raiseIf (row.val.midpoint_utc_ns ≠ expected_midpoint) (.value "waterfall time bin midpoint is inconsistent")
  .ok row.val.stop_sample

def post_init : Except PyError Unit := do
  t.checkAxis
  t.frequency_bin_offsets_hz.foldlM (fun _ value => t.checkOffset value) ()
  raiseIf (¬(0 < t.time_bins.length ∧ t.time_bins.length ≤ Waterfall.MAX_TIME_BINS_PER_TILE))
    (.value "waterfall time bin count exceeds its bound")
  let _ ← t.time_bins.foldlM t.checkRow (-1)
  .ok ()

end WaterfallTile.Fields

/-- `WaterfallTileV0_1` -/
abbrev WaterfallTile := Checked WaterfallTile.Fields.post_init

def WaterfallTile.toPy (t : WaterfallTile) : PyValue :=
  .dataclass "WaterfallTileV0_1" [
    ("segment_id", t.val.segment_id.toPy),
    ("receiver_chain_id", t.val.receiver_chain_id.toPy),
    ("segment_start_utc_ns", .int t.val.segment_start_utc_ns),
    ("segment_sample_count", .int t.val.segment_sample_count),
    ("center_frequency_hz", t.val.center_frequency_hz.toValue),
    ("sample_rate_hz", t.val.sample_rate_hz.toValue),
    ("fft_window_samples", .int t.val.fft_window_samples),
    ("power_reference", .str t.val.power_reference),
    ("frequency_bin_offsets_hz", .tuple (t.val.frequency_bin_offsets_hz.map Num.toValue)),
    ("time_bins", .tuple (t.val.time_bins.map WaterfallTimeBin.toPy))]

namespace WaterfallTile.Fields

variable (t : WaterfallTile.Fields)

theorem caught_checkAxis : Caught t.checkAxis := by
  refine caught_checkAll ?_
  simp

theorem computes_checkOffset (value : Num) : Computes (t.checkOffset value) := by
  refine computes_bind caught_requireFinite.computes fun _ => ?_
  refine computes_bind (computes_div _ _) fun low => ?_
  exact computes_bind (computes_div _ _) fun high => caught_raiseIf.computes

theorem computes_checkRow (previous_stop : Int) (row : WaterfallTimeBin) : Computes (t.checkRow previous_stop row) := by
  have hchecks : Caught (checkAll [
      raiseIf (row.val.start_sample < previous_stop) (.value "waterfall time bins overlap or are out of order"),
      raiseIf (t.segment_sample_count < row.val.stop_sample ∨
        row.val.stop_sample - row.val.start_sample ≠ t.fft_window_samples)
        (.value "waterfall time bin lies outside its segment"),
      raiseIf (row.val.power_db.length ≠ t.frequency_bin_offsets_hz.length)
        (.value "waterfall power row and frequency axis differ")]) := caught_checkAll (by simp)
  refine computes_bind hchecks.computes fun _ => ?_
  refine computes_bind ?_ fun _ => computes_bind caught_raiseIf.computes fun _ => raisesOnly_ok _
  exact computes_bind (computes_div _ _) fun _ => computes_bind (computes_round _) fun _ => raisesOnly_ok _

theorem computes_post_init : Computes t.post_init := by
  refine computes_bind t.caught_checkAxis.computes fun _ => ?_
  refine computes_bind (computes_foldlM (fun _ value => t.computes_checkOffset value) _ _) fun _ => ?_
  refine computes_bind caught_raiseIf.computes fun _ => ?_
  exact computes_bind (computes_foldlM t.computes_checkRow _ _) fun _ => raisesOnly_ok _

end WaterfallTile.Fields

/-! ## Bundles -/

structure WaterfallBundle.Fields where
  schema : SchemaRef
  product_id : WaterfallProductId
  analysis_run_id : AnalysisRunId
  recording_id : RecordingId
  input_recording_identity_digest : Digest
  provenance : Provenance
  tiles : List WaterfallTile
  warnings : List PyStr := []
  reason_codes : List PyStr := []

/-- `SchemaRef(WaterfallBundleV0_1.SCHEMA_ID)` -/
def WaterfallBundle.SCHEMA : SchemaRef := ⟨str "org.leo-flow.waterfall-bundle", V0_1, by decide⟩

/-- The identity of a tile, unique in its bundle. -/
def WaterfallTile.key (t : WaterfallTile) : SegmentId × ReceiverChainId := (t.val.segment_id, t.val.receiver_chain_id)

/-- Rows by columns -/
def WaterfallTile.cells (t : WaterfallTile) : Nat := t.val.time_bins.length * t.val.frequency_bin_offsets_hz.length

def WaterfallBundle.Fields.post_init (b : WaterfallBundle.Fields) : Except PyError Unit :=
  checkAll [
    raiseIf (b.schema ≠ WaterfallBundle.SCHEMA) (.value "unsupported waterfall bundle schema"),
    raiseIf (¬(0 < b.tiles.length ∧ b.tiles.length ≤ Waterfall.MAX_TILES))
      (.value "waterfall tile count exceeds its bound"),
    raiseIf (¬(b.tiles.map WaterfallTile.key).Nodup) (.value "waterfall tile identities must be unique"),
    raiseIf (Waterfall.MAX_CELLS < (b.tiles.map WaterfallTile.cells).sum)
      (.value "waterfall cell count exceeds its bound")]

/-- `WaterfallBundleV0_1` -/
abbrev WaterfallBundle := Checked WaterfallBundle.Fields.post_init

def WaterfallBundle.toPy (b : WaterfallBundle) : PyValue :=
  .dataclass "WaterfallBundleV0_1" [
    ("schema", b.val.schema.toPy),
    ("product_id", b.val.product_id.toPy),
    ("analysis_run_id", b.val.analysis_run_id.toPy),
    ("recording_id", b.val.recording_id.toPy),
    ("input_recording_identity_digest", b.val.input_recording_identity_digest.toPy),
    ("provenance", Provenance.toPy b.val.provenance),
    ("tiles", .tuple (b.val.tiles.map WaterfallTile.toPy)),
    ("warnings", .tuple (b.val.warnings.map .str)),
    ("reason_codes", .tuple (b.val.reason_codes.map .str))]

theorem caught_waterfallBundle (b : WaterfallBundle.Fields) : Caught b.post_init := by
  refine caught_checkAll ?_
  simp

end LeoFlow
