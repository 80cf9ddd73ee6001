import LeoFlow.Contracts.Waterfall
import LeoFlow.Analysis.WaterfallWindows
import LeoFlow.Contracts.Samples

/-!
# LeoFlow.Analysis.WaterfallAnalysis — the waterfall analyzer

`analysis/recording/waterfall.py`: the configuration, the bounds on tiles and rows, and the
loop over segments and receivers that builds the tiles of one bundle. The windowed transform
and the logarithm of the C library are parameters; which rows there are does not depend on
them.
-/

namespace LeoFlow

/-! ## Configuration -/

structure WaterfallConfig.Fields where
  fft_window_samples : Int := 256
  frequency_bins : Int := 128
  maximum_time_bins_per_tile : Int := 128
  maximum_tiles : Int := Waterfall.MAX_TILES
  maximum_total_cells : Int := Waterfall.MAX_CELLS
  power_floor_counts_squared : Num

namespace WaterfallConfig

/-- `value & (value - 1)` of a positive integer -/
def bitsBelow (value : Int) : Nat := value.toNat &&& (value.toNat - 1)

def Fields.post_init (c : WaterfallConfig.Fields) : Except PyError Unit :=
  checkAll [
    raiseIf (c.fft_window_samples < 8 ∨ 4096 < c.fft_window_samples ∨ bitsBelow c.fft_window_samples ≠ 0)
      (.value "fft_window_samples must be a power of two in [8, 4096]"),
    raiseIf (c.frequency_bins ≤ 0 ∨ (Waterfall.MAX_FREQUENCY_BINS : Int) < c.frequency_bins ∨
        bitsBelow c.frequency_bins ≠ 0 ∨ c.fft_window_samples < c.frequency_bins)
      (.value "frequency_bins must be a bounded power of two no larger than FFT"),
    raiseIf (¬(0 < c.maximum_time_bins_per_tile ∧ c.maximum_time_bins_per_tile ≤ Waterfall.MAX_TIME_BINS_PER_TILE))
      (.value "maximum_time_bins_per_tile exceeds its public contract bound"),
    raiseIf (¬(0 < c.maximum_tiles ∧ c.maximum_tiles ≤ Waterfall.MAX_TILES))
      (.value "maximum_tiles exceeds its public contract bound"),
    raiseIf (¬(0 < c.maximum_total_cells ∧ c.maximum_total_cells ≤ Waterfall.MAX_CELLS))
      (.value "maximum_total_cells exceeds its public contract bound"),
    raiseIf (¬(c.power_floor_counts_squared.Finite ∧ Num.Lt (.int 0) c.power_floor_counts_squared))
      (.value "power_floor_counts_squared must be positive and finite")]

end WaterfallConfig

/-- `WaterfallConfigV0_1` -/
abbrev WaterfallConfig := Checked WaterfallConfig.Fields.post_init

def WaterfallConfig.toPy (c : WaterfallConfig) : PyValue :=
  .dataclass "WaterfallConfigV0_1" [
    ("fft_window_samples", .int c.val.fft_window_samples),
    ("frequency_bins", .int c.val.frequency_bins),
    ("maximum_time_bins_per_tile", .int c.val.maximum_time_bins_per_tile),
    ("maximum_tiles", .int c.val.maximum_tiles),
    ("maximum_total_cells", .int c.val.maximum_total_cells),
    ("power_floor_counts_squared", c.val.power_floor_counts_squared.toValue)]

structure AnalysisExecutionContext.Fields where
  producer_name : PyStr
  producer_version : PyStr
  git_commit : PyStr
  environment_digest : Digest
  started_utc_ns : Int
  completed_utc_ns : Int
  host_class : PyStr

/-- The provenance of a run in this context. -/
def AnalysisExecutionContext.Fields.provenance (e : AnalysisExecutionContext.Fields) (normalized_config_digest : Digest)
    (input_digests dependency_digests : List Digest) : Provenance.Fields where
  producer_name := e.producer_name
  producer_version := e.producer_version
  git_commit := e.git_commit
  environment_digest := e.environment_digest
  normalized_config_digest
  input_digests
  dependency_digests
  started_utc_ns := e.started_utc_ns
  completed_utc_ns := e.completed_utc_ns
  host_class := e.host_class

/-- The context is checked by the provenance of a dummy run. -/
def AnalysisExecutionContext.Fields.post_init (e : AnalysisExecutionContext.Fields) : Except PyError Unit :=
  (e.provenance (Digest.sha256 ((str "context-validation").map UInt8.ofNat))
    [Digest.sha256 ((str "context-validation-input").map UInt8.ofNat)] []).post_init

/-- `AnalysisExecutionContext` -/
abbrev AnalysisExecutionContext := Checked AnalysisExecutionContext.Fields.post_init

/-! ## Requests -/

structure WaterfallRequest.Fields where
  schema : SchemaRef
  recording_id : RecordingId
  recording_object_ref : RecordingObjectRef
  algorithm_ref : ArtifactRef
  config_ref : ArtifactRef
  dependency_refs : List ArtifactRef
  requested_output_schema : SchemaRef

def WaterfallRequest.SCHEMA : SchemaRef := ⟨str "org.leo-flow.waterfall-analysis-request", V0_1, by decide⟩

def WaterfallRequest.Fields.post_init (r : WaterfallRequest.Fields) : Except PyError Unit :=
  checkAll [
    raiseIf (r.schema ≠ WaterfallRequest.SCHEMA) (.value "unsupported waterfall analysis request"),
    raiseIf (r.recording_id ≠ r.recording_object_ref.val.recording_id) (.value "waterfall request recording IDs differ"),
    raiseIf (r.requested_output_schema ≠ WaterfallBundle.SCHEMA) (.value "unsupported waterfall analysis output schema"),
    raiseIf (¬(r.dependency_refs.map ArtifactRef.artifact_id).Nodup)
      (.value "waterfall dependency refs contain duplicate IDs")]

/-- `WaterfallAnalysisRequestV0_1` -/
abbrev WaterfallRequest := Checked WaterfallRequest.Fields.post_init

/-- `waterfall_algorithm_ref_v0_1` -/
def waterfallAlgorithmRef : Except PyError ArtifactRef := do
  let digest ← canonicalDigest (.dict [
    (str "algorithm_id", .str (str "bounded-waterfall")),
    (str "algorithm_version", .str (str "0.1.0")),
    (str "input", .str (str "org.leo-flow.recording-view/v0.1")),
    (str "output", .str (str "org.leo-flow.waterfall-bundle/0.1")),
    (str "window", .str (str "periodic-hann-demeaned-radix2-fft")),
    (str "time_selection", .str (str "evenly-spaced-nonoverlapping-verified-rf-windows")),
    (str "frequency_reduction", .str (str "mean-power-contiguous-fftshifted-groups"))])
  .ok ⟨str "bounded-waterfall-v0.1", digest,
    some ⟨str "org.leo-flow.recording-waterfall-algorithm", V0_1, by decide⟩, by decide⟩

/-- `waterfall_config_ref_v0_1` -/
def waterfallConfigRef (config : WaterfallConfig) : Except PyError ArtifactRef := do
  let digest ← canonicalDigest (WaterfallConfig.toPy config)
  .ok ⟨str "bounded-waterfall-config-v0.1", digest,
    some ⟨str "org.leo-flow.waterfall-config", V0_1, by decide⟩, by decide⟩

/-! ## Samples -/

/-- A little-endian signed 16-bit integer -/
def int16 (low high : UInt8) : Int :=
  let word := low.toNat + 256 * high.toNat
  if word < 32768 then word else (word : Int) - 65536

/-- `array("h").frombytes(raw)` of an even number of bytes -/
def int16s : Bytes → List Int
  | low :: high :: raw => int16 low high :: int16s raw
  | _ => []

/-- `decode_ci16`; the error is the message of a `Ci16DecodeError`. -/
def decodeCi16 (raw : Bytes) (receiver_count : Nat) : Except String (List Int × Nat) :=
  if receiver_count = 0 then .error "receiver count must be positive"
  else
    let bytes_per_sample := receiver_count * 4
    if raw.length % bytes_per_sample ≠ 0 then .error "CI16 byte count is not a complete paired sample"
    else .ok (int16s raw, raw.length / bytes_per_sample)

/-- What the analyzer asks of `RecordingView`. -/
structure WaterfallView where
  manifest : RecordingManifest
  read_iq_bytes : SegmentId → Int → Int → Except PyError Bytes
  contiguous_rf_spans : SegmentId → Except PyError (List (Int × Int))

/-- The functions of `math` and `cmath`, and `round` to decimal places. -/
structure WaterfallNumerics where
  /-- The power spectrum of the demeaned samples under the Hann window, in counts squared, by increasing frequency. -/
  powers : List (Int × Int) → Except PyError (List Num)
  log10 : Num → Except PyError Num
  roundTo : Nat → Num → Except PyError Num

/-- The text of a token -/
def tokenText (token : PyStr) : String := String.ofList (token.map Char.ofNat)

namespace WaterfallAnalyzer

def inputError (message : String) : PyError := ⟨.analysis_input_error, message⟩

def configurationError (message : String) : PyError := ⟨.analysis_configuration_error, message⟩

variable (numerics : WaterfallNumerics) (config : WaterfallConfig) (recording : WaterfallView)

/-- `_frequency_axis` -/
def frequencyAxis (sample_rate_hz : Num) : Except PyError (List Num) :=
  let fft_samples := config.val.fft_window_samples
  let group_size := fft_samples / config.val.frequency_bins
  let signed_bins := pyRange (-fft_samples / 2) (fft_samples / 2) 1
  (pyRange 0 fft_samples group_size).mapM fun start => do
    let total := ((signed_bins.drop start.toNat).take group_size.toNat).sum
    let scaled ← Num.mul (.int total) sample_rate_hz
    let offset ← Num.div scaled (.int (group_size * fft_samples))
    numerics.roundTo 9 offset

/-- `_power_row_db` -/
def powerRowDb (values : List (Int × Int)) : Except PyError (List Num) := do
  let powers ← numerics.powers values
  let group_size := (values.length : Int) / config.val.frequency_bins
  (pyRange 0 values.length group_size).mapM fun start => do
    let total ← Num.sumOver ((powers.drop start.toNat).take group_size.toNat) .ok
    let mean ← Num.div total (.int group_size)
    let logarithm ← numerics.log10 (Num.maximum mean [config.val.power_floor_counts_squared])
    let decibels ← Num.mul (.float (PyFloat.ofRatio false 10 1)) logarithm
    numerics.roundTo 6 decibels

/-- `_read_exact` -/
def readExact (segment_id : SegmentId) (start stop : Int) (receiver_count : Nat) : Except PyError Bytes :=
  let expected_bytes := (stop - start) * receiver_count * 4
  match recording.read_iq_bytes segment_id start stop with
  | .error _ => .error (inputError ("recording reader failed for " ++ tokenText segment_id.value ++ "[" ++
      toString start ++ ":" ++ toString stop ++ "]"))
  | .ok raw => do
    raiseIf ((raw.length : Int) ≠ expected_bytes) (inputError ("recording reader returned " ++ toString raw.length ++
      " bytes; expected " ++ toString expected_bytes))
    .ok raw

/-- The samples of one receiver. -/
def receiverSamples (decoded : List Int) (receiver_count receiver_index : Nat) : List (Int × Int) :=
  (pyRange (receiver_index * 2) decoded.length (receiver_count * 2)).map fun position =>
    (decoded.getD position.toNat 0, decoded.getD (position + 1).toNat 0)

/-- The row of one receiver in the window. -/
def timeBin (segment : SegmentManifest) (start : Int) (decoded : List Int) (receiver_index : Nat) :
    Except PyError WaterfallTimeBin := do
  let stop := start + config.val.fft_window_samples
  let samples := receiverSamples decoded segment.val.requested.val.receiver_chain_ids.length receiver_index
  let quotient ← Num.div (.int ((start + stop) * 500000000)) segment.val.actual_sample_rate_hz
  let offset ← quotient.round
  let power_db ← powerRowDb numerics config samples
  Checked.make _ {
    start_sample := start
    stop_sample := stop
    midpoint_utc_ns := segment.val.start_utc_ns + offset
    power_db }

/-- One window: a row for every receiver. -/
def windowRows (segment : SegmentManifest) (start : Int) : Except PyError (List WaterfallTimeBin) := do
  let receiver_count := segment.val.requested.val.receiver_chain_ids.length
  let stop := start + config.val.fft_window_samples
  let raw ← readExact recording segment.val.segment_id start stop receiver_count
  match decodeCi16 raw receiver_count with
  | .error _ => .error (inputError ("segment " ++ tokenText segment.val.segment_id.value ++ " waterfall CI16 is malformed"))
  | .ok (decoded, sample_count) => do
    raiseIf ((sample_count : Int) ≠ config.val.fft_window_samples)
      (inputError "waterfall window decoded to an unexpected sample count")
    (List.range receiver_count).mapM (timeBin numerics config segment start decoded)

/-- `rows[receiver_index].append(row)` for every receiver -/
def appendRows (rows : List (List WaterfallTimeBin)) (window : List WaterfallTimeBin) : List (List WaterfallTimeBin) :=
  List.zipWith (fun receiver_rows row => receiver_rows ++ [row]) rows window

/-- The tile of one receiver. -/
def tile (segment : SegmentManifest) (frequency_axis : List Num) (receiver_id : ReceiverChainId)
    (receiver_rows : List WaterfallTimeBin) : Except PyError WaterfallTile :=
  Checked.make _ {
    segment_id := segment.val.segment_id
    receiver_chain_id := receiver_id
    segment_start_utc_ns := segment.val.start_utc_ns
    segment_sample_count := segment.val.sample_count
    center_frequency_hz := segment.val.actual_center_frequency_hz
    sample_rate_hz := segment.val.actual_sample_rate_hz
    fft_window_samples := config.val.fft_window_samples
    power_reference := str "counts-squared-per-bin"
    frequency_bin_offsets_hz := frequency_axis
    time_bins := receiver_rows }

/-- One round of the loop over the segments: its tiles, or `none` where it is skipped. -/
def segmentTiles (time_limit : Int) (segment : SegmentManifest) : Except PyError (Option (List WaterfallTile)) := do
  let starts ← WaterfallWindows.selectedWindowStarts (tokenText segment.val.segment_id.value)
    (recording.contiguous_rf_spans segment.val.segment_id) segment.val.sample_count config.val.fft_window_samples time_limit
  if starts = [] then .ok none
  else do
    let receiver_ids := segment.val.requested.val.receiver_chain_ids
    let rows ← starts.foldlM (fun rows start => do
      let window ← windowRows numerics config recording segment start
      .ok (appendRows rows window)) (receiver_ids.map fun _ => [])
    let frequency_axis ← frequencyAxis numerics config segment.val.actual_sample_rate_hz
    let tiles ← (receiver_ids.zip rows).mapM fun (receiver_id, receiver_rows) =>
      tile config segment frequency_axis receiver_id receiver_rows
    .ok (some tiles)

/-- `sum(len(segment.requested.receiver_chain_ids) for segment in manifest.segments)` -/
def tileCount (manifest : RecordingManifest) : Nat :=
  (manifest.val.segments.map fun segment => segment.val.requested.val.receiver_chain_ids.length).sum

/-- The rows that the bounds leave for one tile. -/
def timeLimit (manifest : RecordingManifest) : Except PyError Int := do
  let tile_count : Int := tileCount manifest
  raiseIf (tile_count = 0) (inputError "recording contains no waterfall receivers")
  raiseIf (config.val.maximum_tiles < tile_count) (inputError "recording exceeds configured waterfall tile bound")
  let time_limit := min config.val.maximum_time_bins_per_tile
    (config.val.maximum_total_cells / (tile_count * config.val.frequency_bins))
  raiseIf (time_limit ≤ 0) (configurationError "waterfall cell bound cannot provide one row per tile")
  .ok time_limit

/-- The loop over the segments. -/
def segmentsTiles (time_limit : Int) : Except PyError (List (SegmentId × Option (List WaterfallTile))) :=
  recording.manifest.val.segments.mapM fun segment => do
    let tiles ← segmentTiles numerics config recording time_limit segment
    .ok (segment.val.segment_id, tiles)

/-- `tiles` after the loop -/
def builtTiles (results : List (SegmentId × Option (List WaterfallTile))) : List WaterfallTile :=
  results.flatMap fun result => result.2.getD []

/-- `warnings` after the loop -/
def shortSegments (results : List (SegmentId × Option (List WaterfallTile))) : List PyStr :=
  (results.filter fun result => result.2.isNone).map fun result => result.1.value ++ str ":segment-too-short"

/-- The key that the dependencies are sorted by. -/
def dependencyKey (ref : ArtifactRef) : PyStr ×ₗ PyStr := toLex (ref.artifact_id, ref.digest.toStr)

/-- `BoundedWaterfallAnalyzerV0_1.analyze_waterfall` -/
def analyzeWaterfall (execution : AnalysisExecutionContext) (request : WaterfallRequest) :
    Except PyError WaterfallBundle := do
  let manifest := recording.manifest
  raiseIf (manifest.val.recording_id ≠ request.val.recording_id)
    (inputError "recording view and waterfall request IDs differ")
  let algorithm_ref ← waterfallAlgorithmRef
  raiseIf (request.val.algorithm_ref ≠ algorithm_ref)
    (configurationError "waterfall request algorithm_ref does not identify this analyzer")
  let config_ref ← waterfallConfigRef config
  raiseIf (request.val.config_ref ≠ config_ref)
    (configurationError "waterfall request config_ref does not match analyzer config")
  raiseIf (request.val.requested_output_schema ≠ WaterfallBundle.SCHEMA)
    (configurationError "waterfall request does not select bundle v0.1")
  let time_limit ← timeLimit config manifest
  let dependencies := request.val.dependency_refs.insertionSort fun a b => dependencyKey a ≤ dependencyKey b
  let recording_digest ← request.val.recording_object_ref.identity_digest
  let token ← canonicalDigest (.dict [
    (str "recording_id", .str request.val.recording_id.value),
    (str "recording_identity_digest", .str recording_digest.toStr),
    (str "algorithm_digest", .str request.val.algorithm_ref.digest.toStr),
    (str "config_digest", .str request.val.config_ref.digest.toStr),
    (str "dependency_digests", .list (dependencies.map fun ref => .str ref.digest.toStr)),
    (str "environment_digest", .str execution.val.environment_digest.toStr),
    (str "git_commit", .str execution.val.git_commit)])
  let results ← segmentsTiles numerics config recording time_limit
  let tiles := builtTiles results
  let warnings := shortSegments results
  raiseIf (tiles = []) (inputError "recording has no complete waterfall window")
  let provenance ← Checked.make _ (execution.val.provenance request.val.config_ref.digest [recording_digest]
    (request.val.algorithm_ref.digest :: dependencies.map ArtifactRef.digest))
  let product_id ← ContractId.parse .waterfall_product (str "waterfall_" ++ (token.value.drop 32).take 32)
  let analysis_run_id ← ContractId.parse .analysis_run (str "arun_" ++ token.value.take 32)
  Checked.make _ {
    schema := WaterfallBundle.SCHEMA
    product_id
    analysis_run_id
    recording_id := request.val.recording_id
    input_recording_identity_digest := recording_digest
    provenance
    tiles
    warnings := warnings.dedup.insertionSort (· ≤ ·)
    -- the order that `sorted` puts the two codes in
    reason_codes := (if tiles.length ≠ tileCount manifest then [str "waterfall-segments-omitted"] else []) ++
      (if warnings ≠ [] then [str "waterfall-skipped-short-segment"] else []) }

/-! ## The cell budget -/

section Budget

variable {numerics config recording} {time_limit : Int}

/-- The ranges over groups have one start for each frequency bin. -/
theorem length_groups {fft_samples frequency_bins : Int} (hbins : 0 < frequency_bins) (hle : frequency_bins ≤ fft_samples)
    (hdvd : frequency_bins ∣ fft_samples) :
    ((pyRange 0 fft_samples (fft_samples / frequency_bins)).length : Int) = frequency_bins := by
  rcases hdvd with ⟨group, rfl⟩
  have hgroup : frequency_bins * group / frequency_bins = group := Int.mul_ediv_cancel_left _ hbins.ne'
  have hpos : 0 < group := by
    by_contra hneg
    have := Int.mul_le_mul_of_nonneg_left (show group ≤ 0 by omega) hbins.le
    omega
  have hcount : (frequency_bins * group - 0 + group - 1) / group = frequency_bins := by
    rw [Int.sub_zero, Int.add_sub_assoc, Int.mul_comm, Int.mul_add_ediv_left _ _ hpos.ne',
      Int.ediv_eq_zero_of_lt (by omega) (by omega), Int.add_zero]
  rw [hgroup]
  unfold pyRange
  rw [List.length_map, List.length_range, hcount]
  omega

/-- The bounds that the configuration carries. -/
theorem config_bounds (config : WaterfallConfig) :
    8 ≤ config.val.fft_window_samples ∧ 0 < config.val.frequency_bins ∧
      config.val.frequency_bins ≤ config.val.fft_window_samples ∧
      config.val.frequency_bins ∣ config.val.fft_window_samples := by
  have hok := config.ok
  unfold WaterfallConfig.Fields.post_init at hok
  simp only [checkAll_cons, raiseIf_ok, not_or, not_lt, not_le, ne_eq, not_not] at hok
  rcases hok with ⟨⟨height, _, hfft⟩, ⟨hbins, _, hpower, hle⟩, _⟩
  refine ⟨height, hbins, hle, ?_⟩
  rcases (Nat.and_sub_one_eq_zero_iff_isPowerOfTwo (show config.val.fft_window_samples.toNat ≠ 0 by omega)).1 hfft with ⟨m, hm⟩
  rcases (Nat.and_sub_one_eq_zero_iff_isPowerOfTwo (show config.val.frequency_bins.toNat ≠ 0 by omega)).1 hpower with ⟨k, hk⟩
  have hkm : k ≤ m := by
    refine (Nat.pow_le_pow_iff_right (by decide : 1 < 2)).1 ?_
    rw [← hm, ← hk]
    omega
  have hdvd : config.val.frequency_bins.toNat ∣ config.val.fft_window_samples.toNat := by
    rw [hm, hk]
    exact Nat.pow_dvd_pow 2 hkm
  have hcast := Int.natCast_dvd_natCast.2 hdvd
  rwa [Int.toNat_of_nonneg (by omega), Int.toNat_of_nonneg (by omega)] at hcast

theorem length_frequencyAxis {sample_rate_hz : Num} {axis : List Num}
    (h : frequencyAxis numerics config sample_rate_hz = .ok axis) : (axis.length : Int) = config.val.frequency_bins := by
  rcases config_bounds config with ⟨_, hbins, hle, hdvd⟩
  rw [← (mapM_ok.1 h).length_eq]
  exact length_groups hbins hle hdvd

/-- A window has one row for each receiver, and every row starts where the window does. -/
theorem windowRows_ok {segment : SegmentManifest} {start : Int} {window : List WaterfallTimeBin}
    (h : windowRows numerics config recording segment start = .ok window) :
    window.length = segment.val.requested.val.receiver_chain_ids.length ∧ ∀ row ∈ window, row.val.start_sample = start := by
  unfold windowRows at h
  rcases bind_ok.1 h with ⟨raw, _, hdecoded⟩
  split at hdecoded
  · nomatch hdecoded
  rcases bind_ok.1 hdecoded with ⟨_, _, hrows⟩
  have hrows := mapM_ok.1 hrows
  refine ⟨by rw [← hrows.length_eq, List.length_range], ?_⟩
  intro row hrow
  rcases Json.exists_mem_of_forall₂ hrows.flip hrow with ⟨receiver_index, _, hbin⟩
  unfold timeBin at hbin
  rcases bind_ok.1 hbin with ⟨quotient, _, hround⟩
  rcases bind_ok.1 hround with ⟨offset, _, hpower⟩
  rcases bind_ok.1 hpower with ⟨power_db, _, hmake⟩
  rw [Checked.val_of_make hmake]

/-- Every receiver gets the rows of every window, in their order. -/
theorem rows_ok {segment : SegmentManifest} {starts done : List Int} {rows rows' : List (List WaterfallTimeBin)}
    (h : starts.foldlM (fun rows start => do
      let window ← windowRows numerics config recording segment start
      .ok (appendRows rows window)) rows = .ok rows')
    (hlength : rows.length = segment.val.requested.val.receiver_chain_ids.length)
    (hdone : ∀ row ∈ rows, row.map (fun bin => bin.val.start_sample) = done) :
    rows'.length = segment.val.requested.val.receiver_chain_ids.length ∧
      ∀ row ∈ rows', row.map (fun bin => bin.val.start_sample) = done ++ starts := by
  induction starts generalizing rows done with
  | nil =>
    cases h
    rw [List.append_nil]
    exact ⟨hlength, hdone⟩
  | cons start starts ih =>
    rw [List.foldlM_cons] at h
    rcases bind_ok.1 h with ⟨next, hstep, hrest⟩
    rcases bind_ok.1 hstep with ⟨window, hwindow, happend⟩
    rcases windowRows_ok hwindow with ⟨hcount, hstart⟩
    have hnext : next = List.zipWith (fun receiver_rows row => receiver_rows ++ [row]) rows window :=
      (Except.ok.inj happend).symm
    have hnext_length : next.length = segment.val.requested.val.receiver_chain_ids.length := by
      rw [hnext, List.length_zipWith, hlength, hcount, Nat.min_self]
    have hnext_done : ∀ row ∈ next, row.map (fun bin => bin.val.start_sample) = done ++ [start] := by
      intro row hrow
      rw [hnext, ← List.map_uncurry_zip_eq_zipWith] at hrow
      rcases List.mem_map.1 hrow with ⟨⟨receiver_rows, bin⟩, hpair, rfl⟩
      rcases List.of_mem_zip hpair with ⟨hreceiver, hbin⟩
      show (receiver_rows ++ [bin]).map _ = _
      rw [List.map_append, hdone _ hreceiver, List.map_singleton, hstart _ hbin]
    have hlater := ih hrest hnext_length hnext_done
    rw [List.append_assoc] at hlater
    exact hlater

/-- A tile whose rows are well placed windows of its segment, and whose columns are the frequency bins. -/
structure TileWithin (config : WaterfallConfig) (recording : WaterfallView) (time_limit : Int) (t : WaterfallTile) : Prop where
  placed : ∃ segment ∈ recording.manifest.val.segments, t.val.segment_id = segment.val.segment_id ∧
    ∃ spans, recording.contiguous_rf_spans segment.val.segment_id = .ok spans ∧
      WaterfallWindows.Contiguous segment.val.sample_count 0 spans ∧
      WaterfallWindows.WellPlaced config.val.fft_window_samples time_limit spans
        (t.val.time_bins.map fun bin => bin.val.start_sample)
  columns : (t.val.frequency_bin_offsets_hz.length : Int) = config.val.frequency_bins

theorem segmentTiles_ok {segment : SegmentManifest} (hsegment : segment ∈ recording.manifest.val.segments)
    (hlimit : 0 < time_limit) {result : Option (List WaterfallTile)}
    (h : segmentTiles numerics config recording time_limit segment = .ok result) :
    (result.getD []).length ≤ segment.val.requested.val.receiver_chain_ids.length ∧
      ∀ t ∈ result.getD [], TileWithin config recording time_limit t := by
  unfold segmentTiles at h
  rcases bind_ok.1 h with ⟨starts, hstarts, hrest⟩
  by_cases hnone : starts = []
  · rw [if_pos hnone] at hrest
    cases hrest
    exact ⟨Nat.zero_le _, fun t ht => absurd ht List.not_mem_nil⟩
  rw [if_neg hnone] at hrest
  rcases bind_ok.1 hrest with ⟨rows, hrows, haxis⟩
  rcases bind_ok.1 haxis with ⟨frequency_axis, hfrequency, htiles⟩
  rcases bind_ok.1 htiles with ⟨tiles, hmade, hresult⟩
  cases hresult
  have hmade := mapM_ok.1 hmade
  have hnone_yet : ∀ row ∈ segment.val.requested.val.receiver_chain_ids.map fun _ => ([] : List WaterfallTimeBin),
      row.map (fun bin => bin.val.start_sample) = [] := by simp
  rcases rows_ok hrows (by rw [List.length_map]) hnone_yet with ⟨hlength, hplaced⟩
  have hwindow : 0 < config.val.fft_window_samples := by
    have := (config_bounds config).1
    omega
  have hsound := WaterfallWindows.wellPlaced_of_ok hwindow hlimit hstarts
  constructor
  · show tiles.length ≤ _
    rw [← hmade.length_eq, List.length_zip]
    exact Nat.min_le_left _ _
  · intro t ht
    rcases Json.exists_mem_of_forall₂ hmade.flip ht with ⟨⟨receiver_id, receiver_rows⟩, hpair, hmake⟩
    have hval := Checked.val_of_make hmake
    refine ⟨⟨segment, hsegment, by rw [hval], ?_⟩, ?_⟩
    · have hrow := hplaced receiver_rows (List.of_mem_zip hpair).2
      have hstarts : (t.val.time_bins.map fun bin => bin.val.start_sample) = starts := by
        rw [hval]
        exact hrow
      rw [hstarts]
      exact hsound
    · rw [hval]
      exact length_frequencyAxis hfrequency

/-- A tile has at most `time_limit` rows of `frequency_bins` cells. -/
theorem TileWithin.cells_le {t : WaterfallTile} (h : TileWithin config recording time_limit t) :
    (t.cells : Int) ≤ time_limit * config.val.frequency_bins := by
  rcases h.placed with ⟨segment, _, _, spans, _, _, hplaced⟩
  have hcount := hplaced.count
  rw [List.length_map] at hcount
  have hrows : (t.val.time_bins.length : Int) ≤ time_limit := by omega
  unfold WaterfallTile.cells
  rw [Int.natCast_mul, h.columns]
  exact Int.mul_le_mul_of_nonneg_right hrows (config_bounds config).2.1.le

theorem segmentsTiles_ok (hlimit : 0 < time_limit) {results : List (SegmentId × Option (List WaterfallTile))}
    (h : segmentsTiles numerics config recording time_limit = .ok results) :
    (builtTiles results).length ≤ tileCount recording.manifest ∧
      ∀ t ∈ builtTiles results, TileWithin config recording time_limit t := by
  have hall := mapM_ok.1 h
  have hsegments : ∀ segments : List SegmentManifest, ∀ answers : List (SegmentId × Option (List WaterfallTile)),
      (∀ segment ∈ segments, segment ∈ recording.manifest.val.segments) →
      List.Forall₂ (fun segment answer => (do
        let tiles ← segmentTiles numerics config recording time_limit segment
        Except.ok (segment.val.segment_id, tiles)) = .ok answer) segments answers →
      (builtTiles answers).length ≤ (segments.map fun segment =>
        segment.val.requested.val.receiver_chain_ids.length).sum ∧
      ∀ t ∈ builtTiles answers, TileWithin config recording time_limit t := by
    intro segments answers hmem hround
    induction hround with
    | nil => exact ⟨le_rfl, fun t ht => absurd ht List.not_mem_nil⟩
    | @cons segment answer segments answers hsegment _ ih =>
      rcases ih fun other hother => hmem other (List.mem_cons_of_mem _ hother) with ⟨hlength, hwithin⟩
      rcases bind_ok.1 hsegment with ⟨tiles, htiles, hanswer⟩
      cases hanswer
      rcases segmentTiles_ok (hmem segment List.mem_cons_self) hlimit htiles with ⟨hcount, htile⟩
      have hcons : builtTiles ((segment.val.segment_id, tiles) :: answers) = tiles.getD [] ++ builtTiles answers := rfl
      rw [hcons]
      refine ⟨?_, fun t ht => (List.mem_append.1 ht).elim (htile t) (hwithin t)⟩
      rw [List.length_append, List.map_cons, List.sum_cons]
      omega
  exact hsegments _ _ (fun _ h => h) hall

/-- The limit leaves room for all the tiles. -/
theorem timeLimit_ok (h : timeLimit config recording.manifest = .ok time_limit) :
    0 < time_limit ∧
      (tileCount recording.manifest : Int) * (time_limit * config.val.frequency_bins) ≤ config.val.maximum_total_cells := by
  unfold timeLimit at h
  rcases bind_ok.1 h with ⟨_, hzero, hrest⟩
  rcases bind_ok.1 hrest with ⟨_, _, hlast⟩
  rcases bind_ok.1 hlast with ⟨_, hpositive, hlimit⟩
  have hcount := raiseIf_ok.1 hzero
  have hpositive := raiseIf_ok.1 hpositive
  have hbins := (config_bounds config).2.1
  have hproduct : 0 < (tileCount recording.manifest : Int) * config.val.frequency_bins :=
    Int.mul_pos (by omega) hbins
  cases hlimit
  refine ⟨by omega, ?_⟩
  have hshare := (Int.le_ediv_iff_mul_le hproduct).1 (min_le_right config.val.maximum_time_bins_per_tile
    (config.val.maximum_total_cells / ((tileCount recording.manifest : Int) * config.val.frequency_bins)))
  calc (tileCount recording.manifest : Int) * (_ * config.val.frequency_bins)
      = _ * ((tileCount recording.manifest : Int) * config.val.frequency_bins) := by
        rw [Int.mul_left_comm]
    _ ≤ _ := hshare

/-- The cells of tiles that are each within a bound. -/
theorem sum_cells_le {tiles : List WaterfallTile} {bound : Int} (h : ∀ t ∈ tiles, (t.cells : Int) ≤ bound) :
    ((tiles.map WaterfallTile.cells).sum : Int) ≤ tiles.length * bound := by
  induction tiles with
  | nil => simp
  | cons t tiles ih =>
    have hrest := ih fun other hother => h other (List.mem_cons_of_mem _ hother)
    have hhead := h t List.mem_cons_self
    rw [List.map_cons, List.sum_cons, List.length_cons]
    push_cast at hrest ⊢
    rw [Int.add_mul, Int.one_mul]
    omega

/-- All tiles together stay within the budget. -/
theorem cells_within_budget (hlimit : timeLimit config recording.manifest = .ok time_limit)
    {results : List (SegmentId × Option (List WaterfallTile))}
    (h : segmentsTiles numerics config recording time_limit = .ok results) :
    (((builtTiles results).map WaterfallTile.cells).sum : Int) ≤ config.val.maximum_total_cells := by
  rcases timeLimit_ok hlimit with ⟨hpositive, hbudget⟩
  rcases segmentsTiles_ok hpositive h with ⟨hcount, hwithin⟩
  have hcells := sum_cells_le fun t ht => (hwithin t ht).cells_le
  have hbins := (config_bounds config).2.1
  have htotal := Int.mul_le_mul_of_nonneg_right (show ((builtTiles results).length : Int) ≤ tileCount recording.manifest by
    omega) (Int.mul_pos hpositive hbins).le
  omega

/-- The tiles of a bundle are those of the loop, under the limit of its recording. -/
theorem tiles_of_analyze {execution : AnalysisExecutionContext} {request : WaterfallRequest} {bundle : WaterfallBundle}
    (h : analyzeWaterfall numerics config recording execution request = .ok bundle) :
    ∃ time_limit results, timeLimit config recording.manifest = .ok time_limit ∧
      segmentsTiles numerics config recording time_limit = .ok results ∧ bundle.val.tiles = builtTiles results := by
  unfold analyzeWaterfall at h
  rcases bind_ok.1 h with ⟨_, _, halgorithm⟩
  rcases bind_ok.1 halgorithm with ⟨_, _, halgorithm_same⟩
  rcases bind_ok.1 halgorithm_same with ⟨_, _, hconfig⟩
  rcases bind_ok.1 hconfig with ⟨_, _, hconfig_same⟩
  rcases bind_ok.1 hconfig_same with ⟨_, _, hschema⟩
  rcases bind_ok.1 hschema with ⟨_, _, hlimit⟩
  rcases bind_ok.1 hlimit with ⟨time_limit, hlimit_ok, hdigest⟩
  rcases bind_ok.1 hdigest with ⟨_, _, htoken⟩
  rcases bind_ok.1 htoken with ⟨_, _, hresults⟩
  rcases bind_ok.1 hresults with ⟨results, hresults_ok, hsome⟩
  rcases bind_ok.1 hsome with ⟨_, _, hprovenance⟩
  rcases bind_ok.1 hprovenance with ⟨_, _, hproduct⟩
  rcases bind_ok.1 hproduct with ⟨_, _, hrun⟩
  rcases bind_ok.1 hrun with ⟨_, _, hbundle⟩
  exact ⟨time_limit, results, hlimit_ok, hresults_ok, by rw [Checked.val_of_make hbundle]⟩

end Budget

/-- Windows are well placed for all contiguous spans, and no other spans are accepted; the tiles of a
recording hold such windows, and never more cells than the configuration allows. -/
theorem windows_placed_and_bounded {segment_id : String} {segment_sample_count window_samples maximum_windows : Int}
    (hwindow : 0 < window_samples) (hmaximum : 0 < maximum_windows) (spans : List (Int × Int)) :
    (WaterfallWindows.Contiguous segment_sample_count 0 spans → ∃ starts,
      WaterfallWindows.selectedWindowStarts segment_id (.ok spans) segment_sample_count window_samples maximum_windows =
        .ok starts ∧ WaterfallWindows.WellPlaced window_samples maximum_windows spans starts) ∧
    (¬WaterfallWindows.Contiguous segment_sample_count 0 spans →
      WaterfallWindows.selectedWindowStarts segment_id (.ok spans) segment_sample_count window_samples maximum_windows =
        .error WaterfallWindows.invalidSpans) ∧
    (∀ numerics config recording time_limit results, timeLimit config recording.manifest = .ok time_limit →
      segmentsTiles numerics config recording time_limit = .ok results →
      (∀ t ∈ builtTiles results, TileWithin config recording time_limit t) ∧
        (((builtTiles results).map WaterfallTile.cells).sum : Int) ≤ config.val.maximum_total_cells) ∧
    (∀ numerics config recording execution request bundle,
      analyzeWaterfall numerics config recording execution request = .ok bundle →
      (∃ time_limit, timeLimit config recording.manifest = .ok time_limit ∧
        ∀ t ∈ bundle.val.tiles, TileWithin config recording time_limit t) ∧
      ((bundle.val.tiles.map WaterfallTile.cells).sum : Int) ≤ config.val.maximum_total_cells) := by
  have hbuilt : ∀ numerics config recording time_limit results, timeLimit config recording.manifest = .ok time_limit →
      segmentsTiles numerics config recording time_limit = .ok results →
      (∀ t ∈ builtTiles results, TileWithin config recording time_limit t) ∧
        (((builtTiles results).map WaterfallTile.cells).sum : Int) ≤ config.val.maximum_total_cells := by
    intro numerics config recording time_limit results hlimit hresults
    exact ⟨(segmentsTiles_ok (timeLimit_ok hlimit).1 hresults).2, cells_within_budget hlimit hresults⟩
  refine ⟨WaterfallWindows.selectedWindowStarts_ok hwindow hmaximum, WaterfallWindows.selectedWindowStarts_invalid,
    hbuilt, ?_⟩
  intro numerics config recording execution request bundle h
  rcases tiles_of_analyze h with ⟨time_limit, results, hlimit, hresults, htiles⟩
  rw [htiles]
  rcases hbuilt numerics config recording time_limit results hlimit hresults with ⟨hwithin, hbudget⟩
  exact ⟨⟨time_limit, hlimit, hwithin⟩, hbudget⟩

/-! ## A recording -/

section Example

/-- Eight hertz, in eight bins, and room for two rows. -/
def exampleConfig : WaterfallConfig where
  val := {
    fft_window_samples := 8
    frequency_bins := 8
    maximum_total_cells := 20
    power_floor_counts_squared := .float (PyFloat.ofRatio false 1 1000) }
  ok := by decide +kernel

def exampleReceiver : ReceiverChainId := Sample.rx_a

def exampleSegmentId : SegmentId := Sample.seg_a

def exampleSegment : SegmentManifest where
  val := {
    segment_id := exampleSegmentId
    requested := {
      val := {
        segment_id := exampleSegmentId
        center_frequency_hz := .int 1000
        sample_rate_hz := .int 8
        bandwidth_hz := .int 8
        receiver_chain_ids := [exampleReceiver]
        gain := ⟨{ mode := .agc }, GainSetting.Fields.agc_ok⟩
        sample_count := some 40 }
      ok := by decide +kernel }
    actual_center_frequency_hz := .int 1000
    actual_sample_rate_hz := .int 8
    actual_bandwidth_hz := .int 8
    actual_gain := ⟨{ mode := .agc }, GainSetting.Fields.agc_ok⟩
    start_utc_ns := 0
    monotonic_start_ns := 0
    sample_count := 40
    shape := (40, 1, 2) }
  ok := by decide +kernel

def exampleManifest : RecordingManifest where
  val := {
    schema := ⟨str "org.leo-flow.recording-manifest", V0_1, isToken_recording_manifest⟩
    recording_id := Sample.rec_a
    created_utc_ns := 0
    capture_started_utc_ns := 0
    capture_finished_utc_ns := 1
    station_id := ⟨str "station_a", by decide, by decide⟩
    radio_id := Sample.radio_a
    radio_serial := str "a"
    receiver_chain_ids := [exampleReceiver]
    clock_status := str "locked"
    hardware_metadata_snapshot_id := ⟨str "hw_a", by decide, by decide⟩
    activities := [{
      val := {
        activity_id := ⟨str "act_a", by decide, by decide⟩
        kind := .scan
        started_utc_ns := 0
        finished_utc_ns := 1
        segment_ids := [exampleSegmentId] }
      ok := by decide +kernel }]
    segments := [exampleSegment]
    plan_id := Sample.plan_a
    producer := str "a" }
  ok := by decide +kernel

/-- Two spans with two windows each, and silence. -/
def exampleRecording : WaterfallView where
  manifest := exampleManifest
  read_iq_bytes := fun _ start stop => .ok (List.replicate ((stop - start) * 4).toNat 0)
  contiguous_rf_spans := fun _ => .ok [(0, 20), (24, 40)]

/-- The spectrum of silence, and `log10(0.001)`. -/
def exampleNumerics : WaterfallNumerics where
  powers := fun values => .ok (values.map fun _ => .int 0)
  log10 := fun _ => .ok (.float (PyFloat.ofRatio true 3 1))
  roundTo := fun _ value => .ok value

/-- Two of the four windows are shown, the first and the last. -/
theorem windows_placed_and_bounded_example :
    (∃ starts, WaterfallWindows.selectedWindowStarts "seg_a" (.ok [(0, 20), (24, 40)]) 40 8 2 = .ok starts ∧
      WaterfallWindows.WellPlaced 8 2 [(0, 20), (24, 40)] starts) ∧
    ∃ results, segmentsTiles exampleNumerics exampleConfig exampleRecording 2 = .ok results ∧
      (builtTiles results).map (fun t => t.val.time_bins.map fun bin => bin.val.start_sample) = [[0, 32]] ∧
      (((builtTiles results).map WaterfallTile.cells).sum : Int) ≤ 20 := by
  have hfacts := @windows_placed_and_bounded "seg_a" 40 8 2 (by decide) (by decide) [(0, 20), (24, 40)]
  have hlimit : timeLimit exampleConfig exampleRecording.manifest = .ok 2 := by decide +kernel
  have hstarts : (segmentsTiles exampleNumerics exampleConfig exampleRecording 2).map (fun results =>
      (builtTiles results).map fun t => t.val.time_bins.map fun bin => bin.val.start_sample) = .ok [[0, 32]] := by
    decide +kernel
  rcases map_ok hstarts with ⟨results, hresults, hrows⟩
  refine ⟨hfacts.1 ?_, results, hresults, hrows.symm, (hfacts.2.2.1 _ _ _ _ _ hlimit hresults).2⟩
  unfold WaterfallWindows.Contiguous WaterfallWindows.Contiguous WaterfallWindows.Contiguous
  decide

end Example

end WaterfallAnalyzer

end LeoFlow
