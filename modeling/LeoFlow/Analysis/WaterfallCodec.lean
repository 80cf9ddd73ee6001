import LeoFlow.Contracts.Restoring
import LeoFlow.Contracts.Waterfall

/-!
# LeoFlow.Analysis.WaterfallCodec — the codec of waterfalls

`analysis/recording/waterfall_codec.py`. The encoder and the decoder have the same limit.
A tile made with an integer sample rate is checked again with the float that comes back.
-/

namespace LeoFlow

namespace WaterfallCodec

open Json (back Renderable)
open Codec

/-- The error and the texts of the module. -/
def dialect : Dialect where
  kind := .malformed_waterfall_error
  wire := by decide
  differ := " fields differ from the schema"
  two := ""

/-- `_time_bin` -/
def timeBin : Codec WaterfallTimeBin :=
  (object dialect "WaterfallTimeBinV0_1"
    (.field "start_sample" (dotted "start_sample") (integer dialect) <|
    .field "stop_sample" (dotted "stop_sample") (integer dialect) <|
    .field "midpoint_utc_ns" (dotted "midpoint_utc_ns") (integer dialect) <|
    .field "power_db" (dotted "power_db") (array dialect (number dialect) unnumbered)
    .done) (by simp)).make
  (fun (start_sample, stop_sample, midpoint_utc_ns, power_db, _) =>
    Checked.make WaterfallTimeBin.Fields.post_init { start_sample, stop_sample, midpoint_utc_ns, power_db })
  (fun r => (r.val.start_sample, r.val.stop_sample, r.val.midpoint_utc_ns, r.val.power_db, ()))
  (by
    intro a r h
    rw [Checked.val_of_make h])
  (fun _ => computes_make caught_waterfallTimeBin _)

/-- The fields of a tile, in the order of the calls -/
def tileFields : Fields (SegmentId × ReceiverChainId × Int × Int × Num × Num × Int × PyStr × List Num ×
    List WaterfallTimeBin × Unit) :=
  .field "segment_id" (dotted "segment_id") (idOf dialect .segment) <|
  .field "receiver_chain_id" (dotted "receiver_chain_id") (idOf dialect .receiver_chain) <|
  .field "segment_start_utc_ns" (dotted "segment_start_utc_ns") (integer dialect) <|
  .field "segment_sample_count" (dotted "segment_sample_count") (integer dialect) <|
  .field "center_frequency_hz" (dotted "center_frequency_hz") (number dialect) <|
  .field "sample_rate_hz" (dotted "sample_rate_hz") (number dialect) <|
  .field "fft_window_samples" (dotted "fft_window_samples") (integer dialect) <|
  .field "power_reference" (dotted "power_reference") (string dialect) <|
  .field "frequency_bin_offsets_hz" (dotted "frequency_bin_offsets_hz") (array dialect (number dialect) unnumbered) <|
  .field "time_bins" (dotted "time_bins") (array dialect timeBin numbered)
  .done

/-- `_tile` -/
def tile : Codec WaterfallTile :=
  (object dialect "WaterfallTileV0_1" tileFields (by simp [tileFields])).make
  (fun (segment_id, receiver_chain_id, segment_start_utc_ns, segment_sample_count, center_frequency_hz, sample_rate_hz,
      fft_window_samples, power_reference, frequency_bin_offsets_hz, time_bins, _) =>
    Checked.make WaterfallTile.Fields.post_init
      { segment_id, receiver_chain_id, segment_start_utc_ns, segment_sample_count, center_frequency_hz, sample_rate_hz,
        fft_window_samples, power_reference, frequency_bin_offsets_hz, time_bins })
  (fun t => (t.val.segment_id, t.val.receiver_chain_id, t.val.segment_start_utc_ns, t.val.segment_sample_count,
    t.val.center_frequency_hz, t.val.sample_rate_hz, t.val.fft_window_samples, t.val.power_reference,
    t.val.frequency_bin_offsets_hz, t.val.time_bins, ()))
  (by
    intro a t h
    rw [Checked.val_of_make h])
  (fun _ => computes_makeOf WaterfallTile.Fields.computes_post_init _)

/-- The root of `decode_waterfall_bundle` -/
def waterfall : Codec WaterfallBundle :=
  (object dialect "WaterfallBundleV0_1"
    (.field "schema" (bare "schema") ((schema dialect).check (· = WaterfallBundle.SCHEMA)
      (fun _ => dialect.bad "unsupported durable waterfall schema") (fun _ => dialect.wire)) <|
    .field "product_id" (bare "product_id") (idOf dialect .waterfall_product) <|
    .field "analysis_run_id" (bare "analysis_run_id") (idOf dialect .analysis_run) <|
    .field "recording_id" (bare "recording_id") (idOf dialect .recording) <|
    .field "input_recording_identity_digest" (bare "input_recording_digest") (digest dialect) <|
    .field "provenance" (bare "provenance") (provenance dialect id fun item _ _ => item) <|
    .field "tiles" (bare "tiles") (array dialect tile numbered) <|
    .field "warnings" (bare "warnings") (array dialect (string dialect) fun _ _ => "warning") <|
    .field "reason_codes" (bare "reason_codes") (array dialect (string dialect) fun _ _ => "reason_code")
    .done) (by simp)).make
  (fun (schema, product_id, analysis_run_id, recording_id, input_recording_identity_digest, provenance, tiles, warnings,
      reason_codes, _) =>
    Checked.make WaterfallBundle.Fields.post_init
      { schema, product_id, analysis_run_id, recording_id, input_recording_identity_digest, provenance, tiles, warnings,
        reason_codes })
  (fun b => (b.val.schema, b.val.product_id, b.val.analysis_run_id, b.val.recording_id,
    b.val.input_recording_identity_digest, b.val.provenance, b.val.tiles, b.val.warnings, b.val.reason_codes, ()))
  (by
    intro a b h
    rw [Checked.val_of_make h])
  (fun _ => computes_make caught_waterfallBundle _)

/-- `decode_waterfall_bundle` -/
def format : Format WaterfallBundle where
  dialect := dialect
  codec := waterfall
  limit := 4 * 1024 * 1024
  duplicate := "duplicate JSON key"
  oversized := "waterfall bundle exceeds size limit"
  noncanonical := "waterfall bytes are not canonical JSON"

/-- `encode_waterfall_bundle` -/
def encode (stack : Stack) (b : WaterfallBundle) : Except PyError Bytes := do
  let payload ← stack.canonicalJsonBytes b.toPy
  raiseIf (format.limit < payload.length) (dialect.bad format.oversized)
  .ok payload

/-- `decode_waterfall_bundle` -/
def decode (stack : Stack) (data : Bytes) : Except PyError WaterfallBundle := format.decode stack data

/-! ## What is restored -/

theorem restores_timeBin {r : WaterfallTimeBin} : timeBin.Restores r ↔ ∀ x ∈ r.val.power_db, HasFloat x := by
  unfold timeBin
  refine Iff.trans (restores_make_of ?_) ?_
  · intro a ha hrestores
    have hfields := restores_object.1 hrestores
    simp only [Fields.restores_field, Fields.restores_done, lossless_integer.restores, restores_array, restores_number,
      true_and, and_true] at hfields
    have h1 := again_object.symm.trans ha
    have h2 := Fields.snd_of_again h1
    have h3 := Fields.snd_of_again h2
    have h4 := Fields.snd_of_again h3
    rcases a with ⟨start_sample, stop_sample, midpoint_utc_ns, power_db, ⟨⟩⟩
    have hstart : start_sample = r.val.start_sample := Fields.fst_of_again h1 lossless_integer
    have hstop : stop_sample = r.val.stop_sample := Fields.fst_of_again h2 lossless_integer
    have hmidpoint : midpoint_utc_ns = r.val.midpoint_utc_ns := Fields.fst_of_again h3 lossless_integer
    have hpower : r.val.power_db.mapM floated = some power_db := again_array.symm.trans (Fields.first_of_again h4)
    subst hstart hstop hmidpoint
    refine make_exists_iff.2 ?_
    have hok := r.ok
    unfold WaterfallTimeBin.Fields.post_init at hok ⊢
    simp only [List.cons_append, List.nil_append, checkAll_cons, checkAll_map, raiseIf_ok] at hok ⊢
    rcases hok with ⟨hinterval, hutc, hne, hfinite⟩
    refine ⟨hinterval, hutc, ?_, requireFinite_of_mapM hpower hfields hfinite⟩
    rintro rfl
    exact hne (List.length_eq_zero_iff.1 (length_of_mapM hpower).symm)
  · refine Iff.trans restores_object ?_
    simp only [Fields.restores_field, Fields.restores_done, lossless_integer.restores, restores_array, restores_number,
      true_and, and_true]

/-- What the check of a tile reads of a row. -/
def shape (r : WaterfallTimeBin) : Int × Int × Int × Nat :=
  (r.val.start_sample, r.val.stop_sample, r.val.midpoint_utc_ns, r.val.power_db.length)

theorem shape_again (r r' : WaterfallTimeBin) (h : timeBin.again r = some r') : shape r' = shape r := by
  have h1 := again_object.symm.trans (stored_of_again h)
  have h2 := Fields.snd_of_again h1
  have h3 := Fields.snd_of_again h2
  have hstart : r'.val.start_sample = r.val.start_sample := Fields.fst_of_again h1 lossless_integer
  have hstop : r'.val.stop_sample = r.val.stop_sample := Fields.fst_of_again h2 lossless_integer
  have hmidpoint : r'.val.midpoint_utc_ns = r.val.midpoint_utc_ns := Fields.fst_of_again h3 lossless_integer
  have hpower := length_of_mapM (again_array.symm.trans (Fields.first_of_again (Fields.snd_of_again h3)))
  have hlength : r'.val.power_db.length = r.val.power_db.length := hpower
  unfold shape
  rw [hstart, hstop, hmidpoint, hlength]

theorem foldlM_checkRow_congr {t : WaterfallTile.Fields} {rows rows' : List WaterfallTimeBin}
    (h : rows'.map shape = rows.map shape) (previous_stop : Int) :
    rows'.foldlM t.checkRow previous_stop = rows.foldlM t.checkRow previous_stop := by
  induction rows generalizing rows' previous_stop with
  | nil =>
    rw [List.map_nil, List.map_eq_nil_iff] at h
    rw [h]
  | cons row rows ih =>
    rcases List.map_eq_cons_iff.1 h with ⟨row', rest, rfl, hrow, hrest⟩
    have hshape := hrow
    simp only [shape, Prod.mk.injEq] at hshape
    rcases hshape with ⟨hstart, hstop, hmidpoint, hpower⟩
    have hcheck : t.checkRow previous_stop row' = t.checkRow previous_stop row := by
      unfold WaterfallTile.Fields.checkRow
      rw [hstart, hstop, hmidpoint, hpower]
    rw [List.foldlM_cons, List.foldlM_cons, hcheck]
    exact congrArg _ (funext fun stop => ih hrest stop)

/-- The numbers of a tile are floats or equal to floats, and as floats they pass its checks. -/
structure RestorableTile (t : WaterfallTile) : Prop where
  center_frequency_hz : HasFloat t.val.center_frequency_hz
  sample_rate_hz : HasFloat t.val.sample_rate_hz
  frequency_bin_offsets_hz : ∀ x ∈ t.val.frequency_bin_offsets_hz, HasFloat x
  power_db : ∀ r ∈ t.val.time_bins, ∀ x ∈ r.val.power_db, HasFloat x
  accepted : ∃ center_frequency_hz ∈ floated t.val.center_frequency_hz, ∃ sample_rate_hz ∈ floated t.val.sample_rate_hz,
    ∃ frequency_bin_offsets_hz ∈ t.val.frequency_bin_offsets_hz.mapM floated,
      { t.val with center_frequency_hz, sample_rate_hz, frequency_bin_offsets_hz }.post_init = .ok ()

theorem post_init_congr {t : WaterfallTile.Fields} {time_bins : List WaterfallTimeBin}
    (h : time_bins.map shape = t.time_bins.map shape) : { t with time_bins }.post_init = t.post_init := by
  have hlength := congrArg List.length h
  rw [List.length_map, List.length_map] at hlength
  have hrows : ∀ stop, time_bins.foldlM ({ t with time_bins } : WaterfallTile.Fields).checkRow stop =
      t.time_bins.foldlM t.checkRow stop := fun stop => foldlM_checkRow_congr h stop
  unfold WaterfallTile.Fields.post_init
  dsimp only
  rw [hlength, hrows]
  rfl

/-- The constructor checks what came back as it checks the rows themselves with the floats around them. -/
theorem accepted_iff {t : WaterfallTile} {segment_id : SegmentId} {receiver_chain_id : ReceiverChainId}
    {segment_start_utc_ns segment_sample_count fft_window_samples : Int} {center_frequency_hz sample_rate_hz : Num}
    {power_reference : PyStr} {frequency_bin_offsets_hz : List Num} {time_bins : List WaterfallTimeBin}
    (h : tileFields.again (t.val.segment_id, t.val.receiver_chain_id, t.val.segment_start_utc_ns,
      t.val.segment_sample_count, t.val.center_frequency_hz, t.val.sample_rate_hz, t.val.fft_window_samples,
      t.val.power_reference, t.val.frequency_bin_offsets_hz, t.val.time_bins, ()) = some (segment_id, receiver_chain_id,
      segment_start_utc_ns, segment_sample_count, center_frequency_hz, sample_rate_hz, fft_window_samples,
      power_reference, frequency_bin_offsets_hz, time_bins, ())) :
    WaterfallTile.Fields.post_init
      { segment_id, receiver_chain_id, segment_start_utc_ns, segment_sample_count, center_frequency_hz, sample_rate_hz,
        fft_window_samples, power_reference, frequency_bin_offsets_hz, time_bins } = .ok () ↔
      ∃ center_frequency_hz ∈ floated t.val.center_frequency_hz, ∃ sample_rate_hz ∈ floated t.val.sample_rate_hz,
        ∃ frequency_bin_offsets_hz ∈ t.val.frequency_bin_offsets_hz.mapM floated,
          { t.val with center_frequency_hz, sample_rate_hz, frequency_bin_offsets_hz }.post_init = .ok () := by
  have h2 := Fields.snd_of_again h
  have h3 := Fields.snd_of_again h2
  have h4 := Fields.snd_of_again h3
  have h5 := Fields.snd_of_again h4
  have h6 := Fields.snd_of_again h5
  have h7 := Fields.snd_of_again h6
  have h8 := Fields.snd_of_again h7
  have h9 := Fields.snd_of_again h8
  have hsegment : segment_id = t.val.segment_id := Fields.fst_of_again h lossless_idOf
  have hchain : receiver_chain_id = t.val.receiver_chain_id := Fields.fst_of_again h2 lossless_idOf
  have hstart : segment_start_utc_ns = t.val.segment_start_utc_ns := Fields.fst_of_again h3 lossless_integer
  have hcount : segment_sample_count = t.val.segment_sample_count := Fields.fst_of_again h4 lossless_integer
  have hcenter : floated t.val.center_frequency_hz = some center_frequency_hz := Fields.first_of_again h5
  have hrate : floated t.val.sample_rate_hz = some sample_rate_hz := Fields.first_of_again h6
  have hfft : fft_window_samples = t.val.fft_window_samples := Fields.fst_of_again h7 lossless_integer
  have hreference : power_reference = t.val.power_reference := Fields.fst_of_again h8 lossless_string
  have hoffsets : t.val.frequency_bin_offsets_hz.mapM floated = some frequency_bin_offsets_hz :=
    again_array.symm.trans (Fields.first_of_again h9)
  have hrows := map_of_mapM shape_again (again_array.symm.trans (Fields.first_of_again (Fields.snd_of_again h9)))
  subst hsegment hchain hstart hcount hfft hreference
  rw [hcenter, hrate, hoffsets]
  simp only [Option.mem_def, Option.some.injEq, exists_eq_left']
  have hsame := @post_init_congr { t.val with center_frequency_hz, sample_rate_hz, frequency_bin_offsets_hz } time_bins hrows
  exact iff_of_eq (congrArg (· = Except.ok ()) hsame)

theorem restores_tileFields {t : WaterfallTile} : tileFields.Restores (t.val.segment_id, t.val.receiver_chain_id,
      t.val.segment_start_utc_ns, t.val.segment_sample_count, t.val.center_frequency_hz, t.val.sample_rate_hz,
      t.val.fft_window_samples, t.val.power_reference, t.val.frequency_bin_offsets_hz, t.val.time_bins, ()) ↔
    HasFloat t.val.center_frequency_hz ∧ HasFloat t.val.sample_rate_hz ∧
      (∀ x ∈ t.val.frequency_bin_offsets_hz, HasFloat x) ∧ ∀ r ∈ t.val.time_bins, ∀ x ∈ r.val.power_db, HasFloat x := by
  unfold tileFields
  simp only [Fields.restores_field, Fields.restores_done, lossless_idOf.restores, lossless_string.restores,
    lossless_integer.restores, restores_array, restores_number, restores_timeBin, true_and, and_true]

theorem restores_tile {t : WaterfallTile} : tile.Restores t ↔ RestorableTile t := by
  unfold tile
  refine Iff.trans restores_make ?_
  constructor
  · rintro ⟨⟨_, _, _, _, _, _, _, _, _, _, ⟨⟩⟩, ha, hsame, hnew⟩
    rcases restores_tileFields.1 (restores_object.1 ⟨_, ha, hsame⟩) with ⟨hcenter, hrate, hoffsets, hrows⟩
    refine ⟨hcenter, hrate, hoffsets, hrows, ?_⟩
    exact (accepted_iff (again_object.symm.trans ha)).1 (make_exists_iff.1 hnew)
  · rintro ⟨hcenter, hrate, hoffsets, hrows, haccepted⟩
    have hrestores := restores_tileFields.2 ⟨hcenter, hrate, hoffsets, hrows⟩
    rcases restores_object.2 hrestores with ⟨⟨_, _, _, _, _, _, _, _, _, _, ⟨⟩⟩, ha, hsame⟩
    refine ⟨_, ha, hsame, ?_⟩
    exact make_exists_iff.2 ((accepted_iff (again_object.symm.trans ha)).2 haccepted)

theorem key_again (t t' : WaterfallTile) (h : tile.again t = some t') : t'.key = t.key := by
  have h1 := again_object.symm.trans (stored_of_again h)
  have hsegment : t'.val.segment_id = t.val.segment_id := Fields.fst_of_again h1 lossless_idOf
  have hchain : t'.val.receiver_chain_id = t.val.receiver_chain_id :=
    Fields.fst_of_again (Fields.snd_of_again h1) lossless_idOf
  unfold WaterfallTile.key
  rw [hsegment, hchain]

theorem cells_again (t t' : WaterfallTile) (h : tile.again t = some t') : t'.cells = t.cells := by
  have h1 := again_object.symm.trans (stored_of_again h)
  have h5 := Fields.snd_of_again (Fields.snd_of_again (Fields.snd_of_again (Fields.snd_of_again h1)))
  have h9 := Fields.snd_of_again (Fields.snd_of_again (Fields.snd_of_again (Fields.snd_of_again h5)))
  have hoffsets : t'.val.frequency_bin_offsets_hz.length = t.val.frequency_bin_offsets_hz.length :=
    length_of_mapM (again_array.symm.trans (Fields.first_of_again h9))
  have hrows : t'.val.time_bins.length = t.val.time_bins.length :=
    length_of_mapM (again_array.symm.trans (Fields.first_of_again (Fields.snd_of_again h9)))
  unfold WaterfallTile.cells
  rw [hoffsets, hrows]

/-- Every tile can be restored. -/
def Restorable (b : WaterfallBundle) : Prop := ∀ t ∈ b.val.tiles, RestorableTile t

theorem restores_waterfall {b : WaterfallBundle} : waterfall.Restores b ↔ Restorable b := by
  have hok := b.ok
  unfold WaterfallBundle.Fields.post_init at hok
  simp only [checkAll_cons, raiseIf_ok] at hok
  rcases hok with ⟨hschema, htiles, hkeys, hcells, hdone⟩
  unfold waterfall
  refine Iff.trans (restores_make_of ?_) ?_
  · intro a ha _
    have hagain := again_object.symm.trans ha
    rcases a with ⟨schema, product_id, analysis_run_id, recording_id, digest, provenance, tiles, rest⟩
    have h4 := Fields.snd_of_again (Fields.snd_of_again (Fields.snd_of_again hagain))
    have h7 := Fields.snd_of_again (Fields.snd_of_again (Fields.snd_of_again h4))
    have hsame : schema = b.val.schema :=
      Option.some.inj ((again_check (Fields.first_of_again hagain)).symm.trans (lossless_schema.again _))
    have htile := again_array.symm.trans (Fields.first_of_again h7)
    have hlength : tiles.length = b.val.tiles.length := length_of_mapM htile
    have hkeys_again : tiles.map WaterfallTile.key = b.val.tiles.map WaterfallTile.key := map_of_mapM key_again htile
    have hcells_again : tiles.map WaterfallTile.cells = b.val.tiles.map WaterfallTile.cells := map_of_mapM cells_again htile
    subst hsame
    refine make_exists_iff.2 ?_
    unfold WaterfallBundle.Fields.post_init
    simp only [checkAll_cons, raiseIf_ok, hlength, hkeys_again, hcells_again]
    exact ⟨hschema, htiles, hkeys, hcells, hdone⟩
  · refine Iff.trans restores_object ?_
    simp only [Fields.restores_field, Fields.restores_done, lossless_idOf.restores, lossless_digest.restores,
      lossless_provenance.restores, lossless_string.array.restores, restores_array, restores_tile, true_and, and_true]
    exact and_iff_right ((restores_check_of_lossless lossless_schema).2 (not_not.1 hschema))

end WaterfallCodec

end LeoFlow
