import LeoFlow.Analysis.FeatureSetCodec
import LeoFlow.Analysis.WaterfallCodec

/-!
# LeoFlow.Analysis.BundleCodecs — how exact the codecs of the analysis products are

Three questions about each codec: which bundles come back equal, which accepted documents
are the encoding of what they were read as, and which bytes raise only its own error.
-/

namespace LeoFlow

open Json (back Renderable)

namespace FeatureSetCodec

variable {stack : Stack}

theorem restored_iff {b : FeatureSetBundle} {bytes : Bytes} (h : encode stack b = .ok bytes) :
    (∃ b', decode stack bytes = .ok b' ∧ b'.toPy.eq b.toPy = true) ↔
      bytes.length ≤ format.limit ∧ stack.scans bytes = true ∧ stack.encodes (back b.toPy) = true ∧ Restorable b := by
  rw [← restores_featureSet]
  exact Format.restored_iff (Stack.canonicalJsonBytes_ok.1 h).2

theorem encoded_iff {data : Bytes} {b : FeatureSetBundle} (h : decode stack data = .ok b) :
    encode stack b = .ok data ↔
      stack.encodes b.toPy = true ∧ ∀ d, format.loads data = .ok d → featureSet.Exact d := by
  unfold encode
  rw [Stack.canonicalJsonBytes_ok]
  exact and_congr_right fun _ => Format.written_iff h

end FeatureSetCodec

namespace WaterfallCodec

variable {stack : Stack}

theorem encode_ok {b : WaterfallBundle} {bytes : Bytes} : encode stack b = .ok bytes ↔
    bytes.length ≤ format.limit ∧ stack.encodes b.toPy = true ∧ Json.canonicalJsonBytes b.toPy = .ok bytes := by
  constructor
  · intro h
    rcases bind_ok.1 h with ⟨payload, hpayload, h⟩
    rcases bind_ok.1 h with ⟨⟨⟩, hlimit, h⟩
    cases h
    exact ⟨not_lt.1 (raiseIf_ok.1 hlimit), Stack.canonicalJsonBytes_ok.1 hpayload⟩
  · rintro ⟨hlimit, hbytes⟩
    exact bind_ok.2 ⟨bytes, Stack.canonicalJsonBytes_ok.2 hbytes, bind_ok.2 ⟨(), raiseIf_ok.2 (not_lt.2 hlimit), rfl⟩⟩

theorem restored_iff {b : WaterfallBundle} {bytes : Bytes} (h : encode stack b = .ok bytes) :
    (∃ b', decode stack bytes = .ok b' ∧ b'.toPy.eq b.toPy = true) ↔
      stack.scans bytes = true ∧ stack.encodes (back b.toPy) = true ∧ Restorable b := by
  rcases encode_ok.1 h with ⟨hlimit, _, hbytes⟩
  rw [← restores_waterfall]
  exact (Format.restored_iff hbytes).trans (and_iff_right hlimit)

theorem encoded_iff {data : Bytes} {b : WaterfallBundle} (h : decode stack data = .ok b) :
    encode stack b = .ok data ↔
      stack.encodes b.toPy = true ∧ ∀ d, format.loads data = .ok d → waterfall.Exact d := by
  rw [encode_ok, and_iff_right (Format.decode_ok.1 h).1]
  exact and_congr_right fun _ => Format.written_iff h

end WaterfallCodec

namespace BundleCodecs

/-! ## Both codecs -/

/-- The interpreter has stack for a document, and the first fault of reading it is no overflow. -/
def Orderly {α : Type} (f : Format α) (stack : Stack) (data : Bytes) : Prop :=
  stack.scans data = true ∧ ∀ d, f.loads data = .ok d →
    stack.encodes d = true ∧ (Json.canonicalJsonBytes d = .ok data → ¬f.codec.Overflow "root" d)

/-- A feature set comes back within the limit of its decoder if its numbers are floats or equal to floats and its
free-form values hold no list, object or large float; a waterfall if its numbers are and pass its checks as floats. An
accepted document is the encoding of its bundle if its free-form values hold no object and every integer in the place
of a float is the text of that float. Other bytes raise the error of the codec if they are orderly. -/
theorem bundle_codecs_exact_iff (stack : Stack) :
    ((∀ (b : FeatureSetBundle) (bytes : Bytes), FeatureSetCodec.encode stack b = .ok bytes →
        ((∃ b', FeatureSetCodec.decode stack bytes = .ok b' ∧ b'.toPy.eq b.toPy = true) ↔
          bytes.length ≤ 64 * 1024 * 1024 ∧ stack.scans bytes = true ∧ stack.encodes (back b.toPy) = true ∧
            FeatureSetCodec.Restorable b)) ∧
      (∀ (data : Bytes) (b : FeatureSetBundle), FeatureSetCodec.decode stack data = .ok b →
        (FeatureSetCodec.encode stack b = .ok data ↔ stack.encodes b.toPy = true ∧
          ∀ d, FeatureSetCodec.format.loads data = .ok d → FeatureSetCodec.featureSet.Exact d)) ∧
      ∀ data : Bytes, RaisesOnly (· = .malformed_feature_set_error) (FeatureSetCodec.decode stack data) ↔
        (data.length ≤ 64 * 1024 * 1024 → Orderly FeatureSetCodec.format stack data)) ∧
    (∀ (b : WaterfallBundle) (bytes : Bytes), WaterfallCodec.encode stack b = .ok bytes →
      ((∃ b', WaterfallCodec.decode stack bytes = .ok b' ∧ b'.toPy.eq b.toPy = true) ↔
        stack.scans bytes = true ∧ stack.encodes (back b.toPy) = true ∧ WaterfallCodec.Restorable b)) ∧
    (∀ (data : Bytes) (b : WaterfallBundle), WaterfallCodec.decode stack data = .ok b →
      (WaterfallCodec.encode stack b = .ok data ↔ stack.encodes b.toPy = true ∧
        ∀ d, WaterfallCodec.format.loads data = .ok d → WaterfallCodec.waterfall.Exact d)) ∧
    ∀ data : Bytes, RaisesOnly (· = .malformed_waterfall_error) (WaterfallCodec.decode stack data) ↔
      (data.length ≤ 4 * 1024 * 1024 → Orderly WaterfallCodec.format stack data) := by
  refine ⟨⟨?_, ?_, ?_⟩, ?_, ?_, ?_⟩
  · intro b bytes h
    exact FeatureSetCodec.restored_iff h
  · intro data b h
    exact FeatureSetCodec.encoded_iff h
  · intro data
    exact Format.only_malformed_iff
  · intro b bytes h
    exact WaterfallCodec.restored_iff h
  · intro data b h
    exact WaterfallCodec.encoded_iff h
  · intro data
    exact Format.only_malformed_iff

/-- The class of the error that is raised. -/
def errorKind {α : Type} : Except PyError α → Option ErrorKind
  | .ok _ => none
  | .error e => some e.kind

/-! ### A score of 10 ** 400 -/

/-- A canonical feature set with one score, an integer that no float holds. -/
def overflowingScore : Bytes :=
  (str "\x7b\"analysis_run_id\":\"arun_1\",\"diagnostic_bundle_ref\":null,\"feature_set_id\":\"fset_1\"," ++
    str "\"input_recording_identity_digest\":" ++ digest ++
    str ",\"method_scores\":[\x7b\"method_id\":\"m\",\"method_version\":\"1\",\"receiver_key\":\"r\",\"score\":1" ++
    List.replicate 400 48 ++
    str ",\"score_semantics\":\"s\",\"segment_id\":\"seg_1\",\"window_start_sample\":0,\"window_stop_sample\":1\x7d]," ++
    str "\"observations\":[],\"provenance\":\x7b\"completed_utc_ns\":0,\"dependency_digests\":[],\"environment_digest\":" ++
    digest ++ str ",\"git_commit\":\"c\",\"host_class\":\"h\",\"input_digests\":[" ++ digest ++
    str "],\"normalized_config_digest\":" ++ digest ++
    str ",\"producer_name\":\"p\",\"producer_version\":\"1\",\"started_utc_ns\":0\x7d,\"reason_codes\":[]," ++
    str "\"recording_id\":\"rec_1\",\"schema\":\x7b\"schema_id\":\"org.leo-flow.feature-set-bundle\"," ++
    str "\"version\":\x7b\"major\":0,\"minor\":1\x7d\x7d,\"warnings\":[]\x7d").map UInt8.ofNat
where
  digest : PyStr := str "\x7b\"algorithm\":\"sha256\",\"value\":\"" ++ List.replicate 64 48 ++ str "\"\x7d"

/-- `float()` raises `OverflowError`, which the decoder does not catch. -/
theorem overflowing_score_escapes :
    ¬RaisesOnly (· = .malformed_feature_set_error) (FeatureSetCodec.decode Stack.deep overflowingScore) := by
  intro h
  have hkind : errorKind (FeatureSetCodec.decode Stack.deep overflowingScore) = some .overflow_error := by
    decide +kernel
  cases hdecode : FeatureSetCodec.decode Stack.deep overflowingScore with
  | ok b =>
    rw [hdecode] at hkind
    cases hkind
  | error e =>
    have hmalformed := h e hdecode
    rw [hdecode] at hkind
    have hsame : e.kind = .overflow_error := Option.some.inj hkind
    rw [hsame] at hmalformed
    cases hmalformed

end BundleCodecs

end LeoFlow
