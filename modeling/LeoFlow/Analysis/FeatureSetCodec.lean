import LeoFlow.Contracts.Restoring

/-!
# LeoFlow.Analysis.FeatureSetCodec — the codec of feature sets

`analysis/recording/codec.py`. The free-form parts of an observation are frozen when they
are read: a list becomes a tuple, and an object the tuple of its pairs.
-/

namespace LeoFlow

namespace FeatureSetCodec

open Json (back Renderable)
/-- The error and the texts of the module. -/
def dialect : Dialect where
  kind := .malformed_feature_set_error
  wire := by decide
  differ := " fields differ from the schema"
  two := " must contain two values"

/-! ## Free-form values -/

mutual

/-- `_freeze` -/
def freeze : PyValue → PyValue
  | .list items => .tuple (freezeItems items)
  | .dict items => .tuple ((freezeEntries items).insertionSort (fun a b => a.1 ≤ b.1) |>.map
      fun x => .tuple [.str x.1, x.2])
  | v => v

def freezeItems : List PyValue → List PyValue
  | [] => []
  | v :: vs => freeze v :: freezeItems vs

def freezeEntries : List (PyStr × PyValue) → List (PyStr × PyValue)
  | [] => []
  | (k, v) :: xs => (k, freeze v) :: freezeEntries xs

end

mutual

/-- No object anywhere in the value. -/
def NoObject : PyValue → Prop
  | .list items => NoObjects items
  | .dict _ => False
  | _ => True

def NoObjects : List PyValue → Prop
  | [] => True
  | v :: vs => NoObject v ∧ NoObjects vs

end

theorem freezeItems_eq (items : List PyValue) : freezeItems items = items.map freeze := by
  induction items with
  | nil => rfl
  | cons v vs ih => rw [freezeItems, ih, List.map_cons]

theorem freezeEntries_eq (items : List (PyStr × PyValue)) :
    freezeEntries items = items.map fun x => (x.1, freeze x.2) := by
  induction items with
  | nil => rfl
  | cons x xs ih => rw [freezeEntries, ih, List.map_cons]

theorem noObjects_iff (items : List PyValue) : NoObjects items ↔ ∀ v ∈ items, NoObject v := by
  induction items with
  | nil => simp [NoObjects]
  | cons v vs ih => simp [NoObjects, ih]

theorem valid_freeze (v : PyValue) (h : v.Valid) : (freeze v).Valid := by
  induction v with
  | none | bool | int | float | str => trivial
  | tuple => exact h
  | record => exact h
  | list items ih =>
    have h : PyValue.ValidItems items := h
    rw [PyValue.validItems_iff] at h
    unfold freeze
    rw [freezeItems_eq, PyValue.Valid, PyValue.validItems_iff, List.forall_mem_map]
    exact fun v hv => ih v hv (h v hv)
  | dict items ih =>
    have h := (PyValue.validEntries_iff items).1 h.2
    unfold freeze
    rw [freezeEntries_eq, PyValue.Valid, PyValue.validItems_iff, List.forall_mem_map]
    intro x hx
    rcases List.mem_map.1 ((List.mem_insertionSort _).1 hx) with ⟨y, hy, rfl⟩
    exact ⟨trivial, ih y hy (h y hy), trivial⟩

/-- What is frozen is written as it was read exactly where no object was. -/
theorem back_freeze (v : PyValue) (h : CanonicalDocument v) : back (freeze v) = v ↔ NoObject v := by
  induction v with
  | none | bool | int | float | str => exact iff_of_true h.unchanged trivial
  | tuple | record => cases h.document
  | dict items =>
    refine iff_of_false ?_ id
    unfold freeze
    rw [Json.back_tuple]
    exact nofun
  | list items ih =>
    unfold freeze NoObject
    rw [freezeItems_eq, Json.back_tuple, List.map_map, PyValue.list.injEq, noObjects_iff]
    have hitems : ∀ v ∈ items, back (freeze v) = v ↔ NoObject v := fun v hv => ih v hv (h.list v hv)
    constructor
    · intro hmap v hv
      have hsame : items.map (back ∘ freeze) = items.map id := hmap.trans (List.map_id items).symm
      exact (hitems v hv).1 (List.map_inj_left.1 hsame v hv)
    · intro hall
      exact (List.map_inj_left.2 fun v hv => (hitems v hv).2 (hall v hv)).trans (List.map_id items)

/-- A value that can be held comes back as a document. -/
theorem document_back (v : PyValue) (h : v.Valid) : (back v).Document := by
  have hdict : ∀ items : List (PyStr × PyValue), (∀ x ∈ items, x.2.Valid → (back x.2).Document) →
      (items.map Prod.fst).Nodup ∧ PyValue.ValidEntries items → (back (.dict items)).Document := by
    intro items ih h
    have hitems := (PyValue.validEntries_iff items).1 h.2
    rw [Json.back_dict]
    have hperm := Json.sortEntries_perm (items.map fun x => (x.1, back x.2))
    refine .dict ?_ ?_
    · rw [(hperm.map Prod.fst).nodup_iff, List.map_map]
      exact h.1
    · intro x hx
      rcases List.mem_map.1 (hperm.mem_iff.1 hx) with ⟨y, hy, rfl⟩
      exact ih y hy (hitems y hy)
  have hlist : ∀ items : List PyValue, (∀ v ∈ items, v.Valid → (back v).Document) → PyValue.ValidItems items →
      (back (.list items)).Document := by
    intro items ih h
    have hitems := (PyValue.validItems_iff items).1 h
    rw [Json.back_list]
    refine .list fun v hv => ?_
    rcases List.mem_map.1 hv with ⟨u, hu, rfl⟩
    exact ih u hu (hitems u hu)
  induction v with
  | none => exact .none
  | bool b => exact .bool b
  | int n => exact .int n
  | str s => exact .str s
  | float f =>
    show (Json.readFloat f).Document
    unfold Json.readFloat
    split
    · split
      · exact .float _
      · exact .int _
    · exact .float _
  | list items ih => exact hlist items ih h
  | tuple items ih => exact hlist items ih h
  | dict items ih => exact hdict items ih h
  | record cls items ih => exact hdict items ih h

/-- What comes back of a free-form value. -/
def refrozen (v : PyValue.Any) : PyValue.Any := ⟨freeze (back v.val), valid_freeze _ (document_back _ v.property).valid⟩

/-- One pair of `_pairs`. A document repeats no key, so what is frozen is always valid. -/
def freeFormPair : Codec (PyStr × PyValue.Any) where
  read name
    | .list [key, v] => do
      let key ← (Codec.string dialect).read (name ++ ".key") key
      if h : (freeze v).Valid then .ok (key, ⟨freeze v, h⟩) else .error (.type "repeated key")
    | .list _ => .error (dialect.bad (name ++ dialect.two))
    | _ => .error (dialect.bad (name ++ " must be an array"))
  write x := .tuple [.str x.1, x.2.val]
  again x := some (x.1, refrozen x.2)
  Exact d := ∀ key v, d = .list [key, v] → NoObject v
  Overflow _ _ := False
  valid x := ⟨trivial, x.2.property, trivial⟩
  read_back {x} name y _ := by
    have hvalid := (refrozen x.2).property
    have hread : (back (.tuple [.str x.1, x.2.val])) = .list [.str x.1, back x.2.val] := by
      rw [Json.back_tuple]
      rfl
    rw [hread]
    refine (iff_of_eq (congrArg (· = Except.ok y) (dif_pos hvalid))).trans ?_
    rw [Except.ok.injEq, Option.some.injEq]
    rfl
  back_iff := by
    intro name d x hcanonical h
    split at h
    · rename_i key v
      rcases bind_ok.1 h with ⟨k, hk, h⟩
      split at h
      · cases h
        have hkey := (Codec.string dialect).back_iff (hcanonical.list key List.mem_cons_self) hk
        have hv := back_freeze v (hcanonical.list v (List.mem_cons_of_mem _ List.mem_cons_self))
        have hkey : back (.str k) = key := hkey.2 trivial
        rw [Json.back_tuple, List.map_cons, List.map_cons, List.map_nil, hkey]
        simp only [PyValue.list.injEq, List.cons.injEq, true_and, and_true, hv]
        constructor
        · intro hno key' v' heq
          exact heq.2 ▸ hno
        · intro hno
          exact hno key v ⟨rfl, rfl⟩
      · cases h
    · cases h
    · cases h
  overflows_iff name d := by
    refine iff_of_false (Caught.not_overflows ?_) id
    split
    · refine raisesOnly_bind.2 ⟨?_, fun k _ => ?_⟩
      · unfold Codec.string Codec.scalar
        dsimp only
        split
        · exact raisesOnly_ok _
        · exact dialect.caught _
      · split
        · exact raisesOnly_ok _
        · exact caught_type _
    · exact dialect.caught _
    · exact dialect.caught _
  computes name d := by
    split
    · refine computes_bind ((Codec.string dialect).computes _ _) fun k => ?_
      split
      · exact raisesOnly_ok _
      · exact (caught_type _).computes
    · exact (dialect.caught _).computes
    · exact (dialect.caught _).computes

/-- `_pairs` -/
def pairs : Codec PyValue.Pairs := .array dialect freeFormPair numbered

/-! ## The bundle -/

open Codec

/-- `_optional_number` -/
def optionalNumber : Codec (Option Num) := optional (number dialect) (number_ne_none dialect)

/-- `_observation` -/
def observation : Codec FeatureObservation :=
  (object dialect "FeatureObservation"
    (.field "feature_id" (dotted "feature_id") (idOf dialect .feature) <|
    .field "recording_id" (dotted "recording_id") (idOf dialect .recording) <|
    .field "segment_id" (dotted "segment_id") (idOf dialect .segment) <|
    .field "method_id" (dotted "method_id") (string dialect) <|
    .field "method_version" (dotted "method_version") (string dialect) <|
    .field "window_start_sample" (dotted "window_start_sample") (integer dialect) <|
    .field "window_stop_sample" (dotted "window_stop_sample") (integer dialect) <|
    .field "segment_sample_count" (dotted "segment_sample_count") (integer dialect) <|
    .field "midpoint_utc_ns" (dotted "midpoint_utc_ns") (integer dialect) <|
    .field "feature_kind" (dotted "feature_kind") (string dialect) <|
    .field "score" (dotted "score") (number dialect) <|
    .field "score_semantics" (dotted "score_semantics") (string dialect) <|
    .field "receiver_chain_id" (dotted "receiver_chain_id")
      (optional (idOf dialect .receiver_chain) (id_ne_none dialect)) <|
    .field "receiver_pair_id" (dotted "receiver_pair_id")
      (optional (idOf dialect .receiver_pair) (id_ne_none dialect)) <|
    .field "frequency_hz" (dotted "frequency_hz") optionalNumber <|
    .field "frequency_offset_hz" (dotted "frequency_offset_hz") optionalNumber <|
    .field "drift_hz_s" (dotted "drift_hz_s") optionalNumber <|
    .field "noise_estimate" (dotted "noise_estimate") optionalNumber <|
    .field "snr_db" (dotted "snr_db") optionalNumber <|
    .field "covariance" (dotted "covariance") (optional (covariance dialect) (covariance_ne_none dialect)) <|
    .field "uncertainty" (dotted "uncertainty") pairs <|
    .field "quality_flags" (dotted "quality_flags") (array dialect (string dialect) unnumbered) <|
    .field "diagnostics" (dotted "diagnostics") pairs
    .done) (by simp)).make
  (fun (feature_id, recording_id, segment_id, method_id, method_version, window_start_sample, window_stop_sample,
      segment_sample_count, midpoint_utc_ns, feature_kind, score, score_semantics, receiver_chain_id, receiver_pair_id,
      frequency_hz, frequency_offset_hz, drift_hz_s, noise_estimate, snr_db, covariance, uncertainty, quality_flags,
      diagnostics, _) =>
    Checked.make FeatureObservation.Fields.post_init
      { feature_id, recording_id, segment_id, method_id, method_version, window_start_sample, window_stop_sample,
        segment_sample_count, midpoint_utc_ns, feature_kind, score, score_semantics, receiver_chain_id,
        receiver_pair_id, frequency_hz, frequency_offset_hz, drift_hz_s, noise_estimate, snr_db, covariance,
        uncertainty, quality_flags, diagnostics })
  (fun o => (o.val.feature_id, o.val.recording_id, o.val.segment_id, o.val.method_id, o.val.method_version,
    o.val.window_start_sample, o.val.window_stop_sample, o.val.segment_sample_count, o.val.midpoint_utc_ns,
    o.val.feature_kind, o.val.score, o.val.score_semantics, o.val.receiver_chain_id, o.val.receiver_pair_id,
    o.val.frequency_hz, o.val.frequency_offset_hz, o.val.drift_hz_s, o.val.noise_estimate, o.val.snr_db,
    o.val.covariance, o.val.uncertainty, o.val.quality_flags, o.val.diagnostics, ()))
  (by
    intro a o h
    rw [Checked.val_of_make h])
  (fun _ => computes_make caught_featureObservation _)

/-- `_method_score` -/
def methodScore : Codec MethodScore :=
  (object dialect "MethodScore"
    (.field "method_id" (dotted "method_id") (string dialect) <|
    .field "method_version" (dotted "method_version") (string dialect) <|
    .field "segment_id" (dotted "segment_id") (idOf dialect .segment) <|
    .field "receiver_key" (dotted "receiver_key") (string dialect) <|
    .field "window_start_sample" (bare "window_start_sample") (integer dialect) <|
    .field "window_stop_sample" (bare "window_stop_sample") (integer dialect) <|
    .field "score" (dotted "score") (number dialect) <|
    .field "score_semantics" (dotted "score_semantics") (string dialect)
    .done) (by simp)).make
  (fun (method_id, method_version, segment_id, receiver_key, window_start_sample, window_stop_sample, score,
      score_semantics, _) =>
    Checked.make MethodScore.Fields.post_init
      { method_id, method_version, segment_id, receiver_key, window_start_sample, window_stop_sample, score,
        score_semantics })
  (fun s => (s.val.method_id, s.val.method_version, s.val.segment_id, s.val.receiver_key, s.val.window_start_sample,
    s.val.window_stop_sample, s.val.score, s.val.score_semantics, ()))
  (by
    intro a s h
    rw [Checked.val_of_make h])
  (fun _ => computes_make caught_methodScore _)

/-- `SchemaRef(FeatureSetBundle.SCHEMA_ID)` -/
def SCHEMA : SchemaRef := ⟨FeatureSetBundle.SCHEMA_ID, V0_1, FeatureSetBundle.isToken_SCHEMA_ID⟩

/-- The root of `decode_feature_set` -/
def featureSet : Codec FeatureSetBundle :=
  (object dialect "FeatureSetBundle"
    (.field "schema" (bare "schema") ((schema dialect).check (· = SCHEMA)
      (fun _ => dialect.bad "unsupported durable feature set schema") (fun _ => dialect.wire)) <|
    .field "feature_set_id" (bare "feature_set_id") (idOf dialect .feature_set) <|
    .field "analysis_run_id" (bare "analysis_run_id") (idOf dialect .analysis_run) <|
    .field "recording_id" (bare "recording_id") (idOf dialect .recording) <|
    .field "input_recording_identity_digest" (bare "input recording digest") (digest dialect) <|
    .field "provenance" (bare "provenance") (provenance dialect id fun item _ _ => item) <|
    .field "observations" (bare "observations") (array dialect observation numbered) <|
    .field "method_scores" (bare "method_scores") (array dialect methodScore numbered) <|
    .field "diagnostic_bundle_ref" (bare "diagnostic_bundle_ref")
      (optional (objectRef dialect) (objectRef_ne_none dialect)) <|
    .field "warnings" (bare "warnings") (array dialect (string dialect) fun _ _ => "warning") <|
    .field "reason_codes" (bare "reason_codes") (array dialect (string dialect) fun _ _ => "reason code")
    .done) (by simp)).make
  (fun (schema, feature_set_id, analysis_run_id, recording_id, input_recording_identity_digest, provenance,
      observations, method_scores, diagnostic_bundle_ref, warnings, reason_codes, _) =>
    Checked.make FeatureSetBundle.Fields.post_init
      { schema, feature_set_id, analysis_run_id, recording_id, input_recording_identity_digest, provenance,
        observations, method_scores, diagnostic_bundle_ref, warnings, reason_codes })
  (fun b => (b.val.schema, b.val.feature_set_id, b.val.analysis_run_id, b.val.recording_id,
    b.val.input_recording_identity_digest, b.val.provenance, b.val.observations, b.val.method_scores,
    b.val.diagnostic_bundle_ref, b.val.warnings, b.val.reason_codes, ()))
  (by
    intro a b h
    rw [Checked.val_of_make h])
  (fun _ => computes_make caught_featureSetBundle _)

/-- `decode_feature_set` -/
def format : Format FeatureSetBundle where
  dialect := dialect
  codec := featureSet
  limit := 64 * 1024 * 1024
  duplicate := "duplicate JSON key"
  oversized := "feature set exceeds size limit"
  noncanonical := "feature set bytes are not canonical JSON"

/-- `encode_feature_set` -/
def encode (stack : Stack) (b : FeatureSetBundle) : Except PyError Bytes := stack.canonicalJsonBytes b.toPy

/-- `decode_feature_set` -/
def decode (stack : Stack) (data : Bytes) : Except PyError FeatureSetBundle := format.decode stack data

/-! ## What is restored -/

mutual

/-- Free-form values that come back equal: no list, object or instance, and every float the number of its text. -/
def Kept : PyValue → Prop
  | .list _ | .dict _ | .record _ _ => False
  | .tuple items => KeptItems items
  | .float f => (Json.readFloat f).eq (.float f) = true
  | _ => True

def KeptItems : List PyValue → Prop
  | [] => True
  | v :: vs => Kept v ∧ KeptItems vs

end

theorem keptItems_iff (items : List PyValue) : KeptItems items ↔ ∀ v ∈ items, Kept v := by
  induction items with
  | nil => simp [KeptItems]
  | cons v vs ih => simp [KeptItems, ih]

theorem eq_freeze_iff (v : PyValue) : (freeze (back v)).eq v = true ↔ Kept v := by
  induction v with
  | none =>
    refine iff_of_true ?_ trivial
    show PyValue.none.eq .none = true
    rw [PyValue.eq]
  | bool b =>
    refine iff_of_true ?_ trivial
    show (PyValue.bool b).eq (.bool b) = true
    rw [PyValue.eq]
    exact decide_eq_true rfl
  | int n => exact iff_of_true ((PyValue.eq_int n n).trans (decide_eq_true rfl)) trivial
  | str s => exact iff_of_true ((PyValue.eq_str s s).trans (decide_eq_true rfl)) trivial
  | float f =>
    have hfrozen : freeze (Json.readFloat f) = Json.readFloat f := by
      unfold Json.readFloat
      split
      · split
        · rfl
        · rfl
      · rfl
    show (freeze (Json.readFloat f)).eq (.float f) = true ↔ (Json.readFloat f).eq (.float f) = true
    rw [hfrozen]
  | tuple items ih =>
    rw [Json.back_tuple, freeze, freezeItems_eq, List.map_map, PyValue.eq, Kept, keptItems_iff]
    have hitems := PyValue.eqItems_map (freeze ∘ back) id items
    rw [List.map_id] at hitems
    rw [hitems]
    exact forall₂_congr ih
  | list items =>
    rw [Json.back_list, freeze]
    exact iff_of_false (by simp [PyValue.eq]) id
  | dict items =>
    rw [Json.back_dict, freeze]
    exact iff_of_false (by simp [PyValue.eq]) id
  | record cls fields =>
    rw [Json.back_record, Json.back_dict, freeze]
    exact iff_of_false (by simp [PyValue.eq]) id

theorem restores_freeFormPair {x : PyStr × PyValue.Any} : freeFormPair.Restores x ↔ Kept x.2.val := by
  unfold Restores
  have hagain : freeFormPair.again x = some (x.1, refrozen x.2) := rfl
  rw [hagain, ← eq_freeze_iff]
  simp only [Option.some.injEq, exists_eq_left']
  show (PyValue.tuple [.str x.1, (refrozen x.2).val]).eq (.tuple [.str x.1, x.2.val]) = true ↔ _
  rw [PyValue.eq, PyValue.eqItems, PyValue.eqItems, PyValue.eqItems, PyValue.eq_str]
  simp [refrozen]

theorem restores_pairs {xs : PyValue.Pairs} : pairs.Restores xs ↔ ∀ x ∈ xs, Kept x.2.val := by
  unfold pairs
  rw [restores_array]
  exact forall₂_congr fun _ _ => restores_freeFormPair

/-- The numbers of an observation are floats or equal to floats, and its free-form values are kept. -/
structure RestorableObservation (o : FeatureObservation) : Prop where
  score : HasFloat o.val.score
  frequency_hz : ∀ x ∈ o.val.frequency_hz, HasFloat x
  frequency_offset_hz : ∀ x ∈ o.val.frequency_offset_hz, HasFloat x
  drift_hz_s : ∀ x ∈ o.val.drift_hz_s, HasFloat x
  noise_estimate : ∀ x ∈ o.val.noise_estimate, HasFloat x
  snr_db : ∀ x ∈ o.val.snr_db, HasFloat x
  covariance : ∀ c ∈ o.val.covariance, RestorableCovariance c
  uncertainty : ∀ x ∈ o.val.uncertainty, Kept x.2.val
  diagnostics : ∀ x ∈ o.val.diagnostics, Kept x.2.val

theorem requireFiniteIfPresent_of_same {x y : Option Num} {name : String}
    (h : (optionalNumber.write y).eq (optionalNumber.write x) = true) (hx : requireFiniteIfPresent x name = .ok ()) :
    requireFiniteIfPresent y name = .ok () := by
  cases y with
  | none => rfl
  | some y =>
    cases x with
    | some x => exact requireFinite_of_same h hx
    | none =>
      have hsame : y.toValue.eq .none = true := h
      cases y with
      | int n =>
        rw [Num.toValue, PyValue.eq, PyValue.eqNum] at hsame
        cases hsame
      | float f =>
        rw [Num.toValue, PyValue.eq, PyValue.eqNum] at hsame
        cases hsame

theorem restores_observation {o : FeatureObservation} : observation.Restores o ↔ RestorableObservation o := by
  unfold observation
  refine Iff.trans (restores_make_of ?_) ?_
  · intro a ha hrestores
    have hfields := restores_object.1 hrestores
    simp only [Fields.restores_field, Fields.restores_done, lossless_idOf.restores,
      lossless_string.restores, lossless_integer.restores,
      lossless_string.array.restores, true_and, and_true] at hfields
    rcases hfields with ⟨⟨score, hscore, hsame⟩, hchain, hpair, ⟨frequency_hz, hfrequency, hsame1⟩, ⟨frequency_offset_hz, hoffset, hsame2⟩,
      ⟨drift_hz_s, hdrift, hsame3⟩, ⟨noise_estimate, hnoise, hsame4⟩, ⟨snr_db, hsnr, hsame5⟩, ⟨covariance, hcovariance, _⟩,
      ⟨uncertainty, huncertainty, _⟩, diagnostics, hdiagnostics, _⟩
    have hfields := again_object.symm.trans ha
    simp only [Fields.again_field, Fields.again_done, lossless_idOf.again, lossless_string.again, lossless_integer.again, lossless_string.array.again,
      lossless_idOf.optional.again, hscore, hfrequency, hoffset, hdrift, hnoise, hsnr, hcovariance, huncertainty, hdiagnostics, Option.bind_some, Option.map_some,
      Option.some.injEq] at hfields
    subst hfields
    refine make_exists_iff.2 ?_
    have hok := o.ok
    unfold FeatureObservation.Fields.post_init at hok ⊢
    simp only [checkAll_cons] at hok ⊢
    -- what does not name a number is checked as before
    rcases hok with ⟨hmethod, hversion, hkind, hsemantics, hmidpoint, hreceiver, hwindow, hnumber, hnumber1, hnumber2,
      hnumber3, hnumber4, hnumber5, hdone⟩
    refine ⟨hmethod, hversion, hkind, hsemantics, hmidpoint, hreceiver, hwindow, requireFinite_of_same hsame hnumber, ?_⟩
    refine ⟨requireFiniteIfPresent_of_same hsame1 hnumber1, requireFiniteIfPresent_of_same hsame2 hnumber2, ?_⟩
    refine ⟨requireFiniteIfPresent_of_same hsame3 hnumber3, requireFiniteIfPresent_of_same hsame4 hnumber4, ?_⟩
    exact ⟨requireFiniteIfPresent_of_same hsame5 hnumber5, hdone⟩
  · refine Iff.trans restores_object ?_
    unfold optionalNumber
    simp only [Fields.restores_field, Fields.restores_done, lossless_idOf.restores,
      lossless_string.restores, lossless_integer.restores, restores_number, restores_optional, restores_covariance,
      lossless_string.array.restores, restores_pairs, true_and, and_true, implies_true]
    constructor
    · rintro ⟨h1, h2, h3, h4, h5, h6, h7, h8, h9⟩
      exact ⟨h1, h2, h3, h4, h5, h6, h7, h8, h9⟩
    · rintro ⟨h1, h2, h3, h4, h5, h6, h7, h8, h9⟩
      exact ⟨h1, h2, h3, h4, h5, h6, h7, h8, h9⟩

theorem restores_methodScore {s : MethodScore} : methodScore.Restores s ↔ HasFloat s.val.score := by
  unfold methodScore
  refine Iff.trans (restores_make_of ?_) ?_
  · intro a ha hrestores
    have hfields := restores_object.1 hrestores
    simp only [Fields.restores_field, Fields.restores_done, lossless_idOf.restores, lossless_string.restores,
      lossless_integer.restores, true_and, and_true] at hfields
    rcases hfields with ⟨score, hscore, hsame⟩
    have hagain := again_object.symm.trans ha
    simp only [Fields.again_field, Fields.again_done, lossless_idOf.again, lossless_string.again, lossless_integer.again,
      hscore, Option.bind_some, Option.map_some, Option.some.injEq] at hagain
    subst hagain
    refine make_exists_iff.2 ?_
    have hok := s.ok
    unfold MethodScore.Fields.post_init at hok ⊢
    simp only [checkAll_cons] at hok ⊢
    rcases hok with ⟨hmethod, hversion, hreceiver, hsemantics, hnumber, hwindow, hdone⟩
    exact ⟨hmethod, hversion, hreceiver, hsemantics, requireFinite_of_same hsame hnumber, hwindow, hdone⟩
  · refine Iff.trans restores_object ?_
    simp only [Fields.restores_field, Fields.restores_done, lossless_idOf.restores, lossless_string.restores,
      lossless_integer.restores, restores_number, true_and, and_true]

theorem recording_id_again (o o' : FeatureObservation) (h : observation.again o = some o') :
    o'.val.recording_id = o.val.recording_id :=
  Fields.fst_of_again (Fields.snd_of_again (again_object.symm.trans (stored_of_again h))) lossless_idOf

theorem key_again (s s' : MethodScore) (h : methodScore.again s = some s') : s'.key = s.key := by
  have h1 := again_object.symm.trans (stored_of_again h)
  have h2 := Fields.snd_of_again h1
  have h3 := Fields.snd_of_again h2
  have h4 := Fields.snd_of_again h3
  have h5 := Fields.snd_of_again h4
  have h6 := Fields.snd_of_again h5
  have hmethod : s'.val.method_id = s.val.method_id := Fields.fst_of_again h1 lossless_string
  have hversion : s'.val.method_version = s.val.method_version := Fields.fst_of_again h2 lossless_string
  have hsegment : s'.val.segment_id = s.val.segment_id := Fields.fst_of_again h3 lossless_idOf
  have hreceiver : s'.val.receiver_key = s.val.receiver_key := Fields.fst_of_again h4 lossless_string
  have hstart : s'.val.window_start_sample = s.val.window_start_sample := Fields.fst_of_again h5 lossless_integer
  have hstop : s'.val.window_stop_sample = s.val.window_stop_sample := Fields.fst_of_again h6 lossless_integer
  unfold MethodScore.key
  rw [hmethod, hversion, hsegment, hreceiver, hstart, hstop]

/-- Every observation can be restored, and every score is a float or equal to one. -/
structure Restorable (b : FeatureSetBundle) : Prop where
  observations : ∀ o ∈ b.val.observations, RestorableObservation o
  method_scores : ∀ s ∈ b.val.method_scores, HasFloat s.val.score

theorem restores_featureSet {b : FeatureSetBundle} : featureSet.Restores b ↔ Restorable b := by
  have hok := b.ok
  unfold FeatureSetBundle.Fields.post_init at hok
  simp only [checkAll_cons, raiseIf_ok] at hok
  rcases hok with ⟨hschema, hrecording, hkeys, hdone⟩
  unfold featureSet
  refine Iff.trans (restores_make_of ?_) ?_
  · intro a ha _
    have hagain := again_object.symm.trans ha
    rcases a with ⟨schema, feature_set_id, analysis_run_id, recording_id, digest, provenance, observations, scores, rest⟩
    have h1 := Fields.snd_of_again hagain
    have h2 := Fields.snd_of_again h1
    have h3 := Fields.snd_of_again h2
    have h4 := Fields.snd_of_again h3
    have h5 := Fields.snd_of_again h4
    have h6 := Fields.snd_of_again h5
    have hsame : schema = b.val.schema :=
      Option.some.inj ((again_check (Fields.first_of_again hagain)).symm.trans (lossless_schema.again _))
    have hsame_recording : recording_id = b.val.recording_id := Fields.fst_of_again h3 lossless_idOf
    have hobservations := map_of_mapM recording_id_again (again_array.symm.trans (Fields.first_of_again h6))
    have hscores := map_of_mapM key_again (again_array.symm.trans (Fields.first_of_again (Fields.snd_of_again h6)))
    subst hsame
    subst hsame_recording
    refine make_exists_iff.2 ?_
    unfold FeatureSetBundle.Fields.post_init
    simp only [checkAll_cons, raiseIf_ok]
    refine ⟨hschema, ?_, ?_, hdone⟩
    · rintro ⟨o, ho, hne⟩
      -- this observation came from one of the bundle, of the same recording
      have hmem : o.val.recording_id ∈ b.val.observations.map (·.val.recording_id) := hobservations ▸ List.mem_map_of_mem ho
      rcases List.mem_map.1 hmem with ⟨o', ho', heq⟩
      exact hrecording ⟨o', ho', heq ▸ hne⟩
    · have hkeys' : ((scores.map MethodScore.key).Nodup) := hscores.symm ▸ not_not.1 hkeys
      exact not_not.2 hkeys'
  · refine Iff.trans restores_object ?_
    simp only [Fields.restores_field, Fields.restores_done, lossless_idOf.restores,
      lossless_digest.restores, lossless_provenance.restores, lossless_objectRef.optional.restores,
      lossless_string.array.restores, restores_array, restores_observation,
      restores_methodScore, true_and, and_true]
    have hschema : b.val.schema = SCHEMA := by
      rcases not_or.1 hschema with ⟨hid, hversion⟩
      exact schemaRef_ext (not_not.1 hid) (not_not.1 hversion)
    constructor
    · rintro ⟨_, hobservations, hscores⟩
      exact ⟨hobservations, hscores⟩
    · rintro ⟨hobservations, hscores⟩
      exact ⟨(restores_check_of_lossless lossless_schema).2 hschema, hobservations, hscores⟩

end FeatureSetCodec

end LeoFlow
