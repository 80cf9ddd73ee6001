import LeoFlow.Contracts.Codec
import LeoFlow.Contracts.Features

/-!
# LeoFlow.Contracts.SharedCodecs — identifiers, digests and references in documents

The helpers that the decoders have in common: `_digest`, `_schema`, `_artifact`,
`_object_ref` and `_provenance`, each under the labels of its messages.
-/

namespace LeoFlow

open Json (back Renderable)

/-- `f"{name}.{key}"` -/
def dotted (key : String) (name : String) : String := name ++ "." ++ key

/-- A label that does not name the parent. -/
def bare (label : String) (_ : String) : String := label

/-- Items under the label of their array. -/
def unnumbered (name : String) (_ : Nat) : String := name

/-- `f"{name}[{index}]"` -/
def numbered (name : String) (index : Nat) : String := name ++ "[" ++ toString index ++ "]"

namespace Fields

variable {α : Type}

/-- The field under this key is an object with these fields, before anything else is read. -/
def shaped (w : Dialect) (key : String) (label : String → String) (names : List String) (rest : Fields α)
    (hshape : ∀ x, ∃ cls fields, (key, PyValue.dataclass cls fields) ∈ rest.write x ∧ fields.map Prod.fst = names)
    (hnames : names.Nodup) : Fields α :=
  guard
    (fun name items => do
      let v ← Json.field items key
      let entries ← Json.asObject (w.bad (label name ++ " must be an object")) v
      Json.exactFields (w.bad (label name ++ w.differ)) entries names)
    rest (fun _ => True)
    (by
      intro name items
      refine raisesOnly_bind.2 ⟨?_, fun v _ => raisesOnly_bind.2 ⟨?_, fun entries _ => raisesOnly_raiseIf w.wire⟩⟩
      · unfold Json.field
        split
        · exact raisesOnly_ok _
        · exact raisesOnly_error (.inl rfl)
      · unfold Json.asObject
        split
        · exact raisesOnly_ok _
        · exact w.caught _)
    (by
      intro x items name hlookup
      rcases hshape x with ⟨cls, fields, hmem, hfields⟩
      rcases Json.exists_items fields (hfields ▸ hnames) with ⟨entries, hentries, _, hexact⟩
      have hobject : back (.dataclass cls fields) = .dict entries := (Json.back_record _ _).trans hentries
      have hfield := field_ok.2 (hlookup _ hmem)
      refine iff_true_intro (bind_ok.2 ⟨_, hfield, bind_ok.2 ⟨entries, ?_, hfields ▸ hexact _⟩⟩)
      dsimp only
      rw [hobject, Json.asObject_dict])

@[simp] theorem names_shaped {w : Dialect} {key : String} {label : String → String} {names : List String} {rest : Fields α}
    {hshape : ∀ x, ∃ cls fields, (key, PyValue.dataclass cls fields) ∈ rest.write x ∧ fields.map Prod.fst = names}
    {hnames : names.Nodup} : (shaped w key label names rest hshape hnames).names = rest.names := rfl

end Fields

theorem Digest.value_of_parse {algorithm value : PyStr} {d : Digest} (h : Digest.parse algorithm value = .ok d) :
    d.value = value := by
  unfold Digest.parse at h
  split at h
  · cases h
  · split at h
    · cases h
      rfl
    · cases h

theorem caught_digest {algorithm value : PyStr} : Caught (Digest.parse algorithm value) := by
  unfold Digest.parse
  split
  · exact caught_value _
  · split
    · exact raisesOnly_ok _
    · exact caught_value _

/-- `SchemaVersion(major, minor)` -/
def SchemaVersion.parse (major minor : Int) : Except PyError SchemaVersion := do
  requireNonnegative major "major"
  requireNonnegative minor "minor"
  .ok ⟨major.toNat, minor.toNat⟩

theorem SchemaVersion.fields_of_parse {major minor : Int} {v : SchemaVersion} (h : parse major minor = .ok v) :
    (v.major : Int) = major ∧ (v.minor : Int) = minor := by
  rcases bind_ok.1 h with ⟨⟨⟩, hmajor, h⟩
  rcases bind_ok.1 h with ⟨⟨⟩, hminor, h⟩
  cases h
  exact ⟨Int.toNat_of_nonneg (not_lt.1 (raiseIf_ok.1 hmajor)), Int.toNat_of_nonneg (not_lt.1 (raiseIf_ok.1 hminor))⟩

theorem computes_schemaVersion (major minor : Int) : Computes (SchemaVersion.parse major minor) :=
  computes_bind caught_requireNonnegative.computes fun _ =>
    computes_bind caught_requireNonnegative.computes fun _ => raisesOnly_ok _

/-- `SchemaRef(schema_id, version)` -/
def SchemaRef.parse (schema_id : PyStr) (version : SchemaVersion) : Except PyError SchemaRef :=
  if h : IsToken schema_id then .ok ⟨schema_id, version, h⟩
  else .error (.value "schema_id must be a non-empty portable token")

theorem SchemaRef.fields_of_parse {schema_id : PyStr} {version : SchemaVersion} {s : SchemaRef}
    (h : parse schema_id version = .ok s) : s.schema_id = schema_id ∧ s.version = version := by
  unfold parse at h
  split at h
  · cases h
    exact ⟨rfl, rfl⟩
  · cases h

theorem schemaRef_ext {s t : SchemaRef} (hid : s.schema_id = t.schema_id) (hversion : s.version = t.version) : s = t := by
  rcases s with ⟨schema_id, version, htoken⟩
  cases hid
  cases hversion
  rfl

theorem caught_schemaRef {schema_id : PyStr} {version : SchemaVersion} : Caught (SchemaRef.parse schema_id version) := by
  unfold SchemaRef.parse
  split
  · exact raisesOnly_ok _
  · exact caught_value _

/-- `ObjectRef(digest, byte_count, media_type, format_id, locator)` -/
def ObjectRef.parse (digest : Digest) (byte_count : Int) (media_type format_id locator : PyStr) :
    Except PyError (Checked ObjectRef.post_init) := do
  requireNonnegative byte_count "byte_count"
  Checked.make ObjectRef.post_init { digest, byte_count := byte_count.toNat, media_type, format_id, locator }

theorem caught_objectRef (o : ObjectRef) : Caught o.post_init := by
  refine caught_checkAll ?_
  simp

namespace Codec

variable (w : Dialect)

/-! ### What is not `None` -/

theorem string_ne_none (s : PyStr) : back ((string w).write s) ≠ .none := nofun

theorem number_ne_none (x : Num) : back ((number w).write x) ≠ .none := by
  cases x with
  | int n => exact nofun
  | float f =>
    show Json.readFloat f ≠ .none
    unfold Json.readFloat
    split
    · split
      · exact nofun
      · exact nofun
    · exact nofun

theorem dataclass_ne_none (cls : String) (fields : List (String × PyValue)) : back (.dataclass cls fields) ≠ .none := by
  unfold PyValue.dataclass
  rw [Json.back_record]
  exact nofun

/-! ### Identifiers and references -/

/-- `Id(_string(value, name))` -/
def idOf (c : IdClass) : Codec (ContractId c) :=
  (string w).make (ContractId.parse c) ContractId.value (fun _ _ h => ContractId.value_of_parse h)
    fun _ => caught_parse.computes

theorem id_ne_none {c : IdClass} (x : ContractId c) : back ((idOf w c).write x) ≠ .none := string_ne_none w x.value

/-- `DigestAlgorithm(value)`, of one member -/
def digestAlgorithm (value : PyStr) : Except PyError Unit :=
  raiseIf (value ≠ str "sha256") (.value "not a valid DigestAlgorithm")

/-- `_digest` -/
def digest : Codec Digest :=
  (object w "Digest"
    (.field "algorithm" (dotted "algorithm") ((string w).make digestAlgorithm (fun _ => str "sha256")
      (fun _ _ h => (not_not.1 (raiseIf_ok.1 h)).symm) fun _ => caught_raiseIf.computes) <|
    .field "value" (dotted "value") (string w)
    .done) (by simp)).make
  (fun (_, value, _) => Digest.parse (str "sha256") value)
  (fun d => ((), d.value, ()))
  (by
    rintro ⟨⟨⟩, value, ⟨⟩⟩ d h
    rw [← Digest.value_of_parse h])
  (fun _ => caught_digest.computes)

def schemaVersion : Codec SchemaVersion :=
  (object w "SchemaVersion"
    (.field "major" (dotted "major") (integer w) <|
    .field "minor" (dotted "minor") (integer w)
    .done) (by simp)).make
  (fun (major, minor, _) => SchemaVersion.parse major minor)
  (fun v => (v.major, v.minor, ()))
  (by
    rintro ⟨major, minor, ⟨⟩⟩ v h
    rw [(SchemaVersion.fields_of_parse h).1, (SchemaVersion.fields_of_parse h).2])
  (fun _ => computes_schemaVersion _ _)

/-- `_schema`; the version is an object before the rest is read. -/
def schema : Codec SchemaRef :=
  (object w "SchemaRef"
    (.shaped w "version" (dotted "version") ["major", "minor"]
      (.field "schema_id" (dotted "schema_id") (string w) <|
      .field "version" (dotted "version") (schemaVersion w)
      .done)
      (fun _ => ⟨"SchemaVersion", _, List.mem_cons_of_mem _ List.mem_cons_self, rfl⟩) (by decide)) (by simp)).make
  (fun (schema_id, version, _) => SchemaRef.parse schema_id version)
  (fun s => (s.schema_id, s.version, ()))
  (by
    rintro ⟨schema_id, version, ⟨⟩⟩ s h
    rw [(SchemaRef.fields_of_parse h).1, (SchemaRef.fields_of_parse h).2])
  (fun _ => caught_schemaRef.computes)

/-- `_object_ref` -/
def objectRef : Codec (Checked ObjectRef.post_init) :=
  (object w "ObjectRef"
    (.field "digest" (dotted "digest") (digest w) <|
    .field "byte_count" (dotted "byte_count") (integer w) <|
    .field "media_type" (dotted "media_type") (string w) <|
    .field "format_id" (dotted "format_id") (string w) <|
    .field "locator" (dotted "locator") (string w)
    .done) (by simp)).make
  (fun (digest, byte_count, media_type, format_id, locator, _) =>
    ObjectRef.parse digest byte_count media_type format_id locator)
  (fun r => (r.val.digest, r.val.byte_count, r.val.media_type, r.val.format_id, r.val.locator, ()))
  (by
    rintro ⟨digest, byte_count, media_type, format_id, locator, ⟨⟩⟩ r h
    rcases bind_ok.1 h with ⟨⟨⟩, hcount, hmake⟩
    have hcount := Int.toNat_of_nonneg (not_lt.1 (raiseIf_ok.1 hcount))
    rw [Checked.val_of_make hmake]
    dsimp only
    rw [hcount])
  (fun _ => computes_bind caught_requireNonnegative.computes fun _ => computes_make caught_objectRef _)

theorem objectRef_ne_none (r : Checked ObjectRef.post_init) : back ((objectRef w).write r) ≠ .none := dataclass_ne_none _ _

/-- `_provenance`, under the labels of its fields -/
def provenance (label : String → String) (item : String → String → Nat → String) : Codec Provenance :=
  (object w "Provenance"
    (.field "producer_name" (bare (label "producer_name")) (string w) <|
    .field "producer_version" (bare (label "producer_version")) (string w) <|
    .field "git_commit" (bare (label "git_commit")) (string w) <|
    .field "environment_digest" (bare (label "environment_digest")) (digest w) <|
    .field "normalized_config_digest" (bare (label "normalized_config_digest")) (digest w) <|
    .field "input_digests" (bare (label "input_digests")) (array w (digest w) (item "input_digest")) <|
    .field "dependency_digests" (bare (label "dependency_digests")) (array w (digest w) (item "dependency_digest")) <|
    .field "started_utc_ns" (bare (label "started_utc_ns")) (integer w) <|
    .field "completed_utc_ns" (bare (label "completed_utc_ns")) (integer w) <|
    .field "host_class" (bare (label "host_class")) (string w)
    .done) (by simp)).make
  (fun (producer_name, producer_version, git_commit, environment_digest, normalized_config_digest, input_digests,
      dependency_digests, started_utc_ns, completed_utc_ns, host_class, _) =>
    Checked.make Provenance.Fields.post_init
      { producer_name, producer_version, git_commit, environment_digest, normalized_config_digest, input_digests,
        dependency_digests, started_utc_ns, completed_utc_ns, host_class })
  (fun p => (p.val.producer_name, p.val.producer_version, p.val.git_commit, p.val.environment_digest,
    p.val.normalized_config_digest, p.val.input_digests, p.val.dependency_digests, p.val.started_utc_ns,
    p.val.completed_utc_ns, p.val.host_class, ()))
  (by
    intro a p h
    rw [Checked.val_of_make h])
  (fun _ => computes_make caught_provenance _)

/-- The fields of `_covariance`, with a label for each item -/
def covarianceFields (basis units row cell : String → Nat → String) :
    Fields (List PyStr × List PyStr × List (List Num) × Num × Unit) :=
  .field "basis" (dotted "basis") (array w (string w) basis) <|
  .field "units" (dotted "units") (array w (string w) units) <|
  .field "values" (dotted "values") (array w (array w (number w) cell) row) <|
  .field "psd_tolerance" (dotted "psd_tolerance") (number w)
  .done

/-- `Covariance(basis, units, values, psd_tolerance)` over its fields -/
def covarianceOf (fields : Fields (List PyStr × List PyStr × List (List Num) × Num × Unit))
    (hnames : fields.names.Nodup) : Codec Covariance :=
  (object w "Covariance" fields hnames).make
  (fun (basis, units, values, psd_tolerance, _) =>
    Checked.make Covariance.Fields.post_init { basis, units, values, psd_tolerance })
  (fun c => (c.val.basis, c.val.units, c.val.values, c.val.psd_tolerance, ()))
  (by
    intro a c h
    rw [Checked.val_of_make h])
  (fun _ => computes_makeOf Covariance.Fields.computes_post_init _)

/-- `_covariance` -/
def covariance : Codec Covariance :=
  covarianceOf w (covarianceFields w unnumbered unnumbered unnumbered unnumbered) (by simp [covarianceFields])

theorem covariance_ne_none (c : Covariance) : back ((covariance w).write c) ≠ .none := dataclass_ne_none _ _

end Codec

end LeoFlow
