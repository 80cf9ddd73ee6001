import LeoFlow.Analysis.CampaignMaterialization
import LeoFlow.Core.JsonSize

/-!
# LeoFlow.Analysis.DatasetCampaignCodec — campaign documents

`encode_campaign` and `decode_campaign` of `analysis/dataset/campaign.py`. The size limit and the
recursion of the scanner bind the reader only.
-/

namespace LeoFlow

namespace DatasetCampaign

/-! ## Writing -/

/-- `list(strings)` -/
def strings (values : List PyStr) : PyValue := .list (values.map .str)

/-- The `provenance` of `_truth_document`. -/
def provenance_document (provenance : CampaignTruthProvenance) : PyValue :=
  .object [
    ("producer_id", .str provenance.val.producer_id),
    ("producer_kind", .str provenance.val.producer_kind.value),
    ("producer_artifact_digest", .str provenance.val.producer_artifact_digest.toStr),
    ("evidence_digest", .str provenance.val.evidence_digest.toStr),
    ("selection_policy_digest", .str provenance.val.selection_policy_digest.toStr),
    ("produced_utc_ns", .int provenance.val.produced_utc_ns),
    ("independent_of_method_ids", strings provenance.val.independent_of_method_ids),
    ("detector_derived", .bool provenance.val.detector_derived)]

/-- The `matrix` of `_truth_document`. -/
def matrix_document (matrix : CampaignMatrixPoint) : PyValue :=
  .object [
    ("snr_db", optionToPy .str matrix.val.snr_db),
    ("frequency_offset_hz", optionToPy .int matrix.val.frequency_offset_hz),
    ("drift_hz_s", optionToPy .str matrix.val.drift_hz_s),
    ("receiver_delay_samples", optionToPy (fun xs => .list (xs.map .int)) matrix.val.receiver_delay_samples),
    ("receiver_gain_db", optionToPy strings matrix.val.receiver_gain_db),
    ("clipping", .bool matrix.val.clipping),
    ("clip_min", optionToPy .int matrix.val.clip_min),
    ("clip_max", optionToPy .int matrix.val.clip_max),
    ("null_class", optionToPy .str matrix.val.null_class),
    ("confounders", strings matrix.val.confounders)]

/-- `_truth_document`, with the digest of the specification -/
def truth_document (digest : PyStr) (spec : CampaignTruthSpec) : PyValue :=
  .object [
    ("truth_spec_id", .str spec.val.truth_spec_id),
    ("truth_spec_digest", .str digest),
    ("group_id", .str spec.val.group_id),
    ("kind", .str spec.val.kind.value),
    ("target_present", optionToPy .bool spec.val.target_present),
    ("base_truth_spec_id", optionToPy .str spec.val.base_truth_spec_id),
    ("provenance", provenance_document spec.val.provenance),
    ("matrix", matrix_document spec.val.matrix)]

/-- `_group_document` -/
def group_document (group : CampaignGroup) : PyValue :=
  .object [
    ("group_id", .str group.val.group_id),
    ("partition", .str group.val.partition.value),
    ("start_utc_ns", .int group.val.start_utc_ns),
    ("stop_utc_ns", .int group.val.stop_utc_ns),
    ("base_truth_spec_id", .str group.val.base_truth_spec_id),
    ("injection_truth_spec_ids", strings group.val.injection_truth_spec_ids),
    ("truth_spec_ids", strings group.val.truth_spec_ids)]

/-- The `ephemeris_input` of `_member_document`. -/
def ephemeris_document (ephemeris : CampaignEphemerisInput) : PyValue :=
  .object [
    ("snapshot_digest", .str ephemeris.val.snapshot_digest.toStr),
    ("provenance_digest", .str ephemeris.val.provenance_digest.toStr),
    ("selection_policy_digest", .str ephemeris.val.selection_policy_digest.toStr),
    ("selection_policy", .str ephemeris.val.selection_policy),
    ("available_utc_ns", .int ephemeris.val.available_utc_ns)]

/-- `_member_document` -/
def member_document (member : CampaignMember) : PyValue :=
  .object [
    ("truth_spec_id", .str member.val.truth_spec_id),
    ("group_id", .str member.val.group_id),
    ("recording_id", .str member.val.recording_id),
    ("recording_identity_digest", .str member.val.recording_identity_digest.toStr),
    ("feature_set_id", .str member.val.feature_set_id),
    ("feature_set_digest", .str member.val.feature_set_digest.toStr),
    ("captured_utc_ns", .int member.val.captured_utc_ns),
    ("radio_id", .str member.val.radio_id),
    ("lnb_ids", strings member.val.lnb_ids),
    ("observation_mode", .str member.val.observation_mode),
    ("sample_rate_hz", .int member.val.sample_rate_hz),
    ("gain_mode", .str member.val.gain_mode),
    ("gain_db", optionToPy .str member.val.gain_db),
    ("scored_truth", .bool member.val.scored_truth),
    ("derived_from_recording_id", optionToPy .str member.val.derived_from_recording_id),
    ("ephemeris_input", optionToPy ephemeris_document member.val.ephemeris_input)]

/-- The root of `_campaign_document`, with its two digests and the documents of its specifications. -/
def root_document (truth_specs_digest membership_digest : PyStr) (truth_specs : List PyValue)
    (campaign : CampaignManifest) : PyValue :=
  .object [
    ("schema", .str CAMPAIGN_SCHEMA),
    ("campaign_id", .str campaign.val.campaign_id),
    ("frozen_utc_ns", .int campaign.val.frozen_utc_ns),
    ("candidate_method_ids", strings campaign.val.candidate_method_ids),
    ("truth_specs_digest", .str truth_specs_digest),
    ("membership_digest", .str membership_digest),
    ("truth_specs", .list truth_specs),
    ("groups", .list (campaign.val.groups.map group_document)),
    ("members", .list (campaign.val.members.map member_document))]

/-- The document of one specification of a campaign. -/
def truthDocumentOf (spec : CampaignTruthSpec) : Except PyError PyValue :=
  (CampaignTruthSpec.digest spec).map fun digest => truth_document digest.toStr spec

/-- `_campaign_document` -/
def campaign_document (campaign : CampaignManifest) : Except PyError PyValue := do
  let truth_specs_digest ← CampaignManifest.truth_specs_digest campaign
  let membership_digest ← CampaignManifest.membership_digest campaign
  let truth_specs ← campaign.val.truth_specs.mapM truthDocumentOf
  return root_document truth_specs_digest.toStr membership_digest.toStr truth_specs campaign

def encode_campaign (campaign : CampaignManifest) : Except PyError Bytes := do
  let document ← campaign_document campaign
  Json.canonicalJsonBytes document

/-! ## Reading -/

/-- `_object` -/
def object (value : PyValue) (name : String) : Except PyError (List (PyStr × PyValue)) :=
  match value with
  | .dict items => .ok items
  | _ => .error (bad (name ++ " must be an object"))

/-- `_array` -/
def array (value : PyValue) (name : String) : Except PyError (List PyValue) :=
  match value with
  | .list items => .ok items
  | _ => .error (bad (name ++ " must be an array"))

/-- `value[key]` -/
def item (value : List (PyStr × PyValue)) (key : String) : Except PyError PyValue :=
  match value.lookup (str key) with
  | some v => .ok v
  | none => .error ⟨.key_error, key⟩

/-- `_keys` -/
def keys (value : List (PyStr × PyValue)) (expected : List String) (name : String) : Except PyError Unit :=
  raiseIf (¬CampaignManifest.Fields.SameSet (value.map Prod.fst) (expected.map str))
    (bad (name ++ " fields differ from campaign v1"))

/-- `_string` -/
def string (value : PyValue) (name : String) : Except PyError PyStr :=
  match value with
  | .str s => .ok s
  | _ => .error (bad (name ++ " must be a string"))

/-- `_integer` -/
def integer (value : PyValue) (name : String) : Except PyError Int :=
  match value with
  | .int n => .ok n
  | _ => .error (bad (name ++ " must be an integer"))

/-- `isinstance(value, bool)` -/
def boolean (value : PyValue) (message : String) : Except PyError Bool :=
  match value with
  | .bool b => .ok b
  | _ => .error (bad message)

/-- A value that may be `None`. -/
def nullable {α : Type} (parse : PyValue → Except PyError α) (value : PyValue) : Except PyError (Option α) :=
  match value with
  | .none => .ok none
  | value => (parse value).map some

/-- `_optional_string` -/
def optional_string (value : PyValue) (name : String) : Except PyError (Option PyStr) :=
  nullable (string · name) value

/-- `_optional_integer` -/
def optional_integer (value : PyValue) (name : String) : Except PyError (Option Int) :=
  nullable (integer · name) value

/-- `_strings` -/
def parse_strings (value : PyValue) (name : String) (allow_empty : Bool) : Except PyError (List PyStr) := do
  let values ← array value name
  let result ← values.mapM (string · name)
  raiseIf (result = [] ∧ allow_empty = false) (bad (name ++ " must be non-empty"))
  return result

/-- `_optional_strings` -/
def optional_strings (value : PyValue) (name : String) : Except PyError (Option (List PyStr)) :=
  nullable (parse_strings · name false) value

/-- `tuple(_integer(item, name) for item in _array(value, name))` -/
def integers (value : PyValue) (name : String) : Except PyError (List Int) := do
  let values ← array value name
  values.mapM (integer · name)

/-- `_optional_integers` -/
def optional_integers (value : PyValue) (name : String) : Except PyError (Option (List Int)) :=
  nullable (integers · name) value

/-- `_digest` -/
def parse_digest (value : PyValue) : Except PyError Digest := do
  let text ← string value "digest"
  let (algorithm, digest_value) := Json.partition 58 text
  raiseIf (58 ∉ text ∨ algorithm ≠ str "sha256") (bad "digest must be sha256:<lowercase-hex>")
  Digest.parse (str "sha256") digest_value

/-- The member of an enumeration with the value. -/
def enumeration {α : Type} (members : List α) (valueOf : α → PyStr) (value : PyStr) : Except PyError α :=
  match members.find? (valueOf · = value) with
  | some member => .ok member
  | none => .error (.value "not a valid member")

def CampaignTruthKind.all : List CampaignTruthKind :=
  [base_noise, digital_injection, controlled_rf, hard_null, confounder]

def TruthProducerKind.all : List TruthProducerKind :=
  [independent_generator, controlled_instrument, score_blind_selection, independent_characterization]

/-- The `provenance` of `_parse_truth`. -/
def parse_provenance (provenance : List (PyStr × PyValue)) (detector_derived : Bool) :
    Except PyError CampaignTruthProvenance := do
  let producer_id ← string (← item provenance "producer_id") "producer_id"
  let kind_value ← string (← item provenance "producer_kind") "producer_kind"
  let producer_kind ← enumeration TruthProducerKind.all TruthProducerKind.value kind_value
  let producer_artifact_digest ← parse_digest (← item provenance "producer_artifact_digest")
  let evidence_digest ← parse_digest (← item provenance "evidence_digest")
  let selection_policy_digest ← parse_digest (← item provenance "selection_policy_digest")
  let produced_utc_ns ← integer (← item provenance "produced_utc_ns") "produced_utc_ns"
  let independent_of_method_ids ←
    parse_strings (← item provenance "independent_of_method_ids") "independent_of_method_ids" false
  Checked.make CampaignTruthProvenance.Fields.post_init {
    producer_id, producer_kind, producer_artifact_digest, evidence_digest, selection_policy_digest,
    produced_utc_ns, independent_of_method_ids, detector_derived }

/-- The `matrix` of `_parse_truth`. -/
def parse_matrix (matrix : List (PyStr × PyValue)) (clipping : Bool) : Except PyError CampaignMatrixPoint := do
  let snr_db ← optional_string (← item matrix "snr_db") "snr_db"
  let frequency_offset_hz ← optional_integer (← item matrix "frequency_offset_hz") "frequency_offset_hz"
  let drift_hz_s ← optional_string (← item matrix "drift_hz_s") "drift_hz_s"
  let receiver_delay_samples ←
    optional_integers (← item matrix "receiver_delay_samples") "receiver_delay_samples"
  let receiver_gain_db ← optional_strings (← item matrix "receiver_gain_db") "receiver_gain_db"
  let clip_min ← optional_integer (← item matrix "clip_min") "clip_min"
  let clip_max ← optional_integer (← item matrix "clip_max") "clip_max"
  let null_class ← optional_string (← item matrix "null_class") "null_class"
  let confounders ← parse_strings (← item matrix "confounders") "confounders" true
  Checked.make CampaignMatrixPoint.Fields.post_init {
    snr_db, frequency_offset_hz, drift_hz_s, receiver_delay_samples, receiver_gain_db, clipping, clip_min,
    clip_max, null_class, confounders }

/-- `_parse_truth` -/
def parse_truth (value : List (PyStr × PyValue)) (index : Nat) : Except PyError CampaignTruthSpec := do
  let name := "truth_specs[" ++ toString index ++ "]"
  keys value ["truth_spec_id", "truth_spec_digest", "group_id", "kind", "target_present",
    "base_truth_spec_id", "provenance", "matrix"] name
  let provenance ← object (← item value "provenance") (name ++ ".provenance")
  keys provenance ["producer_id", "producer_kind", "producer_artifact_digest", "evidence_digest",
    "selection_policy_digest", "produced_utc_ns", "independent_of_method_ids", "detector_derived"]
    (name ++ ".provenance")
  let matrix ← object (← item value "matrix") (name ++ ".matrix")
  keys matrix ["snr_db", "frequency_offset_hz", "drift_hz_s", "receiver_delay_samples", "receiver_gain_db",
    "clipping", "clip_min", "clip_max", "null_class", "confounders"] (name ++ ".matrix")
  let target_present ←
    nullable (boolean · (name ++ ".target_present must be boolean or null")) (← item value "target_present")
  let derived_value ← item provenance "detector_derived"
  let clipping_value ← item matrix "clipping"
  let detector_derived ← boolean derived_value (name ++ ": boolean field is malformed")
  let clipping ← boolean clipping_value (name ++ ": boolean field is malformed")
  let truth_spec_id ← string (← item value "truth_spec_id") "truth_spec_id"
  let group_id ← string (← item value "group_id") "group_id"
  let kind_value ← string (← item value "kind") "kind"
  let kind ← enumeration CampaignTruthKind.all CampaignTruthKind.value kind_value
  let base_truth_spec_id ← optional_string (← item value "base_truth_spec_id") "base_truth_spec_id"
  let provenance ← parse_provenance provenance detector_derived
  let matrix ← parse_matrix matrix clipping
  Checked.make CampaignTruthSpec.Fields.post_init {
    truth_spec_id, group_id, kind, target_present, base_truth_spec_id, provenance, matrix }

/-- `_parse_group` -/
def parse_group (value : List (PyStr × PyValue)) (index : Nat) : Except PyError CampaignGroup := do
  keys value ["group_id", "partition", "start_utc_ns", "stop_utc_ns", "base_truth_spec_id",
    "injection_truth_spec_ids", "truth_spec_ids"] ("groups[" ++ toString index ++ "]")
  let group_id ← string (← item value "group_id") "group_id"
  let partition_value ← string (← item value "partition") "partition"
  let partition ← enumeration DatasetSplit.all DatasetSplit.value partition_value
  let start_utc_ns ← integer (← item value "start_utc_ns") "start_utc_ns"
  let stop_utc_ns ← integer (← item value "stop_utc_ns") "stop_utc_ns"
  let base_truth_spec_id ← string (← item value "base_truth_spec_id") "base_truth_spec_id"
  let injection_truth_spec_ids ←
    parse_strings (← item value "injection_truth_spec_ids") "injection_truth_spec_ids" true
  let truth_spec_ids ← parse_strings (← item value "truth_spec_ids") "truth_spec_ids" false
  Checked.make CampaignGroup.Fields.post_init {
    group_id, partition, start_utc_ns, stop_utc_ns, base_truth_spec_id, injection_truth_spec_ids,
    truth_spec_ids }

/-- The `ephemeris_input` of `_parse_member`. -/
def parse_ephemeris (name : String) (value : PyValue) : Except PyError CampaignEphemerisInput := do
  let value ← object value name
  keys value ["snapshot_digest", "provenance_digest", "selection_policy_digest", "selection_policy",
    "available_utc_ns"] name
  let snapshot_digest ← parse_digest (← item value "snapshot_digest")
  let provenance_digest ← parse_digest (← item value "provenance_digest")
  let selection_policy_digest ← parse_digest (← item value "selection_policy_digest")
  let selection_policy ← string (← item value "selection_policy") "selection_policy"
  let available_utc_ns ← integer (← item value "available_utc_ns") "available_utc_ns"
  Checked.make CampaignEphemerisInput.Fields.post_init {
    snapshot_digest, provenance_digest, selection_policy_digest, selection_policy, available_utc_ns }

/-- `_parse_member` -/
def parse_member (value : List (PyStr × PyValue)) (index : Nat) : Except PyError CampaignMember := do
  let name := "members[" ++ toString index ++ "]"
  keys value ["truth_spec_id", "group_id", "recording_id", "recording_identity_digest", "feature_set_id",
    "feature_set_digest", "captured_utc_ns", "radio_id", "lnb_ids", "observation_mode", "sample_rate_hz",
    "gain_mode", "gain_db", "scored_truth", "derived_from_recording_id", "ephemeris_input"] name
  let scored_truth ← boolean (← item value "scored_truth") (name ++ ".scored_truth must be boolean")
  let ephemeris_input ← nullable (parse_ephemeris (name ++ ".ephemeris_input")) (← item value "ephemeris_input")
  let truth_spec_id ← string (← item value "truth_spec_id") "truth_spec_id"
  let group_id ← string (← item value "group_id") "group_id"
  let recording_id ← string (← item value "recording_id") "recording_id"
  let recording_identity_digest ← parse_digest (← item value "recording_identity_digest")
  let feature_set_id ← string (← item value "feature_set_id") "feature_set_id"
  let feature_set_digest ← parse_digest (← item value "feature_set_digest")
  let captured_utc_ns ← integer (← item value "captured_utc_ns") "captured_utc_ns"
  let radio_id ← string (← item value "radio_id") "radio_id"
  let lnb_ids ← parse_strings (← item value "lnb_ids") "lnb_ids" false
  let observation_mode ← string (← item value "observation_mode") "observation_mode"
  let sample_rate_hz ← integer (← item value "sample_rate_hz") "sample_rate_hz"
  let gain_mode ← string (← item value "gain_mode") "gain_mode"
  let gain_db ← optional_string (← item value "gain_db") "gain_db"
  let derived_from_recording_id ←
    optional_string (← item value "derived_from_recording_id") "derived_from_recording_id"
  Checked.make CampaignMember.Fields.post_init {
    truth_spec_id, group_id, recording_id, recording_identity_digest, feature_set_id, feature_set_digest,
    captured_utc_ns, radio_id, lnb_ids, observation_mode, sample_rate_hz, gain_mode, gain_db, scored_truth,
    derived_from_recording_id, ephemeris_input }

/-- `tuple(parse(_object(value, ..), index) for index, value in enumerate(_array(values, name)))` -/
def parse_items {α : Type} (parse : List (PyStr × PyValue) → Nat → Except PyError α) (values : PyValue)
    (name : String) : Except PyError (List α) := do
  let values ← array values name
  values.zipIdx.mapM fun x => do
    let value ← object x.1 (name ++ "[" ++ toString x.2 ++ "]")
    parse value x.2

/-- The digest that the document states of a specification. -/
def check_digest (x : (PyValue × CampaignTruthSpec) × Nat) : Except PyError Unit := do
  let name := "truth_specs[" ++ toString x.2 ++ "]"
  let raw_spec ← object x.1.1 name
  let expected ← parse_digest (← item raw_spec "truth_spec_digest")
  let digest ← CampaignTruthSpec.digest x.1.2
  raiseIf (expected ≠ digest) (bad (name ++ ".truth_spec_digest differs"))

/-- `_parse_campaign` -/
def parse_campaign (root : List (PyStr × PyValue)) : Except PyError CampaignManifest := do
  keys root ["schema", "campaign_id", "frozen_utc_ns", "candidate_method_ids", "truth_specs_digest",
    "membership_digest", "truth_specs", "groups", "members"] "root"
  let schema ← item root "schema"
  raiseIf (PyValue.eq schema (.str CAMPAIGN_SCHEMA) = false) (bad "unsupported campaign schema")
  let truth_specs ← parse_items parse_truth (← item root "truth_specs") "truth_specs"
  let groups ← parse_items parse_group (← item root "groups") "groups"
  let members ← parse_items parse_member (← item root "members") "members"
  let campaign_id ← string (← item root "campaign_id") "campaign_id"
  let frozen_utc_ns ← integer (← item root "frozen_utc_ns") "frozen_utc_ns"
  let candidate_method_ids ← parse_strings (← item root "candidate_method_ids") "candidate_method_ids" false
  let campaign ← Checked.make CampaignManifest.Fields.post_init {
    campaign_id, frozen_utc_ns, candidate_method_ids, truth_specs, groups, members }
  let raw_specs ← array (← item root "truth_specs") "truth_specs"
  let _ ← (raw_specs.zip truth_specs).zipIdx.mapM check_digest
  return campaign

/-- What `decode_campaign` does inside `try`. -/
def decode_document (limit : Nat) (data : Bytes) : Except PyError CampaignManifest := do
  let value ← Json.loadsHooked (Json.uniqueHook (bad "duplicate JSON key")) limit data
  let root ← object value "root"
  let campaign ← parse_campaign root
  let expected_truth ← parse_digest (← item root "truth_specs_digest")
  let expected_membership ← parse_digest (← item root "membership_digest")
  let truth_specs_digest ← CampaignManifest.truth_specs_digest campaign
  raiseIf (truth_specs_digest ≠ expected_truth) (bad "truth_specs_digest does not match frozen truth specs")
  let membership_digest ← CampaignManifest.membership_digest campaign
  raiseIf (membership_digest ≠ expected_membership) (bad "membership_digest does not match frozen members")
  return campaign

/-- `except (KeyError, TypeError, ValueError, json.JSONDecodeError)` -/
def IsMalformed (k : ErrorKind) : Prop := k = .key_error ∨ k = .type_error ∨ k.IsValueError

instance : DecidablePred IsMalformed := fun _ => inferInstanceAs (Decidable (_ ∨ _))

def MAX_CAMPAIGN_BYTES : Nat := 16 * 1024 * 1024

/-- `decode_campaign`, with room for `limit` nested calls -/
def decode_campaign (limit : Nat) (data : Bytes) : Except PyError CampaignManifest :=
  if MAX_CAMPAIGN_BYTES < data.length then .error (bad "campaign document exceeds size limit")
  else
    match decode_document limit data with
    | .ok campaign => .ok campaign
    | .error e =>
      if e.kind = .campaign_validation_error then .error e
      else if IsMalformed e.kind then .error (bad ("malformed campaign document: " ++ e.message))
      else .error e

/-! ## What was written is read back -/

/-- A dictionary with distinct keys is read back with all of its fields and no other. -/
theorem exists_items {v : PyValue} {fields : List (String × PyValue)} (hv : v = .object fields)
    (hnames : (fields.map Prod.fst).Nodup) :
    ∃ items, Json.normal v = .dict items ∧ (∀ x ∈ fields, item items x.1 = .ok (Json.normal x.2)) ∧
      ∀ name, keys items (fields.map Prod.fst) name = .ok () := by
  subst hv
  have hperm := Json.sortEntries_perm (Json.normalEntries (fields.map fun x => (str x.1, x.2)))
  have hkeys := hperm.map Prod.fst
  rw [Json.keys_normalEntries, List.map_map] at hkeys
  have hnodup := hkeys.nodup_iff.2 (by
    have hmap := hnames.map fun _ _ h => str_injective h
    rwa [List.map_map] at hmap)
  refine ⟨_, rfl, ?_, ?_⟩
  · intro x hx
    have hmem : (str x.1, Json.normal x.2) ∈
        Json.sortEntries (Json.normalEntries (fields.map fun x => (str x.1, x.2))) := by
      rw [hperm.mem_iff, Json.normalEntries_eq, List.map_map]
      exact List.mem_map.2 ⟨x, hx, rfl⟩
    unfold item
    rw [Json.lookup_of_mem hnodup hmem]
  · intro name
    unfold keys
    rw [raiseIf_ok, not_not, List.map_map]
    exact ⟨fun x hx => hkeys.mem_iff.1 hx, fun y hy => hkeys.mem_iff.2 hy⟩

@[simp] theorem string_str (s : PyStr) (name : String) : string (Json.normal (.str s)) name = .ok s := rfl

@[simp] theorem integer_int (n : Int) (name : String) : integer (Json.normal (.int n)) name = .ok n := rfl

@[simp] theorem boolean_bool (b : Bool) (message : String) : boolean (Json.normal (.bool b)) message = .ok b := rfl

theorem nullable_option {α : Type} {parse : PyValue → Except PyError α} {write : α → PyValue} {a : Option α}
    (hwrite : ∀ x ∈ a, parse (Json.normal (write x)) = .ok x) (hnone : ∀ x, Json.normal (write x) ≠ .none) :
    nullable parse (Json.normal (optionToPy write a)) = .ok a := by
  cases a with
  | none => rfl
  | some x =>
    have hx := hwrite x rfl
    have hne := hnone x
    show nullable parse (Json.normal (write x)) = _
    unfold nullable
    split
    · rename_i heq
      exact absurd heq hne
    · rw [hx]
      rfl

@[simp] theorem optional_string_option (a : Option PyStr) (name : String) :
    optional_string (Json.normal (optionToPy .str a)) name = .ok a :=
  nullable_option (fun _ _ => rfl) nofun

@[simp] theorem optional_integer_option (a : Option Int) (name : String) :
    optional_integer (Json.normal (optionToPy .int a)) name = .ok a :=
  nullable_option (fun _ _ => rfl) nofun

@[simp] theorem nullable_boolean_option (a : Option Bool) (message : String) :
    nullable (boolean · message) (Json.normal (optionToPy .bool a)) = .ok a :=
  nullable_option (fun _ _ => rfl) nofun

@[simp] theorem array_list (values : List PyValue) (name : String) :
    array (Json.normal (.list values)) name = .ok (values.map Json.normal) :=
  congrArg Except.ok (Json.normalItems_eq values)

theorem mapM_written {α : Type} {parse : PyValue → Except PyError α} {write : α → PyValue} {xs : List α}
    (hwrite : ∀ x ∈ xs, parse (Json.normal (write x)) = .ok x) :
    ((xs.map write).map Json.normal).mapM parse = .ok xs := by
  rw [mapM_ok, List.forall₂_map_left_iff, List.forall₂_map_left_iff, List.forall₂_same]
  exact hwrite

theorem parse_strings_strings {values : List PyStr} {allow_empty : Bool}
    (h : values ≠ [] ∨ allow_empty = true) (name : String) :
    parse_strings (Json.normal (strings values)) name allow_empty = .ok values := by
  have hitems : ((values.map PyValue.str).map Json.normal).mapM (string · name) = .ok values :=
    mapM_written fun _ _ => rfl
  refine bind_ok.2 ⟨_, array_list _ _, bind_ok.2 ⟨values, hitems, bind_ok.2 ⟨(), raiseIf_ok.2 ?_, rfl⟩⟩⟩
  rintro ⟨hempty, hallow⟩
  rcases h with h | h
  · exact h hempty
  · rw [h] at hallow
    cases hallow

theorem optional_strings_option {a : Option (List PyStr)} (h : a ≠ some []) (name : String) :
    optional_strings (Json.normal (optionToPy strings a)) name = .ok a := by
  refine nullable_option ?_ nofun
  intro values hvalues
  refine parse_strings_strings (Or.inl ?_) name
  rintro rfl
  exact h hvalues

@[simp] theorem optional_integers_option (a : Option (List Int)) (name : String) :
    optional_integers (Json.normal (optionToPy (fun xs => .list (xs.map .int)) a)) name = .ok a := by
  refine nullable_option ?_ nofun
  intro values _
  refine bind_ok.2 ⟨_, array_list _ _, ?_⟩
  exact mapM_written fun _ _ => rfl

@[simp] theorem parse_digest_toStr (d : Digest) : parse_digest (Json.normal (.str d.toStr)) = .ok d := by
  have hpartition : Json.partition 58 d.toStr = (str "sha256", d.value) := rfl
  have hcolon : 58 ∈ d.toStr := List.mem_append_left _ (by decide)
  unfold parse_digest
  simp only [string_str, ok_bind, hpartition]
  refine bind_ok.2 ⟨(), raiseIf_ok.2 ?_, ?_⟩
  · rintro (hmem | hne)
    · exact hmem hcolon
    · exact hne rfl
  · unfold Digest.parse
    rw [if_neg (not_not.2 rfl), dif_pos ⟨d.length_value, d.lowerHex_value⟩]

theorem enumeration_valueOf {α : Type} {members : List α} {valueOf : α → PyStr}
    (hvalues : (members.map valueOf).Nodup) {a : α} (ha : a ∈ members) :
    enumeration members valueOf (valueOf a) = .ok a := by
  unfold enumeration
  cases hfind : members.find? (valueOf · = valueOf a) with
  | none => exact absurd (decide_eq_true rfl) (List.find?_eq_none.1 hfind a ha)
  | some b =>
    have hsome := List.find?_some hfind
    have hvalue : valueOf b = valueOf a := of_decide_eq_true hsome
    have hsame : b = a := List.inj_on_of_nodup_map hvalues (List.mem_of_find?_eq_some hfind) ha hvalue
    rw [hsame]

@[simp] theorem enumeration_kind (kind : CampaignTruthKind) :
    enumeration CampaignTruthKind.all CampaignTruthKind.value kind.value = .ok kind :=
  enumeration_valueOf (by decide) (by cases kind <;> decide)

@[simp] theorem enumeration_producer_kind (kind : TruthProducerKind) :
    enumeration TruthProducerKind.all TruthProducerKind.value kind.value = .ok kind :=
  enumeration_valueOf (by decide) (by cases kind <;> decide)

@[simp] theorem enumeration_split (split : DatasetSplit) :
    enumeration DatasetSplit.all DatasetSplit.value split.value = .ok split :=
  enumeration_valueOf (by decide) (by cases split <;> decide)

/-- Checked strings that may not be empty are not empty. -/
theorem ne_nil_of_unique_tokens {values : List PyStr} {name : String}
    (h : unique_tokens values name false = .ok ()) : values ≠ [] := by
  rintro rfl
  simp [unique_tokens] at h

theorem parse_group_document (group : CampaignGroup) (index : Nat) :
    ∃ items, Json.normal (group_document group) = .dict items ∧ parse_group items index = .ok group := by
  have hok := group.ok
  simp only [CampaignGroup.Fields.post_init, checkAll_cons] at hok
  have hinjections := @parse_strings_strings group.val.injection_truth_spec_ids true (Or.inr rfl)
  have hspecs := @parse_strings_strings group.val.truth_spec_ids false
    (Or.inl (ne_nil_of_unique_tokens hok.2.2.2.1))
  obtain ⟨items, hitems, hvalues, hkeys⟩ := exists_items (v := group_document group) rfl (by simp)
  simp only [List.forall_mem_cons, List.map_cons, List.map_nil] at hvalues hkeys
  refine ⟨items, hitems, ?_⟩
  simp only [parse_group, hkeys, hvalues, ok_bind, string_str, integer_int, hinjections, hspecs,
    enumeration_split]
  exact Checked.make_ok group.ok

theorem parse_ephemeris_document (ephemeris : CampaignEphemerisInput) (name : String) :
    parse_ephemeris name (Json.normal (ephemeris_document ephemeris)) = .ok ephemeris := by
  obtain ⟨items, hitems, hvalues, hkeys⟩ := exists_items (v := ephemeris_document ephemeris) rfl (by simp)
  simp only [List.forall_mem_cons, List.map_cons, List.map_nil] at hvalues hkeys
  have hobject : object (.dict items) name = .ok items := rfl
  rw [hitems]
  simp only [parse_ephemeris, hobject, hkeys, hvalues, ok_bind, string_str, integer_int, parse_digest_toStr]
  exact Checked.make_ok ephemeris.ok

theorem parse_member_document (member : CampaignMember) (index : Nat) :
    ∃ items, Json.normal (member_document member) = .dict items ∧ parse_member items index = .ok member := by
  have hok := member.ok
  simp only [CampaignMember.Fields.post_init, checkAll_cons] at hok
  obtain ⟨_, _, _, _, _, _, _, _, _, hlnbs, _⟩ := hok
  have hlnbs := @parse_strings_strings member.val.lnb_ids false (Or.inl (ne_nil_of_unique_tokens hlnbs))
  have hephemeris : ∀ name, nullable (parse_ephemeris name)
      (Json.normal (optionToPy ephemeris_document member.val.ephemeris_input)) =
        .ok member.val.ephemeris_input := fun name =>
    nullable_option (fun e _ => parse_ephemeris_document e name) nofun
  obtain ⟨items, hitems, hvalues, hkeys⟩ := exists_items (v := member_document member) rfl (by simp)
  simp only [List.forall_mem_cons, List.map_cons, List.map_nil] at hvalues hkeys
  refine ⟨items, hitems, ?_⟩
  simp only [parse_member, hkeys, hvalues, ok_bind, string_str, integer_int, boolean_bool, parse_digest_toStr,
    optional_string_option, hlnbs, hephemeris]
  exact Checked.make_ok member.ok

theorem parse_truth_document (digest : PyStr) (spec : CampaignTruthSpec) (index : Nat) :
    ∃ items, Json.normal (truth_document digest spec) = .dict items ∧ parse_truth items index = .ok spec := by
  have hprovenance := spec.val.provenance.ok
  have hmatrix := spec.val.matrix.ok
  simp only [CampaignTruthProvenance.Fields.post_init, CampaignMatrixPoint.Fields.post_init, checkAll_cons,
    raiseIf_ok] at hprovenance hmatrix
  have hmethods := @parse_strings_strings spec.val.provenance.val.independent_of_method_ids false
    (Or.inl (ne_nil_of_unique_tokens hprovenance.2.1))
  have hconfounders := @parse_strings_strings spec.val.matrix.val.confounders true (Or.inr rfl)
  have hgains := optional_strings_option hmatrix.2.2.2.1
  obtain ⟨items, hitems, hvalues, hkeys⟩ := exists_items (v := truth_document digest spec) rfl (by simp)
  obtain ⟨provenance, hp, hpvalues, hpkeys⟩ :=
    exists_items (v := provenance_document spec.val.provenance) rfl (by simp)
  obtain ⟨matrix, hm, hmvalues, hmkeys⟩ := exists_items (v := matrix_document spec.val.matrix) rfl (by simp)
  simp only [List.forall_mem_cons, List.map_cons, List.map_nil] at hvalues hkeys hpvalues hpkeys hmvalues hmkeys
  have hobject : ∀ items name, object (.dict items) name = .ok items := fun _ _ => rfl
  have hparsed : parse_provenance provenance spec.val.provenance.val.detector_derived =
      .ok spec.val.provenance := by
    simp only [parse_provenance, hpvalues, ok_bind, string_str, integer_int, parse_digest_toStr, hmethods,
      enumeration_producer_kind]
    exact Checked.make_ok spec.val.provenance.ok
  have hparsed' : parse_matrix matrix spec.val.matrix.val.clipping = .ok spec.val.matrix := by
    simp only [parse_matrix, hmvalues, ok_bind, optional_string_option, optional_integer_option,
      optional_integers_option, hgains, hconfounders]
    exact Checked.make_ok spec.val.matrix.ok
  refine ⟨items, hitems, ?_⟩
  simp only [parse_truth, hkeys, hvalues, hp, hm, hobject, hpkeys, hmkeys, hpvalues, hmvalues, ok_bind,
    string_str, boolean_bool, nullable_boolean_option, optional_string_option, enumeration_kind, hparsed, hparsed']
  exact Checked.make_ok spec.ok

/-- The items of an array are read back one by one. -/
theorem parse_items_map {α : Type} {parse : List (PyStr × PyValue) → Nat → Except PyError α}
    {write : α → PyValue} {xs : List α}
    (hwrite : ∀ x ∈ xs, ∀ index, ∃ items, Json.normal (write x) = .dict items ∧ parse items index = .ok x)
    (name : String) : parse_items parse (Json.normal (.list (xs.map write))) name = .ok xs := by
  unfold parse_items
  rw [array_list, ok_bind, mapM_ok, List.map_map]
  generalize 0 = n
  induction xs generalizing n with
  | nil => exact .nil
  | cons x xs ih =>
    obtain ⟨items, hitems, hparse⟩ := hwrite x List.mem_cons_self n
    rw [List.map_cons, List.zipIdx_cons]
    refine .cons ?_ (ih (fun x hx => hwrite x (List.mem_cons_of_mem _ hx)) (n + 1))
    show (object (Json.normal (write x)) _ >>= fun value => parse value n) = .ok x
    rw [hitems]
    exact hparse

/-! ## The document of a campaign -/

/-- The digest that the document states of a specification. -/
def digestText (spec : CampaignTruthSpec) : PyStr :=
  match CampaignTruthSpec.digest spec with
  | .ok digest => digest.toStr
  | .error _ => []

/-- The document, with the digests of the campaign and of its specifications. -/
def documentOf (truth_specs_digest membership_digest : PyStr) (digestOf : CampaignTruthSpec → PyStr)
    (campaign : CampaignManifest) : PyValue :=
  root_document truth_specs_digest membership_digest
    (campaign.val.truth_specs.map fun spec => truth_document (digestOf spec) spec) campaign

theorem campaign_document_ok {c : CampaignManifest} {document : PyValue} :
    campaign_document c = .ok document ↔ ∃ truths members, CampaignManifest.truth_specs_digest c = .ok truths ∧
      CampaignManifest.membership_digest c = .ok members ∧
        document = documentOf truths.toStr members.toStr digestText c := by
  have hdocuments : c.val.truth_specs.mapM truthDocumentOf =
      .ok (c.val.truth_specs.map fun spec => truth_document (digestText spec) spec) := by
    rw [mapM_ok, List.forall₂_map_right_iff, List.forall₂_same]
    intro spec hspec
    obtain ⟨digest, hdigest⟩ := (CampaignManifest.valid c).spec_digests spec hspec
    unfold truthDocumentOf digestText
    rw [hdigest]
    rfl
  unfold campaign_document
  simp only [bind_ok, hdocuments]
  constructor
  · rintro ⟨truths, htruths, members, hmembers, documents, hdocs, hroot⟩
    cases hdocs
    cases hroot
    exact ⟨truths, members, htruths, hmembers, rfl⟩
  · rintro ⟨truths, members, htruths, hmembers, rfl⟩
    exact ⟨truths, htruths, members, hmembers, _, rfl, rfl⟩

/-! ### Its values -/

theorem primitive_object {fields : List (String × PyValue)} (hnames : (fields.map Prod.fst).Nodup)
    (h : ∀ x ∈ fields, Json.Primitive x.2) : Json.Primitive (.object fields) := by
  refine .dict _ ?_ ?_
  · have hmap := hnames.map fun _ _ h => str_injective h
    rw [List.map_map] at hmap ⊢
    exact hmap
  · rw [List.forall_mem_map]
    exact h

theorem primitive_strings (values : List PyStr) : Json.Primitive (strings values) := by
  refine .list _ ?_
  rw [List.forall_mem_map]
  exact fun s _ => .str s

theorem primitive_option {α : Type} {write : α → PyValue} (h : ∀ a, Json.Primitive (write a)) (a : Option α) :
    Json.Primitive (optionToPy write a) := by
  cases a with
  | none => exact .none
  | some a => exact h a

theorem primitive_truth_document (digest : PyStr) (spec : CampaignTruthSpec) :
    Json.Primitive (truth_document digest spec) := by
  have hdelays : ∀ xs : List Int, Json.Primitive (.list (xs.map .int)) := by
    intro xs
    refine .list _ ?_
    rw [List.forall_mem_map]
    exact fun n _ => .int n
  have hprovenance : Json.Primitive (provenance_document spec.val.provenance) :=
    primitive_object (by simp) (by simp [primitive_strings, Json.Primitive.str, Json.Primitive.int,
      Json.Primitive.bool])
  have hmatrix : Json.Primitive (matrix_document spec.val.matrix) :=
    primitive_object (by simp) (by simp [primitive_strings, primitive_option, Json.Primitive.str,
      Json.Primitive.int, Json.Primitive.bool, hdelays])
  exact primitive_object (by simp) (by simp [primitive_option, Json.Primitive.str, Json.Primitive.bool,
    hprovenance, hmatrix])

theorem primitive_group_document (group : CampaignGroup) : Json.Primitive (group_document group) :=
  primitive_object (by simp) (by simp [primitive_strings, Json.Primitive.str, Json.Primitive.int])

theorem primitive_member_document (member : CampaignMember) : Json.Primitive (member_document member) := by
  have hephemeris : ∀ e : CampaignEphemerisInput, Json.Primitive (ephemeris_document e) := fun e =>
    primitive_object (by simp) (by simp [Json.Primitive.str, Json.Primitive.int])
  exact primitive_object (by simp) (by simp [primitive_strings, primitive_option, Json.Primitive.str,
    Json.Primitive.int, Json.Primitive.bool, hephemeris])

theorem primitive_documentOf (truths members : PyStr) (digestOf : CampaignTruthSpec → PyStr)
    (c : CampaignManifest) : Json.Primitive (documentOf truths members digestOf c) := by
  have hlist : ∀ {α : Type} {write : α → PyValue} (xs : List α), (∀ a, Json.Primitive (write a)) →
      Json.Primitive (.list (xs.map write)) := by
    intro α write xs h
    refine .list _ ?_
    rw [List.forall_mem_map]
    exact fun a _ => h a
  exact primitive_object (by simp) (by simp [primitive_strings, Json.Primitive.str, Json.Primitive.int,
    hlist _ primitive_group_document, hlist _ primitive_member_document,
    hlist c.val.truth_specs fun spec => primitive_truth_document (digestOf spec) spec])

/-! ### Its nesting -/

theorem depth_object_le {fields : List (String × PyValue)} {n : Nat} (hn : 1 ≤ n)
    (h : ∀ x ∈ fields, Json.depth x.2 ≤ n) : Json.depth (.object fields) ≤ n + 1 := by
  refine Nat.succ_le_succ (max_le (Json.depthEntries_le.2 ?_) hn)
  rw [List.forall_mem_map]
  exact h

theorem depth_lt_object {v : PyValue} {fields : List (String × PyValue)} (hv : v = .object fields)
    {x : String × PyValue} (h : x ∈ fields) : Json.depth x.2 < Json.depth v := by
  subst hv
  refine Nat.lt_succ_of_le (le_max_of_le_left ?_)
  exact Json.depthEntries_le.1 le_rfl (str x.1, x.2) (List.mem_map.2 ⟨x, h, rfl⟩)

theorem depth_list_le {α : Type} {write : α → PyValue} {n : Nat} (h : ∀ a, Json.depth (write a) ≤ n)
    (xs : List α) : Json.depth (.list (xs.map write)) ≤ n + 1 := by
  refine Nat.succ_le_succ (Json.depthItems_le.2 ?_)
  rw [List.forall_mem_map]
  exact fun a _ => h a

theorem depth_option_le {α : Type} {write : α → PyValue} {n : Nat} (h : ∀ a, Json.depth (write a) ≤ n)
    (a : Option α) : Json.depth (optionToPy write a) ≤ n := by
  cases a with
  | none => exact Nat.zero_le n
  | some a => exact h a

theorem depth_strings_le (values : List PyStr) : Json.depth (strings values) ≤ 1 :=
  @depth_list_le PyStr .str 0 (fun _ => le_rfl) values

theorem depth_truth_document_le (digest : PyStr) (spec : CampaignTruthSpec) :
    Json.depth (truth_document digest spec) ≤ 3 := by
  have hstr : ∀ (a : Option PyStr) n, Json.depth (optionToPy .str a) ≤ n := fun a n =>
    depth_option_le (fun _ => Nat.zero_le n) a
  have hint : ∀ (a : Option Int) n, Json.depth (optionToPy .int a) ≤ n := fun a n =>
    depth_option_le (fun _ => Nat.zero_le n) a
  have hbool : ∀ (a : Option Bool) n, Json.depth (optionToPy .bool a) ≤ n := fun a n =>
    depth_option_le (fun _ => Nat.zero_le n) a
  have hdelays : ∀ a : Option (List Int), Json.depth (optionToPy (fun xs => .list (xs.map .int)) a) ≤ 1 :=
    depth_option_le fun xs => @depth_list_le Int .int 0 (fun _ => le_rfl) xs
  have hgains := depth_option_le depth_strings_le
  have hprovenance : Json.depth (provenance_document spec.val.provenance) ≤ 2 :=
    depth_object_le le_rfl (by simp [Json.depth, depth_strings_le])
  have hmatrix : Json.depth (matrix_document spec.val.matrix) ≤ 2 :=
    depth_object_le le_rfl (by simp [Json.depth, depth_strings_le, hstr, hint, hdelays, hgains])
  exact depth_object_le (by decide) (by simp [Json.depth, hstr, hbool, hprovenance, hmatrix])

theorem depth_group_document_le (group : CampaignGroup) : Json.depth (group_document group) ≤ 2 :=
  depth_object_le le_rfl (by simp [Json.depth, depth_strings_le])

theorem depth_member_document_le (member : CampaignMember) : Json.depth (member_document member) ≤ 3 := by
  have hstr : ∀ (a : Option PyStr) n, Json.depth (optionToPy .str a) ≤ n := fun a n =>
    depth_option_le (fun _ => Nat.zero_le n) a
  have hephemeris : ∀ a, Json.depth (optionToPy ephemeris_document a) ≤ 2 :=
    depth_option_le fun e => depth_object_le le_rfl (by simp [Json.depth])
  have hlnbs := (depth_strings_le member.val.lnb_ids).trans (by decide : 1 ≤ 2)
  exact depth_object_le (by decide) (by simp [Json.depth, hstr, hephemeris, hlnbs])

/-- The methods of a provenance are inside five arrays and objects, and nothing is inside more. -/
theorem depth_documentOf (truths members : PyStr) (digestOf : CampaignTruthSpec → PyStr)
    (c : CampaignManifest) : Json.depth (documentOf truths members digestOf c) = 5 := by
  refine Nat.le_antisymm ?_ ?_
  · have htruths := depth_list_le (fun spec => depth_truth_document_le (digestOf spec) spec) c.val.truth_specs
    have hgroups := (depth_list_le depth_group_document_le c.val.groups).trans (by decide : 3 ≤ 4)
    have hmembers := depth_list_le depth_member_document_le c.val.members
    have hmethods := (depth_strings_le c.val.candidate_method_ids).trans (by decide : 1 ≤ 4)
    refine depth_object_le (by decide) ?_
    simp only [List.forall_mem_cons]
    exact ⟨Nat.zero_le _, Nat.zero_le _, Nat.zero_le _, hmethods, Nat.zero_le _, Nat.zero_le _, htruths, hgroups,
      hmembers, List.forall_mem_nil _⟩
  · obtain ⟨member, hmember⟩ := List.exists_mem_of_ne_nil _ (CampaignManifest.valid c).nonempty
    obtain ⟨spec, _, hplaced⟩ := (CampaignManifest.valid c).placement hmember
    have hmethods : 0 < Json.depth (strings spec.val.provenance.val.independent_of_method_ids) := Nat.succ_pos _
    have hprovenance := depth_lt_object (v := provenance_document spec.val.provenance) rfl
      (x := ("independent_of_method_ids", strings spec.val.provenance.val.independent_of_method_ids)) (by simp)
    have htruth := depth_lt_object (v := truth_document (digestOf spec) spec) rfl
      (x := ("provenance", provenance_document spec.val.provenance)) (by simp)
    have hlist : Json.depth (truth_document (digestOf spec) spec) <
        Json.depth (.list (c.val.truth_specs.map fun spec => truth_document (digestOf spec) spec)) :=
      Nat.lt_succ_of_le (Json.depthItems_le.1 le_rfl _ (List.mem_map.2 ⟨spec, hplaced.mem_spec, rfl⟩))
    have hroot := depth_lt_object (v := documentOf truths members digestOf c) rfl
      (x := ("truth_specs", .list (c.val.truth_specs.map fun spec => truth_document (digestOf spec) spec)))
      (by simp)
    dsimp only at hprovenance htruth hroot
    omega

/-! ### Whether it can be written -/

/-- The strings of a group. -/
def CampaignGroup.texts (g : CampaignGroup) : List PyStr :=
  [g.val.group_id, g.val.base_truth_spec_id] ++ g.val.injection_truth_spec_ids ++ g.val.truth_spec_ids

/-- What `canonical_json_bytes` can write: no string with a surrogate, no number of more than 4300 digits. The
specifications were written when they were validated. -/
structure CampaignManifest.Writable (c : CampaignManifest) : Prop where
  campaign_id : Encodable c.val.campaign_id
  frozen_utc_ns : Json.ShortInt c.val.frozen_utc_ns
  candidate_method_ids : ∀ id ∈ c.val.candidate_method_ids, Encodable id
  groups : ∀ g ∈ c.val.groups, (∀ text ∈ CampaignGroup.texts g, Encodable text) ∧
    Json.ShortInt g.val.start_utc_ns ∧ Json.ShortInt g.val.stop_utc_ns
  members : ∀ m ∈ c.val.members, m.Writable

@[simp] theorem renderable_strings {values : List PyStr} :
    Json.Renderable (strings values) ↔ ∀ s ∈ values, Encodable s := by
  unfold strings
  rw [Json.renderable_list, List.forall_mem_map]
  exact forall₂_congr fun s _ => Json.renderable_str

theorem renderable_of_digest {v : PyValue} {digest : Digest} (h : canonicalDigest v = .ok digest) :
    Json.Renderable v := by
  obtain ⟨bytes, hbytes, _⟩ := map_ok h
  obtain ⟨text, htext, _⟩ := Json.canonicalJsonBytes_iff.1 hbytes
  exact ⟨text, htext⟩

theorem renderable_truth_document {digest : Digest} {spec : CampaignTruthSpec}
    (h : CampaignTruthSpec.digest spec = .ok digest) (d : Digest) :
    Json.Renderable (truth_document d.toStr spec) := by
  have hspec := renderable_of_digest h
  have hdigest := encodable_toStr d
  have hartifact := encodable_toStr spec.val.provenance.val.producer_artifact_digest
  have hevidence := encodable_toStr spec.val.provenance.val.evidence_digest
  have hpolicy := encodable_toStr spec.val.provenance.val.selection_policy_digest
  simp only [CampaignTruthSpec.toPy, CampaignTruthProvenance.toPy, CampaignMatrixPoint.toPy,
    Json.renderable_dataclass, Json.renderable_tuple, Json.renderable_str, Json.renderable_int,
    Json.renderable_bool, renderable_option, renderable_digest, List.forall_mem_cons, List.forall_mem_map,
    List.not_mem_nil, false_implies, implies_true, and_true, true_and] at hspec
  simp only [truth_document, provenance_document, matrix_document, Json.renderable_object,
    Json.renderable_list, renderable_strings, Json.renderable_str, Json.renderable_int, Json.renderable_bool,
    renderable_option, List.forall_mem_cons, List.forall_mem_map, List.not_mem_nil, false_implies, implies_true,
    and_true, true_and]
  tauto

theorem exists_truth_specs_digest (c : CampaignManifest) :
    ∃ digest, CampaignManifest.truth_specs_digest c = .ok digest := by
  have hrows : c.val.truth_specs.mapM (fun spec => (CampaignTruthSpec.digest spec).map fun digest =>
      PyValue.tuple [.str spec.val.truth_spec_id, .str digest.toStr]) =
        .ok (c.val.truth_specs.map fun spec => .tuple [.str spec.val.truth_spec_id, .str (digestText spec)]) := by
    rw [mapM_ok, List.forall₂_map_right_iff, List.forall₂_same]
    intro spec hspec
    obtain ⟨digest, hdigest⟩ := (CampaignManifest.valid c).spec_digests spec hspec
    unfold digestText
    rw [hdigest]
    rfl
  unfold CampaignManifest.truth_specs_digest
  rw [hrows, ok_bind, exists_canonicalDigest_iff (PyValue.valid_tuple (List.forall_mem_map.2 fun spec _ =>
    PyValue.valid_tuple (by simp [PyValue.Valid]))), Json.renderable_tuple, List.forall_mem_map]
  intro spec hspec
  obtain ⟨digest, hdigest⟩ := (CampaignManifest.valid c).spec_digests spec hspec
  have hrow := renderable_of_digest hdigest
  simp only [CampaignTruthSpec.toPy, Json.renderable_dataclass, List.forall_mem_cons] at hrow
  have htext : digestText spec = digest.toStr := by
    unfold digestText
    rw [hdigest]
  have hstr := Json.renderable_str.2 (encodable_toStr digest)
  rw [htext]
  simp only [Json.renderable_tuple, List.forall_mem_cons]
  exact ⟨hrow.1, hstr, List.forall_mem_nil _⟩

theorem renderable_group_document (g : CampaignGroup) : Json.Renderable (group_document g) ↔
    (∀ text ∈ CampaignGroup.texts g, Encodable text) ∧ Json.ShortInt g.val.start_utc_ns ∧
      Json.ShortInt g.val.stop_utc_ns := by
  have hpartition : Encodable g.val.partition.value := by
    cases g.val.partition <;> exact Json.encodable_literal _
  unfold group_document CampaignGroup.texts
  simp only [Json.renderable_object, renderable_strings, Json.renderable_str, Json.renderable_int,
    List.forall_mem_cons, List.forall_mem_append, List.not_mem_nil, false_implies, implies_true, and_true]
  tauto

theorem renderable_member_document (m : CampaignMember) : Json.Renderable (member_document m) ↔ m.Writable := by
  have hdigests : ∀ e : CampaignEphemerisInput, Json.Renderable (ephemeris_document e) ↔
      Json.ShortInt e.val.available_utc_ns := by
    intro e
    rw [← renderable_ephemeris]
    have hsnapshot := encodable_toStr e.val.snapshot_digest
    have hprovenance := encodable_toStr e.val.provenance_digest
    have hselection := encodable_toStr e.val.selection_policy_digest
    simp only [ephemeris_document, CampaignEphemerisInput.toPy, Json.renderable_object,
      Json.renderable_dataclass, List.forall_mem_cons, renderable_digest, Json.renderable_str,
      Json.renderable_int, List.not_mem_nil, false_implies, implies_true, and_true, true_and]
    tauto
  rw [← renderable_identity]
  simp only [member_document, CampaignMember.identity, Json.renderable_object, List.forall_mem_cons,
    List.forall_mem_map, renderable_strings, Json.renderable_str, Json.renderable_int, Json.renderable_tuple,
    Json.renderable_bool, renderable_option, hdigests, renderable_ephemeris]

/-- The document is written exactly if the campaign can be. -/
theorem exists_encode_iff (c : CampaignManifest) :
    (∃ data, encode_campaign c = .ok data) ↔ CampaignManifest.Writable c := by
  have hrenderable : ∀ truths members : Digest,
      Json.Renderable (documentOf truths.toStr members.toStr digestText c) ↔ CampaignManifest.Writable c := by
    intro truths members
    have htruths := encodable_toStr truths
    have hmembers := encodable_toStr members
    have hschema : Encodable CAMPAIGN_SCHEMA := Json.encodable_literal _
    have hspecs : ∀ spec ∈ c.val.truth_specs, Json.Renderable (truth_document (digestText spec) spec) := by
      intro spec hspec
      obtain ⟨digest, hdigest⟩ := (CampaignManifest.valid c).spec_digests spec hspec
      have htext : digestText spec = digest.toStr := by
        unfold digestText
        rw [hdigest]
      rw [htext]
      exact renderable_truth_document hdigest digest
    unfold documentOf root_document
    simp only [Json.renderable_object, Json.renderable_list, renderable_strings, Json.renderable_str,
      Json.renderable_int, List.forall_mem_cons, List.forall_mem_map, renderable_group_document,
      renderable_member_document, List.not_mem_nil, false_implies, implies_true, and_true]
    constructor
    · rintro ⟨_, hid, hfrozen, hmethods, _, _, _, hgroups, hall⟩
      exact ⟨hid, hfrozen, hmethods, hgroups, hall⟩
    · rintro ⟨hid, hfrozen, hmethods, hgroups, hall⟩
      exact ⟨hschema, hid, hfrozen, hmethods, htruths, hmembers, hspecs, hgroups, hall⟩
  constructor
  · rintro ⟨data, hdata⟩
    obtain ⟨document, hdocument, hbytes⟩ := bind_ok.1 hdata
    obtain ⟨truths, members, _, _, rfl⟩ := campaign_document_ok.1 hdocument
    obtain ⟨text, htext, _⟩ := Json.canonicalJsonBytes_iff.1 hbytes
    exact (hrenderable truths members).1 ⟨text, htext⟩
  · intro hwritable
    obtain ⟨truths, htruths⟩ := exists_truth_specs_digest c
    obtain ⟨members, hmembers⟩ := (exists_membership_digest_iff c).2 hwritable.members
    obtain ⟨data, hdata⟩ := (Json.exists_canonicalJsonBytes_iff (primitive_documentOf _ _ _ c).valid).2
      ((hrenderable truths members).2 hwritable)
    exact ⟨data, bind_ok.2 ⟨_, campaign_document_ok.2 ⟨truths, members, htruths, hmembers, rfl⟩, hdata⟩⟩

/-! ### Its length -/

/-- Seventy-one characters, as many as a digest takes. -/
def anyDigest : PyStr := List.replicate 71 48

/-- The length of the document of a campaign, which does not depend on its digests. -/
def CampaignManifest.documentLength (c : CampaignManifest) : Nat :=
  Json.size (documentOf anyDigest anyDigest (fun _ => anyDigest) c)

theorem byteLength_quote {s : PyStr} (h : ∀ c ∈ s, 32 ≤ c ∧ c < 0x80 ∧ c ≠ 34 ∧ c ≠ 92) :
    Json.byteLength (Json.quote s) = s.length + 2 := by
  have hchars : Json.byteLength (s.flatMap Json.escapeChar) = s.length := by
    induction s with
    | nil => rfl
    | cons c s ih =>
      obtain ⟨hlow, hhigh, hquote, hslash⟩ := h c List.mem_cons_self
      have hescape : Json.escapeChar c = [c] := by
        unfold Json.escapeChar
        rw [if_neg hquote, if_neg hslash, if_neg (by omega), if_neg (by omega), if_neg (by omega),
          if_neg (by omega), if_neg (by omega), if_neg (by omega)]
      rw [List.flatMap_cons, hescape, List.singleton_append, Json.byteLength_cons hhigh,
        ih fun c hc => h c (List.mem_cons_of_mem _ hc), List.length_cons, Nat.add_comm]
  have hnil : Json.byteLength [] = 0 := rfl
  unfold Json.quote
  rw [Json.byteLength_cons (by decide), Json.byteLength_append, hchars, Json.byteLength_cons (by decide), hnil]
  omega

theorem size_digest (d : Digest) : Json.size (.str d.toStr) = Json.size (.str anyDigest) := by
  have hplain : ∀ c ∈ d.toStr, 32 ≤ c ∧ c < 0x80 ∧ c ≠ 34 ∧ c ≠ 92 := by
    intro c hc
    rcases List.mem_append.1 hc with hc | hc
    · exact (by decide : ∀ c ∈ str "sha256:", 32 ≤ c ∧ c < 0x80 ∧ c ≠ 34 ∧ c ≠ 92) c hc
    · have hhex := d.lowerHex_value c hc
      omega
  have hlength : d.toStr.length = 71 := by
    unfold Digest.toStr
    rw [List.length_append, d.length_value]
    rfl
  show Json.byteLength (Json.quote d.toStr) = Json.byteLength (Json.quote anyDigest)
  rw [byteLength_quote hplain, hlength, byteLength_quote (by decide)]
  rfl

theorem size_documentOf (truths members : Digest) (c : CampaignManifest) :
    Json.size (documentOf truths.toStr members.toStr digestText c) = CampaignManifest.documentLength c := by
  have hspecs : (c.val.truth_specs.map fun spec => truth_document (digestText spec) spec).map Json.size =
      (c.val.truth_specs.map fun spec => truth_document anyDigest spec).map Json.size := by
    rw [List.map_map, List.map_map]
    refine List.map_congr_left ?_
    intro spec hspec
    obtain ⟨digest, hdigest⟩ := (CampaignManifest.valid c).spec_digests spec hspec
    have htext : digestText spec = digest.toStr := by
      unfold digestText
      rw [hdigest]
    show Json.size (truth_document (digestText spec) spec) = Json.size (truth_document anyDigest spec)
    have hsize := size_digest digest
    rw [htext]
    simp only [truth_document, PyValue.object, List.map_cons, Json.size, Json.sizeEntries] at hsize ⊢
    rw [hsize]
  have hitems : ∀ {xs ys : List PyValue}, xs.map Json.size = ys.map Json.size →
      Json.sizeItems xs = Json.sizeItems ys := by
    intro xs ys h
    have hmap : ∀ zs : List PyValue, Json.sizeItems zs = ((zs.map Json.size).map (· + 1)).sum := by
      intro zs
      rw [Json.sizeItems_eq, List.map_map]
      rfl
    rw [hmap, hmap, h]
  have htruths := size_digest truths
  have hmembers := size_digest members
  simp only [CampaignManifest.documentLength, documentOf, root_document, PyValue.object, List.map_cons, Json.size,
    Json.sizeEntries, hitems hspecs] at htruths hmembers ⊢
  rw [htruths, hmembers]

/-! ## The round trip -/

theorem parse_campaign_document (truths members : PyStr) (c : CampaignManifest) :
    ∃ items, Json.normal (documentOf truths members digestText c) = .dict items ∧
      parse_campaign items = .ok c ∧ item items "truth_specs_digest" = .ok (.str truths) ∧
        item items "membership_digest" = .ok (.str members) := by
  have hok := c.ok
  simp only [CampaignManifest.Fields.post_init, checkAll_cons] at hok
  have hmethods := @parse_strings_strings c.val.candidate_method_ids false
    (Or.inl (ne_nil_of_unique_tokens hok.2.2.1))
  have htruths := @parse_items_map _ parse_truth (fun spec => truth_document (digestText spec) spec)
    c.val.truth_specs fun spec _ => parse_truth_document (digestText spec) spec
  have hgroups := @parse_items_map _ parse_group group_document c.val.groups fun group _ =>
    parse_group_document group
  have hmembers := @parse_items_map _ parse_member member_document c.val.members fun member _ =>
    parse_member_document member
  have hcampaign : Checked.make CampaignManifest.Fields.post_init c.val = .ok c := Checked.make_ok c.ok
  -- every specification has the digest that its document states
  have hdigests : ∃ units, ((((c.val.truth_specs.map fun spec => truth_document (digestText spec) spec).map
      Json.normal).zip c.val.truth_specs).zipIdx.mapM check_digest) = .ok units := by
    refine exists_mapM_ok ?_
    rintro ⟨x, index⟩ hmem
    have hmem := List.mem_of_getElem? (List.mem_zipIdx_iff_getElem?.1 hmem)
    have hzip := @List.zip_map' _ _ _ (fun spec => Json.normal (truth_document (digestText spec) spec)) id
      c.val.truth_specs
    rw [List.map_id] at hzip
    rw [List.map_map] at hmem
    obtain ⟨spec, hspec, rfl⟩ := List.mem_map.1 (hzip ▸ hmem)
    obtain ⟨digest, hdigest⟩ := (CampaignManifest.valid c).spec_digests spec hspec
    have htext : digestText spec = digest.toStr := by
      unfold digestText
      rw [hdigest]
    obtain ⟨items, hitems, hvalues, _⟩ := exists_items (v := truth_document (digestText spec) spec) rfl (by simp)
    simp only [List.forall_mem_cons] at hvalues
    refine ⟨(), bind_ok.2 ⟨items, by rw [hitems]; rfl, bind_ok.2 ⟨_, hvalues.2.1, ?_⟩⟩⟩
    rw [htext, parse_digest_toStr]
    exact bind_ok.2 ⟨digest, rfl, bind_ok.2 ⟨digest, hdigest, raiseIf_ok.2 (not_not.2 rfl)⟩⟩
  obtain ⟨items, hitems, hvalues, hkeys⟩ := exists_items (v := documentOf truths members digestText c) rfl (by simp)
  simp only [List.forall_mem_cons, List.map_cons, List.map_nil] at hvalues hkeys
  refine ⟨items, hitems, ?_, hvalues.2.2.2.2.1, hvalues.2.2.2.2.2.1⟩
  obtain ⟨units, hunits⟩ := hdigests
  have hschema : raiseIf (PyValue.eq (Json.normal (.str CAMPAIGN_SCHEMA)) (.str CAMPAIGN_SCHEMA) = false)
      (bad "unsupported campaign schema") = .ok () := by
    refine raiseIf_ok.2 ?_
    rw [show Json.normal (.str CAMPAIGN_SCHEMA) = .str CAMPAIGN_SCHEMA from rfl, PyValue.eq, decide_eq_true rfl]
    exact Bool.noConfusion
  simp only [parse_campaign, hkeys, hvalues, ok_bind, hschema, htruths, hgroups, hmembers, string_str, integer_int,
    hmethods, hcampaign, array_list, hunits]
  rfl

/-- A written document is read as its campaign where it is short enough and there is room for its nesting. -/
theorem decode_encode {c : CampaignManifest} {data : Bytes} (h : encode_campaign c = .ok data) {limit : Nat} :
    decode_campaign limit data = .ok c ↔
      CampaignManifest.documentLength c ≤ MAX_CAMPAIGN_BYTES ∧ 5 ≤ limit := by
  obtain ⟨document, hdocument, hbytes⟩ := bind_ok.1 h
  obtain ⟨truths, members, htruths, hmembers, rfl⟩ := campaign_document_ok.1 hdocument
  have hprimitive := primitive_documentOf truths.toStr members.toStr digestText c
  have hlength := Json.length_canonicalJsonBytes hprimitive hbytes
  rw [size_documentOf] at hlength
  obtain ⟨items, hitems, hcampaign, htruths_item, hmembers_item⟩ :=
    parse_campaign_document truths.toStr members.toStr c
  have hdepth : Json.depth (Json.normal (documentOf truths.toStr members.toStr digestText c)) = 5 := by
    rw [Json.depth_normal, depth_documentOf]
  have hhook := Json.keepsDistinct_uniqueHook (bad "duplicate JSON key")
  unfold decode_campaign
  rw [hlength]
  split
  · exact iff_of_false nofun fun h => absurd h.1 (by omega)
  by_cases hlimit : 5 ≤ limit
  · have hloads := Json.loadsHooked_canonical hprimitive.valid hbytes hprimitive.primitive_eq hhook
      (hdepth.trans_le hlimit)
    have hread : decode_document limit data = .ok c := by
      have hobject : object (.dict items) "root" = .ok items := rfl
      unfold decode_document
      rw [hloads, ok_bind, hitems, hobject, ok_bind, hcampaign, ok_bind, htruths_item, ok_bind]
      have htruths_digest : parse_digest (.str truths.toStr) = .ok truths := parse_digest_toStr truths
      have hmembers_digest : parse_digest (.str members.toStr) = .ok members := parse_digest_toStr members
      rw [htruths_digest, ok_bind, hmembers_item, ok_bind, hmembers_digest, ok_bind, htruths, ok_bind]
      refine bind_ok.2 ⟨(), raiseIf_ok.2 (not_not.2 rfl), ?_⟩
      rw [hmembers, ok_bind]
      exact bind_ok.2 ⟨(), raiseIf_ok.2 (not_not.2 rfl), rfl⟩
    rw [hread]
    exact iff_of_true rfl ⟨by omega, hlimit⟩
  · refine iff_of_false ?_ fun h => hlimit h.2
    have hnesting := Json.nesting_canonical hprimitive.valid hbytes hprimitive.primitive_eq hhook
    have hread : decode_document limit data = .error ⟨.recursion_error, "maximum recursion depth exceeded"⟩ := by
      unfold decode_document
      rw [Json.loadsHooked_of_limit_lt (by omega)]
      rfl
    rw [hread]
    nofun

/-! ## Malformed data -/

section

theorem malformed_bad {message : String} : IsMalformed (bad message).kind := by
  unfold bad
  exact (by decide : IsMalformed .campaign_validation_error)

theorem malformed_value {message : String} : IsMalformed (PyError.value message).kind := by
  unfold PyError.value
  exact (by decide : IsMalformed .value_error)

theorem malformed_key {key : String} : IsMalformed (PyError.mk .key_error key).kind :=
  (by decide : IsMalformed .key_error)

theorem malformed_object (value : PyValue) (name : String) : RaisesOnly IsMalformed (object value name) := by
  unfold object
  split
  · exact raisesOnly_ok _
  · exact raisesOnly_error malformed_bad

theorem malformed_array (value : PyValue) (name : String) : RaisesOnly IsMalformed (array value name) := by
  unfold array
  split
  · exact raisesOnly_ok _
  · exact raisesOnly_error malformed_bad

theorem malformed_item (value : List (PyStr × PyValue)) (key : String) :
    RaisesOnly IsMalformed (item value key) := by
  unfold item
  split
  · exact raisesOnly_ok _
  · exact raisesOnly_error malformed_key

theorem malformed_string (value : PyValue) (name : String) : RaisesOnly IsMalformed (string value name) := by
  unfold string
  split
  · exact raisesOnly_ok _
  · exact raisesOnly_error malformed_bad

theorem malformed_integer (value : PyValue) (name : String) : RaisesOnly IsMalformed (integer value name) := by
  unfold integer
  split
  · exact raisesOnly_ok _
  · exact raisesOnly_error malformed_bad

theorem malformed_boolean (value : PyValue) (message : String) : RaisesOnly IsMalformed (boolean value message) := by
  unfold boolean
  split
  · exact raisesOnly_ok _
  · exact raisesOnly_error malformed_bad

theorem malformed_nullable {α : Type} {parse : PyValue → Except PyError α}
    (h : ∀ v, RaisesOnly IsMalformed (parse v)) (value : PyValue) : RaisesOnly IsMalformed (nullable parse value) := by
  unfold nullable
  split
  · exact raisesOnly_ok _
  · exact raisesOnly_map (h _)

theorem malformed_enumeration {α : Type} (members : List α) (valueOf : α → PyStr) (value : PyStr) :
    RaisesOnly IsMalformed (enumeration members valueOf value) := by
  unfold enumeration
  split
  · exact raisesOnly_ok _
  · exact raisesOnly_error malformed_value

theorem malformed_digest (value : PyStr) : RaisesOnly IsMalformed (Digest.parse (str "sha256") value) := by
  unfold Digest.parse
  split
  · exact raisesOnly_error malformed_value
  · split
    · exact raisesOnly_ok _
    · exact raisesOnly_error malformed_value

theorem malformed_canonicalDigest (v : PyValue) : RaisesOnly IsMalformed (canonicalDigest v) := by
  intro e he
  have hkind := raisesOnly_map (Json.raisesOnly_canonicalJsonBytes v) e he
  unfold Json.IsEncodingError at hkind
  rcases hkind with hkind | hkind | hkind <;> rw [hkind] <;> decide

attribute [local simp] raisesOnly_ok raisesOnly_bind raisesOnly_map raisesOnly_mapM raisesOnly_raiseIf
  raisesOnly_checkAll Checked.raisesOnly_make malformed_bad malformed_object malformed_array malformed_item
  malformed_string malformed_integer malformed_boolean malformed_nullable malformed_enumeration malformed_digest
  malformed_canonicalDigest

@[local simp] theorem malformed_parse_strings (value : PyValue) (name : String) (allow_empty : Bool) :
    RaisesOnly IsMalformed (parse_strings value name allow_empty) := by
  simp [parse_strings, -bind_pure_comp, pure, Except.pure]

@[local simp] theorem malformed_optional_string (value : PyValue) (name : String) :
    RaisesOnly IsMalformed (optional_string value name) := by
  simp [optional_string]

@[local simp] theorem malformed_optional_integer (value : PyValue) (name : String) :
    RaisesOnly IsMalformed (optional_integer value name) := by
  simp [optional_integer]

@[local simp] theorem malformed_optional_strings (value : PyValue) (name : String) :
    RaisesOnly IsMalformed (optional_strings value name) := by
  simp [optional_strings]

@[local simp] theorem malformed_optional_integers (value : PyValue) (name : String) :
    RaisesOnly IsMalformed (optional_integers value name) := by
  simp [optional_integers, integers]

@[local simp] theorem malformed_parse_digest (value : PyValue) : RaisesOnly IsMalformed (parse_digest value) := by
  simp [parse_digest]

@[local simp] theorem malformed_token (value : PyStr) (name : String) : RaisesOnly IsMalformed (token value name) := by
  simp [token]

@[local simp] theorem malformed_decimal (value : PyStr) (name : String) :
    RaisesOnly IsMalformed (decimal value name) := by
  simp [decimal]

theorem malformed_optional {α : Type} {check : α → Except PyError Unit}
    (h : ∀ a, RaisesOnly IsMalformed (check a)) (value : Option α) :
    RaisesOnly IsMalformed (optional check value) := by
  cases value with
  | none => exact raisesOnly_ok ()
  | some a => exact h a

@[local simp] theorem malformed_unique_tokens (values : List PyStr) (name : String) (allow_empty : Bool) :
    RaisesOnly IsMalformed (unique_tokens values name allow_empty) := by
  simp [unique_tokens]

@[local simp] theorem malformed_matrix (m : CampaignMatrixPoint.Fields) : RaisesOnly IsMalformed m.post_init := by
  have hgains := fun gains : List PyStr =>
    @raisesOnly_checkAll (gains.map (decimal · "receiver_gain_db")) IsMalformed (by simp)
  refine raisesOnly_checkAll ?_
  simp [malformed_optional, optional_token, hgains]

@[local simp] theorem malformed_provenance (p : CampaignTruthProvenance.Fields) :
    RaisesOnly IsMalformed p.post_init := by
  simp [CampaignTruthProvenance.Fields.post_init, non_negative_int]

@[local simp] theorem malformed_spec (s : CampaignTruthSpec.Fields) : RaisesOnly IsMalformed s.post_init := by
  refine raisesOnly_checkAll ?_
  simp [malformed_optional, optional_token]

@[local simp] theorem malformed_group (g : CampaignGroup.Fields) : RaisesOnly IsMalformed g.post_init := by
  refine raisesOnly_checkAll ?_
  simp [non_negative_int]

@[local simp] theorem malformed_ephemeris (e : CampaignEphemerisInput.Fields) :
    RaisesOnly IsMalformed e.post_init := by
  refine raisesOnly_checkAll ?_
  simp [non_negative_int]

@[local simp] theorem malformed_member (m : CampaignMember.Fields) : RaisesOnly IsMalformed m.post_init := by
  refine raisesOnly_checkAll ?_
  simp [malformed_optional, optional_token, non_negative_int]

@[local simp] theorem malformed_spec_digest (spec : CampaignTruthSpec) :
    RaisesOnly IsMalformed (CampaignTruthSpec.digest spec) := malformed_canonicalDigest _

theorem malformed_checkSpec (c : CampaignManifest.Fields) (spec : CampaignTruthSpec) :
    RaisesOnly IsMalformed (c.checkSpec spec) := by
  refine raisesOnly_checkAll ?_
  simp only [List.forall_mem_cons, List.not_mem_nil, false_implies, implies_true, and_true]
  refine ⟨raisesOnly_raiseIf malformed_bad, ?_⟩
  split
  · exact raisesOnly_error malformed_key
  · exact raisesOnly_error malformed_bad
  · exact raisesOnly_checkAll (by simp)

theorem malformed_checkInjection (c : CampaignManifest.Fields) (group : CampaignGroup) (base_recording : PyStr)
    (spec : CampaignTruthSpec) : RaisesOnly IsMalformed (c.checkInjection group base_recording spec) := by
  refine raisesOnly_checkAll ?_
  simp only [List.forall_mem_cons, List.not_mem_nil, false_implies, implies_true, and_true]
  refine ⟨raisesOnly_raiseIf malformed_bad, ?_⟩
  split
  · exact raisesOnly_error malformed_key
  · exact raisesOnly_raiseIf malformed_bad

theorem malformed_checkUnderived (c : CampaignManifest.Fields) (spec : CampaignTruthSpec) :
    RaisesOnly IsMalformed (c.checkUnderived spec) := by
  unfold CampaignManifest.Fields.checkUnderived
  split
  · exact raisesOnly_error malformed_key
  · exact raisesOnly_raiseIf malformed_bad

theorem malformed_checkGroup (c : CampaignManifest.Fields) (group : CampaignGroup) :
    RaisesOnly IsMalformed (c.checkGroup group) := by
  refine raisesOnly_checkAll ?_
  simp only [List.forall_mem_cons, List.not_mem_nil, false_implies, implies_true, and_true]
  refine ⟨raisesOnly_raiseIf malformed_bad, raisesOnly_raiseIf malformed_bad, raisesOnly_raiseIf malformed_bad,
    ?_, ?_⟩
  · split
    · exact raisesOnly_error malformed_key
    · exact raisesOnly_checkAll (List.forall_mem_map.2 fun spec _ => malformed_checkInjection c group _ spec)
  · exact raisesOnly_checkAll (List.forall_mem_map.2 fun spec _ => malformed_checkUnderived c spec)

@[local simp] theorem malformed_checkClosure (c : CampaignManifest.Fields) : RaisesOnly IsMalformed c.checkClosure := by
  have hspecs := @raisesOnly_checkAll (c.truth_specs.map c.checkSpec) IsMalformed
    (List.forall_mem_map.2 fun spec _ => malformed_checkSpec c spec)
  have hgroups := @raisesOnly_checkAll (c.groups.map c.checkGroup) IsMalformed
    (List.forall_mem_map.2 fun group _ => malformed_checkGroup c group)
  refine raisesOnly_checkAll ?_
  simp only [List.forall_mem_cons, unique, raisesOnly_raiseIf, malformed_bad, hspecs, hgroups, true_and]
  exact List.forall_mem_nil _

@[local simp] theorem malformed_manifest (c : CampaignManifest.Fields) : RaisesOnly IsMalformed c.post_init := by
  have hvalidate : RaisesOnly IsMalformed c.validate_campaign := by
    simp [CampaignManifest.Fields.validate_campaign, unique]
  refine raisesOnly_checkAll ?_
  simp [non_negative_int, hvalidate]

@[local simp] theorem malformed_parse_provenance (value : List (PyStr × PyValue)) (b : Bool) :
    RaisesOnly IsMalformed (parse_provenance value b) := by
  simp [parse_provenance]

@[local simp] theorem malformed_parse_matrix (value : List (PyStr × PyValue)) (b : Bool) :
    RaisesOnly IsMalformed (parse_matrix value b) := by
  simp [parse_matrix]

theorem malformed_parse_truth (value : List (PyStr × PyValue)) (index : Nat) :
    RaisesOnly IsMalformed (parse_truth value index) := by
  simp [parse_truth, keys]

theorem malformed_parse_group (value : List (PyStr × PyValue)) (index : Nat) :
    RaisesOnly IsMalformed (parse_group value index) := by
  simp [parse_group, keys]

@[local simp] theorem malformed_parse_ephemeris (name : String) (value : PyValue) :
    RaisesOnly IsMalformed (parse_ephemeris name value) := by
  simp [parse_ephemeris, keys]

theorem malformed_parse_member (value : List (PyStr × PyValue)) (index : Nat) :
    RaisesOnly IsMalformed (parse_member value index) := by
  simp [parse_member, keys]

theorem malformed_parse_items {α : Type} {parse : List (PyStr × PyValue) → Nat → Except PyError α}
    (h : ∀ value index, RaisesOnly IsMalformed (parse value index)) (values : PyValue) (name : String) :
    RaisesOnly IsMalformed (parse_items parse values name) := by
  simp [parse_items, h]

theorem malformed_check_digest (x : (PyValue × CampaignTruthSpec) × Nat) :
    RaisesOnly IsMalformed (check_digest x) := by
  simp [check_digest]

@[local simp] theorem malformed_parse_campaign (root : List (PyStr × PyValue)) :
    RaisesOnly IsMalformed (parse_campaign root) := by
  simp [parse_campaign, keys, malformed_parse_items, malformed_parse_truth, malformed_parse_group,
    malformed_parse_member, malformed_check_digest, -bind_pure_comp, pure, Except.pure]

/-- Where the scan has room, malformed data is all that is reported. -/
theorem malformed_decode_document {limit : Nat} {data : Bytes}
    (h : Json.nesting (Json.uniqueHook (bad "duplicate JSON key")) data ≤ limit) :
    RaisesOnly IsMalformed (decode_document limit data) := by
  have hhook : ∀ pairs, RaisesOnly IsMalformed (Json.uniqueHook (bad "duplicate JSON key") pairs) := by
    intro pairs
    unfold Json.uniqueHook
    split
    · exact raisesOnly_ok _
    · exact raisesOnly_error malformed_bad
  have hloads : RaisesOnly IsMalformed (Json.loadsHooked (Json.uniqueHook (bad "duplicate JSON key")) limit data) :=
    Json.raisesOnly_loadsHooked (fun k hk => Or.inr (Or.inr hk)) hhook h
  have htruths : ∀ c : CampaignManifest, RaisesOnly IsMalformed (CampaignManifest.truth_specs_digest c) := by
    intro c
    simp [CampaignManifest.truth_specs_digest]
  have hmembers : ∀ c : CampaignManifest, RaisesOnly IsMalformed (CampaignManifest.membership_digest c) :=
    fun c => malformed_canonicalDigest _
  simp [decode_document, hloads, htruths, hmembers, -bind_pure_comp, pure, Except.pure]

end

/-! ## The codec -/

/-- What was encoded is decoded as the campaign it was. -/
def RoundTrips (limit : Nat) (c : CampaignManifest) : Prop :=
  ∃ data, encode_campaign c = .ok data ∧ decode_campaign limit data = .ok c

/-- The reader returns a campaign that `validate_campaign` accepts, or raises `CampaignValidationError`. -/
def ReadsSafely (limit : Nat) (data : Bytes) : Prop :=
  (∃ c, decode_campaign limit data = .ok c ∧ c.val.validate_campaign = .ok ()) ∨
    ∃ message, decode_campaign limit data = .error (bad message)

theorem eq_bad {e : PyError} (h : e.kind = .campaign_validation_error) : e = bad e.message := by
  rcases e with ⟨kind, message⟩
  cases h
  rfl

theorem readsSafely_iff {limit : Nat} {data : Bytes} : ReadsSafely limit data ↔
    MAX_CAMPAIGN_BYTES < data.length ∨
      Json.nesting (Json.uniqueHook (bad "duplicate JSON key")) data ≤ limit := by
  have hvalidated : ∀ c : CampaignManifest, c.val.validate_campaign = .ok () := by
    intro c
    have h := c.ok
    simp only [CampaignManifest.Fields.post_init, checkAll_cons] at h
    exact h.2.2.2.1
  unfold ReadsSafely decode_campaign
  split
  · rename_i hlong
    exact iff_of_true (Or.inr ⟨_, rfl⟩) (Or.inl hlong)
  rename_i hshort
  rw [or_iff_right hshort]
  by_cases hroom : Json.nesting (Json.uniqueHook (bad "duplicate JSON key")) data ≤ limit
  · refine iff_of_true ?_ hroom
    have hmalformed := malformed_decode_document hroom
    cases hread : decode_document limit data with
    | ok c => exact Or.inl ⟨c, rfl, hvalidated c⟩
    | error e =>
      refine Or.inr ?_
      dsimp only
      split
      · rename_i hkind
        exact ⟨_, congrArg Except.error (eq_bad hkind)⟩
      · rw [if_pos (hmalformed e hread)]
        exact ⟨_, rfl⟩
  · refine iff_of_false ?_ hroom
    have hread : decode_document limit data = .error ⟨.recursion_error, "maximum recursion depth exceeded"⟩ := by
      unfold decode_document
      rw [Json.loadsHooked_of_limit_lt (not_le.1 hroom)]
      rfl
    rw [hread]
    rintro (⟨c, hc, _⟩ | ⟨message, hmessage⟩)
    · cases hc
    · cases hmessage

/-- A campaign is read back exactly if it can be written, its document is not too long and the interpreter has
room for five nested calls; any bytes are read or refused as `CampaignValidationError` exactly if they are too
long or the interpreter has room for their nesting. -/
theorem codec_iff (limit : Nat) :
    (∀ c : CampaignManifest, RoundTrips limit c ↔ CampaignManifest.Writable c ∧
      CampaignManifest.documentLength c ≤ MAX_CAMPAIGN_BYTES ∧ 5 ≤ limit) ∧
    ∀ data : Bytes, ReadsSafely limit data ↔ MAX_CAMPAIGN_BYTES < data.length ∨
      Json.nesting (Json.uniqueHook (bad "duplicate JSON key")) data ≤ limit := by
  refine ⟨?_, fun data => readsSafely_iff⟩
  intro c
  rw [← exists_encode_iff]
  constructor
  · rintro ⟨data, hencode, hdecode⟩
    exact ⟨⟨data, hencode⟩, (decode_encode hencode).1 hdecode⟩
  · rintro ⟨⟨data, hencode⟩, hread⟩
    exact ⟨data, hencode, (decode_encode hencode).2 hread⟩

/-- A lone surrogate is never written, and a hundred thousand brackets escape as `RecursionError`. -/
theorem codec_fails : ¬RoundTrips 1000 Sample.surrogate ∧ ¬ReadsSafely 1000 (List.replicate 100000 91) := by
  constructor
  · rintro ⟨data, hencode, _⟩
    have hwritable := (exists_encode_iff Sample.surrogate).1 ⟨data, hencode⟩
    exact absurd (hwritable.members _ (List.mem_of_getLast? rfl)) (by decide +kernel)
  · rw [readsSafely_iff, Json.nesting_brackets, List.length_replicate]
    decide

end DatasetCampaign

end LeoFlow
