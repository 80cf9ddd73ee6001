import LeoFlow.Analysis.Dataset
import LeoFlow.Contracts.CanonicalJson
import LeoFlow.Core.DecimalText

/-!
# LeoFlow.Analysis.DatasetCampaign — controlled-truth dataset campaigns

`analysis/dataset/campaign.py`. A manifest is its fields together with the fact that its constructor,
`validate_campaign` included, accepts them. Integers and strings are typed, so that the `isinstance`
checks of the constructors have no place here.
-/

namespace LeoFlow

namespace DatasetCampaign

/-- `CampaignValidationError(message)` -/
def bad (message : String) : PyError := ⟨.campaign_validation_error, message⟩

/-! ## Field checks -/

/-- `_decimal` -/
def decimal (value : PyStr) (name : String) : Except PyError Unit :=
  raiseIf (DecimalText.isFinite value = false) (bad (name ++ " must be a finite decimal string"))

@[reducible] def IsToken (value : PyStr) : Prop := value ≠ [] ∧ ∀ c ∈ value, ¬IsWhitespace c

/-- `_token` -/
def token (value : PyStr) (name : String) : Except PyError Unit :=
  raiseIf (¬IsToken value) (bad (name ++ " must be a token"))

/-- A check of a value that may be `None`. -/
def optional {α : Type} (check : α → Except PyError Unit) : Option α → Except PyError Unit
  | none => .ok ()
  | some value => check value

/-- `_optional_token` -/
def optional_token (value : Option PyStr) (name : String) : Except PyError Unit :=
  optional (token · name) value

/-- `_unique_tokens` -/
def unique_tokens (values : List PyStr) (name : String) (allow_empty : Bool) : Except PyError Unit :=
  checkAll [
    raiseIf (values = [] ∧ allow_empty = false) (bad (name ++ " must be non-empty")),
    checkAll (values.map (token · name)),
    raiseIf (¬values.Nodup) (bad (name ++ " must be unique"))]

/-- `_unique` -/
def unique {α : Type} [DecidableEq α] (values : List α) (name : String) : Except PyError Unit :=
  raiseIf (values = [] ∨ ¬values.Nodup) (bad (name ++ " values must be non-empty and unique"))

/-- `_non_negative_int` -/
def non_negative_int (value : Int) (name : String) : Except PyError Unit :=
  raiseIf (value < 0) (bad (name ++ " must be a non-negative integer"))

/-! ## Truth -/

inductive CampaignTruthKind where
  | base_noise
  | digital_injection
  | controlled_rf
  | hard_null
  | confounder
deriving DecidableEq

def CampaignTruthKind.value : CampaignTruthKind → PyStr
  | base_noise => str "base_noise"
  | digital_injection => str "digital_injection"
  | controlled_rf => str "controlled_rf"
  | hard_null => str "hard_null"
  | confounder => str "confounder"

inductive TruthProducerKind where
  | independent_generator
  | controlled_instrument
  | score_blind_selection
  | independent_characterization
deriving DecidableEq

def TruthProducerKind.value : TruthProducerKind → PyStr
  | independent_generator => str "independent_generator"
  | controlled_instrument => str "controlled_instrument"
  | score_blind_selection => str "score_blind_selection"
  | independent_characterization => str "independent_characterization"

structure CampaignMatrixPoint.Fields where
  snr_db : Option PyStr
  frequency_offset_hz : Option Int
  drift_hz_s : Option PyStr
  receiver_delay_samples : Option (List Int)
  receiver_gain_db : Option (List PyStr)
  clipping : Bool
  clip_min : Option Int
  clip_max : Option Int
  null_class : Option PyStr
  confounders : List PyStr
deriving DecidableEq

def CampaignMatrixPoint.Fields.post_init (m : CampaignMatrixPoint.Fields) : Except PyError Unit :=
  checkAll [
    optional (decimal · "snr_db") m.snr_db,
    optional (decimal · "drift_hz_s") m.drift_hz_s,
    raiseIf (m.receiver_delay_samples = some []) (bad "receiver_delay_samples must be non-empty integers"),
    raiseIf (m.receiver_gain_db = some []) (bad "receiver_gain_db must be non-empty"),
    optional (fun gains => checkAll (gains.map (decimal · "receiver_gain_db"))) m.receiver_gain_db,
    raiseIf (∃ delays ∈ m.receiver_delay_samples, ∃ gains ∈ m.receiver_gain_db,
      delays.length ≠ gains.length) (bad "receiver delay and gain vectors must have equal length"),
    raiseIf (m.clip_min.isNone ≠ m.clip_max.isNone) (bad "clipping limits must be a pair"),
    raiseIf (m.clipping = true ∧ (m.clip_min = none ∨ m.clip_max = none))
      (bad "clipped points require exact limits"),
    raiseIf (m.clipping = false ∧ (m.clip_min ≠ none ∨ m.clip_max ≠ none))
      (bad "unclipped points cannot carry limits"),
    raiseIf (∃ low ∈ m.clip_min, ∃ high ∈ m.clip_max, high ≤ low) (bad "clip_min must be below clip_max"),
    optional_token m.null_class "null_class",
    unique_tokens m.confounders "confounders" true]

abbrev CampaignMatrixPoint := Checked CampaignMatrixPoint.Fields.post_init

structure CampaignTruthProvenance.Fields where
  producer_id : PyStr
  producer_kind : TruthProducerKind
  producer_artifact_digest : Digest
  evidence_digest : Digest
  selection_policy_digest : Digest
  produced_utc_ns : Int
  independent_of_method_ids : List PyStr
  detector_derived : Bool
deriving DecidableEq

def CampaignTruthProvenance.Fields.post_init (p : CampaignTruthProvenance.Fields) : Except PyError Unit :=
  checkAll [
    token p.producer_id "producer_id",
    unique_tokens p.independent_of_method_ids "independent_of_method_ids" false,
    non_negative_int p.produced_utc_ns "produced_utc_ns",
    raiseIf (p.detector_derived = true) (bad "detector-derived labels are forbidden")]

abbrev CampaignTruthProvenance := Checked CampaignTruthProvenance.Fields.post_init

structure CampaignTruthSpec.Fields where
  truth_spec_id : PyStr
  group_id : PyStr
  kind : CampaignTruthKind
  target_present : Option Bool
  base_truth_spec_id : Option PyStr
  provenance : CampaignTruthProvenance
  matrix : CampaignMatrixPoint
deriving DecidableEq

def CampaignTruthSpec.Fields.post_init (s : CampaignTruthSpec.Fields) : Except PyError Unit :=
  let matrix := s.matrix.val
  let producer_kind := s.provenance.val.producer_kind
  checkAll [
    token s.truth_spec_id "truth_spec_id",
    token s.group_id "group_id",
    optional_token s.base_truth_spec_id "base_truth_spec_id",
    raiseIf (s.kind = .base_noise ∧ (s.target_present ≠ none ∨ s.base_truth_spec_id ≠ none))
      (bad "base noise must remain unlabeled and cannot derive from a spec"),
    raiseIf (s.kind = .base_noise ∧ producer_kind ≠ .score_blind_selection)
      (bad "base noise selection must be score blind"),
    raiseIf (s.kind ≠ .base_noise ∧ s.target_present = none)
      (bad "controlled truth must state target presence"),
    raiseIf (s.kind = .digital_injection ∧ (s.target_present ≠ some true ∨ s.base_truth_spec_id = none))
      (bad "digital injection must be positive and pin its base truth spec"),
    raiseIf (s.kind = .digital_injection ∧ producer_kind ≠ .independent_generator)
      (bad "digital injection requires an independent generator"),
    raiseIf (s.kind = .digital_injection ∧ (matrix.snr_db = none ∨ matrix.frequency_offset_hz = none ∨
        matrix.drift_hz_s = none ∨ matrix.receiver_delay_samples = none ∨ matrix.receiver_gain_db = none))
      (bad "digital injection matrix must freeze SNR, offset, drift, delay, and gain"),
    raiseIf (s.kind = .digital_injection ∧ matrix.null_class ≠ none)
      (bad "digital injection cannot be a null"),
    raiseIf (s.kind ≠ .digital_injection ∧ s.base_truth_spec_id ≠ none)
      (bad "only digital injections may name a base truth spec"),
    raiseIf (s.kind = .controlled_rf ∧ (s.target_present ≠ some true ∨ producer_kind ≠ .controlled_instrument))
      (bad "controlled RF truth must be positive instrument truth"),
    raiseIf (s.kind = .hard_null ∧ (s.target_present ≠ some false ∨ matrix.null_class = none ∨
        producer_kind ≠ .score_blind_selection))
      (bad "hard nulls require score-blind negative truth and a null class"),
    raiseIf (s.kind = .confounder ∧ (matrix.confounders = [] ∨ producer_kind ≠ .independent_characterization))
      (bad "confounders require independent characterization and named confounders")]

abbrev CampaignTruthSpec := Checked CampaignTruthSpec.Fields.post_init

def CampaignMatrixPoint.toPy (m : CampaignMatrixPoint) : PyValue :=
  .dataclass "CampaignMatrixPoint" [
    ("snr_db", optionToPy .str m.val.snr_db),
    ("frequency_offset_hz", optionToPy .int m.val.frequency_offset_hz),
    ("drift_hz_s", optionToPy .str m.val.drift_hz_s),
    ("receiver_delay_samples", optionToPy (fun xs => .tuple (xs.map .int)) m.val.receiver_delay_samples),
    ("receiver_gain_db", optionToPy (fun xs => .tuple (xs.map .str)) m.val.receiver_gain_db),
    ("clipping", .bool m.val.clipping),
    ("clip_min", optionToPy .int m.val.clip_min),
    ("clip_max", optionToPy .int m.val.clip_max),
    ("null_class", optionToPy .str m.val.null_class),
    ("confounders", .tuple (m.val.confounders.map .str))]

def CampaignTruthProvenance.toPy (p : CampaignTruthProvenance) : PyValue :=
  .dataclass "CampaignTruthProvenance" [
    ("producer_id", .str p.val.producer_id),
    ("producer_kind", .str p.val.producer_kind.value),
    ("producer_artifact_digest", p.val.producer_artifact_digest.toPy),
    ("evidence_digest", p.val.evidence_digest.toPy),
    ("selection_policy_digest", p.val.selection_policy_digest.toPy),
    ("produced_utc_ns", .int p.val.produced_utc_ns),
    ("independent_of_method_ids", .tuple (p.val.independent_of_method_ids.map .str)),
    ("detector_derived", .bool p.val.detector_derived)]

def CampaignTruthSpec.toPy (s : CampaignTruthSpec) : PyValue :=
  .dataclass "CampaignTruthSpec" [
    ("truth_spec_id", .str s.val.truth_spec_id),
    ("group_id", .str s.val.group_id),
    ("kind", .str s.val.kind.value),
    ("target_present", optionToPy .bool s.val.target_present),
    ("base_truth_spec_id", optionToPy .str s.val.base_truth_spec_id),
    ("provenance", CampaignTruthProvenance.toPy s.val.provenance),
    ("matrix", CampaignMatrixPoint.toPy s.val.matrix)]

/-- `CampaignTruthSpec.digest` -/
def CampaignTruthSpec.digest (s : CampaignTruthSpec) : Except PyError Digest :=
  canonicalDigest (CampaignTruthSpec.toPy s)

/-! ## Groups and members -/

structure CampaignGroup.Fields where
  group_id : PyStr
  partition : DatasetSplit
  start_utc_ns : Int
  stop_utc_ns : Int
  base_truth_spec_id : PyStr
  injection_truth_spec_ids : List PyStr
  truth_spec_ids : List PyStr
deriving DecidableEq

def CampaignGroup.Fields.post_init (g : CampaignGroup.Fields) : Except PyError Unit :=
  checkAll [
    token g.group_id "group_id",
    token g.base_truth_spec_id "base_truth_spec_id",
    unique_tokens g.injection_truth_spec_ids "injection_truth_spec_ids" true,
    unique_tokens g.truth_spec_ids "truth_spec_ids" false,
    non_negative_int g.start_utc_ns "start_utc_ns",
    non_negative_int g.stop_utc_ns "stop_utc_ns",
    raiseIf (g.stop_utc_ns ≤ g.start_utc_ns) (bad "campaign group interval must be non-empty"),
    raiseIf (g.base_truth_spec_id ∉ g.truth_spec_ids) (bad "group omits its base truth spec"),
    raiseIf (∃ id ∈ g.injection_truth_spec_ids, id ∉ g.truth_spec_ids)
      (bad "group omits an injection truth spec")]

abbrev CampaignGroup := Checked CampaignGroup.Fields.post_init

def CampaignGroup.toPy (g : CampaignGroup) : PyValue :=
  .dataclass "CampaignGroup" [
    ("group_id", .str g.val.group_id),
    ("partition", .str g.val.partition.value),
    ("start_utc_ns", .int g.val.start_utc_ns),
    ("stop_utc_ns", .int g.val.stop_utc_ns),
    ("base_truth_spec_id", .str g.val.base_truth_spec_id),
    ("injection_truth_spec_ids", .tuple (g.val.injection_truth_spec_ids.map .str)),
    ("truth_spec_ids", .tuple (g.val.truth_spec_ids.map .str))]

structure CampaignEphemerisInput.Fields where
  snapshot_digest : Digest
  provenance_digest : Digest
  selection_policy_digest : Digest
  selection_policy : PyStr
  available_utc_ns : Int
deriving DecidableEq

def CampaignEphemerisInput.Fields.post_init (e : CampaignEphemerisInput.Fields) : Except PyError Unit :=
  checkAll [
    raiseIf (e.selection_policy ≠ str "available_then")
      (bad "campaign ephemeris must use immutable available_then selection"),
    non_negative_int e.available_utc_ns "available_utc_ns"]

abbrev CampaignEphemerisInput := Checked CampaignEphemerisInput.Fields.post_init

def CampaignEphemerisInput.toPy (e : CampaignEphemerisInput) : PyValue :=
  .dataclass "CampaignEphemerisInput" [
    ("snapshot_digest", e.val.snapshot_digest.toPy),
    ("provenance_digest", e.val.provenance_digest.toPy),
    ("selection_policy_digest", e.val.selection_policy_digest.toPy),
    ("selection_policy", .str e.val.selection_policy),
    ("available_utc_ns", .int e.val.available_utc_ns)]

structure CampaignMember.Fields where
  truth_spec_id : PyStr
  group_id : PyStr
  recording_id : PyStr
  recording_identity_digest : Digest
  feature_set_id : PyStr
  feature_set_digest : Digest
  captured_utc_ns : Int
  radio_id : PyStr
  lnb_ids : List PyStr
  observation_mode : PyStr
  sample_rate_hz : Int
  gain_mode : PyStr
  gain_db : Option PyStr
  scored_truth : Bool
  derived_from_recording_id : Option PyStr
  ephemeris_input : Option CampaignEphemerisInput
deriving DecidableEq

def CampaignMember.Fields.post_init (m : CampaignMember.Fields) : Except PyError Unit :=
  checkAll [
    token m.truth_spec_id "truth_spec_id",
    token m.group_id "group_id",
    token m.recording_id "recording_id",
    token m.feature_set_id "feature_set_id",
    token m.radio_id "radio_id",
    token m.observation_mode "observation_mode",
    token m.gain_mode "gain_mode",
    optional_token m.gain_db "gain_db",
    optional_token m.derived_from_recording_id "derived_from_recording_id",
    unique_tokens m.lnb_ids "lnb_ids" false,
    non_negative_int m.captured_utc_ns "captured_utc_ns",
    raiseIf (m.sample_rate_hz ≤ 0) (bad "sample_rate_hz must be positive"),
    raiseIf (∃ e ∈ m.ephemeris_input, m.captured_utc_ns < e.val.available_utc_ns)
      (bad "future TLE availability cannot enter a campaign member")]

abbrev CampaignMember := Checked CampaignMember.Fields.post_init

/-- `CampaignMember.identity` -/
def CampaignMember.identity (m : CampaignMember) : PyValue :=
  .object [
    ("truth_spec_id", .str m.val.truth_spec_id),
    ("group_id", .str m.val.group_id),
    ("recording_id", .str m.val.recording_id),
    ("recording_identity_digest", .str m.val.recording_identity_digest.toStr),
    ("feature_set_id", .str m.val.feature_set_id),
    ("feature_set_digest", .str m.val.feature_set_digest.toStr),
    ("captured_utc_ns", .int m.val.captured_utc_ns),
    ("radio_id", .str m.val.radio_id),
    ("lnb_ids", .tuple (m.val.lnb_ids.map .str)),
    ("observation_mode", .str m.val.observation_mode),
    ("sample_rate_hz", .int m.val.sample_rate_hz),
    ("gain_mode", .str m.val.gain_mode),
    ("gain_db", optionToPy .str m.val.gain_db),
    ("scored_truth", .bool m.val.scored_truth),
    ("derived_from_recording_id", optionToPy .str m.val.derived_from_recording_id),
    ("ephemeris_input", optionToPy CampaignEphemerisInput.toPy m.val.ephemeris_input)]

/-! ## Manifests -/

def CAMPAIGN_SCHEMA : PyStr := str "leo-flow.dataset-campaign/v1"

structure CampaignManifest.Fields where
  campaign_id : PyStr
  frozen_utc_ns : Int
  candidate_method_ids : List PyStr
  truth_specs : List CampaignTruthSpec
  groups : List CampaignGroup
  members : List CampaignMember
deriving DecidableEq

namespace CampaignManifest.Fields

variable (c : CampaignManifest.Fields)

/-- `specs.get(id)` -/
def spec (id : PyStr) : Option CampaignTruthSpec := dictGet (·.val.truth_spec_id) c.truth_specs id

/-- `groups.get(id)` -/
def group (id : PyStr) : Option CampaignGroup := dictGet (·.val.group_id) c.groups id

/-- `members_by_spec.get(id)` -/
def memberBySpec (id : PyStr) : Option CampaignMember := dictGet (·.val.truth_spec_id) c.members id

/-- `split_order[groups[member.group_id].partition] if member.group_id in groups else 3` -/
def splitOrder (member : CampaignMember) : Nat :=
  match c.group member.val.group_id with
  | some group => group.val.partition.order
  | none => 3

@[reducible] def MemberLe (a b : CampaignMember) : Prop :=
  toLex (c.splitOrder a, toLex (a.val.captured_utc_ns, a.val.feature_set_id)) ≤
    toLex (c.splitOrder b, toLex (b.val.captured_utc_ns, b.val.feature_set_id))

/-- Two sequences are equal as sets. -/
@[reducible] def SameSet (xs ys : List PyStr) : Prop := (∀ x ∈ xs, x ∈ ys) ∧ ∀ y ∈ ys, y ∈ xs

/-- What is checked of one truth specification. -/
def checkSpec (spec : CampaignTruthSpec) : Except PyError Unit :=
  checkAll [
    raiseIf (¬SameSet spec.val.provenance.val.independent_of_method_ids c.candidate_method_ids)
      (bad "truth provenance must declare independence from every candidate method"),
    match c.memberBySpec spec.val.truth_spec_id, c.group spec.val.group_id with
    | none, _ => .error ⟨.key_error, "truth_spec_id"⟩
    | some _, none => .error (bad "truth, member, and group identity differ")
    | some member, some group =>
      checkAll [
        raiseIf (member.val.group_id ≠ spec.val.group_id) (bad "truth, member, and group identity differ"),
        raiseIf (¬(group.val.start_utc_ns ≤ member.val.captured_utc_ns ∧
            member.val.captured_utc_ns < group.val.stop_utc_ns))
          (bad "member capture lies outside its frozen group"),
        raiseIf (spec.val.kind = .base_noise ∧ member.val.scored_truth = true)
          (bad "base noise cannot silently become scored truth"),
        raiseIf (member.val.scored_truth = true ∧ spec.val.target_present = none)
          (bad "scored member lacks controlled truth")]]

/-- The specifications of a group. -/
def groupSpecs (group : CampaignGroup) : List CampaignTruthSpec :=
  c.truth_specs.filter (·.val.group_id = group.val.group_id)

/-- What is checked of one injection of a group. -/
def checkInjection (group : CampaignGroup) (base_recording : PyStr) (spec : CampaignTruthSpec) :
    Except PyError Unit :=
  checkAll [
    raiseIf (spec.val.base_truth_spec_id ≠ some group.val.base_truth_spec_id)
      (bad "injection pins the wrong base truth spec"),
    match c.memberBySpec spec.val.truth_spec_id with
    | none => .error ⟨.key_error, "injection_id"⟩
    | some member =>
      raiseIf (member.val.derived_from_recording_id ≠ some base_recording)
        (bad "injection result must derive from its group's base recording")]

/-- What is checked of the other specifications of a group. -/
def checkUnderived (spec : CampaignTruthSpec) : Except PyError Unit :=
  match c.memberBySpec spec.val.truth_spec_id with
  | none => .error ⟨.key_error, "spec_id"⟩
  | some member =>
    raiseIf (member.val.derived_from_recording_id ≠ none)
      (bad "only digital injection results may derive from a recording")

/-- What is checked of one group. -/
def checkGroup (group : CampaignGroup) : Except PyError Unit :=
  let specs := c.groupSpecs group
  let injections := specs.filter (·.val.kind = .digital_injection)
  checkAll [
    raiseIf (¬SameSet group.val.truth_spec_ids (specs.map (·.val.truth_spec_id)))
      (bad "group truth-spec closure is not exact"),
    raiseIf (∀ base ∈ c.spec group.val.base_truth_spec_id, base.val.kind ≠ .base_noise)
      (bad "group base must be an exact base-noise spec"),
    raiseIf (¬SameSet group.val.injection_truth_spec_ids (injections.map (·.val.truth_spec_id)))
      (bad "group must enumerate every and only digital injection"),
    match c.memberBySpec group.val.base_truth_spec_id with
    | none => .error ⟨.key_error, "base_truth_spec_id"⟩
    | some base => checkAll (injections.map (c.checkInjection group base.val.recording_id)),
    checkAll ((specs.filter (·.val.kind ≠ .digital_injection)).map c.checkUnderived)]

/-- `partitions[split]` -/
def partition (split : DatasetSplit) : List CampaignGroup := c.groups.filter (·.val.partition = split)

/-- Every group of a split stops before every group of another starts. -/
@[reducible] def StopsBefore (split later : DatasetSplit) : Prop :=
  ∀ g ∈ c.partition split, ∀ g' ∈ c.partition later, g.val.stop_utc_ns ≤ g'.val.start_utc_ns

/-- The checks of `validate_campaign` that follow those of the specifications' identities. -/
def checkClosure : Except PyError Unit :=
  checkAll [
    unique (c.groups.map (·.val.group_id)) "campaign group ID",
    unique (c.members.map (·.val.recording_id)) "recording ID",
    unique (c.members.map (·.val.recording_identity_digest)) "recording identity digest",
    unique (c.members.map (·.val.feature_set_id)) "FeatureSet ID",
    unique (c.members.map (·.val.feature_set_digest)) "FeatureSet digest",
    raiseIf (¬(c.members.map (·.val.truth_spec_id)).Nodup) (bad "truth specs must materialize exactly once"),
    raiseIf (¬SameSet (c.members.map (·.val.truth_spec_id)) (c.truth_specs.map (·.val.truth_spec_id)))
      (bad "campaign must materialize every and only frozen truth spec"),
    raiseIf (c.members ≠ c.members.insertionSort c.MemberLe)
      (bad "campaign members must be partition- and time-ordered"),
    checkAll (c.truth_specs.map c.checkSpec),
    checkAll (c.groups.map c.checkGroup),
    raiseIf (∃ split ∈ DatasetSplit.all, c.partition split = [])
      (bad "campaign requires train, validation, and locked-test groups"),
    raiseIf (¬(c.StopsBefore .train .validation ∧ c.StopsBefore .validation .locked_test))
      (bad "campaign partitions must be whole-group and time ordered"),
    raiseIf (∃ member ∈ c.members, c.frozen_utc_ns < member.val.captured_utc_ns)
      (bad "campaign freeze must follow all materialized result identities")]

def validate_campaign : Except PyError Unit := do
  unique (c.truth_specs.map (·.val.truth_spec_id)) "truth spec ID"
  let digests ← c.truth_specs.mapM CampaignTruthSpec.digest
  unique digests "truth spec digest"
  c.checkClosure

def post_init : Except PyError Unit :=
  checkAll [
    token c.campaign_id "campaign_id",
    non_negative_int c.frozen_utc_ns "frozen_utc_ns",
    unique_tokens c.candidate_method_ids "candidate_method_ids" false,
    c.validate_campaign]

end CampaignManifest.Fields

abbrev CampaignManifest := Checked CampaignManifest.Fields.post_init

namespace CampaignManifest

variable (c : CampaignManifest)

/-- `truth_specs_digest` -/
def truth_specs_digest : Except PyError Digest := do
  let rows ← c.val.truth_specs.mapM fun spec => (CampaignTruthSpec.digest spec).map fun digest =>
    PyValue.tuple [.str spec.val.truth_spec_id, .str digest.toStr]
  canonicalDigest (.tuple rows)

/-- `membership_digest` -/
def membership_digest : Except PyError Digest :=
  canonicalDigest (.tuple (c.val.members.map CampaignMember.identity))

/-- `digest` -/
def digest : Except PyError Digest := do
  let truth_specs_digest ← truth_specs_digest c
  let membership_digest ← membership_digest c
  canonicalDigest (.object [
    ("schema", .str CAMPAIGN_SCHEMA),
    ("campaign_id", .str c.val.campaign_id),
    ("frozen_utc_ns", .int c.val.frozen_utc_ns),
    ("candidate_method_ids", .tuple (c.val.candidate_method_ids.map .str)),
    ("truth_specs_digest", .str truth_specs_digest.toStr),
    ("membership_digest", .str membership_digest.toStr),
    ("groups", .tuple (c.val.groups.map CampaignGroup.toPy))])

end CampaignManifest

/-! ## Materialization -/

/-- What `members_in` reads of a `LockedTestOpening`. -/
structure LockedTestOpening where
  campaign_digest : Digest
  method_id : PyStr
  frozen_utc_ns : Int
deriving DecidableEq

structure CampaignMaterialization.Fields where
  manifest : CampaignManifest
  carved : DatasetSnapshot
  ordered_members : List CampaignMember

def CampaignMaterialization.Fields.post_init (m : CampaignMaterialization.Fields) : Except PyError Unit :=
  raiseIf (m.ordered_members.map (·.val.feature_set_id) ≠ m.carved.val.ordered_members.map (·.feature_set_id))
    (bad "campaign materialization and carved dataset order differ")

abbrev CampaignMaterialization := Checked CampaignMaterialization.Fields.post_init

/-- `_validate_opening` -/
def validate_opening (campaign : CampaignManifest) (evaluated_method_id : PyStr)
    (opening : Option LockedTestOpening) : Except PyError Unit :=
  match opening with
  | none => .error (bad "locked test remains sealed")
  | some opening =>
    match CampaignManifest.digest campaign with
    | .error e => .error e
    | .ok digest =>
      checkAll [
        raiseIf (opening.campaign_digest ≠ digest) (bad "opening receipt names another campaign"),
        raiseIf (opening.method_id ≠ evaluated_method_id)
          (bad "opening method differs from the materialized method"),
        raiseIf (opening.frozen_utc_ns < campaign.val.frozen_utc_ns)
          (bad "method/config/metric bounds were frozen before campaign membership")]

/-- `group_by_id[member.group_id].partition`, beside the member -/
def CampaignMaterialization.withPartition (m : CampaignMaterialization) (member : CampaignMember) :
    Except PyError (CampaignMember × DatasetSplit) :=
  match m.val.manifest.val.group member.val.group_id with
  | none => .error ⟨.key_error, "group_id"⟩
  | some group => .ok (member, group.val.partition)

/-- The members whose group is in the split. -/
def CampaignMaterialization.selected (m : CampaignMaterialization) (split : DatasetSplit) :
    Except PyError (List CampaignMember) := do
  let rows ← m.val.ordered_members.mapM (CampaignMaterialization.withPartition m)
  return (rows.filter (·.2 = split)).map (·.1)

def CampaignMaterialization.members_in (m : CampaignMaterialization) (split : DatasetSplit)
    (opening : Option LockedTestOpening) : Except PyError (List CampaignMember) := do
  if split = .locked_test then
    validate_opening m.val.manifest m.val.carved.val.evaluated_method_id opening
  CampaignMaterialization.selected m split

/-- `source`, in `_candidate` -/
def CampaignTruthKind.labelSource : CampaignTruthKind → LabelSource
  | base_noise => .unlabeled
  | digital_injection => .injected
  | controlled_rf | hard_null | confounder => .observed

/-- `1.0` -/
def PyFloat.one : PyFloat :=
  .finite false (2 ^ 52) (-52) ⟨by decide, by decide, by decide, Or.inl (by decide)⟩

/-- `spec.digest if spec.kind is CampaignTruthKind.DIGITAL_INJECTION else None` -/
def CampaignTruthSpec.injectionSpecDigest (spec : CampaignTruthSpec) : Except PyError (Option Digest) :=
  if spec.val.kind = .digital_injection then (CampaignTruthSpec.digest spec).map some else .ok none

/-- The evidence of `_candidate`. -/
def evidenceFields (spec : CampaignTruthSpec) (base_recording_digest injection_spec_digest : Option Digest) :
    LabelEvidence.Fields where
  source := spec.val.kind.labelSource
  evidence_digest := spec.val.provenance.val.evidence_digest
  producer_id := spec.val.provenance.val.producer_id
  produced_utc_ns := spec.val.provenance.val.produced_utc_ns
  independent_of_method_ids := spec.val.provenance.val.independent_of_method_ids
  uncertainty := []
  base_recording_digest := if spec.val.kind = .digital_injection then base_recording_digest else none
  injection_spec_digest := injection_spec_digest

/-- The label of `_candidate`. -/
def truthFields (spec : CampaignTruthSpec) (evidence : LabelEvidence) : TruthLabel.Fields where
  target_present := spec.val.target_present
  source := spec.val.kind.labelSource
  evidence := [evidence]
  confidence := if spec.val.target_present = none then none else some PyFloat.one

/-- The candidate of `_candidate`. -/
def candidateFields (member : CampaignMember) (truth : TruthLabel) : DatasetCandidate.Fields where
  feature_set_id := member.val.feature_set_id
  feature_set_digest := member.val.feature_set_digest
  recording_id := member.val.recording_id
  split_group_id := member.val.group_id
  captured_utc_ns := member.val.captured_utc_ns
  radio_id := member.val.radio_id
  lnb_ids := member.val.lnb_ids
  observation_mode := member.val.observation_mode
  sample_rate_hz := member.val.sample_rate_hz
  gain_mode := member.val.gain_mode
  gain_db := member.val.gain_db
  satellite_id := none
  truth := truth
  scored_truth := member.val.scored_truth
  derived_from_recording_id := member.val.derived_from_recording_id

/-- `_candidate` -/
def candidate (member : CampaignMember) (spec : CampaignTruthSpec) (base_recording_digest : Option Digest) :
    Except PyError DatasetCandidate := do
  let injection_spec_digest ← CampaignTruthSpec.injectionSpecDigest spec
  let evidence ← Checked.make LabelEvidence.Fields.post_init
    (evidenceFields spec base_recording_digest injection_spec_digest)
  let truth ← Checked.make TruthLabel.Fields.post_init (truthFields spec evidence)
  Checked.make DatasetCandidate.Fields.post_init (candidateFields member truth)

namespace CampaignManifest

variable (c : CampaignManifest)

/-- An entry of `base_recording_digests`. -/
def baseRecordingDigest (spec : CampaignTruthSpec) : Except PyError (PyStr × Digest) :=
  match spec.val.base_truth_spec_id.bind c.val.memberBySpec with
  | none => .error ⟨.key_error, "base_truth_spec_id"⟩
  | some base => .ok (spec.val.truth_spec_id, base.val.recording_identity_digest)

/-- `base_recording_digests` -/
def baseRecordingDigests : Except PyError (List (PyStr × Digest)) :=
  (c.val.truth_specs.filter (·.val.base_truth_spec_id ≠ none)).mapM (baseRecordingDigest c)

/-- The candidate of one member. -/
def candidateOf (digests : List (PyStr × Digest)) (member : CampaignMember) : Except PyError DatasetCandidate :=
  match c.val.spec member.val.truth_spec_id with
  | none => .error ⟨.key_error, "truth_spec_id"⟩
  | some spec =>
    candidate member spec ((dictGet Prod.fst digests member.val.truth_spec_id).map Prod.snd)

/-- `candidates` -/
def candidates : Except PyError (List DatasetCandidate) := do
  let digests ← baseRecordingDigests c
  c.val.members.mapM (candidateOf c digests)

/-- `group_partitions` -/
def groupPartitions (group_id : PyStr) : Option DatasetSplit := (c.val.group group_id).map (·.val.partition)

/-- `member_by_feature[row[0]]` -/
def memberOfRow (row : MemberRow) : Except PyError CampaignMember :=
  match dictGet (·.val.feature_set_id) c.val.members row.feature_set_id with
  | none => .error ⟨.key_error, "feature_set_id"⟩
  | some member => .ok member

end CampaignManifest

def materialize_campaign (campaign : CampaignManifest) (evaluated_method_id : PyStr) :
    Except PyError CampaignMaterialization := do
  raiseIf (evaluated_method_id ∉ campaign.val.candidate_method_ids)
    (bad "materialized method is outside the frozen campaign")
  let candidates ← CampaignManifest.candidates campaign
  let carved ← carve_dataset candidates (CampaignManifest.groupPartitions campaign) evaluated_method_id false
  let ordered ← carved.val.ordered_members.mapM (CampaignManifest.memberOfRow campaign)
  -- the two digests that the code compares are of the same tuple
  let _ ← CampaignManifest.membership_digest campaign
  Checked.make CampaignMaterialization.Fields.post_init ⟨campaign, carved, ordered⟩

end DatasetCampaign

end LeoFlow
