import LeoFlow.Contracts.Raising
import LeoFlow.Contracts.Storage

/-!
# LeoFlow.Contracts.Features — features of one recording

`Provenance` of `contracts/core.py`, and `contracts/features.py`. A covariance is checked
by the arithmetic of its constructor, which may raise an `ArithmeticError`.
-/

namespace LeoFlow

/-! ## Provenance -/

structure Provenance.Fields where
  producer_name : PyStr
  producer_version : PyStr
  git_commit : PyStr
  environment_digest : Digest
  normalized_config_digest : Digest
  input_digests : List Digest
  dependency_digests : List Digest
  started_utc_ns : Int
  completed_utc_ns : Int
  host_class : PyStr
deriving DecidableEq

def Provenance.Fields.post_init (p : Provenance.Fields) : Except PyError Unit :=
  checkAll [
    requireToken p.producer_name IsToken "producer_name",
    requireToken p.producer_version IsToken "producer_version",
    requireToken p.git_commit IsToken "git_commit",
    requireToken p.host_class IsToken "host_class",
    requireUtcNs p.started_utc_ns "started_utc_ns",
    requireUtcNs p.completed_utc_ns "completed_utc_ns",
    raiseIf (p.completed_utc_ns < p.started_utc_ns) (.value "provenance completion precedes start"),
    raiseIf (p.input_digests = []) (.value "provenance must close over at least one input digest")]

/-- `Provenance` -/
abbrev Provenance := Checked Provenance.Fields.post_init

def Provenance.toPy (p : Provenance) : PyValue :=
  .dataclass "Provenance" [("producer_name", .str p.val.producer_name), ("producer_version", .str p.val.producer_version),
    ("git_commit", .str p.val.git_commit), ("environment_digest", p.val.environment_digest.toPy),
    ("normalized_config_digest", p.val.normalized_config_digest.toPy),
    ("input_digests", .tuple (p.val.input_digests.map Digest.toPy)),
    ("dependency_digests", .tuple (p.val.dependency_digests.map Digest.toPy)),
    ("started_utc_ns", .int p.val.started_utc_ns), ("completed_utc_ns", .int p.val.completed_utc_ns),
    ("host_class", .str p.val.host_class)]

theorem caught_provenance (p : Provenance.Fields) : Caught p.post_init := by
  refine caught_checkAll ?_
  simp

/-! ## Covariance -/

/-- `require_nonnegative` of a number -/
def requireNonnegativeNumber (value : Num) (field : String) : Except PyError Unit :=
  checkAll [requireFinite value field, raiseIf (value.Lt (.int 0)) (.value (field ++ " must be non-negative"))]

@[simp] theorem caught_requireFinite {value : Num} {field : String} : Caught (requireFinite value field) := by
  unfold requireFinite
  split
  · exact raisesOnly_ok _
  · exact caught_raiseIf

@[simp] theorem caught_requireNonnegativeNumber {value : Num} {field : String} :
    Caught (requireNonnegativeNumber value field) := by
  refine caught_checkAll ?_
  simp

structure Covariance.Fields where
  basis : List PyStr
  units : List PyStr
  values : List (List Num)
  psd_tolerance : Num := .float (PyFloat.ofDecimal false 1 (-10))
deriving DecidableEq

/-- `lower` and `diagonal` -/
structure Covariance.Factors where
  lower : List (List Num)
  diagonal : List Num

namespace Covariance.Factors

variable (s : Factors)

/-- `lower[i][j]` -/
def lowerAt (i j : Nat) : Num := (s.lower.getD i []).getD j Num.zero

/-- `diagonal[i]` -/
def diagonalAt (i : Nat) : Num := s.diagonal.getD i Num.zero

/-- `lower[i][j] = value` -/
def setLower (i j : Nat) (value : Num) : Factors := { s with lower := s.lower.set i ((s.lower.getD i []).set j value) }

/-- `diagonal[i] = value` -/
def setDiagonal (i : Nat) (value : Num) : Factors := { s with diagonal := s.diagonal.set i value }

end Covariance.Factors

namespace Covariance.Fields

variable (c : Covariance.Fields)

/-- `self.values[i][j]` -/
def cell (i j : Nat) : Num := (c.values.getD i []).getD j Num.zero

/-- The basis, the shape and the numbers. -/
def checkShape : Except PyError Unit :=
  let size := c.basis.length
  checkAll ([
    raiseIf (size = 0 ∨ ¬c.basis.Nodup ∨ c.units.length ≠ size)
      (.value "covariance basis and units must be aligned and unique"),
    raiseIf (c.values.length ≠ size ∨ ∃ row ∈ c.values, row.length ≠ size)
      (.value "covariance shape does not match basis"),
    requireNonnegativeNumber c.psd_tolerance "psd_tolerance"] ++
    c.values.flatten.map fun value => requireFinite value "covariance value")

/-- One cell against the cell across the diagonal. -/
def checkCell (i j : Nat) : Except PyError Unit := do
  let scale := Num.maximum Num.one [(c.cell i j).abs, (c.cell j i).abs]
  let difference ← Num.sub (c.cell i j) (c.cell j i)
  let bound ← Num.mul c.psd_tolerance scale
  raiseIf (bound.Lt difference.abs) (.value "covariance must be symmetric")

/-- The loop over the cells above the diagonal. -/
def checkSymmetric : Except PyError Unit :=
  (List.range c.basis.length).foldlM (fun _ i =>
    (List.range' (i + 1) (c.basis.length - (i + 1))).foldlM (fun _ j => c.checkCell i j) ()) ()

/-- `lower[i][j]` from the cells and factors before it. -/
def factorCell (i : Nat) (s : Factors) (j : Nat) : Except PyError Factors := do
  let total ← Num.sumOver (List.range j) fun k => do
    Num.mul (← Num.mul (s.lowerAt i k) (s.diagonalAt k)) (s.lowerAt j k)
  let residual ← Num.sub (c.cell i j) total
  if (s.diagonalAt j).abs.Le c.psd_tolerance then do
    raiseIf (c.psd_tolerance.Lt residual.abs) (.value "covariance is not positive semidefinite")
    .ok (s.setLower i j Num.zero)
  else do
    let quotient ← Num.div residual (s.diagonalAt j)
    .ok (s.setLower i j quotient)

/-- One row of the factors, and its pivot. -/
def factorRow (s : Factors) (i : Nat) : Except PyError Factors := do
  let s ← (List.range i).foldlM (c.factorCell i) (s.setLower i i Num.one)
  let total ← Num.sumOver (List.range i) fun k => do
    Num.mul (← Num.square (s.lowerAt i k)) (s.diagonalAt k)
  let pivot ← Num.sub (c.cell i i) total
  raiseIf (pivot.Lt c.psd_tolerance.neg) (.value "covariance is not positive semidefinite")
  .ok (s.setDiagonal i (Num.maximum Num.zero [pivot]))

/-- Positive semidefinite: the factors `L D Lᵀ` exist. -/
def factor : Except PyError Factors :=
  let size := c.basis.length
  (List.range size).foldlM c.factorRow
    { lower := List.replicate size (List.replicate size Num.zero), diagonal := List.replicate size Num.zero }

def post_init : Except PyError Unit := do
  c.checkShape
  c.checkSymmetric
  let _ ← c.factor
  .ok ()

end Covariance.Fields

/-- `Covariance` -/
abbrev Covariance := Checked Covariance.Fields.post_init

def Covariance.toPy (c : Covariance) : PyValue :=
  .dataclass "Covariance" [("basis", .tuple (c.val.basis.map .str)), ("units", .tuple (c.val.units.map .str)),
    ("values", .tuple (c.val.values.map fun row => .tuple (row.map Num.toValue))),
    ("psd_tolerance", c.val.psd_tolerance.toValue)]

namespace Covariance.Fields

variable (c : Covariance.Fields)

theorem caught_checkShape : Caught c.checkShape := by
  refine caught_checkAll ?_
  simp only [List.forall_mem_append, List.forall_mem_cons, List.forall_mem_map]
  exact ⟨⟨caught_raiseIf, caught_raiseIf, caught_requireNonnegativeNumber, nofun⟩, fun _ _ => caught_requireFinite⟩

theorem computes_checkCell (i j : Nat) : Computes (c.checkCell i j) :=
  computes_bind (computes_sub _ _) fun _ => computes_bind (computes_mul _ _) fun _ => caught_raiseIf.computes

theorem computes_checkSymmetric : Computes c.checkSymmetric :=
  computes_foldlM (fun _ i => computes_foldlM (fun _ j => c.computes_checkCell i j) _ _) _ _

theorem computes_factorCell (i : Nat) (s : Factors) (j : Nat) : Computes (c.factorCell i s j) := by
  refine computes_bind (computes_sumOver fun k => computes_bind (computes_mul _ _) fun _ => computes_mul _ _) fun total => ?_
  refine computes_bind (computes_sub _ _) fun residual => ?_
  split
  · exact computes_bind caught_raiseIf.computes fun _ => raisesOnly_ok _
  · exact computes_bind (computes_div _ _) fun _ => raisesOnly_ok _

theorem computes_factorRow (s : Factors) (i : Nat) : Computes (c.factorRow s i) := by
  refine computes_bind (computes_foldlM (c.computes_factorCell i) _ _) fun s => ?_
  refine computes_bind (computes_sumOver fun k => computes_bind (computes_square _) fun _ => computes_mul _ _) fun total => ?_
  refine computes_bind (computes_sub _ _) fun pivot => ?_
  exact computes_bind caught_raiseIf.computes fun _ => raisesOnly_ok _

theorem computes_post_init : Computes c.post_init := by
  refine computes_bind c.caught_checkShape.computes fun _ => ?_
  refine computes_bind c.computes_checkSymmetric fun _ => ?_
  exact computes_bind (computes_foldlM c.computes_factorRow _ _) fun _ => raisesOnly_ok _

end Covariance.Fields

/-! ## Observations -/

structure FeatureObservation.Fields where
  feature_id : FeatureId
  recording_id : RecordingId
  segment_id : SegmentId
  method_id : PyStr
  method_version : PyStr
  window_start_sample : Int
  window_stop_sample : Int
  segment_sample_count : Int
  midpoint_utc_ns : Int
  feature_kind : PyStr
  score : Num
  score_semantics : PyStr
  receiver_chain_id : Option ReceiverChainId := none
  receiver_pair_id : Option ReceiverPairId := none
  frequency_hz : Option Num := none
  frequency_offset_hz : Option Num := none
  drift_hz_s : Option Num := none
  noise_estimate : Option Num := none
  snr_db : Option Num := none
  covariance : Option Covariance := none
  uncertainty : PyValue.Pairs := []
  quality_flags : List PyStr := []
  diagnostics : PyValue.Pairs := []

/-- `if value is not None: require_finite(value, name)` -/
def requireFiniteIfPresent (value : Option Num) (name : String) : Except PyError Unit :=
  match value with
  | some value => requireFinite value name
  | none => .ok ()

@[simp] theorem caught_requireFiniteIfPresent {value : Option Num} {name : String} :
    Caught (requireFiniteIfPresent value name) := by
  cases value with
  | none => exact raisesOnly_ok ()
  | some value => exact caught_requireFinite

def FeatureObservation.Fields.post_init (o : FeatureObservation.Fields) : Except PyError Unit :=
  checkAll [
    requireToken o.method_id IsToken "method_id",
    requireToken o.method_version IsToken "method_version",
    requireToken o.feature_kind IsToken "feature_kind",
    requireToken o.score_semantics IsToken "score_semantics",
    requireUtcNs o.midpoint_utc_ns "midpoint_utc_ns",
    raiseIf (o.receiver_chain_id.isNone = o.receiver_pair_id.isNone)
      (.value "exactly one receiver chain or receiver pair is required"),
    raiseIf (¬(0 ≤ o.window_start_sample ∧ o.window_start_sample < o.window_stop_sample ∧
      o.window_stop_sample ≤ o.segment_sample_count)) (.value "feature window lies outside its segment"),
    requireFinite o.score "score",
    requireFiniteIfPresent o.frequency_hz "frequency_hz",
    requireFiniteIfPresent o.frequency_offset_hz "frequency_offset_hz",
    requireFiniteIfPresent o.drift_hz_s "drift_hz_s",
    requireFiniteIfPresent o.noise_estimate "noise_estimate",
    requireFiniteIfPresent o.snr_db "snr_db"]

/-- `FeatureObservation` -/
abbrev FeatureObservation := Checked FeatureObservation.Fields.post_init

def FeatureObservation.toPy (o : FeatureObservation) : PyValue :=
  .dataclass "FeatureObservation" [
    ("feature_id", o.val.feature_id.toPy),
    ("recording_id", o.val.recording_id.toPy),
    ("segment_id", o.val.segment_id.toPy),
    ("method_id", .str o.val.method_id),
    ("method_version", .str o.val.method_version),
    ("window_start_sample", .int o.val.window_start_sample),
    ("window_stop_sample", .int o.val.window_stop_sample),
    ("segment_sample_count", .int o.val.segment_sample_count),
    ("midpoint_utc_ns", .int o.val.midpoint_utc_ns),
    ("feature_kind", .str o.val.feature_kind),
    ("score", o.val.score.toValue),
    ("score_semantics", .str o.val.score_semantics),
    ("receiver_chain_id", optionToPy ContractId.toPy o.val.receiver_chain_id),
    ("receiver_pair_id", optionToPy ContractId.toPy o.val.receiver_pair_id),
    ("frequency_hz", optionToPy Num.toValue o.val.frequency_hz),
    ("frequency_offset_hz", optionToPy Num.toValue o.val.frequency_offset_hz),
    ("drift_hz_s", optionToPy Num.toValue o.val.drift_hz_s),
    ("noise_estimate", optionToPy Num.toValue o.val.noise_estimate),
    ("snr_db", optionToPy Num.toValue o.val.snr_db),
    ("covariance", optionToPy Covariance.toPy o.val.covariance),
    ("uncertainty", PyValue.ofPairs o.val.uncertainty),
    ("quality_flags", .tuple (o.val.quality_flags.map .str)),
    ("diagnostics", PyValue.ofPairs o.val.diagnostics)]

theorem caught_featureObservation (o : FeatureObservation.Fields) : Caught o.post_init := by
  refine caught_checkAll ?_
  simp

structure MethodScore.Fields where
  method_id : PyStr
  method_version : PyStr
  segment_id : SegmentId
  receiver_key : PyStr
  window_start_sample : Int
  window_stop_sample : Int
  score : Num
  score_semantics : PyStr

def MethodScore.Fields.post_init (s : MethodScore.Fields) : Except PyError Unit :=
  checkAll [
    requireToken s.method_id IsToken "method_id",
    requireToken s.method_version IsToken "method_version",
    requireToken s.receiver_key IsToken "receiver_key",
    requireToken s.score_semantics IsToken "score_semantics",
    requireFinite s.score "score",
    raiseIf (¬(0 ≤ s.window_start_sample ∧ s.window_start_sample < s.window_stop_sample))
      (.value "score window must be non-empty")]

/-- `MethodScore` -/
abbrev MethodScore := Checked MethodScore.Fields.post_init

def MethodScore.toPy (s : MethodScore) : PyValue :=
  .dataclass "MethodScore" [
    ("method_id", .str s.val.method_id),
    ("method_version", .str s.val.method_version),
    ("segment_id", s.val.segment_id.toPy),
    ("receiver_key", .str s.val.receiver_key),
    ("window_start_sample", .int s.val.window_start_sample),
    ("window_stop_sample", .int s.val.window_stop_sample),
    ("score", s.val.score.toValue),
    ("score_semantics", .str s.val.score_semantics)]

theorem caught_methodScore (s : MethodScore.Fields) : Caught s.post_init := by
  refine caught_checkAll ?_
  simp

/-! ## Bundles -/

structure FeatureSetBundle.Fields where
  schema : SchemaRef
  feature_set_id : FeatureSetId
  analysis_run_id : AnalysisRunId
  recording_id : RecordingId
  input_recording_identity_digest : Digest
  provenance : Provenance
  observations : List FeatureObservation
  method_scores : List MethodScore
  diagnostic_bundle_ref : Option (Checked ObjectRef.post_init) := none
  warnings : List PyStr := []
  reason_codes : List PyStr := []

/-- `SCHEMA_ID` -/
def FeatureSetBundle.SCHEMA_ID : PyStr := str "org.leo-flow.feature-set-bundle"

theorem FeatureSetBundle.isToken_SCHEMA_ID : IsToken SCHEMA_ID := by decide

/-- The key of a score, unique in its feature set. -/
def MethodScore.key (s : MethodScore) : PyStr × PyStr × SegmentId × PyStr × Int × Int :=
  (s.val.method_id, s.val.method_version, s.val.segment_id, s.val.receiver_key, s.val.window_start_sample,
    s.val.window_stop_sample)

def FeatureSetBundle.Fields.post_init (b : FeatureSetBundle.Fields) : Except PyError Unit :=
  checkAll [
    raiseIf (b.schema.schema_id ≠ FeatureSetBundle.SCHEMA_ID ∨ b.schema.version ≠ V0_1)
      (.value "unsupported feature set schema"),
    raiseIf (∃ observation ∈ b.observations, observation.val.recording_id ≠ b.recording_id)
      (.value "feature set contains another recording"),
    raiseIf (¬(b.method_scores.map MethodScore.key).Nodup)
      (.value "method score shared-window keys must be unique")]

/-- `FeatureSetBundle` -/
abbrev FeatureSetBundle := Checked FeatureSetBundle.Fields.post_init

def FeatureSetBundle.toPy (b : FeatureSetBundle) : PyValue :=
  .dataclass "FeatureSetBundle" [
    ("schema", b.val.schema.toPy),
    ("feature_set_id", b.val.feature_set_id.toPy),
    ("analysis_run_id", b.val.analysis_run_id.toPy),
    ("recording_id", b.val.recording_id.toPy),
    ("input_recording_identity_digest", b.val.input_recording_identity_digest.toPy),
    ("provenance", Provenance.toPy b.val.provenance),
    ("observations", .tuple (b.val.observations.map FeatureObservation.toPy)),
    ("method_scores", .tuple (b.val.method_scores.map MethodScore.toPy)),
    ("diagnostic_bundle_ref", optionToPy (fun r => r.val.toPy) b.val.diagnostic_bundle_ref),
    ("warnings", .tuple (b.val.warnings.map .str)),
    ("reason_codes", .tuple (b.val.reason_codes.map .str))]

theorem caught_featureSetBundle (b : FeatureSetBundle.Fields) : Caught b.post_init := by
  refine caught_checkAll ?_
  simp

end LeoFlow
