import LeoFlow.Capture.Campaign
import LeoFlow.Contracts.Storage
import LeoFlow.Core.Machine
import LeoFlow.Core.Table
import LeoFlow.Contracts.Samples

/-!
# LeoFlow.Application.DwellGate — dwell requests and their capture plans

`contracts/dwell.py` and `application/dwell.py`. The gate lowers a request to a plan that is named after the request's
`request_id`; it knows an accepted request by its `idempotency_key`.

* `DwellRequest`, `capture_plan`: the contracts and the lowering;
* `accept`: the gate;
* `machine`: any sequence of requests and times.
-/

namespace LeoFlow

/-! ## Contracts -/

/-- `EvidenceKind` -/
inductive EvidenceKind where
  | controlled_injection_truth
  | independent_verified_observation
  | tle_weak_association
  | operator_note
  | verified_negative_control
  | unlabeled
deriving DecidableEq

/-- `kind.value` -/
def EvidenceKind.value : EvidenceKind → PyStr
  | controlled_injection_truth => str "controlled_injection_truth"
  | independent_verified_observation => str "independent_verified_observation"
  | tle_weak_association => str "tle_weak_association"
  | operator_note => str "operator_note"
  | verified_negative_control => str "verified_negative_control"
  | unlabeled => str "unlabeled"

def FeatureSetRef.toPy (f : FeatureSetRef) : PyValue :=
  .dataclass "FeatureSetRef" [("feature_set_id", f.feature_set_id.toPy), ("analysis_run_id", f.analysis_run_id.toPy),
    ("bundle_ref", f.bundle_ref.toPy)]

/-- The strings increase: they are unique and sorted. -/
@[reducible] def Canonical (ids : List PyStr) : Prop := ids.Pairwise (· < ·)

structure LabelEvidenceRef.Fields where
  schema : SchemaRef
  evidence_id : PyStr
  kind : EvidenceKind
  artifact_ref : ArtifactRef
  producer_id : PyStr
  produced_utc_ns : Int
  independent_of_method_ids : List PyStr
deriving DecidableEq

def LabelEvidenceRef.Fields.post_init (e : LabelEvidenceRef.Fields) : Except PyError Unit :=
  checkAll [
    raiseIf (e.schema.schema_id ≠ str "org.leo-flow.label-evidence-ref" ∨ e.schema.version ≠ V0_1)
      (.value "unsupported label evidence schema"),
    requireToken e.evidence_id IsToken "evidence_id",
    requireToken e.producer_id IsToken "producer_id",
    requireUtcNs e.produced_utc_ns "produced_utc_ns",
    raiseIf (e.kind = .unlabeled) (.value "unlabeled data cannot cite label evidence"),
    raiseIf (e.artifact_ref.schema = none) (.value "label evidence artifact must be versioned"),
    raiseIf (¬Canonical e.independent_of_method_ids ∨ [] ∈ e.independent_of_method_ids)
      (.value "independent method IDs must be unique and canonical")]

/-- `LabelEvidenceRef` -/
abbrev LabelEvidenceRef := Checked LabelEvidenceRef.Fields.post_init

def LabelEvidenceRef.toPy (e : LabelEvidenceRef) : PyValue :=
  .dataclass "LabelEvidenceRef" [
    ("schema", e.val.schema.toPy),
    ("evidence_id", .str e.val.evidence_id),
    ("kind", .str e.val.kind.value),
    ("artifact_ref", e.val.artifact_ref.toPy),
    ("producer_id", .str e.val.producer_id),
    ("produced_utc_ns", .int e.val.produced_utc_ns),
    ("independent_of_method_ids", .tuple (e.val.independent_of_method_ids.map .str))]

namespace DwellContract

/-- `MAX_DWELL_CENTER_FREQUENCY_HZ` -/
def MAX_DWELL_CENTER_FREQUENCY_HZ : Int := 6000000000

/-- `MAX_DWELL_SAMPLE_RATE_HZ` -/
def MAX_DWELL_SAMPLE_RATE_HZ : Int := 20000000

/-- `MAX_DWELL_BANDWIDTH_HZ` -/
def MAX_DWELL_BANDWIDTH_HZ : Int := 20000000

/-- `MAX_DWELL_DURATION_NS` -/
def MAX_DWELL_DURATION_NS : Int := 60000000000

/-- `MAX_DWELL_SAMPLE_COUNT` -/
def MAX_DWELL_SAMPLE_COUNT : Int := 100000000

/-- `MAX_DWELL_TTL_NS` -/
def MAX_DWELL_TTL_NS : Int := 300000000000

/-- `_validate_tuning` -/
def validate_tuning (center_frequency_hz sample_rate_hz bandwidth_hz : Int) : Except PyError Unit :=
  checkAll [
    raiseIf (¬(0 < center_frequency_hz ∧ center_frequency_hz ≤ MAX_DWELL_CENTER_FREQUENCY_HZ))
      (.value "dwell center frequency exceeds its hard bound"),
    raiseIf (¬(0 < sample_rate_hz ∧ sample_rate_hz ≤ MAX_DWELL_SAMPLE_RATE_HZ))
      (.value "dwell sample rate exceeds its hard bound"),
    raiseIf (¬(0 < bandwidth_hz ∧ bandwidth_hz ≤ min sample_rate_hz MAX_DWELL_BANDWIDTH_HZ))
      (.value "dwell bandwidth exceeds its hard bound")]

/-- `_validate_evidence` -/
def validate_evidence (evidence_refs : List LabelEvidenceRef) : Except PyError Unit :=
  checkAll [
    raiseIf (evidence_refs = []) (.value "scan and dwell requests require evidence"),
    raiseIf (¬Canonical (evidence_refs.map fun e => e.val.evidence_id))
      (.value "request evidence must be unique and canonical")]

end DwellContract

open DwellContract

structure ScanResultRef.Fields where
  schema : SchemaRef
  result_id : PyStr
  recording_id : RecordingId
  recording_identity_digest : Digest
  feature_set_ref : FeatureSetRef
  station_id : StationId
  radio_id : RadioId
  observed_utc_ns : Int
  center_frequency_hz : Int
  sample_rate_hz : Int
  bandwidth_hz : Int
  evidence_refs : List LabelEvidenceRef

def ScanResultRef.Fields.post_init (s : ScanResultRef.Fields) : Except PyError Unit :=
  checkAll [
    raiseIf (s.schema.schema_id ≠ str "org.leo-flow.scan-result-ref" ∨ s.schema.version ≠ V0_1)
      (.value "unsupported scan result schema"),
    requireToken s.result_id IsToken "result_id",
    raiseIf (¬str "scanresult_" <+: s.result_id) (.value "result_id must start with 'scanresult_'"),
    requireUtcNs s.observed_utc_ns "observed_utc_ns",
    validate_tuning s.center_frequency_hz s.sample_rate_hz s.bandwidth_hz,
    validate_evidence s.evidence_refs]

/-- `ScanResultRef` -/
abbrev ScanResultRef := Checked ScanResultRef.Fields.post_init

def ScanResultRef.toPy (s : ScanResultRef) : PyValue :=
  .dataclass "ScanResultRef" [
    ("schema", s.val.schema.toPy),
    ("result_id", .str s.val.result_id),
    ("recording_id", s.val.recording_id.toPy),
    ("recording_identity_digest", s.val.recording_identity_digest.toPy),
    ("feature_set_ref", s.val.feature_set_ref.toPy),
    ("station_id", s.val.station_id.toPy),
    ("radio_id", s.val.radio_id.toPy),
    ("observed_utc_ns", .int s.val.observed_utc_ns),
    ("center_frequency_hz", .int s.val.center_frequency_hz),
    ("sample_rate_hz", .int s.val.sample_rate_hz),
    ("bandwidth_hz", .int s.val.bandwidth_hz),
    ("evidence_refs", .tuple (s.val.evidence_refs.map LabelEvidenceRef.toPy))]

structure DwellRequest.Fields where
  schema : SchemaRef
  request_id : PyStr
  source : ScanResultRef
  station_id : StationId
  radio_id : RadioId
  issued_utc_ns : Int
  expires_utc_ns : Int
  center_frequency_hz : Int
  sample_rate_hz : Int
  bandwidth_hz : Int
  duration_ns : Int
  sample_count : Int
  reason_code : PyStr
  evidence_refs : List LabelEvidenceRef
  idempotency_key : PyStr

def DwellRequest.Fields.post_init (r : DwellRequest.Fields) : Except PyError Unit :=
  checkAll [
    raiseIf (r.schema.schema_id ≠ str "org.leo-flow.dwell-request" ∨ r.schema.version ≠ V0_1)
      (.value "unsupported dwell request schema"),
    requireToken r.request_id IsToken "request_id",
    raiseIf (¬str "dwell_" <+: r.request_id) (.value "request_id must start with 'dwell_'"),
    requireUtcNs r.issued_utc_ns "issued_utc_ns",
    requireUtcNs r.expires_utc_ns "expires_utc_ns",
    raiseIf (¬(r.source.val.observed_utc_ns ≤ r.issued_utc_ns ∧ r.issued_utc_ns < r.expires_utc_ns ∧
        r.expires_utc_ns ≤ r.issued_utc_ns + MAX_DWELL_TTL_NS))
      (.value "dwell request validity interval is invalid or too long"),
    raiseIf (r.station_id ≠ r.source.val.station_id ∨ r.radio_id ≠ r.source.val.radio_id)
      (.value "dwell routing identity differs from its scan result"),
    validate_tuning r.center_frequency_hz r.sample_rate_hz r.bandwidth_hz,
    raiseIf ((r.center_frequency_hz, r.sample_rate_hz, r.bandwidth_hz) ≠ (r.source.val.center_frequency_hz,
        r.source.val.sample_rate_hz, r.source.val.bandwidth_hz))
      (.value "dwell tuning differs from its scan result"),
    raiseIf (¬(0 < r.duration_ns ∧ r.duration_ns ≤ MAX_DWELL_DURATION_NS))
      (.value "dwell duration exceeds its hard bound"),
    raiseIf (¬(0 < r.sample_count ∧ r.sample_count ≤ MAX_DWELL_SAMPLE_COUNT))
      (.value "dwell sample count exceeds its hard bound"),
    raiseIf (r.sample_count * 1000000000 ≠ r.sample_rate_hz * r.duration_ns)
      (.value "dwell duration and sample count disagree"),
    requireToken r.reason_code IsToken "reason_code",
    validate_evidence r.evidence_refs,
    raiseIf (r.evidence_refs ≠ r.source.val.evidence_refs) (.value "dwell evidence differs from its scan result"),
    requireToken r.idempotency_key IsToken "idempotency_key"]

/-- `DwellRequest` -/
abbrev DwellRequest := Checked DwellRequest.Fields.post_init

def DwellRequest.toPy (r : DwellRequest) : PyValue :=
  .dataclass "DwellRequest" [
    ("schema", r.val.schema.toPy),
    ("request_id", .str r.val.request_id),
    ("source", ScanResultRef.toPy r.val.source),
    ("station_id", r.val.station_id.toPy),
    ("radio_id", r.val.radio_id.toPy),
    ("issued_utc_ns", .int r.val.issued_utc_ns),
    ("expires_utc_ns", .int r.val.expires_utc_ns),
    ("center_frequency_hz", .int r.val.center_frequency_hz),
    ("sample_rate_hz", .int r.val.sample_rate_hz),
    ("bandwidth_hz", .int r.val.bandwidth_hz),
    ("duration_ns", .int r.val.duration_ns),
    ("sample_count", .int r.val.sample_count),
    ("reason_code", .str r.val.reason_code),
    ("evidence_refs", .tuple (r.val.evidence_refs.map LabelEvidenceRef.toPy)),
    ("idempotency_key", .str r.val.idempotency_key)]

/-! ## The gate -/

structure DwellSafetyPolicy.Fields where
  station_id : StationId
  radio_id : RadioId
  receiver_chain_ids : List ReceiverChainId
  gain : GainSetting
  minimum_center_frequency_hz : Int
  maximum_center_frequency_hz : Int
  maximum_sample_rate_hz : Int
  maximum_bandwidth_hz : Int
  maximum_duration_ns : Int
  maximum_sample_count : Int

def DwellSafetyPolicy.Fields.post_init (p : DwellSafetyPolicy.Fields) : Except PyError Unit :=
  checkAll [
    raiseIf (p.receiver_chain_ids = [] ∨ ¬p.receiver_chain_ids.Nodup)
      (.value "dwell receiver chains must be non-empty and unique"),
    raiseIf (¬(0 < p.minimum_center_frequency_hz ∧ p.minimum_center_frequency_hz ≤ p.maximum_center_frequency_hz ∧
        p.maximum_center_frequency_hz ≤ MAX_DWELL_CENTER_FREQUENCY_HZ))
      (.value "dwell policy frequency range is invalid"),
    raiseIf (∃ cap ∈ [(p.maximum_sample_rate_hz, MAX_DWELL_SAMPLE_RATE_HZ),
        (p.maximum_bandwidth_hz, MAX_DWELL_BANDWIDTH_HZ), (p.maximum_duration_ns, MAX_DWELL_DURATION_NS),
        (p.maximum_sample_count, MAX_DWELL_SAMPLE_COUNT)], ¬(0 < cap.1 ∧ cap.1 ≤ cap.2))
      (.value "dwell policy exceeds a contract hard bound"),
    raiseIf (p.maximum_sample_rate_hz < p.maximum_bandwidth_hz)
      (.value "dwell policy bandwidth cannot exceed sample rate")]

/-- `DwellSafetyPolicy` -/
abbrev DwellSafetyPolicy := Checked DwellSafetyPolicy.Fields.post_init

namespace DwellGate

/-- `float(n)` -/
def toFloat (n : Int) : Except PyError Num :=
  match PyFloat.ofInt n with
  | some f => .ok (.float f)
  | none => .error ⟨.overflow_error, "int too large to convert to float"⟩

/-- A tag whose value is a string. -/
def tag (key : String) (value : PyStr) : PyStr × PyValue.Any := (str key, ⟨.str value, trivial⟩)

/-- The tag `evidence_digests`. -/
def evidence_digests (request : DwellRequest) : PyValue.Any where
  val := .tuple (request.val.evidence_refs.map fun e => .str e.val.artifact_ref.digest.toStr)
  property := by
    show PyValue.ValidItems _
    rw [PyValue.validItems_iff]
    intro v hv
    obtain ⟨e, _, rfl⟩ := List.mem_map.1 hv
    trivial

/-- `freeze_mapping(tags)`: the tags in the order of their keys. -/
def segmentTags (request : DwellRequest) : PyValue.Pairs := [
  tag "dwell_request_id" request.val.request_id,
  tag "dwell_request_schema" (request.val.schema.schema_id ++ str "/" ++ request.val.schema.version.toStr),
  (str "evidence_digests", evidence_digests request),
  tag "reason_code" request.val.reason_code,
  tag "source_feature_set_id" request.val.source.val.feature_set_ref.feature_set_id.value,
  tag "source_recording_id" request.val.source.val.recording_id.value,
  tag "source_scan_result_id" request.val.source.val.result_id,
  tag "tx" (str "prohibited")]

/-- The segment of the plan. -/
def planSegment (request : DwellRequest) (policy : DwellSafetyPolicy) : Except PyError SegmentRequest := do
  let segment_id ← ContractId.parse .segment (str "seg_" ++ request.val.request_id)
  let center_frequency_hz ← toFloat request.val.center_frequency_hz
  let sample_rate_hz ← toFloat request.val.sample_rate_hz
  let bandwidth_hz ← toFloat request.val.bandwidth_hz
  Checked.make SegmentRequest.Fields.post_init {
    segment_id, center_frequency_hz, sample_rate_hz, bandwidth_hz
    receiver_chain_ids := policy.val.receiver_chain_ids
    gain := policy.val.gain
    sample_count := some request.val.sample_count
    tags := segmentTags request }

/-- `SchemaRef(CapturePlan.SCHEMA_ID)` -/
def planSchema : SchemaRef := ⟨str "org.leo-flow.capture-plan", V0_1, isToken_capture_plan⟩

/-- `_capture_plan` -/
def capture_plan (request : DwellRequest) (policy : DwellSafetyPolicy) : Except PyError CapturePlan := do
  let segment ← planSegment request policy
  let plan_id ← ContractId.parse .plan (str "plan_" ++ request.val.request_id)
  let activity_id ← ContractId.parse .activity (str "act_" ++ request.val.request_id)
  let activity ← Checked.make ActivityRequest.Fields.post_init { activity_id, kind := .dwell, segments := [segment] }
  let digest ← canonicalDigest (DwellRequest.toPy request)
  Checked.make CapturePlan.Fields.post_init {
    schema := planSchema
    plan_id
    radio_id := request.val.radio_id
    receiver_chain_ids := policy.val.receiver_chain_ids
    activities := [activity]
    experiment_tags := [
      tag "dwell_idempotency_key" request.val.idempotency_key,
      tag "dwell_request_digest" digest.toStr,
      tag "dwell_request_id" request.val.request_id,
      tag "station_id" request.val.station_id.value] }

/-- `self._accepted` -/
abbrev Accepted := Table PyStr (Digest × CapturePlan)

/-- The checks of `accept` before the request is looked up; `DwellRequestRejected` is a `ValueError`. -/
def admissible (policy : DwellSafetyPolicy) (request : DwellRequest) (now_utc_ns : Int) : Except PyError Unit :=
  checkAll [
    requireUtcNs now_utc_ns "now_utc_ns",
    raiseIf (¬(request.val.issued_utc_ns ≤ now_utc_ns ∧ now_utc_ns < request.val.expires_utc_ns))
      (.value "dwell request is not currently valid"),
    raiseIf (request.val.station_id ≠ policy.val.station_id ∨ request.val.radio_id ≠ policy.val.radio_id)
      (.value "dwell request is routed to another station or radio"),
    raiseIf (¬(policy.val.minimum_center_frequency_hz ≤ request.val.center_frequency_hz ∧
        request.val.center_frequency_hz ≤ policy.val.maximum_center_frequency_hz ∧
        request.val.sample_rate_hz ≤ policy.val.maximum_sample_rate_hz ∧
        request.val.bandwidth_hz ≤ policy.val.maximum_bandwidth_hz ∧
        request.val.duration_ns ≤ policy.val.maximum_duration_ns ∧
        request.val.sample_count ≤ policy.val.maximum_sample_count))
      (.value "dwell request exceeds capture policy")]

/-- `DwellRequestGate.accept`: the plan, and the accepted requests after it. -/
def accept (policy : DwellSafetyPolicy) (accepted : Accepted) (request : DwellRequest) (now_utc_ns : Int) :
    Except PyError (CapturePlan × Accepted) := do
  admissible policy request now_utc_ns
  let identity ← canonicalDigest (DwellRequest.toPy request)
  match accepted.lookup request.val.idempotency_key with
  | some prior =>
    if prior.1 ≠ identity then .error (.value "dwell idempotency key identifies another request")
    else .ok (prior.2, accepted)
  | none => do
    let plan ← capture_plan request policy
    .ok (plan, accepted.insert request.val.idempotency_key (identity, plan))

/-! ## Sequences of requests -/

/-- One gate: what it remembers, every request with the plan it was given, and the requests that got a new plan. -/
structure GateState where
  accepted : Accepted
  granted : List (DwellRequest × CapturePlan)
  planned : List DwellRequest

/-- A presented request and the time; a rejected request changes nothing. -/
def present (policy : DwellSafetyPolicy) (s : GateState) (request : DwellRequest) (now_utc_ns : Int) : GateState :=
  match accept policy s.accepted request now_utc_ns with
  | .error _ => s
  | .ok (plan, accepted) => {
      accepted
      granted := (request, plan) :: s.granted
      planned := if s.accepted.lookup request.val.idempotency_key = none then request :: s.planned else s.planned }

/-- `DwellRequestGate`, from its construction on. -/
def machine (policy : DwellSafetyPolicy) : Machine GateState (DwellRequest × Int) where
  Init s := s = ⟨∅, [], []⟩
  step s a := some (present policy s a.1 a.2)

/-- Any two accepted requests that agree on `f` have equal plans. -/
def OnePlan {β : Type} (s : GateState) (f : DwellRequest → CapturePlan → β) : Prop :=
  ∀ a ∈ s.granted, ∀ b ∈ s.granted, f a.1 a.2 = f b.1 b.2 → a.2 = b.2

/-! ## The plan of a request -/

variable {policy : DwellSafetyPolicy}

/-- What of a plan tells requests apart: its ID and the first tag. -/
theorem capture_plan_identity {request : DwellRequest} {plan : CapturePlan} (h : capture_plan request policy = .ok plan) :
    plan.val.plan_id.value = str "plan_" ++ request.val.request_id ∧
      plan.val.experiment_tags.head? = some (tag "dwell_idempotency_key" request.val.idempotency_key) := by
  unfold capture_plan at h
  rcases bind_ok.1 h with ⟨segment, _, h⟩
  rcases bind_ok.1 h with ⟨plan_id, hplan_id, h⟩
  rcases bind_ok.1 h with ⟨activity_id, _, h⟩
  rcases bind_ok.1 h with ⟨activity, _, h⟩
  rcases bind_ok.1 h with ⟨digest, _, h⟩
  have hval := Checked.val_of_make h
  rw [hval]
  constructor
  · exact ContractId.value_of_parse hplan_id
  · rfl

/-- Plans of one ID are plans of one request ID. -/
theorem request_id_eq_iff {r r' : DwellRequest} {p p' : CapturePlan} (h : capture_plan r policy = .ok p)
    (h' : capture_plan r' policy = .ok p') :
    p.val.plan_id = p'.val.plan_id ↔ r.val.request_id = r'.val.request_id := by
  have hid := (capture_plan_identity h).1
  have hid' := (capture_plan_identity h').1
  constructor
  · intro heq
    have happ : str "plan_" ++ r.val.request_id = str "plan_" ++ r'.val.request_id := by rw [← hid, ← hid', heq]
    exact List.append_cancel_left happ
  · intro heq
    have hparse := ContractId.parse_value p.val.plan_id
    rw [hid, heq, ← hid', ContractId.parse_value] at hparse
    exact (Except.ok.inj hparse).symm

/-- Requests with different idempotency keys never have equal plans. -/
theorem plan_ne {r r' : DwellRequest} {p p' : CapturePlan} (h : capture_plan r policy = .ok p)
    (h' : capture_plan r' policy = .ok p') (hkey : r.val.idempotency_key ≠ r'.val.idempotency_key) : p ≠ p' := by
  intro heq
  have htag := (capture_plan_identity h).2
  rw [heq, (capture_plan_identity h').2] at htag
  have hvalue : PyValue.str r'.val.idempotency_key = .str r.val.idempotency_key :=
    congrArg (fun t : PyStr × PyValue.Any => t.2.val) (Option.some.inj htag)
  exact hkey (PyValue.str.inj hvalue).symm

/-! ## What holds of every sequence -/

/-- Every plan that was given out belongs to the request that made it, and no idempotency key made two. -/
structure Inv (policy : DwellSafetyPolicy) (s : GateState) : Prop where
  kept : ∀ key entry, s.accepted.lookup key = some entry →
    ∃ r ∈ s.planned, r.val.idempotency_key = key ∧ capture_plan r policy = .ok entry.2
  known : ∀ r ∈ s.planned, s.accepted.lookup r.val.idempotency_key ≠ none
  keys : (s.planned.map fun r => r.val.idempotency_key).Nodup
  given : ∀ a ∈ s.granted, ∃ r ∈ s.planned, r.val.idempotency_key = a.1.val.idempotency_key ∧
    capture_plan r policy = .ok a.2
  planned : ∀ r ∈ s.planned, ∃ p, capture_plan r policy = .ok p ∧ (r, p) ∈ s.granted

/-- What an accepted request did: it was given the plan that is kept, or a new one. -/
theorem accept_cases {s : Accepted} {request : DwellRequest} {now : Int} {plan : CapturePlan} {t : Accepted}
    (h : accept policy s request now = .ok (plan, t)) :
    (∃ identity, s.lookup request.val.idempotency_key = some (identity, plan) ∧ t = s) ∨
      ∃ identity, s.lookup request.val.idempotency_key = none ∧ capture_plan request policy = .ok plan ∧
        t = s.insert request.val.idempotency_key (identity, plan) := by
  unfold accept at h
  rcases bind_ok.1 h with ⟨u, _, h⟩
  rcases bind_ok.1 h with ⟨identity, _, h⟩
  split at h
  · rename_i prior hprior
    split at h
    · cases h
    · cases h
      exact .inl ⟨prior.1, hprior, rfl⟩
  · rename_i hnone
    rcases bind_ok.1 h with ⟨new, hnew, h⟩
    cases h
    exact .inr ⟨identity, hnone, hnew, rfl⟩

variable {s : GateState}

theorem inv_present (hs : Inv policy s) (request : DwellRequest) (now : Int) :
    Inv policy (present policy s request now) := by
  unfold present
  split
  · exact hs
  rename_i plan t haccept
  rcases accept_cases haccept with ⟨identity, hkept, rfl⟩ | ⟨identity, hnew, hplan, rfl⟩
  -- a replay: only the list of given plans grows
  · have hsome : s.accepted.lookup request.val.idempotency_key ≠ none := by simp [hkept]
    rw [if_neg hsome]
    refine { hs with given := ?_, planned := ?_ }
    · intro a ha
      rcases List.mem_cons.1 ha with rfl | ha
      · exact hs.kept _ _ hkept
      · exact hs.given a ha
    · intro r hr
      rcases hs.planned r hr with ⟨p, hp, hmem⟩
      exact ⟨p, hp, List.mem_cons_of_mem _ hmem⟩
  -- a new plan
  · rw [if_pos hnew]
    constructor
    · intro key entry hentry
      rw [Table.lookup_insert_ite] at hentry
      split at hentry
      · rename_i hkey
        cases hentry
        exact ⟨request, List.mem_cons_self, hkey.symm, hplan⟩
      · rcases hs.kept key entry hentry with ⟨r, hr, hkey, hp⟩
        exact ⟨r, List.mem_cons_of_mem _ hr, hkey, hp⟩
    · intro r hr
      rw [Table.lookup_insert_ite]
      split
      · simp
      · rename_i hkey
        rcases List.mem_cons.1 hr with rfl | hr
        · exact absurd rfl hkey
        · exact hs.known r hr
    · have hfresh : request.val.idempotency_key ∉ s.planned.map fun r => r.val.idempotency_key := by
        intro hmem
        rcases List.mem_map.1 hmem with ⟨r, hr, hkey⟩
        apply hs.known r hr
        rw [hkey]
        exact hnew
      exact List.nodup_cons.2 ⟨hfresh, hs.keys⟩
    · intro a ha
      rcases List.mem_cons.1 ha with rfl | ha
      · exact ⟨request, List.mem_cons_self, rfl, hplan⟩
      · rcases hs.given a ha with ⟨r, hr, hkey, hp⟩
        exact ⟨r, List.mem_cons_of_mem _ hr, hkey, hp⟩
    · intro r hr
      rcases List.mem_cons.1 hr with rfl | hr
      · exact ⟨plan, hplan, List.mem_cons_self⟩
      · rcases hs.planned r hr with ⟨p, hp, hmem⟩
        exact ⟨p, hp, List.mem_cons_of_mem _ hmem⟩

theorem inv_reachable (h : (machine policy).Reachable s) : Inv policy s := by
  refine Machine.init_invariant _ ?_ ?_ h
  · rintro s rfl
    constructor <;> simp
  · intro s a t hs hstep
    cases hstep
    exact inv_present hs a.1 a.2

/-- Requests with one idempotency key that made plans are one request. -/
theorem planned_inj (hs : Inv policy s) {r r' : DwellRequest} (hr : r ∈ s.planned) (hr' : r' ∈ s.planned)
    (hkey : r.val.idempotency_key = r'.val.idempotency_key) : r = r' :=
  List.inj_on_of_nodup_map hs.keys hr hr' hkey

/-- A plan is given for one idempotency key only once. -/
theorem onePlan_key (hs : Inv policy s) : OnePlan s fun r _ => r.val.idempotency_key := by
  intro a ha b hb hkey
  rcases hs.given a ha with ⟨r, hr, hra, hp⟩
  rcases hs.given b hb with ⟨r', hr', hrb, hp'⟩
  have heq : r = r' := planned_inj hs hr hr' (hra.trans (hkey.trans hrb.symm))
  subst heq
  rw [hp] at hp'
  exact Except.ok.inj hp'

/-- A plan ID means one plan exactly when no two requests that made plans have one request ID. -/
theorem onePlan_plan_id_iff (hs : Inv policy s) :
    (OnePlan s fun _ p => p.val.plan_id) ↔ (s.planned.map fun r => r.val.request_id).Nodup := by
  constructor
  · intro hone
    -- two requests of one request ID have plans of one ID, hence one plan, hence one key
    apply List.Nodup.map_on _ (List.Nodup.of_map _ hs.keys)
    intro r hr r' hr' hid
    rcases hs.planned r hr with ⟨p, hp, hmem⟩
    rcases hs.planned r' hr' with ⟨p', hp', hmem'⟩
    have heq : p = p' := hone (r, p) hmem (r', p') hmem' ((request_id_eq_iff hp hp').2 hid)
    have hkey : r.val.idempotency_key = r'.val.idempotency_key := by
      by_contra hne
      exact plan_ne hp hp' hne heq
    exact planned_inj hs hr hr' hkey
  · intro hnodup a ha b hb hid
    rcases hs.given a ha with ⟨r, hr, _, hp⟩
    rcases hs.given b hb with ⟨r', hr', _, hp'⟩
    have heq : r = r' := List.inj_on_of_nodup_map hnodup hr hr' ((request_id_eq_iff hp hp').1 hid)
    subst heq
    rw [hp] at hp'
    exact Except.ok.inj hp'

/-! ## Two dwells under one request ID -/

section Example

def zeroDigest : Digest := Sample.zeros

/-- One label of the scan. -/
def scanEvidence : LabelEvidenceRef where
  val := {
    schema := ⟨str "org.leo-flow.label-evidence-ref", V0_1, by decide⟩
    evidence_id := str "evidence_1"
    kind := .tle_weak_association
    artifact_ref := ⟨str "artifact_1", zeroDigest, some ⟨str "org.leo-flow.weak-label", V0_1, by decide⟩, by decide⟩
    producer_id := str "producer"
    produced_utc_ns := 1
    independent_of_method_ids := [] }
  ok := by decide +kernel

def scanResult : ScanResultRef where
  val := {
    schema := ⟨str "org.leo-flow.scan-result-ref", V0_1, by decide⟩
    result_id := str "scanresult_1"
    recording_id := Sample.rec_1
    recording_identity_digest := zeroDigest
    feature_set_ref := ⟨Sample.fset_1, Sample.arun_1,
      ⟨zeroDigest, 1, [], [], []⟩⟩
    station_id := Sample.station_1
    radio_id := Sample.radio_1
    observed_utc_ns := 1
    center_frequency_hz := 1000000000
    sample_rate_hz := 1000000
    bandwidth_hz := 1000000
    evidence_refs := [scanEvidence] }
  ok := by decide +kernel

def dwellFields (idempotency_key : String) : DwellRequest.Fields where
  schema := ⟨str "org.leo-flow.dwell-request", V0_1, by decide⟩
  request_id := str "dwell_1"
  source := scanResult
  station_id := scanResult.val.station_id
  radio_id := scanResult.val.radio_id
  issued_utc_ns := 2
  expires_utc_ns := 1000000000
  center_frequency_hz := 1000000000
  sample_rate_hz := 1000000
  bandwidth_hz := 1000000
  duration_ns := 1000000
  sample_count := 1000
  reason_code := str "follow_up"
  evidence_refs := [scanEvidence]
  idempotency_key := str idempotency_key

def firstDwell : DwellRequest := ⟨dwellFields "key_1", by decide +kernel⟩

/-- The same dwell under another idempotency key. -/
def secondDwell : DwellRequest := ⟨dwellFields "key_2", by decide +kernel⟩

def stationPolicy : DwellSafetyPolicy where
  val := {
    station_id := scanResult.val.station_id
    radio_id := scanResult.val.radio_id
    receiver_chain_ids := [Sample.rx_1]
    gain := ⟨{ mode := .agc }, GainSetting.Fields.agc_ok⟩
    minimum_center_frequency_hz := 1
    maximum_center_frequency_hz := 6000000000
    maximum_sample_rate_hz := 20000000
    maximum_bandwidth_hz := 20000000
    maximum_duration_ns := 60000000000
    maximum_sample_count := 100000000 }
  ok := by decide +kernel

/-- The gate after both dwells. -/
def bothPresented : GateState := present stationPolicy (present stationPolicy ⟨∅, [], []⟩ firstDwell 2) secondDwell 2

theorem bothPresented_reachable : (machine stationPolicy).Reachable bothPresented :=
  .step (secondDwell, 2) (.step (firstDwell, 2) (.init rfl) rfl) rfl

theorem bothPresented_planned : bothPresented.granted.length = 2 ∧
    bothPresented.planned.map (fun r => r.val.request_id) = [str "dwell_1", str "dwell_1"] := by
  decide +kernel

end Example

/-- After any sequence of requests: an idempotency key has one plan, and a plan ID has one plan exactly when no request
that made a new plan carried the request ID of an earlier one. -/
theorem dwell_plan_identity {s : GateState} (h : (machine policy).Reachable s) :
    (OnePlan s fun r _ => r.val.idempotency_key) ∧
      ((OnePlan s fun _ p => p.val.plan_id) ↔ (s.planned.map fun r => r.val.request_id).Nodup) := by
  constructor
  · exact onePlan_key (inv_reachable h)
  · exact onePlan_plan_id_iff (inv_reachable h)

theorem dwell_plan_identity_two_keys :
    (OnePlan bothPresented fun r _ => r.val.idempotency_key) ∧
      ((OnePlan bothPresented fun _ p => p.val.plan_id) ↔
        (bothPresented.planned.map fun r => r.val.request_id).Nodup) :=
  dwell_plan_identity bothPresented_reachable

/-- Two valid requests of one request ID and two idempotency keys are both accepted, with one plan ID and two plans. -/
theorem two_plans_one_id : (machine stationPolicy).Reachable bothPresented ∧ bothPresented.granted.length = 2 ∧
    ¬OnePlan bothPresented fun _ p => p.val.plan_id := by
  refine ⟨bothPresented_reachable, bothPresented_planned.1, ?_⟩
  intro hone
  have hnodup := (onePlan_plan_id_iff (inv_reachable bothPresented_reachable)).1 hone
  rw [bothPresented_planned.2] at hnodup
  exact absurd hnodup (by decide)

end DwellGate

end LeoFlow
