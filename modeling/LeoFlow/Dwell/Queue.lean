import LeoFlow.Core.Table
import LeoFlow.Dwell.Clock
import LeoFlow.Jobs.Queue

/-!
# LeoFlow.Dwell.Queue — the dwell request tables and their SQL functions

Migration 0019: the ingress table `dwell_request_ingress`, the rows of `job` with
`job_type = 'dwell_capture'`, and the functions that move them. As in
`LeoFlow.Jobs.Queue` a statement reads the clock in its `WHERE` clause (`now`) and again
in its `SET` list (`later`), in microseconds; instants of a request are integer
nanoseconds. `J` is the type of `jsonb` values.

The catalog tables a publication is checked against are outside this model: whether
the source is exact and authoritative is an argument of `publish_dwell_request`.
-/

namespace LeoFlow

open Postgres

/-! ## Rows -/

/-- `^[0-9a-f]{64}$` -/
def IsHexDigest (s : PyStr) : Prop := s.length = 64 ∧ ∀ c ∈ s, IsLowerHex c

instance (s : PyStr) : Decidable (IsHexDigest s) := inferInstanceAs (Decidable (_ ∧ _))

/-- `^<kind>_[A-Za-z0-9][A-Za-z0-9._:-]*$` -/
def IsTokenOf (kind : PyStr) (s : PyStr) : Prop :=
  s.take kind.length = kind ∧ IsToken (s.drop kind.length)

instance (kind s : PyStr) : Decidable (IsTokenOf kind s) := inferInstanceAs (Decidable (_ ∧ _))

/-- `[[:space:]]` of the C locale -/
@[reducible] def IsSpace (c : Nat) : Prop := 9 ≤ c ∧ c ≤ 13 ∨ c = 32

/-- `^[^[:space:]]+$` -/
def IsIdempotencyKey (s : PyStr) : Prop := s ≠ [] ∧ ∀ c ∈ s, ¬IsSpace c

instance (s : PyStr) : Decidable (IsIdempotencyKey s) := inferInstanceAs (Decidable (_ ∧ _))

/-- The longest life of a request: five minutes. -/
def maxTtlNs : Int := 300000000000

/-- The columns of `dwell_request_ingress` that a publication fills. -/
structure DwellIngress where
  request_id : PyStr
  job_id : JobId
  request_schema_id : PyStr
  request_schema_version : PyStr
  request_digest_algorithm : PyStr
  request_digest_value : PyStr
  idempotency_key : PyStr
  source_recording_id : PyStr
  source_recording_digest_algorithm : PyStr
  source_recording_digest_value : PyStr
  source_feature_set_id : PyStr
  source_analysis_run_id : PyStr
  source_feature_digest_algorithm : PyStr
  source_feature_digest_value : PyStr
  station_id : PyStr
  radio_id : PyStr
  issued_utc_ns : Int
  expires_utc_ns : Int
deriving DecidableEq

/-- The `CHECK` constraints of the table, and the range of its `bigint` columns. -/
structure DwellIngress.Checks (d : DwellIngress) : Prop where
  request_id : IsTokenOf (str "dwell_") d.request_id
  request_schema_id : d.request_schema_id = str "org.leo-flow.dwell-request"
  request_schema_version : d.request_schema_version = str "0.1"
  request_digest_algorithm : d.request_digest_algorithm = str "sha256"
  request_digest_value : IsHexDigest d.request_digest_value
  idempotency_key : IsIdempotencyKey d.idempotency_key
  source_recording_digest_algorithm : d.source_recording_digest_algorithm = str "sha256"
  source_recording_digest_value : IsHexDigest d.source_recording_digest_value
  source_feature_digest_algorithm : d.source_feature_digest_algorithm = str "sha256"
  station_id : IsTokenOf (str "station_") d.station_id
  radio_id : IsTokenOf (str "radio_") d.radio_id
  issued_utc_ns : 0 ≤ d.issued_utc_ns
  expires_utc_ns : d.issued_utc_ns < d.expires_utc_ns
  max_ttl : d.expires_utc_ns ≤ d.issued_utc_ns + maxTtlNs
  bigint : IsBigint d.issued_utc_ns ∧ IsBigint d.expires_utc_ns

/-- Two rows the primary key and the `UNIQUE` constraints exclude. -/
def DwellIngress.Clashes (a b : DwellIngress) : Prop :=
  a.request_id = b.request_id ∨ a.job_id = b.job_id ∨
    a.request_digest_value = b.request_digest_value ∨ a.idempotency_key = b.idempotency_key

instance (a b : DwellIngress) : Decidable (a.Clashes b) :=
  inferInstanceAs (Decidable (_ ∨ _ ∨ _ ∨ _))

/-- A row of `dwell_request_ingress`. -/
structure DwellIngressRow extends DwellIngress where
  checks : toDwellIngress.Checks

/-- `source.feature_set_ref` and the recording of a payload. -/
structure DwellSource where
  recording_id : PyStr
  recording_digest_algorithm : PyStr
  recording_digest_value : PyStr
  feature_set_id : PyStr
  analysis_run_id : PyStr
  bundle_digest_algorithm : PyStr
  bundle_digest_value : PyStr
deriving DecidableEq

/-- The payload of a dwell job: the fields that SQL reads, and the others. -/
structure DwellPayload (J : Type) where
  schema_id : PyStr
  schema_major : Int
  schema_minor : Int
  request_id : PyStr
  idempotency_key : PyStr
  station_id : PyStr
  radio_id : PyStr
  issued_utc_ns : Int
  expires_utc_ns : Int
  source : DwellSource
  others : J
deriving DecidableEq

/-- `_publication`: the object `publish_dwell_request` is called with. -/
structure DwellPublication (J : Type) extends DwellIngress where
  payload : DwellPayload J
  /-- `octet_length(p_publication::text)` -/
  octet_length : Nat

/-- What the function checks before it touches a table. -/
def DwellPublication.IsValid {J : Type} (p : DwellPublication J) : Prop :=
  p.octet_length ≤ 65536 ∧
  p.request_schema_id = str "org.leo-flow.dwell-request" ∧
  p.request_schema_version = str "0.1" ∧
  p.request_digest_algorithm = str "sha256" ∧
  IsHexDigest p.request_digest_value ∧
  p.job_id = str "job_dwell_" ++ p.request_digest_value ∧
  IsTokenOf (str "dwell_") p.request_id ∧
  IsIdempotencyKey p.idempotency_key ∧
  IsTokenOf (str "station_") p.station_id ∧
  IsTokenOf (str "radio_") p.radio_id ∧
  p.source_recording_digest_algorithm = str "sha256" ∧
  p.source_feature_digest_algorithm = str "sha256" ∧
  IsHexDigest p.source_recording_digest_value ∧
  IsHexDigest p.source_feature_digest_value ∧
  0 ≤ p.issued_utc_ns ∧
  p.issued_utc_ns < p.expires_utc_ns ∧
  p.expires_utc_ns ≤ p.issued_utc_ns + maxTtlNs ∧
  p.payload.schema_id = p.request_schema_id ∧
  p.payload.schema_major = 0 ∧
  p.payload.schema_minor = 1 ∧
  p.payload.request_id = p.request_id ∧
  p.payload.idempotency_key = p.idempotency_key ∧
  p.payload.station_id = p.station_id ∧
  p.payload.radio_id = p.radio_id ∧
  p.payload.issued_utc_ns = p.issued_utc_ns ∧
  p.payload.expires_utc_ns = p.expires_utc_ns ∧
  p.payload.source.recording_id = p.source_recording_id ∧
  p.payload.source.recording_digest_algorithm = p.source_recording_digest_algorithm ∧
  p.payload.source.recording_digest_value = p.source_recording_digest_value ∧
  p.payload.source.feature_set_id = p.source_feature_set_id ∧
  p.payload.source.analysis_run_id = p.source_analysis_run_id ∧
  p.payload.source.bundle_digest_algorithm = p.source_feature_digest_algorithm ∧
  p.payload.source.bundle_digest_value = p.source_feature_digest_value

instance {J : Type} (p : DwellPublication J) : Decidable p.IsValid := by
  unfold DwellPublication.IsValid
  infer_instance

/-- The casts and the sum the checks compute stay inside `bigint`. -/
def DwellPublication.InRange {J : Type} (p : DwellPublication J) : Prop :=
  IsBigint p.issued_utc_ns ∧ IsBigint p.expires_utc_ns ∧ IsBigint (p.issued_utc_ns + maxTtlNs)

instance {J : Type} (p : DwellPublication J) : Decidable p.InRange :=
  inferInstanceAs (Decidable (_ ∧ _ ∧ _))

/-- What passes the checks of the function meets the constraints of the table. -/
theorem DwellPublication.checks {J : Type} {p : DwellPublication J} (hrange : p.InRange)
    (h : p.IsValid) : p.toDwellIngress.Checks := by
  obtain ⟨_, hschema, hversion, halgorithm, hdigest, _, hrequest, hkey, hstation, hradio, hrecording,
    hfeature, hrecordingDigest, _, hissued, hexpires, httl, _⟩ := h
  constructor <;> first
    | assumption
    | exact ⟨hrange.1, hrange.2.1⟩

/-- The `p_result_ref` of a completion. -/
structure DwellResultRef where
  artifact_id : PyStr
  digest_algorithm : PyStr
  digest_value : PyStr
  schema_id : PyStr
  schema_version : PyStr
deriving DecidableEq

/-- A row of `job` with `job_type = 'dwell_capture'`, under its `job_id`, with the row
constraints of the table. -/
structure DwellJob (J : Type) where
  payload_schema_id : PyStr
  payload_schema_version : PyStr
  payload : DwellPayload J
  state : JobState
  available_at_utc : Int
  attempt : Nat
  lease_token : Option PyStr
  lease_generation : Nat
  lease_expires_utc : Option Int
  result_ref : Option DwellResultRef
  last_error : Option PyStr
  park_reason : Option PyStr
  parked_at_utc : Option Int
  lease_consistent :
    state = .leased ∧ lease_token.isSome ∧ lease_expires_utc.isSome ∨
      state ≠ .leased ∧ lease_token = none ∧ lease_expires_utc = none
  job_parked_state_consistent :
    state = .parked ∧ (∃ reason ∈ park_reason, IsParkReason reason) ∧ parked_at_utc.isSome ∧
        result_ref = none ∧ last_error = none ∨
      state ≠ .parked ∧ park_reason = none ∧ parked_at_utc = none

namespace DwellJob

variable {J : Type}

/-- This token and generation hold an unexpired lease. -/
def activeLease (j : DwellJob J) (lease_token : PyStr) (lease_generation : Int) (now : Int) : Prop :=
  j.state = .leased ∧ j.lease_token = some lease_token ∧
    (j.lease_generation : Int) = lease_generation ∧ ∃ expires ∈ j.lease_expires_utc, now < expires

instance (j : DwellJob J) (lease_token : PyStr) (lease_generation now : Int) :
    Decidable (j.activeLease lease_token lease_generation now) :=
  inferInstanceAs (Decidable (_ ∧ _ ∧ _ ∧ ∃ expires ∈ j.lease_expires_utc, now < expires))

/-- The row is not final and no unexpired lease is on it. -/
def free (j : DwellJob J) (now : Int) : Prop :=
  (j.state = .ready ∨ j.state = .failed) ∨
    j.state = .leased ∧ ∃ expires ∈ j.lease_expires_utc, expires ≤ now

instance (j : DwellJob J) (now : Int) : Decidable (j.free now) :=
  inferInstanceAs (Decidable (_ ∨ _ ∧ ∃ expires ∈ j.lease_expires_utc, expires ≤ now))

/-- `succeeded` and `parked` are final. -/
def Terminal (j : DwellJob J) : Prop := j.state = .succeeded ∨ j.state = .parked

theorem not_terminal_of_free {j : DwellJob J} {now : Int} (h : j.free now) : ¬j.Terminal := by
  rcases h with (hstate | hstate) | ⟨hstate, _⟩ <;>
    · rintro (hfinal | hfinal) <;>
        · rw [hstate] at hfinal
          cases hfinal

theorem not_terminal_of_leased {j : DwellJob J} (h : j.state = .leased) : ¬j.Terminal := by
  rintro (hfinal | hfinal) <;>
    · rw [h] at hfinal
      cases hfinal

theorem parking_none {j : DwellJob J} (h : ¬j.Terminal) :
    j.park_reason = none ∧ j.parked_at_utc = none := by
  rcases j.job_parked_state_consistent with ⟨hparked, _⟩ | ⟨_, hnone⟩
  · exact absurd (Or.inr hparked) h
  · exact hnone

/-! ### The `SET` lists -/

/-- The row a publication inserts. -/
def published (p : DwellPublication J) (available_at_utc : Int) : DwellJob J where
  payload_schema_id := p.request_schema_id
  payload_schema_version := p.request_schema_version
  payload := p.payload
  state := .ready
  available_at_utc := available_at_utc
  attempt := 0
  lease_token := none
  lease_generation := 0
  lease_expires_utc := none
  result_ref := none
  last_error := none
  park_reason := none
  parked_at_utc := none
  lease_consistent := lease_released ready_ne_leased
  job_parked_state_consistent := Or.inr ⟨JobState.noConfusion, rfl, rfl⟩

def claim (j : DwellJob J) (lease_token : PyStr) (expires : Int) (h : ¬j.Terminal) : DwellJob J :=
  { j with
    state := .leased
    attempt := j.attempt + 1
    lease_generation := j.lease_generation + 1
    lease_token := some lease_token
    lease_expires_utc := some expires
    lease_consistent := lease_held lease_token expires
    job_parked_state_consistent := Or.inr ⟨JobState.noConfusion, parking_none h⟩ }

def heartbeat (j : DwellJob J) (expires : Int) (h : j.state = .leased) : DwellJob J :=
  { j with
    lease_expires_utc := some expires
    lease_consistent := by
      rcases j.lease_consistent with ⟨hstate, htoken, _⟩ | ⟨hstate, _⟩
      · exact Or.inl ⟨hstate, htoken, rfl⟩
      · exact absurd h hstate }

def complete (j : DwellJob J) (result_ref : DwellResultRef) (h : j.state = .leased) : DwellJob J :=
  { j with
    state := .succeeded
    result_ref := some result_ref
    lease_token := none
    lease_expires_utc := none
    lease_consistent := lease_released succeeded_ne_leased
    job_parked_state_consistent :=
      Or.inr ⟨JobState.noConfusion, parking_none (not_terminal_of_leased h)⟩ }

def fail (j : DwellJob J) (reason : PyStr) (retry_at_utc : Int) (h : j.state = .leased) :
    DwellJob J :=
  { j with
    state := .failed
    last_error := some reason
    available_at_utc := retry_at_utc
    lease_token := none
    lease_expires_utc := none
    lease_consistent := lease_released failed_ne_leased
    job_parked_state_consistent :=
      Or.inr ⟨JobState.noConfusion, parking_none (not_terminal_of_leased h)⟩ }

def park (j : DwellJob J) (reason : PyStr) (parked_at_utc : Int) (h : IsParkReason reason) :
    DwellJob J :=
  { j with
    state := .parked
    park_reason := some reason
    parked_at_utc := some parked_at_utc
    lease_token := none
    lease_expires_utc := none
    result_ref := none
    last_error := none
    lease_consistent := lease_released parked_ne_leased
    job_parked_state_consistent := Or.inl ⟨rfl, ⟨reason, rfl, h⟩, rfl, rfl, rfl⟩ }

end DwellJob

/-! ## Tables and functions -/

structure DwellTables (J : Type) where
  jobs : Table JobId (DwellJob J)
  /-- `dwell_request_ingress` -/
  ingress : List DwellIngressRow
  unique : ingress.Pairwise fun a b => ¬a.Clashes b.toDwellIngress

/-- What the functions raise. -/
inductive DwellSqlError where
  /-- "invalid dwell request publication", errcode 22023 -/
  | invalid_dwell_request_publication
  /-- "dwell request source is not exact and authoritative", errcode 23503 -/
  | dwell_request_source
  /-- "dwell job identity identifies different content", errcode 23505 -/
  | dwell_job_identity
  /-- "dwell request identity identifies different content", errcode 23505 -/
  | dwell_request_identity
  /-- "invalid dwell request claim", errcode 22023 -/
  | invalid_dwell_request_claim
  /-- a value leaves the range of its type, errcode 22003 -/
  | numeric_value_out_of_range
deriving DecidableEq

namespace DwellTables

variable {J : Type}

def empty : DwellTables J := ⟨∅, [], List.Pairwise.nil⟩

def job (q : DwellTables J) (id : JobId) : Option (DwellJob J) := q.jobs.lookup id

def setJob (q : DwellTables J) (id : JobId) (j : DwellJob J) : DwellTables J :=
  { q with jobs := q.jobs.insert id j }

/-- The ingress row joined to a job: `job_id` is unique in the table. -/
def ingressOf (q : DwellTables J) (id : JobId) : Option DwellIngressRow :=
  q.ingress.find? fun d => d.job_id = id

@[simp] theorem job_empty (id : JobId) : (empty : DwellTables J).job id = none := rfl

@[simp] theorem job_setJob (q : DwellTables J) (id id' : JobId) (j : DwellJob J) :
    (q.setJob id j).job id' = if id' = id then some j else q.job id' := by
  simp [job, setJob]

@[simp] theorem ingressOf_setJob (q : DwellTables J) (id id' : JobId) (j : DwellJob J) :
    (q.setJob id j).ingressOf id' = q.ingressOf id' := rfl

/-- The rows an insertion into `dwell_request_ingress` conflicts with. -/
def conflicts (q : DwellTables J) (d : DwellIngress) : List DwellIngressRow :=
  q.ingress.filter fun row => d.Clashes row.toDwellIngress

theorem not_clashes_of_conflicts {q : DwellTables J} {d : DwellIngress} (h : q.conflicts d = []) :
    ∀ row ∈ q.ingress, ¬d.Clashes row.toDwellIngress := by
  intro row hrow
  have hnot := List.filter_eq_nil_iff.1 h row hrow
  simpa using hnot

/-- A row without a conflict is inserted. -/
def insertIngress (q : DwellTables J) (d : DwellIngressRow)
    (h : q.conflicts d.toDwellIngress = []) : DwellTables J :=
  { q with
    ingress := d :: q.ingress
    unique := List.pairwise_cons.2 ⟨not_clashes_of_conflicts h, q.unique⟩ }

/-- The comparison that makes a publication a replay. -/
def exact (row d : DwellIngress) : Prop :=
  row.request_id = d.request_id ∧
  row.job_id = d.job_id ∧
  row.request_digest_algorithm = d.request_digest_algorithm ∧
  row.request_digest_value = d.request_digest_value ∧
  row.idempotency_key = d.idempotency_key ∧
  row.source_recording_id = d.source_recording_id ∧
  row.source_recording_digest_value = d.source_recording_digest_value ∧
  row.source_feature_set_id = d.source_feature_set_id ∧
  row.source_analysis_run_id = d.source_analysis_run_id ∧
  row.source_feature_digest_value = d.source_feature_digest_value ∧
  row.station_id = d.station_id ∧
  row.radio_id = d.radio_id ∧
  row.issued_utc_ns = d.issued_utc_ns ∧
  row.expires_utc_ns = d.expires_utc_ns

instance (row d : DwellIngress) : Decidable (exact row d) := by
  unfold exact
  infer_instance

/-- The insertion into `job`: `ON CONFLICT (job_id) DO NOTHING`, then the content of
the old row is compared. -/
def publishJob [DecidableEq J] (q : DwellTables J) (p : DwellPublication J) :
    Except DwellSqlError (DwellTables J) :=
  match to_timestamp p.issued_utc_ns with
  | none => .error .numeric_value_out_of_range
  | some available_at_utc =>
    match q.job p.job_id with
    | none => .ok (q.setJob p.job_id (.published p available_at_utc))
    | some j =>
      if j.payload_schema_id = p.request_schema_id ∧
          j.payload_schema_version = p.request_schema_version ∧ j.payload = p.payload then .ok q
      else .error .dwell_job_identity

/-- The insertion into `dwell_request_ingress`: `ON CONFLICT DO NOTHING`, then the one
conflicting row must be the same publication. -/
def publishIngress (q : DwellTables J) (d : DwellIngressRow) :
    Except DwellSqlError (DwellTables J × Bool) :=
  match h : q.conflicts d.toDwellIngress with
  | [] => .ok (q.insertIngress d h, true)
  | [row] => if exact row.toDwellIngress d.toDwellIngress then .ok (q, false)
    else .error .dwell_request_identity
  | _ => .error .dwell_request_identity

/-- `publish_dwell_request` -/
def publish_dwell_request [DecidableEq J] (q : DwellTables J) (p : DwellPublication J)
    (authoritative : Bool) : Except DwellSqlError (DwellTables J × Bool) :=
  if hrange : p.InRange then
    if hvalid : p.IsValid then
      if authoritative then
        match q.publishJob p with
        | .error e => .error e
        | .ok q => q.publishIngress ⟨p.toDwellIngress, p.checks hrange hvalid⟩
      else .error .dwell_request_source
    else .error .invalid_dwell_request_publication
  else .error .numeric_value_out_of_range

/-- The ingress row of a job on this route. -/
def routed (q : DwellTables J) (station_id radio_id : PyStr) (id : JobId) :
    Option DwellIngressRow :=
  (q.ingressOf id).filter fun d => d.station_id = station_id ∧ d.radio_id = radio_id

theorem requestExpired_isParkReason : IsParkReason (str "request_expired") := by decide

/-- The first statement of a claim: expired requests of the route without an unexpired
lease are parked. `ns` is the clock reading `now` in nanoseconds. -/
def parkExpired (q : DwellTables J) (station_id radio_id : PyStr) (now ns later : Int) :
    DwellTables J :=
  { q with
    jobs := q.jobs.mapRows fun id j =>
      if (∃ d ∈ q.routed station_id radio_id id, d.expires_utc_ns ≤ ns) ∧ j.free now then
        j.park (str "request_expired") later requestExpired_isParkReason
      else j }

/-- The `WHERE` clause of the candidate. -/
def claimable (q : DwellTables J) (station_id radio_id : PyStr) (now ns : Int) (id : JobId)
    (j : DwellJob J) : Prop :=
  (∃ d ∈ q.routed station_id radio_id id, d.issued_utc_ns ≤ ns ∧ ns < d.expires_utc_ns) ∧
    j.available_at_utc ≤ now ∧ j.free now

instance (q : DwellTables J) (station_id radio_id : PyStr) (now ns : Int) (id : JobId)
    (j : DwellJob J) : Decidable (q.claimable station_id radio_id now ns id j) :=
  inferInstanceAs (Decidable ((∃ d ∈ q.routed station_id radio_id id, _) ∧ _ ∧ _))

/-- The first claimable row no other transaction has locked, by availability and
identifier. -/
def candidate (q : DwellTables J) (station_id radio_id : PyStr) (locked : List JobId)
    (now ns : Int) : Option (JobId × DwellJob J) :=
  let rows := q.jobs.entries.filter fun e =>
    e.1 ∉ locked ∧ q.claimable station_id radio_id now ns e.1 e.2
  let ordered := rows.insertionSort fun a b =>
    a.2.available_at_utc < b.2.available_at_utc ∨
      a.2.available_at_utc = b.2.available_at_utc ∧ a.1 ≤ b.1
  ordered.head?.map fun e => (e.1, e.2)

/-- The candidate is a claimable row of the table. -/
theorem candidate_ok {q : DwellTables J} {station_id radio_id : PyStr} {locked : List JobId}
    {now ns : Int} {id : JobId} {j : DwellJob J}
    (h : q.candidate station_id radio_id locked now ns = some (id, j)) :
    q.job id = some j ∧ q.claimable station_id radio_id now ns id j := by
  unfold candidate at h
  obtain ⟨⟨id', j'⟩, hhead, heq⟩ := Option.map_eq_some_iff.1 h
  cases heq
  have hmem := (List.mem_insertionSort _).1 (List.mem_of_mem_head? (Option.mem_def.2 hhead))
  rw [List.mem_filter] at hmem
  have hguard : id' ∉ locked ∧ q.claimable station_id radio_id now ns id' j' := by
    simpa using hmem.2
  exact ⟨(Table.mem_entries_iff _ _ _).1 hmem.1, hguard.2⟩

/-- `least(later + ttl, to_timestamp(expires_utc_ns::numeric / 1000000000))` -/
def leaseExpiry (d : DwellIngressRow) (ttl later : Int) : Except DwellSqlError Int :=
  match to_timestamp d.expires_utc_ns with
  | none => .error .numeric_value_out_of_range
  | some expires => .ok (min (later + ttl) expires)

/-- The second statement of a claim. -/
def claimCandidate (q : DwellTables J) (station_id radio_id lease_token : PyStr) (ttl : Int)
    (locked : List JobId) (now ns later : Int) :
    Except DwellSqlError (DwellTables J × Option (JobId × DwellJob J)) :=
  match h : q.candidate station_id radio_id locked now ns with
  | none => .ok (q, none)
  | some (id, j) =>
    match q.ingressOf id with
    | none => .ok (q, none)
    | some d =>
      match leaseExpiry d ttl later with
      | .error e => .error e
      | .ok expires =>
        if 2147483647 < j.attempt + 1 ∨ 9223372036854775807 < j.lease_generation + 1 then
          .error .numeric_value_out_of_range
        else
          let claimed := j.claim lease_token expires
            (DwellJob.not_terminal_of_free (candidate_ok h).2.2.2)
          .ok (q.setJob id claimed, some (id, claimed))

/-- `claim_dwell_request`; the clock readings of its first statement are `swept` and
`parked_at`. Outside the years a `bigint` of nanoseconds spans no reading compares. -/
def claim_dwell_request (q : DwellTables J) (station_id radio_id lease_token : PyStr) (ttl : Int)
    (locked : List JobId) (swept parked_at now later : Int) :
    Except DwellSqlError (DwellTables J × Option (JobId × DwellJob J)) :=
  if ¬IsTokenOf (str "station_") station_id ∨ ¬IsTokenOf (str "radio_") radio_id ∨
      lease_token = [] ∨ ttl ≤ 0 then .error .invalid_dwell_request_claim
  else
    match epoch_ns swept, epoch_ns now with
    | some swept_ns, some ns =>
      (q.parkExpired station_id radio_id swept swept_ns parked_at).claimCandidate station_id
        radio_id lease_token ttl locked now ns later
    | _, _ => .error .numeric_value_out_of_range

/-- The common form of the fenced updates: the row of an active lease, joined to its
ingress row, when the rest of the `WHERE` clause and the `SET` list give a new row. -/
def updateActive (q : DwellTables J) (job_id : JobId) (lease_token : PyStr)
    (lease_generation : Int) (now : Int)
    (update : DwellIngressRow → (j : DwellJob J) → j.state = .leased →
      Except DwellSqlError (Option (DwellJob J))) :
    Except DwellSqlError (DwellTables J × Option (DwellJob J)) :=
  match q.job job_id, q.ingressOf job_id with
  | some j, some d =>
    if h : j.activeLease lease_token lease_generation now then
      match update d j h.1 with
      | .error e => .error e
      | .ok none => .ok (q, none)
      | .ok (some j') => .ok (q.setJob job_id j', some j')
    else .ok (q, none)
  | _, _ => .ok (q, none)

/-- `expires_utc_ns > (date_part('epoch', now) * 1000000000)::bigint` -/
def unexpired (d : DwellIngressRow) (now : Int) : Except DwellSqlError Bool :=
  match epoch_ns now with
  | none => .error .numeric_value_out_of_range
  | some ns => .ok (decide (ns < d.expires_utc_ns))

/-- `heartbeat_dwell_request` -/
def heartbeat_dwell_request (q : DwellTables J) (job_id : JobId) (lease_token : PyStr)
    (lease_generation : Int) (ttl now later : Int) :
    Except DwellSqlError (DwellTables J × Option (DwellJob J)) :=
  q.updateActive job_id lease_token lease_generation now fun d j h => do
    if (← unexpired d now) ∧ 0 < ttl then
      let expires ← leaseExpiry d ttl later
      return some (j.heartbeat expires h)
    else return none

/-- What a completion checks of its result. -/
def resultOf (d : DwellIngressRow) (r : DwellResultRef) : Prop :=
  r.artifact_id = str "plan_" ++ d.request_id ∧ r.digest_algorithm = str "sha256" ∧
    IsHexDigest r.digest_value ∧ r.schema_id = str "org.leo-flow.capture-plan" ∧
    r.schema_version = str "0.1"

instance (d : DwellIngressRow) (r : DwellResultRef) : Decidable (resultOf d r) :=
  inferInstanceAs (Decidable (_ ∧ _ ∧ _ ∧ _ ∧ _))

/-- `complete_dwell_request` -/
def complete_dwell_request (q : DwellTables J) (job_id : JobId) (lease_token : PyStr)
    (lease_generation : Int) (result_ref : DwellResultRef) (now : Int) :
    Except DwellSqlError (DwellTables J × Option (DwellJob J)) :=
  q.updateActive job_id lease_token lease_generation now fun d j h => do
    if (← unexpired d now) ∧ resultOf d result_ref then return some (j.complete result_ref h)
    else return none

/-- `fail_dwell_request` -/
def fail_dwell_request (q : DwellTables J) (job_id : JobId) (lease_token : PyStr)
    (lease_generation : Int) (reason : PyStr) (retry_at_utc now : Int) :
    Except DwellSqlError (DwellTables J × Option (DwellJob J)) :=
  q.updateActive job_id lease_token lease_generation now fun d j h =>
    match to_timestamp d.expires_utc_ns with
    | none => .error .numeric_value_out_of_range
    | some expires =>
      if IsParkReason reason ∧ now < retry_at_utc ∧ retry_at_utc < expires then
        .ok (some (j.fail reason retry_at_utc h))
      else .ok none

/-- `park_dwell_request` -/
def park_dwell_request (q : DwellTables J) (job_id : JobId) (lease_token : PyStr)
    (lease_generation : Int) (reason : PyStr) (now later : Int) :
    Except DwellSqlError (DwellTables J × Option (DwellJob J)) :=
  q.updateActive job_id lease_token lease_generation now fun _ j _ =>
    if h : IsParkReason reason then .ok (some (j.park reason later h)) else .ok none

end DwellTables

end LeoFlow
