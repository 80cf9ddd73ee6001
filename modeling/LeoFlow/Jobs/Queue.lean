import LeoFlow.Core.Table
import LeoFlow.Contracts.Core

/-!
# LeoFlow.Jobs.Queue — the job table and its SQL functions

Migrations 0001, 0015 and 0017: the table `job` with its row constraints, and the
functions that move a row. Each function reads the database clock in its `WHERE`
clause (`now`) and again in its `SET` list (`later`); timestamps and intervals
are microseconds. `J` is the type of `jsonb` values.
-/

namespace LeoFlow

/-- `JobType` -/
inductive JobType where
  | recording_analysis
  | waterfall_analysis
  | starlink_analysis
  | starlink_suite_analysis
  | model_analysis
  | ephemeris_retrieval
  | ephemeris_link_backfill
deriving DecidableEq

/-- `JobState` -/
inductive JobState where
  | ready
  | leased
  | succeeded
  | failed
  | parked
deriving DecidableEq

theorem ready_ne_leased : JobState.ready ≠ .leased := JobState.noConfusion
theorem succeeded_ne_leased : JobState.succeeded ≠ .leased := JobState.noConfusion
theorem failed_ne_leased : JobState.failed ≠ .leased := JobState.noConfusion
theorem parked_ne_leased : JobState.parked ≠ .leased := JobState.noConfusion

/-- A leased row has its token and its time. -/
theorem lease_held (lease_token : PyStr) (expires : Int) :
    JobState.leased = .leased ∧ (some lease_token).isSome ∧ (some expires).isSome ∨
      JobState.leased ≠ .leased ∧ some lease_token = none ∧ some expires = none :=
  Or.inl ⟨rfl, rfl, rfl⟩

/-- Any other row has neither. -/
theorem lease_released {state : JobState} (h : state ≠ .leased) :
    state = .leased ∧ (none : Option PyStr).isSome ∧ (none : Option Int).isSome ∨
      state ≠ .leased ∧ (none : Option PyStr) = none ∧ (none : Option Int) = none :=
  Or.inr ⟨h, rfl, rfl⟩

abbrev JobId := PyStr

/-- `^[a-z0-9][a-z0-9._:-]{0,127}$` -/
def IsParkReason (reason : PyStr) : Prop :=
  Matches IsLowerAlnum (fun c => IsLowerAlnum c ∨ IsTokenPunct c) reason ∧ reason.length ≤ 128

instance (reason : PyStr) : Decidable (IsParkReason reason) :=
  inferInstanceAs (Decidable (Matches IsLowerAlnum _ reason ∧ _))

/-- A row of `job`, under its `job_id`, with the row constraints of the table. -/
structure Job (J : Type) where
  job_type : JobType
  payload_schema_id : PyStr
  payload_schema_version : PyStr
  payload : J
  state : JobState
  available_at_utc : Int
  attempt : Nat
  lease_token : Option PyStr
  lease_generation : Nat
  lease_expires_utc : Option Int
  result_ref : Option ArtifactRef
  last_error : Option PyStr
  park_reason : Option PyStr
  parked_at_utc : Option Int
  /-- the unnamed check of migration 0001 -/
  lease_consistent :
    state = .leased ∧ lease_token.isSome ∧ lease_expires_utc.isSome ∨
      state ≠ .leased ∧ lease_token = none ∧ lease_expires_utc = none
  job_parked_state_consistent :
    state = .parked ∧ (∃ reason ∈ park_reason, IsParkReason reason) ∧ parked_at_utc.isSome ∧
        result_ref = none ∧ last_error = none ∨
      state ≠ .parked ∧ park_reason = none ∧ parked_at_utc = none

namespace Job

variable {J : Type}

/-- The fence of every mutation: this token and generation hold an unexpired lease. -/
def activeLease (j : Job J) (lease_token : PyStr) (lease_generation : Int) (now : Int) : Prop :=
  j.state = .leased ∧ j.lease_token = some lease_token ∧
    (j.lease_generation : Int) = lease_generation ∧ ∃ expires ∈ j.lease_expires_utc, now < expires

instance (j : Job J) (lease_token : PyStr) (lease_generation now : Int) :
    Decidable (j.activeLease lease_token lease_generation now) :=
  inferInstanceAs (Decidable (_ ∧ _ ∧ _ ∧ ∃ expires ∈ j.lease_expires_utc, now < expires))

/-- The `WHERE` clause of the claim. -/
def claimable (j : Job J) (job_types : List JobType) (now : Int) : Prop :=
  j.job_type ∈ job_types ∧ j.available_at_utc ≤ now ∧
    ((j.state = .ready ∨ j.state = .failed) ∨
      j.state = .leased ∧ ∃ expires ∈ j.lease_expires_utc, expires ≤ now)

instance (j : Job J) (job_types : List JobType) (now : Int) :
    Decidable (j.claimable job_types now) :=
  inferInstanceAs (Decidable (_ ∧ _ ∧ (_ ∨ _ ∧ ∃ expires ∈ j.lease_expires_utc, expires ≤ now)))

theorem not_parked_of_claimable {j : Job J} {job_types : List JobType} {now : Int}
    (h : j.claimable job_types now) : j.state ≠ .parked := by
  obtain ⟨_, _, (hstate | hstate) | ⟨hstate, _⟩⟩ := h <;>
    · rw [hstate]
      exact fun h => JobState.noConfusion h

/-- `succeeded` and `parked` are final. -/
def Terminal (j : Job J) : Prop := j.state = .succeeded ∨ j.state = .parked

theorem not_terminal_of_claimable {j : Job J} {job_types : List JobType} {now : Int}
    (h : j.claimable job_types now) : ¬j.Terminal := by
  obtain ⟨_, _, (hstate | hstate) | ⟨hstate, _⟩⟩ := h <;>
    · rintro (hfinal | hfinal) <;>
        · rw [hstate] at hfinal
          cases hfinal

theorem not_terminal_of_activeLease {j : Job J} {lease_token : PyStr} {lease_generation now : Int}
    (h : j.activeLease lease_token lease_generation now) : ¬j.Terminal := by
  rintro (hfinal | hfinal) <;>
    · rw [h.1] at hfinal
      cases hfinal

/-- A row that is not parked has no parking data. -/
theorem parking_none {j : Job J} (h : j.state ≠ .parked) :
    j.park_reason = none ∧ j.parked_at_utc = none := by
  rcases j.job_parked_state_consistent with ⟨hparked, _⟩ | ⟨_, hnone⟩
  · exact absurd hparked h
  · exact hnone

/-! ### The `SET` lists -/

/-- The row `enqueue_job` inserts. -/
def enqueued (job_type : JobType) (schema_id schema_version : PyStr) (payload : J)
    (available_at_utc : Int) : Job J where
  job_type := job_type
  payload_schema_id := schema_id
  payload_schema_version := schema_version
  payload := payload
  state := .ready
  available_at_utc := available_at_utc
  attempt := 0
  lease_token := none
  lease_generation := 0
  lease_expires_utc := none
  result_ref := none
  last_error := none
  park_reason := none
  parked_at_utc := none
  lease_consistent := lease_released ready_ne_leased
  job_parked_state_consistent := Or.inr ⟨fun h => JobState.noConfusion h, rfl, rfl⟩

def claim (j : Job J) (lease_token : PyStr) (expires : Int) (h : j.state ≠ .parked) : Job J :=
  { j with
    state := .leased
    attempt := j.attempt + 1
    lease_generation := j.lease_generation + 1
    lease_token := some lease_token
    lease_expires_utc := some expires
    lease_consistent := lease_held lease_token expires
    job_parked_state_consistent := Or.inr ⟨fun h => JobState.noConfusion h, j.parking_none h⟩ }

/-- The rows the mutations below are applied to. -/
theorem leased_not_parked {j : Job J} (h : j.state = .leased) : j.state ≠ .parked := by
  rw [h]
  exact fun h => JobState.noConfusion h

def heartbeat (j : Job J) (expires : Int) (h : j.state = .leased) : Job J :=
  { j with
    lease_expires_utc := some expires
    lease_consistent := by
      rcases j.lease_consistent with ⟨hstate, htoken, _⟩ | ⟨hstate, _⟩
      · exact Or.inl ⟨hstate, htoken, rfl⟩
      · exact absurd h hstate }

def complete (j : Job J) (result_ref : ArtifactRef) (h : j.state = .leased) : Job J :=
  { j with
    state := .succeeded
    result_ref := some result_ref
    lease_token := none
    lease_expires_utc := none
    lease_consistent := lease_released succeeded_ne_leased
    job_parked_state_consistent :=
      Or.inr ⟨fun h => JobState.noConfusion h, parking_none (leased_not_parked h)⟩ }

def fail (j : Job J) (reason : PyStr) (retry_at_utc : Int) (h : j.state = .leased) : Job J :=
  { j with
    state := .failed
    last_error := some reason
    available_at_utc := retry_at_utc
    lease_token := none
    lease_expires_utc := none
    lease_consistent := lease_released failed_ne_leased
    job_parked_state_consistent :=
      Or.inr ⟨fun h => JobState.noConfusion h, parking_none (leased_not_parked h)⟩ }

def park (j : Job J) (reason : PyStr) (parked_at_utc : Int) (h : IsParkReason reason) : Job J :=
  { j with
    state := .parked
    park_reason := some reason
    parked_at_utc := some parked_at_utc
    lease_token := none
    lease_expires_utc := none
    result_ref := none
    last_error := none
    lease_consistent := lease_released parked_ne_leased
    job_parked_state_consistent := Or.inl ⟨rfl, ⟨reason, rfl, h⟩, rfl, rfl, rfl⟩ }

end Job

/-- The table `job`. -/
structure JobTable (J : Type) where
  jobs : Table JobId (Job J)

/-- What the functions raise. -/
inductive JobSqlError where
  /-- "invalid job claim", errcode 22023 -/
  | invalid_job_claim
  /-- a counter leaves the range of its column type, errcode 22003 -/
  | numeric_value_out_of_range
deriving DecidableEq

namespace JobTable

variable {J : Type}

def empty : JobTable J := ⟨∅⟩

def job (q : JobTable J) (id : JobId) : Option (Job J) := q.jobs.lookup id

def setJob (q : JobTable J) (id : JobId) (j : Job J) : JobTable J := ⟨q.jobs.insert id j⟩

@[simp] theorem job_empty (id : JobId) : (empty : JobTable J).job id = none := rfl

@[simp] theorem job_setJob (q : JobTable J) (id id' : JobId) (j : Job J) :
    (q.setJob id j).job id' = if id' = id then some j else q.job id' := by
  simp [job, setJob]

/-- `enqueue_job`: `ON CONFLICT (job_id) DO NOTHING`. -/
def enqueue_job (q : JobTable J) (job_id : JobId) (j : Job J) : JobTable J × Bool :=
  match q.job job_id with
  | some _ => (q, false)
  | none => (q.setJob job_id j, true)

/-- The candidate of a claim: the first claimable row that no other transaction has
locked, by availability and identifier. -/
def candidate (q : JobTable J) (job_types : List JobType) (locked : List JobId) (now : Int) :
    Option (JobId × Job J) :=
  let rows := q.jobs.entries.filter fun e => e.1 ∉ locked ∧ e.2.claimable job_types now
  let ordered := rows.insertionSort fun a b =>
    a.2.available_at_utc < b.2.available_at_utc ∨
      a.2.available_at_utc = b.2.available_at_utc ∧ a.1 ≤ b.1
  ordered.head?.map fun e => (e.1, e.2)

/-- The candidate is a claimable row of the table. -/
theorem candidate_ok {q : JobTable J} {job_types : List JobType} {locked : List JobId} {now : Int}
    {id : JobId} {j : Job J} (h : q.candidate job_types locked now = some (id, j)) :
    q.job id = some j ∧ j.claimable job_types now := by
  unfold candidate at h
  obtain ⟨⟨id', j'⟩, hhead, heq⟩ := Option.map_eq_some_iff.1 h
  cases heq
  have hmem := (List.mem_insertionSort _).1 (List.mem_of_mem_head? (Option.mem_def.2 hhead))
  rw [List.mem_filter] at hmem
  have hguard : id' ∉ locked ∧ j'.claimable job_types now := by simpa using hmem.2
  exact ⟨(Table.mem_entries_iff _ _ _).1 hmem.1, hguard.2⟩

/-- `claim_job` -/
def claim_job (q : JobTable J) (job_types : List JobType) (lease_token : PyStr) (ttl : Int)
    (locked : List JobId) (now later : Int) :
    Except JobSqlError (JobTable J × Option (JobId × Job J)) :=
  if job_types = [] ∨ lease_token = [] ∨ ttl ≤ 0 then .error .invalid_job_claim
  else
    match h : q.candidate job_types locked now with
    | none => .ok (q, none)
    | some (id, j) =>
      if 2147483647 < j.attempt + 1 ∨ 9223372036854775807 < j.lease_generation + 1 then
        .error .numeric_value_out_of_range
      else
        let claimed := j.claim lease_token (later + ttl)
          (Job.not_parked_of_claimable (candidate_ok h).2)
        .ok (q.setJob id claimed, some (id, claimed))

/-- The common form of the fenced updates: the row of an active lease, updated. -/
def updateActive (q : JobTable J) (job_id : JobId) (lease_token : PyStr) (lease_generation : Int)
    (now : Int) (update : (j : Job J) → j.state = .leased → Job J) : JobTable J × Option (Job J) :=
  match q.job job_id with
  | none => (q, none)
  | some j =>
    if h : j.activeLease lease_token lease_generation now then
      (q.setJob job_id (update j h.1), some (update j h.1))
    else (q, none)

/-- `heartbeat_job` -/
def heartbeat_job (q : JobTable J) (job_id : JobId) (lease_token : PyStr) (lease_generation : Int)
    (ttl now later : Int) : JobTable J × Option (Job J) :=
  if 0 < ttl then
    q.updateActive job_id lease_token lease_generation now fun j h => j.heartbeat (later + ttl) h
  else (q, none)

/-- `lock_active_job_lease`: the row stays as it is, locked for its transaction. -/
def lock_active_job_lease (q : JobTable J) (job_id : JobId) (job_type : JobType)
    (lease_token : PyStr) (lease_generation now : Int) : Prop :=
  ∃ j ∈ q.job job_id, j.job_type = job_type ∧ j.activeLease lease_token lease_generation now

instance (q : JobTable J) (job_id : JobId) (job_type : JobType) (lease_token : PyStr)
    (lease_generation now : Int) :
    Decidable (q.lock_active_job_lease job_id job_type lease_token lease_generation now) :=
  inferInstanceAs (Decidable (∃ j ∈ q.job job_id, _))

/-- `complete_job` -/
def complete_job (q : JobTable J) (job_id : JobId) (lease_token : PyStr) (lease_generation : Int)
    (result_ref : ArtifactRef) (now : Int) : JobTable J × Option (Job J) :=
  q.updateActive job_id lease_token lease_generation now fun j h => j.complete result_ref h

/-- `fail_job` -/
def fail_job (q : JobTable J) (job_id : JobId) (lease_token : PyStr) (lease_generation : Int)
    (reason : PyStr) (retry_at_utc now : Int) : JobTable J × Option (Job J) :=
  if reason ≠ [] then
    q.updateActive job_id lease_token lease_generation now fun j h => j.fail reason retry_at_utc h
  else (q, none)

/-- `park_job` -/
def park_job (q : JobTable J) (job_id : JobId) (lease_token : PyStr) (lease_generation : Int)
    (reason : PyStr) (now later : Int) : JobTable J × Option (Job J) :=
  if h : IsParkReason reason then
    q.updateActive job_id lease_token lease_generation now fun j _ => j.park reason later h
  else (q, none)

/-! ## What each function can do -/

theorem enqueue_job_cases (q : JobTable J) (job_id : JobId) (j : Job J) :
    q.enqueue_job job_id j = (q, false) ∨
      q.job job_id = none ∧ q.enqueue_job job_id j = (q.setJob job_id j, true) := by
  unfold enqueue_job
  split
  · exact Or.inl rfl
  · rename_i hnone
    exact Or.inr ⟨hnone, rfl⟩

theorem claim_job_ok {q q' : JobTable J} {job_types : List JobType} {lease_token : PyStr}
    {ttl now later : Int} {locked : List JobId} {r : Option (JobId × Job J)}
    (h : q.claim_job job_types lease_token ttl locked now later = .ok (q', r)) :
    q' = q ∧ r = none ∨
      ∃ id j, ∃ hj : j.state ≠ .parked, q.job id = some j ∧ j.claimable job_types now ∧ 0 < ttl ∧
        r = some (id, j.claim lease_token (later + ttl) hj) ∧
        q' = q.setJob id (j.claim lease_token (later + ttl) hj) := by
  unfold claim_job at h
  split at h
  · cases h
  rename_i hargs
  split at h
  · cases h
    exact Or.inl ⟨rfl, rfl⟩
  rename_i id j hcandidate
  split at h
  · cases h
  cases h
  obtain ⟨hjob, hclaimable⟩ := candidate_ok hcandidate
  have httl : 0 < ttl := by
    by_contra hle
    exact hargs (Or.inr (Or.inr (by omega)))
  exact Or.inr ⟨id, j, Job.not_parked_of_claimable hclaimable, hjob, hclaimable, httl, rfl, rfl⟩

theorem updateActive_cases (q : JobTable J) (job_id : JobId) (lease_token : PyStr)
    (lease_generation now : Int) (update : (j : Job J) → j.state = .leased → Job J) :
    q.updateActive job_id lease_token lease_generation now update = (q, none) ∨
      ∃ j, ∃ h : j.activeLease lease_token lease_generation now, q.job job_id = some j ∧
        q.updateActive job_id lease_token lease_generation now update =
          (q.setJob job_id (update j h.1), some (update j h.1)) := by
  unfold updateActive
  split
  · exact Or.inl rfl
  · rename_i j hj
    split
    · rename_i h
      exact Or.inr ⟨j, h, hj, rfl⟩
    · exact Or.inl rfl

end JobTable

end LeoFlow
