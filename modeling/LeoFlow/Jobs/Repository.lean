import LeoFlow.Core.Lease
import LeoFlow.Jobs.Queue

/-!
# LeoFlow.Jobs.Repository — calls on the job repository and their fencing

`PostgresJobLeaseRepository`: each call is one transaction around one SQL
function. A call is labelled with everything its outcome depends on: the clock
readings of the function, the rows other transactions have locked at a claim,
the token the factory makes, and whether the transaction commits (building the
`JobLease` may raise after the update, or the connection may be lost).

The table is a board of fenced leases (`LeoFlow.Core.Lease`); no order of the clock
readings is assumed.
-/

namespace LeoFlow

inductive JobCall (J : Type) where
  | enqueue (job_id : JobId) (job_type : JobType) (schema_id schema_version : PyStr) (payload : J)
      (available_at_utc : Int)
  | claim (types : List JobType) (lease_token : PyStr) (ttl : Int) (locked : List JobId)
      (now later : Int)
  | heartbeat (job_id : JobId) (lease_token : PyStr) (generation ttl now later : Int)
  | lock_active (job_id : JobId) (job_type : JobType) (lease_token : PyStr) (generation now : Int)
  | complete (job_id : JobId) (lease_token : PyStr) (generation : Int) (result_ref : ArtifactRef)
      (now : Int)
  | fail (job_id : JobId) (lease_token : PyStr) (generation : Int) (reason : PyStr)
      (retry_at_utc now : Int)
  | park (job_id : JobId) (lease_token : PyStr) (generation : Int) (reason : PyStr)
      (now later : Int)

/-- What a call returns or raises. -/
inductive JobOutcome (J : Type) where
  | returned
  /-- `claim` found nothing -/
  | no_job
  | leased (job_id : JobId) (job : Job J)
  | active (held : Bool)
  /-- `StaleLeaseError` -/
  | stale_lease
  /-- `JobConflictError` -/
  | job_conflict
  /-- `ValueError` -/
  | value_error
  | sql_error (e : JobSqlError)
  /-- the transaction did not commit -/
  | rolled_back

/-- The lease a call acts under, and the clock reading it is checked at. -/
def JobCall.lease {J : Type} : JobCall J → Option (JobId × PyStr × Int × Int)
  | .heartbeat job_id lease_token generation _ now _ => some (job_id, lease_token, generation, now)
  | .lock_active job_id _ lease_token generation now => some (job_id, lease_token, generation, now)
  | .complete job_id lease_token generation _ now => some (job_id, lease_token, generation, now)
  | .fail job_id lease_token generation _ _ now => some (job_id, lease_token, generation, now)
  | .park job_id lease_token generation _ now _ => some (job_id, lease_token, generation, now)
  | .enqueue .. | .claim .. => none

namespace JobTable

variable {J : Type}

/-- `_fenced_update` and `heartbeat`: no row means that the lease is stale. -/
def fenced (job_id : JobId) (r : JobTable J × Option (Job J)) : JobTable J × JobOutcome J :=
  match r with
  | (q, none) => (q, .stale_lease)
  | (q, some j) => (q, .leased job_id j)

/-- `_same_job` -/
def sameJob (j : Job J) (job_type : JobType) (schema_id schema_version : PyStr) (payload : J) :
    Prop :=
  j.job_type = job_type ∧ j.payload_schema_id = schema_id ∧
    j.payload_schema_version = schema_version ∧ j.payload = payload

instance [DecidableEq J] (j : Job J) (job_type : JobType) (schema_id schema_version : PyStr)
    (payload : J) : Decidable (sameJob j job_type schema_id schema_version payload) :=
  inferInstanceAs (Decidable (_ ∧ _ ∧ _ ∧ _))

/-- One committed call. -/
def call [DecidableEq J] (q : JobTable J) : JobCall J → JobTable J × JobOutcome J
  | .enqueue job_id job_type schema_id schema_version payload available_at_utc =>
    match q.enqueue_job job_id
      (.enqueued job_type schema_id schema_version payload available_at_utc) with
    | (q, true) => (q, .returned)
    | (q, false) =>
      if ∃ j ∈ q.job job_id, sameJob j job_type schema_id schema_version payload then (q, .returned)
      else (q, .job_conflict)
  | .claim types lease_token ttl locked now later =>
    if types = [] then (q, .no_job)
    else if ttl ≤ 0 then (q, .value_error)
    else
      match q.claim_job types lease_token ttl locked now later with
      | .error e => (q, .sql_error e)
      | .ok (q, none) => (q, .no_job)
      | .ok (q, some (job_id, j)) => (q, .leased job_id j)
  | .heartbeat job_id lease_token generation ttl now later =>
    if ttl ≤ 0 then (q, .value_error)
    else fenced job_id (q.heartbeat_job job_id lease_token generation ttl now later)
  | .lock_active job_id job_type lease_token generation now =>
    (q, .active (q.lock_active_job_lease job_id job_type lease_token generation now))
  | .complete job_id lease_token generation result_ref now =>
    fenced job_id (q.complete_job job_id lease_token generation result_ref now)
  | .fail job_id lease_token generation reason retry_at_utc now =>
    if reason = [] then (q, .value_error)
    else fenced job_id (q.fail_job job_id lease_token generation reason retry_at_utc now)
  | .park job_id lease_token generation reason now later =>
    if ¬IsParkReason reason then (q, .value_error)
    else fenced job_id (q.park_job job_id lease_token generation reason now later)

/-- One call, committed or rolled back. -/
def invoke [DecidableEq J] (q : JobTable J) (a : JobCall J × Bool) : JobTable J × JobOutcome J :=
  if a.2 then q.call a.1 else (q, .rolled_back)

/-- The table after a sequence of calls. -/
def after [DecidableEq J] (q : JobTable J) : List (JobCall J × Bool) → JobTable J
  | [] => q
  | a :: as => (q.invoke a).1.after as

/-- What a call records: a claim, or the end of a claim. -/
def events (c : JobCall J) (outcome : JobOutcome J) : List (Lease.Event JobId PyStr) :=
  match c, outcome with
  | .claim _ lease_token _ _ _ _, .leased job_id j =>
    [.claimed job_id lease_token j.lease_generation j.attempt]
  | .complete _ lease_token _ _ _, .leased job_id j | .fail _ lease_token _ _ _ _, .leased job_id j
  | .park _ lease_token _ _ _ _, .leased job_id j =>
    [.finalized job_id lease_token j.lease_generation]
  | _, _ => []

/-- The claims and ends of claims of a sequence of calls, in order. -/
def history [DecidableEq J] (q : JobTable J) : List (JobCall J × Bool) → List (Lease.Event JobId PyStr)
  | [] => []
  | a :: as => events a.1 (q.invoke a).2 ++ (q.invoke a).1.history as

/-- The table as a board of leases. -/
def board (q : JobTable J) : Lease.Board JobId PyStr := fun id =>
  (q.job id).map fun j => ⟨j.lease_generation, j.attempt, j.lease_token⟩

/-! ## One call -/

/-- Everything a call can do to the table, with what it records. -/
inductive Effect (q : JobTable J) (c : JobCall J) : JobTable J → List (Lease.Event JobId PyStr) →
    Prop where
  | none : Effect q c q []
  | enqueue (id : JobId) (j : Job J) (hc : c.lease = .none) (hfree : q.job id = .none) (htoken : j.lease_token = .none) :
    Effect q c (q.setJob id j) []
  | claim (id : JobId) (j : Job J) (types : List JobType) (lease_token : PyStr) (expires now : Int)
    (hc : c.lease = .none) (hstate : j.state ≠ .parked) (hjob : q.job id = some j) (h : j.claimable types now) :
    Effect q c (q.setJob id (j.claim lease_token expires hstate))
      [.claimed id lease_token (j.lease_generation + 1) (j.attempt + 1)]
  | heartbeat (id : JobId) (j : Job J) (lease_token : PyStr) (generation now expires : Int)
    (hc : c.lease = some (id, lease_token, generation, now)) (hjob : q.job id = some j)
    (h : j.activeLease lease_token generation now) :
    Effect q c (q.setJob id (j.heartbeat expires h.1)) []
  | finalize (id : JobId) (j j' : Job J) (lease_token : PyStr) (generation now : Int)
    (hc : c.lease = some (id, lease_token, generation, now)) (hjob : q.job id = some j)
    (h : j.activeLease lease_token generation now)
    (hj' : j'.lease_generation = j.lease_generation ∧ j'.attempt = j.attempt ∧
      j'.lease_token = .none) :
    Effect q c (q.setJob id j') [.finalized id lease_token j.lease_generation]

variable {q : JobTable J} {c : JobCall J}

/-- A fenced update whose call records its success ends the claim. -/
theorem effect_fenced {job_id : JobId} {lease_token : PyStr} {generation now : Int}
    (hc : c.lease = some (job_id, lease_token, generation, now)) (update : (j : Job J) → j.state = .leased → Job J)
    (hupdate : ∀ j h, (update j h).lease_generation = j.lease_generation ∧ (update j h).attempt = j.attempt ∧ (update j h).lease_token = .none)
    (hstale : events c .stale_lease = [])
    (hdone : ∀ j, events c (.leased job_id j) = [.finalized job_id lease_token j.lease_generation]) :
    Effect q c (fenced job_id (q.updateActive job_id lease_token generation now update)).1
      (events c (fenced job_id (q.updateActive job_id lease_token generation now update)).2) := by
  rcases q.updateActive_cases job_id lease_token generation now update with hsame | ⟨j, h, hjob, hnew⟩
  · rw [hsame]
    simp only [fenced, hstale]
    exact .none
  · rw [hnew]
    simp only [fenced, hdone, (hupdate j h.1).1]
    exact .finalize job_id j _ lease_token generation now hc hjob h (hupdate j h.1)

theorem call_effect [DecidableEq J] (q : JobTable J) (c : JobCall J) :
    Effect q c (q.call c).1 (events c (q.call c).2) := by
  cases c with
  | enqueue job_id job_type schema_id schema_version payload available_at_utc =>
    have hcases := q.enqueue_job_cases job_id
      (.enqueued job_type schema_id schema_version payload available_at_utc)
    simp only [call]
    rcases hcases with hold | ⟨hfree, hnew⟩
    · rw [hold]
      dsimp only
      split <;> exact .none
    · rw [hnew]
      exact .enqueue job_id _ rfl hfree rfl
  | claim types lease_token ttl locked now later =>
    simp only [call]
    split
    · exact .none
    split
    · exact .none
    split
    · exact .none
    · rename_i q' hclaim
      rcases claim_job_ok hclaim with ⟨hq, _⟩ | ⟨_, _, _, _, _, _, hr, _⟩
      · rw [hq]
        exact .none
      · cases hr
    · rename_i q' id j hclaim
      rcases claim_job_ok hclaim with ⟨_, hr⟩ | ⟨id', j', hstate, hjob, hclaimable, _, hr, hq⟩
      · cases hr
      · cases hr
        rw [hq]
        exact .claim id j' types lease_token (later + ttl) now rfl hstate hjob hclaimable
  | heartbeat job_id lease_token generation ttl now later =>
    simp only [call]
    split
    · exact .none
    · rename_i httl
      unfold heartbeat_job
      rw [if_pos (by omega)]
      rcases q.updateActive_cases job_id lease_token generation now
        (fun j h => j.heartbeat (later + ttl) h) with hsame | ⟨j, h, hjob, hnew⟩
      · rw [hsame]
        exact .none
      · rw [hnew]
        exact .heartbeat job_id j lease_token generation now (later + ttl) rfl hjob h
  | lock_active job_id job_type lease_token generation now => exact .none
  | complete job_id lease_token generation result_ref now =>
    exact effect_fenced rfl (fun j h => j.complete result_ref h) (fun _ _ => ⟨rfl, rfl, rfl⟩) rfl
      (fun _ => rfl)
  | fail job_id lease_token generation reason retry_at_utc now =>
    simp only [call]
    split
    · exact .none
    · rename_i hreason
      unfold fail_job
      rw [if_pos hreason]
      exact effect_fenced rfl (fun j h => j.fail reason retry_at_utc h) (fun _ _ => ⟨rfl, rfl, rfl⟩)
        rfl (fun _ => rfl)
  | park job_id lease_token generation reason now later =>
    simp only [call]
    split
    · exact .none
    · rename_i hreason
      have hreason : IsParkReason reason := not_not.1 hreason
      unfold park_job
      rw [dif_pos hreason]
      exact effect_fenced rfl (fun j _ => j.park reason later hreason) (fun _ _ => ⟨rfl, rfl, rfl⟩)
        rfl (fun _ => rfl)

theorem invoke_effect [DecidableEq J] (q : JobTable J) (a : JobCall J × Bool) :
    Effect q a.1 (q.invoke a).1 (events a.1 (q.invoke a).2) := by
  unfold invoke
  split
  · exact q.call_effect a.1
  · have hnone : events a.1 (.rolled_back : JobOutcome J) = [] := by
      cases a.1 <;> rfl
    rw [hnone]
    exact .none

variable {es : List (Lease.Event JobId PyStr)}

/-- A call is one step of the board. -/
theorem Effect.step {q' : JobTable J} (h : Effect q c q' es) : Lease.Step q.board es q'.board := by
  have hother : ∀ id j k, k ≠ id → (q.setJob id j).board k = q.board k := by
    intro id j k hk
    simp only [board, job_setJob, if_neg hk]
  cases h with
  | none => exact .keep fun _ => Or.inl rfl
  | enqueue id j _ hfree htoken =>
    refine .keep fun k => ?_
    by_cases hk : k = id
    · subst hk
      have hnone : q.board k = .none := by simp [board, hfree]
      exact Or.inr ⟨hnone, ⟨j.lease_generation, j.attempt, j.lease_token⟩, by simp [board], htoken⟩
    · exact Or.inl (hother id j k hk)
  | claim id j types lease_token expires now _ hstate hjob hclaimable =>
    have hrow : q.board id = some ⟨j.lease_generation, j.attempt, j.lease_token⟩ := by
      simp [board, hjob]
    exact .claim id lease_token _ hrow (by simp [board, Job.claim]) (hother id _)
  | heartbeat id j lease_token generation now expires _ hjob hactive =>
    refine .keep fun k => Or.inl ?_
    by_cases hk : k = id
    · subst hk
      simp [board, hjob, Job.heartbeat]
    · exact hother id _ k hk
  | finalize id j j' lease_token generation now _ hjob hactive hj' =>
    have hrow : q.board id = some ⟨j.lease_generation, j.attempt, j.lease_token⟩ := by
      simp [board, hjob]
    obtain ⟨hgeneration, hattempt, htoken⟩ := hj'
    have hnew : (q.setJob id j').board id = some ⟨j.lease_generation, j.attempt, .none⟩ := by
      simp [board, hgeneration, hattempt, htoken]
    exact .finalize id lease_token _ hrow hactive.2.1 hnew (hother id j')

/-! ## Every sequence of calls -/

theorem after_recorded [DecidableEq J] (as : List (JobCall J × Bool)) (h : Lease.Recorded es q.board) :
    Lease.Recorded (es ++ q.history as) (q.after as).board := by
  induction as generalizing q es with
  | nil =>
    simp only [history, after, List.append_nil]
    exact h
  | cons a as ih =>
    have hstep := h.step (q.invoke_effect a).step
    have hrest := ih hstep
    simp only [history, after]
    rwa [List.append_assoc] at hrest

/-- A call under a lease that is not the current unexpired one changes nothing. -/
theorem Effect.stale {q' : JobTable J} (h : Effect q c q' es) {id : JobId} {lease_token : PyStr}
    {generation now : Int} (hc : c.lease = some (id, lease_token, generation, now))
    (hstale : ∀ j, q.job id = some j → ¬j.activeLease lease_token generation now) : q' = q := by
  cases h with
  | none => rfl
  | enqueue id' j hc' | claim id' j types token expires now' hc' =>
    rw [hc] at hc'
    cases hc'
  | heartbeat id' j token generation' now' expires hc' hjob h
  | finalize id' j j' token generation' now' hc' hjob h =>
    rw [hc] at hc'
    cases hc'
    exact absurd h (hstale j hjob)

/-- A call leaves terminal rows as they are. -/
theorem Effect.terminal {q' : JobTable J} (h : Effect q c q' es) {id : JobId} {j : Job J} (hj : q.job id = some j)
    (hfinal : j.Terminal) :
    q'.job id = some j := by
  -- the row a call changes is not terminal, so it is another one
  have hother : ∀ id' j', (∀ j'', q.job id' = some j'' → ¬j''.Terminal) →
      (q.setJob id' j').job id = some j := by
    intro id' j' hopen
    have hne : id ≠ id' := by
      rintro rfl
      exact hopen j hj hfinal
    rw [job_setJob, if_neg hne, hj]
  cases h with
  | none => exact hj
  | enqueue id' j' _ hfree =>
    refine hother id' j' fun j'' hj'' => ?_
    rw [hfree] at hj''
    cases hj''
  | claim id' j' types token expires now _ hstate hjob hclaimable =>
    refine hother id' _ fun j'' hj'' => ?_
    rw [hjob] at hj''
    cases hj''
    exact Job.not_terminal_of_claimable hclaimable
  | heartbeat id' j' token generation now expires _ hjob hactive
  | finalize id' j' _ token generation now _ hjob hactive =>
    refine hother id' _ fun j'' hj'' => ?_
    rw [hjob] at hj''
    cases hj''
    exact Job.not_terminal_of_activeLease hactive

theorem after_terminal [DecidableEq J] (as : List (JobCall J × Bool)) {id : JobId} {j : Job J}
    (hj : q.job id = some j) (hfinal : j.Terminal) : (q.after as).job id = some j := by
  induction as generalizing q with
  | nil => exact hj
  | cons a as ih => exact ih ((q.invoke_effect a).terminal hj hfinal)

/-- For every sequence of calls on an empty table: later claims of a job have a larger
generation and attempt; one generation of a job is ended at most once, under the
token that claimed it; a call under any other lease changes nothing; and
terminal rows never change again. -/
theorem leases_fenced [DecidableEq J] (as : List (JobCall J × Bool)) :
    ((empty : JobTable J).history as).Pairwise Lease.Event.Before ∧
      (∀ id lease_token generation,
        .finalized id lease_token generation ∈ (empty : JobTable J).history as →
          ∃ attempt, .claimed id lease_token generation attempt ∈ (empty : JobTable J).history as) ∧
      (∀ a id lease_token generation now, a.1.lease = some (id, lease_token, generation, now) →
        (∀ j, ((empty : JobTable J).after as).job id = some j →
          ¬j.activeLease lease_token generation now) →
        (((empty : JobTable J).after as).invoke a).1 = (empty : JobTable J).after as) ∧
      ∀ id j, ((empty : JobTable J).after as).job id = some j → j.Terminal →
        ∀ bs, (((empty : JobTable J).after as).after bs).job id = some j := by
  have hempty : Lease.Recorded [] (empty : JobTable J).board := Lease.recorded_empty
  have hrecorded := after_recorded as hempty
  rw [List.nil_append] at hrecorded
  refine ⟨hrecorded.ordered, hrecorded.matched, ?_, ?_⟩
  · intro a id lease_token generation now hc hstale
    exact (((empty : JobTable J).after as).invoke_effect a).stale hc hstale
  · intro id j hj hfinal bs
    exact after_terminal bs hj hfinal

end JobTable

end LeoFlow
