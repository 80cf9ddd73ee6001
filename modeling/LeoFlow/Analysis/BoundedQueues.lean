import LeoFlow.Core.Machine
import LeoFlow.Analysis.WorkTable

/-!
# LeoFlow.Analysis.BoundedQueues — the queues with a bound on their attempts

Pilot refinement (0049), symbolwise replay (0052), prompt timeline (0044) and adaptive response (0046, 0051) share
one design: a claim takes only rows below the bound, and a retry parks a row that has reached it. The four differ
in the bound, the delay of a retry, the order of a claim, the sources it joins and the conditions of a completion.

* `BoundedQueue`: the statements, with those differences as fields;
* `pilot_refinement`, `symbolwise_replay`, `full_dwell_timeline`, `adaptive_response`: the four queues;
* `machine`: any calls, at non-decreasing times. A worker that crashes makes no more calls;
* `grants_all_iff`: when claims reach every row that is not final.
-/

namespace LeoFlow

/-! ## What the queues read -/

/-- The columns of `recording` the claims join. -/
structure RecordingRow where
  published : Bool
  data : Digest
  metadata : Digest

/-- The columns of `recording_starlink_detector_suite` the claims join. -/
structure SuiteRow where
  analysis_id : PyStr
  recording_id : PyStr
  /-- `result_state = 'candidates'` -/
  candidates : Bool
  bundle : Digest
  published_at_utc : Int

/-- The tables the claims read. -/
structure SourceCatalog where
  recording : PyStr → Option RecordingRow
  /-- the bundle of `recording_starlink_pilot_prescreen_v0_1` -/
  prescreen : PyStr → Option Digest
  suites : List SuiteRow
  /-- `object_blob.lifecycle_state = 'live'` -/
  live : Digest → Bool

namespace SourceCatalog

/-- The recording, its data and its metadata. -/
def recordingLive (c : SourceCatalog) (recording_id : PyStr) : Bool :=
  (c.recording recording_id).any fun r => c.live r.data && c.live r.metadata

/-- The newest suite of a recording with candidates and a live bundle. -/
def suite (c : SourceCatalog) (recording_id : PyStr) : Option SuiteRow :=
  ((c.suites.filter fun s => s.recording_id = recording_id ∧ s.candidates = true ∧ c.live s.bundle = true)
    |>.insertionSort fun a b => a.published_at_utc > b.published_at_utc ∨
      a.published_at_utc = b.published_at_utc ∧ b.analysis_id ≤ a.analysis_id).head?

/-- A recording of which everything is live. -/
def whole (recording_id : PyStr) (bundle : Digest) : SourceCatalog where
  recording _ := some ⟨true, bundle, bundle⟩
  prescreen _ := some bundle
  suites := [⟨[], recording_id, true, bundle, 0⟩]
  live _ := true

@[simp] theorem whole_suite (recording_id : PyStr) (bundle : Digest) :
    ((whole recording_id bundle).suite recording_id).isSome := by
  simp [whole, suite]

end SourceCatalog

/-- What a completion writes. -/
structure WorkResult where
  result_analysis_id : PyStr
  result_bundle_digest_value : PyStr
  completed_at_utc : Int

/-! ## The statements -/

/-- What sets the four queues apart: the columns `S` of an admission, the columns `P` of a product. -/
structure BoundedQueue (S P : Type) where
  /-- `attempt < bound` in the claim, `attempt >= bound` in the retry -/
  bound : Nat
  /-- the delay of the first retry -/
  delay : Int
  /-- `ORDER BY` of the claim -/
  before : PyStr × Work S (Option WorkResult) → PyStr × Work S (Option WorkResult) → Bool
  /-- `JOIN LATERAL` of the candidate -/
  admits : SourceCatalog → S → Bool
  /-- the joins after the claim -/
  joins : SourceCatalog → PyStr → S → Bool
  /-- the unique keys of the rows beside the primary key -/
  clashes : S → S → Bool
  /-- a repeated admission under the same primary key is the same work -/
  repeats : S → S → Bool
  /-- the most rows that are neither succeeded nor parked -/
  capacity : Option Nat
  /-- the unique keys of the products -/
  productClashes : P → P → Bool
  /-- a repeated publication of the same product -/
  productRepeats : P → P → Bool
  /-- the lease that a publication needs: its row, token and generation -/
  publisher : P → Option (PyStr × PyStr × Int)
  /-- the columns a publication shares with the row of its lease -/
  publishes : S → P → Bool
  /-- `EXISTS` of the completion, with its analysis and bundle -/
  completes : PyStr → S → P → PyStr → PyStr → Bool
  /-- the queue has a function that parks -/
  parks : Bool

/-- The work table and the products, at the time of the last call. -/
structure BoundedState (S P : Type) where
  work : WorkTable S (Option WorkResult)
  products : List P
  clock : Int

/-- The arguments of a claim, with what it finds in the database. -/
structure ClaimCall where
  catalog : SourceCatalog
  lease_token : Option PyStr
  ttl : Option Int
  locked : List PyStr
  now : Int
  later : Int

namespace BoundedQueue

variable {S P : Type}

/-- `interval '1 second'` and `interval '8 hours'` -/
def minimumLease : Int := 1000000

def maximumLease : Int := 28800000000

/-- `interval '15 minutes'` -/
def maximumDelay : Int := 900000000

/-- The check of a claim's arguments. A `NULL` passes it. -/
def invalidClaim (lease_token : Option PyStr) (ttl : Option Int) : Bool :=
  lease_token = some [] || ttl.any fun ttl => ttl < minimumLease || maximumLease < ttl

/-- The claim statement, over what the catalog holds. -/
def statement (b : BoundedQueue S P) (c : SourceCatalog) : WorkTable.Claim S (Option WorkResult) where
  before := b.before
  admits _ w := w.attempt < b.bound && b.admits c w.source
  joins := b.joins c
  last_error _ := none

def claim (b : BoundedQueue S P) (q : WorkTable S (Option WorkResult)) (c : ClaimCall) :
    Except WorkSqlError (WorkTable S (Option WorkResult) × Option (PyStr × Work S (Option WorkResult))) :=
  if invalidClaim c.lease_token c.ttl then .error .invalid_parameter_value
  else q.claim_row (b.statement c.catalog) c.lease_token c.ttl c.locked c.now c.later

/-- An admission, after the checks of its arguments and sources (`checked`). -/
def admit_work (b : BoundedQueue S P) (q : WorkTable S (Option WorkResult)) (id : PyStr) (source : S)
    (checked : Except WorkSqlError Unit) (later : Int) :
    Except WorkSqlError (WorkTable S (Option WorkResult) × Bool) := do
  checked
  if (q.row id).any fun w => b.repeats source w.source then .ok (q, true)
  else if (q.row id).isSome || q.rows.entries.any fun e => b.clashes source e.2.source then
    .error .unique_violation
  else if b.capacity.any fun capacity => capacity ≤ q.backlog then
    .ok (q, false)
  else .ok (q.setRow id (.admitted source none later), true)

/-- A publication, after the checks of its payload and sources (`checked`). -/
def publish (b : BoundedQueue S P) (q : WorkTable S (Option WorkResult)) (products : List P) (p : P)
    (checked : Except WorkSqlError Unit) (now : Int) : Except WorkSqlError (List P × Bool) := do
  checked
  if (b.publisher p).any fun lease => ¬(q.row lease.1).any fun w =>
      b.publishes w.source p && decide (w.activeLease lease.2.1 lease.2.2 now) then .ok (products, false)
  else if ¬products.any (b.productClashes p) then .ok (p :: products, true)
  else if products.any (b.productRepeats p) then .ok (products, true)
  else .error .unique_violation

def complete (b : BoundedQueue S P) (q : WorkTable S (Option WorkResult)) (products : List P)
    (id lease_token : PyStr) (lease_generation : Int) (analysis_id bundle_digest_value : PyStr)
    (now later : Int) : WorkTable S (Option WorkResult) × Bool :=
  q.updateActive id lease_token lease_generation now fun w =>
    if products.any fun p => b.completes id w.source p analysis_id bundle_digest_value then
      some (w.release .succeeded succeeded_ne_leased none w.available_at_utc (some ⟨analysis_id, bundle_digest_value, later⟩))
    else none

/-- `least(interval '15 minutes', delay * power(2, greatest(0, attempt-1)))` -/
def retryDelay (b : BoundedQueue S P) (attempt : Nat) : Int :=
  min maximumDelay (b.delay * 2 ^ (attempt - 1))

def retry (b : BoundedQueue S P) (q : WorkTable S (Option WorkResult)) (id lease_token : PyStr)
    (lease_generation : Int) (reason : PyStr) (now later : Int) : WorkTable S (Option WorkResult) × Bool :=
  q.updateActive id lease_token lease_generation now fun w =>
    if IsParkReason reason then
      let available_at_utc := later + b.retryDelay w.attempt
      some (if b.bound ≤ w.attempt then w.release .parked parked_ne_leased (some reason) available_at_utc w.outcome
        else w.release .failed failed_ne_leased (some reason) available_at_utc w.outcome)
    else none

def park (b : BoundedQueue S P) (q : WorkTable S (Option WorkResult)) (id lease_token : PyStr)
    (lease_generation : Int) (reason : PyStr) (now : Int) : WorkTable S (Option WorkResult) × Bool :=
  q.updateActive id lease_token lease_generation now fun w =>
    if b.parks ∧ IsParkReason reason then
      some (w.release .parked parked_ne_leased (some reason) w.available_at_utc w.outcome)
    else none

/-! ## Calls -/

/-- A call of one of the functions, with the clock readings of its statement. -/
inductive Call (S P : Type) where
  | admit_work (id : PyStr) (source : S) (checked : Except WorkSqlError Unit) (now later : Int)
  | claim (c : ClaimCall)
  | publish (p : P) (checked : Except WorkSqlError Unit) (now later : Int)
  | complete (id lease_token : PyStr) (lease_generation : Int) (analysis_id bundle_digest_value : PyStr)
      (now later : Int)
  | retry (id lease_token : PyStr) (lease_generation : Int) (reason : PyStr) (now later : Int)
  | park (id lease_token : PyStr) (lease_generation : Int) (reason : PyStr) (now later : Int)

def Call.now : Call S P → Int
  | .claim c => c.now
  | .admit_work _ _ _ now _ | .publish _ _ now _ => now
  | .complete _ _ _ _ _ now _ | .retry _ _ _ _ now _ | .park _ _ _ _ now _ => now

def Call.later : Call S P → Int
  | .claim c => c.later
  | .admit_work _ _ _ _ later | .publish _ _ _ later => later
  | .complete _ _ _ _ _ _ later | .retry _ _ _ _ _ later | .park _ _ _ _ _ later => later

/-- The rows after a claim; what raises is rolled back. -/
def afterClaim (b : BoundedQueue S P) (q : WorkTable S (Option WorkResult)) (c : ClaimCall) :
    WorkTable S (Option WorkResult) :=
  match b.claim q c with
  | .ok (q', _) => q'
  | .error _ => q

/-- The rows and the products after a call. -/
def apply (b : BoundedQueue S P) (s : BoundedState S P) : Call S P → WorkTable S (Option WorkResult) × List P
  | .admit_work id source checked _ later =>
    match b.admit_work s.work id source checked later with
    | .ok (q, _) => (q, s.products)
    | .error _ => (s.work, s.products)
  | .claim c => (b.afterClaim s.work c, s.products)
  | .publish p checked now _ =>
    match b.publish s.work s.products p checked now with
    | .ok (products, _) => (s.work, products)
    | .error _ => (s.work, s.products)
  | .complete id lease_token lease_generation analysis_id bundle_digest_value now later =>
    ((b.complete s.work s.products id lease_token lease_generation analysis_id bundle_digest_value now later).1,
      s.products)
  | .retry id lease_token lease_generation reason now later =>
    ((b.retry s.work id lease_token lease_generation reason now later).1, s.products)
  | .park id lease_token lease_generation reason now _ =>
    ((b.park s.work id lease_token lease_generation reason now).1, s.products)

/-- Any calls, at non-decreasing times. -/
def machine (b : BoundedQueue S P) : Machine (BoundedState S P) (Call S P) where
  Init s := s.work = .empty ∧ s.products = []
  step s a :=
    if s.clock ≤ a.now ∧ a.now ≤ a.later then some ⟨(b.apply s a).1, (b.apply s a).2, a.later⟩ else none

theorem step_some {b : BoundedQueue S P} {s t : BoundedState S P} {a : Call S P} (h : b.machine.step s a = some t) :
    (s.clock ≤ a.now ∧ a.now ≤ a.later) ∧ t = ⟨(b.apply s a).1, (b.apply s a).2, a.later⟩ := by
  unfold machine at h
  simp only [Option.ite_none_right_eq_some, Option.some.injEq] at h
  exact ⟨h.1, h.2.symm⟩

/-! ## What a call does to the rows -/

/-- The row under one key, before and after a call. -/
inductive Moves (b : BoundedQueue S P) (now : Int) : Option (Work S (Option WorkResult)) → Work S (Option WorkResult) → Prop where
  | admitted (source : S) (later : Int) : Moves b now none (.admitted source none later)
  | claimed {w : Work S (Option WorkResult)} (lease_token : PyStr) (expires : Int) :
      w.attempt < b.bound → Moves b now (some w) (w.claim lease_token expires none)
  | released {w : Work S (Option WorkResult)} (state : JobState) (h : state ≠ .leased) (last_error : Option PyStr)
      (available_at_utc : Int) (outcome : Option WorkResult) :
      (∃ expires ∈ w.lease_expires_utc, now < expires) → state ≠ .ready → (state = .failed → w.attempt < b.bound) →
        Moves b now (some w) (w.release state h last_error available_at_utc outcome)

theorem claim_ok {b : BoundedQueue S P} {q q' : WorkTable S (Option WorkResult)} {c : ClaimCall}
    {r : Option (PyStr × Work S (Option WorkResult))} (h : b.claim q c = .ok (q', r)) :
    q.candidate (b.statement c.catalog) c.locked c.now = none ∧ q' = q ∧ r = none ∨
      ∃ id w token interval, q.candidate (b.statement c.catalog) c.locked c.now = some (id, w) ∧
        c.lease_token = some token ∧ c.ttl = some interval ∧
        q' = q.setRow id (w.claim token (c.later + interval) none) ∧
        r = if b.joins c.catalog id w.source then some (id, w.claim token (c.later + interval) none) else none := by
  unfold claim at h
  split at h
  · cases h
  · exact WorkTable.claim_row_ok h

theorem afterClaim_cases (b : BoundedQueue S P) (q : WorkTable S (Option WorkResult)) (c : ClaimCall) :
    b.afterClaim q c = q ∨ ∃ id w lease_token expires, q.row id = some w ∧ w.attempt < b.bound ∧
      b.afterClaim q c = q.setRow id (w.claim lease_token expires none) := by
  unfold afterClaim
  split
  · rename_i q' r hclaim
    rcases claim_ok hclaim with ⟨_, hq, _⟩ | ⟨id, w, token, interval, hcandidate, _, _, hq, _⟩
    · exact Or.inl hq
    · rcases WorkTable.candidate_ok hcandidate with ⟨hrow, _, _, hadmits⟩
      simp only [statement, Bool.and_eq_true, decide_eq_true_eq] at hadmits
      exact Or.inr ⟨id, w, token, _, hrow, hadmits.1, hq⟩
  · exact Or.inl rfl

theorem admit_ok {b : BoundedQueue S P} {q q' : WorkTable S (Option WorkResult)} {id : PyStr} {source : S}
    {checked : Except WorkSqlError Unit} {later : Int} {r : Bool}
    (h : b.admit_work q id source checked later = .ok (q', r)) :
    q' = q ∨ q.row id = none ∧ q' = q.setRow id (.admitted source none later) := by
  unfold admit_work at h
  cases checked with
  | error e => cases h
  | ok _ =>
    simp only [bind, Except.bind] at h
    split at h
    · cases h
      exact Or.inl rfl
    split at h
    · cases h
    rename_i hclash
    split at h
    · cases h
      exact Or.inl rfl
    cases h
    right
    constructor
    · cases hrow : q.row id with
      | none => rfl
      | some w => simp [hrow] at hclash
    · rfl

/-- A fenced update whose new row is a released one. -/
theorem updateActive_moves {b : BoundedQueue S P} (q : WorkTable S (Option WorkResult)) (id lease_token : PyStr)
    (lease_generation now : Int) {update : Work S (Option WorkResult) → Option (Work S (Option WorkResult))}
    (h : ∀ w w', w.activeLease lease_token lease_generation now → update w = some w' → b.Moves now (some w) w') :
    (q.updateActive id lease_token lease_generation now update).1 = q ∨
      ∃ id' w', (q.updateActive id lease_token lease_generation now update).1 = q.setRow id' w' ∧
        b.Moves now (q.row id') w' := by
  rcases q.updateActive_cases id lease_token lease_generation now update with hsame | ⟨w, w', hrow, hactive, hw', heq⟩
  · exact Or.inl (by rw [hsame])
  · refine Or.inr ⟨id, w', by rw [heq], ?_⟩
    rw [hrow]
    exact h w w' hactive hw'

/-- A call changes at most one row. -/
theorem apply_cases (b : BoundedQueue S P) (s : BoundedState S P) (a : Call S P) :
    (b.apply s a).1 = s.work ∨ ∃ id w', (b.apply s a).1 = s.work.setRow id w' ∧
      b.Moves a.now (s.work.row id) w' := by
  cases a with
  | admit_work id source checked now later =>
    unfold apply
    simp only
    split
    · rename_i q r hadmit
      rcases admit_ok hadmit with hq | ⟨hnone, hq⟩
      · exact Or.inl hq
      · refine Or.inr ⟨id, _, hq, ?_⟩
        rw [hnone]
        exact Moves.admitted source later
    · exact Or.inl rfl
  | claim c =>
    rcases b.afterClaim_cases s.work c with hsame | ⟨id, w, lease_token, expires, hrow, hbelow, hset⟩
    · exact Or.inl hsame
    · refine Or.inr ⟨id, _, hset, ?_⟩
      rw [hrow]
      exact Moves.claimed lease_token expires hbelow
  | publish p checked now later =>
    left
    unfold apply
    simp only
    split <;> rfl
  | complete id lease_token lease_generation analysis_id bundle_digest_value now later =>
    refine updateActive_moves s.work id lease_token lease_generation now ?_
    intro w w' hactive hupdate
    split at hupdate
    · cases hupdate
      exact Moves.released .succeeded nofun _ _ _ hactive.2.2.2 nofun nofun
    · cases hupdate
  | retry id lease_token lease_generation reason now later =>
    refine updateActive_moves s.work id lease_token lease_generation now ?_
    intro w w' hactive hupdate
    split at hupdate
    · simp only [Option.some.injEq] at hupdate
      split at hupdate
      · -- the attempts are used up
        cases hupdate
        exact Moves.released .parked nofun _ _ _ hactive.2.2.2 nofun nofun
      · rename_i hbelow
        cases hupdate
        exact Moves.released .failed nofun _ _ _ hactive.2.2.2 nofun fun _ => Nat.lt_of_not_le hbelow
    · cases hupdate
  | park id lease_token lease_generation reason now later =>
    refine updateActive_moves s.work id lease_token lease_generation now ?_
    intro w w' hactive hupdate
    split at hupdate
    · cases hupdate
      exact Moves.released .parked nofun _ _ _ hactive.2.2.2 nofun nofun
    · cases hupdate

/-! ## The invariant -/

/-- Every attempt has its lease generation, and the bound holds; a row that waits has an attempt left. -/
structure RowOk (b : BoundedQueue S P) (w : Work S (Option WorkResult)) : Prop where
  generation : w.lease_generation = w.attempt
  attempt_le : w.attempt ≤ b.bound
  waiting : w.state = .ready ∨ w.state = .failed → w.attempt < b.bound

def Inv (b : BoundedQueue S P) (q : WorkTable S (Option WorkResult)) : Prop :=
  ∀ id w, q.row id = some w → b.RowOk w

theorem Moves.rowOk {b : BoundedQueue S P} (hbound : 0 < b.bound) {now : Int} {before : Option (Work S (Option WorkResult))}
    {w' : Work S (Option WorkResult)} (hmoves : b.Moves now before w') (h : ∀ w, before = some w → b.RowOk w) :
    b.RowOk w' := by
  cases hmoves with
  | admitted source later => exact ⟨rfl, Nat.zero_le _, fun _ => hbound⟩
  | @claimed w lease_token expires hbelow =>
    constructor
    · exact congrArg (· + 1) (h w rfl).generation
    · exact hbelow
    · rintro (hstate | hstate) <;> cases hstate
  | @released w state hstate last_error available_at_utc outcome hactive hready hfailed =>
    constructor
    · exact (h w rfl).generation
    · exact (h w rfl).attempt_le
    · rintro (hstate' | hstate')
      · exact absurd hstate' hready
      · exact hfailed hstate'

theorem inv_setRow {b : BoundedQueue S P} {q : WorkTable S (Option WorkResult)} {id : PyStr}
    {w' : Work S (Option WorkResult)} (h : b.Inv q) (hw' : b.RowOk w') : b.Inv (q.setRow id w') := by
  intro id' w hrow
  rw [WorkTable.row_setRow] at hrow
  split at hrow
  · cases hrow
    exact hw'
  · exact h id' w hrow

/-- The invariant of a reachable state. -/
theorem reachable_inv {b : BoundedQueue S P} (hbound : 0 < b.bound) {s : BoundedState S P}
    (h : b.machine.Reachable s) : b.Inv s.work := by
  refine @Machine.init_invariant _ _ b.machine (fun s => b.Inv s.work) s ?_ ?_ h
  · rintro s ⟨hwork, _⟩ id w hrow
    rw [hwork] at hrow
    cases hrow
  · intro s a t hinv hstep
    rcases step_some hstep with ⟨_, rfl⟩
    rcases b.apply_cases s a with hsame | ⟨id, w', hset, hmoves⟩
    · simp only [hsame]
      exact hinv
    · simp only [hset]
      exact inv_setRow hinv (hmoves.rowOk hbound fun w hrow => hinv id w hrow)

theorem inv_afterClaim {b : BoundedQueue S P} {q : WorkTable S (Option WorkResult)} (h : b.Inv q) (c : ClaimCall) :
    b.Inv (b.afterClaim q c) := by
  rcases b.afterClaim_cases q c with hsame | ⟨id, w, lease_token, expires, hrow, hbelow, hset⟩
  · rw [hsame]
    exact h
  · rw [hset]
    refine inv_setRow h ?_
    constructor
    · exact congrArg (· + 1) (h id w hrow).generation
    · exact hbelow
    · rintro (hstate | hstate) <;> cases hstate

/-! ## Progress -/

/-- The rows after the first `n` claims. -/
def afterClaims (b : BoundedQueue S P) (q : WorkTable S (Option WorkResult)) (calls : Nat → ClaimCall) :
    Nat → WorkTable S (Option WorkResult)
  | 0 => q
  | n + 1 => b.afterClaim (b.afterClaims q calls n) (calls n)

/-- The claim returns the row, or leaves it parked. -/
def Takes (b : BoundedQueue S P) (q : WorkTable S (Option WorkResult)) (c : ClaimCall) (id : PyStr) : Prop :=
  (∃ q' w, b.claim q c = .ok (q', some (id, w))) ∨ ∃ w, (b.afterClaim q c).row id = some w ∧ w.state = .parked

/-- Claims from `start` on, with valid arguments, to which the row is not locked and its sources are live. -/
structure Late (b : BoundedQueue S P) (id : PyStr) (source : S) (start : Int) (calls : Nat → ClaimCall) : Prop where
  arguments : ∀ n, ∃ token interval, (calls n).lease_token = some token ∧ (calls n).ttl = some interval ∧
    invalidClaim (some token) (some interval) = false
  late : ∀ n, start ≤ (calls n).now
  clock : ∀ n, (calls n).now ≤ (calls n).later ∧ (calls n).later ≤ (calls (n + 1)).now
  unlocked : ∀ n, id ∉ (calls n).locked
  admits : ∀ n, b.admits (calls n).catalog source = true
  joins : ∀ n, b.joins (calls n).catalog id source = true

/-- Claims reach the row: from some time on, whatever the claims are, one of them takes it. -/
def Reaches (b : BoundedQueue S P) (q : WorkTable S (Option WorkResult)) (id : PyStr) (source : S) : Prop :=
  ∃ start, ∀ calls, b.Late id source start calls → ∃ n, b.Takes (b.afterClaims q calls n) (calls n) id

/-- The attempts that are left in all rows. -/
def remaining (b : BoundedQueue S P) (q : WorkTable S (Option WorkResult)) : Nat :=
  Table.sum q.rows fun w => b.bound - w.attempt

/-- A row that is not final is due from some time on. -/
theorem exists_due {w : Work S (Option WorkResult)} (h : ¬w.Terminal) : ∃ start, ∀ now, start ≤ now → w.due now := by
  cases hstate : w.state with
  | ready => exact ⟨w.available_at_utc, fun now hnow => ⟨hnow, Or.inl (Or.inl hstate)⟩⟩
  | failed => exact ⟨w.available_at_utc, fun now hnow => ⟨hnow, Or.inl (Or.inr hstate)⟩⟩
  | leased =>
    rcases Work.exists_expires hstate with ⟨expires, hexpires⟩
    refine ⟨max w.available_at_utc expires, fun now hnow => ⟨?_, Or.inr ⟨hstate, expires, hexpires, ?_⟩⟩⟩
    · exact (le_max_left _ _).trans hnow
    · exact (le_max_right _ _).trans hnow
  | succeeded => exact absurd (Or.inl hstate) h
  | parked => exact absurd (Or.inr hstate) h

/-- While a row can be taken, a claim takes it or uses an attempt of another row. -/
theorem takes_or_remaining_lt {b : BoundedQueue S P} (hinteger : b.bound ≤ WorkTable.maxInteger)
    {q : WorkTable S (Option WorkResult)} (hinv : b.Inv q) {id : PyStr} {w : Work S (Option WorkResult)}
    (hrow : q.row id = some w) (hbelow : w.attempt < b.bound) {c : ClaimCall} {token : PyStr} {interval : Int}
    (htoken : c.lease_token = some token) (hinterval : c.ttl = some interval)
    (hvalid : invalidClaim (some token) (some interval) = false) (hdue : w.due c.now) (hlocked : id ∉ c.locked)
    (hadmits : b.admits c.catalog w.source = true) (hjoins : b.joins c.catalog id w.source = true) :
    b.Takes q c id ∨ (b.afterClaim q c).row id = some w ∧ b.remaining (b.afterClaim q c) < b.remaining q := by
  have hstatement : (b.statement c.catalog).admits id w = true := by
    simp [statement, hbelow, hadmits]
  rcases WorkTable.exists_candidate hrow hlocked hdue hstatement with ⟨id', w', hcandidate⟩
  rcases WorkTable.candidate_ok hcandidate with ⟨hrow', _, _, hadmits'⟩
  have hbelow' : w'.attempt < b.bound := by
    simp only [statement, Bool.and_eq_true, decide_eq_true_eq] at hadmits'
    exact hadmits'.1
  have hattempt : w'.attempt < WorkTable.maxInteger := hbelow'.trans_le hinteger
  have hgeneration : w'.lease_generation < WorkTable.maxBigint := by
    rw [(hinv id' w' hrow').generation]
    exact hattempt.trans (by decide)
  have hclaim : b.claim q c = .ok (q.setRow id' (w'.claim token (c.later + interval) none),
      if b.joins c.catalog id' w'.source then some (id', w'.claim token (c.later + interval) none) else none) := by
    unfold claim
    rw [htoken, hinterval, hvalid]
    exact WorkTable.claim_row_of_candidate hcandidate hattempt hgeneration
  by_cases hid : id' = id
  · -- the row itself
    subst hid
    rw [hrow] at hrow'
    cases hrow'
    rw [if_pos hjoins] at hclaim
    exact Or.inl (Or.inl ⟨_, _, hclaim⟩)
  · right
    have hafter : b.afterClaim q c = q.setRow id' (w'.claim token (c.later + interval) none) := by
      unfold afterClaim
      rw [hclaim]
    rw [hafter]
    constructor
    · rw [WorkTable.row_setRow, if_neg (Ne.symm hid), hrow]
    · have hsum := Table.sum_insert (fun w => b.bound - w.attempt) (w'.claim token (c.later + interval) none) hrow'
      change Table.sum (q.rows.insert id' _) _ < Table.sum q.rows _
      have hless : b.bound - (w'.claim token (c.later + interval) none).attempt < b.bound - w'.attempt := by
        change b.bound - (w'.attempt + 1) < _
        omega
      omega

/-- A row that waits, or whose lease is not its last, is reached. -/
theorem reaches_of_attempt_lt {b : BoundedQueue S P} (hinteger : b.bound ≤ WorkTable.maxInteger)
    {q : WorkTable S (Option WorkResult)} (hinv : b.Inv q) {id : PyStr} {w : Work S (Option WorkResult)}
    (hrow : q.row id = some w) (hfinal : ¬w.Terminal) (hbelow : w.attempt < b.bound) : b.Reaches q id w.source := by
  rcases exists_due hfinal with ⟨start, hdue⟩
  refine ⟨start, fun calls hlate => ?_⟩
  by_contra hnone
  simp only [not_exists] at hnone
  -- every claim so far has used one of the remaining attempts
  have hcount : ∀ n, b.Inv (b.afterClaims q calls n) ∧ (b.afterClaims q calls n).row id = some w ∧
      b.remaining (b.afterClaims q calls n) + n ≤ b.remaining q := by
    intro n
    induction n with
    | zero => exact ⟨hinv, hrow, le_refl _⟩
    | succ n ih =>
      rcases ih with ⟨hinv', hrow', hremaining⟩
      rcases hlate.arguments n with ⟨token, interval, htoken, hinterval, hvalid⟩
      rcases takes_or_remaining_lt hinteger hinv' hrow' hbelow htoken hinterval hvalid (hdue _ (hlate.late n))
        (hlate.unlocked n) (hlate.admits n) (hlate.joins n) with htakes | ⟨hkept, hless⟩
      · exact absurd htakes (hnone n)
      · refine ⟨inv_afterClaim hinv' (calls n), hkept, ?_⟩
        change b.remaining (b.afterClaim _ _) + (n + 1) ≤ _
        omega
  have hlast := (hcount (b.remaining q + 1)).2.2
  omega

/-- A row leased on its last attempt stays as it is under every claim. -/
theorem afterClaims_exhausted {b : BoundedQueue S P} {q : WorkTable S (Option WorkResult)} {id : PyStr}
    {w : Work S (Option WorkResult)} (hrow : q.row id = some w) (hbound : b.bound ≤ w.attempt)
    (calls : Nat → ClaimCall) (n : Nat) : (b.afterClaims q calls n).row id = some w := by
  induction n with
  | zero => exact hrow
  | succ n ih =>
    change (b.afterClaim _ _).row id = some w
    rcases b.afterClaim_cases (b.afterClaims q calls n) (calls n) with
      hsame | ⟨id', w', lease_token, expires, hrow', hbelow, hset⟩
    · rw [hsame]
      exact ih
    · rw [hset, WorkTable.row_setRow, if_neg, ih]
      rintro rfl
      rw [ih] at hrow'
      cases hrow'
      omega

theorem not_takes_exhausted {b : BoundedQueue S P} {q : WorkTable S (Option WorkResult)} {id : PyStr}
    {w : Work S (Option WorkResult)} (hrow : q.row id = some w) (hbound : b.bound ≤ w.attempt)
    (hleased : w.state = .leased) (c : ClaimCall) : ¬b.Takes q c id := by
  rintro (⟨q', w', hclaim⟩ | ⟨w', hrow', hparked⟩)
  · rcases claim_ok hclaim with ⟨_, _, hr⟩ | ⟨id', v, token, interval, hcandidate, _, _, _, hr⟩
    · cases hr
    · split at hr
      · cases hr
        rcases WorkTable.candidate_ok hcandidate with ⟨hv, _, _, hadmits⟩
        rw [hrow] at hv
        cases hv
        simp only [statement, Bool.and_eq_true, decide_eq_true_eq] at hadmits
        omega
      · cases hr
  · have hkept := afterClaims_exhausted hrow hbound (fun _ => c) 1
    rw [show b.afterClaims q (fun _ => c) 1 = b.afterClaim q c from rfl, hrow'] at hkept
    cases hkept
    rw [hleased] at hparked
    cases hparked

/-- Claims at one time with everything live. -/
def claimAt (catalog : SourceCatalog) (now : Int) : ClaimCall where
  catalog := catalog
  lease_token := some (str "worker")
  ttl := some minimumLease
  locked := []
  now := now
  later := now

theorem late_claimAt {b : BoundedQueue S P} {id : PyStr} {source : S} {catalog : SourceCatalog}
    (hadmits : b.admits catalog source = true) (hjoins : b.joins catalog id source = true) (start : Int) :
    b.Late id source start fun _ => claimAt catalog start where
  arguments _ := ⟨str "worker", minimumLease, rfl, rfl, by decide⟩
  late _ := le_refl _
  clock _ := ⟨le_refl _, le_refl _⟩
  unlocked _ := List.not_mem_nil
  admits _ := hadmits
  joins _ := hjoins

/-- No row is stranded: claims reach every row that is not final. -/
def ReachesAll (b : BoundedQueue S P) (q : WorkTable S (Option WorkResult)) : Prop :=
  ∀ id w, q.row id = some w → ¬w.Terminal → b.Reaches q id w.source

/-- No row is leased on its last attempt. -/
def NoLastLease (b : BoundedQueue S P) (q : WorkTable S (Option WorkResult)) : Prop :=
  ∀ id w, q.row id = some w → w.state = .leased → w.attempt < b.bound

theorem reachesAll_iff {b : BoundedQueue S P} (hinteger : b.bound ≤ WorkTable.maxInteger)
    (hsources : ∀ id source, ∃ catalog, b.admits catalog source = true ∧ b.joins catalog id source = true)
    {q : WorkTable S (Option WorkResult)} (hinv : b.Inv q) : b.ReachesAll q ↔ b.NoLastLease q := by
  constructor
  · intro h id w hrow hleased
    by_contra hbound
    have hfinal : ¬w.Terminal := by
      rintro (hstate | hstate) <;>
        · rw [hleased] at hstate
          cases hstate
    rcases h id w hrow hfinal with ⟨start, hstart⟩
    rcases hsources id w.source with ⟨catalog, hadmits, hjoins⟩
    rcases hstart _ (late_claimAt hadmits hjoins start) with ⟨n, htakes⟩
    exact not_takes_exhausted (afterClaims_exhausted hrow (Nat.le_of_not_lt hbound) _ n)
      (Nat.le_of_not_lt hbound) hleased _ htakes
  · intro h id w hrow hfinal
    apply reaches_of_attempt_lt hinteger hinv hrow hfinal
    cases hstate : w.state with
    | ready => exact (hinv id w hrow).waiting (Or.inl hstate)
    | failed => exact (hinv id w hrow).waiting (Or.inr hstate)
    | leased => exact h id w hrow hstate
    | succeeded => exact absurd (Or.inl hstate) hfinal
    | parked => exact absurd (Or.inr hstate) hfinal

/-- Once the lease of a last attempt has expired, no call changes the row any more. -/
theorem exhausted_forever {b : BoundedQueue S P} {s : BoundedState S P} {id : PyStr}
    {w : Work S (Option WorkResult)} (hrow : s.work.row id = some w) (hbound : b.bound ≤ w.attempt)
    {expires : Int} (hexpires : w.lease_expires_utc = some expires) (hclock : expires ≤ s.clock)
    (calls : List (Call S P)) : b.machine.AllStates (fun t => t.work.row id = some w) s calls := by
  refine @Machine.allStates_of_inv _ _ b.machine
    (fun t => t.work.row id = some w ∧ expires ≤ t.clock) s _ ?_ (fun _ h => h.1) ⟨hrow, hclock⟩ calls
  rintro t a u ⟨hrow, hclock⟩ hstep
  rcases step_some hstep with ⟨⟨hnow, hlater⟩, rfl⟩
  refine ⟨?_, hclock.trans (hnow.trans hlater)⟩
  rcases b.apply_cases t a with hsame | ⟨id', w', hset, hmoves⟩
  · simp only [hsame]
    exact hrow
  · simp only [hset]
    rw [WorkTable.row_setRow, if_neg, hrow]
    rintro rfl
    rw [hrow] at hmoves
    cases hmoves with
    | claimed lease_token expires hbelow => omega
    | released state hstate last_error available_at_utc outcome hactive hready hfailed =>
      rcases hactive with ⟨expires', hexpires', hlive⟩
      rw [hexpires] at hexpires'
      cases hexpires'
      omega

end BoundedQueue

/-! ## The four queues -/

/-- What `enqueue_starlink_pilot_refinement_work_v0_1` inserts beside the prescreen's identifier. -/
structure PilotRefinementWork where
  recording_id : PyStr

/-- `recording_starlink_pilot_refinement_v0_1` -/
structure PilotRefinementProduct where
  analysis_id : PyStr
  recording_id : PyStr
  recording_identity_digest_value : PyStr
  source_prescreen_analysis_id : PyStr
  source_prescreen_bundle_digest_value : PyStr
  source_suite_analysis_id : PyStr
  source_suite_bundle_digest_value : PyStr
  request_digest_value : PyStr
  bundle_digest_value : PyStr
  stream_count : Int
  seed_count : Int
  point_count : Int
  idempotency_key : PyStr
deriving DecidableEq

/-- Migration 0049; the rows are under `source_prescreen_analysis_id`. -/
def starlink_pilot_refinement : BoundedQueue PilotRefinementWork PilotRefinementProduct where
  bound := 3
  delay := 5000000
  before a b := a.2.available_at_utc > b.2.available_at_utc ||
    (a.2.available_at_utc = b.2.available_at_utc && decide (b.1 ≤ a.1))
  admits c w := (c.suite w.recording_id).isSome
  joins c id w := c.recordingLive w.recording_id && (c.prescreen id).any c.live &&
    (c.suite w.recording_id).any fun s => c.live s.bundle
  clashes _ _ := false
  -- `ON CONFLICT DO NOTHING`
  repeats _ _ := true
  capacity := none
  productClashes p e := p.analysis_id = e.analysis_id || p.idempotency_key = e.idempotency_key ||
    (p.recording_id = e.recording_id &&
      p.recording_identity_digest_value = e.recording_identity_digest_value &&
      p.source_prescreen_analysis_id = e.source_prescreen_analysis_id &&
      p.source_prescreen_bundle_digest_value = e.source_prescreen_bundle_digest_value &&
      p.source_suite_analysis_id = e.source_suite_analysis_id &&
      p.source_suite_bundle_digest_value = e.source_suite_bundle_digest_value &&
      p.request_digest_value = e.request_digest_value)
  productRepeats p e := p = e
  publisher _ := none
  publishes _ _ := true
  completes id w p analysis_id bundle_digest_value := p.analysis_id = analysis_id &&
    p.recording_id = w.recording_id && p.source_prescreen_analysis_id = id &&
    p.bundle_digest_value = bundle_digest_value
  parks := false

/-- What `enqueue_starlink_symbolwise_replay_work_v0_1` inserts beside the `work_id`. -/
structure SymbolwiseReplayWork (J : Type) where
  recording_id : PyStr
  recording_identity_digest_value : PyStr
  request_digest_value : PyStr
  request_json : J
  priority : Int
  idempotency_key : PyStr
deriving DecidableEq

/-- The payload of `publish_recording_starlink_symbolwise_replay_v0_1`. -/
structure SymbolwiseReplayProduct where
  analysis_id : PyStr
  recording_id : PyStr
  recording_identity_digest_value : PyStr
  request_digest_value : PyStr
  bundle_digest_value : PyStr
  stream_count : Int
  window_count : Int
  pattern_evidence_count : Int
  idempotency_key : PyStr
  work_id : PyStr
  lease_token : PyStr
  lease_generation : Int

/-- Migration 0052; the rows are under `work_id`. -/
def starlink_symbolwise_replay (J : Type) [DecidableEq J] :
    BoundedQueue (SymbolwiseReplayWork J) SymbolwiseReplayProduct where
  bound := 3
  delay := 30000000
  before a b := a.2.source.priority > b.2.source.priority ||
    (a.2.source.priority = b.2.source.priority &&
      (a.2.available_at_utc < b.2.available_at_utc ||
        (a.2.available_at_utc = b.2.available_at_utc && decide (a.1 ≤ b.1))))
  admits _ _ := true
  joins c _ w := (c.recording w.recording_id).any (·.published) && c.recordingLive w.recording_id
  clashes w e := w.idempotency_key = e.idempotency_key ||
    (w.recording_id = e.recording_id && w.request_digest_value = e.request_digest_value)
  repeats w e := w = e
  capacity := none
  productClashes p e := p.analysis_id = e.analysis_id || p.idempotency_key = e.idempotency_key ||
    (p.recording_id = e.recording_id &&
      p.recording_identity_digest_value = e.recording_identity_digest_value &&
      p.request_digest_value = e.request_digest_value)
  productRepeats p e := p.analysis_id = e.analysis_id && p.recording_id = e.recording_id &&
    p.recording_identity_digest_value = e.recording_identity_digest_value &&
    p.request_digest_value = e.request_digest_value && p.bundle_digest_value = e.bundle_digest_value &&
    p.stream_count = e.stream_count && p.window_count = e.window_count &&
    p.pattern_evidence_count = e.pattern_evidence_count && p.idempotency_key = e.idempotency_key
  publisher p := some (p.work_id, p.lease_token, p.lease_generation)
  publishes w p := w.recording_id = p.recording_id &&
    w.recording_identity_digest_value = p.recording_identity_digest_value &&
    w.request_digest_value = p.request_digest_value
  completes _ w p analysis_id bundle_digest_value := p.analysis_id = analysis_id &&
    p.recording_id = w.recording_id && p.request_digest_value = w.request_digest_value &&
    p.bundle_digest_value = bundle_digest_value
  parks := true

/-- What `admit_full_dwell_timeline_work_v0_1` inserts beside the `work_id`. -/
structure TimelineWork (J : Type) where
  recording_id : PyStr
  request_json : J
deriving DecidableEq

/-- The payload of `publish_recording_full_dwell_timeline_v0_1`. -/
structure TimelineProduct where
  analysis_id : PyStr
  recording_id : PyStr
  recording_identity_digest_value : PyStr
  request_digest_value : PyStr
  data_digest_value : PyStr
  metadata_digest_value : PyStr
  manifest_digest_value : PyStr
  bundle_digest_value : PyStr
  stream_count : Int
  window_count : Int
  covered_sample_count : Int
  idempotency_key : PyStr
deriving DecidableEq

/-- Migration 0044; the rows are under `work_id`. -/
def full_dwell_timeline (J : Type) [DecidableEq J] : BoundedQueue (TimelineWork J) TimelineProduct where
  bound := 8
  delay := 5000000
  before a b := a.2.available_at_utc > b.2.available_at_utc ||
    (a.2.available_at_utc = b.2.available_at_utc && decide (b.1 ≤ a.1))
  admits _ _ := true
  joins _ _ _ := true
  clashes w e := w.recording_id = e.recording_id
  repeats w e := w = e
  capacity := some 8
  productClashes p e := p.analysis_id = e.analysis_id || p.idempotency_key = e.idempotency_key ||
    (p.recording_id = e.recording_id &&
      p.recording_identity_digest_value = e.recording_identity_digest_value &&
      p.request_digest_value = e.request_digest_value)
  productRepeats p e := p = e
  publisher _ := none
  publishes _ _ := true
  completes _ w p analysis_id bundle_digest_value := p.analysis_id = analysis_id &&
    p.recording_id = w.recording_id && p.bundle_digest_value = bundle_digest_value
  parks := false

/-- What `dispatch_full_dwell_refinement_v0_1` inserts beside the `timeline_analysis_id`. The row of
`full_dwell_refinement_work_v0_1` that it inserts with it never differs from it. -/
structure AdaptiveResponseWork (J : Type) where
  recording_id : PyStr
  request_json : J
  priority : Int

/-- `recording_starlink_adaptive_response_v0_1` -/
structure AdaptiveResponseProduct where
  analysis_id : PyStr
  recording_id : PyStr
  input_recording_digest_value : PyStr
  timeline_analysis_id : PyStr
  timeline_bundle_digest_value : PyStr
  source_suite_analysis_id : PyStr
  source_suite_bundle_digest_value : PyStr
  request_digest_value : PyStr
  bundle_digest_value : PyStr
  stream_count : Int
  window_count : Int
  point_count : Int
  idempotency_key : PyStr
deriving DecidableEq

/-- Migrations 0046 and 0051; the rows are under `timeline_analysis_id`. -/
def starlink_adaptive_response (J : Type) [DecidableEq J] :
    BoundedQueue (AdaptiveResponseWork J) AdaptiveResponseProduct where
  bound := 8
  delay := 5000000
  before a b := a.2.source.priority > b.2.source.priority ||
    (a.2.source.priority = b.2.source.priority &&
      (a.2.available_at_utc > b.2.available_at_utc ||
        (a.2.available_at_utc = b.2.available_at_utc && decide (b.1 ≤ a.1))))
  admits c w := (c.suite w.recording_id).isSome
  -- the suite's object is joined whatever its state
  joins c _ w := (c.suite w.recording_id).isSome
  clashes _ _ := false
  repeats w e := w.request_json = e.request_json
  capacity := none
  productClashes p e := p.analysis_id = e.analysis_id || p.idempotency_key = e.idempotency_key ||
    (p.recording_id = e.recording_id && p.input_recording_digest_value = e.input_recording_digest_value &&
      p.timeline_analysis_id = e.timeline_analysis_id &&
      p.timeline_bundle_digest_value = e.timeline_bundle_digest_value &&
      p.source_suite_analysis_id = e.source_suite_analysis_id &&
      p.source_suite_bundle_digest_value = e.source_suite_bundle_digest_value &&
      p.request_digest_value = e.request_digest_value)
  productRepeats p e := p = e
  publisher _ := none
  publishes _ _ := true
  completes _ w p analysis_id bundle_digest_value := p.analysis_id = analysis_id &&
    p.recording_id = w.recording_id && p.bundle_digest_value = bundle_digest_value
  parks := false

namespace BoundedQueue

/-- Three workers that crash, one after the other, on the only row. -/
def threeCrashes : List (Call PilotRefinementWork PilotRefinementProduct) :=
  let catalog := SourceCatalog.whole (str "recording") (.sha256 [])
  [.admit_work (str "slps") ⟨str "recording"⟩ (.ok ()) 0 0, .claim (claimAt catalog 0),
    .claim (claimAt catalog 1000000), .claim (claimAt catalog 2000000), .claim (claimAt catalog 3000000)]

theorem threeCrashes_row :
    ((starlink_pilot_refinement.machine.run ⟨.empty, [], 0⟩ threeCrashes).bind fun s =>
      (s.work.row (str "slps")).map fun w => (w.state, w.attempt, w.lease_expires_utc, s.clock)) =
      some (.leased, 3, some 3000000, 3000000) := by
  rfl

end BoundedQueue

end LeoFlow
