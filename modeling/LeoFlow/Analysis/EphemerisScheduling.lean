import LeoFlow.Contracts.RecordingLinks
import LeoFlow.Core.Effect
import LeoFlow.Core.Windows
import LeoFlow.Jobs.Queue

/-!
# LeoFlow.Analysis.EphemerisScheduling — retrieval jobs for the slots of a schedule

`EphemerisScheduler` of `analysis/ephemeris/scheduling.py`, with the `JobPayload` of
`jobs/contracts.py` and the `enqueue` of `jobs/memory.py`. A caller passes the last slot
it was given as the bound of its next call (`perform`), so the calls that return walk
through the slots of the schedule one after the other (`scheduled`).
-/

namespace LeoFlow

/-! ## Contracts -/

structure EphemerisRetrievalRequest.Fields where
  retrieval_id : ContractId .ephemeris_retrieval
  source : EphemerisSource
  scope : PyStr
  request_spec : PyStr

def EphemerisRetrievalRequest.Fields.post_init (r : EphemerisRetrievalRequest.Fields) : Except PyError Unit :=
  checkAll [
    requireToken r.scope IsToken "scope",
    raiseIf (r.request_spec = []) (.value "request_spec cannot be empty")]

/-- `EphemerisRetrievalRequest` -/
abbrev EphemerisRetrievalRequest := Checked EphemerisRetrievalRequest.Fields.post_init

/-- A value of the payloads of this module. -/
inductive PayloadValue where
  | str (s : PyStr)
  | int (n : Int)
deriving DecidableEq

structure JobPayload.Fields where
  schema : SchemaRef
  value : List (PyStr × PayloadValue)
deriving DecidableEq

def JobPayload.Fields.post_init (p : JobPayload.Fields) : Except PyError Unit :=
  raiseIf (¬(p.value.map Prod.fst).Pairwise (· ≤ ·)) (.value "job payload keys must use canonical order")

/-- `JobPayload` -/
abbrev JobPayload := Checked JobPayload.Fields.post_init

/-- `JobPayload.create`: `freeze_mapping` sorts by key, and keeps strings and integers. -/
def JobPayload.create (schema : SchemaRef) (value : List (String × PayloadValue)) : Except PyError JobPayload :=
  Checked.make JobPayload.Fields.post_init
    ⟨schema, (value.map fun x => (LeoFlow.str x.1, x.2)).insertionSort fun a b => a.1 ≤ b.1⟩

structure EphemerisSchedule.Fields where
  source : EphemerisSource
  scope : PyStr
  request_spec : PyStr
  cadence_s : Int
  anchor_utc_ns : Int

def EphemerisSchedule.Fields.post_init (s : EphemerisSchedule.Fields) : Except PyError Unit :=
  checkAll [
    raiseIf (s.cadence_s ≤ 0) (.value "cadence must be positive"),
    raiseIf (s.scope = [] ∨ s.request_spec = []) (.value "scope and request spec are required")]

/-- `EphemerisSchedule` -/
abbrev EphemerisSchedule := Checked EphemerisSchedule.Fields.post_init

namespace EphemerisSchedule

def cadence_ns (schedule : EphemerisSchedule) : Int := schedule.val.cadence_s * 1000000000

theorem cadence_pos (schedule : EphemerisSchedule) : 0 < schedule.cadence_ns := by
  have hok := schedule.ok
  simp only [Fields.post_init, checkAll_cons, raiseIf_ok] at hok
  unfold cadence_ns
  omega

/-- The slots of a schedule, from its anchor on. -/
def slotAt (schedule : EphemerisSchedule) (index : Int) : Int :=
  schedule.val.anchor_utc_ns + index * schedule.cadence_ns

end EphemerisSchedule

/-! ## The queue -/

/-- `JobEnqueuer`: any repository, which may raise before or after it has stored the job. -/
structure JobEnqueuer (ρ : Type) where
  enqueue : ContractId .job → JobType → JobPayload → Option Int → EStateM PyError ρ Unit

namespace EphemerisScheduler

structure ScheduledRetrieval where
  slot_utc_ns : Int
  job_id : ContractId .job
  request : EphemerisRetrievalRequest

/-- `PAYLOAD_SCHEMA` -/
def PAYLOAD_SCHEMA : SchemaRef := ⟨str "org.leo-flow.ephemeris-retrieval-job", V0_1, by decide⟩

/-- What `enqueue_slot` hands to the queue. -/
def slotJob (schedule : EphemerisSchedule) (slot_utc_ns : Int) : Except PyError (ScheduledRetrieval × JobPayload) := do
  let offset := slot_utc_ns - schedule.val.anchor_utc_ns
  raiseIf (offset < 0 ∨ offset % schedule.cadence_ns ≠ 0) (.value "slot is not on the schedule cadence")
  let digest ← canonicalDigest (.object [
    ("source", .str schedule.val.source.value),
    ("scope", .str schedule.val.scope),
    ("request_spec", .str schedule.val.request_spec),
    ("slot_utc_ns", .int slot_utc_ns)])
  let retrieval_id ← ContractId.parse .ephemeris_retrieval (str "ephret_" ++ digest.value)
  let job_id ← ContractId.parse .job (str "job_" ++ digest.value)
  let request ← Checked.make EphemerisRetrievalRequest.Fields.post_init
    ⟨retrieval_id, schedule.val.source, schedule.val.scope, schedule.val.request_spec⟩
  let payload ← JobPayload.create PAYLOAD_SCHEMA [
    ("retrieval_id", .str retrieval_id.value),
    ("source", .str schedule.val.source.value),
    ("scope", .str schedule.val.scope),
    ("request_spec", .str schedule.val.request_spec),
    ("slot_utc_ns", .int slot_utc_ns)]
  return ({ slot_utc_ns, job_id, request }, payload)

/-- What does not touch the queue. -/
def ofExcept {ρ α : Type} (x : Except PyError α) : EStateM PyError ρ α := fun q =>
  match x with
  | .ok a => .ok a q
  | .error e => .error e q

variable {ρ : Type} (jobs : JobEnqueuer ρ) (schedule : EphemerisSchedule)

/-- `enqueue_slot` -/
def enqueue_slot (slot_utc_ns : Int) : EStateM PyError ρ ScheduledRetrieval := do
  let (retrieval, payload) ← ofExcept (slotJob schedule slot_utc_ns)
  jobs.enqueue retrieval.job_id .ephemeris_retrieval payload (some slot_utc_ns)
  return retrieval

/-- The indices that `enqueue_due` goes through. -/
def dueIndices (after_utc_ns now_utc_ns maximum_slots : Int) : List Int :=
  let anchor := schedule.val.anchor_utc_ns
  let first_index := max 0 ((after_utc_ns - anchor) / schedule.cadence_ns + 1)
  let last_index := (now_utc_ns - anchor) / schedule.cadence_ns
  if last_index < first_index then []
  else pyRange first_index (min (last_index + 1) (first_index + maximum_slots)) 1

/-- `enqueue_due` -/
def enqueue_due (after_utc_ns now_utc_ns : Int) (maximum_slots : Int := 24) :
    EStateM PyError ρ (List ScheduledRetrieval) :=
  if maximum_slots ≤ 0 then throw (.value "maximum slots must be positive")
  else (dueIndices schedule after_utc_ns now_utc_ns maximum_slots).mapM fun index =>
    enqueue_slot jobs schedule (schedule.slotAt index)

/-! ## A caller -/

structure Call where
  now_utc_ns : Int
  maximum_slots : Int

/-- A caller that passes the last slot it was given. -/
structure Caller (ρ : Type) where
  queue : ρ
  /-- the bound of the next call -/
  after_utc_ns : Int
  /-- what the calls returned, in order -/
  retrievals : List ScheduledRetrieval := []
  /-- the calls that returned -/
  returned : List Call := []

/-- One call; when it raises, the caller learns of no slot. -/
def perform (caller : Caller ρ) (call : Call) : Caller ρ :=
  match (enqueue_due jobs schedule caller.after_utc_ns call.now_utc_ns call.maximum_slots).run caller.queue with
  | .ok due queue => {
    queue
    after_utc_ns := (due.getLast?.map (·.slot_utc_ns)).getD caller.after_utc_ns
    retrievals := caller.retrievals ++ due
    returned := caller.returned ++ [call] }
  | .error _ queue => { caller with queue }

/-- Call after call. -/
def run (caller : Caller ρ) (calls : List Call) : Caller ρ := calls.foldl (perform jobs schedule) caller

/-! ## Queues -/

/-- A queue with the list of what it has accepted: the time a job is available from, and its identity. -/
def logged : JobEnqueuer (ρ × List (Option Int × ContractId .job)) where
  enqueue job_id job_type payload available_at_utc_ns q :=
    match (jobs.enqueue job_id job_type payload available_at_utc_ns).run q.1 with
    | .ok () queue => .ok () (queue, q.2 ++ [(available_at_utc_ns, job_id)])
    | .error e queue => .error e (queue, q.2)

/-- What `enqueue` of the in-memory repository reads and writes. -/
structure QueuedJob where
  job_type : JobType
  payload : JobPayload
  available_at_utc_ns : Int

/-- Where a process can be stopped in `enqueue`. -/
inductive Fault where
  | none
  | before
  | after

/-- `InMemoryJobLeaseRepository.enqueue` -/
def store (clock : Int) (table : Table (ContractId .job) QueuedJob) (job_id : ContractId .job) (job_type : JobType)
    (payload : JobPayload) (available_at_utc_ns : Option Int) : Except PyError (Table (ContractId .job) QueuedJob) :=
  match table.lookup job_id with
  | some existing =>
    if existing.job_type ≠ job_type ∨ existing.payload ≠ payload then
      .error ⟨.job_conflict_error, "job ID already has a different payload"⟩
    else .ok table
  | none => .ok (table.insert job_id ⟨job_type, payload, available_at_utc_ns.getD clock⟩)

/-- The in-memory repository of a process that may be stopped, by the faults of its next calls. -/
def memory (clock : Int) : JobEnqueuer (Table (ContractId .job) QueuedJob × List Fault) where
  enqueue job_id job_type payload available_at_utc_ns q :=
    match store clock q.1 job_id job_type payload available_at_utc_ns, q.2.headD .none with
    | .error e, _ => .error e (q.1, q.2.tail)
    | .ok _, .before => .error ⟨.keyboard_interrupt, ""⟩ (q.1, q.2.tail)
    | .ok table, .after => .error ⟨.keyboard_interrupt, ""⟩ (table, q.2.tail)
    | .ok table, .none => .ok () (table, q.2.tail)

/-! ## The slots of one call -/

section Indices

variable {schedule : EphemerisSchedule} {index after_utc_ns now_utc_ns maximum_slots : Int}

/-- The index of the first slot after a bound. -/
def nextIndex (schedule : EphemerisSchedule) (after_utc_ns : Int) : Int :=
  max 0 ((after_utc_ns - schedule.val.anchor_utc_ns) / schedule.cadence_ns + 1)

theorem nextIndex_le : nextIndex schedule after_utc_ns ≤ index ↔
    0 ≤ index ∧ after_utc_ns < schedule.slotAt index := by
  have hdiv : (after_utc_ns - schedule.val.anchor_utc_ns) / schedule.cadence_ns < index ↔
      after_utc_ns - schedule.val.anchor_utc_ns < index * schedule.cadence_ns :=
    Int.ediv_lt_iff_lt_mul schedule.cadence_pos
  unfold nextIndex EphemerisSchedule.slotAt
  omega

theorem nextIndex_nonneg : 0 ≤ nextIndex schedule after_utc_ns := le_max_left _ _

/-- The slot that is reached is not scheduled again, and the next one is. -/
theorem nextIndex_slotAt (h : 0 ≤ index) : nextIndex schedule (schedule.slotAt index) = index + 1 := by
  have hquotient : (schedule.slotAt index - schedule.val.anchor_utc_ns) / schedule.cadence_ns = index := by
    unfold EphemerisSchedule.slotAt
    rw [add_sub_cancel_left]
    exact Int.mul_ediv_cancel index schedule.cadence_pos.ne'
  unfold nextIndex
  rw [hquotient]
  omega

theorem slotAt_lt {other : Int} : schedule.slotAt index < schedule.slotAt other ↔ index < other := by
  unfold EphemerisSchedule.slotAt
  rw [Int.add_lt_add_iff_left]
  exact Int.mul_lt_mul_right schedule.cadence_pos

/-- The index after the last one of a call. -/
def stopIndex (schedule : EphemerisSchedule) (after_utc_ns now_utc_ns maximum_slots : Int) : Int :=
  min ((now_utc_ns - schedule.val.anchor_utc_ns) / schedule.cadence_ns + 1)
    (nextIndex schedule after_utc_ns + maximum_slots)

theorem lt_stopIndex : index < stopIndex schedule after_utc_ns now_utc_ns maximum_slots ↔
    schedule.slotAt index ≤ now_utc_ns ∧ index < nextIndex schedule after_utc_ns + maximum_slots := by
  have hdiv : index ≤ (now_utc_ns - schedule.val.anchor_utc_ns) / schedule.cadence_ns ↔
      index * schedule.cadence_ns ≤ now_utc_ns - schedule.val.anchor_utc_ns :=
    Int.le_ediv_iff_mul_le schedule.cadence_pos
  unfold stopIndex EphemerisSchedule.slotAt
  omega

theorem dueIndices_eq : dueIndices schedule after_utc_ns now_utc_ns maximum_slots =
    pyRange (nextIndex schedule after_utc_ns) (stopIndex schedule after_utc_ns now_utc_ns maximum_slots) 1 := by
  unfold dueIndices
  simp only
  split
  · rename_i hnone
    refine (pyRange_one_of_le ?_).symm
    unfold stopIndex nextIndex
    omega
  · rfl

end Indices

/-! ## What a call does -/

section Calls

variable {ρ : Type} {jobs : JobEnqueuer ρ} {schedule : EphemerisSchedule} {slot : Int} {q q' : ρ}
  {r : ScheduledRetrieval} {payload : JobPayload} {indices : List Int} {due : List ScheduledRetrieval}

/-- The job of a slot is for that slot. -/
theorem slot_of_slotJob (h : slotJob schedule slot = .ok (r, payload)) : r.slot_utc_ns = slot := by
  rcases bind_ok.1 h with ⟨_, _, h1⟩
  rcases bind_ok.1 h1 with ⟨_, _, h2⟩
  rcases bind_ok.1 h2 with ⟨_, _, h3⟩
  rcases bind_ok.1 h3 with ⟨_, _, h4⟩
  rcases bind_ok.1 h4 with ⟨_, _, h5⟩
  rcases bind_ok.1 h5 with ⟨_, _, h6⟩
  cases h6
  rfl

/-- The retrieval of its own slot, as the schedule has it. -/
def Scheduled (schedule : EphemerisSchedule) (r : ScheduledRetrieval) : Prop :=
  ∃ payload, slotJob schedule r.slot_utc_ns = .ok (r, payload)

/-- A slot has one retrieval, and so one job identity. -/
theorem Scheduled.unique {r r' : ScheduledRetrieval} (h : Scheduled schedule r) (h' : Scheduled schedule r')
    (hslot : r.slot_utc_ns = r'.slot_utc_ns) : r = r' := by
  rcases h with ⟨payload, hr⟩
  rcases h' with ⟨payload', hr'⟩
  rw [hslot, hr'] at hr
  have hpair := Except.ok.inj hr
  exact (congrArg Prod.fst hpair).symm

/-- A slot with no job never reaches the queue. -/
theorem run_enqueue_slot : (enqueue_slot jobs schedule slot).run q =
    match slotJob schedule slot with
    | .error e => .error e q
    | .ok (r, payload) =>
      match (jobs.enqueue r.job_id .ephemeris_retrieval payload (some slot)).run q with
      | .ok () q' => .ok r q'
      | .error e q' => .error e q' := by
  unfold enqueue_slot
  rw [EStateM.run_bind]
  unfold ofExcept
  cases slotJob schedule slot with
  | error e => rfl
  | ok job =>
    rcases job with ⟨r, payload⟩
    show EStateM.run (_ >>= _) q = _
    rw [EStateM.run_bind]
    dsimp only
    cases (jobs.enqueue r.job_id .ephemeris_retrieval payload (some slot)).run q <;> rfl

theorem enqueue_slot_ok : (enqueue_slot jobs schedule slot).run q = .ok r q' ↔
    ∃ payload, slotJob schedule slot = .ok (r, payload) ∧
      (jobs.enqueue r.job_id .ephemeris_retrieval payload (some slot)).run q = .ok () q' := by
  rw [run_enqueue_slot]
  constructor
  · intro h
    split at h
    · cases h
    · rename_i r' payload hjob
      split at h
      · rename_i hstored
        cases h
        exact ⟨payload, hjob, hstored⟩
      · cases h
  · rintro ⟨payload, hjob, hstored⟩
    rw [hjob]
    simp only [hstored]

/-- A loop that returns has done every slot. -/
theorem slots_of_ok (h : (indices.mapM fun index => enqueue_slot jobs schedule (schedule.slotAt index)).run q =
    .ok due q') : due.map (·.slot_utc_ns) = indices.map schedule.slotAt ∧ ∀ r ∈ due, Scheduled schedule r := by
  induction indices generalizing q due with
  | nil =>
    cases h
    exact ⟨rfl, by simp⟩
  | cons index rest ih =>
    rw [List.mapM_cons] at h
    rcases Effect.bind_ok.1 h with ⟨r, u, hslot, h1⟩
    rcases Effect.bind_ok.1 h1 with ⟨later, u', hrest, h2⟩
    cases h2
    rcases enqueue_slot_ok.1 hslot with ⟨payload, hjob, _⟩
    have hr := slot_of_slotJob hjob
    have hlater := ih hrest
    refine ⟨by rw [List.map_cons, List.map_cons, hr, hlater.1], ?_⟩
    intro x hx
    rcases List.mem_cons.1 hx with rfl | hx
    · exact ⟨payload, by rw [hr]; exact hjob⟩
    · exact hlater.2 x hx

theorem enqueue_due_ok {after_utc_ns now_utc_ns maximum_slots : Int}
    (h : (enqueue_due jobs schedule after_utc_ns now_utc_ns maximum_slots).run q = .ok due q') :
    0 < maximum_slots ∧ (∀ r ∈ due, Scheduled schedule r) ∧ due.map (·.slot_utc_ns) =
      (pyRange (nextIndex schedule after_utc_ns)
        (stopIndex schedule after_utc_ns now_utc_ns maximum_slots) 1).map schedule.slotAt := by
  unfold enqueue_due at h
  split at h
  · cases h
  · rename_i hpositive
    have hslots := slots_of_ok h
    rw [dueIndices_eq] at hslots
    exact ⟨by omega, hslots.2, hslots.1⟩

end Calls

/-! ## Runs -/

section Runs

variable {ρ : Type} {jobs : JobEnqueuer ρ} {schedule : EphemerisSchedule} {start : Int} {caller : Caller ρ}
  {call : Call} {calls : List Call}

/-- The slots that a caller was given. -/
def Caller.slots (caller : Caller ρ) : List Int := caller.retrievals.map (·.slot_utc_ns)

/-- The slots of a schedule after a bound, up to an index. -/
def slotsUntil (schedule : EphemerisSchedule) (start : Int) (index : Nat) : Nat :=
  (List.range (index + 1)).countP fun i : Nat => start < schedule.slotAt i

/-- The slots that the calls made so far could return, of those that were due up to `slot`. -/
def Caller.capacity (caller : Caller ρ) (slot : Int) : Int :=
  ((caller.returned.filter fun call => slot ≤ call.now_utc_ns).map (·.maximum_slots)).sum

/-- What holds between the calls: the caller has walked from `start` to its bound. -/
structure Walked (schedule : EphemerisSchedule) (start : Int) (caller : Caller ρ) : Prop where
  onward : nextIndex schedule start ≤ nextIndex schedule caller.after_utc_ns
  slots : caller.slots =
    (pyRange (nextIndex schedule start) (nextIndex schedule caller.after_utc_ns) 1).map schedule.slotAt
  scheduled : ∀ r ∈ caller.retrievals, Scheduled schedule r
  due : ∀ slot ∈ caller.slots, ∃ call ∈ caller.returned, slot ≤ call.now_utc_ns
  /-- a slot is passed, or every call since it was due has returned as many slots as it may -/
  progress : ∀ index : Int, nextIndex schedule start ≤ index →
    min (index + 1) (nextIndex schedule start + caller.capacity (schedule.slotAt index)) ≤
      nextIndex schedule caller.after_utc_ns

theorem walked_start (queue : ρ) : Walked schedule start ({ queue, after_utc_ns := start } : Caller ρ) where
  onward := le_rfl
  slots := by
    rw [pyRange_one_of_le le_rfl]
    rfl
  scheduled := by simp
  due := by simp [Caller.slots]
  progress := by
    intro index _
    simp [Caller.capacity]

/-- A call that returns goes on from where the caller was. -/
theorem Walked.perform_ok {due : List ScheduledRetrieval} {queue : ρ} (h : Walked schedule start caller)
    (hrun : (enqueue_due jobs schedule caller.after_utc_ns call.now_utc_ns call.maximum_slots).run caller.queue =
      .ok due queue) :
    Walked schedule start ({
      queue
      after_utc_ns := (due.getLast?.map (·.slot_utc_ns)).getD caller.after_utc_ns
      retrievals := caller.retrievals ++ due
      returned := caller.returned ++ [call] } : Caller ρ) := by
  rcases enqueue_due_ok hrun with ⟨hpositive, hscheduled, hslots⟩
  set next := nextIndex schedule caller.after_utc_ns with hnext
  set stop := stopIndex schedule caller.after_utc_ns call.now_utc_ns call.maximum_slots with hstop
  have honward := h.onward
  have hnonneg : 0 ≤ next := nextIndex_nonneg
  -- the bound of the next call is the last slot, or what it was if there is none
  have hafter : nextIndex schedule ((due.getLast?.map (·.slot_utc_ns)).getD caller.after_utc_ns) = max next stop := by
    rw [← List.getLast?_map, hslots, List.getLast?_map]
    rcases le_or_gt stop next with hle | hlt
    · rw [pyRange_one_of_le hle, max_eq_left hle]
      rfl
    · rw [getLast_pyRange_one hlt, max_eq_right hlt.le]
      have hlast : nextIndex schedule (schedule.slotAt (stop - 1)) = stop - 1 + 1 := nextIndex_slotAt (by omega)
      rw [Option.map_some, Option.getD_some, hlast]
      omega
  have hindices : pyRange next stop 1 = pyRange next (max next stop) 1 := by
    rcases le_or_gt stop next with hle | hlt
    · rw [max_eq_left hle, pyRange_one_of_le hle, pyRange_one_of_le le_rfl]
    · rw [max_eq_right hlt.le]
  constructor
  · rw [hafter]
    omega
  · rw [hafter, Caller.slots, List.map_append, hslots, hindices, ← pyRange_one_append honward (le_max_left next stop),
      List.map_append]
    exact congrArg (· ++ _) h.slots
  · intro r hr
    rcases List.mem_append.1 hr with hr | hr
    · exact h.scheduled r hr
    · exact hscheduled r hr
  · intro slot hslot
    rw [Caller.slots, List.map_append] at hslot
    rcases List.mem_append.1 hslot with hslot | hslot
    · rcases h.due slot hslot with ⟨earlier, hearlier, hle⟩
      exact ⟨earlier, List.mem_append_left _ hearlier, hle⟩
    · rw [hslots] at hslot
      rcases List.mem_map.1 hslot with ⟨index, hindex, rfl⟩
      have hlt := (mem_pyRange_one.1 hindex).2
      exact ⟨call, List.mem_append_right _ (List.mem_singleton.2 rfl), (lt_stopIndex.1 hlt).1⟩
  · intro index hindex
    have hbefore := h.progress index hindex
    rw [hafter]
    unfold Caller.capacity at hbefore ⊢
    rw [List.filter_append, List.map_append, List.sum_append]
    by_cases hdue : schedule.slotAt index ≤ call.now_utc_ns
    · rw [List.filter_cons_of_pos (by simpa using hdue), List.filter_nil, List.map_singleton, List.sum_singleton]
      -- the call reaches the slot, unless it has returned all it may before
      have hreach : min (index + 1) (next + call.maximum_slots) ≤ stop := by
        rcases lt_or_ge index (next + call.maximum_slots) with hroom | hfull
        · have hlt := lt_stopIndex.2 ⟨hdue, hroom⟩
          omega
        · have hlast : schedule.slotAt (next + call.maximum_slots - 1) ≤ call.now_utc_ns := by
            have hlt : schedule.slotAt (next + call.maximum_slots - 1) < schedule.slotAt index :=
              slotAt_lt.2 (by omega)
            omega
          have hlt := lt_stopIndex.2 ⟨hlast, show next + call.maximum_slots - 1 < next + call.maximum_slots by omega⟩
          omega
      omega
    · rw [List.filter_cons_of_neg (by simpa using hdue), List.filter_nil, List.map_nil, List.sum_nil]
      omega

/-- A call keeps the walk, also one that raises. -/
theorem Walked.perform (h : Walked schedule start caller) : Walked schedule start (perform jobs schedule caller call) := by
  unfold EphemerisScheduler.perform
  split
  · rename_i due queue hrun
    exact h.perform_ok hrun
  · exact ⟨h.onward, h.slots, h.scheduled, h.due, h.progress⟩

theorem Walked.run (h : Walked schedule start caller) : Walked schedule start (run jobs schedule caller calls) := by
  induction calls generalizing caller with
  | nil => exact h
  | cons call rest ih => exact ih h.perform

/-- The slots are those after the bound, each once, in order. -/
theorem Walked.mem_slots (h : Walked schedule start caller) {slot : Int} : slot ∈ caller.slots ↔
    ∃ index : Nat, slot = schedule.slotAt index ∧ start < slot ∧
      (index : Int) < nextIndex schedule caller.after_utc_ns := by
  rw [h.slots, List.mem_map]
  constructor
  · rintro ⟨index, hindex, rfl⟩
    rcases mem_pyRange_one.1 hindex with ⟨hle, hlt⟩
    rcases nextIndex_le.1 hle with ⟨hnonneg, hstart⟩
    refine ⟨index.toNat, ?_, hstart, by omega⟩
    rw [Int.toNat_of_nonneg hnonneg]
  · rintro ⟨index, rfl, hstart, hlt⟩
    exact ⟨index, mem_pyRange_one.2 ⟨nextIndex_le.2 ⟨by omega, hstart⟩, hlt⟩, rfl⟩

theorem Walked.ascending (h : Walked schedule start caller) : caller.slots.Pairwise (· < ·) := by
  rw [h.slots, List.pairwise_map]
  exact (pairwise_pyRange _ _ Int.one_pos).imp slotAt_lt.2

theorem slotsUntil_eq {index : Nat} (h : start < schedule.slotAt index) :
    (slotsUntil schedule start index : Int) = index + 1 - nextIndex schedule start := by
  have hle : nextIndex schedule start ≤ index := nextIndex_le.2 ⟨by omega, h⟩
  have hnonneg : 0 ≤ nextIndex schedule start := nextIndex_nonneg
  have hcount : slotsUntil schedule start index = (List.range (index + 1)).countP fun i =>
      (nextIndex schedule start).toNat ≤ i := by
    unfold slotsUntil
    refine List.countP_congr fun i _ => ?_
    have hiff : nextIndex schedule start ≤ (i : Int) ↔ 0 ≤ (i : Int) ∧ start < schedule.slotAt i := nextIndex_le
    rw [decide_eq_true_iff, decide_eq_true_iff]
    constructor
    · intro hi
      have := hiff.2 ⟨by omega, hi⟩
      omega
    · intro hi
      exact (hiff.1 (by omega)).2
  have hrange : ∀ low n : Nat, low ≤ n → (List.range n).countP (fun i => low ≤ i) = n - low := by
    intro low n hn
    induction n, hn using Nat.le_induction with
    | base =>
      rw [Nat.sub_self, List.countP_eq_zero]
      intro i hi
      have := List.mem_range.1 hi
      simp
      omega
    | succ n hn ih =>
      rw [List.range_succ, List.countP_append, ih]
      simp [hn]
      omega
  rw [hcount, hrange _ _ (by omega)]
  omega

end Runs

/-! ## What the queue was given -/

section Logged

variable {ρ : Type} {jobs : JobEnqueuer ρ} {schedule : EphemerisSchedule} {start : Int}

/-- What the log says of a retrieval. -/
def entry (r : ScheduledRetrieval) : Option Int × ContractId .job := (some r.slot_utc_ns, r.job_id)

/-- Everything in the log is the job of a slot of the schedule. -/
def Faithful (schedule : EphemerisSchedule) (log : List (Option Int × ContractId .job)) : Prop :=
  ∀ x ∈ log, ∃ r, x = entry r ∧ Scheduled schedule r

theorem logged_ok {slot : Int} {q q' : ρ × List (Option Int × ContractId .job)} {r : ScheduledRetrieval}
    (h : (enqueue_slot (logged jobs) schedule slot).run q = .ok r q') : q'.2 = q.2 ++ [entry r] := by
  rcases enqueue_slot_ok.1 h with ⟨payload, hjob, hstored⟩
  have hslot := slot_of_slotJob hjob
  unfold logged at hstored
  simp only [EStateM.run] at hstored
  split at hstored
  · cases hstored
    unfold entry
    rw [hslot]
  · cases hstored

/-- One slot adds to the log what it returns, or nothing. -/
theorem faithful_slot (slot : Int) : Effect.Keeps (fun q : ρ × List (Option Int × ContractId .job) =>
    Faithful schedule q.2) (enqueue_slot (logged jobs) schedule slot) := by
  intro q hq
  cases hrun : (enqueue_slot (logged jobs) schedule slot).run q with
  | ok r q' =>
    rcases enqueue_slot_ok.1 hrun with ⟨payload, hjob, _⟩
    have hslot := slot_of_slotJob hjob
    refine ⟨?_, trivial⟩
    show Faithful schedule q'.2
    rw [logged_ok hrun]
    intro x hx
    rcases List.mem_append.1 hx with hx | hx
    · exact hq x hx
    · exact ⟨r, List.mem_singleton.1 hx, payload, by rw [hslot]; exact hjob⟩
  | error e q' =>
    rw [run_enqueue_slot] at hrun
    split at hrun
    · cases hrun
      exact hq
    · unfold logged at hrun
      simp only [EStateM.run] at hrun
      split at hrun
      · cases hrun
      · rename_i hraised
        cases hrun
        split at hraised
        · cases hraised
        · cases hraised
          exact hq

/-- A loop that returns has given the queue what it returns. -/
theorem logged_of_ok {indices : List Int} {q q' : ρ × List (Option Int × ContractId .job)}
    {due : List ScheduledRetrieval}
    (h : (indices.mapM fun index => enqueue_slot (logged jobs) schedule (schedule.slotAt index)).run q = .ok due q') :
    q'.2 = q.2 ++ due.map entry := by
  induction indices generalizing q due with
  | nil =>
    cases h
    exact (List.append_nil _).symm
  | cons index rest ih =>
    rw [List.mapM_cons] at h
    rcases Effect.bind_ok.1 h with ⟨r, u, hslot, h1⟩
    rcases Effect.bind_ok.1 h1 with ⟨later, u', hrest, h2⟩
    cases h2
    rw [ih hrest, logged_ok hslot, List.append_assoc]
    rfl

theorem faithful_slots (indices : List Int) : Effect.Keeps (fun q : ρ × List (Option Int × ContractId .job) =>
    Faithful schedule q.2)
      (indices.mapM fun index => enqueue_slot (logged jobs) schedule (schedule.slotAt index)) := by
  induction indices with
  | nil => exact Effect.keeps_pure []
  | cons index rest ih =>
    rw [List.mapM_cons]
    exact Effect.ensures_bind (faithful_slot _) fun r => Effect.ensures_bind ih fun later => Effect.keeps_pure _

/-- What the queue was given: jobs of slots only, and if every call returned, those that the caller knows. -/
structure Recorded (schedule : EphemerisSchedule) (calls : List Call)
    (caller : Caller (ρ × List (Option Int × ContractId .job))) : Prop where
  faithful : Faithful schedule caller.queue.2
  returned : caller.returned.Sublist calls
  complete : caller.returned = calls → caller.queue.2 = caller.retrievals.map entry

theorem Recorded.perform {caller : Caller (ρ × List (Option Int × ContractId .job))} {calls : List Call} {call : Call}
    (h : Recorded schedule calls caller) :
    Recorded schedule (calls ++ [call]) (perform (logged jobs) schedule caller call) := by
  have hfaithful : Effect.Keeps (fun q : ρ × List (Option Int × ContractId .job) => Faithful schedule q.2)
      (enqueue_due (logged jobs) schedule caller.after_utc_ns call.now_utc_ns call.maximum_slots) := by
    unfold enqueue_due
    exact Effect.ensures_ite (Effect.ensures_throw _) (faithful_slots _)
  have hreturned := h.returned
  unfold EphemerisScheduler.perform
  split
  · rename_i due queue hrun
    refine ⟨(hfaithful.of_ok h.faithful hrun).1, hreturned.append (List.Sublist.refl _), ?_⟩
    intro hall
    unfold enqueue_due at hrun
    split at hrun
    · cases hrun
    · rw [logged_of_ok hrun, h.complete ((List.append_left_inj _).1 hall), List.map_append]
  · rename_i e queue hrun
    refine ⟨hfaithful.of_error h.faithful hrun, hreturned.trans (List.sublist_append_left _ _), ?_⟩
    intro hall
    have hlength := hreturned.length_le
    have hlonger := congrArg List.length hall
    rw [List.length_append, List.length_singleton] at hlonger
    exact absurd hlength (by simp only at hlonger; omega)

theorem Recorded.run {caller : Caller (ρ × List (Option Int × ContractId .job))} {before calls : List Call}
    (h : Recorded schedule before caller) :
    Recorded schedule (before ++ calls) (run (logged jobs) schedule caller calls) := by
  induction calls generalizing caller before with
  | nil =>
    rw [List.append_nil]
    exact h
  | cons call rest ih =>
    have hperform : Recorded schedule (before ++ [call]) (EphemerisScheduler.perform (logged jobs) schedule caller call) := h.perform
    have hnext := ih hperform
    rw [List.append_assoc, List.singleton_append] at hnext
    exact hnext

end Logged

/-! ## Stopping and repeating -/

section Memory

variable {clock : Int} {schedule : EphemerisSchedule} {table table' : Table (ContractId .job) QueuedJob}
  {job_id : ContractId .job} {job_type : JobType} {payload : JobPayload} {available : Option Int}

/-- A job that is stored is found there, and nothing else changes. -/
theorem store_ok (h : store clock table job_id job_type payload available = .ok table') :
    (∃ job ∈ table'.lookup job_id, job.job_type = job_type ∧ job.payload = payload) ∧
      ∀ id job, table.lookup id = some job → table'.lookup id = some job := by
  unfold store at h
  split at h
  · rename_i existing hexisting
    split at h
    · cases h
    · rename_i hsame
      cases h
      exact ⟨⟨existing, hexisting, not_not.1 fun hne => hsame (.inl hne), not_not.1 fun hne => hsame (.inr hne)⟩,
        fun _ _ hjob => hjob⟩
  · rename_i hnew
    cases h
    refine ⟨⟨_, by rw [Table.lookup_insert_ite, if_pos rfl]; rfl, rfl, rfl⟩, ?_⟩
    intro id job hjob
    rw [Table.lookup_insert_ite, if_neg]
    · exact hjob
    · rintro rfl
      rw [hnew] at hjob
      cases hjob

/-- A job that is there already is not stored again. -/
theorem store_again (h : ∃ job ∈ table.lookup job_id, job.job_type = job_type ∧ job.payload = payload) :
    store clock table job_id job_type payload available = .ok table := by
  rcases h with ⟨job, hjob, rfl, rfl⟩
  unfold store
  rw [Option.mem_def.1 hjob]
  simp

variable {indices : List Int} {faults : List Fault} {slot index : Int}

/-- One slot, with a process that may be stopped. -/
theorem run_memory_slot : (enqueue_slot (memory clock) schedule slot).run (table, faults) =
    match slotJob schedule slot with
    | .error e => .error e (table, faults)
    | .ok (r, payload) =>
      match store clock table r.job_id .ephemeris_retrieval payload (some slot), faults.headD .none with
      | .error e, _ => .error e (table, faults.tail)
      | .ok _, .before => .error ⟨.keyboard_interrupt, ""⟩ (table, faults.tail)
      | .ok stored, .after => .error ⟨.keyboard_interrupt, ""⟩ (stored, faults.tail)
      | .ok stored, .none => .ok r (stored, faults.tail) := by
  rw [run_enqueue_slot]
  cases slotJob schedule slot with
  | error e => rfl
  | ok job =>
    rcases job with ⟨r, payload⟩
    unfold memory
    simp only [EStateM.run]
    cases store clock table r.job_id .ephemeris_retrieval payload (some slot) with
    | error e => rfl
    | ok stored => cases faults.headD .none <;> rfl

theorem run_slots {ρ : Type} {jobs : JobEnqueuer ρ} {q : ρ} :
    ((index :: indices).mapM fun index => enqueue_slot jobs schedule (schedule.slotAt index)).run q =
      match (enqueue_slot jobs schedule (schedule.slotAt index)).run q with
      | .error e q => .error e q
      | .ok r q =>
        match (indices.mapM fun index => enqueue_slot jobs schedule (schedule.slotAt index)).run q with
        | .error e q => .error e q
        | .ok due q => .ok (r :: due) q := by
  rw [List.mapM_cons, EStateM.run_bind]
  cases (enqueue_slot jobs schedule (schedule.slotAt index)).run q with
  | error e q => rfl
  | ok r q =>
    dsimp only
    rw [EStateM.run_bind]
    cases (indices.mapM fun index => enqueue_slot jobs schedule (schedule.slotAt index)).run q <;> rfl

/-- The table at the end of a loop, stopped or not. -/
def tableAfter (clock : Int) (schedule : EphemerisSchedule) (indices : List Int)
    (table : Table (ContractId .job) QueuedJob) (faults : List Fault) : Table (ContractId .job) QueuedJob :=
  (Effect.state ((indices.mapM fun index => enqueue_slot (memory clock) schedule (schedule.slotAt index)).run
    (table, faults))).1

/-- The loop takes no job away. -/
theorem lookup_tableAfter {id : ContractId .job} {job : QueuedJob} (h : table.lookup id = some job) :
    (tableAfter clock schedule indices table faults).lookup id = some job := by
  induction indices generalizing table faults with
  | nil => exact h
  | cons index rest ih =>
    unfold tableAfter
    rw [run_slots, run_memory_slot]
    cases slotJob schedule (schedule.slotAt index) with
    | error e => exact h
    | ok slotted =>
      rcases slotted with ⟨r, payload⟩
      dsimp only
      cases hstore : store clock table r.job_id .ephemeris_retrieval payload (some (schedule.slotAt index)) with
      | error e => exact h
      | ok stored =>
        have hstored := (store_ok hstore).2 id job h
        cases faults.headD .none with
        | before => exact h
        | after => exact hstored
        | none =>
          have hrest := @ih stored faults.tail hstored
          unfold tableAfter at hrest
          dsimp only
          cases hrun : (rest.mapM fun index => enqueue_slot (memory clock) schedule (schedule.slotAt index)).run
              (stored, faults.tail) with
          | ok due q =>
            rw [hrun] at hrest
            exact hrest
          | error e q =>
            rw [hrun] at hrest
            exact hrest

/-- Wherever a loop was stopped, the same loop ends as if it had not been started before. -/
theorem repeat_slots :
    (indices.mapM fun index => enqueue_slot (memory clock) schedule (schedule.slotAt index)).run
        (tableAfter clock schedule indices table faults, []) =
      (indices.mapM fun index => enqueue_slot (memory clock) schedule (schedule.slotAt index)).run (table, []) := by
  induction indices generalizing table faults with
  | nil => rfl
  | cons index rest ih =>
    -- the loop that was stopped, by what happened at its first slot
    have hafter : tableAfter clock schedule (index :: rest) table faults =
        match slotJob schedule (schedule.slotAt index) with
        | .error _ => table
        | .ok (r, payload) =>
          match store clock table r.job_id .ephemeris_retrieval payload (some (schedule.slotAt index)),
            faults.headD .none with
          | .error _, _ => table
          | .ok _, .before => table
          | .ok stored, .after => stored
          | .ok stored, .none => tableAfter clock schedule rest stored faults.tail := by
      unfold tableAfter
      rw [run_slots, run_memory_slot]
      cases slotJob schedule (schedule.slotAt index) with
      | error e => rfl
      | ok slotted =>
        rcases slotted with ⟨r, payload⟩
        dsimp only
        cases store clock table r.job_id .ephemeris_retrieval payload (some (schedule.slotAt index)) with
        | error e => rfl
        | ok stored =>
          cases faults.headD .none with
          | before => rfl
          | after => rfl
          | none =>
            dsimp only
            cases (rest.mapM fun index => enqueue_slot (memory clock) schedule (schedule.slotAt index)).run
              (stored, faults.tail) <;> rfl
    rw [hafter, run_slots, run_slots, run_memory_slot, run_memory_slot]
    cases slotJob schedule (schedule.slotAt index) with
    | error e => rfl
    | ok slotted =>
      rcases slotted with ⟨r, payload⟩
      dsimp only
      cases hstore : store clock table r.job_id .ephemeris_retrieval payload (some (schedule.slotAt index)) with
      | error e =>
        dsimp only
        rw [hstore]
      | ok stored =>
        have hthere := (store_ok hstore).1
        cases faults.headD .none with
        | before =>
          dsimp only
          rw [hstore]
        | after =>
          dsimp only
          rw [store_again hthere]
          rfl
        | none =>
          -- the first slot is there already, and the rest is repeated
          rcases hthere with ⟨job, hjob, hsame⟩
          have hkept : ∃ job ∈ (tableAfter clock schedule rest stored faults.tail).lookup r.job_id,
              job.job_type = .ephemeris_retrieval ∧ job.payload = payload := ⟨job, lookup_tableAfter hjob, hsame⟩
          have hrest := @ih stored faults.tail
          dsimp only
          rw [store_again hkept]
          dsimp only [List.headD_nil, List.tail_nil]
          rw [hrest]

end Memory

/-- Clock readings in order are bounded by the last of them. -/
theorem now_le_last {calls : List Call} (h : calls.Pairwise fun a b => a.now_utc_ns ≤ b.now_utc_ns) {call last : Call}
    (hcall : call ∈ calls) (hlast : last ∈ calls.getLast?) : call.now_utc_ns ≤ last.now_utc_ns := by
  rcases List.getLast?_eq_some_iff.1 hlast with ⟨before, rfl⟩
  rcases List.mem_append.1 hcall with hbefore | hend
  · exact (List.pairwise_append.1 h).2.2 call hbefore last (List.mem_singleton.2 rfl)
  · rw [List.mem_singleton.1 hend]

def exampleSchedule : EphemerisSchedule where
  val := {
    source := .SPACE_TRACK
    scope := str "starlink"
    request_spec := str "gp-starlink-active-v1"
    cadence_s := 60
    anchor_utc_ns := 1000000000000 }
  ok := by decide

end EphemerisScheduler

end LeoFlow
