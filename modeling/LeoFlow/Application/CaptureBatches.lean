import LeoFlow.Contracts.CaptureBatch
import LeoFlow.Core.Machine
import LeoFlow.Core.Table

/-!
# LeoFlow.Application.CaptureBatches — concurrent recording of outcomes

`application/capture_batches.py` over a compare-and-swap store. Every call of
`CaptureBatchCoordinator.record` is a process of its own: it reads, merges, swaps, and
starts again after a lost race. A read and a swap are one step each (the store
runs a swap in one transaction); any number of calls, also of the same outcome,
interleave. A call that stops for good at any point is a call that takes no
further step.

`written` and `rivals` are history: which calls stored an outcome, in which order,
and which other calls did so while a call was running.
-/

namespace LeoFlow

/-- What `record` raises. -/
inductive CaptureBatchError where
  /-- `CaptureBatchNotFound` -/
  | not_found (message : PyStr)
  /-- `CaptureBatchIdentityConflict` -/
  | identity_conflict (message : String)
  /-- `CaptureBatchRevisionConflict` -/
  | revision_conflict (message : String)
  /-- anything the store lets through -/
  | other (e : PyError)
deriving DecidableEq

/-! ## The store -/

abbrev CaptureBatchStore := Table CaptureBatchId CaptureBatchSnapshot

namespace CaptureBatchStore

/-- `create`; a stored definition stays. -/
def create (store : CaptureBatchStore) (initial : CaptureBatchSnapshot) : CaptureBatchStore :=
  match store.lookup initial.batch_id with
  | none => store.insert initial.batch_id initial
  | some _ => store

/-- `SQLiteCaptureBatchStateStore.compare_and_swap` -/
def compare_and_swap (store : CaptureBatchStore) (batch_id : CaptureBatchId)
    (expected_revision : Int) (replacement : CaptureBatchSnapshot) :
    Except CaptureBatchError (CaptureBatchStore × CaptureBatchSnapshot) :=
  if replacement.batch_id ≠ batch_id ∨ replacement.val.revision ≠ expected_revision + 1 then
    .error (.identity_conflict "replacement identity or revision differs")
  else
    match store.lookup batch_id with
    | none => .error (.not_found (str "capture batch " ++ batch_id.value ++ str " was not found"))
    | some current =>
      if current.val.revision ≠ expected_revision then
        .error (.revision_conflict "capture batch revision changed")
      else if current.val.definition ≠ replacement.val.definition then
        .error (.identity_conflict "replacement changed immutable batch definition")
      else .ok (store.insert batch_id replacement, replacement)

end CaptureBatchStore

namespace CaptureBatches

/-! ## Calls -/

/-- Where a call of `record` stands. -/
inductive Phase where
  /-- before the read; so many iterations are left after this one -/
  | reading (left : Nat)
  /-- before the swap -/
  | swapping (left : Nat) (state replacement : CaptureBatchSnapshot)
  | returned (snapshot : CaptureBatchSnapshot)
  | raised (e : CaptureBatchError)
deriving DecidableEq

structure Call (P : Type) where
  outcome : CaptureAttemptOutcome
  maximum_revision_retries : Nat
  phase : Phase
  /-- the other calls that stored an outcome of this batch while this one was running -/
  rivals : List P

namespace Call

variable {P : Type}

def batch_id (c : Call P) : CaptureBatchId := c.outcome.val.batch_id

/-- The call still runs. -/
def Running (c : Call P) : Prop :=
  match c.phase with
  | .reading _ | .swapping _ _ _ => True
  | .returned _ | .raised _ => False

instance (c : Call P) : Decidable c.Running := by
  unfold Running
  split <;> infer_instance

/-- The first half of an iteration: `get` and `state.record(outcome)`. -/
def read (c : Call P) (store : CaptureBatchStore) (left : Nat) : Phase :=
  match store.lookup c.batch_id with
  | none =>
    .raised (.not_found (str "no capture batch expects attempt " ++ c.outcome.val.attempt_id.value))
  | some state =>
    match state.record c.outcome with
    | .error e =>
      if e.kind.IsValueError then .raised (.identity_conflict e.message) else .raised (.other e)
    | .ok replacement =>
      -- `record` returns `self`, or a snapshot of another revision
      if replacement = state then .returned state else .swapping left state replacement

/-- Another call, `p`, stored an outcome of the batch `id`. -/
def rival (p : P) (id : CaptureBatchId) (c : Call P) : Call P :=
  if c.batch_id = id ∧ c.Running then { c with rivals := p :: c.rivals } else c

@[simp] theorem outcome_rival (p : P) (id : CaptureBatchId) (c : Call P) :
    (c.rival p id).outcome = c.outcome := by
  unfold rival
  split <;> rfl

@[simp] theorem batch_id_rival (p : P) (id : CaptureBatchId) (c : Call P) :
    (c.rival p id).batch_id = c.batch_id := by
  unfold rival
  split <;> rfl

@[simp] theorem phase_rival (p : P) (id : CaptureBatchId) (c : Call P) :
    (c.rival p id).phase = c.phase := by
  unfold rival
  split <;> rfl

@[simp] theorem maximum_revision_retries_rival (p : P) (id : CaptureBatchId) (c : Call P) :
    (c.rival p id).maximum_revision_retries = c.maximum_revision_retries := by
  unfold rival
  split <;> rfl

theorem rivals_rival (p : P) (id : CaptureBatchId) (c : Call P) :
    (c.rival p id).rivals = if c.batch_id = id ∧ c.Running then p :: c.rivals else c.rivals := by
  unfold rival
  split <;> rfl

theorem length_rivals_le (p : P) (id : CaptureBatchId) (c : Call P) :
    c.rivals.length ≤ (c.rival p id).rivals.length := by
  rw [rivals_rival]
  split
  · exact Nat.le_succ _
  · exact le_rfl

/-- The second half, after the swap of the store. -/
def swapped (left : Nat) (replacement : CaptureBatchSnapshot) :
    Except CaptureBatchError CaptureBatchSnapshot → Phase
  | .error (.revision_conflict _) =>
    match left with
    | 0 => .raised (.revision_conflict "capture batch retry limit was exhausted")
    | left + 1 => .reading left
  | .error e => .raised e
  | .ok stored =>
    if stored ≠ replacement then
      .raised (.identity_conflict "batch store changed the proposed terminal outcome")
    else .returned stored

end Call

/-! ## The system -/

structure State (P : Type) where
  store : CaptureBatchStore
  calls : P → Option (Call P)
  /-- the swaps that stored an outcome, oldest first -/
  written : List (P × CaptureAttemptOutcome)

inductive Label (P : Type) where
  /-- `register` -/
  | register (definition : CaptureBatchDefinition)
  | start (p : P) (outcome : CaptureAttemptOutcome) (maximum_revision_retries : Nat)
  | read (p : P)
  | swap (p : P)
  /-- the store raises; nothing is committed -/
  | fault (p : P) (e : PyError)

namespace State

variable {P : Type} [DecidableEq P]

/-- Call `p` goes on in another phase. -/
def setPhase (s : State P) (p : P) (c : Call P) (phase : Phase) : State P :=
  { s with calls := Function.update s.calls p (some { c with phase := phase }) }

/-- Call `p` stored its outcome: the other running calls of the batch see a rival. -/
def store_by (s : State P) (p : P) (c : Call P) (store : CaptureBatchStore) (phase : Phase) :
    State P where
  store := store
  calls q :=
    if q = p then some { c with phase := phase }
    else (s.calls q).map (Call.rival p c.batch_id)
  written := s.written ++ [(p, c.outcome)]

/-- The outcomes stored for one batch, oldest first. -/
def writtenTo (s : State P) (id : CaptureBatchId) : List CaptureAttemptOutcome :=
  (s.written.map Prod.snd).filter fun o => o.val.batch_id = id

def step (s : State P) : Label P → Option (State P)
  | .register definition =>
    some { s with store := s.store.create (.initial definition) }
  | .start p outcome maximum_revision_retries =>
    match s.calls p, maximum_revision_retries with
    | none, left + 1 =>
      some { s with calls := Function.update s.calls p (some ⟨outcome, left + 1, .reading left, []⟩) }
    | _, _ => none
  | .read p =>
    match s.calls p with
    | some c =>
      match c.phase with
      | .reading left => some (s.setPhase p c (c.read s.store left))
      | _ => none
    | none => none
  | .swap p =>
    match s.calls p with
    | some c =>
      match c.phase with
      | .swapping left state replacement =>
        match s.store.compare_and_swap state.batch_id state.val.revision replacement with
        | .error e => some (s.setPhase p c (Call.swapped left replacement (.error e)))
        | .ok (store, stored) =>
          some (s.store_by p c store (Call.swapped left replacement (.ok stored)))
      | _ => none
    | none => none
  | .fault p e =>
    match s.calls p with
    | some c => if c.Running then some (s.setPhase p c (.raised (.other e))) else none
    | none => none

end State

/-- No batch is registered and no call has begun. -/
def init (P : Type) : State P := ⟨∅, fun _ => none, []⟩

def machine (P : Type) [DecidableEq P] : Machine (State P) (Label P) where
  Init s := s = init P
  step := State.step

/-! ## What a store keeps -/

/-- The store has this snapshot, or a later one of the same batch. -/
def Known (store : CaptureBatchStore) (id : CaptureBatchId) (snapshot : CaptureBatchSnapshot) :
    Prop :=
  ∃ row, store.lookup id = some row ∧ row.val.definition = snapshot.val.definition ∧
    ∀ o ∈ snapshot.val.outcomes, o ∈ row.val.outcomes

/-- No batch is dropped, and no outcome of a batch. -/
def Grows (store store' : CaptureBatchStore) : Prop :=
  ∀ id row, store.lookup id = some row → Known store' id row

theorem known_self {store : CaptureBatchStore} {id : CaptureBatchId} {row : CaptureBatchSnapshot}
    (h : store.lookup id = some row) : Known store id row :=
  ⟨row, h, rfl, fun _ ho => ho⟩

variable {store' : CaptureBatchStore}

theorem Known.grow {store : CaptureBatchStore} {id : CaptureBatchId} {snapshot : CaptureBatchSnapshot}
    (h : Known store id snapshot) (hgrows : Grows store store') :
    Known store' id snapshot := by
  obtain ⟨row, hrow, hdef, hsub⟩ := h
  obtain ⟨row', hrow', hdef', hsub'⟩ := hgrows id row hrow
  exact ⟨row', hrow', hdef'.trans hdef, fun o ho => hsub' o (hsub o ho)⟩

theorem lookup_create {store : CaptureBatchStore} {initial row : CaptureBatchSnapshot}
    {id : CaptureBatchId} (h : store.lookup id = some row) :
    (store.create initial).lookup id = some row := by
  unfold CaptureBatchStore.create
  split
  · rename_i hnone
    have hne : id ≠ initial.batch_id := by
      rintro rfl
      rw [h] at hnone
      cases hnone
    rw [Table.lookup_insert_ite, if_neg hne, h]
  · exact h

/-- A swap of what a call read and merged replaces the very row that was read. -/
theorem compare_and_swap_ok {store : CaptureBatchStore} {id : CaptureBatchId}
    {state replacement stored : CaptureBatchSnapshot} (hknown : Known store id state)
    (h : store.compare_and_swap id state.val.revision replacement = .ok (store', stored)) :
    store.lookup id = some state ∧ store' = store.insert id replacement ∧ stored = replacement := by
  unfold CaptureBatchStore.compare_and_swap at h
  obtain ⟨row, hrow, hdef, hsub⟩ := hknown
  rw [hrow] at h
  split at h
  · cases h
  dsimp only at h
  split at h
  · cases h
  rename_i hrevision
  rw [not_not] at hrevision
  split at h
  · cases h
  cases h
  -- as many outcomes, and all of those read
  have hlength : row.val.outcomes.length = state.val.outcomes.length := by
    have hr := row.post_init_ok.2.2.1
    have hs := state.post_init_ok.2.2.1
    omega
  have hperm := List.subperm_of_subset state.nodup hsub
  have heq : row = state := by
    refine CaptureBatchSnapshot.ext_of_mem hdef fun o => ?_
    exact ((hperm.perm_of_length_le hlength.le).mem_iff).symm
  exact ⟨heq ▸ hrow, rfl, rfl⟩

/-- The only way such a swap fails is a row that has moved on. -/
theorem compare_and_swap_error {store : CaptureBatchStore} {id : CaptureBatchId}
    {state replacement : CaptureBatchSnapshot} {o : CaptureAttemptOutcome} {e : CaptureBatchError}
    (hid : state.batch_id = id) (hknown : Known store id state)
    (hrecord : state.record o = .ok replacement) (hne : replacement ≠ state)
    (h : store.compare_and_swap id state.val.revision replacement = .error e) :
    e = .revision_conflict "capture batch revision changed" ∧
      ∃ row, store.lookup id = some row ∧ row.val.revision ≠ state.val.revision := by
  obtain ⟨row, hrow, hdef, hsub⟩ := hknown
  rcases CaptureBatchSnapshot.record_ok hrecord with ⟨_, heq⟩ | ⟨_, hdefinition, _, hrevision⟩
  · exact absurd heq hne
  have hbatch : replacement.batch_id = id := by
    rw [← hid]
    show replacement.val.definition.val.batch_id = state.val.definition.val.batch_id
    rw [hdefinition]
  unfold CaptureBatchStore.compare_and_swap at h
  rw [if_neg (by rw [hbatch, hrevision]; simp)] at h
  simp only [hrow] at h
  split at h
  · cases h
    exact ⟨rfl, row, hrow, ‹_›⟩
  rw [if_neg (by rw [hdef, hdefinition]; simp)] at h
  cases h

/-- Batches and outcomes stay, and each attempt keeps its outcome. -/
def Kept (store store' : CaptureBatchStore) : Prop :=
  ∀ id row, store.lookup id = some row →
    ∃ row', store'.lookup id = some row' ∧ row'.val.definition = row.val.definition ∧
      ∀ o ∈ row.val.outcomes, o ∈ row'.val.outcomes ∧
        ∀ o' ∈ row'.val.outcomes, o'.val.attempt_id = o.val.attempt_id → o' = o

theorem Grows.kept {store : CaptureBatchStore} (h : Grows store store') :
    Kept store store' := by
  intro id row hrow
  obtain ⟨row', hrow', hdef, hsub⟩ := h id row hrow
  refine ⟨row', hrow', hdef, fun o ho => ⟨hsub o ho, fun o' ho' hid => ?_⟩⟩
  exact CaptureBatchSnapshot.eq_of_attempt_id ho' (hsub o ho) hid

/-! ## The invariant -/

/-- What is known where a call stands. -/
def PhaseInv {P : Type} (store : CaptureBatchStore) (c : Call P) : Phase → Prop
  | .reading left => c.maximum_revision_retries ≤ c.rivals.length + left + 1
  | .swapping left state replacement =>
    state.batch_id = c.batch_id ∧ state.record c.outcome = .ok replacement ∧ replacement ≠ state ∧
      ∃ row, store.lookup c.batch_id = some row ∧ row.val.definition = state.val.definition ∧
        (∀ o ∈ state.val.outcomes, o ∈ row.val.outcomes) ∧
        -- every change of the row since the read is a rival
        (c.maximum_revision_retries : Int) + row.val.revision ≤
          c.rivals.length + left + 1 + state.val.revision
  | .returned snapshot => c.outcome ∈ snapshot.val.outcomes ∧ Known store c.batch_id snapshot
  | .raised (.identity_conflict _) =>
    ∃ state e, Known store c.batch_id state ∧ state.record c.outcome = .error e
  | .raised (.revision_conflict _) => c.maximum_revision_retries ≤ c.rivals.length
  | .raised _ => True

structure Inv {P : Type} (s : State P) : Prop where
  phase : ∀ p c, s.calls p = some c → PhaseInv s.store c c.phase
  rivals : ∀ p c, s.calls p = some c →
    c.rivals.Nodup ∧ p ∉ c.rivals ∧ ∀ q ∈ c.rivals, q ∈ s.written.map Prod.fst
  /-- whoever stored an outcome has returned, and stores no other -/
  written : ∀ x ∈ s.written, ∃ c snapshot, s.calls x.1 = some c ∧ c.outcome = x.2 ∧
    c.phase = .returned snapshot
  once : (s.written.map Prod.fst).Nodup
  /-- a row is the sequential result of what was stored -/
  linear : ∀ id row, s.store.lookup id = some row → row.batch_id = id ∧
    (s.writtenTo id).foldlM CaptureBatchSnapshot.record (.initial row.val.definition) = .ok row ∧
      row.val.outcomes.Perm (s.writtenTo id)
  unregistered : ∀ id, s.store.lookup id = none → s.writtenTo id = []

theorem inv_init {P : Type} : Inv (init P) := by
  refine ⟨?_, ?_, ?_, List.nodup_nil, ?_, fun _ _ => rfl⟩
  · intro p c hc
    cases hc
  · intro p c hc
    cases hc
  · intro x hx
    exact absurd hx List.not_mem_nil
  · intro id row hrow
    cases hrow

section Steps

variable {P : Type}

variable {s : State P} {c : Call P}

/-- The phases of running calls hold no write. -/
theorem not_running_of_written (h : Inv s) {p : P} (hc : s.calls p = some c) (hrunning : c.Running) : p ∉ s.written.map Prod.fst := by
  intro hp
  obtain ⟨x, hx, rfl⟩ := List.mem_map.1 hp
  obtain ⟨c', snapshot, hc', _, hphase⟩ := h.written x hx
  rw [hc] at hc'
  cases hc'
  unfold Call.Running at hrunning
  rw [hphase] at hrunning
  exact hrunning

/-- What is known survives when every row stays. -/
theorem PhaseInv.keep {store : CaptureBatchStore}
    (hkeep : ∀ id row, store.lookup id = some row → store'.lookup id = some row) {phase : Phase}
    (h : PhaseInv store c phase) : PhaseInv store' c phase := by
  have hgrows : Grows store store' := fun id row hrow => known_self (hkeep id row hrow)
  cases phase with
  | reading left => exact h
  | swapping left state replacement =>
    obtain ⟨hid, hrecord, hne, row, hrow, hrest⟩ := h
    exact ⟨hid, hrecord, hne, row, hkeep _ row hrow, hrest⟩
  | returned snapshot => exact ⟨h.1, h.2.grow hgrows⟩
  | raised e =>
    cases e with
    | identity_conflict message =>
      obtain ⟨state, e, hknown, hrecord⟩ := h
      exact ⟨state, e, hknown.grow hgrows, hrecord⟩
    | revision_conflict message => exact h
    | not_found message | other e => trivial

/-- A snapshot and what `record` makes of it, stored in its place. -/
structure Swap (store : CaptureBatchStore) (id : CaptureBatchId) (o : CaptureAttemptOutcome)
    (state replacement : CaptureBatchSnapshot) : Prop where
  row : store.lookup id = some state
  record : state.record o = .ok replacement
  changed : replacement ≠ state

namespace Swap

variable {store : CaptureBatchStore} {id : CaptureBatchId} {o : CaptureAttemptOutcome}
  {state replacement : CaptureBatchSnapshot}

theorem merged (h : Swap store id o state replacement) :
    replacement.val.definition = state.val.definition ∧
      replacement.val.outcomes.Perm (o :: state.val.outcomes) ∧
      replacement.val.revision = state.val.revision + 1 := by
  rcases CaptureBatchSnapshot.record_ok h.record with ⟨_, heq⟩ | ⟨_, hmerged⟩
  · exact absurd heq h.changed
  · exact hmerged

theorem sub (h : Swap store id o state replacement) :
    ∀ o' ∈ state.val.outcomes, o' ∈ replacement.val.outcomes :=
  fun _ ho' => h.merged.2.1.mem_iff.2 (List.mem_cons_of_mem _ ho')

theorem grows (h : Swap store id o state replacement) :
    Grows store (store.insert id replacement) := by
  intro id' row hrow
  by_cases hid : id' = id
  · subst hid
    rw [h.row] at hrow
    cases hrow
    exact ⟨replacement, by simp, h.merged.1, h.sub⟩
  · exact known_self (by rw [Table.lookup_insert_ite, if_neg hid, hrow])

/-- What another call knows survives: the change of the row is one more rival. -/
theorem phaseInv (h : Swap store id o state replacement) (p : P) (hc : PhaseInv store c c.phase) :
    PhaseInv (store.insert id replacement) (c.rival p id) c.phase := by
  have hrivals := c.length_rivals_le p id
  generalize hphase : c.phase = phase at hc
  cases phase with
  | reading left =>
    simp only [PhaseInv, Call.maximum_revision_retries_rival] at hc ⊢
    omega
  | swapping left state' replacement' =>
    simp only [PhaseInv, Call.batch_id_rival, Call.outcome_rival,
      Call.maximum_revision_retries_rival] at hc ⊢
    obtain ⟨hid, hrecord, hne, row, hrow, hdef, hsub, hcount⟩ := hc
    refine ⟨hid, hrecord, hne, ?_⟩
    by_cases hbatch : c.batch_id = id
    · subst hbatch
      rw [h.row] at hrow
      cases hrow
      have hrunning : c.Running := by
        unfold Call.Running
        rw [hphase]
        trivial
      refine ⟨replacement, by simp, h.merged.1.trans hdef, fun o ho => h.sub o (hsub o ho), ?_⟩
      rw [Call.rivals_rival, if_pos ⟨rfl, hrunning⟩, h.merged.2.2, List.length_cons]
      push_cast
      omega
    · refine ⟨row, ?_, hdef, hsub, ?_⟩
      · rw [Call.batch_id_rival, Table.lookup_insert_ite, if_neg hbatch, hrow]
      · omega
  | returned snapshot =>
    simp only [PhaseInv, Call.batch_id_rival, Call.outcome_rival] at hc ⊢
    exact ⟨hc.1, hc.2.grow h.grows⟩
  | raised e =>
    cases e with
    | identity_conflict message =>
      simp only [PhaseInv, Call.batch_id_rival, Call.outcome_rival] at hc ⊢
      obtain ⟨state', e', hknown, hrecord⟩ := hc
      exact ⟨state', e', hknown.grow h.grows, hrecord⟩
    | revision_conflict message =>
      simp only [PhaseInv, Call.maximum_revision_retries_rival] at hc ⊢
      omega
    | not_found message | other e => trivial

end Swap

/-- The phase after a read. -/
theorem phaseInv_read (h : Inv s) {p : P} {left : Nat} (hc : s.calls p = some c) (hphase : c.phase = .reading left) :
    PhaseInv s.store c (c.read s.store left) := by
  have hinv := h.phase p c hc
  rw [hphase] at hinv
  unfold Call.read
  split
  · trivial
  · rename_i state hrow
    split
    · rename_i e hrecord
      split
      · exact ⟨state, e, known_self hrow, hrecord⟩
      · trivial
    · rename_i replacement hrecord
      split
      · rename_i heq
        rw [heq] at hrecord
        rcases CaptureBatchSnapshot.record_ok hrecord with ⟨hmem, _⟩ | ⟨_, _, _, hrevision⟩
        · exact ⟨hmem, known_self hrow⟩
        · omega
      · rename_i hne
        refine ⟨(h.linear _ state hrow).1, hrecord, hne, state, hrow, rfl, fun _ ho => ho, ?_⟩
        simp only [PhaseInv] at hinv
        omega

/-- The phase after a lost swap. -/
theorem phaseInv_lost (h : Inv s) {p : P} {left : Nat} {state replacement : CaptureBatchSnapshot}
    {e : CaptureBatchError} (hc : s.calls p = some c) (hphase : c.phase = .swapping left state replacement)
    (herror : s.store.compare_and_swap state.batch_id state.val.revision replacement = .error e) :
    PhaseInv s.store c (Call.swapped left replacement (.error e)) := by
  have hinv := h.phase p c hc
  rw [hphase] at hinv
  obtain ⟨hid, hrecord, hne, row, hrow, hdef, hsub, hcount⟩ := hinv
  rw [hid] at herror
  obtain ⟨rfl, row', hrow', hmoved⟩ :=
    compare_and_swap_error hid ⟨row, hrow, hdef, hsub⟩ hrecord hne herror
  rw [hrow] at hrow'
  cases hrow'
  -- the row has more outcomes than were read
  have hle : state.val.outcomes.length ≤ row.val.outcomes.length :=
    (List.subperm_of_subset state.nodup hsub).length_le
  have hr := row.post_init_ok.2.2.1
  have hs := state.post_init_ok.2.2.1
  cases left with
  | zero =>
    show c.maximum_revision_retries ≤ c.rivals.length
    omega
  | succ left =>
    show c.maximum_revision_retries ≤ c.rivals.length + left + 1
    omega

variable [DecidableEq P]

/-- One call goes on; the store stays. -/
theorem inv_setPhase (h : Inv s) {p : P} {phase : Phase} (hc : s.calls p = some c) (hrunning : c.Running)
    (hphase : PhaseInv s.store c phase) :
    Inv (s.setPhase p c phase) where
  phase := by
    intro q c' hc'
    by_cases hq : q = p
    · subst hq
      simp only [State.setPhase, Function.update_self, Option.some.injEq] at hc'
      rw [← hc']
      exact hphase
    · simp only [State.setPhase, Function.update_of_ne hq] at hc'
      exact h.phase q c' hc'
  rivals := by
    intro q c' hc'
    by_cases hq : q = p
    · subst hq
      simp only [State.setPhase, Function.update_self, Option.some.injEq] at hc'
      rw [← hc']
      exact h.rivals q c hc
    · simp only [State.setPhase, Function.update_of_ne hq] at hc'
      exact h.rivals q c' hc'
  written := by
    intro x hx
    have hne : x.1 ≠ p := by
      rintro rfl
      exact not_running_of_written h hc hrunning (List.mem_map_of_mem hx)
    simp only [State.setPhase, Function.update_of_ne hne]
    exact h.written x hx
  once := h.once
  linear := h.linear
  unregistered := h.unregistered

/-- A stored outcome: the row of the batch is the replacement, and every other running
call of the batch has one more rival. -/
theorem inv_store_by (h : Inv s) {p : P} {state replacement : CaptureBatchSnapshot} (hc : s.calls p = some c)
    (hrunning : c.Running) (hswap : Swap s.store c.batch_id c.outcome state replacement) :
    Inv (s.store_by p c (s.store.insert c.batch_id replacement) (.returned replacement)) := by
  have hfresh := not_running_of_written h hc hrunning
  set s' := s.store_by p c (s.store.insert c.batch_id replacement) (.returned replacement) with hs'
  have hself : s'.calls p = some { c with phase := .returned replacement } := by
    simp [hs', State.store_by]
  have hothers : ∀ q, q ≠ p → s'.calls q = (s.calls q).map (Call.rival p c.batch_id) := by
    intro q hq
    simp [hs', State.store_by, hq]
  have hwritten : s'.written = s.written ++ [(p, c.outcome)] := rfl
  have hto : ∀ id, s'.writtenTo id =
      s.writtenTo id ++ if c.batch_id = id then [c.outcome] else [] := by
    intro id
    simp only [State.writtenTo, hwritten, List.map_append, List.map_cons, List.map_nil,
      List.filter_append, List.filter_cons, List.filter_nil]
    congr 1
    simp only [decide_eq_true_eq]
    rfl
  constructor
  · -- phase
    intro q c' hc'
    by_cases hq : q = p
    · subst hq
      rw [hself] at hc'
      cases hc'
      exact ⟨hswap.merged.2.1.mem_iff.2 List.mem_cons_self, known_self (by simp [hs', State.store_by, Call.batch_id])⟩
    · rw [hothers q hq] at hc'
      obtain ⟨c₀, hc₀, rfl⟩ := Option.map_eq_some_iff.1 hc'
      rw [Call.phase_rival]
      exact hswap.phaseInv p (h.phase q c₀ hc₀)
  · -- rivals
    intro q c' hc'
    have hmap : s'.written.map Prod.fst = s.written.map Prod.fst ++ [p] := by
      rw [hwritten, List.map_append]
      rfl
    rw [hmap]
    by_cases hq : q = p
    · subst hq
      rw [hself] at hc'
      cases hc'
      obtain ⟨hnodup, hnot, hsub⟩ := h.rivals q c hc
      exact ⟨hnodup, hnot, fun r hr => List.mem_append_left _ (hsub r hr)⟩
    · rw [hothers q hq] at hc'
      obtain ⟨c₀, hc₀, rfl⟩ := Option.map_eq_some_iff.1 hc'
      obtain ⟨hnodup, hnot, hsub⟩ := h.rivals q c₀ hc₀
      rw [Call.rivals_rival]
      split
      · refine ⟨List.nodup_cons.2 ⟨fun hp => hfresh (hsub p hp), hnodup⟩, ?_, ?_⟩
        · intro hmem
          rcases List.mem_cons.1 hmem with rfl | hmem
          · exact hq rfl
          · exact hnot hmem
        · intro r hr
          rcases List.mem_cons.1 hr with rfl | hr
          · exact List.mem_append_right _ (List.mem_singleton_self _)
          · exact List.mem_append_left _ (hsub r hr)
      · exact ⟨hnodup, hnot, fun r hr => List.mem_append_left _ (hsub r hr)⟩
  · -- written
    intro x hx
    rw [hwritten] at hx
    rcases List.mem_append.1 hx with hold | hnew
    · obtain ⟨c₀, snapshot, hc₀, houtcome, hphase⟩ := h.written x hold
      have hne : x.1 ≠ p := by
        rintro rfl
        exact hfresh (List.mem_map_of_mem hold)
      refine ⟨c₀.rival p c.batch_id, snapshot, ?_, ?_, ?_⟩
      · rw [hothers x.1 hne, hc₀]
        rfl
      · rw [Call.outcome_rival, houtcome]
      · rw [Call.phase_rival, hphase]
    · cases List.mem_singleton.1 hnew
      exact ⟨_, replacement, hself, rfl, rfl⟩
  · -- once
    rw [hwritten, List.map_append, List.nodup_append]
    refine ⟨h.once, List.nodup_singleton _, ?_⟩
    rintro a ha b hb rfl
    have hp : a = p := by simpa using hb
    exact hfresh (hp ▸ ha)
  · -- linear
    intro id row hrow
    rw [hto]
    have hlookup : (s.store.insert c.batch_id replacement).lookup id = some row := hrow
    rw [Table.lookup_insert_ite] at hlookup
    obtain ⟨hbatch, hfold, hperm⟩ := h.linear c.batch_id state hswap.row
    split at hlookup
    · rename_i hid
      cases hlookup
      subst hid
      rw [if_pos rfl, List.foldlM_append, hswap.merged.1, hfold]
      refine ⟨?_, ?_, ?_⟩
      · rw [← hbatch]
        show replacement.val.definition.val.batch_id = state.val.definition.val.batch_id
        rw [hswap.merged.1]
      · show (state.record c.outcome >>= pure) = _
        rw [hswap.record]
        rfl
      · exact (hswap.merged.2.1.trans (hperm.cons c.outcome)).trans
          (List.perm_append_singleton c.outcome _).symm
    · rename_i hid
      rw [if_neg fun heq => hid heq.symm, List.append_nil]
      exact h.linear id row hlookup
  · -- unregistered
    intro id hnone
    have hlookup : (s.store.insert c.batch_id replacement).lookup id = none := hnone
    rw [Table.lookup_insert_ite] at hlookup
    split at hlookup
    · cases hlookup
    · rename_i hid
      rw [hto, if_neg fun heq => hid heq.symm, List.append_nil]
      exact h.unregistered id hlookup

theorem inv_step {t : State P} (h : Inv s) {a : Label P} (hstep : s.step a = some t) : Inv t := by
  cases a with
  | register definition =>
    cases hstep
    have hkeep : ∀ id row, s.store.lookup id = some row →
        (s.store.create (.initial definition)).lookup id = some row := fun _ _ => lookup_create
    refine ⟨fun p c hc => (h.phase p c hc).keep hkeep, h.rivals, h.written, h.once, ?_, ?_⟩
    · intro id row hrow
      have hrow : (s.store.create (.initial definition)).lookup id = some row := hrow
      cases hold : s.store.lookup id with
      | some row' =>
        rw [lookup_create hold] at hrow
        cases hrow
        exact h.linear id row hold
      | none =>
        -- the row is the one just created
        have hto : s.writtenTo id = [] := h.unregistered id hold
        unfold CaptureBatchStore.create at hrow
        split at hrow
        · rw [Table.lookup_insert_ite, hold] at hrow
          split at hrow
          · rename_i hid
            cases hrow
            have hto' : State.writtenTo
                { s with store := s.store.create (.initial definition) } id = [] := hto
            rw [hto']
            exact ⟨hid.symm, rfl, List.Perm.nil⟩
          · cases hrow
        · rw [hold] at hrow
          cases hrow
    · intro id hnone
      have hnone : (s.store.create (.initial definition)).lookup id = none := hnone
      cases hold : s.store.lookup id with
      | some row =>
        rw [lookup_create hold] at hnone
        cases hnone
      | none => exact h.unregistered id hold
  | start p outcome limit =>
    simp only [State.step] at hstep
    split at hstep
    · rename_i left hfree
      cases hstep
      have hother : ∀ q c, q ≠ p →
          Function.update s.calls p (some ⟨outcome, left + 1, .reading left, []⟩) q = some c →
            s.calls q = some c := by
        intro q c hq hc
        rwa [Function.update_of_ne hq] at hc
      refine ⟨?_, ?_, ?_, h.once, h.linear, h.unregistered⟩
      · intro q c hc
        by_cases hq : q = p
        · subst hq
          simp only [Function.update_self, Option.some.injEq] at hc
          rw [← hc]
          show left + 1 ≤ 0 + left + 1
          omega
        · exact h.phase q c (hother q c hq hc)
      · intro q c hc
        by_cases hq : q = p
        · subst hq
          simp only [Function.update_self, Option.some.injEq] at hc
          rw [← hc]
          exact ⟨List.nodup_nil, List.not_mem_nil, fun _ hr => absurd hr List.not_mem_nil⟩
        · exact h.rivals q c (hother q c hq hc)
      · intro x hx
        obtain ⟨c, snapshot, hc, hrest⟩ := h.written x hx
        have hne : x.1 ≠ p := by
          rintro rfl
          rw [hfree] at hc
          cases hc
        exact ⟨c, snapshot, (Function.update_of_ne hne _ _).trans hc, hrest⟩
    · cases hstep
  | read p =>
    simp only [State.step] at hstep
    split at hstep
    · rename_i c hc
      split at hstep
      · rename_i left hphase
        cases hstep
        exact inv_setPhase h hc (by simp [Call.Running, hphase]) (phaseInv_read h hc hphase)
      · cases hstep
    · cases hstep
  | swap p =>
    simp only [State.step] at hstep
    split at hstep
    · rename_i c hc
      split at hstep
      · rename_i left state replacement hphase
        have hrunning : c.Running := by simp [Call.Running, hphase]
        split at hstep
        · rename_i e herror
          cases hstep
          exact inv_setPhase h hc hrunning (phaseInv_lost h hc hphase herror)
        · rename_i store stored hok
          cases hstep
          have hinv := h.phase p c hc
          rw [hphase] at hinv
          obtain ⟨hid, hrecord, hne, row, hrow, hdef, hsub, _⟩ := hinv
          rw [hid] at hok
          obtain ⟨hstate, rfl, rfl⟩ := compare_and_swap_ok ⟨row, hrow, hdef, hsub⟩ hok
          have hphase' : Call.swapped left stored (.ok stored) = .returned stored := by
            simp [Call.swapped]
          rw [hphase']
          exact inv_store_by h hc hrunning ⟨hstate, hrecord, hne⟩
      · cases hstep
    · cases hstep
  | fault p e =>
    simp only [State.step] at hstep
    split at hstep
    · rename_i c hc
      split at hstep
      · rename_i hrunning
        cases hstep
        exact inv_setPhase h hc hrunning trivial
      · cases hstep
    · cases hstep

/-! ## The result -/

theorem grows_step {t : State P} (h : Inv s) {a : Label P} (hstep : s.step a = some t) :
    Grows s.store t.store := by
  have hsame : ∀ store : CaptureBatchStore, Grows store store :=
    fun store id row hrow => known_self hrow
  cases a with
  | register definition =>
    cases hstep
    exact fun id row hrow => known_self (lookup_create hrow)
  | swap p =>
    simp only [State.step] at hstep
    split at hstep
    · rename_i c hc
      split at hstep
      · rename_i left state replacement hphase
        split at hstep
        · cases hstep
          exact hsame _
        · rename_i store stored hok
          cases hstep
          have hinv := h.phase p c hc
          rw [hphase] at hinv
          obtain ⟨hid, hrecord, hne, row, hrow, hdef, hsub, _⟩ := hinv
          rw [hid] at hok
          obtain ⟨hstate, rfl, rfl⟩ := compare_and_swap_ok ⟨row, hrow, hdef, hsub⟩ hok
          exact (Swap.mk hstate hrecord hne).grows
      · cases hstep
    · cases hstep
  | start | read | fault =>
    simp only [State.step] at hstep
    repeat' split at hstep
    all_goals first
      | cases hstep
        exact hsame _
      | cases hstep

/-- What holds of the calls and the rows in every state. -/
structure Linearizable (s : State P) : Prop where
  /-- a row is the sequential result of the outcomes stored, in the order they were -/
  sequential : ∀ id row, s.store.lookup id = some row →
    (s.writtenTo id).foldlM CaptureBatchSnapshot.record (.initial row.val.definition) = .ok row
  /-- none is lost or there twice, and the revision is their number -/
  counted : ∀ id row, s.store.lookup id = some row → row.val.outcomes.Perm (s.writtenTo id) ∧
    row.val.outcomes.Nodup ∧ row.val.revision = row.val.outcomes.length
  /-- each is the outcome of a call that returned -/
  attributed : ∀ id row, s.store.lookup id = some row → ∀ o ∈ row.val.outcomes,
    ∃ p c snapshot, s.calls p = some c ∧ c.outcome = o ∧ c.phase = .returned snapshot
  /-- a call that returned has its outcome in what it returned, and in the row -/
  recorded : ∀ p c snapshot, s.calls p = some c → c.phase = .returned snapshot →
    c.outcome ∈ snapshot.val.outcomes ∧ Known s.store c.batch_id snapshot
  /-- an outcome is refused only if `record` refuses it -/
  refused : ∀ p c message, s.calls p = some c → c.phase = .raised (.identity_conflict message) →
    ∃ snapshot e, Known s.store c.batch_id snapshot ∧ snapshot.record c.outcome = .error e
  /-- the retries run out only against as many rivals -/
  exhausted : ∀ p c message, s.calls p = some c → c.phase = .raised (.revision_conflict message) →
    c.maximum_revision_retries ≤ c.rivals.length ∧ c.rivals.Nodup ∧ p ∉ c.rivals ∧
      ∀ q ∈ c.rivals, ∃ c' snapshot, s.calls q = some c' ∧ c'.phase = .returned snapshot
  /-- the row, and so its status, is determined by the set of its outcomes -/
  status : ∀ id row, s.store.lookup id = some row → ∀ other : CaptureBatchSnapshot,
    other.val.definition = row.val.definition →
      (∀ o, o ∈ other.val.outcomes ↔ o ∈ row.val.outcomes) → other = row

omit [DecidableEq P] in
theorem Inv.linearizable (h : Inv s) : Linearizable s where
  sequential := fun id row hrow => (h.linear id row hrow).2.1
  counted := fun id row hrow => ⟨(h.linear id row hrow).2.2, row.nodup, row.post_init_ok.2.2.1⟩
  attributed := by
    intro id row hrow o ho
    have hmem : o ∈ s.writtenTo id := (h.linear id row hrow).2.2.mem_iff.1 ho
    obtain ⟨x, hx, rfl⟩ := List.mem_map.1 (List.mem_filter.1 hmem).1
    obtain ⟨c, snapshot, hc, houtcome, hphase⟩ := h.written x hx
    exact ⟨x.1, c, snapshot, hc, houtcome, hphase⟩
  recorded := by
    intro p c snapshot hc hphase
    have hinv := h.phase p c hc
    rw [hphase] at hinv
    exact hinv
  refused := by
    intro p c message hc hphase
    have hinv := h.phase p c hc
    rw [hphase] at hinv
    exact hinv
  exhausted := by
    intro p c message hc hphase
    have hinv := h.phase p c hc
    rw [hphase] at hinv
    obtain ⟨hnodup, hnot, hsub⟩ := h.rivals p c hc
    refine ⟨hinv, hnodup, hnot, fun q hq => ?_⟩
    obtain ⟨x, hx, rfl⟩ := List.mem_map.1 (hsub q hq)
    obtain ⟨c', snapshot, hc', _, hphase'⟩ := h.written x hx
    exact ⟨c', snapshot, hc', hphase'⟩
  status := fun _ _ _ _ hdef hset => CaptureBatchSnapshot.ext_of_mem hdef hset

end Steps

end CaptureBatches

end LeoFlow
