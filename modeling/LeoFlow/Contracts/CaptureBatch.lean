import LeoFlow.Contracts.Storage

/-!
# LeoFlow.Contracts.CaptureBatch — two-radio capture batches

`contracts/capture_batch.py`. A snapshot holds the terminal outcomes of a batch in
the order of its expected attempts, and its revision is their number; `record` is
the only way from one snapshot to the next.
-/

namespace LeoFlow

/-- `_FAILURE_REASON`: `[a-z0-9][a-z0-9._:-]{0,127}` -/
def IsFailureReason (reason : PyStr) : Prop :=
  Matches IsLowerAlnum (fun c => IsLowerAlnum c ∨ IsTokenPunct c) reason ∧ reason.length ≤ 128

instance (reason : PyStr) : Decidable (IsFailureReason reason) :=
  inferInstanceAs (Decidable (Matches IsLowerAlnum _ reason ∧ _))

inductive CaptureBatchMode where
  | independent
  | coordinated
deriving DecidableEq

inductive CaptureAttemptState where
  | succeeded
  | failed
deriving DecidableEq

inductive PairedAnalysisEligibility where
  | pending
  | eligible
  | ineligible
deriving DecidableEq

/-! ## Expected attempts and definitions -/

theorem isToken_capture_batch : IsToken (str "org.leo-flow.capture-batch") := by decide
theorem isToken_attempt_outcome : IsToken (str "org.leo-flow.capture-attempt-outcome") := by decide
theorem isToken_batch_state : IsToken (str "org.leo-flow.capture-batch-state") := by decide

structure ExpectedCaptureAttempt.Fields where
  attempt_id : CaptureAttemptId
  radio_id : RadioId
  plan_id : PlanId
  requested_start_utc_ns : Int
deriving DecidableEq

def ExpectedCaptureAttempt.Fields.post_init (a : ExpectedCaptureAttempt.Fields) :
    Except PyError Unit :=
  requireUtcNs a.requested_start_utc_ns "requested_start_utc_ns"

/-- `ExpectedCaptureAttempt` -/
abbrev ExpectedCaptureAttempt := Checked ExpectedCaptureAttempt.Fields.post_init

structure CaptureBatchDefinition.Fields where
  schema : SchemaRef
  batch_id : CaptureBatchId
  mode : CaptureBatchMode
  expected_attempts : ExpectedCaptureAttempt × ExpectedCaptureAttempt
  maximum_observed_start_skew_ns : Option Int
deriving DecidableEq

namespace CaptureBatchDefinition.Fields

def requested_start_skew_ns (d : Fields) : Nat :=
  (d.expected_attempts.1.val.requested_start_utc_ns -
    d.expected_attempts.2.val.requested_start_utc_ns).natAbs

def post_init (d : Fields) : Except PyError Unit :=
  let first := d.expected_attempts.1.val
  let second := d.expected_attempts.2.val
  checkAll [
    raiseIf (d.schema.schema_id ≠ str "org.leo-flow.capture-batch" ∨ d.schema.version ≠ V0_1)
      (.value "unsupported capture batch schema"),
    -- the stable sort keeps a pair exactly if it is in order
    raiseIf (second.attempt_id.value < first.attempt_id.value)
      (.value "expected capture attempts must use canonical ID order"),
    raiseIf (first.attempt_id = second.attempt_id)
      (.value "capture batch attempt IDs must be unique"),
    raiseIf (first.radio_id = second.radio_id) (.value "capture batch radio IDs must be unique"),
    raiseIf (first.plan_id = second.plan_id) (.value "capture batch plan IDs must be unique"),
    match d.mode, d.maximum_observed_start_skew_ns with
    | .independent, some _ => .error (.value "independent capture cannot declare a skew limit")
    | .independent, none => .ok ()
    | .coordinated, none => .error (.value "coordinated capture requires an observed skew limit")
    | .coordinated, some maximum =>
      checkAll [
        raiseIf (maximum < 0)
          (.value "maximum_observed_start_skew_ns must be a non-negative integer"),
        raiseIf (d.requested_start_skew_ns ≠ 0)
          (.value "coordinated capture requires one requested start")]]

end CaptureBatchDefinition.Fields

/-- `CaptureBatchDefinition` -/
abbrev CaptureBatchDefinition := Checked CaptureBatchDefinition.Fields.post_init

namespace CaptureBatchDefinition

/-- `expected_attempts` -/
def attempts (d : CaptureBatchDefinition) : List ExpectedCaptureAttempt.Fields :=
  [d.val.expected_attempts.1.val, d.val.expected_attempts.2.val]

/-- The index and the attempt that `expected` maps an attempt ID to. -/
def expected (d : CaptureBatchDefinition) (id : CaptureAttemptId) :
    Option (Nat × ExpectedCaptureAttempt.Fields) :=
  if id = d.val.expected_attempts.2.val.attempt_id then some (1, d.val.expected_attempts.2.val)
  else if id = d.val.expected_attempts.1.val.attempt_id then some (0, d.val.expected_attempts.1.val)
  else none

/-- `expected_index` -/
def expected_index (d : CaptureBatchDefinition) (id : CaptureAttemptId) : Option Nat :=
  (d.expected id).map Prod.fst

theorem expected_index_eq_some {d : CaptureBatchDefinition} {id : CaptureAttemptId} {n : Nat} :
    d.expected_index id = some n →
      n = 1 ∧ id = d.val.expected_attempts.2.val.attempt_id ∨
        n = 0 ∧ id = d.val.expected_attempts.1.val.attempt_id := by
  intro h
  unfold expected_index expected at h
  split at h
  · cases h
    exact Or.inl ⟨rfl, ‹_›⟩
  · split at h
    · cases h
      exact Or.inr ⟨rfl, ‹_›⟩
    · cases h

end CaptureBatchDefinition

/-! ## Outcomes -/

structure CaptureAttemptOutcome.Fields where
  schema : SchemaRef
  batch_id : CaptureBatchId
  attempt_id : CaptureAttemptId
  radio_id : RadioId
  plan_id : PlanId
  state : CaptureAttemptState
  terminal_utc_ns : Int
  observed_start_utc_ns : Option Int
  recording_ref : Option PublishedRecordingRef
  failure_reason : Option PyStr
deriving DecidableEq

def CaptureAttemptOutcome.Fields.post_init (o : CaptureAttemptOutcome.Fields) :
    Except PyError Unit :=
  checkAll [
    raiseIf (o.schema.schema_id ≠ str "org.leo-flow.capture-attempt-outcome" ∨
      o.schema.version ≠ V0_1) (.value "unsupported capture attempt outcome schema"),
    requireUtcNs o.terminal_utc_ns "terminal_utc_ns",
    match o.observed_start_utc_ns with
    | none => .ok ()
    | some observed =>
      checkAll [
        requireUtcNs observed "observed_start_utc_ns",
        raiseIf (o.terminal_utc_ns < observed)
          (.value "capture attempt terminates before its observed start")],
    match o.state with
    | .succeeded =>
      checkAll [
        raiseIf (o.observed_start_utc_ns = none ∨ o.recording_ref = none)
          (.value "successful capture requires an observed start and recording"),
        raiseIf (o.failure_reason ≠ none)
          (.value "successful capture cannot declare a failure reason")]
    | .failed =>
      checkAll [
        raiseIf (o.recording_ref ≠ none) (.value "failed capture cannot publish a recording"),
        raiseIf (∀ reason ∈ o.failure_reason, ¬IsFailureReason reason)
          (.value "failed capture requires a bounded reason code")]]

/-- `CaptureAttemptOutcome` -/
abbrev CaptureAttemptOutcome := Checked CaptureAttemptOutcome.Fields.post_init

/-! ## Snapshots -/

structure CaptureBatchSnapshot.Fields where
  schema : SchemaRef
  definition : CaptureBatchDefinition
  outcomes : List CaptureAttemptOutcome
  revision : Int
deriving DecidableEq

namespace CaptureBatchSnapshot.Fields

/-- `batch_id` -/
def batch_id (s : Fields) : CaptureBatchId := s.definition.val.batch_id

/-- The loop of `__post_init__` over the outcomes, with `seen` and `prior_index`. -/
def checkOutcomes (s : Fields) : List CaptureAttemptId → Int → List CaptureAttemptOutcome →
    Except PyError Unit
  | _, _, [] => .ok ()
  | seen, prior_index, o :: os =>
    match s.definition.expected o.val.attempt_id with
    | none => .error (.value "batch outcomes must identify unique expected attempts")
    | some (index, attempt) =>
      match checkAll [
        raiseIf (o.val.attempt_id ∈ seen)
          (.value "batch outcomes must identify unique expected attempts"),
        raiseIf (o.val.batch_id ≠ s.batch_id) (.value "capture outcome belongs to another batch"),
        raiseIf ((index : Int) ≤ prior_index)
          (.value "batch outcomes must use expected-attempt order"),
        raiseIf (o.val.radio_id ≠ attempt.radio_id ∨ o.val.plan_id ≠ attempt.plan_id)
          (.value "capture outcome is routed to another radio or plan")] with
      | .error e => .error e
      | .ok () => checkOutcomes s (o.val.attempt_id :: seen) index os

/-- `recording_ids` -/
def recording_ids (s : Fields) : List RecordingId :=
  s.outcomes.filterMap fun o => o.val.recording_ref.map PublishedRecordingRef.recording_id

def post_init (s : Fields) : Except PyError Unit :=
  checkAll [
    raiseIf (s.schema.schema_id ≠ str "org.leo-flow.capture-batch-state" ∨ s.schema.version ≠ V0_1)
      (.value "unsupported capture batch state schema"),
    raiseIf (s.revision < 0) (.value "revision must be a non-negative integer"),
    raiseIf (s.revision ≠ s.outcomes.length)
      (.value "batch revision must equal its terminal outcome count"),
    s.checkOutcomes [] (-1) s.outcomes,
    raiseIf (¬s.recording_ids.Nodup) (.value "successful attempts must publish different recordings")]

end CaptureBatchSnapshot.Fields

/-- `CaptureBatchSnapshot` -/
abbrev CaptureBatchSnapshot := Checked CaptureBatchSnapshot.Fields.post_init

namespace CaptureBatchSnapshot

def batch_id (s : CaptureBatchSnapshot) : CaptureBatchId := s.val.batch_id

def terminal (s : CaptureBatchSnapshot) : Prop :=
  s.val.outcomes.length = s.val.definition.attempts.length

instance (s : CaptureBatchSnapshot) : Decidable s.terminal := inferInstanceAs (Decidable (_ = _))

def observed_start_skew_ns (s : CaptureBatchSnapshot) : Option Nat :=
  match s.val.outcomes with
  | [first, second] =>
    match first.val.observed_start_utc_ns, second.val.observed_start_utc_ns with
    | some a, some b => some (a - b).natAbs
    | _, _ => none
  | _ => none

def paired_analysis_eligibility (s : CaptureBatchSnapshot) : PairedAnalysisEligibility :=
  if ¬s.terminal then .pending
  else if ∃ o ∈ s.val.outcomes, o.val.state ≠ .succeeded then .ineligible
  else
    match s.val.definition.val.mode with
    | .independent => .eligible
    | .coordinated =>
      match s.observed_start_skew_ns, s.val.definition.val.maximum_observed_start_skew_ns with
      | some observed, some maximum => if maximum < observed then .ineligible else .eligible
      | _, _ => .ineligible

/-- The sort key of an outcome. -/
def key (d : CaptureBatchDefinition) (o : CaptureAttemptOutcome) : Nat :=
  (d.expected_index o.val.attempt_id).getD 0

/-- `record` -/
def record (s : CaptureBatchSnapshot) (o : CaptureAttemptOutcome) :
    Except PyError CaptureBatchSnapshot :=
  match s.val.outcomes.find? fun current => current.val.attempt_id = o.val.attempt_id with
  | some current =>
    if current ≠ o then .error (.value "capture attempt already has a different terminal outcome")
    else .ok s
  | none =>
    if s.val.definition.expected_index o.val.attempt_id = none then
      .error (.value "capture outcome does not belong to this batch")
    else
      Checked.make Fields.post_init
        { s.val with
          outcomes := (s.val.outcomes ++ [o]).insertionSort fun a b =>
            key s.val.definition a ≤ key s.val.definition b
          revision := s.val.revision + 1 }

/-! ### Valid snapshots -/

/-- What the loop accepts: expected attempts, in strictly increasing order. -/
theorem checkOutcomes_ok {s : Fields} {seen : List CaptureAttemptId} {prior : Int}
    {os : List CaptureAttemptOutcome} (h : s.checkOutcomes seen prior os = .ok ()) :
    (∀ o ∈ os, ∃ n, s.definition.expected_index o.val.attempt_id = some n ∧ prior < n) ∧
      os.Pairwise fun a b => key s.definition a < key s.definition b := by
  induction os generalizing seen prior with
  | nil => exact ⟨fun _ ho => absurd ho List.not_mem_nil, List.Pairwise.nil⟩
  | cons o os ih =>
    simp only [Fields.checkOutcomes] at h
    split at h
    · cases h
    · rename_i index attempt hexpected
      split at h
      · cases h
      · rename_i hchecks
        simp only [checkAll_cons, raiseIf_ok, not_le] at hchecks
        have hindex : s.definition.expected_index o.val.attempt_id = some index := by
          unfold CaptureBatchDefinition.expected_index
          rw [hexpected]
          rfl
        obtain ⟨hrest, hsorted⟩ := ih h
        refine ⟨?_, List.pairwise_cons.2 ⟨?_, hsorted⟩⟩
        · intro o' ho'
          rcases List.mem_cons.1 ho' with rfl | ho'
          · exact ⟨index, hindex, hchecks.2.2.1⟩
          · obtain ⟨n, hn, hlt⟩ := hrest o' ho'
            exact ⟨n, hn, hchecks.2.2.1.trans hlt⟩
        · intro o' ho'
          obtain ⟨n, hn, hlt⟩ := hrest o' ho'
          unfold key
          rw [hindex, hn]
          exact_mod_cast hlt

/-- The invariant of the class. -/
theorem post_init_ok (s : CaptureBatchSnapshot) :
    s.val.schema.schema_id = str "org.leo-flow.capture-batch-state" ∧ s.val.schema.version = V0_1 ∧
      s.val.revision = s.val.outcomes.length ∧
      s.val.checkOutcomes [] (-1) s.val.outcomes = .ok () ∧ s.val.recording_ids.Nodup := by
  have h := s.ok
  simp only [Fields.post_init, checkAll_cons, raiseIf_ok, not_or, not_not, ne_eq] at h
  exact ⟨h.1.1, h.1.2, h.2.2.1, h.2.2.2.1, h.2.2.2.2.1⟩

theorem sorted (s : CaptureBatchSnapshot) :
    s.val.outcomes.Pairwise fun a b => key s.val.definition a < key s.val.definition b :=
  (checkOutcomes_ok s.post_init_ok.2.2.2.1).2

theorem nodup_keys (s : CaptureBatchSnapshot) :
    (s.val.outcomes.map (key s.val.definition)).Nodup :=
  List.pairwise_map.2 (s.sorted.imp Nat.ne_of_lt)

theorem nodup (s : CaptureBatchSnapshot) : s.val.outcomes.Nodup := s.nodup_keys.of_map

/-- One outcome for each attempt. -/
theorem eq_of_attempt_id {s : CaptureBatchSnapshot} {o o' : CaptureAttemptOutcome}
    (ho : o ∈ s.val.outcomes) (ho' : o' ∈ s.val.outcomes)
    (h : o.val.attempt_id = o'.val.attempt_id) : o = o' := by
  apply List.inj_on_of_nodup_map s.nodup_keys ho ho'
  unfold key
  rw [h]

/-- A snapshot is its definition and the set of its outcomes. -/
theorem ext_of_mem {s t : CaptureBatchSnapshot} (hdef : s.val.definition = t.val.definition)
    (h : ∀ o, o ∈ s.val.outcomes ↔ o ∈ t.val.outcomes) : s = t := by
  have houtcomes : s.val.outcomes = t.val.outcomes := by
    have hperm := (List.perm_ext_iff_of_nodup s.nodup t.nodup).2 h
    have ht := t.sorted
    rw [← hdef] at ht
    refine hperm.eq_of_pairwise (fun a b _ _ hab hba => ?_) s.sorted ht
    exact absurd (hab.trans hba) (lt_irrefl _)
  obtain ⟨hsid, hsv, hsrev, _⟩ := s.post_init_ok
  obtain ⟨htid, htv, htrev, _⟩ := t.post_init_ok
  have hschema : s.val.schema = t.val.schema := by
    rcases hs : s.val.schema with ⟨id, v, hid⟩
    rcases ht : t.val.schema with ⟨id', v', hid'⟩
    rw [hs] at hsid hsv
    rw [ht] at htid htv
    cases hsid.trans htid.symm
    cases hsv.trans htv.symm
    rfl
  apply Checked.ext
  rcases hs : s.val with ⟨schema, definition, outcomes, revision⟩
  rcases ht : t.val with ⟨schema', definition', outcomes', revision'⟩
  simp only [hs, ht] at *
  rw [hschema, hdef, houtcomes, hsrev, htrev, houtcomes]

/-- `record` returns the snapshot itself, or one with one more outcome. -/
theorem record_ok {s t : CaptureBatchSnapshot} {o : CaptureAttemptOutcome} (h : s.record o = .ok t) :
    o ∈ s.val.outcomes ∧ t = s ∨
      (∀ o' ∈ s.val.outcomes, o'.val.attempt_id ≠ o.val.attempt_id) ∧
        t.val.definition = s.val.definition ∧ t.val.outcomes.Perm (o :: s.val.outcomes) ∧
        t.val.revision = s.val.revision + 1 := by
  unfold record at h
  split at h
  · rename_i current hfound
    split at h
    · cases h
    · rename_i heq
      cases h
      rw [not_not] at heq
      exact Or.inl ⟨heq ▸ List.mem_of_find?_eq_some hfound, rfl⟩
  · rename_i hnone
    split at h
    · cases h
    · have hval := Checked.val_of_make h
      refine Or.inr ⟨?_, by rw [hval], ?_, by rw [hval]⟩
      · intro o' ho'
        simpa using List.find?_eq_none.1 hnone o' ho'
      · rw [hval]
        exact (List.perm_insertionSort _ _).trans (List.perm_append_singleton o _)

/-- The snapshot `register` creates. -/
def initial (d : CaptureBatchDefinition) : CaptureBatchSnapshot where
  val :=
    { schema := ⟨str "org.leo-flow.capture-batch-state", V0_1, isToken_batch_state⟩
      definition := d
      outcomes := []
      revision := 0 }
  ok := by
    simp [Fields.post_init, Fields.checkOutcomes, Fields.recording_ids]

end CaptureBatchSnapshot

end LeoFlow
