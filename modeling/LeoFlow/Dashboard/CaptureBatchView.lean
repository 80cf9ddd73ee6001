import LeoFlow.Contracts.CaptureBatch

/-!
# LeoFlow.Dashboard.CaptureBatchView — what the dashboard shows of a capture batch

`contracts/dashboard_batch.py` and `application/capture_batch_dashboard.py`: the view of a batch repeats the facts
of a snapshot and adds the analysis state of each attempt. `initial_capture_batch_dashboard_view` never raises.
-/

namespace LeoFlow

inductive DashboardCaptureState where
  | pending
  | succeeded
  | failed
deriving DecidableEq

inductive DashboardAnalysisState where
  | unavailable
  | pending
  | running
  | complete
  | failed
deriving DecidableEq

inductive CoordinationClaim where
  | none
  | measured_software_coordination
deriving DecidableEq

/-! ## Attempts -/

structure CaptureAttemptDashboardView.Fields where
  attempt_id : CaptureAttemptId
  radio_id : RadioId
  plan_id : PlanId
  requested_start_utc_ns : Int
  capture_state : DashboardCaptureState
  observed_start_utc_ns : Option Int
  recording_id : Option RecordingId
  failure_reason : Option PyStr
  analysis_state : DashboardAnalysisState
  analysis_result_available : Bool
deriving DecidableEq

def CaptureAttemptDashboardView.Fields.post_init (a : CaptureAttemptDashboardView.Fields) :
    Except PyError Unit :=
  checkAll [
    requireUtcNs a.requested_start_utc_ns "requested_start_utc_ns",
    match a.observed_start_utc_ns with
    | none => .ok ()
    | some observed => requireUtcNs observed "observed_start_utc_ns",
    match a.capture_state with
    | .pending =>
      checkAll [
        raiseIf (a.observed_start_utc_ns ≠ none ∨ a.recording_id ≠ none ∨ a.failure_reason ≠ none)
          (.value "pending capture cannot have a terminal outcome"),
        raiseIf (a.analysis_state ≠ .unavailable) (.value "pending capture cannot have an analysis state")]
    | .failed =>
      checkAll [
        raiseIf ((∀ reason ∈ a.failure_reason, ¬IsFailureReason reason) ∨ a.recording_id ≠ none)
          (.value "failed capture requires no recording and a bounded reason"),
        raiseIf (a.analysis_state ≠ .unavailable) (.value "failed capture cannot have an analysis state")]
    | .succeeded =>
      checkAll [
        raiseIf (a.observed_start_utc_ns = none ∨ a.recording_id = none ∨ a.failure_reason ≠ none)
          (.value "successful capture requires an observed start and recording"),
        raiseIf (a.analysis_state = .unavailable) (.value "successful capture requires an analysis state")],
    raiseIf (a.analysis_result_available = true ∧
        (a.capture_state ≠ .succeeded ∨ a.analysis_state ≠ .complete))
      (.value "an analysis result is available only for completed analysis")]

/-- `CaptureAttemptDashboardView` -/
abbrev CaptureAttemptDashboardView := Checked CaptureAttemptDashboardView.Fields.post_init

/-! ## Batches -/

structure CaptureBatchDashboardView.Fields where
  schema : SchemaRef
  batch_id : CaptureBatchId
  mode : CaptureBatchMode
  coordination_claim : CoordinationClaim
  attempts : CaptureAttemptDashboardView × CaptureAttemptDashboardView
  revision : Int
  requested_start_skew_ns : Int
  observed_start_skew_ns : Option Int
  maximum_observed_start_skew_ns : Option Int
  paired_analysis_eligibility : PairedAnalysisEligibility
deriving DecidableEq

namespace CaptureBatchDashboardView.Fields

/-- `terminal_count` -/
def terminal_count (v : Fields) : Nat :=
  [v.attempts.1.val, v.attempts.2.val].countP fun a => a.capture_state ≠ .pending

/-- `recording_ids` -/
def recording_ids (v : Fields) : List RecordingId :=
  [v.attempts.1.val, v.attempts.2.val].filterMap fun a => a.recording_id

/-- `successful` -/
def successful (v : Fields) : Prop :=
  v.attempts.1.val.capture_state = .succeeded ∧ v.attempts.2.val.capture_state = .succeeded

instance (v : Fields) : Decidable v.successful := inferInstanceAs (Decidable (_ ∧ _))

def expected_requested_skew (v : Fields) : Int :=
  ((v.attempts.1.val.requested_start_utc_ns - v.attempts.2.val.requested_start_utc_ns).natAbs : Nat)

def expected_observed_skew (v : Fields) : Option Int :=
  match v.attempts.1.val.observed_start_utc_ns, v.attempts.2.val.observed_start_utc_ns with
  | some first, some second => some ((first - second).natAbs : Nat)
  | _, _ => none

def expected_eligibility (v : Fields) : PairedAnalysisEligibility :=
  if v.terminal_count ≠ 2 then .pending
  else if v.successful ∧ (v.mode = .independent ∨
      ∃ observed ∈ v.observed_start_skew_ns, ∃ maximum ∈ v.maximum_observed_start_skew_ns, observed ≤ maximum) then
    .eligible
  else .ineligible

/-- `_require_nonnegative_integer` of an optional field -/
def requireNonnegativeInteger (value : Option Int) (field : String) : Except PyError Unit :=
  raiseIf (∃ n ∈ value, n < 0) (.value (field ++ " must be a non-negative integer"))

@[simp] theorem requireNonnegativeInteger_ok {value : Option Int} {field : String} :
    requireNonnegativeInteger value field = .ok () ↔ ∀ n ∈ value, 0 ≤ n := by
  unfold requireNonnegativeInteger
  rw [raiseIf_ok]
  push Not
  rfl

def post_init (v : Fields) : Except PyError Unit :=
  let first := v.attempts.1.val
  let second := v.attempts.2.val
  checkAll [
    raiseIf (v.schema.schema_id ≠ str "org.leo-flow.dashboard.capture-batch" ∨ v.schema.version ≠ V0_1)
      (.value "unsupported capture batch dashboard schema"),
    raiseIf (second.attempt_id.value < first.attempt_id.value)
      (.value "dashboard attempts must use canonical ID order"),
    raiseIf (first.attempt_id = second.attempt_id)
      (.value "capture batch dashboard attempt IDs must be unique"),
    raiseIf (first.radio_id = second.radio_id) (.value "capture batch dashboard radio IDs must be unique"),
    raiseIf (first.plan_id = second.plan_id) (.value "capture batch dashboard plan IDs must be unique"),
    requireNonnegativeInteger (some v.revision) "revision",
    requireNonnegativeInteger (some v.requested_start_skew_ns) "requested_start_skew_ns",
    requireNonnegativeInteger v.observed_start_skew_ns "observed_start_skew_ns",
    requireNonnegativeInteger v.maximum_observed_start_skew_ns "maximum_observed_start_skew_ns",
    raiseIf (v.revision ≠ v.terminal_count) (.value "revision must equal the terminal attempt count"),
    raiseIf (v.requested_start_skew_ns ≠ v.expected_requested_skew)
      (.value "requested start skew does not match attempt starts"),
    raiseIf (¬v.recording_ids.Nodup) (.value "successful attempts must expose distinct recordings"),
    raiseIf (v.observed_start_skew_ns ≠ v.expected_observed_skew)
      (.value "observed start skew does not match capture outcomes"),
    match v.mode with
    | .independent =>
      checkAll [
        raiseIf (v.coordination_claim ≠ .none) (.value "independent capture makes no coordination claim"),
        raiseIf (v.maximum_observed_start_skew_ns ≠ none)
          (.value "independent capture cannot declare a skew limit")]
    | .coordinated =>
      checkAll [
        raiseIf (v.coordination_claim ≠ .measured_software_coordination)
          (.value "coordinated capture has a measured software claim only"),
        raiseIf ((∀ maximum ∈ v.maximum_observed_start_skew_ns, maximum < 0) ∨ v.requested_start_skew_ns ≠ 0)
          (.value "coordinated capture requires one start and a skew limit")],
    raiseIf (v.paired_analysis_eligibility ≠ v.expected_eligibility)
      (.value "paired-analysis eligibility contradicts batch outcomes")]

/-- An attempt of the view with this recording. -/
def Shows (v : Fields) (recording_id : RecordingId) : Prop :=
  ∃ a ∈ [v.attempts.1.val, v.attempts.2.val], a.recording_id = some recording_id

instance (v : Fields) (recording_id : RecordingId) : Decidable (v.Shows recording_id) :=
  inferInstanceAs (Decidable (∃ a ∈ _, _))

/-- The analysis of this recording is complete, with a result. -/
def Complete (v : Fields) (recording_id : RecordingId) : Prop :=
  ∃ a ∈ [v.attempts.1.val, v.attempts.2.val], a.recording_id = some recording_id ∧
    a.analysis_state = .complete ∧ a.analysis_result_available = true

instance (v : Fields) (recording_id : RecordingId) : Decidable (v.Complete recording_id) :=
  inferInstanceAs (Decidable (∃ a ∈ _, _ ∧ _ ∧ _))

end CaptureBatchDashboardView.Fields

/-- `CaptureBatchDashboardView` -/
abbrev CaptureBatchDashboardView := Checked CaptureBatchDashboardView.Fields.post_init

/-! ## The initial view -/

/-- The state of a terminal attempt in a view. -/
def CaptureAttemptState.dashboard : CaptureAttemptState → DashboardCaptureState
  | .succeeded => .succeeded
  | .failed => .failed

@[simp] theorem CaptureAttemptState.dashboard_ne_pending (state : CaptureAttemptState) :
    state.dashboard ≠ .pending := by
  cases state <;> simp [dashboard]

@[simp] theorem CaptureAttemptState.dashboard_succeeded {state : CaptureAttemptState} :
    state.dashboard = .succeeded ↔ state = .succeeded := by
  cases state <;> simp [dashboard]

namespace CaptureBatchSnapshot

/-- `outcomes.get(attempt_id)` -/
def outcome (s : CaptureBatchSnapshot) (id : CaptureAttemptId) : Option CaptureAttemptOutcome :=
  s.val.outcomes.find? fun o => o.val.attempt_id = id

end CaptureBatchSnapshot

/-- The view of an attempt with this outcome. -/
def captureAttemptView (expected : ExpectedCaptureAttempt.Fields) :
    Option CaptureAttemptOutcome → CaptureAttemptDashboardView.Fields
  | none =>
    ⟨expected.attempt_id, expected.radio_id, expected.plan_id, expected.requested_start_utc_ns, .pending, none,
      none, none, .unavailable, false⟩
  | some o =>
    match o.val.state with
    | .succeeded =>
      ⟨expected.attempt_id, expected.radio_id, expected.plan_id, expected.requested_start_utc_ns, .succeeded,
        o.val.observed_start_utc_ns, o.val.recording_ref.map PublishedRecordingRef.recording_id, none, .pending,
        false⟩
    | .failed =>
      ⟨expected.attempt_id, expected.radio_id, expected.plan_id, expected.requested_start_utc_ns, .failed,
        o.val.observed_start_utc_ns, none, o.val.failure_reason, .unavailable, false⟩

def CaptureBatchMode.claim : CaptureBatchMode → CoordinationClaim
  | .independent => .none
  | .coordinated => .measured_software_coordination

/-- `initial_capture_batch_dashboard_view` -/
def initial_capture_batch_dashboard_view (s : CaptureBatchSnapshot) : Except PyError CaptureBatchDashboardView := do
  let definition := s.val.definition.val
  let first ← Checked.make CaptureAttemptDashboardView.Fields.post_init
    (captureAttemptView definition.expected_attempts.1.val
      (s.outcome definition.expected_attempts.1.val.attempt_id))
  let second ← Checked.make CaptureAttemptDashboardView.Fields.post_init
    (captureAttemptView definition.expected_attempts.2.val
      (s.outcome definition.expected_attempts.2.val.attempt_id))
  Checked.make CaptureBatchDashboardView.Fields.post_init
    { schema := ⟨str "org.leo-flow.dashboard.capture-batch", V0_1, by decide⟩
      batch_id := s.batch_id
      mode := definition.mode
      coordination_claim := definition.mode.claim
      -- the stable sort of two attempts
      attempts :=
        if second.val.attempt_id.value < first.val.attempt_id.value then (second, first) else (first, second)
      revision := s.val.revision
      requested_start_skew_ns := definition.requested_start_skew_ns
      observed_start_skew_ns := s.observed_start_skew_ns.map Int.ofNat
      maximum_observed_start_skew_ns := definition.maximum_observed_start_skew_ns
      paired_analysis_eligibility := s.paired_analysis_eligibility }

/-! ## Views of a snapshot -/

/-- `replace(attempt, analysis_state=COMPLETE, analysis_result_available=True)` -/
def CaptureAttemptDashboardView.Fields.complete (a : CaptureAttemptDashboardView.Fields) :
    CaptureAttemptDashboardView.Fields :=
  { a with
    analysis_state := .complete
    analysis_result_available := true }

namespace CaptureBatchSnapshot

/-- The outcomes by attempt. -/
theorem outcomes_eq (s : CaptureBatchSnapshot) :
    s.val.outcomes = (s.outcome s.val.definition.val.expected_attempts.1.val.attempt_id).toList ++
      (s.outcome s.val.definition.val.expected_attempts.2.val.attempt_id).toList := by
  have hids : s.val.definition.val.expected_attempts.1.val.attempt_id ≠
      s.val.definition.val.expected_attempts.2.val.attempt_id := by
    have h := s.val.definition.ok
    simp only [CaptureBatchDefinition.Fields.post_init, checkAll_cons, raiseIf_ok] at h
    exact h.2.2.1
  obtain ⟨hexpected, hsorted⟩ := checkOutcomes_ok s.post_init_ok.2.2.2.1
  unfold outcome
  generalize s.val.outcomes = os at *
  have hkey : ∀ o ∈ os,
      key s.val.definition o = 1 ∧
          o.val.attempt_id = s.val.definition.val.expected_attempts.2.val.attempt_id ∨
        key s.val.definition o = 0 ∧
          o.val.attempt_id = s.val.definition.val.expected_attempts.1.val.attempt_id := by
    intro o ho
    obtain ⟨n, hn, _⟩ := hexpected o ho
    unfold key
    rw [hn]
    exact CaptureBatchDefinition.expected_index_eq_some hn
  rcases os with _ | ⟨a, _ | ⟨b, _ | ⟨c, rest⟩⟩⟩
  · rfl
  · rcases hkey a List.mem_cons_self with ⟨_, ha⟩ | ⟨_, ha⟩
    · simp [ha, Ne.symm hids]
    · simp [ha, hids]
  · have hlt : key s.val.definition a < key s.val.definition b := by
      simpa using hsorted
    rcases hkey a List.mem_cons_self with ⟨ha, hida⟩ | ⟨ha, hida⟩ <;>
      rcases hkey b (List.mem_cons_of_mem _ List.mem_cons_self) with ⟨hb, hidb⟩ | ⟨hb, hidb⟩
    · omega
    · omega
    · simp [hida, hidb, hids]
    · omega
  · exfalso
    simp only [List.pairwise_cons, List.mem_cons, forall_eq_or_imp] at hsorted
    have hab := hsorted.1.1
    have hbc := hsorted.2.1.1
    rcases hkey c (by simp) with ⟨hc, _⟩ | ⟨hc, _⟩ <;> omega

variable {o : CaptureAttemptOutcome}

theorem mem_of_outcome {s : CaptureBatchSnapshot} {id : CaptureAttemptId} (h : s.outcome id = some o) : o ∈ s.val.outcomes ∧ o.val.attempt_id = id := by
  constructor
  · exact List.mem_of_find?_eq_some h
  · simpa using List.find?_some h

theorem outcome_of_mem {s : CaptureBatchSnapshot} (h : o ∈ s.val.outcomes) :
    s.outcome o.val.attempt_id = some o := by
  cases hfound : s.outcome o.val.attempt_id with
  | none => exact absurd (List.find?_eq_none.1 hfound o h) (by simp)
  | some o' =>
    obtain ⟨ho', hid⟩ := mem_of_outcome hfound
    rw [eq_of_attempt_id ho' h hid]

/-- The fields of an attempt in a view where the analyses of these recordings are complete. -/
def attemptFields (s : CaptureBatchSnapshot) (analysed : List RecordingId)
    (expected : ExpectedCaptureAttempt.Fields) : CaptureAttemptDashboardView.Fields :=
  let a := captureAttemptView expected (s.outcome expected.attempt_id)
  if ∃ r ∈ a.recording_id, r ∈ analysed then a.complete else a

/-- A view of an attempt is valid, whatever its outcome. -/
theorem attemptFields_ok (s : CaptureBatchSnapshot) (analysed : List RecordingId)
    (expected : ExpectedCaptureAttempt) :
    (s.attemptFields analysed expected.val).post_init = .ok () := by
  have hrequested : requireUtcNs expected.val.requested_start_utc_ns "requested_start_utc_ns" = .ok () :=
    expected.ok
  unfold attemptFields
  cases houtcome : s.outcome expected.val.attempt_id with
  | none => simp [captureAttemptView, CaptureAttemptDashboardView.Fields.post_init, hrequested]
  | some o =>
    have ho := o.ok
    simp only [CaptureAttemptOutcome.Fields.post_init, checkAll_cons] at ho
    obtain ⟨_, _, hobserved, hstate, _⟩ := ho
    cases hkind : o.val.state with
    | succeeded =>
      simp only [hkind, checkAll_cons, raiseIf_ok, not_or] at hstate
      obtain ⟨⟨hstart, hrecording⟩, _⟩ := hstate
      obtain ⟨observed, hobs⟩ := Option.ne_none_iff_exists'.1 hstart
      obtain ⟨recording, hrec⟩ := Option.ne_none_iff_exists'.1 hrecording
      simp only [hobs, checkAll_cons] at hobserved
      simp only [captureAttemptView, hkind, hobs, hrec, Option.map_some]
      split <;>
        simp [CaptureAttemptDashboardView.Fields.post_init, CaptureAttemptDashboardView.Fields.complete, hrequested,
          hobserved.1]
    | failed =>
      simp only [hkind, checkAll_cons, raiseIf_ok] at hstate
      have hreason := hstate.2.1
      push Not at hreason
      obtain ⟨reason, hmem, hreason⟩ := hreason
      have hsome : o.val.failure_reason = some reason := hmem
      simp only [captureAttemptView, hkind]
      rw [if_neg (by simp)]
      cases hobs : o.val.observed_start_utc_ns with
      | none => simp [CaptureAttemptDashboardView.Fields.post_init, hrequested, hsome, hreason]
      | some observed =>
        simp only [hobs, checkAll_cons] at hobserved
        simp [CaptureAttemptDashboardView.Fields.post_init, hrequested, hobserved.1, hsome, hreason]

/-- An attempt in a view where the analyses of these recordings are complete. -/
def attemptView (s : CaptureBatchSnapshot) (analysed : List RecordingId) (expected : ExpectedCaptureAttempt) :
    CaptureAttemptDashboardView :=
  ⟨s.attemptFields analysed expected.val, s.attemptFields_ok analysed expected⟩

section Fields

variable (s : CaptureBatchSnapshot) (analysed : List RecordingId) (expected : ExpectedCaptureAttempt)

/-- What the captured attempt shows does not depend on its analysis. -/
theorem attemptView_facts :
    (s.attemptView analysed expected).val =
      { captureAttemptView expected.val (s.outcome expected.val.attempt_id) with
        analysis_state := (s.attemptView analysed expected).val.analysis_state
        analysis_result_available := (s.attemptView analysed expected).val.analysis_result_available } := by
  unfold attemptView attemptFields
  dsimp only
  split <;> rfl

@[simp] theorem attemptView_attempt_id :
    (s.attemptView analysed expected).val.attempt_id = expected.val.attempt_id := by
  rw [attemptView_facts]
  cases s.outcome expected.val.attempt_id with
  | none => rfl
  | some o => cases h : o.val.state <;> simp [captureAttemptView, h]

@[simp] theorem attemptView_radio_id :
    (s.attemptView analysed expected).val.radio_id = expected.val.radio_id := by
  rw [attemptView_facts]
  cases s.outcome expected.val.attempt_id with
  | none => rfl
  | some o => cases h : o.val.state <;> simp [captureAttemptView, h]

@[simp] theorem attemptView_plan_id :
    (s.attemptView analysed expected).val.plan_id = expected.val.plan_id := by
  rw [attemptView_facts]
  cases s.outcome expected.val.attempt_id with
  | none => rfl
  | some o => cases h : o.val.state <;> simp [captureAttemptView, h]

@[simp] theorem attemptView_requested_start_utc_ns :
    (s.attemptView analysed expected).val.requested_start_utc_ns = expected.val.requested_start_utc_ns := by
  rw [attemptView_facts]
  cases s.outcome expected.val.attempt_id with
  | none => rfl
  | some o => cases h : o.val.state <;> simp [captureAttemptView, h]

@[simp] theorem attemptView_capture_state :
    (s.attemptView analysed expected).val.capture_state =
      match s.outcome expected.val.attempt_id with
      | none => .pending
      | some o => o.val.state.dashboard := by
  rw [attemptView_facts]
  cases s.outcome expected.val.attempt_id with
  | none => rfl
  | some o => cases h : o.val.state <;> simp [captureAttemptView, h, CaptureAttemptState.dashboard]

@[simp] theorem attemptView_observed_start_utc_ns :
    (s.attemptView analysed expected).val.observed_start_utc_ns =
      (s.outcome expected.val.attempt_id).bind fun o => o.val.observed_start_utc_ns := by
  rw [attemptView_facts]
  cases s.outcome expected.val.attempt_id with
  | none => rfl
  | some o => cases h : o.val.state <;> simp [captureAttemptView, h]

@[simp] theorem attemptView_recording_id :
    (s.attemptView analysed expected).val.recording_id =
      (s.outcome expected.val.attempt_id).bind fun o =>
        o.val.recording_ref.map PublishedRecordingRef.recording_id := by
  rw [attemptView_facts]
  cases s.outcome expected.val.attempt_id with
  | none => rfl
  | some o =>
    cases h : o.val.state with
    | succeeded => simp [captureAttemptView, h]
    | failed =>
      have ho := o.ok
      simp only [CaptureAttemptOutcome.Fields.post_init, checkAll_cons, h, raiseIf_ok, not_not] at ho
      simp [captureAttemptView, h, ho.2.2.2.1.1]

@[simp] theorem attemptView_failure_reason :
    (s.attemptView analysed expected).val.failure_reason =
      (s.outcome expected.val.attempt_id).bind fun o => o.val.failure_reason := by
  rw [attemptView_facts]
  cases s.outcome expected.val.attempt_id with
  | none => rfl
  | some o =>
    cases h : o.val.state with
    | failed => simp [captureAttemptView, h]
    | succeeded =>
      have ho := o.ok
      simp only [CaptureAttemptOutcome.Fields.post_init, checkAll_cons, h, raiseIf_ok, not_not] at ho
      simp [captureAttemptView, h, ho.2.2.2.1.2]

end Fields

/-- The fields of a view where the analyses of these recordings are complete. -/
def viewFields (s : CaptureBatchSnapshot) (analysed : List RecordingId) : CaptureBatchDashboardView.Fields where
  schema := ⟨str "org.leo-flow.dashboard.capture-batch", V0_1, by decide⟩
  batch_id := s.batch_id
  mode := s.val.definition.val.mode
  coordination_claim := s.val.definition.val.mode.claim
  attempts :=
    (s.attemptView analysed s.val.definition.val.expected_attempts.1,
      s.attemptView analysed s.val.definition.val.expected_attempts.2)
  revision := s.val.revision
  requested_start_skew_ns := s.val.definition.val.requested_start_skew_ns
  observed_start_skew_ns := s.observed_start_skew_ns.map Int.ofNat
  maximum_observed_start_skew_ns := s.val.definition.val.maximum_observed_start_skew_ns
  paired_analysis_eligibility := s.paired_analysis_eligibility

theorem viewFields_terminal_count (s : CaptureBatchSnapshot) (analysed : List RecordingId) :
    (s.viewFields analysed).terminal_count = s.val.outcomes.length := by
  rw [s.outcomes_eq]
  unfold CaptureBatchDashboardView.Fields.terminal_count viewFields
  simp only [List.countP_cons, List.countP_nil, attemptView_capture_state]
  cases s.outcome s.val.definition.val.expected_attempts.1.val.attempt_id with
  | none =>
    cases s.outcome s.val.definition.val.expected_attempts.2.val.attempt_id with
    | none => simp
    | some o => simp
  | some o =>
    cases s.outcome s.val.definition.val.expected_attempts.2.val.attempt_id with
    | none => simp
    | some o' => simp

theorem viewFields_recording_ids (s : CaptureBatchSnapshot) (analysed : List RecordingId) :
    (s.viewFields analysed).recording_ids = s.val.recording_ids := by
  unfold Fields.recording_ids
  rw [s.outcomes_eq]
  unfold CaptureBatchDashboardView.Fields.recording_ids viewFields
  simp only [List.filterMap_cons, List.filterMap_nil, attemptView_recording_id]
  cases s.outcome s.val.definition.val.expected_attempts.1.val.attempt_id with
  | none =>
    cases s.outcome s.val.definition.val.expected_attempts.2.val.attempt_id with
    | none => rfl
    | some o => simp [List.filterMap_cons]
  | some o =>
    cases s.outcome s.val.definition.val.expected_attempts.2.val.attempt_id with
    | none => simp [List.filterMap_cons]
    | some o' => simp [List.filterMap_cons]

theorem viewFields_observed_skew (s : CaptureBatchSnapshot) (analysed : List RecordingId) :
    (s.viewFields analysed).expected_observed_skew = (s.viewFields analysed).observed_start_skew_ns := by
  unfold CaptureBatchDashboardView.Fields.expected_observed_skew viewFields observed_start_skew_ns
  rw [s.outcomes_eq]
  simp only [attemptView_observed_start_utc_ns]
  cases s.outcome s.val.definition.val.expected_attempts.1.val.attempt_id with
  | none =>
    cases s.outcome s.val.definition.val.expected_attempts.2.val.attempt_id with
    | none => rfl
    | some o => rfl
  | some o =>
    cases s.outcome s.val.definition.val.expected_attempts.2.val.attempt_id with
    | none => cases h : o.val.observed_start_utc_ns <;> simp [h]
    | some o' =>
      cases h : o.val.observed_start_utc_ns <;> cases h' : o'.val.observed_start_utc_ns <;> simp [h, h']

theorem viewFields_successful {s : CaptureBatchSnapshot} {analysed : List RecordingId}
    (h : s.val.outcomes.length = 2) :
    (s.viewFields analysed).successful ↔ ∀ o ∈ s.val.outcomes, o.val.state = .succeeded := by
  unfold CaptureBatchDashboardView.Fields.successful viewFields
  rw [s.outcomes_eq] at h ⊢
  simp only [attemptView_capture_state]
  cases hfirst : s.outcome s.val.definition.val.expected_attempts.1.val.attempt_id with
  | none => cases hsecond : s.outcome s.val.definition.val.expected_attempts.2.val.attempt_id <;> simp_all
  | some o =>
    cases hsecond : s.outcome s.val.definition.val.expected_attempts.2.val.attempt_id with
    | none => simp_all
    | some o' => simp

theorem viewFields_eligibility (s : CaptureBatchSnapshot) (analysed : List RecordingId) :
    (s.viewFields analysed).expected_eligibility = s.paired_analysis_eligibility := by
  unfold CaptureBatchDashboardView.Fields.expected_eligibility paired_analysis_eligibility
  rw [viewFields_terminal_count]
  by_cases hterminal : s.val.outcomes.length = 2
  · have hs : s.terminal := hterminal
    rw [if_neg (not_not.2 hterminal), if_neg (not_not.2 hs)]
    by_cases hall : ∀ o ∈ s.val.outcomes, o.val.state = .succeeded
    · have hfailed : ¬∃ o ∈ s.val.outcomes, o.val.state ≠ .succeeded := by
        push Not
        exact hall
      rw [if_neg hfailed]
      have hsuccessful : (s.viewFields analysed).successful := (viewFields_successful hterminal).2 hall
      simp only [hsuccessful, true_and]
      unfold viewFields
      cases hmode : s.val.definition.val.mode with
      | independent => simp
      | coordinated =>
        cases s.observed_start_skew_ns with
        | none => simp
        | some observed =>
          cases s.val.definition.val.maximum_observed_start_skew_ns with
          | none => simp
          | some maximum =>
            by_cases hle : (observed : Int) ≤ maximum
            · simp [hle, not_lt.2 hle]
            · simp [hle, not_le.1 hle]
    · have hfailed : ∃ o ∈ s.val.outcomes, o.val.state ≠ .succeeded := by
        push Not at hall
        exact hall
      rw [if_pos hfailed, if_neg]
      intro h
      exact hall ((viewFields_successful hterminal).1 h.1)
  · have hs : ¬s.terminal := hterminal
    rw [if_pos hterminal, if_pos hs]

/-- Every view of a snapshot is valid. -/
theorem viewFields_ok (s : CaptureBatchSnapshot) (analysed : List RecordingId) :
    (s.viewFields analysed).post_init = .ok () := by
  obtain ⟨_, _, hrevision, _, hnodup⟩ := s.post_init_ok
  have hterminal := s.viewFields_terminal_count analysed
  have hids := s.viewFields_recording_ids analysed
  have hskew := s.viewFields_observed_skew analysed
  have heligibility := s.viewFields_eligibility analysed
  have hd := s.val.definition.ok
  simp only [CaptureBatchDefinition.Fields.post_init, checkAll_cons, raiseIf_ok] at hd
  obtain ⟨_, horder, hattempt, hradio, hplan, hmode, _⟩ := hd
  unfold CaptureBatchDashboardView.Fields.post_init
  simp only [checkAll_cons, raiseIf_ok, hterminal, hids, hskew, heligibility,
    CaptureBatchDashboardView.Fields.requireNonnegativeInteger_ok]
  refine ⟨?_, ?_, ?_, ?_, ?_, ?_, ?_, ?_, ?_, ?_, ?_, ?_, ?_, ?_, ?_, rfl⟩
  · simp [viewFields]
  · simpa [viewFields] using horder
  · simpa [viewFields] using hattempt
  · simpa [viewFields] using hradio
  · simpa [viewFields] using hplan
  · simp [viewFields, hrevision]
  · simp [viewFields]
  · intro n hn
    obtain ⟨m, _, rfl⟩ := Option.map_eq_some_iff.1 hn
    exact Int.natCast_nonneg m
  · intro n hn
    have hsome : s.val.definition.val.maximum_observed_start_skew_ns = some n := hn
    -- only a coordinated batch has a limit, and it was checked there
    cases hm : s.val.definition.val.mode with
    | independent =>
      rw [hm, hsome] at hmode
      cases hmode
    | coordinated =>
      rw [hm, hsome] at hmode
      simp only [checkAll_cons, raiseIf_ok, not_lt] at hmode
      exact hmode.1
  · simp [viewFields, hrevision]
  · simp [viewFields, CaptureBatchDashboardView.Fields.expected_requested_skew,
      CaptureBatchDefinition.Fields.requested_start_skew_ns]
  · exact not_not.2 hnodup
  · simp
  · cases hm : s.val.definition.val.mode with
    | independent =>
      have hmaximum : s.val.definition.val.maximum_observed_start_skew_ns = none := by
        rw [hm] at hmode
        cases hsome : s.val.definition.val.maximum_observed_start_skew_ns with
        | none => rfl
        | some n =>
          rw [hsome] at hmode
          cases hmode
      simp [viewFields, hm, hmaximum, CaptureBatchMode.claim]
    | coordinated =>
      cases hsome : s.val.definition.val.maximum_observed_start_skew_ns with
      | none =>
        rw [hm, hsome] at hmode
        cases hmode
      | some n =>
        rw [hm, hsome] at hmode
        simp only [checkAll_cons, raiseIf_ok, not_not] at hmode
        simp [viewFields, hm, hsome, CaptureBatchMode.claim, not_lt.1 hmode.1, hmode.2.1]
  · simp [viewFields]

/-- The view of a snapshot where the analyses of these recordings are complete. -/
def view (s : CaptureBatchSnapshot) (analysed : List RecordingId) : CaptureBatchDashboardView :=
  ⟨s.viewFields analysed, s.viewFields_ok analysed⟩

/-- The initial view exists, and no analysis is complete in it. -/
theorem initial_view (s : CaptureBatchSnapshot) :
    initial_capture_batch_dashboard_view s = .ok (s.view []) := by
  have hd := s.val.definition.ok
  simp only [CaptureBatchDefinition.Fields.post_init, checkAll_cons, raiseIf_ok] at hd
  have hfields : ∀ expected : ExpectedCaptureAttempt,
      captureAttemptView expected.val (s.outcome expected.val.attempt_id) =
        (s.attemptView [] expected).val := by
    intro expected
    simp [attemptView, attemptFields]
  unfold initial_capture_batch_dashboard_view
  simp only [hfields, Checked.make_ok (s.attemptView _ _).ok, bind, Except.bind, attemptView_attempt_id,
    if_neg hd.2.1]
  exact Checked.make_ok (s.viewFields_ok [])

/-! ## Snapshots of one batch -/

/-- A later snapshot of the same batch. -/
def Extends (s t : CaptureBatchSnapshot) : Prop :=
  s.val.definition = t.val.definition ∧ s.val.outcomes ⊆ t.val.outcomes

theorem Extends.refl (s : CaptureBatchSnapshot) : s.Extends s := ⟨rfl, List.Subset.refl _⟩

variable {t : CaptureBatchSnapshot}

theorem Extends.trans {s u : CaptureBatchSnapshot} (h : s.Extends t) (h' : t.Extends u) : s.Extends u :=
  ⟨h.1.trans h'.1, List.Subset.trans h.2 h'.2⟩

/-- `record` returns a later snapshot. -/
theorem extends_of_record {s : CaptureBatchSnapshot} (h : s.record o = .ok t) :
    s.Extends t := by
  rcases record_ok h with ⟨_, rfl⟩ | ⟨_, hdefinition, hperm, _⟩
  · exact Extends.refl _
  · exact ⟨hdefinition.symm, fun o' ho' => hperm.mem_iff.2 (List.mem_cons_of_mem _ ho')⟩

theorem Extends.length_le {s : CaptureBatchSnapshot} (h : s.Extends t) :
    s.val.outcomes.length ≤ t.val.outcomes.length :=
  (List.subperm_of_subset s.nodup h.2).length_le

theorem revision_eq (s : CaptureBatchSnapshot) : s.val.revision = s.val.outcomes.length := s.post_init_ok.2.2.1

theorem Extends.revision_le {s : CaptureBatchSnapshot} (h : s.Extends t) : s.val.revision ≤ t.val.revision := by
  rw [revision_eq, revision_eq]
  exact_mod_cast h.length_le

/-- The revision tells the snapshots of a batch apart. -/
theorem Extends.eq_of_revision {s : CaptureBatchSnapshot} (h : s.Extends t)
    (hrevision : t.val.revision ≤ s.val.revision) : s = t := by
  rw [revision_eq, revision_eq] at hrevision
  have hperm := (List.subperm_of_subset s.nodup h.2).perm_of_length_le (by exact_mod_cast hrevision)
  exact ext_of_mem h.1 fun o => hperm.mem_iff

theorem Extends.outcome {s : CaptureBatchSnapshot} (h : s.Extends t) {id : CaptureAttemptId}
    (ho : s.outcome id = some o) : t.outcome id = some o := by
  obtain ⟨hmem, rfl⟩ := mem_of_outcome ho
  exact outcome_of_mem (h.2 hmem)

/-- The recording of an attempt. -/
def recording (s : CaptureBatchSnapshot) (expected : ExpectedCaptureAttempt) : Option RecordingId :=
  (s.outcome expected.val.attempt_id).bind fun o => o.val.recording_ref.map PublishedRecordingRef.recording_id

variable {r : RecordingId}

theorem Extends.recording {s : CaptureBatchSnapshot} (h : s.Extends t) {expected : ExpectedCaptureAttempt}
    (hr : s.recording expected = some r) : t.recording expected = some r := by
  obtain ⟨o, ho, hrec⟩ := Option.bind_eq_some_iff.1 hr
  exact Option.bind_eq_some_iff.2 ⟨o, h.outcome ho, hrec⟩

theorem mem_recording_ids {s : CaptureBatchSnapshot} :
    r ∈ s.val.recording_ids ↔
      s.recording s.val.definition.val.expected_attempts.1 = some r ∨
        s.recording s.val.definition.val.expected_attempts.2 = some r := by
  rw [← s.viewFields_recording_ids []]
  unfold CaptureBatchDashboardView.Fields.recording_ids viewFields
  rw [List.mem_filterMap]
  simp [recording]

/-- The attempts of a batch have different recordings. -/
theorem recording_ne {s : CaptureBatchSnapshot}
    (hfirst : s.recording s.val.definition.val.expected_attempts.1 = some r) :
    s.recording s.val.definition.val.expected_attempts.2 ≠ some r := by
  intro hsecond
  have hnodup := s.post_init_ok.2.2.2.2
  rw [← s.viewFields_recording_ids []] at hnodup
  unfold CaptureBatchDashboardView.Fields.recording_ids viewFields at hnodup
  unfold recording at hfirst hsecond
  simp [hfirst, hsecond] at hnodup

/-- What an attempt shows of its analysis. -/
theorem attemptView_analysis (s : CaptureBatchSnapshot) (analysed : List RecordingId)
    (expected : ExpectedCaptureAttempt) :
    ((s.attemptView analysed expected).val.analysis_state,
        (s.attemptView analysed expected).val.analysis_result_available) =
      match s.recording expected with
      | none => (.unavailable, false)
      | some r => if r ∈ analysed then (.complete, true) else (.pending, false) := by
  unfold attemptView attemptFields recording
  dsimp only
  cases s.outcome expected.val.attempt_id with
  | none => simp [captureAttemptView]
  | some o =>
    have ho := o.ok
    simp only [CaptureAttemptOutcome.Fields.post_init, checkAll_cons] at ho
    cases hstate : o.val.state with
    | succeeded =>
      simp only [hstate, checkAll_cons, raiseIf_ok, not_or] at ho
      obtain ⟨ref, href⟩ := Option.ne_none_iff_exists'.1 ho.2.2.2.1.1.2
      by_cases hmem : ref.recording_id ∈ analysed
      · simp [captureAttemptView, hstate, href, hmem, CaptureAttemptDashboardView.Fields.complete]
      · simp [captureAttemptView, hstate, href, hmem]
    | failed =>
      simp only [hstate, checkAll_cons, raiseIf_ok, not_not] at ho
      simp [captureAttemptView, hstate, ho.2.2.2.1.1]

theorem attemptView_unavailable {s : CaptureBatchSnapshot} {expected : ExpectedCaptureAttempt}
    (h : s.recording expected = none) (analysed : List RecordingId) :
    (s.attemptView analysed expected).val.analysis_state = .unavailable ∧
      (s.attemptView analysed expected).val.analysis_result_available = false := by
  have hanalysis := s.attemptView_analysis analysed expected
  rw [h] at hanalysis
  exact Prod.mk.injEq .. ▸ hanalysis

theorem attemptView_complete {s : CaptureBatchSnapshot} {expected : ExpectedCaptureAttempt}
    (h : s.recording expected = some r) {analysed : List RecordingId} (hr : r ∈ analysed) :
    (s.attemptView analysed expected).val.analysis_state = .complete ∧
      (s.attemptView analysed expected).val.analysis_result_available = true := by
  have hanalysis := s.attemptView_analysis analysed expected
  simp only [h, if_pos hr] at hanalysis
  exact Prod.mk.injEq .. ▸ hanalysis

theorem attemptView_pending {s : CaptureBatchSnapshot} {expected : ExpectedCaptureAttempt}
    (h : s.recording expected = some r) {analysed : List RecordingId} (hr : r ∉ analysed) :
    (s.attemptView analysed expected).val.analysis_state = .pending ∧
      (s.attemptView analysed expected).val.analysis_result_available = false := by
  have hanalysis := s.attemptView_analysis analysed expected
  simp only [h, if_neg hr] at hanalysis
  exact Prod.mk.injEq .. ▸ hanalysis

theorem attemptView_recording (s : CaptureBatchSnapshot) (analysed : List RecordingId)
    (expected : ExpectedCaptureAttempt) :
    (s.attemptView analysed expected).val.recording_id = s.recording expected :=
  s.attemptView_recording_id analysed expected

@[simp] theorem view_shows {s : CaptureBatchSnapshot} {analysed : List RecordingId} :
    (s.view analysed).val.Shows r ↔ r ∈ s.val.recording_ids := by
  rw [mem_recording_ids]
  simp [CaptureBatchDashboardView.Fields.Shows, view, viewFields, attemptView_recording,
    -attemptView_recording_id]

/-- The complete analyses of an attempt. -/
theorem attemptView_complete_iff {s : CaptureBatchSnapshot} {analysed : List RecordingId}
    {expected : ExpectedCaptureAttempt} :
    ((s.attemptView analysed expected).val.recording_id = some r ∧
        (s.attemptView analysed expected).val.analysis_state = .complete ∧
          (s.attemptView analysed expected).val.analysis_result_available = true) ↔
      s.recording expected = some r ∧ r ∈ analysed := by
  rw [attemptView_recording]
  constructor
  · rintro ⟨hr, hstate, _⟩
    refine ⟨hr, ?_⟩
    by_contra hmem
    rw [(attemptView_pending hr hmem).1] at hstate
    cases hstate
  · rintro ⟨hr, hmem⟩
    exact ⟨hr, attemptView_complete hr hmem⟩

@[simp] theorem view_complete {s : CaptureBatchSnapshot} {analysed : List RecordingId} :
    (s.view analysed).val.Complete r ↔ r ∈ s.val.recording_ids ∧ r ∈ analysed := by
  rw [mem_recording_ids, or_and_right, ← attemptView_complete_iff, ← attemptView_complete_iff]
  simp [CaptureBatchDashboardView.Fields.Complete, view, viewFields]

end CaptureBatchSnapshot

end LeoFlow
