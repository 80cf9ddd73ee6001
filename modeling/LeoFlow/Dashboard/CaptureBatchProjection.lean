import LeoFlow.Core.Machine
import LeoFlow.Catalog.Sql
import LeoFlow.Dashboard.CaptureBatchView

/-!
# LeoFlow.Dashboard.CaptureBatchProjection — publishing a capture batch from two sides

Migration 0021 and `adapters/dashboard_batch_postgres.py`. The capture side publishes the view of each snapshot of a
batch; the analysis side reads the latest view of a recording and publishes it again with the analysis complete,
in another transaction. Both go through `publish_dashboard_capture_batch`, which compares with the latest view.

* `publish`: the function, over the documents of one batch;
* `validate_ok`: what SQL asks of a view beyond the checks of its class;
* `publish_first`, `publish_older`, `publish_later`: what it does with the view of a snapshot.
-/

namespace LeoFlow

/-- `current_setting('role', true)` -/
inductive InvokingRole where
  | leo_capture
  | leo_analysis
  | other
deriving DecidableEq

/-- A row of `dashboard_capture_batch_projection`, with its attempts. -/
structure CaptureBatchRow where
  projection_sequence : Int
  semantic_view : CaptureBatchDashboardView
deriving DecidableEq

/-! ## `publish_dashboard_capture_batch` -/

namespace CaptureBatchProjection

/-- What the second loop finds about the analysis of one attempt. -/
inductive AnalysisChange where
  | same
  | stale_capture_replay
  | other_analysis_change
deriving DecidableEq

/-- The evidence of each capture state. -/
def validateState (a : CaptureAttemptDashboardView.Fields) : Except SqlException Unit :=
  match a.capture_state with
  | .pending =>
    raiseSqlIf (a.observed_start_utc_ns ≠ none ∨ a.recording_id ≠ none ∨ a.failure_reason ≠ none ∨
        a.analysis_state ≠ .unavailable ∨ a.analysis_result_available = true)
      "pending capture has terminal dashboard evidence" "22023"
  | .failed =>
    raiseSqlIf (a.recording_id ≠ none ∨ a.failure_reason = none ∨ a.analysis_state ≠ .unavailable ∨
        a.analysis_result_available = true)
      "failed capture has invalid dashboard evidence" "22023"
  | .succeeded =>
    raiseSqlIf (a.observed_start_utc_ns = none ∨ a.recording_id = none ∨ a.failure_reason ≠ none ∨
        a.analysis_state = .unavailable ∨ a.analysis_result_available = true ∧ a.analysis_state ≠ .complete)
      "successful capture has invalid dashboard evidence" "22023"

/-- The first loop, for one attempt. `text_ge` is `>=` in the collation of the database. -/
def validateAttempt (text_ge : PyStr → PyStr → Bool) (previous_attempt_id : Option PyStr)
    (a : CaptureAttemptDashboardView.Fields) : Except SqlException Unit := do
  bigint a.requested_start_utc_ns
  raiseSqlIf (¬SqlIdentifier "cattempt" a.attempt_id.value ∨ ¬SqlIdentifier "radio" a.radio_id.value ∨
      ¬SqlIdentifier "plan" a.plan_id.value ∨ a.requested_start_utc_ns < 0)
    "invalid dashboard capture attempt projection values" "22023"
  optionalBigint a.observed_start_utc_ns
  raiseSqlIf ((∃ n ∈ a.observed_start_utc_ns, n < 0) ∨
      (∃ r ∈ a.recording_id, ¬SqlIdentifier "rec" r.value) ∨
      ∃ reason ∈ a.failure_reason, ¬IsFailureReason reason)
    "invalid dashboard capture attempt evidence" "22023"
  validateState a
  raiseSqlIf (∃ previous ∈ previous_attempt_id, text_ge previous a.attempt_id.value = true)
    "dashboard capture attempts are not canonical" "22023"

/-- The timing claim of each mode. -/
def validateClaim (p : CaptureBatchDashboardView.Fields) : Except SqlException Unit :=
  match p.mode with
  | .independent =>
    raiseSqlIf (p.coordination_claim ≠ .none ∨ p.maximum_observed_start_skew_ns ≠ none)
      "independent dashboard capture makes no timing claim" "22023"
  | .coordinated =>
    raiseSqlIf (p.coordination_claim ≠ .measured_software_coordination ∨ p.requested_start_skew_ns ≠ 0 ∨
        p.maximum_observed_start_skew_ns = none)
      "coordinated dashboard capture has invalid timing evidence" "22023"

/-- The `CASE` of the eligibility. -/
def sqlEligibility (p : CaptureBatchDashboardView.Fields) : PairedAnalysisEligibility :=
  if p.terminal_count < 2 then .pending
  else if ¬p.successful then .ineligible
  else if p.mode = .coordinated ∧
      ∀ observed ∈ p.observed_start_skew_ns, ∃ maximum ∈ p.maximum_observed_start_skew_ns, maximum < observed then
    .ineligible
  else .eligible

/-- Everything before the advisory lock. -/
def validate (text_ge : PyStr → PyStr → Bool) (p : CaptureBatchDashboardView.Fields) :
    Except SqlException Unit := do
  raiseSqlIf (p.schema.schema_id ≠ str "org.leo-flow.dashboard.capture-batch" ∨ p.schema.version ≠ V0_1)
    "unsupported dashboard capture batch projection schema" "22023"
  raiseSqlIf (p.revision < -2 ^ 15 ∨ 2 ^ 15 ≤ p.revision) "value is out of range for type smallint" "22003"
  bigint p.requested_start_skew_ns
  optionalBigint p.observed_start_skew_ns
  optionalBigint p.maximum_observed_start_skew_ns
  raiseSqlIf (¬SqlIdentifier "cbatch" p.batch_id.value ∨ p.revision < 0 ∨ 2 < p.revision ∨
      p.requested_start_skew_ns < 0 ∨ (∃ n ∈ p.observed_start_skew_ns, n < 0) ∨
      ∃ n ∈ p.maximum_observed_start_skew_ns, n < 0)
    "invalid dashboard capture batch projection values" "22023"
  validateAttempt text_ge none p.attempts.1.val
  validateAttempt text_ge (some p.attempts.1.val.attempt_id.value) p.attempts.2.val
  raiseSqlIf (p.attempts.1.val.attempt_id = p.attempts.2.val.attempt_id ∨
      p.attempts.1.val.radio_id = p.attempts.2.val.radio_id ∨
      p.attempts.1.val.plan_id = p.attempts.2.val.plan_id ∨ ¬p.recording_ids.Nodup ∨
      p.revision ≠ p.terminal_count ∨ p.requested_start_skew_ns ≠ p.expected_requested_skew ∨
      p.observed_start_skew_ns ≠ p.expected_observed_skew)
    "dashboard capture batch evidence is inconsistent" "22023"
  validateClaim p
  raiseSqlIf (p.paired_analysis_eligibility ≠ sqlEligibility p)
    "dashboard paired-analysis eligibility is inconsistent" "22023"

/-- The capture facts of an attempt are written once. -/
def RewritesEvidence (prior_attempt attempt : CaptureAttemptDashboardView.Fields) : Prop :=
  prior_attempt.attempt_id ≠ attempt.attempt_id ∨ prior_attempt.radio_id ≠ attempt.radio_id ∨
    prior_attempt.plan_id ≠ attempt.plan_id ∨
    prior_attempt.requested_start_utc_ns ≠ attempt.requested_start_utc_ns ∨
    prior_attempt.capture_state ≠ .pending ∧
      (prior_attempt.capture_state ≠ attempt.capture_state ∨
        prior_attempt.observed_start_utc_ns ≠ attempt.observed_start_utc_ns ∨
        prior_attempt.recording_id ≠ attempt.recording_id ∨
        prior_attempt.failure_reason ≠ attempt.failure_reason)

instance (prior_attempt attempt : CaptureAttemptDashboardView.Fields) :
    Decidable (RewritesEvidence prior_attempt attempt) :=
  inferInstanceAs (Decidable (_ ∨ _ ∨ _ ∨ _ ∨ _ ∧ (_ ∨ _ ∨ _ ∨ _)))

/-- The second loop, for one attempt. -/
def compareAttempt (invoking_role : InvokingRole) (prior_attempt attempt : CaptureAttemptDashboardView.Fields) :
    Except SqlException AnalysisChange := do
  raiseSqlIf (RewritesEvidence prior_attempt attempt) "capture batch projection rewrites attempt evidence" "23505"
  if prior_attempt.analysis_state = attempt.analysis_state ∧
      prior_attempt.analysis_result_available = attempt.analysis_result_available then
    .ok .same
  else if prior_attempt.analysis_state = .complete ∧ prior_attempt.analysis_result_available = true then
    if invoking_role ≠ .other ∧ attempt.analysis_state = .pending ∧ attempt.analysis_result_available = false then
      .ok .stale_capture_replay
    else .error ⟨"available analysis result cannot regress", "23505"⟩
  else .ok .other_analysis_change

/-- The comparison with the latest view: whether it is a stale replay. -/
def compareViews (invoking_role : InvokingRole) (latest_view p : CaptureBatchDashboardView.Fields) :
    Except SqlException Bool := do
  raiseSqlIf (latest_view.mode ≠ p.mode ∨ latest_view.coordination_claim ≠ p.coordination_claim ∨
      latest_view.requested_start_skew_ns ≠ p.requested_start_skew_ns ∨
      latest_view.maximum_observed_start_skew_ns ≠ p.maximum_observed_start_skew_ns ∨
      p.revision < latest_view.revision)
    "capture batch projection rewrites immutable intent" "23505"
  raiseSqlIf (latest_view.revision = 2 ∧
      (latest_view.observed_start_skew_ns ≠ p.observed_start_skew_ns ∨
        latest_view.paired_analysis_eligibility ≠ p.paired_analysis_eligibility))
    "terminal batch projection rewrites capture semantics" "23505"
  let first ← compareAttempt invoking_role latest_view.attempts.1.val p.attempts.1.val
  let second ← compareAttempt invoking_role latest_view.attempts.2.val p.attempts.2.val
  if (first = .stale_capture_replay ∨ second = .stale_capture_replay) ∧
      (first = .other_analysis_change ∨ second = .other_analysis_change) then
    .error ⟨"stale capture replay contains analysis changes", "23505"⟩
  else .ok (first = .stale_capture_replay ∨ second = .stale_capture_replay)

/-- `publish_dashboard_capture_batch`: the rows of the batch afterwards, newest first, and the sequence it returns.
The advisory lock is held until the commit, so the rows of a batch are in the order of their numbers. -/
def publish (text_ge : PyStr → PyStr → Bool) (invoking_role : InvokingRole) (rows : List CaptureBatchRow)
    (nextval : Int) (p : CaptureBatchDashboardView) : Except SqlException (List CaptureBatchRow × Int) := do
  validate text_ge p.val
  match rows.head? with
  | none => .ok (⟨nextval, p⟩ :: rows, nextval)
  | some latest =>
    if latest.semantic_view = p then .ok (rows, latest.projection_sequence)
    else do
      let stale_capture_replay ← compareViews invoking_role latest.semantic_view.val p.val
      if stale_capture_replay then .ok (rows, latest.projection_sequence)
      else .ok (⟨nextval, p⟩ :: rows, nextval)

/-! ## Views that the checks accept -/

/-- What SQL asks of an attempt beyond its class: identifiers with a token after the prefix and integers of 64 bits. -/
structure AttemptPublishable (a : CaptureAttemptDashboardView.Fields) : Prop where
  attempt_id : SqlIdentifier "cattempt" a.attempt_id.value
  radio_id : SqlIdentifier "radio" a.radio_id.value
  plan_id : SqlIdentifier "plan" a.plan_id.value
  recording_id : ∀ r ∈ a.recording_id, SqlIdentifier "rec" r.value
  requested_start : a.requested_start_utc_ns < 2 ^ 63
  observed_start : ∀ n ∈ a.observed_start_utc_ns, n < 2 ^ 63

/-- What SQL asks of a view beyond its class; the collation must order the attempts as Python does. -/
structure Publishable (text_ge : PyStr → PyStr → Bool) (v : CaptureBatchDashboardView.Fields) : Prop where
  batch_id : SqlIdentifier "cbatch" v.batch_id.value
  first : AttemptPublishable v.attempts.1.val
  second : AttemptPublishable v.attempts.2.val
  order : text_ge v.attempts.1.val.attempt_id.value v.attempts.2.val.attempt_id.value = false
  maximum : ∀ n ∈ v.maximum_observed_start_skew_ns, n < 2 ^ 63

variable {text_ge : PyStr → PyStr → Bool}

/-- The state of a valid attempt is never rejected. -/
theorem validateState_ok (a : CaptureAttemptDashboardView) : validateState a.val = .ok () := by
  rcases a with ⟨a, ha⟩
  simp only [CaptureAttemptDashboardView.Fields.post_init, checkAll_cons, raiseIf_ok] at ha
  obtain ⟨_, _, hstate, havailable, _⟩ := ha
  unfold validateState
  cases hkind : a.capture_state with
  | pending => simp_all
  | failed =>
    simp only [hkind, checkAll_cons, raiseIf_ok] at hstate
    have hsome : a.failure_reason ≠ none := by
      intro hnone
      simp [hnone] at hstate
    simp_all
  | succeeded => simp_all

theorem validateAttempt_ok {a : CaptureAttemptDashboardView} {previous : Option PyStr} :
    validateAttempt text_ge previous a.val = .ok () ↔
      AttemptPublishable a.val ∧ ∀ id ∈ previous, text_ge id a.val.attempt_id.value = false := by
  have hvalid := a.ok
  simp only [CaptureAttemptDashboardView.Fields.post_init, checkAll_cons, requireUtcNs, raiseIf_ok, not_lt] at hvalid
  obtain ⟨hrequested, hobserved, hstate, _⟩ := hvalid
  have hobserved : ∀ n ∈ a.val.observed_start_utc_ns, 0 ≤ n := by
    intro n hn
    have hsome : a.val.observed_start_utc_ns = some n := hn
    rw [hsome] at hobserved
    simpa using hobserved
  have hreason : ∀ reason ∈ a.val.failure_reason, IsFailureReason reason := by
    intro reason hmem
    have hsome : a.val.failure_reason = some reason := hmem
    cases hkind : a.val.capture_state <;> simp [hkind, hsome] at hstate
    exact hstate.1.1
  unfold validateAttempt
  simp only [check_bind_ok, raiseSqlIf_ok, bigint_ok, optionalBigint_ok, validateState_ok, true_and, not_or,
    not_not, not_exists, not_and, Bool.not_eq_true, not_lt]
  constructor
  · rintro ⟨⟨_, hmax⟩, ⟨hid, hradio, hplan, _⟩, hint, ⟨_, hrec, _⟩, horder⟩
    exact ⟨⟨hid, hradio, hplan, hrec, hmax, fun n hn => (hint n hn).2⟩, horder⟩
  · rintro ⟨h, horder⟩
    refine ⟨⟨by omega, h.requested_start⟩, ⟨h.attempt_id, h.radio_id, h.plan_id, hrequested⟩, ?_,
      ⟨hobserved, h.recording_id, hreason⟩, horder⟩
    intro n hn
    have := hobserved n hn
    exact ⟨by omega, h.observed_start n hn⟩

theorem requested_nonneg (a : CaptureAttemptDashboardView) : 0 ≤ a.val.requested_start_utc_ns := by
  have h := a.ok
  simp only [CaptureAttemptDashboardView.Fields.post_init, checkAll_cons, requireUtcNs, raiseIf_ok, not_lt] at h
  exact h.1

theorem observed_nonneg (a : CaptureAttemptDashboardView) : ∀ n ∈ a.val.observed_start_utc_ns, 0 ≤ n := by
  intro n hn
  have hsome : a.val.observed_start_utc_ns = some n := hn
  have h := a.ok
  simp only [CaptureAttemptDashboardView.Fields.post_init, checkAll_cons, hsome, requireUtcNs, raiseIf_ok,
    not_lt] at h
  exact h.2.1

theorem terminal_count_le (v : CaptureBatchDashboardView.Fields) : v.terminal_count ≤ 2 :=
  List.countP_le_length

/-- The two ways to compute the eligibility. -/
theorem sqlEligibility_eq {v : CaptureBatchDashboardView.Fields}
    (hmode : v.mode = .coordinated → v.maximum_observed_start_skew_ns ≠ none) :
    sqlEligibility v = v.expected_eligibility := by
  unfold sqlEligibility CaptureBatchDashboardView.Fields.expected_eligibility
  have hle := terminal_count_le v
  by_cases hcount : v.terminal_count = 2
  · rw [if_neg (by omega), if_neg (not_not.2 hcount)]
    by_cases hsuccessful : v.successful
    · rw [if_neg (not_not.2 hsuccessful)]
      simp only [hsuccessful, true_and]
      cases hm : v.mode with
      | independent => simp
      | coordinated =>
        obtain ⟨maximum, hmax⟩ := Option.ne_none_iff_exists'.1 (hmode hm)
        cases hobs : v.observed_start_skew_ns with
        | none => simp
        | some observed =>
          by_cases hlt : maximum < observed
          · simp [hmax, hlt, not_le.2 hlt]
          · simp [hmax, hlt, not_lt.1 hlt]
    · simp [hsuccessful]
  · rw [if_pos (by omega), if_pos hcount]

theorem skew_lt {a b : Int} (ha : 0 ≤ a) (hb : 0 ≤ b) (ha' : a < 2 ^ 63) (hb' : b < 2 ^ 63) :
    ((a - b).natAbs : Int) < 2 ^ 63 := by
  omega

theorem observed_skew_lt {v : CaptureBatchDashboardView.Fields} (h : AttemptPublishable v.attempts.1.val)
    (h' : AttemptPublishable v.attempts.2.val) : ∀ n ∈ v.expected_observed_skew, 0 ≤ n ∧ n < 2 ^ 63 := by
  intro n hn
  unfold CaptureBatchDashboardView.Fields.expected_observed_skew at hn
  split at hn
  · rename_i first second hfirst hsecond
    cases hn
    constructor
    · exact Int.natCast_nonneg _
    · exact skew_lt (observed_nonneg _ first hfirst) (observed_nonneg _ second hsecond)
        (h.observed_start first hfirst) (h'.observed_start second hsecond)
  · cases hn

/-- The timing claim of a valid view is never rejected. -/
theorem validateClaim_ok (v : CaptureBatchDashboardView) :
    validateClaim v.val = .ok () ∧
      (v.val.mode = .coordinated → v.val.maximum_observed_start_skew_ns ≠ none) := by
  rcases v with ⟨v, hv⟩
  simp only [CaptureBatchDashboardView.Fields.post_init, checkAll_cons] at hv
  obtain ⟨_, _, _, _, _, _, _, _, _, _, _, _, _, hmode, _⟩ := hv
  unfold validateClaim
  cases hm : v.mode with
  | independent => simp_all
  | coordinated =>
    simp only [hm, checkAll_cons, raiseIf_ok] at hmode
    have hsome : v.maximum_observed_start_skew_ns ≠ none := by
      intro hnone
      simp [hnone] at hmode
    simp_all

variable {v : CaptureBatchDashboardView}

/-- What SQL adds to the checks of the class. -/
theorem validate_ok :
    validate text_ge v.val = .ok () ↔ Publishable text_ge v.val := by
  have hvalid := v.ok
  simp only [CaptureBatchDashboardView.Fields.post_init, checkAll_cons, raiseIf_ok, not_or, not_not, ne_eq,
    CaptureBatchDashboardView.Fields.requireNonnegativeInteger_ok] at hvalid
  obtain ⟨⟨hschema, hversion⟩, _, hattempt, hradio, hplan, hrevision0, hrequested0, hobserved0, hmaximum0, hrevision,
    hrequested, hrecordings, hobserved, _, heligibility, _⟩ := hvalid
  have hcount := terminal_count_le v.val
  obtain ⟨hclaim, hcoordinated⟩ := validateClaim_ok v
  unfold validate
  simp only [check_bind_ok, raiseSqlIf_ok, bigint_ok, optionalBigint_ok, validateAttempt_ok, hclaim, true_and,
    not_or, not_not, ne_eq, sqlEligibility_eq hcoordinated, heligibility, hschema, hversion, hattempt, hradio, hplan,
    hrecordings, ← hrevision, ← hrequested, ← hobserved, not_false_eq_true, and_true]
  constructor
  · rintro ⟨_, _, _, hmaximum, ⟨hbatch, _⟩, ⟨hfirst, _⟩, hsecond, horder⟩
    exact ⟨hbatch, hfirst, hsecond, horder _ rfl, fun n hn => (hmaximum n hn).2⟩
  · intro h
    have hskew : v.val.requested_start_skew_ns < 2 ^ 63 := by
      rw [hrequested]
      exact skew_lt (requested_nonneg _) (requested_nonneg _) h.first.requested_start h.second.requested_start
    have hnonneg : 0 ≤ v.val.requested_start_skew_ns := hrequested0 _ rfl
    refine ⟨by omega, ⟨by omega, hskew⟩, ?_, ?_, ⟨h.batch_id, by omega, by omega, by omega, ?_, ?_⟩,
      ⟨h.first, fun _ hid => by cases hid⟩, h.second, ?_⟩
    · intro n hn
      have hbound := observed_skew_lt h.first h.second n (hobserved ▸ hn)
      exact ⟨by omega, hbound.2⟩
    · intro n hn
      have := hmaximum0 n hn
      exact ⟨by omega, h.maximum n hn⟩
    · rintro ⟨n, hn, hneg⟩
      exact absurd (hobserved0 n hn) (not_le.2 hneg)
    · rintro ⟨n, hn, hneg⟩
      exact absurd (hmaximum0 n hn) (not_le.2 hneg)
    · intro id hid
      cases hid
      exact h.order

variable {s : CaptureBatchSnapshot} {analysed analysed' : List RecordingId}

/-- The analyses do not matter to the checks. -/
theorem publishable_analysed :
    Publishable text_ge (s.view analysed).val ↔ Publishable text_ge (s.view analysed').val := by
  have hattempt : ∀ {analysed analysed' : List RecordingId} {expected : ExpectedCaptureAttempt},
      AttemptPublishable (s.attemptView analysed expected).val →
        AttemptPublishable (s.attemptView analysed' expected).val := by
    intro analysed analysed' expected h
    exact ⟨by simpa using h.attempt_id, by simpa using h.radio_id, by simpa using h.plan_id,
      by simpa using h.recording_id, by simpa using h.requested_start, by simpa using h.observed_start⟩
  have key : ∀ {analysed analysed' : List RecordingId}, Publishable text_ge (s.view analysed).val →
      Publishable text_ge (s.view analysed').val := by
    intro analysed analysed' h
    exact ⟨h.batch_id, hattempt h.first, hattempt h.second,
      by simpa [CaptureBatchSnapshot.view, CaptureBatchSnapshot.viewFields] using h.order, h.maximum⟩
  exact ⟨key, key⟩

/-! ## Two views of one batch -/

open CaptureBatchSnapshot

variable {invoking_role : InvokingRole}

/-- What a view of a later snapshot changes about the analysis of an attempt, from its recordings. -/
def analysisChange (prior recording : Option RecordingId) (analysed analysed' : List RecordingId) : AnalysisChange :=
  match recording with
  | none => .same
  | some r =>
    if prior = none then .other_analysis_change
    else if r ∈ analysed then if r ∈ analysed' then .same else .stale_capture_replay
    else if r ∈ analysed' then .other_analysis_change
    else .same

variable {t : CaptureBatchSnapshot}

/-- A later snapshot repeats the outcomes of an earlier one. -/
theorem not_rewritesEvidence (h : s.Extends t) (analysed analysed' : List RecordingId)
    (expected : ExpectedCaptureAttempt) :
    ¬RewritesEvidence (s.attemptView analysed expected).val (t.attemptView analysed' expected).val := by
  unfold RewritesEvidence
  cases hs : s.outcome expected.val.attempt_id with
  | none => simp [hs]
  | some o =>
    have ht := h.outcome hs
    simp [hs, ht]

theorem compareAttempt_view (h : s.Extends t) (hrole : invoking_role ≠ .other)
    (analysed analysed' : List RecordingId) (expected : ExpectedCaptureAttempt) :
    compareAttempt invoking_role (s.attemptView analysed expected).val (t.attemptView analysed' expected).val =
      .ok (analysisChange (s.recording expected) (t.recording expected) analysed analysed') := by
  unfold compareAttempt analysisChange
  rw [raiseSqlIf_ok.2 (not_rewritesEvidence h analysed analysed' expected)]
  simp only [bind, Except.bind]
  cases hcurrent : t.recording expected with
  | none =>
    have hprior : s.recording expected = none := by
      cases hr : s.recording expected with
      | none => rfl
      | some r => exact absurd (h.recording hr) (by simp [hcurrent])
    simp [attemptView_unavailable hprior, attemptView_unavailable hcurrent]
  | some r =>
    cases hprior : s.recording expected with
    | none =>
      -- the first analysis state of a new outcome
      by_cases hr' : r ∈ analysed'
      · simp [attemptView_unavailable hprior, attemptView_complete hcurrent hr']
      · simp [attemptView_unavailable hprior, attemptView_pending hcurrent hr']
    | some r' =>
      have hsame : r' = r := Option.some.inj ((h.recording hprior).symm.trans hcurrent)
      subst hsame
      by_cases hr : r' ∈ analysed <;> by_cases hr' : r' ∈ analysed'
      · simp [attemptView_complete hprior hr, attemptView_complete hcurrent hr', hr, hr']
      · simp [attemptView_complete hprior hr, attemptView_pending hcurrent hr', hr, hr', hrole]
      · simp [attemptView_pending hprior hr, attemptView_complete hcurrent hr', hr, hr']
      · simp [attemptView_pending hprior hr, attemptView_pending hcurrent hr', hr, hr']

/-- A view of the later snapshot lacks a completed analysis. -/
def Stale (s : CaptureBatchSnapshot) (analysed analysed' : List RecordingId) : Prop :=
  ∃ r ∈ s.val.recording_ids, r ∈ analysed ∧ r ∉ analysed'

instance (s : CaptureBatchSnapshot) (analysed analysed' : List RecordingId) :
    Decidable (Stale s analysed analysed') :=
  inferInstanceAs (Decidable (∃ r ∈ s.val.recording_ids, r ∈ analysed ∧ r ∉ analysed'))

/-- It adds a recording or a completed analysis. -/
def Adds (s t : CaptureBatchSnapshot) (analysed analysed' : List RecordingId) : Prop :=
  ∃ r ∈ t.val.recording_ids, r ∉ s.val.recording_ids ∨ r ∉ analysed ∧ r ∈ analysed'

instance (s t : CaptureBatchSnapshot) (analysed analysed' : List RecordingId) :
    Decidable (Adds s t analysed analysed') :=
  inferInstanceAs (Decidable (∃ r ∈ t.val.recording_ids, r ∉ s.val.recording_ids ∨ r ∉ analysed ∧ r ∈ analysed'))

theorem analysisChange_stale {prior recording : Option RecordingId} (h : ∀ r, prior = some r → recording = some r) :
    analysisChange prior recording analysed analysed' = .stale_capture_replay ↔
      ∃ r, prior = some r ∧ r ∈ analysed ∧ r ∉ analysed' := by
  unfold analysisChange
  rcases prior with _ | r
  · cases recording <;> simp
  · rw [h r rfl]
    by_cases hr : r ∈ analysed <;> by_cases hr' : r ∈ analysed' <;> simp [hr, hr']

theorem analysisChange_other {prior recording : Option RecordingId} (h : ∀ r, prior = some r → recording = some r) :
    analysisChange prior recording analysed analysed' = .other_analysis_change ↔
      ∃ r, recording = some r ∧ (prior = none ∨ r ∉ analysed ∧ r ∈ analysed') := by
  unfold analysisChange
  rcases prior with _ | r
  · cases recording <;> simp
  · rw [h r rfl]
    by_cases hr : r ∈ analysed <;> by_cases hr' : r ∈ analysed' <;> simp [hr, hr']

/-- The two attempts of two views, compared. -/
theorem stale_iff (h : s.Extends t) :
    Stale s analysed analysed' ↔
      analysisChange (s.recording s.val.definition.val.expected_attempts.1)
          (t.recording s.val.definition.val.expected_attempts.1) analysed analysed' = .stale_capture_replay ∨
        analysisChange (s.recording s.val.definition.val.expected_attempts.2)
          (t.recording s.val.definition.val.expected_attempts.2) analysed analysed' = .stale_capture_replay := by
  rw [analysisChange_stale fun r => h.recording, analysisChange_stale fun r => h.recording]
  unfold Stale
  simp only [mem_recording_ids]
  constructor
  · rintro ⟨r, hr | hr, hmem⟩
    · exact Or.inl ⟨r, hr, hmem⟩
    · exact Or.inr ⟨r, hr, hmem⟩
  · rintro (⟨r, hr, hmem⟩ | ⟨r, hr, hmem⟩)
    · exact ⟨r, Or.inl hr, hmem⟩
    · exact ⟨r, Or.inr hr, hmem⟩

theorem adds_iff (h : s.Extends t) :
    Adds s t analysed analysed' ↔
      analysisChange (s.recording s.val.definition.val.expected_attempts.1)
          (t.recording s.val.definition.val.expected_attempts.1) analysed analysed' = .other_analysis_change ∨
        analysisChange (s.recording s.val.definition.val.expected_attempts.2)
          (t.recording s.val.definition.val.expected_attempts.2) analysed analysed' = .other_analysis_change := by
  rw [analysisChange_other fun r => h.recording, analysisChange_other fun r => h.recording]
  unfold Adds
  simp only [mem_recording_ids, ← h.1, not_or]
  constructor
  · rintro ⟨r, hr | hr, hnew⟩
    · refine Or.inl ⟨r, hr, hnew.imp (fun hnew => ?_) id⟩
      cases hprior : s.recording s.val.definition.val.expected_attempts.1 with
      | none => rfl
      | some r' => exact absurd (hprior.trans ((h.recording hprior).symm.trans hr)) hnew.1
    · refine Or.inr ⟨r, hr, hnew.imp (fun hnew => ?_) id⟩
      cases hprior : s.recording s.val.definition.val.expected_attempts.2 with
      | none => rfl
      | some r' => exact absurd (hprior.trans ((h.recording hprior).symm.trans hr)) hnew.2
  · rintro (⟨r, hr, hnew⟩ | ⟨r, hr, hnew⟩)
    · refine ⟨r, Or.inl hr, hnew.imp (fun hnone => ⟨by simp [hnone], fun hother => ?_⟩) id⟩
      -- a recording belongs to one attempt
      rw [h.1] at hr hother
      exact recording_ne hr (h.recording hother)
    · refine ⟨r, Or.inr hr, hnew.imp (fun hnone => ⟨fun hother => ?_, by simp [hnone]⟩) id⟩
      rw [h.1] at hr hother
      exact recording_ne (h.recording hother) hr

theorem revision_le_two (s : CaptureBatchSnapshot) : s.val.revision ≤ 2 := by
  rw [s.revision_eq, ← s.viewFields_terminal_count []]
  exact_mod_cast terminal_count_le _

theorem compareViews_view (h : s.Extends t) (hrole : invoking_role ≠ .other) (analysed analysed' : List RecordingId) :
    compareViews invoking_role (s.view analysed).val (t.view analysed').val =
      if Stale s analysed analysed' ∧ Adds s t analysed analysed' then
        .error ⟨"stale capture replay contains analysis changes", "23505"⟩
      else .ok (decide (Stale s analysed analysed')) := by
  have hintent : ¬((s.view analysed).val.mode ≠ (t.view analysed').val.mode ∨
      (s.view analysed).val.coordination_claim ≠ (t.view analysed').val.coordination_claim ∨
      (s.view analysed).val.requested_start_skew_ns ≠ (t.view analysed').val.requested_start_skew_ns ∨
      (s.view analysed).val.maximum_observed_start_skew_ns ≠ (t.view analysed').val.maximum_observed_start_skew_ns ∨
      (t.view analysed').val.revision < (s.view analysed).val.revision) := by
    simp [view, viewFields, h.1, h.revision_le]
  have hterminal : ¬((s.view analysed).val.revision = 2 ∧
      ((s.view analysed).val.observed_start_skew_ns ≠ (t.view analysed').val.observed_start_skew_ns ∨
        (s.view analysed).val.paired_analysis_eligibility ≠ (t.view analysed').val.paired_analysis_eligibility)) := by
    rintro ⟨hrevision, hdiffer⟩
    have hle : t.val.revision ≤ s.val.revision := (revision_le_two t).trans (le_of_eq hrevision.symm)
    have hsame := h.eq_of_revision hle
    subst hsame
    simp [view, viewFields] at hdiffer
  have hfirst := compareAttempt_view h hrole analysed analysed' s.val.definition.val.expected_attempts.1
  have hsecond := compareAttempt_view h hrole analysed analysed' s.val.definition.val.expected_attempts.2
  unfold compareViews
  rw [raiseSqlIf_ok.2 hintent, raiseSqlIf_ok.2 hterminal]
  simp only [view, viewFields, ← h.1, hfirst, hsecond, bind, Except.bind, ← stale_iff h, ← adds_iff h]

variable {nextval : Int}

theorem publish_unpublishable {rows : List CaptureBatchRow} (h : ¬Publishable text_ge v.val) : ∃ e, publish text_ge invoking_role rows nextval v = .error e := by
  cases hvalidate : validate text_ge v.val with
  | ok u => exact absurd (validate_ok.1 hvalidate) h
  | error e =>
    refine ⟨e, ?_⟩
    unfold publish
    rw [hvalidate]
    rfl

theorem publish_first (h : Publishable text_ge v.val) :
    publish text_ge invoking_role [] nextval v = .ok ([⟨nextval, v⟩], nextval) := by
  unfold publish
  rw [validate_ok.2 h]
  rfl

/-- An older revision is rejected. -/
theorem publish_older {seq : Int} {rest : List CaptureBatchRow} (h : t.val.revision < s.val.revision) :
    ∃ e, publish text_ge invoking_role (⟨seq, s.view analysed⟩ :: rest) nextval (t.view analysed') = .error e := by
  by_cases hpublishable : Publishable text_ge (t.view analysed').val
  · have hne : s.view analysed ≠ t.view analysed' := by
      intro heq
      have hrevision : s.val.revision = t.val.revision := congrArg (fun v => v.val.revision) heq
      omega
    have hrevision : (t.view analysed').val.revision < (s.view analysed).val.revision := h
    refine ⟨⟨"capture batch projection rewrites immutable intent", "23505"⟩, ?_⟩
    unfold publish
    rw [validate_ok.2 hpublishable]
    simp only [List.head?_cons, if_neg hne, bind, Except.bind]
    unfold compareViews raiseSqlIf
    rw [if_pos (Or.inr (Or.inr (Or.inr (Or.inr hrevision))))]
    rfl
  · exact publish_unpublishable hpublishable

/-- A view of the same or a later snapshot over the latest view. -/
theorem publish_later (h : s.Extends t) (hrole : invoking_role ≠ .other)
    (hpublishable : Publishable text_ge (t.view analysed').val) {seq : Int} {rest : List CaptureBatchRow} :
    publish text_ge invoking_role (⟨seq, s.view analysed⟩ :: rest) nextval (t.view analysed') =
      if Stale s analysed analysed' then
        if Adds s t analysed analysed' then .error ⟨"stale capture replay contains analysis changes", "23505"⟩
        else .ok (⟨seq, s.view analysed⟩ :: rest, seq)
      else if s.view analysed = t.view analysed' then .ok (⟨seq, s.view analysed⟩ :: rest, seq)
      else .ok (⟨nextval, t.view analysed'⟩ :: ⟨seq, s.view analysed⟩ :: rest, nextval) := by
  unfold publish
  rw [validate_ok.2 hpublishable]
  simp only [List.head?_cons, bind, Except.bind, compareViews_view h hrole]
  by_cases hsame : s.view analysed = t.view analysed'
  · -- an equal view has the same completed analyses
    have hstale : ¬Stale s analysed analysed' := by
      rintro ⟨r, hr, hmem, hmem'⟩
      have hcomplete := view_complete.2 ⟨hr, hmem⟩
      rw [hsame] at hcomplete
      exact hmem' (view_complete.1 hcomplete).2
    simp [hsame, hstale]
  · rw [if_neg hsame, if_neg hsame]
    by_cases hstale : Stale s analysed analysed' <;> by_cases hadds : Adds s t analysed analysed' <;>
      simp [hstale, hadds]

end CaptureBatchProjection

end LeoFlow
