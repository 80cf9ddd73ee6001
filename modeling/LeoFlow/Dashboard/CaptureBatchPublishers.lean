import LeoFlow.Dashboard.CaptureBatchProjection

/-!
# LeoFlow.Dashboard.CaptureBatchPublishers — the two sides that publish a capture batch

`CaptureBatchDashboardPublisher` publishes the initial view of each snapshot;
`PostgresBatchAwareAnalysisProjectionWriter` reads the latest view that has the recording in one transaction and
publishes it in the next with the analysis complete.

* `machine`: any interleaving of the two, of any number of writers, with replays of either;
* `LosesNothing`: nothing was rejected, no row takes back what an older one showed, and the latest row has all that
  was delivered;
* `Guard`: what a step must find for that.
-/

namespace LeoFlow

open CaptureBatchSnapshot

/-! ## What the rows show -/

namespace CaptureBatchDashboardView.Fields

/-- The outcome of an attempt as `initial_capture_batch_dashboard_view` shows it. -/
def HasOutcome (v : Fields) (o : CaptureAttemptOutcome) : Prop :=
  ∃ a ∈ [v.attempts.1.val, v.attempts.2.val], a.attempt_id = o.val.attempt_id ∧
    a.capture_state = o.val.state.dashboard ∧
    a.observed_start_utc_ns = o.val.observed_start_utc_ns ∧
    a.recording_id = o.val.recording_ref.map PublishedRecordingRef.recording_id ∧
    a.failure_reason = o.val.failure_reason

/-- A later row repeats the outcomes and the complete analyses of an earlier one. -/
def Covers (earlier later : Fields) : Prop :=
  ∀ attempts ∈ [(earlier.attempts.1.val, later.attempts.1.val), (earlier.attempts.2.val, later.attempts.2.val)],
    ¬CaptureBatchProjection.RewritesEvidence attempts.1 attempts.2 ∧
      (attempts.1.analysis_state = .complete ∧ attempts.1.analysis_result_available = true →
        attempts.2.analysis_state = .complete ∧ attempts.2.analysis_result_available = true)

theorem Covers.trans {u v w : Fields} (h : u.Covers v) (h' : v.Covers w) : u.Covers w := by
  unfold Covers CaptureBatchProjection.RewritesEvidence at *
  simp only [List.mem_cons, List.not_mem_nil, or_false, forall_eq_or_imp, forall_eq] at *
  grind

/-- A complete analysis stays complete. -/
theorem Covers.complete {earlier later : Fields} (h : earlier.Covers later) {r : RecordingId}
    (hcomplete : earlier.Complete r) : later.Complete r := by
  -- an attempt with a recording is terminal, so its facts are repeated
  have key : ∀ a a' : CaptureAttemptDashboardView, ¬CaptureBatchProjection.RewritesEvidence a.val a'.val →
      a.val.recording_id = some r → a'.val.recording_id = some r := by
    intro a a' hkeeps hrecording
    have hterminal : a.val.capture_state ≠ .pending := by
      intro hpending
      have hok := a.ok
      simp [CaptureAttemptDashboardView.Fields.post_init, hpending, hrecording] at hok
    simp only [CaptureBatchProjection.RewritesEvidence, not_or, not_and, not_not, ne_eq] at hkeeps
    exact (hkeeps.2.2.2.2 hterminal).2.2.1 ▸ hrecording
  obtain ⟨a, ha, hrecording, hanalysis⟩ := hcomplete
  rcases List.mem_cons.1 ha with rfl | ha
  · obtain ⟨hkeeps, hstays⟩ := h (_, _) List.mem_cons_self
    exact ⟨_, List.mem_cons_self, key _ _ hkeeps hrecording, hstays hanalysis⟩
  · rw [List.mem_singleton] at ha
    subst ha
    obtain ⟨hkeeps, hstays⟩ := h (_, _) (List.mem_cons_of_mem _ List.mem_cons_self)
    exact ⟨_, List.mem_cons_of_mem _ List.mem_cons_self, key _ _ hkeeps hrecording, hstays hanalysis⟩

end CaptureBatchDashboardView.Fields

variable {s t : CaptureBatchSnapshot}

namespace CaptureBatchSnapshot

variable {analysed : List RecordingId}

/-- A snapshot's view has the outcomes of the snapshot. -/
theorem view_hasOutcome {o : CaptureAttemptOutcome} (h : o ∈ s.val.outcomes) : (s.view analysed).val.HasOutcome o := by
  have houtcome := outcome_of_mem h
  rw [s.outcomes_eq, List.mem_append, Option.mem_toList, Option.mem_toList] at h
  rcases h with h | h
  · obtain ⟨_, hid⟩ := mem_of_outcome h
    refine ⟨(s.view analysed).val.attempts.1.val, List.mem_cons_self, ?_⟩
    simp [view, viewFields, h, hid]
  · obtain ⟨_, hid⟩ := mem_of_outcome h
    refine ⟨(s.view analysed).val.attempts.2.val, List.mem_cons_of_mem _ List.mem_cons_self, ?_⟩
    simp [view, viewFields, h, hid]

/-- It has no outcome of a later snapshot. -/
theorem mem_of_view_hasOutcome (h : s.Extends t) {o : CaptureAttemptOutcome} (ho : o ∈ t.val.outcomes)
    (hview : (s.view analysed).val.HasOutcome o) :
    o ∈ s.val.outcomes := by
  have key : ∀ expected : ExpectedCaptureAttempt, expected.val.attempt_id = o.val.attempt_id →
      (s.attemptView analysed expected).val.capture_state ≠ .pending → o ∈ s.val.outcomes := by
    intro expected hid hstate
    cases houtcome : s.outcome expected.val.attempt_id with
    | none => simp [houtcome] at hstate
    | some o' =>
      obtain ⟨hmem, hid'⟩ := mem_of_outcome houtcome
      rwa [← eq_of_attempt_id (h.2 hmem) ho (hid'.trans hid)]
  obtain ⟨a, ha, hid, hstate, _⟩ := hview
  have hterminal : a.capture_state ≠ .pending := by
    rw [hstate]
    exact o.val.state.dashboard_ne_pending
  rcases List.mem_cons.1 ha with rfl | ha
  · exact key _ (by simpa [view, viewFields] using hid) (by simpa [view, viewFields] using hterminal)
  · rw [List.mem_singleton] at ha
    subst ha
    exact key _ (by simpa [view, viewFields] using hid) (by simpa [view, viewFields] using hterminal)

/-- A view that is not stale covers the one before it. -/
theorem view_covers (h : s.Extends t) {analysed' : List RecordingId}
    (hstale : ¬CaptureBatchProjection.Stale s analysed analysed') :
    (s.view analysed).val.Covers (t.view analysed').val := by
  have key : ∀ expected : ExpectedCaptureAttempt, (∀ r, s.recording expected = some r → r ∈ s.val.recording_ids) →
      ¬CaptureBatchProjection.RewritesEvidence (s.attemptView analysed expected).val
          (t.attemptView analysed' expected).val ∧
        ((s.attemptView analysed expected).val.analysis_state = .complete ∧
            (s.attemptView analysed expected).val.analysis_result_available = true →
          (t.attemptView analysed' expected).val.analysis_state = .complete ∧
            (t.attemptView analysed' expected).val.analysis_result_available = true) := by
    intro expected hmem
    constructor
    · exact CaptureBatchProjection.not_rewritesEvidence h analysed analysed' expected
    · intro hcomplete
      cases hrecording : s.recording expected with
      | none =>
        rw [(attemptView_unavailable hrecording analysed).1] at hcomplete
        cases hcomplete.1
      | some r =>
        have hr := (attemptView_complete_iff.1 ⟨attemptView_recording .. ▸ hrecording, hcomplete⟩).2
        have hr' : r ∈ analysed' := by
          by_contra hlost
          exact hstale ⟨r, hmem r hrecording, hr, hlost⟩
        exact attemptView_complete (h.recording hrecording) hr'
  intro attempts hattempts
  rcases List.mem_cons.1 hattempts with rfl | hattempts
  · simpa only [view, viewFields, h.1] using key _ fun r hr => mem_recording_ids.2 (Or.inl hr)
  · rw [List.mem_singleton] at hattempts
    subst hattempts
    simpa only [view, viewFields, h.1] using key _ fun r hr => mem_recording_ids.2 (Or.inr hr)

end CaptureBatchSnapshot

/-! ## The publishers -/

/-- The snapshots of one batch, from its registration on: each records one more outcome. -/
structure CaptureHistory where
  definition : CaptureBatchDefinition
  later : List CaptureBatchSnapshot
  recorded : (CaptureBatchSnapshot.initial definition :: later).IsChain fun s t => ∃ o, s.record o = .ok t

namespace CaptureHistory

def snapshots (h : CaptureHistory) : List CaptureBatchSnapshot := CaptureBatchSnapshot.initial h.definition :: h.later

/-- Of two snapshots of a batch, one extends the other. -/
theorem extends_total (h : CaptureHistory) (hs : s ∈ h.snapshots) (ht : t ∈ h.snapshots) : s.Extends t ∨ t.Extends s := by
  have htrans : IsTrans CaptureBatchSnapshot Extends := ⟨fun _ _ _ => Extends.trans⟩
  have hchain : h.snapshots.Pairwise Extends :=
    List.isChain_iff_pairwise.1 (h.recorded.imp fun s t hrecord => extends_of_record hrecord.choose_spec)
  have hboth : h.snapshots.Pairwise fun a b => a.Extends b ∨ b.Extends a := hchain.imp Or.inl
  have hflip : h.snapshots.Pairwise fun a b => b.Extends a ∨ a.Extends b := hboth.imp Or.symm
  have hself : ∀ a ∈ h.snapshots, a.Extends a ∨ a.Extends a := fun a _ => Or.inl (CaptureBatchSnapshot.Extends.refl a)
  exact hboth.forall_of_forall_of_flip hself hflip hs ht

/-- The revision orders the snapshots. -/
theorem extends_of_revision (h : CaptureHistory) (hs : s ∈ h.snapshots) (ht : t ∈ h.snapshots)
    (hrevision : s.val.revision ≤ t.val.revision) : s.Extends t := by
  rcases h.extends_total hs ht with hst | hts
  · exact hst
  · rw [hts.eq_of_revision hrevision]
    exact Extends.refl s

end CaptureHistory

namespace CaptureBatchProjection

/-- `_resolve_recording_batches`, of one batch: the latest view, if it has the recording. -/
def resolve (rows : List CaptureBatchRow) (recording_id : RecordingId) : Option CaptureBatchDashboardView :=
  match rows.head? with
  | none => none
  | some latest => if latest.semantic_view.val.Shows recording_id then some latest.semantic_view else none

/-- `replace(attempt, …) if attempt.recording_id == recording_id else attempt` -/
def completeAttempt (recording_id : RecordingId) (a : CaptureAttemptDashboardView) :
    Except PyError CaptureAttemptDashboardView :=
  if a.val.recording_id = some recording_id then
    Checked.make CaptureAttemptDashboardView.Fields.post_init a.val.complete
  else .ok a

/-- `replace(view, attempts=updated_attempts)` -/
def completeRecording (view : CaptureBatchDashboardView) (recording_id : RecordingId) :
    Except PyError CaptureBatchDashboardView := do
  let first ← completeAttempt recording_id view.val.attempts.1
  let second ← completeAttempt recording_id view.val.attempts.2
  Checked.make CaptureBatchDashboardView.Fields.post_init { view.val with attempts := (first, second) }

theorem completeAttempt_view (s : CaptureBatchSnapshot) (analysed : List RecordingId) (r : RecordingId)
    (expected : ExpectedCaptureAttempt) :
    completeAttempt r (s.attemptView analysed expected) = .ok (s.attemptView (r :: analysed) expected) := by
  have hcomplete : (s.attemptView analysed expected).val.recording_id = some r →
      (s.attemptView analysed expected).val.complete = (s.attemptView (r :: analysed) expected).val := by
    intro hr
    rw [attemptView_recording] at hr
    have hmem : r ∈ r :: analysed := List.mem_cons_self
    have hnew := attemptView_complete hr hmem
    rw [(s.attemptView_facts (r :: analysed) expected), hnew.1, hnew.2, s.attemptView_facts analysed expected]
    rfl
  unfold completeAttempt
  split
  · rename_i hr
    rw [hcomplete hr]
    exact Checked.make_ok (s.attemptView (r :: analysed) expected).ok
  · rename_i hr
    -- another attempt keeps its state
    have hother : (captureAttemptView expected.val (s.outcome expected.val.attempt_id)).recording_id ≠ some r := by
      rw [attemptView_facts] at hr
      exact hr
    have hsame : s.attemptFields analysed expected.val = s.attemptFields (r :: analysed) expected.val := by
      have hiff : (∃ x ∈ (captureAttemptView expected.val (s.outcome expected.val.attempt_id)).recording_id,
          x ∈ analysed) ↔ ∃ x ∈ (captureAttemptView expected.val (s.outcome expected.val.attempt_id)).recording_id,
          x ∈ r :: analysed := by
        refine exists_congr fun x => and_congr_right fun hx => ?_
        have hne : x ≠ r := fun heq => hother (heq ▸ hx)
        simp [hne]
      unfold attemptFields
      exact if_congr hiff rfl rfl
    rw [Except.ok.injEq]
    exact Checked.ext hsame

/-- The view that the analysis writer publishes. -/
theorem completeRecording_view (s : CaptureBatchSnapshot) (analysed : List RecordingId) (r : RecordingId) :
    completeRecording (s.view analysed) r = .ok (s.view (r :: analysed)) := by
  unfold completeRecording
  simp only [view, viewFields, completeAttempt_view, bind, Except.bind]
  exact Checked.make_ok (s.viewFields_ok (r :: analysed))

/-! ## Runs -/

/-- The rows of one batch, and what its publishers did. -/
structure State where
  /-- newest first -/
  rows : List CaptureBatchRow
  /-- the last number drawn from `dashboard_projection_sequence` -/
  sequence : Int
  /-- what each analysis writer still publishes: the recording and the view it made -/
  writers : Nat → Option (RecordingId × CaptureBatchDashboardView)
  /-- the snapshots whose publication returned -/
  published : List CaptureBatchSnapshot
  /-- the recordings of which a `project_features` returned -/
  completed : List RecordingId
  /-- a publication raised -/
  rejected : Bool

inductive Label where
  /-- `publish_initial`; other batches draw `skipped` numbers before -/
  | capture (s : CaptureBatchSnapshot) (invoking_role : InvokingRole) (skipped : Nat)
  /-- the first transaction of an analysis writer -/
  | resolve (writer : Nat) (recording_id : RecordingId)
  /-- the second one -/
  | publish (writer : Nat) (skipped : Nat)

def State.initial : State := ⟨[], -1, fun _ => none, [], [], false⟩

/-- Capture publishes in increasing revisions, or again. -/
def inOrder (published : List CaptureBatchSnapshot) (s : CaptureBatchSnapshot) : Prop :=
  s ∈ published ∨ ∀ t ∈ published, t.val.revision < s.val.revision

instance (published : List CaptureBatchSnapshot) (s : CaptureBatchSnapshot) : Decidable (inOrder published s) :=
  inferInstanceAs (Decidable (_ ∨ _))

/-- Any interleaving of the publishers of one batch. -/
def machine (text_ge : PyStr → PyStr → Bool) (h : CaptureHistory) : Machine State Label where
  Init s := s = .initial
  step s
    | .capture t invoking_role skipped =>
      if t ∈ h.snapshots ∧ inOrder s.published t ∧ invoking_role ≠ .other then
        let nextval := s.sequence + 1 + skipped
        match initial_capture_batch_dashboard_view t with
        | .error _ => some { s with rejected := true }
        | .ok view =>
          match CaptureBatchProjection.publish text_ge invoking_role s.rows nextval view with
          | .error _ => some { s with rejected := true }
          | .ok (rows, _) => some { s with rows := rows, sequence := nextval, published := t :: s.published }
      else none
    | .resolve writer recording_id =>
      if (∃ t ∈ h.snapshots, recording_id ∈ t.val.recording_ids) ∧ s.writers writer = none then
        match CaptureBatchProjection.resolve s.rows recording_id with
        | none => some { s with completed := recording_id :: s.completed }
        | some view =>
          match completeRecording view recording_id with
          | .error _ => some { s with rejected := true }
          | .ok updated =>
            if updated.val.attempts = view.val.attempts then
              some { s with completed := recording_id :: s.completed }
            else some { s with writers := Function.update s.writers writer (some (recording_id, updated)) }
      else none
    | .publish writer skipped =>
      match s.writers writer with
      | none => none
      | some (recording_id, view) =>
        let nextval := s.sequence + 1 + skipped
        let writers := Function.update s.writers writer none
        match CaptureBatchProjection.publish text_ge .leo_analysis s.rows nextval view with
        | .error _ => some { s with writers := writers, rejected := true }
        | .ok (rows, _) =>
          some { s with
            rows := rows
            sequence := nextval
            writers := writers
            completed := recording_id :: s.completed }

/-- The latest row. -/
def State.latest (s : State) : Option CaptureBatchDashboardView := s.rows.head?.map CaptureBatchRow.semantic_view

/-- What the projection promises its publishers. -/
structure LosesNothing (s : State) : Prop where
  accepted : s.rejected = false
  monotone : s.rows.Pairwise fun later earlier => earlier.semantic_view.val.Covers later.semantic_view.val
  outcomes : ∀ t ∈ s.published, ∃ latest ∈ s.latest, ∀ o ∈ t.val.outcomes, latest.val.HasOutcome o
  analyses : ∀ r ∈ s.completed, ∃ latest ∈ s.latest, latest.val.Complete r

/-- What a step must find. A capture publish finds nothing, its own revision, or an older one without a complete
analysis. An analysis writer finds its recording; and when it publishes, the revision it read and no complete
analysis that it did not read, unless its own is there already. -/
def Guard (text_ge : PyStr → PyStr → Bool) (s : State) : Label → Prop
  | .capture t _ _ =>
    Publishable text_ge (t.view []).val ∧
      ∀ latest ∈ s.latest, latest.val.revision = t.val.revision ∨
        latest.val.revision < t.val.revision ∧ ∀ r, ¬latest.val.Complete r
  | .resolve _ recording_id => ∃ latest ∈ s.latest, latest.val.Shows recording_id
  | .publish writer _ =>
    ∀ recording_id view, s.writers writer = some (recording_id, view) →
      ∃ latest ∈ s.latest, latest.val.revision = view.val.revision ∧
        (latest.val.Complete recording_id ∨ ∀ r, latest.val.Complete r → view.val.Complete r)

end CaptureBatchProjection

end LeoFlow
