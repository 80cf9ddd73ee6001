import LeoFlow.Analysis.ResidualAccounts

/-!
# LeoFlow.Analysis.ResidualRestarts — what a segment leaves behind

Where a segment has ended, the tracker should go on like a fresh one. Two trackers that
differ in what they have reported go on alike (`Twins`); with no segment open, only the
context can differ, and it does when the innovation gate refused the first observation of
a segment: `finish` returns early then and the context stays.
-/

namespace LeoFlow

open ResidualFilter

namespace ResidualTracker

open AssociatedTrackingObservation (time label context)

variable (spec : TrackingSpecification)

/-- A segment without the reason it started for. -/
def TrackSegment.unlabelled (segment : TrackSegment) : TrackSegment := { segment with start_reason := "" }

/-- The two trackers differ in what they have reported, and may differ in their context. -/
structure Follows (segments : List TrackSegment) (rejected : List RejectedTrackingObservation)
    (t u : Tracker) : Prop where
  input : u.previous_input_time = t.previous_input_time ∨ u.previous_input_time = none
  segments : t.segments.map TrackSegment.unlabelled =
    segments.map TrackSegment.unlabelled ++ u.segments.map TrackSegment.unlabelled
  rejected : t.rejected = rejected ++ u.rejected
  steps : u.steps = t.steps
  state : u.state = t.state
  covariance : u.covariance = t.covariance
  last : u.previous_accepted_time = t.previous_accepted_time

/-- The two trackers differ in what they have reported only. -/
structure Twins (segments : List TrackSegment) (rejected : List RejectedTrackingObservation)
    (t u : Tracker) : Prop extends Follows segments rejected t u where
  context : u.context = t.context

/-- Whenever `x` returns, `y` returns a related tracker. -/
def Simulates (R : Tracker → Tracker → Prop) (x y : Except PyError Tracker) : Prop :=
  ∀ t', x = .ok t' → ∃ u', y = .ok u' ∧ R t' u'

section Simulates

variable {R S : Tracker → Tracker → Prop} {α : Type}

theorem simulates_ok {t u : Tracker} (h : R t u) : Simulates R (.ok t) (.ok u) := by
  intro t' ht
  cases ht
  exact ⟨u, rfl, h⟩

theorem simulates_bind {x y : Except PyError Tracker} {f g : Tracker → Except PyError Tracker} (h : Simulates R x y)
    (hfg : ∀ t u, R t u → Simulates S (f t) (g u)) : Simulates S (x >>= f) (y >>= g) := by
  intro t' ht
  rcases bind_ok.1 ht with ⟨t₁, hx, hf⟩
  rcases h t₁ hx with ⟨u₁, hy, hrel⟩
  rcases hfg t₁ u₁ hrel t' hf with ⟨u', hg, hrel'⟩
  exact ⟨u', bind_ok.2 ⟨u₁, hy, hg⟩, hrel'⟩

theorem simulates_same {x : Except PyError α} {f g : α → Except PyError Tracker}
    (hfg : ∀ a, x = .ok a → Simulates R (f a) (g a)) : Simulates R (x >>= f) (x >>= g) := by
  intro t' ht
  rcases bind_ok.1 ht with ⟨a, hx, hf⟩
  rcases hfg a hx t' hf with ⟨u', hg, hrel⟩
  exact ⟨u', bind_ok.2 ⟨a, hx, hg⟩, hrel⟩

theorem simulates_guard {x y : Except PyError Unit} {f g : Unit → Except PyError Tracker}
    (hxy : x = .ok () → y = .ok ()) (hfg : Simulates R (f ()) (g ())) : Simulates R (x >>= f) (y >>= g) := by
  intro t' ht
  rcases bind_ok.1 ht with ⟨_, hx, hf⟩
  rcases hfg t' hf with ⟨u', hg, hrel⟩
  exact ⟨u', bind_ok.2 ⟨(), hxy hx, hg⟩, hrel⟩

end Simulates

section Twins

variable {spec} {segments : List TrackSegment} {rejected : List RejectedTrackingObservation} {t u : Tracker}
  {o : AssociatedTrackingObservation} {candidate : AssociationCandidate}

theorem Twins.finish (h : Twins segments rejected t u) (reason : String) :
    Simulates (Twins segments rejected) (finish spec reason t) (finish spec reason u) := by
  unfold ResidualTracker.finish
  rw [h.context, h.steps]
  cases hcontext : t.context with
  | none => exact simulates_ok h
  | some c =>
    dsimp only
    split
    · exact simulates_ok h
    · refine simulates_same fun estimates _ => simulates_same fun digest _ => simulates_ok ?_
      exact {
        input := h.input
        segments := by
          simp only [Tracker.closed, List.map_append, h.segments, List.append_assoc]
          rfl
        rejected := h.rejected
        steps := rfl
        state := rfl
        covariance := rfl
        last := rfl
        context := rfl }

theorem Twins.reject (h : Twins segments rejected t u) (reason : String) :
    Simulates (Twins segments rejected) (reject spec o reason t) (reject spec o reason u) := by
  refine simulates_bind (h.finish _) fun t₁ u₁ h₁ => simulates_ok ?_
  exact { h₁ with rejected := by simp only [h₁.rejected, List.append_assoc] }

theorem Twins.gate (h : Twins segments rejected t u) :
    Simulates (Twins segments rejected) (gate spec o candidate t) (gate spec o candidate u) := by
  unfold ResidualTracker.gate
  dsimp only
  rw [h.context, h.steps, h.state, h.covariance, h.last]
  refine simulates_same fun dt_s _ => simulates_same fun i _ => ?_
  split
  · refine Twins.reject ?_ _
    exact {
      input := h.input
      segments := h.segments
      rejected := h.rejected
      steps := rfl
      state := rfl
      covariance := rfl
      last := rfl
      context := rfl }
  · refine simulates_same fun filtered _ => simulates_ok ?_
    exact {
      input := h.input
      segments := h.segments
      rejected := h.rejected
      steps := rfl
      state := rfl
      covariance := rfl
      last := rfl
      context := rfl }

theorem Twins.checkContext (h : Twins segments rejected t u) :
    Simulates (Twins segments rejected) (checkContext spec o candidate t) (checkContext spec o candidate u) := by
  unfold ResidualTracker.checkContext
  rw [h.context]
  split
  · split
    · refine simulates_bind (h.finish _) fun t₁ u₁ h₁ => Twins.gate ?_
      exact ⟨⟨h₁.input, h₁.segments, h₁.rejected, h₁.steps, h₁.state, h₁.covariance, h₁.last⟩, h₁.context⟩
    · exact h.reject _
  · exact h.gate

/-- The time of the next observation suits the tracker that follows. -/
theorem Follows.timely (h : Follows segments rejected t u) {e : PyError}
    (htime : raiseIf (∃ previous ∈ t.previous_input_time, time o ≤ previous) e = .ok ()) :
    raiseIf (∃ previous ∈ u.previous_input_time, time o ≤ previous) e = .ok () := by
  rw [raiseIf_ok] at htime ⊢
  rcases h.input with hinput | hinput
  · rw [hinput]
    exact htime
  · rw [hinput]
    rintro ⟨_, hnone, _⟩
    cases hnone

/-- Two trackers that differ in what they have reported go on alike. -/
theorem Twins.observe (h : Twins segments rejected t u) :
    Simulates (Twins segments rejected) (observe spec t o) (observe spec u o) := by
  unfold ResidualTracker.observe
  have hseen : Twins segments rejected { t with previous_input_time := some (time o) }
      { u with previous_input_time := some (time o) } := { h with input := .inl rfl }
  refine simulates_guard h.timely (simulates_same fun rejection _ => ?_)
  cases rejection with
  | some reason => exact hseen.reject reason
  | none =>
    have hgap : exceedsGap spec u.previous_accepted_time (time o) = exceedsGap spec t.previous_accepted_time (time o) := by
      rw [h.last]
    dsimp only
    rw [hgap]
    refine simulates_same fun candidate _ => simulates_same fun gap _ => ?_
    split
    · split
      · refine simulates_bind (hseen.finish _) fun t₁ u₁ h₁ => Twins.checkContext ?_
        exact ⟨⟨h₁.input, h₁.segments, h₁.rejected, h₁.steps, h₁.state, h₁.covariance, h₁.last⟩, h₁.context⟩
      · exact hseen.reject _
    · exact hseen.checkContext

end Twins

/-! ## Between segments -/

/-- No segment is open, and the filter stands where it starts. -/
structure Idle (t : Tracker) : Prop where
  steps : t.steps = []
  state : t.state = spec.val.initial_state
  covariance : t.covariance = spec.val.initial_covariance
  last : t.previous_accepted_time = none

/-- What becomes of an observation when no segment is open. -/
inductive FirstOutcome where
  /-- it is not associated with the expected satellite -/
  | unassociated (reason : String)
  /-- the innovation gate refuses it -/
  | outside
  /-- it begins a segment -/
  | begins (step : Step) (state : Vector2) (covariance : Matrix2)

/-- The outcome depends on nothing but the observation. -/
def firstOutcome (o : AssociatedTrackingObservation) : Except PyError FirstOutcome := do
  match ← associationRejection o spec.val.expected_norad_id with
  | some reason => return .unassociated reason
  | none => do
    let candidate ← selectedCandidate o.val.decision
    let i ← innovate spec.val.process_noise_hz2_s3 spec.val.initial_state spec.val.initial_covariance Num.zero
      (residual o candidate)
    if spec.val.maximum_normalized_innovation_squared.Lt i.nis then return .outside
    else do
      let (filtered_state, filtered_covariance) ← update i
      return .begins (stepOf o Num.zero i filtered_state filtered_covariance) filtered_state filtered_covariance

/-- The observation can begin a segment. -/
def BeginsSegment (o : AssociatedTrackingObservation) : Prop :=
  ∃ step state covariance, firstOutcome spec o = .ok (.begins step state covariance)

/-- A refused observation. -/
def refusal (o : AssociatedTrackingObservation) (reason : String) : RejectedTrackingObservation :=
  ⟨o.val.measurement.val.recording_id, time o, reason⟩

/-- The context that is compared with is there before the observation, or is its own. -/
def Suits (t : Tracker) (o : AssociatedTrackingObservation) : Prop := ∀ c ∈ t.context, c = context o

instance (t : Tracker) (o : AssociatedTrackingObservation) : Decidable (Suits t o) := by
  unfold Suits
  infer_instance

/-- The tracker after an observation that met no open segment. -/
def afterFirst (t : Tracker) (o : AssociatedTrackingObservation) : FirstOutcome → Tracker
  | .unassociated reason => { t with
      previous_input_time := some (time o)
      rejected := t.rejected ++ [refusal o reason]
      start_reason := "after-rejected:" ++ reason }
  | .outside => { t with
      previous_input_time := some (time o)
      context := some (t.context.getD (context o))
      rejected := t.rejected ++ [refusal o "innovation-gate"]
      start_reason := "after-rejected:innovation-gate" }
  | .begins step state covariance => { t with
      previous_input_time := some (time o)
      context := some (t.context.getD (context o))
      start_reason := if Suits t o then t.start_reason else "after-context-change"
      steps := [step]
      state, covariance
      previous_accepted_time := some (time o) }

section Idle

variable {spec} {t u t' : Tracker} {o : AssociatedTrackingObservation} {observations : List AssociatedTrackingObservation}

theorem idle_fresh : Idle spec (fresh spec) := ⟨rfl, rfl, rfl, rfl⟩

theorem Accounts.idle_of_steps {done : List AssociatedTrackingObservation} (h : Accounts spec t done)
    (hsteps : t.steps = []) : Idle spec t where
  steps := hsteps
  state := (h.idle hsteps).1
  covariance := (h.idle hsteps).2
  last := by
    rw [h.timed, hsteps]
    rfl

theorem finish_of_steps {reason : String} (hsteps : t.steps = []) : finish spec reason t = .ok t := by
  unfold finish
  split
  · rfl
  · rw [if_pos hsteps]

theorem reject_of_steps {reason : String} (hsteps : t.steps = []) :
    reject spec o reason t = .ok { t with
      rejected := t.rejected ++ [refusal o reason]
      start_reason := "after-rejected:" ++ reason } := by
  unfold reject
  rw [finish_of_steps hsteps]
  rfl

theorem suits_iff : Suits t o ↔ ¬(t.context ≠ none ∧ t.context ≠ some (context o)) := by
  unfold Suits
  cases t.context with
  | none => simp
  | some c => simp

theorem Idle.gate {candidate : AssociationCandidate} (h : Idle spec t) :
    gate spec o candidate t = (do
      let i ← innovate spec.val.process_noise_hz2_s3 spec.val.initial_state spec.val.initial_covariance Num.zero
        (residual o candidate)
      if spec.val.maximum_normalized_innovation_squared.Lt i.nis then
        return { t with
          context := some (t.context.getD (context o))
          rejected := t.rejected ++ [refusal o "innovation-gate"]
          start_reason := "after-rejected:innovation-gate" }
      else do
        let (filtered_state, filtered_covariance) ← update i
        return { t with
          context := some (t.context.getD (context o))
          steps := [stepOf o Num.zero i filtered_state filtered_covariance]
          state := filtered_state
          covariance := filtered_covariance
          previous_accepted_time := some (time o) }) := by
  have helapsed : elapsed t.previous_accepted_time (time o) = .ok Num.zero := by
    rw [h.last]
    rfl
  unfold ResidualTracker.gate
  dsimp only
  rw [helapsed, h.state, h.covariance]
  show (innovate _ _ _ _ _ >>= _) = _
  refine bind_congr fun i => ?_
  split
  · exact reject_of_steps h.steps
  · rw [h.steps]
    rfl

/-- An observation that meets no open segment; a context that does not suit it is ignored
where a change of context starts a segment. -/
theorem Idle.observe (h : Idle spec t)
    (hcontext : associationRejection o spec.val.expected_norad_id = .ok none →
      spec.val.segment_on_context_change = true ∨ Suits t o) :
    observe spec t o = (do
      raiseIf (∃ previous ∈ t.previous_input_time, time o ≤ previous)
        (.value "tracking observations must have strictly increasing time")
      let outcome ← firstOutcome spec o
      return afterFirst t o outcome) := by
  have hgap : exceedsGap spec t.previous_accepted_time (time o) = .ok false := by
    rw [h.last]
    rfl
  have hseen : Idle spec { t with previous_input_time := some (time o) } := ⟨h.steps, h.state, h.covariance, h.last⟩
  have hnoted : Idle spec { t with previous_input_time := some (time o), start_reason := "after-context-change" } :=
    ⟨h.steps, h.state, h.covariance, h.last⟩
  unfold ResidualTracker.observe firstOutcome
  refine bind_congr fun _ => ?_
  rw [bind_assoc]
  cases hassociated : associationRejection o spec.val.expected_norad_id with
  | error e => rfl
  | ok rejection =>
  cases rejection with
  | some reason => exact reject_of_steps h.steps
  | none =>
    show (selectedCandidate o.val.decision >>= _) = (selectedCandidate o.val.decision >>= _) >>= _
    rw [bind_assoc]
    refine bind_congr fun candidate => ?_
    rw [hgap]
    show checkContext spec o candidate _ = _
    unfold ResidualTracker.checkContext
    rw [bind_assoc]
    by_cases hsuits : Suits t o
    · rw [if_neg (suits_iff.1 hsuits), hseen.gate]
      refine bind_congr fun i => ?_
      split
      · rfl
      · rw [bind_assoc]
        refine bind_congr fun filtered => ?_
        simp only [afterFirst, if_pos hsuits]
        rfl
    · have hsegment := (hcontext hassociated).resolve_right hsuits
      rw [if_pos (not_not.1 (mt suits_iff.2 hsuits)), if_pos hsegment, finish_of_steps hseen.steps]
      show ResidualTracker.gate spec o candidate _ = _
      rw [hnoted.gate]
      refine bind_congr fun i => ?_
      split
      · rfl
      · rw [bind_assoc]
        refine bind_congr fun filtered => ?_
        simp only [afterFirst, if_neg hsuits]
        rfl

/-- Between segments two trackers treat an observation alike. -/
theorem Idle.observe_both {segments : List TrackSegment} {rejected : List RejectedTrackingObservation}
    (ht : Idle spec t) (hu : Idle spec u) (h : Follows segments rejected t u)
    (htcontext : associationRejection o spec.val.expected_norad_id = .ok none →
      spec.val.segment_on_context_change = true ∨ Suits t o)
    (hucontext : associationRejection o spec.val.expected_norad_id = .ok none →
      spec.val.segment_on_context_change = true ∨ Suits u o) (hrun : ResidualTracker.observe spec t o = .ok t') :
    ∃ outcome, firstOutcome spec o = .ok outcome ∧ t' = afterFirst t o outcome ∧
      ResidualTracker.observe spec u o = .ok (afterFirst u o outcome) ∧
      Follows segments rejected (afterFirst t o outcome) (afterFirst u o outcome) := by
  rw [ht.observe htcontext] at hrun
  rcases bind_ok.1 hrun with ⟨_, htime, h1⟩
  rcases bind_ok.1 h1 with ⟨outcome, houtcome, h2⟩
  cases h2
  refine ⟨outcome, houtcome, rfl, ?_, ?_⟩
  · rw [hu.observe hucontext, h.timely htime, houtcome]
    rfl
  · cases outcome with
    | unassociated reason =>
      exact ⟨.inl rfl, h.segments, by simp only [afterFirst, h.rejected, List.append_assoc], h.steps, h.state,
        h.covariance, h.last⟩
    | outside =>
      exact ⟨.inl rfl, h.segments, by simp only [afterFirst, h.rejected, List.append_assoc], h.steps, h.state,
        h.covariance, h.last⟩
    | begins step state covariance => exact ⟨.inl rfl, h.segments, h.rejected, rfl, rfl, rfl, rfl⟩

end Idle

end ResidualTracker

end LeoFlow
