import LeoFlow.Core.Merges
import LeoFlow.Analysis.ResidualTracking

/-!
# LeoFlow.Analysis.ResidualAccounts — what one round of the tracker does

A round closes the open segment or leaves it (`Shut`); then the observation is refused,
with no segment open (`Refuses`), or appended to the open segment (`Appends`). This is all
that `observe_ok` says, and every invariant is read off it: each observation is reported
once, in order, and consecutive estimates lie no further apart than the gap (`Accounts`).
-/

namespace LeoFlow

open ResidualFilter

namespace ResidualTracker

open AssociatedTrackingObservation (time label context)

variable (spec : TrackingSpecification)

/-- Times that one segment may hold one after the other. -/
def NearTimes (a b : RecordingId × Int) : Prop :=
  ∃ gap, seconds a.2 b.2 = .ok gap ∧ ¬spec.val.maximum_gap_s.Lt gap

/-- Two estimates no further apart than the maximum gap. -/
def Near (e e' : TrackingEstimate) : Prop := NearTimes spec e.label e'.label

/-- Nothing but the labels differs. -/
structure Same (t t₁ : Tracker) : Prop where
  segments : t₁.segments = t.segments
  rejected : t₁.rejected = t.rejected
  steps : t₁.steps = t.steps
  context : t₁.context = t.context
  state : t₁.state = t.state
  covariance : t₁.covariance = t.covariance
  last : t₁.previous_accepted_time = t.previous_accepted_time

/-- The open segment is left as it is, or closed. -/
inductive Shut (t t₁ : Tracker) : Prop where
  | same (h : Same t t₁)
  | closed (segment : TrackSegment) (open_steps : t.steps ≠ []) (open_context : t.context = some segment.context)
      (estimates : estimatesOf spec t.steps = .ok segment.estimates) (h : Same (t.closed spec segment) t₁)

/-- The observation is refused; the innovation gate leaves its context behind. -/
structure Refuses (o : AssociatedTrackingObservation) (t₁ t' : Tracker) : Prop where
  no_steps : t₁.steps = []
  steps : t'.steps = []
  segments : t'.segments = t₁.segments
  rejected : ∃ reason, t'.rejected = t₁.rejected ++ [⟨o.val.measurement.val.recording_id, time o, reason⟩]
  context : t'.context = t₁.context ∨ t'.context = some (t₁.context.getD (context o))
  state : t'.state = t₁.state
  covariance : t'.covariance = t₁.covariance
  last : t'.previous_accepted_time = t₁.previous_accepted_time

/-- The observation becomes the next estimate of the segment. -/
structure Appends (o : AssociatedTrackingObservation) (t₁ t' : Tracker) : Prop where
  same_context : t₁.steps ≠ [] → t₁.context = some (context o)
  near : ∀ previous ∈ t₁.previous_accepted_time,
    ∃ gap, seconds previous (time o) = .ok gap ∧ ¬spec.val.maximum_gap_s.Lt gap
  steps : ∃ step, step.estimate.label = label o ∧ t'.steps = t₁.steps ++ [step]
  segments : t'.segments = t₁.segments
  rejected : t'.rejected = t₁.rejected
  context : t'.context = some (t₁.context.getD (context o))
  last : t'.previous_accepted_time = some (time o)

section Round

variable {spec} {t t' : Tracker} {o : AssociatedTrackingObservation}

theorem Same.refl (t : Tracker) : Same t t := ⟨rfl, rfl, rfl, rfl, rfl, rfl, rfl⟩

theorem Same.trans {t₁ t₂ : Tracker} (h₁ : Same t t₁) (h₂ : Same t₁ t₂) : Same t t₂ where
  segments := h₂.segments.trans h₁.segments
  rejected := h₂.rejected.trans h₁.rejected
  steps := h₂.steps.trans h₁.steps
  context := h₂.context.trans h₁.context
  state := h₂.state.trans h₁.state
  covariance := h₂.covariance.trans h₁.covariance
  last := h₂.last.trans h₁.last

theorem Shut.of_same {t₁ t₂ : Tracker} (h₂ : Shut spec t₁ t₂) (h₁ : Same t t₁) : Shut spec t t₂ := by
  cases h₂ with
  | same h => exact .same (h₁.trans h)
  | closed segment hopen hcontext hestimates h =>
    refine .closed segment (h₁.steps ▸ hopen) (h₁.context ▸ hcontext) (h₁.steps ▸ hestimates) ?_
    exact {
      segments := by rw [h.segments]; exact congrArg (· ++ [segment]) h₁.segments
      rejected := h.rejected.trans h₁.rejected
      steps := h.steps
      context := h.context
      state := h.state
      covariance := h.covariance
      last := h.last }

/-- A second closing finds nothing to close. -/
theorem Shut.trans {t₁ t₂ : Tracker} (h₁ : Shut spec t t₁) (hsteps : t₁.steps = []) (h₂ : Shut spec t₁ t₂) :
    Shut spec t t₂ := by
  cases h₂ with
  | closed _ hopen => exact absurd hsteps hopen
  | same h =>
    cases h₁ with
    | same h₁ => exact .same (h₁.trans h)
    | closed segment hopen hcontext hestimates h₁ => exact .closed segment hopen hcontext hestimates (h₁.trans h)

/-- `finish` leaves no open segment. -/
theorem finish_ok {reason : String} (h : finish spec reason t = .ok t') (hnamed : t.steps ≠ [] → t.context ≠ none) :
    Shut spec t t' ∧ t'.steps = [] := by
  unfold finish at h
  split at h
  · rename_i hnone
    cases h
    by_cases hsteps : t.steps = []
    · exact ⟨.same (.refl t), hsteps⟩
    · exact absurd hnone (hnamed hsteps)
  · rename_i c hcontext
    split at h
    · rename_i hsteps
      cases h
      exact ⟨.same (.refl t), hsteps⟩
    · rename_i hsteps
      rcases bind_ok.1 h with ⟨estimates, hestimates, h1⟩
      rcases bind_ok.1 h1 with ⟨digest, _, h2⟩
      cases h2
      exact ⟨.closed _ hsteps hcontext hestimates (.refl _), rfl⟩

/-- A rejection closes the segment first. -/
theorem reject_ok {reason : String} (h : reject spec o reason t = .ok t')
    (hnamed : t.steps ≠ [] → t.context ≠ none) : ∃ t₁, Shut spec t t₁ ∧ Refuses o t₁ t' ∧ t'.context = t₁.context := by
  rcases bind_ok.1 h with ⟨t₁, hfinish, h1⟩
  rcases finish_ok hfinish hnamed with ⟨hshut, hsteps⟩
  cases h1
  exact ⟨t₁, hshut, ⟨hsteps, hsteps, rfl, ⟨reason, rfl⟩, .inl rfl, rfl, rfl, rfl⟩, rfl⟩

/-- The gate: the segment is open under the context of the observation, or no segment is open. -/
theorem gate_ok {candidate : AssociationCandidate} (h : gate spec o candidate t = .ok t')
    (hcontext : t.steps ≠ [] → t.context = some (context o))
    (hnear : ∀ previous ∈ t.previous_accepted_time,
      ∃ gap, seconds previous (time o) = .ok gap ∧ ¬spec.val.maximum_gap_s.Lt gap) :
    ∃ t₁, Shut spec t t₁ ∧ (Refuses o t₁ t' ∨ Appends spec o t₁ t') := by
  unfold gate at h
  dsimp only at h
  rcases bind_ok.1 h with ⟨dt_s, _, h1⟩
  rcases bind_ok.1 h1 with ⟨i, _, h2⟩
  split at h2
  · rcases reject_ok h2 fun _ => Option.some_ne_none _ with ⟨t₁, hshut, hrefuses, hsame⟩
    cases hshut with
    | same hsame₁ =>
      -- without steps nothing is closed, and the context stays
      refine ⟨t, .same (.refl t), .inl ?_⟩
      exact {
        no_steps := hsame₁.steps.symm.trans hrefuses.no_steps
        steps := hrefuses.steps
        segments := hrefuses.segments.trans hsame₁.segments
        rejected := hsame₁.rejected ▸ hrefuses.rejected
        context := .inr (hsame.trans hsame₁.context)
        state := hrefuses.state.trans hsame₁.state
        covariance := hrefuses.covariance.trans hsame₁.covariance
        last := hrefuses.last.trans hsame₁.last }
    | closed segment hopen hcontext₁ hestimates hsame₁ =>
      refine ⟨t₁, .closed segment hopen ?_ hestimates ?_, .inl hrefuses⟩
      · have hc := hcontext hopen
        simp only [hc, Option.getD_some] at hcontext₁
        exact hc.trans hcontext₁
      · exact ⟨hsame₁.segments, hsame₁.rejected, hsame₁.steps, hsame₁.context, hsame₁.state, hsame₁.covariance,
          hsame₁.last⟩
  · rcases bind_ok.1 h2 with ⟨⟨filtered_state, filtered_covariance⟩, _, h3⟩
    cases h3
    exact ⟨t, .same (.refl t), .inr ⟨hcontext, hnear, ⟨_, rfl, rfl⟩, rfl, rfl, rfl, rfl⟩⟩

/-- The labels of the open segment. -/
def Tracker.openLabels (t : Tracker) : List (RecordingId × Int) := t.steps.map fun step => step.estimate.label

/-- The time of the last estimate is there exactly when a segment is open. -/
def Timed (t : Tracker) : Prop :=
  t.previous_accepted_time = t.steps.getLast?.map fun step => step.estimate.utc_ns

/-- After a closing there is no last estimate. -/
theorem Shut.last {t₁ : Tracker} (h : Shut spec t t₁) (htimed : Timed t) (hsteps : t₁.steps = []) :
    t₁.previous_accepted_time = none := by
  cases h with
  | same h =>
    rw [h.last, htimed, ← h.steps, hsteps]
    rfl
  | closed _ _ _ _ h => exact h.last

theorem checkContext_ok {candidate : AssociationCandidate} (h : checkContext spec o candidate t = .ok t')
    (hnamed : t.steps ≠ [] → t.context ≠ none) (htimed : Timed t)
    (hnear : ∀ previous ∈ t.previous_accepted_time,
      ∃ gap, seconds previous (time o) = .ok gap ∧ ¬spec.val.maximum_gap_s.Lt gap) :
    ∃ t₁, Shut spec t t₁ ∧ (Refuses o t₁ t' ∨ Appends spec o t₁ t') := by
  unfold checkContext at h
  split at h
  · split at h
    · rcases bind_ok.1 h with ⟨t₁, hfinish, hgate⟩
      rcases finish_ok hfinish hnamed with ⟨hshut, hsteps⟩
      have hlast := hshut.last htimed hsteps
      rcases gate_ok hgate (fun hne => absurd hsteps hne) (fun previous hp => by cases hlast.symm.trans hp) with
        ⟨t₂, hshut₂, hround⟩
      exact ⟨t₂, hshut.trans hsteps (hshut₂.of_same ⟨rfl, rfl, rfl, rfl, rfl, rfl, rfl⟩), hround⟩
    · rcases reject_ok h hnamed with ⟨t₁, hshut, hrefuses, _⟩
      exact ⟨t₁, hshut, .inl hrefuses⟩
  · rename_i hcontext
    refine gate_ok h ?_ hnear
    intro hsteps
    by_contra hne
    exact hcontext ⟨hnamed hsteps, hne⟩

/-- What a round does. -/
theorem observe_ok (h : observe spec t o = .ok t') (hnamed : t.steps ≠ [] → t.context ≠ none) (htimed : Timed t) :
    (∀ previous ∈ t.previous_input_time, previous < time o) ∧
      ∃ t₁, Shut spec t t₁ ∧ (Refuses o t₁ t' ∨ Appends spec o t₁ t') := by
  unfold observe at h
  rcases bind_ok.1 h with ⟨_, htime, h1⟩
  constructor
  · intro previous hprevious
    by_contra hle
    exact raiseIf_ok.1 htime ⟨previous, hprevious, by omega⟩
  rcases bind_ok.1 h1 with ⟨rejection, _, h2⟩
  cases rejection with
  | some reason =>
    rcases reject_ok h2 hnamed with ⟨t₁, hshut, hrefuses, _⟩
    exact ⟨t₁, hshut.of_same ⟨rfl, rfl, rfl, rfl, rfl, rfl, rfl⟩, .inl hrefuses⟩
  | none =>
    rcases bind_ok.1 h2 with ⟨candidate, _, h3⟩
    rcases bind_ok.1 h3 with ⟨gap, hgap, h4⟩
    split at h4
    · split at h4
      · rcases bind_ok.1 h4 with ⟨t₁, hfinish, hcheck⟩
        rcases finish_ok hfinish hnamed with ⟨hshut, hsteps⟩
        have hlast := hshut.last htimed hsteps
        have htimed₁ : t₁.previous_accepted_time = t₁.steps.getLast?.map fun step => step.estimate.utc_ns := by
          rw [hlast, hsteps]
          rfl
        rcases checkContext_ok hcheck (fun hne => absurd hsteps hne) htimed₁
          (fun previous hp => by cases hlast.symm.trans hp) with ⟨t₂, hshut₂, hround⟩
        exact ⟨t₂, (hshut.trans hsteps (hshut₂.of_same ⟨rfl, rfl, rfl, rfl, rfl, rfl, rfl⟩)).of_same
          ⟨rfl, rfl, rfl, rfl, rfl, rfl, rfl⟩, hround⟩
      · rcases reject_ok h4 hnamed with ⟨t₁, hshut, hrefuses, _⟩
        exact ⟨t₁, hshut.of_same ⟨rfl, rfl, rfl, rfl, rfl, rfl, rfl⟩, .inl hrefuses⟩
    · rename_i hwithin
      -- the gap was computed and is not too long
      have hnear : ∀ previous ∈ t.previous_accepted_time,
          ∃ gap, seconds previous (time o) = .ok gap ∧ ¬spec.val.maximum_gap_s.Lt gap := by
        intro previous hprevious
        dsimp only at hgap
        rw [hprevious] at hgap
        rcases bind_ok.1 hgap with ⟨gap_s, hseconds, hdecide⟩
        cases hdecide
        exact ⟨gap_s, hseconds, fun hlt => hwithin (decide_eq_true hlt)⟩
      rcases checkContext_ok h4 hnamed htimed hnear with ⟨t₁, hshut, hround⟩
      exact ⟨t₁, hshut.of_same ⟨rfl, rfl, rfl, rfl, rfl, rfl, rfl⟩, hround⟩

end Round

/-! ## Every observation is reported once -/

/-- The estimates so far: those of the closed segments, then those of the open one. -/
def Tracker.reported (t : Tracker) : List (RecordingId × Int) :=
  (t.segments.flatMap TrackSegment.estimates).map TrackingEstimate.label ++ t.openLabels

/-- What the loop keeps, `done` being the observations so far. -/
structure Accounts (t : Tracker) (done : List AssociatedTrackingObservation) : Prop where
  merged : Merges t.reported (t.rejected.map RejectedTrackingObservation.label) (done.map label)
  idle : t.steps = [] → t.state = spec.val.initial_state ∧ t.covariance = spec.val.initial_covariance
  named : t.steps ≠ [] → t.context ≠ none
  timed : Timed t
  near : t.openLabels.IsChain (NearTimes spec)
  segments_near : ∀ segment ∈ t.segments, segment.estimates.IsChain (Near spec)

section Accounts

variable {spec} {t t₁ t' : Tracker} {o : AssociatedTrackingObservation} {done : List AssociatedTrackingObservation}

theorem accounts_fresh : Accounts spec (fresh spec) [] where
  merged := .nil
  idle _ := ⟨rfl, rfl⟩
  named h := absurd rfl h
  timed := rfl
  near := .nil
  segments_near _ h := by cases h

/-- The estimates of a segment are those of its steps, smoothed or not. -/
theorem labels_estimatesOf {steps : List Step} {es : List TrackingEstimate} (h : estimatesOf spec steps = .ok es) :
    es.map TrackingEstimate.label = steps.map fun step => step.estimate.label := by
  unfold estimatesOf at h
  split at h
  · exact labels_smooth h
  · cases h
    rw [List.map_map]
    rfl

/-- Closing the segment loses no estimate. -/
theorem Shut.reported (h : Shut spec t t₁) : t₁.reported = t.reported := by
  unfold Tracker.reported Tracker.openLabels
  cases h with
  | same h => rw [h.segments, h.steps]
  | closed segment _ _ hestimates h =>
    rw [h.segments, h.steps]
    simp only [Tracker.closed, List.flatMap_append, List.flatMap_cons, List.flatMap_nil, List.append_nil,
      List.map_append, List.map_nil, labels_estimatesOf hestimates]

theorem Shut.rejected (h : Shut spec t t₁) : t₁.rejected = t.rejected := by
  cases h with
  | same h => exact h.rejected
  | closed _ _ _ _ h => exact h.rejected

theorem Accounts.shut (h : Accounts spec t done) (hshut : Shut spec t t₁) : Accounts spec t₁ done := by
  have hmerged : Merges t₁.reported (t₁.rejected.map RejectedTrackingObservation.label) (done.map label) := by
    rw [hshut.reported, hshut.rejected]
    exact h.merged
  cases hshut with
  | same hsame =>
    exact {
      merged := hmerged
      idle := fun hsteps => by
        rw [hsame.state, hsame.covariance]
        exact h.idle (hsame.steps ▸ hsteps)
      named := fun hsteps => by
        rw [hsame.context]
        exact h.named (hsame.steps ▸ hsteps)
      timed := by
        unfold Timed
        rw [hsame.last, hsame.steps]
        exact h.timed
      near := by
        unfold Tracker.openLabels
        rw [hsame.steps]
        exact h.near
      segments_near := hsame.segments ▸ h.segments_near }
  | closed segment _ _ hestimates hsame =>
    have hsteps : t₁.steps = [] := hsame.steps
    refine {
      merged := hmerged
      idle := fun _ => ⟨hsame.state, hsame.covariance⟩
      named := fun hne => absurd hsteps hne
      timed := ?_
      near := ?_
      segments_near := ?_ }
    · unfold Timed
      rw [hsteps]
      exact hsame.last
    · unfold Tracker.openLabels
      rw [hsteps]
      exact .nil
    · intro segment' hmem
      rw [hsame.segments] at hmem
      rcases List.mem_append.1 hmem with hold | hnew
      · exact h.segments_near segment' hold
      · -- the chain of the steps is the chain of their estimates
        rw [List.mem_singleton.1 hnew]
        refine List.isChain_of_isChain_map TrackingEstimate.label (fun _ _ hnear => hnear) ?_
        rw [labels_estimatesOf hestimates]
        exact h.near

theorem Accounts.refuse (h : Accounts spec t₁ done) (hrefuses : Refuses o t₁ t') :
    Accounts spec t' (done ++ [o]) where
  merged := by
    have hreported : t'.reported = t₁.reported := by
      unfold Tracker.reported Tracker.openLabels
      rw [hrefuses.segments, hrefuses.steps, hrefuses.no_steps]
    rcases hrefuses.rejected with ⟨reason, hrejected⟩
    rw [hreported, hrejected, List.map_append, List.map_append]
    exact .right (label o) h.merged
  idle _ := by
    rw [hrefuses.state, hrefuses.covariance]
    exact h.idle hrefuses.no_steps
  named hsteps := absurd hrefuses.steps hsteps
  timed := by
    unfold Timed
    rw [hrefuses.last, hrefuses.steps, h.timed, hrefuses.no_steps]
  near := by
    unfold Tracker.openLabels
    rw [hrefuses.steps]
    exact .nil
  segments_near := hrefuses.segments ▸ h.segments_near

theorem Accounts.append (h : Accounts spec t₁ done) (happends : Appends spec o t₁ t') :
    Accounts spec t' (done ++ [o]) := by
  rcases happends.steps with ⟨step, hlabel, hsteps⟩
  have hopen : t'.openLabels = t₁.openLabels ++ [label o] := by
    unfold Tracker.openLabels
    rw [hsteps, List.map_append, List.map_singleton, hlabel]
  refine {
    merged := ?_
    idle := fun hnone => ?_
    named := fun _ => ?_
    timed := ?_
    near := ?_
    segments_near := happends.segments ▸ h.segments_near }
  · unfold Tracker.reported
    rw [hopen, happends.segments, happends.rejected, ← List.append_assoc, List.map_append]
    exact .left (label o) h.merged
  · rw [hsteps] at hnone
    exact absurd hnone (List.append_ne_nil_of_right_ne_nil _ (List.cons_ne_nil _ _))
  · rw [happends.context]
    exact Option.some_ne_none _
  · unfold Timed
    rw [happends.last, hsteps, List.getLast?_append]
    exact congrArg (fun l : RecordingId × Int => some l.2) hlabel.symm
  · rw [hopen, List.isChain_append]
    refine ⟨h.near, .singleton _, ?_⟩
    intro a ha b hb
    -- the last label is that of the last estimate, whose gap was checked
    cases hb
    have hlast : t₁.previous_accepted_time = some a.2 := by
      rw [h.timed]
      unfold Tracker.openLabels at ha
      rw [List.getLast?_map] at ha
      rcases Option.map_eq_some_iff.1 ha with ⟨last, hmem, rfl⟩
      rw [hmem]
      rfl
    exact happends.near a.2 hlast

/-- One round accounts for its observation. -/
theorem Accounts.observe (h : Accounts spec t done) (hround : observe spec t o = .ok t') :
    Accounts spec t' (done ++ [o]) := by
  rcases observe_ok hround h.named h.timed with ⟨_, t₁, hshut, hrefuses | happends⟩
  · exact (h.shut hshut).refuse hrefuses
  · exact (h.shut hshut).append happends

end Accounts

end ResidualTracker

end LeoFlow
