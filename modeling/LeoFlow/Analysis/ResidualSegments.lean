import LeoFlow.Analysis.ResidualRestarts
import LeoFlow.Contracts.Renderable

/-!
# LeoFlow.Analysis.ResidualSegments — when the segments are those of fresh trackers

`Segmented` says what a report should be: every observation once, each segment under one
context and without long gaps, and past the end of a segment what a fresh tracker reports.
The report is that exactly when no observation meets a context that was left behind
(`NoStaleContext`), unless everything from there on is refused anyway.
-/

namespace LeoFlow

open ResidualFilter

namespace ResidualTracker

open AssociatedTrackingObservation (time label context)

variable (spec : TrackingSpecification)

/-! ## What is claimed -/

/-- A segment has ended between `front` and `back`: the last observation of `front` was refused,
or the first one of `back` closes the segment without being refused. -/
inductive Ends (front back : List AssociatedTrackingObservation) (t : Tracker) : Prop where
  | refused (before : List AssociatedTrackingObservation) (o : AssociatedTrackingObservation) (t₀ : Tracker)
      (split : front = before ++ [o]) (ran : run spec (fresh spec) before = .ok t₀)
      (grown : t.rejected.length = t₀.rejected.length + 1)
  | closed (o : AssociatedTrackingObservation) (after : List AssociatedTrackingObservation) (t' : Tracker)
      (split : back = o :: after) (ran : observe spec t o = .ok t') (kept : t'.rejected = t.rejected)
      (grown : t'.segments.length = t.segments.length + 1)

/-- The number of segments that have begun so far. -/
def begun (t : Tracker) : Nat := t.segments.length + if t.steps = [] then 0 else 1

/-- From `t` on the report is, labels of the start aside, that of a fresh tracker on `back` alone. -/
def RestartsAs (report : TrackingReport) (t : Tracker) (back : List AssociatedTrackingObservation) : Prop :=
  ∃ alone, track spec back = .ok alone ∧
    (report.segments.drop (begun t)).map TrackSegment.unlabelled = alone.segments.map TrackSegment.unlabelled ∧
    report.rejected.drop t.rejected.length = alone.rejected

/-- What a report on the observations should be. -/
structure Segmented (observations : List AssociatedTrackingObservation) (report : TrackingReport) : Prop where
  once : Merges ((report.segments.flatMap TrackSegment.estimates).map TrackingEstimate.label)
    (report.rejected.map RejectedTrackingObservation.label) (observations.map label)
  same_context : ∀ segment ∈ report.segments, ∀ e ∈ segment.estimates,
    ∃ o ∈ observations, label o = e.label ∧ context o = segment.context
  near : ∀ segment ∈ report.segments, segment.estimates.IsChain (Near spec)
  restarts : ∀ front back t, observations = front ++ back → run spec (fresh spec) front = .ok t →
    Ends spec front back t → RestartsAs spec report t back

/-- An associated observation that meets a context with no segment open has that context; or the
change of context is ignored and neither it nor any later observation can begin a segment. -/
def NoStaleContext (observations : List AssociatedTrackingObservation) : Prop :=
  ∀ front o back t c, observations = front ++ o :: back → run spec (fresh spec) front = .ok t →
    t.steps = [] → t.context = some c → associationRejection o spec.val.expected_norad_id = .ok none →
    context o ≠ c → spec.val.segment_on_context_change = true ∧ ∀ x ∈ o :: back, ¬BeginsSegment spec x

/-! ## Runs -/

variable {reason : String}

section Runs

variable {spec} {t t' u : Tracker} {o : AssociatedTrackingObservation}
  {front back observations done : List AssociatedTrackingObservation} {report : TrackingReport}

theorem run_append : run spec t (front ++ back) = run spec t front >>= fun u => run spec u back :=
  List.foldlM_append

theorem run_cons : run spec t (o :: back) = observe spec t o >>= fun u => run spec u back := List.foldlM_cons

theorem run_snoc_ok (h : run spec t front = .ok u) (hround : observe spec u o = .ok t') :
    run spec t (front ++ [o]) = .ok t' := by
  rw [run_append, h]
  show run spec u [o] = .ok t'
  rw [run_cons, hround]
  rfl

theorem observe_of_run_snoc (h : run spec t front = .ok u) (hrun : run spec t (front ++ [o]) = .ok t') :
    observe spec u o = .ok t' := by
  rw [run_append, h] at hrun
  have hlast : run spec u [o] = .ok t' := hrun
  rw [run_cons] at hlast
  rcases bind_ok.1 hlast with ⟨v, hround, hnil⟩
  cases hnil
  exact hround

theorem Accounts.run (h : Accounts spec t done) (hrun : run spec t observations = .ok t') :
    Accounts spec t' (done ++ observations) := by
  induction observations generalizing t done with
  | nil =>
    cases hrun
    rwa [List.append_nil]
  | cons o observations ih =>
    rw [run_cons] at hrun
    rcases bind_ok.1 hrun with ⟨u, hround, hrest⟩
    have := ih (h.observe hround) hrest
    rwa [List.append_assoc] at this

/-- A report is that of the loop and the last `finish`. -/
theorem track_ok (h : track spec observations = .ok report) :
    ∃ t t', run spec (fresh spec) observations = .ok t ∧ finish spec "end-of-input" t = .ok t' ∧
      report.segments = t'.segments ∧ report.rejected = t'.rejected ∧
      ∀ o ∈ observations, Json.Renderable o.val.document.val := by
  rcases bind_ok.1 h with ⟨t, hrun, h1⟩
  rcases bind_ok.1 h1 with ⟨t', hfinish, h2⟩
  rcases bind_ok.1 h2 with ⟨digest, hdigest, h3⟩
  cases h3
  have hvalid : (PyValue.tuple (observations.map fun o => o.val.document.val)).Valid :=
    PyValue.valid_tuple (List.forall_mem_map.2 fun o _ => o.val.document.property)
  have hrenders := (exists_canonicalDigest_iff hvalid).1 ⟨digest, hdigest⟩
  rw [Json.renderable_tuple, List.forall_mem_map] at hrenders
  exact ⟨t, t', hrun, hfinish, rfl, rfl, hrenders⟩

theorem exists_track (hrun : run spec (fresh spec) observations = .ok t)
    (hfinish : finish spec "end-of-input" t = .ok t')
    (hrenders : ∀ o ∈ observations, Json.Renderable o.val.document.val) :
    ∃ alone, track spec observations = .ok alone ∧ alone.segments = t'.segments ∧ alone.rejected = t'.rejected := by
  have hvalid : (PyValue.tuple (observations.map fun o => o.val.document.val)).Valid :=
    PyValue.valid_tuple (List.forall_mem_map.2 fun o _ => o.val.document.property)
  have hrenderable : Json.Renderable (.tuple (observations.map fun o => o.val.document.val)) := by
    rw [Json.renderable_tuple, List.forall_mem_map]
    exact hrenders
  rcases (exists_canonicalDigest_iff hvalid).2 hrenderable with ⟨digest, hdigest⟩
  refine ⟨⟨spec.val.specification_ref, spec.val.expected_norad_id, digest, t'.segments, t'.rejected⟩, ?_, rfl, rfl⟩
  exact bind_ok.2 ⟨t, hrun, bind_ok.2 ⟨t', hfinish, bind_ok.2 ⟨digest, hdigest, rfl⟩⟩⟩

theorem Accounts.finish (h : Accounts spec t done) (hfinish : finish spec reason t = .ok t') :
    Accounts spec t' done ∧ t'.steps = [] := by
  rcases finish_ok hfinish h.named with ⟨hshut, hsteps⟩
  exact ⟨h.shut hshut, hsteps⟩

end Runs

/-! ## One context for each segment -/

/-- Every estimate so far comes from an observation of the context of its segment. -/
structure Contextual (t : Tracker) (done : List AssociatedTrackingObservation) : Prop where
  segments : ∀ segment ∈ t.segments, ∀ e ∈ segment.estimates,
    ∃ o ∈ done, label o = e.label ∧ context o = segment.context
  open_segment : ∀ l ∈ t.openLabels, ∃ o ∈ done, label o = l ∧ t.context = some (context o)

section Contextual

variable {spec} {t t₁ t' : Tracker} {o : AssociatedTrackingObservation}
  {front back observations done : List AssociatedTrackingObservation}

theorem contextual_fresh : Contextual (fresh spec) [] where
  segments _ h := by cases h
  open_segment _ h := by cases h

theorem Contextual.shut (h : Contextual t done) (hshut : Shut spec t t₁) : Contextual t₁ done := by
  cases hshut with
  | same hsame =>
    constructor
    · rw [hsame.segments]
      exact h.segments
    · unfold Tracker.openLabels
      rw [hsame.steps, hsame.context]
      exact h.open_segment
  | closed segment _ hcontext hestimates hsame =>
    constructor
    · intro segment' hmem e he
      rw [hsame.segments] at hmem
      rcases List.mem_append.1 hmem with hold | hnew
      · exact h.segments segment' hold e he
      · rw [List.mem_singleton.1 hnew] at he ⊢
        have hl : e.label ∈ t.openLabels := by
          unfold Tracker.openLabels
          rw [← labels_estimatesOf hestimates]
          exact List.mem_map_of_mem he
        rcases h.open_segment e.label hl with ⟨o, ho, hlabel, hsome⟩
        exact ⟨o, ho, hlabel, Option.some.inj (hsome.symm.trans hcontext)⟩
    · unfold Tracker.openLabels
      rw [hsame.steps]
      intro l hl
      cases hl

theorem Contextual.mono (h : Contextual t done) (o : AssociatedTrackingObservation) : Contextual t (done ++ [o]) where
  segments segment hmem e he := by
    rcases h.segments segment hmem e he with ⟨p, hp, hlabel, hcontext⟩
    exact ⟨p, List.mem_append_left _ hp, hlabel, hcontext⟩
  open_segment l hl := by
    rcases h.open_segment l hl with ⟨p, hp, hlabel, hcontext⟩
    exact ⟨p, List.mem_append_left _ hp, hlabel, hcontext⟩

/-- A round keeps it when a segment begins under the context of its first observation. -/
theorem Contextual.observe (h : Contextual t done) (haccounts : Accounts spec t done)
    (hround : observe spec t o = .ok t') (hsuits : t.steps = [] → t'.steps ≠ [] → Suits t o) :
    Contextual t' (done ++ [o]) := by
  rcases observe_ok hround haccounts.named haccounts.timed with ⟨_, t₁, hshut, hrefuses | happends⟩
  · have h₁ := (h.shut hshut).mono o
    constructor
    · rw [hrefuses.segments]
      exact h₁.segments
    · unfold Tracker.openLabels
      rw [hrefuses.steps]
      intro l hl
      cases hl
  · have h₁ := (h.shut hshut).mono o
    rcases happends.steps with ⟨step, hlabel, hsteps⟩
    -- the context of the segment is that of the observation
    have hcontext : t'.context = some (context o) := by
      rw [happends.context]
      by_cases hopen : t₁.steps = []
      · cases hshut with
        | same hsame =>
          have hsuits' := hsuits (hsame.steps.symm.trans hopen) (by rw [hsteps]; simp)
          rw [hsame.context]
          cases hc : t.context with
          | none => rfl
          | some c => rw [Option.getD_some, hsuits' c hc]
        | closed _ _ _ _ hsame =>
          rw [hsame.context]
          rfl
      · rw [happends.same_context hopen]
        rfl
    constructor
    · rw [happends.segments]
      exact h₁.segments
    · intro l hl
      unfold Tracker.openLabels at hl
      rw [hsteps, List.map_append, List.map_singleton, List.mem_append, List.mem_singleton] at hl
      rcases hl with hold | rfl
      · rcases h₁.open_segment l hold with ⟨p, hp, hplabel, hpcontext⟩
        have hopen : t₁.steps ≠ [] := by
          intro hnone
          rw [hnone] at hold
          cases hold
        exact ⟨p, hp, hplabel, by rw [hcontext, ← happends.same_context hopen, hpcontext]⟩
      · exact ⟨o, List.mem_append_right _ (List.mem_singleton_self o), hlabel.symm, hcontext⟩

/-- An observation that begins a segment is associated. -/
theorem associated_of_steps (hsteps : t.steps = []) (hround : observe spec t o = .ok t') (hopen : t'.steps ≠ []) :
    associationRejection o spec.val.expected_norad_id = .ok none := by
  unfold ResidualTracker.observe at hround
  rcases bind_ok.1 hround with ⟨_, _, h1⟩
  rcases bind_ok.1 h1 with ⟨rejection, hassociated, h2⟩
  cases rejection with
  | none => exact hassociated
  | some reason =>
    rcases reject_ok h2 (fun hne => absurd hsteps hne) with ⟨_, _, hrefuses, _⟩
    exact absurd hrefuses.steps hopen

/-- What passes the association is associated. -/
theorem associated_of_outcome {outcome : FirstOutcome} (h : firstOutcome spec o = .ok outcome)
    (hpast : ∀ reason, outcome ≠ .unassociated reason) :
    associationRejection o spec.val.expected_norad_id = .ok none := by
  rcases bind_ok.1 h with ⟨rejection, hassociated, h1⟩
  cases rejection with
  | none => exact hassociated
  | some reason =>
    cases h1
    exact absurd rfl (hpast reason)

/-- Without stale contexts, a segment begins under the context of its first observation. -/
theorem NoStaleContext.suits (hstale : NoStaleContext spec observations) (hsplit : observations = front ++ o :: back)
    (hrun : run spec (fresh spec) front = .ok t) (haccounts : Accounts spec t front)
    (hround : observe spec t o = .ok t') (hsteps : t.steps = []) (hopen : t'.steps ≠ []) : Suits t o := by
  intro c hc
  by_contra hne
  have hassociated := associated_of_steps hsteps hround hopen
  rcases hstale front o back t c hsplit hrun hsteps hc hassociated (Ne.symm hne) with ⟨hsegment, hnever⟩
  have hidle := haccounts.idle_of_steps hsteps
  rw [hidle.observe fun _ => .inl hsegment] at hround
  rcases bind_ok.1 hround with ⟨_, _, h1⟩
  rcases bind_ok.1 h1 with ⟨outcome, houtcome, h2⟩
  cases h2
  cases outcome with
  | unassociated reason => exact hopen hsteps
  | outside => exact hopen hsteps
  | begins step state covariance => exact hnever o List.mem_cons_self ⟨step, state, covariance, houtcome⟩

theorem Contextual.run (hstale : NoStaleContext spec observations) (hsplit : observations = front ++ back)
    (hfront : run spec (fresh spec) front = .ok t) (haccounts : Accounts spec t front) (h : Contextual t front)
    (hback : run spec t back = .ok t') : Contextual t' observations := by
  induction back generalizing front t with
  | nil =>
    cases hback
    rwa [hsplit, List.append_nil]
  | cons o back ih =>
    rw [run_cons] at hback
    rcases bind_ok.1 hback with ⟨u, hround, hrest⟩
    refine ih (by rw [hsplit, List.append_assoc]; rfl) (run_snoc_ok hfront hround) (haccounts.observe hround) ?_ hrest
    exact h.observe haccounts hround fun hsteps hopen =>
      hstale.suits hsplit hfront haccounts hround hsteps hopen

end Contextual

/-! ## Going on alone -/

/-- How far `u` may stand from `t` with `rest` still to come: no segment is open, and `u` holds no
context, or contexts no longer matter. -/
inductive Apart (t u : Tracker) (rest : List AssociatedTrackingObservation) : Prop where
  | equal (context : u.context = t.context)
  | cleared (steps : t.steps = []) (none : u.context = none)
  | refused (steps : t.steps = []) (ignored : spec.val.segment_on_context_change = true)
      (never : ∀ x ∈ rest, ¬BeginsSegment spec x)

section Alone

variable {spec} {segments : List TrackSegment} {rejected : List RejectedTrackingObservation} {t t' u : Tracker}
  {o : AssociatedTrackingObservation} {front back observations : List AssociatedTrackingObservation}

theorem Follows.idle (h : Follows segments rejected t u) (ht : Idle spec t) : Idle spec u :=
  ⟨h.steps.trans ht.steps, h.state.trans ht.state, h.covariance.trans ht.covariance, h.last.trans ht.last⟩

/-- With no segment open, both trackers treat the observation alike, and stay close. -/
theorem Follows.observe_idle (hstale : NoStaleContext spec observations)
    (hsplit : observations = front ++ o :: back) (hfront : run spec (fresh spec) front = .ok t)
    (hidle : Idle spec t) (h : Follows segments rejected t u) (hapart : Apart spec t u (o :: back))
    (hround : observe spec t o = .ok t') :
    ∃ u', observe spec u o = .ok u' ∧ Follows segments rejected t' u' ∧ Apart spec t' u' back := by
  by_cases hrefused : spec.val.segment_on_context_change = true ∧ ∀ x ∈ o :: back, ¬BeginsSegment spec x
  · -- contexts are ignored, and nothing begins a segment any more
    rcases hidle.observe_both (h.idle hidle) h (fun _ => .inl hrefused.1) (fun _ => .inl hrefused.1) hround with
      ⟨outcome, houtcome, rfl, hu, hfollows⟩
    refine ⟨_, hu, hfollows, .refused ?_ hrefused.1 fun x hx => hrefused.2 x (List.mem_cons_of_mem _ hx)⟩
    cases outcome with
    | unassociated reason => exact hidle.steps
    | outside => exact hidle.steps
    | begins step state covariance =>
      exact absurd ⟨step, state, covariance, houtcome⟩ (hrefused.2 o List.mem_cons_self)
  · -- so an associated observation has the context that `t` holds
    have hsuits : associationRejection o spec.val.expected_norad_id = .ok none → Suits t o := by
      intro hassociated c hc
      by_contra hne
      exact hrefused (hstale front o back t c hsplit hfront hidle.steps hc hassociated (Ne.symm hne))
    cases hapart with
    | refused _ hignored hnever => exact absurd ⟨hignored, hnever⟩ hrefused
    | equal hequal =>
      rcases Twins.observe ⟨h, hequal⟩ t' hround with ⟨u', hu, htwins⟩
      exact ⟨u', hu, htwins.toFollows, .equal htwins.context⟩
    | cleared _ hnone =>
      have husuits : Suits u o := by
        intro c hc
        cases hnone.symm.trans hc
      rcases hidle.observe_both (h.idle hidle) h (fun ha => .inr (hsuits ha)) (fun _ => .inr husuits) hround with
        ⟨outcome, houtcome, rfl, hu, hfollows⟩
      refine ⟨_, hu, hfollows, ?_⟩
      -- past the gate both hold the context of the observation
      have hsame : associationRejection o spec.val.expected_norad_id = .ok none →
          t.context.getD (context o) = u.context.getD (context o) := by
        intro hassociated
        rw [hnone]
        cases hc : t.context with
        | none => rfl
        | some c => exact hsuits hassociated c hc
      cases outcome with
      | unassociated reason => exact .cleared hidle.steps hnone
      | outside => exact .equal (congrArg some (hsame (associated_of_outcome houtcome (by simp))).symm)
      | begins step state covariance =>
        exact .equal (congrArg some (hsame (associated_of_outcome houtcome (by simp))).symm)

/-- With or without an open segment, the next round keeps the trackers close. -/
theorem Follows.observe (hstale : NoStaleContext spec observations) (hsplit : observations = front ++ o :: back)
    (hfront : run spec (fresh spec) front = .ok t) (haccounts : Accounts spec t front)
    (h : Follows segments rejected t u) (hapart : Apart spec t u (o :: back)) (hround : observe spec t o = .ok t') :
    ∃ u', observe spec u o = .ok u' ∧ Follows segments rejected t' u' ∧ Apart spec t' u' back := by
  by_cases hsteps : t.steps = []
  · exact h.observe_idle hstale hsplit hfront (haccounts.idle_of_steps hsteps) hapart hround
  · cases hapart with
    | equal hequal =>
      rcases Twins.observe ⟨h, hequal⟩ t' hround with ⟨u', hu, htwins⟩
      exact ⟨u', hu, htwins.toFollows, .equal htwins.context⟩
    | cleared hnone => exact absurd hnone hsteps
    | refused hnone => exact absurd hnone hsteps

theorem Follows.run (hstale : NoStaleContext spec observations) (hsplit : observations = front ++ back)
    (hfront : run spec (fresh spec) front = .ok t) (haccounts : Accounts spec t front)
    (h : Follows segments rejected t u) (hapart : Apart spec t u back) (hback : run spec t back = .ok t') :
    ∃ u', ResidualTracker.run spec u back = .ok u' ∧ Follows segments rejected t' u' ∧ Apart spec t' u' [] := by
  induction back generalizing front t u with
  | nil =>
    cases hback
    exact ⟨u, rfl, h, hapart⟩
  | cons o back ih =>
    rw [run_cons] at hback
    rcases bind_ok.1 hback with ⟨t₁, hround, hrest⟩
    rcases h.observe hstale hsplit hfront haccounts hapart hround with ⟨u₁, hu₁, h₁, hapart₁⟩
    rcases ih (by rw [hsplit, List.append_assoc]; rfl) (run_snoc_ok hfront hround) (haccounts.observe hround) h₁
      hapart₁ hrest with ⟨u', hu', h', hapart'⟩
    exact ⟨u', by rw [run_cons, hu₁]; exact hu', h', hapart'⟩

/-- The last `finish` of both. -/
theorem Follows.finish (h : Follows segments rejected t u) (hapart : Apart spec t u [])
    (hfinish : finish spec reason t = .ok t') :
    ∃ u', ResidualTracker.finish spec reason u = .ok u' ∧ Follows segments rejected t' u' := by
  by_cases hsteps : t.steps = []
  · rw [finish_of_steps hsteps] at hfinish
    cases hfinish
    exact ⟨u, finish_of_steps (h.steps.trans hsteps), h⟩
  · cases hapart with
    | equal hequal =>
      rcases Twins.finish ⟨h, hequal⟩ reason t' hfinish with ⟨u', hu, htwins⟩
      exact ⟨u', hu, htwins.toFollows⟩
    | cleared hnone => exact absurd hnone hsteps
    | refused hnone => exact absurd hnone hsteps

end Alone

/-! ## The end of a segment -/

section Ends

variable {spec} {t t' : Tracker} {o : AssociatedTrackingObservation} {candidate : AssociationCandidate}
  {front back observations : List AssociatedTrackingObservation} {report : TrackingReport}

/-- `finish` does nothing or closes the open segment. -/
theorem finish_cases (h : finish spec reason t = .ok t') :
    t' = t ∨ t.steps ≠ [] ∧ ∃ segment, t' = t.closed spec segment := by
  unfold finish at h
  split at h
  · cases h
    exact .inl rfl
  · split at h
    · cases h
      exact .inl rfl
    · rename_i hsteps
      rcases bind_ok.1 h with ⟨_, _, h1⟩
      rcases bind_ok.1 h1 with ⟨_, _, h2⟩
      cases h2
      exact .inr ⟨hsteps, _, rfl⟩

theorem reject_rejected (h : reject spec o reason t = .ok t') :
    t'.rejected = t.rejected ++ [refusal o reason] := by
  rcases bind_ok.1 h with ⟨t₁, hfinish, h1⟩
  cases h1
  rcases finish_cases hfinish with rfl | ⟨_, segment, rfl⟩
  · rfl
  · rfl

theorem reject_ne (h : reject spec o reason t = .ok t') : t'.rejected ≠ t.rejected := by
  rw [reject_rejected h]
  simp

/-- Behind the gate nothing is closed. -/
theorem gate_segments (h : gate spec o candidate t = .ok t') (hkept : t'.rejected = t.rejected) :
    t'.segments = t.segments := by
  unfold gate at h
  rcases bind_ok.1 h with ⟨dt_s, _, h1⟩
  rcases bind_ok.1 h1 with ⟨i, _, h2⟩
  split at h2
  · exact (reject_ne h2 hkept).elim
  · rcases bind_ok.1 h2 with ⟨_, _, h3⟩
    cases h3
    rfl

/-- A change of context that is not refused leads to the gate with no segment open. -/
theorem checkContext_closing (h : checkContext spec o candidate t = .ok t') (hkept : t'.rejected = t.rejected)
    (hgrown : t'.segments ≠ t.segments) :
    t.steps ≠ [] ∧ ∃ segment,
      gate spec o candidate { t.closed spec segment with start_reason := "after-context-change" } = .ok t' := by
  unfold checkContext at h
  split at h
  · split at h
    · rcases bind_ok.1 h with ⟨t₁, hfinish, hgate⟩
      rcases finish_cases hfinish with rfl | ⟨hsteps, segment, rfl⟩
      · exact absurd (gate_segments hgate hkept) hgrown
      · exact ⟨hsteps, segment, hgate⟩
    · exact (reject_ne h hkept).elim
  · exact absurd (gate_segments h hkept) hgrown

/-- The tracker after a segment and a fresh one are twins. -/
theorem twins_closed {segment : TrackSegment} {input : Option Int} {reason' : String} :
    Twins (t.segments ++ [segment]) t.rejected
      { t.closed spec segment with previous_input_time := input, start_reason := reason }
      { fresh spec with previous_input_time := input, start_reason := reason' } where
  input := .inl rfl
  segments := (List.append_nil _).symm
  rejected := (List.append_nil _).symm
  steps := rfl
  state := rfl
  covariance := rfl
  last := rfl
  context := rfl

/-- An observation that closes the segment without being refused is observed as by a fresh tracker. -/
theorem observe_closing (hround : observe spec t o = .ok t') (hkept : t'.rejected = t.rejected)
    (hgrown : t'.segments ≠ t.segments) :
    t.steps ≠ [] ∧ ∃ segment u', observe spec (fresh spec) o = .ok u' ∧
      Twins (t.segments ++ [segment]) t.rejected t' u' := by
  unfold observe at hround
  rcases bind_ok.1 hround with ⟨_, _, h1⟩
  rcases bind_ok.1 h1 with ⟨rejection, hassociated, h2⟩
  cases rejection with
  | some reason => exact (reject_ne h2 hkept).elim
  | none =>
    rcases bind_ok.1 h2 with ⟨candidate, hcandidate, h3⟩
    rcases bind_ok.1 h3 with ⟨gap, _, h4⟩
    -- a fresh tracker comes to the gate at once
    have hfresh : observe spec (fresh spec) o =
        gate spec o candidate { fresh spec with previous_input_time := some (time o) } := by
      unfold observe
      rw [hassociated]
      show (raiseIf _ _ >>= fun _ => selectedCandidate o.val.decision >>= _) = _
      rw [hcandidate]
      rfl
    -- and so does the tracker whose segment was closed
    have hgate : t.steps ≠ [] ∧ ∃ segment reason, gate spec o candidate
        { t.closed spec segment with previous_input_time := some (time o), start_reason := reason } = .ok t' := by
      split at h4
      · split at h4
        · rcases bind_ok.1 h4 with ⟨t₁, hfinish, hcheck⟩
          rcases finish_cases hfinish with rfl | ⟨hsteps, segment, rfl⟩
          · rcases checkContext_closing hcheck hkept hgrown with ⟨hsteps, segment, hgate⟩
            exact ⟨hsteps, segment, _, hgate⟩
          · exact ⟨hsteps, segment, _, hcheck⟩
        · exact (reject_ne h4 hkept).elim
      · rcases checkContext_closing h4 hkept hgrown with ⟨hsteps, segment, hgate⟩
        exact ⟨hsteps, segment, _, hgate⟩
    rcases hgate with ⟨hsteps, segment, reason, hgate⟩
    have htwins : Twins (t.segments ++ [segment]) t.rejected
        { t.closed spec segment with previous_input_time := some (time o), start_reason := reason }
        { fresh spec with previous_input_time := some (time o), start_reason := "first-accepted-observation" } :=
      twins_closed
    rw [hfresh]
    rcases htwins.gate t' hgate with ⟨u', hu, htwins⟩
    exact ⟨hsteps, segment, u', hu, htwins⟩

/-- A round whose observation was refused leaves no segment open. -/
theorem steps_of_refused {done : List AssociatedTrackingObservation} (haccounts : Accounts spec t done)
    (hround : observe spec t o = .ok t') (hgrown : t'.rejected.length = t.rejected.length + 1) : t'.steps = [] := by
  rcases observe_ok hround haccounts.named haccounts.timed with ⟨_, t₁, hshut, hrefuses | happends⟩
  · exact hrefuses.steps
  · rw [happends.rejected, hshut.rejected] at hgrown
    omega

/-- Without stale contexts, the tracker goes on like a fresh one where a segment has ended. -/
theorem NoStaleContext.restarts (hstale : NoStaleContext spec observations)
    (h : track spec observations = .ok report) (hsplit : observations = front ++ back)
    (hfront : run spec (fresh spec) front = .ok t) (hends : Ends spec front back t) :
    RestartsAs spec report t back := by
  rcases track_ok h with ⟨last, final, hrun, hfinish, hsegments, hrejected, hrenders⟩
  have haccounts : Accounts spec t front := accounts_fresh.run hfront
  have hback : run spec t back = .ok last := by
    rw [hsplit, run_append, hfront] at hrun
    exact hrun
  -- what a fresh tracker comes to, and how the two logs relate
  have halone : ∃ segments alone aloneFinal, segments.length = begun t ∧
      run spec (fresh spec) back = .ok alone ∧ finish spec "end-of-input" alone = .ok aloneFinal ∧
      Follows segments t.rejected final aloneFinal := by
    cases hends with
    | refused before o t₀ hlast hbefore hgrown =>
      subst hlast
      have hround := observe_of_run_snoc hbefore hfront
      have hsteps := steps_of_refused (accounts_fresh.run hbefore) hround hgrown
      have hidle := haccounts.idle_of_steps hsteps
      have hfollows : Follows t.segments t.rejected t (fresh spec) :=
        ⟨.inr rfl, (List.append_nil _).symm, (List.append_nil _).symm, hidle.steps.symm, hidle.state.symm,
          hidle.covariance.symm, hidle.last.symm⟩
      rcases hfollows.run hstale hsplit (run_snoc_ok hbefore hround) haccounts (.cleared hsteps rfl) hback with
        ⟨alone, halone, hlater, hapart⟩
      rcases hlater.finish hapart hfinish with ⟨aloneFinal, haloneFinal, hfinal⟩
      refine ⟨t.segments, alone, aloneFinal, ?_, halone, haloneFinal, hfinal⟩
      rw [begun, if_pos hsteps]
      rfl
    | closed o after t' hfirst hround hkept hgrown =>
      subst hfirst
      rw [run_cons, hround] at hback
      rcases observe_closing hround hkept (fun heq => by rw [heq] at hgrown; omega) with
        ⟨hsteps, segment, u', hu', htwins⟩
      have hnext : run spec (fresh spec) (front ++ [o]) = .ok t' := run_snoc_ok hfront hround
      rcases htwins.toFollows.run hstale (by rw [hsplit, List.append_assoc]; rfl) hnext (haccounts.observe hround)
        (.equal htwins.context) hback with ⟨alone, halone, hlater, hapart⟩
      rcases hlater.finish hapart hfinish with ⟨aloneFinal, haloneFinal, hfinal⟩
      refine ⟨t.segments ++ [segment], alone, aloneFinal, ?_, ?_, haloneFinal, hfinal⟩
      · rw [begun, if_neg hsteps, List.length_append]
        rfl
      · rw [run_cons, hu']
        exact halone
  rcases halone with ⟨segments, alone, aloneFinal, hbegun, halone, haloneFinish, hfollows⟩
  have hrendersBack : ∀ o ∈ back, Json.Renderable o.val.document.val := by
    intro o ho
    exact hrenders o (by rw [hsplit]; exact List.mem_append_right _ ho)
  rcases exists_track halone haloneFinish hrendersBack with ⟨r, hr, hrsegments, hrrejected⟩
  refine ⟨r, hr, ?_, ?_⟩
  · rw [hsegments, hrsegments, List.map_drop, hfollows.segments, ← hbegun, List.drop_left' (List.length_map _)]
  · rw [hrejected, hrrejected, hfollows.rejected, List.drop_left]

end Ends

end ResidualTracker

end LeoFlow
