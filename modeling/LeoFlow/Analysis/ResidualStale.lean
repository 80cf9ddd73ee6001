import LeoFlow.Analysis.ResidualSegments
import LeoFlow.Contracts.Samples

/-!
# LeoFlow.Analysis.ResidualStale — a context left behind shows in the report

Where a context was left behind, the report differs from that of a fresh tracker: the
observation is refused for a change of context, or the next segment goes by the old
context. So the reports that are as they should be are those without a stale context.
-/

namespace LeoFlow

open ResidualFilter

namespace ResidualTracker

open AssociatedTrackingObservation (time label context)

variable (spec : TrackingSpecification)

/-! ## What later rounds add -/

variable {reason : String}

section Later

variable {spec} {t t' : Tracker} {o : AssociatedTrackingObservation}
  {observations done : List AssociatedTrackingObservation}

theorem observe_rejected (haccounts : Accounts spec t done) (hround : observe spec t o = .ok t') :
    t'.rejected = t.rejected ∨ ∃ reason, t'.rejected = t.rejected ++ [refusal o reason] := by
  rcases observe_ok hround haccounts.named haccounts.timed with ⟨_, t₁, hshut, hrefuses | happends⟩
  · right
    rw [← hshut.rejected]
    exact hrefuses.rejected
  · left
    exact happends.rejected.trans hshut.rejected

/-- Later rejections come behind the earlier ones, and are about later observations. -/
theorem run_rejected (haccounts : Accounts spec t done) (hrun : run spec t observations = .ok t') :
    ∃ more, t'.rejected = t.rejected ++ more ∧
      ∀ r ∈ more, ∃ x ∈ observations, RejectedTrackingObservation.label r = label x := by
  induction observations generalizing t done with
  | nil =>
    cases hrun
    exact ⟨[], (List.append_nil _).symm, fun r hr => absurd hr List.not_mem_nil⟩
  | cons o observations ih =>
    rw [run_cons] at hrun
    rcases bind_ok.1 hrun with ⟨u, hround, hrest⟩
    rcases ih (haccounts.observe hround) hrest with ⟨more, hmore, hlater⟩
    have hlater' : ∀ r ∈ more, ∃ x ∈ o :: observations, RejectedTrackingObservation.label r = label x := by
      intro r hr
      rcases hlater r hr with ⟨x, hx, hlabel⟩
      exact ⟨x, List.mem_cons_of_mem _ hx, hlabel⟩
    rcases observe_rejected haccounts hround with hsame | ⟨reason, hone⟩
    · exact ⟨more, by rw [hmore, hsame], hlater'⟩
    · refine ⟨refusal o reason :: more, by rw [hmore, hone, List.append_assoc]; rfl, ?_⟩
      intro r hr
      rcases List.mem_cons.1 hr with rfl | hr
      · exact ⟨o, List.mem_cons_self, rfl⟩
      · exact hlater' r hr

theorem finish_rejected (h : finish spec reason t = .ok t') : t'.rejected = t.rejected := by
  rcases finish_cases h with rfl | ⟨_, _, rfl⟩
  · rfl
  · rfl

/-- A context that is left behind refuses an observation of another one, unless that starts a segment. -/
theorem Idle.observe_refuses (h : Idle spec t) (hsegment : spec.val.segment_on_context_change ≠ true)
    (hassociated : associationRejection o spec.val.expected_norad_id = .ok none) (hunsuited : ¬Suits t o)
    (hround : ResidualTracker.observe spec t o = .ok t') :
    t'.rejected = t.rejected ++ [refusal o "context-change"] := by
  unfold ResidualTracker.observe at hround
  rcases bind_ok.1 hround with ⟨_, _, h1⟩
  rcases bind_ok.1 h1 with ⟨rejection, hrejection, h2⟩
  cases hassociated.symm.trans hrejection
  rcases bind_ok.1 h2 with ⟨candidate, _, h3⟩
  rcases bind_ok.1 h3 with ⟨gap, hgap, h4⟩
  -- without an open segment there is no gap to exceed
  have hwithin : exceedsGap spec t.previous_accepted_time (time o) = .ok false := by
    rw [h.last]
    rfl
  cases hwithin.symm.trans hgap
  have hcheck : checkContext spec o candidate { t with previous_input_time := some (time o) } = .ok t' := h4
  unfold checkContext at hcheck
  have hchanged : t.context ≠ none ∧ t.context ≠ some (context o) := not_not.1 (mt suits_iff.2 hunsuited)
  rw [if_pos hchanged, if_neg hsegment] at hcheck
  have hrejected := reject_rejected hcheck
  exact hrejected

end Later

/-! ## The context of the next segment -/

/-- The next segment after `base` goes by the context `c`, whether it is open or finished. -/
inductive Under (c : TrackingContext) (base : List TrackSegment) (t : Tracker) : Prop where
  | opened (steps : t.steps ≠ []) (context : t.context = some c) (segments : t.segments = base)
  | finished (segment : TrackSegment) (more : List TrackSegment) (context : segment.context = c)
      (segments : t.segments = base ++ segment :: more)

section Under

variable {spec} {c : TrackingContext} {base : List TrackSegment} {t t₁ t' : Tracker}
  {o : AssociatedTrackingObservation} {observations done : List AssociatedTrackingObservation}

theorem Under.shut (h : Under c base t) (hshut : Shut spec t t₁) : Under c base t₁ := by
  cases hshut with
  | same hsame =>
    cases h with
    | opened hsteps hcontext hsegments =>
      exact .opened (by rwa [hsame.steps]) (hsame.context.trans hcontext) (hsame.segments.trans hsegments)
    | finished segment more hcontext hsegments =>
      exact .finished segment more hcontext (hsame.segments.trans hsegments)
  | closed segment hopen hsome _ hsame =>
    have hgrown : t₁.segments = t.segments ++ [segment] := hsame.segments
    cases h with
    | opened _ hcontext hsegments =>
      refine .finished segment [] ?_ (by rw [hgrown, hsegments])
      exact Option.some.inj (hsome.symm.trans hcontext)
    | finished first more hcontext hsegments =>
      refine .finished first (more ++ [segment]) hcontext ?_
      rw [hgrown, hsegments, List.append_assoc]
      rfl

theorem Under.observe (h : Under c base t) (haccounts : Accounts spec t done)
    (hround : observe spec t o = .ok t') : Under c base t' := by
  rcases observe_ok hround haccounts.named haccounts.timed with ⟨_, t₁, hshut, hrefuses | happends⟩
  · cases h.shut hshut with
    | opened hsteps => exact absurd hrefuses.no_steps hsteps
    | finished segment more hcontext hsegments =>
      exact .finished segment more hcontext (hrefuses.segments.trans hsegments)
  · cases h.shut hshut with
    | opened hsteps hcontext hsegments =>
      rcases happends.steps with ⟨step, _, hgrown⟩
      refine .opened ?_ ?_ (happends.segments.trans hsegments)
      · rw [hgrown]
        exact List.append_ne_nil_of_right_ne_nil _ (List.cons_ne_nil _ _)
      · rw [happends.context, hcontext]
        rfl
    | finished segment more hcontext hsegments =>
      exact .finished segment more hcontext (happends.segments.trans hsegments)

theorem Under.run (h : Under c base t) (haccounts : Accounts spec t done)
    (hrun : run spec t observations = .ok t') : Under c base t' := by
  induction observations generalizing t done with
  | nil =>
    cases hrun
    exact h
  | cons o observations ih =>
    rw [run_cons] at hrun
    rcases bind_ok.1 hrun with ⟨u, hround, hrest⟩
    exact ih (h.observe haccounts hround) (haccounts.observe hround) hrest

/-- The last `finish` leaves nothing open. -/
theorem Under.finish (h : Under c base t) (haccounts : Accounts spec t done)
    (hfinish : finish spec reason t = .ok t') :
    ∃ segment more, segment.context = c ∧ t'.segments = base ++ segment :: more := by
  rcases finish_ok hfinish haccounts.named with ⟨hshut, hsteps⟩
  cases h.shut hshut with
  | opened hopen => exact absurd hsteps hopen
  | finished segment more hcontext hsegments => exact ⟨segment, more, hcontext, hsegments⟩

theorem associated_not_unassociated (hassociated : associationRejection o spec.val.expected_norad_id = .ok none) :
    firstOutcome spec o ≠ .ok (.unassociated reason) := by
  intro houtcome
  rcases bind_ok.1 houtcome with ⟨rejection, hrejection, h1⟩
  cases hassociated.symm.trans hrejection
  rcases bind_ok.1 h1 with ⟨candidate, _, h2⟩
  rcases bind_ok.1 h2 with ⟨i, _, h3⟩
  split at h3
  · cases h3
  · rcases bind_ok.1 h3 with ⟨_, _, h4⟩
    cases h4

/-- With no segment open, the next segment goes by the context that is there, else by that of the
first associated observation; contexts themselves are ignored. -/
theorem Idle.next_segment {u' : Tracker} (h : Idle spec t) (haccounts : Accounts spec t done)
    (hsegment : spec.val.segment_on_context_change = true)
    (hcontext : t.context = some c ∨ t.context = none ∧ ∃ o rest, observations = o :: rest ∧ associationRejection o spec.val.expected_norad_id = .ok none ∧ context o = c)
    (hbegins : ∃ x ∈ observations, BeginsSegment spec x) (hrun : ResidualTracker.run spec t observations = .ok t')
    (hfinish : ResidualTracker.finish spec reason t' = .ok u') :
    ∃ segment more, segment.context = c ∧ u'.segments = t.segments ++ segment :: more := by
  induction observations generalizing t done with
  | nil =>
    rcases hbegins with ⟨x, hx, _⟩
    cases hx
  | cons o observations ih =>
    rw [run_cons] at hrun
    rcases bind_ok.1 hrun with ⟨u, hround, hrest⟩
    have haccounts' := haccounts.observe hround
    rw [h.observe fun _ => .inl hsegment] at hround
    rcases bind_ok.1 hround with ⟨_, _, h1⟩
    rcases bind_ok.1 h1 with ⟨outcome, houtcome, h2⟩
    cases h2
    have hnow : associationRejection o spec.val.expected_norad_id = .ok none → t.context.getD (context o) = c := by
      intro _
      rcases hcontext with hsome | ⟨hnone, _, _, heq, _, hc⟩
      · rw [hsome]
        rfl
      · cases heq
        rw [hnone]
        exact hc
    -- when this observation begins no segment, a later one does
    have hlater : (∀ step state covariance, outcome ≠ .begins step state covariance) →
        ∃ x ∈ observations, BeginsSegment spec x := by
      intro hnot
      rcases hbegins with ⟨x, hx, step, state, covariance, hfirst⟩
      rcases List.mem_cons.1 hx with rfl | hx
      · cases houtcome.symm.trans hfirst
        exact absurd rfl (hnot step state covariance)
      · exact ⟨x, hx, step, state, covariance, hfirst⟩
    cases outcome with
    | unassociated reason =>
      have hsome : t.context = some c := by
        rcases hcontext with hsome | ⟨_, _, _, heq, hassociated, _⟩
        · exact hsome
        · cases heq
          exact (associated_not_unassociated hassociated houtcome).elim
      have hidle : Idle spec (afterFirst t o (.unassociated reason)) := ⟨h.steps, h.state, h.covariance, h.last⟩
      have hnext := ih hidle haccounts' (.inl hsome) (hlater (by simp)) hrest
      exact hnext
    | outside =>
      have hassociated := associated_of_outcome houtcome (by simp)
      have hidle : Idle spec (afterFirst t o .outside) := ⟨h.steps, h.state, h.covariance, h.last⟩
      have hnext := ih hidle haccounts' (.inl (congrArg some (hnow hassociated))) (hlater (by simp)) hrest
      exact hnext
    | begins step state covariance =>
      have hassociated := associated_of_outcome houtcome (by simp)
      have hopened : Under c t.segments (afterFirst t o (.begins step state covariance)) :=
        .opened (List.cons_ne_nil _ _) (congrArg some (hnow hassociated)) rfl
      exact (hopened.run haccounts' hrest).finish (haccounts'.run hrest) hfinish

end Under

/-! ## The exact condition -/

section Exact

variable {spec} {t : Tracker} {observations front back : List AssociatedTrackingObservation}
  {o : AssociatedTrackingObservation} {c : TrackingContext} {report alone : TrackingReport}

/-- With no segment open but a context there, the last observation was refused. -/
theorem ends_of_context (hfront : run spec (fresh spec) front = .ok t) (hsteps : t.steps = [])
    (hcontext : t.context = some c) : Ends spec front back t := by
  rcases List.eq_nil_or_concat front with rfl | ⟨before, p, rfl⟩
  · cases hfront
    cases hcontext
  · rw [List.concat_eq_append] at *
    rw [run_append] at hfront
    rcases bind_ok.1 hfront with ⟨t₀, hbefore, _⟩
    rw [← run_append] at hfront
    have haccounts := accounts_fresh.run hbefore
    have hround := observe_of_run_snoc hbefore hfront
    rcases observe_ok hround haccounts.named haccounts.timed with ⟨_, t₁, hshut, hrefuses | happends⟩
    · rcases hrefuses.rejected with ⟨reason, hrejected⟩
      refine .refused before p t₀ rfl hbefore ?_
      rw [hrejected, hshut.rejected, List.length_append]
      rfl
    · rcases happends.steps with ⟨step, _, hgrown⟩
      rw [hgrown] at hsteps
      exact absurd hsteps (List.append_ne_nil_of_right_ne_nil _ (List.cons_ne_nil _ _))

/-- Where the fresh tracker and this one part: at a rejection for a change of context. -/
theorem alone_not_refused (hordered : ∀ x ∈ back, time o < time x)
    (hassociated : associationRejection o spec.val.expected_norad_id = .ok none)
    (halone : track spec (o :: back) = .ok alone) {more : List RejectedTrackingObservation} :
    alone.rejected ≠ refusal o "context-change" :: more := by
  intro hrejected
  rcases track_ok halone with ⟨v, v', hrun, hfinish, _, hlog, _⟩
  rw [hlog, finish_rejected hfinish] at hrejected
  rw [run_cons] at hrun
  rcases bind_ok.1 hrun with ⟨u, hround, hrest⟩
  rcases run_rejected (accounts_fresh.observe hround) hrest with ⟨later, hlater, hlabels⟩
  rw [idle_fresh.observe fun _ => .inr fun c hc => by cases hc] at hround
  rcases bind_ok.1 hround with ⟨_, _, h1⟩
  rcases bind_ok.1 h1 with ⟨outcome, houtcome, h2⟩
  cases h2
  rw [hlater] at hrejected
  cases outcome with
  | unassociated reason => exact (associated_not_unassociated hassociated houtcome).elim
  | outside =>
    -- the gate refuses it, for another reason
    have hhead : refusal o "innovation-gate" = refusal o "context-change" := (List.cons.inj hrejected).1
    have hreason : "innovation-gate" = "context-change" := congrArg RejectedTrackingObservation.reason_code hhead
    exact absurd hreason (by decide)
  | begins step state covariance =>
    -- nothing is refused yet, and later rejections are about later observations
    have hmem : refusal o "context-change" ∈ later := by
      have hall : later = refusal o "context-change" :: more := hrejected
      rw [hall]
      exact List.mem_cons_self
    rcases hlabels _ hmem with ⟨x, hx, hlabel⟩
    have hsame : time o = time x := congrArg Prod.snd hlabel
    have := hordered x hx
    omega

/-- A report that is as it should be met no stale context. -/
theorem Segmented.noStaleContext (hordered : observations.Pairwise fun a b => time a < time b)
    (h : track spec observations = .ok report) (hsegmented : Segmented spec observations report) :
    NoStaleContext spec observations := by
  intro front o back t c hsplit hfront hsteps hcontext hassociated hne
  have hends : Ends spec front (o :: back) t := ends_of_context hfront hsteps hcontext
  rcases hsegmented.restarts front (o :: back) t hsplit hfront hends with ⟨alone, halone, hsegments, hrejected⟩
  rcases track_ok h with ⟨last, final, hrun, hfinish, hfinalSegments, hfinalRejected, _⟩
  have haccounts : Accounts spec t front := accounts_fresh.run hfront
  have hidle := haccounts.idle_of_steps hsteps
  rw [hsplit, run_append, hfront] at hrun
  have hback : run spec t (o :: back) = .ok last := hrun
  by_cases hsegment : spec.val.segment_on_context_change = true
  · refine ⟨hsegment, fun x hx hbegins => hne ?_⟩
    rcases track_ok halone with ⟨v, v', hv, hvfinish, hvSegments, _, _⟩
    -- the next segment goes by `c` here, and by the context of `o` there
    rcases hidle.next_segment haccounts hsegment (.inl hcontext) ⟨x, hx, hbegins⟩ hback hfinish with
      ⟨segment, more, hc, hhere⟩
    rcases idle_fresh.next_segment accounts_fresh hsegment (.inr ⟨rfl, o, back, rfl, hassociated, rfl⟩)
      ⟨x, hx, hbegins⟩ hv hvfinish with ⟨segment', more', hc', hthere⟩
    have hbegun : begun t = t.segments.length := by
      rw [begun, if_pos hsteps]
      rfl
    rw [hfinalSegments, hvSegments, hhere, hthere, hbegun, List.drop_left] at hsegments
    have hsame : segment.unlabelled = segment'.unlabelled := (List.cons.inj hsegments).1
    have hcontexts : segment.unlabelled.context = segment'.unlabelled.context := congrArg TrackSegment.context hsame
    exact hc'.symm.trans (hcontexts.symm.trans hc)
  · exfalso
    have hunsuited : ¬Suits t o := fun hsuits => hne (hsuits c hcontext).symm
    rw [run_cons] at hback
    rcases bind_ok.1 hback with ⟨u, hround, hrest⟩
    rcases run_rejected (haccounts.observe hround) hrest with ⟨more, hmore, _⟩
    rw [hidle.observe_refuses hsegment hassociated hunsuited hround] at hmore
    have halone' : alone.rejected = refusal o "context-change" :: more := by
      rw [← hrejected, hfinalRejected, finish_rejected hfinish, hmore, List.append_assoc, List.drop_left]
      rfl
    rw [hsplit, List.pairwise_append] at hordered
    exact alone_not_refused (List.pairwise_cons.1 hordered.2.1).1 hassociated halone halone'

end Exact

/-! ## A context left behind -/

section Example

/-- A digest to name things with. -/
def someDigest : Digest := Sample.zeros

/-- An experiment with unit variances and the choices a specification has by default. -/
def unitSpecification : TrackingSpecification where
  val := {
    specification_ref := ⟨str "unit", someDigest, none, by decide⟩
    expected_norad_id := 25544
    initial_state := (Num.zero, Num.zero)
    initial_covariance := ((Num.one, Num.zero), (Num.zero, Num.one))
    process_noise_hz2_s3 := Num.zero
    maximum_normalized_innovation_squared := literal 9 0
    maximum_gap_s := literal 1 2 }
  ok := by decide +kernel

/-- A match of the expected satellite, predicted at rest. -/
def matched (measurement : RfMeasurement) : AssociatedTrackingObservation where
  val := {
    decision := {
      status := .isMatch
      selected_norad_id := some 25544
      candidates := [⟨25544, Num.zero, Num.zero, Num.zero, Num.one⟩]
      reason_codes := [] }
    measurement
    hardware_snapshot_ref := ⟨Sample.hw_1, someDigest⟩
    station_id := Sample.station_1
    station_geometry_digest := someDigest
    prediction_frequency_variance_hz2 := Num.zero
    prediction_drift_variance_hz2_s2 := Num.zero
    document := ⟨.int measurement.val.midpoint_utc_ns, trivial⟩ }
  ok := by
    have hzero : ∀ field, requireNonnegativeNum Num.zero field = .ok () := by
      intro field
      have hfinite : requireFinite Num.zero field = .ok () := rfl
      have hnonnegative : ¬Num.zero.Lt (.int 0) := by decide +kernel
      rw [requireNonnegativeNum, hfinite, raiseIf_ok.2 hnonnegative]
      rfl
    unfold AssociatedTrackingObservation.Fields.post_init
    rw [hzero, hzero]
    rfl

/-- The outcome is a segment. -/
def FirstOutcome.isBegins : FirstOutcome → Bool
  | .begins .. => true
  | _ => false

/-- A hundred hertz off, as received by the first chain. -/
def outlier : AssociatedTrackingObservation := matched {
  val := {
    recording_id := Sample.rec_1
    receiver_chain_id := Sample.rx_1
    midpoint_utc_ns := 0
    frequency_hz := literal 1 2
    drift_hz_s := Num.zero
    frequency_variance_hz2 := Num.one
    drift_variance_hz2_s2 := Num.one }
  ok := by decide +kernel }

/-- As predicted, one second later, as received by the second chain. -/
def exactMatch : AssociatedTrackingObservation := matched {
  val := {
    recording_id := ⟨str "rec_2", by decide, by decide⟩
    receiver_chain_id := Sample.rx_2
    midpoint_utc_ns := 1000000000
    frequency_hz := Num.zero
    drift_hz_s := Num.zero
    frequency_variance_hz2 := Num.one
    drift_variance_hz2_s2 := Num.one }
  ok := by decide +kernel }

end Example

end ResidualTracker

end LeoFlow
