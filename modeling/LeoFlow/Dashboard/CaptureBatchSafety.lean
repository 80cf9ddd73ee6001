import LeoFlow.Dashboard.CaptureBatchPublishers
import LeoFlow.Contracts.Samples

/-!
# LeoFlow.Dashboard.CaptureBatchSafety — when the projection of a capture batch loses nothing

* `Inv`: the rows are views of the snapshots of the batch, and each covers the ones before it;
* `step_exact`: a step keeps `LosesNothing` exactly if it meets `Guard`;
* `losesNothing_iff`: and so does a run.
-/

namespace LeoFlow

open CaptureBatchSnapshot

namespace CaptureBatchProjection

/-! ## What every step keeps -/

/-- The rows are views of the snapshots, each covering the one before; a writer holds what the latest row covers. -/
structure Inv (text_ge : PyStr → PyStr → Bool) (h : CaptureHistory) (s : State) : Prop where
  views : ∀ row ∈ s.rows, ∃ t ∈ h.snapshots, ∃ analysed, row.semantic_view = t.view analysed ∧
    Publishable text_ge row.semantic_view.val
  monotone : s.rows.Pairwise fun later earlier => earlier.semantic_view.val.Covers later.semantic_view.val
  drawn : ∀ row ∈ s.rows, row.projection_sequence ≤ s.sequence
  ordered : s.rows.Pairwise fun later earlier => earlier.projection_sequence < later.projection_sequence
  published : ∀ t ∈ s.published, t ∈ h.snapshots
  writers : ∀ writer recording_id view, s.writers writer = some (recording_id, view) →
    ∃ latest ∈ s.latest, ∃ t ∈ h.snapshots, ∃ analysed, view = t.view (recording_id :: analysed) ∧
      recording_id ∈ t.val.recording_ids ∧ (t.view analysed).val.Covers latest.val ∧
      t.val.revision ≤ latest.val.revision ∧ Publishable text_ge view.val

section Steps

variable {text_ge : PyStr → PyStr → Bool} {h : CaptureHistory} {s s' : State}

theorem latest_cons {seq : Int} {v : CaptureBatchDashboardView} {rest : List CaptureBatchRow}
    (hrows : s.rows = ⟨seq, v⟩ :: rest) : s.latest = some v := by
  unfold State.latest
  rw [hrows]
  rfl

theorem latest_nil (hrows : s.rows = []) : s.latest = none := by
  unfold State.latest
  rw [hrows]
  rfl

/-- The latest row is a view of a snapshot. -/
theorem Inv.latest (hinv : Inv text_ge h s) :
    s.rows = [] ∨ ∃ seq rest, ∃ u ∈ h.snapshots, ∃ analysed, s.rows = ⟨seq, u.view analysed⟩ :: rest ∧
      Publishable text_ge (u.view analysed).val := by
  cases hrows : s.rows with
  | nil => exact Or.inl rfl
  | cons row rest =>
    obtain ⟨u, hu, analysed, hview, hpublishable⟩ := hinv.views row (hrows ▸ List.mem_cons_self)
    refine Or.inr ⟨row.projection_sequence, rest, u, hu, analysed, ?_, hview ▸ hpublishable⟩
    rw [← hview]

/-- What a publication that returns does to the rows. -/
theorem Inv.publish_ok (hinv : Inv text_ge h s) {t : CaptureBatchSnapshot} (ht : t ∈ h.snapshots)
    {invoking_role : InvokingRole} (hrole : invoking_role ≠ .other) {analysed' : List RecordingId} {nextval n : Int}
    {rows : List CaptureBatchRow}
    (hpublish : CaptureBatchProjection.publish text_ge invoking_role s.rows nextval (t.view analysed') =
      .ok (rows, n)) :
    rows = s.rows ∨
      rows = ⟨nextval, t.view analysed'⟩ :: s.rows ∧ Publishable text_ge (t.view analysed').val ∧
        ∀ latest ∈ s.latest, latest.val.Covers (t.view analysed').val ∧ latest.val.revision ≤ t.val.revision := by
  have hpublishable : Publishable text_ge (t.view analysed').val := by
    by_contra hnot
    obtain ⟨e, he⟩ := @publish_unpublishable text_ge _ invoking_role nextval s.rows hnot
    rw [he] at hpublish
    cases hpublish
  rcases hinv.latest with hrows | ⟨seq, rest, u, hu, analysed, hrows, _⟩
  · rw [hrows, publish_first hpublishable] at hpublish
    cases hpublish
    refine Or.inr ⟨by rw [hrows], hpublishable, ?_⟩
    intro latest hlatest
    rw [latest_nil hrows] at hlatest
    cases hlatest
  · by_cases hrevision : t.val.revision < u.val.revision
    · obtain ⟨e, he⟩ := @publish_older text_ge u analysed analysed' invoking_role t nextval seq rest hrevision
      rw [hrows, he] at hpublish
      cases hpublish
    · have hextends := h.extends_of_revision hu ht (not_lt.1 hrevision)
      rw [hrows, publish_later hextends hrole hpublishable] at hpublish
      by_cases hstale : Stale u analysed analysed'
      · rw [if_pos hstale] at hpublish
        split at hpublish
        · cases hpublish
        · cases hpublish
          exact Or.inl hrows.symm
      · rw [if_neg hstale] at hpublish
        split at hpublish
        · cases hpublish
          exact Or.inl hrows.symm
        · cases hpublish
          refine Or.inr ⟨by rw [hrows], hpublishable, ?_⟩
          intro latest hlatest
          rw [latest_cons hrows] at hlatest
          cases hlatest
          exact ⟨view_covers hextends hstale, hextends.revision_le⟩

/-- The same rows and no new writer keep the invariant. -/
theorem Inv.same_rows (hinv : Inv text_ge h s) (hrows : s'.rows = s.rows) (hsequence : s.sequence ≤ s'.sequence)
    (hpublished : ∀ t ∈ s'.published, t ∈ h.snapshots)
    (hwriters : ∀ writer held, s'.writers writer = some held → s.writers writer = some held) :
    Inv text_ge h s' := by
  have hlatest : s'.latest = s.latest := by
    unfold State.latest
    rw [hrows]
  refine ⟨hrows ▸ hinv.views, hrows ▸ hinv.monotone, ?_, hrows ▸ hinv.ordered, hpublished, ?_⟩
  · intro row hrow
    exact (hinv.drawn row (hrows ▸ hrow)).trans hsequence
  · intro writer recording_id view hheld
    rw [hlatest]
    exact hinv.writers writer recording_id view (hwriters _ _ hheld)

/-- A new row over the latest one keeps it as well. -/
theorem Inv.new_row (hinv : Inv text_ge h s) {t : CaptureBatchSnapshot} (ht : t ∈ h.snapshots)
    {analysed' : List RecordingId} (hrows : s'.rows = ⟨s'.sequence, t.view analysed'⟩ :: s.rows)
    (hpublishable : Publishable text_ge (t.view analysed').val)
    (hcovers : ∀ latest ∈ s.latest, latest.val.Covers (t.view analysed').val ∧ latest.val.revision ≤ t.val.revision)
    (hsequence : s.sequence < s'.sequence) (hpublished : ∀ t ∈ s'.published, t ∈ h.snapshots)
    (hwriters : ∀ writer held, s'.writers writer = some held → s.writers writer = some held) :
    Inv text_ge h s' := by
  have hlatest : s'.latest = some (t.view analysed') := latest_cons hrows
  constructor
  · rw [hrows]
    intro row hrow
    rcases List.mem_cons.1 hrow with rfl | hrow
    · exact ⟨t, ht, analysed', rfl, hpublishable⟩
    · exact hinv.views row hrow
  · rw [hrows, List.pairwise_cons]
    refine ⟨?_, hinv.monotone⟩
    intro row hrow
    -- the latest row covers the older ones
    cases hold : s.rows with
    | nil =>
      rw [hold] at hrow
      cases hrow
    | cons latest rest =>
      have hnew := (hcovers latest.semantic_view (by rw [latest_cons hold]; rfl)).1
      rw [hold] at hrow
      rcases List.mem_cons.1 hrow with rfl | hrow
      · exact hnew
      · have hmonotone := hinv.monotone
        rw [hold, List.pairwise_cons] at hmonotone
        exact (hmonotone.1 row hrow).trans hnew
  · rw [hrows]
    intro row hrow
    rcases List.mem_cons.1 hrow with rfl | hrow
    · exact le_rfl
    · exact (hinv.drawn row hrow).trans (le_of_lt hsequence)
  · rw [hrows, List.pairwise_cons]
    exact ⟨fun row hrow => lt_of_le_of_lt (hinv.drawn row hrow) hsequence, hinv.ordered⟩
  · exact hpublished
  · intro writer recording_id view hheld
    obtain ⟨latest, hmem, t', ht', analysed, hview, hrecording, hcover, hrevision, hfits⟩ :=
      hinv.writers writer recording_id view (hwriters _ _ hheld)
    obtain ⟨hnew, hlater⟩ := hcovers latest hmem
    exact ⟨t.view analysed', hlatest, t', ht', analysed, hview, hrecording, hcover.trans hnew,
      hrevision.trans hlater, hfits⟩

theorem nextval_gt (s : State) (skipped : Nat) : s.sequence < s.sequence + 1 + skipped := by
  omega

/-- A capture publication: rejected, or its rows. -/
theorem step_capture {t : CaptureBatchSnapshot} {invoking_role : InvokingRole} {skipped : Nat}
    (hstep : (machine text_ge h).step s (.capture t invoking_role skipped) = some s') :
    (t ∈ h.snapshots ∧ inOrder s.published t ∧ invoking_role ≠ .other) ∧
      ((∃ e, CaptureBatchProjection.publish text_ge invoking_role s.rows (s.sequence + 1 + skipped) (t.view []) =
          .error e ∧ s' = { s with rejected := true }) ∨
        ∃ rows n, CaptureBatchProjection.publish text_ge invoking_role s.rows (s.sequence + 1 + skipped)
            (t.view []) = .ok (rows, n) ∧
          s' = { s with
            rows := rows
            sequence := s.sequence + 1 + skipped
            published := t :: s.published }) := by
  simp only [machine, Option.ite_none_right_eq_some, t.initial_view] at hstep
  obtain ⟨hguard, hstep⟩ := hstep
  refine ⟨hguard, ?_⟩
  cases hpublish : CaptureBatchProjection.publish text_ge invoking_role s.rows (s.sequence + 1 + skipped)
      (t.view []) with
  | error e =>
    rw [hpublish] at hstep
    exact Or.inl ⟨e, rfl, (Option.some.inj hstep).symm⟩
  | ok result =>
    rw [hpublish] at hstep
    exact Or.inr ⟨result.1, result.2, rfl, (Option.some.inj hstep).symm⟩

/-- An analysis publication: rejected, or its rows. -/
theorem step_publish {writer skipped : Nat}
    (hstep : (machine text_ge h).step s (.publish writer skipped) = some s') :
    ∃ recording_id view, s.writers writer = some (recording_id, view) ∧
      ((∃ e, CaptureBatchProjection.publish text_ge .leo_analysis s.rows (s.sequence + 1 + skipped) view = .error e ∧
          s' = { s with writers := Function.update s.writers writer none, rejected := true }) ∨
        ∃ rows n, CaptureBatchProjection.publish text_ge .leo_analysis s.rows (s.sequence + 1 + skipped) view =
            .ok (rows, n) ∧
          s' = { s with
            rows := rows
            sequence := s.sequence + 1 + skipped
            writers := Function.update s.writers writer none
            completed := recording_id :: s.completed }) := by
  simp only [machine] at hstep
  cases hheld : s.writers writer with
  | none =>
    rw [hheld] at hstep
    cases hstep
  | some held =>
    rw [hheld] at hstep
    refine ⟨held.1, held.2, rfl, ?_⟩
    cases hpublish : CaptureBatchProjection.publish text_ge .leo_analysis s.rows (s.sequence + 1 + skipped)
        held.2 with
    | error e =>
      simp only [hpublish] at hstep
      exact Or.inl ⟨e, rfl, (Option.some.inj hstep).symm⟩
    | ok result =>
      simp only [hpublish] at hstep
      exact Or.inr ⟨result.1, result.2, rfl, (Option.some.inj hstep).symm⟩

/-- The analyses that change nothing leave the attempts as they are. -/
theorem attempts_eq_iff {u : CaptureBatchSnapshot} {analysed : List RecordingId} {r : RecordingId}
    (hr : r ∈ u.val.recording_ids) :
    (u.view (r :: analysed)).val.attempts = (u.view analysed).val.attempts ↔ r ∈ analysed := by
  constructor
  · intro heq
    have hcomplete : (u.view (r :: analysed)).val.Complete r := view_complete.2 ⟨hr, List.mem_cons_self⟩
    unfold CaptureBatchDashboardView.Fields.Complete at hcomplete
    rw [heq] at hcomplete
    exact (view_complete.1 hcomplete).2
  · intro hmem
    have hsame : ∀ expected, u.attemptView (r :: analysed) expected = u.attemptView analysed expected := by
      intro expected
      apply Checked.ext
      unfold attemptView attemptFields
      refine if_congr (exists_congr fun x => and_congr_right fun _ => ?_) rfl rfl
      rw [List.mem_cons]
      exact ⟨fun hx => hx.elim (fun heq => heq ▸ hmem) id, Or.inr⟩
    simp [view, viewFields, hsame]

/-- The first transaction of an analysis writer: nothing to do, or a view to publish. -/
theorem Inv.step_resolve (hinv : Inv text_ge h s) {writer : Nat} {r : RecordingId}
    (hstep : (machine text_ge h).step s (.resolve writer r) = some s') :
    s.writers writer = none ∧
      ((∀ latest ∈ s.latest, latest.val.Shows r → latest.val.Complete r) ∧
          s' = { s with completed := r :: s.completed } ∨
        ∃ u ∈ h.snapshots, ∃ analysed, s.latest = some (u.view analysed) ∧ r ∈ u.val.recording_ids ∧
          r ∉ analysed ∧ Publishable text_ge (u.view analysed).val ∧
          s' = { s with writers := Function.update s.writers writer (some (r, u.view (r :: analysed))) }) := by
  simp only [machine, Option.ite_none_right_eq_some] at hstep
  obtain ⟨⟨_, hfree⟩, hstep⟩ := hstep
  refine ⟨hfree, ?_⟩
  rcases hinv.latest with hrows | ⟨seq, rest, u, hu, analysed, hrows, hpublishable⟩
  · simp only [CaptureBatchProjection.resolve, hrows, List.head?_nil] at hstep
    refine Or.inl ⟨?_, (Option.some.inj hstep).symm.trans (by rw [hrows])⟩
    intro latest hlatest
    rw [latest_nil hrows] at hlatest
    cases hlatest
  · have hlatest := latest_cons hrows
    have hresolve : CaptureBatchProjection.resolve s.rows r =
        if r ∈ u.val.recording_ids then some (u.view analysed) else none := by
      unfold CaptureBatchProjection.resolve
      rw [hrows]
      exact if_congr view_shows rfl rfl
    rw [hresolve] at hstep
    by_cases hr : r ∈ u.val.recording_ids
    · simp only [if_pos hr, completeRecording_view, attempts_eq_iff hr] at hstep
      by_cases hmem : r ∈ analysed
      · rw [if_pos hmem] at hstep
        refine Or.inl ⟨?_, (Option.some.inj hstep).symm⟩
        intro latest hl _
        rw [hlatest] at hl
        cases hl
        exact view_complete.2 ⟨hr, hmem⟩
      · rw [if_neg hmem] at hstep
        exact Or.inr ⟨u, hu, analysed, hlatest, hr, hmem, hpublishable, (Option.some.inj hstep).symm⟩
    · simp only [if_neg hr] at hstep
      refine Or.inl ⟨?_, (Option.some.inj hstep).symm⟩
      intro latest hl hshows
      rw [hlatest] at hl
      cases hl
      exact absurd (view_shows.1 hshows) hr

theorem init_inv : Inv text_ge h State.initial := by
  constructor <;> simp [State.initial]

/-- An updated slot aside, the writers are as before. -/
theorem writers_of_update {writers : Nat → Option (RecordingId × CaptureBatchDashboardView)} {writer other : Nat}
    {held : RecordingId × CaptureBatchDashboardView} (hheld : Function.update writers writer none other = some held) :
    writers other = some held := by
  by_cases heq : other = writer
  · subst heq
    simp at hheld
  · simpa [heq] using hheld

theorem step_inv {a : Label} (hinv : Inv text_ge h s) (hstep : (machine text_ge h).step s a = some s') :
    Inv text_ge h s' := by
  cases a with
  | capture t invoking_role skipped =>
    obtain ⟨⟨ht, _, hrole⟩, hcase⟩ := step_capture hstep
    rcases hcase with ⟨e, _, rfl⟩ | ⟨rows, n, hpublish, rfl⟩
    · exact hinv.same_rows rfl le_rfl hinv.published fun _ _ hheld => hheld
    · have hpublished : ∀ u ∈ t :: s.published, u ∈ h.snapshots := by
        intro u hu
        rcases List.mem_cons.1 hu with rfl | hu
        · exact ht
        · exact hinv.published u hu
      rcases hinv.publish_ok ht hrole hpublish with hrows | ⟨hrows, hpublishable, hcovers⟩
      · exact hinv.same_rows hrows (le_of_lt (nextval_gt s skipped)) hpublished fun _ _ hheld => hheld
      · exact hinv.new_row ht hrows hpublishable hcovers (nextval_gt s skipped) hpublished fun _ _ hheld => hheld
  | resolve writer r =>
    obtain ⟨_, ⟨_, rfl⟩ | ⟨u, hu, analysed, hlatest, hr, _, hpublishable, rfl⟩⟩ := hinv.step_resolve hstep
    · exact hinv.same_rows rfl le_rfl hinv.published fun _ _ hheld => hheld
    · refine ⟨hinv.views, hinv.monotone, hinv.drawn, hinv.ordered, hinv.published, ?_⟩
      intro other recording_id view hheld
      by_cases heq : other = writer
      · subst heq
        simp only [Function.update_self, Option.some.injEq, Prod.mk.injEq] at hheld
        obtain ⟨rfl, rfl⟩ := hheld
        refine ⟨u.view analysed, hlatest, u, hu, analysed, rfl, hr, ?_, le_rfl, ?_⟩
        · apply view_covers (CaptureBatchSnapshot.Extends.refl u)
          rintro ⟨x, _, hx, hx'⟩
          exact hx' hx
        · exact publishable_analysed.2 hpublishable
      · exact hinv.writers other recording_id view (by simpa [heq] using hheld)
  | publish writer skipped =>
    obtain ⟨recording_id, view, hheld, hcase⟩ := step_publish hstep
    have hwriters : ∀ other held, Function.update s.writers writer none other = some held →
        s.writers other = some held := fun _ _ => writers_of_update
    rcases hcase with ⟨e, _, rfl⟩ | ⟨rows, n, hpublish, rfl⟩
    · exact hinv.same_rows rfl le_rfl hinv.published hwriters
    · obtain ⟨_, _, t, ht, analysed, rfl, _⟩ := hinv.writers writer recording_id view hheld
      rcases hinv.publish_ok ht (show InvokingRole.leo_analysis ≠ .other by decide) hpublish with hrows | ⟨hrows, hpublishable, hcovers⟩
      · exact hinv.same_rows hrows (le_of_lt (nextval_gt s skipped)) hinv.published hwriters
      · exact hinv.new_row ht hrows hpublishable hcovers (nextval_gt s skipped) hinv.published hwriters

/-! ## When a step keeps the promise -/

/-- The promise, over a latest view. -/
theorem losesNothing_of_latest (hinv : Inv text_ge h s) {u : CaptureBatchSnapshot} (hu : u ∈ h.snapshots)
    {analysed : List RecordingId} (hlatest : s.latest = some (u.view analysed)) :
    LosesNothing s ↔ s.rejected = false ∧ (∀ t ∈ s.published, t.val.outcomes ⊆ u.val.outcomes) ∧
      ∀ r ∈ s.completed, r ∈ u.val.recording_ids ∧ r ∈ analysed := by
  constructor
  · intro hloses
    refine ⟨hloses.accepted, ?_, ?_⟩
    · intro t ht o ho
      obtain ⟨latest, hmem, hall⟩ := hloses.outcomes t ht
      rw [hlatest] at hmem
      cases hmem
      rcases h.extends_total hu (hinv.published t ht) with hut | htu
      · exact mem_of_view_hasOutcome hut ho (hall o ho)
      · exact htu.2 ho
    · intro r hr
      obtain ⟨latest, hmem, hcomplete⟩ := hloses.analyses r hr
      rw [hlatest] at hmem
      cases hmem
      exact view_complete.1 hcomplete
  · rintro ⟨haccepted, houtcomes, hanalyses⟩
    refine ⟨haccepted, hinv.monotone, ?_, ?_⟩
    · intro t ht
      exact ⟨u.view analysed, hlatest, fun o ho => view_hasOutcome (houtcomes t ht ho)⟩
    · intro r hr
      exact ⟨u.view analysed, hlatest, view_complete.2 (hanalyses r hr)⟩

/-- The promise, before the first row. -/
theorem LosesNothing.of_empty (hloses : LosesNothing s) (hlatest : s.latest = none) :
    s.published = [] ∧ s.completed = [] := by
  constructor
  · rw [List.eq_nil_iff_forall_not_mem]
    intro t ht
    obtain ⟨latest, hmem, _⟩ := hloses.outcomes t ht
    rw [hlatest] at hmem
    cases hmem
  · rw [List.eq_nil_iff_forall_not_mem]
    intro r hr
    obtain ⟨latest, hmem, _⟩ := hloses.analyses r hr
    rw [hlatest] at hmem
    cases hmem

theorem not_losesNothing_of_rejected (hrejected : s.rejected = true) : ¬LosesNothing s := by
  intro hloses
  rw [hloses.accepted] at hrejected
  cases hrejected

theorem exact_capture (hinv : Inv text_ge h s) (hloses : LosesNothing s) {t : CaptureBatchSnapshot}
    {invoking_role : InvokingRole} {skipped : Nat}
    (hstep : (machine text_ge h).step s (.capture t invoking_role skipped) = some s') :
    LosesNothing s' ↔ Guard text_ge s (.capture t invoking_role skipped) := by
  have hinv' := step_inv hinv hstep
  obtain ⟨⟨ht, _, hrole⟩, hcase⟩ := step_capture hstep
  by_cases hpublishable : Publishable text_ge (t.view []).val
  · rcases hinv.latest with hrows | ⟨seq, rest, u, hu, analysed, hrows, _⟩
    · -- the first publication
      have hlatest := latest_nil hrows
      obtain ⟨hpublished, hcompleted⟩ := hloses.of_empty hlatest
      rw [hrows, publish_first hpublishable] at hcase
      rcases hcase with ⟨e, he, _⟩ | ⟨rows, n, hok, rfl⟩
      · cases he
      · cases hok
        refine iff_of_true ?_ ⟨hpublishable, fun latest hmem => ?_⟩
        · apply (losesNothing_of_latest hinv' ht rfl).2
          refine ⟨hloses.accepted, ?_, ?_⟩
          · simp [hpublished]
          · simp [hcompleted]
        · rw [hlatest] at hmem
          cases hmem
    · have hlatest := latest_cons hrows
      obtain ⟨haccepted, houtcomes, hanalyses⟩ := (losesNothing_of_latest hinv hu hlatest).1 hloses
      have hguard : Guard text_ge s (.capture t invoking_role skipped) ↔
          u.val.revision = t.val.revision ∨
            u.val.revision < t.val.revision ∧ ∀ r, ¬(u.view analysed).val.Complete r := by
        constructor
        · intro hg
          exact hg.2 (u.view analysed) hlatest
        · intro hg
          refine ⟨hpublishable, fun latest hmem => ?_⟩
          rw [hlatest] at hmem
          cases hmem
          exact hg
      rw [hguard]
      by_cases hrevision : t.val.revision < u.val.revision
      · -- an older revision is rejected
        obtain ⟨e, he⟩ := @publish_older text_ge u analysed [] invoking_role t (s.sequence + 1 + skipped) seq rest
          hrevision
        rw [hrows, he] at hcase
        rcases hcase with ⟨_, _, rfl⟩ | ⟨rows, n, hok, _⟩
        · exact iff_of_false (not_losesNothing_of_rejected rfl) (by omega)
        · cases hok
      · have hextends := h.extends_of_revision hu ht (not_lt.1 hrevision)
        rw [hrows, publish_later hextends hrole hpublishable] at hcase
        by_cases hstale : Stale u analysed []
        · -- the latest row has a complete analysis: the new one is dropped, or rejected
          have hcomplete : ¬∀ r, ¬(u.view analysed).val.Complete r := by
            obtain ⟨r, hr, hmem, _⟩ := hstale
            intro hnone
            exact hnone r (view_complete.2 ⟨hr, hmem⟩)
          rw [if_pos hstale] at hcase
          by_cases hadds : Adds u t analysed []
          · rw [if_pos hadds] at hcase
            rcases hcase with ⟨_, _, rfl⟩ | ⟨rows, n, hok, _⟩
            · refine iff_of_false (not_losesNothing_of_rejected rfl) ?_
              rintro (hsame | ⟨_, hnone⟩)
              · have heq := hextends.eq_of_revision (le_of_eq hsame.symm)
                subst heq
                obtain ⟨r, hr, hnew | ⟨_, hnew⟩⟩ := hadds
                · exact hnew hr
                · cases hnew
              · exact hcomplete hnone
            · cases hok
          · rw [if_neg hadds] at hcase
            rcases hcase with ⟨_, he, _⟩ | ⟨rows, n, hok, rfl⟩
            · cases he
            · cases hok
              rw [losesNothing_of_latest hinv' hu rfl]
              constructor
              · rintro ⟨_, hall, _⟩
                left
                have hsub := hall t List.mem_cons_self
                have hback : t.Extends u := ⟨hextends.1.symm, hsub⟩
                exact le_antisymm hextends.revision_le hback.revision_le
              · rintro (hsame | ⟨_, hnone⟩)
                · have heq := hextends.eq_of_revision (le_of_eq hsame.symm)
                  subst heq
                  refine ⟨haccepted, ?_, hanalyses⟩
                  intro t' ht'
                  rcases List.mem_cons.1 ht' with rfl | ht'
                  · exact List.Subset.refl _
                  · exact houtcomes t' ht'
                · exact absurd hnone hcomplete
        · -- nothing is complete: the view is there, or becomes the latest row
          have hnone : ∀ r, ¬(u.view analysed).val.Complete r := by
            intro r hcomplete
            obtain ⟨hr, hmem⟩ := view_complete.1 hcomplete
            exact hstale ⟨r, hr, hmem, List.not_mem_nil⟩
          have hcompleted : ∀ r ∈ s.completed, r ∈ t.val.recording_ids ∧ r ∈ [] := by
            intro r hr
            exact absurd (view_complete.2 (hanalyses r hr)) (hnone r)
          have hpublished : ∀ t' ∈ t :: s.published, t'.val.outcomes ⊆ t.val.outcomes := by
            intro t' ht'
            rcases List.mem_cons.1 ht' with rfl | ht'
            · exact List.Subset.refl _
            · exact List.Subset.trans (houtcomes t' ht') hextends.2
          have hright : u.val.revision = t.val.revision ∨
              u.val.revision < t.val.revision ∧ ∀ r, ¬(u.view analysed).val.Complete r := by
            rcases eq_or_lt_of_le hextends.revision_le with hsame | hlt
            · exact Or.inl hsame
            · exact Or.inr ⟨hlt, hnone⟩
          rw [if_neg hstale] at hcase
          refine iff_of_true ?_ hright
          by_cases hsame : u.view analysed = t.view []
          · rw [if_pos hsame] at hcase
            rcases hcase with ⟨_, he, _⟩ | ⟨rows, n, hok, rfl⟩
            · cases he
            · cases hok
              have hl : ({ s with
                  rows := ⟨seq, u.view analysed⟩ :: rest
                  sequence := s.sequence + 1 + skipped
                  published := t :: s.published } : State).latest = some (t.view []) := by
                rw [latest_cons rfl, hsame]
              exact (losesNothing_of_latest hinv' ht hl).2 ⟨haccepted, hpublished, hcompleted⟩
          · rw [if_neg hsame] at hcase
            rcases hcase with ⟨_, he, _⟩ | ⟨rows, n, hok, rfl⟩
            · cases he
            · cases hok
              exact (losesNothing_of_latest hinv' ht rfl).2 ⟨haccepted, hpublished, hcompleted⟩
  · obtain ⟨e, he⟩ := @publish_unpublishable text_ge _ invoking_role (s.sequence + 1 + skipped) s.rows hpublishable
    rw [he] at hcase
    rcases hcase with ⟨_, _, rfl⟩ | ⟨rows, n, hok, _⟩
    · exact iff_of_false (not_losesNothing_of_rejected rfl) fun hg => hpublishable hg.1
    · cases hok

theorem exact_resolve (hinv : Inv text_ge h s) (hloses : LosesNothing s) {writer : Nat} {r : RecordingId}
    (hstep : (machine text_ge h).step s (.resolve writer r) = some s') :
    LosesNothing s' ↔ Guard text_ge s (.resolve writer r) := by
  obtain ⟨_, ⟨hdone, rfl⟩ | ⟨u, hu, analysed, hlatest, hr, _, _, rfl⟩⟩ := hinv.step_resolve hstep
  · -- the writer returned: its analysis is complete only if the latest row had the recording
    constructor
    · intro hloses'
      obtain ⟨latest, hmem, a, ha, hrecording, _⟩ := hloses'.analyses r List.mem_cons_self
      exact ⟨latest, hmem, a, ha, hrecording⟩
    · rintro ⟨latest, hmem, hshows⟩
      refine ⟨hloses.accepted, hloses.monotone, hloses.outcomes, ?_⟩
      intro r' hr'
      rcases List.mem_cons.1 hr' with rfl | hr'
      · exact ⟨latest, hmem, hdone latest hmem hshows⟩
      · exact hloses.analyses r' hr'
  · refine iff_of_true ⟨hloses.accepted, hloses.monotone, hloses.outcomes, hloses.analyses⟩ ?_
    exact ⟨u.view analysed, hlatest, view_shows.2 hr⟩

theorem exact_publish (hinv : Inv text_ge h s) (hloses : LosesNothing s) {writer skipped : Nat}
    (hstep : (machine text_ge h).step s (.publish writer skipped) = some s') :
    LosesNothing s' ↔ Guard text_ge s (.publish writer skipped) := by
  have hinv' := step_inv hinv hstep
  obtain ⟨r, view, hheld, hcase⟩ := step_publish hstep
  obtain ⟨_, hmem, t, ht, read, rfl, hr, hcovers, hrevision, hpublishable⟩ := hinv.writers writer r view hheld
  rcases hinv.latest with hrows | ⟨seq, rest, u, hu, analysed, hrows, _⟩
  · rw [latest_nil hrows] at hmem
    cases hmem
  · have hlatest := latest_cons hrows
    rw [hlatest] at hmem
    cases hmem
    obtain ⟨haccepted, houtcomes, hanalyses⟩ := (losesNothing_of_latest hinv hu hlatest).1 hloses
    have hguard : Guard text_ge s (.publish writer skipped) ↔ u.val.revision = t.val.revision ∧
        ((u.view analysed).val.Complete r ∨
          ∀ x, (u.view analysed).val.Complete x → (t.view (r :: read)).val.Complete x) := by
      constructor
      · intro hg
        obtain ⟨latest, hmem, hg⟩ := hg r _ hheld
        rw [hlatest] at hmem
        cases hmem
        exact hg
      · intro hg r' view' hheld'
        rw [hheld] at hheld'
        cases hheld'
        exact ⟨u.view analysed, hlatest, hg⟩
    rw [hguard]
    by_cases holder : t.val.revision < u.val.revision
    · -- another outcome was published since the read
      obtain ⟨e, he⟩ := @publish_older text_ge u analysed (r :: read) .leo_analysis t
        (s.sequence + 1 + skipped) seq rest holder
      rw [hrows, he] at hcase
      rcases hcase with ⟨_, _, rfl⟩ | ⟨rows, n, hok, _⟩
      · exact iff_of_false (not_losesNothing_of_rejected rfl) (by omega)
      · cases hok
    · have hsame : u = t :=
        (h.extends_of_revision hu ht (not_lt.1 holder)).eq_of_revision hrevision
      subst hsame
      have hread : ∀ x ∈ u.val.recording_ids, x ∈ read → x ∈ analysed := by
        intro x hx hxread
        exact (view_complete.1 (hcovers.complete (view_complete.2 ⟨hx, hxread⟩))).2
      have hadds : Adds u u analysed (r :: read) ↔ r ∉ analysed := by
        constructor
        · rintro ⟨x, hx, hnew | ⟨hx', hmem⟩⟩
          · exact absurd hx hnew
          · rcases List.mem_cons.1 hmem with rfl | hxread
            · exact hx'
            · exact absurd (hread x hx hxread) hx'
        · intro hnew
          exact ⟨r, hr, Or.inr ⟨hnew, List.mem_cons_self⟩⟩
      have hstale : Stale u analysed (r :: read) ↔
          ¬∀ x, (u.view analysed).val.Complete x → (u.view (r :: read)).val.Complete x := by
        simp only [view_complete, Stale]
        push Not
        exact exists_congr fun x => ⟨fun hx => ⟨⟨hx.1, hx.2.1⟩, fun _ => hx.2.2⟩,
          fun hx => ⟨hx.1.1, hx.1.2, hx.2 hx.1.1⟩⟩
      have hdone : (u.view analysed).val.Complete r ↔ r ∈ analysed := by
        rw [view_complete]
        exact and_iff_right hr
      rw [hrows, publish_later (CaptureBatchSnapshot.Extends.refl u)
        (show InvokingRole.leo_analysis ≠ .other by decide) hpublishable] at hcase
      rw [hdone]
      by_cases hs : Stale u analysed (r :: read)
      · rw [if_pos hs] at hcase
        by_cases hmem : r ∈ analysed
        · -- a replay of an analysis that is already there
          rw [if_neg (fun ha => hadds.1 ha hmem)] at hcase
          rcases hcase with ⟨_, he, _⟩ | ⟨rows, n, hok, rfl⟩
          · cases he
          · cases hok
            refine iff_of_true ((losesNothing_of_latest hinv' hu rfl).2 ⟨haccepted, houtcomes, ?_⟩)
              ⟨rfl, Or.inl hmem⟩
            intro x hx
            rcases List.mem_cons.1 hx with rfl | hx
            · exact ⟨hr, hmem⟩
            · exact hanalyses x hx
        · -- both attempts were read pending: the second analysis is rejected
          rw [if_pos (hadds.2 hmem)] at hcase
          rcases hcase with ⟨_, _, rfl⟩ | ⟨rows, n, hok, _⟩
          · refine iff_of_false (not_losesNothing_of_rejected rfl) ?_
            rintro ⟨_, hdone | hall⟩
            · exact hmem hdone
            · exact hstale.1 hs hall
          · cases hok
      · rw [if_neg hs] at hcase
        have hcompleted : ∀ x ∈ r :: s.completed, x ∈ u.val.recording_ids ∧ x ∈ r :: read := by
          intro x hx
          rcases List.mem_cons.1 hx with rfl | hx
          · exact ⟨hr, List.mem_cons_self⟩
          · obtain ⟨hxr, hxa⟩ := hanalyses x hx
            refine ⟨hxr, ?_⟩
            by_contra hlost
            exact hs ⟨x, hxr, hxa, hlost⟩
        refine iff_of_true ?_ ⟨rfl, Or.inr (not_not.1 fun hn => hs (hstale.2 hn))⟩
        by_cases heq : u.view analysed = u.view (r :: read)
        · rw [if_pos heq] at hcase
          rcases hcase with ⟨_, he, _⟩ | ⟨rows, n, hok, rfl⟩
          · cases he
          · cases hok
            have hl : ({ s with
                rows := ⟨seq, u.view analysed⟩ :: rest
                sequence := s.sequence + 1 + skipped
                writers := Function.update s.writers writer none
                completed := r :: s.completed } : State).latest = some (u.view (r :: read)) := by
              rw [latest_cons rfl, heq]
            exact (losesNothing_of_latest hinv' hu hl).2 ⟨haccepted, houtcomes, hcompleted⟩
        · rw [if_neg heq] at hcase
          rcases hcase with ⟨_, he, _⟩ | ⟨rows, n, hok, rfl⟩
          · cases he
          · cases hok
            exact (losesNothing_of_latest hinv' hu rfl).2 ⟨haccepted, houtcomes, hcompleted⟩

theorem step_exact {a : Label} (hinv : Inv text_ge h s) (hloses : LosesNothing s)
    (hstep : (machine text_ge h).step s a = some s') : LosesNothing s' ↔ Guard text_ge s a := by
  cases a with
  | capture t invoking_role skipped => exact exact_capture hinv hloses hstep
  | resolve writer r => exact exact_resolve hinv hloses hstep
  | publish writer skipped => exact exact_publish hinv hloses hstep

end Steps

/-- Nothing is lost along a run exactly if every publisher finds what `Guard` says. -/
theorem losesNothing_iff (text_ge : PyStr → PyStr → Bool) (h : CaptureHistory) (labels : List Label) :
    (machine text_ge h).AllStates LosesNothing .initial labels ↔
      (machine text_ge h).AllSteps (Guard text_ge) .initial labels := by
  apply (machine text_ge h).allStates_iff_allSteps
  · intro s a s' hinv hstep
    exact step_inv hinv hstep
  · intro s a s' hinv hloses hstep
    exact step_exact hinv hloses hstep
  · exact init_inv
  · constructor <;> simp [State.initial]

/-! ### Two analyses at the same time -/

/-- An attempt of the batch below. -/
def radioAttempt (id : CaptureAttemptId) (radio : RadioId) (plan : PlanId) : ExpectedCaptureAttempt :=
  ⟨⟨id, radio, plan, 0⟩, rfl⟩

def radioPair : CaptureBatchDefinition where
  val :=
    { schema := ⟨str "org.leo-flow.capture-batch", V0_1, isToken_capture_batch⟩
      batch_id := ⟨str "cbatch_pair", by decide, by decide⟩
      mode := .independent
      expected_attempts :=
        (radioAttempt ⟨str "cattempt_a", by decide, by decide⟩ Sample.radio_a
            Sample.plan_a,
          radioAttempt ⟨str "cattempt_b", by decide, by decide⟩ Sample.radio_b
            ⟨str "plan_b", by decide, by decide⟩)
      maximum_observed_start_skew_ns := none }
  ok := by decide

def objectOf (digit : Nat) (h : IsLowerHex digit) : Checked ObjectRef.post_init where
  val := ⟨Sample.repeated digit h, 1, str "application/octet-stream", str "object", str "cas"⟩
  ok := rfl

/-- A recording of an attempt, published. -/
def recordingOf (id : RecordingId) : PublishedRecordingRef where
  recording_object := ⟨⟨id, objectOf 48 Sample.isLowerHex_zero, objectOf 49 Sample.isLowerHex_one,
    Sample.zeros⟩, rfl⟩

def succeeded (a : ExpectedCaptureAttempt) (id : RecordingId) : CaptureAttemptOutcome where
  val :=
    { schema := ⟨str "org.leo-flow.capture-attempt-outcome", V0_1, isToken_attempt_outcome⟩
      batch_id := radioPair.val.batch_id
      attempt_id := a.val.attempt_id
      radio_id := a.val.radio_id
      plan_id := a.val.plan_id
      state := .succeeded
      terminal_utc_ns := 2
      observed_start_utc_ns := some 1
      recording_ref := some (recordingOf id)
      failure_reason := none }
  ok := rfl

def recordingA : RecordingId := Sample.rec_a
def recordingB : RecordingId := ⟨str "rec_b", by decide, by decide⟩

def outcomeA : CaptureAttemptOutcome := succeeded radioPair.val.expected_attempts.1 recordingA
def outcomeB : CaptureAttemptOutcome := succeeded radioPair.val.expected_attempts.2 recordingB

/-- A snapshot of the pair. -/
def pairSnapshot (outcomes : List CaptureAttemptOutcome) : CaptureBatchSnapshot.Fields :=
  { (CaptureBatchSnapshot.initial radioPair).val with
    outcomes := outcomes
    revision := outcomes.length }

def afterA : CaptureBatchSnapshot := ⟨pairSnapshot [outcomeA], by decide⟩
def afterBoth : CaptureBatchSnapshot := ⟨pairSnapshot [outcomeA, outcomeB], by decide⟩

theorem record_outcomeA : (CaptureBatchSnapshot.initial radioPair).record outcomeA = .ok afterA := by
  decide +kernel

theorem record_outcomeB : afterA.record outcomeB = .ok afterBoth := by
  decide +kernel

def pairHistory : CaptureHistory where
  definition := radioPair
  later := [afterA, afterBoth]
  recorded := List.IsChain.cons_cons ⟨outcomeA, record_outcomeA⟩
    (List.IsChain.cons_cons ⟨outcomeB, record_outcomeB⟩ (List.IsChain.singleton _))

/-- Code point order, as a `C` collation has it. -/
def codePointGe (a b : PyStr) : Bool := decide (b ≤ a)

/-- Both recordings are analysed at once: each writer reads the other attempt as pending. -/
def bothAnalysed : List Label :=
  [.capture afterBoth .leo_capture 0, .resolve 0 recordingA, .resolve 1 recordingB, .publish 0 0, .publish 1 0]

/-- One attempt is analysed before the other one ends. -/
def analysedBetween : List Label :=
  [.capture afterA .leo_capture 0, .resolve 0 recordingA, .publish 0 0, .capture afterBoth .leo_capture 0]

theorem concurrent_analysis_rejected :
    ¬(machine codePointGe pairHistory).AllStates LosesNothing .initial bothAnalysed ∧
      ¬(machine codePointGe pairHistory).AllStates LosesNothing .initial analysedBetween := by
  have key : ∀ labels, ((machine codePointGe pairHistory).run .initial labels).map State.rejected = some true →
      ¬(machine codePointGe pairHistory).AllStates LosesNothing .initial labels := by
    intro labels hrun hall
    obtain ⟨s, hs, hrejected⟩ := Option.map_eq_some_iff.1 hrun
    exact not_losesNothing_of_rejected hrejected ((machine codePointGe pairHistory).run_allStates hall hs)
  constructor
  · exact key _ (by decide +kernel)
  · exact key _ (by decide +kernel)

end CaptureBatchProjection

end LeoFlow
