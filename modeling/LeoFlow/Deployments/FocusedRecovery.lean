import LeoFlow.Deployments.FocusedAnalysis

/-!
# LeoFlow.Deployments.FocusedRecovery — recovery at the start of a supervisor

`_recover` visits the incomplete rows and the allow-listed failed ones: where it goes on, every dwell is settled.
-/

namespace LeoFlow

namespace FocusedSupervisor

open FocusedWorld SupervisorAct

variable {A : FocusedWorld → Prop} {args : FocusedArgs} {todo todo' : List Nat} {w w' : FocusedWorld}
  {record : FocusedContinuousRecord} {rows : List FocusedContinuousRecord}

/-! ## `_recover` -/

/-- The rows that recovery has yet to visit. -/
structure Recovering (args : FocusedArgs) (rows : List FocusedContinuousRecord) (w : FocusedWorld) : Prop where
  knows : Knows args (rows.map FocusedContinuousRecord.sequence) w
  sequences : (rows.map FocusedContinuousRecord.sequence).Nodup
  listed : ∀ r ∈ rows, r ∈ w.journal ∧ r.state ≠ .complete
  unfollowed : ∀ c ∈ w.children, ∀ r ∈ rows, c.1 ≠ r.sequence

theorem kept_recovering : Kept (Recovering args rows) := by
  intro w w' hages h
  refine ⟨kept_knows w w' hages h.knows, h.sequences, ?_, ?_⟩
  · rw [hages.journal]
    exact h.listed
  · rw [hages.children]
    exact h.unfollowed

/-- What is known of the rows after `record` while the row of `record` changes. -/
structure Later (record : FocusedContinuousRecord) (rows : List FocusedContinuousRecord) (w : FocusedWorld) : Prop where
  sequences : ((record :: rows).map FocusedContinuousRecord.sequence).Nodup
  listed : ∀ r ∈ rows, r ∈ w.journal ∧ r.state ≠ .complete
  unfollowed : ∀ c ∈ w.children, ∀ r ∈ record :: rows, c.1 ≠ r.sequence

theorem kept_later (record : FocusedContinuousRecord) (rows : List FocusedContinuousRecord) :
    Kept (Later record rows) := by
  intro w w' hages h
  refine ⟨h.sequences, ?_, ?_⟩
  · rw [hages.journal]
    exact h.listed
  · rw [hages.children]
    exact h.unfollowed

theorem Recovering.later (h : Recovering args (record :: rows) w) (row : FocusedContinuousRecord)
    (hsequence : row.sequence = record.sequence) (hjournal : w'.journal = w.journal.put row)
    (hchildren : w'.children = w.children) : Later record rows w' := by
  refine ⟨h.sequences, ?_, ?_⟩
  · intro r hr
    obtain ⟨hmem, hstate⟩ := h.listed r (List.mem_cons_of_mem _ hr)
    rw [hjournal]
    refine ⟨FocusedJournal.mem_put_other hmem ?_, hstate⟩
    intro heq
    exact (List.nodup_cons.1 h.sequences).1 (List.mem_map.2 ⟨r, hr, heq.trans hsequence⟩)
  · rw [hchildren]
    exact h.unfollowed

/-- The next row is up. -/
theorem Later.recovering (h : Later record rows w)
    (hknows : Knows args (rows.map FocusedContinuousRecord.sequence) (unfollow w record.sequence)) :
    Recovering args rows w := by
  rw [unfollow_eq fun c hc => h.unfollowed c hc record List.mem_cons_self] at hknows
  exact ⟨hknows, (List.nodup_cons.1 h.sequences).2, h.listed,
    fun c hc r hr => h.unfollowed c hc r (List.mem_cons_of_mem _ hr)⟩

theorem cons_sequences (record : FocusedContinuousRecord) (rows : List FocusedContinuousRecord) (other : Nat)
    (h : other ∈ (record :: rows).map FocusedContinuousRecord.sequence) :
    other = record.sequence ∨ other ∈ rows.map FocusedContinuousRecord.sequence := List.mem_cons.1 h

/-- A transition of recovery. -/
theorem holds_recover_transition (args : FocusedArgs) (rows : List FocusedContinuousRecord) {target : DwellState} {error : Option String} {maximum : Nat}
    (hA : ∀ w, w.Inv → A w → Recovering args (record :: rows) w ∧ Permitted w record target error maximum) :
    Holds A (attempt (.ask (transition record.sequence record.state target error maximum))) fun _ =>
      Recovering args rows := by
  refine Script.returns_weaken (holds_transition args _ _ (kept_later record rows) (cons_sequences record rows) ?_) (fun _ _ h => h)
    fun _ _ _ h => h.2.recovering h.1
  intro w hw ha
  obtain ⟨hrecovering, hpermitted⟩ := hA w hw ha
  refine ⟨hrecovering.knows, record, (hrecovering.listed record List.mem_cons_self).1, rfl, rfl, hpermitted, ?_⟩
  exact hrecovering.later (record.moveTo target error) rfl rfl rfl

/-- `transition` to the same state raises; recovery asks for it at a failed row with contradictory evidence. -/
theorem holds_same_state (hA : ∀ w, w.Inv → A w → record ∈ w.journal) (hfailed : record.state = .failed)
    {error : Option String} {maximum : Nat} {B : Unit → FocusedWorld → Prop} :
    Holds A (attempt (.ask (transition record.sequence record.state .failed error maximum))) B := by
  refine Script.returns_weaken (holds_attempt (B := fun _ => False) (holds_write ?_ ?_)) (fun _ _ h => h)
    fun _ _ _ h => h.elim
  · intro a w w' _ h ha
    exact h ha
  · intro w a w' hw ha hrespond
    simp only [respond, hfailed, FocusedJournal.transition, if_pos] at hrespond
    cases a with
    | ok _ => cases hrespond
    | error e =>
      simp only [write] at hrespond
      split at hrespond
      · cases hrespond
        refine ⟨⟨hw.distinct, hw.identities, hw.alive_visible, fun r hr => (hw.row r hr).congr rfl id le_rfl id,
          hw.claimed, hw.claims, hw.captures_nodup, hw.captures, hw.transitions, ?_⟩, fun h => by cases h⟩
        intro row hrow
        rcases List.mem_cons.1 hrow with rfl | hrow
        · exact ⟨record, FocusedJournal.get_of_mem hw.distinct (hA w hw ha), hfailed⟩
        · exact hw.refusals row hrow
      · cases hrespond

/-- No running process is named by the record, unless its command is a foreign one. -/
def NotLive (record : FocusedContinuousRecord) (allowed_commands : List Digest) (w : FocusedWorld) : Prop :=
  ∀ digest, record.analysis_command_digest = some digest → digest ∈ allowed_commands → ∀ p ∈ w.processes,
    record.Names p.identity.pid p.identity.start_ticks → p.exit ≠ none

theorem holds_identity_is_live (hA : Kept A) (record : FocusedContinuousRecord) (allowed_commands : List Digest) :
    Holds A (identity_is_live record allowed_commands) fun live w => A w ∧
      (∀ identity, live = some identity → record.Names identity.pid identity.start_ticks) ∧
      (live = none → NotLive record allowed_commands w) := by
  unfold identity_is_live
  split
  · rename_i pid start_ticks digest hpid hticks hdigest
    split
    · refine Script.returns_bind (holds_pid_start_ticks hA ⟨pid, start_ticks⟩) ?_
      intro a
      split
      · refine Script.returns_pure ?_
        rintro w _ ⟨ha, _⟩
        refine ⟨ha, ?_, nofun⟩
        intro identity heq
        cases heq
        exact ⟨hpid, hticks⟩
      · rename_i hne
        refine Script.returns_pure ?_
        rintro w _ ⟨ha, hdead⟩
        refine ⟨ha, nofun, ?_⟩
        intro _ _ _ _
        exact dead_of_names ⟨pid, start_ticks⟩ ⟨hpid, hticks⟩ (hdead hne)
    · rename_i hforeign
      refine Script.returns_pure ?_
      intro w _ ha
      refine ⟨ha, nofun, ?_⟩
      intro _ digest' hdigest' hallowed
      rw [hdigest] at hdigest'
      cases hdigest'
      exact absurd hallowed hforeign
  · rename_i hincomplete
    refine Script.returns_pure ?_
    intro w _ ha
    refine ⟨ha, nofun, ?_⟩
    intro _ digest hdigest _ p _ hnames
    exact (hincomplete _ _ _ hnames.1 hnames.2 hdigest).elim

/-- A surviving process is adopted. -/
theorem holds_adopt (identity : ProcessIdentity) (hrunning : record.state = .analysis_running) :
    Holds (fun w => Recovering args (record :: rows) w ∧ record.Names identity.pid identity.start_ticks) (do
      attempt (.ask (set_analysis_nice identity.pid))
      .ask (set_child ⟨record, identity, true⟩)
      pure true) fun ok w => ok = true → Recovering args rows w := by
  have hkept : Kept fun w => Recovering args (record :: rows) w ∧ record.Names identity.pid identity.start_ticks :=
    kept_recovering.and fun _ _ _ h => h
  refine Script.returns_bind (holds_set_analysis_nice hkept.stable identity.pid) ?_
  intro _
  refine Script.returns_bind (holds_write (B := fun _ => Recovering args rows) (fun _ => kept_recovering) ?_) ?_
  · rintro w a w' hw ⟨h, hnames⟩ hrespond
    have hnew := fun c hc => h.unfollowed c hc record List.mem_cons_self
    simp only [respond, setChild_new _ hnew] at hrespond
    cases hrespond
    have hsequences := List.nodup_cons.1 h.sequences
    refine ⟨inv_children hw _, ?_, hsequences.2, fun r hr => h.listed r (List.mem_cons_of_mem _ hr), ?_⟩
    · exact h.knows.follow hw rfl (h.listed record List.mem_cons_self).1 hrunning hnames hnew
    · intro c hc r hr
      rcases List.mem_append.1 hc with hc | hc
      · exact h.unfollowed c hc r (List.mem_cons_of_mem _ hr)
      · rw [List.mem_singleton.1 hc]
        intro heq
        exact hsequences.1 (List.mem_map.2 ⟨r, hr, heq.symm⟩)
  · intro _
    exact Script.returns_pure fun _ _ h _ => h

/-- An attempt whose process does not run is given up. -/
theorem holds_give_up {allowed_commands : List Digest}
    (hstate : record.state = .analysis_running ∨ record.state = .failed)
    (hidentity : record.state = .failed → ∃ pid ticks digest, record.Names pid ticks ∧
      record.analysis_command_digest = some digest)
    (hallowed : ∀ digest, record.analysis_command_digest = some digest → digest ∈ allowed_commands) :
    Holds (fun w => Recovering args (record :: rows) w ∧ NotLive record allowed_commands w) (do
      attempt (.ask (abandon_exact_analysis_process record.sequence record.state record.error record.analysis_pid
        record.analysis_process_start_ticks record.analysis_command_digest true))
      pure true) fun ok w => ok = true → Recovering args rows w := by
  refine Script.returns_bind (holds_abandon args _ _ (kept_later record rows) (cons_sequences record rows) ?_) ?_
  · rintro w hw ⟨h, hdead⟩
    have hrecord := (h.listed record List.mem_cons_self).1
    have hcomplete : ∃ pid ticks digest, record.Names pid ticks ∧ record.analysis_command_digest = some digest := by
      rcases hstate with hrunning | hfailed
      · exact ((hw.row record hrecord).running hrunning).2
      · exact hidentity hfailed
    obtain ⟨pid, ticks, digest, hnames, hdigest⟩ := hcomplete
    refine ⟨h.knows, ⟨hrecord, hstate, ⟨pid, ticks, digest, hnames, hdigest⟩, ?_, .inl rfl⟩, rfl, rfl, rfl,
      h.later record.abandoned rfl rfl rfl⟩
    exact hdead digest hdigest (hallowed digest hdigest)
  · intro _
    exact Script.returns_pure fun _ _ h _ => h.2.recovering h.1

theorem holds_recoverAttempt (hstate : record.state = .analysis_running ∨ record.state = .failed) :
    Holds (Recovering args (record :: rows)) (recoverAttempt args record) fun ok w =>
      ok = true → Recovering args rows w := by
  have hstop : Holds (Recovering args (record :: rows)) (pure false) fun ok w =>
      ok = true → Recovering args rows w := Script.returns_pure fun _ _ _ => nofun
  unfold recoverAttempt
  generalize (args.prior_releases.lookup record.sequence).map (fun command => command record) = prior_command
  dsimp only
  split
  · exact hstop
  rename_i hprior
  split
  · exact hstop
  rename_i hidentity
  refine Script.returns_bind (holds_identity_is_live kept_recovering record _) ?_
  intro live
  split
  · rename_i identity
    split
    · exact Script.returns_pure fun _ _ _ => nofun
    · refine Script.returns_weaken (holds_adopt identity (hstate.resolve_right ‹_›)) ?_ fun _ _ _ h => h
      exact fun _ _ h => ⟨h.1, h.2.1 identity rfl⟩
  · split
    · split
      · exact Script.returns_pure fun _ _ _ => nofun
      · -- the command of another release
        have hrunning := hstate.resolve_right ‹_›
        rw [← hrunning]
        refine Script.returns_bind (holds_recover_transition args rows ?_) ?_
        · rintro w hw ⟨h, _⟩
          refine ⟨h, .inr (.inr rfl), by simp [hrunning], nofun, nofun, ?_⟩
          exact fun _ => .inr (.inr (.inl rfl))
        · intro _
          exact Script.returns_pure fun _ _ _ => nofun
    · rename_i hforeign
      refine Script.returns_weaken (holds_give_up hstate ?_ ?_) (fun _ _ h => ⟨h.1, h.2.2 rfl⟩) fun _ _ _ h => h
      · -- a failed row is abandoned for the command of its prior release only
        intro hfailed
        simp only [hfailed, true_and, not_or, not_not] at hprior
        obtain ⟨digest, hdigest⟩ := Option.ne_none_iff_exists'.1 hprior.1
        simp only [hprior.2.2, true_and, not_or] at hidentity
        obtain ⟨pid, hpid⟩ := Option.ne_none_iff_exists'.1 hidentity.1
        obtain ⟨ticks, hticks⟩ := Option.ne_none_iff_exists'.1 hidentity.2
        exact ⟨pid, ticks, digest, ⟨hpid, hticks⟩, hprior.2.2.trans hdigest⟩
      · intro digest hdigest
        rw [hdigest] at hforeign
        simpa [or_iff_not_imp_left] using hforeign

theorem holds_capture_closed (hA : Kept A) (record : FocusedContinuousRecord) :
    Holds A (.ask (capture_closed record)) fun _ => A := by
  refine holds_quiet hA ?_
  intro w a w' hrespond
  cases hrespond
  exact Ages.refl w

/-- A captured row is left as it is. -/
theorem Recovering.skip (h : Recovering args (record :: rows) w) (hw : w.Inv) (hcaptured : record.state = .captured) :
    Recovering args rows w := by
  have hknows := h.knows
  refine ⟨⟨hknows.maximum, hknows.keys, hknows.follows, ?_⟩, (List.nodup_cons.1 h.sequences).2,
    fun r hr => h.listed r (List.mem_cons_of_mem _ hr), fun c hc r hr => h.unfollowed c hc r (List.mem_cons_of_mem _ hr)⟩
  intro r hr hincomplete
  rcases hknows.settled r hr hincomplete with hstate | hfollowed | hmem
  · exact .inl hstate
  · exact .inr (.inl hfollowed)
  · rcases List.mem_cons.1 hmem with heq | hmem
    · rw [hw.distinct.eq hr (h.listed record List.mem_cons_self).1 heq]
      exact .inl hcaptured
    · exact .inr (.inr hmem)

theorem holds_recoverRecord :
    Holds (Recovering args (record :: rows)) (recoverRecord args record) fun ok w =>
      ok = true → Recovering args rows w := by
  unfold recoverRecord
  refine Script.returns_bind (holds_completion_state kept_recovering record kept_true fun _ _ _ _ => trivial) ?_
  intro completion
  split
  · refine Script.returns_bind (holds_recover_transition args rows ?_) ?_
    · rintro w _ ⟨h, hvalid, _⟩
      refine ⟨h, .inr (.inl rfl), (h.listed record List.mem_cons_self).2, nofun, fun _ => hvalid rfl, nofun⟩
    · intro _
      exact Script.returns_pure fun _ _ h _ => h
  · refine Script.returns_bind (B := fun _ _ => True) ?_ ?_
    · by_cases hfailed : record.state = .failed
      · exact holds_same_state (fun w _ h => (h.1.listed record List.mem_cons_self).1) hfailed
      · refine Script.returns_weaken (holds_recover_transition args rows ?_) (fun _ _ h => h) fun _ _ _ _ => trivial
        rintro w _ ⟨h, _⟩
        exact ⟨h, .inr (.inr rfl), hfailed, nofun, nofun, fun _ => .inr (.inl rfl)⟩
    · intro _
      exact Script.returns_pure fun _ _ _ => nofun
  · split
    · rename_i hplanned
      refine Script.returns_bind (Script.returns_weaken (holds_capture_closed kept_recovering record)
        (fun _ _ h => h.1) fun _ _ _ h => h) ?_
      intro closed
      rw [← hplanned]
      split
      · refine Script.returns_bind (holds_recover_transition args rows ?_) ?_
        · intro w _ h
          exact ⟨h, .inl rfl, by simp [hplanned], fun _ => ⟨hplanned, args.attempts_pos.trans h.knows.maximum⟩, nofun,
            nofun⟩
        · intro _
          exact Script.returns_pure fun _ _ h _ => h
      · refine Script.returns_bind (holds_recover_transition args rows ?_) ?_
        · intro w _ h
          exact ⟨h, .inr (.inr rfl), by simp [hplanned], nofun, nofun, fun _ => .inl hplanned⟩
        · intro _
          exact Script.returns_pure fun _ _ _ => nofun
    · rename_i hcaptured
      refine Script.returns_pure ?_
      rintro w hw ⟨h, _⟩ _
      exact h.skip hw hcaptured
    · exact Script.returns_weaken (holds_recoverAttempt (.inl ‹_›)) (fun _ _ h => h.1) fun _ _ _ h => h
    · exact Script.returns_weaken (holds_recoverAttempt (.inr ‹_›)) (fun _ _ h => h.1) fun _ _ _ h => h
    · exact Script.returns_pure fun _ _ _ => nofun

theorem holds_recoverRecords (args : FocusedArgs) (rows : List FocusedContinuousRecord) :
    Holds (Recovering args rows) (recoverRecords args rows) fun ok w => ok = true → Knows args [] w := by
  induction rows with
  | nil => exact Script.returns_pure fun w _ h _ => h.knows
  | cons record rows ih =>
    refine Script.returns_bind holds_recoverRecord ?_
    intro ok
    split
    · exact Script.returns_weaken ih (fun _ _ h => h ‹_›) fun _ _ _ h => h
    · exact Script.returns_pure fun _ _ _ => nofun

/-- What the journal shows when a supervisor starts. -/
structure Fresh (args : FocusedArgs) (w : FocusedWorld) : Prop where
  maximum : args.maximum_analysis_attempts ≤ w.maximum_analysis_attempts
  children : w.children = []

theorem kept_fresh : Kept (Fresh args) := by
  intro w w' hages h
  constructor
  · rw [hages.maximum_analysis_attempts]
    exact h.maximum
  · rw [hages.children]
    exact h.children

/-- The failed rows among the allow-listed ones. -/
theorem holds_allowlisted (hA : Kept A) (sequences : List Nat) :
    Holds A (allowlisted sequences) fun failed w => A w ∧ ∀ rows, failed = some rows →
      (rows.map FocusedContinuousRecord.sequence).Sublist sequences ∧
      ∀ r ∈ rows, r ∈ w.journal ∧ r.state = .failed := by
  induction sequences generalizing A with
  | nil =>
    refine Script.returns_pure ?_
    intro w _ ha
    refine ⟨ha, ?_⟩
    intro rows heq
    cases heq
    exact ⟨List.Sublist.refl _, nofun⟩
  | cons sequence rest ih =>
    refine Script.returns_bind (holds_get hA sequence) ?_
    intro record
    split
    · exact Script.returns_pure fun w _ h => ⟨h.1, nofun⟩
    · rename_i record
      have hkept : Kept fun w => A w ∧ some record = w.journal.get sequence := by
        refine hA.and ?_
        intro w w' hages h
        rw [hages.journal]
        exact h
      refine Script.returns_bind (ih hkept) ?_
      intro records
      refine Script.returns_pure ?_
      rintro w _ ⟨⟨ha, hget⟩, hrows⟩
      refine ⟨ha, ?_⟩
      intro rows heq
      obtain ⟨rows', rfl, rfl⟩ := Option.map_eq_some_iff.1 heq
      obtain ⟨hsublist, hfailed⟩ := hrows rows' rfl
      obtain ⟨hrecord, hsequence⟩ := FocusedJournal.mem_of_get hget.symm
      split
      · refine ⟨?_, ?_⟩
        · rw [List.map_cons, hsequence]
          exact hsublist.cons_cons _
        · intro r hr
          rcases List.mem_cons.1 hr with rfl | hr
          · exact ⟨hrecord, ‹_›⟩
          · exact hfailed r hr
      · exact ⟨hsublist.cons _, hfailed⟩

/-- The rows that recovery sorts. -/
theorem recovering_sorted {failed : List FocusedContinuousRecord} (hw : w.Inv) (hfresh : Fresh args w)
    (hsequences : (failed.map FocusedContinuousRecord.sequence).Nodup)
    (hfailed : ∀ r ∈ failed, r ∈ w.journal ∧ r.state = .failed) :
    Recovering args ((w.journal.incomplete ++ failed).insertionSort fun r r' => r.sequence ≤ r'.sequence) w := by
  have hperm := List.perm_insertionSort (fun r r' : FocusedContinuousRecord => r.sequence ≤ r'.sequence)
    (w.journal.incomplete ++ failed)
  have hincomplete : ∀ r, r ∈ w.journal.incomplete ↔ r ∈ w.journal ∧ r.Incomplete := by
    intro r
    simp [FocusedJournal.incomplete]
  constructor
  case knows =>
    refine ⟨hfresh.maximum, ?_, ?_, ?_⟩
    · rw [hfresh.children]
      exact List.nodup_nil
    · rw [hfresh.children]
      nofun
    · intro r hr hopen
      refine .inr (.inr (List.mem_map_of_mem (hperm.mem_iff.2 ?_)))
      exact List.mem_append_left _ ((hincomplete r).2 ⟨hr, hopen⟩)
  case sequences =>
    refine (hperm.map _).nodup_iff.2 ?_
    rw [List.map_append, List.nodup_append]
    refine ⟨hw.distinct.sublist (List.filter_sublist.map _), hsequences, ?_⟩
    intro s hs s' hs' heq
    obtain ⟨r, hr, rfl⟩ := List.mem_map.1 hs
    obtain ⟨r', hr', rfl⟩ := List.mem_map.1 hs'
    obtain ⟨hmem, hopen⟩ := (hincomplete r).1 hr
    obtain ⟨hmem', hstate⟩ := hfailed r' hr'
    rw [hw.distinct.eq hmem hmem' heq] at hopen
    exact hopen.2 hstate
  case listed =>
    intro r hr
    rcases List.mem_append.1 (hperm.mem_iff.1 hr) with hr | hr
    · obtain ⟨hmem, hopen⟩ := (hincomplete r).1 hr
      exact ⟨hmem, hopen.1⟩
    · obtain ⟨hmem, hstate⟩ := hfailed r hr
      exact ⟨hmem, by simp [hstate]⟩
  case unfollowed =>
    rw [hfresh.children]
    nofun

/-- `_recover` settles every dwell, or stops. -/
theorem holds_recover (args : FocusedArgs) :
    Holds (Fresh args) (recover args) fun ok w => ok = true → Knows args [] w := by
  refine Script.returns_bind (holds_incomplete kept_fresh) ?_
  intro incomplete
  have hkept : Kept fun w => Fresh args w ∧ incomplete = w.journal.incomplete := by
    refine kept_fresh.and ?_
    intro w w' hages h
    rw [hages.journal]
    exact h
  refine Script.returns_bind (holds_allowlisted hkept _) ?_
  intro failed
  split
  · exact Script.returns_pure fun _ _ _ => nofun
  rename_i failed
  refine Script.returns_bind (Script.returns_weaken (holds_recoverRecords args _) ?_ fun _ _ _ h => h) ?_
  · rintro w hw ⟨⟨hfresh, rfl⟩, hfailed⟩
    obtain ⟨hsublist, hrows⟩ := hfailed failed rfl
    exact recovering_sorted hw hfresh (args.releases_nodup.sublist hsublist) hrows
  · intro ok
    split
    · refine Script.returns_bind (Script.returns_weaken (holds_dispatch_captured_available args)
        (fun _ _ h => h ‹_›) fun _ _ _ h => h) ?_
      intro _
      exact Script.returns_pure fun _ _ h _ => h
    · exact Script.returns_pure fun _ _ _ => nofun

end FocusedSupervisor

end LeoFlow
