import LeoFlow.Deployments.FocusedInvariant

/-!
# LeoFlow.Deployments.FocusedAnalysis — reaping and dispatching analysis children

`_reap` and `_dispatch_captured_available` keep what a supervisor knows.
-/

namespace LeoFlow

namespace FocusedSupervisor

open FocusedWorld SupervisorAct

variable {A : FocusedWorld → Prop} {args : FocusedArgs} {todo todo' : List Nat} {w w' : FocusedWorld}
  {record : FocusedContinuousRecord} {rows : List FocusedContinuousRecord}

/-! ## `_reap` -/

/-- A child ended, or left its receipt. -/
def Ended (w : FocusedWorld) (child : AnalysisChild) (result : Int) : Prop :=
  w.Dead child.identity ∨ (result = 0 ∧ w.completion child.record.sequence = .valid)

theorem kept_dead (identity : ProcessIdentity) : Kept fun w => w.Dead identity := fun _ _ hages h => hages.dead h

theorem kept_receipt {sequence : Nat} : Kept fun w => w.completion sequence = .valid :=
  fun _ _ hages h => hages.receipts _ h

theorem kept_ended {child : AnalysisChild} {result : Int} : Kept fun w => Ended w child result := by
  intro w w' hages h
  exact h.imp (kept_dead _ w w' hages) fun h => ⟨h.1, hages.receipts _ h.2⟩

theorem kept_imp {P : Prop} {B : FocusedWorld → Prop} (hB : Kept B) : Kept fun w => P → B w :=
  fun w w' hages h hp => hB w w' hages (h hp)

/-- A receipt that is valid stays; what follows while it is not is known when it is read. -/
theorem holds_completion_state (hA : Kept A) (record : FocusedContinuousRecord) {F : FocusedWorld → Prop}
    (hF : Kept F) (h : ∀ w, w.Inv → A w → w.completion record.sequence ≠ .valid → F w) :
    Holds A (.ask (completion_state record)) fun a w =>
      A w ∧ (a = .valid → w.completion record.sequence = .valid) ∧ (a ≠ .valid → F w) := by
  refine holds_read hA (fun a => (kept_imp kept_receipt).and (kept_imp hF)) ?_
  intro w a w' hw ha hrespond
  simp only [respond] at hrespond
  split at hrespond
  · rename_i heq
    cases hrespond
    exact ⟨Ages.refl w, fun hvalid => heq ▸ hvalid, fun hne => h w hw ha (heq ▸ hne)⟩
  · cases hrespond

theorem kept_true : Kept fun _ => True := fun _ _ _ h => h

/-- The start ticks of a pid show a process that does not run. -/
theorem holds_pid_start_ticks (hA : Kept A) (identity : ProcessIdentity) :
    Holds A (.ask (pid_start_ticks identity.pid)) fun a w =>
      A w ∧ (a ≠ some identity.start_ticks → w.Dead identity) := by
  refine holds_read hA (fun a => kept_imp (kept_dead _)) ?_
  intro w a w' hw _ hrespond
  simp only [respond] at hrespond
  split at hrespond
  · rename_i hseen
    cases hrespond
    refine ⟨Ages.refl w, ?_⟩
    rintro hne p hp rfl halive
    exact hne (hseen p hp (hw.alive_visible p hp halive) rfl)
  · cases hrespond

variable {identity : ProcessIdentity}

/-- An own process with an exit status does not run. -/
theorem dead_of_status {code : Int} (hw : w.Inv) (h : w.status identity = some (some code)) : w.Dead identity := by
  obtain ⟨p, hp, hexit⟩ := Option.map_eq_some_iff.1 h
  have hidentity : p.identity = identity := by simpa using List.find?_some hp
  intro p' hp' heq
  have hsame : p' = p :=
    List.inj_on_of_nodup_map hw.identities hp' (List.mem_of_find?_eq_some hp) (heq.trans hidentity.symm)
  rw [hsame, hexit]
  nofun

theorem holds_poll (hA : Kept A) (identity : ProcessIdentity) :
    Holds A (.ask (poll identity)) fun a w => A w ∧ (a ≠ none → w.Dead identity) := by
  refine holds_read hA (fun a => kept_imp (kept_dead _)) ?_
  intro w a w' hw _ hrespond
  simp only [respond] at hrespond
  split at hrespond
  · rename_i hstatus
    cases hrespond
    refine ⟨Ages.reaped w identity, ?_⟩
    intro hne
    obtain ⟨code, rfl⟩ := Option.ne_none_iff_exists'.1 hne
    exact (Ages.reaped w identity).dead (dead_of_status hw hstatus)
  · cases hrespond

theorem holds_pollChild (hA : Kept A) (child : AnalysisChild) :
    Holds A (pollChild child) fun r w => A w ∧ ∀ result, r = some result → Ended w child result := by
  unfold pollChild
  split
  · -- a recovered process: its receipt, then its identity
    refine Script.returns_bind (holds_completion_state hA child.record kept_true fun _ _ _ _ => trivial) ?_
    intro state
    split
    · rename_i hstate
      refine Script.returns_pure ?_
      rintro w _ ⟨ha, hvalid, _⟩
      refine ⟨ha, ?_⟩
      intro result hresult
      cases hresult
      exact .inr ⟨rfl, hvalid hstate⟩
    · refine Script.returns_weaken (Script.returns_bind (holds_pid_start_ticks hA child.identity) ?_)
        (fun _ _ h => h.1) fun _ _ _ h => h
      intro ticks
      split
      · refine Script.returns_pure ?_
        rintro w _ ⟨ha, _⟩
        exact ⟨ha, nofun⟩
      · refine Script.returns_pure ?_
        rintro w _ ⟨ha, hdead⟩
        exact ⟨ha, fun _ _ => .inl (hdead ‹_›)⟩
  · refine Script.returns_weaken (holds_poll hA child.identity) (fun _ _ h => h) ?_
    rintro r w _ ⟨ha, hdead⟩
    refine ⟨ha, ?_⟩
    intro result hresult
    exact .inl (hdead (by simp [hresult]))

/-- The entries that the loop of `_reap` has yet to visit. -/
structure Pending (args : FocusedArgs) (entries : List (Nat × AnalysisChild)) (w : FocusedWorld) : Prop where
  knows : Knows args [] w
  keys : (entries.map Prod.fst).Nodup
  entries : ∀ c ∈ entries, c ∈ w.children

theorem kept_pending {entries : List (Nat × AnalysisChild)} : Kept (Pending args entries) := by
  intro w w' hages h
  refine ⟨kept_knows w w' hages h.knows, h.keys, ?_⟩
  rw [hages.children]
  exact h.entries

variable {entry : Nat × AnalysisChild} {entries : List (Nat × AnalysisChild)}

/-- The row of the entry is settled, the entry is to be deleted. -/
def Settled (args : FocusedArgs) (entry : Nat × AnalysisChild) (entries : List (Nat × AnalysisChild))
    (w : FocusedWorld) : Prop :=
  Knows args [] (unfollow w entry.1) ∧ ((entry :: entries).map Prod.fst).Nodup ∧ ∀ c ∈ entries, c ∈ w.children

theorem kept_entries (entry : Nat × AnalysisChild) (entries : List (Nat × AnalysisChild)) : Kept fun w => ((entry :: entries).map Prod.fst).Nodup ∧ ∀ c ∈ entries, c ∈ w.children := by
  intro w w' hages h
  rw [hages.children]
  exact h

theorem inv_children (hw : w.Inv) (children : List (Nat × AnalysisChild)) :
    FocusedWorld.Inv { w with children := children } :=
  ⟨hw.distinct, hw.identities, hw.alive_visible, fun r hr => (hw.row r hr).congr rfl id le_rfl id, hw.claimed,
    hw.claims, hw.captures_nodup, hw.captures, hw.transitions, hw.refusals⟩

theorem holds_delete_child :
    Holds (Settled args entry entries) (.ask (delete_child entry.1)) fun _ => Pending args entries := by
  refine holds_write (fun _ => kept_pending) ?_
  rintro w a w' hw ⟨hknows, hkeys, hentries⟩ hrespond
  cases hrespond
  rw [List.map_cons, List.nodup_cons] at hkeys
  refine ⟨inv_children hw _, hknows, hkeys.2, ?_⟩
  intro c hc
  refine List.mem_filter.2 ⟨hentries c hc, ?_⟩
  have hne : c.1 ≠ entry.1 := fun heq => hkeys.1 (heq ▸ List.mem_map_of_mem hc)
  simpa using hne

theorem holds_outcome (entries : List (Nat × AnalysisChild)) (result : Int) :
    Holds (fun w => Pending args (entry :: entries) w ∧ Ended w entry.2 result)
      (outcome args.maximum_analysis_attempts entry.1 entry.2 result) fun error w =>
      match error with
      | none => Settled args entry entries w
      | some _ => Pending args (entry :: entries) w ∧ w.Dead entry.2.identity := by
  unfold outcome
  split
  · refine Script.returns_bind (holds_completion_state (kept_pending.and kept_ended) entry.2.record
    (kept_dead entry.2.identity) ?_) ?_
    · intro w _ ⟨_, hended⟩ hne
      exact hended.resolve_right fun h => hne h.2
    intro state
    split
    · rename_i hstate
      refine Script.returns_bind (holds_transition args [] [] (kept_entries entry entries) nofun ?_) ?_
      · rintro w hw ⟨⟨hpending, _⟩, hvalid, _⟩
        have hfollows := hpending.knows.follows entry (hpending.entries entry List.mem_cons_self)
        refine ⟨hpending.knows, entry.2.record, hfollows.row, hfollows.key, hfollows.running, ?_, hpending.keys, ?_⟩
        · exact ⟨.inr (.inl rfl), by simp [hfollows.running], nofun, fun _ => hvalid hstate, nofun⟩
        · exact fun c hc => hpending.entries c (List.mem_cons_of_mem _ hc)
      · intro _
        exact Script.returns_pure fun w _ h => h
    · refine Script.returns_pure ?_
      rintro w _ ⟨⟨hpending, _⟩, _, hdead⟩
      exact ⟨hpending, hdead ‹_›⟩
  · rename_i hresult
    refine Script.returns_pure ?_
    rintro w _ ⟨hpending, hended⟩
    exact ⟨hpending, hended.resolve_right fun h => hresult h.1⟩

/-- A record names one process. -/
theorem names_unique {record : FocusedContinuousRecord} {other : ProcessIdentity}
    (h : record.Names identity.pid identity.start_ticks) (hother : record.Names other.pid other.start_ticks) :
    identity = other := by
  have hpid : identity.pid = other.pid := Option.some.inj (h.1.symm.trans hother.1)
  have hticks : identity.start_ticks = other.start_ticks := Option.some.inj (h.2.symm.trans hother.2)
  cases identity
  cases other
  cases hpid
  cases hticks
  rfl

/-- Where the named process does not run, no process of that name does. -/
theorem dead_of_names {record : FocusedContinuousRecord} (identity : ProcessIdentity)
    (hnames : record.Names identity.pid identity.start_ticks) (hdead : w.Dead identity) :
    ∀ p ∈ w.processes, record.Names p.identity.pid p.identity.start_ticks → p.exit ≠ none :=
  fun p hp hother => hdead p hp (names_unique hother hnames)

theorem holds_retry (error : String) :
    Holds (fun w => Pending args (entry :: entries) w ∧ w.Dead entry.2.identity)
      (retry args.maximum_analysis_attempts entry.1 entry.2 error) fun _ => Settled args entry entries := by
  unfold retry
  split
  · refine holds_abandon args [] [] (kept_entries entry entries) nofun ?_
    rintro w hw ⟨hpending, hdead⟩
    have hfollows := hpending.knows.follows entry (hpending.entries entry List.mem_cons_self)
    have hrow := (hw.row _ hfollows.row).running hfollows.running
    refine ⟨hpending.knows, ⟨hfollows.row, .inl hfollows.running, hrow.2, dead_of_names _ hfollows.names hdead, ?_⟩,
      hfollows.key, hfollows.running, hrow.1, hpending.keys, ?_⟩
    · exact .inr (Nat.lt_of_lt_of_le ‹_› hpending.knows.maximum)
    · exact fun c hc => hpending.entries c (List.mem_cons_of_mem _ hc)
  · refine holds_transition args [] [] (kept_entries entry entries) nofun ?_
    rintro w hw ⟨hpending, hdead⟩
    have hfollows := hpending.knows.follows entry (hpending.entries entry List.mem_cons_self)
    refine ⟨hpending.knows, entry.2.record, hfollows.row, hfollows.key, hfollows.running, ?_, hpending.keys, ?_⟩
    · refine ⟨.inr (.inr rfl), by simp [hfollows.running], nofun, nofun, ?_⟩
      intro _
      exact .inr (.inr (.inr (Nat.le_of_not_lt ‹_›)))
    · exact fun c hc => hpending.entries c (List.mem_cons_of_mem _ hc)

theorem holds_reapChild :
    Holds (Pending args (entry :: entries)) (reapChild args.maximum_analysis_attempts entry) fun _ =>
      Pending args entries := by
  unfold reapChild
  refine Script.returns_bind (holds_pollChild kept_pending entry.2) ?_
  intro result
  split
  · refine Script.returns_pure ?_
    rintro w _ ⟨hpending, _⟩
    refine ⟨hpending.knows, (List.nodup_cons.1 hpending.keys).2, ?_⟩
    exact fun c hc => hpending.entries c (List.mem_cons_of_mem _ hc)
  · rename_i result
    refine Script.returns_bind (Script.returns_weaken (holds_outcome entries result) ?_ fun _ _ _ h => h) ?_
    · rintro w _ ⟨hpending, hended⟩
      exact ⟨hpending, hended result rfl⟩
    · intro error
      split
      · exact holds_delete_child
      · exact Script.returns_bind (holds_retry _) fun _ => holds_delete_child

theorem holds_children (hA : Kept A) :
    Holds A (.ask SupervisorAct.children) fun a w => A w ∧ a = w.children := by
  refine holds_read hA ?_ ?_
  · intro a w w' hages h
    rw [hages.children]
    exact h
  · intro w a w' _ _ hrespond
    simp only [respond] at hrespond
    split at hrespond
    · rename_i heq
      cases hrespond
      exact ⟨Ages.refl w, heq⟩
    · cases hrespond

/-- `_reap` keeps what a supervisor knows. -/
theorem holds_reap (args : FocusedArgs) :
    Holds (Knows args []) (reap args.maximum_analysis_attempts) fun _ => Knows args [] := by
  refine Script.returns_bind (holds_children kept_knows) ?_
  intro children
  refine Script.returns_weaken (Script.returns_forEach (I := Pending args) (fun _ _ => holds_reapChild) children) ?_
    fun _ _ _ h => h.knows
  rintro w _ ⟨hknows, rfl⟩
  exact ⟨hknows, hknows.keys, fun _ hc => hc⟩

/-! ## `_dispatch` -/

/-- The captured rows that are yet to be dispatched. -/
structure Queue (args : FocusedArgs) (rows : List FocusedContinuousRecord) (w : FocusedWorld) : Prop where
  knows : Knows args [] w
  sequences : (rows.map FocusedContinuousRecord.sequence).Nodup
  listed : ∀ r ∈ rows, r ∈ w.journal ∧ r.state = .captured

theorem kept_queue {rows : List FocusedContinuousRecord} : Kept (Queue args rows) := by
  intro w w' hages h
  refine ⟨kept_knows w w' hages h.knows, h.sequences, ?_⟩
  rw [hages.journal]
  exact h.listed

/-- A process that the supervisor started and has not waited for. -/
def Own (identity : ProcessIdentity) (w : FocusedWorld) : Prop :=
  identity ∈ w.owned ∧ w.Seen identity ∧ identity.pid ≠ 0 ∧ identity.start_ticks ≠ 0

theorem stable_own : contract.Stable () (Own identity) := by
  rintro w w' _ _ h ⟨howned, hseen, hpos⟩
  refine ⟨?_, h.seen identity howned hseen, hpos⟩
  rw [h.ages.rest]
  exact howned

/-- A new process. -/
theorem inv_popen (hw : w.Inv) (hfresh : ∀ p ∈ w.processes, p.identity ≠ identity) (sequence : Nat) :
    FocusedWorld.Inv { w with
      processes := ⟨identity, sequence, none, true⟩ :: w.processes
      owned := identity :: w.owned } := by
  have hnew : identity ∉ w.processes.map AnalysisProcess.identity := by
    intro h
    obtain ⟨p, hp, heq⟩ := List.mem_map.1 h
    exact hfresh p hp heq
  refine ⟨hw.distinct, ?_, ?_, fun r hr => (hw.row r hr).congr rfl id le_rfl id, ?_, ?_, hw.captures_nodup,
    hw.captures, hw.transitions, hw.refusals⟩
  · exact List.nodup_cons.2 ⟨hnew, hw.identities⟩
  · intro p hp halive
    rcases List.mem_cons.1 hp with rfl | hp
    · rfl
    · exact hw.alive_visible p hp halive
  · intro p hp halive r hr hclaim
    rcases List.mem_cons.1 hp with rfl | hp
    · exact absurd (hw.claims _ hclaim).2 hnew
    · exact hw.claimed p hp halive r hr hclaim
  · intro c hc
    exact ⟨(hw.claims c hc).1, List.mem_cons_of_mem _ (hw.claims c hc).2⟩

theorem holds_popen :
    Holds (Queue args (record :: rows)) (.ask (popen record)) fun a w =>
      ∀ identity, a = .ok identity → Queue args (record :: rows) w ∧ Own identity w := by
  refine Script.returns_ask ?_ ?_
  · intro a w w' hw hw' hrely h identity ha
    exact ⟨kept_queue w w' hrely.ages (h identity ha).1, stable_own w w' hw hw' hrely (h identity ha).2⟩
  · intro w a w' hw hqueue hrespond
    cases a with
    | error e =>
      cases hrespond
      exact ⟨allows hw, nofun⟩
    | ok identity =>
      simp only [respond] at hrespond
      split at hrespond
      · rename_i hnew
        cases hrespond
        refine ⟨allows (inv_popen hw hnew.2.2.1 record.sequence), ?_⟩
        intro identity' heq
        cases heq
        have hknows := hqueue.knows
        refine ⟨⟨⟨hknows.maximum, hknows.keys, ?_, hknows.settled⟩, hqueue.sequences, hqueue.listed⟩,
          List.mem_cons_self, ⟨_, List.mem_cons_self, rfl, rfl⟩, hnew.1, hnew.2.1⟩
        intro c hc
        have hfollows := hknows.follows c hc
        exact ⟨hfollows.key, hfollows.row, hfollows.running, hfollows.names⟩
      · cases hrespond

/-- Between the claim and the entry in `children`. -/
structure Claimed (args : FocusedArgs) (record : FocusedContinuousRecord) (rows : List FocusedContinuousRecord)
    (identity : ProcessIdentity) (w : FocusedWorld) : Prop where
  knows : Knows args [record.sequence] w
  unfollowed : ∀ c ∈ w.children, c.1 ≠ record.sequence
  row : ∃ r ∈ w.journal, r.sequence = record.sequence ∧ r.state = .analysis_running ∧
    r.Names identity.pid identity.start_ticks
  sequences : (rows.map FocusedContinuousRecord.sequence).Nodup
  listed : ∀ r ∈ rows, r ∈ w.journal ∧ r.state = .captured

theorem kept_claimed : Kept (Claimed args record rows identity) := by
  intro w w' hages h
  refine ⟨kept_knows w w' hages h.knows, ?_, ?_, h.sequences, ?_⟩
  · rw [hages.children]
    exact h.unfollowed
  · rw [hages.journal]
    exact h.row
  · rw [hages.journal]
    exact h.listed

/-- The claim of the first row of the queue. -/
theorem Queue.claimed (h : Queue args (record :: rows) w) (hw : w.Inv) (identity : ProcessIdentity) (digest : Digest) :
    Claimed args record rows identity (claimed w record identity digest) := by
  obtain ⟨hrecord, hcaptured⟩ := h.listed record List.mem_cons_self
  have hunfollowed := h.knows.unfollowed hw hrecord (by simp [hcaptured])
  have hsequences := List.nodup_cons.1 h.sequences
  constructor
  case knows =>
    rw [← unfollow_eq (w := FocusedSupervisor.claimed w record identity digest) hunfollowed]
    exact h.knows.put (record.claimed identity.pid identity.start_ticks digest) rfl rfl rfl rfl nofun
      fun _ => .inr List.mem_cons_self
  case unfollowed => exact hunfollowed
  case row =>
    exact ⟨record.claimed identity.pid identity.start_ticks digest, FocusedJournal.mem_put_self hrecord rfl, rfl, rfl,
      rfl, rfl⟩
  case sequences => exact hsequences.2
  case listed =>
    intro r hr
    obtain ⟨hmem, hstate⟩ := h.listed r (List.mem_cons_of_mem _ hr)
    refine ⟨FocusedJournal.mem_put_other hmem ?_, hstate⟩
    intro heq
    exact hsequences.1 (List.mem_map.2 ⟨r, hr, heq⟩)

theorem holds_set_analysis_nice (hA : contract.Stable () A) (pid : Nat) :
    Holds A (attempt (.ask (set_analysis_nice pid))) fun _ => A := by
  have hask : Holds A (.ask (set_analysis_nice pid)) fun a w => a = .ok () → A w := by
    refine Script.returns_ask ?_ ?_
    · intro a w w' hw hw' hrely h ha
      exact hA w w' hw hw' hrely (h ha)
    · intro w a w' hw h hrespond
      cases hrespond
      exact ⟨allows hw, fun _ => h⟩
  exact holds_attempt hask

theorem holds_claim (record : FocusedContinuousRecord) (rows : List FocusedContinuousRecord)
    (identity : ProcessIdentity) :
    Holds (fun w => Queue args (record :: rows) w ∧ Own identity w) (claim args record identity) fun _ =>
      Claimed args record rows identity := by
  unfold claim
  have hstable : contract.Stable () fun w => Queue args (record :: rows) w ∧ Own identity w :=
    kept_queue.stable.and stable_own
  refine Script.returns_bind (holds_set_analysis_nice hstable identity.pid) ?_
  intro _
  refine Script.returns_bind (Script.returns_ask (B := fun a w => Queue args (record :: rows) w ∧ Own identity w ∧
    a = some identity.start_ticks) ?_ ?_) ?_
  · rintro a w w' hw hw' hrely ⟨hqueue, hown, ha⟩
    exact ⟨kept_queue w w' hrely.ages hqueue, stable_own w w' hw hw' hrely hown, ha⟩
  · rintro w a w' hw ⟨hqueue, hown⟩ hrespond
    simp only [respond] at hrespond
    split at hrespond
    · rename_i hseen
      cases hrespond
      obtain ⟨p, hp, rfl, hvisible⟩ := hown.2.1
      exact ⟨allows hw, hqueue, hown, hseen p hp hvisible rfl⟩
    · cases hrespond
  intro a
  split
  · exact Script.returns_raise
  · rename_i start_ticks
    refine holds_attempt (holds_write ?_ ?_)
    · intro a w w' hages h ha
      exact kept_claimed w w' hages (h ha)
    · rintro w a w' hw ⟨hqueue, ⟨_, ⟨p, hp, hidentity, _⟩, hpos⟩, hticks⟩ hrespond
      cases hticks
      obtain ⟨hrecord, hcaptured⟩ := hqueue.listed record List.mem_cons_self
      obtain ⟨_, rfl⟩ := respond_claim hw hrecord hcaptured hpos hrespond
      refine ⟨inv_claimed hw hrecord hcaptured hpos ?_ _, fun _ => hqueue.claimed hw identity _⟩
      exact List.mem_map.2 ⟨p, hp, hidentity⟩

/-- A wait, which tells nothing that is used. -/
theorem holds_wait (hA : Kept A) (identity : ProcessIdentity) (timeout : Bool) :
    Holds A (.ask (wait identity timeout)) fun _ => A := by
  refine holds_quiet hA ?_
  intro w a w' hrespond
  simp only [respond] at hrespond
  split at hrespond
  · cases hrespond
    exact Ages.reaped w identity
  · cases hrespond

theorem holds_terminate (hA : Kept A) (identity : ProcessIdentity) :
    Holds A (attempt (.ask (terminate identity))) fun _ => A := by
  refine holds_attempt (Script.returns_weaken (holds_quiet hA ?_) (fun _ _ h => h) fun _ _ _ h _ => h)
  intro w a w' hrespond
  cases hrespond
  exact Ages.refl w

theorem holds_withdraw (identity : ProcessIdentity) (error : SupervisorError) :
    Holds (fun _ => True) (withdraw identity error) fun _ _ => False := by
  refine Script.returns_bind (holds_terminate kept_true identity) ?_
  intro _
  refine Script.returns_bind (holds_wait kept_true identity true) ?_
  intro a
  split
  · exact Script.returns_raise
  · exact Script.returns_raise

theorem holds_get (hA : Kept A) (sequence : Nat) :
    Holds A (.ask (get sequence)) fun a w => A w ∧ a = w.journal.get sequence := by
  refine holds_read hA ?_ ?_
  · intro a w w' hages h
    rw [hages.journal]
    exact h
  · intro w a w' _ _ hrespond
    simp only [respond] at hrespond
    split at hrespond
    · rename_i heq
      cases hrespond
      exact ⟨Ages.refl w, heq⟩
    · cases hrespond

theorem setChild_new {children : List (Nat × AnalysisChild)} {sequence : Nat} (child : AnalysisChild)
    (h : ∀ c ∈ children, c.1 ≠ sequence) : setChild children sequence child = children ++ [(sequence, child)] := by
  unfold setChild
  rw [if_neg]
  rw [List.any_eq_true]
  rintro ⟨c, hc, heq⟩
  exact h c hc (by simpa using heq)

/-- A running row gets its entry. -/
theorem Knows.follow {todo : List Nat} {sequence : Nat} (h : Knows args (sequence :: todo) w) (hw : w.Inv)
    {child : AnalysisChild} (hsequence : child.record.sequence = sequence) (hrow : child.record ∈ w.journal)
    (hrunning : child.record.state = .analysis_running)
    (hnames : child.record.Names child.identity.pid child.identity.start_ticks)
    (hnew : ∀ c ∈ w.children, c.1 ≠ sequence) :
    Knows args todo { w with children := w.children ++ [(sequence, child)] } := by
  constructor
  case maximum => exact h.maximum
  case keys =>
    show ((w.children ++ [(sequence, child)]).map Prod.fst).Nodup
    rw [List.map_append, List.nodup_append]
    refine ⟨h.keys, List.nodup_singleton _, ?_⟩
    intro s hs s' hs' heq
    obtain ⟨c, hc, rfl⟩ := List.mem_map.1 hs
    rw [List.map_singleton, List.mem_singleton] at hs'
    exact hnew c hc (heq.trans hs')
  case follows =>
    intro c hc
    rcases List.mem_append.1 hc with hc | hc
    · have hfollows := h.follows c hc
      exact ⟨hfollows.key, hfollows.row, hfollows.running, hfollows.names⟩
    · rw [List.mem_singleton.1 hc]
      exact ⟨hsequence, hrow, hrunning, hnames⟩
  case settled =>
    intro r hr hincomplete
    show _ ∨ (_ ∧ _ ∈ (w.children ++ [(sequence, child)]).map Prod.fst) ∨ _
    rw [List.map_append, List.mem_append]
    rcases h.settled r hr hincomplete with hcaptured | ⟨hr', hkey⟩ | hmem
    · exact .inl hcaptured
    · exact .inr (.inl ⟨hr', .inl hkey⟩)
    · rcases List.mem_cons.1 hmem with heq | hmem
      · rw [hw.distinct.eq hr hrow (heq.trans hsequence.symm)]
        exact .inr (.inl ⟨hrunning, .inr (by simp [hsequence])⟩)
      · exact .inr (.inr hmem)

/-- `_dispatch` of the first row of the queue. -/
theorem holds_dispatch :
    Holds (Queue args (record :: rows)) (dispatch args record) fun _ => Queue args rows := by
  unfold dispatch
  split
  · exact Script.returns_raise
  refine Script.returns_bind holds_popen ?_
  intro a
  split
  · exact Script.returns_raise
  rename_i identity
  refine Script.returns_weaken (Script.returns_bind
    (Script.returns_handle (holds_claim record rows identity) (holds_withdraw identity)) ?_)
    (fun w _ h => h identity rfl) fun _ _ _ h => h
  intro _
  refine Script.returns_bind (holds_get kept_claimed record.sequence) ?_
  intro a
  split
  · exact Script.returns_raise
  rename_i running
  refine holds_write (fun _ => kept_queue) ?_
  rintro w a w' hw ⟨hclaimed, hget⟩ hrespond
  obtain ⟨hrunning, hsequence⟩ := FocusedJournal.mem_of_get hget.symm
  obtain ⟨r, hr, hr', hstate, hnames⟩ := hclaimed.row
  have hsame : running = r := hw.distinct.eq hrunning hr (hsequence.trans hr'.symm)
  subst hsame
  simp only [respond, hsequence, setChild_new _ hclaimed.unfollowed] at hrespond
  cases hrespond
  refine ⟨inv_children hw _, ?_, hclaimed.sequences, hclaimed.listed⟩
  exact hclaimed.knows.follow hw hsequence hrunning hstate hnames hclaimed.unfollowed

theorem holds_incomplete (hA : Kept A) :
    Holds A (.ask SupervisorAct.incomplete) fun a w => A w ∧ a = w.journal.incomplete := by
  refine holds_read hA ?_ ?_
  · intro a w w' hages h
    rw [hages.journal]
    exact h
  · intro w a w' _ _ hrespond
    simp only [respond] at hrespond
    split at hrespond
    · rename_i heq
      cases hrespond
      exact ⟨Ages.refl w, heq⟩
    · cases hrespond

theorem holds_captured_work (hA : Kept A) :
    Holds A captured_work fun a w => A w ∧ a = w.journal.incomplete.filter fun r => r.state = .captured := by
  refine Script.returns_bind (holds_incomplete hA) ?_
  intro incomplete
  refine Script.returns_pure ?_
  rintro w _ ⟨ha, rfl⟩
  exact ⟨ha, rfl⟩

/-- `_dispatch_captured_available` keeps what a supervisor knows. -/
theorem holds_dispatch_captured_available (args : FocusedArgs) :
    Holds (Knows args []) (dispatch_captured_available args) fun _ => Knows args [] := by
  refine Script.returns_bind (Script.returns_weaken (holds_children kept_knows) (fun _ _ h => h)
    fun _ _ _ h => h.1) ?_
  intro children
  split
  · exact Script.returns_pure fun _ _ h => h
  · refine Script.returns_bind (holds_captured_work kept_knows) ?_
    intro captured
    refine Script.returns_weaken (Script.returns_forEach (I := Queue args) (fun _ _ => holds_dispatch) _) ?_
      fun _ _ _ h => h.knows
    rintro w hw ⟨hknows, rfl⟩
    have hsublist : ((w.journal.incomplete.filter fun r => r.state = .captured).take
        (args.maximum_in_flight_analyses - children.length)).Sublist w.journal :=
      ((List.take_sublist _ _).trans List.filter_sublist).trans List.filter_sublist
    refine ⟨hknows, hw.distinct.sublist (hsublist.map _), ?_⟩
    intro r hr
    refine ⟨hsublist.subset hr, ?_⟩
    have hfilter := List.mem_of_mem_take hr
    simpa using (List.mem_filter.1 hfilter).2

end FocusedSupervisor

end LeoFlow
