import LeoFlow.Deployments.FocusedSupervisor

/-!
# LeoFlow.Deployments.FocusedInvariant — what holds between the acts of a supervisor

* `FocusedWorld.Inv`: speaks of the journal, the receipts and the processes, so it survives the supervisors;
* `Beside`: what happens beside a supervisor;
* `Knows`: what a supervisor knows in addition, of its `children` and of the rows that it has yet to settle;
* `inv_moved`, `inv_claimed`, `inv_abandoned`: the statements of the journal keep the invariant.
-/

namespace LeoFlow

variable {identity : ProcessIdentity}

namespace FocusedWorld

/-! ## The invariant -/

/-- The attempts that claims named for a dwell. -/
def dispatched (w : FocusedWorld) (sequence : Nat) : Nat := w.claims.countP fun c => c.1 = sequence

/-- A row that states may be trusted. -/
structure Row (w : FocusedWorld) (r : FocusedContinuousRecord) : Prop where
  attempts : r.analysis_attempt_count = w.dispatched r.sequence
  bounded : r.sequence ∈ w.recovered ∨ r.analysis_attempt_count ≤ w.maximum_analysis_attempts
  planned : r.state = .planned → r.Unclaimed ∧ r.analysis_attempt_count = 0
  captured : r.state = .captured → r.Unclaimed ∧
    (r.sequence ∈ w.recovered ∨ r.analysis_attempt_count < w.maximum_analysis_attempts)
  running : r.state = .analysis_running → r.error = none ∧ ∃ pid ticks digest, r.Names pid ticks ∧
    r.analysis_command_digest = some digest
  positive : ∀ pid ticks, r.Names pid ticks → pid ≠ 0 ∧ ticks ≠ 0
  complete : r.state = .complete → w.completion r.sequence = .valid

/-- When a dwell may fail: its capture failed, recovery found contradictory evidence, or its attempts are used up. -/
def Justified (t : DwellTransition) : Prop :=
  t.target = .failed → t.row.state = .planned ∨ t.error = some "analysis-completion-evidence-invalid" ∨
    t.error = some "analysis-process-identity-conflict" ∨
    t.maximum_analysis_attempts ≤ t.row.analysis_attempt_count

structure Inv (w : FocusedWorld) : Prop where
  distinct : w.journal.Distinct
  identities : (w.processes.map AnalysisProcess.identity).Nodup
  alive_visible : ∀ p ∈ w.processes, p.exit = none → p.visible = true
  row : ∀ r ∈ w.journal, w.Row r
  /-- a claimed process that is alive is the one its row names -/
  claimed : ∀ p ∈ w.processes, p.exit = none → ∀ r ∈ w.journal, (r.sequence, p.identity) ∈ w.claims →
    r.Names p.identity.pid p.identity.start_ticks
  claims : ∀ c ∈ w.claims, (∃ r ∈ w.journal, r.sequence = c.1) ∧ c.2 ∈ w.processes.map AnalysisProcess.identity
  captures_nodup : w.captures.Nodup
  captures : ∀ sequence ∈ w.captures, ∃ r ∈ w.journal, r.sequence = sequence
  transitions : ∀ t ∈ w.transitions, Justified t
  refusals : ∀ row ∈ w.refusals, ∃ r, row = some r ∧ r.state = .failed

/-- Neither planned nor captured rows name a process. -/
theorem Row.not_names {w : FocusedWorld} {r : FocusedContinuousRecord} (h : w.Row r)
    (hstate : r.state = .planned ∨ r.state = .captured) (pid ticks : Nat) : ¬ r.Names pid ticks := by
  intro hnames
  have hunclaimed : r.Unclaimed := by
    rcases hstate with hs | hs
    · exact (h.planned hs).1
    · exact (h.captured hs).1
  rw [FocusedContinuousRecord.Names, hunclaimed.1] at hnames
  simp at hnames

/-- A process that does not run. -/
def Dead (w : FocusedWorld) (identity : ProcessIdentity) : Prop :=
  ∀ p ∈ w.processes, p.identity = identity → p.exit ≠ none

/-- What a row keeps when the dwells beside it change. -/
theorem Row.congr {w w' : FocusedWorld} {r : FocusedContinuousRecord} (h : w.Row r)
    (hattempts : w'.dispatched r.sequence = w.dispatched r.sequence)
    (hrecovered : r.sequence ∈ w.recovered → r.sequence ∈ w'.recovered)
    (hmaximum : w.maximum_analysis_attempts ≤ w'.maximum_analysis_attempts)
    (hcompletion : w.completion r.sequence = .valid → w'.completion r.sequence = .valid) : w'.Row r where
  attempts := h.attempts.trans hattempts.symm
  bounded := h.bounded.imp hrecovered hmaximum.trans'
  planned := h.planned
  captured hs := ⟨(h.captured hs).1, (h.captured hs).2.imp hrecovered fun hlt => hlt.trans_le hmaximum⟩
  running := h.running
  positive := h.positive
  complete hs := hcompletion (h.complete hs)

/-- One row is replaced, while claims and recoveries of its dwell are recorded. -/
theorem Inv.put {w w' : FocusedWorld} (hw : w.Inv) {r : FocusedContinuousRecord} (row : FocusedContinuousRecord)
    (hr : r ∈ w.journal) (hsequence : row.sequence = r.sequence) (hjournal : w'.journal = w.journal.put row)
    (hprocesses : w'.processes = w.processes) (hcompletion : w'.completion = w.completion)
    (hmaximum : w'.maximum_analysis_attempts = w.maximum_analysis_attempts)
    (hcaptures : w'.captures = w.captures) (hrefusals : w'.refusals = w.refusals)
    (hclaims : ∀ c ∈ w'.claims, c ∈ w.claims ∨
      (c.1 = r.sequence ∧ c.2 ∈ w.processes.map AnalysisProcess.identity))
    (hattempts : ∀ sequence, sequence ≠ r.sequence → w'.dispatched sequence = w.dispatched sequence)
    (hrecovered : ∀ sequence, sequence ≠ r.sequence → sequence ∈ w.recovered → sequence ∈ w'.recovered)
    (hrow : w'.Row row)
    (hnames : ∀ p ∈ w.processes, p.exit = none → (r.sequence, p.identity) ∈ w'.claims →
      row.Names p.identity.pid p.identity.start_ticks)
    (htransitions : ∀ t ∈ w'.transitions, t ∈ w.transitions ∨ Justified t) : w'.Inv := by
  have hexists : ∀ sequence, (∃ r ∈ w.journal, r.sequence = sequence) → ∃ r ∈ w'.journal, r.sequence = sequence := by
    rintro _ ⟨r', hr', rfl⟩
    rw [hjournal]
    exact FocusedJournal.exists_put hr'
  constructor
  case distinct =>
    rw [hjournal]
    exact hw.distinct.put row
  case identities =>
    rw [hprocesses]
    exact hw.identities
  case alive_visible =>
    rw [hprocesses]
    exact hw.alive_visible
  case row =>
    intro r' hr'
    rw [hjournal] at hr'
    rcases FocusedJournal.mem_put hr' with rfl | ⟨hr', hne⟩
    · exact hrow
    · rw [hsequence] at hne
      refine (hw.row r' hr').congr (hattempts _ hne) (hrecovered _ hne) hmaximum.ge ?_
      rw [hcompletion]
      exact id
  case claimed =>
    intro p hp halive r' hr' hclaim
    rw [hprocesses] at hp
    rw [hjournal] at hr'
    rcases FocusedJournal.mem_put hr' with rfl | ⟨hr', hne⟩
    · rw [hsequence] at hclaim
      exact hnames p hp halive hclaim
    · rw [hsequence] at hne
      rcases hclaims _ hclaim with hold | ⟨heq, _⟩
      · exact hw.claimed p hp halive r' hr' hold
      · exact absurd heq hne
  case claims =>
    intro c hc
    rw [hprocesses]
    rcases hclaims c hc with hold | ⟨heq, hknown⟩
    · exact ⟨hexists _ (hw.claims c hold).1, (hw.claims c hold).2⟩
    · exact ⟨hexists _ ⟨r, hr, heq.symm⟩, hknown⟩
  case captures_nodup =>
    rw [hcaptures]
    exact hw.captures_nodup
  case captures =>
    rw [hcaptures]
    exact fun sequence h => hexists _ (hw.captures sequence h)
  case transitions =>
    intro t ht
    rcases htransitions t ht with hold | hnew
    · exact hw.transitions t hold
    · exact hnew
  case refusals =>
    rw [hrefusals]
    exact hw.refusals

/-! ## What happens beside a supervisor -/

/-- Processes end and disappear, receipts come to stay, the latch is lifted. -/
structure Ages (w w' : FocusedWorld) : Prop where
  rest : w' = { w with
    latch := w'.latch
    completion := w'.completion
    processes := w'.processes }
  receipts : ∀ sequence, w.completion sequence = .valid → w'.completion sequence = .valid
  identities : w'.processes.map AnalysisProcess.identity = w.processes.map AnalysisProcess.identity
  older : ∀ p' ∈ w'.processes, ∃ p ∈ w.processes, p.identity = p'.identity ∧ (p'.exit = none → p.exit = none) ∧
    (p'.exit = none → p.visible = true → p'.visible = true)

namespace Ages

variable {w w' : FocusedWorld}

theorem refl (w : FocusedWorld) : Ages w w := ⟨rfl, fun _ h => h, rfl, fun p hp => ⟨p, hp, rfl, id, fun _ h => h⟩⟩

theorem journal (h : Ages w w') : w'.journal = w.journal := by rw [h.rest]

theorem children (h : Ages w w') : w'.children = w.children := by rw [h.rest]

theorem maximum_analysis_attempts (h : Ages w w') : w'.maximum_analysis_attempts = w.maximum_analysis_attempts := by
  rw [h.rest]

theorem captures (h : Ages w w') : w'.captures = w.captures := by rw [h.rest]

theorem claims (h : Ages w w') : w'.claims = w.claims := by rw [h.rest]

theorem inv (h : Ages w w') (hw : w.Inv) : w'.Inv where
  distinct := by
    rw [h.journal]
    exact hw.distinct
  identities := by
    rw [h.identities]
    exact hw.identities
  alive_visible := by
    intro p' hp' halive
    obtain ⟨p, hp, _, hexit, hvisible⟩ := h.older p' hp'
    exact hvisible halive (hw.alive_visible p hp (hexit halive))
  row := by
    intro r hr
    rw [h.journal] at hr
    refine (hw.row r hr).congr ?_ ?_ ?_ (h.receipts _)
    · unfold dispatched
      rw [h.claims]
    · rw [h.rest]
      exact id
    · rw [h.maximum_analysis_attempts]
  claimed := by
    intro p' hp' halive r hr hclaim
    rw [h.journal] at hr
    rw [h.claims] at hclaim
    obtain ⟨p, hp, heq, hexit, _⟩ := h.older p' hp'
    rw [← heq] at hclaim ⊢
    exact hw.claimed p hp (hexit halive) r hr hclaim
  claims := by
    rw [h.claims, h.journal, h.identities]
    exact hw.claims
  captures_nodup := by
    rw [h.captures]
    exact hw.captures_nodup
  captures := by
    rw [h.captures, h.journal]
    exact hw.captures
  transitions := by
    rw [h.rest]
    exact hw.transitions
  refusals := by
    rw [h.rest]
    exact hw.refusals

theorem dead (h : Ages w w') (hdead : w.Dead identity) : w'.Dead identity := by
  intro p' hp' heq halive
  obtain ⟨p, hp, hsame, hexit, _⟩ := h.older p' hp'
  exact hdead p hp (hsame.trans heq) (hexit halive)

/-- Processes that change one by one. -/
theorem of_map {f : AnalysisProcess → AnalysisProcess} (hidentity : ∀ p, (f p).identity = p.identity)
    (hexit : ∀ p, (f p).exit = none → p.exit = none)
    (hvisible : ∀ p, (f p).exit = none → p.visible = true → (f p).visible = true) (w : FocusedWorld) :
    Ages w { w with processes := w.processes.map f } := by
  refine ⟨rfl, fun _ h => h, ?_, ?_⟩
  · rw [List.map_map]
    exact List.map_congr_left fun p _ => hidentity p
  · intro p' hp'
    obtain ⟨p, hp, rfl⟩ := List.mem_map.1 hp'
    exact ⟨p, hp, (hidentity p).symm, hexit p, hvisible p⟩

theorem reaped (w : FocusedWorld) (identity : ProcessIdentity) : Ages w (w.reaped identity) := by
  refine of_map ?_ ?_ ?_ w
  · intro p
    split <;> rfl
  · intro p h
    split at h
    · exact h
    · exact h
  · intro p h hvisible
    split at h
    · rename_i hended
      rw [h] at hended
      simp at hended
    · rwa [if_neg ‹_›]

theorem ended (w : FocusedWorld) (identity : ProcessIdentity) (code : Int) : Ages w (w.ended identity code) := by
  refine of_map ?_ ?_ ?_ w
  · intro p
    split <;> rfl
  · intro p h
    split at h
    · cases h
    · exact h
  · intro p h hvisible
    split at h
    · cases h
    · rwa [if_neg ‹_›]

theorem completion (w : FocusedWorld) {sequence : Nat} (h : w.completion sequence ≠ .valid) (state : CompletionState) :
    Ages w { w with completion := Function.update w.completion sequence state } := by
  refine ⟨rfl, ?_, rfl, fun p hp => ⟨p, hp, rfl, id, fun _ h => h⟩⟩
  intro other hvalid
  by_cases heq : other = sequence
  · rw [heq] at hvalid
    exact absurd hvalid h
  · simpa [heq] using hvalid

end Ages

/-- A process in `/proc`. -/
def Seen (w : FocusedWorld) (identity : ProcessIdentity) : Prop :=
  ∃ p ∈ w.processes, p.identity = identity ∧ p.visible = true

/-- Beside a supervisor its own children stay in `/proc`. -/
structure Beside (w w' : FocusedWorld) : Prop where
  ages : Ages w w'
  seen : ∀ identity ∈ w.owned, w.Seen identity → w'.Seen identity

/-- The moves of the world. -/
theorem beside_of_move {m : FocusedSupervisor.SupervisorMove} {w w' : FocusedWorld}
    (h : FocusedSupervisor.move m w = some w') : Beside w w' := by
  cases m with
  | ends identity code =>
    cases h
    refine ⟨Ages.ended w identity code, ?_⟩
    rintro other _ ⟨p, hp, heq, hvisible⟩
    refine ⟨_, List.mem_map_of_mem hp, ?_, ?_⟩
    · split
      · exact heq
      · exact heq
    · split
      · exact hvisible
      · exact hvisible
  | vanish identity =>
    simp only [FocusedSupervisor.move] at h
    split at h
    · cases h
    · rename_i hforeign
      cases h
      refine ⟨Ages.reaped w identity, ?_⟩
      rintro other hother ⟨p, hp, heq, hvisible⟩
      refine ⟨p, List.mem_map.2 ⟨p, hp, if_neg ?_⟩, heq, hvisible⟩
      rintro ⟨hsame, _⟩
      rw [← heq, hsame] at hother
      exact hforeign hother
  | completion sequence state =>
    simp only [FocusedSupervisor.move] at h
    split at h
    · cases h
    · cases h
      exact ⟨Ages.completion w ‹_› state, fun _ _ h => h⟩
  | unlatch =>
    cases h
    exact ⟨⟨rfl, fun _ h => h, rfl, fun p hp => ⟨p, hp, rfl, id, fun _ h => h⟩⟩, fun _ _ h => h⟩

end FocusedWorld

namespace FocusedSupervisor

open FocusedWorld SupervisorAct

def contract : Contract Unit FocusedWorld where
  Inv := FocusedWorld.Inv
  Rely _ := Beside

/-- The triple of a part of a supervisor. -/
abbrev Holds {α : Type} (A : FocusedWorld → Prop) (x : SupervisorScript α) (B : α → FocusedWorld → Prop) : Prop :=
  x.Meets contract (fun _ => FocusedWorld.respond) () (Script.Returns B) A

/-- An assertion that ageing keeps. -/
def Kept (A : FocusedWorld → Prop) : Prop := ∀ w w', Ages w w' → A w → A w'

theorem Kept.and {A B : FocusedWorld → Prop} (hA : Kept A) (hB : Kept B) : Kept fun w => A w ∧ B w :=
  fun w w' h hw => ⟨hA w w' h hw.1, hB w w' h hw.2⟩

theorem Kept.stable {A : FocusedWorld → Prop} (hA : Kept A) : contract.Stable () A :=
  fun w w' _ _ h => hA w w' h.ages

theorem allows {w w' : FocusedWorld} (h : w'.Inv) : contract.Allows () w w' := ⟨h, fun _ hne => absurd rfl hne⟩

variable {A : FocusedWorld → Prop}

/-- An act that at most waits for a process. -/
theorem holds_read {q : SupervisorAct} {F : q.Answer → FocusedWorld → Prop} (hA : Kept A) (hF : ∀ a, Kept (F a))
    (h : ∀ w a w', w.Inv → A w → w.respond q a = some w' → Ages w w' ∧ F a w') :
    Holds A (.ask q) fun a w => A w ∧ F a w := by
  refine Script.returns_ask (fun a => (hA.and (hF a)).stable) ?_
  intro w a w' hw ha hrespond
  obtain ⟨hages, hf⟩ := h w a w' hw ha hrespond
  exact ⟨allows (hages.inv hw), hA w w' hages ha, hf⟩

/-- An act that tells nothing. -/
theorem holds_quiet {q : SupervisorAct} (hA : Kept A)
    (h : ∀ w a w', w.respond q a = some w' → Ages w w') : Holds A (.ask q) fun _ => A := by
  refine Script.returns_weaken (holds_read hA (F := fun _ _ => True) (fun _ _ _ _ h => h) ?_) (fun _ _ h => h)
    fun _ _ _ h => h.1
  intro w a w' _ _ hrespond
  exact ⟨h w a w' hrespond, trivial⟩

/-- An act that changes the world. -/
theorem holds_write {q : SupervisorAct} {B : q.Answer → FocusedWorld → Prop} (hB : ∀ a, Kept (B a))
    (h : ∀ w a w', w.Inv → A w → w.respond q a = some w' → w'.Inv ∧ B a w') : Holds A (.ask q) B := by
  refine Script.returns_ask (fun a => (hB a).stable) ?_
  intro w a w' hw ha hrespond
  exact ⟨allows (h w a w' hw ha hrespond).1, (h w a w' hw ha hrespond).2⟩

/-- An act that may raise. -/
theorem holds_attempt {x : SupervisorScript (Except PyError Unit)} {B : FocusedWorld → Prop}
    (h : Holds A x fun a w => a = .ok () → B w) : Holds A (attempt x) fun _ => B := by
  refine Script.returns_bind h ?_
  intro a
  cases a with
  | ok _ => exact Script.returns_pure fun w _ h => h rfl
  | error e => exact Script.returns_raise

/-! ## What one supervisor knows -/

/-- An entry of `children` stands for the running row of its sequence. -/
structure Follows (w : FocusedWorld) (c : Nat × AnalysisChild) : Prop where
  key : c.2.record.sequence = c.1
  row : c.2.record ∈ w.journal
  running : c.2.record.state = .analysis_running
  names : c.2.record.Names c.2.identity.pid c.2.identity.start_ticks

/-- Every dwell is closed, waits for analysis or is followed, up to the sequences `todo`. -/
structure Knows (args : FocusedArgs) (todo : List Nat) (w : FocusedWorld) : Prop where
  maximum : args.maximum_analysis_attempts ≤ w.maximum_analysis_attempts
  keys : (w.children.map Prod.fst).Nodup
  follows : ∀ c ∈ w.children, Follows w c
  settled : ∀ r ∈ w.journal, r.Incomplete → r.state = .captured ∨
    (r.state = .analysis_running ∧ r.sequence ∈ w.children.map Prod.fst) ∨ r.sequence ∈ todo

variable {args : FocusedArgs} {todo todo' : List Nat} {w w' : FocusedWorld}

theorem kept_knows : Kept (Knows args todo) := by
  intro w w' hages h
  constructor
  · rw [hages.maximum_analysis_attempts]
    exact h.maximum
  · rw [hages.children]
    exact h.keys
  · intro c hc
    rw [hages.children] at hc
    have hfollows := h.follows c hc
    exact ⟨hfollows.key, hages.journal ▸ hfollows.row, hfollows.running, hfollows.names⟩
  · rw [hages.children, hages.journal]
    exact h.settled

/-- `del children[sequence]` -/
def unfollow (w : FocusedWorld) (sequence : Nat) : FocusedWorld :=
  { w with children := w.children.filter fun c => c.1 ≠ sequence }

variable {sequence : Nat}

theorem kept_knows_unfollow : Kept fun w => Knows args todo (unfollow w sequence) := by
  intro w w' hages h
  have hages' : Ages (unfollow w sequence) (unfollow w' sequence) :=
    ⟨congrArg (fun w => unfollow w sequence) hages.rest, hages.receipts, hages.identities, hages.older⟩
  exact kept_knows _ _ hages' h

/-- A row that does not run is not followed. -/
theorem Knows.unfollowed (h : Knows args todo w) (hw : w.Inv) {r : FocusedContinuousRecord} (hr : r ∈ w.journal)
    (hstate : r.state ≠ .analysis_running) : ∀ c ∈ w.children, c.1 ≠ r.sequence := by
  intro c hc heq
  have hfollows := h.follows c hc
  have hsame : c.2.record = r := hw.distinct.eq hfollows.row hr (hfollows.key.trans heq)
  rw [← hsame] at hstate
  exact hstate hfollows.running

theorem unfollow_eq (h : ∀ c ∈ w.children, c.1 ≠ sequence) : unfollow w sequence = w := by
  have hchildren : (w.children.filter fun c => c.1 ≠ sequence) = w.children := by
    rw [List.filter_eq_self]
    intro c hc
    simpa using h c hc
  unfold unfollow
  rw [hchildren]

/-- A row is replaced, and its sequence is no longer followed. -/
theorem Knows.put (h : Knows args todo w) {r : FocusedContinuousRecord} (row : FocusedContinuousRecord)
    (hsequence : row.sequence = r.sequence) (hjournal : w'.journal = w.journal.put row)
    (hchildren : w'.children = w.children)
    (hmaximum : w'.maximum_analysis_attempts = w.maximum_analysis_attempts)
    (htodo : ∀ sequence ∈ todo, sequence = r.sequence ∨ sequence ∈ todo')
    (hrow : row.Incomplete → row.state = .captured ∨ r.sequence ∈ todo') :
    Knows args todo' (unfollow w' r.sequence) := by
  constructor
  case maximum =>
    show _ ≤ w'.maximum_analysis_attempts
    rw [hmaximum]
    exact h.maximum
  case keys =>
    show ((w'.children.filter _).map Prod.fst).Nodup
    rw [hchildren]
    exact h.keys.sublist (List.filter_sublist.map _)
  case follows =>
    intro c hc
    obtain ⟨hc, hne⟩ := List.mem_filter.1 hc
    rw [hchildren] at hc
    have hfollows := h.follows c hc
    refine ⟨hfollows.key, ?_, hfollows.running, hfollows.names⟩
    show _ ∈ w'.journal
    rw [hjournal]
    refine FocusedJournal.mem_put_other hfollows.row ?_
    rw [hfollows.key, hsequence]
    simpa using hne
  case settled =>
    intro r' hr' hincomplete
    have hr' : r' ∈ w'.journal := hr'
    rw [hjournal] at hr'
    rcases FocusedJournal.mem_put hr' with rfl | ⟨hr', hne⟩
    · rw [hsequence]
      exact (hrow hincomplete).imp_right .inr
    · rw [hsequence] at hne
      rcases h.settled r' hr' hincomplete with hcaptured | ⟨hrunning, hkey⟩ | hmem
      · exact .inl hcaptured
      · obtain ⟨c, hc, hkey⟩ := List.mem_map.1 hkey
        refine .inr (.inl ⟨hrunning, List.mem_map.2 ⟨c, List.mem_filter.2 ⟨hchildren ▸ hc, ?_⟩, hkey⟩⟩)
        rw [hkey]
        simpa using hne
      · exact .inr (.inr ((htodo _ hmem).resolve_left hne))

/-! ## The statements of the journal -/

/-- The world after `transition`. -/
def moved (w : FocusedWorld) (r : FocusedContinuousRecord) (target : DwellState) (error : Option String)
    (maximum : Nat) : FocusedWorld :=
  { w with
    journal := w.journal.put (r.moveTo target error)
    transitions := ⟨r, target, error, maximum⟩ :: w.transitions }

/-- The world after `claim_analysis_process`. -/
def claimed (w : FocusedWorld) (r : FocusedContinuousRecord) (identity : ProcessIdentity) (digest : Digest) :
    FocusedWorld :=
  { w with
    journal := w.journal.put (r.claimed identity.pid identity.start_ticks digest)
    claims := (r.sequence, identity) :: w.claims }

/-- The world after `abandon_exact_analysis_process`. -/
def abandoned (w : FocusedWorld) (r : FocusedContinuousRecord) (recovering : Bool) : FocusedWorld :=
  { w with
    journal := w.journal.put r.abandoned
    recovered := if recovering then r.sequence :: w.recovered else w.recovered }

variable {r : FocusedContinuousRecord}

variable {a : Except PyError Unit}

theorem write_ok {journal : FocusedJournal} {done : FocusedWorld → FocusedWorld}
    (h : w.write sequence (.ok journal) done a = some w') :
    a = .ok () ∧ w' = done { w with journal := journal } := by
  cases a with
  | ok _ =>
    cases h
    exact ⟨rfl, rfl⟩
  | error e => cases h

variable {target : DwellState} {error : Option String} {maximum : Nat}

theorem respond_transition (hw : w.Inv) (hr : r ∈ w.journal) (hne : r.state ≠ target)
    (h : w.respond (.transition r.sequence r.state target error maximum) a = some w') :
    a = .ok () ∧ w' = moved w r target error maximum := by
  simp only [respond, FocusedJournal.transition_of_mem hw.distinct hr hne,
    FocusedJournal.get_of_mem hw.distinct hr] at h
  exact write_ok h

theorem respond_claim (hw : w.Inv) (hr : r ∈ w.journal) (hcaptured : r.state = .captured)
    (hpos : identity.pid ≠ 0 ∧ identity.start_ticks ≠ 0) {digest : Digest}
    (h : w.respond (.claim_analysis_process r.sequence identity.pid identity.start_ticks digest) a = some w') :
    a = .ok () ∧ w' = claimed w r identity digest := by
  simp only [respond, FocusedJournal.claim_analysis_process_of_mem hw.distinct hr hcaptured
    ((hw.row r hr).captured hcaptured).1 hpos.1 hpos.2] at h
  exact write_ok h

theorem respond_abandon (hw : w.Inv) (hr : r ∈ w.journal) (hstate : r.state = .analysis_running ∨ r.state = .failed)
    {pid ticks : Nat} {digest : Digest} (hnames : r.Names pid ticks)
    (hdigest : r.analysis_command_digest = some digest) {recovering : Bool}
    (h : w.respond (.abandon_exact_analysis_process r.sequence r.state r.error r.analysis_pid r.analysis_process_start_ticks r.analysis_command_digest recovering) a = some w') :
    a = .ok () ∧ w' = abandoned w r recovering := by
  simp only [respond, FocusedJournal.abandon_exact_analysis_process_of_mem hw.distinct hr hstate hnames.1 hnames.2
    hdigest ((hw.row r hr).positive pid ticks hnames)] at h
  exact write_ok h

/-- What a transition of the program is for. -/
structure Permitted (w : FocusedWorld) (r : FocusedContinuousRecord) (target : DwellState) (error : Option String)
    (maximum : Nat) : Prop where
  closing : target = .captured ∨ target = .complete ∨ target = .failed
  changes : r.state ≠ target
  captured : target = .captured → r.state = .planned ∧ 0 < w.maximum_analysis_attempts
  complete : target = .complete → w.completion r.sequence = .valid
  justified : Justified ⟨r, target, error, maximum⟩

theorem inv_moved (hw : w.Inv) (hr : r ∈ w.journal) (h : Permitted w r target error maximum) : (moved w r target error maximum).Inv := by
  have hrow := hw.row r hr
  refine hw.put (r.moveTo target error) hr rfl rfl rfl rfl rfl rfl rfl (fun _ hc => .inl hc) (fun _ _ => rfl)
    (fun _ _ hs => hs) ?_ (fun p hp halive hclaim => hw.claimed p hp halive r hr hclaim) ?_
  · refine ⟨hrow.attempts, hrow.bounded, ?_, ?_, ?_, hrow.positive, h.complete⟩
    · intro (htarget : target = .planned)
      rcases h.closing with h | h | h <;> rw [h] at htarget <;> cases htarget
    · intro htarget
      obtain ⟨hplanned, hpos⟩ := h.captured htarget
      obtain ⟨hunclaimed, hzero⟩ := hrow.planned hplanned
      refine ⟨hunclaimed, .inr ?_⟩
      show r.analysis_attempt_count < _
      rw [hzero]
      exact hpos
    · intro (htarget : target = .analysis_running)
      rcases h.closing with h | h | h <;> rw [h] at htarget <;> cases htarget
  · intro t ht
    rcases List.mem_cons.1 ht with rfl | ht
    · exact .inr h.justified
    · exact .inl ht

theorem knows_moved (hknows : Knows args todo w) (h : Permitted w r target error maximum)
    (htodo : ∀ sequence ∈ todo, sequence = r.sequence ∨ sequence ∈ todo') :
    Knows args todo' (unfollow (moved w r target error maximum) r.sequence) := by
  refine hknows.put (r.moveTo target error) rfl rfl rfl rfl htodo ?_
  rintro ⟨hcomplete, hfailed⟩
  rcases h.closing with h | h | h
  · exact .inl h
  · exact absurd h hcomplete
  · exact absurd h hfailed

theorem inv_claimed (hw : w.Inv) (hr : r ∈ w.journal) (hcaptured : r.state = .captured)
    (hpos : identity.pid ≠ 0 ∧ identity.start_ticks ≠ 0)
    (hknown : identity ∈ w.processes.map AnalysisProcess.identity) (digest : Digest) :
    (claimed w r identity digest).Inv := by
  have hrow := hw.row r hr
  refine hw.put (r.claimed identity.pid identity.start_ticks digest) hr rfl rfl rfl rfl rfl rfl rfl ?_ ?_
    (fun _ _ hs => hs) ?_ ?_ (fun _ ht => .inl ht)
  · intro c hc
    rcases List.mem_cons.1 hc with rfl | hc
    · exact .inr ⟨rfl, hknown⟩
    · exact .inl hc
  · intro sequence hne
    exact List.countP_cons_of_neg (by simpa using hne.symm)
  · refine ⟨?_, ?_, nofun, nofun, fun _ => ⟨rfl, _, _, _, ⟨rfl, rfl⟩, rfl⟩, ?_, nofun⟩
    · show r.analysis_attempt_count + 1 = ((r.sequence, identity) :: w.claims).countP _
      rw [List.countP_cons_of_pos (by simp [FocusedContinuousRecord.claimed]), hrow.attempts]
      rfl
    · exact (hrow.captured hcaptured).2
    · rintro pid ticks ⟨hpid, hticks⟩
      cases hpid
      cases hticks
      exact hpos
  · intro p hp halive hclaim
    rcases List.mem_cons.1 hclaim with heq | hclaim
    · cases heq
      exact ⟨rfl, rfl⟩
    · exact absurd (hw.claimed p hp halive r hr hclaim) (hrow.not_names (.inr hcaptured) _ _)

/-- An attempt may be given up when its process does not run. -/
theorem inv_abandoned (hw : w.Inv) (hr : r ∈ w.journal)
    (hdead : ∀ p ∈ w.processes, r.Names p.identity.pid p.identity.start_ticks → p.exit ≠ none) {recovering : Bool}
    (hbound : recovering = true ∨ r.analysis_attempt_count < w.maximum_analysis_attempts) :
    (abandoned w r recovering).Inv := by
  have hrow := hw.row r hr
  have hrecovered : ∀ sequence ∈ w.recovered, sequence ∈ (abandoned w r recovering).recovered := by
    intro sequence h
    unfold abandoned
    cases recovering with
    | true => exact List.mem_cons_of_mem _ h
    | false => exact h
  have hcount : r.sequence ∈ (abandoned w r recovering).recovered ∨
      r.analysis_attempt_count < w.maximum_analysis_attempts := by
    cases recovering with
    | true => exact .inl List.mem_cons_self
    | false => exact .inr (hbound.resolve_left nofun)
  refine hw.put r.abandoned hr rfl rfl rfl rfl rfl rfl rfl (fun _ hc => .inl hc) (fun _ _ => rfl)
    (fun sequence _ => hrecovered sequence) ?_ ?_ (fun _ ht => .inl ht)
  · refine ⟨hrow.attempts, hrow.bounded.imp_left (hrecovered _), nofun, ?_, nofun, ?_, nofun⟩
    · intro _
      exact ⟨⟨rfl, rfl, rfl⟩, hcount⟩
    · rintro pid ticks ⟨hpid, _⟩
      cases hpid
  · intro p hp halive hclaim
    exact absurd halive (hdead p hp (hw.claimed p hp halive r hr hclaim))

/-- `transition`, of a row that is there. -/
theorem holds_transition (args : FocusedArgs) (todo todo' : List Nat) {expected : DwellState}
    {F : FocusedWorld → Prop} (hF : Kept F) (htodo : ∀ other ∈ todo, other = sequence ∨ other ∈ todo')
    (h : ∀ w, w.Inv → A w → Knows args todo w ∧ ∃ r ∈ w.journal, r.sequence = sequence ∧ r.state = expected ∧ Permitted w r target error maximum ∧ F (moved w r target error maximum)) :
    Holds A (attempt (.ask (transition sequence expected target error maximum))) fun _ w =>
      Knows args todo' (unfollow w sequence) ∧ F w := by
  refine holds_attempt (holds_write ?_ ?_)
  · intro a w w' hages hb ha
    exact kept_knows_unfollow.and hF w w' hages (hb ha)
  · intro w a w' hw ha hrespond
    obtain ⟨hknows, r, hr, rfl, rfl, hpermitted, hf⟩ := h w hw ha
    obtain ⟨_, rfl⟩ := respond_transition hw hr hpermitted.changes hrespond
    exact ⟨inv_moved hw hr hpermitted, fun _ => ⟨knows_moved hknows hpermitted htodo, hf⟩⟩

/-- What may be abandoned. -/
structure Abandonable (w : FocusedWorld) (r : FocusedContinuousRecord) (recovering : Bool) : Prop where
  row : r ∈ w.journal
  attempt : r.state = .analysis_running ∨ r.state = .failed
  identity : ∃ pid ticks digest, r.Names pid ticks ∧ r.analysis_command_digest = some digest
  dead : ∀ p ∈ w.processes, r.Names p.identity.pid p.identity.start_ticks → p.exit ≠ none
  bound : recovering = true ∨ r.analysis_attempt_count < w.maximum_analysis_attempts

/-- `abandon_exact_analysis_process` -/
theorem holds_abandon (args : FocusedArgs) (todo todo' : List Nat) {state : DwellState}
    {record : FocusedContinuousRecord} {recovering : Bool} {F : FocusedWorld → Prop} (hF : Kept F)
    (htodo : ∀ other ∈ todo, other = sequence ∨ other ∈ todo')
    (h : ∀ w, w.Inv → A w → Knows args todo w ∧ Abandonable w record recovering ∧ record.sequence = sequence ∧ record.state = state ∧ record.error = error ∧ F (abandoned w record recovering)) :
    Holds A (attempt (.ask (abandon_exact_analysis_process sequence state error record.analysis_pid
      record.analysis_process_start_ticks record.analysis_command_digest recovering))) fun _ w =>
      Knows args todo' (unfollow w sequence) ∧ F w := by
  refine holds_attempt (holds_write ?_ ?_)
  · intro a w w' hages hb ha
    exact kept_knows_unfollow.and hF w w' hages (hb ha)
  · intro w a w' hw ha hrespond
    obtain ⟨hknows, hr, rfl, rfl, rfl, hf⟩ := h w hw ha
    obtain ⟨pid, ticks, digest, hnames, hdigest⟩ := hr.identity
    obtain ⟨_, rfl⟩ := respond_abandon hw hr.row hr.attempt hnames hdigest hrespond
    refine ⟨inv_abandoned hw hr.row hr.dead hr.bound, fun _ => ⟨?_, hf⟩⟩
    exact hknows.put record.abandoned rfl rfl rfl rfl htodo fun _ => .inl rfl

end FocusedSupervisor

end LeoFlow
