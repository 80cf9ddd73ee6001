import LeoFlow.Capture.CanaryTransitions
import LeoFlow.Core.Alone

/-!
# LeoFlow.Capture.CanaryTerminal — calls on a finished canary

In every run of any number of coordinators a replacement of the journal is one of the
transitions, or stores a complete canary once more. `reconcile_next` does the latter, and
`halt_analysis` searches for a captured record that is not there once the last receipt is
stored; every other call on a reachable state moves the canary or leaves it alone.
-/

namespace LeoFlow

namespace SupercycleCanaryCoordinator

open CanaryState Fields

/-! ## Calls and what they leave -/

/-- A complete canary stored once more, with the next revision. -/
def Restored (s t : CanaryState) : Prop :=
  s.val.phase = .complete ∧ t.val = { s.val with revision := s.val.revision + 1 }

/-- The phase guard of `halt_analysis`. -/
def phaseNotOpen : PyError := ⟨.runtime_error, "canary analysis phase is not open"⟩

/-- A call of `reconcile_next` or `halt_analysis` on `s` that did one transition or nothing: the
guard refuses a canary whose analysis is not open, and an exit of the analysis port that is no
`Exception` passes through. -/
inductive Sound (answer : ∀ q : CampaignQuery, q.Answer) (s : CanaryState) :
    CanaryCall → CanaryState × Except PyError CanaryResult → Prop where
  | moves {call : CanaryCall} {t : CanaryState} {r : CanaryResult} : Moved s t → r.state = t →
      Sound answer s call (t, .ok r)
  | stays {call : CanaryCall} {r : CanaryResult} : r.state = s → Sound answer s call (s, .ok r)
  | refuses : s.val.phase = .capturing ∨ s.val.phase = .complete →
      Sound answer s .halt_analysis (s, .error phaseNotOpen)
  | interrupted {deadline : Int} {snapshot : CaptureBatchSnapshot} {e : PyError} :
      answer (.analyze snapshot deadline) = .error e → ¬e.kind.IsException →
      Sound answer s (.reconcile_next deadline) (s, .error e)

/-- `reconcile_next` and `halt_analysis` are sound, and no call changes a finished canary. -/
structure Settled (answer : ∀ q : CampaignQuery, q.Answer) (s : CanaryState) (call : CanaryCall)
    (out : CanaryState × Except PyError CanaryResult) : Prop where
  sound : (∀ now, call ≠ .capture_next now) → Sound answer s call out
  absorbing : s.val.phase = .complete ∨ s.val.phase = .halted → out.1 = s

/-- `reconcile_next` does not meet a complete canary, nor `halt_analysis` an analysis without a
receipt to wait for. -/
def Awaited (s : CanaryState) : CanaryCall → Prop
  | .capture_next _ => True
  | .reconcile_next _ => s.val.phase ≠ .complete
  | .halt_analysis => s.val.phase = .analyzing → s.analyzed_count < CANARY_SLOTS

/-! ## Every replacement is a transition -/

variable (c : SupercycleCanaryCoordinator)

/-- The canary of this definition, closed with all its slots. -/
def Good (s : CanaryState) : Prop := Closed s.val ∧ s.val.definition_digest = c.digest

theorem good_of_moved {c : SupercycleCanaryCoordinator} {s t : CanaryState} (hs : c.Good s) (h : Moved s t) :
    c.Good t := by
  obtain ⟨f, hmove, hval⟩ := h
  constructor
  · rw [hval]
    exact hmove.closed hs.1
  · rw [hval]
    exact hmove.digest.trans hs.2

/-- Replacements are transitions, or store a complete canary once more. -/
def moving : Discipline CanaryState CampaignQuery Empty PyError where
  Inv := c.Good
  Move s t := Moved s t ∨ Restored s t
  count _ _ := 0
  asks _ := none
  Allowed _ _ := True
  MayRaise _ := True
  count_le := nofun

@[reducible] def Stores {α : Type} (Q : α → Option CanaryState → Option Empty → Prop)
    (view : Option CanaryState) (credit : Option Empty) (x : CanaryProg α) : Prop :=
  x.Follows (CanaryState.row.cas c.digest) c.moving Q view credit

section Calls

variable {c : SupercycleCanaryCoordinator} {state : CanaryState} {credit : Option Empty}

theorem moves_return {α : Type} {a : α} {view : Option CanaryState} :
    c.Stores (fun _ _ _ => True) view credit (pure a) := trivial

theorem moves_lift {α : Type} {x : Except PyError α} :
    c.Stores (fun a view _ => x = .ok a ∧ view = some state) (some state) credit (.ofExcept x) :=
  Prog.follows_ofExcept (fun _ ha => ⟨ha, rfl⟩) fun _ _ => trivial

theorem moves_ask {q : CampaignQuery} :
    c.Stores (fun _ view _ => view = some state) (some state) credit (.ask q) :=
  Prog.follows_ask (D := c.moving) trivial rfl fun _ => rfl

theorem moves_store (hgood : c.Good state) {f : Fields}
    (h : Transition state f ∨ state.val.phase = .complete ∧ f = state.val) :
    c.Stores (fun s view _ => s.val = { f with revision := state.val.revision + 1 } ∧ c.Good s ∧ view = some s)
      (some state) credit (store f state) := by
  have hdigest : f.definition_digest = c.digest := by
    rcases h with h | ⟨_, rfl⟩
    · rw [h.digest, hgood.2]
    · exact hgood.2
  have hclosed : Closed f := by
    rcases h with h | ⟨_, rfl⟩
    · exact h.closed hgood.1
    · exact hgood.1
  unfold store
  refine Prog.follows_bind moves_lift ?_
  rintro first view credit ⟨hfirst, rfl⟩
  refine Prog.follows_bind moves_lift ?_
  rintro second view credit ⟨hsecond, rfl⟩
  have hval := Checked.val_of_make hsecond
  rw [Checked.val_of_make hfirst] at hval
  have hrev : (CanaryState.row.cas c.digest).revision state < (CanaryState.row.cas c.digest).revision second := by
    show state.val.revision < second.val.revision
    rw [hval]
    exact Nat.lt_succ_self _
  have hgood' : c.Good second := by
    refine ⟨?_, ?_⟩
    · rw [hval]
      exact hclosed
    · rw [hval]
      exact hdigest
  refine Prog.follows_replace (D := c.moving) hgood' hrev ?_ none nofun ⟨hval, hgood', rfl⟩
  rcases h with h | ⟨hphase, rfl⟩
  · exact Or.inl ⟨f, h, hval⟩
  · exact Or.inr ⟨hphase, hval⟩

theorem moves_halt (hgood : c.Good state) (hopen : state.val.phase = .capturing ∨ state.val.phase = .analyzing)
    (reason : CanaryHaltReason) (unit : CampaignUnit) :
    c.Stores (fun _ _ _ => True) (some state) credit (halt state reason unit) :=
  Prog.follows_bind (moves_store hgood (Or.inl (.halt reason hopen))) fun _ _ _ _ => moves_return

theorem moves_capture_planned (hgood : c.Good state) (hphase : state.val.phase = .capturing)
    {before : List CanaryRecord} {r : CanaryRecord} (hrecords : state.val.records = before ++ [r])
    (hr : r.val.phase = .planned) (now : Int) :
    c.Stores (fun _ _ _ => True) (some state) credit (c.capture_planned state r now) := by
  unfold capture_planned
  dsimp only
  split
  · exact moves_return
  split
  · exact moves_halt hgood (Or.inl hphase) _ _
  refine Prog.follows_bind moves_ask ?_
  rintro answer view credit rfl
  refine Prog.follows_bind moves_lift ?_
  rintro available view credit ⟨_, rfl⟩
  refine Prog.follows_bind moves_lift ?_
  rintro required view credit ⟨_, rfl⟩
  split
  · exact moves_return
  -- the record is stored as invoked before the port is called
  refine Prog.follows_bind moves_lift ?_
  rintro invoked view credit ⟨hinvoked, rfl⟩
  have hval := Checked.val_of_make hinvoked
  have hunit : invoked.val.unit = r.val.unit := by rw [hval]
  rw [replace_last_eq hrecords hunit]
  refine Prog.follows_bind (moves_store hgood (Or.inl (.invoke before r invoked hphase hrecords hr hval))) ?_
  rintro announced view credit ⟨hannounced, hgood', rfl⟩
  have hphase' : announced.val.phase = .capturing := by rw [hannounced]; exact hphase
  have hrecords' : announced.val.records = before ++ [invoked] := by rw [hannounced]
  refine Prog.follows_bind moves_ask ?_
  rintro answer view credit rfl
  split
  · split
    · exact moves_halt hgood' (Or.inl hphase') _ _
    · trivial
  · split
    · exact moves_halt hgood' (Or.inl hphase') _ _
    refine Prog.follows_bind moves_lift ?_
    rintro captured view credit ⟨hcaptured, rfl⟩
    have hval' := Checked.val_of_make hcaptured
    have hinvoked' : invoked.val.phase = .capture_invoked := by rw [hval]
    rw [replace_last_eq hrecords' (by rw [hval'])]
    exact Prog.follows_bind
      (moves_store hgood' (Or.inl (.capture before invoked captured _ hphase' hrecords' hinvoked' hval')))
      fun _ _ _ _ => moves_return

theorem moves_read {α : Type} {f : CanaryState → CanaryProg α}
    (h : ∀ s, c.Good s → c.Stores (fun _ _ _ => True) (some s) none (f s)) :
    c.Stores (fun _ _ _ => True) none none (.read >>= f) := by
  refine Prog.follows_bind (Q := fun s view credit => c.Good s ∧ view = some s ∧ credit = none) ?_ ?_
  · exact Prog.follows_read (D := c.moving) fun s hs => ⟨hs, rfl, rfl⟩
  · rintro s view credit ⟨hs, rfl, rfl⟩
    exact h s hs

/-- The unit that `build_canary_unit` builds is the one of its slot. -/
theorem slot_of_build {d : SupercycleCanaryDefinition} {slot_index : Nat} {unit : CampaignUnit}
    (h : build_canary_unit d slot_index = .ok unit) : unit.slot_index = slot_index := by
  obtain ⟨cell, _, hunit⟩ := bind_ok.1 h
  exact (buildUnit_ok hunit).2.1

theorem moves_capture_next (now : Int) : c.Stores (fun _ _ _ => True) none none (c.capture_next now) := by
  unfold capture_next
  apply moves_read
  intro s hgood
  split
  · exact moves_return
  split
  · exact moves_return
  rename_i _ hphase
  rw [not_not] at hphase
  split
  · rename_i hcount
    exact Prog.follows_bind (moves_store hgood (Or.inl (.close hphase hcount))) fun _ _ _ _ => moves_return
  rename_i hcount
  split
  · exact moves_halt hgood (Or.inl hphase) _ _
  · rename_i hlast
    exact moves_capture_planned hgood hphase (List.dropLast_append_getLast? _ hlast).symm rfl now
  · rename_i hinvoked hplanned
    -- the last record is terminal, so all are, and the next slot is their number
    have hterminal : ∀ r ∈ s.val.records, ¬Nonterminal r := by
      refine s.valid.terminal_of_last ?_
      intro r hr hopen
      have hr' : s.val.records.getLast? = some ⟨⟨r.val.unit, r.val.phase, r.val.snapshot, r.val.analysis_receipt⟩,
        r.ok⟩ := hr
      rcases hopen with hopen | hopen
      · exact hplanned _ _ _ (by rw [← hopen]; exact r.ok) (by rw [hr']; congr 3)
      · exact hinvoked _ _ _ (by rw [← hopen]; exact r.ok) (by rw [hr']; congr 3)
    have hlength : s.captured_count = s.val.records.length := captured_count_eq_length hterminal
    have hbound := s.valid.bound
    refine Prog.follows_bind moves_lift ?_
    rintro unit view credit ⟨hunit, rfl⟩
    refine Prog.follows_bind moves_lift ?_
    rintro record view credit ⟨hrecord, rfl⟩
    have hval := Checked.val_of_make hrecord
    have hslot : record.val.unit.slot_index = s.val.records.length := by
      rw [hval, ← hlength]
      exact slot_of_build hunit
    have hmove := Transition.plan (s := s) record hphase hterminal (by omega) hslot
    refine Prog.follows_bind (moves_store hgood (Or.inl hmove)) ?_
    rintro planned view credit ⟨hplanned, hgood', rfl⟩
    exact moves_capture_planned hgood' (by rw [hplanned]; exact hphase) (by rw [hplanned]) (by rw [hval]) now

theorem moves_reconcile_next (deadline : Int) :
    c.Stores (fun _ _ _ => True) none none (reconcile_next deadline) := by
  unfold reconcile_next
  apply moves_read
  intro s hgood
  split
  · exact moves_return
  split
  · exact moves_return
  rename_i hhalted hcapturing
  split
  · rename_i hcount
    cases hphase : s.val.phase with
    | halted => exact absurd hphase hhalted
    | capturing => exact absurd hphase hcapturing
    | complete =>
      refine Prog.follows_bind (moves_store hgood (Or.inr ⟨hphase, ?_⟩)) fun _ _ _ _ => moves_return
      rw [← hphase]
    | analyzing =>
      have hcount' : s.analyzed_count = CANARY_SLOTS :=
        Nat.le_antisymm (Nat.le_trans List.countP_le_length s.valid.bound) hcount
      exact Prog.follows_bind (moves_store hgood (Or.inl (.finish hphase hcount'))) fun _ _ _ _ => moves_return
  rename_i hcount
  have hphase : s.val.phase = .analyzing := by
    cases hphase : s.val.phase with
    | halted => exact absurd hphase hhalted
    | capturing => exact absurd hphase hcapturing
    | complete => exact absurd (Nat.le_of_eq (s.valid.complete hphase).symm) hcount
    | analyzing => rfl
  split
  · trivial
  rename_i r index hfirst
  obtain ⟨hget, hcaptured⟩ := first_captured_ok hfirst
  split
  · trivial
  refine Prog.follows_bind moves_ask ?_
  rintro answer view credit rfl
  split
  · split
    · exact moves_halt hgood (Or.inr hphase) _ _
    · trivial
  refine Prog.follows_bind moves_lift ?_
  rintro complete view credit ⟨hcomplete, rfl⟩
  have hmove := Transition.receipt (s := s) index r complete _ hphase hget hcaptured (Checked.val_of_make hcomplete)
  exact Prog.follows_bind (moves_store hgood (Or.inl hmove)) fun _ _ _ _ => moves_return

theorem moves_halt_analysis : c.Stores (fun _ _ _ => True) none none halt_analysis := by
  unfold halt_analysis
  apply moves_read
  intro s hgood
  split
  · exact moves_return
  split
  · trivial
  rename_i hphase
  split
  · trivial
  · exact moves_halt hgood (Or.inr (not_not.1 hphase)) _ _

theorem moves_program (call : CanaryCall) : c.Stores (fun _ _ _ => True) none none (c.program call) := by
  cases call with
  | capture_next now => exact moves_capture_next now
  | reconcile_next deadline => exact moves_reconcile_next deadline
  | halt_analysis => exact moves_halt_analysis

end Calls

/-! ## One call alone -/

section Alone

variable {c : SupercycleCanaryCoordinator} {answer : ∀ q : CampaignQuery, q.Answer} {s : CanaryState}

/-- A valid replacement is stored. -/
theorem exec_store (answer : ∀ q : CampaignQuery, q.Answer) (hgood : c.Good s) {f : Fields} (hvalid : f.Valid) (hdigest : f.definition_digest = c.digest) :
    ∃ t : CanaryState, t.val = { f with revision := s.val.revision + 1 } ∧
      (store f s).exec (CanaryState.row.cas c.digest) answer s = (t, .ok t) := by
  have hnext : ({ f with revision := s.val.revision + 1 } : Fields).post_init = .ok () :=
    post_init_iff.2 ⟨hvalid.bound, hvalid.halted, hvalid.schedule, hvalid.last, hvalid.closed, hvalid.complete⟩
  refine ⟨⟨_, hnext⟩, rfl, ?_⟩
  have hswap : (CanaryState.row.cas c.digest).swap s s.val.revision ⟨_, hnext⟩ = .ok ⟨_, hnext⟩ := by
    show DigestBound.compare_and_swap _ _ _ _ _ = _
    unfold DigestBound.compare_and_swap
    rw [if_neg, if_neg]
    · rintro (h | h)
      · exact h hgood.2
      · exact h rfl
    · rintro (h | h)
      · exact h hdigest
      · exact h rfl
  unfold store
  rw [Checked.make_ok (post_init_iff.2 hvalid), Prog.exec_bind_ok (Prog.exec_ofExcept _),
    Checked.make_ok hnext, Prog.exec_bind_ok (Prog.exec_ofExcept _)]
  exact Prog.exec_replace hswap

/-- A transition is stored. -/
theorem exec_store_moved (answer : ∀ q : CampaignQuery, q.Answer) (hgood : c.Good s) {f : Fields} (h : Transition s f) :
    ∃ t : CanaryState, t.val = { f with revision := s.val.revision + 1 } ∧ Moved s t ∧
      (store f s).exec (CanaryState.row.cas c.digest) answer s = (t, .ok t) := by
  obtain ⟨t, hval, hexec⟩ := exec_store answer hgood h.valid (h.digest.trans hgood.2)
  exact ⟨t, hval, ⟨f, h, hval⟩, hexec⟩

theorem exec_halt (answer : ∀ q : CampaignQuery, q.Answer) (hgood : c.Good s) (hopen : s.val.phase = .capturing ∨ s.val.phase = .analyzing)
    (reason : CanaryHaltReason) (unit : CampaignUnit) :
    ∃ t : CanaryState, Moved s t ∧
      (halt s reason unit).exec (CanaryState.row.cas c.digest) answer s = (t, .ok ⟨.halted, t, some unit⟩) := by
  obtain ⟨t, _, hmoved, hexec⟩ := exec_store_moved answer hgood (.halt reason hopen)
  exact ⟨t, hmoved, Prog.exec_bind_ok hexec⟩

/-- The checks of a receipt raise a `RuntimeError`. -/
theorem raisesOnly_validate_receipt (snapshot : CaptureBatchSnapshot) (deadline : Int)
    (receipt : CampaignAnalysisReceipt) :
    RaisesOnly ErrorKind.IsException (validate_receipt snapshot deadline receipt) := by
  unfold validate_receipt
  apply raisesOnly_checkAll
  intro check hcheck
  rcases List.mem_cons.1 hcheck with rfl | hcheck
  · exact raisesOnly_raiseIf nofun
  · rw [List.mem_singleton.1 hcheck]
    exact raisesOnly_raiseIf nofun

/-- An error of the checked answer that is no `Exception` is one of the port. -/
theorem interrupted_of_checked {snapshot : CaptureBatchSnapshot} {deadline : Int}
    {reply : Except PyError CampaignAnalysisReceipt} {e : PyError}
    (h : checked reply (validate_receipt snapshot deadline) = .error e) (he : ¬e.kind.IsException) :
    reply = .error e := by
  unfold checked at h
  split at h
  · cases h
    rfl
  split at h
  · rename_i hvalidate
    cases h
    exact absurd (raisesOnly_validate_receipt snapshot deadline _ _ hvalidate) he
  · cases h

/-- A search for a captured record of an open analysis. -/
theorem first_captured_none (hgood : c.Good s) (hphase : s.val.phase = .analyzing) (hnone : first_captured s = none) :
    CANARY_SLOTS ≤ s.analyzed_count := by
  by_contra hcount
  obtain ⟨r, hr, hcaptured⟩ := (hgood.1.exists_captured hphase).2 (Nat.lt_of_not_le hcount)
  obtain ⟨index, hindex⟩ := List.getElem?_of_mem hr
  have hfound := List.find?_eq_none.1 hnone (r, index) (List.mem_zipIdx_iff_getElem?.2 hindex)
  simp [hcaptured] at hfound

/-- `reconcile_next` on an open analysis with a receipt to wait for: it is stored, or the canary
halts, or an exit of the port passes through. -/
theorem exec_reconcile_open (answer : ∀ q : CampaignQuery, q.Answer) (hgood : c.Good s) (hphase : s.val.phase = .analyzing)
    (hcount : s.analyzed_count < CANARY_SLOTS) (deadline : Int) :
    ∃ r index snapshot, s.val.records[index]? = some r ∧ r.val.phase = .captured ∧ r.val.snapshot = some snapshot ∧
      match checked (answer (.analyze snapshot deadline)) (validate_receipt snapshot deadline) with
      | .ok receipt => ∃ (r' : CanaryRecord) (t : CanaryState),
        r'.val = { r.val with phase := .complete, analysis_receipt := some receipt } ∧
          t.val = { s.val with records := s.val.records.set index r', revision := s.val.revision + 1 } ∧ Moved s t ∧
          (reconcile_next deadline).exec (CanaryState.row.cas c.digest) answer s = (t, .ok ⟨.analyzed, t, some r.val.unit⟩)
      | .error e =>
        if e.kind.IsException then ∃ t : CanaryState, Moved s t ∧
          (reconcile_next deadline).exec (CanaryState.row.cas c.digest) answer s = (t, .ok ⟨.halted, t, some r.val.unit⟩)
        else (reconcile_next deadline).exec (CanaryState.row.cas c.digest) answer s = (s, .error e) := by
  unfold reconcile_next
  rw [Prog.exec_bind_ok Prog.exec_read, if_neg (by rw [hphase]; nofun), if_neg (by rw [hphase]; nofun),
    if_neg (Nat.not_le.2 hcount)]
  cases hfirst : first_captured s with
  | none => exact absurd (first_captured_none hgood hphase hfirst) (Nat.not_le.2 hcount)
  | some found =>
    obtain ⟨r, index⟩ := found
    obtain ⟨hget, hcaptured⟩ := first_captured_ok hfirst
    have hopen : ¬Nonterminal r := by
      rintro (h | h) <;> rw [hcaptured] at h <;> cases h
    obtain ⟨snapshot, hsnapshot⟩ := Option.ne_none_iff_exists'.1 (r.fields_ok.2.2.1 hopen)
    refine ⟨r, index, snapshot, hget, hcaptured, hsnapshot, ?_⟩
    dsimp only
    rw [hsnapshot]
    dsimp only
    rw [Prog.exec_bind_ok Prog.exec_ask]
    cases checked (answer (.analyze snapshot deadline)) (validate_receipt snapshot deadline) with
    | error e =>
      dsimp only
      split
      · obtain ⟨t, hmoved, hexec⟩ := exec_halt answer hgood (Or.inr hphase) .analysis_failure r.val.unit
        exact ⟨t, hmoved, hexec⟩
      · rfl
    | ok receipt =>
      dsimp only
      -- the stored record is the captured one with its receipt
      have hrecord : CanaryRecord.Fields.post_init ⟨r.val.unit, .complete, some snapshot, some receipt⟩ = .ok () := by
        simp [CanaryRecord.Fields.post_init, checkAll_cons, raiseIf_ok, r.fields_ok.1]
      obtain ⟨t, hval, hmoved, hexec⟩ := exec_store_moved answer hgood
        (.receipt index r ⟨_, hrecord⟩ receipt hphase hget hcaptured (by dsimp only; rw [hsnapshot]))
      refine ⟨⟨_, hrecord⟩, t, rfl, hval, hmoved, ?_⟩
      rw [Checked.make_ok hrecord, Prog.exec_bind_ok (Prog.exec_ofExcept _), Prog.exec_bind_ok hexec]
      rfl

theorem sound_reconcile_open (answer : ∀ q : CampaignQuery, q.Answer) (hgood : c.Good s)
    (hphase : s.val.phase = .analyzing) (hcount : s.analyzed_count < CANARY_SLOTS) (deadline : Int) :
    Sound answer s (.reconcile_next deadline)
      ((reconcile_next deadline).exec (CanaryState.row.cas c.digest) answer s) := by
  obtain ⟨r, index, snapshot, _, _, _, h⟩ := exec_reconcile_open answer hgood hphase hcount deadline
  split at h
  · obtain ⟨r', t, _, _, hmoved, hexec⟩ := h
    rw [hexec]
    exact .moves hmoved rfl
  · rename_i e hchecked
    split at h
    · obtain ⟨t, hmoved, hexec⟩ := h
      rw [hexec]
      exact .moves hmoved rfl
    · rename_i he
      rw [h]
      exact .interrupted (interrupted_of_checked hchecked he) he

/-- `reconcile_next` on a canary whose receipts are all stored. -/
theorem exec_reconcile_closed (answer : ∀ q : CampaignQuery, q.Answer) (hgood : c.Good s) (hphase : s.val.phase = .analyzing ∨ s.val.phase = .complete)
    (hcount : s.analyzed_count = CANARY_SLOTS) (deadline : Int) :
    ∃ t : CanaryState, t.val = { s.val with phase := .complete, revision := s.val.revision + 1 } ∧
      (reconcile_next deadline).exec (CanaryState.row.cas c.digest) answer s = (t, .ok ⟨.complete, t, none⟩) := by
  have hvalid : ({ s.val with phase := .complete } : Fields).Valid := by
    rcases hphase with hphase | hphase
    · exact (Transition.finish hphase hcount).valid
    · have hs := s.valid
      rw [← hphase]
      exact hs
  obtain ⟨t, hval, hexec⟩ := exec_store answer hgood hvalid hgood.2
  refine ⟨t, hval, ?_⟩
  unfold reconcile_next
  rw [Prog.exec_bind_ok Prog.exec_read, if_neg (by rcases hphase with h | h <;> rw [h] <;> nofun),
    if_neg (by rcases hphase with h | h <;> rw [h] <;> nofun), if_pos (Nat.le_of_eq hcount.symm),
    Prog.exec_bind_ok hexec]
  rfl

/-- `halt_analysis` on an open analysis: the lookup fails once the last receipt is stored. -/
theorem exec_halt_analysis_open (answer : ∀ q : CampaignQuery, q.Answer) (hgood : c.Good s) (hphase : s.val.phase = .analyzing) :
    (s.analyzed_count < CANARY_SLOTS ∧ ∃ t r, Moved s t ∧ r.state = t ∧
      halt_analysis.exec (CanaryState.row.cas c.digest) answer s = (t, .ok r)) ∨
    (¬s.analyzed_count < CANARY_SLOTS ∧
      halt_analysis.exec (CanaryState.row.cas c.digest) answer s = (s, .error ⟨.stop_iteration, ""⟩)) := by
  unfold halt_analysis
  rw [Prog.exec_bind_ok Prog.exec_read, if_neg (by rw [hphase]; nofun), if_neg (by rw [hphase]; simp)]
  cases hfirst : first_captured s with
  | none => exact Or.inr ⟨Nat.not_lt.2 (first_captured_none hgood hphase hfirst), rfl⟩
  | some found =>
    obtain ⟨r, index⟩ := found
    obtain ⟨hget, hcaptured⟩ := first_captured_ok hfirst
    have hcount := (hgood.1.exists_captured hphase).1 ⟨r, List.mem_of_getElem? hget, hcaptured⟩
    obtain ⟨t, hmoved, hexec⟩ := exec_halt answer hgood (Or.inr hphase) .analysis_failure r.val.unit
    exact Or.inl ⟨hcount, t, _, hmoved, rfl, hexec⟩

/-- A call on a canary that is not open. -/
theorem exec_capture_next_closed (hphase : s.val.phase = .complete ∨ s.val.phase = .halted) (now : Int) :
    ((c.capture_next now).exec (CanaryState.row.cas c.digest) answer s).1 = s := by
  unfold capture_next
  rw [Prog.exec_bind_ok Prog.exec_read]
  rcases hphase with hphase | hphase
  · rw [if_neg (by rw [hphase]; nofun), if_pos (by rw [hphase]; nofun)]
    rfl
  · rw [if_pos hphase]
    rfl

/-- A call is settled exactly if its canary awaited it. -/
theorem settled_iff (hgood : c.Good s) (call : CanaryCall) :
    Settled answer s call ((c.program call).exec (CanaryState.row.cas c.digest) answer s) ↔ Awaited s call := by
  cases call with
  | capture_next now =>
    refine iff_of_true ⟨fun h => absurd rfl (h now), ?_⟩ trivial
    intro hphase
    exact exec_capture_next_closed hphase now
  | reconcile_next deadline =>
    show Settled answer s _ ((reconcile_next deadline).exec _ answer s) ↔ s.val.phase ≠ .complete
    cases hphase : s.val.phase with
    | halted =>
      have hexec : (reconcile_next deadline).exec (CanaryState.row.cas c.digest) answer s = (s, .ok ⟨.halted, s, none⟩) := by
        unfold reconcile_next
        rw [Prog.exec_bind_ok Prog.exec_read, if_pos hphase]
        rfl
      rw [hexec]
      exact iff_of_true ⟨fun _ => .stays rfl, fun _ => rfl⟩ nofun
    | capturing =>
      have hexec : (reconcile_next deadline).exec (CanaryState.row.cas c.digest) answer s =
          (s, .ok ⟨.capture_phase_closed, s, none⟩) := by
        unfold reconcile_next
        rw [Prog.exec_bind_ok Prog.exec_read, if_neg (by rw [hphase]; nofun), if_pos hphase]
        rfl
      rw [hexec]
      exact iff_of_true ⟨fun _ => .stays rfl, fun _ => rfl⟩ nofun
    | analyzing =>
      refine iff_of_true ⟨?_, ?_⟩ nofun
      · intro _
        rcases Nat.lt_or_ge s.analyzed_count CANARY_SLOTS with hcount | hcount
        · exact sound_reconcile_open answer hgood hphase hcount deadline
        · have hcount' : s.analyzed_count = CANARY_SLOTS :=
            Nat.le_antisymm (Nat.le_trans List.countP_le_length s.valid.bound) hcount
          obtain ⟨t, hval, hexec⟩ := exec_reconcile_closed answer hgood (Or.inl hphase) hcount' deadline
          rw [hexec]
          exact .moves ⟨_, .finish hphase hcount', hval⟩ rfl
      · rintro (h | h) <;> rw [hphase] at h <;> cases h
    | complete =>
      -- the complete canary is stored once more
      obtain ⟨t, hval, hexec⟩ := exec_reconcile_closed answer hgood (Or.inr hphase)
        (s.valid.complete hphase) deadline
      refine iff_of_false ?_ (fun h => h rfl)
      intro h
      have hsame := h.absorbing (Or.inl hphase)
      rw [hexec] at hsame
      have hrevision := congrArg (fun s : CanaryState => s.val.revision) hsame
      change t.val.revision = s.val.revision at hrevision
      rw [hval] at hrevision
      exact absurd hrevision (Nat.succ_ne_self _)
  | halt_analysis =>
    show Settled answer s _ (halt_analysis.exec _ answer s) ↔ (s.val.phase = .analyzing → _)
    cases hphase : s.val.phase with
    | halted =>
      have hexec : halt_analysis.exec (CanaryState.row.cas c.digest) answer s = (s, .ok ⟨.halted, s, none⟩) := by
        unfold halt_analysis
        rw [Prog.exec_bind_ok Prog.exec_read, if_pos hphase]
        rfl
      rw [hexec]
      exact iff_of_true ⟨fun _ => .stays rfl, fun _ => rfl⟩ nofun
    | capturing =>
      have hexec : halt_analysis.exec (CanaryState.row.cas c.digest) answer s = (s, .error phaseNotOpen) := by
        unfold halt_analysis
        rw [Prog.exec_bind_ok Prog.exec_read, if_neg (by rw [hphase]; nofun), if_pos (by rw [hphase]; nofun)]
        rfl
      rw [hexec]
      exact iff_of_true ⟨fun _ => .refuses (Or.inl hphase), fun _ => rfl⟩ nofun
    | complete =>
      have hexec : halt_analysis.exec (CanaryState.row.cas c.digest) answer s = (s, .error phaseNotOpen) := by
        unfold halt_analysis
        rw [Prog.exec_bind_ok Prog.exec_read, if_neg (by rw [hphase]; nofun), if_pos (by rw [hphase]; nofun)]
        rfl
      rw [hexec]
      exact iff_of_true ⟨fun _ => .refuses (Or.inr hphase), fun _ => rfl⟩ nofun
    | analyzing =>
      rcases exec_halt_analysis_open answer hgood hphase with ⟨hcount, t, r, hmoved, hr, hexec⟩ | ⟨hcount, hexec⟩
      · rw [hexec]
        refine iff_of_true ⟨fun _ => .moves hmoved hr, ?_⟩ (fun _ => hcount)
        rintro (h | h) <;> rw [hphase] at h <;> cases h
      · rw [hexec]
        refine iff_of_false ?_ (fun h => hcount (h rfl))
        intro h
        have hsound := h.sound nofun
        cases hsound

end Alone

/-! ## Every run -/

section Runs

variable {P : Type} [DecidableEq P]

theorem good_initial : c.Good (.initial c.digest) := ⟨nofun, rfl⟩

/-- A canary that some run reaches is good. -/
theorem good_of_reachable {st : Journal.State P CanaryState CampaignQuery CampaignQuery.Answer PyError CanaryResult}
    (h : c.system.Reachable st) : c.Good st.journal :=
  (Journal.consistent_of_reachable (D := c.moving) c.good_initial moves_program (fun _ _ _ _ _ => trivial) h).inv

/-- In every state of every run: `reconcile_next` and `halt_analysis` do one transition or
nothing, and no call changes a finished canary, exactly when the canary awaited the call; and
all that was ever stored is a transition, or a complete canary stored once more. -/
theorem settled_in_every_run (as : List (Journal.Label P CanaryCall CampaignQuery CampaignQuery.Answer)) :
    c.system.AllStates (fun st =>
      (∀ call answer, Settled answer st.journal call
          ((c.program call).exec (CanaryState.row.cas c.digest) answer st.journal) ↔
        Awaited st.journal call) ∧
      ∀ p old new, .wrote p old new ∈ st.history → Moved old new ∨ Restored old new) c.start as := by
  refine Journal.allStates_of_follows (D := c.moving) c.good_initial moves_program
    (fun _ _ _ _ _ => trivial) ?_ as
  intro st hst
  constructor
  · intro call answer
    exact settled_iff hst.inv call
  · intro p old new hmem
    obtain ⟨newer, older, heq⟩ := List.append_of_mem hmem
    have hvalid := History.Valid.suffix (heq ▸ hst.valid)
    exact hvalid.2.2.1

end Runs

end SupercycleCanaryCoordinator

end LeoFlow
