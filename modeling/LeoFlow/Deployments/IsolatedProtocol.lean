import LeoFlow.Deployments.IsolatedCapture

/-!
# LeoFlow.Deployments.IsolatedProtocol — no capture before the release, no result of a failed child

The child captures after it received RELEASE, which is sent after the gate opened. A result was captured and its work
closed before it is sent. `cleanup` ends with a child that was reaped, or with its last error.
-/

namespace LeoFlow

namespace IsolatedCapture

open ChildAct

variable {V : Type} {isResult : V → Bool} {w w' : ChildWorld V} {p : Party}

/-- The capture returned this, and its work was closed without an error. -/
def Succeeded (result : V) (w : ChildWorld V) : Prop := w.captured = some result ∧ w.work_closed = some true

/-- What is promised of the result of `run`. -/
structure Settled (isResult : V → Bool) (r : Except Raised V) (w : ChildWorld V) : Prop where
  succeeded : ∀ result, r = .ok result → isResult result = true ∧ Succeeded result w
  cleaned : (w.status = .absent ∨ w.status = .reaped) ∨ r = .error resisted

structure Inv (isResult : V → Bool) (w : ChildWorld V) : Prop where
  uncalled : w.called = false → w.status = .absent ∧ w.returned = none
  unentered : w.entered = false → w.captured = none ∧ w.work_closed = none
  registered : w.registered = true → w.status ≠ .absent
  /-- RELEASE is sent after the gate opened -/
  release : .release ∈ w.to_child → w.released = true
  /-- and the capture starts after it was received -/
  started : w.capture_started = true → w.released = true
  results : ∀ result, .result result ∈ w.to_parent → Succeeded result w
  process_closed : w.process_closed = true → w.status = .reaped
  closed : w.closed = true → w.status = .reaped
  returned : ∀ r, w.returned = some r → Settled isResult r w

/-- What lasts. -/
structure Grows (w w' : ChildWorld V) : Prop where
  called : w.called = true → w'.called = true
  entered : w.entered = true → w'.entered = true
  released : w.released = true → w'.released = true
  captured : ∀ result, w.captured = some result → w'.captured = some result
  work_closed : ∀ closed, w.work_closed = some closed → w'.work_closed = some closed
  present : w.status ≠ .absent → w'.status ≠ .absent
  reaped : w.status = .reaped → w'.status = .reaped

/-- What a party sees of the steps of the others. -/
structure Rely (p : Party) (w w' : ChildWorld V) : Prop where
  grows : Grows w w'
  /-- only the runner starts the child -/
  runner : p = .runner → (w.status = .absent → w'.status = .absent) ∧ w'.returned = w.returned
  child : p = .child → w'.captured = w.captured ∧ w'.work_closed = w.work_closed

def contract (isResult : V → Bool) : Contract Party (ChildWorld V) where
  Inv := Inv isResult
  Rely := Rely

theorem Grows.refl (w : ChildWorld V) : Grows w w :=
  ⟨fun h => h, fun h => h, fun h => h, fun _ h => h, fun _ h => h, fun h => h, fun h => h⟩

theorem Succeeded.grows {result : V} (h : Succeeded result w) (hgrows : Grows w w') : Succeeded result w' :=
  ⟨hgrows.captured result h.1, hgrows.work_closed true h.2⟩

theorem Settled.grows {r : Except Raised V} (h : Settled isResult r w) (hgrows : Grows w w')
    (habsent : w.status = .absent → w'.status = .absent) : Settled isResult r w' := by
  refine ⟨?_, ?_⟩
  · intro result hr
    exact ⟨(h.succeeded result hr).1, (h.succeeded result hr).2.grows hgrows⟩
  · rcases h.cleaned with (hstatus | hstatus) | hr
    · exact .inl (.inl (habsent hstatus))
    · exact .inl (.inr (hgrows.reaped hstatus))
    · exact .inr hr

/-! ## Steps that record nothing -/

/-- Messages are received or a CANCEL is sent, the child dies or is reaped, and its handle changes. -/
structure Quiet (w w' : ChildWorld V) : Prop where
  called : w'.called = w.called
  entered : w'.entered = w.entered
  released : w'.released = w.released
  capture_started : w'.capture_started = w.capture_started
  captured : w'.captured = w.captured
  work_closed : w'.work_closed = w.work_closed
  returned : w'.returned = w.returned
  release : .release ∈ w'.to_child → .release ∈ w.to_child
  results : ∀ result, .result result ∈ w'.to_parent → .result result ∈ w.to_parent
  absent : w'.status = .absent ↔ w.status = .absent
  reaped : w.status = .reaped → w'.status = .reaped
  registered : w'.registered = true → w.registered = true ∨ w.status ≠ .absent
  process_closed : w'.process_closed = true → w.process_closed = true ∨ w.status = .reaped
  closed : w'.closed = true → w.closed = true ∨ w.status = .reaped

theorem Quiet.grows (h : Quiet w w') : Grows w w' where
  called := fun hcalled => h.called.trans hcalled
  entered := fun hentered => h.entered.trans hentered
  released := fun hreleased => h.released.trans hreleased
  captured := fun _ hcaptured => h.captured.trans hcaptured
  work_closed := fun _ hclosed => h.work_closed.trans hclosed
  present := fun hpresent habsent => hpresent (h.absent.1 habsent)
  reaped := h.reaped

theorem Quiet.rely (h : Quiet w w') (p : Party) : Rely p w w' where
  grows := h.grows
  runner := fun _ => ⟨h.absent.2, h.returned⟩
  child := fun _ => ⟨h.captured, h.work_closed⟩

theorem Quiet.inv (h : Quiet w w') (hw : Inv isResult w) : Inv isResult w' where
  uncalled := by
    rw [h.called, h.absent, h.returned]
    exact hw.uncalled
  unentered := by
    rw [h.entered, h.captured, h.work_closed]
    exact hw.unentered
  registered := fun hregistered habsent =>
    (h.registered hregistered).elim (fun hregistered => hw.registered hregistered) id (h.absent.1 habsent)
  release := by
    rw [h.released]
    exact fun hrelease => hw.release (h.release hrelease)
  started := by
    rw [h.capture_started, h.released]
    exact hw.started
  results := fun result hresult => (hw.results result (h.results result hresult)).grows h.grows
  process_closed := fun hclosed => h.reaped ((h.process_closed hclosed).elim hw.process_closed id)
  closed := fun hclosed => h.reaped ((h.closed hclosed).elim hw.closed id)
  returned := by
    rw [h.returned]
    exact fun r hr => (hw.returned r hr).grows h.grows h.absent.2

theorem Quiet.allows (h : Quiet w w') (hw : Inv isResult w) : (contract isResult).Allows p w w' :=
  ⟨h.inv hw, fun p' _ => h.rely p'⟩

theorem quiet_refl (w : ChildWorld V) : Quiet w w :=
  ⟨rfl, rfl, rfl, rfl, rfl, rfl, rfl, fun h => h, fun _ h => h, Iff.rfl, fun h => h, .inl, .inl, .inl⟩

theorem quiet_reap (w : ChildWorld V) : Quiet w w.reap := by
  refine ⟨rfl, rfl, rfl, rfl, rfl, rfl, rfl, fun h => h, fun _ h => h, ?_, ?_, .inl, .inl, .inl⟩
  · unfold ChildWorld.reap
    cases w.status <;> simp
  · intro h
    simp [ChildWorld.reap, h]

theorem quiet_dead (w : ChildWorld V) : Quiet w (dead w) := by
  refine ⟨rfl, rfl, rfl, rfl, rfl, rfl, rfl, fun h => h, fun _ h => h, ?_, ?_, .inl, .inl, .inl⟩
  · unfold dead
    cases w.status <;> simp
  · intro h
    simp [dead, h]

/-- The acts of the parent that record nothing. -/
def Plain : ChildAct V → Prop
  | .start | .send .release | .ready_and_wait_for_release | .register | .process_close | .set_closed | .returned _ =>
    False
  | _ => True

variable {α : Type} {next : α → Option (ChildWorld V)}

theorem quiet_onProcess {answer : Except Raised α} (h : w.onProcess answer next = some w')
    (hnext : ∀ a, next a = some w' → Quiet w w') : Quiet w w' := by
  unfold ChildWorld.onProcess at h
  split at h
  · split at h
    · cases h
    · exact hnext _ h
  · split at h
    · cases h
      exact quiet_refl w
    · cases h

variable [DecidableEq V]

theorem quiet_send {message : Message V} {a : Except Raised Unit} (hmessage : message ≠ .release)
    (h : w.respondParent p (.send message) a = some w') : Quiet w w' := by
  cases a with
  | ok _ =>
    unfold ChildWorld.respondParent at h
    dsimp only at h
    split at h
    · cases h
    · cases h
      refine { quiet_refl w with release := ?_ }
      intro hrelease
      rcases List.mem_append.1 hrelease with hrelease | hrelease
      · exact hrelease
      · exact absurd (List.mem_singleton.1 hrelease).symm hmessage
  | error e =>
    unfold ChildWorld.respondParent at h
    dsimp only at h
    split at h
    · cases h
      exact quiet_refl w
    · cases h

theorem quiet_recv {a : Except Raised (Message V)} (h : w.respondParent p .recv a = some w') : Quiet w w' := by
  cases a with
  | ok message =>
    unfold ChildWorld.respondParent at h
    dsimp only at h
    split at h
    · cases h
    · rename_i first rest hto_parent
      split at h
      · cases h
      · cases h
        refine { quiet_refl w with results := ?_ }
        intro result hresult
        rw [hto_parent]
        exact List.mem_cons_of_mem _ hresult
  | error e =>
    unfold ChildWorld.respondParent at h
    dsimp only at h
    split at h
    · cases h
    · cases h
      exact quiet_refl w

variable {q : ChildAct V}

theorem quiet_of_plain {a : q.Answer} (hq : Plain q) (h : w.respondParent p q a = some w') :
    Quiet w w' := by
  cases q with
  | start | ready_and_wait_for_release | register | process_close | set_closed | returned _ => exact False.elim hq
  | send message =>
    refine quiet_send ?_ h
    rintro rfl
    exact hq
  | recv => exact quiet_recv h
  | poll =>
    cases a <;> unfold ChildWorld.respondParent at h <;> dsimp only at h <;> split at h <;> cases h
    · exact quiet_refl w
    · exact quiet_refl w
  | is_alive =>
    refine quiet_onProcess h ?_
    intro alive hnext
    split at hnext
    · cases hnext
      exact quiet_reap w
    · cases hnext
  | join =>
    refine quiet_onProcess h ?_
    intro _ hnext
    cases hnext
    exact quiet_reap w
  | terminate | kill =>
    refine quiet_onProcess h ?_
    intro _ hnext
    cases hnext
    exact quiet_refl w
  | connection_close | cancelled | monotonic | delay | release =>
    cases h
    exact { quiet_refl w with }
  | acquire =>
    unfold ChildWorld.respondParent at h
    dsimp only at h
    split at h <;> cases h
    exact { quiet_refl w with }
  | read_closed | handles =>
    unfold ChildWorld.respondParent at h
    dsimp only at h
    split at h <;> cases h
    exact quiet_refl w
  | discard =>
    cases h
    exact { quiet_refl w with registered := nofun }
  | arm | child_send _ | child_recv | build | preflight | start_capture | capture | close_work | forever => cases h

/-! ## Acts -/

/-- The triple of a part of a party. -/
abbrev Holds (isResult : V → Bool) (p : Party) {α : Type} (A : ChildWorld V → Prop) (x : ChildScript V α)
    (Q : Except Raised α → ChildWorld V → Prop) : Prop :=
  x.Meets (contract isResult) ChildWorld.respond p Q A

/-- What the other parties keep. -/
abbrev Lasts (isResult : V → Bool) (p : Party) (K : ChildWorld V → Prop) : Prop := (contract isResult).Stable p K

variable {K : ChildWorld V → Prop}

variable {B : q.Answer → ChildWorld V → Prop}

/-- An act that every party may see. -/
theorem holds_open (hK : Lasts isResult p K) (hB : ∀ a, Lasts isResult p (B a))
    (h : ∀ w a w', Inv isResult w → K w → w.respond p q a = some w' → Inv isResult w' ∧ (∀ p, Rely p w w') ∧ B a w') :
    Holds isResult p K (ask q) (Script.Yields fun a w => K w ∧ B a w) := by
  refine Script.meets_ask (fun a => hK.and (hB a)) ?_
  intro w a w' hw hk hrespond
  obtain ⟨hinv, hrely, hb⟩ := h w a w' hw hk hrespond
  exact ⟨⟨hinv, fun p' _ => hrely p'⟩, hK w w' hw hinv (hrely p) hk, hb⟩

/-- An act of the parent that records nothing. -/
theorem holds_parent (hp : p ≠ .child) (hK : Lasts isResult p K) (hB : ∀ a, Lasts isResult p (B a))
    (h : ∀ w a w', Inv isResult w → K w → w.respondParent p q a = some w' → Quiet w w' ∧ B a w') :
    Holds isResult p K (ask q) (Script.Yields fun a w => K w ∧ B a w) := by
  refine holds_open hK hB ?_
  intro w a w' hw hk hrespond
  have hparent : w.respondParent p q a = some w' := by
    cases p with
    | child => exact absurd rfl hp
    | runner | aborter _ => exact hrespond
  obtain ⟨hquiet, hb⟩ := h w a w' hw hk hparent
  exact ⟨hquiet.inv hw, hquiet.rely, hb⟩

theorem holds_plain (hp : p ≠ .child) (hq : Plain q) (hK : Lasts isResult p K) (hB : ∀ a, Lasts isResult p (B a))
    (h : ∀ w a w', Inv isResult w → K w → w.respondParent p q a = some w' → B a w') :
    Holds isResult p K (ask q) (Script.Yields fun a w => K w ∧ B a w) :=
  holds_parent hp hK hB fun w a w' hw hk hparent => ⟨quiet_of_plain hq hparent, h w a w' hw hk hparent⟩

omit [DecidableEq V] in
theorem lasts_true : Lasts isResult p fun _ : ChildWorld V => True := fun _ _ _ _ _ h => h

theorem holds_quiet (hp : p ≠ .child) (hq : Plain q) (hK : Lasts isResult p K) :
    Holds isResult p K (ask q) (Script.Yields fun _ => K) := by
  refine (holds_plain hp hq hK (fun _ => lasts_true) fun _ _ _ _ _ _ => trivial).weaken (fun _ _ h => h) ?_
  intro r w _ h
  cases r with
  | ok a => exact h.1
  | error e => exact h

variable {A : ChildWorld V → Prop}

theorem holds_attempt {Q : Except Raised α → ChildWorld V → Prop} {x : ChildScript V (Except Raised α)}
    (hx : Holds isResult p A x (Script.Yields Q)) :
    Holds isResult p A (attempt x) Q := by
  refine Script.meets_bind hx ?_ fun _ _ _ h => False.elim h
  intro r
  cases r with
  | ok a => exact fun _ _ h => h
  | error e => exact fun _ _ h => h

/-! ## Cleanup -/

/-- An error of the process object says that the child was reaped. -/
def Stopped {α : Type} (r : Except Raised α) (w : ChildWorld V) : Prop := ∀ e, r = .error e → w.status = .reaped

omit [DecidableEq V] in
theorem lasts_reaped : Lasts isResult p fun w : ChildWorld V => w.status = .reaped :=
  fun _ _ _ _ hrely h => hrely.grows.reaped h

omit [DecidableEq V] in
theorem lasts_stopped (r : Except Raised α) : Lasts isResult p (Stopped (V := V) r) :=
  fun _ _ _ _ hrely h e hr => hrely.grows.reaped (h e hr)

omit [DecidableEq V] in
theorem onProcess_error {e : Raised} (h : w.onProcess (.error e) next = some w') : w.process_closed = true ∧ w' = w := by
  simp only [ChildWorld.onProcess, Option.ite_none_right_eq_some, Option.some.injEq] at h
  exact ⟨h.1.1, h.2.symm⟩

omit [DecidableEq V] in
theorem stopped_onProcess {a : Except Raised α} (hw : Inv isResult w) (h : w.onProcess a next = some w') : Stopped a w' := by
  rintro e rfl
  obtain ⟨hclosed, rfl⟩ := onProcess_error h
  exact hw.process_closed hclosed

/-- `is_alive` of a child that was started. -/
theorem holds_is_alive (hp : p ≠ .child) (hK : Lasts isResult p K) (hpresent : ∀ w, K w → w.status ≠ .absent) :
    Holds isResult p K (attempt (ask .is_alive)) fun r w => K w ∧ Stopped r w ∧ (r = .ok false → w.status = .reaped) := by
  refine holds_attempt (holds_plain (q := .is_alive) hp trivial hK (fun a => (lasts_stopped a).and ?_) ?_)
  · exact fun _ _ _ _ hrely h ha => hrely.grows.reaped (h ha)
  · intro w a w' hw hk h
    refine ⟨stopped_onProcess hw h, ?_⟩
    rintro rfl
    have hpresent := hpresent w hk
    simp only [ChildWorld.respondParent, ChildWorld.onProcess] at h
    split at h
    · cases h
    · split at h
      · rename_i halive
        cases h
        unfold ChildWorld.reap
        -- it is neither absent nor alive
        cases hstatus : w.status with
        | absent => exact absurd hstatus hpresent
        | alive => simp [hstatus] at halive
        | dead | reaped => rfl
      · cases h

theorem holds_join (hp : p ≠ .child) (hK : Lasts isResult p K) :
    Holds isResult p K (attempt (ask .join)) fun r w => K w ∧ Stopped r w :=
  holds_attempt (holds_plain (q := .join) hp trivial hK lasts_stopped fun _ _ _ hw _ h => stopped_onProcess hw h)

theorem holds_terminate (hp : p ≠ .child) (hK : Lasts isResult p K) :
    Holds isResult p K (attempt (ask .terminate)) fun r w => K w ∧ Stopped r w :=
  holds_attempt (holds_plain (q := .terminate) hp trivial hK lasts_stopped fun _ _ _ hw _ h => stopped_onProcess hw h)

theorem holds_kill (hp : p ≠ .child) (hK : Lasts isResult p K) :
    Holds isResult p K (attempt (ask .kill)) fun r w => K w ∧ Stopped r w :=
  holds_attempt (holds_plain (q := .kill) hp trivial hK lasts_stopped fun _ _ _ hw _ h => stopped_onProcess hw h)

theorem holds_sendCancel (hp : p ≠ .child) (hK : Lasts isResult p K) :
    Holds isResult p K sendCancel fun r w => K w ∧ Stopped r w := by
  have hsend : Holds isResult p K (ask (.send .cancel)) (Script.Yields fun a w =>
      K w ∧ ∀ e, a = .error e → e = .os_error) := by
    refine holds_plain hp (by trivial) hK (fun _ _ _ _ _ _ h => h) ?_
    rintro w a w' _ _ h e rfl
    unfold ChildWorld.respondParent at h
    dsimp only at h
    split at h
    · assumption
    · cases h
  refine Script.meets_bind hsend ?_ fun _ _ _ h => False.elim h
  intro a
  cases a with
  | ok _ => exact Script.meets_pure fun w _ h => ⟨h.1, nofun⟩
  | error e =>
    by_cases he : e = .os_error
    · subst he
      exact Script.meets_pure fun w _ h => ⟨h.1, nofun⟩
    · exact Script.meets_absurd fun w _ h => he (h.2 e rfl)

theorem holds_stage (hp : p ≠ .child) (hK : Lasts isResult p K) (hpresent : ∀ w, K w → w.status ≠ .absent)
    {stop : ChildScript V Unit} (hstop : Holds isResult p K stop fun r w => K w ∧ Stopped r w) :
    Holds isResult p K (stage stop) fun r w => K w ∧ Stopped r w := by
  refine Script.meets_bind (holds_is_alive hp hK hpresent) ?_ ?_
  · intro alive
    cases alive with
    | true =>
      refine Script.meets_bind (hstop.weaken (fun w _ h => h.1) fun _ _ _ h => h) ?_ ?_
      · intro _
        exact (holds_join hp hK).weaken (fun w _ h => h.1) fun _ _ _ h => h
      · exact fun e w _ h => ⟨h.1, fun _ _ => h.2 e rfl⟩
    | false => exact Script.meets_pure fun w _ h => ⟨h.1, nofun⟩
  · exact fun e w _ h => ⟨h.1, fun _ _ => h.2.1 e rfl⟩

theorem holds_process_close (hp : p ≠ .child) (hK : Lasts isResult p K) (hreaped : ∀ w, K w → w.status = .reaped) :
    Holds isResult p K (attempt (ask .process_close)) (Script.Yields fun _ => K) := by
  have hclose : Holds isResult p K (ask .process_close) (Script.Yields fun a w => K w ∧ a = .ok ()) := by
    refine holds_parent hp hK (fun _ _ _ _ _ _ h => h) ?_
    intro w a w' _ hk h
    have hreaped := hreaped w hk
    cases a with
    | ok _ =>
      simp only [ChildWorld.respondParent, hreaped] at h
      cases h
      exact ⟨{ quiet_reap w with process_closed := fun _ => .inr hreaped }, rfl⟩
    | error e => simp [ChildWorld.respondParent, hreaped] at h
  refine holds_attempt (hclose.weaken (fun _ _ h => h) ?_)
  intro r w _ h
  cases r with
  | ok a =>
    obtain ⟨hk, rfl⟩ := h
    exact hk
  | error e => exact h

theorem holds_set_closed (hp : p ≠ .child) (hK : Lasts isResult p K) (hreaped : ∀ w, K w → w.status = .reaped) :
    Holds isResult p K (ask .set_closed) (Script.Yields fun _ w => K w ∧ True) := by
  refine holds_parent hp hK (fun _ => lasts_true) ?_
  intro w a w' _ hk h
  cases h
  exact ⟨{ quiet_refl w with closed := fun _ => .inr (hreaped w hk) }, trivial⟩

/-- The child is reaped, or that is the error. -/
def Cleaned {α : Type} (r : Except Raised α) (w : ChildWorld V) : Prop :=
  w.status = .reaped ∨ r = .error resisted

theorem holds_cleanupOpen (hp : p ≠ .child) (hK : Lasts isResult p K) (hpresent : ∀ w, K w → w.status ≠ .absent) :
    Holds isResult p K cleanupOpen fun r w => K w ∧ Cleaned r w := by
  have herror : ∀ e (w : ChildWorld V), Inv isResult w → K w ∧ Stopped (.error e : Except Raised Unit) w →
      K w ∧ Cleaned (.error e : Except Raised Unit) w := fun e w _ h => ⟨h.1, .inl (h.2 e rfl)⟩
  have hstage : ∀ {stop : ChildScript V Unit}, (Holds isResult p K stop fun r w => K w ∧ Stopped r w) →
      Holds isResult p (fun w => K w ∧ Stopped (.ok () : Except Raised Unit) w) (stage stop)
        fun r w => K w ∧ Stopped r w :=
    fun hstop => (holds_stage hp hK hpresent hstop).weaken (fun _ _ h => h.1) fun _ _ _ h => h
  refine Script.meets_bind (holds_stage hp hK hpresent (holds_sendCancel hp hK)) (fun _ => ?_) herror
  refine Script.meets_bind (hstage (holds_terminate hp hK)) (fun _ => ?_) herror
  refine Script.meets_bind (hstage (holds_kill hp hK)) (fun _ => ?_) herror
  refine Script.meets_bind ((holds_is_alive hp hK hpresent).weaken (fun _ _ h => h.1) fun _ _ _ h => h) ?_ ?_
  · intro alive
    cases alive with
    | true => exact Script.meets_raise fun w _ h => ⟨h.1, .inr rfl⟩
    | false =>
      -- from here on the child is reaped
      have hreaped : ∀ w : ChildWorld V, K w ∧ w.status = .reaped → w.status = .reaped := fun _ h => h.2
      have hlasts : Lasts isResult p fun w => K w ∧ w.status = .reaped := hK.and lasts_reaped
      refine Script.meets_bind ((holds_quiet hp (by trivial) hlasts).weaken (fun w _ h => ⟨h.1, h.2.2 rfl⟩)
        fun _ _ _ h => h) (fun _ => ?_) fun _ _ _ h => False.elim h
      refine Script.meets_bind (holds_process_close hp hlasts hreaped) (fun _ => ?_) fun _ _ _ h => False.elim h
      refine (holds_set_closed hp hlasts hreaped).weaken (fun _ _ h => h) ?_
      intro r w _ h
      cases r with
      | ok _ => exact ⟨h.1.1, .inl h.1.2⟩
      | error e => exact False.elim h
  · exact fun e w _ h => ⟨h.1, .inl (h.2.1 e rfl)⟩

/-- `cleanup` -/
theorem holds_cleanup (hp : p ≠ .child) (hK : Lasts isResult p K) (hpresent : ∀ w, K w → w.status ≠ .absent) :
    Holds isResult p K cleanup fun r w => K w ∧ Cleaned r w := by
  refine Script.meets_bind (holds_quiet hp (by trivial) hK) (fun _ => ?_) fun _ _ _ h => False.elim h
  refine Script.meets_ensure (Q := fun r w => K w ∧ Cleaned r w) ?_ ?_
  · have hread : Holds isResult p K (ask .read_closed) (Script.Yields fun a w => K w ∧ (a = true → w.status = .reaped)) := by
      refine holds_plain hp (by trivial) hK (fun _ _ _ _ _ hrely h ha => hrely.grows.reaped (h ha)) ?_
      intro w a w' hw _ h ha
      unfold ChildWorld.respondParent at h
      dsimp only at h
      split at h
      · rename_i hclosed
        cases h
        exact hw.closed (hclosed.symm.trans ha)
      · cases h
    refine Script.meets_bind hread ?_ fun _ _ _ h => False.elim h
    intro closed
    cases closed with
    | true => exact Script.meets_pure fun w _ h => ⟨h.1, .inl (h.2 rfl)⟩
    | false => exact (holds_cleanupOpen hp hK hpresent).weaken (fun _ _ h => h.1) fun _ _ _ h => h
  · intro r
    have hcleaned : Lasts isResult p fun w : ChildWorld V => K w ∧ Cleaned r w := by
      refine hK.and ?_
      intro w w' _ _ hrely h
      exact h.imp hrely.grows.reaped id
    refine (holds_quiet hp (by trivial) hcleaned).weaken (fun _ _ h => h) ?_
    intro done w _ h
    cases done with
    | ok _ => exact h
    | error e => exact False.elim h

/-- `abort_all` -/
theorem holds_abort_all (n : Nat) : Holds isResult (.aborter n) (fun _ => True) (abort_all (V := V)) fun _ _ => True := by
  have hp : Party.aborter n ≠ .child := nofun
  have hhandles : Holds isResult (.aborter n) (fun _ => True) (ask .handles)
      (Script.Yields fun a (w : ChildWorld V) => True ∧ (a = true → w.status ≠ .absent)) := by
    refine holds_plain hp (by trivial) lasts_true (fun _ _ _ _ _ hrely h ha => hrely.grows.present (h ha)) ?_
    intro w a w' hw _ h ha
    unfold ChildWorld.respondParent at h
    dsimp only at h
    split at h
    · rename_i hregistered
      cases h
      exact hw.registered (hregistered.symm.trans ha)
    · cases h
  refine Script.meets_bind hhandles ?_ fun _ _ _ h => False.elim h
  intro registered
  cases registered with
  | true =>
    have hpresent : Lasts isResult (.aborter n) fun w : ChildWorld V => w.status ≠ .absent :=
      fun _ _ _ _ hrely h => hrely.grows.present h
    refine Script.meets_bind (Script.meets_result (R := Script.Yields fun _ _ => True) ((holds_cleanup hp hpresent
      fun _ h => h).weaken (fun w _ h => h.2 rfl) fun _ _ _ h => h) fun _ _ _ _ => trivial) ?_ fun _ _ _ _ => trivial
    intro r
    cases r with
    | ok _ => exact (holds_quiet hp (by trivial) lasts_true).weaken (fun _ _ _ => trivial) fun _ _ _ _ => trivial
    | error e => exact Script.meets_raise fun _ _ _ => trivial
  | false => exact Script.meets_pure fun _ _ _ => trivial

/-! ## The child -/

/-- An act of the child, which is in its main function. -/
theorem holds_child (hB : ∀ a, Lasts isResult .child (B a))
    (h : ∀ w a w', Inv isResult w → A w → w.status = .alive → w.respondChild q a = some w' → Inv isResult w' ∧ Grows w w' ∧ w'.status = w.status ∧ w'.returned = w.returned ∧ B a w') :
    Holds isResult .child A (ask q) (Script.Yields B) := by
  refine Script.meets_ask hB ?_
  intro w a w' hw ha hrespond
  simp only [ChildWorld.respond] at hrespond
  split at hrespond
  · rename_i halive
    obtain ⟨hinv, hgrows, hstatus, hreturned, hb⟩ := h w a w' hw ha halive hrespond
    refine ⟨⟨hinv, ?_⟩, hb⟩
    intro p' hp'
    exact ⟨hgrows, fun _ => ⟨hstatus.trans, hreturned⟩, fun heq => absurd heq hp'⟩
  · cases hrespond

/-- The child captured this, and its work is not closed yet. -/
def Captured (captured : Option V) (w : ChildWorld V) : Prop :=
  w.entered = true ∧ w.captured = captured ∧ w.work_closed = none

omit [DecidableEq V] in
theorem lasts_captured {captured : Option V} : Lasts isResult .child (Captured captured) := by
  rintro w w' _ _ hrely ⟨hentered, hcaptured, hclosed⟩
  obtain ⟨hsame, hsameClosed⟩ := hrely.child rfl
  exact ⟨hrely.grows.entered hentered, hsame.trans hcaptured, hsameClosed.trans hclosed⟩

/-- An act of the child that leaves its work alone. -/
theorem holds_child_quiet {captured : Option V} (hB : ∀ a, Lasts isResult .child (B a))
    (h : ∀ w a w', Inv isResult w → w.respondChild q a = some w' → Quiet w w' ∧ B a w') :
    Holds isResult .child (Captured captured) (ask q) (Script.Yields fun a w => Captured captured w ∧ B a w) := by
  refine Script.meets_ask (fun a => lasts_captured.and (hB a)) ?_
  intro w a w' hw hcaptured hrespond
  simp only [ChildWorld.respond] at hrespond
  split at hrespond
  · obtain ⟨hquiet, hb⟩ := h w a w' hw hrespond
    exact ⟨hquiet.allows hw, lasts_captured w w' hw (hquiet.inv hw) (hquiet.rely .child) hcaptured, hb⟩
  · cases hrespond

theorem holds_prepare : Holds isResult .child (Captured none) (prepare (V := V)) (Script.Yields fun _ => Captured none) := by
  have hbuild : Holds isResult .child (Captured none) (ask .build) (Script.Yields fun _ w => Captured (V := V) none w ∧ True) := by
    refine holds_child_quiet (fun _ => lasts_true) ?_
    intro w a w' _ h
    cases h
    exact ⟨quiet_refl w, trivial⟩
  have hpreflight : Holds isResult .child (Captured none) (ask .preflight) (Script.Yields fun _ w => Captured (V := V) none w ∧ True) := by
    refine holds_child_quiet (fun _ => lasts_true) ?_
    intro w a w' _ h
    cases h
    exact ⟨quiet_refl w, trivial⟩
  refine Script.meets_bind hbuild ?_ fun _ _ _ h => False.elim h
  intro built
  rcases built with e | _ | _
  · exact Script.meets_pure fun w _ h => h.1
  · exact Script.meets_pure fun w _ h => h.1
  · refine Script.meets_bind (hpreflight.weaken (fun _ _ h => h.1) fun _ _ _ h => h) ?_ fun _ _ _ h => False.elim h
    intro preflighted
    rcases preflighted with e | _
    · cases e <;> exact Script.meets_pure fun w _ h => h.1
    · exact Script.meets_pure fun w _ h => h.1

/-- What the child knows before it closes its work. -/
def Executed (work : Bool) (result : Option V) (w : ChildWorld V) : Prop :=
  w.entered = true ∧ w.work_closed = none ∧ ∀ value, result = some value → work = true ∧ w.captured = some value

omit [DecidableEq V] in
theorem Captured.executed {captured : Option V} {work : Bool} (h : Captured captured w) : Executed work none w :=
  ⟨h.1, h.2.2, nofun⟩

theorem holds_captureWork : Holds isResult .child (fun w => Captured none w ∧ w.released = true) (captureWork (V := V))
    (Script.Yields fun r => Executed true r.2) := by
  have hstart : Holds isResult .child (fun w => Captured none w ∧ w.released = true) (ask .start_capture)
      (Script.Yields fun _ => Captured (V := V) none) := by
    refine holds_child (fun _ => lasts_captured) ?_
    rintro w a w' hw ⟨hcaptured, hreleased⟩ halive h
    cases h
    have hgrows : Grows w { w with capture_started := true } := { Grows.refl w with }
    exact ⟨{ hw with started := fun _ => hreleased
                     results := fun result hresult => (hw.results result hresult).grows hgrows
                     returned := fun r hr => (hw.returned r hr).grows hgrows id }, hgrows, rfl, rfl, hcaptured⟩
  have hcapture : Holds isResult .child (Captured none) (ask .capture) (Script.Yields fun a (w : ChildWorld V) =>
      ∀ captured, a = .ok captured ∨ a.toOption = none ∧ captured = none → Executed true captured w) := by
    refine holds_child ?_ ?_
    · intro a w w' _ _ hrely h captured ha
      obtain ⟨hentered, hclosed, hvalue⟩ := h captured ha
      obtain ⟨hsame, hsameClosed⟩ := hrely.child rfl
      refine ⟨hrely.grows.entered hentered, hsameClosed.trans hclosed, ?_⟩
      rw [hsame]
      exact hvalue
    · rintro w a w' hw ⟨hentered, hcaptured, hclosed⟩ _ h
      cases a with
      | error e =>
        cases h
        refine ⟨hw, Grows.refl w, rfl, rfl, ?_⟩
        rintro captured (ha | ⟨_, rfl⟩)
        · cases ha
        · exact ⟨hentered, hclosed, nofun⟩
      | ok result =>
        cases h
        have hnone : ∀ value, ¬w.captured = some value := by
          rw [hcaptured]
          nofun
        have hgrows : Grows w { w with captured := result } :=
          { Grows.refl w with captured := fun value h => absurd h (hnone value) }
        refine ⟨{ hw with unentered := fun h => ?_
                          results := fun result hresult => (hw.results result hresult).grows hgrows
                          returned := fun r hr => (hw.returned r hr).grows hgrows id }, hgrows, rfl, rfl, ?_⟩
        · rw [hentered] at h
          cases h
        · rintro captured (ha | ⟨ha, _⟩)
          · cases ha
            exact ⟨hentered, hclosed, fun _ h => ⟨rfl, h⟩⟩
          · cases ha
  refine Script.meets_bind hstart (fun _ => ?_) fun _ _ _ h => False.elim h
  refine Script.meets_bind hcapture ?_ fun _ _ _ h => False.elim h
  intro a
  rcases a with e | result
  · cases e <;> exact Script.meets_pure fun w _ h => h none (.inr ⟨rfl, rfl⟩)
  · exact Script.meets_pure fun w _ h => h result (.inl rfl)

/-- An open message of the child. -/
theorem quiet_child_send {message : Message V} {a : Except Raised Unit} (hmessage : ∀ result, message ≠ .result result)
    (h : w.respondChild (.child_send message) a = some w') : Quiet w w' := by
  cases a with
  | ok _ =>
    cases h
    refine { quiet_refl w with results := ?_ }
    intro result hresult
    rcases List.mem_append.1 hresult with hresult | hresult
    · exact hresult
    · exact absurd (List.mem_singleton.1 hresult).symm (hmessage result)
  | error e =>
    cases h
    exact quiet_refl w

/-- The same, whether `execute` returned or raised. -/
def AfterExecute (work : Bool) : Except Raised (Option CaptureAttemptFailureReason × Option V) → ChildWorld V → Prop
  | .ok locals => Executed work locals.2
  | .error _ => Executed work none

theorem holds_execute (work : Bool) (failure_reason : Option CaptureAttemptFailureReason) :
    Holds isResult .child (Captured none) (execute (V := V) work failure_reason) (AfterExecute work) := by
  cases failure_reason with
  | some reason => exact Script.meets_pure fun w _ h => h.executed
  | none =>
    have hready : ∀ result : V, Message.ready ≠ .result result := fun _ => nofun
    have hsend : Holds isResult .child (Captured none) (ask (.child_send .ready))
        (Script.Yields fun _ w => Captured (V := V) none w ∧ True) :=
      holds_child_quiet (fun _ => lasts_true) fun w a w' _ h => ⟨quiet_child_send hready h, trivial⟩
    have hrecv : Holds isResult .child (Captured none) (ask .child_recv) (Script.Yields fun a w =>
        Captured (V := V) none w ∧ (a = .ok .release → w.released = true)) := by
      refine holds_child_quiet (fun _ _ _ _ _ hrely h ha => hrely.grows.released (h ha)) ?_
      intro w a w' hw h
      cases a with
      | ok message =>
        simp only [ChildWorld.respondChild] at h
        split at h
        · cases h
        · rename_i first rest hto_child
          split at h
          · rename_i hfirst
            cases h
            refine ⟨{ quiet_refl w with release := ?_ }, ?_⟩
            · intro hrelease
              rw [hto_child]
              exact List.mem_cons_of_mem _ hrelease
            · intro ha
              cases ha
              refine hw.release ?_
              rw [hto_child, hfirst]
              exact List.mem_cons_self
          · cases h
      | error e =>
        cases h
        exact ⟨quiet_refl w, nofun⟩
    refine Script.meets_bind (holds_attempt hsend) (fun _ => ?_) fun _ _ _ h => h.1.executed
    refine Script.meets_bind (holds_attempt (hrecv.weaken (fun _ _ h => h.1) fun _ _ _ h => h)) ?_ ?_
    · intro message
      rcases message with _ | _ | _ | _ | _
      -- only RELEASE starts the capture
      case release =>
        cases work with
        | true =>
          refine holds_captureWork.weaken (fun w _ h => ⟨h.1, h.2 rfl⟩) ?_
          intro r w _ h
          cases r with
          | ok locals => exact h
          | error e => exact False.elim h
        | false => exact Script.meets_pure fun w _ h => h.1.executed
      all_goals exact Script.meets_pure fun w _ h => h.1.executed
    · intro e w _ h
      exact h.1.executed

/-- What the child knows when it sends its last message. -/
def Finished (failure_reason : Option CaptureAttemptFailureReason) (result : Option V) (w : ChildWorld V) : Prop :=
  failure_reason = none → ∀ value, result = some value → Succeeded value w

theorem holds_closeWork (work : Bool) (failure_reason : Option CaptureAttemptFailureReason) (result : Option V) :
    Holds isResult .child (Executed work result) (closeWork work failure_reason)
      (Script.Yields fun failure_reason => Finished failure_reason result) := by
  cases work with
  | false =>
    refine Script.meets_pure ?_
    rintro w _ ⟨_, _, hresult⟩ _ value hvalue
    cases (hresult value hvalue).1
  | true =>
    have hclose : Holds isResult .child (Executed true result) (ask .close_work) (Script.Yields fun a w =>
        a = .ok () → ∀ value, result = some value → Succeeded value w) := by
      refine holds_child ?_ ?_
      · exact fun _ _ _ _ _ hrely h ha value hvalue => (h ha value hvalue).grows hrely.grows
      · rintro w a w' hw ⟨hentered, hnone, hresult⟩ _ h
        have hopen : ∀ closed, ¬w.work_closed = some closed := by
          rw [hnone]
          nofun
        have hstep : ∀ closed, Inv isResult { w with work_closed := some closed } ∧
            Grows w { w with work_closed := some closed } := by
          intro closed
          have hgrows : Grows w { w with work_closed := some closed } :=
            { Grows.refl w with work_closed := fun closed h => absurd h (hopen closed) }
          refine ⟨{ hw with unentered := fun h => ?_
                            results := fun result hresult => (hw.results result hresult).grows hgrows
                            returned := fun r hr => (hw.returned r hr).grows hgrows id }, hgrows⟩
          rw [hentered] at h
          cases h
        cases a with
        | ok _ =>
          cases h
          exact ⟨(hstep true).1, (hstep true).2, rfl, rfl, fun _ value hvalue => ⟨(hresult value hvalue).2, rfl⟩⟩
        | error e =>
          cases h
          exact ⟨(hstep false).1, (hstep false).2, rfl, rfl, nofun⟩
    refine Script.meets_bind hclose ?_ fun _ _ _ h => False.elim h
    intro a
    cases a with
    | ok _ => exact Script.meets_pure fun w _ h _ => h rfl
    | error e => exact Script.meets_pure fun w _ _ => nofun

theorem holds_safe_send (failure_reason : Option CaptureAttemptFailureReason) (result : Option V) :
    Holds isResult .child (Finished failure_reason result) (safe_send (lastMessage failure_reason result)) fun _ _ => True := by
  have hsend : Holds isResult .child (Finished failure_reason result) (ask (.child_send (lastMessage failure_reason result)))
      (Script.Yields fun _ (_ : ChildWorld V) => True) := by
    refine Script.meets_ask (fun _ => lasts_true) ?_
    intro w a w' hw hfinished hrespond
    simp only [ChildWorld.respond] at hrespond
    split at hrespond
    · refine ⟨?_, trivial⟩
      by_cases hresult : ∃ value, failure_reason = none ∧ result = some value
      · -- the result was captured and the work closed
        obtain ⟨value, rfl, rfl⟩ := hresult
        cases a with
        | error e =>
          cases hrespond
          exact (quiet_refl w).allows hw
        | ok _ =>
          cases hrespond
          have hgrows : Grows w { w with to_parent := w.to_parent ++ [.result value] } := { Grows.refl w with }
          refine ⟨{ hw with results := ?_
                            returned := fun r hr => (hw.returned r hr).grows hgrows id }, ?_⟩
          · intro value' hvalue'
            rcases List.mem_append.1 hvalue' with hvalue' | hvalue'
            · exact (hw.results value' hvalue').grows hgrows
            · cases List.mem_singleton.1 hvalue'
              exact (hfinished rfl value rfl).grows hgrows
          · exact fun p' _ => ⟨hgrows, fun _ => ⟨id, rfl⟩, fun _ => ⟨rfl, rfl⟩⟩
      · refine (quiet_child_send ?_ hrespond).allows hw
        intro value hvalue
        apply hresult
        cases failure_reason with
        | some reason => cases hvalue
        | none =>
          cases result with
          | none => cases hvalue
          | some value' => exact ⟨value', rfl, rfl⟩
    · cases hrespond
  refine Script.meets_bind hsend ?_ fun _ _ _ _ => trivial
  intro a
  cases a with
  | ok _ => exact Script.meets_pure fun _ _ _ => trivial
  | error e =>
    by_cases he : e = .os_error
    · subst he
      exact Script.meets_pure fun _ _ _ => trivial
    · show Holds isResult .child _ (if e = .os_error then pure () else .raise e) _
      rw [if_neg he]
      exact Script.meets_raise fun _ _ _ => trivial

/-- `_child_main` -/
theorem holds_child_main : Holds isResult .child (Captured none) (child_main (V := V)) fun _ _ => True := by
  have harm : Holds isResult .child (Captured none) (ask .arm) (Script.Yields fun _ w => Captured (V := V) none w ∧ True) := by
    refine holds_child_quiet (fun _ => lasts_true) ?_
    intro w a w' _ h
    cases h
    exact ⟨quiet_refl w, trivial⟩
  refine Script.meets_bind (holds_attempt harm) (fun _ => ?_) fun _ _ _ _ => trivial
  refine Script.meets_bind (holds_prepare.weaken (fun _ _ h => h.1) fun _ _ _ h => h) ?_ fun _ _ _ _ => trivial
  intro prepared
  refine Script.meets_bind (Script.meets_result (R := Script.Yields (AfterExecute prepared.1))
    (holds_execute prepared.1 prepared.2) fun _ _ _ h => h) ?_ fun _ _ _ _ => trivial
  intro outcome
  -- what is left is the same whether `execute` raised or not
  cases outcome with
  | ok locals =>
    refine Script.meets_bind (holds_closeWork prepared.1 locals.1 locals.2) (fun failure_reason => ?_)
      fun _ _ _ _ => trivial
    exact Script.meets_bind (holds_safe_send failure_reason locals.2) (fun _ => Script.meets_pure fun _ _ _ => trivial)
      fun _ _ _ _ => trivial
  | error e =>
    refine Script.meets_bind (holds_closeWork prepared.1 prepared.2 none) (fun failure_reason => ?_)
      fun _ _ _ _ => trivial
    exact Script.meets_bind (holds_safe_send failure_reason none) (fun _ => Script.meets_raise fun _ _ _ => trivial)
      fun _ _ _ _ => trivial

/-! ## The parent -/

theorem runner_ne : Party.runner ≠ .child := nofun

/-- A received result was captured, and its work closed. -/
def Received {α : Type} (r : Except Raised (Message α)) (w : ChildWorld α) : Prop :=
  ∀ result, r = .ok (.result result) → Succeeded result w

omit [DecidableEq V] in
theorem lasts_received (r : Except Raised (Message V)) : Lasts isResult p (Received r) :=
  fun _ _ _ _ hrely h result hr => (h result hr).grows hrely.grows

theorem holds_recv (hp : p ≠ .child) (hK : Lasts isResult p K) :
    Holds isResult p K (attempt (ask .recv)) fun r w => K w ∧ Received r w := by
  refine holds_attempt (holds_plain (q := .recv) hp trivial hK lasts_received ?_)
  intro w a w' hw _ h result ha
  subst ha
  have hquiet := quiet_recv h
  unfold ChildWorld.respondParent at h
  dsimp only at h
  split at h
  · cases h
  · rename_i first rest hto_parent
    split at h
    · cases h
    · rename_i hopen
      have hfirst : first = .result result := not_not.1 fun hne => hopen (.inr hne)
      refine (hw.results result ?_).grows hquiet.grows
      rw [hto_parent, hfirst]
      exact List.mem_cons_self

/-- A loop that makes more rounds than the run stands still. -/
theorem holds_forever {Q : Except Raised α → ChildWorld V → Prop} {e : Raised} :
    Holds isResult p A (.act .forever fun _ => .raise e) Q := by
  refine ⟨fun _ _ => False, fun _ _ _ _ _ _ h => h, ?_, fun _ _ _ h => h.elim⟩
  intro w a w' _ _ h
  cases p with
  | child =>
    simp only [ChildWorld.respond, ChildWorld.respondChild] at h
    split at h <;> cases h
  | runner | aborter _ => cases h

/-- `_receive`: induction on the rounds. -/
theorem holds_receive (hp : p ≠ .child) (hK : Lasts isResult p K) (rounds : Nat) :
    Holds isResult p K (receive rounds) fun r w => K w ∧ Received r w := by
  have herror : ∀ (e : Raised) (w : ChildWorld V), Inv isResult w → K w →
      K w ∧ Received (.error e : Except Raised (Message V)) w := fun e w _ hk => ⟨hk, nofun⟩
  have hpoll := holds_attempt (holds_quiet (q := ChildAct.poll (V := V)) hp (by trivial) hK)
  induction rounds with
  | zero => exact holds_forever
  | succ rounds ih =>
    refine Script.meets_bind hpoll ?_ herror
    intro ready
    cases ready with
    | true => exact holds_recv hp hK
    | false =>
      refine Script.meets_bind (holds_quiet (q := ChildAct.cancelled (V := V)) hp (by trivial) hK) ?_
        fun _ _ _ h => False.elim h
      intro cancelled
      cases cancelled with
      | true => exact Script.meets_raise fun w _ hk => ⟨hk, nofun⟩
      | false =>
        refine Script.meets_bind (holds_attempt (holds_quiet (q := ChildAct.is_alive (V := V)) hp (by trivial) hK)) ?_
          herror
        intro alive
        cases alive with
        | true => exact ih
        | false =>
          -- the child is gone, but it may have sent something
          refine Script.meets_bind hpoll ?_ herror
          intro ready
          cases ready with
          | true => exact holds_recv hp hK
          | false => exact Script.meets_raise fun w _ hk => ⟨hk, nofun⟩

theorem holds_waitUntil (hp : p ≠ .child) (hK : Lasts isResult p K) (deadline : Int) (rounds : Nat) :
    Holds isResult p K (waitUntil (V := V) deadline rounds) fun _ => K := by
  have hquiet : ∀ {q : ChildAct V}, Plain q → Holds isResult p K (ask q) (Script.Yields fun _ => K) :=
    fun hq => holds_quiet hp hq hK
  induction rounds with
  | zero => exact holds_forever
  | succ rounds ih =>
    refine Script.meets_bind (hquiet (q := .cancelled) trivial) ?_ fun _ _ _ h => False.elim h
    intro cancelled
    cases cancelled with
    | true => exact Script.meets_raise fun _ _ hk => hk
    | false =>
      refine Script.meets_bind (hquiet (q := .monotonic) trivial) ?_ fun _ _ _ h => False.elim h
      intro now
      show Holds isResult p K (if deadline - now ≤ 0 then pure () else _) _
      split
      · exact Script.meets_pure fun _ _ hk => hk
      · exact Script.meets_bind (hquiet (q := .delay) trivial) (fun _ => ih) fun _ _ _ h => False.elim h

theorem holds_wait_for_post_release_dispatch (hp : p ≠ .child) (hK : Lasts isResult p K)
    (post_release_dispatch_delay_s : Int) (rounds : Nat) :
    Holds isResult p K (wait_for_post_release_dispatch (V := V) post_release_dispatch_delay_s rounds) fun _ => K := by
  unfold wait_for_post_release_dispatch
  split
  · exact Script.meets_pure fun _ _ hk => hk
  · exact Script.meets_bind (holds_quiet (q := ChildAct.monotonic (V := V)) hp (by trivial) hK)
      (fun _ => holds_waitUntil hp hK _ rounds) fun _ _ _ h => False.elim h

/-- The gate opens. -/
theorem holds_ready_and_wait_for_release (hp : p ≠ .child) (hK : Lasts isResult p K) :
    Holds isResult p K (attempt (ask .ready_and_wait_for_release)) fun r w => K w ∧ (r = .ok true → w.released = true) := by
  refine holds_attempt (holds_open hK (fun _ _ _ _ _ hrely h ha => hrely.grows.released (h ha)) ?_)
  intro w a w' hw hk h
  have h : w.respondParent p .ready_and_wait_for_release a = some w' := by
    cases p with
    | child => exact absurd rfl hp
    | runner | aborter _ => exact h
  cases a with
  | error e =>
    cases h
    exact ⟨hw, (quiet_refl w).rely, nofun⟩
  | ok released =>
    cases h
    have hgrows : Grows w { w with released := w.released || released } :=
      { Grows.refl w with released := fun h => by simp [h] }
    refine ⟨{ hw with release := fun h => hgrows.released (hw.release h)
                      started := fun h => hgrows.released (hw.started h)
                      results := fun result hresult => (hw.results result hresult).grows hgrows
                      returned := fun r hr => (hw.returned r hr).grows hgrows id }, ?_, ?_⟩
    · exact fun p' => ⟨hgrows, fun _ => ⟨id, rfl⟩, fun _ => ⟨rfl, rfl⟩⟩
    · intro ha
      cases ha
      simp

/-- RELEASE is sent. -/
theorem holds_send_release (hp : p ≠ .child) (hK : Lasts isResult p K) (hreleased : ∀ w, K w → w.released = true) :
    Holds isResult p K (attempt (ask (.send .release))) fun _ => K := by
  have hsend : Holds isResult p K (ask (.send .release)) (Script.Yields fun _ w => K w ∧ True) := by
    refine holds_open hK (fun _ => lasts_true) ?_
    intro w a w' hw hk h
    have h : w.respondParent p (.send .release) a = some w' := by
      cases p with
      | child => exact absurd rfl hp
      | runner | aborter _ => exact h
    cases a with
    | error e =>
      unfold ChildWorld.respondParent at h
      dsimp only at h
      split at h
      · cases h
        exact ⟨hw, (quiet_refl w).rely, trivial⟩
      · cases h
    | ok _ =>
      unfold ChildWorld.respondParent at h
      dsimp only at h
      split at h
      · cases h
      · cases h
        have hgrows : Grows w { w with to_child := w.to_child ++ [.release] } := { Grows.refl w with }
        refine ⟨{ hw with release := fun _ => hreleased w hk
                          results := fun result hresult => (hw.results result hresult).grows hgrows
                          returned := fun r hr => (hw.returned r hr).grows hgrows id }, ?_, trivial⟩
        exact fun p' => ⟨hgrows, fun _ => ⟨id, rfl⟩, fun _ => ⟨rfl, rfl⟩⟩
  refine holds_attempt (hsend.weaken (fun _ _ h => h) ?_)
  intro r w _ h
  cases r with
  | ok a => exact h.1
  | error e => exact h

/-- What `communicate` returns has the right type and was captured. -/
def Answered (isResult : V → Bool) (r : Except Raised V) (w : ChildWorld V) : Prop :=
  ∀ result, r = .ok result → isResult result = true ∧ Succeeded result w

omit [DecidableEq V] in
theorem lasts_answered (r : Except Raised V) : Lasts isResult p (Answered isResult r) :=
  fun _ _ _ _ hrely h result hr => ⟨(h result hr).1, (h result hr).2.grows hrely.grows⟩

omit [DecidableEq V] in
theorem answered_lastAnswer {message : Message V} (h : Received (.ok message) w) :
    Answered isResult (lastAnswer isResult message) w := by
  intro result hresult
  cases message with
  | result value =>
    simp only [lastAnswer] at hresult
    split at hresult
    · rename_i hvalue
      cases hresult
      exact ⟨hvalue, h _ rfl⟩
    · cases hresult
  | ready | release | cancel | failed _ => cases hresult

theorem holds_communicate (hp : p ≠ .child) (hK : Lasts isResult p K) (post_release_dispatch_delay_s : Int) (rounds : Nat) :
    Holds isResult p K (communicate isResult post_release_dispatch_delay_s rounds) fun r w => K w ∧ Answered isResult r w := by
  have herror : ∀ (e : Raised) (w : ChildWorld V), K w → K w ∧ Answered isResult (.error e) w :=
    fun e w hk => ⟨hk, nofun⟩
  refine Script.meets_bind (holds_receive hp hK rounds) ?_ fun e w _ h => herror e w h.1
  intro message
  cases message with
  | ready =>
    refine Script.meets_bind ((holds_ready_and_wait_for_release hp hK).weaken (fun _ _ h => h.1) fun _ _ _ h => h) ?_
      fun e w _ h => herror e w h.1
    intro released
    cases released with
    | true =>
      have hreleased : Lasts isResult p fun w : ChildWorld V => K w ∧ w.released = true :=
        hK.and fun _ _ _ _ hrely h => hrely.grows.released h
      refine Script.meets_bind ((holds_wait_for_post_release_dispatch hp hreleased _ rounds).weaken
        (fun w _ h => ⟨h.1, h.2 rfl⟩) fun _ _ _ h => h) (fun _ => ?_) fun e w _ h => herror e w h.1
      refine Script.meets_bind (holds_send_release hp hreleased fun _ h => h.2) (fun _ => ?_)
        fun e w _ h => herror e w h.1
      refine Script.meets_bind ((holds_receive hp hK rounds).weaken (fun _ _ h => h.1) fun _ _ _ h => h) ?_
        fun e w _ h => herror e w h.1
      intro message
      cases hanswer : lastAnswer isResult message with
      | ok result =>
        refine Script.meets_pure fun w _ h => ⟨h.1, ?_⟩
        rw [← hanswer]
        exact answered_lastAnswer h.2
      | error e => exact Script.meets_raise fun w _ h => herror e w h.1
    | false => exact Script.meets_raise fun w _ h => herror _ w h.1
  | release | cancel | result _ | failed _ => exact Script.meets_raise fun w _ h => herror _ w h.1

/-- Before the child is started. -/
def Waiting (w : ChildWorld V) : Prop := w.called = true ∧ w.status = .absent ∧ w.returned = none

/-- Once the child is started, until the result is recorded. -/
def Underway (w : ChildWorld V) : Prop := w.called = true ∧ w.status ≠ .absent ∧ w.returned = none

omit [DecidableEq V] in
theorem lasts_waiting : Lasts isResult .runner (Waiting (V := V)) :=
  fun _ _ _ _ hrely h => ⟨hrely.grows.called h.1, (hrely.runner rfl).1 h.2.1, (hrely.runner rfl).2.trans h.2.2⟩

omit [DecidableEq V] in
theorem lasts_underway : Lasts isResult .runner (Underway (V := V)) :=
  fun _ _ _ _ hrely h => ⟨hrely.grows.called h.1, hrely.grows.present h.2.1, (hrely.runner rfl).2.trans h.2.2⟩

/-- After `start`: the child is there, unless it raised. -/
def Started : Except Raised Unit → ChildWorld V → Prop
  | .ok _ => Underway
  | .error _ => Waiting

theorem holds_start : Holds isResult .runner Waiting (ask (ChildAct.start (V := V))) (Script.Yields Started) := by
  refine Script.meets_ask ?_ ?_
  · intro a
    cases a with
    | ok _ => exact lasts_underway
    | error e => exact lasts_waiting
  · rintro w a w' hw ⟨hcalled, habsent, hreturned⟩ h
    cases a with
    | error e =>
      cases h
      exact ⟨(quiet_refl w).allows hw, hcalled, habsent, hreturned⟩
    | ok _ =>
      simp only [ChildWorld.respond, ChildWorld.respondParent, if_pos habsent] at h
      cases h
      have hreaped : ¬w.status = .reaped := by
        rw [habsent]
        nofun
      have hgrows : Grows w { w with status := .alive } :=
        { Grows.refl w with present := fun _ => nofun, reaped := fun h => absurd h hreaped }
      refine ⟨⟨{ hw with uncalled := ?_
                         registered := fun _ => nofun
                         results := fun result hresult => (hw.results result hresult).grows hgrows
                         process_closed := fun h => absurd (hw.process_closed h) hreaped
                         closed := fun h => absurd (hw.closed h) hreaped
                         returned := ?_ }, ?_⟩, hcalled, nofun, hreturned⟩
      · intro h
        rw [hcalled] at h
        cases h
      · intro r hr
        rw [hreturned] at hr
        cases hr
      · exact fun p' hp' => ⟨hgrows, fun h => absurd h hp', fun _ => ⟨rfl, rfl⟩⟩

theorem holds_register : Holds isResult .runner Underway (ask (ChildAct.register (V := V)))
    (Script.Yields fun _ => Underway) := by
  refine (holds_parent runner_ne lasts_underway (fun _ => lasts_true) ?_).weaken (fun _ _ h => h) ?_
  · intro w a w' _ hk h
    cases h
    exact ⟨{ quiet_refl w with registered := fun _ => .inr hk.2.1 }, trivial⟩
  · intro r w _ h
    cases r with
    | ok _ => exact h.1
    | error e => exact False.elim h

/-- What `run` ends with. -/
def Ended (isResult : V → Bool) (r : Except Raised V) (w : ChildWorld V) : Prop :=
  w.called = true ∧ w.returned = none ∧ Settled isResult r w

/-- `run` -/
theorem holds_run (post_release_dispatch_delay_s : Int) (rounds : Nat) :
    Holds isResult .runner Waiting (run isResult post_release_dispatch_delay_s rounds) (Ended isResult) := by
  refine Script.meets_bind holds_start ?_ fun _ _ _ h => False.elim h
  intro started
  cases started with
  | error e =>
    -- no child was spawned
    refine Script.meets_bind (holds_quiet (q := ChildAct.connection_close (V := V)) runner_ne trivial lasts_waiting)
      (fun _ => ?_) fun _ _ _ h => False.elim h
    exact Script.meets_raise fun w _ h => ⟨h.1, h.2.2, nofun, .inl (.inl h.2.1)⟩
  | ok _ =>
    have hbody : Holds isResult .runner Underway (do
        ask .register
        communicate isResult post_release_dispatch_delay_s rounds) fun r w => Underway w ∧ Answered isResult r w :=
      Script.meets_bind holds_register (fun _ => holds_communicate runner_ne lasts_underway _ rounds)
        fun _ _ _ h => False.elim h
    have htranslated : Holds isResult .runner Underway (Script.handle (do
        ask .register
        communicate isResult post_release_dispatch_delay_s rounds) fun e => .raise (translate e))
          fun r w => Underway w ∧ Answered isResult r w :=
      Script.meets_handle hbody (fun _ _ _ h => h) fun e => Script.meets_raise fun w _ h => ⟨h.1, nofun⟩
    refine Script.meets_ensure htranslated ?_
    intro r
    have hlasts : Lasts isResult .runner fun w => Underway w ∧ Answered isResult r w :=
      lasts_underway.and (lasts_answered r)
    refine Script.meets_bind (holds_cleanup runner_ne hlasts fun _ h => h.1.2.1) ?_ ?_
    · intro _
      have hreaped : Lasts isResult .runner fun w => (Underway w ∧ Answered isResult r w) ∧ w.status = .reaped :=
        hlasts.and lasts_reaped
      refine (holds_quiet (q := ChildAct.discard (V := V)) runner_ne trivial hreaped).weaken ?_ ?_
      · rintro w _ ⟨hk, hreaped | hresisted⟩
        · exact ⟨hk, hreaped⟩
        · cases hresisted
      · intro done w _ h
        cases done with
        | ok _ => exact ⟨h.1.1.1, h.1.1.2.2, h.1.2, .inl (.inr h.2)⟩
        | error e => exact False.elim h
    · rintro e w _ ⟨⟨hunderway, _⟩, hcleaned⟩
      refine ⟨hunderway.1, hunderway.2.2, nofun, ?_⟩
      rcases hcleaned with hreaped | hresisted
      · exact .inl (.inr hreaped)
      · cases hresisted
        exact .inr rfl

/-- The result is recorded. -/
theorem holds_returned (r : Except Raised V) : Holds isResult .runner (Ended isResult r) (ask (.returned r))
    fun _ _ => True := by
  have hrecord : Holds isResult .runner (Ended isResult r) (ask (.returned r)) (Script.Yields fun _ _ => True) := by
    refine Script.meets_ask (fun _ => lasts_true) ?_
    rintro w a w' hw ⟨hcalled, _, hsettled⟩ h
    cases h
    have hgrows : Grows w { w with returned := some r } := { Grows.refl w with }
    refine ⟨⟨{ hw with uncalled := ?_
                       results := fun result hresult => (hw.results result hresult).grows hgrows
                       returned := ?_ }, ?_⟩, trivial⟩
    · intro h
      rw [hcalled] at h
      cases h
    · intro r' hr'
      cases hr'
      exact hsettled.grows hgrows id
    · exact fun p' hp' => ⟨hgrows, fun h => absurd h hp', fun _ => ⟨rfl, rfl⟩⟩
  exact hrecord.weaken (fun _ _ h => h) fun _ _ _ _ => trivial

/-! ## Every interleaving -/

theorem sound : Setting.Sound (setting isResult) (contract isResult) fun _ _ (_ : ChildWorld V) => True where
  enter := by
    intro p task w w' hw h
    cases p with
    | runner =>
      cases task with
      | run post_release_dispatch_delay_s rounds =>
        simp only [setting, enter] at h
        split at h
        · cases h
        · rename_i huncalled
          cases h
          obtain ⟨habsent, hreturned⟩ := hw.uncalled (by simpa using huncalled)
          have hgrows : Grows w { w with called := true } := { Grows.refl w with called := fun _ => rfl }
          refine ⟨⟨{ hw with uncalled := nofun
                             results := fun result hresult => (hw.results result hresult).grows hgrows
                             returned := fun r hr => (hw.returned r hr).grows hgrows id },
            fun p' _ => ⟨hgrows, fun _ => ⟨id, rfl⟩, fun _ => ⟨rfl, rfl⟩⟩⟩, Waiting, lasts_waiting,
            ⟨rfl, habsent, hreturned⟩, ?_⟩
          refine Script.meets_bind (Script.meets_result (R := Script.Yields (Ended isResult)) (holds_run _ rounds)
            fun _ _ _ h => h) holds_returned fun _ _ _ _ => trivial
      | child_main | abort_all => cases h
    | child =>
      cases task with
      | child_main =>
        simp only [setting, enter] at h
        split at h
        · rename_i hstatus
          cases h
          obtain ⟨hcaptured, hclosed⟩ := hw.unentered hstatus.2
          have hgrows : Grows w { w with entered := true } := { Grows.refl w with entered := fun _ => rfl }
          exact ⟨⟨{ hw with unentered := nofun
                            results := fun result hresult => (hw.results result hresult).grows hgrows
                            returned := fun r hr => (hw.returned r hr).grows hgrows id },
            fun p' _ => ⟨hgrows, fun _ => ⟨id, rfl⟩, fun _ => ⟨rfl, rfl⟩⟩⟩, Captured none, lasts_captured,
            ⟨rfl, hcaptured, hclosed⟩, holds_child_main⟩
        · cases h
      | run _ _ | abort_all => cases h
    | aborter n =>
      cases task with
      | abort_all =>
        cases h
        exact ⟨(quiet_refl w).allows hw, fun _ => True, lasts_true, trivial, holds_abort_all n⟩
      | run _ _ | child_main => cases h
  leave := fun _ _ w hw _ => (quiet_refl w).allows hw
  die := by
    intro p w hw
    cases p with
    | child => exact (quiet_dead w).allows hw
    | runner | aborter _ => exact (quiet_refl w).allows hw
  move := by
    intro _ w w' hw h
    cases h
    exact ⟨(quiet_dead w).inv hw, (quiet_dead w).rely⟩

theorem inv_of_reachable {st : Setting.State Party (ChildWorld V) (ChildAct V) ChildAct.Answer Raised Unit}
    (h : (machine isResult).Reachable st) : Inv isResult st.world := by
  refine (Setting.running_of_reachable sound ?_ h).inv
  intro w hw
  cases hw
  exact ⟨fun _ => ⟨rfl, rfl⟩, fun _ => ⟨rfl, rfl⟩, nofun, nofun, nofun, nofun, nofun, nofun, nofun⟩

/-- The child captures only after the gate opened; `run` returns only what the child captured, with its work closed
without an error; and where `run` is over there is no child that was not reaped, or that is the error. -/
theorem isolated_capture {st : Setting.State Party (ChildWorld V) (ChildAct V) ChildAct.Answer Raised Unit}
    (h : (machine isResult).Reachable st) :
    (st.world.capture_started = true → st.world.released = true) ∧
      ∀ r, st.world.returned = some r →
        (∀ result, r = .ok result →
          isResult result = true ∧ st.world.captured = some result ∧ st.world.work_closed = some true) ∧
        ((st.world.status = .absent ∨ st.world.status = .reaped) ∨ r = .error resisted) := by
  have hw := inv_of_reachable h
  exact ⟨hw.started, fun r hr => ⟨(hw.returned r hr).succeeded, (hw.returned r hr).cleaned⟩⟩

/-! ## A run that ends well -/

/-- Every operation succeeds; this is the next message, and the child lives or does not. -/
def answers (message : Message Nat) (alive : Bool) : ∀ q : ChildAct Nat, q.Answer
  | .start | .send _ | .join | .terminate | .kill | .process_close | .arm | .child_send _ | .preflight | .close_work =>
    .ok ()
  | .poll | .ready_and_wait_for_release | .build => .ok true
  | .is_alive => .ok alive
  | .recv | .child_recv => .ok message
  | .capture => .ok (some 7)
  | .cancelled | .read_closed | .handles => false
  | .monotonic => 0
  | .connection_close | .delay | .acquire | .release | .set_closed | .register | .discard | .start_capture
  | .returned _ | .forever => ()

/-- So many steps of a party. -/
def steps (p : Party) (n : Nat) (message : Message Nat) : List (Setting.Label Party Task Unit (ChildAct Nat) ChildAct.Answer) :=
  List.replicate n (.step p (answers message false))

/-- The child says READY, is released, captures 7, says so and exits. -/
def completedRun : List (Setting.Label Party Task Unit (ChildAct Nat) ChildAct.Answer) :=
  .start .runner (.run 0 1) :: steps .runner 2 .ready ++ .start .child .child_main :: steps .child 4 .ready ++
    steps .runner 4 .ready ++ steps .child 5 .release ++ steps .runner 2 (.result 7) ++ .move () ::
      steps .runner 13 .ready

theorem isolated_capture_completed : ∃ st, (machine (V := Nat) fun _ => true).Reachable st ∧
    st.world.returned = some (.ok 7) ∧ st.world.released = true ∧ st.world.captured = some 7 ∧
    st.world.work_closed = some true := by
  have hrun : (((machine (V := Nat) fun _ => true).run ⟨initial, fun _ => none⟩ completedRun).map fun st =>
      (st.world.returned.bind Except.toOption, st.world.capture_started)) = some (some 7, true) := by
    decide +kernel
  obtain ⟨st, hst, h⟩ := Option.map_eq_some_iff.1 hrun
  obtain ⟨hreturned, hstarted⟩ := Prod.mk.inj h
  have hreachable := (machine (V := Nat) fun _ => true).run_reachable (.init ⟨rfl, rfl⟩) hst
  obtain ⟨r, hr, hok⟩ := Option.bind_eq_some_iff.1 hreturned
  cases r with
  | error e => cases hok
  | ok result =>
    cases hok
    obtain ⟨hreleased, hsettled⟩ := isolated_capture hreachable
    obtain ⟨_, hcaptured, hclosed⟩ := (hsettled _ hr).1 7 rfl
    exact ⟨st, hreachable, hr, hreleased hstarted, hcaptured, hclosed⟩

end IsolatedCapture

end LeoFlow
