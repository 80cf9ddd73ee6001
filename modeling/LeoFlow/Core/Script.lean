import LeoFlow.Core.Machine

/-!
# LeoFlow.Core.Script — processes that act on a shared world

A process is a tree of acts on the world with the continuation for each answer. Any number of processes run
interleaved; between their acts the world may move by itself, and a process may be killed at any point.

* `Script`: the trees, with `try`/`except` and `try`/`finally`;
* `Script.exec`: one process alone;
* `Setting`: what an act does to the world, what it may do by itself, what a process that leaves does to it;
* `machine`: the processes interleaved;
* `Script.Meets`: a rely-guarantee triple, checked on one script alone; `Returns` when an exception may always come;
* `sound_of_reachable`: scripts that meet their triples keep the invariant in every interleaving.
-/

namespace LeoFlow

/-! ## Scripts -/

/-- What a process does: `ι` are its acts, `ο q` the answers to `q`. -/
inductive Script (ι : Type) (ο : ι → Type) (ε α : Type) where
  | pure (a : α)
  | raise (e : ε)
  | act (q : ι) (k : ο q → Script ι ο ε α)

namespace Script

variable {ι ε α β : Type} {ο : ι → Type}

def bind : Script ι ο ε α → (α → Script ι ο ε β) → Script ι ο ε β
  | pure a, f => f a
  | raise e, _ => raise e
  | act q k, f => act q fun a => (k a).bind f

instance : Monad (Script ι ο ε) where
  pure := pure
  bind := bind

/-- One act. -/
def ask (q : ι) : Script ι ο ε (ο q) := act q pure

/-- A computation without acts. -/
def ofExcept : Except ε α → Script ι ο ε α
  | .ok a => pure a
  | .error e => raise e

@[simp] theorem ofExcept_ok_bind (a : α) (f : α → Script ι ο ε β) : (ofExcept (.ok a) >>= f) = f a := rfl

@[simp] theorem ofExcept_error_bind (e : ε) (f : α → Script ι ο ε β) : (ofExcept (.error e) >>= f) = raise e := rfl

/-- `try: x; except: h` -/
def handle : Script ι ο ε α → (ε → Script ι ο ε α) → Script ι ο ε α
  | pure a, _ => pure a
  | raise e, h => h e
  | act q k, h => act q fun a => (k a).handle h

/-- `try: x; finally: cleanup` -/
def ensure : Script ι ο ε α → Script ι ο ε Unit → Script ι ο ε α
  | pure a, cleanup => cleanup.bind fun _ => pure a
  | raise e, cleanup => cleanup.bind fun _ => raise e
  | act q k, cleanup => act q fun a => (k a).ensure cleanup

/-- What a computation raises becomes its value. -/
def result {ε' : Type} : Script ι ο ε α → Script ι ο ε' (Except ε α)
  | pure a => pure (.ok a)
  | raise e => pure (.error e)
  | act q k => act q fun a => (k a).result

/-- `for x in xs: f(x)` -/
def forEach : List β → (β → Script ι ο ε Unit) → Script ι ο ε Unit
  | [], _ => pure ()
  | x :: xs, f => (f x).bind fun _ => forEach xs f

end Script

/-! ## A process alone -/

namespace Script

variable {W ι ε α β : Type} {ο : ι → Type} (perform : W → (q : ι) → Option (ο q × W))

/-- The run of one process, on acts with one answer; `none` when it waits for another one. -/
def exec : Script ι ο ε α → W → Option (Except ε α × W)
  | pure a, w => some (.ok a, w)
  | raise e, w => some (.error e, w)
  | act q k, w => (perform w q).bind fun r => (k r.1).exec r.2

theorem exec_act (q : ι) (k : ο q → Script ι ο ε α) (w : W) :
    (act q k).exec perform w = (perform w q).bind fun r => (k r.1).exec perform r.2 := rfl

variable {perform}

theorem exec_pure_ok {a b : α} {w w' : W} :
    (Pure.pure a : Script ι ο ε α).exec perform w = some (.ok b, w') ↔ b = a ∧ w' = w := by
  constructor
  · intro h
    cases h
    exact ⟨rfl, rfl⟩
  · rintro ⟨rfl, rfl⟩
    rfl

theorem exec_raise_ok {e : ε} {b : α} {w w' : W} :
    (raise e : Script ι ο ε α).exec perform w = some (.ok b, w') ↔ False := by
  constructor
  · intro h
    cases h
  · exact False.elim

theorem exec_ask_ok {q : ι} {w w' : W} {a : ο q} :
    (ask q : Script ι ο ε (ο q)).exec perform w = some (.ok a, w') ↔ perform w q = some (a, w') := by
  rw [ask, exec_act]
  constructor
  · intro h
    obtain ⟨r, hr, h⟩ := Option.bind_eq_some_iff.1 h
    cases h
    exact hr
  · intro h
    rw [h]
    rfl

theorem exec_ofExcept_ok {x : Except ε α} {a : α} {w w' : W} :
    (ofExcept x : Script ι ο ε α).exec perform w = some (.ok a, w') ↔ x = .ok a ∧ w' = w := by
  cases x with
  | error e => exact exec_raise_ok.trans ⟨False.elim, fun h => nomatch h.1⟩
  | ok b =>
    refine exec_pure_ok.trans (and_congr_left' ?_)
    constructor
    · rintro rfl
      rfl
    · intro h
      cases h
      rfl

/-- In sequence. -/
theorem exec_bind_ok {x : Script ι ο ε α} {f : α → Script ι ο ε β} {b : β} {w w' : W} :
    (x >>= f).exec perform w = some (.ok b, w') ↔
      ∃ a u, x.exec perform w = some (.ok a, u) ∧ (f a).exec perform u = some (.ok b, w') := by
  show (x.bind f).exec perform w = some (.ok b, w') ↔ _
  induction x generalizing w with
  | pure a =>
    constructor
    · exact fun h => ⟨a, w, rfl, h⟩
    · rintro ⟨_, _, h, hf⟩
      cases h
      exact hf
  | raise e =>
    constructor
    · intro h
      cases h
    · rintro ⟨_, _, h, _⟩
      cases h
  | act q k ih =>
    show (act q fun a => (k a).bind f).exec perform w = _ ↔ _
    simp only [exec_act, Option.bind_eq_some_iff, ih]
    constructor
    · rintro ⟨r, hr, a, u, hk, hf⟩
      exact ⟨a, u, ⟨r, hr, hk⟩, hf⟩
    · rintro ⟨a, u, ⟨r, hr, hk⟩, hf⟩
      exact ⟨r, hr, a, u, hk, hf⟩

/-- `try`/`finally` -/
theorem exec_ensure_ok {x : Script ι ο ε α} {cleanup : Script ι ο ε Unit} {a : α} {w w' : W} :
    (x.ensure cleanup).exec perform w = some (.ok a, w') ↔
      ∃ u, x.exec perform w = some (.ok a, u) ∧ cleanup.exec perform u = some (.ok (), w') := by
  induction x generalizing w with
  | pure b =>
    show (cleanup >>= fun _ => (Pure.pure b : Script ι ο ε α)).exec perform w = _ ↔ _
    rw [exec_bind_ok]
    constructor
    · rintro ⟨_, u, hcleanup, h⟩
      obtain ⟨rfl, rfl⟩ := exec_pure_ok.1 h
      exact ⟨w, rfl, hcleanup⟩
    · rintro ⟨u, h, hcleanup⟩
      cases h
      exact ⟨(), w', hcleanup, rfl⟩
  | raise e =>
    show (cleanup >>= fun _ => (raise e : Script ι ο ε α)).exec perform w = _ ↔ _
    rw [exec_bind_ok]
    constructor
    · rintro ⟨_, u, _, h⟩
      cases h
    · rintro ⟨u, h, _⟩
      cases h
  | act q k ih =>
    show (act q fun a => (k a).ensure cleanup).exec perform w = _ ↔ _
    simp only [exec_act, Option.bind_eq_some_iff, ih]
    constructor
    · rintro ⟨r, hr, u, hk, hcleanup⟩
      exact ⟨u, ⟨r, hr, hk⟩, hcleanup⟩
    · rintro ⟨u, ⟨r, hr, hk⟩, hcleanup⟩
      exact ⟨r, hr, u, hk, hcleanup⟩

/-- The answers of acts that have one answer. -/
def responds (perform : W → (q : ι) → Option (ο q × W)) [∀ q, DecidableEq (ο q)] (w : W) (q : ι) (answer : ο q) : Option W :=
  (perform w q).bind fun r => if r.1 = answer then some r.2 else none

theorem responds_iff [∀ q, DecidableEq (ο q)] {w w' : W} {q : ι} {answer : ο q} :
    responds perform w q answer = some w' ↔ perform w q = some (answer, w') := by
  unfold responds
  constructor
  · intro h
    obtain ⟨r, hr, h⟩ := Option.bind_eq_some_iff.1 h
    split at h
    · rename_i heq
      cases h
      rw [hr, ← heq]
    · cases h
  · intro h
    rw [h]
    exact if_pos rfl

end Script

/-! ## The machine -/

/-- The world of processes `P` that run the operations `Op`; `E` are its own moves. -/
structure Setting (P Op W E ι : Type) (ο : ι → Type) (ε α : Type) where
  program : P → Op → Script ι ο ε α
  /-- a process starts -/
  enter : P → Op → W → Option W
  /-- the world after an act with this answer, if the act can have it -/
  respond : P → W → (q : ι) → ο q → Option W
  /-- a move of the world itself -/
  move : E → W → Option W
  /-- a process returned or raised -/
  leave : P → Except ε α → W → W
  /-- a process was killed -/
  die : P → W → W

namespace Setting

variable {P Op W E ι ε α : Type} {ο : ι → Type}

structure State (P W ι : Type) (ο : ι → Type) (ε α : Type) where
  world : W
  procs : P → Option (Script ι ο ε α)

/-- `answer` holds what the world would answer in this step. -/
inductive Label (P Op E ι : Type) (ο : ι → Type) where
  | start (p : P) (op : Op)
  | step (p : P) (answer : ∀ q, ο q)
  | kill (p : P)
  | move (e : E)

variable [DecidableEq P] (S : Setting P Op W E ι ο ε α)

/-- One step of a running process. -/
def advance (st : State P W ι ο ε α) (p : P) (answer : ∀ q, ο q) :
    Script ι ο ε α → Option (State P W ι ο ε α)
  | .pure a => some ⟨S.leave p (.ok a) st.world, Function.update st.procs p none⟩
  | .raise e => some ⟨S.leave p (.error e) st.world, Function.update st.procs p none⟩
  | .act q k => (S.respond p st.world q (answer q)).map fun w =>
    ⟨w, Function.update st.procs p (some (k (answer q)))⟩

/-- Processes interleaved with the moves of the world, from the worlds `Init`. -/
def machine (Init : W → Prop) : Machine (State P W ι ο ε α) (Label P Op E ι ο) where
  Init st := Init st.world ∧ st.procs = fun _ => none
  step st
    | .start p op =>
      match st.procs p with
      | some _ => none
      | none => (S.enter p op st.world).map fun w => ⟨w, Function.update st.procs p (some (S.program p op))⟩
    | .step p answer => (st.procs p).bind (S.advance st p answer)
    | .kill p => (st.procs p).map fun _ => ⟨S.die p st.world, Function.update st.procs p none⟩
    | .move e => (S.move e st.world).map fun w => ⟨w, st.procs⟩

end Setting

/-! ## Triples -/

/-- What is promised about every step: an invariant of the world, and what a process may rely on. -/
structure Contract (P W : Type) where
  Inv : W → Prop
  /-- what a process sees of the steps of the others, of the world and of those that leave -/
  Rely : P → W → W → Prop

namespace Contract

variable {P W : Type}

/-- An assertion that the others keep. -/
def Stable (C : Contract P W) (p : P) (A : W → Prop) : Prop :=
  ∀ w w', C.Inv w → C.Inv w' → C.Rely p w w' → A w → A w'

/-- A step of `p` that the invariant and the other processes allow. -/
def Allows (C : Contract P W) (p : P) (w w' : W) : Prop :=
  C.Inv w' ∧ ∀ p', p' ≠ p → C.Rely p' w w'

theorem Stable.and {C : Contract P W} {p : P} {A B : W → Prop} (hA : C.Stable p A) (hB : C.Stable p B) :
    C.Stable p fun w => A w ∧ B w :=
  fun w w' hw hw' hrely h => ⟨hA w w' hw hw' hrely h.1, hB w w' hw hw' hrely h.2⟩

end Contract

namespace Script

variable {P Op W E ι ε α β : Type} {ο : ι → Type}

/-- From a world with `A`, every act of `p` is allowed, and the result has `Q`. Between two acts the script knows an
assertion that the others keep. -/
def Meets (C : Contract P W) (respond : P → W → (q : ι) → ο q → Option W) (p : P)
    (Q : Except ε α → W → Prop) : (W → Prop) → Script ι ο ε α → Prop
  | A, pure a => ∀ w, C.Inv w → A w → Q (.ok a) w
  | A, raise e => ∀ w, C.Inv w → A w → Q (.error e) w
  | A, act q k => ∃ B : ο q → W → Prop, (∀ a, C.Stable p (B a)) ∧
      (∀ w a w', C.Inv w → A w → respond p w q a = some w' → C.Allows p w w' ∧ B a w') ∧
      ∀ a, (k a).Meets C respond p Q (B a)

variable {C : Contract P W} {respond : P → W → (q : ι) → ο q → Option W} {p : P} {A : W → Prop}

/-- A stronger assertion and a weaker result. -/
theorem Meets.weaken {A' : W → Prop} {Q R : Except ε α → W → Prop} {x : Script ι ο ε α}
    (h : x.Meets C respond p Q A) (hA : ∀ w, C.Inv w → A' w → A w) (hQ : ∀ r w, C.Inv w → Q r w → R r w) :
    x.Meets C respond p R A' := by
  induction x generalizing A A' with
  | pure a =>
    intro w hw ha
    exact hQ _ w hw (h w hw (hA w hw ha))
  | raise e =>
    intro w hw ha
    exact hQ _ w hw (h w hw (hA w hw ha))
  | act q k ih =>
    obtain ⟨B, hstable, hstep, hk⟩ := h
    refine ⟨B, hstable, ?_, ?_⟩
    · intro w a w' hw ha hrespond
      exact hstep w a w' hw (hA w hw ha) hrespond
    · intro a
      exact ih a (hk a) fun _ _ hb => hb

/-- What never comes about meets everything. -/
theorem meets_absurd {Q : Except ε α → W → Prop} {x : Script ι ο ε α} (h : ∀ w, C.Inv w → ¬A w) :
    x.Meets C respond p Q A := by
  induction x generalizing A with
  | pure a =>
    intro w hw ha
    exact absurd ha (h w hw)
  | raise e =>
    intro w hw ha
    exact absurd ha (h w hw)
  | act q k ih =>
    refine ⟨fun _ _ => False, fun _ _ _ _ _ _ h => h, ?_, ?_⟩
    · intro w _ _ hw ha _
      exact absurd ha (h w hw)
    · intro a
      exact ih a fun _ _ h => h

theorem meets_pure {Q : Except ε α → W → Prop} {a : α} (h : ∀ w, C.Inv w → A w → Q (.ok a) w) :
    (Pure.pure a : Script ι ο ε α).Meets C respond p Q A := h

theorem meets_raise {Q : Except ε α → W → Prop} {e : ε} (h : ∀ w, C.Inv w → A w → Q (.error e) w) :
    (raise e : Script ι ο ε α).Meets C respond p Q A := h

/-- The process does not raise. -/
def Yields (B : α → W → Prop) : Except ε α → W → Prop
  | .ok a, w => B a w
  | .error _, _ => False

/-- One act. -/
theorem meets_ask {q : ι} {B : ο q → W → Prop} (hstable : ∀ a, C.Stable p (B a))
    (hstep : ∀ w a w', C.Inv w → A w → respond p w q a = some w' → C.Allows p w w' ∧ B a w') :
    (ask q : Script ι ο ε (ο q)).Meets C respond p (Yields B) A :=
  ⟨B, hstable, hstep, fun _ _ _ hb => hb⟩

/-- In sequence; an error of the first part is the error of the whole. -/
theorem meets_bind {Q : Except ε α → W → Prop} {R : Except ε β → W → Prop} {x : Script ι ο ε α}
    {f : α → Script ι ο ε β} (hx : x.Meets C respond p Q A)
    (hf : ∀ a, (f a).Meets C respond p R (Q (.ok a))) (he : ∀ e w, C.Inv w → Q (.error e) w → R (.error e) w) :
    (x >>= f).Meets C respond p R A := by
  show (x.bind f).Meets C respond p R A
  induction x generalizing A with
  | pure a => exact (hf a).weaken (fun w hw ha => hx w hw ha) fun _ _ _ h => h
  | raise e =>
    intro w hw ha
    exact he e w hw (hx w hw ha)
  | act q k ih =>
    obtain ⟨B, hstable, hstep, hk⟩ := hx
    exact ⟨B, hstable, hstep, fun a => ih a (hk a)⟩

/-- `try`/`except` -/
theorem meets_handle {Q R : Except ε α → W → Prop} {x : Script ι ο ε α} {h : ε → Script ι ο ε α}
    (hx : x.Meets C respond p Q A) (hok : ∀ a w, C.Inv w → Q (.ok a) w → R (.ok a) w)
    (hh : ∀ e, (h e).Meets C respond p R (Q (.error e))) : (x.handle h).Meets C respond p R A := by
  induction x generalizing A with
  | pure a =>
    intro w hw ha
    exact hok a w hw (hx w hw ha)
  | raise e => exact (hh e).weaken (fun w hw ha => hx w hw ha) fun _ _ _ h => h
  | act q k ih =>
    obtain ⟨B, hstable, hstep, hk⟩ := hx
    exact ⟨B, hstable, hstep, fun a => ih a (hk a)⟩

/-- The errors as values. -/
theorem meets_result {ε' : Type} {Q : Except ε α → W → Prop} {R : Except ε' (Except ε α) → W → Prop}
    {x : Script ι ο ε α} (hx : x.Meets C respond p Q A) (hR : ∀ r w, C.Inv w → Q r w → R (.ok r) w) :
    x.result.Meets C respond p R A := by
  induction x generalizing A with
  | pure a =>
    intro w hw ha
    exact hR _ w hw (hx w hw ha)
  | raise e =>
    intro w hw ha
    exact hR _ w hw (hx w hw ha)
  | act q k ih =>
    obtain ⟨B, hstable, hstep, hk⟩ := hx
    exact ⟨B, hstable, hstep, fun a => ih a (hk a)⟩

/-- `try`/`finally` -/
theorem meets_ensure {Q R : Except ε α → W → Prop} {x : Script ι ο ε α} {cleanup : Script ι ο ε Unit}
    (hx : x.Meets C respond p Q A)
    (hcleanup : ∀ r, cleanup.Meets C respond p
      (fun done w => match done with
        | .ok _ => R r w
        | .error e => R (.error e) w) (Q r)) :
    (x.ensure cleanup).Meets C respond p R A := by
  induction x generalizing A with
  | pure a =>
    refine meets_bind ((hcleanup (.ok a)).weaken (fun w hw ha => hx w hw ha) fun _ _ _ h => h) ?_ ?_
    · intro _ w _ h
      exact h
    · intro e w _ h
      exact h
  | raise e =>
    refine meets_bind ((hcleanup (.error e)).weaken (fun w hw ha => hx w hw ha) fun _ _ _ h => h) ?_ ?_
    · intro _ w _ h
      exact h
    · intro e w _ h
      exact h
  | act q k ih =>
    obtain ⟨B, hstable, hstep, hk⟩ := hx
    exact ⟨B, hstable, hstep, fun a => ih a (hk a)⟩

/-- A loop: `I` holds with the elements that are left. -/
theorem meets_forEach {I : List β → W → Prop} {R : Except ε Unit → W → Prop} {f : β → Script ι ο ε Unit}
    (hf : ∀ x xs, (f x).Meets C respond p
      (fun r w => match r with
        | .ok _ => I xs w
        | .error e => R (.error e) w) (I (x :: xs)))
    (hdone : ∀ w, C.Inv w → I [] w → R (.ok ()) w) (xs : List β) :
    (forEach xs f).Meets C respond p R (I xs) := by
  induction xs with
  | nil => exact hdone
  | cons x xs ih => exact meets_bind (hf x xs) (fun _ => ih) fun _ _ _ h => h

/-- Nothing is said about a process that raises. -/
def Returns (B : α → W → Prop) : Except ε α → W → Prop
  | .ok a, w => B a w
  | .error _, _ => True

theorem returns_pure {B : α → W → Prop} {a : α} (h : ∀ w, C.Inv w → A w → B a w) :
    (Pure.pure a : Script ι ο ε α).Meets C respond p (Returns B) A := h

theorem returns_raise {B : α → W → Prop} {e : ε} :
    (raise e : Script ι ο ε α).Meets C respond p (Returns B) A := fun _ _ _ => trivial

theorem returns_ask {q : ι} {B : ο q → W → Prop} (hstable : ∀ a, C.Stable p (B a))
    (hstep : ∀ w a w', C.Inv w → A w → respond p w q a = some w' → C.Allows p w w' ∧ B a w') :
    (ask q : Script ι ο ε (ο q)).Meets C respond p (Returns B) A :=
  ⟨B, hstable, hstep, fun _ _ _ hb => hb⟩

theorem returns_bind {B : α → W → Prop} {D : β → W → Prop} {x : Script ι ο ε α} {f : α → Script ι ο ε β}
    (hx : x.Meets C respond p (Returns B) A) (hf : ∀ a, (f a).Meets C respond p (Returns D) (B a)) :
    (x >>= f).Meets C respond p (Returns D) A :=
  meets_bind hx hf fun _ _ _ _ => trivial

theorem returns_weaken {A' : W → Prop} {B D : α → W → Prop} {x : Script ι ο ε α}
    (h : x.Meets C respond p (Returns B) A) (hA : ∀ w, C.Inv w → A' w → A w)
    (hB : ∀ a w, C.Inv w → B a w → D a w) : x.Meets C respond p (Returns D) A' := by
  refine h.weaken hA ?_
  intro r w hw hr
  cases r with
  | ok a => exact hB a w hw hr
  | error e => trivial

/-- A handler that raises again. -/
theorem returns_handle {B : α → W → Prop} {x : Script ι ο ε α} {h : ε → Script ι ο ε α}
    (hx : x.Meets C respond p (Returns B) A)
    (hh : ∀ e, (h e).Meets C respond p (Returns fun _ _ => False) fun _ => True) :
    (x.handle h).Meets C respond p (Returns B) A := by
  refine meets_handle hx (fun _ _ _ hb => hb) ?_
  intro e
  exact returns_weaken (hh e) (fun _ _ _ => trivial) fun _ _ _ h => h.elim

/-- Whatever is known when the body returns, the cleanup keeps. -/
theorem returns_ensure {B : α → W → Prop} {x : Script ι ο ε α} {cleanup : Script ι ο ε Unit}
    (hx : x.Meets C respond p (Returns B) A)
    (hok : ∀ a, cleanup.Meets C respond p (Returns fun _ => B a) (B a))
    (herror : cleanup.Meets C respond p (Returns fun _ _ => True) fun _ => True) :
    (x.ensure cleanup).Meets C respond p (Returns B) A := by
  refine meets_ensure hx ?_
  intro r
  cases r with
  | ok a =>
    refine (hok a).weaken (fun _ _ h => h) ?_
    intro done w _ h
    cases done with
    | ok _ => exact h
    | error e => trivial
  | error e =>
    refine herror.weaken (fun _ _ _ => trivial) ?_
    intro done w _ _
    cases done with
    | ok _ => trivial
    | error e => trivial

theorem returns_forEach {I : List β → W → Prop} {f : β → Script ι ο ε Unit}
    (hf : ∀ x xs, (f x).Meets C respond p (Returns fun _ => I xs) (I (x :: xs))) (xs : List β) :
    (forEach xs f).Meets C respond p (Returns fun _ => I []) (I xs) := by
  refine meets_forEach ?_ (fun _ _ h => h) xs
  intro x xs
  refine (hf x xs).weaken (fun _ _ h => h) ?_
  intro r w _ h
  cases r with
  | ok _ => exact h
  | error e => trivial

end Script

/-! ## Soundness -/

namespace Setting

variable {P Op W E ι ε α : Type} {ο : ι → Type} [DecidableEq P] {S : Setting P Op W E ι ο ε α}
  {C : Contract P W} {Q : P → Except ε α → W → Prop}

/-- The obligations of a setting: scripts meet their triples, and whatever else moves the world keeps the contract. -/
structure Sound (S : Setting P Op W E ι ο ε α) (C : Contract P W) (Q : P → Except ε α → W → Prop) : Prop where
  enter : ∀ p op w w', C.Inv w → S.enter p op w = some w' → C.Allows p w w' ∧
    ∃ A, C.Stable p A ∧ A w' ∧ (S.program p op).Meets C S.respond p (Q p) A
  leave : ∀ p r w, C.Inv w → Q p r w → C.Allows p w (S.leave p r w)
  die : ∀ p w, C.Inv w → C.Allows p w (S.die p w)
  move : ∀ e w w', C.Inv w → S.move e w = some w' → C.Inv w' ∧ ∀ p, C.Rely p w w'

/-- What holds between the steps: each process knows an assertion from which it meets its triple. -/
structure Running (S : Setting P Op W E ι ο ε α) (C : Contract P W) (Q : P → Except ε α → W → Prop)
    (st : State P W ι ο ε α) : Prop where
  inv : C.Inv st.world
  knows : ∀ p x, st.procs p = some x → ∃ A, C.Stable p A ∧ A st.world ∧ x.Meets C S.respond p (Q p) A

/-- A step of `p` leaves the others with what they knew. -/
theorem Running.step {st : State P W ι ο ε α} (h : Running S C Q st) {p : P} {w : W}
    (hallows : C.Allows p st.world w) {x : Option (Script ι ο ε α)}
    (hx : ∀ y, x = some y → ∃ A, C.Stable p A ∧ A w ∧ y.Meets C S.respond p (Q p) A) :
    Running S C Q ⟨w, Function.update st.procs p x⟩ := by
  refine ⟨hallows.1, ?_⟩
  intro p' y hy
  by_cases heq : p' = p
  · subst heq
    exact hx y (by simpa using hy)
  · obtain ⟨A, hstable, hA, hmeets⟩ := h.knows p' y (by simpa [heq] using hy)
    exact ⟨A, hstable, hstable _ _ h.inv hallows.1 (hallows.2 p' heq) hA, hmeets⟩

/-- Scripts that meet their triples keep the contract, in every interleaving. -/
theorem running_of_reachable (hS : Sound S C Q) {Init : W → Prop} (hInit : ∀ w, Init w → C.Inv w)
    {st : State P W ι ο ε α} (hst : (S.machine Init).Reachable st) : Running S C Q st := by
  refine Machine.init_invariant _ ?_ ?_ hst
  · rintro st ⟨hw, hprocs⟩
    refine ⟨hInit _ hw, ?_⟩
    intro p x hx
    rw [hprocs] at hx
    cases hx
  · intro st label st' h hstep
    cases label with
    | start p op =>
      simp only [machine] at hstep
      split at hstep
      · cases hstep
      · obtain ⟨w, hw, rfl⟩ := Option.map_eq_some_iff.1 hstep
        obtain ⟨hallows, A, hstable, hA, hmeets⟩ := hS.enter p op _ _ h.inv hw
        refine h.step hallows ?_
        intro y hy
        cases hy
        exact ⟨A, hstable, hA, hmeets⟩
    | step p answer =>
      obtain ⟨x, hx, hadvance⟩ := Option.bind_eq_some_iff.1 hstep
      obtain ⟨A, hstable, hA, hmeets⟩ := h.knows p x hx
      cases x with
      | pure a =>
        cases hadvance
        exact h.step (hS.leave p _ _ h.inv (hmeets _ h.inv hA)) nofun
      | raise e =>
        cases hadvance
        exact h.step (hS.leave p _ _ h.inv (hmeets _ h.inv hA)) nofun
      | act q k =>
        obtain ⟨w, hw, rfl⟩ := Option.map_eq_some_iff.1 hadvance
        obtain ⟨B, hstableB, hstepB, hk⟩ := hmeets
        obtain ⟨hallows, hB⟩ := hstepB _ _ _ h.inv hA hw
        refine h.step hallows ?_
        intro y hy
        cases hy
        exact ⟨B (answer q), hstableB _, hB, hk _⟩
    | kill p =>
      obtain ⟨x, _, rfl⟩ := Option.map_eq_some_iff.1 hstep
      exact h.step (hS.die p _ h.inv) nofun
    | move e =>
      obtain ⟨w, hw, rfl⟩ := Option.map_eq_some_iff.1 hstep
      obtain ⟨hinv, hrely⟩ := hS.move e _ _ h.inv hw
      refine ⟨hinv, ?_⟩
      intro p x hx
      obtain ⟨A, hstable, hA, hmeets⟩ := h.knows p x hx
      exact ⟨A, hstable, hstable _ _ h.inv hinv (hrely p) hA, hmeets⟩

end Setting

end LeoFlow
