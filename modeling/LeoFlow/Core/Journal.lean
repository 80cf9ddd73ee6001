import LeoFlow.Core.Machine

/-!
# LeoFlow.Core.Journal — processes over one compare-and-swap journal

Any number of processes share a journal that they can only load and replace, a
replacement succeeding if nobody replaced the journal since it was loaded. Between
these accesses a process asks ports of the outside world; it may leave at any point.

* `Prog`: what one process does, as a tree of journal accesses and questions;
* `machine`: the processes interleaved, with the history of what they did;
* `Discipline`, `Prog.Follows`: the rule of a program, checked on the program alone;
* `History.Valid`: what the rule gives for the history of every interleaving, and
  from it `calls_le_count` (a question is asked at most as often as the journal
  counted it) and `not_called_of_found` (a process that finds the count used up never
  asks again).
-/

namespace LeoFlow

/-! ## Journals and programs -/

/-- Compare-and-swap: the replacement of a journal that still has the expected revision. -/
structure CompareAndSwap (σ ε : Type) where
  revision : σ → Nat
  swap : σ → Nat → σ → Except ε σ
  swap_ok : ∀ {s r t : σ} {n : Nat}, swap s n r = .ok t → revision s = n ∧ t = r

/-- The same journal with its errors renamed. -/
def CompareAndSwap.mapError {σ ε ε' : Type} (cas : CompareAndSwap σ ε) (f : ε → ε') :
    CompareAndSwap σ ε' where
  revision := cas.revision
  swap s n r := (cas.swap s n r).mapError f
  swap_ok := by
    intro s r t n h
    cases hswap : cas.swap s n r with
    | ok t' =>
      rw [hswap] at h
      cases h
      exact cas.swap_ok hswap
    | error e =>
      rw [hswap] at h
      cases h

/-- What a process does: `ι` are the questions it asks, `ο q` the answers to `q`. -/
inductive Prog (σ ι : Type) (ο : ι → Type) (ε α : Type) where
  | pure (a : α)
  | raise (e : ε)
  | load (k : σ → Prog σ ι ο ε α)
  | swap (expected : Nat) (replacement : σ) (k : Prog σ ι ο ε α)
  | call (q : ι) (k : ο q → Prog σ ι ο ε α)

namespace Prog

variable {σ ι ε α β : Type} {ο : ι → Type}

def bind : Prog σ ι ο ε α → (α → Prog σ ι ο ε β) → Prog σ ι ο ε β
  | pure a, f => f a
  | raise e, _ => raise e
  | load k, f => load fun s => (k s).bind f
  | swap n r k, f => swap n r (k.bind f)
  | call q k, f => call q fun a => (k a).bind f

instance : Monad (Prog σ ι ο ε) where
  pure := pure
  bind := bind

/-- A computation that neither reads the journal nor asks. -/
def ofExcept : Except ε α → Prog σ ι ο ε α
  | .ok a => pure a
  | .error e => raise e

/-- The journal as it is now. -/
def read : Prog σ ι ο ε σ := load pure

/-- Replace the journal; the replacement is what the process goes on with. -/
def replace (expected : Nat) (replacement : σ) : Prog σ ι ο ε σ :=
  swap expected replacement (pure replacement)

/-- Ask a port. -/
def ask (q : ι) : Prog σ ι ο ε (ο q) := call q pure

end Prog

/-! ## The machine -/

/-- An access to the journal or a port, with the journal it met. -/
inductive Event (P σ ι : Type) where
  | loaded (p : P) (s : σ)
  | wrote (p : P) (old new : σ)
  | called (p : P) (q : ι) (s : σ)

/-- What the processes did, newest first. -/
abbrev History (P σ ι : Type) := List (Event P σ ι)

namespace Journal

variable {P Op σ ι ε α : Type} {ο : ι → Type}

structure State (P σ ι : Type) (ο : ι → Type) (ε α : Type) where
  journal : σ
  procs : P → Option (Prog σ ι ο ε α)
  history : History P σ ι

/-- No process runs. -/
def State.start (initial : σ) : State P σ ι ο ε α := ⟨initial, fun _ => none, []⟩

/-- `answer` holds what the ports would answer in this step. -/
inductive Label (P Op ι : Type) (ο : ι → Type) where
  | start (p : P) (op : Op)
  | step (p : P) (answer : ∀ q, ο q)
  | stop (p : P)

/-- One step of a running process. -/
def advance [DecidableEq P] (cas : CompareAndSwap σ ε) (st : State P σ ι ο ε α) (p : P) (answer : ∀ q, ο q) :
    Prog σ ι ο ε α → State P σ ι ο ε α
  | .pure _ | .raise _ => { st with procs := Function.update st.procs p none }
  | .load k =>
    { st with
      procs := Function.update st.procs p (some (k st.journal))
      history := .loaded p st.journal :: st.history }
  | .swap n r k =>
    match cas.swap st.journal n r with
    | .ok t =>
      { journal := t
        procs := Function.update st.procs p (some k)
        history := .wrote p st.journal t :: st.history }
    | .error e => { st with procs := Function.update st.procs p (some (.raise e)) }
  | .call q k =>
    { st with
      procs := Function.update st.procs p (some (k (answer q)))
      history := .called p q st.journal :: st.history }

/-- Processes run the operations `program`, from the journal `initial`. -/
def machine [DecidableEq P] (cas : CompareAndSwap σ ε) (initial : σ) (program : Op → Prog σ ι ο ε α) :
    Machine (State P σ ι ο ε α) (Label P Op ι ο) where
  Init st := st = .start initial
  step st
    | .start p op =>
      match st.procs p with
      | none => some { st with procs := Function.update st.procs p (some (program op)) }
      | some _ => none
    | .step p answer => (st.procs p).map (advance cas st p answer)
    | .stop p => some { st with procs := Function.update st.procs p none }

end Journal

/-! ## Disciplines -/

/-- A rule for programs over a journal: what its states satisfy, how a replacement
may change it, how often it counted a question of kind `u`, which questions may be asked
in a state, and which errors may be raised. -/
structure Discipline (σ ι υ ε : Type) where
  Inv : σ → Prop
  Move : σ → σ → Prop
  count : σ → υ → Nat
  asks : ι → Option υ
  Allowed : σ → ι → Prop
  MayRaise : ε → Prop
  count_le : ∀ {s r : σ} (u : υ), Move s r → count s u ≤ count r u

namespace Prog

variable {σ ι υ ε α β : Type} {ο : ι → Type}

/-- The program keeps the discipline. `view` is the journal as the process knows it,
`credit` the kind of question that its last replacement counted and that it has not asked
since; `Q` is what holds of the result. -/
def Follows (cas : CompareAndSwap σ ε) (D : Discipline σ ι υ ε) (Q : α → Option σ → Option υ → Prop) :
    Option σ → Option υ → Prog σ ι ο ε α → Prop
  | view, credit, pure a => Q a view credit
  | _, _, raise e => D.MayRaise e
  | _, _, load k => ∀ s, D.Inv s → (k s).Follows cas D Q (some s) none
  | view, _, swap n r k =>
    ∃ s, view = some s ∧ n = cas.revision s ∧ cas.revision s < cas.revision r ∧ D.Inv r ∧ D.Move s r ∧
      ∃ credit, (∀ u, credit = some u → D.count s u < D.count r u) ∧ k.Follows cas D Q (some r) credit
  | view, credit, call q k =>
    (∃ s, view = some s ∧ D.Allowed s q) ∧ (∀ u, D.asks q = some u → credit = some u) ∧
      ∀ a, (k a).Follows cas D Q view (if D.asks q = none then credit else none)

variable {cas : CompareAndSwap σ ε} {D : Discipline σ ι υ ε} {view : Option σ} {credit : Option υ}

theorem Follows.mono {Q R : α → Option σ → Option υ → Prop} (hQR : ∀ a v c, Q a v c → R a v c)
    {x : Prog σ ι ο ε α} (h : x.Follows cas D Q view credit) : x.Follows cas D R view credit := by
  induction x generalizing view credit with
  | pure a => exact hQR a view credit h
  | raise e => exact h
  | load k ih =>
    intro s hs
    exact ih s (h s hs)
  | swap n r k ih =>
    obtain ⟨s, hview, hn, hrev, hinv, hmove, c, hc, hk⟩ := h
    exact ⟨s, hview, hn, hrev, hinv, hmove, c, hc, ih hk⟩
  | call q k ih =>
    obtain ⟨hallowed, hcredit, hk⟩ := h
    exact ⟨hallowed, hcredit, fun a => ih a (hk a)⟩

theorem follows_bind {Q : α → Option σ → Option υ → Prop} {R : β → Option σ → Option υ → Prop}
    {x : Prog σ ι ο ε α} {f : α → Prog σ ι ο ε β} (hx : x.Follows cas D Q view credit)
    (hf : ∀ a v c, Q a v c → (f a).Follows cas D R v c) : (x >>= f).Follows cas D R view credit := by
  show (x.bind f).Follows cas D R view credit
  induction x generalizing view credit with
  | pure a => exact hf a view credit hx
  | raise e => exact hx
  | load k ih =>
    intro s hs
    exact ih s (hx s hs)
  | swap n r k ih =>
    obtain ⟨s, hview, hn, hrev, hinv, hmove, c, hc, hk⟩ := hx
    exact ⟨s, hview, hn, hrev, hinv, hmove, c, hc, ih hk⟩
  | call q k ih =>
    obtain ⟨hallowed, hcredit, hk⟩ := hx
    exact ⟨hallowed, hcredit, fun a => ih a (hk a)⟩

theorem follows_ofExcept {Q : α → Option σ → Option υ → Prop} {x : Except ε α}
    (hok : ∀ a, x = .ok a → Q a view credit) (herror : ∀ e, x = .error e → D.MayRaise e) :
    (ofExcept x : Prog σ ι ο ε α).Follows cas D Q view credit := by
  cases x with
  | ok a => exact hok a rfl
  | error e => exact herror e rfl

theorem follows_read {Q : σ → Option σ → Option υ → Prop} (h : ∀ s, D.Inv s → Q s (some s) none) :
    (read : Prog σ ι ο ε σ).Follows cas D Q view credit := h

/-- A replacement, and the credit it earns. -/
theorem follows_replace {Q : σ → Option σ → Option υ → Prop} {s r : σ} (hinv : D.Inv r)
    (hrev : cas.revision s < cas.revision r) (hmove : D.Move s r) (earned : Option υ)
    (hearned : ∀ u, earned = some u → D.count s u < D.count r u) (h : Q r (some r) earned) :
    (replace (cas.revision s) r : Prog σ ι ο ε σ).Follows cas D Q (some s) credit :=
  ⟨s, rfl, rfl, hrev, hinv, hmove, earned, hearned, h⟩

/-- A question that nothing counts. -/
theorem follows_ask {q : ι} {Q : ο q → Option σ → Option υ → Prop} {s : σ} (hallowed : D.Allowed s q)
    (hasks : D.asks q = none) (h : ∀ a, Q a (some s) credit) :
    (ask q : Prog σ ι ο ε (ο q)).Follows cas D Q (some s) credit := by
  refine ⟨⟨s, rfl, hallowed⟩, ?_, ?_⟩
  · intro u hu
    rw [hasks] at hu
    cases hu
  · intro a
    rw [if_pos hasks]
    exact h a

/-- A counted question uses up its credit. -/
theorem follows_ask_counted {q : ι} {Q : ο q → Option σ → Option υ → Prop} {s : σ} {u : υ}
    (hallowed : D.Allowed s q) (hasks : D.asks q = some u) (h : ∀ a, Q a (some s) none) :
    (ask q : Prog σ ι ο ε (ο q)).Follows cas D Q (some s) (some u) := by
  refine ⟨⟨s, rfl, hallowed⟩, ?_, ?_⟩
  · intro u' hu'
    rw [← hu', hasks]
  · intro a
    rw [if_neg (by rw [hasks]; exact Option.some_ne_none u)]
    exact h a

end Prog

/-! ## Histories -/

namespace History

variable {P σ ι υ ε : Type}

/-- The journal after a history that began with `initial`. -/
def current (initial : σ) : History P σ ι → σ
  | [] => initial
  | .wrote _ _ new :: _ => new
  | _ :: h => current initial h

/-- The event is an access of `p` to the journal, or `p` asks a question of kind `u`. -/
def Touches (D : Discipline σ ι υ ε) (p : P) (u : υ) : Event P σ ι → Prop
  | .loaded p' _ | .wrote p' _ _ => p' = p
  | .called p' q _ => p' = p ∧ D.asks q = some u

/-- The last access of `p` to the journal is a replacement that counted `u`, and `p` has not
asked for `u` since. -/
def Credit (D : Discipline σ ι υ ε) (p : P) (u : υ) (h : History P σ ι) : Prop :=
  ∃ newer old new older, h = newer ++ .wrote p old new :: older ∧
    D.count old u < D.count new u ∧ ∀ e ∈ newer, ¬Touches D p u e

/-- Loads and replacements meet the journal as it is, replacements are moves between good
states, and whoever asks has the credit to. -/
def Valid (D : Discipline σ ι υ ε) (initial : σ) : History P σ ι → Prop
  | [] => D.Inv initial
  | .loaded _ s :: h => s = current initial h ∧ Valid D initial h
  | .wrote _ old new :: h =>
    old = current initial h ∧ D.Inv new ∧ D.Move old new ∧ Valid D initial h
  | .called p q s :: h =>
    s = current initial h ∧ (∀ u, D.asks q = some u → Credit D p u h) ∧ Valid D initial h

variable {D : Discipline σ ι υ ε} {initial : σ}

theorem inv_current {h : History P σ ι} (hvalid : Valid D initial h) : D.Inv (current initial h) := by
  induction h with
  | nil => exact hvalid
  | cons e h ih =>
    cases e with
    | loaded p s => exact ih hvalid.2
    | wrote p old new => exact hvalid.2.1
    | called p q s => exact ih hvalid.2.2

/-- A journal that is no longer the initial one was written. -/
theorem wrote_of_current_ne {h : History P σ ι} (hne : current initial h ≠ initial) :
    ∃ p old, Event.wrote p old (current initial h) ∈ h := by
  induction h with
  | nil => exact absurd rfl hne
  | cons e h ih =>
    cases e with
    | wrote p old new => exact ⟨p, old, List.mem_cons_self⟩
    | loaded p s =>
      obtain ⟨p', old, hmem⟩ := ih hne
      exact ⟨p', old, List.mem_cons_of_mem _ hmem⟩
    | called p q s =>
      obtain ⟨p', old, hmem⟩ := ih hne
      exact ⟨p', old, List.mem_cons_of_mem _ hmem⟩

theorem Valid.suffix {newer older : History P σ ι} (hvalid : Valid D initial (newer ++ older)) :
    Valid D initial older := by
  induction newer with
  | nil => exact hvalid
  | cons e newer ih =>
    cases e with
    | loaded p s => exact ih hvalid.2
    | wrote p old new => exact ih hvalid.2.2.2
    | called p q s => exact ih hvalid.2.2

/-- Counts never go down. -/
theorem count_le_current {newer older : History P σ ι} (hvalid : Valid D initial (newer ++ older))
    (u : υ) : D.count (current initial older) u ≤ D.count (current initial (newer ++ older)) u := by
  induction newer with
  | nil => exact Nat.le_refl _
  | cons e newer ih =>
    cases e with
    | loaded p s => exact ih hvalid.2
    | wrote p old new =>
      obtain ⟨hold, _, hmove, hrest⟩ := hvalid
      exact Nat.le_trans (ih hrest) (hold ▸ D.count_le u hmove)
    | called p q s => exact ih hvalid.2.2

/-- Every question in a valid history had its credit. -/
theorem credit_of_called {newer older : History P σ ι} {p : P} {q : ι} {s : σ} {u : υ}
    (hvalid : Valid D initial (newer ++ .called p q s :: older)) (hq : D.asks q = some u) :
    Credit D p u older :=
  (Valid.suffix hvalid).2.1 u hq

theorem credit_cons_iff {p : P} {u : υ} {e : Event P σ ι} {h : History P σ ι} :
    Credit D p u (e :: h) ↔
      (∃ old new, e = .wrote p old new ∧ D.count old u < D.count new u) ∨
        ¬Touches D p u e ∧ Credit D p u h := by
  constructor
  · rintro ⟨newer, old, new, older, heq, hcount, hnewer⟩
    cases newer with
    | nil =>
      cases heq
      exact Or.inl ⟨old, new, rfl, hcount⟩
    | cons e' newer =>
      cases heq
      refine Or.inr ⟨hnewer e List.mem_cons_self, newer, old, new, older, rfl, hcount, ?_⟩
      intro e' he'
      exact hnewer e' (List.mem_cons_of_mem e he')
  · rintro (⟨old, new, rfl, hcount⟩ | ⟨he, newer, old, new, older, rfl, hcount, hnewer⟩)
    · exact ⟨[], old, new, h, rfl, hcount, fun _ he => absurd he List.not_mem_nil⟩
    · refine ⟨e :: newer, old, new, older, rfl, hcount, ?_⟩
      intro e' he'
      rcases List.mem_cons.1 he' with rfl | he'
      · exact he
      · exact hnewer e' he'

/-! ### Counting questions -/

section Counting

variable [DecidableEq υ]

/-- Who asked for `u`, once for every question. -/
def callers (D : Discipline σ ι υ ε) (u : υ) (h : History P σ ι) : List P :=
  h.filterMap fun
    | .called p q _ => if D.asks q = some u then some p else none
    | _ => none

/-- Who counted `u`, once for every replacement that did. -/
def writers (D : Discipline σ ι υ ε) (u : υ) (h : History P σ ι) : List P :=
  h.filterMap fun
    | .wrote p old new => if D.count old u < D.count new u then some p else none
    | _ => none

/-- The questions of kind `u` so far. -/
def calls (D : Discipline σ ι υ ε) (u : υ) (h : History P σ ι) : Nat := (callers D u h).length

theorem callers_cons {p : P} {q : ι} {s : σ} {h : History P σ ι} {u : υ} :
    callers D u (.called p q s :: h) =
      if D.asks q = some u then p :: callers D u h else callers D u h := by
  unfold callers
  by_cases hq : D.asks q = some u <;> simp [hq]

omit [DecidableEq υ] in
theorem writers_cons {p : P} {old new : σ} {h : History P σ ι} {u : υ} :
    writers D u (.wrote p old new :: h) =
      if D.count old u < D.count new u then p :: writers D u h else writers D u h := by
  unfold writers
  by_cases hcount : D.count old u < D.count new u <;> simp [hcount]

/-- Each process counted `u` as often as it asked, and once more if it has the credit. -/
theorem count_callers_le [DecidableEq P] {h : History P σ ι} (hvalid : Valid D initial h) (p : P)
    (u : υ) :
    (callers D u h).count p ≤ (writers D u h).count p ∧
      (Credit D p u h → (callers D u h).count p < (writers D u h).count p) := by
  induction h with
  | nil =>
    refine ⟨Nat.le_refl _, ?_⟩
    rintro ⟨newer, old, new, older, heq, _⟩
    exact absurd heq (by simp)
  | cons e h ih =>
    rw [credit_cons_iff]
    cases e with
    | loaded p' s =>
      obtain ⟨hle, hlt⟩ := ih hvalid.2
      refine ⟨hle, ?_⟩
      rintro (⟨_, _, heq, _⟩ | ⟨_, hcredit⟩)
      · cases heq
      · exact hlt hcredit
    | wrote p' old new =>
      obtain ⟨hle, hlt⟩ := ih hvalid.2.2.2
      show (callers D u h).count p ≤ _ ∧ (_ → (callers D u h).count p < _)
      rw [writers_cons]
      constructor
      · split
        · exact Nat.le_trans hle List.count_le_count_cons
        · exact hle
      · rintro (⟨_, _, heq, hcount⟩ | ⟨htouches, hcredit⟩)
        · cases heq
          rw [if_pos hcount, List.count_cons_self]
          omega
        · split
          · exact Nat.lt_of_lt_of_le (hlt hcredit) List.count_le_count_cons
          · exact hlt hcredit
    | called p' q s =>
      obtain ⟨_, hasks, hrest⟩ := hvalid
      obtain ⟨hle, hlt⟩ := ih hrest
      show _ ≤ (writers D u h).count p ∧ (_ → _ < (writers D u h).count p)
      rw [callers_cons]
      by_cases hq : D.asks q = some u
      · rw [if_pos hq]
        by_cases hp : p' = p
        · -- the question uses up the credit it needs
          subst hp
          rw [List.count_cons_self]
          refine ⟨hlt (hasks u hq), ?_⟩
          rintro (⟨_, _, heq, _⟩ | ⟨htouches, _⟩)
          · cases heq
          · exact absurd ⟨rfl, hq⟩ htouches
        · rw [List.count_cons_of_ne hp]
          refine ⟨hle, ?_⟩
          rintro (⟨_, _, heq, _⟩ | ⟨_, hcredit⟩)
          · cases heq
          · exact hlt hcredit
      · rw [if_neg hq]
        refine ⟨hle, ?_⟩
        rintro (⟨_, _, heq, _⟩ | ⟨_, hcredit⟩)
        · cases heq
        · exact hlt hcredit

omit [DecidableEq υ] in
theorem length_writers_le {h : History P σ ι} (hvalid : Valid D initial h) (u : υ) :
    (writers D u h).length ≤ D.count (current initial h) u := by
  induction h with
  | nil => exact Nat.zero_le _
  | cons e h ih =>
    cases e with
    | loaded p s => exact ih hvalid.2
    | called p q s => exact ih hvalid.2.2
    | wrote p old new =>
      obtain ⟨hold, _, hmove, hrest⟩ := hvalid
      have hlen := ih hrest
      rw [← hold] at hlen
      have hle := D.count_le u hmove
      show _ ≤ D.count new u
      rw [writers_cons]
      split
      · rw [List.length_cons]
        omega
      · omega

/-- A question is asked at most as often as the journal counted it. -/
theorem calls_le_count {h : History P σ ι} (hvalid : Valid D initial h) (u : υ) :
    calls D u h ≤ D.count (current initial h) u := by
  classical
  have hsub : (callers D u h).Subperm (writers D u h) := by
    rw [List.subperm_ext_iff]
    intro p _
    exact (count_callers_le hvalid p u).1
  exact Nat.le_trans hsub.length_le (length_writers_le hvalid u)

end Counting

/-! ### What a process found -/

/-- A count that no good state exceeds is used up for a process that loads it: it never gets
the credit again. -/
theorem not_credit_of_found {newer older : History P σ ι} {p : P} {s : σ} {u : υ} {b : Nat}
    (hvalid : Valid D initial (newer ++ .loaded p s :: older)) (hbound : ∀ t, D.Inv t → D.count t u ≤ b)
    (hfound : b ≤ D.count s u) : ¬Credit D p u (newer ++ .loaded p s :: older) := by
  induction newer with
  | nil =>
    rw [List.nil_append, credit_cons_iff]
    rintro (⟨_, _, heq, _⟩ | ⟨htouches, _⟩)
    · cases heq
    · exact htouches rfl
  | cons e newer ih =>
    rw [List.cons_append, credit_cons_iff]
    rintro (⟨old, new, rfl, hcount⟩ | ⟨_, hcredit⟩)
    · obtain ⟨hold, hinv, _, hrest⟩ := hvalid
      have hs : s = current initial older := (Valid.suffix hrest).1
      have hle : D.count (current initial (.loaded p s :: older)) u ≤ D.count old u :=
        hold ▸ count_le_current hrest u
      have hnew := hbound new hinv
      have hstart : D.count (current initial (.loaded p s :: older)) u = D.count s u := by
        rw [hs]
        rfl
      omega
    · have htail : Valid D initial ([e] ++ (newer ++ .loaded p s :: older)) := hvalid
      exact ih htail.suffix hcredit

theorem not_called_of_found {newer older : History P σ ι} {p : P} {s : σ} {u : υ} {b : Nat}
    (hvalid : Valid D initial (newer ++ .loaded p s :: older)) (hbound : ∀ t, D.Inv t → D.count t u ≤ b)
    (hfound : b ≤ D.count s u) {q : ι} {t : σ} (hmem : Event.called p q t ∈ newer) :
    D.asks q ≠ some u := by
  intro hq
  obtain ⟨newest, rest, rfl⟩ := List.append_of_mem hmem
  rw [List.append_assoc, List.cons_append] at hvalid
  exact not_credit_of_found (Valid.suffix hvalid).2.2 hbound hfound (credit_of_called hvalid hq)

end History

/-! ## Every interleaving -/

namespace Journal

variable {P Op σ ι υ ε α : Type} {ο : ι → Type} [DecidableEq P]
variable (cas : CompareAndSwap σ ε) (D : Discipline σ ι υ ε) (initial : σ) (program : Op → Prog σ ι ο ε α)

/-- What the process of a program knows: its view is the journal unless somebody replaced it, and
it has the credit it believes to have. -/
structure Running (st : State P σ ι ο ε α) (p : P) (x : Prog σ ι ο ε α) (view : Option σ)
    (credit : Option υ) : Prop where
  follows : x.Follows cas D (fun _ _ _ => True) view credit
  view_le : ∀ s ∈ view, cas.revision s ≤ cas.revision st.journal
  view_eq : ∀ s ∈ view, cas.revision s = cas.revision st.journal → s = st.journal
  alone : Subsingleton P → ∀ s ∈ view, s = st.journal
  has_credit : ∀ u, credit = some u → History.Credit D p u st.history

/-- The invariant of the machine. -/
structure Consistent (st : State P σ ι ο ε α) : Prop where
  valid : History.Valid D initial st.history
  journal : st.journal = History.current initial st.history
  running : ∀ p x, st.procs p = some x → ∃ view credit, Running cas D st p x view credit
  allowed : Subsingleton P → ∀ p q s, Event.called p q s ∈ st.history → D.Allowed s q

variable {cas D initial program}

omit [DecidableEq P] in
/-- A step of one process leaves what the others know. -/
theorem Running.frame {st st' : State P σ ι ο ε α} {p p' : P} {x : Prog σ ι ο ε α}
    {view : Option σ} {credit : Option υ} (h : Running cas D st p x view credit) (hp : p' ≠ p)
    (hjournal : st'.journal = st.journal ∨ cas.revision st.journal < cas.revision st'.journal)
    (hhistory : st'.history = st.history ∨
      ∃ e, st'.history = e :: st.history ∧ ∀ u, ¬History.Touches D p u e) :
    Running cas D st' p x view credit := by
  constructor
  · exact h.follows
  · intro s hs
    have := h.view_le s hs
    rcases hjournal with heq | hlt
    · rw [heq]
      exact this
    · omega
  · intro s hs hrev
    rcases hjournal with heq | hlt
    · rw [heq] at hrev ⊢
      exact h.view_eq s hs hrev
    · have := h.view_le s hs
      omega
  · intro hsub
    exact absurd (hsub.elim p' p) hp
  · intro u hu
    rcases hhistory with heq | ⟨e, heq, he⟩
    · rw [heq]
      exact h.has_credit u hu
    · rw [heq, History.credit_cons_iff]
      exact Or.inr ⟨he u, h.has_credit u hu⟩

/-- The invariant after a step of `p` that leaves it running `o`. -/
theorem Consistent.after {st st' : State P σ ι ο ε α} (h : Consistent cas D initial st) (p : P)
    {o : Option (Prog σ ι ο ε α)} (hprocs : st'.procs = Function.update st.procs p o)
    (hjournal : st'.journal = st.journal ∨ cas.revision st.journal < cas.revision st'.journal)
    (hhistory : st'.history = st.history ∨
      ∃ e, st'.history = e :: st.history ∧ ∀ p' ≠ p, ∀ u, ¬History.Touches D p' u e)
    (hvalid : History.Valid D initial st'.history)
    (hcurrent : st'.journal = History.current initial st'.history)
    (hrunning : ∀ x, o = some x → ∃ view credit, Running cas D st' p x view credit)
    (hallowed : Subsingleton P → ∀ p q s, Event.called p q s ∈ st'.history → D.Allowed s q) :
    Consistent cas D initial st' := by
  constructor
  · exact hvalid
  · exact hcurrent
  · intro p' x hx
    rw [hprocs] at hx
    by_cases hp : p' = p
    · subst hp
      rw [Function.update_self] at hx
      exact hrunning x hx
    · rw [Function.update_of_ne hp] at hx
      obtain ⟨view, credit, hrun⟩ := h.running p' x hx
      refine ⟨view, credit, hrun.frame (Ne.symm hp) hjournal ?_⟩
      rcases hhistory with heq | ⟨e, heq, he⟩
      · exact Or.inl heq
      · exact Or.inr ⟨e, heq, he p' hp⟩
  · exact hallowed

/-- Leaving, and finishing. -/
theorem Consistent.stop {st : State P σ ι ο ε α} (h : Consistent cas D initial st) (p : P) :
    Consistent cas D initial { st with procs := Function.update st.procs p none } :=
  h.after p rfl (Or.inl rfl) (Or.inl rfl) h.valid h.journal (fun _ hx => by cases hx) h.allowed

theorem Consistent.start {st : State P σ ι ο ε α} (h : Consistent cas D initial st) (p : P)
    {x : Prog σ ι ο ε α} (hx : x.Follows cas D (fun _ _ _ => True) none none) :
    Consistent cas D initial { st with procs := Function.update st.procs p (some x) } := by
  refine h.after p rfl (Or.inl rfl) (Or.inl rfl) h.valid h.journal ?_ h.allowed
  intro y hy
  cases hy
  refine ⟨none, none, hx, ?_, ?_, ?_, ?_⟩
  · intro s hs
    cases hs
  · intro s hs
    cases hs
  · intro _ s hs
    cases hs
  · intro u hu
    cases hu

omit [DecidableEq P] in
/-- What a process knows right after it met the journal. -/
theorem running_of_view {st : State P σ ι ο ε α} {p : P} {x : Prog σ ι ο ε α} {credit : Option υ}
    (hx : x.Follows cas D (fun _ _ _ => True) (some st.journal) credit)
    (hcredit : ∀ u, credit = some u → History.Credit D p u st.history) :
    Running cas D st p x (some st.journal) credit := by
  refine ⟨hx, ?_, ?_, ?_, hcredit⟩
  · intro s hs
    cases hs
    exact Nat.le_refl _
  · intro s hs _
    cases hs
    rfl
  · intro _ s hs
    cases hs
    rfl

theorem Consistent.advance {st : State P σ ι ο ε α} (h : Consistent cas D initial st) (p : P)
    (answer : ∀ q, ο q) (hraise : ∀ s n r e, cas.swap s n r = .error e → D.MayRaise e)
    {x : Prog σ ι ο ε α} (hx : st.procs p = some x) :
    Consistent cas D initial (advance cas st p answer x) := by
  obtain ⟨view, credit, hrun⟩ := h.running p x hx
  cases x with
  | pure a => exact h.stop p
  | raise e => exact h.stop p
  | load k =>
    have hinv : D.Inv st.journal := h.journal ▸ History.inv_current h.valid
    refine h.after p rfl (Or.inl rfl) (Or.inr ⟨_, rfl, ?_⟩) ⟨h.journal, h.valid⟩ h.journal ?_ ?_
    · intro p' hp u htouches
      exact hp htouches.symm
    · intro y hy
      cases hy
      refine ⟨some st.journal, none, running_of_view (hrun.follows st.journal hinv) ?_⟩
      intro u hu
      cases hu
    · intro hsub p' q s hmem
      rcases List.mem_cons.1 hmem with heq | hmem
      · cases heq
      · exact h.allowed hsub p' q s hmem
  | swap n r k =>
    obtain ⟨s, rfl, rfl, hrev, hinv, hmove, earned, hearned, hk⟩ := hrun.follows
    cases hswap : cas.swap st.journal (cas.revision s) r with
    | ok t =>
      simp only [Journal.advance, hswap]
      obtain ⟨hcurrent, rfl⟩ := cas.swap_ok hswap
      -- nobody replaced the journal since this process saw it
      have hs : s = st.journal := hrun.view_eq s rfl hcurrent.symm
      subst hs
      refine h.after p rfl (Or.inr hrev) (Or.inr ⟨_, rfl, ?_⟩) ⟨h.journal, hinv, hmove, h.valid⟩ rfl
        ?_ ?_
      · intro p' hp u htouches
        exact hp htouches.symm
      · intro y hy
        cases hy
        refine ⟨some t, earned, running_of_view hk ?_⟩
        intro u hu
        exact ⟨[], _, _, _, rfl, hearned u hu, fun _ he => absurd he List.not_mem_nil⟩
      · intro hsub p' q s hmem
        rcases List.mem_cons.1 hmem with heq | hmem
        · cases heq
        · exact h.allowed hsub p' q s hmem
    | error e =>
      simp only [Journal.advance, hswap]
      refine h.after p rfl (Or.inl rfl) (Or.inl rfl) h.valid h.journal ?_ h.allowed
      intro y hy
      cases hy
      exact ⟨some s, credit, hraise _ _ _ _ hswap, hrun.view_le, hrun.view_eq, hrun.alone,
        hrun.has_credit⟩
  | call q k =>
    obtain ⟨⟨s, rfl, hallowed⟩, hasks, hk⟩ := hrun.follows
    have hcredit : ∀ u, D.asks q = some u → History.Credit D p u st.history := by
      intro u hu
      exact hrun.has_credit u (hasks u hu)
    refine h.after p rfl (Or.inl rfl) (Or.inr ⟨_, rfl, ?_⟩) ⟨h.journal, hcredit, h.valid⟩ h.journal
      ?_ ?_
    · intro p' hp u htouches
      exact hp htouches.1.symm
    · intro y hy
      cases hy
      refine ⟨some s, _, hk (answer q), hrun.view_le, hrun.view_eq, hrun.alone, ?_⟩
      intro u hu
      show History.Credit D p u (_ :: st.history)
      rw [History.credit_cons_iff]
      split at hu
      · rename_i hnone
        refine Or.inr ⟨?_, hrun.has_credit u hu⟩
        intro htouches
        rw [htouches.2] at hnone
        cases hnone
      · cases hu
    · intro hsub p' q' t hmem
      rcases List.mem_cons.1 hmem with heq | hmem
      · cases heq
        rw [← hrun.alone hsub s rfl]
        exact hallowed
      · exact h.allowed hsub p' q' t hmem

/-- Programs that keep a discipline keep the invariant, in every interleaving. -/
theorem consistent_of_reachable (hinitial : D.Inv initial)
    (hprogram : ∀ op, (program op).Follows cas D (fun _ _ _ => True) none none)
    (hraise : ∀ s n r e, cas.swap s n r = .error e → D.MayRaise e) {st : State P σ ι ο ε α}
    (hst : (machine cas initial program).Reachable st) : Consistent cas D initial st := by
  refine Machine.init_invariant _ ?_ ?_ hst
  · rintro _ rfl
    constructor
    · exact hinitial
    · rfl
    · intro p x hx
      cases hx
    · intro _ p q s hmem
      cases hmem
  · intro st label st' h hstep
    cases label with
    | start p op =>
      simp only [machine] at hstep
      split at hstep
      · cases hstep
        exact h.start p (hprogram op)
      · cases hstep
    | step p answer =>
      obtain ⟨x, hx, rfl⟩ := Option.map_eq_some_iff.1 hstep
      exact h.advance p answer hraise hx
    | stop p =>
      cases hstep
      exact h.stop p

omit [DecidableEq P] in
theorem Consistent.inv {st : State P σ ι ο ε α} (h : Consistent cas D initial st) : D.Inv st.journal :=
  h.journal ▸ History.inv_current h.valid

omit [DecidableEq P] in
/-- What a running program raises, its discipline permits. -/
theorem Consistent.mayRaise {st : State P σ ι ο ε α} (h : Consistent cas D initial st) {p : P} {e : ε}
    (hp : st.procs p = some (.raise e)) : D.MayRaise e := by
  obtain ⟨view, credit, hrun⟩ := h.running p _ hp
  exact hrun.follows

/-- The invariant along every run. -/
theorem allStates_of_follows (hinitial : D.Inv initial)
    (hprogram : ∀ op, (program op).Follows cas D (fun _ _ _ => True) none none)
    (hraise : ∀ s n r e, cas.swap s n r = .error e → D.MayRaise e)
    {G : State P σ ι ο ε α → Prop} (hG : ∀ st, Consistent cas D initial st → G st)
    (as : List (Label P Op ι ο)) : (machine cas initial program).AllStates G (.start initial) as :=
  Machine.allStates_of_reachable _
    (fun st hst => hG st (consistent_of_reachable hinitial hprogram hraise hst)) (.init rfl) as

end Journal

end LeoFlow
