import Mathlib

/-!
# LeoFlow.Core.Lease — boards of fenced leases

A board maps a key to a row with a generation, an attempt counter and at most one
holder. A claim hands the row to a new holder and increments both counters; the
current holder may finalize the row. The rules below say what any run of such
steps can record, for any keys and tokens.
-/

namespace LeoFlow

namespace Lease

universe u v

variable {κ : Type u} {τ : Type v}

structure Row (τ : Type v) where
  generation : Nat
  attempt : Nat
  /-- the token of the current lease -/
  holder : Option τ

abbrev Board (κ : Type u) (τ : Type v) := κ → Option (Row τ)

/-- What a run records. -/
inductive Event (κ : Type u) (τ : Type v) where
  | claimed (key : κ) (token : τ) (generation attempt : Nat)
  | finalized (key : κ) (token : τ) (generation : Nat)
deriving DecidableEq

/-- One step of a board, and what it records. -/
inductive Step (s : Board κ τ) : List (Event κ τ) → Board κ τ → Prop where
  /-- rows stay, and fresh rows without a holder may appear -/
  | keep {t : Board κ τ}
    (h : ∀ k, t k = s k ∨ s k = none ∧ ∃ r, t k = some r ∧ r.holder = none) : Step s [] t
  | claim {t : Board κ τ} (key : κ) (token : τ) (r : Row τ) (hs : s key = some r)
    (ht : t key = some ⟨r.generation + 1, r.attempt + 1, some token⟩)
    (hother : ∀ k, k ≠ key → t k = s k) :
    Step s [.claimed key token (r.generation + 1) (r.attempt + 1)] t
  | finalize {t : Board κ τ} (key : κ) (token : τ) (r : Row τ) (hs : s key = some r)
    (hheld : r.holder = some token) (ht : t key = some ⟨r.generation, r.attempt, none⟩)
    (hother : ∀ k, k ≠ key → t k = s k) :
    Step s [.finalized key token r.generation] t

/-- The order of two events of one run: later claims of a key have a larger generation
and attempt, and one generation of a key is finalized once. -/
def Event.Before : Event κ τ → Event κ τ → Prop
  | .claimed k _ g a, .claimed k' _ g' a' => k = k' → g < g' ∧ a < a'
  | .finalized k _ g, .finalized k' _ g' => k = k' → g ≠ g'
  | .claimed _ _ _ _, .finalized _ _ _ => True
  | .finalized _ _ _, .claimed _ _ _ _ => True

/-- What the events so far say about the board. -/
structure Recorded (events : List (Event κ τ)) (s : Board κ τ) : Prop where
  claimed_le : ∀ k token g a, .claimed k token g a ∈ events →
    ∃ r, s k = some r ∧ g ≤ r.generation ∧ a ≤ r.attempt
  finalized_le : ∀ k token g, .finalized k token g ∈ events →
    ∃ r, s k = some r ∧ g ≤ r.generation ∧ (r.holder ≠ none → g < r.generation)
  held : ∀ k r token, s k = some r → r.holder = some token →
    ∃ a, .claimed k token r.generation a ∈ events
  ordered : events.Pairwise Event.Before
  /-- whoever finalized a generation had claimed it -/
  matched : ∀ k token g, .finalized k token g ∈ events → ∃ a, .claimed k token g a ∈ events

theorem recorded_empty : Recorded [] (fun _ => none : Board κ τ) where
  claimed_le := by simp
  finalized_le := by simp
  held := by simp
  ordered := List.Pairwise.nil
  matched := by simp

variable {events : List (Event κ τ)}

/-- One more event at the end. -/
theorem pairwise_snoc {e : Event κ τ} (h : events.Pairwise Event.Before) (he : ∀ e' ∈ events, e'.Before e) :
    (events ++ [e]).Pairwise Event.Before := by
  rw [List.pairwise_append]
  refine ⟨h, List.pairwise_singleton _ _, ?_⟩
  intro e' he' e'' he''
  rw [List.mem_singleton.1 he'']
  exact he e' he'

variable {s t : Board κ τ}

theorem Recorded.keep (h : Recorded events s)
    (hkeep : ∀ k, t k = s k ∨ s k = none ∧ ∃ r, t k = some r ∧ r.holder = none) :
    Recorded events t where
  claimed_le := by
    intro k token g a he
    obtain ⟨r, hr, hle⟩ := h.claimed_le k token g a he
    rcases hkeep k with hk | ⟨hk, _⟩
    · exact ⟨r, by rw [hk, hr], hle⟩
    · rw [hr] at hk
      cases hk
  finalized_le := by
    intro k token g he
    obtain ⟨r, hr, hle⟩ := h.finalized_le k token g he
    rcases hkeep k with hk | ⟨hk, _⟩
    · exact ⟨r, by rw [hk, hr], hle⟩
    · rw [hr] at hk
      cases hk
  held := by
    intro k r token hr hheld
    rcases hkeep k with hk | ⟨_, r', hr', hfree⟩
    · rw [hk] at hr
      exact h.held k r token hr hheld
    · -- a fresh row has no holder
      rw [hr] at hr'
      cases hr'
      rw [hfree] at hheld
      cases hheld
  ordered := h.ordered
  matched := h.matched

theorem Recorded.claim (h : Recorded events s) {key : κ} {token : τ} {r : Row τ} (hs : s key = some r)
    (ht : t key = some ⟨r.generation + 1, r.attempt + 1, some token⟩) (hother : ∀ k, k ≠ key → t k = s k) :
    Recorded (events ++ [.claimed key token (r.generation + 1) (r.attempt + 1)]) t where
  claimed_le := by
    intro k token' g a he
    rcases List.mem_append.1 he with he | he
    · obtain ⟨r', hr', hg, ha⟩ := h.claimed_le k token' g a he
      by_cases hk : k = key
      · subst hk
        rw [hs] at hr'
        cases hr'
        exact ⟨_, ht, Nat.le_succ_of_le hg, Nat.le_succ_of_le ha⟩
      · exact ⟨r', by rw [hother k hk, hr'], hg, ha⟩
    · cases List.mem_singleton.1 he
      exact ⟨_, ht, Nat.le_refl _, Nat.le_refl _⟩
  finalized_le := by
    intro k token' g he
    rcases List.mem_append.1 he with he | he
    · obtain ⟨r', hr', hg, hlt⟩ := h.finalized_le k token' g he
      by_cases hk : k = key
      · subst hk
        rw [hs] at hr'
        cases hr'
        exact ⟨_, ht, Nat.le_succ_of_le hg, fun _ => Nat.lt_succ_of_le hg⟩
      · exact ⟨r', by rw [hother k hk, hr'], hg, hlt⟩
    · cases List.mem_singleton.1 he
  held := by
    intro k r' token' hr' hheld
    by_cases hk : k = key
    · subst hk
      rw [ht] at hr'
      cases hr'
      cases hheld
      exact ⟨_, List.mem_append.2 (Or.inr (List.mem_singleton.2 rfl))⟩
    · rw [hother k hk] at hr'
      obtain ⟨a, ha⟩ := h.held k r' token' hr' hheld
      exact ⟨a, List.mem_append.2 (Or.inl ha)⟩
  ordered := by
    refine pairwise_snoc h.ordered ?_
    intro e he
    cases e with
    | claimed k token' g a =>
      rintro rfl
      obtain ⟨r', hr', hg, ha⟩ := h.claimed_le k token' g a he
      rw [hs] at hr'
      cases hr'
      exact ⟨Nat.lt_succ_of_le hg, Nat.lt_succ_of_le ha⟩
    | finalized k token' g => trivial
  matched := by
    intro k token' g he
    rcases List.mem_append.1 he with he | he
    · obtain ⟨a, ha⟩ := h.matched k token' g he
      exact ⟨a, List.mem_append.2 (Or.inl ha)⟩
    · cases List.mem_singleton.1 he

theorem Recorded.finalize (h : Recorded events s) {key : κ} {token : τ} {r : Row τ} (hs : s key = some r)
    (hheld : r.holder = some token) (ht : t key = some ⟨r.generation, r.attempt, none⟩)
    (hother : ∀ k, k ≠ key → t k = s k) :
    Recorded (events ++ [.finalized key token r.generation]) t where
  claimed_le := by
    intro k token' g a he
    rcases List.mem_append.1 he with he | he
    · obtain ⟨r', hr', hle⟩ := h.claimed_le k token' g a he
      by_cases hk : k = key
      · subst hk
        rw [hs] at hr'
        cases hr'
        exact ⟨_, ht, hle⟩
      · exact ⟨r', by rw [hother k hk, hr'], hle⟩
    · cases List.mem_singleton.1 he
  finalized_le := by
    intro k token' g he
    rcases List.mem_append.1 he with he | he
    · obtain ⟨r', hr', hg, hlt⟩ := h.finalized_le k token' g he
      by_cases hk : k = key
      · subst hk
        rw [hs] at hr'
        cases hr'
        exact ⟨_, ht, hg, fun hfree => absurd rfl hfree⟩
      · exact ⟨r', by rw [hother k hk, hr'], hg, hlt⟩
    · cases List.mem_singleton.1 he
      exact ⟨_, ht, Nat.le_refl _, fun hfree => absurd rfl hfree⟩
  held := by
    intro k r' token' hr' hheld'
    by_cases hk : k = key
    · subst hk
      rw [ht] at hr'
      cases hr'
      cases hheld'
    · rw [hother k hk] at hr'
      obtain ⟨a, ha⟩ := h.held k r' token' hr' hheld'
      exact ⟨a, List.mem_append.2 (Or.inl ha)⟩
  ordered := by
    refine pairwise_snoc h.ordered ?_
    intro e he
    cases e with
    | claimed k token' g a => trivial
    | finalized k token' g =>
      -- a row that is held was finalized at earlier generations only
      rintro rfl
      obtain ⟨r', hr', _, hlt⟩ := h.finalized_le k token' g he
      rw [hs] at hr'
      cases hr'
      have hne : r.holder ≠ none := by
        rw [hheld]
        simp
      exact Nat.ne_of_lt (hlt hne)
  matched := by
    intro k token' g he
    rcases List.mem_append.1 he with he | he
    · obtain ⟨a, ha⟩ := h.matched k token' g he
      exact ⟨a, List.mem_append.2 (Or.inl ha)⟩
    · cases List.mem_singleton.1 he
      obtain ⟨a, ha⟩ := h.held key r token hs hheld
      exact ⟨a, List.mem_append.2 (Or.inl ha)⟩

/-- A step keeps the record. -/
theorem Recorded.step {new : List (Event κ τ)} (h : Recorded events s) (hstep : Step s new t) : Recorded (events ++ new) t := by
  cases hstep with
  | keep hkeep =>
    rw [List.append_nil]
    exact h.keep hkeep
  | claim key token r hs ht hother => exact h.claim hs ht hother
  | finalize key token r hs hheld ht hother => exact h.finalize hs hheld ht hother

end Lease

end LeoFlow
