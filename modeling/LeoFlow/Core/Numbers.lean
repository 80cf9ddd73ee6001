import LeoFlow.Core.FloatError
import LeoFlow.Core.Value

/-!
# LeoFlow.Core.Numbers — comparing Python numbers

An `int` and a `float` are compared as the numbers they denote. `rank` is that
number for finite values; on these `==` and `<` are equality and order of ranks
(`eq_iff_rank`, `lt_iff_rank`).

* `maximum`: the built-in `max`, which keeps the first of several maxima;
* `descending`: `sorted(.., reverse=True)`, which is stable;
* `countP_above_getElem`: at most `k` items of a descending list exceed the item
  at position `k`.
-/

namespace LeoFlow

namespace PyFloat

theorem toRat_zero_iff {negative : Bool} {m : Nat} {e : Int} {h : CanonicalFloat m e} :
    (finite negative m e h).toRat = some 0 ↔ m = 0 := by
  have hpow : (2 : ℚ) ^ e ≠ 0 := (zpow_pos two_pos e).ne'
  rw [toRat_finite, Option.some.injEq]
  constructor
  · intro hzero
    split at hzero
    · simpa [hpow] using hzero
    · simpa [hpow] using hzero
  · rintro rfl
    simp

/-- A magnitude has one canonical form. -/
theorem canonical_unique {m m' : Nat} {e e' : Int} (h : CanonicalFloat m e) (h' : CanonicalFloat m' e') (hm : m ≠ 0)
    (heq : (m : ℚ) * 2 ^ e = m' * 2 ^ e') : m = m' ∧ e = e' := by
  have hm' : m' ≠ 0 := by
    rintro rfl
    have hpow : (2 : ℚ) ^ e ≠ 0 := (zpow_pos two_pos e).ne'
    simp [hpow, hm] at heq
  have hratio : m * 2 ^ e.toNat * 2 ^ (-e').toNat = m' * 2 ^ e'.toNat * 2 ^ (-e).toNat := by
    rw [← mul_two_pow_div, ← mul_two_pow_div, div_eq_div_iff (by positivity) (by positivity)] at heq
    exact_mod_cast heq
  have hsame := ofRatio_congr false (Nat.two_pow_pos _) (Nat.two_pow_pos _) hratio
  rw [ofRatio_finite false hm h, ofRatio_finite false hm' h'] at hsame
  cases hsame
  exact ⟨rfl, rfl⟩

/-- Finite floats are equal when they denote one number. -/
theorem eq_iff_toRat {f g : PyFloat} {x y : ℚ} (hf : f.toRat = some x) (hg : g.toRat = some y) : f.Eq g ↔ x = y := by
  cases f with
  | nan => cases hf
  | inf => cases hf
  | finite s m e h =>
    cases g with
    | nan => cases hg
    | inf => cases hg
    | finite s' m' e' h' =>
      show (finite s m e h = finite s' m' e' h' ∨ m = 0 ∧ m' = 0) ↔ x = y
      constructor
      · rintro (hsame | ⟨hm, hm'⟩)
        · rw [hsame, hg] at hf
          exact (Option.some.inj hf).symm
        · rw [toRat_zero_iff.2 hm] at hf
          rw [toRat_zero_iff.2 hm'] at hg
          exact (Option.some.inj hf).symm.trans (Option.some.inj hg)
      · rintro rfl
        by_cases hm : m = 0
        · have hx : x = 0 := by
            rw [toRat_zero_iff.2 hm] at hf
            exact (Option.some.inj hf).symm
          subst hx
          exact .inr ⟨hm, toRat_zero_iff.1 hg⟩
        -- the number is not zero: its sign and its magnitude determine the float
        · have hm' : m' ≠ 0 := by
            rintro rfl
            rw [toRat_zero_iff.2 rfl] at hg
            cases hg
            exact hm (toRat_zero_iff.1 hf)
          rw [toRat_finite, Option.some.injEq] at hf hg
          have hpos : (0 : ℚ) < m * 2 ^ e := by positivity
          have hpos' : (0 : ℚ) < m' * 2 ^ e' := by positivity
          have hsign : s = s' := by
            cases s <;> cases s' <;> first | rfl | (exfalso; simp only [if_true, Bool.false_eq_true, if_false] at hf hg; linarith)
          subst hsign
          have hmagnitude : (m : ℚ) * 2 ^ e = m' * 2 ^ e' := by
            cases s <;> simp only [if_true, Bool.false_eq_true, if_false] at hf hg <;> linarith
          rcases canonical_unique h h' hm hmagnitude with ⟨rfl, rfl⟩
          exact .inl rfl

/-- A number other than zero has one float. -/
theorem eq_of_toRat {f g : PyFloat} {x : ℚ} (hf : f.toRat = some x) (hg : g.toRat = some x) (hx : x ≠ 0) : f = g := by
  have heq := (eq_iff_toRat hf hg).2 rfl
  cases f with
  | nan => cases hf
  | inf => cases hf
  | finite s m e h =>
    cases g with
    | nan => cases hg
    | inf => cases hg
    | finite s' m' e' h' =>
      rcases heq with heq | ⟨hm, _⟩
      · exact heq
      · rw [toRat_zero_iff.2 hm] at hf
        exact absurd (Option.some.inj hf).symm hx

/-- A float equals an integer when it denotes it. -/
theorem eqInt_iff_toRat {f : PyFloat} {x : ℚ} (hf : f.toRat = some x) (n : Int) : f.EqInt n ↔ x = n := by
  cases f with
  | nan => cases hf
  | inf => cases hf
  | finite s m e h =>
    show (m * 2 ^ e.toNat = n.natAbs * 2 ^ (-e).toNat ∧ (n = 0 ∨ s = decide (n < 0))) ↔ x = n
    have hmagnitude : m * 2 ^ e.toNat = n.natAbs * 2 ^ (-e).toNat ↔ (m : ℚ) * 2 ^ e = |(n : ℚ)| := by
      rw [← mul_two_pow_div, div_eq_iff (by positivity), ← Int.cast_abs, Int.abs_eq_natAbs]
      constructor
      · intro heq
        exact_mod_cast heq
      · intro heq
        exact_mod_cast heq
    rw [toRat_finite, Option.some.injEq] at hf
    have hnonneg : (0 : ℚ) ≤ m * 2 ^ e := by positivity
    rw [hmagnitude, ← hf]
    rcases lt_trichotomy n 0 with hn | hn | hn
    · have hn' : (n : ℚ) < 0 := by exact_mod_cast hn
      rw [abs_of_neg hn']
      cases s
      · simp only [hn.ne, hn, decide_true, Bool.false_eq_true, if_false, false_or, and_false, false_iff]
        intro heq
        linarith
      · simp only [hn.ne, hn, decide_true, if_true, or_true, and_true]
        constructor <;> intro heq <;> linarith
    · subst hn
      cases s <;> simp
    · have hn' : (0 : ℚ) < n := by exact_mod_cast hn
      rw [abs_of_pos hn']
      cases s
      · simp [hn.ne', not_lt.2 hn.le]
      · simp only [hn.ne', not_lt.2 hn.le, decide_false, Bool.true_eq_false, false_or, and_false, if_true, false_iff]
        intro heq
        linarith

/-- Small integers are floats. -/
theorem toRat_ofInt {n : Nat} (h : n < 2 ^ 53) : ∃ f, ofInt n = some f ∧ f.toRat = some (n : ℚ) := by
  rcases Nat.eq_zero_or_pos n with rfl | hpos
  · exact ⟨zero false, rfl, by rw [zero, toRat_zero_iff.2 rfl]; rfl⟩
  have hn : n ≠ 0 := hpos.ne'
  have hlog : Nat.log2 n ≤ 52 := Nat.lt_succ_iff.1 ((Nat.log2_lt hn).2 h)
  -- the mantissa is `n`, shifted until it has 53 bits
  have hlow : 2 ^ 52 ≤ n * 2 ^ (52 - Nat.log2 n) := by
    calc 2 ^ 52 = 2 ^ Nat.log2 n * 2 ^ (52 - Nat.log2 n) := by rw [← pow_add]; congr 1; omega
      _ ≤ n * 2 ^ (52 - Nat.log2 n) := Nat.mul_le_mul_right _ (Nat.log2_self_le hn)
  have hhigh : n * 2 ^ (52 - Nat.log2 n) < 2 ^ 53 := by
    calc n * 2 ^ (52 - Nat.log2 n) < 2 ^ (Nat.log2 n + 1) * 2 ^ (52 - Nat.log2 n) :=
          Nat.mul_lt_mul_of_pos_right Nat.lt_log2_self (Nat.two_pow_pos _)
      _ = 2 ^ 53 := by rw [← pow_add]; congr 1; omega
  set m : Nat := n * 2 ^ (52 - Nat.log2 n) with hm
  set e : Int := -((52 - Nat.log2 n : Nat) : Int) with he
  have hcanonical : CanonicalFloat m e := ⟨hhigh, by omega, by omega, .inl hlow⟩
  have hm0 : m ≠ 0 := by omega
  have htoNat : e.toNat = 0 := by omega
  have hneg : (-e).toNat = 52 - Nat.log2 n := by omega
  have hread : ofRatio false n 1 = finite false m e hcanonical := by
    rw [← ofRatio_finite false hm0 hcanonical]
    apply ofRatio_congr false one_pos (Nat.two_pow_pos _)
    rw [htoNat, hneg, hm]
    ring
  refine ⟨finite false m e hcanonical, ?_, ?_⟩
  · have hsign : decide ((n : Int) < 0) = false := by simp
    unfold ofInt
    rw [hsign, Int.natAbs_natCast, hread]
  · have hvalue : (m : ℚ) * 2 ^ e = n := by
      rw [he, zpow_neg, zpow_natCast, hm]
      push_cast
      rw [mul_assoc, mul_inv_cancel₀ (by positivity), mul_one]
    rw [toRat_finite, if_neg Bool.false_ne_true, hvalue]

/-- A number on the extended line. -/
@[reducible] def onLine (x : ℚ) : WithBot (WithTop ℚ) := ((x : WithTop ℚ) : WithBot (WithTop ℚ))

/-- The number a float denotes on the extended line. -/
def number : PyFloat → Option (WithBot (WithTop ℚ))
  | nan => none
  | inf negative => some (if negative then ⊥ else ((⊤ : WithTop ℚ) : WithBot (WithTop ℚ)))
  | f => f.toRat.map onLine

theorem number_of_toRat {f : PyFloat} {x : ℚ} (h : f.toRat = some x) :
    f.number = some (onLine x) := by
  cases f with
  | nan => cases h
  | inf => cases h
  | finite s m e hc =>
    simp only [number, h, Option.map_some]

end PyFloat

namespace Num

/-- The number a finite value denotes. -/
def toRat : Num → Option ℚ
  | .int n => some n
  | .float f => f.toRat

def number : Num → Option (WithBot (WithTop ℚ))
  | .int n => some (PyFloat.onLine n)
  | .float f => f.number

/-- `a < b`; no number is less than NaN, nor greater. -/
def Lt (a b : Num) : Prop := ∃ x ∈ a.number, ∃ y ∈ b.number, x < y

/-- `a <= b` -/
def Le (a b : Num) : Prop := ∃ x ∈ a.number, ∃ y ∈ b.number, x ≤ y

instance (a b : Num) : Decidable (a.Lt b) := inferInstanceAs (Decidable (∃ x ∈ a.number, ∃ y ∈ b.number, x < y))

instance (a b : Num) : Decidable (a.Le b) := inferInstanceAs (Decidable (∃ x ∈ a.number, ∃ y ∈ b.number, x ≤ y))

/-- A finite value. -/
@[reducible] def Finite (a : Num) : Prop := a.toRat.isSome

/-- The number of a finite value. -/
def rank (a : Num) : ℚ := a.toRat.getD 0

variable {a : Num}

theorem toRat_rank (h : a.Finite) : a.toRat = some a.rank := by
  rcases Option.isSome_iff_exists.1 h with ⟨x, hx⟩
  rw [rank, hx]
  rfl

theorem number_rank (h : a.Finite) : a.number = some (PyFloat.onLine a.rank) := by
  have hrank := toRat_rank h
  cases a with
  | int n =>
    have hn : (n : ℚ) = rank (.int n) := Option.some.inj hrank
    show some (PyFloat.onLine n) = _
    rw [hn]
  | float f => exact PyFloat.number_of_toRat hrank

theorem lt_iff_rank {b : Num} (ha : a.Finite) (hb : b.Finite) : a.Lt b ↔ a.rank < b.rank := by
  unfold Lt
  rw [number_rank ha, number_rank hb]
  simp

theorem le_iff_rank {b : Num} (ha : a.Finite) (hb : b.Finite) : a.Le b ↔ a.rank ≤ b.rank := by
  unfold Le
  rw [number_rank ha, number_rank hb]
  simp

theorem eq_iff_rank {b : Num} (ha : a.Finite) (hb : b.Finite) : a.Eq b ↔ a.rank = b.rank := by
  have hra := toRat_rank ha
  have hrb := toRat_rank hb
  cases a with
  | int n =>
    have hn : (n : ℚ) = rank (.int n) := Option.some.inj hra
    cases b with
    | int k =>
      have hk : (k : ℚ) = rank (.int k) := Option.some.inj hrb
      rw [← hn, ← hk]
      exact Int.cast_inj.symm
    | float g =>
      rw [← hn]
      exact (PyFloat.eqInt_iff_toRat hrb n).trans eq_comm
  | float f =>
    cases b with
    | int k =>
      have hk : (k : ℚ) = rank (.int k) := Option.some.inj hrb
      rw [← hk]
      exact PyFloat.eqInt_iff_toRat hra k
    | float g => exact PyFloat.eq_iff_toRat hra hrb

theorem eq_refl (h : a.Finite) : a.Eq a := (eq_iff_rank h h).2 rfl

/-! ## The largest and the smallest of several numbers -/

section Choice

variable {α : Type} {r : α → α → Prop} [DecidableRel r]

/-- The first item to which no other is preferred. -/
def choice (r : α → α → Prop) [DecidableRel r] (first : α) (rest : List α) : α :=
  rest.foldl (fun best x => if r x best then x else best) first

theorem choice_mem (first : α) (rest : List α) : choice r first rest ∈ first :: rest := by
  induction rest generalizing first with
  | nil => exact List.mem_singleton.2 rfl
  | cons x rest ih =>
    have hstep : choice r first (x :: rest) = choice r (if r x first then x else first) rest := rfl
    rw [hstep]
    split
    · exact List.mem_cons_of_mem _ (ih x)
    · rcases List.mem_cons.1 (ih first) with hfirst | hrest
      · rw [hfirst]
        exact List.mem_cons_self
      · exact List.mem_cons_of_mem _ (List.mem_cons_of_mem _ hrest)

/-- When the items preferred are those of larger value, the choice is the largest. -/
theorem le_choice {v : α → ℚ} {P : α → Prop} (hprefer : ∀ a b, P a → P b → (r a b ↔ v b < v a)) {first : α}
    {rest : List α} (h : ∀ x ∈ first :: rest, P x) : ∀ x ∈ first :: rest, v x ≤ v (choice r first rest) := by
  induction rest generalizing first with
  | nil =>
    intro x hx
    rw [List.mem_singleton.1 hx]
    exact le_refl _
  | cons y rest ih =>
    have hfirst := h first List.mem_cons_self
    have hy := h y (List.mem_cons_of_mem _ List.mem_cons_self)
    have hrest : ∀ x ∈ rest, P x := fun x hx => h x (List.mem_cons_of_mem _ (List.mem_cons_of_mem _ hx))
    have hstep : choice r first (y :: rest) = choice r (if r y first then y else first) rest := rfl
    rw [hstep]
    intro x hx
    split
    · rename_i hlt
      rw [hprefer y first hy hfirst] at hlt
      have hall : ∀ x ∈ y :: rest, v x ≤ v (choice r y rest) :=
        ih fun x hx => (List.mem_cons.1 hx).elim (· ▸ hy) (hrest x)
      rcases List.mem_cons.1 hx with rfl | hx
      · exact hlt.le.trans (hall y List.mem_cons_self)
      · exact hall x hx
    · rename_i hle
      rw [hprefer y first hy hfirst] at hle
      have hall : ∀ x ∈ first :: rest, v x ≤ v (choice r first rest) :=
        ih fun x hx => (List.mem_cons.1 hx).elim (· ▸ hfirst) (hrest x)
      rcases List.mem_cons.1 hx with rfl | hx
      · exact hall x List.mem_cons_self
      rcases List.mem_cons.1 hx with rfl | hx
      · exact (not_lt.1 hle).trans (hall first List.mem_cons_self)
      · exact hall x (List.mem_cons_of_mem _ hx)

/-- Items that are related one by one give related choices. -/
theorem choice_related {β : Type} {s : β → β → Prop} [DecidableRel s] {R : α → β → Prop}
    (hprefer : ∀ a b c d, R a c → R b d → (r a b ↔ s c d)) {first : α} {rest : List α} {first' : β} {rest' : List β}
    (hfirst : R first first') (hrest : List.Forall₂ R rest rest') : R (choice r first rest) (choice s first' rest') := by
  induction hrest generalizing first first' with
  | nil => exact hfirst
  | @cons x y rest rest' hxy _ ih =>
    have hstep : choice r first (x :: rest) = choice r (if r x first then x else first) rest := rfl
    have hstep' : choice s first' (y :: rest') = choice s (if s y first' then y else first') rest' := rfl
    rw [hstep, hstep']
    by_cases hx : r x first
    · rw [if_pos hx, if_pos ((hprefer x first y first' hxy hfirst).1 hx)]
      exact ih hxy
    · rw [if_neg hx, if_neg fun hy => hx ((hprefer x first y first' hxy hfirst).2 hy)]
      exact ih hfirst

end Choice

/-- `max` of `first` and the numbers after it. -/
def maximum (first : Num) (rest : List Num) : Num := rest.foldl (fun best x => if best.Lt x then x else best) first

/-- `min` of `first` and the numbers after it. -/
def minimum (first : Num) (rest : List Num) : Num := rest.foldl (fun best x => if x.Lt best then x else best) first

theorem maximum_mem (first : Num) (rest : List Num) : maximum first rest ∈ first :: rest :=
  choice_mem (r := fun x best : Num => best.Lt x) first rest

theorem minimum_mem (first : Num) (rest : List Num) : minimum first rest ∈ first :: rest :=
  choice_mem (r := fun x best : Num => x.Lt best) first rest

theorem rank_le_maximum {first : Num} {rest : List Num} (h : ∀ x ∈ first :: rest, x.Finite) :
    ∀ x ∈ first :: rest, x.rank ≤ (maximum first rest).rank :=
  le_choice (r := fun x best : Num => best.Lt x) (v := rank) (fun _ _ ha hb => lt_iff_rank hb ha) h

theorem minimum_rank_le {first : Num} {rest : List Num} (h : ∀ x ∈ first :: rest, x.Finite) :
    ∀ x ∈ first :: rest, (minimum first rest).rank ≤ x.rank := by
  have hneg := le_choice (r := fun x best : Num => x.Lt best) (v := fun x => -x.rank)
    (fun a b ha hb => (lt_iff_rank ha hb).trans neg_lt_neg_iff.symm) h
  exact fun x hx => neg_le_neg_iff.1 (hneg x hx)

theorem maximum_append (first : Num) (rest rest' : List Num) :
    maximum first (rest ++ rest') = maximum (maximum first rest) rest' := List.foldl_append

theorem minimum_append (first : Num) (rest rest' : List Num) :
    minimum first (rest ++ rest') = minimum (minimum first rest) rest' := List.foldl_append

/-- `max(xs)` -/
def maximumOf (xs : List Num) (h : xs ≠ []) : Num := maximum (xs.head h) xs.tail

variable {xs : List Num}

theorem maximumOf_mem (h : xs ≠ []) : maximumOf xs h ∈ xs := by
  have hmem := maximum_mem (xs.head h) xs.tail
  rwa [List.cons_head_tail h] at hmem

theorem rank_le_maximumOf (h : xs ≠ []) (hfinite : ∀ x ∈ xs, x.Finite) :
    ∀ x ∈ xs, x.rank ≤ (maximumOf xs h).rank := by
  have hall := @rank_le_maximum (xs.head h) xs.tail
  rw [List.cons_head_tail h] at hall
  exact hall hfinite

/-! ## Sorting -/

/-- `sorted(xs, reverse=True)`: an item moves before another only when it is greater. -/
def descending (xs : List Num) : List Num := xs.insertionSort fun a b => ¬a.Lt b

theorem map_rank_descending (h : ∀ x ∈ xs, x.Finite) :
    (descending xs).map rank = (xs.map rank).insertionSort (· ≥ ·) := by
  apply List.map_insertionSort
  intro a ha b hb
  rw [lt_iff_rank (h a ha) (h b hb), not_lt]

@[simp] theorem mem_descending {x : Num} : x ∈ descending xs ↔ x ∈ xs := List.mem_insertionSort _

@[simp] theorem length_descending (xs : List Num) : (descending xs).length = xs.length := List.length_insertionSort _ _

end Num

/-! ## Order statistics -/

section OrderStatistic

variable {α : Type*} [LinearOrder α]

/-- At most `k` items of a descending list exceed the one at position `k`. -/
theorem countP_above_getElem {xs : List α} (h : xs.Pairwise (· ≥ ·)) {k : Nat} (hk : k < xs.length) :
    xs.countP (fun x => decide (xs[k] < x)) ≤ k := by
  have hsplit : xs.countP (fun x => decide (xs[k] < x)) =
      (xs.take k).countP (fun x => decide (xs[k] < x)) + (xs.drop k).countP (fun x => decide (xs[k] < x)) := by
    rw [← List.countP_append, List.take_append_drop]
  have htake : (xs.take k).countP (fun x => decide (xs[k] < x)) ≤ k :=
    List.countP_le_length.trans (List.length_take_le k xs)
  have hdrop : (xs.drop k).countP (fun x => decide (xs[k] < x)) = 0 := by
    rw [List.countP_eq_zero]
    intro x hx
    rw [List.drop_eq_getElem_cons hk] at hx
    have htail := List.Pairwise.sublist (List.drop_sublist k xs) h
    rw [List.drop_eq_getElem_cons hk, List.pairwise_cons] at htail
    rcases List.mem_cons.1 hx with rfl | hx
    · simp
    · simpa using htail.1 x hx
  omega

/-- Sorting does not see the order of the items. -/
theorem insertionSort_ge_perm {xs ys : List α} (h : xs.Perm ys) :
    xs.insertionSort (· ≥ ·) = ys.insertionSort (· ≥ ·) := by
  have hperm := ((List.perm_insertionSort (· ≥ ·) xs).trans h).trans (List.perm_insertionSort (· ≥ ·) ys).symm
  apply hperm.eq_of_pairwise _ (List.pairwise_insertionSort (· ≥ ·) xs) (List.pairwise_insertionSort (· ≥ ·) ys)
  intro a b _ _ hab hba
  exact le_antisymm hba hab

end OrderStatistic

end LeoFlow
