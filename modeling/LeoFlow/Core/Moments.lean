import LeoFlow.Core.FloatArith
import LeoFlow.Contracts.Validation

/-!
# LeoFlow.Core.Moments — covariance and variance in two arithmetics

A formula for pairs of flags, written once over an `Arithmetic`: in `floats` it is what
Python computes, in `exact` what it means. A sum does not depend on the order of its
terms in either, and the exact covariance of two flags lies between -1/4 and 1/4.
-/

namespace LeoFlow

namespace PyFloat

/-- `math.fsum`: the exact sum, rounded once. -/
def fsum (xs : List PyFloat) : Except PyError PyFloat :=
  if nan ∈ xs then .ok nan
  else if inf false ∈ xs ∧ inf true ∈ xs then .error (.value "-inf + inf in fsum")
  else if inf false ∈ xs then .ok (inf false)
  else if inf true ∈ xs then .ok (inf true)
  else
    match nearest (xs.map value).sum with
    | inf _ => .error (Num.overflowError "intermediate overflow in fsum")
    | sum => .ok sum

/-- `f / n` -/
def divNat (f : PyFloat) (n : Nat) : Except PyError PyFloat := do
  let g ← Num.toFloat (.int n)
  if g.IsZero then .error Num.zeroDivisionError else .ok (f.div g)

/-- `f ** 2`; a finite float with an infinite square is refused. -/
def square (f : PyFloat) : Except PyError PyFloat :=
  match f.mul f with
  | inf negative =>
    if f.IsFinite then .error (Num.overflowError "Numerical result out of range") else .ok (inf negative)
  | g => .ok g

/-- `math.sqrt`: the root to sixty bits and whether it is exact, rounded once. -/
def sqrt : PyFloat → Except PyError PyFloat
  | nan => .ok nan
  | inf false => .ok (inf false)
  | inf true => .error (.value "math domain error")
  | finite negative m e h =>
    if m = 0 then .ok (finite negative m e h)
    else if negative then .error (.value "math domain error")
    else
      let n := m * 2 ^ (e + 1200).toNat
      let root := n.sqrt
      .ok (ofRatio false (2 * root + if root * root = n then 0 else 1) (2 ^ 601))

theorem fsum_perm {xs ys : List PyFloat} (h : xs.Perm ys) : fsum xs = fsum ys := by
  unfold fsum
  simp only [h.mem_iff, (h.map value).sum_eq]

/-- The sign of a product does not depend on the order of its factors, and neither does its value. -/
theorem mul_comm (f g : PyFloat) : f.mul g = g.mul f := by
  cases f with
  | nan => cases g <;> rfl
  | inf s =>
    cases g with
    | nan => rfl
    | inf t => cases s <;> cases t <;> rfl
    | finite t m e h => cases s <;> cases t <;> rfl
  | finite s m e h =>
    cases g with
    | nan => rfl
    | inf t => cases s <;> cases t <;> rfl
    | finite t m' e' h' =>
      unfold mul
      dsimp only
      rw [Rat.mul_comm (value _) (value _)]
      cases s <;> cases t <;> rfl

end PyFloat

/-! ## One formula -/

/-- The operations of the formula. -/
structure Arithmetic (α : Type) where
  /-- `float(flag)` -/
  ofBool : Bool → α
  fsum : List α → Except PyError α
  /-- division by a length -/
  divNat : α → Nat → Except PyError α
  sub : α → α → α
  mul : α → α → α
  square : α → Except PyError α

/-- As Python computes. -/
def floats : Arithmetic PyFloat where
  ofBool flag := PyFloat.ofRatio false flag.toNat 1
  fsum := PyFloat.fsum
  divNat := PyFloat.divNat
  sub := PyFloat.sub
  mul := PyFloat.mul
  square := PyFloat.square

/-- Without rounding. -/
def exact : Arithmetic ℚ where
  ofBool flag := flag.toNat
  fsum xs := .ok xs.sum
  divNat x n := if n = 0 then .error Num.zeroDivisionError else .ok (x / n)
  sub x y := x - y
  mul x y := x * y
  square x := .ok (x ^ 2)

structure Moments (α : Type) where
  cov : α
  left_var : α
  right_var : α

namespace Arithmetic

variable {α : Type} (A : Arithmetic α)

/-- `math.fsum(xs) / len(xs)` -/
def mean (xs : List α) : Except PyError α := do
  let total ← A.fsum xs
  A.divNat total xs.length

/-- The mean of the squared distances from `center`. -/
def variance (xs : List α) (center : α) : Except PyError α := do
  let squares ← xs.mapM fun x => A.square (A.sub x center)
  A.mean squares

/-- The distances of both columns from their means, multiplied row by row. -/
def products (shared : List (Bool × Bool)) (left_mean right_mean : α) : List α :=
  shared.map fun x => A.mul (A.sub (A.ofBool x.1) left_mean) (A.sub (A.ofBool x.2) right_mean)

/-- Covariance and variances of the flags of shared rows. -/
def moments (shared : List (Bool × Bool)) : Except PyError (Moments α) := do
  let left_mean ← A.mean (shared.map fun x => A.ofBool x.1)
  let right_mean ← A.mean (shared.map fun x => A.ofBool x.2)
  let cov ← A.mean (A.products shared left_mean right_mean)
  let left_var ← A.variance (shared.map fun x => A.ofBool x.1) left_mean
  let right_var ← A.variance (shared.map fun x => A.ofBool x.2) right_mean
  return ⟨cov, left_var, right_var⟩

/-- Sums ignore the order of their terms, products that of their factors. -/
structure Commutative : Prop where
  fsum_perm {xs ys : List α} : xs.Perm ys → A.fsum xs = A.fsum ys
  mul_comm (x y : α) : A.mul x y = A.mul y x

end Arithmetic

theorem commutative_floats : floats.Commutative := ⟨PyFloat.fsum_perm, PyFloat.mul_comm⟩

theorem commutative_exact : exact.Commutative := ⟨fun h => congrArg Except.ok h.sum_eq, mul_comm⟩

/-- Conversion item by item keeps a permutation. -/
theorem mapM_perm {ε α β : Type} {f : α → Except ε β} {xs ys : List α} (h : xs.Perm ys) {zs : List β}
    (hzs : xs.mapM f = .ok zs) : ∃ zs', ys.mapM f = .ok zs' ∧ zs.Perm zs' := by
  induction h generalizing zs with
  | nil => exact ⟨zs, hzs, .refl _⟩
  | cons x _ ih =>
    rw [List.mapM_cons] at hzs
    rcases bind_ok.1 hzs with ⟨z, hz, hrest⟩
    rcases bind_ok.1 hrest with ⟨rest, hmap, hnil⟩
    cases hnil
    rcases ih hmap with ⟨rest', hmap', hperm⟩
    exact ⟨z :: rest', mapM_ok.2 (.cons hz (mapM_ok.1 hmap')), hperm.cons z⟩
  | swap x y l =>
    rcases List.forall₂_cons_left_iff.1 (mapM_ok.1 hzs) with ⟨z, zs₁, hz, hzs₁, rfl⟩
    rcases List.forall₂_cons_left_iff.1 hzs₁ with ⟨w, rest, hw, hrest, rfl⟩
    exact ⟨w :: z :: rest, mapM_ok.2 (.cons hw (.cons hz hrest)), .swap w z rest⟩
  | trans _ _ ih ih' =>
    rcases ih hzs with ⟨zs₁, hzs₁, hperm₁⟩
    rcases ih' hzs₁ with ⟨zs₂, hzs₂, hperm₂⟩
    exact ⟨zs₂, hzs₂, hperm₁.trans hperm₂⟩

namespace Arithmetic

variable {α : Type} {A : Arithmetic α} {shared shared' : List (Bool × Bool)} {m : Moments α}

theorem moments_ok : A.moments shared = .ok m ↔ ∃ left_mean right_mean,
    A.mean (shared.map fun x => A.ofBool x.1) = .ok left_mean ∧
      A.mean (shared.map fun x => A.ofBool x.2) = .ok right_mean ∧
      A.mean (A.products shared left_mean right_mean) = .ok m.cov ∧
      A.variance (shared.map fun x => A.ofBool x.1) left_mean = .ok m.left_var ∧
      A.variance (shared.map fun x => A.ofBool x.2) right_mean = .ok m.right_var := by
  constructor
  · intro h
    rcases bind_ok.1 h with ⟨left_mean, hleft_mean, h1⟩
    rcases bind_ok.1 h1 with ⟨right_mean, hright_mean, h2⟩
    rcases bind_ok.1 h2 with ⟨cov, hcov, h3⟩
    rcases bind_ok.1 h3 with ⟨left_var, hleft_var, h4⟩
    rcases bind_ok.1 h4 with ⟨right_var, hright_var, h5⟩
    cases h5
    exact ⟨left_mean, right_mean, hleft_mean, hright_mean, hcov, hleft_var, hright_var⟩
  · rintro ⟨left_mean, right_mean, hleft_mean, hright_mean, hcov, hleft_var, hright_var⟩
    exact bind_ok.2 ⟨left_mean, hleft_mean, bind_ok.2 ⟨right_mean, hright_mean, bind_ok.2 ⟨m.cov, hcov,
      bind_ok.2 ⟨m.left_var, hleft_var, bind_ok.2 ⟨m.right_var, hright_var, rfl⟩⟩⟩⟩⟩

theorem Commutative.mean (hA : A.Commutative) {xs ys : List α} (h : xs.Perm ys) : A.mean xs = A.mean ys := by
  unfold Arithmetic.mean
  rw [hA.fsum_perm h, h.length_eq]

theorem Commutative.variance (hA : A.Commutative) {xs ys : List α} (h : xs.Perm ys) {center v : α}
    (hv : A.variance xs center = .ok v) : A.variance ys center = .ok v := by
  rcases bind_ok.1 hv with ⟨squares, hsquares, hmean⟩
  rcases mapM_perm h hsquares with ⟨squares', hsquares', hperm⟩
  refine bind_ok.2 ⟨squares', hsquares', ?_⟩
  rw [← hA.mean hperm]
  exact hmean

/-- The moments do not depend on the order of the rows. -/
theorem Commutative.moments (hA : A.Commutative) (h : shared.Perm shared') (hm : A.moments shared = .ok m) :
    A.moments shared' = .ok m := by
  rcases moments_ok.1 hm with ⟨left_mean, right_mean, hleft, hright, hcov, hleft_var, hright_var⟩
  refine moments_ok.2 ⟨left_mean, right_mean, ?_, ?_, ?_, ?_, ?_⟩
  · rw [← hA.mean (h.map _)]
    exact hleft
  · rw [← hA.mean (h.map _)]
    exact hright
  · have hproducts : (A.products shared left_mean right_mean).Perm (A.products shared' left_mean right_mean) :=
      h.map _
    rw [← hA.mean hproducts]
    exact hcov
  · exact hA.variance (h.map _) hleft_var
  · exact hA.variance (h.map _) hright_var

/-- With the columns exchanged the covariance is the same, and the variances are exchanged. -/
theorem Commutative.moments_swap (hA : A.Commutative) (hm : A.moments shared = .ok m) :
    A.moments (shared.map Prod.swap) = .ok ⟨m.cov, m.right_var, m.left_var⟩ := by
  rcases moments_ok.1 hm with ⟨left_mean, right_mean, hleft, hright, hcov, hleft_var, hright_var⟩
  have hfirst : (shared.map Prod.swap).map (fun x => A.ofBool x.1) = shared.map fun x => A.ofBool x.2 :=
    List.map_map
  have hsecond : (shared.map Prod.swap).map (fun x => A.ofBool x.2) = shared.map fun x => A.ofBool x.1 :=
    List.map_map
  have hproducts : A.products (shared.map Prod.swap) right_mean left_mean = A.products shared left_mean right_mean := by
    unfold products
    rw [List.map_map]
    exact List.map_congr_left fun x _ => hA.mul_comm _ _
  refine moments_ok.2 ⟨right_mean, left_mean, ?_, ?_, ?_, ?_, ?_⟩
  · rw [hfirst]
    exact hright
  · rw [hsecond]
    exact hleft
  · rw [hproducts]
    exact hcov
  · rw [hfirst]
    exact hright_var
  · rw [hsecond]
    exact hleft_var

end Arithmetic

/-! ## The exact covariance -/

/-- The number of rows with a flag. -/
theorem sum_flags {ι : Type} (rows : List ι) (flag : ι → Bool) :
    (rows.map fun x => ((flag x).toNat : ℚ)).sum = rows.countP flag := by
  induction rows with
  | nil => simp
  | cons x rows ih =>
    rw [List.map_cons, List.sum_cons, ih, List.countP_cons]
    cases flag x
    · simp
    · simp
      ring

theorem exact_mean {xs : List ℚ} {mean : ℚ} (h : exact.mean xs = .ok mean) :
    xs.length ≠ 0 ∧ mean * xs.length = xs.sum := by
  rcases bind_ok.1 h with ⟨total, htotal, hover⟩
  cases htotal
  have hdivide : (if xs.length = 0 then Except.error Num.zeroDivisionError else .ok (xs.sum / xs.length)) =
      .ok mean := hover
  split at hdivide
  · cases hdivide
  · rename_i hlength
    cases hdivide
    have hne : (xs.length : ℚ) ≠ 0 := Nat.cast_ne_zero.2 hlength
    exact ⟨hlength, div_mul_cancel₀ _ hne⟩

/-- Sums over rows of pairs of flags, by how many rows have which. -/
theorem sum_products (shared : List (Bool × Bool)) (x y : ℚ) :
    (exact.products shared x y).sum = shared.countP (fun r => r.1 && r.2) - y * shared.countP Prod.fst -
      x * shared.countP Prod.snd + x * y * shared.length := by
  induction shared with
  | nil => simp [Arithmetic.products]
  | cons r shared ih =>
    have hcons : (exact.products (r :: shared) x y).sum =
        (r.1.toNat - x) * (r.2.toNat - y) + (exact.products shared x y).sum := rfl
    rw [hcons, ih, List.countP_cons, List.countP_cons, List.countP_cons, List.length_cons]
    rcases r with ⟨_ | _, _ | _⟩
    · simp
      ring
    · simp
      ring
    · simp
      ring
    · simp
      ring

/-- The rows with the first flag, the second, both, and neither. -/
theorem countP_flags (shared : List (Bool × Bool)) :
    shared.countP (fun r => r.1 && r.2) ≤ shared.countP Prod.fst ∧
      shared.countP (fun r => r.1 && r.2) ≤ shared.countP Prod.snd ∧
      shared.countP Prod.fst + shared.countP Prod.snd ≤ shared.length + shared.countP (fun r => r.1 && r.2) := by
  induction shared with
  | nil => simp
  | cons r shared ih =>
    simp only [List.countP_cons, List.length_cons]
    rcases r with ⟨_ | _, _ | _⟩
    all_goals
      simp
      omega

/-- A joint frequency is that far from the product at most. -/
theorem frequency_bounds {p x y : ℚ} (h0 : 0 ≤ p) (hx : p ≤ x) (hy : p ≤ y) (hxy : x + y ≤ 1 + p) :
    -(1 / 4) ≤ p - x * y ∧ p - x * y ≤ 1 / 4 := by
  constructor
  · rcases le_total (x + y) 1 with hlow | hhigh
    · -- at most one half each on average
      nlinarith [sq_nonneg (x - y), mul_nonneg (sub_nonneg.2 hlow) (add_nonneg (h0.trans hx) (h0.trans hy))]
    · -- the same for the complements
      nlinarith [sq_nonneg (x - y), mul_nonneg (sub_nonneg.2 hhigh) (by linarith : 0 ≤ 2 - (x + y))]
  · rcases le_total x y with hle | hle
    · nlinarith [sq_nonneg (x - 1 / 2), mul_nonneg (h0.trans hx) (sub_nonneg.2 hle)]
    · nlinarith [sq_nonneg (y - 1 / 2), mul_nonneg (h0.trans hy) (sub_nonneg.2 hle)]

/-- The exact covariance of two flags. -/
theorem exact_cov_bounds {shared : List (Bool × Bool)} {m : Moments ℚ} (h : exact.moments shared = .ok m) :
    -(1 / 4) ≤ m.cov ∧ m.cov ≤ 1 / 4 := by
  rcases Arithmetic.moments_ok.1 h with ⟨left_mean, right_mean, hleft, hright, hcov, _, _⟩
  have hsumLeft : ((shared.map fun x => exact.ofBool x.1).sum : ℚ) = shared.countP Prod.fst := sum_flags shared _
  have hsumRight : ((shared.map fun x => exact.ofBool x.2).sum : ℚ) = shared.countP Prod.snd := sum_flags shared _
  rcases exact_mean hleft with ⟨hlength, hleft'⟩
  have hright' := (exact_mean hright).2
  have hcov' := (exact_mean hcov).2
  have hproducts : (exact.products shared left_mean right_mean).length = shared.length := List.length_map _
  rw [List.length_map] at hlength
  rw [List.length_map, hsumLeft] at hleft'
  rw [List.length_map, hsumRight] at hright'
  rw [hproducts, sum_products] at hcov'
  have hn : (0 : ℚ) < shared.length := Nat.cast_pos.2 (Nat.pos_of_ne_zero hlength)
  rcases countP_flags shared with ⟨hboth, hboth', hneither⟩
  have hboth : (shared.countP (fun r => r.1 && r.2) : ℚ) ≤ left_mean * shared.length := by
    rw [hleft']
    exact_mod_cast hboth
  have hboth' : (shared.countP (fun r => r.1 && r.2) : ℚ) ≤ right_mean * shared.length := by
    rw [hright']
    exact_mod_cast hboth'
  have hneither : left_mean * shared.length + right_mean * shared.length ≤
      shared.length + shared.countP (fun r => r.1 && r.2) := by
    rw [hleft', hright']
    exact_mod_cast hneither
  -- with frequencies in place of counts
  have hfrequency : m.cov = (shared.countP fun r => r.1 && r.2) / shared.length - left_mean * right_mean := by
    field_simp
    rw [← hleft', ← hright'] at hcov'
    linarith
  rw [hfrequency]
  refine frequency_bounds (div_nonneg (Nat.cast_nonneg _) hn.le) ((div_le_iff₀ hn).2 hboth)
    ((div_le_iff₀ hn).2 hboth') ?_
  rw [← sub_le_iff_le_add', le_div_iff₀ hn]
  linarith

end LeoFlow
