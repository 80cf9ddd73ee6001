import LeoFlow.Core.Value

/-!
# LeoFlow.Contracts.Validation — checked value objects

A frozen dataclass is its fields together with the fact that `__post_init__`
accepts them (`Checked`). `__post_init__` is a list of checks of which the first
failing one raises; the checks here are those of `contracts/_validation.py`.
-/

namespace LeoFlow

/-- `if bad: raise e` -/
def raiseIf (bad : Prop) [Decidable bad] (e : PyError) : Except PyError Unit :=
  if bad then .error e else .ok ()

/-- Checks in order: the first error is raised. -/
def checkAll : List (Except PyError Unit) → Except PyError Unit
  | [] => .ok ()
  | .ok () :: rest => checkAll rest
  | .error e :: _ => .error e

variable {e : PyError}

@[simp] theorem raiseIf_ok {bad : Prop} [Decidable bad] :
    raiseIf bad e = .ok () ↔ ¬bad := by
  unfold raiseIf
  split <;> simp_all

@[simp] theorem checkAll_nil : checkAll [] = .ok () := rfl

variable {c : Except PyError Unit} {cs : List (Except PyError Unit)}

@[simp] theorem checkAll_cons :
    checkAll (c :: cs) = .ok () ↔ c = .ok () ∧ checkAll cs = .ok () := by
  rcases c with e | ⟨⟩
  · simp [checkAll]
  · simp [checkAll]

theorem ok_of_checkAll (h : checkAll cs = .ok ()) (hc : c ∈ cs) :
    c = .ok () := by
  induction cs with
  | nil => cases hc
  | cons d cs ih =>
    obtain ⟨hd, hcs⟩ := checkAll_cons.1 h
    rcases List.mem_cons.1 hc with rfl | hc
    · exact hd
    · exact ih hcs hc

@[simp] theorem checkAll_map {α : Type} {f : α → Except PyError Unit} {xs : List α} :
    checkAll (xs.map f) = .ok () ↔ ∀ x ∈ xs, f x = .ok () := by
  induction xs with
  | nil => simp
  | cons x xs ih => simp [ih]

theorem raiseIf_error_iff {bad : Prop} [Decidable bad] {e' : PyError} :
    raiseIf bad e = .error e' ↔ bad ∧ e = e' := by
  unfold raiseIf
  split <;> simp_all

theorem checkAll_cons_error_iff :
    checkAll (c :: cs) = .error e ↔ c = .error e ∨ c = .ok () ∧ checkAll cs = .error e := by
  rcases c with e' | ⟨⟩
  · simp [checkAll]
  · simp [checkAll]

theorem raisesOnly_raiseIf {P : ErrorKind → Prop} {bad : Prop} [Decidable bad] (h : P e.kind) :
    RaisesOnly P (raiseIf bad e) := by
  unfold raiseIf
  split
  · exact raisesOnly_error h
  · exact raisesOnly_ok ()

theorem raisesOnly_checkAll {P : ErrorKind → Prop} (h : ∀ c ∈ cs, RaisesOnly P c) : RaisesOnly P (checkAll cs) := by
  induction cs with
  | nil => exact raisesOnly_ok ()
  | cons c cs ih =>
    have hc := h c List.mem_cons_self
    cases c with
    | error e => exact hc
    | ok u => exact ih fun c hc => h c (List.mem_cons_of_mem _ hc)

/-- What a sequence of raising steps returned. -/
theorem bind_ok {ε α β : Type} {x : Except ε α} {f : α → Except ε β} {b : β} :
    (x >>= f) = .ok b ↔ ∃ a, x = .ok a ∧ f a = .ok b := by
  cases x with
  | error e => simp [Bind.bind, Except.bind]
  | ok a => simp [Bind.bind, Except.bind]

/-- Every item was converted. -/
theorem mapM_ok {ε α β : Type} {f : α → Except ε β} {xs : List α} {ys : List β} :
    xs.mapM f = .ok ys ↔ List.Forall₂ (fun x y => f x = .ok y) xs ys := by
  induction xs generalizing ys with
  | nil =>
    rw [List.mapM_nil, List.forall₂_nil_left_iff]
    constructor
    · intro h
      cases h
      rfl
    · rintro rfl
      rfl
  | cons x xs ih =>
    rw [List.mapM_cons, List.forall₂_cons_left_iff]
    constructor
    · intro h
      obtain ⟨y, hy, h⟩ := bind_ok.1 h
      obtain ⟨zs, hzs, h⟩ := bind_ok.1 h
      cases h
      exact ⟨y, zs, hy, ih.1 hzs, rfl⟩
    · rintro ⟨y, zs, hy, hzs, rfl⟩
      exact bind_ok.2 ⟨y, hy, bind_ok.2 ⟨zs, ih.2 hzs, rfl⟩⟩

/-- Every item can be converted. -/
theorem exists_mapM_ok {ε α β : Type} {f : α → Except ε β} {xs : List α}
    (h : ∀ x ∈ xs, ∃ y, f x = .ok y) : ∃ ys, xs.mapM f = .ok ys := by
  induction xs with
  | nil => exact ⟨[], rfl⟩
  | cons x xs ih =>
    obtain ⟨y, hy⟩ := h x List.mem_cons_self
    obtain ⟨ys, hys⟩ := ih fun x hx => h x (List.mem_cons_of_mem _ hx)
    exact ⟨y :: ys, mapM_ok.2 (.cons hy (mapM_ok.1 hys))⟩

theorem map_of_forall₂ {α β γ : Type} {R : α → β → Prop} {f : α → γ} {g : β → γ} {xs : List α} {ys : List β}
    (h : List.Forall₂ R xs ys) (hR : ∀ x y, R x y → g y = f x) : ys.map g = xs.map f := by
  induction h with
  | nil => rfl
  | cons hxy _ ih => rw [List.map_cons, List.map_cons, hR _ _ hxy, ih]

/-- Each item's counterpart has one under another relation. -/
theorem exists_forall₂ {α β γ : Type} {R : α → β → Prop} {S : α → γ → Prop} {T : β → γ → Prop} {xs : List α} {ys : List β}
    (h : List.Forall₂ R xs ys) (hR : ∀ x y, R x y → ∃ z, S x z ∧ T y z) : ∃ zs, List.Forall₂ S xs zs ∧ List.Forall₂ T ys zs := by
  induction h with
  | nil => exact ⟨[], .nil, .nil⟩
  | cons hxy _ ih =>
    obtain ⟨z, hS, hT⟩ := hR _ _ hxy
    obtain ⟨zs, hSs, hTs⟩ := ih
    exact ⟨z :: zs, .cons hS hSs, .cons hT hTs⟩

section Fold

variable {ε σ α β : Type} {g : α → Except ε β} {step : σ → β → Except ε σ} {s s' : σ}

/-- A conversion inside a fold can be done before it. -/
theorem foldlM_convert {xs : List α} :
    xs.foldlM (fun s x => g x >>= step s) s = .ok s' ↔ ∃ ys, xs.mapM g = .ok ys ∧ ys.foldlM step s = .ok s' := by
  induction xs generalizing s with
  | nil =>
    constructor
    · intro h
      exact ⟨[], rfl, h⟩
    · rintro ⟨ys, hys, h⟩
      cases hys
      exact h
  | cons x xs ih =>
    rw [List.foldlM_cons]
    constructor
    · intro h
      rcases bind_ok.1 h with ⟨u, hu, hrest⟩
      rcases bind_ok.1 hu with ⟨y, hy, hstep⟩
      rcases ih.1 hrest with ⟨ys, hys, hfold⟩
      refine ⟨y :: ys, mapM_ok.2 (.cons hy (mapM_ok.1 hys)), ?_⟩
      rw [List.foldlM_cons]
      exact bind_ok.2 ⟨u, hstep, hfold⟩
    · rintro ⟨zs, hzs, hfold⟩
      rcases List.forall₂_cons_left_iff.1 (mapM_ok.1 hzs) with ⟨y, ys, hy, hys, rfl⟩
      rw [List.foldlM_cons] at hfold
      rcases bind_ok.1 hfold with ⟨u, hstep, hrest⟩
      exact bind_ok.2 ⟨u, bind_ok.2 ⟨y, hy, hstep⟩, ih.2 ⟨ys, mapM_ok.2 hys, hrest⟩⟩

/-- Rounds that accept the same make folds that accept the same. -/
theorem foldlM_congr_ok {f f' : σ → α → Except ε σ} (h : ∀ s x s', f s x = .ok s' ↔ f' s x = .ok s')
    {xs : List α} : xs.foldlM f s = .ok s' ↔ xs.foldlM f' s = .ok s' := by
  induction xs generalizing s with
  | nil => exact Iff.rfl
  | cons x xs ih =>
    rw [List.foldlM_cons, List.foldlM_cons, bind_ok, bind_ok]
    exact exists_congr fun u => and_congr (h s x u) ih

/-- A fold over lists is one over their items. -/
theorem foldlM_lists (xss : List (List β)) :
    xss.foldlM (fun s xs => xs.foldlM step s) s = xss.flatten.foldlM step s := by
  induction xss generalizing s with
  | nil => rfl
  | cons xs xss ih =>
    rw [List.foldlM_cons, List.flatten_cons, List.foldlM_append]
    exact bind_congr fun u => ih

end Fold

theorem ok_bind {ε α β : Type} (a : α) (f : α → Except ε β) : (Except.ok a >>= f) = f a := rfl

theorem exists_bind_ok {ε α β : Type} {x : Except ε α} {f : α → Except ε β} {a : α} (hx : x = .ok a)
    (hf : ∃ b, f a = .ok b) : ∃ b, x >>= f = .ok b := by
  obtain ⟨b, hb⟩ := hf
  exact ⟨b, bind_ok.2 ⟨a, hx, hb⟩⟩

theorem mem_toOption {ε α : Type} {x : Except ε α} {a : α} : a ∈ x.toOption ↔ x = .ok a := by
  cases x with
  | ok b => simp [Except.toOption]
  | error e => simp [Except.toOption]

theorem map_ok {ε α β : Type} {x : Except ε α} {f : α → β} {b : β} (h : x.map f = .ok b) :
    ∃ a, x = .ok a ∧ b = f a := by
  cases x with
  | error e => cases h
  | ok a => exact ⟨a, rfl, (Except.ok.inj h).symm⟩

/-- A dataclass instance: fields that pass `__post_init__`. -/
structure Checked {α : Type} (post_init : α → Except PyError Unit) where
  val : α
  ok : post_init val = .ok ()

namespace Checked

variable {α : Type} {post_init : α → Except PyError Unit}

/-- The constructor call. -/
def make (post_init : α → Except PyError Unit) (fields : α) : Except PyError (Checked post_init) :=
  match h : post_init fields with
  | .ok () => .ok ⟨fields, h⟩
  | .error e => .error e

theorem make_ok {fields : α} (h : post_init fields = .ok ()) :
    make post_init fields = .ok ⟨fields, h⟩ := by
  unfold make
  split
  · rfl
  · rename_i e he
    rw [h] at he
    cases he

theorem make_val (x : Checked post_init) : make post_init x.val = .ok x := make_ok x.ok

theorem val_of_make {fields : α} {x : Checked post_init} (h : make post_init fields = .ok x) :
    x.val = fields := by
  unfold make at h
  split at h
  · cases h
    rfl
  · cases h

theorem make_error_iff {fields : α} :
    make post_init fields = .error e ↔ post_init fields = .error e := by
  cases h : post_init fields with
  | ok u =>
    rw [make_ok h]
    simp
  | error e' =>
    unfold make
    split
    · rename_i hok
      rw [h] at hok
      cases hok
    · rename_i e'' herror
      rw [h] at herror
      cases herror
      simp

theorem raisesOnly_make {P : ErrorKind → Prop} {fields : α} (h : RaisesOnly P (post_init fields)) :
    RaisesOnly P (make post_init fields) := by
  unfold make
  split
  · exact raisesOnly_ok _
  · rename_i e he
    exact raisesOnly_error (h e he)

@[ext] theorem ext {x y : Checked post_init} (h : x.val = y.val) : x = y := by
  rcases x with ⟨x, hx⟩
  rcases y with ⟨y, hy⟩
  cases h
  rfl

instance [DecidableEq α] : DecidableEq (Checked post_init) := fun x y =>
  decidable_of_iff (x.val = y.val) ⟨ext, fun h => h ▸ rfl⟩

end Checked

def Num.toValue : Num → PyValue
  | .int n => .int n
  | .float f => .float f

namespace PyValue

/-- Any Python value that a tag may hold. -/
abbrev Any := { v : PyValue // v.Valid }

/-- `tuple[tuple[str, Any], ...]` -/
abbrev Pairs := List (PyStr × Any)

/-- The tuple of key-value tuples. -/
def ofPairs (pairs : Pairs) : PyValue := .tuple (pairs.map fun x => .tuple [.str x.1, x.2.val])

/-- A dictionary from its keys and values. -/
def object (fields : List (String × PyValue)) : PyValue := .dict (fields.map fun x => (LeoFlow.str x.1, x.2))

/-- A dataclass instance from its field names and values. -/
def dataclass (cls : String) (fields : List (String × PyValue)) : PyValue :=
  .record cls (fields.map fun x => (LeoFlow.str x.1, x.2))

end PyValue

/-- `require_finite` -/
def requireFinite (value : Num) (field : String) : Except PyError Unit :=
  match value with
  | .int _ => .ok ()
  | .float f => raiseIf (¬f.IsFinite) (.value (field ++ " must be finite"))

/-- `require_positive` -/
def requirePositive (value : Num) (field : String) : Except PyError Unit :=
  match value with
  | .int n => raiseIf (n ≤ 0) (.value (field ++ " must be positive"))
  | .float f =>
    checkAll [raiseIf (¬f.IsFinite) (.value (field ++ " must be finite")),
      raiseIf (¬f.IsPositive) (.value (field ++ " must be positive"))]

/-- `require_nonnegative` of an `int` -/
def requireNonnegative (value : Int) (field : String) : Except PyError Unit :=
  raiseIf (value < 0) (.value (field ++ " must be non-negative"))

/-- `require_utc_ns` -/
def requireUtcNs (value : Int) (field : String) : Except PyError Unit :=
  raiseIf (value < 0) (.value (field ++ " must be a non-negative UTC nanosecond integer"))

/-- `require_token` -/
def requireToken (value : PyStr) (isToken : PyStr → Prop) [DecidablePred isToken] (field : String) :
    Except PyError Unit :=
  raiseIf (¬isToken value) (.value (field ++ " must be a non-empty portable token"))

/-- `math.isfinite` of every value, in order; an `int` is converted to `float` first. -/
def requireIsfinite (values : List Num) (message : String) : Except PyError Unit :=
  checkAll (values.map fun v =>
    match v with
    | .int n => raiseIf (PyFloat.ofInt n = none) ⟨.overflow_error, "int too large to convert to float"⟩
    | .float f => raiseIf (¬f.IsFinite) (.value message))

end LeoFlow
