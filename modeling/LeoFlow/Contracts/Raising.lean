import LeoFlow.Contracts.Interpreter
import LeoFlow.Core.FloatArith

/-!
# LeoFlow.Contracts.Raising — what the contracts raise

The decoders catch `KeyError`, `TypeError` and `ValueError` around the contracts they
build (`Caught`). What the contracts raise beyond that is an `ArithmeticError`: an
integer that no float can hold, or a result past the largest float.
-/

namespace LeoFlow

variable {α β : Type}

/-- Nothing is raised but what `except (KeyError, TypeError, ValueError)` catches. -/
@[reducible] def Caught (x : Except PyError α) : Prop := RaisesOnly IsWireError x

/-- Nothing is raised but that and an `ArithmeticError`. -/
@[reducible] def Computes (x : Except PyError α) : Prop := RaisesOnly (fun k => IsWireError k ∨ IsArithmeticError k) x

/-- An `ArithmeticError` is raised. -/
def Overflows (x : Except PyError α) : Prop := ∃ e, x = .error e ∧ IsArithmeticError e.kind

variable {x : Except PyError α}

theorem Caught.computes (h : Caught x) : Computes x := fun e he => .inl (h e he)

theorem not_isWireError {k : ErrorKind} (h : IsArithmeticError k) : ¬IsWireError k := by
  rcases h with rfl | rfl <;> decide

theorem Caught.not_overflows (h : Caught x) : ¬Overflows x := by
  rintro ⟨e, he, hkind⟩
  exact not_isWireError hkind (h e he)

theorem caught_iff (h : Computes x) : Caught x ↔ ¬Overflows x := by
  constructor
  · exact Caught.not_overflows
  · intro hno e he
    rcases h e he with hwire | harithmetic
    · exact hwire
    · exact absurd ⟨e, he, harithmetic⟩ hno

theorem map_ok_iff {f : α → β} {b : β} : x.map f = .ok b ↔ ∃ a, x = .ok a ∧ f a = b := by
  constructor
  · intro h
    rcases map_ok h with ⟨a, ha, rfl⟩
    exact ⟨a, ha, rfl⟩
  · rintro ⟨a, rfl, rfl⟩
    rfl

theorem overflows_bind {f : α → Except PyError β} :
    Overflows (x >>= f) ↔ Overflows x ∨ ∃ a, x = .ok a ∧ Overflows (f a) := by
  cases x with
  | error e =>
    constructor
    · rintro ⟨e', he, hkind⟩
      cases he
      exact .inl ⟨e, rfl, hkind⟩
    · rintro (⟨e', he, hkind⟩ | ⟨a, ha, _⟩)
      · cases he
        exact ⟨e, rfl, hkind⟩
      · cases ha
  | ok a =>
    constructor
    · intro h
      exact .inr ⟨a, rfl, h⟩
    · rintro (⟨e', he, _⟩ | ⟨b, hb, h⟩)
      · cases he
      · cases hb
        exact h

theorem overflows_map {f : α → β} : Overflows (x.map f) ↔ Overflows x := by
  cases x with
  | error e =>
    constructor <;> rintro ⟨e', he, hkind⟩ <;> cases he <;> exact ⟨e, rfl, hkind⟩
  | ok a => constructor <;> rintro ⟨e', he, _⟩ <;> cases he

/-! ## Rules -/

theorem caught_value (message : String) : Caught (.error (.value message) : Except PyError α) :=
  raisesOnly_error (.inr (.inr (.inl rfl)))

theorem caught_type (message : String) : Caught (.error (.type message) : Except PyError α) :=
  raisesOnly_error (.inr (.inl rfl))

@[simp] theorem caught_raiseIf {bad : Prop} [Decidable bad] {message : String} : Caught (raiseIf bad (.value message)) :=
  raisesOnly_raiseIf (.inr (.inr (.inl rfl)))

theorem caught_checkAll {cs : List (Except PyError Unit)} (h : ∀ c ∈ cs, Caught c) : Caught (checkAll cs) :=
  raisesOnly_checkAll h

variable {field : String}

@[simp] theorem caught_requireToken {value : PyStr} {isToken : PyStr → Prop} [DecidablePred isToken] :
    Caught (requireToken value isToken field) := caught_raiseIf

@[simp] theorem caught_requireUtcNs {value : Int} : Caught (requireUtcNs value field) := caught_raiseIf

@[simp] theorem caught_requireNonnegative {value : Int} : Caught (requireNonnegative value field) :=
  caught_raiseIf

@[simp] theorem caught_requirePositive {value : Num} : Caught (requirePositive value field) := by
  unfold requirePositive
  split
  · exact caught_raiseIf
  · refine caught_checkAll ?_
    simp

@[simp] theorem caught_parse {c : IdClass} {value : PyStr} : Caught (ContractId.parse c value) := by
  unfold ContractId.parse
  split
  · split
    · exact raisesOnly_ok _
    · exact caught_value _
  · exact caught_value _

theorem computes_bind {f : α → Except PyError β} (hx : Computes x) (hf : ∀ a, Computes (f a)) :
    Computes (x >>= f) := raisesOnly_bind.2 ⟨hx, fun a _ => hf a⟩

theorem computes_makeOf {α : Type} {post_init : α → Except PyError Unit} (h : ∀ a, Computes (post_init a)) (a : α) :
    Computes (Checked.make post_init a) := Checked.raisesOnly_make (h a)

theorem computes_make {post_init : α → Except PyError Unit} (h : ∀ a, Caught (post_init a)) (a : α) :
    Computes (Checked.make post_init a) := fun e he => .inl (Checked.raisesOnly_make (h a) e he)

/-- A loop of rounds that compute. -/
theorem computes_foldlM {f : β → α → Except PyError β} (hf : ∀ b a, Computes (f b a)) (xs : List α) (b : β) :
    Computes (xs.foldlM f b) := by
  induction xs generalizing b with
  | nil => exact raisesOnly_ok b
  | cons x xs ih =>
    rw [List.foldlM_cons]
    exact computes_bind (hf b x) ih

/-! ## Arithmetic -/

section Arithmetic

theorem computes_overflow (message : String) : Computes (.error (Num.overflowError message) : Except PyError α) :=
  raisesOnly_error (.inr (.inl rfl))

theorem computes_toFloat (a : Num) : Computes a.toFloat := by
  unfold Num.toFloat
  split
  · split
    · exact raisesOnly_ok _
    · exact computes_overflow _
  · exact raisesOnly_ok _

theorem computes_lift {op : PyFloat → PyFloat → PyFloat} (a b : Num) : Computes (Num.lift op a b) :=
  computes_bind (computes_toFloat a) fun _ => computes_bind (computes_toFloat b) fun _ => raisesOnly_ok _

theorem computes_add (a b : Num) : Computes (a.add b) := by
  unfold Num.add
  split
  · exact raisesOnly_ok _
  · exact computes_lift a b

theorem computes_sub (a b : Num) : Computes (a.sub b) := by
  unfold Num.sub
  split
  · exact raisesOnly_ok _
  · exact computes_lift a b

theorem computes_mul (a b : Num) : Computes (a.mul b) := by
  unfold Num.mul
  split
  · exact raisesOnly_ok _
  · exact computes_lift a b

theorem computes_div (a b : Num) : Computes (a.div b) := by
  have hzero : ∀ {γ : Type}, Computes (.error Num.zeroDivisionError : Except PyError γ) :=
    fun {_} => raisesOnly_error (.inr (.inr rfl))
  unfold Num.div
  split
  · split
    · exact hzero
    · split
      · exact computes_overflow _
      · exact raisesOnly_ok _
  · refine computes_bind (computes_toFloat a) fun f => computes_bind (computes_toFloat b) fun g => ?_
    split
    · exact hzero
    · exact raisesOnly_ok _

theorem computes_square (a : Num) : Computes a.square := by
  unfold Num.square
  split
  · exact raisesOnly_ok _
  · split
    · split
      · exact computes_overflow _
      · exact raisesOnly_ok _
    · exact raisesOnly_ok _

theorem computes_round (a : Num) : Computes a.round := by
  unfold Num.round
  split
  · exact raisesOnly_ok _
  · exact (caught_value _).computes
  · exact computes_overflow _
  · exact raisesOnly_ok _

theorem computes_sumOver {xs : List α} {f : α → Except PyError Num} (h : ∀ x, Computes (f x)) :
    Computes (Num.sumOver xs f) :=
  computes_foldlM (fun _ x => computes_bind (h x) fun _ => computes_add _ _) xs _

end Arithmetic

end LeoFlow
