import LeoFlow.Contracts.Capture

/-!
# LeoFlow.Catalog.Sql — what PL/pgSQL functions share

A function returns or raises; a transaction that raises leaves every row as it was. Identifiers are checked again
in SQL, by patterns that are not those of the Python classes.
-/

namespace LeoFlow

/-- `RAISE EXCEPTION message USING ERRCODE = errcode` -/
structure SqlException where
  message : String
  errcode : String
deriving DecidableEq

/-- `IF bad THEN RAISE EXCEPTION message USING ERRCODE = errcode; END IF` -/
def raiseSqlIf (bad : Prop) [Decidable bad] (message errcode : String) : Except SqlException Unit :=
  if bad then .error ⟨message, errcode⟩ else .ok ()

@[simp] theorem raiseSqlIf_ok {bad : Prop} [Decidable bad] {message errcode : String} :
    raiseSqlIf bad message errcode = .ok () ↔ ¬bad := by
  unfold raiseSqlIf
  split <;> simp_all

/-- A statement after a check. -/
@[simp] theorem check_bind_ok {ε β : Type} {x : Except ε Unit} {f : Unit → Except ε β} {b : β} :
    (x >>= f) = .ok b ↔ x = .ok () ∧ f () = .ok b := by
  rcases x with e | ⟨⟩
  · simp [Bind.bind, Except.bind]
  · simp [Bind.bind, Except.bind]

/-- `n::bigint` -/
def bigint (n : Int) : Except SqlException Unit :=
  raiseSqlIf (n < -2 ^ 63 ∨ 2 ^ 63 ≤ n) "value is out of range for type bigint" "22003"

/-- `n::bigint` of a value that may be null -/
def optionalBigint : Option Int → Except SqlException Unit
  | none => .ok ()
  | some n => bigint n

@[simp] theorem bigint_ok {n : Int} : bigint n = .ok () ↔ -2 ^ 63 ≤ n ∧ n < 2 ^ 63 := by
  unfold bigint
  rw [raiseSqlIf_ok]
  omega

@[simp] theorem optionalBigint_ok {n : Option Int} :
    optionalBigint n = .ok () ↔ ∀ m ∈ n, -2 ^ 63 ≤ m ∧ m < 2 ^ 63 := by
  cases n with
  | none => simp [optionalBigint]
  | some m => simp [optionalBigint]

/-- `value ~ '^<stem>_[A-Za-z0-9][A-Za-z0-9._:-]*$'` -/
def SqlIdentifier (stem : String) (value : PyStr) : Prop :=
  value.take (stem.length + 1) = str stem ++ str "_" ∧ IsToken (value.drop (stem.length + 1))

instance (stem : String) (value : PyStr) : Decidable (SqlIdentifier stem value) :=
  inferInstanceAs (Decidable (_ ∧ _))

end LeoFlow
