import Mathlib

/-!
# LeoFlow.Core.Str — Python strings and byte strings

A Python `str` is a sequence of code points which, unlike Lean's `String`, may
hold lone surrogates; it is modelled as the list of its code point numbers.
-/

namespace LeoFlow

/-- A Python `bytes` value. -/
abbrev Bytes := List UInt8

/-- A Python `str`: its code points, lone surrogates included. -/
abbrev PyStr := List Nat

instance : LawfulBEq PyStr := inferInstance

/-- The `str` written by a literal. -/
def str (s : String) : PyStr := s.toList.map Char.toNat

theorem str_injective {s t : String} (h : str s = str t) : s = t := by
  have hchar : Function.Injective Char.toNat := fun a b hab => Char.ext (UInt32.toNat_inj.1 hab)
  have hlist : s.toList = t.toList := (List.map_injective_iff.2 hchar) h
  exact String.toList_inj.1 hlist

/-- `[0-9]` -/
@[reducible] def IsDigit (c : Nat) : Prop := 48 ≤ c ∧ c ≤ 57

/-- `[0-9a-f]` -/
@[reducible] def IsLowerHex (c : Nat) : Prop := IsDigit c ∨ 97 ≤ c ∧ c ≤ 102

/-- `[A-Za-z0-9]` -/
@[reducible] def IsAlnum (c : Nat) : Prop := IsDigit c ∨ 65 ≤ c ∧ c ≤ 90 ∨ 97 ≤ c ∧ c ≤ 122

/-- `[a-z0-9]` -/
@[reducible] def IsLowerAlnum (c : Nat) : Prop := IsDigit c ∨ 97 ≤ c ∧ c ≤ 122

/-- `[._:-]` -/
@[reducible] def IsTokenPunct (c : Nat) : Prop := c = 46 ∨ c = 95 ∨ c = 58 ∨ c = 45

/-- `c.isspace()` -/
@[reducible] def IsWhitespace (c : Nat) : Prop :=
  0x09 ≤ c ∧ c ≤ 0x0D ∨ 0x1C ≤ c ∧ c ≤ 0x20 ∨ c = 0x85 ∨ c = 0xA0 ∨ c = 0x1680 ∨
    0x2000 ≤ c ∧ c ≤ 0x200A ∨ c = 0x2028 ∨ c = 0x2029 ∨ c = 0x202F ∨ c = 0x205F ∨ c = 0x3000

/-- A string matches `head tail*`. -/
def Matches (head tail : Nat → Prop) : PyStr → Prop
  | [] => False
  | c :: cs => head c ∧ ∀ c' ∈ cs, tail c'

instance (head tail : Nat → Prop) [DecidablePred head] [DecidablePred tail] (s : PyStr) :
    Decidable (Matches head tail s) :=
  match s with
  | [] => inferInstanceAs (Decidable False)
  | c :: cs => inferInstanceAs (Decidable (head c ∧ ∀ c' ∈ cs, tail c'))

/-- The lower-case hexadecimal digit of `n % 16`. -/
def hexDigit (n : Nat) : Nat := if n % 16 < 10 then 48 + n % 16 else 87 + n % 16

theorem isLowerHex_hexDigit (n : Nat) : IsLowerHex (hexDigit n) := by
  unfold hexDigit
  split
  · exact Or.inl ⟨by omega, by omega⟩
  · exact Or.inr ⟨by omega, by omega⟩

end LeoFlow
