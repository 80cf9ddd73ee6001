import LeoFlow.Core.DecimalText
import LeoFlow.Core.JsonNumber

/-!
# LeoFlow.Core.IntText — `int(text)` and `str.isdigit`

`int` reads more than digits: white space around the number, a sign, single underscores
between the digits, and the decimal digits of every script. `str.isdigit` holds of
more characters still, of superscripts for example, which `int` refuses.
-/

namespace LeoFlow

namespace IntText

open Json (AllDigits digitsValue)

/-- The rest of a number whose digits so far have the value `n`. -/
def more (n : Nat) : PyStr → Option Nat
  | [] => some n
  | 95 :: c :: rest => if IsDigit c then more (10 * n + (c - 48)) rest else none
  | c :: rest => if IsDigit c then more (10 * n + (c - 48)) rest else none

/-- Digits to the end, with single underscores between them. -/
def digits : PyStr → Option Nat
  | [] => none
  | c :: rest => if IsDigit c then more (c - 48) rest else none

def signed : PyStr → Option Int
  | 45 :: s => (digits s).map fun n => -(n : Int)
  | 43 :: s => (digits s).map Int.ofNat
  | s => (digits s).map Int.ofNat

/-- `int(text)` for a text of at most 4,300 digits; `none` is `ValueError`. -/
def int (text : PyStr) : Option Int := signed (HexText.strip (text.map HexText.toAscii))

/-- Characters which `isdigit` holds of and which are no decimal digits. -/
def otherDigits : List (Nat × Nat) :=
  [(0xB2, 0xB3), (0xB9, 0xB9), (0x1369, 0x1371), (0x19DA, 0x19DA), (0x2070, 0x2070), (0x2074, 0x2079),
    (0x2080, 0x2089), (0x2460, 0x2468), (0x2474, 0x247C), (0x2488, 0x2490), (0x24EA, 0x24EA), (0x24F5, 0x24FD),
    (0x24FF, 0x24FF), (0x2776, 0x277E), (0x2780, 0x2788), (0x278A, 0x2792), (0x10A40, 0x10A43), (0x10E60, 0x10E68),
    (0x11052, 0x1105A), (0x1F100, 0x1F10A)]

/-- `c.isdigit()` -/
def isdigit (c : Nat) : Bool :=
  (DecimalText.digit c).isSome || otherDigits.any fun range => decide (range.1 ≤ c ∧ c ≤ range.2)

example : int (str " -1_0 ") = some (-10) ∧ int [0x665] = some 5 ∧ int (str "+ 1") = none := by decide +kernel

/-! ## Plain digits -/

variable {ds : PyStr}

theorem more_digits (hds : AllDigits ds) (n : Nat) :
    more n ds = some (n * 10 ^ ds.length + digitsValue ds) := by
  induction ds generalizing n with
  | nil => simp [more, digitsValue]
  | cons c ds ih =>
    have hc : IsDigit c := hds c List.mem_cons_self
    have htail : AllDigits ds := fun c' hc' => hds c' (List.mem_cons_of_mem _ hc')
    have hstep : more n (c :: ds) = more (10 * n + (c - 48)) ds := by
      rw [more, if_pos hc]
      -- the underscore is no digit
      rintro d rest rfl
      omega
    rw [hstep, ih htail, Json.digitsValue_cons, List.length_cons, pow_succ]
    congr 1
    ring

theorem digits_digits (hds : AllDigits ds) (hne : ds ≠ []) :
    digits ds = some (digitsValue ds) := by
  obtain ⟨c, rest, rfl⟩ := List.exists_cons_of_ne_nil hne
  have hc : IsDigit c := hds c List.mem_cons_self
  have hrest : AllDigits rest := fun c' hc' => hds c' (List.mem_cons_of_mem _ hc')
  rw [digits, if_pos hc, more_digits hrest, Json.digitsValue_cons]

theorem strip_digits (hds : AllDigits ds) : HexText.strip ds = ds := by
  have hkeep : ∀ {xs : PyStr}, AllDigits xs → xs.dropWhile (fun c => decide (HexText.IsSpace c)) = xs := by
    intro xs hxs
    cases xs with
    | nil => rfl
    | cons c xs =>
      have hc : IsDigit c := hxs c List.mem_cons_self
      have hspace : ¬HexText.IsSpace c := by omega
      simp [hspace]
  have hreverse : AllDigits ds.reverse := fun c hc => hds c (List.mem_reverse.1 hc)
  unfold HexText.strip
  rw [hkeep hds, hkeep hreverse, List.reverse_reverse]

theorem map_toAscii_digits (hds : AllDigits ds) : ds.map HexText.toAscii = ds := by
  calc ds.map HexText.toAscii = ds.map id := by
        refine List.map_congr_left fun c hc => ?_
        have hc' : IsDigit c := hds c hc
        unfold HexText.toAscii
        rw [if_pos (by omega), id]
    _ = ds := List.map_id ds

/-- A plain decimal number has its usual value. -/
theorem int_digits (hds : AllDigits ds) (hne : ds ≠ []) : int ds = some (digitsValue ds : Int) := by
  unfold int
  rw [map_toAscii_digits hds, strip_digits hds]
  obtain ⟨c, rest, rfl⟩ := List.exists_cons_of_ne_nil hne
  have hc : IsDigit c := hds c List.mem_cons_self
  have hsign : signed (c :: rest) = (digits (c :: rest)).map Int.ofNat := by
    unfold signed
    split
    · rename_i heq
      cases heq
      omega
    · rename_i heq
      cases heq
      omega
    · rfl
  rw [hsign, digits_digits hds hne]
  rfl

theorem int_nil : int [] = none := rfl

end IntText

end LeoFlow
