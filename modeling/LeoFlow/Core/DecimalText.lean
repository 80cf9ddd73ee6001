import LeoFlow.Core.Json

/-!
# LeoFlow.Core.DecimalText — which texts are numbers

`decimal.Decimal(text).is_finite()`: surrounding white space is dropped, underscores are ignored, any
Unicode decimal digit counts, and the number must be exact within the largest context.
`int(text, 16)`: single underscores stand between digits, and `0x` may stand before them.
-/

namespace LeoFlow

namespace DecimalText

/-- The zeros of the decimal digits (general category `Nd`). -/
def zeros : List Nat :=
  [0x30, 0x660, 0x6F0, 0x7C0, 0x966, 0x9E6, 0xA66, 0xAE6, 0xB66, 0xBE6, 0xC66, 0xCE6, 0xD66, 0xDE6, 0xE50,
    0xED0, 0xF20, 0x1040, 0x1090, 0x17E0, 0x1810, 0x1946, 0x19D0, 0x1A80, 0x1A90, 0x1B50, 0x1BB0, 0x1C40,
    0x1C50, 0xA620, 0xA8D0, 0xA900, 0xA9D0, 0xA9F0, 0xAA50, 0xABF0, 0xFF10, 0x104A0, 0x10D30, 0x11066,
    0x110F0, 0x11136, 0x111D0, 0x112F0, 0x11450, 0x114D0, 0x11650, 0x116C0, 0x11730, 0x118E0, 0x11950,
    0x11C50, 0x11D50, 0x11DA0, 0x16A60, 0x16AC0, 0x16B50, 0x1D7CE, 0x1D7D8, 0x1D7E2, 0x1D7EC, 0x1D7F6,
    0x1E140, 0x1E2F0, 0x1E950, 0x1FBF0]

/-- `unicodedata.decimal(c)` -/
def digit (c : Nat) : Option Nat := (zeros.find? fun z => decide (z ≤ c ∧ c < z + 10)).map (c - ·)

/-- The text in ASCII; `none` where a character has no place in a number. -/
def toAscii : PyStr → Option PyStr
  | [] => some []
  | c :: s =>
    if c = 95 then toAscii s
    else if 0 < c ∧ c < 128 then (toAscii s).map (c :: ·)
    else if IsWhitespace c then (toAscii s).map (32 :: ·)
    else
      match digit c with
      | none => none
      | some d => (toAscii s).map ((48 + d) :: ·)

/-- `text.strip()` -/
def strip (s : PyStr) : PyStr :=
  ((s.dropWhile fun c => decide (IsWhitespace c)).reverse.dropWhile fun c => decide (IsWhitespace c)).reverse

/-- The largest exponent, and the exponent of the smallest subnormal at the largest precision. -/
def maxEmax : Int := 999999999999999999
def minEtiny : Int := -1999999999999999997

/-- The number `coefficient * 10 ^ exponent` needs no rounding. -/
@[reducible] def Exact (coefficient : Nat) (exponent : Int) : Prop :=
  minEtiny ≤ exponent ∧ exponent + (PyFloat.natStr coefficient).length - 1 ≤ maxEmax

/-- Digits with an optional point, of which at least one is a digit. -/
def scanDigits (s : PyStr) : Option (PyStr × PyStr × PyStr) :=
  let (whole, rest) := Json.spanDigits s
  let (fraction, rest) :=
    match rest with
    | 46 :: rest => Json.spanDigits rest
    | rest => ([], rest)
  if whole ++ fraction = [] then none else some (whole, fraction, rest)

/-- An optional sign is dropped. -/
def unsigned : PyStr → PyStr
  | 43 :: s | 45 :: s | s => s

def isFinite (text : PyStr) : Bool :=
  match toAscii (strip text) with
  | none => false
  | some ascii =>
    match scanDigits (unsigned ascii) with
    | none => false
    | some (whole, fraction, rest) =>
      let exponent :=
        match rest with
        | [] => some 0
        | rest =>
          match Json.scanExponent rest with
          | some (n, []) => some n
          | _ => none
      match exponent with
      | none => false
      | some n => decide (Exact (Json.digitsValue (whole ++ fraction)) (n - fraction.length))

example : isFinite (str " +1_0.50E-3 ") = true ∧ isFinite (str "1e") = false ∧ isFinite (str "NaN") = false := by
  decide +kernel

end DecimalText

namespace HexText

/-- The character in ASCII, where a digit or white space has one. -/
def toAscii (c : Nat) : Nat :=
  if 0 < c ∧ c < 128 then c
  else if IsWhitespace c then 32
  else
    match DecimalText.digit c with
    | none => 63
    | some d => 48 + d

@[reducible] def IsHexDigit (c : Nat) : Prop := IsDigit c ∨ 65 ≤ c ∧ c ≤ 70 ∨ 97 ≤ c ∧ c ≤ 102

/-- Digits to the end, with single underscores between them. -/
def digits : PyStr → Bool
  | [] => false
  | [c] => decide (IsHexDigit c)
  | c :: 95 :: rest => decide (IsHexDigit c) && digits rest
  | c :: rest => decide (IsHexDigit c) && digits rest

/-- `0x`, and an underscore after it -/
def afterPrefix : PyStr → PyStr
  | 48 :: x :: rest =>
    if x = 120 ∨ x = 88 then
      match rest with
      | 95 :: rest => rest
      | rest => rest
    else 48 :: x :: rest
  | s => s

/-- `Py_ISSPACE`, which knows fewer spaces than `str.isspace`. -/
@[reducible] def IsSpace (c : Nat) : Prop := 9 ≤ c ∧ c ≤ 13 ∨ c = 32

def strip (s : PyStr) : PyStr :=
  ((s.dropWhile fun c => decide (IsSpace c)).reverse.dropWhile fun c => decide (IsSpace c)).reverse

/-- `int(text, 16)` reads the text. -/
def reads (text : PyStr) : Bool :=
  digits (afterPrefix (DecimalText.unsigned (strip (text.map toAscii))))

example : reads (str " -0x_0fF_1 ") = true ∧ reads (str "1__0") = false ∧ reads (str "0x") = false := by decide +kernel

end HexText

end LeoFlow
