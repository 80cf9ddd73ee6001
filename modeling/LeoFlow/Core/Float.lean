import LeoFlow.Core.Str

/-!
# LeoFlow.Core.Float — Python floats

IEEE 754 binary64 values, exactly: a finite float is a sign, a mantissa and an
exponent in canonical form. `ofRatio` rounds to nearest, ties to even; it gives
the value of a decimal numeral and of an integer conversion. `shortest` is the
decimal that `repr` prints.
-/

namespace LeoFlow

/-- The mantissas and exponents of finite binary64 values, one pair for each. -/
@[reducible] def CanonicalFloat (m : Nat) (e : Int) : Prop :=
  m < 2 ^ 53 ∧ -1074 ≤ e ∧ e ≤ 971 ∧ (2 ^ 52 ≤ m ∨ e = -1074)

/-- A Python `float`: `± mantissa * 2 ^ exponent`, an infinity, or not a number. -/
inductive PyFloat where
  | nan
  | inf (negative : Bool)
  | finite (negative : Bool) (mantissa : Nat) (exponent : Int)
      (canonical : CanonicalFloat mantissa exponent)
deriving DecidableEq

namespace PyFloat

def zero (negative : Bool) : PyFloat :=
  finite negative 0 (-1074) ⟨by decide, by decide, by decide, Or.inr rfl⟩

/-- `a / b`, rounded to nearest, ties to even. -/
def roundDiv (a b : Nat) : Nat :=
  if 2 * (a % b) < b then a / b
  else if b < 2 * (a % b) then a / b + 1
  else a / b + a / b % 2

/-- The largest `k` with `2 ^ k ≤ a / b`. -/
def floorLog2 (a b : Nat) : Int :=
  let k := (Nat.log2 a : Int) - Nat.log2 b
  if b * 2 ^ k.toNat ≤ a * 2 ^ (-k).toNat then k else k - 1

/-- A rounded mantissa may be one too large for its exponent; past the largest
exponent lies infinity. -/
def pack (negative : Bool) (m : Nat) (e : Int) : PyFloat :=
  if h : CanonicalFloat m e then finite negative m e h
  else if h : m = 2 ^ 53 ∧ CanonicalFloat (2 ^ 52) (e + 1) then
    finite negative (2 ^ 52) (e + 1) h.2
  else inf negative

/-- The float nearest to `± a / b`. -/
def ofRatio (negative : Bool) (a b : Nat) : PyFloat :=
  if a = 0 then zero negative
  else
    let e := max (-1074) (floorLog2 a b - 52)
    pack negative (roundDiv (a * 2 ^ (-e).toNat) (b * 2 ^ e.toNat)) e

/-- The float nearest to `± d * 10 ^ k`: what a decimal numeral denotes. -/
def ofDecimal (negative : Bool) (d : Nat) (k : Int) : PyFloat :=
  ofRatio negative (d * 10 ^ k.toNat) (10 ^ (-k).toNat)

/-- `float(n)`; `none` is `OverflowError`. -/
def ofInt (n : Int) : Option PyFloat :=
  match ofRatio (decide (n < 0)) n.natAbs 1 with
  | inf _ => none
  | f => some f

/-- `math.isfinite` -/
@[reducible] def IsFinite : PyFloat → Prop
  | finite _ _ _ _ => True
  | _ => False

instance (f : PyFloat) : Decidable f.IsFinite :=
  match f with
  | nan => inferInstanceAs (Decidable False)
  | inf _ => inferInstanceAs (Decidable False)
  | finite _ _ _ _ => inferInstanceAs (Decidable True)

/-- `f > 0` -/
@[reducible] def IsPositive : PyFloat → Prop
  | nan => False
  | inf negative => negative = false
  | finite negative m _ _ => negative = false ∧ m ≠ 0

instance (f : PyFloat) : Decidable f.IsPositive :=
  match f with
  | nan => inferInstanceAs (Decidable False)
  | inf negative => inferInstanceAs (Decidable (negative = false))
  | finite negative m _ _ => inferInstanceAs (Decidable (negative = false ∧ m ≠ 0))

/-- `f == 0.0` -/
@[reducible] def IsZero : PyFloat → Prop
  | finite _ m _ _ => m = 0
  | _ => False

instance (f : PyFloat) : Decidable f.IsZero :=
  match f with
  | nan => inferInstanceAs (Decidable False)
  | inf _ => inferInstanceAs (Decidable False)
  | finite _ m _ _ => inferInstanceAs (Decidable (m = 0))

/-- `f == g` -/
@[reducible] def Eq : PyFloat → PyFloat → Prop
  | nan, _ | _, nan => False
  | f, g => f = g ∨ f.IsZero ∧ g.IsZero

instance (f g : PyFloat) : Decidable (f.Eq g) := by
  unfold Eq
  split <;> infer_instance

/-- `f == n` for an integer `n`: both denote the same number. -/
@[reducible] def EqInt : PyFloat → Int → Prop
  | finite negative m e _, n =>
    m * 2 ^ e.toNat = n.natAbs * 2 ^ (-e).toNat ∧ (n = 0 ∨ negative = decide (n < 0))
  | _, _ => False

instance (f : PyFloat) (n : Int) : Decidable (f.EqInt n) :=
  match f with
  | nan => inferInstanceAs (Decidable False)
  | inf _ => inferInstanceAs (Decidable False)
  | finite negative m e _ =>
    inferInstanceAs (Decidable (m * 2 ^ e.toNat = n.natAbs * 2 ^ (-e).toNat ∧
      (n = 0 ∨ negative = decide (n < 0))))

/-- A finite magnitude as a multiple of the smallest positive float. -/
def scaled (m : Nat) (e : Int) : Nat := m * 2 ^ (e + 1074).toNat

/-- `a <= f < b` for the magnitude of a finite float and positive bounds. -/
def Between (a b : PyFloat) (m : Nat) (e : Int) : Prop :=
  match a, b with
  | finite _ ma ea _, finite _ mb eb _ => scaled ma ea ≤ scaled m e ∧ scaled m e < scaled mb eb
  | _, _ => False

instance (a b : PyFloat) (m : Nat) (e : Int) : Decidable (Between a b m e) := by
  unfold Between
  split <;> infer_instance

/-! ## Shortest decimals -/

/-- The decimal digits of `n`, most significant first; none for zero. -/
def digitsAux : Nat → Nat → List Nat → List Nat
  | 0, _, ds => ds
  | fuel + 1, n, ds => if n = 0 then ds else digitsAux fuel (n / 10) (n % 10 :: ds)

/-- Every digit takes more than three bits, which bounds the fuel. -/
def digits (n : Nat) : List Nat := digitsAux (Nat.log2 n + 1) n []

/-- The largest `p` with `10 ^ p ≤ a / b`. -/
def floorLog10 (a b : Nat) : Int :=
  if b ≤ a then (digits (a / b)).length - 1 else -((digits ((b - 1) / a)).length : Int)

/-- The decimal with its last digit at `10 ^ s` that reads back as the float, when one
of the two around `a / b` does; the nearer one when both do. -/
def decimalAt (f : PyFloat) (a b : Nat) (s : Int) : Option (Nat × Int) :=
  let num := a * 10 ^ (-s).toNat
  let den := b * 10 ^ s.toNat
  let low := num / den
  let lowReads := ofDecimal false low s = f
  let highReads := ofDecimal false (low + 1) s = f
  if lowReads ∧ highReads then some (roundDiv num den, s)
  else if lowReads then some (low, s)
  else if highReads then some (low + 1, s)
  else none

/-- The first of the scales `s, s - 1, ..` at which a decimal reads back as the float. -/
def searchDecimal (f : PyFloat) (a b : Nat) : Nat → Int → Option (Nat × Int)
  | 0, _ => none
  | fuel + 1, s =>
    match decimalAt f a b s with
    | some d => some d
    | none => searchDecimal f a b fuel (s - 1)

/-- The shortest decimal `d * 10 ^ k` that reads back as a positive finite float. At
most 17 digits are needed; the exact decimal expansion stands behind them. -/
def shortestDecimal (m : Nat) (e : Int) (f : PyFloat) : Nat × Int :=
  let a := m * 2 ^ e.toNat
  let b := 2 ^ (-e).toNat
  match searchDecimal f a b 17 (floorLog10 a b) with
  | some d => d
  | none => (m * 2 ^ e.toNat * 5 ^ (-e).toNat, min e 0)

/-- Trailing zeros move into the exponent. -/
def stripZeros : Nat → Nat × Int → Nat × Int
  | 0, d => d
  | fuel + 1, (d, k) =>
    if d ≠ 0 ∧ d % 10 = 0 then stripZeros fuel (d / 10, k + 1) else (d, k)

/-! ## repr -/

/-- The numeral of `n`. -/
def natStr (n : Nat) : PyStr := if n = 0 then [48] else (digits n).map (48 + ·)

/-- `%+.02d`: a sign and at least two digits. -/
def exponentStr (n : Int) : PyStr :=
  (if n < 0 then 45 else 43) :: (if n.natAbs < 10 then 48 :: natStr n.natAbs else natStr n.natAbs)

/-- `repr` of a positive float from its shortest digits `ds` and its decimal point
`decpt`: fixed notation for `-4 < decpt ≤ 16`. -/
def formatDigits (ds : PyStr) (decpt : Int) : PyStr :=
  if decpt ≤ -4 ∨ 16 < decpt then
    ds.take 1 ++ (if 1 < ds.length then 46 :: ds.drop 1 else []) ++ 101 :: exponentStr (decpt - 1)
  else if decpt ≤ 0 then 48 :: 46 :: (List.replicate (-decpt).toNat 48 ++ ds)
  else if ds.length ≤ decpt.toNat then
    ds ++ List.replicate (decpt.toNat - ds.length) 48 ++ [46, 48]
  else ds.take decpt.toNat ++ 46 :: ds.drop decpt.toNat

/-- `repr` of a finite float without its sign. -/
def reprAbs (m : Nat) (e : Int) (h : CanonicalFloat m e) : PyStr :=
  if m = 0 then str "0.0"
  else
    let (d, k) := shortestDecimal m e (finite false m e h)
    let (d, k) := stripZeros (Nat.log2 d + 1) (d, k)
    formatDigits (natStr d) ((natStr d).length + k)

def repr : PyFloat → PyStr
  | nan => str "nan"
  | inf negative => if negative then str "-inf" else str "inf"
  | finite negative m e h => if negative then 45 :: reprAbs m e h else reprAbs m e h

end PyFloat

end LeoFlow
