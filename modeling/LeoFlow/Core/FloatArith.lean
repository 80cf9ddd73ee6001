import LeoFlow.Core.Numbers

/-!
# LeoFlow.Core.FloatArith — arithmetic on Python numbers

An operation on two `int`s is exact. Any other operation is on floats: the `int` is
converted first, and the exact result is rounded to the nearest float. Past the largest
float lies an infinity, which `**` and the conversions refuse. A zero has the sign that
the operands give it.
-/

namespace LeoFlow

namespace PyFloat

/-- The float nearest to a number. -/
def nearest (x : ℚ) : PyFloat := ofRatio (decide (x < 0)) x.num.natAbs x.den

/-- The number of a finite float. -/
def value (f : PyFloat) : ℚ := f.toRat.getD 0

/-- The sign bit. -/
def sign : PyFloat → Bool
  | nan => false
  | inf negative => negative
  | finite negative _ _ _ => negative

/-- `-f` -/
def neg : PyFloat → PyFloat
  | nan => nan
  | inf negative => inf !negative
  | finite negative m e h => finite (!negative) m e h

/-- `abs(f)` -/
def abs : PyFloat → PyFloat
  | nan => nan
  | inf _ => inf false
  | finite _ m e h => finite false m e h

/-- `f + g` -/
def add : PyFloat → PyFloat → PyFloat
  | nan, _ | _, nan => nan
  | inf s, inf t => if s = t then inf s else nan
  | inf s, _ => inf s
  | _, inf t => inf t
  | f, g =>
    let sum := f.value + g.value
    if sum = 0 then zero (f.sign && g.sign) else nearest sum

/-- `f - g` -/
def sub (f g : PyFloat) : PyFloat := add f g.neg

/-- `f * g` -/
def mul (f g : PyFloat) : PyFloat :=
  match f, g with
  | nan, _ | _, nan => nan
  | inf s, _ => if g.IsZero then nan else inf (s != g.sign)
  | _, inf t => if f.IsZero then nan else inf (f.sign != t)
  | _, _ =>
    let product := f.value * g.value
    if product = 0 then zero (f.sign != g.sign) else nearest product

/-- `f / g` where `g` is not zero -/
def div : PyFloat → PyFloat → PyFloat
  | nan, _ | _, nan => nan
  | inf _, inf _ => nan
  | inf s, g => inf (s != g.sign)
  | f, inf s => zero (f.sign != s)
  | f, g =>
    let quotient := f.value / g.value
    if quotient = 0 then zero (f.sign != g.sign) else nearest quotient

end PyFloat

namespace Num

/-- `0.0` -/
def zero : Num := .float (PyFloat.zero false)

/-- `1.0` -/
def one : Num := .float (PyFloat.ofRatio false 1 1)

def overflowError (message : String) : PyError := ⟨.overflow_error, message⟩

def zeroDivisionError : PyError := ⟨.zero_division_error, "division by zero"⟩

/-- `float(a)` -/
def toFloat : Num → Except PyError PyFloat
  | .int n =>
    match PyFloat.ofInt n with
    | some f => .ok f
    | Option.none => .error (overflowError "int too large to convert to float")
  | .float f => .ok f

theorem toFloat_some {n : Int} {f : PyFloat} (h : PyFloat.ofInt n = some f) : toFloat (.int n) = .ok f := by
  simp only [toFloat, h]

theorem toFloat_none {n : Int} (h : PyFloat.ofInt n = Option.none) :
    toFloat (.int n) = .error (overflowError "int too large to convert to float") := by
  simp only [toFloat, h]

/-- `-a` -/
def neg : Num → Num
  | .int n => .int (-n)
  | .float f => .float f.neg

/-- `abs(a)` -/
def abs : Num → Num
  | .int n => .int n.natAbs
  | .float f => .float f.abs

/-- An operation on floats. -/
def lift (op : PyFloat → PyFloat → PyFloat) (a b : Num) : Except PyError Num := do
  let f ← toFloat a
  let g ← toFloat b
  .ok (.float (op f g))

/-- `a + b` -/
def add : Num → Num → Except PyError Num
  | .int a, .int b => .ok (.int (a + b))
  | a, b => lift PyFloat.add a b

/-- `a - b` -/
def sub : Num → Num → Except PyError Num
  | .int a, .int b => .ok (.int (a - b))
  | a, b => lift PyFloat.sub a b

/-- `a * b` -/
def mul : Num → Num → Except PyError Num
  | .int a, .int b => .ok (.int (a * b))
  | a, b => lift PyFloat.mul a b

/-- `a / b`; of two integers it is the float nearest to the quotient. -/
def div : Num → Num → Except PyError Num
  | .int a, .int b =>
    if b = 0 then .error zeroDivisionError
    else
      match PyFloat.nearest (a / b) with
      | .inf _ => .error (overflowError "integer division result too large for a float")
      | f => .ok (.float f)
  | a, b => do
    let f ← toFloat a
    let g ← toFloat b
    if g.IsZero then .error zeroDivisionError else .ok (.float (f.div g))

/-- `a ** 2`; a finite float with an infinite square is refused. -/
def square : Num → Except PyError Num
  | .int n => .ok (.int (n ^ 2))
  | .float f =>
    match f.mul f with
    | .inf negative =>
      if f.IsFinite then .error (overflowError "Numerical result out of range") else .ok (.float (.inf negative))
    | g => .ok (.float g)

/-- `a ** 3`; a finite float with an infinite cube is refused. -/
def cube : Num → Except PyError Num
  | .int n => .ok (.int (n ^ 3))
  | .float f =>
    match f with
    | .nan => .ok (.float .nan)
    | .inf negative => .ok (.float (.inf negative))
    | f =>
      match PyFloat.nearest (f.value ^ 3) with
      | .inf _ => .error (overflowError "Numerical result out of range")
      | g => .ok (.float (if f.IsZero then f else g))

/-- `round(a)`, ties to even -/
def round : Num → Except PyError Int
  | .int n => .ok n
  | .float .nan => .error (.value "cannot convert float NaN to integer")
  | .float (.inf _) => .error (overflowError "cannot convert float infinity to integer")
  | .float f => .ok (PyFloat.rint f.value)

/-- `sum(f(x) for x in xs)` -/
def sumOver {α : Type} (xs : List α) (f : α → Except PyError Num) : Except PyError Num :=
  xs.foldlM (fun total x => do add total (← f x)) (.int 0)

end Num

end LeoFlow
