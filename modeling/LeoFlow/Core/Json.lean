import LeoFlow.Core.Value
import LeoFlow.Core.Unicode

/-!
# LeoFlow.Core.Json — canonical JSON out, Python JSON in

`canonical_json_bytes` of `contracts/core.py`, and `json.loads` of a byte string as
CPython's accelerated scanner reads it. Recursion depth is not limited.
-/

namespace LeoFlow

namespace Json

/-! ## Canonical encoding -/

mutual

/-- `_primitive` -/
def primitive : PyValue → Except PyError PyValue
  | .record _ fields => (primitiveEntries fields).map .dict
  | .dict items => (primitiveEntries items).map .dict
  | .tuple items | .list items => (primitiveItems items).map .list
  | .float f =>
    if ¬f.IsFinite then .error (.value "canonical JSON rejects NaN and Infinity")
    else if f.IsZero then .ok (.int 0)
    else .ok (.float f)
  | v => .ok v

def primitiveItems : List PyValue → Except PyError (List PyValue)
  | [] => .ok []
  | v :: vs =>
    match primitive v with
    | .error e => .error e
    | .ok v' => (primitiveItems vs).map (v' :: ·)

def primitiveEntries : List (PyStr × PyValue) → Except PyError (List (PyStr × PyValue))
  | [] => .ok []
  | (k, v) :: vs =>
    match primitive v with
    | .error e => .error e
    | .ok v' => (primitiveEntries vs).map ((k, v') :: ·)

end

/-- `json.dumps(.., ensure_ascii=False)` of one character. -/
def escapeChar (c : Nat) : PyStr :=
  if c = 34 then [92, 34]
  else if c = 92 then [92, 92]
  else if c = 10 then [92, 110]
  else if c = 13 then [92, 114]
  else if c = 9 then [92, 116]
  else if c = 12 then [92, 102]
  else if c = 8 then [92, 98]
  else if c < 32 then [92, 117, 48, 48, hexDigit (c / 16), hexDigit c]
  else [c]

def quote (s : PyStr) : PyStr := 34 :: (s.flatMap escapeChar ++ [34])

/-- `str(n)`; CPython refuses more than 4300 digits. -/
def intStr (n : Int) : Except PyError PyStr :=
  let digits := PyFloat.natStr n.natAbs
  if 4300 < digits.length then
    .error (.value "Exceeds the limit (4300 digits) for integer string conversion")
  else .ok (if n < 0 then 45 :: digits else digits)

/-- `s.removesuffix(".0")` -/
def removePointZero (s : PyStr) : PyStr :=
  if s.drop (s.length - 2) = [46, 48] then s.take (s.length - 2) else s

/-- `s.partition(c)`: what stands before the first `c`, and what stands after it. -/
def partition (c : Nat) (s : PyStr) : PyStr × PyStr :=
  (s.takeWhile (· ≠ c), (s.dropWhile (· ≠ c)).tail)

/-- The number a digit string denotes. -/
def digitsValue (ds : PyStr) : Nat := ds.foldl (fun n c => 10 * n + (c - 48)) 0

/-- `int(text)` of a sign and digits. -/
def signedValue : PyStr → Int
  | 45 :: ds => -(digitsValue ds : Int)
  | 43 :: ds => digitsValue ds
  | ds => digitsValue ds

/-- `_ecmascript_number` -/
def ecmascriptNumber (f : PyFloat) : Except PyError PyStr :=
  match f with
  | .finite _ m e _ =>
    if m = 0 then .ok (str "0")
    else
      let shortest := f.repr
      if PyFloat.Between (.ofDecimal false 1 (-6)) (.ofDecimal false 1 21) m e then
        if 101 ∉ shortest then .ok (removePointZero shortest)
        else
          let (mantissa, exponent_text) := partition 101 shortest
          let exponent := signedValue exponent_text
          let (sign, mantissa) :=
            if mantissa.head? = some 45 then ([45], mantissa.tail) else ([], mantissa)
          let (whole, fraction) := partition 46 mantissa
          let digits := whole ++ fraction
          let decimal_position := (whole.length : Int) + exponent
          if decimal_position ≤ 0 then
            .ok (sign ++ 48 :: 46 :: (List.replicate (-decimal_position).toNat 48 ++ digits))
          else if (digits.length : Int) ≤ decimal_position then
            .ok (sign ++ (digits ++ List.replicate (decimal_position.toNat - digits.length) 48))
          else
            .ok (sign ++ (digits.take decimal_position.toNat
              ++ 46 :: digits.drop decimal_position.toNat))
      else
        let (mantissa, exponent_text) := partition 101 shortest
        if 101 ∉ shortest then .ok (removePointZero mantissa)
        else
          let exponent := signedValue exponent_text
          .ok (removePointZero mantissa ++ 101 :: ((if 0 ≤ exponent then [43] else [45])
            ++ PyFloat.natStr exponent.natAbs))
  | _ => .error (.value "canonical JSON rejects NaN and Infinity")

/-- `_encode_canonical` of a string. -/
def encodeStr (s : PyStr) : Except PyError PyStr :=
  if Encodable s then .ok (quote s) else .error ⟨.unicode_encode_error, "surrogates not allowed"⟩

/-- `",".join(..)` -/
def joinComma : List PyStr → PyStr
  | [] => []
  | [s] => s
  | s :: rest => s ++ 44 :: joinComma rest

/-- The order of keys: `key.encode("utf-16be")`, as code units. -/
@[reducible] def KeyLe {β : Type} (a b : PyStr × β) : Prop :=
  a.1.flatMap utf16Units ≤ b.1.flatMap utf16Units

/-- `sorted(value, key=lambda key: key.encode("utf-16be"))` of entries with their keys. -/
def sortEntries {β : Type} (entries : List (PyStr × β)) : List (PyStr × β) :=
  entries.insertionSort KeyLe

mutual

/-- `_encode_canonical`, of a value that `_primitive` returned. -/
def encodeCanonical : PyValue → Except PyError PyStr
  | .none => .ok (str "null")
  | .bool true => .ok (str "true")
  | .bool false => .ok (str "false")
  | .str s => encodeStr s
  | .int n => intStr n
  | .float f => ecmascriptNumber f
  | .list items => (encodeItems items).map fun texts => 91 :: (joinComma texts ++ [93])
  | .dict items =>
    (encodeEntries items).map fun entries =>
      123 :: (joinComma ((sortEntries entries).map fun e => quote e.1 ++ 58 :: e.2) ++ [125])
  | .tuple _ | .record _ _ => .error (.type "unsupported canonical JSON type")

def encodeItems : List PyValue → Except PyError (List PyStr)
  | [] => .ok []
  | v :: vs =>
    match encodeCanonical v with
    | .error e => .error e
    | .ok text => (encodeItems vs).map (text :: ·)

/-- The entries of a dictionary; every key must be encodable. -/
def encodeEntries : List (PyStr × PyValue) → Except PyError (List (PyStr × PyStr))
  | [] => .ok []
  | (k, v) :: vs =>
    if ¬Encodable k then .error ⟨.unicode_encode_error, "surrogates not allowed"⟩
    else
      match encodeCanonical v with
      | .error e => .error e
      | .ok text => (encodeEntries vs).map ((k, text) :: ·)

end

/-- `canonical_json_bytes` -/
def canonicalJsonBytes (v : PyValue) : Except PyError Bytes :=
  match primitive v with
  | .error e => .error e
  | .ok v =>
    match encodeCanonical v with
    | .error e => .error e
    | .ok text =>
      match encodeUtf8 text with
      | some bytes => .ok bytes
      | none => .error ⟨.unicode_encode_error, "surrogates not allowed"⟩

/-! ## json.loads -/

/-- `[ \t\n\r]*` -/
def skipWs : PyStr → PyStr
  | [] => []
  | c :: s => if c = 32 ∨ c = 9 ∨ c = 10 ∨ c = 13 then skipWs s else c :: s

/-- The value of one hexadecimal digit. -/
def hexValue (c : Nat) : Option Nat :=
  if 48 ≤ c ∧ c ≤ 57 then some (c - 48)
  else if 97 ≤ c ∧ c ≤ 102 then some (c - 87)
  else if 65 ≤ c ∧ c ≤ 70 then some (c - 55)
  else none

/-- The code unit of `\uXXXX`. -/
def hex4 (a b c d : Nat) : Option Nat := do
  let a ← hexValue a
  let b ← hexValue b
  let c ← hexValue c
  let d ← hexValue d
  return ((a * 16 + b) * 16 + c) * 16 + d

/-- The character after a backslash, other than `u`. -/
def unescape (c : Nat) : Option Nat :=
  if c = 34 ∨ c = 92 ∨ c = 47 then some c
  else if c = 98 then some 8
  else if c = 102 then some 12
  else if c = 110 then some 10
  else if c = 114 then some 13
  else if c = 116 then some 9
  else none

/-- `scanstring` after the opening quote. `acc` holds the characters so far, last first;
`high` says that the last one came from an escaped high surrogate, which an escaped
low surrogate joins. -/
def scanString : PyStr → PyStr → Bool → Except PyError (PyStr × PyStr)
  | [], _, _ => .error (.json "Unterminated string")
  | 34 :: rest, acc, _ => .ok (acc.reverse, rest)
  | 92 :: rest, acc, high =>
    match rest with
    | 117 :: a :: b :: c :: d :: rest =>
      match hex4 a b c d with
      | none => .error (.json "Invalid \\uXXXX escape")
      | some u =>
        match high, acc with
        | true, h :: acc' =>
          if IsLowSurrogate u then scanString rest (joinSurrogates h u :: acc') false
          else scanString rest (u :: acc) (decide (IsHighSurrogate u))
        | _, _ => scanString rest (u :: acc) (decide (IsHighSurrogate u))
    | c :: rest =>
      match unescape c with
      | none => .error (.json "Invalid \\escape")
      | some c => scanString rest (c :: acc) false
    | [] => .error (.json "Unterminated string")
  | c :: rest, acc, _ =>
    if c < 32 then .error (.json "Invalid control character")
    else scanString rest (c :: acc) false

/-- The digits at the front of a text, and the rest. -/
def spanDigits (s : PyStr) : PyStr × PyStr := s.span fun c => decide (IsDigit c)

/-- A fraction: a point and at least one digit. -/
def scanFraction (s : PyStr) : Option (PyStr × PyStr) :=
  match s with
  | 46 :: rest => if (spanDigits rest).1 = [] then none else some (spanDigits rest)
  | _ => none

/-- An exponent: `e` or `E`, an optional sign and at least one digit. -/
def scanExponent (s : PyStr) : Option (Int × PyStr) :=
  match s with
  | c :: rest =>
    if c ≠ 101 ∧ c ≠ 69 then none
    else
      match rest with
      | 45 :: rest =>
        if (spanDigits rest).1 = [] then none
        else some (-(digitsValue (spanDigits rest).1 : Int), (spanDigits rest).2)
      | 43 :: rest =>
        if (spanDigits rest).1 = [] then none
        else some (digitsValue (spanDigits rest).1, (spanDigits rest).2)
      | rest =>
        if (spanDigits rest).1 = [] then none
        else some (digitsValue (spanDigits rest).1, (spanDigits rest).2)
  | [] => none

/-- The value of a number token from its parts. -/
def numberValue (negative : Bool) (whole : PyStr) (fraction : Option PyStr) (exponent : Option Int) :
    Except PyError PyValue :=
  match fraction, exponent with
  | none, none =>
    if 4300 < whole.length then
      .error (.value "Exceeds the limit (4300 digits) for integer string conversion")
    else .ok (.int (if negative then -(digitsValue whole : Int) else digitsValue whole))
  | fraction, exponent =>
    let fraction := fraction.getD []
    .ok (.float (.ofDecimal negative (digitsValue (whole ++ fraction))
      (exponent.getD 0 - fraction.length)))

/-- A number after its sign. -/
def scanNumber (negative : Bool) (s : PyStr) : Except PyError (PyValue × PyStr) :=
  match s with
  | [] => .error (.json "Expecting value")
  | c :: rest =>
    if ¬IsDigit c then .error (.json "Expecting value")
    else
      -- no digit follows a leading zero
      let (whole, rest) := if c = 48 then ([48], rest) else spanDigits s
      let (fraction, rest) :=
        match scanFraction rest with
        | some (ds, rest) => (some ds, rest)
        | none => (none, rest)
      let (exponent, rest) :=
        match scanExponent rest with
        | some (n, rest) => (some n, rest)
        | none => (none, rest)
      (numberValue negative whole fraction exponent).map fun v => (v, rest)

/-- The text after a literal it starts with. -/
def afterLiteral (literal s : PyStr) : Option PyStr :=
  if s.take literal.length = literal then some (s.drop literal.length) else none

/-- The scalars that are not strings. -/
def scanScalar (s : PyStr) : Except PyError (PyValue × PyStr) :=
  match s with
  | 110 :: _ =>
    match afterLiteral (str "null") s with
    | some rest => .ok (.none, rest)
    | none => .error (.json "Expecting value")
  | 116 :: _ =>
    match afterLiteral (str "true") s with
    | some rest => .ok (.bool true, rest)
    | none => .error (.json "Expecting value")
  | 102 :: _ =>
    match afterLiteral (str "false") s with
    | some rest => .ok (.bool false, rest)
    | none => .error (.json "Expecting value")
  | 78 :: _ =>
    match afterLiteral (str "NaN") s with
    | some rest => .ok (.float .nan, rest)
    | none => .error (.json "Expecting value")
  | 73 :: _ =>
    match afterLiteral (str "Infinity") s with
    | some rest => .ok (.float (.inf false), rest)
    | none => .error (.json "Expecting value")
  | 45 :: rest =>
    match afterLiteral (str "Infinity") rest with
    | some rest => .ok (.float (.inf true), rest)
    | none => scanNumber true rest
  | s => scanNumber false s

mutual

/-- `scan_once`. The fuel bounds the calls; a text never needs more than twice its
length. -/
def scanOnce : Nat → PyStr → Except PyError (PyValue × PyStr)
  | 0, _ => .error (.json "Expecting value")
  | fuel + 1, s =>
    match s with
    | 34 :: rest => (scanString rest [] false).map fun (text, rest) => (.str text, rest)
    | 91 :: rest =>
      match skipWs rest with
      | 93 :: rest => .ok (.list [], rest)
      | rest => (scanItems fuel rest []).map fun (items, rest) => (.list items, rest)
    | 123 :: rest =>
      match skipWs rest with
      | 125 :: rest => .ok (.dict [], rest)
      | rest => (scanEntries fuel rest []).map fun (items, rest) => (.dict items, rest)
    | s => scanScalar s

/-- The items of an array, up to its closing bracket. -/
def scanItems : Nat → PyStr → List PyValue → Except PyError (List PyValue × PyStr)
  | 0, _, _ => .error (.json "Expecting value")
  | fuel + 1, s, acc =>
    match scanOnce fuel s with
    | .error e => .error e
    | .ok (v, rest) =>
      match skipWs rest with
      | 93 :: rest => .ok ((v :: acc).reverse, rest)
      | 44 :: rest => scanItems fuel (skipWs rest) (v :: acc)
      | _ => .error (.json "Expecting ',' delimiter")

/-- The entries of an object, up to its closing brace; a repeated key keeps its first
place and its last value. -/
def scanEntries : Nat → PyStr → List (PyStr × PyValue) →
    Except PyError (List (PyStr × PyValue) × PyStr)
  | 0, _, _ => .error (.json "Expecting value")
  | fuel + 1, s, acc =>
    match s with
    | 34 :: rest =>
      match scanString rest [] false with
      | .error e => .error e
      | .ok (key, rest) =>
        match skipWs rest with
        | 58 :: rest =>
          match scanOnce fuel (skipWs rest) with
          | .error e => .error e
          | .ok (v, rest) =>
            match skipWs rest with
            | 125 :: rest => .ok (PyValue.setItem acc key v, rest)
            | 44 :: rest => scanEntries fuel (skipWs rest) (PyValue.setItem acc key v)
            | _ => .error (.json "Expecting ',' delimiter")
        | _ => .error (.json "Expecting ':' delimiter")
    | _ => .error (.json "Expecting property name enclosed in double quotes")

end

/-- `json.loads` of a decoded text. -/
def loadsText (text : PyStr) : Except PyError PyValue :=
  match scanOnce (2 * text.length + 2) (skipWs text) with
  | .error e => .error e
  | .ok (v, rest) => if skipWs rest = [] then .ok v else .error (.json "Extra data")

/-- `json.loads(data)` -/
def loads (data : Bytes) : Except PyError PyValue :=
  match decodeDetected data with
  | none => .error ⟨.unicode_decode_error, "invalid data"⟩
  | some text => loadsText text

/-! ## Errors -/

/-- What the encoder raises. -/
@[reducible] def IsEncodingError (k : ErrorKind) : Prop :=
  k = .value_error ∨ k = .unicode_encode_error ∨ k = .type_error

theorem raisesOnly_primitive (v : PyValue) : RaisesOnly IsEncodingError (primitive v) := by
  have hitems : ∀ items : List PyValue, (∀ v ∈ items, RaisesOnly IsEncodingError (primitive v)) → RaisesOnly IsEncodingError (primitiveItems items) := by
    intro items
    induction items with
    | nil =>
      intro _ e he
      cases he
    | cons v vs ih =>
      intro h e he
      unfold primitiveItems at he
      cases hv : primitive v with
      | error e' =>
        rw [hv] at he
        cases he
        exact h v List.mem_cons_self _ hv
      | ok v' =>
        rw [hv] at he
        exact raisesOnly_map (ih fun w hw => h w (List.mem_cons_of_mem _ hw)) e he
  have hentries : ∀ items : List (PyStr × PyValue), (∀ x ∈ items, RaisesOnly IsEncodingError (primitive x.2)) →
      RaisesOnly IsEncodingError (primitiveEntries items) := by
    intro items
    induction items with
    | nil =>
      intro _ e he
      cases he
    | cons x xs ih =>
      intro h e he
      unfold primitiveEntries at he
      cases hv : primitive x.2 with
      | error e' =>
        rw [hv] at he
        cases he
        exact h x List.mem_cons_self _ hv
      | ok v' =>
        rw [hv] at he
        exact raisesOnly_map (ih fun w hw => h w (List.mem_cons_of_mem _ hw)) e he
  induction v with
  | none | bool b | int n | str s =>
    intro e he
    cases he
  | float f =>
    intro e he
    unfold primitive at he
    split at he
    · cases he
      decide
    · split at he <;> cases he
  | list items ih | tuple items ih => exact raisesOnly_map (hitems items ih)
  | dict items ih => exact raisesOnly_map (hentries items ih)
  | record cls fields ih => exact raisesOnly_map (hentries fields ih)

theorem raisesOnly_encodeCanonical (v : PyValue) : RaisesOnly IsEncodingError (encodeCanonical v) := by
  have hitems : ∀ items : List PyValue, (∀ v ∈ items, RaisesOnly IsEncodingError (encodeCanonical v)) →
      RaisesOnly IsEncodingError (encodeItems items) := by
    intro items
    induction items with
    | nil =>
      intro _ e he
      cases he
    | cons v vs ih =>
      intro h e he
      unfold encodeItems at he
      cases hv : encodeCanonical v with
      | error e' =>
        rw [hv] at he
        cases he
        exact h v List.mem_cons_self _ hv
      | ok text =>
        rw [hv] at he
        exact raisesOnly_map (ih fun w hw => h w (List.mem_cons_of_mem _ hw)) e he
  have hentries : ∀ items : List (PyStr × PyValue), (∀ x ∈ items, RaisesOnly IsEncodingError (encodeCanonical x.2)) →
      RaisesOnly IsEncodingError (encodeEntries items) := by
    intro items
    induction items with
    | nil =>
      intro _ e he
      cases he
    | cons x xs ih =>
      intro h e he
      unfold encodeEntries at he
      split at he
      · cases he
        decide
      cases hv : encodeCanonical x.2 with
      | error e' =>
        rw [hv] at he
        cases he
        exact h x List.mem_cons_self _ hv
      | ok text =>
        rw [hv] at he
        exact raisesOnly_map (ih fun w hw => h w (List.mem_cons_of_mem _ hw)) e he
  induction v with
  | none =>
    intro e he
    cases he
  | bool b =>
    intro e he
    cases b <;> cases he
  | int n =>
    intro e he
    simp only [encodeCanonical, intStr] at he
    split at he
    · cases he
      decide
    · cases he
  | str s =>
    intro e he
    simp only [encodeCanonical, encodeStr] at he
    split at he
    · cases he
    · cases he
      decide
  | float f =>
    intro e he
    simp only [encodeCanonical, ecmascriptNumber] at he
    repeat' split at he
    all_goals first
      | cases he
        decide
      | cases he
  | list items ih => exact raisesOnly_map (hitems items ih)
  | dict items ih => exact raisesOnly_map (hentries items ih)
  | tuple items ih =>
    intro e he
    cases he
    decide
  | record cls fields ih =>
    intro e he
    cases he
    decide

theorem raisesOnly_canonicalJsonBytes (v : PyValue) : RaisesOnly IsEncodingError (canonicalJsonBytes v) := by
  intro e he
  unfold canonicalJsonBytes at he
  cases hp : primitive v with
  | error e' =>
    rw [hp] at he
    cases he
    exact raisesOnly_primitive v _ hp
  | ok p =>
    rw [hp] at he
    dsimp only at he
    cases ht : encodeCanonical p with
    | error e' =>
      rw [ht] at he
      cases he
      exact raisesOnly_encodeCanonical p _ ht
    | ok text =>
      rw [ht] at he
      dsimp only at he
      split at he
      · cases he
      · cases he
        decide

theorem isException_of_isEncodingError {k : ErrorKind} (h : IsEncodingError k) : k.IsException := by
  rcases h with rfl | rfl | rfl <;> decide

end Json

end LeoFlow
