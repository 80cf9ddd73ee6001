import LeoFlow.Core.Str

/-!
# LeoFlow.Core.Unicode — encodings of Python strings

`str.encode("utf-8")` and the key order `utf-16be`, which refuse surrogates, and
`bytes.decode(.., "surrogatepass")` for the encodings that `json.loads` detects.
-/

namespace LeoFlow

/-- `U+D800 .. U+DFFF` -/
@[reducible] def IsSurrogate (c : Nat) : Prop := 0xD800 ≤ c ∧ c ≤ 0xDFFF

@[reducible] def IsHighSurrogate (c : Nat) : Prop := 0xD800 ≤ c ∧ c ≤ 0xDBFF

@[reducible] def IsLowSurrogate (c : Nat) : Prop := 0xDC00 ≤ c ∧ c ≤ 0xDFFF

/-- The code point of a surrogate pair. -/
def joinSurrogates (high low : Nat) : Nat := 0x10000 + (high - 0xD800) * 0x400 + (low - 0xDC00)

/-- Every code point of the string can be encoded: none is a surrogate. -/
@[reducible] def Encodable (s : PyStr) : Prop := ∀ c ∈ s, c < 0x110000 ∧ ¬IsSurrogate c

/-! ## Encoding -/

def utf8Char (c : Nat) : Bytes :=
  if c < 0x80 then [UInt8.ofNat c]
  else if c < 0x800 then [UInt8.ofNat (0xC0 + c / 64), UInt8.ofNat (0x80 + c % 64)]
  else if c < 0x10000 then
    [UInt8.ofNat (0xE0 + c / 4096), UInt8.ofNat (0x80 + c / 64 % 64), UInt8.ofNat (0x80 + c % 64)]
  else
    [UInt8.ofNat (0xF0 + c / 262144), UInt8.ofNat (0x80 + c / 4096 % 64),
      UInt8.ofNat (0x80 + c / 64 % 64), UInt8.ofNat (0x80 + c % 64)]

/-- `s.encode("utf-8")`; `none` is `UnicodeEncodeError`. -/
def encodeUtf8 (s : PyStr) : Option Bytes :=
  if Encodable s then some (s.flatMap utf8Char) else none

/-- The code units of one code point in UTF-16, whose order is the order of the bytes. -/
def utf16Units (c : Nat) : List Nat :=
  if c < 0x10000 then [c] else [0xD800 + (c - 0x10000) / 0x400, 0xDC00 + (c - 0x10000) % 0x400]

/-! ## Decoding with `surrogatepass`

`none` is `UnicodeDecodeError`. -/

/-- The low six bits of a continuation byte. -/
def continuation (b : UInt8) : Option Nat :=
  if 0x80 ≤ b.toNat ∧ b.toNat < 0xC0 then some (b.toNat - 0x80) else none

def decodeUtf8 : Bytes → Option PyStr
  | [] => some []
  | b0 :: rest =>
    if b0.toNat < 0x80 then (decodeUtf8 rest).map (b0.toNat :: ·)
    else if b0.toNat < 0xC2 then none
    else
      match rest with
      | [] => none
      | b1 :: rest =>
        match continuation b1 with
        | none => none
        | some c1 =>
          if b0.toNat < 0xE0 then
            (decodeUtf8 rest).map (((b0.toNat - 0xC0) * 64 + c1) :: ·)
          else
            match rest with
            | [] => none
            | b2 :: rest =>
              match continuation b2 with
              | none => none
              | some c2 =>
                if b0.toNat < 0xF0 then
                  let c := (b0.toNat - 0xE0) * 4096 + c1 * 64 + c2
                  if c < 0x800 then none else (decodeUtf8 rest).map (c :: ·)
                else
                  match rest with
                  | [] => none
                  | b3 :: rest =>
                    match continuation b3 with
                    | none => none
                    | some c3 =>
                      let c := (b0.toNat - 0xF0) * 262144 + c1 * 4096 + c2 * 64 + c3
                      if c < 0x10000 ∨ 0x10FFFF < c then none else (decodeUtf8 rest).map (c :: ·)

/-- Code units of UTF-16 in one byte order. -/
def units16 (big : Bool) : Bytes → Option (List Nat)
  | [] => some []
  | [_] => none
  | a :: b :: rest =>
    (units16 big rest).map
      ((if big then a.toNat * 256 + b.toNat else b.toNat * 256 + a.toNat) :: ·)

/-- Pairs of surrogates join; lone ones pass. -/
def joinUnits : List Nat → PyStr
  | [] => []
  | [u] => [u]
  | u :: v :: rest =>
    if IsHighSurrogate u ∧ IsLowSurrogate v then joinSurrogates u v :: joinUnits rest
    else u :: joinUnits (v :: rest)

def decodeUtf16 (big : Bool) (b : Bytes) : Option PyStr := (units16 big b).map joinUnits

def decodeUtf32 (big : Bool) : Bytes → Option PyStr
  | [] => some []
  | a :: b :: c :: d :: rest =>
    let u := if big then ((a.toNat * 256 + b.toNat) * 256 + c.toNat) * 256 + d.toNat
      else ((d.toNat * 256 + c.toNat) * 256 + b.toNat) * 256 + a.toNat
    if u < 0x110000 then (decodeUtf32 big rest).map (u :: ·) else none
  | _ => none

/-- The encoding of bytes without a byte order mark, from where the zeros are. -/
def decodeUnmarked (b : Bytes) : Option PyStr :=
  match b with
  | b0 :: b1 :: b2 :: b3 :: _ =>
    if b0 = 0 then if b1 = 0 then decodeUtf32 true b else decodeUtf16 true b
    else if b1 = 0 then if b2 = 0 ∧ b3 = 0 then decodeUtf32 false b else decodeUtf16 false b
    else decodeUtf8 b
  | [b0, b1] =>
    if b0 = 0 then decodeUtf16 true b else if b1 = 0 then decodeUtf16 false b else decodeUtf8 b
  | _ => decodeUtf8 b

/-- `s.decode(json.detect_encoding(s), "surrogatepass")` -/
def decodeDetected (b : Bytes) : Option PyStr :=
  match b with
  | 0 :: 0 :: 0xFE :: 0xFF :: rest => decodeUtf32 true rest
  | 0xFF :: 0xFE :: 0 :: 0 :: rest => decodeUtf32 false rest
  | 0xFE :: 0xFF :: rest => decodeUtf16 true rest
  | 0xFF :: 0xFE :: rest => decodeUtf16 false rest
  | 0xEF :: 0xBB :: 0xBF :: rest => decodeUtf8 rest
  | _ => decodeUnmarked b

/-! ## UTF-8 reads back -/

theorem toNat_byte {n : Nat} (hn : n < 256) : (UInt8.ofNat n).toNat = n :=
  UInt8.toNat_ofNat_of_lt' hn

theorem continuation_ofNat {n : Nat} (hn : n < 64) : continuation (UInt8.ofNat (0x80 + n)) = some n := by
  unfold continuation
  rw [toNat_byte (by omega), if_pos (by omega)]
  simp

/-- One character, by the length of its encoding. -/
theorem decodeUtf8_utf8Char {c : Nat} (hc : c < 0x110000) (rest : Bytes) :
    decodeUtf8 (utf8Char c ++ rest) = (decodeUtf8 rest).map (c :: ·) := by
  unfold utf8Char
  split
  · rename_i h
    have h0 : (UInt8.ofNat c).toNat = c := toNat_byte (by omega)
    rw [List.singleton_append, decodeUtf8.eq_def]
    simp only [h0, if_pos h]
  split
  · rename_i h
    have h0 : (UInt8.ofNat (0xC0 + c / 64)).toNat = 0xC0 + c / 64 := toNat_byte (by omega)
    have h1 := continuation_ofNat (n := c % 64) (by omega)
    have hvalue : (0xC0 + c / 64 - 0xC0) * 64 + c % 64 = c := by omega
    simp only [List.cons_append, List.nil_append, decodeUtf8, h0, h1, hvalue]
    rw [if_neg (by omega), if_neg (by omega), if_pos (by omega)]
  split
  · rename_i h
    have h0 : (UInt8.ofNat (0xE0 + c / 4096)).toNat = 0xE0 + c / 4096 :=
      toNat_byte (by omega)
    have h1 := continuation_ofNat (n := c / 64 % 64) (by omega)
    have h2 := continuation_ofNat (n := c % 64) (by omega)
    have hvalue : (0xE0 + c / 4096 - 0xE0) * 4096 + c / 64 % 64 * 64 + c % 64 = c := by omega
    simp only [List.cons_append, List.nil_append, decodeUtf8, h0, h1, h2, hvalue]
    rw [if_neg (by omega), if_neg (by omega), if_neg (by omega), if_pos (by omega), if_neg (by omega)]
  · have h0 : (UInt8.ofNat (0xF0 + c / 262144)).toNat = 0xF0 + c / 262144 :=
      toNat_byte (by omega)
    have h1 := continuation_ofNat (n := c / 4096 % 64) (by omega)
    have h2 := continuation_ofNat (n := c / 64 % 64) (by omega)
    have h3 := continuation_ofNat (n := c % 64) (by omega)
    have hvalue : (0xF0 + c / 262144 - 0xF0) * 262144 + c / 4096 % 64 * 4096 + c / 64 % 64 * 64 + c % 64 = c := by
      omega
    simp only [List.cons_append, List.nil_append, decodeUtf8, h0, h1, h2, h3, hvalue]
    rw [if_neg (by omega), if_neg (by omega), if_neg (by omega), if_neg (by omega), if_neg (by omega)]

theorem decodeUtf8_encode {s : PyStr} (hs : Encodable s) :
    decodeUtf8 (s.flatMap utf8Char) = some s := by
  induction s with
  | nil => rfl
  | cons c s ih =>
    have hc : c < 0x110000 := (hs c List.mem_cons_self).1
    have hrest : Encodable s := fun c' hc' => hs c' (List.mem_cons_of_mem _ hc')
    rw [List.flatMap_cons, decodeUtf8_utf8Char hc, ih hrest, Option.map_some]

/-- Text without control characters has no zero byte. -/
theorem utf8Char_ne_zero {c : Nat} (hc : c < 0x110000) (hpos : 32 ≤ c) : ∀ b ∈ utf8Char c, b ≠ 0 := by
  have hne : ∀ n, 0 < n → n < 256 → UInt8.ofNat n ≠ 0 := by
    intro n h0 h1 heq
    have := congrArg UInt8.toNat heq
    rw [toNat_byte h1] at this
    simp at this
    omega
  unfold utf8Char
  intro b hb
  split at hb
  · simp only [List.mem_singleton] at hb
    exact hb ▸ hne c (by omega) (by omega)
  split at hb
  · simp only [List.mem_cons, List.not_mem_nil, or_false] at hb
    rcases hb with rfl | rfl
    · exact hne _ (by omega) (by omega)
    · exact hne _ (by omega) (by omega)
  split at hb
  · simp only [List.mem_cons, List.not_mem_nil, or_false] at hb
    rcases hb with rfl | rfl | rfl
    · exact hne _ (by omega) (by omega)
    · exact hne _ (by omega) (by omega)
    · exact hne _ (by omega) (by omega)
  · simp only [List.mem_cons, List.not_mem_nil, or_false] at hb
    rcases hb with rfl | rfl | rfl | rfl
    · exact hne _ (by omega) (by omega)
    · exact hne _ (by omega) (by omega)
    · exact hne _ (by omega) (by omega)
    · exact hne _ (by omega) (by omega)

/-- Bytes that start with ASCII and hold no zero are taken for UTF-8. -/
theorem decodeDetected_utf8 {b0 : UInt8} {rest : Bytes} (h0 : b0.toNat < 0x80)
    (hne : ∀ b ∈ b0 :: rest, b ≠ 0) : decodeDetected (b0 :: rest) = decodeUtf8 (b0 :: rest) := by
  have hb0 : b0 ≠ 0 := hne b0 List.mem_cons_self
  have hrest : ∀ b ∈ rest, b ≠ 0 := fun b hb => hne b (List.mem_cons_of_mem _ hb)
  unfold decodeDetected
  split
  · rename_i heq
    exact absurd (List.cons.inj heq).1 hb0
  iterate 4
    · rename_i heq
      rw [(List.cons.inj heq).1] at h0
      exact absurd h0 (by decide)
  · unfold decodeUnmarked
    split <;> simp_all

end LeoFlow
