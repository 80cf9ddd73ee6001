import LeoFlow.Core.Str

/-!
# LeoFlow.Core.Sha256 — the SHA-256 hash function

`hexdigest m` is what `hashlib.sha256(m).hexdigest()` returns: 64 lower-case
hexadecimal characters. The message schedule is kept as a sliding window of
sixteen words, one round per constant.
-/

namespace LeoFlow.Sha256

abbrev Word := BitVec 32

def roundConstants : List Word := [
  0x428a2f98, 0x71374491, 0xb5c0fbcf, 0xe9b5dba5, 0x3956c25b, 0x59f111f1, 0x923f82a4, 0xab1c5ed5,
  0xd807aa98, 0x12835b01, 0x243185be, 0x550c7dc3, 0x72be5d74, 0x80deb1fe, 0x9bdc06a7, 0xc19bf174,
  0xe49b69c1, 0xefbe4786, 0x0fc19dc6, 0x240ca1cc, 0x2de92c6f, 0x4a7484aa, 0x5cb0a9dc, 0x76f988da,
  0x983e5152, 0xa831c66d, 0xb00327c8, 0xbf597fc7, 0xc6e00bf3, 0xd5a79147, 0x06ca6351, 0x14292967,
  0x27b70a85, 0x2e1b2138, 0x4d2c6dfc, 0x53380d13, 0x650a7354, 0x766a0abb, 0x81c2c92e, 0x92722c85,
  0xa2bfe8a1, 0xa81a664b, 0xc24b8b70, 0xc76c51a3, 0xd192e819, 0xd6990624, 0xf40e3585, 0x106aa070,
  0x19a4c116, 0x1e376c08, 0x2748774c, 0x34b0bcb5, 0x391c0cb3, 0x4ed8aa4a, 0x5b9cca4f, 0x682e6ff3,
  0x748f82ee, 0x78a5636f, 0x84c87814, 0x8cc70208, 0x90befffa, 0xa4506ceb, 0xbef9a3f7, 0xc67178f2]

/-- The eight chaining words. -/
structure Chain where
  a : Word
  b : Word
  c : Word
  d : Word
  e : Word
  f : Word
  g : Word
  h : Word

def initial : Chain :=
  ⟨0x6a09e667, 0xbb67ae85, 0x3c6ef372, 0xa54ff53a, 0x510e527f, 0x9b05688c, 0x1f83d9ab, 0x5be0cd19⟩

def Chain.toList (s : Chain) : List Word := [s.a, s.b, s.c, s.d, s.e, s.f, s.g, s.h]

/-- One round with round constant `k` and schedule word `w`. -/
def round (s : Chain) (k w : Word) : Chain :=
  let sum1 := s.e.rotateRight 6 ^^^ s.e.rotateRight 11 ^^^ s.e.rotateRight 25
  let choice := (s.e &&& s.f) ^^^ (~~~s.e &&& s.g)
  let temp1 := s.h + sum1 + choice + k + w
  let sum0 := s.a.rotateRight 2 ^^^ s.a.rotateRight 13 ^^^ s.a.rotateRight 22
  let majority := (s.a &&& s.b) ^^^ (s.a &&& s.c) ^^^ (s.b &&& s.c)
  ⟨temp1 + (sum0 + majority), s.a, s.b, s.c, s.d + temp1, s.e, s.f, s.g⟩

/-- The schedule word sixteen places after the head of the window. -/
def nextWord (w : List Word) : Word :=
  let w1 := w.getD 1 0
  let w14 := w.getD 14 0
  let sigma0 := w1.rotateRight 7 ^^^ w1.rotateRight 18 ^^^ (w1 >>> 3)
  let sigma1 := w14.rotateRight 17 ^^^ w14.rotateRight 19 ^^^ (w14 >>> 10)
  w.getD 0 0 + sigma0 + w.getD 9 0 + sigma1

def rounds : List Word → List Word → Chain → Chain
  | [], _, s => s
  | k :: ks, w, s => rounds ks (w.tail ++ [nextWord w]) (round s k (w.headD 0))

def compress (s : Chain) (block : List Word) : Chain :=
  let t := rounds roundConstants block s
  ⟨s.a + t.a, s.b + t.b, s.c + t.c, s.d + t.d, s.e + t.e, s.f + t.f, s.g + t.g, s.h + t.h⟩

/-- Big-endian words of a byte string whose length is a multiple of four. -/
def words : Bytes → List Word
  | a :: b :: c :: d :: rest =>
    BitVec.ofNat 32 (a.toNat * 0x1000000 + b.toNat * 0x10000 + c.toNat * 0x100 + d.toNat)
      :: words rest
  | _ => []

/-- The 64-bit big-endian length field. -/
def lengthField (n : Nat) : Bytes :=
  [56, 48, 40, 32, 24, 16, 8, 0].map fun i => UInt8.ofNat (n >>> i)

def pad (m : Bytes) : Bytes :=
  m ++ 0x80 :: List.replicate ((119 - m.length % 64) % 64) 0 ++ lengthField (8 * m.length)

/-- Compress `n` blocks of sixteen words. -/
def blocks : Nat → List Word → Chain → Chain
  | 0, _, s => s
  | n + 1, ws, s => blocks n (ws.drop 16) (compress s (ws.take 16))

def hash (m : Bytes) : Chain :=
  let ws := words (pad m)
  blocks (ws.length / 16) ws initial

def hexWord (w : Word) : PyStr :=
  [28, 24, 20, 16, 12, 8, 4, 0].map fun i => hexDigit (w.toNat >>> i)

def hexdigest (m : Bytes) : PyStr := (hash m).toList.flatMap hexWord

theorem length_hexdigest (m : Bytes) : (hexdigest m).length = 64 := rfl

theorem isLowerHex_hexdigest (m : Bytes) : ∀ c ∈ hexdigest m, IsLowerHex c := by
  intro c hc
  obtain ⟨w, _, hw⟩ := List.mem_flatMap.1 hc
  obtain ⟨i, _, rfl⟩ := List.mem_map.1 hw
  exact isLowerHex_hexDigit _

-- The test vector "abc".
example : hexdigest [97, 98, 99] =
    str "ba7816bf8f01cfea414140de5dae2223b00361a396177a9cb410ff61f20015ad" := by decide +kernel

end LeoFlow.Sha256
