import LeoFlow.Core.JsonRoundTrip

/-!
# LeoFlow.Core.JsonAscii — `json.dumps` with its defaults

The library's own encoder writes ASCII only (`ensure_ascii`). A line is an object and a newline; `json.loads` reads
the object back from it.
-/

namespace LeoFlow

namespace Json

/-- `\uXXXX` -/
def unicodeEscape (c : Nat) : PyStr :=
  [92, 117, hexDigit (c / 4096), hexDigit (c / 256), hexDigit (c / 16), hexDigit c]

/-- `json.dumps(..)` of one character. -/
def escapeAscii (c : Nat) : PyStr :=
  if c < 127 then escapeChar c
  else if c < 0x10000 then unicodeEscape c
  else unicodeEscape (0xD800 + (c - 0x10000) / 0x400) ++ unicodeEscape (0xDC00 + (c - 0x10000) % 0x400)

/-- `json.dumps(s)` -/
def quoteAscii (s : PyStr) : PyStr := 34 :: (s.flatMap escapeAscii ++ [34])

/-- `json.dumps(.., separators=(",", ":"), sort_keys=True)` of an object whose keys are given in order. -/
def objectAscii (entries : List (PyStr × PyStr)) : PyStr :=
  123 :: (joinComma (entries.map fun e => quoteAscii e.1 ++ 58 :: e.2) ++ [125])

/-! ## Reading back -/

theorem scanString_escapeAscii {c : Nat} (hc : c < 128) (rest acc : PyStr) (high : Bool) :
    ∃ high', scanString (escapeAscii c ++ rest) acc high = scanString rest (c :: acc) high' := by
  by_cases hdel : c < 127
  · unfold escapeAscii
    rw [if_pos hdel]
    refine scanString_escapeChar ⟨by omega, by omega⟩ rest acc high
  · -- the delete character is escaped
    have h127 : c = 127 := by omega
    subst h127
    refine ⟨false, ?_⟩
    have hescape : escapeAscii 127 = [92, 117, 48, 48, 55, 102] := by decide
    have hhex : hex4 48 48 55 102 = some 127 := by decide
    have hlow : ¬IsLowSurrogate 127 := by decide
    have hhigh : ¬IsHighSurrogate 127 := by decide
    rw [hescape]
    simp only [List.cons_append, List.nil_append]
    rw [scanString.eq_def]
    simp only [hhex]
    cases high with
    | false => simp [hhigh]
    | true =>
      cases acc with
      | nil => simp [hhigh]
      | cons h acc => simp [hhigh, hlow]

theorem scanString_quoteAscii {s : PyStr} (hs : ∀ c ∈ s, c < 128) (rest acc : PyStr) (high : Bool) :
    scanString (s.flatMap escapeAscii ++ 34 :: rest) acc high = .ok (acc.reverse ++ s, rest) := by
  induction s generalizing acc high with
  | nil => simp [scanString]
  | cons c s ih =>
    obtain ⟨high', hscan⟩ := scanString_escapeAscii (hs c List.mem_cons_self)
      (s.flatMap escapeAscii ++ 34 :: rest) acc high
    rw [List.flatMap_cons, List.append_assoc, hscan, ih (fun c' hc' => hs c' (List.mem_cons_of_mem _ hc'))]
    simp

theorem ascii_escapeAscii {c : Nat} (hc : c < 128) : ∀ c' ∈ escapeAscii c, 32 ≤ c' ∧ c' < 0x80 := by
  have hall : ∀ c < 128, ∀ c' ∈ escapeAscii c, 32 ≤ c' ∧ c' < 0x80 := by decide
  exact hall c hc

theorem ascii_quoteAscii {s : PyStr} (hs : ∀ c ∈ s, c < 128) : ∀ c ∈ quoteAscii s, 32 ≤ c ∧ c < 0x80 := by
  intro c hc
  rcases List.mem_cons.1 hc with rfl | hc
  · decide
  rcases List.mem_append.1 hc with hc | hc
  · obtain ⟨c', hc', hmem⟩ := List.mem_flatMap.1 hc
    exact ascii_escapeAscii (hs c' hc') c hmem
  · rw [List.mem_singleton.1 hc]
    decide

theorem reads_quoteAscii {s : PyStr} (hs : ∀ c ∈ s, c < 128) : Reads (quoteAscii s) (.str s) := by
  obtain ⟨hencodable, hprintable⟩ := plain_of_ascii (ascii_quoteAscii hs)
  refine ⟨hencodable, hprintable, ⟨34, s.flatMap escapeAscii ++ [34], rfl, by decide⟩, ?_⟩
  intro hook _ fuel rest _ hfuel
  obtain ⟨fuel, rfl⟩ := Nat.exists_eq_succ_of_ne_zero (by omega : fuel ≠ 0)
  have hscan := scanString_quoteAscii hs rest [] false
  simp only [quoteAscii, List.cons_append, List.append_assoc, List.nil_append, scanHooked, hscan]
  rfl

/-- A key without the delete character is written as the canonical encoder writes it. -/
theorem quoteAscii_eq_quote {s : PyStr} (hs : ∀ c ∈ s, c < 127) : quoteAscii s = quote s := by
  have hescape : s.flatMap escapeAscii = s.flatMap escapeChar := by
    rw [List.flatMap_congr]
    intro c hc
    exact if_pos (hs c hc)
  unfold quoteAscii quote
  rw [hescape]

theorem reads_objectAscii {entries : List (PyStr × PyStr)} {items : List (PyStr × PyValue)}
    (h : List.Forall₂ ReadsEntry entries items) (hkeys : (items.map Prod.fst).Nodup)
    (hascii : ∀ e ∈ entries, ∀ c ∈ e.1, c < 127) : Reads (objectAscii entries) (.dict items) := by
  have hentries : (entries.map fun e => quoteAscii e.1 ++ 58 :: e.2) = entries.map entryText := by
    refine List.map_congr_left ?_
    intro e he
    rw [quoteAscii_eq_quote (hascii e he)]
    rfl
  unfold objectAscii
  rw [hentries]
  exact reads_dict h hkeys

/-- `json.loads` of a line. -/
theorem loads_line {text : PyStr} {v : PyValue} {bytes : Bytes} (h : Reads text v)
    (hbytes : encodeUtf8 (text ++ [10]) = some bytes) : loads bytes = .ok v := by
  have hstop : Stops [10] := by
    intro c hc
    have hc : c = 10 := by simpa using hc.symm
    subst hc
    decide
  have hnewline : ∀ c ∈ [10], ∀ b ∈ utf8Char c, b ≠ 0 := by
    intro c hc b hb
    rw [List.mem_singleton.1 hc, show utf8Char 10 = [10] from rfl, List.mem_singleton] at hb
    rw [hb]
    decide
  have hscan := h.scan dictHook keepsDistinct_dictHook (2 * (text ++ [10]).length + 2) [10] hstop
    (by rw [List.length_append]; omega)
  unfold loads
  rw [h.decodeDetected_append [10] hnewline hbytes]
  dsimp only
  unfold loadsText
  rw [h.skipWs [10], scanOnce_eq, hscan]
  rfl

end Json

end LeoFlow
