import LeoFlow.Core.JsonHook
import LeoFlow.Core.NumberLayout

/-!
# LeoFlow.Core.JsonRoundTrip — `json.loads` reads canonical JSON back

`normal v` is what comes back from the text of `v`: dictionaries in key order, and
integers where the text of a float is integral. `loads_canonical` is the round
trip, and `canonical_normal` says that the value read back has the same text.
-/

namespace LeoFlow

namespace Json

/-! ## Scalars -/

theorem scanScalar_numeral (n : Numeral) (negative : Bool) {rest : PyStr} (hstop : Stops rest) :
    scanScalar (signText negative ++ n.text ++ rest) =
      (numberValue negative n.whole n.fraction n.exponentValue).map fun v => (v, rest) := by
  obtain ⟨c, tail, hcons, hc⟩ : ∃ c tail, n.text ++ rest = c :: tail ∧ IsDigit c := by
    rcases n.head_whole with hzero | ⟨c, w, hw, _⟩
    · exact ⟨48, n.fractionText ++ (n.exponentText ++ rest), by simp [Numeral.text, hzero], by decide⟩
    · refine ⟨c, w ++ (n.fractionText ++ (n.exponentText ++ rest)), by simp [Numeral.text, hw], ?_⟩
      exact n.allDigits_whole c (by rw [hw]; exact List.mem_cons_self)
  rw [← n.scanNumber_text negative hstop, List.append_assoc, hcons]
  cases negative with
  | false =>
    -- a digit starts none of the literals
    simp only [signText, Bool.false_eq_true, if_false, List.nil_append]
    unfold scanScalar
    split <;> simp_all <;> omega
  | true =>
    have hinf : afterLiteral (str "Infinity") (c :: tail) = none := by
      unfold afterLiteral
      refine if_neg fun h => ?_
      have hhead := congrArg List.head? h
      simp [str] at hhead
      omega
    simp [signText, scanScalar, hinf]

/-- A whole number token. -/
def wholeNumeral (ds : PyStr) (h : AllDigits ds) (hhead : ds = [48] ∨ ∃ c rest, ds = c :: rest ∧ c ≠ 48) :
    Numeral :=
  ⟨ds, none, none, h, hhead, by simp, by simp⟩

variable {text : PyStr}

theorem scanScalar_int {n : Int} {rest : PyStr} (h : intStr n = .ok text) (hstop : Stops rest) :
    scanScalar (text ++ rest) = .ok (.int n, rest) := by
  unfold intStr at h
  dsimp only at h
  split at h
  · cases h
  rename_i hlen
  have hhead : PyFloat.natStr n.natAbs = [48] ∨ ∃ c rest, PyFloat.natStr n.natAbs = c :: rest ∧ c ≠ 48 := by
    by_cases hn : n.natAbs = 0
    · rw [hn]
      exact Or.inl rfl
    · exact Or.inr (natStr_head hn)
  have hscan := scanScalar_numeral (wholeNumeral _ (allDigits_natStr n.natAbs) hhead) (decide (n < 0)) hstop
  have htext : signText (decide (n < 0)) ++
      (wholeNumeral _ (allDigits_natStr n.natAbs) hhead).text = text := by
    cases h
    by_cases hneg : n < 0 <;>
      simp [signText, hneg, wholeNumeral, Numeral.text, Numeral.fractionText, Numeral.exponentText]
  rw [htext] at hscan
  rw [hscan]
  have hvalue : (if n < 0 then -(n.natAbs : Int) else n.natAbs) = n := by
    split <;> omega
  simp only [wholeNumeral, Numeral.exponentValue, Option.map_none, numberValue, if_neg hlen,
    digitsValue_natStr, decide_eq_true_eq, hvalue]
  rfl

theorem signedValue_of_allDigits {ds : PyStr} (h : AllDigits ds) : signedValue ds = digitsValue ds := by
  unfold signedValue
  split
  · exact absurd (h 45 List.mem_cons_self) (by decide)
  · exact absurd (h 43 List.mem_cons_self) (by decide)
  · rfl

/-- What `json.loads` returns for the text of a float: an integral text is an `int`. -/
def readFloat (f : PyFloat) : PyValue :=
  match ecmascriptNumber f with
  | .ok text => if 46 ∈ text ∨ 101 ∈ text then .float f else .int (signedValue text)
  | .error _ => .float f

/-- An integral text, or the text of a number with a point or an exponent. -/
theorem readFloat_cases (negative : Bool) {m : Nat} {e : Int} (hm : m ≠ 0) (h : CanonicalFloat m e) :
    ∃ n : Numeral, ecmascriptNumber (.finite negative m e h) = .ok (signText negative ++ n.text) ∧
      numberValue negative n.whole n.fraction n.exponentValue = .ok (readFloat (.finite negative m e h)) ∧
      (readFloat (.finite negative m e h) = .float (.finite negative m e h) ∨
        n.fraction = none ∧ n.exponent = none ∧
          readFloat (.finite negative m e h) =
            .int (if negative then -(digitsValue n.whole : Int) else digitsValue n.whole) ∧
          PyFloat.ofRatio negative (digitsValue n.whole) 1 = .finite negative m e h) := by
  obtain ⟨n, htext, hreads, hlen⟩ := ecmascriptNumber_numeral negative hm h
  have hwhole : ∀ c, ¬IsDigit c → c ∉ n.whole := fun c hc => not_mem_of_allDigits n.allDigits_whole hc
  have hsigned : signedValue (signText negative ++ n.whole) =
      if negative then -(digitsValue n.whole : Int) else digitsValue n.whole := by
    cases negative with
    | true => rfl
    | false =>
      have hdigits := signedValue_of_allDigits n.allDigits_whole
      simpa [signText] using hdigits
  refine ⟨n, htext, ?_⟩
  unfold readFloat
  rw [htext]
  dsimp only
  by_cases hint : n.fraction = none ∧ n.exponent = none
  · obtain ⟨hfrac, hexp⟩ := hint
    have hno : ¬(46 ∈ signText negative ++ n.text ∨ 101 ∈ signText negative ++ n.text) := by
      have h46 := not_mem_signText negative (c := 46) (by decide)
      have h101 := not_mem_signText negative (c := 101) (by decide)
      simp [Numeral.text, Numeral.fractionText, Numeral.exponentText, hfrac, hexp, h46, h101,
        hwhole 46 (by decide), hwhole 101 (by decide)]
    have htext' : n.text = n.whole := by
      simp [Numeral.text, Numeral.fractionText, Numeral.exponentText, hfrac, hexp]
    rw [if_neg hno, htext', hsigned]
    refine ⟨?_, Or.inr ⟨hfrac, hexp, rfl, ?_⟩⟩
    · simp only [hfrac, Numeral.exponentValue, hexp, Option.map_none, numberValue, if_neg (not_lt.2 hlen)]
    · have hmantissa : n.mantissa = digitsValue n.whole := by simp [Numeral.mantissa, hfrac]
      have hscale : n.scale = 0 := by simp [Numeral.scale, Numeral.exponentValue, hfrac, hexp]
      rw [← hmantissa, ← PyFloat.ofDecimal_nat, ← hscale]
      exact hreads
  · have hmark : 46 ∈ signText negative ++ n.text ∨ 101 ∈ signText negative ++ n.text := by
      unfold Numeral.text Numeral.fractionText Numeral.exponentText
      cases hfrac : n.fraction with
      | some ds => exact Or.inl (by simp)
      | none =>
        cases hexp : n.exponent with
        | some x => exact Or.inr (by simp)
        | none => exact absurd ⟨hfrac, hexp⟩ hint
    rw [if_pos hmark]
    refine ⟨?_, Or.inl rfl⟩
    unfold Numeral.mantissa Numeral.scale at hreads
    unfold numberValue
    split
    · rename_i hfrac hexp
      have hnone : n.exponent = none := by simpa [Numeral.exponentValue] using hexp
      exact absurd ⟨hfrac, hnone⟩ hint
    · simp only [hreads]

/-- A float zero reads as the integer zero. -/
theorem readFloat_zero (negative : Bool) {e : Int} (h : CanonicalFloat 0 e) :
    readFloat (.finite negative 0 e h) = .int 0 := by
  rfl

theorem scanScalar_float {f : PyFloat} {rest : PyStr} (h : ecmascriptNumber f = .ok text) (hstop : Stops rest) : scanScalar (text ++ rest) = .ok (readFloat f, rest) := by
  cases f with
  | nan | inf negative => cases h
  | finite negative m e hcanonical =>
    by_cases hm : m = 0
    · subst hm
      have hzero : intStr 0 = .ok text := h
      exact scanScalar_int hzero hstop
    · obtain ⟨n, htext, hvalue, _⟩ := readFloat_cases negative hm hcanonical
      rw [h] at htext
      cases htext
      rw [scanScalar_numeral n negative hstop, hvalue]
      rfl

/-- The integer read from a float's text. -/
theorem readFloat_int {negative : Bool} {m : Nat} {e : Int} {h : CanonicalFloat m e} {n : Int}
    (hm : m ≠ 0) (hn : readFloat (.finite negative m e h) = .int n) :
    decide (n < 0) = negative ∧ PyFloat.ofRatio negative n.natAbs 1 = .finite negative m e h ∧
      ecmascriptNumber (.finite negative m e h) =
        .ok (signText negative ++ PyFloat.natStr n.natAbs) ∧
      ¬4300 < (PyFloat.natStr n.natAbs).length := by
  obtain ⟨num, htext, hvalue, hfloat | ⟨hfrac, hexp, hint, hreads⟩⟩ := readFloat_cases negative hm h
  · rw [hfloat] at hn
    cases hn
  · -- a float that is not zero has a whole part that is not zero
    have hpos : digitsValue num.whole ≠ 0 := by
      intro hzero
      rw [hzero, PyFloat.ofRatio, if_pos rfl] at hreads
      simp only [PyFloat.zero, PyFloat.finite.injEq] at hreads
      exact hm hreads.2.1.symm
    have hnat : PyFloat.natStr (digitsValue num.whole) = num.whole := by
      rcases num.head_whole with hzero | ⟨c, tail, hcons, hc⟩
      · rw [hzero] at hpos
        exact absurd rfl hpos
      · have hdigits := num.allDigits_whole
        rw [hcons] at hdigits ⊢
        exact natStr_digitsValue hdigits hc
    have htext' : num.text = num.whole := by
      simp [Numeral.text, Numeral.fractionText, Numeral.exponentText, hfrac, hexp]
    have hlen : ¬4300 < num.whole.length := by
      intro hlong
      simp only [hfrac, Numeral.exponentValue, hexp, Option.map_none, numberValue, if_pos hlong] at hvalue
      cases hvalue
    rw [hint] at hn
    have hsign : decide (n < 0) = negative ∧ n.natAbs = digitsValue num.whole := by
      cases hn
      cases negative
      · simp
      · simp
        omega
    rw [hsign.2, hnat]
    exact ⟨hsign.1, hreads, htext' ▸ htext, hlen⟩

/-- `float()` of an integral text gives the float back. -/
theorem ofInt_readFloat {negative : Bool} {m : Nat} {e : Int} {h : CanonicalFloat m e} {n : Int}
    (hm : m ≠ 0) (hn : readFloat (.finite negative m e h) = .int n) :
    PyFloat.ofInt n = some (.finite negative m e h) := by
  obtain ⟨hsign, hreads, _⟩ := readFloat_int hm hn
  unfold PyFloat.ofInt
  rw [hsign, hreads]

/-- The integer read from a float's text has that text. -/
theorem intStr_readFloat {f : PyFloat} {n : Int} (hn : readFloat f = .int n) (h : ecmascriptNumber f = .ok text) : intStr n = .ok text := by
  cases f with
  | nan | inf negative => cases h
  | finite negative m e hcanonical =>
    by_cases hm : m = 0
    · subst hm
      rw [readFloat_zero] at hn
      cases hn
      exact h
    · obtain ⟨hsign, _, htext, hlen⟩ := readFloat_int hm hn
      rw [htext] at h
      cases h
      unfold intStr
      dsimp only
      rw [if_neg hlen]
      cases negative with
      | true => rw [if_pos (of_decide_eq_true hsign)]; rfl
      | false => rw [if_neg (of_decide_eq_false hsign)]; rfl

/-! ## Strings -/

theorem scanString_escapeChar {c : Nat} (hc : c < 0x110000 ∧ ¬IsSurrogate c) (rest acc : PyStr) (high : Bool) :
    ∃ high', scanString (escapeChar c ++ rest) acc high = scanString rest (c :: acc) high' := by
  unfold escapeChar
  -- the two-character escapes
  split
  · rename_i h
    subst h
    exact ⟨false, by simp [scanString, unescape]⟩
  split
  · rename_i h
    subst h
    exact ⟨false, by simp [scanString, unescape]⟩
  split
  · rename_i h
    subst h
    exact ⟨false, by simp [scanString, unescape]⟩
  split
  · rename_i h
    subst h
    exact ⟨false, by simp [scanString, unescape]⟩
  split
  · rename_i h
    subst h
    exact ⟨false, by simp [scanString, unescape]⟩
  split
  · rename_i h
    subst h
    exact ⟨false, by simp [scanString, unescape]⟩
  split
  · rename_i h
    subst h
    exact ⟨false, by simp [scanString, unescape]⟩
  split
  · -- `\u00XX`
    rename_i h
    have hhex : hex4 48 48 (hexDigit (c / 16)) (hexDigit c) = some c := by
      have hall : ∀ c < 32, hex4 48 48 (hexDigit (c / 16)) (hexDigit c) = some c := by decide
      exact hall c h
    have hlow : ¬IsLowSurrogate c := by omega
    refine ⟨decide (IsHighSurrogate c), ?_⟩
    simp only [List.cons_append, List.nil_append]
    rw [scanString.eq_def]
    simp only [hhex]
    cases high with
    | false => rfl
    | true =>
      cases acc with
      | nil => rfl
      | cons h acc => simp only [if_neg hlow]
  · refine ⟨false, ?_⟩
    rw [List.singleton_append, scanString.eq_def]
    split <;> simp_all

theorem scanString_quote {s : PyStr} (hs : Encodable s) (rest acc : PyStr) (high : Bool) :
    scanString (s.flatMap escapeChar ++ 34 :: rest) acc high = .ok (acc.reverse ++ s, rest) := by
  induction s generalizing acc high with
  | nil => simp [scanString]
  | cons c s ih =>
    obtain ⟨high', hscan⟩ := scanString_escapeChar (hs c List.mem_cons_self)
      (s.flatMap escapeChar ++ 34 :: rest) acc high
    rw [List.flatMap_cons, List.append_assoc, hscan,
      ih (fun c' hc' => hs c' (List.mem_cons_of_mem _ hc'))]
    simp

/-! ## Texts -/

mutual

/-- How many calls the scan of a value has open at once: arrays, objects and the hook. -/
def depth : PyValue → Nat
  | .list items | .tuple items => depthItems items + 1
  | .dict items | .record _ items => max (depthEntries items) 1 + 1
  | _ => 0

/-- The deepest of the items. -/
def depthItems : List PyValue → Nat
  | [] => 0
  | v :: vs => max (depth v) (depthItems vs)

/-- The deepest of the entries. -/
def depthEntries : List (PyStr × PyValue) → Nat
  | [] => 0
  | (_, v) :: xs => max (depth v) (depthEntries xs)

end

/-- The hook makes the dictionary of pairs whose keys are distinct. -/
def KeepsDistinct (hook : Hook) : Prop := ∀ pairs, (pairs.map Prod.fst).Nodup → hook pairs = .ok (.dict pairs)

/-- `scan_once` reads the text as `v`, whatever follows it. The text has no control
characters, UTF-8 can carry it, and it starts with an ASCII character that is
neither white space nor a closing bracket. -/
structure Reads (text : PyStr) (v : PyValue) : Prop where
  encodable : Encodable text
  printable : ∀ c ∈ text, 32 ≤ c
  head : ∃ c rest, text = c :: rest ∧ 33 ≤ c ∧ c < 0x80 ∧ c ≠ 93 ∧ c ≠ 125
  scan : ∀ hook, KeepsDistinct hook → ∀ fuel rest, Stops rest → text.length < fuel →
    scanHooked hook fuel (text ++ rest) = (depth v, .ok (v, rest))

theorem skipWs_cons {c : Nat} (hc : 33 ≤ c) (rest : PyStr) : skipWs (c :: rest) = c :: rest := by
  unfold skipWs
  exact if_neg (by omega)

variable {v : PyValue}

theorem Reads.skipWs (h : Reads text v) (rest : PyStr) :
    Json.skipWs (text ++ rest) = text ++ rest := by
  obtain ⟨c, tail, rfl, hc, _⟩ := h.head
  exact skipWs_cons hc _

/-- Digits, signs, points and letters are plain characters. -/
theorem plain_of_ascii (h : ∀ c ∈ text, 32 ≤ c ∧ c < 0x80) :
    Encodable text ∧ ∀ c ∈ text, 32 ≤ c :=
  ⟨fun c hc => ⟨by have := h c hc; omega, by have := h c hc; omega⟩, fun c hc => (h c hc).1⟩

/-- A text that is not a string, an array or an object is a scalar. -/
theorem reads_of_scanScalar {c : Nat} {tail : PyStr} (hcons : text = c :: tail)
    (hc : c = 45 ∨ IsDigit c ∨ c = 110 ∨ c = 116 ∨ c = 102) (hascii : ∀ c ∈ text, 32 ≤ c ∧ c < 0x80)
    (hdepth : depth v = 0) (hscan : ∀ rest, Stops rest → scanScalar (text ++ rest) = .ok (v, rest)) :
    Reads text v := by
  obtain ⟨hencodable, hprintable⟩ := plain_of_ascii hascii
  refine ⟨hencodable, hprintable, ⟨c, tail, hcons, by omega, by omega, by omega, by omega⟩, ?_⟩
  intro hook _ fuel rest hstop hfuel
  obtain ⟨fuel, rfl⟩ := Nat.exists_eq_succ_of_ne_zero (by omega : fuel ≠ 0)
  rw [← hscan rest hstop, hdepth]
  unfold scanHooked
  split
  · rename_i heq
    rw [hcons] at heq
    cases heq
    omega
  · rename_i heq
    rw [hcons] at heq
    cases heq
    omega
  · rename_i heq
    rw [hcons] at heq
    cases heq
    omega
  · rfl

theorem ascii_of_allDigits {ds : PyStr} (h : AllDigits ds) : ∀ c ∈ ds, 32 ≤ c ∧ c < 0x80 := by
  intro c hc
  have hdigit := h c hc
  omega

theorem ascii_signText (negative : Bool) : ∀ c ∈ signText negative, 32 ≤ c ∧ c < 0x80 := by
  cases negative <;> simp [signText]

theorem ascii_append {a b : PyStr} (ha : ∀ c ∈ a, 32 ≤ c ∧ c < 0x80) (hb : ∀ c ∈ b, 32 ≤ c ∧ c < 0x80) :
    ∀ c ∈ a ++ b, 32 ≤ c ∧ c < 0x80 := by
  intro c hc
  rcases List.mem_append.1 hc with h | h
  · exact ha c h
  · exact hb c h

theorem ascii_numeral (n : Numeral) : ∀ c ∈ n.text, 32 ≤ c ∧ c < 0x80 := by
  refine ascii_append (ascii_of_allDigits n.allDigits_whole) (ascii_append ?_ ?_)
  · unfold Numeral.fractionText
    split
    · simp
    · rename_i ds hfrac
      intro c hc
      rcases List.mem_cons.1 hc with rfl | hc
      · decide
      · exact ascii_of_allDigits (n.fraction_ok ds hfrac).2 c hc
  · unfold Numeral.exponentText
    split
    · simp
    · rename_i negative ds hexp
      intro c hc
      rcases List.mem_cons.1 hc with rfl | hc
      · decide
      rcases List.mem_cons.1 hc with rfl | hc
      · cases negative <;> decide
      · exact ascii_of_allDigits (n.exponent_ok _ hexp).2 c hc

theorem head_signed (negative : Bool) (h : ∃ c rest, text = c :: rest ∧ IsDigit c) :
    ∃ c rest, signText negative ++ text = c :: rest ∧
      (c = 45 ∨ IsDigit c ∨ c = 110 ∨ c = 116 ∨ c = 102) := by
  obtain ⟨c, rest, rfl, hc⟩ := h
  cases negative with
  | true => exact ⟨45, c :: rest, rfl, Or.inl rfl⟩
  | false => exact ⟨c, rest, rfl, Or.inr (Or.inl hc)⟩

theorem head_numeral (n : Numeral) : ∃ c rest, n.text = c :: rest ∧ IsDigit c := by
  rcases n.head_whole with hzero | ⟨c, w, hw, _⟩
  · exact ⟨48, n.fractionText ++ n.exponentText, by simp [Numeral.text, hzero], by decide⟩
  · refine ⟨c, w ++ (n.fractionText ++ n.exponentText), by simp [Numeral.text, hw], ?_⟩
    exact n.allDigits_whole c (by rw [hw]; exact List.mem_cons_self)

theorem reads_int {n : Int} (h : intStr n = .ok text) : Reads text (.int n) := by
  have htext : text = signText (decide (n < 0)) ++ PyFloat.natStr n.natAbs := by
    unfold intStr at h
    dsimp only at h
    split at h
    · cases h
    · cases h
      by_cases hneg : n < 0 <;> simp [signText, hneg]
  have hhead : ∃ c rest, PyFloat.natStr n.natAbs = c :: rest ∧ IsDigit c := by
    obtain ⟨c, rest, hcons⟩ := List.exists_cons_of_ne_nil (natStr_ne_nil n.natAbs)
    exact ⟨c, rest, hcons, allDigits_natStr n.natAbs c (by rw [hcons]; exact List.mem_cons_self)⟩
  obtain ⟨c, rest, hcons, hc⟩ := head_signed (decide (n < 0)) hhead
  refine reads_of_scanScalar (htext.trans hcons) hc ?_ rfl fun rest hstop => scanScalar_int h hstop
  rw [htext]
  exact ascii_append (ascii_signText _) (ascii_of_allDigits (allDigits_natStr _))

theorem depth_readFloat (f : PyFloat) : depth (readFloat f) = 0 := by
  unfold readFloat
  split
  · split <;> rfl
  · rfl

theorem reads_float {f : PyFloat} (h : ecmascriptNumber f = .ok text) :
    Reads text (readFloat f) := by
  cases f with
  | nan | inf negative => cases h
  | finite negative m e hcanonical =>
    by_cases hm : m = 0
    · subst hm
      have hzero : intStr 0 = .ok text := h
      exact reads_int hzero
    · obtain ⟨n, htext, _⟩ := readFloat_cases negative hm hcanonical
      have hscan : ∀ rest, Stops rest → scanScalar (text ++ rest) = .ok (readFloat _, rest) :=
        fun _ hstop => scanScalar_float h hstop
      rw [h] at htext
      cases htext
      obtain ⟨c, rest, hcons, hc⟩ := head_signed negative (head_numeral n)
      exact reads_of_scanScalar hcons hc (ascii_append (ascii_signText _) (ascii_numeral n))
        (depth_readFloat _) hscan

theorem reads_null : Reads (str "null") .none :=
  reads_of_scanScalar rfl (by decide) (by decide) rfl fun _ _ => by simp [str, scanScalar, afterLiteral]

theorem reads_true : Reads (str "true") (.bool true) :=
  reads_of_scanScalar rfl (by decide) (by decide) rfl fun _ _ => by simp [str, scanScalar, afterLiteral]

theorem reads_false : Reads (str "false") (.bool false) :=
  reads_of_scanScalar rfl (by decide) (by decide) rfl fun _ _ => by simp [str, scanScalar, afterLiteral]

theorem plain_escapeChar {c : Nat} (hc : c < 0x110000 ∧ ¬IsSurrogate c) :
    ∀ c' ∈ escapeChar c, (c' < 0x110000 ∧ ¬IsSurrogate c') ∧ 32 ≤ c' := by
  by_cases h : 32 ≤ c
  · unfold escapeChar
    split_ifs
    all_goals simp_all
    omega
  · have hall : ∀ c < 32, ∀ c' ∈ escapeChar c, (c' < 0x110000 ∧ ¬IsSurrogate c') ∧ 32 ≤ c' := by decide
    exact hall c (by omega)

/-- A quoted string is plain text. -/
theorem plain_quote {s : PyStr} (hs : Encodable s) :
    ∀ c ∈ quote s, (c < 0x110000 ∧ ¬IsSurrogate c) ∧ 32 ≤ c := by
  intro c hc
  rcases List.mem_cons.1 hc with rfl | hc
  · decide
  rcases List.mem_append.1 hc with hc | hc
  · obtain ⟨c', hc', hmem⟩ := List.mem_flatMap.1 hc
    exact plain_escapeChar (hs c' hc') c hmem
  · rw [List.mem_singleton.1 hc]
    decide

theorem reads_str {s : PyStr} (h : encodeStr s = .ok text) : Reads text (.str s) := by
  unfold encodeStr at h
  split at h
  · rename_i hs
    cases h
    have hplain := plain_quote hs
    refine ⟨fun c hc => (hplain c hc).1, fun c hc => (hplain c hc).2,
      ⟨34, s.flatMap escapeChar ++ [34], rfl, by decide⟩, ?_⟩
    intro hook _ fuel rest _ hfuel
    obtain ⟨fuel, rfl⟩ := Nat.exists_eq_succ_of_ne_zero (by omega : fuel ≠ 0)
    have hscan := scanString_quote hs rest [] false
    simp only [quote, List.cons_append, List.append_assoc, List.nil_append, scanHooked, hscan]
    rfl
  · cases h

/-! ## Arrays and objects -/

theorem joinComma_cons (t t' : PyStr) (ts : List PyStr) :
    joinComma (t :: t' :: ts) = t ++ 44 :: joinComma (t' :: ts) := rfl

/-- What holds of the characters of all parts holds of the joined text. -/
theorem forall_joinComma {Q : Nat → Prop} (hcomma : Q 44) {ts : List PyStr} (h : ∀ t ∈ ts, ∀ c ∈ t, Q c) :
    ∀ c ∈ joinComma ts, Q c := by
  induction ts with
  | nil =>
    intro c hc
    cases hc
  | cons t ts ih =>
    have hrest := ih fun t' ht' => h t' (List.mem_cons_of_mem _ ht')
    cases ts with
    | nil => exact h t List.mem_cons_self
    | cons t' ts =>
      intro c hc
      rw [joinComma_cons] at hc
      rcases List.mem_append.1 hc with hc | hc
      · exact h t List.mem_cons_self c hc
      rcases List.mem_cons.1 hc with rfl | hc
      · exact hcomma
      · exact hrest c hc

/-- The first character of a joined text is that of its first part. -/
theorem head_joinComma {Q : Nat → Prop} {t : PyStr} (ts : List PyStr)
    (h : ∃ c rest, t = c :: rest ∧ Q c) : ∃ c rest, joinComma (t :: ts) = c :: rest ∧ Q c := by
  obtain ⟨c, rest, rfl, hc⟩ := h
  cases ts with
  | nil => exact ⟨c, rest, rfl, hc⟩
  | cons t' ts => exact ⟨c, rest ++ 44 :: joinComma (t' :: ts), rfl, hc⟩

theorem skipWs_joinComma {t : PyStr} (ts : List PyStr) (h : ∃ c rest, t = c :: rest ∧ 33 ≤ c)
    (rest : PyStr) : skipWs (joinComma (t :: ts) ++ rest) = joinComma (t :: ts) ++ rest := by
  obtain ⟨c, tail, hcons, hc⟩ := head_joinComma ts h
  rw [hcons, List.cons_append, skipWs_cons hc]

variable {hook : Hook}

theorem scanItems_join {ts : List PyStr} {vs : List PyValue} (h : List.Forall₂ Reads ts vs)
    (hhook : KeepsDistinct hook) (hne : ts ≠ []) (fuel : Nat) (rest : PyStr) (acc : List PyValue)
    (hfuel : (joinComma ts).length + 1 < fuel) :
    scanItemsHooked hook fuel (joinComma ts ++ 93 :: rest) acc =
      (depthItems vs, .ok (acc.reverse ++ vs, rest)) := by
  induction h generalizing fuel acc with
  | nil => exact absurd rfl hne
  | @cons t v ts vs ht hts ih =>
    obtain ⟨fuel, rfl⟩ := Nat.exists_eq_succ_of_ne_zero (by omega : fuel ≠ 0)
    cases hts with
    | nil =>
      have hscan := ht.scan hook hhook fuel (93 :: rest) (stops_cons rest) (by simpa [joinComma] using hfuel)
      simp [joinComma, scanItemsHooked, hscan, skipWs_cons, depthItems]
    | @cons t' v' ts vs ht' hts =>
      rw [joinComma_cons] at hfuel ⊢
      simp only [List.length_append, List.length_cons] at hfuel
      have hscan := ht.scan hook hhook fuel (44 :: (joinComma (t' :: ts) ++ 93 :: rest)) (stops_cons _) (by omega)
      have hnext := ih (List.cons_ne_nil _ _) fuel (v :: acc) (by omega)
      have hhead : ∃ c rest, t' = c :: rest ∧ 33 ≤ c := by
        obtain ⟨c, tail, hcons, hc, _⟩ := ht'.head
        exact ⟨c, tail, hcons, hc⟩
      have hskip := skipWs_joinComma ts hhead (93 :: rest)
      simp only [List.append_assoc, List.cons_append] at hscan ⊢
      simp [scanItemsHooked, hscan, skipWs_cons, hskip, hnext, depthItems]

/-- The text of one entry of an object. -/
def entryText (e : PyStr × PyStr) : PyStr := quote e.1 ++ 58 :: e.2

/-- An entry's text against the entry it reads as. -/
structure ReadsEntry (e : PyStr × PyStr) (x : PyStr × PyValue) : Prop where
  key : e.1 = x.1
  encodable : Encodable x.1
  reads : Reads e.2 x.2

variable {es : List (PyStr × PyStr)}

theorem scanPairs_join {xs : List (PyStr × PyValue)} (h : List.Forall₂ ReadsEntry es xs)
    (hhook : KeepsDistinct hook) (hne : es ≠ []) (fuel : Nat) (rest : PyStr) (acc : List (PyStr × PyValue))
    (hfuel : (joinComma (es.map entryText)).length + 1 < fuel) :
    scanPairs hook fuel (joinComma (es.map entryText) ++ 125 :: rest) acc =
      (depthEntries xs, .ok (acc.reverse ++ xs, rest)) := by
  induction h generalizing fuel acc with
  | nil => exact absurd rfl hne
  | @cons e x es xs he hes ih =>
    obtain ⟨fuel, rfl⟩ := Nat.exists_eq_succ_of_ne_zero (by omega : fuel ≠ 0)
    obtain ⟨key, text⟩ := e
    obtain ⟨key', v⟩ := x
    obtain rfl : key = key' := he.key
    have hkey := fun after => scanString_quote he.encodable (58 :: after) [] false
    have hskip := he.reads.skipWs
    dsimp only at hkey hskip
    cases hes with
    | nil =>
      have hlen : text.length < fuel := by
        simp only [List.map_cons, List.map_nil, joinComma, entryText, List.length_append,
          List.length_cons] at hfuel
        omega
      have hscan := he.reads.scan hook hhook fuel (125 :: rest) (stops_cons rest) hlen
      dsimp only at hscan
      simp [joinComma, entryText, quote, scanPairs, scanKey, hkey, skipWs_cons, hskip, hscan, depthEntries]
    | @cons e' x' es xs he' hes =>
      rw [List.map_cons, List.map_cons, joinComma_cons] at hfuel ⊢
      simp only [entryText, List.length_append, List.length_cons] at hfuel
      have hscan := he.reads.scan hook hhook fuel (44 :: (joinComma (entryText e' :: es.map entryText) ++ 125 :: rest))
        (stops_cons _) (by dsimp only; omega)
      have hnext := ih (List.cons_ne_nil _ _) fuel ((key, v) :: acc)
        (by simp only [List.map_cons, entryText]; omega)
      have hafter := skipWs_joinComma (t := entryText e') (es.map entryText) ⟨34, _, rfl, by decide⟩
        (125 :: rest)
      dsimp only at hscan
      rw [List.map_cons] at hnext
      simp only [entryText, quote, List.append_assoc, List.cons_append, List.nil_append] at *
      simp [scanPairs, scanKey, hkey, skipWs_cons, hskip, hscan, hafter, hnext, depthEntries]

/-- Distinct keys are entered one after another. -/
theorem foldl_setItem (xs acc : List (PyStr × PyValue))
    (h : ((acc ++ xs).map Prod.fst).Nodup) :
    xs.foldl (fun items x => PyValue.setItem items x.1 x.2) acc = acc ++ xs := by
  have hset : ∀ (acc : List (PyStr × PyValue)) (key : PyStr) (v : PyValue), key ∉ acc.map Prod.fst →
      PyValue.setItem acc key v = acc ++ [(key, v)] := by
    intro acc key v hkey
    induction acc with
    | nil => rfl
    | cons x acc ih =>
      simp only [List.map_cons, List.mem_cons, not_or] at hkey
      unfold PyValue.setItem
      rw [if_neg (Ne.symm hkey.1), ih hkey.2, List.cons_append]
  induction xs generalizing acc with
  | nil => simp
  | cons x xs ih =>
    have hkey : x.1 ∉ acc.map Prod.fst := by
      rw [List.map_append, List.nodup_append] at h
      intro hmem
      exact h.2.2 x.1 hmem x.1 (by simp) rfl
    rw [List.foldl_cons, hset acc x.1 x.2 hkey, ih]
    · simp
    · simpa using h

/-! ## Values -/

theorem encodeItems_ok {items : List PyValue} {texts : List PyStr} (h : encodeItems items = .ok texts) :
    List.Forall₂ (fun v t => encodeCanonical v = .ok t) items texts := by
  induction items generalizing texts with
  | nil =>
    cases h
    exact .nil
  | cons v vs ih =>
    unfold encodeItems at h
    split at h
    · cases h
    · rename_i t hv
      cases hvs : encodeItems vs with
      | error e =>
        rw [hvs] at h
        cases h
      | ok ts =>
        rw [hvs] at h
        cases h
        exact .cons hv (ih hvs)

theorem encodeItems_of_forall₂ {items : List PyValue} {texts : List PyStr}
    (h : List.Forall₂ (fun v t => encodeCanonical v = .ok t) items texts) :
    encodeItems items = .ok texts := by
  induction h with
  | nil => rfl
  | cons hv _ ih => simp only [encodeItems, hv, ih, Except.map]

/-- An entry of a dictionary and its encoded entry. -/
structure EncodesEntry (x : PyStr × PyValue) (e : PyStr × PyStr) : Prop where
  key : x.1 = e.1
  encodable : Encodable x.1
  encodes : encodeCanonical x.2 = .ok e.2

variable {items : List (PyStr × PyValue)}

theorem encodeEntries_ok (h : encodeEntries items = .ok es) : List.Forall₂ EncodesEntry items es := by
  induction items generalizing es with
  | nil =>
    cases h
    exact .nil
  | cons x xs ih =>
    obtain ⟨k, v⟩ := x
    unfold encodeEntries at h
    split at h
    · cases h
    rename_i hk
    split at h
    · cases h
    · rename_i t hv
      cases hxs : encodeEntries xs with
      | error e =>
        rw [hxs] at h
        cases h
      | ok ts =>
        rw [hxs] at h
        cases h
        exact .cons ⟨rfl, not_not.1 hk, hv⟩ (ih hxs)

theorem encodeEntries_of_forall₂ (h : List.Forall₂ EncodesEntry items es) : encodeEntries items = .ok es := by
  induction h with
  | nil => rfl
  | @cons x e xs es hx _ ih =>
    obtain ⟨k, v⟩ := x
    obtain ⟨k', t⟩ := e
    obtain ⟨hkey, hk, hv⟩ := hx
    dsimp only at hkey hk hv
    subst hkey
    simp only [encodeEntries, if_neg (not_not.2 hk), hv, ih, Except.map]

variable {β : Type}

/-- A fact about the members of the left list joins the relation. -/
theorem forall₂_mem {α : Type} {R : α → β → Prop} {as : List α} {bs : List β} (h : List.Forall₂ R as bs) : List.Forall₂ (fun a b => a ∈ as ∧ R a b) as bs :=
  (List.forall₂_and_left as bs).2 ⟨fun _ ha => ha, h⟩

theorem exists_mem_of_forall₂ {α : Type} {R : α → β → Prop} {as : List α} {bs : List β} (h : List.Forall₂ R as bs)
    {a : α} (ha : a ∈ as) : ∃ b, b ∈ bs ∧ R a b := by
  induction h with
  | nil => cases ha
  | cons hab _ ih =>
    rcases List.mem_cons.1 ha with rfl | ha
    · exact ⟨_, List.mem_cons_self, hab⟩
    · rcases ih ha with ⟨b, hb, hR⟩
      exact ⟨b, List.mem_cons_of_mem _ hb, hR⟩

theorem exists_of_forall₂ {α : Type} {R : α → β → Prop} {as : List α} {bs : List β} (h : List.Forall₂ R as bs)
    {a : α} (ha : a ∈ as) : ∃ b, R a b := by
  rcases exists_mem_of_forall₂ h ha with ⟨b, _, hR⟩
  exact ⟨b, hR⟩

/-- Entries that agree on their keys are sorted alike. -/
theorem forall₂_sortEntries {γ : Type} {R : PyStr × β → PyStr × γ → Prop} (hkey : ∀ a b, R a b → a.1 = b.1)
    {as : List (PyStr × β)} {bs : List (PyStr × γ)} (h : List.Forall₂ R as bs) :
    List.Forall₂ R (sortEntries as) (sortEntries bs) := by
  have hinsert : ∀ {a b as bs}, R a b → List.Forall₂ R as bs →
      List.Forall₂ R (as.orderedInsert KeyLe a) (bs.orderedInsert KeyLe b) := by
    intro a b as bs hab hall
    induction hall with
    | nil => exact .cons hab .nil
    | @cons a' b' as bs hab' hall ih =>
      have hle : KeyLe a a' ↔ KeyLe b b' := by
        simp only [KeyLe, hkey a b hab, hkey a' b' hab']
      simp only [List.orderedInsert_cons]
      by_cases h : KeyLe a a'
      · rw [if_pos h, if_pos (hle.1 h)]
        exact .cons hab (.cons hab' hall)
      · rw [if_neg h, if_neg (mt hle.2 h)]
        exact .cons hab' ih
  unfold sortEntries
  induction h with
  | nil => exact .nil
  | cons hab _ ih => exact hinsert hab ih

theorem sortEntries_perm (entries : List (PyStr × β)) : (sortEntries entries).Perm entries :=
  List.perm_insertionSort KeyLe entries

instance {β : Type} : Std.Total (KeyLe : PyStr × β → PyStr × β → Prop) := ⟨fun a b => le_total (a.1.flatMap utf16Units) (b.1.flatMap utf16Units)⟩

instance {β : Type} : IsTrans (PyStr × β) KeyLe := ⟨fun _ _ _ => le_trans⟩

theorem sortEntries_sortEntries (entries : List (PyStr × β)) :
    sortEntries (sortEntries entries) = sortEntries entries :=
  List.Pairwise.insertionSort_eq (List.pairwise_insertionSort KeyLe entries)

mutual

/-- What `json.loads` returns for the text of a value: dictionaries in key order, and
integers for floats with integral text. -/
def normal : PyValue → PyValue
  | .float f => readFloat f
  | .list items => .list (normalItems items)
  | .dict items => .dict (sortEntries (normalEntries items))
  | v => v

def normalItems : List PyValue → List PyValue
  | [] => []
  | v :: vs => normal v :: normalItems vs

def normalEntries : List (PyStr × PyValue) → List (PyStr × PyValue)
  | [] => []
  | (k, v) :: xs => (k, normal v) :: normalEntries xs

end

theorem normalItems_eq (items : List PyValue) : normalItems items = items.map normal := by
  induction items with
  | nil => rfl
  | cons v vs ih => rw [normalItems, ih, List.map_cons]

theorem normalEntries_eq (items : List (PyStr × PyValue)) :
    normalEntries items = items.map fun x => (x.1, normal x.2) := by
  induction items with
  | nil => rfl
  | cons x xs ih => rw [normalEntries, ih, List.map_cons]

theorem keys_normalEntries (items : List (PyStr × PyValue)) :
    (normalEntries items).map Prod.fst = items.map Prod.fst := by
  rw [normalEntries_eq, List.map_map]
  rfl

theorem encodeCanonical_list {items : List PyValue} (h : encodeCanonical (.list items) = .ok text) :
    ∃ ts, encodeItems items = .ok ts ∧ text = 91 :: (joinComma ts ++ [93]) := by
  unfold encodeCanonical at h
  cases hts : encodeItems items with
  | error e =>
    rw [hts] at h
    cases h
  | ok ts =>
    rw [hts] at h
    cases h
    exact ⟨ts, rfl, rfl⟩

theorem encodeCanonical_dict (h : encodeCanonical (.dict items) = .ok text) :
    ∃ es, encodeEntries items = .ok es ∧
      text = 123 :: (joinComma ((sortEntries es).map entryText) ++ [125]) := by
  unfold encodeCanonical at h
  cases hes : encodeEntries items with
  | error e =>
    rw [hes] at h
    cases h
  | ok es =>
    rw [hes] at h
    cases h
    exact ⟨es, rfl, rfl⟩

theorem reads_list {ts : List PyStr} {vs : List PyValue} (h : List.Forall₂ Reads ts vs) :
    Reads (91 :: (joinComma ts ++ [93])) (.list vs) := by
  have hparts : ∀ t ∈ ts, ∀ c ∈ t, (c < 0x110000 ∧ ¬IsSurrogate c) ∧ 32 ≤ c := by
    intro t ht c hc
    obtain ⟨v, hv⟩ := exists_of_forall₂ h ht
    exact ⟨hv.encodable c hc, hv.printable c hc⟩
  have hall : ∀ c ∈ 91 :: (joinComma ts ++ [93]), (c < 0x110000 ∧ ¬IsSurrogate c) ∧ 32 ≤ c := by
    intro c hc
    rcases List.mem_cons.1 hc with rfl | hc
    · decide
    rcases List.mem_append.1 hc with hc | hc
    · exact forall_joinComma (by decide) hparts c hc
    · rw [List.mem_singleton.1 hc]
      decide
  refine ⟨fun c hc => (hall c hc).1, fun c hc => (hall c hc).2, ⟨91, _, rfl, by decide⟩, ?_⟩
  intro hook hhook fuel rest _ hfuel
  obtain ⟨fuel, rfl⟩ := Nat.exists_eq_succ_of_ne_zero (by omega : fuel ≠ 0)
  cases h with
  | nil => simp [joinComma, scanHooked, skipWs_cons, depth, depthItems]
  | @cons t v ts vs ht hts =>
    have hscan := scanItems_join (.cons ht hts) hhook (List.cons_ne_nil _ _) fuel rest []
      (by simp only [List.length_cons, List.length_append, List.length_nil] at hfuel; omega)
    obtain ⟨c, tail, hcons, hc, hbracket⟩ := head_joinComma ts
      (Q := fun c => 33 ≤ c ∧ c ≠ 93) (by obtain ⟨c, tail, h, h1, _, h2, _⟩ := ht.head; exact ⟨c, tail, h, h1, h2⟩)
    rw [hcons] at hscan
    simp only [hcons, List.cons_append, List.append_assoc, List.nil_append] at hscan ⊢
    unfold scanHooked
    simp only [skipWs_cons hc]
    split
    · rename_i heq
      cases heq
      exact absurd rfl hbracket
    · rw [hscan]
      rfl

theorem reads_dict {xs : List (PyStr × PyValue)} (h : List.Forall₂ ReadsEntry es xs)
    (hkeys : (xs.map Prod.fst).Nodup) :
    Reads (123 :: (joinComma (es.map entryText) ++ [125])) (.dict xs) := by
  have hparts : ∀ t ∈ es.map entryText, ∀ c ∈ t, (c < 0x110000 ∧ ¬IsSurrogate c) ∧ 32 ≤ c := by
    intro t ht c hc
    obtain ⟨e, he, rfl⟩ := List.mem_map.1 ht
    obtain ⟨x, hx⟩ := exists_of_forall₂ h he
    rcases List.mem_append.1 hc with hc | hc
    · exact plain_quote (hx.key ▸ hx.encodable) c hc
    rcases List.mem_cons.1 hc with rfl | hc
    · decide
    · exact ⟨hx.reads.encodable c hc, hx.reads.printable c hc⟩
  have hall : ∀ c ∈ 123 :: (joinComma (es.map entryText) ++ [125]),
      (c < 0x110000 ∧ ¬IsSurrogate c) ∧ 32 ≤ c := by
    intro c hc
    rcases List.mem_cons.1 hc with rfl | hc
    · decide
    rcases List.mem_append.1 hc with hc | hc
    · exact forall_joinComma (by decide) hparts c hc
    · rw [List.mem_singleton.1 hc]
      decide
  refine ⟨fun c hc => (hall c hc).1, fun c hc => (hall c hc).2, ⟨123, _, rfl, by decide⟩, ?_⟩
  intro hook hhook fuel rest _ hfuel
  obtain ⟨fuel, rfl⟩ := Nat.exists_eq_succ_of_ne_zero (by omega : fuel ≠ 0)
  cases h with
  | nil => simp [joinComma, scanHooked, skipWs_cons, depth, depthEntries, hhook [] List.nodup_nil, Except.map]
  | @cons e x es xs he hes =>
    have hscan := scanPairs_join (.cons he hes) hhook (List.cons_ne_nil _ _) fuel rest []
      (by simp only [List.length_cons, List.length_append, List.length_nil] at hfuel; omega)
    obtain ⟨c, tail, hcons, hc⟩ := head_joinComma (t := entryText e) (es.map entryText) (Q := fun c => c = 34)
      ⟨34, _, rfl, rfl⟩
    subst hc
    rw [List.map_cons] at hscan ⊢
    rw [hcons] at hscan ⊢
    simp only [List.cons_append, List.append_assoc, List.nil_append] at hscan ⊢
    unfold scanHooked
    simp only [skipWs_cons (by decide : 33 ≤ 34), hscan, List.reverse_nil, List.nil_append, hhook _ hkeys]
    rfl

/-- The scanner reads the text of a value. -/
theorem encodeCanonical_reads (v : PyValue) : ∀ {text : PyStr}, v.Valid → encodeCanonical v = .ok text →
    Reads text (normal v) := by
  induction v with
  | none =>
    rintro text _ h
    cases h
    exact reads_null
  | bool b =>
    rintro text _ h
    cases b <;> cases h
    · exact reads_false
    · exact reads_true
  | int n => exact fun _ h => reads_int h
  | float f => exact fun _ h => reads_float h
  | str s => exact fun _ h => reads_str h
  | tuple items _ =>
    rintro text _ h
    cases h
  | record cls fields _ =>
    rintro text _ h
    cases h
  | list items ih =>
    intro text hvalid h
    have hvalid' := (PyValue.validItems_iff items).1 hvalid
    obtain ⟨ts, hts, rfl⟩ := encodeCanonical_list h
    have hreads : List.Forall₂ Reads ts (items.map normal) := by
      rw [List.forall₂_map_right_iff]
      refine List.Forall₂.flip ((forall₂_mem (encodeItems_ok hts)).imp ?_)
      rintro v t ⟨hmem, hv⟩
      exact ih v hmem (hvalid' v hmem) hv
    rw [normal, normalItems_eq]
    exact reads_list hreads
  | dict items ih =>
    intro text hvalid h
    have hvalid' := (PyValue.validEntries_iff items).1 hvalid.2
    obtain ⟨es, hes, rfl⟩ := encodeCanonical_dict h
    have hreads : List.Forall₂ ReadsEntry es (normalEntries items) := by
      rw [normalEntries_eq, List.forall₂_map_right_iff]
      refine List.Forall₂.flip ((forall₂_mem (encodeEntries_ok hes)).imp ?_)
      rintro x e ⟨hmem, hkey, hk, hv⟩
      exact ⟨hkey.symm, hk, ih x hmem (hvalid' x hmem) hv⟩
    refine reads_dict (forall₂_sortEntries (fun _ _ h => h.key) hreads) ?_
    have hperm := (sortEntries_perm (normalEntries items)).map Prod.fst
    rw [keys_normalEntries] at hperm
    exact hperm.nodup_iff.2 hvalid.1

/-! ## The round trip -/

theorem primitiveItems_ok {items ps : List PyValue} (h : primitiveItems items = .ok ps) :
    List.Forall₂ (fun v p => primitive v = .ok p) items ps := by
  induction items generalizing ps with
  | nil =>
    cases h
    exact .nil
  | cons v vs ih =>
    unfold primitiveItems at h
    split at h
    · cases h
    · rename_i p hv
      cases hvs : primitiveItems vs with
      | error e =>
        rw [hvs] at h
        cases h
      | ok ps =>
        rw [hvs] at h
        cases h
        exact .cons hv (ih hvs)

theorem primitiveItems_of_forall₂ {items ps : List PyValue}
    (h : List.Forall₂ (fun v p => primitive v = .ok p) items ps) : primitiveItems items = .ok ps := by
  induction h with
  | nil => rfl
  | cons hv _ ih => simp only [primitiveItems, hv, ih, Except.map]

/-- An entry and its converted entry. -/
structure ConvertsEntry (x y : PyStr × PyValue) : Prop where
  key : x.1 = y.1
  converts : primitive x.2 = .ok y.2

variable {ps : List (PyStr × PyValue)}

theorem primitiveEntries_ok (h : primitiveEntries items = .ok ps) :
    List.Forall₂ ConvertsEntry items ps := by
  induction items generalizing ps with
  | nil =>
    cases h
    exact .nil
  | cons x xs ih =>
    obtain ⟨k, v⟩ := x
    unfold primitiveEntries at h
    split at h
    · cases h
    · rename_i p hv
      cases hxs : primitiveEntries xs with
      | error e =>
        rw [hxs] at h
        cases h
      | ok ps =>
        rw [hxs] at h
        cases h
        exact .cons ⟨rfl, hv⟩ (ih hxs)

theorem primitiveEntries_of_forall₂ (h : List.Forall₂ ConvertsEntry items ps) : primitiveEntries items = .ok ps := by
  induction h with
  | nil => rfl
  | @cons x y xs ys hx _ ih =>
    obtain ⟨k, v⟩ := x
    obtain ⟨k', p⟩ := y
    obtain ⟨hkey, hv⟩ := hx
    dsimp only at hkey hv
    subst hkey
    simp only [primitiveEntries, hv, ih, Except.map]

/-- What `_primitive` returns: finite floats that are not zero, and no tuples or
instances. -/
inductive Primitive : PyValue → Prop where
  | none : Primitive .none
  | bool (b : Bool) : Primitive (.bool b)
  | int (n : Int) : Primitive (.int n)
  | float (negative : Bool) (m : Nat) (e : Int) (h : CanonicalFloat m e) (hm : m ≠ 0) :
    Primitive (.float (.finite negative m e h))
  | str (s : PyStr) : Primitive (.str s)
  | list (items : List PyValue) (h : ∀ v ∈ items, Primitive v) : Primitive (.list items)
  | dict (items : List (PyStr × PyValue)) (hkeys : (items.map Prod.fst).Nodup)
    (h : ∀ x ∈ items, Primitive x.2) : Primitive (.dict items)

theorem Primitive.valid (h : Primitive v) : v.Valid := by
  induction h with
  | none | bool | int | float | str => trivial
  | list items _ ih => exact (PyValue.validItems_iff items).2 ih
  | dict items hkeys _ ih => exact ⟨hkeys, (PyValue.validEntries_iff items).2 ih⟩

theorem keys_of_converts (h : List.Forall₂ ConvertsEntry items ps) :
    items.map Prod.fst = ps.map Prod.fst := by
  induction h with
  | nil => rfl
  | cons hx _ ih => rw [List.map_cons, List.map_cons, hx.key, ih]

theorem exists_of_forall₂_right {α : Type} {R : α → β → Prop} {as : List α} {bs : List β} (h : List.Forall₂ R as bs)
    {b : β} (hb : b ∈ bs) : ∃ a, R a b :=
  exists_of_forall₂ h.flip hb

/-- `_primitive` of a value gives a primitive one. -/
theorem primitive_primitive (v : PyValue) : ∀ {p : PyValue}, v.Valid → primitive v = .ok p → Primitive p := by
  have hitems : ∀ {items ps : List PyValue},
      (∀ v ∈ items, ∀ {p : PyValue}, v.Valid → primitive v = .ok p → Primitive p) →
      PyValue.ValidItems items → List.Forall₂ (fun v p => primitive v = .ok p) items ps →
      Primitive (.list ps) := by
    intro items ps ih hvalid h
    have hvalid' := (PyValue.validItems_iff items).1 hvalid
    refine .list ps fun p hp => ?_
    obtain ⟨v, hmem, hv⟩ := exists_of_forall₂_right (forall₂_mem h) hp
    exact ih v hmem (hvalid' v hmem) hv
  have hentries : ∀ {items ps : List (PyStr × PyValue)},
      (∀ x ∈ items, ∀ {p : PyValue}, x.2.Valid → primitive x.2 = .ok p → Primitive p) →
      (items.map Prod.fst).Nodup → PyValue.ValidEntries items → List.Forall₂ ConvertsEntry items ps →
      Primitive (.dict ps) := by
    intro items ps ih hkeys hvalid h
    have hvalid' := (PyValue.validEntries_iff items).1 hvalid
    refine .dict ps (keys_of_converts h ▸ hkeys) fun p hp => ?_
    obtain ⟨x, hmem, hx⟩ := exists_of_forall₂_right (forall₂_mem h) hp
    exact ih x hmem (hvalid' x hmem) hx.converts
  induction v with
  | none | bool | int | str =>
    rintro p _ h
    cases h
    constructor
  | float f =>
    intro p _ h
    unfold primitive at h
    split at h
    · cases h
    rename_i hfinite
    split at h
    · cases h
      exact .int 0
    · rename_i hzero
      cases h
      cases f with
      | nan | inf => exact absurd id hfinite
      | finite negative m e hcanonical => exact .float negative m e hcanonical hzero
  | list items ih | tuple items ih =>
    intro p hvalid h
    unfold primitive at h
    cases hps : primitiveItems items with
    | error e =>
      rw [hps] at h
      cases h
    | ok ps =>
      rw [hps] at h
      cases h
      exact hitems ih hvalid (primitiveItems_ok hps)
  | dict items ih =>
    intro p hvalid h
    unfold primitive at h
    cases hps : primitiveEntries items with
    | error e =>
      rw [hps] at h
      cases h
    | ok ps =>
      rw [hps] at h
      cases h
      exact hentries ih hvalid.1 hvalid.2 (primitiveEntries_ok hps)
  | record cls items ih =>
    intro p hvalid h
    unfold primitive at h
    cases hps : primitiveEntries items with
    | error e =>
      rw [hps] at h
      cases h
    | ok ps =>
      rw [hps] at h
      cases h
      exact hentries ih hvalid.1 hvalid.2 (primitiveEntries_ok hps)

theorem Primitive.primitive_eq (h : Primitive v) : primitive v = .ok v := by
  induction h with
  | none | bool | int | str => rfl
  | float negative m e h hm =>
    have hfinite : (PyFloat.finite negative m e h).IsFinite := trivial
    unfold primitive
    rw [if_neg (not_not.2 hfinite), if_neg hm]
  | list items _ ih =>
    have hself : List.Forall₂ (fun v p => primitive v = .ok p) items items := List.forall₂_same.2 ih
    unfold primitive
    rw [primitiveItems_of_forall₂ hself]
    rfl
  | dict items _ _ ih =>
    have hself : List.Forall₂ ConvertsEntry items items := List.forall₂_same.2 fun x hx => ⟨rfl, ih x hx⟩
    unfold primitive
    rw [primitiveEntries_of_forall₂ hself]
    rfl

theorem Primitive.normal (h : Primitive v) : Primitive (normal v) := by
  induction h with
  | none => exact .none
  | bool b => exact .bool b
  | int n => exact .int n
  | str s => exact .str s
  | float negative m e h hm =>
    obtain ⟨_, _, _, hfloat | ⟨_, _, hint, _⟩⟩ := readFloat_cases negative hm h
    · rw [Json.normal, hfloat]
      exact .float negative m e h hm
    · rw [Json.normal, hint]
      exact .int _
  | list items _ ih =>
    rw [Json.normal, normalItems_eq]
    refine .list _ fun v hv => ?_
    obtain ⟨v, hmem, rfl⟩ := List.mem_map.1 hv
    exact ih v hmem
  | dict items hkeys _ ih =>
    rw [Json.normal]
    have hperm := sortEntries_perm (normalEntries items)
    refine .dict _ ?_ fun x hx => ?_
    · rw [(hperm.map Prod.fst).nodup_iff, keys_normalEntries]
      exact hkeys
    · have hmem := hperm.mem_iff.1 hx
      rw [normalEntries_eq] at hmem
      obtain ⟨y, hy, rfl⟩ := List.mem_map.1 hmem
      exact ih y hy

/-- The value read back has the same text. -/
theorem encodeCanonical_normal (v : PyValue) : ∀ {text : PyStr}, encodeCanonical v = .ok text →
    encodeCanonical (normal v) = .ok text := by
  induction v with
  | none | bool | int | str | tuple | record => exact fun h => h
  | float f =>
    intro text h
    cases hread : readFloat f with
    | int n =>
      rw [normal, hread]
      exact intStr_readFloat hread h
    | _ =>
      -- anything else is the float itself
      have hself : readFloat f = .float f := by
        unfold readFloat at hread ⊢
        split
        · split
          · rfl
          · simp_all
        · rfl
      rw [normal, hself]
      exact h
  | list items ih =>
    intro text h
    obtain ⟨ts, hts, rfl⟩ := encodeCanonical_list h
    have hall : List.Forall₂ (fun v t => encodeCanonical v = .ok t) (items.map normal) ts := by
      rw [List.forall₂_map_left_iff]
      refine (forall₂_mem (encodeItems_ok hts)).imp ?_
      rintro v t ⟨hmem, hv⟩
      exact ih v hmem hv
    rw [normal, normalItems_eq]
    unfold encodeCanonical
    rw [encodeItems_of_forall₂ hall]
    rfl
  | dict items ih =>
    intro text h
    obtain ⟨es, hes, rfl⟩ := encodeCanonical_dict h
    have hall : List.Forall₂ EncodesEntry (normalEntries items) es := by
      rw [normalEntries_eq, List.forall₂_map_left_iff]
      refine (forall₂_mem (encodeEntries_ok hes)).imp ?_
      rintro x e ⟨hmem, hkey, hk, hv⟩
      exact ⟨hkey, hk, ih x hmem hv⟩
    have hsorted := forall₂_sortEntries (fun _ _ h => h.key) hall
    rw [normal]
    unfold encodeCanonical
    rw [encodeEntries_of_forall₂ hsorted]
    dsimp only [Except.map]
    rw [sortEntries_sortEntries]
    rfl

variable {bytes : Bytes}

/-- The bytes of a text, and of what may follow it, are taken for UTF-8 and decode to it. -/
theorem Reads.decodeDetected_append (h : Reads text v) (tail : PyStr) (htail : ∀ c ∈ tail, ∀ b ∈ utf8Char c, b ≠ 0)
    (hbytes : encodeUtf8 (text ++ tail) = some bytes) :
    LeoFlow.decodeDetected bytes = some (text ++ tail) := by
  unfold encodeUtf8 at hbytes
  split at hbytes
  · rename_i hencodable
    have hb : bytes = (text ++ tail).flatMap utf8Char := (Option.some.inj hbytes).symm
    obtain ⟨c, rest, hcons, _, hascii, _⟩ := h.head
    have hchar : utf8Char c = [UInt8.ofNat c] := by
      unfold utf8Char
      exact if_pos hascii
    -- the first byte is ASCII and no byte is zero
    have hne : ∀ b ∈ bytes, b ≠ 0 := by
      intro b hmem
      rw [hb] at hmem
      obtain ⟨c', hc', hmem⟩ := List.mem_flatMap.1 hmem
      rcases List.mem_append.1 hc' with hc' | hc'
      · exact utf8Char_ne_zero (h.encodable c' hc').1 (h.printable c' hc') b hmem
      · exact htail c' hc' b hmem
    have hfirst : bytes = UInt8.ofNat c :: (rest ++ tail).flatMap utf8Char := by
      rw [hb, hcons, List.cons_append, List.flatMap_cons, hchar, List.singleton_append]
    rw [hfirst] at hne ⊢
    rw [decodeDetected_utf8 (by rw [toNat_byte (by omega)]; exact hascii) hne, ← hfirst, hb,
      decodeUtf8_encode hencodable]
  · cases hbytes

theorem Reads.decodeDetected (h : Reads text v) (hbytes : encodeUtf8 text = some bytes) : LeoFlow.decodeDetected bytes = some text := by
  have hempty := h.decodeDetected_append [] (fun _ hc => by cases hc) (by rwa [List.append_nil])
  rwa [List.append_nil] at hempty

theorem Reads.scanText (h : Reads text v) (hhook : KeepsDistinct hook) :
    Json.scanText hook text = (depth v, .ok (v, [])) := by
  have hskip := h.skipWs []
  have hscan := h.scan hook hhook (2 * text.length + 2) [] stops_nil (by omega)
  rw [List.append_nil] at hskip hscan
  unfold Json.scanText
  rw [hskip, hscan]

theorem keepsDistinct_dictHook : KeepsDistinct dictHook := by
  intro pairs hpairs
  unfold dictHook
  rw [foldl_setItem _ _ (by simpa using hpairs)]
  rfl

theorem keepsDistinct_uniqueHook (error : PyError) : KeepsDistinct (uniqueHook error) :=
  fun _ hpairs => if_pos hpairs

/-- `json.loads` of the bytes of a text. -/
theorem loads_encodeUtf8 (h : Reads text v) (hbytes : encodeUtf8 text = some bytes) : loads bytes = .ok v := by
  have hscan := h.scanText keepsDistinct_dictHook
  unfold Json.scanText at hscan
  unfold loads
  rw [h.decodeDetected hbytes]
  dsimp only
  unfold loadsText
  rw [scanOnce_eq, hscan]
  rfl

/-- `json.loads` of the bytes of a text, with a hook and with room for the nesting of its value. -/
theorem loadsHooked_encodeUtf8 (h : Reads text v) (hbytes : encodeUtf8 text = some bytes)
    (hhook : KeepsDistinct hook) {limit : Nat} (hlimit : depth v ≤ limit) : loadsHooked hook limit bytes = .ok v := by
  unfold loadsHooked
  rw [h.decodeDetected hbytes]
  dsimp only
  rw [h.scanText hhook, if_neg (by omega)]
  rfl

/-- Canonical JSON is the bytes of the text of the converted value. -/
theorem canonicalJsonBytes_text (h : canonicalJsonBytes v = .ok bytes) :
    ∃ p text, primitive v = .ok p ∧ encodeCanonical p = .ok text ∧ encodeUtf8 text = some bytes := by
  unfold canonicalJsonBytes at h
  split at h
  · cases h
  rename_i p hp
  split at h
  · cases h
  rename_i text htext
  split at h
  · rename_i bytes' hbytes
    cases h
    exact ⟨p, text, hp, htext, hbytes⟩
  · cases h

/-- `json.loads` reads canonical JSON back, and the value it reads has the same
canonical JSON. -/
theorem loads_canonical (hvalid : v.Valid) (h : canonicalJsonBytes v = .ok bytes) :
    ∃ p, primitive v = .ok p ∧ Primitive p ∧ loads bytes = .ok (normal p) ∧
      canonicalJsonBytes (normal p) = .ok bytes := by
  obtain ⟨p, text, hp, htext, hbytes⟩ := canonicalJsonBytes_text h
  have hprimitive := primitive_primitive v hvalid hp
  refine ⟨p, hp, hprimitive, loads_encodeUtf8 (encodeCanonical_reads p hprimitive.valid htext) hbytes, ?_⟩
  unfold canonicalJsonBytes
  rw [hprimitive.normal.primitive_eq]
  dsimp only
  rw [encodeCanonical_normal p htext]
  dsimp only
  rw [hbytes]

/-- So does `json.loads` with a hook that keeps distinct keys, where the recursion has room. -/
theorem loadsHooked_canonical {p : PyValue} (hvalid : v.Valid) (h : canonicalJsonBytes v = .ok bytes)
    (hp : primitive v = .ok p) (hhook : KeepsDistinct hook) {limit : Nat} (hlimit : depth (normal p) ≤ limit) :
    loadsHooked hook limit bytes = .ok (normal p) := by
  obtain ⟨p', text, hp', htext, hbytes⟩ := canonicalJsonBytes_text h
  cases hp.symm.trans hp'
  have hprimitive := primitive_primitive v hvalid hp
  exact loadsHooked_encodeUtf8 (encodeCanonical_reads p hprimitive.valid htext) hbytes hhook hlimit

/-- The nesting of canonical JSON is that of the value. -/
theorem nesting_canonical {p : PyValue} (hvalid : v.Valid) (h : canonicalJsonBytes v = .ok bytes)
    (hp : primitive v = .ok p) (hhook : KeepsDistinct hook) : nesting hook bytes = depth (normal p) := by
  obtain ⟨p', text, hp', htext, hbytes⟩ := canonicalJsonBytes_text h
  cases hp.symm.trans hp'
  have hreads := encodeCanonical_reads p (primitive_primitive v hvalid hp).valid htext
  unfold nesting
  rw [hreads.decodeDetected hbytes]
  dsimp only
  rw [hreads.scanText hhook]

/-! ## Open brackets -/

/-- Brackets that are never closed are all open when the scan fails. -/
theorem scanHooked_brackets (hook : Hook) (n : Nat) {fuel : Nat} (h : 2 * n < fuel) :
    ∃ e, scanHooked hook fuel (List.replicate n 91) = (n, .error e) := by
  induction n generalizing fuel with
  | zero =>
    obtain ⟨fuel, rfl⟩ := Nat.exists_eq_succ_of_ne_zero (by omega : fuel ≠ 0)
    exact ⟨_, rfl⟩
  | succ n ih =>
    obtain ⟨fuel, rfl⟩ := Nat.exists_eq_add_of_le (by omega : 2 ≤ fuel)
    obtain ⟨e, he⟩ := @ih fuel (by omega)
    have hskip : skipWs (List.replicate n 91) = List.replicate n 91 := by
      cases n with
      | zero => rfl
      | succ n => exact skipWs_cons (by decide) _
    refine ⟨e, ?_⟩
    rw [List.replicate_succ, Nat.add_comm 2 fuel]
    have hitems : scanItemsHooked hook (fuel + 1) (List.replicate n 91) [] = (n, .error e) := by
      unfold scanItemsHooked
      rw [he]
    simp only [scanHooked, hskip]
    split
    · rename_i heq
      cases n <;> cases heq
    · rw [hitems]
      rfl

theorem nesting_brackets (hook : Hook) (n : Nat) : nesting hook (List.replicate n 91) = n := by
  have hdecode : decodeDetected (List.replicate n 91) = some (List.replicate n 91) := by
    have hutf8 : decodeUtf8 (List.replicate n 91) = some (List.replicate n 91) := by
      induction n with
      | zero => rfl
      | succ n ih =>
        have hchar : utf8Char 91 = [91] := rfl
        have hstep := @decodeUtf8_utf8Char 91 (by decide) (List.replicate n 91)
        rw [hchar, ih] at hstep
        exact hstep
    cases n with
    | zero => rfl
    | succ n =>
      have hne : ∀ b ∈ (List.replicate (n + 1) 91 : Bytes), b ≠ 0 := by
        intro b hb
        rw [List.eq_of_mem_replicate hb]
        decide
      rw [List.replicate_succ] at hne hutf8 ⊢
      rw [decodeDetected_utf8 (by decide) hne, hutf8]
  obtain ⟨e, he⟩ := scanHooked_brackets hook n (by omega : 2 * n < 2 * n + 2)
  have hskip : skipWs (List.replicate n 91) = List.replicate n 91 := by
    cases n with
    | zero => rfl
    | succ n => exact skipWs_cons (by decide) _
  unfold nesting scanText
  rw [hdecode]
  dsimp only
  rw [hskip, List.length_replicate, he]

/-! ## Fields of what was read -/

theorem lookup_of_mem {items : List (PyStr × β)} (hkeys : (items.map Prod.fst).Nodup) {key : PyStr} {v : β}
    (h : (key, v) ∈ items) : items.lookup key = some v := by
  induction items with
  | nil => cases h
  | cons x xs ih =>
    rcases x with ⟨k, w⟩
    rw [List.map_cons, List.nodup_cons] at hkeys
    rcases List.mem_cons.1 h with heq | hmem
    · cases heq
      exact List.lookup_cons_self
    · have hne : key ≠ k := by
        rintro rfl
        exact hkeys.1 (List.mem_map.2 ⟨(key, v), hmem, rfl⟩)
      rw [List.lookup_cons, beq_false_of_ne hne]
      exact ih hkeys.2 hmem

end Json

end LeoFlow
