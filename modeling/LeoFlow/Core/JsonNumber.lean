import LeoFlow.Core.Decimal
import LeoFlow.Core.Json

/-!
# LeoFlow.Core.JsonNumber — canonical numbers read back

`Numeral` is the number token of JSON, with the shape of its parts as fields. The
scanner reads every numeral (`scanNumber_text`), and the text of a float is a
numeral of a decimal that rounds to it (`ecmascriptNumber_numeral`).
-/

namespace LeoFlow

namespace Json

/-! ## Digit strings -/

/-- `[0-9]*` -/
@[reducible] def AllDigits (ds : PyStr) : Prop := ∀ c ∈ ds, IsDigit c

theorem allDigits_append {a b : PyStr} (ha : AllDigits a) (hb : AllDigits b) : AllDigits (a ++ b) := by
  intro c hc
  rcases List.mem_append.1 hc with h | h
  · exact ha c h
  · exact hb c h

theorem allDigits_zeros (n : Nat) : AllDigits (List.replicate n 48) := by
  intro c hc
  have hc48 : c = 48 := List.eq_of_mem_replicate hc
  omega

theorem foldl_digits (ds : PyStr) (n : Nat) :
    ds.foldl (fun n c => 10 * n + (c - 48)) n = n * 10 ^ ds.length + digitsValue ds := by
  unfold digitsValue
  induction ds generalizing n with
  | nil => simp
  | cons c ds ih =>
    simp only [List.foldl_cons, List.length_cons]
    rw [ih, ih (10 * 0 + (c - 48))]
    ring

theorem digitsValue_append (a b : PyStr) :
    digitsValue (a ++ b) = digitsValue a * 10 ^ b.length + digitsValue b := by
  have h := foldl_digits b (digitsValue a)
  simpa [digitsValue, List.foldl_append] using h

theorem digitsValue_cons (c : Nat) (ds : PyStr) :
    digitsValue (c :: ds) = (c - 48) * 10 ^ ds.length + digitsValue ds := by
  have h := digitsValue_append [c] ds
  simpa [digitsValue] using h

@[simp] theorem digitsValue_zeros (n : Nat) : digitsValue (List.replicate n 48) = 0 := by
  induction n with
  | zero => rfl
  | succ n ih =>
    rw [List.replicate_succ, digitsValue_cons, ih]
    simp

theorem digitsValue_lt {ds : PyStr} (h : AllDigits ds) : digitsValue ds < 10 ^ ds.length := by
  induction ds with
  | nil => simp [digitsValue]
  | cons c ds ih =>
    have hc : IsDigit c := h c List.mem_cons_self
    have hds : digitsValue ds < 10 ^ ds.length := ih fun c' hc' => h c' (List.mem_cons_of_mem _ hc')
    have hmul : (c - 48) * 10 ^ ds.length ≤ 9 * 10 ^ ds.length := Nat.mul_le_mul_right _ (by omega)
    rw [digitsValue_cons, List.length_cons, pow_succ]
    omega

/-! ## The numeral of a natural number -/

theorem digitsAux_value (fuel n : Nat) (ds : List Nat) (h : n < 10 ^ fuel) :
    ((PyFloat.digitsAux fuel n ds).map (48 + ·)).foldl (fun n c => 10 * n + (c - 48)) 0 =
      (ds.map (48 + ·)).foldl (fun n c => 10 * n + (c - 48)) n := by
  induction fuel generalizing n ds with
  | zero =>
    have hn : n = 0 := by simpa using h
    rw [hn, PyFloat.digitsAux]
  | succ fuel ih =>
    unfold PyFloat.digitsAux
    split
    · rename_i hn
      rw [hn]
    · have hlt : n / 10 < 10 ^ fuel := by
        rw [pow_succ] at h
        omega
      rw [ih _ _ hlt, List.map_cons, List.foldl_cons]
      congr 1
      omega

theorem lt_ten_pow_log2 (n : Nat) : n < 10 ^ (Nat.log2 n + 1) :=
  Nat.lt_log2_self.trans_le (Nat.pow_le_pow_left (by decide) _)

theorem digitsAux_digits (fuel n : Nat) (ds : List Nat) (h : ∀ d ∈ ds, d < 10) :
    ∀ d ∈ PyFloat.digitsAux fuel n ds, d < 10 := by
  induction fuel generalizing n ds with
  | zero => exact h
  | succ fuel ih =>
    unfold PyFloat.digitsAux
    split
    · exact h
    · refine ih _ _ fun d hd => ?_
      rcases List.mem_cons.1 hd with rfl | hd
      · omega
      · exact h d hd

/-- A positive number starts with a digit that is not zero. -/
theorem digitsAux_head (fuel n : Nat) (ds : List Nat) (hn : n ≠ 0) (h : n < 10 ^ fuel) :
    ∃ d rest, PyFloat.digitsAux fuel n ds = d :: rest ∧ d ≠ 0 := by
  induction fuel generalizing n ds with
  | zero => exact absurd (by simpa using h) hn
  | succ fuel ih =>
    unfold PyFloat.digitsAux
    rw [if_neg hn]
    by_cases hq : n / 10 = 0
    · have hd : n % 10 ≠ 0 := by omega
      refine ⟨n % 10, ds, ?_, hd⟩
      cases fuel with
      | zero => rfl
      | succ fuel => rw [hq, PyFloat.digitsAux, if_pos rfl]
    · refine ih _ _ hq ?_
      rw [pow_succ] at h
      omega

@[simp] theorem digitsValue_natStr (n : Nat) : digitsValue (PyFloat.natStr n) = n := by
  unfold PyFloat.natStr
  split
  · rename_i hn
    rw [hn]
    rfl
  · have h := digitsAux_value (Nat.log2 n + 1) n [] (lt_ten_pow_log2 n)
    simpa [digitsValue, PyFloat.digits] using h

theorem allDigits_natStr (n : Nat) : AllDigits (PyFloat.natStr n) := by
  unfold PyFloat.natStr
  split
  · exact allDigits_zeros 1
  · intro c hc
    obtain ⟨d, hd, rfl⟩ := List.mem_map.1 hc
    have hlt := digitsAux_digits _ n [] (fun d hd => by cases hd) d hd
    exact ⟨by omega, by omega⟩

theorem natStr_head {n : Nat} (hn : n ≠ 0) :
    ∃ c rest, PyFloat.natStr n = c :: rest ∧ c ≠ 48 := by
  obtain ⟨d, rest, hds, hd⟩ := digitsAux_head (Nat.log2 n + 1) n [] hn (lt_ten_pow_log2 n)
  refine ⟨48 + d, rest.map (48 + ·), ?_, by omega⟩
  rw [PyFloat.natStr, if_neg hn, PyFloat.digits, hds, List.map_cons]

theorem natStr_ne_nil (n : Nat) : PyFloat.natStr n ≠ [] := by
  by_cases hn : n = 0
  · subst hn
    decide
  · obtain ⟨c, rest, h, _⟩ := natStr_head hn
    rw [h]
    exact List.cons_ne_nil c rest

/-- Digit strings of one length are equal when their values are. -/
theorem digitsValue_injective {a b : PyStr} (ha : AllDigits a) (hb : AllDigits b)
    (hlen : a.length = b.length) (hval : digitsValue a = digitsValue b) : a = b := by
  induction a generalizing b with
  | nil => exact (List.length_eq_zero_iff.1 hlen.symm).symm
  | cons c a ih =>
    cases b with
    | nil => cases hlen
    | cons c' b =>
      have ha' : AllDigits a := fun x hx => ha x (List.mem_cons_of_mem _ hx)
      have hb' : AllDigits b := fun x hx => hb x (List.mem_cons_of_mem _ hx)
      have hc := ha c List.mem_cons_self
      have hc' := hb c' List.mem_cons_self
      have hlen' : a.length = b.length := Nat.succ.inj hlen
      -- quotient and remainder by the weight of the first digit
      have hdiv : ∀ q r, r < 10 ^ b.length → (q * 10 ^ b.length + r) / 10 ^ b.length = q := by
        intro q r hr
        rw [mul_comm, Nat.mul_add_div (by positivity), Nat.div_eq_of_lt hr, add_zero]
      have hla := digitsValue_lt ha'
      have hlb := digitsValue_lt hb'
      rw [hlen'] at hla
      rw [digitsValue_cons, digitsValue_cons, hlen'] at hval
      have hquot : c - 48 = c' - 48 := by
        rw [← hdiv (c - 48) _ hla, hval, hdiv _ _ hlb]
      have hrest : digitsValue a = digitsValue b := by
        rw [hquot] at hval
        omega
      have hcc : c = c' := by omega
      rw [hcc, ih ha' hb' hlen' hrest]

variable {c : Nat} {rest : PyStr}

theorem pow_le_digitsValue (h : AllDigits (c :: rest)) (hc : c ≠ 48) :
    10 ^ rest.length ≤ digitsValue (c :: rest) := by
  have hdigit := h c List.mem_cons_self
  have hmul : 1 * 10 ^ rest.length ≤ (c - 48) * 10 ^ rest.length :=
    Nat.mul_le_mul_right _ (by omega)
  rw [digitsValue_cons]
  omega

/-- How many digits a number has. -/
theorem length_natStr_le_iff {n k : Nat} (hk : 0 < k) : (PyFloat.natStr n).length ≤ k ↔ n < 10 ^ k := by
  have hup := digitsValue_lt (allDigits_natStr n)
  rw [digitsValue_natStr] at hup
  constructor
  · intro hlen
    exact hup.trans_le (Nat.pow_le_pow_right (by decide) hlen)
  · intro hn
    by_cases hzero : n = 0
    · subst hzero
      exact hk
    obtain ⟨c, rest, hcons, hc⟩ := natStr_head hzero
    have hlow := pow_le_digitsValue (hcons ▸ allDigits_natStr n) hc
    rw [← hcons, digitsValue_natStr] at hlow
    rw [hcons, List.length_cons]
    exact (Nat.pow_lt_pow_iff_right (by decide)).1 (hlow.trans_lt hn)

/-- A string of digits without a leading zero is the numeral of its value. -/
theorem natStr_digitsValue (h : AllDigits (c :: rest)) (hc : c ≠ 48) :
    PyFloat.natStr (digitsValue (c :: rest)) = c :: rest := by
  have hlow := pow_le_digitsValue h hc
  have hup := digitsValue_lt h
  have hpos : digitsValue (c :: rest) ≠ 0 := by
    have : 0 < 10 ^ rest.length := by positivity
    omega
  -- the value lies between the same powers of ten as its numeral
  obtain ⟨c', rest', hnat, hc'⟩ := natStr_head hpos
  have hdigits := allDigits_natStr (digitsValue (c :: rest))
  rw [hnat] at hdigits
  have hvalue : digitsValue (c' :: rest') = digitsValue (c :: rest) := by
    rw [← hnat, digitsValue_natStr]
  have hlow' := pow_le_digitsValue hdigits hc'
  have hup' := digitsValue_lt hdigits
  rw [hvalue] at hlow' hup'
  have h1 := (Nat.pow_lt_pow_iff_right (by decide : 1 < 10)).1 (hlow.trans_lt hup')
  have h2 := (Nat.pow_lt_pow_iff_right (by decide : 1 < 10)).1 (hlow'.trans_lt hup)
  rw [hnat]
  refine digitsValue_injective hdigits h ?_ hvalue
  simp only [List.length_cons] at *
  omega

/-! ## Number tokens -/

/-- What may follow a number token: nothing that could continue it. -/
def Stops (rest : PyStr) : Prop := ∀ c ∈ rest.head?, ¬IsDigit c ∧ c ≠ 46 ∧ c ≠ 101 ∧ c ≠ 69

theorem stops_nil : Stops [] := by
  intro c hc
  cases hc

/-- The separators of JSON end a number. -/
theorem stops_cons (rest : PyStr) (h : c = 44 ∨ c = 93 ∨ c = 125 := by decide) :
    Stops (c :: rest) := by
  intro c' hc'
  cases hc'
  rcases h with rfl | rfl | rfl <;> decide

/-- A number token: digits without a leading zero, an optional fraction and an optional
exponent. -/
structure Numeral where
  whole : PyStr
  fraction : Option PyStr
  /-- its sign, and its digits -/
  exponent : Option (Bool × PyStr)
  allDigits_whole : AllDigits whole
  head_whole : whole = [48] ∨ ∃ c rest, whole = c :: rest ∧ c ≠ 48
  fraction_ok : ∀ ds ∈ fraction, ds ≠ [] ∧ AllDigits ds
  exponent_ok : ∀ x ∈ exponent, x.2 ≠ [] ∧ AllDigits x.2

namespace Numeral

variable (n : Numeral)

def fractionText : PyStr :=
  match n.fraction with
  | none => []
  | some ds => 46 :: ds

def exponentText : PyStr :=
  match n.exponent with
  | none => []
  | some (negative, ds) => 101 :: (if negative then 45 else 43) :: ds

def text : PyStr := n.whole ++ (n.fractionText ++ n.exponentText)

def exponentValue : Option Int :=
  n.exponent.map fun x => if x.1 then -(digitsValue x.2 : Int) else digitsValue x.2

/-- The token denotes `mantissa * 10 ^ scale`. -/
def mantissa : Nat := digitsValue (n.whole ++ n.fraction.getD [])

def scale : Int := n.exponentValue.getD 0 - (n.fraction.getD []).length

end Numeral

theorem spanDigits_append {ds : PyStr} (hds : AllDigits ds) (hrest : ∀ c ∈ rest.head?, ¬IsDigit c) : spanDigits (ds ++ rest) = (ds, rest) := by
  have hall : ∀ c ∈ ds, (fun c => decide (IsDigit c)) c = true := fun c hc => decide_eq_true (hds c hc)
  have htake : rest.takeWhile (fun c => decide (IsDigit c)) = [] := by
    cases rest with
    | nil => rfl
    | cons c rest => simp [hrest c rfl]
  have hdrop : rest.dropWhile (fun c => decide (IsDigit c)) = rest := by
    cases rest with
    | nil => rfl
    | cons c rest => simp [hrest c rfl]
  unfold spanDigits
  rw [List.span_eq_takeWhile_dropWhile, List.takeWhile_append_of_pos hall,
    List.dropWhile_append_of_pos hall, htake, hdrop, List.append_nil]

namespace Numeral

variable (n : Numeral)

theorem scanExponent_text (hstop : Stops rest) :
    scanExponent (n.exponentText ++ rest) = n.exponentValue.map fun x => (x, rest) := by
  have hrest : ∀ c ∈ rest.head?, ¬IsDigit c := fun c hc => (hstop c hc).1
  unfold exponentText exponentValue
  cases hexp : n.exponent with
  | none =>
    cases rest with
    | nil => rfl
    | cons c rest =>
      have hc := hstop c rfl
      simp [scanExponent, hc.2.2.1, hc.2.2.2]
  | some x =>
    obtain ⟨negative, ds⟩ := x
    obtain ⟨hne, hds⟩ := n.exponent_ok _ hexp
    have hspan := spanDigits_append hds hrest
    dsimp only at hne hspan ⊢
    cases negative <;> simp [scanExponent, hspan, hne]

theorem scanFraction_text (hstop : Stops rest) :
    scanFraction (n.fractionText ++ (n.exponentText ++ rest)) =
      n.fraction.map fun ds => (ds, n.exponentText ++ rest) := by
  -- an exponent starts with `e`
  have hrest : ∀ c ∈ (n.exponentText ++ rest).head?, ¬IsDigit c ∧ c ≠ 46 := by
    unfold exponentText
    cases n.exponent with
    | none => exact fun c hc => ⟨(hstop c hc).1, (hstop c hc).2.1⟩
    | some x =>
      intro c hc
      cases hc
      decide
  unfold fractionText
  cases hfrac : n.fraction with
  | none =>
    rw [List.nil_append]
    cases hafter : n.exponentText ++ rest with
    | nil => rfl
    | cons c after =>
      have hc := (hrest c (by rw [hafter]; rfl)).2
      unfold scanFraction
      split
      · rename_i hcons
        cases hcons
        exact absurd rfl hc
      · rfl
  | some ds =>
    obtain ⟨hne, hds⟩ := n.fraction_ok ds hfrac
    have hspan := spanDigits_append hds fun c hc => (hrest c hc).1
    simp [scanFraction, hspan, hne]

/-- The whole part of a token ends before its fraction. -/
theorem head_after_whole (hstop : Stops rest) :
    ∀ c ∈ (n.fractionText ++ (n.exponentText ++ rest)).head?, ¬IsDigit c := by
  unfold fractionText exponentText
  cases n.fraction with
  | some ds =>
    intro c hc
    cases hc
    decide
  | none =>
    cases n.exponent with
    | some x =>
      intro c hc
      cases hc
      decide
    | none => exact fun c hc => (hstop c hc).1

/-- The scanner reads every numeral, to its end. -/
theorem scanNumber_text (negative : Bool) (hstop : Stops rest) :
    scanNumber negative (n.text ++ rest) =
      (numberValue negative n.whole n.fraction n.exponentValue).map fun v => (v, rest) := by
  have hexp := n.scanExponent_text hstop
  have hfrac := n.scanFraction_text hstop
  have hspan := spanDigits_append n.allDigits_whole (n.head_after_whole hstop)
  have htext : n.text ++ rest = n.whole ++ (n.fractionText ++ (n.exponentText ++ rest)) := by
    simp only [text, List.append_assoc]
  -- without a fraction or an exponent the scanner stays where it is
  have hnofrac : n.fraction = none → n.fractionText = [] := fun h => by simp only [fractionText, h]
  have hnoexp : n.exponentValue = none → n.exponentText = [] := fun h => by
    have hnone : n.exponent = none := by simpa [exponentValue] using h
    simp only [exponentText, hnone]
  rw [htext]
  rcases n.head_whole with hzero | ⟨c, tail, hcons, hc⟩
  · rw [hzero, List.singleton_append]
    unfold scanNumber
    cases hf : n.fraction <;> cases hx : n.exponentValue <;> simp_all
  · have hdigit : IsDigit c := n.allDigits_whole c (by rw [hcons]; exact List.mem_cons_self)
    rw [hcons, List.cons_append] at hspan
    rw [hcons, List.cons_append]
    unfold scanNumber
    cases hf : n.fraction <;> cases hx : n.exponentValue <;> simp_all

end Numeral

/-! ## The texts of a float -/

/-- The digits of a positive number: none but the first may be zero. -/
structure Significant (ds : PyStr) : Prop where
  allDigits : AllDigits ds
  head : ∃ c rest, ds = c :: rest ∧ c ≠ 48

namespace Significant

variable {ds : PyStr}

theorem natStr {n : Nat} (hn : n ≠ 0) : Significant (PyFloat.natStr n) :=
  ⟨allDigits_natStr n, natStr_head hn⟩

theorem length_pos (h : Significant ds) : 0 < ds.length := by
  obtain ⟨c, rest, rfl, _⟩ := h.head
  exact Nat.succ_pos _

theorem take_head (h : Significant ds) {i : Nat} (hi : 0 < i) :
    ∃ c rest, ds.take i = c :: rest ∧ c ≠ 48 := by
  obtain ⟨c, rest, rfl, hc⟩ := h.head
  obtain ⟨i, rfl⟩ := Nat.exists_eq_succ_of_ne_zero hi.ne'
  exact ⟨c, rest.take i, rfl, hc⟩

theorem allDigits_take (h : Significant ds) (i : Nat) : AllDigits (ds.take i) := fun c hc =>
  h.allDigits c (List.mem_of_mem_take hc)

theorem allDigits_drop (h : Significant ds) (i : Nat) : AllDigits (ds.drop i) := fun c hc =>
  h.allDigits c (List.mem_of_mem_drop hc)

end Significant

/-- Fixed notation of `0.ds * 10 ^ decpt`, without a point for an integer. -/
def fixedText (ds : PyStr) (decpt : Int) : PyStr :=
  if decpt ≤ 0 then 48 :: 46 :: (List.replicate (-decpt).toNat 48 ++ ds)
  else if ds.length ≤ decpt.toNat then ds ++ List.replicate (decpt.toNat - ds.length) 48
  else ds.take decpt.toNat ++ 46 :: ds.drop decpt.toNat

theorem removePointZero_of_not_mem {s : PyStr} (h : 46 ∉ s) : removePointZero s = s := by
  unfold removePointZero
  refine if_neg fun hsuffix => h ?_
  have hmem : 46 ∈ s.drop (s.length - 2) := by
    rw [hsuffix]
    exact List.mem_cons_self
  exact List.mem_of_mem_drop hmem

/-- Only a fraction of one zero is dropped. -/
theorem removePointZero_fraction (s : PyStr) {f : PyStr} (hf : AllDigits f) (hne : f ≠ []) :
    removePointZero (s ++ 46 :: f) = if f = [48] then s else s ++ 46 :: f := by
  unfold removePointZero
  by_cases hone : f.length = 1
  · obtain ⟨c, rfl⟩ := List.length_eq_one_iff.1 hone
    have hlen : (s ++ [46, c]).length - 2 = s.length := by simp
    rw [hlen, List.drop_left, List.take_left]
    simp
  · -- the last two characters are digits
    have hpos := List.length_pos_of_ne_nil hne
    have hlen : (s ++ 46 :: f).length - 2 = s.length + (f.length - 2 + 1) := by
      simp
      omega
    have hdrop : (s ++ 46 :: f).drop ((s ++ 46 :: f).length - 2) = f.drop (f.length - 2) := by
      rw [hlen, List.drop_length_add_append, List.drop_succ_cons]
    have hf48 : f ≠ [48] := by
      rintro rfl
      exact hone rfl
    rw [hdrop, if_neg hf48]
    refine if_neg fun hsuffix => ?_
    have hmem : 46 ∈ f.drop (f.length - 2) := by
      rw [hsuffix]
      exact List.mem_cons_self
    exact absurd (hf 46 (List.mem_of_mem_drop hmem)) (by decide)

theorem partition_append {a : PyStr} (h : c ∉ a) (b : PyStr) :
    partition c (a ++ c :: b) = (a, b) := by
  have hall : ∀ x ∈ a, (fun x => decide (x ≠ c)) x = true := fun x hx =>
    decide_eq_true fun hxc => h (hxc ▸ hx)
  unfold partition
  rw [List.takeWhile_append_of_pos hall, List.dropWhile_append_of_pos hall]
  simp

theorem partition_of_not_mem {a : PyStr} (h : c ∉ a) : partition c a = (a, []) := by
  have hall : ∀ x ∈ a, (fun x => decide (x ≠ c)) x = true := fun x hx =>
    decide_eq_true fun hxc => h (hxc ▸ hx)
  unfold partition
  rw [List.takeWhile_eq_self_iff.2 hall, List.dropWhile_eq_nil_iff.2 hall, List.tail_nil]

theorem not_mem_of_allDigits {ds : PyStr} (h : AllDigits ds) (hc : ¬IsDigit c) : c ∉ ds :=
  fun hmem => hc (h c hmem)

theorem signedValue_exponentStr (n : Int) : signedValue (PyFloat.exponentStr n) = n := by
  unfold PyFloat.exponentStr
  have hvalue : digitsValue
      (if n.natAbs < 10 then 48 :: PyFloat.natStr n.natAbs else PyFloat.natStr n.natAbs) = n.natAbs := by
    split
    · rw [digitsValue_cons, digitsValue_natStr]
      simp
    · exact digitsValue_natStr _
  split
  · simp only [signedValue, hvalue]
    omega
  · simp only [signedValue, hvalue]
    omega

/-- The sign of a number token. -/
def signText (negative : Bool) : PyStr := if negative then [45] else []

theorem not_mem_signText (negative : Bool) (hc : c ≠ 45) : c ∉ signText negative := by
  cases negative <;> simp [signText, hc]

/-- Fixed `repr` has no exponent. -/
theorem not_mem_formatDigits {ds : PyStr} (h : Significant ds) {decpt : Int} (hfixed : ¬(decpt ≤ -4 ∨ 16 < decpt)) :
    101 ∉ PyFloat.formatDigits ds decpt := by
  have hnot : ∀ {ds' : PyStr}, AllDigits ds' → 101 ∉ ds' := fun hds => not_mem_of_allDigits hds (by decide)
  unfold PyFloat.formatDigits
  rw [if_neg hfixed]
  split
  · simpa using hnot (allDigits_append (allDigits_zeros (-decpt).toNat) h.allDigits)
  split
  · simpa using hnot (allDigits_append h.allDigits (allDigits_zeros (decpt.toNat - ds.length)))
  · simpa using ⟨hnot (h.allDigits_take decpt.toNat), hnot (h.allDigits_drop decpt.toNat)⟩

/-- The digits of scientific notation, before its exponent. -/
def mantissaText (ds : PyStr) : PyStr := ds.take 1 ++ if 1 < ds.length then 46 :: ds.drop 1 else []

theorem partition_mantissaText {ds : PyStr} (h : Significant ds) :
    partition 46 (mantissaText ds) = (ds.take 1, ds.drop 1) := by
  have hpoint : 46 ∉ ds.take 1 := not_mem_of_allDigits (h.allDigits_take 1) (by decide)
  unfold mantissaText
  split
  · exact partition_append hpoint _
  · have hdrop : ds.drop 1 = [] := List.drop_eq_nil_of_le (by omega)
    rw [List.append_nil, partition_of_not_mem hpoint, hdrop]

theorem head_mantissaText {ds : PyStr} (h : Significant ds) : (mantissaText ds).head? ≠ some 45 := by
  obtain ⟨c, rest, rfl, _⟩ := h.head
  have hc := h.allDigits c List.mem_cons_self
  simp only [mantissaText, List.take_succ_cons, List.cons_append, List.head?_cons, ne_eq,
    Option.some.injEq]
  omega

/-- An exponent from its sign and digits. -/
theorem signed_natStr (x : Int) :
    (if decide (x < 0) then -(digitsValue (PyFloat.natStr x.natAbs) : Int)
      else digitsValue (PyFloat.natStr x.natAbs)) = x := by
  rw [digitsValue_natStr]
  by_cases hneg : x < 0
  · rw [decide_eq_true hneg, if_pos rfl]
    omega
  · rw [decide_eq_false hneg, if_neg (by decide)]
    omega

/-! ## A float's text -/

theorem reprAbs_eq {m : Nat} {e : Int} (hm : m ≠ 0) (h : CanonicalFloat m e) :
    PyFloat.reprAbs m e h = PyFloat.formatDigits (PyFloat.natStr (PyFloat.printed m e h).1)
      ((PyFloat.natStr (PyFloat.printed m e h).1).length + (PyFloat.printed m e h).2) := by
  unfold PyFloat.reprAbs
  rw [if_neg hm]
  rfl

theorem repr_eq (negative : Bool) {m : Nat} {e : Int} (hm : m ≠ 0) (h : CanonicalFloat m e) :
    (PyFloat.finite negative m e h).repr = signText negative ++
      PyFloat.formatDigits (PyFloat.natStr (PyFloat.printed m e h).1)
        ((PyFloat.natStr (PyFloat.printed m e h).1).length + (PyFloat.printed m e h).2) := by
  rw [← reprAbs_eq hm h]
  cases negative <;> rfl

/-- The text of a float, by the form of its `repr`. -/
theorem ecmascriptNumber_layout (negative : Bool) {m : Nat} {e : Int} (hm : m ≠ 0) (h : CanonicalFloat m e)
    {ds : PyStr} {decpt : Int} (hds : Significant ds)
    (hrepr : (PyFloat.finite negative m e h).repr = signText negative ++ PyFloat.formatDigits ds decpt) :
    ecmascriptNumber (.finite negative m e h) = .ok (
      if decpt ≤ -4 ∨ 16 < decpt then
        if PyFloat.Between (.ofDecimal false 1 (-6)) (.ofDecimal false 1 21) m e then
          signText negative ++ fixedText ds decpt
        else removePointZero (signText negative ++ mantissaText ds) ++
          101 :: ((if 0 ≤ decpt - 1 then [43] else [45]) ++ PyFloat.natStr (decpt - 1).natAbs)
      else removePointZero (signText negative ++ PyFloat.formatDigits ds decpt)) := by
  unfold ecmascriptNumber
  simp only [if_neg hm, hrepr]
  by_cases hfixed : decpt ≤ -4 ∨ 16 < decpt
  · -- scientific `repr`
    have hformat : PyFloat.formatDigits ds decpt =
        mantissaText ds ++ 101 :: PyFloat.exponentStr (decpt - 1) := by
      unfold PyFloat.formatDigits mantissaText
      rw [if_pos hfixed]
    have hmem : 101 ∈ signText negative ++ PyFloat.formatDigits ds decpt := by
      rw [hformat]
      simp
    have hno : 101 ∉ signText negative ++ mantissaText ds := by
      intro hmem
      rcases List.mem_append.1 hmem with hmem | hmem
      · exact not_mem_signText negative (by decide) hmem
      · unfold mantissaText at hmem
        have htake : 101 ∉ ds.take 1 := not_mem_of_allDigits (hds.allDigits_take 1) (by decide)
        have hdrop : 101 ∉ ds.drop 1 := not_mem_of_allDigits (hds.allDigits_drop 1) (by decide)
        split at hmem <;> simp_all
    have hpart : partition 101 (signText negative ++ PyFloat.formatDigits ds decpt) =
        (signText negative ++ mantissaText ds, PyFloat.exponentStr (decpt - 1)) := by
      rw [hformat, ← List.append_assoc]
      exact partition_append hno _
    have hsign : (if (signText negative ++ mantissaText ds).head? = some 45 then
        ([45], (signText negative ++ mantissaText ds).tail)
        else (([] : PyStr), signText negative ++ mantissaText ds)) = (signText negative, mantissaText ds) := by
      cases negative with
      | true => rfl
      | false =>
        have hhead := head_mantissaText hds
        simp [signText, hhead]
    have hlen1 : ((ds.take 1).length : Int) = 1 := by
      have := hds.length_pos
      simp
      omega
    have hposition : ((ds.take 1).length : Int) + signedValue (PyFloat.exponentStr (decpt - 1)) = decpt := by
      rw [signedValue_exponentStr, hlen1]
      ring
    have hjoin : ds.take 1 ++ ds.drop 1 = ds := List.take_append_drop 1 ds
    have hpoint := partition_mantissaText hds
    rw [if_pos hfixed]
    split
    · simp only [hpart, hsign, hpoint, hposition, hjoin]
      unfold fixedText
      by_cases hd : decpt ≤ 0
      · simp only [if_pos hd]
      · by_cases hl : ds.length ≤ decpt.toNat
        · have hl' : (ds.length : Int) ≤ decpt := by omega
          simp only [if_neg hd, if_pos hl, if_pos hl']
        · have hl' : ¬(ds.length : Int) ≤ decpt := by omega
          simp only [if_neg hd, if_neg hl, if_neg hl']
    · simp only [hpart, signedValue_exponentStr]
  · -- fixed `repr`
    have hno := not_mem_formatDigits hds hfixed
    have hno' : 101 ∉ signText negative ++ PyFloat.formatDigits ds decpt := by
      intro hmem
      rcases List.mem_append.1 hmem with hmem | hmem
      · exact not_mem_signText negative (by decide) hmem
      · exact hno hmem
    rw [if_neg hfixed]
    split
    · rfl
    · rw [partition_of_not_mem hno']

/-- Printed decimals have at most 309 digits before the point. -/
theorem decpt_le {m : Nat} {e : Int} (hm : m ≠ 0) (h : CanonicalFloat m e) :
    ((PyFloat.natStr (PyFloat.printed m e h).1).length : Int) + (PyFloat.printed m e h).2 ≤ 309 := by
  have hd := PyFloat.printed_ne_zero hm h
  have hlt := PyFloat.printed_lt hm h
  generalize hdk : PyFloat.printed m e h = d at hd hlt
  obtain ⟨d, k⟩ := d
  obtain ⟨c, rest, hnat, hc⟩ := natStr_head hd
  have hdigits := allDigits_natStr d
  dsimp only at hlt hnat ⊢
  rw [hnat] at hdigits ⊢
  have hlow := pow_le_digitsValue hdigits hc
  rw [← hnat, digitsValue_natStr] at hlow
  have hbound : (2 : Nat) ^ 1024 < 10 ^ 309 := by decide +kernel
  have hpow : 10 ^ (rest.length + k.toNat) < 10 ^ (309 + (-k).toNat) := by
    calc 10 ^ (rest.length + k.toNat) = 10 ^ rest.length * 10 ^ k.toNat := pow_add _ _ _
      _ ≤ d * 10 ^ k.toNat := Nat.mul_le_mul_right _ hlow
      _ < 2 ^ 1024 * 10 ^ (-k).toNat := hlt
      _ < 10 ^ 309 * 10 ^ (-k).toNat := Nat.mul_lt_mul_of_pos_right hbound (by positivity)
      _ = 10 ^ (309 + (-k).toNat) := (pow_add _ _ _).symm
  have hexp := (Nat.pow_lt_pow_iff_right (by decide : 1 < 10)).1 hpow
  simp only [List.length_cons]
  omega

end Json

end LeoFlow
