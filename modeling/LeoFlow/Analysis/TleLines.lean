import LeoFlow.Contracts.Validation
import LeoFlow.Core.Calendar
import LeoFlow.Core.IntText
import LeoFlow.Core.JsonRoundTrip

/-!
# LeoFlow.Analysis.TleLines — the lines of a two-line element set

`_validate_tle_line`, `_norad_id` and `_tle_epoch` of `analysis/ephemeris/normalization.py`.
The pieces of the epoch field are read by `int`, so a sign, a space, an underscore or
another script's digit in the field does not make the line malformed. `Names` says which
instant a plainly written field names, and `epoch_exact_iff` on which lines the parser
agrees with it.
-/

namespace LeoFlow

namespace Tle

open Json (AllDigits digitsValue)

/-! ## Checks of a line -/

/-- `TLEFormatError` -/
def format (message : String) : PyError := ⟨.tle_format_error, message⟩

/-- `int(text)` where nothing catches the `ValueError`. -/
def intOf (text : PyStr) : Except PyError Int :=
  match IntText.int text with
  | some n => .ok n
  | none => .error (.value "invalid literal for int() with base 10")

/-- What one character adds to the checksum. -/
def charValue (c : Nat) : Except PyError Int :=
  if IntText.isdigit c then intOf [c] else .ok (if c = 45 then 1 else 0)

def tle_checksum (body : PyStr) : Except PyError Int := do
  let values ← body.mapM charValue
  pure (values.sum % 10)

/-- The line has the width of an element line and starts with its number. -/
@[reducible] def Shaped (line : PyStr) (expected_number : String) : Prop :=
  line.length = 69 ∧ str expected_number ++ [32] <+: line

def validate_tle_line (line : PyStr) (expected_number : String) : Except PyError Unit :=
  if ¬Shaped line expected_number then .error (format ("malformed TLE line " ++ expected_number))
  else if IntText.isdigit (line.getLastD 0) = false then
    .error (format ("checksum failure on TLE line " ++ expected_number))
  else do
    let checksum ← tle_checksum line.dropLast
    let last ← intOf [line.getLastD 0]
    raiseIf (checksum ≠ last) (format ("checksum failure on TLE line " ++ expected_number))

def norad_id (line : PyStr) : Except PyError Int :=
  match IntText.int ((line.drop 2).take 5) with
  | some n => .ok n
  | none => .error (format "invalid NORAD ID")

/-! ## The epoch -/

/-- `line1[18:32]` -/
def epochField (line1 : PyStr) : PyStr := (line1.drop 18).take 14

/-- `text.split(".", 1)`, of which there must be two parts. -/
def splitPoint : PyStr → Option (PyStr × PyStr)
  | [] => none
  | c :: rest => if c = 46 then some ([], rest) else (splitPoint rest).map fun parts => (c :: parts.1, parts.2)

/-- Nanoseconds of a day. -/
def dayNs : Int := 86400 * 1000000000

/-- The year, the day and the nanoseconds of a field; `none` is the `ValueError` of one of its conversions. -/
def readEpoch (field : PyStr) : Option (Int × Int × Int) := do
  let year2 ← IntText.int (field.take 2)
  let (day_text, fraction_text) ← splitPoint (field.drop 2)
  let day ← IntText.int day_text
  let fraction ← IntText.int fraction_text
  pure (year2, day, fraction * dayNs / 10 ^ fraction_text.length)

/-- The year that two digits mean. -/
def centuryYear (year2 : Int) : Int := if 57 ≤ year2 then 1900 + year2 else 2000 + year2

/-- The first nanosecond of a day of a year. -/
def dayStart (year day : Int) : Int := (Calendar.daysBeforeYear year + day - Calendar.unixEpoch) * dayNs

def tle_epoch (line1 : PyStr) : Except PyError Int :=
  match readEpoch (epochField line1) with
  | none => .error (format "invalid TLE epoch")
  | some (year2, day, fraction_day_ns) => do
    let year := centuryYear year2
    raiseIf (¬(1 ≤ day ∧ day ≤ 366)) (format "TLE epoch day is outside year")
    raiseIf (Calendar.yearOf (Calendar.daysBeforeYear year + day) ≠ year) (format "TLE epoch day exceeds calendar year")
    pure (dayStart year day + fraction_day_ns)

/-- What the parser does with line 1 by itself. -/
def readLine1 (line1 : PyStr) : Except PyError Int := do
  validate_tle_line line1 "1"
  let _ ← norad_id line1
  tle_epoch line1

/-! ## What a field names -/

/-- The epoch field is two digits, an unsigned decimal day of that year, a point and a decimal fraction. -/
structure Names (line1 : PyStr) (year day : Int) (fraction : PyStr) : Prop where
  written : ∃ y d, epochField line1 = y ++ (d ++ 46 :: fraction) ∧ y.length = 2 ∧ AllDigits y ∧
    AllDigits d ∧ d ≠ [] ∧ AllDigits fraction ∧ fraction ≠ [] ∧
    year = centuryYear (digitsValue y) ∧ day = digitsValue d
  in_year : 1 ≤ day ∧ day ≤ Calendar.daysIn year

def Named (line1 : PyStr) : Prop := ∃ year day fraction, Names line1 year day fraction

/-- The instant of a day and a decimal fraction of it, in whole nanoseconds. -/
def instant (year day : Int) (fraction : PyStr) : Int :=
  dayStart year day + ⌊(digitsValue fraction : ℚ) / 10 ^ fraction.length * dayNs⌋

/-- The parser decodes the line exactly, or refuses it as it says. -/
structure Exact (line1 : PyStr) : Prop where
  decoded : ∀ ns, readLine1 line1 = .ok ns → ∃ year day fraction, Names line1 year day fraction ∧
    ns = instant year day fraction ∧ dayStart year day ≤ ns ∧ ns < dayStart year day + dayNs
  rejected : ¬Named line1 → ∃ e, readLine1 line1 = .error e ∧ e.kind = .tle_format_error

/-- A field of which `int` reads every piece, and a piece that is no plain decimal number. -/
def Loose (line1 : PyStr) : Prop :=
  ∃ year2 day fraction day_text fraction_text,
    splitPoint ((epochField line1).drop 2) = some (day_text, fraction_text) ∧
    IntText.int ((epochField line1).take 2) = some year2 ∧ IntText.int day_text = some day ∧
    IntText.int fraction_text = some fraction ∧ 1 ≤ day ∧ day ≤ Calendar.daysIn (centuryYear year2) ∧
    ¬(AllDigits ((epochField line1).take 2) ∧ AllDigits day_text ∧ AllDigits fraction_text)

/-- The checksum meets a character that `isdigit` holds of and `int` refuses. -/
structure Stray (line1 : PyStr) : Prop where
  shaped : Shaped line1 "1"
  last : IntText.isdigit (line1.getLastD 0) = true
  refused : ∃ c ∈ line1, IntText.isdigit c = true ∧ IntText.int [c] = none

/-- The checks before the epoch pass. -/
def Checked (line1 : PyStr) : Prop := validate_tle_line line1 "1" = .ok () ∧ ∃ id, norad_id line1 = .ok id

/-! ## The pieces of a field -/

theorem splitPoint_append {d f : PyStr} (hd : AllDigits d) : splitPoint (d ++ 46 :: f) = some (d, f) := by
  induction d with
  | nil => simp [splitPoint]
  | cons c d ih =>
    have hc : IsDigit c := hd c List.mem_cons_self
    have hne : c ≠ 46 := by omega
    rw [List.cons_append, splitPoint, if_neg hne, ih fun c' hc' => hd c' (List.mem_cons_of_mem _ hc')]
    rfl

theorem of_splitPoint {s d f : PyStr} (h : splitPoint s = some (d, f)) : s = d ++ 46 :: f := by
  induction s generalizing d with
  | nil => cases h
  | cons c s ih =>
    rw [splitPoint] at h
    split at h
    · rename_i hc
      cases h
      rw [hc, List.nil_append]
    · obtain ⟨⟨d', f'⟩, hsplit, hparts⟩ := Option.map_eq_some_iff.1 h
      cases hparts
      rw [ih hsplit, List.cons_append]

variable {line1 : PyStr}

theorem length_epochField (h : line1.length = 69) : (epochField line1).length = 14 := by
  simp [epochField, h]

/-- The pieces of a plainly written field are the ones that the parser takes. -/
theorem Names.pieces {year day : Int} {fraction : PyStr} (h : Names line1 year day fraction) :
    ∃ y d, (epochField line1).take 2 = y ∧ splitPoint ((epochField line1).drop 2) = some (d, fraction) ∧
      AllDigits y ∧ AllDigits d ∧ AllDigits fraction ∧ IntText.int y = some (digitsValue y : Int) ∧
      IntText.int d = some (digitsValue d : Int) ∧ IntText.int fraction = some (digitsValue fraction : Int) ∧
      year = centuryYear (digitsValue y) ∧ day = digitsValue d := by
  obtain ⟨y, d, hfield, hlength, hy, hd, hdne, hf, hfne, hyear, hday⟩ := h.written
  have hyne : y ≠ [] := by
    rintro rfl
    simp at hlength
  refine ⟨y, d, ?_, ?_, hy, hd, hf, IntText.int_digits hy hyne, IntText.int_digits hd hdne,
    IntText.int_digits hf hfne, hyear, hday⟩
  · rw [hfield, ← hlength, List.take_left]
  · rw [hfield, ← hlength, List.drop_left, splitPoint_append hd]

/-- A field that is not loose and is read names what was read. -/
theorem names_of_pieces {day_text fraction_text : PyStr} {year2 day fraction : Int} (hlength : line1.length = 69)
    (hloose : ¬Loose line1) (hsplit : splitPoint ((epochField line1).drop 2) = some (day_text, fraction_text))
    (hyear2 : IntText.int ((epochField line1).take 2) = some year2) (hday : IntText.int day_text = some day)
    (hfraction : IntText.int fraction_text = some fraction) (hfirst : 1 ≤ day)
    (hlast : day ≤ Calendar.daysIn (centuryYear year2)) :
    Names line1 (centuryYear year2) day fraction_text ∧ fraction = digitsValue fraction_text ∧
      AllDigits fraction_text := by
  have hplain : AllDigits ((epochField line1).take 2) ∧ AllDigits day_text ∧ AllDigits fraction_text := by
    by_contra hplain
    exact hloose ⟨_, _, _, _, _, hsplit, hyear2, hday, hfraction, hfirst, hlast, hplain⟩
  have hnil : ∀ {text : PyStr} {n : Int}, IntText.int text = some n → text ≠ [] := by
    rintro text n hint rfl
    rw [IntText.int_nil] at hint
    cases hint
  obtain ⟨hy, hd, hf⟩ := hplain
  rw [IntText.int_digits hy (hnil hyear2), Option.some.injEq] at hyear2
  rw [IntText.int_digits hd (hnil hday), Option.some.injEq] at hday
  have hvalue := hfraction
  rw [IntText.int_digits hf (hnil hfraction), Option.some.injEq] at hvalue
  have hdne : day_text ≠ [] := by
    rintro rfl
    rw [← hday] at hfirst
    simp [digitsValue] at hfirst
  refine ⟨⟨⟨(epochField line1).take 2, day_text, ?_, ?_, hy, hd, hdne, hf, hnil hfraction, ?_, hday.symm⟩,
    hfirst, hlast⟩, hvalue.symm, hf⟩
  · rw [← of_splitPoint hsplit, List.take_append_drop]
  · rw [List.length_take, length_epochField hlength]
    rfl
  · rw [hyear2]

/-! ## The run -/

theorem readEpoch_eq_some {field : PyStr} {year2 day ns : Int} :
    readEpoch field = some (year2, day, ns) ↔ ∃ day_text fraction_text fraction,
      splitPoint (field.drop 2) = some (day_text, fraction_text) ∧ IntText.int (field.take 2) = some year2 ∧
      IntText.int day_text = some day ∧ IntText.int fraction_text = some fraction ∧
      ns = fraction * dayNs / 10 ^ fraction_text.length := by
  unfold readEpoch
  simp only [Option.bind_eq_bind, Option.bind_eq_some_iff, Option.pure_def, Option.some.injEq, Prod.mk.injEq, Prod.exists]
  constructor
  · rintro ⟨year2', hyear2, day_text, fraction_text, hsplit, day', hday, fraction, hfraction, rfl, rfl, rfl⟩
    exact ⟨day_text, fraction_text, fraction, hsplit, hyear2, hday, hfraction, rfl⟩
  · rintro ⟨day_text, fraction_text, fraction, hsplit, hyear2, hday, hfraction, rfl⟩
    exact ⟨year2, hyear2, day_text, fraction_text, hsplit, day, hday, fraction, hfraction, rfl, rfl, rfl⟩

theorem tle_epoch_ok {ns : Int} :
    tle_epoch line1 = .ok ns ↔ ∃ year2 day fraction_ns, readEpoch (epochField line1) = some (year2, day, fraction_ns) ∧
      1 ≤ day ∧ day ≤ Calendar.daysIn (centuryYear year2) ∧
      ns = dayStart (centuryYear year2) day + fraction_ns := by
  unfold tle_epoch
  split
  · rename_i hread
    simp [hread]
  · rename_i year2 day fraction_ns hread
    rw [hread]
    constructor
    · intro h
      obtain ⟨_, hrange, h⟩ := bind_ok.1 h
      obtain ⟨_, hyear, h⟩ := bind_ok.1 h
      rw [raiseIf_ok, not_not] at hrange hyear
      cases h
      exact ⟨year2, day, fraction_ns, rfl, hrange.1, (Calendar.yearOf_day_iff hrange.1 hrange.2).1 hyear, rfl⟩
    · rintro ⟨_, _, _, heq, hfirst, hlast, rfl⟩
      cases heq
      have hdays := Calendar.daysIn_bounds (centuryYear year2)
      have hrange : 1 ≤ day ∧ day ≤ 366 := ⟨hfirst, by omega⟩
      refine bind_ok.2 ⟨(), raiseIf_ok.2 (not_not.2 hrange), bind_ok.2 ⟨(), raiseIf_ok.2 (not_not.2 ?_), rfl⟩⟩
      exact (Calendar.yearOf_day_iff hrange.1 hrange.2).2 hlast

/-- `TLEFormatError` is all that a class of checks raises. -/
abbrev OnlyFormat {α : Type} (x : Except PyError α) : Prop := RaisesOnly (· = .tle_format_error) x

theorem onlyFormat_tle_epoch : OnlyFormat (tle_epoch line1) := by
  unfold tle_epoch
  split
  · exact raisesOnly_error rfl
  · exact raisesOnly_bind.2 ⟨raisesOnly_raiseIf rfl, fun _ _ =>
      raisesOnly_bind.2 ⟨raisesOnly_raiseIf rfl, fun _ _ => raisesOnly_ok _⟩⟩

variable {line : PyStr}

theorem onlyFormat_norad_id : OnlyFormat (norad_id line) := by
  unfold norad_id
  split
  · exact raisesOnly_ok _
  · exact raisesOnly_error rfl

theorem charValue_ok {c : Nat} (h : ¬(IntText.isdigit c = true ∧ IntText.int [c] = none)) :
    ∃ n, charValue c = .ok n := by
  unfold charValue intOf
  split
  · rename_i hdigit
    split
    · exact ⟨_, rfl⟩
    · rename_i hint
      exact absurd ⟨hdigit, hint⟩ h
  · exact ⟨_, rfl⟩

theorem charValue_refused {c : Nat} (hdigit : IntText.isdigit c = true) (hint : IntText.int [c] = none) (n : Int) :
    charValue c ≠ .ok n := by
  unfold charValue intOf
  rw [if_pos hdigit, hint]
  nofun

/-- The character can be added up. -/
@[reducible] def Readable (c : Nat) : Prop := ¬(IntText.isdigit c = true ∧ IntText.int [c] = none)

theorem tle_checksum_ok {body : PyStr} (h : ∀ c ∈ body, Readable c) : ∃ n, tle_checksum body = .ok n := by
  obtain ⟨values, hvalues⟩ := exists_mapM_ok fun c hc => charValue_ok (h c hc)
  exact ⟨values.sum % 10, bind_ok.2 ⟨values, hvalues, rfl⟩⟩

theorem tle_checksum_refused {body : PyStr} {c : Nat} (hc : c ∈ body) (hdigit : IntText.isdigit c = true)
    (hint : IntText.int [c] = none) (n : Int) : tle_checksum body ≠ .ok n := by
  intro h
  obtain ⟨values, hvalues, -⟩ := bind_ok.1 h
  obtain ⟨k, -, hk⟩ := Json.exists_mem_of_forall₂ (mapM_ok.1 hvalues) hc
  exact charValue_refused hdigit hint k hk

theorem raisesOnly_intOf {text : PyStr} : RaisesOnly (· = .value_error) (intOf text) := by
  unfold intOf
  split
  · exact raisesOnly_ok _
  · exact raisesOnly_error rfl

theorem raisesOnly_tle_checksum {body : PyStr} : RaisesOnly (· = .value_error) (tle_checksum body) := by
  refine raisesOnly_bind.2 ⟨raisesOnly_mapM fun c _ => ?_, fun _ _ => raisesOnly_ok _⟩
  unfold charValue
  split
  · exact raisesOnly_intOf
  · exact raisesOnly_ok _

/-- A line of the right width is what the checksum adds up, and its last character. -/
theorem mem_line (h : line.length = 69) (c : Nat) :
    c ∈ line ↔ c ∈ line.dropLast ∨ c = line.getLastD 0 := by
  have hne : line ≠ [] := by
    rintro rfl
    cases h
  have hparts : line.dropLast ++ [line.getLastD 0] = line := by
    rw [List.getLastD_eq_getLast?, List.getLast?_eq_some_getLast hne]
    exact List.dropLast_append_getLast hne
  calc c ∈ line ↔ c ∈ line.dropLast ++ [line.getLastD 0] := by rw [hparts]
    _ ↔ c ∈ line.dropLast ∨ c = line.getLastD 0 := by rw [List.mem_append, List.mem_singleton]

/-- The checks of a line that is not stray raise nothing else. -/
theorem onlyFormat_validate (h : ¬Stray line) : OnlyFormat (validate_tle_line line "1") := by
  unfold validate_tle_line
  split
  · exact raisesOnly_error rfl
  · rename_i hshaped
    rw [not_not] at hshaped
    split
    · exact raisesOnly_error rfl
    · rename_i hdigit
      rw [Bool.not_eq_false] at hdigit
      have hread : ∀ c ∈ line, Readable c := fun c hc href => h ⟨hshaped, hdigit, c, hc, href⟩
      obtain ⟨checksum, hchecksum⟩ :=
        tle_checksum_ok fun c hc => hread c ((mem_line hshaped.1 c).2 (Or.inl hc))
      obtain ⟨last, hlast⟩ := charValue_ok (hread _ ((mem_line hshaped.1 _).2 (Or.inr rfl)))
      rw [charValue, if_pos hdigit] at hlast
      rw [hchecksum, hlast]
      exact raisesOnly_raiseIf rfl

/-- A stray line escapes as the `ValueError` of `int`. -/
theorem validate_of_stray (h : Stray line) :
    ∃ e, validate_tle_line line "1" = .error e ∧ e.kind = .value_error := by
  obtain ⟨hshaped, hdigit, c, hc, hisdigit, hint⟩ := h
  unfold validate_tle_line
  rw [if_neg (not_not.2 hshaped), if_neg (by rw [hdigit]; decide)]
  cases hchecksum : tle_checksum line.dropLast with
  | error e => exact ⟨e, rfl, raisesOnly_tle_checksum e hchecksum⟩
  | ok checksum =>
    rcases (mem_line hshaped.1 c).1 hc with hbody | rfl
    · exact absurd hchecksum (tle_checksum_refused hbody hisdigit hint checksum)
    · refine ⟨.value "invalid literal for int() with base 10", ?_, rfl⟩
      rw [ok_bind, intOf, hint]
      rfl

theorem length_of_validate {number : String} (h : validate_tle_line line number = .ok ()) :
    line.length = 69 := by
  unfold validate_tle_line at h
  split at h
  · cases h
  · rename_i hshaped
    exact (not_not.1 hshaped).1

theorem readLine1_ok {ns : Int} :
    readLine1 line1 = .ok ns ↔ Checked line1 ∧ tle_epoch line1 = .ok ns := by
  unfold readLine1 Checked
  constructor
  · intro h
    obtain ⟨_, hvalid, h⟩ := bind_ok.1 h
    obtain ⟨id, hid, h⟩ := bind_ok.1 h
    exact ⟨⟨hvalid, id, hid⟩, h⟩
  · rintro ⟨⟨hvalid, id, hid⟩, h⟩
    exact bind_ok.2 ⟨(), hvalid, bind_ok.2 ⟨id, hid, h⟩⟩

/-! ## The instant -/

theorem instant_eq (year day : Int) (fraction : PyStr) :
    instant year day fraction = dayStart year day + digitsValue fraction * dayNs / 10 ^ fraction.length := by
  have hfloor : ⌊(digitsValue fraction : ℚ) / 10 ^ fraction.length * dayNs⌋ =
      digitsValue fraction * dayNs / 10 ^ fraction.length := by
    have hcast := Rat.floor_intCast_div_natCast (digitsValue fraction * dayNs) (10 ^ fraction.length)
    push_cast at hcast
    rw [← hcast]
    congr 1
    ring
  rw [instant, hfloor]

/-- A fraction stays below one day. -/
theorem instant_in_day {fraction : PyStr} (h : AllDigits fraction) (year day : Int) :
    dayStart year day ≤ instant year day fraction ∧ instant year day fraction < dayStart year day + dayNs := by
  have hpow : (0 : Int) < 10 ^ fraction.length := by positivity
  have hvalue : (digitsValue fraction : Int) < 10 ^ fraction.length := by exact_mod_cast Json.digitsValue_lt h
  have hday : 0 < dayNs := by decide +kernel
  have hnonneg : 0 ≤ (digitsValue fraction : Int) * dayNs / 10 ^ fraction.length :=
    Int.ediv_nonneg (mul_nonneg (Int.natCast_nonneg _) hday.le) hpow.le
  have hlt : (digitsValue fraction : Int) * dayNs / 10 ^ fraction.length < dayNs := by
    refine Int.ediv_lt_of_lt_mul hpow ?_
    rw [mul_comm]
    exact mul_lt_mul_of_pos_left hvalue hday
  rw [instant_eq]
  exact ⟨by omega, by omega⟩

/-! ## Exactness -/

theorem not_named_of_loose (h : Loose line1) : ¬Named line1 := by
  rintro ⟨year, day, fraction, hnames⟩
  obtain ⟨year2, day', fraction', day_text, fraction_text, hsplit, -, -, -, -, -, hplain⟩ := h
  obtain ⟨y, d, htake, hsplit', hy, hd, hf, -⟩ := hnames.pieces
  rw [hsplit, Option.some.injEq, Prod.mk.injEq] at hsplit'
  obtain ⟨rfl, rfl⟩ := hsplit'
  exact hplain ⟨htake ▸ hy, hd, hf⟩

/-- A loosely written line is accepted. -/
theorem readLine1_of_loose (hchecked : Checked line1) (h : Loose line1) :
    ∃ ns, readLine1 line1 = .ok ns := by
  obtain ⟨year2, day, fraction, day_text, fraction_text, hsplit, hyear2, hday, hfraction, hfirst, hlast, -⟩ := h
  exact ⟨_, readLine1_ok.2 ⟨hchecked, tle_epoch_ok.2 ⟨year2, day, _, readEpoch_eq_some.2
    ⟨day_text, fraction_text, fraction, hsplit, hyear2, hday, hfraction, rfl⟩, hfirst, hlast, rfl⟩⟩⟩

theorem not_exact_of_loose (hchecked : Checked line1) (h : Loose line1) : ¬Exact line1 := by
  intro hexact
  obtain ⟨ns, hns⟩ := readLine1_of_loose hchecked h
  obtain ⟨year, day, fraction, hnames, -⟩ := hexact.decoded ns hns
  exact not_named_of_loose h ⟨year, day, fraction, hnames⟩

/-- A line is decoded exactly unless it is loosely written, or its checksum meets a stray character. -/
theorem epoch_exact_iff (line1 : PyStr) :
    Exact line1 ↔ (Checked line1 → ¬Loose line1) ∧ (Stray line1 → Named line1) := by
  constructor
  · intro hexact
    refine ⟨fun hchecked hloose => not_exact_of_loose hchecked hloose hexact, fun hstray => ?_⟩
    by_contra hnamed
    obtain ⟨e, he, hkind⟩ := hexact.rejected hnamed
    obtain ⟨e', he', hkind'⟩ := validate_of_stray hstray
    have hrun : readLine1 line1 = .error e' := by rw [readLine1, he']; rfl
    rw [hrun] at he
    cases he
    rw [hkind] at hkind'
    cases hkind'
  · rintro ⟨hloose, hstray⟩
    constructor
    · intro ns hns
      obtain ⟨hchecked, hepoch⟩ := readLine1_ok.1 hns
      obtain ⟨year2, day, fraction_ns, hread, hfirst, hlast, rfl⟩ := tle_epoch_ok.1 hepoch
      obtain ⟨day_text, fraction_text, fraction, hsplit, hyear2, hday, hfraction, rfl⟩ := readEpoch_eq_some.1 hread
      obtain ⟨hnames, rfl, hdigits⟩ := names_of_pieces (length_of_validate hchecked.1) (hloose hchecked) hsplit hyear2
        hday hfraction hfirst hlast
      have heq := instant_eq (centuryYear year2) day fraction_text
      have hbounds := instant_in_day hdigits (centuryYear year2) day
      exact ⟨_, _, _, hnames, heq.symm, by rw [← heq]; exact hbounds.1, by rw [← heq]; exact hbounds.2⟩
    · intro hnamed
      have hraises : OnlyFormat (readLine1 line1) :=
        raisesOnly_bind.2 ⟨onlyFormat_validate fun h => hnamed (hstray h), fun _ _ =>
          raisesOnly_bind.2 ⟨onlyFormat_norad_id, fun _ _ => onlyFormat_tle_epoch⟩⟩
      cases hrun : readLine1 line1 with
      | error e => exact ⟨e, rfl, hraises e hrun⟩
      | ok ns =>
        obtain ⟨hchecked, hepoch⟩ := readLine1_ok.1 hrun
        obtain ⟨year2, day, fraction_ns, hread, hfirst, hlast, -⟩ := tle_epoch_ok.1 hepoch
        obtain ⟨day_text, fraction_text, fraction, hsplit, hyear2, hday, hfraction, -⟩ := readEpoch_eq_some.1 hread
        obtain ⟨hnames, -⟩ := names_of_pieces (length_of_validate hchecked.1) (hloose hchecked) hsplit hyear2
          hday hfraction hfirst hlast
        exact absurd ⟨_, _, _, hnames⟩ hnamed

/-- A fraction of minus one twentieth of a day is accepted, and its instant is in the day before. -/
theorem negative_fraction_accepted :
    ¬Exact (str "1 25544U 98067A   24001.-5000000  .00016717  00000-0  10270-3 0  9000") := by
  refine not_exact_of_loose ⟨?_, 25544, ?_⟩ ⟨24, 1, -5000000, str "001", str "-5000000", ?_⟩
  · decide +kernel
  · decide +kernel
  · decide +kernel

end Tle

end LeoFlow
