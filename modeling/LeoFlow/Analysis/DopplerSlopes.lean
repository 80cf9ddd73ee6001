import LeoFlow.Analysis.DopplerTracks
import LeoFlow.Core.Alike
import LeoFlow.Core.FloatBounds
import LeoFlow.Core.JsonRoundTrip
import LeoFlow.Core.Moments

/-!
# LeoFlow.Analysis.DopplerSlopes — the slope bank and its held-out rows

`dedoppler_slope_bank` of `analysis/doppler_evidence.py`, with the floats that it computes
with. `sum` of floats is a parameter: since Python 3.12 it compensates the rounding. Rows
are told apart by their index modulo three: the first class fits, the second selects, and
the third only scores.
-/

namespace LeoFlow

namespace Doppler

/-- `values[row][column]` -/
def floatCell (values : List (List PyFloat)) (row column : Nat) : PyFloat :=
  (values.getD row []).getD column (.zero false)

/-- `intercept + slope * row`, rounded -/
def position (slope : PyFloat) (intercept row : Nat) : Except PyError Int := do
  let product ← Num.mul (.float slope) (.int row)
  let place ← Num.add (.int intercept) product
  place.round

/-- `all(0 <= round(intercept + slope * row) < columns for row in …)`, up to the first row that is outside -/
def staysInside (columns : Nat) (slope : PyFloat) (intercept : Nat) : List Nat → Except PyError Bool
  | [] => .ok true
  | row :: rows => do
    let place ← position slope intercept row
    if 0 ≤ place ∧ place < columns then staysInside columns slope intercept rows else .ok false

/-- `intercepts` -/
def containedIntercepts (rows columns : Nat) (slope : PyFloat) : List Nat → Except PyError (List Nat)
  | [] => .ok []
  | intercept :: intercepts => do
    let inside ← staysInside columns slope intercept (List.range rows)
    let later ← containedIntercepts rows columns slope intercepts
    .ok (if inside then intercept :: later else later)

/-- `max(…, key=…)` of items with their keys: the first that no later one exceeds. -/
def maximumBy {κ ι : Type} (Exceeds : κ → κ → Prop) [DecidableRel Exceeds] (first : ι × κ) (rest : List (ι × κ)) : ι :=
  (rest.foldl (fun best item => if Exceeds item.2 best.2 then item else best) first).1

/-- `a > b` of floats -/
@[reducible] def Greater (a b : PyFloat) : Prop := Num.Lt (.float b) (.float a)

/-- `a > b` of pairs -/
@[reducible] def PairGreater (a b : PyFloat × PyFloat) : Prop :=
  if a.1.Eq b.1 then Greater a.2 b.2 else Greater a.1 b.1

section Bank

variable (sum : List PyFloat → PyFloat)

/-- The key of an intercept: the power along its path in the rows. -/
def interceptScore (power : List (List PyFloat)) (slope : PyFloat) (rows : List Nat) (intercept : Nat) :
    Except PyError PyFloat := do
  let values ← rows.mapM fun row => do
    let place ← position slope intercept row
    .ok (floatCell power row place.toNat)
  .ok (sum values)

/-- The part of `_fit_linear_track` that fits: the intercept and its path. -/
def fitPath (power : List (List PyFloat)) (slope : PyFloat) (train : List Nat) (columns : Nat) :
    Except PyError (Nat × List Nat) := do
  raiseIf (¬slope.IsFinite) (.value "slopes must be finite")
  let intercepts ← containedIntercepts power.length columns slope (List.range columns)
  let scored ← intercepts.mapM fun intercept => do
    let score ← interceptScore sum power slope train intercept
    .ok (intercept, score)
  match scored with
  | [] => .error (.value "slope has no path fully contained in the matrix")
  | first :: rest => do
    let intercept := maximumBy Greater first rest
    let places ← (List.range power.length).mapM (position slope intercept)
    .ok (intercept, places.map Int.toNat)

/-- `_path_mean` -/
def floatPathMean (values : List (List PyFloat)) (path rows : List Nat) : Except PyError PyFloat :=
  (sum (rows.map fun row => floatCell values row (path.getD row 0))).divNat rows.length

/-- `_column_mean` -/
def floatColumnMean (values : List (List PyFloat)) (column : Nat) (rows : List Nat) : Except PyError PyFloat :=
  (sum (rows.map fun row => floatCell values row column)).divNat rows.length

/-- `_fit_linear_track` -/
def fitLinearTrack (power : List (List PyFloat)) (slope : PyFloat) (train heldout : List Nat) (columns : Nat) :
    Except PyError (LinearTrack PyFloat) := do
  let (intercept, path) ← fitPath sum power slope train columns
  let score ← floatPathMean sum power path heldout
  let stationary ← floatColumnMean sum power intercept heldout
  .ok ⟨path, slope, score, score.sub stationary⟩

/-- `_shuffled_path_mean` -/
def shuffledPathMean (values : List (List PyFloat)) (path rows : List Nat) (offset : Int) : Except PyError PyFloat :=
  let start := (offset % rows.length).toNat
  let shifted := rows.drop start ++ rows.take start
  (sum (List.zipWith (fun source target => floatCell values source (path.getD target 0)) shifted rows)).divNat rows.length

/-- `range(start, rows, 3)` -/
def everyThird (start rows : Nat) : List Nat := (List.range rows).filter fun row => row % 3 = start

/-- The tracks that a bank ends with. -/
structure BankTracks where
  best : LinearTrack PyFloat
  stationary : LinearTrack PyFloat
  opposite : LinearTrack PyFloat

/-- `SlopeBankEvidence` -/
structure SlopeBankEvidence where
  track : LinearTrack PyFloat
  heldout_score : PyFloat
  stationary_score : PyFloat
  opposite_slope_score : PyFloat
  shuffled_scores : List PyFloat
  training_rows : List Nat
  validation_rows : List Nat
  test_rows : List Nat

/-- The slope that the validation rows select. -/
def selectSlope (power : List (List PyFloat)) (slopes : List PyFloat) (columns : Nat) : Except PyError PyFloat := do
  let train := everyThird 0 power.length
  let validation := everyThird 1 power.length
  let candidates ← slopes.mapM fun slope => do
    let track ← fitLinearTrack sum power slope train validation columns
    .ok (track.slope_bins_per_row, (track.score, track.slope_bins_per_row.abs.neg))
  match candidates with
  | [] => .error (.value "max() iterable argument is empty")
  | first :: rest => .ok (maximumBy PairGreater first rest)

/-- `fit_rows` -/
def fitRows (rows : Nat) : List Nat := (List.range rows).filter fun row => row % 3 ≠ 2

/-- The checks and the fits of `dedoppler_slope_bank`. -/
def bankTracks (power : List (List PyFloat)) (slopes : List PyFloat) : Except PyError BankTracks := do
  let (rows, columns) ← validatedShape PyFloat.IsFinite power
  raiseIf (rows < 6) (.value "de-Doppler evidence requires at least six rows")
  raiseIf (slopes = [] ∨ (∃ slope ∈ slopes, ¬slope.IsFinite) ∨ ¬slopes.Pairwise fun a b => ¬a.Eq b)
    (.value "slope bank must be nonempty, finite, and unique")
  let slope ← selectSlope sum power slopes columns
  let test := everyThird 2 rows
  let best ← fitLinearTrack sum power slope (fitRows rows) test columns
  let stationary ← fitLinearTrack sum power (.zero false) (fitRows rows) test columns
  let opposite ← fitLinearTrack sum power best.slope_bins_per_row.neg (fitRows rows) test columns
  .ok ⟨{ best with stationary_improvement := best.score.sub stationary.score }, stationary, opposite⟩

/-- `dedoppler_slope_bank` -/
def dedopplerSlopeBank (power : List (List PyFloat)) (slopes : List PyFloat) (shuffle_offsets : List Int) :
    Except PyError SlopeBankEvidence := do
  let tracks ← bankTracks sum power slopes
  let test := everyThird 2 power.length
  let shuffled ← (shuffle_offsets.filter fun offset : Int => offset % test.length ≠ 0).mapM
    (shuffledPathMean sum power tracks.best.bins test)
  .ok {
    track := tracks.best
    heldout_score := tracks.best.score
    stationary_score := tracks.stationary.score
    opposite_slope_score := tracks.opposite.score
    shuffled_scores := shuffled
    training_rows := everyThird 0 power.length
    validation_rows := everyThird 1 power.length
    test_rows := test }

end Bank

/-! ## Two matrices -/

section TwoRuns

variable {sum : List PyFloat → PyFloat} {power power' : List (List PyFloat)} {slope : PyFloat} {slopes : List PyFloat}
  {columns : Nat}

/-- Two matrices with the same rows at these indices. -/
def Agree (rows : List Nat) (power power' : List (List PyFloat)) : Prop :=
  ∀ row ∈ rows, power.getD row [] = power'.getD row []

theorem Agree.cell {rows : List Nat} (h : Agree rows power power') {row : Nat} (hrow : row ∈ rows) (column : Nat) :
    floatCell power row column = floatCell power' row column := by
  unfold floatCell
  rw [h row hrow]

theorem mapM_congr {ε α β : Type} {f g : α → Except ε β} {items : List α} (h : ∀ item ∈ items, f item = g item) :
    items.mapM f = items.mapM g := by
  induction items with
  | nil => rfl
  | cons item items ih =>
    rw [List.mapM_cons, List.mapM_cons, h item List.mem_cons_self, ih fun other hother => h other (List.mem_cons_of_mem _ hother)]

theorem interceptScore_congr {rows : List Nat} (h : Agree rows power power') (intercept : Nat) :
    interceptScore sum power slope rows intercept = interceptScore sum power' slope rows intercept := by
  unfold interceptScore
  refine congrArg (fun values => values >>= fun values => Except.ok (sum values)) ?_
  refine mapM_congr fun row hrow => ?_
  refine bind_congr fun place => ?_
  rw [h.cell hrow]

/-- The path is fitted from the training rows. -/
theorem fitPath_congr {train : List Nat} (hlength : power.length = power'.length) (h : Agree train power power') :
    fitPath sum power slope train columns = fitPath sum power' slope train columns := by
  unfold fitPath
  simp only [hlength, interceptScore_congr h]

theorem floatPathMean_congr {rows path : List Nat} (h : Agree rows power power') :
    floatPathMean sum power path rows = floatPathMean sum power' path rows := by
  unfold floatPathMean
  rw [List.map_congr_left fun row hrow => h.cell hrow (path.getD row 0)]

theorem floatColumnMean_congr {rows : List Nat} {column : Nat} (h : Agree rows power power') :
    floatColumnMean sum power column rows = floatColumnMean sum power' column rows := by
  unfold floatColumnMean
  rw [List.map_congr_left fun row hrow => h.cell hrow column]

/-- Where the held-out rows are the same too, so is the track. -/
theorem fitLinearTrack_congr {train heldout : List Nat} (hlength : power.length = power'.length)
    (htrain : Agree train power power') (hheldout : Agree heldout power power') :
    fitLinearTrack sum power slope train heldout columns = fitLinearTrack sum power' slope train heldout columns := by
  unfold fitLinearTrack
  simp only [fitPath_congr hlength htrain, floatPathMean_congr hheldout, floatColumnMean_congr hheldout]

/-- A quotient is raised or returned by its divisor. -/
theorem alike_divNat (f g : PyFloat) (n : Nat) : Alike (fun _ _ => True) (f.divNat n) (g.divNat n) := by
  unfold PyFloat.divNat
  refine (Alike.refl (Num.toFloat (.int n))).bind ?_
  rintro divisor _ rfl
  split
  · exact .error _
  · exact .ok trivial

/-- Tracks with the same path and slope. -/
def SamePath (a b : LinearTrack PyFloat) : Prop := a.bins = b.bins ∧ a.slope_bins_per_row = b.slope_bins_per_row

theorem fitLinearTrack_alike {train heldout : List Nat} (hlength : power.length = power'.length)
    (htrain : Agree train power power') : Alike SamePath (fitLinearTrack sum power slope train heldout columns)
      (fitLinearTrack sum power' slope train heldout columns) := by
  unfold fitLinearTrack
  rw [fitPath_congr hlength htrain]
  refine (Alike.refl _).bind ?_
  rintro ⟨intercept, path⟩ _ rfl
  refine (alike_divNat _ _ _).bind fun score score' _ => (alike_divNat _ _ _).bind fun stationary stationary' _ => ?_
  exact .ok ⟨rfl, rfl⟩

/-- The tracks of two banks with the same paths. -/
structure SameTracks (a b : BankTracks) : Prop where
  best : SamePath a.best b.best
  stationary : SamePath a.stationary b.stationary
  opposite : SamePath a.opposite b.opposite

theorem mem_everyThird {start rows row : Nat} : row ∈ everyThird start rows ↔ row < rows ∧ row % 3 = start := by
  unfold everyThird
  rw [List.mem_filter, List.mem_range, decide_eq_true_iff]

theorem mem_fitRows {rows row : Nat} : row ∈ fitRows rows ↔ row < rows ∧ row % 3 ≠ 2 := by
  unfold fitRows
  rw [List.mem_filter, List.mem_range, decide_eq_true_iff]

theorem selectSlope_congr (hlength : power.length = power'.length) (h : Agree (fitRows power.length) power power') :
    selectSlope sum power slopes columns = selectSlope sum power' slopes columns := by
  have hsplit : ∀ start, start ≠ 2 → Agree (everyThird start power.length) power power' := by
    intro start hstart row hrow
    rcases mem_everyThird.1 hrow with ⟨hin, hclass⟩
    exact h row (mem_fitRows.2 ⟨hin, by omega⟩)
  unfold selectSlope
  simp only [← hlength, fitLinearTrack_congr hlength (hsplit 0 (by decide)) (hsplit 1 (by decide))]

/-- A matrix that `_validated_shape` accepts. -/
structure FiniteMatrix (rows columns : Nat) (power : List (List PyFloat)) : Prop where
  rows_pos : 0 < rows
  columns_pos : 0 < columns
  rectangular : Rectangular rows columns power
  finite : ∀ row ∈ power, ∀ value ∈ row, value.IsFinite

theorem FiniteMatrix.shape {rows columns : Nat} (h : FiniteMatrix rows columns power) :
    validatedShape PyFloat.IsFinite power = .ok (rows, columns) :=
  validatedShape_ok_iff.2 ⟨rows, columns, h.rows_pos, h.columns_pos, h.rectangular, h.finite, rfl⟩

/-- Nothing that is fitted or selected depends on the third class of rows. -/
theorem bankTracks_alike {rows : Nat} (h : FiniteMatrix rows columns power) (h' : FiniteMatrix rows columns power')
    (hagree : Agree (fitRows rows) power power') :
    Alike SameTracks (bankTracks sum power slopes) (bankTracks sum power' slopes) := by
  have hlength : power.length = power'.length := h.rectangular.1.trans h'.rectangular.1.symm
  have hselect : selectSlope sum power slopes columns = selectSlope sum power' slopes columns := by
    refine selectSlope_congr hlength ?_
    rw [h.rectangular.1]
    exact hagree
  unfold bankTracks
  rw [h.shape, h'.shape]
  dsimp only [ok_bind]
  refine (Alike.refl _).bind fun _ _ _ => (Alike.refl _).bind fun _ _ _ => ?_
  rw [hselect]
  refine (Alike.refl _).bind ?_
  rintro slope _ rfl
  refine (fitLinearTrack_alike hlength hagree).bind fun best best' hbest => ?_
  refine (fitLinearTrack_alike hlength hagree).bind fun stationary stationary' hstationary => ?_
  rw [hbest.2]
  refine (fitLinearTrack_alike hlength hagree).bind fun opposite opposite' hopposite => ?_
  exact .ok ⟨⟨hbest.1, rfl⟩, hstationary, hopposite⟩

/-- Evidence of the same selection -/
structure SameSelection (a b : SlopeBankEvidence) : Prop where
  track : SamePath a.track b.track
  training_rows : a.training_rows = b.training_rows
  validation_rows : a.validation_rows = b.validation_rows
  test_rows : a.test_rows = b.test_rows

theorem dedopplerSlopeBank_alike {rows : Nat} {shuffle_offsets : List Int} (h : FiniteMatrix rows columns power)
    (h' : FiniteMatrix rows columns power') (hagree : Agree (fitRows rows) power power') :
    Alike SameSelection (dedopplerSlopeBank sum power slopes shuffle_offsets)
      (dedopplerSlopeBank sum power' slopes shuffle_offsets) := by
  have hlength : power.length = power'.length := h.rectangular.1.trans h'.rectangular.1.symm
  unfold dedopplerSlopeBank
  rw [hlength]
  refine (bankTracks_alike h h' hagree).bind fun tracks tracks' hsame => ?_
  have hshuffled : ∀ offset ∈ shuffle_offsets.filter fun offset : Int => offset % (everyThird 2 power'.length).length ≠ 0,
      Alike (fun _ _ => True) (shuffledPathMean sum power tracks.best.bins (everyThird 2 power'.length) offset)
        (shuffledPathMean sum power' tracks'.best.bins (everyThird 2 power'.length) offset) :=
    fun _ _ => alike_divNat _ _ _
  refine (Alike.mapM hshuffled).bind fun scores scores' _ => ?_
  exact .ok ⟨hsame.best, rfl, rfl, rfl⟩

end TwoRuns

/-! ## Paths inside the matrix -/

section Inside

variable {sum : List PyFloat → PyFloat} {power : List (List PyFloat)} {slope : PyFloat} {slopes : List PyFloat}
  {rows columns : Nat}

/-- One column of the matrix for every row -/
def InMatrix (rows columns : Nat) (path : List Nat) : Prop := path.length = rows ∧ ∀ column ∈ path, column < columns

theorem staysInside_true {intercept : Nat} {indices : List Nat} (h : staysInside columns slope intercept indices = .ok true) :
    ∀ row ∈ indices, ∃ place, position slope intercept row = .ok place ∧ 0 ≤ place ∧ place < columns := by
  induction indices with
  | nil => exact fun _ hrow => absurd hrow List.not_mem_nil
  | cons row indices ih =>
    rcases bind_ok.1 h with ⟨place, hplace, hrest⟩
    by_cases hinside : 0 ≤ place ∧ place < columns
    · rw [if_pos hinside] at hrest
      intro other hother
      rcases List.mem_cons.1 hother with rfl | hother
      · exact ⟨place, hplace, hinside⟩
      · exact ih hrest other hother
    · rw [if_neg hinside] at hrest
      cases hrest

theorem containedIntercepts_ok {indices intercepts : List Nat}
    (h : containedIntercepts rows columns slope indices = .ok intercepts) :
    ∀ intercept, intercept ∈ intercepts ↔ intercept ∈ indices ∧
      staysInside columns slope intercept (List.range rows) = .ok true := by
  induction indices generalizing intercepts with
  | nil =>
    cases h
    simp
  | cons first indices ih =>
    rcases bind_ok.1 h with ⟨inside, hinside, hrest⟩
    rcases bind_ok.1 hrest with ⟨later, hlater, hintercepts⟩
    cases hintercepts
    intro intercept
    have hthere := ih hlater intercept
    cases inside with
    | true =>
      rw [if_pos rfl, List.mem_cons, List.mem_cons, hthere]
      constructor
      · rintro (rfl | hmem)
        · exact ⟨.inl rfl, hinside⟩
        · exact ⟨.inr hmem.1, hmem.2⟩
      · rintro ⟨rfl | hmem, hstays⟩
        · exact .inl rfl
        · exact .inr ⟨hmem, hstays⟩
    | false =>
      rw [if_neg Bool.false_ne_true, List.mem_cons, hthere]
      constructor
      · rintro ⟨hmem, hstays⟩
        exact ⟨.inr hmem, hstays⟩
      · rintro ⟨rfl | hmem, hstays⟩
        · rw [hinside] at hstays
          cases hstays
        · exact ⟨hmem, hstays⟩

theorem maximumBy_mem {κ ι : Type} (Exceeds : κ → κ → Prop) [DecidableRel Exceeds] (first : ι × κ) (rest : List (ι × κ)) :
    ∃ key, (maximumBy Exceeds first rest, key) ∈ first :: rest := by
  unfold maximumBy
  induction rest generalizing first with
  | nil => exact ⟨first.2, List.mem_cons_self⟩
  | cons item rest ih =>
    rw [List.foldl_cons]
    split
    · rcases ih item with ⟨key, hkey⟩
      exact ⟨key, List.mem_cons_of_mem _ hkey⟩
    · rcases ih first with ⟨key, hkey⟩
      rcases List.mem_cons.1 hkey with heq | hmem
      · exact ⟨key, by rw [heq]; exact List.mem_cons_self⟩
      · exact ⟨key, List.mem_cons_of_mem _ (List.mem_cons_of_mem _ hmem)⟩

theorem fitPath_inside {train : List Nat} {intercept : Nat} {path : List Nat}
    (h : fitPath sum power slope train columns = .ok (intercept, path)) : InMatrix power.length columns path := by
  unfold fitPath at h
  rcases bind_ok.1 h with ⟨_, _, hcontained⟩
  rcases bind_ok.1 hcontained with ⟨intercepts, hintercepts, hscores⟩
  rcases bind_ok.1 hscores with ⟨scored, hscored, hchosen⟩
  cases scored with
  | nil => nomatch hchosen
  | cons first rest =>
    rcases bind_ok.1 hchosen with ⟨places, hplaces, hresult⟩
    cases hresult
    rcases maximumBy_mem Greater first rest with ⟨key, hkey⟩
    rcases Json.exists_mem_of_forall₂ (mapM_ok.1 hscored).flip hkey with ⟨chosen, hchosen, hscore⟩
    rcases bind_ok.1 hscore with ⟨score, _, hpair⟩
    cases hpair
    have hstays := staysInside_true ((containedIntercepts_ok hintercepts _).1 hchosen).2
    have hplaces := mapM_ok.1 hplaces
    refine ⟨by rw [List.length_map, ← hplaces.length_eq, List.length_range], ?_⟩
    intro column hcolumn
    rcases List.mem_map.1 hcolumn with ⟨place, hplace, rfl⟩
    rcases Json.exists_mem_of_forall₂ hplaces.flip hplace with ⟨row, hrow, hposition⟩
    rcases hstays row hrow with ⟨place', hplace', hlow, hhigh⟩
    rw [hposition] at hplace'
    cases hplace'
    omega

theorem fitLinearTrack_inside {train heldout : List Nat} {track : LinearTrack PyFloat}
    (h : fitLinearTrack sum power slope train heldout columns = .ok track) :
    InMatrix power.length columns track.bins ∧ track.slope_bins_per_row = slope := by
  unfold fitLinearTrack at h
  rcases bind_ok.1 h with ⟨⟨intercept, path⟩, hpath, hscore⟩
  rcases bind_ok.1 hscore with ⟨score, _, hstationary⟩
  rcases bind_ok.1 hstationary with ⟨stationary, _, htrack⟩
  cases htrack
  exact ⟨fitPath_inside hpath, rfl⟩

/-- The three tracks of a bank are paths inside the matrix. -/
theorem bankTracks_inside {tracks : BankTracks} (hmatrix : FiniteMatrix rows columns power)
    (h : bankTracks sum power slopes = .ok tracks) : InMatrix rows columns tracks.best.bins ∧
      InMatrix rows columns tracks.stationary.bins ∧ InMatrix rows columns tracks.opposite.bins := by
  unfold bankTracks at h
  rcases bind_ok.1 h with ⟨shape, hshape, hrows⟩
  rw [hmatrix.shape] at hshape
  cases hshape
  rcases bind_ok.1 hrows with ⟨_, _, hslopes⟩
  rcases bind_ok.1 hslopes with ⟨_, _, hselect⟩
  rcases bind_ok.1 hselect with ⟨slope, _, hbest⟩
  rcases bind_ok.1 hbest with ⟨best, hbest_ok, hstationary⟩
  rcases bind_ok.1 hstationary with ⟨stationary, hstationary_ok, hopposite⟩
  rcases bind_ok.1 hopposite with ⟨opposite, hopposite_ok, htracks⟩
  cases htracks
  rw [← hmatrix.rectangular.1]
  exact ⟨(fitLinearTrack_inside hbest_ok).1, (fitLinearTrack_inside hstationary_ok).1, (fitLinearTrack_inside hopposite_ok).1⟩

end Inside

/-! ## Banks that always have a path -/

/-- A slope whose path over all rows spans at most the matrix: exactly, or as floats are multiplied. -/
def Reaches (rows columns : Nat) (slope : PyFloat) : Prop :=
  |slope.value| * ((rows : ℚ) - 1) ≤ (columns : ℚ) - 1 ∨
    ∃ last, Num.toFloat (.int ((rows - 1 : Nat) : Int)) = .ok last ∧ (slope.abs.mul last).IsFinite ∧
      (slope.abs.mul last).value ≤ (columns : ℚ) - 1

section Reach

variable {slope : PyFloat} {rows columns : Nat}

theorem abs_finite (hslope : slope.IsFinite) : slope.abs.IsFinite ∧ slope.abs.value = |slope.value| := by
  cases slope with
  | nan => exact hslope.elim
  | inf s => exact hslope.elim
  | finite s m e h =>
    refine ⟨trivial, ?_⟩
    rw [PyFloat.abs_value_finite]
    show (PyFloat.finite false m e h).value = _
    unfold PyFloat.value
    rw [PyFloat.toRat_finite]
    rfl

theorem neg_finite (hslope : slope.IsFinite) : slope.neg.IsFinite ∧ slope.neg.value = -slope.value := by
  cases slope with
  | nan => exact hslope.elim
  | inf s => exact hslope.elim
  | finite s m e h =>
    refine ⟨trivial, ?_⟩
    show (PyFloat.finite (!s) m e h).value = _
    unfold PyFloat.value
    rw [PyFloat.toRat_finite, PyFloat.toRat_finite, Option.getD_some, Option.getD_some]
    cases s with
    | true => simp
    | false => simp

theorem Reaches.neg (hslope : slope.IsFinite) (h : Reaches rows columns slope) : Reaches rows columns slope.neg := by
  have habs : slope.neg.abs = slope.abs := by
    cases slope with
    | nan => rfl
    | inf s => rfl
    | finite s m e h => rfl
  unfold Reaches
  rw [(neg_finite hslope).2, abs_neg, habs]
  exact h

/-- `slope * row` stays on the side of the slope, within the columns. -/
theorem product_nearer (hslope : slope.IsFinite) (hcolumns : 0 < columns) (hrows53 : rows < 2 ^ 53)
    (hcolumns53 : columns < 2 ^ 53) (hreach : Reaches rows columns slope) {row : Nat} (hrow : row < rows) :
    ∃ product, Num.mul (.float slope) (.int row) = .ok (.float product) ∧
      PyFloat.Nearer (slope.value * row) ((columns - 1 : Nat) : ℚ) product := by
  rcases PyFloat.toFloat_natCast (show row < 2 ^ 53 by omega) with ⟨f, hf, hfinite, hvalue⟩
  refine ⟨slope.mul f, ?_, ?_⟩
  · show Num.lift PyFloat.mul (.float slope) (.int row) = _
    unfold Num.lift
    rw [hf]
    rfl
  have hcast : ((columns - 1 : Nat) : ℚ) = (columns : ℚ) - 1 := by
    rw [Nat.cast_sub (by omega), Nat.cast_one]
  have hlast : (row : ℚ) ≤ (rows : ℚ) - 1 := by
    rw [le_sub_iff_add_le]
    exact_mod_cast hrow
  have hlast_nonneg : (0 : ℚ) ≤ (rows : ℚ) - 1 := le_trans (Nat.cast_nonneg _) hlast
  have hproduct : |slope.value * row| ≤ |slope.value| * ((rows : ℚ) - 1) := by
    rw [abs_mul, Nat.abs_cast]
    exact mul_le_mul_of_nonneg_left hlast (abs_nonneg _)
  rw [← hvalue] at hproduct ⊢
  rcases hreach with hexact | ⟨last, hlast_ok, hlast_finite, hrounded⟩
  · have hbound : |slope.value * f.value| ≤ ((columns - 1 : Nat) : ℚ) * 2 ^ 0 := by
      rw [pow_zero, mul_one, hcast]
      exact hproduct.trans hexact
    have hnearer := PyFloat.mul_nearer hslope hfinite (show columns - 1 < 2 ^ 53 by omega) (by omega) hbound
    rwa [pow_zero, mul_one] at hnearer
  · rcases PyFloat.toFloat_natCast (show rows - 1 < 2 ^ 53 by omega) with ⟨last', hlast', hlast_finite', hlast_value⟩
    rw [hlast_ok] at hlast'
    cases hlast'
    rcases abs_finite hslope with ⟨habs_finite, habs_value⟩
    have hlast_eq : last.value = (rows : ℚ) - 1 := by
      rw [hlast_value, Nat.cast_sub (by omega), Nat.cast_one]
    have hle : |slope.value * f.value| ≤ |slope.abs.value * last.value| := by
      rw [habs_value, hlast_eq, abs_mul |slope.value|, abs_abs, abs_of_nonneg hlast_nonneg]
      exact hproduct
    have hnearer := PyFloat.mul_mono hslope hfinite habs_finite hlast_finite' hle hlast_finite
    have hnonneg : 0 ≤ (slope.abs.mul last).value := by
      have hself := PyFloat.mul_mono habs_finite hlast_finite' habs_finite hlast_finite' le_rfl hlast_finite
      refine hself.nonneg ?_
      rw [habs_value, hlast_eq]
      exact mul_nonneg (abs_nonneg _) hlast_nonneg
    refine ⟨hnearer.finite, hnearer.nonneg, hnearer.nonpos, hnearer.bound.trans ?_⟩
    rw [abs_of_nonneg hnonneg, hcast]
    exact hrounded

/-- Every position can be computed, and is inside for the intercept at the end that the slope leaves. -/
theorem position_ok (hslope : slope.IsFinite) (hrows53 : rows < 2 ^ 53) (hcolumns53 : columns < 2 ^ 53)
    (hreach : Reaches rows columns slope) {intercept row : Nat} (hintercept : intercept < columns) (hrow : row < rows) :
    ∃ place, position slope intercept row = .ok place ∧
      (intercept = (if slope.value < 0 then columns - 1 else 0) → 0 ≤ place ∧ place < columns) := by
  rcases product_nearer hslope (by omega) hrows53 hcolumns53 hreach hrow with ⟨product, hproduct, hnearer⟩
  rcases PyFloat.toFloat_natCast (show intercept < 2 ^ 53 by omega) with ⟨start, hstart, hstart_finite, hstart_value⟩
  have hlimit : (intercept : ℚ) ≤ ((columns - 1 : Nat) : ℚ) := by
    have : intercept ≤ columns - 1 := by omega
    exact_mod_cast this
  have hadd : Num.add (.int intercept) (.float product) = .ok (.float (start.add product)) := by
    show Num.lift PyFloat.add (.int intercept) (.float product) = _
    unfold Num.lift
    rw [hstart]
    rfl
  have hround : ∀ f : PyFloat, f.IsFinite → (Num.float f).round = .ok (PyFloat.rint f.value) := by
    intro f hf
    cases f with
    | nan => exact hf.elim
    | inf s => exact hf.elim
    | finite s m e h => rfl
  have hposition : (start.add product).IsFinite →
      position slope intercept row = .ok (PyFloat.rint (start.add product).value) := by
    intro hfinite
    unfold position
    rw [hproduct]
    dsimp only [ok_bind]
    rw [hadd]
    exact hround _ hfinite
  have hsum : |start.value + product.value| ≤ ((columns - 1 : Nat) : ℚ) * 2 ^ 1 := by
    refine (abs_add_le _ _).trans ?_
    have hproduct_bound := hnearer.bound
    rw [hstart_value, Nat.abs_cast]
    linarith
  have hfinite := (PyFloat.add_nearer hstart_finite hnearer.finite (show columns - 1 < 2 ^ 53 by omega) (by omega) hsum).finite
  refine ⟨_, hposition hfinite, ?_⟩
  intro hanchor
  -- the sum lies between the first and the last column
  have hinside : 0 ≤ start.value + product.value ∧ start.value + product.value ≤ ((columns - 1 : Nat) : ℚ) := by
    rcases abs_le.1 hnearer.bound with ⟨hlow, hhigh⟩
    rw [hstart_value, hanchor]
    by_cases hneg : slope.value < 0
    · have hside := hnearer.nonpos (mul_nonpos_of_nonpos_of_nonneg hneg.le (Nat.cast_nonneg _))
      rw [if_pos hneg]
      exact ⟨by linarith, by linarith⟩
    · have hside := hnearer.nonneg (mul_nonneg (not_lt.1 hneg) (Nat.cast_nonneg _))
      rw [if_neg hneg, Nat.cast_zero, zero_add]
      exact ⟨hside, hhigh⟩
  have hsum_bound : |start.value + product.value| ≤ ((columns - 1 : Nat) : ℚ) * 2 ^ 0 := by
    rw [pow_zero, mul_one, abs_of_nonneg hinside.1]
    exact hinside.2
  have hplace := PyFloat.add_nearer hstart_finite hnearer.finite (show columns - 1 < 2 ^ 53 by omega) (by omega) hsum_bound
  have hplace_bound := hplace.bound
  rw [pow_zero, mul_one, abs_of_nonneg (hplace.nonneg hinside.1)] at hplace_bound
  have hrint := PyFloat.rint_bounds (hplace.nonneg hinside.1) hplace_bound
  omega

/-- Whether a path stays inside can always be told. -/
theorem staysInside_ok {intercept : Nat} {indices : List Nat}
    (h : ∀ row ∈ indices, ∃ place, position slope intercept row = .ok place) :
    ∃ inside, staysInside columns slope intercept indices = .ok inside := by
  induction indices with
  | nil => exact ⟨true, rfl⟩
  | cons row indices ih =>
    rcases h row List.mem_cons_self with ⟨place, hplace⟩
    refine exists_bind_ok hplace ?_
    split
    · exact ih fun other hother => h other (List.mem_cons_of_mem _ hother)
    · exact ⟨false, rfl⟩

theorem staysInside_of_inside {intercept : Nat} {indices : List Nat}
    (h : ∀ row ∈ indices, ∃ place, position slope intercept row = .ok place ∧ 0 ≤ place ∧ place < columns) :
    staysInside columns slope intercept indices = .ok true := by
  induction indices with
  | nil => rfl
  | cons row indices ih =>
    rcases h row List.mem_cons_self with ⟨place, hplace, hinside⟩
    refine bind_ok.2 ⟨place, hplace, ?_⟩
    rw [if_pos hinside]
    exact ih fun other hother => h other (List.mem_cons_of_mem _ hother)

theorem exists_containedIntercepts {indices : List Nat}
    (h : ∀ intercept ∈ indices, ∃ inside, staysInside columns slope intercept (List.range rows) = .ok inside) :
    ∃ intercepts, containedIntercepts rows columns slope indices = .ok intercepts := by
  induction indices with
  | nil => exact ⟨[], rfl⟩
  | cons intercept indices ih =>
    rcases h intercept List.mem_cons_self with ⟨inside, hinside⟩
    rcases ih fun other hother => h other (List.mem_cons_of_mem _ hother) with ⟨later, hlater⟩
    exact exists_bind_ok hinside (exists_bind_ok hlater ⟨_, rfl⟩)

section Fits

variable {sum : List PyFloat → PyFloat} {power : List (List PyFloat)} {slopes : List PyFloat}

/-- A path can be fitted for every slope that reaches no further than the matrix. -/
theorem exists_fitPath {train : List Nat} (hslope : slope.IsFinite) (hlength : power.length = rows)
    (hcolumns : 0 < columns) (hrows53 : rows < 2 ^ 53) (hcolumns53 : columns < 2 ^ 53) (hreach : Reaches rows columns slope)
    (htrain : ∀ row ∈ train, row < rows) : ∃ fitted, fitPath sum power slope train columns = .ok fitted := by
  let anchor := if slope.value < 0 then columns - 1 else 0
  have hanchor : anchor < columns := by
    show (if slope.value < 0 then columns - 1 else 0) < columns
    split <;> omega
  have hposition : ∀ intercept < columns, ∀ row < rows, ∃ place, position slope intercept row = .ok place ∧
      (intercept = anchor → 0 ≤ place ∧ place < columns) :=
    fun intercept hintercept row hrow => position_ok hslope hrows53 hcolumns53 hreach hintercept hrow
  have hanswers : ∀ intercept ∈ List.range columns,
      ∃ inside, staysInside columns slope intercept (List.range rows) = .ok inside := by
    intro intercept hintercept
    refine staysInside_ok fun row hrow => ?_
    rcases hposition intercept (List.mem_range.1 hintercept) row (List.mem_range.1 hrow) with ⟨place, hplace, _⟩
    exact ⟨place, hplace⟩
  rcases exists_containedIntercepts hanswers with ⟨intercepts, hintercepts⟩
  have hmem := containedIntercepts_ok hintercepts
  have hsome : anchor ∈ intercepts := by
    refine (hmem anchor).2 ⟨List.mem_range.2 hanchor, staysInside_of_inside fun row hrow => ?_⟩
    rcases hposition anchor hanchor row (List.mem_range.1 hrow) with ⟨place, hplace, hinside⟩
    exact ⟨place, hplace, hinside rfl⟩
  have hscores : ∃ scored, intercepts.mapM (fun intercept => do
      let score ← interceptScore sum power slope train intercept
      Except.ok (intercept, score)) = .ok scored := by
    refine exists_mapM_ok fun intercept hintercept => ?_
    have hin := List.mem_range.1 ((hmem intercept).1 hintercept).1
    have hvalues : ∃ values, (train.mapM fun row => do
        let place ← position slope intercept row
        Except.ok (floatCell power row place.toNat)) = .ok values := by
      refine exists_mapM_ok fun row hrow => ?_
      rcases hposition intercept hin row (htrain row hrow) with ⟨place, hplace, _⟩
      exact exists_bind_ok hplace ⟨_, rfl⟩
    rcases hvalues with ⟨values, hvalues⟩
    have hscore : interceptScore sum power slope train intercept = .ok (sum values) := bind_ok.2 ⟨values, hvalues, rfl⟩
    exact exists_bind_ok hscore ⟨_, rfl⟩
  rcases hscores with ⟨scored, hscored⟩
  have hplaces : ∀ intercept ∈ intercepts, ∃ places, (List.range power.length).mapM (position slope intercept) = .ok places := by
    intro intercept hintercept
    refine exists_mapM_ok fun row hrow => ?_
    rw [hlength] at hrow
    rcases hposition intercept (List.mem_range.1 ((hmem intercept).1 hintercept).1) row (List.mem_range.1 hrow) with
      ⟨place, hplace, _⟩
    exact ⟨place, hplace⟩
  unfold fitPath
  rw [hlength]
  refine exists_bind_ok (raiseIf_ok.2 (not_not.2 hslope)) (exists_bind_ok hintercepts (exists_bind_ok hscored ?_))
  cases scored with
  | nil =>
    have hempty := List.forall₂_nil_right_iff.1 (mapM_ok.1 hscored)
    rw [hempty] at hsome
    exact absurd hsome List.not_mem_nil
  | cons first rest =>
    rcases maximumBy_mem Greater first rest with ⟨key, hkey⟩
    rcases Json.exists_mem_of_forall₂ (mapM_ok.1 hscored).flip hkey with ⟨chosen, hchosen, hscore⟩
    rcases bind_ok.1 hscore with ⟨score, _, hpair⟩
    cases hpair
    rcases hplaces _ hchosen with ⟨places, hplaces⟩
    rw [hlength] at hplaces
    exact exists_bind_ok hplaces ⟨_, rfl⟩

theorem exists_fitLinearTrack {train heldout : List Nat} (hslope : slope.IsFinite) (hlength : power.length = rows)
    (hcolumns : 0 < columns) (hrows53 : rows < 2 ^ 53) (hcolumns53 : columns < 2 ^ 53) (hreach : Reaches rows columns slope)
    (htrain : ∀ row ∈ train, row < rows) (hheldout : 0 < heldout.length) (hcount : heldout.length ≤ rows) :
    ∃ track, fitLinearTrack sum power slope train heldout columns = .ok track := by
  rcases @exists_fitPath slope rows columns sum power train hslope hlength hcolumns hrows53 hcolumns53 hreach htrain with
    ⟨⟨intercept, path⟩, hpath⟩
  rcases PyFloat.exists_divNat (sum (heldout.map fun row => floatCell power row (path.getD row 0))) hheldout (by omega) with
    ⟨score, hscore⟩
  rcases PyFloat.exists_divNat (sum (heldout.map fun row => floatCell power row intercept)) hheldout (by omega) with
    ⟨stationary, hstationary⟩
  exact exists_bind_ok hpath (exists_bind_ok hscore (exists_bind_ok hstationary ⟨_, rfl⟩))

theorem length_everyThird {start : Nat} (hstart : start < 3) (hrows : 6 ≤ rows) :
    0 < (everyThird start rows).length ∧ (everyThird start rows).length ≤ rows := by
  constructor
  · refine List.length_pos_of_mem (mem_everyThird.2 ⟨show start < rows by omega, Nat.mod_eq_of_lt hstart⟩)
  · have hle := List.length_filter_le (fun row => decide (row % 3 = start)) (List.range rows)
    rw [List.length_range] at hle
    exact hle

/-- Slopes that the check of the bank accepts. -/
structure ValidBank (slopes : List PyFloat) : Prop where
  some : slopes ≠ []
  finite : ∀ slope ∈ slopes, slope.IsFinite
  unique : slopes.Pairwise fun a b => ¬a.Eq b

theorem exists_selectSlope (hlength : power.length = rows) (hrows : 6 ≤ rows) (hcolumns : 0 < columns)
    (hrows53 : rows < 2 ^ 53) (hcolumns53 : columns < 2 ^ 53) (hbank : ValidBank slopes)
    (hreach : ∀ slope ∈ slopes, Reaches rows columns slope) :
    ∃ slope ∈ slopes, selectSlope sum power slopes columns = .ok slope := by
  have htrain : ∀ row ∈ everyThird 0 rows, row < rows := fun row hrow => (mem_everyThird.1 hrow).1
  have hvalidation := @length_everyThird rows 1 (by decide) hrows
  have hcandidates : ∃ candidates, slopes.mapM (fun slope => do
      let track ← fitLinearTrack sum power slope (everyThird 0 power.length) (everyThird 1 power.length) columns
      Except.ok (track.slope_bins_per_row, (track.score, track.slope_bins_per_row.abs.neg))) = .ok candidates := by
    refine exists_mapM_ok fun slope hslope => ?_
    rw [hlength]
    rcases @exists_fitLinearTrack slope rows columns sum power (everyThird 0 rows) (everyThird 1 rows)
      (hbank.finite slope hslope) hlength hcolumns hrows53 hcolumns53 (hreach slope hslope) htrain hvalidation.1
      hvalidation.2 with ⟨track, htrack⟩
    exact exists_bind_ok htrack ⟨_, rfl⟩
  rcases hcandidates with ⟨candidates, hcandidates⟩
  cases candidates with
  | nil => exact absurd (List.forall₂_nil_right_iff.1 (mapM_ok.1 hcandidates)) hbank.some
  | cons first rest =>
    rcases maximumBy_mem PairGreater first rest with ⟨key, hkey⟩
    rcases Json.exists_mem_of_forall₂ (mapM_ok.1 hcandidates).flip hkey with ⟨slope, hslope, hcandidate⟩
    rcases bind_ok.1 hcandidate with ⟨track, htrack, hpair⟩
    have hsame : maximumBy PairGreater first rest = slope := by
      rw [← (fitLinearTrack_inside htrack).2]
      exact (congrArg Prod.fst (Except.ok.inj hpair)).symm
    exact ⟨slope, hslope, bind_ok.2 ⟨_, hcandidates, by rw [← hsame]⟩⟩

theorem reaches_zero (hcolumns : 0 < columns) : Reaches rows columns (.zero false) := by
  left
  have hone : (1 : ℚ) ≤ columns := by exact_mod_cast hcolumns
  rw [PyFloat.value_zero, abs_zero, zero_mul]
  linarith

/-- A bank of slopes that reach no further than the matrix is always evaluated. -/
theorem exists_dedopplerSlopeBank {shuffle_offsets : List Int} (hmatrix : FiniteMatrix rows columns power) (hrows : 6 ≤ rows)
    (hrows53 : rows < 2 ^ 53) (hcolumns53 : columns < 2 ^ 53) (hbank : ValidBank slopes)
    (hreach : ∀ slope ∈ slopes, Reaches rows columns slope) :
    ∃ evidence, dedopplerSlopeBank sum power slopes shuffle_offsets = .ok evidence := by
  have hlength := hmatrix.rectangular.1
  have hcolumns := hmatrix.columns_pos
  have hfit : ∀ row ∈ fitRows rows, row < rows := fun row hrow => (mem_fitRows.1 hrow).1
  have htest := @length_everyThird rows 2 (by decide) hrows
  rcases @exists_selectSlope rows columns sum power slopes hlength hrows hcolumns hrows53 hcolumns53 hbank hreach with
    ⟨slope, hslope, hselect⟩
  have htrack : ∀ slope : PyFloat, slope.IsFinite → Reaches rows columns slope →
      ∃ track, fitLinearTrack sum power slope (fitRows rows) (everyThird 2 rows) columns = .ok track :=
    fun slope hfinite hreaches => exists_fitLinearTrack hfinite hlength hcolumns hrows53 hcolumns53 hreaches hfit htest.1 htest.2
  rcases htrack slope (hbank.finite slope hslope) (hreach slope hslope) with ⟨best, hbest⟩
  rcases htrack (.zero false) trivial (reaches_zero hcolumns) with ⟨stationary, hstationary⟩
  have hopposite_slope : best.slope_bins_per_row = slope := (fitLinearTrack_inside hbest).2
  rcases htrack slope.neg (neg_finite (hbank.finite slope hslope)).1
    ((hreach slope hslope).neg (hbank.finite slope hslope)) with ⟨opposite, hopposite⟩
  have hslopes : ¬(slopes = [] ∨ (∃ slope ∈ slopes, ¬slope.IsFinite) ∨ ¬slopes.Pairwise fun a b => ¬a.Eq b) := by
    rintro (hempty | ⟨slope, hslope, hinfinite⟩ | hrepeated)
    · exact hbank.some hempty
    · exact hinfinite (hbank.finite slope hslope)
    · exact hrepeated hbank.unique
  have htracks : ∃ tracks, bankTracks sum power slopes = .ok tracks := by
    unfold bankTracks
    rw [hmatrix.shape]
    dsimp only [ok_bind]
    refine exists_bind_ok (raiseIf_ok.2 (by omega)) (exists_bind_ok (raiseIf_ok.2 hslopes) (exists_bind_ok hselect ?_))
    refine exists_bind_ok hbest (exists_bind_ok hstationary ?_)
    rw [hopposite_slope]
    exact exists_bind_ok hopposite ⟨_, rfl⟩
  rcases htracks with ⟨tracks, htracks⟩
  unfold dedopplerSlopeBank
  refine exists_bind_ok htracks ?_
  rw [hlength]
  have hshuffled : ∃ scores, (shuffle_offsets.filter fun offset : Int => offset % (everyThird 2 rows).length ≠ 0).mapM
      (shuffledPathMean sum power tracks.best.bins (everyThird 2 rows)) = .ok scores := by
    refine exists_mapM_ok fun offset _ => ?_
    exact PyFloat.exists_divNat _ htest.1 (by omega)
  rcases hshuffled with ⟨scores, hscores⟩
  exact exists_bind_ok hscores ⟨_, rfl⟩

end Fits

end Reach

/-! ## Held-out rows -/

section HeldOut

variable {sum : List PyFloat → PyFloat} {power power' : List (List PyFloat)} {rows columns : Nat}

/-- Two matrices that differ in the held-out rows alone are both refused alike, or have the same slope, bins and
control paths, all inside the matrix; and with a bank that reaches no further than the matrix neither is refused. -/
theorem heldout_rows_do_not_select (slopes : List PyFloat) (shuffle_offsets : List Int)
    (hmatrix : FiniteMatrix rows columns power) (hmatrix' : FiniteMatrix rows columns power') (hrows : 6 ≤ rows)
    (hagree : ∀ row < rows, row % 3 ≠ 2 → power.getD row [] = power'.getD row []) :
    Alike SameTracks (bankTracks sum power slopes) (bankTracks sum power' slopes) ∧
    Alike SameSelection (dedopplerSlopeBank sum power slopes shuffle_offsets)
      (dedopplerSlopeBank sum power' slopes shuffle_offsets) ∧
    (∀ tracks, bankTracks sum power slopes = .ok tracks → InMatrix rows columns tracks.best.bins ∧
      InMatrix rows columns tracks.stationary.bins ∧ InMatrix rows columns tracks.opposite.bins) ∧
    (rows < 2 ^ 53 → columns < 2 ^ 53 → ValidBank slopes → (∀ slope ∈ slopes, Reaches rows columns slope) →
      ∃ evidence evidence', dedopplerSlopeBank sum power slopes shuffle_offsets = .ok evidence ∧
        dedopplerSlopeBank sum power' slopes shuffle_offsets = .ok evidence' ∧ SameSelection evidence evidence') := by
  have hfit : Agree (fitRows rows) power power' := by
    intro row hrow
    rcases mem_fitRows.1 hrow with ⟨hin, hclass⟩
    exact hagree row hin hclass
  have halike := @dedopplerSlopeBank_alike sum power power' slopes columns rows shuffle_offsets hmatrix hmatrix' hfit
  refine ⟨bankTracks_alike hmatrix hmatrix' hfit, halike, fun tracks h => bankTracks_inside hmatrix h, ?_⟩
  intro hrows53 hcolumns53 hbank hreach
  rcases @exists_dedopplerSlopeBank rows columns sum power' slopes shuffle_offsets hmatrix' hrows hrows53 hcolumns53 hbank
    hreach with ⟨evidence', hevidence'⟩
  rw [hevidence'] at halike
  rcases halike.exists_ok with ⟨evidence, hevidence, hsame⟩
  exact ⟨evidence, evidence', hevidence, hevidence', hsame⟩

/-- `0` and `n / 2`, as floats -/
def exampleFloat (n : Nat) : PyFloat := PyFloat.ofRatio false n 2

/-- Six rows of four columns; `held` is what the last held-out row has. -/
def exampleMatrix (held : Nat) : List (List PyFloat) :=
  [[8, 0, 0, 0], [8, 0, 0, 0], [0, 8, 0, 0], [0, 8, 0, 0], [0, 0, 8, 0], [0, 0, held, 0]].map fun row =>
    row.map exampleFloat

/-- `sum` before Python 3.12 -/
def plainSum (values : List PyFloat) : PyFloat := values.foldl PyFloat.add (.zero false)

theorem finiteMatrix_example (held : Nat) (h : (exampleFloat held).IsFinite) : FiniteMatrix 6 4 (exampleMatrix held) where
  rows_pos := by decide
  columns_pos := by decide
  rectangular := ⟨rfl, by simp [exampleMatrix]⟩
  finite := by
    have hzero : (exampleFloat 0).IsFinite := by decide +kernel
    have height : (exampleFloat 8).IsFinite := by decide +kernel
    simp only [exampleMatrix, List.map_cons, List.map_nil, List.forall_mem_cons, List.not_mem_nil, false_imp_iff,
      implies_true, hzero, height, h, and_self]

theorem heldout_rows_do_not_select_example : ∃ evidence evidence',
    dedopplerSlopeBank plainSum (exampleMatrix 8) [exampleFloat 0, exampleFloat 1] [1] = .ok evidence ∧
    dedopplerSlopeBank plainSum (exampleMatrix 2) [exampleFloat 0, exampleFloat 1] [1] = .ok evidence' ∧
    SameSelection evidence evidence' := by
  have hagree : ∀ row < 6, row % 3 ≠ 2 → (exampleMatrix 8).getD row [] = (exampleMatrix 2).getD row [] := by
    decide +kernel
  have hbank : ValidBank [exampleFloat 0, exampleFloat 1] :=
    ⟨List.cons_ne_nil _ _, by decide +kernel, by decide +kernel⟩
  have hreach : ∀ slope ∈ [exampleFloat 0, exampleFloat 1], Reaches 6 4 slope := by
    intro slope hslope
    left
    revert slope
    decide +kernel
  exact (heldout_rows_do_not_select [exampleFloat 0, exampleFloat 1] [1]
    (finiteMatrix_example 8 (by decide +kernel)) (finiteMatrix_example 2 (by decide +kernel)) (by decide) hagree).2.2.2
    (by decide) (by decide) hbank hreach

end HeldOut

end Doppler

end LeoFlow
