import LeoFlow.Contracts.Validation
import LeoFlow.Core.Trellis

/-!
# LeoFlow.Analysis.DopplerTracks — ridges of a power matrix

`viterbi_peel_tracks` of `analysis/doppler_evidence.py` over exact numbers: the dynamic
programme over the rows, the path that is followed back through its parents, and the mask
that hides a path and its neighbourhood from the next pass.
-/

namespace LeoFlow

namespace Doppler

section Kernels

variable {α : Type}

/-- `_validated_shape`; the finite values are those that `isfinite` accepts. -/
def validatedShape (Finite : α → Prop) [DecidablePred Finite] (values : List (List α)) : Except PyError (Nat × Nat) := do
  raiseIf (values.headD [] = []) (.value "matrix must not be empty")
  let columns := (values.headD []).length
  raiseIf (∃ row ∈ values, row.length ≠ columns) (.value "matrix must be rectangular")
  raiseIf (∃ row ∈ values, ∃ value ∈ row, ¬Finite value) (.value "matrix values must be finite")
  .ok (values.length, columns)

/-- `range(max(0, column - radius), min(columns, column + radius + 1))` -/
def window (columns radius column : Nat) : List Nat :=
  List.range' (column - radius) (min columns (column + radius + 1) - (column - radius))

/-- `abs(column - other)` -/
def distance (column other : Nat) : Nat := (column - other) + (other - column)

theorem mem_window {columns radius column other : Nat} : other ∈ window columns radius column ↔
    other < columns ∧ distance column other ≤ radius := by
  unfold window distance
  rw [List.mem_range'_1]
  omega

/-- Hides a range of cells of a row. -/
def maskRow (floor : α) (columns radius : Nat) (row : List α) (column : Nat) : List α :=
  (window columns radius column).foldl (fun row masked => row.set masked floor) row

end Kernels

/-- `LinearTrack` -/
structure LinearTrack (α : Type) where
  bins : List Nat
  slope_bins_per_row : α
  score : α
  stationary_improvement : α

section Viterbi

variable {α : Type} [Field α] [LinearOrder α]

/-- `values[row][column]` -/
def cell (values : List (List α)) (row column : Nat) : α := (values.getD row []).getD column 0

/-- `_linear_fit` -/
def linearFit (x y : List α) : Except PyError (α × α) := do
  let center_x := x.sum / x.length
  let center_y := y.sum / y.length
  let denominator := (x.map fun value => (value - center_x) ^ 2).sum
  raiseIf (denominator = 0) (.value "linear fit requires distinct coordinates")
  let slope := (List.zipWith (fun first second => (first - center_x) * (second - center_y)) x y).sum / denominator
  .ok (slope, center_y - slope * center_x)

/-- `_path_mean` -/
def pathMean (values : List (List α)) (path rows : List Nat) : α :=
  (rows.map fun row => cell values row (path.getD row 0)).sum / rows.length

/-- `_column_mean` -/
def columnMean (values : List (List α)) (column : Nat) (rows : List Nat) : α :=
  (rows.map fun row => cell values row column).sum / rows.length

section Pass

variable (columns maximum_step_bins : Nat) (motion_penalty : α)

/-- The key of `max`: the score before the move, less the price of the move. -/
def moveKey (scores : List α) (column candidate : Nat) : α :=
  scores.getD candidate 0 - motion_penalty * distance column candidate

/-- `previous` of a column -/
def previous (scores : List α) (column : Nat) : Nat :=
  ((window columns maximum_step_bins column).argmax (moveKey motion_penalty scores column)).getD column

/-- One row: `next_scores` and `next_parents`. -/
def viterbiRow (scores row : List α) : List α × List Nat :=
  ((List.range columns).map fun column =>
      row.getD column 0 + scores.getD (previous columns maximum_step_bins motion_penalty scores column) 0 -
        motion_penalty * distance column (previous columns maximum_step_bins motion_penalty scores column),
    (List.range columns).map (previous columns maximum_step_bins motion_penalty scores))

/-- The loop over the rows after the first: `scores[-1]` and `parents`. -/
def viterbiRows (first : List α) (rows : List (List α)) : List α × List (List Nat) :=
  rows.foldl (fun state row =>
    let next := viterbiRow columns maximum_step_bins motion_penalty state.1 row
    (next.1, state.2 ++ [next.2])) (first, [])

/-- `path[-1]` and the columns before it, back through the parents. -/
def followBack : List (List Nat) → Nat → List Nat
  | [], column => [column]
  | parents :: earlier, column => column :: followBack earlier (parents.getD column 0)

/-- The path of one pass over the residual. -/
def viterbiPath (residual : List (List α)) : List Nat :=
  let state := viterbiRows columns maximum_step_bins motion_penalty (residual.headD []) residual.tail
  let last := ((List.range columns).argmax fun column => state.1.getD column 0).getD 0
  (followBack state.2.reverse last).reverse

end Pass

/-- The lowest value of a list with one. -/
def lowest (values : List α) : α := values.min?.getD 0

/-- The highest value of a list with one. -/
def highest (values : List α) : α := values.max?.getD 0

/-- `for row, column in enumerate(path): …`, the cells in reach of the path set to the floor. -/
def maskPath (floor : α) (columns radius : Nat) (residual : List (List α)) (path : List Nat) : List (List α) :=
  List.zipWith (maskRow floor columns radius) residual path

/-- The track of one pass. -/
def peelTrack (power : List (List α)) (columns maximum_step_bins : Nat) (motion_penalty : α) (residual : List (List α)) :
    Except PyError (LinearTrack α) := do
  let path := viterbiPath columns maximum_step_bins motion_penalty residual
  let all_rows := List.range power.length
  let (slope, _) ← linearFit (all_rows.map Nat.cast) (path.map Nat.cast)
  let score := pathMean residual path all_rows
  let stationary := highest ((List.range columns).map fun column => columnMean power column all_rows)
  .ok ⟨path, slope, score, score - stationary⟩

/-- The loop over the tracks. -/
def peelTracks (power : List (List α)) (columns maximum_step_bins : Nat) (motion_penalty floor : α) (radius : Nat) :
    Nat → List (List α) → Except PyError (List (LinearTrack α))
  | 0, _ => .ok []
  | track_count + 1, residual => do
    let track ← peelTrack power columns maximum_step_bins motion_penalty residual
    let later ← peelTracks power columns maximum_step_bins motion_penalty floor radius track_count
      (maskPath floor columns radius residual track.bins)
    .ok (track :: later)

/-- `min(min(row) for row in residual) - 1_000_000.0` -/
def floorOf (power : List (List α)) : α := lowest (power.map lowest) - 1000000

/-- `viterbi_peel_tracks` -/
def viterbiPeelTracks (power : List (List α)) (maximum_step_bins track_count : Int) (motion_penalty : α)
    (peel_radius_bins : Int) : Except PyError (List (LinearTrack α)) := do
  let (_, columns) ← validatedShape (fun _ => True) power
  raiseIf (maximum_step_bins < 0 ∨ track_count < 1 ∨ peel_radius_bins < 0) (.value "Viterbi limits are invalid")
  raiseIf (motion_penalty < 0) (.value "motion penalty must be finite and nonnegative")
  peelTracks power columns maximum_step_bins.toNat motion_penalty (floorOf power) peel_radius_bins.toNat
    track_count.toNat power

end Viterbi

/-! ## Paths -/

section Paths

variable {α : Type} [Field α] [LinearOrder α] {columns maximum_step_bins radius : Nat} {motion_penalty : α}

theorem distance_comm (column other : Nat) : distance column other = distance other column := by
  unfold distance
  omega

/-- One column for every row, and steps that are not too wide. -/
structure Admissible (rows columns maximum_step_bins : Nat) (path : List Nat) : Prop where
  length : path.length = rows
  inside : ∀ column ∈ path, column < columns
  steps : path.IsChain fun column next => distance column next ≤ maximum_step_bins

/-- The total column motion of a path. -/
def motion : List Nat → Nat
  | column :: next :: path => distance column next + motion (next :: path)
  | _ => 0

/-- The summed power of a path less the price of its motion. -/
def gainOf (motion_penalty : α) (values : List (List α)) (path : List Nat) : α :=
  (List.zipWith (fun row column => row.getD column 0) values path).sum - motion_penalty * motion path

theorem motion_concat (path : List Nat) (column next : Nat) :
    motion (path ++ [column, next]) = motion (path ++ [column]) + distance column next := by
  induction path with
  | nil =>
    show distance column next + 0 = 0 + distance column next
    omega
  | cons first path ih =>
    cases path with
    | nil =>
      show distance first column + (distance column next + 0) = distance first column + 0 + distance column next
      omega
    | cons second path =>
      show distance first second + motion (second :: path ++ [column, next]) =
        distance first second + motion (second :: path ++ [column]) + distance column next
      rw [ih, Nat.add_assoc]

theorem motion_reverse (path : List Nat) : motion path.reverse = motion path := by
  induction path with
  | nil => rfl
  | cons column path ih =>
    cases path with
    | nil => rfl
    | cons next path =>
      rw [List.reverse_cons, List.reverse_cons, List.append_assoc, List.singleton_append, motion_concat,
        ← List.reverse_cons, ih, distance_comm]
      exact Nat.add_comm _ _

/-- The trellis of the columns. -/
def trellis (columns maximum_step_bins : Nat) (motion_penalty : α) : Trellis Nat α where
  State := fun column => column < columns
  Before := fun previous column => distance column previous ≤ maximum_step_bins
  cost := fun previous column => motion_penalty * distance column previous

theorem walk_iff {path : List Nat} : (trellis columns maximum_step_bins motion_penalty).Walk path ↔
    path ≠ [] ∧ (∀ column ∈ path, column < columns) ∧
      path.IsChain fun column next => distance column next ≤ maximum_step_bins := by
  induction path with
  | nil => exact ⟨fun h => h.elim, fun h => absurd rfl h.1⟩
  | cons column path ih =>
    cases path with
    | nil =>
      constructor
      · intro h
        exact ⟨List.cons_ne_nil _ _, List.forall_mem_singleton.2 h, List.isChain_singleton _⟩
      · intro h
        exact h.2.1 column List.mem_cons_self
    | cons next path =>
      have hunfold : (trellis columns maximum_step_bins motion_penalty).Walk (column :: next :: path) ↔
          column < columns ∧ distance column next ≤ maximum_step_bins ∧
            (trellis columns maximum_step_bins motion_penalty).Walk (next :: path) := Iff.rfl
      rw [hunfold, ih, List.isChain_cons_cons, List.forall_mem_cons (a := column)]
      constructor
      · rintro ⟨hcolumn, hstep, _, hinside, hchain⟩
        exact ⟨List.cons_ne_nil _ _, ⟨hcolumn, hinside⟩, hstep, hchain⟩
      · rintro ⟨_, ⟨hcolumn, hinside⟩, hstep, hchain⟩
        exact ⟨hcolumn, hstep, List.cons_ne_nil _ _, hinside, hchain⟩

/-- An admissible path is a walk, its last column first. -/
theorem walk_reverse (motion_penalty : α) {rows : Nat} {path : List Nat} (hrows : 0 < rows) :
    (trellis columns maximum_step_bins motion_penalty).Walk path.reverse ∧ path.length = rows ↔
      Admissible rows columns maximum_step_bins path := by
  have hcomm : (fun column next => distance next column ≤ maximum_step_bins) =
      fun column next => distance column next ≤ maximum_step_bins := by
    funext column next
    rw [distance_comm]
  rw [walk_iff, List.isChain_reverse]
  constructor
  · rintro ⟨⟨_, hinside, hchain⟩, hlength⟩
    exact ⟨hlength, fun column hcolumn => hinside column (List.mem_reverse.2 hcolumn), hcomm ▸ hchain⟩
  · intro h
    refine ⟨⟨?_, fun column hcolumn => h.inside column (List.mem_reverse.1 hcolumn), ?_⟩, h.length⟩
    · intro hnil
      have hlength := h.length
      rw [List.reverse_eq_nil_iff.1 hnil, List.length_nil] at hlength
      omega
    · show path.IsChain fun column next => distance next column ≤ maximum_step_bins
      rw [hcomm]
      exact h.steps

/-- What a row gives a column. -/
def rowGain (row : List α) (column : Nat) : α := row.getD column 0

theorem value_eq {rows : List (List α)} {path : List Nat} (h : path.length = rows.length) :
    (trellis columns maximum_step_bins motion_penalty).value (rows.map rowGain) path =
      (List.zipWith (fun row column => row.getD column 0) rows path).sum - motion_penalty * motion path := by
  induction path generalizing rows with
  | nil =>
    rw [List.length_eq_zero_iff.1 h.symm]
    show (0 : α) = 0 - motion_penalty * ((0 : Nat) : α)
    rw [Nat.cast_zero, mul_zero, sub_zero]
  | cons column path ih =>
    cases rows with
    | nil => nomatch h
    | cons row rows =>
      have hrest := ih (Nat.succ.inj h)
      cases path with
      | nil =>
        rw [List.length_eq_zero_iff.1 (Nat.succ.inj h).symm]
        show row.getD column 0 = (row.getD column 0 + 0) - motion_penalty * ((0 : Nat) : α)
        rw [Nat.cast_zero, mul_zero, sub_zero, add_zero]
      | cons next path =>
        have hmotion : motion (column :: next :: path) = distance column next + motion (next :: path) := rfl
        have hvalue : (trellis columns maximum_step_bins motion_penalty).value ((row :: rows).map rowGain)
            (column :: next :: path) = row.getD column 0 +
              (trellis columns maximum_step_bins motion_penalty).value (rows.map rowGain) (next :: path) -
                motion_penalty * distance column next := rfl
        rw [hvalue, hrest, hmotion, Nat.cast_add, List.zipWith_cons_cons, List.sum_cons]
        ring

/-- The value of the reversed walk is the gain of the path. -/
theorem value_reverse {rows : List (List α)} {path : List Nat} (h : path.length = rows.length) :
    (trellis columns maximum_step_bins motion_penalty).value (rows.reverse.map rowGain) path.reverse =
      gainOf motion_penalty rows path := by
  rw [value_eq (by rw [List.length_reverse, List.length_reverse, h]), ← List.reverse_zipWith h.symm, List.sum_reverse,
    motion_reverse]
  rfl

end Paths

/-! ## One pass -/

section Programme

variable {α : Type} [Field α] [LinearOrder α] [IsStrictOrderedRing α] {columns maximum_step_bins : Nat}
  {motion_penalty : α}

/-- The best column of a list that is not empty. -/
theorem argmax_getD {κ : Type} {xs : List κ} {key : κ → α} {default : κ} (hsome : xs ≠ []) :
    (xs.argmax key).getD default ∈ xs ∧ ∀ x ∈ xs, key x ≤ key ((xs.argmax key).getD default) := by
  cases hbest : xs.argmax key with
  | none => exact absurd (List.argmax_eq_none.1 hbest) hsome
  | some best => exact ⟨List.argmax_mem hbest, fun x hx => List.le_of_mem_argmax hx hbest⟩

theorem previous_best (scores : List α) {column : Nat} (hcolumn : column < columns) :
    previous columns maximum_step_bins motion_penalty scores column ∈ window columns maximum_step_bins column ∧
      ∀ candidate ∈ window columns maximum_step_bins column, moveKey motion_penalty scores column candidate ≤
        moveKey motion_penalty scores column (previous columns maximum_step_bins motion_penalty scores column) := by
  refine argmax_getD (List.ne_nil_of_mem (a := column) (mem_window.2 ⟨hcolumn, ?_⟩))
  unfold distance
  omega

/-- What the programme holds after some rows, the last row first. -/
def Solved (columns maximum_step_bins : Nat) (motion_penalty : α) (rows : List (List α))
    (state : List α × List (List Nat)) : Prop :=
  (trellis columns maximum_step_bins motion_penalty).Solves (rows.map rowGain) (fun column => state.1.getD column 0)
    (followBack state.2.reverse)

theorem getD_map_range {β : Type} {f : Nat → β} {column : Nat} {default : β} (hcolumn : column < columns) :
    ((List.range columns).map f).getD column default = f column := by
  rw [List.getD_eq_getElem?_getD, List.getElem?_map, List.getElem?_range hcolumn]
  rfl

/-- One row of the programme. -/
theorem Solved.row {rows : List (List α)} {state : List α × List (List Nat)}
    (h : Solved columns maximum_step_bins motion_penalty rows state) (hsome : rows ≠ []) (row : List α) :
    Solved columns maximum_step_bins motion_penalty (row :: rows)
      ((viterbiRow columns maximum_step_bins motion_penalty state.1 row).1,
        state.2 ++ [(viterbiRow columns maximum_step_bins motion_penalty state.1 row).2]) := by
  let parent := previous columns maximum_step_bins motion_penalty state.1
  have hstep : (trellis columns maximum_step_bins motion_penalty).Solves (rowGain row :: rows.map rowGain)
      (fun column => rowGain row column + state.1.getD (parent column) 0 - motion_penalty * distance column (parent column))
      (fun column => column :: followBack state.2.reverse (parent column)) := by
    refine Trellis.Solves.step h (by simpa using hsome) ?_ ?_
    · intro column hcolumn
      exact mem_window.1 (previous_best state.1 hcolumn).1
    · intro column candidate hcolumn hcandidate hbefore
      exact (previous_best state.1 hcolumn).2 candidate (mem_window.2 ⟨hcandidate, hbefore⟩)
  refine hstep.congr (fun column hcolumn => getD_map_range hcolumn) ?_
  intro column hcolumn
  show followBack (state.2 ++ [_]).reverse column = _
  rw [List.reverse_append, List.reverse_singleton, List.singleton_append]
  show column :: followBack state.2.reverse (((List.range columns).map _).getD column 0) = _
  rw [getD_map_range hcolumn]

/-- All rows of the programme. -/
theorem Solved.rows {done : List (List α)} {state : List α × List (List Nat)}
    (h : Solved columns maximum_step_bins motion_penalty done state) (hsome : done ≠ []) (rows : List (List α)) :
    Solved columns maximum_step_bins motion_penalty (rows.reverse ++ done) (rows.foldl (fun state row =>
      let next := viterbiRow columns maximum_step_bins motion_penalty state.1 row
      (next.1, state.2 ++ [next.2])) state) := by
  induction rows generalizing done state with
  | nil => exact h
  | cons row rows ih =>
    rw [List.reverse_cons, List.append_assoc, List.singleton_append]
    exact ih (h.row hsome row) (List.cons_ne_nil _ _)

/-- The path of a pass is admissible, and no admissible path gains more. -/
theorem viterbiPath_best {residual : List (List α)} (hrows : residual ≠ []) (hcolumns : 0 < columns) :
    Admissible residual.length columns maximum_step_bins (viterbiPath columns maximum_step_bins motion_penalty residual) ∧
      ∀ path, Admissible residual.length columns maximum_step_bins path → gainOf motion_penalty residual path ≤
        gainOf motion_penalty residual (viterbiPath columns maximum_step_bins motion_penalty residual) := by
  cases residual with
  | nil => exact absurd rfl hrows
  | cons first rest =>
    have hsolved : Solved columns maximum_step_bins motion_penalty (first :: rest).reverse
        (viterbiRows columns maximum_step_bins motion_penalty first rest) := by
      have hfirst : Solved columns maximum_step_bins motion_penalty [first] (first, []) :=
        Trellis.solves_single _ (rowGain first)
      rw [List.reverse_cons]
      exact hfirst.rows (List.cons_ne_nil _ _) rest
    let state := viterbiRows columns maximum_step_bins motion_penalty first rest
    let last := ((List.range columns).argmax fun column => state.1.getD column 0).getD 0
    have hbest : last ∈ List.range columns ∧ ∀ column ∈ List.range columns, state.1.getD column 0 ≤ state.1.getD last 0 :=
      argmax_getD (List.ne_nil_of_mem (List.mem_range.2 hcolumns))
    have hlast : last < columns := List.mem_range.1 hbest.1
    have hpath : viterbiPath columns maximum_step_bins motion_penalty (first :: rest) =
      (followBack state.2.reverse last).reverse := rfl
    rcases hsolved.walk last hlast with ⟨hwalk, _, hlength⟩
    have hlength : (viterbiPath columns maximum_step_bins motion_penalty (first :: rest)).length = (first :: rest).length := by
      rw [hpath, List.length_reverse, hlength, List.length_map, List.length_reverse]
    refine ⟨(walk_reverse motion_penalty (Nat.succ_pos _)).1 ⟨?_, hlength⟩, ?_⟩
    · rw [hpath, List.reverse_reverse]
      exact hwalk
    · intro path hadmissible
      rcases (walk_reverse motion_penalty (Nat.succ_pos _)).2 hadmissible with ⟨hother, hcount⟩
      have hvalue : ∀ path, path.length = (first :: rest).length →
          (trellis columns maximum_step_bins motion_penalty).value ((first :: rest).reverse.map rowGain) path.reverse =
            gainOf motion_penalty (first :: rest) path := fun _ hcount => value_reverse hcount
      rw [← hvalue _ hcount, ← hvalue _ hlength, hpath, List.reverse_reverse]
      refine hsolved.highest hlast (fun column hcolumn => hbest.2 column (List.mem_range.2 hcolumn)) hother ?_
      rw [List.length_reverse, List.length_map, List.length_reverse]
      exact hcount

end Programme

/-! ## Masks -/

section Masks

variable {α : Type} {rows columns radius : Nat} {floor : α} {power : List (List α)}

/-- All rows have all columns. -/
def Rectangular (rows columns : Nat) (power : List (List α)) : Prop :=
  power.length = rows ∧ ∀ row ∈ power, row.length = columns

/-- A cell within the radius of one of the paths -/
@[reducible] def Near (radius : Nat) (paths : List (List Nat)) (row column : Nat) : Prop :=
  ∃ path ∈ paths, distance (path.getD row 0) column ≤ radius

/-- The matrix with the cells near the paths replaced by the floor. -/
def hidden (floor : α) (radius : Nat) (paths : List (List Nat)) (power : List (List α)) : List (List α) :=
  power.mapIdx fun row cells => cells.mapIdx fun column value => if Near radius paths row column then floor else value

theorem hidden_nil : hidden floor radius [] power = power := by
  have hcells : ∀ (row : Nat) (cells : List α), (cells.mapIdx fun column value =>
      if Near radius [] row column then floor else value) = cells := by
    intro row cells
    refine List.ext_getElem List.length_mapIdx fun column _ _ => ?_
    rw [List.getElem_mapIdx, if_neg]
    rintro ⟨_, hnone, _⟩
    exact List.not_mem_nil hnone
  unfold hidden
  refine List.ext_getElem List.length_mapIdx fun row _ _ => ?_
  rw [List.getElem_mapIdx, hcells]

theorem rectangular_hidden {paths : List (List Nat)} (h : Rectangular rows columns power) :
    Rectangular rows columns (hidden floor radius paths power) := by
  refine ⟨List.length_mapIdx.trans h.1, ?_⟩
  intro row hrow
  rcases List.mem_mapIdx.1 hrow with ⟨index, hindex, rfl⟩
  rw [List.length_mapIdx]
  exact h.2 _ (List.getElem_mem hindex)

theorem getElem?_foldl_set (masked : List Nat) (row : List α) (column : Nat) :
    (masked.foldl (fun row masked => row.set masked floor) row)[column]? =
      if column ∈ masked then row[column]?.map fun _ => floor else row[column]? := by
  induction masked generalizing row with
  | nil => rfl
  | cons first masked ih =>
    rw [List.foldl_cons, ih, List.getElem?_set]
    by_cases hfirst : first = column
    · subst hfirst
      have hset : (if first < row.length then some floor else none) = row[first]?.map fun _ => floor := by
        by_cases hin : first < row.length
        · rw [if_pos hin, List.getElem?_eq_getElem hin]
          rfl
        · rw [if_neg hin, List.getElem?_eq_none (not_lt.1 hin)]
          rfl
      rw [if_pos rfl, hset, if_pos List.mem_cons_self]
      split
      · rw [Option.map_map]
        rfl
      · rfl
    · have hmem : column ∈ first :: masked ↔ column ∈ masked := by simp [Ne.symm hfirst]
      rw [if_neg hfirst]
      simp only [hmem]

/-- One more path is hidden by its mask. -/
theorem maskPath_hidden {paths : List (List Nat)} {path : List Nat} (h : Rectangular rows columns power)
    (hpath : path.length = rows) : maskPath floor columns radius (hidden floor radius paths power) path =
      hidden floor radius (paths ++ [path]) power := by
  refine List.ext_getElem? fun row => ?_
  unfold maskPath
  rw [List.getElem?_zipWith]
  by_cases hrow : row < rows
  · have hin : row < power.length := by
      rw [h.1]
      exact hrow
    have hlookup : path[row]? = some (path.getD row 0) := by
      rw [List.getD_eq_getElem?_getD, List.getElem?_eq_getElem (by rw [hpath]; exact hrow), Option.getD_some]
    unfold hidden
    rw [hlookup, List.getElem?_mapIdx, List.getElem?_mapIdx, List.getElem?_eq_getElem hin]
    dsimp only [Option.map_some]
    refine congrArg some (List.ext_getElem? fun column => ?_)
    have hcolumns : power[row].length = columns := h.2 _ (List.getElem_mem hin)
    unfold maskRow
    rw [getElem?_foldl_set, List.getElem?_mapIdx, List.getElem?_mapIdx]
    by_cases hcolumn : column < columns
    · rw [List.getElem?_eq_getElem (by rw [hcolumns]; exact hcolumn)]
      dsimp only [Option.map_some]
      by_cases hnear : distance (path.getD row 0) column ≤ radius
      · rw [if_pos (mem_window.2 ⟨hcolumn, hnear⟩), if_pos]
        exact ⟨path, List.mem_append_right _ List.mem_cons_self, hnear⟩
      · have hsame : Near radius (paths ++ [path]) row column ↔ Near radius paths row column := by
          constructor
          · rintro ⟨other, hother, hdistance⟩
            rcases List.mem_append.1 hother with hother | hother
            · exact ⟨other, hother, hdistance⟩
            · rw [List.mem_singleton.1 hother] at hdistance
              exact absurd hdistance hnear
          · rintro ⟨other, hother, hdistance⟩
            exact ⟨other, List.mem_append_left _ hother, hdistance⟩
        rw [if_neg fun hmem => hnear (mem_window.1 hmem).2]
        simp only [hsame]
    · rw [if_neg fun hmem => hcolumn (mem_window.1 hmem).1,
        List.getElem?_eq_none (by rw [hcolumns]; exact not_lt.1 hcolumn)]
      rfl
  · have hnone : path[row]? = none := List.getElem?_eq_none (by rw [hpath]; exact not_lt.1 hrow)
    have hend : (hidden floor radius (paths ++ [path]) power)[row]? = none := by
      refine List.getElem?_eq_none ?_
      rw [(rectangular_hidden h).1]
      exact not_lt.1 hrow
    rw [hnone, hend]
    cases (hidden floor radius paths power)[row]? with
    | none => rfl
    | some cells => rfl

end Masks

/-! ## The floor -/

section Extremes

variable {α : Type} [Field α] [LinearOrder α] {power : List (List α)}

theorem lowest_le {xs : List α} {x : α} (hx : x ∈ xs) : lowest xs ≤ x := by
  unfold lowest
  cases hmin : xs.min? with
  | none =>
    rw [List.min?_eq_none_iff.1 hmin] at hx
    exact absurd hx List.not_mem_nil
  | some low => exact (List.min?_eq_some_iff.1 hmin).2 x hx

theorem le_highest {xs : List α} {x : α} (hx : x ∈ xs) : x ≤ highest xs := by
  unfold highest
  cases hmax : xs.max? with
  | none =>
    rw [List.max?_eq_none_iff.1 hmax] at hx
    exact absurd hx List.not_mem_nil
  | some high => exact (List.max?_eq_some_iff.1 hmax).2 x hx

/-- `min` and `max` over the whole matrix -/
theorem cell_bounds {cells : List α} {value : α} (hcells : cells ∈ power) (hvalue : value ∈ cells) :
    lowest (power.map lowest) ≤ value ∧ value ≤ highest (power.map highest) :=
  ⟨(lowest_le (List.mem_map_of_mem hcells)).trans (lowest_le hvalue),
    (le_highest hvalue).trans (le_highest (List.mem_map_of_mem hcells))⟩

end Extremes

section Floor

variable {α : Type} [Field α] [LinearOrder α] [IsStrictOrderedRing α] {rows columns maximum_step_bins radius : Nat}
  {motion_penalty : α} {power : List (List α)} {paths : List (List Nat)} {path : List Nat}

/-- A path that stays clear of the cells near other paths. -/
def Avoids (radius : Nat) (paths : List (List Nat)) (path : List Nat) : Prop :=
  ∀ row column, path[row]? = some column → ¬Near radius paths row column

/-- The cells of a path, in the order of the rows. -/
def cellsOf (values : List (List α)) (path : List Nat) : List α :=
  List.zipWith (fun row column => row.getD column 0) values path

theorem length_cellsOf (values : List (List α)) (h : path.length = values.length) :
    (cellsOf values path).length = values.length := by
  unfold cellsOf
  rw [List.length_zipWith, h, Nat.min_self]

/-- A cell of a path through the hidden matrix. -/
theorem getElem?_cellsOf_hidden {floor : α} (h : Rectangular rows columns power)
    (hpath : Admissible rows columns maximum_step_bins path) {row column : Nat} (hcolumn : path[row]? = some column) :
    ∃ value, (∃ cells ∈ power, value ∈ cells) ∧ (cellsOf (hidden floor radius paths power) path)[row]? =
      some (if Near radius paths row column then floor else value) := by
  have hrow : row < power.length := by
    rw [h.1, ← hpath.length]
    exact (List.getElem?_eq_some_iff.1 hcolumn).1
  have hin : column < power[row].length := by
    rw [h.2 _ (List.getElem_mem hrow)]
    exact hpath.inside column (List.mem_of_getElem? hcolumn)
  refine ⟨power[row][column], ⟨power[row], List.getElem_mem hrow, List.getElem_mem hin⟩, ?_⟩
  unfold cellsOf hidden
  rw [List.getElem?_zipWith, hcolumn, List.getElem?_mapIdx, List.getElem?_eq_getElem hrow]
  dsimp only [Option.map_some]
  rw [List.getD_eq_getElem?_getD, List.getElem?_mapIdx, List.getElem?_eq_getElem hin]
  rfl

theorem mem_cellsOf_hidden {floor x : α} (h : Rectangular rows columns power)
    (hpath : Admissible rows columns maximum_step_bins path) (hx : x ∈ cellsOf (hidden floor radius paths power) path) :
    ∃ row column, path[row]? = some column ∧ ∃ value, (∃ cells ∈ power, value ∈ cells) ∧
      x = if Near radius paths row column then floor else value := by
  rcases List.mem_iff_getElem?.1 hx with ⟨row, hrow⟩
  have hlength : (cellsOf (hidden floor radius paths power) path).length = (hidden floor radius paths power).length :=
    length_cellsOf _ (by rw [(rectangular_hidden h).1, hpath.length])
  have hin : row < path.length := by
    rw [hpath.length, ← (rectangular_hidden h).1, ← hlength]
    exact (List.getElem?_eq_some_iff.1 hrow).1
  rcases getElem?_cellsOf_hidden h hpath (List.getElem?_eq_getElem hin) with ⟨value, hvalue, hcell⟩
  rw [hrow] at hcell
  exact ⟨row, path[row], List.getElem?_eq_getElem hin, value, hvalue, Option.some.inj hcell⟩

theorem sum_ge {xs : List α} {low : α} (h : ∀ x ∈ xs, low ≤ x) : xs.length * low ≤ xs.sum := by
  induction xs with
  | nil => simp
  | cons x xs ih =>
    have hrest := ih fun y hy => h y (List.mem_cons_of_mem _ hy)
    have hhead := h x List.mem_cons_self
    rw [List.length_cons, List.sum_cons, Nat.cast_succ, add_mul, one_mul]
    linarith

theorem sum_le {xs : List α} {high : α} (h : ∀ x ∈ xs, x ≤ high) : xs.sum ≤ xs.length * high := by
  induction xs with
  | nil => simp
  | cons x xs ih =>
    have hrest := ih fun y hy => h y (List.mem_cons_of_mem _ hy)
    have hhead := h x List.mem_cons_self
    rw [List.length_cons, List.sum_cons, Nat.cast_succ, add_mul, one_mul]
    linarith

/-- One low item keeps a sum low. -/
theorem sum_le_of_mem {xs : List α} {high x : α} (h : ∀ y ∈ xs, y ≤ high) (hx : x ∈ xs) :
    xs.sum ≤ x + (xs.length - 1) * high := by
  rcases List.append_of_mem hx with ⟨before, after, rfl⟩
  have hbefore := sum_le fun y hy => h y (List.mem_append_left _ hy)
  have hafter := sum_le fun y hy => h y (List.mem_append_right _ (List.mem_cons_of_mem _ hy))
  rw [List.sum_append, List.sum_cons, List.length_append, List.length_cons]
  push_cast
  linarith

theorem motion_le (h : path.IsChain fun column next => distance column next ≤ maximum_step_bins) :
    motion path ≤ path.length * maximum_step_bins := by
  induction path with
  | nil => exact Nat.zero_le _
  | cons column path ih =>
    cases path with
    | nil => exact Nat.zero_le _
    | cons next path =>
      rcases List.isChain_cons_cons.1 h with ⟨hstep, hrest⟩
      have hlater := ih hrest
      show distance column next + motion (next :: path) ≤ _
      rw [List.length_cons, Nat.succ_mul]
      omega

/-- Where the floor lies below anything that a path can lose elsewhere, the best path avoids it if one can. -/
theorem Avoids.of_best {other : List Nat} (h : Rectangular rows columns power) (hpenalty : 0 ≤ motion_penalty)
    (hbound : rows * (highest (power.map highest) - lowest (power.map lowest) + motion_penalty * maximum_step_bins) <
      1000000)
    (hother : Admissible rows columns maximum_step_bins other) (hpath : Admissible rows columns maximum_step_bins path)
    (hclear : Avoids radius paths other)
    (hbest : gainOf motion_penalty (hidden (floorOf power) radius paths power) other ≤
      gainOf motion_penalty (hidden (floorOf power) radius paths power) path) : Avoids radius paths path := by
  intro row column hcolumn hnear
  let low := lowest (power.map lowest)
  let high := highest (power.map highest)
  have hshape : Rectangular rows columns (hidden (floorOf power) radius paths power) := rectangular_hidden h
  have hfloored : ∃ value, (∃ cells ∈ power, value ∈ cells) ∧
      (cellsOf (hidden (floorOf power) radius paths power) path)[row]? =
        some (if Near radius paths row column then floorOf power else value) := getElem?_cellsOf_hidden h hpath hcolumn
  rcases hfloored with ⟨value, ⟨cells, hcells, hvalue⟩, hcell⟩
  rw [if_pos hnear] at hcell
  have hrange : low ≤ high := (cell_bounds hcells hvalue).1.trans (cell_bounds hcells hvalue).2
  have hunfold : floorOf power = low - 1000000 := rfl
  have hlength : ∀ p, Admissible rows columns maximum_step_bins p →
      (cellsOf (hidden (floorOf power) radius paths power) p).length = rows := by
    intro p hp
    rw [length_cellsOf _ (by rw [hshape.1, hp.length]), hshape.1]
  have hmoves : motion_penalty * motion other ≤ rows * (motion_penalty * maximum_step_bins) := by
    have hmotion := motion_le hother.steps
    rw [hother.length] at hmotion
    have hcast : (motion other : α) ≤ rows * maximum_step_bins := by exact_mod_cast hmotion
    calc motion_penalty * motion other ≤ motion_penalty * (rows * maximum_step_bins) :=
          mul_le_mul_of_nonneg_left hcast hpenalty
      _ = rows * (motion_penalty * maximum_step_bins) := by ring
  -- the path that stays clear loses nothing to the floor
  have hgain : rows * low - rows * (motion_penalty * maximum_step_bins) ≤
      gainOf motion_penalty (hidden (floorOf power) radius paths power) other := by
    have hsum : rows * low ≤ (cellsOf (hidden (floorOf power) radius paths power) other).sum := by
      rw [← hlength other hother]
      refine sum_ge fun x hx => ?_
      rcases mem_cellsOf_hidden h hother hx with ⟨r, c, hc, value, ⟨cells, hcells, hvalue⟩, rfl⟩
      rw [if_neg (hclear r c hc)]
      exact (cell_bounds hcells hvalue).1
    unfold gainOf
    exact sub_le_sub hsum hmoves
  -- the other path gets the floor at least once
  have hloss : gainOf motion_penalty (hidden (floorOf power) radius paths power) path ≤
      floorOf power + (rows - 1) * high := by
    have hfloor : floorOf power ≤ high := by
      rw [hunfold]
      linarith
    have hall : ∀ x ∈ cellsOf (hidden (floorOf power) radius paths power) path, x ≤ high := by
      intro x hx
      rcases mem_cellsOf_hidden h hpath hx with ⟨r, c, hc, value, ⟨cells, hcells, hvalue⟩, rfl⟩
      split
      · exact hfloor
      · exact (cell_bounds hcells hvalue).2
    have hsum := sum_le_of_mem hall (List.mem_of_getElem? hcell)
    rw [hlength path hpath] at hsum
    have hmotion : 0 ≤ motion_penalty * motion path := mul_nonneg hpenalty (Nat.cast_nonneg _)
    unfold gainOf
    exact (sub_le_self _ hmotion).trans hsum
  have hchain := (hgain.trans hbest).trans hloss
  rw [hunfold] at hchain
  have hexpand : (rows : α) * (high - low + motion_penalty * maximum_step_bins) =
      rows * high - rows * low + rows * (motion_penalty * maximum_step_bins) := by ring
  rw [hexpand] at hbound
  linarith

end Floor

/-! ## All passes -/

section Passes

variable {α : Type} [Field α] [LinearOrder α] [IsStrictOrderedRing α] {power : List (List α)}
  {maximum_step_bins track_count peel_radius_bins : Int} {motion_penalty : α}

/-- The row numbers `0, 1, …` have no common value unless there is only one. -/
theorem linearFit_ok_iff {rows : Nat} (hrows : 0 < rows) (y : List α) :
    (∃ fit, linearFit ((List.range rows).map Nat.cast) y = .ok fit) ↔ 2 ≤ rows := by
  unfold linearFit
  rw [List.length_map, List.length_range]
  constructor
  · intro h
    by_contra hone
    have hrows : rows = 1 := by omega
    subst hrows
    rcases h with ⟨fit, h⟩
    rcases bind_ok.1 h with ⟨_, hcheck, _⟩
    refine raiseIf_ok.1 hcheck ?_
    simp
  · intro htwo
    refine exists_bind_ok (raiseIf_ok.2 ?_) ⟨_, rfl⟩
    intro hzero
    let center := ((List.range rows).map (Nat.cast : Nat → α)).sum / (rows : α)
    have hall : ∀ r < rows, ((r : α) - center) ^ 2 = 0 := by
      intro r hr
      have hnonneg : ∀ x ∈ ((List.range rows).map (Nat.cast : Nat → α)).map fun value => (value - center) ^ 2, 0 ≤ x := by
        intro x hx
        rcases List.mem_map.1 hx with ⟨value, _, rfl⟩
        exact sq_nonneg _
      exact List.all_zero_of_le_zero_le_of_sum_eq_zero hnonneg hzero
        (List.mem_map_of_mem (List.mem_map_of_mem (List.mem_range.2 hr)))
    have hfirst := pow_eq_zero_iff (two_ne_zero) |>.1 (hall 0 (by omega))
    have hsecond := pow_eq_zero_iff (two_ne_zero) |>.1 (hall 1 (by omega))
    rw [Nat.cast_zero] at hfirst
    rw [Nat.cast_one] at hsecond
    linarith

/-- A pass finds a best path through its residual, if there is a slope to fit. -/
theorem peelTrack_ok {columns step : Nat} {residual : List (List α)} (hrows : power.length = residual.length)
    (hcolumns : 0 < columns) (hsome : residual ≠ []) :
    ((∃ track, peelTrack power columns step motion_penalty residual = .ok track) ↔ 2 ≤ power.length) ∧
      ∀ track, peelTrack power columns step motion_penalty residual = .ok track →
        Admissible residual.length columns step track.bins ∧ ∀ path, Admissible residual.length columns step path →
          gainOf motion_penalty residual path ≤ gainOf motion_penalty residual track.bins := by
  have hpositive : 0 < power.length := by
    rw [hrows]
    exact List.length_pos_iff.2 hsome
  constructor
  · rw [← @linearFit_ok_iff α _ _ _ _ hpositive ((viterbiPath columns step motion_penalty residual).map Nat.cast)]
    constructor
    · rintro ⟨track, h⟩
      rcases bind_ok.1 h with ⟨fit, hfit, _⟩
      exact ⟨fit, hfit⟩
    · rintro ⟨fit, hfit⟩
      exact exists_bind_ok hfit ⟨_, rfl⟩
  · intro track h
    rcases bind_ok.1 h with ⟨fit, _, htrack⟩
    cases htrack
    exact viterbiPath_best hsome hcolumns

/-- Every track is the best of what the earlier ones left. -/
theorem peelTracks_best {rows columns step radius : Nat} {floor : α} (h : Rectangular rows columns power)
    (hrows : 0 < rows) (hcolumns : 0 < columns) {n : Nat} {paths : List (List Nat)} {tracks : List (LinearTrack α)}
    (hrun : peelTracks power columns step motion_penalty floor radius n (hidden floor radius paths power) = .ok tracks) :
    tracks.length = n ∧ ∀ i track, tracks[i]? = some track →
      Admissible rows columns step track.bins ∧ ∀ path, Admissible rows columns step path →
        gainOf motion_penalty (hidden floor radius (paths ++ (tracks.take i).map LinearTrack.bins) power) path ≤
          gainOf motion_penalty (hidden floor radius (paths ++ (tracks.take i).map LinearTrack.bins) power) track.bins := by
  induction n generalizing paths tracks with
  | zero =>
    cases hrun
    exact ⟨rfl, nofun⟩
  | succ n ih =>
    have hshape : Rectangular rows columns (hidden floor radius paths power) := rectangular_hidden h
    have hsome : hidden floor radius paths power ≠ [] := List.length_pos_iff.1 (by rw [hshape.1]; omega)
    rcases bind_ok.1 hrun with ⟨track, htrack, hrest⟩
    rcases bind_ok.1 hrest with ⟨later, hlater, htracks⟩
    cases htracks
    have hbest := (peelTrack_ok (h.1.trans hshape.1.symm) hcolumns hsome).2 track htrack
    rw [hshape.1] at hbest
    rw [maskPath_hidden h hbest.1.length] at hlater
    rcases ih hlater with ⟨hlength, hall⟩
    refine ⟨congrArg Nat.succ hlength, ?_⟩
    intro i other hother
    cases i with
    | zero =>
      cases hother
      rw [List.take_zero, List.map_nil, List.append_nil]
      exact hbest
    | succ i =>
      have hother := hall i other hother
      rw [List.append_assoc] at hother
      exact hother

theorem peelTracks_ok {rows columns step radius : Nat} {floor : α} (h : Rectangular rows columns power)
    (hrows : 2 ≤ rows) (hcolumns : 0 < columns) (n : Nat) (paths : List (List Nat)) :
    ∃ tracks, peelTracks power columns step motion_penalty floor radius n (hidden floor radius paths power) = .ok tracks := by
  induction n generalizing paths with
  | zero => exact ⟨[], rfl⟩
  | succ n ih =>
    have hshape : Rectangular rows columns (hidden floor radius paths power) := rectangular_hidden h
    have hsome : hidden floor radius paths power ≠ [] := List.length_pos_iff.1 (by rw [hshape.1]; omega)
    have hpass := @peelTrack_ok α _ _ _ power motion_penalty columns step _ (h.1.trans hshape.1.symm) hcolumns hsome
    rcases hpass.1.2 (by rw [h.1]; exact hrows) with ⟨track, htrack⟩
    have hadmissible := (hpass.2 track htrack).1
    rw [hshape.1] at hadmissible
    rcases ih (paths ++ [track.bins]) with ⟨later, hlater⟩
    rw [← maskPath_hidden h hadmissible.length] at hlater
    exact exists_bind_ok htrack (exists_bind_ok hlater ⟨_, rfl⟩)

theorem validatedShape_ok_iff {β : Type} {Finite : β → Prop} [DecidablePred Finite] {values : List (List β)}
    {shape : Nat × Nat} : validatedShape Finite values = .ok shape ↔
    ∃ rows columns, 0 < rows ∧ 0 < columns ∧ Rectangular rows columns values ∧
      (∀ row ∈ values, ∀ value ∈ row, Finite value) ∧ shape = (rows, columns) := by
  unfold validatedShape
  constructor
  · intro h
    rcases bind_ok.1 h with ⟨_, hempty, hrest⟩
    rcases bind_ok.1 hrest with ⟨_, hragged, hlast⟩
    rcases bind_ok.1 hlast with ⟨_, hfinite, hshape⟩
    have hempty := raiseIf_ok.1 hempty
    have hragged := raiseIf_ok.1 hragged
    have hfinite := raiseIf_ok.1 hfinite
    cases hshape
    cases values with
    | nil => exact absurd rfl hempty
    | cons first rest =>
      refine ⟨_, _, Nat.succ_pos _, List.length_pos_iff.2 hempty, ⟨rfl, ?_⟩, ?_, rfl⟩
      · intro row hrow
        by_contra hne
        exact hragged ⟨row, hrow, hne⟩
      · intro row hrow value hvalue
        by_contra hinfinite
        exact hfinite ⟨row, hrow, value, hvalue, hinfinite⟩
  · rintro ⟨rows, columns, hrows, hcolumns, ⟨hlength, hall⟩, hfinite, rfl⟩
    cases values with
    | nil =>
      rw [List.length_nil] at hlength
      omega
    | cons first rest =>
      have hfirst := hall first List.mem_cons_self
      have hempty : ¬(first :: rest).headD [] = [] := by
        intro hnil
        have hnil : first = [] := hnil
        rw [hnil, List.length_nil] at hfirst
        omega
      refine bind_ok.2 ⟨(), raiseIf_ok.2 hempty, bind_ok.2 ⟨(), raiseIf_ok.2 ?_, bind_ok.2 ⟨(), raiseIf_ok.2 ?_, ?_⟩⟩⟩
      · rintro ⟨row, hrow, hne⟩
        exact hne ((hall row hrow).trans hfirst.symm)
      · rintro ⟨row, hrow, value, hvalue, hinfinite⟩
        exact hinfinite (hfinite row hrow value hvalue)
      · show Except.ok ((first :: rest).length, first.length) = _
        rw [hlength, hfirst]

/-- What `viterbi_peel_tracks` accepts, and what it then returns. -/
theorem viterbiPeelTracks_ok {tracks : List (LinearTrack α)} :
    viterbiPeelTracks power maximum_step_bins track_count motion_penalty peel_radius_bins = .ok tracks ↔
      ∃ rows columns, 0 < rows ∧ 0 < columns ∧ Rectangular rows columns power ∧
        (0 ≤ maximum_step_bins ∧ 1 ≤ track_count ∧ 0 ≤ peel_radius_bins ∧ 0 ≤ motion_penalty) ∧
        peelTracks power columns maximum_step_bins.toNat motion_penalty (floorOf power) peel_radius_bins.toNat
          track_count.toNat power = .ok tracks := by
  unfold viterbiPeelTracks
  constructor
  · intro h
    rcases bind_ok.1 h with ⟨shape, hshape, hrest⟩
    rcases bind_ok.1 hrest with ⟨_, hlimits, hlast⟩
    rcases bind_ok.1 hlast with ⟨_, hpenalty, hrun⟩
    rcases validatedShape_ok_iff.1 hshape with ⟨rows, columns, hrows, hcolumns, hrectangular, _, rfl⟩
    have hlimits := raiseIf_ok.1 hlimits
    have hpenalty := not_lt.1 (raiseIf_ok.1 hpenalty)
    exact ⟨rows, columns, hrows, hcolumns, hrectangular, ⟨by omega, by omega, by omega, hpenalty⟩, hrun⟩
  · rintro ⟨rows, columns, hrows, hcolumns, hrectangular, ⟨hstep, hcount, hradius, hpenalty⟩, hrun⟩
    refine bind_ok.2 ⟨(rows, columns), validatedShape_ok_iff.2
      ⟨rows, columns, hrows, hcolumns, hrectangular, fun _ _ _ _ => trivial, rfl⟩, ?_⟩
    refine bind_ok.2 ⟨(), raiseIf_ok.2 (by omega), bind_ok.2 ⟨(), raiseIf_ok.2 (not_lt.2 hpenalty), hrun⟩⟩

/-- `viterbi_peel_tracks` accepts the matrices of at least two rows under valid limits. Its first track is a best path
through the matrix and every later one a best path through what the earlier ones left; as long as the floor is deep
enough, a track that can avoid the earlier ones does. -/
theorem ridges_optimal (power : List (List α)) (maximum_step_bins track_count : Int) (motion_penalty : α)
    (peel_radius_bins : Int) {rows columns : Nat} (hrectangular : Rectangular rows columns power) (hcolumns : 0 < columns)
    (hrows : 0 < rows) :
    ((∃ tracks, viterbiPeelTracks power maximum_step_bins track_count motion_penalty peel_radius_bins = .ok tracks) ↔
      2 ≤ rows ∧ 0 ≤ maximum_step_bins ∧ 1 ≤ track_count ∧ 0 ≤ peel_radius_bins ∧ 0 ≤ motion_penalty) ∧
    ∀ tracks, viterbiPeelTracks power maximum_step_bins track_count motion_penalty peel_radius_bins = .ok tracks →
      (tracks.length : Int) = track_count ∧
      (∀ track ∈ tracks.head?, Admissible rows columns maximum_step_bins.toNat track.bins ∧
        ∀ path, Admissible rows columns maximum_step_bins.toNat path →
          gainOf motion_penalty power path ≤ gainOf motion_penalty power track.bins) ∧
      ∀ i track, tracks[i]? = some track →
        let earlier := (tracks.take i).map LinearTrack.bins
        let left := hidden (floorOf power) peel_radius_bins.toNat earlier power
        Admissible rows columns maximum_step_bins.toNat track.bins ∧
        (∀ path, Admissible rows columns maximum_step_bins.toNat path →
          gainOf motion_penalty left path ≤ gainOf motion_penalty left track.bins) ∧
        (rows * (highest (power.map highest) - lowest (power.map lowest) + motion_penalty * maximum_step_bins) < 1000000 →
          (∃ path, Admissible rows columns maximum_step_bins.toNat path ∧ Avoids peel_radius_bins.toNat earlier path) →
          Avoids peel_radius_bins.toNat earlier track.bins) := by
  have hshape : ∀ rows' columns', 0 < rows' → 0 < columns' → Rectangular rows' columns' power →
      rows' = rows ∧ columns' = columns := by
    intro rows' columns' hrows' _ hrectangular'
    have hlength := hrectangular'.1.symm.trans hrectangular.1
    rcases List.exists_mem_of_ne_nil power (List.length_pos_iff.1 (by rw [hrectangular.1]; exact hrows)) with ⟨row, hmem⟩
    exact ⟨hlength, (hrectangular'.2 row hmem).symm.trans (hrectangular.2 row hmem)⟩
  constructor
  · constructor
    · rintro ⟨tracks, h⟩
      rcases viterbiPeelTracks_ok.1 h with ⟨rows', columns', hrows', hcolumns', hrectangular', hlimits, hrun⟩
      rcases hshape _ _ hrows' hcolumns' hrectangular' with ⟨rfl, rfl⟩
      refine ⟨?_, hlimits⟩
      -- the first pass has to fit a slope
      have hcount : ∃ n, track_count.toNat = n + 1 := ⟨track_count.toNat - 1, by omega⟩
      rcases hcount with ⟨n, hn⟩
      rw [hn] at hrun
      rcases bind_ok.1 hrun with ⟨track, htrack, _⟩
      rw [← hrectangular.1]
      exact (peelTrack_ok rfl hcolumns (List.length_pos_iff.1 (by rw [hrectangular.1]; exact hrows))).1.1 ⟨track, htrack⟩
    · rintro ⟨htwo, hlimits⟩
      rcases peelTracks_ok hrectangular htwo hcolumns track_count.toNat [] with ⟨tracks, htracks⟩
      rw [hidden_nil] at htracks
      exact ⟨tracks, viterbiPeelTracks_ok.2 ⟨rows, columns, hrows, hcolumns, hrectangular, hlimits, htracks⟩⟩
  · intro tracks h
    rcases viterbiPeelTracks_ok.1 h with ⟨rows', columns', hrows', hcolumns', hrectangular', hlimits, hrun⟩
    rcases hshape _ _ hrows' hcolumns' hrectangular' with ⟨rfl, rfl⟩
    rcases hlimits with ⟨hstep, hcount, hradius, hpenalty⟩
    have hpeeled : peelTracks power columns' maximum_step_bins.toNat motion_penalty (floorOf power) peel_radius_bins.toNat
        track_count.toNat (hidden (floorOf power) peel_radius_bins.toNat [] power) = .ok tracks := by
      rw [hidden_nil]
      exact hrun
    rcases peelTracks_best hrectangular hrows hcolumns hpeeled with ⟨hlength, hall⟩
    refine ⟨by omega, ?_, ?_⟩
    · intro track htrack
      have hfirst := hall 0 track (by rw [← List.head?_eq_getElem?]; exact htrack)
      rw [List.take_zero, List.map_nil, List.append_nil, hidden_nil] at hfirst
      exact hfirst
    · intro i track htrack
      rcases hall i track htrack with ⟨hadmissible, hbest⟩
      rw [List.nil_append] at hbest
      refine ⟨hadmissible, hbest, ?_⟩
      rintro hbound ⟨path, hpath, hclear⟩
      have hcast : (maximum_step_bins : α) = (maximum_step_bins.toNat : α) := by
        rw [← Int.cast_natCast, Int.toNat_of_nonneg hstep]
      rw [hcast] at hbound
      exact Avoids.of_best hrectangular hpenalty hbound hpath hadmissible hclear (hbest path hpath)

end Passes

/-! ## Two ridges -/

section Example

/-- A rising and a falling ridge. -/
def examplePower : List (List ℚ) := [[0, 9, 0, 7], [0, 0, 9, 7], [0, 0, 7, 9]]

/-- The second path avoids the first one, as some path can. -/
theorem ridges_optimal_example : ∃ tracks, viterbiPeelTracks examplePower 1 2 1 0 = .ok tracks ∧
    tracks.map LinearTrack.bins = [[1, 2, 3], [3, 3, 2]] ∧
    (∀ path, Admissible 3 4 1 path → gainOf 1 examplePower path ≤ gainOf 1 examplePower [1, 2, 3]) ∧
    Avoids 0 [[1, 2, 3]] [3, 3, 2] := by
  have hshape : Rectangular 3 4 examplePower := ⟨rfl, by decide⟩
  have hfacts := ridges_optimal examplePower 1 2 1 0 hshape (by decide) (by decide)
  have hrun : (viterbiPeelTracks examplePower 1 2 1 0).map (fun tracks => tracks.map LinearTrack.bins) =
      .ok [[1, 2, 3], [3, 3, 2]] := by decide +kernel
  rcases map_ok hrun with ⟨tracks, htracks, hbins⟩
  rcases hfacts.2 tracks htracks with ⟨_, hfirst, hall⟩
  rcases tracks with - | ⟨first, - | ⟨second, rest⟩⟩
  · simp at hbins
  · simp at hbins
  · simp only [List.map_cons, List.cons.injEq] at hbins
    rcases hbins with ⟨hfirst_bins, hsecond_bins, hrest⟩
    refine ⟨_, htracks, by simp [← hfirst_bins, ← hsecond_bins, ← hrest], ?_, ?_⟩
    · have hbest := (hfirst first rfl).2
      rw [← hfirst_bins] at hbest
      exact hbest
    · have hclear := (hall 1 second rfl).2.2 (by decide +kernel)
      simp only [List.take_succ_cons, List.take_zero, List.map_cons, List.map_nil, ← hfirst_bins, ← hsecond_bins] at hclear
      refine hclear ⟨[3, 3, 2], ⟨rfl, by decide, by decide⟩, ?_⟩
      intro row column hcolumn
      have hrow : row < 3 := (List.getElem?_eq_some_iff.1 hcolumn).1
      interval_cases row <;> cases hcolumn <;> decide

end Example

end Doppler

end LeoFlow
