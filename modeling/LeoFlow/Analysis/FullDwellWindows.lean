import LeoFlow.Contracts.Validation
import LeoFlow.Core.FloatBounds
import LeoFlow.Core.JsonRoundTrip
import LeoFlow.Core.Ranking

/-!
# LeoFlow.Analysis.FullDwellWindows — the windows that a bounded timeline keeps

`_bounded_windows` and `_bounded_prompt_windows` of `analysis/recording/starlink_full_dwell_timeline.py`,
which differ in the class of their windows only. The ends, the windows of highest and lowest
power and evenly spaced ones are put together, and where they are too many, those farthest
from the mean power are kept beside the ends: the extremes may be among the others. `sum`
of floats is a parameter: since Python 3.12 it compensates the rounding.
-/

namespace LeoFlow

namespace FullDwell

open Ranking (sorted)

section Bounded

variable {α : Type} (sum : List PyFloat → PyFloat) (power : α → PyFloat)

/-- `windows[index]` -/
def windowAt (windows : List α) (index : Nat) : Except PyError α :=
  match windows[index]? with
  | some window => .ok window
  | none => .error ⟨.index_error, "tuple index out of range"⟩

/-- `windows[index].mean_complex_power`, in the order of the numbers -/
def powerAt (windows : List α) (index : Nat) : ℚ := (windows[index]?.map fun window => (power window).value).getD 0

/-- `{0, len(windows) - 1}` -/
def required (windows : List α) : Finset Nat := {0, windows.length - 1}

def highestAt (windows : List α) : Option Nat := (List.range windows.length).argmax (powerAt power windows)

def lowestAt (windows : List α) : Option Nat := (List.range windows.length).argmin (powerAt power windows)

/-- The positions before the evenly spaced ones. -/
def extremes (windows : List α) (maximum : Int) : Finset Nat :=
  required windows ∪ (if 3 ≤ maximum then (highestAt power windows).toList.toFinset else ∅) ∪
    (if 4 ≤ maximum then (lowestAt power windows).toList.toFinset else ∅)

/-- `round(index * (len(windows) - 1) / denominator)` -/
def spacedAt (length : Nat) (maximum : Int) (index : Nat) : Except PyError Nat := do
  let position ← Num.div (.int (index * ((length : Int) - 1))) (.int (maximum - 1))
  let rounded ← Num.round position
  pure rounded.toNat

/-- The positions before any is dropped. -/
def selection (windows : List α) (maximum : Int) : Except PyError (Finset Nat) :=
  let selected := extremes power windows maximum
  if (selected.card : Int) < maximum then do
    let spaced ← (List.range maximum.toNat).mapM (spacedAt windows.length maximum)
    pure (selected ∪ spaced.toFinset)
  else pure selected

/-- `sum(item.mean_complex_power for item in windows) / len(windows)` -/
def mean_power (windows : List α) : Except PyError PyFloat := (sum (windows.map power)).divNat windows.length

/-- `abs(power - mean_power)`, in the order of the numbers. No sum of finite floats is nan. -/
def distance (mean power : PyFloat) : WithTop ℚ :=
  match (power.sub mean).abs with
  | .inf _ => ⊤
  | f => (f.value : ℚ)

/-- `(-abs(windows[index].mean_complex_power - mean_power), index)` -/
def rank (mean : PyFloat) (power : PyFloat) (index : Nat) : (WithTop ℚ)ᵒᵈ ×ₗ Nat :=
  toLex (OrderDual.toDual (distance mean power), index)

/-- The positions that are left of too many. -/
def trim (windows : List α) (maximum : Int) (selected : Finset Nat) : Except PyError (Finset Nat) :=
  if maximum < selected.card then do
    let mean ← mean_power sum power windows
    let keys ← (sorted (selected \ required windows)).mapM fun index => do
      let window ← windowAt windows index
      pure (rank mean (power window) index)
    let ranked := (keys.insertionSort (· ≤ ·)).map fun key => (ofLex key).2
    pure (required windows ∪ (ranked.take (maximum - (required windows).card).toNat).toFinset)
  else pure selected

def bounded (windows : List α) (maximum : Int) : Except PyError (List α) :=
  if (windows.length : Int) ≤ maximum then .ok windows
  else if maximum = 1 then .ok (windows.argmax fun window => (power window).value).toList
  else do
    let selected ← selection power windows maximum
    let kept ← trim sum power windows maximum selected
    (sorted kept).mapM (windowAt windows)

/-! ## What is declared -/

/-- The reduction that the view declares. -/
structure Keeps (windows : List α) (maximum : Int) (shown : List α) : Prop where
  count : (shown.length : Int) ≤ maximum
  order : shown.Sublist windows
  ends : 2 ≤ maximum → shown.head? = windows.head? ∧ shown.getLast? = windows.getLast?
  highest : 3 ≤ maximum → windows ≠ [] → ∃ w ∈ shown, ∀ v ∈ windows, (power v).value ≤ (power w).value
  lowest : 4 ≤ maximum → windows ≠ [] → ∃ w ∈ shown, ∀ v ∈ windows, (power w).value ≤ (power v).value

/-- `(-abs(windows[index].mean_complex_power - mean_power), index)` for an index of the list -/
def rankAt (windows : List α) (mean : PyFloat) (index : Nat) : (WithTop ℚ)ᵒᵈ ×ₗ Nat :=
  rank mean ((windows[index]?.map power).getD (PyFloat.zero false)) index

/-- The candidates that are ranked before a window. -/
def ahead (windows : List α) (selected : Finset Nat) (mean : PyFloat) (index : Nat) : Finset Nat :=
  (selected \ required windows).filter fun j => rankAt power windows mean j < rankAt power windows mean index

/-- The first or the last window has this power. -/
def EndHas (windows : List α) (index : Nat) : Prop :=
  powerAt power windows 0 = powerAt power windows index ∨
    powerAt power windows (windows.length - 1) = powerAt power windows index

/-- An end has the extreme power, or too few candidates for the free places are ranked before the extreme. -/
def Secure (windows : List α) (maximum : Int) (index : Nat) : Prop :=
  EndHas power windows index ∨ ∃ selected mean, selection power windows maximum = .ok selected ∧
    mean_power sum power windows = .ok mean ∧ ((ahead power windows selected mean index).card : Int) < maximum - 2

/-- The lists and bounds whose reduction keeps what is declared. -/
def KeepsWhen (windows : List α) (maximum : Int) : Prop :=
  (windows.length : Int) ≤ maximum ∨ maximum = 1 ∨
    2 ≤ maximum ∧ (3 ≤ maximum → ∀ i ∈ highestAt power windows, Secure sum power windows maximum i) ∧
      (4 ≤ maximum → ∀ i ∈ lowestAt power windows, Secure sum power windows maximum i)

/-! ## Positions -/

variable {sum power} {windows : List α} {maximum : Int}

theorem windowAt_ok {index : Nat} {window : α} : windowAt windows index = .ok window ↔ windows[index]? = some window := by
  unfold windowAt
  cases windows[index]? with
  | none => simp
  | some w => simp

variable {i : Nat}

theorem mem_required : i ∈ required windows ↔ i = 0 ∨ i = windows.length - 1 := by
  simp [required]

theorem card_required (h : 2 ≤ windows.length) : (required windows).card = 2 :=
  Finset.card_pair (by omega)

/-- An evenly spaced position is one of the list. -/
theorem spacedAt_ok {length index : Nat} (hlength : 0 < length) (hsize : length < 2 ^ 53) (hmaximum : 2 ≤ maximum)
    (hindex : index < maximum.toNat) : ∃ i < length, spacedAt length maximum index = .ok i := by
  obtain ⟨denominator, rfl⟩ : ∃ d : Nat, maximum = d + 2 := ⟨(maximum - 2).toNat, by omega⟩
  have hden : (0 : ℚ) < (denominator : ℚ) + 1 := by positivity
  set x : ℚ := ((index * ((length : Int) - 1) : Int) : ℚ) / ((denominator + 2 - 1 : Int) : ℚ) with hx
  have hvalue : x = index * ((length - 1 : Nat) : ℚ) / (denominator + 1) := by
    rw [hx]
    have hcast : ((length - 1 : Nat) : ℚ) = length - 1 := by
      rw [Nat.cast_sub hlength, Nat.cast_one]
    rw [hcast]
    push_cast
    congr 1
    ring
  have hlow : 0 ≤ x := by
    rw [hvalue]
    exact div_nonneg (mul_nonneg (Nat.cast_nonneg _) (Nat.cast_nonneg _)) hden.le
  have hhigh : x ≤ (length - 1 : Nat) := by
    rw [hvalue, div_le_iff₀ hden, mul_comm]
    have hle : (index : ℚ) ≤ denominator + 1 := by
      have hlt : index < denominator + 2 := by omega
      exact_mod_cast Nat.lt_succ_iff.1 hlt
    exact mul_le_mul_of_nonneg_left hle (Nat.cast_nonneg _)
  obtain ⟨hfinite, hnonneg, hle⟩ := PyFloat.nearest_bounds hlow hhigh (by omega)
  have hrint := PyFloat.rint_bounds hnonneg hle
  refine ⟨(PyFloat.rint (PyFloat.nearest x).value).toNat, by omega, ?_⟩
  unfold spacedAt
  have hdiv : Num.div (.int (index * ((length : Int) - 1))) (.int ((denominator : Int) + 2 - 1)) =
      .ok (.float (PyFloat.nearest x)) := by
    dsimp only [Num.div]
    rw [if_neg (by omega), ← hx]
    cases hread : PyFloat.nearest x with
    | nan => rfl
    | inf s =>
      rw [hread] at hfinite
      exact hfinite.elim
    | finite s m e h => rfl
  have hround : Num.round (.float (PyFloat.nearest x)) = .ok (PyFloat.rint (PyFloat.nearest x).value) := by
    cases hread : PyFloat.nearest x with
    | nan =>
      rw [hread] at hfinite
      exact hfinite.elim
    | inf s =>
      rw [hread] at hfinite
      exact hfinite.elim
    | finite s m e h => rfl
  rw [hdiv, ok_bind, hround]
  rfl

/-! ## The selection -/

theorem highestAt_spec (h : i ∈ highestAt power windows) :
    i < windows.length ∧ ∀ j < windows.length, powerAt power windows j ≤ powerAt power windows i :=
  ⟨List.mem_range.1 (List.argmax_mem h), fun _ hj => List.le_of_mem_argmax (List.mem_range.2 hj) h⟩

theorem lowestAt_spec (h : i ∈ lowestAt power windows) :
    i < windows.length ∧ ∀ j < windows.length, powerAt power windows i ≤ powerAt power windows j :=
  ⟨List.mem_range.1 (List.argmin_mem h), fun _ hj => List.le_of_mem_argmin (List.mem_range.2 hj) h⟩

theorem idxOf_range {n : Nat} (hi : i < n) : (List.range n).idxOf i = i := by
  have hlt : i < (List.range n).length := by rwa [List.length_range]
  have hindex : (List.range n).idxOf (List.range n)[i] = i := List.nodup_range.idxOf_getElem i hlt
  rwa [List.getElem_range] at hindex

/-- Of equal powers the first is taken. -/
theorem highestAt_first {j : Nat} (h : i ∈ highestAt power windows) (hj : j < windows.length)
    (heq : powerAt power windows j = powerAt power windows i) : i ≤ j := by
  have hfirst := List.index_of_argmax h (List.mem_range.2 hj) heq.ge
  rwa [idxOf_range (highestAt_spec h).1, idxOf_range hj] at hfirst

theorem lowestAt_first {j : Nat} (h : i ∈ lowestAt power windows) (hj : j < windows.length)
    (heq : powerAt power windows j = powerAt power windows i) : i ≤ j := by
  have hfirst := List.index_of_argmin h (List.mem_range.2 hj) heq.le
  rwa [idxOf_range (lowestAt_spec h).1, idxOf_range hj] at hfirst

theorem mem_extremes : i ∈ extremes power windows maximum ↔
    i ∈ required windows ∨ 3 ≤ maximum ∧ i ∈ highestAt power windows ∨ 4 ≤ maximum ∧ i ∈ lowestAt power windows := by
  unfold extremes
  rw [Finset.mem_union, Finset.mem_union, or_assoc]
  by_cases h3 : 3 ≤ maximum
  · by_cases h4 : 4 ≤ maximum
    · simp [h3, h4]
    · simp [h3, h4]
  · have h4 : ¬4 ≤ maximum := by omega
    simp [h3, h4]

/-- The selection has the ends and the extremes, and positions of the list only. -/
theorem selection_ok (power : α → PyFloat) (hlength : 0 < windows.length) (hsize : windows.length < 2 ^ 53) (hmaximum : 2 ≤ maximum) :
    ∃ selected, selection power windows maximum = .ok selected ∧ extremes power windows maximum ⊆ selected ∧
      ∀ i ∈ selected, i < windows.length := by
  have hextremes : ∀ i ∈ extremes power windows maximum, i < windows.length := by
    intro i hi
    rcases mem_extremes.1 hi with hends | ⟨-, hhigh⟩ | ⟨-, hlow⟩
    · rcases mem_required.1 hends with rfl | rfl <;> omega
    · exact (highestAt_spec hhigh).1
    · exact (lowestAt_spec hlow).1
  unfold selection
  dsimp only
  split
  · have hspaced : ∀ index ∈ List.range maximum.toNat, ∃ i, spacedAt windows.length maximum index = .ok i := by
      intro index hindex
      obtain ⟨i, -, hi⟩ := spacedAt_ok hlength hsize hmaximum (List.mem_range.1 hindex)
      exact ⟨i, hi⟩
    obtain ⟨spaced, hmap⟩ := exists_mapM_ok hspaced
    refine ⟨_, bind_ok.2 ⟨spaced, hmap, rfl⟩, Finset.subset_union_left, fun i hi => ?_⟩
    rcases Finset.mem_union.1 hi with hi | hi
    · exact hextremes i hi
    · obtain ⟨index, hindex, hread⟩ := Json.exists_mem_of_forall₂ (mapM_ok.1 hmap).flip (List.mem_toFinset.1 hi)
      obtain ⟨i', hlt, hi'⟩ := spacedAt_ok hlength hsize hmaximum (List.mem_range.1 hindex)
      rw [hi'] at hread
      cases hread
      exact hlt
  · exact ⟨_, rfl, Finset.Subset.refl _, hextremes⟩

/-! ## What is left -/

variable {mean : PyFloat}

theorem rankAt_of_windowAt {index : Nat} {window : α} (h : windowAt windows index = .ok window) :
    rank mean (power window) index = rankAt power windows mean index := by
  rw [rankAt, windowAt_ok.1 h]
  rfl

theorem rankAt_injective : Function.Injective (rankAt power windows mean) := by
  intro i j h
  have hsecond := congrArg (fun key => (ofLex key).2) h
  exact hsecond

/-- The keys of positions of the list. -/
theorem keys_ok (power : α → PyFloat) (mean : PyFloat) {is : List Nat} (h : ∀ i ∈ is, i < windows.length) :
    (is.mapM fun index => do
      let window ← windowAt windows index
      pure (rank mean (power window) index)) = .ok (is.map (rankAt power windows mean)) := by
  refine mapM_ok.2 (List.forall₂_map_right_iff.2 (List.forall₂_same.2 fun i hi => ?_))
  have hlt := h i hi
  have hread : windowAt windows i = .ok windows[i] := windowAt_ok.2 (List.getElem?_eq_getElem hlt)
  exact bind_ok.2 ⟨_, hread, congrArg Except.ok (rankAt_of_windowAt hread)⟩

/-- Candidates in the order of their keys. -/
def ranking (power : α → PyFloat) (windows : List α) (mean : PyFloat) (candidates : Finset Nat) : List Nat :=
  (((sorted candidates).map (rankAt power windows mean)).insertionSort (· ≤ ·)).map fun key => (ofLex key).2

/-- The positions that the ranking keeps. -/
theorem mem_take_ranking {candidates : Finset Nat} {k : Nat} :
    i ∈ (ranking power windows mean candidates).take k ↔
      i ∈ candidates ∧ (candidates.filter fun j => rankAt power windows mean j < rankAt power windows mean i).card < k := by
  unfold ranking
  set keys := (sorted candidates).map (rankAt power windows mean) with hkeys
  have hnodup : keys.Nodup := Ranking.nodup_sorted.map rankAt_injective
  have hperm : (keys.insertionSort (· ≤ ·)).Perm keys := List.perm_insertionSort _ _
  have hascending : (keys.insertionSort (· ≤ ·)).Pairwise (· < ·) :=
    (List.pairwise_insertionSort (· ≤ ·) keys).imp₂ (fun _ _ hle hne => lt_of_le_of_ne hle hne)
      (hperm.nodup_iff.2 hnodup)
  have hmem : ∀ key ∈ keys, rankAt power windows mean (ofLex key).2 = key := by
    intro key hkey
    obtain ⟨j, -, rfl⟩ := List.mem_map.1 hkey
    rfl
  have hkey : rankAt power windows mean i ∈ keys ↔ i ∈ candidates := by
    rw [hkeys, List.mem_map_of_injective rankAt_injective, Ranking.mem_sorted]
  have hcount : ((keys.insertionSort (· ≤ ·)).filter fun key => decide (key < rankAt power windows mean i)).length =
      (candidates.filter fun j => rankAt power windows mean j < rankAt power windows mean i).card := by
    rw [(hperm.filter _).length_eq, hkeys, List.filter_map, List.length_map,
      ← List.toFinset_card_of_nodup (Ranking.nodup_sorted.filter _), List.toFinset_filter, Ranking.toFinset_sorted]
    congr 1
    ext j
    simp
  rw [← List.map_take, List.mem_map, ← hkey, ← hcount]
  constructor
  · rintro ⟨key, htake, rfl⟩
    have hrank := hmem key (hperm.mem_iff.1 (List.mem_of_mem_take htake))
    rw [hrank]
    obtain ⟨hin, hlt⟩ := (Ranking.mem_take_iff hascending k).1 htake
    exact ⟨hperm.mem_iff.1 hin, hlt⟩
  · rintro ⟨hin, hlt⟩
    exact ⟨_, (Ranking.mem_take_iff hascending k).2 ⟨hperm.mem_iff.2 hin, hlt⟩, rfl⟩

variable {selected : Finset Nat}

/-- The ends stay, and of the other candidates those with fewer than the free places ranked before them. -/
theorem trim_ok (hlength : 2 ≤ windows.length) (hmaximum : 2 ≤ maximum) (hrequired : required windows ⊆ selected)
    (hpositions : ∀ i ∈ selected, i < windows.length) (hmean : mean_power sum power windows = .ok mean) :
    ∃ kept, trim sum power windows maximum selected = .ok kept ∧ (kept.card : Int) ≤ maximum ∧
      (∀ i ∈ kept, i < windows.length) ∧ ∀ i, i ∈ kept ↔ i ∈ required windows ∨
        i ∈ selected \ required windows ∧ ((ahead power windows selected mean i).card : Int) < maximum - 2 := by
  have hends := card_required hlength
  unfold trim
  split
  · rename_i hover
    have hin : ∀ i ∈ sorted (selected \ required windows), i < windows.length :=
      fun i hi => hpositions i (Finset.mem_sdiff.1 (Ranking.mem_sorted.1 hi)).1
    have hkeys := keys_ok power mean hin
    set ranked := ranking power windows mean (selected \ required windows) with hranked
    have hmem : ∀ {i : Nat}, i ∈ (ranked.take (maximum - (required windows).card).toNat).toFinset ↔
        i ∈ selected \ required windows ∧ ((ahead power windows selected mean i).card : Int) < maximum - 2 := by
      intro i
      rw [List.mem_toFinset, hranked, mem_take_ranking, hends]
      unfold ahead
      constructor
      · rintro ⟨hcandidate, hlt⟩
        exact ⟨hcandidate, by omega⟩
      · rintro ⟨hcandidate, hlt⟩
        exact ⟨hcandidate, by omega⟩
    refine ⟨required windows ∪ (ranked.take (maximum - (required windows).card).toNat).toFinset, ?_, ?_, ?_, ?_⟩
    · rw [hmean, ok_bind, hkeys, ok_bind]
      rfl
    · have hunion := Finset.card_union_le (required windows)
        (ranked.take (maximum - (required windows).card).toNat).toFinset
      have htaken := List.toFinset_card_le (ranked.take (maximum - (required windows).card).toNat)
      have htake := List.length_take_le (maximum - (required windows).card).toNat ranked
      omega
    · intro i hi
      rcases Finset.mem_union.1 hi with hend | htaken
      · exact hpositions i (hrequired hend)
      · exact hpositions i (Finset.mem_sdiff.1 (hmem.1 htaken).1).1
    · intro i
      rw [Finset.mem_union, hmem]
  · rename_i hfits
    refine ⟨selected, rfl, not_lt.1 hfits, hpositions, fun i => ?_⟩
    constructor
    · intro hi
      by_cases hend : i ∈ required windows
      · exact Or.inl hend
      · -- the candidate itself is not ranked before itself
        have hcandidate : i ∈ selected \ required windows := Finset.mem_sdiff.2 ⟨hi, hend⟩
        refine Or.inr ⟨hcandidate, ?_⟩
        have hfewer : (ahead power windows selected mean i).card < (selected \ required windows).card := by
          refine Finset.card_lt_card ((Finset.filter_ssubset).2 ⟨i, hcandidate, lt_irrefl _⟩)
        have hcard := Finset.card_sdiff_add_card_eq_card hrequired
        omega
    · rintro (hend | ⟨hcandidate, -⟩)
      · exact hrequired hend
      · exact (Finset.mem_sdiff.1 hcandidate).1

/-! ## The windows that are shown -/

section Shown

variable {kept : Finset Nat} {shown : List α}

theorem mem_shown (h : List.Forall₂ (fun i y => windows[i]? = some y) (sorted kept) shown) {w : α} :
    w ∈ shown ↔ ∃ i ∈ kept, windows[i]? = some w := by
  constructor
  · intro hw
    obtain ⟨i, hi, hread⟩ := Json.exists_mem_of_forall₂ h.flip hw
    exact ⟨i, Ranking.mem_sorted.1 hi, hread⟩
  · rintro ⟨i, hi, hread⟩
    obtain ⟨w', hw', hread'⟩ := Json.exists_mem_of_forall₂ h (Ranking.mem_sorted.2 hi)
    rw [hread, Option.some.injEq] at hread'
    rwa [hread']

/-- A window of some power is shown when its position is kept. -/
theorem shown_has (h : List.Forall₂ (fun i y => windows[i]? = some y) (sorted kept) shown)
    (hpositions : ∀ i ∈ kept, i < windows.length) {P : ℚ → Prop} :
    (∃ w ∈ shown, P (power w).value) ↔ ∃ i ∈ kept, P (powerAt power windows i) := by
  constructor
  · rintro ⟨w, hw, hP⟩
    obtain ⟨i, hi, hread⟩ := (mem_shown h).1 hw
    refine ⟨i, hi, ?_⟩
    rw [powerAt, hread]
    exact hP
  · rintro ⟨i, hi, hP⟩
    have hlt := hpositions i hi
    have hread : windows[i]? = some windows[i] := List.getElem?_eq_getElem hlt
    refine ⟨windows[i], (mem_shown h).2 ⟨i, hi, hread⟩, ?_⟩
    rw [powerAt, hread] at hP
    exact hP

theorem head_sorted (h : 0 ∈ kept) : (sorted kept).head? = some 0 := by
  have hmem := Ranking.mem_sorted.2 h
  have hascending := Ranking.sorted_ascending kept
  cases hsorted : sorted kept with
  | nil =>
    rw [hsorted] at hmem
    cases hmem
  | cons i is =>
    rw [hsorted] at hmem hascending
    rcases List.mem_cons.1 hmem with rfl | hin
    · rfl
    · exact absurd ((List.pairwise_cons.1 hascending).1 0 hin) (Nat.not_lt_zero i)

theorem getLast_sorted {last : Nat} (h : last ∈ kept) (hlast : ∀ i ∈ kept, i ≤ last) :
    (sorted kept).getLast? = some last := by
  have hmem := List.mem_reverse.2 (Ranking.mem_sorted.2 h)
  have hdescending := List.pairwise_reverse.2 (Ranking.sorted_ascending kept)
  rw [List.getLast?_eq_head?_reverse]
  cases hsorted : (sorted kept).reverse with
  | nil =>
    rw [hsorted] at hmem
    cases hmem
  | cons i is =>
    have hi : i ≤ last := by
      refine hlast i (Ranking.mem_sorted.1 (List.mem_reverse.1 ?_))
      rw [hsorted]
      exact List.mem_cons_self
    rw [hsorted] at hmem hdescending
    rcases List.mem_cons.1 hmem with rfl | hin
    · rfl
    · exact absurd ((List.pairwise_cons.1 hdescending).1 last hin) (not_lt.2 hi)

/-- The ends of what is shown are the ends of the list. -/
theorem shown_ends (h : List.Forall₂ (fun i y => windows[i]? = some y) (sorted kept) shown)
    (hrequired : required windows ⊆ kept) (hpositions : ∀ i ∈ kept, i < windows.length) :
    shown.head? = windows.head? ∧ shown.getLast? = windows.getLast? := by
  have hfirst := head_sorted (hrequired (mem_required.2 (Or.inl rfl)))
  have hlast := getLast_sorted (hrequired (mem_required.2 (Or.inr rfl))) fun i hi => by
    have hlt := hpositions i hi
    omega
  have hheads : ∀ {is : List Nat} {ys : List α} {i : Nat}, List.Forall₂ (fun i y => windows[i]? = some y) is ys →
      is.head? = some i → ys.head? = windows[i]? := by
    intro is ys i hall hhead
    cases hall with
    | nil => cases hhead
    | cons hread _ =>
      cases hhead
      exact hread.symm
  constructor
  · rw [hheads h hfirst, List.head?_eq_getElem?]
  · rw [List.getLast?_eq_head?_reverse] at hlast ⊢
    rw [hheads (List.rel_reverse h) hlast, List.getLast?_eq_getElem?]

end Shown

/-! ## The extremes -/

theorem distance_congr {p q : PyFloat} (hp : p.IsFinite) (hq : q.IsFinite) (h : p.value = q.value) :
    distance mean p = distance mean q := by
  have habs : (p.sub mean).abs = (q.sub mean).abs := by
    cases mean with
    | nan =>
      cases p <;> cases q <;> rfl
    | inf s =>
      cases p with
      | nan => exact hp.elim
      | inf => exact hp.elim
      | finite =>
        cases q with
        | nan => exact hq.elim
        | inf => exact hq.elim
        | finite => rfl
    | finite s m e hcanonical =>
      unfold PyFloat.sub
      rw [PyFloat.add_finite hp trivial, PyFloat.add_finite hq trivial, h]
      split <;> rfl
  unfold distance
  rw [habs]

/-- Of windows of the same power the first is ranked first. -/
theorem rankAt_le (mean : PyFloat) {j : Nat} (hfinite : ∀ w ∈ windows, (power w).IsFinite) (hi : i < windows.length)
    (hj : j < windows.length) (heq : powerAt power windows i = powerAt power windows j) (hle : i ≤ j) :
    rankAt power windows mean i ≤ rankAt power windows mean j := by
  have hdistance : distance mean (power windows[i]) = distance mean (power windows[j]) := by
    refine distance_congr (hfinite _ (List.getElem_mem hi)) (hfinite _ (List.getElem_mem hj)) ?_
    simpa only [powerAt, List.getElem?_eq_getElem hi, List.getElem?_eq_getElem hj, Option.map_some,
      Option.getD_some] using heq
  unfold rankAt rank
  rw [List.getElem?_eq_getElem hi, List.getElem?_eq_getElem hj, Option.map_some, Option.map_some, Option.getD_some,
    Option.getD_some, hdistance, Prod.Lex.toLex_le_toLex]
  exact Or.inr ⟨rfl, hle⟩

/-- Whether a window with the power of the first extreme is kept. -/
theorem kept_iff_secure {kept : Finset Nat} {a : Nat} (hfinite : ∀ w ∈ windows, (power w).IsFinite)
    (hselection : selection power windows maximum = .ok selected) (hmean : mean_power sum power windows = .ok mean)
    (ha : a ∈ selected) (hpositions : ∀ i ∈ selected, i < windows.length)
    (hfirst : ∀ i < windows.length, powerAt power windows i = powerAt power windows a → a ≤ i)
    (hkept : ∀ i, i ∈ kept ↔ i ∈ required windows ∨ i ∈ selected \ required windows ∧ ((ahead power windows selected mean i).card : Int) < maximum - 2) :
    (∃ i ∈ kept, powerAt power windows i = powerAt power windows a) ↔ Secure sum power windows maximum a := by
  constructor
  · rintro ⟨i, hi, heq⟩
    rcases (hkept i).1 hi with hend | ⟨hcandidate, hroom⟩
    · refine Or.inl ?_
      rcases mem_required.1 hend with rfl | rfl
      · exact Or.inl heq
      · exact Or.inr heq
    · -- whatever is ranked before the first extreme is ranked before this one
      have hlt := hpositions i (Finset.mem_sdiff.1 hcandidate).1
      have hle := rankAt_le mean hfinite (hpositions a ha) hlt heq.symm (hfirst i hlt heq)
      have hsub : ahead power windows selected mean a ⊆ ahead power windows selected mean i :=
        Finset.monotone_filter_right _ fun j _ hj => lt_of_lt_of_le hj hle
      have hcard := Finset.card_le_card hsub
      exact Or.inr ⟨selected, mean, hselection, hmean, by omega⟩
  · rintro ((hfirstEnd | hlastEnd) | ⟨selected', mean', hselection', hmean', hroom⟩)
    · exact ⟨0, (hkept 0).2 (Or.inl (mem_required.2 (Or.inl rfl))), hfirstEnd⟩
    · exact ⟨_, (hkept _).2 (Or.inl (mem_required.2 (Or.inr rfl))), hlastEnd⟩
    · rw [hselection] at hselection'
      rw [hmean] at hmean'
      cases hselection'
      cases hmean'
      refine ⟨a, (hkept a).2 ?_, rfl⟩
      by_cases hend : a ∈ required windows
      · exact Or.inl hend
      · exact Or.inr ⟨Finset.mem_sdiff.2 ⟨ha, hend⟩, hroom⟩

/-! ## The reduction -/

/-- A list within its bound is not reduced. -/
theorem keeps_whole (h : (windows.length : Int) ≤ maximum) : Keeps power windows maximum windows where
  count := h
  order := List.Sublist.refl _
  ends := fun _ => ⟨rfl, rfl⟩
  highest := by
    intro _ hne
    cases hbest : windows.argmax fun w => (power w).value with
    | none => exact absurd (List.argmax_eq_none.1 hbest) hne
    | some w => exact ⟨w, List.argmax_mem hbest, fun v hv => List.le_of_mem_argmax (f := fun w => (power w).value) hv hbest⟩
  lowest := by
    intro _ hne
    cases hbest : windows.argmin fun w => (power w).value with
    | none => exact absurd (List.argmin_eq_none.1 hbest) hne
    | some w => exact ⟨w, List.argmin_mem hbest, fun v hv => List.le_of_mem_argmin (f := fun w => (power w).value) hv hbest⟩

/-- A single window is the one of highest power. -/
theorem keeps_single : Keeps power windows 1 (windows.argmax fun w => (power w).value).toList where
  count := by
    cases windows.argmax fun w => (power w).value with
    | none => exact Int.zero_le_ofNat 1
    | some w => exact le_rfl
  order := by
    cases hbest : windows.argmax fun w => (power w).value with
    | none => exact List.nil_sublist _
    | some w => exact List.singleton_sublist.2 (List.argmax_mem hbest)
  ends := fun h => absurd h (by decide)
  highest := fun h => absurd h (by decide)
  lowest := fun h => absurd h (by decide)

theorem powerAt_of_mem (power : α → PyFloat) {v : α} (hv : v ∈ windows) : ∃ j < windows.length, powerAt power windows j = (power v).value := by
  obtain ⟨j, hj, rfl⟩ := List.getElem_of_mem hv
  refine ⟨j, hj, ?_⟩
  rw [powerAt, List.getElem?_eq_getElem hj]
  rfl

theorem mem_of_position (power : α → PyFloat) (hi : i < windows.length) : ∃ v ∈ windows, (power v).value = powerAt power windows i := by
  refine ⟨windows[i], List.getElem_mem hi, ?_⟩
  rw [powerAt, List.getElem?_eq_getElem hi]
  rfl

/-- A position has the highest power when it has the power of the first highest one. -/
theorem highest_iff {a : Nat} (ha : a ∈ highestAt power windows) (hi : i < windows.length) :
    (∀ v ∈ windows, (power v).value ≤ powerAt power windows i) ↔ powerAt power windows i = powerAt power windows a := by
  obtain ⟨hlt, hbest⟩ := highestAt_spec ha
  constructor
  · intro h
    obtain ⟨v, hv, hvalue⟩ := mem_of_position power hlt
    have hle := h v hv
    rw [hvalue] at hle
    exact le_antisymm (hbest i hi) hle
  · intro h v hv
    obtain ⟨j, hj, hvalue⟩ := powerAt_of_mem power hv
    rw [h, ← hvalue]
    exact hbest j hj

theorem lowest_iff {a : Nat} (ha : a ∈ lowestAt power windows) (hi : i < windows.length) :
    (∀ v ∈ windows, powerAt power windows i ≤ (power v).value) ↔ powerAt power windows i = powerAt power windows a := by
  obtain ⟨hlt, hbest⟩ := lowestAt_spec ha
  constructor
  · intro h
    obtain ⟨v, hv, hvalue⟩ := mem_of_position power hlt
    have hle := h v hv
    rw [hvalue] at hle
    exact le_antisymm hle (hbest i hi)
  · intro h v hv
    obtain ⟨j, hj, hvalue⟩ := powerAt_of_mem power hv
    rw [h, ← hvalue]
    exact hbest j hj

/-- What a bound of at least two that is too small for the list leaves. -/
theorem bounded_reduces (sum : List PyFloat → PyFloat) (power : α → PyFloat) (hsize : windows.length < 2 ^ 53) (hmaximum : 2 ≤ maximum)
    (hover : maximum < windows.length) : ∃ selected mean kept shown,
      selection power windows maximum = .ok selected ∧ extremes power windows maximum ⊆ selected ∧
      (∀ i ∈ selected, i < windows.length) ∧ mean_power sum power windows = .ok mean ∧
      bounded sum power windows maximum = .ok shown ∧ (kept.card : Int) ≤ maximum ∧
      (∀ i ∈ kept, i < windows.length) ∧
      List.Forall₂ (fun i y => windows[i]? = some y) (sorted kept) shown ∧
      ∀ i, i ∈ kept ↔ i ∈ required windows ∨
        i ∈ selected \ required windows ∧ ((ahead power windows selected mean i).card : Int) < maximum - 2 := by
  obtain ⟨selected, hselection, hextremes, hpositions⟩ :=
    selection_ok power (by omega) hsize hmaximum
  obtain ⟨mean, hmean⟩ := PyFloat.exists_divNat (sum (windows.map power)) (by omega) hsize
  have hrequired : required windows ⊆ selected := fun i hi => hextremes (mem_extremes.2 (Or.inl hi))
  obtain ⟨kept, htrim, hcard, hin, hkept⟩ := trim_ok (by omega) hmaximum hrequired hpositions hmean
  have hreads : ∀ i ∈ sorted kept, ∃ w, windowAt windows i = .ok w := by
    intro i hi
    have hlt := hin i (Ranking.mem_sorted.1 hi)
    exact ⟨windows[i], windowAt_ok.2 (List.getElem?_eq_getElem hlt)⟩
  obtain ⟨shown, hshown⟩ := exists_mapM_ok hreads
  refine ⟨selected, mean, kept, shown, hselection, hextremes, hpositions, hmean, ?_, hcard, hin,
    (mapM_ok.1 hshown).imp fun i w h => windowAt_ok.1 h, hkept⟩
  unfold bounded
  rw [if_neg (by omega), if_neg (by omega), hselection, ok_bind, htrim, ok_bind, hshown]

theorem required_of_selection (h : selection power windows maximum = .ok selected) :
    required windows ⊆ selected := by
  have hextremes : required windows ⊆ extremes power windows maximum := fun i hi => mem_extremes.2 (Or.inl hi)
  unfold selection at h
  dsimp only at h
  split at h
  · obtain ⟨spaced, -, h⟩ := bind_ok.1 h
    cases h
    exact hextremes.trans Finset.subset_union_left
  · cases h
    exact hextremes

theorem trim_cases {kept : Finset Nat} (h : trim sum power windows maximum selected = .ok kept) :
    kept = selected ∧ (selected.card : Int) ≤ maximum ∨
      ∃ taken : Finset Nat, kept = required windows ∪ taken ∧
        taken.card ≤ (maximum - (required windows).card).toNat := by
  unfold trim at h
  split at h
  · obtain ⟨mean, -, h⟩ := bind_ok.1 h
    obtain ⟨keys, -, h⟩ := bind_ok.1 h
    cases h
    exact Or.inr ⟨_, rfl, (List.toFinset_card_le _).trans (List.length_take_le _ _)⟩
  · rename_i hfits
    cases h
    exact Or.inl ⟨rfl, not_lt.1 hfits⟩

/-- The positions of a reduced list, whatever its bound. -/
theorem bounded_cases {shown : List α} (hover : maximum < windows.length) (hone : maximum ≠ 1)
    (hrun : bounded sum power windows maximum = .ok shown) :
    ∃ kept : Finset Nat, required windows ⊆ kept ∧ kept.card = shown.length ∧
      (2 ≤ maximum → (kept.card : Int) ≤ maximum) := by
  unfold bounded at hrun
  rw [if_neg (not_le.2 hover), if_neg hone] at hrun
  obtain ⟨selected, hselection, hrun⟩ := bind_ok.1 hrun
  obtain ⟨kept, htrim, hrun⟩ := bind_ok.1 hrun
  have hrequired := required_of_selection hselection
  refine ⟨kept, ?_, ?_, fun hmaximum => ?_⟩
  · rcases trim_cases htrim with ⟨rfl, -⟩ | ⟨taken, rfl, -⟩
    · exact hrequired
    · exact Finset.subset_union_left
  · rw [← Ranking.length_sorted, (mapM_ok.1 hrun).length_eq]
  · rcases trim_cases htrim with ⟨rfl, hfits⟩ | ⟨taken, rfl, htaken⟩
    · exact hfits
    · have hunion := Finset.card_union_le (required windows) taken
      have hends : (required windows).card ≤ 2 := Finset.card_le_two
      omega

/-- A window is shown of every list that has one. -/
theorem shown_ne_nil {shown : List α} (hne : windows ≠ []) (hrun : bounded sum power windows maximum = .ok shown) :
    shown ≠ [] := by
  by_cases hwhole : (windows.length : Int) ≤ maximum
  · unfold bounded at hrun
    rw [if_pos hwhole] at hrun
    cases hrun
    exact hne
  by_cases hone : maximum = 1
  · unfold bounded at hrun
    rw [if_neg hwhole, if_pos hone] at hrun
    cases hrun
    intro hnil
    rw [Option.toList_eq_nil_iff, List.argmax_eq_none] at hnil
    exact hne hnil
  obtain ⟨kept, hrequired, hcard, -⟩ := bounded_cases (not_le.1 hwhole) hone hrun
  rintro rfl
  have hempty : kept = ∅ := Finset.card_eq_zero.1 hcard
  rw [hempty] at hrequired
  exact Finset.notMem_empty 0 (hrequired (mem_required.2 (Or.inl rfl)))

/-- A positive bound is kept. -/
theorem length_shown_le {shown : List α} (hpos : 1 ≤ maximum) (hrun : bounded sum power windows maximum = .ok shown) :
    (shown.length : Int) ≤ maximum := by
  by_cases hwhole : (windows.length : Int) ≤ maximum
  · unfold bounded at hrun
    rw [if_pos hwhole] at hrun
    cases hrun
    exact hwhole
  by_cases hone : maximum = 1
  · unfold bounded at hrun
    rw [if_neg hwhole, if_pos hone] at hrun
    cases hrun
    rw [hone]
    exact keeps_single.count
  obtain ⟨kept, -, hcard, hfits⟩ := bounded_cases (not_le.1 hwhole) hone hrun
  rw [← hcard]
  exact hfits (by omega)

/-- A bound that is not positive is not kept: the ends stay. -/
theorem not_keeps {shown : List α} (hmaximum : maximum ≤ 0) (hover : maximum < windows.length)
    (hrun : bounded sum power windows maximum = .ok shown) : ¬Keeps power windows maximum shown := by
  intro hkeeps
  have hcount := hkeeps.count
  have hlength : shown.length = 0 := by omega
  refine shown_ne_nil ?_ hrun (List.length_eq_zero_iff.1 hlength)
  rintro rfl
  simp only [List.length_nil] at hover
  omega

/-- A reduction keeps what is declared exactly when no extreme is crowded out. -/
theorem bounded_keeps_iff (hfinite : ∀ w ∈ windows, (power w).IsFinite) (hsize : windows.length < 2 ^ 53) :
    (∃ shown, bounded sum power windows maximum = .ok shown ∧ Keeps power windows maximum shown) ↔
      KeepsWhen sum power windows maximum := by
  by_cases hwhole : (windows.length : Int) ≤ maximum
  · have hrun : bounded sum power windows maximum = .ok windows := if_pos hwhole
    exact ⟨fun _ => Or.inl hwhole, fun _ => ⟨windows, hrun, keeps_whole hwhole⟩⟩
  by_cases hone : maximum = 1
  · subst hone
    have hrun : bounded sum power windows 1 = .ok (windows.argmax fun w => (power w).value).toList := by
      unfold bounded
      rw [if_neg hwhole, if_pos rfl]
    exact ⟨fun _ => Or.inr (Or.inl rfl), fun _ => ⟨_, hrun, keeps_single⟩⟩
  by_cases hmaximum : 2 ≤ maximum
  · obtain ⟨selected, mean, kept, shown, hselection, hextremes, hpositions, hmean, hrun, hcard, hin, hshown, hkept⟩ :=
      bounded_reduces sum power hsize hmaximum (not_le.1 hwhole)
    have hne : windows ≠ [] := by
      rintro rfl
      exact hwhole (by simp; omega)
    have hrequired : required windows ⊆ kept := fun i hi => (hkept i).2 (Or.inl hi)
    have hlength : shown.length = kept.card := by rw [← hshown.length_eq, Ranking.length_sorted]
    -- the two extremes, position by position
    have hhighest : 3 ≤ maximum → ∀ a ∈ highestAt power windows,
        ((∃ w ∈ shown, ∀ v ∈ windows, (power v).value ≤ (power w).value) ↔ Secure sum power windows maximum a) := by
      intro h3 a ha
      rw [shown_has hshown hin (P := fun x => ∀ v ∈ windows, (power v).value ≤ x),
        ← kept_iff_secure hfinite hselection hmean (hextremes (mem_extremes.2 (Or.inr (Or.inl ⟨h3, ha⟩)))) hpositions
          (fun i hi heq => highestAt_first ha hi heq) hkept]
      exact exists_congr fun i => and_congr_right fun hi => highest_iff ha (hin i hi)
    have hlowest : 4 ≤ maximum → ∀ a ∈ lowestAt power windows,
        ((∃ w ∈ shown, ∀ v ∈ windows, (power w).value ≤ (power v).value) ↔ Secure sum power windows maximum a) := by
      intro h4 a ha
      rw [shown_has hshown hin (P := fun x => ∀ v ∈ windows, x ≤ (power v).value),
        ← kept_iff_secure hfinite hselection hmean (hextremes (mem_extremes.2 (Or.inr (Or.inr ⟨h4, ha⟩)))) hpositions
          (fun i hi heq => lowestAt_first ha hi heq) hkept]
      exact exists_congr fun i => and_congr_right fun hi => lowest_iff ha (hin i hi)
    constructor
    · rintro ⟨shown', hrun', hkeeps⟩
      rw [hrun] at hrun'
      cases hrun'
      exact Or.inr (Or.inr ⟨hmaximum, fun h3 a ha => (hhighest h3 a ha).1 (hkeeps.highest h3 hne),
        fun h4 a ha => (hlowest h4 a ha).1 (hkeeps.lowest h4 hne)⟩)
    · rintro (h | h | ⟨-, hhigh, hlow⟩)
      · exact absurd h hwhole
      · exact absurd h hone
      · refine ⟨shown, hrun, ?_⟩
        constructor
        · rw [hlength]
          exact hcard
        · exact Ranking.pick_sublist (Ranking.sorted_ascending kept) hshown
        · intro _
          exact shown_ends hshown hrequired hin
        · intro h3 _
          cases ha : highestAt power windows with
          | none =>
            have hnil := List.argmax_eq_none.1 ha
            rw [List.range_eq_nil, List.length_eq_zero_iff] at hnil
            exact absurd hnil hne
          | some a => exact (hhighest h3 a ha).2 (hhigh h3 a ha)
        · intro h4 _
          cases ha : lowestAt power windows with
          | none =>
            have hnil := List.argmin_eq_none.1 ha
            rw [List.range_eq_nil, List.length_eq_zero_iff] at hnil
            exact absurd hnil hne
          | some a => exact (hlowest h4 a ha).2 (hlow h4 a ha)
  · constructor
    · rintro ⟨shown, hrun, hkeeps⟩
      exact absurd hkeeps (not_keeps (by omega) (not_le.1 hwhole) hrun)
    · rintro (h | h | ⟨h, -⟩)
      · exact absurd h hwhole
      · exact absurd h hone
      · exact absurd h hmaximum

end Bounded

end FullDwell

end LeoFlow
