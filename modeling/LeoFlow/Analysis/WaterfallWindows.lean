import LeoFlow.Contracts.Validation
import LeoFlow.Core.Windows

/-!
# LeoFlow.Analysis.WaterfallWindows — the windows that a waterfall shows

`_selected_indices` and `_selected_window_starts` of `analysis/recording/waterfall.py`. The
candidates are the windows of all spans, one span after the other; the selected indices are
evenly spaced over them, and a walk over the spans turns each index into its start.
-/

namespace LeoFlow

namespace WaterfallWindows

/-- `_selected_indices` -/
def selectedIndices (candidate_count selected_count : Int) : Except PyError (List Int) :=
  if ¬(0 < selected_count ∧ selected_count ≤ candidate_count) then
    .error (.value "selected count must be within candidate count")
  else if selected_count = 1 then .ok [candidate_count / 2]
  else
    let denominator := selected_count - 1
    .ok ((pyRange 0 selected_count 1).map fun index =>
      (index * (candidate_count - 1) + denominator / 2) / denominator)

def invalidSpans : PyError := ⟨.analysis_input_error, "recording returned invalid contiguous RF spans"⟩

/-- The checks of the loop over the spans, and the start and the window count of each span with a window. -/
def spanWindows (segment_sample_count window_samples : Int) : Int → List (Int × Int) → Except PyError (List (Int × Int))
  | _, [] => .ok []
  | previous_stop, (start, stop) :: spans => do
    raiseIf (start < previous_stop ∨ ¬(0 ≤ start ∧ start < stop ∧ stop ≤ segment_sample_count)) invalidSpans
    let later ← spanWindows segment_sample_count window_samples stop spans
    let count := (stop - start) / window_samples
    return if count ≠ 0 then (start, count) :: later else later

/-- The `while` loop: the offset of the span that holds the index, and the spans from it on. -/
def advance (global_index : Int) : Int → List (Int × Int) → Except PyError (Int × List (Int × Int))
  | _, [] => .error ⟨.index_error, "list index out of range"⟩
  | offset, (start, count) :: spans =>
    if offset + count ≤ global_index then advance global_index (offset + count) spans
    else .ok (offset, (start, count) :: spans)

/-- The `for` loop over the selected indices. -/
def locate (window_samples : Int) : Int → List (Int × Int) → List Int → Except PyError (List Int)
  | _, _, [] => .ok []
  | offset, spans, global_index :: global_indices => do
    match ← advance global_index offset spans with
    | (offset, (span_start, count) :: spans) => do
      let later ← locate window_samples offset ((span_start, count) :: spans) global_indices
      return (span_start + (global_index - offset) * window_samples) :: later
    | (_, []) => .error ⟨.index_error, "list index out of range"⟩

/-- `_selected_window_starts`; `spans` is what the recording answers. -/
def selectedWindowStarts (segment_id : String) (spans : Except PyError (List (Int × Int)))
    (segment_sample_count window_samples maximum_windows : Int) : Except PyError (List Int) :=
  match spans with
  | .error _ => .error ⟨.analysis_input_error, "recording continuity read failed for " ++ segment_id⟩
  | .ok spans => do
    let span_windows ← spanWindows segment_sample_count window_samples 0 spans
    let candidate_count := (span_windows.map Prod.snd).sum
    if candidate_count = 0 then return []
    let selected_count := min maximum_windows candidate_count
    let global_indices ← selectedIndices candidate_count selected_count
    locate window_samples 0 span_windows global_indices

/-! ## Evenly spaced indices -/

section Indices

variable {candidate_count selected_count : Int}

/-- One index of several. -/
theorem index_lt_succ (hselected : 2 ≤ selected_count) (hle : selected_count ≤ candidate_count) {i j : Int}
    (hij : i < j) : (i * (candidate_count - 1) + (selected_count - 1) / 2) / (selected_count - 1) <
      (j * (candidate_count - 1) + (selected_count - 1) / 2) / (selected_count - 1) := by
  have hpos : 0 < selected_count - 1 := by omega
  have hstep : (i + 1) * (candidate_count - 1) ≤ j * (candidate_count - 1) :=
    Int.mul_le_mul_of_nonneg_right (by omega) (by omega)
  have hshift : (i * (candidate_count - 1) + (selected_count - 1) / 2) / (selected_count - 1) + 1 =
      (i * (candidate_count - 1) + (selected_count - 1) / 2 + (selected_count - 1)) / (selected_count - 1) := by
    rw [Int.add_ediv_of_dvd_right (Int.dvd_refl _), Int.ediv_self hpos.ne']
  have hmono : (i * (candidate_count - 1) + (selected_count - 1) / 2 + (selected_count - 1)) / (selected_count - 1) ≤
      (j * (candidate_count - 1) + (selected_count - 1) / 2) / (selected_count - 1) := by
    refine Int.ediv_le_ediv hpos ?_
    rw [Int.add_mul, Int.one_mul] at hstep
    omega
  omega

/-- The indices are distinct, ascending and within the candidates, and reach from the first to the last. -/
theorem selectedIndices_ok (hselected : 0 < selected_count) (hle : selected_count ≤ candidate_count) :
    ∃ indices, selectedIndices candidate_count selected_count = .ok indices ∧ (indices.length : Int) = selected_count ∧
      indices.Pairwise (· < ·) ∧ (∀ i ∈ indices, 0 ≤ i ∧ i < candidate_count) ∧
      (2 ≤ selected_count → 0 ∈ indices ∧ candidate_count - 1 ∈ indices) := by
  unfold selectedIndices
  rw [if_neg (not_not.2 ⟨hselected, hle⟩)]
  by_cases hone : selected_count = 1
  · rw [if_pos hone]
    refine ⟨_, rfl, by simp [hone], List.pairwise_singleton _ _, ?_, by omega⟩
    intro i hi
    rw [List.mem_singleton.1 hi]
    omega
  · rw [if_neg hone]
    have hpos : 0 < selected_count - 1 := by omega
    have hfirst : (0 * (candidate_count - 1) + (selected_count - 1) / 2) / (selected_count - 1) = 0 := by
      rw [Int.zero_mul, Int.zero_add]
      exact Int.ediv_eq_zero_of_lt (by omega) (by omega)
    have hlast : ((selected_count - 1) * (candidate_count - 1) + (selected_count - 1) / 2) / (selected_count - 1) =
        candidate_count - 1 := by
      rw [Int.mul_add_ediv_left _ _ hpos.ne', Int.ediv_eq_zero_of_lt (by omega) (by omega), Int.add_zero]
    refine ⟨_, rfl, ?_, ?_, ?_, fun _ => ⟨?_, ?_⟩⟩
    · rw [List.length_map]
      unfold pyRange
      rw [List.length_map, List.length_range]
      omega
    · exact List.pairwise_map.2 ((pairwise_pyRange _ _ Int.one_pos).imp fun hij => index_lt_succ (by omega) hle hij)
    · intro i hi
      rcases List.mem_map.1 hi with ⟨index, hindex, rfl⟩
      rcases mem_pyRange_one.1 hindex with ⟨hlow, hhigh⟩
      constructor
      · exact Int.ediv_nonneg (Int.add_nonneg (Int.mul_nonneg hlow (by omega)) (by omega)) hpos.le
      · rcases eq_or_lt_of_le (show index ≤ selected_count - 1 by omega) with rfl | hless
        · rw [hlast]
          omega
        · have hlt := index_lt_succ (by omega) hle hless
          rw [hlast] at hlt
          omega
    · exact List.mem_map.2 ⟨0, mem_pyRange_one.2 ⟨le_rfl, hselected⟩, hfirst⟩
    · exact List.mem_map.2 ⟨selected_count - 1, mem_pyRange_one.2 ⟨by omega, by omega⟩, hlast⟩

end Indices

/-! ## Candidates -/

section Candidates

variable {segment_sample_count window_samples : Int}

/-- The starts of the windows of spans with their counts. -/
def startsOf (window_samples : Int) (span_windows : List (Int × Int)) : List Int :=
  (span_windows.map fun span => (List.range span.2.toNat).map fun k : Nat => span.1 + k * window_samples).flatten

/-- The candidates: the windows of every span, on the grid of that span. -/
def candidates (window_samples : Int) (spans : List (Int × Int)) : List Int :=
  startsOf window_samples (spans.map fun span => (span.1, (span.2 - span.1) / window_samples))

/-- Spans in order, inside the segment. -/
def Contiguous (segment_sample_count : Int) : Int → List (Int × Int) → Prop
  | _, [] => True
  | previous_stop, (start, stop) :: spans =>
    previous_stop ≤ start ∧ 0 ≤ start ∧ start < stop ∧ stop ≤ segment_sample_count ∧
      Contiguous segment_sample_count stop spans

variable {spans span_windows : List (Int × Int)} {previous_stop offset : Int} {x : Int}

theorem mem_startsOf : x ∈ startsOf window_samples span_windows ↔
    ∃ span ∈ span_windows, ∃ k : Nat, (k : Int) < span.2 ∧ x = span.1 + k * window_samples := by
  unfold startsOf
  simp only [List.mem_flatten, List.mem_map]
  constructor
  · rintro ⟨_, ⟨span, hspan, rfl⟩, hx⟩
    rcases List.mem_map.1 hx with ⟨k, hk, rfl⟩
    exact ⟨span, hspan, k, by have := List.mem_range.1 hk; omega, rfl⟩
  · rintro ⟨span, hspan, k, hk, rfl⟩
    exact ⟨_, ⟨span, hspan, rfl⟩, List.mem_map.2 ⟨k, List.mem_range.2 (by omega), rfl⟩⟩

/-- The spans are refused when they are not contiguous, and otherwise their windows are counted. -/
theorem spanWindows_eq : (Contiguous segment_sample_count previous_stop spans →
      spanWindows segment_sample_count window_samples previous_stop spans =
        .ok ((spans.map fun span => (span.1, (span.2 - span.1) / window_samples)).filter fun span => span.2 ≠ 0)) ∧
    (¬Contiguous segment_sample_count previous_stop spans →
      spanWindows segment_sample_count window_samples previous_stop spans = .error invalidSpans) := by
  induction spans generalizing previous_stop with
  | nil => exact ⟨fun _ => rfl, fun h => absurd trivial h⟩
  | cons span spans ih =>
    rcases span with ⟨start, stop⟩
    have hrest := @ih stop
    by_cases hhead : start < previous_stop ∨ ¬(0 ≤ start ∧ start < stop ∧ stop ≤ segment_sample_count)
    · refine ⟨fun h => ?_, fun _ => ?_⟩
      · rcases h with ⟨h1, h2, h3, h4, _⟩
        exact absurd hhead (by omega)
      · unfold spanWindows raiseIf
        rw [if_pos hhead]
        rfl
    · have hok : raiseIf (start < previous_stop ∨ ¬(0 ≤ start ∧ start < stop ∧ stop ≤ segment_sample_count))
          invalidSpans = .ok () := raiseIf_ok.2 hhead
      refine ⟨fun h => ?_, fun h => ?_⟩
      · rcases h with ⟨_, _, _, _, hlater⟩
        unfold spanWindows
        rw [hok, hrest.1 hlater]
        show Except.ok _ = _
        rw [List.map_cons, List.filter_cons]
        by_cases hcount : (stop - start) / window_samples = 0
        · simp [hcount]
        · simp [hcount]
      · have hlater : ¬Contiguous segment_sample_count stop spans := by
          intro hlater
          rw [not_or, not_not] at hhead
          exact h ⟨by omega, hhead.2.1, hhead.2.2.1, hhead.2.2.2, hlater⟩
        unfold spanWindows
        rw [hok, hrest.2 hlater]
        rfl

/-- Spans without a window have no candidates. -/
theorem startsOf_filter : startsOf window_samples (span_windows.filter fun span => span.2 ≠ 0) =
    startsOf window_samples span_windows := by
  induction span_windows with
  | nil => rfl
  | cons span rest ih =>
    unfold startsOf at ih ⊢
    rw [List.filter_cons]
    by_cases hcount : span.2 = 0
    · simp only [hcount, ne_eq, not_true_eq_false, decide_false, Bool.false_eq_true, if_false, List.map_cons,
        List.flatten_cons]
      rw [ih]
      simp
    · simp only [hcount, ne_eq, not_false_eq_true, decide_true, if_true, List.map_cons, List.flatten_cons]
      rw [ih]

theorem length_startsOf (hcounts : ∀ span ∈ span_windows, 0 ≤ span.2) :
    ((startsOf window_samples span_windows).length : Int) = (span_windows.map Prod.snd).sum := by
  induction span_windows with
  | nil => rfl
  | cons span rest ih =>
    have hspan := hcounts span List.mem_cons_self
    have hrest := ih fun other hother => hcounts other (List.mem_cons_of_mem _ hother)
    unfold startsOf at hrest ⊢
    rw [List.map_cons, List.flatten_cons, List.length_append, List.length_map, List.length_range, List.map_cons,
      List.sum_cons]
    omega

/-- The candidates ascend from span to span. -/
theorem pairwise_candidates (hwindow : 0 < window_samples) (h : Contiguous segment_sample_count previous_stop spans) :
    (candidates window_samples spans).Pairwise (· < ·) ∧ ∀ x ∈ candidates window_samples spans, previous_stop ≤ x := by
  induction spans generalizing previous_stop with
  | nil => exact ⟨List.Pairwise.nil, by simp [candidates, startsOf]⟩
  | cons span spans ih =>
    rcases span with ⟨start, stop⟩
    rcases h with ⟨hprevious, hstart, hstop, hcount, hlater⟩
    rcases ih hlater with ⟨hsorted, hafter⟩
    have hhead : ∀ x ∈ (List.range ((stop - start) / window_samples).toNat).map (fun k : Nat => start + k * window_samples),
        start ≤ x ∧ x < stop := by
      intro x hx
      rcases List.mem_map.1 hx with ⟨k, hk, rfl⟩
      have hk := List.mem_range.1 hk
      have hmul : ((k : Int) + 1) * window_samples ≤ stop - start :=
        (Int.le_ediv_iff_mul_le hwindow).1 (by omega)
      have hnonneg : 0 ≤ (k : Int) * window_samples := Int.mul_nonneg (by omega) hwindow.le
      rw [Int.add_mul, Int.one_mul] at hmul
      omega
    have hcons : candidates window_samples ((start, stop) :: spans) =
        (List.range ((stop - start) / window_samples).toNat).map (fun k : Nat => start + k * window_samples) ++
          candidates window_samples spans := rfl
    rw [hcons]
    refine ⟨List.pairwise_append.2 ⟨?_, hsorted, ?_⟩, ?_⟩
    · refine List.pairwise_map.2 (List.pairwise_lt_range.imp ?_)
      intro i j hij
      have hmul : (i : Int) * window_samples < (j : Int) * window_samples :=
        Int.mul_lt_mul_of_pos_right (by omega) hwindow
      omega
    · intro x hx y hy
      have hx := hhead x hx
      have hy := hafter y hy
      omega
    · intro x hx
      rcases List.mem_append.1 hx with hx | hx
      · have hx := hhead x hx
        omega
      · have hx := hafter x hx
        omega

/-- A candidate is a window of one span, on its grid. -/
theorem mem_candidates (hwindow : 0 < window_samples) (hx : x ∈ candidates window_samples spans) :
    ∃ span ∈ spans, ∃ k : Nat, x = span.1 + k * window_samples ∧ x + window_samples ≤ span.2 := by
  rcases mem_startsOf.1 hx with ⟨counted, hcounted, k, hk, rfl⟩
  rcases List.mem_map.1 hcounted with ⟨span, hspan, rfl⟩
  have hmul : ((k : Int) + 1) * window_samples ≤ span.2 - span.1 := (Int.le_ediv_iff_mul_le hwindow).1 (by omega)
  rw [Int.add_mul, Int.one_mul] at hmul
  exact ⟨span, hspan, k, rfl, by simp only; omega⟩

end Candidates

/-! ## The walk over the spans -/

section Walk

variable {window_samples : Int} {all passed spans : List (Int × Int)} {global_index : Int}

theorem startsOf_append (passed spans : List (Int × Int)) :
    startsOf window_samples (passed ++ spans) = startsOf window_samples passed ++ startsOf window_samples spans := by
  unfold startsOf
  rw [List.map_append, List.flatten_append]

/-- The loop stops at the span whose windows hold the index, whatever was passed before. -/
theorem advance_ok (hsplit : all = passed ++ spans) (hlow : (passed.map Prod.snd).sum ≤ global_index)
    (hhigh : global_index < (all.map Prod.snd).sum) :
    ∃ before start count after, advance global_index (passed.map Prod.snd).sum spans =
        .ok ((before.map Prod.snd).sum, (start, count) :: after) ∧ all = before ++ (start, count) :: after ∧
      (before.map Prod.snd).sum ≤ global_index ∧ global_index < (before.map Prod.snd).sum + count := by
  induction spans generalizing passed with
  | nil =>
    rw [hsplit, List.append_nil] at hhigh
    omega
  | cons span spans ih =>
    rcases span with ⟨start, count⟩
    unfold advance
    by_cases hnext : (passed.map Prod.snd).sum + count ≤ global_index
    · have hsum : (passed.map Prod.snd).sum + count = ((passed ++ [(start, count)]).map Prod.snd).sum := by simp
      rw [if_pos hnext, hsum]
      have hsplit' : all = (passed ++ [(start, count)]) ++ spans := by rw [hsplit, List.append_assoc, List.singleton_append]
      exact ih hsplit' (by omega)
    · rw [if_neg hnext]
      exact ⟨passed, start, count, spans, rfl, hsplit, hlow, by omega⟩

/-- Inside the span that holds the index, the start on the grid is the candidate at the index. -/
theorem startsOf_at {before after : List (Int × Int)} {start count : Int} (hcounts : ∀ span ∈ before, 0 ≤ span.2)
    (hlow : (before.map Prod.snd).sum ≤ global_index) (hhigh : global_index < (before.map Prod.snd).sum + count) :
    (startsOf window_samples (before ++ (start, count) :: after)).getD global_index.toNat 0 =
      start + (global_index - (before.map Prod.snd).sum) * window_samples := by
  have hlength : ((startsOf window_samples before).length : Int) = (before.map Prod.snd).sum := length_startsOf hcounts
  have hcons : startsOf window_samples ((start, count) :: after) =
      (List.range count.toNat).map (fun k : Nat => start + k * window_samples) ++ startsOf window_samples after := rfl
  have hskip : (startsOf window_samples before).length ≤ global_index.toNat := by omega
  have hinside : global_index.toNat - (startsOf window_samples before).length < count.toNat := by omega
  rw [startsOf_append, hcons, List.getD_eq_getElem?_getD, List.getElem?_append_right hskip,
    List.getElem?_append_left (by rw [List.length_map, List.length_range]; exact hinside), List.getElem?_map,
    List.getElem?_range hinside]
  have hindex : ((global_index.toNat - (startsOf window_samples before).length : Nat) : Int) =
      global_index - (before.map Prod.snd).sum := by omega
  show start + _ * window_samples = _
  rw [hindex]

/-- The walk answers the candidate at each index. -/
theorem locate_ok {global_indices : List Int} (hcounts : ∀ span ∈ all, 0 ≤ span.2) (hsplit : all = passed ++ spans)
    (hascending : global_indices.Pairwise (· < ·))
    (hwithin : ∀ i ∈ global_indices, (passed.map Prod.snd).sum ≤ i ∧ i < (all.map Prod.snd).sum) :
    locate window_samples (passed.map Prod.snd).sum spans global_indices =
      .ok (global_indices.map fun i => (startsOf window_samples all).getD i.toNat 0) := by
  induction global_indices generalizing passed spans with
  | nil => rfl
  | cons global_index rest ih =>
    rcases List.pairwise_cons.1 hascending with ⟨hafter, hrest⟩
    rcases hwithin global_index List.mem_cons_self with ⟨hlow, hhigh⟩
    rcases advance_ok hsplit hlow hhigh with ⟨before, start, count, after, hadvance, hall, hbefore, hcount⟩
    have hlater := ih hall hrest fun i hi =>
      ⟨by have := hafter i hi; omega, (hwithin i (List.mem_cons_of_mem _ hi)).2⟩
    have hpassed : ∀ span ∈ before, 0 ≤ span.2 := fun span hspan =>
      hcounts span (hall ▸ List.mem_append_left _ hspan)
    have hstart : (startsOf window_samples (before ++ (start, count) :: after)).getD global_index.toNat 0 =
        start + (global_index - (before.map Prod.snd).sum) * window_samples := startsOf_at hpassed hbefore hcount
    unfold locate
    rw [hadvance]
    dsimp only [ok_bind]
    rw [hlater, List.map_cons, hall, hstart]
    rfl

end Walk

/-! ## Selected windows -/

section Selection

variable {segment_id : String} {segment_sample_count window_samples maximum_windows : Int} {spans : List (Int × Int)}

/-- What a selection of windows must be. -/
structure WellPlaced (window_samples maximum_windows : Int) (spans : List (Int × Int)) (starts : List Int) : Prop where
  increasing : starts.Pairwise (· < ·)
  on_grid : ∀ start ∈ starts, ∃ span ∈ spans, ∃ k : Nat,
    start = span.1 + k * window_samples ∧ start + window_samples ≤ span.2
  count : (starts.length : Int) = min maximum_windows (candidates window_samples spans).length
  ends : 2 ≤ starts.length → ∃ first ∈ starts, ∃ last ∈ starts,
    (candidates window_samples spans).head? = some first ∧ (candidates window_samples spans).getLast? = some last

theorem selectedWindowStarts_invalid (h : ¬Contiguous segment_sample_count 0 spans) :
    selectedWindowStarts segment_id (.ok spans) segment_sample_count window_samples maximum_windows =
      .error invalidSpans := by
  unfold selectedWindowStarts
  dsimp only
  rw [spanWindows_eq.2 h]
  rfl

theorem length_candidates (hwindow : 0 < window_samples) {previous_stop : Int}
    (h : Contiguous segment_sample_count previous_stop spans) :
    ((candidates window_samples spans).length : Int) =
      ((spans.map fun span => (span.1, (span.2 - span.1) / window_samples)).map Prod.snd).sum ∧
    ∀ span ∈ spans.map fun span => (span.1, (span.2 - span.1) / window_samples), 0 ≤ span.2 := by
  have hcounts : ∀ span ∈ spans.map fun span => (span.1, (span.2 - span.1) / window_samples), 0 ≤ span.2 := by
    intro counted hcounted
    rcases List.mem_map.1 hcounted with ⟨span, hspan, rfl⟩
    refine Int.ediv_nonneg ?_ hwindow.le
    clear hcounted
    induction spans generalizing previous_stop with
    | nil => nomatch hspan
    | cons head spans ih =>
      rcases h with ⟨_, _, hstop, _, hlater⟩
      rcases List.mem_cons.1 hspan with rfl | hspan
      · omega
      · exact ih hlater hspan
  exact ⟨length_startsOf hcounts, hcounts⟩

/-- Candidates at ascending indices, one of them the first and one the last when there are two. -/
theorem wellPlaced_map (hwindow : 0 < window_samples) (h : Contiguous segment_sample_count 0 spans) {indices : List Int}
    (hlength : (indices.length : Int) = min maximum_windows (candidates window_samples spans).length)
    (hascending : indices.Pairwise (· < ·))
    (hwithin : ∀ i ∈ indices, 0 ≤ i ∧ i < (candidates window_samples spans).length)
    (hends : 2 ≤ (indices.length : Int) → 0 ∈ indices ∧ ((candidates window_samples spans).length : Int) - 1 ∈ indices) :
    WellPlaced window_samples maximum_windows spans
      (indices.map fun i => (candidates window_samples spans).getD i.toNat 0) := by
  have hsorted := (pairwise_candidates hwindow h).1
  have hgetD : ∀ i : Int, (hi : 0 ≤ i ∧ i < (candidates window_samples spans).length) →
      ∃ hlt : i.toNat < (candidates window_samples spans).length,
        (candidates window_samples spans).getD i.toNat 0 = (candidates window_samples spans)[i.toNat] := by
    intro i hi
    have hlt : i.toNat < (candidates window_samples spans).length := by omega
    exact ⟨hlt, by rw [List.getD_eq_getElem?_getD, List.getElem?_eq_getElem hlt, Option.getD_some]⟩
  refine ⟨?_, ?_, ?_, ?_⟩
  · refine List.pairwise_map.2 (hascending.imp_of_mem ?_)
    intro i j hi hj hij
    rcases hgetD i (hwithin i hi) with ⟨hi', hgeti⟩
    rcases hgetD j (hwithin j hj) with ⟨hj', hgetj⟩
    rw [hgeti, hgetj]
    have := hwithin i hi
    exact List.pairwise_iff_getElem.1 hsorted _ _ hi' hj' (by omega)
  · intro start hstart
    rcases List.mem_map.1 hstart with ⟨i, hi, rfl⟩
    rcases hgetD i (hwithin i hi) with ⟨hi', hget⟩
    rw [hget]
    exact mem_candidates hwindow (List.getElem_mem hi')
  · rw [List.length_map]
    exact hlength
  · intro htwo
    rw [List.length_map] at htwo
    rcases hends (by omega) with ⟨hfirst, hlast⟩
    have hpos := (hwithin _ hfirst).2
    refine ⟨_, List.mem_map.2 ⟨_, hfirst, rfl⟩, _, List.mem_map.2 ⟨_, hlast, rfl⟩, ?_, ?_⟩
    · rcases hgetD 0 (hwithin _ hfirst) with ⟨hlt, hget⟩
      rw [hget, List.head?_eq_getElem?]
      exact List.getElem?_eq_getElem hlt
    · rcases hgetD _ (hwithin _ hlast) with ⟨hlt, hget⟩
      rw [hget, List.getLast?_eq_getElem?]
      have hindex : (candidates window_samples spans).length - 1 =
          (((candidates window_samples spans).length : Int) - 1).toNat := by omega
      rw [hindex]
      exact List.getElem?_eq_getElem hlt

/-- Contiguous spans always yield well placed windows. -/
theorem selectedWindowStarts_ok (hwindow : 0 < window_samples) (hmaximum : 0 < maximum_windows)
    (h : Contiguous segment_sample_count 0 spans) :
    ∃ starts, selectedWindowStarts segment_id (.ok spans) segment_sample_count window_samples maximum_windows =
      .ok starts ∧ WellPlaced window_samples maximum_windows spans starts := by
  let counted := spans.map fun span => (span.1, (span.2 - span.1) / window_samples)
  let kept := counted.filter fun span => span.2 ≠ 0
  have hkept : startsOf window_samples kept = candidates window_samples spans := startsOf_filter
  have hcounts : ∀ span ∈ kept, 0 ≤ span.2 := fun span hspan =>
    (length_candidates hwindow h).2 span (List.mem_of_mem_filter hspan)
  have hlength : ((candidates window_samples spans).length : Int) = (kept.map Prod.snd).sum := by
    rw [← hkept]
    exact length_startsOf hcounts
  unfold selectedWindowStarts
  dsimp only
  rw [spanWindows_eq.1 h]
  dsimp only [ok_bind]
  rw [← hlength]
  by_cases hnone : ((candidates window_samples spans).length : Int) = 0
  · rw [if_pos hnone]
    refine ⟨[], rfl, List.Pairwise.nil, nofun, ?_, nofun⟩
    rw [hnone, List.length_nil]
    omega
  · rw [if_neg hnone]
    rcases @selectedIndices_ok (candidates window_samples spans).length
      (min maximum_windows (candidates window_samples spans).length) (by omega) (by omega) with
      ⟨indices, hindices, hcount, hascending, hwithin, hends⟩
    have hlocate : locate window_samples 0 kept indices =
        .ok (indices.map fun i => (startsOf window_samples kept).getD i.toNat 0) :=
      @locate_ok window_samples kept [] kept indices hcounts rfl hascending (by rw [← hlength]; exact hwithin)
    rw [hindices]
    refine ⟨_, hlocate, ?_⟩
    rw [hkept]
    exact wellPlaced_map hwindow h hcount hascending hwithin (by rw [hcount]; exact hends)

/-- A selection that is returned comes from contiguous spans and is well placed. -/
theorem wellPlaced_of_ok (hwindow : 0 < window_samples) (hmaximum : 0 < maximum_windows)
    {answer : Except PyError (List (Int × Int))} {starts : List Int}
    (h : selectedWindowStarts segment_id answer segment_sample_count window_samples maximum_windows = .ok starts) :
    ∃ spans, answer = .ok spans ∧ Contiguous segment_sample_count 0 spans ∧
      WellPlaced window_samples maximum_windows spans starts := by
  cases answer with
  | error e => nomatch h
  | ok spans =>
    refine ⟨spans, rfl, ?_⟩
    by_cases hcontiguous : Contiguous segment_sample_count 0 spans
    · rcases @selectedWindowStarts_ok segment_id _ _ _ _ hwindow hmaximum hcontiguous with ⟨starts', hstarts, hplaced⟩
      rw [h] at hstarts
      rw [Except.ok.inj hstarts]
      exact ⟨hcontiguous, hplaced⟩
    · rw [selectedWindowStarts_invalid hcontiguous] at h
      nomatch h

end Selection

end WaterfallWindows

end LeoFlow
