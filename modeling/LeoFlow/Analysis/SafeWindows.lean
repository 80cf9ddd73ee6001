import LeoFlow.Core.Windows
import LeoFlow.Contracts.ContinuitySpans

/-!
# LeoFlow.Analysis.SafeWindows — analysis windows inside contiguous spans

`SegmentContinuity.safe_windows` (`contracts/continuity.py`), and the same starts as the recording analysis computes
them from the spans (`analysis/recording/api.py`). Both are the windows of `Core.Windows`, span by span.
-/

namespace LeoFlow

structure SafeSampleWindow.Fields where
  start_sample : Int
  stop_sample : Int
deriving DecidableEq

def SafeSampleWindow.Fields.post_init (w : SafeSampleWindow.Fields) : Except PyError Unit :=
  raiseIf (¬(0 ≤ w.start_sample ∧ w.start_sample < w.stop_sample)) (.value "safe sample window must be non-empty")

/-- `SafeSampleWindow` -/
abbrev SafeSampleWindow := Checked SafeSampleWindow.Fields.post_init

/-- The starts of `safe_windows` in one span that is long enough. -/
def spanWindowStarts (start_sample stop_sample window_samples stride_samples : Int) : Except PyError (List Int) := do
  let starts := pyRange start_sample (stop_sample - window_samples + 1) stride_samples
  let last := stop_sample - window_samples
  let final ← tupleAt starts (-1)
  if final ≠ last then return starts ++ [last] else return starts

/-- The body of the loop of `safe_windows`. -/
def spanWindows (window_samples stride_samples : Int) (span : ContiguousRfSpan) :
    Except PyError (List SafeSampleWindow) :=
  if span.val.stop_sample - span.val.start_sample < window_samples then .ok []
  else do
    let starts ← spanWindowStarts span.val.start_sample span.val.stop_sample window_samples stride_samples
    starts.mapM fun start => Checked.make SafeSampleWindow.Fields.post_init ⟨start, start + window_samples⟩

/-- `SegmentContinuity.safe_windows`; the arguments are `int`, not `bool`. -/
def SegmentContinuity.safe_windows (c : SegmentContinuity) (window_samples stride_samples : Int) :
    Except PyError (List SafeSampleWindow) :=
  if window_samples ≤ 0 ∨ stride_samples ≤ 0 then
    .error (.value "window and stride samples must be positive integers")
  else do
    let spans ← contiguous_rf_spans c
    let windows ← spans.mapM (spanWindows window_samples stride_samples)
    return windows.flatten

/-- `window_starts` -/
def window_starts (sample_count window stride : Int) : Except PyError (List Int) :=
  if sample_count < window then .ok []
  else do
    let starts := pyRange 0 (sample_count - window + 1) stride
    let last := sample_count - window
    let final ← tupleAt starts (-1)
    if final ≠ last then return starts ++ [last] else return starts

/-- `safe_window_starts` -/
def safe_window_starts (spans : List (Int × Int)) (window stride : Int) : Except PyError (List Int) := do
  let starts ← spans.mapM fun span => do
    let relative ← window_starts (span.2 - span.1) window stride
    return relative.map (span.1 + ·)
  return starts.flatten

/-- `_safe_analysis_spans` of verified evidence -/
def safeAnalysisSpans (c : SegmentContinuity) : Except PyError (List (Int × Int)) :=
  c.contiguous_rf_spans.map fun spans => spans.map fun span => (span.val.start_sample, span.val.stop_sample)

/-! ## Windows of one span -/

/-- The windows of the spans, as `Core.Windows` has them. -/
def startsIn (window stride : Int) (start stop : Int) : List Int :=
  if stop - start < window then [] else windowStarts start stop window stride

section Starts

variable {window stride : Int} (hwindow : 0 < window) (hstride : 0 < stride)
include hstride

/-- The code looks at the last start only. -/
theorem spanWindowStarts_ok {start stop : Int} (hfits : window ≤ stop - start) :
    spanWindowStarts start stop window stride = .ok (windowStarts start stop window stride) := by
  unfold spanWindowStarts windowStarts
  simp only
  have hstart : start ∈ pyRange start (stop - window + 1) stride :=
    (mem_pyRange hstride).2 ⟨0, by omega, by omega⟩
  rcases hlast : (pyRange start (stop - window + 1) stride).getLast? with - | final
  · rw [List.getLast?_eq_none_iff.1 hlast] at hstart
    cases hstart
  · rw [tupleAt_last hlast]
    have hiff := getLast_pyRange_eq_iff hstride hlast
    by_cases hfinal : final = stop - window
    · rw [if_pos (hiff.1 hfinal)]
      refine bind_ok.2 ⟨final, rfl, ?_⟩
      rw [if_neg (not_not.2 hfinal)]
      rfl
    · rw [if_neg (fun h => hfinal (hiff.2 h))]
      refine bind_ok.2 ⟨final, rfl, ?_⟩
      rw [if_pos hfinal]
      rfl

omit hstride in
/-- Starts relative to a span are starts from zero. -/
theorem pyRange_add (start stop step : Int) :
    (pyRange 0 (stop - start) step).map (start + ·) = pyRange start stop step := by
  unfold pyRange
  rw [List.map_map, show stop - start - 0 + step - 1 = stop - start + step - 1 by omega]
  refine List.map_congr_left ?_
  intro i _
  simp only [Function.comp_apply]
  omega

omit hstride in
theorem windowStarts_add (start stop window stride : Int) :
    (windowStarts 0 (stop - start) window stride).map (start + ·) = windowStarts start stop window stride := by
  have hrange : (pyRange 0 (stop - start - window + 1) stride).map (start + ·) =
      pyRange start (stop - window + 1) stride := by
    have hadd := pyRange_add start (stop - window + 1) stride
    rw [show stop - window + 1 - start = stop - start - window + 1 by omega] at hadd
    exact hadd
  have hmem : stop - start - window ∈ pyRange 0 (stop - start - window + 1) stride ↔
      stop - window ∈ pyRange start (stop - window + 1) stride := by
    rw [← hrange, List.mem_map]
    constructor
    · intro h
      exact ⟨_, h, by omega⟩
    · rintro ⟨y, hy, heq⟩
      have hsame : stop - start - window = y := by omega
      exact hsame ▸ hy
  unfold windowStarts
  simp only
  by_cases h : stop - window ∈ pyRange start (stop - window + 1) stride
  · rw [if_pos h, if_pos (hmem.2 h), hrange]
  · rw [if_neg h, if_neg (fun h' => h (hmem.1 h')), List.map_append, hrange, List.map_singleton]
    congr 2
    omega

/-- The recording analysis starts its windows where `safe_windows` does. -/
theorem safe_window_starts_ok (spans : List (Int × Int)) :
    safe_window_starts spans window stride =
      .ok (spans.map fun span => startsIn window stride span.1 span.2).flatten := by
  have hone : ∀ span : Int × Int, (do
      let relative ← window_starts (span.2 - span.1) window stride
      return relative.map (span.1 + ·) : Except PyError (List Int)) = .ok (startsIn window stride span.1 span.2) := by
    rintro ⟨start, stop⟩
    unfold window_starts startsIn
    by_cases hshort : stop - start < window
    · rw [if_pos hshort, if_pos hshort]
      rfl
    · have hstarts : spanWindowStarts 0 (stop - start) window stride =
          .ok (windowStarts 0 (stop - start) window stride) := spanWindowStarts_ok hstride (by omega)
      rw [if_neg hshort, if_neg hshort, ← windowStarts_add]
      refine bind_ok.2 ⟨_, hstarts, rfl⟩
  unfold safe_window_starts
  refine bind_ok.2 ⟨_, mapM_ok.2 ?_, rfl⟩
  rw [List.forall₂_map_right_iff, List.forall₂_same]
  intro span _
  exact hone span

include hwindow

/-- The windows of one span have the starts of the library, and the window's length. -/
theorem spanWindows_ok (span : ContiguousRfSpan) :
    ∃ windows, spanWindows window stride span = .ok windows ∧
      windows.map (·.val.start_sample) = startsIn window stride span.val.start_sample span.val.stop_sample ∧
      ∀ w ∈ windows, w.val.stop_sample = w.val.start_sample + window := by
  have hspan := span.ok
  simp only [ContiguousRfSpan.Fields.post_init, checkAll_cons, raiseIf_ok, not_not] at hspan
  unfold spanWindows startsIn
  by_cases hshort : span.val.stop_sample - span.val.start_sample < window
  · rw [if_pos hshort, if_pos hshort]
    exact ⟨[], rfl, rfl, fun _ hw => (by cases hw)⟩
  · rw [if_neg hshort, if_neg hshort]
    have hmake : ∀ start ∈ windowStarts span.val.start_sample span.val.stop_sample window stride,
        ∃ w : SafeSampleWindow, Checked.make SafeSampleWindow.Fields.post_init ⟨start, start + window⟩ = .ok w := by
      intro start hstart
      rcases mem_windowStarts hstride (by omega) hstart with ⟨hge, _⟩
      refine ⟨⟨_, ?_⟩, Checked.make_ok ?_⟩ <;>
        · simp only [SafeSampleWindow.Fields.post_init, raiseIf_ok, not_not]
          omega
    rcases exists_mapM_ok hmake with ⟨windows, hwindows⟩
    refine ⟨windows, bind_ok.2 ⟨_, spanWindowStarts_ok hstride (by omega), hwindows⟩, ?_, ?_⟩
    · have hall := mapM_ok.1 hwindows
      rw [← List.forall₂_eq_eq_eq, List.forall₂_map_left_iff]
      refine hall.flip.imp ?_
      intro w start hw
      rw [Checked.val_of_make hw]
    · intro w hw
      rcases List.mem_iff_getElem.1 hw with ⟨i, hi, rfl⟩
      have hall := mapM_ok.1 hwindows
      have hval := Checked.val_of_make (hall.get (by rw [hall.length_eq]; exact hi) hi)
      simp only [List.get_eq_getElem] at hval
      rw [hval]

end Starts

/-! ## Windows of all spans -/

variable {spans : List ContiguousRfSpan}

/-- Members of an ordered list of spans are the same, or one stops before the other starts. -/
theorem span_cases (h : spans.Pairwise fun a b => a.val.stop_sample ≤ b.val.start_sample) {a b : ContiguousRfSpan}
    (ha : a ∈ spans) (hb : b ∈ spans) :
    a = b ∨ a.val.stop_sample ≤ b.val.start_sample ∨ b.val.stop_sample ≤ a.val.start_sample := by
  induction spans with
  | nil => cases ha
  | cons s spans ih =>
    rw [List.pairwise_cons] at h
    rcases List.mem_cons.1 ha with rfl | ha' <;> rcases List.mem_cons.1 hb with rfl | hb'
    · exact Or.inl rfl
    · exact Or.inr (Or.inl (h.1 b hb'))
    · exact Or.inr (Or.inr (h.1 a ha'))
    · exact ih h.2 ha' hb'

/-- The window lies in the span. -/
def SafeSampleWindow.Inside (w : SafeSampleWindow) (s : ContiguousRfSpan) : Prop :=
  s.val.start_sample ≤ w.val.start_sample ∧ w.val.stop_sample ≤ s.val.stop_sample

/-- Windows of one length in the spans: no window straddles a gap, and none of what a window can reach is skipped. -/
structure WindowsOf (spans : List ContiguousRfSpan) (window stride : Int) (windows : List SafeSampleWindow) :
    Prop where
  length : ∀ w ∈ windows, w.val.stop_sample - w.val.start_sample = window
  inside : ∀ w ∈ windows, ∃! s, s ∈ spans ∧ w.Inside s
  increasing : (windows.map (·.val.start_sample)).Pairwise (· < ·)
  tail : ∀ s ∈ spans, window ≤ s.val.stop_sample - s.val.start_sample →
    ∃ w ∈ windows, w.Inside s ∧ w.val.stop_sample = s.val.stop_sample ∧
      ∀ w' ∈ windows, w'.Inside s → w'.val.start_sample ≤ w.val.start_sample
  covered : stride ≤ window → ∀ s ∈ spans, window ≤ s.val.stop_sample - s.val.start_sample →
    ∀ x, s.val.start_sample ≤ x → x < s.val.stop_sample →
      ∃ w ∈ windows, w.val.start_sample ≤ x ∧ x < w.val.stop_sample

/-- Windows with the starts of the library, span by span, are as they should be. -/
theorem windowsOf_of_starts (hordered : spans.Pairwise fun a b => a.val.stop_sample ≤ b.val.start_sample)
    {window stride : Int} (hwindow : 0 < window) (hstride : 0 < stride) {windows : List SafeSampleWindow}
    (hstarts : windows.map (·.val.start_sample) = (spans.map fun s => startsIn window stride s.val.start_sample s.val.stop_sample).flatten)
    (hlength : ∀ w ∈ windows, w.val.stop_sample = w.val.start_sample + window) :
    WindowsOf spans window stride windows := by
  -- a start of a span leaves room for the window in it
  have hroom : ∀ s : ContiguousRfSpan, ∀ x ∈ startsIn window stride s.val.start_sample s.val.stop_sample,
      s.val.start_sample ≤ x ∧ x + window ≤ s.val.stop_sample := by
    intro s x hx
    unfold startsIn at hx
    split at hx
    · cases hx
    · exact mem_windowStarts hstride (by omega) hx
  -- a start of a long enough span is the start of a window
  have hwindowAt : ∀ s ∈ spans, window ≤ s.val.stop_sample - s.val.start_sample →
      ∀ x ∈ windowStarts s.val.start_sample s.val.stop_sample window stride,
        ∃ w ∈ windows, w.val.start_sample = x := by
    intro s hs hfits x hx
    have hmem : x ∈ windows.map (·.val.start_sample) := by
      rw [hstarts]
      refine List.mem_flatten.2 ⟨_, List.mem_map.2 ⟨s, hs, rfl⟩, ?_⟩
      unfold startsIn
      rw [if_neg (by omega)]
      exact hx
    exact List.mem_map.1 hmem
  constructor
  · intro w hw
    have hstop := hlength w hw
    omega
  · intro w hw
    have hmem : w.val.start_sample ∈ windows.map (·.val.start_sample) := List.mem_map.2 ⟨w, hw, rfl⟩
    rw [hstarts] at hmem
    rcases List.mem_flatten.1 hmem with ⟨starts, hlist, hx⟩
    rcases List.mem_map.1 hlist with ⟨s, hs, rfl⟩
    rcases hroom s _ hx with ⟨hge, hle⟩
    have hstop := hlength w hw
    refine ⟨s, ⟨hs, hge, by omega⟩, ?_⟩
    rintro s' ⟨hs', hge', hle'⟩
    rcases span_cases hordered hs' hs with rfl | hcase | hcase
    · rfl
    · omega
    · omega
  · rw [hstarts, List.pairwise_flatten]
    constructor
    · intro starts hlist
      rcases List.mem_map.1 hlist with ⟨s, _, rfl⟩
      unfold startsIn
      split
      · exact List.Pairwise.nil
      · exact pairwise_windowStarts hstride
    · refine List.pairwise_map.2 (hordered.imp ?_)
      intro s s' hle x hx y hy
      have hfirst := hroom s x hx
      have hsecond := hroom s' y hy
      omega
  · intro s hs hfits
    rcases hwindowAt s hs hfits _ last_mem_windowStarts with ⟨w, hw, hstart⟩
    have hstop := hlength w hw
    refine ⟨w, hw, ⟨by omega, by omega⟩, by omega, ?_⟩
    rintro w' hw' ⟨_, hle⟩
    have hstop' := hlength w' hw'
    omega
  · intro hshort s hs hfits x hge hlt
    rcases windowStarts_cover hstride hshort hge hlt with ⟨y, hy, hle, hreach⟩
    rcases hwindowAt s hs hfits y hy with ⟨w, hw, rfl⟩
    have hstop := hlength w hw
    exact ⟨w, hw, hle, by omega⟩

namespace SegmentContinuity

theorem safe_windows_ok (c : SegmentContinuity) {window stride : Int} (hwindow : 0 < window) (hstride : 0 < stride)
    (hspans : contiguous_rf_spans c = .ok spans) :
    ∃ windows, safe_windows c window stride = .ok windows ∧
      windows.map (·.val.start_sample) =
        (spans.map fun s => startsIn window stride s.val.start_sample s.val.stop_sample).flatten ∧
      ∀ w ∈ windows, w.val.stop_sample = w.val.start_sample + window := by
  have hexists : ∀ s ∈ spans, ∃ ws, spanWindows window stride s = .ok ws := by
    intro s _
    exact (spanWindows_ok hwindow hstride s).imp fun _ h => h.1
  rcases exists_mapM_ok hexists with ⟨lists, hlists⟩
  have hall := mapM_ok.1 hlists
  have hone : List.Forall₂ (fun s ws => ws.map (·.val.start_sample) =
      startsIn window stride s.val.start_sample s.val.stop_sample ∧
        ∀ w ∈ ws, w.val.stop_sample = w.val.start_sample + window) spans lists := by
    refine hall.imp ?_
    intro s ws hws
    rcases spanWindows_ok hwindow hstride s with ⟨ws', hws', hstarts, hlength⟩
    rw [hws] at hws'
    cases hws'
    exact ⟨hstarts, hlength⟩
  refine ⟨lists.flatten, ?_, ?_, ?_⟩
  · unfold safe_windows
    rw [if_neg (by omega)]
    exact bind_ok.2 ⟨spans, hspans, bind_ok.2 ⟨lists, hlists, rfl⟩⟩
  · rw [List.map_flatten]
    congr 1
    rw [← List.forall₂_eq_eq_eq, List.forall₂_map_left_iff, List.forall₂_map_right_iff]
    exact hone.flip.imp fun ws s h => h.1
  · intro w hw
    rcases List.mem_flatten.1 hw with ⟨ws, hws, hmem⟩
    rcases List.mem_iff_getElem.1 hws with ⟨i, hi, rfl⟩
    exact (hone.get (by rw [hone.length_eq]; exact hi) hi).2 w hmem

/-- Of verified evidence, the windows do not straddle a gap and skip nothing they can reach, and the recording
analysis starts its windows at the same samples; without verified evidence there are no windows. -/
theorem safe_windows_of_verified (c : SegmentContinuity) {window stride : Int} (hwindow : 0 < window)
    (hstride : 0 < stride) :
    (IsVerified c → ∃ spans windows, contiguous_rf_spans c = .ok spans ∧ safe_windows c window stride = .ok windows ∧
      WindowsOf spans window stride windows ∧
      safeAnalysisSpans c = .ok (spans.map fun s => (s.val.start_sample, s.val.stop_sample)) ∧
      safe_window_starts (spans.map fun s => (s.val.start_sample, s.val.stop_sample)) window stride =
        .ok (windows.map (·.val.start_sample))) ∧
      (¬IsVerified c →
        safe_windows c window stride = .error (.value "unverified recording has no proven RF spans")) := by
  constructor
  · intro hverified
    rcases c.partitioned hverified with ⟨spans, hspans, hpartitioned⟩
    rcases c.safe_windows_ok hwindow hstride hspans with ⟨windows, hwindows, hstarts, hlength⟩
    refine ⟨spans, windows, hspans, hwindows,
      windowsOf_of_starts hpartitioned.ordered hwindow hstride hstarts hlength, ?_, ?_⟩
    · unfold safeAnalysisSpans
      rw [hspans]
      rfl
    · rw [safe_window_starts_ok hstride, List.map_map, hstarts]
      rfl
  · intro hnot
    unfold safe_windows contiguous_rf_spans
    rw [if_neg (by omega), if_pos hnot]
    rfl

/-- Windows of three samples, every two samples, over eight samples, a gap, and four more. -/
theorem safe_windows_gapped :
    ∃ c, from_refills exampleChains exampleProvenance exampleRefills = .ok c ∧
      ∃ spans windows, contiguous_rf_spans c = .ok spans ∧ safe_windows c 3 2 = .ok windows ∧
        WindowsOf spans 3 2 windows := by
  rcases exampleRefills_accepted with ⟨c, hfrom, _⟩
  have hverified : IsVerified c := (from_refills_ok hfrom).2.2 (List.cons_ne_nil _ _)
  have hwindow : (0 : Int) < 3 := by decide
  have hstride : (0 : Int) < 2 := by decide
  rcases (safe_windows_of_verified c hwindow hstride).1 hverified with ⟨spans, windows, hspans, hwindows, hof, _⟩
  exact ⟨c, hfrom, spans, windows, hspans, hwindows, hof⟩

/-- A valid segment without evidence has no windows. -/
theorem unverified_has_no_windows :
    ∃ c : SegmentContinuity, ∀ windows, safe_windows c 1 1 ≠ .ok windows := by
  have hnot : ¬IsVerified noEvidence := fun h => h rfl
  refine ⟨noEvidence, ?_⟩
  intro windows h
  unfold safe_windows contiguous_rf_spans at h
  rw [if_neg (by decide), if_pos hnot] at h
  cases h

end SegmentContinuity

end LeoFlow
