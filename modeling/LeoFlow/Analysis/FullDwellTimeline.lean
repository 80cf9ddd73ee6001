import LeoFlow.Analysis.FullDwellWindows
import LeoFlow.Contracts.Capture
import LeoFlow.Contracts.Samples

/-!
# LeoFlow.Analysis.FullDwellTimeline — the budget of one timeline query

`recording_full_dwell_timeline` of the two queries of
`analysis/recording/starlink_full_dwell_timeline.py`, with the view of
`contracts/dashboard_full_dwell_timeline.py`. The query's bound is shared between the traces:
each gets its part of what is left, and at least one window.
-/

namespace LeoFlow

/-- `StarlinkEdge` -/
inductive StarlinkEdge where
  | lower
  | upper
deriving DecidableEq

namespace FullDwell

/-! ## Windows -/

/-- The fields that the window classes share. -/
structure Interval where
  window_index : Int
  start_sample : Int
  stop_sample : Int
  interval_start_utc_ns : Int
  interval_stop_utc_ns : Int
  mean_complex_power : PyFloat

/-- The checks that the window classes share, with their messages. -/
def Interval.post_init (w : Interval) (samples instants power : String) : Except PyError Unit :=
  checkAll [
    raiseIf (w.window_index < 0 ∨ w.start_sample < 0 ∨ w.stop_sample ≤ w.start_sample) (.value samples),
    requireUtcNs w.interval_start_utc_ns "interval_start_utc_ns",
    requireUtcNs w.interval_stop_utc_ns "interval_stop_utc_ns",
    raiseIf (w.interval_stop_utc_ns ≤ w.interval_start_utc_ns) (.value instants),
    requireFinite (.float w.mean_complex_power) "mean_complex_power",
    raiseIf (w.mean_complex_power.value < 0) (.value power)]

theorem Interval.finite {w : Interval} {samples instants power : String}
    (h : w.post_init samples instants power = .ok ()) : w.mean_complex_power.IsFinite := by
  simp only [post_init, checkAll_cons, requireFinite, raiseIf_ok] at h
  exact not_not.1 h.2.2.2.2.1

structure TimelineWindow.Fields where
  interval : Interval
  refinement_rank : Option Int

def TimelineWindow.Fields.post_init (w : TimelineWindow.Fields) : Except PyError Unit :=
  checkAll [
    w.interval.post_init "invalid timeline window" "invalid timeline UTC interval" "timeline power cannot be negative",
    raiseIf (∃ rank ∈ w.refinement_rank, rank < 0) (.value "timeline refinement rank cannot be negative")]

/-- `FullDwellTimelineWindowV0_1` of the prompt product -/
abbrev TimelineWindow := Checked TimelineWindow.Fields.post_init

/-- The attributes that a view takes of a window. -/
structure ViewWindow.Fields where
  interval : Interval
  selected_for_exact_refinement : Bool

def TimelineWindow.toView (w : TimelineWindow) : ViewWindow.Fields := ⟨w.val.interval, w.val.refinement_rank.isSome⟩

def TimelineWindow.power (w : TimelineWindow) : PyFloat := w.val.interval.mean_complex_power

def PrescreenWindow.post_init (w : ViewWindow.Fields) : Except PyError Unit :=
  w.interval.post_init "invalid full-dwell prescreen interval" "invalid full-dwell prescreen UTC interval"
    "prescreen power cannot be negative"

/-- `StarlinkFullDwellPrescreenWindowV0_1` -/
abbrev PrescreenWindow := Checked PrescreenWindow.post_init

def PrescreenWindow.power (w : PrescreenWindow) : PyFloat := w.val.interval.mean_complex_power

def ViewWindow.Fields.post_init (w : ViewWindow.Fields) : Except PyError Unit :=
  w.interval.post_init "invalid full-dwell timeline interval" "invalid full-dwell timeline UTC interval"
    "full-dwell timeline power cannot be negative"

/-- `FullDwellTimelineWindowV0_1` of the dashboard -/
abbrev ViewWindow := Checked ViewWindow.Fields.post_init

theorem TimelineWindow.finite (w : TimelineWindow) : w.power.IsFinite := by
  have hok := w.ok
  simp only [Fields.post_init, checkAll_cons] at hok
  exact Interval.finite hok.1

theorem PrescreenWindow.finite (w : PrescreenWindow) : w.power.IsFinite := Interval.finite w.ok

/-! ## Products -/

/-- What the streams of both products tell about themselves. -/
structure StreamHead where
  radio_id : RadioId
  segment_id : SegmentId
  receiver_chain_id : ReceiverChainId
  channel_number : Int
  edge : StarlinkEdge
  sample_rate_hz : PyFloat
  segment_sample_count : Int

/-- `FullDwellTimelineStreamV0_1` of the prompt product -/
structure TimelineStream where
  head : StreamHead
  windows : List TimelineWindow
  coverage_fraction : PyFloat

/-- `StarlinkFullDwellStreamResponseV0_1` -/
structure ResponseStream where
  head : StreamHead
  prescreen_windows : List PrescreenWindow
  prescreen_coverage_fraction : PyFloat
  exact_coverage_fraction : PyFloat

/-- What a view takes of the bundle itself, and of the reference to it. -/
structure BundleHead where
  recording_id : RecordingId
  analysis_ref : ArtifactRef
  warnings : List PyStr

/-- `FullDwellTimelineBundleV0_1` -/
structure TimelineBundle where
  head : BundleHead
  tile_sample_count : Int
  streams : List TimelineStream

/-- `StarlinkFullDwellResponseBundleV0_1` -/
structure ResponseBundle where
  head : BundleHead
  coarse_window_sample_count : Int
  coarse_stride_samples : Int
  streams : List ResponseStream

/-! ## Query and view -/

def MAXIMUM_FULL_DWELL_TIMELINE_WINDOWS : Int := 16384

structure TimelineQuery.Fields where
  recording_id : RecordingId
  radio_ids : List RadioId
  receiver_chain_ids : List ReceiverChainId
  edges : List StarlinkEdge
  maximum_windows : Int

def TimelineQuery.Fields.post_init (q : TimelineQuery.Fields) : Except PyError Unit :=
  checkAll [
    raiseIf (¬q.radio_ids.Nodup) (.value "full-dwell timeline radios must be unique"),
    raiseIf (¬q.receiver_chain_ids.Nodup) (.value "full-dwell timeline receivers must be unique"),
    raiseIf (¬q.edges.Nodup) (.value "full-dwell timeline edges must be unique"),
    raiseIf (¬(1 ≤ q.maximum_windows ∧ q.maximum_windows ≤ MAXIMUM_FULL_DWELL_TIMELINE_WINDOWS))
      (.value "full-dwell timeline window bound is invalid")]

/-- `FullDwellTimelineQueryV0_1` -/
abbrev TimelineQuery := Checked TimelineQuery.Fields.post_init

/-- The filter of both queries. -/
@[reducible] def TimelineQuery.Selects (query : TimelineQuery) (stream : StreamHead) : Prop :=
  (query.val.radio_ids = [] ∨ stream.radio_id ∈ query.val.radio_ids) ∧
    (query.val.receiver_chain_ids = [] ∨ stream.receiver_chain_id ∈ query.val.receiver_chain_ids) ∧
    (query.val.edges = [] ∨ stream.edge ∈ query.val.edges)

structure ViewStream.Fields where
  head : StreamHead
  original_window_count : Int
  prescreen_coverage_fraction : PyFloat
  exact_coverage_fraction : PyFloat
  windows : List ViewWindow

def ViewStream.Fields.post_init (s : ViewStream.Fields) : Except PyError Unit :=
  checkAll [
    raiseIf (s.head.channel_number ∉ [1, 2, 3, 4]) (.value "timeline channel must be one of 1,2,3,4"),
    requireFinite (.float s.head.sample_rate_hz) "sample_rate_hz",
    raiseIf (s.head.sample_rate_hz.value ≤ 0 ∨ s.head.segment_sample_count ≤ 0)
      (.value "timeline stream geometry is invalid"),
    raiseIf (s.original_window_count < s.windows.length) (.value "timeline original window count is invalid"),
    raiseIf (¬(s.prescreen_coverage_fraction.IsFinite ∧ s.prescreen_coverage_fraction.value = 1))
      (.value "timeline must identify complete prescreen coverage"),
    raiseIf (¬(s.exact_coverage_fraction.IsFinite ∧ 0 < s.exact_coverage_fraction.value ∧
      s.exact_coverage_fraction.value ≤ 1)) (.value "timeline exact coverage fraction is invalid"),
    raiseIf (¬(s.windows.map fun w => w.val.interval.window_index).Pairwise (· < ·))
      (.value "timeline windows must be canonical")]

/-- `FullDwellTimelineStreamV0_1` of the dashboard -/
abbrev ViewStream := Checked ViewStream.Fields.post_init

structure TimelineView.Fields where
  recording_id : RecordingId
  analysis_ref : ArtifactRef
  prescreen_window_samples : Int
  prescreen_stride_samples : Int
  streams : List ViewStream
  original_window_count : Nat
  returned_window_count : Nat
  truncated : Bool
  decimation : PyStr
  warnings : List PyStr

/-- The windows over all traces. -/
def windowCount (streams : List ViewStream) : Nat := (streams.map fun stream => stream.val.windows.length).sum

def requiredWarnings : List PyStr :=
  [str "prescreen-window-union-covers-full-dwell", str "power-prescreen-is-not-starlink-detection",
    str "exact-detector-windows-are-selected-not-full-coverage"]

def TimelineView.Fields.post_init (v : TimelineView.Fields) : Except PyError Unit :=
  checkAll [
    raiseIf (v.prescreen_window_samples ≤ 0 ∨ v.prescreen_stride_samples ≤ 0) (.value "timeline plan geometry is invalid"),
    raiseIf (v.original_window_count < v.returned_window_count) (.value "timeline returned count exceeds original count"),
    raiseIf (v.returned_window_count ≠ windowCount v.streams) (.value "timeline returned count is inconsistent"),
    raiseIf (v.truncated ≠ decide (v.returned_window_count < v.original_window_count))
      (.value "timeline truncation state is inconsistent"),
    raiseIf (¬∀ warning ∈ requiredWarnings, warning ∈ v.warnings) (.value "timeline disclosures are incomplete")]

/-- `RecordingFullDwellTimelineViewV0_1`, whose schema and claim of candidates only are constants -/
abbrev TimelineView := Checked TimelineView.Fields.post_init

/-! ## The two queries -/

section Queries

variable (sum : List PyFloat → PyFloat)

def _bounded_windows (windows : List PrescreenWindow) (maximum : Int) : Except PyError (List PrescreenWindow) :=
  bounded sum PrescreenWindow.power windows maximum

def _bounded_prompt_windows (windows : List TimelineWindow) (maximum : Int) : Except PyError (List TimelineWindow) :=
  bounded sum TimelineWindow.power windows maximum

/-- The traces of the selected streams, each with its part of the windows that remain. -/
def showStreams {σ ω : Type} (reduce : σ → Int → Except PyError (List ω)) (view : σ → List ω → Except PyError ViewStream) :
    List σ → Int → Except PyError (List ViewStream)
  | [], _ => .ok []
  | stream :: rest, remaining => do
    let budget := max 1 (remaining / (rest.length + 1))
    let shown ← reduce stream budget
    let trace ← view stream shown
    let traces ← showStreams reduce view rest (remaining - shown.length)
    pure (trace :: traces)

/-- `tuple(dict.fromkeys(warnings))` -/
def distinct (warnings : List PyStr) : List PyStr :=
  warnings.foldl (fun seen warning => if warning ∈ seen then seen else seen ++ [warning]) []

/-- The view of the traces. -/
def viewOf (head : BundleHead) (window_samples stride_samples : Int) (traces : List ViewStream) (original : Nat)
    (warnings : List PyStr) : Except PyError TimelineView :=
  let shown_count := windowCount traces
  Checked.make TimelineView.Fields.post_init
    ⟨head.recording_id, head.analysis_ref, window_samples, stride_samples, traces, original, shown_count,
      decide (shown_count < original),
      if shown_count = original then str "none" else str "endpoints-global-extrema-even-time", distinct warnings⟩

/-- One trace of the prompt product. -/
def timelineTrace (stream : TimelineStream) (shown : List TimelineWindow) : Except PyError ViewStream := do
  let exact_samples := ((stream.windows.filter fun w => w.val.refinement_rank.isSome).map fun w =>
    w.val.interval.stop_sample - w.val.interval.start_sample).sum
  let exact ← Num.div (.int exact_samples) (.int stream.head.segment_sample_count)
  let exact_fraction ← Num.toFloat exact
  let windows ← shown.mapM fun w => Checked.make ViewWindow.Fields.post_init w.toView
  Checked.make ViewStream.Fields.post_init
    ⟨stream.head, stream.windows.length, stream.coverage_fraction, exact_fraction, windows⟩

/-- One trace of the response product. -/
def responseTrace (stream : ResponseStream) (shown : List PrescreenWindow) : Except PyError ViewStream := do
  let windows ← shown.mapM fun w => Checked.make ViewWindow.Fields.post_init w.val
  Checked.make ViewStream.Fields.post_init
    ⟨stream.head, stream.prescreen_windows.length, stream.prescreen_coverage_fraction, stream.exact_coverage_fraction,
      windows⟩

def timelineSelected (bundle : TimelineBundle) (query : TimelineQuery) : List TimelineStream :=
  bundle.streams.filter fun stream => decide (query.Selects stream.head)

def responseSelected (bundle : ResponseBundle) (query : TimelineQuery) : List ResponseStream :=
  bundle.streams.filter fun stream => decide (query.Selects stream.head)

def notFound (message : String) : PyError := ⟨.starlink_full_dwell_not_found_error, message⟩

/-- `DurableRecordingPromptFullDwellTimelineQueryV0_1.recording_full_dwell_timeline`, for the latest bundle of the store -/
def promptTimeline (latest : Option TimelineBundle) (query : TimelineQuery) : Except PyError TimelineView :=
  match latest with
  | none => .error (notFound "recording has no prompt timeline")
  | some bundle => do
    let selected := timelineSelected bundle query
    let original := (selected.map fun stream => stream.windows.length).sum
    let traces ← showStreams (fun stream budget => _bounded_prompt_windows sum stream.windows budget) timelineTrace selected
      query.val.maximum_windows
    viewOf bundle.head bundle.tile_sample_count bundle.tile_sample_count traces original
      (bundle.head.warnings ++ requiredWarnings ++ [str "prompt-base-product-independent-of-exact-overlay"])

/-- `DurableRecordingFullDwellTimelineQueryV0_1.recording_full_dwell_timeline`, for the latest bundle of the store -/
def responseTimeline (latest : Option ResponseBundle) (query : TimelineQuery) : Except PyError TimelineView :=
  match latest with
  | none => .error (notFound "recording has no full-dwell product")
  | some bundle => do
    let selected := responseSelected bundle query
    let original := (selected.map fun stream => stream.prescreen_windows.length).sum
    let traces ← showStreams (fun stream budget => _bounded_windows sum stream.prescreen_windows budget) responseTrace selected
      query.val.maximum_windows
    viewOf bundle.head bundle.coarse_window_sample_count bundle.coarse_stride_samples traces original
      (bundle.head.warnings ++ [str "power-prescreen-is-not-starlink-detection"])

end Queries

/-! ## The budget -/

variable {traces : List ViewStream}

section Budget

variable {sum : List PyFloat → PyFloat} {σ ω : Type} {windowsOf : σ → List ω} {power : ω → PyFloat}
  {view : σ → List ω → Except PyError ViewStream}

/-- The streams that have a window to show. -/
def occupied (windowsOf : σ → List ω) (selected : List σ) : Nat :=
  (selected.filter fun stream => decide ((windowsOf stream).length ≠ 0)).length

theorem occupied_cons (stream : σ) (rest : List σ) :
    occupied windowsOf (stream :: rest) = occupied windowsOf rest + if (windowsOf stream).length ≠ 0 then 1 else 0 := by
  unfold occupied
  rw [List.filter_cons]
  by_cases h : (windowsOf stream).length ≠ 0
  · rw [if_pos (decide_eq_true h), if_pos h, List.length_cons]
  · rw [if_neg (by simpa using h), if_neg h, Nat.add_zero]

theorem occupied_le (selected : List σ) : occupied windowsOf selected ≤ selected.length := List.length_filter_le _ _

/-- One trace shows what its reduced list has. -/
theorem showStreams_cons {stream : σ} {rest : List σ} {remaining : Int}
    (hview : ∀ stream shown trace, view stream shown = .ok trace → trace.val.windows.length = shown.length)
    (hrun : showStreams (fun stream budget => bounded sum power (windowsOf stream) budget) view (stream :: rest) remaining = .ok traces) :
    ∃ count traces', windowCount traces = count + windowCount traces' ∧
      (count : Int) ≤ max 1 (remaining / (rest.length + 1)) ∧ (count = 0 ↔ (windowsOf stream).length = 0) ∧
      showStreams (fun stream budget => bounded sum power (windowsOf stream) budget) view rest (remaining - count) =
        .ok traces' := by
  unfold showStreams at hrun
  obtain ⟨shown, hshown, hrun⟩ := bind_ok.1 hrun
  obtain ⟨trace, htrace, hrun⟩ := bind_ok.1 hrun
  obtain ⟨traces', htraces, hrun⟩ := bind_ok.1 hrun
  cases hrun
  refine ⟨shown.length, traces', ?_, length_shown_le (le_max_left _ _) hshown, ?_, htraces⟩
  · rw [windowCount, List.map_cons, List.sum_cons, hview stream shown trace htrace]
    rfl
  · constructor
    · intro hnone
      by_contra hwindows
      refine shown_ne_nil ?_ hshown (List.length_eq_zero_iff.1 hnone)
      intro hnil
      exact hwindows (List.length_eq_zero_iff.2 hnil)
    · intro hnone
      -- an empty list is within every budget
      have hbudget : (((windowsOf stream).length : Nat) : Int) ≤ max 1 (remaining / (rest.length + 1)) := by
        rw [hnone]
        exact (by decide : (0 : Int) ≤ 1).trans (le_max_left _ _)
      unfold bounded at hshown
      rw [if_pos hbudget] at hshown
      cases hshown
      exact hnone

/-- Every occupied stream shows a window, and where they are not too many the bound is kept. -/
theorem showStreams_bounds
    (hview : ∀ stream shown trace, view stream shown = .ok trace → trace.val.windows.length = shown.length)
    {selected : List σ} {remaining : Int}
    (hrun : showStreams (fun stream budget => bounded sum power (windowsOf stream) budget) view selected remaining = .ok traces) :
    occupied windowsOf selected ≤ windowCount traces ∧
      ((occupied windowsOf selected : Int) ≤ remaining → (windowCount traces : Int) ≤ remaining) := by
  induction selected generalizing remaining traces with
  | nil =>
    cases hrun
    exact ⟨le_rfl, fun h => h⟩
  | cons stream rest ih =>
    obtain ⟨count, traces', hcount, hbudget, hempty, hrest⟩ := showStreams_cons hview hrun
    obtain ⟨hshown, hkept⟩ := ih hrest
    have hoccupied : occupied windowsOf rest ≤ rest.length := occupied_le rest
    rw [occupied_cons, hcount]
    constructor
    · split
      · rename_i hwindows
        have hpositive : count ≠ 0 := fun h => hwindows (hempty.1 h)
        omega
      · omega
    · intro hroom
      suffices hleft : (occupied windowsOf rest : Int) ≤ remaining - count by
        have hwithin := hkept hleft
        push_cast
        omega
      split at hroom
      · -- the part of a trace leaves one window for each of the others
        by_cases hpart : remaining / (rest.length + 1) ≤ 1
        · rw [max_eq_left hpart] at hbudget
          push_cast at hroom
          omega
        · rw [max_eq_right (by omega)] at hbudget
          have hmul := Int.mul_ediv_self_le (x := remaining) (k := rest.length + 1) (by omega)
          have hothers : (rest.length : Int) ≤ rest.length * (remaining / (rest.length + 1)) :=
            le_mul_of_one_le_right (Int.natCast_nonneg _) (by omega)
          rw [add_mul, one_mul] at hmul
          omega
      · rename_i hwindows
        have hnone : count = 0 := hempty.2 (not_not.1 hwindows)
        push_cast at hroom
        omega

/-- The bound of the query is kept exactly when no more streams than it allows have windows. -/
theorem showStreams_within_iff
    (hview : ∀ stream shown trace, view stream shown = .ok trace → trace.val.windows.length = shown.length)
    {selected : List σ} {maximum : Int}
    (hrun : showStreams (fun stream budget => bounded sum power (windowsOf stream) budget) view selected maximum = .ok traces) :
    (windowCount traces : Int) ≤ maximum ↔ (occupied windowsOf selected : Int) ≤ maximum := by
  obtain ⟨hshown, hkept⟩ := showStreams_bounds hview hrun
  exact ⟨fun h => le_trans (by exact_mod_cast hshown) h, hkept⟩

end Budget

section Views

variable {sum : List PyFloat → PyFloat}

theorem length_timelineTrace (stream : TimelineStream) (shown : List TimelineWindow) (trace : ViewStream)
    (h : timelineTrace stream shown = .ok trace) : trace.val.windows.length = shown.length := by
  obtain ⟨exact, -, h⟩ := bind_ok.1 h
  obtain ⟨fraction, -, h⟩ := bind_ok.1 h
  obtain ⟨windows, hwindows, h⟩ := bind_ok.1 h
  rw [Checked.val_of_make h]
  exact (mapM_ok.1 hwindows).length_eq.symm

theorem length_responseTrace (stream : ResponseStream) (shown : List PrescreenWindow) (trace : ViewStream)
    (h : responseTrace stream shown = .ok trace) : trace.val.windows.length = shown.length := by
  obtain ⟨windows, hwindows, h⟩ := bind_ok.1 h
  rw [Checked.val_of_make h]
  exact (mapM_ok.1 hwindows).length_eq.symm

variable {result : TimelineView}

theorem streams_viewOf {head : BundleHead} {window_samples stride_samples : Int} {original : Nat}
    {warnings : List PyStr} (h : viewOf head window_samples stride_samples traces original warnings = .ok result) : result.val.streams = traces := by
  rw [Checked.val_of_make h]

theorem promptTimeline_within_iff {bundle : TimelineBundle} {query : TimelineQuery}
    (hrun : promptTimeline sum (some bundle) query = .ok result) :
    (windowCount result.val.streams : Int) ≤ query.val.maximum_windows ↔
      (occupied TimelineStream.windows (timelineSelected bundle query) : Int) ≤ query.val.maximum_windows := by
  obtain ⟨traces, htraces, hview⟩ := bind_ok.1 hrun
  rw [streams_viewOf hview]
  exact showStreams_within_iff length_timelineTrace htraces

theorem responseTimeline_within_iff {bundle : ResponseBundle} {query : TimelineQuery}
    (hrun : responseTimeline sum (some bundle) query = .ok result) :
    (windowCount result.val.streams : Int) ≤ query.val.maximum_windows ↔
      (occupied ResponseStream.prescreen_windows (responseSelected bundle query) : Int) ≤ query.val.maximum_windows := by
  obtain ⟨traces, htraces, hview⟩ := bind_ok.1 hrun
  rw [streams_viewOf hview]
  exact showStreams_within_iff length_responseTrace htraces

end Views

/-- `sum` before Python 3.12 -/
def exampleSum (powers : List PyFloat) : PyFloat := powers.foldl PyFloat.add (PyFloat.zero false)

/-- A tile of ten samples. -/
def exampleTile (index : Nat) (power : Fin 11) : Interval :=
  ⟨index, 10 * index, 10 * index + 10, 10 * index, 10 * index + 10, PyFloat.ofRatio false power 1⟩

theorem exampleTile_ok (index : Nat) (power : Fin 11) (samples instants negative : String) :
    (exampleTile index power).post_init samples instants negative = .ok () := by
  have hpower : ∀ power : Fin 11, (PyFloat.ofRatio false power 1).IsFinite ∧ ¬(PyFloat.ofRatio false power 1).value < 0 := by
    decide +kernel
  simp only [Interval.post_init, checkAll_cons, checkAll_nil, raiseIf_ok, requireUtcNs, requireFinite, not_not, and_true]
  refine ⟨?_, ?_, ?_, ?_, (hpower power).1, (hpower power).2⟩
  all_goals
    dsimp only [exampleTile]
    omega

/-- The second window is the lowest. -/
def examplePowers : List (Fin 11) := [10, 4, 5, 10, 5, 10, 5, 5, 5]

def examplePrescreen : List PrescreenWindow :=
  examplePowers.zipIdx.map fun x => ⟨⟨exampleTile x.2 x.1, decide (x.2 = 0)⟩, exampleTile_ok _ _ _ _ _⟩

def exampleTimeline : List TimelineWindow :=
  examplePowers.zipIdx.map fun x => ⟨⟨exampleTile x.2 x.1, if x.2 = 0 then some 0 else none⟩, by
    simp only [TimelineWindow.Fields.post_init, exampleTile_ok, checkAll_cons, checkAll_nil, raiseIf_ok, and_true, true_and]
    split <;> simp⟩

def exampleHead (receiver_chain_id : ReceiverChainId) : StreamHead :=
  ⟨Sample.radio_a, Sample.seg_a, receiver_chain_id, 4, .lower,
    PyFloat.ofRatio false 1000 1, 90⟩

def exampleHeads : List StreamHead :=
  [exampleHead Sample.rx_a, exampleHead Sample.rx_b]

def exampleBundleHead : BundleHead :=
  ⟨Sample.rec_a, ⟨str "fdtl_a", Sample.zeros, none, by decide⟩,
    requiredWarnings⟩

def exampleTimelineBundle : TimelineBundle :=
  ⟨exampleBundleHead, 10, exampleHeads.map fun head => ⟨head, exampleTimeline, PyFloat.ofRatio false 1 1⟩⟩

def exampleResponseBundle : ResponseBundle :=
  ⟨exampleBundleHead, 10, 10, exampleHeads.map fun head =>
    ⟨head, examplePrescreen, PyFloat.ofRatio false 1 1, PyFloat.ofRatio false 1 9⟩⟩

/-- One window is asked for. -/
def exampleQuery : TimelineQuery := ⟨⟨Sample.rec_a, [], [], [], 1⟩, by decide⟩

theorem exampleTimeline_shown : ∃ result, promptTimeline exampleSum (some exampleTimelineBundle) exampleQuery = .ok result := by
  have hok : (promptTimeline exampleSum (some exampleTimelineBundle) exampleQuery).toOption.isSome = true := by
    decide +kernel
  obtain ⟨result, hresult⟩ := Option.isSome_iff_exists.1 hok
  exact ⟨result, mem_toOption.1 hresult⟩

theorem exampleResponse_shown : ∃ result, responseTimeline exampleSum (some exampleResponseBundle) exampleQuery = .ok result := by
  have hok : (responseTimeline exampleSum (some exampleResponseBundle) exampleQuery).toOption.isSome = true := by
    decide +kernel
  obtain ⟨result, hresult⟩ := Option.isSome_iff_exists.1 hok
  exact ⟨result, mem_toOption.1 hresult⟩

end FullDwell

end LeoFlow
