import LeoFlow.Contracts.Capture
import LeoFlow.Core.FloatArith
import LeoFlow.Core.SortedSets
import LeoFlow.Core.Windows

/-!
# LeoFlow.Analysis.AdaptiveRefinement — the windows of an adaptive time search

`analysis/recording/starlink_adaptive_refinement.py`, with the contracts of
`contracts/starlink_adaptive_refinement.py`. Fixed sentinels and power seeds give the base windows;
around the base windows that score highest for a pattern the search is refined, with the same quota
for every pattern.
-/

namespace LeoFlow

namespace AdaptiveRefinement

def MAXIMUM_ADAPTIVE_PATTERNS : Nat := 33

def MAXIMUM_ADAPTIVE_BASE_WINDOWS : Int := 128

def MAXIMUM_ADAPTIVE_WINDOWS : Int := 512

/-! ## Contracts -/

/-- `AdaptiveWindowStage` -/
inductive Stage where
  | base
  | local
deriving DecidableEq

structure Plan.Fields where
  probe_sample_count : Int
  sentinel_stride_samples : Int
  local_radius_samples : Int
  local_stride_samples : Int
  candidate_centers_per_pattern : Int
  maximum_power_seeds : Int
  maximum_base_windows : Int
  maximum_exact_windows : Int
  base_selection : PyStr
  follow_up_selection : PyStr

def Plan.Fields.post_init (p : Plan.Fields) : Except PyError Unit :=
  checkAll [
    raiseIf (p.probe_sample_count ≤ 0) (.value "probe_sample_count must be a positive integer"),
    raiseIf (p.sentinel_stride_samples ≤ 0) (.value "sentinel_stride_samples must be a positive integer"),
    raiseIf (p.local_radius_samples ≤ 0) (.value "local_radius_samples must be a positive integer"),
    raiseIf (p.local_stride_samples ≤ 0) (.value "local_stride_samples must be a positive integer"),
    raiseIf (p.candidate_centers_per_pattern ≤ 0) (.value "candidate_centers_per_pattern must be a positive integer"),
    raiseIf (p.maximum_power_seeds ≤ 0) (.value "maximum_power_seeds must be a positive integer"),
    raiseIf (p.maximum_base_windows ≤ 0) (.value "maximum_base_windows must be a positive integer"),
    raiseIf (p.maximum_exact_windows ≤ 0) (.value "maximum_exact_windows must be a positive integer"),
    raiseIf (p.local_radius_samples < p.local_stride_samples) (.value "local stride cannot exceed the follow-up radius"),
    raiseIf (MAXIMUM_ADAPTIVE_BASE_WINDOWS < p.maximum_base_windows) (.value "adaptive base-window bound is too large"),
    raiseIf (¬(p.maximum_base_windows ≤ p.maximum_exact_windows ∧ p.maximum_exact_windows ≤ MAXIMUM_ADAPTIVE_WINDOWS))
      (.value "adaptive exact-window bound is invalid"),
    raiseIf (p.base_selection ≠ str "fixed-sentinels-plus-pattern-blind-power-seeds") (.value "unsupported adaptive base selection"),
    raiseIf (p.follow_up_selection ≠ str "equal-top-score-quota-per-pattern-then-search-pattern-union")
      (.value "unsupported adaptive follow-up selection")]

/-- `StarlinkAdaptiveRefinementPlanV0_1` -/
abbrev Plan := Checked Plan.Fields.post_init

structure BaseWindow.Fields where
  start_sample : Int
  stop_sample : Int
  selection_reasons : List PyStr
  power_seed_ranks : List Int

def BaseWindow.Fields.post_init (w : BaseWindow.Fields) : Except PyError Unit :=
  checkAll [
    raiseIf (w.start_sample < 0 ∨ w.stop_sample ≤ w.start_sample) (.value "adaptive base window geometry is invalid"),
    raiseIf (w.selection_reasons = [] ∨ w.selection_reasons ≠ sortedSet w.selection_reasons)
      (.value "adaptive base reasons must be canonical"),
    raiseIf (w.power_seed_ranks ≠ sortedSet w.power_seed_ranks) (.value "adaptive power ranks must be canonical"),
    raiseIf (∃ rank ∈ w.power_seed_ranks, rank < 0) (.value "adaptive power rank cannot be negative")]

/-- `StarlinkAdaptiveBaseWindowV0_1` -/
abbrev BaseWindow := Checked BaseWindow.Fields.post_init

structure PatternScore.Fields where
  pattern_ref : ArtifactRef
  start_sample : Int
  score : PyFloat

def PatternScore.Fields.post_init (s : PatternScore.Fields) : Except PyError Unit :=
  checkAll [
    raiseIf (s.start_sample < 0) (.value "adaptive pattern score start cannot be negative"),
    requireFinite (.float s.score) "score",
    raiseIf (¬(0 ≤ s.score.value ∧ s.score.value ≤ 1)) (.value "adaptive pattern score must lie in [0,1]")]

/-- `StarlinkAdaptivePatternScoreV0_1` -/
abbrev PatternScore := Checked PatternScore.Fields.post_init

/-- `str(item.digest)` of a pattern -/
def identity (pattern : ArtifactRef) : PyStr := pattern.digest.toStr

structure ExactWindow.Fields where
  window_index : Int
  stage : Stage
  start_sample : Int
  stop_sample : Int
  base_selection_reasons : List PyStr
  selected_by_pattern_refs : List ArtifactRef

def ExactWindow.Fields.post_init (w : ExactWindow.Fields) : Except PyError Unit :=
  let identities := w.selected_by_pattern_refs.map identity
  checkAll [
    raiseIf (w.window_index < 0 ∨ w.start_sample < 0 ∨ w.stop_sample ≤ w.start_sample)
      (.value "adaptive exact window geometry is invalid"),
    raiseIf (w.base_selection_reasons ≠ sortedSet w.base_selection_reasons) (.value "adaptive exact reasons must be canonical"),
    raiseIf (identities ≠ sortedSet identities) (.value "adaptive selecting patterns must be canonical"),
    raiseIf (w.stage = .base ∧ (w.base_selection_reasons = [] ∨ w.selected_by_pattern_refs ≠ []))
      (.value "base window provenance is inconsistent"),
    raiseIf (w.stage ≠ .base ∧ w.selected_by_pattern_refs = []) (.value "local window must identify its selecting patterns")]

/-- `StarlinkAdaptiveExactWindowV0_1` -/
abbrev ExactWindow := Checked ExactWindow.Fields.post_init

/-- The disclosures that a selection must carry. -/
def requiredWarnings : List PyStr := [
  str "candidate-evidence-not-calibrated-detection",
  str "base-sentinels-span-dwell-but-do-not-cover-every-sample",
  str "power-seeds-are-pattern-blind",
  str "local-follow-up-uses-equal-quota-for-qin-and-surrogates",
  str "all-patterns-search-the-union-of-selected-local-windows",
  str "time-look-elsewhere-calibration-required"]

structure Selection.Fields where
  schema : SchemaRef
  segment_sample_count : Int
  plan : Plan
  pattern_refs : List ArtifactRef
  base_windows : List BaseWindow
  exact_windows : List ExactWindow
  warnings : List PyStr

/-- `SchemaRef(SCHEMA_ID, V0_1)` -/
def Selection.schema : SchemaRef := ⟨str "org.leo-flow.starlink-adaptive-refinement-selection", ⟨0, 1⟩, by decide⟩

def Selection.Fields.post_init (s : Selection.Fields) : Except PyError Unit :=
  let pattern_digests : List PyStr := s.pattern_refs.map identity
  let starts : List Int := s.exact_windows.map fun item => item.val.start_sample
  checkAll [
    raiseIf (s.schema ≠ Selection.schema) (.value "unsupported adaptive refinement schema"),
    raiseIf (s.segment_sample_count < s.plan.val.probe_sample_count) (.value "adaptive probe exceeds its segment"),
    raiseIf (pattern_digests = [] ∨ pattern_digests ≠ sortedSet pattern_digests ∨ MAXIMUM_ADAPTIVE_PATTERNS < pattern_digests.length)
      (.value "adaptive pattern identities are invalid"),
    raiseIf (s.base_windows = [] ∨ s.plan.val.maximum_base_windows < s.base_windows.length)
      (.value "adaptive base-window membership is invalid"),
    raiseIf (s.exact_windows = [] ∨ s.plan.val.maximum_exact_windows < s.exact_windows.length)
      (.value "adaptive exact-window membership is invalid"),
    raiseIf ((s.exact_windows.map fun item => item.val.window_index) ≠ (List.range s.exact_windows.length).map Int.ofNat)
      (.value "adaptive exact-window indexes are noncanonical"),
    raiseIf (starts ≠ sortedSet starts) (.value "adaptive exact-window starts are noncanonical"),
    raiseIf (∃ item ∈ s.exact_windows, s.segment_sample_count < item.val.stop_sample ∨
      item.val.stop_sample - item.val.start_sample ≠ s.plan.val.probe_sample_count)
      (.value "adaptive exact window exceeds declared geometry"),
    raiseIf (¬∀ warning ∈ requiredWarnings, warning ∈ s.warnings) (.value "adaptive refinement disclosures are incomplete")]

/-- `StarlinkAdaptiveRefinementSelectionV0_1` -/
abbrev Selection := Checked Selection.Fields.post_init

/-! ## Base windows -/

/-- `starts = list(range(low, high + 1, stride))`, with `high` appended when the steps do not reach it -/
def gridStarts (low high stride : Int) : Except PyError (List Int) :=
  let starts := pyRange low (high + 1) stride
  match starts.getLast? with
  | none => .error ⟨.index_error, "list index out of range"⟩
  | some final => .ok (if final ≠ high then starts ++ [high] else starts)

/-- `(rank, seed_start, seed_stop)` -/
structure PowerSeed where
  rank : Int
  seed_start : Int
  seed_stop : Int

/-- The middle sample of a seed. -/
def PowerSeed.center (seed : PowerSeed) : Int := (seed.seed_start + seed.seed_stop) / 2

/-- Where the window of a seed starts. -/
def seedStart (last probe : Int) (seed : PowerSeed) : Int := min last (max 0 (seed.center - probe / 2))

/-- The seeds in order, each against the ranks before it: where they start, and their ranks. -/
def placeSeeds (segment_sample_count last probe : Int) : List PowerSeed → List Int → Except PyError (List (Int × Int))
  | [], _ => .ok []
  | seed :: seeds, seen_ranks => do
    raiseIf (seed.rank < 0 ∨ seed.rank ∈ seen_ranks ∨ seed.seed_start < 0 ∨ seed.seed_stop ≤ seed.seed_start ∨
      segment_sample_count < seed.seed_stop) (.value "adaptive power seed is invalid")
    let placed ← placeSeeds segment_sample_count last probe seeds (seed.rank :: seen_ranks)
    pure ((seedStart last probe seed, seed.rank) :: placed)

/-- Why a base window is searched. -/
def reasonsAt (sentinel_starts : List Int) (placed : List (Int × Int)) (start : Int) : List PyStr :=
  (if start ∈ sentinel_starts then [str "fixed-sentinel"] else []) ++
    if start ∈ placed.map Prod.fst then [str "pattern-blind-power-seed"] else []

/-- The ranks of the seeds of a base window. -/
def ranksAt (placed : List (Int × Int)) (start : Int) : List Int := (placed.filter fun x => decide (x.1 = start)).map Prod.snd

/-- `adaptive_base_windows_v0_1` -/
def adaptive_base_windows (segment_sample_count : Int) (plan : Plan) (power_seed_intervals : List PowerSeed) :
    Except PyError (List BaseWindow) := do
  let probe := plan.val.probe_sample_count
  raiseIf (segment_sample_count < probe) (.value "adaptive probe exceeds its segment")
  raiseIf (plan.val.maximum_power_seeds < power_seed_intervals.length) (.value "adaptive power seeds exceed their declared bound")
  let last := segment_sample_count - probe
  let sentinel_starts ← gridStarts 0 last plan.val.sentinel_stride_samples
  let placed ← placeSeeds segment_sample_count last probe power_seed_intervals []
  let starts := sortedSet (sentinel_starts ++ placed.map Prod.fst)
  raiseIf (plan.val.maximum_base_windows < starts.length) (.value "adaptive base windows exceed their declared bound")
  starts.mapM fun start => Checked.make BaseWindow.Fields.post_init
    ⟨start, start + probe, sortedSet (reasonsAt sentinel_starts placed start), sortedSet (ranksAt placed start)⟩

/-! ## Exact windows -/

section Table

variable (pattern_scores : List PatternScore)

/-- The patterns, each once. -/
def patterns : List ArtifactRef := sortedBy identity (pattern_scores.map fun item => item.val.pattern_ref)

/-- `grouped[pattern_ref].items()` -/
def scoresOf (pattern_ref : ArtifactRef) : List (Int × PyFloat) :=
  (pattern_scores.filter fun item => decide (item.val.pattern_ref = pattern_ref)).map fun item =>
    (item.val.start_sample, item.val.score)

/-- `(-score, start)` -/
def scoreKey (item : Int × PyFloat) : ℚ ×ₗ Int := toLex (-item.2.value, item.1)

/-- The centres of a pattern: its top scores, the earlier first of equal ones. -/
def ranked (plan : Plan) (pattern_ref : ArtifactRef) : List Int :=
  (((scoresOf pattern_scores pattern_ref).insertionSort fun a b => scoreKey a ≤ scoreKey b).take
    plan.val.candidate_centers_per_pattern.toNat).map Prod.fst

/-- The local grid around a centre. -/
def localStarts (plan : Plan) (last center_start : Int) : Except PyError (List Int) :=
  gridStarts (max 0 (center_start - plan.val.local_radius_samples)) (min last (center_start + plan.val.local_radius_samples))
    plan.val.local_stride_samples

/-- `selected_by_start`: the local windows of all patterns, with the pattern that selects them. -/
def selectedBy (plan : Plan) (last : Int) : Except PyError (List (Int × ArtifactRef)) := do
  let selected ← (patterns pattern_scores).mapM fun pattern_ref => do
    let starts ← (ranked pattern_scores plan pattern_ref).mapM (localStarts plan last)
    pure (starts.flatten.map fun start => (start, pattern_ref))
  pure selected.flatten

end Table

/-- The exact window of a start: a base window as it stands, or a local one with the patterns that select it. -/
def exactWindow (plan : Plan) (base_windows : List BaseWindow) (selected : List (Int × ArtifactRef)) (x : Int × Nat) :
    Except PyError ExactWindow :=
  let start := x.1
  Checked.make ExactWindow.Fields.post_init <|
    match base_windows.find? fun item => decide (item.val.start_sample = start) with
    | some base => ⟨x.2, .base, start, start + plan.val.probe_sample_count, base.val.selection_reasons, []⟩
    | none => ⟨x.2, .local, start, start + plan.val.probe_sample_count, [],
      sortedBy identity ((selected.filter fun y => decide (y.1 = start)).map Prod.snd)⟩

/-- `adaptive_refinement_selection_v0_1` -/
def adaptive_refinement_selection (segment_sample_count : Int) (plan : Plan) (base_windows : List BaseWindow)
    (pattern_scores : List PatternScore) : Except PyError Selection := do
  let base_starts := base_windows.map fun item => item.val.start_sample
  raiseIf (base_starts = [] ∨ base_starts ≠ sortedSet base_starts) (.value "adaptive base windows are noncanonical")
  raiseIf (¬(pattern_scores.map fun item => (item.val.pattern_ref, item.val.start_sample)).Nodup)
    (.value "adaptive pattern/base score is duplicated")
  let pattern_refs := patterns pattern_scores
  raiseIf (pattern_refs = [] ∨ ∃ item ∈ pattern_refs, sortedSet ((scoresOf pattern_scores item).map Prod.fst) ≠ base_starts)
    (.value "every pattern must score every adaptive base window")
  let last := segment_sample_count - plan.val.probe_sample_count
  let selected ← selectedBy pattern_scores plan last
  let all_starts := sortedSet (base_starts ++ selected.map Prod.fst)
  raiseIf (plan.val.maximum_exact_windows < all_starts.length) (.value "adaptive local union exceeds its declared bound")
  let exact ← all_starts.zipIdx.mapM (exactWindow plan base_windows selected)
  Checked.make Selection.Fields.post_init
    ⟨Selection.schema, segment_sample_count, plan, pattern_refs, base_windows, exact, requiredWarnings⟩

end AdaptiveRefinement

end LeoFlow
