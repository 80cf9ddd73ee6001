import LeoFlow.Analysis.AdaptiveRelabelling
import LeoFlow.Core.FloatBounds
import LeoFlow.Core.SampleUnion

/-!
# LeoFlow.Analysis.DwellCoverage — how much of a dwell the analyzers report as covered

`covering_window_starts_v0_1` and the coverage of `_stream` in
`analysis/recording/starlink_full_dwell_response.py`, and the coverage of `_stream` in
`analysis/recording/starlink_adaptive_response.py`. The power of a window is a parameter.
-/

namespace LeoFlow

namespace DwellCoverage

open AdaptiveRefinement (gridStarts scoreKey)

def MAXIMUM_EXACT_WINDOWS_PER_STREAM : Int := 512

def MAXIMUM_SURROGATES : Int := 32

structure Plan.Fields where
  coarse_window_sample_count : Int
  coarse_stride_samples : Int
  fine_window_sample_count : Int
  maximum_prescreen_window_count : Int
  maximum_fine_window_count : Int
  surrogate_count : Int
  prescreen_metric : PyStr
  refinement_selection_rule : PyStr

def Plan.Fields.post_init (p : Plan.Fields) : Except PyError Unit :=
  checkAll [
    raiseIf (p.coarse_window_sample_count ≤ 0) (.value "coarse_window_sample_count must be a positive integer"),
    raiseIf (p.coarse_stride_samples ≤ 0) (.value "coarse_stride_samples must be a positive integer"),
    raiseIf (p.fine_window_sample_count ≤ 0) (.value "fine_window_sample_count must be a positive integer"),
    raiseIf (p.maximum_prescreen_window_count ≤ 0) (.value "maximum_prescreen_window_count must be a positive integer"),
    raiseIf (p.maximum_fine_window_count ≤ 0) (.value "maximum_fine_window_count must be a positive integer"),
    raiseIf (p.surrogate_count ≤ 0) (.value "surrogate_count must be a positive integer"),
    raiseIf (p.coarse_window_sample_count < p.coarse_stride_samples) (.value "coarse prescreen would leave gaps in dwell coverage"),
    raiseIf (p.coarse_window_sample_count < p.fine_window_sample_count) (.value "fine windows cannot exceed coarse windows"),
    raiseIf (MAXIMUM_EXACT_WINDOWS_PER_STREAM ≤ p.maximum_fine_window_count)
      (.value "fine-window count leaves no room for coarse coverage"),
    raiseIf (16384 < p.maximum_prescreen_window_count) (.value "prescreen window count exceeds its resource bound"),
    raiseIf (MAXIMUM_SURROGATES < p.surrogate_count) (.value "surrogate count exceeds the precommitted codebook"),
    raiseIf (p.prescreen_metric ≠ str "mean-complex-power") (.value "unsupported full-dwell prescreen metric"),
    raiseIf (p.refinement_selection_rule ≠ str "top-power-then-start;pattern-blind-per-stream")
      (.value "unsupported refinement selection rule")]

/-- `StarlinkFullDwellPlanV0_1` -/
abbrev Plan := Checked Plan.Fields.post_init

/-- `covering_window_starts_v0_1` -/
def covering_window_starts (sample_count window_sample_count stride_samples : Int) : Except PyError (List Int) := do
  raiseIf (min (min sample_count window_sample_count) stride_samples ≤ 0) (.value "window dimensions must be positive")
  raiseIf (window_sample_count < stride_samples) (.value "covering window stride cannot leave gaps")
  if sample_count < window_sample_count then pure []
  else gridStarts 0 (sample_count - window_sample_count) stride_samples

/-- `_union_sample_count` of `starlink_full_dwell_response.py`: the intervals in the order of the caller. -/
def full_dwell_union_sample_count (intervals : List (Int × Int)) : Int := unionCount intervals

/-- `_union_sample_count` of `starlink_adaptive_response.py`: the intervals are sorted first. -/
def adaptive_union_sample_count (intervals : List (Int × Int)) : Int :=
  unionCount (intervals.insertionSort fun a b => toLex a ≤ toLex b)

/-- The windows of one length. -/
def windowsAt (length : Int) (starts : List Int) : List (Int × Int) := starts.map fun start => (start, start + length)

/-- The coverage of a stream. -/
structure Coverage where
  prescreen_starts : List Int
  fine : List Int
  prescreen_covered : Int
  prescreen_fraction : Num
  exact_covered : Int
  exact_fraction : Num

/-- `mean_complex_power_v0_1` of the window of a start, whose mean is `power`. -/
def mean_complex_power (power : Int → Except PyError PyFloat) (start : Int) : Except PyError PyFloat := do
  let score ← power start
  raiseIf (¬score.IsFinite) (.value "prescreen power must be finite")
  pure score

/-- A window with its power. -/
def candidatePower (power : Int → Except PyError PyFloat) (start : Int) : Except PyError (Int × PyFloat) := do
  let score ← mean_complex_power power start
  pure (start, score)

/-- The starts with the most power, the earlier first of equal ones, in the order of time. -/
def fineStarts (plan : Plan) (candidate_power : List (Int × PyFloat)) : List Int :=
  (((candidate_power.insertionSort fun a b => scoreKey a ≤ scoreKey b).take plan.val.maximum_fine_window_count.toNat).map
    Prod.fst).insertionSort (· ≤ ·)

/-- The coverage that `_stream` of `starlink_full_dwell_response.py` reports. -/
def full_dwell_coverage (power : Int → Except PyError PyFloat) (plan : Plan) (segment_sample_count : Int) :
    Except PyError Coverage := do
  let prescreen_starts ← covering_window_starts segment_sample_count plan.val.coarse_window_sample_count
    plan.val.coarse_stride_samples
  raiseIf (plan.val.maximum_prescreen_window_count < prescreen_starts.length)
    (.value "exhaustive full-dwell prescreen exceeds its declared bound")
  raiseIf (MAXIMUM_EXACT_WINDOWS_PER_STREAM < plan.val.maximum_fine_window_count)
    (.value "exact full-dwell plan exceeds its declared bound")
  let candidate_power ← prescreen_starts.mapM (candidatePower power)
  let fine := fineStarts plan candidate_power
  let prescreen_covered := full_dwell_union_sample_count (windowsAt plan.val.coarse_window_sample_count prescreen_starts)
  let exact_covered := full_dwell_union_sample_count (windowsAt plan.val.fine_window_sample_count fine)
  let prescreen_fraction ← Num.div (.int prescreen_covered) (.int segment_sample_count)
  let exact_fraction ← Num.div (.int exact_covered) (.int segment_sample_count)
  pure ⟨prescreen_starts, fine, prescreen_covered, prescreen_fraction, exact_covered, exact_fraction⟩

/-- The intervals of the exact windows. -/
def exactIntervals (exact_windows : List AdaptiveRefinement.ExactWindow) : List (Int × Int) :=
  exact_windows.map fun item => (item.val.start_sample, item.val.stop_sample)

/-- The coverage that `_stream` of `starlink_adaptive_response.py` reports, where `scores` are those of the base windows. -/
def adaptive_coverage (scores : List AdaptiveRefinement.BaseWindow → Except PyError (List AdaptiveRefinement.PatternScore))
    (plan : AdaptiveRefinement.Plan) (power_seeds : List AdaptiveRefinement.PowerSeed) (segment_sample_count : Int) :
    Except PyError (AdaptiveRefinement.Selection × Int × Num) := do
  let base ← AdaptiveRefinement.adaptive_base_windows segment_sample_count plan power_seeds
  let pattern_scores ← scores base
  let refined ← AdaptiveRefinement.adaptive_refinement_selection segment_sample_count plan base pattern_scores
  let covered := adaptive_union_sample_count (exactIntervals refined.val.exact_windows)
  let fraction ← Num.div (.int covered) (.int segment_sample_count)
  pure (refined, covered, fraction)

/-! ## Covering windows -/

section Covering

variable {sample_count window_sample_count stride_samples : Int} {starts : List Int}

theorem covering_ok (h : covering_window_starts sample_count window_sample_count stride_samples = .ok starts) :
    0 < stride_samples ∧ stride_samples ≤ window_sample_count ∧ 0 < sample_count ∧
      (sample_count < window_sample_count ∧ starts = [] ∨ window_sample_count ≤ sample_count ∧
        gridStarts 0 (sample_count - window_sample_count) stride_samples = .ok starts) := by
  obtain ⟨_, hpositive, h⟩ := bind_ok.1 h
  obtain ⟨_, hgaps, h⟩ := bind_ok.1 h
  have hdimensions := raiseIf_ok.1 hpositive
  have hstride := raiseIf_ok.1 hgaps
  refine ⟨by omega, by omega, by omega, ?_⟩
  split at h
  · cases h
    exact Or.inl ⟨by assumption, rfl⟩
  · exact Or.inr ⟨by omega, h⟩

/-- The dimensions that are accepted. -/
theorem exists_covering : (∃ starts, covering_window_starts sample_count window_sample_count stride_samples = .ok starts) ↔
    0 < stride_samples ∧ stride_samples ≤ window_sample_count ∧ 0 < sample_count := by
  constructor
  · rintro ⟨starts, h⟩
    obtain ⟨hstride, hle, hcount, -⟩ := covering_ok h
    exact ⟨hstride, hle, hcount⟩
  · rintro ⟨hstride, hle, hcount⟩
    have hrest : ∃ starts, (if sample_count < window_sample_count then pure []
        else gridStarts 0 (sample_count - window_sample_count) stride_samples) = Except.ok (ε := PyError) starts := by
      split
      · exact ⟨[], rfl⟩
      · exact AdaptiveRefinement.exists_gridStarts hstride (by omega)
    obtain ⟨starts, hstarts⟩ := hrest
    refine ⟨starts, bind_ok.2 ⟨(), raiseIf_ok.2 (by omega), bind_ok.2 ⟨(), raiseIf_ok.2 (by omega), hstarts⟩⟩⟩

/-- The windows are in order and inside. -/
theorem covering_inside (h : covering_window_starts sample_count window_sample_count stride_samples = .ok starts) :
    starts.Pairwise (· < ·) ∧ ∀ start ∈ starts, 0 ≤ start ∧ start + window_sample_count ≤ sample_count := by
  obtain ⟨hstride, -, -, ⟨-, rfl⟩ | ⟨hfits, hgrid⟩⟩ := covering_ok h
  · exact ⟨List.Pairwise.nil, fun _ hmem => absurd hmem List.not_mem_nil⟩
  · obtain ⟨-, rfl⟩ := AdaptiveRefinement.gridStarts_ok hstride hgrid 0
    refine ⟨pairwise_windowStarts hstride, fun start hstart => ?_⟩
    have hbounds := mem_windowStarts hstride (by omega) hstart
    omega

/-- No sample is left out. -/
theorem covering_covers (h : covering_window_starts sample_count window_sample_count stride_samples = .ok starts)
    (hfits : window_sample_count ≤ sample_count) {sample : Int} (hfirst : 0 ≤ sample) (hlast : sample < sample_count) :
    ∃ start ∈ starts, start ≤ sample ∧ sample < start + window_sample_count := by
  obtain ⟨hstride, hle, -, ⟨hlong, -⟩ | ⟨-, hgrid⟩⟩ := covering_ok h
  · omega
  · obtain ⟨-, rfl⟩ := AdaptiveRefinement.gridStarts_ok hstride hgrid window_sample_count
    exact windowStarts_cover hstride hle hfirst (by omega)

end Covering

/-! ## Counting -/

/-- Both functions count the distinct samples of some intervals. -/
structure CountsSamples (intervals : List (Int × Int)) : Prop where
  full_dwell : full_dwell_union_sample_count intervals = (coveredSamples intervals).card
  adaptive : adaptive_union_sample_count intervals = (coveredSamples intervals).card

theorem countsSamples {intervals : List (Int × Int)} (hforward : Forward intervals)
    (hsorted : intervals.Pairwise fun x y => x.1 ≤ y.1) : CountsSamples intervals :=
  ⟨unionCount_eq hforward hsorted, unionCount_sorted_eq hforward⟩

section Windows

variable {length count : Int} {starts : List Int}

theorem countsSamples_windowsAt (hlength : 0 ≤ length) (hstarts : starts.Pairwise (· ≤ ·)) :
    CountsSamples (windowsAt length starts) := by
  refine countsSamples (fun x hx => ?_) (List.pairwise_map.2 hstarts)
  obtain ⟨start, -, rfl⟩ := List.mem_map.1 hx
  dsimp only
  omega

theorem mem_covered_windowsAt {sample : Int} :
    sample ∈ coveredSamples (windowsAt length starts) ↔ ∃ start ∈ starts, start ≤ sample ∧ sample < start + length := by
  rw [mem_covered]
  constructor
  · rintro ⟨x, hx, hin⟩
    obtain ⟨start, hstart, rfl⟩ := List.mem_map.1 hx
    exact ⟨start, hstart, hin⟩
  · rintro ⟨start, hstart, hin⟩
    exact ⟨_, List.mem_map_of_mem hstart, hin⟩

/-- Samples of a segment are at most as many as it has. -/
theorem card_covered_le {intervals : List (Int × Int)} (hcount : 0 ≤ count) (hinside : ∀ x ∈ intervals, 0 ≤ x.1 ∧ x.2 ≤ count) :
    ((coveredSamples intervals).card : Int) ≤ count := by
  have hsubset : coveredSamples intervals ⊆ Finset.Ico 0 count := by
    intro sample hsample
    obtain ⟨x, hx, hfirst, hlast⟩ := mem_covered.1 hsample
    have hbounds := hinside x hx
    exact Finset.mem_Ico.2 ⟨by omega, by omega⟩
  have hcard := Finset.card_le_card hsubset
  rw [Int.card_Ico] at hcard
  omega

/-- The fraction of at most the whole. -/
theorem atMostOne_div {part : Int} {fraction : Num} (hpart : 0 ≤ part) (hle : part ≤ count)
    (h : Num.div (.int part) (.int count) = .ok fraction) :
    ∃ f, fraction = .float f ∧ f.IsFinite ∧ f.value ≤ 1 ∧ (part = count → f.value = 1) := by
  unfold Num.div at h
  dsimp only at h
  split at h
  · cases h
  · rename_i hzero
    have hcount : (0 : ℚ) < count := by exact_mod_cast (by omega : 0 < count)
    have hlow : (0 : ℚ) ≤ (part : ℚ) / count := div_nonneg (by exact_mod_cast hpart) hcount.le
    have hhigh : (part : ℚ) / count ≤ (1 : Nat) := by
      rw [div_le_iff₀ hcount]
      push_cast
      rw [one_mul]
      exact_mod_cast hle
    obtain ⟨hfinite, -, hbound⟩ := PyFloat.nearest_bounds hlow hhigh (by decide)
    split at h
    · rename_i hinf
      rw [hinf] at hfinite
      exact hfinite.elim
    · cases h
      refine ⟨_, rfl, hfinite, by exact_mod_cast hbound, fun heq => ?_⟩
      rw [heq, div_self hcount.ne']
      decide +kernel

end Windows

/-! ## The reports -/

/-- A number of at most one. -/
def AtMostOne (fraction : Num) : Prop := ∃ f, fraction = .float f ∧ f.IsFinite ∧ f.value ≤ 1

/-- A count of the samples of some intervals, as a part of the segment. -/
structure Reports (intervals : List (Int × Int)) (covered_count : Int) (fraction : Num) : Prop where
  counts : CountsSamples intervals
  covered : covered_count = (coveredSamples intervals).card
  fraction : AtMostOne fraction

section FullDwell

variable {power : Int → Except PyError PyFloat} {plan : Plan} {segment_sample_count : Int} {c : Coverage}

theorem plan_windows (plan : Plan) : 0 < plan.val.coarse_window_sample_count ∧ 0 < plan.val.fine_window_sample_count ∧
    plan.val.fine_window_sample_count ≤ plan.val.coarse_window_sample_count := by
  have hok := plan.ok
  unfold Plan.Fields.post_init at hok
  simp only [checkAll_cons, raiseIf_ok, not_le, not_lt] at hok
  obtain ⟨hcoarse, -, hfine, -, -, -, -, hle, -⟩ := hok
  exact ⟨hcoarse, hfine, hle⟩

theorem mem_fineStarts {candidate_power : List (Int × PyFloat)} {start : Int} (h : start ∈ fineStarts plan candidate_power) :
    start ∈ candidate_power.map Prod.fst := by
  unfold fineStarts at h
  rw [List.mem_insertionSort] at h
  obtain ⟨x, hx, rfl⟩ := List.mem_map.1 h
  exact List.mem_map_of_mem ((List.mem_insertionSort _).1 (List.mem_of_mem_take hx))

theorem ascending_fineStarts (plan : Plan) (candidate_power : List (Int × PyFloat)) :
    (fineStarts plan candidate_power).Pairwise (· ≤ ·) := List.pairwise_insertionSort _ _

/-- The windows of a report, all of them inside the segment. -/
theorem reports_windowsAt {length : Int} {starts : List Int} {fraction : Num} (hlength : 0 ≤ length) (hcount : 0 ≤ segment_sample_count)
    (hstarts : starts.Pairwise (· ≤ ·)) (hinside : ∀ start ∈ starts, 0 ≤ start ∧ start + length ≤ segment_sample_count)
    (h : Num.div (.int (full_dwell_union_sample_count (windowsAt length starts))) (.int segment_sample_count) = .ok fraction) :
    Reports (windowsAt length starts) (full_dwell_union_sample_count (windowsAt length starts)) fraction := by
  have hcounts := countsSamples_windowsAt hlength hstarts
  have hle : ((coveredSamples (windowsAt length starts)).card : Int) ≤ segment_sample_count := by
    refine card_covered_le hcount fun x hx => ?_
    obtain ⟨start, hstart, rfl⟩ := List.mem_map.1 hx
    exact hinside start hstart
  rw [hcounts.full_dwell] at h ⊢
  obtain ⟨f, hf, hfinite, hone, -⟩ := atMostOne_div (Int.natCast_nonneg _) hle h
  exact ⟨hcounts, rfl, f, hf, hfinite, hone⟩

/-- What the full-dwell analyzer reports. -/
structure FullDwellExact (plan : Plan) (segment_sample_count : Int) (c : Coverage) : Prop where
  prescreen : Reports (windowsAt plan.val.coarse_window_sample_count c.prescreen_starts) c.prescreen_covered c.prescreen_fraction
  exact : Reports (windowsAt plan.val.fine_window_sample_count c.fine) c.exact_covered c.exact_fraction
  whole : plan.val.coarse_window_sample_count ≤ segment_sample_count → c.prescreen_covered = segment_sample_count ∧
    ∃ f, c.prescreen_fraction = .float f ∧ f.value = 1

theorem fullDwellExact (h : full_dwell_coverage power plan segment_sample_count = .ok c) :
    FullDwellExact plan segment_sample_count c := by
  obtain ⟨prescreen_starts, hstarts, h⟩ := bind_ok.1 h
  obtain ⟨_, -, h⟩ := bind_ok.1 h
  obtain ⟨_, -, h⟩ := bind_ok.1 h
  obtain ⟨candidate_power, hcandidates, h⟩ := bind_ok.1 h
  obtain ⟨prescreen_fraction, hprescreen, h⟩ := bind_ok.1 h
  obtain ⟨exact_fraction, hexact, h⟩ := bind_ok.1 h
  cases h
  obtain ⟨hcoarse, hfine, hshorter⟩ := plan_windows plan
  obtain ⟨-, -, hcount, -⟩ := covering_ok hstarts
  obtain ⟨hascending, hinside⟩ := covering_inside hstarts
  have hcandidate_starts : candidate_power.map Prod.fst = prescreen_starts := by
    have hsame := map_of_forall₂ (f := id) (g := Prod.fst) (mapM_ok.1 hcandidates) fun start x hx => by
      obtain ⟨score, -, hpair⟩ := bind_ok.1 hx
      cases hpair
      rfl
    rwa [List.map_id] at hsame
  have hreports := reports_windowsAt hcoarse.le hcount.le (hascending.imp fun hlt => hlt.le) hinside hprescreen
  refine ⟨hreports, reports_windowsAt hfine.le hcount.le (ascending_fineStarts plan candidate_power) (fun start hstart => ?_) hexact,
    fun hfits => ?_⟩
  · have hmem := mem_fineStarts hstart
    rw [hcandidate_starts] at hmem
    have hbounds := hinside start hmem
    omega
  · -- the windows have every sample of the segment
    have hall : coveredSamples (windowsAt plan.val.coarse_window_sample_count prescreen_starts) = Finset.Ico 0 segment_sample_count := by
      ext sample
      rw [mem_covered_windowsAt, Finset.mem_Ico]
      constructor
      · rintro ⟨start, hstart, hfirst, hlast⟩
        have hbounds := hinside start hstart
        omega
      · rintro ⟨hfirst, hlast⟩
        exact covering_covers hstarts hfits hfirst hlast
    have hwhole : full_dwell_union_sample_count (windowsAt plan.val.coarse_window_sample_count prescreen_starts) =
        segment_sample_count := by
      rw [hreports.covered, hall, Int.card_Ico]
      omega
    obtain ⟨f, hf, -, -, hone⟩ := atMostOne_div (by omega) hwhole.le hprescreen
    exact ⟨hwhole, f, hf, hone hwhole⟩

end FullDwell

section Adaptive

variable {scores : List AdaptiveRefinement.BaseWindow → Except PyError (List AdaptiveRefinement.PatternScore)}
  {plan : AdaptiveRefinement.Plan} {power_seeds : List AdaptiveRefinement.PowerSeed} {segment_sample_count : Int}
  {refined : AdaptiveRefinement.Selection} {covered_count : Int} {fraction : Num}

/-- What the adaptive analyzer reports. -/
theorem adaptiveExact (h : adaptive_coverage scores plan power_seeds segment_sample_count = .ok (refined, covered_count, fraction)) :
    Reports (exactIntervals refined.val.exact_windows) covered_count fraction := by
  obtain ⟨base, hbase, h⟩ := bind_ok.1 h
  obtain ⟨pattern_scores, -, h⟩ := bind_ok.1 h
  obtain ⟨refined', hrefined, h⟩ := bind_ok.1 h
  obtain ⟨fraction', hfraction, h⟩ := bind_ok.1 h
  cases h
  obtain ⟨selected, exact_windows, hok, hval⟩ := AdaptiveRefinement.selection_iff.1 hrefined
  obtain ⟨hprobe, -⟩ := AdaptiveRefinement.plan_positive plan
  obtain ⟨grid, hgrid⟩ := AdaptiveRefinement.base_iff.1 hbase
  have hkeeps := hok.keeps
  have hexact : refined.val.exact_windows = exact_windows := by rw [hval]
  rw [hexact] at hfraction ⊢
  have hforward : Forward (exactIntervals exact_windows) := by
    intro x hx
    obtain ⟨e, he, rfl⟩ := List.mem_map.1 hx
    have hbounds := hkeeps.inside e he
    dsimp only
    omega
  have hcounts : CountsSamples (exactIntervals exact_windows) :=
    countsSamples hforward (List.pairwise_map.2 (hkeeps.ascending.imp fun hlt => hlt.le))
  have hle : ((coveredSamples (exactIntervals exact_windows)).card : Int) ≤ segment_sample_count := by
    have hfits := hgrid.fits
    refine card_covered_le (by omega) fun x hx => ?_
    obtain ⟨e, he, rfl⟩ := List.mem_map.1 hx
    have hbounds := hkeeps.inside e he
    exact ⟨hbounds.1, hbounds.2.1⟩
  rw [hcounts.adaptive] at hfraction ⊢
  obtain ⟨f, hf, hfinite, hone, -⟩ := atMostOne_div (Int.natCast_nonneg _) hle hfraction
  exact ⟨hcounts, rfl, f, hf, hfinite, hone⟩

end Adaptive

/-- The covering windows cover, and the analyzers count the samples of their windows. -/
theorem coverage_exact :
    (∀ sample_count window_sample_count stride_samples,
      ((∃ starts, covering_window_starts sample_count window_sample_count stride_samples = .ok starts) ↔
        0 < stride_samples ∧ stride_samples ≤ window_sample_count ∧ 0 < sample_count) ∧
      ∀ starts, covering_window_starts sample_count window_sample_count stride_samples = .ok starts →
        window_sample_count ≤ sample_count → starts.Pairwise (· < ·) ∧
          (∀ start ∈ starts, 0 ≤ start ∧ start + window_sample_count ≤ sample_count) ∧
          ∀ sample, 0 ≤ sample → sample < sample_count → ∃ start ∈ starts, start ≤ sample ∧ sample < start + window_sample_count) ∧
    (∀ power plan segment_sample_count c, full_dwell_coverage power plan segment_sample_count = .ok c →
      FullDwellExact plan segment_sample_count c) ∧
    ∀ scores plan power_seeds segment_sample_count refined covered_count fraction,
      adaptive_coverage scores plan power_seeds segment_sample_count = .ok (refined, covered_count, fraction) →
        Reports (exactIntervals refined.val.exact_windows) covered_count fraction := by
  refine ⟨fun sample_count window_sample_count stride_samples => ⟨exists_covering, fun starts h hfits => ?_⟩,
    fun _ _ _ _ h => fullDwellExact h, fun _ _ _ _ _ _ _ h => adaptiveExact h⟩
  obtain ⟨hascending, hinside⟩ := covering_inside h
  exact ⟨hascending, hinside, fun sample hfirst hlast => covering_covers h hfits hfirst hlast⟩

def examplePlan : Plan :=
  ⟨⟨4, 3, 2, 10, 2, 1, str "mean-complex-power", str "top-power-then-start;pattern-blind-per-stream"⟩, by decide⟩

/-- Four coarse windows cover eleven samples. -/
theorem coverage_exact_example : ∃ c, full_dwell_coverage (fun _ => .ok (.zero false)) examplePlan 11 = .ok c ∧
    c.prescreen_covered = 11 := by
  have hrun : (full_dwell_coverage (fun _ => .ok (.zero false)) examplePlan 11).toOption.isSome = true := by decide +kernel
  obtain ⟨c, hc⟩ := Option.isSome_iff_exists.1 hrun
  have hexact := coverage_exact.2.1 _ _ _ _ (mem_toOption.1 hc)
  exact ⟨c, mem_toOption.1 hc, (hexact.whole (by decide)).1⟩

end DwellCoverage

end LeoFlow
