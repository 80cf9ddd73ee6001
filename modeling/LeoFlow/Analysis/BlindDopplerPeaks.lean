import LeoFlow.Contracts.Capture
import LeoFlow.Core.FloatBounds
import LeoFlow.Core.JsonRoundTrip
import LeoFlow.Core.Ranking

/-!
# LeoFlow.Analysis.BlindDopplerPeaks — the spectral peaks of a spectrogram

`_extract_peaks` of `analysis/tracking/blind_doppler.py`, with the contracts of
`contracts/blind_doppler.py`. A bin is compared with its two neighbours only, so the first bin of
a plateau is reported also where the powers rise after the plateau: a shoulder is no peak.
-/

namespace LeoFlow

namespace PyFloat

/-- The number of a float that is not nan. -/
def line (f : PyFloat) : WithBot (WithTop ℚ) := f.number.getD ⊥

/-- `f < g` -/
@[reducible] def Less (f g : PyFloat) : Prop := (Num.float f).Lt (.float g)

/-- `f <= g` -/
@[reducible] def AtMost (f g : PyFloat) : Prop := (Num.float f).Le (.float g)

theorem atMost_iff {f g : PyFloat} (hf : f.IsFinite) (hg : g.IsFinite) : f.AtMost g ↔ f.value ≤ g.value := by
  have hfinite : ∀ {f : PyFloat}, f.IsFinite → (Num.float f).Finite := by
    intro f h
    cases f with
    | nan => exact h.elim
    | inf s => exact h.elim
    | finite s m e hcanonical => rfl
  exact Num.le_iff_rank (hfinite hf) (hfinite hg)

end PyFloat

namespace BlindDoppler

/-! ## Contracts -/

structure SpectrogramRow.Fields where
  midpoint_utc_ns : Int
  power_db : List PyFloat

def SpectrogramRow.Fields.post_init (r : SpectrogramRow.Fields) : Except PyError Unit :=
  checkAll ([
    requireUtcNs r.midpoint_utc_ns "midpoint_utc_ns",
    raiseIf (r.power_db = []) (.value "spectrogram row requires at least one frequency bin")] ++
    r.power_db.map fun value => requireFinite (.float value) "power_db")

/-- `SpectrogramRowV0_1` -/
abbrev SpectrogramRow := Checked SpectrogramRow.Fields.post_init

def MAX_SPECTROGRAM_ROWS : Nat := 2048

def MAX_SPECTROGRAM_BINS : Nat := 2048

def MAX_SPECTROGRAM_CELLS : Nat := 1048576

structure SpectrogramSlice.Fields where
  center_frequency_hz : PyFloat
  frequency_bin_offsets_hz : List PyFloat
  power_reference : PyStr
  rows : List SpectrogramRow

/-- The checks of the rows in order, each against the time of the row before it. -/
def checkRows (bins : Nat) : List SpectrogramRow → Int → Except PyError Unit
  | [], _ => .ok ()
  | row :: rest, previous_time =>
    checkAll [
      raiseIf (row.val.power_db.length ≠ bins) (.value "spectrogram power row and frequency axis differ"),
      raiseIf (row.val.midpoint_utc_ns ≤ previous_time)
        (.value "spectrogram rows must be in strictly increasing time order"),
      checkRows bins rest row.val.midpoint_utc_ns]

def SpectrogramSlice.Fields.post_init (s : SpectrogramSlice.Fields) : Except PyError Unit :=
  let bins := s.frequency_bin_offsets_hz.length
  checkAll ([
    requirePositive (.float s.center_frequency_hz) "center_frequency_hz",
    requireToken s.power_reference IsToken "power_reference",
    raiseIf (¬(2 < bins ∧ bins ≤ MAX_SPECTROGRAM_BINS)) (.value "spectrogram frequency bin count is outside its bound")] ++
    s.frequency_bin_offsets_hz.map (fun value => requireFinite (.float value) "frequency_bin_offset_hz") ++ [
    raiseIf (¬(s.frequency_bin_offsets_hz.map PyFloat.value).IsChain (· < ·))
      (.value "spectrogram frequency offsets must be strictly increasing"),
    raiseIf (¬(1 < s.rows.length ∧ s.rows.length ≤ MAX_SPECTROGRAM_ROWS)) (.value "spectrogram row count is outside its bound"),
    raiseIf (MAX_SPECTROGRAM_CELLS < s.rows.length * bins) (.value "spectrogram cell count exceeds its bound"),
    checkRows bins s.rows (-1)])

/-- `SpectrogramSliceV0_1`, as far as the extraction reads it -/
abbrev SpectrogramSlice := Checked SpectrogramSlice.Fields.post_init

structure TrackPoint.Fields where
  row_index : Nat
  midpoint_utc_ns : Int
  frequency_hz : PyFloat
  interpolated_bin : PyFloat
  layer_value_db : PyFloat
  row_baseline_db : PyFloat
  local_peak_excess_db : PyFloat
  edge_truncated : Bool

def TrackPoint.Fields.post_init (p : TrackPoint.Fields) : Except PyError Unit :=
  checkAll [
    requireUtcNs p.midpoint_utc_ns "midpoint_utc_ns",
    requireFinite (.float p.frequency_hz) "frequency_hz",
    requireFinite (.float p.interpolated_bin) "interpolated_bin",
    requireFinite (.float p.layer_value_db) "layer_value_db",
    requireFinite (.float p.row_baseline_db) "row_baseline_db",
    requireFinite (.float p.local_peak_excess_db) "local_peak_excess_db"]

/-- `DopplerTrackPointV0_1` -/
abbrev TrackPoint := Checked TrackPoint.Fields.post_init

structure Config.Fields where
  minimum_spectral_peak_excess_db : PyFloat
  maximum_peaks_per_row : Int
  maximum_missing_rows : Int
  maximum_frequency_step_hz : PyFloat
  maximum_abs_drift_rate_hz_s : PyFloat
  minimum_track_points : Int
  minimum_duration_s : PyFloat
  broadband_row_fraction : PyFloat
  overlap_suppression_fraction : PyFloat

def Config.Fields.post_init (c : Config.Fields) : Except PyError Unit :=
  checkAll [
    raiseIf (¬∀ value ∈ [c.minimum_spectral_peak_excess_db, c.maximum_frequency_step_hz, c.maximum_abs_drift_rate_hz_s,
      c.minimum_duration_s, c.broadband_row_fraction, c.overlap_suppression_fraction], value.IsFinite)
      (.value "blind Doppler configuration must be finite"),
    raiseIf (c.minimum_spectral_peak_excess_db.value ≤ 0) (.value "minimum_spectral_peak_excess_db must be positive"),
    raiseIf (¬(1 ≤ c.maximum_peaks_per_row ∧ c.maximum_peaks_per_row ≤ 64)) (.value "maximum_peaks_per_row is outside its bound"),
    raiseIf (¬(0 ≤ c.maximum_missing_rows ∧ c.maximum_missing_rows ≤ 16)) (.value "maximum_missing_rows is outside its bound"),
    raiseIf (c.maximum_frequency_step_hz.value < 0 ∨ c.maximum_abs_drift_rate_hz_s.value < 0)
      (.value "continuity limits must be nonnegative"),
    raiseIf (¬(2 ≤ c.minimum_track_points ∧ c.minimum_track_points ≤ 64)) (.value "minimum_track_points is outside its bound"),
    raiseIf (c.minimum_duration_s.value < 0) (.value "minimum_duration_s must be nonnegative"),
    raiseIf (¬(0 < c.broadband_row_fraction.value ∧ c.broadband_row_fraction.value ≤ 1))
      (.value "broadband_row_fraction is outside its bound"),
    raiseIf (¬(0 ≤ c.overlap_suppression_fraction.value ∧ c.overlap_suppression_fraction.value ≤ 1))
      (.value "overlap_suppression_fraction is outside its bound")]

/-- `BlindDopplerConfig` -/
abbrev Config := Checked Config.Fields.post_init

/-! ## Peaks -/

/-- `_Peak` -/
structure Peak where
  identity : Nat
  row_index : Nat
  point : TrackPoint

def half : PyFloat := PyFloat.ofRatio false 1 2

def two : PyFloat := PyFloat.ofRatio false 2 1

/-- `a / b` of counts -/
def trueDiv (a b : Nat) : PyFloat := PyFloat.nearest ((a : ℚ) / b)

/-- `statistics.median` of finite floats -/
def median (values : List PyFloat) : PyFloat :=
  let data := values.insertionSort fun a b => a.value ≤ b.value
  let middle := data.length / 2
  if data.length % 2 = 1 then data.getD middle .nan
  else ((data.getD (middle - 1) .nan).add (data.getD middle .nan)).div two

section Row

variable (config : Config) (row : SpectrogramRow)

/-- `power - floor` of a bin -/
def excess (index : Nat) : PyFloat := (row.val.power_db.getD index .nan).sub (median row.val.power_db)

/-- The power of a bin, as a number. -/
def power (index : Nat) : ℚ := (row.val.power_db.getD index .nan).value

/-- The row has too many bins above the threshold. -/
@[reducible] def Broadband : Prop :=
  config.val.broadband_row_fraction.AtMost (trueDiv
    ((List.range row.val.power_db.length).filter fun index =>
      decide (config.val.minimum_spectral_peak_excess_db.AtMost (excess row index))).length row.val.power_db.length)

/-- The bin reaches the threshold of the row. -/
@[reducible] def Above (index : Nat) : Prop := ¬(excess row index).Less config.val.minimum_spectral_peak_excess_db

/-- The comparisons of a bin with its two neighbours. -/
@[reducible] def Reported (index : Nat) : Prop :=
  Above config row index ∧ (index = 0 ∨ ¬(power row index < power row (index - 1) ∨ power row index = power row (index - 1))) ∧
    (index + 1 = row.val.power_db.length ∨ ¬power row index < power row (index + 1))

/-- The bins that are reported, before the limit. -/
def reported : List Nat := (List.range row.val.power_db.length).filter fun index => decide (Reported config row index)

end Row

/-- The interpolation between a bin and its neighbours. -/
def delta (left power right : PyFloat) : PyFloat :=
  let denominator := (left.sub (two.mul power)).add right
  let delta := if denominator.IsZero then PyFloat.zero false else (half.mul (left.sub right)).div denominator
  let upper := if delta.Less half then delta else half
  if half.neg.Less upper then upper else half.neg

/-- The point of a bin. -/
def pointAt (spectrogram : SpectrogramSlice) (row_index : Nat) (row : SpectrogramRow) (index : Nat) : Except PyError TrackPoint :=
  let axis := spectrogram.val.frequency_bin_offsets_hz
  let cell := fun (values : List PyFloat) (i : Nat) => values.getD i .nan
  let floor := median row.val.power_db
  let power := cell row.val.power_db index
  let edge := decide (index = 0 ∨ index = axis.length - 1)
  let delta := delta (cell row.val.power_db (index - 1)) power (cell row.val.power_db (index + 1))
  let bin := PyFloat.ofRatio false index 1
  let step := if delta.Less (PyFloat.zero false) then (cell axis index).sub (cell axis (index - 1))
    else (cell axis (index + 1)).sub (cell axis index)
  let fractional_bin := if edge then bin else bin.add delta
  let offset_hz := if edge then cell axis index else (cell axis index).add (delta.mul step)
  Checked.make TrackPoint.Fields.post_init
    ⟨row_index, row.val.midpoint_utc_ns, spectrogram.val.center_frequency_hz.add offset_hz, fractional_bin, power, floor,
      power.sub floor, edge⟩

/-- The peaks of one row, and the next identity. -/
def rowPeaks (spectrogram : SpectrogramSlice) (config : Config) (row_index : Nat) (row : SpectrogramRow) (identity : Nat) :
    Except PyError (List Peak × Nat) :=
  if Broadband config row then .ok ([], identity)
  else do
    let found ← (reported config row).zipIdx.mapM fun x => do
      let point ← pointAt spectrogram row_index row x.1
      pure (Peak.mk (identity + x.2) row_index point)
    let sorted := found.insertionSort fun a b => b.point.val.local_peak_excess_db.line ≤ a.point.val.local_peak_excess_db.line
    pure (sorted.take config.val.maximum_peaks_per_row.toNat, identity + found.length)

/-- The rows from one index on. -/
def extractRows (spectrogram : SpectrogramSlice) (config : Config) : Nat → Nat → List SpectrogramRow → Except PyError (List (List Peak))
  | _, _, [] => .ok []
  | row_index, identity, row :: rest => do
    let (peaks, next) ← rowPeaks spectrogram config row_index row identity
    let rows ← extractRows spectrogram config (row_index + 1) next rest
    pure (peaks :: rows)

/-- `_extract_peaks` -/
def extract_peaks (spectrogram : SpectrogramSlice) (config : Config) : Except PyError (List (List Peak) × Nat) := do
  let rows ← extractRows spectrogram config 0 0 spectrogram.val.rows
  pure (rows, (spectrogram.val.rows.filter fun row => decide (Broadband config row)).length)

/-! ## What a peak is -/

section Runs

variable (config : Config) (row : SpectrogramRow)

/-- The bins from `start` up to `stop` have one power. -/
def Level (start stop : Nat) : Prop :=
  start < stop ∧ stop ≤ row.val.power_db.length ∧ ∀ index, start ≤ index → index < stop → power row index = power row start

/-- The bin before, if there is one, is strictly lower. -/
def RisesAt (start : Nat) : Prop := start = 0 ∨ power row (start - 1) < power row start

/-- A maximal run of equal powers that reaches the threshold, with strictly lower neighbours. -/
structure PeakRun (start stop : Nat) : Prop where
  level : Level row start stop
  above : Above config row start
  rises : RisesAt row start
  falls : stop = row.val.power_db.length ∨ power row stop < power row start

/-- The first of at least two bins of equal power that reach the threshold, before a strictly higher bin. -/
def Shoulder (start : Nat) : Prop :=
  ∃ stop, start + 1 < stop ∧ Level row start stop ∧ Above config row start ∧ RisesAt row start ∧
    stop < row.val.power_db.length ∧ power row start < power row stop

/-- The bins are those of the row's peaks, cut by the limit with the highest excess first. -/
structure PeaksOf (bins : List Nat) : Prop where
  inside : ∀ bin ∈ bins, ∃ start stop, PeakRun config row start stop ∧ start ≤ bin ∧ bin < stop
  once : ∀ bin ∈ bins, ∀ bin' ∈ bins, ∀ start stop, PeakRun config row start stop →
    start ≤ bin → bin < stop → start ≤ bin' → bin' < stop → bin = bin'
  nodup : bins.Nodup
  limit : (bins.length : Int) ≤ config.val.maximum_peaks_per_row
  cut : ∀ start stop, PeakRun config row start stop → (∀ bin ∈ bins, ¬(start ≤ bin ∧ bin < stop)) →
    (bins.length : Int) = config.val.maximum_peaks_per_row ∧
      ∀ bin ∈ bins, (excess row start).line ≤ (excess row bin).line
  ordered : bins.Pairwise fun bin bin' => (excess row bin').line ≤ (excess row bin).line

/-- The reported bins, highest excess first and then from left to right. -/
def rank (bin : Nat) : (WithBot (WithTop ℚ))ᵒᵈ ×ₗ Nat := toLex (OrderDual.toDual (excess row bin).line, bin)

def sortedBins : List Nat :=
  (reported config row).insertionSort fun bin bin' => (excess row bin').line ≤ (excess row bin).line

/-- The bins that are kept. -/
def keptBins : List Nat := (sortedBins config row).take config.val.maximum_peaks_per_row.toNat

/-- Enough reported bins come before every shoulder. -/
def ShouldersCut : Prop :=
  ∀ bin, Shoulder config row bin →
    config.val.maximum_peaks_per_row ≤ ((reported config row).filter fun bin' => decide (rank row bin' < rank row bin)).length

end Runs

section Bins

variable {config : Config} {row : SpectrogramRow} {start stop bin : Nat}

/-- The end of the run that starts at a bin. -/
theorem exists_level (h : bin < row.val.power_db.length) :
    ∃ stop, Level row bin stop ∧ (stop = row.val.power_db.length ∨ power row stop ≠ power row bin) := by
  obtain ⟨stop, ⟨hlevel, hend⟩, hlast⟩ : ∃ stop, (Level row bin stop ∧ stop ≤ row.val.power_db.length) ∧
      ∀ stop', Level row bin stop' ∧ stop' ≤ row.val.power_db.length → stop' ≤ stop := by
    have hfirst : Level row bin (bin + 1) ∧ bin + 1 ≤ row.val.power_db.length :=
      ⟨⟨Nat.lt_succ_self _, h, fun index hlow hhigh => by rw [Nat.le_antisymm (Nat.lt_succ_iff.1 hhigh) hlow]⟩, h⟩
    classical
    let P : Nat → Prop := fun stop => Level row bin stop ∧ stop ≤ row.val.power_db.length
    have hP : P (Nat.findGreatest P row.val.power_db.length) := Nat.findGreatest_spec h hfirst
    exact ⟨_, hP, fun stop' hstop' => Nat.le_findGreatest hstop'.2 hstop'⟩
  refine ⟨stop, hlevel, ?_⟩
  by_contra hmore
  obtain ⟨hne, heq⟩ := not_or.1 hmore
  have hlonger : Level row bin (stop + 1) := by
    refine ⟨Nat.lt_succ_of_lt hlevel.1, by omega, fun index hlow hhigh => ?_⟩
    rcases Nat.lt_succ_iff_lt_or_eq.1 hhigh with hlt | rfl
    · exact hlevel.2.2 index hlow hlt
    · exact not_not.1 heq
  have hle := hlast (stop + 1) ⟨hlonger, by omega⟩
  omega

theorem mem_reported : bin ∈ reported config row ↔ bin < row.val.power_db.length ∧ Reported config row bin := by
  unfold reported
  rw [List.mem_filter, List.mem_range, decide_eq_true_eq]

/-- A bin is reported where a peak starts, and where a shoulder does. -/
theorem mem_reported_iff : bin ∈ reported config row ↔ (∃ stop, PeakRun config row bin stop) ∨ Shoulder config row bin := by
  rw [mem_reported]
  constructor
  · rintro ⟨hlt, habove, hleft, hright⟩
    have hrises : RisesAt row bin := by
      rcases hleft with hzero | hleft
      · exact Or.inl hzero
      · rw [not_or, not_lt] at hleft
        exact Or.inr (lt_of_le_of_ne hleft.1 (Ne.symm hleft.2))
    obtain ⟨stop, hlevel, hend⟩ := exists_level hlt
    rcases hend with hend | hne
    · exact Or.inl ⟨stop, hlevel, habove, hrises, Or.inl hend⟩
    · rcases lt_or_gt_of_ne hne with hfalls | hclimbs
      · exact Or.inl ⟨stop, hlevel, habove, hrises, Or.inr hfalls⟩
      · -- the bin after the first is not higher, so the run has a second bin
        by_cases hinside : stop < row.val.power_db.length
        · refine Or.inr ⟨stop, ?_, hlevel, habove, hrises, hinside, hclimbs⟩
          have hsucc : stop ≠ bin + 1 := by
            rintro rfl
            rcases hright with hlast | hright
            · omega
            · exact hright hclimbs
          have hstart := hlevel.1
          omega
        · exact Or.inl ⟨stop, hlevel, habove, hrises, Or.inl (Nat.le_antisymm hlevel.2.1 (not_lt.1 hinside))⟩
  · have hleft : RisesAt row bin →
        bin = 0 ∨ ¬(power row bin < power row (bin - 1) ∨ power row bin = power row (bin - 1)) := by
      rintro (hzero | hlt)
      · exact Or.inl hzero
      · refine Or.inr (not_or.2 ⟨not_lt.2 hlt.le, hlt.ne'⟩)
    rintro (⟨stop, hlevel, habove, hrises, hfalls⟩ | ⟨stop, hstop, hlevel, habove, hrises, hinside, hclimbs⟩)
    · have hbounds := hlevel.1
      have hlength := hlevel.2.1
      refine ⟨by omega, habove, hleft hrises, ?_⟩
      by_cases hnext : bin + 1 < stop
      · refine Or.inr (not_lt.2 (le_of_eq ?_))
        exact hlevel.2.2 (bin + 1) (Nat.le_succ bin) hnext
      · obtain rfl : stop = bin + 1 := by omega
        rcases hfalls with hend | hlt
        · exact Or.inl hend
        · exact Or.inr (not_lt.2 hlt.le)
    · have hlength := hlevel.2.1
      refine ⟨by omega, habove, hleft hrises, Or.inr (not_lt.2 (le_of_eq ?_))⟩
      exact hlevel.2.2 (bin + 1) (Nat.le_succ bin) hstop

/-- The first bin of a run is the only one that rises. -/
theorem eq_start_of_rises (hlevel : Level row start stop) (hlow : start ≤ bin) (hhigh : bin < stop)
    (hrises : RisesAt row bin) : bin = start := by
  by_contra hne
  rcases hrises with hzero | hlt
  · omega
  · have hbefore := hlevel.2.2 (bin - 1) (by omega) (by omega)
    have hhere := hlevel.2.2 bin hlow hhigh
    rw [hbefore, hhere] at hlt
    exact lt_irrefl _ hlt

/-- A shoulder is no peak. -/
theorem not_shoulder_of_peakRun (hpeak : PeakRun config row bin stop) : ¬Shoulder config row bin := by
  rintro ⟨stop', -, hlevel', -, -, hinside, hclimbs⟩
  have hlevel := hpeak.level
  by_cases hle : stop ≤ stop'
  · rcases hpeak.falls with hend | hfalls
    · omega
    · rcases Nat.lt_or_eq_of_le hle with hlt | rfl
      · have heq := hlevel'.2.2 stop (by have := hlevel.1; omega) hlt
        exact absurd heq hfalls.ne
      · exact lt_asymm hclimbs hfalls
  · have heq := hlevel.2.2 stop' (by have := hlevel'.1; omega) (by omega)
    exact absurd heq hclimbs.ne'

theorem reported_ascending : (reported config row).Pairwise (· < ·) := List.pairwise_lt_range.filter _

theorem rank_lt {bin bin' : Nat} : rank row bin < rank row bin' ↔
    (excess row bin').line < (excess row bin).line ∨ (excess row bin').line = (excess row bin).line ∧ bin < bin' := by
  unfold rank
  rw [Prod.Lex.toLex_lt_toLex]
  constructor
  · rintro (hlt | ⟨heq, hlt⟩)
    · exact Or.inl hlt
    · exact Or.inr ⟨(OrderDual.toDual_inj.1 heq).symm, hlt⟩
  · rintro (hlt | ⟨heq, hlt⟩)
    · exact Or.inl hlt
    · exact Or.inr ⟨congrArg OrderDual.toDual heq.symm, hlt⟩

theorem sortedBins_ranked (config : Config) (row : SpectrogramRow) : (sortedBins config row).Pairwise fun bin bin' => rank row bin < rank row bin' :=
  (Ranking.pairwise_insertionSort_descending reported_ascending).imp fun h => rank_lt.2 h

theorem sortedBins_perm : (sortedBins config row).Perm (reported config row) := List.perm_insertionSort _ _

theorem mem_keptBins : bin ∈ keptBins config row ↔ bin ∈ reported config row ∧
    ((reported config row).filter fun bin' => decide (rank row bin' < rank row bin)).length <
      config.val.maximum_peaks_per_row.toNat := by
  unfold keptBins
  rw [Ranking.mem_take_key_iff (sortedBins_ranked config row), sortedBins_perm.mem_iff,
    (sortedBins_perm.filter _).length_eq]

/-- The kept bins are the peaks of the row exactly when no shoulder is among them. -/
theorem peaksOf_keptBins_iff (hlimit : 1 ≤ config.val.maximum_peaks_per_row) :
    PeaksOf config row (keptBins config row) ↔ ShouldersCut config row := by
  constructor
  · intro hpeaks bin hshoulder
    by_contra hfew
    have hkept : bin ∈ keptBins config row := mem_keptBins.2 ⟨mem_reported_iff.2 (Or.inr hshoulder), by omega⟩
    obtain ⟨start, stop, hrun, hlow, hhigh⟩ := hpeaks.inside bin hkept
    have hfirst := hshoulder
    obtain ⟨-, -, -, -, hrises, -⟩ := hfirst
    obtain rfl := eq_start_of_rises hrun.level hlow hhigh hrises
    exact not_shoulder_of_peakRun hrun hshoulder
  · intro hcut
    have hstarts : ∀ bin ∈ keptBins config row, ∃ stop, PeakRun config row bin stop := by
      intro bin hbin
      obtain ⟨hreported, hfew⟩ := mem_keptBins.1 hbin
      rcases mem_reported_iff.1 hreported with hpeak | hshoulder
      · exact hpeak
      · have hmany := hcut bin hshoulder
        omega
    have htake : keptBins config row ++ (sortedBins config row).drop config.val.maximum_peaks_per_row.toNat =
        sortedBins config row := List.take_append_drop _ _
    have hranked := sortedBins_ranked config row
    rw [← htake, List.pairwise_append] at hranked
    constructor
    · intro bin hbin
      obtain ⟨stop, hrun⟩ := hstarts bin hbin
      exact ⟨bin, stop, hrun, le_rfl, hrun.level.1⟩
    · intro bin hbin bin' hbin' start stop hrun hlow hhigh hlow' hhigh'
      obtain ⟨_, hpeak⟩ := hstarts bin hbin
      obtain ⟨_, hpeak'⟩ := hstarts bin' hbin'
      rw [eq_start_of_rises hrun.level hlow hhigh hpeak.rises, eq_start_of_rises hrun.level hlow' hhigh' hpeak'.rises]
    · exact hranked.1.imp fun hlt heq => absurd (heq ▸ hlt) (lt_irrefl _)
    · have hlength := List.length_take_le config.val.maximum_peaks_per_row.toNat (sortedBins config row)
      unfold keptBins
      omega
    · intro start stop hrun hnone
      have hout : start ∉ keptBins config row := fun hin => hnone start hin ⟨le_rfl, hrun.level.1⟩
      have hreported : start ∈ sortedBins config row := sortedBins_perm.mem_iff.2 (mem_reported_iff.2 (Or.inl ⟨stop, hrun⟩))
      have hdropped : start ∈ (sortedBins config row).drop config.val.maximum_peaks_per_row.toNat := by
        rw [← htake] at hreported
        exact (List.mem_append.1 hreported).resolve_left hout
      refine ⟨?_, fun bin hbin => ?_⟩
      · have hlong : config.val.maximum_peaks_per_row.toNat < (sortedBins config row).length := by
          by_contra hshort
          rw [List.drop_eq_nil_of_le (not_lt.1 hshort)] at hdropped
          cases hdropped
        unfold keptBins
        rw [List.length_take]
        omega
      · rcases rank_lt.1 (hranked.2.2 bin hbin start hdropped) with hlt | ⟨heq, -⟩
        · exact hlt.le
        · exact heq.le
    · refine hranked.1.imp fun hlt => ?_
      rcases rank_lt.1 hlt with hlt | ⟨heq, -⟩
      · exact hlt.le
      · exact heq.le

end Bins

/-! ## The peaks of a row -/

section RowPeaks

variable {spectrogram : SpectrogramSlice} {config : Config} {row_index : Nat} {row : SpectrogramRow} {identity next : Nat}
  {peaks : List Peak}

/-- The peak is that of a bin of the row. -/
def PeakAt (spectrogram : SpectrogramSlice) (row_index : Nat) (row : SpectrogramRow) (peak : Peak) (bin : Nat) : Prop :=
  peak.row_index = row_index ∧ pointAt spectrogram row_index row bin = .ok peak.point

/-- The contract accepts the point of every reported bin. -/
def Pointed (spectrogram : SpectrogramSlice) (config : Config) (row_index : Nat) (row : SpectrogramRow) : Prop :=
  ∀ bin ∈ reported config row, ∃ point, pointAt spectrogram row_index row bin = .ok point

/-- What a row yields: nothing when it is suppressed, otherwise the points of its kept bins. -/
def Yields (spectrogram : SpectrogramSlice) (config : Config) (row_index : Nat) (row : SpectrogramRow)
    (peaks : List Peak) : Prop :=
  if Broadband config row then peaks = []
  else List.Forall₂ (PeakAt spectrogram row_index row) peaks (keptBins config row)

theorem excess_of_peakAt {peak : Peak} {bin : Nat} (h : PeakAt spectrogram row_index row peak bin) :
    peak.point.val.local_peak_excess_db = excess row bin := by
  rw [Checked.val_of_make h.2]
  rfl

theorem midpoint_of_peakAt {peak : Peak} {bin : Nat} (h : PeakAt spectrogram row_index row peak bin) :
    peak.point.val.midpoint_utc_ns = row.val.midpoint_utc_ns := by
  rw [Checked.val_of_make h.2]

/-- The peaks that are found, in the order of their bins and of their identities. -/
theorem found_ok {found : List Peak}
    (h : ((reported config row).zipIdx.mapM fun x => do
      let point ← pointAt spectrogram row_index row x.1
      pure (Peak.mk (identity + x.2) row_index point)) = .ok found) :
    List.Forall₂ (PeakAt spectrogram row_index row) found (reported config row) ∧
      found.map Peak.identity = List.range' identity found.length := by
  have hall := mapM_ok.1 h
  have hpeak : List.Forall₂ (fun x peak => PeakAt spectrogram row_index row peak x.1 ∧ peak.identity = identity + x.2)
      (reported config row).zipIdx found := by
    refine hall.imp fun x peak hx => ?_
    obtain ⟨point, hpoint, hx⟩ := bind_ok.1 hx
    cases hx
    exact ⟨⟨rfl, hpoint⟩, rfl⟩
  constructor
  · have hbins : List.Forall₂ (fun bin peak => PeakAt spectrogram row_index row peak bin)
        ((reported config row).zipIdx.map Prod.fst) found :=
      List.forall₂_map_left_iff.2 (hpeak.imp fun _ _ hx => hx.1)
    rw [List.zipIdx_map_fst] at hbins
    exact hbins.flip
  · have hlength : found.length = (reported config row).length := by
      rw [← hall.length_eq, List.length_zipIdx]
    have hidentities : found.map Peak.identity = (reported config row).zipIdx.map fun x => identity + x.2 := by
      have heq : List.Forall₂ (· = ·) (found.map Peak.identity) ((reported config row).zipIdx.map fun x => identity + x.2) :=
        List.forall₂_map_left_iff.2 (List.forall₂_map_right_iff.2 (hpeak.flip.imp fun peak x hx => hx.2))
      rwa [List.forall₂_eq_eq_eq] at heq
    rw [hidentities, hlength]
    have hsplit : ((reported config row).zipIdx.map fun x => identity + x.2) =
        (((reported config row).zipIdx.map Prod.snd).map fun i => identity + i) := by
      rw [List.map_map]
      rfl
    rw [hsplit, List.zipIdx_map_snd, List.map_add_range']
    rfl

/-- One row. -/
theorem rowPeaks_ok (h : rowPeaks spectrogram config row_index row identity = .ok (peaks, next)) :
    (Broadband config row ∨ Pointed spectrogram config row_index row) ∧ Yields spectrogram config row_index row peaks ∧
      identity ≤ next ∧ (∀ peak ∈ peaks, identity ≤ peak.identity ∧ peak.identity < next) ∧
      (peaks.map Peak.identity).Nodup := by
  unfold rowPeaks at h
  unfold Yields
  by_cases hbroad : Broadband config row
  · rw [if_pos hbroad] at h ⊢
    cases h
    exact ⟨Or.inl hbroad, rfl, le_rfl, fun _ hmem => absurd hmem List.not_mem_nil, List.nodup_nil⟩
  · rw [if_neg hbroad] at h ⊢
    obtain ⟨found, hfound, h⟩ := bind_ok.1 h
    cases h
    obtain ⟨hpeaks, hidentities⟩ := found_ok hfound
    set sorted := found.insertionSort fun a b =>
      b.point.val.local_peak_excess_db.line ≤ a.point.val.local_peak_excess_db.line with hsorted
    have hmatched : List.Forall₂ (PeakAt spectrogram row_index row) sorted (sortedBins config row) :=
      Ranking.forall₂_insertionSort (fun peak : Peak => peak.point.val.local_peak_excess_db.line)
        (fun bin => (excess row bin).line) (fun peak bin hpeak => by rw [excess_of_peakAt hpeak]) hpeaks
    have hperm : sorted.Perm found := List.perm_insertionSort _ _
    refine ⟨Or.inr fun bin hbin => ?_, List.forall₂_take _ hmatched, Nat.le_add_right _ _, fun peak hpeak => ?_, ?_⟩
    · obtain ⟨peak, -, hpeak⟩ := Json.exists_mem_of_forall₂ hpeaks.flip hbin
      exact ⟨peak.point, hpeak.2⟩
    · have hin : peak.identity ∈ found.map Peak.identity :=
        List.mem_map_of_mem (hperm.mem_iff.1 (List.mem_of_mem_take hpeak))
      rw [hidentities, List.mem_range'_1] at hin
      exact hin
    · refine List.Nodup.sublist ((List.take_sublist _ sorted).map _) ((hperm.map _).nodup_iff.2 ?_)
      rw [hidentities]
      exact List.nodup_range'

theorem exists_rowPeaks (identity : Nat) (h : Broadband config row ∨ Pointed spectrogram config row_index row) :
    ∃ result, rowPeaks spectrogram config row_index row identity = .ok result := by
  unfold rowPeaks
  split
  · exact ⟨_, rfl⟩
  · rename_i hbroad
    have hpoints := h.resolve_left hbroad
    refine exists_bind_ok (exists_mapM_ok (fun x hx => ?_)).choose_spec ⟨_, rfl⟩
    have hbin : x.1 ∈ reported config row := by
      rw [← List.zipIdx_map_fst 0 (reported config row)]
      exact List.mem_map_of_mem hx
    obtain ⟨point, hpoint⟩ := hpoints x.1 hbin
    exact ⟨_, bind_ok.2 ⟨point, hpoint, rfl⟩⟩

end RowPeaks

/-! ## All rows -/

section Rows

variable {spectrogram : SpectrogramSlice} {config : Config}

/-- The rows of peaks of a spectrogram, with the identities told apart. -/
structure Extracted (spectrogram : SpectrogramSlice) (config : Config) (row_index : Nat) (rows : List SpectrogramRow)
    (peaks : List (List Peak)) : Prop where
  length : peaks.length = rows.length
  yields : ∀ k row found, rows[k]? = some row → peaks[k]? = some found →
    Yields spectrogram config (row_index + k) row found
  identities : (peaks.flatten.map Peak.identity).Nodup

theorem extractRows_ok {rows : List SpectrogramRow} {row_index identity : Nat} {peaks : List (List Peak)}
    (h : extractRows spectrogram config row_index identity rows = .ok peaks) :
    Extracted spectrogram config row_index rows peaks ∧ (∀ peak ∈ peaks.flatten, identity ≤ peak.identity) ∧
      ∀ k row, rows[k]? = some row → Broadband config row ∨ Pointed spectrogram config (row_index + k) row := by
  induction rows generalizing row_index identity peaks with
  | nil =>
    cases h
    exact ⟨⟨rfl, fun k row found hrow => by simp at hrow, List.nodup_nil⟩, fun _ hmem => absurd hmem List.not_mem_nil,
      fun k row hrow => by simp at hrow⟩
  | cons row rest ih =>
    unfold extractRows at h
    obtain ⟨⟨found, next⟩, hrow, h⟩ := bind_ok.1 h
    obtain ⟨rows, hrest, h⟩ := bind_ok.1 h
    cases h
    obtain ⟨hpointed, hyields, hnext, hrange, hnodup⟩ := rowPeaks_ok hrow
    obtain ⟨hextracted, hlater, hpoints⟩ := ih hrest
    have hshift : ∀ k, row_index + (k + 1) = row_index + 1 + k := fun k => by omega
    refine ⟨⟨?_, ?_, ?_⟩, ?_, ?_⟩
    · rw [List.length_cons, List.length_cons, hextracted.length]
    · intro k row' found' hrow' hfound'
      cases k with
      | zero =>
        cases hrow'
        cases hfound'
        exact hyields
      | succ k =>
        rw [hshift]
        exact hextracted.yields k row' found' hrow' hfound'
    · rw [List.flatten_cons, List.map_append, List.nodup_append]
      refine ⟨hnodup, hextracted.identities, ?_⟩
      intro a ha b hb heq
      obtain ⟨peak, hpeak, rfl⟩ := List.mem_map.1 ha
      obtain ⟨peak', hpeak', rfl⟩ := List.mem_map.1 hb
      have hlow := (hrange peak hpeak).2
      have hhigh := hlater peak' hpeak'
      omega
    · intro peak hpeak
      rcases List.mem_append.1 hpeak with hfirst | hrestmem
      · exact (hrange peak hfirst).1
      · exact hnext.trans (hlater peak hrestmem)
    · intro k row' hrow'
      cases k with
      | zero =>
        cases hrow'
        exact hpointed
      | succ k =>
        rw [hshift]
        exact hpoints k row' hrow'

theorem exists_extractRows {rows : List SpectrogramRow} {row_index : Nat} (identity : Nat)
    (h : ∀ k row, rows[k]? = some row → Broadband config row ∨ Pointed spectrogram config (row_index + k) row) :
    ∃ peaks, extractRows spectrogram config row_index identity rows = .ok peaks := by
  induction rows generalizing row_index identity with
  | nil => exact ⟨[], rfl⟩
  | cons row rest ih =>
    obtain ⟨⟨found, next⟩, hrow⟩ := exists_rowPeaks identity (h 0 row rfl)
    have hrest : ∀ k row', rest[k]? = some row' → Broadband config row' ∨ Pointed spectrogram config (row_index + 1 + k) row' := by
      intro k row' hrow'
      have hlater := h (k + 1) row' hrow'
      rwa [← Nat.add_assoc, Nat.add_right_comm] at hlater
    obtain ⟨rows, hrows⟩ := ih next hrest
    unfold extractRows
    exact exists_bind_ok hrow (exists_bind_ok hrows ⟨_, rfl⟩)

end Rows

end BlindDoppler

end LeoFlow
