import LeoFlow.Analysis.BlindDopplerPeaks
import LeoFlow.Core.Extrema

/-!
# LeoFlow.Analysis.BlindDopplerTracks — tracks through the peaks

`_continuity_links` and `_extract_tracks` of `analysis/tracking/blind_doppler.py`. A track starts
from a pair of linked peaks and is extended by links; of the proposed tracks of a component
those are accepted that share few points with the ones accepted before. The components may be any
lists of peaks; `sum` of floats is a parameter, which since Python 3.12 compensates the rounding.
-/

namespace LeoFlow

namespace BlindDoppler

def MAX_TRACK_SEEDS_PER_COMPONENT : Nat := 512

/-- `_Track` -/
structure Track where
  component_id : Nat
  peaks : List Peak

/-! ## Links -/

/-- `1e9` -/
def billion : PyFloat := PyFloat.ofRatio false 1000000000 1

/-- `(later.point.midpoint_utc_ns - earlier.point.midpoint_utc_ns) / 1e9` -/
def seconds (earlier later : Peak) : Except PyError PyFloat := do
  let elapsed ← Num.toFloat (.int (later.point.val.midpoint_utc_ns - earlier.point.val.midpoint_utc_ns))
  pure (elapsed.div billion)

/-- The frequencies are within the linking bound. -/
def withinBound (config : Config) (earlier later : Peak) : Except PyError Bool := do
  let dt ← seconds earlier later
  let bound := config.val.maximum_frequency_step_hz.add (config.val.maximum_abs_drift_rate_hz_s.mul dt)
  pure (decide ((later.point.val.frequency_hz.sub earlier.point.val.frequency_hz).abs.AtMost bound))

/-- The peaks that a peak may be linked to, row by row. -/
def reach (rows : List (List Peak)) (config : Config) (row_index : Nat) : List Peak :=
  (List.range (config.val.maximum_missing_rows + 1).toNat).flatMap fun gap => rows.getD (row_index + gap + 1) []

def targets (rows : List (List Peak)) (config : Config) (row_index : Nat) (earlier : Peak) : Except PyError (List Nat) := do
  let found ← (reach rows config row_index).mapM fun later => do
    let within ← withinBound config earlier later
    pure (if within then some later.identity else none)
  pure found.reduceOption

/-- `_continuity_links` -/
def continuity_links (rows : List (List Peak)) (config : Config) : Except PyError (List (Nat × List Nat)) :=
  (rows.zipIdx.flatMap fun row => row.1.map fun earlier => (row.2, earlier)).mapM fun x => do
    let found ← targets rows config x.1 x.2
    pure (x.2.identity, found)

/-- `links[identity]` -/
def linksOf (links : List (Nat × List Nat)) (identity : Nat) : Except PyError (List Nat) :=
  match links.find? fun entry => decide (entry.1 = identity) with
  | some entry => .ok entry.2
  | none => .error ⟨.key_error, toString identity⟩

/-! ## Tracks -/

section Extraction

variable (sum : List PyFloat → PyFloat) (component : List Peak) (links : List (Nat × List Nat)) (config : Config)

/-- `[by_id[identity] for identity in identities if identity in by_id]` -/
def members (identities : List Nat) : List Peak :=
  identities.filterMap fun identity => component.find? fun peak => decide (peak.identity = identity)

/-- `_prediction_error` -/
def prediction_error (peak current : Peak) (rate : PyFloat) :
    Except PyError (Nat ×ₗ WithBot (WithTop ℚ) ×ₗ WithBot (WithTop ℚ)) := do
  let dt ← seconds current peak
  let prediction := current.point.val.frequency_hz.add (rate.mul dt)
  pure (toLex (peak.row_index, toLex ((peak.point.val.frequency_hz.sub prediction).abs.line,
    peak.point.val.local_peak_excess_db.neg.line)))

/-- `_select_prediction` -/
def select_prediction (options : List Peak) (current : Peak) (rate : PyFloat) : Except PyError (Option Peak) := do
  let keys ← options.mapM fun peak => do
    let key ← prediction_error peak current rate
    pure (key, peak)
  pure ((keys.argmin Prod.fst).map Prod.snd)

/-- The rate of a pair of peaks. -/
def rateOf (previous current : Peak) : Except PyError PyFloat := do
  let dt0 ← seconds previous current
  if dt0.IsZero then .error Num.zeroDivisionError
  else pure ((current.point.val.frequency_hz.sub previous.point.val.frequency_hz).div dt0)

/-- The peaks after a pair; the rows of the component bound their number. -/
def extend : Nat → Peak → Peak → List Nat → Except PyError (List Peak)
  | 0, _, _, _ => .error ⟨.recursion_error, "more points than rows"⟩
  | fuel + 1, previous, current, used_rows => do
    let rate ← rateOf previous current
    let identities ← linksOf links current.identity
    let options := (members component identities).filter fun peak => decide (peak.row_index ∉ used_rows)
    let choice ← select_prediction options current rate
    match choice with
    | none => pure []
    | some chosen => do
      let rest ← extend fuel current chosen (chosen.row_index :: used_rows)
      pure (chosen :: rest)

/-- The path of a seed pair. -/
def seedPath (seed : Peak × Peak) : Except PyError (List Peak) := do
  let rest ← extend component links (component.length + 1) seed.1 seed.2 [seed.1.row_index, seed.2.row_index]
  pure (seed.1 :: seed.2 :: rest)

/-- The linked pairs of a component, those of most excess first. -/
def seedPairs : Except PyError (List (Peak × Peak)) := do
  let pairs ← component.mapM fun first => do
    let identities ← linksOf links first.identity
    pure ((members component identities).map fun second => (first, second))
  pure (pairs.flatten.insertionSort fun a b =>
    (b.1.point.val.local_peak_excess_db.add b.2.point.val.local_peak_excess_db).line ≤
      (a.1.point.val.local_peak_excess_db.add a.2.point.val.local_peak_excess_db).line)

/-- `proposals[key] = path` -/
def propose (proposals : List (List Nat × List Peak)) (path : List Peak) : List (List Nat × List Peak) :=
  let key := path.map Peak.identity
  if key ∈ proposals.map Prod.fst then proposals.map fun entry => if entry.1 = key then (key, path) else entry
  else proposals ++ [(key, path)]

/-- The longer path first, and of paths of one length that of more excess. -/
def pathKey (path : List Peak) : Nat ×ₗ WithBot (WithTop ℚ) :=
  toLex (path.length, (sum (path.map fun peak => peak.point.val.local_peak_excess_db)).line)

/-- The points that two paths share. -/
def shared (path path' : List Peak) : Nat :=
  ((path.map Peak.identity).toFinset ∩ (path'.map Peak.identity).toFinset).card

/-- Two paths share too much. -/
@[reducible] def Overlaps (path prior : List Peak) : Prop :=
  config.val.overlap_suppression_fraction.AtMost (trueDiv (shared path prior) (min path.length prior.length))

/-- A path is accepted unless it shares too much with one accepted before. -/
def accept (accepted : List (List Peak)) (path : List Peak) : List (List Peak) :=
  if ∃ prior ∈ accepted, Overlaps config path prior then accepted else accepted ++ [path]

/-- The tracks of one component, and the number of seeds that are left out. -/
def componentTracks : Except PyError (List (List Peak) × Nat) := do
  let seeds ← seedPairs component links
  let paths ← (seeds.take MAX_TRACK_SEEDS_PER_COMPONENT).mapM (seedPath component links)
  let proposals := paths.foldl propose []
  let ordered := (proposals.map Prod.snd).insertionSort fun a b => pathKey sum b ≤ pathKey sum a
  pure (ordered.foldl (accept config) [], seeds.length - MAX_TRACK_SEEDS_PER_COMPONENT)

end Extraction

/-- `_extract_tracks` -/
def extract_tracks (sum : List PyFloat → PyFloat) (components : List (List Peak)) (links : List (Nat × List Nat))
    (config : Config) : Except PyError (List Track × Nat) := do
  let found ← components.zipIdx.mapM fun x => do
    let (paths, truncated) ← componentTracks sum x.1 links config
    pure (paths.map (Track.mk x.2), truncated)
  pure ((found.map Prod.fst).flatten, (found.map Prod.snd).sum)

/-! ## Time differences -/

theorem billion_value : billion.IsFinite ∧ billion.value = 1000000000 := by decide +kernel

/-- The time difference of two peaks is a float. -/
def Timed (earlier later : Peak) : Prop :=
  ∃ f, Num.toFloat (.int (later.point.val.midpoint_utc_ns - earlier.point.val.midpoint_utc_ns)) = .ok f

section Seconds

variable {earlier later : Peak} {config : Config}

theorem exists_seconds (h : Timed earlier later) : ∃ dt, seconds earlier later = .ok dt := by
  obtain ⟨elapsed, helapsed⟩ := h
  exact ⟨_, bind_ok.2 ⟨elapsed, helapsed, rfl⟩⟩

theorem timed_of_seconds {dt : PyFloat} (h : seconds earlier later = .ok dt) : Timed earlier later := by
  obtain ⟨elapsed, helapsed, _⟩ := bind_ok.1 h
  exact ⟨elapsed, helapsed⟩

/-- A later time is not at a distance of zero. -/
theorem seconds_not_isZero {dt : PyFloat} (h : seconds earlier later = .ok dt)
    (htimes : earlier.point.val.midpoint_utc_ns < later.point.val.midpoint_utc_ns) : ¬dt.IsZero := by
  obtain ⟨elapsed, helapsed, hdt⟩ := bind_ok.1 h
  cases hdt
  obtain ⟨hfinite, hvalue⟩ := PyFloat.one_le_toFloat (by omega) helapsed
  rw [PyFloat.div_finite hfinite billion_value.1, billion_value.2]
  have hquotient : (1 : ℚ) / 1000000000 ≤ elapsed.value / 1000000000 := div_le_div_of_nonneg_right hvalue (by norm_num)
  have hpositive : 0 < elapsed.value / 1000000000 := lt_of_lt_of_le (by norm_num) hquotient
  rw [if_neg hpositive.ne']
  refine PyFloat.nearest_not_isZero ?_
  rw [abs_of_pos hpositive]
  calc (1 : ℚ) ≤ 1 / 1000000000 * 2 ^ 30 := by norm_num
    _ ≤ 1 / 1000000000 * 2 ^ 1074 := mul_le_mul_of_nonneg_left (pow_le_pow_right₀ one_le_two (by decide)) (by norm_num)
    _ ≤ elapsed.value / 1000000000 * 2 ^ 1074 := mul_le_mul_of_nonneg_right hquotient (by positivity)

end Seconds

/-! ## Links of extracted peaks -/

/-- Two peaks that a track may visit one after the other. -/
structure Linked (config : Config) (earlier later : Peak) : Prop where
  rows : earlier.row_index < later.row_index
  gap : (later.row_index : Int) ≤ earlier.row_index + config.val.maximum_missing_rows + 1
  bound : withinBound config earlier later = .ok true

/-- What the links rely on: peaks of their rows, told apart by identity, with times that increase with the rows. -/
structure Placed (rows : List (List Peak)) : Prop where
  index : ∀ (k : Nat) (found : List Peak), rows[k]? = some found → ∀ peak ∈ found, peak.row_index = k
  identities : (rows.flatten.map Peak.identity).Nodup
  times : ∀ earlier ∈ rows.flatten, ∀ later ∈ rows.flatten, earlier.row_index < later.row_index →
    earlier.point.val.midpoint_utc_ns < later.point.val.midpoint_utc_ns

variable {row_index : Nat} {peak : Peak} {found : List Peak}

section Placing

variable {spectrogram : SpectrogramSlice} {config : Config} {rows : List (List Peak)}

theorem checkRows_ok {bins : Nat} {rows : List SpectrogramRow} {previous_time : Int} (h : checkRows bins rows previous_time = .ok ()) :
    (∀ row ∈ rows, previous_time < row.val.midpoint_utc_ns) ∧
      rows.Pairwise fun row row' => row.val.midpoint_utc_ns < row'.val.midpoint_utc_ns := by
  induction rows generalizing previous_time with
  | nil => exact ⟨fun _ hmem => absurd hmem List.not_mem_nil, .nil⟩
  | cons row rest ih =>
    unfold checkRows at h
    simp only [checkAll_cons, checkAll_nil, raiseIf_ok] at h
    obtain ⟨_, htime, hrest, _⟩ := h
    obtain ⟨hlater, hpairwise⟩ := ih hrest
    refine ⟨fun row' hrow' => ?_, List.pairwise_cons.2 ⟨hlater, hpairwise⟩⟩
    rcases List.mem_cons.1 hrow' with rfl | hrow'
    · omega
    · have := hlater row' hrow'
      omega

/-- A peak of a row. -/
theorem peak_of_yields {row : SpectrogramRow} {peaks : List Peak}
    (h : Yields spectrogram config row_index row peaks) (hpeak : peak ∈ peaks) :
    peak.row_index = row_index ∧ peak.point.val.midpoint_utc_ns = row.val.midpoint_utc_ns := by
  unfold Yields at h
  split at h
  · rw [h] at hpeak
    cases hpeak
  · obtain ⟨bin, -, hbin⟩ := Json.exists_mem_of_forall₂ h hpeak
    exact ⟨hbin.1, midpoint_of_peakAt hbin⟩

theorem exists_spectrogramRow (h : Extracted spectrogram config 0 spectrogram.val.rows rows) {k : Nat}
    (hk : rows[k]? = some found) : ∃ row, spectrogram.val.rows[k]? = some row := by
  have hlength := (List.getElem?_eq_some_iff.1 hk).1
  rw [h.length] at hlength
  exact ⟨_, List.getElem?_eq_getElem hlength⟩

/-- The rows of a spectrogram are in the order of their times. -/
theorem rows_ascending (spectrogram : SpectrogramSlice) :
    spectrogram.val.rows.Pairwise fun row row' => row.val.midpoint_utc_ns < row'.val.midpoint_utc_ns := by
  have hrows := ok_of_checkAll (c := checkRows spectrogram.val.frequency_bin_offsets_hz.length spectrogram.val.rows (-1))
    spectrogram.ok (List.mem_append_right _ (by simp))
  exact (checkRows_ok hrows).2

/-- A peak of the extraction stands in its row. -/
theorem exists_row (h : Extracted spectrogram config 0 spectrogram.val.rows rows) (hpeak : peak ∈ rows.flatten) :
    ∃ row found, spectrogram.val.rows[peak.row_index]? = some row ∧ rows[peak.row_index]? = some found ∧ peak ∈ found ∧
      Yields spectrogram config peak.row_index row found ∧ peak.point.val.midpoint_utc_ns = row.val.midpoint_utc_ns := by
  obtain ⟨found, hfound, hpeak⟩ := List.mem_flatten.1 hpeak
  obtain ⟨k, hk⟩ := List.mem_iff_getElem?.1 hfound
  obtain ⟨row, hrow⟩ := exists_spectrogramRow h hk
  have hyields := h.yields k row found hrow hk
  rw [Nat.zero_add] at hyields
  obtain ⟨rfl, htime⟩ := peak_of_yields hyields hpeak
  exact ⟨row, found, hrow, hk, hpeak, hyields, htime⟩

theorem placed_of_extracted (h : Extracted spectrogram config 0 spectrogram.val.rows rows) : Placed rows where
  index := by
    intro k found hfound peak hpeak
    obtain ⟨row, hrow⟩ := exists_spectrogramRow h hfound
    have hyields := h.yields k row found hrow hfound
    rw [Nat.zero_add] at hyields
    exact (peak_of_yields hyields hpeak).1
  identities := h.identities
  times := by
    intro earlier hearlier later hlater hlt
    obtain ⟨row, _, hrow, _, _, _, htime⟩ := exists_row h hearlier
    obtain ⟨row', _, hrow', _, _, _, htime'⟩ := exists_row h hlater
    obtain ⟨hbound, rfl⟩ := List.getElem?_eq_some_iff.1 hrow
    obtain ⟨hbound', rfl⟩ := List.getElem?_eq_some_iff.1 hrow'
    rw [htime, htime']
    exact List.pairwise_iff_getElem.1 (rows_ascending spectrogram) _ _ hbound hbound' hlt

end Placing

section Linking

variable {config : Config} {rows : List (List Peak)} {links : List (Nat × List Nat)}

/-- The rows of peaks, peak by peak. -/
theorem mem_indexed {x : Nat × Peak} :
    (x ∈ rows.zipIdx.flatMap fun row => row.1.map fun earlier => (row.2, earlier)) ↔ ∃ found, rows[x.1]? = some found ∧ x.2 ∈ found := by
  rw [List.mem_flatMap]
  constructor
  · rintro ⟨row, hrow, hx⟩
    obtain ⟨earlier, hearlier, rfl⟩ := List.mem_map.1 hx
    exact ⟨row.1, List.mem_zipIdx_iff_getElem?.1 hrow, hearlier⟩
  · rintro ⟨found, hfound, hx⟩
    exact ⟨(found, x.1), List.mem_zipIdx_iff_getElem?.2 hfound, List.mem_map.2 ⟨x.2, hx, rfl⟩⟩

theorem mem_flatten_of_row {k : Nat} (hk : rows[k]? = some found) (hpeak : peak ∈ found) :
    peak ∈ rows.flatten :=
  List.mem_flatten.2 ⟨found, List.mem_of_getElem? hk, hpeak⟩

theorem Placed.row (h : Placed rows) (hpeak : peak ∈ rows.flatten) :
    ∃ found, rows[peak.row_index]? = some found ∧ peak ∈ found := by
  obtain ⟨found, hfound, hin⟩ := List.mem_flatten.1 hpeak
  obtain ⟨k, hk⟩ := List.mem_iff_getElem?.1 hfound
  rw [h.index k found hk peak hin]
  exact ⟨found, hk, hin⟩

theorem Placed.eq_of_identity (h : Placed rows) {peak' : Peak} (hpeak : peak ∈ rows.flatten)
    (hpeak' : peak' ∈ rows.flatten) (heq : peak.identity = peak'.identity) : peak = peak' :=
  List.inj_on_of_nodup_map h.identities hpeak hpeak' heq

/-- The peaks within reach of a row stand in the rows after it, up to the limit. -/
theorem mem_reach {later : Peak} : later ∈ reach rows config row_index ↔
    ∃ k found, rows[k]? = some found ∧ later ∈ found ∧ row_index < k ∧ (k : Int) ≤ row_index + config.val.maximum_missing_rows + 1 := by
  unfold reach
  rw [List.mem_flatMap]
  constructor
  · rintro ⟨gap, hgap, hlater⟩
    rw [List.mem_range] at hgap
    cases hrow : rows[row_index + gap + 1]? with
    | none =>
      rw [List.getD_eq_getElem?_getD, hrow] at hlater
      cases hlater
    | some found =>
      rw [List.getD_eq_getElem?_getD, hrow] at hlater
      exact ⟨row_index + gap + 1, found, hrow, hlater, by omega, by omega⟩
  · rintro ⟨k, found, hrow, hlater, hlow, hhigh⟩
    obtain ⟨gap, rfl⟩ := Nat.exists_eq_add_of_lt hlow
    refine ⟨gap, List.mem_range.2 (by omega), ?_⟩
    rw [List.getD_eq_getElem?_getD, hrow]
    exact hlater

/-- The targets of a peak are linked to it. -/
theorem linked_of_targets (hplaced : Placed rows) {later : Peak} {found : List Nat}
    (h : targets rows config peak.row_index peak = .ok found) (hlater : later ∈ rows.flatten)
    (hin : later.identity ∈ found) :
    Linked config peak later := by
  obtain ⟨options, hoptions, hfound⟩ := bind_ok.1 h
  cases hfound
  obtain ⟨x, hx, hkept⟩ := Json.exists_mem_of_forall₂ (mapM_ok.1 hoptions).flip (List.reduceOption_mem_iff.1 hin)
  obtain ⟨within, hwithin, hkept⟩ := bind_ok.1 hkept
  have hsome : (if within then some x.identity else none) = some later.identity := Except.ok.inj hkept
  obtain ⟨k, row, hrow, hxrow, hlow, hhigh⟩ := mem_reach.1 hx
  cases within with
  | false => cases hsome
  | true =>
    have hidentity : x.identity = later.identity := Option.some.inj hsome
    obtain rfl := hplaced.eq_of_identity (mem_flatten_of_row hrow hxrow) hlater hidentity
    have hindex := hplaced.index k row hrow x hxrow
    exact ⟨by rw [hindex]; exact hlow, by rw [hindex]; exact hhigh, hwithin⟩

/-- The links of a peak. -/
theorem linksOf_ok (hplaced : Placed rows) (h : continuity_links rows config = .ok links)
    (hpeak : peak ∈ rows.flatten) : ∃ found, linksOf links peak.identity = .ok found ∧
      ∀ later ∈ rows.flatten, later.identity ∈ found → Linked config peak later := by
  have hall := mapM_ok.1 h
  obtain ⟨row, hrow, hin⟩ := hplaced.row hpeak
  have hpresent : ∃ entry ∈ links, entry.1 = peak.identity := by
    obtain ⟨entry, hentry, hread⟩ := Json.exists_mem_of_forall₂ hall (mem_indexed.2 ⟨row, hrow, hin⟩ : (peak.row_index, peak) ∈ _)
    obtain ⟨found, -, hentry'⟩ := bind_ok.1 hread
    exact ⟨entry, hentry, congrArg Prod.fst (Except.ok.inj hentry').symm⟩
  unfold linksOf
  cases hfind : links.find? fun entry => decide (entry.1 = peak.identity) with
  | none =>
    obtain ⟨entry, hentry, heq⟩ := hpresent
    exact absurd (decide_eq_true heq) (List.find?_eq_none.1 hfind entry hentry)
  | some entry =>
    have hkey := List.find?_some hfind
    rw [decide_eq_true_eq] at hkey
    obtain ⟨⟨k, peak'⟩, hx, hread⟩ := Json.exists_mem_of_forall₂ hall.flip (List.mem_of_find?_eq_some hfind)
    obtain ⟨found, hfound, heq⟩ := bind_ok.1 hread
    cases heq
    obtain ⟨row', hrow', hin'⟩ := mem_indexed.1 hx
    obtain rfl := hplaced.eq_of_identity (mem_flatten_of_row hrow' hin') hpeak hkey
    obtain rfl := hplaced.index k row' hrow' peak' hin'
    exact ⟨found, rfl, fun later hlater hmem => linked_of_targets hplaced hfound hlater hmem⟩

theorem exists_withinBound {earlier later : Peak} (h : Timed earlier later) : ∃ within, withinBound config earlier later = .ok within := by
  obtain ⟨dt, hdt⟩ := exists_seconds h
  exact exists_bind_ok hdt ⟨_, rfl⟩

theorem timed_of_withinBound {earlier later : Peak} {within : Bool} (h : withinBound config earlier later = .ok within) :
    Timed earlier later := by
  obtain ⟨dt, hdt, -⟩ := bind_ok.1 h
  exact timed_of_seconds hdt

/-- The time differences within reach are floats. -/
def AllTimed (rows : List (List Peak)) (config : Config) : Prop :=
  ∀ earlier ∈ rows.flatten, ∀ later ∈ rows.flatten, earlier.row_index < later.row_index →
    (later.row_index : Int) ≤ earlier.row_index + config.val.maximum_missing_rows + 1 → Timed earlier later

/-- The links are found exactly when the time differences within reach are floats. -/
theorem exists_links_iff (hplaced : Placed rows) : (∃ links, continuity_links rows config = .ok links) ↔ AllTimed rows config := by
  constructor
  · rintro ⟨links, hlinks⟩ earlier hearlier later hlater hlow hhigh
    obtain ⟨row, hrow, hin⟩ := hplaced.row hearlier
    obtain ⟨row', hrow', hin'⟩ := hplaced.row hlater
    obtain ⟨entry, -, hread⟩ := Json.exists_mem_of_forall₂ (mapM_ok.1 hlinks)
      (mem_indexed.2 ⟨row, hrow, hin⟩ : (earlier.row_index, earlier) ∈ _)
    obtain ⟨found, htargets, -⟩ := bind_ok.1 hread
    obtain ⟨options, hoptions, -⟩ := bind_ok.1 htargets
    obtain ⟨option, -, hoption⟩ := Json.exists_mem_of_forall₂ (mapM_ok.1 hoptions)
      (mem_reach.2 ⟨later.row_index, row', hrow', hin', hlow, hhigh⟩)
    obtain ⟨within, hwithin, -⟩ := bind_ok.1 hoption
    exact timed_of_withinBound hwithin
  · intro htimed
    refine exists_mapM_ok fun x hx => ?_
    obtain ⟨row, hrow, hin⟩ := mem_indexed.1 hx
    have hindex := hplaced.index x.1 row hrow x.2 hin
    have htargets : ∃ found, targets rows config x.1 x.2 = .ok found := by
      refine exists_bind_ok (exists_mapM_ok fun later hlater => ?_).choose_spec ⟨_, rfl⟩
      obtain ⟨k, row', hrow', hin', hlow, hhigh⟩ := mem_reach.1 hlater
      have hindex' := hplaced.index k row' hrow' later hin'
      obtain ⟨within, hwithin⟩ : ∃ within, withinBound config x.2 later = .ok within := exists_withinBound
        (htimed x.2 (mem_flatten_of_row hrow hin) later (mem_flatten_of_row hrow' hin') (by omega) (by omega))
      exact exists_bind_ok hwithin ⟨_, rfl⟩
    obtain ⟨found, hfound⟩ := htargets
    exact exists_bind_ok hfound ⟨_, rfl⟩

end Linking

/-! ## The paths of a component -/

/-- What the links tell about the peaks of a component. -/
structure LinkedBy (config : Config) (component : List Peak) (links : List (Nat × List Nat)) : Prop where
  links : ∀ peak ∈ component, ∃ found, linksOf links peak.identity = .ok found ∧
    ∀ later ∈ component, later.identity ∈ found → Linked config peak later
  times : ∀ earlier ∈ component, ∀ later ∈ component, earlier.row_index < later.row_index →
    earlier.point.val.midpoint_utc_ns < later.point.val.midpoint_utc_ns

theorem linkedBy_of_placed {config : Config} {rows : List (List Peak)} {links : List (Nat × List Nat)} (hplaced : Placed rows)
    (h : continuity_links rows config = .ok links) {component : List Peak} (hcomponent : ∀ peak ∈ component, peak ∈ rows.flatten) :
    LinkedBy config component links where
  links := by
    intro peak hpeak
    obtain ⟨found, hfound, hlinked⟩ := linksOf_ok hplaced h (hcomponent peak hpeak)
    exact ⟨found, hfound, fun later hlater => hlinked later (hcomponent later hlater)⟩
  times := fun earlier hearlier later hlater => hplaced.times earlier (hcomponent earlier hearlier) later (hcomponent later hlater)

/-- A path of a component: strictly increasing rows, and each pair of consecutive points within the linking bounds. -/
structure Path (config : Config) (component path : List Peak) : Prop where
  inside : ∀ peak ∈ path, peak ∈ component
  linked : path.IsChain (Linked config)
  long : 2 ≤ path.length

variable {paths : List (List Peak)}

section Paths

variable {config : Config} {component : List Peak} {links : List (Nat × List Nat)}

theorem mem_members {identities : List Nat} (h : peak ∈ members component identities) :
    peak ∈ component ∧ peak.identity ∈ identities := by
  obtain ⟨identity, hidentity, hfind⟩ := List.mem_filterMap.1 h
  have hkey := List.find?_some hfind
  rw [decide_eq_true_eq] at hkey
  exact ⟨List.mem_of_find?_eq_some hfind, hkey ▸ hidentity⟩

theorem exists_rateOf (hby : LinkedBy config component links) {previous current : Peak} (hprevious : previous ∈ component)
    (hcurrent : current ∈ component) (hlinked : Linked config previous current) : ∃ rate, rateOf previous current = .ok rate := by
  obtain ⟨dt0, hdt0⟩ := exists_seconds (timed_of_withinBound hlinked.bound)
  refine exists_bind_ok hdt0 ?_
  rw [if_neg (seconds_not_isZero hdt0 (hby.times previous hprevious current hcurrent hlinked.rows))]
  exact ⟨_, rfl⟩

theorem exists_select {options : List Peak} {current : Peak} (rate : PyFloat)
    (h : ∀ peak ∈ options, Linked config current peak) :
    ∃ choice, select_prediction options current rate = .ok choice ∧ ∀ chosen ∈ choice, chosen ∈ options := by
  obtain ⟨keys, hkeys⟩ : ∃ keys, (options.mapM fun peak => do
      let key ← prediction_error peak current rate
      pure (key, peak)) = .ok keys := by
    refine exists_mapM_ok fun peak hpeak => ?_
    obtain ⟨dt, hdt⟩ := exists_seconds (timed_of_withinBound (h peak hpeak).bound)
    have herror : ∃ key, prediction_error peak current rate = .ok key := exists_bind_ok hdt ⟨_, rfl⟩
    obtain ⟨key, hkey⟩ := herror
    exact exists_bind_ok hkey ⟨_, rfl⟩
  refine ⟨_, bind_ok.2 ⟨keys, hkeys, rfl⟩, fun chosen hchosen => ?_⟩
  obtain ⟨best, hbest, rfl⟩ := Option.mem_map.1 hchosen
  obtain ⟨peak, hpeak, hkey⟩ := Json.exists_mem_of_forall₂ (mapM_ok.1 hkeys).flip (List.argmin_mem hbest)
  obtain ⟨key, -, hpair⟩ := bind_ok.1 hkey
  cases hpair
  exact hpeak

/-- Fewer rows are left after a row is used. -/
theorem unused_decreases {used : List Nat} {chosen : Peak} (hin : chosen ∈ component) (hnew : chosen.row_index ∉ used) :
    (component.filter fun peak => decide (peak.row_index ∉ chosen.row_index :: used)).length <
      (component.filter fun peak => decide (peak.row_index ∉ used)).length := by
  have hsplit : (component.filter fun peak => decide (peak.row_index ∉ chosen.row_index :: used)) =
      (component.filter fun peak => decide (peak.row_index ∉ used)).filter fun peak => decide (peak.row_index ≠ chosen.row_index) := by
    rw [List.filter_filter]
    refine List.filter_congr fun peak _ => ?_
    simp [List.mem_cons, not_or]
  rw [hsplit, List.length_filter_lt_length_iff_exists]
  exact ⟨chosen, List.mem_filter.2 ⟨hin, decide_eq_true hnew⟩, by simp⟩

/-- The extension of a pair ends, and every point of it is linked to the point before. -/
theorem exists_extend (hby : LinkedBy config component links) {fuel : Nat} {previous current : Peak} {used_rows : List Nat}
    (hprevious : previous ∈ component) (hcurrent : current ∈ component) (hlinked : Linked config previous current)
    (hfuel : (component.filter fun peak => decide (peak.row_index ∉ used_rows)).length < fuel) :
    ∃ rest, extend component links fuel previous current used_rows = .ok rest ∧ (∀ peak ∈ rest, peak ∈ component) ∧
      (current :: rest).IsChain (Linked config) := by
  induction fuel generalizing previous current used_rows with
  | zero => omega
  | succ fuel ih =>
    obtain ⟨rate, hrate⟩ := exists_rateOf hby hprevious hcurrent hlinked
    obtain ⟨found, hfound, hnext⟩ := hby.links current hcurrent
    have hoptions : ∀ peak ∈ (members component found).filter fun peak => decide (peak.row_index ∉ used_rows),
        Linked config current peak := by
      intro peak hpeak
      obtain ⟨hin, hidentity⟩ := mem_members (List.mem_of_mem_filter hpeak)
      exact hnext peak hin hidentity
    obtain ⟨choice, hchoice, hmem⟩ := exists_select rate hoptions
    unfold extend
    cases choice with
    | none =>
      refine ⟨[], bind_ok.2 ⟨rate, hrate, bind_ok.2 ⟨found, hfound, bind_ok.2 ⟨none, hchoice, rfl⟩⟩⟩, ?_, .singleton _⟩
      exact fun _ hmem => absurd hmem List.not_mem_nil
    | some chosen =>
      have hchosen := hmem chosen rfl
      obtain ⟨hin, -⟩ := mem_members (List.mem_of_mem_filter hchosen)
      have hnew := of_decide_eq_true (List.mem_filter.1 hchosen).2
      have hless : (component.filter fun peak => decide (peak.row_index ∉ chosen.row_index :: used_rows)).length < fuel :=
        Nat.lt_of_lt_of_le (unused_decreases hin hnew) (Nat.lt_succ_iff.1 hfuel)
      obtain ⟨rest, hrest, hinside, hchain⟩ := ih hcurrent hin (hoptions chosen hchosen) hless
      refine ⟨chosen :: rest, bind_ok.2 ⟨rate, hrate, bind_ok.2 ⟨found, hfound, bind_ok.2 ⟨some chosen, hchoice, ?_⟩⟩⟩, ?_, ?_⟩
      · exact bind_ok.2 ⟨rest, hrest, rfl⟩
      · exact List.forall_mem_cons.2 ⟨hin, hinside⟩
      · exact List.isChain_cons_cons.2 ⟨hoptions chosen hchosen, hchain⟩

theorem exists_seedPath (hby : LinkedBy config component links) {seed : Peak × Peak} (hfirst : seed.1 ∈ component)
    (hsecond : seed.2 ∈ component) (hlinked : Linked config seed.1 seed.2) :
    ∃ path, seedPath component links seed = .ok path ∧ Path config component path := by
  have hfuel : (component.filter fun peak => decide (peak.row_index ∉ [seed.1.row_index, seed.2.row_index])).length < component.length + 1 :=
    Nat.lt_succ_of_le (List.length_filter_le _ _)
  obtain ⟨rest, hrest, hinside, hchain⟩ := exists_extend hby hfirst hsecond hlinked hfuel
  refine ⟨_, bind_ok.2 ⟨rest, hrest, rfl⟩, ?_, List.isChain_cons_cons.2 ⟨hlinked, hchain⟩, by simp⟩
  exact List.forall_mem_cons.2 ⟨hfirst, List.forall_mem_cons.2 ⟨hsecond, hinside⟩⟩

/-- The seed pairs are linked. -/
theorem exists_seedPairs (hby : LinkedBy config component links) :
    ∃ seeds, seedPairs component links = .ok seeds ∧
      ∀ seed ∈ seeds, seed.1 ∈ component ∧ seed.2 ∈ component ∧ Linked config seed.1 seed.2 := by
  obtain ⟨pairs, hpairs⟩ : ∃ pairs, (component.mapM fun first => do
      let identities ← linksOf links first.identity
      pure ((members component identities).map fun second => (first, second))) = .ok pairs := by
    refine exists_mapM_ok fun first hfirst => ?_
    obtain ⟨found, hfound, -⟩ := hby.links first hfirst
    exact exists_bind_ok hfound ⟨_, rfl⟩
  refine ⟨_, bind_ok.2 ⟨pairs, hpairs, rfl⟩, fun seed hseed => ?_⟩
  obtain ⟨seeds, hseeds, hin⟩ := List.mem_flatten.1 ((List.mem_insertionSort _).1 hseed)
  obtain ⟨first, hfirst, hread⟩ := Json.exists_mem_of_forall₂ (mapM_ok.1 hpairs).flip hseeds
  obtain ⟨identities, hidentities, heq⟩ := bind_ok.1 hread
  cases heq
  obtain ⟨second, hsecond, rfl⟩ := List.mem_map.1 hin
  obtain ⟨hinside, hidentity⟩ := mem_members hsecond
  obtain ⟨found, hfound, hlinked⟩ := hby.links first hfirst
  rw [hidentities] at hfound
  cases hfound
  exact ⟨hfirst, hinside, hlinked second hinside hidentity⟩

theorem mem_propose {proposals : List (List Nat × List Peak)} {path : List Peak} {entry : List Nat × List Peak}
    (h : entry ∈ propose proposals path) : entry.2 = path ∨ entry ∈ proposals := by
  dsimp only [propose] at h
  split at h
  · obtain ⟨entry', hentry', heq⟩ := List.mem_map.1 h
    by_cases hkey : entry'.1 = path.map Peak.identity
    · rw [if_pos hkey] at heq
      exact Or.inl (by rw [← heq])
    · rw [if_neg hkey] at heq
      exact Or.inr (heq ▸ hentry')
  · rcases List.mem_append.1 h with hold | hnew
    · exact Or.inr hold
    · exact Or.inl (by rw [List.mem_singleton.1 hnew])

/-- The proposals are among the paths. -/
theorem mem_proposals {proposals : List (List Nat × List Peak)} {entry : List Nat × List Peak}
    (h : entry ∈ paths.foldl propose proposals) : entry.2 ∈ paths ∨ entry ∈ proposals := by
  induction paths generalizing proposals with
  | nil => exact Or.inr h
  | cons path paths ih =>
    rcases ih h with hlater | hproposed
    · exact Or.inl (List.mem_cons_of_mem _ hlater)
    · rcases mem_propose hproposed with hpath | hold
      · exact Or.inl (by rw [hpath]; exact List.mem_cons_self)
      · exact Or.inr hold

end Paths

/-! ## The suppression of overlapping paths -/

/-- Two paths share less than the suppression fraction of the points of the shorter one. -/
def Apart (config : Config) (path path' : List Peak) : Prop :=
  (shared path path' : ℚ) < config.val.overlap_suppression_fraction.value * (min path.length path'.length : Nat)

section Suppression

variable {config : Config} {component : List Peak} {links : List (Nat × List Nat)} {path path' : List Peak}

theorem shared_comm (path path' : List Peak) : shared path path' = shared path' path := by
  unfold shared
  rw [Finset.inter_comm]

theorem Apart.symm (h : Apart config path path') : Apart config path' path := by
  unfold Apart at h ⊢
  rwa [shared_comm, Nat.min_comm]

theorem shared_le (path path' : List Peak) : shared path path' ≤ min path.length path'.length := by
  have hcard : ∀ path : List Peak, (path.map Peak.identity).toFinset.card ≤ path.length := fun path => by
    calc (path.map Peak.identity).toFinset.card ≤ (path.map Peak.identity).length := List.toFinset_card_le _
      _ = path.length := List.length_map _
  exact Nat.le_min.2 ⟨(Finset.card_le_card Finset.inter_subset_left).trans (hcard path),
    (Finset.card_le_card Finset.inter_subset_right).trans (hcard path')⟩

/-- The suppression fraction is a float between zero and one. -/
theorem fraction_bounds (config : Config) : config.val.overlap_suppression_fraction.IsFinite ∧
    0 ≤ config.val.overlap_suppression_fraction.value ∧ config.val.overlap_suppression_fraction.value ≤ 1 := by
  have hok := config.ok
  simp only [Config.Fields.post_init, checkAll_cons, raiseIf_ok, not_not] at hok
  obtain ⟨hfinite, _, _, _, _, _, _, _, hfraction, _⟩ := hok
  exact ⟨hfinite _ (by simp), hfraction.1, hfraction.2⟩

/-- Paths that the comparison of floats keeps share less than the fraction. -/
theorem apart_of_not_overlaps (hlong : 0 < path.length) (hlong' : 0 < path'.length) (h : ¬Overlaps config path path') :
    Apart config path path' := by
  obtain ⟨hfinite, hnonneg, -⟩ := fraction_bounds config
  have hpoints : (0 : ℚ) < (min path.length path'.length : Nat) := by exact_mod_cast Nat.lt_min.2 ⟨hlong, hlong'⟩
  set ratio : ℚ := (shared path path' : ℚ) / (min path.length path'.length : Nat) with hratio
  have hratio_nonneg : 0 ≤ ratio := div_nonneg (Nat.cast_nonneg _) (Nat.cast_nonneg _)
  have hratio_le : ratio ≤ (1 : Nat) := by
    rw [Nat.cast_one, hratio, div_le_one₀ hpoints]
    exact_mod_cast shared_le path path'
  obtain ⟨hnearest, -, -⟩ := PyFloat.nearest_bounds hratio_nonneg hratio_le (by decide)
  unfold Apart
  by_contra hmuch
  have hle : config.val.overlap_suppression_fraction.value ≤ ratio := (le_div_iff₀ hpoints).2 (not_lt.1 hmuch)
  have hrounded := PyFloat.value_le_nearest hfinite hnonneg hle hnearest
  exact h (PyFloat.atMost_iff hfinite hnearest |>.2 hrounded)

variable {accepted : List (List Peak)}

theorem mem_accept (h : path' ∈ accept config accepted path) : path' = path ∨ path' ∈ accepted := by
  unfold accept at h
  split at h
  · exact Or.inr h
  · exact (List.mem_append.1 h).symm.imp List.mem_singleton.1 id

/-- Accepting a path keeps the accepted paths apart. -/
theorem pairwise_accept (hlong : 0 < path.length) (hprior : ∀ prior ∈ accepted, 0 < prior.length)
    (h : accepted.Pairwise (Apart config)) : (accept config accepted path).Pairwise (Apart config) := by
  unfold accept
  split
  · exact h
  · rename_i hnone
    refine List.pairwise_append.2 ⟨h, List.pairwise_singleton _ _, fun prior hin last hlast => ?_⟩
    rw [List.mem_singleton.1 hlast]
    exact (apart_of_not_overlaps hlong (hprior prior hin) fun hover => hnone ⟨prior, hin, hover⟩).symm

/-- All accepted paths are apart. -/
theorem pairwise_accepted (hpaths : ∀ path ∈ paths, 0 < path.length) (hprior : ∀ prior ∈ accepted, 0 < prior.length)
    (h : accepted.Pairwise (Apart config)) :
    (paths.foldl (accept config) accepted).Pairwise (Apart config) := by
  induction paths generalizing accepted with
  | nil => exact h
  | cons path paths ih =>
    have hlong := hpaths path List.mem_cons_self
    refine ih (fun path' hpath' => hpaths path' (List.mem_cons_of_mem _ hpath')) (fun prior hin => ?_) (pairwise_accept hlong hprior h)
    rcases mem_accept hin with rfl | hold
    · exact hlong
    · exact hprior prior hold

theorem mem_accepted (h : path' ∈ paths.foldl (accept config) accepted) :
    path' ∈ paths ∨ path' ∈ accepted := by
  induction paths generalizing accepted with
  | nil => exact Or.inr h
  | cons path paths ih =>
    rcases ih h with hlater | haccepted
    · exact Or.inl (List.mem_cons_of_mem _ hlater)
    · rcases mem_accept haccepted with rfl | hold
      · exact Or.inl List.mem_cons_self
      · exact Or.inr hold

/-- The tracks of a component: each is a path, and they are apart. -/
theorem exists_componentTracks (sum : List PyFloat → PyFloat) (hby : LinkedBy config component links) :
    ∃ paths truncated, componentTracks sum component links config = .ok (paths, truncated) ∧
      (∀ path ∈ paths, Path config component path) ∧ paths.Pairwise (Apart config) := by
  obtain ⟨seeds, hseeds, hlinked⟩ := exists_seedPairs hby
  obtain ⟨paths, hpaths⟩ : ∃ paths, (seeds.take MAX_TRACK_SEEDS_PER_COMPONENT).mapM (seedPath component links) = .ok paths := by
    refine exists_mapM_ok fun seed hseed => ?_
    obtain ⟨hfirst, hsecond, hlink⟩ := hlinked seed (List.mem_of_mem_take hseed)
    obtain ⟨path, hpath, -⟩ := exists_seedPath hby hfirst hsecond hlink
    exact ⟨path, hpath⟩
  have hall : ∀ path ∈ paths, Path config component path := by
    intro path hin
    obtain ⟨seed, hseed, hread⟩ := Json.exists_mem_of_forall₂ (mapM_ok.1 hpaths).flip hin
    obtain ⟨hfirst, hsecond, hlink⟩ := hlinked seed (List.mem_of_mem_take hseed)
    obtain ⟨path', hpath', hgood⟩ := exists_seedPath hby hfirst hsecond hlink
    rw [hread] at hpath'
    cases hpath'
    exact hgood
  have hordered : ∀ path ∈ ((paths.foldl propose []).map Prod.snd).insertionSort fun a b => pathKey sum b ≤ pathKey sum a,
      Path config component path := by
    intro path hin
    obtain ⟨entry, hentry, rfl⟩ := List.mem_map.1 ((List.mem_insertionSort _).1 hin)
    exact hall _ ((mem_proposals hentry).resolve_right List.not_mem_nil)
  refine ⟨_, _, bind_ok.2 ⟨seeds, hseeds, bind_ok.2 ⟨paths, hpaths, rfl⟩⟩, fun path hin => ?_, ?_⟩
  · exact hordered path ((mem_accepted hin).resolve_right List.not_mem_nil)
  · exact pairwise_accepted (fun path hin => Nat.lt_of_lt_of_le Nat.zero_lt_two (hordered path hin).long)
      (fun _ hmem => absurd hmem List.not_mem_nil) .nil

end Suppression

/-! ## The tracks of all components -/

/-- Each track is a path of its component, and the tracks of one component are apart. -/
structure TracksOk (config : Config) (components : List (List Peak)) (tracks : List Track) : Prop where
  paths : ∀ track ∈ tracks, ∃ component, components[track.component_id]? = some component ∧ Path config component track.peaks
  apart : tracks.Pairwise fun track track' => track.component_id = track'.component_id → Apart config track.peaks track'.peaks

section Components

variable {config : Config} {links : List (Nat × List Nat)}

/-- The components from one index on. -/
theorem exists_tracks_from (sum : List PyFloat → PyFloat) {components : List (List Peak)} (start : Nat)
    (hby : ∀ component ∈ components, LinkedBy config component links) :
    ∃ found, ((components.zipIdx start).mapM fun x => do
        let (paths, truncated) ← componentTracks sum x.1 links config
        pure (paths.map (Track.mk x.2), truncated)) = .ok found ∧
      (∀ track ∈ (found.map Prod.fst).flatten, ∃ k component, track.component_id = start + k ∧
        components[k]? = some component ∧ Path config component track.peaks) ∧
      (found.map Prod.fst).flatten.Pairwise fun track track' =>
        track.component_id = track'.component_id → Apart config track.peaks track'.peaks := by
  induction components generalizing start with
  | nil => exact ⟨[], rfl, fun _ hmem => absurd hmem List.not_mem_nil, .nil⟩
  | cons component components ih =>
    obtain ⟨hfirst, hrest⟩ := List.forall_mem_cons.1 hby
    obtain ⟨paths, truncated, hpaths, hgood, hapart⟩ := exists_componentTracks sum hfirst
    obtain ⟨found, hfound, hlater, hpairwise⟩ := ih (start + 1) hrest
    refine ⟨(paths.map (Track.mk start), truncated) :: found, ?_, ?_, ?_⟩
    · rw [List.zipIdx_cons, List.mapM_cons]
      refine bind_ok.2 ⟨_, bind_ok.2 ⟨(paths, truncated), hpaths, rfl⟩, bind_ok.2 ⟨found, hfound, rfl⟩⟩
    · intro track htrack
      rcases List.mem_append.1 htrack with hin | hin
      · obtain ⟨path, hpath, rfl⟩ := List.mem_map.1 hin
        exact ⟨0, component, rfl, rfl, hgood path hpath⟩
      · obtain ⟨k, component', hid, hk, hpath⟩ := hlater track hin
        exact ⟨k + 1, component', by omega, hk, hpath⟩
    · rw [List.map_cons, List.flatten_cons]
      refine List.pairwise_append.2 ⟨?_, hpairwise, ?_⟩
      · refine List.pairwise_map.2 (hapart.imp ?_)
        intro path path' h _
        exact h
      · intro track hin track' hin' hsame
        obtain ⟨path, -, rfl⟩ := List.mem_map.1 hin
        obtain ⟨k, component', hid, -, -⟩ := hlater track' hin'
        dsimp only at hsame
        omega

theorem exists_extract_tracks (sum : List PyFloat → PyFloat) {components : List (List Peak)}
    (hby : ∀ component ∈ components, LinkedBy config component links) :
    ∃ tracks truncated, extract_tracks sum components links config = .ok (tracks, truncated) ∧ TracksOk config components tracks := by
  obtain ⟨found, hfound, hpaths, hapart⟩ := exists_tracks_from sum 0 hby
  refine ⟨_, _, bind_ok.2 ⟨found, hfound, rfl⟩, fun track htrack => ?_, hapart⟩
  obtain ⟨k, component, hid, hk, hpath⟩ := hpaths track htrack
  rw [Nat.zero_add] at hid
  exact ⟨component, hid ▸ hk, hpath⟩

end Components

/-! ## Peaks and tracks of a spectrogram -/

section Extraction

variable (spectrogram : SpectrogramSlice) (config : Config)

/-- The rows of peaks are those of the spectrogram: none where a row is suppressed, otherwise its peaks. -/
structure PeaksFound (rows : List (List Peak)) : Prop where
  length : rows.length = spectrogram.val.rows.length
  yields : ∀ k row found, spectrogram.val.rows[k]? = some row → rows[k]? = some found → Yields spectrogram config k row found
  peaks : ∀ row ∈ spectrogram.val.rows, ¬Broadband config row → PeaksOf config row (keptBins config row)

/-- The links are found, and with them the tracks of any components. -/
def TracksFound (sum : List PyFloat → PyFloat) (rows : List (List Peak)) : Prop :=
  ∃ links, continuity_links rows config = .ok links ∧
    ∀ components : List (List Peak), (∀ component ∈ components, ∀ peak ∈ component, peak ∈ rows.flatten) →
      ∃ tracks truncated, extract_tracks sum components links config = .ok (tracks, truncated) ∧ TracksOk config components tracks

/-- The row has peaks to link. -/
def HasPeaks (row : SpectrogramRow) : Prop := ¬Broadband config row ∧ reported config row ≠ []

variable {spectrogram config}

theorem one_le_limit (config : Config) : 1 ≤ config.val.maximum_peaks_per_row := by
  have hok := config.ok
  simp only [Config.Fields.post_init, checkAll_cons, raiseIf_ok, not_not] at hok
  exact hok.2.2.1.1

/-- A row with peaks yields one. -/
theorem exists_peak {row : SpectrogramRow} (h : Yields spectrogram config row_index row found)
    (hpeaks : HasPeaks config row) : ∃ peak, peak ∈ found := by
  unfold Yields at h
  rw [if_neg hpeaks.1] at h
  have hlimit := one_le_limit config
  have hkept : keptBins config row ≠ [] := by
    unfold keptBins
    rw [Ne, List.take_eq_nil_iff, not_or]
    refine ⟨by omega, fun hnil => hpeaks.2 (List.perm_nil.1 ?_)⟩
    rw [← hnil]
    exact sortedBins_perm.symm
  obtain ⟨bin, hbin⟩ := List.exists_mem_of_ne_nil _ hkept
  obtain ⟨peak, hpeak, -⟩ := Json.exists_mem_of_forall₂ h.flip hbin
  exact ⟨peak, hpeak⟩

theorem hasPeaks_of_mem {row : SpectrogramRow} (h : Yields spectrogram config row_index row found)
    (hpeak : peak ∈ found) : HasPeaks config row := by
  unfold Yields at h
  split at h
  · rw [h] at hpeak
    cases hpeak
  · rename_i hbroad
    refine ⟨hbroad, fun hnil => ?_⟩
    obtain ⟨bin, hbin, -⟩ := Json.exists_mem_of_forall₂ h hpeak
    have hreported := (mem_keptBins.1 hbin).1
    rw [hnil] at hreported
    cases hreported

/-- The time differences of the rows. -/
def RowsTimed (spectrogram : SpectrogramSlice) (config : Config) : Prop :=
  ∀ (k k' : Nat) row row', spectrogram.val.rows[k]? = some row → spectrogram.val.rows[k']? = some row' →
    HasPeaks config row → HasPeaks config row' → k < k' → (k' : Int) ≤ k + config.val.maximum_missing_rows + 1 →
    ∃ f, Num.toFloat (.int (row'.val.midpoint_utc_ns - row.val.midpoint_utc_ns)) = .ok f

/-- No shoulder is among the highest reported bins of a row, and no number is too large for a float. -/
structure Clean (spectrogram : SpectrogramSlice) (config : Config) : Prop where
  cut : ∀ row ∈ spectrogram.val.rows, ¬Broadband config row → ShouldersCut config row
  pointed : ∀ (k : Nat) row, spectrogram.val.rows[k]? = some row → Broadband config row ∨ Pointed spectrogram config k row
  timed : RowsTimed spectrogram config

theorem allTimed_iff {rows : List (List Peak)} (h : Extracted spectrogram config 0 spectrogram.val.rows rows) :
    AllTimed rows config ↔ RowsTimed spectrogram config := by
  constructor
  · intro htimed k k' row row' hrow hrow' hpeaks hpeaks' hlow hhigh
    have hbound := (List.getElem?_eq_some_iff.1 hrow).1
    have hbound' := (List.getElem?_eq_some_iff.1 hrow').1
    rw [← h.length] at hbound hbound'
    have hfound := List.getElem?_eq_getElem hbound
    have hfound' := List.getElem?_eq_getElem hbound'
    have hyields := h.yields k row _ hrow hfound
    have hyields' := h.yields k' row' _ hrow' hfound'
    obtain ⟨earlier, hearlier⟩ := exists_peak hyields hpeaks
    obtain ⟨later, hlater⟩ := exists_peak hyields' hpeaks'
    obtain ⟨hindex, htime⟩ := peak_of_yields hyields hearlier
    obtain ⟨hindex', htime'⟩ := peak_of_yields hyields' hlater
    have hboth := htimed earlier (mem_flatten_of_row hfound hearlier) later (mem_flatten_of_row hfound' hlater)
      (by omega) (by omega)
    unfold Timed at hboth
    rwa [htime, htime'] at hboth
  · intro htimed earlier hearlier later hlater hlow hhigh
    obtain ⟨row, found, hrow, hfound, hin, hyields, htime⟩ := exists_row h hearlier
    obtain ⟨row', found', hrow', hfound', hin', hyields', htime'⟩ := exists_row h hlater
    unfold Timed
    rw [htime, htime']
    exact htimed _ _ row row' hrow hrow' (hasPeaks_of_mem hyields hin) (hasPeaks_of_mem hyields' hin') hlow hhigh

/-- The peaks and tracks of a spectrogram are as documented exactly where it is clean. -/
theorem extraction_iff (sum : List PyFloat → PyFloat) (spectrogram : SpectrogramSlice) (config : Config) :
    (∃ rows count, extract_peaks spectrogram config = .ok (rows, count) ∧ PeaksFound spectrogram config rows ∧
      TracksFound config sum rows) ↔ Clean spectrogram config := by
  constructor
  · rintro ⟨rows, count, hextract, hfound, links, hlinks, -⟩
    obtain ⟨rows', hrows, heq⟩ := bind_ok.1 hextract
    cases heq
    obtain ⟨hextracted, -, hpointed⟩ := extractRows_ok hrows
    refine ⟨fun row hrow hbroad => (peaksOf_keptBins_iff (one_le_limit config)).1 (hfound.peaks row hrow hbroad), ?_, ?_⟩
    · intro k row hrow
      have hpoints := hpointed k row hrow
      rwa [Nat.zero_add] at hpoints
    · exact (allTimed_iff hextracted).1 ((exists_links_iff (placed_of_extracted hextracted)).1 ⟨links, hlinks⟩)
  · intro hclean
    obtain ⟨rows, hrows⟩ : ∃ rows, extractRows spectrogram config 0 0 spectrogram.val.rows = .ok rows := by
      refine exists_extractRows 0 fun k row hrow => ?_
      rw [Nat.zero_add]
      exact hclean.pointed k row hrow
    obtain ⟨hextracted, -, -⟩ := extractRows_ok hrows
    have hplaced := placed_of_extracted hextracted
    obtain ⟨links, hlinks⟩ := (exists_links_iff hplaced).2 ((allTimed_iff hextracted).2 hclean.timed)
    refine ⟨rows, _, bind_ok.2 ⟨rows, hrows, rfl⟩, ⟨hextracted.length, ?_, ?_⟩, links, hlinks, ?_⟩
    · intro k row found hrow hfound
      have hyields := hextracted.yields k row found hrow hfound
      rwa [Nat.zero_add] at hyields
    · exact fun row hrow hbroad => (peaksOf_keptBins_iff (one_le_limit config)).2 (hclean.cut row hrow hbroad)
    · intro components hcomponents
      exact exists_extract_tracks sum fun component hin => linkedBy_of_placed hplaced hlinks (hcomponents component hin)

end Extraction

/-! ## A shoulder that is reported -/

/-- `n` decibels -/
def decibels (n : Nat) : PyFloat := PyFloat.ofRatio false n 1

/-- A row that rises to a peak over two bins of equal power. -/
def shoulderRow (midpoint_utc_ns : Nat) : SpectrogramRow.Fields :=
  ⟨midpoint_utc_ns, [0, 0, 0, 0, 8, 8, 9, 0].map decibels⟩

def shoulderConfig : Config :=
  ⟨⟨decibels 6, 8, 2, decibels 100, decibels 100, 5, decibels 1, half, half⟩, by decide +kernel⟩

def shoulderSpectrogram : SpectrogramSlice :=
  ⟨⟨decibels 2000000000, (List.range 8).map decibels, str "relative-db",
    [⟨shoulderRow 1, by decide +kernel⟩, ⟨shoulderRow 1000000001, by decide +kernel⟩]⟩, by decide +kernel⟩

theorem shoulder_reported :
    (∃ rows count, extract_peaks shoulderSpectrogram shoulderConfig = .ok (rows, count)) ∧
      ∀ sum, ¬∃ rows count, extract_peaks shoulderSpectrogram shoulderConfig = .ok (rows, count) ∧
        PeaksFound shoulderSpectrogram shoulderConfig rows ∧ TracksFound shoulderConfig sum rows := by
  constructor
  · have hok : (extract_peaks shoulderSpectrogram shoulderConfig).toOption.isSome = true := by decide +kernel
    obtain ⟨result, hresult⟩ := Option.isSome_iff_exists.1 hok
    exact ⟨result.1, result.2, mem_toOption.1 hresult⟩
  · rintro sum ⟨rows, count, -, hfound, -⟩
    let row : SpectrogramRow := ⟨shoulderRow 1, by decide +kernel⟩
    have hpeaks := hfound.peaks row List.mem_cons_self (by decide +kernel)
    have hcut := (peaksOf_keptBins_iff (one_le_limit shoulderConfig)).1 hpeaks
    have hlevel : Level row 4 6 := by
      refine ⟨by decide, by decide, fun index hlow hhigh => ?_⟩
      obtain rfl | rfl : index = 4 ∨ index = 5 := by omega
      · rfl
      · decide +kernel
    have hshoulder : Shoulder shoulderConfig row 4 :=
      ⟨6, by decide, hlevel, by decide +kernel, Or.inr (by decide +kernel), by decide, by decide +kernel⟩
    have hmany := hcut 4 hshoulder
    have hfew : ((reported shoulderConfig row).filter fun bin => decide (rank row bin < rank row 4)).length = 1 := by
      decide +kernel
    rw [hfew] at hmany
    exact absurd hmany (by decide)

end BlindDoppler

end LeoFlow
