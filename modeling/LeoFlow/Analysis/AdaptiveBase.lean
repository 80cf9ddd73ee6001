import LeoFlow.Analysis.AdaptiveRefinement
import LeoFlow.Core.JsonRoundTrip
import LeoFlow.Core.Ranking

/-!
# LeoFlow.Analysis.AdaptiveBase — the base windows span the segment

The base windows reach from end to end of the segment with gaps of at most the sentinel stride, and every
power seed lies in one that has its rank. The order of the seeds does not matter.
-/

namespace LeoFlow

namespace AdaptiveRefinement

/-! ## Grids -/

section Grids

variable {low high stride : Int} {starts : List Int}

/-- The grid is the library's, for windows of any length. -/
theorem gridStarts_ok (hstride : 0 < stride) (h : gridStarts low high stride = .ok starts) (window : Int) :
    low ≤ high ∧ starts = windowStarts low (high + window) window stride := by
  unfold gridStarts at h
  dsimp only at h
  split at h
  · cases h
  · rename_i final hfinal
    have hstop : high + window - window + 1 = high + 1 := by omega
    have hend : high + window - window = high := by omega
    obtain ⟨i, hi, hlt⟩ := (mem_pyRange hstride).1 (List.mem_of_getLast? hfinal)
    have hnonneg : 0 ≤ (i : Int) * stride := Int.mul_nonneg (by omega) (by omega)
    refine ⟨by omega, ?_⟩
    have hlast : final = high ↔ high ∈ pyRange low (high + 1) stride := by
      have hlast : (pyRange low (high + window - window + 1) stride).getLast? = some final := by rwa [hstop]
      have hiff := getLast_pyRange_eq_iff hstride hlast
      rwa [hstop, hend] at hiff
    unfold windowStarts
    dsimp only
    rw [hstop, hend]
    cases h
    by_cases hin : high ∈ pyRange low (high + 1) stride
    · rw [if_pos hin, if_neg (not_not.2 (hlast.2 hin))]
    · rw [if_neg hin, if_pos fun heq => hin (hlast.1 heq)]

theorem exists_gridStarts (hstride : 0 < stride) (hle : low ≤ high) : ∃ starts, gridStarts low high stride = .ok starts := by
  unfold gridStarts
  dsimp only
  split
  · rename_i hnone
    have hlow : low ∈ pyRange low (high + 1) stride := (mem_pyRange hstride).2 ⟨0, by simp, by omega⟩
    rw [List.getLast?_eq_none_iff.1 hnone] at hlow
    cases hlow
  · exact ⟨_, rfl⟩

/-- The points of a grid are its steps, and its end. -/
theorem mem_gridStarts (hstride : 0 < stride) (h : gridStarts low high stride = .ok starts) {x : Int} :
    x ∈ starts ↔ (∃ i : Nat, x = low + i * stride ∧ x ≤ high) ∨ x = high := by
  obtain ⟨-, rfl⟩ := gridStarts_ok hstride h 0
  have hgrid : x ∈ pyRange low (high + 0 - 0 + 1) stride ↔ ∃ i : Nat, x = low + i * stride ∧ x ≤ high := by
    rw [mem_pyRange hstride]
    refine exists_congr fun i => and_congr_right fun _ => ?_
    omega
  have hend : high + 0 - 0 = high := by omega
  unfold windowStarts
  dsimp only
  rw [hend]
  rw [hend] at hgrid
  split
  · rename_i hin
    rw [hgrid]
    constructor
    · exact Or.inl
    · rintro (hstep | rfl)
      · exact hstep
      · exact hgrid.1 hin
  · rw [List.mem_append, hgrid, List.mem_singleton]

theorem bounds_gridStarts (hstride : 0 < stride) (h : gridStarts low high stride = .ok starts) {x : Int} (hx : x ∈ starts) :
    low ≤ x ∧ x ≤ high := by
  obtain ⟨hle, rfl⟩ := gridStarts_ok hstride h 0
  have hbounds := mem_windowStarts hstride (by omega) hx
  omega

/-- From every point of the grid the next is at most a stride away. -/
theorem gridStarts_gap (hstride : 0 < stride) (h : gridStarts low high stride = .ok starts) {x : Int} (hlow : low ≤ x) (hx : x < high) :
    ∃ y ∈ starts, x < y ∧ y ≤ x + stride := by
  obtain ⟨-, rfl⟩ := gridStarts_ok hstride h stride
  by_cases hnear : high ≤ x + stride
  · have hlast : high + stride - stride ∈ windowStarts low (high + stride) stride stride := last_mem_windowStarts
    have hend : high + stride - stride = high := by omega
    rw [hend] at hlast
    exact ⟨high, hlast, hx, hnear⟩
  · have hin : x + stride < high + stride := by omega
    obtain ⟨y, hy, hle, hlt⟩ := windowStarts_cover hstride le_rfl (show low ≤ x + stride by omega) hin
    exact ⟨y, hy, by omega, hle⟩

end Grids

/-! ## Base windows -/

/-- The seeds are valid, and their ranks tell them apart. -/
structure SeedsOk (segment_sample_count : Int) (seeds : List PowerSeed) : Prop where
  valid : ∀ seed ∈ seeds, 0 ≤ seed.rank ∧ 0 ≤ seed.seed_start ∧ seed.seed_start < seed.seed_stop ∧
    seed.seed_stop ≤ segment_sample_count
  ranks : (seeds.map PowerSeed.rank).Nodup

section Base

variable {segment_sample_count last probe : Int} {seeds seeds' : List PowerSeed}

theorem SeedsOk.perm (h : SeedsOk segment_sample_count seeds) (hperm : seeds.Perm seeds') : SeedsOk segment_sample_count seeds' :=
  ⟨fun seed hseed => h.valid seed (hperm.mem_iff.2 hseed), (hperm.map _).nodup_iff.1 h.ranks⟩

/-- The placing of the seeds in order. -/
theorem placeSeeds_iff {seen_ranks : List Int} {placed : List (Int × Int)} :
    placeSeeds segment_sample_count last probe seeds seen_ranks = .ok placed ↔
      SeedsOk segment_sample_count seeds ∧ (∀ seed ∈ seeds, seed.rank ∉ seen_ranks) ∧
        placed = seeds.map fun seed => (seedStart last probe seed, seed.rank) := by
  induction seeds generalizing seen_ranks placed with
  | nil =>
    constructor
    · intro h
      cases h
      exact ⟨⟨fun _ hmem => absurd hmem List.not_mem_nil, List.nodup_nil⟩, fun _ hmem => absurd hmem List.not_mem_nil, rfl⟩
    · rintro ⟨-, -, rfl⟩
      rfl
  | cons seed seeds ih =>
    unfold placeSeeds
    constructor
    · intro h
      obtain ⟨_, hcheck, h⟩ := bind_ok.1 h
      obtain ⟨rest, hrest, h⟩ := bind_ok.1 h
      cases h
      have hvalid := raiseIf_ok.1 hcheck
      simp only [not_or, not_lt, not_le] at hvalid
      obtain ⟨hrank, hnew, hstart, hstop, hinside⟩ := hvalid
      obtain ⟨hok, hunseen, rfl⟩ := ih.1 hrest
      refine ⟨⟨List.forall_mem_cons.2 ⟨⟨hrank, hstart, hstop, hinside⟩, hok.valid⟩, ?_⟩, ?_, rfl⟩
      · refine List.nodup_cons.2 ⟨fun hin => ?_, hok.ranks⟩
        obtain ⟨other, hother, heq⟩ := List.mem_map.1 hin
        exact hunseen other hother (heq ▸ List.mem_cons_self)
      · exact List.forall_mem_cons.2 ⟨hnew, fun other hother hin => hunseen other hother (List.mem_cons_of_mem _ hin)⟩
    · rintro ⟨hok, hunseen, rfl⟩
      obtain ⟨⟨hrank, hstart, hstop, hinside⟩, hvalid⟩ := List.forall_mem_cons.1 hok.valid
      obtain ⟨hnew, hrest⟩ := List.forall_mem_cons.1 hunseen
      obtain ⟨hdistinct, hranks⟩ := List.nodup_cons.1 hok.ranks
      have hcheck : ¬(seed.rank < 0 ∨ seed.rank ∈ seen_ranks ∨ seed.seed_start < 0 ∨ seed.seed_stop ≤ seed.seed_start ∨
          segment_sample_count < seed.seed_stop) := by
        simp only [not_or, not_lt, not_le]
        exact ⟨hrank, hnew, hstart, hstop, hinside⟩
      refine bind_ok.2 ⟨(), raiseIf_ok.2 hcheck, bind_ok.2 ⟨_, ih.2 ⟨⟨hvalid, hranks⟩, ?_, rfl⟩, rfl⟩⟩
      intro other hother hin
      rcases List.mem_cons.1 hin with heq | hin
      · exact hdistinct (heq ▸ List.mem_map_of_mem hother)
      · exact hrest other hother hin

/-- The window of a seed is inside the segment and has its centre. -/
theorem seedStart_bounds {seed : PowerSeed} (hprobe : 0 < probe) (hfits : probe ≤ segment_sample_count)
    (hvalid : 0 ≤ seed.seed_start ∧ seed.seed_start < seed.seed_stop ∧ seed.seed_stop ≤ segment_sample_count) :
    0 ≤ seedStart (segment_sample_count - probe) probe seed ∧
      seedStart (segment_sample_count - probe) probe seed ≤ segment_sample_count - probe ∧
      seedStart (segment_sample_count - probe) probe seed ≤ seed.center ∧
      seed.center < seedStart (segment_sample_count - probe) probe seed + probe := by
  unfold seedStart PowerSeed.center
  omega

variable {plan : Plan} {base : List BaseWindow}

/-- The grid of the sentinels. -/
def sentinels (segment_sample_count : Int) (plan : Plan) : Except PyError (List Int) :=
  gridStarts 0 (segment_sample_count - plan.val.probe_sample_count) plan.val.sentinel_stride_samples

/-- Where the seeds are searched. -/
def placedSeeds (segment_sample_count : Int) (plan : Plan) (seeds : List PowerSeed) : List (Int × Int) :=
  seeds.map fun seed =>
    (seedStart (segment_sample_count - plan.val.probe_sample_count) plan.val.probe_sample_count seed, seed.rank)

/-- The base window of a start. -/
def baseWindow (plan : Plan) (grid : List Int) (placed : List (Int × Int)) (start : Int) : Except PyError BaseWindow :=
  Checked.make BaseWindow.Fields.post_init
    ⟨start, start + plan.val.probe_sample_count, sortedSet (reasonsAt grid placed start), sortedSet (ranksAt placed start)⟩

/-- What a successful choice of base windows passed. -/
structure BaseOk (segment_sample_count : Int) (plan : Plan) (seeds : List PowerSeed) (base : List BaseWindow) (grid : List Int) :
    Prop where
  fits : plan.val.probe_sample_count ≤ segment_sample_count
  bounded : (seeds.length : Int) ≤ plan.val.maximum_power_seeds
  grid_ok : sentinels segment_sample_count plan = .ok grid
  seeds_ok : SeedsOk segment_sample_count seeds
  count : ((sortedSet (grid ++ (placedSeeds segment_sample_count plan seeds).map Prod.fst)).length : Int) ≤
    plan.val.maximum_base_windows
  windows : List.Forall₂ (fun start w => baseWindow plan grid (placedSeeds segment_sample_count plan seeds) start = .ok w)
    (sortedSet (grid ++ (placedSeeds segment_sample_count plan seeds).map Prod.fst)) base

theorem base_iff : adaptive_base_windows segment_sample_count plan seeds = .ok base ↔
    ∃ grid, BaseOk segment_sample_count plan seeds base grid := by
  unfold adaptive_base_windows
  constructor
  · intro h
    obtain ⟨_, hfits, h⟩ := bind_ok.1 h
    obtain ⟨_, hbounded, h⟩ := bind_ok.1 h
    obtain ⟨grid, hgrid, h⟩ := bind_ok.1 h
    obtain ⟨placed, hplaced, h⟩ := bind_ok.1 h
    obtain ⟨_, hcount, h⟩ := bind_ok.1 h
    obtain ⟨hseeds, -, rfl⟩ := placeSeeds_iff.1 hplaced
    exact ⟨grid, not_lt.1 (raiseIf_ok.1 hfits), not_lt.1 (raiseIf_ok.1 hbounded), hgrid, hseeds,
      not_lt.1 (raiseIf_ok.1 hcount), mapM_ok.1 h⟩
  · rintro ⟨grid, hbase⟩
    have hplaced : placeSeeds segment_sample_count (segment_sample_count - plan.val.probe_sample_count)
        plan.val.probe_sample_count seeds [] = .ok (placedSeeds segment_sample_count plan seeds) :=
      placeSeeds_iff.2 ⟨hbase.seeds_ok, fun _ _ => List.not_mem_nil, rfl⟩
    refine bind_ok.2 ⟨(), raiseIf_ok.2 (not_lt.2 hbase.fits), ?_⟩
    refine bind_ok.2 ⟨(), raiseIf_ok.2 (not_lt.2 hbase.bounded), ?_⟩
    refine bind_ok.2 ⟨grid, hbase.grid_ok, bind_ok.2 ⟨_, hplaced, ?_⟩⟩
    exact bind_ok.2 ⟨(), raiseIf_ok.2 (not_lt.2 hbase.count), mapM_ok.2 hbase.windows⟩

/-- The order of the seeds does not matter. -/
theorem BaseOk.perm {grid : List Int} (h : BaseOk segment_sample_count plan seeds base grid) (hperm : seeds.Perm seeds') :
    BaseOk segment_sample_count plan seeds' base grid := by
  have hplaced : (placedSeeds segment_sample_count plan seeds).Perm (placedSeeds segment_sample_count plan seeds') := hperm.map _
  have hstarts : (grid ++ (placedSeeds segment_sample_count plan seeds').map Prod.fst).Perm
      (grid ++ (placedSeeds segment_sample_count plan seeds).map Prod.fst) := (hplaced.symm.map _).append_left grid
  have hsorted := sortedSet_congr fun x => hstarts.mem_iff (a := x)
  have hwindow : baseWindow plan grid (placedSeeds segment_sample_count plan seeds') =
      baseWindow plan grid (placedSeeds segment_sample_count plan seeds) := by
    funext start
    have hreasons : reasonsAt grid (placedSeeds segment_sample_count plan seeds') start =
        reasonsAt grid (placedSeeds segment_sample_count plan seeds) start := by
      unfold reasonsAt
      rw [if_congr (hplaced.map Prod.fst).mem_iff rfl rfl]
    have hranks : sortedSet (ranksAt (placedSeeds segment_sample_count plan seeds') start) =
        sortedSet (ranksAt (placedSeeds segment_sample_count plan seeds) start) :=
      sortedSet_congr fun x => (((hplaced.filter _).map _).mem_iff).symm
    unfold baseWindow
    rw [hreasons, hranks]
  refine ⟨h.fits, ?_, h.grid_ok, h.seeds_ok.perm hperm, ?_, ?_⟩
  · rw [← hperm.length_eq]
    exact h.bounded
  · rw [hsorted]
    exact h.count
  · rw [hsorted, hwindow]
    exact h.windows

theorem adaptive_base_windows_perm (h : adaptive_base_windows segment_sample_count plan seeds = .ok base)
    (hperm : seeds.Perm seeds') : adaptive_base_windows segment_sample_count plan seeds' = .ok base := by
  obtain ⟨grid, hbase⟩ := base_iff.1 h
  exact base_iff.2 ⟨grid, hbase.perm hperm⟩

/-- The base windows reach from end to end, and have the seeds. -/
structure Spans (segment_sample_count : Int) (plan : Plan) (seeds : List PowerSeed) (base : List BaseWindow) : Prop where
  ascending : base.Pairwise fun a b => a.val.start_sample < b.val.start_sample
  stops : ∀ w ∈ base, w.val.stop_sample = w.val.start_sample + plan.val.probe_sample_count
  first : ∃ w ∈ base, w.val.start_sample = 0
  last : ∃ w ∈ base, w.val.start_sample = segment_sample_count - plan.val.probe_sample_count
  inside : ∀ w ∈ base, 0 ≤ w.val.start_sample ∧ w.val.start_sample ≤ segment_sample_count - plan.val.probe_sample_count
  gap : ∀ w ∈ base, w.val.start_sample < segment_sample_count - plan.val.probe_sample_count →
    ∃ v ∈ base, w.val.start_sample < v.val.start_sample ∧
      v.val.start_sample ≤ w.val.start_sample + plan.val.sentinel_stride_samples
  seeded : ∀ seed ∈ seeds, ∃ w ∈ base, w.val.start_sample ≤ seed.center ∧ seed.center < w.val.stop_sample ∧
    seed.rank ∈ w.val.power_seed_ranks

theorem plan_positive (plan : Plan) : 0 < plan.val.probe_sample_count ∧ 0 < plan.val.sentinel_stride_samples ∧
    0 < plan.val.local_radius_samples ∧ 0 < plan.val.local_stride_samples := by
  have hok := plan.ok
  unfold Plan.Fields.post_init at hok
  simp only [checkAll_cons, raiseIf_ok, not_le] at hok
  obtain ⟨hprobe, hsentinel, hradius, hlocal, -⟩ := hok
  exact ⟨hprobe, hsentinel, hradius, hlocal⟩

section Spans

variable {grid : List Int} (h : BaseOk segment_sample_count plan seeds base grid)
include h

theorem BaseOk.map_start : base.map (fun w => w.val.start_sample) =
    sortedSet (grid ++ (placedSeeds segment_sample_count plan seeds).map Prod.fst) := by
  have hstart := map_of_forall₂ (f := id) (g := fun w : BaseWindow => w.val.start_sample) h.windows fun start w hw => by
    rw [Checked.val_of_make hw]
    rfl
  rwa [List.map_id] at hstart

/-- The windows are at the grid and at the seeds. -/
theorem BaseOk.exists_window {x : Int} : (∃ w ∈ base, w.val.start_sample = x) ↔
    x ∈ grid ∨ ∃ seed ∈ seeds,
      seedStart (segment_sample_count - plan.val.probe_sample_count) plan.val.probe_sample_count seed = x := by
  rw [← List.mem_map (f := fun w : BaseWindow => w.val.start_sample), h.map_start, mem_sortedSet, List.mem_append,
    placedSeeds, List.map_map, List.mem_map]
  rfl

theorem BaseOk.fields {w : BaseWindow} (hw : w ∈ base) :
    w.val = ⟨w.val.start_sample, w.val.start_sample + plan.val.probe_sample_count,
      sortedSet (reasonsAt grid (placedSeeds segment_sample_count plan seeds) w.val.start_sample),
      sortedSet (ranksAt (placedSeeds segment_sample_count plan seeds) w.val.start_sample)⟩ := by
  obtain ⟨start, -, hmake⟩ := Json.exists_mem_of_forall₂ h.windows.flip hw
  have hval := Checked.val_of_make hmake
  rw [hval]

theorem BaseOk.inside {w : BaseWindow} (hw : w ∈ base) :
    0 ≤ w.val.start_sample ∧ w.val.start_sample ≤ segment_sample_count - plan.val.probe_sample_count := by
  obtain ⟨hprobe, hstride, -, -⟩ := plan_positive plan
  rcases h.exists_window.1 ⟨w, hw, rfl⟩ with hgrid | ⟨seed, hseed, heq⟩
  · exact bounds_gridStarts hstride h.grid_ok hgrid
  · obtain ⟨-, hvalid⟩ := h.seeds_ok.valid seed hseed
    obtain ⟨hlow, hhigh, -, -⟩ := seedStart_bounds hprobe h.fits hvalid
    rw [heq] at hlow hhigh
    exact ⟨hlow, hhigh⟩

theorem BaseOk.spans : Spans segment_sample_count plan seeds base := by
  obtain ⟨hprobe, hstride, -, -⟩ := plan_positive plan
  have hgrid := h.grid_ok
  have hlast : 0 ≤ segment_sample_count - plan.val.probe_sample_count := Int.sub_nonneg_of_le h.fits
  refine ⟨?_, fun w hw => ?_, ?_, ?_, fun w hw => h.inside hw, fun w hw hbefore => ?_, fun seed hseed => ?_⟩
  · refine (List.pairwise_map (f := fun w : BaseWindow => w.val.start_sample)).1 ?_
    rw [h.map_start]
    exact ascending_sortedSet _
  · rw [h.fields hw]
  · exact h.exists_window.2 (Or.inl ((mem_gridStarts hstride hgrid).2 (Or.inl ⟨0, by simp, hlast⟩)))
  · exact h.exists_window.2 (Or.inl ((mem_gridStarts hstride hgrid).2 (Or.inr rfl)))
  · obtain ⟨y, hy, hlt, hle⟩ := gridStarts_gap hstride hgrid (h.inside hw).1 hbefore
    obtain ⟨v, hv, rfl⟩ := h.exists_window.2 (Or.inl hy)
    exact ⟨v, hv, hlt, hle⟩
  · obtain ⟨w, hw, hstart⟩ := h.exists_window.2 (Or.inr ⟨seed, hseed, rfl⟩)
    obtain ⟨-, hvalid⟩ := h.seeds_ok.valid seed hseed
    obtain ⟨-, -, hbefore, hafter⟩ := seedStart_bounds hprobe h.fits hvalid
    have hrank : seed.rank ∈ w.val.power_seed_ranks := by
      rw [h.fields hw, mem_sortedSet, hstart]
      refine List.mem_map.2 ⟨_, List.mem_filter.2 ⟨List.mem_map_of_mem hseed, decide_eq_true rfl⟩, rfl⟩
    have hstop : w.val.stop_sample = w.val.start_sample + plan.val.probe_sample_count := by rw [h.fields hw]
    refine ⟨w, hw, hstart.symm ▸ hbefore, ?_, hrank⟩
    rw [hstop, hstart]
    exact hafter

end Spans

end Base

end AdaptiveRefinement

end LeoFlow
