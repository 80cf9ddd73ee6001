import LeoFlow.Contracts.Continuity
import LeoFlow.Contracts.Samples

/-!
# LeoFlow.Contracts.ContinuitySpans — the contiguous spans of a segment

`SegmentContinuity.contiguous_rf_spans` and `safe_windows` (`contracts/continuity.py`). What `_verify_refills`
accepts is a chain of refills in which every neighbour either continues the device's sample sequence or is declared
as a gap (`Evidence`); the spans and the gaps of such a chain alternate (`Tiles`).
-/

namespace LeoFlow

structure ContiguousRfSpan.Fields where
  start_sample : Int
  stop_sample : Int
  first_sample_sequence : Int
  stop_sample_sequence : Int
deriving DecidableEq

def ContiguousRfSpan.Fields.post_init (s : ContiguousRfSpan.Fields) : Except PyError Unit :=
  checkAll [
    raiseIf (¬(0 ≤ s.start_sample ∧ s.start_sample < s.stop_sample))
      (.value "RF span stored range must be non-empty"),
    raiseIf (s.first_sample_sequence < 0 ∨ s.stop_sample_sequence ≤ s.first_sample_sequence ∨
      s.stop_sample - s.start_sample ≠ s.stop_sample_sequence - s.first_sample_sequence)
      (.value "RF span sample sequences differ from stored extent")]

/-- `ContiguousRfSpan` -/
abbrev ContiguousRfSpan := Checked ContiguousRfSpan.Fields.post_init

/-- `xs[i]`: a negative index counts from the end. -/
def tupleAt {α : Type} (xs : List α) (i : Int) : Except PyError α :=
  let j := if i < 0 then i + xs.length else i
  match (if j < 0 then none else xs[j.toNat]?) with
  | some x => .ok x
  | none => .error ⟨.index_error, "tuple index out of range"⟩

/-- The span of the refills from `start` up to `stop`. -/
def spanBetween (refills : List RefillMetadata) (start stop : Int) : Except PyError ContiguousRfSpan := do
  let first ← tupleAt refills start
  let last ← tupleAt refills (stop - 1)
  Checked.make ContiguousRfSpan.Fields.post_init {
    start_sample := first.val.segment_sample_offset
    stop_sample := last.val.segment_sample_offset + last.val.sample_count
    first_sample_sequence := first.val.first_sample_sequence
    stop_sample_sequence := RefillMetadata.sample_sequence_end_exclusive last }

/-- `SegmentContinuity.contiguous_rf_spans` -/
def SegmentContinuity.contiguous_rf_spans (c : SegmentContinuity) : Except PyError (List ContiguousRfSpan) :=
  if ¬IsVerified c then .error (.value "unverified recording has no proven RF spans")
  else
    let boundaries := (c.val.gaps.map (·.val.next_refill_index)).dedup
    let starts := 0 :: boundaries.insertionSort (· ≤ ·)
    let stops := starts.tail ++ [(c.val.refills.length : Int)]
    (starts.zip stops).mapM fun p => spanBetween c.val.refills p.1 p.2

/-! ## Evidence -/

/-- A declared gap between two neighbours. -/
structure ContinuityGap.Between (prior refill : RefillMetadata) (gap : ContinuityGap) : Prop where
  next : gap.val.next_refill_index = refill.val.refill_index
  stored : gap.val.stored_sample_offset = refill.val.segment_sample_offset
  first_missing : gap.val.first_missing_sample_sequence = RefillMetadata.sample_sequence_end_exclusive prior
  next_sample : gap.val.next_sample_sequence = refill.val.first_sample_sequence
  missing : gap.val.missing_sample_count =
    refill.val.first_sample_sequence - RefillMetadata.sample_sequence_end_exclusive prior
  positive : 0 < gap.val.missing_sample_count

/-- The refills after `prior`, the one with index `k`, and the gaps declared among them. -/
inductive Evidence : Nat → RefillMetadata → List RefillMetadata → List ContinuityGap → Prop where
  | nil {k : Nat} {prior : RefillMetadata} : Evidence k prior [] []
  | contiguous {k : Nat} {prior refill : RefillMetadata} {refills : List RefillMetadata} {gaps : List ContinuityGap}
      (index : refill.val.refill_index = (k + 1 : Nat))
      (stored : refill.val.segment_sample_offset = prior.val.segment_sample_offset + prior.val.sample_count)
      (sample : refill.val.first_sample_sequence = RefillMetadata.sample_sequence_end_exclusive prior)
      (rest : Evidence (k + 1) refill refills gaps) : Evidence k prior (refill :: refills) gaps
  | gap {k : Nat} {prior refill : RefillMetadata} {refills : List RefillMetadata} {gap : ContinuityGap}
      {gaps : List ContinuityGap} (index : refill.val.refill_index = (k + 1 : Nat))
      (stored : refill.val.segment_sample_offset = prior.val.segment_sample_offset + prior.val.sample_count)
      (between : gap.Between prior refill)
      (rest : Evidence (k + 1) refill refills gaps) : Evidence k prior (refill :: refills) (gap :: gaps)

/-- What the checks between two neighbours leave open. -/
theorem gapBetween_ok {prior refill : RefillMetadata} {gap : Option ContinuityGap}
    (h : gapBetween prior refill = .ok gap) :
    refill.val.segment_sample_offset = prior.val.segment_sample_offset + prior.val.sample_count ∧
      (gap = none ∧ refill.val.first_sample_sequence = RefillMetadata.sample_sequence_end_exclusive prior ∨
        ∃ g, gap = some g ∧ g.Between prior refill) := by
  unfold gapBetween at h
  simp only at h
  split at h
  · cases h
  split at h
  · cases h
  split at h
  · cases h
  split at h
  · cases h
  rename_i hoffset
  refine ⟨not_not.1 hoffset, ?_⟩
  split at h
  · split at h
    · cases h
    · rename_i hmissing
      rcases map_ok h with ⟨g, hg, rfl⟩
      have hval := Checked.val_of_make hg
      refine Or.inr ⟨g, rfl, ?_⟩
      constructor <;> rw [hval]
      simpa using hmissing
  · rename_i hnone
    cases h
    rw [not_or, not_not, not_not] at hnone
    exact Or.inl ⟨rfl, by omega⟩

/-- The loop of `_verify_refills` after its first refill. -/
theorem evidence_of_verifyFrom {k : Nat} {prior : RefillMetadata} {refills : List RefillMetadata}
    {gaps : List ContinuityGap} (h : verifyFrom (k + 1) (some prior) refills = .ok gaps) :
    Evidence k prior refills gaps := by
  induction refills generalizing k prior gaps with
  | nil =>
    cases h
    exact .nil
  | cons refill refills ih =>
    rw [verifyFrom] at h
    split at h
    · cases h
    · rename_i gap hverify
      rcases map_ok h with ⟨rest, hrest, rfl⟩
      unfold verifyRefill at hverify
      split at hverify
      · cases hverify
      rename_i hindex
      split at hverify
      · cases hverify
      simp only at hverify
      split at hverify
      · cases hverify
      · rename_i gap' hgap
        split at hverify
        · cases hverify
        · cases hverify
          rcases gapBetween_ok hgap with ⟨hoffset, ⟨rfl, hsample⟩ | ⟨g, rfl, hbetween⟩⟩
          · exact .contiguous (not_not.1 hindex) hoffset hsample (ih hrest)
          · exact .gap (not_not.1 hindex) hoffset hbetween (ih hrest)

/-- The evidence of a verified segment. -/
theorem SegmentContinuity.evidence (c : SegmentContinuity) (h : IsVerified c) :
    ∃ first refills, c.val.refills = first :: refills ∧ first.val.segment_sample_offset = 0 ∧
      Evidence 0 first refills c.val.gaps := by
  have hok := c.ok
  have hverified : ∃ derived, c.val.refills ≠ [] ∧ verifyRefills c.val.refills = .ok derived ∧
      c.val.gaps = derived := by
    unfold IsVerified at h
    unfold Fields.post_init at hok
    rw [checkAll_cons, checkAll_cons] at hok
    rcases hok with ⟨_, hok, _⟩
    split at hok
    · rename_i hstatus
      exact absurd hstatus h
    · split at hok
      · cases hok
      · rename_i hne
        split at hok
        · cases hok
        · rename_i derived hderived
          simp only [Fields.checkGaps, checkAll_cons, raiseIf_ok] at hok
          exact ⟨derived, hne, hderived, not_not.1 hok.2.2.2.1⟩
  rcases hverified with ⟨derived, hne, hderived, hgaps⟩
  rcases hrefills : c.val.refills with - | ⟨first, refills⟩
  · exact absurd hrefills hne
  · rw [hrefills, verifyRefills, verifyFrom] at hderived
    split at hderived
    · cases hderived
    · rename_i gap hverify
      rcases map_ok hderived with ⟨rest, hrest, hsame⟩
      unfold verifyRefill at hverify
      split at hverify
      · cases hverify
      split at hverify
      · cases hverify
      simp only at hverify
      split at hverify
      · cases hverify
      · rename_i hzero
        cases hverify
        refine ⟨first, refills, rfl, not_not.1 hzero, ?_⟩
        rw [hgaps, hsame]
        exact evidence_of_verifyFrom hrest

namespace Evidence

variable {k : Nat} {prior : RefillMetadata} {refills : List RefillMetadata} {gaps : List ContinuityGap}

/-- The gaps are declared at increasing indexes. -/
theorem indexes (h : Evidence k prior refills gaps) :
    (∀ g ∈ gaps, (k : Int) < g.val.next_refill_index) ∧
      (gaps.map (·.val.next_refill_index)).Pairwise (· < ·) := by
  induction h with
  | nil => exact ⟨(fun _ hg => by cases hg), List.Pairwise.nil⟩
  | contiguous _ _ _ _ ih =>
    refine ⟨?_, ih.2⟩
    intro g hg
    have hlt := ih.1 g hg
    omega
  | gap index _ between _ ih =>
    constructor
    · intro g hg
      rcases List.mem_cons.1 hg with rfl | hg
      · rw [between.next, index]
        omega
      · have hlt := ih.1 g hg
        omega
    · rw [List.map_cons, List.pairwise_cons]
      refine ⟨?_, ih.2⟩
      intro n hn
      rcases List.mem_map.1 hn with ⟨g, hg, rfl⟩
      have hlt := ih.1 g hg
      rw [between.next, index]
      exact hlt

/-- The last refill. -/
def lastOf (prior : RefillMetadata) (refills : List RefillMetadata) : RefillMetadata :=
  (prior :: refills).getLast (List.cons_ne_nil _ _)

@[simp] theorem lastOf_nil (prior : RefillMetadata) : lastOf prior [] = prior := rfl

@[simp] theorem lastOf_cons (prior refill : RefillMetadata) (refills : List RefillMetadata) :
    lastOf prior (refill :: refills) = lastOf refill refills := rfl

/-- Stored samples add up. -/
theorem stored_sum (h : Evidence k prior refills gaps) :
    (lastOf prior refills).val.segment_sample_offset + (lastOf prior refills).val.sample_count =
      prior.val.segment_sample_offset + ((prior :: refills).map (·.val.sample_count)).sum := by
  induction h with
  | nil => simp
  | contiguous _ stored _ _ ih | gap _ stored _ _ ih =>
    rw [lastOf_cons, ih, stored]
    simp only [List.map_cons, List.sum_cons]
    omega

/-- So do the device's samples, with those that are missing. -/
theorem sequence_sum (h : Evidence k prior refills gaps) :
    RefillMetadata.sample_sequence_end_exclusive (lastOf prior refills) - prior.val.first_sample_sequence =
      ((prior :: refills).map (·.val.sample_count)).sum + (gaps.map (·.val.missing_sample_count)).sum := by
  induction h with
  | nil =>
    simp only [RefillMetadata.sample_sequence_end_exclusive, lastOf_nil, List.map_cons, List.map_nil, List.sum_cons,
      List.sum_nil]
    omega
  | contiguous _ _ sample _ ih =>
    rw [lastOf_cons]
    simp only [List.map_cons, List.sum_cons] at ih ⊢
    rw [RefillMetadata.sample_sequence_end_exclusive] at sample
    omega
  | gap _ _ between _ ih =>
    rw [lastOf_cons]
    have hmissing := between.missing
    simp only [List.map_cons, List.sum_cons] at ih ⊢
    rw [RefillMetadata.sample_sequence_end_exclusive] at hmissing
    omega

end Evidence

/-! ## Spans -/

/-- Spans up to `total` that alternate with gaps: one gap between two neighbours, none elsewhere. -/
inductive Tiles (total : Int) : List ContiguousRfSpan → List ContinuityGap → Prop where
  | last {span : ContiguousRfSpan} (stop : span.val.stop_sample = total) : Tiles total [span] []
  | gap {span next : ContiguousRfSpan} {spans : List ContiguousRfSpan} {gap : ContinuityGap}
      {gaps : List ContinuityGap} (adjacent : span.val.stop_sample = next.val.start_sample)
      (stored : gap.val.stored_sample_offset = span.val.stop_sample)
      (first_missing : gap.val.first_missing_sample_sequence = span.val.stop_sample_sequence)
      (next_sample : gap.val.next_sample_sequence = next.val.first_sample_sequence)
      (positive : 0 < gap.val.missing_sample_count)
      (rest : Tiles total (next :: spans) gaps) : Tiles total (span :: next :: spans) (gap :: gaps)

theorem tupleAt_nat {α : Type} {xs : List α} {i : Nat} {x : α} (h : xs[i]? = some x) : tupleAt xs (i : Int) = .ok x := by
  unfold tupleAt
  simp only
  rw [if_neg (by omega), if_neg (by omega), Int.toNat_natCast, h]

theorem tupleAt_last {α : Type} {xs : List α} {x : α} (h : xs.getLast? = some x) : tupleAt xs (-1) = .ok x := by
  have hpos : 0 < xs.length := List.length_pos_of_mem (List.mem_of_getLast? h)
  have hindex : (-1 + (xs.length : Int)).toNat = xs.length - 1 := by omega
  have hneg : (-1 : Int) < 0 := by decide
  unfold tupleAt
  simp only
  rw [if_pos hneg, if_neg (by omega), hindex, ← List.getLast?_eq_getElem?, h]

theorem RefillMetadata.nonneg (r : RefillMetadata) :
    0 ≤ r.val.segment_sample_offset ∧ 0 ≤ r.val.first_sample_sequence := by
  have h := r.ok
  simp only [Fields.post_init, checkAll_cons, raiseIf_ok, not_or, not_exists, not_and, not_lt] at h
  constructor
  · exact h.1.1 _ (by simp)
  · exact h.1.1 _ (by simp)

variable {first : RefillMetadata}

/-- A run of refills that continue each other makes a span. -/
theorem spanBetween_ok {all : List RefillMetadata} {start stop : Nat} {last : RefillMetadata}
    (hfirst : all[start]? = some first) (hlast : all[stop]? = some last)
    (hrun : last.val.segment_sample_offset + last.val.sample_count - first.val.segment_sample_offset = RefillMetadata.sample_sequence_end_exclusive last - first.val.first_sample_sequence)
    (hpos : first.val.segment_sample_offset < last.val.segment_sample_offset + last.val.sample_count) :
    ∃ span : ContiguousRfSpan, spanBetween all start (stop + 1 : Nat) = .ok span ∧
      span.val = {
        start_sample := first.val.segment_sample_offset
        stop_sample := last.val.segment_sample_offset + last.val.sample_count
        first_sample_sequence := first.val.first_sample_sequence
        stop_sample_sequence := RefillMetadata.sample_sequence_end_exclusive last } := by
  rcases first.nonneg with ⟨hoffset, hsequence⟩
  have hok : ContiguousRfSpan.Fields.post_init {
      start_sample := first.val.segment_sample_offset
      stop_sample := last.val.segment_sample_offset + last.val.sample_count
      first_sample_sequence := first.val.first_sample_sequence
      stop_sample_sequence := RefillMetadata.sample_sequence_end_exclusive last } = .ok () := by
    simp only [ContiguousRfSpan.Fields.post_init, checkAll_cons, raiseIf_ok, checkAll_nil, and_true]
    omega
  refine ⟨⟨_, hok⟩, ?_, rfl⟩
  unfold spanBetween
  have hindex : ((stop + 1 : Nat) : Int) - 1 = (stop : Nat) := by omega
  rw [hindex]
  exact bind_ok.2 ⟨first, tupleAt_nat hfirst, bind_ok.2 ⟨last, tupleAt_nat hlast, Checked.make_ok hok⟩⟩

/-- The spans from one start on, over what is left of the evidence: `first` begins the run that `prior` is in. -/
theorem Evidence.spans {all : List RefillMetadata} {k : Nat} {prior : RefillMetadata}
    {refills : List RefillMetadata} {gaps : List ContinuityGap} (h : Evidence k prior refills gaps)
    (hall : all.drop k = prior :: refills) {start : Nat} (hfirst : all[start]? = some first)
    (hrun : prior.val.segment_sample_offset + prior.val.sample_count - first.val.segment_sample_offset = RefillMetadata.sample_sequence_end_exclusive prior - first.val.first_sample_sequence)
    (hpos : first.val.segment_sample_offset < prior.val.segment_sample_offset + prior.val.sample_count) :
    ∃ span spans, ((((start : Int) :: gaps.map (·.val.next_refill_index)).zip
        (gaps.map (·.val.next_refill_index) ++ [(all.length : Int)])).mapM fun p => spanBetween all p.1 p.2) =
        .ok (span :: spans) ∧
      span.val.start_sample = first.val.segment_sample_offset ∧
      span.val.first_sample_sequence = first.val.first_sample_sequence ∧
      Tiles ((lastOf prior refills).val.segment_sample_offset + (lastOf prior refills).val.sample_count)
        (span :: spans) gaps := by
  induction h generalizing start first with
  | @nil k prior =>
    have hlast : all[k]? = some prior := by
      rw [← List.head?_drop, hall]
      rfl
    have hlen : all.length = k + 1 := by
      have hlength := congrArg List.length hall
      rw [List.length_drop] at hlength
      simp only [List.length_cons, List.length_nil] at hlength
      omega
    rcases spanBetween_ok hfirst hlast hrun hpos with ⟨span, hspan, hval⟩
    refine ⟨span, [], ?_, by rw [hval], by rw [hval], .last (by rw [hval]; rfl)⟩
    rw [hlen]
    exact mapM_ok.2 (.cons hspan .nil)
  | @contiguous k prior refill refills gaps index stored sample rest ih =>
    -- the run goes on
    have hall' : all.drop (k + 1) = refill :: refills := by
      rw [← List.drop_drop, hall]
      rfl
    have hcount := refill.sample_count_pos
    refine ih hall' hfirst ?_ ?_
    · rw [RefillMetadata.sample_sequence_end_exclusive, sample]
      omega
    · omega
  | @gap k prior refill refills gap gaps index stored between rest ih =>
    -- the run ends here, and `refill` begins the next one
    have hall' : all.drop (k + 1) = refill :: refills := by
      rw [← List.drop_drop, hall]
      rfl
    have hlast : all[k]? = some prior := by
      rw [← List.head?_drop, hall]
      rfl
    have hnext : all[k + 1]? = some refill := by
      rw [← List.head?_drop, hall']
      rfl
    have hcount := refill.sample_count_pos
    rcases spanBetween_ok hfirst hlast hrun hpos with ⟨span, hspan, hval⟩
    rcases ih hall' hnext (by rw [RefillMetadata.sample_sequence_end_exclusive]; omega) (by omega)
      with ⟨next, spans, hspans, hstart, hsequence, htiles⟩
    have hindex : gap.val.next_refill_index = ((k + 1 : Nat) : Int) := by rw [between.next, index]
    refine ⟨span, next :: spans, ?_, by rw [hval], by rw [hval], ?_⟩
    · rw [List.map_cons, hindex]
      exact mapM_ok.2 (.cons hspan (mapM_ok.1 hspans))
    · refine .gap ?_ ?_ ?_ ?_ between.positive htiles
      · rw [hval, hstart, stored]
      · rw [hval, between.stored, stored]
      · rw [hval, between.first_missing]
      · rw [hsequence, between.next_sample]

theorem ContiguousRfSpan.start_lt_stop (s : ContiguousRfSpan) : s.val.start_sample < s.val.stop_sample := by
  have h := s.ok
  simp only [Fields.post_init, checkAll_cons, raiseIf_ok, not_not] at h
  exact h.1.2

namespace Tiles

variable {total : Int} {span : ContiguousRfSpan} {spans : List ContiguousRfSpan} {gaps : List ContinuityGap}

/-- What comes after a span starts no earlier than it stops. -/
theorem after (h : Tiles total (span :: spans) gaps) :
    span.val.stop_sample ≤ total ∧ (∀ s ∈ spans, span.val.stop_sample ≤ s.val.start_sample) ∧
      ∀ g ∈ gaps, span.val.stop_sample ≤ g.val.stored_sample_offset := by
  induction spans generalizing span gaps with
  | nil =>
    cases h with
    | last stop => exact ⟨le_of_eq stop, fun _ hs => (by cases hs), fun _ hg => (by cases hg)⟩
  | cons next spans ih =>
    cases h with
    | gap adjacent stored _ _ _ rest =>
      rcases ih rest with ⟨htotal, hspans, hgaps⟩
      have hlt := next.start_lt_stop
      refine ⟨by omega, ?_, ?_⟩
      · intro s hs
        rcases List.mem_cons.1 hs with rfl | hs
        · exact le_of_eq adjacent
        · have hle := hspans s hs
          omega
      · intro g hg
        rcases List.mem_cons.1 hg with rfl | hg
        · exact le_of_eq stored.symm
        · have hle := hgaps g hg
          omega

theorem ordered (h : Tiles total spans gaps) :
    spans.Pairwise fun a b => a.val.stop_sample ≤ b.val.start_sample := by
  induction h with
  | last _ => exact List.pairwise_singleton _ _
  | gap adjacent stored first_missing next_sample positive rest ih =>
    have hafter := (Tiles.gap adjacent stored first_missing next_sample positive rest).after
    exact List.pairwise_cons.2 ⟨hafter.2.1, ih⟩

/-- From the first span on, every stored sample is in a span. -/
theorem covers (h : Tiles total (span :: spans) gaps) {x : Int} (hstart : span.val.start_sample ≤ x) (hx : x < total) :
    ∃ s ∈ span :: spans, s.val.start_sample ≤ x ∧ x < s.val.stop_sample := by
  induction spans generalizing span gaps with
  | nil =>
    cases h with
    | last stop => exact ⟨span, List.mem_cons_self, hstart, by omega⟩
  | cons next spans ih =>
    cases h with
    | gap adjacent _ _ _ _ rest =>
      by_cases hin : x < span.val.stop_sample
      · exact ⟨span, List.mem_cons_self, hstart, hin⟩
      · rcases ih rest (by omega) with ⟨s, hs, hin⟩
        exact ⟨s, List.mem_cons_of_mem _ hs, hin⟩

/-- The spans stay within the stored samples. -/
theorem bounds (h : Tiles total (span :: spans) gaps) :
    ∀ s ∈ span :: spans, span.val.start_sample ≤ s.val.start_sample ∧ s.val.stop_sample ≤ total := by
  induction spans generalizing span gaps with
  | nil =>
    intro s hs
    rw [List.mem_singleton.1 hs]
    exact ⟨le_rfl, h.after.1⟩
  | cons next spans ih =>
    intro s hs
    rcases List.mem_cons.1 hs with rfl | hs'
    · exact ⟨le_rfl, h.after.1⟩
    · have hlt := span.start_lt_stop
      cases h with
      | gap adjacent _ _ _ _ rest =>
        rcases ih rest s hs' with ⟨hstart, hstop⟩
        exact ⟨by omega, hstop⟩

/-- Neighbours are separated by a declared gap. -/
theorem separated (h : Tiles total spans gaps) :
    spans.IsChain fun a b => a.val.stop_sample = b.val.start_sample ∧ ∃ gap ∈ gaps,
      gap.val.stored_sample_offset = a.val.stop_sample ∧
        gap.val.first_missing_sample_sequence = a.val.stop_sample_sequence ∧
        gap.val.next_sample_sequence = b.val.first_sample_sequence ∧ 0 < gap.val.missing_sample_count := by
  induction h with
  | last _ => exact .singleton _
  | gap adjacent stored first_missing next_sample positive rest ih =>
    refine List.isChain_cons_cons.2 ⟨⟨adjacent, _, List.mem_cons_self, stored, first_missing, next_sample, positive⟩, ?_⟩
    refine ih.imp ?_
    rintro a b ⟨hadjacent, g, hg, hgap⟩
    exact ⟨hadjacent, g, List.mem_cons_of_mem _ hg, hgap⟩

/-- No declared gap lies inside a span. -/
theorem none_inside (h : Tiles total spans gaps) :
    ∀ g ∈ gaps, ∀ s ∈ spans,
      ¬(s.val.start_sample < g.val.stored_sample_offset ∧ g.val.stored_sample_offset < s.val.stop_sample) := by
  induction h with
  | last _ =>
    intro g hg
    cases hg
  | @gap span next spans gap gaps adjacent stored first_missing next_sample positive rest ih =>
    have hafter := (Tiles.gap adjacent stored first_missing next_sample positive rest).after
    intro g hg s hs
    rcases List.mem_cons.1 hs with rfl | hs'
    · -- the first span stops before any gap
      have hle := hafter.2.2 g hg
      omega
    · rcases List.mem_cons.1 hg with rfl | hg'
      · have hle := hafter.2.1 s hs'
        omega
      · exact ih g hg' s hs'

end Tiles

/-- `contiguous_rf_spans` of a verified segment -/
theorem SegmentContinuity.spans_ok (c : SegmentContinuity) (h : IsVerified c) :
    ∃ span spans, contiguous_rf_spans c = .ok (span :: spans) ∧ span.val.start_sample = 0 ∧
      Tiles (c.val.refills.map (·.val.sample_count)).sum (span :: spans) c.val.gaps := by
  rcases c.evidence h with ⟨first, refills, hrefills, hzero, hevidence⟩
  have hfirst : c.val.refills[0]? = some first := by rw [hrefills]; rfl
  have hcount := first.sample_count_pos
  have hall : c.val.refills.drop 0 = first :: refills := hrefills
  rcases hevidence.spans hall hfirst (by rw [RefillMetadata.sample_sequence_end_exclusive]; omega) (by omega)
    with ⟨span, spans, hspans, hstart, _, htiles⟩
  have hsum := hevidence.stored_sum
  rw [hzero, Int.zero_add, ← hrefills] at hsum
  rw [hsum] at htiles
  refine ⟨span, spans, ?_, by rw [hstart, hzero], htiles⟩
  have hsorted : ((c.val.gaps.map (·.val.next_refill_index)).dedup.insertionSort (· ≤ ·)) =
      c.val.gaps.map (·.val.next_refill_index) := by
    have hpairwise := hevidence.indexes.2
    rw [List.dedup_eq_self.2 (hpairwise.imp ne_of_lt)]
    exact (hpairwise.imp le_of_lt).insertionSort_eq
  unfold contiguous_rf_spans
  rw [if_neg (not_not.2 h)]
  simp only
  rw [hsorted]
  exact hspans

namespace SegmentContinuity

/-- All stored samples. -/
def storedSamples (c : SegmentContinuity) : Int := (c.val.refills.map (·.val.sample_count)).sum

/-- All samples the declared gaps miss. -/
def missingSamples (c : SegmentContinuity) : Int := (c.val.gaps.map (·.val.missing_sample_count)).sum

/-- Spans that partition the stored samples, cut exactly at the declared gaps. -/
structure PartitionedBy (c : SegmentContinuity) (spans : List ContiguousRfSpan) : Prop where
  covers : ∀ x, 0 ≤ x ∧ x < c.storedSamples ↔ ∃ s ∈ spans, s.val.start_sample ≤ x ∧ x < s.val.stop_sample
  ordered : spans.Pairwise fun a b => a.val.stop_sample ≤ b.val.start_sample
  separated : spans.IsChain fun a b => a.val.stop_sample = b.val.start_sample ∧ ∃ gap ∈ c.val.gaps,
    gap.val.stored_sample_offset = a.val.stop_sample ∧
      gap.val.first_missing_sample_sequence = a.val.stop_sample_sequence ∧
      gap.val.next_sample_sequence = b.val.first_sample_sequence ∧ 0 < gap.val.missing_sample_count
  none_inside : ∀ gap ∈ c.val.gaps, ∀ s ∈ spans,
    ¬(s.val.start_sample < gap.val.stored_sample_offset ∧ gap.val.stored_sample_offset < s.val.stop_sample)

theorem partitioned (c : SegmentContinuity) (h : IsVerified c) :
    ∃ spans, contiguous_rf_spans c = .ok spans ∧ c.PartitionedBy spans := by
  rcases c.spans_ok h with ⟨span, spans, hspans, hzero, htiles⟩
  refine ⟨span :: spans, hspans, ?_, htiles.ordered, htiles.separated, htiles.none_inside⟩
  intro x
  constructor
  · rintro ⟨hx, hlt⟩
    exact htiles.covers (by omega) hlt
  · rintro ⟨s, hs, hstart, hstop⟩
    rcases htiles.bounds s hs with ⟨hfirst, htotal⟩
    have hsum : s.val.stop_sample ≤ c.storedSamples := htotal
    omega

/-- What `from_refills` builds. -/
theorem from_refills_ok {receiver_chain_ids : List ReceiverChainId} {provenance : CaptureProvenance}
    {refills : List RefillMetadata} {c : SegmentContinuity}
    (h : from_refills receiver_chain_ids provenance refills = .ok c) :
    c.val.refills = refills ∧ (IsVerified c ↔ refills ≠ []) := by
  unfold from_refills at h
  split at h
  · rename_i hnil
    have hval := Checked.val_of_make h
    constructor
    · rw [hval, hnil]
    · unfold IsVerified
      rw [hval]
      simp [hnil]
  · rename_i hne
    rcases bind_ok.1 h with ⟨gaps, _, hmake⟩
    have hval := Checked.val_of_make hmake
    constructor
    · rw [hval]
    · unfold IsVerified
      rw [hval]
      refine iff_of_true ?_ hne
      simp only
      split <;> simp

/-- The device counts on over the stored samples and the missing ones. -/
theorem sequence_extent (c : SegmentContinuity) (h : IsVerified c) {last : RefillMetadata}
    (hfirst : c.val.refills.head? = some first) (hlast : c.val.refills.getLast? = some last) :
    RefillMetadata.sample_sequence_end_exclusive last - first.val.first_sample_sequence =
      c.storedSamples + c.missingSamples := by
  rcases c.evidence h with ⟨first', refills, hrefills, _, hevidence⟩
  rw [hrefills] at hfirst hlast
  cases hfirst
  have hsame : last = Evidence.lastOf first refills := by
    rw [List.getLast?_eq_some_getLast (List.cons_ne_nil _ _)] at hlast
    exact (Option.some.inj hlast).symm
  rw [hsame, storedSamples, hrefills]
  exact hevidence.sequence_sum

/-- Refills that `from_refills` accepts determine their spans; without any, nothing is proven. -/
theorem refills_determine_spans {receiver_chain_ids : List ReceiverChainId} {provenance : CaptureProvenance}
    {refills : List RefillMetadata} {c : SegmentContinuity}
    (h : from_refills receiver_chain_ids provenance refills = .ok c) :
    (refills = [] → contiguous_rf_spans c = .error (.value "unverified recording has no proven RF spans")) ∧
      (refills ≠ [] → ∃ spans, contiguous_rf_spans c = .ok spans ∧ c.PartitionedBy spans ∧
        c.storedSamples = (refills.map (·.val.sample_count)).sum ∧
        ∀ first last, refills.head? = some first → refills.getLast? = some last →
          RefillMetadata.sample_sequence_end_exclusive last - first.val.first_sample_sequence =
            c.storedSamples + c.missingSamples) := by
  rcases from_refills_ok h with ⟨hrefills, hverified⟩
  constructor
  · intro hnil
    have hnot : ¬IsVerified c := fun hv => (hverified.1 hv) hnil
    unfold contiguous_rf_spans
    rw [if_pos hnot]
  · intro hne
    rcases c.partitioned (hverified.2 hne) with ⟨spans, hspans, hpartitioned⟩
    refine ⟨spans, hspans, hpartitioned, by rw [storedSamples, hrefills], ?_⟩
    intro first last hfirst hlast
    rw [← hrefills] at hfirst hlast
    exact c.sequence_extent (hverified.2 hne) hfirst hlast

/-- Two receivers of one radio -/
def exampleChains : List ReceiverChainId :=
  [Sample.rx_a, Sample.rx_b]

def exampleProvenance : CaptureProvenance := ⟨⟨str "v5", str "c0ffee", str "1.0", str "3", str "paired"⟩, by decide⟩

/-- Refill `index`, of 4 samples, 100 ns and one buffer after the one before, with `skipped` buffers lost before it. -/
def exampleRefill (index skipped : Nat) : RefillMetadata.Fields where
  refill_index := index
  segment_sample_offset := 4 * index
  sample_count := 4
  stream_id := 7
  buffer_sequence := index + skipped
  first_sample_sequence := 4 * (index + skipped)
  monotonic_start_ns := 100 * index
  monotonic_end_ns := 100 * index + 100
  utc_start_ns := 100 * index
  utc_end_ns := 100 * index + 100
  time_uncertainty_ns := 5
  gain_db_start := [.int 1, .int 1]
  gain_db_end := [.int 1, .int 1]
  rssi_db_start := [.int 1, .int 1]
  rssi_db_end := [.int 1, .int 1]

/-- Three refills, with two buffers lost before the last. -/
def exampleRefills : List RefillMetadata :=
  [⟨exampleRefill 0 0, by decide⟩, ⟨exampleRefill 1 0, by decide⟩, ⟨exampleRefill 2 2, by decide⟩]

theorem exampleRefills_accepted :
    ∃ c, from_refills exampleChains exampleProvenance exampleRefills = .ok c ∧ c.missingSamples = 8 := by
  have hok : ∃ c ∈ (from_refills exampleChains exampleProvenance exampleRefills).toOption, c.missingSamples = 8 := by
    decide +kernel
  rcases hok with ⟨c, hc, hmissing⟩
  refine ⟨c, ?_, hmissing⟩
  cases hresult : from_refills exampleChains exampleProvenance exampleRefills with
  | error e =>
    rw [hresult] at hc
    cases hc
  | ok c' =>
    rw [hresult] at hc
    cases hc
    rfl

theorem refills_determine_spans_gapped :
    ∃ c, from_refills exampleChains exampleProvenance exampleRefills = .ok c ∧
      ∃ spans, contiguous_rf_spans c = .ok spans ∧ c.PartitionedBy spans ∧ c.missingSamples = 8 := by
  rcases exampleRefills_accepted with ⟨c, hfrom, hmissing⟩
  rcases (refills_determine_spans hfrom).2 (List.cons_ne_nil _ _) with ⟨spans, hspans, hpartitioned, _⟩
  exact ⟨c, hfrom, spans, hspans, hpartitioned, hmissing⟩

/-- What `from_refills` builds of no refills. -/
def noEvidence : SegmentContinuity where
  val :=
    { status := .unverified
      receiver_chain_ids := exampleChains
      provenance := exampleProvenance
      refills := [] }
  ok := by decide +kernel

/-- No refills are accepted, and have no spans. -/
theorem no_refills_no_spans :
    ∃ c, from_refills exampleChains exampleProvenance [] = .ok c ∧ ∀ spans, contiguous_rf_spans c ≠ .ok spans := by
  refine ⟨noEvidence, ?_, ?_⟩
  · unfold from_refills
    rw [if_pos rfl]
    exact Checked.make_ok noEvidence.ok
  · intro spans h
    unfold contiguous_rf_spans at h
    rw [if_pos (fun h => h rfl)] at h
    cases h

end SegmentContinuity

end LeoFlow
