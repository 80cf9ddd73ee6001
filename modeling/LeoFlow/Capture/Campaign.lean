import LeoFlow.Contracts.CaptureBatch
import LeoFlow.Core.JsonNumber

/-!
# LeoFlow.Capture.Campaign — the finite campaign coordinator

`capture/campaign.py` and the journal of `adapters/campaign_sqlite.py`. A
coordinator call is a `Prog` over the campaign's journal row; the capture, analysis and
capacity ports are what it asks. The `definition_digest` and `revision` columns of
the row are those of the state it holds.
-/

namespace LeoFlow

/-! ## Definitions -/

def CAMPAIGN_WINDOW_NS : Int := 8 * 60 * 60 * 1000000000
def CAMPAIGN_ROUNDS : Nat := 104
def SLOTS_PER_ROUND : Nat := 9
def CAMPAIGN_SUCCESS_TARGET : Nat := CAMPAIGN_ROUNDS * SLOTS_PER_ROUND
def SLOT_PERIOD_NUMERATOR_NS : Int := 400000000000
def SLOT_PERIOD_DENOMINATOR : Int := 13
def QUALIFICATION_SLOT_PERIOD_NUMERATOR_NS : Int := 400000000000
def QUALIFICATION_SLOT_PERIOD_DENOMINATOR : Int := 3
def MAXIMUM_OBSERVED_START_SKEW_NS : Int := 100000000
def PREFLIGHT_LEAD_NS : Int := 15000000000

structure CampaignCell.Fields where
  sample_rate_hz : Nat
  duration_ms : Nat
deriving DecidableEq

def CampaignCell.Fields.post_init (c : CampaignCell.Fields) : Except PyError Unit :=
  checkAll [
    raiseIf (c.sample_rate_hz ∉ [1250000, 2500000, 5000000])
      (.value "campaign sample rate is not in the reviewed matrix"),
    raiseIf (c.duration_ms ∉ [40, 80, 160])
      (.value "campaign duration is not in the reviewed matrix")]

/-- `CampaignCell` -/
abbrev CampaignCell := Checked CampaignCell.Fields.post_init

/-- `sample_count` -/
def CampaignCell.sample_count (c : CampaignCell) : Nat := c.val.sample_rate_hz * c.val.duration_ms / 1000

def CampaignCell.document (c : CampaignCell) : PyValue :=
  .dict [(str "sample_rate_hz", .int c.val.sample_rate_hz), (str "duration_ms", .int c.val.duration_ms),
    (str "sample_count", .int c.sample_count)]

def CAMPAIGN_CELLS : List CampaignCell := [
  ⟨⟨1250000, 40⟩, rfl⟩, ⟨⟨1250000, 80⟩, rfl⟩, ⟨⟨1250000, 160⟩, rfl⟩,
  ⟨⟨2500000, 40⟩, rfl⟩, ⟨⟨2500000, 80⟩, rfl⟩, ⟨⟨2500000, 160⟩, rfl⟩,
  ⟨⟨5000000, 40⟩, rfl⟩, ⟨⟨5000000, 80⟩, rfl⟩, ⟨⟨5000000, 160⟩, rfl⟩]

/-- Every cell is in the matrix. -/
theorem mem_CAMPAIGN_CELLS (c : CampaignCell) : c ∈ CAMPAIGN_CELLS := by
  have h := c.ok
  simp only [CampaignCell.Fields.post_init, checkAll_cons, raiseIf_ok, not_not, List.mem_cons,
    List.not_mem_nil, or_false] at h
  rcases c with ⟨⟨rate, duration⟩, hc⟩
  obtain ⟨hrate, hduration, -⟩ := h
  rcases hrate with rfl | rfl | rfl <;> rcases hduration with rfl | rfl | rfl <;>
    simp [CAMPAIGN_CELLS]

/-- `_CAMPAIGN_ID`: `[a-z0-9][a-z0-9_-]{0,39}` -/
def IsCampaignId (id : PyStr) : Prop :=
  Matches IsLowerAlnum (fun c => IsLowerAlnum c ∨ c = 95 ∨ c = 45) id ∧ id.length ≤ 40

instance (id : PyStr) : Decidable (IsCampaignId id) :=
  inferInstanceAs (Decidable (Matches IsLowerAlnum _ id ∧ _))

structure CampaignDefinition.Fields where
  campaign_id : PyStr
  start_utc_ns : Int
  radio_a_id : RadioId
  radio_b_id : RadioId
  station_a_digest : Digest
  station_b_digest : Digest
  maximum_start_lateness_ns : Int
  qualification_receipt_digest : Option Digest
  qualification : Bool
  maximum_capture_invocations : Int
  maximum_fresh_attempts_per_cell : Int
  maximum_analysis_invocations : Int
  maximum_observed_start_skew_ns : Int
  preflight_lead_ns : Int
  analysis_after_each_capture : Bool
deriving DecidableEq

def CampaignDefinition.Fields.post_init (d : CampaignDefinition.Fields) : Except PyError Unit :=
  checkAll [
    raiseIf (¬IsCampaignId d.campaign_id) (.value "campaign_id must be a bounded lowercase token"),
    raiseIf (d.start_utc_ns < 0) (.value "campaign start must be non-negative"),
    raiseIf (d.radio_a_id = d.radio_b_id) (.value "campaign radios must be distinct"),
    requirePositive (.int d.maximum_capture_invocations) "maximum_capture_invocations",
    requirePositive (.int d.maximum_fresh_attempts_per_cell) "maximum_fresh_attempts_per_cell",
    requirePositive (.int d.maximum_analysis_invocations) "maximum_analysis_invocations",
    raiseIf (d.maximum_observed_start_skew_ns ≠ MAXIMUM_OBSERVED_START_SKEW_NS)
      (.value "campaign skew bound must be the reviewed 100 ms"),
    raiseIf (d.preflight_lead_ns ≠ PREFLIGHT_LEAD_NS)
      (.value "campaign preflight lead must be the reviewed 15 seconds"),
    raiseIf (d.qualification ∧ ¬d.analysis_after_each_capture)
      (.value "qualification requires per-capture analysis"),
    raiseIf (d.maximum_start_lateness_ns < 0) (.value "campaign lateness bound must be non-negative"),
    raiseIf (d.qualification = d.qualification_receipt_digest.isSome)
      (.value "main campaign requires a qualification receipt; qualification does not")]

/-- `CampaignDefinition` -/
abbrev CampaignDefinition := Checked CampaignDefinition.Fields.post_init

namespace CampaignDefinition

def end_utc_ns (d : CampaignDefinition) : Int := d.val.start_utc_ns + CAMPAIGN_WINDOW_NS

def target_successes (d : CampaignDefinition) : Nat :=
  if d.val.qualification then SLOTS_PER_ROUND else CAMPAIGN_SUCCESS_TARGET

def slot_period_numerator_ns (d : CampaignDefinition) : Int :=
  if d.val.qualification then QUALIFICATION_SLOT_PERIOD_NUMERATOR_NS else SLOT_PERIOD_NUMERATOR_NS

def slot_period_denominator (d : CampaignDefinition) : Int :=
  if d.val.qualification then QUALIFICATION_SLOT_PERIOD_DENOMINATOR else SLOT_PERIOD_DENOMINATOR

/-- `document` -/
def document (d : CampaignDefinition) : PyValue :=
  .dict ([
    (str "schema", .str (if d.val.qualification then str "org.leo-flow.gauss-v5-campaign/v2"
      else str "org.leo-flow.gauss-v5-campaign/v3")),
    (str "campaign_id", .str d.val.campaign_id),
    (str "start_utc_ns", .int d.val.start_utc_ns),
    (str "campaign_kind", .str (if d.val.qualification then str "qualification" else str "main")),
    (str "radios", .list [.str d.val.radio_a_id.value, .str d.val.radio_b_id.value]),
    (str "station_digests",
      .list [.str d.val.station_a_digest.toStr, .str d.val.station_b_digest.toStr]),
    (str "cells", .list (CAMPAIGN_CELLS.map CampaignCell.document)),
    (str "maximum_capture_invocations", .int d.val.maximum_capture_invocations),
    (str "maximum_fresh_attempts_per_cell", .int d.val.maximum_fresh_attempts_per_cell),
    (str "maximum_analysis_invocations", .int d.val.maximum_analysis_invocations),
    (str "maximum_observed_start_skew_ns", .int d.val.maximum_observed_start_skew_ns),
    (str "maximum_start_lateness_ns", .int d.val.maximum_start_lateness_ns),
    (str "preflight_lead_ns", .int d.val.preflight_lead_ns),
    (str "capture_mode", .str (str "coordinated")),
    (str "analysis_after_each_capture", .bool d.val.analysis_after_each_capture),
    (str "unit_schedule", .str (if d.val.qualification then str "fixed_nine_cell_no_catch_up_grid"
      else str "balanced_nine_cell_four_geometry_no_catch_up_grid")),
    (str "qualification_receipt_digest",
      match d.val.qualification_receipt_digest with
      | some digest => .str digest.toStr
      | none => .none),
    (str "slot_period_numerator_ns", .int d.slot_period_numerator_ns),
    (str "slot_period_denominator", .int d.slot_period_denominator),
    (str "no_catch_up", .bool true)] ++
    if d.val.qualification then
      [(str "rounds", .int 1), (str "slots_per_round", .int SLOTS_PER_ROUND)]
    else [
      (str "window_duration_ns", .int CAMPAIGN_WINDOW_NS),
      (str "rounds", .int CAMPAIGN_ROUNDS),
      (str "slots_per_round", .int SLOTS_PER_ROUND),
      (str "geometry_schedule", .list [
        .list [.str (str "L"), .str (str "L")], .list [.str (str "L"), .str (str "U")],
        .list [.str (str "U"), .str (str "U")], .list [.str (str "U"), .str (str "L")]]),
      (str "capture_run_transition_limit", .int (2 * d.target_successes + 1)),
      (str "analysis_drain_transition_limit", .int (d.target_successes + 1))])

/-- `digest` -/
def digest (d : CampaignDefinition) : Except PyError Digest := canonicalDigest d.document

theorem post_init_ok (d : CampaignDefinition) :
    0 ≤ d.val.start_utc_ns ∧ 0 < d.val.maximum_capture_invocations ∧
      0 < d.val.maximum_fresh_attempts_per_cell ∧ 0 < d.val.maximum_analysis_invocations ∧
      d.val.maximum_observed_start_skew_ns = MAXIMUM_OBSERVED_START_SKEW_NS := by
  have h := d.ok
  simp only [CampaignDefinition.Fields.post_init, checkAll_cons, raiseIf_ok, requirePositive,
    not_not, ne_eq] at h
  omega

end CampaignDefinition

/-! ## Units and records -/

/-- `f"{n:0{width}d}"` -/
def zeroPad (width n : Nat) : PyStr :=
  List.replicate (width - (PyFloat.natStr n).length) 48 ++ PyFloat.natStr n

structure CampaignUnit where
  success_index : Nat
  slot_index : Nat
  retry_index : Nat
  cell : CampaignCell
  requested_start_utc_ns : Int
  batch : CaptureBatchDefinition
  plan_a_id : PlanId
  plan_b_id : PlanId
deriving DecidableEq

def CampaignUnit.unit_id (u : CampaignUnit) : PyStr :=
  u.batch.val.batch_id.value ++ str "_s" ++ zeroPad 3 u.success_index ++ str "_r" ++
    zeroPad 2 u.retry_index

inductive CampaignUnitPhase where
  | planned
  | captured
  | terminal_failed
  | analysis_failed
  | complete
deriving DecidableEq

structure FeatureSetRef where
  feature_set_id : FeatureSetId
  analysis_run_id : AnalysisRunId
  bundle_ref : ObjectRef
deriving DecidableEq

structure CampaignAnalysisSuccess.Fields where
  recording_id : RecordingId
  analysis_job_id : ContractId .job
  result_ref : ArtifactRef
  projection_work_id : PyStr
  projected_feature_set_ref : FeatureSetRef
  projected_utc_ns : Int
deriving DecidableEq

def CampaignAnalysisSuccess.Fields.post_init (a : CampaignAnalysisSuccess.Fields) :
    Except PyError Unit :=
  checkAll [
    raiseIf (¬str "fpwork_" <+: a.projection_work_id)
      (.value "analysis receipt projection work ID is invalid"),
    raiseIf (a.projected_utc_ns < 0) (.value "analysis receipt projection time is invalid"),
    raiseIf (a.result_ref.digest ≠ a.projected_feature_set_ref.bundle_ref.digest)
      (.value "analysis and projected FeatureSet artifacts differ"),
    raiseIf (a.result_ref.artifact_id ≠ a.projected_feature_set_ref.feature_set_id.value)
      (.value "analysis and projected FeatureSet identities differ"),
    raiseIf (a.result_ref.schema.map (fun s => (s.schema_id, s.version)) ≠
        some (str "org.leo-flow.feature-set-bundle", V0_1))
      (.value "analysis result is not a FeatureSet bundle")]

/-- `CampaignAnalysisSuccess` -/
abbrev CampaignAnalysisSuccess := Checked CampaignAnalysisSuccess.Fields.post_init

structure CampaignAnalysisReceipt.Fields where
  batch_id : CaptureBatchId
  successes : CampaignAnalysisSuccess × CampaignAnalysisSuccess
  completed_utc_ns : Int
deriving DecidableEq

def CampaignAnalysisReceipt.Fields.post_init (r : CampaignAnalysisReceipt.Fields) :
    Except PyError Unit :=
  let first := r.successes.1.val
  let second := r.successes.2.val
  checkAll [
    raiseIf (r.completed_utc_ns < 0) (.value "analysis receipt completion time is invalid"),
    raiseIf (r.completed_utc_ns < first.projected_utc_ns ∨ r.completed_utc_ns < second.projected_utc_ns)
      (.value "projection completes after its analysis receipt"),
    -- the stable sort keeps a pair exactly if it is in order
    raiseIf (second.recording_id.value < first.recording_id.value)
      (.value "analysis receipt successes are not canonical"),
    raiseIf (first.recording_id = second.recording_id)
      (.value "analysis receipt requires two distinct recording IDs"),
    raiseIf (first.analysis_job_id = second.analysis_job_id)
      (.value "analysis receipt requires two distinct job IDs"),
    raiseIf (first.projection_work_id = second.projection_work_id)
      (.value "analysis receipt requires two distinct projection work IDs")]

/-- `CampaignAnalysisReceipt` -/
abbrev CampaignAnalysisReceipt := Checked CampaignAnalysisReceipt.Fields.post_init

/-- `recording_ids` -/
def CampaignAnalysisReceipt.recording_ids (r : CampaignAnalysisReceipt) : List RecordingId :=
  [r.val.successes.1.val.recording_id, r.val.successes.2.val.recording_id]

structure CampaignUnitRecord where
  unit : CampaignUnit
  phase : CampaignUnitPhase
  capture_invocations : Nat
  analysis_invocations : Nat
  snapshot : Option CaptureBatchSnapshot
  analysis_receipt : Option CampaignAnalysisReceipt
deriving DecidableEq

/-- `CampaignUnitRecord(unit)` -/
def CampaignUnitRecord.new (unit : CampaignUnit) : CampaignUnitRecord :=
  ⟨unit, .planned, 0, 0, none, none⟩

structure CampaignJournalState where
  definition_digest : Digest
  records : List CampaignUnitRecord
  revision : Nat
deriving DecidableEq

namespace CampaignJournalState

/-- The loop of `successful_counts`. -/
def successful_counts (s : CampaignJournalState) : List Nat :=
  s.records.foldl (fun counts record =>
    if record.phase = .complete then
      counts.modify (CAMPAIGN_CELLS.idxOf record.unit.cell) (· + 1)
    else counts) (List.replicate CAMPAIGN_CELLS.length 0)

def completed_successes (s : CampaignJournalState) : Nat := s.successful_counts.sum

end CampaignJournalState

/-- `campaign_cell` -/
def campaign_cell (success_index : Nat) : Except PyError CampaignCell :=
  match CAMPAIGN_CELLS[success_index % SLOTS_PER_ROUND]? with
  | some cell =>
    if success_index < CAMPAIGN_SUCCESS_TARGET then .ok cell
    else .error (.value "campaign success index is outside the reviewed schedule")
  | none => .error (.value "campaign success index is outside the reviewed schedule")

theorem campaign_cell_lt {success_index : Nat} {cell : CampaignCell}
    (h : campaign_cell success_index = .ok cell) : success_index < CAMPAIGN_SUCCESS_TARGET := by
  unfold campaign_cell at h
  split at h
  · split at h
    · assumption
    · cases h
  · cases h

/-- The `stem` of `build_campaign_unit`. -/
def campaignStem (campaign_id : PyStr) (success_index slot_index retry_index : Nat) : PyStr :=
  campaign_id ++ str "_u" ++ zeroPad 3 success_index ++ str "_s" ++ zeroPad 3 slot_index ++
    str "_r" ++ zeroPad 2 retry_index

/-- The identifiers and the batch of a unit, which both the campaign and the canary name after a
stem. -/
def buildUnit (stem : PyStr) (success_index slot_index retry_index : Nat) (cell : CampaignCell)
    (radio_a_id radio_b_id : RadioId) (maximum_observed_start_skew_ns requested_start_utc_ns : Int) :
    Except PyError CampaignUnit := do
  let plan_a ← ContractId.parse .plan (str "plan_" ++ stem ++ str "_a")
  let plan_b ← ContractId.parse .plan (str "plan_" ++ stem ++ str "_b")
  let attempt_a ← ContractId.parse .capture_attempt (str "cattempt_" ++ stem ++ str "_a")
  let expected_a ← Checked.make ExpectedCaptureAttempt.Fields.post_init
    ⟨attempt_a, radio_a_id, plan_a, requested_start_utc_ns⟩
  let attempt_b ← ContractId.parse .capture_attempt (str "cattempt_" ++ stem ++ str "_b")
  let expected_b ← Checked.make ExpectedCaptureAttempt.Fields.post_init
    ⟨attempt_b, radio_b_id, plan_b, requested_start_utc_ns⟩
  let batch_id ← ContractId.parse .capture_batch (str "cbatch_" ++ stem)
  let batch ← Checked.make CaptureBatchDefinition.Fields.post_init {
    schema := ⟨str "org.leo-flow.capture-batch", V0_1, isToken_capture_batch⟩
    batch_id := batch_id
    mode := .coordinated
    expected_attempts := (expected_a, expected_b)
    maximum_observed_start_skew_ns := some maximum_observed_start_skew_ns }
  return {
    success_index := success_index
    slot_index := slot_index
    retry_index := retry_index
    cell := cell
    requested_start_utc_ns := requested_start_utc_ns
    batch := batch
    plan_a_id := plan_a
    plan_b_id := plan_b }

/-- `build_campaign_unit` -/
def build_campaign_unit (d : CampaignDefinition) (success_index slot_index retry_index : Nat)
    (requested_start_utc_ns : Int) : Except PyError CampaignUnit := do
  let cell ← campaign_cell success_index
  buildUnit (campaignStem d.val.campaign_id success_index slot_index retry_index) success_index
    slot_index retry_index cell d.val.radio_a_id d.val.radio_b_id
    d.val.maximum_observed_start_skew_ns requested_start_utc_ns

/-- `required_remaining_capacity_bytes`; the coordinator has checked the margin. -/
def required_remaining_capacity_bytes (d : CampaignDefinition) (s : CampaignJournalState)
    (margin_bytes : Int) : Int :=
  let target_per_cell : Nat := if d.val.qualification then 1 else CAMPAIGN_ROUNDS
  let remaining_raw := ((CAMPAIGN_CELLS.zip s.successful_counts).map fun x =>
    (target_per_cell - x.2) * x.1.sample_count * 128).sum
  remaining_raw * 2 + margin_bytes

/-! ## Identifiers -/

open Json (AllDigits allDigits_natStr allDigits_append allDigits_zeros digitsValue_append
  digitsValue_zeros digitsValue_natStr partition_append not_mem_of_allDigits)

theorem allDigits_zeroPad (width n : Nat) : AllDigits (zeroPad width n) :=
  allDigits_append (allDigits_zeros _) (allDigits_natStr n)

theorem zeroPad_injective {width n m : Nat} (h : zeroPad width n = zeroPad width m) : n = m := by
  have hvalue : ∀ k, Json.digitsValue (zeroPad width k) = k := by
    intro k
    rw [zeroPad, digitsValue_append, digitsValue_zeros, digitsValue_natStr, Nat.zero_mul, Nat.zero_add]
  rw [← hvalue n, h, hvalue m]

/-- Digits up to a separator determine the rest. -/
theorem digits_append_inj {a b x y : PyStr} (ha : AllDigits a) (hb : AllDigits b)
    (h : a ++ 95 :: x = b ++ 95 :: y) : a = b ∧ x = y := by
  have hpartition := congrArg (Json.partition 95) h
  rw [partition_append (not_mem_of_allDigits ha (by decide)),
    partition_append (not_mem_of_allDigits hb (by decide))] at hpartition
  exact Prod.mk.inj hpartition

/-- A stem names its success and slot index, whatever follows it. -/
theorem campaignStem_inj {id x y : PyStr} {success slot retry success' slot' retry' : Nat}
    (h : campaignStem id success slot retry ++ x = campaignStem id success' slot' retry' ++ y) :
    success = success' ∧ slot = slot' := by
  have hu : str "_u" = [95, 117] := by decide
  have hs : str "_s" = [95, 115] := by decide
  have hr : str "_r" = [95, 114] := by decide
  simp only [campaignStem, List.append_assoc, hu, hs, hr, List.cons_append, List.nil_append,
    List.append_cancel_left_eq, List.cons.injEq, true_and] at h
  obtain ⟨hsuccess, hrest⟩ := digits_append_inj (allDigits_zeroPad _ _) (allDigits_zeroPad _ _) h
  simp only [List.cons.injEq, true_and] at hrest
  obtain ⟨hslot, _⟩ := digits_append_inj (allDigits_zeroPad _ _) (allDigits_zeroPad _ _) hrest
  exact ⟨zeroPad_injective hsuccess, zeroPad_injective hslot⟩

/-- What a unit is named after. -/
structure CampaignUnit.NamedAfter (u : CampaignUnit) (stem : PyStr) : Prop where
  batch_id : u.batch.val.batch_id.value = str "cbatch_" ++ stem
  plan_a_id : u.plan_a_id.value = str "plan_" ++ stem ++ str "_a"
  plan_b_id : u.plan_b_id.value = str "plan_" ++ stem ++ str "_b"

/-- The two plans of a unit and of any other differ. -/
theorem CampaignUnit.NamedAfter.plan_ne {u u' : CampaignUnit} {stem stem' : PyStr}
    (h : u.NamedAfter stem) (h' : u'.NamedAfter stem') : u.plan_a_id ≠ u'.plan_b_id := by
  intro heq
  have hvalue := congrArg ContractId.value heq
  rw [h.plan_a_id, h'.plan_b_id] at hvalue
  exact absurd (List.append_inj_right' hvalue rfl) (by decide)

theorem buildUnit_ok {stem : PyStr} {success_index slot_index retry_index : Nat} {cell : CampaignCell}
    {radio_a_id radio_b_id : RadioId} {skew requested : Int} {u : CampaignUnit}
    (h : buildUnit stem success_index slot_index retry_index cell radio_a_id radio_b_id skew requested =
      .ok u) :
    u.success_index = success_index ∧ u.slot_index = slot_index ∧ u.retry_index = retry_index ∧
      u.cell = cell ∧ u.requested_start_utc_ns = requested ∧ u.NamedAfter stem := by
  unfold buildUnit at h
  obtain ⟨plan_a, ha, h⟩ := bind_ok.1 h
  obtain ⟨plan_b, hb, h⟩ := bind_ok.1 h
  obtain ⟨attempt_a, _, h⟩ := bind_ok.1 h
  obtain ⟨expected_a, _, h⟩ := bind_ok.1 h
  obtain ⟨attempt_b, _, h⟩ := bind_ok.1 h
  obtain ⟨expected_b, _, h⟩ := bind_ok.1 h
  obtain ⟨batch_id, hid, h⟩ := bind_ok.1 h
  obtain ⟨batch, hbatch, h⟩ := bind_ok.1 h
  cases h
  refine ⟨rfl, rfl, rfl, rfl, rfl, ?_, ?_, ?_⟩
  · show batch.val.batch_id.value = _
    rw [Checked.val_of_make hbatch]
    exact ContractId.value_of_parse hid
  · exact ContractId.value_of_parse ha
  · exact ContractId.value_of_parse hb

theorem build_campaign_unit_ok {d : CampaignDefinition} {success_index slot_index retry_index : Nat}
    {requested : Int} {u : CampaignUnit}
    (h : build_campaign_unit d success_index slot_index retry_index requested = .ok u) :
    u.success_index = success_index ∧ u.slot_index = slot_index ∧ u.retry_index = retry_index ∧
      campaign_cell success_index = .ok u.cell ∧ u.requested_start_utc_ns = requested ∧
      u.NamedAfter (campaignStem d.val.campaign_id success_index slot_index retry_index) := by
  unfold build_campaign_unit at h
  obtain ⟨cell, hcell, h⟩ := bind_ok.1 h
  obtain ⟨hsuccess, hslot, hretry, rfl, hrequested, hnamed⟩ := buildUnit_ok h
  exact ⟨hsuccess, hslot, hretry, hcell, hrequested, hnamed⟩

/-! ## Balance -/

/-- The counts after `n` successes in cell order. -/
def balanced (n : Nat) : List Nat := (List.range SLOTS_PER_ROUND).map fun j => (n + 8 - j) / 9

theorem balanced_succ (n : Nat) : balanced (n + 1) = (balanced n).modify (n % 9) (· + 1) := by
  apply List.ext_getElem
  · simp [balanced]
  · intro j hj hj'
    have hlt : j < 9 := by simpa [balanced, SLOTS_PER_ROUND] using hj
    rw [List.getElem_modify]
    simp only [balanced, List.getElem_map, List.getElem_range]
    split <;> omega

theorem sum_modify_succ {counts : List Nat} {i : Nat} (h : i < counts.length) :
    (counts.modify i (· + 1)).sum = counts.sum + 1 := by
  induction counts generalizing i with
  | nil => exact absurd h (Nat.not_lt_zero i)
  | cons count counts ih =>
    cases i with
    | zero =>
      show count + 1 + counts.sum = count + counts.sum + 1
      omega
    | succ i =>
      show count + (counts.modify i (· + 1)).sum = count + counts.sum + 1
      rw [ih (Nat.lt_of_succ_lt_succ h)]
      omega

theorem sum_balanced (n : Nat) : (balanced n).sum = n := by
  induction n with
  | zero => rfl
  | succ n ih =>
    have hlt : n % 9 < (balanced n).length := by
      simp only [balanced, List.length_map, List.length_range, SLOTS_PER_ROUND]
      omega
    rw [balanced_succ, sum_modify_succ hlt, ih]

theorem idxOf_campaign_cell {n : Nat} {cell : CampaignCell} (h : campaign_cell n = .ok cell) :
    CAMPAIGN_CELLS.idxOf cell = n % 9 := by
  unfold campaign_cell at h
  split at h
  · rename_i cell' hcell
    split at h
    · cases h
      have hlt : n % 9 < 9 := Nat.mod_lt _ (by decide)
      obtain ⟨hlt', hget⟩ := List.getElem?_eq_some_iff.1 hcell
      rw [← hget]
      exact List.Nodup.idxOf_getElem (by decide) _ hlt'
    · cases h
  · cases h

namespace CampaignJournalState

/-- How many records are complete. -/
def completeCount (records : List CampaignUnitRecord) : Nat :=
  records.countP fun r => r.phase = .complete

/-- Every record continues the schedule: its success index counts the complete records before it,
and its cell is that of its success index. -/
structure Scheduled (records : List CampaignUnitRecord) : Prop where
  success : ∀ i r, records[i]? = some r → r.unit.success_index = completeCount (records.take i)
  cell : ∀ r ∈ records, campaign_cell r.unit.success_index = .ok r.unit.cell

theorem scheduled_append {records : List CampaignUnitRecord} {r : CampaignUnitRecord} :
    Scheduled (records ++ [r]) ↔
      Scheduled records ∧ r.unit.success_index = completeCount records ∧
        campaign_cell r.unit.success_index = .ok r.unit.cell := by
  constructor
  · intro h
    refine ⟨⟨?_, ?_⟩, ?_, ?_⟩
    · intro i r' hr'
      obtain ⟨hlt, _⟩ := List.getElem?_eq_some_iff.1 hr'
      have := h.success i r' (by rw [List.getElem?_append_left hlt]; exact hr')
      rw [this, List.take_append_of_le_length (Nat.le_of_lt hlt)]
    · intro r' hr'
      exact h.cell r' (List.mem_append_left _ hr')
    · have := h.success records.length r (by simp)
      rw [this, List.take_left']
      rfl
    · exact h.cell r (by simp)
  · rintro ⟨h, hsuccess, hcell⟩
    constructor
    · intro i r' hr'
      rcases Nat.lt_or_ge i records.length with hlt | hge
      · rw [List.getElem?_append_left hlt] at hr'
        rw [h.success i r' hr', List.take_append_of_le_length (Nat.le_of_lt hlt)]
      · obtain ⟨hlt, hget⟩ := List.getElem?_eq_some_iff.1 hr'
        have hi : i = records.length := by
          rw [List.length_append, List.length_singleton] at hlt
          omega
        subst hi
        rw [List.getElem_concat_length rfl] at hget
        rw [← hget, hsuccess, List.take_left']
        rfl
    · intro r' hr'
      rcases List.mem_append.1 hr' with hr' | hr'
      · exact h.cell r' hr'
      · rw [List.mem_singleton.1 hr']
        exact hcell

/-- The cells take turns. -/
theorem successful_counts_eq {s : CampaignJournalState} (h : Scheduled s.records) :
    s.successful_counts = balanced (completeCount s.records) := by
  unfold successful_counts
  generalize s.records = records at h ⊢
  induction records using List.reverseRecOn with
  | nil => rfl
  | append_singleton records r ih =>
    obtain ⟨hrecords, hsuccess, hcell⟩ := scheduled_append.1 h
    rw [List.foldl_append, List.foldl_cons, List.foldl_nil, ih hrecords]
    unfold completeCount
    rw [List.countP_append, List.countP_singleton]
    by_cases hcomplete : r.phase = .complete
    · rw [if_pos hcomplete, idxOf_campaign_cell hcell, hsuccess, if_pos (by simpa using hcomplete),
        balanced_succ]
      rfl
    · rw [if_neg hcomplete, if_neg (by simpa using hcomplete), Nat.add_zero]

theorem completed_successes_eq {s : CampaignJournalState} (h : Scheduled s.records) :
    s.completed_successes = completeCount s.records := by
  rw [completed_successes, successful_counts_eq h, sum_balanced]

end CampaignJournalState

end LeoFlow
