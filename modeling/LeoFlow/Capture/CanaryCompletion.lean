import LeoFlow.Capture.CanaryTerminal
import LeoFlow.Contracts.Renderable
import LeoFlow.Contracts.Samples

/-!
# LeoFlow.Capture.CanaryCompletion — a canary whose ports succeed

Ports that capture every slot in time and return the matching receipts carry a canary of any
definition from its first call to 36 captured slots, 36 receipts and the complete phase. The
finished canary is where `reconcile_next` stores it once more, and just before it
`halt_analysis` finds no record.
-/

namespace LeoFlow

/-! ## Units of every slot -/

/-- A token character. -/
@[reducible] def IsTokenChar (c : Nat) : Prop := IsAlnum c ∨ IsTokenPunct c

theorem isToken_chars {v : PyStr} (h : IsToken v) : ∀ c ∈ v, IsTokenChar c := by
  cases v with
  | nil => exact absurd h id
  | cons head tail =>
    intro c hc
    rcases List.mem_cons.1 hc with rfl | hc
    · exact Or.inl h.1
    · exact h.2 c hc

theorem isToken_append {a b : PyStr} (ha : IsToken a) (hb : ∀ c ∈ b, IsTokenChar c) : IsToken (a ++ b) := by
  cases a with
  | nil => exact absurd ha id
  | cons head tail =>
    refine ⟨ha.1, ?_⟩
    intro c hc
    rcases List.mem_append.1 hc with hc | hc
    · exact ha.2 c hc
    · exact hb c hc

/-- An identifier after its stem. -/
theorem parse_append (c : IdClass) (stem : PyStr) {v : PyStr} (hstem : stem = str c.stem ++ str "_") (htoken : IsToken stem)
    (hv : ∀ x ∈ v, IsTokenChar x) :
    ∃ id : ContractId c, ContractId.parse c (stem ++ v) = .ok id ∧ id.value = stem ++ v := by
  have hvalue : IsToken (stem ++ v) := isToken_append htoken hv
  have hstarts : c.Starts (stem ++ v) := by
    have hlength : c.stem.length + 1 = stem.length := by
      rw [hstem, List.length_append]
      simp [str, String.length_toList]
    unfold IdClass.Starts
    rw [hlength, ← hstem]
    exact List.take_left
  refine ⟨⟨_, hvalue, hstarts⟩, ?_, rfl⟩
  unfold ContractId.parse
  rw [dif_pos hvalue, dif_pos hstarts]

theorem tokenChars_zeroPad (width n : Nat) : ∀ c ∈ zeroPad width n, IsTokenChar c := fun c hc =>
  Or.inl (Or.inl (allDigits_zeroPad width n c hc))

theorem tokenChars_canary_id (d : SupercycleCanaryDefinition) : ∀ c ∈ d.val.canary_id, IsTokenChar c := by
  have h := d.ok
  simp only [SupercycleCanaryDefinition.Fields.post_init, checkAll_cons, raiseIf_ok, not_not] at h
  obtain ⟨⟨hstem, hrest, _⟩, _⟩ := h
  intro c hc
  rw [← List.take_append_drop 7 d.val.canary_id, hstem] at hc
  rcases List.mem_append.1 hc with hc | hc
  · have hletters : ∀ c ∈ str "canary_", IsTokenChar c := by decide
    exact hletters c hc
  · cases hdrop : d.val.canary_id.drop 7 with
    | nil =>
      rw [hdrop] at hc
      cases hc
    | cons head tail =>
      rw [hdrop] at hc hrest
      rcases List.mem_cons.1 hc with rfl | hc
      · rcases hrest.1 with hdigit | hlower
        · exact Or.inl (Or.inl hdigit)
        · exact Or.inl (Or.inr (Or.inr hlower))
      · rcases hrest.2 c hc with (hdigit | hlower) | rfl | rfl
        · exact Or.inl (Or.inl hdigit)
        · exact Or.inl (Or.inr (Or.inr hlower))
        · exact Or.inr (Or.inr (Or.inl rfl))
        · exact Or.inr (Or.inr (Or.inr (Or.inr rfl)))

/-- Units of token stems can be built. -/
theorem exists_buildUnit {stem : PyStr} (hstem : ∀ c ∈ stem, IsTokenChar c) (success_index slot_index retry_index : Nat)
    (cell : CampaignCell) {radio_a_id radio_b_id : RadioId} (hradios : radio_a_id ≠ radio_b_id) {skew requested : Int}
    (hskew : 0 ≤ skew) (hrequested : 0 ≤ requested) :
    ∃ unit, buildUnit stem success_index slot_index retry_index cell radio_a_id radio_b_id skew requested =
      .ok unit := by
  have hchars : ∀ (suffix : PyStr), (∀ c ∈ suffix, IsTokenChar c) → ∀ c ∈ stem ++ suffix, IsTokenChar c := by
    intro suffix hsuffix c hc
    rcases List.mem_append.1 hc with hc | hc
    · exact hstem c hc
    · exact hsuffix c hc
  have ha := hchars (str "_a") (by decide)
  have hb := hchars (str "_b") (by decide)
  obtain ⟨plan_a, hplan_a, hplan_a_value⟩ := parse_append .plan (str "plan_") rfl (by decide) ha
  obtain ⟨plan_b, hplan_b, hplan_b_value⟩ := parse_append .plan (str "plan_") rfl (by decide) hb
  obtain ⟨attempt_a, hattempt_a, hattempt_a_value⟩ := parse_append .capture_attempt (str "cattempt_") rfl (by decide) ha
  obtain ⟨attempt_b, hattempt_b, hattempt_b_value⟩ := parse_append .capture_attempt (str "cattempt_") rfl (by decide) hb
  obtain ⟨batch_id, hbatch_id, _⟩ := parse_append .capture_batch (str "cbatch_") rfl (by decide) hstem
  rw [← List.append_assoc] at hplan_a hplan_b hattempt_a hattempt_b
  rw [← List.append_assoc] at hplan_a_value hplan_b_value hattempt_a_value hattempt_b_value
  have hexpected : ∀ (attempt_id : CaptureAttemptId) (radio_id : RadioId) (plan_id : PlanId),
      ExpectedCaptureAttempt.Fields.post_init ⟨attempt_id, radio_id, plan_id, requested⟩ = .ok () := by
    intro attempt_id radio_id plan_id
    exact raiseIf_ok.2 (Int.not_lt.2 hrequested)
  have horder : attempt_a.value < attempt_b.value := by
    rw [hattempt_a_value, hattempt_b_value]
    exact List.append_left_lt (by decide)
  have hplans : plan_a ≠ plan_b := by
    intro heq
    have hvalue := congrArg ContractId.value heq
    rw [hplan_a_value, hplan_b_value] at hvalue
    exact absurd (List.append_inj_right' hvalue rfl) (by decide)
  have hattempts : attempt_a ≠ attempt_b := by
    rintro rfl
    exact List.lt_irrefl _ horder
  have hbatch : CaptureBatchDefinition.Fields.post_init
      { schema := ⟨str "org.leo-flow.capture-batch", V0_1, isToken_capture_batch⟩
        batch_id := batch_id
        mode := .coordinated
        expected_attempts := (⟨_, hexpected attempt_a radio_a_id plan_a⟩, ⟨_, hexpected attempt_b radio_b_id plan_b⟩)
        maximum_observed_start_skew_ns := some skew } = .ok () := by
    simp [CaptureBatchDefinition.Fields.post_init, CaptureBatchDefinition.Fields.requested_start_skew_ns, checkAll_cons,
      raiseIf_ok, hattempts, hplans, hradios, hskew, le_of_lt horder]
  unfold buildUnit
  refine exists_bind_ok hplan_a (exists_bind_ok hplan_b (exists_bind_ok hattempt_a ?_))
  refine exists_bind_ok (Checked.make_ok (hexpected attempt_a radio_a_id plan_a)) (exists_bind_ok hattempt_b ?_)
  refine exists_bind_ok (Checked.make_ok (hexpected attempt_b radio_b_id plan_b)) (exists_bind_ok hbatch_id ?_)
  exact exists_bind_ok (Checked.make_ok hbatch) ⟨_, rfl⟩

/-- Every slot of the supercycle has its unit, which is planned no earlier than the canary starts. -/
theorem exists_canary_unit (d : SupercycleCanaryDefinition) {slot_index : Nat} (h : slot_index < CANARY_SLOTS) :
    ∃ unit, build_canary_unit d slot_index = .ok unit := by
  have hd := d.ok
  simp only [SupercycleCanaryDefinition.Fields.post_init, checkAll_cons, raiseIf_ok, not_lt] at hd
  obtain ⟨_, hstart, hradios, _⟩ := hd
  have hcell : ∃ cell, canary_cell slot_index = .ok cell := by
    have hlt : slot_index % CAMPAIGN_CELLS.length < CAMPAIGN_CELLS.length := Nat.mod_lt _ (by decide)
    unfold canary_cell
    rw [List.getElem?_eq_getElem hlt]
    dsimp only
    rw [if_pos h]
    exact ⟨_, rfl⟩
  obtain ⟨cell, hcell⟩ := hcell
  have hchars : ∀ c ∈ d.val.canary_id ++ str "_u" ++ zeroPad 3 slot_index ++ str "_s" ++ zeroPad 3 slot_index ++
      str "_r00", IsTokenChar c := by
    have hletters : ∀ c ∈ str "_u" ++ str "_s" ++ str "_r00", IsTokenChar c := by decide
    simp only [List.mem_append] at hletters ⊢
    rintro c (((((hc | hc) | hc) | hc) | hc) | hc)
    · exact tokenChars_canary_id d c hc
    · exact hletters c (Or.inl (Or.inl hc))
    · exact tokenChars_zeroPad 3 slot_index c hc
    · exact hletters c (Or.inl (Or.inr hc))
    · exact tokenChars_zeroPad 3 slot_index c hc
    · exact hletters c (Or.inr hc)
  have hrequested : 0 ≤ d.val.start_utc_ns +
      slot_index * CANARY_SLOT_PERIOD_NUMERATOR_NS / CANARY_SLOT_PERIOD_DENOMINATOR := by
    have : (0 : Int) ≤ slot_index * CANARY_SLOT_PERIOD_NUMERATOR_NS / CANARY_SLOT_PERIOD_DENOMINATOR :=
      Int.ediv_nonneg (Int.mul_nonneg (Int.natCast_nonneg _) (by decide)) (by decide)
    omega
  have hskew : 0 ≤ CANARY_MAXIMUM_SKEW_NS := by decide
  obtain ⟨unit, hunit⟩ := exists_buildUnit hchars slot_index slot_index 0 cell hradios hskew hrequested
  exact ⟨unit, bind_ok.2 ⟨cell, hcell, hunit⟩⟩

/-! ## Ports that succeed -/

/-- A published recording of a plan. -/
def recordingOfPlan (plan : PlanId) : PublishedRecordingRef where
  recording_object :=
    { val :=
        { recording_id :=
            { value := str "rec_" ++ plan.value
              isToken := isToken_append (by decide) (isToken_chars plan.isToken)
              starts := rfl }
          data_object := ⟨⟨Sample.zeros, 1, str "application/octet-stream",
            str "data", str "cas"⟩, rfl⟩
          metadata_object := ⟨⟨Sample.ones, 1, str "application/json",
            str "metadata", str "cas"⟩, rfl⟩
          manifest_digest := Sample.zeros }
      ok := rfl }

theorem recordingOfPlan_injective {plan plan' : PlanId}
    (h : (recordingOfPlan plan).recording_id = (recordingOfPlan plan').recording_id) : plan = plan' := by
  have hvalue : str "rec_" ++ plan.value = str "rec_" ++ plan'.value := congrArg ContractId.value h
  have hsame := List.append_cancel_left hvalue
  cases plan
  cases plan'
  cases hsame
  rfl

/-- An attempt that started and ended when it was requested. -/
def punctual (batch : CaptureBatchDefinition) (attempt : ExpectedCaptureAttempt) : CaptureAttemptOutcome where
  val :=
    { schema := ⟨str "org.leo-flow.capture-attempt-outcome", V0_1, isToken_attempt_outcome⟩
      batch_id := batch.val.batch_id
      attempt_id := attempt.val.attempt_id
      radio_id := attempt.val.radio_id
      plan_id := attempt.val.plan_id
      state := .succeeded
      terminal_utc_ns := attempt.val.requested_start_utc_ns
      observed_start_utc_ns := some attempt.val.requested_start_utc_ns
      recording_ref := some (recordingOfPlan attempt.val.plan_id)
      failure_reason := none }
  ok := by
    have hrequested := attempt.ok
    simp only [ExpectedCaptureAttempt.Fields.post_init, requireUtcNs, raiseIf_ok] at hrequested
    simp [CaptureAttemptOutcome.Fields.post_init, checkAll_cons, requireUtcNs, raiseIf_ok, hrequested]

/-- Both attempts of the batch succeed on time. -/
def captureBatch (batch : CaptureBatchDefinition) : CaptureBatchSnapshot where
  val :=
    { schema := ⟨str "org.leo-flow.capture-batch-state", V0_1, isToken_batch_state⟩
      definition := batch
      outcomes := [punctual batch batch.val.expected_attempts.1, punctual batch batch.val.expected_attempts.2]
      revision := 2 }
  ok := by
    have hbatch := batch.ok
    simp only [CaptureBatchDefinition.Fields.post_init, checkAll_cons, raiseIf_ok] at hbatch
    obtain ⟨_, _, hattempts, _, hplans, _⟩ := hbatch
    have hrecordings : (recordingOfPlan batch.val.expected_attempts.1.val.plan_id).recording_id ≠
        (recordingOfPlan batch.val.expected_attempts.2.val.plan_id).recording_id := fun h =>
      hplans (recordingOfPlan_injective h)
    simp [CaptureBatchSnapshot.Fields.post_init, CaptureBatchSnapshot.Fields.checkOutcomes,
      CaptureBatchSnapshot.Fields.recording_ids, CaptureBatchSnapshot.Fields.batch_id,
      CaptureBatchDefinition.expected, checkAll_cons, raiseIf_ok, punctual, hattempts, Ne.symm hattempts, hrecordings]
    rfl

/-- An analysis of a recording, by the job and the projection of this name. -/
def projected (name : PyStr) (hname : IsToken (str "job_" ++ name)) (id : RecordingId) (finished : Int)
    (hfinished : 0 ≤ finished) : CampaignAnalysisSuccess where
  val :=
    { recording_id := id
      analysis_job_id := ⟨str "job_" ++ name, hname, rfl⟩
      result_ref := ⟨str "fset_a", Sample.zeros,
        some ⟨str "org.leo-flow.feature-set-bundle", V0_1, by decide⟩, by decide⟩
      projection_work_id := str "fpwork_" ++ name
      projected_feature_set_ref := ⟨⟨str "fset_a", by decide, by decide⟩, ⟨str "arun_a", by decide, by decide⟩,
        ⟨Sample.zeros, 1, str "application/json", str "bundle", str "cas"⟩⟩
      projected_utc_ns := finished }
  ok := by
    have htime : ¬finished < 0 := Int.not_lt.2 hfinished
    simp [CampaignAnalysisSuccess.Fields.post_init, checkAll_cons, raiseIf_ok, htime]

theorem receipt_post_init_iff {r : CampaignAnalysisReceipt.Fields} :
    r.post_init = .ok () ↔ ¬r.completed_utc_ns < 0 ∧
      ¬(r.completed_utc_ns < r.successes.1.val.projected_utc_ns ∨
        r.completed_utc_ns < r.successes.2.val.projected_utc_ns) ∧
      ¬r.successes.2.val.recording_id.value < r.successes.1.val.recording_id.value ∧
      r.successes.1.val.recording_id ≠ r.successes.2.val.recording_id ∧
      r.successes.1.val.analysis_job_id ≠ r.successes.2.val.analysis_job_id ∧
      r.successes.1.val.projection_work_id ≠ r.successes.2.val.projection_work_id := by
  simp only [CampaignAnalysisReceipt.Fields.post_init, checkAll_cons, checkAll_nil, raiseIf_ok, and_true, ne_eq]

/-- The receipt of two recordings in their order. -/
def receiptOf (batch_id : CaptureBatchId) (first second : RecordingId) (hlt : first.value < second.value)
    (finished : Int) (hfinished : 0 ≤ finished) : CampaignAnalysisReceipt where
  val :=
    { batch_id := batch_id
      successes := (projected (str "a") (by decide) first finished hfinished,
        projected (str "b") (by decide) second finished hfinished)
      completed_utc_ns := finished }
  ok := by
    have hne : first ≠ second := by
      rintro rfl
      exact List.lt_irrefl _ hlt
    refine receipt_post_init_iff.2 ⟨Int.not_lt.2 hfinished, ?_, List.lt_asymm hlt, hne, ?_, ?_⟩
    · rintro (h | h) <;> exact lt_irrefl _ h
    · intro h
      exact absurd (congrArg ContractId.value h) (by decide : str "job_" ++ str "a" ≠ str "job_" ++ str "b")
    · exact (by decide : str "fpwork_" ++ str "a" ≠ str "fpwork_" ++ str "b")

/-- The ports of a quiet day: enough room, every batch captured on time, every analysis in time. -/
def quiet (room : Int) : ∀ q : CampaignQuery, q.Answer
  | .available_bytes => .ok room
  | .capture unit _ _ => .ok (captureBatch unit.batch)
  | .analyze snapshot deadline =>
    match snapshot.val.recording_ids with
    | [a, b] =>
      if hdeadline : 0 ≤ deadline then
        if hab : a.value < b.value then .ok (receiptOf snapshot.batch_id a b hab deadline hdeadline)
        else if hba : b.value < a.value then .ok (receiptOf snapshot.batch_id b a hba deadline hdeadline)
        else .error ⟨.runtime_error, "analysis failed"⟩
      else .error ⟨.runtime_error, "analysis failed"⟩
    | _ => .error ⟨.runtime_error, "analysis failed"⟩

theorem validate_receiptOf {snapshot : CaptureBatchSnapshot} {first second : RecordingId} {deadline : Int}
    (hlt : first.value < second.value) (hdeadline : 0 ≤ deadline)
    (hsorted : snapshot.val.recording_ids.insertionSort (fun a b => a.value ≤ b.value) = [first, second]) :
    SupercycleCanaryCoordinator.validate_receipt snapshot deadline
      (receiptOf snapshot.batch_id first second hlt deadline hdeadline) = .ok () := by
  have hids : (receiptOf snapshot.batch_id first second hlt deadline hdeadline).recording_ids = [first, second] := rfl
  have hcompleted : (receiptOf snapshot.batch_id first second hlt deadline hdeadline).val.completed_utc_ns = deadline := rfl
  have hbatch : (receiptOf snapshot.batch_id first second hlt deadline hdeadline).val.batch_id = snapshot.batch_id := rfl
  unfold SupercycleCanaryCoordinator.validate_receipt
  rw [hids, hcompleted, hbatch, hsorted]
  simp [checkAll_cons, raiseIf_ok]

/-- The receipt of a quiet day passes the checks of `reconcile_next`. -/
theorem quiet_analyze (room : Int) (batch : CaptureBatchDefinition) {deadline : Int} (hdeadline : 0 ≤ deadline) :
    ∃ receipt, checked (quiet room (.analyze (captureBatch batch) deadline))
      (SupercycleCanaryCoordinator.validate_receipt (captureBatch batch) deadline) = .ok receipt := by
  have hdistinct := (captureBatch batch).post_init_ok.2.2.2.2
  obtain ⟨a, b, hids⟩ : ∃ a b, (captureBatch batch).val.recording_ids = [a, b] := ⟨_, _, rfl⟩
  rw [hids] at hdistinct
  have hne : a ≠ b := by simpa using hdistinct
  have hanswer : ∀ receipt, quiet room (.analyze (captureBatch batch) deadline) = .ok receipt →
      SupercycleCanaryCoordinator.validate_receipt (captureBatch batch) deadline receipt = .ok () →
      ∃ receipt, checked (quiet room (.analyze (captureBatch batch) deadline))
        (SupercycleCanaryCoordinator.validate_receipt (captureBatch batch) deadline) = .ok receipt := by
    intro receipt hreceipt hvalid
    refine ⟨receipt, ?_⟩
    unfold checked
    rw [hreceipt]
    dsimp only
    rw [hvalid]
  by_cases hab : a.value < b.value
  · refine hanswer (receiptOf _ a b hab deadline hdeadline) ?_ (validate_receiptOf hab hdeadline ?_)
    · simp only [quiet, hids, dif_pos hdeadline, dif_pos hab]
    · rw [hids]
      simp [le_of_lt hab]
  · have hba : b.value < a.value := by
      by_contra hba
      exact hne (by
        cases a
        cases b
        cases le_antisymm (not_lt.1 hba) (not_lt.1 hab)
        rfl)
    refine hanswer (receiptOf _ b a hba deadline hdeadline) ?_ (validate_receiptOf hba hdeadline ?_)
    · simp only [quiet, hids, dif_pos hdeadline, dif_neg hab, dif_pos hba]
    · rw [hids]
      have hle : ¬a.value ≤ b.value := not_le.2 hba
      simp [List.orderedInsert, hle]

/-! ## One slot -/

/-- The attempts of a unit are requested when the unit is. -/
theorem requested_of_buildUnit {stem : PyStr} {success_index slot_index retry_index : Nat} {cell : CampaignCell}
    {radio_a_id radio_b_id : RadioId} {skew requested : Int} {u : CampaignUnit}
    (h : buildUnit stem success_index slot_index retry_index cell radio_a_id radio_b_id skew requested = .ok u) :
    u.batch.val.expected_attempts.1.val.requested_start_utc_ns = requested ∧
      u.batch.val.expected_attempts.2.val.requested_start_utc_ns = requested := by
  unfold buildUnit at h
  obtain ⟨plan_a, _, h⟩ := bind_ok.1 h
  obtain ⟨plan_b, _, h⟩ := bind_ok.1 h
  obtain ⟨attempt_a, _, h⟩ := bind_ok.1 h
  obtain ⟨expected_a, ha, h⟩ := bind_ok.1 h
  obtain ⟨attempt_b, _, h⟩ := bind_ok.1 h
  obtain ⟨expected_b, hb, h⟩ := bind_ok.1 h
  obtain ⟨batch_id, _, h⟩ := bind_ok.1 h
  obtain ⟨batch, hbatch, h⟩ := bind_ok.1 h
  cases h
  have hattempts : batch.val.expected_attempts = (expected_a, expected_b) := by rw [Checked.val_of_make hbatch]
  show batch.val.expected_attempts.1.val.requested_start_utc_ns = requested ∧
    batch.val.expected_attempts.2.val.requested_start_utc_ns = requested
  rw [hattempts]
  dsimp only
  rw [Checked.val_of_make ha, Checked.val_of_make hb]
  exact ⟨rfl, rfl⟩

/-- A batch captured on time is eligible. -/
theorem eligible_captureBatch (batch : CaptureBatchDefinition) :
    (captureBatch batch).paired_analysis_eligibility = .eligible := by
  have hbatch := batch.ok
  simp only [CaptureBatchDefinition.Fields.post_init, checkAll_cons, raiseIf_ok] at hbatch
  obtain ⟨_, _, _, _, _, hmode, _⟩ := hbatch
  have hterminal : (captureBatch batch).terminal := rfl
  have hsucceeded : ¬∃ o ∈ (captureBatch batch).val.outcomes, o.val.state ≠ .succeeded := by
    simp [captureBatch, punctual]
  have hskew : (captureBatch batch).observed_start_skew_ns = some batch.val.requested_start_skew_ns := rfl
  have hdefinition : (captureBatch batch).val.definition = batch := rfl
  unfold CaptureBatchSnapshot.paired_analysis_eligibility
  rw [if_neg (not_not.2 hterminal), if_neg hsucceeded, hskew, hdefinition]
  split at hmode
  · cases hmode
  · rename_i heq _
    rw [heq]
  · cases hmode
  · rename_i maximum heq hmaximum
    simp only [checkAll_cons, raiseIf_ok, not_lt, ne_eq, not_not] at hmode
    rw [heq, hmaximum]
    dsimp only
    rw [hmode.2.1, if_neg (by simpa using hmode.1)]

namespace SupercycleCanaryCoordinator

open CanaryState Fields

variable {c : SupercycleCanaryCoordinator}

theorem not_integrityFailure {slot_index : Nat} {unit : CampaignUnit}
    (h : build_canary_unit c.definition slot_index = .ok unit) :
    ¬IntegrityFailure unit (captureBatch unit.batch) (c.slot_deadline unit.slot_index) := by
  have hslot := slot_of_build h
  obtain ⟨cell, _, hunit⟩ := bind_ok.1 h
  obtain ⟨hfirst, hsecond⟩ := requested_of_buildUnit hunit
  have hdeadline : c.definition.val.start_utc_ns +
      slot_index * CANARY_SLOT_PERIOD_NUMERATOR_NS / CANARY_SLOT_PERIOD_DENOMINATOR ≤ c.slot_deadline unit.slot_index := by
    unfold slot_deadline
    rw [hslot]
    refine Int.add_le_add_left (Int.ediv_le_ediv (by decide) (Int.mul_le_mul_of_nonneg_right ?_ (by decide))) _
    omega
  rintro (hterminal | hdefinition | heligible | ⟨o, ho, hstate | hlate⟩)
  · exact hterminal rfl
  · exact hdefinition rfl
  · exact heligible (eligible_captureBatch unit.batch)
  · have hsucceeded : ∀ o ∈ (captureBatch unit.batch).val.outcomes, o.val.state = .succeeded := by
      simp [captureBatch, punctual]
    exact hstate (hsucceeded o ho)
  · have htime : ∀ o ∈ (captureBatch unit.batch).val.outcomes, o.val.terminal_utc_ns = c.definition.val.start_utc_ns +
        slot_index * CANARY_SLOT_PERIOD_NUMERATOR_NS / CANARY_SLOT_PERIOD_DENOMINATOR := by
      simp [captureBatch, punctual, hfirst, hsecond]
    rw [htime o ho] at hlate
    omega

/-- Room for every slot. -/
def fullRoom (c : SupercycleCanaryCoordinator) : Int := 1000000000000 + c.capacity_margin_bytes

theorem remaining_cells : ∀ k ∈ List.range (CANARY_SLOTS + 1),
    (match (List.range' k (CANARY_SLOTS - k)).mapM canary_cell with
    | .ok cells => decide ((cells.map fun cell => (cell.sample_count * 128 : Int)).sum * 2 ≤ 1000000000000)
    | .error _ => false) = true := by
  decide +kernel

variable {s : CanaryState}

theorem required_le_fullRoom (hcount : s.captured_count ≤ CANARY_SLOTS) :
    ∃ required, c.required_remaining_capacity s = .ok required ∧ required ≤ c.fullRoom := by
  have hcells := remaining_cells s.captured_count (List.mem_range.2 (Nat.lt_succ_of_le hcount))
  unfold required_remaining_capacity
  split at hcells
  · rename_i cells heq
    rw [heq]
    refine ⟨_, rfl, ?_⟩
    have hroom := of_decide_eq_true hcells
    unfold fullRoom
    omega
  · cases hcells

/-- The next slot of a capture phase whose records are terminal is captured. -/
theorem capture_slot (hgood : c.Good s) (hphase : s.val.phase = .capturing)
    (hterminal : ∀ r ∈ s.val.records, ¬Nonterminal r) (hlength : s.val.records.length < CANARY_SLOTS) :
    ∃ (now : Int) (r : CanaryRecord) (t : CanaryState), r.val.phase = .captured ∧
      r.val.snapshot = some (captureBatch r.val.unit.batch) ∧
      ((c.capture_next now).exec (CanaryState.row.cas c.digest) (quiet c.fullRoom) s).1 = t ∧ c.Good t ∧
      t.val.phase = .capturing ∧ t.val.records = s.val.records ++ [r] := by
  have hcount : s.captured_count = s.val.records.length := captured_count_eq_length hterminal
  obtain ⟨unit, hunit⟩ := exists_canary_unit c.definition hlength
  rw [← hcount] at hunit
  obtain ⟨cell, _, hbuilt⟩ := bind_ok.1 hunit
  obtain ⟨hsuccess, hslot, hretry, _⟩ := buildUnit_ok hbuilt
  have hidentity : unit.retry_index = 0 ∧ unit.success_index = unit.slot_index := ⟨hretry, hsuccess.trans hslot.symm⟩
  -- the three records of the slot pass their own checks
  have hplanned : CanaryRecord.Fields.post_init ⟨unit, .planned, none, none⟩ = .ok () := by
    simp [CanaryRecord.Fields.post_init, checkAll_cons, raiseIf_ok, hidentity]
  have hinvoked : CanaryRecord.Fields.post_init ⟨unit, .capture_invoked, none, none⟩ = .ok () := by
    simp [CanaryRecord.Fields.post_init, checkAll_cons, raiseIf_ok, hidentity]
  have hcaptured : CanaryRecord.Fields.post_init ⟨unit, .captured, some (captureBatch unit.batch), none⟩ = .ok () := by
    simp [CanaryRecord.Fields.post_init, checkAll_cons, raiseIf_ok, hidentity]
  -- so do the three states
  obtain ⟨first, hfirst, hmoved_first, hexec_first⟩ := exec_store_moved (quiet c.fullRoom) hgood
    (.plan ⟨_, hplanned⟩ hphase hterminal hlength (hslot.trans hcount))
  have hgood_first := good_of_moved hgood hmoved_first
  have hrecords_first : first.val.records = s.val.records ++ [⟨_, hplanned⟩] := by rw [hfirst]
  have hphase_first : first.val.phase = .capturing := by rw [hfirst]; exact hphase
  obtain ⟨second, hsecond, hmoved_second, hexec_second⟩ := exec_store_moved (quiet c.fullRoom) hgood_first
    (.invoke s.val.records ⟨_, hplanned⟩ ⟨_, hinvoked⟩ hphase_first hrecords_first rfl rfl)
  have hgood_second := good_of_moved hgood_first hmoved_second
  have hrecords_second : second.val.records = s.val.records ++ [⟨_, hinvoked⟩] := by rw [hsecond]
  have hphase_second : second.val.phase = .capturing := by rw [hsecond]; exact hphase_first
  obtain ⟨third, hthird, hmoved_third, hexec_third⟩ := exec_store_moved (quiet c.fullRoom) hgood_second
    (.capture s.val.records ⟨_, hinvoked⟩ ⟨_, hcaptured⟩ (captureBatch unit.batch) hphase_second hrecords_second rfl rfl)
  have hgood_third := good_of_moved hgood_second hmoved_third
  refine ⟨unit.requested_start_utc_ns, ⟨_, hcaptured⟩, third, rfl, rfl, ?_, hgood_third,
    by rw [hthird]; exact hphase_second, by rw [hthird]⟩
  have hlate : ¬unit.requested_start_utc_ns + c.definition.val.maximum_start_lateness_ns < unit.requested_start_utc_ns := by
    have hd := c.definition.ok
    simp only [SupercycleCanaryDefinition.Fields.post_init, checkAll_cons, raiseIf_ok, not_not] at hd
    have hlateness := hd.2.2.2.2.1.1
    omega
  have hearly : ¬unit.requested_start_utc_ns < unit.requested_start_utc_ns - CANARY_PREFLIGHT_LEAD_NS := by
    unfold CANARY_PREFLIGHT_LEAD_NS
    omega
  have hcount_first : first.captured_count ≤ CANARY_SLOTS :=
    Nat.le_trans List.countP_le_length first.valid.bound
  obtain ⟨required, hrequired, hroom⟩ := required_le_fullRoom hcount_first
  unfold capture_next
  rw [Prog.exec_bind_ok Prog.exec_read, if_neg (by rw [hphase]; nofun), if_neg (not_not.2 hphase),
    if_neg (by rw [hcount]; exact Nat.ne_of_lt hlength)]
  split
  · rename_i hlast
    exact absurd (Or.inr rfl) (hterminal _ (List.mem_of_getLast? hlast))
  · rename_i hlast
    exact absurd (Or.inl rfl) (hterminal _ (List.mem_of_getLast? hlast))
  rw [hunit, Prog.exec_bind_ok (Prog.exec_ofExcept _), Checked.make_ok hplanned,
    Prog.exec_bind_ok (Prog.exec_ofExcept _), Prog.exec_bind_ok hexec_first]
  unfold capture_planned
  dsimp only
  have hreplace_first : replace_last first ⟨_, hinvoked⟩ =
      store { first.val with records := s.val.records ++ [⟨_, hinvoked⟩] } first := replace_last_eq hrecords_first rfl
  have hreplace_second : replace_last second ⟨_, hcaptured⟩ =
      store { second.val with records := s.val.records ++ [⟨_, hcaptured⟩] } second := replace_last_eq hrecords_second rfl
  have hanswer : quiet c.fullRoom .available_bytes = .ok c.fullRoom := rfl
  rw [if_neg hearly, if_neg hlate, Prog.exec_bind_ok Prog.exec_ask, hanswer, Prog.exec_bind_ok (Prog.exec_ofExcept _), hrequired,
    Prog.exec_bind_ok (Prog.exec_ofExcept _), if_neg (Int.not_lt.2 hroom), Checked.make_ok hinvoked,
    Prog.exec_bind_ok (Prog.exec_ofExcept _), hreplace_first, Prog.exec_bind_ok hexec_second,
    Prog.exec_bind_ok Prog.exec_ask]
  dsimp only [quiet]
  rw [if_neg (not_integrityFailure hunit), Checked.make_ok hcaptured, Prog.exec_bind_ok (Prog.exec_ofExcept _),
    hreplace_second, Prog.exec_bind_ok hexec_third]
  rfl

/-! ## The whole canary -/

/-- The records of a quiet day: captured on time, some with their receipts. -/
def Quiet (s : CanaryState) : Prop :=
  ∀ r ∈ s.val.records, ¬Nonterminal r ∧ r.val.snapshot = some (captureBatch r.val.unit.batch)

/-- The next receipt is stored. -/
theorem store_receipt (hgood : c.Good s) (hphase : s.val.phase = .analyzing) (hquiet : Quiet s)
    (hcount : s.analyzed_count < CANARY_SLOTS) {deadline : Int} (hdeadline : 0 ≤ deadline) :
    ∃ t : CanaryState, ((reconcile_next deadline).exec (CanaryState.row.cas c.digest) (quiet c.fullRoom) s).1 = t ∧
      c.Good t ∧ t.val.phase = .analyzing ∧ Quiet t ∧ t.analyzed_count = s.analyzed_count + 1 := by
  obtain ⟨r, index, snapshot, hget, hcaptured, hsnapshot, h⟩ :=
    exec_reconcile_open (quiet c.fullRoom) hgood hphase hcount deadline
  have hr := hquiet r (List.mem_of_getElem? hget)
  have hbatch : snapshot = captureBatch r.val.unit.batch := Option.some.inj (hsnapshot.symm.trans hr.2)
  obtain ⟨receipt, hchecked⟩ := quiet_analyze c.fullRoom r.val.unit.batch hdeadline
  rw [hbatch, hchecked] at h
  obtain ⟨r', t, hr', hval, hmoved, hexec⟩ := h
  have hrecords : t.val.records = s.val.records.set index r' := by rw [hval]
  refine ⟨t, by rw [hexec], good_of_moved hgood hmoved, by rw [hval]; exact hphase, ?_, ?_⟩
  · intro x hx
    rw [hrecords] at hx
    rcases List.mem_or_eq_of_mem_set hx with hx | rfl
    · exact hquiet x hx
    · rw [hr']
      refine ⟨?_, hr.2⟩
      rintro (h | h) <;> rw [hr'] at h <;> cases h
  · obtain ⟨hlt, hget⟩ := List.getElem?_eq_some_iff.1 hget
    show t.val.records.countP _ = s.val.records.countP _ + 1
    rw [hrecords, List.countP_set hlt, hget]
    simp [hcaptured, hr']

/-- A run of one coordinator, between two calls, left the canary like this. -/
def Reaches (c : SupercycleCanaryCoordinator) (s : CanaryState) : Prop :=
  ∃ st, (c.system (P := Unit)).Reachable st ∧ st.procs () = none ∧ st.journal = s

theorem Reaches.call (h : c.Reaches s) (call : CanaryCall) (answer : ∀ q : CampaignQuery, q.Answer) :
    c.Reaches ((c.program call).exec (CanaryState.row.cas c.digest) answer s).1 := by
  obtain ⟨st, hst, hidle, rfl⟩ := h
  obtain ⟨st', hst', hjournal, hidle'⟩ := Journal.exec_reached answer call hidle hst
  exact ⟨st', hst', hidle', hjournal⟩

theorem reaches_initial : c.Reaches (.initial c.digest) := ⟨c.start, .init rfl, rfl, rfl⟩

theorem Reaches.good (h : c.Reaches s) : c.Good s := by
  obtain ⟨st, hst, _, rfl⟩ := h
  exact c.good_of_reachable hst

/-- Slot after slot is captured. -/
theorem reaches_captured (c : SupercycleCanaryCoordinator) {k : Nat} (hk : k ≤ CANARY_SLOTS) :
    ∃ s : CanaryState, c.Reaches s ∧ s.val.phase = .capturing ∧ s.val.records.length = k ∧
      ∀ r ∈ s.val.records, r.val.phase = .captured ∧ r.val.snapshot = some (captureBatch r.val.unit.batch) := by
  induction k with
  | zero => exact ⟨_, c.reaches_initial, rfl, rfl, fun r hr => absurd hr List.not_mem_nil⟩
  | succ k ih =>
    obtain ⟨s, hs, hphase, hlength, hrecords⟩ := ih (by omega)
    have hterminal : ∀ r ∈ s.val.records, ¬Nonterminal r := by
      rintro r hr (h | h) <;> rw [(hrecords r hr).1] at h <;> cases h
    obtain ⟨now, r, t, hcaptured, hsnapshot, hexec, _, hphase', hrecords'⟩ :=
      capture_slot hs.good hphase hterminal (by omega)
    refine ⟨t, hexec ▸ hs.call (.capture_next now) (quiet c.fullRoom), hphase', ?_, ?_⟩
    · rw [hrecords', List.length_append, hlength, List.length_singleton]
    · intro x hx
      rw [hrecords'] at hx
      rcases List.mem_append.1 hx with hx | hx
      · exact hrecords x hx
      · rw [List.mem_singleton.1 hx]
        exact ⟨hcaptured, hsnapshot⟩

/-- Receipt after receipt is stored. -/
theorem reaches_analyzed (c : SupercycleCanaryCoordinator) {m : Nat} (hm : m ≤ CANARY_SLOTS) :
    ∃ s : CanaryState, c.Reaches s ∧ s.val.phase = .analyzing ∧ s.analyzed_count = m ∧ Quiet s := by
  induction m with
  | zero =>
    obtain ⟨s, hs, hphase, hlength, hrecords⟩ := c.reaches_captured (Nat.le_refl CANARY_SLOTS)
    have hterminal : ∀ r ∈ s.val.records, ¬Nonterminal r := by
      rintro r hr (h | h) <;> rw [(hrecords r hr).1] at h <;> cases h
    have hcount : s.captured_count = CANARY_SLOTS := (captured_count_eq_length hterminal).trans hlength
    obtain ⟨t, hval, _, hexec⟩ := exec_store_moved (quiet c.fullRoom) hs.good (.close hphase hcount)
    have hcall : ((c.capture_next 0).exec (CanaryState.row.cas c.digest) (quiet c.fullRoom) s).1 = t := by
      unfold capture_next
      rw [Prog.exec_bind_ok Prog.exec_read, if_neg (by rw [hphase]; nofun), if_neg (not_not.2 hphase), if_pos hcount,
        Prog.exec_bind_ok hexec]
      rfl
    have hrecords' : t.val.records = s.val.records := by rw [hval]
    refine ⟨t, hcall ▸ hs.call (.capture_next 0) (quiet c.fullRoom), by rw [hval], ?_, ?_⟩
    · show t.val.records.countP _ = 0
      rw [hrecords', List.countP_eq_zero]
      intro r hr
      simp [(hrecords r hr).1]
    · intro r hr
      rw [hrecords'] at hr
      exact ⟨hterminal r hr, (hrecords r hr).2⟩
  | succ m ih =>
    obtain ⟨s, hs, hphase, hcount, hquiet⟩ := ih (by omega)
    obtain ⟨t, hexec, _, hphase', hquiet', hcount'⟩ :=
      store_receipt hs.good hphase hquiet (by omega) (Int.le_refl 0)
    exact ⟨t, hexec ▸ hs.call (.reconcile_next 0) (quiet c.fullRoom), hphase', by omega, hquiet'⟩

/-- A canary of any definition can complete. -/
theorem reaches_complete (c : SupercycleCanaryCoordinator) : ∃ s : CanaryState, c.Reaches s ∧ s.val.phase = .complete := by
  obtain ⟨s, hs, hphase, hcount, _⟩ := c.reaches_analyzed (Nat.le_refl CANARY_SLOTS)
  obtain ⟨t, hval, hexec⟩ := exec_reconcile_closed (quiet c.fullRoom) hs.good (Or.inl hphase) hcount 0
  refine ⟨t, ?_, by rw [hval]⟩
  have hcall := hs.call (.reconcile_next 0) (quiet c.fullRoom)
  rw [show c.program (.reconcile_next 0) = reconcile_next 0 from rfl, hexec] at hcall
  exact hcall

/-! ## A finished canary -/

/-- A canary of two radios. -/
def twoRadios : SupercycleCanaryDefinition where
  val :=
    { canary_id := str "canary_a"
      start_utc_ns := 0
      radio_a_id := Sample.radio_a
      radio_b_id := Sample.radio_b
      station_a_digest := Sample.zeros
      station_b_digest := Sample.ones
      maximum_start_lateness_ns := 0
      qualification_receipt_digest := V8_QUALIFICATION_RECEIPT_DIGEST }
  ok := by decide

theorem renderable_cell (cell : CampaignCell) : Json.Renderable cell.document := by
  have hshort : ∀ cell ∈ CAMPAIGN_CELLS, Json.ShortInt cell.val.sample_rate_hz ∧ Json.ShortInt cell.val.duration_ms ∧
      Json.ShortInt cell.sample_count := by
    decide
  simp only [CampaignCell.document, Json.renderable_dict, List.forall_mem_cons, List.not_mem_nil, false_implies,
    implies_true, and_true, Json.renderable_int, hshort cell (mem_CAMPAIGN_CELLS cell)]
  and_intros <;> exact Json.encodable_literal _

theorem exists_digest : ∃ digest, twoRadios.digest = .ok digest := by
  have hvalid : twoRadios.document.Valid := by decide +kernel
  have hrenderable : Json.Renderable twoRadios.document := by
    simp only [SupercycleCanaryDefinition.document, Json.renderable_dict, Json.renderable_list, List.forall_mem_cons,
      List.not_mem_nil, false_implies, implies_true, and_true, Json.renderable_int, Json.renderable_str,
      Json.renderable_bool, List.forall_mem_map, renderable_cell]
    and_intros <;> first | exact Json.encodable_literal _ | exact encodable_toStr _ | decide
  obtain ⟨bytes, hbytes⟩ := (Json.exists_canonicalJsonBytes_iff hvalid).2 hrenderable
  refine ⟨Digest.sha256 bytes, ?_⟩
  unfold SupercycleCanaryDefinition.digest canonicalDigest
  rw [hbytes]
  rfl

/-- A complete canary is stored once more by `reconcile_next`, and an analysis that has all its
receipts cannot be halted: the lookup of a captured record raises `StopIteration`. -/
theorem finished_canary_moves :
    ∃ (c : SupercycleCanaryCoordinator)
      (complete closed : Journal.State Unit CanaryState CampaignQuery CampaignQuery.Answer PyError CanaryResult),
      c.definition = twoRadios ∧
      (c.system.Reachable complete ∧ complete.journal.val.phase = .complete ∧ ∀ answer deadline,
        ((reconcile_next deadline).exec (CanaryState.row.cas c.digest) answer complete.journal).1.val.revision =
          complete.journal.val.revision + 1) ∧
      c.system.Reachable closed ∧ closed.journal.val.phase = .analyzing ∧ ∀ answer,
        halt_analysis.exec (CanaryState.row.cas c.digest) answer closed.journal =
          (closed.journal, .error ⟨.stop_iteration, ""⟩) := by
  obtain ⟨digest, hdigest⟩ := exists_digest
  let c : SupercycleCanaryCoordinator := ⟨twoRadios, digest, 0, hdigest, Int.le_refl 0⟩
  obtain ⟨_, ⟨complete, hcomplete, _, rfl⟩, hphase⟩ := c.reaches_complete
  obtain ⟨_, ⟨closed, hclosed, _, rfl⟩, hphase', hcount, _⟩ := c.reaches_analyzed (Nat.le_refl CANARY_SLOTS)
  refine ⟨c, complete, closed, rfl, ⟨hcomplete, hphase, ?_⟩, hclosed, hphase', ?_⟩
  · intro answer deadline
    obtain ⟨t, hval, hexec⟩ := exec_reconcile_closed answer (c.good_of_reachable hcomplete) (Or.inr hphase)
      (complete.journal.valid.complete hphase) deadline
    rw [hexec, hval]
  · intro answer
    rcases exec_halt_analysis_open answer (c.good_of_reachable hclosed) hphase' with ⟨hlt, _⟩ | ⟨_, hexec⟩
    · exact absurd hlt (by rw [hcount]; exact Nat.lt_irrefl _)
    · exact hexec

end SupercycleCanaryCoordinator

end LeoFlow
