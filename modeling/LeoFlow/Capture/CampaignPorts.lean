import LeoFlow.Capture.Campaign
import LeoFlow.Core.Journal

/-!
# LeoFlow.Capture.CampaignPorts — what every campaign coordinator works with

The journal row of `adapters/campaign_sqlite.py`, `adapters/supercycle_canary_sqlite.py` and
`adapters/continuous_collection_sqlite.py`, which are one compare-and-swap with different
texts, and the capture, analysis and capacity ports of `capture/campaign.py`.
-/

namespace LeoFlow

/-! ## Digest-bound journals -/

/-- A journal row: its `definition_digest` and `revision` columns are those of the state it
holds. -/
structure DigestBound (σ : Type) where
  definition_digest : σ → Digest
  revision : σ → Nat
  /-- the text of a refused replacement -/
  invalid : String
  /-- the text of a lost race -/
  changed : String

namespace DigestBound

variable {σ : Type} (row : DigestBound σ) (digest : Digest)

/-- `compare_and_swap` -/
def compare_and_swap (current : σ) (expected_revision : Nat) (replacement : σ) : Except PyError σ :=
  if row.definition_digest replacement ≠ digest ∨ row.revision replacement ≠ expected_revision + 1 then
    .error ⟨.runtime_error, row.invalid⟩
  else if row.definition_digest current ≠ digest ∨ row.revision current ≠ expected_revision then
    .error ⟨.runtime_error, row.changed⟩
  else .ok replacement

/-- The row as a journal. -/
def cas : CompareAndSwap σ PyError where
  revision := row.revision
  swap := row.compare_and_swap digest
  swap_ok := by
    intro s r t n h
    unfold compare_and_swap at h
    split at h
    · cases h
    split at h
    · cases h
    rename_i hcurrent
    cases h
    simp only [not_or, not_not, ne_eq] at hcurrent
    exact ⟨hcurrent.2, rfl⟩

end DigestBound

/-! ## Ports -/

/-- What a coordinator asks its ports. -/
inductive CampaignQuery where
  | available_bytes
  | capture (unit : CampaignUnit) (not_before_utc_ns deadline_utc_ns : Int)
  | analyze (snapshot : CaptureBatchSnapshot) (deadline_utc_ns : Int)

/-- A port returns or raises. -/
@[reducible] def CampaignQuery.Answer : CampaignQuery → Type
  | available_bytes => Except PyError Int
  | capture _ _ _ => Except PyError CaptureBatchSnapshot
  | analyze _ _ => Except PyError CampaignAnalysisReceipt

/-- The checks that a port call is followed by inside its `try`; an exception of either is
handled by the caller. -/
def checked {α : Type} (answer : Except PyError α) (validate : α → Except PyError Unit) :
    Except PyError α :=
  match answer with
  | .error e => .error e
  | .ok a =>
    match validate a with
    | .error e => .error e
    | .ok () => .ok a

/-- `_validate_analysis_receipt`, which the continuous coordinator shares -/
def validateAnalysisReceipt (snapshot : CaptureBatchSnapshot) (receipt : CampaignAnalysisReceipt) :
    Except PyError Unit :=
  let expected := snapshot.val.recording_ids.insertionSort fun a b => a.value ≤ b.value
  raiseIf (receipt.val.batch_id ≠ snapshot.batch_id ∨ receipt.recording_ids ≠ expected)
    ⟨.runtime_error, "analysis receipt identifies another batch or recordings"⟩

/-- The batch was not captured as planned by the end of its slot. -/
def CaptureFailed (snapshot : CaptureBatchSnapshot) (deadline : Int) : Prop :=
  (∃ o ∈ snapshot.val.outcomes, o.val.state ≠ .succeeded) ∨
    snapshot.paired_analysis_eligibility ≠ .eligible ∨
    ∃ o ∈ snapshot.val.outcomes, deadline < o.val.terminal_utc_ns

instance (snapshot : CaptureBatchSnapshot) (deadline : Int) : Decidable (CaptureFailed snapshot deadline) :=
  inferInstanceAs (Decidable (_ ∨ _ ∨ _))

end LeoFlow
