import LeoFlow.Contracts.Capture

/-!
# LeoFlow.Contracts.Samples — identifiers of the examples

The identifiers and digests that the example plans, recordings and analyses
of the development share.
-/

namespace LeoFlow

namespace Sample

abbrev plan_1 : PlanId := ⟨str "plan_1", by decide, by decide⟩
abbrev plan_a : PlanId := ⟨str "plan_a", by decide, by decide⟩
abbrev act_1 : ActivityId := ⟨str "act_1", by decide, by decide⟩
abbrev seg_1 : SegmentId := ⟨str "seg_1", by decide, by decide⟩
abbrev seg_a : SegmentId := ⟨str "seg_a", by decide, by decide⟩
abbrev rec_1 : RecordingId := ⟨str "rec_1", by decide, by decide⟩
abbrev rec_a : RecordingId := ⟨str "rec_a", by decide, by decide⟩
abbrev station_1 : StationId := ⟨str "station_1", by decide, by decide⟩
abbrev radio_1 : RadioId := ⟨str "radio_1", by decide, by decide⟩
abbrev radio_a : RadioId := ⟨str "radio_a", by decide, by decide⟩
abbrev radio_b : RadioId := ⟨str "radio_b", by decide, by decide⟩
abbrev rx_1 : ReceiverChainId := ⟨str "rx_1", by decide, by decide⟩
abbrev rx_2 : ReceiverChainId := ⟨str "rx_2", by decide, by decide⟩
abbrev rx_a : ReceiverChainId := ⟨str "rx_a", by decide, by decide⟩
abbrev rx_b : ReceiverChainId := ⟨str "rx_b", by decide, by decide⟩
abbrev hw_1 : HardwareSnapshotId := ⟨str "hw_1", by decide, by decide⟩
abbrev arun_1 : AnalysisRunId := ⟨str "arun_1", by decide, by decide⟩
abbrev fset_1 : FeatureSetId := ⟨str "fset_1", by decide, by decide⟩

/-- The digest that repeats one digit. -/
abbrev repeated (digit : Nat) (h : IsLowerHex digit) : Digest :=
  ⟨List.replicate 64 digit, List.length_replicate, fun _ hc => List.eq_of_mem_replicate hc ▸ h⟩

theorem isLowerHex_zero : IsLowerHex 48 := by decide
theorem isLowerHex_one : IsLowerHex 49 := by decide

abbrev zeros : Digest := repeated 48 isLowerHex_zero
abbrev ones : Digest := repeated 49 isLowerHex_one

end Sample

end LeoFlow
