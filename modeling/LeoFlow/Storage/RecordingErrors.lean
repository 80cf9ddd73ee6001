import LeoFlow.Contracts.CanonicalNumber
import LeoFlow.Contracts.Document
import LeoFlow.Contracts.Renderable
import LeoFlow.Storage.RecordingCodec
import LeoFlow.Contracts.Samples

/-!
# LeoFlow.Storage.RecordingErrors — the failures of malformed metadata

Which metadata makes `_parse_metadata` and the reader raise something other than
`MalformedRecordingError` (`malformed_only`). Nothing else does: the conversions raise
what their callers catch, except for an integer that no float can hold.
-/

namespace LeoFlow

namespace RecordingCodec

/-! ## What the conversions raise -/

/-- What a conversion raises: what its caller catches, or `OverflowError`. -/
@[reducible] def IsReadingError (k : ErrorKind) : Prop := IsWireError k ∨ k = .overflow_error

theorem reading_value {message : String} : IsReadingError (PyError.value message).kind := by
  unfold PyError.value
  exact (by decide : IsReadingError .value_error)

theorem reading_type {message : String} : IsReadingError (PyError.type message).kind := by
  unfold PyError.type
  exact (by decide : IsReadingError .type_error)

theorem reading_key {key : String} : IsReadingError (PyError.mk .key_error key).kind :=
  (by decide : IsReadingError .key_error)

theorem reading_overflow {message : String} : IsReadingError (PyError.mk .overflow_error message).kind :=
  (by decide : IsReadingError .overflow_error)

theorem reading_item (value : Entries) (key : String) : RaisesOnly IsReadingError (item value key) := by
  unfold item
  split
  · exact raisesOnly_ok _
  · exact raisesOnly_error reading_key

theorem reading_mapping (value : PyValue) (field : String) : RaisesOnly IsReadingError (mapping value field) := by
  unfold mapping
  split
  · exact raisesOnly_ok _
  · exact raisesOnly_error reading_type

theorem reading_list (value : PyValue) (field : String) : RaisesOnly IsReadingError (list value field) := by
  unfold list
  split
  · exact raisesOnly_ok _
  · exact raisesOnly_error reading_type

theorem reading_string (value : PyValue) (field : String) : RaisesOnly IsReadingError (string value field) := by
  unfold string
  split
  · exact raisesOnly_ok _
  · exact raisesOnly_error reading_type

theorem reading_number (value : PyValue) (field : String) : RaisesOnly IsReadingError (number value field) := by
  unfold number
  split
  · split
    · exact raisesOnly_ok _
    · exact raisesOnly_error reading_overflow
  · exact raisesOnly_ok _
  · exact raisesOnly_error reading_type

theorem reading_nonnegative_int (value : PyValue) (field : String) :
    RaisesOnly IsReadingError (nonnegative_int value field) := by
  unfold nonnegative_int
  split
  · split
    · exact raisesOnly_error reading_value
    · exact raisesOnly_ok _
  · exact raisesOnly_error reading_value

theorem reading_ite {α : Type} {p : Prop} [Decidable p] {x y : Except PyError α} :
    RaisesOnly IsReadingError (if p then x else y) ↔
      (p → RaisesOnly IsReadingError x) ∧ (¬p → RaisesOnly IsReadingError y) := by
  split <;> simp [*]

theorem reading_optional {α : Type} {f : PyValue → String → Except PyError α} {value : PyValue} {field : String}
    (h : RaisesOnly IsReadingError (f value field)) : RaisesOnly IsReadingError (optional f value field) := by
  unfold optional
  split
  · exact raisesOnly_ok _
  · exact raisesOnly_map h

theorem reading_frozen_pair (pair : PyValue) (field : String) :
    RaisesOnly IsReadingError (frozen_pair pair field) := by
  unfold frozen_pair
  split
  · split
    · exact raisesOnly_ok _
    · exact raisesOnly_error reading_type
  · exact raisesOnly_error reading_type

theorem reading_parse (c : IdClass) (value : PyStr) : RaisesOnly IsReadingError (ContractId.parse c value) := by
  unfold ContractId.parse
  split
  · split
    · exact raisesOnly_ok _
    · exact raisesOnly_error reading_value
  · exact raisesOnly_error reading_value

theorem reading_scheduledUtcNs (value : PyValue) : RaisesOnly IsReadingError (scheduledUtcNs value) := by
  unfold scheduledUtcNs
  split
  · exact raisesOnly_ok _
  · exact raisesOnly_ok _
  · exact raisesOnly_error reading_value

theorem reading_requirePositive (value : Num) (field : String) :
    RaisesOnly IsReadingError (requirePositive value field) := by
  unfold requirePositive
  split
  · exact raisesOnly_raiseIf reading_value
  · refine raisesOnly_checkAll ?_
    simp [raisesOnly_raiseIf reading_value]

attribute [local simp] raisesOnly_ok raisesOnly_bind raisesOnly_map raisesOnly_mapM raisesOnly_raiseIf
  raisesOnly_error raisesOnly_checkAll Checked.raisesOnly_make reading_value reading_item reading_mapping
  reading_list reading_string reading_number reading_nonnegative_int reading_ite reading_optional
  reading_frozen_pair reading_parse reading_scheduledUtcNs reading_requirePositive

@[local simp] theorem reading_exact_fields (value : Entries) (expected : List String) (field : String) :
    RaisesOnly IsReadingError (exact_fields value expected field) := by
  simp [exact_fields]

@[local simp] theorem reading_positive_int (value : PyValue) (field : String) :
    RaisesOnly IsReadingError (positive_int value field) := by
  simp [positive_int]

@[local simp] theorem reading_int_list (value : PyValue) (field : String) (length : Nat) :
    RaisesOnly IsReadingError (int_list value field length) := by
  simp [int_list]

@[local simp] theorem reading_string_list (value : PyValue) (field : String) :
    RaisesOnly IsReadingError (string_list value field) := by
  simp [string_list]

@[local simp] theorem reading_number_tuple (value : PyValue) (field : String) :
    RaisesOnly IsReadingError (number_tuple value field) := by
  simp [number_tuple]

@[local simp] theorem reading_frozen_mapping (value : PyValue) (field : String) :
    RaisesOnly IsReadingError (frozen_mapping value field) := by
  simp [frozen_mapping]

@[local simp] theorem reading_idOf (c : IdClass) (value : PyValue) (field : String) :
    RaisesOnly IsReadingError (idOf c value field) := by
  simp [idOf]

@[local simp] theorem reading_idsOf (c : IdClass) (value : PyValue) (field : String) :
    RaisesOnly IsReadingError (idsOf c value field) := by
  simp [idsOf]

@[local simp] theorem reading_three_ints (value : PyValue) (field : String) :
    RaisesOnly IsReadingError (three_ints value field) := by
  refine raisesOnly_bind.2 ⟨by simp, fun items _ => ?_⟩
  split <;> simp

@[local simp] theorem reading_three_strings (value : PyValue) (field : String) :
    RaisesOnly IsReadingError (three_strings value field) := by
  refine raisesOnly_bind.2 ⟨by simp, fun items _ => ?_⟩
  split <;> simp

@[local simp] theorem reading_schema (value : PyValue) : RaisesOnly IsReadingError (schema value) := by
  have htoken : ∀ (schema_id : PyStr) (major minor : Int), RaisesOnly IsReadingError
      (if h : IsToken schema_id then .ok ⟨schema_id, ⟨major.toNat, minor.toNat⟩, h⟩
        else .error (.value "schema_id must be a non-empty portable token") : Except PyError SchemaRef) := by
    intro schema_id major minor
    split <;> simp
  simp [schema, htoken]

/-! ### The contracts -/

@[local simp] theorem reading_gainMode (value : PyStr) : RaisesOnly IsReadingError (Serialization.gainMode value) := by
  simp [Serialization.gainMode]

@[local simp] theorem reading_activityKind (value : PyStr) :
    RaisesOnly IsReadingError (Serialization.activityKind value) := by
  simp [Serialization.activityKind]

@[local simp] theorem reading_continuityStatus (value : PyStr) : RaisesOnly IsReadingError (continuityStatus value) := by
  simp [continuityStatus]

@[local simp] theorem reading_refillFlag (value : PyStr) : RaisesOnly IsReadingError (refillFlag value) := by
  simp [refillFlag]

@[local simp] theorem reading_gain_post_init (g : GainSetting.Fields) : RaisesOnly IsReadingError g.post_init := by
  refine raisesOnly_checkAll ?_
  simp

@[local simp] theorem reading_request_post_init (r : SegmentRequest.Fields) :
    RaisesOnly IsReadingError r.post_init := by
  refine raisesOnly_checkAll ?_
  simp only [List.forall_mem_cons, List.not_mem_nil, false_implies, implies_true, and_true]
  refine ⟨by simp, by simp, by simp, by simp, ?_, ?_, by simp, ?_⟩
  all_goals split <;> simp [requireUtcNs]

@[local simp] theorem reading_activity_post_init (a : ActivityManifest.Fields) :
    RaisesOnly IsReadingError a.post_init := by
  refine raisesOnly_checkAll ?_
  simp [requireUtcNs]

@[local simp] theorem reading_segment_post_init (s : SegmentManifest.Fields) :
    RaisesOnly IsReadingError s.post_init := by
  refine raisesOnly_checkAll ?_
  simp [requireUtcNs]

@[local simp] theorem reading_manifest_post_init (m : RecordingManifest.Fields) :
    RaisesOnly IsReadingError m.post_init := by
  refine raisesOnly_checkAll ?_
  simp [requireUtcNs]

@[local simp] theorem reading_requireIsfinite (values : List Num) (message : String) :
    RaisesOnly IsReadingError (requireIsfinite values message) := by
  refine raisesOnly_checkAll (List.forall_mem_map.2 fun v _ => ?_)
  cases v with
  | int n => exact raisesOnly_raiseIf reading_overflow
  | float f => exact raisesOnly_raiseIf reading_value

@[local simp] theorem reading_observation_post_init (g : GainObservation.Fields) :
    RaisesOnly IsReadingError g.post_init := by
  refine raisesOnly_checkAll ?_
  simp

@[local simp] theorem reading_refill_post_init (r : RefillMetadata.Fields) :
    RaisesOnly IsReadingError r.post_init := by
  refine raisesOnly_checkAll ?_
  simp

@[local simp] theorem reading_gap_post_init (g : ContinuityGap.Fields) : RaisesOnly IsReadingError g.post_init := by
  refine raisesOnly_checkAll ?_
  simp

@[local simp] theorem reading_provenance_post_init (p : CaptureProvenance.Fields) :
    RaisesOnly IsReadingError p.post_init := by
  simp [CaptureProvenance.Fields.post_init]

theorem reading_gapBetween (prior refill : RefillMetadata) : RaisesOnly IsReadingError (gapBetween prior refill) := by
  simp [gapBetween]

theorem reading_verifyRefill (expected_index : Nat) (prior : Option RefillMetadata) (refill : RefillMetadata) :
    RaisesOnly IsReadingError (verifyRefill expected_index prior refill) := by
  unfold verifyRefill
  refine reading_ite.2 ⟨by simp, fun _ => reading_ite.2 ⟨by simp, fun _ => ?_⟩⟩
  split
  · simp
  · rename_i prior
    have hgap := reading_gapBetween prior refill
    split
    · rename_i e he
      exact raisesOnly_error (hgap e he)
    · simp

theorem reading_verifyFrom (refills : List RefillMetadata) (expected_index : Nat) (prior : Option RefillMetadata) :
    RaisesOnly IsReadingError (verifyFrom expected_index prior refills) := by
  induction refills generalizing expected_index prior with
  | nil => exact raisesOnly_ok _
  | cons refill refills ih =>
    have hround := reading_verifyRefill expected_index prior refill
    unfold verifyFrom
    split
    · rename_i e he
      exact raisesOnly_error (hround e he)
    · exact raisesOnly_map (ih _ _)

@[local simp] theorem reading_continuity_post_init (c : SegmentContinuity.Fields) :
    RaisesOnly IsReadingError c.post_init := by
  have hverify := reading_verifyFrom c.refills 0 none
  refine raisesOnly_checkAll ?_
  simp only [List.forall_mem_cons, List.not_mem_nil, false_implies, implies_true, and_true]
  refine ⟨by simp, ?_⟩
  split
  · simp
  · refine reading_ite.2 ⟨by simp, fun _ => ?_⟩
    split
    · rename_i e he
      exact raisesOnly_error (hverify e he)
    · refine raisesOnly_checkAll ?_
      simp

/-! ### The parts of a document -/

@[local simp] theorem reading_gain (value : PyValue) : RaisesOnly IsReadingError (gain value) := by
  simp [gain]

@[local simp] theorem reading_segment_request (value : PyValue) :
    RaisesOnly IsReadingError (segment_request value) := by
  simp [segment_request, optional_number, optional_int]

@[local simp] theorem reading_segment_manifest (value : PyValue) :
    RaisesOnly IsReadingError (segment_manifest value) := by
  simp [segment_manifest]

@[local simp] theorem reading_activity_manifest (value : PyValue) :
    RaisesOnly IsReadingError (activity_manifest value) := by
  simp [activity_manifest]

theorem reading_manifest_from_wire (value : Entries) : RaisesOnly IsReadingError (manifest_from_wire value) := by
  simp [manifest_from_wire]

@[local simp] theorem reading_gap_from_wire (value : PyValue) : RaisesOnly IsReadingError (gap_from_wire value) := by
  simp [gap_from_wire]

@[local simp] theorem reading_gain_observation_from_wire (value : PyValue) :
    RaisesOnly IsReadingError (gain_observation_from_wire value) := by
  simp [gain_observation_from_wire]

@[local simp] theorem reading_refill_from_wire (value : PyValue) :
    RaisesOnly IsReadingError (refill_from_wire value) := by
  simp [refill_from_wire]

@[local simp] theorem reading_provenance_from_wire (value : PyValue) :
    RaisesOnly IsReadingError (provenance_from_wire value) := by
  simp [provenance_from_wire]

theorem reading_continuity_from_wire (value : PyValue) (legacy : Bool) :
    RaisesOnly IsReadingError (continuity_from_wire value legacy) := by
  simp [continuity_from_wire]

/-! ## What was read can be written

A manifest of a document that has a canonical text has one itself. -/

open Json (Renderable ShortInt)

variable {value : PyValue} {fields : Entries} {field key : String}

theorem mapping_eq (h : mapping value field = .ok fields) : value = .dict fields := by
  unfold mapping at h
  split at h
  · cases h
    rfl
  · cases h

theorem list_eq {items : List PyValue} (h : list value field = .ok items) : value = .list items := by
  unfold list at h
  split at h
  · cases h
    rfl
  · cases h

theorem string_eq {s : PyStr} (h : string value field = .ok s) : value = .str s := by
  unfold string at h
  split at h
  · cases h
    rfl
  · cases h

/-- The fields of an object have a text when the object has. -/
theorem renderable_item {v : PyValue} (h : Renderable (.dict fields)) (hitem : item fields key = .ok v) :
    Renderable v := by
  unfold item at hitem
  split at hitem
  · rename_i w hlookup
    cases hitem
    rcases List.lookup_eq_some_iff.1 hlookup with ⟨before, after, hsplit, _⟩
    rw [Json.renderable_dict] at h
    exact (h (str key, v) (by simp [hsplit])).2
  · cases hitem

theorem encodable_string {s : PyStr} (h : Renderable value) (hstring : string value field = .ok s) : Encodable s := by
  rw [string_eq hstring] at h
  exact Json.renderable_str.1 h

theorem shortInt_nonnegative_int {n : Int} (h : nonnegative_int value field = .ok n) : ShortInt n := by
  have hmax : ShortInt INT64_MAX := by decide +kernel
  unfold nonnegative_int at h
  split at h
  · split at h
    · cases h
    · rename_i hbounds
      cases h
      rw [not_or, not_lt, not_lt] at hbounds
      exact hmax.mono (by omega)
  · cases h

theorem shortInt_positive_int {n : Int} (h : positive_int value field = .ok n) : ShortInt n := by
  rcases bind_ok.1 h with ⟨m, hm, hrest⟩
  split at hrest
  · cases hrest
  · cases hrest
    exact shortInt_nonnegative_int hm

/-- An integer that a float holds becomes a finite one. -/
theorem isSome_ofInt {n : Int} {f : PyFloat} (h : PyFloat.ofInt n = some f) : f.toRat.isSome := by
  have hratio : ∀ (negative : Bool) (a b : Nat) (g : PyFloat), PyFloat.ofRatio negative a b = g →
      (∃ s, g = .inf s) ∨ g.toRat.isSome := by
    intro negative a b g hg
    unfold PyFloat.ofRatio at hg
    split at hg
    · exact .inr (hg ▸ rfl)
    · unfold PyFloat.pack at hg
      dsimp only at hg
      split at hg
      · exact .inr (hg ▸ rfl)
      · split at hg
        · exact .inr (hg ▸ rfl)
        · exact .inl ⟨negative, hg.symm⟩
  unfold PyFloat.ofInt at h
  split at h
  · cases h
  · rename_i hinf
    cases h
    rcases hratio _ _ _ _ rfl with ⟨s, hs⟩ | hsome
    · exact (hinf s hs).elim
    · exact hsome

theorem renderable_number {n : Num} (h : Renderable value) (hnumber : number value field = .ok n) :
    Renderable n.toValue := by
  unfold number at hnumber
  split at hnumber
  · split at hnumber
    · rename_i hf
      cases hnumber
      exact Json.renderable_float (isSome_ofInt hf)
    · cases hnumber
  · cases hnumber
    exact h
  · cases hnumber

theorem renderable_optional_number {n : Option Num} (h : Renderable value)
    (hnumber : optional number value field = .ok n) : Renderable (optionToPy Num.toValue n) := by
  unfold optional at hnumber
  split at hnumber
  · cases hnumber
    simp [optionToPy]
  · rcases map_ok hnumber with ⟨m, hm, rfl⟩
    exact renderable_number h hm

theorem renderable_optional_int {n : Option Int} (h : optional_int value field = .ok n) :
    Renderable (optionToPy .int n) := by
  unfold optional_int optional at h
  split at h
  · cases h
    simp [optionToPy]
  · rcases map_ok h with ⟨m, hm, rfl⟩
    exact Json.renderable_int.2 (shortInt_positive_int hm)

theorem renderable_scheduledUtcNs {n : Option Int} (h : Renderable value) (hread : scheduledUtcNs value = .ok n) :
    Renderable (optionToPy .int n) := by
  unfold scheduledUtcNs at hread
  split at hread
  · cases hread
    simp [optionToPy]
  · cases hread
    exact h
  · cases hread

theorem renderable_pair {s : PyStr} {v : PyValue} (hs : Encodable s) (hv : Renderable v) :
    Renderable (.tuple [.str s, v]) := by
  refine Json.renderable_tuple.2 fun w hw => ?_
  rcases List.mem_cons.1 hw with rfl | hw
  · exact Json.renderable_str.2 hs
  · rw [List.mem_singleton.1 hw]
    exact hv

/-- `_freeze_json` keeps what makes a text. -/
theorem renderable_immutableJson (v : PyValue) (h : Renderable v) : Renderable (Serialization.immutableJson v) := by
  have hitems : ∀ items : List PyValue, (∀ v ∈ items, Renderable v → Renderable (Serialization.immutableJson v)) →
      (∀ v ∈ items, Renderable v) → ∀ w ∈ Serialization.immutableItems items, Renderable w := by
    intro items
    induction items with
    | nil =>
      intro _ _ w hw
      cases hw
    | cons v vs ih =>
      intro hv hall w hw
      rcases List.mem_cons.1 hw with rfl | hw
      · exact hv v List.mem_cons_self (hall v List.mem_cons_self)
      · exact ih (fun x hx => hv x (List.mem_cons_of_mem _ hx)) (fun x hx => hall x (List.mem_cons_of_mem _ hx)) w hw
  have hentries : ∀ items : Entries, (∀ x ∈ items, Renderable x.2 → Renderable (Serialization.immutableJson x.2)) →
      (∀ x ∈ items, Encodable x.1 ∧ Renderable x.2) →
      ∀ x ∈ Serialization.immutableEntries items, Encodable x.1 ∧ Renderable x.2 := by
    intro items
    induction items with
    | nil =>
      intro _ _ x hx
      cases hx
    | cons y ys ih =>
      intro hy hall x hx
      rcases List.mem_cons.1 hx with rfl | hx
      · have hhead := hall y List.mem_cons_self
        exact ⟨hhead.1, hy y List.mem_cons_self hhead.2⟩
      · exact ih (fun z hz => hy z (List.mem_cons_of_mem _ hz)) (fun z hz => hall z (List.mem_cons_of_mem _ hz)) x hx
  induction v with
  | list items ih =>
    rw [Json.renderable_list] at h
    exact Json.renderable_tuple.2 (hitems items ih h)
  | dict items ih =>
    rw [Json.renderable_dict] at h
    have hall := hentries items ih h
    refine Json.renderable_tuple.2 fun w hw => ?_
    rcases List.mem_map.1 hw with ⟨x, hx, rfl⟩
    have hentry := hall x ((List.perm_insertionSort _ _).mem_iff.1 hx)
    exact renderable_pair hentry.1 hentry.2
  | _ => exact h

/-- Every converted item comes from an item. -/
theorem exists_of_mapM {α β : Type} {f : α → Except PyError β} {xs : List α} {ys : List β} {y : β}
    (h : xs.mapM f = .ok ys) (hy : y ∈ ys) : ∃ x ∈ xs, f x = .ok y := by
  have hall := mapM_ok.1 h
  clear h
  induction hall with
  | nil => cases hy
  | cons hx _ ih =>
    rcases List.mem_cons.1 hy with rfl | hy
    · exact ⟨_, List.mem_cons_self, hx⟩
    · rcases ih hy with ⟨x, hmem, hf⟩
      exact ⟨x, List.mem_cons_of_mem _ hmem, hf⟩

theorem renderable_frozen_mapping {pairs : PyValue.Pairs} (h : Renderable value)
    (hread : frozen_mapping value field = .ok pairs) : Renderable (.ofPairs pairs) := by
  rcases bind_ok.1 hread with ⟨items, hitems, hrest⟩
  rcases bind_ok.1 hrest with ⟨result, hresult, hrest⟩
  have hpairs : result = pairs := by
    split at hrest
    · cases hrest
    · cases hrest
      rfl
  rw [list_eq hitems, Json.renderable_list] at h
  rw [← hpairs]
  refine Json.renderable_tuple.2 fun w hw => ?_
  rcases List.mem_map.1 hw with ⟨x, hx, rfl⟩
  rcases exists_of_mapM hresult hx with ⟨pair, hmem, hpair⟩
  have hrenderable := h pair hmem
  unfold frozen_pair at hpair
  split at hpair
  · split at hpair
    · cases hpair
      rw [Json.renderable_list] at hrenderable
      have hkey := hrenderable _ List.mem_cons_self
      have hvalue := renderable_immutableJson _ (hrenderable _ (List.mem_cons_of_mem _ List.mem_cons_self))
      exact renderable_pair (Json.renderable_str.1 hkey) hvalue
    · cases hpair
  · cases hpair

theorem renderable_gain {g : GainSetting} (h : Renderable value) (hread : gain value = .ok g) :
    Renderable (GainSetting.toPy g) := by
  rcases bind_ok.1 hread with ⟨fields, hfields, hread⟩
  rw [mapping_eq hfields] at h
  unfold exact_fields at hread
  simp only [bind_ok] at hread
  rcases hread with ⟨_, _, v, hv, _, _, _, _, mode, _, gain_db, hgain, hmake⟩
  have hmode : ∀ mode : GainMode, Renderable (.str mode.value) := by
    intro mode
    cases mode <;> exact Json.renderable_literal _
  have hgain := renderable_optional_number (renderable_item h hv) hgain
  unfold GainSetting.toPy
  rw [Checked.val_of_make hmake]
  simp only [Json.renderable_dataclass, List.forall_mem_cons]
  exact ⟨hmode _, hgain, List.forall_mem_nil _⟩

theorem renderable_segment_request {r : SegmentRequest} (h : Renderable value)
    (hread : segment_request value = .ok r) : Renderable (SegmentRequest.toPy r) := by
  rcases bind_ok.1 hread with ⟨fields, hfields, hread⟩
  rw [mapping_eq hfields] at h
  simp only [bind_ok] at hread
  rcases hread with ⟨_, _, _, _, segment_id, _, v1, hv1, center, hcenter, v2, hv2, rate, hrate, v3, hv3,
    bandwidth, hbandwidth, _, _, receivers, _, v4, hv4, gain, hgain, v5, hv5, duration, hduration, v6, hv6,
    count, hcount, v7, hv7, v8, hv8, controls, hcontrols, v9, hv9, tags, htags, scheduled, hscheduled, hmake⟩
  unfold SegmentRequest.toPy
  rw [Checked.val_of_make hmake]
  simp only [Json.renderable_dataclass, List.forall_mem_cons]
  exact ⟨renderable_id _, renderable_number (renderable_item h hv1) hcenter,
    renderable_number (renderable_item h hv2) hrate, renderable_number (renderable_item h hv3) hbandwidth,
    renderable_ids _, renderable_gain (renderable_item h hv4) hgain,
    renderable_optional_number (renderable_item h hv5) hduration, renderable_optional_int hcount,
    renderable_scheduledUtcNs (renderable_item h hv7) hscheduled,
    renderable_frozen_mapping (renderable_item h hv8) hcontrols,
    renderable_frozen_mapping (renderable_item h hv9) htags, List.forall_mem_nil _⟩

theorem shortInt_three_ints {n : Int × Int × Int} (h : three_ints value field = .ok n) :
    ShortInt n.1 ∧ ShortInt n.2.1 ∧ ShortInt n.2.2 := by
  rcases bind_ok.1 h with ⟨items, hitems, hrest⟩
  rcases bind_ok.1 hitems with ⟨values, _, hlist⟩
  rcases bind_ok.1 hlist with ⟨ints, hints, hlength⟩
  have hshort : ∀ k ∈ items, ShortInt k := by
    intro k hk
    split at hlength
    · cases hlength
    · cases hlength
      rcases exists_of_mapM hints hk with ⟨v, _, hv⟩
      exact shortInt_nonnegative_int hv
  split at hrest
  · cases hrest
    exact ⟨hshort _ (by simp), hshort _ (by simp), hshort _ (by simp)⟩
  · cases hrest

theorem renderable_segment_manifest {s : SegmentManifest} (h : Renderable value)
    (hread : segment_manifest value = .ok s) : Renderable (SegmentManifest.toPy s) := by
  rcases bind_ok.1 hread with ⟨fields, hfields, hread⟩
  rw [mapping_eq hfields] at h
  simp only [bind_ok] at hread
  rcases hread with ⟨_, _, v1, hv1, requested, hrequested, v2, hv2, gain, hgain, _, _, segment_id, _, v3, hv3,
    center, hcenter, v4, hv4, rate, hrate, v5, hv5, bandwidth, hbandwidth, _, _, start, hstart, _, _,
    monotonic, hmonotonic, _, _, count, hcount, _, _, shape, hshape, v6, hv6, diagnostics, hdiagnostics, hmake⟩
  have hshape := shortInt_three_ints hshape
  unfold SegmentManifest.toPy
  rw [Checked.val_of_make hmake]
  simp only [Json.renderable_dataclass, List.forall_mem_cons]
  refine ⟨renderable_id _, renderable_segment_request (renderable_item h hv1) hrequested,
    renderable_number (renderable_item h hv3) hcenter, renderable_number (renderable_item h hv4) hrate,
    renderable_number (renderable_item h hv5) hbandwidth, renderable_gain (renderable_item h hv2) hgain,
    Json.renderable_int.2 (shortInt_nonnegative_int hstart),
    Json.renderable_int.2 (shortInt_nonnegative_int hmonotonic),
    Json.renderable_int.2 (shortInt_positive_int hcount), ?_,
    renderable_frozen_mapping (renderable_item h hv6) hdiagnostics, List.forall_mem_nil _⟩
  simp [hshape]

theorem renderable_activity_manifest {a : ActivityManifest} (hread : activity_manifest value = .ok a) :
    Renderable (ActivityManifest.toPy a) := by
  simp only [activity_manifest, bind_ok] at hread
  rcases hread with ⟨fields, _, _, _, _, _, activity_id, _, _, _, _, _, kind, _, _, _, started, hstarted, _, _,
    finished, hfinished, _, _, ids, _, hmake⟩
  have hkind : ∀ kind : ActivityKind, Renderable (.str kind.value) := by
    intro kind
    cases kind <;> exact Json.renderable_literal _
  unfold ActivityManifest.toPy
  rw [Checked.val_of_make hmake]
  simp only [Json.renderable_dataclass, List.forall_mem_cons]
  exact ⟨renderable_id _, hkind _, Json.renderable_int.2 (shortInt_nonnegative_int hstarted),
    Json.renderable_int.2 (shortInt_nonnegative_int hfinished), renderable_ids _, List.forall_mem_nil _⟩

/-- Items of a list that were all converted to values with a text. -/
theorem renderable_converted {α : Type} {f : PyValue → Except PyError α} {toPy : α → PyValue} {items : List PyValue}
    {converted : List α} (h : Renderable (.list items)) (hf : ∀ {v a}, Renderable v → f v = .ok a → Renderable (toPy a))
    (hread : items.mapM f = .ok converted) : Renderable (.tuple (converted.map toPy)) := by
  rw [Json.renderable_list] at h
  refine Json.renderable_tuple.2 fun w hw => ?_
  rcases List.mem_map.1 hw with ⟨a, ha, rfl⟩
  rcases exists_of_mapM hread ha with ⟨v, hv, hva⟩
  exact hf (h v hv) hva

/-- One field was read, and the rest of the object after it. -/
theorem field_ok {α β : Type} {f : PyValue → Except PyError α} {rest : α → Except PyError β} {b : β}
    (h : (item fields key >>= fun v => f v >>= rest) = .ok b) :
    ∃ v a, item fields key = .ok v ∧ f v = .ok a ∧ rest a = .ok b := by
  rcases bind_ok.1 h with ⟨v, hv, h⟩
  rcases bind_ok.1 h with ⟨a, ha, h⟩
  exact ⟨v, a, hv, ha, h⟩

/-- The manifest that was read can be written. -/
theorem renderable_manifest {m : RecordingManifest} (h : Renderable (.dict fields))
    (hread : manifest_from_wire fields = .ok m) : Renderable (RecordingManifest.toPy m) := by
  unfold manifest_from_wire at hread
  rcases bind_ok.1 hread with ⟨_, _, hread⟩
  rcases field_ok hread with ⟨_, schema, _, _, hread⟩
  rcases field_ok hread with ⟨v1, l1, hv1, hl1, hread⟩
  rcases bind_ok.1 hread with ⟨activities, hactivities, hread⟩
  rcases field_ok hread with ⟨v2, l2, hv2, hl2, hread⟩
  rcases bind_ok.1 hread with ⟨segments, hsegments, hread⟩
  rcases field_ok hread with ⟨_, recording_id, _, _, hread⟩
  rcases field_ok hread with ⟨_, created, _, hcreated, hread⟩
  rcases field_ok hread with ⟨_, started, _, hstarted, hread⟩
  rcases field_ok hread with ⟨_, finished, _, hfinished, hread⟩
  rcases field_ok hread with ⟨_, station_id, _, _, hread⟩
  rcases field_ok hread with ⟨_, radio_id, _, _, hread⟩
  rcases field_ok hread with ⟨v3, serial, hv3, hserial, hread⟩
  rcases field_ok hread with ⟨_, receivers, _, _, hread⟩
  rcases field_ok hread with ⟨v4, clock, hv4, hclock, hread⟩
  rcases field_ok hread with ⟨_, snapshot, _, _, hread⟩
  rcases field_ok hread with ⟨_, plan_id, _, _, hread⟩
  rcases field_ok hread with ⟨v5, producer, hv5, hproducer, hread⟩
  rcases field_ok hread with ⟨v6, tags, hv6, htags, hread⟩
  rcases field_ok hread with ⟨_, dtype, _, _, hread⟩
  rcases field_ok hread with ⟨_, layout, _, _, hread⟩
  rcases field_ok hread with ⟨_, state, _, _, hmake⟩
  have hval := Checked.val_of_make hmake
  have hok := m.ok
  simp only [RecordingManifest.Fields.post_init, checkAll_cons, raiseIf_ok, not_or, not_not] at hok
  -- the schema, the sample representation and the state are fixed
  have hschema : Renderable m.val.schema.toPy := renderable_schema hok.1.2
  have hdtype : m.val.sample_dtype = str "<i2" := hok.2.2.2.2.2.2.1.1
  have hlayout : m.val.sample_layout = (str "sample", str "receiver", str "component") := hok.2.2.2.2.2.2.1.2
  have hstate : m.val.state = str "complete" := hok.2.2.2.2.2.1
  have hitem1 := renderable_item h hv1
  have hitem2 := renderable_item h hv2
  rw [list_eq hl1] at hitem1
  rw [list_eq hl2] at hitem2
  unfold RecordingManifest.toPy
  rw [hdtype, hlayout, hstate]
  simp only [Json.renderable_dataclass, List.forall_mem_cons]
  refine ⟨hschema, ?_⟩
  rw [hval]
  refine ⟨renderable_id _, Json.renderable_int.2 (shortInt_nonnegative_int hcreated),
    Json.renderable_int.2 (shortInt_nonnegative_int hstarted),
    Json.renderable_int.2 (shortInt_nonnegative_int hfinished), renderable_id _, renderable_id _,
    Json.renderable_str.2 (encodable_string (renderable_item h hv3) hserial), renderable_ids _,
    Json.renderable_str.2 (encodable_string (renderable_item h hv4) hclock), renderable_id _,
    renderable_converted hitem1 (fun _ => renderable_activity_manifest) hactivities,
    renderable_converted hitem2 renderable_segment_manifest hsegments, renderable_id _,
    Json.renderable_str.2 (encodable_string (renderable_item h hv5) hproducer),
    renderable_frozen_mapping (renderable_item h hv6) htags, Json.renderable_literal _, ?_,
    Json.renderable_literal _, List.forall_mem_nil _⟩
  simp

/-! ## One failure mode -/

/-- Nothing but `MalformedRecordingError` is raised. -/
@[reducible] def OnlyMalformed {α : Type} (x : Except PyError α) : Prop :=
  RaisesOnly (fun k => k = .malformed_recording_error) x

section Rules

variable {α β : Type}

theorem onlyMalformed_raiseIf {bad : Prop} [Decidable bad] {message : String} :
    OnlyMalformed (raiseIf bad (.malformed message)) :=
  raisesOnly_raiseIf rfl

theorem onlyMalformed_error {message : String} : OnlyMalformed (.error (.malformed message) : Except PyError α) :=
  raisesOnly_error rfl

theorem onlyMalformed_and {x : Except PyError α} {f : α → Except PyError β} :
    OnlyMalformed (x >>= f) ↔ OnlyMalformed x ∧ ∀ a, x = .ok a → OnlyMalformed (f a) :=
  raisesOnly_bind

/-- A step that raises nothing else is left out. -/
theorem onlyMalformed_bind {x : Except PyError α} {f : α → Except PyError β} (h : OnlyMalformed x) :
    OnlyMalformed (x >>= f) ↔ ∀ a, x = .ok a → OnlyMalformed (f a) :=
  raisesOnly_bind.trans (and_iff_right h)

/-- A step that raises no `MalformedRecordingError` must return. -/
theorem onlyMalformed_iff_exists {x : Except PyError α} (h : RaisesOnly (fun k => k ≠ .malformed_recording_error) x) :
    OnlyMalformed x ↔ ∃ a, x = .ok a := by
  cases x with
  | error e => exact iff_of_false (fun hx => h e rfl (hx e rfl)) nofun
  | ok a => exact iff_of_true (raisesOnly_ok a) ⟨a, rfl⟩

theorem ne_malformed {k : ErrorKind} (h : IsReadingError k) : k ≠ .malformed_recording_error := by
  rintro rfl
  exact absurd h (by decide)

theorem onlyMalformed_reading {x : Except PyError α} (h : RaisesOnly IsReadingError x) :
    OnlyMalformed x ↔ ∃ a, x = .ok a :=
  onlyMalformed_iff_exists fun e he => ne_malformed (h e he)

/-- What is caught is converted, and nothing else. -/
theorem onlyMalformed_convert {caught : ErrorKind → Prop} [DecidablePred caught] {message : String}
    {x : Except PyError α} (h : RaisesOnly (fun k => k ≠ .malformed_recording_error) x) :
    OnlyMalformed (convert caught message x) ↔ RaisesOnly caught x := by
  cases x with
  | ok a => exact iff_of_true (raisesOnly_ok a) (raisesOnly_ok a)
  | error e =>
    have hne : e.kind ≠ .malformed_recording_error := h e rfl
    by_cases hcaught : caught e.kind
    · refine iff_of_true ?_ (raisesOnly_error hcaught)
      unfold convert
      dsimp only
      rw [if_pos hcaught]
      exact onlyMalformed_error
    · refine iff_of_false ?_ fun hx => hcaught (hx e rfl)
      unfold convert
      dsimp only
      rw [if_neg hcaught]
      exact fun hx => hne (hx e rfl)

/-- A conversion escapes only by overflowing. -/
theorem onlyMalformed_convert_reading {message : String} {x : Except PyError α} (h : RaisesOnly IsReadingError x) :
    OnlyMalformed (convert IsWireError message x) ↔ RaisesOnly (fun k => k ≠ .overflow_error) x := by
  rw [onlyMalformed_convert fun e he => ne_malformed (h e he)]
  constructor
  · intro hx e he hoverflow
    exact absurd (hoverflow ▸ hx e he) (by decide)
  · intro hx e he
    exact (h e he).resolve_right (hx e he)

theorem convert_ok {caught : ErrorKind → Prop} [DecidablePred caught] {message : String} {x : Except PyError α} {a : α} :
    convert caught message x = .ok a ↔ x = .ok a := by
  cases x with
  | ok b => exact Iff.rfl
  | error e => exact iff_of_false (fun h => by cases h) (fun h => by cases h)

/-- The loop raises nothing else iff no round that is reached does. -/
theorem onlyMalformed_foldlM {step : β → α → Except PyError β} {s : β} {xs : List α} :
    OnlyMalformed (xs.foldlM step s) ↔ ∀ before x after t, xs = before ++ x :: after →
      before.foldlM step s = .ok t → OnlyMalformed (step t x) := by
  induction xs generalizing s with
  | nil =>
    refine iff_of_true (raisesOnly_ok s) ?_
    intro before x after t hsplit
    cases before <;> cases hsplit
  | cons y ys ih =>
    rw [List.foldlM_cons]
    refine raisesOnly_bind.trans ?_
    constructor
    · rintro ⟨hfirst, hrest⟩ before x after t hsplit hbefore
      cases before with
      | nil =>
        cases hsplit
        cases hbefore
        exact hfirst
      | cons z before =>
        cases hsplit
        rw [List.foldlM_cons] at hbefore
        rcases bind_ok.1 hbefore with ⟨u, hu, hbefore⟩
        exact ih.1 (hrest u hu) before x after t rfl hbefore
    · intro h
      refine ⟨h [] y ys s rfl rfl, fun u hu => ih.2 fun before x after t hsplit hbefore => ?_⟩
      refine h (y :: before) x after t (by rw [hsplit, List.cons_append]) ?_
      rw [List.foldlM_cons]
      exact bind_ok.2 ⟨u, hu, hbefore⟩

end Rules

/-! ## Which metadata is orderly -/

/-- The text is one that the interpreter can read and, if it is an object, write again:
it fits the stack, it has no integer of more than 4300 digits, and an object has only
finite numbers and encodable strings. -/
structure OrderlyText (stack : Stack) (data : Bytes) : Prop where
  scans : stack.scans data
  numbers : RaisesOnly IsJsonError (Json.loads data)
  object : ∀ value, Json.loads data = .ok (.dict value) → stack.encodes (.dict value) ∧ Renderable (.dict value)

/-- `fields[key]`, of a field that is there. -/
@[reducible] def Has (fields : Entries) (key : String) (v : PyValue) : Prop := fields.lookup (str key) = some v

/-- The segment identifier of an entry is an identifier. -/
@[reducible] def HasSegmentId (fields : Entries) : Prop :=
  ∃ s, Has fields "segment_id" (.str s) ∧ IsToken s ∧ IdClass.segment.Starts s

/-- The other fields of an entry of the segment table have their types. -/
structure OrderlyRange (fields : Entries) : Prop where
  byte_offset : ∃ n, Has fields "byte_offset" (.int n) ∧ 0 ≤ n ∧ n ≤ INT64_MAX
  byte_count : ∃ n, Has fields "byte_count" (.int n) ∧ 0 < n ∧ n ≤ INT64_MAX
  shape : ∃ ns : List Int, Has fields "shape" (.list (ns.map .int)) ∧ ns.length = 3 ∧
    ∀ n ∈ ns, 0 ≤ n ∧ n ≤ INT64_MAX
  receivers : ∃ ss : List PyStr, Has fields "receiver_chain_ids" (.list (ss.map .str))

/-- An entry of the segment table that is reached: an object; with the right fields it has
an identifier; with the identifier of its segment the other fields have their types. -/
structure OrderlySegment (table : Table) (x : PyValue × SegmentManifest) : Prop where
  object : ∃ fields, x.1 = .dict fields
  segment_id : ∀ fields, x.1 = .dict fields →
    HasFields fields ["segment_id", "byte_offset", "byte_count", "shape", "receiver_chain_ids"] → HasSegmentId fields
  range : ∀ fields, x.1 = .dict fields →
    HasFields fields ["segment_id", "byte_offset", "byte_count", "shape", "receiver_chain_ids"] →
    Has fields "segment_id" (.str x.2.val.segment_id.value) → ¬Known x.2.val.segment_id table.parsed →
    OrderlyRange fields

/-- A continuity entry that is reached: an object; with the right fields it has an
identifier; for a segment without evidence so far no number overflows. -/
structure OrderlyEvidence (parsed : List (SegmentId × ParsedSegment)) (legacy : Bool)
    (continuity : List (SegmentId × SegmentContinuity)) (raw : PyValue) : Prop where
  object : ∃ fields, raw = .dict fields
  segment_id : ∀ fields, raw = .dict fields → HasFields fields ["segment_id", "value"] → HasSegmentId fields
  numbers : ∀ fields, raw = .dict fields → HasFields fields ["segment_id", "value"] →
    ∀ (id : SegmentId) (v : PyValue), Has fields "segment_id" (.str id.value) → Has fields "value" v →
    Known id parsed → ¬Known id continuity →
    RaisesOnly (fun k => k ≠ .overflow_error) (continuity_from_wire v legacy)

/-- The metadata from its envelope on, as far as it is reached. -/
structure OrderlyValue (stack : Stack) (value : Entries) (ref : RecordingObjectRef) : Prop where
  hashable : Hashable (version value)
  manifest_numbers : ∀ fields, checkEnvelope value = .ok () → Has value "manifest" (.dict fields) →
    RaisesOnly (fun k => k ≠ .overflow_error) (manifest_from_wire fields)
  manifest_text : ∀ manifest, checkEnvelope value = .ok () → embeddedManifest value = .ok manifest →
    manifest.val.recording_id = ref.val.recording_id → stack.encodes (RecordingManifest.toPy manifest)
  segments : ∀ manifest raw_segments before x after table, checkEnvelope value = .ok () →
    embeddedManifest value = .ok manifest → checkIdentity stack value ref manifest = .ok () →
    rawSegments value manifest = .ok raw_segments →
    raw_segments.zip manifest.val.segments = before ++ x :: after →
    before.foldlM (readSegment ref) {} = .ok table → OrderlySegment table x
  continuity : ∀ manifest raw_segments parsed, checkEnvelope value = .ok () →
    embeddedManifest value = .ok manifest → checkIdentity stack value ref manifest = .ok () →
    rawSegments value manifest = .ok raw_segments → segmentTable ref raw_segments manifest = .ok parsed →
    ∀ v, Has value "continuity" v → ∃ entries, v = .list entries ∧
      ∀ before x after continuity, entries = before ++ x :: after →
        before.foldlM (readContinuity manifest parsed (decide (IsText (version value) "1.1"))) [] = .ok continuity →
        OrderlyEvidence parsed (decide (IsText (version value) "1.1")) continuity x

/-- Metadata on which nothing but `MalformedRecordingError` is raised. -/
structure Orderly (stack : Stack) (data : Bytes) (ref : RecordingObjectRef) : Prop where
  text : OrderlyText stack data
  value : ∀ value, canonical_object stack data = .ok value → OrderlyValue stack value ref

/-! ## The stages -/

variable {stack : Stack} {data : Bytes} {ref : RecordingObjectRef} {entries : Entries}

theorem stack_loads_kind (stack : Stack) (data : Bytes) :
    RaisesOnly (fun k => k ≠ .malformed_recording_error) (stack.loads data) := by
  intro e he
  unfold Stack.loads at he
  split at he
  · have hkind := Json.raisesOnly_loads data e he
    intro hmalformed
    exact absurd (hmalformed ▸ hkind) (by decide)
  · cases he
    decide

theorem raisesOnly_stack_loads :
    RaisesOnly IsJsonError (stack.loads data) ↔ stack.scans data ∧ RaisesOnly IsJsonError (Json.loads data) := by
  unfold Stack.loads
  by_cases hscans : stack.scans data
  · rw [if_pos hscans]
    exact (and_iff_right hscans).symm
  · rw [if_neg hscans]
    refine iff_of_false ?_ fun h => hscans h.1
    intro h
    exact absurd (h recursionError rfl) (by decide)

/-- The bytes of a value that `json.loads` returned. -/
theorem onlyMalformed_canonicalJsonBytes {v : PyValue} (hvalid : v.Valid) :
    OnlyMalformed (stack.canonicalJsonBytes v) ↔ stack.encodes v ∧ Renderable v := by
  unfold Stack.canonicalJsonBytes
  by_cases hencodes : stack.encodes v
  · rw [if_pos hencodes, ← Json.exists_canonicalJsonBytes_iff hvalid]
    refine (onlyMalformed_iff_exists ?_).trans (and_iff_right hencodes).symm
    intro e he hmalformed
    have hkind := Json.raisesOnly_canonicalJsonBytes v e he
    exact absurd (hmalformed ▸ hkind) (by decide)
  · rw [if_neg hencodes]
    refine iff_of_false ?_ fun h => hencodes h.1
    intro h
    exact absurd (h recursionError rfl) (by decide)

theorem stack_loads_ok {v : PyValue} : stack.loads data = .ok v ↔ stack.scans data ∧ Json.loads data = .ok v := by
  unfold Stack.loads
  split
  · rename_i hscans
    exact (and_iff_right hscans).symm
  · rename_i hscans
    exact iff_of_false nofun fun h => hscans h.1

theorem orderlyText_iff : OnlyMalformed (canonical_object stack data) ↔ OrderlyText stack data := by
  have hloads : OnlyMalformed (convert IsJsonError "metadata is not valid UTF-8 JSON" (stack.loads data)) ↔
      stack.scans data ∧ RaisesOnly IsJsonError (Json.loads data) :=
    (onlyMalformed_convert (stack_loads_kind stack data)).trans raisesOnly_stack_loads
  have hdict : ∀ value : Entries, Json.loads data = .ok (.dict value) →
      (OnlyMalformed (do
        let canonical ← stack.canonicalJsonBytes (.dict value)
        if canonical ≠ data then .error (.malformed "metadata is not canonical JSON") else .ok value) ↔
      stack.encodes (.dict value) ∧ Renderable (.dict value)) := by
    intro value hvalue
    rw [← onlyMalformed_canonicalJsonBytes (Json.document_of_loads hvalue).valid]
    refine raisesOnly_bind.trans (and_iff_left fun canonical _ => ?_)
    split
    · exact onlyMalformed_error
    · exact raisesOnly_ok _
  unfold canonical_object
  refine raisesOnly_bind.trans ?_
  constructor
  · rintro ⟨hread, hobject⟩
    rcases hloads.1 hread with ⟨hscans, hnumbers⟩
    refine ⟨hscans, hnumbers, fun value hvalue => (hdict value hvalue).1 ?_⟩
    exact hobject (.dict value) (convert_ok.2 (stack_loads_ok.2 ⟨hscans, hvalue⟩))
  · intro h
    refine ⟨hloads.2 ⟨h.scans, h.numbers⟩, fun v hv => ?_⟩
    have hvalue := (stack_loads_ok.1 (convert_ok.1 hv)).2
    split
    · rename_i value
      exact (hdict value hvalue).2 (h.object value hvalue)
    · exact onlyMalformed_error

theorem orderlyEnvelope_iff : OnlyMalformed (checkEnvelope entries) ↔ Hashable (version entries) := by
  unfold checkEnvelope
  refine raisesOnly_bind.trans ?_
  have hchecks : ∀ u : Unit, raiseIf (¬Hashable (version entries)) (.type "unhashable type") = .ok u → OnlyMalformed (checkAll [
      raiseIf (¬HasFields entries (requiredFields (version entries)))
        (.malformed "metadata has missing or unknown required fields"),
      raiseIf (Differs entries "schema" (.str (str "org.leo-flow.recording-object-metadata")) ∨
        ¬(IsText (version entries) "1.0" ∨ IsText (version entries) "1.1" ∨ IsText (version entries) "1.2"))
        (.malformed "unsupported recording metadata schema"),
      raiseIf (Differs entries "core:datatype" (.str (str "ci16_le")) ∨
        Differs entries "leo:namespace_version" (version entries)) (.malformed "unsupported data representation")]) := by
    intro _ _
    refine raisesOnly_checkAll ?_
    simp only [List.forall_mem_cons]
    exact ⟨onlyMalformed_raiseIf, onlyMalformed_raiseIf, onlyMalformed_raiseIf, nofun⟩
  refine (and_iff_left hchecks).trans ?_
  unfold raiseIf
  split
  · rename_i hhashable
    refine iff_of_false ?_ hhashable
    intro h
    exact absurd (h _ rfl) (by unfold PyError.type; decide)
  · rename_i hhashable
    exact iff_of_true (raisesOnly_ok ()) (not_not.1 hhashable)

theorem item_ok {v : PyValue} : item fields key = .ok v ↔ Has fields key v := by
  unfold item Has
  split
  · rename_i w hlookup
    rw [hlookup, Except.ok.injEq, Option.some.injEq]
  · rename_i hlookup
    rw [hlookup]
    exact iff_of_false (fun h => by cases h) (fun h => by cases h)

theorem mapping_ok : mapping value field = .ok fields ↔ value = .dict fields := by
  refine ⟨mapping_eq, ?_⟩
  rintro rfl
  rfl

theorem string_ok {s : PyStr} : string value field = .ok s ↔ value = .str s := by
  refine ⟨string_eq, ?_⟩
  rintro rfl
  rfl

theorem orderlyManifest_iff : OnlyMalformed (embeddedManifest entries) ↔
    ∀ fields, Has entries "manifest" (.dict fields) →
      RaisesOnly (fun k => k ≠ .overflow_error) (manifest_from_wire fields) := by
  have hreading : RaisesOnly IsReadingError (do
      manifest_from_wire (← mapping (← item entries "manifest") "manifest")) := by
    refine raisesOnly_bind.2 ⟨reading_item _ _, fun v _ => raisesOnly_bind.2 ⟨reading_mapping _ _, fun fields _ => ?_⟩⟩
    exact reading_manifest_from_wire fields
  unfold embeddedManifest
  rw [onlyMalformed_convert_reading hreading]
  constructor
  · intro h fields hfields
    have hmapping := (raisesOnly_bind.1 h).2 _ (item_ok.2 hfields)
    exact (raisesOnly_bind.1 hmapping).2 fields rfl
  · intro h
    refine raisesOnly_bind.2 ⟨fun e he => ?_, fun v hv => raisesOnly_bind.2 ⟨fun e he => ?_, fun fields hfields => ?_⟩⟩
    · -- a missing field is a `KeyError`
      unfold item at he
      split at he
      · cases he
      · cases he
        decide
    · unfold mapping at he
      split at he
      · cases he
      · cases he
        decide
    · refine h fields ?_
      rw [← mapping_eq hfields]
      exact item_ok.1 hv

/-- The embedded manifest is that of an object of the document. -/
theorem embeddedManifest_ok {manifest : RecordingManifest} : embeddedManifest entries = .ok manifest ↔
    ∃ fields, Has entries "manifest" (.dict fields) ∧ manifest_from_wire fields = .ok manifest := by
  unfold embeddedManifest
  simp only [convert_ok, bind_ok, item_ok, mapping_ok]
  constructor
  · rintro ⟨v, hv, fields, rfl, hmanifest⟩
    exact ⟨fields, hv, hmanifest⟩
  · rintro ⟨fields, hv, hmanifest⟩
    exact ⟨_, hv, fields, rfl, hmanifest⟩

theorem orderlyIdentity_iff {manifest : RecordingManifest} (h : Renderable (.dict entries))
    (hmanifest : embeddedManifest entries = .ok manifest) :
    OnlyMalformed (checkIdentity stack entries ref manifest) ↔
      (manifest.val.recording_id = ref.val.recording_id → stack.encodes (RecordingManifest.toPy manifest)) := by
  rcases embeddedManifest_ok.1 hmanifest with ⟨fields, hfields, hread⟩
  have hrenderable := renderable_manifest (renderable_item h (item_ok.2 hfields)) hread
  have hdigest : OnlyMalformed (stack.canonicalDigest (RecordingManifest.toPy manifest)) ↔
      stack.encodes (RecordingManifest.toPy manifest) := by
    refine Iff.trans ?_ ((onlyMalformed_canonicalJsonBytes (RecordingManifest.valid_toPy manifest)).trans
      (and_iff_left hrenderable))
    unfold Stack.canonicalDigest
    cases stack.canonicalJsonBytes (RecordingManifest.toPy manifest) with
    | error e =>
      constructor
      · intro hx e' he
        cases he
        exact hx e rfl
      · intro hx e' he
        cases he
        exact hx e rfl
    | ok bytes => exact iff_of_true (raisesOnly_ok _) (raisesOnly_ok _)
  unfold checkIdentity
  refine (onlyMalformed_bind onlyMalformed_raiseIf).trans ?_
  constructor
  · intro hrest hid
    have hdigest' := (raisesOnly_bind.1 (hrest () (raiseIf_ok.2 (not_not.2 hid)))).1
    exact hdigest.1 hdigest'
  · intro hencodes u hu
    have hid := not_not.1 (raiseIf_ok.1 hu)
    refine raisesOnly_bind.2 ⟨hdigest.2 (hencodes hid), fun digest _ => raisesOnly_checkAll ?_⟩
    simp only [List.forall_mem_cons]
    exact ⟨onlyMalformed_raiseIf, onlyMalformed_raiseIf, nofun⟩

/-! ### The segment table -/

theorem nonnegative_int_ok {n : Int} : nonnegative_int value field = .ok n ↔
    value = .int n ∧ 0 ≤ n ∧ n ≤ INT64_MAX := by
  unfold nonnegative_int
  split
  · rename_i m
    rw [PyValue.int.injEq]
    split
    · refine iff_of_false nofun ?_
      rintro ⟨rfl, h⟩
      omega
    · rw [Except.ok.injEq]
      constructor
      · rintro rfl
        exact ⟨rfl, by omega⟩
      · exact fun h => h.1
  · rename_i hint
    exact iff_of_false nofun fun h => hint n h.1

theorem positive_int_ok {n : Int} : positive_int value field = .ok n ↔
    value = .int n ∧ 0 < n ∧ n ≤ INT64_MAX := by
  unfold positive_int
  simp only [bind_ok, nonnegative_int_ok]
  constructor
  · rintro ⟨m, ⟨hvalue, hlow, hhigh⟩, hrest⟩
    split at hrest
    · cases hrest
    · cases hrest
      exact ⟨hvalue, by omega, hhigh⟩
  · rintro ⟨hvalue, hlow, hhigh⟩
    exact ⟨n, ⟨hvalue, hlow.le, hhigh⟩, if_neg hlow.ne'⟩

theorem list_ok {items : List PyValue} : list value field = .ok items ↔ value = .list items := by
  refine ⟨list_eq, ?_⟩
  rintro rfl
  rfl

theorem string_list_ok {ss : List PyStr} : string_list value field = .ok ss ↔ value = .list (ss.map .str) := by
  unfold string_list
  simp only [bind_ok, list_ok, mapM_ok, string_ok]
  have hall : ∀ items : List PyValue, List.Forall₂ (fun v s => v = .str s) items ss ↔ items = ss.map .str := by
    intro items
    rw [← List.forall₂_eq_eq_eq, List.forall₂_map_right_iff]
  simp only [hall, exists_eq_right]

theorem int_list_ok {ns : List Int} {length : Nat} : int_list value field length = .ok ns ↔
    value = .list (ns.map .int) ∧ ns.length = length ∧ ∀ n ∈ ns, 0 ≤ n ∧ n ≤ INT64_MAX := by
  have hall : ∀ items : List PyValue, ∀ ns : List Int,
      List.Forall₂ (fun v n => v = .int n ∧ 0 ≤ n ∧ n ≤ INT64_MAX) items ns ↔
        items = ns.map .int ∧ ∀ n ∈ ns, 0 ≤ n ∧ n ≤ INT64_MAX := by
    intro items ns
    rw [← List.forall₂_eq_eq_eq, List.forall₂_map_right_iff]
    constructor
    · intro h
      refine ⟨h.imp fun _ _ h => h.1, fun n hn => ?_⟩
      rcases Json.exists_of_forall₂_right h hn with ⟨_, hv⟩
      exact hv.2
    · rintro ⟨h, hbounds⟩
      induction h with
      | nil => exact .nil
      | cons hv _ ih =>
        exact .cons ⟨hv, hbounds _ List.mem_cons_self⟩ (ih fun n hn => hbounds n (List.mem_cons_of_mem _ hn))
  unfold int_list
  simp only [bind_ok, list_ok, mapM_ok, nonnegative_int_ok, hall]
  constructor
  · rintro ⟨items, hvalue, ms, ⟨hitems, hbounds⟩, hrest⟩
    split at hrest
    · cases hrest
    · rename_i hlength
      cases hrest
      exact ⟨hvalue.trans (congrArg _ hitems), not_not.1 hlength, hbounds⟩
  · rintro ⟨hvalue, hlength, hbounds⟩
    exact ⟨_, hvalue, ns, ⟨rfl, hbounds⟩, if_neg (not_not.2 hlength)⟩

theorem parse_ok {c : IdClass} {s : PyStr} {id : ContractId c} : ContractId.parse c s = .ok id ↔ s = id.value := by
  refine ⟨fun h => (ContractId.value_of_parse h).symm, ?_⟩
  rintro rfl
  exact ContractId.parse_value id

theorem segmentIdOf_ok {id : SegmentId} : segmentIdOf fields = .ok id ↔ Has fields "segment_id" (.str id.value) := by
  unfold segmentIdOf idOf
  simp only [bind_ok, item_ok, string_ok, parse_ok]
  constructor
  · rintro ⟨v, hv, s, rfl, rfl⟩
    exact hv
  · intro h
    exact ⟨_, h, _, rfl, rfl⟩

theorem hasSegmentId_iff : (∃ id, segmentIdOf fields = .ok id) ↔ HasSegmentId fields := by
  simp only [segmentIdOf_ok]
  constructor
  · rintro ⟨id, hid⟩
    exact ⟨id.value, hid, id.isToken, id.starts⟩
  · rintro ⟨s, hs, htoken, hstarts⟩
    exact ⟨⟨s, htoken, hstarts⟩, hs⟩

theorem orderlyRange_iff : (∃ range, segmentRange fields = .ok range) ↔ OrderlyRange fields := by
  unfold segmentRange
  simp only [bind_ok, item_ok, nonnegative_int_ok, positive_int_ok, int_list_ok, string_list_ok]
  constructor
  · rintro ⟨_, v1, hv1, n, ⟨rfl, hn⟩, v2, hv2, k, ⟨rfl, hk⟩, v3, hv3, ns, ⟨rfl, hns⟩, v4, hv4, ss, rfl, _⟩
    exact ⟨⟨n, hv1, hn⟩, ⟨k, hv2, hk⟩, ⟨ns, hv3, hns⟩, ⟨ss, hv4⟩⟩
  · rintro ⟨⟨n, hv1, hn⟩, ⟨k, hv2, hk⟩, ⟨ns, hv3, hns⟩, ⟨ss, hv4⟩⟩
    exact ⟨_, _, hv1, n, ⟨rfl, hn⟩, _, hv2, k, ⟨rfl, hk⟩, _, hv3, ns, ⟨rfl, hns⟩, _, hv4, ss, rfl, rfl⟩

theorem onlyMalformed_placeSegment (ref : RecordingObjectRef) (segment : SegmentManifest) (table : Table)
    (id : SegmentId) (range : SegmentRange) : OnlyMalformed (placeSegment ref segment table id range) := by
  have hbytes : ∀ samples receivers : Int, OnlyMalformed (checked_segment_bytes samples receivers) := by
    intro samples receivers
    unfold checked_segment_bytes
    split
    · exact onlyMalformed_error
    · split
      · exact onlyMalformed_error
      · exact raisesOnly_ok _
  have hadd : ∀ left right : Int, OnlyMalformed (checked_add left right) := by
    intro left right
    unfold checked_add
    split
    · exact onlyMalformed_error
    · exact raisesOnly_ok _
  unfold placeSegment
  refine raisesOnly_bind.2 ⟨raisesOnly_checkAll ?_, fun _ _ => ?_⟩
  · simp only [List.forall_mem_cons]
    exact ⟨onlyMalformed_raiseIf, onlyMalformed_raiseIf, nofun⟩
  refine raisesOnly_bind.2 ⟨hbytes _ _, fun expected _ => ?_⟩
  refine raisesOnly_bind.2 ⟨onlyMalformed_raiseIf, fun _ _ => ?_⟩
  refine raisesOnly_bind.2 ⟨hadd _ _, fun stop _ => ?_⟩
  exact raisesOnly_bind.2 ⟨onlyMalformed_raiseIf, fun _ _ => raisesOnly_ok _⟩

theorem reading_segmentIdOf (fields : Entries) : RaisesOnly IsReadingError (segmentIdOf fields) := by
  simp [segmentIdOf]

theorem reading_segmentRange (fields : Entries) : RaisesOnly IsReadingError (segmentRange fields) := by
  simp [segmentRange]

theorem orderlySegment_iff {table : Table} {x : PyValue × SegmentManifest} :
    OnlyMalformed (readSegment ref table x) ↔ OrderlySegment table x := by
  unfold readSegment
  refine onlyMalformed_and.trans ?_
  rw [onlyMalformed_reading (reading_mapping _ _)]
  constructor
  · rintro ⟨⟨fields, hfields⟩, hrest⟩
    have hobject := mapping_eq hfields
    have hentry := (onlyMalformed_bind onlyMalformed_raiseIf).1 (hrest fields hfields)
    have hsame : ∀ fields', x.1 = .dict fields' → fields' = fields := by
      intro fields' h
      rw [hobject, PyValue.dict.injEq] at h
      exact h.symm
    refine ⟨⟨fields, hobject⟩, fun fields' h hhas => ?_, fun fields' h hhas hid hfresh => ?_⟩
    · rw [hsame fields' h] at hhas ⊢
      have hread := raisesOnly_bind.1 (hentry () (raiseIf_ok.2 (not_not.2 hhas)))
      exact hasSegmentId_iff.1 ((onlyMalformed_reading (reading_segmentIdOf _)).1 hread.1)
    · rw [hsame fields' h] at hhas hid ⊢
      have hread := raisesOnly_bind.1 (hentry () (raiseIf_ok.2 (not_not.2 hhas)))
      have hplaced := (onlyMalformed_bind onlyMalformed_raiseIf).1 (hread.2 _ (segmentIdOf_ok.2 hid)) ()
        (raiseIf_ok.2 (not_or.2 ⟨not_not.2 rfl, hfresh⟩))
      exact orderlyRange_iff.1 ((onlyMalformed_reading (reading_segmentRange _)).1 (raisesOnly_bind.1 hplaced).1)
  · intro h
    rcases h.object with ⟨fields, hfields⟩
    refine ⟨⟨fields, mapping_ok.2 hfields⟩, fun fields' hfields' => ?_⟩
    have hobject := mapping_eq hfields'
    refine (onlyMalformed_bind onlyMalformed_raiseIf).2 fun _ hhas => ?_
    have hhas := not_not.1 (raiseIf_ok.1 hhas)
    have hid := hasSegmentId_iff.2 (h.segment_id fields' hobject hhas)
    refine raisesOnly_bind.2 ⟨(onlyMalformed_reading (reading_segmentIdOf _)).2 hid, fun id hid => ?_⟩
    refine (onlyMalformed_bind onlyMalformed_raiseIf).2 fun _ hknown => ?_
    rcases not_or.1 (raiseIf_ok.1 hknown) with ⟨hsame, hfresh⟩
    rw [not_not.1 hsame] at hid hfresh
    have hrange := orderlyRange_iff.2 (h.range fields' hobject hhas (segmentIdOf_ok.1 hid) hfresh)
    exact raisesOnly_bind.2 ⟨(onlyMalformed_reading (reading_segmentRange _)).2 hrange,
      fun range _ => onlyMalformed_placeSegment _ _ _ _ _⟩

theorem onlyMalformed_rawSegments {manifest : RecordingManifest} (henvelope : checkEnvelope entries = .ok ()) :
    OnlyMalformed (rawSegments entries manifest) := by
  rcases bind_ok.1 henvelope with ⟨_, _, hchecks⟩
  simp only [checkAll_cons, raiseIf_ok, not_not] at hchecks
  have hkey := hchecks.1.2 "segments" (List.mem_append_left _ (by simp))
  have hitem : ∃ v, item entries "segments" = .ok v := by
    rcases List.mem_map.1 hkey with ⟨x, hx, hxkey⟩
    simp only [item_ok]
    cases hlookup : entries.lookup (str "segments") with
    | some v => exact ⟨v, hlookup⟩
    | none =>
      have hmissing := List.lookup_eq_none_iff.1 hlookup x hx
      simp [hxkey] at hmissing
  unfold rawSegments
  refine raisesOnly_bind.2 ⟨(onlyMalformed_reading (reading_item _ _)).2 hitem, fun v _ => ?_⟩
  split
  · refine raisesOnly_bind.2 ⟨raisesOnly_checkAll ?_, fun _ _ => raisesOnly_ok _⟩
    simp only [List.forall_mem_cons]
    exact ⟨onlyMalformed_raiseIf, onlyMalformed_raiseIf, List.forall_mem_nil _⟩
  · exact onlyMalformed_error

theorem orderlySegments_iff {manifest : RecordingManifest} {raw_segments : List PyValue} :
    OnlyMalformed (segmentTable ref raw_segments manifest) ↔ ∀ before x after table,
      raw_segments.zip manifest.val.segments = before ++ x :: after →
      before.foldlM (readSegment ref) {} = .ok table → OrderlySegment table x := by
  simp only [← @orderlySegment_iff ref]
  rw [← onlyMalformed_foldlM]
  unfold segmentTable
  exact raisesOnly_bind.trans (and_iff_left fun table _ =>
    (onlyMalformed_bind onlyMalformed_raiseIf).2 fun _ _ => raisesOnly_ok _)

/-! ### Continuity -/

/-- One round adds the segment of the manifest. -/
theorem parsed_readSegment {table table' : Table} {x : PyValue × SegmentManifest}
    (h : readSegment ref table x = .ok table') :
    ∃ range, table'.parsed = table.parsed ++ [(x.2.val.segment_id, range)] := by
  rcases bind_ok.1 h with ⟨fields, _, h⟩
  rcases bind_ok.1 h with ⟨_, _, h⟩
  rcases bind_ok.1 h with ⟨segment_id, _, h⟩
  rcases bind_ok.1 h with ⟨⟨⟩, hsame, h⟩
  rcases bind_ok.1 h with ⟨range, _, h⟩
  rcases bind_ok.1 h with ⟨_, _, h⟩
  rcases bind_ok.1 h with ⟨expected, _, h⟩
  rcases bind_ok.1 h with ⟨_, _, h⟩
  rcases bind_ok.1 h with ⟨stop, _, h⟩
  rcases bind_ok.1 h with ⟨_, _, h⟩
  cases h
  rw [raiseIf_ok, not_or, not_not] at hsame
  exact ⟨_, by rw [hsame.1]⟩

/-- Every segment of the table is one of the manifest. -/
theorem known_of_segmentTable {manifest : RecordingManifest} {raw_segments : List PyValue}
    {parsed : List (SegmentId × ParsedSegment)} (h : segmentTable ref raw_segments manifest = .ok parsed) :
    ∀ id, Known id parsed → id ∈ manifest.val.segment_ids := by
  have hloop : ∀ (xs : List (PyValue × SegmentManifest)) (s t : Table), xs.foldlM (readSegment ref) s = .ok t →
      ∀ id, Known id t.parsed → Known id s.parsed ∨ id ∈ xs.map fun x => x.2.val.segment_id := by
    intro xs
    induction xs with
    | nil =>
      intro s t hrun id hid
      cases hrun
      exact .inl hid
    | cons x xs ih =>
      intro s t hrun id hid
      rw [List.foldlM_cons] at hrun
      rcases bind_ok.1 hrun with ⟨u, hu, hrun⟩
      rcases ih u t hrun id hid with hknown | hmem
      · rcases parsed_readSegment hu with ⟨range, hadded⟩
        rw [Known, hadded, List.map_append, List.mem_append] at hknown
        refine hknown.imp_right fun hnew => ?_
        rw [List.map_singleton, List.mem_singleton] at hnew
        rw [hnew]
        exact List.mem_cons_self
      · exact .inr (List.mem_cons_of_mem _ hmem)
  rcases bind_ok.1 h with ⟨table, htable, hrest⟩
  rcases bind_ok.1 hrest with ⟨_, _, hparsed⟩
  cases hparsed
  intro id hid
  rcases hloop _ _ _ htable id hid with hnone | hmem
  · cases hnone
  · rcases List.mem_map.1 hmem with ⟨x, hx, rfl⟩
    exact List.mem_map_of_mem (List.of_mem_zip hx).2

theorem onlyMalformed_checkContinuity {manifest : RecordingManifest} {parsed : List (SegmentId × ParsedSegment)}
    {id : SegmentId} (h : id ∈ manifest.val.segment_ids) (continuity : SegmentContinuity) :
    OnlyMalformed (checkContinuity manifest parsed id continuity) := by
  have hreceivers : ∃ receivers, receiversOf manifest id = .ok receivers := by
    unfold receiversOf
    split
    · exact ⟨_, rfl⟩
    · rename_i hnone
      rcases List.mem_map.1 h with ⟨s, hs, hid⟩
      exact absurd (decide_eq_true hid) (List.find?_eq_none.1 hnone s hs)
  rcases hreceivers with ⟨receivers, hreceivers⟩
  unfold checkContinuity
  rw [hreceivers]
  refine raisesOnly_checkAll ?_
  simp only [List.forall_mem_cons]
  exact ⟨onlyMalformed_raiseIf, onlyMalformed_raiseIf, nofun⟩

theorem orderlyEvidence_iff {manifest : RecordingManifest} {parsed : List (SegmentId × ParsedSegment)}
    {legacy : Bool} {continuity : List (SegmentId × SegmentContinuity)} {raw : PyValue}
    (hparsed : ∀ id, Known id parsed → id ∈ manifest.val.segment_ids) :
    OnlyMalformed (readContinuity manifest parsed legacy continuity raw) ↔
      OrderlyEvidence parsed legacy continuity raw := by
  unfold readContinuity
  refine onlyMalformed_and.trans ?_
  rw [onlyMalformed_reading (reading_mapping _ _)]
  constructor
  · rintro ⟨⟨fields, hfields⟩, hrest⟩
    have hobject := mapping_eq hfields
    have hentry := (onlyMalformed_bind onlyMalformed_raiseIf).1 (hrest fields hfields)
    have hsame : ∀ fields', raw = .dict fields' → fields' = fields := by
      intro fields' h
      rw [hobject, PyValue.dict.injEq] at h
      exact h.symm
    refine ⟨⟨fields, hobject⟩, fun fields' h hhas => ?_, fun fields' h hhas id v hid hv hknown hfresh => ?_⟩
    · rw [hsame fields' h] at hhas ⊢
      have hread := onlyMalformed_and.1 (hentry () (raiseIf_ok.2 (not_not.2 hhas)))
      exact hasSegmentId_iff.1 ((onlyMalformed_reading (reading_segmentIdOf _)).1 hread.1)
    · rw [hsame fields' h] at hhas hid hv
      have hread := onlyMalformed_and.1 (hentry () (raiseIf_ok.2 (not_not.2 hhas)))
      have hvalue := (onlyMalformed_bind onlyMalformed_raiseIf).1 (hread.2 _ (segmentIdOf_ok.2 hid)) ()
        (raiseIf_ok.2 (not_or.2 ⟨not_not.2 hknown, hfresh⟩))
      have hconvert := (onlyMalformed_and.1 ((onlyMalformed_and.1 hvalue).2 v (item_ok.2 hv))).1
      exact (onlyMalformed_convert_reading (reading_continuity_from_wire _ _)).1 hconvert
  · intro h
    rcases h.object with ⟨fields, hfields⟩
    refine ⟨⟨fields, mapping_ok.2 hfields⟩, fun fields' hfields' => ?_⟩
    have hobject := mapping_eq hfields'
    refine (onlyMalformed_bind onlyMalformed_raiseIf).2 fun _ hhas => ?_
    have hhas := not_not.1 (raiseIf_ok.1 hhas)
    have hid := hasSegmentId_iff.2 (h.segment_id fields' hobject hhas)
    refine onlyMalformed_and.2 ⟨(onlyMalformed_reading (reading_segmentIdOf _)).2 hid, fun id hid => ?_⟩
    refine (onlyMalformed_bind onlyMalformed_raiseIf).2 fun _ hknown => ?_
    rcases not_or.1 (raiseIf_ok.1 hknown) with ⟨hknown, hfresh⟩
    have hknown := not_not.1 hknown
    have hvalue : ∃ v, Has fields' "value" v := by
      rcases List.mem_map.1 (hhas.2 "value" (by simp)) with ⟨x, hx, hxkey⟩
      cases hlookup : fields'.lookup (str "value") with
      | some v => exact ⟨v, hlookup⟩
      | none =>
        have hmissing := List.lookup_eq_none_iff.1 hlookup x hx
        simp [hxkey] at hmissing
    rcases hvalue with ⟨v, hv⟩
    refine onlyMalformed_and.2 ⟨(onlyMalformed_reading (reading_item _ _)).2 ⟨v, item_ok.2 hv⟩, fun w hw => ?_⟩
    have hnumbers := h.numbers fields' hobject hhas id w (segmentIdOf_ok.1 hid) (item_ok.1 hw) hknown hfresh
    refine onlyMalformed_and.2
      ⟨(onlyMalformed_convert_reading (reading_continuity_from_wire _ _)).2 hnumbers, fun evidence _ => ?_⟩
    exact onlyMalformed_and.2 ⟨onlyMalformed_checkContinuity (hparsed id hknown) evidence, fun _ _ => raisesOnly_ok _⟩

theorem orderlyContinuity_iff {manifest : RecordingManifest} {raw_segments : List PyValue}
    {parsed : List (SegmentId × ParsedSegment)} {legacy : Bool}
    (htable : segmentTable ref raw_segments manifest = .ok parsed) :
    OnlyMalformed (do
      let raw_continuity ← rawContinuity entries
      let continuity ← raw_continuity.foldlM (readContinuity manifest parsed legacy) []
      .ok (ParsedMetadata.mk manifest parsed continuity)) ↔
    ∀ v, Has entries "continuity" v → ∃ items, v = .list items ∧ ∀ before x after continuity,
      items = before ++ x :: after → before.foldlM (readContinuity manifest parsed legacy) [] = .ok continuity →
      OrderlyEvidence parsed legacy continuity x := by
  have hloop : ∀ items : List PyValue, OnlyMalformed (do
      let continuity ← items.foldlM (readContinuity manifest parsed legacy) []
      .ok (ParsedMetadata.mk manifest parsed continuity)) ↔ ∀ before x after continuity,
      items = before ++ x :: after → before.foldlM (readContinuity manifest parsed legacy) [] = .ok continuity →
      OrderlyEvidence parsed legacy continuity x := by
    intro items
    simp only [← orderlyEvidence_iff (known_of_segmentTable htable)]
    rw [← onlyMalformed_foldlM]
    exact onlyMalformed_and.trans (and_iff_left fun _ _ => raisesOnly_ok _)
  unfold rawContinuity
  cases hlookup : entries.lookup (str "continuity") with
  | none =>
    -- an old document has no evidence
    refine iff_of_true ?_ ?_
    · exact onlyMalformed_and.2 ⟨raisesOnly_ok _, fun items hitems => by cases hitems; exact raisesOnly_ok _⟩
    · intro v hv
      rw [Has, hlookup] at hv
      cases hv
  | some w =>
    have hread : RaisesOnly IsReadingError (list w "continuity") := reading_list _ _
    refine onlyMalformed_and.trans ?_
    rw [Option.getD_some, onlyMalformed_reading hread]
    simp only [list_ok]
    constructor
    · rintro ⟨⟨items, hitems⟩, hrest⟩ v hv
      rw [Has, hlookup, Option.some.injEq] at hv
      exact ⟨items, hv.symm.trans hitems, (hloop items).1 (hrest items hitems)⟩
    · intro h
      rcases h w hlookup with ⟨items, hitems, hrest⟩
      refine ⟨⟨items, hitems⟩, fun items' hitems' => (hloop items').2 ?_⟩
      rw [hitems, PyValue.list.injEq] at hitems'
      rw [← hitems']
      exact hrest

/-- The part of `_parse_metadata` after the object was read. -/
theorem orderlyValue_iff (h : Renderable (.dict entries)) :
    OnlyMalformed (do
      checkEnvelope entries
      let manifest ← embeddedManifest entries
      checkIdentity stack entries ref manifest
      let raw_segments ← rawSegments entries manifest
      let segments ← segmentTable ref raw_segments manifest
      let raw_continuity ← rawContinuity entries
      let continuity ← raw_continuity.foldlM
        (readContinuity manifest segments (decide (IsText (version entries) "1.1"))) []
      .ok (ParsedMetadata.mk manifest segments continuity)) ↔ OrderlyValue stack entries ref := by
  refine onlyMalformed_and.trans ?_
  rw [orderlyEnvelope_iff]
  constructor
  · rintro ⟨hhashable, hrest⟩
    have hmanifest := fun henvelope => onlyMalformed_and.1 (hrest () henvelope)
    have hidentity := fun henvelope manifest hm => onlyMalformed_and.1 ((hmanifest henvelope).2 manifest hm)
    have htable := fun henvelope manifest hm hid raw hraw =>
      onlyMalformed_and.1 ((onlyMalformed_and.1 ((hidentity henvelope manifest hm).2 () hid)).2 raw hraw)
    refine ⟨hhashable, fun fields henvelope => orderlyManifest_iff.1 (hmanifest henvelope).1 fields,
      fun manifest henvelope hm => (orderlyIdentity_iff h hm).1 (hidentity henvelope manifest hm).1, ?_, ?_⟩
    · intro manifest raw before x after table henvelope hm hid hraw
      exact orderlySegments_iff.1 (htable henvelope manifest hm hid raw hraw).1 before x after table
    · intro manifest raw parsed henvelope hm hid hraw hparsed
      exact (orderlyContinuity_iff hparsed).1 ((htable henvelope manifest hm hid raw hraw).2 parsed hparsed)
  · intro hvalue
    refine ⟨hvalue.hashable, fun _ henvelope => ?_⟩
    refine onlyMalformed_and.2
      ⟨orderlyManifest_iff.2 fun fields => hvalue.manifest_numbers fields henvelope, fun manifest hm => ?_⟩
    refine onlyMalformed_and.2
      ⟨(orderlyIdentity_iff h hm).2 (hvalue.manifest_text manifest henvelope hm), fun _ hid => ?_⟩
    refine onlyMalformed_and.2 ⟨onlyMalformed_rawSegments henvelope, fun raw hraw => ?_⟩
    refine onlyMalformed_and.2 ⟨orderlySegments_iff.2 fun before x after table =>
      hvalue.segments manifest raw before x after table henvelope hm hid hraw, fun parsed hparsed => ?_⟩
    exact (orderlyContinuity_iff hparsed).2 (hvalue.continuity manifest raw parsed henvelope hm hid hraw hparsed)

theorem orderly_iff : OnlyMalformed (parse_metadata stack data ref) ↔ Orderly stack data ref := by
  unfold parse_metadata
  refine onlyMalformed_and.trans ?_
  rw [orderlyText_iff]
  have hrenderable : ∀ value, OrderlyText stack data → canonical_object stack data = .ok value →
      Renderable (.dict value) := by
    intro value htext hvalue
    rcases bind_ok.1 hvalue with ⟨v, hv, hrest⟩
    have hloads := (stack_loads_ok.1 (convert_ok.1 hv)).2
    split at hrest
    · rename_i entries
      rcases bind_ok.1 hrest with ⟨canonical, _, hrest⟩
      split at hrest
      · cases hrest
      · cases hrest
        exact (htext.object _ hloads).2
    · cases hrest
  constructor
  · rintro ⟨htext, hrest⟩
    exact ⟨htext, fun value hvalue => (orderlyValue_iff (hrenderable value htext hvalue)).1 (hrest value hvalue)⟩
  · intro h
    exact ⟨h.text, fun value hvalue => (orderlyValue_iff (hrenderable value h.text hvalue)).2 (h.value value hvalue)⟩

/-! ## The reader -/

/-- The bytes that the reader parses. -/
def metadataBytes (blobs : BlobReader) (ref : RecordingObjectRef) : Bytes :=
  (blobs.content ref.val.metadata_object).take (MAX_METADATA_BYTES + 1)

/-- The reader gets to the metadata: the formats are supported, the store has verified both
objects, and the bytes are those of the reference. -/
structure Served (blobs : BlobReader) (ref : RecordingObjectRef) : Prop where
  formats : checkFormats ref = .ok ()
  data : checkVerified blobs "data" ref.val.data_object = .ok ()
  metadata : checkVerified blobs "metadata" ref.val.metadata_object = .ok ()
  bytes : checkBytes ref (metadataBytes blobs ref) = .ok ()

theorem openRecording_iff {blobs : BlobReader} : OnlyMalformed (openRecording stack blobs ref) ↔
    (Served blobs ref → Orderly stack (metadataBytes blobs ref) ref) := by
  have hformats : OnlyMalformed (checkFormats ref) := by
    refine raisesOnly_checkAll ?_
    simp only [List.forall_mem_cons]
    exact ⟨onlyMalformed_raiseIf, onlyMalformed_raiseIf, nofun⟩
  have hbytes : OnlyMalformed (checkBytes ref (metadataBytes blobs ref)) := by
    refine raisesOnly_checkAll ?_
    simp only [List.forall_mem_cons]
    exact ⟨onlyMalformed_raiseIf, onlyMalformed_raiseIf, nofun⟩
  rw [← orderly_iff]
  unfold openRecording
  rw [onlyMalformed_bind hformats]
  constructor
  · intro h served
    have h := (onlyMalformed_bind onlyMalformed_raiseIf).1 (h () served.formats) () served.data
    have h := (onlyMalformed_bind onlyMalformed_raiseIf).1 h () served.metadata
    exact (onlyMalformed_bind hbytes).1 h () served.bytes
  · intro h _ formats
    refine (onlyMalformed_bind onlyMalformed_raiseIf).2 fun _ data => ?_
    refine (onlyMalformed_bind onlyMalformed_raiseIf).2 fun _ metadata => ?_
    exact (onlyMalformed_bind hbytes).2 fun _ bytes => h ⟨formats, data, metadata, bytes⟩

/-- Stack for anything. -/
def deepStack : Stack := ⟨fun _ => true, fun _ => true⟩

/-- `{"a":NaN}` -/
def nanMetadata : Bytes := [123, 34, 97, 34, 58, 78, 97, 78, 125]

def nanDigest : Digest := Digest.sha256 nanMetadata

def nanData : Checked ObjectRef.post_init :=
  ⟨⟨Digest.sha256 [], 8, str "application/octet-stream", str "leo-recording-data-v1", str "x"⟩, by decide +kernel⟩

def nanObject : Checked ObjectRef.post_init :=
  ⟨⟨nanDigest, 9, str "application/json", str "leo-recording-metadata-v1", str "y"⟩, by decide +kernel⟩

def nanRef : RecordingObjectRef :=
  ⟨⟨Sample.rec_1, nanData, nanObject, nanDigest⟩, by decide +kernel⟩

/-- A store that has verified everything and holds this metadata. -/
def nanBlobs : BlobReader := ⟨fun o => ⟨o, true⟩, fun _ => nanMetadata⟩

end RecordingCodec

end LeoFlow
