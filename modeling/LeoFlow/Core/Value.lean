import LeoFlow.Core.Float

/-!
# LeoFlow.Core.Value — Python values and exceptions

The values that reach a serializer: JSON-like data, tuples, and dataclass
instances. `PyValue.eq` is Python's `==` on them.
-/

namespace LeoFlow

/-- Exception classes. -/
inductive ErrorKind where
  | value_error
  /-- `UnicodeEncodeError`, a `ValueError` -/
  | unicode_encode_error
  /-- `UnicodeDecodeError`, a `ValueError` -/
  | unicode_decode_error
  /-- `json.JSONDecodeError`, a `ValueError` -/
  | json_decode_error
  | type_error
  | key_error
  | overflow_error
  | runtime_error
  | recording_codec_error
  /-- `MalformedRecordingError`, a `RecordingCodecError` -/
  | malformed_recording_error
  | os_error
  /-- `sqlite3.IntegrityError` -/
  | integrity_error
  /-- `sqlite3.OperationalError` -/
  | operational_error
  | radio_configuration_error
  | writer_identity_error
  | continuity_error
  | stop_iteration
  | assertion_error
  | index_error
  /-- `ServiceLifecycleError`, a `RuntimeError` -/
  | service_lifecycle_error
  /-- `DatasetPromotionError`, a `ValueError` -/
  | dataset_promotion_error
  /-- `CampaignValidationError`, a `ValueError` -/
  | campaign_validation_error
  /-- `CaptureBatchDocumentError`, a `ValueError` -/
  | capture_batch_document_error
  /-- `MalformedFeatureSetError`, a `ValueError` -/
  | malformed_feature_set_error
  /-- `MalformedWaterfallError`, a `ValueError` -/
  | malformed_waterfall_error
  /-- `MalformedTrackingInputError`, a `ValueError` -/
  | malformed_tracking_input_error
  /-- `MalformedTrackingModelSnapshotError`, a `ValueError` -/
  | malformed_tracking_model_snapshot_error
  /-- `TrackingInputBuildError`, a `ValueError` -/
  | tracking_input_build_error
  /-- `TLEFormatError`, a `ValueError` -/
  | tle_format_error
  /-- `SupervisorPreflightError`, a `RuntimeError` -/
  | supervisor_preflight_error
  /-- `SupervisorStateError`, a `RuntimeError` -/
  | supervisor_state_error
  /-- `DwellCaptureScheduleError`, a `RuntimeError` -/
  | dwell_capture_schedule_error
  /-- `LocalRecordingSecurityError`, a `RuntimeError` -/
  | local_recording_security_error
  /-- `LocalRecordingNotFinalizedError`, a `RuntimeError` -/
  | local_recording_not_finalized_error
  /-- `LegacyRecordingError`, a `RuntimeError` -/
  | legacy_recording_error
  /-- `UnsupportedLegacyRecordingError`, a `LegacyRecordingError` -/
  | unsupported_legacy_recording_error
  /-- `NoEphemerisSelectionError`, a `LookupError` -/
  | no_ephemeris_selection_error
  /-- `UnsupportedSelectionPolicyError`, a `ValueError` -/
  | unsupported_selection_policy_error
  /-- `TrackingEphemerisMaterializationError`, a `ValueError` -/
  | tracking_ephemeris_materialization_error
  /-- `AnalysisInputError`, a `ValueError` -/
  | analysis_input_error
  /-- `AnalysisConfigurationError`, a `ValueError` -/
  | analysis_configuration_error
  /-- `StarlinkFullDwellNotFoundError`, a `LookupError` -/
  | starlink_full_dwell_not_found_error
  /-- `JobConflictError`, a `RuntimeError` -/
  | job_conflict_error
  | zero_division_error
  /-- `RecursionError`, a `RuntimeError` -/
  | recursion_error
  /-- `KeyboardInterrupt`, which is no `Exception` -/
  | keyboard_interrupt
deriving DecidableEq

/-- `type(error).__name__` -/
def ErrorKind.name : ErrorKind → String
  | value_error => "ValueError"
  | unicode_encode_error => "UnicodeEncodeError"
  | unicode_decode_error => "UnicodeDecodeError"
  | json_decode_error => "JSONDecodeError"
  | type_error => "TypeError"
  | key_error => "KeyError"
  | overflow_error => "OverflowError"
  | runtime_error => "RuntimeError"
  | recording_codec_error => "RecordingCodecError"
  | malformed_recording_error => "MalformedRecordingError"
  | os_error => "OSError"
  | integrity_error => "IntegrityError"
  | operational_error => "OperationalError"
  | radio_configuration_error => "RadioConfigurationError"
  | writer_identity_error => "WriterIdentityError"
  | continuity_error => "ContinuityError"
  | stop_iteration => "StopIteration"
  | assertion_error => "AssertionError"
  | index_error => "IndexError"
  | service_lifecycle_error => "ServiceLifecycleError"
  | dataset_promotion_error => "DatasetPromotionError"
  | campaign_validation_error => "CampaignValidationError"
  | capture_batch_document_error => "CaptureBatchDocumentError"
  | malformed_feature_set_error => "MalformedFeatureSetError"
  | malformed_waterfall_error => "MalformedWaterfallError"
  | malformed_tracking_input_error => "MalformedTrackingInputError"
  | malformed_tracking_model_snapshot_error => "MalformedTrackingModelSnapshotError"
  | tracking_input_build_error => "TrackingInputBuildError"
  | tle_format_error => "TLEFormatError"
  | supervisor_preflight_error => "SupervisorPreflightError"
  | supervisor_state_error => "SupervisorStateError"
  | dwell_capture_schedule_error => "DwellCaptureScheduleError"
  | local_recording_security_error => "LocalRecordingSecurityError"
  | local_recording_not_finalized_error => "LocalRecordingNotFinalizedError"
  | legacy_recording_error => "LegacyRecordingError"
  | unsupported_legacy_recording_error => "UnsupportedLegacyRecordingError"
  | no_ephemeris_selection_error => "NoEphemerisSelectionError"
  | unsupported_selection_policy_error => "UnsupportedSelectionPolicyError"
  | tracking_ephemeris_materialization_error => "TrackingEphemerisMaterializationError"
  | analysis_input_error => "AnalysisInputError"
  | analysis_configuration_error => "AnalysisConfigurationError"
  | starlink_full_dwell_not_found_error => "StarlinkFullDwellNotFoundError"
  | job_conflict_error => "JobConflictError"
  | zero_division_error => "ZeroDivisionError"
  | recursion_error => "RecursionError"
  | keyboard_interrupt => "KeyboardInterrupt"

/-- `except Exception` -/
@[reducible] def ErrorKind.IsException (k : ErrorKind) : Prop := k ≠ .keyboard_interrupt

/-- `except ValueError` -/
@[reducible] def ErrorKind.IsValueError (k : ErrorKind) : Prop :=
  k = .value_error ∨ k = .unicode_encode_error ∨ k = .unicode_decode_error ∨ k = .json_decode_error ∨
    k = .dataset_promotion_error ∨ k = .campaign_validation_error ∨ k = .capture_batch_document_error ∨
    k = .malformed_feature_set_error ∨ k = .malformed_waterfall_error ∨ k = .malformed_tracking_input_error ∨
    k = .malformed_tracking_model_snapshot_error ∨ k = .tracking_input_build_error ∨ k = .tle_format_error ∨
    k = .unsupported_selection_policy_error ∨ k = .tracking_ephemeris_materialization_error ∨
    k = .analysis_input_error ∨ k = .analysis_configuration_error

/-- A raised exception. -/
structure PyError where
  kind : ErrorKind
  message : String
deriving DecidableEq

namespace PyError

def value (message : String) : PyError := ⟨.value_error, message⟩

def type (message : String) : PyError := ⟨.type_error, message⟩

def malformed (message : String) : PyError := ⟨.malformed_recording_error, message⟩

def json (message : String) : PyError := ⟨.json_decode_error, message⟩

end PyError

/-- Only exceptions of the classes in `P` are raised. -/
def RaisesOnly (P : ErrorKind → Prop) {α : Type} (x : Except PyError α) : Prop :=
  ∀ e, x = .error e → P e.kind

section RaisesOnly

variable {P : ErrorKind → Prop} {α β : Type}

theorem raisesOnly_ok (a : α) : RaisesOnly P (.ok a : Except PyError α) := by
  intro e he
  cases he

theorem raisesOnly_error {e : PyError} (h : P e.kind) : RaisesOnly P (.error e : Except PyError α) := by
  intro e' he
  cases he
  exact h

theorem raisesOnly_map {x : Except PyError α} {f : α → β} (h : RaisesOnly P x) : RaisesOnly P (x.map f) := by
  intro e he
  cases x with
  | error e' =>
    cases he
    exact h _ rfl
  | ok a => cases he

theorem raisesOnly_bind {x : Except PyError α} {f : α → Except PyError β} :
    RaisesOnly P (x >>= f) ↔ RaisesOnly P x ∧ ∀ a, x = .ok a → RaisesOnly P (f a) := by
  constructor
  · intro h
    refine ⟨?_, ?_⟩
    · rintro e rfl
      exact h e rfl
    · rintro a rfl
      exact h
  · rintro ⟨hx, hf⟩ e he
    cases x with
    | error e' =>
      cases he
      exact hx _ rfl
    | ok a => exact hf a rfl e he

theorem raisesOnly_mapM {f : α → Except PyError β} {xs : List α} (h : ∀ x ∈ xs, RaisesOnly P (f x)) :
    RaisesOnly P (xs.mapM f) := by
  induction xs with
  | nil => exact raisesOnly_ok []
  | cons x xs ih =>
    rw [List.mapM_cons]
    refine raisesOnly_bind.2 ⟨h x List.mem_cons_self, fun y _ => raisesOnly_bind.2 ⟨?_, fun ys _ => ?_⟩⟩
    · exact ih fun x hx => h x (List.mem_cons_of_mem _ hx)
    · exact raisesOnly_ok _

end RaisesOnly

/-- A Python value. A `record` is an instance of the named dataclass. -/
inductive PyValue where
  | none
  | bool (b : Bool)
  | int (n : Int)
  | float (f : PyFloat)
  | str (s : PyStr)
  | list (items : List PyValue)
  | tuple (items : List PyValue)
  | dict (items : List (PyStr × PyValue))
  | record (cls : String) (fields : List (PyStr × PyValue))

/-- The number of a numeric value; `bool` is an `int`. -/
inductive Num where
  | int (n : Int)
  | float (f : PyFloat)
deriving DecidableEq

/-- `==` on numbers is exact. -/
@[reducible] def Num.Eq : Num → Num → Prop
  | .int a, .int b => a = b
  | .int a, .float g => g.EqInt a
  | .float f, .int b => f.EqInt b
  | .float f, .float g => f.Eq g

instance (a b : Num) : Decidable (a.Eq b) := by
  cases a <;> cases b <;> unfold Num.Eq <;> infer_instance

namespace PyValue

/-- Induction over values, with the hypothesis for every item of a container. -/
@[elab_as_elim, induction_eliminator]
theorem induction {P : PyValue → Prop} (none : P none) (bool : ∀ b, P (bool b)) (int : ∀ n, P (int n))
    (float : ∀ f, P (float f)) (str : ∀ s, P (str s))
    (list : ∀ items, (∀ v ∈ items, P v) → P (list items))
    (tuple : ∀ items, (∀ v ∈ items, P v) → P (tuple items))
    (dict : ∀ items, (∀ x ∈ items, P x.2) → P (dict items))
    (record : ∀ cls fields, (∀ x ∈ fields, P x.2) → P (record cls fields)) (v : PyValue) : P v := by
  refine @PyValue.rec P (fun items => ∀ v ∈ items, P v) (fun items => ∀ x ∈ items, P x.2)
    (fun x => P x.2) none bool int float str list tuple dict record ?_ ?_ ?_ ?_ ?_ v
  · intro v hv
    cases hv
  · intro v vs hv hvs w hw
    rcases List.mem_cons.1 hw with rfl | hw
    · exact hv
    · exact hvs w hw
  · intro x hx
    cases hx
  · intro x xs hx hxs y hy
    rcases List.mem_cons.1 hy with rfl | hy
    · exact hx
    · exact hxs y hy
  · intro _ _ hv
    exact hv

def num : PyValue → Option Num
  | bool b => some (.int (if b then 1 else 0))
  | int n => some (.int n)
  | float f => some (.float f)
  | _ => Option.none

mutual

/-- `a == b` -/
def eq : PyValue → PyValue → Bool
  | none, none => true
  | str a, str b => decide (a = b)
  | list as, list bs => eqItems as bs
  | tuple as, tuple bs => eqItems as bs
  | dict as, dict bs => decide (as.length = bs.length) && eqEntries as bs
  | record c as, record c' bs => decide (c = c') && eqFields as bs
  | bool b, v => eqNum (.int (if b then 1 else 0)) v
  | int n, v => eqNum (.int n) v
  | float f, v => eqNum (.float f) v
  | _, _ => false

/-- A number against any value. -/
def eqNum (a : Num) (v : PyValue) : Bool :=
  match v.num with
  | some b => decide (a.Eq b)
  | Option.none => false

/-- Sequences, item by item. -/
def eqItems : List PyValue → List PyValue → Bool
  | [], [] => true
  | a :: as, b :: bs => eq a b && eqItems as bs
  | _, _ => false

/-- Every entry of one dictionary has its equal in the other. -/
def eqEntries : List (PyStr × PyValue) → List (PyStr × PyValue) → Bool
  | [], _ => true
  | (k, a) :: as, bs =>
    (match bs.lookup k with
    | some b => eq a b
    | Option.none => false) && eqEntries as bs

/-- Fields of two instances of one dataclass, in order. -/
def eqFields : List (PyStr × PyValue) → List (PyStr × PyValue) → Bool
  | [], [] => true
  | (k, a) :: as, (k', b) :: bs => decide (k = k') && (eq a b && eqFields as bs)
  | _, _ => false

end

mutual

/-- A value that Python can hold: no dictionary repeats a key, no class a field. -/
def Valid : PyValue → Prop
  | list items | tuple items => ValidItems items
  | dict items | record _ items => (items.map Prod.fst).Nodup ∧ ValidEntries items
  | _ => True

def ValidItems : List PyValue → Prop
  | [] => True
  | v :: vs => Valid v ∧ ValidItems vs

def ValidEntries : List (PyStr × PyValue) → Prop
  | [] => True
  | x :: xs => Valid x.2 ∧ ValidEntries xs

end

theorem validItems_iff (items : List PyValue) : ValidItems items ↔ ∀ v ∈ items, Valid v := by
  induction items with
  | nil => simp [ValidItems]
  | cons v vs ih => simp [ValidItems, ih]

theorem validEntries_iff (items : List (PyStr × PyValue)) :
    ValidEntries items ↔ ∀ x ∈ items, Valid x.2 := by
  induction items with
  | nil => simp [ValidEntries]
  | cons x xs ih => simp [ValidEntries, ih]

/-- Validity can be computed. -/
def validDecision : (v : PyValue) → Decidable v.Valid := fun v =>
  match v with
  | none | bool _ | int _ | float _ | str _ => inferInstanceAs (Decidable True)
  | list items | tuple items => itemsDecision items
  | dict items | record _ items => @instDecidableAnd _ _ inferInstance (entriesDecision items)
where
  itemsDecision : (items : List PyValue) → Decidable (ValidItems items)
    | [] => inferInstanceAs (Decidable True)
    | v :: vs => @instDecidableAnd _ _ (validDecision v) (itemsDecision vs)
  entriesDecision : (items : List (PyStr × PyValue)) → Decidable (ValidEntries items)
    | [] => inferInstanceAs (Decidable True)
    | (_, v) :: xs => @instDecidableAnd _ _ (validDecision v) (entriesDecision xs)

instance : DecidablePred Valid := validDecision

/-- `d[key] = value`: an existing key keeps its place. -/
def setItem (items : List (PyStr × PyValue)) (key : PyStr) (value : PyValue) :
    List (PyStr × PyValue) :=
  match items with
  | [] => [(key, value)]
  | (k, v) :: rest => if k = key then (key, value) :: rest else (k, v) :: setItem rest key value

end PyValue

end LeoFlow
