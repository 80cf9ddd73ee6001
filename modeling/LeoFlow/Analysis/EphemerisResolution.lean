import LeoFlow.Contracts.TrackingInput
import LeoFlow.Core.Extrema
import LeoFlow.Contracts.Samples

/-!
# LeoFlow.Analysis.EphemerisResolution — which archived snapshot a recording gets

`TemporalEphemerisResolver` of `analysis/ephemeris/resolver.py`, and the check that
`analysis/orbit/tracking_ephemeris.py` makes of its selections. A selection depends on the
eligible records only (`eligible_of_inserted`), and where a time and an identifier name one
record, not on their order.
-/

namespace LeoFlow

-- The order of `Int` that can be run: the one found first comes from its suprema.
local instance intPreorder : Preorder Int := Int.instLinearOrder.toPreorder

structure SnapshotRecord where
  snapshot_ref : EphemerisRef
  retrieval_completed_utc_ns : Int
deriving DecidableEq

namespace SnapshotRecord

/-- `(int(record.retrieval_completed_utc_ns), str(record.snapshot_ref.snapshot_id))` -/
def key (record : SnapshotRecord) : Int ×ₗ PyStr :=
  toLex (record.retrieval_completed_utc_ns, record.snapshot_ref.snapshot_id.value)

end SnapshotRecord

/-- `TemporalEphemerisResolver`: `best_ephemeris` is refused when it is built. -/
structure TemporalEphemerisResolver where
  history : List SnapshotRecord
  policy : EphemerisSelectionPolicy
  supported : policy ≠ .BEST_EPHEMERIS

namespace TemporalEphemerisResolver

/-- `TemporalEphemerisResolver(history, policy)` -/
def make (history : List SnapshotRecord) (policy : EphemerisSelectionPolicy) :
    Except PyError TemporalEphemerisResolver :=
  if h : policy = .BEST_EPHEMERIS then
    .error ⟨.unsupported_selection_policy_error,
      "best_ephemeris lacks a frozen objective, lookahead, and tie-break"⟩
  else .ok ⟨history, policy, h⟩

/-- The value of the source as a text of the error. -/
def sourceText : EphemerisSource → String
  | .SPACE_TRACK => "space-track"
  | .HUGGING_FACE => "huggingface"

/-- The value of the policy as a text of the error. -/
def policyText : EphemerisSelectionPolicy → String
  | .AVAILABLE_THEN => "available_then"
  | .FIRST_AFTER => "first_after"
  | .BEST_EPHEMERIS => "best_ephemeris"

variable (resolver : TemporalEphemerisResolver) (source : EphemerisSource) (recording_interval : RecordingInterval)
  (policy_ref : ArtifactRef) (as_of_utc_ns : Int)

/-- The records of the source that had been retrieved. -/
def known : List SnapshotRecord :=
  resolver.history.filter fun record =>
    record.snapshot_ref.source = source ∧ record.retrieval_completed_utc_ns ≤ as_of_utc_ns

/-- `selected` -/
def selected : Except PyError (Option SnapshotRecord) :=
  let history := resolver.known source as_of_utc_ns
  match resolver.policy with
  | .AVAILABLE_THEN =>
    let eligible := history.filter fun record =>
      record.retrieval_completed_utc_ns ≤ recording_interval.val.started_utc_ns
    .ok (eligible.argmax SnapshotRecord.key)
  | .FIRST_AFTER =>
    let eligible := history.filter fun record =>
      recording_interval.val.finished_utc_ns < record.retrieval_completed_utc_ns
    .ok (eligible.argmin SnapshotRecord.key)
  | .BEST_EPHEMERIS =>
    .error ⟨.unsupported_selection_policy_error, "EphemerisSelectionPolicy.BEST_EPHEMERIS"⟩

/-- `resolve` -/
def resolve : Except PyError EphemerisSelection := do
  match ← resolver.selected source recording_interval as_of_utc_ns with
  | none => .error ⟨.no_ephemeris_selection_error,
      "no " ++ sourceText source ++ " snapshot satisfies " ++ policyText resolver.policy⟩
  | some selected => Checked.make EphemerisSelection.Fields.post_init {
      source, policy := resolver.policy, policy_ref, snapshot_ref := selected.snapshot_ref, as_of_utc_ns }

end TemporalEphemerisResolver

/-- `_verify_temporal_policy`, of a snapshot with this retrieval time -/
def verifyTemporalPolicy (entry : TrackingInputEntry) (retrieved : Int) : Except PyError Unit :=
  let selection := entry.val.ephemeris_link.val.selection.val
  let interval := entry.val.recording_interval.val
  let refuse (message : String) : PyError := ⟨.tracking_ephemeris_materialization_error, message⟩
  checkAll [
    raiseIf (selection.as_of_utc_ns < retrieved)
      (refuse "ephemeris snapshot was not available at the frozen as-of time"),
    raiseIf (selection.policy = .AVAILABLE_THEN ∧ interval.started_utc_ns < retrieved)
      (refuse "available_then snapshot was retrieved after recording start"),
    raiseIf (selection.policy = .FIRST_AFTER ∧ retrieved ≤ interval.finished_utc_ns)
      (refuse "first_after snapshot was not retrieved after recording finish")]

namespace TemporalEphemerisResolver

/-! ## Eligible records -/

section Resolve

variable {resolver : TemporalEphemerisResolver} {source : EphemerisSource} {recording_interval : RecordingInterval}
  {policy_ref : ArtifactRef} {as_of_utc_ns : Int} {history history' : List SnapshotRecord} {record : SnapshotRecord}

/-- What the policy asks of the retrieval time. -/
def MeetsPolicy (policy : EphemerisSelectionPolicy) (recording_interval : RecordingInterval)
    (retrieved : Int) : Prop :=
  (policy = .AVAILABLE_THEN → retrieved ≤ recording_interval.val.started_utc_ns) ∧
    (policy = .FIRST_AFTER → recording_interval.val.finished_utc_ns < retrieved)

instance (policy : EphemerisSelectionPolicy) (recording_interval : RecordingInterval) (retrieved : Int) :
    Decidable (MeetsPolicy policy recording_interval retrieved) :=
  inferInstanceAs (Decidable ((_ → _) ∧ (_ → _)))

/-- The records that a selection is made of. -/
@[reducible] def Eligible (resolver : TemporalEphemerisResolver) (source : EphemerisSource)
    (recording_interval : RecordingInterval) (as_of_utc_ns : Int) (record : SnapshotRecord) : Prop :=
  record.snapshot_ref.source = source ∧ record.retrieval_completed_utc_ns ≤ as_of_utc_ns ∧
    MeetsPolicy resolver.policy recording_interval record.retrieval_completed_utc_ns

/-- The best of the records, by the policy. -/
def best (policy : EphemerisSelectionPolicy) (eligible : List SnapshotRecord) : Option SnapshotRecord :=
  if policy = .AVAILABLE_THEN then eligible.argmax SnapshotRecord.key else eligible.argmin SnapshotRecord.key

theorem selected_eq : resolver.selected source recording_interval as_of_utc_ns =
    .ok (best resolver.policy
      (resolver.history.filter fun record => Eligible resolver source recording_interval as_of_utc_ns record)) := by
  have heligible : ∀ p : Int → Prop, [DecidablePred p] →
      (∀ t, p t ↔ MeetsPolicy resolver.policy recording_interval t) →
      ((resolver.known source as_of_utc_ns).filter fun record => p record.retrieval_completed_utc_ns) =
        resolver.history.filter fun record => Eligible resolver source recording_interval as_of_utc_ns record := by
    intro p _ hp
    unfold known
    rw [List.filter_filter]
    refine List.filter_congr fun record _ => ?_
    rw [← Bool.decide_and, decide_eq_decide, hp]
    unfold Eligible
    tauto
  unfold selected best
  dsimp only
  split
  · rename_i hpolicy
    rw [heligible (· ≤ recording_interval.val.started_utc_ns) (fun t => by simp [MeetsPolicy, hpolicy]), if_pos hpolicy]
  · rename_i hpolicy
    rw [heligible (recording_interval.val.finished_utc_ns < ·) (fun t => by simp [MeetsPolicy, hpolicy]),
      if_neg (by rw [hpolicy]; decide)]
  · rename_i hpolicy
    exact absurd hpolicy resolver.supported

theorem mem_of_best {policy : EphemerisSelectionPolicy} (h : best policy history = some record) : record ∈ history := by
  unfold best at h
  split at h
  · exact List.argmax_mem h
  · exact List.argmin_mem h

/-- A history with records added anywhere. -/
inductive Inserted (added : SnapshotRecord → Prop) : List SnapshotRecord → List SnapshotRecord → Prop where
  | nil : Inserted added [] []
  | keep (record : SnapshotRecord) {history history' : List SnapshotRecord} (h : Inserted added history history') :
      Inserted added (record :: history) (record :: history')
  | add {record : SnapshotRecord} (hrecord : added record) {history history' : List SnapshotRecord}
      (h : Inserted added history history') : Inserted added history (record :: history')

/-- Records that are not looked at may be added. -/
theorem filter_of_inserted {added p : SnapshotRecord → Prop} [DecidablePred p] (hadded : ∀ r, added r → ¬p r)
    (h : Inserted added history history') : history'.filter (fun r => p r) = history.filter (fun r => p r) := by
  induction h with
  | nil => rfl
  | keep record _ ih => rw [List.filter_cons, List.filter_cons, ih]
  | add hrecord _ ih => rw [List.filter_cons_of_neg (by simpa using hadded _ hrecord), ih]

/-- A time and an identifier name one record of the source. -/
def Unambiguous (source : EphemerisSource) (history : List SnapshotRecord) : Prop :=
  ∀ a ∈ history, ∀ b ∈ history, a.snapshot_ref.source = source → b.snapshot_ref.source = source →
    a.retrieval_completed_utc_ns = b.retrieval_completed_utc_ns →
      a.snapshot_ref.snapshot_id = b.snapshot_ref.snapshot_id → a = b

theorem best_perm {policy : EphemerisSelectionPolicy} (hperm : history'.Perm history)
    (hkey : ∀ a ∈ history, ∀ b ∈ history, a.key = b.key → a = b) : best policy history' = best policy history := by
  unfold best
  split
  · exact (argmax_perm hperm.symm hkey).symm
  · exact (argmin_perm hperm.symm hkey).symm

/-- What a selection was made of. -/
theorem resolve_ok {selection : EphemerisSelection}
    (h : resolver.resolve source recording_interval policy_ref as_of_utc_ns = .ok selection) :
    ∃ record ∈ resolver.history, Eligible resolver source recording_interval as_of_utc_ns record ∧
      selection.val = {
        source, policy := resolver.policy, policy_ref, snapshot_ref := record.snapshot_ref, as_of_utc_ns } := by
  unfold resolve at h
  rw [selected_eq] at h
  rcases bind_ok.1 h with ⟨chosen, hchosen, hmake⟩
  cases hchosen
  split at hmake
  · cases hmake
  · rename_i record hbest
    rcases List.mem_filter.1 (mem_of_best hbest) with ⟨hmem, heligible⟩
    exact ⟨record, hmem, of_decide_eq_true heligible, Checked.val_of_make hmake⟩

end Resolve

/-- The outcome of a resolution does not change with later records, records of other sources, or the order of the
history where a time and an identifier name one record; and every selection passes the check made afterwards. -/
theorem resolution_stable (resolver : TemporalEphemerisResolver) (source : EphemerisSource)
    (recording_interval : RecordingInterval) (policy_ref : ArtifactRef) (as_of_utc_ns : Int) :
    (∀ history', Inserted (fun record => as_of_utc_ns < record.retrieval_completed_utc_ns ∨
        resolver.policy = .AVAILABLE_THEN ∧ recording_interval.val.started_utc_ns < record.retrieval_completed_utc_ns ∨
        record.snapshot_ref.source ≠ source) resolver.history history' →
      { resolver with history := history' }.resolve source recording_interval policy_ref as_of_utc_ns =
        resolver.resolve source recording_interval policy_ref as_of_utc_ns) ∧
      (Unambiguous source resolver.history → ∀ history', history'.Perm resolver.history →
        { resolver with history := history' }.resolve source recording_interval policy_ref as_of_utc_ns =
          resolver.resolve source recording_interval policy_ref as_of_utc_ns) ∧
      ∀ selection, resolver.resolve source recording_interval policy_ref as_of_utc_ns = .ok selection →
        ∃ record ∈ resolver.history, record.snapshot_ref = selection.val.snapshot_ref ∧
          ∀ entry : TrackingInputEntry, entry.val.ephemeris_link.val.selection = selection →
            entry.val.recording_interval = recording_interval →
              verifyTemporalPolicy entry record.retrieval_completed_utc_ns = .ok () := by
  refine ⟨?_, ?_, ?_⟩
  · intro history' hinserted
    unfold resolve
    rw [selected_eq, selected_eq]
    have hfilter := filter_of_inserted
      (p := fun record => Eligible resolver source recording_interval as_of_utc_ns record) (fun record hadded => by
        rintro ⟨hsource, hknown, hpolicy, _⟩
        rcases hadded with hlate | ⟨havailable, hlate⟩ | hother
        · omega
        · have hstarted := hpolicy havailable
          omega
        · exact hother hsource) hinserted
    exact congrArg (fun eligible => Except.ok (best resolver.policy eligible) >>= _) hfilter
  · intro hunambiguous history' hperm
    unfold resolve
    rw [selected_eq, selected_eq]
    refine congrArg (fun chosen => Except.ok chosen >>= _) (best_perm (hperm.filter _) ?_)
    intro a ha b hb hkey
    rcases List.mem_filter.1 ha with ⟨ha, heligible⟩
    rcases List.mem_filter.1 hb with ⟨hb, heligible'⟩
    have htime : a.retrieval_completed_utc_ns = b.retrieval_completed_utc_ns := congrArg (fun k => (ofLex k).1) hkey
    have hid : a.snapshot_ref.snapshot_id.value = b.snapshot_ref.snapshot_id.value :=
      congrArg (fun k => (ofLex k).2) hkey
    refine hunambiguous a ha b hb (of_decide_eq_true heligible).1 (of_decide_eq_true heligible').1 htime ?_
    cases hida : a.snapshot_ref.snapshot_id
    cases hidb : b.snapshot_ref.snapshot_id
    rw [hida, hidb] at hid
    cases hid
    rfl
  · intro selection hselection
    rcases resolve_ok hselection with ⟨record, hmem, ⟨_, hknown, havailable, hafter⟩, hval⟩
    refine ⟨record, hmem, by rw [hval], ?_⟩
    intro entry hentry hinterval
    unfold verifyTemporalPolicy
    simp only [hentry, hinterval, hval, checkAll_cons, checkAll_nil, raiseIf_ok]
    refine ⟨by omega, ?_, ?_, trivial⟩
    · rintro ⟨hpolicy, hlate⟩
      have hstarted := havailable hpolicy
      omega
    · rintro ⟨hpolicy, hearly⟩
      have hfinished := hafter hpolicy
      omega

/-! ### One identifier for two records -/

/-- A record of one provider, by its raw bytes. -/
def exampleRecord (raw : Digest) : SnapshotRecord where
  snapshot_ref := ⟨⟨str "eph_1", by decide, by decide⟩, .SPACE_TRACK, raw, Sample.zeros⟩
  retrieval_completed_utc_ns := 5

def exampleHistory : List SnapshotRecord := [
  exampleRecord Sample.zeros,
  exampleRecord Sample.ones]

def exampleInterval : RecordingInterval := ⟨⟨10, 20⟩, by decide⟩

def examplePolicyRef : ArtifactRef := ⟨str "policy", Sample.zeros, none, by decide⟩

/-- Where two records have one time and one identifier, the first is selected. -/
theorem order_can_matter :
    exampleHistory.reverse.Perm exampleHistory ∧
      (TemporalEphemerisResolver.mk exampleHistory.reverse .AVAILABLE_THEN (by decide)).resolve
          .SPACE_TRACK exampleInterval examplePolicyRef 30 ≠
        (TemporalEphemerisResolver.mk exampleHistory .AVAILABLE_THEN (by decide)).resolve
          .SPACE_TRACK exampleInterval examplePolicyRef 30 := by
  refine ⟨List.reverse_perm _, fun hsame => ?_⟩
  have hselected := congrArg (fun x => x.toOption.map fun s => s.val.snapshot_ref.raw_digest) hsame
  exact absurd hselected (by decide +kernel)

end TemporalEphemerisResolver

end LeoFlow
