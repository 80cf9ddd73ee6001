import LeoFlow.Contracts.Capture

/-!
# LeoFlow.Analysis.Dataset — carving a dataset into splits

`analysis/dataset/api.py`. `carve_dataset` places every candidate in the split of its group.
-/

namespace LeoFlow

inductive DatasetSplit where
  | train
  | validation
  | locked_test
deriving DecidableEq

namespace DatasetSplit

def value : DatasetSplit → PyStr
  | train => str "train"
  | validation => str "validation"
  | locked_test => str "locked_test"

/-- The members of the enumeration in its order. -/
def all : List DatasetSplit := [train, validation, locked_test]

/-- `split_order` -/
def order : DatasetSplit → Nat
  | train => 0
  | validation => 1
  | locked_test => 2

theorem value_injective {s t : DatasetSplit} (h : s.value = t.value) : s = t := by
  cases s <;> cases t <;> first | rfl | (revert h; decide)

end DatasetSplit

inductive LabelSource where
  | observed
  | manual
  | injected
  | ephemeris_derived
  | pseudo_label
  | unlabeled
deriving DecidableEq

def LabelSource.value : LabelSource → PyStr
  | observed => str "observed"
  | manual => str "manual"
  | injected => str "injected"
  | ephemeris_derived => str "ephemeris_derived"
  | pseudo_label => str "pseudo_label"
  | unlabeled => str "unlabeled"

/-! ## Labels -/

structure LabelEvidence.Fields where
  source : LabelSource
  evidence_digest : Digest
  producer_id : PyStr
  produced_utc_ns : Int
  independent_of_method_ids : List PyStr
  uncertainty : List (PyStr × PyStr)
  base_recording_digest : Option Digest
  injection_spec_digest : Option Digest
deriving DecidableEq

def LabelEvidence.Fields.post_init (e : LabelEvidence.Fields) : Except PyError Unit :=
  checkAll [
    raiseIf (e.producer_id = [] ∨ ∃ c ∈ e.producer_id, IsWhitespace c) (.value "producer_id must be a token"),
    raiseIf (e.produced_utc_ns < 0) (.value "produced_utc_ns must be non-negative"),
    raiseIf (¬e.independent_of_method_ids.Nodup) (.value "independent method IDs must be unique"),
    raiseIf (e.source = .injected ∧ ¬(e.base_recording_digest ≠ none ∧ e.injection_spec_digest ≠ none))
      (.value "injected truth must pin base recording and injection spec"),
    raiseIf (e.source ≠ .injected ∧ (e.base_recording_digest ≠ none ∨ e.injection_spec_digest ≠ none))
      (.value "only injected truth may carry injection lineage")]

abbrev LabelEvidence := Checked LabelEvidence.Fields.post_init

/-- `0.0 <= f <= 1.0` -/
@[reducible] def PyFloat.IsProbability : PyFloat → Prop
  | .finite negative m e _ => m = 0 ∨ negative = false ∧ m * 2 ^ e.toNat ≤ 2 ^ (-e).toNat
  | _ => False

instance (f : PyFloat) : Decidable f.IsProbability :=
  match f with
  | .nan => inferInstanceAs (Decidable False)
  | .inf _ => inferInstanceAs (Decidable False)
  | .finite negative m e _ =>
    inferInstanceAs (Decidable (m = 0 ∨ negative = false ∧ m * 2 ^ e.toNat ≤ 2 ^ (-e).toNat))

structure TruthLabel.Fields where
  target_present : Option Bool
  source : LabelSource
  evidence : List LabelEvidence
  confidence : Option PyFloat
deriving DecidableEq

def TruthLabel.Fields.post_init (t : TruthLabel.Fields) : Except PyError Unit :=
  checkAll [
    raiseIf (t.evidence = []) (.value "label must carry evidence"),
    raiseIf (∃ item ∈ t.evidence, item.val.source ≠ t.source) (.value "label and evidence sources differ"),
    raiseIf (t.source = .unlabeled ∧ t.target_present ≠ none)
      (.value "unlabeled data cannot be positive or negative"),
    raiseIf (t.source ≠ .unlabeled ∧ t.target_present = none)
      (.value "labeled data must state target presence"),
    raiseIf (∃ f ∈ t.confidence, ¬f.IsProbability) (.value "confidence must lie in [0, 1]")]

abbrev TruthLabel := Checked TruthLabel.Fields.post_init

@[reducible] def TruthLabel.UsableAsTruthFor (t : TruthLabel) (evaluated_method_id : PyStr) : Prop :=
  t.val.source ∉ [LabelSource.unlabeled, .pseudo_label, .ephemeris_derived] ∧
    ∀ evidence ∈ t.val.evidence, evaluated_method_id ∈ evidence.val.independent_of_method_ids

/-! ## Candidates -/

structure DatasetCandidate.Fields where
  feature_set_id : PyStr
  feature_set_digest : Digest
  recording_id : PyStr
  split_group_id : PyStr
  captured_utc_ns : Int
  radio_id : PyStr
  lnb_ids : List PyStr
  observation_mode : PyStr
  sample_rate_hz : Int
  gain_mode : PyStr
  gain_db : Option PyStr
  satellite_id : Option PyStr
  truth : TruthLabel
  scored_truth : Bool
  derived_from_recording_id : Option PyStr
deriving DecidableEq

def DatasetCandidate.Fields.post_init (c : DatasetCandidate.Fields) : Except PyError Unit :=
  checkAll [
    raiseIf (c.feature_set_id = []) (.value "feature_set_id must be non-empty"),
    raiseIf (c.recording_id = []) (.value "recording_id must be non-empty"),
    raiseIf (c.split_group_id = []) (.value "split_group_id must be non-empty"),
    raiseIf (c.radio_id = []) (.value "radio_id must be non-empty"),
    raiseIf (c.captured_utc_ns < 0 ∨ c.sample_rate_hz ≤ 0)
      (.value "capture time and sample rate must be valid"),
    raiseIf (c.lnb_ids = [] ∨ ¬c.lnb_ids.Nodup) (.value "lnb_ids must be non-empty and unique")]

abbrev DatasetCandidate := Checked DatasetCandidate.Fields.post_init

/-! ## Diagnostics -/

structure SplitDiagnostics where
  candidate_count : Nat
  group_count : Nat
  by_split : List (PyStr × Nat)
  strata : List (PyStr × List (PyStr × List (PyStr × Nat)))
  warnings : List String
deriving DecidableEq

/-- `Counter(values)`, as its sorted items. -/
def sortedCounts (values : List PyStr) : List (PyStr × Nat) :=
  (values.dedup.insertionSort (· ≤ ·)).map fun value => (value, values.count value)

/-- One dimension: for every value the counts of the splits it occurs in. -/
def stratum (occurrences : List (PyStr × PyStr)) : List (PyStr × List (PyStr × Nat)) :=
  ((occurrences.map (·.1)).dedup.insertionSort (· ≤ ·)).map fun value =>
    (value, sortedCounts ((occurrences.filter (·.1 = value)).map (·.2)))

/-- `text or default` -/
def orElse (text : Option PyStr) (default : PyStr) : PyStr :=
  match text with
  | none | some [] => default
  | some text => text

/-- `values` of one candidate, in the order of the names. -/
def DatasetCandidate.dimensions (c : DatasetCandidate) : Except PyError (List (PyStr × List PyStr)) := do
  let rate ← Json.intStr c.val.sample_rate_hz
  let day ← Json.intStr (c.val.captured_utc_ns / 86400000000000)
  return [
    (str "gain", [c.val.gain_mode ++ str ":" ++ orElse c.val.gain_db (str "unspecified")]),
    (str "lnb", c.val.lnb_ids),
    (str "mode", [c.val.observation_mode]),
    (str "radio", [c.val.radio_id]),
    (str "rate_hz", [rate]),
    (str "satellite", [orElse c.val.satellite_id (str "unknown")]),
    (str "truth_role", [if c.val.scored_truth then str "scored" else str "context_only"]),
    (str "truth_source", [c.val.truth.val.source.value]),
    (str "utc_day", [day])]

/-- The dimensions, sorted. -/
def dimensionNames : List PyStr :=
  [str "gain", str "lnb", str "mode", str "radio", str "rate_hz", str "satellite", str "truth_role",
    str "truth_source", str "utc_day"]

/-- The candidates with the splits of their groups. -/
abbrev Placed := List (DatasetCandidate × DatasetSplit)

def Placed.strata (placed : Placed) :
    Except PyError (List (PyStr × List (PyStr × List (PyStr × Nat)))) := do
  let rows ← placed.mapM fun x => x.1.dimensions.map fun dimensions => (dimensions, x.2.value)
  return dimensionNames.map fun name =>
    (name, stratum (rows.flatMap fun row =>
      ((row.1.filter (·.1 = name)).flatMap (·.2)).map fun value => (value, row.2)))

/-- `time_ranges[split]` -/
def Placed.times (placed : Placed) (split : DatasetSplit) : List Int :=
  (placed.filter (·.2 = split)).map (·.1.val.captured_utc_ns)

/-- `max(earlier) <= min(later)` -/
@[reducible] def Precedes (earlier later : List Int) : Prop := ∀ t ∈ earlier, ∀ t' ∈ later, t ≤ t'

def Placed.warnings (placed : Placed) (evaluated_method_id : PyStr) : List String :=
  let absent := DatasetSplit.all.filter fun split => placed.times split = []
  let unusable := placed.filter fun x =>
    x.1.val.scored_truth = true ∧ ¬x.1.val.truth.UsableAsTruthFor evaluated_method_id
  let scored := (placed.map (·.1)).filter (·.val.scored_truth)
  (if (placed.map (·.1.val.split_group_id)).dedup.length < 3
    then ["fewer-than-three-independent-split-groups"] else []) ++
  (if absent = [] then []
    else ["empty-partitions:" ++ ",".intercalate (absent.map fun split =>
      match split with
      | .train => "train"
      | .validation => "validation"
      | .locked_test => "locked_test")]) ++
  (if unusable = [] then []
    else ["non-independent-or-non-truth-labels:" ++ toString unusable.length]) ++
  (if ∃ c ∈ scored, c.val.truth.val.target_present = some false then []
    else ["no-independent-negatives"]) ++
  (if ∃ c ∈ scored, c.val.truth.val.target_present = some true then []
    else ["no-independent-positives"]) ++
  (if ∃ c ∈ scored, c.val.truth.val.source = .injected then [] else ["no-exact-injection-truth"]) ++
  (if absent = [] ∧ ¬(Precedes (placed.times .train) (placed.times .validation) ∧
      Precedes (placed.times .validation) (placed.times .locked_test))
    then ["partitions-are-not-time-ordered"] else [])

/-- `_diagnostics` -/
def Placed.diagnostics (placed : Placed) (evaluated_method_id : PyStr) : Except PyError SplitDiagnostics := do
  let strata ← placed.strata
  return {
    candidate_count := placed.length
    group_count := (placed.map (·.1.val.split_group_id)).dedup.length
    by_split := sortedCounts (placed.map (·.2.value))
    strata := strata
    warnings := placed.warnings evaluated_method_id }

/-! ## The carve -/

/-- A row of `ordered_members`. -/
structure MemberRow where
  feature_set_id : PyStr
  feature_set_digest : PyStr
  split : PyStr
  scored_truth : Bool
deriving DecidableEq

def MemberRow.toPy (row : MemberRow) : PyValue :=
  .tuple [.str row.feature_set_id, .str row.feature_set_digest, .str row.split, .bool row.scored_truth]

def membershipDigest (rows : List MemberRow) : Except PyError Digest :=
  canonicalDigest (.tuple (rows.map MemberRow.toPy))

structure DatasetSnapshot.Fields where
  evaluated_method_id : PyStr
  ordered_members : List MemberRow
  membership_digest : Digest
  diagnostics : SplitDiagnostics
  promoted : Bool
deriving DecidableEq

def DatasetSnapshot.Fields.post_init (s : DatasetSnapshot.Fields) : Except PyError Unit :=
  match membershipDigest s.ordered_members with
  | .error e => .error e
  | .ok digest =>
    raiseIf (s.membership_digest ≠ digest) (.value "membership digest does not match ordered members")

abbrev DatasetSnapshot := Checked DatasetSnapshot.Fields.post_init

/-- The order of the members: split, capture time, feature set. -/
@[reducible] def CarveLe (a b : DatasetCandidate × DatasetSplit) : Prop :=
  toLex (a.2.order, toLex (a.1.val.captured_utc_ns, a.1.val.feature_set_id)) ≤
    toLex (b.2.order, toLex (b.1.val.captured_utc_ns, b.1.val.feature_set_id))

def rowOf (x : DatasetCandidate × DatasetSplit) : MemberRow where
  feature_set_id := x.1.val.feature_set_id
  feature_set_digest := x.1.val.feature_set_digest.toStr
  split := x.2.value
  scored_truth := x.1.val.scored_truth

/-- `{key(x): x for x in xs}.get(k)`: the last one with the key. -/
def dictGet {α : Type} (key : α → PyStr) (xs : List α) (k : PyStr) : Option α := xs.reverse.find? (key · = k)

/-- `group_by_recording.get(recording)` -/
def groupByRecording (candidates : List DatasetCandidate) (recording : PyStr) : Option PyStr :=
  (dictGet (·.val.recording_id) candidates recording).map (·.val.split_group_id)

/-- The parent of the candidate is a candidate too and, by the dictionary, in another group. -/
@[reducible] def LeavesBase (candidates : List DatasetCandidate) (item : DatasetCandidate) : Prop :=
  ∃ parent ∈ item.val.derived_from_recording_id, ∃ group ∈ groupByRecording candidates parent,
    group ≠ item.val.split_group_id

/-- The candidates with their splits; a group without one is left out. -/
def place (group_partitions : PyStr → Option DatasetSplit) (candidates : List DatasetCandidate) : Placed :=
  candidates.filterMap fun c => (group_partitions c.val.split_group_id).map fun split => (c, split)

def carve_dataset (candidates : List DatasetCandidate) (group_partitions : PyStr → Option DatasetSplit)
    (evaluated_method_id : PyStr) (require_promotion : Bool) : Except PyError DatasetSnapshot := do
  checkAll [
    raiseIf (candidates = []) (.value "dataset cannot be empty"),
    raiseIf (¬(candidates.map (·.val.feature_set_id)).Nodup)
      (.value "feature_set_id membership must be unique"),
    raiseIf (∃ c ∈ candidates, group_partitions c.val.split_group_id = none)
      (.value "groups lack explicit partition assignment"),
    raiseIf (∃ c ∈ candidates, LeavesBase candidates c) (.value "injection/base leakage")]
  let ordered := (place group_partitions candidates).insertionSort CarveLe
  let membership := ordered.map rowOf
  let diagnostics ← Placed.diagnostics ordered evaluated_method_id
  let promoted := decide (diagnostics.warnings = [])
  raiseIf (require_promotion = true ∧ promoted = false)
    ⟨.dataset_promotion_error, "; ".intercalate diagnostics.warnings⟩
  let digest ← membershipDigest membership
  Checked.make _ {
    evaluated_method_id := evaluated_method_id
    ordered_members := membership
    membership_digest := digest
    diagnostics := diagnostics
    promoted := promoted }

/-! ## Dictionaries -/

theorem dictGet_some {α : Type} {key : α → PyStr} {xs : List α} {k : PyStr} {x : α}
    (h : dictGet key xs k = some x) : x ∈ xs ∧ key x = k := by
  constructor
  · exact List.mem_reverse.1 (List.mem_of_find?_eq_some h)
  · simpa using List.find?_some h

theorem dictGet_eq_none {α : Type} {key : α → PyStr} {xs : List α} {k : PyStr} :
    dictGet key xs k = none ↔ ∀ x ∈ xs, key x ≠ k := by
  unfold dictGet
  simp [List.find?_eq_none]

/-- With distinct keys the dictionary has everything. -/
theorem dictGet_of_mem {α : Type} {key : α → PyStr} {xs : List α} (hkeys : (xs.map key).Nodup) {x : α}
    (hx : x ∈ xs) : dictGet key xs (key x) = some x := by
  cases h : dictGet key xs (key x) with
  | none => exact absurd rfl (dictGet_eq_none.1 h x hx)
  | some y =>
    obtain ⟨hy, hkey⟩ := dictGet_some h
    rw [List.inj_on_of_nodup_map hkeys hy hx hkey]

/-! ## Where the members are placed -/

variable {group_partitions : PyStr → Option DatasetSplit} {candidates : List DatasetCandidate}

theorem mem_place {c : DatasetCandidate} {split : DatasetSplit} :
    (c, split) ∈ place group_partitions candidates ↔
      c ∈ candidates ∧ group_partitions c.val.split_group_id = some split := by
  unfold place
  rw [List.mem_filterMap]
  constructor
  · rintro ⟨c', hc', hplaced⟩
    obtain ⟨split', hsplit, heq⟩ := Option.map_eq_some_iff.1 hplaced
    cases heq
    exact ⟨hc', hsplit⟩
  · rintro ⟨hc, hsplit⟩
    exact ⟨c, hc, by rw [hsplit]; rfl⟩

/-- What the carve checked, and the rows it froze. -/
structure Carved (candidates : List DatasetCandidate) (group_partitions : PyStr → Option DatasetSplit)
    (snapshot : DatasetSnapshot) : Prop where
  nonempty : candidates ≠ []
  unique : (candidates.map (·.val.feature_set_id)).Nodup
  assigned : ∀ c ∈ candidates, ∃ split, group_partitions c.val.split_group_id = some split
  with_base : ∀ c ∈ candidates, ¬LeavesBase candidates c
  members : snapshot.val.ordered_members =
    ((place group_partitions candidates).insertionSort CarveLe).map rowOf

variable {snapshot : DatasetSnapshot}

theorem carved_of_ok {evaluated_method_id : PyStr} {require_promotion : Bool}
    (h : carve_dataset candidates group_partitions evaluated_method_id require_promotion = .ok snapshot) :
    Carved candidates group_partitions snapshot := by
  unfold carve_dataset at h
  obtain ⟨⟨⟩, hchecks, h⟩ := bind_ok.1 h
  obtain ⟨diagnostics, _, h⟩ := bind_ok.1 h
  obtain ⟨_, _, h⟩ := bind_ok.1 h
  obtain ⟨digest, _, h⟩ := bind_ok.1 h
  simp only [checkAll_cons, checkAll_nil, raiseIf_ok, and_true, not_not] at hchecks
  obtain ⟨hnonempty, hunique, hassigned, hbase⟩ := hchecks
  refine ⟨hnonempty, hunique, ?_, fun c hc hleaves => hbase ⟨c, hc, hleaves⟩, ?_⟩
  · intro c hc
    exact Option.ne_none_iff_exists'.1 fun hnone => hassigned ⟨c, hc, hnone⟩
  · rw [Checked.val_of_make h]

theorem evaluated_method_id_of_carve {evaluated_method_id : PyStr} {require_promotion : Bool}
    (h : carve_dataset candidates group_partitions evaluated_method_id require_promotion = .ok snapshot) :
    snapshot.val.evaluated_method_id = evaluated_method_id := by
  unfold carve_dataset at h
  obtain ⟨_, _, h⟩ := bind_ok.1 h
  obtain ⟨_, _, h⟩ := bind_ok.1 h
  obtain ⟨_, _, h⟩ := bind_ok.1 h
  obtain ⟨_, _, h⟩ := bind_ok.1 h
  rw [Checked.val_of_make h]

/-- A carve that is not asked for promotion fails only by its checks, by a number too long to print or by
a member that cannot be written as canonical JSON. -/
theorem exists_carve (evaluated_method_id : PyStr) (hnonempty : candidates ≠ [])
    (hunique : (candidates.map (·.val.feature_set_id)).Nodup)
    (hassigned : ∀ c ∈ candidates, group_partitions c.val.split_group_id ≠ none)
    (hbase : ∀ c ∈ candidates, ¬LeavesBase candidates c)
    (hdimensions : ∀ c ∈ candidates, ∃ dimensions, c.dimensions = .ok dimensions)
    (hdigest : ∃ digest, membershipDigest (((place group_partitions candidates).insertionSort CarveLe).map rowOf) = .ok digest) :
    ∃ snapshot, carve_dataset candidates group_partitions evaluated_method_id false = .ok snapshot := by
  obtain ⟨digest, hdigest⟩ := hdigest
  obtain ⟨rows, hrows⟩ : ∃ rows, ((place group_partitions candidates).insertionSort CarveLe).mapM
      (fun x => x.1.dimensions.map fun dimensions => (dimensions, x.2.value)) = .ok rows := by
    refine exists_mapM_ok ?_
    rintro ⟨c, split⟩ hplaced
    obtain ⟨dimensions, hd⟩ := hdimensions c (mem_place.1 ((List.mem_insertionSort _).1 hplaced)).1
    exact ⟨(dimensions, split.value), by rw [hd]; rfl⟩
  unfold carve_dataset
  refine ⟨_, bind_ok.2 ⟨(), ?_, bind_ok.2 ⟨_, bind_ok.2 ⟨_, bind_ok.2 ⟨rows, hrows, rfl⟩, rfl⟩,
    bind_ok.2 ⟨(), rfl, bind_ok.2 ⟨digest, hdigest, Checked.make_ok ?_⟩⟩⟩⟩⟩
  · simp only [checkAll_cons, checkAll_nil, raiseIf_ok, and_true, not_not]
    refine ⟨hnonempty, hunique, ?_, ?_⟩
    · rintro ⟨c, hc, hnone⟩
      exact hassigned c hc hnone
    · rintro ⟨c, hc, hleaves⟩
      exact hbase c hc hleaves
  · simp only [DatasetSnapshot.Fields.post_init, hdigest]
    exact raiseIf_ok.2 (not_not.2 rfl)

/-- The snapshot has the candidate in a split. -/
def DatasetSnapshot.Places (snapshot : DatasetSnapshot) (c : DatasetCandidate) (split : DatasetSplit) : Prop :=
  rowOf (c, split) ∈ snapshot.val.ordered_members

/-- Every candidate is in the split of its group and in no other. -/
theorem Carved.places_iff (h : Carved candidates group_partitions snapshot) {c : DatasetCandidate}
    (hc : c ∈ candidates) {split : DatasetSplit} :
    snapshot.Places c split ↔ group_partitions c.val.split_group_id = some split := by
  unfold DatasetSnapshot.Places
  rw [h.members, List.mem_map]
  constructor
  · rintro ⟨⟨c', split'⟩, hplaced, hrow⟩
    obtain ⟨hc', hsplit'⟩ := mem_place.1 ((List.mem_insertionSort _).1 hplaced)
    -- the feature set of a row names its candidate
    have hid : c'.val.feature_set_id = c.val.feature_set_id := congrArg MemberRow.feature_set_id hrow
    have hsplit : split' = split := DatasetSplit.value_injective (congrArg MemberRow.split hrow)
    have heq : c' = c := List.inj_on_of_nodup_map h.unique hc' hc hid
    rw [← heq, ← hsplit]
    exact hsplit'
  · intro hsplit
    exact ⟨(c, split), (List.mem_insertionSort _).2 (mem_place.2 ⟨hc, hsplit⟩), rfl⟩

/-! ## Leakage -/

/-- Evidence passes between two members: they are of one recording, or one is derived from the recording
of the other, or both from one recording. -/
def Related (a b : DatasetCandidate) : Prop :=
  a.val.recording_id = b.val.recording_id ∨
    a.val.derived_from_recording_id = some b.val.recording_id ∨
    b.val.derived_from_recording_id = some a.val.recording_id ∨
    ∃ parent, a.val.derived_from_recording_id = some parent ∧ b.val.derived_from_recording_id = some parent

/-- A chain of members, each related to the next. -/
def Connected (candidates : List DatasetCandidate) : DatasetCandidate → DatasetCandidate → Prop :=
  Relation.ReflTransGen fun a b => a ∈ candidates ∧ b ∈ candidates ∧ Related a b

/-- Connected members are in one split. -/
def DatasetSnapshot.Leakproof (snapshot : DatasetSnapshot) (candidates : List DatasetCandidate) : Prop :=
  ∀ a ∈ candidates, ∀ b ∈ candidates, Connected candidates a b →
    ∃ split, snapshot.Places a split ∧ snapshot.Places b split

/-- Members of one recording are in groups of one split. -/
def RecordingsWhole (candidates : List DatasetCandidate) (group_partitions : PyStr → Option DatasetSplit) :
    Prop :=
  ∀ a ∈ candidates, ∀ b ∈ candidates, a.val.recording_id = b.val.recording_id →
    group_partitions a.val.split_group_id = group_partitions b.val.split_group_id

/-- Members derived from one recording that is not a candidate itself are in groups of one split. -/
def AbsentParentsWhole (candidates : List DatasetCandidate)
    (group_partitions : PyStr → Option DatasetSplit) : Prop :=
  ∀ parent, (∀ c ∈ candidates, c.val.recording_id ≠ parent) →
    ∀ a ∈ candidates, ∀ b ∈ candidates, a.val.derived_from_recording_id = some parent →
      b.val.derived_from_recording_id = some parent →
        group_partitions a.val.split_group_id = group_partitions b.val.split_group_id

/-- A member whose parent is a candidate is in the group of one of that recording's candidates. -/
theorem Carved.beside_base (h : Carved candidates group_partitions snapshot) {a : DatasetCandidate}
    (ha : a ∈ candidates) {parent : PyStr} (hparent : a.val.derived_from_recording_id = some parent)
    {b : DatasetCandidate} (hb : b ∈ candidates) (hrecording : b.val.recording_id = parent) :
    ∃ base ∈ candidates, base.val.recording_id = parent ∧
      base.val.split_group_id = a.val.split_group_id := by
  cases hfind : dictGet (·.val.recording_id) candidates parent with
  | none => exact absurd hrecording (dictGet_eq_none.1 hfind b hb)
  | some base =>
    obtain ⟨hmem, hbase⟩ := dictGet_some hfind
    refine ⟨base, hmem, hbase, ?_⟩
    by_contra hgroup
    refine h.with_base a ha ⟨parent, hparent, base.val.split_group_id, ?_, hgroup⟩
    unfold groupByRecording
    rw [hfind]
    rfl

/-- Where recordings and absent parents are whole, related members are in groups of one split. -/
theorem Carved.related (h : Carved candidates group_partitions snapshot)
    (hrecordings : RecordingsWhole candidates group_partitions)
    (habsent : AbsentParentsWhole candidates group_partitions) {a b : DatasetCandidate} (ha : a ∈ candidates)
    (hb : b ∈ candidates) (hrelated : Related a b) :
    group_partitions a.val.split_group_id = group_partitions b.val.split_group_id := by
  have hderived : ∀ {x y : DatasetCandidate}, x ∈ candidates → y ∈ candidates →
      x.val.derived_from_recording_id = some y.val.recording_id →
        group_partitions x.val.split_group_id = group_partitions y.val.split_group_id := by
    intro x y hx hy hparent
    obtain ⟨base, hbase, hrecording, hgroup⟩ := h.beside_base hx hparent hy rfl
    rw [← hgroup]
    exact hrecordings base hbase y hy hrecording
  rcases hrelated with hsame | hab | hba | ⟨parent, hpa, hpb⟩
  · exact hrecordings a ha b hb hsame
  · exact hderived ha hb hab
  · exact (hderived hb ha hba).symm
  · by_cases hpresent : ∃ c ∈ candidates, c.val.recording_id = parent
    · obtain ⟨c, hc, rfl⟩ := hpresent
      exact (hderived ha hc hpa).trans (hderived hb hc hpb).symm
    · refine habsent parent ?_ a ha b hb hpa hpb
      intro c hc hrecording
      exact hpresent ⟨c, hc, hrecording⟩

/-- What a carve that does not leak says of two related members. -/
theorem Carved.same_of_leakproof (h : Carved candidates group_partitions snapshot)
    (hleakproof : snapshot.Leakproof candidates) {a b : DatasetCandidate} (ha : a ∈ candidates)
    (hb : b ∈ candidates) (hrelated : Related a b) :
    group_partitions a.val.split_group_id = group_partitions b.val.split_group_id := by
  obtain ⟨split, hsplit, hsplit'⟩ := hleakproof a ha b hb (.single ⟨ha, hb, hrelated⟩)
  rw [(h.places_iff ha).1 hsplit, (h.places_iff hb).1 hsplit']

/-- A carve keeps evidence in one split exactly if the members of each recording are in groups of one split
and so are the members derived from a recording that is no candidate. -/
theorem carve_leakproof_iff {candidates : List DatasetCandidate}
    {group_partitions : PyStr → Option DatasetSplit} {evaluated_method_id : PyStr} {require_promotion : Bool}
    {snapshot : DatasetSnapshot}
    (h : carve_dataset candidates group_partitions evaluated_method_id require_promotion = .ok snapshot) :
    snapshot.Leakproof candidates ↔
      RecordingsWhole candidates group_partitions ∧ AbsentParentsWhole candidates group_partitions := by
  have hcarved := carved_of_ok h
  constructor
  · intro hleakproof
    constructor
    · intro a ha b hb hrecording
      exact hcarved.same_of_leakproof hleakproof ha hb (.inl hrecording)
    · intro parent _ a ha b hb hpa hpb
      exact hcarved.same_of_leakproof hleakproof ha hb (.inr (.inr (.inr ⟨parent, hpa, hpb⟩)))
  · rintro ⟨hrecordings, habsent⟩ a ha b hb hconnected
    have hsame : group_partitions a.val.split_group_id = group_partitions b.val.split_group_id := by
      -- along the chain
      induction hconnected with
      | refl => rfl
      | tail _ hlink ih => exact (ih hlink.1).trans (hcarved.related hrecordings habsent hlink.1 hlink.2.1 hlink.2.2)
    obtain ⟨split, hsplit⟩ := hcarved.assigned a ha
    exact ⟨split, (hcarved.places_iff ha).2 hsplit, (hcarved.places_iff hb).2 (hsame ▸ hsplit)⟩

/-! ### Carves -/

theorem exists_of_isSome {α : Type} {x : Except PyError α} (h : x.toOption.isSome = true) : ∃ a, x = .ok a := by
  cases x with
  | error e => cases h
  | ok a => exact ⟨a, rfl⟩

namespace CarveExample

/-- An unlabeled candidate. -/
def member (feature_set recording group : Nat) (derived_from : Option Nat) : DatasetCandidate where
  val := {
    feature_set_id := [feature_set]
    feature_set_digest := Digest.sha256 []
    recording_id := [recording]
    split_group_id := [group]
    captured_utc_ns := 0
    radio_id := [114]
    lnb_ids := [[108]]
    observation_mode := [111]
    sample_rate_hz := 1
    gain_mode := [109]
    gain_db := none
    satellite_id := none
    truth := {
      val := {
        target_present := none
        source := .unlabeled
        evidence := [{
          val := {
            source := .unlabeled
            evidence_digest := Digest.sha256 []
            producer_id := [112]
            produced_utc_ns := 0
            independent_of_method_ids := []
            uncertainty := []
            base_recording_digest := none
            injection_spec_digest := none }
          ok := by decide }]
        confidence := none }
      ok := by decide +kernel }
    scored_truth := false
    derived_from_recording_id := derived_from.map fun c => [c] }
  ok := rfl

/-- Group `1` is for training, all others for validation. -/
def partitions (group : PyStr) : Option DatasetSplit := some (if group = [1] then .train else .validation)

/-- An injection with its base. -/
def whole : List DatasetCandidate := [member 1 7 1 none, member 2 8 1 (some 7)]

/-- Two feature sets of one recording in two groups. -/
def splitRecording : List DatasetCandidate := [member 1 7 1 none, member 2 7 2 none, member 3 8 2 (some 7)]

/-- Two injections into a recording that is no candidate. -/
def splitInjections : List DatasetCandidate := [member 1 7 1 (some 9), member 2 8 2 (some 9)]

end CarveExample

section

open CarveExample

theorem carve_leakproof_whole :
    ∃ snapshot, carve_dataset whole partitions [109] false = .ok snapshot ∧
      (snapshot.Leakproof whole ↔
        RecordingsWhole whole partitions ∧ AbsentParentsWhole whole partitions) := by
  obtain ⟨snapshot, h⟩ := exists_of_isSome (x := carve_dataset whole partitions [109] false) (by decide +kernel)
  exact ⟨snapshot, h, carve_leakproof_iff h⟩

/-- The dictionary keeps one candidate of a recording; and a base that is no candidate is not in it. -/
theorem carve_can_leak :
    (∃ snapshot, carve_dataset splitRecording partitions [109] false = .ok snapshot ∧
        ¬snapshot.Leakproof splitRecording) ∧
      ∃ snapshot, carve_dataset splitInjections partitions [109] false = .ok snapshot ∧
        ¬snapshot.Leakproof splitInjections := by
  constructor
  · obtain ⟨snapshot, h⟩ :=
      exists_of_isSome (x := carve_dataset splitRecording partitions [109] false) (by decide +kernel)
    refine ⟨snapshot, h, fun hleakproof => ?_⟩
    have hsame := (carved_of_ok h).same_of_leakproof hleakproof (a := member 1 7 1 none)
      (b := member 2 7 2 none) (by simp [splitRecording]) (by simp [splitRecording]) (.inl rfl)
    revert hsame
    decide
  · obtain ⟨snapshot, h⟩ :=
      exists_of_isSome (x := carve_dataset splitInjections partitions [109] false) (by decide +kernel)
    refine ⟨snapshot, h, fun hleakproof => ?_⟩
    have hsame := (carved_of_ok h).same_of_leakproof hleakproof (a := member 1 7 1 (some 9))
      (b := member 2 8 2 (some 9)) (by simp [splitInjections]) (by simp [splitInjections])
      (.inr (.inr (.inr ⟨[9], rfl, rfl⟩)))
    revert hsame
    decide

end

end LeoFlow
