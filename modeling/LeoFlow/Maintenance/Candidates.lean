import LeoFlow.Contracts.Storage
import LeoFlow.Maintenance.Safety

/-!
# LeoFlow.Maintenance.Candidates — what collectors are offered

`PostgresGarbageCollectionCatalog.candidates` (`maintenance/postgres_gc.py`) lists objects in one query;
`gc_claim_object` decides again, in its own words, when a listed object is claimed. The query has no branch for a
`gc_claimed` row, the function has one for an expired claim: `covers_iff` says what is lost between the two, and
`Crashed.step` that it is lost for good.
-/

namespace LeoFlow

/-- `_ref`, before the checks of `ObjectRef` -/
def ObjectBlob.ref (row : ObjectBlob) (d : Digest) : ObjectRef where
  digest := d
  byte_count := row.byte_count
  media_type := row.media_type
  format_id := row.format_id
  locator := row.locator

/-- The columns of the row make an `ObjectRef`. -/
def ObjectBlob.Readable (row : ObjectBlob) (d : Digest) : Prop := (row.ref d).post_init = .ok ()

/-- The `WHERE` clause of the query, for a status row with this deadline. -/
def RetentionStatus.candidate (s : RetentionStatus) (lifecycle_state : LifecycleState) (deadline as_of : Int) : Prop :=
  (lifecycle_state = .live ∨ lifecycle_state = .gc_delete_failed) ∧ 0 < s.policy_count ∧
    s.all_policies_allow_delete = true ∧ deadline ≤ as_of ∧ s.live_reference_count = 0

instance (s : RetentionStatus) (lifecycle_state : LifecycleState) (deadline as_of : Int) :
    Decidable (s.candidate lifecycle_state deadline as_of) :=
  inferInstanceAs (Decidable ((_ ∨ _) ∧ _ ∧ _ ∧ _ ∧ _))

/-- A row of the query's result. -/
structure CandidateRow where
  eligible_after : Int
  digest : Digest
  row : ObjectBlob

/-- `ORDER BY s.eligible_after, b.digest_algorithm, b.digest_value` -/
def CandidateRow.le (r r' : CandidateRow) : Prop :=
  r.eligible_after < r'.eligible_after ∨
    r.eligible_after = r'.eligible_after ∧ r.digest.value ≤ r'.digest.value

instance : DecidableRel CandidateRow.le := fun r r' =>
  inferInstanceAs (Decidable (r.eligible_after < r'.eligible_after ∨ _ ∧ r.digest.value ≤ r'.digest.value))

variable {d : Digest} {row : ObjectBlob}

namespace Catalog

/-- `object_retention_status` joined to `object_blob`, and the `WHERE` clause. A null deadline is no candidate. -/
def candidateRows (db : Catalog) (as_of : Int) : List CandidateRow :=
  db.object_blob.entries.filterMap fun e =>
    let status := db.object_retention_status e.1
    match status.eligible_after with
    | none => none
    | some deadline =>
      if status.candidate e.2.lifecycle_state deadline as_of then some ⟨deadline, e.1, e.2⟩ else none

/-- `PostgresGarbageCollectionCatalog.candidates` -/
def candidates (db : Catalog) (as_of : Int) (limit : Nat) : Except PyError (List ObjectRef) :=
  (((db.candidateRows as_of).insertionSort CandidateRow.le).take limit).mapM fun r => do
    (r.row.ref r.digest).post_init
    return r.row.ref r.digest

/-- `gc_claim_object` would grant this object to some collector at `now`. -/
def Grants (db : Catalog) (now : Int) (d : Digest) : Prop :=
  ∃ claim_token claim_expires_at db' row,
    db.gc_claim_object d claim_token now claim_expires_at = .ok (db', some row)

/-- Every object that would be granted is listed, when the limit is large enough. -/
def Covers (db : Catalog) (now : Int) : Prop :=
  ∀ d, db.Grants now d → ∃ enough, ∀ limit, enough ≤ limit →
    ∃ refs, db.candidates now limit = .ok refs ∧ ∃ ref ∈ refs, ref.digest = d

/-! ## What the claim grants -/

/-- A token no attempt has used. -/
theorem exists_fresh_token (db : Catalog) :
    ∃ claim_token : PyStr, claim_token ≠ [] ∧ ¬db.gcAttemptExists claim_token .claimed := by
  rcases Infinite.exists_notMem_finset (insert [] (db.object_gc_attempt.map (·.claim_token)).toFinset)
    with ⟨claim_token, hfresh⟩
  rw [Finset.mem_insert, not_or] at hfresh
  refine ⟨claim_token, hfresh.1, ?_⟩
  rintro ⟨a, ha, htoken, _⟩
  apply hfresh.2
  rw [List.mem_toFinset]
  exact List.mem_map.2 ⟨a, ha, htoken⟩

variable {db : Catalog}

theorem grants_iff {now : Int} :
    db.Grants now d ↔
      ∃ row, db.blob d = some row ∧ row.claimable now ∧ (db.object_retention_status d).allows now := by
  constructor
  · rintro ⟨claim_token, claim_expires_at, db', row, hclaim⟩
    rcases gc_claim_object_ok hclaim with ⟨_, hnone⟩ | ⟨row', hrow, hclaimable, hallows, _⟩
    · cases hnone
    · exact ⟨row', hrow, hclaimable, hallows⟩
  · rintro ⟨row, hrow, hclaimable, hallows⟩
    rcases exists_fresh_token db with ⟨claim_token, hne, hfresh⟩
    refine ⟨claim_token, now + 1, (db.setBlob d (row.claim claim_token now (now + 1))).logGc
      ⟨d, claim_token, .claimed, now, none⟩, row.claim claim_token now (now + 1), ?_⟩
    unfold gc_claim_object
    rw [if_neg (not_or.2 ⟨hne, by omega⟩), hrow]
    simp only
    rw [if_neg (not_not.2 hclaimable), if_neg (not_not.2 hallows), if_neg hfresh]

/-! ## What the query lists -/

/-- A deadline that is null comes with no policy, which no reading of the status row allows. -/
theorem eligible_after_isSome (h : (db.object_retention_status d).all_policies_allow_delete = true) :
    ∃ deadline, (db.object_retention_status d).eligible_after = some deadline := by
  unfold object_retention_status at h ⊢
  simp only [Bool.and_eq_true, Bool.not_eq_true', List.isEmpty_eq_false_iff] at h
  apply Option.ne_none_iff_exists'.1
  rw [Ne, List.max?_eq_none_iff, List.map_eq_nil_iff]
  exact h.1

theorem mem_candidateRows {as_of : Int} {r : CandidateRow} :
    r ∈ db.candidateRows as_of ↔
      db.blob r.digest = some r.row ∧ (db.object_retention_status r.digest).eligible_after = some r.eligible_after ∧
        (db.object_retention_status r.digest).candidate r.row.lifecycle_state r.eligible_after as_of := by
  unfold candidateRows
  rw [List.mem_filterMap]
  constructor
  · rintro ⟨⟨d, row⟩, he, hr⟩
    have hrow := (Table.mem_entries_iff db.object_blob d row).1 he
    simp only at hr
    split at hr
    · cases hr
    · rename_i deadline hdeadline
      split at hr
      · rename_i hcandidate
        cases hr
        exact ⟨hrow, hdeadline, hcandidate⟩
      · cases hr
  · rintro ⟨hrow, hdeadline, hcandidate⟩
    refine ⟨⟨r.digest, r.row⟩, (Table.mem_entries_iff db.object_blob r.digest r.row).2 hrow, ?_⟩
    simp only [hdeadline]
    rw [if_pos hcandidate]

/-- The two readings of a status row agree; those of a row's state do not. -/
theorem candidate_iff {now : Int} :
    (∃ deadline, (db.object_retention_status d).eligible_after = some deadline ∧
        (db.object_retention_status d).candidate row.lifecycle_state deadline now) ↔
      row.claimable now ∧ (db.object_retention_status d).allows now ∧ row.lifecycle_state ≠ .gc_claimed := by
  constructor
  · rintro ⟨deadline, hdeadline, hstate, hcount, hall, hdue, href⟩
    have hnot : row.lifecycle_state ≠ .gc_claimed := by
      rcases hstate with hstate | hstate <;> simp [hstate]
    refine ⟨?_, ⟨by omega, hall, ?_, href⟩, hnot⟩
    · rcases hstate with hstate | hstate
      · exact Or.inl hstate
      · exact Or.inr (Or.inl hstate)
    · intro deadline' hdeadline'
      rw [hdeadline] at hdeadline'
      cases hdeadline'
      exact hdue
  · rintro ⟨hclaimable, ⟨hcount, hall, hdue, href⟩, hnot⟩
    rcases eligible_after_isSome hall with ⟨deadline, hdeadline⟩
    refine ⟨deadline, hdeadline, ?_, by omega, hall, hdue deadline hdeadline, href⟩
    rcases hclaimable with hstate | hstate | ⟨hstate, _⟩
    · exact Or.inl hstate
    · exact Or.inr hstate
    · exact absurd hstate hnot

/-- A listed reference is the readable row of an object that is not claimed. -/
theorem mem_candidates {as_of : Int} {limit : Nat} {refs : List ObjectRef}
    (h : db.candidates as_of limit = .ok refs) {ref : ObjectRef} (href : ref ∈ refs) :
    ∃ r ∈ db.candidateRows as_of, ref = r.row.ref r.digest ∧ r.row.Readable r.digest := by
  have hall := mapM_ok.1 h
  rcases List.mem_iff_getElem.1 href with ⟨i, hi, rfl⟩
  have hlen := hall.length_eq
  have hread := List.Forall₂.get hall (by omega) hi
  rcases bind_ok.1 hread with ⟨⟨⟩, hok, href⟩
  refine ⟨_, ?_, (Except.ok.inj href).symm, hok⟩
  exact (List.mem_insertionSort _).1 (List.mem_of_mem_take (List.getElem_mem _))

/-- With room for every row, each row is read: all are listed, or one is refused. -/
theorem candidates_all {as_of : Int} {limit : Nat} (hlimit : (db.candidateRows as_of).length ≤ limit)
    (hread : ∀ r ∈ db.candidateRows as_of, r.row.Readable r.digest) :
    db.candidates as_of limit = .ok (((db.candidateRows as_of).insertionSort CandidateRow.le).map
      fun r => r.row.ref r.digest) := by
  unfold candidates
  rw [List.take_of_length_le (by rw [List.length_insertionSort]; exact hlimit), mapM_ok, List.forall₂_map_right_iff,
    List.forall₂_same]
  intro r hr
  exact bind_ok.2 ⟨⟨⟩, hread r ((List.mem_insertionSort _).1 hr), rfl⟩

/-- A claimed object is on no list, at any time and limit. -/
theorem not_proposed (hrow : db.blob d = some row) (hstate : row.lifecycle_state = .gc_claimed) {as_of : Int}
    {limit : Nat} {refs : List ObjectRef} (h : db.candidates as_of limit = .ok refs) : ∀ ref ∈ refs, ref.digest ≠ d := by
  intro ref href heq
  rcases mem_candidates h href with ⟨r, hr, rfl, _⟩
  rcases mem_candidateRows.1 hr with ⟨hrow', _, hcandidate, _⟩
  rw [show r.digest = d from heq, hrow] at hrow'
  cases hrow'
  rw [hstate] at hcandidate
  rcases hcandidate with hcandidate | hcandidate <;> cases hcandidate

/-- The list covers what would be granted exactly when nothing of it is an expired claim, and all of it is readable. -/
theorem covers_iff_unclaimed (db : Catalog) (now : Int) :
    db.Covers now ↔ ∀ d row, db.blob d = some row → row.claimable now → (db.object_retention_status d).allows now →
      row.lifecycle_state ≠ .gc_claimed ∧ row.Readable d := by
  constructor
  · intro hcovers d row hrow hclaimable hallows
    rcases hcovers d (grants_iff.2 ⟨row, hrow, hclaimable, hallows⟩) with ⟨enough, hlisted⟩
    rcases hlisted enough le_rfl with ⟨refs, hrefs, ref, href, heq⟩
    constructor
    · intro hstate
      exact not_proposed hrow hstate hrefs ref href heq
    · rcases mem_candidates hrefs href with ⟨r, hr, rfl, hread⟩
      have hrow' := (mem_candidateRows.1 hr).1
      rw [show r.digest = d from heq] at hrow' hread
      rw [hrow] at hrow'
      cases hrow'
      exact hread
  · intro hunclaimed d hgrants
    have hread : ∀ r ∈ db.candidateRows now, r.row.Readable r.digest := by
      intro r hr
      rcases mem_candidateRows.1 hr with ⟨hrow, hdeadline, hcandidate⟩
      rcases candidate_iff.1 ⟨r.eligible_after, hdeadline, hcandidate⟩ with ⟨hclaimable, hallows, _⟩
      exact (hunclaimed r.digest r.row hrow hclaimable hallows).2
    rcases grants_iff.1 hgrants with ⟨row, hrow, hclaimable, hallows⟩
    have hstate := (hunclaimed d row hrow hclaimable hallows).1
    rcases candidate_iff.2 ⟨hclaimable, hallows, hstate⟩ with ⟨deadline, hdeadline, hcandidate⟩
    have hmem : (⟨deadline, d, row⟩ : CandidateRow) ∈ db.candidateRows now :=
      mem_candidateRows.2 ⟨hrow, hdeadline, hcandidate⟩
    refine ⟨(db.candidateRows now).length, ?_⟩
    intro limit hlimit
    refine ⟨_, candidates_all hlimit hread, row.ref d, ?_, rfl⟩
    exact List.mem_map.2 ⟨_, (List.mem_insertionSort _).2 hmem, rfl⟩

end Catalog

/-! ## Runs of `collect_objects`

A call lists once, with one clock reading, and then goes through its list; other calls, publishers, reconcilers and
operators work in between. -/

/-- What a call of `collect_objects` holds between its steps. -/
structure CollectRun where
  now : Int
  claim_expires_at : Int
  /-- the rest of the list -/
  proposed : List ObjectRef

structure Collectors where
  sys : System
  run : ProcId → Option CollectRun

namespace Collectors

open LeoFlow.System

inductive Action where
  /-- arguments, and the query -/
  | start (w : ProcId) (now : Int) (limit claim_ttl_seconds : Nat)
  | claim (w : ProcId) (claim_token : PyStr)
  | unlink (w : ProcId)
  | delete_error (w : ProcId)
  | complete (w : ProcId)
  | fail (w : ProcId) (detail : PyStr)
  /-- the call returns, raises, or its process dies -/
  | stop (w : ProcId)
  | publisher (a : PublisherStep)
  | reconciler (a : ReconcilerStep)
  | operator (a : OperatorStep)

/-- Any other step of the call, on the shared state. -/
def call (s : Collectors) (a : CollectorStep) (run : ProcId → Option CollectRun) : Option Collectors :=
  (collect s.sys a).map fun sys => { sys, run }

/-- The call raises `GarbageCollectionError` unless the catalog confirmed. -/
def confirm (s : Collectors) (w : ProcId) (result : Except SqlError (Catalog × Bool)) : ProcId → Option CollectRun :=
  match result with
  | .ok (_, true) => s.run
  | _ => Function.update s.run w none

def step (s : Collectors) : Action → Option Collectors
  | .start w now limit claim_ttl_seconds =>
    if limit = 0 ∨ claim_ttl_seconds = 0 ∨ now < 0 ∨ s.run w ≠ none ∨ s.sys.collector w ≠ .idle then none
    else
      match s.sys.db.candidates now limit with
      | .ok proposed =>
        some { s with run := Function.update s.run w (some ⟨now, now + claim_ttl_seconds * 1000000, proposed⟩) }
      | .error _ => some s
  | .claim w claim_token =>
    match s.run w with
    | some ⟨now, claim_expires_at, ref :: proposed⟩ =>
      s.call (.claim w ref.digest claim_token now claim_expires_at)
        (Function.update s.run w (some ⟨now, claim_expires_at, proposed⟩))
    | _ => none
  | .unlink w => s.call (.unlink w) s.run
  | .delete_error w => s.call (.delete_error w) s.run
  | .complete w =>
    match s.run w, s.sys.collector w with
    | some r, .unlinked d claim_token =>
      s.call (.complete w r.now) (s.confirm w (s.sys.db.gc_complete_object_delete d claim_token r.now))
    | _, _ => none
  | .fail w detail =>
    match s.run w, s.sys.collector w with
    | some r, .delete_raised d claim_token =>
      s.call (.fail w r.now detail) (s.confirm w (s.sys.db.gc_record_delete_failure d claim_token r.now detail))
    | _, _ => none
  | .stop w => s.call (.quit w) (Function.update s.run w none)
  | .publisher a => (publish s.sys a).map fun sys => { s with sys }
  | .reconciler a => (reconcile s.sys a).map fun sys => { s with sys }
  | .operator a => (operate s.sys a).map fun sys => { s with sys }

def initial : Collectors := ⟨.initial, fun _ => none⟩

def machine : Machine Collectors Action := ⟨fun s => s = initial, step⟩

end Collectors

/-- The claim a collector still holds. -/
def CollectorPhase.claim : CollectorPhase → Option (Digest × PyStr)
  | .idle => none
  | .claimed d claim_token | .unlinked d claim_token | .delete_raised d claim_token => some (d, claim_token)

namespace Collectors

open LeoFlow.System

/-- The collector that claimed `d` is gone, and no call has `d` on a list from before the claim. -/
structure Crashed (s : Collectors) (d : Digest) : Prop where
  row : ∃ row, s.sys.db.blob d = some row ∧ row.lifecycle_state = .gc_claimed ∧
    ∀ w claim_token, (s.sys.collector w).claim = some (d, claim_token) → row.gc_claim_token ≠ some claim_token
  unlisted : ∀ w r, s.run w = some r → ∀ ref ∈ r.proposed, ref.digest ≠ d

/-! ### A crashed claim stays

One lemma for the rows of the other processes, one for the steps of a call. -/

variable {s : Collectors}

/-- The row of `d` is what it was, and no collector has taken up its claim. -/
theorem Crashed.of_frame {t : Collectors} (h : s.Crashed d) (hblob : t.sys.db.blob d = s.sys.db.blob d)
    (hcollector : ∀ w claim_token, (t.sys.collector w).claim = some (d, claim_token) → (s.sys.collector w).claim = some (d, claim_token))
    (hrun : ∀ w r, t.run w = some r → ∀ ref ∈ r.proposed, ref.digest ≠ d) : t.Crashed d := by
  rcases h.row with ⟨row, hrow, hstate, htoken⟩
  constructor
  · refine ⟨row, hblob.trans hrow, hstate, ?_⟩
    intro w claim_token hw
    exact htoken w claim_token (hcollector w claim_token hw)
  · exact hrun

/-- A publication registers no claimed row. -/
theorem publish_claimed {s t : System} {a : PublisherStep} (h : publish s a = some t)
    (hrow : s.db.blob d = some row) (hstate : row.lifecycle_state = .gc_claimed) : t.db.blob d = s.db.blob d := by
  rcases publish_cases h with ⟨hdb, _, _⟩ | ⟨_, _, _, _, _, _, _, _, _, hdb⟩ | ⟨p, refer, ref, _, _, _, hpub, _⟩
  · rw [hdb]
  · rw [hdb]
  · rcases publication_ok hpub with ⟨row', hregistered, hlive, _, hblob⟩
    rw [hblob]
    split
    · rename_i hd
      subst hd
      -- registration keeps a claimed row as it is, so the row would not be live
      rw [Catalog.registeredBlob, hrow] at hregistered
      simp [hstate] at hregistered
      rw [← hregistered, hstate] at hlive
      cases hlive
    · rfl

/-- A database call of a finalizer leaves the row of a claim that is not the finalizer's. -/
theorem blob_committed {s : System} {d' : Digest} {claim_token : PyStr} {now : Int} {event : GcEvent}
    {detail : Option PyStr} {update : ObjectBlob → ObjectBlob} (hrow : s.db.blob d = some row)
    (htoken : d' = d → row.gc_claim_token ≠ some claim_token) :
    (s.committed (s.db.gcFinalize d' claim_token now event detail update)).db.blob d = s.db.blob d := by
  cases hresult : s.db.gcFinalize d' claim_token now event detail update with
  | error e => rfl
  | ok result =>
    rcases result with ⟨db', r⟩
    rcases Catalog.gcFinalize_ok hresult with ⟨rfl, _⟩ | ⟨row', hrow', hclaimed, _, rfl⟩
    · rfl
    · by_cases hd : d' = d
      · subst hd
        rw [hrow] at hrow'
        cases hrow'
        exact absurd hclaimed.2 (htoken rfl)
      · show ((s.db.setBlob d' (update row')).logGc _).blob d = _
        rw [Catalog.blob_logGc, Catalog.blob_setBlob, if_neg (Ne.symm hd)]

/-- A collector's step leaves a claimed row that is no collector's, unless it claims that row. -/
theorem collect_claimed {s t : System} {a : CollectorStep} (h : collect s a = some t)
    (hrow : s.db.blob d = some row)
    (htoken : ∀ w claim_token, (s.collector w).claim = some (d, claim_token) → row.gc_claim_token ≠ some claim_token)
    (hother : ∀ w claim_token now expires, a ≠ .claim w d claim_token now expires) :
    t.db.blob d = s.db.blob d ∧
      ∀ w claim_token, (t.collector w).claim = some (d, claim_token) → (s.collector w).claim = some (d, claim_token) := by
  -- the collector that moves holds no other claim on `d` than before
  have hmove : ∀ {u : System} {v : ProcId} {phase : CollectorPhase}, u.collector = s.collector →
      (∀ claim_token, phase.claim = some (d, claim_token) → (s.collector v).claim = some (d, claim_token)) →
      ∀ w claim_token, ((u.setCollector v phase).collector w).claim = some (d, claim_token) →
        (s.collector w).claim = some (d, claim_token) := by
    intro u v phase hu hphase w claim_token hw
    rw [collector_setCollector] at hw
    split at hw
    · rename_i hwv
      subst hwv
      exact hphase claim_token hw
    · rw [← hu]
      exact hw
  cases a with
  | claim v d' claim_token now expires =>
    have hne : d ≠ d' := by
      rintro rfl
      exact hother v claim_token now expires rfl
    simp only [collect] at h
    split at h
    · split at h
      · rename_i db row' hclaim
        cases h
        rcases Catalog.gc_claim_object_ok hclaim with ⟨_, hnone⟩ | ⟨_, _, _, _, _, _, _, hdb⟩
        · cases hnone
        · constructor
          · show db.blob d = s.db.blob d
            rw [hdb, Catalog.blob_logGc, Catalog.blob_setBlob, if_neg hne]
          · refine hmove rfl ?_
            intro token hphase
            cases hphase
            exact absurd rfl hne
      · cases h
        exact ⟨rfl, fun _ _ hw => hw⟩
    · cases h
  | unlink v | delete_error v =>
    simp only [collect] at h
    split at h
    · rename_i d' claim_token hv
      cases h
      refine ⟨rfl, hmove rfl ?_⟩
      intro token hphase
      rw [hv]
      exact hphase
    · cases h
  | complete v now =>
    simp only [collect] at h
    split at h
    · rename_i d' claim_token hv
      cases h
      constructor
      · refine blob_committed hrow ?_
        rintro rfl
        exact htoken v claim_token (by rw [hv]; rfl)
      · refine hmove ?_ (fun _ hphase => by cases hphase)
        unfold committed
        split <;> rfl
    · cases h
  | fail v now detail =>
    simp only [collect] at h
    split at h
    · rename_i d' claim_token hv
      cases h
      constructor
      · unfold Catalog.gc_record_delete_failure
        split
        · rfl
        · refine blob_committed hrow ?_
          rintro rfl
          exact htoken v claim_token (by rw [hv]; rfl)
      · refine hmove ?_ (fun _ hphase => by cases hphase)
        unfold committed
        split <;> rfl
    · cases h
  | quit v =>
    simp only [collect, Option.some.injEq] at h
    subst h
    exact ⟨rfl, hmove rfl (fun _ hphase => by cases hphase)⟩

/-- A step of a call that claims something else, and keeps the lists free of `d`. -/
theorem Crashed.call {t : Collectors} (h : s.Crashed d) {a : CollectorStep} {run : ProcId → Option CollectRun}
    (hstep : s.call a run = some t) (hother : ∀ w claim_token now expires, a ≠ .claim w d claim_token now expires)
    (hrun : ∀ w r, run w = some r → ∀ ref ∈ r.proposed, ref.digest ≠ d) : t.Crashed d := by
  rcases Option.map_eq_some_iff.1 hstep with ⟨sys, hsys, rfl⟩
  rcases h.row with ⟨row, hrow, _, htoken⟩
  rcases collect_claimed hsys hrow htoken hother with ⟨hblob, hcollector⟩
  exact h.of_frame hblob hcollector hrun

theorem Crashed.of_update (h : s.Crashed d) {v : ProcId} {run : Option CollectRun}
    (hrun : ∀ r ∈ run, ∀ ref ∈ r.proposed, ref.digest ≠ d) (w : ProcId) (r : CollectRun)
    (hw : Function.update s.run v run w = some r) : ∀ ref ∈ r.proposed, ref.digest ≠ d := by
  rw [Function.update_apply] at hw
  split at hw
  · exact hrun r hw
  · exact h.unlisted w r hw

theorem Crashed.confirm (h : s.Crashed d) {v : ProcId} {result : Except SqlError (Catalog × Bool)} (w : ProcId)
    (r : CollectRun) (hw : s.confirm v result w = some r) : ∀ ref ∈ r.proposed, ref.digest ≠ d := by
  unfold Collectors.confirm at hw
  split at hw
  · exact h.unlisted w r hw
  · exact h.of_update (fun _ hnone => by cases hnone) w r hw

/-- Whatever step is taken, the object stays claimed and off every list. -/
theorem Crashed.step {t : Collectors} {a : Action} (h : s.Crashed d) (hstep : s.step a = some t) :
    t.Crashed d := by
  rcases h.row with ⟨row, hrow, hstate, htoken⟩
  cases a with
  | start w now limit claim_ttl_seconds =>
    simp only [Collectors.step] at hstep
    split at hstep
    · cases hstep
    split at hstep
    · rename_i proposed hproposed
      cases hstep
      refine h.of_frame rfl (fun _ _ hw => hw) (h.of_update ?_)
      intro r hr
      cases hr
      exact Catalog.not_proposed hrow hstate hproposed
    · cases hstep
      exact h
  | claim w claim_token =>
    simp only [Collectors.step] at hstep
    split at hstep
    · rename_i now claim_expires_at ref proposed hrun
      have hlisted := h.unlisted w _ hrun
      refine h.call hstep ?_ (h.of_update ?_)
      · intro w' token now' expires heq
        cases heq
        exact hlisted ref List.mem_cons_self rfl
      · intro r hr
        cases hr
        exact fun ref' href' => hlisted ref' (List.mem_cons_of_mem _ href')
    · cases hstep
  | unlink w | delete_error w =>
    exact h.call hstep (fun _ _ _ _ heq => by cases heq) h.unlisted
  | complete w | fail w detail =>
    simp only [Collectors.step] at hstep
    split at hstep
    · exact h.call hstep (fun _ _ _ _ heq => by cases heq) h.confirm
    · cases hstep
  | stop w =>
    exact h.call hstep (fun _ _ _ _ heq => by cases heq) (h.of_update (fun _ hnone => by cases hnone))
  | publisher a =>
    rcases Option.map_eq_some_iff.1 hstep with ⟨sys, hsys, rfl⟩
    refine h.of_frame (publish_claimed hsys hrow hstate) ?_ h.unlisted
    intro w claim_token hw
    rw [← (publish_frame hsys).1]
    exact hw
  | reconciler a =>
    rcases Option.map_eq_some_iff.1 hstep with ⟨sys, hsys, rfl⟩
    rcases reconcile_cases hsys with ⟨⟨_, hcollector⟩, horphan, _⟩
    refine h.of_frame (horphan.blob d) ?_ h.unlisted
    intro w claim_token hw
    rw [← hcollector]
    exact hw
  | operator a =>
    rcases Option.map_eq_some_iff.1 hstep with ⟨sys, hsys, rfl⟩
    rcases operate_frame hsys with ⟨hblob, _, _, _, _, hcollector, _⟩
    refine h.of_frame (hblob d) ?_ h.unlisted
    intro w claim_token hw
    rw [← hcollector]
    exact hw

/-- In no run is it ever proposed again. -/
theorem Crashed.allStates (h : s.Crashed d) (as : List Action) :
    machine.AllStates
      (fun t => ∀ as_of limit refs, t.sys.db.candidates as_of limit = .ok refs → ∀ ref ∈ refs, ref.digest ≠ d) s as := by
  have hkeep : ∀ (t : Collectors) (a : Action) (u : Collectors), t.Crashed d → machine.step t a = some u →
      u.Crashed d :=
    fun _ _ _ ht hu => ht.step hu
  refine machine.allStates_of_inv hkeep ?_ h as
  intro t ht as_of limit refs hrefs
  rcases ht.row with ⟨row, hrow, hstate, _⟩
  exact Catalog.not_proposed hrow hstate hrefs

/-- What the list covers, in every catalog at every time; and what becomes of an object whose collector is gone. -/
theorem candidates_cover_iff (db : Catalog) (now : Int) :
    (db.Covers now ↔
      ∀ d row, db.blob d = some row → row.claimable now → (db.object_retention_status d).allows now →
        row.lifecycle_state ≠ .gc_claimed ∧ row.Readable d) ∧
      ∀ (s : Collectors) (d : Digest), s.Crashed d → ∀ as : List Action,
        machine.AllStates
          (fun t => ∀ as_of limit refs, t.sys.db.candidates as_of limit = .ok refs → ∀ ref ∈ refs, ref.digest ≠ d)
          s as := by
  constructor
  · exact Catalog.covers_iff_unclaimed db now
  · intro s d h as
    exact h.allStates as

/-- A catalog with one object, claimed until `1`, and no collector at work. -/
def abandoned (d : Digest) : Collectors where
  sys := { System.initial with
    db := Catalog.empty.setBlob d
      ((ObjectBlob.ofRef ⟨d, 3, str "application/octet-stream", str "raw", casLocator d⟩ 0).claim (str "claim") 0 1) }
  run := fun _ => none

theorem abandoned_crashed (d : Digest) : (abandoned d).Crashed d where
  row := ⟨_, by rw [abandoned, Catalog.blob_setBlob, if_pos rfl], rfl, fun _ _ hw => by cases hw⟩
  unlisted := by
    intro w r hw
    cases hw

theorem abandoned_is_never_proposed :
    machine.AllStates
      (fun t => ∀ as_of limit refs, t.sys.db.candidates as_of limit = .ok refs →
        ∀ ref ∈ refs, ref.digest ≠ Digest.sha256 [1, 2, 3])
      (abandoned (Digest.sha256 [1, 2, 3])) [.operator (.tick 2000000), .start 0 2 100 300] :=
  (candidates_cover_iff (abandoned (Digest.sha256 [1, 2, 3])).sys.db 0).2 _ _ (abandoned_crashed _) _

/-- A collector lists an object past its retention, claims it for a second, and dies. -/
def crashRun : List Action :=
  let d := Digest.sha256 [1, 2, 3]
  [.publisher (.stage 0 [[1, 2, 3]] d 3 (str "application/octet-stream") (str "raw")),
    .publisher (.link 0 ⟨1, 2⟩ 1 10 100),
    .publisher (.register 0 false),
    .operator (.policy (str "short") ⟨0, 1, true⟩),
    .operator (.assign d (str "short") 0),
    .start 0 5000000 100 1,
    .claim 0 (str "claim"),
    .stop 0]

/-- Two seconds later the claim function would grant the object again, and the list does not have it. -/
theorem crashed_claim_is_not_listed : ∃ s, machine.Reachable s ∧ ¬s.sys.db.Covers 7000000 := by
  have hrun : ∃ s ∈ machine.run initial crashRun, ∃ row ∈ s.sys.db.blob (Digest.sha256 [1, 2, 3]),
      row.claimable 7000000 ∧ (s.sys.db.object_retention_status (Digest.sha256 [1, 2, 3])).allows 7000000 ∧
        row.lifecycle_state = .gc_claimed := by
    decide +kernel
  rcases hrun with ⟨s, hs, row, hrow, hclaimable, hallows, hstate⟩
  refine ⟨s, machine.run_reachable (.init rfl) hs, ?_⟩
  intro hcovers
  exact ((Catalog.covers_iff_unclaimed _ _).1 hcovers _ row hrow hclaimable hallows).1 hstate

end Collectors

end LeoFlow
