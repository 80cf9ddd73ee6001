import LeoFlow.Catalog.Objects

/-!
# LeoFlow.Catalog.Orphans — unregistered leaves in the catalog

Migrations 0014 and 0017: observation, claim, fence check and the two outcomes
of deleting a leaf no `object_blob` row registers. Every function first takes
the transaction-scoped advisory lock of its digest (`object_digest_fence`), as
registration does; who holds that lock is part of the system around the tables.
-/

namespace LeoFlow

/-- `ReconciliationCategory` -/
inductive ReconciliationCategory where
  | live
  | registered
  | tombstone
  | in_flight
  | unregistered
  | corrupt_name
deriving DecidableEq

namespace OrphanObservation

/-- A first observation, or a fresh one after the evidence changed. -/
def observe (locator : PyStr) (evidence : FileEvidence) (observed_at : Int) :
    OrphanObservation where
  locator := locator
  evidence := evidence
  first_observed_at := observed_at
  last_observed_at := observed_at
  state := .observed
  claim_token := none
  claimed_at := none
  deleted_at := none
  registered_at := none

def claim (o : OrphanObservation) (claim_token : PyStr) (claimed_at : Int) : OrphanObservation :=
  { o with state := .claimed, claim_token := some claim_token, claimed_at := some claimed_at }

def delete (o : OrphanObservation) (deleted_at : Int) : OrphanObservation :=
  { o with
    state := .deleted
    claim_token := none
    claimed_at := none
    deleted_at := some deleted_at }

/-- The row is an unresolved claim under this token. -/
def claimedBy (o : OrphanObservation) (claim_token : PyStr) : Prop :=
  o.state = .claimed ∧ o.claim_token = some claim_token

instance (o : OrphanObservation) (claim_token : PyStr) : Decidable (o.claimedBy claim_token) :=
  inferInstanceAs (Decidable (_ ∧ _))

end OrphanObservation

namespace Catalog

/-- The category of a digest that has an `object_blob` row. -/
def blobCategory : LifecycleState → ReconciliationCategory
  | .live => .live
  | .gc_deleted => .tombstone
  | .gc_claimed => .in_flight
  | .gc_delete_failed => .registered

/-- `observe_unregistered_object`; the evidence is non-negative by its type. -/
def observe_unregistered_object (db : Catalog) (observed_at : Int) (d : Digest) (locator : PyStr)
    (evidence : FileEvidence) : Except SqlError (Catalog × ReconciliationCategory) :=
  if locator ≠ casLocator d then .error .invalid_orphan_inventory_evidence
  else
    match db.blob d with
    | some row => .ok (db, blobCategory row.lifecycle_state)
    | none =>
      match db.orphan d with
      | none =>
        .ok ((db.setOrphan d (.observe locator evidence observed_at)).logOrphan
          ⟨d, .observed, none, none⟩, .unregistered)
      | some existing =>
        if existing.state = .claimed then .ok (db, .in_flight)
        else if (existing.evidence = evidence ∧ existing.locator = locator) ∧
            existing.state = .observed then
          .ok (db.setOrphan d { existing with last_observed_at := observed_at }, .unregistered)
        else
          .ok ((db.setOrphan d (.observe locator evidence observed_at)).logOrphan
            ⟨d, .evidence_changed, none, none⟩, .unregistered)

/-- A `UNIQUE (digest, event, claim_token)` conflict; null tokens never conflict. -/
def orphanEventExists (db : Catalog) (d : Digest) (event : OrphanEventKind) (claim_token : PyStr) :
    Prop :=
  ∃ e ∈ db.object_orphan_event, e.digest = d ∧ e.event = event ∧ e.claim_token = some claim_token

instance (db : Catalog) (d : Digest) (event : OrphanEventKind) (claim_token : PyStr) :
    Decidable (db.orphanEventExists d event claim_token) :=
  inferInstanceAs (Decidable (∃ e ∈ db.object_orphan_event, _))

/-- `claim_unregistered_object`: the claim in force is returned to whoever brings the
same evidence; a fresh one needs the evidence unchanged for the whole minimum age. -/
def claim_unregistered_object (db : Catalog) (claimed_at : Int) (d : Digest) (locator : PyStr)
    (evidence : FileEvidence) (claim_token : PyStr) (minimum_age_seconds : Int) :
    Except SqlError (Catalog × Option PyStr) :=
  if claim_token = [] ∨ minimum_age_seconds ≤ 0 then .error .invalid_orphan_claim
  else if (db.blob d).isSome then .ok (db, none)
  else
    match db.orphan d with
    | none => .ok (db, none)
    | some existing =>
      if existing.state = .claimed then
        if existing.evidence = evidence ∧ existing.locator = locator then
          .ok (db, existing.claim_token)
        else .ok (db, none)
      else if existing.state ≠ .observed ∨ ¬(existing.evidence = evidence ∧ existing.locator = locator)
          ∨ claimed_at < existing.first_observed_at + minimum_age_seconds * 1000000 then
        .ok (db, none)
      else if db.orphanEventExists d .claimed claim_token then .error .unique_violation
      else
        .ok ((db.setOrphan d (existing.claim claim_token claimed_at)).logOrphan
          ⟨d, .claimed, some claim_token, none⟩, some claim_token)

/-- `orphan_claim_is_current` -/
def orphan_claim_is_current (db : Catalog) (d : Digest) (locator : PyStr)
    (evidence : FileEvidence) (claim_token : PyStr) : Prop :=
  db.blob d = none ∧
    ∃ o ∈ db.orphan d, o.claimedBy claim_token ∧ o.evidence = evidence ∧ o.locator = locator

instance (db : Catalog) (d : Digest) (locator : PyStr) (evidence : FileEvidence)
    (claim_token : PyStr) : Decidable (db.orphan_claim_is_current d locator evidence claim_token) :=
  inferInstanceAs (Decidable (_ ∧ ∃ o ∈ db.orphan d, _))

/-- `complete_unregistered_object_delete` -/
def complete_unregistered_object_delete (db : Catalog) (completed_at : Int) (d : Digest)
    (claim_token : PyStr) : Except SqlError (Catalog × Bool) :=
  match db.orphan d with
  | none => .ok (db, false)
  | some o =>
    if ¬o.claimedBy claim_token then .ok (db, false)
    else if db.orphanEventExists d .deleted claim_token then .error .unique_violation
    else
      .ok ((db.setOrphan d (o.delete completed_at)).logOrphan
        ⟨d, .deleted, some claim_token, none⟩, true)

/-- `record_unregistered_object_delete_failure`: an ambiguous external failure stays
claimed; the event is recorded once per token. -/
def record_unregistered_object_delete_failure (db : Catalog) (d : Digest) (claim_token : PyStr)
    (detail : PyStr) : Except SqlError (Catalog × Bool) :=
  if detail = [] ∨ 1000 < detail.length then .error .invalid_orphan_delete_failure_detail
  else if ¬∃ o ∈ db.orphan d, o.claimedBy claim_token then .ok (db, false)
  else if db.orphanEventExists d .delete_failed claim_token then .ok (db, true)
  else .ok (db.logOrphan ⟨d, .delete_failed, some claim_token, some detail⟩, true)

/-! ## What each function can do -/

variable {db db' : Catalog} {d : Digest}

theorem observe_unregistered_object_ok {observed_at : Int} {locator : PyStr} {evidence : FileEvidence}
    {r : ReconciliationCategory} (h : observe_unregistered_object db observed_at d locator evidence = .ok (db', r)) :
    db' = db ∨
      db.blob d = none ∧ (∀ o ∈ db.orphan d, o.state ≠ .claimed) ∧
        ∃ o, o.state = .observed ∧ o.evidence = evidence ∧ o.locator = locator ∧
          (db' = db.setOrphan d o ∨
            ∃ kind, db' = (db.setOrphan d o).logOrphan ⟨d, kind, none, none⟩) := by
  unfold observe_unregistered_object at h
  split at h
  · cases h
  split at h
  · cases h
    exact Or.inl rfl
  rename_i hblob
  split at h
  · rename_i horphan
    cases h
    exact Or.inr ⟨hblob, by simp [horphan], _, rfl, rfl, rfl, Or.inr ⟨.observed, rfl⟩⟩
  rename_i existing horphan
  split at h
  · cases h
    exact Or.inl rfl
  rename_i hclaimed
  have hnone : ∀ o ∈ db.orphan d, o.state ≠ .claimed := by
    intro o ho
    rw [horphan] at ho
    cases ho
    exact hclaimed
  split at h
  · rename_i hsame
    cases h
    exact Or.inr ⟨hblob, hnone, { existing with last_observed_at := observed_at }, hsame.2,
      hsame.1.1, hsame.1.2, Or.inl rfl⟩
  · cases h
    exact Or.inr ⟨hblob, hnone, _, rfl, rfl, rfl, Or.inr ⟨.evidence_changed, rfl⟩⟩

variable {claim_token : PyStr}

theorem claim_unregistered_object_ok {claimed_at : Int} {locator : PyStr} {evidence : FileEvidence}
    {minimum_age_seconds : Int} {r : Option PyStr}
    (h : claim_unregistered_object db claimed_at d locator evidence claim_token minimum_age_seconds = .ok (db', r)) :
    db' = db ∧ (∀ t ∈ r, db.blob d = none ∧
        ∃ o ∈ db.orphan d, o.claimedBy t ∧ o.evidence = evidence ∧ o.locator = locator) ∨
      db.blob d = none ∧ r = some claim_token ∧
        ∃ o, db.orphan d = some o ∧ o.state = .observed ∧ o.evidence = evidence ∧
          o.locator = locator ∧ ¬db.orphanEventExists d .claimed claim_token ∧
          db' = (db.setOrphan d (o.claim claim_token claimed_at)).logOrphan
            ⟨d, .claimed, some claim_token, none⟩ := by
  unfold claim_unregistered_object at h
  split at h
  · cases h
  split at h
  · cases h
    exact Or.inl ⟨rfl, by simp⟩
  rename_i hblob
  have hblob : db.blob d = none := by simpa using hblob
  split at h
  · cases h
    exact Or.inl ⟨rfl, by simp⟩
  rename_i o horphan
  split at h
  · rename_i hstate
    split at h
    · rename_i hsame
      cases h
      refine Or.inl ⟨rfl, fun t ht => ⟨hblob, o, horphan, ⟨hstate, ht⟩, hsame⟩⟩
    · cases h
      exact Or.inl ⟨rfl, by simp⟩
  split at h
  · cases h
    exact Or.inl ⟨rfl, by simp⟩
  rename_i heligible
  split at h
  · cases h
  rename_i hevent
  cases h
  simp only [not_or, not_not] at heligible
  obtain ⟨hobserved, ⟨hev, hloc⟩, _⟩ := heligible
  exact Or.inr ⟨hblob, rfl, o, horphan, hobserved, hev, hloc, hevent, rfl⟩

theorem complete_unregistered_object_delete_ok {completed_at : Int} {r : Bool}
    (h : complete_unregistered_object_delete db completed_at d claim_token = .ok (db', r)) :
    db' = db ∧ r = false ∨
      ∃ o, db.orphan d = some o ∧ o.claimedBy claim_token ∧ r = true ∧
        db' = (db.setOrphan d (o.delete completed_at)).logOrphan
          ⟨d, .deleted, some claim_token, none⟩ := by
  unfold complete_unregistered_object_delete at h
  split at h
  · cases h
    exact Or.inl ⟨rfl, rfl⟩
  rename_i o ho
  split at h
  · cases h
    exact Or.inl ⟨rfl, rfl⟩
  rename_i hfence
  split at h
  · cases h
  cases h
  exact Or.inr ⟨o, ho, not_not.1 hfence, rfl, rfl⟩

theorem record_unregistered_object_delete_failure_ok {detail : PyStr} {r : Bool}
    (h : record_unregistered_object_delete_failure db d claim_token detail = .ok (db', r)) :
    db' = db ∨ db' = db.logOrphan ⟨d, .delete_failed, some claim_token, some detail⟩ := by
  unfold record_unregistered_object_delete_failure at h
  split at h
  · cases h
  split at h
  · cases h
    exact Or.inl rfl
  split at h
  · cases h
    exact Or.inl rfl
  · cases h
    exact Or.inr rfl

/-! ## The claims table -/

/-- An unresolved claim of `d` under `claim_token`. -/
structure ClaimOk (db : Catalog) (d : Digest) (claim_token : PyStr) : Prop where
  /-- nothing is registered under a claimed digest -/
  unregistered : db.blob d = none
  /-- a claim left its audit row -/
  claimed : db.orphanEventExists d .claimed claim_token
  /-- the token was not used up by a completed deletion -/
  not_deleted : ¬db.orphanEventExists d .deleted claim_token

/-- The invariant of the orphan tables. -/
structure OrphansOk (db : Catalog) : Prop where
  locator : ∀ d o, db.orphan d = some o → o.locator = casLocator d
  claim : ∀ d o, db.orphan d = some o → o.state = .claimed →
    ∃ claim_token, o.claim_token = some claim_token ∧ db.ClaimOk d claim_token
  deleted_claimed : ∀ d claim_token, db.orphanEventExists d .deleted claim_token →
    db.orphanEventExists d .claimed claim_token

theorem orphansOk_empty : OrphansOk empty where
  locator := by
    intro d o ho
    cases ho
  claim := by
    intro d o ho
    cases ho
  deleted_claimed := by
    rintro d t ⟨e, he, _⟩
    cases he

theorem orphanEventExists_logOrphan (db : Catalog) (e : OrphanEvent) (d : Digest)
    (event : OrphanEventKind) (claim_token : PyStr) :
    (db.logOrphan e).orphanEventExists d event claim_token ↔
      db.orphanEventExists d event claim_token ∨
        e.digest = d ∧ e.event = event ∧ e.claim_token = some claim_token := by
  simp only [orphanEventExists, events_logOrphan, List.mem_append, List.mem_singleton]
  constructor
  · rintro ⟨e', he' | rfl, h⟩
    · exact Or.inl ⟨e', he', h⟩
    · exact Or.inr h
  · rintro (⟨e', he', h⟩ | h)
    · exact ⟨e', Or.inl he', h⟩
    · exact ⟨e, Or.inr rfl, h⟩

/-- Rows may change while the claims table stays as it is, as long as no row appears
under a claimed digest. -/
theorem OrphansOk.of_blobs (h : OrphansOk db) (horphan : ∀ d, db'.orphan d = db.orphan d)
    (hevents : db'.object_orphan_event = db.object_orphan_event)
    (hblob : ∀ d o, db.orphan d = some o → o.state = .claimed → db.blob d = none → db'.blob d = none) : OrphansOk db' := by
  have hexists : ∀ d event t, db'.orphanEventExists d event t ↔ db.orphanEventExists d event t := by
    intro d event t
    unfold orphanEventExists
    rw [hevents]
  refine ⟨fun d o ho => h.locator d o (horphan d ▸ ho), fun d o ho hc => ?_, fun d t hd => ?_⟩
  · rw [horphan] at ho
    obtain ⟨t, ht, hok⟩ := h.claim d o ho hc
    refine ⟨t, ht, hblob d o ho hc hok.unregistered, (hexists _ _ _).2 hok.claimed, ?_⟩
    rw [hexists]
    exact hok.not_deleted
  · rw [hexists] at hd ⊢
    exact h.deleted_claimed d t hd

/-- One observation row is replaced and one event without a `deleted` mark logged. -/
theorem OrphansOk.setOrphan (h : OrphansOk db) {o : OrphanObservation} (hloc : o.locator = casLocator d)
    (hstate : o.state ≠ .claimed) : OrphansOk (db.setOrphan d o) where
  locator := by
    intro d' o' ho'
    rw [orphan_setOrphan] at ho'
    split at ho'
    · rename_i hd
      cases ho'
      rw [hd, hloc]
    · exact h.locator d' o' ho'
  claim := by
    intro d' o' ho' hc
    rw [orphan_setOrphan] at ho'
    split at ho'
    · cases ho'
      exact absurd hc hstate
    · obtain ⟨t, ht, hok⟩ := h.claim d' o' ho' hc
      exact ⟨t, ht, hok.unregistered, hok.claimed, hok.not_deleted⟩
  deleted_claimed := h.deleted_claimed

/-- Logging keeps the invariant unless it uses up the token of an unresolved claim. -/
theorem OrphansOk.logOrphan (h : OrphansOk db) {e : OrphanEvent}
    (hdeleted : ∀ t, e.event = .deleted → e.claim_token = some t → db.orphanEventExists e.digest .claimed t ∧ ∀ o ∈ db.orphan e.digest, o.state ≠ .claimed) : OrphansOk (db.logOrphan e) where
  locator := h.locator
  claim := by
    intro d o ho hc
    obtain ⟨t, ht, hok⟩ := h.claim d o ho hc
    refine ⟨t, ht, hok.unregistered, ?_, ?_⟩
    · rw [orphanEventExists_logOrphan]
      exact Or.inl hok.claimed
    · rw [orphanEventExists_logOrphan]
      rintro (hd | ⟨hd, hev, hk⟩)
      · exact hok.not_deleted hd
      · subst hd
        exact (hdeleted t hev hk).2 o ho hc
  deleted_claimed := by
    intro d t hd
    rw [orphanEventExists_logOrphan] at hd ⊢
    rcases hd with hd | ⟨hd, hev, hk⟩
    · exact Or.inl (h.deleted_claimed d t hd)
    · subst hd
      exact Or.inl (hdeleted t hev hk).1

/-- A fresh claim with its audit row. -/
theorem OrphansOk.claimOrphan (h : OrphansOk db) {o : OrphanObservation} {claimed_at : Int}
    (hnone : db.blob d = none) (hloc : o.locator = casLocator d)
    (hfresh : ¬db.orphanEventExists d .claimed claim_token) :
    OrphansOk ((db.setOrphan d (o.claim claim_token claimed_at)).logOrphan
      ⟨d, .claimed, some claim_token, none⟩) where
  locator := by
    intro d' o' ho'
    rw [orphan_logOrphan, orphan_setOrphan] at ho'
    split at ho'
    · rename_i hd
      cases ho'
      rw [hd]
      exact hloc
    · exact h.locator d' o' ho'
  claim := by
    intro d' o' ho' hc
    rw [orphan_logOrphan, orphan_setOrphan] at ho'
    split at ho'
    · rename_i hd
      cases ho'
      subst hd
      refine ⟨claim_token, rfl, hnone, ?_, ?_⟩
      · rw [orphanEventExists_logOrphan]
        exact Or.inr ⟨rfl, rfl, rfl⟩
      · rw [orphanEventExists_logOrphan]
        rintro (hd | ⟨_, hev, _⟩)
        · exact hfresh (h.deleted_claimed _ _ hd)
        · exact OrphanEventKind.noConfusion hev
    · obtain ⟨t, ht, hok⟩ := h.claim d' o' ho' hc
      refine ⟨t, ht, hok.unregistered, ?_, ?_⟩
      · rw [orphanEventExists_logOrphan]
        exact Or.inl hok.claimed
      · rw [orphanEventExists_logOrphan]
        rintro (hd | ⟨_, hev, _⟩)
        · exact hok.not_deleted hd
        · exact OrphanEventKind.noConfusion hev
  deleted_claimed := by
    intro d' t hd
    rw [orphanEventExists_logOrphan] at hd ⊢
    rcases hd with hd | ⟨_, hev, _⟩
    · exact Or.inl (h.deleted_claimed d' t hd)
    · exact OrphanEventKind.noConfusion hev

/-- What a reconciler's database calls do to the tables. -/
inductive OrphanStep (db : Catalog) : Catalog → Prop where
  | stay : OrphanStep db db
  | observe {observed_at d evidence db' r} :
    observe_unregistered_object db observed_at d (casLocator d) evidence = .ok (db', r) →
    OrphanStep db db'
  | claim {claimed_at d evidence claim_token minimum_age_seconds db' r} :
    claim_unregistered_object db claimed_at d (casLocator d) evidence claim_token
      minimum_age_seconds = .ok (db', r) →
    OrphanStep db db'
  | complete {completed_at d claim_token db' r} :
    complete_unregistered_object_delete db completed_at d claim_token = .ok (db', r) →
    OrphanStep db db'
  | record_failure {d claim_token detail db' r} :
    record_unregistered_object_delete_failure db d claim_token detail = .ok (db', r) →
    OrphanStep db db'

/-- None of them touches `object_blob`. -/
theorem OrphanStep.blob (h : OrphanStep db db') (d : Digest) :
    db'.blob d = db.blob d := by
  cases h with
  | stay => rfl
  | observe h =>
    rcases observe_unregistered_object_ok h with rfl | ⟨_, _, o, _, _, _, rfl | ⟨kind, rfl⟩⟩ <;> rfl
  | claim h =>
    rcases claim_unregistered_object_ok h with ⟨rfl, _⟩ | ⟨_, _, o, _, _, _, _, _, rfl⟩ <;> rfl
  | complete h =>
    rcases complete_unregistered_object_delete_ok h with ⟨rfl, _⟩ | ⟨o, _, _, _, rfl⟩ <;> rfl
  | record_failure h =>
    rcases record_unregistered_object_delete_failure_ok h with rfl | rfl <;> rfl

theorem OrphanStep.orphansOk (h : OrphanStep db db') (hok : OrphansOk db) :
    OrphansOk db' := by
  cases h with
  | stay => exact hok
  | observe h =>
    rcases observe_unregistered_object_ok h with rfl | ⟨_, _, o, hstate, _, hloc, hdb⟩
    · exact hok
    have hset : OrphansOk (db.setOrphan _ o) :=
      hok.setOrphan hloc (by rw [hstate]; exact fun h => OrphanState.noConfusion h)
    rcases hdb with rfl | ⟨kind, rfl⟩
    · exact hset
    · -- a null token is never used up
      exact hset.logOrphan (fun t _ ht => Option.noConfusion rfl (heq_of_eq ht))
  | claim h =>
    rcases claim_unregistered_object_ok h with ⟨rfl, _⟩ | ⟨hnone, _, o, ho, _, _, hloc, hfresh, rfl⟩
    · exact hok
    · exact hok.claimOrphan hnone hloc hfresh
  | @complete completed_at d _ _ _ h =>
    rcases complete_unregistered_object_delete_ok h with ⟨rfl, _⟩ | ⟨o, ho, ⟨hstate, htoken⟩, _, rfl⟩
    · exact hok
    have hloc := hok.locator _ o ho
    have hset := hok.setOrphan (o := o.delete completed_at) hloc (fun h => OrphanState.noConfusion h)
    -- the event uses up the token of the claim that this call resolved
    refine hset.logOrphan (fun t _ ht => ⟨?_, ?_⟩)
    · cases ht
      obtain ⟨t', ht', hclaim⟩ := hok.claim _ o ho hstate
      rw [htoken] at ht'
      cases ht'
      exact hclaim.claimed
    · intro o' ho'
      simp only [orphan_setOrphan, if_true, Option.mem_def, Option.some.injEq] at ho'
      subst ho'
      exact fun h => OrphanState.noConfusion h
  | record_failure h =>
    rcases record_unregistered_object_delete_failure_ok h with rfl | rfl
    · exact hok
    · exact hok.logOrphan (fun t he => OrphanEventKind.noConfusion he)

/-- Registration resolves no claim and registers nothing under one. -/
theorem OrphansOk.register (h : OrphansOk db) {registered_at : Int} {ref : ObjectRef}
    (hreg : db.register_live_object_blob registered_at ref = .ok db') :
    OrphansOk db' := by
  obtain ⟨hclaim, hdb⟩ := register_live_object_blob_ok hreg
  obtain ⟨horphan, hevents⟩ := orphans_insert_revive db registered_at ref
  have hmid : OrphansOk (reviveBlob (insertBlob db registered_at ref) registered_at ref) := by
    refine h.of_blobs horphan hevents (fun d o ho hc hnone => ?_)
    have hne : d ≠ ref.digest := by
      rintro rfl
      exact hclaim o ho hc
    rw [blob_insert_revive, if_neg hne, hnone]
  rcases hdb with rfl | rfl
  · exact hmid
  · unfold registerOrphan
    split
    · exact hmid
    · rename_i o ho
      split
      · exact hmid
      · have hset := hmid.setOrphan (o := { o with
            state := .registered
            claim_token := none
            claimed_at := none
            deleted_at := none
            registered_at := some registered_at }) (hmid.locator _ o ho)
          (fun h => OrphanState.noConfusion h)
        exact hset.logOrphan (fun t he => OrphanEventKind.noConfusion he)

end Catalog

end LeoFlow
