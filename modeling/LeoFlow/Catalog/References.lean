import LeoFlow.Catalog.Objects

/-!
# LeoFlow.Catalog.References — referenced objects stay live

A row that refers to an object is inserted under the trigger `object_blob_assert_live_reference` and never deleted,
and `gc_claim_object` claims no object with a live reference: a referenced object is live for good.
-/

namespace LeoFlow

namespace Catalog

/-- `object_blob.lifecycle_state = 'live'` -/
def isLive (db : Catalog) (d : Digest) : Bool := (db.blob d).any fun row => row.lifecycle_state = .live

variable {db : Catalog}

theorem isLive_iff {d : Digest} :
    db.isLive d = true ↔ ∃ row, db.blob d = some row ∧ row.lifecycle_state = .live := by
  unfold isLive
  rw [Option.any_eq_true]
  simp

/-- What the view `object_blob_live_reference` lists is live. -/
def ReferencesLive (db : Catalog) : Prop := ∀ d ∈ db.live_reference, db.isLive d = true

theorem referencesLive_empty : empty.ReferencesLive := by
  intro d hd
  cases hd

/-- The calls that touch the object catalog. -/
inductive ObjectCall where
  | register_live_object_blob (registered_at : Int) (ref : ObjectRef)
  /-- the policies and their assignments, as an operator sets them -/
  | retain (policies : Table PyStr RetentionPolicy) (assignments : List RetentionAssignment)
  | gc_claim_object (d : Digest) (claim_token : PyStr) (now claim_expires_at : Int)
  | gc_record_delete_failure (d : Digest) (claim_token : PyStr) (now : Int) (detail : PyStr)
  | gc_complete_object_delete (d : Digest) (claim_token : PyStr) (now : Int)
  /-- the reconciler of unregistered objects writes its own tables only -/
  | reconcile (observations : Table Digest OrphanObservation) (events : List OrphanEvent)
  /-- a row of any table that refers to an object -/
  | insertReference (d : Digest)

/-- What a call leaves; `none` when it raises. -/
def applyObjects (db : Catalog) : ObjectCall → Option Catalog
  | .register_live_object_blob registered_at ref => (db.register_live_object_blob registered_at ref).toOption
  | .retain policies assignments =>
    some { db with object_retention_policy := policies, object_retention_assignment := assignments }
  | .gc_claim_object d claim_token now claim_expires_at =>
    ((db.gc_claim_object d claim_token now claim_expires_at).map (·.1)).toOption
  | .gc_record_delete_failure d claim_token now detail =>
    ((db.gc_record_delete_failure d claim_token now detail).map (·.1)).toOption
  | .gc_complete_object_delete d claim_token now =>
    ((db.gc_complete_object_delete d claim_token now).map (·.1)).toOption
  | .reconcile observations events =>
    some { db with object_orphan_observation := observations, object_orphan_event := events }
  | .insertReference d => (db.insertReference d).toOption

theorem toOption_eq_some {ε α : Type} {x : Except ε α} {a : α} : x.toOption = some a ↔ x = .ok a := by
  cases x <;> simp [Except.toOption]

theorem map_fst_toOption {ε α β : Type} {x : Except ε (α × β)} {a : α} :
    (x.map (·.1)).toOption = some a ↔ ∃ b, x = .ok (a, b) := by
  cases x with
  | error e => simp [Except.toOption, Except.map]
  | ok p =>
    rcases p with ⟨a', b⟩
    simp [Except.toOption, Except.map]

variable {db' : Catalog} {a : ObjectCall}

/-- A live object stays live, unless a collector claims it; then nothing refers to it. -/
theorem isLive_or_unreferenced (h : db.applyObjects a = some db') {d : Digest} (hlive : db.isLive d = true) : db'.isLive d = true ∨ d ∉ db.live_reference := by
  rcases isLive_iff.1 hlive with ⟨row, hrow, hstate⟩
  have hkept : db'.blob d = db.blob d → db'.isLive d = true := by
    intro hblob
    exact isLive_iff.2 ⟨row, hblob.trans hrow, hstate⟩
  cases a with
  | register_live_object_blob registered_at ref =>
    have hblob := register_live_object_blob_blob (toOption_eq_some.1 h) d
    left
    by_cases hd : d = ref.digest
    · subst hd
      rw [if_pos rfl] at hblob
      apply hkept
      rw [hblob, registeredBlob, hrow]
      simp [hstate]
    · rw [if_neg hd] at hblob
      exact hkept hblob
  | retain policies assignments =>
    cases h
    exact Or.inl (hkept rfl)
  | gc_claim_object d' claim_token now claim_expires_at =>
    rcases map_fst_toOption.1 h with ⟨r, hr⟩
    rcases gc_claim_object_ok hr with ⟨rfl, _⟩ | ⟨row', hrow', _, hallows, _, _, _, rfl⟩
    · exact Or.inl hlive
    · by_cases hd : d = d'
      · -- the claim needs a reference count of zero
        subst hd
        right
        exact List.count_eq_zero.1 hallows.2.2.2
      · left
        apply hkept
        rw [blob_logGc, blob_setBlob, if_neg hd]
  | gc_record_delete_failure d' claim_token now detail =>
    rcases map_fst_toOption.1 h with ⟨r, hr⟩
    unfold gc_record_delete_failure at hr
    split at hr
    · cases hr
    · exact Or.inl (isLive_gcFinalize hr hlive)
  | gc_complete_object_delete d' claim_token now =>
    rcases map_fst_toOption.1 h with ⟨r, hr⟩
    exact Or.inl (isLive_gcFinalize hr hlive)
  | reconcile observations events =>
    cases h
    exact Or.inl (hkept rfl)
  | insertReference d' =>
    have hok := toOption_eq_some.1 h
    unfold insertReference at hok
    split at hok
    · cases hok
      exact Or.inl (hkept rfl)
    · cases hok
where
  isLive_gcFinalize {db db' : Catalog} {d d' : Digest} {claim_token : PyStr} {now : Int} {event : GcEvent}
      {detail : Option PyStr} {update : ObjectBlob → ObjectBlob} {r : Bool}
      (h : gcFinalize db d' claim_token now event detail update = .ok (db', r)) (hlive : db.isLive d = true) :
      db'.isLive d = true := by
    rcases gcFinalize_ok h with ⟨rfl, _⟩ | ⟨row', hrow', hclaimed, _, rfl⟩
    · exact hlive
    · rcases isLive_iff.1 hlive with ⟨row, hrow, hstate⟩
      by_cases hd : d = d'
      · subst hd
        rw [hrow] at hrow'
        cases hrow'
        rw [hclaimed.1] at hstate
        cases hstate
      · refine isLive_iff.2 ⟨row, ?_, hstate⟩
        rw [blob_logGc, blob_setBlob, if_neg hd, hrow]

theorem references_insert_revive (db : Catalog) (registered_at : Int) (ref : ObjectRef) :
    (reviveBlob (insertBlob db registered_at ref) registered_at ref).live_reference = db.live_reference := by
  have hinsert : (insertBlob db registered_at ref).live_reference = db.live_reference := by
    unfold insertBlob
    split <;> rfl
  unfold reviveBlob
  split
  · exact hinsert
  · split <;> exact hinsert

@[simp] theorem references_registerOrphan (db : Catalog) (registered_at : Int) (d : Digest) :
    (registerOrphan db registered_at d).live_reference = db.live_reference := by
  unfold registerOrphan
  split
  · rfl
  · split <;> rfl

/-- References are only added, and only to live objects. -/
theorem references_applyObjects (h : db.applyObjects a = some db') :
    db'.live_reference = db.live_reference ∨
      ∃ d, db'.live_reference = d :: db.live_reference ∧ db'.isLive d = true := by
  cases a with
  | register_live_object_blob registered_at ref =>
    left
    rcases (register_live_object_blob_ok (toOption_eq_some.1 h)).2 with rfl | rfl
    · exact references_insert_revive db registered_at ref
    · rw [references_registerOrphan, references_insert_revive]
  | retain policies assignments =>
    cases h
    exact Or.inl rfl
  | gc_claim_object d claim_token now claim_expires_at =>
    left
    rcases map_fst_toOption.1 h with ⟨r, hr⟩
    rcases gc_claim_object_ok hr with ⟨rfl, _⟩ | ⟨row, _, _, _, _, _, _, rfl⟩ <;> rfl
  | gc_record_delete_failure d claim_token now detail =>
    left
    rcases map_fst_toOption.1 h with ⟨r, hr⟩
    unfold gc_record_delete_failure at hr
    split at hr
    · cases hr
    · rcases gcFinalize_ok hr with ⟨rfl, _⟩ | ⟨row, _, _, _, rfl⟩ <;> rfl
  | gc_complete_object_delete d claim_token now =>
    left
    rcases map_fst_toOption.1 h with ⟨r, hr⟩
    rcases gcFinalize_ok hr with ⟨rfl, _⟩ | ⟨row, _, _, _, rfl⟩ <;> rfl
  | reconcile observations events =>
    cases h
    exact Or.inl rfl
  | insertReference d =>
    have hok := toOption_eq_some.1 h
    unfold insertReference at hok
    split at hok
    · rename_i hd
      cases hok
      exact Or.inr ⟨d, rfl, isLive_iff.2 hd⟩
    · cases hok

/-- Nothing takes a reference away. -/
theorem reference_mono (h : db.applyObjects a = some db') {d : Digest} (hd : d ∈ db.live_reference) : d ∈ db'.live_reference := by
  rcases references_applyObjects h with hsame | ⟨d', hcons, _⟩
  · rw [hsame]
    exact hd
  · rw [hcons]
    exact List.mem_cons_of_mem _ hd

theorem ReferencesLive.applyObjects (hlive : db.ReferencesLive) (h : db.applyObjects a = some db') : db'.ReferencesLive := by
  have hkept : ∀ d ∈ db.live_reference, db'.isLive d = true := by
    intro d hd
    rcases isLive_or_unreferenced h (hlive d hd) with hkept | hnone
    · exact hkept
    · exact absurd hd hnone
  intro d hd
  rcases references_applyObjects h with hsame | ⟨d', hcons, hnew⟩
  · rw [hsame] at hd
    exact hkept d hd
  · rw [hcons] at hd
    rcases List.mem_cons.1 hd with rfl | hold
    · exact hnew
    · exact hkept d hold

end Catalog

end LeoFlow
