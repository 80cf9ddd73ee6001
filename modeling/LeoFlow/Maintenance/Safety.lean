import LeoFlow.Maintenance.System

/-!
# LeoFlow.Maintenance.Safety — bytes behind live rows

`Safe`: the store holds the bytes of every object whose row is `live`. `Inv` is
the invariant of all processes together; under it, one step of each kind of
process keeps `Safe` exactly when it meets that kind's guard:

* a publisher's registration may only turn a row live while the leaf is there;
* a collector may only unlink a leaf whose row is not live;
* a reconciler's steps always keep `Safe`, because its unlink happens inside
  the digest lock that registration also takes.
-/

namespace LeoFlow

namespace PublisherPhase

/-- The reference a publisher is working for. -/
def ref : PublisherPhase → Option ObjectRef
  | .idle => none
  | .staged ref _ | .leaf_exists ref | .leaf_statted ref | .stored ref => some ref

end PublisherPhase

namespace System

/-- The store holds the bytes of every live object. -/
def Safe (s : System) : Prop :=
  ∀ d row, s.db.blob d = some row → row.lifecycle_state = .live → s.cas.Holds d row.byte_count

/-- The invariant of the whole system. -/
structure Inv (s : System) : Prop where
  /-- every leaf hashes to its name -/
  sound : s.cas.Sound
  /-- rows carry the store's own locator -/
  row_locator : ∀ d row, s.db.blob d = some row → row.locator = casLocator d
  /-- so do the references publishers hold -/
  ref_locator : ∀ p ref, (s.publisher p).ref = some ref → ref.locator = casLocator ref.digest
  /-- a staged temporary file was verified -/
  staged : ∀ p ref content, s.publisher p = .staged ref content →
    Digest.sha256 content = ref.digest ∧ content.length = ref.byte_count
  /-- inside `delete_under_fence` the digest lock is held and there is no row -/
  fenced : ∀ r d, (s.reconciler r).holds = some d → s.fence d = some r ∧ s.db.blob d = none
  /-- the orphan tables are in order -/
  orphans : s.db.OrphansOk

theorem initial_inv : Inv initial where
  sound := by
    intro d l hl
    cases hl
  row_locator := by
    intro d row hrow
    cases hrow
  ref_locator := by
    intro p ref hp
    cases hp
  staged := by
    intro p ref content hp
    cases hp
  fenced := by
    intro r d hr
    cases hr
  orphans := Catalog.orphansOk_empty

theorem initial_safe : Safe initial := by
  intro d row hrow
  cases hrow

/-- A row is live and its leaf is gone. -/
def Stranded (s : System) (d : Digest) : Prop :=
  (∃ row ∈ s.db.blob d, row.lifecycle_state = .live) ∧ s.cas.leaf d = none

instance (s : System) (d : Digest) : Decidable (Stranded s d) :=
  inferInstanceAs (Decidable ((∃ row ∈ s.db.blob d, _) ∧ _))

theorem not_safe_of_stranded {s : System} {d : Digest} (h : Stranded s d) : ¬Safe s := by
  obtain ⟨⟨row, hrow, hlive⟩, hleaf⟩ := h
  intro hsafe
  obtain ⟨l, hl, _⟩ := hsafe d row hrow hlive
  rw [hleaf] at hl
  cases hl

/-! ## Frame lemmas -/

section Frame

variable (s : System) (p : ProcId)

@[simp] theorem publisher_setPublisher (phase : PublisherPhase) (q : ProcId) :
    (s.setPublisher p phase).publisher q = if q = p then phase else s.publisher q := by
  simp [setPublisher, Function.update_apply]

@[simp] theorem collector_setCollector (phase : CollectorPhase) (q : ProcId) :
    (s.setCollector p phase).collector q = if q = p then phase else s.collector q := by
  simp [setCollector, Function.update_apply]

@[simp] theorem reconciler_setReconciler (phase : ReconcilerPhase) (q : ProcId) :
    (s.setReconciler p phase).reconciler q = if q = p then phase else s.reconciler q := by
  simp [setReconciler, Function.update_apply]

@[simp] theorem db_setPublisher (phase : PublisherPhase) : (s.setPublisher p phase).db = s.db := rfl

@[simp] theorem cas_setPublisher (phase : PublisherPhase) : (s.setPublisher p phase).cas = s.cas := rfl

@[simp] theorem db_setCollector (phase : CollectorPhase) : (s.setCollector p phase).db = s.db := rfl

@[simp] theorem cas_setCollector (phase : CollectorPhase) : (s.setCollector p phase).cas = s.cas := rfl

@[simp] theorem db_setReconciler (phase : ReconcilerPhase) :
    (s.setReconciler p phase).db = s.db := rfl

@[simp] theorem cas_setReconciler (phase : ReconcilerPhase) :
    (s.setReconciler p phase).cas = s.cas := rfl

@[simp] theorem fence_setReconciler (phase : ReconcilerPhase) :
    (s.setReconciler p phase).fence = s.fence := rfl

theorem fence_release (d : Digest) :
    (s.release p).fence d = if (s.reconciler p).holds = some d then none else s.fence d := by
  unfold release
  split
  · rename_i d' hp
    simp only [fence_setReconciler, Function.update_apply, hp, Option.some.injEq]
    simp only [eq_comm]
  · rename_i hp
    simp [hp]

theorem holds_release (q : ProcId) :
    ((s.release p).reconciler q).holds = if q = p then none else (s.reconciler q).holds := by
  unfold release
  split <;>
    · simp only [reconciler_setReconciler]
      split <;> rfl

@[simp] theorem publisher_release : (s.release p).publisher = s.publisher := by
  unfold release
  split <;> rfl

@[simp] theorem collector_release : (s.release p).collector = s.collector := by
  unfold release
  split <;> rfl

@[simp] theorem db_release : (s.release p).db = s.db := by
  unfold release
  split <;> rfl

@[simp] theorem cas_release : (s.release p).cas = s.cas := by
  unfold release
  split <;> rfl

end Frame

variable {t : System}

/-- A state with the same tables and store is as safe. -/
theorem safe_congr {s : System} (hdb : t.db = s.db) (hcas : t.cas = s.cas) :
    Safe t ↔ Safe s := by
  unfold Safe
  rw [hdb, hcas]

/-! ## What a step of each kind can do -/

variable {a : PublisherStep}

/-- A publisher's step changes neither tables nor store, or links a verified file,
or commits one publication transaction. -/
theorem publish_cases {s : System} (h : publish s a = some t) :
    t.db = s.db ∧ t.cas = s.cas ∧ (∀ p refer ref db, a = .register p refer →
        s.publisher p = .stored ref → publication s.db s.clock ref refer ≠ .ok db) ∨
      (∃ p ref content shard l, a = .link p shard l.device l.inode l.mtime_ns ∧
        s.publisher p = .staged ref content ∧ l.bytes = content ∧
        s.cas.link ref.digest shard l = some t.cas ∧ t.db = s.db) ∨
      ∃ p refer ref, a = .register p refer ∧ s.publisher p = .stored ref ∧
        s.fence ref.digest = none ∧ publication s.db s.clock ref refer = .ok t.db ∧
        t.cas = s.cas := by
  cases a with
  | stage p stream d n media_type format_id =>
    simp only [publish] at h
    split at h
    · cases h
      exact Or.inl ⟨rfl, rfl, by simp⟩
    · cases h
      exact Or.inl ⟨rfl, rfl, by simp⟩
    · cases h
  | link p shard device inode mtime_ns =>
    simp only [publish] at h
    split at h
    · rename_i ref content hp
      split at h
      · rename_i cas hlink
        cases h
        exact Or.inr (Or.inl ⟨p, ref, content, shard, _, rfl, hp, rfl, hlink, rfl⟩)
      · cases h
        exact Or.inl ⟨rfl, rfl, by simp⟩
    · cases h
  | verify_stat p =>
    simp only [publish] at h
    split at h
    · split at h <;> cases h <;> exact Or.inl ⟨rfl, rfl, by simp⟩
    · cases h
  | verify_read p =>
    simp only [publish] at h
    split at h
    · split at h <;> cases h <;> exact Or.inl ⟨rfl, rfl, by simp⟩
    · cases h
  | register p refer =>
    simp only [publish] at h
    split at h
    · rename_i ref hp
      split at h
      · cases h
      rename_i hfence
      split at h
      · rename_i db hpub
        cases h
        exact Or.inr (Or.inr ⟨p, refer, ref, rfl, hp, not_not.1 hfence, hpub, rfl⟩)
      · rename_i e hpub
        cases h
        refine Or.inl ⟨rfl, rfl, ?_⟩
        intro p' refer' ref' db ha hp' hok
        cases ha
        rw [hp] at hp'
        cases hp'
        rw [hpub] at hok
        cases hok
    · cases h
  | quit p =>
    simp only [publish, Option.some.injEq] at h
    subst h
    exact Or.inl ⟨rfl, rfl, by simp⟩

/-- What the collector's functions may do to the tables: rows are neither added nor
dropped, keep their locator, and those that change are not live afterwards. -/
structure Demotes (db db' : Catalog) : Prop where
  blob : ∀ d, db'.blob d = db.blob d ∨
    ∃ row row', db.blob d = some row ∧ db'.blob d = some row' ∧
      row'.lifecycle_state ≠ .live ∧ row'.locator = row.locator
  orphan : ∀ d, db'.orphan d = db.orphan d
  events : db'.object_orphan_event = db.object_orphan_event

theorem Demotes.refl (db : Catalog) : Demotes db db :=
  ⟨fun _ => Or.inl rfl, fun _ => rfl, rfl⟩

variable {db : Catalog}

theorem Demotes.setBlob {d : Digest} {row row' : ObjectBlob} {a : GcAttempt} (hrow : db.blob d = some row)
    (hstate : row'.lifecycle_state ≠ .live) (hloc : row'.locator = row.locator) : Demotes db ((db.setBlob d row').logGc a) where
  blob := by
    intro d'
    by_cases hd : d' = d
    · subst hd
      exact Or.inr ⟨row, row', hrow, by simp, hstate, hloc⟩
    · exact Or.inl (by simp [hd])
  orphan := fun _ => rfl
  events := rfl

variable {db' : Catalog}

/-- A row that is live after a demoting change was that row before. -/
theorem Demotes.live (h : Demotes db db') {d : Digest} {row : ObjectBlob} (hrow : db'.blob d = some row)
    (hlive : row.lifecycle_state = .live) :
    db.blob d = some row := by
  rcases h.blob d with heq | ⟨_, row', _, hrow', hstate, _⟩
  · rw [← heq]
    exact hrow
  · rw [hrow] at hrow'
    cases hrow'
    exact absurd hlive hstate

theorem Demotes.none_iff (h : Demotes db db') (d : Digest) :
    db'.blob d = none ↔ db.blob d = none := by
  rcases h.blob d with heq | ⟨row, row', hrow, hrow', _, _⟩
  · rw [heq]
  · simp [hrow, hrow']

/-- Both finalizers demote. -/
theorem Demotes.gcFinalize {d : Digest} {claim_token : PyStr} {now : Int} {event : GcEvent} {detail : Option PyStr}
    (update : ObjectBlob → ObjectBlob) {r : Bool} (hstate : ∀ row, (update row).lifecycle_state ≠ .live)
    (hloc : ∀ row, (update row).locator = row.locator)
    (h : db.gcFinalize d claim_token now event detail update = .ok (db', r)) : Demotes db db' := by
  rcases Catalog.gcFinalize_ok h with ⟨hdb, _⟩ | ⟨row, hrow, _, _, hdb⟩
  · rw [hdb]
    exact Demotes.refl db
  · rw [hdb]
    exact Demotes.setBlob hrow (hstate row) (hloc row)

/-- A collector's step demotes rows, or unlinks the leaf it claimed. -/
theorem collect_cases {s : System} {a : CollectorStep} (h : collect s a = some t) :
    (t.publisher = s.publisher ∧ t.fence = s.fence ∧ t.reconciler = s.reconciler) ∧
      (t.cas = s.cas ∧ Demotes s.db t.db ∧ (∀ w, a ≠ .unlink w) ∨
        ∃ w d claim_token, a = .unlink w ∧ s.collector w = .claimed d claim_token ∧
          t.cas = s.cas.unlink d ∧ t.db = s.db) := by
  cases a with
  | claim w d claim_token now expires =>
    simp only [collect] at h
    split at h
    · split at h
      · rename_i db row hclaim
        cases h
        refine ⟨⟨rfl, rfl, rfl⟩, Or.inl ⟨rfl, ?_, by simp⟩⟩
        rcases Catalog.gc_claim_object_ok hclaim with ⟨_, hr⟩ | ⟨row0, hrow0, _, _, _, _, _, hdb⟩
        · cases hr
        · subst hdb
          exact Demotes.setBlob hrow0 (fun h => LifecycleState.noConfusion h) rfl
      · cases h
        exact ⟨⟨rfl, rfl, rfl⟩, Or.inl ⟨rfl, Demotes.refl _, by simp⟩⟩
    · cases h
  | unlink w =>
    simp only [collect] at h
    split at h
    · rename_i d claim_token hw
      cases h
      exact ⟨⟨rfl, rfl, rfl⟩, Or.inr ⟨w, d, claim_token, rfl, hw, rfl, rfl⟩⟩
    · cases h
  | delete_error w =>
    simp only [collect] at h
    split at h
    · cases h
      exact ⟨⟨rfl, rfl, rfl⟩, Or.inl ⟨rfl, Demotes.refl _, by simp⟩⟩
    · cases h
  | complete w now =>
    simp only [collect] at h
    split at h
    · rename_i d claim_token hw
      cases h
      cases hc : s.db.gc_complete_object_delete d claim_token now with
      | error e => exact ⟨⟨rfl, rfl, rfl⟩, Or.inl ⟨rfl, Demotes.refl _, by simp⟩⟩
      | ok r =>
        obtain ⟨db', b⟩ := r
        have hdem : Demotes s.db db' :=
          Demotes.gcFinalize (·.gcDeleted now) (fun _ h => LifecycleState.noConfusion h)
            (fun _ => rfl) hc
        exact ⟨⟨rfl, rfl, rfl⟩, Or.inl ⟨rfl, hdem, by simp⟩⟩
    · cases h
  | fail w now detail =>
    simp only [collect] at h
    split at h
    · rename_i d claim_token hw
      cases h
      cases hc : s.db.gc_record_delete_failure d claim_token now detail with
      | error e => exact ⟨⟨rfl, rfl, rfl⟩, Or.inl ⟨rfl, Demotes.refl _, by simp⟩⟩
      | ok r =>
        obtain ⟨db', b⟩ := r
        unfold Catalog.gc_record_delete_failure at hc
        split at hc
        · cases hc
        have hdem : Demotes s.db db' :=
          Demotes.gcFinalize (·.deleteFailed detail) (fun _ h => LifecycleState.noConfusion h)
            (fun _ => rfl) hc
        exact ⟨⟨rfl, rfl, rfl⟩, Or.inl ⟨rfl, hdem, by simp⟩⟩
    · cases h
  | quit w =>
    simp only [collect, Option.some.injEq] at h
    subst h
    exact ⟨⟨rfl, rfl, rfl⟩, Or.inl ⟨rfl, Demotes.refl _, by simp⟩⟩

/-! ## The publication transaction -/

variable {ref : ObjectRef}

/-- A committed publication leaves exactly the row `registeredBlob` describes, and
that row is live under the reference's identity. -/
theorem publication_ok {clock : Int} {refer : Bool} (h : publication db clock ref refer = .ok db') :
    ∃ row, db.registeredBlob clock ref = some row ∧ row.lifecycle_state = .live ∧
      row.identifies ref ∧
      ∀ d, db'.blob d = if d = ref.digest then some row else db.blob d := by
  unfold publication at h
  cases hreg : db.register_live_object_blob clock ref with
  | error e => simp [hreg, bind, Except.bind] at h
  | ok db1 =>
    have hblob := Catalog.register_live_object_blob_blob hreg
    simp only [hreg, bind, Except.bind] at h
    split at h
    · cases h
    rename_i hlive
    obtain ⟨row, hrow, hstate, hid⟩ := not_not.1 hlive
    have hrow' : db.registeredBlob clock ref = some row := by
      rw [← hrow, hblob, if_pos rfl]
    refine ⟨row, hrow', hstate, hid, fun d => ?_⟩
    have hdb' : ∀ d, db'.blob d = db1.blob d := by
      intro d
      split at h
      · unfold Catalog.insertReference at h
        split at h <;> cases h
        rfl
      · cases h
        rfl
    rw [hdb', hblob, hrow']

/-- A committed publication met no unresolved orphan claim. -/
theorem publication_unclaimed {clock : Int} {refer : Bool} (h : publication db clock ref refer = .ok db') :
    ∀ o ∈ db.orphan ref.digest, o.state ≠ .claimed := by
  unfold publication at h
  cases hreg : db.register_live_object_blob clock ref with
  | error e => simp [hreg, bind, Except.bind] at h
  | ok db1 => exact (Catalog.register_live_object_blob_ok hreg).1

/-- Registration's branches that turn a row live: insertion, and the revival of a
tombstone with the same identity. An unresolved orphan claim fences both. -/
def TurnsLive (db : Catalog) (ref : ObjectRef) : Prop :=
  (∀ o ∈ db.orphan ref.digest, o.state ≠ .claimed) ∧
    (db.blob ref.digest = none ∨
      ∃ row ∈ db.blob ref.digest, row.lifecycle_state = .gc_deleted ∧ row.identifies ref)

/-- With the store's own locators, those branches do commit. -/
theorem publication_turnsLive (clock : Int) (refer : Bool)
    (hloc : ∀ d row, db.blob d = some row → row.locator = casLocator d) (href : ref.locator = casLocator ref.digest)
    (h : TurnsLive db ref) :
    ∃ db', publication db clock ref refer = .ok db' := by
  obtain ⟨hclaim, hturn⟩ := h
  -- the row after the first two statements
  have hrow : ∃ row, db.registeredBlob clock ref = some row ∧ row.lifecycle_state = .live ∧
      row.identifies ref := by
    unfold Catalog.registeredBlob
    rcases hturn with hnone | ⟨row, hrow, hstate, hid⟩
    · have hfree : ¬∃ e ∈ db.object_blob.entries, e.2.locator = ref.locator := by
        rintro ⟨⟨d, row⟩, hmem, heq⟩
        have hlook : db.blob d = some row := (Table.mem_entries_iff _ _ _).1 hmem
        have hd : d = ref.digest := by
          apply casLocator_injective
          rw [← hloc d row hlook, ← href]
          exact heq
        rw [hd, hnone] at hlook
        cases hlook
      rw [hnone]
      simp only [if_neg hfree]
      exact ⟨_, rfl, rfl, rfl, rfl, rfl, rfl⟩
    · rw [Option.mem_def.1 hrow]
      simp only [if_pos (And.intro hstate hid)]
      exact ⟨_, rfl, rfl, hid⟩
  obtain ⟨row, hrow, hstate, hid⟩ := hrow
  -- so registration does not raise, and the verification query finds the row
  have hfree : ¬db.Claimed ref.digest := by
    rintro ⟨o, ho, hstate⟩
    exact hclaim o ho hstate
  obtain ⟨db1, hreg⟩ := (db.register_ok_iff clock ref).2 hfree
  have hblob : db1.blob ref.digest = some row := by
    rw [Catalog.register_live_object_blob_blob hreg, if_pos rfl, hrow]
  have hlive : db1.LiveAs ref := ⟨row, hblob, hstate, hid⟩
  unfold publication
  simp only [hreg, bind, Except.bind, hlive, not_true_eq_false, if_false]
  cases refer with
  | false => exact ⟨db1, rfl⟩
  | true =>
    refine ⟨{ db1 with live_reference := ref.digest :: db1.live_reference }, ?_⟩
    simp only [if_true, Catalog.insertReference]
    rw [if_pos ⟨row, hblob, hstate⟩]

/-! ## One publisher step -/

/-- A registration turns its row live only while the leaf holds the object's bytes. -/
def PublisherGuard (s : System) : PublisherStep → Prop
  | .register p _ =>
    ∀ ref, s.publisher p = .stored ref → TurnsLive s.db ref →
      s.cas.Holds ref.digest ref.byte_count
  | _ => True

theorem publish_exact {s : System} (hinv : Inv s) (hsafe : Safe s) (h : publish s a = some t) : Safe t ↔ PublisherGuard s a := by
  rcases publish_cases h with ⟨hdb, hcas, hno⟩ | ⟨p, ref, content, shard, l, ha, _, _, hlink, hdb⟩ |
    ⟨p, refer, ref, ha, hp, _, hpub, hcas⟩
  · -- nothing committed: the guard's branch was not taken
    refine iff_of_true ((safe_congr hdb hcas).2 hsafe) ?_
    cases a with
    | register p refer =>
      intro ref hp hturn
      have hloc := hinv.ref_locator p ref (by rw [hp]; rfl)
      obtain ⟨db', hok⟩ := publication_turnsLive s.clock refer
        hinv.row_locator hloc hturn
      exact absurd hok (hno p refer ref db' rfl hp)
    | _ => trivial
  · -- a link only adds a leaf
    subst ha
    refine iff_of_true ?_ trivial
    intro d row hrow hlive
    rw [hdb] at hrow
    obtain ⟨l', hl', hsha, hlen⟩ := hsafe d row hrow hlive
    obtain ⟨hnone, hleaf⟩ := Cas.link_eq_some hlink
    have hne : d ≠ ref.digest := by
      rintro rfl
      rw [hnone] at hl'
      cases hl'
    exact ⟨l', by rw [hleaf, if_neg hne, hl'], hsha, hlen⟩
  · -- a committed publication changes one row
    subst ha
    obtain ⟨row, hreg, hstate, hid, hblob⟩ := publication_ok hpub
    have hother : ∀ d row', d ≠ ref.digest → t.db.blob d = some row' →
        row'.lifecycle_state = .live → t.cas.Holds d row'.byte_count := by
      intro d row' hd hrow' hlive
      rw [hblob, if_neg hd] at hrow'
      rw [hcas]
      exact hsafe d row' hrow' hlive
    have hown : t.db.blob ref.digest = some row := by rw [hblob, if_pos rfl]
    constructor
    · intro hsafe' ref' hp' _
      rw [hp] at hp'
      cases hp'
      have := hsafe' ref.digest row hown hstate
      rwa [hcas, hid.1] at this
    · intro hguard d row' hrow' hlive
      by_cases hd : d = ref.digest
      · subst hd
        rw [hown] at hrow'
        cases hrow'
        rw [hcas, hid.1]
        -- either the row was already live, or this registration turned it live
        unfold Catalog.registeredBlob at hreg
        cases hb : s.db.blob ref.digest with
        | none => exact hguard ref hp ⟨publication_unclaimed hpub, Or.inl hb⟩
        | some old =>
          rw [hb] at hreg
          by_cases hold : old.lifecycle_state = .gc_deleted ∧ old.identifies ref
          · exact hguard ref hp ⟨publication_unclaimed hpub, Or.inr ⟨old, hb, hold⟩⟩
          · simp only [if_neg hold, Option.some.injEq] at hreg
            subst hreg
            rw [← hid.1]
            exact hsafe ref.digest old hb hstate
      · exact hother d row' hd hrow' hlive

/-! ## One collector step -/

/-- A collector unlinks a leaf only while its row is not live. -/
def CollectorGuard (s : System) : CollectorStep → Prop
  | .unlink w =>
    ∀ d claim_token, s.collector w = .claimed d claim_token →
      ∀ row ∈ s.db.blob d, row.lifecycle_state ≠ .live
  | _ => True

theorem collect_exact {s : System} {a : CollectorStep} (hsafe : Safe s) (h : collect s a = some t) : Safe t ↔ CollectorGuard s a := by
  obtain ⟨_, ⟨hcas, hdem, hno⟩ | ⟨w, d, claim_token, ha, hw, hcas, hdb⟩⟩ := collect_cases h
  · refine iff_of_true ?_ ?_
    · intro d row hrow hlive
      rw [hcas]
      exact hsafe d row (hdem.live hrow hlive) hlive
    · cases a with
      | unlink w => exact absurd rfl (hno w)
      | _ => trivial
  · subst ha
    constructor
    · intro hsafe' d' claim_token' hw' row hrow hlive
      rw [hw] at hw'
      cases hw'
      obtain ⟨l, hl, _⟩ := hsafe' d row (hdb ▸ hrow) hlive
      rw [hcas, Cas.leaf_unlink, if_pos rfl] at hl
      cases hl
    · intro hguard d' row hrow hlive
      rw [hdb] at hrow
      have hne : d' ≠ d := by
        rintro rfl
        exact hguard d' claim_token hw row hrow hlive
      obtain ⟨l, hl, hsha, hlen⟩ := hsafe d' row hrow hlive
      exact ⟨l, by rw [hcas, Cas.leaf_unlink, if_neg hne, hl], hsha, hlen⟩

/-! ## One reconciler step -/

/-- How a reconciler's step moves the advisory locks. -/
inductive FenceMove (s t : System) : Prop where
  | stay (hfence : t.fence = s.fence)
    (hholds : ∀ r, (t.reconciler r).holds = (s.reconciler r).holds)
  | acquire (r : ProcId) (d : Digest) (hfree : s.fence d = none) (hnone : s.db.blob d = none)
    (hfence : t.fence = Function.update s.fence d (some r))
    (hholds : ∀ r', (t.reconciler r').holds = if r' = r then some d else (s.reconciler r').holds)
  | release (r : ProcId)
    (hfence : ∀ d, t.fence d = if (s.reconciler r).holds = some d then none else s.fence d)
    (hholds : ∀ r', (t.reconciler r').holds = if r' = r then none else (s.reconciler r').holds)

theorem FenceMove.setReconciler (s : System) {r : ProcId} {phase : ReconcilerPhase}
    (h : phase.holds = (s.reconciler r).holds) (db : Catalog) (cas : Cas) :
    FenceMove s ({ s with db, cas }.setReconciler r phase) := by
  refine .stay rfl (fun r' => ?_)
  rw [reconciler_setReconciler]
  split
  · rename_i hr
    rw [h, hr]
  · rfl

theorem FenceMove.ofRelease (s : System) (r : ProcId) (db : Catalog) :
    FenceMove s ({ s with db }.release r) :=
  .release r (fence_release { s with db } r) (holds_release { s with db } r)

/-- A reconciler's step calls at most one catalog function, and removes at most the
leaf whose evidence it has just found exact. -/
theorem reconcile_cases {s : System} {a : ReconcilerStep} (h : reconcile s a = some t) :
    (t.publisher = s.publisher ∧ t.collector = s.collector) ∧ s.db.OrphanStep t.db ∧
      FenceMove s t ∧
      (t.cas = s.cas ∨ ∃ r d evidence claim_token,
        s.reconciler r = .inspected d evidence claim_token ∧ t.cas = s.cas.unlink d) := by
  cases a with
  | inventory r d =>
    simp only [reconcile] at h
    split at h
    · rename_i hr _ _
      cases h
      exact ⟨⟨rfl, rfl⟩, .stay, .setReconciler s (by rw [hr]; rfl) s.db s.cas, Or.inl rfl⟩
    · cases h
  | resume r d =>
    simp only [reconcile] at h
    split at h
    · rename_i hr _
      split at h
      · cases h
        exact ⟨⟨rfl, rfl⟩, .stay, .setReconciler s (by rw [hr]; rfl) s.db s.cas, Or.inl rfl⟩
      · cases h
    · cases h
  | observe r =>
    simp only [reconcile] at h
    split at h
    · rename_i d evidence hr
      split at h
      · cases h
      split at h
      · rename_i db hobs
        cases h
        exact ⟨⟨rfl, rfl⟩, .observe hobs, .setReconciler s (by rw [hr]; rfl) db s.cas, Or.inl rfl⟩
      · rename_i db _ _ hobs
        cases h
        exact ⟨⟨rfl, rfl⟩, .observe hobs, .setReconciler s (by rw [hr]; rfl) db s.cas, Or.inl rfl⟩
      · cases h
        exact ⟨⟨rfl, rfl⟩, .stay, .setReconciler s (by rw [hr]; rfl) s.db s.cas, Or.inl rfl⟩
    · cases h
  | claim r minimum_age_seconds =>
    simp only [reconcile] at h
    split at h
    · rename_i d evidence hr
      split at h
      · cases h
      split at h
      · rename_i db claim_token hclaim
        cases h
        exact ⟨⟨rfl, rfl⟩, .claim hclaim, .setReconciler s (by rw [hr]; rfl) db s.cas, Or.inl rfl⟩
      · rename_i db hclaim
        cases h
        exact ⟨⟨rfl, rfl⟩, .claim hclaim, .setReconciler s (by rw [hr]; rfl) db s.cas, Or.inl rfl⟩
      · cases h
        exact ⟨⟨rfl, rfl⟩, .stay, .setReconciler s (by rw [hr]; rfl) s.db s.cas, Or.inl rfl⟩
    · cases h
  | open_fence r =>
    simp only [reconcile] at h
    split at h
    · rename_i d evidence claim_token hr
      split at h
      · cases h
      rename_i hfree
      split at h
      · rename_i hcurrent
        cases h
        refine ⟨⟨rfl, rfl⟩, .stay, .acquire r d (not_not.1 hfree) hcurrent.1 rfl ?_, Or.inl rfl⟩
        intro r'
        rw [reconciler_setReconciler]
        split <;> rfl
      · cases h
        exact ⟨⟨rfl, rfl⟩, .stay, .setReconciler s (by rw [hr]; rfl) s.db s.cas, Or.inl rfl⟩
    · cases h
  | inspect r =>
    simp only [reconcile] at h
    split at h
    · rename_i d evidence claim_token hr
      split at h <;> cases h <;>
        exact ⟨⟨rfl, rfl⟩, .stay, .setReconciler s (by rw [hr]; rfl) s.db s.cas, Or.inl rfl⟩
    · cases h
  | unlink r =>
    simp only [reconcile] at h
    split at h
    · rename_i d evidence claim_token hr
      cases h
      exact ⟨⟨rfl, rfl⟩, .stay, .setReconciler s (by rw [hr]; rfl) s.db (s.cas.unlink d),
        Or.inr ⟨r, d, evidence, claim_token, hr, rfl⟩⟩
    · cases h
  | delete_error r =>
    simp only [reconcile] at h
    split at h
    · rename_i d evidence claim_token hr
      cases h
      exact ⟨⟨rfl, rfl⟩, .stay, .setReconciler s (by rw [hr]; rfl) s.db s.cas, Or.inl rfl⟩
    · rename_i d evidence claim_token hr
      cases h
      exact ⟨⟨rfl, rfl⟩, .stay, .setReconciler s (by rw [hr]; rfl) s.db s.cas, Or.inl rfl⟩
    · cases h
  | complete r =>
    simp only [reconcile] at h
    split at h
    · rename_i d evidence claim_token hr
      split at h
      · rename_i db hdone
        cases h
        exact ⟨by simp, by simpa using .complete hdone, .ofRelease s r db, by simp⟩
      · cases h
        exact ⟨by simp, by simpa using .stay, .ofRelease s r s.db, by simp⟩
    · cases h
  | record_failure r detail =>
    simp only [reconcile] at h
    split at h
    · rename_i d evidence claim_token hr
      split at h
      · rename_i db hdone
        cases h
        exact ⟨by simp, by simpa using .record_failure hdone, .ofRelease s r db, by simp⟩
      · cases h
        exact ⟨by simp, by simpa using .stay, .ofRelease s r s.db, by simp⟩
    · cases h
  | quit r =>
    simp only [reconcile, Option.some.injEq] at h
    subst h
    exact ⟨by simp, by simpa using .stay, .ofRelease s r s.db, by simp⟩

/-- A reconciler never removes bytes behind a row: its unlink happens under the digest
lock, and there is no row when that lock is taken. -/
theorem reconcile_safe {s : System} {a : ReconcilerStep} (hinv : Inv s) (hsafe : Safe s)
    (h : reconcile s a = some t) : Safe t := by
  obtain ⟨_, hdb, _, hcas⟩ := reconcile_cases h
  intro d row hrow hlive
  rw [hdb.blob] at hrow
  rcases hcas with hcas | ⟨r, d', evidence, claim_token, hr, hcas⟩
  · rw [hcas]
    exact hsafe d row hrow hlive
  · have hne : d ≠ d' := by
      rintro rfl
      have hnone := (hinv.fenced r d (by rw [hr]; rfl)).2
      rw [hrow] at hnone
      cases hnone
    obtain ⟨l, hl, hsha, hlen⟩ := hsafe d row hrow hlive
    exact ⟨l, by rw [hcas, Cas.leaf_unlink, if_neg hne, hl], hsha, hlen⟩

/-! ## The invariant -/

/-- How one publisher's phase can change in a publisher's step. -/
inductive PhaseMove (s t : System) (p : ProcId) : Prop where
  | stay (h : t.publisher p = s.publisher p)
  | idle (h : t.publisher p = .idle)
  | stage (d : Digest) (n : Nat) (media_type format_id : PyStr) (content : Bytes)
    (h : t.publisher p = .staged (putRef d n media_type format_id) content)
    (hsha : Digest.sha256 content = d) (hlen : content.length = n)
  | link (ref : ObjectRef) (content : Bytes) (hs : s.publisher p = .staged ref content)
    (h : t.publisher p = .stored ref)
    (hleaf : ∃ l, t.cas.leaf ref.digest = some l ∧ l.bytes = content)
  | leaf_exists (ref : ObjectRef) (content : Bytes) (hs : s.publisher p = .staged ref content)
    (h : t.publisher p = .leaf_exists ref)
  | verify_stat (ref : ObjectRef) (hs : s.publisher p = .leaf_exists ref)
    (h : t.publisher p = .leaf_statted ref)
    (hleaf : ∃ l, s.cas.leaf ref.digest = some l ∧ l.bytes.length = ref.byte_count)
  | verify_read (ref : ObjectRef) (hs : s.publisher p = .leaf_statted ref)
    (h : t.publisher p = .stored ref)

theorem publish_phase {s : System} (h : publish s a = some t) (q : ProcId) :
    PhaseMove s t q := by
  -- only the moving publisher's phase changes
  have other : ∀ {u : System} {p : ProcId} {phase : PublisherPhase}, u.publisher = s.publisher →
      (q = p → PhaseMove s (u.setPublisher p phase) q) → PhaseMove s (u.setPublisher p phase) q := by
    intro u p phase hu hown
    by_cases hq : q = p
    · exact hown hq
    · refine .stay ?_
      rw [publisher_setPublisher, if_neg hq, hu]
  cases a with
  | stage p stream d n media_type format_id =>
    simp only [publish] at h
    split at h
    · rename_i content hp hstage
      obtain ⟨hsha, hlen⟩ := stage_ok hstage
      cases h
      refine other rfl fun hq => .stage d n media_type format_id content ?_ hsha hlen
      rw [publisher_setPublisher, if_pos hq]
    · cases h
      exact .stay rfl
    · cases h
  | link p shard device inode mtime_ns =>
    simp only [publish] at h
    split at h
    · rename_i ref content hp
      split at h
      · rename_i cas hlink
        cases h
        refine other rfl fun hq =>
          .link ref content (hq ▸ hp) ?_ ⟨⟨content, device, inode, mtime_ns⟩, ?_, rfl⟩
        · rw [publisher_setPublisher, if_pos hq]
        · rw [cas_setPublisher, (Cas.link_eq_some hlink).2, if_pos rfl]
      · cases h
        refine other rfl fun hq => .leaf_exists ref content (hq ▸ hp) ?_
        rw [publisher_setPublisher, if_pos hq]
    · cases h
  | verify_stat p =>
    simp only [publish] at h
    split at h
    · rename_i ref hp
      split at h
      · rename_i hok
        cases h
        refine other rfl fun hq => .verify_stat ref (hq ▸ hp) ?_ ?_
        · rw [publisher_setPublisher, if_pos hq]
        · unfold verifyStat at hok
          split at hok
          · cases hok
          rename_i l hl
          split at hok
          · cases hok
          · rename_i hlen
            exact ⟨l, hl, not_not.1 hlen⟩
      · cases h
        refine other rfl fun hq => .idle ?_
        rw [publisher_setPublisher, if_pos hq]
    · cases h
  | verify_read p =>
    simp only [publish] at h
    split at h
    · rename_i ref hp
      split at h
      · cases h
        refine other rfl fun hq => .verify_read ref (hq ▸ hp) ?_
        rw [publisher_setPublisher, if_pos hq]
      · cases h
        refine other rfl fun hq => .idle ?_
        rw [publisher_setPublisher, if_pos hq]
    · cases h
  | register p refer =>
    simp only [publish] at h
    split at h
    · split at h
      · cases h
      split at h <;> cases h <;>
        · refine other rfl fun hq => .idle ?_
          rw [publisher_setPublisher, if_pos hq]
    · cases h
  | quit p =>
    simp only [publish, Option.some.injEq] at h
    subst h
    refine other rfl fun hq => .idle ?_
    rw [publisher_setPublisher, if_pos hq]

/-- The processes of other kinds do not move in a publisher's step. -/
theorem publish_frame {s : System} (h : publish s a = some t) :
    t.collector = s.collector ∧ t.reconciler = s.reconciler ∧ t.fence = s.fence := by
  cases a <;> simp only [publish] at h <;> (repeat' split at h) <;> cases h <;> exact ⟨rfl, rfl, rfl⟩

/-- An operator changes neither rows, claims, store nor processes. -/
theorem operate_frame {s : System} {a : OperatorStep} (h : operate s a = some t) :
    (∀ d, t.db.blob d = s.db.blob d) ∧ (∀ d, t.db.orphan d = s.db.orphan d) ∧
      t.db.object_orphan_event = s.db.object_orphan_event ∧ t.cas = s.cas ∧
      t.publisher = s.publisher ∧ t.collector = s.collector ∧ t.reconciler = s.reconciler ∧
      t.fence = s.fence := by
  cases a with
  | refer d =>
    simp only [operate, Catalog.insertReference] at h
    split at h
    · rename_i db hdb
      split at hdb <;> cases hdb
      cases h
      exact ⟨fun _ => rfl, fun _ => rfl, rfl, rfl, rfl, rfl, rfl, rfl⟩
    · cases h
  | tick n =>
    simp only [operate, Option.some.injEq] at h
    subst h
    exact ⟨fun _ => rfl, fun _ => rfl, rfl, rfl, rfl, rfl, rfl, rfl⟩
  | policy policy_id policy =>
    simp only [operate] at h
    split at h <;> cases h
    exact ⟨fun _ => rfl, fun _ => rfl, rfl, rfl, rfl, rfl, rfl, rfl⟩
  | assign d policy_id assigned_at =>
    simp only [operate] at h
    split at h <;> cases h
    exact ⟨fun _ => rfl, fun _ => rfl, rfl, rfl, rfl, rfl, rfl, rfl⟩

theorem operate_safe {s : System} {a : OperatorStep} (hsafe : Safe s) (h : operate s a = some t) : Safe t := by
  obtain ⟨hblob, _, _, hcas, _⟩ := operate_frame h
  intro d row hrow hlive
  rw [hcas]
  exact hsafe d row (hblob d ▸ hrow) hlive

theorem publication_orphansOk {clock : Int} {refer : Bool} (hok : db.OrphansOk)
    (h : publication db clock ref refer = .ok db') : db'.OrphansOk := by
  unfold publication at h
  cases hreg : db.register_live_object_blob clock ref with
  | error e => simp [hreg, bind, Except.bind] at h
  | ok db1 =>
    have hmid := hok.register hreg
    simp only [hreg, bind, Except.bind] at h
    split at h
    · cases h
    split at h
    · unfold Catalog.insertReference at h
      split at h <;> cases h
      exact hmid.of_blobs (fun _ => rfl) rfl (fun _ _ _ _ hnone => hnone)
    · cases h
      exact hmid

theorem inv_publish {s : System} (hinv : Inv s) (h : publish s a = some t) : Inv t := by
  obtain ⟨_, hreconciler, hfence⟩ := publish_frame h
  have hcases := publish_cases h
  refine ⟨?_, ?_, ?_, ?_, ?_, ?_⟩
  · rcases hcases with ⟨_, hcas, _⟩ | ⟨p, ref, content, shard, l, _, hp, hl, hlink, _⟩ |
      ⟨_, _, _, _, _, _, _, hcas⟩
    · rw [hcas]
      exact hinv.sound
    · intro d l' hl'
      rw [(Cas.link_eq_some hlink).2] at hl'
      split at hl'
      · rename_i hd
        cases hl'
        rw [hd, hl]
        exact (hinv.staged p ref content hp).1
      · exact hinv.sound d l' hl'
    · rw [hcas]
      exact hinv.sound
  · rcases hcases with ⟨hdb, _, _⟩ | ⟨_, _, _, _, _, _, _, _, _, hdb⟩ |
      ⟨p, refer, ref, _, hp, _, hpub, _⟩
    · rw [hdb]
      exact hinv.row_locator
    · rw [hdb]
      exact hinv.row_locator
    · obtain ⟨row, _, _, hid, hblob⟩ := publication_ok hpub
      intro d row' hrow'
      rw [hblob] at hrow'
      split at hrow'
      · rename_i hd
        cases hrow'
        rw [hid.2.2.2, hinv.ref_locator p ref (by rw [hp]; rfl), hd]
      · exact hinv.row_locator d row' hrow'
  · intro q ref hq
    cases publish_phase h q with
    | stay hs => exact hinv.ref_locator q ref (hs ▸ hq)
    | idle hs =>
      rw [hs] at hq
      cases hq
    | stage d n media_type format_id content hs =>
      rw [hs] at hq
      cases hq
      rfl
    | link ref' content hs ht | leaf_exists ref' content hs ht | verify_stat ref' hs ht
    | verify_read ref' hs ht =>
      rw [ht] at hq
      cases hq
      exact hinv.ref_locator q ref (by rw [hs]; rfl)
  · intro q ref content hq
    cases publish_phase h q with
    | stay hs => exact hinv.staged q ref content (hs ▸ hq)
    | stage d n media_type format_id content' hs hsha hlen =>
      rw [hs] at hq
      cases hq
      exact ⟨hsha, hlen⟩
    | idle ht | link ref' content ht' ht | leaf_exists ref' content ht' ht
    | verify_stat ref' ht' ht | verify_read ref' ht' ht =>
      rw [ht] at hq
      cases hq
  · intro r d hr
    rw [hreconciler] at hr
    obtain ⟨hlock, hnone⟩ := hinv.fenced r d hr
    refine ⟨by rw [hfence]; exact hlock, ?_⟩
    rcases hcases with ⟨hdb, _, _⟩ | ⟨_, _, _, _, _, _, _, _, _, hdb⟩ |
      ⟨p, refer, ref, _, _, hfree, hpub, _⟩
    · rw [hdb]
      exact hnone
    · rw [hdb]
      exact hnone
    · -- registration would have waited for the lock
      obtain ⟨row, _, _, _, hblob⟩ := publication_ok hpub
      have hne : d ≠ ref.digest := by
        rintro rfl
        rw [hfree] at hlock
        cases hlock
      rw [hblob, if_neg hne]
      exact hnone
  · rcases hcases with ⟨hdb, _, _⟩ | ⟨_, _, _, _, _, _, _, _, _, hdb⟩ |
      ⟨p, refer, ref, _, _, _, hpub, _⟩
    · rw [hdb]
      exact hinv.orphans
    · rw [hdb]
      exact hinv.orphans
    · exact publication_orphansOk hinv.orphans hpub

theorem inv_collect {s : System} {a : CollectorStep} (hinv : Inv s) (h : collect s a = some t) : Inv t := by
  obtain ⟨⟨hpub, hfence, hrec⟩, hcase⟩ := collect_cases h
  have hdem : Demotes s.db t.db := by
    rcases hcase with ⟨_, hdem, _⟩ | ⟨_, _, _, _, _, _, hdb⟩
    · exact hdem
    · rw [hdb]
      exact Demotes.refl _
  refine ⟨?_, ?_, ?_, ?_, ?_, ?_⟩
  · rcases hcase with ⟨hcas, _, _⟩ | ⟨_, d, _, _, _, hcas, _⟩
    · rw [hcas]
      exact hinv.sound
    · rw [hcas]
      exact hinv.sound.unlink d
  · intro d row hrow
    rcases hdem.blob d with heq | ⟨row0, row', hrow0, hrow', _, hloc⟩
    · exact hinv.row_locator d row (heq ▸ hrow)
    · rw [hrow] at hrow'
      cases hrow'
      rw [hloc]
      exact hinv.row_locator d row0 hrow0
  · rw [hpub]
    exact hinv.ref_locator
  · rw [hpub]
    exact hinv.staged
  · intro r d hr
    rw [hrec] at hr
    obtain ⟨hlock, hnone⟩ := hinv.fenced r d hr
    exact ⟨by rw [hfence]; exact hlock, (hdem.none_iff d).2 hnone⟩
  · exact hinv.orphans.of_blobs hdem.orphan hdem.events fun d _ _ _ hnone => (hdem.none_iff d).2 hnone

theorem inv_reconcile {s : System} {a : ReconcilerStep} (hinv : Inv s) (h : reconcile s a = some t) : Inv t := by
  obtain ⟨⟨hpub, _⟩, hdb, hmove, hcas⟩ := reconcile_cases h
  refine ⟨?_, ?_, ?_, ?_, ?_, hdb.orphansOk hinv.orphans⟩
  · rcases hcas with hcas | ⟨_, d, _, _, _, hcas⟩
    · rw [hcas]
      exact hinv.sound
    · rw [hcas]
      exact hinv.sound.unlink d
  · intro d row hrow
    rw [hdb.blob] at hrow
    exact hinv.row_locator d row hrow
  · rw [hpub]
    exact hinv.ref_locator
  · rw [hpub]
    exact hinv.staged
  · intro r d hr
    rw [hdb.blob]
    cases hmove with
    | stay hfence hholds =>
      rw [hholds] at hr
      rw [hfence]
      exact hinv.fenced r d hr
    | acquire r0 d0 hfree hnone hfence hholds =>
      rw [hholds] at hr
      rw [hfence]
      split at hr
      · rename_i hr0
        cases hr
        exact ⟨by rw [hr0]; simp, hnone⟩
      · -- the lock taken was free, so it is not the one `r` holds
        obtain ⟨hlock, hnone'⟩ := hinv.fenced r d hr
        have hne : d ≠ d0 := by
          rintro rfl
          rw [hfree] at hlock
          cases hlock
        exact ⟨by rw [Function.update_of_ne hne, hlock], hnone'⟩
    | release r0 hfence hholds =>
      rw [hholds] at hr
      split at hr
      · cases hr
      · rename_i hne
        obtain ⟨hlock, hnone'⟩ := hinv.fenced r d hr
        refine ⟨?_, hnone'⟩
        rw [hfence, if_neg, hlock]
        -- one lock has one holder
        intro hr0
        obtain ⟨hlock0, _⟩ := hinv.fenced r0 d hr0
        rw [hlock] at hlock0
        cases hlock0
        exact hne rfl

theorem inv_operate {s : System} {a : OperatorStep} (hinv : Inv s) (h : operate s a = some t) : Inv t := by
  obtain ⟨hblob, horphan, hevents, hcas, hpub, _, hrec, hfence⟩ := operate_frame h
  refine ⟨?_, ?_, ?_, ?_, ?_, ?_⟩
  · rw [hcas]
    exact hinv.sound
  · intro d row hrow
    rw [hblob] at hrow
    exact hinv.row_locator d row hrow
  · rw [hpub]
    exact hinv.ref_locator
  · rw [hpub]
    exact hinv.staged
  · intro r d hr
    rw [hrec] at hr
    rw [hfence, hblob]
    exact hinv.fenced r d hr
  · exact hinv.orphans.of_blobs horphan hevents fun d _ _ _ hnone => by rw [hblob, hnone]

end System

end LeoFlow
