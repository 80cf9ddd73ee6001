import LeoFlow.Maintenance.Safety

/-!
# LeoFlow.Maintenance.GarbageCollection — publishers against collectors

Publishers and `collect_objects` workers over one store and one catalog. The
collector's fence is the claim on the row; it says nothing about a publisher
that has already found the leaf and has not registered yet, and nothing about
the unlink of a worker whose claim has expired. So a live row can lose its
bytes, and `safe_iff_guarded` says exactly which steps do it.
-/

namespace LeoFlow

namespace Collection

open LeoFlow.System

inductive Action where
  | publisher (a : PublisherStep)
  | collector (a : CollectorStep)
  | operator (a : OperatorStep)

def machine : Machine System Action where
  Init := fun s => s = initial
  step := fun s a =>
    match a with
    | .publisher a => publish s a
    | .collector a => collect s a
    | .operator a => operate s a

/-- What holds of publishers and collectors on top of the system's invariant. -/
structure Inv (s : System) : Prop extends System.Inv s where
  /-- there is no reconciler, so nothing is ever observed -/
  no_orphans : ∀ d, s.db.orphan d = none
  /-- a leaf some publisher relies on is there until its digest is registered -/
  unregistered : ∀ p ref, s.publisher p = .leaf_statted ref ∨ s.publisher p = .stored ref →
    s.db.blob ref.digest = none → s.cas.Holds ref.digest ref.byte_count
  /-- a collector only works on registered digests -/
  claimed_row : ∀ w d claim_token, s.collector w = .claimed d claim_token → s.db.blob d ≠ none

theorem initial_inv : Inv initial where
  toInv := System.initial_inv
  no_orphans := fun _ => rfl
  unregistered := by
    intro p ref hp
    rcases hp with hp | hp <;> cases hp
  claimed_row := by
    intro w d claim_token hw
    cases hw

/-! ## Preservation -/

variable {s t : System}

/-- A publisher's step never takes a leaf away. -/
theorem publish_holds {a : PublisherStep} (h : publish s a = some t) {d : Digest} {n : Nat} (hd : s.cas.Holds d n) : t.cas.Holds d n := by
  rcases publish_cases h with ⟨_, hcas, _⟩ | ⟨p, ref, content, shard, l, _, _, _, hlink, _⟩ |
    ⟨_, _, _, _, _, _, _, hcas⟩
  · rw [hcas]
    exact hd
  · obtain ⟨hnone, hleaf⟩ := Cas.link_eq_some hlink
    obtain ⟨l', hl', hsha, hlen⟩ := hd
    have hne : d ≠ ref.digest := by
      rintro rfl
      rw [hnone] at hl'
      cases hl'
    exact ⟨l', by rw [hleaf, if_neg hne, hl'], hsha, hlen⟩
  · rw [hcas]
    exact hd

/-- A publisher's step drops no row. -/
theorem publish_none {a : PublisherStep} (h : publish s a = some t) {d : Digest} (hd : t.db.blob d = none) : s.db.blob d = none := by
  rcases publish_cases h with ⟨hdb, _, _⟩ | ⟨_, _, _, _, _, _, _, _, _, hdb⟩ |
    ⟨p, refer, ref, _, _, _, hpub, _⟩
  · rw [← hdb]
    exact hd
  · rw [← hdb]
    exact hd
  · obtain ⟨row, _, _, _, hblob⟩ := publication_ok hpub
    rw [hblob] at hd
    split at hd
    · cases hd
    · exact hd

/-- Without an observation, registration leaves the orphan table empty. -/
theorem publication_orphan {db db' : Catalog} {clock : Int} {ref : ObjectRef} {refer : Bool}
    (hnone : ∀ d, db.orphan d = none) (h : publication db clock ref refer = .ok db') (d : Digest) :
    db'.orphan d = none := by
  unfold publication at h
  cases hreg : db.register_live_object_blob clock ref with
  | error e => simp [hreg, bind, Except.bind] at h
  | ok db1 =>
    have horphan := (Catalog.orphans_insert_revive db clock ref).1
    have hmid : db1.orphan d = none := by
      obtain ⟨_, rfl | rfl⟩ := Catalog.register_live_object_blob_ok hreg
      · rw [horphan, hnone]
      · have hown := horphan ref.digest
        rw [hnone] at hown
        unfold Catalog.registerOrphan
        rw [hown]
        exact (horphan d).trans (hnone d)
    simp only [hreg, bind, Except.bind] at h
    split at h
    · cases h
    split at h
    · unfold Catalog.insertReference at h
      split at h <;> cases h
      exact hmid
    · cases h
      exact hmid

theorem publisher_inv {a : PublisherStep} (hinv : Inv s) (h : publish s a = some t) : Inv t where
  toInv := inv_publish hinv.toInv h
  no_orphans := by
    intro d
    rcases publish_cases h with ⟨hdb, _, _⟩ | ⟨_, _, _, _, _, _, _, _, _, hdb⟩ |
      ⟨p, refer, ref, _, _, _, hpub, _⟩
    · rw [hdb]
      exact hinv.no_orphans d
    · rw [hdb]
      exact hinv.no_orphans d
    · exact publication_orphan hinv.no_orphans hpub d
  unregistered := by
    intro q ref hq hnone
    have hnone' : s.db.blob ref.digest = none := publish_none h hnone
    cases publish_phase h q with
    | stay hs =>
      rw [hs] at hq
      exact publish_holds h (hinv.unregistered q ref hq hnone')
    | idle ht | stage _ _ _ _ _ ht | leaf_exists _ _ _ ht =>
      rw [ht] at hq
      rcases hq with hq | hq <;> cases hq
    | link ref' content hs ht hleaf =>
      rw [ht] at hq
      have href : ref' = ref := by
        rcases hq with hq | hq <;> cases hq
        rfl
      subst href
      obtain ⟨l, hl, hbytes⟩ := hleaf
      obtain ⟨hsha, hlen⟩ := hinv.staged q ref' content hs
      exact ⟨l, hl, hbytes ▸ hsha, hbytes ▸ hlen⟩
    | verify_stat ref' hs ht hleaf =>
      rw [ht] at hq
      have href : ref' = ref := by
        rcases hq with hq | hq <;> cases hq
        rfl
      subst href
      obtain ⟨l, hl, hlen⟩ := hleaf
      exact publish_holds h ⟨l, hl, hinv.sound _ l hl, hlen⟩
    | verify_read ref' hs ht =>
      rw [ht] at hq
      have href : ref' = ref := by
        rcases hq with hq | hq <;> cases hq
        rfl
      subst href
      exact publish_holds h (hinv.unregistered q ref' (Or.inl hs) hnone')
  claimed_row := by
    intro w d claim_token hw hnone
    rw [(publish_frame h).1] at hw
    exact hinv.claimed_row w d claim_token hw (publish_none h hnone)

/-- A collector that stands at a claim after a step stood there before, or has just
claimed a row. -/
theorem collect_phase {a : CollectorStep} (h : collect s a = some t) {w : ProcId} {d : Digest} {claim_token : PyStr}
    (hw : t.collector w = .claimed d claim_token) :
    s.collector w = .claimed d claim_token ∨ s.db.blob d ≠ none := by
  have other : ∀ {u : System} {v : ProcId} {phase : CollectorPhase}, u.collector = s.collector →
      (∀ d' t', phase ≠ .claimed d' t') →
      (u.setCollector v phase).collector w = .claimed d claim_token →
      s.collector w = .claimed d claim_token := by
    intro u v phase hu hphase hc
    rw [collector_setCollector] at hc
    split at hc
    · exact absurd hc (hphase d claim_token)
    · rw [← hu]
      exact hc
  cases a with
  | claim v d' claim_token' now expires =>
    simp only [collect] at h
    split at h
    · split at h
      · rename_i db row hclaim
        cases h
        rw [collector_setCollector] at hw
        split at hw
        · cases hw
          rcases Catalog.gc_claim_object_ok hclaim with ⟨_, hr⟩ | ⟨row0, hrow0, _⟩
          · cases hr
          · refine Or.inr (fun hnone => ?_)
            rw [hrow0] at hnone
            cases hnone
        · exact Or.inl hw
      · cases h
        exact Or.inl hw
    · cases h
  | unlink v | delete_error v =>
    simp only [collect] at h
    split at h
    · cases h
      exact Or.inl (other rfl (fun _ _ => CollectorPhase.noConfusion) hw)
    · cases h
  | complete v now =>
    simp only [collect] at h
    split at h
    · cases h
      refine Or.inl (other ?_ (fun _ _ => CollectorPhase.noConfusion) hw)
      unfold committed
      split <;> rfl
    · cases h
  | fail v now detail =>
    simp only [collect] at h
    split at h
    · cases h
      refine Or.inl (other ?_ (fun _ _ => CollectorPhase.noConfusion) hw)
      unfold committed
      split <;> rfl
    · cases h
  | quit v =>
    simp only [collect, Option.some.injEq] at h
    subst h
    exact Or.inl (other rfl (fun _ _ => CollectorPhase.noConfusion) hw)

theorem collector_inv {a : CollectorStep} (hinv : Inv s) (h : collect s a = some t) : Inv t := by
  obtain ⟨⟨hpub, _, _⟩, hcase⟩ := collect_cases h
  have hdem : Demotes s.db t.db := by
    rcases hcase with ⟨_, hdem, _⟩ | ⟨_, _, _, _, _, _, hdb⟩
    · exact hdem
    · rw [hdb]
      exact Demotes.refl _
  refine ⟨inv_collect hinv.toInv h, ?_, ?_, ?_⟩
  · intro d
    rw [hdem.orphan]
    exact hinv.no_orphans d
  · intro p ref hp hnone
    rw [hpub] at hp
    have hnone' := (hdem.none_iff _).1 hnone
    have hholds := hinv.unregistered p ref hp hnone'
    rcases hcase with ⟨hcas, _, _⟩ | ⟨w, d, claim_token, _, hw, hcas, _⟩
    · rw [hcas]
      exact hholds
    · -- the unlinked digest is registered, so it is another one
      have hne : ref.digest ≠ d := by
        rintro rfl
        exact hinv.claimed_row w _ claim_token hw hnone'
      obtain ⟨l, hl, hsha, hlen⟩ := hholds
      exact ⟨l, by rw [hcas, Cas.leaf_unlink, if_neg hne, hl], hsha, hlen⟩
  · intro w d claim_token hw hnone
    rcases collect_phase h hw with hs | hrow
    · exact hinv.claimed_row w d claim_token hs ((hdem.none_iff d).1 hnone)
    · exact hrow ((hdem.none_iff d).1 hnone)

theorem operator_inv {a : OperatorStep} (hinv : Inv s) (h : operate s a = some t) : Inv t := by
  obtain ⟨hblob, horphan, _, hcas, hpub, hcol, _, _⟩ := operate_frame h
  refine ⟨inv_operate hinv.toInv h, ?_, ?_, ?_⟩
  · intro d
    rw [horphan]
    exact hinv.no_orphans d
  · intro p ref hp hnone
    rw [hpub] at hp
    rw [hblob] at hnone
    rw [hcas]
    exact hinv.unregistered p ref hp hnone
  · intro w d claim_token hw
    rw [hcol] at hw
    rw [hblob]
    exact hinv.claimed_row w d claim_token hw

theorem step_inv (s : System) (a : Action) (t : System) (hinv : Inv s)
    (h : machine.step s a = some t) : Inv t := by
  cases a with
  | publisher a => exact publisher_inv hinv h
  | collector a => exact collector_inv hinv h
  | operator a => exact operator_inv hinv h

/-! ## Which steps strand a live row -/

/-- A registration revives a tombstone only while the leaf holds the object's bytes,
and a collector unlinks only while the row of its claim is not live. -/
def Guard (s : System) : Action → Prop
  | .publisher (.register p _) =>
    ∀ ref row, s.publisher p = .stored ref → s.db.blob ref.digest = some row →
      row.lifecycle_state = .gc_deleted → row.identifies ref →
      s.cas.Holds ref.digest ref.byte_count
  | .collector (.unlink w) =>
    ∀ d claim_token row, s.collector w = .claimed d claim_token → s.db.blob d = some row →
      row.lifecycle_state ≠ .live
  | _ => True

theorem step_exact (s : System) (a : Action) (t : System) (hinv : Inv s) (hsafe : Safe s)
    (h : machine.step s a = some t) : Safe t ↔ Guard s a := by
  cases a with
  | publisher a =>
    rw [publish_exact hinv.toInv hsafe h]
    cases a with
    | register p refer =>
      constructor
      · intro hguard ref row hp hrow hstate hid
        refine hguard ref hp ⟨?_, Or.inr ⟨row, hrow, hstate, hid⟩⟩
        intro o ho
        rw [hinv.no_orphans] at ho
        cases ho
      · rintro hguard ref hp ⟨_, hnone | ⟨row, hrow, hstate, hid⟩⟩
        · -- an unregistered leaf is still there
          exact hinv.unregistered p ref (Or.inr hp) hnone
        · exact hguard ref row hp hrow hstate hid
    | _ => exact Iff.rfl
  | collector a =>
    rw [collect_exact hsafe h]
    cases a with
    | unlink w =>
      constructor
      · intro hguard d claim_token row hw hrow
        exact hguard d claim_token hw row hrow
      · intro hguard d claim_token hw row hrow
        exact hguard d claim_token row hw hrow
    | _ => exact Iff.rfl
  | operator a => exact iff_of_true (operate_safe hsafe h) trivial

/-- Over every run of publishers, collectors and operators: no live row is ever
stranded exactly when every step of the run meets the guard. -/
theorem safe_iff_guarded (as : List Action) :
    machine.AllStates Safe initial as ↔ machine.AllSteps Guard initial as :=
  machine.allStates_iff_allSteps step_inv step_exact initial_inv initial_safe as

/-! ## A run that strands a live row -/

/-- Publisher 1 finds the leaf that publisher 0 put; then the object, unreferenced
and past its retention, is claimed, unlinked and completed; then publisher 1
registers what it found, and refers to it. -/
def strandingRun : List Action :=
  let d := Digest.sha256 [1, 2, 3]
  [.publisher (.stage 0 [[1, 2, 3]] d 3 (str "application/octet-stream") (str "raw")),
    .publisher (.link 0 ⟨1, 2⟩ 1 10 100),
    .publisher (.register 0 false),
    .operator (.policy (str "short") ⟨0, 1, true⟩),
    .operator (.assign d (str "short") 0),
    .publisher (.stage 1 [[1, 2, 3]] d 3 (str "application/octet-stream") (str "raw")),
    .publisher (.link 1 ⟨1, 2⟩ 1 11 101),
    .publisher (.verify_stat 1),
    .publisher (.verify_read 1),
    .collector (.claim 0 d (str "claim") 5000000 6000000),
    .collector (.unlink 0),
    .collector (.complete 0 5000000),
    .publisher (.register 1 true)]

theorem live_row_can_be_stranded : ∃ s, machine.Reachable s ∧ ¬Safe s := by
  have hrun : ∃ s ∈ machine.run initial strandingRun, s.Stranded (Digest.sha256 [1, 2, 3]) := by
    decide +kernel
  obtain ⟨s, hs, hstranded⟩ := hrun
  exact ⟨s, machine.run_reachable (.init rfl) hs, not_safe_of_stranded hstranded⟩

end Collection

end LeoFlow
