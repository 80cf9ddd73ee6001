import LeoFlow.Maintenance.Safety

/-!
# LeoFlow.Maintenance.Reconciliation — publishers against reconcilers

Publishers and delete-mode `reconcile_unregistered_objects` workers over one
store and one catalog. The digest lock and the claim fence registration, so a
reconciler itself never removes bytes behind a row (`reconcile_safe`). What is
left open is the other side: a publisher that found an old leaf in `put` may
register it after a reconciler has removed it and completed its claim.
-/

namespace LeoFlow

namespace Reconciliation

open LeoFlow.System

inductive Action where
  | publisher (a : PublisherStep)
  | reconciler (a : ReconcilerStep)
  | operator (a : OperatorStep)

def machine : Machine System Action where
  Init := fun s => s = initial
  step := fun s a =>
    match a with
    | .publisher a => publish s a
    | .reconciler a => reconcile s a
    | .operator a => operate s a

/-- What holds of publishers and reconcilers on top of the system's invariant. -/
structure Inv (s : System) : Prop extends System.Inv s where
  /-- nothing retires an object, so every row is live -/
  rows_live : ∀ d row, s.db.blob d = some row → row.lifecycle_state = .live

theorem initial_inv : Inv initial where
  toInv := System.initial_inv
  rows_live := by
    intro d row hrow
    cases hrow

theorem publisher_inv {s t : System} {a : PublisherStep} (hinv : Inv s)
    (h : publish s a = some t) : Inv t where
  toInv := inv_publish hinv.toInv h
  rows_live := by
    intro d row hrow
    rcases publish_cases h with ⟨hdb, _, _⟩ | ⟨_, _, _, _, _, _, _, _, _, hdb⟩ |
      ⟨p, refer, ref, _, _, _, hpub, _⟩
    · rw [hdb] at hrow
      exact hinv.rows_live d row hrow
    · rw [hdb] at hrow
      exact hinv.rows_live d row hrow
    · -- the committed row passed the adapter's verification query
      obtain ⟨row', _, hlive, _, hblob⟩ := publication_ok hpub
      rw [hblob] at hrow
      split at hrow
      · cases hrow
        exact hlive
      · exact hinv.rows_live d row hrow

theorem step_inv (s : System) (a : Action) (t : System) (hinv : Inv s)
    (h : machine.step s a = some t) : Inv t := by
  cases a with
  | publisher a => exact publisher_inv hinv h
  | reconciler a =>
    have hblob : ∀ d, t.db.blob d = s.db.blob d := (reconcile_cases h).2.1.blob
    refine ⟨inv_reconcile hinv.toInv h, ?_⟩
    intro d row hrow
    rw [hblob] at hrow
    exact hinv.rows_live d row hrow
  | operator a =>
    have hblob : ∀ d, t.db.blob d = s.db.blob d := (operate_frame h).1
    refine ⟨inv_operate hinv.toInv h, ?_⟩
    intro d row hrow
    rw [hblob] at hrow
    exact hinv.rows_live d row hrow

/-! ## Which steps register missing bytes -/

/-- A registration inserts its row (there is none, and no unresolved claim) only while
the leaf still holds the bytes that `put` linked or verified. -/
def Guard (s : System) : Action → Prop
  | .publisher (.register p _) =>
    ∀ ref, s.publisher p = .stored ref → s.db.blob ref.digest = none →
      (∀ o ∈ s.db.orphan ref.digest, o.state ≠ .claimed) →
      s.cas.Holds ref.digest ref.byte_count
  | _ => True

theorem step_exact (s : System) (a : Action) (t : System) (hinv : Inv s) (hsafe : Safe s)
    (h : machine.step s a = some t) : Safe t ↔ Guard s a := by
  cases a with
  | publisher a =>
    rw [publish_exact hinv.toInv hsafe h]
    cases a with
    | register p refer =>
      constructor
      · intro hguard ref hp hnone hclaim
        exact hguard ref hp ⟨hclaim, Or.inl hnone⟩
      · rintro hguard ref hp ⟨hclaim, hnone | ⟨row, hrow, hstate, _⟩⟩
        · exact hguard ref hp hnone hclaim
        · -- there are no tombstones
          have hlive := hinv.rows_live _ row hrow
          rw [hstate] at hlive
          cases hlive
    | _ => exact Iff.rfl
  | reconciler a => exact iff_of_true (reconcile_safe hinv.toInv hsafe h) trivial
  | operator a => exact iff_of_true (operate_safe hsafe h) trivial

/-- Over every run of publishers, reconcilers and operators: the bytes of every
registered object stay in place exactly when every step of the run meets the guard. -/
theorem registered_bytes_iff_guarded (as : List Action) :
    machine.AllStates Safe initial as ↔ machine.AllSteps Guard initial as :=
  machine.allStates_iff_allSteps step_inv step_exact initial_inv initial_safe as

/-! ## A run that registers missing bytes -/

/-- Publisher 0 crashes after its link. The leaf is observed, and a day later publisher
1 finds it in `put`; a reconciler claims, unlinks and completes it; then publisher
1 registers what it found. -/
def missingBytesRun : List Action :=
  let d := Digest.sha256 [1, 2, 3]
  [.publisher (.stage 0 [[1, 2, 3]] d 3 (str "application/octet-stream") (str "raw")),
    .publisher (.link 0 ⟨1, 2⟩ 1 10 100),
    .publisher (.quit 0),
    .reconciler (.inventory 0 d),
    .reconciler (.observe 0),
    .reconciler (.claim 0 86400),
    .operator (.tick 86400000000),
    .publisher (.stage 1 [[1, 2, 3]] d 3 (str "application/octet-stream") (str "raw")),
    .publisher (.link 1 ⟨1, 2⟩ 1 11 101),
    .publisher (.verify_stat 1),
    .publisher (.verify_read 1),
    .reconciler (.inventory 0 d),
    .reconciler (.observe 0),
    .reconciler (.claim 0 86400),
    .reconciler (.open_fence 0),
    .reconciler (.inspect 0),
    .reconciler (.unlink 0),
    .reconciler (.complete 0),
    .publisher (.register 1 true)]

theorem registered_bytes_can_be_missing : ∃ s, machine.Reachable s ∧ ¬Safe s := by
  have hrun : ∃ s ∈ machine.run initial missingBytesRun, s.Stranded (Digest.sha256 [1, 2, 3]) := by
    decide +kernel
  obtain ⟨s, hs, hstranded⟩ := hrun
  exact ⟨s, machine.run_reachable (.init rfl) hs, not_safe_of_stranded hstranded⟩

end Reconciliation

end LeoFlow
