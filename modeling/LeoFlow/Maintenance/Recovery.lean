import LeoFlow.Maintenance.Safety

/-!
# LeoFlow.Maintenance.Recovery — one run of the reconciler, alone

`reconcile_unregistered_objects` as a sequential program over the store and the
catalog, from any state that publishers, collectors and reconcilers (some of
them crashed) can leave behind. The run resolves exactly the claims whose
exact-evidence check does not find another file.
-/

namespace LeoFlow

/-- `outcome` of one result. -/
inductive ReconciliationOutcome where
  | reported
  | not_eligible
  | skipped
  | delete_failed
  | deleted
deriving DecidableEq

/-- `ReconciliationResult` -/
structure ReconciliationResult where
  key : PyStr
  category : ReconciliationCategory
  outcome : ReconciliationOutcome
deriving DecidableEq

/-- `ReconciliationReport` -/
structure ReconciliationReport where
  results : List ReconciliationResult
  next_cursor : Option PyStr
  report_only : Bool
deriving DecidableEq

/-- `PendingClaim` -/
structure PendingClaim where
  digest : Digest
  evidence : FileEvidence
  claim_token : PyStr
deriving DecidableEq

/-- What a run raises. -/
inductive ReconciliationError where
  /-- "limit and minimum_age_seconds must be positive" -/
  | not_positive
  /-- "orphan delete failure lost its fence" -/
  | failure_lost_fence
  /-- "orphan delete completion lost its fence" -/
  | completion_lost_fence
  /-- "inventory cursor is not a relative CAS key" -/
  | bad_cursor
  /-- "CAS inventory scan budget exceeded" -/
  | budget_exceeded
  /-- an error of a database function -/
  | sql (e : SqlError)
deriving DecidableEq

/-- The store and the catalog of a run, and how often it has read the database clock. -/
structure Site where
  cas : Cas
  db : Catalog
  reads : Nat

/-- `f"orphan-delete:{type(error).__name__}"` of the one error a fault-free deletion
raises. -/
def evidenceChangedDetail : PyStr := str "orphan-delete:EvidenceChangedError"

/-- `pending_claims`: unresolved claims in digest order. -/
def Catalog.pending_claims (db : Catalog) (limit : Nat) : List PendingClaim :=
  let claimed := db.object_orphan_observation.entries.filter fun e => e.2.state = .claimed
  ((claimed.insertionSort fun a b => a.1.value ≤ b.1.value).take limit).map fun e =>
    ⟨e.1, e.2.evidence, e.2.claim_token.getD (str "None")⟩

/-- A cursor that `inventory` refuses: empty, absolute, or with a `..` component. -/
def badCursor (key : PyStr) : Prop :=
  key = [] ∨ key.head? = some 47 ∨ str ".." ∈ key.splitOn 47

instance (key : PyStr) : Decidable (badCursor key) :=
  inferInstanceAs (Decidable (_ ∨ _ ∨ _))

namespace Site

/-- A database call that reads the clock. -/
def called (w : Site) (db : Catalog) : Site := { w with db, reads := w.reads + 1 }

section Run

/-! The readings of the database clock are a parameter of the run. -/

variable (clock : Nat → Int)

/-- `delete_under_fence` with `delete = unlink_exact`. -/
def delete_under_fence (w : Site) (d : Digest) (evidence : FileEvidence) (claim_token : PyStr) :
    Except ReconciliationError ReconciliationOutcome × Site :=
  if ¬w.db.orphan_claim_is_current d (casLocator d) evidence claim_token then (.ok .skipped, w)
  else
    match w.cas.unlinkExact d evidence with
    | .error _ =>
      match w.db.record_unregistered_object_delete_failure d claim_token evidenceChangedDetail with
      | .ok (db, true) => (.ok .delete_failed, { w with db })
      | .ok (_, false) => (.error .failure_lost_fence, w)
      | .error e => (.error (.sql e), w)
    | .ok cas =>
      match w.db.complete_unregistered_object_delete (clock w.reads) d claim_token with
      | .ok (db, true) => (.ok .deleted, { w with cas }.called db)
      | .ok (_, false) => (.error .completion_lost_fence, { w with cas })
      | .error e => (.error (.sql e), { w with cas })

/-- The loop over the pending claims. -/
def resolve : List PendingClaim → Site → List ReconciliationResult →
    Except ReconciliationError (List ReconciliationResult) × Site
  | [], w, results => (.ok results, w)
  | c :: rest, w, results =>
    match w.delete_under_fence clock c.digest c.evidence c.claim_token with
    | (.ok outcome, w') => resolve rest w' (results ++ [⟨leafKey c.digest, .in_flight, outcome⟩])
    | (.error e, w') => (.error e, w')

/-- The loop body for one inventory entry. -/
def reconcileEntry (minimum_age_seconds : Int) (delete : Bool) (entry : InventoryEntry) (w : Site) :
    Except ReconciliationError ReconciliationResult × Site :=
  match entry with
  | .corrupt_name key => (.ok ⟨key, .corrupt_name, .reported⟩, w)
  | .canonical d evidence =>
    match w.db.observe_unregistered_object (clock w.reads) d (casLocator d) evidence with
    | .error e => (.error (.sql e), w)
    | .ok (db, category) =>
      let w := w.called db
      if category ≠ .unregistered ∨ delete = false then
        (.ok ⟨leafKey d, category, .reported⟩, w)
      else
        match w.db.claim_unregistered_object (clock w.reads) d (casLocator d) evidence
          (System.deterministic_claim_token d evidence) minimum_age_seconds with
        | .error e => (.error (.sql e), w)
        | .ok (db, none) => (.ok ⟨leafKey d, category, .not_eligible⟩, w.called db)
        | .ok (db, some claim_token) =>
          match (w.called db).delete_under_fence clock d evidence claim_token with
          | (.ok outcome, w) => (.ok ⟨leafKey d, category, outcome⟩, w)
          | (.error e, w) => (.error e, w)

/-- The loop over the inventory page. -/
def reconcileEntries (minimum_age_seconds : Int) (delete : Bool) :
    List InventoryEntry → Site → List ReconciliationResult →
      Except ReconciliationError (List ReconciliationResult) × Site
  | [], w, results => (.ok results, w)
  | entry :: rest, w, results =>
    match reconcileEntry clock minimum_age_seconds delete entry w with
    | (.ok result, w') => reconcileEntries minimum_age_seconds delete rest w' (results ++ [result])
    | (.error e, w') => (.error e, w')

/-- `reconcile_unregistered_objects`; `delete` says that a deleter is given. -/
def reconcile_unregistered_objects (w : Site) (after : Option PyStr) (limit : Nat)
    (minimum_age_seconds : Int) (delete : Bool) (scan_budget : Nat) :
    Except ReconciliationError ReconciliationReport × Site :=
  if limit = 0 ∨ minimum_age_seconds ≤ 0 then (.error .not_positive, w)
  else
    let pending := if delete then w.db.pending_claims limit else []
    match resolve clock pending w [] with
    | (.error e, w) => (.error e, w)
    | (.ok results, w) =>
      let remaining := limit - pending.length
      if remaining = 0 then (.ok ⟨results, after, false⟩, w)
      else if ∃ key ∈ after, badCursor key then (.error .bad_cursor, w)
      else if scan_budget < w.cas.directoryEntries then (.error .budget_exceeded, w)
      else
        let (batch, next_cursor) := w.cas.inventory after remaining
        match reconcileEntries clock minimum_age_seconds delete batch w results with
        | (.error e, w) => (.error e, w)
        | (.ok results, w) => (.ok ⟨results, next_cursor, !delete⟩, w)

end Run

end Site

namespace Catalog

/-- How many claims are unresolved. -/
def outstandingClaims (db : Catalog) : Nat :=
  (db.object_orphan_observation.entries.filter fun e => e.2.state = .claimed).length

/-- Under a sufficient limit every unresolved claim is pending, and nothing else is. -/
theorem mem_pending_claims {db : Catalog} {limit : Nat} (hlimit : db.outstandingClaims ≤ limit)
    (c : PendingClaim) :
    c ∈ db.pending_claims limit ↔ ∃ o, db.orphan c.digest = some o ∧ o.state = .claimed ∧
      c.evidence = o.evidence ∧ c.claim_token = o.claim_token.getD (str "None") := by
  have htake : ∀ l : List (Sigma fun _ : Digest => OrphanObservation),
      l.length ≤ limit → l.take limit = l := fun l hl => List.take_of_length_le hl
  unfold pending_claims
  dsimp only
  rw [htake _ (by rw [List.length_insertionSort]; exact hlimit)]
  simp only [List.mem_map, List.mem_insertionSort, List.mem_filter, decide_eq_true_eq]
  constructor
  · rintro ⟨⟨d, o⟩, ⟨hmem, hstate⟩, rfl⟩
    exact ⟨o, (Table.mem_entries_iff _ _ _).1 hmem, hstate, rfl, rfl⟩
  · rintro ⟨o, ho, hstate, hevidence, htoken⟩
    refine ⟨⟨c.digest, o⟩, ⟨(Table.mem_entries_iff _ _ _).2 ho, hstate⟩, ?_⟩
    rw [← hevidence, ← htoken]

/-- Pending claims are claims of different digests. -/
theorem pending_claims_nodup (db : Catalog) (limit : Nat) :
    ((db.pending_claims limit).map (·.digest)).Nodup := by
  have hkeys : (db.object_orphan_observation.entries.map Sigma.fst).Nodup :=
    db.object_orphan_observation.nodupKeys
  unfold pending_claims
  rw [List.map_map]
  refine (List.Nodup.sublist ((List.take_sublist _ _).map _) ?_)
  refine ((List.perm_insertionSort _ _).map _).nodup_iff.2 ?_
  exact List.Nodup.sublist (List.filter_sublist.map _) hkeys

end Catalog

namespace Site

/-- A step of the run that may resolve claims: the tables stay in order, and no check
starts to find another file. -/
structure Progress (w w' : Site) : Prop where
  orphans : w'.db.OrphansOk
  unchanged : ∀ d evidence, w.cas.inspect d evidence ≠ .changed →
    w'.cas.inspect d evidence ≠ .changed

variable {w : Site}

/-- `delete_under_fence` on a current claim does not raise; it resolves that claim
unless the check finds another file, and touches no other digest. -/
theorem delete_under_fence_current (clock : Nat → Int) (hok : w.db.OrphansOk) {d : Digest} {o : OrphanObservation}
    {claim_token : PyStr} (ho : w.db.orphan d = some o) (hstate : o.state = .claimed)
    (htoken : o.claim_token = some claim_token) :
    ∃ outcome w', w.delete_under_fence clock d o.evidence claim_token = (.ok outcome, w') ∧
      Progress w w' ∧
      (w'.db.Claimed d ↔ w.cas.inspect d o.evidence = .changed) ∧
      (∀ d', d' ≠ d → w'.db.orphan d' = w.db.orphan d') ∧
      ∀ d' evidence, d' ≠ d → w'.cas.inspect d' evidence = w.cas.inspect d' evidence := by
  obtain ⟨t, ht, hclaim⟩ := hok.claim d o ho hstate
  have htt : t = claim_token := by
    rw [htoken] at ht
    cases ht
    rfl
  subst htt
  have hcurrent : w.db.orphan_claim_is_current d (casLocator d) o.evidence t :=
    ⟨hclaim.unregistered, o, ho, ⟨hstate, htoken⟩, rfl, hok.locator d o ho⟩
  -- the completion: the token has no `deleted` event yet
  have hdone : ∀ at_, w.db.complete_unregistered_object_delete at_ d t =
      .ok ((w.db.setOrphan d (o.delete at_)).logOrphan ⟨d, .deleted, some t, none⟩, true) := by
    intro at_
    unfold Catalog.complete_unregistered_object_delete
    rw [ho]
    dsimp only
    rw [if_neg (not_not.2 ⟨hstate, htoken⟩), if_neg hclaim.not_deleted]
  -- the failure record: the detail is short enough
  have hfail : ∃ db, w.db.record_unregistered_object_delete_failure d t evidenceChangedDetail =
      .ok (db, true) ∧ ∀ d', db.orphan d' = w.db.orphan d' := by
    unfold Catalog.record_unregistered_object_delete_failure
    have hmine : ∃ o ∈ w.db.orphan d, o.claimedBy t := ⟨o, ho, hstate, htoken⟩
    rw [if_neg (by decide), if_neg (not_not.2 hmine)]
    split
    · exact ⟨_, rfl, fun _ => rfl⟩
    · exact ⟨_, rfl, fun _ => rfl⟩
  have hnot : ∀ at_, ¬((w.db.setOrphan d (o.delete at_)).logOrphan
      ⟨d, .deleted, some t, none⟩).Claimed d := by
    rintro at_ ⟨o', ho', hstate'⟩
    simp only [Catalog.orphan_logOrphan, Catalog.orphan_setOrphan, if_true, Option.mem_def,
      Option.some.injEq] at ho'
    subst ho'
    cases hstate'
  have hframe : ∀ at_ d', d' ≠ d → ((w.db.setOrphan d (o.delete at_)).logOrphan
      ⟨d, .deleted, some t, none⟩).orphan d' = w.db.orphan d' := by
    intro at_ d' hne
    rw [Catalog.orphan_logOrphan, Catalog.orphan_setOrphan, if_neg hne]
  unfold delete_under_fence
  rw [if_neg (not_not.2 hcurrent)]
  unfold Cas.unlinkExact
  rcases hinspect : w.cas.inspect d o.evidence with _ | _ | _
  case changed =>
    obtain ⟨db, hdb, horphan⟩ := hfail
    simp only [hdb]
    have hstep : w.db.OrphanStep db := .record_failure hdb
    refine ⟨_, _, rfl, ⟨hstep.orphansOk hok, fun _ _ h => h⟩, ?_, fun d' _ => horphan d', fun _ _ _ => rfl⟩
    have hstill : db.Claimed d := ⟨o, by rw [Option.mem_def, horphan, ho], hstate⟩
    exact iff_of_true hstill trivial
  case missing =>
    have hstep : w.db.OrphanStep _ := .complete (hdone (clock w.reads))
    simp only [hdone]
    refine ⟨_, _, rfl, ⟨hstep.orphansOk hok, fun _ _ h => h⟩, ?_, hframe _, fun _ _ _ => rfl⟩
    exact iff_of_false (hnot _) (fun h => Inspection.noConfusion h)
  case exact =>
    have hstep : w.db.OrphanStep _ := .complete (hdone (clock w.reads))
    simp only [hdone]
    refine ⟨_, _, rfl, ⟨hstep.orphansOk hok, ?_⟩, ?_, hframe _, ?_⟩
    · intro d' evidence h
      exact Cas.inspect_unlink_ne_changed h d
    · exact iff_of_false (hnot _) (fun h => Inspection.noConfusion h)
    · intro d' evidence hne
      exact Cas.inspect_unlink_ne hne evidence

/-! ## The loop over pending claims -/

theorem Progress.refl (hok : w.db.OrphansOk) : Progress w w := ⟨hok, fun _ _ h => h⟩

theorem Progress.trans {w' w'' : Site} (h : Progress w w') (h' : Progress w' w'') :
    Progress w w'' :=
  ⟨h'.orphans, fun d evidence hd => h'.unchanged d evidence (h.unchanged d evidence hd)⟩

/-- The loop over claims that are all unresolved, of different digests: afterwards a
digest is claimed if it was, and if its own check found another file. -/
theorem resolve_claims (clock : Nat → Int) {claims : List PendingClaim} (hok : w.db.OrphansOk)
    (hnodup : (claims.map (·.digest)).Nodup)
    (hmem : ∀ c ∈ claims, ∃ o, w.db.orphan c.digest = some o ∧ o.state = .claimed ∧ c.evidence = o.evidence ∧ o.claim_token = some c.claim_token)
    (results : List ReconciliationResult) :
    ∃ results' w', resolve clock claims w results = (.ok results', w') ∧ Progress w w' ∧
      ∀ d, w'.db.Claimed d ↔
        w.db.Claimed d ∧ ∀ c ∈ claims, c.digest = d → w.cas.inspect d c.evidence = .changed := by
  induction claims generalizing w results with
  | nil => exact ⟨results, w, rfl, Progress.refl hok, by simp⟩
  | cons c rest ih =>
    obtain ⟨o, ho, hstate, hevidence, htoken⟩ := hmem c List.mem_cons_self
    obtain ⟨outcome, w1, hrun, hprogress, hown, horphan, hinspect⟩ :=
      delete_under_fence_current clock hok ho hstate htoken
    rw [← hevidence] at hrun hown
    simp only [List.map_cons, List.nodup_cons] at hnodup
    obtain ⟨hfresh, hnodup'⟩ := hnodup
    have hne : ∀ c' ∈ rest, c'.digest ≠ c.digest := by
      intro c' hc' heq
      exact hfresh (List.mem_map.2 ⟨c', hc', heq⟩)
    have hmem' : ∀ c' ∈ rest, ∃ o, w1.db.orphan c'.digest = some o ∧ o.state = .claimed ∧
        c'.evidence = o.evidence ∧ o.claim_token = some c'.claim_token := by
      intro c' hc'
      rw [horphan _ (hne c' hc')]
      exact hmem c' (List.mem_cons_of_mem _ hc')
    obtain ⟨results', w2, hrest, hprogress', hclaimed⟩ :=
      ih hprogress.orphans hnodup' hmem' (results ++ [⟨leafKey c.digest, .in_flight, outcome⟩])
    refine ⟨results', w2, ?_, hprogress.trans hprogress', fun d => ?_⟩
    · unfold resolve
      rw [hrun]
      exact hrest
    rw [hclaimed]
    by_cases hd : d = c.digest
    · -- this claim: the rest of the loop does not meet its digest again
      subst hd
      have hrestne : ∀ c' ∈ rest, c'.digest = c.digest → w1.cas.inspect c.digest c'.evidence = .changed :=
        fun c' hc' heq => absurd heq (hne c' hc')
      constructor
      · rintro ⟨hc1, _⟩
        refine ⟨⟨o, ho, hstate⟩, fun c' hc' heq => ?_⟩
        rcases List.mem_cons.1 hc' with rfl | hc'
        · exact hown.1 hc1
        · exact absurd heq (hne c' hc')
      · rintro ⟨_, hall⟩
        exact ⟨hown.2 (hall c List.mem_cons_self rfl), hrestne⟩
    · -- another digest: this deletion is invisible to it
      have hsame : w1.db.Claimed d ↔ w.db.Claimed d := by
        unfold Catalog.Claimed
        rw [horphan d hd]
      rw [hsame]
      refine and_congr_right fun _ => ?_
      constructor
      · intro hall c' hc' heq
        rcases List.mem_cons.1 hc' with rfl | hc'
        · exact absurd heq.symm hd
        · rw [← hinspect d _ hd]
          exact hall c' hc' heq
      · intro hall c' hc' heq
        rw [hinspect d _ hd]
        exact hall c' (List.mem_cons_of_mem _ hc') heq

/-! ## The loop over the inventory -/

/-- Observation claims nothing and resolves nothing, and what it calls unregistered is
not claimed. -/
theorem observe_claimed {db db' : Catalog} {observed_at : Int} {d : Digest} {locator : PyStr}
    {evidence : FileEvidence} {r : ReconciliationCategory}
    (h : db.observe_unregistered_object observed_at d locator evidence = .ok (db', r)) :
    (∀ d', db'.Claimed d' ↔ db.Claimed d') ∧ (r = .unregistered → ¬db'.Claimed d) := by
  have hsame := Catalog.observe_unregistered_object_ok h
  constructor
  · rcases hsame with rfl | ⟨_, hnone, o, hstate, _, _, hdb⟩
    · exact fun _ => Iff.rfl
    · intro d'
      have horphan : db'.orphan d' = if d' = d then some o else db.orphan d' := by
        rcases hdb with rfl | ⟨kind, rfl⟩ <;> simp
      unfold Catalog.Claimed
      rw [horphan]
      split
      · -- the observed digest: not claimed before, observed now
        rename_i hd
        subst hd
        constructor
        · rintro ⟨o', ho', hc⟩
          cases ho'
          rw [hstate] at hc
          cases hc
        · rintro ⟨o', ho', hc⟩
          exact absurd hc (hnone o' ho')
      · exact Iff.rfl
  · rintro rfl ⟨o', ho', hc⟩
    unfold Catalog.observe_unregistered_object at h
    split at h
    · cases h
    split at h
    · rename_i row _
      simp only [Except.ok.injEq, Prod.mk.injEq] at h
      cases hrow : row.lifecycle_state <;> simp [hrow, Catalog.blobCategory] at h
    split at h
    · cases h
      simp only [Catalog.orphan_logOrphan, Catalog.orphan_setOrphan, if_true, Option.mem_def,
        Option.some.injEq] at ho'
      subst ho'
      cases hc
    split at h
    · cases h
    split at h
    · rename_i hkeep
      cases h
      simp only [Catalog.orphan_setOrphan, if_true, Option.mem_def, Option.some.injEq] at ho'
      subst ho'
      have hobserved := hkeep.2
      rw [hobserved] at hc
      cases hc
    · cases h
      simp only [Catalog.orphan_logOrphan, Catalog.orphan_setOrphan, if_true, Option.mem_def,
        Option.some.injEq] at ho'
      subst ho'
      cases hc

/-- One inventory entry whose leaf is as inventoried, or gone, leaves the set of claimed
digests as it was, whether or not the loop body raises: a claim it takes is resolved
at once. -/
theorem reconcileEntry_claimed (clock : Nat → Int) (minimum_age_seconds : Int) (delete : Bool)
    {entry : InventoryEntry} (hok : w.db.OrphansOk)
    (hentry : ∀ d evidence, entry = .canonical d evidence → w.cas.inspect d evidence ≠ .changed) :
    Progress w (reconcileEntry clock minimum_age_seconds delete entry w).2 ∧
      ∀ d, (reconcileEntry clock minimum_age_seconds delete entry w).2.db.Claimed d ↔
        w.db.Claimed d := by
  cases entry with
  | corrupt_name key => exact ⟨Progress.refl hok, fun _ => Iff.rfl⟩
  | canonical d evidence =>
    have hexact := hentry d evidence rfl
    unfold reconcileEntry
    dsimp only
    split
    · exact ⟨Progress.refl hok, fun _ => Iff.rfl⟩
    rename_i db1 category hobserve
    obtain ⟨hclaimed1, hfree⟩ := observe_claimed hobserve
    have hok1 : db1.OrphansOk := Catalog.OrphanStep.orphansOk (.observe hobserve) hok
    split
    · exact ⟨⟨hok1, fun _ _ h => h⟩, hclaimed1⟩
    rename_i hgo
    have hfree1 : ¬db1.Claimed d := by
      refine hfree ?_
      by_contra hcategory
      exact hgo (Or.inl hcategory)
    split
    · exact ⟨⟨hok1, fun _ _ h => h⟩, hclaimed1⟩
    · rename_i db2 hclaim
      -- refused: the tables did not change
      rcases Catalog.claim_unregistered_object_ok hclaim with ⟨rfl, _⟩ | ⟨_, hr, _⟩
      · exact ⟨⟨hok1, fun _ _ h => h⟩, hclaimed1⟩
      · cases hr
    · rename_i db2 claim_token hclaim
      have hok2 : db2.OrphansOk := Catalog.OrphanStep.orphansOk (.claim hclaim) hok1
      rcases Catalog.claim_unregistered_object_ok hclaim with ⟨_, hheld⟩ |
        ⟨_, hr, o, _, _, hevidence, _, _, hdb⟩
      · -- a claim in force would have been reported as in flight
        obtain ⟨_, o, ho, hby, _⟩ := hheld claim_token rfl
        exact absurd ⟨o, ho, hby.1⟩ hfree1
      · -- the fresh claim, and its deletion under the fence
        have hrow : ∀ d', db2.orphan d' = if d' = d then
            some (o.claim claim_token (clock (w.called db1).reads)) else db1.orphan d' := by
          intro d'
          cases hr
          rw [hdb, Catalog.orphan_logOrphan, Catalog.orphan_setOrphan]
          rfl
        obtain ⟨outcome, w', hrun, hprogress, hown, horphan, _⟩ :=
          delete_under_fence_current clock (w := (w.called db1).called db2) hok2
            ((hrow d).trans (if_pos rfl)) rfl rfl
        have hclaimEvidence : (o.claim claim_token (clock (w.called db1).reads)).evidence =
            evidence := hevidence
        rw [hclaimEvidence] at hrun hown
        rw [hrun]
        refine ⟨⟨hprogress.orphans, hprogress.unchanged⟩, fun d' => ?_⟩
        rw [← hclaimed1]
        by_cases hd : d' = d
        · subst hd
          refine iff_of_false ?_ hfree1
          rw [hown]
          exact hexact
        · have hother : w'.db.orphan d' = db1.orphan d' := by
            rw [horphan d' hd]
            exact (hrow d').trans (if_neg hd)
          unfold Catalog.Claimed
          rw [hother]

theorem reconcileEntries_claimed (clock : Nat → Int) (minimum_age_seconds : Int) (delete : Bool)
    {entries : List InventoryEntry} (hok : w.db.OrphansOk)
    (hentries : ∀ d evidence, .canonical d evidence ∈ entries → w.cas.inspect d evidence ≠ .changed)
    (results : List ReconciliationResult) (d : Digest) :
    (reconcileEntries clock minimum_age_seconds delete entries w results).2.db.Claimed d ↔
      w.db.Claimed d := by
  induction entries generalizing w results with
  | nil => exact Iff.rfl
  | cons entry rest ih =>
    have hentry : ∀ d evidence, entry = .canonical d evidence →
        w.cas.inspect d evidence ≠ .changed :=
      fun d evidence he => hentries d evidence (he ▸ List.mem_cons_self)
    obtain ⟨hprogress, hclaimed⟩ :=
      reconcileEntry_claimed clock minimum_age_seconds delete hok hentry
    unfold reconcileEntries
    split
    · rename_i result w' hrun
      rw [hrun] at hprogress hclaimed
      rw [← hclaimed d]
      refine ih hprogress.orphans (fun d' evidence hmem => ?_) _
      exact hprogress.unchanged d' evidence (hentries d' evidence (List.mem_cons_of_mem _ hmem))
    · rename_i e w' hrun
      rw [hrun] at hclaimed
      exact hclaimed d

/-! ## The whole run -/

/-- An inventoried leaf passes its own exact-evidence check. -/
theorem inspect_of_mem_inventory {c : Cas} {after : Option PyStr} {limit : Nat} {d : Digest}
    {evidence : FileEvidence} (h : .canonical d evidence ∈ (c.inventory after limit).1) :
    c.inspect d evidence = .exact := by
  have hall : .canonical d evidence ∈ c.allEntries := by
    unfold Cas.inventory at h
    dsimp only at h
    split at h
    · cases h
    · have hsorted := (List.mem_filter.1 (List.mem_of_mem_take h)).1
      exact (List.mem_insertionSort _).1 hsorted
  unfold Cas.allEntries at hall
  rcases List.mem_append.1 hall with hother | hleaf
  · obtain ⟨key, _, hkey⟩ := List.mem_map.1 hother
    cases hkey
  · obtain ⟨⟨d', l⟩, hmem, hentry⟩ := List.mem_filterMap.1 hleaf
    obtain ⟨parent, hparent, heq⟩ := Option.map_eq_some_iff.1 hentry
    simp only [InventoryEntry.canonical.injEq] at heq
    obtain ⟨hd, hevidence⟩ := heq
    have hl : c.leaf d' = some l := (Table.mem_entries_iff _ _ _).1 hmem
    dsimp only at hparent hevidence
    rw [← hd, ← hevidence]
    unfold Cas.inspect
    rw [hparent, hl]
    simp [fileEvidence]

/-- A delete-mode run whose limit covers the claims: a digest is claimed afterwards if
it was before and its check found another file. -/
theorem reconcile_claimed (clock : Nat → Int) (hok : w.db.OrphansOk) (after : Option PyStr) {limit : Nat}
    {minimum_age_seconds : Int} (scan_budget : Nat) (hlimit : w.db.outstandingClaims ≤ limit)
    (hpositive : 0 < limit) (hage : 0 < minimum_age_seconds) (d : Digest) :
    (w.reconcile_unregistered_objects clock after limit minimum_age_seconds true
        scan_budget).2.db.Claimed d ↔
      ∃ o, w.db.orphan d = some o ∧ o.state = .claimed ∧
        w.cas.inspect d o.evidence = .changed := by
  have hpending : ∀ c ∈ w.db.pending_claims limit, ∃ o, w.db.orphan c.digest = some o ∧
      o.state = .claimed ∧ c.evidence = o.evidence ∧ o.claim_token = some c.claim_token := by
    intro c hc
    obtain ⟨o, ho, hstate, hevidence, htoken⟩ := (Catalog.mem_pending_claims hlimit c).1 hc
    obtain ⟨t, ht, _⟩ := hok.claim _ o ho hstate
    refine ⟨o, ho, hstate, hevidence, ?_⟩
    rw [htoken, ht]
    rfl
  obtain ⟨results, w1, hresolve, hprogress, hclaimed⟩ :=
    resolve_claims clock hok (w.db.pending_claims_nodup limit) hpending []
  -- after the first loop
  have hfirst : w1.db.Claimed d ↔ ∃ o, w.db.orphan d = some o ∧ o.state = .claimed ∧
      w.cas.inspect d o.evidence = .changed := by
    rw [hclaimed]
    constructor
    · rintro ⟨⟨o, ho, hstate⟩, hall⟩
      have hmem := (Catalog.mem_pending_claims hlimit
        ⟨d, o.evidence, o.claim_token.getD (str "None")⟩).2 ⟨o, ho, hstate, rfl, rfl⟩
      exact ⟨o, ho, hstate, hall _ hmem rfl⟩
    · rintro ⟨o, ho, hstate, hchanged⟩
      refine ⟨⟨o, ho, hstate⟩, fun c hc hd => ?_⟩
      obtain ⟨o', ho', _, hevidence, _⟩ := (Catalog.mem_pending_claims hlimit c).1 hc
      rw [hd, ho] at ho'
      cases ho'
      rw [hevidence]
      exact hchanged
  rw [← hfirst]
  unfold reconcile_unregistered_objects
  rw [if_neg (by omega)]
  simp only [if_true, hresolve]
  split
  · exact Iff.rfl
  split
  · exact Iff.rfl
  split
  · exact Iff.rfl
  have hpage : ∀ d' evidence, .canonical d' evidence ∈ (w1.cas.inventory after
      (limit - (w.db.pending_claims limit).length)).1 → w1.cas.inspect d' evidence ≠ .changed := by
    intro d' evidence hmem
    rw [inspect_of_mem_inventory hmem]
    exact fun h => Inspection.noConfusion h
  have hsecond := reconcileEntries_claimed clock minimum_age_seconds true hprogress.orphans hpage
    results d
  split
  · rename_i hrun
    rw [hrun] at hsecond
    exact hsecond
  · rename_i hrun
    rw [hrun] at hsecond
    exact hsecond

end Site

namespace Recovery

open LeoFlow.System

inductive Action where
  | publisher (a : PublisherStep)
  | collector (a : CollectorStep)
  | reconciler (a : ReconcilerStep)
  | operator (a : OperatorStep)

/-- Everything that can happen before the run. -/
def machine : Machine System Action where
  Init := fun s => s = initial
  step := fun s a =>
    match a with
    | .publisher a => publish s a
    | .collector a => collect s a
    | .reconciler a => reconcile s a
    | .operator a => operate s a

theorem reachable_inv {s : System} (h : machine.Reachable s) : System.Inv s := by
  refine machine.init_invariant ?_ ?_ h
  · rintro s rfl
    exact System.initial_inv
  · intro s a t hinv hstep
    cases a with
    | publisher a => exact inv_publish hinv hstep
    | collector a => exact inv_collect hinv hstep
    | reconciler a => exact inv_reconcile hinv hstep
    | operator a => exact inv_operate hinv hstep

/-- The store and catalog a run starts from. -/
def site (s : System) : Site := ⟨s.cas, s.db, 0⟩

/-- From every reachable state, after one delete-mode run registration succeeds for
every object exactly when no unresolved claim names a leaf that another file has
replaced. -/
theorem claims_resolved_iff {s : System} (hs : machine.Reachable s) (clock : Nat → Int)
    (after : Option PyStr) {limit : Nat} {minimum_age_seconds : Int} (scan_budget : Nat)
    (hage : 0 < minimum_age_seconds)
    (hlimit : s.db.outstandingClaims + s.cas.allEntries.length ≤ limit) :
    (∀ registered_at ref, ∃ db', ((site s).reconcile_unregistered_objects clock after limit
        minimum_age_seconds true scan_budget).2.db.register_live_object_blob registered_at ref =
          .ok db') ↔
      ∀ d o, s.db.orphan d = some o → o.state = .claimed →
        s.cas.inspect d o.evidence ≠ .changed := by
  have hok : (site s).db.OrphansOk := (reachable_inv hs).orphans
  have hclaimed : ∀ d, ((site s).reconcile_unregistered_objects clock after limit
      minimum_age_seconds true scan_budget).2.db.Claimed d ↔
        ∃ o, s.db.orphan d = some o ∧ o.state = .claimed ∧
          s.cas.inspect d o.evidence = .changed := by
    intro d
    rcases Nat.eq_zero_or_pos limit with hzero | hpositive
    · -- a limit of zero covers only a state without claims
      have hnone : ¬∃ o, s.db.orphan d = some o ∧ o.state = .claimed := by
        rintro ⟨o, ho, hstate⟩
        have hmem : (⟨d, o⟩ : Sigma fun _ : Digest => OrphanObservation) ∈
            s.db.object_orphan_observation.entries.filter fun e => e.2.state = .claimed :=
          List.mem_filter.2 ⟨(Table.mem_entries_iff _ _ _).2 ho, by simp [hstate]⟩
        have hlen := List.length_pos_of_mem hmem
        unfold Catalog.outstandingClaims at hlimit
        omega
      have hrun : ((site s).reconcile_unregistered_objects clock after limit
          minimum_age_seconds true scan_budget).2 = site s := by
        unfold Site.reconcile_unregistered_objects
        rw [if_pos (Or.inl hzero)]
      rw [hrun]
      refine iff_of_false ?_ ?_
      · rintro ⟨o, ho, hstate⟩
        exact hnone ⟨o, ho, hstate⟩
      · rintro ⟨o, ho, hstate, _⟩
        exact hnone ⟨o, ho, hstate⟩
    · have hclaims : (site s).db.outstandingClaims ≤ limit := Nat.le_trans (Nat.le_add_right _ _) hlimit
      exact Site.reconcile_claimed clock hok after scan_budget hclaims hpositive hage d
  constructor
  · intro hall d o ho hstate hchanged
    have hfree := (Catalog.register_ok_iff _ 0 ⟨d, 0, [], [], []⟩).1 (hall 0 ⟨d, 0, [], [], []⟩)
    exact hfree ((hclaimed d).2 ⟨o, ho, hstate, hchanged⟩)
  · intro hall registered_at ref
    refine (Catalog.register_ok_iff _ registered_at ref).2 ?_
    rw [hclaimed]
    rintro ⟨o, ho, hstate, hchanged⟩
    exact hall ref.digest o ho hstate hchanged

/-! ## Two crashes of a reconciler -/

/-- A leaf without a row is observed and, a day later, claimed; the reconciler has
checked the leaf under the fence. -/
def claimedRun : List Action :=
  let d := Digest.sha256 [1, 2, 3]
  [.publisher (.stage 0 [[1, 2, 3]] d 3 (str "application/octet-stream") (str "raw")),
    .publisher (.link 0 ⟨1, 2⟩ 1 10 100),
    .publisher (.quit 0),
    .reconciler (.inventory 0 d),
    .reconciler (.observe 0),
    .reconciler (.claim 0 86400),
    .operator (.tick 86400000000),
    .reconciler (.inventory 0 d),
    .reconciler (.observe 0),
    .reconciler (.claim 0 86400),
    .reconciler (.open_fence 0),
    .reconciler (.inspect 0)]

/-- It crashes before its unlink. -/
def crashBeforeUnlink : List Action := claimedRun ++ [.reconciler (.quit 0)]

/-- It crashes between its unlink and the completion; then the same content is put
again, as a new file. -/
def crashAfterUnlink : List Action :=
  claimedRun ++
    [.reconciler (.unlink 0),
      .reconciler (.quit 0),
      .publisher (.stage 1 [[1, 2, 3]] (Digest.sha256 [1, 2, 3]) 3
        (str "application/octet-stream") (str "raw")),
      .publisher (.link 1 ⟨1, 2⟩ 1 11 200)]

/-- Every claim of a digest in the table passes its check, or finds nothing. -/
def resolvable (s : System) : Prop :=
  ∀ e ∈ s.db.object_orphan_observation.entries, e.2.state = .claimed →
    s.cas.inspect e.1 e.2.evidence ≠ .changed

instance (s : System) : Decidable (resolvable s) :=
  inferInstanceAs (Decidable (∀ e ∈ s.db.object_orphan_observation.entries, _))

theorem claims_resolved_after_crash :
    ∃ s, machine.Reachable s ∧ s.db.outstandingClaims = 1 ∧
      ∀ registered_at ref, ∃ db', ((site s).reconcile_unregistered_objects (fun _ => s.clock) none 2
        86400 true 100000).2.db.register_live_object_blob registered_at ref = .ok db' := by
  have hrun : ∃ s ∈ machine.run initial crashBeforeUnlink,
      s.db.outstandingClaims = 1 ∧ s.cas.allEntries.length = 1 ∧ resolvable s := by
    decide +kernel
  obtain ⟨s, hs, hone, hsize, hresolvable⟩ := hrun
  have hreachable := machine.run_reachable (.init rfl) hs
  refine ⟨s, hreachable, hone, ?_⟩
  refine (claims_resolved_iff hreachable (fun _ => s.clock) none 100000 (by decide) ?_).2 ?_
  · rw [hone, hsize]
  · intro d o ho hstate
    exact hresolvable ⟨d, o⟩ ((Table.mem_entries_iff _ _ _).2 ho) hstate

theorem claim_can_stay_unresolved :
    ∃ s, machine.Reachable s ∧ s.db.outstandingClaims + s.cas.allEntries.length ≤ 2 ∧
      ∃ registered_at ref, ((site s).reconcile_unregistered_objects (fun _ => s.clock) none 2 86400 true
        100000).2.db.register_live_object_blob registered_at ref = .error .active_orphan_claim := by
  have hrun : ∃ s ∈ machine.run initial crashAfterUnlink,
      s.db.outstandingClaims + s.cas.allEntries.length ≤ 2 ∧
        ((site s).reconcile_unregistered_objects (fun _ => s.clock) none 2 86400 true
          100000).2.db.Claimed (Digest.sha256 [1, 2, 3]) := by
    decide +kernel
  obtain ⟨s, hs, hsize, hclaimed⟩ := hrun
  refine ⟨s, machine.run_reachable (.init rfl) hs, hsize, s.clock,
    putRef (Digest.sha256 [1, 2, 3]) 3 (str "application/octet-stream") (str "raw"), ?_⟩
  exact Catalog.register_error hclaimed

end Recovery

end LeoFlow
