import LeoFlow.Analysis.DetectorTally

/-!
# LeoFlow.Analysis.DetectorAccounts — the counts of a detector report

What the counts of a report say about the rows they are taken from, and that they do not
depend on the order of the rows. Rows matter only through their windows and look-ups
(`Row.view`).
-/

namespace LeoFlow

namespace DetectorEvaluation

/-! ## Rows as the report sees them -/

/-- A window, and for every method whether it fired there. -/
def Row.view (row : Row) : Window × (PyStr → Option Bool) := (row.1, fun method => row.2.lookup method)

/-- The same rows, in any order. -/
def SameRows (rows rows' : List Row) : Prop := (rows.map Row.view).Perm (rows'.map Row.view)

section Rows

variable {rows rows' : List Row} {split : DatasetSplit} {left right method : PyStr} {t t' : Tally}

theorem sharedRows_view : sharedRows rows left right = (rows.map Row.view).filterMap fun v =>
    match v.2 left, v.2 right with
    | some left_value, some right_value => some (v.1, left_value, right_value)
    | _, _ => none := by
  rw [List.filterMap_map]
  rfl

theorem presentCount_view : presentCount rows method = (rows.map Row.view).countP fun v => v.2 method ≠ none := by
  rw [List.countP_map]
  rfl

theorem rowsIn_view : (rowsIn split rows).map Row.view = (rows.map Row.view).filter fun v => v.1.split = split := by
  rw [List.filter_map]
  rfl

theorem SameRows.length (h : SameRows rows rows') : rows.length = rows'.length := by
  have := h.length_eq
  rwa [List.length_map, List.length_map] at this

theorem SameRows.shared (h : SameRows rows rows') : (sharedRows rows left right).Perm (sharedRows rows' left right) := by
  rw [sharedRows_view, sharedRows_view]
  exact h.filterMap _

theorem SameRows.present (h : SameRows rows rows') : presentCount rows method = presentCount rows' method := by
  rw [presentCount_view, presentCount_view]
  exact h.countP_eq _

theorem SameRows.rowsIn (h : SameRows rows rows') : SameRows (rowsIn split rows) (rowsIn split rows') := by
  unfold SameRows
  rw [rowsIn_view, rowsIn_view]
  exact h.filter _

theorem SameRows.firing (h : SameRows rows rows') :
    (rows.countP fun row => row.2.lookup method = some true) =
      rows'.countP fun row => row.2.lookup method = some true := by
  have hview : ∀ rows : List Row, (rows.countP fun row => row.2.lookup method = some true) =
      (rows.map Row.view).countP fun v => v.2 method = some true := by
    intro rows
    rw [List.countP_map]
    rfl
  rw [hview, hview]
  exact h.countP_eq _

theorem entries_eq : t.rows.entries = t.rows.keys.map fun w => ⟨w, t.row w⟩ := Table.entries_eq_map t.rows ∅

theorem Agree.sameRows (h : Agree t t') : SameRows t.rows.entries t'.rows.entries := by
  have hcell : ∀ w, Row.view ⟨w, t.row w⟩ = Row.view ⟨w, t'.row w⟩ := by
    intro w
    exact Prod.ext rfl (funext fun m => h.cell w m)
  unfold SameRows
  rw [entries_eq, entries_eq, List.map_map, List.map_map]
  have hleft : t.rows.keys.map (Row.view ∘ fun w => ⟨w, t.row w⟩) =
      t.rows.keys.map (Row.view ∘ fun w => ⟨w, t'.row w⟩) := List.map_congr_left fun w _ => hcell w
  rw [hleft]
  exact h.windows.map _

/-- A shared row, read from the other side. -/
theorem sharedRows_swap : sharedRows rows right left = (sharedRows rows left right).map fun x => (x.1, x.2.swap) := by
  unfold sharedRows
  rw [List.map_filterMap]
  refine List.filterMap_congr fun row _ => ?_
  cases row.2.lookup left with
  | none => cases row.2.lookup right <;> rfl
  | some a => cases row.2.lookup right <;> rfl

theorem length_sharedRows_swap : (sharedRows rows right left).length = (sharedRows rows left right).length := by
  rw [sharedRows_swap, List.length_map]

/-- A method shares with itself the rows it scored. -/
theorem length_sharedRows_self : (sharedRows rows method method).length = presentCount rows method := by
  unfold sharedRows presentCount
  rw [List.length_filterMap_eq_countP]
  refine List.countP_congr fun row _ => ?_
  cases row.2.lookup method with
  | none => simp
  | some b => simp

/-- Every row is in one split. -/
theorem perm_splits (rows : List Row) :
    rows.Perm (rowsIn .train rows ++ (rowsIn .validation rows ++ rowsIn .locked_test rows)) := by
  induction rows with
  | nil => rfl
  | cons row rows ih =>
    unfold DetectorEvaluation.rowsIn at ih ⊢
    simp only [List.filter_cons]
    cases row.1.split with
    | train => simpa using ih
    | validation =>
      simp only [reduceCtorEq, decide_false, decide_true, Bool.false_eq_true, if_true, if_false]
      exact (ih.cons row).trans List.perm_middle.symm
    | locked_test =>
      simp only [reduceCtorEq, decide_false, decide_true, Bool.false_eq_true, if_true, if_false]
      rw [← List.append_assoc] at ih ⊢
      exact (ih.cons row).trans List.perm_middle.symm

/-- What is counted row by row is the sum over the splits. -/
theorem sum_splits {α : Type} [AddCommMonoid α] {f : List Row → α}
    (hperm : ∀ rows rows', rows.Perm rows' → f rows = f rows')
    (happend : ∀ rows rows', f (rows ++ rows') = f rows + f rows') (rows : List Row) :
    f rows = (DatasetSplit.all.map fun split => f (rowsIn split rows)).sum := by
  rw [hperm _ _ (perm_splits rows), happend, happend]
  simp [DatasetSplit.all]

end Rows

/-! ## Association -/

/-- `matrix[i][j]`, zero outside -/
def cellAt {α : Type} [Zero α] (m : List (List α)) (i j : Nat) : α := (m.getD i []).getD j 0

section Association

variable {rows rows' : List Row} {method_ids : List PyStr} {r : MethodAssociationReport} {A : Type}

theorem cellAt_matrix {α : Type} [Zero α] {cell : PyStr → PyStr → α} {i j : Nat} :
    cellAt (matrix method_ids cell) i j =
      match method_ids[i]?, method_ids[j]? with
      | some left, some right => cell left right
      | _, _ => 0 := by
  unfold cellAt matrix
  rw [List.getD_eq_getElem?_getD, List.getD_eq_getElem?_getD, List.getElem?_map]
  cases method_ids[i]? with
  | none => rfl
  | some left =>
    rw [Option.map_some, Option.getD_some, List.getElem?_map]
    cases method_ids[j]? <;> rfl

/-- The counts of an association. -/
theorem association_ok (h : association rows method_ids = .ok r) :
    r.shared_window_count = matrix method_ids (fun left right => (sharedRows rows left right).length) ∧
      r.shared_sample_count = matrix method_ids (fun left right =>
        ((sharedRows rows left right).map fun x => x.1.stop - x.1.start).sum) ∧
      r.method_present_window_count = method_ids.map (presentCount rows) ∧
      r.union_window_count = rows.length ∧
      r.missing_window_count = method_ids.map (fun method => (rows.length : Int) - presentCount rows method) := by
  rcases bind_ok.1 h with ⟨statistics, _, h1⟩
  cases h1
  exact ⟨rfl, rfl, rfl, rfl, rfl⟩

theorem pairStatistics_perm {shared shared' : List (Bool × Bool)} (h : shared.Perm shared')
    {p : Option PyFloat × Option PyFloat} (hp : pairStatistics shared = .ok p) : pairStatistics shared' = .ok p := by
  unfold pairStatistics at hp ⊢
  by_cases hnil : shared = []
  · rw [if_pos hnil] at hp
    rw [if_pos (by rw [hnil] at h; exact h.nil_eq.symm)]
    exact hp
  · rw [if_neg hnil] at hp
    rw [if_neg fun hnil' => hnil (by rw [hnil'] at h; exact h.eq_nil)]
    rcases bind_ok.1 hp with ⟨m, hm, hphi⟩
    exact bind_ok.2 ⟨m, commutative_floats.moments h hm, hphi⟩

/-- The order of the rows does not matter. -/
theorem association_sameRows (h : SameRows rows rows') (hr : association rows method_ids = .ok r) :
    association rows' method_ids = .ok r := by
  rcases bind_ok.1 hr with ⟨statistics, hstatistics, h1⟩
  have hstatistics' : (method_ids.mapM fun left => method_ids.mapM fun right =>
      pairStatistics ((sharedRows rows' left right).map (·.2))) = .ok statistics := by
    refine mapM_ok.2 ((mapM_ok.1 hstatistics).imp fun left row hrow => ?_)
    refine mapM_ok.2 ((mapM_ok.1 hrow).imp fun right p hp => ?_)
    exact pairStatistics_perm (h.shared.map _) hp
  refine bind_ok.2 ⟨statistics, hstatistics', ?_⟩
  rw [← h1]
  have hwindows : ∀ left right, (sharedRows rows' left right).length = (sharedRows rows left right).length :=
    fun left right => h.shared.length_eq.symm
  have hsamples : ∀ left right, ((sharedRows rows' left right).map fun x => x.1.stop - x.1.start).sum =
      ((sharedRows rows left right).map fun x => x.1.stop - x.1.start).sum :=
    fun left right => (h.shared.map _).sum_eq.symm
  have hpresent : presentCount rows' = presentCount rows := funext fun method => h.present.symm
  simp only [hwindows, hsamples, hpresent, h.length]

/-- Shared counts do not depend on which method comes first, and on the diagonal are the present ones. -/
structure Balanced (r : MethodAssociationReport) : Prop where
  symmetric : ∀ i j, cellAt r.shared_window_count i j = cellAt r.shared_window_count j i
  diagonal : ∀ i, cellAt r.shared_window_count i i = r.method_present_window_count.getD i 0

theorem balanced_of_association (h : association rows method_ids = .ok r) : Balanced r := by
  rcases association_ok h with ⟨hshared, _, hpresent, _⟩
  constructor
  · intro i j
    rw [hshared, cellAt_matrix, cellAt_matrix]
    cases method_ids[i]? with
    | none => cases method_ids[j]? <;> rfl
    | some left =>
      cases method_ids[j]? with
      | none => rfl
      | some right => exact length_sharedRows_swap.symm
  · intro i
    rw [hshared, hpresent, cellAt_matrix, List.getD_eq_getElem?_getD, List.getElem?_map]
    cases method_ids[i]? with
    | none => rfl
    | some method => exact length_sharedRows_self

end Association

/-! ## The exact covariance -/

/-- The covariance matrix without rounding. -/
def exactCovariance (rows : List Row) (method_ids : List PyStr) : List (List (Option ℚ)) :=
  matrix method_ids fun left right =>
    (exact.moments ((sharedRows rows left right).map (·.2))).toOption.map (·.cov)

/-- A covariance matrix of flags. -/
structure Covariances (m : List (List (Option ℚ))) : Prop where
  symmetric : ∀ i j : Nat, (m[i]?.bind fun row => row[j]?) = m[j]?.bind fun row => row[i]?
  bounded : ∀ row ∈ m, ∀ cell ∈ row, ∀ cov ∈ cell, -(1 / 4) ≤ cov ∧ cov ≤ 1 / 4

theorem covariances_exact (rows : List Row) (method_ids : List PyStr) :
    Covariances (exactCovariance rows method_ids) := by
  have hswap : ∀ left right m, exact.moments ((sharedRows rows left right).map (·.2)) = .ok m →
      exact.moments ((sharedRows rows right left).map (·.2)) = .ok ⟨m.cov, m.right_var, m.left_var⟩ := by
    intro left right m hm
    have hmap : (sharedRows rows right left).map (·.2) = ((sharedRows rows left right).map (·.2)).map Prod.swap := by
      rw [sharedRows_swap, List.map_map, List.map_map]
      rfl
    rw [hmap]
    exact commutative_exact.moments_swap hm
  have hcell : ∀ left right, ((exact.moments ((sharedRows rows left right).map (·.2))).toOption.map (·.cov)) =
      (exact.moments ((sharedRows rows right left).map (·.2))).toOption.map (·.cov) := by
    intro left right
    cases hm : exact.moments ((sharedRows rows left right).map (·.2)) with
    | ok m => rw [hswap left right m hm]; rfl
    | error e =>
      cases hm' : exact.moments ((sharedRows rows right left).map (·.2)) with
      | ok m' => cases hm.symm.trans (hswap right left m' hm')
      | error e' => rfl
  constructor
  · intro i j
    unfold exactCovariance matrix
    rw [List.getElem?_map, List.getElem?_map]
    cases hi : method_ids[i]? with
    | none =>
      cases hj : method_ids[j]? with
      | none => rfl
      | some right => simp [hi]
    | some left =>
      cases hj : method_ids[j]? with
      | none => simp [hj]
      | some right => simp [hi, hj, hcell left right]
  · intro row hrow cell hcell' cov hcov
    rcases List.mem_map.1 hrow with ⟨left, _, rfl⟩
    rcases List.mem_map.1 hcell' with ⟨right, _, rfl⟩
    rcases Option.map_eq_some_iff.1 hcov with ⟨m, hm, rfl⟩
    cases hmoments : exact.moments ((sharedRows rows left right).map (·.2)) with
    | error e =>
      rw [hmoments] at hm
      cases hm
    | ok m' =>
      rw [hmoments] at hm
      cases hm
      exact exact_cov_bounds hmoments

/-! ## Truth -/

/-- Every piece of evidence for the member is declared independent of the method. -/
def Declared (method : PyStr) (member : DatasetMember) : Prop :=
  ∀ evidence ∈ member.val.truth.val.evidence, method ∈ evidence.val.independent_of_method_ids

instance (method : PyStr) (member : DatasetMember) : Decidable (Declared method member) := by
  unfold Declared
  infer_instance

namespace TruthCounts

/-- All members counted. -/
def total (c : TruthCounts) : Nat := c.tp + c.fp + c.tn + c.fn + c.missing + c.inadmissible + c.context

/-- The confusion counts. -/
def confusion (c : TruthCounts) : Nat × Nat × Nat × Nat := (c.tp, c.fp, c.tn, c.fn)

end TruthCounts

section Truth

variable {tally tally' : Tally} {method : PyStr} {c c' d : TruthCounts} {member : DatasetMember}
  {members : List DatasetMember}

/-- Every member counts as one thing. -/
theorem total_countMember (h : countMember tally method c member = .ok c') : c'.total = c.total + 1 := by
  unfold countMember at h
  split at h
  · cases h
    rfl
  split at h
  · cases h
    unfold TruthCounts.total
    dsimp only
    omega
  split at h
  · cases h
    unfold TruthCounts.total
    dsimp only
    omega
  dsimp only at h
  split at h
  · cases h
    unfold TruthCounts.total
    split
    · dsimp only
      omega
    · dsimp only
      omega
  · cases h
    unfold TruthCounts.total
    split
    · dsimp only
      omega
    · dsimp only
      omega
  · cases h

theorem total_fold (h : members.foldlM (countMember tally method) c = .ok c') :
    c'.total = c.total + members.length := by
  induction members generalizing c with
  | nil =>
    cases h
    rfl
  | cons member members ih =>
    rw [List.foldlM_cons] at h
    rcases bind_ok.1 h with ⟨u, hu, hrest⟩
    rw [ih hrest, total_countMember hu, List.length_cons]
    omega

/-- A member that is not declared independent of the method is no part of the confusion counts. -/
theorem confusion_countMember (hmember : ¬Declared method member) (h : countMember tally method c member = .ok c') :
    c'.confusion = c.confusion := by
  have hunusable : ¬member.val.truth.UsableAsTruthFor method := fun husable => hmember husable.2
  unfold countMember at h
  rw [if_pos hunusable] at h
  split at h
  · cases h
    rfl
  · cases h
    rfl

/-- With the same confusion counts before, a member adds the same to them. -/
theorem confusion_congr (hsame : c.confusion = d.confusion) (h : countMember tally method c member = .ok c') :
    ∃ d', countMember tally method d member = .ok d' ∧ c'.confusion = d'.confusion := by
  rcases c with ⟨_, _, _, tp, fn, fp, tn⟩
  rcases d with ⟨_, _, _, tp', fn', fp', tn'⟩
  simp only [TruthCounts.confusion, Prod.mk.injEq] at hsame
  rcases hsame with ⟨rfl, rfl, rfl, rfl⟩
  unfold countMember at h ⊢
  split at h
  · rename_i hrole
    cases h
    exact ⟨_, if_pos hrole, rfl⟩
  rename_i hrole
  rw [if_neg hrole]
  split at h
  · rename_i husable
    cases h
    exact ⟨_, if_pos husable, rfl⟩
  rename_i husable
  rw [if_neg husable]
  split at h
  · rename_i hpresent
    cases h
    exact ⟨_, if_pos hpresent, rfl⟩
  rename_i hpresent
  rw [if_neg hpresent]
  dsimp only at h ⊢
  split at h
  · cases h
    refine ⟨_, rfl, ?_⟩
    split <;> rfl
  · cases h
    refine ⟨_, rfl, ?_⟩
    split <;> rfl
  · cases h

/-- The confusion counts are those of the declared members alone. -/
theorem confusion_fold (hsame : c.confusion = d.confusion)
    (h : members.foldlM (countMember tally method) c = .ok c') :
    ∃ d', (members.filter (Declared method ·)).foldlM (countMember tally method) d = .ok d' ∧
      c'.confusion = d'.confusion := by
  induction members generalizing c d with
  | nil =>
    cases h
    exact ⟨d, rfl, hsame⟩
  | cons member members ih =>
    rw [List.foldlM_cons] at h
    rcases bind_ok.1 h with ⟨u, hu, hrest⟩
    by_cases hmember : Declared method member
    · rcases confusion_congr hsame hu with ⟨v, hv, huv⟩
      rcases ih huv hrest with ⟨d', hd', hconfusion⟩
      refine ⟨d', ?_, hconfusion⟩
      rw [List.filter_cons_of_pos (by simpa using hmember), List.foldlM_cons]
      exact bind_ok.2 ⟨v, hv, hd'⟩
    · rcases ih ((confusion_countMember hmember hu).trans hsame) hrest with ⟨d', hd', hconfusion⟩
      refine ⟨d', ?_, hconfusion⟩
      rw [List.filter_cons_of_neg (by simpa using hmember)]
      exact hd'

/-- A member counts by its identity, role and truth only. -/
structure SameMember (m m' : DatasetMember) : Prop where
  feature_id : m'.feature_id = m.feature_id
  split : m'.val.split = m.val.split
  role : m'.val.role = m.val.role
  truth : m'.val.truth = m.val.truth

theorem countMember_congr {m m' : DatasetMember} (hmember : SameMember m m') (h : Agree tally tally') :
    countMember tally' method c m' = countMember tally method c m := by
  unfold countMember
  rw [hmember.role, hmember.truth, hmember.feature_id, h.present, h.fired]

end Truth

end DetectorEvaluation

end LeoFlow
