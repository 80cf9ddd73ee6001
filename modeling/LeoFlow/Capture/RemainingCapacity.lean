import LeoFlow.Capture.CampaignCoordinator
import LeoFlow.Capture.ContinuousCoordinator
import LeoFlow.Core.Alone

/-!
# LeoFlow.Capture.RemainingCapacity — the room the remaining successes need

`required_remaining_capacity_bytes` counts what every cell still lacks; the continuous collector
adds up the cells of the remaining success indices. The two agree because the cells take
turns, and they go down with every success, along every run of either coordinator.
-/

namespace LeoFlow

/-! ## Items that take turns -/

section Turns

variable {α : Type} (weight : α → Nat) (target : Nat)

/-- What the items still lack to `target` each. -/
def lacking (items : List α) (counts : List Nat) : Nat :=
  ((items.zip counts).map fun x => (target - x.2) * weight x.1).sum

/-- One more turn of item `i`. -/
theorem lacking_modify {items : List α} {counts : List Nat} {i : Nat} {item : α} {count : Nat}
    (hitem : items[i]? = some item) (hcount : counts[i]? = some count) (hlt : count < target) :
    lacking weight target items counts =
      weight item + lacking weight target items (counts.modify i (· + 1)) := by
  induction items generalizing counts i with
  | nil => cases hitem
  | cons head items ih =>
    cases counts with
    | nil => cases hcount
    | cons first counts =>
      cases i with
      | zero =>
        cases hitem
        cases hcount
        have hturn : target - count = target - (count + 1) + 1 := by omega
        show (target - count) * weight item + _ = weight item + ((target - (count + 1)) * weight item + _)
        rw [hturn, Nat.add_mul, Nat.one_mul]
        omega
      | succ i =>
        have hrest := ih hitem hcount
        show (target - first) * weight head + lacking weight target items counts =
          weight item + ((target - first) * weight head + lacking weight target items (counts.modify i (· + 1)))
        omega

/-- Nothing lacks once every item has its turns. -/
theorem lacking_eq_zero {items : List α} {counts : List Nat} (h : ∀ count ∈ counts, target ≤ count) :
    lacking weight target items counts = 0 := by
  unfold lacking
  rw [List.sum_eq_zero]
  intro n hn
  obtain ⟨x, hx, rfl⟩ := List.mem_map.1 hn
  have hle := h x.2 (List.of_mem_zip hx).2
  rw [Nat.sub_eq_zero_of_le hle, Nat.zero_mul]

end Turns

/-! ## Campaigns -/

/-- The raw bytes of a unit of a cell. -/
def cellBytes (cell : CampaignCell) : Nat := cell.sample_count * 128

/-- The cells of the success indices from `n` up to the target, and their bytes; twice as much is
reserved. -/
def remainingCells (d : CampaignDefinition) (n : Nat) : Except PyError (List CampaignCell) :=
  (List.range' n (d.target_successes - n)).mapM campaign_cell

theorem campaign_cell_eq {n : Nat} (h : n < CAMPAIGN_SUCCESS_TARGET) :
    ∃ cell, campaign_cell n = .ok cell ∧ CAMPAIGN_CELLS[n % SLOTS_PER_ROUND]? = some cell := by
  have hlt : n % SLOTS_PER_ROUND < CAMPAIGN_CELLS.length := Nat.mod_lt _ (by decide)
  refine ⟨CAMPAIGN_CELLS[n % SLOTS_PER_ROUND], ?_, List.getElem?_eq_getElem hlt⟩
  unfold campaign_cell
  rw [List.getElem?_eq_getElem hlt]
  dsimp only
  rw [if_pos h]

/-- How often each cell is to succeed. -/
def targetPerCell (d : CampaignDefinition) : Nat := if d.val.qualification then 1 else CAMPAIGN_ROUNDS

theorem target_successes_eq (d : CampaignDefinition) : d.target_successes = 9 * targetPerCell d := by
  unfold CampaignDefinition.target_successes targetPerCell
  split <;> rfl

theorem target_successes_le (d : CampaignDefinition) : d.target_successes ≤ CAMPAIGN_SUCCESS_TARGET := by
  unfold CampaignDefinition.target_successes
  split
  · decide
  · exact Nat.le_refl _

theorem getElem_balanced {n j : Nat} (hj : j < 9) : (balanced n)[j]? = some ((n + 8 - j) / 9) := by
  simp [balanced, SLOTS_PER_ROUND, hj]

/-- The cells of the remaining indices are what the cells lack. -/
theorem remainingCells_eq (d : CampaignDefinition) (n : Nat) :
    ∃ cells, remainingCells d n = .ok cells ∧
      (cells.map cellBytes).sum = lacking cellBytes (targetPerCell d) CAMPAIGN_CELLS (balanced n) := by
  -- by induction on how many indices remain
  generalize hremaining : d.target_successes - n = remaining
  induction remaining generalizing n with
  | zero =>
    refine ⟨[], by unfold remainingCells; rw [hremaining]; rfl, ?_⟩
    have htarget := target_successes_eq d
    rw [lacking_eq_zero, List.map_nil, List.sum_nil]
    intro count hcount
    obtain ⟨j, hj⟩ := List.mem_iff_getElem?.1 hcount
    have hlt : j < 9 := by
      obtain ⟨hlt, _⟩ := List.getElem?_eq_some_iff.1 hj
      simpa [balanced, SLOTS_PER_ROUND] using hlt
    rw [getElem_balanced hlt] at hj
    cases hj
    omega
  | succ remaining ih =>
    have htarget := target_successes_eq d
    have hbound := target_successes_le d
    obtain ⟨cells, hcells, hsum⟩ := ih (n + 1) (by omega)
    obtain ⟨cell, hcell, hget⟩ := campaign_cell_eq (show n < CAMPAIGN_SUCCESS_TARGET by omega)
    have hcount : (balanced n)[n % 9]? = some (n / 9) := by
      rw [getElem_balanced (Nat.mod_lt _ (by decide))]
      congr 1
      omega
    refine ⟨cell :: cells, ?_, ?_⟩
    · have hrest : d.target_successes - (n + 1) = remaining := by omega
      unfold remainingCells at hcells ⊢
      rw [hrest] at hcells
      rw [hremaining, List.range'_succ, List.mapM_cons, hcell, hcells]
      rfl
    · rw [List.map_cons, List.sum_cons, hsum, balanced_succ,
        lacking_modify cellBytes (targetPerCell d) hget hcount (by omega)]
      rfl

variable {d : CampaignDefinition} {s : CampaignJournalState}

/-- What both coordinators reserve with `n` successes. -/
theorem required_eq (h : CampaignJournalState.Scheduled s.records) (margin_bytes : Int) :
    ∃ cells, remainingCells d s.completed_successes = .ok cells ∧
      required_remaining_capacity_bytes d s margin_bytes = ((cells.map cellBytes).sum : Nat) * 2 + margin_bytes := by
  obtain ⟨cells, hcells, hsum⟩ := remainingCells_eq d s.completed_successes
  refine ⟨cells, hcells, ?_⟩
  have hlacking : required_remaining_capacity_bytes d s margin_bytes =
      (lacking cellBytes (targetPerCell d) CAMPAIGN_CELLS s.successful_counts : Nat) * 2 + margin_bytes := by
    unfold required_remaining_capacity_bytes lacking cellBytes targetPerCell
    simp only [Nat.mul_assoc]
  rw [hlacking, hsum, CampaignJournalState.successful_counts_eq h, CampaignJournalState.completed_successes_eq h]

/-! ## The collector's sum -/

theorem sum_cellBytes (cells : List CampaignCell) :
    (cells.map fun cell => (cell.sample_count * 128 : Int)).sum = ((cells.map cellBytes).sum : Nat) := by
  induction cells with
  | nil => rfl
  | cons cell cells ih =>
    rw [List.map_cons, List.sum_cons, ih, List.map_cons, List.sum_cons]
    push_cast [cellBytes]
    rfl

namespace DeferredCampaignCoordinator

/-- `_has_capacity` compares what `remainingCells` reserve with what is available. -/
theorem exec_has_capacity (c : DeferredCampaignCoordinator) {cas : CompareAndSwap ContinuousCollectionState ContinuousError}
    {answer : ∀ q : CampaignQuery, q.Answer} {journal state : ContinuousCollectionState} {available : Int}
    (hanswer : answer .available_bytes = .ok available) (havailable : 0 ≤ available) :
    ∃ cells, remainingCells c.definition state.captured_count = .ok cells ∧
      (c.has_capacity state).exec cas answer journal =
        (journal, .ok (decide (((cells.map cellBytes).sum : Nat) * 2 + c.capacity_margin_bytes ≤ available))) := by
  obtain ⟨cells, hcells, _⟩ := remainingCells_eq c.definition state.captured_count
  refine ⟨cells, hcells, ?_⟩
  have htarget : c.definition.target_successes = CAMPAIGN_SUCCESS_TARGET := by
    unfold CampaignDefinition.target_successes
    rw [c.main]
    rfl
  unfold remainingCells at hcells
  rw [htarget] at hcells
  unfold has_capacity
  rw [Prog.exec_bind_ok Prog.exec_ask, hanswer]
  simp only [attempt, Except.mapError]
  rw [Prog.exec_bind_ok (Prog.exec_ofExcept _), if_neg (Int.not_lt.2 havailable), hcells]
  dsimp only
  rw [Prog.exec_bind_ok (Prog.exec_ofExcept _)]
  simp only [sum_cellBytes]
  rfl

end DeferredCampaignCoordinator

/-! ## Progress -/

theorem lacking_antitone {α : Type} (weight : α → Nat) (target : Nat) (items : List α) {n m : Nat} (h : n ≤ m) :
    lacking weight target items (balanced m) ≤ lacking weight target items (balanced n) := by
  have hpoint : List.Forall₂ (· ≤ ·) (balanced n) (balanced m) := by
    unfold balanced
    rw [List.forall₂_map_left_iff, List.forall₂_map_right_iff, List.forall₂_same]
    intro j _
    omega
  generalize balanced n = counts at hpoint
  generalize balanced m = counts' at hpoint
  induction hpoint generalizing items with
  | nil => exact Nat.le_refl _
  | @cons count count' counts counts' hle _ ih =>
    cases items with
    | nil => exact Nat.le_refl _
    | cons item items =>
      have hturn : (target - count') * weight item ≤ (target - count) * weight item :=
        Nat.mul_le_mul_right _ (by omega)
      have hrest := ih items
      show (target - count') * weight item + lacking weight target items counts' ≤
        (target - count) * weight item + lacking weight target items counts
      omega

/-- More successes reserve less. -/
theorem required_antitone {t : CampaignJournalState} (hs : CampaignJournalState.Scheduled s.records)
    (ht : CampaignJournalState.Scheduled t.records) (h : s.completed_successes ≤ t.completed_successes)
    (margin_bytes : Int) :
    required_remaining_capacity_bytes d t margin_bytes ≤ required_remaining_capacity_bytes d s margin_bytes := by
  obtain ⟨cells, hcells, hrequired⟩ := required_eq (d := d) hs margin_bytes
  obtain ⟨cells', hcells', hrequired'⟩ := required_eq (d := d) ht margin_bytes
  obtain ⟨_, heq, hsum⟩ := remainingCells_eq d s.completed_successes
  cases hcells.symm.trans heq
  obtain ⟨_, heq', hsum'⟩ := remainingCells_eq d t.completed_successes
  cases hcells'.symm.trans heq'
  have hle := lacking_antitone cellBytes (targetPerCell d) CAMPAIGN_CELLS h
  rw [hrequired, hrequired', hsum, hsum']
  omega

namespace CampaignCoordinator

open CampaignJournalState (completeCount)

variable {c : CampaignCoordinator}

variable (c) in
/-- A call never loses a success. -/
def progress : Discipline CampaignJournalState CampaignQuery Empty PyError where
  Inv s := c.Inv s.records
  Move s t := completeCount s.records ≤ completeCount t.records
  count _ _ := 0
  asks _ := none
  Allowed _ _ := True
  MayRaise _ := True
  count_le := nofun

variable (c) in
@[reducible] def Progresses {α : Type} (Q : α → Option CampaignJournalState → Option Empty → Prop)
    (view : Option CampaignJournalState) (credit : Option Empty) (x : CampaignProg α) : Prop :=
  x.Follows (CampaignJournalState.row.cas c.digest) c.progress Q view credit

section Calls

variable {state : CampaignJournalState} {credit : Option Empty}

theorem progress_return {α : Type} {a : α} {view : Option CampaignJournalState} :
    c.Progresses (fun _ _ _ => True) view credit (pure a) := trivial

theorem progress_ask {q : CampaignQuery} :
    c.Progresses (fun _ view _ => view = some state) (some state) credit (.ask q) :=
  Prog.follows_ask (D := c.progress) trivial rfl fun _ => rfl

theorem progress_lift {α : Type} {x : Except PyError α} :
    c.Progresses (fun a view _ => x = .ok a ∧ view = some state) (some state) credit (.ofExcept x) :=
  Prog.follows_ofExcept (fun _ ha => ⟨ha, rfl⟩) fun _ _ => trivial

theorem progress_store {records : List CampaignUnitRecord} (hinv : c.Inv records)
    (hcount : completeCount state.records ≤ completeCount records) :
    c.Progresses (fun s view _ => s.records = records ∧ view = some s) (some state) credit
      (store { state with records := records } state) := by
  have hrev : (CampaignJournalState.row.cas c.digest).revision state <
      (CampaignJournalState.row.cas c.digest).revision
        { state with records := records, revision := state.revision + 1 } := Nat.lt_succ_self _
  exact Prog.follows_replace (D := c.progress) hinv hrev hcount none nofun ⟨rfl, rfl⟩

/-- The last record is replaced while it is not complete. -/
theorem progress_replace_last {r r' : CampaignUnitRecord} (h : c.At r state) (hunit : r'.unit = r.unit)
    (hmax : r'.capture_invocations ≤ c.definition.val.maximum_capture_invocations) (hphase : r.phase ≠ .complete) :
    c.Progresses (fun s view _ => c.At r' s ∧ view = some s) (some state) credit (replace_last state r') := by
  obtain ⟨before, hrecords, hinv⟩ := h
  unfold replace_last
  rw [hrecords, List.getLast?_concat]
  simp only [hunit, ne_eq, not_true_eq_false, if_false, List.dropLast_concat]
  rw [hrecords] at hinv
  have hnext := hinv.replace hunit hmax
  refine (progress_store hnext ?_).mono ?_
  · rw [hrecords]
    simp [completeCount, hphase]
  · rintro s view _ ⟨hs, hview⟩
    exact ⟨⟨before, hs, hs ▸ hnext⟩, hview⟩

theorem progress_has_capacity :
    c.Progresses (fun _ view _ => view = some state) (some state) credit (c.has_capacity state) := by
  unfold has_capacity
  refine Prog.follows_bind progress_ask ?_
  rintro answer view credit rfl
  refine Prog.follows_bind progress_lift ?_
  rintro available view credit ⟨_, rfl⟩
  split
  · trivial
  · exact rfl

theorem progress_run_analysis {r : CampaignUnitRecord} (h : c.At r state) (hphase : r.phase ≠ .complete)
    (hmax : r.capture_invocations ≤ c.definition.val.maximum_capture_invocations) (now : Int) :
    c.Progresses (fun _ _ _ => True) (some state) credit (c.run_analysis state r now) := by
  unfold run_analysis
  split
  · trivial
  split
  · exact progress_return
  split
  · exact progress_return
  refine Prog.follows_bind (progress_replace_last h rfl hmax hphase) ?_
  rintro invoked view credit ⟨hinvoked, rfl⟩
  refine Prog.follows_bind progress_ask ?_
  rintro answer view credit rfl
  -- every outcome is one more replacement of the invoked record
  split
  · split
    · exact Prog.follows_bind (progress_replace_last hinvoked rfl hmax hphase) fun _ _ _ _ => progress_return
    · trivial
  · split
    · exact Prog.follows_bind (progress_replace_last hinvoked rfl hmax hphase) fun _ _ _ _ => progress_return
    · exact Prog.follows_bind (progress_replace_last hinvoked rfl hmax hphase) fun _ _ _ _ => progress_return

theorem progress_run_capture {r : CampaignUnitRecord} (h : c.At r state) (hphase : r.phase ≠ .complete)
    (hmax : r.capture_invocations < c.definition.val.maximum_capture_invocations) :
    c.Progresses (fun _ _ _ => True) (some state) credit (c.run_capture state r) := by
  have hmax' : ((r.capture_invocations + 1 : Nat) : Int) ≤ c.definition.val.maximum_capture_invocations := by omega
  unfold run_capture
  refine Prog.follows_bind (progress_replace_last h rfl hmax' hphase) ?_
  rintro invoked view credit ⟨hinvoked, rfl⟩
  refine Prog.follows_bind progress_ask ?_
  rintro answer view credit rfl
  split
  · split
    · exact progress_return
    · trivial
  · split
    · exact Prog.follows_bind (progress_replace_last hinvoked rfl hmax' hphase) fun _ _ _ _ => progress_return
    · refine Prog.follows_bind (progress_replace_last hinvoked rfl hmax' hphase) ?_
      rintro captured view credit ⟨hcaptured, rfl⟩
      exact progress_run_analysis hcaptured nofun hmax' _

theorem progress_plan_next {last : Option CampaignUnitRecord} (hinv : c.Inv state.records)
    (hdone : Done state.records last) (now : Int) :
    c.Progresses (fun _ _ _ => True) (some state) credit (c.plan_next state last now) := by
  unfold plan_next
  dsimp only
  split
  · exact progress_return
  rename_i hfailed
  split
  · exact progress_return
  split
  · exact progress_return
  refine Prog.follows_bind progress_lift ?_
  rintro unit view credit ⟨hunit, rfl⟩
  rw [CampaignJournalState.completed_successes_eq hinv.scheduled] at hunit
  have hnext : c.Inv (state.records ++ [.new unit]) := by
    refine continues_next hinv hdone ?_ hunit
    -- a retry was checked, and a first attempt is always allowed
    cases hfilter : last.filter (·.phase = .terminal_failed) with
    | none => exact c.definition.post_init_ok.2.2.1
    | some r =>
      rw [hfilter] at hfailed
      simp only [Option.isSome_some, true_and, not_or, not_le] at hfailed
      exact hfailed.2
  refine Prog.follows_bind (progress_store hnext ?_) ?_
  · simp [completeCount]
  rintro planned view credit ⟨hrecords, rfl⟩
  split
  · exact progress_return
  refine Prog.follows_bind progress_has_capacity ?_
  rintro capacity view credit rfl
  split
  · exact progress_return
  · exact progress_run_capture ⟨state.records, hrecords, hrecords ▸ hnext⟩ (fun h => by cases h) c.definition.post_init_ok.2.1

theorem progress_run_next (now : Int) :
    c.Progresses (fun _ _ _ => True) none none (c.run_next now) := by
  unfold run_next
  refine Prog.follows_bind (Q := fun s view _ => c.Inv s.records ∧ view = some s) ?_ ?_
  · exact Prog.follows_read (D := c.progress) fun s hs => ⟨hs, rfl⟩
  rintro state view credit ⟨hinv, rfl⟩
  split
  · exact progress_return
  split
  · rename_i hnone
    have hdone : Done state.records none := List.getLast?_eq_none_iff.1 hnone
    exact progress_plan_next hinv hdone now
  rename_i r hlast
  have hrecords : state.records = state.records.dropLast ++ [r] :=
    (List.dropLast_append_getLast? r hlast).symm
  have hat : c.At r state := ⟨_, hrecords, hinv⟩
  have hmax := (hinv.forall_mem r (List.mem_of_getLast? hlast)).2.2
  split
  · rename_i hphase
    exact progress_run_analysis hat (by rw [hphase]; nofun) hmax now
  · rename_i hphase
    exact progress_run_analysis hat (by rw [hphase]; nofun) hmax now
  · rename_i hphase
    split
    · exact progress_return
    rename_i hinvocations
    split
    · exact progress_return
    split
    · exact progress_return
    refine Prog.follows_bind progress_has_capacity ?_
    rintro capacity view credit rfl
    split
    · exact progress_return
    · exact progress_run_capture hat (by rw [hphase]; nofun) (Int.not_le.1 hinvocations)
  · rename_i hphase
    have hdone : Done state.records (some r) := ⟨_, hrecords, Or.inr hphase⟩
    exact progress_plan_next hinv hdone now
  · rename_i hphase
    have hdone : Done state.records (some r) := ⟨_, hrecords, Or.inl hphase⟩
    exact progress_plan_next hinv hdone now

end Calls

end CampaignCoordinator

/-! ## The collector's progress -/

namespace DeferredCampaignCoordinator

open ContinuousCollectionState (captured captured_append captured_cons)

variable {c : DeferredCampaignCoordinator}

/-- A call never loses an accepted record. -/
def collecting : Discipline ContinuousCollectionState CampaignQuery Empty ContinuousError where
  Inv _ := True
  Move s t := captured s.val.records ≤ captured t.val.records
  count _ _ := 0
  asks _ := none
  Allowed _ _ := True
  MayRaise _ := True
  count_le := nofun

variable (c) in
@[reducible] def Progresses {α : Type} (Q : α → Option ContinuousCollectionState → Option Empty → Prop)
    (view : Option ContinuousCollectionState) (credit : Option Empty) (x : ContinuousProg α) : Prop :=
  x.Follows c.cas collecting Q view credit

section Calls

variable {state : ContinuousCollectionState} {credit : Option Empty}

theorem progress_return {α : Type} {a : α} {view : Option ContinuousCollectionState} :
    c.Progresses (fun _ _ _ => True) view credit (pure a) := trivial

theorem progress_ask {q : CampaignQuery} :
    c.Progresses (fun _ view _ => view = some state) (some state) credit (.ask q) :=
  Prog.follows_ask (D := collecting) trivial rfl fun _ => rfl

theorem progress_build {α : Type} {post_init : α → Except PyError Unit} {fields : α} :
    c.Progresses (fun x view _ => x.val = fields ∧ view = some state) (some state) credit
      (build fields : ContinuousProg (Checked post_init)) := by
  refine Prog.follows_ofExcept ?_ fun _ _ => trivial
  intro x hx
  cases hmake : Checked.make post_init fields with
  | error e =>
    rw [hmake] at hx
    cases hx
  | ok y =>
    rw [hmake] at hx
    cases hx
    exact ⟨Checked.val_of_make hmake, rfl⟩

theorem progress_attempt {α : Type} {x : Except PyError α} :
    c.Progresses (fun _ view _ => view = some state) (some state) credit (attempt x) :=
  Prog.follows_ofExcept (fun _ _ => rfl) fun _ _ => trivial

theorem progress_store {replacement : ContinuousCollectionState.Fields}
    (hcount : captured state.val.records ≤ captured replacement.records) :
    c.Progresses (fun s view _ => s.val.records = replacement.records ∧ view = some s) (some state) credit
      (store replacement state) := by
  unfold store
  refine Prog.follows_bind progress_build ?_
  rintro first view credit ⟨hfirst, rfl⟩
  refine Prog.follows_bind progress_build ?_
  rintro second view credit ⟨hsecond, rfl⟩
  rw [hfirst] at hsecond
  have hrev : c.cas.revision state < c.cas.revision second := by
    show state.val.revision < second.val.revision
    rw [hsecond]
    exact Nat.lt_succ_self _
  have hrecords : second.val.records = replacement.records := by rw [hsecond]
  refine Prog.follows_replace (D := collecting) trivial hrev ?_ none nofun ⟨hrecords, rfl⟩
  show captured state.val.records ≤ captured second.val.records
  rw [hrecords]
  exact hcount

/-- Another phase alone. -/
theorem progress_halt (reason : ContinuousCollectionHaltReason) :
    c.Progresses (fun _ _ _ => True) (some state) credit (halt state reason) := by
  have hsame : captured state.val.records ≤ captured ({ state.val with
      phase := .halted, halt_reason := some reason } : ContinuousCollectionState.Fields).records := Nat.le_refl _
  exact (progress_store hsame).mono fun _ _ _ _ => trivial

variable {r r' : ContinuousCollectionRecord}

/-- A record changes to one that is accepted if it was. -/
theorem captured_set {records : List ContinuousCollectionRecord} {index : Nat} (hget : records[index]? = some r)
    (h : r.val.phase.Accepted → r'.val.phase.Accepted) :
    captured records ≤ captured (records.set index r') := by
  obtain ⟨hlt, hget⟩ := List.getElem?_eq_some_iff.1 hget
  have hsplit : records = records.take index ++ r :: records.drop (index + 1) := by
    rw [← hget, List.getElem_cons_drop, List.take_append_drop]
  have hset : records.set index r' = records.take index ++ r' :: records.drop (index + 1) :=
    List.set_eq_take_append_cons_drop.trans (if_pos hlt)
  have hcaptured := congrArg captured hsplit
  rw [captured_append, captured_cons] at hcaptured
  rw [hset, captured_append, captured_cons, hcaptured]
  split
  · rename_i haccepted
    rw [if_pos (h haccepted)]
  · omega

theorem progress_records_with {index : Nat} (hget : state.val.records[index]? = some r)
    (h : r.val.phase.Accepted → r'.val.phase.Accepted) :
    c.Progresses (fun records view _ => (records = state.val.records.set index r' ∧
        captured state.val.records ≤ captured records) ∧ view = some state) (some state) credit
      (records_with state index r') := by
  unfold records_with
  rw [hget]
  dsimp only
  split
  · trivial
  · exact ⟨⟨rfl, captured_set hget h⟩, rfl⟩

theorem progress_replace_record {index : Nat} (hget : state.val.records[index]? = some r)
    (h : r.val.phase.Accepted → r'.val.phase.Accepted) :
    c.Progresses (fun s view _ => s.val.records[index]? = some r' ∧ view = some s) (some state) credit
      (replace_record state index r') := by
  unfold replace_record
  refine Prog.follows_bind (progress_records_with hget h) ?_
  rintro records view credit ⟨⟨rfl, hcount⟩, rfl⟩
  refine (progress_store hcount).mono ?_
  rintro s view credit ⟨hrecords, hview⟩
  obtain ⟨hlt, _⟩ := List.getElem?_eq_some_iff.1 hget
  refine ⟨?_, hview⟩
  rw [hrecords]
  exact List.getElem?_set_self hlt

theorem progress_capture_invoked {index : Nat} (hget : state.val.records[index]? = some r)
    (hphase : r.val.phase = .planned) :
    c.Progresses (fun _ _ _ => True) (some state) credit (c.capture_invoked state r index) := by
  have hnot : ∀ r' : ContinuousCollectionRecord, r.val.phase.Accepted → r'.val.phase.Accepted := by
    intro r' h
    rw [hphase] at h
    rcases h with h | h | h <;> cases h
  unfold capture_invoked
  dsimp only
  refine Prog.follows_bind progress_ask ?_
  rintro answer view credit rfl
  split
  · split
    · exact progress_return
    · trivial
  split
  · refine Prog.follows_bind progress_build ?_
    rintro failure view credit ⟨_, rfl⟩
    refine Prog.follows_bind (progress_records_with hget (hnot failure)) ?_
    rintro records view credit ⟨⟨_, hcount⟩, rfl⟩
    exact Prog.follows_bind (progress_store hcount) fun _ _ _ _ => progress_return
  · refine Prog.follows_bind progress_build ?_
    rintro captured view credit ⟨_, rfl⟩
    exact Prog.follows_bind (progress_replace_record hget (hnot captured)) fun _ _ _ _ => progress_return

theorem progress_capture_planned (hlast : state.val.records.getLast? = some r) (hphase : r.val.phase = .planned)
    (now : Int) :
    c.Progresses (fun _ _ _ => True) (some state) credit (c.capture_planned state r now) := by
  have hget : state.val.records[state.val.records.length - 1]? = some r := by
    rw [← List.getLast?_eq_getElem?]
    exact hlast
  have hnot : ∀ r' : ContinuousCollectionRecord, r.val.phase.Accepted → r'.val.phase.Accepted := by
    intro r' h
    rw [hphase] at h
    rcases h with h | h | h <;> cases h
  unfold capture_planned
  dsimp only
  split
  · exact progress_return
  split
  · refine Prog.follows_bind progress_build ?_
    rintro abandoned view credit ⟨_, rfl⟩
    refine Prog.follows_bind (progress_records_with hget (hnot abandoned)) ?_
    rintro records view credit ⟨⟨_, hcount⟩, rfl⟩
    exact Prog.follows_bind (progress_store hcount) fun _ _ _ _ => progress_return
  have hcapacity : c.Progresses (fun _ view _ => view = some state) (some state) credit (c.has_capacity state) := by
    unfold has_capacity
    refine Prog.follows_bind progress_ask ?_
    rintro answer view credit rfl
    refine Prog.follows_bind progress_attempt ?_
    rintro available view credit rfl
    split
    · trivial
    refine Prog.follows_bind progress_attempt ?_
    rintro cells view credit rfl
    exact rfl
  refine Prog.follows_bind hcapacity ?_
  rintro capacity view credit rfl
  split
  · exact progress_return
  refine Prog.follows_bind progress_build ?_
  rintro invoked view credit ⟨hinvoked, rfl⟩
  refine Prog.follows_bind (progress_replace_record hget (hnot invoked)) ?_
  rintro s view credit ⟨hget', rfl⟩
  exact progress_capture_invoked hget' (by rw [hinvoked]; exact hphase)

theorem progress_plan_next (now : Int) :
    c.Progresses (fun _ _ _ => True) (some state) credit (c.plan_next state now) := by
  unfold plan_next
  dsimp only
  split
  · exact Prog.follows_bind (progress_halt _) fun _ _ _ _ => progress_return
  split
  · exact Prog.follows_bind (progress_halt _) fun _ _ _ _ => progress_return
  refine Prog.follows_bind progress_attempt ?_
  rintro unit view credit rfl
  refine Prog.follows_bind progress_build ?_
  rintro record view credit ⟨hrecord, rfl⟩
  refine Prog.follows_bind (progress_store ?_) ?_
  · show captured state.val.records ≤ captured (state.val.records ++ [record])
    rw [captured_append]
    omega
  rintro planned view credit ⟨hrecords, rfl⟩
  split
  · exact progress_return
  · exact progress_capture_planned (by rw [hrecords, List.getLast?_concat]) (by rw [hrecord]) now

theorem progress_read {α : Type} {f : ContinuousCollectionState → ContinuousProg α}
    (h : ∀ s, c.Progresses (fun _ _ _ => True) (some s) none (f s)) :
    c.Progresses (fun _ _ _ => True) none none (.read >>= f) := by
  refine Prog.follows_bind (Q := fun s view credit => view = some s ∧ credit = none) ?_ ?_
  · exact Prog.follows_read (D := collecting) fun s _ => ⟨rfl, rfl⟩
  · rintro s view credit ⟨rfl, rfl⟩
    exact h s

theorem progress_capture_next (now : Int) : c.Progresses (fun _ _ _ => True) none none (c.capture_next now) := by
  unfold capture_next
  apply progress_read
  intro s
  split
  · exact progress_return
  split
  · exact progress_return
  split
  · exact Prog.follows_bind (progress_store (Nat.le_refl _)) fun _ _ _ _ => progress_return
  split
  · exact progress_plan_next now
  rename_i r hlast
  split
  · rename_i hphase
    split
    · exact Prog.follows_bind (progress_halt _) fun _ _ _ _ => progress_return
    · exact progress_capture_planned hlast hphase now
  · exact progress_plan_next now

theorem progress_close_capture : c.Progresses (fun _ _ _ => True) none none close_capture := by
  unfold close_capture
  apply progress_read
  intro s
  split
  · exact progress_return
  split
  · exact progress_return
  split
  · trivial
  · exact Prog.follows_bind (progress_store (Nat.le_refl _)) fun _ _ _ _ => progress_return

theorem progress_analyze_next (deadline : Int) :
    c.Progresses (fun _ _ _ => True) none none (c.analyze_next deadline) := by
  unfold analyze_next
  apply progress_read
  intro s
  split
  · exact progress_return
  split
  · exact progress_return
  split
  · exact progress_return
  split
  · exact Prog.follows_bind (progress_store (Nat.le_refl _)) fun _ _ _ _ => progress_return
  rename_i r index hcandidate
  have hget : s.val.records[index]? = some r := List.mem_zipIdx_iff_getElem?.1 (List.mem_of_find?_eq_some hcandidate)
  obtain ⟨hpending, _⟩ := candidate_ok hcandidate
  have haccepted : r.val.phase.Accepted := by
    rcases hpending with h | h
    · exact Or.inl h
    · exact Or.inr (Or.inl h)
  split
  · trivial
  split
  · exact Prog.follows_bind (progress_halt _) fun _ _ _ _ => progress_return
  refine Prog.follows_bind progress_build ?_
  rintro invoked view credit ⟨hinvoked, rfl⟩
  have haccepted' : invoked.val.phase.Accepted := by rw [hinvoked]; exact haccepted
  refine Prog.follows_bind (progress_replace_record hget fun _ => haccepted') ?_
  rintro s' view credit ⟨hget', rfl⟩
  refine Prog.follows_bind progress_ask ?_
  rintro answer view credit rfl
  -- a failed and a complete record are both accepted
  split
  · split
    · refine Prog.follows_bind progress_build ?_
      rintro failed view credit ⟨hfailed, rfl⟩
      have hkeeps : failed.val.phase.Accepted := by rw [hfailed]; exact Or.inr (Or.inl rfl)
      exact Prog.follows_bind (progress_replace_record hget' fun _ => hkeeps) fun _ _ _ _ => progress_return
    · trivial
  · refine Prog.follows_bind progress_build ?_
    rintro complete view credit ⟨hcomplete, rfl⟩
    have hkeeps : complete.val.phase.Accepted := by rw [hcomplete]; exact Or.inr (Or.inr rfl)
    exact Prog.follows_bind (progress_replace_record hget' fun _ => hkeeps) fun _ _ _ _ => progress_return

theorem progress_program (call : ContinuousCall) : c.Progresses (fun _ _ _ => True) none none (c.program call) := by
  cases call with
  | capture_next now => exact progress_capture_next now
  | close_capture => exact progress_close_capture
  | analyze_next deadline => exact progress_analyze_next deadline
  | halt_analysis =>
    show c.Progresses _ none none halt_analysis
    unfold halt_analysis
    apply progress_read
    intro s
    split
    · exact progress_return
    split
    · trivial
    · exact Prog.follows_bind (progress_halt _) fun _ _ _ _ => progress_return

end Calls

end DeferredCampaignCoordinator

/-! ## Every run -/

section Runs

/-- What is left of a main campaign does not depend on the definition. -/
theorem remainingCells_main {d' : CampaignDefinition} (hd : d.val.qualification = false)
    (hd' : d'.val.qualification = false) (n : Nat) : remainingCells d n = remainingCells d' n := by
  unfold remainingCells CampaignDefinition.target_successes
  rw [hd, hd']

/-- The collector's check of a main campaign with as many successes. -/
theorem exec_has_capacity_of_scheduled (d : DeferredCampaignCoordinator) {c : CampaignCoordinator}
    (hmain : c.definition.val.qualification = false) (hs : CampaignJournalState.Scheduled s.records)
    {state journal : ContinuousCollectionState} (hcount : state.captured_count = s.completed_successes)
    {answer : ∀ q : CampaignQuery, q.Answer} {available : Int} (hanswer : answer .available_bytes = .ok available)
    (havailable : 0 ≤ available) :
    (d.has_capacity state).exec d.cas answer journal = (journal, .ok (decide
      (required_remaining_capacity_bytes c.definition s d.capacity_margin_bytes ≤ available))) := by
  obtain ⟨cells, hcells, hexec⟩ := d.exec_has_capacity hanswer havailable
  obtain ⟨cells', hcells', hrequired⟩ := required_eq (d := c.definition) hs d.capacity_margin_bytes
  rw [hcount, remainingCells_main d.main hmain, hcells'] at hcells
  cases hcells
  rw [hexec, hrequired]

variable {P : Type} [DecidableEq P]

/-- In every state of every run of a campaign's coordinators the bytes reserved are twice those of
the cells of the remaining success indices, and the margin; the continuous collector of a
main campaign, at as many successes and with the same margin, compares the same number with
what is available. No replacement of either journal, in any run, reserves more than the
state it replaces. -/
theorem remaining_capacity_agrees (c : CampaignCoordinator) (d : DeferredCampaignCoordinator) (margin_bytes : Int)
    (as : List (Journal.Label P Int CampaignQuery CampaignQuery.Answer))
    (bs : List (Journal.Label Unit ContinuousCall CampaignQuery CampaignQuery.Answer)) :
    c.system.AllStates (fun st =>
      (∃ cells, remainingCells c.definition st.journal.completed_successes = .ok cells ∧
        required_remaining_capacity_bytes c.definition st.journal margin_bytes =
          ((cells.map cellBytes).sum : Nat) * 2 + margin_bytes) ∧
      (c.definition.val.qualification = false → ∀ (state journal : ContinuousCollectionState)
        (answer : ∀ q : CampaignQuery, q.Answer) (available : Int),
        state.captured_count = st.journal.completed_successes → answer .available_bytes = .ok available → 0 ≤ available →
          (d.has_capacity state).exec d.cas answer journal = (journal, .ok (decide
            (required_remaining_capacity_bytes c.definition st.journal d.capacity_margin_bytes ≤ available)))) ∧
      ∀ newer p old new older, st.history = newer ++ .wrote p old new :: older →
        required_remaining_capacity_bytes c.definition new margin_bytes ≤
          required_remaining_capacity_bytes c.definition old margin_bytes) c.start as ∧
    d.system.AllStates (fun st =>
      ∀ newer p old new older, st.history = newer ++ .wrote p old new :: older →
        ∃ cells cells', remainingCells d.definition old.captured_count = .ok cells ∧
          remainingCells d.definition new.captured_count = .ok cells' ∧
          (cells'.map cellBytes).sum ≤ (cells.map cellBytes).sum) d.start bs := by
  constructor
  · have hinitial : c.progress.Inv (.initial c.digest) := CampaignCoordinator.Inv.nil
    refine Journal.allStates_of_follows hinitial CampaignCoordinator.progress_run_next (fun _ _ _ _ _ => trivial) ?_ as
    intro st hst
    have hscheduled := CampaignCoordinator.Inv.scheduled hst.inv
    refine ⟨required_eq hscheduled margin_bytes, ?_, ?_⟩
    · intro hmain state journal answer available hcount hanswer havailable
      exact exec_has_capacity_of_scheduled d hmain hscheduled hcount hanswer havailable
    · intro newer p old new older heq
      obtain ⟨hold, hnew, hmove, hvalid⟩ := History.Valid.suffix (heq ▸ hst.valid)
      have hinv : c.Inv old.records := hold ▸ History.inv_current hvalid
      have hs := CampaignCoordinator.Inv.scheduled hinv
      have ht := CampaignCoordinator.Inv.scheduled hnew
      refine required_antitone hs ht ?_ margin_bytes
      rw [CampaignJournalState.completed_successes_eq hs, CampaignJournalState.completed_successes_eq ht]
      exact hmove
  · refine Journal.allStates_of_follows (D := DeferredCampaignCoordinator.collecting) trivial
      DeferredCampaignCoordinator.progress_program (fun _ _ _ _ _ => trivial) ?_ bs
    intro st hst newer p old new older heq
    obtain ⟨_, _, hmove, _⟩ := History.Valid.suffix (heq ▸ hst.valid)
    obtain ⟨cells, hcells, hsum⟩ := remainingCells_eq d.definition old.captured_count
    obtain ⟨cells', hcells', hsum'⟩ := remainingCells_eq d.definition new.captured_count
    refine ⟨cells, cells', hcells, hcells', ?_⟩
    rw [hsum, hsum']
    exact lacking_antitone cellBytes (targetPerCell d.definition) CAMPAIGN_CELLS hmove

end Runs

end LeoFlow
