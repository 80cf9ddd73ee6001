import LeoFlow.Core.Paging
import LeoFlow.Contracts.Validation
import LeoFlow.Maintenance.Recovery

/-!
# LeoFlow.Maintenance.Inventory — a sweep of the store, page by page

`FileSystemCasInventory` (`maintenance/filesystem_orphans.py`) over any content of the store's directories, and
`reconcile_unregistered_objects` (`maintenance/orphan_reconciliation.py`) over any catalog: an operator calls it with
no cursor and follows `next_cursor` until there is none. A call first works off claims that earlier runs left
behind, and takes inventory with the rest of its limit; when nothing is left of the limit, it returns the cursor it
was given, also when that is no cursor at all.
-/

namespace LeoFlow

/-! ## The directories -/

/-- What `os.fstat` says of a regular file. -/
structure LeafStat where
  st_size : Nat
  st_dev : Nat
  st_ino : Nat
  st_mtime_ns : Int

/-- A name in a directory -/
structure FileName where
  val : PyStr
  nonempty : val ≠ []
  no_slash : 47 ∉ val
  not_parent : val ≠ str ".."

/-- What `os.scandir` lists: names once, in some order. -/
structure Directory (α : Type) where
  entries : List (FileName × α)
  nodup : (entries.map (·.1.val)).Nodup

/-- A directory below `sha256`. A leaf that cannot be opened, or is no regular file, has no facts. -/
structure ShardDirectory where
  st_dev : Nat
  st_ino : Nat
  leaves : Directory (Option LeafStat)

/-- `<root>/sha256` -/
inductive Sha256Directory where
  | missing
  /-- `os.open` raises another `OSError` -/
  | unopenable
  /-- an entry that cannot be opened as a directory has no content -/
  | directory (shards : Directory (Option ShardDirectory))

structure FileSystemCasInventory where
  sha256 : Sha256Directory
  scan_budget : Nat

/-- What a scan and a call raise. -/
inductive InventoryError where
  /-- `InventoryBudgetExceeded`: "CAS inventory scan budget exceeded" -/
  | budget_exceeded
  /-- "filesystem evidence values must be non-negative" -/
  | negative_evidence
  /-- "limit must be positive" -/
  | limit_not_positive
  /-- "inventory cursor is not a relative CAS key" -/
  | bad_cursor
  /-- "limit and minimum_age_seconds must be positive" -/
  | not_positive
  | os_error

/-- `_LOWER_HEX_2.fullmatch` -/
def IsShardName (name : PyStr) : Prop := name.length = 2 ∧ ∀ c ∈ name, IsLowerHex c

instance (name : PyStr) : Decidable (IsShardName name) :=
  inferInstanceAs (Decidable (name.length = 2 ∧ ∀ c ∈ name, IsLowerHex c))

/-- `_LOWER_HEX_64.fullmatch(leaf_name)` and `leaf_name.startswith(shard_name)` -/
def IsLeafName (shard name : PyStr) : Prop := (name.length = 64 ∧ ∀ c ∈ name, IsLowerHex c) ∧ shard <+: name

instance (shard name : PyStr) : Decidable (IsLeafName shard name) :=
  inferInstanceAs (Decidable ((name.length = 64 ∧ ∀ c ∈ name, IsLowerHex c) ∧ shard <+: name))

def shardKey (shard : PyStr) : PyStr := str "sha256/" ++ shard

namespace FileSystemCasInventory

/-- `_names`: what is left of the budget. -/
def names {α : Type} (d : Directory α) (budget : Nat) : Except InventoryError Nat :=
  if budget < d.entries.length then .error .budget_exceeded else .ok (budget - d.entries.length)

/-- `_evidence` -/
def evidence (leaf : LeafStat) (parent : ShardDirectory) : Except InventoryError FileEvidence :=
  if leaf.st_mtime_ns < 0 then .error .negative_evidence
  else .ok ⟨leaf.st_size, leaf.st_dev, leaf.st_ino, parent.st_dev, parent.st_ino, leaf.st_mtime_ns.toNat⟩

/-- The body of the inner loop of `_all_entries`. -/
def leafEntry (shard : PyStr) (parent : ShardDirectory) (leaf : FileName × Option LeafStat) :
    Except InventoryError InventoryEntry :=
  if h : IsLeafName shard leaf.1.val then
    match leaf.2 with
    | none => .ok (.corrupt_name (shardKey shard ++ str "/" ++ leaf.1.val))
    | some facts => (evidence facts parent).map (.canonical ⟨leaf.1.val, h.1.1, h.1.2⟩)
  else .ok (.corrupt_name (shardKey shard ++ str "/" ++ leaf.1.val))

/-- The loop of `_all_entries` over the shards. -/
def shardEntries : List (FileName × Option ShardDirectory) → Nat → Except InventoryError (List InventoryEntry)
  | [], _ => .ok []
  | (name, content) :: shards, budget =>
    if ¬IsShardName name.val then do
      let rest ← shardEntries shards budget
      return .corrupt_name (shardKey name.val) :: rest
    else
      match content with
      | none => do
        let rest ← shardEntries shards budget
        return .corrupt_name (shardKey name.val) :: rest
      | some shard => do
        let budget ← names shard.leaves budget
        let entries ← shard.leaves.entries.mapM (leafEntry name.val shard)
        let rest ← shardEntries shards budget
        return entries ++ rest

/-- `_all_entries` -/
def allEntries (inventory : FileSystemCasInventory) : Except InventoryError (List InventoryEntry) :=
  match inventory.sha256 with
  | .missing => .ok []
  | .unopenable => .error .os_error
  | .directory shards => do
    let budget ← names shards inventory.scan_budget
    shardEntries shards.entries budget

/-- `inventory` -/
def inventory (inventory : FileSystemCasInventory) (after : Option PyStr) (limit : Nat) :
    Except InventoryError (List InventoryEntry × Option PyStr) :=
  if limit = 0 then .error .limit_not_positive
  else if ∃ key ∈ after, badCursor key then .error .bad_cursor
  else do
    let all ← inventory.allEntries
    let entries := all.insertionSort fun a b => a.key ≤ b.key
    let selected := (entries.filter fun e => ∀ key ∈ after, key < e.key).take limit
    match selected.getLast? with
    | none => return ([], none)
    | some last => return (selected, if ∃ e ∈ entries, last.key < e.key then some last.key else none)

end FileSystemCasInventory

/-! ## The calls -/

/-- What the catalog answers during one call. -/
structure CatalogAnswers where
  /-- the claims not yet resolved, in digest order -/
  claims : List PendingClaim
  observe : InventoryEntry → ReconciliationCategory
  claim : InventoryEntry → Nat → Option PyStr
  delete_under_fence : InventoryEntry → PyStr → ReconciliationOutcome

namespace CatalogAnswers

/-- `pending_claims` -/
def pending_claims (catalog : CatalogAnswers) (limit : Nat) : List PendingClaim := catalog.claims.take limit

/-- The result of one pending claim. -/
def resolve (catalog : CatalogAnswers) (c : PendingClaim) : ReconciliationResult :=
  ⟨leafKey c.digest, .in_flight, catalog.delete_under_fence (.canonical c.digest c.evidence) c.claim_token⟩

/-- The result of one inventory entry. -/
def reconcileEntry (catalog : CatalogAnswers) (minimum_age_seconds : Nat) (delete : Bool) (entry : InventoryEntry) :
    ReconciliationResult :=
  match entry with
  | .corrupt_name key => ⟨key, .corrupt_name, .reported⟩
  | .canonical d e =>
    let category := catalog.observe (.canonical d e)
    if category ≠ .unregistered ∨ delete = false then ⟨leafKey d, category, .reported⟩
    else
      match catalog.claim (.canonical d e) minimum_age_seconds with
      | none => ⟨leafKey d, category, .not_eligible⟩
      | some claim_token => ⟨leafKey d, category, catalog.delete_under_fence (.canonical d e) claim_token⟩

end CatalogAnswers

/-- The arguments that stay the same over a sweep; `delete` says that a deleter is given. -/
structure SweepArguments where
  limit : Nat
  minimum_age_seconds : Nat
  delete : Bool
  limit_pos : 0 < limit
  minimum_age_pos : 0 < minimum_age_seconds

section Sweep

variable (inventory : FileSystemCasInventory) (args : SweepArguments)

/-- The claims a call works off first. -/
def leftovers (catalog : CatalogAnswers) : List PendingClaim :=
  if args.delete then catalog.pending_claims args.limit else []

/-- `reconcile_unregistered_objects`: the results of the leftovers, then those of the page. -/
def reconcilePage (catalog : CatalogAnswers) (after : Option PyStr) :
    Except InventoryError ReconciliationReport :=
  if args.limit = 0 ∨ args.minimum_age_seconds = 0 then .error .not_positive
  else
    let pending := leftovers args catalog
    let results := pending.map catalog.resolve
    let remaining := args.limit - pending.length
    if remaining = 0 then .ok ⟨results, after, false⟩
    else do
      let batch ← inventory.inventory after remaining
      return ⟨results ++ batch.1.map (catalog.reconcileEntry args.minimum_age_seconds args.delete), batch.2,
        !args.delete⟩

/-- The results of a call that are not of leftovers. -/
def visited (catalog : CatalogAnswers) (report : ReconciliationReport) : List ReconciliationResult :=
  report.results.drop (leftovers args catalog).length

/-- Calls that follow the cursor: what they visit, once the cursor is absent. -/
def follow : List CatalogAnswers → Option PyStr → Except InventoryError (Option (List ReconciliationResult))
  | [], _ => .ok none
  | catalog :: catalogs, after => do
    let report ← reconcilePage inventory args catalog after
    match report.next_cursor with
    | none => return some (visited args catalog report)
    | some c => do
      let rest ← follow catalogs (some c)
      return rest.map (visited args catalog report ++ ·)

end Sweep

/-! ## What is there -/

variable {es : List InventoryEntry} {after : Option PyStr}

namespace FileSystemCasInventory

def leafKeyOf (shard leaf : PyStr) : PyStr := shardKey shard ++ str "/" ++ leaf

/-- The keys below one entry of `sha256`. -/
def keysOf (s : FileName × Option ShardDirectory) : List PyStr :=
  if IsShardName s.1.val then
    match s.2 with
    | none => [shardKey s.1.val]
    | some shard => shard.leaves.entries.map fun leaf => leafKeyOf s.1.val leaf.1.val
  else [shardKey s.1.val]

/-- The keys of the store, in directory order. -/
def keys (inventory : FileSystemCasInventory) : List PyStr :=
  match inventory.sha256 with
  | .directory shards => shards.entries.flatMap keysOf
  | _ => []

/-- An object of the store: a regular file under a canonical name. -/
structure ObjectAt (inventory : FileSystemCasInventory) (key : PyStr) (facts : LeafStat) : Prop where
  exists_leaf : ∃ shards, inventory.sha256 = .directory shards ∧
    ∃ shard content leaf, (shard, some content) ∈ shards.entries ∧ IsShardName shard.val ∧
      (leaf, some facts) ∈ content.leaves.entries ∧ IsLeafName shard.val leaf.val ∧
      key = leafKeyOf shard.val leaf.val

def Object (inventory : FileSystemCasInventory) (key : PyStr) : Prop := ∃ facts, inventory.ObjectAt key facts

/-- The directory entries a scan reads in one entry of `sha256`. -/
def scannedIn (s : FileName × Option ShardDirectory) : Nat :=
  if IsShardName s.1.val then
    match s.2 with
    | none => 0
    | some shard => shard.leaves.entries.length
  else 0

/-- A scan returns: `sha256` is a directory or missing, there is budget for every entry, and no object is older
than the epoch. -/
def Scannable (inventory : FileSystemCasInventory) : Prop :=
  (match inventory.sha256 with
    | .missing => True
    | .unopenable => False
    | .directory shards => shards.entries.length + (shards.entries.map scannedIn).sum ≤ inventory.scan_budget) ∧
    ∀ key facts, inventory.ObjectAt key facts → 0 ≤ facts.st_mtime_ns

/-! ### Keys -/

theorem splitOn_shardKey (shard : FileName) : (shardKey shard.val).splitOn 47 = [str "sha256", shard.val] := by
  have hkey : [47].intercalate [str "sha256", shard.val] = shardKey shard.val := by
    simp [List.intercalate, shardKey, str]
  rw [← hkey]
  apply List.splitOn_intercalate
  · intro l hl
    rcases List.mem_pair.1 hl with rfl | rfl
    · decide
    · exact shard.no_slash
  · simp

theorem splitOn_leafKeyOf (shard leaf : FileName) :
    (leafKeyOf shard.val leaf.val).splitOn 47 = [str "sha256", shard.val, leaf.val] := by
  have hkey : [47].intercalate [str "sha256", shard.val, leaf.val] = leafKeyOf shard.val leaf.val := by
    simp [List.intercalate, leafKeyOf, shardKey, str]
  rw [← hkey]
  apply List.splitOn_intercalate
  · intro l hl
    simp only [List.mem_cons, List.not_mem_nil, or_false] at hl
    rcases hl with rfl | rfl | rfl
    · decide
    · exact shard.no_slash
    · exact leaf.no_slash
  · simp

/-- A key below one entry of `sha256` names that entry, and no parent directory. -/
theorem splitOn_of_mem_keysOf {s : FileName × Option ShardDirectory} {key : PyStr} (h : key ∈ keysOf s) :
    key.splitOn 47 = [str "sha256", s.1.val] ∨
      ∃ leaf : FileName, key.splitOn 47 = [str "sha256", s.1.val, leaf.val] := by
  have hown : key = shardKey s.1.val → key.splitOn 47 = [str "sha256", s.1.val] := by
    rintro rfl
    exact splitOn_shardKey s.1
  unfold keysOf at h
  split at h
  · split at h
    · exact Or.inl (hown (List.mem_singleton.1 h))
    · rcases List.mem_map.1 h with ⟨leaf, _, rfl⟩
      exact Or.inr ⟨leaf.1, splitOn_leafKeyOf s.1 leaf.1⟩
  · exact Or.inl (hown (List.mem_singleton.1 h))

theorem not_badCursor_of_mem_keysOf {s : FileName × Option ShardDirectory} {key : PyStr} (h : key ∈ keysOf s) :
    ¬badCursor key := by
  have hhead : key.head? = some 115 := by
    unfold keysOf at h
    split at h
    · split at h
      · rw [List.mem_singleton.1 h]
        rfl
      · rcases List.mem_map.1 h with ⟨leaf, _, rfl⟩
        rfl
    · rw [List.mem_singleton.1 h]
      rfl
  rintro (hnil | hslash | hparent)
  · rw [hnil] at hhead
    cases hhead
  · rw [hhead] at hslash
    cases hslash
  · have hne : str ".." ≠ str "sha256" := by decide
    rcases splitOn_of_mem_keysOf h with hsplit | ⟨leaf, hsplit⟩
    · rw [hsplit, List.mem_pair] at hparent
      exact hparent.elim hne (fun h => s.1.not_parent h.symm)
    · rw [hsplit, List.mem_cons, List.mem_pair] at hparent
      rcases hparent with hparent | hparent | hparent
      · exact hne hparent
      · exact s.1.not_parent hparent.symm
      · exact leaf.not_parent hparent.symm

theorem nodup_keysOf (s : FileName × Option ShardDirectory) : (keysOf s).Nodup := by
  unfold keysOf
  split
  · split
    · exact List.nodup_singleton _
    · rename_i shard _
      have hinj : ∀ leaf leaf' : FileName, leafKeyOf s.1.val leaf.val = leafKeyOf s.1.val leaf'.val →
          leaf.val = leaf'.val := by
        intro leaf leaf' heq
        have hsplit := splitOn_leafKeyOf s.1 leaf
        rw [heq, splitOn_leafKeyOf] at hsplit
        simpa using hsplit.symm
      have hpair := List.pairwise_map.1 shard.leaves.nodup
      refine List.pairwise_map.2 (hpair.imp ?_)
      intro leaf leaf' hne heq
      exact hne (hinj leaf.1 leaf'.1 heq)
  · exact List.nodup_singleton _

/-- A directory lists a name once, so the store has a key once. -/
theorem nodup_keys (inventory : FileSystemCasInventory) : inventory.keys.Nodup := by
  unfold keys
  split
  · rename_i shards _
    rw [List.nodup_flatMap]
    constructor
    · intro s _
      exact nodup_keysOf s
    · refine (List.pairwise_map.1 shards.nodup).imp ?_
      intro s s' hne key hkey hkey'
      have hname : ∀ {t : FileName × Option ShardDirectory}, key ∈ keysOf t →
          (key.splitOn 47)[1]? = some t.1.val := by
        intro t ht
        rcases splitOn_of_mem_keysOf ht with hsplit | ⟨leaf, hsplit⟩ <;> rw [hsplit] <;> rfl
      have heq := (hname hkey).symm.trans (hname hkey')
      exact hne (Option.some.inj heq)
  · exact List.nodup_nil

theorem not_badCursor_of_mem_keys {inventory : FileSystemCasInventory} {key : PyStr} (h : key ∈ inventory.keys) :
    ¬badCursor key := by
  unfold keys at h
  split at h
  · rcases List.mem_flatMap.1 h with ⟨s, _, hs⟩
    exact not_badCursor_of_mem_keysOf hs
  · cases h

theorem Object.mem_keys {inventory : FileSystemCasInventory} {key : PyStr} (h : inventory.Object key) :
    key ∈ inventory.keys := by
  rcases h with ⟨facts, ⟨shards, hshards, shard, content, leaf, hmem, hshard, hleaf, _, rfl⟩⟩
  unfold keys
  rw [hshards]
  refine List.mem_flatMap.2 ⟨_, hmem, ?_⟩
  unfold keysOf
  rw [if_pos hshard]
  exact List.mem_map.2 ⟨_, hleaf, rfl⟩

/-! ### The scan -/

/-- The objects below one entry of `sha256` are not older than the epoch. -/
def Dated (s : FileName × Option ShardDirectory) : Prop :=
  IsShardName s.1.val → ∀ content, s.2 = some content → ∀ leaf ∈ content.leaves.entries,
    IsLeafName s.1.val leaf.1.val → ∀ facts, leaf.2 = some facts → 0 ≤ facts.st_mtime_ns

theorem leafEntry_key {shard : PyStr} (hshard : IsShardName shard) {parent : ShardDirectory}
    {leaf : FileName × Option LeafStat} {e : InventoryEntry} (h : leafEntry shard parent leaf = .ok e) :
    e.key = leafKeyOf shard leaf.1.val := by
  unfold leafEntry at h
  split at h
  · rename_i hname
    split at h
    · cases h
      rfl
    · rcases map_ok h with ⟨facts, _, rfl⟩
      have htake : leaf.1.val.take 2 = shard := by
        rw [← hshard.1]
        exact List.prefix_iff_eq_take.1 hname.2 |>.symm
      simp [InventoryEntry.key, leafKey, shardName, leafKeyOf, shardKey, htake]
  · cases h
    rfl

theorem leafEntry_ok_iff {shard : PyStr} {parent : ShardDirectory} {leaf : FileName × Option LeafStat} :
    (∃ e, leafEntry shard parent leaf = .ok e) ↔
      (IsLeafName shard leaf.1.val → ∀ facts, leaf.2 = some facts → 0 ≤ facts.st_mtime_ns) := by
  unfold leafEntry
  by_cases hname : IsLeafName shard leaf.1.val
  · rw [dif_pos hname]
    rcases hfacts : leaf.2 with - | facts
    · simp
    · simp only [Option.some.injEq, forall_eq']
      unfold evidence
      split
      · rename_i hneg
        refine iff_of_false ?_ (fun h => absurd (h hname) (by omega))
        rintro ⟨e, he⟩
        cases he
      · exact iff_of_true ⟨_, rfl⟩ (fun _ => by omega)
  · rw [dif_neg hname]
    exact iff_of_true ⟨_, rfl⟩ (fun h => absurd h hname)

/-- The loop over the shards lists their keys. -/
theorem shardEntries_keys {shards : List (FileName × Option ShardDirectory)} {budget : Nat}
    (h : shardEntries shards budget = .ok es) :
    es.map (·.key) = shards.flatMap keysOf := by
  induction shards generalizing budget es with
  | nil =>
    cases h
    rfl
  | cons s shards ih =>
    rcases s with ⟨name, content⟩
    rw [List.flatMap_cons, keysOf]
    unfold shardEntries at h
    split at h
    · rename_i hname
      rcases bind_ok.1 h with ⟨rest, hrest, hes⟩
      cases hes
      rw [if_neg hname, List.map_cons, ih hrest]
      rfl
    · rename_i hname
      rw [if_pos (not_not.1 hname)]
      split at h
      · rcases bind_ok.1 h with ⟨rest, hrest, hes⟩
        cases hes
        rw [List.map_cons, ih hrest]
        rfl
      · rename_i shard
        rcases bind_ok.1 h with ⟨budget', _, h'⟩
        rcases bind_ok.1 h' with ⟨entries, hentries, h''⟩
        rcases bind_ok.1 h'' with ⟨rest, hrest, hes⟩
        cases hes
        rw [List.map_append, ih hrest]
        have hkeys : entries.map (·.key) = shard.leaves.entries.map fun leaf => leafKeyOf name.val leaf.1.val := by
          have hall := mapM_ok.1 hentries
          rw [← List.forall₂_eq_eq_eq, List.forall₂_map_left_iff, List.forall₂_map_right_iff]
          exact hall.flip.imp fun e leaf he => leafEntry_key (not_not.1 hname) he
        rw [hkeys]

/-- It returns within the budget, when every object has a date. -/
theorem shardEntries_ok_iff {shards : List (FileName × Option ShardDirectory)} {budget : Nat} :
    (∃ es, shardEntries shards budget = .ok es) ↔
      (shards.map scannedIn).sum ≤ budget ∧ ∀ s ∈ shards, Dated s := by
  induction shards generalizing budget with
  | nil => exact iff_of_true ⟨[], rfl⟩ ⟨by simp, by simp⟩
  | cons s shards ih =>
    rcases s with ⟨name, content⟩
    rw [List.forall_mem_cons, List.map_cons, List.sum_cons]
    -- an entry that is not scanned
    have hskip : scannedIn (name, content) = 0 → Dated (name, content) → (∃ es, (do
          let rest ← shardEntries shards budget
          return InventoryEntry.corrupt_name (shardKey name.val) :: rest : Except InventoryError _) = .ok es) →
        scannedIn (name, content) + (shards.map scannedIn).sum ≤ budget ∧ Dated (name, content) ∧
          ∀ s ∈ shards, Dated s := by
      rintro hzero hdated ⟨es, hes⟩
      rcases bind_ok.1 hes with ⟨rest, hrest, _⟩
      rcases ih.1 ⟨rest, hrest⟩ with ⟨hsum, hall⟩
      exact ⟨by omega, hdated, hall⟩
    have hskip' : scannedIn (name, content) + (shards.map scannedIn).sum ≤ budget ∧ Dated (name, content) ∧
        (∀ s ∈ shards, Dated s) → ∃ es, (do
          let rest ← shardEntries shards budget
          return InventoryEntry.corrupt_name (shardKey name.val) :: rest : Except InventoryError _) = .ok es := by
      rintro ⟨hsum, _, hall⟩
      rcases ih.2 ⟨show (shards.map scannedIn).sum ≤ budget by omega, hall⟩ with ⟨rest, hrest⟩
      exact ⟨_, bind_ok.2 ⟨rest, hrest, rfl⟩⟩
    unfold shardEntries
    by_cases hname : IsShardName name.val
    · rw [if_neg (not_not.2 hname)]
      rcases content with - | shard
      · have hzero : scannedIn (name, none) = 0 := by simp [scannedIn]
        exact ⟨hskip hzero (fun _ _ h => by cases h), hskip'⟩
      · have hscan : scannedIn (name, some shard) = shard.leaves.entries.length := by simp [scannedIn, hname]
        have hdated : Dated (name, some shard) ↔ ∀ leaf ∈ shard.leaves.entries,
            ∃ e, leafEntry name.val shard leaf = .ok e := by
          simp only [leafEntry_ok_iff]
          constructor
          · intro h leaf hleaf
            exact h hname shard rfl leaf hleaf
          · intro h _ content hcontent leaf hleaf
            cases hcontent
            exact h leaf hleaf
        rw [hscan, hdated]
        constructor
        · rintro ⟨es, hes⟩
          rcases bind_ok.1 hes with ⟨budget', hbudget, hes'⟩
          rcases bind_ok.1 hes' with ⟨entries, hentries, hes''⟩
          rcases bind_ok.1 hes'' with ⟨rest, hrest, _⟩
          rcases ih.1 ⟨rest, hrest⟩ with ⟨hsum, hall⟩
          unfold names at hbudget
          split at hbudget
          · cases hbudget
          · cases hbudget
            refine ⟨by omega, ?_, hall⟩
            intro leaf hleaf
            rcases List.mem_iff_getElem.1 hleaf with ⟨i, hi, rfl⟩
            have hforall := mapM_ok.1 hentries
            exact ⟨_, hforall.get hi (by rw [← hforall.length_eq]; exact hi)⟩
        · rintro ⟨hsum, hleaves, hall⟩
          rcases exists_mapM_ok hleaves with ⟨entries, hentries⟩
          rcases ih.2 ⟨show (shards.map scannedIn).sum ≤ budget - shard.leaves.entries.length by omega, hall⟩
            with ⟨rest, hrest⟩
          refine ⟨entries ++ rest, bind_ok.2 ⟨budget - shard.leaves.entries.length, ?_,
            bind_ok.2 ⟨entries, hentries, bind_ok.2 ⟨rest, hrest, rfl⟩⟩⟩⟩
          unfold names
          rw [if_neg (by omega)]
    · rw [if_pos hname]
      have hzero : scannedIn (name, content) = 0 := by simp [scannedIn, hname]
      exact ⟨hskip hzero (fun h => absurd h hname), hskip'⟩

theorem allEntries_keys {inventory : FileSystemCasInventory} (h : inventory.allEntries = .ok es) : es.map (·.key) = inventory.keys := by
  unfold allEntries at h
  unfold keys
  split at h
  · rename_i hsha
    cases h
    rw [hsha]
    rfl
  · cases h
  · rename_i shards hsha
    rcases bind_ok.1 h with ⟨budget, _, hes⟩
    rw [hsha]
    exact shardEntries_keys hes

theorem allEntries_ok_iff {inventory : FileSystemCasInventory} :
    (∃ es, inventory.allEntries = .ok es) ↔ inventory.Scannable := by
  unfold allEntries Scannable
  rcases hsha : inventory.sha256 with - | - | shards
  · refine iff_of_true ⟨[], rfl⟩ ⟨trivial, ?_⟩
    rintro key facts ⟨shards, hshards, _⟩
    rw [hsha] at hshards
    cases hshards
  · refine iff_of_false ?_ (fun h => h.1)
    rintro ⟨es, hes⟩
    cases hes
  · have hdated : (∀ s ∈ shards.entries, Dated s) ↔
        ∀ key facts, inventory.ObjectAt key facts → 0 ≤ facts.st_mtime_ns := by
      constructor
      · rintro h key facts ⟨shards', hshards, shard, content, leaf, hmem, hshard, hleaf, hname, _⟩
        rw [hsha] at hshards
        cases hshards
        exact h _ hmem hshard content rfl _ hleaf hname facts rfl
      · rintro h ⟨shard, _⟩ hmem hshard content rfl ⟨leaf, _⟩ hleaf hname facts rfl
        exact h _ facts ⟨shards, hsha, shard, content, leaf, hmem, hshard, hleaf, hname, rfl⟩
    rw [← hdated]
    simp only
    constructor
    · rintro ⟨es, hes⟩
      rcases bind_ok.1 hes with ⟨budget, hbudget, hes'⟩
      rcases shardEntries_ok_iff.1 ⟨es, hes'⟩ with ⟨hsum, hall⟩
      unfold names at hbudget
      split at hbudget
      · cases hbudget
      · cases hbudget
        exact ⟨by omega, hall⟩
    · rintro ⟨hsum, hall⟩
      rcases shardEntries_ok_iff.2
        ⟨show (shards.entries.map scannedIn).sum ≤ inventory.scan_budget - shards.entries.length by omega, hall⟩
        with ⟨es, hes⟩
      refine ⟨es, bind_ok.2 ⟨inventory.scan_budget - shards.entries.length, ?_, hes⟩⟩
      unfold names
      rw [if_neg (by omega)]

/-! ### Pages -/

/-- The entries in key order. -/
def inKeyOrder (es : List InventoryEntry) : List InventoryEntry := es.insertionSort fun a b => a.key ≤ b.key

theorem pairwise_inKeyOrder (h : (es.map (·.key)).Nodup) :
    (inKeyOrder es).Pairwise (fun a b => a.key < b.key) := by
  have hle : (inKeyOrder es).Pairwise (fun a b => a.key ≤ b.key) :=
    List.pairwise_insertionSort (fun a b : InventoryEntry => a.key ≤ b.key) es
  have hne : (inKeyOrder es).Pairwise (fun a b => a.key ≠ b.key) := by
    have hperm := (List.perm_insertionSort (fun a b : InventoryEntry => a.key ≤ b.key) es).map (·.key)
    exact List.pairwise_map.1 (hperm.nodup_iff.2 h)
  exact (hle.and hne).imp fun h => lt_of_le_of_ne h.1 h.2

/-- A page of the inventory is a page of its entries in key order. -/
theorem inventory_eq_page {inventory : FileSystemCasInventory} (hes : inventory.allEntries = .ok es)
    (hafter : ∀ key ∈ after, ¬badCursor key) {limit : Nat} (hlimit : 0 < limit) :
    inventory.inventory after limit = .ok (Paging.page (·.key) (inKeyOrder es) after limit) := by
  have hgood : ¬∃ key ∈ after, badCursor key := by
    rintro ⟨key, hkey, hbad⟩
    exact hafter key hkey hbad
  have hselected : Paging.after (·.key) (inKeyOrder es) after =
      (es.insertionSort fun a b => a.key ≤ b.key).filter fun e => ∀ key ∈ after, key < e.key := by
    unfold Paging.after inKeyOrder
    refine List.filter_congr ?_
    intro e _
    exact decide_eq_decide.2 Iff.rfl
  unfold FileSystemCasInventory.inventory Paging.page
  rw [if_neg (by omega), if_neg hgood]
  refine bind_ok.2 ⟨es, hes, ?_⟩
  rw [hselected]
  rcases hlast : (((es.insertionSort fun a b => a.key ≤ b.key).filter fun e =>
      ∀ key ∈ after, key < e.key).take limit).getLast? with - | last
  · simp only [hlast]
    rfl
  · simp only [hlast]
    by_cases hmore : ∃ e ∈ es.insertionSort fun a b => a.key ≤ b.key, last.key < e.key
    · rw [if_pos hmore, if_pos (show ∃ e ∈ inKeyOrder es, last.key < e.key from hmore)]
      rfl
    · rw [if_neg hmore, if_neg (show ¬∃ e ∈ inKeyOrder es, last.key < e.key from hmore)]
      rfl

end FileSystemCasInventory

/-! ## A sweep -/

namespace SweepArguments

variable (args : SweepArguments)

/-- The claims that earlier runs left behind fill the whole call. -/
def Filled (catalog : CatalogAnswers) : Prop := args.delete = true ∧ args.limit ≤ catalog.claims.length

/-- What a call has left for its inventory. -/
def room (catalog : CatalogAnswers) : Nat := args.limit - if args.delete then catalog.claims.length else 0

theorem room_eq (catalog : CatalogAnswers) : args.room catalog = args.limit - (leftovers args catalog).length := by
  unfold room leftovers
  split
  · simp only [CatalogAnswers.pending_claims, List.length_take]
    omega
  · rfl

theorem room_eq_zero_iff (catalog : CatalogAnswers) : args.room catalog = 0 ↔ args.Filled catalog := by
  have hpos := args.limit_pos
  unfold room Filled
  cases args.delete with
  | true =>
    simp only [if_true, true_and]
    omega
  | false =>
    refine iff_of_false ?_ (fun h => by cases h.1)
    simp only [Bool.false_eq_true, if_false]
    omega

end SweepArguments

section Sweep

open FileSystemCasInventory

variable {inventory : FileSystemCasInventory} {args : SweepArguments}

theorem key_reconcileEntry (catalog : CatalogAnswers) (minimum_age_seconds : Nat) (delete : Bool)
    (e : InventoryEntry) : (catalog.reconcileEntry minimum_age_seconds delete e).key = e.key := by
  rcases e with ⟨d, evidence⟩ | key
  · simp only [CatalogAnswers.reconcileEntry]
    split
    · rfl
    · split <;> rfl
  · rfl

/-- One call over a store that can be scanned: it visits a page, and hands out the cursor of a page. -/
theorem reconcilePage_ok (hes : inventory.allEntries = .ok es) (catalog : CatalogAnswers)
    (hafter : ∀ key ∈ after, ¬badCursor key) :
    ∃ report, reconcilePage inventory args catalog after = .ok report ∧
      (visited args catalog report).map (·.key) =
        (Paging.call (·.key) (inKeyOrder es) after (args.room catalog)).1.map (·.key) ∧
      report.next_cursor = (Paging.call (·.key) (inKeyOrder es) after (args.room catalog)).2 := by
  have hargs : ¬(args.limit = 0 ∨ args.minimum_age_seconds = 0) := by
    have hlimit := args.limit_pos
    have hage := args.minimum_age_pos
    omega
  have hdrop : ∀ results : List ReconciliationResult,
      ((leftovers args catalog).map catalog.resolve ++ results).drop (leftovers args catalog).length = results := by
    intro results
    exact List.drop_left' (by rw [List.length_map])
  unfold reconcilePage Paging.call
  rw [if_neg hargs, args.room_eq]
  simp only
  split
  · refine ⟨_, rfl, ?_, rfl⟩
    have hnothing := hdrop []
    rw [List.append_nil] at hnothing
    rw [visited, hnothing]
    rfl
  · rename_i hroom
    refine ⟨_, bind_ok.2 ⟨_, inventory_eq_page hes hafter (by omega), rfl⟩, ?_, rfl⟩
    rw [visited, hdrop, List.map_map]
    apply List.map_congr_left
    intro e _
    exact key_reconcileEntry catalog _ _ e

/-- Following the cursor over a store that can be scanned is a sweep of its entries in key order. -/
theorem follow_ok (hes : inventory.allEntries = .ok es) (catalogs : List CatalogAnswers)
    (hafter : ∀ key ∈ after, ¬badCursor key) :
    ∃ outcome, follow inventory args catalogs after = .ok outcome ∧
      outcome.map (List.map (·.key)) =
        (Paging.sweep (·.key) (inKeyOrder es) (catalogs.map args.room) after).map (List.map (·.key)) := by
  induction catalogs generalizing after with
  | nil => exact ⟨none, rfl, rfl⟩
  | cons catalog catalogs ih =>
    rcases reconcilePage_ok hes catalog hafter with ⟨report, hreport, hvisited, hnext⟩
    unfold follow
    rw [List.map_cons, Paging.sweep]
    rcases hcall : Paging.call (·.key) (inKeyOrder es) after (args.room catalog) with ⟨selected, c⟩
    rw [hcall] at hvisited hnext
    simp only at hvisited hnext
    rcases c with - | c
    · refine ⟨some (visited args catalog report), bind_ok.2 ⟨report, hreport, ?_⟩, ?_⟩
      · rw [hnext]
        rfl
      · rw [hcall]
        simp [hvisited]
    · -- the next cursor is one of the store's keys, or the one that was given
      have hgood : ∀ key ∈ some c, ¬badCursor key := by
        intro key hkey
        cases hkey
        have hsnd : (Paging.call (·.key) (inKeyOrder es) after (args.room catalog)).2 = some c := by rw [hcall]
        rcases Paging.call_cursor hsnd with hsame | ⟨e, he, rfl⟩
        · exact hafter c hsame
        · have hmem : e ∈ es := (List.mem_insertionSort _).1 he
          apply not_badCursor_of_mem_keys
          rw [← allEntries_keys hes]
          exact List.mem_map.2 ⟨e, hmem, rfl⟩
      rcases ih hgood with ⟨rest, hrest, hkeys⟩
      refine ⟨rest.map (visited args catalog report ++ ·), bind_ok.2 ⟨report, hreport, ?_⟩, ?_⟩
      · rw [hnext]
        exact bind_ok.2 ⟨rest, hrest, rfl⟩
      · rw [hcall]
        simp only
        rw [Option.map_map, Option.map_map]
        have happend : ∀ (o : Option (List ReconciliationResult)) (o' : Option (List InventoryEntry)),
            o.map (List.map (·.key)) = o'.map (List.map (·.key)) →
              o.map (List.map (·.key) ∘ (visited args catalog report ++ ·)) =
                o'.map (List.map (·.key) ∘ (selected ++ ·)) := by
          intro o o' h
          rcases o with - | results <;> rcases o' with - | entries
          · rfl
          · cases h
          · cases h
          · have hsame : results.map (·.key) = entries.map (·.key) := Option.some.inj h
            simp [hvisited, hsame]
        exact happend rest _ hkeys

/-- A call filled by leftovers returns the cursor it was given. -/
theorem reconcilePage_filled {catalog : CatalogAnswers} (h : args.Filled catalog) (after : Option PyStr) :
    ∃ report, reconcilePage inventory args catalog after = .ok report ∧ visited args catalog report = [] ∧
      report.next_cursor = after := by
  have hargs : ¬(args.limit = 0 ∨ args.minimum_age_seconds = 0) := by
    have hlimit := args.limit_pos
    have hage := args.minimum_age_pos
    omega
  have hroom := (args.room_eq_zero_iff catalog).2 h
  rw [args.room_eq] at hroom
  refine ⟨⟨(leftovers args catalog).map catalog.resolve, after, false⟩, ?_, ?_, rfl⟩
  · unfold reconcilePage
    rw [if_neg hargs]
    simp only
    rw [if_pos hroom]
  · rw [visited, List.drop_eq_nil_iff, List.length_map]

/-- A call with room for its inventory scans. -/
theorem scannable_of_ok {catalog : CatalogAnswers} (h : ¬args.Filled catalog) {report : ReconciliationReport}
    (hreport : reconcilePage inventory args catalog after = .ok report) :
    inventory.Scannable := by
  have hroom := (not_congr (args.room_eq_zero_iff catalog)).2 h
  rw [args.room_eq] at hroom
  unfold reconcilePage at hreport
  split at hreport
  · cases hreport
  · simp only at hreport
    rw [if_neg hroom] at hreport
    rcases bind_ok.1 hreport with ⟨batch, hbatch, _⟩
    unfold FileSystemCasInventory.inventory at hbatch
    split at hbatch
    · cases hbatch
    split at hbatch
    · cases hbatch
    rcases bind_ok.1 hbatch with ⟨es, hes, _⟩
    exact allEntries_ok_iff.1 ⟨es, hes⟩

/-- Every object once, in key order, and nothing that is not in the store. -/
structure Visits (inventory : FileSystemCasInventory) (results : List ReconciliationResult) : Prop where
  ordered : (results.map (·.key)).Pairwise (· < ·)
  objects : ∀ key, inventory.Object key → key ∈ results.map (·.key)
  stored : ∀ key ∈ results.map (·.key), key ∈ inventory.keys

/-- Calls from no cursor come to an end, and have then visited the store. -/
def SweepVisits (inventory : FileSystemCasInventory) (args : SweepArguments) (catalogs : Nat → CatalogAnswers) :
    Prop :=
  ∃ n results, follow inventory args ((List.range n).map catalogs) none = .ok (some results) ∧
    Visits inventory results

theorem visits_nil_iff : Visits inventory [] ↔ ∀ key, ¬inventory.Object key := by
  constructor
  · intro h key hkey
    cases h.objects key hkey
  · intro h
    exact ⟨.nil, fun key hkey => absurd hkey (h key), fun key hkey => by cases hkey⟩

/-- All entries in key order are a visit. -/
theorem visits_of_keys (hes : inventory.allEntries = .ok es) {results : List ReconciliationResult}
    (h : results.map (·.key) = (inKeyOrder es).map (·.key)) :
    Visits inventory results := by
  have hkeys := allEntries_keys hes
  have hmem : ∀ key, key ∈ (inKeyOrder es).map (·.key) ↔ key ∈ inventory.keys := by
    intro key
    rw [← hkeys]
    exact ((List.perm_insertionSort (fun a b : InventoryEntry => a.key ≤ b.key) es).map (·.key)).mem_iff
  constructor
  · rw [h, List.pairwise_map]
    apply pairwise_inKeyOrder
    rw [hkeys]
    exact nodup_keys inventory
  · intro key hkey
    rw [h, hmem]
    exact hkey.mem_keys
  · intro key hkey
    rw [h, hmem] at hkey
    exact hkey

/-- The calls of a sweep, the first one apart. -/
theorem range_succ_catalogs (catalogs : Nat → CatalogAnswers) (n : Nat) :
    (List.range (n + 1)).map catalogs = catalogs 0 :: (List.range n).map fun i => catalogs (i + 1) := by
  rw [List.range_succ_eq_map, List.map_cons, List.map_map]
  rfl

/-- When the first call is filled by leftovers, the sweep is over before it has begun. -/
theorem sweepVisits_filled {catalogs : Nat → CatalogAnswers} (h : args.Filled (catalogs 0)) :
    SweepVisits inventory args catalogs ↔ ∀ key, ¬inventory.Object key := by
  have hfirst : ∃ report, reconcilePage inventory args (catalogs 0) none = .ok report ∧
      visited args (catalogs 0) report = [] ∧ report.next_cursor = none := reconcilePage_filled h none
  rcases hfirst with ⟨report, hreport, hvisited, hnext⟩
  have hfollow : ∀ n, follow inventory args ((List.range (n + 1)).map catalogs) none = .ok (some []) := by
    intro n
    rw [range_succ_catalogs, follow]
    refine bind_ok.2 ⟨report, hreport, ?_⟩
    rw [hnext, hvisited]
    rfl
  constructor
  · rintro ⟨n, results, hresults, hvisits⟩
    rcases n with - | n
    · cases hresults
    · rw [hfollow] at hresults
      cases hresults
      exact visits_nil_iff.1 hvisits
  · intro hnone
    exact ⟨1, [], hfollow 0, visits_nil_iff.2 hnone⟩

/-- Otherwise it visits the store exactly when that can be scanned, and there is room for every entry in the end. -/
theorem sweepVisits_unfilled {catalogs : Nat → CatalogAnswers} (h : ¬args.Filled (catalogs 0)) :
    SweepVisits inventory args catalogs ↔ inventory.Scannable ∧
      ∃ n, inventory.keys.length ≤ ((List.range n).map fun i => args.room (catalogs i)).sum := by
  have hroom := (not_congr (args.room_eq_zero_iff (catalogs 0))).2 h
  -- over a store that can be scanned, `n + 1` calls are a sweep with their rooms
  have hsweep : ∀ {es : List InventoryEntry}, inventory.allEntries = .ok es → ∀ n,
      ∃ outcome, follow inventory args ((List.range (n + 1)).map catalogs) none = .ok outcome ∧
        outcome.map (List.map (·.key)) =
          if inventory.keys.length ≤ ((List.range (n + 1)).map fun i => args.room (catalogs i)).sum then
            some ((inKeyOrder es).map (·.key))
          else none := by
    intro es hes n
    have hstart : ∀ key ∈ (none : Option PyStr), ¬badCursor key := by
      intro key hkey
      cases hkey
    rcases follow_ok hes ((List.range (n + 1)).map catalogs) hstart with ⟨outcome, houtcome, hkeys⟩
    have hpairwise : (inKeyOrder es).Pairwise (fun a b => a.key < b.key) := by
      apply pairwise_inKeyOrder
      rw [allEntries_keys hes]
      exact nodup_keys inventory
    have hlength : (inKeyOrder es).length = inventory.keys.length := by
      rw [← allEntries_keys hes, List.length_map]
      exact List.length_insertionSort _ _
    have hsum : ((List.range (n + 1)).map fun i => args.room (catalogs i)).sum =
        args.room (catalogs 0) + (((List.range n).map fun i => catalogs (i + 1)).map args.room).sum := by
      rw [List.range_succ_eq_map, List.map_cons, List.sum_cons, List.map_map, List.map_map]
      rfl
    refine ⟨outcome, houtcome, ?_⟩
    rw [hkeys, range_succ_catalogs, List.map_cons, Paging.sweep_none hpairwise, if_neg hroom, hlength, hsum]
    split <;> rfl
  constructor
  · rintro ⟨n, results, hresults, hvisits⟩
    rcases n with - | n
    · cases hresults
    · have hscan : inventory.Scannable := by
        rw [range_succ_catalogs, follow] at hresults
        rcases bind_ok.1 hresults with ⟨report, hreport, _⟩
        exact scannable_of_ok h hreport
      rcases allEntries_ok_iff.2 hscan with ⟨es, hes⟩
      rcases hsweep hes n with ⟨outcome, houtcome, hkeys⟩
      rw [hresults] at houtcome
      cases houtcome
      refine ⟨hscan, n + 1, ?_⟩
      by_contra hless
      rw [if_neg hless] at hkeys
      cases hkeys
  · rintro ⟨hscan, n, hn⟩
    rcases allEntries_ok_iff.2 hscan with ⟨es, hes⟩
    rcases hsweep hes n with ⟨outcome, houtcome, hkeys⟩
    have hmore : inventory.keys.length ≤ ((List.range (n + 1)).map fun i => args.room (catalogs i)).sum := by
      rw [List.range_succ, List.map_append, List.sum_append]
      omega
    rw [if_pos hmore] at hkeys
    rcases Option.map_eq_some_iff.1 hkeys with ⟨results, rfl, hresults⟩
    exact ⟨n + 1, results, houtcome, visits_of_keys hes hresults⟩

/-- When following the cursor visits the whole store, for every store, limit and sequence of catalogs. -/
theorem sweep_visits_iff (inventory : FileSystemCasInventory) (args : SweepArguments)
    (catalogs : Nat → CatalogAnswers) :
    SweepVisits inventory args catalogs ↔
      args.Filled (catalogs 0) ∧ (∀ key, ¬inventory.Object key) ∨
        ¬args.Filled (catalogs 0) ∧ inventory.Scannable ∧
          ∃ n, inventory.keys.length ≤ ((List.range n).map fun i => args.room (catalogs i)).sum := by
  by_cases h : args.Filled (catalogs 0)
  · rw [sweepVisits_filled h]
    simp [h]
  · rw [sweepVisits_unfilled h]
    simp [h]

end Sweep

/-! ## A sweep that visits nothing -/

/-- The file of sixty-four zeros, and nothing else. -/
def zerosInventory : FileSystemCasInventory where
  sha256 := .directory
    { entries := [(⟨str "00", by decide, by decide, by decide⟩, some
        { st_dev := 1
          st_ino := 2
          leaves :=
            { entries := [(⟨List.replicate 64 48, by decide, by decide, by decide⟩, some ⟨3, 1, 7, 100⟩)]
              nodup := by decide } })]
      nodup := by decide }
  scan_budget := 100000

/-- A catalog with one claim that an earlier run left behind; its deletion keeps failing. -/
def leftoverCatalog : CatalogAnswers where
  claims := [⟨Digest.sha256 [1, 2, 3], ⟨3, 1, 2, 1, 2, 100⟩, str "claim"⟩]
  observe := fun _ => .unregistered
  claim := fun _ _ => none
  delete_under_fence := fun _ _ => .delete_failed

/-- Delete mode, one object at a time -/
def oneAtATime : SweepArguments where
  limit := 1
  minimum_age_seconds := 86400
  delete := true
  limit_pos := by decide
  minimum_age_pos := by decide

theorem leftover_hides_the_store :
    ¬SweepVisits zerosInventory oneAtATime fun _ => leftoverCatalog := by
  rw [sweepVisits_filled ⟨rfl, le_rfl⟩]
  intro hnone
  exact hnone _ ⟨_, ⟨_, rfl, _, _, _, List.mem_singleton.2 rfl, by decide, List.mem_singleton.2 rfl, by decide, rfl⟩⟩

end LeoFlow
