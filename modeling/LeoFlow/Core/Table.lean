import Mathlib

/-!
# LeoFlow.Core.Table — keyed tables

A table with a primary key is Mathlib's association list without duplicate
keys. The lemmas here are the lookup laws in `if` form, which is how row-wise
invariants meet an updated table.
-/

namespace LeoFlow

universe u v

/-- A table of rows `ρ` under primary key `κ`. -/
abbrev Table (κ : Type u) (ρ : Type v) := AList (fun _ : κ => ρ)

namespace Table

variable {κ : Type u} {ρ : Type v} [DecidableEq κ]

@[simp] theorem lookup_insert_ite (t : Table κ ρ) (k k' : κ) (v : ρ) :
    (t.insert k v).lookup k' = if k' = k then some v else t.lookup k' := by
  by_cases h : k' = k
  · subst h
    simp
  · rw [if_neg h, AList.lookup_insert_ne h]

@[simp] theorem lookup_erase_ite (t : Table κ ρ) (k k' : κ) :
    (t.erase k).lookup k' = if k' = k then none else t.lookup k' := by
  by_cases h : k' = k
  · subst h
    simp
  · rw [if_neg h, AList.lookup_erase_ne h]

/-- The rows of a table, as lookups see them. -/
theorem mem_entries_iff (t : Table κ ρ) (k : κ) (v : ρ) :
    ⟨k, v⟩ ∈ t.entries ↔ t.lookup k = some v :=
  AList.mem_lookup_iff.symm

/-- The rows of a table, by its keys. -/
theorem entries_eq_map (t : Table κ ρ) (default : ρ) :
    t.entries = t.keys.map fun k => ⟨k, (t.lookup k).getD default⟩ := by
  have hrows : ∀ e ∈ t.entries, (⟨e.1, (t.lookup e.1).getD default⟩ : (_ : κ) × ρ) = e := by
    intro e he
    rw [(mem_entries_iff t e.1 e.2).1 he]
    rfl
  unfold AList.keys List.keys
  rw [List.map_map]
  exact ((List.map_congr_left hrows).trans (List.map_id _)).symm

/-- Every row, updated by its key. -/
def mapRows (t : Table κ ρ) (f : κ → ρ → ρ) : Table κ ρ where
  entries := t.entries.map (.map id f)
  nodupKeys := t.nodupKeys.map₂ f

@[simp] theorem lookup_mapRows (t : Table κ ρ) (f : κ → ρ → ρ) (k : κ) :
    (t.mapRows f).lookup k = (t.lookup k).map (f k) :=
  List.dlookup_map₂ k

/-- A number of every row, added up. -/
def sum (t : Table κ ρ) (f : ρ → Nat) : Nat := (t.entries.map fun e => f e.2).sum

/-- An updated row changes the sum by its own number only. -/
theorem sum_insert {t : Table κ ρ} {k : κ} {v : ρ} (f : ρ → Nat) (v' : ρ) (h : t.lookup k = some v) :
    Table.sum (t.insert k v') f + f v = Table.sum t f + f v' := by
  have hmem : k ∈ t.entries.keys := AList.mem_keys.1 (AList.lookup_isSome.1 (by rw [h]; rfl))
  rcases List.exists_of_kerase hmem with ⟨b, before, after, hbefore, hentries, herase⟩
  have hb : b = v := by
    have hlookup : ⟨k, b⟩ ∈ t.entries := by simp [hentries]
    exact Option.some.inj (((mem_entries_iff t k b).1 hlookup).symm.trans h)
  subst hb
  unfold sum
  rw [AList.entries_insert, herase, hentries]
  simp only [List.map_cons, List.map_append, List.sum_cons, List.sum_append]
  omega

/-- A new row adds its number. -/
theorem sum_insert_new {t : Table κ ρ} {k : κ} (f : ρ → Nat) (v : ρ) (h : t.lookup k = none) :
    Table.sum (t.insert k v) f = f v + Table.sum t f := by
  have hmem : k ∉ t := AList.lookup_eq_none.1 h
  unfold sum
  rw [AList.entries_insert_of_notMem hmem]
  simp

end Table

end LeoFlow
