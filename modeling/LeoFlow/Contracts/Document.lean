import LeoFlow.Core.JsonHook
import LeoFlow.Contracts.Validation

/-!
# LeoFlow.Contracts.Document — what `json.loads` returns

A document: lists and dictionaries, of which none repeats a key.
-/

namespace LeoFlow

variable {v : PyValue}

namespace PyValue

theorem keys_setItem (items : List (PyStr × PyValue)) (key : PyStr) (value : PyValue) :
    (setItem items key value).map Prod.fst =
      if key ∈ items.map Prod.fst then items.map Prod.fst else items.map Prod.fst ++ [key] := by
  induction items with
  | nil => rfl
  | cons x items ih =>
    rcases x with ⟨k, v⟩
    unfold setItem
    by_cases hk : k = key
    · rw [if_pos hk]
      simp [hk]
    · rw [if_neg hk, List.map_cons, ih]
      have hk' : ¬key = k := fun h => hk h.symm
      simp only [List.map_cons, List.mem_cons, hk', false_or]
      split <;> rfl

theorem mem_setItem {items : List (PyStr × PyValue)} {key : PyStr} {value : PyValue} {x : PyStr × PyValue}
    (h : x ∈ setItem items key value) : x = (key, value) ∨ x ∈ items := by
  induction items with
  | nil => exact .inl (List.mem_singleton.1 h)
  | cons y items ih =>
    rcases y with ⟨k, v⟩
    unfold setItem at h
    split at h
    · rcases List.mem_cons.1 h with rfl | h
      · exact .inl rfl
      · exact .inr (List.mem_cons_of_mem _ h)
    · rcases List.mem_cons.1 h with rfl | h
      · exact .inr List.mem_cons_self
      · exact (ih h).imp_right (List.mem_cons_of_mem _)

/-- A value that `json.loads` can return. -/
inductive Document : PyValue → Prop where
  | none : Document .none
  | bool (b : Bool) : Document (.bool b)
  | int (n : Int) : Document (.int n)
  | float (f : PyFloat) : Document (.float f)
  | str (s : PyStr) : Document (.str s)
  | list {items : List PyValue} (h : ∀ v ∈ items, Document v) : Document (.list items)
  | dict {items : List (PyStr × PyValue)} (keys : (items.map Prod.fst).Nodup)
    (h : ∀ x ∈ items, Document x.2) : Document (.dict items)

theorem Document.valid (h : Document v) : v.Valid := by
  induction h with
  | list _ ih => exact (validItems_iff _).2 ih
  | dict hkeys _ ih => exact ⟨hkeys, (validEntries_iff _).2 ih⟩
  | _ => trivial

/-- Entries of one object, so far. -/
structure DocumentEntries (items : List (PyStr × PyValue)) : Prop where
  keys : (items.map Prod.fst).Nodup
  values : ∀ x ∈ items, Document x.2

theorem DocumentEntries.setItem {items : List (PyStr × PyValue)} (h : DocumentEntries items) (key : PyStr)
    {value : PyValue} (hvalue : Document value) : DocumentEntries (setItem items key value) := by
  constructor
  · rw [keys_setItem]
    split
    · exact h.keys
    · rename_i hfresh
      refine List.nodup_append.2 ⟨h.keys, List.nodup_singleton _, ?_⟩
      intro a ha b hb hab
      rw [List.mem_singleton.1 hb] at hab
      exact hfresh (hab ▸ ha)
  · intro x hx
    rcases mem_setItem hx with rfl | hx
    · exact hvalue
    · exact h.values x hx

end PyValue

namespace Json

open PyValue (Document DocumentEntries)

theorem document_numberValue {negative : Bool} {whole : PyStr} {fraction : Option PyStr} {exponent : Option Int}
    (h : numberValue negative whole fraction exponent = .ok v) : Document v := by
  unfold numberValue at h
  split at h
  · split at h
    · cases h
    · cases h
      exact .int _
  · cases h
    exact .float _

theorem document_scanNumber {negative : Bool} {s rest : PyStr} (h : scanNumber negative s = .ok (v, rest)) : Document v := by
  unfold scanNumber at h
  split at h
  · cases h
  · dsimp only at h
    split at h
    · cases h
    · rcases map_ok h with ⟨w, hw, heq⟩
      cases heq
      exact document_numberValue hw

theorem document_scanScalar {s rest : PyStr} (h : scanScalar s = .ok (v, rest)) : Document v := by
  unfold scanScalar at h
  split at h
  · split at h <;> cases h
    exact .none
  · split at h <;> cases h
    exact .bool true
  · split at h <;> cases h
    exact .bool false
  · split at h <;> cases h
    exact .float _
  · split at h <;> cases h
    exact .float _
  · split at h
    · cases h
      exact .float _
    · exact document_scanNumber h
  · exact document_scanNumber h

/-- What a hook makes of the pairs of an object. -/
def KeepsDocuments (hook : Hook) : Prop :=
  ∀ pairs v, (∀ x ∈ pairs, Document x.2) → hook pairs = .ok v → Document v

theorem documentEntries_foldl {pairs acc : List (PyStr × PyValue)} (hacc : DocumentEntries acc)
    (h : ∀ x ∈ pairs, Document x.2) :
    DocumentEntries (pairs.foldl (fun items x => PyValue.setItem items x.1 x.2) acc) := by
  induction pairs generalizing acc with
  | nil => exact hacc
  | cons x pairs ih =>
    have hnext := hacc.setItem x.1 (h x List.mem_cons_self)
    exact ih hnext fun y hy => h y (List.mem_cons_of_mem _ hy)

theorem keepsDocuments_dictHook : KeepsDocuments dictHook := by
  intro pairs v hpairs hv
  cases hv
  have hempty : DocumentEntries [] := ⟨List.nodup_nil, nofun⟩
  have hentries := documentEntries_foldl hempty hpairs
  exact .dict hentries.keys hentries.values

theorem keepsDocuments_uniqueHook (error : PyError) : KeepsDocuments (uniqueHook error) := by
  intro pairs v hpairs hv
  unfold uniqueHook at hv
  split at hv
  · rename_i hkeys
    cases hv
    exact .dict hkeys hpairs
  · cases hv

theorem document_scanHooked {hook : Hook} (hhook : KeepsDocuments hook) (fuel : Nat) {s rest : PyStr}
    (h : (scanHooked hook fuel s).2 = .ok (v, rest)) : Document v := by
  suffices hall : (∀ {s rest v}, (scanHooked hook fuel s).2 = .ok (v, rest) → Document v) ∧
      (∀ {s rest acc items}, (∀ v ∈ acc, Document v) → (scanItemsHooked hook fuel s acc).2 = .ok (items, rest) →
        ∀ v ∈ items, Document v) ∧
      (∀ {s rest acc pairs}, (∀ x ∈ acc, Document x.2) → (scanPairs hook fuel s acc).2 = .ok (pairs, rest) →
        ∀ x ∈ pairs, Document x.2) from hall.1 h
  clear h
  induction fuel with
  | zero =>
    refine ⟨?_, ?_, ?_⟩
    · intro s rest v h
      cases h
    · intro s rest acc items _ h
      cases h
    · intro s rest acc pairs _ h
      cases h
  | succ fuel ih =>
    rcases ih with ⟨ihOnce, ihItems, ihPairs⟩
    refine ⟨?_, ?_, ?_⟩
    · intro s rest v h
      unfold scanHooked at h
      split at h
      · rcases map_ok h with ⟨w, _, heq⟩
        cases heq
        exact .str _
      · split at h
        · cases h
          exact .list (by simp)
        · rcases map_ok h with ⟨w, hw, heq⟩
          cases heq
          exact .list (ihItems (by simp) hw)
      · split at h
        · rcases map_ok h with ⟨w, hw, heq⟩
          cases heq
          exact hhook _ _ (by simp) hw
        · split at h
          · cases h
          · rename_i depth pairs rest' heq
            rcases map_ok h with ⟨w, hw, hvalue⟩
            cases hvalue
            exact hhook _ _ (ihPairs (by simp) (congrArg Prod.snd heq)) hw
      · exact document_scanScalar h
    · intro s rest acc items hacc h
      unfold scanItemsHooked at h
      split at h
      · cases h
      · rename_i depth v rest' hv
        have hnext : ∀ w ∈ v :: acc, Document w := by
          intro w hw
          rcases List.mem_cons.1 hw with rfl | hw
          · exact ihOnce (by rw [hv])
          · exact hacc w hw
        split at h
        · cases h
          intro w hw
          exact hnext w (List.mem_reverse.1 hw)
        · exact ihItems hnext h
        · cases h
    · intro s rest acc pairs hacc h
      unfold scanPairs at h
      split at h
      · cases h
      · rename_i key rest' _
        split at h
        · cases h
        · rename_i depth v rest' hv
          have hnext : ∀ x ∈ (key, v) :: acc, Document x.2 := by
            intro x hx
            rcases List.mem_cons.1 hx with rfl | hx
            · exact ihOnce (by rw [hv])
            · exact hacc x hx
          split at h
          · cases h
            intro x hx
            exact hnext x (List.mem_reverse.1 hx)
          · exact ihPairs hnext h
          · cases h

theorem document_scanOnce (fuel : Nat) {s rest : PyStr} (h : scanOnce fuel s = .ok (v, rest)) :
    Document v := by
  rw [scanOnce_eq] at h
  exact document_scanHooked keepsDocuments_dictHook fuel h

/-- `json.loads` with a hook. -/
theorem document_of_loadsHooked {hook : Hook} (hhook : KeepsDocuments hook) {limit : Nat} {data : Bytes}
    (h : loadsHooked hook limit data = .ok v) : Document v := by
  unfold loadsHooked at h
  split at h
  · cases h
  · split at h
    · cases h
    · split at h
      · cases h
      · rename_i heq
        split at h
        · cases h
          exact document_scanHooked hhook _ heq
        · cases h

theorem document_of_loads {data : Bytes} (h : loads data = .ok v) : Document v := by
  unfold loads at h
  split at h
  · cases h
  · unfold loadsText at h
    split at h
    · cases h
    · rename_i heq
      split at h
      · cases h
        exact document_scanOnce _ heq
      · cases h

/-- `json.loads` raises nothing but `ValueError`. -/
theorem raisesOnly_loads (data : Bytes) : RaisesOnly ErrorKind.IsValueError (loads data) := by
  unfold loads
  split
  · exact raisesOnly_error (by decide)
  · rename_i text _
    have hscan : RaisesOnly ErrorKind.IsValueError (scanOnce (2 * text.length + 2) (skipWs text)) := by
      rw [scanOnce_eq]
      exact raisesOnly_scanHooked (fun _ hk => hk) (fun _ => raisesOnly_ok _) _ _
    unfold loadsText
    split
    · rename_i e heq
      exact raisesOnly_error (hscan e heq)
    · split
      · exact raisesOnly_ok _
      · exact raisesOnly_error (by decide)

end Json

end LeoFlow
