import LeoFlow.Contracts.CanonicalJson

/-!
# LeoFlow.Core.JsonBack — documents read back

`back v` is what `json.loads` returns for the canonical JSON of `v`: tuples are lists, instances are
dictionaries in key order, and a float is what its text says. The readers take a document apart, each
with the error that it raises.
-/

namespace LeoFlow

namespace Json

/-! ## What comes back -/

mutual

/-- What `json.loads` returns for the canonical JSON of a value. -/
def back : PyValue → PyValue
  | .list items | .tuple items => .list (backItems items)
  | .dict items | .record _ items => .dict (sortEntries (backEntries items))
  | .float f => readFloat f
  | v => v

def backItems : List PyValue → List PyValue
  | [] => []
  | v :: vs => back v :: backItems vs

def backEntries : List (PyStr × PyValue) → List (PyStr × PyValue)
  | [] => []
  | (k, v) :: xs => (k, back v) :: backEntries xs

end

theorem backItems_eq (items : List PyValue) : backItems items = items.map back := by
  induction items with
  | nil => rfl
  | cons v vs ih => rw [backItems, ih, List.map_cons]

theorem backEntries_eq (items : List (PyStr × PyValue)) :
    backEntries items = items.map fun x => (x.1, back x.2) := by
  induction items with
  | nil => rfl
  | cons x xs ih => rw [backEntries, ih, List.map_cons]

@[simp] theorem back_none : back .none = .none := rfl

@[simp] theorem back_bool (b : Bool) : back (.bool b) = .bool b := rfl

@[simp] theorem back_int (n : Int) : back (.int n) = .int n := rfl

@[simp] theorem back_str (s : PyStr) : back (.str s) = .str s := rfl

@[simp] theorem back_float (f : PyFloat) : back (.float f) = readFloat f := rfl

@[simp] theorem back_list (items : List PyValue) : back (.list items) = .list (items.map back) :=
  congrArg PyValue.list (backItems_eq items)

@[simp] theorem back_tuple (items : List PyValue) : back (.tuple items) = .list (items.map back) :=
  congrArg PyValue.list (backItems_eq items)

theorem back_record (cls : String) (fields : List (PyStr × PyValue)) :
    back (.record cls fields) = back (.dict fields) := rfl

theorem back_dict (items : List (PyStr × PyValue)) :
    back (.dict items) = .dict (sortEntries (items.map fun x => (x.1, back x.2))) :=
  congrArg (fun xs => PyValue.dict (sortEntries xs)) (backEntries_eq items)

/-- Converted entries, read back. -/
theorem normalEntries_converted {items ps : List (PyStr × PyValue)} (h : List.Forall₂ ConvertsEntry items ps)
    (hback : ∀ x ∈ items, ∀ p, primitive x.2 = .ok p → normal p = back x.2) :
    normalEntries ps = backEntries items := by
  rw [normalEntries_eq, backEntries_eq]
  induction h with
  | nil => rfl
  | @cons x y xs ys hx _ ih =>
    have hhead := hback x List.mem_cons_self y.2 hx.converts
    have hkey := hx.key
    rw [List.map_cons, List.map_cons, ih fun x hx => hback x (List.mem_cons_of_mem _ hx), hhead, hkey]

/-- `_primitive` leaves what comes back as it is. -/
theorem normal_primitive (v : PyValue) : ∀ {p : PyValue}, primitive v = .ok p → normal p = back v := by
  have hitems : ∀ {items ps : List PyValue}, (∀ v ∈ items, ∀ {p : PyValue}, primitive v = .ok p → normal p = back v) →
      primitiveItems items = .ok ps → normalItems ps = backItems items := by
    intro items ps ih h
    rw [normalItems_eq, backItems_eq]
    have hall := primitiveItems_ok h
    clear h
    induction hall with
    | nil => rfl
    | @cons v p vs ps hv _ ih' =>
      rw [List.map_cons, List.map_cons, ih v List.mem_cons_self hv,
        ih' fun v hv => ih v (List.mem_cons_of_mem _ hv)]
  induction v with
  | none | bool | int | str =>
    intro p hp
    cases hp
    rfl
  | float f =>
    intro p hp
    unfold primitive at hp
    split at hp
    · cases hp
    · rename_i hfinite
      split at hp
      · -- a zero is written as an integer
        rename_i hzero
        cases hp
        cases f with
        | nan | inf negative => exact absurd hzero id
        | finite negative m e hcanonical =>
          have hm : m = 0 := hzero
          subst hm
          rfl
      · cases hp
        rfl
  | list items ih | tuple items ih =>
    intro p hp
    unfold primitive at hp
    rcases map_ok hp with ⟨ps, hps, rfl⟩
    exact congrArg PyValue.list (hitems (fun v hv => ih v hv) hps)
  | dict items ih | record cls items ih =>
    intro p hp
    unfold primitive at hp
    rcases map_ok hp with ⟨ps, hps, rfl⟩
    have hentries := normalEntries_converted (primitiveEntries_ok hps) fun x hx p => ih x hx
    exact congrArg (fun xs => PyValue.dict (sortEntries xs)) hentries

/-- `json.loads(data, object_pairs_hook=hook)`, with room for every nested call. -/
def loadsWith (hook : Hook) (data : Bytes) : Except PyError PyValue := loadsHooked hook (nesting hook data) data

theorem loadsWith_back {v : PyValue} {bytes : Bytes} (hvalid : v.Valid) (h : canonicalJsonBytes v = .ok bytes)
    {hook : Hook} (hhook : KeepsDistinct hook) : loadsWith hook bytes = .ok (back v) := by
  rcases loads_canonical hvalid h with ⟨p, hp, _, _, _⟩
  have hnesting := nesting_canonical hvalid h hp hhook
  unfold loadsWith
  rw [loadsHooked_canonical hvalid h hp hhook (le_of_eq hnesting.symm), normal_primitive v hp]

/-- What comes back has the canonical JSON it came from. -/
theorem canonicalJsonBytes_back {v : PyValue} {bytes : Bytes} (hvalid : v.Valid)
    (h : canonicalJsonBytes v = .ok bytes) : canonicalJsonBytes (back v) = .ok bytes := by
  rcases loads_canonical hvalid h with ⟨p, hp, _, _, hagain⟩
  rw [← normal_primitive v hp]
  exact hagain

/-- The fields of an instance, or of a document, are read back under their names, and no others. -/
theorem exists_fields (fields : List (String × PyValue)) (hnames : (fields.map Prod.fst).Nodup) :
    ∃ items, back (.object fields) = .dict items ∧ (∀ x ∈ fields, items.lookup (str x.1) = some (back x.2)) ∧
      (items.map Prod.fst).Perm (fields.map fun x => str x.1) := by
  have hperm := sortEntries_perm (backEntries (fields.map fun x => (str x.1, x.2)))
  have hkeys := hperm.map Prod.fst
  rw [backEntries_eq, List.map_map, List.map_map] at hkeys
  have hnodup := hkeys.nodup_iff.2 (by
    have hmap := hnames.map fun _ _ h => str_injective h
    rwa [List.map_map] at hmap)
  refine ⟨_, rfl, ?_, ?_⟩
  · intro x hx
    apply lookup_of_mem
    · rw [backEntries_eq, List.map_map]
      exact hnodup
    · rw [hperm.mem_iff, backEntries_eq, List.map_map]
      exact List.mem_map.2 ⟨x, hx, rfl⟩
  · rw [backEntries_eq, List.map_map]
    exact hkeys

/-! ## Readers -/

/-- `isinstance(value, dict)` -/
def asObject (error : PyError) (value : PyValue) : Except PyError (List (PyStr × PyValue)) :=
  match value with
  | .dict items => .ok items
  | _ => .error error

/-- `set(value) == expected` -/
def exactFields (error : PyError) (items : List (PyStr × PyValue)) (expected : List String) : Except PyError Unit :=
  raiseIf (¬((∀ key ∈ items.map Prod.fst, key ∈ expected.map str) ∧
    ∀ key ∈ expected.map str, key ∈ items.map Prod.fst)) error

/-- `value[key]` -/
def field (items : List (PyStr × PyValue)) (key : String) : Except PyError PyValue :=
  match items.lookup (str key) with
  | some v => .ok v
  | none => .error ⟨.key_error, key⟩

/-- Every field of the object is found, and it has no other. -/
theorem exists_items (fields : List (String × PyValue)) (hnames : (fields.map Prod.fst).Nodup) :
    ∃ items, back (.object fields) = .dict items ∧ (∀ x ∈ fields, field items x.1 = .ok (back x.2)) ∧
      ∀ error, exactFields error items (fields.map Prod.fst) = .ok () := by
  rcases exists_fields fields hnames with ⟨items, hitems, hlookup, hkeys⟩
  refine ⟨items, hitems, ?_, ?_⟩
  · intro x hx
    unfold field
    rw [hlookup x hx]
  · intro error
    unfold exactFields
    rw [raiseIf_ok, not_not, List.map_map]
    constructor
    · intro key hkey
      exact hkeys.mem_iff.1 hkey
    · intro key hkey
      exact hkeys.mem_iff.2 hkey

@[simp] theorem asObject_dict (error : PyError) (items : List (PyStr × PyValue)) :
    asObject error (.dict items) = .ok items := rfl

end Json

end LeoFlow
