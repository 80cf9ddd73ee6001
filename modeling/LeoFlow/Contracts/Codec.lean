import LeoFlow.Contracts.CanonicalNumber
import LeoFlow.Contracts.Document
import LeoFlow.Contracts.Raising
import LeoFlow.Contracts.Renderable

/-!
# LeoFlow.Contracts.Codec — reading a value back from its document

A decoder takes a document apart, helper by helper, and builds the value again. A `Codec`
is one helper together with what it does to the documents that the encoder writes:

* `again`: what reading gives for the document of a value;
* `Exact`: documents that are what is written for the value read from them;
* `Overflows`: documents in which the first fault is an `ArithmeticError`, which the
  decoders do not catch.

Codecs are put together as the helpers are: fields in the order of the calls (`field`), an
object (`object`), the constructor over them (`make`), arrays and optional values.
-/

namespace LeoFlow

open Json (back Renderable)

/-! ## Documents -/

/-- A document that canonical JSON brings back unchanged. -/
structure CanonicalDocument (d : PyValue) : Prop where
  document : d.Document
  unchanged : back d = d

variable {items : List (PyStr × PyValue)}

theorem mem_of_lookup {key : PyStr} {v : PyValue} (h : items.lookup key = some v) :
    (key, v) ∈ items := by
  rcases List.lookup_eq_some_iff.1 h with ⟨before, after, rfl, _⟩
  exact List.mem_append_right _ List.mem_cons_self

namespace CanonicalDocument

theorem list {items : List PyValue} (h : CanonicalDocument (.list items)) : ∀ v ∈ items, CanonicalDocument v := by
  rcases h with ⟨hdocument, hback⟩
  cases hdocument with
  | list hitems =>
    rw [Json.back_list] at hback
    have hmap : items.map back = items.map id := (PyValue.list.inj hback).trans (List.map_id items).symm
    intro v hv
    exact ⟨hitems v hv, List.map_inj_left.1 hmap v hv⟩

theorem keys (h : CanonicalDocument (.dict items)) : (items.map Prod.fst).Nodup := by
  rcases h with ⟨hdocument, _⟩
  cases hdocument with
  | dict hkeys _ => exact hkeys

theorem dict {items : List (PyStr × PyValue)} (h : CanonicalDocument (.dict items)) : ∀ x ∈ items, CanonicalDocument x.2 := by
  have hkeys := h.keys
  rcases h with ⟨hdocument, hback⟩
  cases hdocument with
  | dict _ hitems =>
    rw [Json.back_dict] at hback
    intro x hx
    refine ⟨hitems x hx, ?_⟩
    -- the sorted entries hold the one under this key, read back
    have hmem : (x.1, back x.2) ∈ items := by
      rw [← PyValue.dict.inj hback, (Json.sortEntries_perm _).mem_iff]
      exact List.mem_map.2 ⟨x, hx, rfl⟩
    have hread := Json.lookup_of_mem hkeys hmem
    rw [Json.lookup_of_mem hkeys hx] at hread
    exact (Option.some.inj hread).symm

theorem entries (h : CanonicalDocument (.dict items)) : Json.sortEntries items = items := by
  have hvalues : items.map (fun x => (x.1, back x.2)) = items := by
    refine (List.map_inj_left.2 fun x hx => ?_).trans (List.map_id items)
    rw [(h.dict x hx).unchanged]
    rfl
  have hback := h.unchanged
  rw [Json.back_dict, hvalues] at hback
  exact PyValue.dict.inj hback

end CanonicalDocument

/-- The names of the fields of an object, and no others. -/
@[reducible] def HasFields (items : List (PyStr × PyValue)) (names : List String) : Prop :=
  (∀ key ∈ items.map Prod.fst, key ∈ names.map str) ∧ ∀ key ∈ names.map str, key ∈ items.map Prod.fst

/-- What is read back of an instance is this object exactly when its fields are. -/
theorem back_dataclass_iff {cls : String} {fields : List (String × PyValue)} (hnames : (fields.map Prod.fst).Nodup)
    (hcanonical : CanonicalDocument (.dict items)) (hfields : HasFields items (fields.map Prod.fst)) :
    back (.dataclass cls fields) = .dict items ↔ ∀ x ∈ fields, items.lookup (str x.1) = some (back x.2) := by
  have hobject : back (.dataclass cls fields) = back (.object fields) := Json.back_record _ _
  rw [hobject]
  constructor
  · intro h
    rcases Json.exists_fields fields hnames with ⟨items', hitems', hlookup, _⟩
    rw [h] at hitems'
    cases hitems'
    exact hlookup
  · intro h
    have hkeys := hcanonical.keys
    unfold PyValue.object
    rw [Json.back_dict, List.map_map]
    refine congrArg PyValue.dict ?_
    rw [← hcanonical.entries]
    -- both are the same entries, in the order of their keys
    have hmap : (fields.map fun x => str x.1).Nodup := by
      have hinjective := hnames.map fun _ _ h => str_injective h
      rwa [List.map_map] at hinjective
    have hentries : ((fields.map ((fun x : PyStr × PyValue => (x.1, back x.2)) ∘ fun x => (str x.1, x.2))).map Prod.fst)
        = fields.map fun x => str x.1 := by
      rw [List.map_map]
      rfl
    apply Json.sortEntries_of_perm
    · rw [List.perm_ext_iff_of_nodup]
      · rintro ⟨key, v⟩
        constructor
        · intro hmem
          rcases List.mem_map.1 hmem with ⟨x, hx, heq⟩
          cases heq
          exact mem_of_lookup (h x hx)
        · intro hmem
          have hkey := hfields.1 key (List.mem_map.2 ⟨_, hmem, rfl⟩)
          rw [List.map_map] at hkey
          rcases List.mem_map.1 hkey with ⟨x, hx, heq⟩
          have hread := h x hx
          have hsame : str x.1 = key := heq
          rw [hsame, Json.lookup_of_mem hkeys hmem] at hread
          refine List.mem_map.2 ⟨x, hx, ?_⟩
          rw [Option.some.inj hread]
          exact Prod.ext hsame rfl
      · exact List.Nodup.of_map _ (hentries ▸ hmap)
      · exact List.Nodup.of_map _ hkeys
    · rw [hentries]
      exact hmap
    · intro e he
      rcases List.mem_map.1 he with ⟨x, _, heq⟩
      cases heq
      exact Json.encodable_literal x.1

/-! ## Codecs -/

/-- One helper of a decoder, and what the encoder writes. -/
structure Codec (α : Type) where
  /-- `_helper(value, name)` -/
  read : String → PyValue → Except PyError α
  write : α → PyValue
  again : α → Option α
  Exact : PyValue → Prop
  Overflow : String → PyValue → Prop
  valid : ∀ x, (write x).Valid
  read_back : ∀ {x : α} (name : String) (y : α), Renderable (write x) →
    (read name (back (write x)) = .ok y ↔ again x = some y)
  back_iff : ∀ {name : String} {d : PyValue} {x : α}, CanonicalDocument d → read name d = .ok x →
    (back (write x) = d ↔ Exact d)
  overflows_iff : ∀ (name : String) (d : PyValue), Overflows (read name d) ↔ Overflow name d
  computes : ∀ (name : String) (d : PyValue), Computes (read name d)

/-- The error class of a decoder and the texts in which it differs from the others. -/
structure Dialect where
  kind : ErrorKind
  wire : IsWireError kind
  differ : String
  two : String

/-- `_bad(message)` -/
def Dialect.bad (w : Dialect) (message : String) : PyError := ⟨w.kind, message⟩

theorem Dialect.caught {α : Type} (w : Dialect) (message : String) : Caught (.error (w.bad message) : Except PyError α) :=
  raisesOnly_error w.wire

theorem not_overflows_ok {α : Type} (a : α) : ¬Overflows (.ok a : Except PyError α) := by
  rintro ⟨e, he, _⟩
  cases he

namespace Codec

variable {α β : Type} (w : Dialect)

/-! ### Leaves -/

/-- A value of one type, or `_bad`. -/
def scalar (get : PyValue → Option α) (write : α → PyValue) (must : String) (hvalid : ∀ x, (write x).Valid)
    (hback : ∀ x, get (back (write x)) = some x) (hget : ∀ d x, get d = some x → back (write x) = d) : Codec α where
  read name d :=
    match get d with
    | some x => .ok x
    | none => .error (w.bad (name ++ must))
  write := write
  again := some
  Exact _ := True
  Overflow _ _ := False
  valid := hvalid
  read_back name y _ := by
    rw [hback]
    simp
  back_iff := by
    intro name d x _ h
    split at h
    · rename_i hd
      cases h
      exact iff_true_intro (hget d x hd)
    · cases h
  overflows_iff name d := by
    split
    · exact iff_of_false (not_overflows_ok _) id
    · exact iff_of_false (w.caught _).not_overflows id
  computes name d := by
    split
    · exact raisesOnly_ok _
    · exact (w.caught _).computes

/-- `_string` -/
def string : Codec PyStr :=
  scalar w (fun | .str s => some s | _ => none) .str " must be a string" (fun _ => trivial) (fun _ => rfl) (by
    intro d x h
    cases d <;> cases h
    rfl)

/-- `_integer` -/
def integer : Codec Int :=
  scalar w (fun | .int n => some n | _ => none) .int " must be an integer" (fun _ => trivial) (fun _ => rfl) (by
    intro d x h
    cases d <;> cases h
    rfl)

/-- `n` is what is written for the float nearest to it. -/
def OwnText (n : Int) : Prop := ∃ f, PyFloat.ofInt n = some f ∧ Json.readFloat f = .int n

/-- A number as a float, zero without its sign: what comes back for it. -/
def floated : Num → Option Num
  | .int n => (PyFloat.ofInt n).map .float
  | .float f => some (.float (if f.IsZero then PyFloat.zero false else f))

theorem number_back {x : Num} (h : Renderable x.toValue) :
    (∃ n, back x.toValue = .int n ∧ (PyFloat.ofInt n).map .float = floated x) ∨
      ∃ f, back x.toValue = .float f ∧ floated x = some (.float f) := by
  cases x with
  | int n => exact .inl ⟨n, rfl, rfl⟩
  | float f =>
    cases f with
    | nan | inf =>
      rcases h with ⟨text, p, hp, _⟩
      cases hp
    | finite negative m e hc =>
      by_cases hm : m = 0
      · -- a zero is written as an integer
        subst hm
        exact .inl ⟨0, Json.readFloat_zero negative hc, rfl⟩
      · have hfloated : floated (.float (.finite negative m e hc)) = some (.float (.finite negative m e hc)) := by
          show some (Num.float (if m = 0 then _ else _)) = _
          rw [if_neg hm]
        rw [hfloated]
        cases hread : Json.readFloat (.finite negative m e hc) with
        | int n =>
          refine .inl ⟨n, hread, ?_⟩
          rw [Json.ofInt_readFloat hm hread]
          rfl
        | float f =>
          refine .inr ⟨f, hread, ?_⟩
          rcases Json.readFloat_cases negative hm hc with ⟨_, _, _, hsame | ⟨_, _, hint, _⟩⟩
          · rw [hread] at hsame
            cases hsame
            rfl
          · rw [hread] at hint
            cases hint
        | _ =>
          rcases Json.readFloat_cases negative hm hc with ⟨_, _, _, hsame | ⟨_, _, hint, _⟩⟩
          · rw [hread] at hsame
            cases hsame
          · rw [hread] at hint
            cases hint

/-- `_number` -/
def number : Codec Num where
  read name
    | .int n => (Num.toFloat (.int n)).map .float
    | .float f => .ok (.float f)
    | _ => .error (w.bad (name ++ " must be a number"))
  write := Num.toValue
  again := floated
  Exact d := ∀ n, d = .int n → OwnText n
  Overflow _ d := ∃ n, d = .int n ∧ PyFloat.ofInt n = none
  valid x := by cases x <;> trivial
  read_back name y h := by
    rcases number_back h with ⟨n, hn, hfloated⟩ | ⟨f, hf, hfloated⟩
    · rw [hn, ← hfloated]
      cases hread : PyFloat.ofInt n with
      | none => simp [Num.toFloat_none hread, Except.map]
      | some f => simp [Num.toFloat_some hread, Except.map]
    · rw [hf, hfloated]
      simp
  back_iff := by
    intro name d x hcanonical h
    cases d with
    | int n =>
      dsimp only at h
      cases hread : PyFloat.ofInt n with
      | none =>
        rw [Num.toFloat_none hread] at h
        cases h
      | some f =>
        rw [Num.toFloat_some hread] at h
        cases h
        constructor
        · rintro hback n' ⟨⟩
          exact ⟨f, hread, hback⟩
        · intro hexact
          rcases hexact n rfl with ⟨g, hg, htext⟩
          rw [hread] at hg
          cases hg
          exact htext
    | float f =>
      cases h
      exact iff_of_true hcanonical.unchanged nofun
    | _ => cases h
  overflows_iff name d := by
    cases d with
    | int n =>
      rw [overflows_map]
      cases hread : PyFloat.ofInt n with
      | none =>
        rw [Num.toFloat_none hread]
        exact iff_of_true ⟨_, rfl, .inl rfl⟩ ⟨n, rfl, hread⟩
      | some f =>
        rw [Num.toFloat_some hread]
        refine iff_of_false (not_overflows_ok _) ?_
        rintro ⟨n', heq, hnone⟩
        cases heq
        rw [hread] at hnone
        cases hnone
    | float f => exact iff_of_false (not_overflows_ok _) (by rintro ⟨_, h, _⟩; cases h)
    | _ => exact iff_of_false (w.caught _).not_overflows (by rintro ⟨_, h, _⟩; cases h)
  computes name d := by
    cases d with
    | int n => exact raisesOnly_map (computes_toFloat _)
    | float f => exact raisesOnly_ok _
    | _ => exact (w.caught _).computes

/-! ### Combinations -/

/-- `None if value is None else _helper(value, name)` -/
def optional (c : Codec α) (hnone : ∀ x, back (c.write x) ≠ .none) : Codec (Option α) where
  read name
    | .none => .ok none
    | d => (c.read name d).map some
  write := optionToPy c.write
  again
    | none => some none
    | some x => (c.again x).map some
  Exact d := d ≠ .none → c.Exact d
  Overflow name d := d ≠ .none ∧ c.Overflow name d
  valid x := by
    cases x with
    | none => trivial
    | some x => exact c.valid x
  read_back {x} name y h := by
    cases x with
    | none =>
      show Except.ok none = Except.ok y ↔ some none = some y
      simp
    | some x =>
      have hread : ∀ d : PyValue, d ≠ .none → (match d with
          | .none => .ok none
          | d => (c.read name d).map some : Except PyError (Option α)) = (c.read name d).map some := by
        intro d hd
        split
        · exact absurd rfl hd
        · rfl
      refine (iff_of_eq (congrArg (· = Except.ok y) (hread _ (hnone x)))).trans ?_
      simp only [map_ok_iff, c.read_back name _ h, Option.map_eq_some_iff]
  back_iff := by
    intro name d x hcanonical h
    split at h
    · cases h
      exact iff_of_true rfl fun hne => absurd rfl hne
    · rename_i hd
      rcases map_ok h with ⟨y, hy, rfl⟩
      have hne : d ≠ .none := hd
      rw [forall_prop_of_true hne]
      exact c.back_iff hcanonical hy
  overflows_iff name d := by
    split
    · exact iff_of_false (not_overflows_ok _) fun h => h.1 rfl
    · rename_i hd
      have hne : d ≠ .none := hd
      rw [overflows_map, c.overflows_iff, and_iff_right hne]
  computes name d := by
    split
    · exact raisesOnly_ok _
    · exact raisesOnly_map (c.computes name _)

/-- A constructor over what was read, which it stores. -/
def make (c : Codec α) (new : α → Except PyError β) (stored : β → α) (hstored : ∀ a b, new a = .ok b → stored b = a)
    (hcomputes : ∀ a, Computes (new a)) : Codec β where
  read name d := do
    let a ← c.read name d
    new a
  write b := c.write (stored b)
  again b := (c.again (stored b)).bind fun a => (new a).toOption
  Exact := c.Exact
  Overflow name d := c.Overflow name d ∨ ∃ a, c.read name d = .ok a ∧ Overflows (new a)
  valid b := c.valid _
  read_back {b} name y h := by
    rw [bind_ok, Option.bind_eq_some_iff]
    refine exists_congr fun a => and_congr (c.read_back name a h) ?_
    cases new a with
    | error e => exact iff_of_false nofun nofun
    | ok b' => exact ⟨fun h => congrArg some (Except.ok.inj h), fun h => congrArg Except.ok (Option.some.inj h)⟩
  back_iff := by
    intro name d b hcanonical h
    rcases bind_ok.1 h with ⟨a, ha, hb⟩
    rw [hstored a b hb]
    exact c.back_iff hcanonical ha
  overflows_iff name d := by
    rw [overflows_bind, c.overflows_iff]
  computes name d := computes_bind (c.computes name d) hcomputes

/-- A check of what was read. -/
def check (c : Codec α) (P : α → Prop) [DecidablePred P] (error : String → PyError)
    (hwire : ∀ name, IsWireError (error name).kind) : Codec α where
  read name d := do
    let a ← c.read name d
    if P a then .ok a else .error (error name)
  write := c.write
  again a := (c.again a).filter P
  Exact := c.Exact
  Overflow := c.Overflow
  valid := c.valid
  read_back {x} name y h := by
    rw [bind_ok, Option.filter_eq_some_iff, decide_eq_true_eq, ← c.read_back name y h]
    constructor
    · rintro ⟨a, ha, hy⟩
      split at hy
      · rename_i hP
        cases hy
        exact ⟨ha, hP⟩
      · cases hy
    · rintro ⟨hy, hP⟩
      exact ⟨y, hy, if_pos hP⟩
  back_iff := by
    intro name d x hcanonical h
    rcases bind_ok.1 h with ⟨a, ha, hx⟩
    split at hx
    · cases hx
      exact c.back_iff hcanonical ha
    · cases hx
  overflows_iff name d := by
    rw [overflows_bind, c.overflows_iff]
    refine or_iff_left ?_
    rintro ⟨a, _, hover⟩
    split at hover
    · exact not_overflows_ok _ hover
    · have hcaught : Caught (.error (error name) : Except PyError α) := raisesOnly_error (hwire name)
      exact hcaught.not_overflows hover
  computes name d := by
    refine computes_bind (c.computes name d) fun a => ?_
    split
    · exact raisesOnly_ok a
    · have hcaught : Caught (.error (error name) : Except PyError α) := raisesOnly_error (hwire name)
      exact hcaught.computes

/-- The items of an array, from position `i` on. -/
def readItems (c : Codec α) (label : Nat → String) : Nat → List PyValue → Except PyError (List α)
  | _, [] => .ok []
  | i, v :: vs => do
    let a ← c.read (label i) v
    let as ← readItems c label (i + 1) vs
    .ok (a :: as)

/-- The first fault of the items is an overflow. -/
def ItemsOverflow (c : Codec α) (label : Nat → String) : Nat → List PyValue → Prop
  | _, [] => False
  | i, v :: vs => c.Overflow (label i) v ∨ (∃ a, c.read (label i) v = .ok a) ∧ ItemsOverflow c label (i + 1) vs

variable {c : Codec α}

variable {label : Nat → String}

theorem readItems_back {xs ys : List α} (i : Nat) (h : ∀ x ∈ xs, Renderable (c.write x)) :
    readItems c label i ((xs.map c.write).map back) = .ok ys ↔ xs.mapM c.again = some ys := by
  induction xs generalizing i ys with
  | nil =>
    show Except.ok [] = Except.ok ys ↔ some [] = some ys
    simp
  | cons x xs ih =>
    have hfirst := fun a => c.read_back (label i) a (h x List.mem_cons_self)
    have hrest := fun ys => @ih ys (i + 1) fun x hx => h x (List.mem_cons_of_mem _ hx)
    rw [List.map_cons, List.map_cons, List.mapM_cons]
    simp only [readItems, bind_ok, hfirst, hrest, Option.bind_eq_bind, Option.bind_eq_some_iff, Except.ok.injEq,
      Option.pure_def, Option.some.injEq]

theorem back_readItems {items : List PyValue} {xs : List α} {i : Nat}
    (hcanonical : ∀ v ∈ items, CanonicalDocument v) (h : readItems c label i items = .ok xs) :
    (xs.map c.write).map back = items ↔ ∀ v ∈ items, c.Exact v := by
  induction items generalizing i xs with
  | nil =>
    cases h
    simp
  | cons v vs ih =>
    rcases bind_ok.1 h with ⟨a, ha, h⟩
    rcases bind_ok.1 h with ⟨as, has, h⟩
    cases h
    have hfirst := c.back_iff (hcanonical v List.mem_cons_self) ha
    have hrest := ih (fun v hv => hcanonical v (List.mem_cons_of_mem _ hv)) has
    rw [List.map_cons, List.map_cons, List.cons.injEq, List.forall_mem_cons, hfirst, hrest]

theorem overflows_readItems {items : List PyValue} (i : Nat) :
    Overflows (readItems c label i items) ↔ ItemsOverflow c label i items := by
  induction items generalizing i with
  | nil => exact iff_of_false (not_overflows_ok _) id
  | cons v vs ih =>
    unfold readItems ItemsOverflow
    simp only [overflows_bind, c.overflows_iff, ih, not_overflows_ok, and_false, exists_false, or_false, exists_and_right]

theorem computes_readItems {items : List PyValue} (i : Nat) :
    Computes (readItems c label i items) := by
  induction items generalizing i with
  | nil => exact raisesOnly_ok []
  | cons v vs ih =>
    exact computes_bind (c.computes _ v) fun _ => computes_bind (ih (i + 1)) fun _ => raisesOnly_ok _

/-- `_array`, of a length that fits, and its items under their labels. -/
def arrayWhere (c : Codec α) (label : String → Nat → String) (Fits : Nat → Prop) [DecidablePred Fits]
    (message : String) : Codec (List α) where
  read name
    | .list items =>
      if Fits items.length then readItems c (label name) 0 items else .error (w.bad (name ++ message))
    | _ => .error (w.bad (name ++ " must be an array"))
  write xs := .tuple (xs.map c.write)
  again xs := if Fits xs.length then xs.mapM c.again else none
  Exact d := ∀ items, d = .list items → ∀ v ∈ items, c.Exact v
  Overflow name d := ∃ items, d = .list items ∧ Fits items.length ∧ ItemsOverflow c (label name) 0 items
  valid xs := by
    rw [PyValue.Valid, PyValue.validItems_iff]
    intro v hv
    rcases List.mem_map.1 hv with ⟨x, _, rfl⟩
    exact c.valid x
  read_back {xs} name ys h := by
    rw [Json.renderable_tuple, List.forall_mem_map] at h
    have hread := @readItems_back _ c (label name) xs ys 0 h
    rw [Json.back_tuple]
    dsimp only
    rw [List.length_map, List.length_map]
    by_cases hfits : Fits xs.length
    · rw [if_pos hfits, if_pos hfits]
      exact hread
    · rw [if_neg hfits, if_neg hfits]
      exact iff_of_false nofun nofun
  back_iff := by
    intro name d xs hcanonical h
    cases d with
    | list items =>
      dsimp only at h
      split at h
      · rw [Json.back_tuple, PyValue.list.injEq, back_readItems hcanonical.list h]
        constructor
        · rintro hexact items' ⟨⟩
          exact hexact
        · intro hexact
          exact hexact items rfl
      · cases h
    | _ => cases h
  overflows_iff name d := by
    cases d with
    | list items =>
      dsimp only
      split
      · rename_i hfits
        rw [overflows_readItems]
        constructor
        · intro hover
          exact ⟨items, rfl, hfits, hover⟩
        · rintro ⟨items', heq, _, hover⟩
          cases heq
          exact hover
      · rename_i hfits
        refine iff_of_false (w.caught _).not_overflows ?_
        rintro ⟨items', heq, hfits', _⟩
        cases heq
        exact hfits hfits'
    | _ => exact iff_of_false (w.caught _).not_overflows (by rintro ⟨_, heq, _⟩; cases heq)
  computes name d := by
    cases d with
    | list items =>
      dsimp only
      split
      · exact computes_readItems 0
      · exact (w.caught _).computes
    | _ => exact (w.caught _).computes

/-- `tuple(_helper(value, ..) for value in _array(..))` -/
def array (c : Codec α) (label : String → Nat → String) : Codec (List α) := arrayWhere w c label (fun _ => True) ""

end Codec

/-! ## Objects -/

theorem field_ok {key : String} {v : PyValue} :
    Json.field items key = .ok v ↔ items.lookup (str key) = some v := by
  unfold Json.field
  cases items.lookup (str key) <;> simp

/-- The fields of an object, in the order in which they are read. -/
structure Fields (α : Type) where
  names : List String
  read : String → List (PyStr × PyValue) → Except PyError α
  write : α → List (String × PyValue)
  again : α → Option α
  Exact : List (PyStr × PyValue) → Prop
  Overflow : String → List (PyStr × PyValue) → Prop
  names_write : ∀ x, (write x).map Prod.fst = names
  valid : ∀ x, ∀ e ∈ write x, e.2.Valid
  read_back : ∀ {x : α} {items : List (PyStr × PyValue)} (name : String) (y : α),
    (∀ e ∈ write x, Renderable e.2) → (∀ e ∈ write x, items.lookup (str e.1) = some (back e.2)) →
    (read name items = .ok y ↔ again x = some y)
  back_iff : ∀ {name : String} {items : List (PyStr × PyValue)} {x : α}, (∀ e ∈ items, CanonicalDocument e.2) →
    read name items = .ok x → ((∀ e ∈ write x, items.lookup (str e.1) = some (back e.2)) ↔ Exact items)
  overflows_iff : ∀ (name : String) (items : List (PyStr × PyValue)),
    Overflows (read name items) ↔ Overflow name items
  computes : ∀ (name : String) (items : List (PyStr × PyValue)), Computes (read name items)

namespace Fields

variable {α β : Type}

/-- No more fields. -/
def done : Fields Unit where
  names := []
  read _ _ := .ok ()
  write _ := []
  again := some
  Exact _ := True
  Overflow _ _ := False
  names_write _ := rfl
  valid _ _ := nofun
  read_back _ _ _ _ := by simp
  back_iff _ _ := iff_of_true nofun trivial
  overflows_iff _ _ := iff_of_false (not_overflows_ok _) id
  computes _ _ := raisesOnly_ok _

/-- `_helper(item[key], label)`, before the other fields. -/
def field (key : String) (label : String → String) (c : Codec α) (rest : Fields β) : Fields (α × β) where
  names := key :: rest.names
  read name items := do
    let v ← Json.field items key
    let a ← c.read (label name) v
    let b ← rest.read name items
    .ok (a, b)
  write x := (key, c.write x.1) :: rest.write x.2
  again x := (c.again x.1).bind fun a => (rest.again x.2).map fun b => (a, b)
  Exact items := (∀ v, items.lookup (str key) = some v → c.Exact v) ∧ rest.Exact items
  Overflow name items := ∃ v, items.lookup (str key) = some v ∧
    (c.Overflow (label name) v ∨ (∃ a, c.read (label name) v = .ok a) ∧ rest.Overflow name items)
  names_write x := congrArg (key :: ·) (rest.names_write x.2)
  valid x e he := by
    rcases List.mem_cons.1 he with rfl | he
    · exact c.valid x.1
    · exact rest.valid x.2 e he
  read_back {x items} name y hrenderable hlookup := by
    rw [List.forall_mem_cons] at hrenderable hlookup
    have hfirst := fun a => c.read_back (label name) a hrenderable.1
    have hrest := fun b => rest.read_back name b hrenderable.2 hlookup.2
    have hfield := field_ok.2 hlookup.1
    simp only [bind_ok, hfield, Except.ok.injEq, exists_eq_left', hfirst, hrest, Option.bind_eq_some_iff,
      Option.map_eq_some_iff]
  back_iff := by
    intro name items x hcanonical h
    rcases bind_ok.1 h with ⟨v, hv, h⟩
    rcases bind_ok.1 h with ⟨a, ha, h⟩
    rcases bind_ok.1 h with ⟨b, hb, h⟩
    cases h
    have hv := field_ok.1 hv
    have hfirst := c.back_iff (hcanonical _ (mem_of_lookup hv)) ha
    rw [List.forall_mem_cons, rest.back_iff hcanonical hb, hv, Option.some.injEq, eq_comm, hfirst]
    simp
  overflows_iff name items := by
    unfold Json.field
    cases hv : items.lookup (str key) with
    | none =>
      have hkey : Caught (.error ⟨.key_error, key⟩ : Except PyError PyValue) := raisesOnly_error (.inl rfl)
      refine iff_of_false ?_ (by simp)
      rw [overflows_bind]
      rintro (hover | ⟨v, heq, _⟩)
      · exact hkey.not_overflows hover
      · cases heq
    | some v =>
      simp only [overflows_bind, c.overflows_iff, rest.overflows_iff, not_overflows_ok, and_false, exists_false, or_false,
        false_or, Except.ok.injEq, exists_eq_left', exists_and_right, Option.some.injEq]
  computes name items := by
    have hfield : Caught (Json.field items key) := by
      unfold Json.field
      split
      · exact raisesOnly_ok _
      · exact raisesOnly_error (.inl rfl)
    exact computes_bind hfield.computes fun v => computes_bind (c.computes _ v) fun _ =>
      computes_bind (rest.computes name items) fun _ => raisesOnly_ok _

/-- Checks of the object that come before its fields are read. -/
def guard (pre : String → List (PyStr × PyValue) → Except PyError Unit) (rest : Fields α) (Fits : α → Prop)
    [DecidablePred Fits] (hcaught : ∀ name items, Caught (pre name items))
    (hfits : ∀ {x : α} {items : List (PyStr × PyValue)} (name : String),
      (∀ e ∈ rest.write x, items.lookup (str e.1) = some (back e.2)) → (pre name items = .ok () ↔ Fits x)) :
    Fields α where
  names := rest.names
  read name items := do
    pre name items
    rest.read name items
  write := rest.write
  again x := if Fits x then rest.again x else none
  Exact := rest.Exact
  Overflow name items := pre name items = .ok () ∧ rest.Overflow name items
  names_write := rest.names_write
  valid := rest.valid
  read_back {x items} name y hrenderable hlookup := by
    have hread := rest.read_back name y hrenderable hlookup
    have hpre := hfits name hlookup
    constructor
    · intro h
      rcases bind_ok.1 h with ⟨⟨⟩, hok, h⟩
      rw [if_pos (hpre.1 hok)]
      exact hread.1 h
    · intro h
      split at h
      · rename_i hx
        exact bind_ok.2 ⟨(), hpre.2 hx, hread.2 h⟩
      · cases h
  back_iff := by
    intro name items x hcanonical h
    rcases bind_ok.1 h with ⟨⟨⟩, _, h⟩
    exact rest.back_iff hcanonical h
  overflows_iff name items := by
    rw [overflows_bind, or_iff_right (hcaught name items).not_overflows, ← rest.overflows_iff]
    constructor
    · rintro ⟨⟨⟩, hok, hover⟩
      exact ⟨hok, hover⟩
    · rintro ⟨hok, hover⟩
      exact ⟨(), hok, hover⟩
  computes name items := computes_bind (hcaught name items).computes fun _ => rest.computes name items

@[simp] theorem names_done : done.names = [] := rfl

@[simp] theorem names_field {key : String} {label : String → String} {c : Codec α} {rest : Fields β} :
    (field key label c rest).names = key :: rest.names := rfl

@[simp] theorem write_done (x : Unit) : done.write x = [] := rfl

@[simp] theorem write_field {key : String} {label : String → String} {c : Codec α} {rest : Fields β} {x : α × β} :
    (field key label c rest).write x = (key, c.write x.1) :: rest.write x.2 := rfl

@[simp] theorem names_guard {pre : String → List (PyStr × PyValue) → Except PyError Unit} {rest : Fields α} {Fits : α → Prop}
    [DecidablePred Fits] {hcaught : ∀ name items, Caught (pre name items)}
    {hfits : ∀ {x : α} {items : List (PyStr × PyValue)} (name : String),
      (∀ e ∈ rest.write x, items.lookup (str e.1) = some (back e.2)) → (pre name items = .ok () ↔ Fits x)} :
    (guard pre rest Fits hcaught hfits).names = rest.names := rfl

end Fields

namespace Codec

variable {α : Type} (w : Dialect)

/-- `_object` and `_keys` under a label of their own, and the fields. -/
def objectUnder (outer : String → String) (cls : String) (fields : Fields α) (hnames : fields.names.Nodup) : Codec α where
  read name d := do
    let items ← Json.asObject (w.bad (outer name ++ " must be an object")) d
    Json.exactFields (w.bad (outer name ++ w.differ)) items fields.names
    fields.read name items
  write x := .dataclass cls (fields.write x)
  again := fields.again
  Exact d := ∀ items, d = .dict items → fields.Exact items
  Overflow name d := ∃ items, d = .dict items ∧ HasFields items fields.names ∧ fields.Overflow name items
  valid x := by
    refine ⟨?_, (PyValue.validEntries_iff _).2 ?_⟩
    · have hinjective := (fields.names_write x ▸ hnames : ((fields.write x).map Prod.fst).Nodup).map fun _ _ h =>
        str_injective h
      rwa [List.map_map] at hinjective ⊢
    · intro e he
      rcases List.mem_map.1 he with ⟨e', he', rfl⟩
      exact fields.valid x e' he'
  read_back {x} name y h := by
    have hnodup : ((fields.write x).map Prod.fst).Nodup := fields.names_write x ▸ hnames
    rcases Json.exists_items (fields.write x) hnodup with ⟨items, hitems, hlookup, hexact⟩
    rw [Json.renderable_dataclass] at h
    rw [fields.names_write] at hexact
    have hobject : back (.dataclass cls (fields.write x)) = .dict items := (Json.back_record _ _).trans hitems
    have hread := fields.read_back name y h fun e he => field_ok.1 (hlookup e he)
    rw [hobject, Json.asObject_dict]
    show (Json.exactFields _ items fields.names >>= fun _ => fields.read name items) = .ok y ↔ _
    rw [hexact]
    exact hread
  back_iff := by
    intro name d x hcanonical h
    rcases bind_ok.1 h with ⟨items, hitems, hread⟩
    rcases bind_ok.1 hread with ⟨⟨⟩, hexact, hread⟩
    cases d with
    | dict items' =>
      cases hitems
      have hkeys : HasFields items ((fields.write x).map Prod.fst) := by
        rw [fields.names_write]
        exact not_not.1 (raiseIf_ok.1 hexact)
      have hnodup : ((fields.write x).map Prod.fst).Nodup := fields.names_write x ▸ hnames
      rw [back_dataclass_iff hnodup hcanonical hkeys, fields.back_iff hcanonical.dict hread]
      constructor
      · rintro hrest items' ⟨⟩
        exact hrest
      · intro hrest
        exact hrest items rfl
    | _ => cases hitems
  overflows_iff name d := by
    cases d with
    | dict items =>
      have hexact : Caught (Json.exactFields (w.bad (outer name ++ w.differ)) items fields.names) := raisesOnly_raiseIf w.wire
      rw [Json.asObject_dict]
      show Overflows (Json.exactFields _ items fields.names >>= fun _ => fields.read name items) ↔ _
      rw [overflows_bind, or_iff_right hexact.not_overflows]
      constructor
      · rintro ⟨⟨⟩, hok, hover⟩
        exact ⟨items, rfl, not_not.1 (raiseIf_ok.1 hok), (fields.overflows_iff name items).1 hover⟩
      · rintro ⟨items', heq, hkeys, hover⟩
        cases heq
        exact ⟨(), raiseIf_ok.2 (not_not.2 hkeys), (fields.overflows_iff name items).2 hover⟩
    | _ => exact iff_of_false (w.caught _).not_overflows (by rintro ⟨_, heq, _⟩; cases heq)
  computes name d := by
    have hexact : ∀ items, Caught (Json.exactFields (w.bad (outer name ++ w.differ)) items fields.names) := fun items =>
      raisesOnly_raiseIf w.wire
    cases d with
    | dict items =>
      exact computes_bind (raisesOnly_ok items) fun items =>
        computes_bind (hexact items).computes fun _ => fields.computes name items
    | _ => exact (w.caught _).computes

/-- `_object` and `_keys`, and the fields. -/
def object (cls : String) (fields : Fields α) (hnames : fields.names.Nodup) : Codec α :=
  objectUnder w id cls fields hnames

end Codec

/-! ## Formats -/

/-- What has a text when read back has one already. -/
theorem renderable_of_back (v : PyValue) (h : Renderable (back v)) : Renderable v := by
  induction v with
  | none | bool | int | str => exact h
  | float f =>
    cases f with
    | nan | inf => exact h
    | finite negative m e hc => exact Json.renderable_float (by rw [PyFloat.toRat_finite]; rfl)
  | list items ih =>
    rw [Json.back_list, Json.renderable_list, List.forall_mem_map] at h
    exact Json.renderable_list.2 fun v hv => ih v hv (h v hv)
  | tuple items ih =>
    rw [Json.back_tuple, Json.renderable_list, List.forall_mem_map] at h
    exact Json.renderable_tuple.2 fun v hv => ih v hv (h v hv)
  | dict items ih =>
    rw [Json.back_dict, Json.renderable_dict] at h
    refine Json.renderable_dict.2 fun x hx => ?_
    have hentry := h (x.1, back x.2) ((Json.sortEntries_perm _).mem_iff.2 (List.mem_map.2 ⟨x, hx, rfl⟩))
    exact ⟨hentry.1, ih x hx hentry.2⟩
  | record cls items ih =>
    rw [Json.back_record, Json.back_dict, Json.renderable_dict] at h
    refine Json.renderable_record.2 fun x hx => ?_
    have hentry := h (x.1, back x.2) ((Json.sortEntries_perm _).mem_iff.2 (List.mem_map.2 ⟨x, hx, rfl⟩))
    exact ⟨hentry.1, ih x hx hentry.2⟩

/-- A document format: the codec of its root, and the limit of its decoder. -/
structure Format (α : Type) where
  dialect : Dialect
  codec : Codec α
  limit : Nat
  duplicate : String
  oversized : String
  noncanonical : String

namespace Format

variable {α : Type} (f : Format α) (stack : Stack)

/-- `json.loads(data, object_pairs_hook=_unique_object)` -/
def loads (data : Bytes) : Except PyError PyValue :=
  Json.loadsWith (Json.uniqueHook (f.dialect.bad f.duplicate)) data

/-- What the decoder does within its `try`. -/
def parse (data : Bytes) : Except PyError α := do
  let document ← stack.loadsUnique (f.dialect.bad f.duplicate) data
  let canonical ← stack.canonicalJsonBytes document
  raiseIf (canonical ≠ data) (f.dialect.bad f.noncanonical)
  f.codec.read "root" document

/-- `except (KeyError, TypeError, ValueError) as error: raise Malformed..(str(error)) from error`; the errors
of the decoder itself are `ValueError`s and pass through with their message. -/
def convert (x : Except PyError α) : Except PyError α :=
  match x with
  | .ok a => .ok a
  | .error e => .error (if IsWireError e.kind then f.dialect.bad e.message else e)

def decode (data : Bytes) : Except PyError α :=
  if f.limit < data.length then .error (f.dialect.bad f.oversized) else f.convert (f.parse stack data)

variable {f stack}

theorem convert_ok {x : Except PyError α} {a : α} : f.convert x = .ok a ↔ x = .ok a := by
  cases x with
  | ok b => exact Iff.rfl
  | error e => exact iff_of_false nofun nofun

theorem raisesOnly_convert {x : Except PyError α} : RaisesOnly (· = f.dialect.kind) (f.convert x) ↔ Caught x := by
  cases x with
  | ok b => exact iff_of_true (raisesOnly_ok b) (raisesOnly_ok b)
  | error e =>
    constructor
    · intro h e' he
      cases he
      by_contra hwire
      have hsame : f.convert (.error e : Except PyError α) = .error e := congrArg Except.error (if_neg hwire)
      have hkind := h e hsame
      exact hwire (hkind ▸ f.dialect.wire)
    · intro h e' he
      have hbad : f.convert (.error e : Except PyError α) = .error (f.dialect.bad e.message) :=
        congrArg Except.error (if_pos (h e rfl))
      rw [hbad] at he
      cases he
      rfl

variable {data : Bytes}

theorem parse_ok {b : α} : f.parse stack data = .ok b ↔ stack.scans data = true ∧
    ∃ d, f.loads data = .ok d ∧ stack.encodes d = true ∧ Json.canonicalJsonBytes d = .ok data ∧
      f.codec.read "root" d = .ok b := by
  constructor
  · intro h
    rcases bind_ok.1 h with ⟨d, hd, h⟩
    rcases bind_ok.1 h with ⟨canonical, hcanonical, h⟩
    rcases bind_ok.1 h with ⟨⟨⟩, hsame, hread⟩
    have hsame := not_not.1 (raiseIf_ok.1 hsame)
    subst hsame
    have hloads := Stack.loadsUnique_ok.1 hd
    have hencodes := Stack.canonicalJsonBytes_ok.1 hcanonical
    exact ⟨hloads.1, d, hloads.2, hencodes.1, hencodes.2, hread⟩
  · rintro ⟨hscans, d, hd, hencodes, hcanonical, h⟩
    refine bind_ok.2 ⟨d, Stack.loadsUnique_ok.2 ⟨hscans, hd⟩, ?_⟩
    refine bind_ok.2 ⟨data, Stack.canonicalJsonBytes_ok.2 ⟨hencodes, hcanonical⟩, ?_⟩
    exact bind_ok.2 ⟨(), raiseIf_ok.2 (not_not.2 rfl), h⟩

theorem decode_ok {b : α} :
    f.decode stack data = .ok b ↔ data.length ≤ f.limit ∧ f.parse stack data = .ok b := by
  unfold decode
  split
  · rename_i hlong
    exact iff_of_false nofun fun h => absurd h.1 (not_le.2 hlong)
  · rename_i hshort
    rw [convert_ok, and_iff_right (not_lt.1 hshort)]

theorem loads_written {v : PyValue} {bytes : Bytes} (hvalid : v.Valid) (h : Json.canonicalJsonBytes v = .ok bytes) :
    f.loads bytes = .ok (back v) :=
  Json.loadsWith_back hvalid h (Json.keepsDistinct_uniqueHook _)

/-- What comes back for the encoding of a value. -/
theorem decode_written {b b' : α} {bytes : Bytes} (h : Json.canonicalJsonBytes (f.codec.write b) = .ok bytes) :
    f.decode stack bytes = .ok b' ↔ bytes.length ≤ f.limit ∧ stack.scans bytes = true ∧
      stack.encodes (back (f.codec.write b)) = true ∧ f.codec.again b = some b' := by
  have hvalid := f.codec.valid b
  have hrenderable := (Json.exists_canonicalJsonBytes_iff hvalid).1 ⟨bytes, h⟩
  rw [decode_ok, parse_ok, loads_written hvalid h, ← f.codec.read_back "root" b' hrenderable]
  have hback := Json.canonicalJsonBytes_back hvalid h
  simp only [Except.ok.injEq, exists_eq_left', hback, true_and]

/-- A canonical document. -/
theorem canonicalDocument_of_loads {d : PyValue} (hloads : f.loads data = .ok d)
    (hcanonical : Json.canonicalJsonBytes d = .ok data) : CanonicalDocument d := by
  have hdocument := Json.document_of_loadsHooked (Json.keepsDocuments_uniqueHook _) hloads
  have hback := @loads_written _ f _ _ hdocument.valid hcanonical
  rw [hloads] at hback
  exact ⟨hdocument, (Except.ok.inj hback).symm⟩

/-- The encoding of what was decoded is the data exactly when the document is exact. -/
theorem written_iff {b : α} (h : f.decode stack data = .ok b) :
    Json.canonicalJsonBytes (f.codec.write b) = .ok data ↔ ∀ d, f.loads data = .ok d → f.codec.Exact d := by
  rcases parse_ok.1 (decode_ok.1 h).2 with ⟨_, d, hloads, _, hcanonical, hread⟩
  have hd := canonicalDocument_of_loads hloads hcanonical
  have hvalid := f.codec.valid b
  rw [hloads]
  simp only [Except.ok.injEq, forall_eq']
  rw [← f.codec.back_iff hd hread]
  constructor
  · intro hwritten
    have hback := @loads_written _ f _ _ hvalid hwritten
    rw [hloads] at hback
    exact (Except.ok.inj hback).symm
  · intro hback
    -- the document has a text, so the value has one, and it is the same
    have hrenderable : Renderable (back (f.codec.write b)) :=
      hback ▸ (Json.exists_canonicalJsonBytes_iff hd.document.valid).1 ⟨data, hcanonical⟩
    rcases (Json.exists_canonicalJsonBytes_iff hvalid).2 (renderable_of_back _ hrenderable) with ⟨bytes, hbytes⟩
    have hagain := Json.canonicalJsonBytes_back hvalid hbytes
    rw [hback, hcanonical] at hagain
    rw [hbytes]
    exact hagain.symm

/-- Only the error of the decoder is raised, exactly on documents in which the interpreter has stack and the
first fault is no overflow. -/
theorem only_malformed_iff : RaisesOnly (· = f.dialect.kind) (f.decode stack data) ↔
    (data.length ≤ f.limit → stack.scans data = true ∧ ∀ d, f.loads data = .ok d →
      stack.encodes d = true ∧ (Json.canonicalJsonBytes d = .ok data → ¬f.codec.Overflow "root" d)) := by
  have hrecursion : ∀ {β : Type}, ¬Caught (.error recursionError : Except PyError β) := by
    intro β h
    exact absurd (h _ rfl) (by unfold recursionError; decide)
  unfold decode
  split
  · rename_i hlong
    refine iff_of_true (raisesOnly_error rfl) fun hshort => absurd hshort (not_le.2 hlong)
  · rename_i hshort
    rw [raisesOnly_convert, forall_prop_of_true (not_lt.1 hshort)]
    unfold parse Stack.loadsUnique
    by_cases hscans : stack.scans data = true
    · rw [if_pos hscans, and_iff_right hscans]
      have hloads : Caught (f.loads data) := Json.raisesOnly_loadsHooked (fun k hk => .inr (.inr hk))
        (fun pairs => by unfold Json.uniqueHook; split; exacts [raisesOnly_ok _, f.dialect.caught _]) le_rfl
      refine raisesOnly_bind.trans ((and_iff_right hloads).trans (forall_congr' fun d => imp_congr_right fun hd => ?_))
      unfold Stack.canonicalJsonBytes
      by_cases hencodes : stack.encodes d = true
      · have hcanonical : Caught (Json.canonicalJsonBytes d) := by
          intro e he
          rcases Json.raisesOnly_canonicalJsonBytes d e he with hkind | hkind | hkind <;> rw [hkind] <;> decide
        rw [if_pos hencodes, and_iff_right hencodes]
        refine raisesOnly_bind.trans ((and_iff_right hcanonical).trans ?_)
        have hsame : ∀ canonical, Caught (raiseIf (canonical ≠ data) (f.dialect.bad f.noncanonical)) := fun _ =>
          raisesOnly_raiseIf f.dialect.wire
        constructor
        · intro h hd
          have hread := (raisesOnly_bind.1 (h data hd)).2 () (raiseIf_ok.2 (not_not.2 rfl))
          rw [← f.codec.overflows_iff]
          exact Caught.not_overflows hread
        · intro h canonical hbytes
          refine raisesOnly_bind.2 ⟨hsame canonical, ?_⟩
          rintro ⟨⟩ hok
          have heq := not_not.1 (raiseIf_ok.1 hok)
          subst heq
          refine (caught_iff (f.codec.computes _ _)).2 ?_
          rw [f.codec.overflows_iff]
          exact h hbytes
      · rw [if_neg hencodes]
        refine iff_of_false ?_ fun h => hencodes h.1
        intro h
        exact hrecursion (raisesOnly_bind.1 h).1
    · rw [if_neg hscans]
      refine iff_of_false ?_ fun h => hscans h.1
      intro h
      exact hrecursion (raisesOnly_bind.1 h).1

end Format

end LeoFlow
