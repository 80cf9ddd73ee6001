import LeoFlow.Contracts.SharedCodecs

/-!
# LeoFlow.Contracts.Restoring — values that come back equal

What reading gives for the document of a value need not equal the value: an integer in the
place of a float comes back as the float nearest to it. `Restores` says that it does, and
there is one lemma for every way of putting codecs together. `Lossless` codecs restore
everything: strings, integers, and what is made of them.
-/

namespace LeoFlow

open Json (back Renderable)

@[simp] theorem PyValue.eq_str (s t : PyStr) : (PyValue.str s).eq (.str t) = decide (s = t) := by rw [PyValue.eq]

@[simp] theorem PyValue.eq_int (n k : Int) : (PyValue.int n).eq (.int k) = decide (n = k) := by
  rw [PyValue.eq, PyValue.eqNum]
  rfl

theorem PyValue.eq_toValue (a b : Num) : a.toValue.eq b.toValue = decide (a.Eq b) := by
  cases a <;> cases b <;> rw [Num.toValue, Num.toValue, PyValue.eq, PyValue.eqNum] <;> rfl

theorem PyValue.eqItems_map {α : Type} (f g : α → PyValue) (xs : List α) :
    PyValue.eqItems (xs.map f) (xs.map g) = true ↔ ∀ x ∈ xs, (f x).eq (g x) = true := by
  induction xs with
  | nil => simp [PyValue.eqItems]
  | cons x xs ih =>
    simp only [List.map_cons, PyValue.eqItems, Bool.and_eq_true, ih, List.forall_mem_cons]

/-- The fields of two instances of one dataclass, one by one. -/
def SameFields (as bs : List (String × PyValue)) : Prop :=
  PyValue.eqFields (as.map fun x => (str x.1, x.2)) (bs.map fun x => (str x.1, x.2)) = true

theorem eq_dataclass {cls : String} {as bs : List (String × PyValue)} :
    (PyValue.dataclass cls as).eq (.dataclass cls bs) = true ↔ SameFields as bs := by
  unfold PyValue.dataclass SameFields
  rw [PyValue.eq]
  simp

theorem sameFields_cons {key : String} {v w : PyValue} {as bs : List (String × PyValue)} :
    SameFields ((key, v) :: as) ((key, w) :: bs) ↔ v.eq w = true ∧ SameFields as bs := by
  unfold SameFields
  rw [List.map_cons, List.map_cons, PyValue.eqFields]
  simp

theorem sameFields_nil : SameFields [] [] := by
  unfold SameFields
  rw [List.map_nil, PyValue.eqFields]

/-! ## Codecs that lose nothing -/

/-- Every value comes back as it was. -/
structure Codec.Lossless {α : Type} (c : Codec α) : Prop where
  again : ∀ x, c.again x = some x
  same : ∀ x, (c.write x).eq (c.write x) = true

structure Fields.Lossless {α : Type} (f : Fields α) : Prop where
  again : ∀ x, f.again x = some x
  same : ∀ x, SameFields (f.write x) (f.write x)

/-- What comes back is equal. -/
def Codec.Restores {α : Type} (c : Codec α) (x : α) : Prop :=
  ∃ x', c.again x = some x' ∧ (c.write x').eq (c.write x) = true

def Fields.Restores {α : Type} (f : Fields α) (x : α) : Prop :=
  ∃ x', f.again x = some x' ∧ SameFields (f.write x') (f.write x)

namespace Fields

variable {α β : Type}

@[simp] theorem again_done (x : Unit) : done.again x = some x := rfl

@[simp] theorem again_field {key : String} {label : String → String} {c : Codec α} {rest : Fields β} {x : α × β} :
    (field key label c rest).again x = (c.again x.1).bind fun a => (rest.again x.2).map fun b => (a, b) := rfl

theorem first_of_again {key : String} {label : String → String} {c : Codec α} {rest : Fields β} {x y : α × β}
    (h : (field key label c rest).again x = some y) : c.again x.1 = some y.1 := by
  rcases Option.bind_eq_some_iff.1 h with ⟨a, ha, hrest⟩
  rcases Option.map_eq_some_iff.1 hrest with ⟨b, _, rfl⟩
  exact ha

/-- A field that loses nothing comes back as it was. -/
theorem fst_of_again {key : String} {label : String → String} {c : Codec α} {rest : Fields β} {x y : α × β}
    (h : (field key label c rest).again x = some y) (hc : c.Lossless) : y.1 = x.1 :=
  Option.some.inj ((first_of_again h).symm.trans (hc.again x.1))

theorem snd_of_again {key : String} {label : String → String} {c : Codec α} {rest : Fields β} {x y : α × β}
    (h : (field key label c rest).again x = some y) : rest.again x.2 = some y.2 := by
  rcases Option.bind_eq_some_iff.1 h with ⟨a, _, hrest⟩
  rcases Option.map_eq_some_iff.1 hrest with ⟨b, hb, rfl⟩
  exact hb

theorem lossless_done : done.Lossless := ⟨fun _ => rfl, fun _ => sameFields_nil⟩

theorem lossless_field {key : String} {label : String → String} {c : Codec α} {rest : Fields β} (hc : c.Lossless)
    (hrest : rest.Lossless) : (field key label c rest).Lossless where
  again x := by
    rw [again_field, hc.again, hrest.again]
    rfl
  same x := sameFields_cons.2 ⟨hc.same x.1, hrest.same x.2⟩

theorem lossless_shaped {w : Dialect} {key : String} {label : String → String} {names : List String} {rest : Fields α}
    {hshape : ∀ x, ∃ cls fields, (key, PyValue.dataclass cls fields) ∈ rest.write x ∧ fields.map Prod.fst = names}
    {hnames : names.Nodup} (hrest : rest.Lossless) : (shaped w key label names rest hshape hnames).Lossless where
  again x := by
    show (if True then rest.again x else none) = some x
    rw [if_pos trivial, hrest.again]
  same := hrest.same

theorem Lossless.restores {f : Fields α} (hf : f.Lossless) (x : α) : f.Restores x := ⟨x, hf.again x, hf.same x⟩

@[simp] theorem restores_done (x : Unit) : done.Restores x ↔ True := iff_true_intro (lossless_done.restores x)

@[simp] theorem restores_field {key : String} {label : String → String} {c : Codec α} {rest : Fields β} {x : α × β} :
    (field key label c rest).Restores x ↔ c.Restores x.1 ∧ rest.Restores x.2 := by
  constructor
  · rintro ⟨x', hagain, hsame⟩
    rcases Option.bind_eq_some_iff.1 hagain with ⟨a, ha, hb⟩
    rcases Option.map_eq_some_iff.1 hb with ⟨b, hrest, rfl⟩
    have hsame := sameFields_cons.1 hsame
    exact ⟨⟨a, ha, hsame.1⟩, ⟨b, hrest, hsame.2⟩⟩
  · rintro ⟨⟨a, ha, hfirst⟩, ⟨b, hb, hrest⟩⟩
    refine ⟨(a, b), ?_, sameFields_cons.2 ⟨hfirst, hrest⟩⟩
    exact Option.bind_eq_some_iff.2 ⟨a, ha, Option.map_eq_some_iff.2 ⟨b, hb, rfl⟩⟩

end Fields

namespace Codec

variable {α β : Type} {w : Dialect}

theorem lossless_string : (string w).Lossless := ⟨fun _ => rfl, fun s => by show (PyValue.str s).eq (.str s) = true; simp⟩

theorem lossless_integer : (integer w).Lossless := ⟨fun _ => rfl, fun n => by show (PyValue.int n).eq (.int n) = true; simp⟩

theorem Lossless.optional {c : Codec α} {hnone : ∀ x, back (c.write x) ≠ .none} (hc : c.Lossless) :
    (optional c hnone).Lossless where
  again x := by
    cases x with
    | none => rfl
    | some x =>
      show (c.again x).map some = some (some x)
      rw [hc.again]
      rfl
  same x := by
    cases x with
    | none =>
      show PyValue.none.eq .none = true
      rw [PyValue.eq]
    | some x => exact hc.same x

theorem again_array {c : Codec α} {label : String → Nat → String} {xs : List α} :
    (array w c label).again xs = xs.mapM c.again := by
  show (if True then xs.mapM c.again else none) = _
  rw [if_pos trivial]

theorem Lossless.array {c : Codec α} {label : String → Nat → String} (hc : c.Lossless) : (array w c label).Lossless where
  again xs := by
    rw [again_array]
    induction xs with
    | nil => rfl
    | cons x xs ih =>
      rw [List.mapM_cons, hc.again, ih]
      rfl
  same xs := by
    show (PyValue.tuple (xs.map c.write)).eq (.tuple (xs.map c.write)) = true
    rw [PyValue.eq, PyValue.eqItems_map]
    exact fun x _ => hc.same x

theorem lossless_make {c : Codec α} {new : α → Except PyError β} {stored : β → α}
    {hstored : ∀ a b, new a = .ok b → stored b = a} {hcomputes : ∀ a, Computes (new a)} (hc : c.Lossless)
    (hnew : ∀ b, new (stored b) = .ok b) : (c.make new stored hstored hcomputes).Lossless where
  again b := by
    show ((c.again (stored b)).bind fun a => (new a).toOption) = some b
    rw [hc.again, Option.bind_some, hnew]
    rfl
  same b := hc.same (stored b)

theorem again_object {cls : String} {fields : Fields α} {hnames : fields.names.Nodup} {x : α} :
    (object w cls fields hnames).again x = fields.again x := rfl

theorem lossless_objectUnder {outer : String → String} {cls : String} {fields : Fields α} {hnames : fields.names.Nodup}
    (hf : fields.Lossless) : (objectUnder w outer cls fields hnames).Lossless where
  again := hf.again
  same x := eq_dataclass.2 (hf.same x)

theorem lossless_object {cls : String} {fields : Fields α} {hnames : fields.names.Nodup} (hf : fields.Lossless) :
    (object w cls fields hnames).Lossless := lossless_objectUnder hf

theorem Lossless.restores {c : Codec α} (hc : c.Lossless) (x : α) : c.Restores x := ⟨x, hc.again x, hc.same x⟩

/-! ## What is restored -/

/-- The value is a float, or equal to the float nearest to it. -/
def HasFloat (x : Num) : Prop := ∃ y ∈ floated x, y.Eq x

@[simp] theorem restores_number {x : Num} : (number w).Restores x ↔ HasFloat x := by
  refine exists_congr fun y => and_congr_right fun _ => ?_
  show y.toValue.eq x.toValue = true ↔ _
  rw [PyValue.eq_toValue, decide_eq_true_eq]

@[simp] theorem restores_optional {c : Codec α} {hnone : ∀ x, back (c.write x) ≠ .none} {x : Option α} :
    (optional c hnone).Restores x ↔ ∀ y ∈ x, c.Restores y := by
  cases x with
  | none =>
    refine iff_of_true ⟨none, rfl, ?_⟩ nofun
    show PyValue.none.eq .none = true
    rw [PyValue.eq]
  | some x =>
    constructor
    · rintro ⟨x', hagain, hsame⟩ y hy
      cases hy
      rcases Option.map_eq_some_iff.1 hagain with ⟨y', hy', rfl⟩
      exact ⟨y', hy', hsame⟩
    · intro h
      rcases h x rfl with ⟨x', hagain, hsame⟩
      exact ⟨some x', Option.map_eq_some_iff.2 ⟨x', hagain, rfl⟩, hsame⟩

theorem restores_items {c : Codec α} {xs : List α} :
    (∃ ys, xs.mapM c.again = some ys ∧ PyValue.eqItems (ys.map c.write) (xs.map c.write) = true) ↔
      ∀ x ∈ xs, c.Restores x := by
  induction xs with
  | nil =>
    refine iff_of_true ⟨[], rfl, ?_⟩ nofun
    rw [List.map_nil, PyValue.eqItems]
  | cons x xs ih =>
    rw [List.forall_mem_cons, ← ih, List.mapM_cons]
    constructor
    · rintro ⟨ys, hagain, hsame⟩
      rcases Option.bind_eq_some_iff.1 hagain with ⟨x', hx', hagain⟩
      rcases Option.bind_eq_some_iff.1 hagain with ⟨xs', hxs', hagain⟩
      cases hagain
      rw [List.map_cons, List.map_cons, PyValue.eqItems, Bool.and_eq_true] at hsame
      exact ⟨⟨x', hx', hsame.1⟩, ⟨xs', hxs', hsame.2⟩⟩
    · rintro ⟨⟨x', hx', hfirst⟩, ⟨xs', hxs', hrest⟩⟩
      refine ⟨x' :: xs', ?_, ?_⟩
      · exact Option.bind_eq_some_iff.2 ⟨x', hx', Option.bind_eq_some_iff.2 ⟨xs', hxs', rfl⟩⟩
      · rw [List.map_cons, List.map_cons, PyValue.eqItems, hfirst, hrest]
        rfl

@[simp] theorem restores_arrayWhere {c : Codec α} {label : String → Nat → String} {Fits : Nat → Prop} [DecidablePred Fits]
    {message : String} {xs : List α} :
    (arrayWhere w c label Fits message).Restores xs ↔ Fits xs.length ∧ ∀ x ∈ xs, c.Restores x := by
  rw [← restores_items]
  have heq : ∀ ys : List α, ((arrayWhere w c label Fits message).write ys).eq ((arrayWhere w c label Fits message).write xs)
      = PyValue.eqItems (ys.map c.write) (xs.map c.write) := by
    intro ys
    show (PyValue.tuple _).eq (.tuple _) = _
    rw [PyValue.eq]
  unfold Restores
  simp only [heq]
  by_cases hfits : Fits xs.length
  · have hagain : (arrayWhere w c label Fits message).again xs = xs.mapM c.again := if_pos hfits
    rw [hagain, and_iff_right hfits]
  · have hagain : (arrayWhere w c label Fits message).again xs = none := if_neg hfits
    rw [hagain]
    exact iff_of_false (by rintro ⟨_, h, _⟩; cases h) fun h => hfits h.1

@[simp] theorem restores_array {c : Codec α} {label : String → Nat → String} {xs : List α} :
    (array w c label).Restores xs ↔ ∀ x ∈ xs, c.Restores x := by
  unfold array
  rw [restores_arrayWhere, and_iff_right trivial]

@[simp] theorem restores_object {cls : String} {fields : Fields α} {hnames : fields.names.Nodup} {x : α} :
    (object w cls fields hnames).Restores x ↔ fields.Restores x :=
  exists_congr fun _ => and_congr_right fun _ => eq_dataclass

theorem again_check {c : Codec α} {P : α → Prop} [DecidablePred P] {error : String → PyError}
    {hwire : ∀ name, IsWireError (error name).kind} {x y : α} (h : (c.check P error hwire).again x = some y) :
    c.again x = some y := (Option.filter_eq_some_iff.1 h).1

theorem restores_check {c : Codec α} {P : α → Prop} [DecidablePred P] {error : String → PyError}
    {hwire : ∀ name, IsWireError (error name).kind} {x : α} :
    (c.check P error hwire).Restores x ↔ ∃ x', c.again x = some x' ∧ (c.write x').eq (c.write x) = true ∧ P x' := by
  refine exists_congr fun x' => ?_
  show (c.again x).filter P = some x' ∧ _ ↔ _
  rw [Option.filter_eq_some_iff, decide_eq_true_eq, and_assoc, and_comm (a := P x')]
  rfl

theorem restores_check_of_lossless {c : Codec α} {P : α → Prop} [DecidablePred P] {error : String → PyError}
    {hwire : ∀ name, IsWireError (error name).kind} {x : α} (hc : c.Lossless) :
    (c.check P error hwire).Restores x ↔ P x := by
  rw [restores_check, hc.again]
  simp [hc.same]

/-- What a constructor stores comes back as it does without the constructor. -/
theorem stored_of_again {c : Codec α} {new : α → Except PyError β} {stored : β → α}
    {hstored : ∀ a b, new a = .ok b → stored b = a} {hcomputes : ∀ a, Computes (new a)} {b b' : β}
    (h : (c.make new stored hstored hcomputes).again b = some b') : c.again (stored b) = some (stored b') := by
  rcases Option.bind_eq_some_iff.1 h with ⟨a, ha, hb⟩
  cases hnew : new a with
  | error e =>
    rw [hnew] at hb
    cases hb
  | ok b'' =>
    rw [hnew] at hb
    cases hb
    rw [ha, hstored a b' hnew]

/-- What every item keeps, the items keep. -/
theorem map_of_mapM {f : α → Option α} {key : α → β} (hkey : ∀ x y, f x = some y → key y = key x) {xs ys : List α}
    (h : xs.mapM f = some ys) : ys.map key = xs.map key := by
  induction xs generalizing ys with
  | nil =>
    cases h
    rfl
  | cons x xs ih =>
    rw [List.mapM_cons] at h
    rcases Option.bind_eq_some_iff.1 h with ⟨y, hy, h⟩
    rcases Option.bind_eq_some_iff.1 h with ⟨rest, hrest, h⟩
    cases h
    rw [List.map_cons, List.map_cons, hkey x y hy, ih hrest]

/-- The constructor is called with what came back. -/
theorem restores_make {c : Codec α} {new : α → Except PyError β} {stored : β → α}
    {hstored : ∀ a b, new a = .ok b → stored b = a} {hcomputes : ∀ a, Computes (new a)} {b : β} :
    (c.make new stored hstored hcomputes).Restores b ↔
      ∃ a, c.again (stored b) = some a ∧ (c.write a).eq (c.write (stored b)) = true ∧ ∃ b', new a = .ok b' := by
  constructor
  · rintro ⟨b', hagain, hsame⟩
    rcases Option.bind_eq_some_iff.1 hagain with ⟨a, ha, hb⟩
    have hnew : new a = .ok b' := by
      cases hb' : new a with
      | error e =>
        rw [hb'] at hb
        cases hb
      | ok b'' =>
        rw [hb'] at hb
        cases hb
        rfl
    have hsame : (c.write (stored b')).eq (c.write (stored b)) = true := hsame
    rw [hstored a b' hnew] at hsame
    exact ⟨a, ha, hsame, b', hnew⟩
  · rintro ⟨a, ha, hsame, b', hnew⟩
    refine ⟨b', Option.bind_eq_some_iff.2 ⟨a, ha, ?_⟩, ?_⟩
    · rw [hnew]
      rfl
    · show (c.write (stored b')).eq (c.write (stored b)) = true
      rw [hstored a b' hnew]
      exact hsame

/-- A constructor that accepts whatever came back equal. -/
theorem restores_make_of {c : Codec α} {new : α → Except PyError β} {stored : β → α}
    {hstored : ∀ a b, new a = .ok b → stored b = a} {hcomputes : ∀ a, Computes (new a)} {b : β}
    (haccepts : ∀ a, c.again (stored b) = some a → c.Restores (stored b) → ∃ b', new a = .ok b') :
    (c.make new stored hstored hcomputes).Restores b ↔ c.Restores (stored b) := by
  rw [restores_make]
  constructor
  · rintro ⟨a, ha, hsame, _⟩
    exact ⟨a, ha, hsame⟩
  · rintro ⟨a, ha, hsame⟩
    exact ⟨a, ha, hsame, haccepts a ha ⟨a, ha, hsame⟩⟩

theorem requireFinite_of_same {x y : Num} {field : String} (h : y.toValue.eq x.toValue = true)
    (hx : requireFinite x field = .ok ()) : requireFinite y field = .ok () := by
  rw [PyValue.eq_toValue, decide_eq_true_eq] at h
  cases y with
  | int n => rfl
  | float g =>
    cases x with
    | int n =>
      have hfinite : g.IsFinite := by
        cases g with
        | nan => cases h
        | inf => cases h
        | finite => trivial
      exact raiseIf_ok.2 (not_not.2 hfinite)
    | float f =>
      have hf : f.IsFinite := not_not.1 (raiseIf_ok.1 hx)
      have hfinite : g.IsFinite := by
        cases f with
        | nan => cases hf
        | inf => cases hf
        | finite =>
          cases g with
          | nan => cases h
          | inf =>
            rcases h with h | ⟨h, _⟩
            · cases h
            · cases h
          | finite => trivial
      exact raiseIf_ok.2 (not_not.2 hfinite)

theorem length_of_mapM {f : α → Option α} {xs ys : List α} (h : xs.mapM f = some ys) : ys.length = xs.length := by
  have hmap := congrArg List.length (map_of_mapM (fun _ _ _ => rfl : ∀ x y, f x = some y → () = ()) h)
  rwa [List.length_map, List.length_map] at hmap

theorem mem_of_mapM {f : α → Option β} {xs : List α} {ys : List β} (h : xs.mapM f = some ys) {y : β} (hy : y ∈ ys) :
    ∃ x ∈ xs, f x = some y := by
  induction xs generalizing ys with
  | nil =>
    cases h
    cases hy
  | cons x xs ih =>
    rw [List.mapM_cons] at h
    rcases Option.bind_eq_some_iff.1 h with ⟨first, hfirst, h⟩
    rcases Option.bind_eq_some_iff.1 h with ⟨rest, hrest, h⟩
    cases h
    rcases List.mem_cons.1 hy with rfl | hy
    · exact ⟨x, List.mem_cons_self, hfirst⟩
    · rcases ih hrest hy with ⟨x', hx', hread⟩
      exact ⟨x', List.mem_cons_of_mem _ hx', hread⟩

/-- Finite numbers that are floats or equal to floats are finite as floats. -/
theorem requireFinite_of_mapM {xs ys : List Num} {field : String} (h : xs.mapM floated = some ys)
    (hfloat : ∀ x ∈ xs, HasFloat x) (hfinite : ∀ x ∈ xs, requireFinite x field = .ok ()) :
    ∀ y ∈ ys, requireFinite y field = .ok () := by
  intro y hy
  rcases mem_of_mapM h hy with ⟨x, hx, hread⟩
  rcases hfloat x hx with ⟨y', hy', heq⟩
  rw [hread] at hy'
  cases hy'
  refine requireFinite_of_same ?_ (hfinite x hx)
  rw [PyValue.eq_toValue, decide_eq_true_eq]
  exact heq

/-! ## The shared codecs -/

theorem lossless_idOf {c : IdClass} : (idOf w c).Lossless := lossless_make lossless_string ContractId.parse_value

theorem lossless_digest : (digest w).Lossless := by
  refine lossless_make (lossless_object ?_) ?_
  · refine Fields.lossless_field (lossless_make lossless_string fun _ => rfl) ?_
    exact Fields.lossless_field lossless_string Fields.lossless_done
  · intro d
    exact dif_pos ⟨d.length_value, d.lowerHex_value⟩

theorem lossless_schemaVersion : (schemaVersion w).Lossless := by
  refine lossless_make (lossless_object ?_) ?_
  · exact Fields.lossless_field lossless_integer (Fields.lossless_field lossless_integer Fields.lossless_done)
  · rintro ⟨major, minor⟩
    rfl

theorem lossless_schema : (schema w).Lossless := by
  refine lossless_make (lossless_object (Fields.lossless_shaped ?_)) ?_
  · exact Fields.lossless_field lossless_string (Fields.lossless_field lossless_schemaVersion Fields.lossless_done)
  · intro s
    exact dif_pos s.isToken_schema_id

theorem lossless_objectRef : (objectRef w).Lossless := by
  refine lossless_make (lossless_object ?_) ?_
  · refine Fields.lossless_field lossless_digest (Fields.lossless_field lossless_integer ?_)
    refine Fields.lossless_field lossless_string (Fields.lossless_field lossless_string ?_)
    exact Fields.lossless_field lossless_string Fields.lossless_done
  · intro r
    exact Checked.make_val r

theorem lossless_provenance {label : String → String} {item : String → String → Nat → String} :
    (provenance w label item).Lossless := by
  refine lossless_make (lossless_object ?_) Checked.make_val
  refine Fields.lossless_field lossless_string (Fields.lossless_field lossless_string ?_)
  refine Fields.lossless_field lossless_string (Fields.lossless_field lossless_digest ?_)
  refine Fields.lossless_field lossless_digest (Fields.lossless_field (lossless_digest.array) ?_)
  refine Fields.lossless_field (lossless_digest.array) (Fields.lossless_field lossless_integer ?_)
  exact Fields.lossless_field lossless_integer (Fields.lossless_field lossless_string Fields.lossless_done)

/-- `Covariance(basis, units, values, psd_tolerance)` of numbers as floats -/
def floatedCovariance (c : Covariance.Fields) : Option Covariance.Fields := do
  let values ← c.values.mapM fun row => row.mapM floated
  let psd_tolerance ← floated c.psd_tolerance
  some { c with values, psd_tolerance }

/-- The numbers of a covariance are floats or equal to floats, and as floats they pass its checks. -/
structure RestorableCovariance (c : Covariance) : Prop where
  values : ∀ row ∈ c.val.values, ∀ x ∈ row, HasFloat x
  psd_tolerance : HasFloat c.val.psd_tolerance
  accepted : ∃ fields, floatedCovariance c.val = some fields ∧ fields.post_init = .ok ()

theorem make_exists_iff {α : Type} {post_init : α → Except PyError Unit} {a : α} :
    (∃ b, Checked.make post_init a = .ok b) ↔ post_init a = .ok () := by
  constructor
  · rintro ⟨b, hb⟩
    have hval := Checked.val_of_make hb
    exact hval ▸ b.ok
  · intro h
    exact ⟨_, Checked.make_ok h⟩

@[simp] theorem restores_covariance {c : Covariance} : (covariance w).Restores c ↔ RestorableCovariance c := by
  have hfields : (covarianceFields w unnumbered unnumbered unnumbered unnumbered).Restores
      (c.val.basis, c.val.units, c.val.values, c.val.psd_tolerance, ()) ↔
      (∀ row ∈ c.val.values, ∀ x ∈ row, HasFloat x) ∧ HasFloat c.val.psd_tolerance := by
    unfold covarianceFields
    simp [lossless_string.restores]
  have hagain : (covarianceFields w unnumbered unnumbered unnumbered unnumbered).again
      (c.val.basis, c.val.units, c.val.values, c.val.psd_tolerance, ()) =
      (floatedCovariance c.val).map fun fields =>
        (fields.basis, fields.units, fields.values, fields.psd_tolerance, ()) := by
    have hrows : (array w (number w) unnumbered).again = fun row => row.mapM floated := funext fun _ => again_array
    unfold covarianceFields floatedCovariance
    simp only [Fields.again_field, Fields.again_done, lossless_string.array.again, again_array, hrows, Option.bind_some,
      Option.bind_eq_bind]
    cases c.val.values.mapM fun row => row.mapM floated with
    | none => rfl
    | some values =>
      have htolerance : (number w).again c.val.psd_tolerance = floated c.val.psd_tolerance := rfl
      rw [htolerance]
      cases floated c.val.psd_tolerance with
      | none => rfl
      | some psd_tolerance => rfl
  unfold covariance covarianceOf
  rw [restores_make]
  constructor
  · rintro ⟨a, ha, hsame, hnew⟩
    have hfloats := hfields.1 (restores_object.1 ⟨a, ha, hsame⟩)
    rcases Option.map_eq_some_iff.1 (hagain.symm.trans ha) with ⟨fields, hfields, rfl⟩
    exact ⟨hfloats.1, hfloats.2, fields, hfields, make_exists_iff.1 hnew⟩
  · rintro ⟨hvalues, htolerance, fields, hfloated, haccepted⟩
    rcases restores_object.2 (hfields.2 ⟨hvalues, htolerance⟩) with ⟨a, ha, hsame⟩
    refine ⟨a, ha, hsame, ?_⟩
    rcases Option.map_eq_some_iff.1 (hagain.symm.trans ha) with ⟨fields', hfields', rfl⟩
    rw [hfloated] at hfields'
    cases hfields'
    exact make_exists_iff.2 haccepted

end Codec

/-! ## When what comes back is equal -/

namespace Fields

variable {α β : Type}

end Fields

namespace Codec

variable {α β : Type} {w : Dialect}

end Codec

namespace Format

variable {α : Type} {f : Format α} {stack : Stack}

/-- A value comes back equal exactly when its codec restores it, within the limit and the stack. -/
theorem restored_iff {b : α} {bytes : Bytes} (h : Json.canonicalJsonBytes (f.codec.write b) = .ok bytes) :
    (∃ b', f.decode stack bytes = .ok b' ∧ (f.codec.write b').eq (f.codec.write b) = true) ↔
      bytes.length ≤ f.limit ∧ stack.scans bytes = true ∧ stack.encodes (back (f.codec.write b)) = true ∧
        f.codec.Restores b := by
  simp only [decode_written h, and_assoc, exists_and_left]
  rfl

end Format

end LeoFlow
