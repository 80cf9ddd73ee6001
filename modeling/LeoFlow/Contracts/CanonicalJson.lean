import LeoFlow.Core.JsonRoundTrip
import LeoFlow.Contracts.Validation

/-!
# LeoFlow.Contracts.CanonicalJson — canonical JSON is a normal form

What digests and idempotency keys rely on: reading canonical JSON and writing it
again changes nothing, entries may be inserted in any order, and the bytes of a value
without floats determine it.
-/

namespace LeoFlow

namespace Json

/-! ## The text of a value -/

/-- `_encode_canonical(_primitive(v))` is `text`. -/
def Renders (v : PyValue) (text : PyStr) : Prop := ∃ p, primitive v = .ok p ∧ encodeCanonical p = .ok text

/-- An entry and its key with the text of its value. -/
structure RendersEntry (x : PyStr × PyValue) (e : PyStr × PyStr) : Prop where
  key : x.1 = e.1
  encodable : Encodable e.1
  renders : Renders x.2 e.2

/-- `"[" + ",".join(..) + "]"` -/
def arrayText (texts : List PyStr) : PyStr := 91 :: (joinComma texts ++ [93])

/-- `"{" + ",".join(..) + "}"`, of entries in any order. -/
def objectText (entries : List (PyStr × PyStr)) : PyStr :=
  123 :: (joinComma ((sortEntries entries).map entryText) ++ [125])

variable {v : PyValue}

theorem canonicalJsonBytes_iff {bytes : Bytes} :
    canonicalJsonBytes v = .ok bytes ↔ ∃ text, Renders v text ∧ encodeUtf8 text = some bytes := by
  constructor
  · intro h
    unfold canonicalJsonBytes at h
    split at h
    · cases h
    rename_i p hp
    split at h
    · cases h
    rename_i text htext
    split at h
    · rename_i bytes' hbytes
      cases h
      exact ⟨text, ⟨p, hp, htext⟩, hbytes⟩
    · cases h
  · rintro ⟨text, ⟨p, hp, htext⟩, hbytes⟩
    unfold canonicalJsonBytes
    rw [hp]
    dsimp only
    rw [htext]
    dsimp only
    rw [hbytes]

theorem forall₂_renders_iff {items : List PyValue} {texts : List PyStr} :
    List.Forall₂ Renders items texts ↔
      ∃ ps, primitiveItems items = .ok ps ∧ encodeItems ps = .ok texts := by
  constructor
  · intro h
    induction h with
    | nil => exact ⟨[], rfl, rfl⟩
    | cons hv _ ih =>
      rcases hv with ⟨p, hp, htext⟩
      rcases ih with ⟨ps, hps, htexts⟩
      refine ⟨p :: ps, ?_, ?_⟩
      · simp only [primitiveItems, hp, hps, Except.map]
      · simp only [encodeItems, htext, htexts, Except.map]
  · rintro ⟨ps, hps, htexts⟩
    have hleft := primitiveItems_ok hps
    have hright := encodeItems_ok htexts
    clear hps htexts
    induction hleft generalizing texts with
    | nil =>
      cases hright
      exact .nil
    | cons hp _ ih =>
      cases hright with
      | cons htext hrest => exact .cons ⟨_, hp, htext⟩ (ih hrest)

variable {items : List (PyStr × PyValue)}

theorem forall₂_rendersEntry_iff {es : List (PyStr × PyStr)} :
    List.Forall₂ RendersEntry items es ↔
      ∃ ps, primitiveEntries items = .ok ps ∧ encodeEntries ps = .ok es := by
  constructor
  · intro h
    have hboth : ∃ ps, List.Forall₂ ConvertsEntry items ps ∧ List.Forall₂ EncodesEntry ps es := by
      induction h with
      | nil => exact ⟨[], .nil, .nil⟩
      | @cons x e xs es hx _ ih =>
        rcases hx with ⟨hkey, hencodable, p, hp, htext⟩
        rcases ih with ⟨ps, hps, hes⟩
        exact ⟨(e.1, p) :: ps, .cons ⟨hkey, hp⟩ hps, .cons ⟨rfl, hencodable, htext⟩ hes⟩
    rcases hboth with ⟨ps, hps, hes⟩
    exact ⟨ps, primitiveEntries_of_forall₂ hps, encodeEntries_of_forall₂ hes⟩
  · rintro ⟨ps, hps, hes⟩
    have hleft := primitiveEntries_ok hps
    have hright := encodeEntries_ok hes
    clear hps hes
    induction hleft generalizing es with
    | nil =>
      cases hright
      exact .nil
    | cons hx _ ih =>
      cases hright with
      | cons he hrest =>
        refine .cons ⟨hx.key.trans he.key, ?_, _, hx.converts, he.encodes⟩ (ih hrest)
        rw [← he.key]
        exact he.encodable

theorem renders_list_iff {items : List PyValue} {text : PyStr} :
    Renders (.list items) text ↔ ∃ texts, List.Forall₂ Renders items texts ∧ text = arrayText texts := by
  constructor
  · rintro ⟨p, hp, htext⟩
    unfold primitive at hp
    rcases map_ok hp with ⟨ps, hps, rfl⟩
    rcases encodeCanonical_list htext with ⟨texts, htexts, rfl⟩
    exact ⟨texts, forall₂_renders_iff.2 ⟨ps, hps, htexts⟩, rfl⟩
  · rintro ⟨texts, hall, rfl⟩
    rcases forall₂_renders_iff.1 hall with ⟨ps, hps, htexts⟩
    refine ⟨.list ps, ?_, ?_⟩
    · simp only [primitive, hps, Except.map]
    · simp only [encodeCanonical, htexts, Except.map]
      rfl

theorem renders_dict_iff {text : PyStr} :
    Renders (.dict items) text ↔ ∃ es, List.Forall₂ RendersEntry items es ∧ text = objectText es := by
  constructor
  · rintro ⟨p, hp, htext⟩
    unfold primitive at hp
    rcases map_ok hp with ⟨ps, hps, rfl⟩
    rcases encodeCanonical_dict htext with ⟨es, hes, rfl⟩
    exact ⟨es, forall₂_rendersEntry_iff.2 ⟨ps, hps, hes⟩, rfl⟩
  · rintro ⟨es, hall, rfl⟩
    rcases forall₂_rendersEntry_iff.1 hall with ⟨ps, hps, hes⟩
    refine ⟨.dict ps, ?_, ?_⟩
    · simp only [primitive, hps, Except.map]
    · simp only [encodeCanonical, hes, Except.map]
      rfl

/-- A tuple is written as a list. -/
theorem renders_tuple_iff {items : List PyValue} {text : PyStr} :
    Renders (.tuple items) text ↔ Renders (.list items) text := by
  unfold Renders primitive
  rfl

/-- An instance is written as a dictionary of its fields. -/
theorem renders_record_iff {cls : String} {fields : List (PyStr × PyValue)} {text : PyStr} :
    Renders (.record cls fields) text ↔ Renders (.dict fields) text := by
  unfold Renders primitive
  rfl

/-! ## What canonical JSON accepts -/

/-- `str(n)` is short enough for CPython. -/
def ShortInt (n : Int) : Prop := (PyFloat.natStr n.natAbs).length ≤ 4300

instance (n : Int) : Decidable (ShortInt n) := inferInstanceAs (Decidable (_ ≤ _))

theorem ShortInt.mono {a b : Int} (h : ShortInt b) (hle : a.natAbs ≤ b.natAbs) : ShortInt a := by
  have hb := (length_natStr_le_iff (by decide)).1 h
  exact (length_natStr_le_iff (by decide)).2 (hle.trans_lt hb)

theorem exists_intStr_iff {n : Int} : (∃ text, intStr n = .ok text) ↔ ShortInt n := by
  unfold intStr
  dsimp only
  split
  · rename_i hlong
    exact iff_of_false (by rintro ⟨_, h⟩; cases h) (not_le.2 hlong)
  · rename_i hshort
    exact iff_of_true ⟨_, rfl⟩ (not_lt.1 hshort)

/-- The value has a canonical text. -/
def Renderable (v : PyValue) : Prop := ∃ text, Renders v text

@[simp] theorem renderable_none : Renderable .none := ⟨_, .none, rfl, rfl⟩

@[simp] theorem renderable_bool (b : Bool) : Renderable (.bool b) := by
  cases b <;> exact ⟨_, _, rfl, rfl⟩

@[simp] theorem renderable_int {n : Int} : Renderable (.int n) ↔ ShortInt n := by
  constructor
  · rintro ⟨text, p, hp, htext⟩
    cases hp
    exact exists_intStr_iff.1 ⟨text, htext⟩
  · intro h
    rcases exists_intStr_iff.2 h with ⟨text, htext⟩
    exact ⟨text, .int n, rfl, htext⟩

@[simp] theorem renderable_str {s : PyStr} : Renderable (.str s) ↔ Encodable s := by
  constructor
  · rintro ⟨text, p, hp, htext⟩
    cases hp
    have htext : encodeStr s = .ok text := htext
    unfold encodeStr at htext
    split at htext
    · assumption
    · cases htext
  · intro h
    exact ⟨quote s, .str s, rfl, if_pos h⟩

theorem exists_forall₂_iff {α β : Type} {R : α → β → Prop} {xs : List α} :
    (∃ ys, List.Forall₂ R xs ys) ↔ ∀ x ∈ xs, ∃ y, R x y := by
  constructor
  · rintro ⟨ys, h⟩ x hx
    exact exists_of_forall₂ h hx
  · intro h
    induction xs with
    | nil => exact ⟨[], .nil⟩
    | cons x xs ih =>
      rcases h x List.mem_cons_self with ⟨y, hy⟩
      rcases ih fun x hx => h x (List.mem_cons_of_mem _ hx) with ⟨ys, hys⟩
      exact ⟨y :: ys, .cons hy hys⟩

@[simp] theorem renderable_list {items : List PyValue} :
    Renderable (.list items) ↔ ∀ v ∈ items, Renderable v := by
  refine Iff.trans ?_ exists_forall₂_iff
  constructor
  · rintro ⟨text, htext⟩
    rcases renders_list_iff.1 htext with ⟨texts, h, _⟩
    exact ⟨texts, h⟩
  · rintro ⟨texts, h⟩
    exact ⟨_, renders_list_iff.2 ⟨texts, h, rfl⟩⟩

@[simp] theorem renderable_tuple {items : List PyValue} :
    Renderable (.tuple items) ↔ ∀ v ∈ items, Renderable v := by
  rw [← renderable_list]
  exact exists_congr fun _ => renders_tuple_iff

@[simp] theorem renderable_dict :
    Renderable (.dict items) ↔ ∀ x ∈ items, Encodable x.1 ∧ Renderable x.2 := by
  have hentry : ∀ x, (∃ e, RendersEntry x e) ↔ Encodable x.1 ∧ Renderable x.2 := by
    intro x
    constructor
    · rintro ⟨e, he⟩
      exact ⟨he.key ▸ he.encodable, e.2, he.renders⟩
    · rintro ⟨hkey, text, htext⟩
      exact ⟨(x.1, text), rfl, hkey, htext⟩
  simp only [← hentry]
  refine Iff.trans ?_ exists_forall₂_iff
  constructor
  · rintro ⟨text, htext⟩
    rcases renders_dict_iff.1 htext with ⟨es, h, _⟩
    exact ⟨es, h⟩
  · rintro ⟨es, h⟩
    exact ⟨_, renders_dict_iff.2 ⟨es, h, rfl⟩⟩

@[simp] theorem renderable_record {cls : String} {fields : List (PyStr × PyValue)} :
    Renderable (.record cls fields) ↔ ∀ x ∈ fields, Encodable x.1 ∧ Renderable x.2 := by
  rw [← renderable_dict]
  exact exists_congr fun _ => renders_record_iff

/-- A `Char` is never a surrogate. -/
theorem encodable_literal (s : String) : Encodable (str s) := by
  intro c hc
  rcases List.mem_map.1 hc with ⟨ch, _, rfl⟩
  rcases ch.valid with hlow | ⟨hhigh, hmax⟩
  · have hlow : ch.toNat < 0xD800 := hlow
    omega
  · have hhigh : 0xDFFF < ch.toNat := hhigh
    have hmax : ch.toNat < 0x110000 := hmax
    omega

@[simp high] theorem renderable_literal (s : String) : Renderable (.str (str s)) :=
  renderable_str.2 (encodable_literal s)

@[simp] theorem renderable_object {fields : List (String × PyValue)} :
    Renderable (.object fields) ↔ ∀ x ∈ fields, Renderable x.2 := by
  unfold PyValue.object
  rw [renderable_dict, List.forall_mem_map]
  exact forall₂_congr fun x _ => and_iff_right (encodable_literal x.1)

@[simp] theorem renderable_dataclass {cls : String} {fields : List (String × PyValue)} :
    Renderable (.dataclass cls fields) ↔ ∀ x ∈ fields, Renderable x.2 := by
  rw [← renderable_object]
  unfold PyValue.dataclass PyValue.object
  rw [renderable_record, renderable_dict]

/-- A value with a text has bytes. -/
theorem exists_canonicalJsonBytes_iff (hvalid : v.Valid) :
    (∃ bytes, canonicalJsonBytes v = .ok bytes) ↔ Renderable v := by
  constructor
  · rintro ⟨bytes, h⟩
    rcases canonicalJsonBytes_iff.1 h with ⟨text, htext, _⟩
    exact ⟨text, htext⟩
  · rintro ⟨text, p, hp, htext⟩
    have hreads := encodeCanonical_reads p (primitive_primitive v hvalid hp).valid htext
    exact ⟨text.flatMap utf8Char, canonicalJsonBytes_iff.2 ⟨text, ⟨p, hp, htext⟩, if_pos hreads.encodable⟩⟩

/-! ## The order of keys -/

/-- UTF-16 is a prefix code: a high surrogate is no character of its own. -/
theorem utf16_injective : ∀ {s t : PyStr}, Encodable s → Encodable t →
    s.flatMap utf16Units = t.flatMap utf16Units → s = t := by
  have hne : ∀ c (rest : List Nat), utf16Units c ++ rest ≠ [] := by
    intro c rest
    unfold utf16Units
    split <;> exact List.cons_ne_nil _ _
  intro s
  induction s with
  | nil =>
    intro t _ _ h
    cases t with
    | nil => rfl
    | cons d t => exact absurd h.symm (hne d _)
  | cons c s ih =>
    intro t hs ht h
    cases t with
    | nil => exact absurd h (hne c _)
    | cons d t =>
      rw [List.flatMap_cons, List.flatMap_cons] at h
      have hc := hs c List.mem_cons_self
      have hd := ht d List.mem_cons_self
      have hs' : Encodable s := fun x hx => hs x (List.mem_cons_of_mem _ hx)
      have ht' : Encodable t := fun x hx => ht x (List.mem_cons_of_mem _ hx)
      unfold IsSurrogate at hc hd
      have hsplit : c = d ∧ s.flatMap utf16Units = t.flatMap utf16Units := by
        -- one unit against one, two against two; one against two cannot be
        have hone : ∀ {x : Nat}, x < 0x10000 → utf16Units x = [x] := fun h => if_pos h
        have htwo : ∀ {x : Nat}, ¬x < 0x10000 → utf16Units x =
            [0xD800 + (x - 0x10000) / 0x400, 0xDC00 + (x - 0x10000) % 0x400] := fun h => if_neg h
        by_cases hcs : c < 0x10000 <;> by_cases hds : d < 0x10000
        · rw [hone hcs, hone hds] at h
          simp only [List.cons_append, List.nil_append, List.cons.injEq] at h
          exact ⟨h.1, h.2⟩
        · rw [hone hcs, htwo hds] at h
          simp only [List.cons_append, List.nil_append, List.cons.injEq] at h
          omega
        · rw [htwo hcs, hone hds] at h
          simp only [List.cons_append, List.nil_append, List.cons.injEq] at h
          omega
        · rw [htwo hcs, htwo hds] at h
          simp only [List.cons_append, List.nil_append, List.cons.injEq] at h
          exact ⟨by omega, h.2.2⟩
      rw [hsplit.1, ih hs' ht' hsplit.2]

/-- Entries with distinct keys have one sorted order. -/
theorem sortEntries_of_perm {β : Type} {es es' : List (PyStr × β)} (hperm : es.Perm es')
    (hkeys : (es.map Prod.fst).Nodup) (hencodable : ∀ e ∈ es, Encodable e.1) :
    sortEntries es = sortEntries es' := by
  have hall : (sortEntries es).Perm (sortEntries es') :=
    (sortEntries_perm es).trans (hperm.trans (sortEntries_perm es').symm)
  refine hall.eq_of_pairwise ?_ (List.pairwise_insertionSort KeyLe es) (List.pairwise_insertionSort KeyLe es')
  intro a b ha hb hab hba
  have ha' := (sortEntries_perm es).mem_iff.1 ha
  have hb' := hperm.mem_iff.2 ((sortEntries_perm es').mem_iff.1 hb)
  have hunits : a.1.flatMap utf16Units = b.1.flatMap utf16Units := le_antisymm hab hba
  have hkey := utf16_injective (hencodable a ha') (hencodable b hb') hunits
  exact List.inj_on_of_nodup_map hkeys ha' hb' hkey

theorem objectText_of_perm {es es' : List (PyStr × PyStr)} (hkeys : (items.map Prod.fst).Nodup)
    (h : List.Forall₂ RendersEntry items es) (hperm : es.Perm es') :
    objectText es = objectText es' := by
  have hsame : items.map Prod.fst = es.map Prod.fst := by
    clear hkeys hperm
    induction h with
    | nil => rfl
    | cons hx _ ih => rw [List.map_cons, List.map_cons, hx.key, ih]
  have hencodable : ∀ e ∈ es, Encodable e.1 := by
    intro e he
    rcases exists_of_forall₂_right h he with ⟨x, hx⟩
    exact hx.encodable
  unfold objectText
  rw [sortEntries_of_perm hperm (hsame ▸ hkeys) hencodable]

/-! ## Insertion order -/

/-- The same value, with the entries of its dictionaries inserted in another order. -/
inductive Reordered : PyValue → PyValue → Prop where
  | refl (v : PyValue) : Reordered v v
  | list (ps : List (PyValue × PyValue)) (h : ∀ p ∈ ps, Reordered p.1 p.2) :
    Reordered (.list (ps.map Prod.fst)) (.list (ps.map Prod.snd))
  | tuple (ps : List (PyValue × PyValue)) (h : ∀ p ∈ ps, Reordered p.1 p.2) :
    Reordered (.tuple (ps.map Prod.fst)) (.tuple (ps.map Prod.snd))
  | dict (ps : List (PyStr × PyValue × PyValue)) (h : ∀ p ∈ ps, Reordered p.2.1 p.2.2)
    {as bs : List (PyStr × PyValue)} (ha : as.Perm (ps.map fun p => (p.1, p.2.1)))
    (hb : bs.Perm (ps.map fun p => (p.1, p.2.2))) : Reordered (.dict as) (.dict bs)
  | record (cls : String) (ps : List (PyStr × PyValue × PyValue)) (h : ∀ p ∈ ps, Reordered p.2.1 p.2.2) :
    Reordered (.record cls (ps.map fun p => (p.1, p.2.1))) (.record cls (ps.map fun p => (p.1, p.2.2)))

theorem Reordered.symm {w : PyValue} (h : Reordered v w) : Reordered w v := by
  induction h with
  | refl v => exact .refl v
  | list ps _ ih =>
    have hswap := Reordered.list (ps.map fun p => (p.2, p.1)) (by
      intro p hp
      rcases List.mem_map.1 hp with ⟨q, hq, rfl⟩
      exact ih q hq)
    rw [List.map_map, List.map_map] at hswap
    exact hswap
  | tuple ps _ ih =>
    have hswap := Reordered.tuple (ps.map fun p => (p.2, p.1)) (by
      intro p hp
      rcases List.mem_map.1 hp with ⟨q, hq, rfl⟩
      exact ih q hq)
    rw [List.map_map, List.map_map] at hswap
    exact hswap
  | dict ps _ ha hb ih =>
    refine .dict (ps.map fun p => (p.1, p.2.2, p.2.1)) ?_ ?_ ?_
    · intro p hp
      rcases List.mem_map.1 hp with ⟨q, hq, rfl⟩
      exact ih q hq
    · rw [List.map_map]
      exact hb
    · rw [List.map_map]
      exact ha
  | record cls ps _ ih =>
    have hswap := Reordered.record cls (ps.map fun p => (p.1, p.2.2, p.2.1)) (by
      intro p hp
      rcases List.mem_map.1 hp with ⟨q, hq, rfl⟩
      exact ih q hq)
    rw [List.map_map, List.map_map] at hswap
    exact hswap

/-- Both orders have the same text. -/
theorem Reordered.renders {w : PyValue} (h : Reordered v w) :
    ∀ {text : PyStr}, v.Valid → Renders v text → Renders w text := by
  -- a list of pairs, read on either side
  have hpairs : ∀ {ps : List (PyValue × PyValue)} {texts : List PyStr},
      (∀ p ∈ ps, ∀ {text : PyStr}, p.1.Valid → Renders p.1 text → Renders p.2 text) →
      PyValue.ValidItems (ps.map Prod.fst) → List.Forall₂ Renders (ps.map Prod.fst) texts →
      List.Forall₂ Renders (ps.map Prod.snd) texts := by
    intro ps texts ih hvalid hall
    rw [List.forall₂_map_left_iff] at hall ⊢
    refine (forall₂_mem hall).imp ?_
    rintro p text ⟨hp, htext⟩
    exact ih p hp ((PyValue.validItems_iff _).1 hvalid _ (List.mem_map_of_mem hp)) htext
  have hentries : ∀ {ps : List (PyStr × PyValue × PyValue)} {es : List (PyStr × PyStr)},
      (∀ p ∈ ps, ∀ {text : PyStr}, p.2.1.Valid → Renders p.2.1 text → Renders p.2.2 text) →
      PyValue.ValidEntries (ps.map fun p => (p.1, p.2.1)) →
      List.Forall₂ RendersEntry (ps.map fun p => (p.1, p.2.1)) es →
      List.Forall₂ RendersEntry (ps.map fun p => (p.1, p.2.2)) es := by
    intro ps es ih hvalid hall
    rw [List.forall₂_map_left_iff] at hall ⊢
    refine (forall₂_mem hall).imp ?_
    rintro p e ⟨hp, hkey, hencodable, htext⟩
    exact ⟨hkey, hencodable,
      ih p hp ((PyValue.validEntries_iff _).1 hvalid _ (List.mem_map.2 ⟨p, hp, rfl⟩)) htext⟩
  induction h with
  | refl v => exact fun _ h => h
  | list ps _ ih =>
    intro text hvalid h
    rcases renders_list_iff.1 h with ⟨texts, hall, rfl⟩
    exact renders_list_iff.2 ⟨texts, hpairs ih hvalid hall, rfl⟩
  | tuple ps _ ih =>
    intro text hvalid h
    rcases renders_list_iff.1 (renders_tuple_iff.1 h) with ⟨texts, hall, rfl⟩
    exact renders_tuple_iff.2 (renders_list_iff.2 ⟨texts, hpairs ih hvalid hall, rfl⟩)
  | @dict ps _ as bs ha hb ih =>
    intro text hvalid h
    rcases renders_dict_iff.1 h with ⟨es, hall, rfl⟩
    -- the texts of the entries follow their permutations
    rcases List.perm_comp_forall₂ ha.symm hall with ⟨es₁, hall₁, hperm₁⟩
    have hvalid₁ : PyValue.ValidEntries (ps.map fun p => (p.1, p.2.1)) :=
      (PyValue.validEntries_iff _).2 fun x hx => (PyValue.validEntries_iff _).1 hvalid.2 x (ha.mem_iff.2 hx)
    rcases List.perm_comp_forall₂ hb (hentries ih hvalid₁ hall₁) with ⟨es₂, hall₂, hperm₂⟩
    refine renders_dict_iff.2 ⟨es₂, hall₂, ?_⟩
    exact objectText_of_perm hvalid.1 hall (hperm₁.symm.trans hperm₂.symm)
  | record cls ps _ ih =>
    intro text hvalid h
    rcases renders_dict_iff.1 (renders_record_iff.1 h) with ⟨es, hall, rfl⟩
    exact renders_record_iff.2 (renders_dict_iff.2 ⟨es, hentries ih hvalid.2 hall, rfl⟩)

/-! ## Equal bytes -/

/-- Built from `None`, booleans, integers, strings, arrays and objects. -/
inductive Plain : PyValue → Prop where
  | none : Plain .none
  | bool (b : Bool) : Plain (.bool b)
  | int (n : Int) : Plain (.int n)
  | str (s : PyStr) : Plain (.str s)
  | list (items : List PyValue) (h : ∀ v ∈ items, Plain v) : Plain (.list items)
  | dict (items : List (PyStr × PyValue)) (h : ∀ x ∈ items, Plain x.2) : Plain (.dict items)

theorem Plain.primitive (h : Plain v) (hvalid : v.Valid) : Primitive v := by
  induction h with
  | none => exact .none
  | bool b => exact .bool b
  | int n => exact .int n
  | str s => exact .str s
  | list items _ ih =>
    have hall := (PyValue.validItems_iff items).1 hvalid
    exact .list items fun v hv => ih v hv (hall v hv)
  | dict items _ ih =>
    have hall := (PyValue.validEntries_iff items).1 hvalid.2
    exact .dict items hvalid.1 fun x hx => ih x hx (hall x hx)

theorem eqItems_of_forall₂ {as bs : List PyValue} (h : List.Forall₂ (fun a b => PyValue.eq a b = true) as bs) :
    PyValue.eqItems as bs = true := by
  induction h with
  | nil => rw [PyValue.eqItems]
  | cons hab _ ih => rw [PyValue.eqItems, hab, ih, Bool.and_self]

theorem eqEntries_of_lookup {as bs : List (PyStr × PyValue)}
    (h : ∀ x ∈ as, ∃ b, bs.lookup x.1 = some b ∧ PyValue.eq x.2 b = true) :
    PyValue.eqEntries as bs = true := by
  induction as with
  | nil => rw [PyValue.eqEntries]
  | cons x as ih =>
    rcases h x List.mem_cons_self with ⟨b, hlookup, heq⟩
    have hrest := ih fun y hy => h y (List.mem_cons_of_mem _ hy)
    rcases x with ⟨k, a⟩
    rw [PyValue.eqEntries, hlookup]
    dsimp only at heq ⊢
    rw [heq, hrest, Bool.and_self]

/-- Values that are read back as the same value are equal. -/
theorem eq_of_normal {w : PyValue} (hv : Plain v) (hw : Plain w) (hvalid : v.Valid) (hvalid' : w.Valid)
    (h : normal v = normal w) : PyValue.eq v w = true := by
  induction hv generalizing w with
  | none =>
    cases hw <;> cases h
    rw [PyValue.eq]
  | bool b =>
    cases hw <;> cases h
    simp [PyValue.eq, PyValue.eqNum, PyValue.num]
  | int n =>
    cases hw <;> cases h
    simp [PyValue.eq, PyValue.eqNum, PyValue.num]
  | str s =>
    cases hw <;> cases h
    simp [PyValue.eq]
  | list as _ ih =>
    cases hw with
    | list bs hbs =>
      rw [normal, normal, normalItems_eq, normalItems_eq, PyValue.list.injEq] at h
      have ha := (PyValue.validItems_iff as).1 hvalid
      have hb := (PyValue.validItems_iff bs).1 hvalid'
      have hmaps : List.Forall₂ Eq (as.map normal) (bs.map normal) := by
        rw [List.forall₂_eq_eq_eq]
        exact h
      have hall : List.Forall₂ (fun a b => normal a = normal b) as bs :=
        List.forall₂_map_right_iff.1 (List.forall₂_map_left_iff.1 hmaps)
      have hboth := (List.forall₂_and_left as bs).2
        ⟨fun _ ha => ha, (forall₂_mem hall.flip).flip⟩
      unfold PyValue.eq
      refine eqItems_of_forall₂ (hboth.imp ?_)
      rintro a b ⟨hamem, hbmem, heq⟩
      exact ih a hamem (hbs b hbmem) (ha a hamem) (hb b hbmem) heq
    | _ => cases h
  | dict as _ ih =>
    cases hw with
    | dict bs hbs =>
      rw [normal, normal, PyValue.dict.injEq] at h
      have ha := (PyValue.validEntries_iff as).1 hvalid.2
      have hb := (PyValue.validEntries_iff bs).1 hvalid'.2
      have hperm : (normalEntries as).Perm (normalEntries bs) :=
        (sortEntries_perm _).symm.trans (h ▸ sortEntries_perm _)
      have hlength : as.length = bs.length := by
        have := hperm.length_eq
        rwa [normalEntries_eq, normalEntries_eq, List.length_map, List.length_map] at this
      unfold PyValue.eq
      rw [decide_eq_true hlength, Bool.true_and]
      refine eqEntries_of_lookup fun x hx => ?_
      -- the entry of the other dictionary with the same key
      have hmem : (x.1, normal x.2) ∈ normalEntries bs := by
        rw [← hperm.mem_iff, normalEntries_eq]
        exact List.mem_map.2 ⟨x, hx, rfl⟩
      rw [normalEntries_eq] at hmem
      rcases List.mem_map.1 hmem with ⟨y, hy, heq⟩
      rw [Prod.mk.injEq] at heq
      refine ⟨y.2, lookup_of_mem hvalid'.1 ?_, ih x hx (hbs y hy) (ha x hx) (hb y hy) heq.2.symm⟩
      rw [← heq.1]
      exact hy
    | _ => cases h

/-! ## The normal form -/

/-- Reading canonical JSON and writing it again changes nothing; the order in which
entries were inserted does not matter; and the bytes determine a value without floats. -/
theorem canonicalJsonBytes_normalForm :
    (∀ v : PyValue.Any, ∀ bytes, canonicalJsonBytes v.val = .ok bytes →
      ∃ w, loads bytes = .ok w ∧ canonicalJsonBytes w = .ok bytes) ∧
    (∀ v w : PyValue.Any, Reordered v.val w.val → ∀ bytes,
      canonicalJsonBytes v.val = .ok bytes ↔ canonicalJsonBytes w.val = .ok bytes) ∧
    (∀ v w : PyValue.Any, Plain v.val → Plain w.val → ∀ bytes,
      canonicalJsonBytes v.val = .ok bytes → canonicalJsonBytes w.val = .ok bytes →
      PyValue.eq v.val w.val = true) := by
  have hdirection : ∀ {v w : PyValue} {bytes : Bytes}, v.Valid → Reordered v w →
      canonicalJsonBytes v = .ok bytes → canonicalJsonBytes w = .ok bytes := by
    intro v w bytes hvalid hvw h
    rcases canonicalJsonBytes_iff.1 h with ⟨text, htext, hbytes⟩
    exact canonicalJsonBytes_iff.2 ⟨text, hvw.renders hvalid htext, hbytes⟩
  refine ⟨?_, ?_, ?_⟩
  · intro v bytes h
    rcases loads_canonical v.2 h with ⟨p, _, _, hloads, hagain⟩
    exact ⟨normal p, hloads, hagain⟩
  · intro v w hvw bytes
    constructor
    · exact hdirection v.2 hvw
    · exact hdirection w.2 hvw.symm
  · intro v w hv hw bytes hvbytes hwbytes
    rcases loads_canonical v.2 hvbytes with ⟨p, hp, _, hploads, _⟩
    rcases loads_canonical w.2 hwbytes with ⟨q, hq, _, hqloads, _⟩
    rw [(hv.primitive v.2).primitive_eq] at hp
    rw [(hw.primitive w.2).primitive_eq] at hq
    cases hp
    cases hq
    exact eq_of_normal hv hw v.2 w.2 (Except.ok.inj (hploads.symm.trans hqloads))

/-- `{"b": 1, "a": [true, null]}` -/
def unsorted : PyValue.Any :=
  ⟨.dict [(str "b", .int 1), (str "a", .list [.bool true, .none])], by decide⟩

/-- `{"a": [true, null], "b": 1}` -/
def sorted : PyValue.Any :=
  ⟨.dict [(str "a", .list [.bool true, .none]), (str "b", .int 1)], by decide⟩

/-- `{"a":[true,null],"b":1}` -/
def sortedBytes : Bytes := (str "\x7b\"a\":[true,null],\"b\":1\x7d").map UInt8.ofNat

theorem canonicalJsonBytes_normalForm_unsorted :
    (∃ w, loads sortedBytes = .ok w ∧ canonicalJsonBytes w = .ok sortedBytes) ∧
    (canonicalJsonBytes unsorted.val = .ok sortedBytes ↔ canonicalJsonBytes sorted.val = .ok sortedBytes) ∧
    PyValue.eq unsorted.val sorted.val = true := by
  have hunsorted : canonicalJsonBytes unsorted.val = .ok sortedBytes := by decide +kernel
  have hsorted : canonicalJsonBytes sorted.val = .ok sortedBytes := by decide +kernel
  have hreordered : Reordered unsorted.val sorted.val := by
    refine .dict [(str "b", .int 1, .int 1), (str "a", .list [.bool true, .none], .list [.bool true, .none])]
      ?_ (List.Perm.refl _) (List.Perm.swap _ _ _)
    intro p hp
    simp only [List.mem_cons, List.not_mem_nil, or_false] at hp
    rcases hp with rfl | rfl <;> exact .refl _
  have hplain : Plain (.list [.bool true, .none]) := by
    refine .list _ fun v hv => ?_
    simp only [List.mem_cons, List.not_mem_nil, or_false] at hv
    rcases hv with rfl | rfl <;> constructor
  have hplains : ∀ items : List (PyStr × PyValue),
      (∀ x ∈ items, x.2 = .int 1 ∨ x.2 = .list [.bool true, .none]) → Plain (.dict items) := by
    intro items h
    refine .dict items fun x hx => ?_
    rcases h x hx with hx | hx <;> rw [hx]
    · exact .int 1
    · exact hplain
  refine ⟨canonicalJsonBytes_normalForm.1 unsorted sortedBytes hunsorted,
    canonicalJsonBytes_normalForm.2.1 unsorted sorted hreordered sortedBytes,
    canonicalJsonBytes_normalForm.2.2 unsorted sorted (hplains _ ?_) (hplains _ ?_) sortedBytes
      hunsorted hsorted⟩
  · simp
  · simp

end Json

end LeoFlow
