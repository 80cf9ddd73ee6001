import LeoFlow.Core.JsonRoundTrip

/-!
# LeoFlow.Core.JsonSize — the length and the nesting of canonical JSON

`size v` is the number of bytes of the canonical JSON of a value, counted over the value. What is read
back from canonical JSON is nested as deep as what was written.
-/

namespace LeoFlow

namespace Json

/-! ## Length -/

/-- `len(text.encode("utf-8"))` -/
def byteLength (text : PyStr) : Nat := (text.flatMap utf8Char).length

mutual

/-- The bytes of a value; a container has a comma or a bracket after every item. -/
def size : PyValue → Nat
  | .none => 4
  | .bool b => if b then 4 else 5
  | .int n => byteLength (if n < 0 then 45 :: PyFloat.natStr n.natAbs else PyFloat.natStr n.natAbs)
  | .float f =>
    match ecmascriptNumber f with
    | .ok text => byteLength text
    | .error _ => 0
  | .str s => byteLength (quote s)
  | .list items | .tuple items => max 2 (1 + sizeItems items)
  | .dict items | .record _ items => max 2 (1 + sizeEntries items)

def sizeItems : List PyValue → Nat
  | [] => 0
  | v :: vs => size v + 1 + sizeItems vs

def sizeEntries : List (PyStr × PyValue) → Nat
  | [] => 0
  | (k, v) :: xs => byteLength (quote k) + 1 + size v + 1 + sizeEntries xs

end

theorem sizeItems_eq (items : List PyValue) : sizeItems items = (items.map fun v => size v + 1).sum := by
  induction items with
  | nil => rfl
  | cons v vs ih => rw [sizeItems, ih, List.map_cons, List.sum_cons]

theorem sizeEntries_eq (items : List (PyStr × PyValue)) :
    sizeEntries items = (items.map fun x => byteLength (quote x.1) + 1 + size x.2 + 1).sum := by
  induction items with
  | nil => rfl
  | cons x xs ih => rw [sizeEntries, ih, List.map_cons, List.sum_cons]

theorem byteLength_append (a b : PyStr) : byteLength (a ++ b) = byteLength a + byteLength b := by
  unfold byteLength
  rw [List.flatMap_append, List.length_append]

/-- An ASCII character takes one byte. -/
theorem byteLength_cons {c : Nat} (hc : c < 0x80) (s : PyStr) : byteLength (c :: s) = 1 + byteLength s := by
  unfold byteLength utf8Char
  rw [List.flatMap_cons, if_pos hc, List.length_append]
  rfl

theorem byteLength_joinComma {ts : List PyStr} (h : ts ≠ []) :
    byteLength (joinComma ts) + 1 = (ts.map fun t => byteLength t + 1).sum := by
  induction ts with
  | nil => exact absurd rfl h
  | cons t ts ih =>
    cases ts with
    | nil => simp [joinComma]
    | cons t' ts =>
      have hrest := ih (List.cons_ne_nil _ _)
      rw [joinComma_cons, byteLength_append, byteLength_cons (by decide), List.map_cons, List.sum_cons, ← hrest]
      omega

/-- The joined parts between brackets. -/
theorem byteLength_bracket {opening closing : Nat} (hopening : opening < 0x80) (hclosing : closing < 0x80)
    (ts : List PyStr) : byteLength (opening :: (joinComma ts ++ [closing])) =
      max 2 (1 + (ts.map fun t => byteLength t + 1).sum) := by
  rw [byteLength_cons hopening, byteLength_append, byteLength_cons hclosing]
  cases ts with
  | nil => rfl
  | cons t ts =>
    have hjoin := byteLength_joinComma (List.cons_ne_nil t ts)
    have hnil : byteLength [] = 0 := rfl
    rw [← hjoin, hnil]
    omega

/-- Items that correspond have the same sum. -/
theorem sum_of_forall₂ {α β : Type} {R : α → β → Prop} {f : α → Nat} {g : β → Nat}
    (hfg : ∀ a b, R a b → f a = g b) {as : List α} {bs : List β} (h : List.Forall₂ R as bs) :
    (as.map f).sum = (bs.map g).sum := by
  induction h with
  | nil => rfl
  | cons hab _ ih => rw [List.map_cons, List.map_cons, List.sum_cons, List.sum_cons, hfg _ _ hab, ih]

theorem byteLength_encodeCanonical (v : PyValue) : ∀ {text : PyStr}, encodeCanonical v = .ok text →
    byteLength text = size v := by
  induction v with
  | none =>
    intro text h
    cases h
    rfl
  | bool b =>
    intro text h
    cases b <;> cases h <;> rfl
  | int n =>
    intro text h
    unfold encodeCanonical intStr at h
    dsimp only at h
    split at h
    · cases h
    · cases h
      rfl
  | float f =>
    intro text h
    have h : ecmascriptNumber f = .ok text := h
    rw [size, h]
  | str s =>
    intro text h
    unfold encodeCanonical encodeStr at h
    split at h
    · cases h
      rfl
    · cases h
  | tuple items _ =>
    intro text h
    cases h
  | record cls fields _ =>
    intro text h
    cases h
  | list items ih =>
    intro text h
    obtain ⟨ts, hts, rfl⟩ := encodeCanonical_list h
    have hall : List.Forall₂ (fun v t => size v = byteLength t) items ts := by
      refine (forall₂_mem (encodeItems_ok hts)).imp ?_
      rintro v t ⟨hmem, hv⟩
      exact (ih v hmem hv).symm
    rw [byteLength_bracket (by decide) (by decide), size, sizeItems_eq,
      sum_of_forall₂ (fun _ _ h => by rw [h]) hall]
  | dict items ih =>
    intro text h
    obtain ⟨es, hes, rfl⟩ := encodeCanonical_dict h
    have hall : List.Forall₂ (fun (x : PyStr × PyValue) (e : PyStr × PyStr) =>
        x.1 = e.1 ∧ size x.2 = byteLength e.2) items es := by
      refine (forall₂_mem (encodeEntries_ok hes)).imp ?_
      rintro x e ⟨hmem, hkey, _, hv⟩
      exact ⟨hkey, (ih x hmem hv).symm⟩
    have hsum : (items.map fun x => byteLength (quote x.1) + 1 + size x.2 + 1).sum =
        (es.map fun e => byteLength (entryText e) + 1).sum := by
      refine sum_of_forall₂ ?_ hall
      rintro x e ⟨hkey, hv⟩
      unfold entryText
      rw [byteLength_append, byteLength_cons (by decide), hkey, hv]
      omega
    have hperm := ((sortEntries_perm es).map fun e => byteLength (entryText e) + 1).sum_eq
    rw [byteLength_bracket (by decide) (by decide), List.map_map, size, sizeEntries_eq, hsum, ← hperm]
    rfl

/-- The length of canonical JSON of a value that needs no conversion. -/
theorem length_canonicalJsonBytes {v : PyValue} {bytes : Bytes} (hv : Primitive v)
    (h : canonicalJsonBytes v = .ok bytes) : bytes.length = size v := by
  obtain ⟨p, text, hp, htext, hbytes⟩ := canonicalJsonBytes_text h
  cases hp.symm.trans hv.primitive_eq
  rw [← byteLength_encodeCanonical v htext]
  unfold encodeUtf8 at hbytes
  split at hbytes
  · cases hbytes
    rfl
  · cases hbytes

/-! ## Nesting -/

theorem depthItems_le {items : List PyValue} {n : Nat} : depthItems items ≤ n ↔ ∀ v ∈ items, depth v ≤ n := by
  induction items with
  | nil => simp [depthItems]
  | cons v vs ih => simp [depthItems, ih]

theorem depthEntries_le {items : List (PyStr × PyValue)} {n : Nat} :
    depthEntries items ≤ n ↔ ∀ x ∈ items, depth x.2 ≤ n := by
  induction items with
  | nil => simp [depthEntries]
  | cons x xs ih => simp [depthEntries, ih]

theorem depth_normal (v : PyValue) : depth (normal v) = depth v := by
  induction v with
  | none | bool _ | int _ | str _ | tuple _ _ | record _ _ _ => rfl
  | float f => exact depth_readFloat f
  | list items ih =>
    have hitems : depthItems (normalItems items) = depthItems items := by
      refine Nat.le_antisymm (depthItems_le.2 ?_) (depthItems_le.2 ?_)
      · rw [normalItems_eq, List.forall_mem_map]
        intro v hv
        rw [ih v hv]
        exact depthItems_le.1 le_rfl v hv
      · intro v hv
        rw [← ih v hv]
        exact depthItems_le.1 le_rfl _ (normalItems_eq items ▸ List.mem_map_of_mem hv)
    rw [normal, depth, depth, hitems]
  | dict items ih =>
    have hentries : depthEntries (sortEntries (normalEntries items)) = depthEntries items := by
      have hmem : ∀ x, x ∈ sortEntries (normalEntries items) ↔ ∃ y ∈ items, (y.1, normal y.2) = x := by
        intro x
        rw [(sortEntries_perm _).mem_iff, normalEntries_eq, List.mem_map]
      refine Nat.le_antisymm (depthEntries_le.2 ?_) (depthEntries_le.2 ?_)
      · intro x hx
        obtain ⟨y, hy, rfl⟩ := (hmem x).1 hx
        rw [ih y hy]
        exact depthEntries_le.1 le_rfl y hy
      · intro y hy
        rw [← ih y hy]
        exact depthEntries_le.1 le_rfl (y.1, normal y.2) ((hmem _).2 ⟨y, hy, rfl⟩)
    rw [normal, depth, depth, hentries]

end Json

end LeoFlow
