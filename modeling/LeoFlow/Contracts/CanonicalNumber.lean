import LeoFlow.Contracts.CanonicalJson
import LeoFlow.Contracts.Capture
import LeoFlow.Core.Numbers

/-!
# LeoFlow.Contracts.CanonicalNumber — equal numbers in canonical JSON

`0`, `0.0` and `-0.0` are equal and have one canonical text, and so have `1` and `1.0`.
A dictionary or dataclass has the same digest whichever of them it holds.
-/

namespace LeoFlow

namespace Json

/-- Two values have the same canonical texts. -/
def SameText (v w : PyValue) : Prop := ∀ text, Renders v text ↔ Renders w text

theorem SameText.refl (v : PyValue) : SameText v v := fun _ => Iff.rfl

variable {v w : PyValue}

theorem SameText.symm (h : SameText v w) : SameText w v := fun text => (h text).symm

theorem SameText.trans {u : PyValue} (h : SameText u v) (h' : SameText v w) : SameText u w :=
  fun text => (h text).trans (h' text)

/-- One entry of a dictionary is exchanged. -/
theorem forall₂_exchange {β : Type} {R : PyStr × PyValue → β → Prop} {x y : PyStr × PyValue} (hxy : ∀ e, R x e ↔ R y e)
    (before after : List (PyStr × PyValue)) (es : List β) :
    List.Forall₂ R (before ++ x :: after) es ↔ List.Forall₂ R (before ++ y :: after) es := by
  induction before generalizing es with
  | nil =>
    rw [List.nil_append, List.nil_append, List.forall₂_cons_left_iff, List.forall₂_cons_left_iff]
    simp only [hxy]
  | cons z before ih =>
    rw [List.cons_append, List.cons_append, List.forall₂_cons_left_iff, List.forall₂_cons_left_iff]
    simp only [ih]

theorem SameText.dict (h : SameText v w) (before after : List (PyStr × PyValue)) (key : PyStr) :
    SameText (.dict (before ++ (key, v) :: after)) (.dict (before ++ (key, w) :: after)) := by
  intro text
  have hentry : ∀ e, RendersEntry (key, v) e ↔ RendersEntry (key, w) e := by
    intro e
    constructor
    · rintro ⟨hkey, hencodable, hrenders⟩
      exact ⟨hkey, hencodable, (h _).1 hrenders⟩
    · rintro ⟨hkey, hencodable, hrenders⟩
      exact ⟨hkey, hencodable, (h _).2 hrenders⟩
  rw [renders_dict_iff, renders_dict_iff]
  simp only [forall₂_exchange hentry before after]

theorem SameText.object (h : SameText v w) (before after : List (String × PyValue)) (key : String) :
    SameText (.object (before ++ (key, v) :: after)) (.object (before ++ (key, w) :: after)) := by
  unfold PyValue.object
  rw [List.map_append, List.map_append, List.map_cons, List.map_cons]
  exact h.dict _ _ _

theorem SameText.dataclass (h : SameText v w) (cls : String) (before after : List (String × PyValue)) (key : String) :
    SameText (.dataclass cls (before ++ (key, v) :: after)) (.dataclass cls (before ++ (key, w) :: after)) := by
  intro text
  exact renders_record_iff.trans ((h.object before after key text).trans renders_record_iff.symm)

/-- The values of the fields are exchanged one by one. -/
theorem SameText.fields {cls : String} {xs ys : List (String × PyValue)}
    (h : List.Forall₂ (fun x y => x.1 = y.1 ∧ SameText x.2 y.2) xs ys) : SameText (.dataclass cls xs) (.dataclass cls ys) := by
  have hrun : ∀ before, SameText (.dataclass cls (before ++ xs)) (.dataclass cls (before ++ ys)) := by
    induction h with
    | nil => exact fun _ => .refl _
    | @cons x y xs ys hxy _ ih =>
      intro before
      obtain ⟨key, v⟩ := x
      obtain ⟨key', w⟩ := y
      obtain ⟨rfl, hvalue⟩ := hxy
      have hrest := ih (before ++ [(key, w)])
      rw [List.append_assoc, List.append_assoc, List.singleton_append, List.singleton_append] at hrest
      exact (hvalue.dataclass cls before xs key).trans hrest
  exact hrun []

theorem SameText.digest (h : SameText v w) {d : Digest} (hv : canonicalDigest v = .ok d) :
    canonicalDigest w = .ok d := by
  rcases map_ok hv with ⟨bytes, hbytes, rfl⟩
  rcases canonicalJsonBytes_iff.1 hbytes with ⟨text, htext, hutf8⟩
  have hw : canonicalJsonBytes w = .ok bytes := canonicalJsonBytes_iff.2 ⟨text, (h text).1 htext, hutf8⟩
  unfold canonicalDigest
  rw [hw]
  rfl

/-! ## Numbers -/

theorem renders_zero {f : PyFloat} (h : f.toRat = some 0) : SameText (.float f) (.int 0) := by
  cases f with
  | nan => cases h
  | inf => cases h
  | finite s m e hc =>
    have hm := PyFloat.toRat_zero_iff.1 h
    subst hm
    intro text
    have hprimitive : primitive (.float (.finite s 0 e hc)) = .ok (.int 0) := by
      simp [primitive]
    unfold Renders
    rw [hprimitive]
    rfl

theorem renders_one : SameText (.float (PyFloat.ofRatio false 1 1)) (.int 1) := by
  intro text
  have htext : encodeCanonical (.float (PyFloat.ofRatio false 1 1)) = encodeCanonical (.int 1) := by decide +kernel
  have hprimitive : primitive (.float (PyFloat.ofRatio false 1 1)) = .ok (.float (PyFloat.ofRatio false 1 1)) := rfl
  constructor
  · rintro ⟨p, hp, hrenders⟩
    rw [hprimitive] at hp
    cases hp
    exact ⟨.int 1, rfl, htext ▸ hrenders⟩
  · rintro ⟨p, hp, hrenders⟩
    cases hp
    exact ⟨_, hprimitive, htext.trans hrenders⟩

theorem eq_one {f : PyFloat} (h : f.toRat = some 1) : f = PyFloat.ofRatio false 1 1 :=
  PyFloat.eq_of_toRat h (by decide +kernel) one_ne_zero

/-- An integer between zero and one, against an equal float. -/
theorem sameText_int_float {n : Int} {f : PyFloat} (h0 : 0 ≤ n) (h1 : n ≤ 1) (h : f.toRat = some (n : ℚ)) :
    SameText (.float f) (.int n) := by
  rcases (by omega : n = 0 ∨ n = 1) with rfl | rfl
  · exact renders_zero (by rw [h]; norm_num)
  · have hf : f = PyFloat.ofRatio false 1 1 := eq_one (by rw [h]; norm_num)
    rw [hf]
    exact renders_one

/-- Equal numbers between zero and one have one text. -/
theorem sameText_num {a b : Num} (ha : a.Finite) (hb : b.Finite) (h : a.rank = b.rank) (h0 : 0 ≤ a.rank)
    (h1 : a.rank ≤ 1) : SameText a.toValue b.toValue := by
  have hra := Num.toRat_rank ha
  have hrb := Num.toRat_rank hb
  have hint : ∀ n : Int, (n : ℚ) = a.rank → 0 ≤ n ∧ n ≤ 1 := by
    intro n hn
    rw [← hn] at h0 h1
    exact ⟨by exact_mod_cast h0, by exact_mod_cast h1⟩
  cases a with
  | int n =>
    have hn : (n : ℚ) = Num.rank (.int n) := Option.some.inj hra
    cases b with
    | int k =>
      have hk : (k : ℚ) = Num.rank (.int k) := Option.some.inj hrb
      have hnk : n = k := by exact_mod_cast hn.trans (h.trans hk.symm)
      rw [hnk]
      exact .refl _
    | float g =>
      rw [← h, ← hn] at hrb
      exact (sameText_int_float (hint n hn).1 (hint n hn).2 hrb).symm
  | float f =>
    cases b with
    | int k =>
      have hk : (k : ℚ) = Num.rank (.int k) := Option.some.inj hrb
      rw [h, ← hk] at hra
      exact sameText_int_float (hint k (hk.trans h.symm)).1 (hint k (hk.trans h.symm)).2 hra
    | float g =>
      by_cases hzero : Num.rank (.float f) = 0
      · exact (renders_zero (hra.trans (by rw [hzero]))).trans
          (renders_zero (hrb.trans (by rw [← h, hzero]))).symm
      · rw [← h] at hrb
        have hfg : f = g := PyFloat.eq_of_toRat hra hrb hzero
        rw [hfg]
        exact .refl _

/-- A finite float has a text. -/
theorem renderable_float {f : PyFloat} (h : f.toRat.isSome) : Renderable (.float f) := by
  cases f with
  | nan => cases h
  | inf => cases h
  | finite s m e hc =>
    by_cases hm : m = 0
    · rcases renderable_int.2 (show ShortInt 0 by decide) with ⟨text, htext⟩
      exact ⟨text, (renders_zero (PyFloat.toRat_zero_iff.2 hm) text).2 htext⟩
    · rcases ecmascriptNumber_numeral s hm hc with ⟨n, htext, -⟩
      exact ⟨_, .float (.finite s m e hc), by simp [primitive, hm], htext⟩

/-- A number between zero and one has a text. -/
theorem renderable_num {a : Num} (ha : a.Finite) (h0 : 0 ≤ a.rank) (h1 : a.rank ≤ 1) : Renderable a.toValue := by
  cases a with
  | int n =>
    have hlow : 0 ≤ n := by exact_mod_cast (show (0 : ℚ) ≤ n from h0)
    have hhigh : n ≤ 1 := by exact_mod_cast (show (n : ℚ) ≤ 1 from h1)
    have hone : ShortInt 1 := by decide
    exact renderable_int.2 (hone.mono (by omega))
  | float f => exact renderable_float ha

end Json

end LeoFlow
