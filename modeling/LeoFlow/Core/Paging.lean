import Mathlib

/-!
# LeoFlow.Core.Paging — pages of a sorted list behind a cursor

A cursor is the key of the last item handed out. A page is what follows it, cut at a limit, with the cursor of the
next page when something is left; `sweep` follows the cursors. A call may have room for nothing: it hands out nothing
and returns the cursor it was given.
-/

namespace LeoFlow

namespace Paging

variable {α κ : Type} [LinearOrder κ] (key : α → κ)

/-- The cursor after the first `i` items. -/
def cursor (xs : List α) (i : Nat) : Option κ := ((xs.take i).getLast?).map key

/-- What follows a cursor. -/
def after (xs : List α) (c : Option κ) : List α := xs.filter fun x => ∀ k ∈ c, k < key x

def page (xs : List α) (c : Option κ) (limit : Nat) : List α × Option κ :=
  let selected := (after key xs c).take limit
  match selected.getLast? with
  | none => ([], none)
  | some last => (selected, if ∃ x ∈ xs, key last < key x then some (key last) else none)

/-- One call with this much room. -/
def call (xs : List α) (c : Option κ) (room : Nat) : List α × Option κ :=
  if room = 0 then ([], c) else page key xs c room

/-- Calls with these rooms, following the cursor: what they hand out, once the cursor is absent. -/
def sweep (xs : List α) : List Nat → Option κ → Option (List α)
  | [], _ => none
  | room :: rooms, c =>
    match call key xs c room with
    | (selected, none) => some selected
    | (selected, some c') => (sweep xs rooms (some c')).map (selected ++ ·)

variable {key} {xs : List α}

omit [LinearOrder κ] in
theorem cursor_eq_some {i : Nat} (hi : 0 < i) (hlen : i ≤ xs.length) :
    cursor key xs i = some (key (xs.get ⟨i - 1, by omega⟩)) := by
  unfold cursor
  rw [List.getLast?_take, if_neg (by omega), List.getElem?_eq_getElem (by omega)]
  rfl

/-- A key that splits a list is a cursor between the parts. -/
theorem after_split {k : κ} {before behind : List α} (hbefore : ∀ x ∈ before, key x ≤ k)
    (hbehind : ∀ x ∈ behind, k < key x) : after key (before ++ behind) (some k) = behind := by
  have hnone : before.filter (fun x => ∀ k' ∈ some k, k' < key x) = [] := by
    rw [List.filter_eq_nil_iff]
    intro x hx
    simpa using hbefore x hx
  have hall : behind.filter (fun x => ∀ k' ∈ some k, k' < key x) = behind := by
    rw [List.filter_eq_self]
    intro x hx
    simpa using hbehind x hx
  rw [after, List.filter_append, hnone, hall, List.nil_append]

/-- Behind the cursor after `i` items is the rest. -/
theorem after_cursor (h : xs.Pairwise (fun x y => key x < key y)) {i : Nat} (hlen : i ≤ xs.length) :
    after key xs (cursor key xs i) = xs.drop i := by
  rcases Nat.eq_zero_or_pos i with rfl | hi
  · simp [after, cursor]
  · have hrel := List.pairwise_iff_getElem.1 h
    have hsplit : after key (xs.take i ++ xs.drop i) (some (key (xs.get ⟨i - 1, by omega⟩))) = xs.drop i := by
      apply after_split
      · intro x hx
        rcases List.mem_take_iff_getElem.1 hx with ⟨j, hj, rfl⟩
        rcases Nat.eq_or_lt_of_le (show j ≤ i - 1 by omega) with rfl | hlt
        · exact le_rfl
        · exact le_of_lt (hrel j (i - 1) (by omega) (by omega) hlt)
      · intro x hx
        rcases List.mem_drop_iff_getElem.1 hx with ⟨j, hj, rfl⟩
        exact hrel (i - 1) (i + j) (by omega) (by omega) (by omega)
    rw [List.take_append_drop] at hsplit
    rw [cursor_eq_some hi hlen, hsplit]

/-- A page after `i` items. -/
theorem page_cursor (h : xs.Pairwise (fun x y => key x < key y)) {i limit : Nat} (hlen : i ≤ xs.length)
    (hlimit : 0 < limit) :
    page key xs (cursor key xs i) limit =
      ((xs.drop i).take limit, if i + limit < xs.length then cursor key xs (i + limit) else none) := by
  unfold page
  rw [after_cursor h hlen]
  simp only
  rcases Nat.eq_or_lt_of_le hlen with rfl | hlt
  · -- nothing is left
    rw [List.drop_length, List.take_nil, List.getLast?_nil, if_neg (by omega)]
  · have hlast : ((xs.drop i).take limit).getLast? = some (xs.get ⟨min (i + limit) xs.length - 1, by omega⟩) := by
      rw [List.getLast?_take, if_neg (by omega), List.getElem?_drop]
      by_cases hfits : i + limit ≤ xs.length
      · rw [show i + (limit - 1) = min (i + limit) xs.length - 1 by omega, List.getElem?_eq_getElem (by omega)]
        rfl
      · rw [List.getElem?_eq_none (by omega), List.getLast?_drop, if_neg (by omega)]
        simp only [Option.none_or]
        have hindex : min (i + limit) xs.length - 1 = xs.length - 1 := by omega
        rw [List.getLast?_eq_getElem?, List.getElem?_eq_getElem (by omega)]
        simp only [hindex, List.get_eq_getElem]
    rw [hlast]
    simp only [Prod.mk.injEq, true_and]
    by_cases hmore : i + limit < xs.length
    · have hleft : ∃ x ∈ xs, key (xs.get ⟨min (i + limit) xs.length - 1, by omega⟩) < key x :=
        ⟨xs[i + limit], List.getElem_mem _, List.pairwise_iff_getElem.1 h _ _ (by omega) _ (by omega)⟩
      have hindex : min (i + limit) xs.length - 1 = i + limit - 1 := by omega
      rw [if_pos hleft, if_pos hmore, cursor_eq_some (by omega) (by omega)]
      simp only [hindex]
    · rw [if_neg hmore, if_neg]
      rintro ⟨x, hx, hkey⟩
      rcases List.mem_iff_getElem.1 hx with ⟨j, hj, rfl⟩
      rcases Nat.eq_or_lt_of_le (show j ≤ min (i + limit) xs.length - 1 by omega) with rfl | hlt'
      · exact lt_irrefl _ hkey
      · exact lt_asymm hkey (List.pairwise_iff_getElem.1 h j _ hj (by omega) hlt')

/-- The next cursor is the one that was given, or the key of an item. -/
theorem call_cursor {c : Option κ} {room : Nat} {c' : κ} (h : (call key xs c room).2 = some c') :
    c = some c' ∨ ∃ x ∈ xs, key x = c' := by
  unfold call at h
  split at h
  · exact Or.inl h
  · unfold page at h
    simp only at h
    split at h
    · cases h
    · rename_i last hlast
      simp only at h
      split at h
      · have hmem := List.mem_of_getLast? hlast
        exact Or.inr ⟨last, (List.mem_filter.1 (List.mem_of_mem_take hmem)).1, Option.some.inj h⟩
      · cases h

/-- From the cursor after some items, the rest is handed out once there has been room for it. -/
theorem sweep_cursor (h : xs.Pairwise (fun x y => key x < key y)) {i : Nat} (hi : 0 < i) (hlen : i < xs.length)
    (rooms : List Nat) :
    sweep key xs rooms (cursor key xs i) = if xs.length ≤ i + rooms.sum then some (xs.drop i) else none := by
  induction rooms generalizing i with
  | nil => rw [sweep, if_neg (by simpa using hlen)]
  | cons room rooms ih =>
    rw [sweep, call, List.sum_cons]
    by_cases hroom : room = 0
    · rw [if_pos hroom, cursor_eq_some hi (by omega)]
      simp only
      rw [← cursor_eq_some hi (by omega), ih hi hlen]
      subst hroom
      rw [Nat.zero_add]
      split <;> simp
    · rw [if_neg hroom, page_cursor h (by omega) (by omega)]
      by_cases hmore : i + room < xs.length
      · rw [if_pos hmore, cursor_eq_some (by omega) (by omega)]
        simp only
        rw [← cursor_eq_some (by omega) (by omega), ih (by omega) hmore, ← Nat.add_assoc]
        split
        · rw [Option.map_some, ← List.drop_drop, List.take_append_drop]
        · rfl
      · rw [if_neg hmore, if_pos (by omega)]
        simp only
        rw [List.take_of_length_le (by rw [List.length_drop]; omega)]

/-- From no cursor, the first call must have room; then everything is handed out once there has been room for it. -/
theorem sweep_none (h : xs.Pairwise (fun x y => key x < key y)) (room : Nat) (rooms : List Nat) :
    sweep key xs (room :: rooms) none =
      if room = 0 then some []
      else if xs.length ≤ room + rooms.sum then some xs else none := by
  have hstart : (none : Option κ) = cursor key xs 0 := by simp [cursor]
  rw [sweep, call]
  by_cases hroom : room = 0
  · rw [if_pos hroom, if_pos hroom]
  · rw [if_neg hroom, if_neg hroom, hstart, page_cursor h (Nat.zero_le _) (by omega), Nat.zero_add, List.drop_zero]
    by_cases hmore : room < xs.length
    · rw [if_pos hmore, cursor_eq_some (by omega) (by omega)]
      simp only
      rw [← cursor_eq_some (by omega) (by omega), sweep_cursor h (by omega) hmore]
      split
      · rw [Option.map_some, List.take_append_drop]
      · rfl
    · rw [if_neg hmore, if_pos (by omega)]
      simp only
      rw [List.take_of_length_le (by omega)]

end Paging

end LeoFlow
