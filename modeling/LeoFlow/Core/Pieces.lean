import Mathlib

/-!
# LeoFlow.Core.Pieces — ranges of a sequence that is kept in pieces

A sequence that is the concatenation of `pieces`. What a range of it takes from each
piece, one after the other, is the range itself.
-/

namespace LeoFlow

namespace Pieces

variable {α : Type}

/-- What a range of the whole takes from each piece; the range is counted from the first piece. -/
def cut : List (List α) → Nat → Nat → List α
  | [], _, _ => []
  | piece :: pieces, start, stop =>
    piece.extract start stop ++ cut pieces (start - piece.length) (stop - piece.length)

theorem extract_append (front back : List α) (start stop : Nat) :
    (front ++ back).extract start stop =
      front.extract start stop ++ back.extract (start - front.length) (stop - front.length) := by
  have hrest : stop - start - (front.length - start) = stop - front.length - (start - front.length) := by
    omega
  simp only [List.extract_eq_take_drop, List.drop_append, List.take_append, List.length_drop]
  rw [hrest]

/-- The parts taken from the pieces are the range of the whole. -/
theorem cut_eq_extract (pieces : List (List α)) (start stop : Nat) :
    cut pieces start stop = pieces.flatten.extract start stop := by
  induction pieces generalizing start stop with
  | nil => simp [cut]
  | cons piece pieces ih =>
    rw [List.flatten_cons, extract_append, cut, ih]

/-- A range that ends before the pieces takes nothing from them. -/
theorem cut_zero (pieces : List (List α)) (start : Nat) : cut pieces start 0 = [] := by
  rw [cut_eq_extract]
  simp

/-- A range that lies inside the sequence is taken in full. -/
theorem length_extract {xs : List α} {start stop : Nat} (h : stop ≤ xs.length) :
    (xs.extract start stop).length = stop - start := by
  simp only [List.extract_eq_take_drop, List.length_take, List.length_drop]
  omega

end Pieces

end LeoFlow
