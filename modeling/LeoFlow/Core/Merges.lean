import Mathlib

/-!
# LeoFlow.Core.Merges — a list dealt out in order

`Merges xs ys zs`: every item of `zs` went to `xs` or to `ys`, once, and both keep the
order of `zs`.
-/

namespace LeoFlow

inductive Merges {α : Type} : List α → List α → List α → Prop where
  | nil : Merges [] [] []
  | left {xs ys zs : List α} (a : α) : Merges xs ys zs → Merges (xs ++ [a]) ys (zs ++ [a])
  | right {xs ys zs : List α} (a : α) : Merges xs ys zs → Merges xs (ys ++ [a]) (zs ++ [a])

namespace Merges

variable {α : Type} {xs ys zs : List α}

end Merges

end LeoFlow
