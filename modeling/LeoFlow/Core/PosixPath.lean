import LeoFlow.Core.Str

/-!
# LeoFlow.Core.PosixPath — `PurePosixPath`

A path is its root and the parts below it. Empty parts and single dots are dropped
when a path is read, so that only some texts are the text of a path.
-/

namespace LeoFlow

/-- A `PurePosixPath`: the root, empty when the path is relative, and the parts below it. -/
structure PosixPath where
  root : PyStr
  tail : List PyStr
deriving DecidableEq

namespace PosixPath

/-- Three slashes or more are one, two are kept. -/
def rootOf : PyStr → PyStr
  | 47 :: 47 :: 47 :: _ => [47]
  | 47 :: 47 :: _ => [47, 47]
  | 47 :: _ => [47]
  | _ => []

/-- `PurePosixPath(value)` -/
def parse (value : PyStr) : PosixPath where
  root := rootOf value
  tail := (value.splitOn 47).filter fun part => part ≠ [] ∧ part ≠ [46]

/-- `str(path)` -/
def toStr (p : PosixPath) : PyStr :=
  if p.root = [] ∧ p.tail = [] then [46] else p.root ++ [47].intercalate p.tail

/-- `path.parts` -/
def parts (p : PosixPath) : List PyStr := if p.root = [] then p.tail else p.root :: p.tail

/-- `path.is_absolute()` -/
@[reducible] def IsAbsolute (p : PosixPath) : Prop := p.root ≠ []

/-- `path.parent`: a root is its own parent. -/
def parent (p : PosixPath) : PosixPath := { p with tail := p.tail.dropLast }

/-- `path / other` -/
def join (p other : PosixPath) : PosixPath :=
  if other.IsAbsolute then other else { p with tail := p.tail ++ other.tail }

example : (parse (str "a/./b//c.json")).parent.join (parse (str "d.iq")) = parse (str "a/b/d.iq") := by
  decide +kernel

end PosixPath

end LeoFlow
