import LeoFlow.Contracts.Capture
import LeoFlow.Core.JsonBack

/-!
# LeoFlow.Contracts.Interpreter — the stack of the interpreter

`json.loads` and `canonical_json_bytes` call themselves for every list or object inside
another one. How deep they may go depends on the interpreter and on who calls: that is a
parameter here. The other calls nest no deeper than the contracts do.
-/

namespace LeoFlow

/-- What the interpreter has stack for; Python raises `RecursionError` elsewhere. -/
structure Stack where
  /-- `json.loads` of these bytes -/
  scans : Bytes → Bool
  /-- `canonical_json_bytes` of this value -/
  encodes : PyValue → Bool

def recursionError : PyError := ⟨.recursion_error, "maximum recursion depth exceeded"⟩

/-- `json.loads` -/
def Stack.loads (stack : Stack) (data : Bytes) : Except PyError PyValue :=
  if stack.scans data then Json.loads data else .error recursionError

/-- `json.loads(data, object_pairs_hook=_unique_object)` -/
def Stack.loadsUnique (stack : Stack) (duplicate : PyError) (data : Bytes) : Except PyError PyValue :=
  if stack.scans data then Json.loadsWith (Json.uniqueHook duplicate) data else .error recursionError

/-- `canonical_json_bytes` -/
def Stack.canonicalJsonBytes (stack : Stack) (v : PyValue) : Except PyError Bytes :=
  if stack.encodes v then Json.canonicalJsonBytes v else .error recursionError

/-- `canonical_digest` -/
def Stack.canonicalDigest (stack : Stack) (v : PyValue) : Except PyError Digest :=
  (stack.canonicalJsonBytes v).map Digest.sha256

/-- Stack for anything. -/
def Stack.deep : Stack := ⟨fun _ => true, fun _ => true⟩

theorem Stack.canonicalJsonBytes_ok {stack : Stack} {v : PyValue} {bytes : Bytes} :
    stack.canonicalJsonBytes v = .ok bytes ↔ stack.encodes v = true ∧ Json.canonicalJsonBytes v = .ok bytes := by
  unfold Stack.canonicalJsonBytes
  split
  · rename_i hencodes
    exact ⟨fun h => ⟨hencodes, h⟩, And.right⟩
  · rename_i hencodes
    exact iff_of_false nofun fun h => hencodes h.1

theorem Stack.loadsUnique_ok {stack : Stack} {duplicate : PyError} {data : Bytes} {v : PyValue} :
    stack.loadsUnique duplicate data = .ok v ↔
      stack.scans data = true ∧ Json.loadsWith (Json.uniqueHook duplicate) data = .ok v := by
  unfold Stack.loadsUnique
  split
  · rename_i hscans
    exact ⟨fun h => ⟨hscans, h⟩, And.right⟩
  · rename_i hscans
    exact iff_of_false nofun fun h => hscans h.1

/-- `(KeyError, TypeError, ValueError)` -/
@[reducible] def IsWireError (k : ErrorKind) : Prop := k = .key_error ∨ k = .type_error ∨ k.IsValueError

/-- `ArithmeticError` -/
@[reducible] def IsArithmeticError (k : ErrorKind) : Prop := k = .overflow_error ∨ k = .zero_division_error

end LeoFlow
