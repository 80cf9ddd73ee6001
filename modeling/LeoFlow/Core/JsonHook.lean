import LeoFlow.Core.Json

/-!
# LeoFlow.Core.JsonHook — json.loads with a hook, and its recursion

`json.loads(data, object_pairs_hook=hook)`: the hook makes the value of an object from its pairs when
the object closes. The scanner calls itself for every array or object inside another one; it raises
`RecursionError` when more are open than the interpreter allows at the call. The scan here counts how
many are open at once until it ends or fails.
-/

namespace LeoFlow

namespace Json

/-- `object_pairs_hook` -/
abbrev Hook := List (PyStr × PyValue) → Except PyError PyValue

/-- `dict(pairs)`: without a hook. -/
def dictHook : Hook := fun pairs => .ok (.dict (pairs.foldl (fun items x => PyValue.setItem items x.1 x.2) []))

/-- A hook that raises `error` where a key is repeated. -/
def uniqueHook (error : PyError) : Hook := fun pairs =>
  if (pairs.map Prod.fst).Nodup then .ok (.dict pairs) else .error error

/-- A key and its colon: the key, and the text of its value. -/
def scanKey (s : PyStr) : Except PyError (PyStr × PyStr) :=
  match s with
  | 34 :: rest =>
    match scanString rest [] false with
    | .error e => .error e
    | .ok (key, rest) =>
      match skipWs rest with
      | 58 :: rest => .ok (key, skipWs rest)
      | _ => .error (.json "Expecting ':' delimiter")
  | _ => .error (.json "Expecting property name enclosed in double quotes")

mutual

/-- `scan_once`, with the number of calls open at once: arrays, objects and the hook. -/
def scanHooked (hook : Hook) : Nat → PyStr → Nat × Except PyError (PyValue × PyStr)
  | 0, _ => (0, .error (.json "Expecting value"))
  | fuel + 1, s =>
    match s with
    | 34 :: rest => (0, (scanString rest [] false).map fun (text, rest) => (.str text, rest))
    | 91 :: rest =>
      match skipWs rest with
      | 93 :: rest => (1, .ok (.list [], rest))
      | rest =>
        let (depth, result) := scanItemsHooked hook fuel rest []
        (depth + 1, result.map fun (items, rest) => (.list items, rest))
    | 123 :: rest =>
      match skipWs rest with
      | 125 :: rest => (2, (hook []).map fun v => (v, rest))
      | rest =>
        match scanPairs hook fuel rest [] with
        | (depth, .error e) => (depth + 1, .error e)
        | (depth, .ok (pairs, rest)) => (max depth 1 + 1, (hook pairs).map fun v => (v, rest))
    | s => (0, scanScalar s)

/-- The items of an array, up to its closing bracket. -/
def scanItemsHooked (hook : Hook) : Nat → PyStr → List PyValue → Nat × Except PyError (List PyValue × PyStr)
  | 0, _, _ => (0, .error (.json "Expecting value"))
  | fuel + 1, s, acc =>
    match scanHooked hook fuel s with
    | (depth, .error e) => (depth, .error e)
    | (depth, .ok (v, rest)) =>
      match skipWs rest with
      | 93 :: rest => (depth, .ok ((v :: acc).reverse, rest))
      | 44 :: rest =>
        let (depth', result) := scanItemsHooked hook fuel (skipWs rest) (v :: acc)
        (max depth depth', result)
      | _ => (depth, .error (.json "Expecting ',' delimiter"))

/-- The pairs of an object, up to its closing brace. -/
def scanPairs (hook : Hook) : Nat → PyStr → List (PyStr × PyValue) →
    Nat × Except PyError (List (PyStr × PyValue) × PyStr)
  | 0, _, _ => (0, .error (.json "Expecting value"))
  | fuel + 1, s, acc =>
    match scanKey s with
    | .error e => (0, .error e)
    | .ok (key, rest) =>
      match scanHooked hook fuel rest with
      | (depth, .error e) => (depth, .error e)
      | (depth, .ok (v, rest)) =>
        match skipWs rest with
        | 125 :: rest => (depth, .ok (((key, v) :: acc).reverse, rest))
        | 44 :: rest =>
          let (depth', result) := scanPairs hook fuel (skipWs rest) ((key, v) :: acc)
          (max depth depth', result)
        | _ => (depth, .error (.json "Expecting ',' delimiter"))

end

/-- `scan_once` from the first character of a decoded text. -/
def scanText (hook : Hook) (text : PyStr) : Nat × Except PyError (PyValue × PyStr) :=
  scanHooked hook (2 * text.length + 2) (skipWs text)

/-- How many calls the scan of the data has open at once, until it ends or fails. -/
def nesting (hook : Hook) (data : Bytes) : Nat :=
  match decodeDetected data with
  | none => 0
  | some text => (scanText hook text).1

/-- `json.loads(data, object_pairs_hook=hook)`, where `limit` nested calls are left. -/
def loadsHooked (hook : Hook) (limit : Nat) (data : Bytes) : Except PyError PyValue :=
  match decodeDetected data with
  | none => .error ⟨.unicode_decode_error, "invalid data"⟩
  | some text =>
    if limit < (scanText hook text).1 then .error ⟨.recursion_error, "maximum recursion depth exceeded"⟩
    else
      match (scanText hook text).2 with
      | .error e => .error e
      | .ok (v, rest) => if skipWs rest = [] then .ok v else .error (.json "Extra data")

/-! ## Without a hook -/

/-- The pairs become the entries of a dictionary. -/
def dictOf (x : List (PyStr × PyValue) × PyStr) : List (PyStr × PyValue) × PyStr :=
  (x.1.foldl (fun items y => PyValue.setItem items y.1 y.2) [], x.2)

theorem dictOf_snoc (acc : List (PyStr × PyValue)) (key : PyStr) (v : PyValue) (rest : PyStr) :
    dictOf (((key, v) :: acc).reverse, rest) =
      (PyValue.setItem (dictOf (acc.reverse, [])).1 key v, rest) := by
  unfold dictOf
  rw [List.reverse_cons, List.foldl_append]
  rfl

theorem scanEntries_succ (fuel : Nat) (s : PyStr) (acc : List (PyStr × PyValue)) :
    scanEntries (fuel + 1) s acc =
      match scanKey s with
      | .error e => .error e
      | .ok (key, rest) =>
        match scanOnce fuel rest with
        | .error e => .error e
        | .ok (v, rest) =>
          match skipWs rest with
          | 125 :: rest => .ok (PyValue.setItem acc key v, rest)
          | 44 :: rest => scanEntries fuel (skipWs rest) (PyValue.setItem acc key v)
          | _ => .error (.json "Expecting ',' delimiter") := by
  fun_cases scanKey s with
  | case1 rest e h =>
    rw [scanEntries, h]
  | case2 rest key rest' h rest'' hcolon =>
    rw [scanEntries, h]
    dsimp only
    rw [hcolon]
    rfl
  | case3 rest key rest' h hcolon =>
    rw [scanEntries, h]
    dsimp only
    split
    · rename_i heq
      exact (hcolon _ heq).elim
    · rfl
  | case4 =>
    rw [scanEntries]
    assumption

theorem scanOnce_eq (fuel : Nat) (s : PyStr) : scanOnce fuel s = (scanHooked dictHook fuel s).2 := by
  suffices h : (∀ s, scanOnce fuel s = (scanHooked dictHook fuel s).2) ∧
      (∀ s acc, scanItems fuel s acc = (scanItemsHooked dictHook fuel s acc).2) ∧
      (∀ s acc, scanEntries fuel s (dictOf (acc.reverse, [])).1 =
        (scanPairs dictHook fuel s acc).2.map dictOf) from h.1 s
  induction fuel with
  | zero => exact ⟨fun _ => rfl, fun _ _ => rfl, fun _ _ => rfl⟩
  | succ fuel ih =>
    rcases ih with ⟨ihOnce, ihItems, ihPairs⟩
    refine ⟨fun s => ?_, fun s acc => ?_, fun s acc => ?_⟩
    · unfold scanOnce
      split
      · simp only [scanHooked]
      · rename_i rest
        simp only [scanHooked]
        split
        · rename_i h
          simp only [h]
        · rename_i h
          refine (congrArg (Except.map _) (ihItems _ _)).trans ?_
          first
          | rfl
          | split
            · exact (h _ ‹_›).elim
            · rfl
      · rename_i rest
        simp only [scanHooked]
        split
        · rename_i h
          simp only [h]
          rfl
        · rename_i h
          have hpairs := ihPairs (skipWs rest) []
          change scanEntries fuel (skipWs rest) [] = _ at hpairs
          rw [hpairs]
          first
          | rcases scanPairs dictHook fuel (skipWs rest) [] with ⟨depth, e | ⟨pairs, rest⟩⟩ <;> rfl
          | split
            · exact (h _ ‹_›).elim
            · rcases scanPairs dictHook fuel (skipWs rest) [] with ⟨depth, e | ⟨pairs, rest⟩⟩ <;> rfl
      · rename_i hstring harray hobject
        rw [scanHooked]
        all_goals assumption
    · unfold scanItems scanItemsHooked
      rw [ihOnce]
      rcases scanHooked dictHook fuel s with ⟨depth, e | ⟨v, rest⟩⟩
      · rfl
      · dsimp only
        generalize skipWs rest = t
        split
        · rfl
        · exact ihItems _ _
        · rename_i hclose hcomma
          first
          | rfl
          | split
            · exact (hclose _ rfl).elim
            · exact (hcomma _ rfl).elim
            · rfl
    · rw [scanEntries_succ, scanPairs]
      rcases scanKey s with e | ⟨key, rest⟩
      · rfl
      dsimp only
      rw [ihOnce]
      rcases scanHooked dictHook fuel rest with ⟨depth, e | ⟨v, rest⟩⟩
      · rfl
      dsimp only
      generalize skipWs rest = t
      split
      · exact congrArg Except.ok (dictOf_snoc _ _ _ _).symm
      · rename_i rest
        have hpairs := ihPairs (skipWs rest) ((key, v) :: acc)
        rw [dictOf_snoc] at hpairs
        exact hpairs
      · rfl

/-! ## Errors -/

theorem raisesOnly_scanString (s acc : PyStr) (high : Bool) :
    RaisesOnly ErrorKind.IsValueError (scanString s acc high) := by
  fun_induction scanString s acc high with
  | case2 => exact raisesOnly_ok _
  | case1 | case3 | case7 | case9 | case10 => exact raisesOnly_error (by decide)
  | _ => assumption

theorem raisesOnly_numberValue (negative : Bool) (whole : PyStr) (fraction : Option PyStr)
    (exponent : Option Int) : RaisesOnly ErrorKind.IsValueError (numberValue negative whole fraction exponent) := by
  unfold numberValue
  split
  · split
    · exact raisesOnly_error (by decide)
    · exact raisesOnly_ok _
  · exact raisesOnly_ok _

theorem raisesOnly_scanNumber (negative : Bool) (s : PyStr) :
    RaisesOnly ErrorKind.IsValueError (scanNumber negative s) := by
  unfold scanNumber
  split
  · exact raisesOnly_error (by decide)
  · split
    · exact raisesOnly_error (by decide)
    · exact raisesOnly_map (raisesOnly_numberValue _ _ _ _)

theorem raisesOnly_scanScalar (s : PyStr) : RaisesOnly ErrorKind.IsValueError (scanScalar s) := by
  unfold scanScalar
  split
  case h_6 =>
    split
    · exact raisesOnly_ok _
    · exact raisesOnly_scanNumber _ _
  case h_7 => exact raisesOnly_scanNumber _ _
  all_goals
    split
    · exact raisesOnly_ok _
    · exact raisesOnly_error (by decide)

theorem raisesOnly_scanKey (s : PyStr) : RaisesOnly ErrorKind.IsValueError (scanKey s) := by
  fun_cases scanKey s with
  | case1 rest e h =>
    have hstring := raisesOnly_scanString rest [] false
    exact raisesOnly_error (hstring e h)
  | case2 => exact raisesOnly_ok _
  | _ => exact raisesOnly_error (by decide)

section

variable {P : ErrorKind → Prop} (hP : ∀ k : ErrorKind, k.IsValueError → P k) {hook : Hook}
  (hhook : ∀ pairs, RaisesOnly P (hook pairs))

include hP hhook

theorem raisesOnly_scanHooked (fuel : Nat) (s : PyStr) : RaisesOnly P (scanHooked hook fuel s).2 := by
  suffices h : (∀ s, RaisesOnly P (scanHooked hook fuel s).2) ∧
      (∀ s acc, RaisesOnly P (scanItemsHooked hook fuel s acc).2) ∧
      (∀ s acc, RaisesOnly P (scanPairs hook fuel s acc).2) from h.1 s
  have hjson : ∀ {α : Type} (message : String), RaisesOnly P (.error (.json message) : Except PyError α) :=
    fun _ => raisesOnly_error (hP .json_decode_error (by decide))
  have hscan : ∀ {α : Type} {x : Except PyError α}, RaisesOnly ErrorKind.IsValueError x → RaisesOnly P x :=
    fun hx e he => hP _ (hx e he)
  induction fuel with
  | zero => exact ⟨fun _ => hjson _, fun _ _ => hjson _, fun _ _ => hjson _⟩
  | succ fuel ih =>
    rcases ih with ⟨ihOnce, ihItems, ihPairs⟩
    refine ⟨fun s => ?_, fun s acc => ?_, fun s acc => ?_⟩
    · unfold scanHooked
      split
      · exact raisesOnly_map (hscan (raisesOnly_scanString _ _ _))
      · split
        · exact raisesOnly_ok _
        · exact raisesOnly_map (ihItems _ _)
      · split
        · exact raisesOnly_map (hhook _)
        · rename_i rest _ _
          have hpairs := ihPairs (skipWs rest) []
          split
          · rename_i e heq
            rw [heq] at hpairs
            exact raisesOnly_error (hpairs e rfl)
          · exact raisesOnly_map (hhook _)
      · exact hscan (raisesOnly_scanScalar _)
    · have honce := ihOnce s
      unfold scanItemsHooked
      split
      · rename_i e heq
        rw [heq] at honce
        exact raisesOnly_error (honce e rfl)
      · split
        · exact raisesOnly_ok _
        · exact ihItems _ _
        · exact hjson _
    · have hkey := hscan (raisesOnly_scanKey s)
      unfold scanPairs
      split
      · rename_i e heq
        rw [heq] at hkey
        exact raisesOnly_error (hkey e rfl)
      · rename_i key rest _
        have honce := ihOnce rest
        split
        · rename_i e heq
          rw [heq] at honce
          exact raisesOnly_error (honce e rfl)
        · split
          · exact raisesOnly_ok _
          · exact ihPairs _ _
          · exact hjson _

/-- Where the scan has room, only malformed data is reported. -/
theorem raisesOnly_loadsHooked {limit : Nat} {data : Bytes} (hlimit : nesting hook data ≤ limit) :
    RaisesOnly P (loadsHooked hook limit data) := by
  unfold nesting at hlimit
  unfold loadsHooked
  split
  · exact raisesOnly_error (hP _ (by decide))
  · rename_i text heq
    rw [heq] at hlimit
    have hscan : RaisesOnly P (scanText hook text).2 := raisesOnly_scanHooked hP hhook _ _
    rw [if_neg (by simpa using hlimit)]
    split
    · rename_i e heq
      rw [heq] at hscan
      exact raisesOnly_error (hscan e rfl)
    · split
      · exact raisesOnly_ok _
      · exact raisesOnly_error (hP _ (by decide))

end

theorem loadsHooked_of_limit_lt {hook : Hook} {limit : Nat} {data : Bytes} (h : limit < nesting hook data) :
    loadsHooked hook limit data = .error ⟨.recursion_error, "maximum recursion depth exceeded"⟩ := by
  unfold nesting at h
  unfold loadsHooked
  split
  · rename_i heq
    rw [heq] at h
    exact absurd h (Nat.not_lt_zero _)
  · rename_i text heq
    rw [heq] at h
    exact if_pos h

end Json

end LeoFlow
