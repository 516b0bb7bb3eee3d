import SymbolAssist.Proofs.Json.Following

/-! How deep a value is nested, which is all that the depth of a reader decides about. -/

namespace SymbolAssist

namespace Json

/-- Lists and objects stand inside each other no deeper than the given number of times. -/
def nestedWithin : Nat → Json → Bool
  | 0, .array _ => false
  | 0, .object _ => false
  | depth + 1, .array items => items.all (nestedWithin depth)
  | depth + 1, .object members => members.all fun member => nestedWithin depth member.2
  | _, _ => true

/-- A value that is neither a list nor an object. -/
def isScalar : Json → Bool
  | .array _ => false
  | .object _ => false
  | _ => true

/-- A value that holds no others is nested in no way. -/
theorem nestedWithin_of_isScalar {json : Json} (scalar : json.isScalar) (depth : Nat) :
    json.nestedWithin depth := by
  -- Only lists and objects are nested.
  cases json with
  | array items => cases scalar
  | object members => cases scalar
  | null | bool | number | string => cases depth <;> rfl

end Json

namespace Reader

variable {text rest : List Char}

/-- Reads one more item behind others. -/
def readItem (depth : Nat) (items : List Json) : Reader (List Json) := do
  return items ++ [← value depth]

/-- Reads the colon and the value of one more member behind others. -/
def readMember (depth : Nat) (members : List (String × Json)) (key : String) :
    Reader (List (String × Json)) := do
  colon
  return members ++ [(key, ← value depth)]

/-- Where no nesting is allowed, the brackets of lists and objects are refused. -/
theorem value_zero :
    value 0 = (do
      let char ← peek
      if char = some '[' then throw .malformed
      else if char = some '\x7b' then throw .malformed
      else scalar) := by
  -- Both brackets are refused with the same fault, so one condition can be asked for each.
  rw [value]
  congr 1
  funext char
  simp only [opensContainer, Bool.or_eq_true, beq_iff_eq]
  by_cases isList : char = some '['
  · rw [if_pos (.inl isList), if_pos isList]
  · simp only [isList, false_or, if_false]

/-- A value is told by its first character, where lists and objects hold values one level further in. -/
theorem value_succ (depth : Nat) :
    value (depth + 1) = (do
      let char ← peek
      if char = some '[' then return .array (← list (readItem depth) [])
      else if char = some '\x7b' then return .object (← object true (readMember depth) [])
      else scalar) := by
  -- The cases are those of the first character, written as conditions.
  rw [value]
  congr 1
  funext char
  split
  · rfl
  · rfl
  · rename_i notList notObject
    rw [if_neg notList, if_neg notObject]

/-- What is read as a scalar is one. -/
theorem isScalar_of_scalar {json : Json} (read : scalar.run text = .ok (json, rest)) :
    json.isScalar := by
  rw [scalar, run_bind_eq_ok_iff] at read
  obtain ⟨char, middle, _, read⟩ := read
  -- The first character tells which kind of scalar is returned.
  split at read
  · exact absurd read run_throw_ne_ok
  · obtain ⟨_, _, rfl⟩ := run_map_eq_ok_iff.mp read
    rfl
  · obtain ⟨_, _, rfl⟩ := run_map_eq_ok_iff.mp read
    rfl
  · obtain ⟨_, _, rfl⟩ := run_map_eq_ok_iff.mp read
    rfl
  · obtain ⟨_, _, rfl⟩ := run_map_eq_ok_iff.mp read
    rfl
  · split at read
    · obtain ⟨_, _, rfl⟩ := run_map_eq_ok_iff.mp read
      rfl
    · exact absurd read run_throw_ne_ok

section Depth

variable {depth deeper : Nat}

/-- Scalars are followed at every depth. -/
theorem follows_scalar (depth : Nat) :
    Follows scalar (Option.guard (Json.nestedWithin depth)) scalar := by
  -- Whatever a reader of scalars finds is within every depth.
  intro text result rest
  constructor
  · intro read
    exact ⟨result, read, Option.guard_eq_some_iff.mpr
      ⟨rfl, Json.nestedWithin_of_isScalar (isScalar_of_scalar read) depth⟩⟩
  · rintro ⟨json, read, seen⟩
    obtain ⟨rfl, -⟩ := Option.guard_eq_some_iff.mp seen
    exact read

/-- Lists are followed in their nesting if values one level further in are. -/
theorem follows_items
    (follows : Follows (value deeper) (Option.guard (Json.nestedWithin depth)) (value depth)) :
    Follows (list (readItem deeper) []) (Option.guard fun items => items.all (Json.nestedWithin depth))
      (list (readItem depth) []) := by
  refine .list ?_ ?_ rfl
  · intro items result seen
    obtain ⟨rfl, nested⟩ := Option.guard_eq_some_iff.mp seen
    refine follows.map fun item => ?_
    simp [Option.guard, nested]
  · -- The items that were read before are still there.
    intro items text later rest read nested
    obtain ⟨item, _, rfl⟩ := run_map_eq_ok_iff.mp read
    rw [Option.isSome_guard, List.all_append, Bool.and_eq_true] at nested
    rw [Option.isSome_guard]
    exact nested.1

/-- Objects are followed in their nesting if values one level further in are. -/
theorem follows_members
    (follows : Follows (value deeper) (Option.guard (Json.nestedWithin depth)) (value depth)) :
    Follows (object true (readMember deeper) [])
      (Option.guard fun members => members.all fun member => member.2.nestedWithin depth)
      (object true (readMember depth) []) := by
  refine .object true ?_ ?_ rfl
  · intro members result seen key
    obtain ⟨rfl, nested⟩ := Option.guard_eq_some_iff.mp seen
    refine .after colon fun _ => follows.map fun value => ?_
    simp [Option.guard, nested]
  · -- The members that were read before are still there.
    intro members key text later rest read nested
    obtain ⟨_, _, _, read⟩ := run_bind_eq_ok_iff.mp read
    obtain ⟨value, _, rfl⟩ := run_map_eq_ok_iff.mp read
    rw [Option.isSome_guard, List.all_append, Bool.and_eq_true] at nested
    rw [Option.isSome_guard]
    exact nested.1

/-- A reader of less depth follows one of more depth in the values that are nested as little. -/
theorem follows_value (less : depth ≤ deeper) :
    Follows (value deeper) (Option.guard (Json.nestedWithin depth)) (value depth) := by
  have fails {view : Json → Option Json} : Follows (throw .malformed) view (throw .malformed) :=
    .of_never (fun _ _ _ => run_throw_ne_ok) fun _ _ _ read => absurd read run_throw_ne_ok
  -- Both depths shrink by one where a list or an object is entered.
  induction depth generalizing deeper with
  | zero =>
    rw [value_zero]
    cases deeper with
    | zero =>
      rw [value_zero]
      refine .after peek fun char => ?_
      split
      · exact fails
      · split
        · exact fails
        · exact follows_scalar 0
    | succ deeper =>
      rw [value_succ]
      refine .after peek fun char => ?_
      split
      · refine .of_never (fun _ _ _ => run_throw_ne_ok) fun text json rest read => ?_
        obtain ⟨items, _, rfl⟩ := run_map_eq_ok_iff.mp read
        rfl
      · split
        · refine .of_never (fun _ _ _ => run_throw_ne_ok) fun text json rest read => ?_
          obtain ⟨members, _, rfl⟩ := run_map_eq_ok_iff.mp read
          rfl
        · exact follows_scalar 0
  | succ depth ih =>
    obtain ⟨below, rfl⟩ : ∃ below, deeper = below + 1 := ⟨deeper - 1, by omega⟩
    have inner := ih (by omega : depth ≤ below)
    rw [value_succ, value_succ]
    refine .after peek fun char => ?_
    split
    · exact (follows_items inner).map fun items => by simp [Option.guard, Json.nestedWithin]
    · split
      · exact (follows_members inner).map fun members => by
          simp only [Option.guard, Json.nestedWithin, Option.map_if]
          rfl
      · exact follows_scalar (depth + 1)

end Depth

end Reader

namespace Json

variable {text : String} {json other : Json} {depth deeper : Nat}

/-- A text holds a value if it is read as that value where enough nesting is allowed. -/
def IsHeldBy (text : String) (json : Json) : Prop :=
  ∃ depth, (Reader.value depth).readAll text = .ok json

/-- A reader of less depth finds what one of more depth does, if it is nested as little. -/
theorem readAll_value_of_le (less : depth ≤ deeper) :
    (Reader.value depth).readAll text = .ok json ↔
      (Reader.value deeper).readAll text = .ok json ∧ json.nestedWithin depth := by
  -- The reader of less depth follows the other one, with the depth as its view.
  rw [(Reader.follows_value less).readAll]
  simp only [Option.guard_eq_some_iff]
  constructor
  · rintro ⟨_, read, rfl, nested⟩
    exact ⟨read, nested⟩
  · rintro ⟨read, nested⟩
    exact ⟨json, read, rfl, nested⟩

/-- A reader reads the values that texts hold, as far as they are nested no deeper than it allows. -/
theorem readAll_value_eq_ok_iff :
    (Reader.value depth).readAll text = .ok json ↔ IsHeldBy text json ∧ json.nestedWithin depth := by
  constructor
  · intro read
    exact ⟨⟨depth, read⟩, ((readAll_value_of_le (Nat.le_refl depth)).mp read).2⟩
  · -- Both readers are compared with one that is at least as deep as either.
    rintro ⟨⟨deeper, read⟩, nested⟩
    have deepest := ((readAll_value_of_le (Nat.le_max_right depth deeper)).mp read).1
    exact (readAll_value_of_le (Nat.le_max_left depth deeper)).mpr ⟨deepest, nested⟩

/-- A text holds no two values. -/
theorem IsHeldBy.unique (holds : IsHeldBy text json) (holdsOther : IsHeldBy text other) :
    json = other := by
  obtain ⟨depth, read⟩ := holds
  obtain ⟨deeper, readOther⟩ := holdsOther
  -- One reader of sufficient depth reads both.
  have first := ((readAll_value_of_le (Nat.le_max_left depth deeper)).mp read).1
  have second := ((readAll_value_of_le (Nat.le_max_right depth deeper)).mp readOther).1
  exact Except.ok.inj (first.symm.trans second)

end Json

end SymbolAssist
