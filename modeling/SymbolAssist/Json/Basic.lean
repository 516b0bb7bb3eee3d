/-! JSON values as they are read, with the members of objects in their written order. -/

namespace SymbolAssist

/-- A JSON number: an integer that fits 64 bits, or the bits of a double. -/
inductive JsonNumber where
  /-- A number without fraction and exponent that fits. -/
  | integer (value : Int)
  /-- Any other number, and the negative zero. -/
  | double (bits : UInt64)
  deriving Repr, DecidableEq

/-- A JSON value, where an object may hold a key more than once. -/
inductive Json where
  | null
  | bool (value : Bool)
  | number (value : JsonNumber)
  | string (value : String)
  | array (items : List Json)
  | object (members : List (String × Json))
  deriving Repr

namespace Json

mutual

/-- Structural equality of two values. -/
def sameAs : Json → Json → Bool
  | .null, .null => true
  | .bool left, .bool right => left = right
  | .number left, .number right => left = right
  | .string left, .string right => left = right
  | .array left, .array right => sameItems left right
  | .object left, .object right => sameMembers left right
  | _, _ => false

/-- Structural equality of two lists of items. -/
def sameItems : List Json → List Json → Bool
  | [], [] => true
  | left :: lefts, right :: rights => left.sameAs right && sameItems lefts rights
  | _, _ => false

/-- Structural equality of two lists of members. -/
def sameMembers : List (String × Json) → List (String × Json) → Bool
  | [], [] => true
  | (leftKey, left) :: lefts, (rightKey, right) :: rights =>
    leftKey = rightKey && left.sameAs right && sameMembers lefts rights
  | _, _ => false

end

mutual

/-- Only equal values are structurally equal. -/
theorem sameAs_iff : (left right : Json) → (left.sameAs right ↔ left = right)
  -- Values of two kinds differ, and values of one kind are compared by what they hold.
  | .null, right => by cases right <;> simp [sameAs]
  | .bool _, right => by cases right <;> simp [sameAs]
  | .number _, right => by cases right <;> simp [sameAs]
  | .string _, right => by cases right <;> simp [sameAs]
  | .array items, right => by cases right <;> simp [sameAs, sameItems_iff items]
  | .object members, right => by cases right <;> simp [sameAs, sameMembers_iff members]

/-- Only equal lists of items are structurally equal. -/
theorem sameItems_iff : (left right : List Json) → (sameItems left right ↔ left = right)
  -- The first items are compared as values, and the rest as lists again.
  | [], right => by cases right <;> simp [sameItems]
  | item :: rest, right => by
    cases right <;> simp [sameItems, sameAs_iff item, sameItems_iff rest]

/-- Only equal lists of members are structurally equal. -/
theorem sameMembers_iff :
    (left right : List (String × Json)) → (sameMembers left right ↔ left = right)
  -- Of a member both the key and the value have to agree.
  | [], right => by cases right <;> simp [sameMembers]
  | (key, value) :: rest, right => by
    rcases right with _ | ⟨⟨otherKey, other⟩, others⟩
    · simp [sameMembers]
    · simp [sameMembers, sameAs_iff value, sameMembers_iff rest]

end

instance : DecidableEq Json :=
  fun left right => decidable_of_iff _ (sameAs_iff left right)

end Json

/-- Why a JSON text is refused. -/
inductive JsonFault where
  /-- The text ends before the value does. -/
  | endOfText
  /-- The text breaks the rules of the format. -/
  | malformed
  /-- The value is not of the wanted form. -/
  | mismatch
  deriving Repr, DecidableEq

end SymbolAssist
