import SymbolAssist.Decimal.Layout
import SymbolAssist.Json.Quoted

/-! Compact JSON text, with the members of objects sorted by key. -/

namespace SymbolAssist

namespace JsonNumber

/-- Numbers from 1e-5 up to 1e16 are written out, and others with an exponent. -/
def layout : Decimal.Layout where
  plainFrom := -5
  plainBelow := 16
  mark := 'e'

/-- The bit that makes a double negative. -/
def signBit : Nat :=
  0x8000000000000000

/-- A finite double, where zero keeps its sign. -/
def writeDouble (bits : UInt64) : List Char :=
  let sign := if bits.toNat < signBit then [] else ['-']
  let magnitude := if bits.toNat % signBit = 0 then ['0', '.', '0']
    else layout.write (Decimal.shortest bits)
  sign ++ magnitude

/-- The text of a number. -/
def write : JsonNumber → List Char
  | .integer value => (toString value).toList
  | .double bits => writeDouble bits

end JsonNumber

namespace Json

/-- Puts a member into a list sorted by key, in place of one with the same key. -/
def insertMember {α : Type} (member : String × α) : List (String × α) → List (String × α)
  | [] => [member]
  | first :: rest =>
    if member.1 < first.1 then member :: first :: rest
    else if member.1 = first.1 then member :: rest
    else first :: insertMember member rest

/-- The members sorted by key, where the last of several with the same key stays. -/
def sortMembers {α : Type} (members : List (String × α)) : List (String × α) :=
  members.foldl (fun sorted member => insertMember member sorted) []

/-- Texts with commas between them, in brackets. -/
def enclose (left right : Char) (texts : List (List Char)) : List Char :=
  left :: List.intercalate [','] texts ++ [right]

mutual

/-- The compact text of a value. -/
def write : Json → List Char
  | .null => "null".toList
  | .bool true => "true".toList
  | .bool false => "false".toList
  | .number value => value.write
  | .string value => Quoted.write value.toList
  | .array items => enclose '[' ']' (writeItems items)
  | .object members =>
    enclose '\x7b' '\x7d' ((sortMembers (writeMembers members)).map fun (key, text) =>
      Quoted.write key.toList ++ ':' :: text)

/-- The compact text of each item. -/
def writeItems : List Json → List (List Char)
  | [] => []
  | item :: rest => item.write :: writeItems rest

/-- Each key with the compact text of its value. -/
def writeMembers : List (String × Json) → List (String × List Char)
  | [] => []
  | (key, value) :: rest => (key, value.write) :: writeMembers rest

end

/-- A value as documentation shows it: strings as they are, and anything else as compact text. -/
def display : Json → String
  | .string value => value
  | value => String.ofList value.write

end Json

end SymbolAssist
