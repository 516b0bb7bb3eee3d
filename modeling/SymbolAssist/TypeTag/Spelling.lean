import SymbolAssist.Text.Blank
import SymbolAssist.TypeTag.Basic

/-! The outermost form of a written type, found before any of its parts are read. -/

namespace SymbolAssist

open Text

/-- The outermost form of a written type, with its parts still unread. -/
inductive Spelling where
  /-- A qualifier in front of another written type. -/
  | qualified (qualifier : Qualifier) (rest : List Char)
  /-- A container, with the text of each entry, some of which may be blank. -/
  | container (cls : ContainerClass) (entries : List (List Char))
  /-- A name taken as it stands. -/
  | named (name : List Char)
  deriving Repr, DecidableEq

namespace Spelling

/-- Angle brackets that are open after one more character. -/
def nextDepth (depth : Nat) (char : Char) : Nat :=
  if char = '<' then depth + 1
  -- A closing bracket without a partner is not counted.
  else if char = '>' then depth - 1
  else depth

/-- Cuts a text at the commas that stand outside angle brackets. -/
def splitEntries (depth : Nat) : List Char → List (List Char)
  | [] => [[]]
  | char :: rest =>
    if char = ',' ∧ depth = 0 then [] :: splitEntries depth rest
    else (splitEntries (nextDepth depth char) rest).modifyHead (char :: ·)

/-- A qualifier word and what follows the first blank behind it. -/
def qualified? (body : List Char) : Option (Qualifier × List Char) :=
  match body.dropWhile fun char => !isBlank char with
  | [] => none
  | _ :: rest => do
    let qualifier ← Qualifier.ofWord? (body.takeWhile fun char => !isBlank char)
    return (qualifier, rest)

/-- What stands before the first opening bracket, and what it encloses up to a closing one at the end. -/
def angled? (body : List Char) : Option (List Char × List Char) :=
  match body.dropWhile (· != '<') with
  | [] => none
  | _ :: rest =>
    if rest.getLast? = some '>' then some (body.takeWhile (· != '<'), rest.dropLast) else none

/-- The container a text without a qualifier describes, if it describes one. -/
def container? (body : List Char) : Option (ContainerClass × List (List Char)) :=
  match body.reverse with
  -- Square brackets at the end are the short form of an array and bind before anything else.
  | ']' :: '[' :: element => some (.array, [element.reverse])
  | _ =>
    match angled? body with
    | some (head, inner) => do
      let cls ← ContainerClass.ofName? (trim head)
      return (cls, splitEntries 0 inner)
    | none => do
      let cls ← ContainerClass.ofName? body
      return (cls, [])

/-- The outermost form of a text that has no blanks around it. -/
def ofBody (body : List Char) : Spelling :=
  match qualified? body with
  | some (qualifier, rest) => .qualified qualifier rest
  | none =>
    match container? body with
    | some (cls, entries) => .container cls entries
    | none => .named body

end Spelling

end SymbolAssist
