/-! Dotted names cut at their last dot. -/

namespace SymbolAssist.Text

/-- What stands before and after the last dot, or nothing in a name without one. -/
def cutAtLastDot : List Char → Option (List Char × List Char)
  | [] => none
  | char :: rest =>
    match cutAtLastDot rest with
    -- A dot further right is the later one.
    | some (space, member) => some (char :: space, member)
    | none => if char = '.' then some ([], rest) else none

/-- The part of a name behind its last dot, which is the whole name if it has none. -/
def lastSegment (name : List Char) : List Char :=
  match cutAtLastDot name with
  | some (_, member) => member
  | none => name

/-- A name as namespace and member, where a name without a dot has the empty namespace. -/
def splitNamespace (name : List Char) : List Char × List Char :=
  (cutAtLastDot name).getD ([], name)

end SymbolAssist.Text
