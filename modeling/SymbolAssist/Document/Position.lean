/-! Places in a document, counted from zero. -/

namespace SymbolAssist

/-- A line and a byte column in it. -/
structure Position where
  /-- The line, counted from zero. -/
  line : Nat
  /-- The byte offset in the line, counted from zero. -/
  column : Nat
  deriving Repr, DecidableEq

/-- The place as people write it, with both parts counted from one. -/
def Position.text (position : Position) : String :=
  toString (position.line + 1) ++ ":" ++ toString (position.column + 1)

/-- The number by which an editor knows an open document. -/
structure DocumentId where
  /-- The number itself. -/
  number : Nat
  deriving Repr, DecidableEq

/-- The document's number behind its marker. -/
def DocumentId.text (document : DocumentId) : String :=
  "doc#" ++ toString document.number

end SymbolAssist
