import SymbolAssist.Text.WordTable

/-! Identifiers, and the dotted paths made of them. -/

namespace SymbolAssist.Text

/-- A character that may open an identifier. -/
def isIdentifierStart (char : Char) : Bool :=
  char == '_' || startRanges.covers char

/-- A character that may stand anywhere after the first in an identifier. -/
def isWordChar (char : Char) : Bool :=
  isIdentifierStart char || followRanges.covers char

/-- A character of a dotted path: a word character or the dot between two names. -/
def isPathChar (char : Char) : Bool :=
  char == '.' || isWordChar char

/-- An identifier opens with a start character and goes on with word characters. -/
def isIdentifier : List Char → Bool
  | [] => false
  | first :: rest => isIdentifierStart first && rest.all isWordChar

/-- A path is one or more identifiers with single dots between them. -/
def isIdentifierPath (text : List Char) : Bool :=
  (text.splitOn '.').all isIdentifier

end SymbolAssist.Text
