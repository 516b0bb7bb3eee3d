import SymbolAssist.Matching
import SymbolAssist.Text.Blank

/-! What can be set about the look-up of symbols. -/

namespace SymbolAssist

open Text

/-- The settings of a host. -/
structure Settings where
  /-- How many typos are forgiven. -/
  budgets : TypoBudgets
  /-- What a comment starts with. -/
  commentMark : String
  /-- The word that opens an import line. -/
  importWord : String
  /-- The namespace of methods that any receiver has. -/
  wildcard : Char
  deriving Repr, DecidableEq

namespace Settings

/-- The settings that hold when nothing is set. -/
def standard : Settings where
  budgets := .standard
  commentMark := "//"
  importWord := "import"
  wildcard := '*'

/-- Comments and imports are not completed. -/
def isExcluded (settings : Settings) (line : List Char) : Bool :=
  let body := trim line
  let word := settings.importWord.toList
  settings.commentMark.toList.isPrefixOf body ||
    -- The word must end there, or the line opens with a longer name.
    word.isPrefixOf body && (body.drop word.length).head?.all isBlank

/-- The name is filed under the wildcard. -/
def isWildcard (settings : Settings) (name : String) : Bool :=
  name.toList.head? == some settings.wildcard

/-- Where a member that any receiver has is filed. -/
def wildcardKey (settings : Settings) (member : String) : String :=
  String.ofList (settings.wildcard :: '.' :: member.toList)

end Settings

end SymbolAssist
