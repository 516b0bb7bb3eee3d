import SymbolAssist.Text.CodeRange
import SymbolAssist.Text.Runs

/-! White space, and texts freed of the white space around them. -/

namespace SymbolAssist.Text

/-- The characters with the Unicode property White_Space. -/
def blankRanges : CodeRanges :=
  [(0x0009, 0x000D), (0x0020, 0x0020), (0x0085, 0x0085), (0x00A0, 0x00A0), (0x1680, 0x1680),
    (0x2000, 0x200A), (0x2028, 0x2029), (0x202F, 0x202F), (0x205F, 0x205F), (0x3000, 0x3000)]

/-- White space separates words and is not part of any name. -/
def isBlank (char : Char) : Bool :=
  blankRanges.covers char

/-- The text from its first character that is not blank. -/
def trimStart (text : List Char) : List Char :=
  text.dropWhile isBlank

/-- The text up to its last character that is not blank. -/
def trimEnd (text : List Char) : List Char :=
  dropEndWhile isBlank text

/-- The text without the blanks on either side. -/
def trim (text : List Char) : List Char :=
  trimEnd (trimStart text)

end SymbolAssist.Text
