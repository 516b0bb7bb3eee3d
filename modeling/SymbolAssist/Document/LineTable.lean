import SymbolAssist.Document.Position
import SymbolAssist.Text.Bytes

/-! Where the lines of a text start, so that any line of it can be read. -/

namespace SymbolAssist

open Text

/-- The bytes from one offset up to another. -/
structure ByteRange where
  /-- The offset of the first byte. -/
  start : Nat
  /-- The offset behind the last byte. -/
  stop : Nat
  deriving Repr, DecidableEq

/-- The byte offsets at which the lines of a text start, and its length. -/
structure LineTable where
  /-- One offset for each line, in ascending order. -/
  starts : List Nat
  /-- The length of the text in bytes. -/
  length : Nat
  deriving Repr, DecidableEq

namespace LineTable

/-- The offset behind each line break of a text that itself starts at the given offset. -/
def startsAfterBreaks (offset : Nat) : List Char → List Nat
  | [] => []
  | char :: rest =>
    let next := offset + char.utf8Size
    if char = '\n' then next :: startsAfterBreaks next rest else startsAfterBreaks next rest

/-- The table of a text, whose first line starts at zero even when it is empty. -/
def ofText (text : List Char) : LineTable where
  starts := 0 :: startsAfterBreaks 0 text
  length := byteLength text

/-- The number of lines. -/
def size (table : LineTable) : Nat :=
  table.starts.length

/-- Where a line lies, without its line break; a carriage return is looked for in the text being read. -/
def lineRange? (table : LineTable) (text : List Char) (line : Nat) : Option ByteRange := do
  let start ← table.starts[line]?
  -- The break of one line is the byte before the start of the next.
  let stop := match table.starts[line + 1]? with
    | some next => next - 1
    | none => table.length
  if start < stop ∧ charAtByte? text (stop - 1) = some '\r' then
    return ⟨start, stop - 1⟩
  else
    return ⟨start, stop⟩

/-- The text of a line, or nothing when the text being read has no characters at those offsets. -/
def lineText? (table : LineTable) (text : List Char) (line : Nat) : Option (List Char) := do
  let range ← table.lineRange? text line
  slice? text range.start range.stop

/-- The part of a line before a position, cut back to a whole character. -/
def textBefore? (table : LineTable) (text : List Char) (position : Position) :
    Option (List Char) := do
  let line ← table.lineText? text position.line
  return takeBytes position.column line

end LineTable

end SymbolAssist
