/-! Texts measured and cut by their UTF-8 bytes. -/

namespace SymbolAssist.Text

/-- The number of bytes the text takes in UTF-8. -/
def byteLength : List Char → Nat
  | [] => 0
  | char :: rest => char.utf8Size + byteLength rest

/-- The longest prefix that takes at most the given number of bytes. -/
def takeBytes (limit : Nat) : List Char → List Char
  | [] => []
  | char :: rest =>
    -- A character that would straddle the limit is left out whole.
    if char.utf8Size ≤ limit then char :: takeBytes (limit - char.utf8Size) rest else []

/-- Both sides of a byte offset, or nothing when it is past the end or inside a character. -/
def splitAtByte? (offset : Nat) : List Char → Option (List Char × List Char)
  | [] => if offset = 0 then some ([], []) else none
  | char :: rest =>
    if offset = 0 then some ([], char :: rest)
    else if char.utf8Size ≤ offset then
      (splitAtByte? (offset - char.utf8Size) rest).map fun (before, after) => (char :: before, after)
    else none

/-- The text between two byte offsets, or nothing when one is outside or inside a character. -/
def slice? (text : List Char) (start stop : Nat) : Option (List Char) := do
  let (_, rest) ← splitAtByte? start text
  let (middle, _) ← splitAtByte? (stop - start) rest
  return middle

/-- The character that starts at a byte offset. -/
def charAtByte? (text : List Char) (offset : Nat) : Option Char := do
  let (_, rest) ← splitAtByte? offset text
  rest.head?

end SymbolAssist.Text
