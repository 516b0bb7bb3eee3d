import SymbolAssist.Text.Blank
import SymbolAssist.Text.Bytes
import SymbolAssist.Text.Dotted
import SymbolAssist.Text.Identifier

/-! The name, the fragment and the argument that a cursor in a line belongs to. -/

namespace SymbolAssist.Cursor

open Text

/-- The run of path characters that ends where the typed text does. -/
def fragment (typed : List Char) : List Char :=
  takeEndWhile isPathChar typed

/-- The byte column at which the fragment starts. -/
def fragmentStart (typed : List Char) : Nat :=
  byteLength (dropEndWhile isPathChar typed)

/-- A fragment that is not empty. -/
def fragment? (typed : List Char) : Option (List Char) :=
  if fragment typed = [] then none else some (fragment typed)

/-- The byte column from which an argument is replaced, with the bracket or comma that opens it. -/
def argumentStart (typed : List Char) : Nat :=
  if fragment typed = [] then byteLength typed
  else
    let head := trimEnd (dropEndWhile isPathChar typed)
    match head.getLast? with
    | some '(' => byteLength head.dropLast
    | some ',' => byteLength head.dropLast
    | _ => byteLength head

/-- The run of accepted characters around a column, or nothing when it touches none. -/
def runAt (accepts : Char → Bool) (line : List Char) (column : Nat) : Option (List Char) :=
  let before := takeBytes column line
  let after := line.drop before.length
  let run := takeEndWhile accepts before ++ after.takeWhile accepts
  if run = [] then none else some run

/-- The single name under a column. -/
def wordAt (line : List Char) (column : Nat) : Option (List Char) :=
  runAt isWordChar line column

/-- A text without the dots on either side. -/
def trimDots (text : List Char) : List Char :=
  dropEndWhile (· == '.') (text.dropWhile (· == '.'))

/-- The dotted name under a column, without dots on either side. -/
def qualifiedNameAt (line : List Char) (column : Nat) : Option (List Char) := do
  let run ← runAt isPathChar line column
  if trimDots run = [] then none else some (trimDots run)

end SymbolAssist.Cursor
