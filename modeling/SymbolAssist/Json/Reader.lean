import SymbolAssist.Json.Numeral
import SymbolAssist.Json.Quoted

/-! Readers of JSON text: each takes what it reads off the front and reports the first fault it meets. -/

namespace SymbolAssist

/-- A reader takes something off the front of a text, or reports why it cannot. -/
abbrev Reader := StateT (List Char) (Except JsonFault)

namespace Reader

/-- The characters that may stand between the parts of a JSON text. -/
def isGap (char : Char) : Bool :=
  char == ' ' || char == '\n' || char == '\t' || char == '\r'

/-- The next character behind a gap, which is left where it is. -/
def peek : Reader (Option Char) := do
  modify (List.dropWhile isGap)
  return (← get).head?

/-- Takes one character off. -/
def advance : Reader Unit :=
  modify (List.drop 1)

/-- Takes the letters of a word off a text. -/
def stripWord : List Char → List Char → Except JsonFault (List Char)
  | [], text => .ok text
  | _ :: _, [] => .error .endOfText
  | letter :: letters, char :: rest =>
    if letter = char then stripWord letters rest else .error .malformed

/-- Reads one of the fixed words. -/
def word (letters : String) : Reader Unit := do
  set (← stripWord letters.toList (← get))

/-- Reads a number and finds its value. -/
def number : Reader JsonNumber := do
  let (numeral, rest) ← Numeral.read (← get)
  set rest
  match numeral.value? with
  | some value => return value
  -- A number beyond all doubles breaks the rules of the format.
  | none => throw .malformed

/-- Reads a quoted string. -/
def quoted (paired : Bool) : Reader String := do
  advance
  let (chars, rest) ← Quoted.read paired (← get)
  set rest
  return String.ofList chars

/-- Reads a value that is neither a list nor an object. -/
def scalar : Reader Json := do
  match ← peek with
  | none => throw .endOfText
  | some '"' => return .string (← quoted true)
  | some 'n' => word "null"; return .null
  | some 't' => word "true"; return .bool true
  | some 'f' => word "false"; return .bool false
  | some char => if char = '-' ∨ char.isDigit then return .number (← number) else throw .malformed

/-- The brackets that open a list and an object. -/
def opensContainer (char : Option Char) : Bool :=
  char == some '[' || char == some '\x7b'

/-- Refuses the value that comes next; one that can be read is of the wrong form. -/
def refuse {α : Type} : Reader α := do
  -- A list or an object is refused at its bracket, any other value when it has been read.
  if opensContainer (← peek) then throw .mismatch
  let _ ← scalar
  throw .mismatch

/-- Reads a value that must be of a form accepted by the test. -/
def accepted {α : Type} (accepts : Json → Option α) : Reader α := do
  if opensContainer (← peek) then throw .mismatch
  match accepts (← scalar) with
  | some value => return value
  | none => throw .mismatch

/-- Whether another element follows in a list, past the comma that must precede it. -/
def nextElement (first : Bool) : Reader Bool := do
  match ← peek with
  | none => throw .endOfText
  | some ']' => return false
  | some char =>
    if first then return true
    else if char = ',' then
      advance
      match ← peek with
      | none => throw .endOfText
      | some ']' => throw .malformed
      | some _ => return true
    else throw .malformed

/-- Reads the bracket that ends a list. -/
def closeList : Reader Unit := do
  match ← peek with
  | none => throw .endOfText
  | some ']' => advance
  | some _ => throw .malformed

/-- The key of the next member of an object, past the comma that must precede it. -/
def nextKey (paired first : Bool) : Reader (Option String) := do
  match ← peek with
  | none => throw .endOfText
  | some '\x7d' => return none
  | some char =>
    if first then
      if char = '"' then return some (← quoted paired) else throw .malformed
    else if char = ',' then
      advance
      match ← peek with
      | none => throw .endOfText
      | some '"' => return some (← quoted paired)
      | some _ => throw .malformed
    else throw .malformed

/-- Reads the colon between a key and its value. -/
def colon : Reader Unit := do
  match ← peek with
  | none => throw .endOfText
  | some ':' => advance
  | some _ => throw .malformed

/-- Reads elements one by one until the list ends, for at most as many rounds as given. -/
def elementsFrom {σ : Type} (step : σ → Reader σ) : Nat → Bool → σ → Reader σ
  | 0, _, _ => throw .malformed
  | rounds + 1, first, state => do
    if ← nextElement first then elementsFrom step rounds false (← step state) else return state

/-- Reads a list, one element after the other, and its brackets. -/
def list {σ : Type} (step : σ → Reader σ) (start : σ) : Reader σ := do
  advance
  -- Every element takes a character, so the rounds are never used up.
  let state ← elementsFrom step ((← get).length + 1) true start
  closeList
  return state

/-- Reads members one by one until the object ends, for at most as many rounds as given. -/
def membersFrom {σ : Type} (paired : Bool) (step : σ → String → Reader σ) :
    Nat → Bool → σ → Reader σ
  | 0, _, _ => throw .malformed
  | rounds + 1, first, state => do
    match ← nextKey paired first with
    | some key => membersFrom paired step rounds false (← step state key)
    | none => return state

/-- Reads an object, one member after the other, and its brackets; each step reads its own colon. -/
def object {σ : Type} (paired : Bool) (step : σ → String → Reader σ) (start : σ) : Reader σ := do
  advance
  -- Every member takes a character, so the rounds are never used up.
  let state ← membersFrom paired step ((← get).length + 1) true start
  advance
  return state

/-- Reads any value whose lists and objects are nested no deeper than allowed. -/
def value : Nat → Reader Json
  | 0 => do
    if opensContainer (← peek) then throw .malformed else scalar
  | depth + 1 => do
    match ← peek with
    | some '[' =>
      return .array (← list (fun items => return items ++ [← value depth]) [])
    | some '\x7b' =>
      return .object (← object true
        (fun members key => do colon; return members ++ [(key, ← value depth)]) [])
    | _ => scalar

/-- The deepest nesting of lists and objects that is read. -/
def maxDepth : Nat :=
  127

/-- Passes over a value that is neither a list nor an object, with no look at what it stands for. -/
def skipScalar : Reader Unit := do
  match ← peek with
  | none => throw .endOfText
  | some '"' => discard (quoted false)
  | some 'n' => word "null"
  | some 't' => word "true"
  | some 'f' => word "false"
  | some char =>
    if char = '-' ∨ char.isDigit then
      match Numeral.read (← get) with
      | .ok (_, rest) => set rest
      | .error _ => throw .malformed
    else throw .malformed

/-- Passes over any value that is nested no deeper than allowed. -/
def skipWithin : Nat → Reader Unit
  | 0 => skipScalar
  | depth + 1 => do
    match ← peek with
    | some '[' => list (fun _ => skipWithin depth) ()
    | some '\x7b' => object false (fun _ _ => do colon; skipWithin depth) ()
    | _ => skipScalar

/-- Passes over any value. -/
def skip : Reader Unit := do
  -- Every level of nesting takes a character, so this depth is never reached.
  skipWithin (← get).length

/-- Reads a whole text, after which only a gap may follow. -/
def readAll {α : Type} (reader : Reader α) (text : String) : Except JsonFault α := do
  let (result, rest) ← reader.run text.toList
  if (rest.dropWhile isGap).isEmpty then return result else throw .malformed

end Reader

/-- Reads a text that holds one JSON value. -/
def Json.parse (text : String) : Except JsonFault Json :=
  (Reader.value Reader.maxDepth).readAll text

end SymbolAssist
