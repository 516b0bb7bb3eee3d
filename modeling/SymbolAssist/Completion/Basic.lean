import SymbolAssist.Completion.Handoff
import SymbolAssist.Document.Cursor
import SymbolAssist.Document.LineTable
import SymbolAssist.Lookup.Methods

/-! What can be typed at a position: values handed over for an argument, or names and methods. -/

namespace SymbolAssist

open Text

/-- One thing that can be typed. -/
structure Candidate where
  /-- The text to insert. -/
  displayName : String
  /-- The receiver of a method. -/
  space : Option String
  /-- The documentation. -/
  record : Record
  /-- The candidate is a value for an argument. -/
  isArgument : Bool
  /-- What the candidate is shown as. -/
  kind : SymbolKind
  /-- The rank among the values for an argument. -/
  rank : Option Nat
  deriving Repr, DecidableEq

namespace Candidate

/-- A name that needs no receiver. -/
def free (record : Record) : Candidate where
  displayName := record.name
  space := none
  record := record
  isArgument := false
  kind := record.kind
  rank := none

/-- A method of a receiver. -/
def method (space : String) (record : Record) : Candidate where
  displayName := space ++ "." ++ record.memberName
  space := some space
  record := record
  isArgument := false
  kind := .method
  rank := none

/-- The highest rank, which all later values share. -/
def lastRank : Nat :=
  0xFFFFFFFF

/-- A value for an argument, at its place among the others. -/
def argument (index : Nat) (record : Record) : Candidate where
  displayName := record.name
  space := none
  record := record
  isArgument := true
  kind := record.kind
  rank := some (min index lastRank)

/-- The text to show, where what can be called is followed by brackets. -/
def label (candidate : Candidate) : String :=
  if candidate.record.kind.isCallable then candidate.displayName ++ "()" else candidate.displayName

/-- Accepting the candidate opens a call, so its parameters are to be shown. -/
def opensCall (candidate : Candidate) : Bool :=
  !candidate.isArgument && candidate.record.kind.isCallable

end Candidate

/-- The answer to a request for completion. -/
structure CompletionList where
  /-- The candidates in order. -/
  items : List Candidate
  /-- Where inserted text starts to replace what is there. -/
  replaceStart : Position
  /-- Typing on calls for another request. -/
  incomplete : Bool
  /-- The failures on the way. -/
  errors : List LookupError
  deriving Repr, DecidableEq

/-- Nothing to offer, and nothing to replace. -/
def CompletionList.empty (position : Position) : CompletionList :=
  ⟨[], position, false, []⟩

/-- When a request is withdrawn. -/
inductive Cancellation where
  /-- Not at all. -/
  | never
  /-- Before it is looked at. -/
  | before
  /-- While the source is being read. -/
  | duringRead
  deriving Repr, DecidableEq

/-- The values for an argument, which replace what has been typed of it. -/
def argumentList (values : List Record) (position : Position) (typed : List Char) :
    CompletionList where
  items := values.mapIdx Candidate.argument
  replaceStart := { position with column := Cursor.argumentStart typed }
  incomplete := false
  errors := []

namespace Source

/-- The names without a receiver that a fragment finds. -/
def freeCandidates (source : Source) (settings : Settings) (fragment : List Char) :
    Except LookupError (List Candidate) := do
  let symbols ← source.category Category.freeSymbols
  return (symbols.entries.filter fun (name, _) =>
    settings.budgets.matchesFree fragment name.toList).map fun (_, record) => .free record

/-- The methods that a dotted fragment finds, with the failures on the way. -/
def methodCandidates (source : Source) (settings : Settings) (fragment : List Char) :
    Except LookupError (List Candidate × List LookupError) :=
  if '.' ∈ fragment then do
    let (space, member) := splitNamespace fragment
    let found ← source.methods settings (String.ofList space) (String.ofList member)
    return (found.records.map (Candidate.method (String.ofList space)), found.errors)
  else return ([], [])

/-- The names and methods that a fragment finds; a part that cannot be read adds only its failure. -/
def ordinaryList (source : Source) (settings : Settings) (position : Position)
    (typed fragment : List Char) : CompletionList :=
  let (names, nameErrors) := match source.freeCandidates settings fragment with
    | .ok names => (names, [])
    | .error reason => ([], [reason])
  let (methods, methodErrors) := match source.methodCandidates settings fragment with
    | .ok found => found
    | .error reason => ([], [reason])
  { items := names ++ methods
    replaceStart := { position with column := Cursor.fragmentStart typed }
    incomplete := true
    errors := nameErrors ++ methodErrors }

/-- What can be typed at a position of a text, given the values that were handed over. -/
def completionList (source : Source) (settings : Settings) (values : List Record)
    (text : List Char) (position : Position) (cancellation : Cancellation) : CompletionList :=
  let table := LineTable.ofText text
  match table.lineText? text position.line, table.textBefore? text position with
  | some line, some typed =>
    -- Values for an argument are served even on blank lines of a call.
    if values ≠ [] then argumentList values position typed
    else if trim line = [] ∨ settings.isExcluded line then .empty position
    else
      match Cursor.fragment? typed with
      | none => .empty position
      | some fragment =>
        if cancellation = .duringRead then .empty position
        else source.ordinaryList settings position typed fragment
  | _, _ => .empty position

/--
Answers a request for completion; whatever waited in the slot is gone afterwards.

The text is taken to have fewer than `2 ^ 32` bytes, so that its offsets fit into 32 bits; longer texts are
outside the model.
-/
def complete (source : Source) (settings : Settings) (slot : Slot) (text : String)
    (position : Position) (cancellation : Cancellation) : CompletionList × Slot :=
  if cancellation = .before then (.empty position, .disarmed)
  else
    let (values, slot) := slot.consume
    (source.completionList settings values text.toList position cancellation, slot)

end Source

end SymbolAssist
