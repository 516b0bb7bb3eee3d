import SymbolAssist.Completion.Basic
import SymbolAssist.Lookup.Hover

/-! A host: one source for many documents, each with a slot of its own. -/

namespace SymbolAssist

/-- The number of a slot, by which it stays known when its document is closed. -/
abbrev SlotId := Nat

/-- The source and settings, every slot ever made, and the slot of each open document. -/
structure Host where
  /-- Where symbols are read from. -/
  source : Source
  /-- How they are looked up. -/
  settings : Settings
  /-- All slots, by number. -/
  slots : List Slot
  /-- The slots of the documents that have one now. -/
  sessions : OrderedMap DocumentId SlotId

/-- Which slot is meant: that of a document, or one known by its number. -/
inductive SlotRef where
  /-- The slot that a document has now. -/
  | document (document : DocumentId)
  /-- The slot of a number, also when its document has been closed. -/
  | held (slot : SlotId)
  deriving Repr, DecidableEq

/-- What a host can be asked to do. -/
inductive Request where
  /-- Completes at a position of a document. -/
  | complete (document : DocumentId) (text : String) (position : Position)
      (cancellation : Cancellation)
  /-- Shows the documentation of a name. -/
  | hover (key : String)
  /-- Shows the documentation of the name at a position of a text. -/
  | hoverAt (text : String) (position : Position)
  /-- Lists the aliases. -/
  | aliases
  /-- Forgets the slot of a document. -/
  | close (document : DocumentId)
  /-- Reads from another source from now on and forgets the slots of all documents. -/
  | replaceSource (source : Source)
  /-- Makes the slot of a document known by its number. -/
  | hold (document : DocumentId)
  /-- Hands values over through a slot. -/
  | arm (slot : SlotRef) (handoff : Handoff)
  /-- Takes the values out of a slot. -/
  | consume (slot : SlotRef)
  /-- Empties a slot. -/
  | clear (slot : SlotRef)
  /-- Asks whether something waits in a slot. -/
  | isArmed (slot : SlotRef)

/-- What a host answers. -/
inductive Response where
  /-- What can be typed at a position. -/
  | completed (list : CompletionList)
  /-- The documentation of a name, if there is any. -/
  | hovered (outcome : Except LookupError (Option Hover))
  /-- The aliases of the source. -/
  | aliases (outcome : Except LookupError (List Alias))
  /-- The number of a slot. -/
  | held (slot : SlotId)
  /-- The values that were in a slot. -/
  | values (records : List Record)
  /-- Whether something waits in a slot now. -/
  | armed (waiting : Bool)
  /-- Nothing but that the request was carried out. -/
  | done

namespace Host

/-- A host that no document is open in. -/
def new (source : Source) (settings : Settings) : Host :=
  ⟨source, settings, [], .empty⟩

/-- The number of documents that have a slot. -/
def sessionCount (host : Host) : Nat :=
  host.sessions.size

/-- The slot of a document, which is made when it is first asked for. -/
def session (host : Host) (document : DocumentId) : SlotId × Host :=
  match host.sessions.find? document with
  | some slot => (slot, host)
  | none =>
    -- A new slot takes the next number, so no number is ever used twice.
    let slot := host.slots.length
    (slot, { host with
      slots := host.slots ++ [.disarmed]
      sessions := host.sessions.insert document slot })

/-- The slot of a number. -/
def slot (host : Host) (number : SlotId) : Slot :=
  host.slots[number]?.getD .disarmed

/-- The host with the content of one slot replaced. -/
def withSlot (host : Host) (number : SlotId) (slot : Slot) : Host :=
  { host with slots := host.slots.set number slot }

/-- Finds the slot that is meant. -/
def locate (host : Host) : SlotRef → SlotId × Host
  | .document document => host.session document
  | .held number => (number, host)

/--
What is shown for the dotted name at a position of a text.

The text is taken to have fewer than `2 ^ 32` bytes, as for completion; longer texts are outside the model.
-/
def hoverAt (host : Host) (text : String) (position : Position) :
    Except LookupError (Option Hover) :=
  let chars := text.toList
  match (LineTable.ofText chars).lineText? chars position.line with
  | none => return none
  | some line =>
    match Cursor.qualifiedNameAt line position.column with
    | some key => host.source.hover host.settings (String.ofList key)
    | none => return none

/-- One request and the host after it. -/
def answer (host : Host) : Request → Response × Host
  | .complete document text position cancellation =>
    let (number, host) := host.session document
    let (list, slot) :=
      host.source.complete host.settings (host.slot number) text position cancellation
    (.completed list, host.withSlot number slot)
  | .hover key => (.hovered (host.source.hover host.settings key), host)
  | .hoverAt text position => (.hovered (host.hoverAt text position), host)
  | .aliases => (.aliases host.source.aliases, host)
  | .close document => (.done, { host with sessions := host.sessions.erase document })
  | .replaceSource source => (.done, { host with source := source, sessions := .empty })
  | .hold document =>
    let (number, host) := host.session document
    (.held number, host)
  | .arm slot handoff =>
    let (number, host) := host.locate slot
    let host := host.withSlot number (.arm handoff)
    (.armed (host.slot number).isArmed, host)
  | .consume slot =>
    let (number, host) := host.locate slot
    let (values, rest) := (host.slot number).consume
    (.values values, host.withSlot number rest)
  | .clear slot =>
    let (number, host) := host.locate slot
    let host := host.withSlot number .disarmed
    (.armed (host.slot number).isArmed, host)
  | .isArmed slot =>
    let (number, host) := host.locate slot
    (.armed (host.slot number).isArmed, host)

/-- Answers requests one after the other. -/
def run (host : Host) : List Request → List Response × Host
  | [] => ([], host)
  | request :: rest =>
    let (response, host) := host.answer request
    let (responses, host) := host.run rest
    (response :: responses, host)

end Host

end SymbolAssist
