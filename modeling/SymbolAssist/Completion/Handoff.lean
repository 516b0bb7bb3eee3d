import SymbolAssist.Catalogue.OrderedMap
import SymbolAssist.Catalogue.Record

/-! Values handed over for the argument being typed, to be served once. -/

namespace SymbolAssist

/-- Values for each argument of a call, and the argument being typed. -/
structure Handoff where
  /-- The argument being typed. -/
  active : Nat
  /-- The values for each argument. -/
  byArgument : OrderedMap Nat (List Record)
  deriving Repr, DecidableEq

/-- The values for the argument being typed. -/
def Handoff.values (handoff : Handoff) : List Record :=
  (handoff.byArgument.find? handoff.active).getD []

/-- A place for at most one handoff. -/
structure Slot where
  /-- The handoff that waits to be served. -/
  pending : Option Handoff
  deriving Repr, DecidableEq

namespace Slot

/-- Nothing waits. -/
def disarmed : Slot :=
  ⟨none⟩

/-- Something waits. -/
def isArmed (slot : Slot) : Bool :=
  slot.pending.isSome

/-- A handoff waits, and one that waited before is forgotten. -/
def arm (handoff : Handoff) : Slot :=
  ⟨some handoff⟩

/-- The values that serve now; whatever they are, nothing waits afterwards. -/
def values (slot : Slot) : List Record :=
  match slot.pending with
  | some handoff => handoff.values
  | none => []

/-- Takes the values out of the slot. -/
def consume (slot : Slot) : List Record × Slot :=
  (slot.values, disarmed)

end Slot

end SymbolAssist
