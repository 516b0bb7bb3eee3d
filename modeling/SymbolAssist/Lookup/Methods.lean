import SymbolAssist.Lookup.Inference
import SymbolAssist.Settings
import SymbolAssist.TypeTag.Compatible

/-! The methods that fit a receiver and a member typed behind it. -/

namespace SymbolAssist

open Text

/-- Methods that fit, and methods of which that cannot be told. -/
structure MethodCandidates where
  /-- The methods that fit, in order. -/
  records : List Record
  /-- The failures on the way, in order. -/
  errors : List LookupError
  deriving Repr, DecidableEq

namespace MethodCandidates

/-- Neither a method nor a failure. -/
def none : MethodCandidates :=
  ⟨[], []⟩

/-- Sorts verdicts into methods and failures. -/
def ofVerdicts (verdicts : List (Except LookupError Record)) : MethodCandidates where
  records := verdicts.filterMap Except.toOption
  errors := verdicts.filterMap fun verdict =>
    match verdict with
    | .ok _ => Option.none
    | .error reason => some reason

end MethodCandidates

/-- What is said of one entry of the methods: nothing, that it fits, or that its receiver is unknown. -/
def methodVerdict (settings : Settings) (receiver : TypeTag) (space member : String)
    (key : String) (record : Record) : Option (Except LookupError Record) :=
  if !record.isMethod || settings.isWildcard key then none
  else if !settings.budgets.matchesMember space.toList member.toList record.name.toList then none
  else
    match record.receiverType? settings.wildcard with
    | none => some (.error (.missingReceiver record.name))
    | some declared => if receiver.compatible declared then some (.ok record) else none

namespace Source

/-- The type of what stands before the dot: its declared type, or else what its alias stands for. -/
def receiverType (source : Source) (space : String) (declared : Option Alias) :
    Except LookupError (Option TypeTag) := do
  match ← source.typeOf space with
  | some tag => return some tag
  | none => return declared.bind fun found => found.target.bind TypeTag.parse

/-- The methods offered for a member typed behind a receiver. -/
def methods (source : Source) (settings : Settings) (space member : String) :
    Except LookupError MethodCandidates := do
  let space := String.ofList (trim space.toList)
  if space = "" then return .none
  let declared ← source.findAlias space
  -- A namespace alias groups functions and has no methods.
  if declared.any fun found => found.kind == .namespaceName then return .none
  match ← source.receiverType space declared with
  | none => return .none
  | some receiver =>
    let entries ← source.category [.methods]
    return .ofVerdicts (entries.entries.filterMap fun (key, record) =>
      methodVerdict settings receiver space member key record)

end Source

end SymbolAssist
