import SymbolAssist.Lookup.Methods

/-! The documentation shown for a name, found by trying one key after another. -/

namespace SymbolAssist

open Text

/-- What is shown for a name. -/
structure Hover where
  /-- The documentation, from the receiver's point of view. -/
  record : Record
  /-- The name of the symbol. -/
  functionName : String
  /-- The receiver. -/
  space : Option String
  deriving Repr, DecidableEq

/-- One place to look: a key in some categories. -/
structure Probe where
  /-- The categories to look in. -/
  categories : List Category
  /-- The key to look for. -/
  key : String
  deriving Repr, DecidableEq

/-- Two names with a dot between them. -/
def joinDot (space member : String) : String :=
  space ++ "." ++ member

/-- The names a function may have under the declared aliases, and at last its own. -/
def aliasKeys (aliases : List Alias) (function : String) : List String :=
  aliases.map (fun declared => joinDot declared.name function) ++ [function]

namespace Source

/-- The record at the first probe that hits; a probe that fails ends the search. -/
def firstHit (source : Source) : List Probe → Except LookupError (Option Record)
  | [] => return none
  | probe :: rest => do
    match ← source.get probe.categories probe.key with
    | some record => return some record
    | none => source.firstHit rest

/-- A name on its own is looked up in each category in turn. -/
def hoverFree (source : Source) (name : String) : Except LookupError (Option Hover) := do
  let hit ← source.firstHit (Category.all.map fun category => ⟨[category], name⟩)
  return hit.map fun record => ⟨record, name, none⟩

/-- A member of a type that a script declares is filed under that type's name, and shown as it is. -/
def hoverUserType (source : Source) (space function : String) (tag : TypeTag) :
    Except LookupError (Option Hover) := do
  if ← source.isUserType tag then
    match tag.name? with
    | some name =>
      let key := joinDot name function
      let hit ← source.get Category.callables key
      return hit.map fun record => ⟨record, key, some space⟩
    | none => return none
  else return none

/-- Where a member may be filed by the type of its receiver, and at last for any receiver. -/
def receiverProbes (settings : Settings) (receiver : Option TypeTag) (function : String) :
    List Probe :=
  let names := match receiver with
    | some tag => tag.lookupNames
    | none => []
  names.map (fun name => ⟨Category.callables, joinDot name function⟩) ++
    [⟨[.methods], settings.wildcardKey function⟩]

/-- A member filed by receiver type, for any receiver, under an alias, or on its own. -/
def expand (source : Source) (settings : Settings) (receiver : Option TypeTag)
    (function : String) : Except LookupError (Option Record) := do
  match ← source.firstHit (receiverProbes settings receiver function) with
  | some record => return some record
  | none =>
    -- Aliases are read only when the receiver did not decide.
    let aliases ← source.aliases
    source.firstHit ((aliasKeys aliases function).map fun key => ⟨Category.callables, key⟩)

/-- What is shown for a function behind a receiver, either of which may be empty. -/
def hoverMember (source : Source) (settings : Settings) (space function : String) :
    Except LookupError (Option Hover) := do
  if function = "" then return none
  if space = "" then return ← source.hoverFree function
  let receiver ← source.typeOf space
  let own ← match receiver with
    | some tag => source.hoverUserType space function tag
    | none => pure none
  match own with
  | some hover => return some hover
  | none =>
    let hit ← source.expand settings receiver function
    return hit.map fun record => ⟨record.withReceiver space, function, some space⟩

/-- What is shown for a dotted name. -/
def hover (source : Source) (settings : Settings) (key : String) :
    Except LookupError (Option Hover) :=
  let body := trim key.toList
  if body = [] then return none
  else
    let (space, function) := splitNamespace body
    source.hoverMember settings (String.ofList space) (String.ofList function)

end Source

end SymbolAssist
