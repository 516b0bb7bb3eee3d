import SymbolAssist.Lookup.Source
import SymbolAssist.Text.Blank
import SymbolAssist.Text.Identifier

/-! The type of a receiver, from what is declared of its name. -/

namespace SymbolAssist

open Text

/-- What is known of the type of a name. -/
inductive Resolution where
  /-- The only declared type. -/
  | found (tag : TypeTag)
  /-- Several declared types, in the order of their categories. -/
  | ambiguous (tags : List TypeTag)
  /-- No declared type. -/
  | notFound
  deriving Repr, DecidableEq

namespace Resolution

/-- The outcome for the distinct types that were found. -/
def ofTypes : List TypeTag → Resolution
  | [] => .notFound
  | [tag] => .found tag
  | tags => .ambiguous tags

/-- The type, where only one was found. -/
def type? : Resolution → Option TypeTag
  | .found tag => some tag
  | _ => none

end Resolution

namespace Source

/-- The declared types of a name among variables and fields; what is no dotted path has none. -/
def resolve (source : Source) (name : String) : Except LookupError Resolution :=
  let body := trim name.toList
  if isIdentifierPath body then do
    let key := String.ofList body
    let records ← Category.values.mapM fun category => source.get [category] key
    return .ofTypes (records.filterMap fun record => record.bind Record.declaredType?).eraseDups
  else return .notFound

/-- The type of a name, if there is exactly one. -/
def typeOf (source : Source) (name : String) : Except LookupError (Option TypeTag) := do
  let resolution ← source.resolve name
  return resolution.type?

/-- A named type that is declared in the source. -/
def isUserType (source : Source) (tag : TypeTag) : Except LookupError Bool :=
  match tag.name? with
  | some name => do
    let declared ← source.get [.types] name
    return declared.isSome
  | none => return false

end Source

end SymbolAssist
