import SymbolAssist.Catalogue.Basic

/-! Where symbols are read from, which may fail, and what failures are reported. -/

namespace SymbolAssist

/-- Why a look-up has no answer. -/
inductive LookupError where
  /-- The symbols could not be read. -/
  | unavailable (reason : String)
  /-- A method states nowhere which type it is called on. -/
  | missingReceiver (name : String)
  deriving Repr, DecidableEq

/-- The wording of each failure. -/
def LookupError.message : LookupError → String
  | .unavailable reason => "symbol index unavailable: " ++ reason
  | .missingReceiver name => "method `" ++ name ++ "` has no derivable receiver type"

/-- A place to read symbols from, whose answers by name follow from its whole lists unless it has its own. -/
structure Source where
  /-- All records of some categories, where a later category overrides an earlier one. -/
  category : List Category → Except LookupError RecordMap
  /-- All aliases in order. -/
  aliases : Except LookupError (List Alias)
  /-- One record of some categories by its name. -/
  get : List Category → String → Except LookupError (Option Record) := fun categories name => do
    let records ← category categories
    return records.find? name
  /-- One alias by its name. -/
  findAlias : String → Except LookupError (Option Alias) := fun name => do
    let declared ← aliases
    return declared.find? fun found => found.name = name

/-- A catalogue answers everything itself and never fails. -/
def Catalogue.toSource (catalogue : Catalogue) : Source where
  category categories := .ok (catalogue.merged categories)
  aliases := .ok catalogue.aliases
  get categories name := .ok (catalogue.get? categories name)
  findAlias name := .ok (catalogue.findAlias? name)

/-- Which readings of whole lists fail, and why. -/
structure Outage where
  /-- The reason why some categories cannot be read together. -/
  categories : List Category → Option String
  /-- The reason why aliases cannot be read. -/
  aliases : Option String

/-- A catalogue that is read only in whole lists, some of which fail. -/
def Catalogue.behind (catalogue : Catalogue) (outage : Outage) : Source where
  category categories :=
    match outage.categories categories with
    | some reason => .error (.unavailable reason)
    | none => .ok (catalogue.merged categories)
  aliases :=
    match outage.aliases with
    | some reason => .error (.unavailable reason)
    | none => .ok catalogue.aliases

end SymbolAssist
