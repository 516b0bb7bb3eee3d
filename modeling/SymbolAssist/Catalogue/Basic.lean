import SymbolAssist.Catalogue.Category
import SymbolAssist.Catalogue.OrderedMap
import SymbolAssist.Catalogue.Record

/-! Catalogues: documented symbols by category and name, and the aliases declared beside them. -/

namespace SymbolAssist

/-- What an alias stands for. -/
inductive AliasKind where
  /-- A group of names, which is no receiver. -/
  | namespaceName
  /-- A value, whose target is its type. -/
  | instanceName
  deriving Repr, DecidableEq

/-- A name that may stand before a dot without being declared as a symbol. -/
structure Alias where
  /-- The name itself. -/
  name : String
  /-- The text of what it stands for. -/
  target : Option String
  /-- Whether it groups names or is a value. -/
  kind : AliasKind
  deriving Repr, DecidableEq

/-- A namespace alias without a target. -/
def Alias.ofNamespace (name : String) : Alias :=
  ⟨name, none, .namespaceName⟩

/-- Records under their names, in order. -/
abbrev RecordMap := OrderedMap String Record

/-- The records of each category and the aliases, all in the order of their first insertion. -/
structure Catalogue where
  /-- Functions. -/
  functionMap : RecordMap
  /-- Methods. -/
  methodMap : RecordMap
  /-- Variables. -/
  variableMap : RecordMap
  /-- Constants. -/
  constantMap : RecordMap
  /-- Types declared by scripts. -/
  typeMap : RecordMap
  /-- Fields of such types. -/
  fieldMap : RecordMap
  /-- Declared aliases. -/
  aliases : List Alias
  deriving Repr, DecidableEq

namespace Catalogue

/-- The catalogue with nothing in it. -/
def empty : Catalogue :=
  ⟨.empty, .empty, .empty, .empty, .empty, .empty, []⟩

/-- The records of a category. -/
def records (catalogue : Catalogue) : Category → RecordMap
  | .functions => catalogue.functionMap
  | .methods => catalogue.methodMap
  | .variables => catalogue.variableMap
  | .constants => catalogue.constantMap
  | .types => catalogue.typeMap
  | .fields => catalogue.fieldMap

/-- The catalogue with the records of one category replaced. -/
def withRecords (catalogue : Catalogue) (category : Category) (records : RecordMap) : Catalogue :=
  match category with
  | .functions => { catalogue with functionMap := records }
  | .methods => { catalogue with methodMap := records }
  | .variables => { catalogue with variableMap := records }
  | .constants => { catalogue with constantMap := records }
  | .types => { catalogue with typeMap := records }
  | .fields => { catalogue with fieldMap := records }

/-- Files a record under its name, in place of an earlier one of that name. -/
def insert (catalogue : Catalogue) (category : Category) (record : Record) : Catalogue :=
  catalogue.withRecords category ((catalogue.records category).insert record.name record)

/-- Takes a name out of a category. -/
def erase (catalogue : Catalogue) (category : Category) (name : String) : Catalogue :=
  catalogue.withRecords category ((catalogue.records category).erase name)

/-- Puts an alias into a list, in place of one of the same name or else at the end. -/
def insertAlias (declared : Alias) : List Alias → List Alias
  | [] => [declared]
  | earlier :: rest =>
    if earlier.name = declared.name then declared :: rest else earlier :: insertAlias declared rest

/-- Declares an alias, in place of an earlier one of that name. -/
def addAlias (catalogue : Catalogue) (declared : Alias) : Catalogue :=
  { catalogue with aliases := insertAlias declared catalogue.aliases }

/-- The record under a name in one category. -/
def lookup (catalogue : Catalogue) (category : Category) (name : String) : Option Record :=
  (catalogue.records category).find? name

/-- The records of several categories in one map: a name keeps its first place and takes its last record. -/
def merged (catalogue : Catalogue) (categories : List Category) : RecordMap :=
  categories.foldl (fun map category => map.merge (catalogue.records category)) .empty

/-- The record under a name in the last of the categories that has it. -/
def get? (catalogue : Catalogue) (categories : List Category) (name : String) : Option Record :=
  categories.reverse.findSome? fun category => catalogue.lookup category name

/-- The alias of a name. -/
def findAlias? (catalogue : Catalogue) (name : String) : Option Alias :=
  catalogue.aliases.find? fun declared => declared.name = name

/-- The number of records over all categories. -/
def size (catalogue : Catalogue) : Nat :=
  Category.all.foldl (fun total category => total + (catalogue.records category).size) 0

/-- No category holds a record, whatever the aliases. -/
def isEmpty (catalogue : Catalogue) : Bool :=
  Category.all.all fun category => (catalogue.records category).entries.isEmpty

end Catalogue

end SymbolAssist
