import SymbolAssist.Catalogue.Basic
import SymbolAssist.Json.Printer
import SymbolAssist.Json.Reader

/-! Documentation bundles: catalogues written as JSON. -/

namespace SymbolAssist

namespace Json

/-- The value of a field of a record, which is written as an object by names or as a list by position. -/
def field? (json : Json) (position : Nat) (names : List String) : Option (Option Json) :=
  match json with
  | .object members =>
    match members.filter fun (key, _) => names.contains key with
    | [] => some none
    | [(_, value)] => some (some value)
    -- A field given twice is refused, also under two of its names.
    | _ => none
  | .array items => some items[position]?
  | _ => none

/-- A list gives no more values than there are fields. -/
def fitsFields (json : Json) (count : Nat) : Bool :=
  match json with
  | .array items => items.length ≤ count
  | .object _ => true
  | _ => false

/-- A field that must be given, as a string. -/
def requiredText : Option Json → Option String
  | some (.string value) => some value
  | _ => none

/-- A string that may be missing or null. -/
def optionalText : Option Json → Option (Option String)
  | none => some none
  | some .null => some none
  | some (.string value) => some (some value)
  | _ => none

/-- A truth value that is false when missing. -/
def optionalFlag : Option Json → Option Bool
  | none => some false
  | some (.bool value) => some value
  | _ => none

/-- A list that is empty when missing. -/
def optionalList {α : Type} (item? : Json → Option α) : Option Json → Option (List α)
  | none => some []
  | some (.array items) => items.mapM item?
  | _ => none

/-- Any value as documentation shows it, or nothing when it is missing or null. -/
def optionalValue : Option Json → Option String
  | none => none
  | some .null => none
  | some value => some value.display

end Json

/-- Reads a parameter or a field of a type. -/
def Argument.ofJson? (json : Json) : Option Argument := do
  guard (json.fitsFields 3)
  let name ← Json.requiredText (← json.field? 0 ["name"])
  let type ← Json.optionalText (← json.field? 1 ["type", "displayType"])
  let default ← json.field? 2 ["default"]
  return ⟨name, type.bind TypeTag.parse, Json.optionalValue default⟩

/-- One entry of a category, with all that may be given in any of them. -/
structure Entry where
  /-- The full name. -/
  name : String
  /-- The description. -/
  description : Option String
  /-- The text of the type. -/
  type : Option String
  /-- The text of the type of a result. -/
  returnType : Option String
  /-- The parameters of a call. -/
  arguments : List Argument
  /-- The fields of a type. -/
  fields : List Argument
  /-- How a call is written. -/
  usage : Option String
  /-- The text of the value. -/
  value : Option String
  /-- The entry is a method, also among the functions. -/
  isMethod : Bool
  /-- The symbol should no longer be used. -/
  deprecated : Bool
  /-- The symbol is marked as a default. -/
  isDefault : Bool
  deriving Repr, DecidableEq

namespace Entry

/-- Reads an entry, of which all fields are checked in every category. -/
def ofJson? (json : Json) : Option Entry := do
  guard (json.fitsFields 11)
  let name ← Json.requiredText (← json.field? 0 ["name"])
  let description ← Json.optionalText (← json.field? 1 ["desc"])
  let type ← Json.optionalText (← json.field? 2 ["type"])
  let returnType ← Json.optionalText (← json.field? 3 ["returnType"])
  let arguments ← Json.optionalList Argument.ofJson? (← json.field? 4 ["args"])
  let fields ← Json.optionalList Argument.ofJson? (← json.field? 5 ["fields"])
  let usage ← Json.optionalText (← json.field? 6 ["syntax"])
  let value ← json.field? 7 ["value"]
  let isMethod ← Json.optionalFlag (← json.field? 8 ["isMethod"])
  let deprecated ← Json.optionalFlag (← json.field? 9 ["deprecated", "isDeprecated"])
  let isDefault ← Json.optionalFlag (← json.field? 10 ["default"])
  return ⟨name, description, type, returnType, arguments, fields, usage,
    Json.optionalValue value, isMethod, deprecated, isDefault⟩

/-- The signature of an entry that can be called. -/
def signature (entry : Entry) : Signature :=
  ⟨entry.arguments, entry.returnType.bind TypeTag.parse, entry.usage⟩

/-- The binding of an entry that holds a value, whose type may be given as that of a result. -/
def binding (entry : Entry) : Binding :=
  ⟨(entry.type.or entry.returnType).bind TypeTag.parse, entry.value⟩

/-- What an entry declares, which depends on its category. -/
def declaration (entry : Entry) : Category → Declaration
  | .functions => if entry.isMethod then .method entry.signature else .function entry.signature
  | .methods => .method entry.signature
  | .variables => .variable entry.binding
  | .constants => .constant entry.binding
  | .types => .type entry.fields
  | .fields => .field entry.binding

/-- The record of an entry. -/
def record (entry : Entry) (category : Category) : Record where
  name := entry.name
  description := entry.description
  deprecated := entry.deprecated
  isDefault := entry.isDefault
  declaration := entry.declaration category

end Entry

/-- The word for the kind of an alias. -/
def AliasKind.ofName? : String → Option AliasKind
  | "namespace" => some .namespaceName
  | "instance" => some .instanceName
  | _ => none

/-- Reads the kind of an alias, as a word or as an object with that word as its only key. -/
def AliasKind.ofJson? : Option Json → Option AliasKind
  | none => some .namespaceName
  | some (.string name) => ofName? name
  | some (.object [(name, .null)]) => ofName? name
  | _ => none

/-- Reads an alias, as a name or as an object. -/
def Alias.ofJson? (json : Json) : Option Alias :=
  match json with
  | .string name => some (.ofNamespace name)
  | .object _ => do
    let name ← Json.requiredText (← json.field? 0 ["name"])
    let target ← Json.optionalText (← json.field? 1 ["target"])
    let kind ← AliasKind.ofJson? (← json.field? 2 ["kind"])
    return ⟨name, target, kind⟩
  | _ => none

/-- What has been read of a bundle: its aliases, and the other members unchecked. -/
structure BundleDraft where
  /-- The aliases, once they have been read. -/
  aliases : Option (List Alias)
  /-- The other members in their order. -/
  members : List (String × Json)
  deriving Repr

namespace BundleDraft

/-- Nothing has been read. -/
def empty : BundleDraft :=
  ⟨none, []⟩

/-- Reads one alias behind others and checks it at once. -/
def readAlias (aliases : List Alias) : Reader (List Alias) := do
  match Alias.ofJson? (← Reader.value (Reader.maxDepth - 2)) with
  | some declared => return aliases ++ [declared]
  | none => throw .mismatch

/-- Reads a member: aliases only once and checked on the way, and anything else as it stands. -/
def readMember (draft : BundleDraft) (key : String) : Reader BundleDraft := do
  if key = "aliases" then
    if draft.aliases.isSome then throw .mismatch
    Reader.colon
    match ← Reader.peek with
    | some '[' => return { draft with aliases := some (← Reader.list readAlias []) }
    | _ => Reader.refuse
  else
    Reader.colon
    return { draft with members := draft.members ++ [(key, ← Reader.value (Reader.maxDepth - 1))] }

end BundleDraft

/-- A bundle: aliases, and the entries of each member by its name. -/
structure Bundle where
  /-- The aliases in their order. -/
  aliases : List Alias
  /-- The name and the entries of each other member. -/
  categories : List (String × List Entry)
  deriving Repr, DecidableEq

namespace Bundle

/-- Checks the members once the whole object has been read. -/
def ofDraft? (draft : BundleDraft) : Option Bundle := do
  let categories ← draft.members.mapM fun (key, json) => do
    let entries ← Json.optionalList Entry.ofJson? (some json)
    return (key, entries)
  return ⟨draft.aliases.getD [], categories⟩

/-- Reads a bundle, which is an object. -/
def reader : Reader Bundle := do
  match ← Reader.peek with
  | some '\x7b' =>
    match ofDraft? (← Reader.object true BundleDraft.readMember .empty) with
    | some bundle => return bundle
    | none => throw .mismatch
  | _ => Reader.refuse

/-- The names that are no categories. -/
def unknownNames (bundle : Bundle) : List String :=
  (bundle.categories.map Prod.fst).filter fun name => (Category.ofName? name).isNone

/-- The name that comes first in order. -/
def leastName? : List String → Option String
  | [] => none
  | name :: rest =>
    match leastName? rest with
    | some least => if name < least then some name else some least
    | none => some name

/-- The entries of a category, given last if they are given more than once. -/
def entries (bundle : Bundle) (category : Category) : List Entry :=
  match bundle.categories.reverse.find? fun (name, _) => name == category.name with
  | some (_, entries) => entries
  | none => []

/-- Files the entries of a category one after the other. -/
def fileEntries (bundle : Bundle) (catalogue : Catalogue) (category : Category) : Catalogue :=
  (bundle.entries category).foldl
    (fun catalogue entry => catalogue.insert category (entry.record category)) catalogue

/-- The catalogue of a bundle whose members are all categories. -/
def catalogue (bundle : Bundle) : Catalogue :=
  bundle.aliases.foldl Catalogue.addAlias (Category.all.foldl bundle.fileEntries .empty)

end Bundle

end SymbolAssist
