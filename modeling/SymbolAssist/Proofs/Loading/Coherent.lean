import SymbolAssist.Proofs.Catalogue.History
import SymbolAssist.Proofs.Loading.Bundle
import SymbolAssist.Proofs.TypeTag.Parts

/-! What holds of every catalogue that was loaded, and where its records come from. -/

namespace SymbolAssist

/-- The types in a signature: those of the parameters and that of the result. -/
def Signature.types (signature : Signature) : List TypeTag :=
  signature.arguments.filterMap Argument.type ++ signature.returnType.toList

/-- The types in a declaration. -/
def Declaration.types : Declaration → List TypeTag
  | .function signature | .method signature => signature.types
  | .variable binding | .constant binding | .field binding | .parameter binding => binding.type.toList
  | .type fields => fields.filterMap Argument.type

/-- A type that can be read from some text, and so can all that is nested in it. -/
def TypeTag.IsReadable (tag : TypeTag) : Prop :=
  ∀ part ∈ tag :: tag.nested, ∃ text, TypeTag.parse text = some part

namespace Json

/-- The items of a list, and none of anything else. -/
def items : Json → List Json
  | .array items => items
  | _ => []

end Json

section Readable

open TypeTag

/-- The type of an optional text is readable, all that is nested in it included. -/
theorem isReadable_of_bind {text : Option String} {tag : TypeTag}
    (parsed : text.bind parse = some tag) : tag.IsReadable := by
  -- A type that was read can be read, and so can all that is nested in it.
  obtain ⟨text, -, parsed⟩ := Option.bind_eq_some_iff.mp parsed
  intro part member
  obtain ⟨written, -, read⟩ := exists_parse_of_mem parsed member
  exact ⟨written, read⟩

/-- What is checked item by item comes from an item each. -/
theorem exists_of_mem_mapM {α β : Type} {check : α → Option β} {items : List α} {results : List β}
    (checked : items.mapM check = some results) {result : β} (listed : result ∈ results) :
    ∃ item, check item = some result := by
  -- Items and results are matched one by one.
  rw [mapM_eq_some_iff] at checked
  induction checked with
  | nil => simp at listed
  | @cons item _ _ _ read _ ih =>
    rcases List.mem_cons.mp listed with rfl | later
    · exact ⟨item, read⟩
    · exact ih later

/-- What stands in an optional list comes from an item of it. -/
theorem exists_of_mem_optionalList {α : Type} {item? : Json → Option α} {given : Option Json}
    {results : List α} (checked : Json.optionalList item? given = some results) {result : α}
    (listed : result ∈ results) : ∃ json, item? json = some result := by
  -- Without a list there are no results.
  rw [Json.optionalList.eq_def] at checked
  split at checked
  · obtain rfl := Option.some.inj checked
    simp at listed
  · exact exists_of_mem_mapM checked listed
  · cases checked

/-- A field is given and read before the rest of a record is. -/
theorem exists_field {α β : Type} {json : Json} {position : Nat} {names : List String}
    {use : Option Json → Option α} {next : α → Option β} {result : β}
    (read : (json.field? position names >>= fun given => use given >>= next) = some result) :
    ∃ given value, json.field? position names = some given ∧ use given = some value ∧
      next value = some result := by
  -- Each step has to succeed for the next one to be taken.
  obtain ⟨given, found, read⟩ := Option.bind_eq_some_iff.mp read
  obtain ⟨value, used, read⟩ := Option.bind_eq_some_iff.mp read
  exact ⟨given, value, found, used, read⟩

/-- The type of a parameter or a field is readable. -/
theorem Argument.isReadable_of_ofJson? {json : Json} {argument : Argument}
    (described : Argument.ofJson? json = some argument) {tag : TypeTag}
    (typed : argument.type = some tag) : tag.IsReadable := by
  -- The fields are read in turn, and the type is what the second of them is read as.
  obtain ⟨_, -, described⟩ := Option.bind_eq_some_iff.mp described
  obtain ⟨_, name, -, -, described⟩ := exists_field described
  obtain ⟨_, type, -, -, described⟩ := exists_field described
  obtain ⟨default, -, described⟩ := Option.bind_eq_some_iff.mp described
  obtain rfl := Option.some.inj described
  exact isReadable_of_bind typed

/-- The types of all arguments that were read are readable. -/
theorem isReadable_of_mem_types {given : Option Json} {arguments : List Argument}
    (described : Json.optionalList Argument.ofJson? given = some arguments) {tag : TypeTag}
    (listed : tag ∈ arguments.filterMap Argument.type) : tag.IsReadable := by
  -- Each type in the list is that of one argument.
  obtain ⟨argument, inArguments, typed⟩ := List.mem_filterMap.mp listed
  obtain ⟨json, described⟩ := exists_of_mem_optionalList described inArguments
  exact Argument.isReadable_of_ofJson? described typed

/-- A text that must be given is a string. -/
theorem Json.requiredText_eq_some_iff {given : Option Json} {text : String} :
    Json.requiredText given = some text ↔ given = some (.string text) := by
  -- Anything but a string is refused.
  rw [Json.requiredText.eq_def]
  split <;> simp_all

/-- The name of an entry is a text of its own, and its arguments and fields are read from lists. -/
theorem Entry.exists_of_ofJson? {json : Json} {entry : Entry}
    (described : Entry.ofJson? json = some entry) :
    json.field? 0 ["name"] = some (some (.string entry.name)) ∧
      (∃ given, Json.optionalList Argument.ofJson? given = some entry.arguments) ∧
      ∃ given, Json.optionalList Argument.ofJson? given = some entry.fields := by
  -- The fields are read in the order of their positions.
  obtain ⟨_, -, described⟩ := Option.bind_eq_some_iff.mp described
  obtain ⟨_, name, givenName, isText, described⟩ := exists_field described
  obtain ⟨_, description, -, -, described⟩ := exists_field described
  obtain ⟨_, type, -, -, described⟩ := exists_field described
  obtain ⟨_, returnType, -, -, described⟩ := exists_field described
  obtain ⟨_, arguments, -, givenArguments, described⟩ := exists_field described
  obtain ⟨_, fields, -, givenFields, described⟩ := exists_field described
  obtain ⟨_, usage, -, -, described⟩ := exists_field described
  obtain ⟨value, -, described⟩ := Option.bind_eq_some_iff.mp described
  obtain ⟨_, isMethod, -, -, described⟩ := exists_field described
  obtain ⟨_, deprecated, -, -, described⟩ := exists_field described
  obtain ⟨_, isDefault, -, -, described⟩ := exists_field described
  obtain rfl := Option.some.inj described
  rw [Json.requiredText_eq_some_iff.mp isText] at givenName
  exact ⟨givenName, ⟨_, givenArguments⟩, _, givenFields⟩

/-- Every type that an entry declares is readable, whichever category it is filed in. -/
theorem Entry.isReadable_of_ofJson? {json : Json} {entry : Entry}
    (described : Entry.ofJson? json = some entry) (category : Category) {tag : TypeTag}
    (listed : tag ∈ (entry.declaration category).types) : tag.IsReadable := by
  obtain ⟨-, ⟨_, givenArguments⟩, _, givenFields⟩ := exists_of_ofJson? described
  -- A declaration has the types of a signature, of a binding or of fields.
  have inSignature (listed : tag ∈ entry.signature.types) : tag.IsReadable := by
    rcases List.mem_append.mp listed with inArguments | isResult
    · exact isReadable_of_mem_types givenArguments inArguments
    · exact isReadable_of_bind (Option.mem_toList.mp isResult)
  have inBinding (listed : tag ∈ entry.binding.type.toList) : tag.IsReadable :=
    isReadable_of_bind (Option.mem_toList.mp listed)
  cases category with
  | functions =>
    rw [declaration] at listed
    split at listed <;> exact inSignature listed
  | methods => exact inSignature listed
  | types => exact isReadable_of_mem_types givenFields listed
  | _ => exact inBinding listed

end Readable

/-- The change that files an entry in a category. -/
def Entry.insertion (category : Category) (entry : Entry) : Edit :=
  .insert category (entry.record category)

namespace Edit

end Edit

namespace Bundle

/-- The changes that make the catalogue of a bundle: its entries by category, and then its aliases. -/
def edits (bundle : Bundle) : List Edit :=
  (Category.all.flatMap fun category => (bundle.entries category).map (Entry.insertion category)) ++
    bundle.aliases.map .declare

variable (bundle : Bundle) (category : Category)

section Source

end Source

end Bundle

namespace Catalogue

end Catalogue

end SymbolAssist
