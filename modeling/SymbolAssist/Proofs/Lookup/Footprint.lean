import SymbolAssist.Proofs.Catalogue.History
import SymbolAssist.Proofs.Lookup.Precedence

/-! What the answer for a hovered key depends on, and that all other records can come and go without
changing it. -/

namespace SymbolAssist

open Text

/-- What is shown for a key without a dot is looked up under the key itself. -/
theorem Source.hover_undotted (source : Source) (settings : Settings) {key : String}
    (undotted : '.' ∉ trim key.toList) (solid : trim key.toList ≠ []) :
    source.hover settings key = source.hoverFree (String.ofList (trim key.toList)) := by
  have named : String.ofList (trim key.toList) ≠ "" := fun empty =>
    solid (String.ofList_eq_empty_iff.mp empty)
  -- The whole key is the member, and its receiver is empty.
  rw [Source.hover, if_neg solid, splitNamespace, cutAtLastDot_eq_none_iff.mpr undotted,
    Option.getD_none]
  show source.hoverMember settings (String.ofList []) _ = _
  rw [Source.hoverMember, if_neg named, if_pos rfl]

namespace Edit

/-- A change concerns one name in one category at most. -/
theorem concerns_unique {change : Edit} {category other : Category} {name another : String}
    (about : change.concerns category name) (also : change.concerns other another) :
    other = category ∧ another = name := by
  -- The category and the name are both compared with those of the change.
  cases change with
  | insert | erase => simp_all [concerns]
  | declare => cases about

/-- A change that concerns a name is a change to its category. -/
theorem category?_of_concerns {change : Edit} {category : Category} {name : String}
    (about : change.concerns category name) : change.category? = some category := by
  -- A change concerns names of its own category.
  cases change with
  | insert | erase => simp_all [concerns, category?]
  | declare => cases about

end Edit

namespace Catalogue

/-- What is filed under a name in a category can have a say in what is shown for a key. -/
def bearsOn (catalogue : Catalogue) (key : String) (category : Category) (name : String) : Bool :=
  match cutAtLastDot (trim key.toList) with
  -- A key without a dot is looked up by itself.
  | none => name.toList = trim key.toList
  | some (space, function) =>
    -- A member is looked up under names that end in it,
    lastSegment name.toList = function ∨
      -- its receiver among the values,
      category ∈ Category.values ∧ name.toList = trim space ∨
      -- and the type of the receiver among the types.
      category = .types ∧
        (catalogue.valueType? (String.ofList space)).bind TypeTag.name? = some name

variable {first second : Catalogue} {key space function : String}

/-- A free name is shown alike by catalogues that file the same under it. -/
theorem hoverFree_congr {name : String}
    (agree : ∀ category, second.lookup category name = first.lookup category name) :
    second.toSource.hoverFree name = first.toSource.hoverFree name := by
  -- Each category is asked for the name and for nothing else.
  rw [Source.hoverFree, Source.hoverFree, firstHit_toSource, firstHit_toSource]
  simp only [List.findSome?_map, Function.comp_def, get?_singleton, agree]

/-- A value has the same type in catalogues that file the same under its name. -/
theorem valueType?_congr
    (agree : ∀ category ∈ Category.values, ∀ name : String, name.toList = trim space.toList →
      second.lookup category name = first.lookup category name) :
    second.valueType? space = first.valueType? space := by
  -- The type comes from two look-ups of the trimmed name.
  have asked : ∀ category ∈ Category.values,
      second.lookup category (String.ofList (trim space.toList)) =
        first.lookup category (String.ofList (trim space.toList)) :=
    fun category value => agree category value _ (by simp)
  simp only [valueType?, asked .variables (by decide), asked .fields (by decide)]

/-- Every place of a member is under a name that ends in the member, so catalogues that agree on such
names have the same record at each. -/
theorem stored_congr (settings : Settings) (undotted : '.' ∉ function.toList)
    (agree : ∀ category name, lastSegment name.toList = function.toList →
      second.lookup category name = first.lookup category name) :
    Place.stored second settings function = Place.stored first settings function := by
  have behind : ∀ name, second.callable? (joinDot name function) =
      first.callable? (joinDot name function) := by
    intro name
    have ends : lastSegment (joinDot name function).toList = function.toList := by
      rw [toList_joinDot, lastSegment_append _ undotted]
    simp only [callable?, agree _ _ ends]
  funext place
  cases place with
  | userType name | receiverType name | underAlias name => exact behind name
  | anyReceiver =>
    -- The wildcard, too, stands before a dot.
    refine agree _ _ ?_
    rw [Settings.wildcardKey, String.toList_ofList]
    exact lastSegment_append [settings.wildcard] undotted
  | alone => simp only [Place.stored, callable?, agree _ _ (lastSegment_of_undotted undotted)]

/-- Members are filed at the same places in catalogues that agree on the receiver and on its type. -/
theorem places_congr (names : List String)
    (receivers : second.valueType? space = first.valueType? space)
    (types : ∀ tag name, first.valueType? space = some tag → tag.name? = some name →
      second.lookup .types name = first.lookup .types name) :
    second.places names space = first.places names space := by
  -- Only the question whether a script declares the type is left open by the type of the receiver.
  have declared : (first.valueType? space).bind second.userType? =
      (first.valueType? space).bind first.userType? := by
    cases typed : first.valueType? space with
    | none => rfl
    | some tag =>
      rw [Option.bind_some, Option.bind_some, userType?, userType?]
      cases named : tag.name? with
      | none => rfl
      | some name => simp only [Option.filter_some, types tag name typed named]
  simp only [places, receivers, declared]

/-- What is shown for a member of a receiver follows from the names that end in the member, the values
under the receiver's name and the declaration of its type. -/
theorem hoverMember_congr (settings : Settings)
    (aliases : second.aliases.map Alias.name = first.aliases.map Alias.name)
    (undotted : '.' ∉ function.toList)
    (members : ∀ category name, lastSegment name.toList = function.toList →
      second.lookup category name = first.lookup category name)
    (receivers : ∀ category ∈ Category.values, ∀ name : String, name.toList = trim space.toList →
      second.lookup category name = first.lookup category name)
    (types : ∀ tag name, first.valueType? space = some tag → tag.name? = some name →
      second.lookup .types name = first.lookup .types name) :
    second.toSource.hoverMember settings space function =
      first.toSource.hoverMember settings space function := by
  by_cases silent : function = ""
  · rw [Source.hoverMember, Source.hoverMember, if_pos silent, if_pos silent]
  by_cases unbound : space = ""
  · -- Behind an empty receiver the member is looked up by itself.
    rw [Source.hoverMember, Source.hoverMember, if_neg silent, if_neg silent, if_pos unbound,
      if_pos unbound, hoverFree_congr fun category =>
        members category function (lastSegment_of_undotted undotted)]
  · -- The places are the same, and so is what is filed at each of them.
    have places : ∀ names, second.places names space = first.places names space := fun names =>
      places_congr names (valueType?_congr receivers) types
    have answers : Place.answer second settings space function =
        Place.answer first settings space function := by
      funext place
      simp only [Place.answer, stored_congr settings undotted members]
    rw [hoverMember_toSource second settings unbound silent,
      hoverMember_toSource first settings unbound silent, aliases, places, answers]

/-- Catalogues with the same aliases that agree on all that bears on a key show the same for it. -/
theorem hover_congr (settings : Settings)
    (aliases : second.aliases.map Alias.name = first.aliases.map Alias.name)
    (agree : ∀ category name, first.bearsOn key category name →
      second.lookup category name = first.lookup category name) :
    second.toSource.hover settings key = first.toSource.hover settings key := by
  by_cases blank : trim key.toList = []
  · -- Of blanks alone nothing is looked up.
    rw [Source.hover, Source.hover, if_pos blank, if_pos blank]
  cases cut : cutAtLastDot (trim key.toList) with
  | none =>
    have undotted := cutAtLastDot_eq_none_iff.mp cut
    rw [Source.hover_undotted _ settings undotted blank,
      Source.hover_undotted _ settings undotted blank]
    exact hoverFree_congr fun category => agree category _ (by simp [bearsOn, cut])
  | some parts =>
    obtain ⟨space, function⟩ := parts
    obtain ⟨whole, last⟩ := cutAtLastDot_eq_some_iff.mp cut
    have written : String.ofList (trim key.toList) =
        joinDot (String.ofList space) (String.ofList function) := by
      simp [whole, ← String.toList_inj]
    have undotted : '.' ∉ (String.ofList function).toList := by simpa using last
    rw [Source.hover_dotted _ settings written undotted,
      Source.hover_dotted _ settings written undotted]
    -- Each of the three kinds of look-up is one of the ways to bear on the key.
    refine hoverMember_congr settings aliases undotted ?_ ?_ ?_
    · intro category name ends
      rw [String.toList_ofList] at ends
      exact agree category name (by simp [bearsOn, cut, ends])
    · intro category value name same
      rw [String.toList_ofList] at same
      exact agree category name (by simp [bearsOn, cut, value, same])
    · intro tag name typed named
      exact agree .types name (by simp [bearsOn, cut, typed, named])

/--
A record that does not bear on a key can come and go without changing what is shown for the key.

Without a dot in the key, only records of that very name bear on it.
Behind a receiver, only those do whose name ends in the member, values that are named like the receiver,
and the declaration of the receiver's type.
-/
theorem hover_ignores_unrelated_records (catalogue : Catalogue) (settings : Settings) {key name : String}
    {category : Category} {change : Edit} (about : change.concerns category name)
    (apart : catalogue.bearsOn key category name = false) :
    (catalogue.edit change).toSource.hover settings key = catalogue.toSource.hover settings key := by
  refine hover_congr settings ?_ ?_
  · -- A change to a category is no declaration of an alias.
    rw [aliases_edit_of_ne catalogue (by simp [Edit.category?_of_concerns about])]
  · intro other another bears
    have elsewhere : ¬ change.concerns other another := by
      intro also
      obtain ⟨rfl, rfl⟩ := Edit.concerns_unique about also
      rw [apart] at bears
      cases bears
    rw [lookup_edit, if_neg elsewhere]

/-- What is shown for a method of a variable outlives a function named like the variable, a type named
like the element type, and a member of which the hovered one is only a part. -/
theorem hover_ignores_unrelated_records_array :
    let record (name : String) (declaration : Declaration) : Record :=
      ⟨name, none, false, false, declaration⟩
    let signature (first : String) : Signature := ⟨[⟨first, none, none⟩], none, none⟩
    let values : Binding := ⟨some (.container none .array [.named none "float"]), none⟩
    let catalogue := ofEdits [.declare (.ofNamespace "ta"),
      .insert .functions (record "values" (.function (signature "id"))),
      .insert .variables (record "values" (.variable values)),
      .insert .methods (record "array.max" (.method (signature "id")))]
    let shown : Hover :=
      ⟨record "array.max" (.method (signature "values")), "max", some "values"⟩
    ∀ change ∈ [Edit.erase .functions "values", .insert .types (record "float" (.type [])),
      .insert .functions (record "ta.max.of" (.function (signature "id")))],
      (catalogue.edit change).toSource.hover .standard " values.max" = .ok (some shown) := by
  intro record signature values catalogue shown change member
  have before : catalogue.toSource.hover .standard " values.max" = .ok (some shown) := by
    decide +kernel
  -- Each change concerns one name, which does not bear on the key.
  obtain ⟨category, name, about, apart⟩ : ∃ category name, change.concerns category name ∧
      catalogue.bearsOn " values.max" category name = false := by
    simp only [List.mem_cons, List.not_mem_nil, or_false] at member
    rcases member with rfl | rfl | rfl
    · exact ⟨.functions, "values", by decide, by decide +kernel⟩
    · exact ⟨.types, "float", by decide, by decide +kernel⟩
    · exact ⟨.functions, "ta.max.of", by decide, by decide +kernel⟩
  rw [hover_ignores_unrelated_records catalogue .standard about apart, before]

end Catalogue

end SymbolAssist
