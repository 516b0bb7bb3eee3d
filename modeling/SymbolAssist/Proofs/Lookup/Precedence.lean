import Mathlib.Data.List.Basic
import SymbolAssist.Lookup.Hover
import SymbolAssist.Proofs.Catalogue.Edits
import SymbolAssist.Proofs.Text.Dotted
import SymbolAssist.Proofs.Text.Trim

/-! What is shown for a member of a receiver: the places where it may be filed, and that the first
one that has it decides. -/

namespace SymbolAssist

open Text

namespace TypeTag

/-- The type without its qualifier. -/
def unqualified : TypeTag → TypeTag
  | .named _ name => .named none name
  | .container _ cls params => .container none cls params

/-- The names under which the members of a type are filed: its normal text without the qualifier,
and behind that the class of a container whose parameters are given. -/
def receiverNames (tag : TypeTag) : List String :=
  tag.unqualified.text ::
    match tag with
    | .container _ cls (_ :: _) => [cls.keyword]
    | _ => []

/-- Without a qualifier, nothing stands in front of the text of a type. -/
theorem text_unqualified (tag : TypeTag) : tag.unqualified.text = String.ofList tag.coreChars := by
  -- The text of a type is its qualifier and its core.
  cases tag <;> rfl

/-- The text of a container says more than its class as soon as there is a parameter. -/
theorem lookupNames_eq_receiverNames (tag : TypeTag) : tag.lookupNames = tag.receiverNames := by
  unfold lookupNames receiverNames
  rw [text_unqualified]
  cases tag with
  | named qualifier name => rfl
  | container qualifier cls params =>
    cases params with
    | nil => simp [class?, coreChars, paramChars, bracketed]
    | cons first rest =>
      have longer : String.ofList (coreChars (.container qualifier cls (first :: rest))) ≠
          cls.keyword := by
        intro same
        -- There would have to be nothing behind the class.
        have chars := congrArg String.toList same
        rw [String.toList_ofList, coreChars, List.append_right_eq_self] at chars
        simp [paramChars, bracketed] at chars
      simp only [class?, if_neg longer]

end TypeTag

namespace Record

/-- The record with other parameters, where it can be called at all. -/
def withArguments (record : Record) (arguments : List Argument) : Record :=
  match record.declaration with
  | .function signature =>
    { record with declaration := .function { signature with arguments := arguments } }
  | .method signature =>
    { record with declaration := .method { signature with arguments := arguments } }
  | _ => record

/-- The record with its first parameter, if it has one, under the name of a receiver. -/
def seenFrom (record : Record) (receiver : String) : Record :=
  match record.arguments with
  | [] => record
  | first :: rest => record.withArguments ({ first with name := receiver } :: rest)

/-- Only the name of a first parameter tells the two views apart. -/
theorem withReceiver_eq_seenFrom (record : Record) (receiver : String) :
    record.withReceiver receiver = record.seenFrom receiver := by
  obtain ⟨name, description, deprecated, isDefault, declaration⟩ := record
  -- Only what can be called has parameters, and only the first of them can change.
  cases declaration with
  | function signature =>
    obtain ⟨arguments, returnType, usage⟩ := signature
    cases arguments <;> rfl
  | method signature =>
    obtain ⟨arguments, returnType, usage⟩ := signature
    cases arguments <;> rfl
  | _ => rfl

end Record

/-- The type of two declarations that agree or of which only one gives a type. -/
def agreedType : Option TypeTag → Option TypeTag → Option TypeTag
  | some first, some second => if first = second then some first else none
  | first, second => first.or second

namespace Catalogue

variable (catalogue : Catalogue)

/-- The record of a symbol that can be called, where a method hides a function of its name. -/
def callable? (key : String) : Option Record :=
  (catalogue.lookup .methods key).or (catalogue.lookup .functions key)

/-- The type of a value by its name: what a variable or a field of that name is declared as, unless
the two disagree. -/
def valueType? (name : String) : Option TypeTag :=
  let path := trim name.toList
  let declared (category : Category) : Option TypeTag :=
    (catalogue.lookup category (String.ofList path)).bind Record.declaredType?
  if isIdentifierPath path then agreedType (declared .variables) (declared .fields) else none

/-- The name of a type, whatever its qualifier, if a script declares a type of that name. -/
def userType? (tag : TypeTag) : Option String :=
  tag.name?.filter fun name => (catalogue.lookup .types name).isSome

end Catalogue

/-- A place where a member may be filed. -/
inductive Place where
  /-- With the type a script declares for the receiver. -/
  | userType (name : String)
  /-- With a name that the receiver's type goes by. -/
  | receiverType (name : String)
  /-- With the methods that every receiver has. -/
  | anyReceiver
  /-- Under an alias. -/
  | underAlias (name : String)
  /-- By itself. -/
  | alone
  deriving Repr, DecidableEq

namespace Place

/-- The record of a function at a place. -/
def stored (catalogue : Catalogue) (settings : Settings) (function : String) :
    Place → Option Record
  | .userType name | .receiverType name | .underAlias name => catalogue.callable? (joinDot name function)
  | .anyReceiver => catalogue.lookup .methods (settings.wildcardKey function)
  | .alone => catalogue.callable? function

/-- How a record that was found at a place is shown for a receiver. -/
def shown (space function : String) (record : Record) : Place → Hover
  | .userType name => ⟨record, joinDot name function, some space⟩
  | _ => ⟨record.seenFrom space, function, some space⟩

/-- What is shown if the function is filed at a place. -/
def answer (catalogue : Catalogue) (settings : Settings) (space function : String) (place : Place) :
    Option Hover :=
  (place.stored catalogue settings function).map fun record => place.shown space function record

/-- Places by the names of a receiver's type, which may be unknown, and at last for any receiver. -/
def ofReceiver (receiver : Option TypeTag) : List Place :=
  (receiver.toList.flatMap TypeTag.receiverNames).map .receiverType ++ [.anyReceiver]

/-- Places under aliases, and at last the one without a receiver. -/
def ofAliases (names : List String) : List Place :=
  names.map .underAlias ++ [.alone]

end Place

/-- The places of the members of a receiver, from the one that decides first to the last resort. -/
def Catalogue.places (catalogue : Catalogue) (aliasNames : List String) (space : String) :
    List Place :=
  let receiver := catalogue.valueType? space
  (receiver.bind catalogue.userType?).toList.map .userType ++
    (Place.ofReceiver receiver ++ Place.ofAliases aliasNames)

/-- The characters of two names with a dot between them. -/
@[simp] theorem toList_joinDot (space function : String) :
    (joinDot space function).toList = space.toList ++ '.' :: function.toList := by
  -- The names are joined as texts.
  simp [joinDot]

/-- A dotted name is a member behind what stands before its last dot. -/
theorem Source.hover_dotted (source : Source) (settings : Settings) {key space function : String}
    (written : String.ofList (trim key.toList) = joinDot space function)
    (last : '.' ∉ function.toList) :
    source.hover settings key = source.hoverMember settings space function := by
  -- The body of the key is cut at its last dot.
  have body : trim key.toList = space.toList ++ '.' :: function.toList := by
    have chars := congrArg String.toList written
    simpa using chars
  rw [Source.hover, body, if_neg (by simp), splitNamespace_joined _ last]
  simp only [String.ofList_toList]

/-- Of a key with a dot, blanks are taken off the front of its receiver and the end of its member. -/
theorem Source.hover_joinDot (source : Source) (settings : Settings) {space function : String}
    (last : '.' ∉ function.toList) :
    source.hover settings (joinDot space function) =
      source.hoverMember settings (String.ofList (trimStart space.toList))
        (String.ofList (trimEnd function.toList)) := by
  -- Trimming reaches the outer ends of the two names only, because a dot is no blank.
  have written : String.ofList (trim (joinDot space function).toList) =
      joinDot (String.ofList (trimStart space.toList)) (String.ofList (trimEnd function.toList)) := by
    rw [toList_joinDot, trim_append_cons (by decide)]
    simp [← String.toList_inj]
  refine source.hover_dotted settings written fun dot => last ?_
  rw [String.toList_ofList] at dot
  exact (trimEnd_isPrefix _).mem dot

namespace Catalogue

variable (catalogue : Catalogue) (settings : Settings)

/-- In one category a record is looked up under its name. -/
@[simp] theorem get?_singleton (category : Category) (key : String) :
    catalogue.get? [category] key = catalogue.lookup category key := by
  -- The search ends with the only category it has.
  simp [get?]

/-- Methods are asked before functions. -/
@[simp] theorem get?_callables (key : String) :
    catalogue.get? Category.callables key = catalogue.callable? key := by
  rw [get?, callable?]
  -- The last of the categories is asked first.
  cases method : catalogue.lookup .methods key <;> simp [Category.callables, method]

/-- A search through a catalogue ends at the first probe that hits. -/
theorem firstHit_toSource (probes : List Probe) :
    catalogue.toSource.firstHit probes =
      .ok (probes.findSome? fun probe => catalogue.get? probe.categories probe.key) := by
  -- A catalogue always answers, so that the search goes on until it hits.
  induction probes with
  | nil => rfl
  | cons probe rest ih =>
    have asked : catalogue.toSource.get probe.categories probe.key =
      .ok (catalogue.get? probe.categories probe.key) := rfl
    rw [Source.firstHit, asked, List.findSome?_cons]
    cases catalogue.get? probe.categories probe.key with
    | some record => rfl
    | none => exact ih

/-- Of two declared types, different ones leave open which is meant. -/
theorem type?_ofTypes (first second : Option TypeTag) :
    (Resolution.ofTypes (first.toList ++ second.toList).eraseDups).type? =
      agreedType first second := by
  -- Two equal types are kept once, and two different ones leave no single type.
  cases first with
  | none => cases second <;> rfl
  | some first =>
    cases second with
    | none => rfl
    | some second =>
      by_cases same : first = second
      · simp [agreedType, same, List.eraseDups_cons, Resolution.ofTypes, Resolution.type?]
      · simp [agreedType, same, Ne.symm same, List.eraseDups_cons, Resolution.ofTypes,
          Resolution.type?]

/-- The type of a name in a catalogue is that of the value it names. -/
theorem typeOf_toSource (name : String) :
    catalogue.toSource.typeOf name = .ok (catalogue.valueType? name) := by
  rw [Source.typeOf, Source.resolve, valueType?]
  by_cases path : isIdentifierPath (trim name.toList)
  · -- Both categories answer, and what they answer is compared.
    simp only [if_pos path]
    generalize String.ofList (trim name.toList) = key
    have asked : (Category.values.mapM fun category => catalogue.toSource.get [category] key) =
        .ok [catalogue.lookup .variables key, catalogue.lookup .fields key] := by
      simp only [Category.values, toSource, get?_singleton, List.mapM_cons, List.mapM_nil]
      rfl
    have typed (first second : Option Record) :
        [first, second].filterMap (fun record => record.bind Record.declaredType?) =
          (first.bind Record.declaredType?).toList ++ (second.bind Record.declaredType?).toList := by
      cases left : first.bind Record.declaredType? <;>
        cases right : second.bind Record.declaredType? <;> simp [left, right]
    rw [asked, ← type?_ofTypes, ← typed]
    rfl
  · simp only [if_neg path]
    rfl

/-- A member is looked up by its receiver's type where a script declares that type. -/
theorem hoverUserType_toSource (space function : String) (tag : TypeTag) :
    catalogue.toSource.hoverUserType space function tag =
      .ok ((catalogue.userType? tag).bind fun name =>
        (Place.userType name).answer catalogue settings space function) := by
  have declared : catalogue.toSource.isUserType tag = .ok (catalogue.userType? tag).isSome := by
    rw [Source.isUserType, userType?]
    cases tag.name? with
    | none => rfl
    | some name =>
      cases known : (catalogue.lookup .types name).isSome <;>
        simp [known, toSource, Bind.bind, Except.bind, Pure.pure, Except.pure]
  rw [Source.hoverUserType, declared]
  cases found : catalogue.userType? tag with
  | none => rfl
  | some name =>
    -- Behind the test that the type is declared, its name is taken apart once more.
    have named : tag.name? = some name := (Option.filter_eq_some_iff.mp found).1
    simp only [named, Option.isSome_some, Option.bind_some]
    simp [toSource, Place.answer, Place.stored, Place.shown, Bind.bind, Except.bind, Pure.pure,
      Except.pure]

/-- Behind the types of scripts, a member is looked for at all other places. -/
theorem expand_toSource (receiver : Option TypeTag) (function : String) :
    catalogue.toSource.expand settings receiver function =
      .ok ((Place.ofReceiver receiver ++ Place.ofAliases (catalogue.aliases.map Alias.name)).findSome?
        (Place.stored catalogue settings function)) := by
  -- Both searches go through places, each under the key and in the categories of the place.
  have near : catalogue.toSource.firstHit (Source.receiverProbes settings receiver function) =
      .ok ((Place.ofReceiver receiver).findSome? (Place.stored catalogue settings function)) := by
    rw [firstHit_toSource]
    cases receiver <;>
      simp [Source.receiverProbes, Place.ofReceiver, TypeTag.lookupNames_eq_receiverNames,
        List.findSome?_append, List.findSome?_map, Function.comp_def, Place.stored]
  have far : catalogue.toSource.firstHit
        ((aliasKeys catalogue.aliases function).map fun key => ⟨Category.callables, key⟩) =
      .ok ((Place.ofAliases (catalogue.aliases.map Alias.name)).findSome?
        (Place.stored catalogue settings function)) := by
    rw [firstHit_toSource]
    simp [aliasKeys, Place.ofAliases, List.findSome?_append, List.findSome?_map, Function.comp_def,
      Place.stored]
  -- The aliases are asked only where the receiver does not decide.
  rw [Source.expand, near, List.findSome?_append]
  cases (Place.ofReceiver receiver).findSome? (Place.stored catalogue settings function) with
  | some record => rfl
  | none => exact far

/-- At all other places the record is shown from the receiver's point of view. -/
theorem findSome?_answer (space function : String) (receiver : Option TypeTag)
    (names : List String) :
    (Place.ofReceiver receiver ++ Place.ofAliases names).findSome?
        (Place.answer catalogue settings space function) =
      ((Place.ofReceiver receiver ++ Place.ofAliases names).findSome?
        (Place.stored catalogue settings function)).map fun record =>
          ⟨record.withReceiver space, function, some space⟩ := by
  have each : ∀ place ∈ Place.ofReceiver receiver ++ Place.ofAliases names,
      place.answer catalogue settings space function =
        (place.stored catalogue settings function).map fun record =>
          ⟨record.withReceiver space, function, some space⟩ := by
    intro place member
    simp only [Record.withReceiver_eq_seenFrom]
    -- Only with the type of a script would the record be shown as it is.
    cases place with
    | userType name => simp [Place.ofReceiver, Place.ofAliases] at member
    | receiverType | anyReceiver | underAlias | alone => rfl
  -- A search is the head of all that would be found, which two functions share.
  rw [List.map_findSome?, ← List.head?_filterMap, List.filterMap_congr each, List.head?_filterMap]
  rfl

/-- What is shown for a member is what the first of its places has. -/
theorem hoverMember_toSource {space function : String} (receiver : space ≠ "")
    (member : function ≠ "") :
    catalogue.toSource.hoverMember settings space function =
      .ok ((catalogue.places (catalogue.aliases.map Alias.name) space).findSome?
        (Place.answer catalogue settings space function)) := by
  rw [Source.hoverMember, if_neg member, if_neg receiver, typeOf_toSource, places,
    List.findSome?_append, findSome?_answer]
  cases catalogue.valueType? space with
  | none =>
    -- Nothing is known of the receiver, so no type of a script can decide.
    simp [expand_toSource, Bind.bind, Except.bind, Pure.pure, Except.pure]
  | some tag =>
    -- A type that a script declares is asked first, and ends the search if it has the member.
    have own := hoverUserType_toSource catalogue settings space function tag
    cases found : catalogue.userType? tag with
    | none =>
      rw [found] at own
      simp [own, expand_toSource, Bind.bind, Except.bind, Pure.pure, Except.pure, found]
    | some name =>
      rw [found, Option.bind_some] at own
      rw [Option.bind_some, found, Option.toList_some, List.map_singleton, List.findSome?_singleton]
      simp only [own, Bind.bind, Except.bind]
      cases Place.answer catalogue settings space function (.userType name) with
      | some hover => simp [Pure.pure, Except.pure]
      | none => simp [expand_toSource, Pure.pure, Except.pure]

/-- Of a receiver without a type, the members are those that every receiver has. -/
theorem hoverMember_toSource_of_untyped {space function : String} (receiver : space ≠ "")
    (member : function ≠ "") (untyped : catalogue.valueType? space = none) :
    catalogue.toSource.hoverMember settings space function =
      .ok ((.anyReceiver :: Place.ofAliases (catalogue.aliases.map Alias.name)).findSome?
        (Place.answer catalogue settings space function)) := by
  -- A type would be asked for places first, and there is none.
  rw [hoverMember_toSource catalogue settings receiver member, places, untyped]
  rfl

/-- What is shown for a member is decided by the first of its places that has it, with aliases in the
order of their first declaration, and nothing is shown exactly if no place has it. -/
theorem hover_first_place (edits : List Edit) {key space function : String}
    (written : String.ofList (trim key.toList) = joinDot space function)
    (last : '.' ∉ function.toList) (receiver : space ≠ "") (member : function ≠ "") :
    let catalogue := ofEdits edits
    let places := catalogue.places (Edit.aliasNames edits) space
    catalogue.toSource.hover settings key =
        .ok (places.findSome? (Place.answer catalogue settings space function)) ∧
      (catalogue.toSource.hover settings key = .ok none ↔
        ∀ place ∈ places, place.stored catalogue settings function = none) := by
  intro catalogue places
  have shown : catalogue.toSource.hover settings key =
      .ok (places.findSome? (Place.answer catalogue settings space function)) := by
    -- The aliases of the catalogue are listed as its history declares them.
    rw [Source.hover_dotted _ settings written last, hoverMember_toSource catalogue settings receiver member,
      aliasNames_ofEdits]
  refine ⟨shown, ?_⟩
  rw [shown, Except.ok.injEq, List.findSome?_eq_none_iff]
  simp only [Place.answer, Option.map_eq_none_iff]

/-- A method of a receiver's class is shown before a function of that name and one under an alias. -/
theorem hover_first_place_array :
    let max (declaration : Signature → Declaration) (name : String) (first : String) : Record :=
      -- Which place comes first is computed, and that it is shown is a case of the general fact.
      ⟨name, none, false, false, declaration ⟨[⟨first, none, none⟩], none, none⟩⟩
    let values : Binding := ⟨some (.container (some .series) .array [.named none "float"]), none⟩
    (ofEdits [.declare (.ofNamespace "ta"), .insert .functions (max .function "ta.max" "id"),
        .insert .variables ⟨"values", none, false, false, .variable values⟩,
        .insert .functions (max .function "array.max" "id"),
        .insert .methods (max .method "array.max" "id")]).toSource.hover .standard "\tvalues.max " =
      .ok (some ⟨max .method "array.max" "values", "max", some "values"⟩) := by
  intro max values
  have first := @hover_first_place .standard
    [.declare (.ofNamespace "ta"), .insert .functions (max .function "ta.max" "id"),
      .insert .variables ⟨"values", none, false, false, .variable values⟩,
      .insert .functions (max .function "array.max" "id"),
      .insert .methods (max .method "array.max" "id")]
    "\tvalues.max " "values" "max" (by decide +kernel) (by decide) (by decide) (by decide)
  exact first.1.trans (congrArg Except.ok (by decide +kernel))

end Catalogue

end SymbolAssist
