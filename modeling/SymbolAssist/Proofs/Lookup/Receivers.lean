import SymbolAssist.Proofs.Lookup.Methods
import SymbolAssist.Proofs.Lookup.Precedence
import SymbolAssist.Proofs.Text.Identifier

/-! Whether the methods that are offered on a receiver can also be shown on it. -/

namespace SymbolAssist

open Text

namespace Catalogue

variable (catalogue : Catalogue) (settings : Settings)

/-- Methods are offered by the type of the value, or else by the target of the alias. -/
theorem receiverType_toSource (space : String) (declared : Option Alias) :
    catalogue.toSource.receiverType space declared =
      .ok ((catalogue.valueType? space).or
        (declared.bind fun found => found.target.bind TypeTag.parse)) := by
  -- The alias is asked only if the name itself has no type.
  rw [Source.receiverType, typeOf_toSource]
  cases catalogue.valueType? space <;> rfl

/-- Something is shown for a member exactly if one of its places has it. -/
theorem exists_hoverMember_toSource_iff {space function : String} (receiver : space ≠ "")
    (member : function ≠ "") :
    (∃ hover, catalogue.toSource.hoverMember settings space function = .ok (some hover)) ↔
      ∃ place ∈ catalogue.places (catalogue.aliases.map Alias.name) space,
        (place.stored catalogue settings function).isSome := by
  -- A search through places succeeds if it succeeds at one of them.
  simp only [hoverMember_toSource catalogue settings receiver member, Except.ok.injEq,
    ← Option.isSome_iff_exists, List.findSome?_isSome_iff, Place.answer, Option.isSome_map]

/-- A method that is filed by the type of a value is at one of the places for its members. -/
theorem exists_place_of_valueType {space name member : String} {tag : TypeTag} {record : Record}
    (names : List String) (typed : catalogue.valueType? space = some tag)
    (filed : name ∈ tag.lookupNames)
    (stored : catalogue.lookup .methods (joinDot name member) = some record) :
    ∃ place ∈ catalogue.places names space, (place.stored catalogue settings member).isSome := by
  -- It is filed under a name of the type, and methods are asked before functions.
  refine ⟨.receiverType name, ?_, ?_⟩
  · rw [TypeTag.lookupNames_eq_receiverNames] at filed
    simp [places, typed, Place.ofReceiver, filed]
  · simp [Place.stored, callable?, stored]

/-- Nothing is shown for a receiver without a member. -/
theorem hoverMember_toSource_empty (space : String) :
    catalogue.toSource.hoverMember settings space "" = .ok none := by
  -- An empty member is answered before anything is read.
  rw [Source.hoverMember, if_pos rfl]
  rfl

/-- A method that is offered on a dotted path was judged by the type of that receiver. -/
theorem exists_receiverType_of_offered {space member : String} {found : MethodCandidates}
    {record : Record} (path : isIdentifierPath space.toList)
    (searched : catalogue.toSource.methods settings space member = .ok found)
    (offered : record ∈ found.records) :
    ∃ receiver,
      catalogue.toSource.receiverType space (catalogue.findAlias? space) = .ok (some receiver) := by
  have written : String.ofList (trim space.toList) = space := by
    rw [trim_of_isIdentifierPath path, String.ofList_toList]
  -- A search that ended early has offered nothing.
  rcases Source.methods_eq_ok_cases searched with rfl | ⟨declared, receiver, _, aliased, inferred, _⟩
  · cases offered
  · rw [written] at aliased inferred
    obtain rfl : catalogue.findAlias? space = declared := Except.ok.inj aliased
    exact ⟨receiver, inferred⟩

/--
A method that is offered on a receiver, and filed under a name of the receiver's type, is shown on it
exactly if the receiver is a value of a declared type or another place has a member of that name.

The other places are those for any receiver, the aliases and the one without a receiver: the target of
an alias, by which a method can be offered, is not asked.
Blanks at the end of a member are not heard, so that another member is looked for then.
-/
theorem offered_method_shown_iff {space member : String} {found : MethodCandidates}
    {record : Record} (path : isIdentifierPath space.toList) (nonempty : member ≠ "")
    (undotted : '.' ∉ member.toList)
    (searched : catalogue.toSource.methods settings space member = .ok found)
    (offered : record ∈ found.records) :
    let heard := String.ofList (trimEnd member.toList)
    let aliasNames := catalogue.aliases.map Alias.name
    ∃ receiver,
      catalogue.toSource.receiverType space (catalogue.findAlias? space) = .ok (some receiver) ∧
      ∀ name ∈ receiver.lookupNames,
        catalogue.lookup .methods (joinDot name member) = some record →
        ((∃ hover, catalogue.toSource.hover settings (joinDot space member) = .ok (some hover)) ↔
          if heard = member then
            (catalogue.valueType? space).isSome ∨
              ∃ place ∈ .anyReceiver :: Place.ofAliases aliasNames,
                (place.stored catalogue settings member).isSome
          else
            heard ≠ "" ∧ ∃ place ∈ catalogue.places aliasNames space,
              (place.stored catalogue settings heard).isSome) := by
  intro heard aliasNames
  obtain ⟨receiver, inferred⟩ := catalogue.exists_receiverType_of_offered settings path searched offered
  refine ⟨receiver, inferred, fun name filed stored => ?_⟩
  -- A path has neither blanks nor is it empty, so hovering starts from the same receiver.
  have present : space ≠ "" := fun empty =>
    ne_nil_of_isIdentifierPath path (String.toList_eq_nil_iff.mpr empty)
  rw [Source.hover_joinDot _ settings undotted, trimStart_of_isIdentifierPath path,
    String.ofList_toList]
  by_cases same : heard = member
  · rw [if_pos same, show String.ofList (trimEnd member.toList) = member from same,
      exists_hoverMember_toSource_iff catalogue settings present nonempty]
    cases typed : catalogue.valueType? space with
    | none =>
      -- Without a declared type, no place is left that depends on the receiver.
      simp [places, typed, Place.ofReceiver, aliasNames]
    | some tag =>
      -- The declared type is the one that the method was offered by.
      rw [receiverType_toSource, typed, Option.some_or] at inferred
      obtain rfl : tag = receiver := Option.some.inj (Except.ok.inj inferred)
      exact iff_of_true (exists_place_of_valueType catalogue settings aliasNames typed filed stored)
        (.inl rfl)
  · rw [if_neg same]
    by_cases silent : heard = ""
    · rw [show String.ofList (trimEnd member.toList) = "" from silent, hoverMember_toSource_empty]
      simp [silent]
    · rw [exists_hoverMember_toSource_iff catalogue settings present silent]
      exact (and_iff_right silent).symm

/-- A method of arrays of any elements. -/
def arrayMethod (member : String) : Record :=
  ⟨joinDot "array" member, none, false, false,
    .method ⟨[⟨"id", some (.container none .array [.named none "any"]), none⟩], none, none⟩⟩

/-- A method of arrays that is offered on a variable is shown on it. -/
theorem offered_method_shown_variable :
    let prices : Binding := ⟨some (.container (some .series) .array [.named none "float"]), none⟩
    let catalogue := ofEdits [.insert .methods (arrayMethod "push"),
      .insert .variables ⟨"prices", none, false, false, .variable prices⟩]
    catalogue.toSource.methods .standard "prices" "push" = .ok ⟨[arrayMethod "push"], []⟩ ∧
      ∃ hover, catalogue.toSource.hover .standard "prices.push" = .ok (some hover) := by
  -- The method is filed under the class of the receiver, which is where hovering looks first.
  intro prices catalogue
  have searched : catalogue.toSource.methods .standard "prices" "push" =
    .ok ⟨[arrayMethod "push"], []⟩ := by decide +kernel
  obtain ⟨receiver, inferred, shown⟩ := offered_method_shown_iff catalogue .standard
    (by decide +kernel) (by decide) (by decide) searched List.mem_cons_self
  have typed : catalogue.toSource.receiverType "prices" (catalogue.findAlias? "prices") =
    .ok prices.type := by decide +kernel
  obtain rfl : receiver = .container (some .series) .array [.named none "float"] :=
    Option.some.inj (Except.ok.inj (inferred.symm.trans typed))
  refine ⟨searched, (shown "array" (by decide +kernel) (by decide +kernel)).mpr ?_⟩
  rw [if_pos (by decide +kernel)]
  exact .inl (by decide +kernel)

/-- A method that is offered by the target of an alias alone is not shown. -/
theorem offered_method_hidden_by_alias :
    let catalogue := ofEdits [.insert .methods (arrayMethod "push"),
      .declare ⟨"arr", some "array<int>", .instanceName⟩]
    let receiver : TypeTag := .container none .array [.named none "int"]
    isIdentifierPath "arr".toList ∧
      catalogue.toSource.receiverType "arr" (catalogue.findAlias? "arr") = .ok (some receiver) ∧
      "array" ∈ receiver.lookupNames ∧
      catalogue.lookup .methods (joinDot "array" "push") = some (arrayMethod "push") ∧
      catalogue.toSource.methods .standard "arr" "push" = .ok ⟨[arrayMethod "push"], []⟩ ∧
      catalogue.toSource.hover .standard "arr.push" = .ok none := by
  -- The catalogue is small enough to be asked.
  intro catalogue receiver
  refine ⟨?_, ?_, ?_, ?_, ?_, ?_⟩ <;> decide +kernel

end Catalogue

end SymbolAssist
