import SymbolAssist.Proofs.Lookup.Precedence

/-! Of all aliases that document a function, the one declared first decides what is shown for it. -/

namespace SymbolAssist

open Text

/-- A search ends at an accepted item exactly if it accepts nothing in front of it. -/
theorem find?_eq_some_iff_takeWhile {α : Type} [DecidableEq α] {test : α → Bool} {items : List α}
    {item : α} (listed : item ∈ items) (accepted : test item) :
    items.find? test = some item ↔
      ∀ earlier ∈ items.takeWhile (· ≠ item), test earlier = false := by
  -- The item is listed, so the search gets there unless something in front stops it.
  induction items with
  | nil => cases listed
  | cons first rest ih =>
    by_cases here : first = item
    · subst here
      simp [accepted]
    · have later : item ∈ rest := (List.mem_cons.mp listed).resolve_left (Ne.symm here)
      -- The first item ends the search at once, or is passed by.
      cases taken : test first with
      | true => simp [taken, here]
      | false => simpa [taken, here] using ih later

namespace Catalogue

variable (catalogue : Catalogue)

/-- Blanks in front of a name do not change its type. -/
theorem valueType?_trimStart (name : String) :
    catalogue.valueType? (String.ofList (trimStart name.toList)) = catalogue.valueType? name := by
  -- The name is trimmed before it is looked up in any case.
  have trimmed : trim (trimStart name.toList) = trim name.toList := by
    rw [trim, trim, trimStart, trimStart, List.dropWhile_idempotent]
  simp only [valueType?, String.toList_ofList, trimmed]

variable (settings : Settings)

/-- Of a receiver without a type, and a member that is filed for no receiver in particular, the first
alias that documents the member decides. -/
theorem hoverMember_toSource_of_alias {space function first : String} {record : Record}
    (receiver : space ≠ "") (member : function ≠ "") (untyped : catalogue.valueType? space = none)
    (particular : catalogue.lookup .methods (settings.wildcardKey function) = none)
    (decides : (catalogue.aliases.map Alias.name).find?
      (fun name => (catalogue.callable? (joinDot name function)).isSome) = some first)
    (stored : catalogue.callable? (joinDot first function) = some record) :
    catalogue.toSource.hoverMember settings space function =
      .ok (some ⟨record.seenFrom space, function, some space⟩) := by
  -- Without a type, the search goes through any receiver, the aliases in order and the bare name.
  rw [hoverMember_toSource_of_untyped catalogue settings receiver member untyped]
  congr 1
  obtain ⟨_, before, after, order, missed⟩ := List.find?_eq_some_iff_append.mp decides
  -- The place of any receiver is empty, and so are those of the aliases before the first one.
  refine List.findSome?_eq_some_iff.mpr ⟨.anyReceiver :: before.map .underAlias, .underAlias first,
    after.map .underAlias ++ [.alone], ?_, ?_, ?_⟩
  · simp [Place.ofAliases, order]
  · simp [Place.answer, Place.stored, stored, Place.shown]
  · intro place earlier
    rcases List.mem_cons.mp earlier with rfl | earlier
    · simp [Place.answer, Place.stored, particular]
    · obtain ⟨name, listed, rfl⟩ := List.mem_map.mp earlier
      have absent : catalogue.callable? (joinDot name function) = none := by
        simpa using missed name listed
      simp [Place.answer, Place.stored, absent]

/-- A function is filed under a declared alias, of which no value type is known, and nothing is filed
under its name for any receiver. -/
structure FiledUnderAlias (settings : Settings) (edits : List Edit) (space function : String) :
    Prop where
  /-- The alias is declared. -/
  declared : space ∈ Edit.aliasNames edits
  /-- The function has a name. -/
  nonempty : function ≠ ""
  /-- Its name has no dot. -/
  undotted : '.' ∉ function.toList
  /-- It is filed under the alias, as a function or as a method. -/
  stored : ((ofEdits edits).callable? (joinDot space function)).isSome
  /-- The alias names no value of a known type. -/
  untyped : (ofEdits edits).valueType? space = none
  /-- No method for any receiver has the name. -/
  particular : (ofEdits edits).lookup .methods (settings.wildcardKey function) = none

/--
What is shown for a function of a declared alias is decided by the order of declaration.

The first alias that documents the function decides, whichever of them is written in front of it.
So the function is shown as it is filed under the written alias exactly if no alias declared before
documents a function of its name.
-/
theorem hover_first_alias (edits : List Edit) {space function : String}
    (filed : FiledUnderAlias settings edits space function) (solid : trimStart space.toList ≠ [])
    (unpadded : trimEnd function.toList = function.toList) :
    let catalogue := ofEdits edits
    let documents := fun name => (catalogue.callable? (joinDot name function)).isSome
    let receiver := String.ofList (trimStart space.toList)
    ∃ first record,
      (Edit.aliasNames edits).find? documents = some first ∧
      catalogue.callable? (joinDot first function) = some record ∧
      catalogue.toSource.hover settings (joinDot space function) =
        .ok (some ⟨record.seenFrom receiver, function, some receiver⟩) ∧
      (first = space ↔
        ∀ name ∈ (Edit.aliasNames edits).takeWhile (· ≠ space), documents name = false) := by
  intro catalogue documents receiver
  -- The written alias documents the function, so the search for the first one succeeds.
  obtain ⟨first, decides⟩ : ∃ first, (Edit.aliasNames edits).find? documents = some first :=
    Option.isSome_iff_exists.mp (List.find?_isSome.mpr ⟨space, filed.declared, filed.stored⟩)
  have documented : documents first := List.find?_some decides
  obtain ⟨record, stored⟩ := Option.isSome_iff_exists.mp documented
  refine ⟨first, record, decides, stored, ?_, ?_⟩
  · have named : receiver ≠ "" := fun empty => solid (String.ofList_eq_empty_iff.mp empty)
    -- The blanks in front of the alias are gone by now, and the function is looked up as it is written.
    rw [Source.hover_joinDot _ settings filed.undotted, unpadded, String.ofList_toList]
    refine hoverMember_toSource_of_alias catalogue settings named filed.nonempty ?_ filed.particular
      ?_ stored
    · rw [valueType?_trimStart]
      exact filed.untyped
    · rw [aliasNames_ofEdits]
      exact decides
  · rw [← find?_eq_some_iff_takeWhile filed.declared filed.stored, decides, Option.some.injEq]

/-- A function with one parameter, filed under a namespace. -/
def oneParameter (space member parameter : String) : Record :=
  ⟨joinDot space member, none, false, false,
    .function ⟨[⟨parameter, none, none⟩], none, none⟩⟩

/-- An alias that documents other functions leaves the decision to one that is declared later. -/
theorem hover_first_alias_later :
    let edits : List Edit := [.declare (.ofNamespace "math"), .declare (.ofNamespace "ta"),
      .insert .functions (oneParameter "math" "max" "number0"),
      .insert .functions (oneParameter "ta" "sma" "source")]
    FiledUnderAlias .standard edits "ta" "sma" ∧
      (ofEdits edits).toSource.hover .standard "ta.sma" =
        .ok (some ⟨oneParameter "ta" "sma" "ta", "sma", some "ta"⟩) := by
  -- The function is filed under the second alias only, so that one comes first.
  intro edits
  have filed : FiledUnderAlias .standard edits "ta" "sma" :=
    ⟨by decide, by decide, by decide, by decide +kernel, by decide +kernel, by decide +kernel⟩
  obtain ⟨first, record, _, stored, shown, own⟩ :=
    hover_first_alias .standard edits filed (by decide) (by decide)
  obtain rfl : first = "ta" := own.mpr (by decide +kernel)
  obtain rfl : record = oneParameter "ta" "sma" "source" :=
    Option.some.inj (stored.symm.trans (by decide +kernel))
  exact ⟨filed, shown⟩

/-- What is filed under an alias stays hidden behind an alias declared earlier, if blanks end its name,
and if the alias itself is empty. -/
theorem hover_hides_filed :
    let twice : List Edit := [.declare (.ofNamespace "ta"), .declare (.ofNamespace "math"),
      .insert .functions (oneParameter "ta" "max" "source"),
      .insert .functions (oneParameter "math" "max" "number0")]
    let padded : List Edit := [.declare (.ofNamespace "ta"),
      .insert .functions (oneParameter "ta" "max " "source")]
    let unnamed : List Edit := [.declare (.ofNamespace ""),
      .insert .functions (oneParameter "" "max" "source")]
    (FiledUnderAlias .standard twice "math" "max" ∧
      (ofEdits twice).toSource.hover .standard "math.max" =
        .ok (some ⟨oneParameter "ta" "max" "math", "max", some "math"⟩)) ∧
    (FiledUnderAlias .standard padded "ta" "max " ∧
      (ofEdits padded).toSource.hover .standard "ta.max " = .ok none) ∧
    (FiledUnderAlias .standard unnamed "" "max" ∧
      (ofEdits unnamed).toSource.hover .standard ".max" = .ok none) := by
  -- All three catalogues are small enough to be asked.
  intro twice padded unnamed
  refine ⟨⟨⟨?_, ?_, ?_, ?_, ?_, ?_⟩, ?_⟩, ⟨⟨?_, ?_, ?_, ?_, ?_, ?_⟩, ?_⟩, ⟨?_, ?_, ?_, ?_, ?_, ?_⟩, ?_⟩ <;>
    decide +kernel

end Catalogue

end SymbolAssist
