import Mathlib.Data.Set.Card
import SymbolAssist.Proofs.Catalogue.Edits
import SymbolAssist.Proofs.Catalogue.OrderedMap

/-! What a catalogue holds after a history of changes, told from the history alone. -/

namespace SymbolAssist

namespace Edit

/-- The category whose records are changed; an alias belongs to none. -/
def category? : Edit → Option Category
  | .insert category _ => some category
  | .erase category _ => some category
  | .declare _ => none

/-- The change files a record under a name in a category, or takes the name out of it. -/
def concerns (category : Category) (name : String) : Edit → Bool
  | .insert place record => place = category ∧ record.name = name
  | .erase place taken => place = category ∧ taken = name
  | .declare _ => false

/-- The change declares an alias of a name. -/
def declares (name : String) (change : Edit) : Bool :=
  change.aliasName? = some name

/-- The record that a change leaves under the name it concerns. -/
def record? : Edit → Option Record
  | .insert _ record => some record
  | _ => none

/-- The last of the changes that satisfy a test. -/
def last? (test : Edit → Bool) (edits : List Edit) : Option Edit :=
  edits.reverse.find? test

/-- The name of each insertion into a category that no later change takes back. -/
def lastingNames (category : Category) : List Edit → List String
  | [] => []
  | .insert place record :: later =>
    if place = category ∧ .erase category record.name ∉ later then
      record.name :: lastingNames category later
    else lastingNames category later
  | _ :: later => lastingNames category later

/-- The names filed in a category, in the order of their first insertion since they were last taken
out. -/
def names (category : Category) (edits : List Edit) : List String :=
  (lastingNames category edits).eraseDups

/-- One more change is the last one if it satisfies the test. -/
theorem last?_concat (test : Edit → Bool) (edits : List Edit) (change : Edit) :
    last? test (edits ++ [change]) = if test change then some change else last? test edits := by
  -- The search runs from the end, so the new change is looked at first.
  rw [last?, List.reverse_append, List.reverse_singleton, List.singleton_append, List.find?_cons]
  cases test change <;> rfl

/-- An insertion lasts until the name is taken out, so a new one counts. -/
theorem lastingNames_concat_insert (category : Category) (record : Record) (edits : List Edit) :
    lastingNames category (edits ++ [.insert category record]) =
      lastingNames category edits ++ [record.name] := by
  -- The new insertion is the last change, so nothing can take it back.
  induction edits with
  | nil => simp [lastingNames]
  | cons change rest ih =>
    -- Whether an earlier insertion lasts does not depend on the new one.
    cases change with
    | insert place earlier =>
      simp only [List.cons_append, lastingNames, ih, List.mem_append, List.mem_singleton, reduceCtorEq,
        or_false]
      split <;> rfl
    | erase | declare => exact ih

/-- Taking a name out takes back all of its insertions, and no others. -/
theorem lastingNames_concat_erase (category : Category) (name : String) (edits : List Edit) :
    lastingNames category (edits ++ [.erase category name]) =
      (lastingNames category edits).filter (· ≠ name) := by
  -- Of the earlier insertions, those of the name are dropped and the others stay in order.
  induction edits with
  | nil => rfl
  | cons change rest ih =>
    cases change with
    | insert place earlier =>
      have undone : Edit.erase category earlier.name ∈ rest ++ [.erase category name] ↔
          Edit.erase category earlier.name ∈ rest ∨ earlier.name = name := by simp
      simp only [List.cons_append, lastingNames, undone, ih]
      -- An insertion that did not last before does not last now either.
      by_cases lasts : place = category ∧ Edit.erase category earlier.name ∉ rest
      · rw [if_pos lasts]
        by_cases same : earlier.name = name <;> simp [lasts, same]
      · rw [if_neg lasts, if_neg fun still => lasts ⟨still.1, fun taken => still.2 (.inl taken)⟩]
    | erase | declare => exact ih

/-- Changes to other categories and to aliases leave the names alone. -/
theorem lastingNames_concat_of_ne {category : Category} {change : Edit}
    (other : change.category? ≠ some category) (edits : List Edit) :
    lastingNames category (edits ++ [change]) = lastingNames category edits := by
  -- Such a change takes nothing back in this category.
  have kept : ∀ name, Edit.erase category name ≠ change := by
    rintro name rfl
    exact other rfl
  induction edits with
  | nil =>
    cases change with
    | insert place record =>
      have elsewhere : place ≠ category := fun same => other (congrArg some same)
      simp [lastingNames, elsewhere]
    | erase | declare => rfl
  | cons earlier rest ih =>
    cases earlier with
    | insert place record =>
      simp only [List.cons_append, lastingNames, ih, List.mem_append, List.mem_singleton, kept,
        or_false]
    | erase | declare => exact ih

end Edit

namespace Catalogue

variable (catalogue : Catalogue)

/-- The records of one category are replaced, and those of the others stay. -/
theorem records_withRecords (category place : Category) (records : RecordMap) :
    (catalogue.withRecords place records).records category =
      if category = place then records else catalogue.records category := by
  -- Each category has a field of its own, so the six of them are told apart.
  cases place <;> cases category <;> rfl

/-- A change leaves every category alone that it is not about. -/
theorem records_edit_of_ne {category : Category} {change : Edit}
    (other : change.category? ≠ some category) :
    (catalogue.edit change).records category = catalogue.records category := by
  -- An insertion or a removal writes one map, and a declaration writes none.
  cases change with
  | insert place record =>
    have elsewhere : category ≠ place := fun same => other (congrArg some same.symm)
    rw [edit, insert, records_withRecords, if_neg elsewhere]
  | erase place name =>
    have elsewhere : category ≠ place := fun same => other (congrArg some same.symm)
    rw [edit, erase, records_withRecords, if_neg elsewhere]
  | declare declared => cases category <;> rfl

/-- A change to a category leaves the aliases alone. -/
theorem aliases_edit_of_ne {change : Edit} (filed : change.category? ≠ none) :
    (catalogue.edit change).aliases = catalogue.aliases := by
  -- Inserting and erasing replace the records of one category, and only a declaration has none.
  cases change with
  | insert place record => exact aliases_withRecords catalogue place _
  | erase place name => exact aliases_withRecords catalogue place _
  | declare declared => exact absurd rfl filed

/-- An inserted record goes into the map of its category. -/
theorem records_edit_insert (category : Category) (record : Record) :
    (catalogue.edit (.insert category record)).records category =
      (catalogue.records category).insert record.name record := by
  -- The category that is asked for is the one that was changed.
  rw [edit, insert, records_withRecords, if_pos rfl]

/-- A name is taken out of the map of its category. -/
theorem records_edit_erase (category : Category) (name : String) :
    (catalogue.edit (.erase category name)).records category =
      (catalogue.records category).erase name := by
  -- Here, too, the category that is asked for is the one that was changed.
  rw [edit, erase, records_withRecords, if_pos rfl]

/-- A change decides what is found under the name it concerns, and no other name. -/
theorem lookup_edit (change : Edit) (category : Category) (name : String) :
    (catalogue.edit change).lookup category name =
      if change.concerns category name then change.record? else catalogue.lookup category name := by
  -- Only a change to this category can matter, and there the map says what it does to each key.
  by_cases here : change.category? = some category
  · cases change with
    | insert place record =>
      obtain rfl : place = category := Option.some.inj here
      rw [lookup, records_edit_insert, OrderedMap.find?_insert]
      simp [Edit.concerns, Edit.record?, lookup, eq_comm]
    | erase place taken =>
      obtain rfl : place = category := Option.some.inj here
      rw [lookup, records_edit_erase, OrderedMap.find?_erase]
      simp [Edit.concerns, Edit.record?, lookup, eq_comm]
    | declare declared => cases here
  · -- What is about another category concerns no name of this one.
    have unconcerned : change.concerns category name = false := by
      cases change with
      | insert place record => simp_all [Edit.category?, Edit.concerns]
      | erase place taken => simp_all [Edit.category?, Edit.concerns]
      | declare declared => rfl
    rw [lookup, records_edit_of_ne catalogue here, unconcerned]
    rfl

/-- The last change of a history is made to what the earlier ones left. -/
theorem ofEdits_concat (edits : List Edit) (change : Edit) :
    ofEdits (edits ++ [change]) = (ofEdits edits).edit change := by
  -- A history is a fold over its changes, which takes the last one last.
  rw [ofEdits, List.foldl_append]
  rfl

/-- What is found under a name is what the last change that concerns it has left there. -/
theorem lookup_ofEdits (edits : List Edit) (category : Category) (name : String) :
    (ofEdits edits).lookup category name =
      (Edit.last? (Edit.concerns category name) edits).bind Edit.record? := by
  -- The history grows at its end, where the last change either decides or leaves things as they were.
  induction edits using List.reverseRecOn with
  | nil => cases category <;> rfl
  | append_singleton earlier change ih =>
    rw [ofEdits_concat, lookup_edit, ih, Edit.last?_concat]
    split <;> rfl

/-- A record is found exactly if the last change that concerns its name has inserted it. -/
theorem lookup_ofEdits_eq_some_iff {edits : List Edit} {category : Category} {name : String}
    {record : Record} :
    (ofEdits edits).lookup category name = some record ↔
      Edit.last? (Edit.concerns category name) edits = some (.insert category record) := by
  rw [lookup_ofEdits, Option.bind_eq_some_iff]
  constructor
  · rintro ⟨change, last, left⟩
    -- Of the changes that concern the name, only an insertion into the category leaves a record.
    have concerned : change.concerns category name := List.find?_some last
    cases change with
    | insert place inserted =>
      obtain rfl : inserted = record := Option.some.inj left
      have here : place = category := by simp_all [Edit.concerns]
      rw [last, here]
    | erase | declare => cases left
  · intro last
    exact ⟨_, last, rfl⟩

/-- The names of a category are listed in the order of their first insertion since they were last
taken out. -/
theorem keys_ofEdits (edits : List Edit) (category : Category) :
    ((ofEdits edits).records category).keys = Edit.names category edits := by
  -- Map and history are followed side by side, one change at a time.
  induction edits using List.reverseRecOn with
  | nil => cases category <;> rfl
  | append_singleton earlier change ih =>
    rw [ofEdits_concat, Edit.names]
    by_cases here : change.category? = some category
    · cases change with
      | insert place record =>
        obtain rfl : place = category := Option.some.inj here
        -- The map appends a key that is new, and so does the list of first insertions.
        rw [records_edit_insert, OrderedMap.keys_insert, Edit.lastingNames_concat_insert,
          eraseDups_concat, ih]
        simp only [Edit.names, List.mem_eraseDups]
      | erase place name =>
        obtain rfl : place = category := Option.some.inj here
        -- All insertions of the name are dropped before repetitions are, which makes no difference.
        rw [records_edit_erase, OrderedMap.keys_erase, Edit.lastingNames_concat_erase,
          eraseDups_filter, ih, Edit.names]
      | declare declared => cases here
    · rw [records_edit_of_ne _ here, ih, Edit.lastingNames_concat_of_ne here, Edit.names]

/-- A name that was taken out comes back at the end, and one that is replaced stays in its place. -/
example :
    let type (name : String) : Record := ⟨name, none, false, false, .type []⟩
    Edit.names .types [.insert .types (type "Point"), .insert .types (type "Pivot"),
      .erase .types "Point", .insert .types (type "Point"), .insert .types (type "Pivot")] =
        ["Pivot", "Point"] := by
  decide

/-- Every record is filed under its own name. -/
theorem name_of_mem_entries {edits : List Edit} {category : Category} {name : String}
    {record : Record} (filed : (name, record) ∈ ((ofEdits edits).records category).entries) :
    record.name = name := by
  -- What is listed is found, and what is found was inserted under the name of the record.
  have found : (ofEdits edits).lookup category name = some record :=
    OrderedMap.find?_eq_some_iff.mpr filed
  have concerned := List.find?_some (lookup_ofEdits_eq_some_iff.mp found)
  simp_all [Edit.concerns]

/-- An alias is listed exactly if the last declaration of its name has declared it. -/
theorem mem_aliases_ofEdits_iff {edits : List Edit} {declared : Alias} :
    declared ∈ (ofEdits edits).aliases ↔
      Edit.last? (Edit.declares declared.name) edits = some (.declare declared) := by
  -- As for records, the last change decides if it is about this name.
  induction edits using List.reverseRecOn with
  | nil => simp [ofEdits, empty, Edit.last?]
  | append_singleton earlier change ih =>
    rw [ofEdits_concat, Edit.last?_concat]
    cases change with
    | insert | erase =>
      rw [aliases_edit_of_ne _ (by simp [Edit.category?]), ih]
      simp [Edit.declares, Edit.aliasName?]
    | declare added =>
      -- No other alias has the name, so replacing one leaves none behind.
      rw [edit, addAlias, mem_insertAlias (nodup_aliasNames_ofEdits earlier), ih]
      -- Either the new declaration is of this name, or it changes nothing about it.
      by_cases same : added.name = declared.name
      · simp [Edit.declares, Edit.aliasName?, same, eq_comm]
      · have apart : declared ≠ added := fun equal => same (congrArg Alias.name equal.symm)
        simp [Edit.declares, Edit.aliasName?, same, apart, Ne.symm same]

/-- The categories with the names that are filed in them. -/
def filedNames : List (Category × String) :=
  Category.all.flatMap fun category => (catalogue.records category).keys.map (category, ·)

/-- A name is among those of its category exactly if something is found there. -/
theorem mem_filedNames_iff {category : Category} {name : String} :
    (category, name) ∈ catalogue.filedNames ↔ (catalogue.lookup category name).isSome := by
  -- All categories are gone through, so it is enough to look at the one that is named.
  have listed : category ∈ Category.all := by cases category <;> decide
  simp [filedNames, listed, OrderedMap.mem_keys_iff, lookup]

/-- No name is listed twice with one category. -/
theorem nodup_filedNames : catalogue.filedNames.Nodup := by
  refine List.nodup_flatMap.mpr ⟨fun category _ => ?_, ?_⟩
  · have distinct : (catalogue.records category).keys.Nodup := (catalogue.records category).distinct
    exact distinct.map fun _ _ same => congrArg Prod.snd same
  · -- Lists of two categories differ in the first part of every pair.
    have apart : Category.all.Pairwise (· ≠ ·) := by decide
    refine apart.imp fun differ => ?_
    simp [Function.onFun, List.disjoint_left, Ne.symm differ]

/-- The size counts each name once for every category it is filed in. -/
theorem size_eq_encard :
    (catalogue.size : ℕ∞) =
      {pair : Category × String | (catalogue.lookup pair.1 pair.2).isSome}.encard := by
  -- The pairs are listed without repetition, so their number is the length of the list.
  have counted : catalogue.filedNames.length = catalogue.size := by
    simp [filedNames, size, Category.all, OrderedMap.length_keys, Nat.add_assoc]
  have same : {pair : Category × String | (catalogue.lookup pair.1 pair.2).isSome} =
      (catalogue.filedNames.toFinset : Set (Category × String)) := by
    ext ⟨category, name⟩
    simp [mem_filedNames_iff]
  rw [same, Set.encard_coe_eq_coe_finsetCard, List.toFinset_card_of_nodup catalogue.nodup_filedNames,
    counted]

/--
After any history of changes, the history tells what the catalogue holds.

A category lists its names without repetition, in the order of their first insertion since they were
last taken out, and each record under its own name.
A record is found exactly if the last change that concerns its name there has inserted it.
Aliases have different names, in the order of their first declaration, and each is as its name was
declared last.
A change leaves alone all categories but its own, and the aliases unless it declares one.
The size is the number of names over all categories.
-/
theorem contents_ofEdits (edits : List Edit) :
    let catalogue := ofEdits edits
    (∀ category,
      (catalogue.records category).keys.Nodup ∧
      (catalogue.records category).keys = Edit.names category edits ∧
      (∀ entry ∈ (catalogue.records category).entries, entry.1 = entry.2.name) ∧
      (∀ name record, catalogue.lookup category name = some record ↔
        Edit.last? (Edit.concerns category name) edits = some (.insert category record))) ∧
    (catalogue.aliases.map Alias.name).Nodup ∧
    catalogue.aliases.map Alias.name = Edit.aliasNames edits ∧
    (∀ declared, declared ∈ catalogue.aliases ↔
      Edit.last? (Edit.declares declared.name) edits = some (.declare declared)) ∧
    (∀ change category, change.category? ≠ some category →
      (catalogue.edit change).records category = catalogue.records category) ∧
    (∀ change, change.category? ≠ none → (catalogue.edit change).aliases = catalogue.aliases) ∧
    (catalogue.size : ℕ∞) =
      {pair : Category × String | (catalogue.lookup pair.1 pair.2).isSome}.encard := by
  intro catalogue
  -- Each part is a law of whole histories or of one change, stated above.
  refine ⟨fun category => ⟨(catalogue.records category).distinct, keys_ofEdits edits category, ?_, ?_⟩,
    nodup_aliasNames_ofEdits edits, aliasNames_ofEdits edits, fun declared => mem_aliases_ofEdits_iff,
    fun change category => catalogue.records_edit_of_ne,
    fun change => catalogue.aliases_edit_of_ne, catalogue.size_eq_encard⟩
  · intro entry filed
    exact (name_of_mem_entries filed).symm
  · intro name record
    exact lookup_ofEdits_eq_some_iff

end Catalogue

end SymbolAssist
