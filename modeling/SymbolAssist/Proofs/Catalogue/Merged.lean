import SymbolAssist.Lookup.Source
import SymbolAssist.Proofs.Catalogue.Edits
import SymbolAssist.Proofs.Catalogue.OrderedMap

/-! Categories that are read together: a name stands where it comes first, and has the record of the
last category that files it. -/

namespace SymbolAssist

/-- What is left without repetitions stands in the order in which it comes first. -/
theorem pairwise_idxOf_eraseDups {α : Type} [DecidableEq α] (items : List α) :
    items.eraseDups.Pairwise fun first second => items.idxOf first < items.idxOf second := by
  -- The list grows at its end, where an item is either a repetition or the latest of all.
  induction items using List.reverseRecOn with
  | nil => simp
  | append_singleton items last ih =>
    -- The items that were there before keep the place where they come first.
    have kept : items.eraseDups.Pairwise fun first second =>
        (items ++ [last]).idxOf first < (items ++ [last]).idxOf second := by
      refine ih.imp_of_mem fun inFirst inSecond before => ?_
      rw [List.mem_eraseDups] at inFirst inSecond
      rwa [List.idxOf_append_of_mem inFirst, List.idxOf_append_of_mem inSecond]
    rw [eraseDups_concat]
    split
    · exact kept
    · rename_i fresh
      refine List.pairwise_append.mpr ⟨kept, List.pairwise_singleton _ _, ?_⟩
      intro earlier present latest only
      rw [List.mem_eraseDups] at present
      rw [List.mem_singleton.mp only, List.idxOf_append_of_mem present,
        List.idxOf_append_of_notMem fresh]
      -- An item of the list comes first at a place inside it, and the new one behind it.
      have inside := List.idxOf_lt_length_of_mem present
      omega

namespace OrderedMap

variable {κ α : Type} [DecidableEq κ]

/-- Pairs that are put in one after the other add their keys in the order in which these come first. -/
theorem keys_insertAll (pairs : List (κ × α)) :
    ∀ (map : OrderedMap κ α) (seen : List κ), map.keys = seen.eraseDups →
      (map.insertAll pairs).keys = (seen ++ pairs.map Prod.fst).eraseDups := by
  -- The map and the keys that were seen grow side by side, so both stay quantified over.
  induction pairs with
  | nil =>
    intro map seen listed
    rw [List.map_nil, List.append_nil]
    exact listed
  | cons pair rest ih =>
    intro map seen listed
    -- A key that is there keeps its place, just as a repetition is dropped.
    have grown : (map.insert pair.1 pair.2).keys = (seen ++ [pair.1]).eraseDups := by
      rw [keys_insert, eraseDups_concat, listed]
      simp only [List.mem_eraseDups]
    have step : map.insertAll (pair :: rest) = (map.insert pair.1 pair.2).insertAll rest := rfl
    rw [step, ih _ _ grown, List.append_assoc, List.singleton_append, List.map_cons]

end OrderedMap

namespace Catalogue

variable (catalogue : Catalogue) {categories : List Category} {name : String} {record : Record}

/-- Categories that are merged into a map add their names in the order in which these come first. -/
private theorem keys_foldl_merge (categories : List Category) :
    ∀ (map : RecordMap) (seen : List String), map.keys = seen.eraseDups →
      (categories.foldl (fun map category => map.merge (catalogue.records category)) map).keys =
        (seen ++ categories.flatMap fun category => (catalogue.records category).keys).eraseDups := by
  induction categories with
  | nil =>
    intro map seen listed
    rw [List.flatMap_nil, List.append_nil]
    exact listed
  | cons category rest ih =>
    intro map seen listed
    -- The names of one category are seen before those of the next.
    have merged : (map.merge (catalogue.records category)).keys =
        (seen ++ (catalogue.records category).keys).eraseDups :=
      OrderedMap.keys_insertAll _ map seen listed
    rw [List.foldl_cons, ih _ _ merged, List.flatMap_cons, List.append_assoc]

/-- The names of merged categories are listed in the order in which they come first. -/
theorem keys_merged (categories : List Category) :
    (catalogue.merged categories).keys =
      (categories.flatMap fun category => (catalogue.records category).keys).eraseDups := by
  -- Merging starts from the empty map, which contributes no names of its own.
  rw [merged, keys_foldl_merge catalogue categories .empty [] rfl, List.nil_append]

/-- Categories that are merged into a map answer before it, the last one first. -/
private theorem find?_foldl_merge (categories : List Category) (name : String) :
    ∀ map : RecordMap,
      (categories.foldl (fun map category => map.merge (catalogue.records category)) map).find? name =
        (catalogue.get? categories name).or (map.find? name) := by
  induction categories with
  | nil => intro map; rfl
  | cons category rest ih =>
    intro map
    -- The first category is asked after all the others, and before the map.
    have asked : catalogue.get? (category :: rest) name =
        (catalogue.get? rest name).or ((catalogue.records category).find? name) := by
      simp [get?, lookup, List.findSome?_append]
    rw [List.foldl_cons, ih, OrderedMap.find?_merge, asked, Option.or_assoc]

/-- A name has in the merged categories the record that the last of them has for it. -/
theorem find?_merged (categories : List Category) (name : String) :
    (catalogue.merged categories).find? name = catalogue.get? categories name := by
  -- Nothing is found in the empty map that merging starts from.
  rw [merged, find?_foldl_merge, OrderedMap.find?_empty, Option.or_none]

variable {catalogue}

/-- A record is found exactly under the names that its category lists it with. -/
theorem lookup_eq_some_iff {category : Category} :
    catalogue.lookup category name = some record ↔
      (name, record) ∈ (catalogue.records category).entries :=
  -- A category is an ordered map, which has one entry for each of its keys.
  OrderedMap.find?_eq_some_iff

/-- Nothing is found exactly under the names that a category does not list. -/
theorem lookup_eq_none_iff {category : Category} :
    catalogue.lookup category name = none ↔ name ∉ (catalogue.records category).keys := by
  -- The keys are exactly the names under which something is found.
  rw [OrderedMap.mem_keys_iff, Option.not_isSome_iff_eq_none, lookup]

/-- Of several categories, the last one that has a name decides on its record. -/
theorem get?_eq_some_iff :
    catalogue.get? categories name = some record ↔
      ∃ earlier category later, categories = earlier ++ category :: later ∧
        catalogue.lookup category name = some record ∧
        ∀ other ∈ later, catalogue.lookup other name = none := by
  rw [get?, List.findSome?_eq_some_iff]
  -- The search runs from the end, so what it passes over are the later categories.
  constructor
  · rintro ⟨passed, category, rest, order, found, missing⟩
    refine ⟨rest.reverse, category, passed.reverse, ?_, found, by simpa using missing⟩
    simpa using congrArg List.reverse order
  · rintro ⟨earlier, category, later, rfl, found, missing⟩
    exact ⟨later.reverse, category, earlier.reverse, by simp, found, by simpa using missing⟩

/-- A name that one of the categories has is found in them. -/
theorem exists_get?_of_lookup
    (stored : ∃ category ∈ categories, (catalogue.lookup category name).isSome) :
    ∃ record, catalogue.get? categories name = some record := by
  -- The categories are searched until one of them answers, and one does.
  rw [← Option.isSome_iff_exists, get?, List.findSome?_isSome_iff]
  simpa using stored

/--
A catalogue reads any categories, in any order and also repeatedly, as one list of names.

Each name of a category is listed, each once, and no other name.
Of two names, the one is listed first that comes first when the names of the categories are written
one category behind the other.
The record of a name is that of the last category that files the name, wherever the name is listed.
-/
theorem category_first_place_last_record (catalogue : Catalogue) (categories : List Category) :
    let names := categories.flatMap fun category => (catalogue.records category).keys
    ∃ merged, catalogue.toSource.category categories = .ok merged ∧
      merged.keys.Nodup ∧
      (merged.keys.Pairwise fun first second => names.idxOf first < names.idxOf second) ∧
      (∀ name, name ∈ merged.keys ↔
        ∃ category ∈ categories, name ∈ (catalogue.records category).keys) ∧
      ∀ name record, (name, record) ∈ merged.entries ↔
        ∃ earlier category later, categories = earlier ++ category :: later ∧
          (name, record) ∈ (catalogue.records category).entries ∧
          ∀ other ∈ later, name ∉ (catalogue.records other).keys := by
  intro names
  refine ⟨catalogue.merged categories, rfl, (catalogue.merged categories).distinct, ?_, ?_, ?_⟩
  · rw [keys_merged]
    exact pairwise_idxOf_eraseDups names
  · -- No name gets lost with its repetitions.
    intro name
    rw [keys_merged, List.mem_eraseDups, List.mem_flatMap]
  · -- An entry is what is found under its name, in the merged list and in each category.
    intro name record
    rw [← OrderedMap.find?_eq_some_iff, find?_merged, get?_eq_some_iff]
    simp only [lookup_eq_some_iff, lookup_eq_none_iff]

/-- A name that a later category files again keeps its place and takes the later record, even if the
first category is read once more. -/
example :
    let function : Record := ⟨"max", none, false, false, .function ⟨[], none, none⟩⟩
    let constant (name : String) : Record := ⟨name, none, false, false, .constant ⟨none, none⟩⟩
    let catalogue := ofEdits [.insert .functions function, .insert .constants (constant "pi"),
      .insert .constants (constant "max")]
    (catalogue.merged [.functions, .constants]).entries =
        [("max", constant "max"), ("pi", constant "pi")] ∧
      (catalogue.merged [.constants, .functions, .constants]).entries =
        [("pi", constant "pi"), ("max", constant "max")] := by
  decide

end Catalogue

end SymbolAssist
