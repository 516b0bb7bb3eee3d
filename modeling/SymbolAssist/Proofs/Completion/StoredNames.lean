import SymbolAssist.Proofs.Catalogue.History
import SymbolAssist.Proofs.Catalogue.Merged
import SymbolAssist.Proofs.Completion.Forms
import SymbolAssist.Proofs.Matching

/-! A documented name is offered, and once only, as soon as something of its beginning is typed. -/

namespace SymbolAssist

open Text

/-- The candidates without a receiver that are shown under a name come from the pass over names. -/
theorem CompletionList.Splits.filter_free {list : CompletionList} {names methods : Pass}
    (split : list.Splits names methods) (name : String) :
    (list.items.filter fun candidate => candidate.space = none ∧ candidate.displayName = name) =
      names.items.filter fun candidate => candidate.displayName = name := by
  have none : (methods.items.filter fun candidate =>
      candidate.space = none ∧ candidate.displayName = name) = [] := by
    rw [List.filter_eq_nil_iff]
    intro candidate listed
    -- Every method is listed with the receiver that it was found for.
    obtain ⟨space, record, rfl⟩ := split.bound candidate listed
    simp [Candidate.method]
  rw [split.items, List.filter_append, none, List.append_nil]
  refine List.filter_congr fun candidate listed => ?_
  obtain ⟨record, rfl⟩ := split.free candidate listed
  exact decide_eq_decide.mpr (and_iff_right rfl)

namespace Catalogue

variable {edits : List Edit} {categories : List Category} {name : String} {record : Record}

/-- In merged categories, too, every record is filed under its own name. -/
theorem name_of_mem_merged (filed : (name, record) ∈ ((ofEdits edits).merged categories).entries) :
    record.name = name := by
  -- The entry comes from the category that decides on the name.
  rw [← OrderedMap.find?_eq_some_iff, find?_merged, get?_eq_some_iff] at filed
  obtain ⟨_, category, _, _, found, _⟩ := filed
  exact name_of_mem_entries (lookup_eq_some_iff.mp found)

/-- A fragment that finds a name lists it by the one record that it has. -/
theorem filter_namesPass {settings : Settings} {fragment : List Char}
    (found : settings.budgets.matchesFree fragment name.toList) :
    (((ofEdits edits).toSource.namesPass settings fragment).items.filter fun candidate =>
      candidate.displayName = name) =
      ((ofEdits edits).get? Category.freeSymbols name).toList.map .free := by
  let entries := ((ofEdits edits).merged Category.freeSymbols).entries
  have listed : ((ofEdits edits).toSource.namesPass settings fragment).items =
      (entries.filter fun entry => settings.budgets.matchesFree fragment entry.1.toList).map
        fun entry => .free entry.2 := rfl
  -- A candidate shows the name of its record, which is the key of its entry.
  have shown : ∀ entry ∈ entries,
      (decide ((Candidate.free entry.2).displayName = name) &&
        settings.budgets.matchesFree fragment entry.1.toList) = decide (entry.1 = name) := by
    intro entry filed
    have same : entry.2.name = entry.1 := name_of_mem_merged filed
    by_cases here : entry.1 = name
    · simp [Candidate.free, same, here, found]
    · simp [Candidate.free, same, here]
  rw [listed, List.filter_map, List.filter_filter]
  simp only [Function.comp_apply]
  -- What is left of the entries is what the merged categories have for the name.
  rw [List.filter_congr shown, OrderedMap.filter_entries_eq, find?_merged, List.map_map]
  rfl

/--
A name that is documented outside the methods is offered once as soon as its beginning is typed.

The beginning must be the whole fragment before the cursor, and the line one that is completed.
However small the budget for typos, of all candidates without a receiver exactly one is then shown
under the name: by the record of the last category that has the name.
The list replaces from where the fragment starts.
-/
theorem stored_name_listed_once (edits : List Edit) (settings : Settings) {text name : String}
    {number : Nat} {before fragment after : List Char}
    (path : ∀ char ∈ name.toList, isPathChar char) (plain : 'Σ' ∉ name.toList)
    (stored : ∃ category ∈ Category.freeSymbols, ((ofEdits edits).lookup category name).isSome)
    (typed : fragment ≠ []) (begins : fragment <+: name.toList)
    (read : (linesOf text.toList)[number]? = some (before ++ fragment ++ after))
    (boundary : ∀ char, before.getLast? = some char → isPathChar char = false)
    (included : settings.isExcluded (before ++ fragment ++ after) = false) :
    let cursor : Position := ⟨number, byteLength (before ++ fragment)⟩
    let list := ((ofEdits edits).toSource.complete settings .disarmed text cursor .never).1
    ∃ earlier category later record,
      Category.freeSymbols = earlier ++ category :: later ∧
      (ofEdits edits).lookup category name = some record ∧
      (∀ other ∈ later, (ofEdits edits).lookup other name = none) ∧
      (list.items.filter fun candidate =>
        candidate.space = none ∧ candidate.displayName = name) = [.free record] ∧
      list.replaceStart = ⟨number, byteLength before⟩ := by
  intro cursor list
  -- The cursor stands behind the fragment, which is all that was typed of the name.
  have inside : ∀ char ∈ fragment, isPathChar char := fun char member =>
    path char (begins.mem member)
  obtain ⟨cut, start⟩ := Cursor.fragment_behind boundary inside
  have due : NamesDue settings .disarmed text cursor .never (before ++ fragment ++ after)
      (before ++ fragment) := by
    refine ⟨rfl, rfl, read, included, ?_, ?_⟩
    · have standing := Cursor.isTyped_takeBytes (before ++ fragment ++ after) cursor.column
      rwa [takeBytes_append] at standing
    · rw [← Cursor.fragment_ne_nil_iff, cut]
      exact typed
  have shown : list = (ofEdits edits).toSource.ordinaryList settings cursor (before ++ fragment)
      (Cursor.fragment (before ++ fragment)) := Source.complete_of_namesDue due
  rw [cut] at shown
  obtain ⟨record, found⟩ := exists_get?_of_lookup stored
  obtain ⟨earlier, category, later, order, decided, missing⟩ := get?_eq_some_iff.mp found
  refine ⟨earlier, category, later, record, order, decided, missing, ?_, ?_⟩
  · have matched := settings.budgets.matchesFree_of_isPrefix typed plain begins
    rw [shown, (Source.splits_ordinaryList ..).filter_free, filter_namesPass matched, found]
    rfl
  · rw [shown, Source.ordinaryList_eq, start]

/-- With no typo forgiven, the beginning of a name that two categories have lists the later one. -/
theorem stored_name_listed_once_shared :
    let function : Record := ⟨"größe.İst", none, false, false, .function ⟨[], none, none⟩⟩
    let constant : Record := ⟨"größe.İst", none, false, false, .constant ⟨none, some "1"⟩⟩
    let edits : List Edit := [.insert .constants constant, .insert .functions function]
    let settings : Settings := { Settings.standard with budgets := ⟨0, 0⟩ }
    let text := "// größe\r\nλ = größe.İ)\r\n"
    let list := ((ofEdits edits).toSource.complete settings .disarmed text ⟨1, 15⟩ .never).1
    (list.items.filter fun candidate =>
      candidate.space = none ∧ candidate.displayName = "größe.İst") = [.free constant] ∧
      list.replaceStart = ⟨1, 5⟩ := by
  intro function constant edits settings text list
  have path : ∀ char ∈ "größe.İst".toList, isPathChar char :=
    List.all_eq_true.mp (by decide +kernel)
  have read : (linesOf text.toList)[1]? =
    some ("λ = ".toList ++ "größe.İ".toList ++ ")".toList) := by decide +kernel
  have boundary : ∀ char, "λ = ".toList.getLast? = some char → isPathChar char = false := by
    intro char last
    have blank : "λ = ".toList.getLast? = some ' ' := by decide +kernel
    obtain rfl : ' ' = char := Option.some.inj (blank.symm.trans last)
    decide +kernel
  obtain ⟨earlier, category, later, record, order, decided, missing, listed, start⟩ :=
    stored_name_listed_once edits settings path (by decide +kernel)
      ⟨.functions, by decide, by decide +kernel⟩ (by decide) (by decide) read boundary
      (by decide +kernel)
  -- The record that decides is the one of the constants, which come after the functions.
  have found : (ofEdits edits).get? Category.freeSymbols "größe.İst" = some constant := by
    decide +kernel
  rw [get?_eq_some_iff.mpr ⟨earlier, category, later, order, decided, missing⟩] at found
  obtain rfl : record = constant := Option.some.inj found
  exact ⟨listed, start⟩

end Catalogue

end SymbolAssist
