import Mathlib.Data.List.Induction
import Mathlib.Data.List.Nodup
import SymbolAssist.Catalogue.Basic

/-! The catalogues that arise from the empty one by single changes, and the order of their aliases. -/

namespace SymbolAssist

section FirstOccurrences

variable {α : Type} [DecidableEq α]

/-- Of a longer list one more item is kept, if it is new. -/
theorem eraseDups_concat (items : List α) (last : α) :
    (items ++ [last]).eraseDups =
      if last ∈ items then items.eraseDups else items.eraseDups ++ [last] := by
  -- What is kept of the end is what did not occur before.
  rw [List.eraseDups_append]
  by_cases repeated : last ∈ items <;> simp [List.removeAll, repeated, List.eraseDups_cons]

/-- No item is kept twice. -/
theorem nodup_eraseDups (items : List α) : items.eraseDups.Nodup := by
  -- The last item is added only if it was not kept before, so the list is built from its end.
  induction items using List.reverseRecOn with
  | nil => simp
  | append_singleton items last ih =>
    rw [eraseDups_concat]
    split
    · exact ih
    · rename_i fresh
      rw [List.nodup_append_comm, List.singleton_append, List.nodup_cons, List.mem_eraseDups]
      exact ⟨fresh, ih⟩

/-- It does not matter whether repetitions are dropped before other items or after them. -/
theorem eraseDups_filter (test : α → Bool) (items : List α) :
    (items.filter test).eraseDups = items.eraseDups.filter test := by
  induction items using List.reverseRecOn with
  | nil => rfl
  | append_singleton items last ih =>
    rw [List.filter_append, eraseDups_concat]
    cases accepted : test last with
    | false => split <;> simp [accepted, ih]
    | true =>
      -- An accepted item is new among the accepted ones if it is new at all.
      rw [List.filter_cons_of_pos accepted, List.filter_nil, eraseDups_concat]
      by_cases repeated : last ∈ items <;> simp [accepted, ih, repeated]

end FirstOccurrences

/-- A single change to a catalogue. -/
inductive Edit where
  /-- Files a record in a category under its own name. -/
  | insert (category : Category) (record : Record)
  /-- Takes the record of a name out of a category. -/
  | erase (category : Category) (name : String)
  /-- Declares an alias, in the place of an earlier one of the same name. -/
  | declare (declared : Alias)
  deriving Repr, DecidableEq

namespace Edit

/-- The name that a change declares as an alias. -/
def aliasName? : Edit → Option String
  | .declare declared => some declared.name
  | _ => none

/-- The names declared as aliases, in the order of their first declaration. -/
def aliasNames (edits : List Edit) : List String :=
  (edits.filterMap aliasName?).eraseDups

end Edit

namespace Catalogue

/-- The catalogue after a change. -/
def edit (catalogue : Catalogue) : Edit → Catalogue
  | .insert category record => catalogue.insert category record
  | .erase category name => catalogue.erase category name
  | .declare declared => catalogue.addAlias declared

/-- The catalogue after changes to the empty one, made one after the other. -/
def ofEdits (edits : List Edit) : Catalogue :=
  edits.foldl edit .empty

/-- New records in a category leave the aliases alone. -/
@[simp] theorem aliases_withRecords (catalogue : Catalogue) (category : Category)
    (records : RecordMap) : (catalogue.withRecords category records).aliases = catalogue.aliases := by
  -- Each category has a field of its own, beside that of the aliases.
  cases category <;> rfl

/-- A new alias goes to the end, and a known one keeps its place. -/
theorem names_insertAlias (declared : Alias) (aliases : List Alias) :
    (insertAlias declared aliases).map Alias.name =
      if declared.name ∈ aliases.map Alias.name then aliases.map Alias.name
      else aliases.map Alias.name ++ [declared.name] := by
  induction aliases with
  | nil => rfl
  | cons earlier rest ih =>
    by_cases same : earlier.name = declared.name
    · simp [insertAlias, same]
    · -- The search goes on behind an alias of another name.
      simp only [insertAlias, if_neg same, List.map_cons, ih, List.mem_cons, Ne.symm same, false_or]
      split <;> rfl

/-- A declared alias takes the place of the one of its name, and the others stay. -/
theorem mem_insertAlias {declared other : Alias} {aliases : List Alias}
    (distinct : (aliases.map Alias.name).Nodup) :
    other ∈ insertAlias declared aliases ↔
      other = declared ∨ other ∈ aliases ∧ other.name ≠ declared.name := by
  -- The induction follows the search for an alias of that name.
  induction aliases with
  | nil => simp [insertAlias]
  | cons earlier rest ih =>
    rw [List.map_cons, List.nodup_cons] at distinct
    obtain ⟨first, distinct⟩ := distinct
    by_cases same : earlier.name = declared.name
    · -- The alias is replaced here, and no other one has its name.
      have apart : other ∈ rest → other.name ≠ declared.name := fun later alike =>
        first (same ▸ alike ▸ List.mem_map_of_mem later)
      rw [insertAlias, if_pos same, List.mem_cons, List.mem_cons]
      grind
    · rw [insertAlias, if_neg same, List.mem_cons, List.mem_cons, ih distinct]
      grind

/-- One change adds at most its own name to the names that were declared before. -/
theorem aliasNames_edit (catalogue : Catalogue) (change : Edit) {names : List String}
    (before : catalogue.aliases.map Alias.name = names.eraseDups) :
    (catalogue.edit change).aliases.map Alias.name =
      (names ++ change.aliasName?.toList).eraseDups := by
  cases change with
  | insert category record => simp [edit, insert, Edit.aliasName?, before]
  | erase category name => simp [edit, erase, Edit.aliasName?, before]
  | declare declared =>
    -- A repeated name is dropped from the end of the list, just as it is not added to the aliases.
    rw [edit, addAlias, names_insertAlias, Edit.aliasName?, Option.toList_some, eraseDups_concat,
      before]
    simp only [List.mem_eraseDups]

/-- Aliases are listed in the order of their first declaration. -/
theorem aliasNames_ofEdits (edits : List Edit) :
    (ofEdits edits).aliases.map Alias.name = Edit.aliasNames edits := by
  -- The names of the changes made so far are what one more change is measured against.
  induction edits using List.reverseRecOn with
  | nil => rfl
  | append_singleton earlier last ih =>
    have step := aliasNames_edit (ofEdits earlier) last ih
    rw [ofEdits, List.foldl_append, List.foldl_cons, List.foldl_nil, ← ofEdits, step,
      Edit.aliasNames, List.filterMap_append]
    cases shown : last.aliasName? <;> simp [shown]

/-- No two aliases have the same name. -/
theorem nodup_aliasNames_ofEdits (edits : List Edit) :
    ((ofEdits edits).aliases.map Alias.name).Nodup := by
  -- The names are those declared, each kept once.
  rw [aliasNames_ofEdits]
  exact nodup_eraseDups _

end Catalogue

end SymbolAssist
