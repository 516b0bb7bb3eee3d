import Mathlib.Algebra.GroupWithZero.Nat
import SymbolAssist.Proofs.TypeTag.Reduced

/-! Commas in the normal text of a type: reading a text and writing it again adds none. -/

namespace SymbolAssist.TypeTag

open Text Spelling

/-- The commas in the normal text of a type. -/
def commaCount (tag : TypeTag) : Nat :=
  tag.chars.count ','

/-- Joined texts have their own commas and one for each joint. -/
theorem count_intercalate {separator : List Char} (single : separator.count ',' = 1)
    (texts : List (List Char)) :
    (separator.intercalate texts).count ',' =
      (texts.map (List.count ',')).sum + (texts.length - 1) := by
  induction texts with
  | nil => rfl
  | cons first rest ih =>
    cases rest with
    | nil => simp
    | cons second rest =>
      -- The joint in front of the second text adds the one comma.
      rw [List.intercalate_cons_cons, List.count_append, List.count_append, single, ih]
      simp only [List.map_cons, List.sum_cons, List.length_cons]
      omega

/-- A qualifier has no comma. -/
theorem commaCount_eq (tag : TypeTag) : tag.commaCount = tag.coreChars.count ',' := by
  -- The text of a type is its qualifier and its core, and only the core can have commas.
  have front : (qualifierChars tag.qualifier).count ',' = 0 :=
    List.count_eq_zero.mpr (not_mem_qualifierChars (by decide) tag.qualifier)
  rw [commaCount, chars, List.count_append, front, Nat.zero_add]

/-- A container has the commas of its parameters and those between them. -/
theorem commaCount_container (qualifier : Option Qualifier) (cls : ContainerClass)
    (params : List TypeTag) :
    (TypeTag.container qualifier cls params).commaCount =
      (params.map commaCount).sum + (params.length - 1) := by
  have word : cls.keyword.toList.count ',' = 0 :=
    List.count_eq_zero.mpr (not_mem_keyword (by decide) cls)
  rw [commaCount_eq, coreChars, paramChars_eq_map, List.count_append, word, Nat.zero_add]
  cases params with
  | nil => rfl
  | cons first rest =>
    -- Of the brackets around the parameters neither is a comma.
    rw [List.map_cons, bracketed_cons, List.count_cons_of_ne (by decide), List.count_append,
      ← List.map_cons, count_intercalate (by decide), List.map_map, List.length_map]
    rfl

/-- If no type has more commas than its entry, the parameters together have no more than the entries. -/
private theorem sum_commaCount_le {entries : List (List Char)}
    (each : ∀ entry ∈ entries, ∀ tag, parseChars entry = some tag →
      tag.commaCount ≤ entry.count ',') :
    ((entries.filterMap parseChars).map commaCount).sum ≤ (entries.map (List.count ',')).sum := by
  induction entries with
  | nil => exact Nat.le_refl _
  | cons entry rest ih =>
    have later := ih fun other member => each other (List.mem_cons_of_mem entry member)
    rw [List.map_cons, List.sum_cons]
    cases read : parseChars entry with
    | none =>
      -- An entry that is no type only adds to the right-hand side.
      rw [List.filterMap_cons_none read]
      omega
    | some tag =>
      have here := each entry List.mem_cons_self tag read
      rw [List.filterMap_cons_some read, List.map_cons, List.sum_cons]
      omega

/-- The entries of a text have all of its commas but those it is cut at. -/
private theorem sum_commaCount_splitEntries {inner : List Char}
    (each : ∀ entry ∈ splitEntries 0 inner, ∀ tag, parseChars entry = some tag →
      tag.commaCount ≤ entry.count ',') :
    (((splitEntries 0 inner).filterMap parseChars).map commaCount).sum +
      ((splitEntries 0 inner).length - 1) ≤ inner.count ',' := by
  -- The text is its entries with a comma between each two.
  have joined := count_intercalate (by decide : [','].count ',' = 1) (splitEntries 0 inner)
  rw [intercalate_splitEntries] at joined
  have less := sum_commaCount_le each
  omega

/-- A type that was read has no more commas than the text it was read from. -/
theorem commaCount_le {text : List Char} {tag : TypeTag} (parsed : parseChars text = some tag) :
    tag.commaCount ≤ text.count ',' := by
  refine parseChars_induction (motive := fun text tag => tag.commaCount ≤ text.count ',')
    ?_ ?_ ?_ parsed
  · intro text qualifier rest inner form ih
    obtain ⟨blank, _, shape⟩ := ofBody_eq_qualified_iff.mp form
    -- What stands behind the qualifier is a part of the text.
    have less : rest.count ',' ≤ text.count ',' := by
      have behind : rest.Sublist (trim text) := by
        rw [shape]
        exact (List.suffix_cons blank rest).sublist.trans (List.sublist_append_right _ _)
      exact (behind.trans (trim_isInfix text).sublist).count_le ','
    rw [commaCount_eq, coreChars_withQualifier, ← commaCount_eq]
    omega
  · intro text cls entries form ih
    obtain ⟨_, found⟩ := ofBody_eq_container_iff.mp form
    have less : (trim text).count ',' ≤ text.count ',' := (trim_isInfix text).sublist.count_le ','
    have fewer := List.length_filterMap_le parseChars entries
    have total := sum_commaCount_le ih
    rw [commaCount_container]
    rcases container?_cases found with
      ⟨element, shape, _, rfl⟩ | ⟨head, inner, shape, _, _, rfl⟩ | ⟨_, rfl⟩
    · -- A single entry makes no comma of its own.
      rw [shape, List.count_append] at less
      simp only [List.map_cons, List.map_nil, List.sum_cons, List.sum_nil, List.length_cons,
        List.length_nil] at total fewer
      omega
    · -- Every comma between parameters stood between their entries.
      have split := sum_commaCount_splitEntries ih
      rw [shape, List.count_append, List.count_cons_of_ne (by decide), List.count_append] at less
      omega
    · simp
  · intro text _ _
    rw [commaCount_eq, coreChars, String.toList_ofList]
    exact (trim_isInfix text).sublist.count_le ','

/-- Cutting a normal text and reading its entries loses at least the commas it is cut at. -/
theorem sum_commaCount_entries_le (text : List Char) :
    (((splitEntries 0 text).filterMap parseChars).map commaCount).sum +
      ((splitEntries 0 text).length - 1) ≤ text.count ',' :=
  -- A type that is read has no more commas than the text of its entry.
  sum_commaCount_splitEntries fun _ _ _ read => commaCount_le read

end SymbolAssist.TypeTag
