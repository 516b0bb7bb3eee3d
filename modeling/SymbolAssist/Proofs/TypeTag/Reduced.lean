import SymbolAssist.Proofs.TypeTag.Reading

/-! What is true of every type that was read: its names, its brackets and its commas. -/

namespace SymbolAssist

open Text Spelling

/-- A text that is read as the name of a type, as it stands. -/
structure IsTypeName (name : List Char) : Prop where
  /-- It has no blanks around it. -/
  trimmed : trim name = name
  /-- It is not empty. -/
  nonempty : name ≠ []
  /-- It is neither qualified nor a container. -/
  form : ofBody name = .named name

namespace TypeTag

/-- A type whose names read as names, and of whose parameters only the last may leave brackets open. -/
inductive Reduced : TypeTag → Prop where
  /-- The name reads as a name. -/
  | named {qualifier : Option Qualifier} {name : String} (isName : IsTypeName name.toList) :
    Reduced (.named qualifier name)
  /-- The parameters are reduced, and only the last may leave brackets open. -/
  | container {qualifier : Option Qualifier} {cls : ContainerClass} {params : List TypeTag}
    (each : ∀ param ∈ params, Reduced param)
    (closed : ∀ param ∈ params.dropLast, depthAfter 0 param.chars = 0) :
    Reduced (.container qualifier cls params)

section Text

variable (tag : TypeTag) (qualifier : Qualifier)

/-- A qualifier is no part of the core. -/
@[simp] theorem coreChars_withQualifier :
    (tag.withQualifier qualifier).coreChars = tag.coreChars := by
  -- Only the qualifier of the type itself is replaced.
  cases tag <;> simp [withQualifier, coreChars]

/-- The word of a class has none of the marks around parameters. -/
theorem not_mem_keyword {mark : Char} (marks : mark ∈ parameterMarks) (cls : ContainerClass) :
    mark ∉ cls.keyword.toList :=
  -- The word of a class is a name.
  not_mem_of_isNameChar (ContainerClass.isNameChar_of_ofName? cls.ofName?_keyword) marks

/-- The word of a class is level. -/
theorem isLevel_keyword (depth : Nat) (cls : ContainerClass) : IsLevel depth cls.keyword.toList :=
  -- Only marks could make it otherwise.
  .of_unmarked fun _ marks => not_mem_keyword marks cls

/-- A qualifier and its space have none of the marks around parameters. -/
theorem not_mem_qualifierChars {mark : Char} (marks : mark ∈ parameterMarks)
    (qualifier : Option Qualifier) : mark ∉ qualifierChars qualifier := by
  -- The word is a name, and the space behind it is a blank.
  cases qualifier with
  | none => simp [qualifierChars]
  | some qualifier =>
    rw [qualifierChars, List.mem_append, not_or]
    exact ⟨not_mem_of_isNameChar Qualifier.isNameChar_of_mem_keyword marks,
      not_mem_of_isBlank (List.all_eq_true.mp (by decide)) marks⟩

/-- A qualifier and its space are level. -/
theorem isLevel_qualifierChars (depth : Nat) (qualifier : Option Qualifier) :
    IsLevel depth (qualifierChars qualifier) :=
  -- Only marks could make them otherwise.
  .of_unmarked fun _ marks => not_mem_qualifierChars marks qualifier

/-- A text before the first bracket of a container has none of the marks around parameters. -/
theorem not_mem_of_ofName?_trim {head : List Char} {cls : ContainerClass} {mark : Char}
    (named : ContainerClass.ofName? (trim head) = some cls) (marks : mark ∈ parameterMarks) :
    mark ∉ head := by
  obtain ⟨before, after, blankBefore, blankAfter, same⟩ := exists_padding head
  -- Only blanks stand around the word of the class.
  rw [same, List.mem_append, List.mem_append, not_or, not_or]
  exact ⟨⟨not_mem_of_isBlank blankBefore marks,
    not_mem_of_isNameChar (ContainerClass.isNameChar_of_ofName? named) marks⟩,
    not_mem_of_isBlank blankAfter marks⟩

/-- Parameters that exist are put between brackets. -/
theorem bracketed_cons (first : List Char) (rest : List (List Char)) :
    bracketed (first :: rest) = '<' :: ([',', ' '].intercalate (first :: rest) ++ ['>']) := rfl

end Text

section Depth

/-- Blanks do not change the depth. -/
theorem depthAfter_of_isBlank {blanks : List Char} (blank : ∀ char ∈ blanks, isBlank char)
    (depth : Nat) : depthAfter depth blanks = depth :=
  -- Blanks are level.
  (IsLevel.of_isBlank blank).balanced

/-- Blanks around a text do not change the depth. -/
theorem depthAfter_trim (depth : Nat) (text : List Char) :
    depthAfter depth (trim text) = depthAfter depth text := by
  -- The text is what trimming leaves and blanks on both sides.
  obtain ⟨before, after, blankBefore, blankAfter, same⟩ := exists_padding text
  conv_rhs => rw [same]
  rw [depthAfter_append, depthAfter_append, depthAfter_of_isBlank blankBefore,
    depthAfter_of_isBlank blankAfter]

/-- A qualifier does not change the depth. -/
theorem depthAfter_chars (depth : Nat) (tag : TypeTag) :
    depthAfter depth tag.chars = depthAfter depth tag.coreChars := by
  -- The qualifier in front is level.
  rw [chars, depthAfter_append, (isLevel_qualifierChars depth tag.qualifier).balanced]

/-- A container is scanned parameter by parameter, one bracket deeper. -/
theorem depthAfter_container (depth : Nat) (qualifier : Option Qualifier) (cls : ContainerClass)
    (params : List TypeTag) :
    depthAfter depth (TypeTag.container qualifier cls params).chars =
      (params.map chars).foldl depthAfter (depth + 1) - 1 := by
  have comma : ∀ depth, depthAfter depth [',', ' '] = depth := fun _ => rfl
  rw [depthAfter_chars, coreChars, paramChars_eq_map, depthAfter_append,
    (isLevel_keyword depth cls).balanced]
  cases params with
  | nil => rfl
  | cons first rest =>
    -- The outer brackets open one level in front of the parameters and close it behind them.
    rw [List.map_cons, bracketed_cons, depthAfter_cons, nextDepth_open, depthAfter_append,
      depthAfter_intercalate comma, depthAfter_cons, nextDepth_close, depthAfter_nil]

/-- Scanning texts one after the other keeps a greater depth greater. -/
private theorem foldl_depthAfter_mono (texts : List (List Char)) {depth deeper : Nat}
    (less : depth ≤ deeper) : texts.foldl depthAfter depth ≤ texts.foldl depthAfter deeper := by
  -- Each text keeps the greater depth greater.
  induction texts generalizing depth deeper with
  | nil => exact less
  | cons text rest ih => exact ih (depthAfter_mono less)

/-- If no type leaves more brackets open than its entry, the parameters do not either. -/
private theorem foldl_depthAfter_params_le {entries : List (List Char)}
    (each : ∀ entry ∈ entries, ∀ tag, parseChars entry = some tag →
      ∀ depth, depthAfter depth tag.chars ≤ depthAfter depth entry) (depth : Nat) :
    ((entries.filterMap parseChars).map chars).foldl depthAfter depth ≤
      entries.foldl depthAfter depth := by
  induction entries generalizing depth with
  | nil => exact Nat.le_refl _
  | cons entry rest ih =>
    have later := ih fun other member => each other (List.mem_cons_of_mem entry member)
    rw [List.foldl_cons]
    cases read : parseChars entry with
    | none =>
      -- An entry that is no type is blank.
      rw [List.filterMap_cons_none read, depthAfter_of_isBlank (parseChars_eq_none_iff.mp read)]
      exact later depth
    | some tag =>
      rw [List.filterMap_cons_some read, List.map_cons, List.foldl_cons]
      calc ((rest.filterMap parseChars).map chars).foldl depthAfter (depthAfter depth tag.chars)
          ≤ rest.foldl depthAfter (depthAfter depth tag.chars) := later _
        _ ≤ rest.foldl depthAfter (depthAfter depth entry) :=
          foldl_depthAfter_mono rest (each entry List.mem_cons_self tag read depth)

/-- A type that was read leaves no more brackets open than the text it was read from. -/
theorem depthAfter_chars_le {text : List Char} {tag : TypeTag} (parsed : parseChars text = some tag)
    (depth : Nat) : depthAfter depth tag.chars ≤ depthAfter depth text := by
  revert depth
  refine parseChars_induction (motive := fun text tag => ∀ depth,
    depthAfter depth tag.chars ≤ depthAfter depth text) ?_ ?_ ?_ parsed
  · intro text qualifier rest inner form ih depth
    obtain ⟨blank, separates, shape⟩ := ofBody_eq_qualified_iff.mp form
    -- Neither the qualifier nor the blank behind it is a bracket.
    have word : IsLevel depth qualifier.keyword.toList :=
      .of_isNameChar qualifier.isNameChar_of_mem_keyword
    have gap : depthAfter depth [blank] = depth := depthAfter_of_isBlank (by simpa using separates) depth
    have behind : depthAfter depth text = depthAfter depth rest := by
      rw [← depthAfter_trim, shape, ← List.singleton_append, depthAfter_append, word.balanced,
        depthAfter_append, gap]
    rw [depthAfter_chars, coreChars_withQualifier, ← depthAfter_chars, behind]
    exact ih depth
  · intro text cls entries form ih depth
    obtain ⟨_, found⟩ := ofBody_eq_container_iff.mp form
    rw [depthAfter_container, ← depthAfter_trim]
    have params := foldl_depthAfter_params_le ih (depth + 1)
    rcases container?_cases found with
      ⟨element, shape, rfl, rfl⟩ | ⟨head, inner, shape, plain, named, rfl⟩ | ⟨named, rfl⟩
    · -- The brackets of an array count for nothing in the text, and for one more in its normal form.
      have more := depthAfter_succ_le depth element
      rw [List.foldl_cons, List.foldl_nil] at params
      rw [shape, depthAfter_append, depthAfter_of_not_mem (by decide) (by decide)]
      omega
    · -- Both texts go one bracket deeper for the entries.
      have front : IsLevel depth head := .of_unmarked fun _ marks => not_mem_of_ofName?_trim named marks
      rw [shape, depthAfter_append, front.balanced, depthAfter_cons, nextDepth_open,
        depthAfter_append]
      conv_rhs => rw [← intercalate_splitEntries 0 inner]
      rw [depthAfter_intercalate fun _ => rfl]
      exact Nat.sub_le_sub_right params 1
    · have letters := ContainerClass.isNameChar_of_ofName? named
      have word : IsLevel depth (trim text) :=
        .of_isNameChar letters
      rw [word.balanced]
      simp
  · intro text _ _ depth
    rw [depthAfter_chars, coreChars, String.toList_ofList, depthAfter_trim]

end Depth

/-- Parameters of which all entries but the last close their brackets close theirs. -/
private theorem depthAfter_of_mem_params {entries : List (List Char)}
    (closed : ∀ entry ∈ entries.dropLast, depthAfter 0 entry = 0) :
    ∀ param ∈ (entries.filterMap parseChars).dropLast, depthAfter 0 param.chars = 0 := by
  -- A parameter that is not the last one comes from an entry that is not the last one either.
  have earlier : ∀ param ∈ (entries.filterMap parseChars).dropLast,
      ∃ entry ∈ entries.dropLast, parseChars entry = some param := by
    rcases List.eq_nil_or_concat entries with rfl | ⟨front, last, rfl⟩
    · simp
    · intro param member
      rw [List.concat_eq_append, List.filterMap_append] at member
      rw [List.concat_eq_append, List.dropLast_concat]
      apply List.mem_filterMap.mp
      cases read : parseChars last with
      | none =>
        rw [List.filterMap_cons_none read, List.filterMap_nil, List.append_nil] at member
        exact List.dropLast_subset _ member
      | some tag =>
        rw [List.filterMap_cons_some read, List.filterMap_nil, List.dropLast_concat] at member
        exact member
  -- What the entry closes, the type read from it closes as well.
  intro param member
  obtain ⟨entry, listed, read⟩ := earlier param member
  have bound := depthAfter_chars_le read 0
  rw [closed entry listed] at bound
  exact Nat.le_zero.mp bound

/-- Every type that was read is reduced. -/
theorem reduced_of_parseChars {text : List Char} {tag : TypeTag}
    (parsed : parseChars text = some tag) : Reduced tag := by
  refine parseChars_induction (motive := fun _ tag => Reduced tag) ?_ ?_ ?_ parsed
  · -- A qualifier changes neither names nor parameters.
    intro text qualifier rest inner form reduced
    cases reduced with
    | named isName => exact .named isName
    | container each closed => exact .container each closed
  · intro text cls entries form ih
    obtain ⟨_, found⟩ := ofBody_eq_container_iff.mp form
    -- However the container is written, only its last entry may leave brackets open.
    refine .container (fun param member => ?_) (depthAfter_of_mem_params ?_)
    · obtain ⟨entry, listed, read⟩ := List.mem_filterMap.mp member
      exact ih entry listed param read
    · rcases container?_cases found with
        ⟨element, _, _, rfl⟩ | ⟨head, inner, _, _, _, rfl⟩ | ⟨_, rfl⟩
      · simp
      · exact fun entry member => depthAfter_of_mem_dropLast member
      · simp
  · intro text nonempty form
    -- The name is the trimmed text, which has no other form.
    refine .named ⟨?_, ?_, ?_⟩ <;> rw [String.toList_ofList]
    · exact trim_trim text
    · exact nonempty
    · exact form

end TypeTag

end SymbolAssist
