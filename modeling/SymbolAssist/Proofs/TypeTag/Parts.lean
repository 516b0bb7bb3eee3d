import SymbolAssist.Proofs.TypeTag.ReadBack

/-! The parts of a type that was read: each can be read on its own, and nothing is left in their names
that could still be taken off. -/

namespace SymbolAssist

open Text Spelling

/-- A name from which nothing can be taken off as part of a written type. -/
structure IsBareName (name : List Char) : Prop where
  /-- Something is left of it. -/
  nonempty : name ≠ []
  /-- No blank opens it. -/
  opens : ∀ char, name.head? = some char → isBlank char = false
  /-- No blank ends it. -/
  ends : ∀ char, name.getLast? = some char → isBlank char = false
  /-- It does not end in the square brackets of an array. -/
  unbracketed : ¬ ['[', ']'] <:+ name
  /-- It is the word of no container, in any case. -/
  notClass : ∀ cls : ContainerClass, sameIgnoringCase name cls.keyword.toList = false
  /-- No qualifier and a blank behind it open it. -/
  unqualified : ∀ (qualifier : Qualifier) (blank : Char) (rest : List Char), isBlank blank →
    name ≠ qualifier.keyword.toList ++ blank :: rest

/-- What is read as a name has nothing left to take off. -/
theorem IsTypeName.isBareName {name : List Char} (isName : IsTypeName name) : IsBareName name := by
  obtain ⟨opens, ends⟩ := trim_eq_self_iff.mp isName.trimmed
  -- A qualifier would have been found first, and then any form of a container.
  have unqualified : ∀ qualifier rest, ofBody name ≠ .qualified qualifier rest := by
    intro qualifier rest form
    rw [isName.form] at form
    cases form
  have uncontained : ∀ cls entries, container? name ≠ some (cls, entries) := by
    intro cls entries found
    have form := isName.form
    rw [ofBody] at form
    split at form
    · cases form
    · rw [found] at form
      cases form
  refine ⟨isName.nonempty, opens, ends, ?_, ?_, ?_⟩
  · rintro ⟨element, rfl⟩
    exact uncontained _ _ (container?_brackets element)
  · intro cls
    rw [Bool.eq_false_iff]
    intro same
    exact uncontained _ _ (container?_word (ContainerClass.ofName?_eq_some_iff.mpr same))
  · intro qualifier blank rest separates same
    exact unqualified qualifier rest (ofBody_eq_qualified_iff.mpr ⟨blank, separates, same⟩)

namespace TypeTag

variable {tag part : TypeTag}

/-- What is nested in a type is one of its parameters or nested in one. -/
theorem mem_nested_iff : part ∈ tag.nested ↔ ∃ param ∈ tag.params, part ∈ param :: param.nested := by
  -- A name has no parameters, and nothing is nested in it.
  cases tag with
  | named qualifier name => simp [nested, params]
  | container qualifier cls params => simp only [mem_nested_container, TypeTag.params, List.mem_cons]

/-- The parts of a reduced type are reduced. -/
theorem Reduced.of_mem (reduced : Reduced tag) (member : part ∈ tag :: tag.nested) : Reduced part := by
  induction reduced with
  | named isName =>
    -- A named type has no other part.
    obtain rfl : part = _ := by simpa [nested] using member
    exact .named isName
  | container each closed ih =>
    rcases List.mem_cons.mp member with rfl | inner
    · exact .container each closed
    · obtain ⟨param, listed, within⟩ := mem_nested_iff.mp inner
      exact ih param listed within

/-- Every part of a type that was read can be read on its own, from a piece of the text. -/
theorem exists_parse_of_mem {text : String} (parsed : parse text = some tag)
    (member : part ∈ tag :: tag.nested) :
    ∃ written : String, written.toList <:+: text.toList ∧ parse written = some part := by
  -- A parameter is read from its entry, so what is nested in a type is followed down the entries.
  have inner : ∀ part ∈ tag.nested,
      ∃ written : String, written.toList <:+: text.toList ∧ parse written = some part := by
    refine parseChars_induction (motive := fun text tag => ∀ part ∈ tag.nested,
      ∃ written : String, written.toList <:+: text ∧ parse written = some part) ?_ ?_ ?_ parsed
    · -- A qualifier in front does not change the parameters.
      intro text qualifier rest tag form ih part nestedPart
      obtain ⟨written, smaller, read⟩ := ih part (by cases tag <;> exact nestedPart)
      have piece : rest <:+: text := (isInfix_of_qualified form).2.trans (trim_isInfix text)
      exact ⟨written, smaller.trans piece, read⟩
    · intro text cls entries form ih part nestedPart
      obtain ⟨param, listed, within⟩ := mem_nested_iff.mp nestedPart
      obtain ⟨entry, entered, read⟩ := List.mem_filterMap.mp listed
      have piece : entry <:+: text := (isInfix_of_mem_container form entered).trans (trim_isInfix text)
      rcases List.mem_cons.mp within with rfl | deeper
      · refine ⟨String.ofList entry, ?_, ?_⟩
        · rwa [String.toList_ofList]
        · rw [parse, String.toList_ofList, read]
      · obtain ⟨written, smaller, readPart⟩ := ih entry entered param read part deeper
        exact ⟨written, smaller.trans piece, readPart⟩
    · intro text nonempty form part nestedPart
      simp [nested] at nestedPart
  rcases List.mem_cons.mp member with rfl | nestedPart
  · exact ⟨text, List.infix_rfl, parsed⟩
  · exact inner part nestedPart

/-- The qualifier of a type that was read is read from a word of the text. -/
theorem exists_word_of_qualifier {text : List Char} (parsed : parseChars text = some tag)
    {qualifier : Qualifier} (qualified : tag.qualifier = some qualifier) :
    ∃ word, word <:+: text ∧ Qualifier.ofWord? word = some qualifier := by
  revert qualified
  -- A type has no qualifier until one is found in front of it.
  refine parseChars_induction (motive := fun text tag => tag.qualifier = some qualifier →
    ∃ word, word <:+: text ∧ Qualifier.ofWord? word = some qualifier) ?_ ?_ ?_ parsed
  · intro text outer rest inner form _ qualified
    -- The outermost one hides those that follow.
    obtain rfl : outer = qualifier := by cases inner <;> exact Option.some.inj qualified
    have piece : outer.keyword.toList <:+: text :=
      (isInfix_of_qualified form).1.trans (trim_isInfix text)
    exact ⟨_, piece, Qualifier.ofWord?_eq_some_iff.mpr rfl⟩
  · intro text cls entries form ih qualified
    cases qualified
  · intro text nonempty form qualified
    cases qualified

/--
Whatever text a type is read from, nothing is left in it to be read.

A qualifier on any part of the type, however deep, is one of the four words, and the text has that word.
A name on any part is bare: not empty, without blanks around it or brackets at its end, and neither a
container's word nor a qualified type.
And a text is read as no type exactly if it is blank.
-/
theorem parse_leaves_bare_names (text : String) :
    (∀ tag, parse text = some tag → ∀ part ∈ tag :: tag.nested,
      (∀ qualifier, part.qualifier = some qualifier →
        qualifier.keyword ∈ ["series", "simple", "const", "input"] ∧
          qualifier.keyword.toList <:+: text.toList) ∧
      ∀ name, part.name? = some name → IsBareName name.toList) ∧
    (parse text = none ↔ ∀ char ∈ text.toList, isBlank char) := by
  refine ⟨fun tag parsed part member => ⟨?_, ?_⟩, parseChars_eq_none_iff⟩
  · intro qualifier qualified
    -- The part is read from a piece of the text, and its qualifier from a word of that piece.
    obtain ⟨written, piece, read⟩ := exists_parse_of_mem parsed member
    obtain ⟨word, within, found⟩ := exists_word_of_qualifier read qualified
    obtain rfl := Qualifier.ofWord?_eq_some_iff.mp found
    exact ⟨Qualifier.keyword_mem_of_ofWord? found, within.trans piece⟩
  · intro name named
    -- The parts of what was read are reduced, and so is a name among them.
    have reduced := (reduced_of_parseChars parsed).of_mem member
    cases reduced with
    | named isName =>
      obtain rfl : _ = name := Option.some.inj named
      exact isName.isBareName
    | container => cases named

end TypeTag

end SymbolAssist
