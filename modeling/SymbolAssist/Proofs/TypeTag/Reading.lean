import SymbolAssist.Proofs.TypeTag.Forms
import SymbolAssist.TypeTag.Parser

/-! How a written type is read, form by form, and induction over everything that can be read. -/

namespace SymbolAssist.TypeTag

open Text Spelling

/-- Blanks around a written type make no difference. -/
theorem parseChars_pad {before after : List Char} (blankBefore : ∀ char ∈ before, isBlank char)
    (blankAfter : ∀ char ∈ after, isBlank char) (text : List Char) :
    parseChars (before ++ text ++ after) = parseChars text := by
  -- A text is trimmed before it is read.
  rw [parseChars_eq (before ++ text ++ after), parseChars_eq text,
    trim_pad blankBefore blankAfter]

/-- Something that is not blank stands behind the first blank of a text without blanks around it. -/
theorem exists_not_blank_of_trim {word rest : List Char} {blank : Char}
    (separates : isBlank blank = true)
    (trimmed : trim (word ++ blank :: rest) = word ++ blank :: rest) :
    ∃ char ∈ rest, isBlank char = false := by
  have last := (trim_eq_self_iff.mp trimmed).2
  cases ends : rest.getLast? with
  | none =>
    -- The text would end in the blank.
    rw [List.getLast?_eq_none_iff.mp ends] at last
    have plain := last blank (by simp)
    rw [separates] at plain
    cases plain
  | some final =>
    refine ⟨final, List.mem_of_getLast? ends, last final ?_⟩
    simp [List.getLast?_cons, ends]

section Forms

variable {text : List Char}

/-- A text behind a qualifier is read on its own and then takes the qualifier. -/
theorem parseChars_of_qualified {rest : List Char} {qualifier : Qualifier}
    (form : ofBody (trim text) = .qualified qualifier rest) :
    parseChars text = (parseChars rest).map (withQualifier qualifier) := by
  -- A text that opens with a qualifier is not empty.
  obtain ⟨blank, _, shape⟩ := ofBody_eq_qualified_iff.mp form
  rw [parseChars_eq, if_neg (by simp [shape]), form]

/-- A container is read with those of its entries that are types. -/
theorem parseChars_of_container {cls : ContainerClass} {entries : List (List Char)}
    (form : ofBody (trim text) = .container cls entries) :
    parseChars text = some (.container none cls (entries.filterMap parseChars)) := by
  -- An empty text would have been taken for a name.
  have nonempty : trim text ≠ [] := by
    intro empty
    rw [empty, (by decide : ofBody [] = .named [])] at form
    cases form
  rw [parseChars_eq, if_neg nonempty, form]

/-- Any other text is the name of a type. -/
theorem parseChars_of_named (nonempty : trim text ≠ [])
    (form : ofBody (trim text) = .named (trim text)) :
    parseChars text = some (.named none (String.ofList (trim text))) := by
  -- The name is taken as the trimmed text.
  rw [parseChars_eq, if_neg nonempty, form]

/-- Only a text of blanks is no type. -/
theorem parseChars_eq_none_iff : parseChars text = none ↔ ∀ char ∈ text, isBlank char := by
  rw [← trim_eq_nil_iff]
  induction text using parseChars.induct with
  | case1 text empty => simp [parseChars_eq, empty]
  | case2 text nonempty qualifier rest form _ ih =>
    -- What a qualifier leaves behind it is not blank, and so it is read as something.
    obtain ⟨blank, separates, shape⟩ := ofBody_eq_qualified_iff.mp form
    have trimmed : trim (trim text) = trim text := trim_trim text
    rw [shape] at trimmed
    obtain ⟨char, member, plain⟩ := exists_not_blank_of_trim separates trimmed
    rw [parseChars_of_qualified form, Option.map_eq_none_iff, ih]
    refine iff_of_false (fun empty => ?_) nonempty
    have blank := trim_eq_nil_iff.mp empty char member
    rw [plain] at blank
    cases blank
  | case3 text nonempty cls entries form _ =>
    simp [parseChars_of_container form, nonempty]
  | case4 text nonempty name form =>
    rw [eq_of_ofBody_eq_named form] at form
    simp [parseChars_of_named nonempty form, nonempty]

/-- No type is written as nothing. -/
theorem parseChars_nil : parseChars [] = none :=
  -- No character of it is other than a blank.
  parseChars_eq_none_iff.mpr (by simp)

end Forms

/-- The first word of a text is not changed by what follows, unless that starts with a name character. -/
theorem takeWhile_isNameChar_append {front rest : List Char}
    (ended : ∀ char, rest.head? = some char → isNameChar char = false) :
    (front ++ rest).takeWhile isNameChar = front.takeWhile isNameChar := by
  have stopped : rest.takeWhile isNameChar = [] := by
    cases rest with
    | nil => rfl
    | cons char rest => simp [ended char rfl]
  rw [List.takeWhile_append]
  split
  · -- All of the front belongs to its first word, and nothing of the rest does.
    rename_i all
    rw [stopped, List.append_nil, (List.takeWhile_prefix isNameChar).eq_of_length all]
  · rfl

/-- No mark and no blank opens a word. -/
theorem isNameChar_head? {gap rest : List Char} {mark : Char}
    (blank : ∀ char ∈ gap, isBlank char = true) (marks : mark ∈ parameterMarks) :
    ∀ char, (gap ++ mark :: rest).head? = some char → isNameChar char = false := by
  -- The first character is the mark itself, or a blank if there is a gap.
  intro char opens
  cases gap with
  | nil =>
    have same : mark = char := by simpa using opens
    simp [isNameChar, ← same, marks]
  | cons first gap =>
    have same : first = char := by simpa using opens
    simp [isNameChar, ← same, blank first List.mem_cons_self]

/-- No blank opens a text of name characters. -/
private theorem isBlank_head? {word : List Char} (letters : ∀ char ∈ word, isNameChar char = true) :
    ∀ char, word.head? = some char → isBlank char = false :=
  -- The first character is one of the name.
  fun char opens => isBlank_of_isNameChar (letters char (List.mem_of_head? opens))

/-- Nothing can be trimmed off a name. -/
theorem trim_of_isNameChar {word : List Char} (letters : ∀ char ∈ word, isNameChar char = true) :
    trim word = word := by
  -- No blank stands at either end.
  rw [trim_eq_self_iff]
  refine ⟨isBlank_head? letters, fun char ends => ?_⟩
  exact isBlank_of_isNameChar (letters char (List.mem_of_getLast? ends))

/-- Nothing can be trimmed off a qualified type if nothing can off the type. -/
theorem trim_qualified (qualifier : Qualifier) {gap body : List Char} (trimmed : trim body = body)
    (nonempty : body ≠ []) :
    trim (qualifier.keyword.toList ++ (gap ++ body)) = qualifier.keyword.toList ++ (gap ++ body) := by
  -- The text opens with a letter of the qualifier and ends as the type does.
  apply trim_append_eq_self qualifier.keyword_ne_nil (by simp [nonempty])
  · exact isBlank_head? qualifier.isNameChar_of_mem_keyword
  · rw [List.getLast?_append_of_ne_nil _ nonempty]
    exact (trim_eq_self_iff.mp trimmed).2

/-- A qualifier, a gap and a written type are that type under the qualifier. -/
theorem parseChars_qualified (qualifier : Qualifier) {gap body : List Char} (apart : gap ≠ [])
    (blank : ∀ char ∈ gap, isBlank char = true) (trimmed : trim body = body) (nonempty : body ≠ []) :
    parseChars (qualifier.keyword.toList ++ (gap ++ body)) =
      (parseChars body).map (withQualifier qualifier) := by
  -- The first blank of the gap ends the qualifier, and the others stand around the type.
  obtain ⟨first, more, rfl⟩ := List.exists_cons_of_ne_nil apart
  have form : ofBody (trim (qualifier.keyword.toList ++ (first :: more ++ body))) =
      .qualified qualifier (more ++ body) :=
    ofBody_eq_qualified_iff.mpr
      ⟨first, blank first List.mem_cons_self, trim_qualified qualifier trimmed nonempty⟩
  have padded := parseChars_pad (fun char member => blank char (List.mem_cons_of_mem first member))
    (by simp : ∀ char ∈ ([] : List Char), isBlank char) body
  rw [List.append_nil] at padded
  rw [parseChars_of_qualified form, padded]

/-- Nothing can be trimmed off square brackets behind a type if nothing can off the type. -/
theorem trim_brackets {element gap : List Char} (trimmed : trim element = element)
    (nonempty : element ≠ []) :
    trim (element ++ (gap ++ ['[', ']'])) = element ++ (gap ++ ['[', ']']) := by
  -- The text opens as the type does and ends with a bracket.
  apply trim_append_eq_self nonempty (by simp) (trim_eq_self_iff.mp trimmed).1
  simp [(by decide : isBlank ']' = false)]

/-- Square brackets behind a written type without a qualifier are an array of that type. -/
theorem parseChars_brackets {element gap : List Char} (trimmed : trim element = element)
    (nonempty : element ≠ [])
    (word : ∀ qualifier : Qualifier, element.takeWhile isNameChar ≠ qualifier.keyword.toList)
    (blank : ∀ char ∈ gap, isBlank char = true) :
    parseChars (element ++ (gap ++ ['[', ']'])) =
      some (.container none .array (parseChars element).toList) := by
  have form : ofBody (trim (element ++ (gap ++ ['[', ']']))) = .container .array [element ++ gap] := by
    rw [trim_brackets trimmed nonempty, ofBody_eq_container_iff]
    constructor
    · apply qualified?_eq_none
      rwa [takeWhile_isNameChar_append (isNameChar_head? blank (by decide))]
    · rw [← List.append_assoc, container?_brackets]
  -- The gap stands around the element.
  have padded := parseChars_pad (by simp : ∀ char ∈ ([] : List Char), isBlank char) blank element
  rw [List.nil_append] at padded
  rw [parseChars_of_container form, List.filterMap_cons, padded]
  cases parseChars element <;> rfl

section Containers

variable {word : List Char} {cls : ContainerClass}

/-- The word of a class is the first word of a text that goes on with a mark or a gap, and no qualifier. -/
theorem takeWhile_ne_keyword (named : ContainerClass.ofName? word = some cls) {rest : List Char}
    (ended : ∀ char, rest.head? = some char → isNameChar char = false) (qualifier : Qualifier) :
    (word ++ rest).takeWhile isNameChar ≠ qualifier.keyword.toList := by
  -- The word is all letters, and the first word stops where it does.
  rw [takeWhile_isNameChar_append ended,
    List.takeWhile_eq_self_iff.mpr (ContainerClass.isNameChar_of_ofName? named)]
  exact (ContainerClass.ne_keyword_of_ofName? named).2 qualifier

/-- The word of a class on its own is a container without parameters. -/
theorem parseChars_word (named : ContainerClass.ofName? word = some cls) :
    parseChars word = some (.container none cls []) := by
  -- The word is trimmed, is no qualifier and has no brackets.
  have form : ofBody (trim word) = .container cls [] := by
    rw [trim_of_isNameChar (ContainerClass.isNameChar_of_ofName? named), ofBody_eq_container_iff]
    refine ⟨qualified?_eq_none fun qualifier => ?_, container?_word named⟩
    have first := @takeWhile_ne_keyword word cls named [] (by simp) qualifier
    rwa [List.append_nil] at first
  rw [parseChars_of_container form, List.filterMap_nil]

/-- Nothing can be trimmed off a container with its parameters. -/
theorem trim_angled (named : ContainerClass.ofName? word = some cls) (gap inner : List Char) :
    trim (word ++ (gap ++ '<' :: (inner ++ ['>']))) = word ++ (gap ++ '<' :: (inner ++ ['>'])) := by
  -- The text opens with a letter of the class and ends with a bracket.
  apply trim_append_eq_self (ContainerClass.ne_keyword_of_ofName? named).1 (by simp)
  · exact isBlank_head? (ContainerClass.isNameChar_of_ofName? named)
  · intro char ends
    have shape : gap ++ '<' :: (inner ++ ['>']) = (gap ++ '<' :: inner) ++ ['>'] := by simp
    rw [shape, List.getLast?_concat] at ends
    cases ends
    decide

/-- The word of a class before angle brackets is a container of what they enclose. -/
theorem parseChars_angled (named : ContainerClass.ofName? word = some cls) {gap : List Char}
    (blank : ∀ char ∈ gap, isBlank char = true) (inner : List Char) :
    parseChars (word ++ (gap ++ '<' :: (inner ++ ['>']))) =
      some (.container none cls ((splitEntries 0 inner).filterMap parseChars)) := by
  have letters := ContainerClass.isNameChar_of_ofName? named
  -- Trimming the text before the bracket takes the gap off again.
  have front : trim (word ++ gap) = word := by
    have padded := trim_pad (by simp : ∀ char ∈ ([] : List Char), isBlank char) blank word
    rw [List.nil_append] at padded
    rw [padded, trim_of_isNameChar letters]
  have form : ofBody (trim (word ++ (gap ++ '<' :: (inner ++ ['>'])))) =
      .container cls (splitEntries 0 inner) := by
    rw [trim_angled named, ofBody_eq_container_iff]
    constructor
    · exact qualified?_eq_none (takeWhile_ne_keyword named (isNameChar_head? blank (by decide)))
    · rw [← List.append_assoc]
      apply container?_angled _ (by rw [front]; exact named)
      rw [List.mem_append, not_or]
      exact ⟨not_mem_of_isNameChar letters (by decide), not_mem_of_isBlank blank (by decide)⟩
  exact parseChars_of_container form

end Containers

/-- Induction over the types that can be read, along the parts they are read from. -/
theorem parseChars_induction {motive : List Char → TypeTag → Prop}
    (qualified : ∀ (text : List Char) (qualifier : Qualifier) (rest : List Char) (inner : TypeTag),
      ofBody (trim text) = .qualified qualifier rest → motive rest inner →
        motive text (inner.withQualifier qualifier))
    (container : ∀ (text : List Char) (cls : ContainerClass) (entries : List (List Char)),
      ofBody (trim text) = .container cls entries →
      (∀ entry ∈ entries, ∀ tag, parseChars entry = some tag → motive entry tag) →
        motive text (.container none cls (entries.filterMap parseChars)))
    (named : ∀ text : List Char, trim text ≠ [] → ofBody (trim text) = .named (trim text) →
      motive text (.named none (String.ofList (trim text))))
    {text : List Char} {tag : TypeTag} (parsed : parseChars text = some tag) :
    motive text tag := by
  -- The cases are those of the reader, each put in terms of the parts it has read.
  induction text using parseChars.induct generalizing tag with
  | case1 text empty => simp [parseChars_eq, empty] at parsed
  | case2 text nonempty qualifier rest form _ ih =>
    rw [parseChars_of_qualified form, Option.map_eq_some_iff] at parsed
    obtain ⟨inner, behind, rfl⟩ := parsed
    exact qualified text qualifier rest inner form (ih behind)
  | case3 text nonempty cls entries form ih =>
    rw [parseChars_of_container form, Option.some.injEq] at parsed
    rw [← parsed]
    exact container text cls entries form fun entry member tag parsed => ih entry member parsed
  | case4 text nonempty name form =>
    rw [eq_of_ofBody_eq_named form] at form
    rw [parseChars_of_named nonempty form, Option.some.injEq] at parsed
    rw [← parsed]
    exact named text nonempty form

end SymbolAssist.TypeTag
