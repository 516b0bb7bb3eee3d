import SymbolAssist.Proofs.Text.Trim
import SymbolAssist.Proofs.TypeTag.Entries

/-! The outermost form of a written type, told from the way the text is put together. -/

namespace SymbolAssist

open Text

/-- The characters that mark the parameters of a container. -/
def parameterMarks : List Char :=
  ['<', '>', ',', '[', ']']

/-- A character of a name or a keyword is neither blank nor a mark. -/
def isNameChar (char : Char) : Bool :=
  !isBlank char && !parameterMarks.contains char

/-- No capital letter is blank. -/
private theorem isBlank_of_upper {char : Char} (low : 65 ≤ char.toNat) (high : char.toNat ≤ 90) :
    isBlank char = false := by
  -- Two ranges of blanks lie below the capital letters, and all others above.
  have first : ¬ char.toNat ≤ 13 := by omega
  have second : ¬ char.toNat ≤ 32 := by omega
  have third : char.toNat ≤ 133 := by omega
  have above : ¬ 133 ≤ char.toNat := by omega
  simp [isBlank, blankRanges, CodeRanges.covers, List.find?, first, second, third, above]

/-- Marks and blanks have no other case to be written in. -/
theorem isNameChar_of_toLower {char : Char} (lowered : isNameChar char.toLower = true) :
    isNameChar char = true := by
  by_cases upper : 65 ≤ char.toNat ∧ char.toNat ≤ 90
  · have plain := isBlank_of_upper upper.1 upper.2
    have unmarked : parameterMarks.contains char = false := by
      simp only [List.contains_eq_mem, decide_eq_false_iff_not]
      intro mark
      simp only [parameterMarks, List.mem_cons, List.not_mem_nil, or_false] at mark
      -- Each mark lies outside the capital letters.
      rcases mark with rfl | rfl | rfl | rfl | rfl <;> revert upper <;> decide
    rw [isNameChar, plain, unmarked]
    rfl
  · have same : char.toLower = char := by
      delta Char.toLower
      split
      · rename_i range
        exact absurd ⟨UInt32.le_iff_toNat_le.mp range.1, UInt32.le_iff_toNat_le.mp range.2⟩ upper
      · rfl
    rwa [same] at lowered

/-- No blank is part of a name. -/
theorem isBlank_of_isNameChar {char : Char} (named : isNameChar char = true) :
    isBlank char = false := by
  -- That it is no blank is the first thing asked of such a character.
  rw [isNameChar, Bool.and_eq_true, Bool.not_eq_true'] at named
  exact named.1

/-- None of the marks around parameters is part of a name. -/
theorem not_mem_of_isNameChar {text : List Char} {mark : Char}
    (letters : ∀ char ∈ text, isNameChar char = true) (marks : mark ∈ parameterMarks) :
    mark ∉ text := by
  -- That it is no mark is the second thing asked of such a character.
  intro member
  have letter := letters mark member
  rw [isNameChar, Bool.and_eq_true, Bool.not_eq_true', Bool.not_eq_true', List.contains_eq_mem,
    decide_eq_false_iff_not] at letter
  exact letter.2 marks

/-- None of the marks around parameters is a blank. -/
theorem not_mem_of_isBlank {blanks : List Char} {mark : Char}
    (blank : ∀ char ∈ blanks, isBlank char = true) (marks : mark ∈ parameterMarks) :
    mark ∉ blanks := by
  intro member
  have isBlank := blank mark member
  -- There are five marks, and none of them is blank.
  simp only [parameterMarks, List.mem_cons, List.not_mem_nil, or_false] at marks
  rcases marks with rfl | rfl | rfl | rfl | rfl <;> revert isBlank <;> decide

/-- A text without the marks around parameters is level. -/
theorem Spelling.IsLevel.of_unmarked {depth : Nat} {text : List Char}
    (unmarked : ∀ mark ∈ parameterMarks, mark ∉ text) : IsLevel depth text :=
  -- The comma and both brackets are such marks.
  .of_not_mem (unmarked ',' (by decide)) (unmarked '<' (by decide)) (unmarked '>' (by decide))

/-- A name is level. -/
theorem Spelling.IsLevel.of_isNameChar {depth : Nat} {text : List Char}
    (letters : ∀ char ∈ text, isNameChar char = true) : IsLevel depth text :=
  -- No mark is part of a name.
  .of_unmarked fun _ marks => not_mem_of_isNameChar letters marks

/-- Blanks are level. -/
theorem Spelling.IsLevel.of_isBlank {depth : Nat} {text : List Char}
    (blank : ∀ char ∈ text, isBlank char = true) : IsLevel depth text :=
  -- No mark is a blank.
  .of_unmarked fun _ marks => not_mem_of_isBlank blank marks

namespace Qualifier

/-- A qualifier is read from its own word and from no other. -/
theorem ofWord?_eq_some_iff {word : List Char} {qualifier : Qualifier} :
    ofWord? word = some qualifier ↔ word = qualifier.keyword.toList := by
  -- The words are compared in turn, and no two qualifiers share one.
  constructor
  · intro found
    simpa using List.find?_some found
  · rintro rfl
    cases qualifier <;> decide

/-- What is read as a qualifier is one of the four words. -/
theorem keyword_mem_of_ofWord? {word : List Char} {qualifier : Qualifier}
    (found : ofWord? word = some qualifier) :
    qualifier.keyword ∈ ["series", "simple", "const", "input"] :=
  -- The word is looked up among the qualifiers, and these are their words in turn.
  List.mem_map_of_mem (f := keyword) (List.mem_of_find?_eq_some found)

/-- The word of a qualifier is a name. -/
theorem isNameChar_of_mem_keyword {qualifier : Qualifier} :
    ∀ char ∈ qualifier.keyword.toList, isNameChar char = true := by
  -- There are few qualifiers, and all have words of letters.
  cases qualifier <;> exact List.all_eq_true.mp (by decide)

/-- The word of a qualifier is not empty. -/
theorem keyword_ne_nil (qualifier : Qualifier) : qualifier.keyword.toList ≠ [] := by
  -- There are few qualifiers, and each has a word.
  cases qualifier <;> decide

end Qualifier

namespace ContainerClass

/-- A class is read from its own word in any case and from no other. -/
theorem ofName?_eq_some_iff {name : List Char} {cls : ContainerClass} :
    ofName? name = some cls ↔ sameIgnoringCase name cls.keyword.toList = true := by
  constructor
  · intro found
    have named := List.find?_some found
    exact named
  · intro same
    have lowered : name.map Char.toLower = cls.keyword.toList.map Char.toLower := by
      simpa [sameIgnoringCase] using same
    -- The words of the classes stay different in lower case.
    cases cls <;> simp only [ofName?, sameIgnoringCase, lowered] <;> decide

/-- A class is read from its own word. -/
theorem ofName?_keyword (cls : ContainerClass) : ofName? cls.keyword.toList = some cls := by
  -- The words are compared in turn, and no two classes share one.
  cases cls <;> decide

/-- Classes are written in name characters. -/
theorem isNameChar_of_ofName? {name : List Char} {cls : ContainerClass}
    (found : ofName? name = some cls) : ∀ char ∈ name, isNameChar char = true := by
  intro char member
  have lowered : name.map Char.toLower = cls.keyword.toList.map Char.toLower := by
    simpa [sameIgnoringCase] using ofName?_eq_some_iff.mp found
  have letters : ∀ letter ∈ cls.keyword.toList.map Char.toLower, isNameChar letter = true := by
    cases cls <;> exact List.all_eq_true.mp (by decide)
  -- In lower case the name is the keyword, and only letters change their case.
  apply isNameChar_of_toLower
  exact letters char.toLower (lowered ▸ List.mem_map_of_mem member)

/-- No class is written as nothing, and none as a qualifier. -/
theorem ne_keyword_of_ofName? {name : List Char} {cls : ContainerClass}
    (found : ofName? name = some cls) :
    name ≠ [] ∧ ∀ qualifier : Qualifier, name ≠ qualifier.keyword.toList := by
  -- The empty text and the words of qualifiers are looked up, and found to be no classes.
  have differ : ofName? [] = none ∧
      ∀ qualifier : Qualifier, ofName? qualifier.keyword.toList = none := by
    refine ⟨by decide, fun qualifier => ?_⟩
    cases qualifier <;> decide
  constructor
  · rintro rfl
    simp [differ.1] at found
  · rintro qualifier rfl
    simp [differ.2] at found

end ContainerClass

namespace Spelling

/-- A text is qualified exactly when a qualifier's word and a blank open it. -/
theorem qualified?_eq_some_iff {body rest : List Char} {qualifier : Qualifier} :
    qualified? body = some (qualifier, rest) ↔
      ∃ blank, isBlank blank = true ∧ body = qualifier.keyword.toList ++ blank :: rest := by
  constructor
  · intro found
    unfold qualified? at found
    split at found
    · cases found
    · rename_i blank tail dropped
      obtain ⟨found', word, same⟩ := Option.bind_eq_some_iff.mp found
      obtain ⟨rfl, rfl⟩ := Prod.mk.inj (Option.some.inj same)
      -- What the first word is followed by is where the search for its end stopped.
      have stopped := List.head?_dropWhile_not (fun char => !isBlank char) body
      rw [dropped, List.head?_cons] at stopped
      refine ⟨blank, by simpa using stopped, ?_⟩
      rw [← Qualifier.ofWord?_eq_some_iff.mp word, ← dropped, List.takeWhile_append_dropWhile]
  · rintro ⟨blank, isBlank, rfl⟩
    have word : ∀ char ∈ qualifier.keyword.toList, (!Text.isBlank char) = true := by
      intro char member
      simp [isBlank_of_isNameChar (Qualifier.isNameChar_of_mem_keyword char member)]
    have known := Qualifier.ofWord?_eq_some_iff.mpr (rfl : qualifier.keyword.toList = _)
    simp [qualified?, List.takeWhile_append_of_pos word, List.dropWhile_append_of_pos word, isBlank,
      known]

/-- A text that opens with another word than a qualifier's is not qualified. -/
theorem qualified?_eq_none {body : List Char}
    (word : ∀ qualifier : Qualifier, body.takeWhile isNameChar ≠ qualifier.keyword.toList) :
    qualified? body = none := by
  rw [Option.eq_none_iff_forall_ne_some]
  rintro ⟨qualifier, rest⟩ found
  obtain ⟨blank, isBlank, rfl⟩ := qualified?_eq_some_iff.mp found
  apply word qualifier
  -- The blank ends the first word.
  have ended : isNameChar blank = false := by simp [isNameChar, isBlank]
  rw [List.takeWhile_append_of_pos Qualifier.isNameChar_of_mem_keyword,
    List.takeWhile_cons_of_neg (by simp [ended]), List.append_nil]

/-- Square brackets at the end make an array of what stands before them. -/
theorem container?_brackets (element : List Char) :
    container? (element ++ ['[', ']']) = some (.array, [element]) := by
  -- Brackets at the end are looked for before anything else.
  simp [container?]

/-- Angle brackets are the first that opens and one at the end that closes. -/
theorem angled?_eq_some_iff {body head inner : List Char} :
    angled? body = some (head, inner) ↔ '<' ∉ head ∧ body = head ++ '<' :: (inner ++ ['>']) := by
  constructor
  · intro found
    unfold angled? at found
    split at found
    · cases found
    · rename_i bracket rest dropped
      split at found
      · rename_i last
        obtain ⟨rfl, rfl⟩ := Prod.mk.inj (Option.some.inj found)
        obtain ⟨inner, rfl⟩ := List.getLast?_eq_some_iff.mp last
        -- The search for the first bracket stopped at it, and at no character before.
        have stopped := List.head?_dropWhile_not (· != '<') body
        rw [dropped, List.head?_cons] at stopped
        have opens : bracket = '<' := by simpa using stopped
        rw [opens] at dropped
        constructor
        · intro member
          simpa using List.mem_takeWhile_imp member
        · rw [List.dropLast_concat, ← dropped, List.takeWhile_append_dropWhile]
      · cases found
  · rintro ⟨plain, rfl⟩
    have before : ∀ char ∈ head, (char != '<') = true := by
      intro char member
      rw [bne_iff_ne]
      rintro rfl
      exact plain member
    simp [angled?, List.takeWhile_append_of_pos before, List.dropWhile_append_of_pos before]

/-- Angle brackets after the name of a class enclose its parameters. -/
theorem container?_angled {head : List Char} {cls : ContainerClass} (plain : '<' ∉ head)
    (named : ContainerClass.ofName? (trim head) = some cls) (inner : List Char) :
    container? (head ++ '<' :: (inner ++ ['>'])) = some (cls, splitEntries 0 inner) := by
  have cut := angled?_eq_some_iff.mpr ⟨plain, (rfl : head ++ '<' :: (inner ++ ['>']) = _)⟩
  unfold container?
  split
  · -- A closing angle bracket at the end rules square brackets out.
    rename_i reversed
    simp at reversed
  · rw [cut]
    simp [named]

/-- The name of a class on its own is a container without parameters. -/
theorem container?_word {word : List Char} {cls : ContainerClass}
    (named : ContainerClass.ofName? word = some cls) : container? word = some (cls, []) := by
  have letters := ContainerClass.isNameChar_of_ofName? named
  have uncut : angled? word = none := by
    rw [Option.eq_none_iff_forall_ne_some]
    rintro ⟨head, inner⟩ found
    obtain ⟨_, rfl⟩ := angled?_eq_some_iff.mp found
    exact not_mem_of_isNameChar letters (by decide : '<' ∈ parameterMarks) (by simp)
  unfold container?
  split
  · -- A letter at the end rules square brackets out.
    rename_i element reversed
    rw [List.reverse_eq_iff.mp reversed] at letters
    exact absurd (by simp) (not_mem_of_isNameChar letters (by decide : ']' ∈ parameterMarks))
  · rw [uncut]
    simp [named]

/-- The ways in which a text describes a container. -/
theorem container?_cases {body : List Char} {cls : ContainerClass} {entries : List (List Char)}
    (found : container? body = some (cls, entries)) :
    (∃ element, body = element ++ ['[', ']'] ∧ cls = .array ∧ entries = [element]) ∨
      (∃ head inner, body = head ++ '<' :: (inner ++ ['>']) ∧ '<' ∉ head ∧
        ContainerClass.ofName? (trim head) = some cls ∧ entries = splitEntries 0 inner) ∨
      (ContainerClass.ofName? body = some cls ∧ entries = []) := by
  -- The text is tried as short brackets, as angle brackets and as a plain word, in this order.
  unfold container? at found
  split at found
  · rename_i element reversed
    obtain ⟨rfl, rfl⟩ := Prod.mk.inj (Option.some.inj found)
    refine .inl ⟨element.reverse, ?_, rfl, rfl⟩
    rw [List.reverse_eq_iff.mp reversed]
    simp
  · split at found
    · rename_i head inner angled
      obtain ⟨known, named, same⟩ := Option.bind_eq_some_iff.mp found
      obtain ⟨rfl, rfl⟩ := Prod.mk.inj (Option.some.inj same)
      obtain ⟨plain, shape⟩ := angled?_eq_some_iff.mp angled
      exact .inr (.inl ⟨head, inner, shape, plain, named, rfl⟩)
    · obtain ⟨known, named, same⟩ := Option.bind_eq_some_iff.mp found
      obtain ⟨rfl, rfl⟩ := Prod.mk.inj (Option.some.inj same)
      exact .inr (.inr ⟨named, rfl⟩)

/-- A qualifier in front decides the form of a text. -/
theorem ofBody_eq_qualified_iff {body rest : List Char} {qualifier : Qualifier} :
    ofBody body = .qualified qualifier rest ↔
      ∃ blank, isBlank blank = true ∧ body = qualifier.keyword.toList ++ blank :: rest := by
  -- A qualifier is looked for before any container.
  rw [← qualified?_eq_some_iff, ofBody]
  split
  · rename_i found
    simp [found]
  · rename_i unqualified
    rw [unqualified]
    split <;> simp

/-- A text without a qualifier is a container if it describes one. -/
theorem ofBody_eq_container_iff {body : List Char} {cls : ContainerClass}
    {entries : List (List Char)} :
    ofBody body = .container cls entries ↔
      qualified? body = none ∧ container? body = some (cls, entries) := by
  -- A qualifier comes first, then a container, and then a name.
  rw [ofBody]
  split
  · rename_i found
    simp [found]
  · rename_i unqualified
    rw [unqualified]
    split
    · rename_i found
      simp [found]
    · rename_i uncontained
      simp [uncontained]

/-- A qualifier and what stands behind it are pieces of the text. -/
theorem isInfix_of_qualified {body rest : List Char} {qualifier : Qualifier}
    (form : ofBody body = .qualified qualifier rest) :
    qualifier.keyword.toList <:+: body ∧ rest <:+: body := by
  -- The word opens the text, and the rest ends it behind one blank.
  obtain ⟨blank, -, rfl⟩ := ofBody_eq_qualified_iff.mp form
  exact ⟨(List.prefix_append _ _).isInfix, qualifier.keyword.toList ++ [blank], [], by simp⟩

/-- The entries of a container are pieces of its text. -/
theorem isInfix_of_mem_container {body entry : List Char} {cls : ContainerClass}
    {entries : List (List Char)} (form : ofBody body = .container cls entries)
    (member : entry ∈ entries) : entry <:+: body := by
  obtain ⟨-, found⟩ := ofBody_eq_container_iff.mp form
  rcases container?_cases found with
    ⟨element, rfl, -, rfl⟩ | ⟨head, inner, rfl, -, -, rfl⟩ | ⟨-, rfl⟩
  · -- The element of an array stands before its brackets.
    rw [List.mem_singleton.mp member]
    exact (List.prefix_append _ _).isInfix
  · -- Parameters are cut from what the angle brackets enclose.
    exact (isInfix_of_mem_splitEntries member).trans ⟨head ++ ['<'], ['>'], by simp⟩
  · cases member

/-- A name is always the whole text. -/
theorem eq_of_ofBody_eq_named {body name : List Char} (named : ofBody body = .named name) :
    name = body := by
  -- The other two forms are no names.
  rw [ofBody] at named
  split at named
  · cases named
  · split at named
    · cases named
    · cases named
      rfl

end Spelling

end SymbolAssist
