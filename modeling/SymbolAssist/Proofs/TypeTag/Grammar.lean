import SymbolAssist.Proofs.TypeTag.Reading

/-! The grammar of written types, what its phrases denote, and that they are read as that. -/

namespace SymbolAssist.Grammar

open Text Spelling TypeTag

/-- Blanks, of which there may be none. -/
structure Gap where
  /-- The characters between two parts. -/
  chars : List Char
  /-- All of them are blanks. -/
  blank : ∀ char ∈ chars, isBlank char = true

/-- A word that has no meaning of its own and so names a type. -/
structure PlainName where
  /-- How the name is written. -/
  chars : List Char
  /-- It has at least one character. -/
  nonempty : chars ≠ []
  /-- It has no blanks and none of the marks around parameters. -/
  letters : ∀ char ∈ chars, isNameChar char = true
  /-- It is the word of no qualifier. -/
  notQualifier : ∀ qualifier : Qualifier, chars ≠ qualifier.keyword.toList
  /-- It is the word of no container class, in any case. -/
  notClass : ∀ cls : ContainerClass, sameIgnoringCase chars cls.keyword.toList = false

/-- The word of a container class, with letters of any case. -/
structure ClassWord where
  /-- How the word is written. -/
  chars : List Char
  /-- The class it stands for. -/
  cls : ContainerClass
  /-- It is the word of that class, up to case. -/
  names : sameIgnoringCase chars cls.keyword.toList = true

mutual

/-- A written type: any number of qualifiers in front of a core. -/
inductive Phrase where
  /-- A qualifier, at least one blank and another type. -/
  | qualified (qualifier : Qualifier) (gap : Gap) (apart : gap.chars ≠ []) (inner : Phrase)
  /-- No qualifier. -/
  | plain (core : Core)

/-- A written type without qualifiers in front. -/
inductive Core where
  /-- The name of a type. -/
  | name (name : PlainName)
  /-- The word of a class on its own. -/
  | word (word : ClassWord)
  /-- An element and the square brackets that make an array of it. -/
  | brackets (element : Core) (gap : Gap)
  /-- The word of a class and its parameters between angle brackets. -/
  | angled (word : ClassWord) (gap : Gap) (entries : List Entry)

/-- What may stand between the commas of a parameter list. -/
inductive Entry where
  /-- Nothing but blanks, which is no parameter. -/
  | blank (gap : Gap)
  /-- A type with blanks around it. -/
  | type (before : Gap) (phrase : Phrase) (after : Gap)

end

mutual

/-- How a phrase is written. -/
def Phrase.chars : Phrase → List Char
  | .qualified qualifier gap _ inner => qualifier.keyword.toList ++ (gap.chars ++ inner.chars)
  | .plain core => core.chars

/-- How a core is written. -/
def Core.chars : Core → List Char
  | .name name => name.chars
  | .word word => word.chars
  | .brackets element gap => element.chars ++ (gap.chars ++ ['[', ']'])
  | .angled word gap entries =>
    word.chars ++ (gap.chars ++ '<' :: ([','].intercalate (entryTexts entries) ++ ['>']))

/-- How an entry is written, with the blanks around it. -/
def Entry.chars : Entry → List Char
  | .blank gap => gap.chars
  | .type before phrase after => before.chars ++ phrase.chars ++ after.chars

/-- How each entry of a list is written. -/
def entryTexts : List Entry → List (List Char)
  | [] => []
  | entry :: rest => entry.chars :: entryTexts rest

end

mutual

/-- The type a phrase denotes behind an outer qualifier, which hides those of the phrase itself. -/
def Phrase.tagUnder (outer : Option Qualifier) : Phrase → TypeTag
  | .qualified qualifier _ _ inner => inner.tagUnder (outer.or (some qualifier))
  | .plain core => core.tagUnder outer

/-- The type a core denotes under the qualifier that belongs to it. -/
def Core.tagUnder (outer : Option Qualifier) : Core → TypeTag
  | .name name => .named outer (String.ofList name.chars)
  | .word word => .container outer word.cls []
  -- Brackets bind before a qualifier, and so it is not the element's.
  | .brackets element _ => .container outer .array [element.tagUnder none]
  | .angled word _ entries => .container outer word.cls (entryTags entries)

/-- The type an entry denotes, if it is not blank. -/
def Entry.tag? : Entry → Option TypeTag
  | .blank _ => none
  | .type _ phrase _ => some (phrase.tagUnder none)

/-- The types a list of entries denotes, in their order. -/
def entryTags : List Entry → List TypeTag
  | [] => []
  | entry :: rest => entry.tag?.toList ++ entryTags rest

end

/-- The type a phrase denotes. -/
def Phrase.tag (phrase : Phrase) : TypeTag :=
  phrase.tagUnder none

/-- A phrase as a text with blanks around it. -/
def Phrase.padded (before : Gap) (phrase : Phrase) (after : Gap) : String :=
  String.ofList (before.chars ++ phrase.chars ++ after.chars)

/-- A qualifier put in front of a core takes the place of the one it had. -/
theorem Core.withQualifier_tagUnder (outer : Option Qualifier) (qualifier : Qualifier)
    (core : Core) :
    (core.tagUnder outer).withQualifier qualifier = core.tagUnder (some qualifier) := by
  -- A core gives its qualifier to one type, and to none of its parameters.
  cases core <;> simp only [Core.tagUnder, withQualifier]

/-- A qualifier put in front of a type is the outermost one. -/
theorem Phrase.withQualifier_tagUnder (outer : Option Qualifier) (qualifier : Qualifier) :
    ∀ phrase : Phrase,
      (phrase.tagUnder outer).withQualifier qualifier = phrase.tagUnder (some qualifier)
  | .qualified own _ _ inner => by
    -- The outermost qualifier hides this one, and whatever was in front of it before.
    rw [Phrase.tagUnder, Phrase.tagUnder, Option.some_or]
    exact inner.withQualifier_tagUnder (outer.or (some own)) qualifier
  | .plain core => by
    rw [Phrase.tagUnder, Phrase.tagUnder]
    exact core.withQualifier_tagUnder outer qualifier

/-- A text that is read as a type, with what keeps it whole inside of a longer one. -/
structure IsRead (text : List Char) (tag : TypeTag) : Prop where
  /-- It is read as the type. -/
  parsed : parseChars text = some tag
  /-- No blanks stand around it. -/
  trimmed : trim text = text
  /-- A list of entries is not cut within it. -/
  level : ∀ depth, IsLevel depth text

/-- A text that is read as a type and does not open with a qualifier. -/
structure IsCore (text : List Char) (tag : TypeTag) : Prop extends IsRead text tag where
  /-- Its first word is none of the qualifiers. -/
  unqualified : ∀ qualifier : Qualifier, text.takeWhile isNameChar ≠ qualifier.keyword.toList

/-- A text between two commas: it is read as a type or as nothing, and the commas are not its own. -/
structure IsEntry (text : List Char) (tag? : Option TypeTag) : Prop where
  /-- It is read as that. -/
  parsed : parseChars text = tag?
  /-- A list of entries is not cut within it. -/
  level : ∀ depth, IsLevel depth text

/-- A list of entries is not cut within blanks. -/
theorem Gap.level (gap : Gap) (depth : Nat) : IsLevel depth gap.chars :=
  -- Blanks are neither commas nor brackets.
  .of_isBlank gap.blank

/-- The word of a class is read as that class. -/
theorem ClassWord.ofName? (word : ClassWord) : ContainerClass.ofName? word.chars = some word.cls :=
  -- Classes are compared with no regard to case.
  ContainerClass.ofName?_eq_some_iff.mpr word.names

/-- A list of entries is not cut within the word of a class. -/
theorem ClassWord.level (word : ClassWord) (depth : Nat) : IsLevel depth word.chars :=
  -- The word is a name, and no mark is part of one.
  .of_isNameChar (ContainerClass.isNameChar_of_ofName? word.ofName?)

section Steps

variable {text : List Char} {tag : TypeTag}

/-- No type is read from nothing. -/
theorem IsRead.ne_nil (read : IsRead text tag) : text ≠ [] := by
  -- Nothing is read as no type.
  rintro rfl
  have parsed := read.parsed
  rw [parseChars_nil] at parsed
  cases parsed

/-- A qualifier in front of a type is read as its qualifier. -/
theorem IsRead.qualified (read : IsRead text tag) (qualifier : Qualifier) (gap : Gap)
    (apart : gap.chars ≠ []) :
    IsRead (qualifier.keyword.toList ++ (gap.chars ++ text)) (tag.withQualifier qualifier) where
  -- The word ends at the gap, and what follows is read on its own.
  parsed := by
    rw [parseChars_qualified qualifier apart gap.blank read.trimmed read.ne_nil, read.parsed]
    rfl
  trimmed := trim_qualified qualifier read.trimmed read.ne_nil
  level depth := by
    have front : IsLevel depth qualifier.keyword.toList :=
      .of_isNameChar qualifier.isNameChar_of_mem_keyword
    exact front.append ((gap.level depth).append (read.level depth))

/-- A plain name is neither cut nor changed. -/
theorem PlainName.isCore (name : PlainName) :
    IsCore name.chars (.named none (String.ofList name.chars)) := by
  have trimmed := trim_of_isNameChar name.letters
  have unmarked : ∀ mark ∈ parameterMarks, mark ∉ name.chars :=
    fun mark marks => not_mem_of_isNameChar name.letters marks
  have unqualified : ∀ qualifier : Qualifier,
      name.chars.takeWhile isNameChar ≠ qualifier.keyword.toList := by
    intro qualifier
    rw [List.takeWhile_eq_self_iff.mpr name.letters]
    exact name.notQualifier qualifier
  -- Each form of a container has a mark in its text or is a class on its own.
  have uncontained : container? name.chars = none := by
    rw [Option.eq_none_iff_forall_ne_some]
    rintro ⟨cls, entries⟩ found
    rcases container?_cases found with
      ⟨element, shape, _, _⟩ | ⟨head, inner, shape, _, _, _⟩ | ⟨known, _⟩
    · exact unmarked ']' (by decide) (by simp [shape])
    · exact unmarked '<' (by decide) (by simp [shape])
    · have same := ContainerClass.ofName?_eq_some_iff.mp known
      rw [name.notClass cls] at same
      cases same
  have form : ofBody (trim name.chars) = .named (trim name.chars) := by
    rw [trimmed, ofBody, qualified?_eq_none unqualified, uncontained]
  refine ⟨⟨?_, trimmed, fun depth => .of_isNameChar name.letters⟩, unqualified⟩
  rw [parseChars_of_named (by rw [trimmed]; exact name.nonempty) form, trimmed]

/-- The word of a class is read as a container without parameters. -/
theorem ClassWord.isCore (word : ClassWord) : IsCore word.chars (.container none word.cls []) where
  -- The word of a class is its own first word, and no qualifier has the same.
  parsed := parseChars_word word.ofName?
  trimmed := trim_of_isNameChar (ContainerClass.isNameChar_of_ofName? word.ofName?)
  level := word.level
  unqualified qualifier := by
    rw [List.takeWhile_eq_self_iff.mpr (ContainerClass.isNameChar_of_ofName? word.ofName?)]
    exact (ContainerClass.ne_keyword_of_ofName? word.ofName?).2 qualifier

/-- Square brackets behind a core are read as an array of it. -/
theorem IsCore.brackets (core : IsCore text tag) (gap : Gap) :
    IsCore (text ++ (gap.chars ++ ['[', ']'])) (.container none .array [tag]) where
  parsed := by
    -- A qualifier in front would have been split off before the brackets are seen.
    rw [parseChars_brackets core.trimmed core.ne_nil core.unqualified gap.blank, core.parsed]
    rfl
  trimmed := trim_brackets core.trimmed core.ne_nil
  level depth := by
    -- The scan for commas does not look at square brackets.
    have back : IsLevel depth ['[', ']'] := ⟨rfl, rfl⟩
    exact (core.level depth).append ((gap.level depth).append back)
  unqualified := by
    rw [takeWhile_isNameChar_append (isNameChar_head? gap.blank (by decide))]
    exact core.unqualified

/-- Blanks are an entry that is read as nothing. -/
theorem Gap.isEntry (gap : Gap) : IsEntry gap.chars none where
  -- A type is read from anything but blanks.
  parsed := parseChars_eq_none_iff.mpr gap.blank
  level := gap.level

/-- A type with blanks around it is an entry that is read as the type. -/
theorem IsRead.entry (read : IsRead text tag) (before after : Gap) :
    IsEntry (before.chars ++ text ++ after.chars) (some tag) where
  -- Blanks around a type make no difference to how it is read.
  parsed := by rw [parseChars_pad before.blank after.blank, read.parsed]
  level depth := ((before.level depth).append (read.level depth)).append (after.level depth)

/-- A list of entries is cut between them, and no list of them at all is one blank entry. -/
theorem filterMap_splitEntries {texts : List (List Char)}
    (level : ∀ text ∈ texts, ∀ depth, IsLevel depth text) :
    (splitEntries 0 ([','].intercalate texts)).filterMap parseChars = texts.filterMap parseChars := by
  -- Each text is level, so that only the commas between them are outer ones.
  by_cases empty : texts = []
  · simp [empty, splitEntries, parseChars_nil]
  · have closed : ∀ text ∈ texts.dropLast, depthAfter 0 text = 0 :=
      fun text member => (level text (List.dropLast_subset texts member) 0).balanced
    have whole : texts.flatMap (splitEntries 0) = texts.flatMap ([·]) :=
      List.flatMap_congr fun text member =>
        splitEntries_of_commasEnclosed (level text member 0).enclosed
    rw [splitEntries_intercalate empty closed, whole, List.flatMap_singleton']

/-- Angle brackets behind the word of a class enclose the parameters of the container. -/
theorem ClassWord.isCore_angled (word : ClassWord) (gap : Gap) {texts : List (List Char)}
    (level : ∀ text ∈ texts, ∀ depth, IsLevel depth text) :
    IsCore (word.chars ++ (gap.chars ++ '<' :: ([','].intercalate texts ++ ['>'])))
      (.container none word.cls (texts.filterMap parseChars)) where
  parsed := by rw [parseChars_angled word.ofName? gap.blank, filterMap_splitEntries level]
  trimmed := trim_angled word.ofName? _ _
  level depth := by
    -- Between the brackets one more is open, so the commas there are not outer ones.
    have comma : IsLevel (depth + 1) [','] := ⟨rfl, by simp [commasEnclosed]⟩
    have inside := comma.intercalate fun text member => level text member (depth + 1)
    exact (word.level depth).append ((gap.level depth).append inside.angled)
  unqualified := takeWhile_ne_keyword word.ofName? (isNameChar_head? gap.blank (by decide))

end Steps

mutual

/-- Every phrase is read as what it denotes. -/
theorem Phrase.isRead : ∀ phrase : Phrase, IsRead phrase.chars phrase.tag
  | .qualified qualifier gap apart inner => by
    -- Read on its own, the inner phrase has its own qualifier, which the one in front replaces.
    have read := inner.isRead.qualified qualifier gap apart
    rwa [Phrase.tag, inner.withQualifier_tagUnder] at read
  | .plain core => core.isCore.toIsRead

/-- Every core is read as what it denotes, and opens with no qualifier. -/
theorem Core.isCore : ∀ core : Core, IsCore core.chars (core.tagUnder none)
  | .name name => name.isCore
  | .word word => word.isCore
  | .brackets element gap => element.isCore.brackets gap
  | .angled word gap entries => by
    -- The entries are cut apart first, and then each is read by itself.
    obtain ⟨level, parsed⟩ := entries_read entries
    have read := word.isCore_angled gap level
    rwa [parsed] at read

/-- Every entry is read as what it denotes. -/
theorem Entry.isEntry : ∀ entry : Entry, IsEntry entry.chars entry.tag?
  -- The blanks of an entry are set off before its phrase is read.
  | .blank gap => gap.isEntry
  | .type before phrase after => phrase.isRead.entry before after

/-- A list of entries is left whole by the cuts between them and read as the types it denotes. -/
theorem entries_read : ∀ entries : List Entry,
    (∀ text ∈ entryTexts entries, ∀ depth, IsLevel depth text) ∧
      (entryTexts entries).filterMap parseChars = entryTags entries
  | [] => ⟨by simp [entryTexts], rfl⟩
  | entry :: rest => by
    have here := entry.isEntry
    obtain ⟨level, parsed⟩ := entries_read rest
    refine ⟨List.forall_mem_cons.mpr ⟨here.level, level⟩, ?_⟩
    -- An entry that denotes nothing adds nothing to the types of the others.
    rw [entryTexts, entryTags, List.filterMap_cons, here.parsed, parsed]
    cases entry.tag? <;> rfl

end

/-- A phrase with any blanks around it is read as the type it denotes, and so phrases that denote
one type have one normal text. -/
theorem parse_padded (before after : Gap) (phrase : Phrase) :
    parse (phrase.padded before after) = some phrase.tag ∧
      ∀ (before' after' : Gap) (other : Phrase), other.tag = phrase.tag →
        TypeTag.normalize (other.padded before' after') =
          TypeTag.normalize (phrase.padded before after) := by
  -- What stands around a phrase is read over, whatever the phrase is.
  have read (before after : Gap) (phrase : Phrase) :
      parse (phrase.padded before after) = some phrase.tag := by
    rw [parse, Phrase.padded, String.toList_ofList]
    exact (phrase.isRead.entry before after).parsed
  refine ⟨read before after phrase, ?_⟩
  intro before' after' other same
  rw [TypeTag.normalize, TypeTag.normalize, read, read, same]

/-- Stacked qualifiers, capitals, a blank entry and short brackets are read over to one normal text. -/
theorem parse_padded_map :
    parse "\tconst series  Map <string, ,simple float [] >" =
        some (.container (some .const) .map
          [.named none "string", .container (some .simple) .array [.named none "float"]]) ∧
      TypeTag.normalize "const map<string,simple array<float>>" =
        TypeTag.normalize "\tconst series  Map <string, ,simple float [] >" := by
  let empty : Gap := ⟨[], by simp⟩
  let tab : Gap := ⟨['\t'], List.all_eq_true.mp (by decide)⟩
  let one : Gap := ⟨[' '], List.all_eq_true.mp (by decide)⟩
  let two : Gap := ⟨[' ', ' '], List.all_eq_true.mp (by decide)⟩
  let string : Core := .name
    ⟨"string".toList, by decide, List.all_eq_true.mp (by decide), by rintro ⟨⟩ <;> decide,
      by rintro ⟨⟩ <;> decide⟩
  let float : Core := .name
    ⟨"float".toList, by decide, List.all_eq_true.mp (by decide), by rintro ⟨⟩ <;> decide,
      by rintro ⟨⟩ <;> decide⟩
  let short : Phrase := .qualified .simple one (by decide) (.plain (.brackets float one))
  let long : Phrase := .qualified .simple one (by decide)
    (.plain (.angled ⟨"array".toList, .array, by decide⟩ empty [.type empty (.plain float) empty]))
  let loose : Phrase := .qualified .const one (by decide) (.qualified .series two (by decide)
    (.plain (.angled ⟨"Map".toList, .map, by decide⟩ one
      [.type empty (.plain string) empty, .blank one, .type empty short one])))
  let tight : Phrase := .qualified .const one (by decide)
    (.plain (.angled ⟨"map".toList, .map, by decide⟩ empty
      [.type empty (.plain string) empty, .type empty long empty]))
  -- Both texts come from the grammar, which settles what they are read as.
  have written : loose.padded tab empty = "\tconst series  Map <string, ,simple float [] >" := by
    decide +kernel
  have rewritten : tight.padded empty empty = "const map<string,simple array<float>>" := by
    decide +kernel
  have read := parse_padded tab empty loose
  rw [written] at read
  refine ⟨read.1, ?_⟩
  rw [← rewritten]
  exact read.2 empty empty tight rfl

end SymbolAssist.Grammar
