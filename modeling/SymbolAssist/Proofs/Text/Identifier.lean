import SymbolAssist.Proofs.Text.Trim
import SymbolAssist.Text.Identifier

/-! Names contain no blanks, so trimming leaves them as they are. -/

namespace SymbolAssist.Text

/-- A covered character lies in one of the ranges. -/
theorem CodeRanges.exists_of_covers {ranges : CodeRanges} {char : Char}
    (covered : ranges.covers char) :
    ∃ range ∈ ranges, range.1 ≤ char.toNat ∧ char.toNat ≤ range.2 := by
  -- Membership was decided at one range, whose both ends were compared.
  unfold covers at covered
  split at covered
  · rename_i range found
    exact ⟨range, List.mem_of_find?_eq_some found, by simpa using covered,
      by simpa using List.find?_some found⟩
  · cases covered

/-- Ranges that do not meet cover no common character. -/
theorem CodeRanges.covers_of_apart {first second : CodeRanges}
    (apart : ∀ range ∈ first, ∀ other ∈ second, range.2 < other.1 ∨ other.2 < range.1) {char : Char}
    (covered : first.covers char) : second.covers char = false := by
  -- A common character would lie in a range of each, and these do not meet.
  rw [Bool.eq_false_iff]
  intro both
  obtain ⟨range, inFirst, low, high⟩ := exists_of_covers covered
  obtain ⟨other, inSecond, otherLow, otherHigh⟩ := exists_of_covers both
  have := apart range inFirst other inSecond
  omega

/-- No character of a name or a dotted path is blank. -/
theorem isBlank_of_isPathChar {char : Char} (path : isPathChar char) : isBlank char = false := by
  -- Both tables are compared with the few ranges of blanks, range by range.
  have starts : ∀ range ∈ startRanges, ∀ blank ∈ blankRanges,
      range.2 < blank.1 ∨ blank.2 < range.1 := by decide +kernel
  have follows : ∀ range ∈ followRanges, ∀ blank ∈ blankRanges,
      range.2 < blank.1 ∨ blank.2 < range.1 := by decide +kernel
  simp only [isPathChar, isWordChar, isIdentifierStart, Bool.or_eq_true, beq_iff_eq] at path
  -- Dot and underscore stand for themselves, and the tables keep clear of the blanks.
  rcases path with rfl | (rfl | start) | follow
  · decide
  · decide
  · exact CodeRanges.covers_of_apart starts start
  · exact CodeRanges.covers_of_apart follows follow

/-- No blank is part of a path. -/
theorem isPathChar_of_isBlank {char : Char} (blank : isBlank char) : isPathChar char = false := by
  -- A character of a path is no blank.
  rw [Bool.eq_false_iff]
  intro path
  rw [isBlank_of_isPathChar path] at blank
  cases blank

/-- Joining parts adds nothing but the separator. -/
theorem mem_intercalate {α : Type} {separator item : α} {parts : List (List α)}
    (member : item ∈ [separator].intercalate parts) :
    item = separator ∨ ∃ part ∈ parts, item ∈ part := by
  -- The separator stands only between two parts, so the list is taken apart two at a time.
  induction parts with
  | nil => simp at member
  | cons first rest ih =>
    cases rest with
    | nil => exact .inr ⟨first, by simp, by simpa using member⟩
    | cons second rest =>
      rw [List.intercalate_cons_cons, List.mem_append, List.mem_append, List.mem_singleton] at member
      rcases member with (here | between) | later
      · exact .inr ⟨first, by simp, here⟩
      · exact .inl between
      · obtain joint | ⟨part, listed, inside⟩ := ih later
        · exact .inl joint
        · exact .inr ⟨part, List.mem_cons_of_mem first listed, inside⟩

/-- A dotted path is made of path characters. -/
theorem isPathChar_of_isIdentifierPath {text : List Char} (path : isIdentifierPath text) :
    ∀ char ∈ text, isPathChar char := by
  intro char member
  have joined : ['.'].intercalate (text.splitOn '.') = text := List.intercalate_splitOn '.'
  rw [← joined] at member
  obtain rfl | ⟨part, listed, inside⟩ := mem_intercalate member
  · rfl
  · -- Each part between dots is an identifier.
    have identifier : isIdentifier part := List.all_eq_true.mp path part listed
    cases part with
    | nil => cases inside
    | cons first rest =>
      simp only [isIdentifier, Bool.and_eq_true, List.all_eq_true] at identifier
      rcases List.mem_cons.mp inside with rfl | inside
      · simp [isPathChar, isWordChar, identifier.1]
      · simp [isPathChar, identifier.2 char inside]

/-- A dotted path is not empty. -/
theorem ne_nil_of_isIdentifierPath {text : List Char} (path : isIdentifierPath text) : text ≠ [] := by
  -- Even the first segment of a path has a character.
  rintro rfl
  exact absurd path (by decide)

/-- Two texts with a dot between them are a dotted path exactly if each of them is one. -/
theorem isIdentifierPath_append_iff {first second : List Char} :
    isIdentifierPath (first ++ '.' :: second) ↔ isIdentifierPath first ∧ isIdentifierPath second := by
  -- The dot in between parts the names of the one from those of the other.
  rw [isIdentifierPath, List.splitOn_append_cons_self, List.all_append, Bool.and_eq_true,
    isIdentifierPath, isIdentifierPath]

/-- A text without a dot is a dotted path exactly if it is a single identifier. -/
theorem isIdentifierPath_iff_of_undotted {text : List Char} (undotted : '.' ∉ text) :
    isIdentifierPath text ↔ isIdentifier text := by
  -- There is no dot to split the text at, so it is the only name to be looked at.
  rw [isIdentifierPath, List.splitOn_eq_singleton undotted, List.all_cons, List.all_nil,
    Bool.and_true]

/-- No dot opens a dotted path. -/
theorem head?_ne_dot_of_isIdentifierPath {text : List Char} (path : isIdentifierPath text) :
    text.head? ≠ some '.' := by
  -- What stands before a dot is a path of its own, and so it is not empty.
  intro first
  obtain ⟨rest, rfl⟩ := List.head?_eq_some_iff.mp first
  exact ne_nil_of_isIdentifierPath (isIdentifierPath_append_iff.mp path).1 rfl

/-- No dot ends a dotted path. -/
theorem getLast?_ne_dot_of_isIdentifierPath {text : List Char} (path : isIdentifierPath text) :
    text.getLast? ≠ some '.' := by
  -- What stands behind a dot is a path of its own, and so it is not empty.
  intro last
  obtain ⟨front, rfl⟩ := List.getLast?_eq_some_iff.mp last
  exact ne_nil_of_isIdentifierPath (isIdentifierPath_append_iff.mp path).2 rfl

/-- Blanks are neither in front of a dotted path nor elsewhere in it. -/
theorem isBlank_of_mem_isIdentifierPath {text : List Char} (path : isIdentifierPath text) :
    ∀ char ∈ text, isBlank char = false :=
  -- A path is made of path characters, and none of these is a blank.
  fun char member => isBlank_of_isPathChar (isPathChar_of_isIdentifierPath path char member)

/-- Nothing is taken off the front of a dotted path. -/
theorem trimStart_of_isIdentifierPath {text : List Char} (path : isIdentifierPath text) :
    trimStart text = text := by
  -- Trimming stops at the first character.
  cases text with
  | nil => rfl
  | cons first rest => simp [trimStart, isBlank_of_mem_isIdentifierPath path first (by simp)]

/-- Trimming leaves a dotted path as it is. -/
theorem trim_of_isIdentifierPath {text : List Char} (path : isIdentifierPath text) :
    trim text = text := by
  have solid := isBlank_of_mem_isIdentifierPath path
  -- It is enough to look at the first and the last character.
  rw [trim_eq_self_iff]
  exact ⟨fun char first => solid char (List.mem_of_mem_head? first),
    fun char last => solid char (List.mem_of_mem_getLast? last)⟩

end SymbolAssist.Text
