import SymbolAssist.Document.Cursor
import SymbolAssist.Proofs.Text.Bytes
import SymbolAssist.Proofs.Text.Trim

/-! What stands before a cursor in a line, and the runs of characters that it ends or stands in. -/

namespace SymbolAssist

namespace Cursor

open Text

/-- The text before a cursor is the longest beginning of the line that does not go past the column. -/
structure IsTyped (line : List Char) (column : Nat) (typed : List Char) : Prop where
  /-- The line begins with it. -/
  begins : typed <+: line
  /-- It does not go past the column. -/
  within : byteLength typed ≤ column
  /-- No other such beginning is longer. -/
  longest : ∀ other, other <+: line → byteLength other ≤ column → other <+: typed

/-- Cutting the line at the column gives what stands before the cursor. -/
theorem isTyped_takeBytes (line : List Char) (column : Nat) :
    IsTyped line column (takeBytes column line) :=
  -- A cut at a byte limit is the longest beginning within it.
  ⟨takeBytes_isPrefix column line, byteLength_takeBytes_le column line,
    fun _ => isPrefix_takeBytes⟩

/-- A line and a column leave no choice for what stands before the cursor. -/
theorem IsTyped.eq_takeBytes {line typed : List Char} {column : Nat}
    (before : IsTyped line column typed) : typed = takeBytes column line := by
  have cut := isTyped_takeBytes line column
  -- Each of the two is the longest, so neither goes on where the other ends.
  have shorter := cut.longest typed before.begins before.within
  have longer := before.longest _ cut.begins cut.within
  exact shorter.eq_of_length_le longer.length_le

/-- Path characters at the end lengthen the fragment. -/
theorem fragment_append {typed word : List Char} (path : ∀ char ∈ word, isPathChar char) :
    fragment (typed ++ word) = fragment typed ++ word :=
  -- The fragment is the accepted ending, which takes in the word.
  takeEndWhile_append path

/-- Path characters at the end do not move the start of the fragment. -/
theorem fragmentStart_append {typed word : List Char} (path : ∀ char ∈ word, isPathChar char) :
    fragmentStart (typed ++ word) = fragmentStart typed := by
  -- The fragment starts behind what is left in front of it, and that stays.
  rw [fragmentStart, dropEndWhile_append path, fragmentStart]

/-- A fragment is made of path characters, and none of them is left in front of it. -/
theorem exists_before_fragment (typed : List Char) :
    ∃ before, typed = before ++ fragment typed ∧ byteLength before = fragmentStart typed ∧
      (∀ char ∈ fragment typed, isPathChar char) ∧
      ∀ char, before.getLast? = some char → isPathChar char = false :=
  -- What is left when the fragment is dropped is what stands before it.
  ⟨dropEndWhile isPathChar typed, (dropEndWhile_append_takeEndWhile isPathChar typed).symm, rfl,
    fun _ => accepts_of_mem_takeEndWhile, fun _ => not_accepts_of_getLast?_dropEndWhile⟩

/-- Path characters behind something else are the fragment, which starts where that ends. -/
theorem fragment_behind {before word : List Char}
    (boundary : ∀ char, before.getLast? = some char → isPathChar char = false)
    (path : ∀ char ∈ word, isPathChar char) :
    fragment (before ++ word) = word ∧ fragmentStart (before ++ word) = byteLength before := by
  -- What stands before has no fragment of its own.
  rw [fragment_append path, fragmentStart_append path, fragment, takeEndWhile_eq_nil boundary,
    fragmentStart, dropEndWhile_eq_self boundary]
  exact ⟨rfl, rfl⟩

/-- There is a fragment exactly where the typed text ends in a path character. -/
theorem fragment_ne_nil_iff {typed : List Char} :
    fragment typed ≠ [] ↔ ∃ char, typed.getLast? = some char ∧ isPathChar char := by
  constructor
  · intro nonempty
    by_contra none
    push Not at none
    exact nonempty (takeEndWhile_eq_nil fun char last => Bool.eq_false_iff.mpr (none char last))
  · rintro ⟨char, last, path⟩ empty
    -- Without a fragment, the last character is what a fragment is not preceded by.
    have whole := dropEndWhile_append_takeEndWhile isPathChar typed
    rw [show takeEndWhile isPathChar typed = [] from empty, List.append_nil] at whole
    rw [← whole] at last
    rw [not_accepts_of_getLast?_dropEndWhile last] at path
    cases path

/-- An argument is replaced from the end of some beginning of the typed text. -/
theorem exists_before_argument (typed : List Char) :
    ∃ before, before <+: typed ∧ byteLength before = argumentStart typed := by
  rw [argumentStart]
  split
  · exact ⟨typed, List.prefix_rfl, rfl⟩
  · -- First the fragment is taken off, then blanks, and then perhaps one character more.
    have head : trimEnd (dropEndWhile isPathChar typed) <+: typed :=
      (trimEnd_isPrefix _).trans (dropEndWhile_isPrefix isPathChar typed)
    have shorter : (trimEnd (dropEndWhile isPathChar typed)).dropLast <+: typed :=
      (List.dropLast_prefix _).trans head
    dsimp only
    split
    · exact ⟨_, shorter, rfl⟩
    · exact ⟨_, shorter, rfl⟩
    · exact ⟨_, head, rfl⟩

/-- A line around a column: two accepted parts that meet at the cursor, and what ends them. -/
structure IsAround (accepts : Char → Bool) (line : List Char) (column : Nat)
    (before left right after : List Char) : Prop where
  /-- The parts make up the line. -/
  whole : line = before ++ left ++ (right ++ after)
  /-- The cursor stands between the two accepted parts. -/
  cursor : takeBytes column line = before ++ left
  /-- The part to the left is accepted. -/
  leftAccepted : ∀ char ∈ left, accepts char
  /-- The part to the right is accepted. -/
  rightAccepted : ∀ char ∈ right, accepts char
  /-- In front of them stands another character, if any. -/
  front : ∀ char, before.getLast? = some char → accepts char = false
  /-- Behind them stands another character, if any. -/
  back : ∀ char, after.head? = some char → accepts char = false

/-- The run around the cursor is what the two accepted parts are together. -/
theorem IsAround.runAt_eq {accepts : Char → Bool} {line before left right after : List Char}
    {column : Nat} (around : IsAround accepts line column before left right after) :
    runAt accepts line column = if left ++ right = [] then none else some (left ++ right) := by
  have behind : line.drop (takeBytes column line).length = right ++ after := by
    rw [around.cursor, around.whole, List.drop_left]
  -- Neither part goes on where the other character stands.
  have leftRun : takeEndWhile accepts (before ++ left) = left := by
    rw [takeEndWhile_append around.leftAccepted, takeEndWhile_eq_nil around.front, List.nil_append]
  have rightRun : (right ++ after).takeWhile accepts = right := by
    have stop : after.takeWhile accepts = [] := by
      cases after with
      | nil => rfl
      | cons char rest => simp [around.back char rfl]
    rw [List.takeWhile_append_of_pos around.rightAccepted, stop, List.append_nil]
  rw [runAt, behind, around.cursor, leftRun, rightRun]

end Cursor

end SymbolAssist
