import Mathlib.Order.Bounds.Basic
import SymbolAssist.Proofs.Document.Cursor
import SymbolAssist.Proofs.Text.Boundary

/-! The word under a cursor: as long as it can be, and a part of the dotted name that is found there. -/

namespace SymbolAssist

namespace Text

variable {α : Type} {accepts : α → Bool} {first second : List α} {item : α}

/-- A list opens as its beginnings do. -/
theorem head?_of_isPrefix (begins : first <+: second) (opens : first.head? = some item) :
    second.head? = some item := by
  -- The longer list goes on behind the shorter one, which is not empty.
  obtain ⟨rest, rfl⟩ := begins
  rw [List.head?_append, opens, Option.some_or]

/-- A list ends as its endings do. -/
theorem getLast?_of_isSuffix (ending : first <:+ second) (last : first.getLast? = some item) :
    second.getLast? = some item := by
  -- The longer list has more in front of the shorter one, which is not empty.
  obtain ⟨rest, rfl⟩ := ending
  rw [List.getLast?_append, last, Option.some_or]

end Text

namespace Cursor

open Text

/-- The boundaries of a line that are not behind a column, of which a cursor stands at the last. -/
def reachable (line : List Char) (column : Nat) : Set Nat :=
  {offset | IsBoundary line offset ∧ offset ≤ column}

/-- An accepted character starts or ends at an offset. -/
def Touches (accepts : Char → Bool) (line : List Char) (offset : Nat) : Prop :=
  ∃ before char after, line = before ++ char :: after ∧ accepts char ∧
    (byteLength before = offset ∨ byteLength (before ++ [char]) = offset)

/-- A part of a line that is accepted as a whole, and no longer one around it. -/
structure IsMaximalRun (accepts : Char → Bool) (line : List Char) (start stop : Nat)
    (run : List Char) : Prop where
  /-- It does not end before it starts. -/
  ordered : start ≤ stop
  /-- It is what stands between the two offsets. -/
  sliced : slice? line start stop = some run
  /-- All its characters are accepted. -/
  accepted : ∀ char ∈ run, accepts char
  /-- Whatever reaches further on either side has another character in it. -/
  maximal : ∀ lower upper longer, lower ≤ start → stop ≤ upper →
    slice? line lower upper = some longer → (∀ char ∈ longer, accepts char) →
      lower = start ∧ upper = stop

/-- The cursor stands where the text before it ends. -/
theorem isGreatest_reachable (line : List Char) (column : Nat) :
    IsGreatest (reachable line column) (byteLength (takeBytes column line)) := by
  constructor
  · obtain ⟨after, whole⟩ := takeBytes_isPrefix column line
    exact ⟨⟨takeBytes column line, after, whole.symm, rfl⟩, byteLength_takeBytes_le column line⟩
  · -- What ends at another boundary within reach begins the text before the cursor.
    rintro offset ⟨⟨before, after, rfl, rfl⟩, within⟩
    obtain ⟨more, longer⟩ := isPrefix_takeBytes (List.prefix_append before after) within
    rw [← longer, byteLength_append]
    omega

section Around

variable {accepts : Char → Bool} {line before left right after : List Char} {column : Nat}

/-- Where more characters are accepted, the two parts take in what is accepted next to them. -/
theorem IsAround.widen {wider : Char → Bool} (weaker : ∀ char, accepts char → wider char)
    (around : IsAround accepts line column before left right after) :
    IsAround wider line column (dropEndWhile wider before) (takeEndWhile wider before ++ left)
      (right ++ after.takeWhile wider) (after.dropWhile wider) := by
  -- What is accepted next to the parts moves into them, on the left from the end and on the right from
  -- the front.
  have front := dropEndWhile_append_takeEndWhile wider before
  refine ⟨?_, ?_, ?_, ?_, ?_, ?_⟩
  · rw [← List.append_assoc (dropEndWhile wider before), front, List.append_assoc right,
      List.takeWhile_append_dropWhile]
    exact around.whole
  · rw [← List.append_assoc, front]
    exact around.cursor
  · exact List.forall_mem_append.mpr ⟨fun char => accepts_of_mem_takeEndWhile,
      fun char member => weaker char (around.leftAccepted char member)⟩
  · exact List.forall_mem_append.mpr ⟨fun char member => weaker char (around.rightAccepted char member),
      fun char => List.mem_takeWhile_imp⟩
  · exact fun char => not_accepts_of_getLast?_dropEndWhile
  · -- What is left on the right opens with the character at which taking stopped.
    intro char opens
    have rejected := List.head?_dropWhile_not wider after
    rw [opens] at rejected
    simpa using rejected

/-- Every line falls into such parts at every column. -/
theorem exists_isAround (accepts : Char → Bool) (line : List Char) (column : Nat) :
    ∃ before left right after, IsAround accepts line column before left right after := by
  obtain ⟨behind, whole⟩ := takeBytes_isPrefix column line
  -- Without accepted characters, the line is just cut at the cursor.
  have cut : IsAround (fun _ => false) line column (takeBytes column line) [] [] behind :=
    ⟨by simp [whole], by simp, by simp, by simp, fun _ _ => rfl, fun _ _ => rfl⟩
  exact ⟨_, _, _, _, cut.widen (by simp)⟩

/-- Something is accepted around the cursor exactly if it touches an accepted character. -/
theorem IsAround.append_ne_nil_iff (around : IsAround accepts line column before left right after) :
    left ++ right ≠ [] ↔ Touches accepts line (byteLength (before ++ left)) := by
  constructor
  · -- The last character on the left ends at the cursor, and the first on the right starts there.
    intro nonempty
    rcases List.eq_nil_or_concat left with rfl | ⟨rest, last, rfl⟩
    · obtain ⟨first, rest, rfl⟩ := List.exists_cons_of_ne_nil nonempty
      refine ⟨before, first, rest ++ after, by simpa using around.whole, ?_, .inl (by simp)⟩
      exact around.rightAccepted first (by simp)
    · refine ⟨before ++ rest, last, right ++ after, by simpa using around.whole, ?_, .inr (by simp)⟩
      exact around.leftAccepted last (by simp)
  · rintro ⟨front, char, rest, same, accepted, touching⟩ empty
    obtain ⟨rfl, rfl⟩ := List.append_eq_nil_iff.mp empty
    have whole := around.whole
    simp only [List.append_nil, List.nil_append] at whole touching
    -- Beginnings of the line that end at the same offset are the same.
    have unique : ∀ {one other : List Char}, one <+: line → other <+: line →
        byteLength one = byteLength other → one = other := fun begins other measured =>
      List.IsPrefix.eq_of_length_le (isPrefix_of_byteLength_le begins other measured.le)
        (isPrefix_of_byteLength_le other begins measured.ge).length_le
    have cut : before <+: line := ⟨after, whole.symm⟩
    rcases touching with starts | ends
    · -- The character would be the one behind the run.
      obtain rfl := unique ⟨char :: rest, same.symm⟩ cut starts
      obtain rfl := List.append_cancel_left (whole.symm.trans same)
      rw [around.back char rfl] at accepted
      cases accepted
    · -- The character would be the one in front of the run.
      obtain rfl := unique ⟨rest, by simp [same]⟩ cut ends
      rw [around.front char (by simp)] at accepted
      cases accepted

/-- The two accepted parts are a run that cannot be made longer. -/
theorem IsAround.isMaximalRun (around : IsAround accepts line column before left right after) :
    IsMaximalRun accepts line (byteLength before) (byteLength (before ++ left ++ right))
      (left ++ right) := by
  have whole : line = before ++ (left ++ right) ++ after := by simpa using around.whole
  have ordered : byteLength before ≤ byteLength (before ++ left ++ right) := by
    simp only [byteLength_append]
    omega
  refine ⟨ordered, ?_, ?_, ?_⟩
  · rw [slice?_eq_some_iff ordered]
    exact ⟨before, after, whole, rfl, by rw [List.append_assoc]⟩
  · exact List.forall_mem_append.mpr ⟨around.leftAccepted, around.rightAccepted⟩
  · intro lower upper longer lowerLe leUpper sliced accepted
    obtain ⟨start, rest, same, rfl, rfl⟩ :=
      (slice?_eq_some_iff (lowerLe.trans (ordered.trans leUpper))).mp sliced
    -- The longer run has some characters more on the left and some on the right.
    have beginsStart : start <+: line := ⟨longer ++ rest, by simp [same]⟩
    have beginsBefore : before <+: line := ⟨left ++ right ++ after, by simp [whole]⟩
    obtain ⟨more, rfl⟩ := isPrefix_of_byteLength_le beginsStart beginsBefore lowerLe
    have beginsRun : start ++ more ++ left ++ right <+: line := ⟨after, by simp [whole]⟩
    have beginsLonger : start ++ longer <+: line := ⟨rest, by simp [same]⟩
    obtain ⟨further, reaches⟩ := isPrefix_of_byteLength_le beginsRun beginsLonger leUpper
    obtain rfl : more ++ (left ++ (right ++ further)) = longer := by
      simpa [List.append_assoc] using reaches
    obtain rfl : further ++ rest = after := by
      have both := same.symm.trans whole
      simpa [List.append_assoc] using both
    -- The last one on the left stands in front of the run, and the first on the right behind it.
    have noneBefore : more = [] := by
      rcases List.eq_nil_or_concat more with empty | ⟨_, char, rfl⟩
      · exact empty
      · have rejected := around.front char (by simp)
        rw [accepted char (by simp)] at rejected
        cases rejected
    have noneBehind : further = [] := by
      cases further with
      | nil => rfl
      | cons char _ =>
        have rejected := around.back char (by simp)
        rw [accepted char (by simp)] at rejected
        cases rejected
    subst noneBefore noneBehind
    simp

end Around

section Segments

variable {front word back : List Char}

/-- The dot is no character of a word. -/
theorem isWordChar_dot : isWordChar '.' = false := by
  -- The dot is in neither of the two tables.
  decide +kernel

/-- What stands between two dots, or between a dot and an end, is a segment. -/
theorem mem_splitOn_dot (undotted : '.' ∉ word)
    (before : ∀ char, front.getLast? = some char → char = '.')
    (behind : ∀ char, back.head? = some char → char = '.') :
    word ∈ (front ++ word ++ back).splitOn '.' := by
  -- What follows the word is split off at the dot behind it.
  have opening : word ∈ (word ++ back).splitOn '.' := by
    cases back with
    | nil =>
      rw [List.append_nil, List.splitOn_eq_singleton undotted]
      exact List.mem_singleton_self word
    | cons char rest =>
      obtain rfl := behind char rfl
      rw [List.splitOn_append_cons_self, List.splitOn_eq_singleton undotted]
      simp
  rw [List.append_assoc]
  rcases List.eq_nil_or_concat front with rfl | ⟨rest, char, rfl⟩
  · exact opening
  · obtain rfl := before char (by simp)
    rw [List.concat_eq_append, List.append_assoc, List.singleton_append, List.splitOn_append_cons_self]
    exact List.mem_append_right _ opening

/-- Dots are taken off outside a word and not inside it. -/
theorem trimDots_append (nonempty : word ≠ []) (undotted : '.' ∉ word) :
    trimDots (front ++ word ++ back) =
      front.dropWhile (· == '.') ++ word ++ dropEndWhile (· == '.') back := by
  -- Trimming from either side stops at the word, which has no dots and is not empty.
  have other : ∀ char ∈ word, (char == '.') = false := by
    intro char member
    have apart : char ≠ '.' := by
      rintro rfl
      exact undotted member
    simpa using apart
  rw [trimDots, List.append_assoc, dropWhile_append_of_head?, ← List.append_assoc,
    dropEndWhile_append_of_getLast?]
  · intro char ends
    rw [List.getLast?_append_of_ne_nil _ nonempty] at ends
    exact other char (List.mem_of_getLast? ends)
  · intro char opens
    rw [List.head?_append_of_ne_nil _ nonempty] at opens
    exact other char (List.mem_of_head? opens)

/-- A word with dots next to it, if anything, is still a segment once the outer dots are taken off. -/
theorem mem_splitOn_trimDots (nonempty : word ≠ []) (undotted : '.' ∉ word)
    (before : ∀ char, front.getLast? = some char → char = '.')
    (behind : ∀ char, back.head? = some char → char = '.') :
    word ∈ (trimDots (front ++ word ++ back)).splitOn '.' := by
  rw [trimDots_append nonempty undotted]
  -- What is left in front ends as before, and what is left behind opens as before.
  apply mem_splitOn_dot undotted
  · exact fun char last => before char (getLast?_of_isSuffix (List.dropWhile_suffix _) last)
  · exact fun char opens => behind char (head?_of_isPrefix (dropEndWhile_isPrefix _ _) opens)

/-- No dot is left at either side of a text whose dots are trimmed. -/
theorem not_dot_of_trimDots (text : List Char) :
    (trimDots text).head? ≠ some '.' ∧ (trimDots text).getLast? ≠ some '.' := by
  constructor
  · -- What is left opens as the text does behind its first dots.
    intro opens
    have begins : trimDots text <+: text.dropWhile (· == '.') := dropEndWhile_isPrefix _ _
    have rejected := List.head?_dropWhile_not (· == '.') text
    rw [head?_of_isPrefix begins opens] at rejected
    simp at rejected
  · intro ends
    have rejected := not_accepts_of_getLast?_dropEndWhile ends
    simp at rejected

end Segments

/-- Where a word is found, the run of path characters goes on from it with dots, if at all. -/
theorem exists_pathRun {line word : List Char} {column : Nat} (found : wordAt line column = some word) :
    ∃ front back, runAt isPathChar line column = some (front ++ word ++ back) ∧
      (∀ char, front.getLast? = some char → char = '.') ∧
      ∀ char, back.head? = some char → char = '.' := by
  obtain ⟨before, left, right, after, inner⟩ := exists_isAround isWordChar line column
  have outer := inner.widen fun char accepted => (by simp [isPathChar, accepted] : isPathChar char)
  rw [wordAt, inner.runAt_eq] at found
  split at found
  · cases found
  · rename_i nonempty
    cases found
    -- A path character that is no word character is a dot.
    have dot : ∀ char, isPathChar char → isWordChar char = false → char = '.' := by
      intro char path other
      simpa [isPathChar, other] using path
    refine ⟨takeEndWhile isPathChar before, after.takeWhile isPathChar, ?_, ?_, ?_⟩
    · rw [outer.runAt_eq, if_neg]
      · simp
      · -- The longer run has the word in it.
        intro empty
        simp_all
    · intro char last
      have ending : takeEndWhile isPathChar before <:+ before := by
        rw [takeEndWhile_eq_rtakeWhile]
        exact List.rtakeWhile_suffix _ _
      exact dot char (accepts_of_mem_takeEndWhile (List.mem_of_getLast? last))
        (inner.front char (getLast?_of_isSuffix ending last))
    · intro char opens
      have begins : after.takeWhile isPathChar <+: after := List.takeWhile_prefix _
      exact dot char (List.mem_takeWhile_imp (List.mem_of_head? opens))
        (inner.back char (head?_of_isPrefix begins opens))

/-- Where a word is found, the dotted name is found as well, and the word is one of its segments. -/
theorem exists_qualifiedNameAt {line word : List Char} {column : Nat} (nonempty : word ≠ [])
    (accepted : ∀ char ∈ word, isWordChar char) (found : wordAt line column = some word) :
    ∃ name, qualifiedNameAt line column = some name ∧
      name.head? ≠ some '.' ∧ name.getLast? ≠ some '.' ∧ word ∈ name.splitOn '.' := by
  have undotted : '.' ∉ word := by
    intro member
    have dotted := accepted '.' member
    rw [isWordChar_dot] at dotted
    cases dotted
  obtain ⟨front, back, run, before, behind⟩ := exists_pathRun found
  obtain ⟨first, last⟩ := not_dot_of_trimDots (front ++ word ++ back)
  refine ⟨_, ?_, first, last, mem_splitOn_trimDots nonempty undotted before behind⟩
  -- The word is left when the dots are taken off, so something is.
  have remains : trimDots (front ++ word ++ back) ≠ [] := by
    rw [trimDots_append nonempty undotted]
    simp [nonempty]
  rw [qualifiedNameAt, run, Option.bind_eq_bind, Option.bind_some, if_neg remains]

/--
For every line and every column, the word under the cursor is as long as it can be.

The cursor stands at the last boundary that is not behind the column.
There is a word exactly if a word character starts or ends there.
The word reaches from a place before the cursor or at it to a place behind it or at it, and is not part of
a longer run of word characters.
With it the dotted name is found, which no dot opens or ends and of which the word is a segment.
-/
theorem word_under_cursor (line : List Char) (column : Nat) :
    ∃ cursor, IsGreatest (reachable line column) cursor ∧
      ((wordAt line column).isSome ↔ Touches isWordChar line cursor) ∧
      ∀ word, wordAt line column = some word →
        (∃ start stop, start ≤ cursor ∧ cursor ≤ stop ∧
          IsMaximalRun isWordChar line start stop word) ∧
        ∃ name, qualifiedNameAt line column = some name ∧
          name.head? ≠ some '.' ∧ name.getLast? ≠ some '.' ∧ word ∈ name.splitOn '.' := by
  obtain ⟨before, left, right, after, around⟩ := exists_isAround isWordChar line column
  have run : wordAt line column = if left ++ right = [] then none else some (left ++ right) :=
    around.runAt_eq
  refine ⟨byteLength (before ++ left), ?_, ?_, ?_⟩
  · rw [← around.cursor]
    exact isGreatest_reachable line column
  · rw [← around.append_ne_nil_iff, run]
    split <;> simp [*]
  · intro word found
    -- The word is what stands on both sides of the cursor.
    have both : left ++ right ≠ [] ∧ left ++ right = word := by
      rw [run] at found
      split at found
      · cases found
      · rename_i nonempty
        exact ⟨nonempty, Option.some.inj found⟩
    obtain ⟨nonempty, rfl⟩ := both
    have maximal := around.isMaximalRun
    refine ⟨⟨_, _, ?_, ?_, maximal⟩, exists_qualifiedNameAt nonempty maximal.accepted found⟩
    · rw [byteLength_append]
      omega
    · rw [byteLength_append (before ++ left)]
      omega

end Cursor

end SymbolAssist
