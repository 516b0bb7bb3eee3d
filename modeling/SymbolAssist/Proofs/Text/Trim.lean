import SymbolAssist.Proofs.Text.Runs
import SymbolAssist.Text.Blank

/-! What trimming takes off a text, and which texts it leaves as they are. -/

namespace SymbolAssist.Text

/-- Trimming the end leaves a beginning of the text. -/
theorem trimEnd_isPrefix (text : List Char) : trimEnd text <+: text := by
  -- Blanks are dropped from the end only.
  rw [trimEnd]
  exact dropEndWhile_isPrefix isBlank text

/-- Trimming takes blanks off both sides and nothing else. -/
theorem exists_padding (text : List Char) :
    ∃ before after, (∀ char ∈ before, isBlank char) ∧ (∀ char ∈ after, isBlank char) ∧
      text = before ++ trim text ++ after := by
  refine ⟨text.takeWhile isBlank, takeEndWhile isBlank (trimStart text), ?_, ?_, ?_⟩
  · exact fun char member => List.mem_takeWhile_imp member
  · exact fun char member => accepts_of_mem_takeEndWhile member
  · -- The two ends are put back one after the other, the right one first.
    rw [List.append_assoc, trim, trimEnd, dropEndWhile_append_takeEndWhile, trimStart,
      List.takeWhile_append_dropWhile]

/-- What trimming leaves is a part of the text without a gap. -/
theorem trim_isInfix (text : List Char) : trim text <:+: text := by
  -- Only blanks on both sides are taken off.
  obtain ⟨before, after, _, _, same⟩ := exists_padding text
  exact ⟨before, after, same.symm⟩

/-- Blanks around a text make no difference to what trimming leaves of it. -/
theorem trim_pad {before after : List Char} (blankBefore : ∀ char ∈ before, isBlank char)
    (blankAfter : ∀ char ∈ after, isBlank char) (text : List Char) :
    trim (before ++ text ++ after) = trim text := by
  have nothing : after.dropWhile isBlank = [] := List.dropWhile_eq_nil_iff.mpr blankAfter
  have behind : ∀ rest, trimEnd (rest ++ after) = trimEnd rest := by
    intro rest
    rw [trimEnd, dropEndWhile_append blankAfter, trimEnd]
  rw [List.append_assoc, trim, trimStart, List.dropWhile_append_of_pos blankBefore,
    List.dropWhile_append]
  split
  · -- A text of blanks leaves nothing, and neither do the blanks behind it.
    rename_i empty
    rw [nothing, trim, trimStart, List.isEmpty_iff.mp empty]
  · exact behind _

/-- Nothing is left exactly of a text of blanks. -/
theorem trim_eq_nil_iff {text : List Char} : trim text = [] ↔ ∀ char ∈ text, isBlank char := by
  -- The text is its blanks on both sides and what is left between them.
  constructor
  · intro nothing
    obtain ⟨before, after, blankBefore, blankAfter, same⟩ := exists_padding text
    intro char member
    rw [same, nothing, List.append_nil, List.mem_append] at member
    exact member.elim (blankBefore char) (blankAfter char)
  · intro blank
    have padded := @trim_pad text [] blank (by simp) []
    rw [List.append_nil, List.append_nil] at padded
    rw [padded]
    rfl

/-- A text stays as it is exactly when neither its first nor its last character is blank. -/
theorem trim_eq_self_iff {text : List Char} :
    trim text = text ↔
      (∀ char, text.head? = some char → isBlank char = false) ∧
        (∀ char, text.getLast? = some char → isBlank char = false) := by
  constructor
  · intro same
    -- No padding is left to take off on either side.
    have front : trimStart text = text := by
      apply (List.dropWhile_suffix isBlank).eq_of_length_le
      calc text.length = (trim text).length := by rw [same]
        _ ≤ (trimStart text).length := (trimEnd_isPrefix _).length_le
    rw [trim, front] at same
    constructor
    · intro char first
      have kept := List.head?_dropWhile_not isBlank text
      rw [show text.dropWhile isBlank = text from front, first] at kept
      exact kept
    · intro char last
      rw [← same, trimEnd] at last
      exact not_accepts_of_getLast?_dropEndWhile last
  · rintro ⟨first, last⟩
    have front : trimStart text = text := by
      cases text with
      | nil => rfl
      | cons char rest => simp [trimStart, first char rfl]
    have back : trimEnd text = text := dropEndWhile_eq_self last
    rw [trim, front, back]

/-- Two texts put together stay as they are if no blank opens the first or ends the second. -/
theorem trim_append_eq_self {first second : List Char} (front : first ≠ []) (back : second ≠ [])
    (opens : ∀ char, first.head? = some char → isBlank char = false)
    (ends : ∀ char, second.getLast? = some char → isBlank char = false) :
    trim (first ++ second) = first ++ second := by
  -- The first character is that of the first text, and the last that of the second.
  rw [trim_eq_self_iff, List.head?_append_of_ne_nil _ front, List.getLast?_append_of_ne_nil _ back]
  exact ⟨opens, ends⟩

/-- A character that is not blank keeps apart what trimming does on either side of it. -/
theorem trim_append_cons {char : Char} (solid : isBlank char = false) (before after : List Char) :
    trim (before ++ char :: after) = trimStart before ++ char :: trimEnd after := by
  have front : trimStart (before ++ char :: after) = trimStart before ++ char :: after := by
    rw [trimStart, dropWhile_append_of_head? (by simp [solid]), trimStart]
  have back : ∀ rest : List Char, trimEnd (rest ++ char :: after) = rest ++ char :: trimEnd after := by
    intro rest
    -- The character is put at the end of the part that trimming does not reach.
    rw [List.append_cons, trimEnd, dropEndWhile_append_of_getLast? (by simp [solid]), List.append_assoc,
      List.singleton_append, trimEnd]
  rw [trim, front, back]

/-- Trimming twice is trimming once. -/
@[simp] theorem trim_trim (text : List Char) : trim (trim text) = trim text := by
  -- The blanks around what is left were taken off the first time.
  obtain ⟨before, after, blankBefore, blankAfter, same⟩ := exists_padding text
  have padded := trim_pad blankBefore blankAfter (trim text)
  rw [← same] at padded
  exact padded.symm

end SymbolAssist.Text
