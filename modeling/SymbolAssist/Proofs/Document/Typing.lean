import SymbolAssist.Proofs.Document.LineTable

/-! Typing on at the end of a line: only that line changes, and it grows by what was typed. -/

namespace SymbolAssist

/-- A piece of text with a word at its end, in front of the carriage return that may end it. -/
def extendPiece (word piece : List Char) : List Char :=
  if piece.getLast? = some '\r' then piece.dropLast ++ word ++ ['\r'] else piece ++ word

/-- A text with a word at the end of one of its lines, in front of what ends the line. -/
def extendLine (line : Nat) (word text : List Char) : List Char :=
  ['\n'].intercalate ((text.splitOn '\n').modify line (extendPiece word))

/-- No piece between separators contains one. -/
theorem not_mem_of_mem_splitOn {separator : Char} {text : List Char} :
    ∀ piece ∈ text.splitOn separator, separator ∉ piece := by
  induction text with
  | nil => simp
  | cons char rest ih =>
    rw [List.splitOn_cons_eq_if_modifyHead]
    -- A separator starts a new piece, and any other character goes to the first one.
    cases pieces : rest.splitOn separator with
    | nil => exact absurd pieces (List.splitOn_ne_nil separator rest)
    | cons first others =>
      rw [pieces] at ih
      by_cases same : char = separator
      · simpa [same] using ih
      · simpa [same, Ne.symm same] using ih

/-- The word is read behind the rest of its piece. -/
theorem withoutReturn_extendPiece {word : List Char} (plain : '\r' ∉ word) (piece : List Char) :
    withoutReturn (extendPiece word piece) = withoutReturn piece ++ word := by
  rw [extendPiece]
  split
  · -- The carriage return is still the last character.
    rename_i ended
    simp [withoutReturn, ended]
  · -- Neither the piece nor the word brings a carriage return to the end.
    rename_i unended
    have stillOpen : (piece ++ word).getLast? ≠ some '\r' := by
      rw [List.getLast?_append]
      cases last : word.getLast? with
      | none => simpa using unended
      | some char =>
        intro same
        obtain rfl : char = '\r' := by simpa using same
        exact plain (List.mem_of_getLast? last)
    rw [withoutReturn, if_neg stillOpen, withoutReturn, if_neg unended]

/-- A word without a line break leaves every piece without one. -/
theorem not_mem_extendPiece {word piece : List Char} (unbroken : '\n' ∉ word)
    (inPiece : '\n' ∉ piece) : '\n' ∉ extendPiece word piece := by
  -- The new piece is made of the old one, the word and perhaps a carriage return.
  rw [extendPiece]
  split
  · have shorter : '\n' ∉ piece.dropLast := fun member =>
      inPiece ((List.dropLast_prefix piece).mem member)
    simp [shorter, unbroken]
  · simp [inPiece, unbroken]

/-- Typing on at the end of a line changes no other line. -/
theorem linesOf_extendLine {word : List Char} (unbroken : '\n' ∉ word) (plain : '\r' ∉ word)
    (line : Nat) (text : List Char) :
    linesOf (extendLine line word text) = (linesOf text).modify line (· ++ word) := by
  let pieces := (text.splitOn '\n').modify line (extendPiece word)
  have whole : ∀ piece ∈ pieces, '\n' ∉ piece := by
    intro piece member
    obtain ⟨index, listed⟩ := List.mem_iff_getElem?.mp member
    rw [List.getElem?_modify] at listed
    obtain ⟨old, before, rfl⟩ := Option.map_eq_some_iff.mp listed
    have inOld := not_mem_of_mem_splitOn old (List.mem_of_getElem? before)
    split
    · exact not_mem_extendPiece unbroken inOld
    · exact inOld
  have nonempty : pieces ≠ [] := by
    intro empty
    have lengths := congrArg List.length empty
    simp [pieces, List.splitOn_ne_nil] at lengths
  -- The pieces are found again, and each is read as before or with the word behind it.
  rw [linesOf, extendLine, List.splitOn_intercalate '\n' whole nonempty]
  apply List.ext_getElem?
  intro index
  simp only [pieces, linesOf, List.getElem?_map, List.getElem?_modify, Option.map_eq_map,
    Option.map_map]
  congr 1
  funext piece
  by_cases here : line = index
  · simp [here, withoutReturn_extendPiece plain]
  · simp [here]

end SymbolAssist
