import SymbolAssist.Document.LineTable
import SymbolAssist.Proofs.Text.Bytes

/-! Reading a line through the table of its own text gives the piece between two line breaks. -/

namespace SymbolAssist

open Text

/-- A piece of text without the carriage return that may end it. -/
def withoutReturn (piece : List Char) : List Char :=
  if piece.getLast? = some '\r' then piece.dropLast else piece

/-- The lines of a text, which are the pieces between its line breaks without carriage returns. -/
def linesOf (text : List Char) : List (List Char) :=
  (text.splitOn '\n').map withoutReturn

namespace LineTable

/-- A text without line breaks starts no further line. -/
theorem startsAfterBreaks_of_not_mem {piece : List Char} (unbroken : '\n' ∉ piece) (offset : Nat) :
    startsAfterBreaks offset piece = [] := by
  -- Only a line break starts a line, and no character of the piece is one.
  induction piece generalizing offset with
  | nil => rfl
  | cons char rest ih =>
    simp only [List.mem_cons, not_or] at unbroken
    simp only [startsAfterBreaks, if_neg (Ne.symm unbroken.1)]
    exact ih unbroken.2 _

/-- The first line break of a text starts a line behind it, and the later ones follow from there. -/
theorem startsAfterBreaks_append {piece : List Char} (unbroken : '\n' ∉ piece) (offset : Nat)
    (rest : List Char) :
    startsAfterBreaks offset (piece ++ '\n' :: rest) =
      (offset + byteLength piece + 1) :: startsAfterBreaks (offset + byteLength piece + 1) rest := by
  -- The piece only moves the offset on, which is why it stays quantified over.
  induction piece generalizing offset with
  | nil => rfl
  | cons char piece ih =>
    simp only [List.mem_cons, not_or] at unbroken
    simp only [List.cons_append, startsAfterBreaks, if_neg (Ne.symm unbroken.1), byteLength]
    rw [ih unbroken.2, Nat.add_assoc offset]

/-- A line reaches from its start to the byte before the next one, less a carriage return there. -/
theorem lineRange?_eq (table : LineTable) (text : List Char) (line : Nat) :
    table.lineRange? text line = table.starts[line]?.map fun start =>
      let stop := table.starts[line + 1]?.elim table.length (· - 1)
      if start < stop ∧ charAtByte? text (stop - 1) = some '\r' then ⟨start, stop - 1⟩
      else ⟨start, stop⟩ := by
  -- A line has a range where it has a start, and its end is the next start or that of the text.
  unfold lineRange?
  cases table.starts[line]? with
  | none => rfl
  | some start =>
    cases table.starts[line + 1]? with
    | none => exact (apply_ite some _ _ _).symm
    | some next => exact (apply_ite some _ _ _).symm

/-- A line that lies at the offsets of a piece is read as that piece. -/
theorem lineText?_of_range {table : LineTable} {line : Nat} (before piece after : List Char)
    (start : table.starts[line]? = some (byteLength before))
    (stop : table.starts[line + 1]?.elim table.length (· - 1) =
      byteLength before + byteLength piece) :
    table.lineText? (before ++ piece ++ after) line = some (withoutReturn piece) := by
  simp only [lineText?, lineRange?_eq, start, stop, Option.map_some, Option.bind_eq_bind,
    Option.bind_some]
  -- An empty piece has no last byte to look at.
  rcases List.eq_nil_or_concat piece with rfl | ⟨init, last, rfl⟩
  · simpa [withoutReturn, byteLength] using slice?_middle before [] after
  · simp only [List.concat_eq_append]
    have positive : 0 < last.utf8Size := last.utf8Size_pos
    have nonempty : byteLength before < byteLength before + byteLength (init ++ [last]) := by
      simp only [byteLength_append, byteLength]
      omega
    simp only [nonempty, true_and, charAtByte?_last before init after last]
    by_cases ended : last = '\r'
    · -- The range ends before the carriage return, which takes one byte.
      subst ended
      have shape : before ++ (init ++ ['\r']) ++ after = before ++ init ++ ('\r' :: after) := by simp
      have shorter : byteLength before + byteLength (init ++ ['\r']) - 1 =
          byteLength before + byteLength init := by
        have single : Char.utf8Size '\r' = 1 := by decide
        simp only [byteLength_append, byteLength, single]
        omega
      rw [if_pos rfl, shorter, shape]
      simpa [withoutReturn] using slice?_middle before init ('\r' :: after)
    · rw [if_neg ended]
      simpa [withoutReturn, ended] using slice?_middle before (init ++ [last]) after

/-- The table of what is left of a text, once the part before it has been read. -/
private def ofRest (before rest : List Char) : LineTable where
  starts := byteLength before :: startsAfterBreaks (byteLength before) rest
  length := byteLength (before ++ rest)

/-- What is left without a line break is the last line. -/
private theorem ofRest_last {rest : List Char} (unbroken : '\n' ∉ rest) (before : List Char)
    (line : Nat) :
    (ofRest before rest).lineText? (before ++ rest) line =
      [rest][line]?.map withoutReturn := by
  -- No further line starts, so the line in question is this one or none.
  have starts := startsAfterBreaks_of_not_mem unbroken (byteLength before)
  cases line with
  | zero =>
    have read : (ofRest before rest).lineText? (before ++ rest ++ []) 0 =
        some (withoutReturn rest) :=
      lineText?_of_range before rest [] rfl (by simp [ofRest, starts])
    simpa using read
  | succ line => simp [ofRest, lineText?, lineRange?_eq, starts]

/-- A line break moves the piece in front of it to what has been read. -/
private theorem ofRest_break {piece : List Char} (unbroken : '\n' ∉ piece)
    (before rest : List Char) :
    ofRest before (piece ++ '\n' :: rest) =
      ⟨byteLength before :: (ofRest (before ++ piece ++ ['\n']) rest).starts,
        (ofRest (before ++ piece ++ ['\n']) rest).length⟩ := by
  -- A line break takes one byte, so the next line starts behind the piece and that byte.
  have single : Char.utf8Size '\n' = 1 := by decide
  simp [ofRest, startsAfterBreaks_append unbroken, byteLength, single, Nat.add_assoc]

/-- The lines of what is left of a text are its pieces. -/
private theorem ofRest_lineText? (size : Nat) :
    ∀ before rest : List Char, rest.length ≤ size → ∀ line,
      (ofRest before rest).lineText? (before ++ rest) line =
        (rest.splitOn '\n')[line]?.map withoutReturn := by
  induction size with
  | zero =>
    intro before rest bound line
    have empty : rest = [] := List.eq_nil_of_length_eq_zero (by omega)
    subst empty
    simpa using ofRest_last List.not_mem_nil before line
  | succ size ih =>
    intro before rest bound line
    by_cases broken : '\n' ∈ rest
    · -- The first piece is read from the table's head, and the rest by the shorter table.
      obtain ⟨piece, after, rfl, unbroken⟩ := List.eq_append_cons_of_mem broken
      have shorter : after.length ≤ size := by
        simp only [List.length_append, List.length_cons] at bound
        omega
      have shape : before ++ (piece ++ '\n' :: after) = before ++ piece ++ ('\n' :: after) := by simp
      have later := ih (before ++ piece ++ ['\n']) after shorter
      rw [List.splitOn_append_cons_self_of_not_mem unbroken, shape]
      cases line with
      | zero =>
        refine lineText?_of_range before piece _ rfl ?_
        simp [ofRest, startsAfterBreaks_append unbroken]
      | succ line =>
        have moved : before ++ piece ++ ('\n' :: after) = before ++ piece ++ ['\n'] ++ after := by simp
        rw [ofRest_break unbroken, moved, List.getElem?_cons_succ, ← later line]
        rfl
    · rw [List.splitOn_eq_singleton broken]
      exact ofRest_last broken before line

/-- Every line of a text is the piece between two line breaks, less a carriage return at its end. -/
theorem lineText?_ofText (text : List Char) (line : Nat) :
    (ofText text).lineText? text line = (text.splitOn '\n')[line]?.map withoutReturn :=
  -- Before reading, the whole text is left, and it is as long as itself.
  ofRest_lineText? text.length [] text (Nat.le_refl _) line

/-- Every line break starts one more piece. -/
theorem length_startsAfterBreaks (offset : Nat) (text : List Char) :
    (startsAfterBreaks offset text).length + 1 = (text.splitOn '\n').length := by
  -- A line break adds both a start and a piece, and other characters add neither.
  induction text generalizing offset with
  | nil => rfl
  | cons char rest ih =>
    rw [List.splitOn_cons_eq_if_modifyHead]
    by_cases breaks : char = '\n' <;> simp [startsAfterBreaks, breaks, ih]

/-- The table has one start for each piece between line breaks. -/
theorem size_ofText (text : List Char) : (ofText text).size = (text.splitOn '\n').length :=
  -- The first line starts at zero, and each of the others behind a line break.
  length_startsAfterBreaks 0 text

/-- What is read as a line is the line of that number. -/
theorem lineText?_eq_getElem? (text : List Char) (line : Nat) :
    (ofText text).lineText? text line = (linesOf text)[line]? := by
  -- The lines of a text are its pieces without the carriage returns.
  rw [lineText?_ofText, linesOf, List.getElem?_map]

/-- A line break starts a line behind the offset of the text, and not behind its end. -/
theorem bounds_of_mem_startsAfterBreaks {offset start : Nat} {text : List Char}
    (listed : start ∈ startsAfterBreaks offset text) :
    offset < start ∧ start ≤ offset + byteLength text := by
  -- The offset moves along with the text, so it stays quantified over.
  induction text generalizing offset with
  | nil => cases listed
  | cons char rest ih =>
    have positive : 0 < char.utf8Size := char.utf8Size_pos
    rw [byteLength]
    rw [startsAfterBreaks] at listed
    split at listed
    · -- The line behind this break starts as early as the rest does, and the others start later.
      rcases List.mem_cons.mp listed with rfl | later
      · omega
      · have bounds := ih later
        omega
    · have bounds := ih listed
      omega

/-- Later line breaks start later lines. -/
theorem pairwise_startsAfterBreaks (offset : Nat) (text : List Char) :
    (startsAfterBreaks offset text).Pairwise (· < ·) := by
  induction text generalizing offset with
  | nil => exact List.Pairwise.nil
  | cons char rest ih =>
    rw [startsAfterBreaks]
    split
    · -- All later starts lie behind the one that this break gives.
      exact List.pairwise_cons.mpr
        ⟨fun _ later => (bounds_of_mem_startsAfterBreaks later).1, ih _⟩
    · exact ih _

/-- The starts of a table go up and stay within the text. -/
structure Ascends (table : LineTable) : Prop where
  /-- Every line starts behind all earlier ones. -/
  apart : table.starts.Pairwise (· < ·)
  /-- No line starts behind the end of the text. -/
  within : ∀ start ∈ table.starts, start ≤ table.length

/-- The lines of a text start in ascending order. -/
theorem ascends_ofText (text : List Char) : (ofText text).Ascends := by
  -- Starts behind line breaks lie behind the first start and within the text.
  constructor
  · exact List.pairwise_cons.mpr
      ⟨fun _ later => (bounds_of_mem_startsAfterBreaks later).1, pairwise_startsAfterBreaks 0 text⟩
  · intro start listed
    show start ≤ byteLength text
    rcases List.mem_cons.mp listed with rfl | later
    · exact Nat.zero_le _
    · have bounds := bounds_of_mem_startsAfterBreaks later
      omega

namespace Ascends

variable {table : LineTable} {line start : Nat}

/-- A line starts in front of the next one. -/
theorem start_lt_next (ascends : table.Ascends) {next : Nat}
    (here : table.starts[line]? = some start) (behind : table.starts[line + 1]? = some next) :
    start < next := by
  -- The two starts stand next to each other in an ascending list.
  obtain ⟨_, rfl⟩ := List.getElem?_eq_some_iff.mp here
  obtain ⟨_, rfl⟩ := List.getElem?_eq_some_iff.mp behind
  exact List.pairwise_iff_getElem.mp ascends.apart _ _ _ _ (Nat.lt_succ_self line)

/-- With the carriage return it may have, a line lies between its start and the end of the text. -/
theorem stop_bounds (ascends : table.Ascends) (here : table.starts[line]? = some start) :
    start ≤ table.starts[line + 1]?.elim table.length (· - 1) ∧
      table.starts[line + 1]?.elim table.length (· - 1) ≤ table.length := by
  -- The line ends with the text, or one byte before a start that is behind its own.
  cases behind : table.starts[line + 1]? with
  | none => exact ⟨ascends.within start (List.mem_of_getElem? here), Nat.le_refl _⟩
  | some next =>
    have before := ascends.start_lt_next here behind
    have within := ascends.within next (List.mem_of_getElem? behind)
    simp only [Option.elim_some]
    omega

/-- In whatever text it is looked for, a line keeps to its place among the lines of the table. -/
theorem lineRange?_bounds (ascends : table.Ascends) {text : List Char} {range : ByteRange}
    (found : table.lineRange? text line = some range) :
    table.starts[line]? = some range.start ∧ range.start ≤ range.stop ∧
      range.stop ≤ table.length ∧
      ∀ next, table.starts[line + 1]? = some next → range.stop < next := by
  rw [lineRange?_eq] at found
  obtain ⟨start, here, placed⟩ := Option.map_eq_some_iff.mp found
  have bounds := ascends.stop_bounds here
  -- A carriage return takes one byte off the end of a line that has bytes.
  have ends : range.start = start ∧ range.start ≤ range.stop ∧
      range.stop ≤ table.starts[line + 1]?.elim table.length (· - 1) := by
    dsimp only at placed
    split at placed
    · rename_i ended
      subst placed
      dsimp only
      omega
    · subst placed
      exact ⟨rfl, bounds.1, Nat.le_refl _⟩
  obtain ⟨rfl, ordered, short⟩ := ends
  refine ⟨here, ordered, Nat.le_trans short bounds.2, ?_⟩
  -- The byte of the break keeps the line apart from the next one.
  intro next behind
  have before := ascends.start_lt_next here behind
  rw [behind, Option.elim_some] at short
  omega

end Ascends

end LineTable

end SymbolAssist
