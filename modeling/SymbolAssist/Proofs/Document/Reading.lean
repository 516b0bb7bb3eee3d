import SymbolAssist.Proofs.Document.Cursor
import SymbolAssist.Proofs.Document.Packed

/-! What is read through the table of a text: its own lines, and something safe in any other text. -/

namespace SymbolAssist.LineTable

open Text

/-- What stands before a position is the cut beginning of its line. -/
theorem textBefore?_eq_map (table : LineTable) (text : List Char) (position : Position) :
    table.textBefore? text position =
      (table.lineText? text position.line).map (takeBytes position.column) := by
  -- The cut is made in the line if there is one.
  rw [textBefore?]
  cases table.lineText? text position.line <;> rfl

/-- There is a place for a line exactly if the table has that many starts. -/
theorem lineRange?_isSome_iff (table : LineTable) (text : List Char) (line : Nat) :
    (table.lineRange? text line).isSome ↔ line < table.size := by
  -- A range is made of the start of the line, and needs nothing else to exist.
  rw [lineRange?_eq, Option.isSome_map, size]
  simp

/-- Nothing is read of a line exactly if it has no place or the text cannot be cut there. -/
theorem Ascends.lineText?_eq_none_iff {table : LineTable} (ascends : table.Ascends)
    (text : List Char) (line : Nat) :
    table.lineText? text line = none ↔ table.lineRange? text line = none ∨
      ∃ range, table.lineRange? text line = some range ∧
        (byteLength text < range.stop ∨
          ¬ (IsBoundary text range.start ∧ IsBoundary text range.stop)) := by
  rw [lineText?]
  cases found : table.lineRange? text line with
  | none => simp
  | some range =>
    obtain ⟨_, ordered, _⟩ := ascends.lineRange?_bounds found
    have cut : slice? text range.start range.stop = none ↔
        ¬ (IsBoundary text range.start ∧ IsBoundary text range.stop) := by
      rw [← slice?_isSome_iff ordered, Option.not_isSome_iff_eq_none]
    simp only [Option.bind_eq_bind, Option.bind_some, cut, reduceCtorEq, false_or,
      Option.some.injEq, exists_eq_left']
    constructor
    · exact .inr
    · -- An end behind the text is no boundary of it, so that case adds nothing.
      rintro (past | uncut)
      · exact fun both => Nat.not_lt.mpr both.2.le past
      · exact uncut

/-- Every text short enough for 32 bits has a packed table, which is read like the table itself. -/
theorem exists_packed {indexed : List Char} (short : byteLength indexed < UInt32.size)
    (text : List Char) (position : Position) :
    ∃ packed, PackedTable.ofText indexed = .ok packed ∧
      packed.Agrees (ofText indexed) text position :=
  -- The packed table is the table itself with its offsets cut down, which loses nothing here.
  ⟨PackedTable.pack (ofText indexed), PackedTable.ofText_eq short,
    PackedTable.agrees_pack (ascends_ofText indexed) short text position⟩

/-- A line is the piece between two breaks less one carriage return, and is cut at a whole character. -/
theorem line_access_eq_split {text : List Char} (short : byteLength text < UInt32.size)
    (line column : Nat) :
    let table := ofText text
    let pieces := text.splitOn '\n'
    table.size = pieces.length ∧
    table.lineText? text line = pieces[line]?.map withoutReturn ∧
    (table.lineText? text line = none ↔ pieces.length ≤ line) ∧
    (∀ before, table.textBefore? text ⟨line, column⟩ = some before ↔
      ∃ piece, pieces[line]? = some piece ∧ Cursor.IsTyped (withoutReturn piece) column before) ∧
    ∃ packed, PackedTable.ofText text = .ok packed ∧ packed.Agrees table text ⟨line, column⟩ := by
  intro table pieces
  have read : table.lineText? text line = pieces[line]?.map withoutReturn :=
    lineText?_ofText text line
  refine ⟨size_ofText text, read, ?_, ?_, exists_packed short text ⟨line, column⟩⟩
  · rw [read, Option.map_eq_none_iff, List.getElem?_eq_none_iff]
  · intro before
    rw [textBefore?_eq_map, read, Option.map_map, Option.map_eq_some_iff]
    -- The longest beginning up to the column is the one that the cut leaves.
    constructor
    · rintro ⟨piece, listed, rfl⟩
      exact ⟨piece, listed, Cursor.isTyped_takeBytes _ column⟩
    · rintro ⟨piece, listed, typed⟩
      exact ⟨piece, listed, typed.eq_takeBytes.symm⟩

/-- Of two carriage returns one stays in the line, and a cursor inside a character stands before it. -/
theorem line_access_eq_split_returns :
    let text := "a\r\n\r\r\nüx".toList
    byteLength text < UInt32.size ∧ (ofText text).size = 3 ∧
      (ofText text).lineText? text 1 = some ['\r'] ∧
      (ofText text).textBefore? text ⟨2, 1⟩ = some [] ∧ (ofText text).lineText? text 3 = none := by
  intro text
  have short : byteLength text < UInt32.size := by decide
  -- The second line shows the returns, the third the cursor, and the fourth does not exist.
  obtain ⟨size, second, _⟩ := line_access_eq_split short 1 0
  obtain ⟨_, _, _, third, _⟩ := line_access_eq_split short 2 1
  obtain ⟨_, _, fourth, _⟩ := line_access_eq_split short 3 0
  refine ⟨short, size, second, (third []).mpr ⟨['ü', 'x'], rfl, ?_⟩, fourth.mpr (by decide)⟩
  exact Cursor.isTyped_takeBytes ['ü', 'x'] 1

/-- What is read of one text at a position through the table of another. -/
structure SafeReading (indexed text : List Char) (position : Position) : Prop where
  /-- The reading in 32 bits meets no fault. -/
  faultless : ∃ packed, PackedTable.ofText indexed = .ok packed ∧
    packed.Agrees (ofText indexed) text position
  /-- Every line of the table has a place, and no other line has. -/
  placed : ((ofText indexed).lineRange? text position.line).isSome ↔
    position.line < (ofText indexed).size
  /-- A line does not end before it starts, nor behind the end of the text that the table is of. -/
  within : ∀ range, (ofText indexed).lineRange? text position.line = some range →
    range.start ≤ range.stop ∧ range.stop ≤ byteLength indexed
  /-- A line ends before the next one starts. -/
  apart : ∀ range next, (ofText indexed).lineRange? text position.line = some range →
    (ofText indexed).lineRange? text (position.line + 1) = some next → range.stop < next.start
  /-- Nothing is read exactly if there is no place, or the text cannot be cut there. -/
  unread : (ofText indexed).lineText? text position.line = none ↔
    (ofText indexed).lineRange? text position.line = none ∨
    ∃ range, (ofText indexed).lineRange? text position.line = some range ∧
      (byteLength text < range.stop ∨
        ¬ (IsBoundary text range.start ∧ IsBoundary text range.stop))
  /-- What stands before the position is a beginning of the line. -/
  begins : ∀ before, (ofText indexed).textBefore? text position = some before →
    ∃ whole, (ofText indexed).lineText? text position.line = some whole ∧ before <+: whole

/-- The table of a text that has changed since can be used on the new text without harm. -/
theorem stale_reading_safe {indexed : List Char} (short : byteLength indexed < UInt32.size)
    (text : List Char) (position : Position) : SafeReading indexed text position := by
  -- Only that the starts ascend is used, which they do whatever text is read with them.
  have ascends := ascends_ofText indexed
  constructor
  case faultless => exact exists_packed short text position
  case placed => exact lineRange?_isSome_iff _ text position.line
  case within =>
    intro range found
    obtain ⟨_, ordered, short, _⟩ := ascends.lineRange?_bounds found
    exact ⟨ordered, short⟩
  case apart =>
    intro range next found behind
    obtain ⟨_, _, _, before⟩ := ascends.lineRange?_bounds found
    exact before next.start (ascends.lineRange?_bounds behind).1
  case unread => exact ascends.lineText?_eq_none_iff text position.line
  case begins =>
    intro before cut
    rw [textBefore?_eq_map] at cut
    obtain ⟨whole, read, rfl⟩ := Option.map_eq_some_iff.mp cut
    exact ⟨whole, read, takeBytes_isPrefix position.column whole⟩

/-- A carriage return that came in shortens a line, and a character that moved makes one unreadable. -/
theorem stale_reading_safe_moved :
    let indexed := "ab\ncd".toList
    let text := "x\rü".toList
    byteLength indexed < UInt32.size ∧
      (ofText indexed).lineRange? text 0 = some ⟨0, 1⟩ ∧
      (ofText indexed).lineText? text 1 = none ∧
      SafeReading indexed text ⟨0, 9⟩ ∧ SafeReading indexed text ⟨1, 1⟩ := by
  intro indexed text
  have short : byteLength indexed < UInt32.size := by decide
  have second := stale_reading_safe short text ⟨1, 1⟩
  -- The second line would reach to the fifth byte, and the new text has four.
  have past : byteLength text < 5 := by decide
  exact ⟨short, by decide, second.unread.mpr (.inr ⟨⟨3, 5⟩, by decide, .inl past⟩),
    stale_reading_safe short text ⟨0, 9⟩, second⟩

end SymbolAssist.LineTable
