import SymbolAssist.Document.LineTable
import SymbolAssist.Proofs.Document.LineTable
import SymbolAssist.Proofs.Text.Boundary

/-! Lines read with offsets of 32 bits, where every step that could go wrong is checked. -/

namespace SymbolAssist

open Text

/-- What would stop a reading by byte offsets. -/
inductive ReadFault where
  /-- A text has more bytes than an offset can count. -/
  | tooLong
  /-- An offset would fall below zero. -/
  | underflow
  /-- A range would end before it starts. -/
  | reversed
  /-- A text would be cut inside a character or behind its end. -/
  | badCut
  deriving Repr, DecidableEq

/-- One less than a count. -/
def oneLess : Nat → Except ReadFault Nat
  | 0 => .error .underflow
  | count + 1 => .ok count

/-- The offset one byte to the left. -/
def stepLeft (offset : UInt32) : Except ReadFault UInt32 :=
  if offset = 0 then .error .underflow else .ok (offset - 1)

/-- The bytes between two offsets of 32 bits, which stand in their order. -/
structure PackedRange where
  /-- The offset of the first byte. -/
  start : UInt32
  /-- The offset behind the last byte. -/
  stop : UInt32
  /-- The range does not end before it starts. -/
  ordered : start ≤ stop

namespace PackedRange

/-- The range between two offsets, if they stand in their order. -/
def make (start stop : UInt32) : Except ReadFault PackedRange :=
  if ordered : start ≤ stop then .ok ⟨start, stop, ordered⟩ else .error .reversed

/-- The same range with offsets of any size. -/
def unpack (range : PackedRange) : ByteRange :=
  ⟨range.start.toNat, range.stop.toNat⟩

/-- Offsets that stand in their order make a range. -/
theorem make_eq {start stop : UInt32} (ordered : start.toNat ≤ stop.toNat) :
    make start stop = .ok ⟨start, stop, UInt32.le_iff_toNat_le.mpr ordered⟩ :=
  -- Offsets are compared as the numbers they stand for.
  dif_pos (UInt32.le_iff_toNat_le.mpr ordered)

end PackedRange

/-- A line table whose offsets take 32 bits each. -/
structure PackedTable where
  /-- One offset for each line, in ascending order. -/
  starts : List UInt32
  /-- The length of the text in bytes. -/
  length : UInt32
  deriving Repr, DecidableEq

namespace PackedTable

/-- A table with its offsets cut down to 32 bits. -/
def pack (table : LineTable) : PackedTable :=
  ⟨table.starts.map UInt32.ofNat, UInt32.ofNat table.length⟩

/-- The table of a text whose length can be counted. -/
def ofText (text : List Char) : Except ReadFault PackedTable :=
  if byteLength text < UInt32.size then .ok (pack (LineTable.ofText text)) else .error .tooLong

/-- Where a line ends with the carriage return it may have: before the break, or with the text. -/
def lineStop (table : PackedTable) (line : Nat) : Except ReadFault UInt32 :=
  match table.starts[line + 1]? with
  | some next => stepLeft next
  | none => .ok table.length

/-- The end of a line moved in front of the carriage return, which is looked for among the bytes. -/
def beforeReturn (text : List Char) (start stop : UInt32) : Except ReadFault UInt32 :=
  if start < stop then do
    let last ← oneLess stop.toNat
    if (utf8 text)[last]? = some 13 then stepLeft stop else .ok stop
  else .ok stop

/-- Where a line lies, without its line break. -/
def lineRange (table : PackedTable) (text : List Char) (line : Nat) :
    Except ReadFault (Option PackedRange) :=
  match table.starts[line]? with
  | none => .ok none
  | some start => do
    let stop ← table.lineStop line
    let stop ← beforeReturn text start stop
    let range ← PackedRange.make start stop
    return some range

/-- The text of a line, or nothing when the text being read cannot be cut at those offsets. -/
def lineText (table : PackedTable) (text : List Char) (line : Nat) :
    Except ReadFault (Option (List Char)) := do
  let range ← table.lineRange text line
  return range.bind fun range => slice? text range.start.toNat range.stop.toNat

/-- The nearest boundary at or before a column; a search that has found none at zero goes below it. -/
def clampBack (line : List Char) (column : Nat) : Except ReadFault Nat :=
  if opensAt line column then .ok column
  else match column with
    | 0 => .error .underflow
    | column + 1 => clampBack line column

/-- What stands in front of a column, which has to be a boundary. -/
def cutBefore (line : List Char) (column : Nat) : Except ReadFault (List Char) :=
  match splitAtByte? column line with
  | some (before, _) => .ok before
  | none => .error .badCut

/-- The part of a line before a position. -/
def textBefore (table : PackedTable) (text : List Char) (position : Position) :
    Except ReadFault (Option (List Char)) := do
  match ← table.lineText text position.line with
  | none => return none
  | some line =>
    let column ← clampBack line (min position.column (byteLength line))
    let before ← cutBefore line column
    return some before

/-- A count that is not zero can be lowered. -/
theorem oneLess_eq {count : Nat} (positive : 0 < count) : oneLess count = .ok (count - 1) := by
  -- Only zero has no number below it.
  cases count with
  | zero => cases positive
  | succ count => rfl

/-- An offset that is not the first has one to its left. -/
theorem stepLeft_spec {offset : UInt32} (positive : 0 < offset.toNat) :
    ∃ left, stepLeft offset = .ok left ∧ left.toNat = offset.toNat - 1 := by
  -- An offset above zero can be lowered without wrapping around.
  have nonzero : offset ≠ 0 := by
    rintro rfl
    cases positive
  exact ⟨offset - 1, if_neg nonzero,
    UInt32.toNat_sub_of_le offset 1 (UInt32.le_iff_toNat_le.mpr positive)⟩

/-- Looking for a carriage return does not fail, whichever text is looked into. -/
theorem beforeReturn_spec (text : List Char) (start stop : UInt32) :
    ∃ moved, beforeReturn text start stop = .ok moved ∧
      moved.toNat =
        if start.toNat < stop.toNat ∧ charAtByte? text (stop.toNat - 1) = some '\r'
        then stop.toNat - 1 else stop.toNat := by
  rw [beforeReturn]
  by_cases nonempty : start.toNat < stop.toNat
  · -- A line that has bytes does not end at the first offset.
    have positive : 0 < stop.toNat := by omega
    rw [if_pos (UInt32.lt_iff_toNat_lt.mpr nonempty), oneLess_eq positive]
    simp only [bind, Except.bind, getElem?_utf8_eq_return_iff, nonempty, true_and]
    split
    · exact stepLeft_spec positive
    · exact ⟨stop, rfl, rfl⟩
  · rw [if_neg fun before => nonempty (UInt32.lt_iff_toNat_lt.mp before),
      if_neg fun ended => nonempty ended.1]
    exact ⟨stop, rfl, rfl⟩

section Pack

variable {table : LineTable} (ascends : table.Ascends) (short : table.length < UInt32.size)
include ascends short

/-- In 32 bits, too, a line ends before the break or with the text. -/
theorem lineStop_pack {line start : Nat} (here : table.starts[line]? = some start) :
    ∃ stop, (pack table).lineStop line = .ok stop ∧
      stop.toNat = table.starts[line + 1]?.elim table.length (· - 1) := by
  rw [lineStop, pack, List.getElem?_map]
  cases behind : table.starts[line + 1]? with
  | none => exact ⟨_, rfl, UInt32.toNat_ofNat_of_lt' short⟩
  | some next =>
    -- The next line starts behind this one, so there is an offset to its left.
    have before := ascends.start_lt_next here behind
    have within := ascends.within next (List.mem_of_getElem? behind)
    have value : (UInt32.ofNat next).toNat = next := UInt32.toNat_ofNat_of_lt' (by omega)
    obtain ⟨left, stepped, moved⟩ := stepLeft_spec (show 0 < (UInt32.ofNat next).toNat by omega)
    exact ⟨left, stepped, by rw [moved, value]; rfl⟩

/-- In 32 bits, too, a line lies where the table says, and its range is in order. -/
theorem lineRange_pack (text : List Char) (line : Nat) :
    ∃ found, (pack table).lineRange text line = .ok found ∧
      found.map PackedRange.unpack = table.lineRange? text line := by
  rw [lineRange, LineTable.lineRange?_eq,
    show (pack table).starts[line]? = table.starts[line]?.map UInt32.ofNat from List.getElem?_map]
  cases here : table.starts[line]? with
  | none => exact ⟨none, rfl, rfl⟩
  | some start =>
    have bounds := ascends.stop_bounds here
    have value : (UInt32.ofNat start).toNat = start := UInt32.toNat_ofNat_of_lt' (by omega)
    obtain ⟨stop, ends, atStop⟩ := lineStop_pack ascends short here
    obtain ⟨moved, returned, atMoved⟩ := beforeReturn_spec text (UInt32.ofNat start) stop
    rw [value, atStop] at atMoved
    -- A carriage return is taken off only where there is a byte for it, so the order is kept.
    have ordered : (UInt32.ofNat start).toNat ≤ moved.toNat := by
      rw [value, atMoved]
      split <;> omega
    refine ⟨some ⟨UInt32.ofNat start, moved, UInt32.le_iff_toNat_le.mpr ordered⟩, ?_, ?_⟩
    · simp only [Option.map_some, ends, returned, PackedRange.make_eq ordered, bind, Except.bind]
      rfl
    · simp only [Option.map_some, PackedRange.unpack, value, atMoved]
      split <;> rfl

/-- In 32 bits, too, the same text is read for a line. -/
theorem lineText_pack (text : List Char) (line : Nat) :
    (pack table).lineText text line = .ok (table.lineText? text line) := by
  -- The ranges agree, and the text is read through the range in both.
  obtain ⟨found, read, same⟩ := lineRange_pack ascends short text line
  rw [lineText, read, LineTable.lineText?, ← same]
  cases found <;> rfl

end Pack

/-- The search for a boundary ends at the last one that is not behind the column. -/
theorem clampBack_eq (line : List Char) (column : Nat) :
    clampBack line column = .ok (byteLength (takeBytes column line)) := by
  induction column with
  | zero =>
    -- Zero is always a boundary, so the search does not go below it.
    have opens : opensAt line 0 := opensAt_iff.mpr (isBoundary_zero line)
    have nothing : byteLength (takeBytes 0 line) ≤ 0 := byteLength_takeBytes_le 0 line
    rw [clampBack, if_pos opens, Nat.le_zero.mp nothing]
  | succ column ih =>
    rw [clampBack]
    split
    · -- At a boundary the search is over, and the line is cut right there.
      rename_i opens
      obtain ⟨before, after, rfl, measured⟩ := opensAt_iff.mp opens
      show Except.ok (column + 1) = Except.ok (byteLength (takeBytes (column + 1) (before ++ after)))
      rw [show column + 1 = byteLength before from measured.symm, takeBytes_append]
    · -- No beginning of the line ends here, so the limit may as well be one byte smaller.
      rename_i inside
      have same : takeBytes (column + 1) line = takeBytes column line := by
        apply takeBytes_congr
        rintro beginning ⟨after, rfl⟩
        have other : byteLength beginning ≠ column + 1 := fun here =>
          inside (opensAt_iff.mpr ⟨beginning, after, rfl, here⟩)
        omega
      rw [same]
      exact ih

/-- The column found by the search is one at which the line can be cut. -/
theorem cutBefore_eq (line : List Char) (column : Nat) :
    cutBefore line (byteLength (takeBytes column line)) = .ok (takeBytes column line) := by
  -- The cut ends with a beginning of the line, and so between two characters.
  obtain ⟨after, whole⟩ := takeBytes_isPrefix column line
  rw [cutBefore, splitAtByte?_eq_some_iff.mpr ⟨whole.symm, rfl⟩]

/-- A column behind the end of the line stands for the end. -/
theorem takeBytes_min (column : Nat) (line : List Char) :
    takeBytes (min column (byteLength line)) line = takeBytes column line := by
  -- No beginning of the line is longer than the line.
  apply takeBytes_congr
  rintro beginning ⟨after, rfl⟩
  rw [byteLength_append]
  omega

/-- A reading in 32 bits of one position meets no fault and gives what the unpacked table gives. -/
structure Agrees (packed : PackedTable) (table : LineTable) (text : List Char)
    (position : Position) : Prop where
  /-- The line lies at the same offsets. -/
  range : ∃ found, packed.lineRange text position.line = .ok found ∧
    found.map PackedRange.unpack = table.lineRange? text position.line
  /-- The same line is read. -/
  line : packed.lineText text position.line = .ok (table.lineText? text position.line)
  /-- The same part of it stands before the position. -/
  before : packed.textBefore text position = .ok (table.textBefore? text position)

/-- A table that fits in 32 bits is read in them as it is read without a limit. -/
theorem agrees_pack {table : LineTable} (ascends : table.Ascends)
    (short : table.length < UInt32.size) (text : List Char) (position : Position) :
    (pack table).Agrees table text position := by
  have line := lineText_pack ascends short text position.line
  refine ⟨lineRange_pack ascends short text position.line, line, ?_⟩
  rw [textBefore, line, LineTable.textBefore?]
  cases table.lineText? text position.line with
  | none => rfl
  | some found =>
    -- The search for a boundary finds where the line is cut.
    simp only [bind, Except.bind, clampBack_eq, cutBefore_eq, takeBytes_min]
    rfl

/-- The table of a text that is not too long is packed without loss. -/
theorem ofText_eq {text : List Char} (short : byteLength text < UInt32.size) :
    ofText text = .ok (pack (LineTable.ofText text)) :=
  -- The length is the only thing that is checked.
  if_pos short

end PackedTable

end SymbolAssist
