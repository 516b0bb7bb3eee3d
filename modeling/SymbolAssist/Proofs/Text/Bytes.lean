import SymbolAssist.Text.Bytes

/-! Cutting a text at the byte offsets of its own parts gives those parts back. -/

namespace SymbolAssist.Text

/-- The bytes of two texts add up. -/
@[simp] theorem byteLength_append (first second : List Char) :
    byteLength (first ++ second) = byteLength first + byteLength second := by
  -- The bytes are counted character by character.
  induction first with
  | nil => simp [byteLength]
  | cons char rest ih => simp [byteLength, ih, Nat.add_assoc]

/-- Every text can be cut at its start. -/
@[simp] theorem splitAtByte?_zero (text : List Char) : splitAtByte? 0 text = some ([], text) := by
  -- At offset zero the cut is made before the first character is looked at.
  cases text <;> simp [splitAtByte?]

/-- An offset behind a part of the text cuts only what follows that part. -/
theorem splitAtByte?_append (before rest : List Char) (offset : Nat) :
    splitAtByte? (byteLength before + offset) (before ++ rest) =
      (splitAtByte? offset rest).map fun (left, right) => (before ++ left, right) := by
  induction before with
  | nil => simp [byteLength]
  | cons char before ih =>
    -- The first character fits in front of the offset and leaves a smaller one.
    have positive : 0 < char.utf8Size := char.utf8Size_pos
    have nonzero : ¬ char.utf8Size + byteLength before + offset = 0 := by omega
    have fits : char.utf8Size ≤ char.utf8Size + byteLength before + offset := by omega
    have left : char.utf8Size + byteLength before + offset - char.utf8Size =
        byteLength before + offset := by omega
    simp only [byteLength, List.cons_append, splitAtByte?, if_neg nonzero, if_pos fits, left, ih,
      Option.map_map]
    rfl

/-- A part of a text is what lies between its two offsets. -/
theorem slice?_middle (before middle after : List Char) :
    slice? (before ++ middle ++ after) (byteLength before) (byteLength before + byteLength middle) =
      some middle := by
  -- The first cut leaves the part in front, and the second one takes it off.
  have first := splitAtByte?_append before (middle ++ after) 0
  have second := splitAtByte?_append middle after 0
  simp only [Nat.add_zero, splitAtByte?_zero, Option.map_some, List.append_nil] at first second
  simp [slice?, List.append_assoc, first, second]

/-- The byte before the end of a part is a carriage return exactly when its last character is one. -/
theorem charAtByte?_last (before middle after : List Char) (last : Char) :
    charAtByte? (before ++ (middle ++ [last]) ++ after)
        (byteLength before + byteLength (middle ++ [last]) - 1) = some '\r' ↔ last = '\r' := by
  have positive : 0 < last.utf8Size := last.utf8Size_pos
  -- The offset is one byte short of the end of the last character.
  have offset : byteLength before + byteLength (middle ++ [last]) - 1 =
      byteLength (before ++ middle) + (last.utf8Size - 1) := by
    simp only [byteLength_append, byteLength]
    omega
  have shape : before ++ (middle ++ [last]) ++ after = (before ++ middle) ++ (last :: after) := by
    simp
  rw [offset, shape, charAtByte?, splitAtByte?_append]
  by_cases single : last.utf8Size = 1
  · simp [single]
  · -- A longer character is cut in its middle, and a carriage return is not longer.
    have inside : ¬ last.utf8Size - 1 = 0 := by omega
    have beyond : ¬ last.utf8Size ≤ last.utf8Size - 1 := by omega
    have other : last ≠ '\r' := by
      rintro rfl
      exact single (by decide)
    simp [splitAtByte?, inside, beyond, other]

/-- Cutting a text behind one of its parts gives that part. -/
theorem takeBytes_append (first second : List Char) :
    takeBytes (byteLength first) (first ++ second) = first := by
  induction first with
  | nil =>
    -- No character takes zero bytes, so the cut is made at once.
    cases second with
    | nil => rfl
    | cons char rest =>
      have positive : 0 < char.utf8Size := char.utf8Size_pos
      rw [List.nil_append, byteLength, takeBytes, if_neg (by omega)]
  | cons char rest ih => simp [takeBytes, byteLength, ih]

/-- A cut text is a beginning of the whole one. -/
theorem takeBytes_isPrefix (limit : Nat) (text : List Char) : takeBytes limit text <+: text := by
  -- A character is kept only if all before it are.
  induction text generalizing limit with
  | nil => exact List.prefix_rfl
  | cons char rest ih =>
    rw [takeBytes]
    split
    · exact List.cons_prefix_cons.mpr ⟨rfl, ih _⟩
    · exact List.nil_prefix

/-- A cut text keeps to the limit. -/
theorem byteLength_takeBytes_le (limit : Nat) (text : List Char) :
    byteLength (takeBytes limit text) ≤ limit := by
  induction text generalizing limit with
  | nil => exact Nat.zero_le limit
  | cons char rest ih =>
    rw [takeBytes]
    split
    · -- What follows the first character has the rest of the limit for itself.
      have within := ih (limit - char.utf8Size)
      rw [byteLength]
      omega
    · exact Nat.zero_le limit

/-- Every beginning of a text that keeps to the limit survives the cut. -/
theorem isPrefix_takeBytes {limit : Nat} {beginning text : List Char} (begins : beginning <+: text)
    (within : byteLength beginning ≤ limit) : beginning <+: takeBytes limit text := by
  induction text generalizing limit beginning with
  | nil => exact begins
  | cons char rest ih =>
    cases beginning with
    | nil => exact List.nil_prefix
    | cons first others =>
      obtain ⟨rfl, onwards⟩ := List.cons_prefix_cons.mp begins
      rw [byteLength] at within
      -- The first character fits, and the others keep to what it leaves of the limit.
      rw [takeBytes, if_pos (by omega)]
      exact List.cons_prefix_cons.mpr ⟨rfl, ih onwards (by omega)⟩

end SymbolAssist.Text
