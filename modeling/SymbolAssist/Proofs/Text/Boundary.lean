import SymbolAssist.Proofs.Text.Bytes

/-! Where a text may be cut: between two of its characters, which its bytes show as well. -/

namespace SymbolAssist.Text

/-- An offset is a boundary if the text falls into two whole texts there. -/
def IsBoundary (text : List Char) (offset : Nat) : Prop :=
  ∃ before after, text = before ++ after ∧ byteLength before = offset

/-- The bytes of a text in UTF-8. -/
def utf8 (text : List Char) : List UInt8 :=
  text.flatMap String.utf8EncodeChar

/-- A boundary as the bytes show it: a character starts at the offset, or the text ends there. -/
def opensAt (text : List Char) (offset : Nat) : Bool :=
  match (utf8 text)[offset]? with
  | some byte => decide byte.IsUTF8FirstByte
  | none => decide (offset = (utf8 text).length)

section Cut

variable {char : Char} {text rest before after : List Char} {offset : Nat}

/-- A cut gives two texts that make up the whole, the first as long as the offset says. -/
theorem splitAtByte?_eq_some_iff :
    splitAtByte? offset text = some (before, after) ↔
      text = before ++ after ∧ byteLength before = offset := by
  constructor
  · intro cut
    -- The cut is followed character by character, with less of the offset left each time.
    induction text generalizing offset before with
    | nil =>
      rw [splitAtByte?] at cut
      split at cut
      · rename_i zero
        cases cut
        exact ⟨rfl, zero.symm⟩
      · cases cut
    | cons char rest ih =>
      rw [splitAtByte?] at cut
      split at cut
      · rename_i zero
        cases cut
        exact ⟨rfl, zero.symm⟩
      · split at cut
        · -- The first character goes to the left side, and the rest is cut at what is left.
          rename_i fits
          obtain ⟨⟨left, right⟩, later, same⟩ := Option.map_eq_some_iff.mp cut
          cases same
          obtain ⟨rfl, measured⟩ := ih later
          refine ⟨rfl, ?_⟩
          rw [byteLength, measured]
          omega
        · cases cut
  · rintro ⟨rfl, rfl⟩
    have whole := splitAtByte?_append before after 0
    simpa using whole

/-- A text can be cut exactly at its boundaries. -/
theorem splitAtByte?_isSome_iff : (splitAtByte? offset text).isSome ↔ IsBoundary text offset := by
  -- The two parts of a cut are what makes the offset a boundary.
  rw [Option.isSome_iff_exists]
  constructor
  · rintro ⟨⟨before, after⟩, cut⟩
    exact ⟨before, after, splitAtByte?_eq_some_iff.mp cut⟩
  · rintro ⟨before, after, parts⟩
    exact ⟨(before, after), splitAtByte?_eq_some_iff.mpr parts⟩

/-- The boundaries of a text are its start and, moved by the first character, those of the rest. -/
theorem isBoundary_cons_iff : IsBoundary (char :: rest) offset ↔
    offset = 0 ∨ char.utf8Size ≤ offset ∧ IsBoundary rest (offset - char.utf8Size) := by
  constructor
  · -- The left side is empty, or it opens with the first character.
    rintro ⟨before, after, parts, measured⟩
    cases before with
    | nil => exact .inl measured.symm
    | cons first others =>
      obtain ⟨rfl, rfl⟩ := List.cons.inj parts
      rw [byteLength] at measured
      exact .inr ⟨by omega, others, after, rfl, by omega⟩
  · rintro (rfl | ⟨fits, before, after, rfl, measured⟩)
    · exact ⟨[], char :: rest, rfl, rfl⟩
    · refine ⟨char :: before, after, rfl, ?_⟩
      rw [byteLength]
      omega

/-- Every text starts at a boundary. -/
theorem isBoundary_zero (text : List Char) : IsBoundary text 0 :=
  -- Nothing stands before the start.
  ⟨[], text, rfl, rfl⟩

/-- No boundary lies behind the end of the text. -/
theorem IsBoundary.le (boundary : IsBoundary text offset) : offset ≤ byteLength text := by
  -- What stands before the boundary is a part of the text.
  obtain ⟨before, after, rfl, rfl⟩ := boundary
  rw [byteLength_append]
  omega

/-- Of two beginnings of a text, the one that takes fewer bytes begins the other. -/
theorem isPrefix_of_byteLength_le {first second : List Char} (begins : first <+: text)
    (other : second <+: text) (shorter : byteLength first ≤ byteLength second) :
    first <+: second := by
  rcases List.prefix_or_prefix_of_prefix begins other with within | ⟨more, rfl⟩
  · exact within
  · -- What the first one has more would take bytes, so there is nothing of it.
    cases more with
    | nil => simp
    | cons char more =>
      have positive : 0 < char.utf8Size := char.utf8Size_pos
      rw [byteLength_append, byteLength] at shorter
      omega

/-- Two limits cut a text at the same place if they admit the same beginnings of it. -/
theorem takeBytes_congr {first second : Nat}
    (same : ∀ beginning, beginning <+: text →
      (byteLength beginning ≤ first ↔ byteLength beginning ≤ second)) :
    takeBytes first text = takeBytes second text := by
  have begins := takeBytes_isPrefix first text
  have other := takeBytes_isPrefix second text
  -- Each of the two keeps to the other limit as well, so each begins the other.
  have forth := isPrefix_takeBytes begins ((same _ begins).mp (byteLength_takeBytes_le first text))
  have back := isPrefix_takeBytes other ((same _ other).mpr (byteLength_takeBytes_le second text))
  exact forth.eq_of_length_le back.length_le

/-- What lies between two offsets is a part of the text that starts and ends there. -/
theorem slice?_eq_some_iff {middle : List Char} {start stop : Nat} (ordered : start ≤ stop) :
    slice? text start stop = some middle ↔ ∃ before after, text = before ++ middle ++ after ∧
      byteLength before = start ∧ byteLength (before ++ middle) = stop := by
  constructor
  · -- The first cut is made at the start, and the second one in what is behind it.
    intro sliced
    simp only [slice?, Option.bind_eq_bind, Option.bind_eq_some_iff, Prod.exists, Option.pure_def,
      Option.some.injEq, exists_and_right, exists_eq_right] at sliced
    obtain ⟨before, rest, first, after, second⟩ := sliced
    obtain ⟨rfl, rfl⟩ := splitAtByte?_eq_some_iff.mp first
    obtain ⟨rfl, measured⟩ := splitAtByte?_eq_some_iff.mp second
    refine ⟨before, after, by simp, rfl, ?_⟩
    rw [byteLength_append]
    omega
  · rintro ⟨before, after, rfl, rfl, rfl⟩
    rw [byteLength_append]
    exact slice?_middle before middle after

/-- A range has a text exactly when both its ends are boundaries. -/
theorem slice?_isSome_iff {start stop : Nat} (ordered : start ≤ stop) :
    (slice? text start stop).isSome ↔ IsBoundary text start ∧ IsBoundary text stop := by
  rw [Option.isSome_iff_exists]
  constructor
  · rintro ⟨middle, sliced⟩
    obtain ⟨before, after, rfl, rfl, rfl⟩ := (slice?_eq_some_iff ordered).mp sliced
    exact ⟨⟨before, middle ++ after, by simp, rfl⟩, ⟨before ++ middle, after, rfl, rfl⟩⟩
  · rintro ⟨⟨before, rest, parts, rfl⟩, ⟨longer, after, rfl, rfl⟩⟩
    -- The shorter beginning begins the longer one, and the middle is what the longer one has more.
    obtain ⟨middle, rfl⟩ : before <+: longer :=
      isPrefix_of_byteLength_le ⟨rest, parts.symm⟩ ⟨after, rfl⟩ ordered
    exact ⟨middle, (slice?_eq_some_iff ordered).mpr ⟨before, after, rfl, rfl, rfl⟩⟩

/-- What starts at an offset of a text is its first character, or starts in the rest of it. -/
theorem charAtByte?_cons : charAtByte? (char :: rest) offset =
    if offset = 0 then some char
    else if char.utf8Size ≤ offset then charAtByte? rest (offset - char.utf8Size) else none := by
  -- The cut is looked for behind the first character, unless it is the one asked for.
  rw [charAtByte?, splitAtByte?]
  split
  · rfl
  · split
    · cases cut : splitAtByte? (offset - char.utf8Size) rest with
      | none => simp [charAtByte?, cut]
      | some parts => simp [charAtByte?, cut]
    · rfl

end Cut

section Bytes

variable {char : Char} {text rest : List Char} {offset : Nat}

/-- A text has as many bytes as its length in bytes says. -/
theorem length_utf8 (text : List Char) : (utf8 text).length = byteLength text := by
  -- Each character is encoded with as many bytes as its size says.
  induction text with
  | nil => rfl
  | cons char rest ih =>
    rw [byteLength, ← ih, ← String.length_utf8EncodeChar, ← List.length_append]
    rfl

/-- The bytes of the first character come before those of the rest. -/
theorem getElem?_utf8_cons : (utf8 (char :: rest))[offset]? =
    if offset < char.utf8Size then (String.utf8EncodeChar char)[offset]?
    else (utf8 rest)[offset - char.utf8Size]? := by
  -- The bytes of the text are those of its characters one after the other.
  rw [← String.length_utf8EncodeChar, ← List.getElem?_append]
  rfl

/-- Of the bytes of a character only the first can start one. -/
theorem isUTF8FirstByte_iff {byte : UInt8}
    (found : (String.utf8EncodeChar char)[offset]? = some byte) :
    byte.IsUTF8FirstByte ↔ offset = 0 := by
  -- This is known of the bytes of one encoded character.
  obtain ⟨within, rfl⟩ := List.getElem?_eq_some_iff.mp found
  exact UInt8.isUTF8FirstByte_getElem_utf8EncodeChar

/-- The bytes show the boundaries of a text. -/
theorem opensAt_iff : opensAt text offset ↔ IsBoundary text offset := by
  -- The first character is passed over, so the offset stays quantified over.
  induction text generalizing offset with
  | nil =>
    rw [← splitAtByte?_isSome_iff, splitAtByte?]
    by_cases zero : offset = 0 <;> simp [opensAt, utf8, zero]
  | cons char rest ih =>
    have positive : 0 < char.utf8Size := char.utf8Size_pos
    rw [isBoundary_cons_iff, ← ih, opensAt, getElem?_utf8_cons]
    rcases Nat.lt_or_ge offset char.utf8Size with inside | behind
    · -- Inside the first character, only its first byte is a boundary.
      have within : offset < (String.utf8EncodeChar char).length := by
        rwa [String.length_utf8EncodeChar]
      have beyond : ¬ char.utf8Size ≤ offset := by omega
      rw [if_pos inside, List.getElem?_eq_getElem within]
      have starts := isUTF8FirstByte_iff (List.getElem?_eq_getElem within)
      simp only [beyond, false_and, or_false, decide_eq_true_eq, starts]
    · -- Behind it, the rest of the text decides, and the two ends agree.
      have outside : ¬ offset < char.utf8Size := by omega
      have nonzero : offset ≠ 0 := by omega
      have ends : offset = byteLength (char :: rest) ↔
          offset - char.utf8Size = byteLength rest := by
        rw [byteLength]
        omega
      rw [if_neg outside, opensAt]
      simp only [length_utf8, ends, nonzero, behind, false_or, true_and]

/-- A carriage return is a byte of itself alone. -/
theorem getElem?_utf8EncodeChar_eq_return_iff :
    (String.utf8EncodeChar char)[offset]? = some 13 ↔ offset = 0 ∧ char = '\r' := by
  constructor
  · intro found
    -- The byte starts a character, so it is the first one.
    obtain rfl := (isUTF8FirstByte_iff found).mp (by decide)
    refine ⟨rfl, ?_⟩
    have sameByte : ∀ code : Nat, some (UInt8.ofNat code) = some 13 → code % 256 = 13 :=
      fun code same => by simpa using congrArg UInt8.toNat (Option.some.inj same)
    rw [String.utf8EncodeChar] at found
    split at found
    · -- A character of one byte is that byte.
      have same := sameByte _ found
      apply Char.ext
      apply UInt32.toNat_inj.mp
      show char.val.toNat = 13
      omega
    · -- The longer encodings open with a byte that is larger.
      split at found
      · have same := sameByte _ found
        omega
      · split at found <;> have same := sameByte _ found <;> omega
  · rintro ⟨rfl, rfl⟩
    rfl

/-- The byte of a carriage return is found exactly where that character starts. -/
theorem getElem?_utf8_eq_return_iff :
    (utf8 text)[offset]? = some 13 ↔ charAtByte? text offset = some '\r' := by
  induction text generalizing offset with
  | nil =>
    rw [charAtByte?, splitAtByte?]
    by_cases zero : offset = 0 <;> simp [utf8, zero]
  | cons char rest ih =>
    have positive : 0 < char.utf8Size := char.utf8Size_pos
    rw [getElem?_utf8_cons, charAtByte?_cons]
    -- Inside the first character only its start counts, and behind it the rest of the text does.
    rcases Nat.lt_or_ge offset char.utf8Size with inside | behind
    · have beyond : ¬ char.utf8Size ≤ offset := by omega
      rw [if_pos inside, if_neg beyond, getElem?_utf8EncodeChar_eq_return_iff]
      by_cases zero : offset = 0 <;> simp [zero]
    · have outside : ¬ offset < char.utf8Size := by omega
      have nonzero : offset ≠ 0 := by omega
      rw [if_neg outside, if_neg nonzero, if_pos behind, ih]

end Bytes

end SymbolAssist.Text
