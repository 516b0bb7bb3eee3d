import SymbolAssist.TypeTag.Spelling

/-! Reading a written type, from the outermost form inwards. -/

namespace SymbolAssist

open Text

namespace Spelling

/-- A text behind a qualifier is shorter than the whole. -/
theorem length_of_qualified? {body rest : List Char} {qualifier : Qualifier}
    (found : qualified? body = some (qualifier, rest)) : rest.length < body.length := by
  -- What follows the qualifier starts behind the first blank, so that blank at least is taken off.
  unfold qualified? at found
  have bound := (List.dropWhile_suffix (l := body) fun char => !isBlank char).length_le
  split at found
  · cases found
  · next tail same =>
    rw [same, List.length_cons] at bound
    cases word : Qualifier.ofWord? (body.takeWhile fun char => !isBlank char) with
    | none => simp [word] at found
    | some qualifier =>
      simp only [word, Option.bind_eq_bind, Option.bind_some, Option.pure_def, Option.some.injEq,
        Prod.mk.injEq] at found
      rw [← found.2]
      omega

/-- No entry is longer than the text that was cut. -/
theorem length_of_mem_splitEntries {depth : Nat} {text entry : List Char}
    (member : entry ∈ splitEntries depth text) : entry.length ≤ text.length := by
  -- The depth changes along the text, so it stays quantified over.
  induction text generalizing depth entry with
  | nil => simp_all [splitEntries]
  | cons char rest ih =>
    rw [splitEntries] at member
    split at member
    · -- The cut drops the comma, so what is behind it is shorter already.
      rcases List.mem_cons.mp member with rfl | later
      · simp
      · have := ih later; simp; omega
    · -- The character lengthens the first entry only, and by as much as it lengthens the text.
      cases parts : splitEntries (nextDepth depth char) rest with
      | nil => simp [parts] at member
      | cons head tail =>
        rw [parts, List.modifyHead_cons] at member
        rcases List.mem_cons.mp member with rfl | later
        · have := @ih (nextDepth depth char) head (by simp [parts])
          simp; omega
        · have := @ih (nextDepth depth char) entry (by simp [parts, later])
          simp; omega

/-- What angle brackets enclose is shorter than the whole. -/
theorem length_of_angled? {body head inner : List Char}
    (found : angled? body = some (head, inner)) : inner.length < body.length := by
  -- Both brackets are taken off, the opening one with all that stands before it.
  unfold angled? at found
  have bound := (List.dropWhile_suffix (l := body) (· != '<')).length_le
  split at found
  · cases found
  · next tail same =>
    rw [same, List.length_cons] at bound
    split at found
    · simp only [Option.some.injEq, Prod.mk.injEq] at found
      rw [← found.2, List.length_dropLast]
      omega
    · cases found

/-- Every entry of a container is shorter than the whole. -/
theorem length_of_container? {body entry : List Char} {cls : ContainerClass}
    {entries : List (List Char)} (found : container? body = some (cls, entries))
    (member : entry ∈ entries) : entry.length < body.length := by
  -- Each of the three written forms takes off at least one character of its own.
  unfold container? at found
  split at found
  · -- Square brackets at the end are two characters more than the element.
    next element same =>
    simp only [Option.some.injEq, Prod.mk.injEq] at found
    rw [← found.2, List.mem_singleton] at member
    have measured := congrArg List.length same
    simp only [List.length_reverse, List.length_cons] at measured
    rw [member, List.length_reverse]
    omega
  · split at found
    · -- An entry is at most what the angle brackets enclose.
      next head inner angled =>
      cases known : ContainerClass.ofName? (trim head) with
      | none => simp [known] at found
      | some cls =>
        simp only [known, Option.bind_eq_bind, Option.bind_some, Option.pure_def,
          Option.some.injEq, Prod.mk.injEq] at found
        rw [← found.2] at member
        exact Nat.lt_of_le_of_lt (length_of_mem_splitEntries member) (length_of_angled? angled)
    · -- A bare class name has no entries at all.
      cases known : ContainerClass.ofName? body with
      | none => simp [known] at found
      | some cls =>
        simp only [known, Option.bind_eq_bind, Option.bind_some, Option.pure_def,
          Option.some.injEq, Prod.mk.injEq] at found
        simp [← found.2] at member

/-- The text behind a qualifier is shorter than the whole. -/
theorem length_of_qualified {body rest : List Char} {qualifier : Qualifier}
    (found : ofBody body = .qualified qualifier rest) : rest.length < body.length := by
  -- Only a text that opens with a qualifier is taken for a qualified one.
  unfold ofBody at found
  split at found
  · next inner same =>
    simp only [Spelling.qualified.injEq] at found
    rw [found.1, found.2] at same
    exact length_of_qualified? same
  · split at found <;> simp at found

/-- Every entry of a container is shorter than the whole. -/
theorem length_of_mem_container {body entry : List Char} {cls : ContainerClass}
    {entries : List (List Char)} (found : ofBody body = .container cls entries)
    (member : entry ∈ entries) : entry.length < body.length := by
  -- A container is looked for only where no qualifier was found.
  unfold ofBody at found
  split at found
  · simp at found
  · split at found
    · next same =>
      simp only [Spelling.container.injEq] at found
      rw [found.1, found.2] at same
      exact length_of_container? same member
    · simp at found

end Spelling

/-- Trimming never makes a text longer. -/
theorem Text.length_trim_le (text : List Char) : (trim text).length ≤ text.length := by
  -- Blanks are taken off at the front first and then at the end, and neither step adds anything.
  have front := (List.dropWhile_suffix (l := text) isBlank).length_le
  have back := (List.dropWhile_suffix (l := (trimStart text).reverse) isBlank).length_le
  simp only [trim, trimEnd, dropEndWhile, List.length_reverse] at back ⊢
  unfold trimStart at back ⊢
  omega

namespace TypeTag

/-- Reads a written type, where a blank text is no type at all. -/
def parseChars (text : List Char) : Option TypeTag :=
  if trim text = [] then none
  else
    match form : Spelling.ofBody (trim text) with
    -- Of several qualifiers the outermost one counts.
    | .qualified qualifier rest =>
      have : rest.length < text.length :=
        Nat.lt_of_lt_of_le (Spelling.length_of_qualified form) (length_trim_le text)
      (parseChars rest).map (withQualifier qualifier)
    -- Blank entries are no parameters.
    | .container cls entries =>
      some (.container none cls (entries.attach.filterMap fun ⟨entry, member⟩ =>
        have : entry.length < text.length :=
          Nat.lt_of_lt_of_le (Spelling.length_of_mem_container form member) (length_trim_le text)
        parseChars entry))
    | .named name => some (.named none (String.ofList name))
termination_by text.length

/-- The parts of a written type are read in the same way as the whole. -/
theorem parseChars_eq (text : List Char) :
    parseChars text =
      if trim text = [] then none
      else
        match Spelling.ofBody (trim text) with
        | .qualified qualifier rest => (parseChars rest).map (withQualifier qualifier)
        | .container cls entries => some (.container none cls (entries.filterMap parseChars))
        | .named name => some (.named none (String.ofList name)) := by
  -- The bounds carried along for termination play no part in the value.
  rw [parseChars]
  split
  · rfl
  · split
    · next form => simp [form]
    · next form => simp [form]
    · next form => simp [form]

/-- Reads a written type. -/
def parse (text : String) : Option TypeTag :=
  parseChars text.toList

/-- The normal text of a written type, which is empty for a blank one. -/
def normalize (text : String) : String :=
  match parse text with
  | some tag => tag.text
  | none => ""

/-- A type under its name as it stands, without a look at how it is written. -/
def ofName (name : String) : TypeTag :=
  .named none name

end TypeTag

end SymbolAssist
