import Mathlib.Computability.Language
import SymbolAssist.Proofs.Document.Cursor
import SymbolAssist.Proofs.Text.Identifier

/-! An argument is replaced from the leftmost place where the rest of the typed text has its form. -/

namespace SymbolAssist

open Text

namespace Cursor

open scoped Computability

/-- The texts of one accepted character. -/
def oneOf (accepts : Char → Bool) : Language Char :=
  {text | ∃ char, accepts char ∧ text = [char]}

/-- The bracket and the comma, behind which an argument stands. -/
def opensArgument (char : Char) : Bool :=
  char == '(' || char == ','

/-- An argument as it is typed: what opens it, if that is there, then blanks, then path characters. -/
def argumentForm : Language Char :=
  (1 + oneOf opensArgument) * (oneOf isBlank)∗ * (oneOf isPathChar * (oneOf isPathChar)∗)

/-- The byte offsets from which the typed text, up to its end, has the form of an argument. -/
def argumentOffsets (typed : List Char) : Set Nat :=
  {offset | ∃ before argument,
    typed = before ++ argument ∧ byteLength before = offset ∧ argument ∈ argumentForm}

section Form

variable {accepts : Char → Bool} {text : List Char}

/-- Any number of accepted characters is a text in which all are accepted. -/
theorem mem_kstar_oneOf_iff : text ∈ (oneOf accepts)∗ ↔ ∀ char ∈ text, accepts char := by
  constructor
  · intro repeated char member
    obtain ⟨parts, rfl, single⟩ := Language.mem_kstar.mp repeated
    obtain ⟨part, listed, inside⟩ := List.mem_flatten.mp member
    obtain ⟨other, accepted, rfl⟩ := single part listed
    rw [List.mem_singleton.mp inside]
    exact accepted
  · intro accepted
    -- The text is put together from its characters one by one.
    rw [← List.flatMap_singleton' text, List.flatMap_def]
    apply Language.join_mem_kstar
    intro part listed
    obtain ⟨char, member, rfl⟩ := List.mem_map.mp listed
    exact ⟨char, accepted char member, rfl⟩

/-- At least one accepted character is such a text that is not empty. -/
theorem mem_oneOf_mul_kstar_iff :
    text ∈ oneOf accepts * (oneOf accepts)∗ ↔ text ≠ [] ∧ ∀ char ∈ text, accepts char := by
  -- One character and any number of others is a list with a first member.
  rw [Language.mem_mul]
  constructor
  · rintro ⟨_, ⟨first, accepted, rfl⟩, rest, repeated, rfl⟩
    refine ⟨by simp, ?_⟩
    simpa using ⟨accepted, mem_kstar_oneOf_iff.mp repeated⟩
  · rintro ⟨nonempty, accepted⟩
    cases text with
    | nil => exact absurd rfl nonempty
    | cons first rest =>
      obtain ⟨here, later⟩ := List.forall_mem_cons.mp accepted
      exact ⟨[first], ⟨first, here, rfl⟩, rest, mem_kstar_oneOf_iff.mpr later, rfl⟩

/-- An argument taken apart into what opens it, blanks, and a word of path characters. -/
theorem mem_argumentForm_iff : text ∈ argumentForm ↔
    ∃ opener blanks word, text = opener ++ blanks ++ word ∧
      (opener = [] ∨ ∃ char, opensArgument char ∧ opener = [char]) ∧
      (∀ char ∈ blanks, isBlank char) ∧ word ≠ [] ∧ ∀ char ∈ word, isPathChar char := by
  -- The form is a product of three, whose factors are taken apart one after the other.
  rw [argumentForm, Language.mem_mul]
  constructor
  · rintro ⟨_, front, word, path, rfl⟩
    obtain ⟨opener, opens, blanks, blank, rfl⟩ := Language.mem_mul.mp front
    exact ⟨opener, blanks, word, rfl, opens, mem_kstar_oneOf_iff.mp blank,
      mem_oneOf_mul_kstar_iff.mp path⟩
  · rintro ⟨opener, blanks, word, rfl, opens, blank, path⟩
    exact ⟨opener ++ blanks, Language.append_mem_mul opens (mem_kstar_oneOf_iff.mpr blank), word,
      mem_oneOf_mul_kstar_iff.mpr path, rfl⟩

end Form

/-- What opens an argument is neither part of a path nor blank. -/
theorem separates_of_opensArgument {char : Char} (opens : opensArgument char) :
    isPathChar char = false ∧ isBlank char = false := by
  -- There are two such characters, and each is looked up in the tables.
  simp only [opensArgument, Bool.or_eq_true, beq_iff_eq] at opens
  rcases opens with rfl | rfl
  · decide +kernel
  · decide +kernel

section Start

variable {typed before : List Char}

/-- The typed text without its fragment and the blanks before that. -/
def argumentHead (typed : List Char) : List Char :=
  trimEnd (dropEndWhile isPathChar typed)

/-- Where the argument is opened, it is replaced together with what opens it. -/
theorem argumentStart_of_opened (named : fragment typed ≠ []) {char : Char}
    (opens : opensArgument char) (head : argumentHead typed = before ++ [char]) :
    argumentStart typed = byteLength before := by
  -- The head ends in the opening character, which is dropped with what follows it.
  rw [argumentStart, if_neg named]
  simp only [show trimEnd (dropEndWhile isPathChar typed) = before ++ [char] from head,
    List.getLast?_concat, List.dropLast_concat]
  simp only [opensArgument, Bool.or_eq_true, beq_iff_eq] at opens
  rcases opens with rfl | rfl <;> rfl

/-- Where nothing opens the argument, it is replaced together with the blanks before it. -/
theorem argumentStart_of_unopened (named : fragment typed ≠ [])
    (closed : ∀ char, (argumentHead typed).getLast? = some char → opensArgument char = false) :
    argumentStart typed = byteLength (argumentHead typed) := by
  rw [argumentStart, if_neg named]
  simp only [show trimEnd (dropEndWhile isPathChar typed) = argumentHead typed from rfl]
  -- The bracket and the comma are excluded, which leaves the last branch.
  split
  · rename_i last
    exact absurd (closed _ last) (by decide)
  · rename_i last
    exact absurd (closed _ last) (by decide)
  · rfl

/-- In front of the fragment and the blanks, the typed text ends with what is replaced besides. -/
theorem exists_argumentHead (named : fragment typed ≠ []) :
    ∃ before opener, argumentHead typed = before ++ opener ∧
      (opener = [] ∨ ∃ char, opensArgument char ∧ opener = [char]) ∧
      byteLength before = argumentStart typed := by
  -- Either the head ends in what opens an argument, or all of it stays.
  by_cases opened : ∃ before char, opensArgument char ∧ argumentHead typed = before ++ [char]
  · obtain ⟨before, char, opens, head⟩ := opened
    exact ⟨before, [char], head, .inr ⟨char, opens, rfl⟩,
      (argumentStart_of_opened named opens head).symm⟩
  · refine ⟨argumentHead typed, [], by simp, .inl rfl, (argumentStart_of_unopened named ?_).symm⟩
    intro char last
    obtain ⟨before, head⟩ := List.getLast?_eq_some_iff.mp last
    exact Bool.eq_false_iff.mpr fun opens => opened ⟨before, char, opens, head⟩

/-- From its start on, an argument has its form. -/
theorem argumentStart_mem (named : fragment typed ≠ []) :
    argumentStart typed ∈ argumentOffsets typed := by
  obtain ⟨before, opener, head, opening, measured⟩ := exists_argumentHead named
  let blanks := takeEndWhile isBlank (dropEndWhile isPathChar typed)
  -- The fragment and the blanks are put back one after the other.
  have front : argumentHead typed ++ blanks = dropEndWhile isPathChar typed :=
    dropEndWhile_append_takeEndWhile isBlank _
  have whole : dropEndWhile isPathChar typed ++ fragment typed = typed :=
    dropEndWhile_append_takeEndWhile isPathChar typed
  refine ⟨before, opener ++ blanks ++ fragment typed, ?_, measured, ?_⟩
  · rw [← List.append_assoc, ← List.append_assoc, ← head, front, whole]
  · exact mem_argumentForm_iff.mpr ⟨opener, blanks, fragment typed, rfl, opening,
      fun _ => accepts_of_mem_takeEndWhile, named, fun _ => accepts_of_mem_takeEndWhile⟩

/-- A text that ends in an argument ends in a fragment. -/
theorem fragment_ne_nil_of_mem {argument : List Char} (form : argument ∈ argumentForm) :
    fragment (before ++ argument) ≠ [] := by
  -- The word at the end of an argument is not empty, and its last character belongs to a path.
  obtain ⟨opener, blanks, word, rfl, _, _, nonempty, path⟩ := mem_argumentForm_iff.mp form
  apply fragment_ne_nil_iff.mpr
  refine ⟨word.getLast nonempty, ?_, path _ (List.getLast_mem nonempty)⟩
  rw [← List.append_assoc, List.getLast?_append_of_ne_nil _ nonempty,
    List.getLast?_eq_some_getLast nonempty]

/-- What opens an argument is the last thing in front of it. -/
theorem argumentHead_of_opener {char : Char} {blanks word : List Char} (opens : opensArgument char)
    (blank : ∀ char ∈ blanks, isBlank char) (path : ∀ char ∈ word, isPathChar char) :
    argumentHead (before ++ ([char] ++ blanks ++ word)) = before ++ [char] := by
  obtain ⟨notPath, notBlank⟩ := separates_of_opensArgument opens
  have shape : before ++ ([char] ++ blanks ++ word) = before ++ [char] ++ blanks ++ word := by simp
  -- The word goes no further left than to a blank or to what opens the argument.
  have unnamed : ∀ item, (before ++ [char] ++ blanks).getLast? = some item →
      isPathChar item = false := by
    intro item last
    rw [List.getLast?_append] at last
    cases ending : blanks.getLast? with
    | none =>
      obtain rfl : char = item := by simpa [ending] using last
      exact notPath
    | some final =>
      obtain rfl : final = item := by simpa [ending] using last
      exact isPathChar_of_isBlank (blank final (List.mem_of_getLast? ending))
  have solid : ∀ item, (before ++ [char]).getLast? = some item → isBlank item = false := by
    simp [notBlank]
  rw [shape, argumentHead, dropEndWhile_append path, dropEndWhile_eq_self unnamed, trimEnd,
    dropEndWhile_append blank, dropEndWhile_eq_self solid]

/-- Blanks and a word are taken off, and more may be. -/
theorem argumentHead_isPrefix {blanks word : List Char} (blank : ∀ char ∈ blanks, isBlank char)
    (path : ∀ char ∈ word, isPathChar char) : argumentHead (before ++ (blanks ++ word)) <+: before := by
  -- The word goes with the fragment and the blanks with the trimming; both may take more than these.
  rw [argumentHead, ← List.append_assoc, dropEndWhile_append path]
  calc trimEnd (dropEndWhile isPathChar (before ++ blanks))
    _ <+: trimEnd (before ++ blanks) :=
      dropEndWhile_mono (dropEndWhile_isPrefix isPathChar _)
    _ = trimEnd before := dropEndWhile_append blank
    _ <+: before := trimEnd_isPrefix before

/-- No argument that ends the typed text starts further left. -/
theorem argumentStart_le {argument : List Char} (form : argument ∈ argumentForm) :
    argumentStart (before ++ argument) ≤ byteLength before := by
  have named : fragment (before ++ argument) ≠ [] := fragment_ne_nil_of_mem form
  obtain ⟨opener, blanks, word, rfl, opening, blank, _, path⟩ := mem_argumentForm_iff.mp form
  rcases opening with rfl | ⟨char, opens, rfl⟩
  · -- The start is at the end of what is left or before it, and that is not behind the given place.
    obtain ⟨further, opener, parts, _, measured⟩ := exists_argumentHead named
    have left : argumentHead (before ++ ([] ++ blanks ++ word)) <+: before :=
      argumentHead_isPrefix blank path
    rw [parts] at left
    obtain ⟨rest, rfl⟩ := left
    rw [← measured, byteLength_append, byteLength_append]
    omega
  · exact Nat.le_of_eq
      (argumentStart_of_opened named opens (argumentHead_of_opener opens blank path))

end Start

/-- An argument is replaced from the leftmost offset that has its form, or from the end if none has. -/
theorem argumentStart_leftmost (typed : List Char) :
    IsLeast (argumentOffsets typed) (argumentStart typed) ∨
      argumentOffsets typed = ∅ ∧ argumentStart typed = byteLength typed := by
  by_cases named : fragment typed = []
  · -- Without a fragment there is no argument, and the cursor stays where it is.
    refine .inr ⟨Set.eq_empty_iff_forall_notMem.mpr ?_, if_pos named⟩
    rintro offset ⟨before, argument, rfl, _, form⟩
    exact fragment_ne_nil_of_mem form named
  · refine .inl ⟨argumentStart_mem named, ?_⟩
    rintro offset ⟨before, argument, rfl, rfl, form⟩
    exact argumentStart_le form

end Cursor

end SymbolAssist
