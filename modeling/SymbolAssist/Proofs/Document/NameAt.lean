import SymbolAssist.Host
import SymbolAssist.Proofs.Document.Cursor
import SymbolAssist.Proofs.Document.LineTable
import SymbolAssist.Proofs.Text.Boundary
import SymbolAssist.Proofs.Text.Identifier

/-! A cursor anywhere in a name finds the whole name, and shows what is shown for it. -/

namespace SymbolAssist

open Text

namespace Cursor

section Run

variable {accepts : Char → Bool} {before run after : List Char} {column : Nat}

/-- A cursor in the middle of a line stands behind what is before the middle and a part of that. -/
theorem exists_cut (after : List Char) (low : byteLength before ≤ column)
    (high : column ≤ byteLength (before ++ run)) :
    ∃ left right, run = left ++ right ∧
      takeBytes column (before ++ run ++ after) = before ++ left := by
  have begins := takeBytes_isPrefix column (before ++ run ++ after)
  obtain ⟨left, whole⟩ : before <+: takeBytes column (before ++ run ++ after) :=
    isPrefix_takeBytes ⟨run ++ after, by simp⟩ low
  -- What is cut off keeps to the column, so it ends in the middle as well.
  have short : takeBytes column (before ++ run ++ after) <+: before ++ run :=
    isPrefix_of_byteLength_le begins (List.prefix_append _ after)
      (Nat.le_trans (byteLength_takeBytes_le column _) high)
  rw [← whole, List.prefix_append_right_inj] at short
  obtain ⟨right, rfl⟩ := short
  exact ⟨left, right, rfl, whole.symm⟩

/-- A cursor anywhere in a run of accepted characters, or at one of its ends, finds the whole run. -/
theorem runAt_within (front : ∀ char, before.getLast? = some char → accepts char = false)
    (inside : ∀ char ∈ run, accepts char)
    (back : ∀ char, after.head? = some char → accepts char = false) (nonempty : run ≠ [])
    (low : byteLength before ≤ column) (high : column ≤ byteLength (before ++ run)) :
    runAt accepts (before ++ run ++ after) column = some run := by
  -- The cursor parts the run in two, and neither part goes on where the other characters stand.
  obtain ⟨left, right, rfl, cut⟩ := exists_cut after low high
  obtain ⟨leftInside, rightInside⟩ := List.forall_mem_append.mp inside
  have around : IsAround accepts (before ++ (left ++ right) ++ after) column before left right after :=
    ⟨by simp, cut, leftInside, rightInside, front, back⟩
  rw [around.runAt_eq, if_neg nonempty]

end Run

/-- A text that no dot opens or ends keeps all its characters. -/
theorem trimDots_eq_self {text : List Char} (first : text.head? ≠ some '.')
    (last : text.getLast? ≠ some '.') : trimDots text = text := by
  -- Trimming looks at the first and at the last character, and neither is a dot.
  have front : text.dropWhile (· == '.') = text := by
    cases text with
    | nil => rfl
    | cons char rest =>
      have other : char ≠ '.' := fun same => first (by rw [same]; rfl)
      simp [other]
  have back : ∀ char, text.getLast? = some char → (char == '.') = false := by
    intro char ending
    have other : char ≠ '.' := fun same => last (by rw [ending, same])
    simpa using other
  rw [trimDots, front, dropEndWhile_eq_self back]

/-- A cursor in a dotted path, or at one of its ends, finds the path. -/
theorem qualifiedNameAt_within {before name after : List Char} {column : Nat}
    (path : isIdentifierPath name)
    (front : ∀ char, before.getLast? = some char → isPathChar char = false)
    (back : ∀ char, after.head? = some char → isPathChar char = false)
    (low : byteLength before ≤ column) (high : column ≤ byteLength (before ++ name)) :
    qualifiedNameAt (before ++ name ++ after) column = some name := by
  have nonempty := ne_nil_of_isIdentifierPath path
  -- The run of path characters around the cursor is the path, which has no dots to lose.
  have run := runAt_within front (isPathChar_of_isIdentifierPath path) back nonempty low high
  have whole : trimDots name = name :=
    trimDots_eq_self (head?_ne_dot_of_isIdentifierPath path) (getLast?_ne_dot_of_isIdentifierPath path)
  rw [qualifiedNameAt, run]
  simp only [Option.bind_eq_bind, Option.bind_some, whole, if_neg nonempty]

end Cursor

/-- Wherever in a name the cursor is, the host answers as it does for the name itself. -/
theorem hover_under_cursor (host : Host) {text name : String} {line column : Nat}
    {before after : List Char}
    (read : (linesOf text.toList)[line]? = some (before ++ name.toList ++ after))
    (path : isIdentifierPath name.toList)
    (front : ∀ char, before.getLast? = some char → isPathChar char = false)
    (back : ∀ char, after.head? = some char → isPathChar char = false)
    (low : byteLength before ≤ column)
    (high : column ≤ byteLength before + byteLength name.toList) :
    host.answer (.hoverAt text ⟨line, column⟩) = host.answer (.hover name) := by
  have found : Cursor.qualifiedNameAt (before ++ name.toList ++ after) column = some name.toList :=
    Cursor.qualifiedNameAt_within path front back low (by rwa [byteLength_append])
  -- The line is read through the table, and its name is looked up as a key.
  have shown : host.hoverAt text ⟨line, column⟩ = host.source.hover host.settings name := by
    simp only [Host.hoverAt, LineTable.lineText?_eq_getElem?, read, found, String.ofList_toList]
  rw [Host.answer, Host.answer, shown]

/-- A cursor inside a letter of two bytes shows the function that the letter is part of. -/
theorem hover_under_cursor_letter :
    let record : Record :=
      ⟨"ta.länge", none, false, false, .function ⟨[⟨"id", none, none⟩], none, none⟩⟩
    let catalogue := (Catalogue.empty.addAlias (.ofNamespace "ta")).insert .functions record
    let host := Host.new catalogue.toSource .standard
    host.answer (.hoverAt "x\r\n(ta.länge)\r\n" ⟨1, 6⟩) =
      (.hovered (.ok (some ⟨record.withReceiver "ta", "länge", some "ta"⟩)), host) := by
  intro record catalogue host
  have read : (linesOf "x\r\n(ta.länge)\r\n".toList)[1]? =
    some (['('] ++ "ta.länge".toList ++ [')']) := by decide +kernel
  -- Brackets stand on both sides of the name, and they are no part of a path.
  have front : ∀ char, ['('].getLast? = some char → isPathChar char = false := by
    rintro _ ⟨⟩
    decide +kernel
  have back : ∀ char, [')'].head? = some char → isPathChar char = false := by
    rintro _ ⟨⟩
    decide +kernel
  have shown : host.source.hover host.settings "ta.länge" =
      .ok (some ⟨record.withReceiver "ta", "länge", some "ta"⟩) := by decide +kernel
  rw [hover_under_cursor host read (by decide +kernel) front back (by decide) (by decide),
    Host.answer, shown]

end SymbolAssist
