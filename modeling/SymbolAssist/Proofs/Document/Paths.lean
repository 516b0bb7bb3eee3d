import SymbolAssist.Proofs.Document.Cursor
import SymbolAssist.Proofs.Text.Dotted
import SymbolAssist.Proofs.Text.Identifier

/-! Dotted paths are taken apart where they were joined, and found whole at the end of a line. -/

namespace SymbolAssist

open Text

/-- A dotted key is a path exactly if its namespace is one and its member is a single identifier. -/
theorem isIdentifierPath_iff_splitNamespace {key : List Char} (dotted : '.' ∈ key) :
    isIdentifierPath key ↔
      isIdentifierPath (splitNamespace key).1 ∧ isIdentifier (splitNamespace key).2 := by
  obtain ⟨whole, last⟩ := splitNamespace_spec dotted
  -- The last dot is one of those between names, and no other dot is left in the member.
  calc isIdentifierPath key
      ↔ isIdentifierPath ((splitNamespace key).1 ++ '.' :: (splitNamespace key).2) := by
        rw [← whole]
    _ ↔ isIdentifierPath (splitNamespace key).1 ∧ isIdentifierPath (splitNamespace key).2 :=
        isIdentifierPath_append_iff
    _ ↔ isIdentifierPath (splitNamespace key).1 ∧ isIdentifier (splitNamespace key).2 :=
        and_congr_right fun _ => isIdentifierPath_iff_of_undotted last

/-- A path that ends a line behind something else is the fragment, from its first byte on. -/
theorem Cursor.fragment?_of_isIdentifierPath {before name : List Char}
    (path : isIdentifierPath name)
    (front : ∀ char, before.getLast? = some char → isPathChar char = false) :
    fragment? (before ++ name) = some name ∧ fragmentStart (before ++ name) = byteLength before := by
  -- The scan from the end takes in the whole path, and stops at what stands before it.
  obtain ⟨found, start⟩ := fragment_behind front (isPathChar_of_isIdentifierPath path)
  rw [fragment?, found, if_neg (ne_nil_of_isIdentifierPath path)]
  exact ⟨rfl, start⟩

/--
Paths are what is made of identifiers by joining them with dots, and the three ways of reading one agree.

Split at every dot, a text without a dot is a path if it is an identifier, and two texts with a dot between
them are a path if both are.
Split at its last dot, a path gives a path and an identifier.
Read back from the end of a line, it is found from the byte at which it starts, if no other character of
a path stands before it.
-/
theorem path_readings_agree :
    (∀ text, '.' ∉ text → (isIdentifierPath text ↔ isIdentifier text)) ∧
    (∀ first second, isIdentifierPath (first ++ '.' :: second) ↔
      isIdentifierPath first ∧ isIdentifierPath second) ∧
    (∀ key, '.' ∈ key →
      (splitNamespace key).1 ++ '.' :: (splitNamespace key).2 = key ∧
      (isIdentifierPath key ↔
        isIdentifierPath (splitNamespace key).1 ∧ isIdentifier (splitNamespace key).2)) ∧
    ∀ before name, isIdentifierPath name →
      (∀ char, before.getLast? = some char → isPathChar char = false) →
      Cursor.fragment? (before ++ name) = some name ∧
        Cursor.fragmentStart (before ++ name) = byteLength before := by
  -- Each part is a fact about one of the readings.
  refine ⟨fun text undotted => ?_, fun first second => ?_, fun key dotted => ?_,
    fun before name path front => ?_⟩
  · exact isIdentifierPath_iff_of_undotted undotted
  · exact isIdentifierPath_append_iff
  · exact ⟨(splitNamespace_spec dotted).1.symm, isIdentifierPath_iff_splitNamespace dotted⟩
  · exact Cursor.fragment?_of_isIdentifierPath path front

/-- A path of three names, with letters of two bytes before and in it, is read in all three ways. -/
theorem path_readings_agree_letters :
    let key := "größe.x_1.maß".toList
    '.' ∉ "größe".toList ∧ isIdentifierPath key ∧
      ((splitNamespace key).1 = "größe.x_1".toList ∧ isIdentifierPath "größe.x_1".toList) ∧
      ((splitNamespace key).2 = "maß".toList ∧ isIdentifier "maß".toList) ∧
      Cursor.fragment? ("f(§".toList ++ key) = some key ∧
      Cursor.fragmentStart ("f(§".toList ++ key) = 4 := by
  intro key
  obtain ⟨single, join, split, ending⟩ := path_readings_agree
  have undotted : '.' ∉ "größe".toList := by decide
  -- Three identifiers make the path, one dot after the other.
  have start : isIdentifierPath "größe.x_1".toList :=
    (join "größe".toList "x_1".toList).mpr
      ⟨(single _ undotted).mpr (by decide +kernel), (single _ (by decide)).mpr (by decide +kernel)⟩
  have path : isIdentifierPath key :=
    (join "größe.x_1".toList "maß".toList).mpr ⟨start, (single _ (by decide)).mpr (by decide +kernel)⟩
  have parts := ((split key (by decide)).2.mp path).2
  have front : ∀ char, "f(§".toList.getLast? = some char → isPathChar char = false := by
    rintro _ ⟨⟩
    decide +kernel
  exact ⟨undotted, path, ⟨by decide, start⟩, ⟨by decide, parts⟩, ending _ key path front⟩

end SymbolAssist
