import SymbolAssist.Proofs.Completion.Narrowing
import SymbolAssist.Proofs.Document.Typing
import SymbolAssist.Proofs.Text.Dotted

/-! Typing on only narrows what is offered: no candidate comes in, and those that stay keep their
order. -/

namespace SymbolAssist

open Text

namespace Source

variable (source : Source) (settings : Settings) {fragment word : List Char}

/-- The pass over methods finds for a longer member a part of what it found before. -/
theorem methodsPass_append_isPart (undotted : '.' ∉ word) :
    (source.methodsPass settings (fragment ++ word)).IsPart (source.methodsPass settings fragment) := by
  by_cases dotted : '.' ∈ fragment
  · -- The receiver stays the same, and the word belongs to the member.
    exact source.methodsPass_isPart rfl (List.mem_append_left word dotted)
      (splitNamespace_append dotted undotted) dotted rfl fun receiver name =>
        settings.budgets.matchesMember_of_append
  · -- Without a dot no methods are looked for, before or after.
    rw [methodsPass_of_undotted (by simp [dotted, undotted]), methodsPass_of_undotted dotted]
    exact .refl _

/-- A list for a longer fragment is a part of the list before. -/
theorem ordinaryList_sublist (before after : Position) (earlier later : List Char)
    (typed : fragment ≠ []) (undotted : '.' ∉ word) :
    (source.ordinaryList settings after later (fragment ++ word)).items.Sublist
      (source.ordinaryList settings before earlier fragment).items := by
  -- Each pass finds less for the longer fragment, so their lists do as well.
  have names : (source.namesPass settings (fragment ++ word)).IsPart
      (source.namesPass settings fragment) :=
    source.namesPass_isPart fun name => settings.budgets.matchesFree_of_append typed
  exact (source.ordinaryList_isPart before after earlier later names
    (source.methodsPass_append_isPart settings undotted)).1

end Source

/-- Words have neither dots nor the characters that end a line. -/
theorem not_mem_of_word {word : List Char} (letters : ∀ char ∈ word, isWordChar char) :
    '.' ∉ word ∧ '\n' ∉ word ∧ '\r' ∉ word := by
  -- None of the three is a word character.
  have other : ∀ char, isWordChar char = false → char ∉ word := by
    intro char none member
    rw [letters char member] at none
    cases none
  exact ⟨other _ (by decide +kernel), other _ (by decide +kernel), other _ (by decide +kernel)⟩

/--
Typing on only narrows a completion list.

A cursor stands at the end of a line that is completed, behind a fragment.
When a word is typed there, whose characters are no dots, the candidates of the new list are among
those of the old one and in the same order, whatever the source can and cannot read.
-/
theorem typing_on_narrows (source : Source) (settings : Settings) {text : String} {number : Nat}
    {line word : List Char} (read : (linesOf text.toList)[number]? = some line)
    (included : settings.isExcluded line = false) (typed : Cursor.fragment line ≠ [])
    (letters : ∀ char ∈ word, isWordChar char) :
    let longer := String.ofList (extendLine number word text.toList)
    let before := source.complete settings .disarmed text ⟨number, byteLength line⟩ .never
    let after := source.complete settings .disarmed longer ⟨number, byteLength (line ++ word)⟩ .never
    after.1.items.Sublist before.1.items := by
  intro longer before after
  obtain ⟨undotted, unbroken, plain⟩ := not_mem_of_word letters
  have path : ∀ char ∈ word, isPathChar char := by
    intro char member
    simp [isPathChar, letters char member]
  -- The line is read with the word at its end, and the cursor stands behind it in both texts.
  have readAfter : (linesOf longer.toList)[number]? = some (line ++ word) := by
    rw [String.toList_ofList, linesOf_extendLine unbroken plain, List.getElem?_modify, read]
    simp
  have whole : ∀ chars, Cursor.IsTyped chars (byteLength chars) chars := fun chars =>
    ⟨List.prefix_rfl, Nat.le_refl _, fun _ begins _ => begins⟩
  have fragment : Cursor.fragment (line ++ word) = Cursor.fragment line ++ word :=
    Cursor.fragment_append path
  have shown : before.1 = _ := Source.complete_of_namesDue
    ⟨rfl, rfl, read, included, whole line, Cursor.fragment_ne_nil_iff.mp typed⟩
  cases excluded : settings.isExcluded (line ++ word) with
  | true =>
    -- The word has made a comment or an import of the line.
    have nothing : after.1 = .empty _ := Source.complete_of_not_due (fun due => due.waiting rfl)
      fun other _ due => by
        have same : other = line ++ word := Option.some.inj (due.read.symm.trans readAfter)
        have included := due.included
        rw [same, excluded] at included
        cases included
    rw [nothing]
    exact List.nil_sublist _
  | false =>
    have shownAfter : after.1 = _ := Source.complete_of_namesDue
      ⟨rfl, rfl, readAfter, excluded, whole _, by
        rw [← Cursor.fragment_ne_nil_iff, fragment]
        simp [typed]⟩
    rw [shown, shownAfter, fragment]
    exact source.ordinaryList_sublist settings _ _ _ _ typed undotted

/-- One more letter of a member leaves one of two methods, in a text whose lines end in two
characters. -/
theorem typing_on_narrows_methods :
    let array : TypeTag := .container none .array [.named none "float"]
    let method (name : String) : Edit := .insert .methods
      ⟨name, none, false, false, .method ⟨[⟨"id", some array, none⟩], none, none⟩⟩
    let source := (Catalogue.ofEdits [method "array.push", method "array.pop",
      .insert .variables ⟨"größen", none, false, false, .variable ⟨some array, none⟩⟩]).toSource
    let settings : Settings := { Settings.standard with budgets := ⟨0, 0⟩ }
    let offered (text : String) (column : Nat) : List Candidate :=
      (source.complete settings .disarmed text ⟨1, column⟩ .never).1.items
    (offered "x\r\ngrößen.p\r\n" 10).map Candidate.displayName = ["größen.push", "größen.pop"] ∧
      (offered "x\r\ngrößen.pu\r\n" 11).map Candidate.displayName = ["größen.push"] ∧
      (offered "x\r\ngrößen.pu\r\n" 11).Sublist (offered "x\r\ngrößen.p\r\n" 10) := by
  intro array method source settings offered
  -- The word goes in front of the carriage return, where the line that is read ends.
  have read : (linesOf "x\r\ngrößen.p\r\n".toList)[1]? = some "größen.p".toList := by decide +kernel
  have letters : ∀ char ∈ ['u'], isWordChar char := List.all_eq_true.mp (by decide +kernel)
  have longer : String.ofList (extendLine 1 ['u'] "x\r\ngrößen.p\r\n".toList) =
    "x\r\ngrößen.pu\r\n" := by decide +kernel
  have narrowed := typing_on_narrows source settings read (by decide +kernel) (by decide +kernel)
    letters
  rw [longer] at narrowed
  exact ⟨by decide +kernel, by decide +kernel, narrowed⟩

end SymbolAssist
