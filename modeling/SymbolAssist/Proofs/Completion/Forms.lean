import Mathlib.Logic.ExistsUnique
import SymbolAssist.Proofs.Completion.Candidates
import SymbolAssist.Proofs.Document.Cursor
import SymbolAssist.Proofs.Document.LineTable
import SymbolAssist.Proofs.Text.Identifier

/-! The forms of a completion list, which request has which of them, and where the list is anchored. -/

namespace SymbolAssist

open Text

/-- Values for an argument are due: they wait, the line exists and the request is looked at. -/
structure ValuesDue (slot : Slot) (text : String) (position : Position)
    (cancellation : Cancellation) : Prop where
  /-- The request was not withdrawn before it was looked at. -/
  inTime : cancellation ≠ .before
  /-- Values wait in the slot. -/
  waiting : slot.values ≠ []
  /-- The text has the line. -/
  present : position.line < (linesOf text.toList).length

/-- Names are due: nothing waits, and on an ordinary line a path character stands before the cursor. -/
structure NamesDue (settings : Settings) (slot : Slot) (text : String) (position : Position)
    (cancellation : Cancellation) (line typed : List Char) : Prop where
  /-- The request was not withdrawn. -/
  inTime : cancellation = .never
  /-- No values wait in the slot. -/
  idle : slot.values = []
  /-- The line of the position. -/
  read : (linesOf text.toList)[position.line]? = some line
  /-- The line is neither a comment nor an import. -/
  included : settings.isExcluded line = false
  /-- The part of the line before the cursor. -/
  before : Cursor.IsTyped line position.column typed
  /-- A path character is the last one before the cursor. -/
  path : ∃ char, typed.getLast? = some char ∧ isPathChar char

/-- A line on which a fragment was typed is not blank. -/
theorem trim_ne_nil_of_fragment {line typed : List Char} (begins : typed <+: line)
    (path : ∃ char, typed.getLast? = some char ∧ isPathChar char) : trim line ≠ [] := by
  intro blank
  obtain ⟨char, last, path⟩ := path
  -- The character before the cursor is on the line, and path characters are not blank.
  have onLine : char ∈ line := begins.mem (List.mem_of_getLast? last)
  have isBlank := trim_eq_nil_iff.mp blank char onLine
  rw [isBlank_of_isPathChar path] at isBlank
  cases isBlank

namespace Source

variable {source : Source} {settings : Settings} {slot : Slot} {text : String}
  {position : Position} {cancellation : Cancellation} {line typed : List Char}

/-- Values that are due are listed, and they replace what stands before the cursor. -/
theorem complete_of_valuesDue (due : ValuesDue slot text position cancellation)
    (read : (linesOf text.toList)[position.line]? = some line)
    (before : Cursor.IsTyped line position.column typed) :
    (source.complete settings slot text position cancellation).1 =
      argumentList slot.values position typed := by
  -- The line exists and the request is in time, and then waiting values come before everything else.
  rw [← LineTable.lineText?_eq_getElem?] at read
  rw [complete_of_ne_before due.inTime, completionList_of_some read, before.eq_takeBytes]
  exact if_pos due.waiting

/-- Names that are due are listed for the fragment before the cursor. -/
theorem complete_of_namesDue
    (due : NamesDue settings slot text position cancellation line typed) :
    (source.complete settings slot text position cancellation).1 =
      source.ordinaryList settings position typed (Cursor.fragment typed) := by
  have read := due.read
  rw [← LineTable.lineText?_eq_getElem?] at read
  -- None of the reasons to list nothing applies: the line counts and has a fragment.
  have counted : ¬ (trim line = [] ∨ settings.isExcluded line = true) := by
    simp [trim_ne_nil_of_fragment due.before.begins due.path, due.included]
  have found : Cursor.fragment? typed = some (Cursor.fragment typed) :=
    if_neg (Cursor.fragment_ne_nil_iff.mpr due.path)
  rw [complete_of_ne_before (by simp [due.inTime]), completionList_of_some read, due.idle,
    ← due.before.eq_takeBytes]
  simp [counted, found, due.inTime]

/-- Where neither is due there is nothing to offer. -/
theorem complete_of_not_due (noValues : ¬ ValuesDue slot text position cancellation)
    (noNames : ∀ line typed, ¬ NamesDue settings slot text position cancellation line typed) :
    (source.complete settings slot text position cancellation).1 = .empty position := by
  by_cases inTime : cancellation = .before
  · rw [complete, if_pos inTime]
  rw [complete_of_ne_before inTime]
  cases read : (LineTable.ofText text.toList).lineText? text.toList position.line with
  | none => exact completionList_of_none read
  | some line =>
    have listed := read
    rw [LineTable.lineText?_eq_getElem?] at listed
    have present : position.line < (linesOf text.toList).length :=
      (List.getElem?_eq_some_iff.mp listed).1
    -- The line is there, so values are due as soon as some wait.
    have idle : slot.values = [] := by
      by_contra waiting
      exact noValues ⟨inTime, waiting, present⟩
    rw [completionList_of_some read]
    simp only [idle, ne_eq, not_true_eq_false, if_false]
    split
    · rfl
    · rename_i counted
      rw [not_or, Bool.not_eq_true] at counted
      -- With a fragment, only a request that was withdrawn lists nothing.
      rw [Cursor.fragment?]
      split
      · rfl
      · rename_i typed
        rw [Option.elim_some]
        split
        · rfl
        · rename_i kept
          have never : cancellation = .never := by
            cases cancellation with
            | never => rfl
            | before => exact absurd rfl inTime
            | duringRead => exact absurd rfl kept
          exact absurd ⟨never, idle, listed, counted.2, Cursor.isTyped_takeBytes line _,
            Cursor.fragment_ne_nil_iff.mp typed⟩ (noNames line _)

end Source

/-- What a completion list is there for. -/
inductive ListForm where
  /-- It offers nothing. -/
  | nothing
  /-- It offers values for an argument. -/
  | values
  /-- It offers names and methods, as far as any are found. -/
  | names
  deriving Repr, DecidableEq

namespace CompletionList

variable {list : CompletionList} {position : Position}

/-- What a list of each form is made of. -/
def HasForm (list : CompletionList) (position : Position) : ListForm → Prop
  | .nothing =>
    list.items = [] ∧ list.errors = [] ∧ list.incomplete = false ∧ list.replaceStart = position
  | .values =>
    list.items ≠ [] ∧
      -- The rank is a number of 32 bits, so very late values share the last one.
      (∀ index candidate, list.items[index]? = some candidate →
        candidate.isArgument = true ∧ candidate.rank = some (min index 0xFFFFFFFF)) ∧
      list.errors = [] ∧ list.incomplete = false
  | .names =>
    (∀ candidate ∈ list.items, candidate.isArgument = false ∧ candidate.rank = none) ∧
      list.incomplete = true

/-- No list has two forms. -/
theorem HasForm.unique {first second : ListForm} (one : list.HasForm position first)
    (other : list.HasForm position second) : first = second := by
  -- Whether the list is complete tells names apart, and whether it is empty tells the others apart.
  cases first <;> cases second <;> simp_all [HasForm]

/-- A list has the form it has and no other. -/
theorem HasForm.iff_eq {form other : ListForm} (has : list.HasForm position form) :
    list.HasForm position other ↔ other = form :=
  -- Two forms of one list are the same, so only the given form can hold.
  ⟨fun second => second.unique has, fun same => same ▸ has⟩

/-- The empty list offers nothing. -/
theorem hasForm_empty (position : Position) : (empty position).HasForm position .nothing :=
  ⟨rfl, rfl, rfl, rfl⟩

/-- A list of values is marked and ranked as such. -/
theorem hasForm_argumentList {values : List Record} (waiting : values ≠ []) (typed : List Char) :
    (argumentList values position typed).HasForm position .values := by
  -- Values are ranked by their place in the list, which is how they are numbered.
  refine ⟨by simpa [argumentList] using waiting, ?_, rfl, rfl⟩
  intro index candidate listed
  rw [argumentList, List.getElem?_mapIdx, Option.map_eq_some_iff] at listed
  obtain ⟨record, _, rfl⟩ := listed
  exact ⟨rfl, rfl⟩

/-- A list of names and methods ranks nothing. -/
theorem hasForm_ordinaryList (source : Source) (settings : Settings) (typed fragment : List Char) :
    (source.ordinaryList settings position typed fragment).HasForm position .names := by
  have split := source.splits_ordinaryList settings position typed fragment
  refine ⟨fun candidate listed => ?_, rfl⟩
  rw [split.items, List.mem_append] at listed
  -- Each pass makes its candidates in one way, without a mark and without a rank.
  rcases listed with inNames | inMethods
  · obtain ⟨record, rfl⟩ := split.free candidate inNames
    exact ⟨rfl, rfl⟩
  · obtain ⟨space, record, rfl⟩ := split.bound candidate inMethods
    exact ⟨rfl, rfl⟩

end CompletionList

section Anchors

variable {position : Position} {line typed : List Char}

/-- A beginning of what stands before the cursor ends at or before it, between two characters of the
line. -/
theorem Cursor.IsTyped.anchor {column : Nat} {front : List Char}
    (before : Cursor.IsTyped line column typed) (begins : front <+: typed) :
    byteLength front ≤ column ∧ ∃ after, line = front ++ after := by
  -- The front begins what was typed, which begins the line and stays within the column.
  obtain ⟨rest, rfl⟩ := begins
  obtain ⟨after, rfl⟩ := before.begins
  refine ⟨?_, rest ++ after, List.append_assoc ..⟩
  have within := before.within
  rw [byteLength_append] at within
  omega

/-- Values replace from a place between two characters of the line, not behind the cursor. -/
theorem anchor_argumentList (values : List Record)
    (before : Cursor.IsTyped line position.column typed) :
    let start := (argumentList values position typed).replaceStart
    start.line = position.line ∧ start.column ≤ position.column ∧
      ∃ front after, line = front ++ after ∧ byteLength front = start.column := by
  -- Values replace from where the argument starts, and that is the end of some beginning of the typed
  -- text.
  obtain ⟨front, begins, start⟩ := Cursor.exists_before_argument typed
  obtain ⟨within, after, whole⟩ := before.anchor begins
  exact ⟨rfl, start.symm.trans_le within, front, after, whole, start⟩

/-- Names replace the whole run of path characters that ends at the cursor. -/
theorem anchor_ordinaryList (source : Source) (settings : Settings)
    (before : Cursor.IsTyped line position.column typed)
    (path : ∃ char, typed.getLast? = some char ∧ isPathChar char) :
    let start := (source.ordinaryList settings position typed (Cursor.fragment typed)).replaceStart
    start.line = position.line ∧ start.column ≤ position.column ∧
      ∃ front fragment after, line = front ++ after ∧ typed = front ++ fragment ∧
        byteLength front = start.column ∧
        fragment ≠ [] ∧ (∀ char ∈ fragment, isPathChar char) ∧
        ∀ char, front.getLast? = some char → isPathChar char = false := by
  obtain ⟨front, split, start, inside, boundary⟩ := Cursor.exists_before_fragment typed
  -- What stands in front of the fragment is a beginning of the text before the cursor.
  obtain ⟨within, after, whole⟩ := before.anchor ⟨_, split.symm⟩
  exact ⟨rfl, start.symm.trans_le within, front, _, after, whole, split, start,
    Cursor.fragment_ne_nil_iff.mpr path, inside, boundary⟩

end Anchors

/--
Every completion list has one of three forms, and a place on the line from which it replaces.

It offers nothing and replaces nothing, or only ranked values for an argument, or only unranked names
and methods; values are offered exactly if they are due, and so are names.
A request that was withdrawn, at once or before the names were read, is therefore never answered by
names.
The list starts to replace on the line of the cursor and not behind it, between two characters of
the line.
Names replace the whole run of path characters that ends at the cursor.
-/
theorem completion_form_and_anchor (source : Source) (settings : Settings) (slot : Slot)
    (text : String) (position : Position) (cancellation : Cancellation) :
    let list := (source.complete settings slot text position cancellation).1
    let lines := linesOf text.toList
    (∃! form, list.HasForm position form) ∧
    (list.HasForm position .values ↔ ValuesDue slot text position cancellation) ∧
    (list.HasForm position .names ↔
      ∃ line typed, NamesDue settings slot text position cancellation line typed) ∧
    list.replaceStart.line = position.line ∧
    list.replaceStart.column ≤ position.column ∧
    (¬ list.HasForm position .nothing → ∃ front after,
      lines[position.line]? = some (front ++ after) ∧
      byteLength front = list.replaceStart.column) ∧
    (list.HasForm position .names → ∃ line front fragment,
      lines[position.line]? = some line ∧
      Cursor.IsTyped line position.column (front ++ fragment) ∧
      byteLength front = list.replaceStart.column ∧
      fragment ≠ [] ∧ (∀ char ∈ fragment, isPathChar char) ∧
      ∀ char, front.getLast? = some char → isPathChar char = false) := by
  intro list lines
  by_cases values : ValuesDue slot text position cancellation
  · obtain ⟨line, read⟩ : ∃ line, lines[position.line]? = some line :=
      ⟨_, List.getElem?_eq_getElem values.present⟩
    have before := Cursor.isTyped_takeBytes line position.column
    have shown : list = argumentList slot.values position _ :=
      Source.complete_of_valuesDue values read before
    have form : list.HasForm position .values :=
      shown ▸ CompletionList.hasForm_argumentList values.waiting _
    -- Values wait, so names are not due.
    have noNames : ¬ ∃ line typed, NamesDue settings slot text position cancellation line typed :=
      fun ⟨_, _, names⟩ => values.waiting names.idle
    obtain ⟨sameLine, within, front, after, rfl, start⟩ := anchor_argumentList slot.values before
    rw [← shown] at sameLine within start
    simp only [form.iff_eq]
    exact ⟨existsUnique_eq, iff_of_true trivial values, iff_of_false nofun noNames, sameLine, within,
      fun _ => ⟨front, after, read, start⟩, nofun⟩
  by_cases names : ∃ line typed, NamesDue settings slot text position cancellation line typed
  · obtain ⟨line, typed, due⟩ := id names
    have shown : list = source.ordinaryList settings position typed _ :=
      Source.complete_of_namesDue due
    have form : list.HasForm position .names :=
      shown ▸ CompletionList.hasForm_ordinaryList source settings typed _
    obtain ⟨sameLine, within, front, fragment, after, whole, split, start, run⟩ :=
      anchor_ordinaryList source settings due.before due.path
    rw [← shown] at sameLine within start
    simp only [form.iff_eq]
    exact ⟨existsUnique_eq, iff_of_false nofun values, iff_of_true trivial names, sameLine, within,
      fun _ => ⟨front, after, whole ▸ due.read, start⟩,
      fun _ => ⟨line, front, fragment, due.read, split ▸ due.before, start, run⟩⟩
  · -- Without a reason to offer anything the list is empty, and stays where the cursor is.
    have shown : list = .empty position :=
      Source.complete_of_not_due values fun line typed due => names ⟨line, typed, due⟩
    have form : list.HasForm position .nothing := shown ▸ CompletionList.hasForm_empty position
    have start : list.replaceStart = position := congrArg CompletionList.replaceStart shown
    simp only [form.iff_eq, start]
    exact ⟨existsUnique_eq, iff_of_false nofun values, iff_of_false nofun names, trivial,
      Nat.le_refl _, fun other => absurd trivial other, nofun⟩

end SymbolAssist
