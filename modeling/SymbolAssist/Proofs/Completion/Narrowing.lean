import SymbolAssist.Proofs.Catalogue.Edits
import SymbolAssist.Proofs.Completion.Forms
import SymbolAssist.Proofs.Lookup.Methods
import SymbolAssist.Proofs.Matching

/-! A request that matches fewer names is answered by a part of what it would be answered by else: with
a larger budget for typos, candidates and failures come in and none goes or changes its place. -/

namespace SymbolAssist

open Text

/-- A pass that finds no more than another one, in the same order. -/
structure Pass.IsPart (few many : Pass) : Prop where
  /-- The candidates are among those of the other pass. -/
  items : few.items.Sublist many.items
  /-- So are the failures. -/
  errors : few.errors.Sublist many.errors

/-- Every pass is a part of itself. -/
theorem Pass.IsPart.refl (pass : Pass) : pass.IsPart pass :=
  -- Items and errors are each a part of themselves.
  ⟨.refl _, .refl _⟩

namespace Source

variable (source : Source) {narrow wide : Settings} {longer shorter : List Char}

/-- A pass over names that matches fewer of them finds a part of what the other one finds. -/
theorem namesPass_isPart
    (alsoFound : ∀ name, narrow.budgets.matchesFree longer name →
      wide.budgets.matchesFree shorter name) :
    (source.namesPass narrow longer).IsPart (source.namesPass wide shorter) := by
  unfold namesPass freeCandidates
  -- The symbols are read in the same way for both, or cannot be read for either.
  cases source.category Category.freeSymbols with
  | error reason => exact .refl _
  | ok symbols =>
    refine ⟨List.Sublist.map _ (List.monotone_filter_right symbols.entries fun entry found => ?_),
      .slnil⟩
    exact alsoFound _ found

/-- A pass over the methods of the same receiver that matches fewer of them finds a part of what the
other one finds. -/
theorem methodsPass_isPart (wildcard : wide.wildcard = narrow.wildcard)
    {space member beginning : List Char}
    (dotted : '.' ∈ longer) (cut : splitNamespace longer = (space, member))
    (dottedToo : '.' ∈ shorter) (cutToo : splitNamespace shorter = (space, beginning))
    (alsoFound : ∀ receiver name, narrow.budgets.matchesMember receiver member name →
      wide.budgets.matchesMember receiver beginning name) :
    (source.methodsPass narrow longer).IsPart (source.methodsPass wide shorter) := by
  rw [methodsPass_of_dotted dotted cut, methodsPass_of_dotted dottedToo cutToo]
  have narrowed : ∀ receiver name,
      narrow.budgets.matchesMember receiver (String.ofList member).toList name →
      wide.budgets.matchesMember receiver (String.ofList beginning).toList name := by
    simpa only [String.toList_ofList] using alsoFound
  -- The search fails for both, or finds no more for the one that matches less.
  rcases source.methods_sublist (String.ofList space) wildcard narrowed with
    ⟨reason, failed, alike⟩ | ⟨few, many, answered, before, records, errors⟩
  · rw [failed, alike]
    exact .refl _
  · rw [answered, before]
    exact ⟨records.map _, errors⟩

/-- Two passes that are parts of two others make a part of the list of those. -/
theorem ordinaryList_isPart (before after : Position) (earlier later : List Char)
    (names : (source.namesPass narrow longer).IsPart (source.namesPass wide shorter))
    (methods : (source.methodsPass narrow longer).IsPart (source.methodsPass wide shorter)) :
    let few := source.ordinaryList narrow after later longer
    let many := source.ordinaryList wide before earlier shorter
    few.items.Sublist many.items ∧ few.errors.Sublist many.errors := by
  -- Both lists are their two passes one after the other, and parts are put together in that order.
  intro few many
  rw [show few = _ from ordinaryList_eq .., show many = _ from ordinaryList_eq ..]
  exact ⟨names.items.append methods.items, names.errors.append methods.errors⟩

end Source

/-- Budgets have no say in which lines are completed. -/
theorem namesDue_withBudgets_iff {settings : Settings} {budgets : TypoBudgets} {slot : Slot}
    {text : String} {position : Position} {cancellation : Cancellation} {line typed : List Char} :
    NamesDue { settings with budgets } slot text position cancellation line typed ↔
      NamesDue settings slot text position cancellation line typed :=
  -- No condition speaks of the budgets, so each one carries over as it is.
  ⟨fun due => ⟨due.inTime, due.idle, due.read, due.included, due.before, due.path⟩,
    fun due => ⟨due.inTime, due.idle, due.read, due.included, due.before, due.path⟩⟩

/--
A larger budget for typos only adds to a completion list.

Whatever the source can and cannot read, and whatever waits in the slot, all candidates and failures of
a list are in the list for larger budgets too, in the same order.
Both lists replace from the same place, and both are complete or neither is.
-/
theorem larger_budgets_add_candidates (source : Source) (settings : Settings)
    {budgets : TypoBudgets} (free : settings.budgets.free ≤ budgets.free)
    (member : settings.budgets.member ≤ budgets.member) (slot : Slot) (text : String)
    (position : Position) :
    let few := (source.complete settings slot text position .never).1
    let many := (source.complete { settings with budgets } slot text position .never).1
    few.items.Sublist many.items ∧ few.errors.Sublist many.errors ∧
      few.replaceStart = many.replaceStart ∧ few.incomplete = many.incomplete := by
  intro few many
  by_cases values : ValuesDue slot text position .never
  · -- Values that wait are served whatever the budgets are.
    obtain ⟨line, read⟩ : ∃ line, (linesOf text.toList)[position.line]? = some line :=
      ⟨_, List.getElem?_eq_getElem values.present⟩
    have before := Cursor.isTyped_takeBytes line position.column
    have same : few = many := (Source.complete_of_valuesDue values read before).trans
      (Source.complete_of_valuesDue values read before).symm
    rw [same]
    exact ⟨.refl _, .refl _, rfl, rfl⟩
  by_cases names : ∃ line typed, NamesDue settings slot text position .never line typed
  · obtain ⟨line, typed, due⟩ := names
    have shown : few = _ := Source.complete_of_namesDue due
    have shownToo : many = _ := Source.complete_of_namesDue (namesDue_withBudgets_iff.mpr due)
    generalize Cursor.fragment typed = fragment at shown shownToo
    -- Each pass matches more with the larger budget, and reads the same.
    have namesPart : (source.namesPass settings fragment).IsPart
        (source.namesPass { settings with budgets } fragment) :=
      source.namesPass_isPart fun name => TypoBudgets.matchesFree_mono free
    have methodsPart : (source.methodsPass settings fragment).IsPart
        (source.methodsPass { settings with budgets } fragment) := by
      by_cases dotted : '.' ∈ fragment
      · exact source.methodsPass_isPart rfl dotted rfl dotted rfl fun receiver name =>
          TypoBudgets.matchesMember_mono member
      · rw [Source.methodsPass_of_undotted dotted, Source.methodsPass_of_undotted dotted]
        exact .refl _
    have parts := source.ordinaryList_isPart position position typed typed namesPart methodsPart
    rw [shown, shownToo]
    exact ⟨parts.1, parts.2, rfl, rfl⟩
  · -- Where neither is due, both lists are empty and stay where the cursor is.
    have empty : few = .empty position :=
      Source.complete_of_not_due values fun line typed due => names ⟨line, typed, due⟩
    have emptyToo : many = .empty position :=
      Source.complete_of_not_due values fun line typed due =>
        names ⟨line, typed, namesDue_withBudgets_iff.mp due⟩
    rw [empty, emptyToo]
    exact ⟨.refl _, .refl _, rfl, rfl⟩

/-- With the largest budgets of all, a name and a failure come in beside a method that was offered
before. -/
theorem larger_budgets_add_candidates_largest :
    let array : TypeTag := .container none .array [.named none "float"]
    let method (name : String) (receiver : Option TypeTag) : Edit := .insert .methods
      ⟨name, none, false, false, .method ⟨[⟨"id", receiver, none⟩], none, none⟩⟩
    let source := (Catalogue.ofEdits [method "pop" none, method "array.push" (some array),
      .insert .functions ⟨"alpha", none, false, false, .function ⟨[], none, none⟩⟩,
      .insert .variables ⟨"arr", none, false, false, .variable ⟨some array, none⟩⟩]).toSource
    let list (budgets : TypoBudgets) : CompletionList :=
      (source.complete { Settings.standard with budgets } .disarmed "x = arr.psx" ⟨0, 11⟩ .never).1
    let few := list ⟨4, 1⟩
    let many := list ⟨0xFFFFFFFFFFFFFFFF, 0xFFFFFFFFFFFFFFFF⟩
    (few.items.map Candidate.displayName = ["arr", "arr.push"] ∧ few.errors = []) ∧
      (many.items.map Candidate.displayName = ["alpha", "arr", "arr.push"] ∧
        many.errors = [.missingReceiver "pop"]) ∧
      few.items.Sublist many.items ∧ few.errors.Sublist many.errors ∧
      few.replaceStart = many.replaceStart ∧ few.incomplete = many.incomplete := by
  intro array method source list few many
  -- The two lists are computed, and how they compare is a case of the general fact.
  refine ⟨⟨by decide +kernel, by decide +kernel⟩, ⟨by decide +kernel, by decide +kernel⟩, ?_⟩
  exact larger_budgets_add_candidates source { Settings.standard with budgets := ⟨4, 1⟩ }
    (by decide) (by decide) .disarmed "x = arr.psx" ⟨0, 11⟩

end SymbolAssist
