import SymbolAssist.Completion.Basic

/-! The forms a completion list can have, and which candidates its two passes can find. -/

namespace SymbolAssist

/-- What one pass over the symbols adds to a completion list. -/
structure Pass where
  /-- The candidates that the pass found. -/
  items : List Candidate
  /-- The failures on the way. -/
  errors : List LookupError
  deriving Repr, DecidableEq

namespace Pass

/-- A pass that is not made. -/
def skipped : Pass :=
  ⟨[], []⟩

/-- A pass that cannot be read adds nothing but its failure. -/
def read : Except LookupError Pass → Pass
  | .ok pass => pass
  | .error reason => ⟨[], [reason]⟩

end Pass

/-- A completion list is a pass over plain names, followed by a pass over methods. -/
structure CompletionList.Splits (list : CompletionList) (names methods : Pass) : Prop where
  /-- The candidates of the names come first. -/
  items : list.items = names.items ++ methods.items
  /-- The failures of the names come first. -/
  errors : list.errors = names.errors ++ methods.errors
  /-- The first pass finds what needs no receiver. -/
  free : ∀ candidate ∈ names.items, ∃ record, candidate = .free record
  /-- The second pass finds what has one. -/
  bound : ∀ candidate ∈ methods.items, ∃ space record, candidate = .method space record

/-- An empty list is what two passes give that are not made. -/
theorem CompletionList.splits_empty (position : Position) :
    (CompletionList.empty position).Splits .skipped .skipped := by
  -- With no items and no errors there is nothing to split.
  constructor <;> simp [CompletionList.empty, Pass.skipped]

namespace Source

/-- The pass over plain names. -/
def namesPass (source : Source) (settings : Settings) (fragment : List Char) : Pass :=
  .read (do
    let names ← source.freeCandidates settings fragment
    return ⟨names, []⟩)

/-- The pass over the methods of a receiver. -/
def methodsPass (source : Source) (settings : Settings) (fragment : List Char) : Pass :=
  .read (do
    let (methods, errors) ← source.methodCandidates settings fragment
    return ⟨methods, errors⟩)

variable {source : Source} {settings : Settings} {fragment : List Char} {candidate : Candidate}

/-- On a line that does not exist there is nothing to offer. -/
theorem completionList_of_none {values : List Record} {text : List Char} {position : Position}
    {cancellation : Cancellation}
    (missing : (LineTable.ofText text).lineText? text position.line = none) :
    source.completionList settings values text position cancellation = .empty position := by
  -- What stands before the cursor is read from the line, so without a line nothing is read.
  simp only [completionList, LineTable.textBefore?, missing]

/-- On a line that exists values go first, and only lines and fragments that allow it are completed. -/
theorem completionList_of_some {values : List Record} {text : List Char} {position : Position}
    {cancellation : Cancellation} {line : List Char}
    (read : (LineTable.ofText text).lineText? text position.line = some line) :
    source.completionList settings values text position cancellation =
      let typed := Text.takeBytes position.column line
      if values ≠ [] then argumentList values position typed
      else if Text.trim line = [] ∨ settings.isExcluded line then .empty position
      else (Cursor.fragment? typed).elim (.empty position) fun fragment =>
        if cancellation = .duringRead then .empty position
        else source.ordinaryList settings position typed fragment := by
  -- The guards are asked in the order in which they are written, and the fragment comes last.
  simp only [completionList, LineTable.textBefore?, read, Option.bind_eq_bind, Option.bind_some,
    Option.pure_def]
  cases Cursor.fragment? (Text.takeBytes position.column line) <;> rfl

/-- A completion that is not withdrawn at once lists what the waiting values and the text allow. -/
theorem complete_of_ne_before {slot : Slot} {text : String} {position : Position}
    {cancellation : Cancellation} (inTime : cancellation ≠ .before) :
    (source.complete settings slot text position cancellation).1 =
      source.completionList settings slot.values text.toList position cancellation := by
  -- The slot is emptied before the list is made, but its values are handed on.
  rw [complete, if_neg inTime]
  rfl

/-- The pass over plain names finds only candidates without a receiver. -/
theorem eq_free_of_mem_namesPass
    (member : candidate ∈ (source.namesPass settings fragment).items) :
    ∃ record, candidate = .free record := by
  -- The pass lists either nothing, because it could not read, or one candidate for each name it read.
  unfold namesPass freeCandidates at member
  cases read : source.category Category.freeSymbols with
  | error reason =>
    rw [read] at member
    cases member
  | ok symbols =>
    rw [read] at member
    obtain ⟨entry, _, rfl⟩ := List.mem_map.mp member
    exact ⟨entry.2, rfl⟩

/-- Behind a dot the pass over methods lists what is found for the receiver. -/
theorem methodsPass_of_dotted {space member : List Char} (dotted : '.' ∈ fragment)
    (cut : Text.splitNamespace fragment = (space, member)) :
    source.methodsPass settings fragment =
      .read ((source.methods settings (String.ofList space) (String.ofList member)).map fun found =>
        ⟨found.records.map (.method (String.ofList space)), found.errors⟩) := by
  -- The receiver is what stands before the last dot, and its records become methods of that receiver.
  unfold methodsPass methodCandidates
  rw [if_pos dotted, cut]
  dsimp only
  cases source.methods settings (String.ofList space) (String.ofList member) <;> rfl

/-- Without a dot no methods are looked for. -/
theorem methodsPass_of_undotted (undotted : '.' ∉ fragment) :
    source.methodsPass settings fragment = .skipped := by
  -- A fragment without a dot has no receiver to look for.
  unfold methodsPass methodCandidates
  rw [if_neg undotted]
  rfl

/-- The pass over methods finds only candidates with a receiver. -/
theorem eq_method_of_mem_methodsPass
    (member : candidate ∈ (source.methodsPass settings fragment).items) :
    ∃ space record, candidate = .method space record := by
  by_cases dotted : '.' ∈ fragment
  · -- Behind a dot every candidate is a method of the receiver.
    rw [methodsPass_of_dotted dotted rfl] at member
    generalize source.methods settings _ _ = found at member
    cases found with
    | error reason => cases member
    | ok found =>
      obtain ⟨record, _, rfl⟩ := List.mem_map.mp member
      exact ⟨_, record, rfl⟩
  · rw [methodsPass_of_undotted dotted] at member
    cases member

/-- A list of names and methods is the two passes, whatever each of them could read. -/
theorem ordinaryList_eq (source : Source) (settings : Settings) (position : Position)
    (typed fragment : List Char) :
    source.ordinaryList settings position typed fragment =
      { items := (source.namesPass settings fragment).items ++
          (source.methodsPass settings fragment).items
        replaceStart := { position with column := Cursor.fragmentStart typed }
        incomplete := true
        errors := (source.namesPass settings fragment).errors ++
          (source.methodsPass settings fragment).errors } := by
  -- Each reading succeeds or fails by itself, so there are four cases to compare.
  unfold ordinaryList namesPass methodsPass
  cases source.freeCandidates settings fragment <;>
    cases source.methodCandidates settings fragment <;> rfl

/-- A list of names and methods splits into the two passes. -/
theorem splits_ordinaryList (source : Source) (settings : Settings) (position : Position)
    (typed fragment : List Char) :
    (source.ordinaryList settings position typed fragment).Splits
      (source.namesPass settings fragment) (source.methodsPass settings fragment) := by
  -- The items are those of the two passes in turn, which differ in having a receiver.
  rw [ordinaryList_eq]
  exact ⟨rfl, rfl, fun _ => eq_free_of_mem_namesPass, fun _ => eq_method_of_mem_methodsPass⟩

end Source

end SymbolAssist
