import SymbolAssist.TypeTag.Spelling

/-! Cutting a text at its outer commas, and the texts that such a cut leaves whole. -/

namespace SymbolAssist.Spelling

/-- The angle brackets that are open behind a text. -/
def depthAfter (depth : Nat) (text : List Char) : Nat :=
  text.foldl nextDepth depth

/-- Every comma of the text stands inside angle brackets, some of which may be open in front of it. -/
def commasEnclosed (depth : Nat) : List Char → Bool
  | [] => true
  | char :: rest => !(char == ',' && depth == 0) && commasEnclosed (nextDepth depth char) rest

section Depth

variable {depth deeper : Nat} {text : List Char}

/-- Nothing changes no depth. -/
@[simp] theorem depthAfter_nil (depth : Nat) : depthAfter depth [] = depth := rfl

/-- The first character changes the depth for the others. -/
@[simp] theorem depthAfter_cons (depth : Nat) (char : Char) (rest : List Char) :
    depthAfter depth (char :: rest) = depthAfter (nextDepth depth char) rest := rfl

/-- The depth behind the first text is where the second one starts. -/
@[simp] theorem depthAfter_append (depth : Nat) (first second : List Char) :
    depthAfter depth (first ++ second) = depthAfter (depthAfter depth first) second :=
  List.foldl_append

/-- A comma does not change the depth. -/
@[simp] theorem nextDepth_comma (depth : Nat) : nextDepth depth ',' = depth := rfl

/-- An opening bracket leads one level further in. -/
@[simp] theorem nextDepth_open (depth : Nat) : nextDepth depth '<' = depth + 1 := rfl

/-- A closing bracket leads one level out, and not beyond the outermost. -/
@[simp] theorem nextDepth_close (depth : Nat) : nextDepth depth '>' = depth - 1 := rfl

/-- Only angle brackets change the depth. -/
theorem depthAfter_of_not_mem (noOpen : '<' ∉ text) (noClose : '>' ∉ text) :
    depthAfter depth text = depth := by
  induction text with
  | nil => rfl
  | cons char rest ih =>
    rw [List.mem_cons, not_or] at noOpen noClose
    -- The depth changes at brackets only, and this character is none.
    have here : nextDepth depth char = depth := by
      simp [nextDepth, Ne.symm noOpen.1, Ne.symm noClose.1]
    rw [depthAfter_cons, here]
    exact ih noOpen.2 noClose.2

/-- What is open in front of a text stays open behind it, as far as it does not close it. -/
theorem depthAfter_mono (less : depth ≤ deeper) :
    depthAfter depth text ≤ depthAfter deeper text := by
  induction text generalizing depth deeper with
  | nil => exact less
  | cons char rest ih =>
    -- One character moves both depths alike, unless it closes what only the greater one has open.
    apply ih
    unfold nextDepth
    split
    · omega
    · split <;> omega

/-- One more bracket in front leaves at most one more behind. -/
theorem depthAfter_succ_le (depth : Nat) (text : List Char) :
    depthAfter (depth + 1) text ≤ depthAfter depth text + 1 := by
  induction text generalizing depth with
  | nil => exact Nat.le_refl _
  | cons char rest ih =>
    -- A closing bracket without a partner is where the two scans meet.
    have next : nextDepth (depth + 1) char ≤ nextDepth depth char + 1 := by
      unfold nextDepth
      split
      · omega
      · split <;> omega
    calc depthAfter (depth + 1) (char :: rest)
        ≤ depthAfter (nextDepth depth char + 1) rest := depthAfter_mono next
      _ ≤ depthAfter depth (char :: rest) + 1 := ih _

/-- Texts that are joined by something without brackets are scanned one after the other. -/
theorem depthAfter_intercalate {separator : List Char}
    (plain : ∀ depth, depthAfter depth separator = depth) (depth : Nat)
    (texts : List (List Char)) :
    depthAfter depth (separator.intercalate texts) = texts.foldl depthAfter depth := by
  induction texts generalizing depth with
  | nil => rfl
  | cons first rest ih =>
    cases rest with
    | nil => simp
    | cons second rest =>
      -- The separator is passed at whatever depth the first text leaves.
      rw [List.intercalate_cons_cons, depthAfter_append, depthAfter_append, plain, ih]
      rfl

/-- A character that is no outer comma leaves it to the rest whether all commas are enclosed. -/
theorem commasEnclosed_cons {char : Char} (inner : ¬(char = ',' ∧ depth = 0)) (rest : List Char) :
    commasEnclosed depth (char :: rest) = commasEnclosed (nextDepth depth char) rest := by
  -- Only an outer comma is tested for.
  have kept : (!(char == ',' && depth == 0)) = true := by
    simpa [Decidable.imp_iff_not_or] using inner
  rw [commasEnclosed, kept, Bool.true_and]

/-- Commas stay enclosed in a longer text exactly when they are in each of its parts. -/
@[simp] theorem commasEnclosed_append (depth : Nat) (first second : List Char) :
    commasEnclosed depth (first ++ second) =
      (commasEnclosed depth first && commasEnclosed (depthAfter depth first) second) := by
  -- The second part starts at the depth that the first one leaves.
  induction first generalizing depth with
  | nil => rfl
  | cons char rest ih => simp [commasEnclosed, ih, Bool.and_assoc]

/-- Commas are enclosed if a bracket is open in front of each of them. -/
theorem commasEnclosed_iff :
    commasEnclosed depth text = true ↔
      ∀ before after, text = before ++ ',' :: after → depthAfter depth before ≠ 0 := by
  constructor
  · rintro enclosed before after rfl outside
    -- The comma is met at the depth that the text before it leaves.
    rw [commasEnclosed_append, outside, Bool.and_eq_true] at enclosed
    cases enclosed.2
  · intro covered
    induction text generalizing depth with
    | nil => rfl
    | cons char rest ih =>
      have inner : ¬(char = ',' ∧ depth = 0) := fun ⟨comma, outside⟩ =>
        covered [] rest (by rw [comma, List.nil_append]) outside
      rw [commasEnclosed_cons inner]
      -- A comma further on has this character before it as well.
      exact ih fun before after parts =>
        covered (char :: before) after (by rw [parts, List.cons_append])

/-- A text without commas has none to enclose. -/
theorem commasEnclosed_of_not_mem (none : ',' ∉ text) : commasEnclosed depth text = true := by
  -- An outer comma would be a comma.
  rw [commasEnclosed_iff]
  rintro before after rfl
  exact absurd (List.mem_append_right before List.mem_cons_self) none

end Depth

/-- The text closes all brackets it opens and no others, and encloses its commas. -/
structure IsLevel (depth : Nat) (text : List Char) : Prop where
  /-- The depth behind the text is the one in front of it. -/
  balanced : depthAfter depth text = depth
  /-- No comma of the text is an outer one. -/
  enclosed : commasEnclosed depth text = true

namespace IsLevel

variable {depth : Nat} {text : List Char}

/-- A text without commas and brackets is level. -/
theorem of_not_mem (noComma : ',' ∉ text) (noOpen : '<' ∉ text) (noClose : '>' ∉ text) :
    IsLevel depth text :=
  -- The depth is only changed by brackets.
  ⟨depthAfter_of_not_mem noOpen noClose, commasEnclosed_of_not_mem noComma⟩

/-- Level texts make a level text together. -/
theorem append {first second : List Char} (front : IsLevel depth first)
    (back : IsLevel depth second) : IsLevel depth (first ++ second) := by
  -- The second text starts at the depth the first one started at.
  constructor
  · rw [depthAfter_append, front.balanced, back.balanced]
  · rw [commasEnclosed_append, front.balanced, front.enclosed, back.enclosed]
    rfl

/-- Brackets make a level text of one that is level inside them. -/
theorem angled (inside : IsLevel (depth + 1) text) : IsLevel depth ('<' :: (text ++ ['>'])) := by
  -- Between the brackets the depth is one more, and behind them it is as before.
  constructor
  · simp [inside.balanced]
  · simp [commasEnclosed, inside.enclosed]

/-- Inside of brackets, level texts may be joined by commas. -/
theorem intercalate {separator : List Char} {texts : List (List Char)}
    (joint : IsLevel depth separator) (each : ∀ text ∈ texts, IsLevel depth text) :
    IsLevel depth (separator.intercalate texts) := by
  induction texts with
  | nil => exact ⟨rfl, rfl⟩
  | cons first rest ih =>
    obtain ⟨here, later⟩ := List.forall_mem_cons.mp each
    cases rest with
    | nil => simpa using here
    | cons second rest =>
      -- The joint starts at the depth that the first text started at.
      rw [List.intercalate_cons_cons]
      exact (here.append joint).append (ih later)

end IsLevel

section Cutting

variable {depth : Nat} {text : List Char}

/-- A text has at least one entry, which may be empty. -/
theorem splitEntries_ne_nil (depth : Nat) (text : List Char) : splitEntries depth text ≠ [] := by
  -- A comma starts a new entry, and any other character goes into the first one.
  induction text generalizing depth with
  | nil => simp [splitEntries]
  | cons char rest ih =>
    rw [splitEntries]
    split
    · simp
    · simpa using ih (nextDepth depth char)

/-- The entries joined by commas are the text again. -/
theorem intercalate_splitEntries (depth : Nat) (text : List Char) :
    [','].intercalate (splitEntries depth text) = text := by
  induction text generalizing depth with
  | nil => simp [splitEntries]
  | cons char rest ih =>
    rw [splitEntries]
    split
    · rename_i outer
      obtain ⟨first, others, cut⟩ := List.exists_cons_of_ne_nil (splitEntries_ne_nil depth rest)
      have joined := ih depth
      rw [cut] at joined
      rw [cut, List.intercalate_cons_cons, joined, outer.1]
      rfl
    · obtain ⟨first, others, cut⟩ :=
        List.exists_cons_of_ne_nil (splitEntries_ne_nil (nextDepth depth char) rest)
      have joined := ih (nextDepth depth char)
      rw [cut] at joined
      rw [cut, List.modifyHead_cons]
      -- The character goes in front of the first entry, and so in front of the whole.
      cases others with
      | nil => simpa using joined
      | cons second others =>
        rw [List.intercalate_cons_cons] at joined ⊢
        rw [List.cons_append, List.cons_append, joined]

/-- Texts that are joined are found in the whole. -/
private theorem isInfix_intercalate {separator entry : List Char} {entries : List (List Char)}
    (member : entry ∈ entries) : entry <:+: separator.intercalate entries := by
  -- A text stands at the front of the whole or in what is joined of the others.
  induction entries with
  | nil => cases member
  | cons first rest ih =>
    cases rest with
    | nil =>
      obtain rfl := List.mem_singleton.mp member
      exact ⟨[], [], by simp [List.intercalate_singleton]⟩
    | cons second others =>
      rw [List.intercalate_cons_cons]
      rcases List.mem_cons.mp member with rfl | later
      · rw [List.append_assoc]
        exact (List.prefix_append _ _).isInfix
      · exact (ih later).trans (List.suffix_append _ _).isInfix

/-- An entry is a piece of the text that is cut. -/
theorem isInfix_of_mem_splitEntries {entry : List Char} (member : entry ∈ splitEntries depth text) :
    entry <:+: text := by
  -- The entries are joined to the text again.
  have joined := @isInfix_intercalate [','] _ _ member
  rwa [intercalate_splitEntries] at joined

/-- A text is left whole exactly when its commas are enclosed. -/
theorem length_splitEntries_eq_one_iff :
    (splitEntries depth text).length = 1 ↔ commasEnclosed depth text = true := by
  induction text generalizing depth with
  | nil => simp [splitEntries, commasEnclosed]
  | cons char rest ih =>
    rw [splitEntries]
    split
    · rename_i outer
      -- An outer comma gives an entry before it and at least one behind it.
      have more := splitEntries_ne_nil depth rest
      simpa [commasEnclosed, outer.1, outer.2] using more
    · rename_i inner
      rw [List.length_modifyHead, commasEnclosed_cons inner, ih]

/-- A text whose commas are enclosed is the only entry. -/
theorem splitEntries_of_commasEnclosed (enclosed : commasEnclosed depth text = true) :
    splitEntries depth text = [text] := by
  -- There is one entry, and joining all entries gives the text.
  obtain ⟨entry, single⟩ := List.length_eq_one_iff.mp (length_splitEntries_eq_one_iff.mpr enclosed)
  have joined := intercalate_splitEntries depth text
  rw [single, List.intercalate_singleton] at joined
  rw [single, joined]

/-- A comma behind a text that leaves no bracket open is where the text is cut. -/
theorem splitEntries_append_comma {first : List Char} (closed : depthAfter depth first = 0)
    (rest : List Char) :
    splitEntries depth (first ++ ',' :: rest) = splitEntries depth first ++ splitEntries 0 rest := by
  -- The first entry is built from its end, so that the induction is on what stands before the comma.
  induction first generalizing depth with
  | nil =>
    rw [depthAfter_nil] at closed
    simp [splitEntries, closed]
  | cons char first ih =>
    rw [List.cons_append, splitEntries, splitEntries]
    split
    · rename_i outer
      rw [depthAfter_cons, outer.1, nextDepth_comma] at closed
      rw [ih closed, List.cons_append]
    · rw [ih closed]
      obtain ⟨entry, others, cut⟩ :=
        List.exists_cons_of_ne_nil (splitEntries_ne_nil (nextDepth depth char) first)
      rw [cut, List.cons_append, List.modifyHead_cons, List.modifyHead_cons, List.cons_append]

/-- Joined texts are cut where they were joined and wherever a cut falls inside one of them. -/
theorem splitEntries_intercalate {texts : List (List Char)} (some : texts ≠ [])
    (closed : ∀ text ∈ texts.dropLast, depthAfter 0 text = 0) :
    splitEntries 0 ([','].intercalate texts) = texts.flatMap (splitEntries 0) := by
  induction texts with
  | nil => exact absurd rfl some
  | cons first rest ih =>
    cases rest with
    | nil => simp
    | cons second rest =>
      rw [List.dropLast_cons_cons] at closed
      -- The first text is not the last one, so nothing is open at the comma behind it.
      have later := ih (List.cons_ne_nil second rest) fun text member =>
        closed text (List.mem_cons_of_mem first member)
      rw [List.intercalate_cons_cons, List.append_assoc, List.singleton_append,
        splitEntries_append_comma (closed first List.mem_cons_self), later]
      rfl

/-- What holds of the first item, if others follow, and of the others but the last holds of all but the last. -/
private theorem forall_mem_dropLast_cons {α : Type} {holds : α → Prop} {first : α} {others : List α}
    (head : others ≠ [] → holds first) (tail : ∀ item ∈ others.dropLast, holds item) :
    ∀ item ∈ (first :: others).dropLast, holds item := by
  -- The first item is one of these only if others follow.
  cases others with
  | nil => simp
  | cons second others =>
    rw [List.dropLast_cons_cons]
    exact List.forall_mem_cons.mpr ⟨head (List.cons_ne_nil second others), tail⟩

/--
What a cut keeps to, entry by entry.

No entry has an outer comma and every entry but the last leaves no bracket open, where only the first
one starts inside of the brackets that are open in front of the text.
-/
private theorem entries_of_cut {first : List Char} {others : List (List Char)}
    (cut : splitEntries depth text = first :: others) :
    (commasEnclosed depth first = true ∧ ∀ entry ∈ others, commasEnclosed 0 entry = true) ∧
      (others ≠ [] → depthAfter depth first = 0) ∧
      ∀ entry ∈ others.dropLast, depthAfter 0 entry = 0 := by
  induction text generalizing depth first others with
  | nil =>
    obtain ⟨rfl, rfl⟩ : [] = first ∧ [] = others := by simpa [splitEntries] using cut
    simp [commasEnclosed]
  | cons char rest ih =>
    rw [splitEntries] at cut
    split at cut
    · -- The cut is here, and what follows starts outside of all brackets.
      rename_i outer
      obtain ⟨rfl, rfl⟩ := List.cons.inj cut
      obtain ⟨second, others, later⟩ := List.exists_cons_of_ne_nil (splitEntries_ne_nil depth rest)
      obtain ⟨enclosed, head, tail⟩ := ih later
      rw [outer.2] at enclosed head
      rw [later]
      exact ⟨⟨rfl, List.forall_mem_cons.mpr enclosed⟩, fun _ => outer.2,
        forall_mem_dropLast_cons head tail⟩
    · -- The character belongs to the first entry of what follows.
      rename_i inner
      obtain ⟨second, rest', later⟩ :=
        List.exists_cons_of_ne_nil (splitEntries_ne_nil (nextDepth depth char) rest)
      rw [later, List.modifyHead_cons] at cut
      obtain ⟨rfl, rfl⟩ := List.cons.inj cut
      obtain ⟨⟨here, beyond⟩, head, tail⟩ := ih later
      exact ⟨⟨(commasEnclosed_cons inner second).trans here, beyond⟩, head, tail⟩

/-- No entry has an outer comma. -/
theorem commasEnclosed_of_mem {entry : List Char} (member : entry ∈ splitEntries 0 text) :
    commasEnclosed 0 entry = true := by
  -- This holds of the first entry and of all others.
  obtain ⟨first, others, cut⟩ := List.exists_cons_of_ne_nil (splitEntries_ne_nil 0 text)
  have each : ∀ entry ∈ first :: others, commasEnclosed 0 entry = true :=
    List.forall_mem_cons.mpr (entries_of_cut cut).1
  exact each entry (cut ▸ member)

/-- Every entry but the last leaves no bracket open. -/
theorem depthAfter_of_mem_dropLast {entry : List Char}
    (member : entry ∈ (splitEntries 0 text).dropLast) : depthAfter 0 entry = 0 := by
  -- Behind every entry but the last stands an outer comma.
  obtain ⟨first, others, cut⟩ := List.exists_cons_of_ne_nil (splitEntries_ne_nil 0 text)
  obtain ⟨-, head, tail⟩ := entries_of_cut cut
  rw [cut] at member
  exact forall_mem_dropLast_cons head tail entry member

end Cutting

end SymbolAssist.Spelling
