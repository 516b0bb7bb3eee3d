import SymbolAssist.Text.Dotted

/-! Where a dotted name is cut. -/

namespace SymbolAssist.Text

/-- Only a name without a dot is left whole. -/
theorem cutAtLastDot_eq_none_iff {name : List Char} : cutAtLastDot name = none ↔ '.' ∉ name := by
  induction name with
  | nil => simp [cutAtLastDot]
  | cons char rest ih =>
    rw [cutAtLastDot, List.mem_cons, not_or]
    split
    · -- A dot further right cuts the name, whatever stands here.
      rename_i later
      have dotted : '.' ∈ rest := by simpa [later] using ih
      simp [dotted]
    · rename_i whole
      have undotted := ih.mp whole
      by_cases dot : char = '.'
      · simp [dot]
      · simp [dot, Ne.symm dot, undotted]

/-- A name is cut at the dot that no other one follows. -/
theorem cutAtLastDot_append {space member : List Char} (last : '.' ∉ member) :
    cutAtLastDot (space ++ '.' :: member) = some (space, member) := by
  -- The dot is found from behind, and what stands in front of it is carried along.
  induction space with
  | nil => simp [cutAtLastDot, cutAtLastDot_eq_none_iff.mpr last]
  | cons char rest ih => simp [cutAtLastDot, ih]

/-- The two sides of a cut are what the last dot of the name stands between. -/
theorem cutAtLastDot_eq_some_iff {name space member : List Char} :
    cutAtLastDot name = some (space, member) ↔ name = space ++ '.' :: member ∧ '.' ∉ member := by
  refine ⟨fun cut => ?_, fun ⟨whole, last⟩ => whole ▸ cutAtLastDot_append last⟩
  induction name generalizing space with
  | nil => cases cut
  | cons char rest ih =>
    rw [cutAtLastDot] at cut
    split at cut
    · -- The cut was made further right, and this character joins its left side.
      rename_i later
      cases cut
      obtain ⟨rfl, last⟩ := ih later
      exact ⟨rfl, last⟩
    · rename_i whole
      split at cut
      · rename_i dot
        cases cut
        exact ⟨by rw [dot]; rfl, cutAtLastDot_eq_none_iff.mp whole⟩
      · cases cut

/-- Behind its last dot a name ends in its last segment. -/
theorem lastSegment_append {member : List Char} (space : List Char) (last : '.' ∉ member) :
    lastSegment (space ++ '.' :: member) = member := by
  -- The cut is at the last dot, and no dot follows this one.
  rw [lastSegment, cutAtLastDot_append last]

/-- A name without a dot is its own last segment. -/
theorem lastSegment_of_undotted {name : List Char} (undotted : '.' ∉ name) :
    lastSegment name = name := by
  -- Without a dot there is no cut.
  rw [lastSegment, cutAtLastDot_eq_none_iff.mpr undotted]

/-- A name is split at the dot that no other one follows. -/
theorem splitNamespace_joined {member : List Char} (space : List Char) (last : '.' ∉ member) :
    splitNamespace (space ++ '.' :: member) = (space, member) := by
  -- The cut is at the last dot, and no dot follows this one.
  rw [splitNamespace, cutAtLastDot_append last, Option.getD_some]

/-- A dotted name is its namespace and its member with the last dot in between. -/
theorem splitNamespace_spec {name : List Char} (dotted : '.' ∈ name) :
    name = (splitNamespace name).1 ++ '.' :: (splitNamespace name).2 ∧
      '.' ∉ (splitNamespace name).2 := by
  cases cut : cutAtLastDot name with
  | none => exact absurd dotted (cutAtLastDot_eq_none_iff.mp cut)
  | some parts =>
    -- The namespace and the member are the two sides of the cut.
    rw [splitNamespace, cut, Option.getD_some]
    exact cutAtLastDot_eq_some_iff.mp cut

/-- A word without a dot belongs to the member. -/
theorem splitNamespace_append {name word : List Char} (dotted : '.' ∈ name) (undotted : '.' ∉ word) :
    splitNamespace (name ++ word) = ((splitNamespace name).1, (splitNamespace name).2 ++ word) := by
  obtain ⟨whole, last⟩ := splitNamespace_spec dotted
  have longer : name ++ word =
      (splitNamespace name).1 ++ '.' :: ((splitNamespace name).2 ++ word) := by
    rw [← List.cons_append, ← List.append_assoc, ← whole]
  -- Behind the word, too, the dot is the last one.
  have stillLast : '.' ∉ (splitNamespace name).2 ++ word := by simp [last, undotted]
  rw [longer, splitNamespace_joined _ stillLast]

end SymbolAssist.Text
