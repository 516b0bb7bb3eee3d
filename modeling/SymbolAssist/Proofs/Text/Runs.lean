import Mathlib.Data.List.DropRight
import SymbolAssist.Text.Runs

/-! What an accepted ending takes of a list, what it leaves, and where it stops. -/

namespace SymbolAssist.Text

variable {α : Type} {accepts : α → Bool} {first second items : List α} {item : α}

/-- The accepted ending is the one that is taken from the right. -/
theorem takeEndWhile_eq_rtakeWhile (accepts : α → Bool) (items : List α) :
    takeEndWhile accepts items = items.rtakeWhile accepts :=
  -- Both take from the front of the reversed list.
  rfl

/-- What is left in front of the accepted ending is what dropping from the right leaves. -/
theorem dropEndWhile_eq_rdropWhile (accepts : α → Bool) (items : List α) :
    dropEndWhile accepts items = items.rdropWhile accepts :=
  -- Both drop from the front of the reversed list.
  rfl

/-- The two parts put together are the whole again. -/
theorem dropEndWhile_append_takeEndWhile (accepts : α → Bool) (items : List α) :
    dropEndWhile accepts items ++ takeEndWhile accepts items = items := by
  -- From the right, too, taking goes on exactly where dropping does.
  rw [dropEndWhile_eq_rdropWhile, takeEndWhile_eq_rtakeWhile, List.rdropWhile_append_rtakeWhile]

/-- All members of the accepted ending are accepted. -/
theorem accepts_of_mem_takeEndWhile (member : item ∈ takeEndWhile accepts items) : accepts item := by
  -- Taking stops before the first member from the right that is not accepted.
  rw [takeEndWhile_eq_rtakeWhile] at member
  exact List.mem_rtakeWhile_imp member

/-- What is left in front of the accepted ending is a beginning of the whole. -/
theorem dropEndWhile_isPrefix (accepts : α → Bool) (items : List α) :
    dropEndWhile accepts items <+: items := by
  -- Only the end is dropped.
  rw [dropEndWhile_eq_rdropWhile]
  exact List.rdropWhile_prefix accepts items

/-- In front of the accepted ending stands a member that is not accepted, if any. -/
theorem not_accepts_of_getLast?_dropEndWhile
    (last : (dropEndWhile accepts items).getLast? = some item) : accepts item = false := by
  -- It is the member at which dropping stopped.
  rw [dropEndWhile_eq_rdropWhile] at last
  have nonempty : items.rdropWhile accepts ≠ [] := by
    intro empty
    simp [empty] at last
  rw [List.getLast?_eq_some_getLast nonempty] at last
  obtain rfl := Option.some.inj last
  exact Bool.eq_false_iff.mpr (List.rdropWhile_last_not accepts items nonempty)

/-- Nothing is dropped where the last member is not accepted. -/
theorem dropEndWhile_eq_self (boundary : ∀ item, items.getLast? = some item → accepts item = false) :
    dropEndWhile accepts items = items := by
  -- Dropping stops at once if the last member is not accepted.
  rw [dropEndWhile_eq_rdropWhile, List.rdropWhile_eq_self_iff]
  intro nonempty
  simp [boundary _ (List.getLast?_eq_some_getLast nonempty)]

/-- Nothing is taken where the last member is not accepted. -/
theorem takeEndWhile_eq_nil (boundary : ∀ item, items.getLast? = some item → accepts item = false) :
    takeEndWhile accepts items = [] := by
  -- Taking stops at once if the last member is not accepted.
  rw [takeEndWhile_eq_rtakeWhile, List.rtakeWhile_eq_nil_iff]
  intro nonempty
  simp [boundary _ (List.getLast?_eq_some_getLast nonempty)]

/-- Accepted members that follow make the accepted ending longer. -/
theorem takeEndWhile_append (accepted : ∀ item ∈ second, accepts item) :
    takeEndWhile accepts (first ++ second) = takeEndWhile accepts first ++ second := by
  -- Seen from the end, the new members come first and are all taken.
  rw [takeEndWhile, List.reverse_append, List.takeWhile_append_of_pos (by simpa using accepted),
    List.reverse_append, List.reverse_reverse, takeEndWhile]

/-- Accepted members that follow do not count for what stands in front of the accepted ending. -/
theorem dropEndWhile_append (accepted : ∀ item ∈ second, accepts item) :
    dropEndWhile accepts (first ++ second) = dropEndWhile accepts first := by
  -- Seen from the end, the members that follow come first and are all dropped.
  rw [dropEndWhile, List.reverse_append, List.dropWhile_append_of_pos (by simpa using accepted),
    dropEndWhile]

/-- Dropping from the front stops before a part that opens with something else. -/
theorem dropWhile_append_of_head? (stops : ∀ item, second.head? = some item → accepts item = false) :
    (first ++ second).dropWhile accepts = first.dropWhile accepts ++ second := by
  have kept : second.dropWhile accepts = second := by
    cases second with
    | nil => rfl
    | cons item rest => simp [stops item rfl]
  rw [List.dropWhile_append]
  split
  · -- All of the first part is dropped, and the second part stays.
    rename_i empty
    rw [List.isEmpty_iff.mp empty, kept, List.nil_append]
  · rfl

/-- Dropping from the end stops behind a part that ends in something else. -/
theorem dropEndWhile_append_of_getLast?
    (stops : ∀ item, first.getLast? = some item → accepts item = false) :
    dropEndWhile accepts (first ++ second) = first ++ dropEndWhile accepts second := by
  -- Seen from the end, this is dropping from the front.
  have opens : ∀ item, first.reverse.head? = some item → accepts item = false := by
    simpa using stops
  rw [dropEndWhile, List.reverse_append, dropWhile_append_of_head? opens, List.reverse_append,
    List.reverse_reverse, dropEndWhile]

/-- What is left in front of the accepted ending of a beginning is left of the whole as well. -/
theorem dropEndWhile_mono (begins : first <+: items) :
    dropEndWhile accepts first <+: dropEndWhile accepts items := by
  obtain ⟨second, rfl⟩ := begins
  rw [dropEndWhile, dropEndWhile, List.reverse_append, List.dropWhile_append]
  split
  · exact List.prefix_rfl
  · -- Something of the second part stays, and then all of the first part does.
    rw [List.reverse_append, List.reverse_reverse]
    exact (dropEndWhile_isPrefix accepts first).trans (List.prefix_append _ _)

end SymbolAssist.Text
