import SymbolAssist.Proofs.Completion.Candidates
import SymbolAssist.Proofs.Document.LineTable

/-! What a completion makes of the values that wait in a slot. -/

namespace SymbolAssist

/-- The records of a list that are offered as values for an argument. -/
def CompletionList.arguments (list : CompletionList) : List Record :=
  (list.items.filter Candidate.isArgument).map Candidate.record

namespace Source

/-- Whatever happens, nothing waits in the slot after a completion. -/
@[simp] theorem slot_complete (source : Source) (settings : Settings) (slot : Slot) (text : String)
    (position : Position) (cancellation : Cancellation) :
    (source.complete settings slot text position cancellation).2 = .disarmed := by
  -- The slot is disarmed whether the request was withdrawn or not.
  unfold complete
  split <;> rfl

end Source

end SymbolAssist
