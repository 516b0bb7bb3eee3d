import SymbolAssist.Proofs.Host.Run

/-! Over a whole run, what is handed over through a slot is served at most once, from that slot. -/

namespace SymbolAssist

namespace Request

end Request

namespace Run

variable {run : Run} {number : SlotId} {handoff : Handoff}

/-- At this time a handoff is put into a slot. -/
def Arms (run : Run) (time : Nat) (number : SlotId) (handoff : Handoff) : Prop :=
  run.target? time = some number ∧ ∃ through, run.request? time = some (.arm through handoff)

/-- At this time a slot is armed, consumed, cleared or completed from. -/
def Settles (run : Run) (time : Nat) (number : SlotId) : Prop :=
  run.target? time = some number ∧
    ∃ request, run.request? time = some request ∧ request.settles = true

/-- Handing over settles what waits. -/
theorem Arms.settles {time : Nat} (armed : run.Arms time number handoff) :
    run.Settles time number := by
  -- The request that hands something over is one of those that settle.
  obtain ⟨target, through, asked⟩ := armed
  exact ⟨target, _, asked, rfl⟩

end Run

end SymbolAssist
