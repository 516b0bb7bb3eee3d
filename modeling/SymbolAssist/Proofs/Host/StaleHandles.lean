import SymbolAssist.Proofs.Host.WellFormed

/-! Slots that no document has any more: what is done to them shows in no other answer. -/

namespace SymbolAssist

/-- The request goes through the number of one of the given slots. -/
def Request.uses (stale : SlotId → Bool) : Request → Bool
  | .arm (.held number) _ | .consume (.held number) | .clear (.held number)
  | .isArmed (.held number) => stale number
  | _ => false

namespace Host

variable {host other : Host} {stale : SlotId → Bool}

/-- A slot that exists and that no document has. -/
def Detached (host : Host) (number : SlotId) : Prop :=
  number < host.slots.length ∧ ∀ document, host.sessions.find? document ≠ some number

/-- A detached slot stays detached. -/
theorem Detached.of_precedes {number : SlotId} (detached : host.Detached number)
    (precedes : host.Precedes other) : other.Detached number :=
  -- A later host gives no document a slot that was there already.
  ⟨Nat.lt_of_lt_of_le detached.1 precedes.longer, fun document found =>
    detached.2 document (precedes.kept detached.1 found)⟩

/-- Two hosts that can differ only in what certain slots hold. -/
structure AgreeBut (stale : SlotId → Bool) (host other : Host) : Prop where
  /-- They read from the same source. -/
  source : host.source = other.source
  /-- They look symbols up in the same way. -/
  settings : host.settings = other.settings
  /-- Every document has the same slot in both. -/
  sessions : host.sessions = other.sessions
  /-- They have the same slots. -/
  length : host.slots.length = other.slots.length
  /-- All other slots hold the same. -/
  slots : ∀ number, stale number = false → host.slot number = other.slot number

/-- A host agrees with itself. -/
theorem AgreeBut.refl (stale : SlotId → Bool) (host : Host) : AgreeBut stale host host :=
  -- The same host is compared with itself in every respect.
  ⟨rfl, rfl, rfl, rfl, fun _ _ => rfl⟩

/-- Hosts that agree give a document the same slot. -/
theorem AgreeBut.session_fst (agree : AgreeBut stale host other) (document : DocumentId) :
    (host.session document).1 = (other.session document).1 := by
  -- The slot is found among the sessions, or has the first number that is free.
  unfold session
  rw [agree.sessions, agree.length]
  cases other.sessions.find? document <;> rfl

/-- Hosts that agree go on agreeing when a document is given a slot. -/
theorem AgreeBut.session (agree : AgreeBut stale host other) (document : DocumentId) :
    AgreeBut stale (host.session document).2 (other.session document).2 := by
  -- Slots keep their content, so only the tables are left to compare.
  have slots : ∀ number, stale number = false →
      (host.session document).2.slot number = (other.session document).2.slot number := by
    intro number fresh
    rw [slot_session, slot_session]
    exact agree.slots number fresh
  revert slots
  unfold Host.session
  rw [agree.sessions, agree.length]
  cases other.sessions.find? document with
  | some number => exact fun _ => agree
  | none =>
    intro slots
    exact ⟨agree.source, agree.settings, rfl, by simp [agree.length], slots⟩

/-- Hosts that agree go on agreeing when the same is put into the same slot. -/
theorem AgreeBut.withSlot (agree : AgreeBut stale host other) (number : SlotId) (content : Slot) :
    AgreeBut stale (host.withSlot number content) (other.withSlot number content) := by
  -- Only the slots change, and in both hosts alike.
  refine ⟨agree.source, agree.settings, agree.sessions, ?_, ?_⟩
  · simp [Host.withSlot, agree.length]
  · intro index fresh
    rw [slot_withSlot, slot_withSlot, agree.slots index fresh, agree.length]

/-- What is put into one of the slots in question does not count. -/
theorem AgreeBut.withSlot_left (agree : AgreeBut stale host other) {number : SlotId}
    (used : stale number = true) (content : Slot) :
    AgreeBut stale (host.withSlot number content) other := by
  -- The slots that are compared are others than the one that changes.
  refine ⟨agree.source, agree.settings, agree.sessions, ?_, ?_⟩
  · simp [Host.withSlot, agree.length]
  · intro index fresh
    have different : index ≠ number := by
      rintro rfl
      exact Bool.false_ne_true (fresh.symm.trans used)
    rw [slot_withSlot, if_neg (fun found => different found.1)]
    exact agree.slots index fresh

/-- The slot of a document is none of the detached ones. -/
theorem stale_session (detached : ∀ number, stale number = true → host.Detached number)
    (document : DocumentId) : stale (host.session document).1 = false := by
  rw [Bool.eq_false_iff]
  intro used
  -- A detached slot exists, so the document would have had it before.
  obtain ⟨exist, lost⟩ := detached _ used
  exact lost document (find?_of_session_lt exist)

/-- A request through a detached slot makes no difference to the others. -/
theorem AgreeBut.answer_of_uses (agree : AgreeBut stale host other) {request : Request}
    (used : request.uses stale = true) : AgreeBut stale (host.answer request).2 other := by
  -- Only requests through a handle can use such a slot, and they change nothing else.
  cases request with
  | arm slot | consume slot | clear slot =>
    cases slot with
    | document => cases used
    | held number => exact agree.withSlot_left used _
  | isArmed slot =>
    cases slot with
    | document => cases used
    | held number => exact agree
  | complete | hold | hover | hoverAt | aliases | close | replaceSource => cases used

/-- Hosts that agree find the same slot and go on agreeing, where a detached slot is not looked for. -/
theorem AgreeBut.locate (agree : AgreeBut stale host other)
    (detached : ∀ number, stale number = true → host.Detached number) (slot : SlotRef)
    (unused : ∀ number, slot = .held number → stale number = false) :
    (host.locate slot).1 = (other.locate slot).1 ∧
      AgreeBut stale (host.locate slot).2 (other.locate slot).2 ∧
      stale (other.locate slot).1 = false := by
  -- A document is given no detached slot, and a handle names the one that it holds.
  cases slot with
  | document document =>
    have same := agree.session_fst document
    exact ⟨same, agree.session document, same ▸ stale_session detached document⟩
  | held number => exact ⟨rfl, agree, unused number rfl⟩

/-- A request that goes through no detached slot is answered alike by hosts that agree, which go on agreeing. -/
theorem AgreeBut.answer_of_not_uses (agree : AgreeBut stale host other)
    (detached : ∀ number, stale number = true → host.Detached number) {request : Request}
    (unused : request.uses stale = false) :
    (host.answer request).1 = (other.answer request).1 ∧
      AgreeBut stale (host.answer request).2 (other.answer request).2 := by
  cases request with
  | complete document text position cancellation =>
    -- The slot holds the same in both, and so does all else that a completion reads.
    obtain ⟨same, after, fresh⟩ := agree.locate detached (.document document) (fun _ => nofun)
    simp only [Host.locate] at same after fresh
    have content := after.slots _ fresh
    simp only [answer, same, content, after.source, after.settings]
    exact ⟨trivial, after.withSlot _ _⟩
  | hold document =>
    simp only [answer, agree.session_fst document]
    exact ⟨trivial, agree.session document⟩
  | arm slot handoff =>
    obtain ⟨same, after, fresh⟩ := agree.locate detached slot (by rintro number rfl; exact unused)
    have armed := after.withSlot (other.locate slot).1 (.arm handoff)
    simp only [answer, same, armed.slots _ fresh]
    exact ⟨trivial, armed⟩
  | consume slot =>
    obtain ⟨same, after, fresh⟩ := agree.locate detached slot (by rintro number rfl; exact unused)
    simp only [answer, same, after.slots _ fresh]
    exact ⟨trivial, after.withSlot _ _⟩
  | clear slot =>
    obtain ⟨same, after, fresh⟩ := agree.locate detached slot (by rintro number rfl; exact unused)
    have cleared := after.withSlot (other.locate slot).1 .disarmed
    simp only [answer, same, cleared.slots _ fresh]
    exact ⟨trivial, cleared⟩
  | isArmed slot =>
    obtain ⟨same, after, fresh⟩ := agree.locate detached slot (by rintro number rfl; exact unused)
    simp only [answer, same, after.slots _ fresh]
    exact ⟨trivial, after⟩
  | hover key => exact ⟨by simp [answer, agree.source, agree.settings], agree⟩
  | hoverAt text position => exact ⟨by simp [answer, hoverAt, agree.source, agree.settings], agree⟩
  | aliases => exact ⟨by simp [answer, agree.source], agree⟩
  | close document =>
    refine ⟨rfl, agree.source, agree.settings, ?_, agree.length, agree.slots⟩
    simp [answer, agree.sessions]
  | replaceSource source => exact ⟨rfl, rfl, agree.settings, rfl, agree.length, agree.slots⟩

/-- The answers to the requests that go through none of the given slots. -/
def answersWithout (host : Host) (stale : SlotId → Bool) (requests : List Request) :
    List Response :=
  ((requests.zip (host.run requests).1).filter fun entry => !entry.1.uses stale).map Prod.snd

/-- A request through one of the slots adds no answer. -/
theorem answersWithout_cons_of_uses {request : Request} (used : request.uses stale = true)
    (rest : List Request) :
    host.answersWithout stale (request :: rest) =
      (host.answer request).2.answersWithout stale rest := by
  -- The answer is left out, but its effect on the host is not.
  simp [answersWithout, run, used]

/-- Any other request adds its answer. -/
theorem answersWithout_cons_of_not_uses {request : Request} (unused : request.uses stale = false)
    (rest : List Request) :
    host.answersWithout stale (request :: rest) =
      (host.answer request).1 :: (host.answer request).2.answersWithout stale rest := by
  -- The request is kept, and so is its answer.
  simp [answersWithout, run, unused]

/-- Leaving out the requests through detached slots leaves all other answers as they are. -/
theorem AgreeBut.answersWithout_eq (agree : AgreeBut stale host other)
    (detached : ∀ number, stale number = true → host.Detached number) (requests : List Request) :
    host.answersWithout stale requests =
      (other.run (requests.filter fun request => !request.uses stale)).1 := by
  -- The two hosts take the requests in step, and the second one sits out those through detached slots.
  induction requests generalizing host other with
  | nil => rfl
  | cons request rest ih =>
    have later : ∀ number, stale number = true → (host.answer request).2.Detached number :=
      fun number used => (detached number used).of_precedes (precedes_answer host request)
    cases used : request.uses stale with
    | true =>
      -- The first host changes a slot that does not count, and its answer is left out.
      rw [answersWithout_cons_of_uses used, ih (agree.answer_of_uses used) later]
      simp [used]
    | false =>
      -- Both hosts answer alike and agree afterwards.
      obtain ⟨same, after⟩ := agree.answer_of_not_uses detached used
      rw [answersWithout_cons_of_not_uses used, ih after later, same]
      simp [used, run]

end Host

end SymbolAssist
