import SymbolAssist.Host
import SymbolAssist.Proofs.Catalogue.OrderedMap
import SymbolAssist.Proofs.Completion.Handoff

/-! What one request does to a host: which slot it acts on, what it leaves there, what it serves. -/

namespace SymbolAssist

/-- The document whose slot is meant, if it is not named by a number. -/
def SlotRef.document? : SlotRef → Option DocumentId
  | .document owner => some owner
  | .held _ => none

namespace Request

/-- The document that has a slot after the request, if the request is about one. -/
def document? : Request → Option DocumentId
  | .complete document .. | .hold document => some document
  | .arm slot _ | .consume slot | .clear slot | .isArmed slot => slot.document?
  | .hover _ | .hoverAt .. | .aliases | .close _ | .replaceSource _ => none

/-- The request takes the slot of a document away. -/
def forgets : Request → DocumentId → Bool
  | .close closed, document => closed = document
  | .replaceSource _, _ => true
  | _, _ => false

/-- The request decides what waits in its slot from then on. -/
def settles : Request → Bool
  | .complete .. | .arm .. | .consume _ | .clear _ => true
  | _ => false

/-- What the request leaves in its slot. -/
def leaves : Request → Slot → Slot
  | .arm _ handoff, _ => .arm handoff
  | .complete .., _ | .consume _, _ | .clear _, _ => .disarmed
  | _, slot => slot

/-- A request that takes slots away gives none. -/
theorem document?_of_forgets {request : Request} {document : DocumentId}
    (forgets : request.forgets document = true) : request.document? = none := by
  -- Only closing a document and replacing the source take slots away.
  cases request with
  | close | replaceSource => rfl
  | complete | hold | arm | consume | clear | isArmed | hover | hoverAt | aliases => cases forgets

end Request

namespace Host

/-- The slot that is meant, where a number that no slot has means none. -/
def named? (host : Host) : SlotRef → Option SlotId
  | .document document => some (host.session document).1
  | .held number => if number < host.slots.length then some number else none

/-- The slot that a request acts on. -/
def target? (host : Host) : Request → Option SlotId
  | .complete document .. | .hold document => some (host.session document).1
  | .arm slot _ | .consume slot | .clear slot | .isArmed slot => host.named? slot
  | .hover _ | .hoverAt .. | .aliases | .close _ | .replaceSource _ => none

/-- The host in which a document, if one is given, has a slot. -/
def opened (host : Host) : Option DocumentId → Host
  | some document => (host.session document).2
  | none => host

/-- Putting something into a slot changes that slot alone, if it exists. -/
theorem slot_withSlot (host : Host) (number other : SlotId) (content : Slot) :
    (host.withSlot number content).slot other =
      if other = number ∧ number < host.slots.length then content else host.slot other := by
  -- A list is changed at a number only where it has one.
  simp only [withSlot, slot, List.getElem?_set]
  by_cases same : number = other
  · subst same
    by_cases exist : number < host.slots.length <;> simp [exist]
  · simp [same, Ne.symm same]

/-- Putting into a slot what it holds changes nothing. -/
theorem withSlot_slot (host : Host) (number : SlotId) :
    host.withSlot number (host.slot number) = host := by
  -- The two lists are compared place by place, where only the place of the slot needs a look.
  have kept : host.slots.set number (host.slots[number]?.getD .disarmed) = host.slots := by
    apply List.ext_getElem?
    intro index
    rw [List.getElem?_set]
    by_cases same : number = index
    · subst same
      by_cases exist : number < host.slots.length <;> simp [exist]
    · simp [same]
  rw [withSlot, slot, kept]

/-- Asking for the slot of a document changes the content of no slot. -/
@[simp] theorem slot_session (host : Host) (document : DocumentId) (number : SlotId) :
    (host.session document).2.slot number = host.slot number := by
  unfold session
  cases host.sessions.find? document with
  | some found => rfl
  | none =>
    -- The slot that is made is empty, as every number without a slot reads.
    simp only [slot, List.getElem?_append]
    by_cases exist : number < host.slots.length
    · simp [exist]
    · cases number - host.slots.length <;> simp [exist]

/-- Asking for the slot of a document makes it that document's slot, and leaves the others alone. -/
theorem find?_session (host : Host) (document other : DocumentId) :
    (host.session document).2.sessions.find? other =
      if other = document then some (host.session document).1 else host.sessions.find? other := by
  unfold session
  cases found : host.sessions.find? document with
  | some number =>
    -- The document has its slot already, and the table stays as it is.
    by_cases same : other = document <;> simp [same, found]
  | none => exact OrderedMap.find?_insert host.sessions document other _

/-- Asking for the slot of a document takes no slot away. -/
theorem length_le_session (host : Host) (document : DocumentId) :
    host.slots.length ≤ (host.session document).2.slots.length := by
  -- A slot is added at the end or none is.
  unfold session
  cases host.sessions.find? document <;> simp

/-- The slot that a document is given is its own already, or a new one. -/
theorem session_cases (host : Host) (document : DocumentId) :
    host.sessions.find? document = some (host.session document).1 ∨
      (host.sessions.find? document = none ∧ (host.session document).1 = host.slots.length) := by
  -- A slot is made only where none is found.
  unfold session
  cases found : host.sessions.find? document with
  | some number => exact .inl rfl
  | none => exact .inr ⟨rfl, rfl⟩

/-- A document that is given a slot which was there before has it already. -/
theorem find?_of_session_lt {host : Host} {document : DocumentId}
    (exist : (host.session document).1 < host.slots.length) :
    host.sessions.find? document = some (host.session document).1 := by
  rcases session_cases host document with own | ⟨_, fresh⟩
  · exact own
  · -- A new slot takes the first number that no slot has.
    rw [fresh] at exist
    exact absurd exist (Nat.lt_irrefl _)

/-- A number means the slot that has it. -/
theorem named?_held_eq_some {host : Host} {held number : SlotId} :
    host.named? (.held held) = some number ↔ held = number ∧ number < host.slots.length := by
  simp only [named?]
  by_cases exist : held < host.slots.length
  · -- The slot exists, so only the numbers are left to compare.
    rw [if_pos exist, Option.some.injEq]
    constructor
    · rintro rfl
      exact ⟨rfl, exist⟩
    · exact And.left
  · rw [if_neg exist]
    constructor
    · nofun
    · rintro ⟨rfl, found⟩
      exact absurd found exist

/-- A slot that is meant is found in the host in which its document has one. -/
theorem locate_of_named? {host : Host} {slot : SlotRef} {number : SlotId}
    (named : host.named? slot = some number) :
    host.locate slot = (number, host.opened slot.document?) := by
  -- A document is given its slot, and a handle means a slot that exists.
  cases slot with
  | document document =>
    cases named
    rfl
  | held held =>
    obtain ⟨rfl, _⟩ := named?_held_eq_some.mp named
    rfl

/-- A request that acts on a slot changes the content of that slot, and nothing else. -/
theorem answer_of_target? {host : Host} {request : Request} {number : SlotId}
    (target : host.target? request = some number) :
    (host.answer request).2 = (host.opened request.document?).withSlot number
      (request.leaves ((host.opened request.document?).slot number)) := by
  cases request with
  | complete document text position cancellation =>
    cases target
    simp [answer, opened, Request.document?, Request.leaves]
  | hold document =>
    -- The content of the slot stays, which is the same as putting it there again.
    cases target
    exact (withSlot_slot _ _).symm
  | arm slot handoff => simp [answer, locate_of_named? target, Request.document?, Request.leaves]
  | consume slot =>
    simp [answer, locate_of_named? target, Request.document?, Request.leaves, Slot.consume]
  | clear slot => simp [answer, locate_of_named? target, Request.document?, Request.leaves]
  | isArmed slot =>
    simp [answer, locate_of_named? target, Request.document?, Request.leaves, withSlot_slot]
  | hover | hoverAt | aliases | close | replaceSource => cases target

/-- A number that no slot has changes nothing. -/
theorem withSlot_of_length_le {host : Host} {number : SlotId} (missing : host.slots.length ≤ number)
    (content : Slot) : host.withSlot number content = host := by
  -- Setting a list behind its end changes nothing.
  rw [withSlot, List.set_eq_of_length_le missing]

/-- A reference that means no slot is a number that no slot has. -/
theorem eq_held_of_named? {host : Host} {slot : SlotRef} (named : host.named? slot = none) :
    ∃ number, slot = .held number ∧ host.slots.length ≤ number := by
  -- A document always means a slot, and a handle does if its number is within the list.
  cases slot with
  | document document => cases named
  | held number =>
    refine ⟨number, rfl, Nat.not_lt.mp fun exist => ?_⟩
    rw [named?_held_eq_some.mpr ⟨rfl, exist⟩] at named
    cases named

/-- What a request can do: act on one slot, do nothing, or take the slots of documents away. -/
inductive Change (host : Host) (request : Request) (next : Host) : Prop
  /-- The slot of the request gets a new content, and is made first if its document has none. -/
  | acts (number : SlotId) (target : host.target? request = some number)
      (keeps : ∀ document, request.forgets document = false)
      (result : next = (host.opened request.document?).withSlot number
        (request.leaves ((host.opened request.document?).slot number)))
  /-- The request only reads, or means a slot that does not exist. -/
  | reads (target : host.target? request = none) (about : request.document? = none)
      (keeps : ∀ document, request.forgets document = false) (result : next = host)
  /-- Documents lose their slots, which keep their content. -/
  | detaches (source : Source) (sessions : OrderedMap DocumentId SlotId)
      (target : host.target? request = none) (about : request.document? = none)
      (left : ∀ document, sessions.find? document =
        if request.forgets document then none else host.sessions.find? document)
      (result : next = { host with source := source, sessions := sessions })

/-- Every request does one of these things. -/
theorem change_answer (host : Host) (request : Request) :
    Change host request (host.answer request).2 := by
  -- The cases are split by the slot that the request acts on, and only then by the request.
  cases target : host.target? request with
  | some number =>
    refine .acts number target ?_ (answer_of_target? target)
    intro document
    cases request with
    | close | replaceSource => cases target
    | complete | hold | arm | consume | clear | isArmed | hover | hoverAt | aliases => rfl
  | none =>
    cases request with
    | complete | hold => cases target
    | arm slot | consume slot | clear slot | isArmed slot =>
      -- Nothing is put into a slot that does not exist.
      obtain ⟨number, rfl, missing⟩ := eq_held_of_named? target
      refine .reads target rfl (fun _ => rfl) ?_
      simp only [answer, locate, withSlot_of_length_le missing]
    | hover | hoverAt | aliases => exact .reads target rfl (fun _ => rfl) rfl
    | close closed =>
      refine .detaches host.source (host.sessions.erase closed) target rfl ?_ rfl
      intro document
      rw [OrderedMap.find?_erase]
      by_cases same : document = closed <;> simp [Request.forgets, same, Ne.symm]
    | replaceSource source => exact .detaches source .empty target rfl (fun _ => rfl) rfl

end Host

end SymbolAssist
