import SymbolAssist.Proofs.Host.Run
import SymbolAssist.Proofs.Host.StaleHandles

/-! Which documents have slots in the course of a run, and what becomes of the slots they lose. -/

namespace SymbolAssist

namespace Run

variable {run : Run} {number : SlotId} {document : DocumentId}

/-- At this time a document loses its slot, if it has one. -/
def Forgets (run : Run) (time : Nat) (document : DocumentId) : Prop :=
  ∃ request, run.request? time = some request ∧ request.forgets document = true

/-- A document was given a slot before this time and has not lost it since. -/
def HasSlot (run : Run) (document : DocumentId) (now : Nat) : Prop :=
  ∃ since, since < now ∧ run.document? since = some document ∧
    ∀ time, since < time → time < now → ¬ run.Forgets time document

/-- At this time a slot is taken away from its document. -/
def Detaches (run : Run) (time : Nat) (number : SlotId) : Prop :=
  ∃ document, (run.hostAt time).sessions.find? document = some number ∧
    run.Forgets time document

/-- A document that is given a slot at this time has it afterwards. -/
theorem hasSlot_succ_of_document? {now : Nat} (about : run.document? now = some document) :
    run.HasSlot document (now + 1) :=
  -- No time lies between this one and the next at which the slot could be taken away.
  ⟨now, Nat.lt_succ_self now, about, fun time after before => by omega⟩

/-- A document that loses its slot at this time has none afterwards. -/
theorem not_hasSlot_succ_of_forgets {now : Nat} (forgets : run.Forgets now document) :
    ¬ run.HasSlot document (now + 1) := by
  rintro ⟨since, earlier, about, kept⟩
  rcases Nat.lt_succ_iff_lt_or_eq.mp earlier with before | rfl
  · exact kept now before (Nat.lt_succ_self now) forgets
  · -- A request that takes slots away gives none.
    obtain ⟨request, asked, forgets⟩ := forgets
    simp [document?, asked, Request.document?_of_forgets forgets] at about

/-- A document that neither gets nor loses a slot has one as before. -/
theorem hasSlot_succ_iff {now : Nat} (about : run.document? now ≠ some document)
    (kept : ¬ run.Forgets now document) :
    run.HasSlot document (now + 1) ↔ run.HasSlot document now := by
  constructor
  · -- The slot was not given at this very time.
    rintro ⟨since, earlier, given, left⟩
    have different : since ≠ now := by
      rintro rfl
      exact about given
    exact ⟨since, by omega, given, fun time after before => left time after (by omega)⟩
  · -- And it is not lost at this time either.
    rintro ⟨since, earlier, given, left⟩
    refine ⟨since, by omega, given, ?_⟩
    intro time after before
    rcases Nat.lt_succ_iff_lt_or_eq.mp before with before | rfl
    · exact left time after before
    · exact kept

/-- The documents with a slot are those that were given one and have not lost it. -/
theorem find?_hostAt_isSome_iff (source : Source) (settings : Settings) (requests : List Request)
    (document : DocumentId) (now : Nat) :
    (((ofNew source settings requests).hostAt now).sessions.find? document).isSome ↔
      (ofNew source settings requests).HasSlot document now := by
  -- The induction is on time; a request takes the slot away, gives it, or leaves it as it is.
  induction now with
  | zero =>
    constructor
    · intro found
      cases found
    · rintro ⟨since, earlier, _⟩
      exact absurd earlier (Nat.not_lt_zero since)
  | succ now ih =>
    cases asked : (ofNew source settings requests).request? now with
    | none =>
      rw [hostAt_succ_of_none asked, ih, hasSlot_succ_iff]
      · simp [document?, asked]
      · rintro ⟨request, found, _⟩
        simp [asked] at found
    | some request =>
      rw [hostAt_succ asked, Host.find?_answer]
      cases forgets : request.forgets document with
      | true =>
        have none := not_hasSlot_succ_of_forgets ⟨request, asked, forgets⟩
        simp [none]
      | false =>
        by_cases about : request.document? = some document
        · have given : (ofNew source settings requests).document? now = some document := by
            simp [document?, asked, about]
          simp [about, hasSlot_succ_of_document? given]
        · rw [if_neg (by simp), if_neg about, ih, hasSlot_succ_iff]
          · simpa [document?, asked] using about
          · rintro ⟨found, again, lost⟩
            rw [asked] at again
            cases again
            simp [forgets] at lost

/-- A slot that was taken away from its document is no document's from then on. -/
theorem detached_of_detaches (wellFormed : run.start.WellFormed) {time later : Nat}
    (detaches : run.Detaches time number) (order : time < later) :
    (run.hostAt later).Detached number := by
  obtain ⟨owner, found, request, asked, forgets⟩ := detaches
  have before := wellFormed_hostAt wellFormed time
  have exist := before.made found
  have step : (run.hostAt time).Precedes (run.hostAt (time + 1)) :=
    run.precedes_hostAt (Nat.le_succ time)
  -- Right after the loss, a document that had the slot could only be the one that lost it.
  have lost : (run.hostAt (time + 1)).Detached number := by
    refine ⟨Nat.lt_of_lt_of_le exist step.longer, ?_⟩
    intro document has
    have same : document = owner := before.apart (step.kept exist has) found
    rw [hostAt_succ asked, Host.find?_answer, same, if_pos forgets] at has
    cases has
  exact lost.of_precedes (run.precedes_hostAt order)

end Run

/-- The slot that is made for a document without one is new and empty. -/
theorem Host.session_of_none {host : Host} {document : DocumentId}
    (absent : host.sessions.find? document = none) :
    (host.session document).1 = host.slots.length ∧
      (host.session document).2.slot (host.session document).1 = .disarmed := by
  -- The new slot has the first number that is free, under which there was nothing before.
  rcases Host.session_cases host document with own | ⟨_, fresh⟩
  · simp [absent] at own
  · refine ⟨fresh, ?_⟩
    rw [Host.slot_session, fresh, Host.slot, List.getElem?_eq_none (Nat.le_refl _)]
    rfl

/--
Over any run of a new host, every document has a slot of its own, and a slot that it loses is gone.

Whoever kept the number of a lost slot can do nothing with it that shows in any other answer.
-/
theorem sessions_stay_apart (source : Source) (settings : Settings) (requests : List Request) :
    let run := Run.ofNew source settings requests
    -- Two documents never share a slot.
    (∀ now document other number, (run.hostAt now).sessions.find? document = some number →
      (run.hostAt now).sessions.find? other = some number → document = other) ∧
    -- A slot that a document has lost never becomes a document's slot again.
    (∀ time later number document, run.Detaches time number → time < later →
      (run.hostAt later).sessions.find? document ≠ some number) ∧
    -- Requests through such slots can be left out of all that follows without changing another answer.
    (∀ now stale later, (∀ number, stale number = true → ∃ time < now, run.Detaches time number) →
      (run.hostAt now).answersWithout stale later =
        ((run.hostAt now).run (later.filter fun request => !request.uses stale)).1) ∧
    -- A document without a slot is given a new one in which nothing waits.
    (∀ now document, ¬ run.HasSlot document now →
      ((run.hostAt now).session document).1 = (run.hostAt now).slots.length ∧
      ((run.hostAt now).session document).2.slot ((run.hostAt now).session document).1 =
        .disarmed) ∧
    -- The documents that are counted are those that were given a slot and have not lost it.
    (∀ now, ∃ documents : List DocumentId, documents.Nodup ∧
      (∀ document, document ∈ documents ↔ run.HasSlot document now) ∧
      (run.hostAt now).sessionCount = documents.length) := by
  have wellFormed : (Run.ofNew source settings requests).start.WellFormed :=
    Host.wellFormed_new source settings
  have given := Run.find?_hostAt_isSome_iff source settings requests
  refine ⟨?_, ?_, ?_, ?_, ?_⟩
  · intro now document other number one two
    exact (Run.wellFormed_hostAt wellFormed now).apart one two
  · intro time later number document detaches order
    exact (Run.detached_of_detaches wellFormed detaches order).2 document
  · intro now stale later lost
    have detached : ∀ number, stale number = true →
        ((Run.ofNew source settings requests).hostAt now).Detached number := by
      intro number used
      obtain ⟨time, order, detaches⟩ := lost number used
      exact Run.detached_of_detaches wellFormed detaches order
    exact (Host.AgreeBut.refl stale _).answersWithout_eq detached later
  · intro now document absent
    rw [← given, Option.not_isSome_iff_eq_none] at absent
    exact Host.session_of_none absent
  · intro now
    refine ⟨((Run.ofNew source settings requests).hostAt now).sessions.keys, ?_, ?_, ?_⟩
    · exact OrderedMap.distinct _
    · intro document
      rw [OrderedMap.mem_keys_iff, given]
    · exact (OrderedMap.length_keys _).symm

end SymbolAssist
