import SymbolAssist.Proofs.Host.Step

/-! The slots of documents exist and are kept apart, and no number is ever given out twice. -/

namespace SymbolAssist.Host

/-- Every document's slot exists, and no two documents have the same one. -/
structure WellFormed (host : Host) : Prop where
  /-- The slot of a document exists. -/
  made : ∀ {document number}, host.sessions.find? document = some number →
    number < host.slots.length
  /-- The slot of a document is no other document's. -/
  apart : ∀ {document other number}, host.sessions.find? document = some number →
    host.sessions.find? other = some number → document = other

/-- A new host has no documents. -/
theorem wellFormed_new (source : Source) (settings : Settings) :
    (Host.new source settings).WellFormed where
  -- Nothing is found among no sessions.
  made found := by cases found
  apart found := by cases found

/-- The slot that a document is given exists from then on. -/
theorem session_lt {host : Host} (wellFormed : host.WellFormed) (document : DocumentId) :
    (host.session document).1 < (host.session document).2.slots.length := by
  -- A slot that was found was made before, and a new one is the last of the list.
  unfold session
  cases found : host.sessions.find? document with
  | some number => exact wellFormed.made found
  | none => simp

/-- Giving a document a slot keeps all slots apart. -/
theorem wellFormed_session {host : Host} (wellFormed : host.WellFormed) (document : DocumentId) :
    (host.session document).2.WellFormed := by
  -- A document that keeps its slot cannot have the one that is given away now.
  have unique : ∀ {other}, other ≠ document →
      host.sessions.find? other ≠ some (host.session document).1 := by
    intro other different found
    have own := find?_of_session_lt (wellFormed.made found)
    exact different (wellFormed.apart found own)
  constructor
  · -- The slot of the document is made if need be, and the other slots are still there.
    intro other number found
    rw [find?_session] at found
    split at found
    · cases found
      exact session_lt wellFormed document
    · exact Nat.lt_of_lt_of_le (wellFormed.made found) (length_le_session host document)
  · -- Each of the two documents either is the one that is given a slot or keeps its own.
    intro first second number one two
    rw [find?_session] at one two
    split at one <;> split at two
    · simp_all
    · cases one
      exact absurd two (unique ‹_›)
    · cases two
      exact absurd one (unique ‹_›)
    · exact wellFormed.apart one two

/-- What a document is given a slot for keeps all slots apart. -/
theorem wellFormed_opened {host : Host} (wellFormed : host.WellFormed)
    (document : Option DocumentId) : (host.opened document).WellFormed := by
  -- Without a document nothing is opened.
  cases document with
  | none => exact wellFormed
  | some document => exact wellFormed_session wellFormed document

/-- Every request keeps all slots apart. -/
theorem wellFormed_answer {host : Host} (wellFormed : host.WellFormed) (request : Request) :
    (host.answer request).2.WellFormed := by
  cases change_answer host request with
  | acts number target keeps result =>
    -- A change of content leaves both the table and the number of slots.
    rw [result]
    have opened := wellFormed_opened wellFormed request.document?
    exact ⟨fun found => by simpa [withSlot] using opened.made found,
      fun one two => opened.apart one two⟩
  | reads target about keeps result => rwa [result]
  | detaches source sessions target about left result =>
    -- What is still found was found before.
    have before : ∀ {document number}, sessions.find? document = some number →
        host.sessions.find? document = some number := by
      intro document number found
      rw [left] at found
      split at found
      · cases found
      · exact found
    rw [result]
    exact ⟨fun found => wellFormed.made (before found),
      fun one two => wellFormed.apart (before one) (before two)⟩

/-- After a request a document has the slot that it was given or had, unless that was taken away. -/
theorem find?_answer (host : Host) (request : Request) (document : DocumentId) :
    (host.answer request).2.sessions.find? document =
      if request.forgets document then none
      else if request.document? = some document then some (host.session document).1
      else host.sessions.find? document := by
  cases change_answer host request with
  | acts touched target keeps result =>
    -- Only the document of the request can have been given a slot.
    simp only [result, keeps document, withSlot]
    cases about : request.document? with
    | none => simp [opened]
    | some other =>
      simp only [opened, find?_session]
      by_cases same : document = other
      · simp [same]
      · simp [same, Ne.symm same]
  | reads target about keeps result => simp [result, about, keeps document]
  | detaches source sessions target about left result => simp [result, about, left document]

/-- The slots after a request are those before it, and the one that was made for its document. -/
theorem length_answer (host : Host) (request : Request) :
    (host.answer request).2.slots.length = (host.opened request.document?).slots.length := by
  -- A request puts something into a slot or replaces the sessions, and adds no slot by that.
  cases change_answer host request with
  | acts touched target keeps result => simp [result, withSlot]
  | reads target about keeps result => simp [result, about, opened]
  | detaches source sessions target about left result => simp [result, about, opened]

/-- Between two hosts slots are only added, and a slot that was there goes to no further document. -/
structure Precedes (earlier later : Host) : Prop where
  /-- No slot is lost. -/
  longer : earlier.slots.length ≤ later.slots.length
  /-- A document with a slot that was there already had it before. -/
  kept : ∀ {document number}, number < earlier.slots.length →
    later.sessions.find? document = some number → earlier.sessions.find? document = some number

/-- A host precedes itself. -/
theorem Precedes.refl (host : Host) : Precedes host host :=
  -- No slot is added and no session changes.
  ⟨Nat.le_refl _, fun _ found => found⟩

/-- What holds over one stretch of time and over the next holds over both. -/
theorem Precedes.trans {first second third : Host} (one : Precedes first second)
    (two : Precedes second third) : Precedes first third :=
  -- The slots of the first host are there in the second one, so both facts speak of them.
  ⟨Nat.le_trans one.longer two.longer, fun exist found =>
    one.kept exist (two.kept (Nat.lt_of_lt_of_le exist one.longer) found)⟩

/-- A host precedes the one after a request. -/
theorem precedes_answer (host : Host) (request : Request) :
    Precedes host (host.answer request).2 := by
  constructor
  · -- At most the slot of the document is added.
    rw [length_answer]
    cases request.document? with
    | none => exact Nat.le_refl _
    | some document => exact length_le_session host document
  · intro document number exist found
    rw [find?_answer] at found
    split at found
    · cases found
    · split at found
      · -- The document is given a slot that was there, so it is not one that is made now.
        cases found
        exact find?_of_session_lt exist
      · exact found

end SymbolAssist.Host
