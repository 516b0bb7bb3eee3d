import SymbolAssist.Proofs.Lookup.WholeLists

/-! Reading a catalogue through an outage gives the full answer or reports the outage. -/

namespace SymbolAssist

namespace Outage

variable {α β : Type} {outage : Outage}

/-- The outage gives this reason for something that cannot be read. -/
def Raises (outage : Outage) (reason : String) : Prop :=
  (∃ categories, outage.categories categories = some reason) ∨ outage.aliases = some reason

/-- A full answer comes through an outage unchanged, or a failure of the outage takes its place. -/
def Spares (outage : Outage) (full degraded : Except LookupError α) : Prop :=
  ∃ value, full = .ok value ∧
    (degraded = .ok value ∨
      ∃ reason, outage.Raises reason ∧ degraded = .error (.unavailable reason))

/-- What needs no reading comes through. -/
theorem Spares.pure (outage : Outage) (value : α) :
    outage.Spares (Pure.pure value) (Pure.pure value) :=
  -- Both give the value.
  ⟨value, rfl, .inl rfl⟩

/-- One reading after another comes through if each of them does. -/
theorem Spares.bind {full degraded : Except LookupError α} {next later : α → Except LookupError β}
    (first : outage.Spares full degraded)
    (second : ∀ value, outage.Spares (next value) (later value)) :
    outage.Spares (full >>= next) (degraded >>= later) := by
  obtain ⟨value, rfl, rfl | ⟨reason, raised, rfl⟩⟩ := first
  · exact second value
  · -- The full answer goes on, while the failure stands for all that would follow.
    obtain ⟨result, answered, _⟩ := second value
    exact ⟨result, answered, .inr ⟨reason, raised, rfl⟩⟩

/-- A list of readings comes through if each of them does. -/
theorem Spares.mapM {full degraded : α → Except LookupError β}
    (each : ∀ item, outage.Spares (full item) (degraded item)) (items : List α) :
    outage.Spares (items.mapM full) (items.mapM degraded) := by
  -- The first reading comes through, and then the others do.
  induction items with
  | nil => exact .pure outage []
  | cons item rest ih =>
    rw [List.mapM_cons, List.mapM_cons]
    refine (each item).bind fun value => ih.bind fun values => ?_
    exact .pure outage (value :: values)

end Outage

namespace Catalogue

variable (catalogue : Catalogue) (outage : Outage)

/-- Whole categories come through an outage. -/
theorem category_behind (categories : List Category) :
    outage.Spares (catalogue.toSource.category categories)
      ((catalogue.behind outage).category categories) := by
  -- The outage answers for these categories with a reason, or the catalogue does.
  refine ⟨catalogue.merged categories, rfl, ?_⟩
  simp only [behind]
  cases failed : outage.categories categories with
  | none => exact .inl rfl
  | some reason => exact .inr ⟨reason, .inl ⟨categories, failed⟩, rfl⟩

/-- The aliases come through an outage. -/
theorem aliases_behind :
    outage.Spares catalogue.toSource.aliases (catalogue.behind outage).aliases := by
  -- The outage answers for the aliases with a reason, or the catalogue does.
  refine ⟨catalogue.aliases, rfl, ?_⟩
  simp only [behind]
  cases failed : outage.aliases with
  | none => exact .inl rfl
  | some reason => exact .inr ⟨reason, .inr failed, rfl⟩

/-- A record by its name comes through, although it is looked up in the merged categories then. -/
theorem get_behind (categories : List Category) (name : String) :
    outage.Spares (catalogue.toSource.get categories name)
      ((catalogue.behind outage).get categories name) := by
  -- A record is found in whole categories, and these come through.
  rw [get_toSource]
  exact (category_behind catalogue outage categories).bind fun records =>
    .pure outage (records.find? name)

/-- An alias by its name comes through. -/
theorem findAlias_behind (name : String) :
    outage.Spares (catalogue.toSource.findAlias name)
      ((catalogue.behind outage).findAlias name) :=
  -- An alias is looked for in the list of all, which comes through.
  (aliases_behind catalogue outage).bind fun _ => .pure outage _

/-- The declared types of a name come through. -/
theorem resolve_behind (name : String) :
    outage.Spares (catalogue.toSource.resolve name) ((catalogue.behind outage).resolve name) := by
  -- Each category of values is read in turn, and what is made of the records needs no reading.
  unfold Source.resolve
  dsimp only
  split
  · refine Outage.Spares.bind (.mapM (fun category => ?_) _) fun records => .pure outage _
    exact get_behind catalogue outage [category] _
  · exact .pure outage _

/-- The type of a name comes through. -/
theorem typeOf_behind (name : String) :
    outage.Spares (catalogue.toSource.typeOf name) ((catalogue.behind outage).typeOf name) :=
  -- The type is made of the declared types without reading anything.
  (resolve_behind catalogue outage name).bind fun _ => .pure outage _

/-- Whether a type is declared comes through. -/
theorem isUserType_behind (tag : TypeTag) :
    outage.Spares (catalogue.toSource.isUserType tag)
      ((catalogue.behind outage).isUserType tag) := by
  -- Only a named type is looked up.
  unfold Source.isUserType
  cases tag.name? with
  | some name => exact (get_behind catalogue outage [.types] name).bind fun _ => .pure outage _
  | none => exact .pure outage _

/-- The type of a receiver comes through. -/
theorem receiverType_behind (space : String) (declared : Option Alias) :
    outage.Spares (catalogue.toSource.receiverType space declared)
      ((catalogue.behind outage).receiverType space declared) := by
  -- Where no value has the name, the alias was read before.
  refine (typeOf_behind catalogue outage space).bind fun found => ?_
  cases found <;> exact .pure outage _

/-- The methods of a receiver come through. -/
theorem methods_behind (settings : Settings) (space member : String) :
    outage.Spares (catalogue.toSource.methods settings space member)
      ((catalogue.behind outage).methods settings space member) := by
  unfold Source.methods
  dsimp only
  -- The readings come in the order alias, receiver, methods, with an early end after each.
  split
  · exact .pure outage _
  · refine (findAlias_behind catalogue outage _).bind fun declared => ?_
    split
    · exact .pure outage _
    · refine (receiverType_behind catalogue outage _ declared).bind fun receiver => ?_
      cases receiver with
      | none => exact .pure outage _
      | some receiver =>
        exact (category_behind catalogue outage [.methods]).bind fun _ => .pure outage _

/-- The first hit of some probes comes through. -/
theorem firstHit_behind (probes : List Probe) :
    outage.Spares (catalogue.toSource.firstHit probes)
      ((catalogue.behind outage).firstHit probes) := by
  -- A probe that misses hands over to the next one, so the induction follows the probes.
  induction probes with
  | nil => exact .pure outage none
  | cons probe rest ih =>
    refine (get_behind catalogue outage probe.categories probe.key).bind fun hit => ?_
    cases hit with
    | some record => exact .pure outage (some record)
    | none => exact ih

/-- What a member is filed as comes through. -/
theorem expand_behind (settings : Settings) (receiver : Option TypeTag) (function : String) :
    outage.Spares (catalogue.toSource.expand settings receiver function)
      ((catalogue.behind outage).expand settings receiver function) := by
  -- The aliases are only read where the first search hits nothing.
  refine (firstHit_behind catalogue outage _).bind fun hit => ?_
  cases hit with
  | some record => exact .pure outage (some record)
  | none =>
    exact (aliases_behind catalogue outage).bind fun aliases => firstHit_behind catalogue outage _

/-- What is shown for a member of a declared type comes through. -/
theorem hoverUserType_behind (space function : String) (tag : TypeTag) :
    outage.Spares (catalogue.toSource.hoverUserType space function tag)
      ((catalogue.behind outage).hoverUserType space function tag) := by
  -- The record of the member is only read where the type is declared.
  refine (isUserType_behind catalogue outage tag).bind fun declared => ?_
  split
  · cases tag.name? with
    | some name => exact (get_behind catalogue outage _ _).bind fun _ => .pure outage _
    | none => exact .pure outage none
  · exact .pure outage none

/-- What is shown for a function behind a receiver comes through. -/
theorem hoverMember_behind (settings : Settings) (space function : String) :
    outage.Spares (catalogue.toSource.hoverMember settings space function)
      ((catalogue.behind outage).hoverMember settings space function) := by
  unfold Source.hoverMember
  split
  · exact .pure outage none
  · split
    · exact (firstHit_behind catalogue outage _).bind fun _ => .pure outage _
    · refine (typeOf_behind catalogue outage space).bind fun receiver => ?_
      -- What the receiver's own type does not show is looked for elsewhere.
      have elsewhere := (expand_behind catalogue outage settings receiver function).bind fun hit =>
        .pure outage (hit.map fun record : Record =>
          (⟨record.withReceiver space, function, some space⟩ : Hover))
      cases receiver with
      | some tag =>
        refine (hoverUserType_behind catalogue outage space function tag).bind fun own => ?_
        cases own with
        | some hover => exact .pure outage (some hover)
        | none => exact elsewhere
      | none => exact elsewhere

/-- What is shown for a dotted name comes through. -/
theorem hover_behind (settings : Settings) (key : String) :
    outage.Spares (catalogue.toSource.hover settings key)
      ((catalogue.behind outage).hover settings key) := by
  -- An empty key is answered without reading, and any other one as a member.
  unfold Source.hover
  dsimp only
  split
  · exact .pure outage none
  · exact hoverMember_behind catalogue outage settings _ _

end Catalogue

/--
A failure to read is never taken for a miss.

Whatever an outage keeps from being read, each look-up over the catalogue gives the same answer as
without the outage, or one of the outage's own failures.
-/
theorem outage_reported_or_harmless (catalogue : Catalogue) (outage : Outage)
    (settings : Settings) :
    (∀ key, outage.Spares (catalogue.toSource.hover settings key)
      ((catalogue.behind outage).hover settings key)) ∧
    (∀ space function, outage.Spares (catalogue.toSource.hoverMember settings space function)
      ((catalogue.behind outage).hoverMember settings space function)) ∧
    (∀ name, outage.Spares (catalogue.toSource.resolve name)
      ((catalogue.behind outage).resolve name)) ∧
    (∀ name, outage.Spares (catalogue.toSource.typeOf name)
      ((catalogue.behind outage).typeOf name)) ∧
    (∀ tag, outage.Spares (catalogue.toSource.isUserType tag)
      ((catalogue.behind outage).isUserType tag)) ∧
    (∀ space member, outage.Spares (catalogue.toSource.methods settings space member)
      ((catalogue.behind outage).methods settings space member)) :=
  -- Each look-up is made of readings that come through.
  ⟨catalogue.hover_behind outage settings, catalogue.hoverMember_behind outage settings,
    catalogue.resolve_behind outage, catalogue.typeOf_behind outage,
    catalogue.isUserType_behind outage, catalogue.methods_behind outage settings⟩

end SymbolAssist
