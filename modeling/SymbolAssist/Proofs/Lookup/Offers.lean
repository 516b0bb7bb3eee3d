import SymbolAssist.Proofs.Catalogue.History
import SymbolAssist.Proofs.Lookup.Receivers
import SymbolAssist.Proofs.Matching

/-! Exactly which methods are offered for a member that is typed behind a receiver. -/

namespace SymbolAssist

open Text

namespace Catalogue

variable (catalogue : Catalogue) {space : String} {receiver : TypeTag}

/-- A name stands for a receiver of a type: it groups no names, and it is a value of that type, or an
alias for the type where no value settles it. -/
structure Receives (space : String) (receiver : TypeTag) : Prop where
  /-- Nothing has no type. -/
  named : space ≠ ""
  /-- The name is not declared as a group of names. -/
  ungrouped : ∀ declared, catalogue.findAlias? space = some declared →
    declared.kind = .instanceName
  /-- The value of that name decides, and after it the alias. -/
  typed : catalogue.valueType? space = some receiver ∨
    catalogue.valueType? space = none ∧ ∃ declared target,
      catalogue.findAlias? space = some declared ∧ declared.target = some target ∧
      TypeTag.parse target = some receiver

/-- The type of a receiver, as it is worked out. -/
def receiver? (space : String) : Option TypeTag :=
  if space = "" ∨ (catalogue.findAlias? space).any fun found => found.kind == .namespaceName then none
  else
    (catalogue.valueType? space).or
      ((catalogue.findAlias? space).bind fun found => found.target.bind TypeTag.parse)

/-- The type that is worked out for a receiver is the one it has. -/
theorem receives_iff :
    catalogue.Receives space receiver ↔ catalogue.receiver? space = some receiver := by
  rw [receiver?]
  constructor
  · rintro ⟨named, ungrouped, typed⟩
    -- Neither reason to stop applies.
    have goesOn : ¬ (space = "" ∨
        (catalogue.findAlias? space).any fun found => found.kind == .namespaceName) := by
      simp only [named, false_or, Option.any_eq_true, beq_iff_eq, not_exists, not_and]
      intro declared found
      simp [ungrouped declared found]
    rw [if_neg goesOn]
    obtain typed | ⟨untyped, declared, target, found, named, parsed⟩ := typed
    · rw [typed, Option.some_or]
    · simp [untyped, found, named, parsed]
  · intro typed
    split at typed
    · cases typed
    · rename_i goesOn
      rw [not_or] at goesOn
      refine ⟨goesOn.1, fun declared found => ?_, ?_⟩
      · cases kind : declared.kind with
        | instanceName => rfl
        | namespaceName => exact absurd (by simp [found, kind]) goesOn.2
      · cases value : catalogue.valueType? space with
        | some tag => exact .inl (by simpa [value] using typed)
        | none =>
          rw [value, Option.none_or] at typed
          obtain ⟨declared, found, typed⟩ := Option.bind_eq_some_iff.mp typed
          obtain ⟨target, named, parsed⟩ := Option.bind_eq_some_iff.mp typed
          exact .inr ⟨rfl, declared, target, found, named, parsed⟩

/-- Of one category nothing is merged away. -/
theorem merged_singleton (category : Category) :
    catalogue.merged [category] = catalogue.records category :=
  -- The records are put into an empty map, which has no names of its own.
  OrderedMap.merge_empty _

/-- In a catalogue nothing fails, and a search reads the type of the receiver and all methods. -/
theorem methodReadings_toSource (space : String) :
    catalogue.toSource.methodReadings space =
      .ok ((catalogue.receiver? (String.ofList (trim space.toList))).map
        (·, catalogue.records .methods)) := by
  unfold Source.methodReadings
  dsimp only
  generalize String.ofList (trim space.toList) = name
  have aliased : catalogue.toSource.findAlias name = .ok (catalogue.findAlias? name) := rfl
  have filed : catalogue.toSource.category [.methods] = .ok (catalogue.records .methods) := by
    rw [← merged_singleton]
    rfl
  rw [receiver?, aliased, filed]
  -- The search stops where there is no name, at a group of names, and where no type is known.
  by_cases empty : name = ""
  · simp only [empty, if_true, true_or]
    rfl
  · by_cases grouped : ((catalogue.findAlias? name).any fun found => found.kind == .namespaceName)
    · simp only [empty, grouped, if_false, if_true, or_true, bind, Except.bind]
      rfl
    · simp only [empty, grouped, if_false, bind, Except.bind, receiverType_toSource]
      cases (catalogue.valueType? name).or _ <;> rfl

end Catalogue

/-- The type a method is declared on: that of its first parameter, or else the one that its name spells
before the last dot. -/
def Record.declaredOn? (record : Record) : Option TypeTag :=
  (record.arguments.head?.bind Argument.type).or (record.space?.bind TypeTag.parse)

/-- A method that a member typed behind a receiver may mean, whatever type it is called on. -/
def MayMean (settings : Settings) (space member key : String) (record : Record) : Prop :=
  record.isMethod ∧
  -- What is filed for any receiver is not offered.
  key.toList.head? ≠ some settings.wildcard ∧
  lastSegment record.name.toList ≠ [] ∧
  -- Behind the receiver, the member has no more typos than are forgiven.
  typos (space.toList ++ '.' :: member.toList)
    (space.toList ++ '.' :: lastSegment record.name.toList) ≤ settings.budgets.member

instance (settings : Settings) (space member key : String) (record : Record) :
    Decidable (MayMean settings space member key record) :=
  inferInstanceAs (Decidable (_ ∧ _ ∧ _ ∧ _))

namespace Record

variable {record : Record}

/-- A name starts with what it has before its last dot, if anything. -/
theorem head?_of_space? {space : String} {char : Char} (cut : record.space? = some space)
    (first : space.toList.head? = some char) : record.name.toList.head? = some char := by
  -- What stands before the last dot is the beginning of the name.
  obtain ⟨parts, found, rfl⟩ := Option.map_eq_some_iff.mp cut
  obtain ⟨whole, _⟩ := cutAtLastDot_eq_some_iff.mp found
  rw [String.toList_ofList] at first
  rw [whole, List.head?_append, first]
  rfl

/-- Outside the names for any receiver, nothing keeps a name from spelling the type of a method. -/
theorem receiverType?_eq {wildcard : Char} (method : record.isMethod)
    (bound : record.name.toList.head? ≠ some wildcard) :
    record.receiverType? wildcard = record.declaredOn? := by
  -- Of the declarations only that of a method is left.
  cases declaration : record.declaration with
  | method signature =>
    have arguments : record.arguments = signature.arguments := by
      simp only [arguments, signature?, declaration]
    simp only [receiverType?, declaredOn?, declaration, arguments]
    cases signature.arguments.head?.bind Argument.type with
    | some declared => rfl
    | none =>
      cases cut : record.space? with
      | none => rfl
      | some space =>
        have other : space.toList.head? ≠ some wildcard := fun first =>
          bound (head?_of_space? cut first)
        simp only [if_neg other, Option.none_or, Option.bind_some]
  | _ =>
    rw [isMethod, kind, declaration] at method
    cases method

end Record

variable {settings : Settings} {receiver : TypeTag} {space member key : String} {record : Record}

/-- A verdict is given on what may be meant, by the type that it is declared on. -/
theorem methodVerdict_eq (behind : space ≠ "") (own : key = record.name) :
    methodVerdict settings receiver space member key record =
      if MayMean settings space member key record then
        record.declaredOn?.elim (some (.error (.missingReceiver record.name))) fun declared =>
          if receiver.compatible declared then some (.ok record) else none
      else none := by
  unfold methodVerdict
  by_cases meant : MayMean settings space member key record
  · rw [if_pos meant]
    obtain ⟨method, bound, named, near⟩ := meant
    -- Both tests are passed, so the declared type decides.
    have kept : (!record.isMethod || settings.isWildcard key) = false := by
      simp [method, Settings.isWildcard, bound]
    have found : settings.budgets.matchesMember space.toList member.toList record.name.toList :=
      settings.budgets.matchesMember_iff.mpr ⟨by simpa using behind, named, near⟩
    rw [Record.receiverType?_eq method (own ▸ bound)]
    simp only [kept, found]
    cases record.declaredOn? <;> rfl
  · rw [if_neg meant]
    -- What may not be meant fails one of the tests.
    split
    · rfl
    · rename_i kept
      split
      · rfl
      · rename_i found
        refine absurd ?_ meant
        obtain ⟨_, named, near⟩ := settings.budgets.matchesMember_iff.mp (by simpa using found)
        simp only [Settings.isWildcard, Bool.or_eq_true, Bool.not_eq_true', beq_iff_eq, not_or,
          Bool.not_eq_false] at kept
        exact ⟨kept.1, kept.2, named, near⟩

section Verdicts

variable {entries : List (String × Record)}

/-- The methods that fit are those that may be meant and are declared on a fitting type. -/
theorem records_ofVerdicts (behind : space ≠ "") (own : ∀ entry ∈ entries, entry.1 = entry.2.name) :
    (MethodCandidates.ofVerdicts (entries.filterMap fun entry =>
      methodVerdict settings receiver space member entry.1 entry.2)).records =
      (entries.filter fun entry => MayMean settings space member entry.1 entry.2 ∧
        entry.2.declaredOn?.any receiver.compatible).map Prod.snd := by
  unfold MethodCandidates.ofVerdicts
  rw [List.filterMap_filterMap, ← List.filterMap_eq_map, List.filterMap_filter]
  refine List.filterMap_congr fun entry filed => ?_
  rw [methodVerdict_eq behind (own entry filed)]
  -- Only a method that may be meant has a verdict, and only a fitting type makes it one to offer.
  by_cases meant : MayMean settings space member entry.1 entry.2
  · cases declared : entry.2.declaredOn? with
    | none => simp [meant, Except.toOption]
    | some tag => by_cases fits : receiver.compatible tag <;> simp [meant, fits, Except.toOption]
  · simp [meant]

/-- The methods that are reported are those that may be meant and are declared on no type. -/
theorem errors_ofVerdicts (behind : space ≠ "") (own : ∀ entry ∈ entries, entry.1 = entry.2.name) :
    (MethodCandidates.ofVerdicts (entries.filterMap fun entry =>
      methodVerdict settings receiver space member entry.1 entry.2)).errors =
      ((entries.filter fun entry => MayMean settings space member entry.1 entry.2 ∧
        entry.2.declaredOn? = none).map Prod.snd).map fun record => .missingReceiver record.name := by
  -- A method is reported where its verdict is a failure, so entries can be compared one by one.
  unfold MethodCandidates.ofVerdicts
  dsimp only
  rw [List.filterMap_filterMap, List.map_map, ← List.filterMap_eq_map, List.filterMap_filter]
  refine List.filterMap_congr fun entry filed => ?_
  rw [methodVerdict_eq behind (own entry filed)]
  by_cases meant : MayMean settings space member entry.1 entry.2
  · cases declared : entry.2.declaredOn? with
    | none => simp [meant]
    | some tag => by_cases fits : receiver.compatible tag <;> simp [meant, fits]
  · simp [meant]

end Verdicts

/-- No method is filed twice. -/
theorem Catalogue.nodup_records (edits : List Edit) (category : Category) :
    (((ofEdits edits).records category).entries.map Prod.snd).Nodup := by
  -- Each record is filed under its name, and no two entries have the same one.
  refine List.Nodup.of_map Record.name ?_
  have named : (((ofEdits edits).records category).entries.map Prod.snd).map Record.name =
      ((ofEdits edits).records category).keys := by
    rw [List.map_map, OrderedMap.keys]
    exact List.map_congr_left fun entry filed => name_of_mem_entries filed
  rw [named]
  exact ((ofEdits edits).records category).distinct

/--
Exactly the methods that fit are offered, and those of which that cannot be told are reported.

Where the name in front stands for a receiver, the methods are gone through in the order of the
catalogue.
Of those that the member may mean, one that is declared on a fitting type is offered, once, and one
that is declared on no type is reported.
Where the name stands for no receiver there is neither, and in no case does the search fail.
-/
theorem offered_methods_exact (edits : List Edit) (settings : Settings) (space member : String) :
    let catalogue := Catalogue.ofEdits edits
    let name := String.ofList (trim space.toList)
    let methods := (catalogue.records .methods).entries
    (∀ receiver, catalogue.Receives name receiver →
      let fitting := (methods.filter fun entry => MayMean settings name member entry.1 entry.2 ∧
        entry.2.declaredOn?.any receiver.compatible).map Prod.snd
      let unclear := (methods.filter fun entry => MayMean settings name member entry.1 entry.2 ∧
        entry.2.declaredOn? = none).map Prod.snd
      catalogue.toSource.methods settings space member =
        .ok ⟨fitting, unclear.map fun record => .missingReceiver record.name⟩ ∧
      fitting.Nodup) ∧
    ((∀ receiver, ¬ catalogue.Receives name receiver) →
      catalogue.toSource.methods settings space member = .ok ⟨[], []⟩) := by
  intro catalogue name methods
  have read := catalogue.methodReadings_toSource space
  constructor
  · intro receiver receives fitting unclear
    have own : ∀ entry ∈ methods, entry.1 = entry.2.name := fun entry filed =>
      (Catalogue.name_of_mem_entries filed).symm
    rw [catalogue.receives_iff.mp receives] at read
    refine ⟨?_, (Catalogue.nodup_records edits .methods).sublist (List.filter_sublist.map Prod.snd)⟩
    -- Both lists are read off the verdicts on the methods, one by one.
    rw [Source.methods_eq, read]
    exact congrArg Except.ok ((MethodCandidates.mk.injEq ..).mpr
      ⟨records_ofVerdicts receives.named own, errors_ofVerdicts receives.named own⟩)
  · intro none
    have unknown : catalogue.receiver? name = .none := by
      rw [Option.eq_none_iff_forall_ne_some]
      exact fun receiver known => none receiver (catalogue.receives_iff.mpr known)
    rw [Source.methods_eq, read, unknown]
    rfl

/-- On an alias for arrays two methods are offered, by their parameter and by their name, and one
without a type is reported. -/
theorem offered_methods_exact_alias :
    let array : TypeTag := .container none .array [.named none "int"]
    let map : TypeTag := .container none .map []
    let method (name : String) (type : Option TypeTag) : Record :=
      -- The type of the receiver comes from the target of the alias; the rest is computed.
      ⟨name, none, false, false, .method ⟨[⟨"id", type, none⟩], none, none⟩⟩
    let edits : List Edit := [.insert .methods (method "list.push" (some array)),
      .insert .methods (method "array.pop" none), .insert .methods (method "map.put" (some map)),
      .insert .methods (method "pull" none), .insert .methods (method "*.pu" (some array)),
      .declare ⟨"arr", some "array<int>", .instanceName⟩]
    (Catalogue.ofEdits edits).toSource.methods .standard " arr" "pu" =
      .ok ⟨[method "list.push" (some array), method "array.pop" none], [.missingReceiver "pull"]⟩ := by
  intro array map method edits
  have name : String.ofList (trim " arr".toList) = "arr" := by decide +kernel
  have declared : (Catalogue.ofEdits edits).findAlias? "arr" =
    some ⟨"arr", some "array<int>", .instanceName⟩ := by decide +kernel
  have receives : (Catalogue.ofEdits edits).Receives "arr" array := by
    refine ⟨by decide, fun other found => ?_,
      .inr ⟨by decide +kernel, _, _, declared, rfl, by decide +kernel⟩⟩
    rw [declared] at found
    rw [← Option.some.inj found]
  have offered := (offered_methods_exact edits .standard " arr" "pu").1 array (name ▸ receives)
  rw [offered.1]
  decide +kernel

end SymbolAssist
