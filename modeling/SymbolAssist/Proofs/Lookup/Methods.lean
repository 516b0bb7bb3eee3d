import SymbolAssist.Lookup.Methods

/-! What a search for methods reads, and that stricter verdicts on it leave fewer methods. -/

namespace SymbolAssist

/-- A reading that succeeds succeeds in both of its steps. -/
theorem exists_of_bind_eq_ok {α β : Type} {first : Except LookupError α}
    {next : α → Except LookupError β} {result : β} (answered : first >>= next = .ok result) :
    ∃ value, first = .ok value ∧ next value = .ok result := by
  -- A failure of the first step would be that of the whole.
  cases first with
  | error reason => cases answered
  | ok value => exact ⟨value, rfl, answered⟩

/-- Results that a second function repeats are among its results, in the same order. -/
theorem filterMap_sublist {α β : Type} {few many : α → Option β}
    (repeated : ∀ item result, few item = some result → many item = some result) (items : List α) :
    (items.filterMap few).Sublist (items.filterMap many) := by
  induction items with
  | nil => exact .slnil
  | cons item rest ih =>
    cases given : few item with
    | none =>
      rw [List.filterMap_cons_none given]
      -- The second function may have a result here that the first one has not.
      cases other : many item with
      | none => rwa [List.filterMap_cons_none other]
      | some result =>
        rw [List.filterMap_cons_some other]
        exact ih.cons result
    | some result =>
      rw [List.filterMap_cons_some given, List.filterMap_cons_some (repeated item result given)]
      exact ih.cons_cons result

/-- What a search for methods reads: the type of the receiver and all methods, or nothing where there
is no receiver. -/
def Source.methodReadings (source : Source) (space : String) :
    Except LookupError (Option (TypeTag × RecordMap)) := do
  let space := String.ofList (Text.trim space.toList)
  if space = "" then return none
  let declared ← source.findAlias space
  if declared.any fun found => found.kind == .namespaceName then return none
  match ← source.receiverType space declared with
  | none => return none
  | some receiver =>
    let methods ← source.category [.methods]
    return some (receiver, methods)

/-- The verdicts of a search on what it has read. -/
def MethodCandidates.ofReadings (settings : Settings) (space member : String) :
    Option (TypeTag × RecordMap) → MethodCandidates
  | .none => .none
  | .some (receiver, methods) =>
    .ofVerdicts (methods.entries.filterMap fun entry =>
      methodVerdict settings receiver (String.ofList (Text.trim space.toList)) member entry.1 entry.2)

namespace Source

variable {source : Source} {settings narrow wide : Settings} {space member shorter : String}

/-- Neither the settings nor the member have a say in what is read. -/
theorem methods_eq :
    source.methods settings space member =
      (source.methodReadings space).map (.ofReadings settings space member) := by
  unfold methods methodReadings
  dsimp only
  -- The readings come in the order alias, receiver, methods, with an early end after each.
  split
  · rfl
  · cases source.findAlias (String.ofList (Text.trim space.toList)) with
    | error reason => rfl
    | ok declared =>
      simp only [bind, Except.bind]
      split
      · rfl
      · cases source.receiverType (String.ofList (Text.trim space.toList)) declared with
        | error reason => rfl
        | ok receiver =>
          cases receiver with
          | none => rfl
          | some receiver => cases source.category [.methods] <;> rfl

/-- A verdict does not change when settings or member do, as long as they go on to match. -/
theorem methodVerdict_of_matches (wildcard : wide.wildcard = narrow.wildcard) {receiver : TypeTag}
    {key : String} {record : Record} {verdict : Except LookupError Record}
    (alsoFound : narrow.budgets.matchesMember space.toList member.toList record.name.toList →
      wide.budgets.matchesMember space.toList shorter.toList record.name.toList)
    (given : methodVerdict narrow receiver space member key record = some verdict) :
    methodVerdict wide receiver space shorter key record = some verdict := by
  unfold methodVerdict Settings.isWildcard at given ⊢
  rw [wildcard]
  -- The entry is passed over for its kind or key by both, and for its name by the narrow one only.
  split at given
  · cases given
  · rename_i kind
    rw [if_neg kind]
    split at given
    · cases given
    · rename_i found
      rw [if_neg (by simpa using alsoFound (by simpa using found))]
      exact given

/-- Verdicts that are dropped take their methods and failures with them, and no others. -/
theorem ofVerdicts_sublist {few many : List (Except LookupError Record)} (dropped : few.Sublist many) :
    (MethodCandidates.ofVerdicts few).records.Sublist (MethodCandidates.ofVerdicts many).records ∧
      (MethodCandidates.ofVerdicts few).errors.Sublist (MethodCandidates.ofVerdicts many).errors :=
  -- Each verdict is turned into a method or a failure by itself.
  ⟨dropped.filterMap _, dropped.filterMap _⟩

/-- A search that matches fewer members fails as the other one does, or finds a part of what the other
one finds. -/
theorem methods_sublist (space : String) (wildcard : wide.wildcard = narrow.wildcard)
    (alsoFound : ∀ receiver name, narrow.budgets.matchesMember receiver member.toList name →
      wide.budgets.matchesMember receiver shorter.toList name) :
    (∃ reason, source.methods narrow space member = .error reason ∧
      source.methods wide space shorter = .error reason) ∨
    ∃ few many, source.methods narrow space member = .ok few ∧
      source.methods wide space shorter = .ok many ∧
      few.records.Sublist many.records ∧ few.errors.Sublist many.errors := by
  rw [methods_eq, methods_eq]
  cases source.methodReadings space with
  | error reason => exact .inl ⟨reason, rfl, rfl⟩
  | ok read =>
    refine .inr ⟨_, _, rfl, rfl, ?_⟩
    cases read with
    | none => exact ⟨.slnil, .slnil⟩
    | some read =>
      -- Both judge the same entries in the same order.
      refine ofVerdicts_sublist (filterMap_sublist (fun entry verdict => ?_) _)
      exact methodVerdict_of_matches wildcard (alsoFound _ _)

/-- What was read was found in this order: the alias, the type of the receiver, the methods. -/
theorem methodReadings_eq_some {receiver : TypeTag} {methods : RecordMap}
    (read : source.methodReadings space = .ok (some (receiver, methods))) :
    let receiverName := String.ofList (Text.trim space.toList)
    ∃ declared, source.findAlias receiverName = .ok declared ∧
      source.receiverType receiverName declared = .ok (some receiver) ∧
      source.category [.methods] = .ok methods := by
  intro receiverName
  unfold methodReadings at read
  dsimp only at read
  -- None of the early ends was taken, as nothing would have been read then.
  split at read
  · cases read
  · obtain ⟨declared, aliased, read⟩ := exists_of_bind_eq_ok read
    split at read
    · cases read
    · obtain ⟨inferred, typed, read⟩ := exists_of_bind_eq_ok read
      cases inferred with
      | none => cases read
      | some inferred =>
        obtain ⟨found, listed, read⟩ := exists_of_bind_eq_ok read
        cases read
        exact ⟨declared, aliased, typed, listed⟩

/-- A search for methods that succeeds ends early without any, or has found the type of the receiver and
judged every method by it. -/
theorem methods_eq_ok_cases {found : MethodCandidates}
    (answered : source.methods settings space member = .ok found) :
    let receiverName := String.ofList (Text.trim space.toList)
    found = .none ∨ ∃ declared receiver methods,
      source.findAlias receiverName = .ok declared ∧
      source.receiverType receiverName declared = .ok (some receiver) ∧
      source.category [.methods] = .ok methods ∧
      found = .ofVerdicts (methods.entries.filterMap fun entry =>
        methodVerdict settings receiver receiverName member entry.1 entry.2) := by
  -- The search is its readings and a judgement of each method, which cannot fail.
  intro receiverName
  rw [methods_eq] at answered
  cases readings : source.methodReadings space with
  | error reason =>
    rw [readings] at answered
    cases answered
  | ok outcome =>
    rw [readings] at answered
    cases answered
    cases outcome with
    | none => exact .inl rfl
    | some read =>
      obtain ⟨declared, aliased, typed, listed⟩ := methodReadings_eq_some readings
      exact .inr ⟨declared, read.1, read.2, aliased, typed, listed, rfl⟩

end Source

end SymbolAssist
