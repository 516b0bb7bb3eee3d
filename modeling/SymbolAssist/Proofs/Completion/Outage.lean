import SymbolAssist.Proofs.Completion.Candidates
import SymbolAssist.Proofs.Lookup.Methods
import SymbolAssist.Proofs.Lookup.Outage

/-! Through an outage each pass of a completion is whole, or is replaced by one failure. -/

namespace SymbolAssist

namespace Pass

/-- Through an outage a pass is the same, or adds one failure of the outage and nothing else. -/
def Degrades (outage : Outage) (full degraded : Pass) : Prop :=
  degraded = full ∨
    ∃ reason, outage.Raises reason ∧ degraded = ⟨[], [.unavailable reason]⟩

/-- A reading that comes through an outage makes a pass that does. -/
theorem degrades_read {outage : Outage} {full degraded : Except LookupError Pass}
    (spared : outage.Spares full degraded) : Degrades outage (read full) (read degraded) := by
  -- A reading fails as a whole or not at all, and so does the pass made of it.
  obtain ⟨pass, rfl, rfl | ⟨reason, raised, rfl⟩⟩ := spared
  · exact .inl rfl
  · exact .inr ⟨reason, raised, rfl⟩

end Pass

namespace Source

variable {settings : Settings}

/-- Which branch a completion takes without values to offer is up to the text, not to the source. -/
theorem completionList_nil_cases (settings : Settings) (text : List Char) (position : Position) :
    (∀ source : Source,
      source.completionList settings [] text position .never = .empty position) ∨
    ∃ typed fragment, ∀ source : Source,
      source.completionList settings [] text position .never =
        source.ordinaryList settings position typed fragment := by
  -- The line, its exclusion and the fragment are all read off the text.
  cases read : (LineTable.ofText text).lineText? text position.line with
  | none => exact .inl fun source => completionList_of_none read
  | some line =>
    by_cases skipped : Text.trim line = [] ∨ settings.isExcluded line
    · refine .inl fun source => ?_
      rw [completionList_of_some read]
      simp only [ne_eq, not_true_eq_false, if_false, if_pos skipped]
    · cases typed : Cursor.fragment? (Text.takeBytes position.column line) with
      | none =>
        refine .inl fun source => ?_
        rw [completionList_of_some read]
        simp [skipped, typed]
      | some fragment =>
        refine .inr ⟨Text.takeBytes position.column line, fragment, fun source => ?_⟩
        rw [completionList_of_some read]
        simp [skipped, typed]

/-- The types of a name are decided by what the source has under variables and fields. -/
theorem resolve_congr {first second : Source}
    (values : ∀ category ∈ Category.values, ∀ name,
      first.get [category] name = second.get [category] name) (name : String) :
    first.resolve name = second.resolve name := by
  -- Both categories are read for a key before anything is made of the answers.
  have readings : ∀ key, (Category.values.mapM fun category => first.get [category] key) =
      Category.values.mapM fun category => second.get [category] key := by
    intro key
    simp [Category.values, values .variables (by decide), values .fields (by decide)]
  simp only [resolve, readings]

/-- The methods of a receiver are decided by the aliases, the types of names and the methods. -/
theorem methods_congr {first second : Source}
    (aliases : ∀ name, first.findAlias name = second.findAlias name)
    (values : ∀ category ∈ Category.values, ∀ name,
      first.get [category] name = second.get [category] name)
    (methods : first.category [.methods] = second.category [.methods]) (space member : String) :
    first.methods settings space member = second.methods settings space member := by
  -- The type of a receiver is found through the categories of values, which answer alike.
  have receivers : ∀ space declared,
      first.receiverType space declared = second.receiverType space declared := by
    intro space declared
    simp only [receiverType, typeOf, resolve_congr values]
  simp only [Source.methods, aliases, receivers, methods]

/-- The only verdict that is a failure names a method whose receiver is unknown. -/
theorem eq_missingReceiver_of_verdict {receiver : TypeTag} {space member key : String}
    {record : Record} {error : LookupError}
    (verdict : methodVerdict settings receiver space member key record = some (.error error)) :
    error = .missingReceiver record.name := by
  -- Of the branches of a verdict only one is a failure.
  unfold methodVerdict at verdict
  split at verdict
  · cases verdict
  · split at verdict
    · cases verdict
    · split at verdict
      · cases verdict
        rfl
      · split at verdict <;> cases verdict

/-- A search for methods that succeeds reports only methods whose receiver is unknown. -/
theorem eq_missingReceiver_of_mem_methods {source : Source} {space member : String}
    {found : MethodCandidates} {error : LookupError}
    (answered : source.methods settings space member = .ok found) (reported : error ∈ found.errors) :
    ∃ name, error = .missingReceiver name := by
  rcases methods_eq_ok_cases answered with rfl | ⟨declared, receiver, methods, _, _, _, rfl⟩
  · simp [MethodCandidates.none] at reported
  · -- The failure is the verdict on one of the entries.
    obtain ⟨verdict, given, failed⟩ := List.mem_filterMap.mp reported
    obtain ⟨entry, _, judged⟩ := List.mem_filterMap.mp given
    cases verdict with
    | ok record => cases failed
    | error reason =>
      cases failed
      exact ⟨_, eq_missingReceiver_of_verdict judged⟩

/-- The same holds of the methods that a dotted fragment finds. -/
theorem eq_missingReceiver_of_mem_methodCandidates {source : Source} {fragment : List Char}
    {methods : List Candidate} {errors : List LookupError} {error : LookupError}
    (answered : source.methodCandidates settings fragment = .ok (methods, errors))
    (reported : error ∈ errors) : ∃ name, error = .missingReceiver name := by
  -- Without a dot no errors are reported, and with one they are those of the methods.
  unfold methodCandidates at answered
  split at answered
  · obtain ⟨found, searched, answered⟩ := exists_of_bind_eq_ok answered
    cases answered
    exact eq_missingReceiver_of_mem_methods searched reported
  · cases answered
    cases reported

/-- The pass over plain names reads only the categories of plain names. -/
theorem namesPass_congr {first second : Source}
    (symbols : first.category Category.freeSymbols = second.category Category.freeSymbols)
    (fragment : List Char) :
    first.namesPass settings fragment = second.namesPass settings fragment := by
  -- The categories of plain names are the only thing this pass reads.
  simp only [namesPass, freeCandidates, symbols]

end Source

namespace Catalogue

variable (catalogue : Catalogue) (outage : Outage) (settings : Settings) (fragment : List Char)

/-- The pass over plain names degrades as a whole. -/
theorem namesPass_behind :
    Pass.Degrades outage (catalogue.toSource.namesPass settings fragment)
      ((catalogue.behind outage).namesPass settings fragment) := by
  -- The pass is one reading and what is made of it, and only the reading can fail.
  refine Pass.degrades_read (Outage.Spares.bind ?_ fun _ => .pure outage _)
  exact (category_behind catalogue outage Category.freeSymbols).bind fun _ => .pure outage _

/-- Names that cannot be read are always reported. -/
theorem namesPass_behind_of_failed {reason : String}
    (failed : outage.categories Category.freeSymbols = some reason) :
    (catalogue.behind outage).namesPass settings fragment = ⟨[], [.unavailable reason]⟩ := by
  -- The outage answers for these categories with its reason, which becomes the error of the pass.
  have read : (catalogue.behind outage).category Category.freeSymbols =
      .error (.unavailable reason) := by
    simp only [behind, failed]
  simp only [Source.namesPass, Source.freeCandidates, read]
  rfl

/-- The methods that a dotted fragment finds come through an outage. -/
theorem methodCandidates_behind :
    outage.Spares (catalogue.toSource.methodCandidates settings fragment)
      ((catalogue.behind outage).methodCandidates settings fragment) := by
  -- Without a dot nothing is read, and with one the methods are, which come through an outage.
  unfold Source.methodCandidates
  split
  · exact (methods_behind catalogue outage settings _ _).bind fun _ => .pure outage _
  · exact .pure outage ([], [])

/-- The pass over methods degrades as a whole. -/
theorem methodsPass_behind :
    Pass.Degrades outage (catalogue.toSource.methodsPass settings fragment)
      ((catalogue.behind outage).methodsPass settings fragment) :=
  -- What is made of the methods found needs no reading of its own.
  Pass.degrades_read ((methodCandidates_behind catalogue outage settings fragment).bind fun _ =>
    .pure outage _)

/-- Without an outage the only failures are methods whose receiver is unknown. -/
theorem eq_missingReceiver_of_mem_methodsPass {error : LookupError}
    (reported : error ∈ (catalogue.toSource.methodsPass settings fragment).errors) :
    ∃ name, error = .missingReceiver name := by
  -- The full search succeeds, as the full half of any comparison with an outage says.
  obtain ⟨⟨methods, errors⟩, answered, _⟩ :=
    methodCandidates_behind catalogue ⟨fun _ => none, none⟩ settings fragment
  unfold Source.methodsPass at reported
  rw [answered] at reported
  exact Source.eq_missingReceiver_of_mem_methodCandidates answered reported

variable {outage settings fragment} {other : Outage}

/-- Outages that agree on some categories show the same records of them. -/
theorem category_behind_congr {categories : List Category}
    (same : other.categories categories = outage.categories categories) :
    (catalogue.behind other).category categories =
      (catalogue.behind outage).category categories := by
  -- What an outage shows of categories is decided by what it says of those.
  simp only [behind, same]

/-- The pass over methods never reads the categories of plain names. -/
theorem methodsPass_behind_congr
    (same : ∀ categories, categories ≠ Category.freeSymbols →
      other.categories categories = outage.categories categories)
    (aliases : other.aliases = outage.aliases) :
    (catalogue.behind other).methodsPass settings fragment =
      (catalogue.behind outage).methodsPass settings fragment := by
  -- Values and methods are read one category at a time, and plain names several together.
  have single : ∀ category, (catalogue.behind other).category [category] =
      (catalogue.behind outage).category [category] := fun category =>
    category_behind_congr catalogue (same [category] (by cases category <;> decide))
  have searched : ∀ space member, (catalogue.behind other).methods settings space member =
      (catalogue.behind outage).methods settings space member := by
    refine Source.methods_congr (fun name => ?_) (fun category _ name => ?_) (single .methods)
    · simp only [behind, aliases]
    · change (catalogue.behind other).category [category] >>= _ = _
      rw [single category]
      rfl
  simp only [Source.methodsPass, Source.methodCandidates, searched]

end Catalogue

/-- A list without failures of an outage is the list without the outage. -/
theorem CompletionList.eq_of_degrades {outage : Outage} {full degraded : CompletionList}
    {names methods namesLeft methodsLeft : Pass}
    (fullSplit : full.Splits names methods) (leftSplit : degraded.Splits namesLeft methodsLeft)
    (namesDegrade : Pass.Degrades outage names namesLeft)
    (methodsDegrade : Pass.Degrades outage methods methodsLeft)
    (start : degraded.replaceStart = full.replaceStart)
    (incomplete : degraded.incomplete = full.incomplete)
    (silent : ∀ reason, .unavailable reason ∉ degraded.errors) : degraded = full := by
  -- A pass that failed would have left its failure among the errors of the list.
  rw [leftSplit.errors] at silent
  have sameNames : namesLeft = names := namesDegrade.resolve_right fun ⟨reason, _, failed⟩ =>
    silent reason (by simp [failed])
  have sameMethods : methodsLeft = methods := methodsDegrade.resolve_right
    fun ⟨reason, _, failed⟩ => silent reason (by simp [failed])
  subst sameNames sameMethods
  have items : degraded.items = full.items := leftSplit.items.trans fullSplit.items.symm
  have errors : degraded.errors = full.errors := leftSplit.errors.trans fullSplit.errors.symm
  cases full
  cases degraded
  exact (CompletionList.mk.injEq ..).mpr ⟨items, start, incomplete, errors⟩

/--
A completion through an outage loses whole passes, and says so.

The list splits into a pass over plain names and a pass over methods, with and without the outage.
Through the outage each pass is the full one, or is empty with one failure of the outage.
What happens to the names is decided by their own categories, and what happens to the methods by all
the other readings; where completion reads at all, names that cannot be read are reported.
The rest of the list stays, and no list is short without a failure.
-/
theorem completion_degrades_by_pass (catalogue : Catalogue) (settings : Settings) (text : String)
    (position : Position) :
    let full := (catalogue.toSource.complete settings .disarmed text position .never).1
    let left := fun outage =>
      ((catalogue.behind outage).complete settings .disarmed text position .never).1
    ∃ (names methods : Pass) (namesLeft methodsLeft : Outage → Pass),
      full.Splits names methods ∧ names.errors = [] ∧
      (∀ error ∈ methods.errors, ∃ name, error = .missingReceiver name) ∧
      ∀ outage : Outage,
        (left outage).Splits (namesLeft outage) (methodsLeft outage) ∧
        Pass.Degrades outage names (namesLeft outage) ∧
        Pass.Degrades outage methods (methodsLeft outage) ∧
        (∀ other : Outage,
          other.categories Category.freeSymbols = outage.categories Category.freeSymbols →
          namesLeft other = namesLeft outage) ∧
        (∀ other : Outage,
          (∀ categories, categories ≠ Category.freeSymbols →
            other.categories categories = outage.categories categories) →
          other.aliases = outage.aliases → methodsLeft other = methodsLeft outage) ∧
        (full.incomplete → ∀ reason, outage.categories Category.freeSymbols = some reason →
          namesLeft outage = ⟨[], [.unavailable reason]⟩) ∧
        (left outage).replaceStart = full.replaceStart ∧
        (left outage).incomplete = full.incomplete ∧
        ((∀ reason, .unavailable reason ∉ (left outage).errors) → left outage = full) := by
  have listed : ∀ source : Source, (source.complete settings .disarmed text position .never).1 =
      source.completionList settings [] text.toList position .never := fun source =>
    Source.complete_of_ne_before (by decide)
  simp only [listed]
  rcases Source.completionList_nil_cases settings text.toList position with
    empty | ⟨typed, fragment, ordinary⟩
  · -- Where the text allows no completion neither source is read.
    simp only [empty]
    have split := CompletionList.splits_empty position
    refine ⟨.skipped, .skipped, fun _ => .skipped, fun _ => .skipped, split, rfl, ?_, fun outage =>
      ⟨split, .inl rfl, .inl rfl, fun _ _ => rfl, fun _ _ _ => rfl, nofun,
        trivial, trivial, fun _ => trivial⟩⟩
    simp [Pass.skipped]
  · simp only [ordinary]
    refine ⟨catalogue.toSource.namesPass settings fragment,
      catalogue.toSource.methodsPass settings fragment,
      fun outage => (catalogue.behind outage).namesPass settings fragment,
      fun outage => (catalogue.behind outage).methodsPass settings fragment,
      Source.splits_ordinaryList _ settings position typed fragment, rfl,
      fun _ => catalogue.eq_missingReceiver_of_mem_methodsPass settings fragment,
      fun outage => ?_⟩
    -- Each pass is compared on its own, and the list is put together from the two.
    have split := Source.splits_ordinaryList (catalogue.behind outage) settings position typed
      fragment
    have namesDegrade := catalogue.namesPass_behind outage settings fragment
    have methodsDegrade := catalogue.methodsPass_behind outage settings fragment
    refine ⟨split, namesDegrade, methodsDegrade, fun other same => ?_, fun other same aliases => ?_,
      fun _ reason failed => ?_, rfl, rfl, fun silent => ?_⟩
    · exact Source.namesPass_congr (catalogue.category_behind_congr same) fragment
    · exact catalogue.methodsPass_behind_congr same aliases
    · exact catalogue.namesPass_behind_of_failed outage settings fragment failed
    · exact CompletionList.eq_of_degrades
        (Source.splits_ordinaryList _ settings position typed fragment) split namesDegrade
        methodsDegrade rfl rfl silent

end SymbolAssist
