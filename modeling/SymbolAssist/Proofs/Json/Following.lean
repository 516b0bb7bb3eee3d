import SymbolAssist.Json.Reader

/-! Readers that read the same texts as another reader, and take only some of its results. -/

namespace SymbolAssist.Reader

variable {α β σ τ σ' τ' ι : Type} {text rest : List Char}

/-- Two readers in a row succeed if the second one does on what the first one leaves. -/
theorem run_bind_eq_ok_iff {first : Reader α} {next : α → Reader β} {result : β} :
    (first >>= next).run text = .ok (result, rest) ↔
      ∃ value middle, first.run text = .ok (value, middle) ∧
        (next value).run middle = .ok (result, rest) := by
  -- If the first reader fails, neither side holds.
  rw [StateT.run_bind]
  cases read : first.run text with
  | error fault => simp [Bind.bind, Except.bind]
  | ok pair =>
    obtain ⟨value, middle⟩ := pair
    simp [Bind.bind, Except.bind, and_assoc]

/-- Nothing is read where a constant is returned. -/
theorem run_pure_eq_ok_iff {value result : α} :
    (pure value : Reader α).run text = .ok (result, rest) ↔ value = result ∧ text = rest := by
  -- A constant is returned with the whole text still to read.
  rw [StateT.run_pure]
  simp [Pure.pure, Except.pure]

/-- What is made of a result leaves as much of the text as the result does. -/
theorem run_map_eq_ok_iff {reader : Reader α} {change : α → β} {result : β} :
    (reader >>= fun value => pure (change value)).run text = .ok (result, rest) ↔
      ∃ value, reader.run text = .ok (value, rest) ∧ change value = result := by
  -- What follows the reader is a constant, which leaves the text alone.
  simp only [run_bind_eq_ok_iff, run_pure_eq_ok_iff]
  constructor
  · rintro ⟨value, _, read, same, rfl⟩
    exact ⟨value, read, same⟩
  · rintro ⟨value, read, same⟩
    exact ⟨value, rest, read, same, rfl⟩

/-- A fault is no success. -/
theorem run_throw_ne_ok {fault : JsonFault} {result : α} :
    (throw fault : Reader α).run text ≠ .ok (result, rest) := by
  -- The two outcomes are made by different constructors.
  intro success
  cases success

/-- Nothing is read where a value is refused. -/
theorem run_refuse_ne_ok {result : α} :
    (refuse : Reader α).run text ≠ .ok (result, rest) := by
  -- A value is refused at once or after it has been read, and both end in a fault.
  intro success
  obtain ⟨char, _, _, success⟩ := run_bind_eq_ok_iff.mp success
  dsimp only at success
  split at success
  · obtain ⟨_, _, thrown, _⟩ := run_bind_eq_ok_iff.mp success
    exact run_throw_ne_ok thrown
  · obtain ⟨_, _, _, thrown⟩ := run_bind_eq_ok_iff.mp success
    exact run_throw_ne_ok thrown

/--
One reader follows another in a view of its results.

The follower succeeds exactly where the leader succeeds with a result that has a view.
It then takes as much off the text and gives the view.
-/
def Follows (leader : Reader σ) (view : σ → Option τ) (follower : Reader τ) : Prop :=
  ∀ text result rest, follower.run text = .ok (result, rest) ↔
    ∃ value, leader.run text = .ok (value, rest) ∧ view value = some result

namespace Follows

variable {leader : Reader σ} {follower : Reader τ} {view : σ → Option τ} {view' : σ' → Option τ'}

/-- Every reader follows itself. -/
theorem refl (reader : Reader σ) : Follows reader some reader := by
  -- Every result is the view of itself.
  intro text result rest
  simp

/-- A constant follows one that it is the view of. -/
theorem pure {value : σ} {result : τ} (seen : view value = some result) :
    Follows (Pure.pure value) view (Pure.pure result) := by
  -- Both return at once, so only the results have to be compared.
  intro text other rest
  simp only [run_pure_eq_ok_iff]
  constructor
  · rintro ⟨rfl, rfl⟩
    exact ⟨value, ⟨rfl, rfl⟩, seen⟩
  · rintro ⟨_, ⟨rfl, rfl⟩, viewed⟩
    exact ⟨Option.some.inj (seen.symm.trans viewed), rfl⟩

/-- A reader that never succeeds follows one whose results have no view. -/
theorem of_never (fails : ∀ text result rest, follower.run text ≠ .ok (result, rest))
    (unseen : ∀ text value rest, leader.run text = .ok (value, rest) → view value = none) :
    Follows leader view follower := by
  -- Neither of the two has a success to compare.
  intro text result rest
  refine iff_of_false (fails text result rest) ?_
  rintro ⟨value, read, seen⟩
  rw [unseen text value rest read] at seen
  cases seen

/-- Readers in a row follow each other if what the second one needs to have a view had one before. -/
theorem bind {next : σ → Reader σ'} {next' : τ → Reader τ'} (first : Follows leader view follower)
    (second : ∀ value result, view value = some result → Follows (next value) view' (next' result))
    (seen : ∀ value text later rest, (next value).run text = .ok (later, rest) →
      (view' later).isSome → (view value).isSome) :
    Follows (leader >>= next) view' (follower >>= next') := by
  intro text result rest
  simp only [run_bind_eq_ok_iff]
  constructor
  · rintro ⟨found, middle, read, more⟩
    obtain ⟨value, led, viewed⟩ := (first text found middle).mp read
    obtain ⟨later, ledOn, viewedOn⟩ := (second value found viewed middle result rest).mp more
    exact ⟨later, ⟨value, middle, led, ledOn⟩, viewedOn⟩
  · rintro ⟨later, ⟨value, middle, led, ledOn⟩, viewedOn⟩
    -- The last result has a view, so the one before it has one that the follower reads.
    obtain ⟨found, viewed⟩ := Option.isSome_iff_exists.mp
      (seen value middle later rest ledOn (by simp [viewedOn]))
    exact ⟨found, middle, (first text found middle).mpr ⟨value, led, viewed⟩,
      (second value found viewed middle result rest).mpr ⟨later, ledOn, viewedOn⟩⟩

/-- Readers with the same start follow each other if their ends do. -/
theorem after (start : Reader α) {next : α → Reader σ} {next' : α → Reader τ}
    (follows : ∀ value, Follows (next value) view (next' value)) :
    Follows (start >>= next) view (start >>= next') := by
  -- The start follows itself, and every result of it is its own view.
  refine bind (refl start) ?_ fun _ _ _ _ _ _ => rfl
  intro value result same
  cases same
  exact follows value

/-- What is read behind a result does not change who follows whom. -/
theorem before (finish : Reader α) (follows : Follows leader view follower) :
    Follows (leader >>= fun value => finish >>= fun _ => Pure.pure value) view
      (follower >>= fun result => finish >>= fun _ => Pure.pure result) := by
  -- The results pass through unchanged, so that they are seen as before.
  refine follows.bind (fun _ _ seen => after finish fun _ => pure seen) ?_
  intro value text later rest read
  obtain ⟨_, _, _, returned⟩ := run_bind_eq_ok_iff.mp read
  obtain ⟨rfl, -⟩ := run_pure_eq_ok_iff.mp returned
  exact id

/-- What a follower makes of the results of its leader can be changed on either side. -/
theorem map {change : σ → σ'} {change' : τ → τ'} (follows : Follows leader view follower)
    (seen : ∀ value, view' (change value) = (view value).map change') :
    Follows (leader >>= fun value => Pure.pure (change value)) view'
      (follower >>= fun result => Pure.pure (change' result)) := by
  -- The changed result is seen exactly where the result is.
  refine follows.bind ?_ ?_
  · intro value result viewed
    exact pure (by rw [seen, viewed, Option.map_some])
  · intro value text later rest read viewed
    obtain ⟨rfl, -⟩ := run_pure_eq_ok_iff.mp read
    rwa [seen, Option.isSome_map] at viewed

end Follows

/-- Steps taken for one item after the other until there is none, for at most as many rounds as given. -/
def loop (next : Bool → Reader (Option ι)) (step : σ → ι → Reader σ) : Nat → Bool → σ → Reader σ
  | 0, _, _ => throw .malformed
  | rounds + 1, first, state => do
    match ← next first with
    | some item => loop next step rounds false (← step state item)
    | none => return state

/-- The members of an object are read in such a loop over its keys. -/
theorem membersFrom_eq_loop (paired : Bool) (step : σ → String → Reader σ) (rounds : Nat)
    (first : Bool) (state : σ) :
    membersFrom paired step rounds first state = loop (nextKey paired) step rounds first state := by
  -- Both run through the same rounds, and stop where there is no further key.
  induction rounds generalizing first state with
  | zero => rfl
  | succ rounds ih =>
    rw [membersFrom, loop]
    congr 1
    funext key
    cases key with
    | none => rfl
    | some key => simp only [ih]

/-- The elements of a list are read in such a loop, whose items say no more than that there is one. -/
theorem elementsFrom_eq_loop (step : σ → Reader σ) (rounds : Nat) (first : Bool) (state : σ) :
    elementsFrom step rounds first state =
      loop (fun first => do return if ← nextElement first then some () else none)
        (fun state _ => step state) rounds first state := by
  -- Whether there is another element is all that the item of a round says.
  induction rounds generalizing first state with
  | zero => rfl
  | succ rounds ih =>
    rw [elementsFrom, loop, bind_assoc]
    congr 1
    funext another
    cases another with
    | false => simp
    | true => simp [ih]

namespace Follows

variable {leader : Reader σ} {follower : Reader τ} {view : σ → Option τ} {view' : σ' → Option τ'}

section Loop

variable {next : Bool → Reader (Option ι)} {step : σ → ι → Reader σ} {step' : τ → ι → Reader τ}

/-- Where the state behind a loop has a view, the state before it had one. -/
theorem isSome_of_loop
    (seen : ∀ state item text later rest, (step state item).run text = .ok (later, rest) →
      (view later).isSome → (view state).isSome) {rounds : Nat} {first : Bool} {state later : σ}
    (read : (loop next step rounds first state).run text = .ok (later, rest))
    (viewed : (view later).isSome) : (view state).isSome := by
  -- The view is followed back from the end of the loop, one round after the other.
  induction rounds generalizing first state text with
  | zero => exact absurd read run_throw_ne_ok
  | succ rounds ih =>
    rw [loop, run_bind_eq_ok_iff] at read
    obtain ⟨item, middle, _, read⟩ := read
    cases item with
    | none =>
      obtain ⟨rfl, -⟩ := run_pure_eq_ok_iff.mp read
      exact viewed
    | some item =>
      obtain ⟨between, behind, stepped, read⟩ := run_bind_eq_ok_iff.mp read
      exact seen state item middle between behind stepped (ih read)

/-- A loop follows another one if each of its steps does. -/
theorem loop
    (each : ∀ state result, view state = some result →
      ∀ item, Follows (step state item) view (step' result item))
    (seen : ∀ state item text later rest, (step state item).run text = .ok (later, rest) →
      (view later).isSome → (view state).isSome)
    (rounds : Nat) (first : Bool) {state : σ} {result : τ} (viewed : view state = some result) :
    Follows (loop next step rounds first state) view (loop next step' rounds first result) := by
  -- The states change from round to round, so they stay quantified over.
  induction rounds generalizing first state result with
  | zero => exact of_never (fun _ _ _ => run_throw_ne_ok) fun _ _ _ read => absurd read run_throw_ne_ok
  | succ rounds ih =>
    rw [Reader.loop, Reader.loop]
    refine after (next first) fun item => ?_
    cases item with
    | none => exact pure viewed
    | some item =>
      refine (each state result viewed item).bind (fun later found viewed => ih false viewed) ?_
      intro between text later rest read
      exact isSome_of_loop seen read

/-- A list is followed element by element. -/
theorem list {step : σ → Reader σ} {step' : τ → Reader τ}
    (each : ∀ state result, view state = some result → Follows (step state) view (step' result))
    (seen : ∀ state text later rest, (step state).run text = .ok (later, rest) →
      (view later).isSome → (view state).isSome)
    {state : σ} {result : τ} (viewed : view state = some result) :
    Follows (list step state) view (list step' result) := by
  -- Between its brackets a list is a loop, and loops are followed step by step.
  refine after advance fun _ => after get fun text => ?_
  rw [elementsFrom_eq_loop, elementsFrom_eq_loop]
  exact before closeList (loop (fun state result viewed _ => each state result viewed)
    (fun state _ => seen state) _ _ viewed)

/-- An object is followed member by member. -/
theorem object (paired : Bool) {step : σ → String → Reader σ} {step' : τ → String → Reader τ}
    (each : ∀ state result, view state = some result →
      ∀ key, Follows (step state key) view (step' result key))
    (seen : ∀ state key text later rest, (step state key).run text = .ok (later, rest) →
      (view later).isSome → (view state).isSome)
    {state : σ} {result : τ} (viewed : view state = some result) :
    Follows (object paired step state) view (object paired step' result) := by
  -- Between its brackets an object is a loop over keys, and loops are followed step by step.
  refine after advance fun _ => after get fun text => ?_
  rw [membersFrom_eq_loop, membersFrom_eq_loop]
  exact before advance (loop each seen _ _ viewed)

end Loop

end Follows

/-- A text is read if all of it but a gap is read. -/
theorem readAll_eq_ok_iff {reader : Reader α} {text : String} {result : α} :
    reader.readAll text = .ok result ↔
      ∃ rest, reader.run text.toList = .ok (result, rest) ∧ rest.dropWhile isGap = [] := by
  rw [readAll]
  cases read : reader.run text.toList with
  | error fault => simp [Bind.bind, Except.bind]
  | ok pair =>
    obtain ⟨value, left⟩ := pair
    -- What is left decides between the result and a fault.
    simp only [Bind.bind, Except.bind, Except.ok.injEq, Prod.mk.injEq, List.isEmpty_iff]
    by_cases gap : left.dropWhile isGap = []
    · rw [if_pos gap]
      constructor
      · intro returned
        cases returned
        exact ⟨left, ⟨rfl, rfl⟩, gap⟩
      · rintro ⟨rest, ⟨rfl, rfl⟩, _⟩
        rfl
    · rw [if_neg gap]
      refine iff_of_false (fun success => by cases success) ?_
      rintro ⟨rest, ⟨_, rfl⟩, empty⟩
      exact gap empty

/-- A text is read by a follower as the view of what its leader reads. -/
theorem Follows.readAll {leader : Reader σ} {follower : Reader τ} {view : σ → Option τ}
    (follows : Follows leader view follower) {text : String} {result : τ} :
    follower.readAll text = .ok result ↔
      ∃ value, leader.readAll text = .ok value ∧ view value = some result := by
  -- Both leave the same rest, so both end at the end of the text or neither does.
  simp only [readAll_eq_ok_iff, follows text.toList result]
  constructor
  · rintro ⟨rest, ⟨value, read, seen⟩, gap⟩
    exact ⟨value, ⟨rest, read, gap⟩, seen⟩
  · rintro ⟨value, ⟨rest, read, gap⟩, seen⟩
    exact ⟨rest, ⟨value, read, seen⟩, gap⟩

end SymbolAssist.Reader
