import SymbolAssist.Proofs.Json.Reordering
import SymbolAssist.Proofs.Loading.Bundle

/-! The order of members in the parts of a bundle: arguments, entries and aliases. -/

namespace SymbolAssist

namespace Json

section Fields

/-- Several members have no only one. -/
theorem soleValue?_of_length {members : List (String × Json)} (several : 2 ≤ members.length) :
    soleValue? members = none := by
  -- Lists of no or one member are too short.
  rcases members with _ | ⟨first, _ | ⟨second, rest⟩⟩
  · simp at several
  · simp at several
  · rfl

/-- The only member is the same in any order. -/
theorem soleValue?_perm {members moved : List (String × Json)} (order : members.Perm moved) :
    soleValue? members = soleValue? moved := by
  by_cases several : 2 ≤ members.length
  · rw [soleValue?_of_length several, soleValue?_of_length (order.length_eq ▸ several)]
  · -- With one member at most there is only one order.
    obtain rfl : members = moved := by
      rcases members with _ | ⟨only, _ | ⟨second, rest⟩⟩
      · exact (List.nil_perm.mp order).symm
      · exact (List.singleton_perm.mp order)
      · simp at several
    rfl

/-- A field ends up the same, or is a value in which members come in another order. -/
theorem field?_of_reorders {first second : Json} (distinct : DistinctKeys first)
    (step : Reorders first second) (position : Nat) (names : List String) :
    first.field? position names = second.field? position names ∨
      ∃ value other, first.field? position names = some (some value) ∧
        second.field? position names = some (some other) ∧
        DistinctKeys value ∧ Reorders value other := by
  cases step with
  | members order =>
    -- The members that are the field are the same ones in another order.
    left
    exact soleValue?_perm (order.filter _)
  | @item front back value other inside =>
    by_cases here : position = front.length
    · right
      exact ⟨value, other, by simp [field?, here], by simp [field?, here], distinct.of_item, inside⟩
    · -- Any other position has the same item as before.
      left
      simp only [field?, List.getElem?_append, List.getElem?_cons]
      grind
  | @member front back key value other inside =>
    simp only [field?_object, List.filter_append, List.filter_cons]
    by_cases named : names.contains key
    · -- The member is the field unless the field is given another time.
      rw [if_pos named, if_pos named]
      generalize front.filter (fun member => names.contains member.1) = before
      generalize back.filter (fun member => names.contains member.1) = behind
      by_cases several : 2 ≤ (before ++ (key, value) :: behind).length
      · left
        rw [soleValue?_of_length several, soleValue?_of_length (by simpa using several)]
      · obtain ⟨rfl, rfl⟩ : before = [] ∧ behind = [] := by
          simp only [← List.length_eq_zero_iff]
          simp only [List.length_append, List.length_cons] at several
          omega
        exact .inr ⟨value, other, rfl, rfl, distinct.of_member, inside⟩
    · rw [if_neg named, if_neg named]
      exact .inl rfl

variable {α β : Type}

/-- What is made of a field and then of the whole value ignores order if both parts do. -/
theorem IgnoresOrder.field {position : Nat} {names : List String}
    {next : Option Json → Json → Option α}
    (inside : ∀ json, IgnoresOrder fun value => next (some value) json)
    (whole : ∀ given, IgnoresOrder (next given)) :
    IgnoresOrder fun json => json.field? position names >>= fun given => next given json := by
  intro first second distinct step
  rcases field?_of_reorders distinct step position names with
    same | ⟨value, other, found, moved, inner, change⟩
  · simp only [same]
    congr 1
    funext given
    exact whole given first second distinct step
  · -- First the whole value is exchanged for the other one, and then the field in it.
    simp only [found, moved]
    exact (whole (some value) first second distinct step).trans
      (inside second value other inner change)

/-- What is made of a value in two steps ignores order if both steps do. -/
theorem IgnoresOrder.bind {use : Json → Option α} {next : α → Json → Option β}
    (ignores : IgnoresOrder use) (later : ∀ result, IgnoresOrder (next result)) :
    IgnoresOrder fun json => use json >>= fun result => next result json := by
  -- The first step gives the same result, with which the second one goes on.
  intro first second distinct step
  simp only [ignores first second distinct step]
  congr 1
  funext result
  exact later result first second distinct step

/-- What does not depend on the value ignores order. -/
theorem IgnoresOrder.const (result : α) : IgnoresOrder fun _ => result :=
  -- Nothing of the value is looked at.
  fun _ _ _ _ => rfl

/-- A field is made something of before the rest of the value is looked at. -/
theorem IgnoresOrder.fieldAs {position : Nat} {names : List String} {use : Option Json → Option α}
    {next : α → Json → Option β} (ignores : IgnoresOrder fun value => use (some value))
    (later : ∀ result, IgnoresOrder (next result)) :
    IgnoresOrder fun json => json.field? position names >>= fun given =>
      use given >>= fun result => next result json :=
  -- What is made of the field is settled first, and then the rest is looked at.
  .field (fun _ => ignores.bind fun _ => .const _) fun _ => (IgnoresOrder.const _).bind later

/-- Where lists and objects are all treated alike, there is nothing that has an order. -/
theorem IgnoresOrder.of_alike {use : Json → α} (result : α)
    (arrays : ∀ items, use (.array items) = result)
    (objects : ∀ members, use (.object members) = result) : IgnoresOrder use := by
  -- A change of order makes an object of an object and a list of a list.
  intro first second _ step
  cases step with
  | members order => rw [objects, objects]
  | item inside => rw [arrays, arrays]
  | member inside => rw [objects, objects]

/-- What is read as a required text does not depend on the order of members. -/
theorem ignoresOrder_requiredText : IgnoresOrder fun value => requiredText (some value) :=
  -- Lists and objects are no texts, and all refused.
  .of_alike none (fun _ => rfl) fun _ => rfl

/-- What is read as an optional text does not depend on the order of members. -/
theorem ignoresOrder_optionalText : IgnoresOrder fun value => optionalText (some value) :=
  -- Lists and objects are no texts, and all refused.
  .of_alike none (fun _ => rfl) fun _ => rfl

/-- What is read as an optional flag does not depend on the order of members. -/
theorem ignoresOrder_optionalFlag : IgnoresOrder fun value => optionalFlag (some value) :=
  -- Lists and objects are no flags, and all refused.
  .of_alike none (fun _ => rfl) fun _ => rfl

/-- A literal is shown with its members sorted. -/
theorem ignoresOrder_optionalValue : IgnoresOrder fun value => optionalValue (some value) := by
  intro first second distinct step
  have same := ignoresOrder_display first second distinct step
  -- Null is not shown, but it is not reordered either.
  cases step <;> exact congrArg some same

/-- A list ignores order if its items do. -/
theorem IgnoresOrder.optionalList {item? : Json → Option α} (ignores : IgnoresOrder item?) :
    IgnoresOrder fun value => optionalList item? (some value) := by
  -- An object is no list, so only a change inside an item matters.
  refine .of_inside (fun _ _ => rfl) ?_ (fun _ _ _ _ _ _ _ _ => rfl)
  intro front back value other distinct inside _
  simp [Json.optionalList, ignores value other distinct inside]

/-- Whether a record has too many fields does not depend on their order. -/
theorem ignoresOrder_fitsFields (count : Nat) :
    IgnoresOrder fun json => (guard (json.fitsFields count) : Option Unit) := by
  -- Only a list can have too many fields, and its length stays.
  intro first second _ step
  have same : first.fitsFields count = second.fitsFields count := by
    cases step <;> simp [fitsFields]
  exact congrArg (fun fits : Bool => (guard fits : Option Unit)) same

end Fields

end Json

open Json

/-- An argument is the same whatever order its members come in. -/
theorem Argument.ignoresOrder_ofJson? : IgnoresOrder Argument.ofJson? := by
  -- Each field is taken out of the value before the next one is.
  refine (ignoresOrder_fitsFields 3).bind fun _ => ?_
  refine .fieldAs ignoresOrder_requiredText fun name => ?_
  refine .fieldAs ignoresOrder_optionalText fun type => ?_
  -- The default is only shown in the end.
  refine .field (fun json first second distinct step => ?_) fun given => .const _
  simp only [ignoresOrder_optionalValue first second distinct step]

/-- An entry is the same whatever order its members come in. -/
theorem Entry.ignoresOrder_ofJson? : IgnoresOrder Entry.ofJson? := by
  have arguments := Argument.ignoresOrder_ofJson?.optionalList
  refine (ignoresOrder_fitsFields 11).bind fun _ => ?_
  refine .fieldAs ignoresOrder_requiredText fun name => ?_
  refine .fieldAs ignoresOrder_optionalText fun description => ?_
  refine .fieldAs ignoresOrder_optionalText fun type => ?_
  refine .fieldAs ignoresOrder_optionalText fun returnType => ?_
  refine .fieldAs arguments fun _ => ?_
  refine .fieldAs arguments fun fields => ?_
  refine .fieldAs ignoresOrder_optionalText fun usage => ?_
  -- The value is only shown in the end, when the flags behind it have been read.
  refine .field (fun json first second distinct step => ?_) fun value => ?_
  · simp only [ignoresOrder_optionalValue first second distinct step]
  · refine .fieldAs ignoresOrder_optionalFlag fun isMethod => ?_
    refine .fieldAs ignoresOrder_optionalFlag fun deprecated => ?_
    exact .fieldAs ignoresOrder_optionalFlag fun isDefault => .const _

/-- The kind of an alias is a word, or the only key of an object. -/
theorem AliasKind.ofJson?_of_length {members : List (String × Json)} (several : members.length ≠ 1) :
    AliasKind.ofJson? (some (.object members)) = none := by
  -- An object of no key or of several has no only one.
  rcases members with _ | ⟨⟨key, value⟩, _ | ⟨second, rest⟩⟩
  · rfl
  · simp at several
  · cases value <;> rfl

/-- The kind of an alias is the same whatever order its members come in. -/
theorem AliasKind.ignoresOrder_ofJson? : IgnoresOrder fun value => AliasKind.ofJson? (some value) := by
  intro first second _ step
  dsimp only
  cases step with
  | @members members moved order =>
    by_cases single : members.length = 1
    · obtain ⟨only, rfl⟩ := List.length_eq_one_iff.mp single
      rw [List.singleton_perm.mp order]
    · rw [ofJson?_of_length single, ofJson?_of_length (order.length_eq ▸ single)]
  | item inside => rfl
  | @member front back key value other inside =>
    by_cases single : (front ++ (key, value) :: back).length = 1
    · -- The only value must be null, in which there is nothing to reorder.
      obtain ⟨rfl, rfl⟩ : front = [] ∧ back = [] := by
        simp only [← List.length_eq_zero_iff]
        simp only [List.length_append, List.length_cons] at single
        omega
      cases inside <;> rfl
    · rw [ofJson?_of_length single, ofJson?_of_length (by simpa using single)]

/-- An alias is the same whatever order its members come in. -/
theorem Alias.ignoresOrder_ofJson? : IgnoresOrder Alias.ofJson? := by
  -- Only objects can be reordered into something else that is an alias.
  have fields : IgnoresOrder fun json => (do
      let name ← requiredText (← json.field? 0 ["name"])
      let target ← optionalText (← json.field? 1 ["target"])
      let kind ← AliasKind.ofJson? (← json.field? 2 ["kind"])
      return (⟨name, target, kind⟩ : Alias)) := by
    refine .fieldAs ignoresOrder_requiredText fun name => ?_
    refine .fieldAs ignoresOrder_optionalText fun target => ?_
    exact .fieldAs AliasKind.ignoresOrder_ofJson? fun kind => .const _
  intro first second distinct step
  have same := fields first second distinct step
  cases step with
  | members order => exact same
  | item inside => rfl
  | member inside => exact same

end SymbolAssist
