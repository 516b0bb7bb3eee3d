import Mathlib.Data.List.Forall2
import SymbolAssist.Loading.File
import SymbolAssist.Proofs.Json.Nesting

/-! The bundle that a JSON value describes, which is what is read from every text of the value. -/

namespace SymbolAssist

open Reader

/-- Checks that are all passed match the items with their results. -/
theorem mapM_eq_some_iff {α β : Type} {check : α → Option β} {items : List α} {results : List β} :
    items.mapM check = some results ↔
      List.Forall₂ (fun item result => check item = some result) items results := by
  -- A first check and the other checks all pass exactly if the first does and the others do.
  induction items generalizing results with
  | nil => simp [eq_comm]
  | cons item rest ih =>
    simp only [List.mapM_cons, Option.bind_eq_bind, Option.bind_eq_some_iff, Option.pure_def,
      Option.some.injEq, ih, List.forall₂_cons_left_iff]
    constructor
    · rintro ⟨result, read, others, matched, rfl⟩
      exact ⟨result, others, read, matched, rfl⟩
    · rintro ⟨result, others, read, matched, rfl⟩
      exact ⟨result, read, others, matched, rfl⟩

namespace Json

/-- The value of the only member, if there are not several. -/
def soleValue? : List (String × Json) → Option (Option Json)
  | [] => some none
  | [(_, value)] => some (some value)
  | _ => none

/-- A field of an object is what its names are given for. -/
theorem field?_object (members : List (String × Json)) (position : Nat) (names : List String) :
    (Json.object members).field? position names =
      soleValue? (members.filter fun member => names.contains member.1) := rfl

end Json

/-- A member of a bundle that is not its aliases. -/
def Bundle.isCategoryMember (member : String × Json) : Bool :=
  member.1 ≠ "aliases"

namespace BundleDraft

/-- What is read of a bundle that has the given members. -/
def ofMembers? (members : List (String × Json)) : Option BundleDraft := do
  let given ← (Json.object members).field? 0 ["aliases"]
  let aliases ← given.mapM fun json => Json.optionalList Alias.ofJson? (some json)
  return ⟨aliases, members.filter Bundle.isCategoryMember⟩

/-- One more member: the aliases, if there are none so far, or else a category. -/
def add? (draft : BundleDraft) (member : String × Json) : Option BundleDraft :=
  if member.1 = "aliases" then
    if draft.aliases.isSome then none
    else (Json.optionalList Alias.ofJson? (some member.2)).map fun aliases =>
      { draft with aliases := some aliases }
  else some { draft with members := draft.members ++ [member] }

/-- A list of members is read one by one. -/
theorem ofMembers?_concat (members : List (String × Json)) (member : String × Json) :
    ofMembers? (members ++ [member]) = (ofMembers? members).bind (·.add? member) := by
  obtain ⟨key, json⟩ := member
  simp only [ofMembers?, Json.field?_object, List.filter_append]
  by_cases isAliases : key = "aliases"
  · -- Aliases are taken if none were given before, and refused if they would be given twice.
    subst isAliases
    cases given : members.filter fun member => ["aliases"].contains member.1 with
    | nil =>
      cases read : Json.optionalList Alias.ofJson? (some json) <;>
        simp [Json.soleValue?, add?, Bundle.isCategoryMember, read]
    | cons first rest =>
      cases rest with
      | nil =>
        obtain ⟨key, earlier⟩ := first
        cases read : Json.optionalList Alias.ofJson? (some earlier) <;>
          simp [Json.soleValue?, add?, read]
      | cons second rest => simp [Json.soleValue?]
  · -- A category is put behind the others.
    have category : Bundle.isCategoryMember (key, json) := by simpa [Bundle.isCategoryMember]
    simp [add?, isAliases, category, Option.bind_assoc]

/-- Aliases are read one by one as they are checked in a whole list. -/
theorem follows_aliases :
    Follows (list (readItem (maxDepth - 2)) []) (List.mapM Alias.ofJson?) (list readAlias []) := by
  have concat (items : List Json) (item : Json) : (items ++ [item]).mapM Alias.ofJson? = do
      let aliases ← items.mapM Alias.ofJson?
      let declared ← Alias.ofJson? item
      return aliases ++ [declared] := by simp [Option.bind_assoc]
  refine .list ?_ ?_ rfl
  · intro items aliases checked
    refine .after (value (maxDepth - 2)) fun item => ?_
    cases read : Alias.ofJson? item with
    | none =>
      refine .of_never (fun _ _ _ => run_throw_ne_ok) fun text json rest returned => ?_
      obtain ⟨rfl, -⟩ := run_pure_eq_ok_iff.mp returned
      simp [concat, read]
    | some declared => exact .pure (by simp [concat, checked, read])
  · -- The items that were read before have been checked.
    intro items text later rest read checked
    obtain ⟨item, _, rfl⟩ := run_map_eq_ok_iff.mp read
    cases earlier : items.mapM Alias.ofJson? with
    | none => simp [concat, earlier] at checked
    | some aliases => rfl

/-- Only a list gives aliases. -/
theorem optionalList_eq_none {α : Type} {item? : Json → Option α} {json : Json}
    (other : ∀ items, json ≠ .array items) : Json.optionalList item? (some json) = none := by
  -- Values of every other kind are refused alike.
  cases json with
  | array items => exact absurd rfl (other items)
  | null | bool | number | string | object => rfl

/-- Aliases that were not given before open with the bracket of a list. -/
theorem readMember_aliases {draft : BundleDraft} (fresh : ¬ draft.aliases.isSome) :
    draft.readMember "aliases" = (do
      colon
      let char ← peek
      if char = some '[' then return { draft with aliases := some (← list readAlias []) }
      else refuse) := by
  -- The choice of the first character is written as a condition.
  rw [readMember, if_pos rfl]
  dsimp only
  rw [if_neg fresh]
  congr 1
  funext _
  congr 1
  funext char
  split
  · rfl
  · rename_i other
    rw [if_neg other]

/-- Aliases are read once, from a list that is checked item by item. -/
theorem follows_readMember_aliases {draft : BundleDraft} {members : List (String × Json)}
    (drafted : ofMembers? members = some draft) :
    Follows (Reader.readMember (maxDepth - 1) members "aliases") ofMembers?
      (draft.readMember "aliases") := by
  have concat (json : Json) : ofMembers? (members ++ [("aliases", json)]) =
      if draft.aliases.isSome then none
      else (Json.optionalList Alias.ofJson? (some json)).map fun aliases =>
        { draft with aliases := some aliases } := by
    rw [ofMembers?_concat, drafted]
    rfl
  by_cases given : draft.aliases.isSome
  · -- Aliases that are given twice are refused, whatever they are.
    rw [readMember, if_pos rfl]
    dsimp only
    rw [if_pos given]
    refine .of_never (fun text result rest read => ?_) fun text later rest read => ?_
    · obtain ⟨_, _, thrown, _⟩ := run_bind_eq_ok_iff.mp read
      exact run_throw_ne_ok thrown
    · obtain ⟨_, _, _, read⟩ := run_bind_eq_ok_iff.mp read
      obtain ⟨json, _, rfl⟩ := run_map_eq_ok_iff.mp read
      rw [concat, if_pos given]
  · have opened : value (maxDepth - 1) = _ := value_succ 125
    rw [Reader.readMember, opened, readMember_aliases given]
    refine .after colon fun _ => ?_
    rw [bind_assoc]
    refine .after peek fun char => ?_
    by_cases isList : char = some '['
    · -- The brackets are those of a list on both sides.
      rw [if_pos isList, if_pos isList]
      simp only [bind_assoc, pure_bind]
      refine follows_aliases.map fun items => ?_
      rw [concat, if_neg given]
      rfl
    · -- Nothing else gives aliases.
      rw [if_neg isList, if_neg isList]
      refine .of_never (fun _ _ _ => run_refuse_ne_ok) fun text later rest read => ?_
      obtain ⟨json, inner, rfl⟩ := run_map_eq_ok_iff.mp read
      rw [concat, if_neg given, optionalList_eq_none, Option.map_none]
      rintro items rfl
      split at inner
      · obtain ⟨_, _, same⟩ := run_map_eq_ok_iff.mp inner
        cases same
      · cases isScalar_of_scalar inner

/-- A member is followed by what takes aliases in and keeps anything else. -/
theorem follows_readMember {draft : BundleDraft} {members : List (String × Json)}
    (drafted : ofMembers? members = some draft) (key : String) :
    Follows (Reader.readMember (maxDepth - 1) members key) ofMembers? (draft.readMember key) := by
  -- Any other member is kept as it is, with the ones before it.
  by_cases isAliases : key = "aliases"
  · subst isAliases
    exact follows_readMember_aliases drafted
  · rw [readMember, if_neg isAliases]
    refine .after colon fun _ => (Follows.refl _).map fun json => ?_
    rw [ofMembers?_concat, drafted, Option.bind_some, add?, if_neg isAliases]
    rfl

end BundleDraft

namespace Bundle

/-- The bundle that a JSON value describes, if it describes one. -/
def ofJson? : Json → Option Bundle
  | .object members => (BundleDraft.ofMembers? members).bind ofDraft?
  | _ => none

/-- The aliases among the members of a bundle, if they are given in the right form. -/
def aliases? (json : Json) : Option (Option (List Alias)) := do
  (← json.field? 0 ["aliases"]).mapM fun json => Json.optionalList Alias.ofJson? (some json)

/-- A member with the entries that are listed there. -/
def category? (member : String × Json) : Option (String × List Entry) :=
  (Json.optionalList Entry.ofJson? (some member.2)).map (member.1, ·)

/-- The other members of a bundle with their entries. -/
def categories? (members : List (String × Json)) : Option (List (String × List Entry)) :=
  (members.filter isCategoryMember).mapM category?

/-- The members are checked one by one. -/
theorem ofDraft?_eq (draft : BundleDraft) :
    ofDraft? draft = (draft.members.mapM category?).map fun categories =>
      ⟨draft.aliases.getD [], categories⟩ := by
  -- Both are the same computation, once with the key taken out of the member.
  rw [ofDraft?, Option.map_eq_bind]
  congr 2
  funext ⟨key, json⟩
  exact Option.map_eq_bind.symm

/-- A bundle has its aliases and its other members. -/
theorem ofJson?_object (members : List (String × Json)) :
    ofJson? (.object members) = (aliases? (.object members)).bind fun aliases =>
      (categories? members).map fun categories => ⟨aliases.getD [], categories⟩ := by
  -- The members are sorted into aliases and others before both are checked.
  simp [ofJson?, BundleDraft.ofMembers?, aliases?, categories?, ofDraft?_eq, Option.bind_assoc]

/-- A member keeps its name. -/
theorem name_of_category? {member : String × Json} {category : String × List Entry}
    (checked : category? member = some category) : category.1 = member.1 := by
  -- Only the value of a member is checked.
  obtain ⟨entries, _, rfl⟩ := Option.map_eq_some_iff.mp checked
  rfl

/-- Members keep their names. -/
theorem names_mapM_category? {members : List (String × Json)}
    {categories : List (String × List Entry)} (checked : members.mapM category? = some categories) :
    categories.map Prod.fst = members.map Prod.fst := by
  -- The members and what was made of them are compared one by one.
  rw [mapM_eq_some_iff] at checked
  induction checked with
  | nil => rfl
  | cons read _ ih => rw [List.map_cons, List.map_cons, name_of_category? read, ih]

/-- The entries of a category are found from behind. -/
theorem entries_eq (bundle : Bundle) (category : Category) :
    bundle.entries category =
      ((bundle.categories.reverse.find? fun member => member.1 = category.name).map
        Prod.snd).getD [] := by
  -- The search is the same one, and what it finds is a pair.
  rw [entries]
  split
  · rename_i name entries found
    have found : (bundle.categories.reverse.find? fun member => member.1 = category.name) =
        some (name, entries) := found
    rw [found]
    rfl
  · rename_i found
    have found : (bundle.categories.reverse.find? fun member => member.1 = category.name) = none :=
      found
    rw [found]
    rfl

/-- A bundle opens with the bracket of an object, and is checked when all its members have been read. -/
theorem reader_eq :
    reader = (do
      let char ← peek
      if char = some '\x7b' then
        match ofDraft? (← object true BundleDraft.readMember .empty) with
        | some bundle => return bundle
        | none => throw .mismatch
      else refuse) := by
  -- The choice of the first character is written as a condition.
  rw [reader]
  congr 1
  funext char
  split
  · rfl
  · rename_i other
    rw [if_neg other]

/-- The members of a bundle are read as those of a value. -/
theorem follows_members :
    Follows (object true (Reader.readMember (maxDepth - 1)) []) BundleDraft.ofMembers?
      (object true BundleDraft.readMember .empty) := by
  refine .object true (fun members draft drafted => BundleDraft.follows_readMember drafted) ?_ rfl
  -- The members that were read before could be drafted.
  intro members key text later rest read drafted
  obtain ⟨_, _, _, read⟩ := run_bind_eq_ok_iff.mp read
  obtain ⟨json, _, rfl⟩ := run_map_eq_ok_iff.mp read
  rw [BundleDraft.ofMembers?_concat] at drafted
  exact Option.isSome_of_isSome_bind drafted

/-- Bundles are read as values that are then checked. -/
theorem follows_reader : Follows (value maxDepth) ofJson? reader := by
  have opened : value maxDepth = _ := value_succ 126
  rw [opened, reader_eq]
  refine .after peek fun char => ?_
  by_cases isList : char = some '['
  · -- A list is no bundle.
    rw [if_pos isList, if_neg (by simp [isList])]
    refine .of_never (fun _ _ _ => run_refuse_ne_ok) fun text json rest read => ?_
    obtain ⟨_, _, rfl⟩ := run_map_eq_ok_iff.mp read
    rfl
  · rw [if_neg isList]
    split
    · -- An object is followed member by member, and checked in the end.
      refine follows_members.bind ?_ ?_
      · intro members draft drafted
        cases checked : ofDraft? draft with
        | none =>
          refine .of_never (fun _ _ _ => run_throw_ne_ok) fun text json rest read => ?_
          obtain ⟨rfl, -⟩ := run_pure_eq_ok_iff.mp read
          rw [ofJson?, drafted, Option.bind_some, checked]
        | some bundle =>
          refine .pure ?_
          rw [ofJson?, drafted, Option.bind_some, checked]
      · intro members text json rest read described
        obtain ⟨rfl, -⟩ := run_pure_eq_ok_iff.mp read
        exact Option.isSome_of_isSome_bind described
    · -- Neither is a scalar.
      refine .of_never (fun _ _ _ => run_refuse_ne_ok) fun text json rest read => ?_
      have scalar := isScalar_of_scalar read
      cases json with
      | array items => cases scalar
      | object members => cases scalar
      | null | bool | number | string => rfl

/-- What is read from a text is the bundle that its value describes, if that is not nested too deep. -/
theorem readAll_reader_eq_ok_iff {text : String} {json : Json} {bundle : Bundle}
    (holds : Json.IsHeldBy text json) :
    reader.readAll text = .ok bundle ↔ json.nestedWithin maxDepth ∧ ofJson? json = some bundle := by
  -- The bundle follows the value that is read, and a text holds only one value.
  rw [follows_reader.readAll]
  constructor
  · rintro ⟨other, read, described⟩
    obtain ⟨holdsOther, nested⟩ := Json.readAll_value_eq_ok_iff.mp read
    obtain rfl := holds.unique holdsOther
    exact ⟨nested, described⟩
  · rintro ⟨nested, described⟩
    exact ⟨json, Json.readAll_value_eq_ok_iff.mpr ⟨holds, nested⟩, described⟩

end Bundle

end SymbolAssist
