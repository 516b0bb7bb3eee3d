import SymbolAssist.Proofs.Catalogue.OrderedMap
import SymbolAssist.Proofs.Loading.Bundle
import SymbolAssist.Proofs.Loading.FieldOrder

/-! The order in which a bundle gives the members of its objects. -/

namespace SymbolAssist

open Json

namespace Bundle

/-- The aliases are the same whatever order members come in. -/
theorem ignoresOrder_aliases? : IgnoresOrder aliases? := by
  -- The aliases are one field, whose list ignores order as each alias does.
  refine .field (fun _ first second distinct step => ?_) fun _ => .const _
  have same : optionalList Alias.ofJson? (some first) = optionalList Alias.ofJson? (some second) :=
    Alias.ignoresOrder_ofJson?.optionalList first second distinct step
  simp only [Option.mapM_some, same]

section Checks

variable {α β : Type} {check : α → Option β} {items moved : List α}

/-- Items that all pass in one order pass in any other, with their results moved alike. -/
theorem exists_mapM_of_perm (order : items.Perm moved) {results : List β}
    (checked : moved.mapM check = some results) :
    ∃ others, items.mapM check = some others ∧ others.Perm results := by
  -- Results are matched with items one by one, and move with them.
  obtain ⟨others, matched, movedAlike⟩ :=
    List.perm_comp_forall₂ order (mapM_eq_some_iff.mp checked)
  exact ⟨others, mapM_eq_some_iff.mpr matched, movedAlike⟩

/-- Checks that are made item by item give the same results in another order. -/
theorem mapM_perm (order : items.Perm moved) :
    Option.Rel List.Perm (items.mapM check) (moved.mapM check) := by
  -- If all items pass in one of the two orders, they do so in the other one.
  cases checked : moved.mapM check with
  | some results =>
    obtain ⟨others, found, movedAlike⟩ := exists_mapM_of_perm order checked
    rw [found]
    exact .some movedAlike
  | none =>
    cases found : items.mapM check with
    | none => exact .none
    | some results =>
      obtain ⟨others, impossible, -⟩ := exists_mapM_of_perm order.symm found
      rw [checked] at impossible
      cases impossible

end Checks

/-- What ignores the order of results is the same for results that differ in their order. -/
theorem map_eq_of_rel {α β : Type} {use : List α → β} {first second : Option (List α)}
    (related : Option.Rel List.Perm first second)
    (ignores : ∀ results moved, first = some results → results.Perm moved → use results = use moved) :
    first.map use = second.map use := by
  -- Either both are missing or both are there.
  cases related with
  | none => rfl
  | some order => exact congrArg some (ignores _ _ rfl order)

/-- The first name in order is the same wherever it stands. -/
theorem leastName?_perm {names moved : List String} (order : names.Perm moved) :
    leastName? names = leastName? moved := by
  induction order with
  | nil => rfl
  | cons name _ ih => rw [leastName?, ih, leastName?]
  | swap name other rest =>
    -- Three names are compared in another order, of which the same one is the least.
    simp only [leastName?]
    cases leastName? rest <;> grind
  | trans _ _ ih later => exact ih.trans later

/-- What comes of a bundle: its catalogue, unless a member is no category. -/
def outcome (bundle : Bundle) : Except LoadError Catalogue :=
  match leastName? bundle.unknownNames with
  | some name => .error (.unknownCategory name)
  | none => .ok bundle.catalogue

section Order

variable {aliases : List Alias} {categories moved : List (String × List Entry)}

/-- Members with different names have their entries wherever they stand. -/
theorem entries_perm (order : categories.Perm moved) (distinct : (categories.map Prod.fst).Nodup)
    (category : Category) :
    entries ⟨aliases, categories⟩ category = entries ⟨aliases, moved⟩ category := by
  -- Read from behind, either list is a map that has the same entries.
  let map : OrderedMap String (List Entry) := ⟨categories.reverse, by simpa using distinct⟩
  let movedMap : OrderedMap String (List Entry) :=
    ⟨moved.reverse, by simpa using (order.map Prod.fst).nodup distinct⟩
  have same : map.find? category.name = movedMap.find? category.name := by
    ext entries
    simp only [map, movedMap, OrderedMap.find?_eq_some_iff, List.mem_reverse, order.mem_iff]
  rw [entries_eq, entries_eq]
  exact congrArg (·.getD []) same

/-- What comes of a bundle does not depend on the order of members with different names. -/
theorem outcome_perm (order : categories.Perm moved) (distinct : (categories.map Prod.fst).Nodup) :
    outcome ⟨aliases, categories⟩ = outcome ⟨aliases, moved⟩ := by
  -- The unknown names are the same in another order, and so are the known ones with their entries.
  have unknown : leastName? (unknownNames ⟨aliases, categories⟩) =
      leastName? (unknownNames ⟨aliases, moved⟩) :=
    leastName?_perm ((order.map Prod.fst).filter _)
  have filed : fileEntries ⟨aliases, categories⟩ = fileEntries ⟨aliases, moved⟩ := by
    funext catalogue category
    rw [fileEntries, entries_perm order distinct, fileEntries]
  rw [outcome, outcome, unknown, catalogue, catalogue, filed]

end Order

/-- What comes of a value does not depend on the order of its members. -/
theorem ignoresOrder_outcome : IgnoresOrder fun json => (ofJson? json).map outcome := by
  intro first second distinct step
  have sameAliases := ignoresOrder_aliases? first second distinct step
  dsimp only
  cases step with
  | @members members moved order =>
    -- The same categories are listed in another order, and none of them is listed twice.
    have checked : Option.Rel List.Perm (categories? members) (categories? moved) :=
      mapM_perm (order.filter isCategoryMember)
    have keys : ((members.filter isCategoryMember).map Prod.fst).Nodup :=
      (distinctKeys_object_iff.mp distinct).1.sublist (List.filter_sublist.map Prod.fst)
    rw [ofJson?_object, ofJson?_object, sameAliases]
    cases aliases? (.object moved) with
    | none => rfl
    | some aliases =>
      simp only [Option.bind_some, Option.map_map]
      refine map_eq_of_rel checked fun categories other found order => outcome_perm order ?_
      rwa [names_mapM_category? found]
  | item inside => rfl
  | @member front back key value other inside =>
    -- The member has the same entries as before, unless it gives the aliases.
    have same : category? (key, value) = category? (key, other) :=
      congrArg (Option.map (key, ·))
        (Entry.ignoresOrder_ofJson?.optionalList value other distinct.of_member inside)
    have sameCategories : categories? (front ++ (key, value) :: back) =
        categories? (front ++ (key, other) :: back) := by
      simp only [categories?, List.filter_append, List.filter_cons]
      by_cases named : key = "aliases"
      · simp [isCategoryMember, named]
      · simp [isCategoryMember, named, same]
    rw [ofJson?_object, ofJson?_object, sameAliases, sameCategories]

end Bundle

namespace Catalogue

/-- What comes of a value, if it describes a bundle at all. -/
def ofJson? (json : Json) : Option (Except LoadError Catalogue) :=
  if json.nestedWithin Reader.maxDepth then (Bundle.ofJson? json).map Bundle.outcome else none

/-- What comes of a value does not depend on the order of members. -/
theorem ignoresOrder_ofJson? : IgnoresOrder ofJson? := by
  -- Neither the depth of a value nor what its bundle amounts to depends on the order.
  intro first second distinct step
  have sameOutcome : (Bundle.ofJson? first).map Bundle.outcome = (Bundle.ofJson? second).map _ :=
    Bundle.ignoresOrder_outcome first second distinct step
  rw [ofJson?, ofJson?, ignoresOrder_nestedWithin _ first second distinct step, sameOutcome]

/-- A text is no JSON of the wanted form, or something comes of it as of the bundle of its value. -/
theorem parse_of_isHeldBy {text : String} {json : Json} (holds : IsHeldBy text json) :
    (ofJson? json = none ∧ ∃ fault, parse text = .error (.json fault)) ∨
      ∃ bundle : Bundle, ofJson? json = some bundle.outcome ∧ parse text = bundle.outcome := by
  cases read : Bundle.reader.readAll text with
  | error fault =>
    refine .inl ⟨?_, fault, by rw [parse, read]⟩
    -- A bundle that is not nested too deep would have been read.
    by_cases nested : json.nestedWithin Reader.maxDepth
    · rw [ofJson?, if_pos nested, Option.map_eq_none_iff, Option.eq_none_iff_forall_ne_some]
      intro bundle described
      rw [(Bundle.readAll_reader_eq_ok_iff holds).mpr ⟨nested, described⟩] at read
      cases read
    · rw [ofJson?, if_neg nested]
  | ok bundle =>
    obtain ⟨nested, described⟩ := (Bundle.readAll_reader_eq_ok_iff holds).mp read
    refine .inr ⟨bundle, by rw [ofJson?, if_pos nested, described, Option.map_some], ?_⟩
    rw [parse, read]
    rfl

/--
The order of members makes no difference to a bundle in which no object has a key twice.

Two texts of values that differ in nothing but the order of members, in objects at any depth, both fail
as JSON, or both name the same unknown category, or both give the same catalogue.
-/
theorem parse_ignores_member_order {left right : String} {first second : Json}
    (distinct : first.DistinctKeys) (reordered : Reordered first second)
    (holdsLeft : IsHeldBy left first) (holdsRight : IsHeldBy right second) :
    (∃ fault other, parse left = .error (.json fault) ∧ parse right = .error (.json other)) ∨
    (∃ name, parse left = .error (.unknownCategory name) ∧
      parse right = .error (.unknownCategory name)) ∨
    ∃ catalogue, parse left = .ok catalogue ∧ parse right = .ok catalogue := by
  have same := ignoresOrder_ofJson?.eq_of_reordered distinct reordered
  -- Either nothing comes of both values or something comes of both.
  rcases parse_of_isHeldBy holdsLeft with ⟨nothing, fault, failed⟩ | ⟨bundle, described, parsed⟩
  · rcases parse_of_isHeldBy holdsRight with ⟨-, other, alsoFailed⟩ | ⟨bundle, described, -⟩
    · exact .inl ⟨fault, other, failed, alsoFailed⟩
    · rw [← same, nothing] at described
      cases described
  · rcases parse_of_isHeldBy holdsRight with ⟨nothing, -⟩ | ⟨moved, alsoDescribed, alsoParsed⟩
    · rw [← same, described] at nothing
      cases nothing
    · -- The same comes of both bundles, which is no failure of JSON.
      obtain sameOutcome : bundle.outcome = moved.outcome :=
        Option.some.inj (described.symm.trans (same.trans alsoDescribed))
      rw [parsed, alsoParsed, ← sameOutcome]
      right
      rw [Bundle.outcome]
      split
      · exact .inl ⟨_, rfl, rfl⟩
      · exact .inr ⟨_, rfl, rfl⟩

/-- A literal may have its members the other way round, and so may the bundle around it. -/
theorem parse_reordered_literal :
    let left := "\x7b\"constants\":[\x7b\"name\":\"c\",\"value\":" ++
      "\x7b\"b\":null,\"a\":[]\x7d\x7d],\"aliases\":[]\x7d"
    let right := "\x7b\"aliases\":[],\"constants\":[\x7b\"name\":\"c\",\"value\":" ++
      "\x7b\"a\":[],\"b\":null\x7d\x7d]\x7d"
    ∃ first second, DistinctKeys first ∧ Reordered first second ∧ IsHeldBy left first ∧
      IsHeldBy right second ∧ ∃ catalogue, parse left = .ok catalogue ∧ parse right = .ok catalogue := by
  intro left right
  let literal := Json.object [("b", .null), ("a", .array [])]
  let moved := Json.object [("a", .array []), ("b", .null)]
  let constants (value : Json) := Json.array [.object [("name", .string "c"), ("value", value)]]
  let first := Json.object [("constants", constants literal), ("aliases", .array [])]
  let second := Json.object [("aliases", .array []), ("constants", constants moved)]
  have distinct : DistinctKeys first := by
    have name : DistinctKeys (.string "c") := .scalar rfl
    have null : DistinctKeys .null := .scalar rfl
    simp [first, constants, literal, distinctKeys_object_iff, distinctKeys_array_iff, name, null]
  -- The change deep inside is made first, and then the one outside.
  have inside : Reorders (constants literal) (constants moved) :=
    @Reorders.item [] [] _ _ <| @Reorders.member [("name", .string "c")] [] _ _ _ <|
      .members (.swap ..)
  have reordered : Reordered first second :=
    .head (@Reorders.member [] _ _ _ _ inside) (.single (.members (.swap ..)))
  have holdsLeft : IsHeldBy left first := ⟨6, by decide +kernel⟩
  have holdsRight : IsHeldBy right second := ⟨6, by decide +kernel⟩
  refine ⟨first, second, distinct, reordered, holdsLeft, holdsRight, ?_⟩
  have loaded : (parse left).isOk := by decide +kernel
  rcases parse_ignores_member_order distinct reordered holdsLeft holdsRight with
    ⟨_, _, failed, _⟩ | ⟨_, failed, _⟩ | result
  · rw [failed] at loaded
    cases loaded
  · rw [failed] at loaded
    cases loaded
  · exact result

end Catalogue

end SymbolAssist
