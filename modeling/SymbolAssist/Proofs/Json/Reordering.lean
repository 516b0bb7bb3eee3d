import Mathlib.Data.List.Nodup
import Mathlib.Data.List.Perm.Basic
import Mathlib.Logic.Relation
import SymbolAssist.Json.Printer
import SymbolAssist.Proofs.Json.Nesting

/-! Values whose objects have their members in another order. -/

namespace SymbolAssist.Json

/-- The members of one object, anywhere in a value, are put into another order. -/
inductive Reorders : Json → Json → Prop where
  /-- The members of the object itself change places. -/
  | members {members moved : List (String × Json)} (order : members.Perm moved) :
    Reorders (.object members) (.object moved)
  /-- The object is one item of a list or further inside of it. -/
  | item {front back : List Json} {item other : Json} (inside : Reorders item other) :
    Reorders (.array (front ++ item :: back)) (.array (front ++ other :: back))
  /-- The object is the value of one member of another or further inside of it. -/
  | member {front back : List (String × Json)} {key : String} {value other : Json}
    (inside : Reorders value other) :
    Reorders (.object (front ++ (key, value) :: back)) (.object (front ++ (key, other) :: back))

/-- Any number of objects in a value have their members put into another order. -/
def Reordered : Json → Json → Prop :=
  Relation.ReflTransGen Reorders

/-- No object in a value has a key twice. -/
inductive DistinctKeys : Json → Prop where
  /-- A value without parts has no keys. -/
  | scalar {json : Json} (isScalar : json.isScalar) : DistinctKeys json
  /-- No item of the list has an object with a key twice. -/
  | array {items : List Json} (each : ∀ item ∈ items, DistinctKeys item) :
    DistinctKeys (.array items)
  /-- The keys of the object are different, and the values have no object with a key twice. -/
  | object {members : List (String × Json)} (distinct : (members.map Prod.fst).Nodup)
    (each : ∀ member ∈ members, DistinctKeys member.2) : DistinctKeys (.object members)

/-- What is made of values without repeated keys is not changed by the order of members. -/
def IgnoresOrder {α : Type} (use : Json → α) : Prop :=
  ∀ first second, DistinctKeys first → Reorders first second → use first = use second

/-- A list is without repeated keys if its items are. -/
theorem distinctKeys_array_iff {items : List Json} :
    DistinctKeys (.array items) ↔ ∀ item ∈ items, DistinctKeys item := by
  -- A list is no scalar and no object, so its items were asked.
  refine ⟨fun distinct => ?_, .array⟩
  cases distinct with
  | scalar isScalar => cases isScalar
  | array each => exact each

/-- An object is without repeated keys if its own keys are different and its values are without any. -/
theorem distinctKeys_object_iff {members : List (String × Json)} :
    DistinctKeys (.object members) ↔
      (members.map Prod.fst).Nodup ∧ ∀ member ∈ members, DistinctKeys member.2 := by
  -- An object is no scalar and no list, so its members were asked.
  refine ⟨fun distinct => ?_, fun ⟨distinct, each⟩ => .object distinct each⟩
  cases distinct with
  | scalar isScalar => cases isScalar
  | object distinct each => exact ⟨distinct, each⟩

section Step

variable {first second : Json}

/-- An item of a list without repeated keys is without any. -/
theorem DistinctKeys.of_item {front back : List Json} {item : Json}
    (distinct : DistinctKeys (.array (front ++ item :: back))) : DistinctKeys item :=
  -- The item stands in the list.
  distinctKeys_array_iff.mp distinct item (by simp)

/-- A value in an object without repeated keys is without any. -/
theorem DistinctKeys.of_member {front back : List (String × Json)} {key : String} {value : Json}
    (distinct : DistinctKeys (.object (front ++ (key, value) :: back))) : DistinctKeys value :=
  -- The member stands in the object.
  (distinctKeys_object_iff.mp distinct).2 (key, value) (by simp)

/-- No key is repeated by putting members into another order. -/
theorem DistinctKeys.of_reorders (distinct : DistinctKeys first) (step : Reorders first second) :
    DistinctKeys second := by
  induction step with
  | members order =>
    rw [distinctKeys_object_iff] at distinct ⊢
    exact ⟨(order.map Prod.fst).nodup distinct.1,
      fun member listed => distinct.2 member (order.mem_iff.mpr listed)⟩
  | item inside ih =>
    simp only [distinctKeys_array_iff, List.forall_mem_append, List.forall_mem_cons] at distinct ⊢
    exact ⟨distinct.1, ih distinct.2.1, distinct.2.2⟩
  | member inside ih =>
    -- The keys are the same as before.
    simp only [distinctKeys_object_iff, List.forall_mem_append, List.forall_mem_cons,
      List.map_append, List.map_cons] at distinct ⊢
    exact ⟨distinct.1, distinct.2.1, ih distinct.2.2.1, distinct.2.2.2⟩

/-- What ignores one change of order ignores any number of them. -/
theorem IgnoresOrder.eq_of_reordered {α : Type} {use : Json → α} (ignores : IgnoresOrder use)
    (distinct : DistinctKeys first) (reordered : Reordered first second) : use first = use second := by
  -- Keys stay distinct along the way, so every single change is ignored.
  suffices DistinctKeys second ∧ use first = use second from this.2
  induction reordered with
  | refl => exact ⟨distinct, rfl⟩
  | tail _ step ih =>
    obtain ⟨distinct, same⟩ := ih
    exact ⟨distinct.of_reorders step, same.trans (ignores _ _ distinct step)⟩

/-- What is made of lists and objects ignores order if it does so for a change right inside. -/
theorem IgnoresOrder.of_inside {α : Type} {use : Json → α}
    (members : ∀ {members moved}, (members.map Prod.fst).Nodup → members.Perm moved →
      use (.object members) = use (.object moved))
    (item : ∀ front back {value other}, DistinctKeys value → Reorders value other →
      use value = use other →
        use (.array (front ++ value :: back)) = use (.array (front ++ other :: back)))
    (member : ∀ front key back {value other}, DistinctKeys value → Reorders value other →
      use value = use other →
        use (.object (front ++ (key, value) :: back)) = use (.object (front ++ (key, other) :: back))) :
    IgnoresOrder use := by
  -- A change is right inside or further in, and there the keys are distinct as well.
  intro first second distinct step
  induction step with
  | members order => exact members (distinctKeys_object_iff.mp distinct).1 order
  | @item front back value other inside ih =>
    exact item front back distinct.of_item inside (ih distinct.of_item)
  | @member front back key value other inside ih =>
    exact member front key back distinct.of_member inside (ih distinct.of_member)

/-- The order of members does not change how deep a value is nested. -/
theorem ignoresOrder_nestedWithin (depth : Nat) : IgnoresOrder (nestedWithin depth) := by
  -- What stands inside is nested one level less.
  induction depth with
  | zero => exact .of_inside (fun _ _ => rfl) (fun _ _ _ _ _ _ _ => rfl) (fun _ _ _ _ _ _ _ _ => rfl)
  | succ depth ih =>
    refine .of_inside ?_ ?_ ?_
    · intro members moved _ order
      exact order.all_eq
    · intro front back value other distinct inside _
      simp [nestedWithin, ih value other distinct inside]
    · intro front key back value other distinct inside _
      simp [nestedWithin, ih value other distinct inside]

end Step

section Printing

/-- Each item is written on its own. -/
theorem writeItems_eq_map (items : List Json) : writeItems items = items.map write := by
  -- The list is written item by item.
  induction items with
  | nil => rfl
  | cons item rest ih => rw [writeItems, ih, List.map_cons]

/-- The value of each member is written on its own. -/
theorem writeMembers_eq_map (members : List (String × Json)) :
    writeMembers members = members.map fun member => (member.1, member.2.write) := by
  -- The members are written one by one, and their keys stay.
  induction members with
  | nil => rfl
  | cons member rest ih => rw [writeMembers, ih, List.map_cons]

/-- Members with different keys can be put in either way round. -/
theorem insertMember_comm {α : Type} {first second : String × α} (different : first.1 ≠ second.1)
    (sorted : List (String × α)) :
    insertMember first (insertMember second sorted) =
      insertMember second (insertMember first sorted) := by
  -- The keys of the three members are compared, and different keys have an order.
  induction sorted with
  | nil => grind [insertMember]
  | cons here rest ih => grind [insertMember]

/-- Members with different keys are sorted in the same way whatever order they come in. -/
theorem sortMembers_perm {α : Type} {members moved : List (String × α)} (order : members.Perm moved)
    (distinct : (members.map Prod.fst).Nodup) : sortMembers members = sortMembers moved := by
  -- Members are put in one by one, so it is enough that any two of them can change places.
  refine order.foldl_eq' (fun one inOne other inOther sorted => ?_) []
  by_cases same : one.1 = other.1
  · -- Only a member itself has its key.
    rw [List.inj_on_of_nodup_map distinct inOne inOther same]
  · exact insertMember_comm (Ne.symm same) sorted

/-- A value is written in the same way whatever order its members come in. -/
theorem ignoresOrder_write : IgnoresOrder write := by
  refine .of_inside ?_ ?_ ?_
  · -- The members are sorted before they are put together.
    intro members moved distinct order
    have sorted := sortMembers_perm (order.map fun member => (member.1, member.2.write))
      (by simpa [Function.comp_def] using distinct)
    rw [write, write, writeMembers_eq_map, writeMembers_eq_map, sorted]
  · intro front back value other _ _ same
    simp [write, writeItems_eq_map, same]
  · intro front key back value other _ _ same
    simp [write, writeMembers_eq_map, same]

/-- A value is shown in the same way whatever order its members come in. -/
theorem ignoresOrder_display : IgnoresOrder display := by
  intro first second distinct step
  have same := ignoresOrder_write first second distinct step
  -- Only lists and objects are reordered, and those are shown as they are written.
  cases step <;> exact congrArg String.ofList same

end Printing

end SymbolAssist.Json
