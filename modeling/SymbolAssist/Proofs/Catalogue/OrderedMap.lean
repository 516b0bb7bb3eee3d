import SymbolAssist.Catalogue.OrderedMap

/-! What can be found in an ordered map after it was changed or merged with another one. -/

namespace SymbolAssist.OrderedMap

variable {κ α : Type} [DecidableEq κ]

/-- Nothing is found in the empty map. -/
@[simp] theorem find?_empty (key : κ) : (empty : OrderedMap κ α).find? key = none := rfl

/-- The keys are exactly what is found. -/
theorem mem_keys_iff {map : OrderedMap κ α} {key : κ} :
    key ∈ map.keys ↔ (map.find? key).isSome := by
  -- A lookup goes through the entries and stops at the first with that key.
  simp [keys, find?]

/-- Exactly the entries are found, since no key has two of them. -/
theorem find?_eq_some_iff {map : OrderedMap κ α} {key : κ} {value : α} :
    map.find? key = some value ↔ (key, value) ∈ map.entries := by
  -- The search stops at the first entry of the key, which is the only one.
  obtain ⟨entries, distinct⟩ := map
  simp only [find?]
  induction entries with
  | nil => simp
  | cons entry rest ih =>
    rw [List.map_cons, List.nodup_cons] at distinct
    obtain ⟨first, distinct⟩ := distinct
    obtain ⟨found, stored⟩ := entry
    by_cases here : found = key
    · -- The search ends here, and no later entry has the key.
      subst here
      have absent : (found, value) ∉ rest := fun later =>
        first (List.mem_map.mpr ⟨(found, value), later, rfl⟩)
      simp [absent, eq_comm]
    · simpa [here, Ne.symm here] using ih distinct

/-- The entries of one key are what is found under it, which is one entry at most. -/
theorem filter_entries_eq (map : OrderedMap κ α) (key : κ) :
    (map.entries.filter fun entry => entry.1 = key) = (map.find? key).toList.map (key, ·) := by
  obtain ⟨entries, distinct⟩ := map
  simp only [find?]
  induction entries with
  | nil => rfl
  | cons entry rest ih =>
    rw [List.map_cons, List.nodup_cons] at distinct
    obtain ⟨first, distinct⟩ := distinct
    obtain ⟨found, stored⟩ := entry
    by_cases here : found = key
    · -- The key is met here, so it does not occur again.
      subst here
      have absent : (rest.filter fun entry => entry.1 = found) = [] := by
        rw [List.filter_eq_nil_iff]
        intro later member same
        exact first (List.mem_map.mpr ⟨later, member, by simpa using same⟩)
      simp [absent]
    · simpa [here] using ih distinct

omit [DecidableEq κ] in
/-- The size counts the keys. -/
theorem length_keys (map : OrderedMap κ α) : map.keys.length = map.size := by
  -- Each entry has one key.
  simp [keys, size]

/-- A new key goes to the end, and a known one keeps its place. -/
theorem keys_insert (map : OrderedMap κ α) (key : κ) (value : α) :
    (map.insert key value).keys = if key ∈ map.keys then map.keys else map.keys ++ [key] :=
  -- The map is its list of entries, for which the place of a key is known.
  keys_insertEntry key value map.entries

/-- The keys that stay keep their order. -/
theorem keys_erase (map : OrderedMap κ α) (key : κ) :
    (map.erase key).keys = map.keys.filter (· ≠ key) := by
  -- Erasing filters the entries by their keys, and filtering commutes with taking the keys.
  rw [keys, keys, List.filter_map]
  rfl

/-- A search by key through entries that have just taken in a value. -/
private theorem find?_insertEntry (key other : κ) (value : α) (entries : List (κ × α)) :
    ((insertEntry key value entries).find? fun entry => entry.1 = other).map Prod.snd =
      if other = key then some value
      else (entries.find? fun entry => entry.1 = other).map Prod.snd := by
  induction entries with
  | nil => by_cases same : key = other <;> simp [insertEntry, same, Ne.symm]
  | cons entry rest ih =>
    by_cases here : entry.1 = key
    · -- The entry is replaced in place, which only the search for its own key can tell.
      by_cases same : key = other
      · simp [insertEntry, here, same]
      · simp [insertEntry, here, same, Ne.symm same]
    · -- The entry stays, and either ends the search or leaves it to the rest.
      simp only [insertEntry, if_neg here, List.find?_cons]
      by_cases found : entry.1 = other
      · have different : ¬ other = key := fun same => here (found.trans same)
        simp [found, different]
      · simpa [found] using ih

/-- A value that was put in is found under its key, and the others as before. -/
theorem find?_insert (map : OrderedMap κ α) (key other : κ) (value : α) :
    (map.insert key value).find? other = if other = key then some value else map.find? other :=
  -- A lookup in the map is one in its list of entries.
  find?_insertEntry key other value map.entries

/-- A key that was taken out is no longer found, and the others are as before. -/
theorem find?_erase (map : OrderedMap κ α) (key other : κ) :
    (map.erase key).find? other = if other = key then none else map.find? other := by
  simp only [find?, erase, List.find?_filter]
  by_cases same : other = key
  · -- No entry can have the key and be kept.
    subst same
    simp
  · -- An entry with the other key is never the one that was taken out.
    rw [if_neg same]
    congr 2
    funext entry
    by_cases found : entry.1 = other <;> simp [found, same]

/-- Pairs with different keys that are put in one after the other are found first, and then the map. -/
private theorem find?_insertAll (key : κ) (pairs : List (κ × α)) :
    ∀ map : OrderedMap κ α, (pairs.map Prod.fst).Nodup →
      (map.insertAll pairs).find? key =
        ((pairs.find? fun pair => pair.1 = key).map Prod.snd).or (map.find? key) := by
  -- The map grows while the pairs are used up, so it stays quantified over.
  induction pairs with
  | nil => intro map _; rfl
  | cons pair rest ih =>
    intro map distinct
    obtain ⟨first, distinct⟩ := List.nodup_cons.mp distinct
    have step : map.insertAll (pair :: rest) = (map.insert pair.1 pair.2).insertAll rest := rfl
    rw [step, ih _ distinct, find?_insert]
    by_cases same : key = pair.1
    · -- No later pair has this key, so its value stays.
      have absent : rest.find? (fun later => later.1 = key) = none := by
        rw [List.find?_eq_none]
        intro later member hit
        have hit : later.1 = key := by simpa using hit
        exact first (same ▸ hit ▸ List.mem_map_of_mem member)
      rw [absent]
      simp [same]
    · simp [same, Ne.symm same]

/-- In a merged map the second map answers first. -/
theorem find?_merge (first second : OrderedMap κ α) (key : κ) :
    (first.merge second).find? key = (second.find? key).or (first.find? key) :=
  -- The entries of the second map are put into the first one by one, and its keys are distinct.
  find?_insertAll key second.entries first second.distinct

/-- A key that is not there goes to the end. -/
theorem insertEntry_of_not_mem {key : κ} {entries : List (κ × α)} (value : α)
    (fresh : key ∉ entries.map Prod.fst) : insertEntry key value entries = entries ++ [(key, value)] := by
  -- No entry has the key, so the search for its place goes through to the end.
  induction entries with
  | nil => rfl
  | cons entry rest ih =>
    rw [List.map_cons, List.mem_cons, not_or] at fresh
    rw [insertEntry, if_neg (Ne.symm fresh.1), ih fresh.2, List.cons_append]

/-- Pairs with new and different keys go to the end in their order. -/
theorem entries_insertAll (pairs : List (κ × α)) :
    ∀ map : OrderedMap κ α, ((map.entries ++ pairs).map Prod.fst).Nodup →
      (map.insertAll pairs).entries = map.entries ++ pairs := by
  -- The map grows while the pairs are used up, so it stays quantified over.
  induction pairs with
  | nil => intro map _; rw [List.append_nil]; rfl
  | cons pair rest ih =>
    intro map distinct
    have fresh : pair.1 ∉ map.entries.map Prod.fst := by
      rw [List.map_append, List.nodup_append] at distinct
      intro known
      exact distinct.2.2 _ known pair.1 (by simp) rfl
    have grown : (map.insert pair.1 pair.2).entries = map.entries ++ [pair] :=
      insertEntry_of_not_mem pair.2 fresh
    have step : map.insertAll (pair :: rest) = (map.insert pair.1 pair.2).insertAll rest := rfl
    rw [step, ih _ (by simpa [grown] using distinct), grown, List.append_assoc,
      List.singleton_append]

/-- Merging a map into the empty one gives the map. -/
theorem merge_empty (map : OrderedMap κ α) : empty.merge map = map := by
  -- A map is determined by its entries, and all of them are new to the empty map.
  have same : (empty.merge map).entries = map.entries :=
    entries_insertAll map.entries empty map.distinct
  show (⟨(empty.merge map).entries, (empty.merge map).distinct⟩ : OrderedMap κ α) =
    ⟨map.entries, map.distinct⟩
  simp only [same]

end SymbolAssist.OrderedMap
