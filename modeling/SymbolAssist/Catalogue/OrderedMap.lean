/-! Association lists that keep the order in which keys first came in. -/

namespace SymbolAssist

/-- Keys with their values, in the order of the keys' first insertion. -/
structure OrderedMap (κ : Type) (α : Type) where
  /-- The entries in order. -/
  entries : List (κ × α)
  /-- No key has two entries. -/
  distinct : (entries.map Prod.fst).Nodup
  deriving Repr, DecidableEq

namespace OrderedMap

variable {κ α : Type} [DecidableEq κ]

/-- The map without entries. -/
def empty : OrderedMap κ α :=
  ⟨[], List.nodup_nil⟩

/-- The keys in order. -/
def keys (map : OrderedMap κ α) : List κ :=
  map.entries.map Prod.fst

/-- The number of entries. -/
def size (map : OrderedMap κ α) : Nat :=
  map.entries.length

/-- The value under a key. -/
def find? (map : OrderedMap κ α) (key : κ) : Option α :=
  (map.entries.find? fun entry => entry.1 = key).map Prod.snd

/-- Puts a value under a key in a list of entries, in place if the key is there and at the end if not. -/
def insertEntry (key : κ) (value : α) : List (κ × α) → List (κ × α)
  | [] => [(key, value)]
  | entry :: rest =>
    if entry.1 = key then (key, value) :: rest else entry :: insertEntry key value rest

/-- The keys after putting a value in: the same ones, or one more at the end. -/
theorem keys_insertEntry (key : κ) (value : α) (entries : List (κ × α)) :
    (insertEntry key value entries).map Prod.fst =
      if key ∈ entries.map Prod.fst then entries.map Prod.fst
      else entries.map Prod.fst ++ [key] := by
  induction entries with
  | nil => rfl
  | cons entry rest ih =>
    -- Either the key is met here and kept in place, or the search goes on.
    by_cases here : entry.1 = key
    · simp [insertEntry, here]
    · simp only [insertEntry, if_neg here, List.map_cons, ih, List.mem_cons, Ne.symm here, false_or]
      split <;> rfl

/-- Putting a value in gives no key a second entry. -/
theorem distinct_insertEntry (key : κ) (value : α) {entries : List (κ × α)}
    (distinct : (entries.map Prod.fst).Nodup) :
    ((insertEntry key value entries).map Prod.fst).Nodup := by
  rw [keys_insertEntry]
  split
  · exact distinct
  · -- A key that goes to the end was not among the others.
    rename_i fresh
    refine List.nodup_append.mpr ⟨distinct, by simp, ?_⟩
    intro other present key' last
    rw [List.mem_singleton.mp last]
    rintro rfl
    exact fresh present

/-- Puts a value under a key, which keeps its place if it is there already. -/
def insert (map : OrderedMap κ α) (key : κ) (value : α) : OrderedMap κ α :=
  ⟨insertEntry key value map.entries, distinct_insertEntry key value map.distinct⟩

/-- Takes a key out and leaves the others in order. -/
def erase (map : OrderedMap κ α) (key : κ) : OrderedMap κ α :=
  ⟨map.entries.filter fun entry => entry.1 ≠ key,
    map.distinct.sublist (List.filter_sublist.map Prod.fst)⟩

/-- Puts pairs in one after the other, so that of repeated keys the last value stays. -/
def insertAll (map : OrderedMap κ α) (pairs : List (κ × α)) : OrderedMap κ α :=
  pairs.foldl (fun map pair => map.insert pair.1 pair.2) map

/-- Puts the entries of a second map into the first one, in order. -/
def merge (first second : OrderedMap κ α) : OrderedMap κ α :=
  first.insertAll second.entries

/-- The map of some pairs, of which repeated keys take the first place and the last value. -/
def ofList (pairs : List (κ × α)) : OrderedMap κ α :=
  empty.insertAll pairs

end OrderedMap

end SymbolAssist
