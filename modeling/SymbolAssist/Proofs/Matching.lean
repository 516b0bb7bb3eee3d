import Mathlib.Data.List.Basic
import SymbolAssist.Matching
import SymbolAssist.Proofs.Text.LowerCase

/-! Which names a typed text finds, told by all its characters that a name does not have, though not all
are counted: a larger budget finds more, a longer text finds less, and the beginning of a name finds it
unless its sigmas forbid. -/

namespace SymbolAssist

open Text

/-- How many typed characters, each lowered by itself, a name lowered as a whole does not have. -/
def typos (typed name : List Char) : Nat :=
  (lowerEach typed).countP fun char => char ∉ lowerWhole name

/-- A count that stops above a limit is the full count, cut at one more than the limit. -/
theorem countUpTo_eq_min {α : Type} (limit : Nat) (test : α → Bool) (items : List α) :
    ∀ found, found ≤ limit →
      countUpTo limit test found items = min (found + items.countP test) (limit + 1) := by
  -- What was found before grows along the list, so it stays quantified over.
  induction items with
  | nil =>
    intro found within
    simp only [countUpTo, List.countP_nil]
    omega
  | cons item rest ih =>
    intro found within
    rw [countUpTo]
    cases accepted : test item with
    | false =>
      rw [List.countP_cons_of_neg (by simp [accepted])]
      exact ih found within
    | true =>
      rw [List.countP_cons_of_pos accepted, if_pos rfl]
      -- Either this member goes above the limit and ends the count, or there is room for it.
      split
      · omega
      · rw [ih (found + 1) (by omega)]
        omega

/-- Counting typos stops at one above the limit, and is exact up to there. -/
theorem typoCount_eq_min (typed name : List Char) (limit : Nat) :
    typoCount typed name limit = min (typos typed name) (limit + 1) := by
  -- The count starts at zero, which no limit excludes.
  rw [typoCount, countUpTo_eq_min limit _ _ 0 (Nat.zero_le limit), Nat.zero_add, typos]
  congr 2
  funext char
  simp

/-- The early end makes no difference to whether a limit is kept. -/
theorem typoCount_le_iff {typed name : List Char} {limit : Nat} :
    typoCount typed name limit ≤ limit ↔ typos typed name ≤ limit := by
  -- The count is the number of typos, cut off just above the limit.
  rw [typoCount_eq_min]
  omega

/-- The typos of two parts add up. -/
theorem typos_append (first second name : List Char) :
    typos (first ++ second) name = typos first name + typos second name := by
  -- Each letter is lowered and counted by itself.
  simp only [typos, lowerEach, List.flatMap_append, List.countP_append]

/-- The order in which characters are typed does not change how many are typos. -/
theorem typos_perm {typed other : List Char} (reordered : typed.Perm other) (name : List Char) :
    typos typed name = typos other name := by
  -- Each character is lowered by itself, so the lowered ones are reordered in the same way.
  have lowered : (lowerEach typed).Perm (lowerEach other) := reordered.flatMap_right lowerChar
  exact lowered.countP_eq _

/-- There are no more typos than the typed text has bytes, though one character may give two of them. -/
theorem typos_le_byteLength (typed name : List Char) : typos typed name ≤ byteLength typed :=
  -- Typos are counted among the lowered characters, of which there are no more than bytes.
  Nat.le_trans List.countP_le_length (length_lowerEach_le typed)

/-- A letter that a name has is no typo, unless it is a capital sigma and the name keeps none. -/
theorem typos_singleton {letter : Char} {name : List Char} (member : letter ∈ name) :
    typos [letter] name = if letter = 'Σ' ∧ 'σ' ∉ lowerWhole name then 1 else 0 := by
  have lowered : lowerEach [letter] = lowerChar letter := List.flatMap_singleton ..
  rw [typos, lowered]
  by_cases sigma : letter = 'Σ'
  · -- By itself the sigma is lowered to one character, which is looked for in the name.
    rw [sigma, lowerChar_capitalSigma]
    by_cases kept : 'σ' ∈ lowerWhole name <;> simp [kept]
  · -- Any other letter is lowered in the name as it was typed.
    rw [if_neg fun both => sigma both.1, List.countP_eq_zero]
    intro char typed
    simp [mem_lowerWhole_of_mem member sigma typed]

/-- Of letters that a name has, only capital sigmas are typos, and these only if the name keeps none. -/
theorem typos_of_mem {letters name : List Char} (inside : ∀ letter ∈ letters, letter ∈ name) :
    typos letters name = if 'σ' ∈ lowerWhole name then 0 else letters.count 'Σ' := by
  induction letters with
  | nil => simp [typos, lowerEach]
  | cons letter rest ih =>
    rw [← List.singleton_append, typos_append, typos_singleton (inside letter List.mem_cons_self),
      ih fun other later => inside other (List.mem_cons_of_mem letter later), List.singleton_append]
    -- The letter adds to the count where it is such a sigma.
    by_cases sigma : letter = 'Σ' <;> by_cases kept : 'σ' ∈ lowerWhole name <;>
      simp [sigma, kept, Nat.add_comm]

/-- The beginning of a name without a capital sigma has no typos. -/
theorem typos_of_isPrefix {fragment name : List Char} (absent : 'Σ' ∉ name)
    (begins : fragment <+: name) : typos fragment name = 0 := by
  -- Of the letters of the name itself only capital sigmas can be missing.
  have none : fragment.count 'Σ' = 0 := List.count_eq_zero.mpr fun member =>
    absent (begins.mem member)
  rw [typos_of_mem fun letter member => begins.mem member, none, ite_self]

/-- A typed text is the beginning of a name but for the case of its letters. -/
def BeginsAlike (typed name : List Char) : Prop :=
  typed.map lowerChar <+: name.map lowerChar

instance (typed name : List Char) : Decidable (BeginsAlike typed name) :=
  inferInstanceAs (Decidable (_ <+: _))

/-- Only the letters count, not their case, so what was typed has the typos of what it stands for. -/
theorem typos_of_beginsAlike {typed name : List Char} (alike : BeginsAlike typed name) :
    typos typed name = if 'σ' ∈ lowerWhole name then 0 else (name.take typed.length).count 'Σ' := by
  have letters : typed.map lowerChar = (name.take typed.length).map lowerChar := by
    rw [List.map_take]
    simpa using List.prefix_iff_eq_take.mp alike
  -- Both texts are lowered letter by letter before they are compared with the name.
  have same : lowerEach typed = lowerEach (name.take typed.length) := by
    rw [lowerEach, lowerEach, List.flatMap_def, List.flatMap_def, letters]
  have count : typos typed name = typos (name.take typed.length) name := by
    rw [typos, typos, same]
  rw [count, typos_of_mem fun letter member => List.mem_of_mem_take member]

/-- What the capital sigmas in the typed part of a name cost is within a budget: nothing where the name
keeps a sigma as it is typed, and one typo each otherwise. -/
def SigmasForgiven (budget : Nat) (typed name : List Char) : Prop :=
  KeepsSigma name ∨ (name.take typed.length).count 'Σ' ≤ budget

instance (budget : Nat) (typed name : List Char) : Decidable (SigmasForgiven budget typed name) :=
  inferInstanceAs (Decidable (_ ∨ _))

/-- The beginning of a name, in any case, is within a budget exactly if its sigmas are. -/
theorem typos_le_iff_sigmasForgiven {budget : Nat} {typed name : List Char}
    (alike : BeginsAlike typed name) : typos typed name ≤ budget ↔ SigmasForgiven budget typed name := by
  -- Either the lowered name has a sigma, or each typed one is a typo.
  rw [typos_of_beginsAlike alike, SigmasForgiven, ← sigma_mem_lowerWhole_iff]
  by_cases kept : 'σ' ∈ lowerWhole name <;> simp [kept]

namespace TypoBudgets

variable (budgets : TypoBudgets)

/-- A fragment finds the names that start alike and keep its typos within the budget. -/
theorem matchesFree_iff {fragment name : List Char} :
    budgets.matchesFree fragment name ↔
      (∃ typed first, fragment.head? = some typed ∧ name.head? = some first ∧
        lowerChar first = lowerChar typed) ∧
      typos fragment name ≤ budgets.free := by
  -- Where one of the two is empty there is no first character to compare.
  cases fragment with
  | nil => simp [matchesFree]
  | cons typed rest =>
    cases name with
    | nil => simp [matchesFree]
    | cons first others => simp [matchesFree, typoCount_le_iff]

/-- A member finds the names whose last segment, behind the receiver, keeps its typos within the
budget. -/
theorem matchesMember_iff {receiver member name : List Char} :
    budgets.matchesMember receiver member name ↔
      receiver ≠ [] ∧ lastSegment name ≠ [] ∧
      typos (receiver ++ '.' :: member) (receiver ++ '.' :: lastSegment name) ≤ budgets.member := by
  rw [matchesMember]
  by_cases void : receiver = [] ∨ lastSegment name = []
  · -- Without a receiver or a segment the names are not compared at all.
    simp only [if_pos void]
    grind
  · simp only [if_neg void, decide_eq_true_eq, typoCount_le_iff]
    grind

/-- A larger budget finds what a smaller one finds. -/
theorem matchesFree_mono {smaller larger : TypoBudgets} (room : smaller.free ≤ larger.free)
    {fragment name : List Char} (found : smaller.matchesFree fragment name) :
    larger.matchesFree fragment name := by
  -- The budget only bounds the typos.
  rw [matchesFree_iff] at found ⊢
  exact ⟨found.1, Nat.le_trans found.2 room⟩

/-- A larger budget finds the members that a smaller one finds. -/
theorem matchesMember_mono {smaller larger : TypoBudgets} (room : smaller.member ≤ larger.member)
    {receiver member name : List Char} (found : smaller.matchesMember receiver member name) :
    larger.matchesMember receiver member name := by
  -- The budget only bounds the typos.
  rw [matchesMember_iff] at found ⊢
  exact ⟨found.1, found.2.1, Nat.le_trans found.2.2 room⟩

/-- Every name without a capital sigma is found by what it begins with, however small the budget. -/
theorem matchesFree_of_isPrefix {fragment name : List Char} (typed : fragment ≠ [])
    (absent : 'Σ' ∉ name) (begins : fragment <+: name) : budgets.matchesFree fragment name := by
  rw [matchesFree_iff, typos_of_isPrefix absent begins]
  refine ⟨?_, Nat.zero_le _⟩
  -- The two first characters are one and the same.
  obtain ⟨rest, rfl⟩ := begins
  cases fragment with
  | nil => exact absurd rfl typed
  | cons first others => exact ⟨first, first, rfl, rfl, rfl⟩

/-- What a longer fragment finds, the shorter one has found before. -/
theorem matchesFree_of_append {fragment word name : List Char} (typed : fragment ≠ [])
    (found : budgets.matchesFree (fragment ++ word) name) : budgets.matchesFree fragment name := by
  rw [matchesFree_iff, typos_append, List.head?_append_of_ne_nil _ typed] at found
  obtain ⟨alike, within⟩ := found
  -- The first character stays, and the typos of the word are taken off the count.
  exact budgets.matchesFree_iff.mpr ⟨alike, by omega⟩

/-- What a longer member finds, the shorter one has found before. -/
theorem matchesMember_of_append {receiver member word name : List Char}
    (found : budgets.matchesMember receiver (member ++ word) name) :
    budgets.matchesMember receiver member name := by
  -- Behind the receiver, too, the word stands at the end of what was typed.
  rw [matchesMember_iff, ← List.cons_append, ← List.append_assoc, typos_append] at found
  obtain ⟨behind, segment, within⟩ := found
  exact budgets.matchesMember_iff.mpr ⟨behind, segment, by omega⟩

/--
A correctly typed beginning finds its name in any case, but for the capital sigmas in it.

A name is lowered as a whole, where a capital sigma that ends a word takes its final form, and what is
typed is lowered letter by letter, where it does not.
So a beginning finds its name exactly if the capital sigmas in that part of the name are forgiven: the
name keeps a sigma of the other form, or there are no more of them than typos are allowed.
The same holds of a member, with the receiver before it on both sides.
-/
theorem beginning_found_iff_sigmasForgiven :
    (∀ fragment name, fragment ≠ [] → BeginsAlike fragment name →
      (budgets.matchesFree fragment name ↔ SigmasForgiven budgets.free fragment name)) ∧
    ∀ receiver member name, receiver ≠ [] → lastSegment name ≠ [] →
      BeginsAlike member (lastSegment name) →
      (budgets.matchesMember receiver member name ↔
        SigmasForgiven budgets.member (receiver ++ '.' :: member)
          (receiver ++ '.' :: lastSegment name)) := by
  constructor
  · intro fragment name typed alike
    rw [matchesFree_iff, typos_le_iff_sigmasForgiven alike]
    -- The two first letters are alike, as all others are.
    refine and_iff_right ?_
    cases fragment with
    | nil => exact absurd rfl typed
    | cons letter rest =>
      cases name with
      | nil => simp [BeginsAlike] at alike
      | cons first others =>
        rw [BeginsAlike, List.map_cons, List.map_cons, List.cons_prefix_cons] at alike
        exact ⟨letter, first, rfl, rfl, alike.1.symm⟩
  · intro receiver member name behind segment alike
    -- The receiver is the same on both sides, so it is alike too.
    have whole : BeginsAlike (receiver ++ '.' :: member) (receiver ++ '.' :: lastSegment name) := by
      rw [BeginsAlike, List.map_append, List.map_append, List.map_cons, List.map_cons,
        List.prefix_append_right_inj, List.cons_prefix_cons]
      exact ⟨rfl, alike⟩
    rw [matchesMember_iff, typos_le_iff_sigmasForgiven whole]
    exact ⟨fun found => found.2.2, fun forgiven => ⟨behind, segment, forgiven⟩⟩

/-- With no typo forgiven, capitals find a name that keeps a sigma, and a member behind a receiver whose
sigma does not end the joined word. -/
theorem beginning_found_in_capitals :
    let strict : TypoBudgets := ⟨0, 0⟩
    (BeginsAlike "ΣΊΣ".toList "σίσυφος".toList ∧
      strict.matchesFree "ΣΊΣ".toList "σίσυφος".toList) ∧
    BeginsAlike "MA".toList (lastSegment "math.maxΣ".toList) ∧
      strict.matchesMember "ΑΣ".toList "MA".toList "math.maxΣ".toList := by
  -- How the names begin is computed, and that they are found is a case of the general fact.
  intro strict
  obtain ⟨free, member⟩ := beginning_found_iff_sigmasForgiven strict
  have alike : BeginsAlike "ΣΊΣ".toList "σίσυφος".toList := by decide +kernel
  have alikeToo : BeginsAlike "MA".toList (lastSegment "math.maxΣ".toList) := by decide +kernel
  exact ⟨⟨alike, (free _ _ (by decide) alike).mpr (by decide +kernel)⟩,
    alikeToo, (member _ _ _ (by decide) (by decide) alikeToo).mpr (by decide +kernel)⟩

/-- A name that ends in a capital sigma does not find itself, neither alone nor behind a receiver, and
a receiver that ends in one finds none of its members. -/
theorem final_sigma_not_found :
    let strict : TypoBudgets := ⟨0, 0⟩
    (BeginsAlike "ΟΔΟΣ".toList "ΟΔΟΣ".toList ∧
      strict.matchesFree "ΟΔΟΣ".toList "ΟΔΟΣ".toList = false ∧
      strict.matchesMember "ns".toList "ΟΔΟΣ".toList "ΟΔΟΣ".toList = false) ∧
    BeginsAlike [] (lastSegment "_x".toList) ∧
      strict.matchesMember "ΟΔΟΣ".toList [] "_x".toList = false := by
  -- The name is lowered to end in the final form, and each typed sigma to the inner one.
  decide +kernel

end TypoBudgets

/--
That counting ends early changes nothing that is decided by the count.

Up to one above the limit the count is that of all typos, whatever the limit and the order of what was
typed, and it never goes above the bytes of the typed text.
So both ways of matching accept a name exactly if all typos together are within their budget, next to
what they ask of the first characters, and of the receiver and the last segment.
-/
theorem early_end_changes_nothing :
    (∀ typed name limit, typoCount typed name limit = min (typos typed name) (limit + 1) ∧
      typos typed name ≤ byteLength typed) ∧
    (∀ typed other name limit, typed.Perm other →
      typoCount typed name limit = typoCount other name limit) ∧
    (∀ (budgets : TypoBudgets) fragment name, budgets.matchesFree fragment name ↔
      (∃ typed first, fragment.head? = some typed ∧ name.head? = some first ∧
        lowerChar first = lowerChar typed) ∧
      typos fragment name ≤ budgets.free) ∧
    ∀ (budgets : TypoBudgets) receiver member name,
      budgets.matchesMember receiver member name ↔
        receiver ≠ [] ∧ lastSegment name ≠ [] ∧
        typos (receiver ++ '.' :: member) (receiver ++ '.' :: lastSegment name) ≤ budgets.member := by
  refine ⟨fun typed name limit => ?_, fun typed other name limit reordered => ?_,
    fun budgets fragment name => budgets.matchesFree_iff,
    fun budgets receiver member name => budgets.matchesMember_iff⟩
  · exact ⟨typoCount_eq_min typed name limit, typos_le_byteLength typed name⟩
  · -- Both counts are cut at the same place.
    rw [typoCount_eq_min, typoCount_eq_min, typos_perm reordered]

/-- A capital letter with a dot is lowered to two characters, and the count that ends between them is the
same when it comes first. -/
theorem early_end_inside_letter :
    "zİ".toList.Perm "İz".toList ∧ typos "zİ".toList "a".toList = 3 ∧
      typoCount "zİ".toList "a".toList 1 = 2 ∧ typoCount "İz".toList "a".toList 1 = 2 := by
  -- The typos are counted once, and the counts that end early follow from them.
  obtain ⟨count, order, -, -⟩ := early_end_changes_nothing
  have reordered : "zİ".toList.Perm "İz".toList := List.Perm.swap ..
  have all : typos "zİ".toList "a".toList = 3 := by decide +kernel
  have ended : typoCount "zİ".toList "a".toList 1 = 2 := by
    rw [(count _ _ 1).1, all]
    rfl
  exact ⟨reordered, all, ended, (order _ _ _ 1 reordered).symm.trans ended⟩

end SymbolAssist
