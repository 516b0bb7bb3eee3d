import SymbolAssist.Text.Bytes
import SymbolAssist.Text.LowerCase

/-! How many characters a lowered text has at most, which ones it has once it is lowered as a whole, and
when a sigma is among them. -/

namespace SymbolAssist.Text

/-- Lowering a character gives no more characters than it has bytes. -/
theorem length_lowerChar_le (char : Char) : (lowerChar char).length ≤ char.utf8Size := by
  have positive : 0 < char.utf8Size := char.utf8Size_pos
  rw [lowerChar]
  split
  · -- The one character that is lowered to two takes two bytes.
    rename_i dotted
    rw [dotted]
    decide
  · -- All others are lowered to one.
    split
    · split <;> exact positive
    · exact positive

/-- A text lowered character by character has no more characters than the text has bytes. -/
theorem length_lowerEach_le (text : List Char) : (lowerEach text).length ≤ byteLength text := by
  -- A character is lowered to no more characters than it has bytes.
  induction text with
  | nil => exact Nat.le_refl 0
  | cons char rest ih =>
    have here := length_lowerChar_le char
    rw [lowerEach, List.flatMap_cons, List.length_append, byteLength]
    exact Nat.add_le_add here ih

/-- A lowered text has the characters that its own are lowered to, where a capital sigma looks to both
sides. -/
theorem mem_lowerAfter_iff {char : Char} {text : List Char} :
    ∀ {before : List Char}, char ∈ lowerAfter before text ↔
      ∃ front letter back, text = front ++ letter :: back ∧
        char ∈ if letter = 'Σ' then [lowerSigma (front.reverse ++ before) back]
          else lowerChar letter := by
  -- What stands before a character grows with each step, so it stays quantified over.
  induction text with
  | nil => simp [lowerAfter]
  | cons first rest ih =>
    intro before
    rw [lowerAfter, List.mem_append, ih]
    constructor
    · rintro (here | ⟨front, letter, back, rfl, later⟩)
      · exact ⟨[], first, rest, rfl, here⟩
      · exact ⟨first :: front, letter, back, rfl, by simpa using later⟩
    · rintro ⟨front, letter, back, split, found⟩
      -- The letter is the first one, or one of the rest.
      cases front with
      | nil =>
        obtain ⟨rfl, rfl⟩ := List.cons.inj split
        exact .inl found
      | cons head front =>
        obtain ⟨rfl, rfl⟩ := List.cons.inj split
        exact .inr ⟨front, letter, back, rfl, by simpa using found⟩

/-- Every letter but a capital sigma is lowered in a text as it is by itself. -/
theorem mem_lowerWhole_of_mem {char letter : Char} {text : List Char} (member : letter ∈ text)
    (plain : letter ≠ 'Σ') (lowered : char ∈ lowerChar letter) : char ∈ lowerWhole text := by
  -- Only a capital sigma is lowered by what stands around it.
  obtain ⟨front, back, rfl⟩ := List.append_of_mem member
  exact mem_lowerAfter_iff.mpr ⟨front, letter, back, rfl, by rwa [if_neg plain]⟩

/-- A capital sigma by itself is lowered to the form inside words. -/
theorem lowerChar_capitalSigma : lowerChar 'Σ' = ['σ'] := by
  -- The table has it.
  decide +kernel

/-- No run of capital letters but that of the sigma leads to a small sigma. -/
theorem eq_capitalSigma_of_run {run : CaseRun} (listed : run ∈ lowerRuns) {code : Nat}
    (low : run.first ≤ code) (high : code ≤ run.last) (moved : (code : Int) + run.shift = 0x3C3) :
    code = 0x3A3 := by
  -- The place from which a run would reach the small sigma is computed for each run of the table.
  have table : ∀ run ∈ lowerRuns, (run.first : Int) ≤ 0x3C3 - run.shift →
      0x3C3 - run.shift ≤ (run.last : Int) → 0x3C3 - run.shift = 0x3A3 := by decide +kernel
  have only := table run listed (by omega) (by omega)
  omega

/-- A number that stands for the small sigma is its code point. -/
theorem code_of_ofNat_eq_sigma {code : Nat} (same : Char.ofNat code = 'σ') : code = 0x3C3 := by
  by_cases valid : code.isValidChar
  · have own : Char.ofNat code = Char.ofNatAux code valid := dif_pos valid
    exact congrArg Char.toNat (own.symm.trans same)
  · -- A number that is no code point stands for the null character.
    have null : Char.ofNat code = '\x00' := dif_neg valid
    exact absurd (null.symm.trans same) (by decide)

/-- Only the two sigmas are lowered to the small sigma that stands inside words. -/
theorem sigma_mem_lowerChar_iff {char : Char} :
    'σ' ∈ lowerChar char ↔ char = 'Σ' ∨ char = 'σ' := by
  constructor
  · intro lowered
    unfold lowerChar at lowered
    split at lowered
    · simp at lowered
    · split at lowered
      · rename_i run found
        split at lowered
        · -- The character was moved by its run, which must be the one of the sigma.
          rename_i inside
          have high : char.toNat ≤ run.last := by simpa using List.find?_some found
          have code := code_of_ofNat_eq_sigma (List.mem_singleton.mp lowered).symm
          have moved : (char.toNat : Int) + run.shift = 0x3C3 := by omega
          have capital := eq_capitalSigma_of_run (List.mem_of_find?_eq_some found) inside.1 high moved
          exact .inl (Char.toNat_inj.mp capital)
        · exact .inr (List.mem_singleton.mp lowered).symm
      · exact .inr (List.mem_singleton.mp lowered).symm
  · rintro (rfl | rfl) <;> decide +kernel

/-- A sigma between these two texts ends a word: a letter with a case comes before it and none behind. -/
def EndsWord (before after : List Char) : Prop :=
  meetsCased before.reverse ∧ ¬ meetsCased after

/-- A text has a sigma that is lowered to the form inside words: a small one, or a capital one that does
not end a word. -/
def KeepsSigma (text : List Char) : Prop :=
  'σ' ∈ text ∨ ∃ before after, text = before ++ 'Σ' :: after ∧ ¬ EndsWord before after

/-- A capital sigma takes the form inside words exactly if it does not end one. -/
theorem lowerSigma_eq_iff {before after : List Char} :
    lowerSigma before.reverse after = 'σ' ↔ ¬ EndsWord before after := by
  -- The form at the end takes a cased letter before it and none behind it.
  unfold lowerSigma EndsWord
  cases meetsCased before.reverse <;> cases meetsCased after <;> simp

/-- A lowered text has a small sigma of the form inside words exactly if the text has a sigma for it. -/
theorem sigma_mem_lowerWhole_iff {text : List Char} : 'σ' ∈ lowerWhole text ↔ KeepsSigma text := by
  rw [lowerWhole, mem_lowerAfter_iff, KeepsSigma]
  constructor
  · rintro ⟨front, letter, back, rfl, found⟩
    split at found
    · -- The letter is a capital sigma, and its form tells that it does not end a word.
      rename_i capital
      rw [List.append_nil, List.mem_singleton] at found
      exact .inr ⟨front, back, by rw [capital], lowerSigma_eq_iff.mp found.symm⟩
    · rename_i plain
      have small := (sigma_mem_lowerChar_iff.mp found).resolve_left plain
      exact .inl (by simp [small])
  · rintro (small | ⟨front, back, rfl, inside⟩)
    · obtain ⟨front, back, rfl⟩ := List.append_of_mem small
      exact ⟨front, 'σ', back, rfl, by rw [if_neg (by decide)]; decide +kernel⟩
    · exact ⟨front, 'Σ', back, rfl, by simp [lowerSigma_eq_iff.mpr inside]⟩

instance (text : List Char) : Decidable (KeepsSigma text) :=
  decidable_of_iff _ sigma_mem_lowerWhole_iff

end SymbolAssist.Text
