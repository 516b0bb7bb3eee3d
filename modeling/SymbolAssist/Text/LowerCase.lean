import SymbolAssist.Text.CaseTable

/-! Lower-casing, of single characters and of whole texts, which differ at a final sigma. -/

namespace SymbolAssist.Text

/-- The lower-case form of one character out of context, which takes two characters for one of them. -/
def lowerChar (char : Char) : List Char :=
  -- The capital I with a dot keeps that dot as a combining mark.
  if char = 'İ' then ['i', '\u0307']
  else
    match lowerRuns.find? fun run => char.toNat ≤ run.last with
    | some run =>
      if run.first ≤ char.toNat ∧ (char.toNat - run.first) % run.step = 0 then
        [Char.ofNat (Int.toNat (char.toNat + run.shift))]
      else [char]
    | none => [char]

/-- A text lowered character by character. -/
def lowerEach (text : List Char) : List Char :=
  text.flatMap lowerChar

/-- A cased character comes next, once those that casing ignores are passed over. -/
def meetsCased (text : List Char) : Bool :=
  match text.dropWhile ignorableRanges.covers with
  | [] => false
  | char :: _ => casedRanges.covers char

/-- A capital sigma ends a word and is written in its final form, or stands inside one. -/
def lowerSigma (before after : List Char) : Char :=
  if meetsCased before && !meetsCased after then 'ς' else 'σ'

/-- Lowers the rest of a text whose earlier part is given in reverse. -/
def lowerAfter (before : List Char) : List Char → List Char
  | [] => []
  | char :: after =>
    (if char = 'Σ' then [lowerSigma before after] else lowerChar char) ++
      lowerAfter (char :: before) after

/-- A text lowered as a whole, with the final form of sigma where a word ends in it. -/
def lowerWhole (text : List Char) : List Char :=
  lowerAfter [] text

end SymbolAssist.Text
