/-! Sets of characters given by ascending ranges of code points. -/

namespace SymbolAssist.Text

/-- Ranges of code points, each given by its first and last member, in ascending order. -/
abbrev CodeRanges := List (Nat × Nat)

/-- Membership is decided at the first range that does not lie wholly below the character. -/
def CodeRanges.covers (ranges : CodeRanges) (char : Char) : Bool :=
  match ranges.find? fun range => char.toNat ≤ range.2 with
  | some range => decide (range.1 ≤ char.toNat)
  | none => false

end SymbolAssist.Text
