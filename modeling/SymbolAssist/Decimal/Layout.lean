import SymbolAssist.Decimal.Shortest

/-! How decimals are written, with or without an exponent. -/

namespace SymbolAssist

namespace Decimal

/-- How decimals are laid out. -/
structure Layout where
  /-- The least power of the first digit that is written without an exponent. -/
  plainFrom : Int
  /-- The first power of the first digit that is written with an exponent again. -/
  plainBelow : Int
  /-- The letter in front of the exponent, which always has a sign. -/
  mark : Char
  deriving Repr, DecidableEq

/-- A decimal with a point, and with an exponent if the layout asks for one. -/
def Layout.write (layout : Layout) (decimal : Decimal) : List Char :=
  let digits := Nat.toDigits 10 decimal.digits
  let leading := decimal.power + (digits.length : Int) - 1
  if layout.plainFrom ≤ leading ∧ leading < layout.plainBelow then
    if leading < 0 then
      '0' :: '.' :: List.replicate (leading.natAbs - 1) '0' ++ digits
    else
      let padded := digits ++ List.replicate (leading.natAbs + 1 - digits.length) '0'
      let fraction := padded.drop (leading.natAbs + 1)
      padded.take (leading.natAbs + 1) ++ '.' :: (if fraction = [] then ['0'] else fraction)
  else
    let fraction := digits.drop 1
    let sign := if leading < 0 then '-' else '+'
    digits.take 1 ++ (if fraction = [] then [] else '.' :: fraction) ++
      layout.mark :: sign :: Nat.toDigits 10 leading.natAbs

end Decimal

end SymbolAssist
