import SymbolAssist.Json.Basic

/-! Written numbers: their form, and the integer or double each one stands for. -/

namespace SymbolAssist

/-- The parts of a written number, with its digits as they stand. -/
structure Numeral where
  /-- A minus sign stands in front. -/
  negative : Bool
  /-- The digits before the point. -/
  whole : List Char
  /-- The digits behind the point. -/
  fraction : List Char
  /-- The sign and digits of the exponent, where a set sign is a minus. -/
  exponent : Option (Bool × List Char)
  deriving Repr, DecidableEq

namespace Numeral

/-- At least one digit, and all that follow it. -/
def digits (text : List Char) : Except JsonFault (List Char × List Char) :=
  match text with
  | [] => .error .endOfText
  | char :: _ =>
    if char.isDigit then .ok (text.takeWhile Char.isDigit, text.dropWhile Char.isDigit)
    else .error .malformed

/-- The digits before the point, where only zero itself starts with a zero. -/
def readWhole (text : List Char) : Except JsonFault (List Char × List Char) := do
  let (whole, rest) ← digits text
  if whole.head? = some '0' ∧ whole ≠ ['0'] then throw .malformed
  return (whole, rest)

/-- The digits behind a point, if there is one. -/
def readFraction (text : List Char) : Except JsonFault (List Char × List Char) :=
  match text with
  | '.' :: rest => digits rest
  | _ => .ok ([], text)

/-- The exponent, if there is one. -/
def readExponent (text : List Char) :
    Except JsonFault (Option (Bool × List Char) × List Char) :=
  match text with
  | mark :: rest =>
    if mark = 'e' ∨ mark = 'E' then do
      let (negative, rest) := match rest with
        | '-' :: rest => (true, rest)
        | '+' :: rest => (false, rest)
        | _ => (false, rest)
      let (power, rest) ← digits rest
      return (some (negative, power), rest)
    else .ok (none, text)
  | [] => .ok (none, [])

/-- A number at the front of a text, and what follows it. -/
def read (text : List Char) : Except JsonFault (Numeral × List Char) := do
  let (negative, rest) := match text with
    | '-' :: rest => (true, rest)
    | _ => (false, text)
  let (whole, rest) ← readWhole rest
  let (fraction, rest) ← readFraction rest
  let (exponent, rest) ← readExponent rest
  return (⟨negative, whole, fraction, exponent⟩, rest)

/-- The value of a digit. -/
def digitValue (char : Char) : Nat :=
  char.toNat - '0'.toNat

/-- The value of a row of digits. -/
def digitsValue (digits : List Char) : Nat :=
  digits.foldl (fun value char => 10 * value + digitValue char) 0

/-- The largest unsigned integer of 64 bits. -/
def maxWord : Nat :=
  0xFFFFFFFFFFFFFFFF

/-- The magnitude of the least signed integer of 64 bits. -/
def minWord : Nat :=
  0x8000000000000000

/-- Takes digits up as long as the significand fits 64 bits, and returns those left over. -/
def gather (significand : Nat) : List Char → Nat × List Char
  | [] => (significand, [])
  | char :: rest =>
    let next := 10 * significand + digitValue char
    if next ≤ maxWord then gather next rest else (significand, char :: rest)

/-- The largest power of ten that a double can hold. -/
def maxPower : Nat :=
  308

/-- A power of ten, rounded to a double. -/
def powerOfTen (power : Nat) : Float :=
  Float.ofScientific 1 false power

/-- Divides by a power of ten, in steps that each are a double. -/
def divideByPower (value : Float) (power : Nat) : Float :=
  if power ≤ maxPower then value / powerOfTen power
  else if value == 0.0 then value
  else divideByPower (value / powerOfTen maxPower) (power - maxPower)
termination_by power
decreasing_by
  simp only [maxPower] at *
  omega

/-- A significand scaled by a power of ten, or nothing when that is beyond all doubles. -/
def scale? (significand : Nat) (power : Int) : Option Float :=
  let value := (UInt64.ofNat significand).toFloat
  if power < 0 then some (divideByPower value power.natAbs)
  else if power.natAbs ≤ maxPower then
    let scaled := value * powerOfTen power.natAbs
    if scaled.isInf then none else some scaled
  else if value == 0.0 then some value
  else none

/-- The largest exponent that is taken at its value. -/
def maxExponent : Nat :=
  0x7FFFFFFF

/-- The magnitude of the number as a double, or nothing when it is beyond all doubles. -/
def magnitude? (numeral : Numeral) : Option Float :=
  -- Whole digits past 64 bits only raise the power, and such digits of the fraction are dropped.
  let (significand, dropped) := gather 0 numeral.whole
  let (significand, ignored) := gather significand numeral.fraction
  let power : Int := dropped.length - (numeral.fraction.length - ignored.length : Nat)
  match numeral.exponent with
  | none => scale? significand power
  | some (negative, digits) =>
    let exponent := digitsValue digits
    if exponent ≤ maxExponent then
      scale? significand (if negative then power - exponent else power + exponent)
    else if significand = 0 ∨ negative then some 0.0
    else none

/-- The number as a double with its sign, or nothing when it is beyond all doubles. -/
def double? (numeral : Numeral) : Option JsonNumber := do
  let magnitude ← numeral.magnitude?
  return .double (if numeral.negative then -magnitude else magnitude).toBits

/-- What the number stands for: an integer of 64 bits if it is written as one, and else a double. -/
def value? (numeral : Numeral) : Option JsonNumber :=
  if numeral.fraction = [] ∧ numeral.exponent = none then
    let value := digitsValue numeral.whole
    if numeral.negative then
      -- An integer has no negative zero.
      if 0 < value ∧ value ≤ minWord then some (.integer (-value)) else numeral.double?
    else if value ≤ maxWord then some (.integer value) else numeral.double?
  else numeral.double?

end Numeral

end SymbolAssist
