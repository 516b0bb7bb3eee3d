/-! The shortest decimal that reads back as a given double, found by exact arithmetic. -/

namespace SymbolAssist

/-- A decimal: digits as an integer, times a power of ten. -/
structure Decimal where
  /-- The digits. -/
  digits : Nat
  /-- The power of ten. -/
  power : Int
  deriving Repr, DecidableEq

namespace Decimal

/-- A positive number as an integer times a power of two. -/
structure Binary where
  /-- The integer. -/
  significand : Nat
  /-- The power of two. -/
  power : Int
  /-- The next smaller double is nearer than the next larger one. -/
  nearBelow : Bool
  deriving Repr, DecidableEq

/-- The leading bit of a significand, which a double does not store. -/
def hiddenBit : Nat :=
  0x10000000000000

/-- The magnitude of a finite double. -/
def Binary.ofBits (bits : UInt64) : Binary :=
  let word := bits.toNat
  let fraction := word % hiddenBit
  let exponent : Nat := word / hiddenBit % 0x800
  if exponent = 0 then ⟨fraction, -1074, false⟩
  -- Below a power of two the doubles lie twice as dense.
  else ⟨fraction + hiddenBit, (exponent : Int) - 1075, fraction == 0 && decide (1 < exponent)⟩

/-- A number and the limits of what rounds to it, all over one denominator. -/
structure Window where
  /-- The lower limit. -/
  low : Nat
  /-- The number itself. -/
  centre : Nat
  /-- The upper limit. -/
  high : Nat
  /-- The common denominator. -/
  unit : Nat
  /-- The limits themselves round to the number. -/
  closed : Bool
  deriving Repr, DecidableEq

namespace Window

/-- The window of a double, in quarters of its last place. -/
def ofBinary (binary : Binary) : Window :=
  let centre := 4 * binary.significand
  let low := if binary.nearBelow then centre - 1 else centre - 2
  let high := centre + 2
  let closed := binary.significand % 2 == 0
  match binary.power - 2 with
  | .ofNat power =>
    let factor := Nat.pow 2 power
    ⟨low * factor, centre * factor, high * factor, 1, closed⟩
  | .negSucc power => ⟨low, centre, high, Nat.pow 2 (power + 1), closed⟩

/-- The window measured in a power of ten. -/
def inPowerOfTen (window : Window) : Int → Window
  | .ofNat power => { window with unit := window.unit * Nat.pow 10 power }
  | .negSucc power =>
    let factor := Nat.pow 10 (power + 1)
    { window with
      low := window.low * factor, centre := window.centre * factor, high := window.high * factor }

/-- An integer rounds to the number. -/
def holds (window : Window) (candidate : Nat) : Bool :=
  let scaled := candidate * window.unit
  if window.closed then window.low ≤ scaled && scaled ≤ window.high
  else window.low < scaled && scaled < window.high

/-- The integer that rounds to the number and is nearest to it, of two equally near the even one. -/
def nearest? (window : Window) : Option Nat :=
  let below := window.centre / window.unit
  match window.holds below, window.holds (below + 1) with
  | true, true =>
    let twice := 2 * (window.centre % window.unit)
    if twice < window.unit ∨ twice = window.unit ∧ below % 2 = 0 then some below
    else some (below + 1)
  | true, false => some below
  | false, true => some (below + 1)
  | false, false => none

end Window

/-- The largest power of ten that is not above a ratio of at least one, by trial from a given power down. -/
def floorLog : Nat → Nat → Nat → Nat
  | 0, _, _ => 0
  | power + 1, numerator, denominator =>
    if denominator * Nat.pow 10 (power + 1) ≤ numerator then power + 1
    else floorLog power numerator denominator

/-- The least power of ten that lifts a ratio below one to at least one, by trial from a given power up. -/
def liftLog : Nat → Nat → Nat → Nat → Nat
  | 0, power, _, _ => power
  | rounds + 1, power, numerator, denominator =>
    if denominator ≤ numerator * Nat.pow 10 power then power
    else liftLog rounds (power + 1) numerator denominator

/-- The power of ten of the first digit. -/
def leadingPower (window : Window) : Int :=
  if window.unit ≤ window.centre then floorLog 308 window.centre window.unit
  else -liftLog 324 1 window.centre window.unit

/-- The first decimal that rounds to the number when more and more digits are tried. -/
def search (window : Window) (leading : Int) : Nat → Nat → Option Decimal
  | 0, _ => none
  | rounds + 1, count =>
    let power := leading - count
    match (window.inPowerOfTen power).nearest? with
    | some digits => some ⟨digits, power⟩
    | none => search window leading rounds (count + 1)

/-- Takes zeros off the end of the digits, for at most as many rounds as given. -/
def dropZeros : Nat → Decimal → Decimal
  | 0, decimal => decimal
  | rounds + 1, decimal =>
    if decimal.digits ≠ 0 ∧ decimal.digits % 10 = 0 then
      dropZeros rounds ⟨decimal.digits / 10, decimal.power + 1⟩
    else decimal

/-- The most digits a double needs. -/
def maxDigits : Nat :=
  17

/-- The shortest decimal that reads back as the magnitude of a finite double other than zero. -/
def shortest (bits : UInt64) : Decimal :=
  let window := Window.ofBinary (.ofBits bits)
  match search window (leadingPower window) maxDigits 0 with
  | some decimal => dropZeros maxDigits decimal
  | none => ⟨0, 0⟩

end Decimal

end SymbolAssist
