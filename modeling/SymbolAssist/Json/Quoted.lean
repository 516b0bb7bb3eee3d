import SymbolAssist.Json.Basic
import SymbolAssist.Text.Bytes

/-! Quoted strings: reading one behind its opening quote, and writing one. -/

namespace SymbolAssist.Quoted

open Text

/-- The value of a hexadecimal digit in either case. -/
def hexDigit? (char : Char) : Option Nat :=
  if char.isDigit then some (char.toNat - '0'.toNat)
  else if 'a' ≤ char ∧ char ≤ 'f' then some (char.toNat - 'a'.toNat + 10)
  else if 'A' ≤ char ∧ char ≤ 'F' then some (char.toNat - 'A'.toNat + 10)
  else none

/-- Four hexadecimal digits, for which four bytes must be left. -/
def hexFour (text : List Char) : Except JsonFault (Nat × List Char) :=
  match text with
  | first :: second :: third :: fourth :: rest =>
    match hexDigit? first, hexDigit? second, hexDigit? third, hexDigit? fourth with
    | some first, some second, some third, some fourth =>
      .ok (((first * 16 + second) * 16 + third) * 16 + fourth, rest)
    | _, _, _, _ => .error .malformed
  | _ => if byteLength text < 4 then .error .endOfText else .error .malformed

/-- The code unit is the first half of a pair. -/
def isLeading (unit : Nat) : Bool :=
  0xD800 ≤ unit && unit ≤ 0xDBFF

/-- The code unit is the second half of a pair. -/
def isTrailing (unit : Nat) : Bool :=
  0xDC00 ≤ unit && unit ≤ 0xDFFF

/-- The second half of a pair, which must follow as an escape of its own. -/
def trailingUnit (text : List Char) : Except JsonFault (Nat × List Char) :=
  match text with
  | [] => .error .endOfText
  | ['\\'] => .error .endOfText
  | '\\' :: 'u' :: rest => do
    let (unit, rest) ← hexFour rest
    if isTrailing unit then return (unit, rest) else throw .malformed
  | _ => .error .malformed

/-- The character of a code-unit escape; halves of pairs may stand alone only where that is allowed. -/
def unitEscape (paired : Bool) (text : List Char) : Except JsonFault (Char × List Char) := do
  let (unit, rest) ← hexFour text
  if !paired then return (Char.ofNat unit, rest)
  if isTrailing unit then throw .malformed
  if isLeading unit then
    let (second, rest) ← trailingUnit rest
    return (Char.ofNat (0x10000 + (unit - 0xD800) * 0x400 + (second - 0xDC00)), rest)
  return (Char.ofNat unit, rest)

/-- The escapes of one letter and the characters they stand for. -/
def letterEscapes : List (Char × Char) :=
  [('"', '"'), ('\\', '\\'), ('/', '/'), ('b', '\x08'), ('f', '\x0c'), ('n', '\n'), ('r', '\r'),
    ('t', '\t')]

/-- The character of an escape, read behind its backslash. -/
def escape (paired : Bool) (text : List Char) : Except JsonFault (Char × List Char) :=
  match text with
  | [] => .error .endOfText
  | 'u' :: rest => unitEscape paired rest
  | letter :: rest =>
    match letterEscapes.lookup letter with
    | some char => .ok (char, rest)
    | none => .error .malformed

/-- Four digits are taken off the text. -/
theorem length_of_hexFour {text rest : List Char} {unit : Nat}
    (read : hexFour text = .ok (unit, rest)) : rest.length < text.length := by
  -- Only four digits in a row are read, and what is left starts behind them.
  unfold hexFour at read
  split at read
  · split at read
    · simp only [Except.ok.injEq, Prod.mk.injEq] at read
      simp only [List.length_cons, ← read.2]
      omega
    · cases read
  · split at read <;> cases read

/-- A second half is taken off the text. -/
theorem length_of_trailingUnit {text rest : List Char} {unit : Nat}
    (read : trailingUnit text = .ok (unit, rest)) : rest.length < text.length := by
  -- The second half is written as a backslash, the letter and four digits; anything else fails.
  unfold trailingUnit at read
  split at read
  · cases read
  · cases read
  · next tail =>
    cases digits : hexFour tail with
    | error fault => simp [digits, Bind.bind, Except.bind] at read
    | ok found =>
      have shorter := length_of_hexFour digits
      simp only [digits, Bind.bind, Except.bind] at read
      split at read
      · simp only [Pure.pure, Except.pure, Except.ok.injEq, Prod.mk.injEq] at read
        simp only [List.length_cons, ← read.2]
        omega
      · cases read
  · cases read

/-- A code-unit escape is taken off the text. -/
theorem length_of_unitEscape {paired : Bool} {text rest : List Char} {char : Char}
    (read : unitEscape paired text = .ok (char, rest)) : rest.length < text.length := by
  -- Four digits are read in any case, and four more where the first unit is half of a pair.
  unfold unitEscape at read
  cases digits : hexFour text with
  | error fault => simp [digits, Bind.bind, Except.bind] at read
  | ok found =>
    have shorter := length_of_hexFour digits
    simp only [digits, Bind.bind, Except.bind] at read
    -- A unit that is a character by itself ends the escape.
    split at read
    · simp only [Pure.pure, Except.pure, Except.ok.injEq, Prod.mk.injEq] at read
      simpa only [← read.2] using shorter
    · split at read
      · cases read
      · split at read
        · cases second : trailingUnit found.2 with
          | error fault => simp [second] at read
          | ok pair =>
            have further := length_of_trailingUnit second
            simp only [second, Pure.pure, Except.pure, Except.ok.injEq, Prod.mk.injEq] at read
            rw [← read.2]
            omega
        · simp only [Pure.pure, Except.pure, Except.ok.injEq, Prod.mk.injEq] at read
          simpa only [← read.2] using shorter

/-- An escape is taken off the text. -/
theorem length_of_escape {paired : Bool} {text rest : List Char} {char : Char}
    (read : escape paired text = .ok (char, rest)) : rest.length < text.length := by
  -- The letter behind the backslash tells how much more belongs to the escape.
  unfold escape at read
  split at read
  · cases read
  · have := length_of_unitEscape read
    simp only [List.length_cons]
    omega
  · split at read
    · simp only [Except.ok.injEq, Prod.mk.injEq] at read
      simp [← read.2]
    · cases read

/-- The characters up to the closing quote, and what follows it. -/
def read (paired : Bool) (text : List Char) : Except JsonFault (List Char × List Char) :=
  match text with
  | [] => .error .endOfText
  | char :: rest =>
    if char = '"' then .ok ([], rest)
    else if char = '\\' then
      match escaped : escape paired rest with
      | .error fault => .error fault
      | .ok (meant, after) =>
        have : after.length < rest.length + 1 :=
          Nat.lt_succ_of_lt (length_of_escape escaped)
        do
          let (chars, tail) ← read paired after
          return (meant :: chars, tail)
    -- Control characters must be escaped.
    else if char.toNat < 0x20 then .error .malformed
    else do
      let (chars, tail) ← read paired rest
      return (char :: chars, tail)
termination_by text.length

/-- The digit of a value below sixteen, in lower case. -/
def hexChar (value : Nat) : Char :=
  if value < 10 then Char.ofNat ('0'.toNat + value) else Char.ofNat ('a'.toNat + value - 10)

/-- A character as it is written between quotes. -/
def writeChar (char : Char) : List Char :=
  if char = '"' then ['\\', '"']
  else if char = '\\' then ['\\', '\\']
  else if 0x20 ≤ char.toNat then [char]
  else if char = '\x08' then ['\\', 'b']
  else if char = '\t' then ['\\', 't']
  else if char = '\n' then ['\\', 'n']
  else if char = '\x0c' then ['\\', 'f']
  else if char = '\r' then ['\\', 'r']
  else ['\\', 'u', '0', '0', hexChar (char.toNat / 16), hexChar (char.toNat % 16)]

/-- A text between quotes. -/
def write (text : List Char) : List Char :=
  '"' :: text.flatMap writeChar ++ ['"']

end SymbolAssist.Quoted
