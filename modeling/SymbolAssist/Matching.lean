import SymbolAssist.Text.Dotted
import SymbolAssist.Text.LowerCase

/-! How far a typed text may stray from a name and still find it. -/

namespace SymbolAssist

open Text

/-- Counts the members that satisfy a test, on top of those found before, and stops above a limit. -/
def countUpTo {α : Type} (limit : Nat) (test : α → Bool) (found : Nat) : List α → Nat
  | [] => found
  | item :: rest =>
    if test item then
      if limit < found + 1 then found + 1 else countUpTo limit test (found + 1) rest
    else countUpTo limit test found rest

/-- The typed characters that the candidate does not have in any case, counted to one above a limit. -/
def typoCount (typed candidate : List Char) (limit : Nat) : Nat :=
  let lowered := lowerWhole candidate
  countUpTo limit (fun char => !lowered.contains char) 0 (lowerEach typed)

/-- How many typos are forgiven. -/
structure TypoBudgets where
  /-- In a name typed without a receiver. -/
  free : Nat
  /-- In a member typed behind a receiver. -/
  member : Nat
  deriving Repr, DecidableEq

namespace TypoBudgets

/-- One typo in a free name and two in a member. -/
def standard : TypoBudgets :=
  ⟨1, 2⟩

/-- A typed fragment finds a name that starts alike and has all but a few of its characters. -/
def matchesFree (budgets : TypoBudgets) (fragment candidate : List Char) : Bool :=
  match fragment, candidate with
  | typed :: _, first :: _ =>
    lowerChar first == lowerChar typed && typoCount fragment candidate budgets.free ≤ budgets.free
  | _, _ => false

/-- A typed member finds a name by its last segment, both being compared behind the receiver. -/
def matchesMember (budgets : TypoBudgets) (receiver member candidate : List Char) : Bool :=
  let last := lastSegment candidate
  if receiver = [] ∨ last = [] then false
  else
    typoCount (receiver ++ '.' :: member) (receiver ++ '.' :: last) budgets.member ≤ budgets.member

end TypoBudgets

end SymbolAssist
