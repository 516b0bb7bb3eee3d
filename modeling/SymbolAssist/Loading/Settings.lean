import SymbolAssist.Json.Reader
import SymbolAssist.Settings

/-! Settings read from JSON, given by name or by position. -/

namespace SymbolAssist

/-- What has been read of the settings so far. -/
structure SettingsDraft where
  /-- The typos allowed in a name that is typed on its own. -/
  freeBudget : Option Nat
  /-- The typos allowed in a name that is typed behind a dot. -/
  memberBudget : Option Nat
  /-- What a comment starts with. -/
  commentMark : Option String
  /-- The word that starts an import. -/
  importWord : Option String
  /-- The character in front of the namespace of methods for any receiver. -/
  wildcard : Option Char
  deriving Repr, DecidableEq

namespace SettingsDraft

/-- Nothing has been read. -/
def empty : SettingsDraft :=
  ⟨none, none, none, none, none⟩

/-- The settings, where what was not given takes its standard value. -/
def settings (draft : SettingsDraft) : Settings where
  budgets :=
    { free := draft.freeBudget.getD Settings.standard.budgets.free
      member := draft.memberBudget.getD Settings.standard.budgets.member }
  commentMark := draft.commentMark.getD Settings.standard.commentMark
  importWord := draft.importWord.getD Settings.standard.importWord
  wildcard := draft.wildcard.getD Settings.standard.wildcard

end SettingsDraft

/-- The settings that can be given, one by one. -/
inductive SettingField where
  | freeBudget
  | memberBudget
  | commentMark
  | importWord
  | wildcard
  deriving Repr, DecidableEq

namespace SettingField

/-- The fields in the order in which a list gives them. -/
def all : List SettingField :=
  [freeBudget, memberBudget, commentMark, importWord, wildcard]

/-- The key of a field. -/
def key : SettingField → String
  | freeBudget => "freeSymbolTypoBudget"
  | memberBudget => "methodTypoBudget"
  | commentMark => "commentPrefix"
  | importWord => "importKeyword"
  | wildcard => "wildcardPrefix"

/-- The field of a key. -/
def ofKey? (key : String) : Option SettingField :=
  all.find? fun field => field.key == key

/-- The field has been read. -/
def isGiven (draft : SettingsDraft) : SettingField → Bool
  | freeBudget => draft.freeBudget.isSome
  | memberBudget => draft.memberBudget.isSome
  | commentMark => draft.commentMark.isSome
  | importWord => draft.importWord.isSome
  | wildcard => draft.wildcard.isSome

/-- A budget is an integer that is not negative. -/
def asBudget : Json → Option Nat
  | .number (.integer (.ofNat value)) => some value
  | _ => none

/-- A text is a string. -/
def asText : Json → Option String
  | .string value => some value
  | _ => none

/-- A character is a string of just that character. -/
def asChar : Json → Option Char
  | .string value =>
    match value.toList with
    | [char] => some char
    | _ => none
  | _ => none

/-- Reads the value of a field into the draft. -/
def read (draft : SettingsDraft) : SettingField → Reader SettingsDraft
  | freeBudget => return { draft with freeBudget := some (← Reader.accepted asBudget) }
  | memberBudget => return { draft with memberBudget := some (← Reader.accepted asBudget) }
  | commentMark => return { draft with commentMark := some (← Reader.accepted asText) }
  | importWord => return { draft with importWord := some (← Reader.accepted asText) }
  | wildcard => return { draft with wildcard := some (← Reader.accepted asChar) }

/-- Reads the member of a key: a field only once, and what is no field is passed over. -/
def readMember (draft : SettingsDraft) (key : String) : Reader SettingsDraft := do
  match ofKey? key with
  | some field =>
    if isGiven draft field then throw .mismatch
    Reader.colon
    field.read draft
  | none =>
    Reader.colon
    Reader.skip
    return draft

/-- Reads fields by position until the list ends or all fields have been read. -/
def readInOrder (draft : SettingsDraft) (first : Bool) : List SettingField → Reader SettingsDraft
  | [] => return draft
  | field :: rest => do
    if ← Reader.nextElement first then readInOrder (← field.read draft) false rest
    else return draft

end SettingField

namespace Settings

/-- Reads settings, given as an object or as a list. -/
def reader : Reader Settings := do
  match ← Reader.peek with
  | some '\x7b' => return (← Reader.object true SettingField.readMember .empty).settings
  | some '[' =>
    Reader.advance
    let draft ← SettingField.readInOrder .empty true SettingField.all
    Reader.closeList
    return draft.settings
  | _ => Reader.refuse

/-- Reads a text that holds settings. -/
def parse (text : String) : Except JsonFault Settings :=
  reader.readAll text

end Settings

end SymbolAssist
