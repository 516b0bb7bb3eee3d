import SymbolAssist.Loading.Bundle
import SymbolAssist.Loading.Settings

/-! Catalogues and settings from texts and files, and the failures of loading them. -/

namespace SymbolAssist

/-- Why something could not be loaded. -/
inductive LoadError where
  /-- There is no such file. -/
  | missingFile
  /-- The file holds bytes that are no text. -/
  | notText
  /-- The text is not the JSON that is wanted. -/
  | json (fault : JsonFault)
  /-- A bundle has a member that is no category. -/
  | unknownCategory (name : String)
  deriving Repr, DecidableEq

/--
The wording of each failure, for a file at the given path.

Of a text that is not read, only the opening is fixed; what the reader says about the fault would follow.
-/
def LoadError.message (path : String) : LoadError → String
  | .missingFile => "failed to read " ++ path ++ ": No such file or directory (os error 2)"
  | .notText => "failed to read " ++ path ++ ": stream did not contain valid UTF-8"
  | .json _ => "invalid JSON: "
  | .unknownCategory name => "unknown category `" ++ name ++ "`"

/-- The text of a file, given the bytes it holds if it exists. -/
def fileText (content : Option ByteArray) : Except LoadError String :=
  match content with
  | none => .error .missingFile
  | some bytes =>
    match String.fromUTF8? bytes with
    | some text => .ok text
    | none => .error .notText

/-- A catalogue from the text of a bundle; a member that is no category is reported last of all. -/
def Catalogue.parse (text : String) : Except LoadError Catalogue :=
  match Bundle.reader.readAll text with
  | .error fault => .error (.json fault)
  | .ok bundle =>
    match Bundle.leastName? bundle.unknownNames with
    | some name => .error (.unknownCategory name)
    | none => .ok bundle.catalogue

/-- Settings from a text. -/
def Settings.load (text : String) : Except LoadError Settings :=
  (Settings.parse text).mapError .json

/-- A catalogue from a file. -/
def Catalogue.ofFile (content : Option ByteArray) : Except LoadError Catalogue := do
  Catalogue.parse (← fileText content)

/-- Settings from a file. -/
def Settings.ofFile (content : Option ByteArray) : Except LoadError Settings := do
  Settings.load (← fileText content)

end SymbolAssist
