import SymbolAssist.Text.AsciiCase

/-! Type tags: the types that documentation declares, and their normal text. -/

namespace SymbolAssist

open Text

/-- How a value may change over the run of a script. -/
inductive Qualifier where
  | series
  | simple
  | const
  | input
  deriving Repr, DecidableEq

/-- The word a qualifier is written as. -/
def Qualifier.keyword : Qualifier → String
  | .series => "series"
  | .simple => "simple"
  | .const => "const"
  | .input => "input"

/-- The qualifier written as the given word, in lower case only. -/
def Qualifier.ofWord? (word : List Char) : Option Qualifier :=
  [series, simple, const, input].find? fun qualifier => word == qualifier.keyword.toList

/-- The built-in kinds of container. -/
inductive ContainerClass where
  | array
  | matrix
  | map
  deriving Repr, DecidableEq

/-- The word a container class is written as. -/
def ContainerClass.keyword : ContainerClass → String
  | .array => "array"
  | .matrix => "matrix"
  | .map => "map"

/-- The class a word names, in any case. -/
def ContainerClass.ofName? (name : List Char) : Option ContainerClass :=
  [array, matrix, map].find? fun cls => sameIgnoringCase name cls.keyword.toList

/-- A type: a name, or a container of further types, either with an optional qualifier. -/
inductive TypeTag where
  /-- A type known by its name alone. -/
  | named (qualifier : Option Qualifier) (name : String)
  /-- A container and its parameters, of which there may be none. -/
  | container (qualifier : Option Qualifier) (cls : ContainerClass) (params : List TypeTag)
  deriving Repr

namespace TypeTag

mutual

/-- Structural equality of two tags. -/
def decideEq : (left right : TypeTag) → Decidable (left = right)
  | .named leftQualifier leftName, .named rightQualifier rightName =>
    decidable_of_iff (leftQualifier = rightQualifier ∧ leftName = rightName) (by simp)
  | .container leftQualifier leftClass leftParams, .container rightQualifier rightClass rightParams =>
    match decideEqList leftParams rightParams with
    | .isTrue same =>
      decidable_of_iff (leftQualifier = rightQualifier ∧ leftClass = rightClass) (by simp [same])
    | .isFalse differ => .isFalse (by simp [differ])
  | .named .., .container .. => .isFalse (by simp)
  | .container .., .named .. => .isFalse (by simp)

/-- Structural equality of two parameter lists. -/
def decideEqList : (left right : List TypeTag) → Decidable (left = right)
  | [], [] => .isTrue rfl
  | [], _ :: _ => .isFalse (by simp)
  | _ :: _, [] => .isFalse (by simp)
  | left :: lefts, right :: rights =>
    match decideEq left right, decideEqList lefts rights with
    | .isTrue head, .isTrue tail => .isTrue (by simp [head, tail])
    | .isFalse differ, _ => .isFalse (by simp [differ])
    | _, .isFalse differ => .isFalse (by simp [differ])

end

instance : DecidableEq TypeTag := decideEq

/-- The qualifier in front, if there is one. -/
def qualifier : TypeTag → Option Qualifier
  | .named qualifier _ => qualifier
  | .container qualifier _ _ => qualifier

/-- The same type under a qualifier, which replaces the one it had. -/
def withQualifier (qualifier : Qualifier) : TypeTag → TypeTag
  | .named _ name => .named (some qualifier) name
  | .container _ cls params => .container (some qualifier) cls params

/-- The name of a type that is not a container. -/
def name? : TypeTag → Option String
  | .named _ name => some name
  | .container .. => none

/-- The class of a container. -/
def class? : TypeTag → Option ContainerClass
  | .named .. => none
  | .container _ cls _ => some cls

/-- The parameters of a container, and none of a named type. -/
def params : TypeTag → List TypeTag
  | .named .. => []
  | .container _ _ params => params

/-- A qualifier and the space behind it. -/
def qualifierChars : Option Qualifier → List Char
  | none => []
  | some qualifier => qualifier.keyword.toList ++ [' ']

/-- Parameter texts in angle brackets, which are left out around nothing. -/
def bracketed : List (List Char) → List Char
  | [] => []
  | texts => '<' :: List.intercalate [',', ' '] texts ++ ['>']

mutual

/-- The normal text of a type without its qualifier. -/
def coreChars : TypeTag → List Char
  | .named _ name => name.toList
  | .container _ cls params => cls.keyword.toList ++ bracketed (paramChars params)

/-- The normal text of each parameter in turn. -/
def paramChars : List TypeTag → List (List Char)
  | [] => []
  | param :: rest => (qualifierChars param.qualifier ++ coreChars param) :: paramChars rest

end

/-- The normal text of a type. -/
def chars (tag : TypeTag) : List Char :=
  qualifierChars tag.qualifier ++ tag.coreChars

/-- Parameters are written like types on their own. -/
theorem paramChars_eq_map (params : List TypeTag) : paramChars params = params.map chars := by
  -- Both write the parameters one by one, each with its qualifier in front.
  induction params with
  | nil => simp [paramChars]
  | cons param rest ih => simp [paramChars, chars, ih]

/-- The normal text of a type as a string. -/
def text (tag : TypeTag) : String :=
  String.ofList tag.chars

/-- The words that stand for any element type in documentation. -/
def placeholderNames : List String :=
  ["any", "type"]

/-- A container whose element type is left open: it has no parameters or one that stands for any type. -/
def isPlaceholder : TypeTag → Bool
  | .named .. => false
  | .container _ _ params =>
    params.isEmpty || params.any fun param =>
      match param.name? with
      | some name => placeholderNames.any fun word => sameIgnoringCase name.toList word.toList
      | none => false

/-- The names under which members of the type are filed: its own text, then its container class. -/
def lookupNames (tag : TypeTag) : List String :=
  let own := String.ofList tag.coreChars
  match tag.class? with
  | some cls => if own = cls.keyword then [own] else [own, cls.keyword]
  | none => [own]

end TypeTag

end SymbolAssist
