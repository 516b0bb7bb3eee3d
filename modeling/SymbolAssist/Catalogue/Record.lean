import SymbolAssist.Text.Dotted
import SymbolAssist.TypeTag.Parser

/-! Documented symbols: functions, methods, values and types. -/

namespace SymbolAssist

open Text

/-- A parameter of a function, or a field of a type. -/
structure Argument where
  /-- The name it is called by. -/
  name : String
  /-- The declared type. -/
  type : Option TypeTag
  /-- The text of the default value. -/
  default : Option String
  deriving Repr, DecidableEq

/-- What is declared of a symbol that can be called. -/
structure Signature where
  /-- The parameters in order. -/
  arguments : List Argument
  /-- The type of the result. -/
  returnType : Option TypeTag
  /-- How a call is written. -/
  usage : Option String
  deriving Repr, DecidableEq

/-- What is declared of a symbol that holds a value. -/
structure Binding where
  /-- The type of the value. -/
  type : Option TypeTag
  /-- The text of the value. -/
  value : Option String
  deriving Repr, DecidableEq

/-- What a symbol is, with what is declared of it. -/
inductive Declaration where
  | function (signature : Signature)
  | method (signature : Signature)
  | variable (binding : Binding)
  | constant (binding : Binding)
  | type (fields : List Argument)
  | field (binding : Binding)
  | parameter (binding : Binding)
  deriving Repr, DecidableEq

/-- What a symbol is, and no more. -/
inductive SymbolKind where
  | function
  | method
  | variable
  | constant
  | type
  | field
  | parameter
  deriving Repr, DecidableEq

/-- Functions and methods can be called. -/
def SymbolKind.isCallable : SymbolKind → Bool
  | .function | .method => true
  | _ => false

/-- The documentation of one symbol. -/
structure Record where
  /-- The full name, with its namespace. -/
  name : String
  /-- The description. -/
  description : Option String
  /-- The symbol should no longer be used. -/
  deprecated : Bool
  /-- The symbol is marked as a default. -/
  isDefault : Bool
  /-- What the symbol is. -/
  declaration : Declaration
  deriving Repr, DecidableEq

/-- The kind of a declaration. -/
def Declaration.kind : Declaration → SymbolKind
  | .function _ => .function
  | .method _ => .method
  | .variable _ => .variable
  | .constant _ => .constant
  | .type _ => .type
  | .field _ => .field
  | .parameter _ => .parameter

namespace Record

/-- The kind of the symbol. -/
def kind (record : Record) : SymbolKind :=
  record.declaration.kind

/-- The symbol is a method. -/
def isMethod (record : Record) : Bool :=
  record.kind == .method

/-- The signature of a symbol that can be called. -/
def signature? (record : Record) : Option Signature :=
  match record.declaration with
  | .function signature | .method signature => some signature
  | _ => none

/-- The parameters of a symbol that can be called, and none of any other. -/
def arguments (record : Record) : List Argument :=
  match record.signature? with
  | some signature => signature.arguments
  | none => []

/-- The name behind the last dot. -/
def memberName (record : Record) : String :=
  String.ofList (lastSegment record.name.toList)

/-- The name before the last dot, if there is a dot. -/
def space? (record : Record) : Option String :=
  (cutAtLastDot record.name.toList).map fun (space, _) => String.ofList space

/-- The type a use of the symbol has: its own, or that of its result. -/
def declaredType? (record : Record) : Option TypeTag :=
  match record.declaration with
  | .variable binding | .constant binding | .field binding | .parameter binding => binding.type
  | .function signature | .method signature => signature.returnType
  | .type _ => none

/-- The type a method is called on: that of its first parameter, or else the one its namespace spells. -/
def receiverType? (record : Record) (wildcard : Char) : Option TypeTag :=
  match record.declaration with
  | .method signature =>
    match signature.arguments.head?.bind Argument.type with
    | some declared => some declared
    | none =>
      match record.space? with
      -- The namespace of a method for any receiver names no type.
      | some space => if space.toList.head? = some wildcard then none else TypeTag.parse space
      | none => none
  | _ => none

/-- A signature whose first parameter is called by another name. -/
def renameFirst (receiver : String) (signature : Signature) : Signature :=
  { signature with
    arguments := signature.arguments.modifyHead fun argument => { argument with name := receiver } }

/-- The record as seen from a receiver, which takes the place of the first parameter's name. -/
def withReceiver (record : Record) (receiver : String) : Record :=
  match record.declaration with
  | .function signature => { record with declaration := .function (renameFirst receiver signature) }
  | .method signature => { record with declaration := .method (renameFirst receiver signature) }
  | _ => record

end Record

end SymbolAssist
