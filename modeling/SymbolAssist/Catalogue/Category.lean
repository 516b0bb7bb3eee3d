/-! The categories a catalogue files its records under. -/

namespace SymbolAssist

/-- A part of a catalogue. -/
inductive Category where
  | functions
  | methods
  | variables
  | constants
  | types
  | fields
  deriving Repr, DecidableEq

namespace Category

/-- Every category, in the order in which a plain name is looked up. -/
def all : List Category :=
  [.functions, .methods, .variables, .constants, .types, .fields]

/-- The categories whose symbols can be typed without a receiver. -/
def freeSymbols : List Category :=
  [.functions, .variables, .constants, .types, .fields]

/-- The categories of symbols that can be called. -/
def callables : List Category :=
  [.functions, .methods]

/-- The categories of symbols that a receiver can be, in order. -/
def values : List Category :=
  [.variables, .fields]

/-- The name a category goes by. -/
def name : Category → String
  | .functions => "functions"
  | .methods => "methods"
  | .variables => "variables"
  | .constants => "constants"
  | .types => "types"
  | .fields => "fields"

/-- The category of a name. -/
def ofName? (name : String) : Option Category :=
  all.find? fun category => category.name == name

end Category

end SymbolAssist
