/-!
# Output units

What the engine hands over: for each source unit with fixtures, the factories of those fixtures,
each with its parameters and their default values.  Texts are final; what is left to the receiver
is the layout of a file.
-/

namespace FixtureFactory

/-- One argument of a factory. -/
structure ParameterSpec where
  name : String
  /-- The text of the type. -/
  type : String
  /-- The default value. -/
  default : String
  deriving Inhabited, DecidableEq, Repr

/-- A factory: an argument record with defaults and two functions. -/
structure FunctionSpec where
  name : String
  withName : String
  argsName : String
  /-- One line for the documentation of the generated items. -/
  doc : String
  returnType : String
  parameters : List ParameterSpec
  /-- The record expression that forwards every parameter by name. -/
  body : String
  deriving Inhabited, DecidableEq, Repr

/-- An output unit. -/
structure UnitSpec where
  name : String
  /-- The source unit that declares the fixtures. -/
  sourcePath : String
  modulePath : String
  functions : List FunctionSpec
  deriving Inhabited, DecidableEq, Repr

/-- A record expression that moves each named binding into place. -/
def recordLiteral (path : String) (fields : List String) : String :=
  if fields.isEmpty then path ++ " \x7b\x7d"
  else path ++ " \x7b " ++ ", ".intercalate fields ++ " \x7d"

end FixtureFactory
