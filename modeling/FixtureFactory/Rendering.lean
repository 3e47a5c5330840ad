import FixtureFactory.UnitSpec

/-!
# Source text of output units

An output unit becomes one module file: a header, and for each factory an argument record, its
defaults, the factory without arguments and the one that takes the record.  The text of a factory
depends on nothing but its specification, and a file is the header followed by the factories, a
blank line before each.
-/

namespace FixtureFactory

/-- One step of indentation. -/
def indentation : String := "    "

/-- The header of a generated unit. -/
def unitHeader (sourcePath : String) : String :=
  "//! Generated by fixturegen from `" ++ sourcePath ++
    "`. Do not edit.\n\n#![allow(clippy::all)]\n"

namespace FunctionSpec

/-- The names of the parameters, in their order. -/
def parameterNames (f : FunctionSpec) : List String := f.parameters.map (·.name)

/-- The declaration of a field of the argument record. -/
def fieldLine (p : ParameterSpec) : String :=
  indentation ++ "pub " ++ p.name ++ ": " ++ p.type ++ ",\n"

/-- The declaration of the argument record. -/
def argsRecord (f : FunctionSpec) : String :=
  "/// Arguments for [`" ++ f.withName ++ "`].\npub struct " ++ f.argsName ++
    if f.parameters.isEmpty then " \x7b\x7d\n"
    else " \x7b\n" ++ String.join (f.parameters.map fieldLine) ++ "\x7d\n"

/-- The default of a field of the argument record. -/
def defaultLine (p : ParameterSpec) : String :=
  indentation ++ indentation ++ indentation ++ p.name ++ ": " ++ p.default ++ ",\n"

/-- The value of the argument record with all its defaults. -/
def defaultBody (f : FunctionSpec) : String :=
  if f.parameters.isEmpty then indentation ++ indentation ++ "Self \x7b\x7d\n"
  else indentation ++ indentation ++ "Self \x7b\n" ++
    String.join (f.parameters.map defaultLine) ++ indentation ++ indentation ++ "\x7d\n"

/-- The defaults of the argument record. -/
def defaults (f : FunctionSpec) : String :=
  "impl Default for " ++ f.argsName ++ " \x7b\n" ++ indentation ++
    "fn default() -> Self \x7b\n" ++ f.defaultBody ++ indentation ++ "\x7d\n\x7d\n"

/-- The factory without arguments. -/
def plainFactory (f : FunctionSpec) : String :=
  "/// " ++ f.doc ++ "\npub fn " ++ f.name ++ "() -> " ++ f.returnType ++ " \x7b\n" ++
    indentation ++ f.withName ++ "(" ++ f.argsName ++ "::default())\n\x7d\n"

/-- The factory that takes the argument record. -/
def withFactory (f : FunctionSpec) : String :=
  "/// " ++ f.doc ++ "\npub fn " ++ f.withName ++ "(args: " ++ f.argsName ++ ") -> " ++
    f.returnType ++ " \x7b\n" ++ indentation ++ "let " ++
    recordLiteral f.argsName f.parameterNames ++ " = args;\n" ++
    indentation ++ f.body ++ "\n\x7d\n"

/-- The text of a factory. -/
def render (f : FunctionSpec) : String :=
  f.argsRecord ++ "\n" ++ f.defaults ++ "\n" ++ f.plainFactory ++ "\n" ++ f.withFactory

end FunctionSpec

/-- The text of an output unit. -/
def UnitSpec.render (u : UnitSpec) : String :=
  unitHeader u.sourcePath ++ String.join (u.functions.map fun f => "\n" ++ f.render)

/-- The text of the module that mounts all output units. -/
def renderModFile (names : List String) : String :=
  "//! Generated by fixturegen. Do not edit.\n\n" ++
    String.join (names.map fun name => "pub mod " ++ name ++ ";\n")

/-- A rendered output unit. -/
structure RenderedUnit where
  name : String
  fileName : String
  source : String
  factories : List String
  sourcePath : String
  deriving Inhabited, DecidableEq, Repr

/-- An output unit, rendered. -/
def RenderedUnit.ofSpec (u : UnitSpec) : RenderedUnit :=
  { name := u.name
    fileName := u.name ++ ".rs"
    source := u.render
    factories := u.functions.map (·.name)
    sourcePath := u.sourcePath }

end FixtureFactory
