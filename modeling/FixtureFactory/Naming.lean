import FixtureFactory.Text.Case
import FixtureFactory.Text.Split
import FixtureFactory.Declaration

/-!
# Names of generated items

The classifier refers to factories and the builder defines them; both take the names from here,
so a reference always names the factory that is generated for the declaration.

* The output unit of a source unit is its base name followed by `_fixture`.
* A factory is `create`, the enclosing modules and the simple name, in snake case.
* An argument record is `Create`, the enclosing modules in Pascal case, the simple name as it is
  written, and `Args`.
-/

namespace FixtureFactory
namespace Text

/-- Whether a word starts at an upper-case character, given its neighbours: it does after a
lower-case letter or a digit, and it does at the last letter of an acronym, which is followed by
a lower-case letter. -/
def isWordStart (previous next : Option Char) : Bool :=
  match previous with
  | none => false
  | some p =>
      if isLower p || p.isDigit then true
      else if isUpper p then next.any isLower
      else false

/-- Snake case of the characters that remain, given the character before them and whether the
text written so far ends in an underscore. -/
def snakeFrom (previous : Option Char) (underscored : Bool) : List Char → List Char
  | [] => []
  | c :: rest =>
      if isUpper c then
        let gap := if isWordStart previous rest.head? && !underscored then ['_'] else []
        gap ++ lowerChar c ++ snakeFrom (some c) ((lowerChar c).getLast? == some '_') rest
      else c :: snakeFrom (some c) (c == '_') rest

/-- Snake case: acronyms stay together. -/
def snakeCase (cs : List Char) : List Char := snakeFrom none false cs

/-- The words between underscores, empty ones included. -/
def splitUnderscores (cs : List Char) : List (List Char) := splitWhere (· == '_') cs

/-- A word with its first character in upper case. -/
def capitalize : List Char → List Char
  | [] => []
  | c :: rest => upperChar c ++ rest

/-- Pascal case: the capitalized words between underscores, one after another. -/
def pascalCase (cs : List Char) : List Char :=
  (splitUnderscores cs).flatMap capitalize

/-- The segments of a file path, whose separators are slashes of either kind. -/
def splitSlashes (cs : List Char) : List (List Char) := splitWhere (fun c => c == '/' || c == '\\') cs

/-- A text without a given ending, if it has it. -/
def dropEnding (ending cs : List Char) : List Char :=
  if ending.isSuffixOf cs then cs.take (cs.length - ending.length) else cs

end Text

/-- Snake case of an identifier. -/
def snakeCase (name : String) : String := String.ofList (Text.snakeCase name.toList)

/-- Pascal case of an identifier in snake case. -/
def pascalCase (name : String) : String := String.ofList (Text.pascalCase name.toList)

/-- The base name of a unit: the file name without its extension, or the directory's name for a
file named `mod`. -/
def unitBaseName (path : String) : String :=
  match (Text.splitSlashes path.toList).reverse with
  | [] => path
  | file :: parents =>
      let stem := Text.dropEnding ['.', 'r', 's'] file
      if stem = ['m', 'o', 'd'] then String.ofList (parents.headD stem) else String.ofList stem

/-- The output unit of a base name. -/
def outputUnitName (baseName : String) : String := baseName ++ "_fixture"

/-- A reference to a generated factory. -/
structure FactoryRef where
  modulePath : String
  function : String
  deriving Inhabited, DecidableEq, Repr

namespace FactoryRef

/-- The path of the factory. -/
def path (f : FactoryRef) : String := f.modulePath ++ "::" ++ f.function

/-- A call of the factory. -/
def call (f : FactoryRef) : String := f.path ++ "()"

end FactoryRef

/-- The naming policy: the module under which the output units are mounted. -/
structure Naming where
  root : String
  deriving Inhabited, DecidableEq, Repr

namespace Naming

/-- The mount point unless another one is configured. -/
def defaultRoot : String := "crate::fixtures"

/-- The name of the factory of a declaration. -/
def factoryName (enclosing : List String) (simpleName : String) : String :=
  "_".intercalate ("create" :: (enclosing.map snakeCase ++ [snakeCase simpleName]))

/-- The name of the factory that takes an argument record. -/
def factoryWithName (enclosing : List String) (simpleName : String) : String :=
  factoryName enclosing simpleName ++ "_with"

/-- The name of the argument record. -/
def argsName (enclosing : List String) (simpleName : String) : String :=
  "Create" ++ String.join (enclosing.map pascalCase) ++ simpleName ++ "Args"

/-- The module of the output unit of a source unit. -/
def unitModule (naming : Naming) (unit : SourceUnit) : String :=
  naming.root ++ "::" ++ outputUnitName unit.baseName

/-- The factory of a declaration of a unit. -/
def factoryFor (naming : Naming) (unit : SourceUnit) (d : TypeDeclaration) : FactoryRef :=
  ⟨naming.unitModule unit, factoryName d.enclosing d.simpleName⟩

end Naming
end FixtureFactory
