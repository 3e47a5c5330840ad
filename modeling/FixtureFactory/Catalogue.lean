import FixtureFactory.Host
import FixtureFactory.Naming

/-!
# Catalogues

A host that is filled by hand, one declaration at a time.  Fields and cases are kept by qualified
name, so a later declaration of the same name replaces those of an earlier one while both stay
listed.  Locations are made up: the declarations of a unit get consecutive lines.
-/

namespace FixtureFactory

/-- A hand-made set of declarations. -/
structure Catalogue where
  units : List SourceUnit
  types : List TypeDeclaration
  functions : List FunctionDeclaration
  /-- The fields of each record, latest first. -/
  fieldLists : List (String × List Field)
  /-- The cases of each enumeration, latest first. -/
  caseLists : List (String × List CaseDeclaration)
  /-- The last line given out in each unit, latest first. -/
  lines : List (Nat × Nat)
  deriving Inhabited, Repr

namespace Catalogue

/-- The catalogue without declarations. -/
def empty : Catalogue := ⟨[], [], [], [], [], []⟩

/-- Adds a source unit; its identifier is its position. -/
def addUnit (c : Catalogue) (path modulePath : String) : Nat × Catalogue :=
  let id := c.units.length
  (id, { c with units := c.units ++ [⟨id, path, unitBaseName path, modulePath⟩] })

/-- Adds a type declaration as it is. -/
def addType (c : Catalogue) (d : TypeDeclaration) : Catalogue :=
  { c with types := c.types ++ [d] }

/-- Adds a function declaration as it is. -/
def addFunction (c : Catalogue) (f : FunctionDeclaration) : Catalogue :=
  { c with functions := c.functions ++ [f] }

/-- The unit of an identifier. -/
def unit? (c : Catalogue) (id : Nat) : Option SourceUnit :=
  c.units.find? fun unit => unit.id == id

/-- The module of a unit; an unknown unit counts as the root. -/
def modulePath (c : Catalogue) (unit : Nat) : String :=
  ((c.unit? unit).map (·.modulePath)).getD "crate"

/-- The next made-up location in a unit. -/
def nextLocation (c : Catalogue) (unit : Nat) : Location × Catalogue :=
  let line := (c.lines.lookup unit).getD 0 + 1
  (⟨((c.unit? unit).map (·.path)).getD "", line, 1⟩, { c with lines := (unit, line) :: c.lines })

/-- A declaration of a name that may lie in inline modules of the unit. -/
def declaration (c : Catalogue) (unit : Nat) (name : String) (kind : DeclarationKind)
    (markers : List Marker) : TypeDeclaration × Catalogue :=
  let segments := pathSegments name
  let (location, next) := c.nextLocation unit
  ({ unit := unit
     qualifiedName := c.modulePath unit ++ "::" ++ name
     simpleName := segments.getLast?.getD ""
     enclosing := segments.dropLast
     kind := kind
     markers := markers
     location := location }, next)

/-- Adds a declaration of any kind, without fields or cases of its own. -/
def addDeclaration (c : Catalogue) (unit : Nat) (name : String) (kind : DeclarationKind)
    (markers : List Marker) : String × Catalogue :=
  let (d, next) := c.declaration unit name kind markers
  (d.qualifiedName, next.addType d)

/-- Adds a record with its fields. -/
def addRecord (c : Catalogue) (unit : Nat) (name : String) (fields : List Field)
    (markers : List Marker) : String × Catalogue :=
  let (d, next) := c.declaration unit name .record markers
  (d.qualifiedName,
    { next.addType d with fieldLists := (d.qualifiedName, fields) :: next.fieldLists })

/-- Adds a record marked as a fixture. -/
def addFixture (c : Catalogue) (unit : Nat) (name : String) (fields : List Field) :
    String × Catalogue :=
  c.addRecord unit name fields [.fixture]

/-- Adds an enumeration of a given kind with its cases. -/
def addCases (c : Catalogue) (unit : Nat) (name : String) (kind : DeclarationKind)
    (cases : List CaseDeclaration) : String × Catalogue :=
  let (d, next) := c.declaration unit name kind []
  (d.qualifiedName,
    { next.addType d with caseLists := (d.qualifiedName, cases) :: next.caseLists })

/-- Adds an enumeration whose cases carry nothing. -/
def addEnum (c : Catalogue) (unit : Nat) (name : String) (entries : List String) :
    String × Catalogue :=
  c.addCases unit name .enumeration (entries.map fun entry => ⟨entry, .unit⟩)

/-- Adds an enumeration whose cases may carry data. -/
def addSealed (c : Catalogue) (unit : Nat) (name : String) (cases : List CaseDeclaration) :
    String × Catalogue :=
  c.addCases unit name .sealed cases

/-- Adds a function marked as an adapter, whatever its signature. -/
def addMarkedFunction (c : Catalogue) (unit : Nat) (name : String) (parameterCount : Nat)
    (returnType : Option TypeRef) : Catalogue :=
  let (location, next) := c.nextLocation unit
  next.addFunction
    { unit := unit
      scope := c.modulePath unit
      name := name
      parameterCount := parameterCount
      returnType := returnType
      markers := [.fixtureAdapter]
      location := location
      associated := false }

/-- Adds a proper adapter. -/
def addAdapter (c : Catalogue) (unit : Nat) (name : String) (returnType : TypeRef) : Catalogue :=
  c.addMarkedFunction unit name 0 (some returnType)

/-- The only element of a list that has one. -/
def single? {α : Type} : List α → Option α
  | [x] => some x
  | _ => none

/-- The declaration of a type: the first one of that qualified name, or else, for a name without
a module, the only one of that simple name. -/
def resolve (c : Catalogue) (t : TypeRef) : Option TypeDeclaration :=
  match c.types.find? fun d => d.qualifiedName == t.path with
  | some d => some d
  | none =>
      if isQualified t.path then none
      else single? (c.types.filter fun d => d.simpleName == t.path)

/-- The catalogue as a host.  Marked declarations come unit by unit. -/
def toHost (c : Catalogue) : Host where
  units := c.units
  markedFunctions m :=
    (c.functions.filter fun f => f.markers.contains m).mergeSort fun f g => f.unit ≤ g.unit
  markedTypes m :=
    (c.types.filter fun d => d.hasMarker m).mergeSort fun d e => d.unit ≤ e.unit
  resolve := c.resolve
  fields d := (c.fieldLists.lookup d.qualifiedName).getD []
  cases d := (c.caseLists.lookup d.qualifiedName).getD []

end Catalogue
end FixtureFactory
