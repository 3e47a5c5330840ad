import FixtureFactory.TypeRef
import FixtureFactory.Location

/-!
# Declarations

What a host knows about the sources: the units, the types and functions declared in them, and the
markers that they carry.  A declaration is plain data; the fields of a record and the cases of an
enumeration are asked of the host.
-/

namespace FixtureFactory

/-- The attributes that the engine looks for. -/
inductive Marker where
  /-- On a record: generate a factory for it. -/
  | fixture
  /-- On a function: it supplies values of its return type. -/
  | fixtureAdapter
  deriving Inhabited, DecidableEq, Repr

namespace Marker

/-- The name of the attribute. -/
def attributeName : Marker → String
  | fixture => "fixture"
  | fixtureAdapter => "fixture_adapter"

/-- The attribute as it stands in a source. -/
def text (m : Marker) : String := "#[" ++ m.attributeName ++ "]"

end Marker

/-- A source file. -/
structure SourceUnit where
  id : Nat
  /-- The path below the source root. -/
  path : String
  /-- What the output unit is named after. -/
  baseName : String
  modulePath : String
  deriving Inhabited, DecidableEq, Repr

/-- The kinds of type declaration. -/
inductive DeclarationKind where
  /-- A struct with named fields. -/
  | record
  | tupleStruct
  | unitStruct
  /-- An enumeration all of whose cases carry nothing. -/
  | enumeration
  /-- An enumeration with a case that carries data. -/
  | sealed
  | union
  deriving Inhabited, DecidableEq, Repr

/-- A declared type. -/
structure TypeDeclaration where
  unit : Nat
  qualifiedName : String
  simpleName : String
  /-- The inline modules between the unit's module and the declaration. -/
  enclosing : List String
  kind : DeclarationKind
  markers : List Marker
  location : Location
  deriving Inhabited, DecidableEq, Repr

namespace TypeDeclaration

/-- The declaration as a type. -/
def asType (d : TypeDeclaration) : TypeRef := .named d.qualifiedName

/-- Whether the declaration carries a marker. -/
def hasMarker (d : TypeDeclaration) (m : Marker) : Bool := d.markers.contains m

end TypeDeclaration

/-- A declared function. -/
structure FunctionDeclaration where
  unit : Nat
  /-- The path of the module that holds the function. -/
  scope : String
  name : String
  parameterCount : Nat
  /-- `none` when the function returns nothing. -/
  returnType : Option TypeRef
  markers : List Marker
  location : Location
  /-- Whether the function belongs to a type. -/
  associated : Bool
  deriving Inhabited, Repr

/-- The path of a function. -/
def FunctionDeclaration.qualifiedName (f : FunctionDeclaration) : String :=
  f.scope ++ "::" ++ f.name

/-- A named field of a record. -/
structure Field where
  name : String
  type : TypeRef
  deriving Inhabited, Repr

/-- What a case of an enumeration carries. -/
inductive CaseShape where
  /-- Nothing: the case is a single value. -/
  | unit
  /-- One unnamed field of the given type. -/
  | wrapping (inner : TypeRef)
  /-- Anything else. -/
  | fields
  deriving Inhabited, Repr

/-- A case of an enumeration. -/
structure CaseDeclaration where
  name : String
  shape : CaseShape
  deriving Inhabited, Repr

end FixtureFactory
