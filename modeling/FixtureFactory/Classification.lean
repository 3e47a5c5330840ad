import FixtureFactory.Host
import FixtureFactory.FixtureError
import FixtureFactory.Registry.Adapters
import FixtureFactory.Registry.Fixtures

/-!
# Classification

Each field of a fixture is classified by the first of seven rules that applies to its type:

1. a registered adapter supplies it;
2. it is a primitive;
3. it is a well-known library type;
4. its declaration is marked as a fixture;
5. its declaration is an enumeration whose cases carry nothing;
6. its declaration is an enumeration with data, and then every case is classified too;
7. it is a supported collection.

A type found through its declaration is written with the declaration's qualified name from then
on, because generated units refer to declarations by that name only.  A field to which no rule
applies is an error, worded differently for what looks like a container.
-/

namespace FixtureFactory

/-- The factory of a declaration, which must belong to a unit of the host. -/
def factoryOf (host : Host) (naming : Naming) (d : TypeDeclaration) :
    Except FixtureError FactoryRef :=
  match host.unit? d.unit with
  | some unit => .ok (naming.factoryFor unit d)
  | none => .error (.declarationWithoutUnit d.qualifiedName d.unit)

/-- The fixture that a wrapped type refers to. -/
def wrappedFixture? (host : Host) (inner : TypeRef) : Option TypeDeclaration :=
  (host.resolve inner).filter fun d => d.hasMarker .fixture

/-- A case of a sealed type: a singleton, a wrapped fixture with its factory, or neither. -/
def sealedEntry (host : Host) (naming : Naming) (c : CaseDeclaration) :
    Except FixtureError SealedEntry :=
  match c.shape with
  | .unit => .ok ⟨c.name, true, false, none⟩
  | .fields => .ok ⟨c.name, false, false, none⟩
  | .wrapping inner =>
      match wrappedFixture? host inner with
      | none => .ok ⟨c.name, false, false, none⟩
      | some d => (factoryOf host naming d).map fun factory => ⟨c.name, false, true, some factory⟩

/-- Rules 4 to 6: what a declaration makes of the fields of its type. -/
def declaredKind? (host : Host) (naming : Naming) (d : TypeDeclaration) :
    Except FixtureError (Option ParameterKind) :=
  if d.hasMarker .fixture then
    (factoryOf host naming d).map fun factory => some (.fixture factory)
  else match d.kind with
    | .enumeration => .ok (some (.enumeration ((host.cases d).map (·.name))))
    | .sealed =>
        ((host.cases d).mapM (sealedEntry host naming)).map fun entries => some (.sealed entries)
    | _ => .ok none

/-- Rule 7, and the error if it does not apply either. -/
def classifyCollection (owner : String) (field : Field) : Except FixtureError Parameter :=
  match Collection.of? field.type with
  | some kind => .ok ⟨field.name, field.type, .collection kind field.type.args⟩
  | none => .error (.unsupportedType field.type.renderRequired field.name owner)

/-- Rules 4 to 7. -/
def classifyDeclared (host : Host) (naming : Naming) (owner : String) (field : Field) :
    Except FixtureError Parameter :=
  match host.resolve field.type with
  | none => classifyCollection owner field
  | some d =>
      match declaredKind? host naming d with
      | .error e => .error e
      | .ok none => classifyCollection owner field
      | .ok (some kind) =>
          .ok ⟨field.name, ⟨d.qualifiedName, field.type.args, field.type.nullable⟩, kind⟩

/-- Classifies a field of the fixture `owner`. -/
def classify (host : Host) (adapters : AdapterRegistry) (naming : Naming) (owner : String)
    (field : Field) : Except FixtureError Parameter :=
  if adapters.contains field.type then .ok ⟨field.name, field.type, .adapterSupplied⟩
  else match Primitive.of? field.type with
    | some kind => .ok ⟨field.name, field.type, .primitive kind⟩
    | none =>
        match KnownType.of? field.type with
        | some kind => .ok ⟨field.name, field.type, .knownType kind⟩
        | none => classifyDeclared host naming owner field

/-- The error of a field, reworded if its type looks like a container. -/
def reportContainer (t : TypeRef) : FixtureError → FixtureError
  | .unsupportedType type field fixture =>
      if t.isContainerLike then .unsupportedCollection type field fixture
      else .unsupportedType type field fixture
  | e => e

/-- Classifies a field and words its error. -/
def mapField (host : Host) (adapters : AdapterRegistry) (naming : Naming) (owner : String)
    (field : Field) : Except FixtureError Parameter :=
  (classify host adapters naming owner field).mapError (reportContainer field.type)

/-- Classifies the fields of a declaration, in their order; the first error wins. -/
def mapFields (host : Host) (adapters : AdapterRegistry) (naming : Naming)
    (d : TypeDeclaration) : Except FixtureError (List Parameter) :=
  (host.fields d).mapM (mapField host adapters naming d.qualifiedName)

end FixtureFactory
