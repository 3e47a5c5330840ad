import FixtureFactory.DefaultValue
import FixtureFactory.Host
import FixtureFactory.Registry.Fixtures
import FixtureFactory.UnitSpec

/-!
# Building output units

One output unit is built for each group of the fixture registry.  All units share one stream of
random draws, in the order of the groups, of the fixtures in a group and of the parameters of a
fixture.

Two things must be distinct for the generated sources to compile: the names of the items of a
unit, of which every fixture has three, and the names of the units.  A name is claimed when it is
built, and the second claim is the error, with both owners.
-/

namespace FixtureFactory

/-- What building needs besides the fixtures. -/
structure BuildContext where
  naming : Naming
  adapters : AdapterRegistry
  randomize : Bool
  deriving Inhabited, Repr

/-- Names already taken, with their owners. -/
abbrev Claims := List (String × String)

namespace BuildContext

/-- The argument of a factory for a parameter. -/
def parameterSpec (c : BuildContext) (p : Parameter) : Build ParameterSpec := do
  let default ← DefaultValue.generate c.randomize c.adapters p
  return ⟨p.name, p.type.render, default⟩

/-- The factory of a fixture, from its arguments. -/
def functionOf (f : Fixture) (parameters : List ParameterSpec) : FunctionSpec :=
  { name := Naming.factoryName f.enclosing f.simpleName
    withName := Naming.factoryWithName f.enclosing f.simpleName
    argsName := Naming.argsName f.enclosing f.simpleName
    doc := "Fixture for [`" ++ f.type.render ++ "`]."
    returnType := f.type.render
    parameters := parameters
    body := recordLiteral f.type.render (parameters.map (·.name)) }

/-- The factory of a fixture. -/
def buildFunction (c : BuildContext) (f : Fixture) : Build FunctionSpec := do
  let parameters ← f.parameters.mapM c.parameterSpec
  return functionOf f parameters

end BuildContext

/-- The names of the items of a factory. -/
def FunctionSpec.itemNames (f : FunctionSpec) : List String := [f.name, f.withName, f.argsName]

/-- Claims names for an owner, one after another. -/
def claimItems (unit owner : String) : List String → Claims → Except FixtureError Claims
  | [], taken => .ok taken
  | name :: names, taken =>
      match taken.lookup name with
      | some first => .error (.factoryNameCollision name unit first owner)
      | none => claimItems unit owner names ((name, owner) :: taken)

namespace BuildContext

/-- The factories of a list of fixtures, whose items must not be taken. -/
def buildFunctions (c : BuildContext) (unit : String) :
    List Fixture → Claims → Build (List FunctionSpec)
  | [], _ => return []
  | f :: fs, taken => do
      let function ← c.buildFunction f
      match claimItems unit f.qualifiedName function.itemNames taken with
      | .error e => throw e
      | .ok taken => return function :: (← buildFunctions c unit fs taken)

/-- The output unit of a source unit. -/
def buildUnit (c : BuildContext) (unit : SourceUnit) (group : UnitFixtures) : Build UnitSpec := do
  let name := outputUnitName unit.baseName
  let functions ← c.buildFunctions name group.fixtures []
  return ⟨name, unit.path, c.naming.unitModule unit, functions⟩

/-- The output units of a list of groups, whose names must not be taken. -/
def buildGroups (c : BuildContext) (host : Host) :
    List UnitFixtures → Claims → Build (List UnitSpec)
  | [], _ => return []
  | group :: groups, taken => do
      match host.unit? group.unit with
      | none => throw (.fixtureWithoutUnit group.unit)
      | some unit =>
          let spec ← c.buildUnit unit group
          match taken.lookup spec.name with
          | some first => throw (.unitNameCollision spec.name first unit.path)
          | none => return spec :: (← buildGroups c host groups ((spec.name, unit.path) :: taken))

/-- The output units of a registry. -/
def buildUnits (c : BuildContext) (host : Host) (fixtures : FixtureRegistry) :
    Build (List UnitSpec) :=
  c.buildGroups host fixtures.groups []

end BuildContext
end FixtureFactory
