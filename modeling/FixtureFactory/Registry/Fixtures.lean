import FixtureFactory.Declaration
import FixtureFactory.Parameter

/-!
# The fixture registry

Fixtures are grouped by the unit that declares them.  A unit gets its group when its first fixture
is registered, so the groups stand in the order of discovery and so do the fixtures within each;
`order` remembers the order across groups as well.
-/

namespace FixtureFactory

/-- A marked record with its classified fields. -/
structure Fixture where
  qualifiedName : String
  simpleName : String
  enclosing : List String
  unit : Nat
  /-- The record as a type, for generated signatures. -/
  type : TypeRef
  parameters : List Parameter
  location : Location
  deriving Inhabited, Repr

/-- The fixtures of one unit. -/
structure UnitFixtures where
  unit : Nat
  fixtures : List Fixture
  deriving Inhabited, Repr

/-- Fixtures grouped by unit. -/
structure FixtureRegistry where
  groups : List UnitFixtures
  /-- The position of the group of each unit. -/
  positions : List (Nat × Nat)
  /-- The qualified names, in the order of registration. -/
  order : List String
  deriving Inhabited, Repr

namespace FixtureRegistry

/-- The registry without fixtures. -/
def empty : FixtureRegistry := ⟨[], [], []⟩

/-- Adds a fixture to the group at a position. -/
def addAt (groups : List UnitFixtures) (position : Nat) (f : Fixture) : List UnitFixtures :=
  groups.modify position fun g => { g with fixtures := g.fixtures ++ [f] }

/-- Registers a fixture. -/
def register (r : FixtureRegistry) (f : Fixture) : FixtureRegistry :=
  match r.positions.lookup f.unit with
  | some position =>
      { r with groups := addAt r.groups position f, order := r.order ++ [f.qualifiedName] }
  | none =>
      { groups := r.groups ++ [⟨f.unit, [f]⟩]
        positions := r.positions ++ [(f.unit, r.groups.length)]
        order := r.order ++ [f.qualifiedName] }

/-- The number of fixtures. -/
def size (r : FixtureRegistry) : Nat := r.order.length

/-- The fixtures, group by group. -/
def toList (r : FixtureRegistry) : List Fixture := r.groups.flatMap (·.fixtures)

end FixtureRegistry
end FixtureFactory
