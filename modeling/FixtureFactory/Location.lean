/-!
# Locations

Where a declaration stands in its source unit: the unit's path, and the line and column counted
from one.
-/

namespace FixtureFactory

/-- A place in a source unit. -/
structure Location where
  file : String
  line : Nat
  column : Nat
  deriving Inhabited, DecidableEq, Repr

namespace Location

/-- The place of what has no source. -/
def none : Location := ⟨"", 0, 0⟩

/-- The text `file:line:column`. -/
def text (l : Location) : String := s!"{l.file}:{l.line}:{l.column}"

end Location
end FixtureFactory
