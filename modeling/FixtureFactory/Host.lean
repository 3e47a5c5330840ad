import FixtureFactory.Declaration

/-!
# Declaration hosts

The engine never reads sources.  It asks a host, which is nothing more than the answers to six
questions about a fixed set of declarations.  Hosts list units, marked types and marked functions
in the order of discovery, and the engine keeps that order in all that it produces.

Two more questions are not left to the host.  The unit of an identifier is the first one with it in
the list of units (`Host.unit?`), and a declaration has the markers that it carries itself
(`TypeDeclaration.hasMarker`).  A host could be allowed to answer these in its own way; catalogues
and indexes of sources do not, so nothing is said here about hosts that would.
-/

namespace FixtureFactory

/-- A supplier of declarations. -/
structure Host where
  /-- All units. -/
  units : List SourceUnit
  /-- The functions that carry a marker. -/
  markedFunctions : Marker → List FunctionDeclaration
  /-- The types that carry a marker. -/
  markedTypes : Marker → List TypeDeclaration
  /-- The declaration that a type refers to, if the host has it. -/
  resolve : TypeRef → Option TypeDeclaration
  /-- The named fields of a record. -/
  fields : TypeDeclaration → List Field
  /-- The cases of an enumeration. -/
  cases : TypeDeclaration → List CaseDeclaration

/-- The unit of an identifier, which is the same for all hosts with these units. -/
def Host.unit? (host : Host) (id : Nat) : Option SourceUnit :=
  host.units.find? fun unit => unit.id == id

end FixtureFactory
