import FixtureFactory.TypeRef
import FixtureFactory.Location
import FixtureFactory.SortedMap

/-!
# The adapter registry

Adapters are kept by the rendered text of the type that they supply, the latest one of a text in
the place of an earlier one.

## Look-up

A look-up asks for the exact type, then for the type without its option layer, and only then, for
a type written as a bare name, for the one adapter whose target has that simple name.  The last
step must not hand an optional value to a field that is not optional.

## The second index

`bySimpleName` holds, for each simple name, the texts of the targets without arguments, each text
once.  It is written together with the main map, so the two never disagree.
-/

namespace FixtureFactory

/-- A function that supplies the values of its return type. -/
structure Adapter where
  /-- The path of the module that holds the function. -/
  scope : String
  function : String
  /-- The return type. -/
  target : TypeRef
  location : Location
  deriving Inhabited, Repr

namespace Adapter

/-- The path of the function. -/
def path (a : Adapter) : String := a.scope ++ "::" ++ a.function

/-- A call of the function. -/
def call (a : Adapter) : String := a.path ++ "()"

end Adapter

/-- Adapters by rendered target. -/
structure AdapterRegistry where
  byType : SortedMap Adapter
  bySimpleName : SortedMap (List String)
  deriving Inhabited, Repr

namespace AdapterRegistry

/-- The registry without adapters. -/
def empty : AdapterRegistry := ⟨[], []⟩

/-- The texts of the targets without arguments that have a simple name. -/
def keysOf (r : AdapterRegistry) (name : String) : List String :=
  (r.bySimpleName.find? name).getD []

/-- Registers an adapter. -/
def insert (r : AdapterRegistry) (a : Adapter) : AdapterRegistry :=
  let key := a.target.render
  let name := a.target.simpleName
  let keys := r.keysOf name
  { byType := r.byType.insert key a
    bySimpleName :=
      if a.target.args.isEmpty && !keys.contains key
      then r.bySimpleName.insert name (keys ++ [key]) else r.bySimpleName }

/-- Registers an adapter and hands back the one that it replaces. -/
def register (r : AdapterRegistry) (a : Adapter) : Option Adapter × AdapterRegistry :=
  (r.byType.find? a.target.render, r.insert a)

/-- The adapter of the only target without arguments that has the simple name of `t`, unless it
would put an option where none belongs. -/
def findBySimpleName? (r : AdapterRegistry) (t : TypeRef) : Option Adapter :=
  match r.keysOf t.simpleName with
  | [key] => (r.byType.find? key).filter fun a => !a.target.nullable || t.nullable
  | _ => none

/-- The adapter that supplies a type. -/
def find? (r : AdapterRegistry) (t : TypeRef) : Option Adapter :=
  match r.byType.find? t.render with
  | some a => some a
  | none =>
      match r.byType.find? t.renderRequired with
      | some a => some a
      | none =>
          if !t.args.isEmpty || isQualified t.path then none else r.findBySimpleName? t

/-- Whether some adapter supplies a type. -/
def contains (r : AdapterRegistry) (t : TypeRef) : Bool := (r.find? t).isSome

/-- The number of adapters. -/
def size (r : AdapterRegistry) : Nat := r.byType.length

/-- The adapters, in the order of the rendered targets. -/
def toList (r : AdapterRegistry) : List Adapter := r.byType.values

end AdapterRegistry
end FixtureFactory
