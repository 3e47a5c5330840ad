import FixtureFactory.Source.Token

/-!
# Items

What a source declares, as far as the engine asks: the names of types, functions and modules, the
types of fields and results, the imports, and the attributes.  Everything else is read, so that
its form is checked, and dropped.
-/

namespace FixtureFactory
namespace Source

mutual

/-- A written type. -/
inductive TypeTerm where
  /-- A path: the names of its segments, the arguments of the segments before the last, and those
  of the last; `rooted` if it starts with a double colon. -/
  | path (rooted : Bool) (segments : List String) (before args : List Argument)
  | slice (element : TypeTerm)
  | parenthesized (inner : TypeTerm)
  /-- The type of no value. -/
  | unit
  /-- Any other type, by its text. -/
  | other (text : String)
  deriving Inhabited, Repr

/-- An argument in angle brackets. -/
inductive Argument where
  | type (t : TypeTerm)
  /-- A lifetime, a constant, or something about an associated item, by its text. -/
  | other (text : String)
  deriving Inhabited, Repr

end

/-- The type that an argument is. -/
def Argument.type? : Argument → Option TypeTerm
  | type t => some t
  | other _ => none

namespace TypeTerm

/-- Whether a type is a path, which may be a bound as well. -/
def isPath : TypeTerm → Bool
  | path .. => true
  | _ => false

/-- Whether a type is a path of one segment, which may name an associated item as well. -/
def isName : TypeTerm → Bool
  | path false [_] _ _ => true
  | _ => false

end TypeTerm

/-- The right-hand side of an import. -/
inductive UseTree where
  | path (segment : String) (tree : UseTree)
  | name (name : String)
  | rename (name newName : String)
  | glob
  | group (trees : List UseTree)
  deriving Inhabited, Repr

/-- A declared name and its place. -/
structure Name where
  text : String
  position : Position
  deriving Inhabited, DecidableEq, Repr

/-- An attribute, by the segments of its path. -/
structure Attribute where
  path : List String
  deriving Inhabited, DecidableEq, Repr

/-- The fields of a struct or of a case of an enumeration. -/
inductive Fields where
  | named (fields : List (String × TypeTerm))
  | unnamed (types : List TypeTerm)
  | unit
  deriving Inhabited, Repr

/-- A case of an enumeration. -/
structure Variant where
  name : String
  fields : Fields
  deriving Inhabited, Repr

/-- A function, without its body. -/
structure Function where
  attributes : List Attribute
  name : Name
  parameterCount : Nat
  /-- `none` when no result is written. -/
  result : Option TypeTerm
  deriving Inhabited, Repr

/-- A declaration. -/
inductive Item where
  | record (attributes : List Attribute) (name : Name) (fields : Fields)
  | enumeration (attributes : List Attribute) (name : Name) (variants : List Variant)
  | union (attributes : List Attribute) (name : Name)
  | typeAlias (name : String)
  | use (tree : UseTree)
  | function (f : Function)
  /-- The functions of a type. -/
  | implementation (selfType : TypeTerm) (functions : List Function)
  /-- A module; it has no items when it is only announced. -/
  | module (name : String) (items : List Item)
  /-- Anything else. -/
  | other
  deriving Inhabited, Repr

end Source
end FixtureFactory
