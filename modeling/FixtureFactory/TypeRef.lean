import FixtureFactory.Text.Path

/-!
# Type references

A type as a declaration host hands it out: a path, the type arguments, and a flag that says
whether the written type was an option of it.  A slice is a type with the reserved path `[]` and
its element as the only argument.  A shape that has no path at all, such as a tuple, a reference
or an array, carries its text as the path and has no arguments.

The rendered text of a type is also the key under which adapters are kept, so rendering is the
first thing that the registries are built on.
-/

namespace FixtureFactory

/-- A resolved type. -/
structure TypeRef where
  path : String
  args : List TypeRef
  nullable : Bool
  deriving Inhabited, BEq, Repr

namespace TypeRef

/-- The path that stands for a slice. -/
def slicePath : String := "[]"

/-- A type without arguments. -/
def named (path : String) : TypeRef := ⟨path, [], false⟩

/-- A type with arguments. -/
def withArgs (path : String) (args : List TypeRef) : TypeRef := ⟨path, args, false⟩

/-- The slice of an element type. -/
def slice (element : TypeRef) : TypeRef := withArgs slicePath [element]

/-- The option of a type.  Options do not nest: an option of an option is the same type. -/
def optional (t : TypeRef) : TypeRef := ⟨t.path, t.args, true⟩

/-- The type without its option layer. -/
def required (t : TypeRef) : TypeRef := ⟨t.path, t.args, false⟩

/-- The last segment of the path. -/
def simpleName (t : TypeRef) : String := FixtureFactory.simpleName t.path

/-- Whether the type is a slice. -/
def isSlice (t : TypeRef) : Bool := t.path == slicePath

/-- The text of a type without its option layer, from the texts of its arguments.  A slice shows
its first argument only. -/
def plainText (path : String) (args : List String) : String :=
  if path == slicePath then "[" ++ args.headD "_" ++ "]"
  else if args.isEmpty then path
  else path ++ "<" ++ ", ".intercalate args ++ ">"

/-- The text of the option layer around an inner text. -/
def optionText (nullable : Bool) (inner : String) : String :=
  if nullable then "Option<" ++ inner ++ ">" else inner

mutual

/-- The text of a type, its option layer included. -/
def render : TypeRef → String
  | ⟨path, args, nullable⟩ => optionText nullable (plainText path (renderAll args))

/-- The texts of a list of types. -/
def renderAll : List TypeRef → List String
  | [] => []
  | t :: ts => render t :: renderAll ts

end

/-- The text of a type without its option layer. -/
def renderRequired (t : TypeRef) : String := plainText t.path (renderAll t.args)

theorem renderAll_eq_map (ts : List TypeRef) : renderAll ts = ts.map render := by
  induction ts with
  | nil => simp [renderAll]
  | cons t ts ih => simp [renderAll, ih]

theorem render_eq (t : TypeRef) : t.render = optionText t.nullable t.renderRequired := by
  cases t; simp [render, renderRequired]

@[simp] theorem renderRequired_optional (t : TypeRef) :
    t.optional.renderRequired = t.renderRequired := rfl

@[simp] theorem renderRequired_required (t : TypeRef) :
    t.required.renderRequired = t.renderRequired := rfl

end TypeRef
end FixtureFactory
