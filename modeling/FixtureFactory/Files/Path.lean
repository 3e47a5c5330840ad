import FixtureFactory.Text.Split

/-!
# Paths of files

A path is kept as it was written, because it comes back in messages and responses.  Two readings
of it matter.  Its *components* are what comparisons go by: repeated slashes, a slash at the end
and a dot in the middle do not count, while a dot at the start does.  Its *steps* are what a
look-up takes: there every dot is a step that stays where it is, and so is the empty step after a
slash at the end, since both ask for a directory.
-/

namespace FixtureFactory
namespace Files

/-- A component of a path. -/
inductive Component where
  /-- The slash at the start. -/
  | root
  /-- A dot at the start. -/
  | here
  | up
  | name (text : String)
  deriving Inhabited, DecidableEq, Repr

/-- The pieces of a path between its slashes. -/
def pieces (path : String) : List String :=
  (Text.splitWhere (· == '/') path.toList).map String.ofList

/-- Whether a path starts at the root of the file system. -/
def isAbsolute (path : String) : Bool := path.toList.head? == some '/'

/-- A piece as a component, if it counts in the middle of a path. -/
def componentOf? (piece : String) : Option Component :=
  if piece == "" || piece == "." then none
  else if piece == ".." then some .up
  else some (.name piece)

/-- The components of a path. -/
def components (path : String) : List Component :=
  let inner := (pieces path).filterMap componentOf?
  if isAbsolute path then .root :: inner
  else if (pieces path).head? == some "." then .here :: inner
  else inner

/-- Whether a path is at or below another, component by component. -/
def isBelow (base path : List Component) : Bool := base.isPrefixOf path

/-- A path with a name after it. -/
def join (base name : String) : String :=
  if base.isEmpty then name
  else if base.toList.getLast? == some '/' then base ++ name
  else base ++ "/" ++ name

/-- A path with several names after it. -/
def joinAll (base : String) (names : List String) : String := names.foldl join base

/-- Drops what follows the last component but one, from the reversed characters of a path; the
first argument holds the characters of the piece that is being read, in their order. -/
def dropLastComponent : List Char → List Char → List Char
  | _, [] => []
  | piece, '/' :: rest =>
      if (componentOf? (String.ofList piece)).isSome then '/' :: rest
      else dropLastComponent [] rest
  | piece, c :: rest => dropLastComponent (c :: piece) rest

/-- Drops from the reversed characters of a path what does not count at its end: slashes, and
dots in the middle.  The piece that a slash or the start of the path ends is looked at as a
whole. -/
def trimEnd : List Char → List Char
  | '/' :: rest => if rest.isEmpty then ['/'] else trimEnd rest
  | '.' :: '/' :: rest => trimEnd ('/' :: rest)
  | cs => cs

/-- The path without its last component; the empty path where there is none. -/
def parent (path : String) : String :=
  String.ofList (trimEnd (dropLastComponent [] path.toList.reverse)).reverse

/-- The last component of a path if it is a name, else the whole path. -/
def lastName (path : String) : String :=
  match (components path).getLast? with
  | some (.name text) => text
  | _ => path

/-- What follows the last dot of a file name, if something stands before it. -/
def extension? (name : String) : Option String :=
  match (Text.splitWhere (· == '.') name.toList).reverse with
  | _ :: [] => none
  | _ :: [[]] => none
  | last :: _ => some (String.ofList last)
  | [] => none

end Files
end FixtureFactory
