import FixtureFactory.SortedMap
import FixtureFactory.Source.Item
import FixtureFactory.TypeRef

/-!
# Scopes

What the names in a module refer to.  Every module, whether it is a file of its own or stands
inside one, has a scope: the types and modules that it declares, the names that it imports, and
the modules that it imports as a whole.  The table of all scopes turns a path that is written in a
module into an absolute one, and a written type into a type reference.

The first segment of a path is looked for in this order: the words `crate`, `self` and `super`;
imported names; declared names; the names that every module knows; modules that are imported as a
whole; and at last a type whose name is declared only once anywhere.  A name that is found nowhere
stays as it was written.

## Re-exports

An import may lead to a module that imports the name in turn.  Such chains are followed up to a
limit, which is the one reason why the two functions below carry a budget: a chain that turns back
on itself would otherwise have no end.  A path that is absolute already is followed segment by
segment, and the first segment that its module imports, and does not declare, sends the rest of
the path elsewhere.
-/

namespace FixtureFactory

/-- The names visible in one module. -/
structure ModuleScope where
  /-- Imported names, with the paths as they are written. -/
  imports : SortedMap (List String)
  /-- Modules imported as a whole, as they are written, in order. -/
  globs : List (List String)
  /-- Declared types and modules. -/
  items : List String
  deriving Inhabited, Repr

namespace ModuleScope

/-- The scope of a module without items. -/
def empty : ModuleScope := ⟨[], [], []⟩

/-- Whether the module declares a name. -/
def declares (s : ModuleScope) (name : String) : Bool := s.items.contains name

/-- The path that a name is imported from, as it is written. -/
def import? (s : ModuleScope) (name : String) : Option (List String) := s.imports.find? name

/-- Declares a name. -/
def declare (s : ModuleScope) (name : String) : ModuleScope :=
  { s with items := s.items ++ [name] }

/-- Imports a path under a name, in place of an earlier import of that name. -/
def bind (s : ModuleScope) (name : String) (path : List String) : ModuleScope :=
  { s with imports := s.imports.insert name path }

/-- Imports a module as a whole. -/
def glob (s : ModuleScope) (path : List String) : ModuleScope :=
  { s with globs := s.globs ++ [path] }

mutual

/-- Adds what the tree of an import binds, below a path.  The name `self` binds the path itself,
by its last segment; the name `_` binds nothing. -/
def addTree (path : List String) : Source.UseTree → ModuleScope → ModuleScope
  | .path segment tree, s => addTree (path ++ [segment]) tree s
  | .name name, s =>
      if name == "self" then
        match path.getLast? with
        | some last => s.bind last path
        | none => s
      else s.bind name (path ++ [name])
  | .rename name newName, s =>
      if newName == "_" then s
      else s.bind newName (if name == "self" then path else path ++ [name])
  | .glob, s => s.glob path
  | .group trees, s => addTrees path trees s

/-- Adds what a list of trees binds, in order. -/
def addTrees (path : List String) : List Source.UseTree → ModuleScope → ModuleScope
  | [], s => s
  | tree :: trees, s => addTrees path trees (addTree path tree s)

end

end ModuleScope

/-- The scopes of all modules, by the text of the module's path. -/
structure ScopeTable where
  scopes : SortedMap ModuleScope
  /-- All declared types: their names and their paths. -/
  types : List (String × String)
  deriving Inhabited, Repr

namespace ScopeTable

/-- The table without modules. -/
def empty : ScopeTable := ⟨[], []⟩

/-- The scope of a module, if the module is known. -/
def scope? (t : ScopeTable) (module : String) : Option ModuleScope := t.scopes.find? module

/-- Changes the scope of a module, which is made if it is not there. -/
def change (t : ScopeTable) (module : String) (f : ModuleScope → ModuleScope) : ScopeTable :=
  { t with scopes := t.scopes.insert module (f ((t.scope? module).getD .empty)) }

/-- The path of something that a module declares. -/
def memberPath (module name : String) : String := module ++ "::" ++ name

/-- Declares a type in a module. -/
def declareType (t : ScopeTable) (module name : String) : ScopeTable :=
  let t := t.change module (·.declare name)
  { t with types := t.types ++ [(name, memberPath module name)] }

/-- Declares a module in its parent. -/
def declareModule (t : ScopeTable) (parent name : String) : ScopeTable :=
  (t.change parent (·.declare name)).change (memberPath parent name) id

/-- Adds an import to a module. -/
def addUse (t : ScopeTable) (module : String) (tree : Source.UseTree) : ScopeTable :=
  t.change module (ModuleScope.addTree [] tree)

/-- The path of the only type of a name. -/
def uniqueType? (t : ScopeTable) (name : String) : Option String :=
  match t.types.filter (·.1 == name) with
  | [(_, path)] => some path
  | _ => none

/-! ## Paths -/

/-- Chains of re-exports longer than this are left as they are. -/
def maxReexports : Nat := 16

/-- The names that every module knows. -/
def universalNames : List String :=
  ["bool", "char", "str", "i8", "i16", "i32", "i64", "i128", "isize", "u8", "u16", "u32", "u64",
   "u128", "usize", "f32", "f64", "String", "Vec", "Option", "Box", "Result"]

/-- The import of a segment in a module that does not declare it. -/
def reexport? (t : ScopeTable) (module segment : String) : Option (List String) :=
  match t.scope? module with
  | some s => if s.declares segment then none else s.import? segment
  | none => none

/-- Follows the segments after a module.  Where one of them is a re-export, `follow` says where
the import leads from that module. -/
def walkFrom (t : ScopeTable) (follow : Option (String → List String → List String))
    (module : List String) : List String → List String
  | [] => module
  | segment :: rest =>
      match follow, t.reexport? (joinPath module) segment with
      | some f, some target => f (joinPath module) target ++ rest
      | _, _ => walkFrom t follow (module ++ [segment]) rest

/-- Follows an absolute path, whose first segment is taken as it is. -/
def walk (t : ScopeTable) (follow : Option (String → List String → List String)) :
    List String → List String
  | [] => []
  | root :: rest => walkFrom t follow [root] rest

/-- Removes one segment from the end for every leading `super` of a path, and adds what is left
of the path. -/
def climb (module : List String) : List String → List String
  | "super" :: rest => climb module.dropLast rest
  | path => module ++ path

/-- The path of the first module imported as a whole that has a name. -/
def globWith? (t : ScopeTable) (resolve : List String → List String) (name : String) :
    List (List String) → Option (List String)
  | [] => none
  | glob :: globs =>
      let base := resolve glob
      match t.scope? (joinPath base) with
      | some s =>
          if s.declares name || (s.import? name).isSome then some base
          else globWith? t resolve name globs
      | none => globWith? t resolve name globs

/-- The path that a relative path refers to in a module.  `deeper` resolves a path with one
re-export less to go, `here` and `below` follow an absolute path with as many re-exports to go and
with one less. -/
def relative (t : ScopeTable) (deeper : String → List String → List String)
    (here below : List String → List String) (module : String) (first : String)
    (rest : List String) : List String :=
  match t.scope? module with
  | none => first :: rest
  | some s =>
      match s.import? first with
      | some target =>
          let path := deeper module target ++ rest
          if path.head? == some "crate" && !rest.isEmpty then below path else path
      | none =>
          if s.declares first then here (pathSegments module ++ first :: rest)
          else if rest.isEmpty && universalNames.contains first then [first]
          else
            match t.globWith? (deeper module) first s.globs with
            | some base => below (base ++ first :: rest)
            | none =>
                match if rest.isEmpty then t.uniqueType? first else none with
                | some path => pathSegments path
                | none => first :: rest

/-- The absolute path that a path written in a module refers to.  The first argument is the number
of re-exports that may still be followed, with one to spare for the path itself. -/
def absolute (t : ScopeTable) : Nat → String → List String → List String
  | _, _, [] => []
  | 0, _, path => path
  | budget + 1, module, first :: rest =>
      let deeper := absolute t budget
      let here := t.walk (if budget = 0 then none else some deeper)
      let below := t.walk (match budget with | 0 | 1 => none | n + 1 => some (absolute t n))
      if first == "crate" then here (first :: rest)
      else if first == "self" then here (pathSegments module ++ rest)
      else if first == "super" then here (climb (pathSegments module) (first :: rest))
      else t.relative deeper here below module first rest

/-- The absolute form of a path written in a module. -/
def resolvePath (t : ScopeTable) (module : String) (path : List String) : String :=
  joinPath (t.absolute (maxReexports + 1) module path)

/-! ## Types -/

/-- The paths of the option type. -/
def optionPaths : List String := ["Option", "std::option::Option", "core::option::Option"]

/-- The type of a resolved path with arguments.  An option of one type is that type, with the
option layer as a flag. -/
def typeOfPath (path : String) (args : List TypeRef) : TypeRef :=
  match args with
  | [inner] => if optionPaths.contains path then inner.optional else .withArgs path [inner]
  | _ => .withArgs path args

/-- The text of the type without values. -/
def unitText : String := "()"

mutual

/-- The type that is written in a module. -/
def resolveType (t : ScopeTable) (module : String) : Source.TypeTerm → TypeRef
  | .path rooted segments _ args =>
      typeOfPath (if rooted then joinPath segments else t.resolvePath module segments)
        (resolveArguments t module args)
  | .slice element => .slice (resolveType t module element)
  | .parenthesized inner => resolveType t module inner
  | .unit => .named unitText
  | .other text => .named text

/-- The types among the arguments that are written in a module.  What is no type is left out. -/
def resolveArguments (t : ScopeTable) (module : String) : List Source.Argument → List TypeRef
  | [] => []
  | .type term :: args => resolveType t module term :: resolveArguments t module args
  | .other _ :: args => resolveArguments t module args

end

end ScopeTable
end FixtureFactory
