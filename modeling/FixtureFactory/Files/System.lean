import FixtureFactory.Files.Path
import FixtureFactory.Files.Tree

/-!
# The file system

A tree of files and a working directory, with the operations that a run needs: looking up a path,
reading a text, making directories and putting a file in place.  Every operation fails for one of
five reasons, all of which can be seen in the tree.  Other reasons are left out: permissions, links,
full disks, names that are too long for a file system, and what other programs do meanwhile.
-/

namespace FixtureFactory
namespace Files

/-- Why an operation on files fails. -/
inductive Fault where
  | notFound
  | exists
  | notDirectory
  | isDirectory
  | notText
  deriving Inhabited, DecidableEq, Repr

/-- The wording of a fault. -/
def Fault.text : Fault → String
  | .notFound => "No such file or directory (os error 2)"
  | .exists => "File exists (os error 17)"
  | .notDirectory => "Not a directory (os error 20)"
  | .isDirectory => "Is a directory (os error 21)"
  | .notText => "stream did not contain valid UTF-8"

/-- A tree of files and a working directory, as a path of names from the root of the tree. -/
structure FileSystem where
  root : FileTree
  working : List String
  deriving Inhabited, Repr

namespace FileSystem

/-- One step of a look-up from a directory.  Only a directory can be stepped from. -/
def step (fs : FileSystem) (position : List String) (piece : String) :
    Except Fault (List String) :=
  match FileTree.at? position fs.root with
  | none => .error .notFound
  | some (.file _) => .error .notDirectory
  | some (.directory entries) =>
      if piece == "" || piece == "." then .ok position
      else if piece == ".." then .ok position.dropLast
      else if (entries.lookup piece).isSome then .ok (position ++ [piece])
      else .error .notFound

/-- Where the look-up of a path starts. -/
def origin (fs : FileSystem) (path : String) : List String :=
  if isAbsolute path then [] else fs.working

/-- The path of names from the root that a path leads to. -/
def locate (fs : FileSystem) (path : String) : Except Fault (List String) :=
  if path.isEmpty then .error .notFound
  else (pieces path).foldlM fs.step (fs.origin path)

/-- What a path leads to. -/
def find (fs : FileSystem) (path : String) : Except Fault FileTree := do
  let position ← fs.locate path
  match FileTree.at? position fs.root with
  | some t => .ok t
  | none => .error .notFound

/-- Whether a path leads to a directory. -/
def isDirectory (fs : FileSystem) (path : String) : Bool :=
  match fs.find path with
  | .ok (.directory _) => true
  | _ => false

/-- Whether a path leads to a file. -/
def isFile (fs : FileSystem) (path : String) : Bool :=
  match fs.find path with
  | .ok (.file _) => true
  | _ => false

/-- The text of a file. -/
def readText (fs : FileSystem) (path : String) : Except Fault String := do
  match ← fs.find path with
  | .file (.text text) => .ok text
  | .file (.bytes _) => .error .notText
  | .directory _ => .error .isDirectory

/-! ## Changes -/

/-- The pieces of a path before the last that is not empty, and that piece. -/
def splitTarget (path : String) : List String × String :=
  match (pieces path).reverse.dropWhile (· == "") with
  | [] => ([], "")
  | last :: before => (before.reverse, last)

/-- The place of something to be made: the directory that is to hold it, and its name.  There is
no place under a name that is taken. -/
def freePlace (fs : FileSystem) (path : String) : Except Fault (List String) := do
  if path.isEmpty then .error .notFound
  else
    let (before, last) := splitTarget path
    let position ← before.foldlM fs.step (fs.origin path)
    match FileTree.at? position fs.root with
    | some (.directory entries) =>
        if ["", ".", ".."].contains last || (entries.lookup last).isSome then .error .exists
        else .ok (position ++ [last])
    | some (.file _) => .error .notDirectory
    | none => .error .notFound

/-- Makes one directory. -/
def makeDirectory (fs : FileSystem) (path : String) : Except Fault FileSystem := do
  let place ← fs.freePlace path
  return { fs with root := fs.root.put place .empty }

/-- What became of an operation, and the file system after it. -/
abbrev Outcome := Except Fault Unit × FileSystem

/-- Makes one directory.  Where it cannot be made, `otherwise` says what to do about the fault. -/
def makeDirectoryOr (fs : FileSystem) (path : String) (otherwise : Fault → Outcome) : Outcome :=
  match fs.makeDirectory path with
  | .ok fs => (.ok (), fs)
  | .error fault => otherwise fault

/-- A fault in making a directory is none if the directory is there. -/
def unlessThere (fs : FileSystem) (path : String) (fault : Fault) : Outcome :=
  (if fs.isDirectory path then .ok () else .error fault, fs)

/-- Makes a directory and those above it; the first argument bounds their number. -/
def makeDirectoriesTo : Nat → FileSystem → String → Outcome
  | 0, fs, _ => (.error .notFound, fs)
  | depth + 1, fs, path =>
      if path.isEmpty then (.ok (), fs)
      else
        fs.makeDirectoryOr path fun
          | .notFound =>
              match makeDirectoriesTo depth fs (parent path) with
              | (.ok (), fs) => fs.makeDirectoryOr path (fs.unlessThere path)
              | failed => failed
          | fault => fs.unlessThere path fault

/-- Makes a directory and those above it that are missing.  Those above it stay where it cannot
be made itself. -/
def makeDirectories (fs : FileSystem) (path : String) : Outcome :=
  makeDirectoriesTo (path.length + 1) fs path

/-- Where files in a directory are put; the empty path stands for the working directory. -/
def directoryPlace (fs : FileSystem) (directory : String) : Except Fault (List String) :=
  if directory.isEmpty then .ok fs.working else fs.locate directory

/-- Puts a file under a name in a directory, in place of a file that is there. -/
def placeFile (fs : FileSystem) (directory name text : String) : Except Fault FileSystem := do
  let position ← fs.directoryPlace directory
  match FileTree.at? position fs.root with
  | none => .error .notFound
  | some (.file _) => .error .notDirectory
  | some (.directory entries) =>
      match entries.lookup name with
      | some (.directory _) => .error .isDirectory
      | _ => return { fs with root := fs.root.put (position ++ [name]) (.file (.text text)) }

end FileSystem
end Files
end FixtureFactory
