import FixtureFactory.GenerationError

/-!
# Collecting source files

The files below a source directory that are read as sources.  The walk goes through the tree and
turns away from an entry when its name is hidden or that of a build directory, or when it lies in
an excluded place; what is below such an entry is never looked at.  Whether an entry is excluded
is decided on paths as they are written, the source directory's included.

Files come in the order of their paths below the source directory, whatever the order of the
entries in their directories.
-/

namespace FixtureFactory

/-- A file found by a walk, by its path of names below the source directory. -/
structure FoundFile where
  path : List String
  content : Files.Content
  deriving Inhabited, DecidableEq, Repr

/-- The name of the directory that builds are put into. -/
def buildDirectory : String := "target"

/-- The extension of source files. -/
def sourceExtension : String := "rs"

/-- Whether a walk looks at an entry.  The source directory itself may be hidden. -/
def isVisited (excluded : List (List Files.Component)) (place : List Files.Component)
    (name : String) : Bool :=
  name != buildDirectory && !excluded.any fun base => Files.isBelow base place

/-- Whether a name is hidden. -/
def isHidden (name : String) : Bool := name.toList.head? == some '.'

mutual

/-- The source files in a tree that is looked at, with the path to it below the source directory
and its place. -/
def walkTree (excluded : List (List Files.Component)) (path : List String)
    (place : List Files.Component) : Files.FileTree → List FoundFile
  | .file content =>
      if path.getLast?.bind Files.extension? == some sourceExtension then [⟨path, content⟩]
      else []
  | .directory entries => walkEntries excluded path place entries

/-- The source files in the entries of a directory. -/
def walkEntries (excluded : List (List Files.Component)) (path : List String)
    (place : List Files.Component) : List (String × Files.FileTree) → List FoundFile
  | [] => []
  | (name, t) :: rest =>
      let below := place ++ [.name name]
      (if !isHidden name && isVisited excluded below name
        then walkTree excluded (path ++ [name]) below t else []) ++
        walkEntries excluded path place rest

end

/-- The source files below a source directory, whose path as it is written is given, in no
particular order. -/
def foundFiles (excluded : List String) (root : String) (t : Files.FileTree) : List FoundFile :=
  let excluded := excluded.map Files.components
  let place := Files.components root
  if isVisited excluded place (Files.lastName root) then walkTree excluded [] place t else []

/-- The path of a found file below the source directory. -/
def FoundFile.pathText (f : FoundFile) : String := "/".intercalate f.path

/-- Whether a found file comes up no later than another: directory by directory, each in the order
of its names. -/
def FoundFile.notAfter (f g : FoundFile) : Bool :=
  !List.lex g.path f.path fun a b => decide (a < b)

/-- The source file that a found file is, if it holds text. -/
def FoundFile.read (root : String) (f : FoundFile) : Except GenerationError SourceFile :=
  match f.content with
  | .text text => .ok ⟨f.pathText, text⟩
  | .bytes _ => .error (.unreadableSource (Files.joinAll root f.path) .notText)

/-- The source files below a directory, in the order of their paths.  They are read directory by
directory, each in the order of its names. -/
def collectSources (fs : Files.FileSystem) (root : String) (excluded : List String) :
    Except GenerationError (List SourceFile) :=
  match fs.find root with
  | .ok (.directory entries) => do
      let found := foundFiles excluded root (.directory entries)
      let read ← (found.mergeSort FoundFile.notAfter).mapM (FoundFile.read root)
      return read.mergeSort fun a b => decide (a.path ≤ b.path)
  | _ => .error (.sourceNotFound root)

end FixtureFactory
