import FixtureFactory.CommandLine

/-!
# The program

The answer to a command is a function of its arguments, the environment, a random source and a
file system that is a value.  The program supplies these four, prints the answer, and brings the
disk to the file system that the answer leaves.

Only what a command can look at is read: whatever is below the source directory, except where the
walk over sources turns away, the entries of the output directory, and the manifest.  A link below
the source directory is not followed.  Where the disk refuses for a reason that is no `Files.Fault`,
the program ends with that reason on its error stream.
-/

namespace FixtureFactory
namespace Program

/-! ## Reading the disk -/

/-- The greatest depth of a tree that is read: the system takes no path with more names. -/
def greatestDepth : Nat := 2048

/-- The path of a place on the disk. -/
def diskPath (place : List String) : String := "/" ++ "/".intercalate place

/-- The names of the entries of a directory that a command can look at; nothing where there is no
directory. -/
def entryNames (place : List String) : IO (Option (List String)) := do
  try
    let entries ← (← IO.FS.realPath (diskPath place)).readDir
    let seen ← entries.toList.filterM fun entry => do
      let isLink := (← entry.path.symlinkMetadata).type matches .symlink
      return !isLink && !isHidden entry.fileName && entry.fileName != buildDirectory
    return some (seen.map (·.fileName))
  catch _ => return none

/-- The bytes of a file; nothing where nothing is. -/
def fileBytes (place : List String) : IO (Option ByteArray) := do
  try return some (← IO.FS.readBinFile (diskPath place))
  catch
    | .noFileOrDirectory .. => return none
    | .inappropriateType .. => return none
    | e => throw e

/-- The tree with what the disk has at a place, down to a depth.  A directory that has been read
already keeps its entries. -/
def readPlace : Nat → List String → Files.FileTree → IO Files.FileTree
  | depth, place, t => do
      match ← entryNames place with
      | none =>
          match ← fileBytes place with
          | some bytes => return t.put place (.file (.ofBytes bytes.toList))
          | none => return t
      | some names =>
          let t := if ((Files.FileTree.at? place t).map (·.isDirectory)).getD false then t
            else t.put place .empty
          match depth with
          | 0 => return t
          | depth + 1 => names.foldlM (fun t name => readPlace depth (place ++ [name]) t) t

/-- The places that a path leads through, from where its look-up starts. -/
def placesOf (fs : Files.FileSystem) (path : String) : List (List String) :=
  (Files.pieces path).foldl (fun (places : List (List String)) piece =>
    let place := places.getLastD (fs.origin path)
    places ++ [match Files.componentOf? piece with
      | some (.name text) => place ++ [text]
      | some .up => place.dropLast
      | _ => place]) [fs.origin path]

/-- The file system with what a path leads to, down to a depth, and what it leads through. -/
def readPath (depth : Nat) (path : String) (fs : Files.FileSystem) : IO Files.FileSystem := do
  let places := placesOf fs path
  let t ← places.foldlM (fun t place => readPlace 0 place t) fs.root
  let t ← readPlace depth (places.getLastD fs.working) t
  return { fs with root := t }

/-- The part of the disk that a generation can look at. -/
def readFileSystem (g : Generator) : IO Files.FileSystem := do
  let working := (Files.pieces (← IO.currentDir).toString).filter (· != "")
  let fs ← readPath 0 "." ⟨.empty, working⟩
  let fs ← readPath 0 (g.manifest.getD g.implicitManifest) fs
  let fs ← readPath 1 g.outputDirectory fs
  readPath greatestDepth g.sourceDirectory fs

/-- The file system for a request.  One that runs no command looks at nothing. -/
def fileSystemFor (arguments : List String) : IO Files.FileSystem :=
  match CommandLine.request? arguments with
  | some (.run _ given) => readFileSystem (given.generator [])
  | _ => return ⟨.empty, []⟩

/-- The environment and a fresh random source. -/
def surroundings : IO Surroundings := do
  let settings ← Options.envVars.mapM fun (name, _) => do return (name, ← IO.getEnv name)
  let bytes ← IO.getRandomBytes 8
  let seed := bytes.toList.foldl (fun (n : UInt64) b => n * 256 + b.toUInt64) 0
  return ⟨fun name => (settings.lookup name).join, RandomSource.ofSeed seed⟩

/-! ## Answering -/

/-- Brings the disk from one file system to another. -/
def writeChanges (before after : Files.FileSystem) : IO Unit :=
  (before.root.changes after.root).forM fun (path, held) =>
    match held with
    | none => IO.FS.createDirAll ("/" ++ path)
    | some (.text text) => IO.FS.writeFile ("/" ++ path) text
    | some (.bytes _) => return

/-- Runs an action; where the disk refuses it, the reason goes to the error stream and the exit code
is the given one. -/
def orExit (code : ExitCode) (action : IO Nat) : IO Nat := do
  try action
  catch e =>
    IO.eprintln e
    return code.number

/-- Brings the disk to what an answer leaves, and prints the answer. -/
def deliver (before : Files.FileSystem) (answer : CommandLine.Answer) : IO Nat := do
  writeChanges before answer.files
  IO.print answer.output
  return answer.exitCode

/-- Runs the program: its exit code. -/
def run (arguments : List String) : IO Nat :=
  orExit .inputError do
    let before ← fileSystemFor arguments
    let answer := CommandLine.answer arguments (← surroundings) before
    orExit .writeError (deliver before answer)

end Program
end FixtureFactory

/-- Runs the program with its arguments. -/
def main (arguments : List String) : IO UInt32 := do
  return (← FixtureFactory.Program.run arguments).toUInt32
