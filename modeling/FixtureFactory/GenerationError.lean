import FixtureFactory.Files.System
import FixtureFactory.Response
import FixtureFactory.SourceIndex

/-!
# Errors of a generation

What can go wrong between the command line and the files that are written: the errors of the
engine, and those of the sources, the manifest and the output.  Of a source that cannot be parsed
the message tells the place, and of a manifest that cannot be parsed it tells just that; what a
parser adds in words of its own is left out.
-/

namespace FixtureFactory

/-- A failure of a generation. -/
inductive GenerationError where
  | engine (e : FixtureError)
  /-- The source directory is not one. -/
  | sourceNotFound (path : String)
  | unreadableSource (path : String) (fault : Files.Fault)
  | unparsedSource (failure : ParseFailure)
  | unreadableManifest (path : String) (fault : Files.Fault)
  | unwritable (path : String) (fault : Files.Fault)
  deriving Inhabited, DecidableEq, Repr

namespace GenerationError

/-- The wording of an error. -/
def message : GenerationError → String
  | engine e => e.message
  | sourceNotFound path => "source directory not found: " ++ path
  | unreadableSource path fault => "failed to read " ++ path ++ ": " ++ fault.text
  | unparsedSource failure => "failed to parse " ++ failure.location.text
  | unreadableManifest path fault => "failed to read manifest " ++ path ++ ": " ++ fault.text
  | unwritable path fault => "failed to write " ++ path ++ ": " ++ fault.text

/-- A path that the caller named is the caller's argument; a source that cannot be used is a fault
of the input. -/
def exitCode : GenerationError → ExitCode
  | engine e => e.exitCode
  | sourceNotFound _ => .invalidArguments
  | unreadableSource _ _ => .inputError
  | unparsedSource _ => .inputError
  | unreadableManifest _ _ => .invalidArguments
  | unwritable _ _ => .writeError

/-- What is reported of an error. -/
def info : GenerationError → ErrorInfo
  | engine e => .ofError e
  | unparsedSource failure =>
      ⟨(unparsedSource failure).exitCode.number, (unparsedSource failure).message, none,
        some failure.location⟩
  | e => ⟨e.exitCode.number, e.message, none, none⟩

end GenerationError
end FixtureFactory
