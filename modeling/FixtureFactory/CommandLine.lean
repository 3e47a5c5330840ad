import FixtureFactory.Generator

/-!
# The command line

What the arguments of the program ask for, and what is answered.

The commands are `generate` and `list`.  An option is written `--name value` or `--name=value`; the
option for settings has the short forms `-O value`, `-Ovalue` and `-O=value` as well and may be
given any number of times, every other option once.  A value that is an argument of its own must
not start with a dash, unless it is one.  The option for the level of the log may stand before the
command too.  Arguments that fit no rule end the program with an exit code and no response.

Settings must have the form `key=value`, and the first that has not is reported in a response
before anything is read.
-/

namespace FixtureFactory
namespace CommandLine

/-- The two commands. -/
inductive Command where
  | generate
  | list
  deriving Inhabited, DecidableEq, Repr

/-- The command of a name. -/
def command? : String → Option Command
  | "generate" => some .generate
  | "list" => some .list
  | _ => none

/-- The levels of the log. -/
def logLevels : List String := ["trace", "debug", "info", "warn", "error"]

/-- The options that take a value. -/
inductive Valued where
  | source
  | output
  | manifest
  | setting
  | logLevel
  deriving Inhabited, DecidableEq, Repr

/-- The option of a long name. -/
def valued? : String → Option Valued
  | "src" => some .source
  | "out" => some .output
  | "manifest" => some .manifest
  | "option" => some .setting
  | "log-level" => some .logLevel
  | _ => none

/-- What has been given after a command. -/
structure Given where
  source : Option String
  output : Option String
  manifest : Option String
  /-- The settings, in their order. -/
  settings : List String
  logLevel : Option String
  dryRun : Bool
  deriving Inhabited, DecidableEq, Repr

namespace Given

/-- Nothing. -/
def nothing : Given := ⟨none, none, none, [], none, false⟩

/-- A value that may be given once. -/
def once (before : Option String) (valid : Bool) (value : String) : Option (Option String) :=
  if before.isNone && valid then some (some value) else none

/-- Adds the value of an option.  A path must not be empty. -/
def add (g : Given) (option : Valued) (value : String) : Option Given :=
  let isPath := !value.isEmpty
  match option with
  | .source => (once g.source isPath value).map fun v => { g with source := v }
  | .output => (once g.output isPath value).map fun v => { g with output := v }
  | .manifest => (once g.manifest isPath value).map fun v => { g with manifest := v }
  | .setting => some { g with settings := g.settings ++ [value] }
  | .logLevel =>
      (once g.logLevel (logLevels.contains value) value).map fun v => { g with logLevel := v }

/-- Adds the switch for a dry run, which only one command has. -/
def addDryRun (g : Given) (command : Command) : Option Given :=
  if command == .generate && !g.dryRun then some { g with dryRun := true } else none

/-- The generation that is asked for, with its settings taken apart. -/
def generator (g : Given) (options : List (String × String)) : Generator :=
  { sourceDirectory := g.source.getD Generator.usual.sourceDirectory
    outputDirectory := g.output.getD Generator.usual.outputDirectory
    manifest := g.manifest
    options := options
    dryRun := g.dryRun }

end Given

/-! ## Arguments -/

/-- An argument by its form. -/
inductive Argument where
  /-- Two dashes, after which no option follows. -/
  | stop
  /-- A long option, with a value after an equals sign if there is one. -/
  | long (name : String) (value : Option String)
  /-- Short options in one argument. -/
  | short (letters : List Char)
  | plain (text : String)
  deriving Inhabited, DecidableEq, Repr

/-- Splits at the first equals sign. -/
def splitEquals : List Char → List Char × Option (List Char)
  | [] => ([], none)
  | '=' :: rest => ([], some rest)
  | c :: rest => let (name, value) := splitEquals rest; (c :: name, value)

/-- The form of an argument. -/
def Argument.of (text : String) : Argument :=
  match text.toList with
  | ['-', '-'] => .stop
  | '-' :: '-' :: rest =>
      let (name, value) := splitEquals rest
      .long (String.ofList name) (value.map String.ofList)
  | ['-'] => .plain text
  | '-' :: letters => .short letters
  | _ => .plain text

/-- The value of an option that must be an argument of its own. -/
def nextValue : List String → Option (String × List String)
  | [] => none
  | text :: rest =>
      match Argument.of text with
      | .plain value => some (value, rest)
      | _ => none

/-- The value of an option: what is attached to it, or the next argument. -/
def valueOf (attached : Option String) (rest : List String) : Option (String × List String) :=
  match attached with
  | some value => some (value, rest)
  | none => nextValue rest

/-- The value that is attached to a short option. -/
def attachedValue : List Char → Option String
  | [] => none
  | '=' :: value => some (String.ofList value)
  | value => some (String.ofList value)

/-- Takes the arguments after a command; the first argument bounds their number. -/
def takeArguments (command : Command) : Nat → Given → List String → Option Given
  | _, g, [] => some g
  | 0, _, _ => none
  | bound + 1, g, text :: rest =>
      match Argument.of text with
      | .stop => if rest.isEmpty then some g else none
      | .plain _ => none
      | .long "dry-run" none => do takeArguments command bound (← g.addDryRun command) rest
      | .long name attached => do
          let option ← valued? name
          let (value, rest) ← valueOf attached rest
          takeArguments command bound (← g.add option value) rest
      | .short ('O' :: letters) => do
          let (value, rest) ← valueOf (attachedValue letters) rest
          takeArguments command bound (← g.add .setting value) rest
      | .short _ => none

/-- What the arguments ask for. -/
inductive Request where
  | version
  | run (command : Command) (given : Given)
  deriving Inhabited, DecidableEq, Repr

/-- Takes the arguments before a command and the command itself. -/
def takeCommand : Nat → Given → List String → Option Request
  | _, _, [] => none
  | 0, _, _ => none
  | bound + 1, g, text :: rest =>
      match Argument.of text with
      | .plain name => do
          let command ← command? name
          let given ← takeArguments command (rest.length + 1) .nothing rest
          return .run command given
      | .long "version" none => some .version
      | .long "log-level" attached => do
          let (value, rest) ← valueOf attached rest
          takeCommand bound (← g.add .logLevel value) rest
      | .short ('V' :: _) => some .version
      | _ => none

/-- What the arguments ask for; nothing if they fit no rule. -/
def request? (arguments : List String) : Option Request :=
  takeCommand (arguments.length + 1) .nothing arguments

/-! ## Answers -/

/-- What the program prints, the exit code, and the file system afterwards. -/
structure Answer where
  exitCode : Nat
  output : String
  files : Files.FileSystem
  deriving Inhabited, Repr

/-- The name and version of the program. -/
def versionText : String := "fixturegen 0.1.0\n"

/-- The answer to a request that fails. -/
def failure (e : GenerationError) (fs : Files.FileSystem) : Answer :=
  ⟨e.exitCode.number, responseText e.info.response, fs⟩

/-- The answer to a request that succeeds. -/
def success (document : Json) (fs : Files.FileSystem) : Answer := ⟨0, responseText document, fs⟩

/-- Runs a command for a generation. -/
def answerCommand (command : Command) (g : Generator) (s : Surroundings)
    (fs : Files.FileSystem) : Answer :=
  match command with
  | .generate =>
      match g.generate s fs with
      | (.ok report, fs) => success report.response.toJson fs
      | (.error e, fs) => failure e fs
  | .list =>
      match g.list s fs with
      | .ok listing => success listing.toJson fs
      | .error e => failure e fs

/-- Runs the program. -/
def answer (arguments : List String) (s : Surroundings) (fs : Files.FileSystem) : Answer :=
  match request? arguments with
  | none => ⟨ExitCode.invalidArguments.number, "", fs⟩
  | some .version => ⟨0, versionText, fs⟩
  | some (.run command given) =>
      match given.settings.mapM parseKeyValue with
      | .error e => failure (.engine e) fs
      | .ok options => answerCommand command (given.generator options) s fs

end CommandLine
end FixtureFactory
