import FixtureFactory.SourceFiles

/-!
# The generator

One generation: the options are resolved, the sources indexed, the pipeline run, and the rendered
units written.  Nothing is written unless all before it has succeeded.

The file system is a value.  A generation gives back the file system as it leaves it, also where
it fails, since a failure to write may come after some files are in place.

A file comes into place in one step, with all of its text.  That it may have been written under
another name before, and what can go wrong with that, is left out: once the output directory is
there, none of the five faults of files can hit such a temporary file.
-/

namespace FixtureFactory

/-- What a generation is asked for. -/
structure Generator where
  sourceDirectory : String
  outputDirectory : String
  /-- The manifest, if it is named; else it is looked for next to the source directory. -/
  manifest : Option String
  options : List (String × String)
  /-- Render, but do not write. -/
  dryRun : Bool
  deriving Inhabited, DecidableEq, Repr

/-- What surrounds a generation besides files. -/
structure Surroundings where
  environment : String → Option String
  /-- The random source of a build that has no seed. -/
  entropy : RandomSource

/-- What a generation reports. -/
structure GenerationReport where
  options : Options
  dryRun : Bool
  skipped : Bool
  outputDirectory : String
  units : List RenderedUnit
  filesWritten : List String
  deriving Inhabited, Repr

namespace GenerationReport

/-- The number of factories. -/
def fixtureCount (r : GenerationReport) : Nat := (r.units.flatMap (·.factories)).length

/-- The response to a request to generate. -/
def response (r : GenerationReport) : GenerateResponse :=
  { dryRun := r.dryRun
    skipped := r.skipped
    options := r.options
    units := r.units.map fun u =>
      ⟨u.name, u.sourcePath, Files.join r.outputDirectory u.fileName, u.factories⟩
    filesWritten := r.filesWritten }

end GenerationReport

namespace Generator

/-- A generation with the usual directories and no options. -/
def usual : Generator := ⟨"src", "src/fixtures", none, [], false⟩

/-- The name of the module that mounts all units. -/
def modFileName : String := "mod.rs"

/-- The name of a manifest. -/
def manifestName : String := "Cargo.toml"

/-! ## Options and sources -/

/-- The text of a manifest. -/
def readManifestAt (fs : Files.FileSystem) (path : String) : Except GenerationError String :=
  (fs.readText path).mapError (.unreadableManifest path)

/-- The path of the manifest next to the source directory. -/
def implicitManifest (g : Generator) : String :=
  Files.join (Files.parent g.sourceDirectory) manifestName

/-- The text of the manifest, if there is one. -/
def readManifest (g : Generator) (fs : Files.FileSystem) :
    Except GenerationError (Option String) :=
  match g.manifest with
  | some path => some <$> readManifestAt fs path
  | none =>
      if fs.isFile g.implicitManifest then some <$> readManifestAt fs g.implicitManifest
      else .ok none

/-- The options of a generation. -/
def resolveOptions (g : Generator) (s : Surroundings) (fs : Files.FileSystem) :
    Except GenerationError Options := do
  let manifest ← g.readManifest fs
  (Options.resolve manifest s.environment g.options).mapError .engine

/-- The index of the sources.  What has been generated before is not among them. -/
def index (g : Generator) (fs : Files.FileSystem) : Except GenerationError SourceIndex := do
  let files ← collectSources fs g.sourceDirectory [g.outputDirectory]
  (SourceIndex.ofSources files).mapError .unparsedSource

/-! ## Running -/

/-- Renders each unit and keeps the result. -/
def rendering : Receiver (List RenderedUnit) := fun unit rendered =>
  (.ok (), rendered ++ [.ofSpec unit])

/-- Runs the pipeline over a host and renders the units. -/
def render (options : Options) (host : Host) (entropy : RandomSource) :
    Except FixtureError (RunSummary × List RenderedUnit) :=
  let (outcome, _, units) := (Pipeline.start options).run host entropy rendering []
  outcome.map fun summary => (summary, units)

/-- The files of a run: one for each unit, and the module that mounts them last. -/
def outputFiles (units : List RenderedUnit) : List (String × String) :=
  (units.map fun u => (u.fileName, u.source)) ++
    [(modFileName, renderModFile (units.map (·.name)))]

/-- Puts files in place one after another. -/
def placeFiles (directory : String) :
    List (String × String) → Files.FileSystem → Except GenerationError Unit × Files.FileSystem
  | [], fs => (.ok (), fs)
  | (name, text) :: rest, fs =>
      match fs.placeFile directory name text with
      | .ok fs => placeFiles directory rest fs
      | .error fault => (.error (.unwritable (Files.join directory name) fault), fs)

/-- Writes files into a directory, which is made first: the paths that have been written. -/
def writeFiles (directory : String) (files : List (String × String)) (fs : Files.FileSystem) :
    Except GenerationError (List String) × Files.FileSystem :=
  match fs.makeDirectories directory with
  | (.error fault, fs) => (.error (.unwritable directory fault), fs)
  | (.ok (), fs) =>
      let (outcome, fs) := placeFiles directory files fs
      (outcome.map fun _ => files.map fun file => Files.join directory file.1, fs)

/-- A generation up to the point where files are written. -/
def prepare (g : Generator) (s : Surroundings) (fs : Files.FileSystem) :
    Except GenerationError GenerationReport := do
  let options ← g.resolveOptions s fs
  let index ← g.index fs
  let (summary, units) ← (render options index.toHost s.entropy).mapError .engine
  return { options := options
           dryRun := g.dryRun
           skipped := summary.skipped
           outputDirectory := g.outputDirectory
           units := units
           filesWritten := [] }

/-- A whole generation. -/
def generate (g : Generator) (s : Surroundings) (fs : Files.FileSystem) :
    Except GenerationError GenerationReport × Files.FileSystem :=
  match g.prepare s fs with
  | .error e => (.error e, fs)
  | .ok report =>
      if report.dryRun || report.skipped then (.ok report, fs)
      else
        let (written, fs) := writeFiles g.outputDirectory (outputFiles report.units) fs
        (written.map fun paths => { report with filesWritten := paths }, fs)

/-- The path of the factory of a fixture. -/
def factoryPath (naming : Naming) (host : Host) (f : Fixture) : String :=
  let factory := Naming.factoryName f.enclosing f.simpleName
  match host.unit? f.unit with
  | some unit => ScopeTable.memberPath (naming.unitModule unit) factory
  | none => factory

/-- The listing of a host: what a generation would build, and from what. -/
def listHost (options : Options) (host : Host) : Except FixtureError ListResponse := do
  let p ← (Pipeline.start options).withAdapters host
  let p ← p.withFixtures host
  return ListResponse.ofRegistries p.adapters p.fixtures (factoryPath p.naming host)

/-- Lists the fixtures and adapters of the sources. -/
def list (g : Generator) (s : Surroundings) (fs : Files.FileSystem) :
    Except GenerationError ListResponse := do
  let options ← g.resolveOptions s fs
  let index ← g.index fs
  (listHost options index.toHost).mapError .engine

end Generator
end FixtureFactory
