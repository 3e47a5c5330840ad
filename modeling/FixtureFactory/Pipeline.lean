import FixtureFactory.Building
import FixtureFactory.Classification
import FixtureFactory.Options
import FixtureFactory.Random.Chacha

/-!
# The pipeline

A run has three phases: the adapters are scanned, then the fixtures, then the output units are
built and handed over.  They come strictly in this order, and a pipeline remembers how far it has
come and what the scans have found.

* A phase asked for at the wrong time is an internal error.
* A phase that fails leaves the pipeline as it was, so it can be asked for again.
* All units are built before the first is handed over, so a failure to build hands over nothing.
* Where the options switch generation off, a run goes straight from the start to the end.

The receiver of the units is any function with a state of its own; it may refuse a unit, and then
no further unit is offered to it.

A pipeline answers four requests, one for each phase and one for all three.  The reply tells what
came of it, the pipeline afterwards, and the units that the receiver has been offered.  What a
receiver is offered shows only in its own state, so it is wrapped in one that writes every unit
down.
-/

namespace FixtureFactory

/-- How far a pipeline has come. -/
inductive Phase where
  | idle
  | adaptersScanned
  | fixturesScanned
  | emitted
  deriving Inhabited, DecidableEq, Repr

/-- The name of a phase in messages. -/
def Phase.name : Phase → String
  | .idle => "Idle"
  | .adaptersScanned => "AdaptersScanned"
  | .fixturesScanned => "FixturesScanned"
  | .emitted => "Emitted"

/-- What is reported of an output unit. -/
structure UnitSummary where
  name : String
  sourcePath : String
  factories : List String
  deriving Inhabited, DecidableEq, Repr

/-- What is reported of a run. -/
structure RunSummary where
  /-- Generation was switched off. -/
  skipped : Bool
  adapters : Nat
  fixtures : Nat
  units : List UnitSummary
  deriving Inhabited, DecidableEq, Repr

/-- The summary of an output unit. -/
def UnitSpec.summary (u : UnitSpec) : UnitSummary :=
  ⟨u.name, u.sourcePath, u.functions.map (·.name)⟩

/-! ## The scans -/

/-- What disqualifies a function as an adapter, or the type that it supplies. -/
def adapterTarget (f : FunctionDeclaration) : Except AdapterViolation TypeRef :=
  if f.associated then .error .associated
  else if f.parameterCount > 0 then .error .hasParameters
  else match f.returnType with
    | none => .error .noReturnType
    | some target => .ok target

/-- A marked function as an adapter. -/
def adapterOf (f : FunctionDeclaration) : Except FixtureError Adapter :=
  match adapterTarget f with
  | .ok target => .ok ⟨f.scope, f.name, target, f.location⟩
  | .error violation => .error (.invalidAdapter f.qualifiedName violation f.location)

/-- The registry of the adapters of a host. -/
def scanAdapters (host : Host) : Except FixtureError AdapterRegistry := do
  let adapters ← (host.markedFunctions .fixtureAdapter).mapM adapterOf
  return adapters.foldl AdapterRegistry.insert .empty

/-- A marked declaration as a fixture. -/
def fixtureOf (host : Host) (adapters : AdapterRegistry) (naming : Naming)
    (d : TypeDeclaration) : Except FixtureError Fixture :=
  if d.kind ≠ .record then .error (.notARecord d.qualifiedName d.location)
  else (mapFields host adapters naming d).map fun parameters =>
    { qualifiedName := d.qualifiedName
      simpleName := d.simpleName
      enclosing := d.enclosing
      unit := d.unit
      type := d.asType
      parameters := parameters
      location := d.location }

/-- The registry of the fixtures of a host. -/
def scanFixtures (host : Host) (adapters : AdapterRegistry) (naming : Naming) :
    Except FixtureError FixtureRegistry := do
  let fixtures ← (host.markedTypes .fixture).mapM (fixtureOf host adapters naming)
  return fixtures.foldl FixtureRegistry.register .empty

/-! ## Handing over -/

/-- A receiver of output units, with a state of its own. -/
abbrev Receiver (σ : Type) := UnitSpec → σ → Except FixtureError Unit × σ

/-- Offers units to a receiver until it refuses one. -/
def Receiver.offer {σ : Type} (receive : Receiver σ) :
    List UnitSpec → σ → Except FixtureError Unit × σ
  | [], s => (.ok (), s)
  | unit :: units, s =>
      match receive unit s with
      | (.ok (), s) => offer receive units s
      | (.error e, s) => (.error e, s)

/-- The receiver that also writes down each unit it is offered. -/
def Receiver.recording {σ : Type} (receive : Receiver σ) : Receiver (σ × List UnitSpec) :=
  fun unit s => ((receive unit s.1).1, (receive unit s.1).2, s.2 ++ [unit])

/-! ## The states -/

/-- A pipeline over a host. -/
structure Pipeline where
  options : Options
  phase : Phase
  adapters : AdapterRegistry
  fixtures : FixtureRegistry
  deriving Inhabited, Repr

namespace Pipeline

/-- A pipeline at its start. -/
def start (options : Options) : Pipeline := ⟨options, .idle, .empty, .empty⟩

/-- The naming policy of a pipeline. -/
def naming (p : Pipeline) : Naming := p.options.naming

/-- The error of a phase that is asked for too early or too late. -/
def outOfOrder (found expected : Phase) : FixtureError :=
  .internal s!"driver is {found.name}, expected {expected.name}"

/-- Goes on only in the expected phase. -/
def expect {α : Type} (p : Pipeline) (expected : Phase) (next : Except FixtureError α) :
    Except FixtureError α :=
  if p.phase = expected then next else .error (outOfOrder p.phase expected)

/-- The pipeline after the adapters have been scanned. -/
def withAdapters (p : Pipeline) (host : Host) : Except FixtureError Pipeline :=
  p.expect .idle <| (scanAdapters host).map fun adapters =>
    { p with adapters := adapters, phase := .adaptersScanned }

/-- The pipeline after the fixtures have been scanned. -/
def withFixtures (p : Pipeline) (host : Host) : Except FixtureError Pipeline :=
  p.expect .adaptersScanned <| (scanFixtures host p.adapters p.naming).map fun fixtures =>
    { p with fixtures := fixtures, phase := .fixturesScanned }

/-- The random source of a build: that of the seed, or the given entropy without one. -/
def source (p : Pipeline) (entropy : RandomSource) : RandomSource :=
  match p.options.seed with
  | some seed => .ofSeed (UInt64.ofNat seed.value)
  | none => entropy

/-- The output units of a pipeline. -/
def units (p : Pipeline) (host : Host) (entropy : RandomSource) :
    Except FixtureError (List UnitSpec) :=
  let context : BuildContext := ⟨p.naming, p.adapters, p.options.randomize.value⟩
  ((context.buildUnits host p.fixtures).run (p.source entropy)).1

/-- The summary of a run that has handed over the given units. -/
def summary (p : Pipeline) (units : List UnitSpec) : RunSummary :=
  ⟨false, p.adapters.size, p.fixtures.size, units.map (·.summary)⟩

/-- The summary of a run that is switched off. -/
def skippedSummary : RunSummary := ⟨true, 0, 0, []⟩

variable {σ : Type}

/-- Builds all units and hands them over. -/
def emit (p : Pipeline) (host : Host) (entropy : RandomSource) (receive : Receiver σ) (s : σ) :
    Except FixtureError RunSummary × Pipeline × σ :=
  match p.expect .fixturesScanned (p.units host entropy) with
  | .error e => (.error e, p, s)
  | .ok units =>
      match receive.offer units s with
      | (.error e, s) => (.error e, p, s)
      | (.ok (), s) => (.ok (p.summary units), { p with phase := .emitted }, s)

/-- Runs every phase, or none if generation is switched off. -/
def run (p : Pipeline) (host : Host) (entropy : RandomSource) (receive : Receiver σ) (s : σ) :
    Except FixtureError RunSummary × Pipeline × σ :=
  if !p.options.run.value then
    match p.expect .idle (.ok ()) with
    | .error e => (.error e, p, s)
    | .ok () => (.ok skippedSummary, { p with phase := .emitted }, s)
  else match p.withAdapters host with
    | .error e => (.error e, p, s)
    | .ok p =>
        match p.withFixtures host with
        | .error e => (.error e, p, s)
        | .ok p => p.emit host entropy receive s

/-- The units that are offered to the receiver when the units are handed over, in order. -/
def emitCalls (p : Pipeline) (host : Host) (entropy : RandomSource) (receive : Receiver σ) (s : σ) :
    List UnitSpec :=
  (p.emit host entropy receive.recording (s, [])).2.2.2

/-- The units that are offered to the receiver during a run, in order. -/
def runCalls (p : Pipeline) (host : Host) (entropy : RandomSource) (receive : Receiver σ) (s : σ) :
    List UnitSpec :=
  (p.run host entropy receive.recording (s, [])).2.2.2

/-! ## Requests -/

/-- A request to a pipeline.  Those that hand over bring a receiver and its state. -/
inductive Request : Type 1 where
  | scanAdapters
  | scanFixtures
  | emit {σ : Type} (entropy : RandomSource) (receive : Receiver σ) (s : σ)
  | run {σ : Type} (entropy : RandomSource) (receive : Receiver σ) (s : σ)

/-- The answer to a request. -/
structure Reply where
  /-- A scan that succeeds has nothing to tell. -/
  outcome : Except FixtureError (Option RunSummary)
  /-- The pipeline afterwards. -/
  pipeline : Pipeline
  /-- The units that have been offered to the receiver. -/
  calls : List UnitSpec

/-- The reply to a scan: a scan that fails leaves the pipeline as it was. -/
def scanReply (p : Pipeline) : Except FixtureError Pipeline → Reply
  | .ok p' => ⟨.ok none, p', []⟩
  | .error e => ⟨.error e, p, []⟩

/-- Answers a request. -/
def answer (host : Host) (p : Pipeline) : Request → Reply
  | .scanAdapters => p.scanReply (p.withAdapters host)
  | .scanFixtures => p.scanReply (p.withFixtures host)
  | .emit entropy receive s =>
      { outcome := (p.emit host entropy receive s).1.map some
        pipeline := (p.emit host entropy receive s).2.1
        calls := p.emitCalls host entropy receive s }
  | .run entropy receive s =>
      { outcome := (p.run host entropy receive s).1.map some
        pipeline := (p.run host entropy receive s).2.1
        calls := p.runCalls host entropy receive s }

/-- The pipeline after a list of requests. -/
def after (host : Host) (p : Pipeline) (requests : List Request) : Pipeline :=
  requests.foldl (fun p request => (p.answer host request).pipeline) p

end Pipeline
end FixtureFactory
