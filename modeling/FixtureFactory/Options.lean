import FixtureFactory.FixtureError
import FixtureFactory.Naming
import FixtureFactory.Text.Blank
import FixtureFactory.Toml.Reader
import FixtureFactory.Toml.Inline

/-!
# Options

The options of a run come from four layers: built-in defaults, the project's manifest, the
environment and explicit options.  Each value remembers its layer.  A value of a higher layer
stays; within one layer the later value stands.

Options are texts under text keys.  Switches are on exactly for the word `true` in any case, so
they cannot be wrong; a seed and a module path can, and a wrong one is an error in any layer, even
one that would be overridden.
-/

namespace FixtureFactory

/-- The layer that a value comes from. -/
inductive OptionSource where
  | default
  | projectConfig
  | envVar
  | option
  deriving Inhabited, DecidableEq, Repr

/-- The height of a layer. -/
def OptionSource.rank : OptionSource → Nat
  | .default => 0
  | .projectConfig => 1
  | .envVar => 2
  | .option => 3

/-- A value with its layer. -/
structure Setting (α : Type) where
  value : α
  source : OptionSource
  deriving Inhabited, DecidableEq, Repr

/-- The value of the higher layer, of equal layers the later one. -/
def Setting.merge {α : Type} (current next : Setting α) : Setting α :=
  if current.source.rank ≤ next.source.rank then next else current

/-- Like `Setting.merge`, where there may be no current value. -/
def Setting.mergeInto {α : Type} (current : Option (Setting α)) (next : Setting α) : Setting α :=
  match current with
  | some c => c.merge next
  | none => next

/-- The options of a run. -/
structure Options where
  run : Setting Bool
  randomize : Setting Bool
  seed : Option (Setting Nat)
  modulePath : Setting String
  deriving Inhabited, DecidableEq, Repr

/-- Whether a text is the word `true`, blanks around it and letter case aside. -/
def parseSwitch (text : String) : Bool :=
  (Text.trim text.toList).map Char.toLower == "true".toList

/-- The number of a list of decimal digits. -/
def digitsValue (digits : List Char) : Nat :=
  digits.foldl (fun n c => 10 * n + (c.toNat - 48)) 0

/-- A number of at most 64 bits in decimal digits, perhaps after a plus sign. -/
def parseSeed? (text : String) : Option Nat :=
  let cs := Text.trim text.toList
  let digits := if cs.head? == some '+' then cs.tail else cs
  if digits.isEmpty || !digits.all Char.isDigit || UInt64.size ≤ digitsValue digits then none
  else some (digitsValue digits)

/-- A module path, none of whose segments is empty. -/
def parseModulePath? (text : String) : Option String :=
  let cs := Text.trim text.toList
  if (Text.splitSegments cs).any List.isEmpty then none else some (String.ofList cs)

/-- Splits an argument `key=value` at its first equals sign. -/
def parseKeyValue (argument : String) : Except FixtureError (String × String) :=
  let cs := argument.toList
  let key := Text.trim (cs.takeWhile (· != '='))
  match cs.dropWhile (· != '=') with
  | _ :: value =>
      if key.isEmpty then .error (.invalidOption argument "" "expected key=value")
      else .ok (String.ofList key, String.ofList value)
  | [] => .error (.invalidOption argument "" "expected key=value")

/-- A key with a value from a layer. -/
structure OptionStep where
  key : String
  value : String
  source : OptionSource
  deriving Inhabited, DecidableEq, Repr

namespace Options

/-- The options that nothing has been applied to. -/
def defaults : Options :=
  { run := ⟨true, .default⟩
    randomize := ⟨false, .default⟩
    seed := none
    modulePath := ⟨Naming.defaultRoot, .default⟩ }

/-- Applies a step in place.  Keys that are not known are passed over.  A seed is taken out of the
options and put back once it has been merged. -/
def applyInPlace (step : OptionStep) : ExceptT FixtureError (StateM Options) Unit := do
  if step.key = "fixtures.run" then
    modify fun o => { o with run := o.run.merge ⟨parseSwitch step.value, step.source⟩ }
  else if step.key = "fixtures.randomize" then
    modify fun o => { o with randomize := o.randomize.merge ⟨parseSwitch step.value, step.source⟩ }
  else if step.key = "fixtures.seed" then
    match parseSeed? step.value with
    | some seed =>
        let current ← modifyGet fun o => (o.seed, { o with seed := none })
        modify fun o => { o with seed := some (Setting.mergeInto current ⟨seed, step.source⟩) }
    | none => throw (.invalidOption step.key step.value "expected an unsigned integer")
  else if step.key = "fixtures.module" then
    match parseModulePath? step.value with
    | some path =>
        modify fun o => { o with modulePath := o.modulePath.merge ⟨path, step.source⟩ }
    | none =>
        throw (.invalidOption step.key step.value "expected a module path such as crate::fixtures")

/-- The options that a step leaves, whether it fails or not. -/
def after (o : Options) (step : OptionStep) : Options := ((applyInPlace step).run.run o).2

/-- Applies a step. -/
def apply (o : Options) (step : OptionStep) : Except FixtureError Options :=
  (((applyInPlace step).run.run o).1).map fun _ => o.after step

/-- Applies steps one after another; the first error wins. -/
def applyAll (o : Options) (steps : List OptionStep) : Except FixtureError Options :=
  steps.foldlM apply o

/-- The variables of the environment, with the keys that they set. -/
def envVars : List (String × String) :=
  [("FIXTURES_RUN", "fixtures.run"), ("FIXTURES_RANDOMIZE", "fixtures.randomize"),
   ("FIXTURES_SEED", "fixtures.seed"), ("FIXTURES_MODULE", "fixtures.module")]

/-- The text of a manifest entry, which must be a string, a boolean or an integer. -/
def entryText? : Toml.Value → Option String
  | .string s => some s
  | .boolean b => some (if b then "true" else "false")
  | .integer i => some (toString i)
  | _ => none

/-- A manifest entry as a step. -/
def entryStep (entry : String × Toml.Value) : Except FixtureError OptionStep :=
  let key := "fixtures." ++ entry.1
  match entryText? entry.2 with
  | some text => .ok ⟨key, text, .projectConfig⟩
  | none =>
      .error (.invalidOption key (Toml.inline entry.2) "expected a string, boolean or integer")

/-- The table of a manifest that holds options, in the order of its keys. -/
def manifestTable (manifest : Toml.Value) : List (String × Toml.Value) :=
  match ["package", "metadata", "fixtures"].foldl (fun v key => v.bind (·.get? key))
    (some manifest) with
  | some (.table entries) => entries
  | _ => []

/-- The steps of a manifest.  What the parser says about a text that is no document is not kept: the
error has the fact alone. -/
def manifestSteps (text : String) : Except FixtureError (List OptionStep) :=
  match Toml.parse text with
  | none => .error (.invalidOption "Cargo.toml" "" "failed to parse manifest")
  | some manifest => (manifestTable manifest).mapM entryStep

/-- The steps of an environment. -/
def envSteps (env : String → Option String) : List OptionStep :=
  envVars.filterMap fun (name, key) => (env name).map fun value => ⟨key, value, .envVar⟩

/-- The steps of explicit options. -/
def explicitSteps (options : List (String × String)) : List OptionStep :=
  options.map fun (key, value) => ⟨key, value, .option⟩

/-- The options of all layers. -/
def resolve (manifest : Option String) (env : String → Option String)
    (options : List (String × String)) : Except FixtureError Options := do
  let fromManifest ← match manifest with
    | some text => manifestSteps text
    | none => pure []
  defaults.applyAll (fromManifest ++ envSteps env ++ explicitSteps options)

/-- The naming policy of the options. -/
def naming (o : Options) : Naming := ⟨o.modulePath.value⟩

end Options
end FixtureFactory
