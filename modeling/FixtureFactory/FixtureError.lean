import FixtureFactory.Location

/-!
# Errors

What can go wrong between reading declarations and handing over generated units.  Each
constructor is a cause and carries the names that its message needs; the wording is in `message`
alone.  Every error ends the run with one of four exit codes.
-/

namespace FixtureFactory

/-- Why a function cannot serve as an adapter. -/
inductive AdapterViolation where
  | hasParameters
  | noReturnType
  | associated
  deriving Inhabited, DecidableEq, Repr

/-- The wording of a violation, to be read after the function's name. -/
def AdapterViolation.text : AdapterViolation → String
  | .hasParameters => "should not contain parameters"
  | .noReturnType => "should return something"
  | .associated => "should be a free function"

/-- A failure of the engine. -/
inductive FixtureError where
  /-- A fixture marker on something other than a record. -/
  | notARecord (name : String) (location : Location)
  /-- An adapter marker on a function that cannot supply values. -/
  | invalidAdapter (function : String) (violation : AdapterViolation) (location : Location)
  /-- No classification rule applies to the field. -/
  | unsupportedType (type field fixture : String)
  /-- The field has a container type that is not among the supported ones. -/
  | unsupportedCollection (type field fixture : String)
  /-- The chosen case of a sealed type is neither a singleton nor a fixture. -/
  | sealedCaseNotFixture (sealedType caseName field : String)
  /-- There is no case to choose from. -/
  | emptyVariants (type field : String)
  /-- No adapter is registered for the type of an adapter-supplied field. -/
  | missingAdapter (type field : String)
  /-- Two source units have the same output unit. -/
  | unitNameCollision (unit first second : String)
  /-- Two fixtures of one unit generate an item of the same name. -/
  | factoryNameCollision (name unit first second : String)
  /-- An option has a value that cannot be used. -/
  | invalidOption (key value reason : String)
  /-- The receiver of the generated units refused one. -/
  | emit (unit reason : String)
  /-- A state that the engine itself should never be in. -/
  | internal (reason : String)
  deriving Inhabited, DecidableEq, Repr

/-- Exit codes, by the party that has to act. -/
inductive ExitCode where
  | invalidArguments
  | inputError
  | writeError
  | internalError
  deriving Inhabited, DecidableEq, Repr

/-- The number of an exit code. -/
def ExitCode.number : ExitCode → Nat
  | .invalidArguments => 2
  | .inputError => 3
  | .writeError => 4
  | .internalError => 10

namespace FixtureError

/-- The wording of an error. -/
def message : FixtureError → String
  | notARecord name location =>
      s!"#[fixture] can be used only on a struct with named fields: {name} ({location.text})"
  | invalidAdapter function violation location =>
      s!"{function} {violation.text} ({location.text})"
  | unsupportedType type field fixture =>
      type ++ " is not a known type and no related #[fixture_adapter] was found (field `" ++
        field ++ "` of " ++ fixture ++ ")"
  | unsupportedCollection type field fixture =>
      type ++ " is not a supported collection and no related #[fixture_adapter] was found (field `"
        ++ field ++ "` of " ++ fixture ++ ")"
  | sealedCaseNotFixture sealedType caseName field =>
      "sealed variant " ++ sealedType ++ "::" ++ caseName ++ " used by field `" ++ field ++
        "` should wrap a #[fixture] struct or carry no data"
  | emptyVariants type field =>
      type ++ " has no variants to choose from (field `" ++ field ++ "`)"
  | missingAdapter type field =>
      "no #[fixture_adapter] registered for " ++ type ++ " (field `" ++ field ++ "`)"
  | unitNameCollision unit first second =>
      s!"source units {first} and {second} both map to output unit {unit}"
  | factoryNameCollision name unit first second =>
      s!"{first} and {second} both generate {name} in unit {unit}"
  | invalidOption key value reason => s!"invalid option {key}={value}: {reason}"
  | emit unit reason => s!"failed to emit {unit}: {reason}"
  | internal reason => s!"internal error: {reason}"

/-- Options are the caller's arguments, a refused unit is a failed write, an internal error is
the engine's own; everything else is a fault of the input. -/
def exitCode : FixtureError → ExitCode
  | invalidOption .. => .invalidArguments
  | emit .. => .writeError
  | internal .. => .internalError
  | _ => .inputError

/-- The place of the offending declaration, for the errors about markers. -/
def location? : FixtureError → Option Location
  | notARecord _ location => some location
  | invalidAdapter _ _ location => some location
  | _ => none

/-- A declaration whose unit the host does not have. -/
def declarationWithoutUnit (name : String) (unit : Nat) : FixtureError :=
  internal s!"declaration {name} refers to unknown unit_{unit}"

/-- A fixture whose unit the host does not have. -/
def fixtureWithoutUnit (unit : Nat) : FixtureError :=
  internal s!"fixture refers to unknown unit_{unit}"

end FixtureError
end FixtureFactory
