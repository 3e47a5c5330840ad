import FixtureFactory.FixtureError
import FixtureFactory.Declaration
import FixtureFactory.Source.Reading

/-!
# Checking a marker where it stands

The rules on what a marker may be put on, asked of one item alone.  They are the rules that the
engine enforces when it scans the marked declarations, so that misuse can be reported while the
item is being compiled.
-/

namespace FixtureFactory

/-- What is wrong with a marker. -/
inductive MarkerMisuse where
  /-- The marker has arguments. -/
  | arguments (marker : Marker)
  /-- A fixture marker on something else than a record; a name if it is a type. -/
  | notARecord (name : Option String)
  /-- An adapter marker on something else than a function. -/
  | notAFunction
  /-- An adapter marker on a function that cannot supply values. -/
  | invalidAdapter (name : String) (violation : AdapterViolation)
  deriving Inhabited, DecidableEq, Repr

/-- The wording of a misuse. -/
def MarkerMisuse.message : MarkerMisuse → String
  | arguments marker => marker.text ++ " takes no arguments"
  | notARecord none => "#[fixture] can be used only on a struct with named fields"
  | notARecord (some name) =>
      "#[fixture] can be used only on a struct with named fields: " ++ name
  | notAFunction => "#[fixture_adapter] can only be used on a function"
  | invalidAdapter name violation => name ++ " " ++ violation.text

/-- Checks a fixture marker on an item. -/
def checkFixture : Source.Item → Except MarkerMisuse Unit
  | .record _ _ (.named _) => .ok ()
  | .record _ name _ => .error (.notARecord (some name.text))
  | .enumeration _ name _ => .error (.notARecord (some name.text))
  | _ => .error (.notARecord none)

/-- Whether a function returns something; the type without values is nothing. -/
def returnsSomething (f : Source.Function) : Bool :=
  match f.result with
  | none => false
  | some .unit => false
  | some _ => true

/-- Checks an adapter marker on an item. -/
def checkAdapter : Source.Item → Except MarkerMisuse Unit
  | .function f =>
      if f.parameterCount > 0 then .error (.invalidAdapter f.name.text .hasParameters)
      else if !returnsSomething f then .error (.invalidAdapter f.name.text .noReturnType)
      else .ok ()
  | _ => .error .notAFunction

/-- Checks a marker on an item; `bare` says that the marker has no arguments. -/
def checkMarker (marker : Marker) (bare : Bool) (item : Source.Item) :
    Except MarkerMisuse Unit :=
  if !bare then .error (.arguments marker)
  else
    match marker with
    | .fixture => checkFixture item
    | .fixtureAdapter => checkAdapter item

/-- Whether a text holds no tokens. -/
def isBare (arguments : String) : Bool :=
  match Source.readTrees .start arguments.toList with
  | .ok trees => trees.isEmpty
  | .error _ => false

end FixtureFactory
