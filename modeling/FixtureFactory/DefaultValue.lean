import FixtureFactory.Decimal.Shortest
import FixtureFactory.FixtureError
import FixtureFactory.Parameter
import FixtureFactory.Random.Source
import FixtureFactory.Registry.Adapters
import FixtureFactory.Text.Quoted

/-!
# Default values

The expression that a factory uses for a field when its caller gives none.

Without randomization the expression depends on the parameter alone.  With it, values are drawn
from a random source; a parameter that fails keeps the draws it has made.

A nullable parameter is decided first: a randomized one is `None` if a fair coin says so.
Otherwise its value is wrapped in `Some`, unless it comes from an adapter that supplies the option
itself.
-/

namespace FixtureFactory

/-- A computation that draws from a random source and may fail. -/
abbrev Build (α : Type) := ExceptT FixtureError Draw α

namespace DefaultValue

/-- The characters of random texts. -/
def allowedChars : List Char :=
  "ABCDEFGHIJKLMNOPQRSTUVWXYZabcdefghijklmnopqrstuvwxyz0123456789".toList

/-- The zones that random zone identifiers are taken from. -/
def zones : List String :=
  ["UTC", "Europe__Athens", "Europe__London", "America__New_York", "America__Sao_Paulo",
   "Asia__Tokyo", "Australia__Sydney"]

/-- The start of the epoch as a date of universal time. -/
def epoch : String := "::chrono::DateTime::<::chrono::Utc>::from_timestamp(0, 0).unwrap()"

/-- A random character. -/
def randomChar : Draw Char := return (← Draw.choose allowedChars).getD 'A'

/-- A random text of one to ten characters. -/
def randomText : Draw String := do
  let length ← Draw.below 10
  return String.ofList (← Draw.times randomChar (length + 1))

/-- A random number of single precision below one. -/
def randomSingle : Draw String := do
  let w ← Draw.word
  return (Decimal.single.shortest (Decimal.single.round (w >>> 8) (1 <<< 24))).general

/-- A random number of double precision below twenty. -/
def randomDouble : Draw String := do
  let w ← Draw.doubleWord
  let fraction := w >>> 12
  return (Decimal.double.shortest (Decimal.double.round (20 * fraction) (1 <<< 52))).general

/-- The text of a random number below `n`. -/
def randomNumber (n : Nat) : Draw String := return toString (← Draw.below n)

/-- The field's name as the user reads it, without the mark of a raw identifier. -/
def plainName (name : String) : String :=
  if startsWith "r#" name then String.ofList (name.toList.drop 2) else name

/-- The fixed value of a primitive. -/
def primitive (name : String) (type : TypeRef) : Primitive → String
  | .string => "String::from(" ++ quoted (plainName name) ++ ")"
  | .char => quotedChar 'A'
  | .boolean => "false"
  | .int => "0"
  | .long => "0_" ++ type.simpleName
  | .float => "0.0_f32"
  | .double => "0.0"

/-- A random value of a primitive. -/
def randomPrimitive (type : TypeRef) : Primitive → Draw String
  | .string => return "String::from(" ++ quoted (← randomText) ++ ")"
  | .char => return quotedChar (← randomChar)
  | .boolean => return if ← Draw.coin then "true" else "false"
  | .int => randomNumber 20
  | .long => return (← randomNumber 20) ++ "_" ++ type.simpleName
  | .float => return (← randomSingle) ++ "_f32"
  | .double => randomDouble

/-- The fixed value of a well-known type. -/
def knownType : KnownType → String
  | .date => "::std::time::SystemTime::UNIX_EPOCH"
  | .timeZone => "::chrono::FixedOffset::east_opt(0).unwrap()"
  | .uuid => "::uuid::Uuid::nil()"
  | .localDate => "::chrono::NaiveDate::from_ymd_opt(1989, 1, 23).unwrap()"
  | .localTime => "::chrono::NaiveTime::MIN"
  | .localDateTime =>
      "::chrono::NaiveDate::from_ymd_opt(1989, 1, 23).unwrap().and_hms_opt(0, 0, 0).unwrap()"
  | .zonedDateTime =>
      "::chrono::TimeZone::with_ymd_and_hms(&::chrono_tz::Tz::UTC, 1989, 1, 23, 0, 0, 0).unwrap()"
  | .instant => epoch
  | .offsetTime => "::chrono::TimeDelta::zero()"
  | .stdDuration => "::std::time::Duration::ZERO"
  | .offsetDateTime => epoch ++ ".fixed_offset()"
  | .zoneId => "::chrono_tz::Tz::UTC"
  | .bigDecimal => "::bigdecimal::BigDecimal::from(0)"
  | .bigInteger => "::num_bigint::BigInt::from(0)"

/-- The seconds of a whole number of hours from twelve west to fourteen east. -/
def offsetSeconds (choice : Nat) : Int := ((choice : Int) - 12) * 3600

/-- A random value of a well-known type. -/
def randomKnownType : KnownType → Draw String
  | .date => return "::std::time::SystemTime::now()"
  | .timeZone => do
      let choice ← Draw.below 27
      return s!"::chrono::FixedOffset::east_opt({offsetSeconds choice}).unwrap()"
  | .uuid => return "::uuid::Uuid::new_v4()"
  | .localDate => return "::chrono::Local::now().date_naive()"
  | .localTime => return "::chrono::Local::now().time()"
  | .localDateTime => return "::chrono::Local::now().naive_local()"
  | .zonedDateTime => return "::chrono::Utc::now().with_timezone(&::chrono_tz::Tz::UTC)"
  | .instant => return "::chrono::Utc::now()"
  | .offsetTime => return "::chrono::TimeDelta::seconds(" ++ (← randomNumber 86400) ++ ")"
  | .stdDuration =>
      return "::std::time::Duration::from_secs(" ++ (← randomNumber 86400) ++ ")"
  | .offsetDateTime => return "::chrono::Local::now().fixed_offset()"
  | .zoneId => return "::chrono_tz::Tz::" ++ ((← Draw.choose zones).getD "UTC")
  | .bigDecimal =>
      return "<::bigdecimal::BigDecimal as ::std::str::FromStr>::from_str(\"" ++
        (← randomDouble) ++ "\").unwrap()"
  | .bigInteger => return "::num_bigint::BigInt::from(" ++ (← randomNumber 20) ++ ")"

/-- An entry of a list: the first one, or a random one. -/
def pick {α : Type} (randomize : Bool) (entries : List α) (type : TypeRef) (field : String) :
    Build α := do
  let entry ← if randomize then Draw.choose entries else pure entries.head?
  match entry with
  | some e => return e
  | none => throw (.emptyVariants type.path field)

/-- The value of an entry of a sealed type. -/
def sealedValue (type : TypeRef) (field : String) (entry : SealedEntry) :
    Except FixtureError String :=
  if entry.isSingleton then .ok (type.path ++ "::" ++ entry.name)
  else match entry.factory, entry.isFixture with
    | some factory, true => .ok (type.path ++ "::" ++ entry.name ++ "(" ++ factory.call ++ ")")
    | _, _ => .error (.sealedCaseNotFixture type.path entry.name field)

/-- The value of a collection. -/
def collection (type : TypeRef) : Collection → String
  | .array => "Box::default()"
  | _ => type.path ++ "::new()"

/-- The value of a parameter, and whether it is an option already. -/
def value (randomize : Bool) (adapters : AdapterRegistry) (p : Parameter) :
    Build (String × Bool) :=
  match p.kind with
  | .primitive kind => do
      if randomize then return (← randomPrimitive p.type kind, false)
      else return (primitive p.name p.type kind, false)
  | .knownType kind => do
      if randomize then return (← randomKnownType kind, false)
      else return (knownType kind, false)
  | .fixture factory => return (factory.call, false)
  | .enumeration entries => do
      let entry ← pick randomize entries p.type p.name
      return (p.type.path ++ "::" ++ entry, false)
  | .sealed entries => do
      let entry ← pick randomize entries p.type p.name
      match sealedValue p.type p.name entry with
      | .ok text => return (text, false)
      | .error e => throw e
  | .collection kind _ => return (collection p.type kind, false)
  | .adapterSupplied =>
      match adapters.find? p.type with
      | some a => return (a.call, a.target.nullable)
      | none => throw (.missingAdapter p.type.renderRequired p.name)

/-- The coin of a parameter: heads stands for `None`. -/
def absent (randomize : Bool) (type : TypeRef) : Draw Bool :=
  if type.nullable && randomize then Draw.coin else pure false

/-- A value with the option layer of its type. -/
def wrap (type : TypeRef) (text : String) (alreadyOptional : Bool) : String :=
  if type.nullable && !alreadyOptional then "Some(" ++ text ++ ")" else text

/-- The default value of a parameter. -/
def generate (randomize : Bool) (adapters : AdapterRegistry) (p : Parameter) : Build String := do
  if ← absent randomize p.type then return "None"
  let (text, alreadyOptional) ← value randomize adapters p
  return wrap p.type text alreadyOptional

end DefaultValue
end FixtureFactory
