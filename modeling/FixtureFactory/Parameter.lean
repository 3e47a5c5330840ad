import FixtureFactory.TypeRef
import FixtureFactory.Naming

/-!
# Parameters

A field of a fixture after classification.  The class of a field decides how its default value is
made, and the allow-lists in this module decide the class of a type that no declaration speaks
for.  All of them go by the simple name of the type; a well-known date with a zone also looks at
the zone, and a duration at the crate that it comes from.
-/

namespace FixtureFactory

/-- Primitive types. -/
inductive Primitive where
  | string
  | char
  | boolean
  /-- Integers of at most 32 bits. -/
  | int
  /-- Wider integers and those of pointer size. -/
  | long
  | float
  | double
  deriving Inhabited, DecidableEq, Repr

/-- The primitive of a type, by its simple name. -/
def Primitive.of? (t : TypeRef) : Option Primitive :=
  let name := t.simpleName
  if name == "String" then some .string
  else if name == "char" then some .char
  else if name == "bool" then some .boolean
  else if ["i8", "i16", "i32", "u8", "u16", "u32"].contains name then some .int
  else if ["i64", "u64", "i128", "u128", "isize", "usize"].contains name then some .long
  else if name == "f32" then some .float
  else if name == "f64" then some .double
  else none

/-- Well-known library types, each with a construction of its own. -/
inductive KnownType where
  | date
  | timeZone
  | uuid
  | localDate
  | localTime
  | localDateTime
  | zonedDateTime
  | instant
  | offsetTime
  | stdDuration
  | offsetDateTime
  | zoneId
  | bigDecimal
  | bigInteger
  deriving Inhabited, DecidableEq, Repr

namespace KnownType

/-- The kind of a date with a zone, by the simple name of the zone. -/
def ofZone? (zone : String) : Option KnownType :=
  if zone == "Tz" then some zonedDateTime
  else if zone == "Utc" then some instant
  else if zone == "FixedOffset" then some offsetDateTime
  else none

/-- The well-known kind of a type. -/
def of? (t : TypeRef) : Option KnownType :=
  let name := t.simpleName
  if name == "SystemTime" then some date
  else if name == "FixedOffset" then some timeZone
  else if name == "Uuid" then some uuid
  else if name == "NaiveDate" then some localDate
  else if name == "NaiveTime" then some localTime
  else if name == "NaiveDateTime" then some localDateTime
  else if name == "DateTime" then t.args.head?.bind fun zone => ofZone? zone.simpleName
  else if name == "TimeDelta" then some offsetTime
  else if name == "Duration" then
    if startsWith "chrono::" t.path then some offsetTime else some stdDuration
  else if name == "Tz" then some zoneId
  else if name == "BigDecimal" then some bigDecimal
  else if name == "BigInt" then some bigInteger
  else none

end KnownType

/-- Supported collections. -/
inductive Collection where
  /-- A boxed slice. -/
  | array
  | list
  | set
  | map
  deriving Inhabited, DecidableEq, Repr

/-- The collection kind of a type. -/
def Collection.of? (t : TypeRef) : Option Collection :=
  let name := t.simpleName
  if name == "Box" && t.args.head?.any TypeRef.isSlice then some .array
  else if ["Vec", "VecDeque", "LinkedList"].contains name then some .list
  else if ["HashSet", "BTreeSet"].contains name then some .set
  else if ["HashMap", "BTreeMap"].contains name then some .map
  else none

/-- Whether a type looks like a container, supported or not. -/
def TypeRef.isContainerLike (t : TypeRef) : Bool :=
  t.isSlice || startsWith "[" t.path || startsWith "collections::" t.path
    || containsText "::collections::" t.path
    || ["BinaryHeap", "IndexMap", "IndexSet", "SmallVec", "ArrayVec"].contains t.simpleName

/-- A case of a sealed type, as far as its default value is concerned. -/
structure SealedEntry where
  name : String
  /-- The case carries nothing. -/
  isSingleton : Bool
  /-- The case wraps a fixture. -/
  isFixture : Bool
  /-- The factory of the wrapped fixture. -/
  factory : Option FactoryRef
  deriving Inhabited, DecidableEq, Repr

/-- What a field is classified as. -/
inductive ParameterKind where
  | primitive (kind : Primitive)
  | knownType (kind : KnownType)
  | fixture (factory : FactoryRef)
  | enumeration (entries : List String)
  | sealed (entries : List SealedEntry)
  | collection (kind : Collection) (elements : List TypeRef)
  | adapterSupplied
  deriving Inhabited, Repr

/-- The name of a parameter kind. -/
def ParameterKind.tag : ParameterKind → String
  | primitive _ => "primitive"
  | knownType _ => "known_type"
  | fixture _ => "fixture"
  | enumeration _ => "enum"
  | sealed _ => "sealed"
  | collection .. => "collection"
  | adapterSupplied => "adapter_supplied"

/-- A classified field. -/
structure Parameter where
  name : String
  type : TypeRef
  kind : ParameterKind
  deriving Inhabited, Repr

end FixtureFactory
