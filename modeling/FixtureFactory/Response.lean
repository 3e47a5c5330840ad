import FixtureFactory.Json
import FixtureFactory.Pipeline
import FixtureFactory.Rendering

/-!
# Responses

What the command line answers, as documents with a fixed order of keys.  A member that does not
apply is left out rather than empty, and every response opens with its status and the version of
the layout.
-/

namespace FixtureFactory

/-- The version of the layout of responses. -/
def schemaVersion : String := "1"

/-- A location as a document. -/
def Location.toJson (l : Location) : Json :=
  .object [("file", .string l.file), ("line", .number l.line), ("col", .number l.column)]

/-! ## Errors -/

/-- What is reported of an error. -/
structure ErrorInfo where
  code : Nat
  message : String
  details : Option Json
  location : Option Location
  deriving Inhabited, Repr

/-- The details of an error, by their keys in alphabetical order. -/
def FixtureError.details? : FixtureError → Option Json
  | unsupportedType type field fixture =>
      some (.object [("field", .string field), ("fixture", .string fixture),
        ("type", .string type)])
  | unsupportedCollection type field fixture =>
      some (.object [("field", .string field), ("fixture", .string fixture),
        ("type", .string type)])
  | sealedCaseNotFixture sealedType caseName field =>
      some (.object [("case", .string caseName), ("field", .string field),
        ("type", .string sealedType)])
  | unitNameCollision unit first second =>
      some (.object [("sources", .strings [first, second]), ("unit", .string unit)])
  | factoryNameCollision name unit first second =>
      some (.object [("fixtures", .strings [first, second]), ("name", .string name),
        ("unit", .string unit)])
  | invalidOption key value _ =>
      some (.object [("key", .string key), ("value", .string value)])
  | _ => none

namespace ErrorInfo

/-- What is reported of an error of the engine. -/
def ofError (e : FixtureError) : ErrorInfo :=
  ⟨e.exitCode.number, e.message, e.details?, e.location?⟩

/-- The members of the report. -/
def members (info : ErrorInfo) : List (String × Json) :=
  [("code", .number info.code), ("message", .string info.message)]
    ++ Json.optional "details" info.details
    ++ Json.optional "location" (info.location.map Location.toJson)

/-- The response that carries the report. -/
def response (info : ErrorInfo) : Json :=
  .object [("status", .string "error"), ("schema_version", .string schemaVersion),
    ("error", .object info.members)]

end ErrorInfo

/-! ## Options -/

/-- The name of a layer. -/
def OptionSource.name : OptionSource → String
  | .default => "default"
  | .projectConfig => "project_config"
  | .envVar => "env_var"
  | .option => "option"

/-- A value with its layer as a document. -/
def Setting.toJson {α : Type} (encode : α → Json) (s : Setting α) : Json :=
  .object [("value", encode s.value), ("source", .string s.source.name)]

/-- Options as a document. -/
def Options.toJson (o : Options) : Json :=
  .object <|
    [("run", o.run.toJson .bool), ("randomize", o.randomize.toJson .bool)]
      ++ Json.optional "seed" (o.seed.map (Setting.toJson .number))
      ++ [("module", o.modulePath.toJson .string)]

/-! ## Generated units -/

/-- What is reported of a generated unit. -/
structure UnitInfo where
  name : String
  source : String
  /-- The path of the generated file. -/
  path : String
  factories : List String
  deriving Inhabited, DecidableEq, Repr

/-- A generated unit as a document. -/
def UnitInfo.toJson (u : UnitInfo) : Json :=
  .object [("name", .string u.name), ("source", .string u.source), ("path", .string u.path),
    ("factories", .strings u.factories)]

/-- The response to a request to generate. -/
structure GenerateResponse where
  dryRun : Bool
  skipped : Bool
  options : Options
  units : List UnitInfo
  filesWritten : List String
  deriving Inhabited, Repr

/-- The response as a document. -/
def GenerateResponse.toJson (r : GenerateResponse) : Json :=
  .object [("status", .string "ok"), ("schema_version", .string schemaVersion),
    ("dry_run", .bool r.dryRun), ("skipped", .bool r.skipped), ("options", r.options.toJson),
    ("units", .array (r.units.map UnitInfo.toJson)),
    ("files_written", .strings r.filesWritten)]

/-! ## Listings -/

/-- What is listed of an adapter. -/
structure AdapterInfo where
  function : String
  target : String
  location : Location
  deriving Inhabited, DecidableEq, Repr

/-- What is listed of a field. -/
structure ParameterInfo where
  name : String
  tag : String
  type : String
  deriving Inhabited, DecidableEq, Repr

/-- What is listed of a fixture. -/
structure FixtureInfo where
  name : String
  factory : String
  location : Location
  parameters : List ParameterInfo
  deriving Inhabited, DecidableEq, Repr

/-- The response to a request to list. -/
structure ListResponse where
  adapters : List AdapterInfo
  fixtures : List FixtureInfo
  deriving Inhabited, DecidableEq, Repr

/-- The listing of an adapter. -/
def AdapterInfo.of (a : Adapter) : AdapterInfo := ⟨a.path, a.target.render, a.location⟩

/-- The listing of a field. -/
def ParameterInfo.of (p : Parameter) : ParameterInfo := ⟨p.name, p.kind.tag, p.type.render⟩

/-- The listing of a fixture whose factory is given. -/
def FixtureInfo.of (factory : Fixture → String) (f : Fixture) : FixtureInfo :=
  ⟨f.qualifiedName, factory f, f.location, f.parameters.map ParameterInfo.of⟩

/-- The listing of two registries. -/
def ListResponse.ofRegistries (adapters : AdapterRegistry) (fixtures : FixtureRegistry)
    (factory : Fixture → String) : ListResponse :=
  ⟨adapters.toList.map AdapterInfo.of, fixtures.toList.map (FixtureInfo.of factory)⟩

/-- The listing as a document. -/
def ListResponse.toJson (r : ListResponse) : Json :=
  .object [("status", .string "ok"), ("schema_version", .string schemaVersion),
    ("adapters", .array (r.adapters.map fun a =>
      .object [("function", .string a.function), ("target", .string a.target),
        ("location", a.location.toJson)])),
    ("fixtures", .array (r.fixtures.map fun f =>
      .object [("name", .string f.name), ("factory", .string f.factory),
        ("location", f.location.toJson),
        ("parameters", .array (f.parameters.map fun p =>
          .object [("name", .string p.name), ("tag", .string p.tag),
            ("type", .string p.type)]))]))]

/-- The text that is printed for a response. -/
def responseText (document : Json) : String := document.pretty ++ "\n"

end FixtureFactory
