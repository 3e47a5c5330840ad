import FixtureFactory.Host
import FixtureFactory.Naming
import FixtureFactory.Scope
import FixtureFactory.Source.Reading

/-!
# The index of a set of sources

Reads source files and answers the questions of a declaration host about them.  All files are read
before anything is indexed.  Then every module's scope is recorded, and only then are the
declarations collected, since a type may be written before the file that declares it comes up.

The index keeps declarations in the order of the files, and in a file in the order of the text;
the items of an inline module stand where the module does.  Declarations of one qualified name are
all kept.  A type refers to the last of them, and so do the questions about fields and cases.
-/

namespace FixtureFactory

/-- A source file, by its path below the source root. -/
structure SourceFile where
  path : String
  content : String
  deriving Inhabited, DecidableEq, Repr

/-- A file that cannot be read as a source, and where the first thing stands that cannot be read.
What the reader has to say about it is not kept. -/
structure ParseFailure where
  path : String
  position : Source.Position
  deriving Inhabited, DecidableEq, Repr

/-- The place of a failure. -/
def ParseFailure.location (f : ParseFailure) : Location :=
  ⟨f.path, f.position.line, f.position.column⟩

/-- A source file as a list of items. -/
structure ParsedFile where
  path : String
  items : List Source.Item
  deriving Inhabited, Repr

/-- Reads a file. -/
def SourceFile.parse (f : SourceFile) : Except ParseFailure ParsedFile :=
  match Source.readItems f.content with
  | .ok items => .ok ⟨f.path, items⟩
  | .error position => .error ⟨f.path, position⟩

/-- Reads files up to the first that fails. -/
def parseFiles (files : List SourceFile) : Except ParseFailure (List ParsedFile) :=
  files.mapM SourceFile.parse

/-! ## Modules of files -/

/-- The path of the root module. -/
def rootModule : String := "crate"

/-- The segments of a file's module below the root.  A file named `mod` stands for its directory,
and a file named `lib` or `main` stands for the root if it is in no directory. -/
def moduleSegments (path : String) : List String :=
  let stem := Text.dropEnding ['.', 'r', 's'] path.toList
  let segments := ((Text.splitWhere (· == '/') stem).filter (!·.isEmpty)).map String.ofList
  match segments.getLast? with
  | some "mod" => segments.dropLast
  | some "lib" | some "main" => if segments.length == 1 then [] else segments
  | _ => segments

/-- The path of a file's module. -/
def modulePathOf (path : String) : String :=
  joinPath (rootModule :: moduleSegments path)

/-! ## Scopes -/

mutual

/-- Records what an item adds to the scope of its module. -/
def declareItem (module : String) : Source.Item → ScopeTable → ScopeTable
  | .record _ name _, t => t.declareType module name.text
  | .enumeration _ name _, t => t.declareType module name.text
  | .union _ name, t => t.declareType module name.text
  | .typeAlias name, t => t.declareType module name
  | .use tree, t => t.addUse module tree
  | .module name items, t =>
      declareItems (ScopeTable.memberPath module name) items (t.declareModule module name)
  | .function _, t => t
  | .implementation _ _, t => t
  | .other, t => t

/-- Records what items add to the scope of their module, in order. -/
def declareItems (module : String) : List Source.Item → ScopeTable → ScopeTable
  | [], t => t
  | item :: items, t => declareItems module items (declareItem module item t)

end

/-- Records the module of a file, in its parent as well, and its items. -/
def declareFile (file : ParsedFile) (t : ScopeTable) : ScopeTable :=
  let module := modulePathOf file.path
  let t := match splitLast? module with
    | some (parent, name) => t.declareModule parent name
    | none => t
  declareItems module file.items t

/-- The scopes of all modules of some files. -/
def scopesOf (files : List ParsedFile) : ScopeTable :=
  files.foldl (fun t file => declareFile file t) .empty

/-! ## Declarations -/

/-- The module whose name may stand before that of a marker. -/
def markerModule : String := "fixturegen"

/-- The marker that an attribute is. -/
def markerOf (a : Source.Attribute) : Option Marker :=
  let named (name : String) : Option Marker :=
    [Marker.fixture, .fixtureAdapter].find? fun m => m.attributeName == name
  match a.path with
  | [name] => named name
  | [module, name] => if module == markerModule then named name else none
  | _ => none

/-- The markers among attributes, in order. -/
def markersOf (attributes : List Source.Attribute) : List Marker :=
  attributes.filterMap markerOf

/-- **Which attributes are markers**: those whose path is the name of a marker, on its own or behind
the one module whose name may stand before it. -/
theorem markerOf_eq_some_iff {a : Source.Attribute} {m : Marker} :
    markerOf a = some m ↔
      a.path = [m.attributeName] ∨ a.path = ["fixturegen", m.attributeName] := by
  have hnamed (name : String) :
      ([Marker.fixture, .fixtureAdapter].find? fun m => m.attributeName == name) = some m ↔
        name = m.attributeName := by
    constructor
    · intro h
      have hfound := List.find?_some h
      exact (eq_of_beq hfound).symm
    · rintro rfl
      cases m <;> rfl
  obtain ⟨path⟩ := a
  match path with
  | [] => simp [markerOf]
  | [name] =>
      refine (hnamed name).trans ?_
      simp
  | [module, name] =>
      by_cases hmodule : module = "fixturegen"
      · subst hmodule
        refine (hnamed name).trans ?_
        simp
      · have hnone : markerOf ⟨[module, name]⟩ = none := if_neg (mt eq_of_beq hmodule)
        simp [hnone, hmodule]
  | _ :: _ :: _ :: _ => simp [markerOf]

theorem mem_markersOf_iff {attributes : List Source.Attribute} {m : Marker} :
    m ∈ markersOf attributes ↔
      ∃ a ∈ attributes, a.path = [m.attributeName] ∨ a.path = ["fixturegen", m.attributeName] := by
  simp only [markersOf, List.mem_filterMap, markerOf_eq_some_iff]

/-- Where an item stands. -/
structure ItemContext where
  unit : Nat
  /-- The path of the file. -/
  path : String
  module : String
  /-- The inline modules around the item. -/
  enclosing : List String

namespace ItemContext

/-- The context of the items of an inline module. -/
def within (c : ItemContext) (name : String) : ItemContext :=
  { c with
    module := ScopeTable.memberPath c.module name, enclosing := c.enclosing ++ [name] }

/-- The place of a name. -/
def locate (c : ItemContext) (name : Source.Name) : Location :=
  ⟨c.path, name.position.line, name.position.column⟩

/-- The declaration of a type. -/
def declaration (c : ItemContext) (attributes : List Source.Attribute) (name : Source.Name)
    (kind : DeclarationKind) : TypeDeclaration where
  unit := c.unit
  qualifiedName := ScopeTable.memberPath c.module name.text
  simpleName := name.text
  enclosing := c.enclosing
  kind := kind
  markers := markersOf attributes
  location := c.locate name

end ItemContext

/-- A declared type with what is written in its body: fields for a record, cases for an
enumeration. -/
structure IndexedType where
  declaration : TypeDeclaration
  fields : Option (List Field)
  cases : Option (List CaseDeclaration)
  deriving Inhabited, Repr

/-- The kind of a struct. -/
def kindOfFields : Source.Fields → DeclarationKind
  | .named _ => .record
  | .unnamed _ => .tupleStruct
  | .unit => .unitStruct

/-- The fields of a struct, if they have names. -/
def fieldsOf (t : ScopeTable) (module : String) : Source.Fields → Option (List Field)
  | .named fields => some (fields.map fun (name, type) => ⟨name, t.resolveType module type⟩)
  | _ => none

/-- Whether a case carries nothing. -/
def isPlainCase (v : Source.Variant) : Bool :=
  match v.fields with
  | .unit => true
  | _ => false

/-- The kind of an enumeration. -/
def kindOfVariants (variants : List Source.Variant) : DeclarationKind :=
  if variants.all isPlainCase then .enumeration else .sealed

/-- A case of an enumeration as a declaration. -/
def caseOf (t : ScopeTable) (module : String) (v : Source.Variant) : CaseDeclaration :=
  match v.fields with
  | .unit => ⟨v.name, .unit⟩
  | .unnamed [type] => ⟨v.name, .wrapping (t.resolveType module type)⟩
  | _ => ⟨v.name, .fields⟩

/-- The result of a function; the type without values is none. -/
def resultOf (t : ScopeTable) (module : String) : Option Source.TypeTerm → Option TypeRef
  | none => none
  | some .unit => none
  | some type => some (t.resolveType module type)

/-- A function as a declaration. -/
def functionOf (t : ScopeTable) (c : ItemContext) (scope : String) (associated : Bool)
    (f : Source.Function) : FunctionDeclaration where
  unit := c.unit
  scope := scope
  name := f.name.text
  parameterCount := f.parameterCount
  returnType := resultOf t c.module f.result
  markers := markersOf f.attributes
  location := c.locate f.name
  associated := associated

mutual

/-- The types that an item declares. -/
def typesOfItem (t : ScopeTable) (c : ItemContext) : Source.Item → List IndexedType
  | .record attributes name fields =>
      [⟨c.declaration attributes name (kindOfFields fields), fieldsOf t c.module fields, none⟩]
  | .enumeration attributes name variants =>
      [⟨c.declaration attributes name (kindOfVariants variants), none,
        some (variants.map (caseOf t c.module))⟩]
  | .union attributes name => [⟨c.declaration attributes name .union, none, none⟩]
  | .module name items => typesOfItems t (c.within name) items
  | .typeAlias _ => []
  | .use _ => []
  | .function _ => []
  | .implementation _ _ => []
  | .other => []

/-- The types that items declare. -/
def typesOfItems (t : ScopeTable) (c : ItemContext) : List Source.Item → List IndexedType
  | [] => []
  | item :: items => typesOfItem t c item ++ typesOfItems t c items

end

mutual

/-- The functions that an item declares.  Those of a type count only when they are marked. -/
def functionsOfItem (t : ScopeTable) (c : ItemContext) :
    Source.Item → List FunctionDeclaration
  | .function f => [functionOf t c c.module false f]
  | .implementation selfType functions =>
      (functions.filter fun f => !(markersOf f.attributes).isEmpty).map
        (functionOf t c (t.resolveType c.module selfType).render true)
  | .module name items => functionsOfItems t (c.within name) items
  | .record _ _ _ => []
  | .enumeration _ _ _ => []
  | .union _ _ => []
  | .typeAlias _ => []
  | .use _ => []
  | .other => []

/-- The functions that items declare. -/
def functionsOfItems (t : ScopeTable) (c : ItemContext) :
    List Source.Item → List FunctionDeclaration
  | [] => []
  | item :: items => functionsOfItem t c item ++ functionsOfItems t c items

end

/-! ## The index -/

/-- What is declared in a set of sources. -/
structure SourceIndex where
  units : List SourceUnit
  types : List IndexedType
  functions : List FunctionDeclaration
  deriving Inhabited, Repr

/-- The unit of a file. -/
def unitOf (id : Nat) (file : ParsedFile) : SourceUnit :=
  ⟨id, file.path, unitBaseName file.path, modulePathOf file.path⟩

/-- The context of the items of a file. -/
def contextOf (id : Nat) (file : ParsedFile) : ItemContext :=
  ⟨id, file.path, modulePathOf file.path, []⟩

namespace SourceIndex

/-- The index of parsed files, which are numbered in their order. -/
def ofFiles (files : List ParsedFile) : SourceIndex :=
  let t := scopesOf files
  let numbered := files.zipIdx
  { units := numbered.map fun (file, id) => unitOf id file
    types := numbered.flatMap fun (file, id) => typesOfItems t (contextOf id file) file.items
    functions :=
      numbered.flatMap fun (file, id) => functionsOfItems t (contextOf id file) file.items }

/-- The index of source files. -/
def ofSources (files : List SourceFile) : Except ParseFailure SourceIndex :=
  (parseFiles files).map ofFiles

/-- The last answer that the types of a qualified name give to a question. -/
def lastOf {α : Type} (index : SourceIndex) (name : String) (ask : IndexedType → Option α) :
    Option α :=
  (index.types.filterMap fun t =>
    if t.declaration.qualifiedName == name then ask t else none).getLast?

/-- All declared types. -/
def declarations (index : SourceIndex) : List TypeDeclaration :=
  index.types.map IndexedType.declaration

/-- The index as a declaration host. -/
def toHost (index : SourceIndex) : Host where
  units := index.units
  markedFunctions m := index.functions.filter fun f => f.markers.contains m
  markedTypes m := index.declarations.filter fun d => d.hasMarker m
  resolve type := index.lastOf type.path fun t => some t.declaration
  fields d := (index.lastOf d.qualifiedName IndexedType.fields).getD []
  cases d := (index.lastOf d.qualifiedName IndexedType.cases).getD []

end SourceIndex
end FixtureFactory
