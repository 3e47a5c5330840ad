import FixtureFactory.Proofs.ClearPaths
import FixtureFactory.Proofs.Failures

/-!
# What adapters return

A field gets its adapter by a text.  The type that is written for the field is resolved and
rendered, and so is the type that is written for the result of the adapter; if the texts are the
same, the adapter serves the field.  So adapters serve the types that they return as long as neither
the resolution nor the rendering makes one type of two.

The rendering makes one of two only where a path holds a bracket or a comma, and no path of sources
does.  The resolution is what loses something: of options directly in one another it keeps one, of
the arguments of a path it keeps those that are types, and only those of the last segment, and a
type without a path it takes as it stands, whatever the module makes of the names in it.  Types in
which there is nothing of that kind are told apart.

* `writtenFields`, `writtenAdapters`: what is written in the sources for fields and for adapters.
* `ScopeTable.isLegible_writtenType`: structured types with clear paths are legible.
* `AdapterRegistry.toWritten_of_find?`: an adapter that is found by text has the type that is looked
  for, up to an option.
* `Pipeline.serves_returned_type`: so the type of a field and that of its adapter are written alike.
* `Pipeline.serves_other_array`: types that differ in a constant are served by one adapter.
-/

namespace FixtureFactory

open Source (TypeTerm Argument)

/-! ## What is written in sources -/

/-- The type of a field, where it is written. -/
structure WrittenField where
  /-- The qualified name of the record. -/
  record : String
  name : String
  module : String
  term : TypeTerm

/-- A function that is marked as an adapter, and the type of its result, where it is written. -/
structure WrittenAdapter where
  module : String
  function : String
  location : Location
  result : TypeTerm

namespace WrittenField

/-- The type of a field with absolute paths. -/
def type (t : ScopeTable) (w : WrittenField) : WrittenType := t.writtenType w.module w.term

/-- Whether a parameter of a record stands for a field: it has the name of the field and the type
that the written one is resolved to. -/
structure IsFor (t : ScopeTable) (w : WrittenField) (record : String) (q : Parameter) : Prop where
  record : w.record = record
  name : w.name = q.name
  type : t.resolveType w.module w.term = q.type

end WrittenField

namespace WrittenAdapter

/-- The type of the result with absolute paths. -/
def type (t : ScopeTable) (v : WrittenAdapter) : WrittenType := t.writtenType v.module v.result

/-- The adapter that is written. -/
def toAdapter (t : ScopeTable) (v : WrittenAdapter) : Adapter :=
  ⟨v.module, v.function, t.resolveType v.module v.result, v.location⟩

end WrittenAdapter

namespace PlacedItem

/-- The fields that an item declares. -/
def writtenFields (p : PlacedItem) : List WrittenField :=
  match p.item with
  | .record _ name (.named fields) => fields.map fun (field, term) =>
      ⟨ScopeTable.memberPath p.context.module name.text, field, p.context.module, term⟩
  | _ => []

/-- The adapter that an item is, if it is a marked function with a result. -/
def writtenAdapter? (p : PlacedItem) : Option WrittenAdapter :=
  match p.item with
  | .function f =>
      if (markersOf f.attributes).contains .fixtureAdapter then
        f.result.map fun result => ⟨p.context.module, f.name.text, p.context.locate f.name, result⟩
      else none
  | _ => none

end PlacedItem

/-- The fields that some files declare. -/
def writtenFields (files : List ParsedFile) : List WrittenField :=
  (placedItems files).flatMap PlacedItem.writtenFields

/-- The adapters that some files declare. -/
def writtenAdapters (files : List ParsedFile) : List WrittenAdapter :=
  (placedItems files).filterMap PlacedItem.writtenAdapter?

/-- Whether a value of one type can be given for a field of another: the types are the same, or the
field is an option of the other. -/
def WrittenType.IsServedBy (declared returned : WrittenType) : Prop :=
  declared = returned ∨ declared = .option returned

/-! ## From the index back to the sources -/

section Origins

variable {t : ScopeTable} {p : PlacedItem} {files : List ParsedFile}

/-- A field of an indexed type is one that its item declares. -/
theorem PlacedItem.exists_writtenField {e : IndexedType} (h : p.type? t = some e)
    {fields : List Field} (hfields : e.fields = some fields) {field : Field}
    (hfield : field ∈ fields) :
    ∃ w ∈ p.writtenFields, w.record = e.declaration.qualifiedName ∧ w.name = field.name ∧
      t.resolveType w.module w.term = field.type := by
  obtain ⟨c, item⟩ := p
  cases item with
  | record attributes name shape =>
      cases h
      cases shape with
      | named written =>
          cases hfields
          obtain ⟨⟨fieldName, term⟩, hwritten, rfl⟩ := List.mem_map.mp hfield
          exact ⟨_, List.mem_map_of_mem hwritten, rfl, rfl, rfl⟩
      | unnamed types => cases hfields
      | unit => cases hfields
  | enumeration attributes name variants =>
      cases h
      cases hfields
  | union attributes name =>
      cases h
      cases hfields
  | _ => cases h

/-- **A field that the host gives for a record** is written in some record of that name. -/
theorem SourceIndex.exists_writtenField {d : TypeDeclaration} {field : Field}
    (h : field ∈ (ofFiles files).toHost.fields d) :
    ∃ w ∈ writtenFields files, w.record = d.qualifiedName ∧ w.name = field.name ∧
      (scopesOf files).resolveType w.module w.term = field.type := by
  have hfields : field ∈ ((ofFiles files).lastOf d.qualifiedName IndexedType.fields).getD [] := h
  cases hlast : (ofFiles files).lastOf d.qualifiedName IndexedType.fields with
  | none =>
      rw [hlast] at hfields
      exact absurd hfields List.not_mem_nil
  | some fields =>
      rw [hlast] at hfields
      obtain ⟨e, he, hname, hask⟩ := exists_of_lastOf_eq_some hlast
      rw [types_ofFiles] at he
      obtain ⟨p, hp, htype⟩ := List.mem_filterMap.mp he
      obtain ⟨w, hw, hrecord, hwritten⟩ := PlacedItem.exists_writtenField htype hask hfields
      exact ⟨w, List.mem_flatMap.mpr ⟨p, hp, hw⟩, hrecord.trans hname, hwritten⟩

/-- **A function that is accepted as an adapter** is not associated and has a result. -/
theorem of_adapterOf_eq_ok {f : FunctionDeclaration} {a : Adapter} (h : adapterOf f = .ok a) :
    f.associated = false ∧
      ∃ target, f.returnType = some target ∧ a = ⟨f.scope, f.name, target, f.location⟩ := by
  rw [adapterOf, adapterTarget] at h
  cases hassociated : f.associated with
  | true =>
      rw [hassociated] at h
      cases h
  | false =>
      rw [hassociated, if_neg Bool.false_ne_true] at h
      refine ⟨rfl, ?_⟩
      by_cases hparameters : f.parameterCount > 0
      · rw [if_pos hparameters] at h
        cases h
      · rw [if_neg hparameters] at h
        cases hreturn : f.returnType with
        | none =>
            rw [hreturn] at h
            cases h
        | some target =>
            rw [hreturn] at h
            exact ⟨target, rfl, (Except.ok.inj h).symm⟩

theorem exists_of_resultOf {module : String} {written : Option TypeTerm} {target : TypeRef}
    (h : resultOf t module written = some target) :
    ∃ term, written = some term ∧ t.resolveType module term = target := by
  cases written with
  | none => cases h
  | some term =>
      cases term with
      | unit => cases h
      | _ => exact ⟨_, rfl, Option.some.inj h⟩

/-- An adapter is the one that its item is. -/
theorem PlacedItem.exists_writtenAdapter {f : FunctionDeclaration} (hf : f ∈ p.functions t)
    (hmarked : f.markers.contains .fixtureAdapter = true) {a : Adapter}
    (ha : adapterOf f = .ok a) : ∃ v, p.writtenAdapter? = some v ∧ v.toAdapter t = a := by
  obtain ⟨c, item⟩ := p
  obtain ⟨hassociated, target, hreturn, rfl⟩ := of_adapterOf_eq_ok ha
  cases item with
  | function g =>
      obtain rfl : f = functionOf t c c.module false g := List.mem_singleton.mp hf
      obtain ⟨term, hresult, rfl⟩ := exists_of_resultOf hreturn
      refine ⟨⟨c.module, g.name.text, c.locate g.name, term⟩, ?_, rfl⟩
      rw [writtenAdapter?]
      simp only [hresult, Option.map_some]
      exact if_pos hmarked
  | implementation selfType functions =>
      obtain ⟨g, -, rfl⟩ := List.mem_map.mp hf
      cases hassociated
  | _ => cases hf

/-- **A scan of the adapters that succeeds** has an adapter for every marked function, in order, and
registers them from the first on. -/
theorem scanAdapters_eq_ok_iff {host : Host} {adapters : AdapterRegistry} :
    scanAdapters host = .ok adapters ↔
      ∃ as, adapters = .ofList as ∧
        List.Forall₂ (fun f a => adapterOf f = .ok a) (host.markedFunctions .fixtureAdapter) as := by
  have hscan : scanAdapters host =
      ((host.markedFunctions .fixtureAdapter).mapM adapterOf).map AdapterRegistry.ofList := by
    rw [scanAdapters]
    cases (host.markedFunctions .fixtureAdapter).mapM adapterOf <;> rfl
  rw [hscan, exceptMap_eq_ok_iff]
  simp only [mapM_eq_ok_iff, and_comm]

/-- **A registry of sources holds adapters that are written there.** -/
theorem SourceIndex.exists_writtenAdapters {adapters : AdapterRegistry}
    (h : scanAdapters (ofFiles files).toHost = .ok adapters) :
    ∃ as, adapters = .ofList as ∧
      ∀ a ∈ as, ∃ v ∈ writtenAdapters files, v.toAdapter (scopesOf files) = a := by
  obtain ⟨as, hadapters, has⟩ := scanAdapters_eq_ok_iff.mp h
  refine ⟨as, hadapters, fun a ha => ?_⟩
  obtain ⟨f, hf, hadapter⟩ := exists_mem_left_of_forall₂ has ha
  obtain ⟨hf, hmarked⟩ := List.mem_filter.mp hf
  rw [functions_ofFiles] at hf
  obtain ⟨p, hp, hf⟩ := List.mem_flatMap.mp hf
  obtain ⟨v, hv, htoAdapter⟩ := PlacedItem.exists_writtenAdapter hf hmarked hadapter
  exact ⟨v, List.mem_filterMap.mpr ⟨p, hp, hv⟩, htoAdapter⟩

end Origins

/-! ## Legible types -/

namespace ScopeTable

variable {t : ScopeTable} {module : String}

mutual

/-- **A structured type with clear paths is legible.** -/
theorem isLegible_writtenType : ∀ {term : TypeTerm}, term.isStructured = true →
    (∀ path ∈ (t.writtenType module term).paths, FixtureFactory.IsClear path) →
      (t.writtenType module term).IsLegible
  | .path rooted segments before args, hform, hpaths => by
      rw [TypeTerm.isStructured, Bool.and_eq_true, List.isEmpty_iff] at hform
      obtain ⟨rfl, hargs⟩ := hform
      rw [writtenType, writtenArguments] at hpaths ⊢
      exact WrittenType.isLegible_ofPath hpaths (allLegible_writtenArguments hargs
        fun path hpath => hpaths path (WrittenType.mem_paths_ofPath hpath))
  | .slice element, hform, hpaths => by
      rw [TypeTerm.isStructured] at hform
      rw [writtenType] at hpaths ⊢
      exact isLegible_writtenType hform hpaths
  | .parenthesized inner, hform, hpaths => by
      rw [TypeTerm.isStructured] at hform
      rw [writtenType] at hpaths ⊢
      exact isLegible_writtenType hform hpaths
  | .unit, _, _ => by
      rw [writtenType]
      exact ⟨by decide, rfl, fun _ => by decide, trivial⟩
  | .other text, hform, _ => nomatch hform

/-- So are structured arguments. -/
theorem allLegible_writtenArguments : ∀ {args : List Argument}, Argument.allStructured args = true →
    (∀ path ∈ WrittenType.pathsOfAll (t.writtenArguments module args),
      FixtureFactory.IsClear path) → WrittenType.AllLegible (t.writtenArguments module args)
  | [], _, _ => trivial
  | .type term :: args, hform, hpaths => by
      rw [Argument.allStructured, Bool.and_eq_true] at hform
      rw [writtenArguments, WrittenType.pathsOfAll] at hpaths
      rw [writtenArguments]
      exact ⟨isLegible_writtenType hform.1 fun path hpath =>
          hpaths path (List.mem_append_left _ hpath),
        allLegible_writtenArguments hform.2 fun path hpath =>
          hpaths path (List.mem_append_right _ hpath)⟩
  | .other _ :: _, hform, _ => nomatch hform

end

/-- **A structured type of sources** is resolved to the written one with options merged, and that is
legible. -/
theorem IsClear.toWritten_resolveType (ht : t.IsClear) (hmodule : FixtureFactory.IsClear module)
    {term : TypeTerm} (hwords : term.OfWords) (hform : term.isStructured = true) :
    (t.resolveType module term).toWritten = (t.writtenType module term).merged ∧
      (t.resolveType module term).toWritten.IsLegible := by
  have hlegible := isLegible_writtenType hform (ht.isClear_paths_writtenType hmodule hwords)
  have hslice : ¬ FixtureFactory.IsClear TypeRef.slicePath := by decide
  have hwritten := ScopeTable.toWritten_resolveType t module hform
    (WrittenType.notMem_paths_of_isLegible hslice hlegible)
  exact ⟨hwritten, hwritten ▸ WrittenType.isLegible_merged hlegible⟩

end ScopeTable

/-! ## Adapters found by text -/

theorem TypeRef.toWritten_eq_withLayer (t : TypeRef) :
    t.toWritten = withLayer t.nullable t.required.toWritten := by
  obtain ⟨path, args, nullable⟩ := t
  rfl

/-- **An adapter that is found for a qualified or generic type** returns that type or the type
within the option, if the types are legible. -/
theorem AdapterRegistry.toWritten_of_find? {as : List Adapter} {t : TypeRef} {a : Adapter}
    (h : (ofList as).find? t = some a) (hnamed : isQualified t.path = true ∨ t.args ≠ [])
    (ht : t.toWritten.IsLegible) (ha : a.target.toWritten.IsLegible) :
    t.toWritten.IsServedBy a.target.toWritten := by
  rcases find?_cases h with h | h | ⟨-, hbare, -⟩
  · exact Or.inl (TypeRef.toWritten_eq_of_render_eq ht ha (of_find?_byType h).2.symm)
  · -- the text is that of the type without its option layer
    have htext : t.required.render = a.target.render := by
      rw [TypeRef.render_of_required rfl, TypeRef.renderRequired_required, (of_find?_byType h).2]
    rw [TypeRef.toWritten_eq_withLayer] at ht ⊢
    cases hnullable : t.nullable with
    | false =>
        rw [hnullable] at ht
        exact Or.inl (TypeRef.toWritten_eq_of_render_eq ht ha htext)
    | true =>
        rw [hnullable] at ht
        have hrequired : t.required.toWritten.IsLegible := ht
        rw [← TypeRef.toWritten_eq_of_render_eq hrequired ha htext]
        exact Or.inr rfl
  · rw [Bool.or_eq_false_iff, Bool.not_eq_false', List.isEmpty_iff] at hbare
    rcases hnamed with hqualified | hargs
    · cases hqualified.symm.trans hbare.2
    · exact absurd hbare.1 hargs

namespace Pipeline

variable {files : List SourceFile} {parsed : List ParsedFile} {p : Pipeline}

/-- Whether a pipeline has classified a parameter as supplied by an adapter, the parameter stands
for a field that is written in the sources, and the adapter is a function that is written there. -/
structure Supplies (parsed : List ParsedFile) (p : Pipeline) (f : Fixture) (q : Parameter)
    (w : WrittenField) (v : WrittenAdapter) : Prop where
  registered : f ∈ p.fixtures.toList
  parameter : q ∈ f.parameters
  kind : q.kind = .adapterSupplied
  field : w ∈ writtenFields parsed
  isFor : w.IsFor (scopesOf parsed) f.qualifiedName q
  adapter : v ∈ writtenAdapters parsed
  found : p.adapters.find? q.type = some (v.toAdapter (scopesOf parsed))

/-- **A parameter that an adapter supplies** stands for a field, and its adapter is one that is
written in the sources. -/
theorem exists_supplies (h : p.Scanned (SourceIndex.ofFiles parsed).toHost) {f : Fixture}
    (hf : f ∈ p.fixtures.toList) {q : Parameter} (hq : q ∈ f.parameters)
    (hkind : q.kind = .adapterSupplied) : ∃ w v, Supplies parsed p f q w v := by
  obtain ⟨d, -, -, hfixture, hfields⟩ := exists_scansTo_of_mem_toList h hf
  obtain ⟨field, hfield, hclassify⟩ := exists_mem_left_of_forall₂ hfields hq
  obtain ⟨a, ha⟩ := exists_find?_of_classify_adapterSupplied hclassify hkind
  obtain ⟨w, hw, hrecord, hname, htype⟩ := SourceIndex.exists_writtenField hfield
  obtain ⟨as, hadapters, has⟩ := SourceIndex.exists_writtenAdapters h.1
  rw [hadapters] at ha
  obtain ⟨v, hv, rfl⟩ := has a (AdapterRegistry.mem_of_find? ha)
  have hfor : w.IsFor (scopesOf parsed) f.qualifiedName q := by
    refine ⟨hrecord.trans ?_, hname.trans (name_of_classify hclassify).symm, ?_⟩
    · rw [hfixture]
      rfl
    · rw [htype, type_of_classify_adapterSupplied hclassify hkind]
  exact ⟨w, v, hf, hq, hkind, hw, hfor, hv, hadapters ▸ ha⟩

/-- The types of fields are made of words and stand in clear modules. -/
theorem ofWords_of_mem_writtenFields (hparsed : parseFiles files = .ok parsed)
    (hpaths : ∀ file ∈ parsed, IsClear file.path) {w : WrittenField}
    (hw : w ∈ writtenFields parsed) : IsClear w.module ∧ w.term.OfWords := by
  obtain ⟨p, hp, hw⟩ := List.mem_flatMap.mp hw
  obtain ⟨hmodule, hitem⟩ := isClear_of_mem_placedItems hparsed hpaths hp
  obtain ⟨c, item⟩ := p
  cases item with
  | record attributes name shape =>
      cases shape with
      | named fields =>
          obtain ⟨field, hfield, rfl⟩ := List.mem_map.mp hw
          exact ⟨hmodule, hitem.2 field hfield⟩
      | _ => cases hw
  | _ => cases hw

/-- So do the types of the results of adapters. -/
theorem ofWords_of_mem_writtenAdapters (hparsed : parseFiles files = .ok parsed)
    (hpaths : ∀ file ∈ parsed, IsClear file.path) {v : WrittenAdapter}
    (hv : v ∈ writtenAdapters parsed) : IsClear v.module ∧ v.result.OfWords := by
  obtain ⟨p, hp, hv⟩ := List.mem_filterMap.mp hv
  obtain ⟨hmodule, hitem⟩ := isClear_of_mem_placedItems hparsed hpaths hp
  obtain ⟨c, item⟩ := p
  cases item with
  | function f =>
      rw [PlacedItem.writtenAdapter?] at hv
      dsimp only at hv
      split at hv
      · obtain ⟨result, hresult, rfl⟩ := Option.map_eq_some_iff.mp hv
        exact ⟨hmodule, hitem result hresult⟩
      · cases hv
  | _ => cases hv

/-- **The adapter of a field serves it**, up to merging of options, if the types of the two are
structured. -/
theorem Supplies.isServedBy_merged {f : Fixture} {q : Parameter} {w : WrittenField}
    {v : WrittenAdapter} (h : Supplies parsed p f q w v)
    (hscanned : p.Scanned (SourceIndex.ofFiles parsed).toHost)
    (hparsed : parseFiles files = .ok parsed) (hpaths : ∀ file ∈ parsed, IsClear file.path)
    (hnamed : isQualified q.type.path = true ∨ q.type.args ≠ [])
    (hdeclared : w.term.isStructured = true) (hreturned : v.result.isStructured = true) :
    (w.type (scopesOf parsed)).merged.IsServedBy (v.type (scopesOf parsed)).merged := by
  have hscopes : (scopesOf parsed).IsClear := ScopeTable.isClear_scopesOf hparsed hpaths
  obtain ⟨hmodule, hwords⟩ := ofWords_of_mem_writtenFields hparsed hpaths h.field
  obtain ⟨hmodule', hwords'⟩ := ofWords_of_mem_writtenAdapters hparsed hpaths h.adapter
  obtain ⟨htype, hlegible⟩ := hscopes.toWritten_resolveType hmodule hwords hdeclared
  obtain ⟨htarget, hlegible'⟩ := hscopes.toWritten_resolveType hmodule' hwords' hreturned
  obtain ⟨as, hadapters, -⟩ := SourceIndex.exists_writtenAdapters hscanned.1
  have hfound := h.found
  rw [hadapters] at hfound
  rw [h.isFor.type] at htype hlegible
  rw [WrittenField.type, WrittenAdapter.type, ← htype, ← htarget]
  exact AdapterRegistry.toWritten_of_find? hfound hnamed hlegible hlegible'

/-- **Adapters serve the types that they return.**  In what a run over sources leaves, every
parameter that an adapter supplies stands for a field that is written in the sources, and the
adapter is a marked function that is written there.  If the type of the parameter is qualified or
generic, and the written types are structured and have no options directly in options, then the type
of the field is that of the result or the option of it.  With such options it is so as soon as they
are merged. -/
theorem serves_returned_type {σ : Type} (hparsed : parseFiles files = .ok parsed)
    (hpaths : ∀ file ∈ files, IsClear file.path) (options : Options) (entropy : RandomSource)
    (receive : Receiver σ) (s : σ)
    (hp : p = ((start options).run (SourceIndex.ofFiles parsed).toHost entropy receive s).2.1) :
    (∀ f ∈ p.fixtures.toList, ∀ q ∈ f.parameters, q.kind = .adapterSupplied →
      ∃ w v, Supplies parsed p f q w v) ∧
    ∀ f q w v, Supplies parsed p f q w v → isQualified q.type.path = true ∨ q.type.args ≠ [] →
      w.term.isStructured = true → v.result.isStructured = true →
      (w.type (scopesOf parsed)).merged.IsServedBy (v.type (scopesOf parsed)).merged ∧
      ((w.type (scopesOf parsed)).nestedOptions = 0 → (v.type (scopesOf parsed)).nestedOptions = 0 →
        (w.type (scopesOf parsed)).IsServedBy (v.type (scopesOf parsed))) := by
  have hclear : ∀ file ∈ parsed, IsClear file.path := by
    intro file hfile
    obtain ⟨source, hsource, hpath, -⟩ := exists_source_of_parseFiles hparsed file hfile
    exact hpath ▸ hpaths source hsource
  have hscanned : ∀ f ∈ p.fixtures.toList, p.Scanned (SourceIndex.ofFiles parsed).toHost :=
    fun f hf => scanned_of_start_run options entropy receive s hp hf
  refine ⟨fun f hf q hq hkind => exists_supplies (hscanned f hf) hf hq hkind, ?_⟩
  intro f q w v h hnamed hdeclared hreturned
  have hserved := h.isServedBy_merged (hscanned f h.registered) hparsed hclear hnamed hdeclared
    hreturned
  refine ⟨hserved, fun hnested hnested' => ?_⟩
  rwa [WrittenType.merged_eq_self hnested, WrittenType.merged_eq_self hnested'] at hserved

/-- What a run over files leaves, without any options. -/
def leftBy (parsed : List ParsedFile) : Pipeline :=
  ((start .defaults).run (SourceIndex.ofFiles parsed).toHost ⟨fun _ => 0, 0⟩
    Generator.rendering []).2.1

/-- A parameter that is found by the name of its kind. -/
theorem exists_supplies_leftBy {P : Parameter → Prop}
    (h : ∃ f ∈ (leftBy parsed).fixtures.toList, ∃ q ∈ f.parameters,
      q.kind.tag = "adapter_supplied" ∧ P q) :
    ∃ f q w v, Supplies parsed (leftBy parsed) f q w v ∧ P q := by
  obtain ⟨f, hf, q, hq, htag, hP⟩ := h
  have hkind : q.kind = .adapterSupplied := by
    cases hkind : q.kind with
    | adapterSupplied => rfl
    | _ => simp [hkind, ParameterKind.tag] at htag
  have hscanned := scanned_of_start_run .defaults ⟨fun _ => 0, 0⟩ Generator.rendering [] rfl hf
  obtain ⟨w, v, hsupplies⟩ := exists_supplies hscanned hf hq hkind
  exact ⟨f, q, w, v, hsupplies, hP⟩

/-- A record with an optional list, and an adapter for the list in another module. -/
def orderSources : List SourceFile :=
  [⟨"lib.rs", "#[fixture] struct Order { prices: Option<Vec<Money>> } struct Money;"⟩,
   ⟨"pricing.rs", "use crate::Money; #[fixture_adapter] fn prices() -> Vec<Money> { }"⟩]

/-- The adapter serves the optional list. -/
theorem serves_returned_type_order :
    ∃ parsed f q w v, parseFiles orderSources = .ok parsed ∧
      Supplies parsed (leftBy parsed) f q w v ∧ q.type.args ≠ [] ∧
      (w.type (scopesOf parsed)).text = "Option<Vec<crate::Money>>" ∧
      (v.type (scopesOf parsed)).text = "Vec<crate::Money>" ∧
      (w.type (scopesOf parsed)).IsServedBy (v.type (scopesOf parsed)) := by
  have hfacts : (parseFiles orderSources).map (fun parsed => decide
      ((∃ f ∈ (leftBy parsed).fixtures.toList, ∃ q ∈ f.parameters,
        q.kind.tag = "adapter_supplied" ∧ q.type.args.isEmpty = false) ∧
      (∀ w ∈ writtenFields parsed, w.term.isStructured = true ∧
        (w.type (scopesOf parsed)).nestedOptions = 0 ∧
        (w.type (scopesOf parsed)).text = "Option<Vec<crate::Money>>") ∧
      ∀ v ∈ writtenAdapters parsed, v.result.isStructured = true ∧
        (v.type (scopesOf parsed)).nestedOptions = 0 ∧
        (v.type (scopesOf parsed)).text = "Vec<crate::Money>")) = .ok true := by
    decide +kernel
  obtain ⟨parsed, hparsed, hfacts⟩ := exceptMap_eq_ok_iff.mp hfacts
  obtain ⟨hparameter, hfields, hadapters⟩ := of_decide_eq_true hfacts.symm
  obtain ⟨f, q, w, v, hsupplies, hgeneric⟩ := exists_supplies_leftBy hparameter
  obtain ⟨hdeclared, hnested, htext⟩ := hfields w hsupplies.field
  obtain ⟨hreturned, hnested', htext'⟩ := hadapters v hsupplies.adapter
  have hargs : q.type.args ≠ [] := by
    rw [← List.isEmpty_eq_false_iff]
    exact hgeneric
  have hpaths : ∀ file ∈ orderSources, IsClear file.path := by decide +kernel
  obtain ⟨-, hserved⟩ :=
    serves_returned_type hparsed hpaths .defaults ⟨fun _ => 0, 0⟩ Generator.rendering [] rfl
  obtain ⟨-, hserved⟩ := hserved f q w v hsupplies (Or.inr hargs) hdeclared hreturned
  exact ⟨parsed, f, q, w, v, hparsed, hsupplies, hargs, htext, htext', hserved hnested hnested'⟩

/-- A record with a large array and an adapter for a small one. -/
def packetSources : List SourceFile :=
  [⟨"lib.rs", "use arrayvec::ArrayVec; #[fixture_adapter] fn short() -> ArrayVec<u8, 4> { }
    #[fixture] pub struct Packet { payload: ArrayVec<u8, 64> }"⟩]

/-- **The adapter for the small array serves the large one**, since the lengths are not kept. -/
theorem serves_other_array :
    ∃ parsed f q w v, parseFiles packetSources = .ok parsed ∧
      Supplies parsed (leftBy parsed) f q w v ∧ isQualified q.type.path = true ∧
      (w.type (scopesOf parsed)).text = "arrayvec::ArrayVec<u8, 64>" ∧
      (v.type (scopesOf parsed)).text = "arrayvec::ArrayVec<u8, 4>" ∧
      ¬ (w.type (scopesOf parsed)).IsServedBy (v.type (scopesOf parsed)) := by
  have hfacts : (parseFiles packetSources).map (fun parsed => decide
      ((∃ f ∈ (leftBy parsed).fixtures.toList, ∃ q ∈ f.parameters,
        q.kind.tag = "adapter_supplied" ∧ isQualified q.type.path = true) ∧
      (∀ w ∈ writtenFields parsed,
        (w.type (scopesOf parsed)).text = "arrayvec::ArrayVec<u8, 64>") ∧
      ∀ v ∈ writtenAdapters parsed,
        (v.type (scopesOf parsed)).text = "arrayvec::ArrayVec<u8, 4>")) = .ok true := by
    decide +kernel
  obtain ⟨parsed, hparsed, hfacts⟩ := exceptMap_eq_ok_iff.mp hfacts
  obtain ⟨hparameter, hfields, hadapters⟩ := of_decide_eq_true hfacts.symm
  obtain ⟨f, q, w, v, hsupplies, hqualified⟩ := exists_supplies_leftBy hparameter
  have htext := hfields w hsupplies.field
  have htext' := hadapters v hsupplies.adapter
  refine ⟨parsed, f, q, w, v, hparsed, hsupplies, hqualified, htext, htext', ?_⟩
  rintro (hserved | hserved)
  · rw [hserved, htext'] at htext
    exact absurd htext (by decide)
  · rw [hserved, WrittenType.text, htext'] at htext
    exact absurd htext (by decide)

end Pipeline
end FixtureFactory
