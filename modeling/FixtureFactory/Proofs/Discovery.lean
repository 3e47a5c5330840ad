import FixtureFactory.Catalogue
import FixtureFactory.Proofs.BuiltUnits
import FixtureFactory.Proofs.Phases
import FixtureFactory.Proofs.Scanning

/-!
# From marked declarations to factories

A run goes from the marked declarations of a host to fixtures, from fixtures to the groups of a
registry, from groups to output units, and hands the units to a receiver.  Every one of these steps
keeps what it is given, element by element and in order, so the whole of them does.  This file joins
the steps: the units of a run are the stable groups of the marked declarations, and each of their
functions is the factory of one declaration.

## What a factory says of its declaration

`FunctionSpec.Constructs` lists it: the name, the return type and the names of the parameters.  The
return type is the qualified name of the declaration as the text of a type, and this is the
qualified name itself with one exception.  The path `[]` is reserved for slices, and a slice is
written with its element; where it has none, the text is `[_]`.  No source text declares a type of
that name, but a catalogue takes any name.
-/

namespace FixtureFactory

namespace TypeRef

/-- The text of a path without arguments. -/
def pathText (path : String) : String := if path = slicePath then "[_]" else path

@[simp] theorem render_named (path : String) : (named path).render = pathText path := by
  rw [named, render, renderAll, optionText, if_neg Bool.false_ne_true, plainText, pathText]
  by_cases hpath : path = slicePath
  · rw [if_pos hpath, if_pos (beq_iff_eq.mpr hpath)]
    rfl
  · rw [if_neg hpath, if_neg (mt beq_iff_eq.mp hpath)]
    rfl

end TypeRef

/-! ## Factories and declarations -/

/-- The function is the factory of a declaration: named after it, of its type, and with one
parameter for each of its fields. -/
structure FunctionSpec.Constructs (host : Host) (d : TypeDeclaration) (fn : FunctionSpec) :
    Prop where
  name : fn.name = Naming.factoryName d.enclosing d.simpleName
  returnType : fn.returnType = TypeRef.pathText d.qualifiedName
  parameters : fn.parameters.map ParameterSpec.name = (host.fields d).map Field.name

/-- The output unit of the declarations of a source unit. -/
structure UnitSpec.Covers (host : Host) (naming : Naming) (group : Nat × List TypeDeclaration)
    (unit : UnitSpec) : Prop where
  /-- The unit is named after the source unit that the host knows by the identifier. -/
  source : ∃ source, host.unit? group.1 = some source ∧
    unit.name = outputUnitName source.baseName ∧ unit.sourcePath = source.path ∧
    unit.modulePath = naming.unitModule source
  /-- The functions are the factories of the declarations, in their order. -/
  functions : List.Forall₂ (FunctionSpec.Constructs host) group.2 unit.functions
  /-- No two items of the unit share a name. -/
  nodup_items : (unit.functions.flatMap FunctionSpec.itemNames).Nodup

section Steps

variable {host : Host} {adapters : AdapterRegistry} {naming : Naming}

/-- **The factory of a fixture is the factory of its declaration.** -/
theorem constructs_of_scansTo {d : TypeDeclaration} {f : Fixture} {fn : FunctionSpec}
    (hf : ScansTo host adapters naming d f) (hfn : f.BuildsTo fn) : fn.Constructs host d := by
  obtain ⟨-, hd, hfields⟩ := hf
  have hnames : f.parameters.map Parameter.name = (host.fields d).map Field.name := by
    rw [← List.forall₂_eq_eq_eq, List.forall₂_map_left_iff, List.forall₂_map_right_iff]
    exact hfields.flip.imp fun q field hq => name_of_classify hq
  have hparameters := hfn.map_name
  obtain ⟨specs, -, rfl⟩ := hfn
  refine ⟨?_, ?_, hparameters.trans hnames⟩
  · rw [hd]
    rfl
  · rw [hd]
    exact TypeRef.render_named d.qualifiedName

/-- **The unit of a group of fixtures is the unit of their declarations.** -/
theorem covers_of_scansTo {decls : Nat × List TypeDeclaration} {fixtures : Nat × List Fixture}
    {unit : UnitSpec} (hkey : decls.1 = fixtures.1)
    (hfixtures : List.Forall₂ (ScansTo host adapters naming) decls.2 fixtures.2)
    (hunit : UnitFixtures.BuildsTo host naming ⟨fixtures.1, fixtures.2⟩ unit) :
    unit.Covers host naming decls := by
  obtain ⟨hsource, hfunctions, hnodup⟩ := hunit
  refine ⟨hkey ▸ hsource, forall₂_comp ?_ hfixtures hfunctions, hnodup⟩
  intro d f fn hf hfn
  exact constructs_of_scansTo hf hfn

/-- **The units of a build are those of the stable groups of the marked declarations.** -/
theorem covers_of_scanFixtures (c : BuildContext) {fixtures : FixtureRegistry}
    {units : List UnitSpec} (hscan : scanFixtures host adapters c.naming = .ok fixtures)
    (hunits : Build.Yields (c.buildUnits host fixtures) units) :
    List.Forall₂ (UnitSpec.Covers host c.naming)
      (stableGroups TypeDeclaration.unit (host.markedTypes .fixture)) units := by
  obtain ⟨fs, hfs, rfl⟩ := scanFixtures_eq_ok_iff.mp hscan
  have hkey : ∀ d f, ScansTo host adapters c.naming d f → d.unit = f.unit := by
    intro d f hf
    rw [hf.2.1]
    rfl
  have hgroups := forall₂_stableGroups hkey hfs
  obtain ⟨hbuilt, -⟩ := c.buildsTo_of_yields_buildUnits hunits
  rw [FixtureRegistry.ofList_eq_grouped, FixtureRegistry.grouped,
    List.forall₂_map_left_iff] at hbuilt
  refine forall₂_comp ?_ hgroups hbuilt
  intro decls group unit hgroup hunit
  exact covers_of_scansTo hgroup.1 hgroup.2 hunit

theorem constructs_flatMap_of_covers {groups : List (Nat × List TypeDeclaration)}
    {units : List UnitSpec} (h : List.Forall₂ (UnitSpec.Covers host naming) groups units) :
    List.Forall₂ (FunctionSpec.Constructs host) (groups.flatMap Prod.snd)
      (units.flatMap UnitSpec.functions) := by
  refine List.rel_flatMap h ?_
  intro group unit hcovers
  exact hcovers.functions

end Steps

/-! ## Catalogues -/

/-- **A catalogue that is filled unit by unit lists its declarations as they were added.** -/
theorem Catalogue.toHost_of_pairwise {c : Catalogue}
    (htypes : c.types.Pairwise fun d e => d.unit ≤ e.unit)
    (hfunctions : c.functions.Pairwise fun f g => f.unit ≤ g.unit) :
    c.toHost =
      { c.toHost with
        markedFunctions := fun m => c.functions.filter fun f => f.markers.contains m
        markedTypes := fun m => c.types.filter fun d => d.hasMarker m } := by
  rw [toHost]
  congr 1
  · funext m
    refine List.mergeSort_of_pairwise ?_
    exact (hfunctions.filter _).imp fun h => decide_eq_true h
  · funext m
    refine List.mergeSort_of_pairwise ?_
    exact (htypes.filter _).imp fun h => decide_eq_true h

/-- A catalogue with a record whose qualified name is the path of a slice, and another with a field
of that type. -/
def sliceNamed : Catalogue :=
  let row : TypeDeclaration :=
    ⟨0, TypeRef.slicePath, "Row", [], .record, [.fixture], ⟨"", 0, 0⟩⟩
  (((Catalogue.empty.addUnit "src/model.rs" "crate::model").2.addType row).addFixture 0 "Table"
    [⟨"row", .named "Row"⟩]).2

/-! ## Runs -/

namespace Pipeline

variable {σ : Type}

theorem yields_of_units_eq_ok {p : Pipeline} {host : Host} {entropy : RandomSource}
    {units : List UnitSpec} (h : p.units host entropy = .ok units) :
    Build.Yields (BuildContext.buildUnits ⟨p.naming, p.adapters, p.options.randomize.value⟩ host
      p.fixtures) units :=
  ⟨p.source entropy, _, Prod.ext h rfl⟩

/-- **The units of a run** are those of the stable groups of the marked declarations. -/
theorem covers_of_start_run {options : Options} (hrun : options.run.value = true) {host : Host}
    {entropy : RandomSource} {receive : Receiver σ} {s s' : σ} {summary : RunSummary}
    {p' : Pipeline} (h : (start options).run host entropy receive s = (.ok summary, p', s')) :
    List.Forall₂ (UnitSpec.Covers host options.naming)
      (stableGroups TypeDeclaration.unit (host.markedTypes .fixture))
      ((start options).runCalls host entropy receive s) := by
  obtain ⟨hoptions, ⟨-, hscan⟩, hunits, -, -⟩ := start_run_eq_ok hrun host entropy receive s h
  have hnaming : p'.naming = options.naming := congrArg Options.naming hoptions
  rw [← hnaming]
  exact covers_of_scanFixtures ⟨p'.naming, p'.adapters, p'.options.randomize.value⟩ hscan
    (yields_of_units_eq_ok hunits)

theorem size_of_scanned {host : Host} {p : Pipeline} (h : p.Scanned host) :
    p.fixtures.size = (host.markedTypes .fixture).length := by
  obtain ⟨fs, hfs, hregistry⟩ := scanFixtures_eq_ok_iff.mp h.2
  rw [hregistry, FixtureRegistry.size_ofList, hfs.length_eq]

/-- **No marked declaration is lost, doubled or moved.**  If a run succeeds, the units that its
receiver takes are those of the stable groups of the marked declarations, in order and none of them
empty; the functions of a unit are the factories of its group, in order; and the summary says of
the units what they are and counts their functions.

A stable grouping has the units in the order in which the host lists their first declarations, and
the declarations of a unit in the order of the host. -/
theorem run_hands_over_stable_groups (host : Host) (options : Options)
    (hrun : options.run.value = true) (entropy : RandomSource) (receive : Receiver σ) (s : σ)
    {summary : RunSummary} {p' : Pipeline} {s' : σ}
    (h : (start options).run host entropy receive s = (.ok summary, p', s')) :
    ∃ units, (start options).runCalls host entropy receive s = units ∧
      receive.Accepts units s s' ∧
      List.Forall₂ (UnitSpec.Covers host options.naming)
        (stableGroups TypeDeclaration.unit (host.markedTypes .fixture)) units ∧
      (∀ unit ∈ units, unit.functions ≠ []) ∧
      (units.flatMap UnitSpec.functions).length = (host.markedTypes .fixture).length ∧
      summary =
        { skipped := false
          adapters := p'.adapters.size
          fixtures := (units.flatMap UnitSpec.functions).length
          units := units.map fun unit =>
            ⟨unit.name, unit.sourcePath, unit.functions.map FunctionSpec.name⟩ } := by
  have hcovers := covers_of_start_run hrun h
  obtain ⟨-, hscanned, -, haccepts, hsummary⟩ := start_run_eq_ok hrun host entropy receive s h
  have hlength : (((start options).runCalls host entropy receive s).flatMap
      UnitSpec.functions).length = (host.markedTypes .fixture).length := by
    rw [← (constructs_flatMap_of_covers hcovers).length_eq]
    exact (perm_flatMap_stableGroups _ _).length_eq
  refine ⟨_, rfl, haccepts, hcovers, ?_, hlength, ?_⟩
  · intro unit hunit hempty
    obtain ⟨group, hgroup, hunit⟩ := exists_mem_left_of_forall₂ hcovers hunit
    have hnone := hunit.functions
    rw [hempty, List.forall₂_nil_right_iff] at hnone
    exact snd_ne_nil_of_mem_stableGroups hgroup hnone
  · rw [hsummary, Pipeline.summary, size_of_scanned hscanned, hlength]
    rfl

/-- Three units that are discovered in turns. -/
theorem run_alternating_hands_over :
    let takeAll : Receiver Unit := fun _ s => (.ok (), s)
    let outcome := (start .defaults).run alternating ⟨fun _ => 0, 0⟩ takeAll ()
    Options.defaults.run.value = true ∧
    outcome.1 = .ok ⟨false, 0, 4, [⟨"a_fixture", "src/a.rs", ["create_first", "create_third"]⟩,
      ⟨"b_fixture", "src/b.rs", ["create_second"]⟩,
      ⟨"c_fixture", "src/c.rs", ["create_fourth"]⟩]⟩ ∧
    List.Forall₂ (UnitSpec.Covers alternating Options.defaults.naming)
      (stableGroups TypeDeclaration.unit (alternating.markedTypes .fixture))
      ((start .defaults).runCalls alternating ⟨fun _ => 0, 0⟩ takeAll ()) := by
  intro takeAll outcome
  refine ⟨rfl, rfl, ?_⟩
  obtain ⟨units, rfl, -, hcovers, -⟩ :=
    run_hands_over_stable_groups alternating .defaults rfl ⟨fun _ => 0, 0⟩ takeAll () rfl
  exact hcovers

/-- The factory of a declaration need not return its qualified name: it does not where that is the
path of a slice. -/
theorem returnType_ne_qualifiedName_of_sliceNamed :
    let takeAll : Receiver Unit := fun _ s => (.ok (), s)
    let host := sliceNamed.toHost
    Options.defaults.run.value = true ∧
    ((start .defaults).run host ⟨fun _ => 0, 0⟩ takeAll ()).1 =
      .ok ⟨false, 0, 2, [⟨"model_fixture", "src/model.rs", ["create_row", "create_table"]⟩]⟩ ∧
    ∃ row table unit createRow createTable,
      stableGroups TypeDeclaration.unit (host.markedTypes .fixture) = [(0, [row, table])] ∧
      (start .defaults).runCalls host ⟨fun _ => 0, 0⟩ takeAll () = [unit] ∧
      unit.functions = [createRow, createTable] ∧
      row.qualifiedName = "[]" ∧ createRow.returnType = "[_]" ∧
      createRow.returnType ≠ row.qualifiedName := by
  intro takeAll host
  have hhost : host = _ := Catalogue.toHost_of_pairwise (by decide) (by decide)
  rw [hhost]
  exact ⟨rfl, rfl, _, _, _, _, _, rfl, rfl, rfl, rfl, rfl, by decide⟩

end Pipeline
end FixtureFactory
