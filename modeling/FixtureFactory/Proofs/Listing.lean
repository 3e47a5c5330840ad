import FixtureFactory.Generator
import FixtureFactory.Proofs.Discovery

/-!
# Listing and generating

A listing says what a generation would build without building it.  It computes the path of a factory
from the naming policy and the host, and the types of its parameters from the registry; a generation
gets both from the units that it builds.  Nothing but these theorems keeps the two in step.

* `FixtureInfo.Lists` is the agreement of one listed fixture with one factory of a unit.
* `Generator.lists_of_yields_buildUnits` joins it along the groups of a registry.  That a fixture
  is in the group of its own unit is what makes the two ways to its module meet.
* `Generator.list_agrees_with_generate` is the result.  The errors nest: whatever stops a listing
  stops a generation in the same place.
-/

namespace FixtureFactory

/-! ## Agreement -/

/-- The factories of a list of units, each with its unit, in order. -/
def emittedFactories (units : List UnitSpec) : List (UnitSpec × FunctionSpec) :=
  units.flatMap fun unit => unit.functions.map fun fn => (unit, fn)

/-- A listed fixture shows the path, and the names and types of the parameters, of a factory. -/
structure FixtureInfo.Lists (info : FixtureInfo) (emitted : UnitSpec × FunctionSpec) : Prop where
  factory : info.factory = emitted.1.modulePath ++ "::" ++ emitted.2.name
  parameters : info.parameters.map (fun p => (p.name, p.type)) =
    emitted.2.parameters.map fun p => (p.name, p.type)

namespace Generator

variable {host : Host} {naming : Naming}

/-- A fixture is listed as the factory that is built from it in the unit of its group. -/
theorem lists_of_buildsTo {group : UnitFixtures} {unit : UnitSpec}
    (hunit : group.BuildsTo host naming unit) {f : Fixture} (hf : f.unit = group.unit)
    {fn : FunctionSpec} (hfn : f.BuildsTo fn) :
    (FixtureInfo.of (factoryPath naming host) f).Lists (unit, fn) := by
  obtain ⟨source, hsource, -, -, hmodule⟩ := hunit.source
  obtain ⟨parameters, hparameters, rfl⟩ := hfn
  constructor
  · show factoryPath naming host f = _
    rw [factoryPath, hf, hsource, hmodule]
    rfl
  · show (f.parameters.map ParameterInfo.of).map (fun p => (p.name, p.type)) =
      parameters.map fun p => (p.name, p.type)
    rw [List.map_map, ← List.forall₂_eq_eq_eq, List.forall₂_map_left_iff,
      List.forall₂_map_right_iff]
    refine hparameters.imp fun p spec hp => ?_
    exact Prod.ext hp.1.symm hp.2.symm

/-- **The fixtures of a registry are listed as the factories of the units that are built from it**,
in the same order. -/
theorem lists_of_yields_buildUnits (c : BuildContext) {fs : List Fixture} {units : List UnitSpec}
    (h : Build.Yields (c.buildUnits host (.ofList fs)) units) :
    List.Forall₂ FixtureInfo.Lists
      ((FixtureRegistry.ofList fs).toList.map (FixtureInfo.of (factoryPath c.naming host)))
      (emittedFactories units) := by
  obtain ⟨hbuilt, -⟩ := c.buildsTo_of_yields_buildUnits h
  have hgroups := (List.forall₂_and_left
    (p := fun group => group ∈ (FixtureRegistry.ofList fs).groups) _ _).mpr ⟨fun _ => id, hbuilt⟩
  rw [FixtureRegistry.toList, List.map_flatMap, emittedFactories]
  refine List.rel_flatMap hgroups ?_
  rintro group unit ⟨hgroup, hunit⟩
  rw [List.forall₂_map_left_iff, List.forall₂_map_right_iff]
  have hfixtures := (List.forall₂_and_left (p := fun f => f ∈ group.fixtures) _ _).mpr
    ⟨fun _ => id, hunit.functions⟩
  refine hfixtures.imp ?_
  rintro f fn ⟨hf, hfn⟩
  exact lists_of_buildsTo hunit (FixtureRegistry.unit_of_mem_fixtures hgroup hf) hfn

/-! ## Hosts -/

section Hosts

variable {options : Options} {entropy : RandomSource} {σ : Type} {receive : Receiver σ} {s s' : σ}

/-- The listing of a host whose scans succeed. -/
theorem listHost_of_scanned {p : Pipeline} (hoptions : p.options = options)
    (h : p.Scanned host) :
    listHost options host =
      .ok (.ofRegistries p.adapters p.fixtures (factoryPath options.naming host)) := by
  subst hoptions
  have hadapters : (Pipeline.start p.options).withAdapters host = .ok _ :=
    Pipeline.withAdapters_eq_ok_iff.mpr ⟨rfl, p.adapters, h.1, rfl⟩
  have hfixtures : Pipeline.withFixtures
      { Pipeline.start p.options with adapters := p.adapters, phase := .adaptersScanned } host =
        .ok _ :=
    Pipeline.withFixtures_eq_ok_iff.mpr ⟨rfl, p.fixtures, h.2, rfl⟩
  rw [listHost, hadapters]
  show (Pipeline.withFixtures _ host >>= _) = _
  rw [hfixtures]
  rfl

/-- **A run that succeeds is listed**: the fixtures of the listing are the factories that the run
hands over. -/
theorem listHost_of_start_run (hrun : options.run.value = true) {summary : RunSummary}
    {p' : Pipeline}
    (h : (Pipeline.start options).run host entropy receive s = (.ok summary, p', s')) :
    ∃ listing, listHost options host = .ok listing ∧
      List.Forall₂ FixtureInfo.Lists listing.fixtures
        (emittedFactories ((Pipeline.start options).runCalls host entropy receive s)) := by
  obtain ⟨hoptions, hscanned, hunits, -, -⟩ :=
    Pipeline.start_run_eq_ok hrun host entropy receive s h
  obtain ⟨fs, -, hregistry⟩ := scanFixtures_eq_ok_iff.mp hscanned.2
  refine ⟨_, listHost_of_scanned hoptions hscanned, ?_⟩
  have hyields := Pipeline.yields_of_units_eq_ok hunits
  rw [hregistry] at hyields
  have hlists := lists_of_yields_buildUnits _ hyields
  rw [← hregistry] at hlists
  have hnaming : p'.naming = options.naming := congrArg Options.naming hoptions
  rw [← hnaming]
  exact hlists

/-- **What stops a listing stops a run**, with the same error. -/
theorem start_run_of_listHost_eq_error (hrun : options.run.value = true) {e : FixtureError}
    (h : listHost options host = .error e) (entropy : RandomSource) (receive : Receiver σ) (s : σ) :
    ((Pipeline.start options).run host entropy receive s).1 = .error e := by
  rcases (Pipeline.start options).run_cases host entropy with ⟨hoff, -, -⟩ | ⟨hoff, -, -⟩ |
    ⟨-, e', hp₁, hcase⟩ | ⟨-, p₁, e', hp₁, hp₂, hcase⟩ | ⟨-, p₁, p₂, hp₁, hp₂, -⟩
  · cases hrun.symm.trans hoff
  · cases hrun.symm.trans hoff
  · rw [listHost, hp₁] at h
    rw [hcase, ← Except.error.inj h]
  · rw [listHost, hp₁] at h
    have h : (p₁.withFixtures host >>= _) = Except.error e := h
    rw [hp₂] at h
    rw [hcase, ← Except.error.inj h]
  · rw [listHost, hp₁] at h
    have h : (p₁.withFixtures host >>= _) = Except.error e := h
    rw [hp₂] at h
    cases h

end Hosts

/-! ## Generations -/

theorem eq_append_of_accepts_rendering {units : List UnitSpec} {s s' : List RenderedUnit}
    (h : rendering.Accepts units s s') : s' = s ++ units.map .ofSpec := by
  induction h with
  | nil s => exact (List.append_nil s).symm
  | cons hreceive _ ih =>
      cases hreceive
      rw [ih, List.map_cons, List.append_assoc, List.singleton_append]

theorem render_eq_ok {options : Options} {entropy : RandomSource}
    {run : RunSummary × List RenderedUnit} (h : render options host entropy = .ok run) :
    ∃ p', (Pipeline.start options).run host entropy rendering [] = (.ok run.1, p', run.2) := by
  rw [render] at h
  rcases hstart : (Pipeline.start options).run host entropy rendering [] with ⟨outcome, p', units⟩
  rw [hstart] at h
  obtain ⟨summary, houtcome, rfl⟩ := exceptMap_eq_ok_iff.mp h
  exact ⟨p', by rw [houtcome]⟩

theorem render_eq_error {options : Options} {entropy : RandomSource} {e : FixtureError}
    (h : ((Pipeline.start options).run host entropy rendering []).1 = .error e) :
    render options host entropy = .error e := by
  rw [render]
  show Except.map _ ((Pipeline.start options).run host entropy rendering []).1 = _
  rw [h]
  rfl

section Generations

variable (g : Generator) (s : Surroundings) (fs : Files.FileSystem)

/-- The report of a generation before files are written. -/
def reportOf (options : Options) (run : RunSummary × List RenderedUnit) : GenerationReport where
  options := options
  dryRun := g.dryRun
  skipped := run.1.skipped
  outputDirectory := g.outputDirectory
  units := run.2
  filesWritten := []

/-- **A listing and a generation begin alike**: both resolve the options and index the sources, and
both stop at what goes wrong there. -/
theorem list_prepare_cases :
    (∃ e, g.list s fs = .error e ∧ g.prepare s fs = .error e) ∨
    ∃ options index, g.resolveOptions s fs = .ok options ∧ g.index fs = .ok index ∧
      g.list s fs = (listHost options index.toHost).mapError .engine ∧
      g.prepare s fs =
        ((render options index.toHost s.entropy).mapError .engine).map (g.reportOf options) := by
  rw [list, prepare]
  cases hoptions : g.resolveOptions s fs with
  | error e => exact Or.inl ⟨e, rfl, rfl⟩
  | ok options =>
      cases hindex : g.index fs with
      | error e => exact Or.inl ⟨e, rfl, rfl⟩
      | ok index =>
          refine Or.inr ⟨options, index, rfl, rfl, rfl, ?_⟩
          show ((render options index.toHost s.entropy).mapError GenerationError.engine >>= _) = _
          cases render options index.toHost s.entropy <;> rfl

/-- What a generation reports of its units does not depend on whether they are written. -/
theorem exists_prepare_of_generate {report : GenerationReport}
    (h : (g.generate s fs).1 = .ok report) :
    ∃ prepared, g.prepare s fs = .ok prepared ∧ report.units = prepared.units := by
  rw [generate] at h
  cases hprepared : g.prepare s fs with
  | error e =>
      rw [hprepared] at h
      cases h
  | ok prepared =>
      refine ⟨prepared, rfl, ?_⟩
      simp only [hprepared] at h
      split at h
      · rw [← Except.ok.inj h]
      · obtain ⟨paths, -, rfl⟩ := exceptMap_eq_ok_iff.mp h
        rfl

variable {g s fs}

/-- **Where the run of a generation succeeds, the listing does**, and its fixtures are the factories
of the units of the run. -/
theorem exists_list_of_prepare
    (hrun : ∀ options, g.resolveOptions s fs = .ok options → options.run.value = true)
    {report : GenerationReport} (h : g.prepare s fs = .ok report) :
    ∃ index listing units, g.index fs = .ok index ∧ g.list s fs = .ok listing ∧
      units = (Pipeline.start report.options).runCalls index.toHost s.entropy rendering [] ∧
      report.units = units.map .ofSpec ∧
      List.Forall₂ FixtureInfo.Lists listing.fixtures (emittedFactories units) := by
  rcases g.list_prepare_cases s fs with ⟨e, -, hprepare⟩ |
    ⟨options, index, hoptions, hindex, hlist, hprepare⟩
  · cases hprepare.symm.trans h
  · obtain ⟨run, hmapped, rfl⟩ := exceptMap_eq_ok_iff.mp (hprepare.symm.trans h)
    obtain ⟨p', hstart⟩ := render_eq_ok (mapError_eq_ok_iff.mp hmapped)
    have hon := hrun options hoptions
    obtain ⟨listing, hlisted, hlists⟩ := listHost_of_start_run hon hstart
    obtain ⟨-, -, -, haccepts, -⟩ :=
      Pipeline.start_run_eq_ok hon index.toHost s.entropy rendering [] hstart
    refine ⟨index, listing, _, hindex, ?_, rfl, ?_, hlists⟩
    · rw [hlist, hlisted]
      rfl
    · exact eq_append_of_accepts_rendering haccepts

/-- **What stops a listing stops a generation** before any file is written. -/
theorem prepare_of_list_eq_error
    (hrun : ∀ options, g.resolveOptions s fs = .ok options → options.run.value = true)
    {e : GenerationError} (h : g.list s fs = .error e) : g.prepare s fs = .error e := by
  rcases g.list_prepare_cases s fs with ⟨e', hlist, hprepare⟩ |
    ⟨options, index, hoptions, -, hlist, hprepare⟩
  · cases hlist.symm.trans h
    exact hprepare
  · rw [hlist] at h
    cases hlisted : listHost options index.toHost with
    | ok listing =>
        rw [hlisted] at h
        cases h
    | error e' =>
        have hrendered := render_eq_error
          (start_run_of_listHost_eq_error (hrun options hoptions) hlisted s.entropy rendering [])
        rw [hlisted] at h
        rw [hprepare, hrendered, ← Except.error.inj h]
        rfl

variable (g s fs)

/-- **A listing and a generation agree.**  If the run of a generation succeeds, the listing does,
and its fixtures are the factories of the units of the run, in order, with the names and types of
their parameters; and what stops the listing stops the generation with the same error, before any
file is written.

In the other direction nothing can be said, as a build and the writing of files may fail in ways
that a listing does not come to. -/
theorem list_agrees_with_generate
    (hrun : ∀ options, g.resolveOptions s fs = .ok options → options.run.value = true) :
    (∀ report, g.prepare s fs = .ok report →
      ∃ index listing units, g.index fs = .ok index ∧ g.list s fs = .ok listing ∧
        units = (Pipeline.start report.options).runCalls index.toHost s.entropy rendering [] ∧
        report.units = units.map .ofSpec ∧
        List.Forall₂ FixtureInfo.Lists listing.fixtures (emittedFactories units)) ∧
    (∀ report, (g.generate s fs).1 = .ok report →
      ∃ prepared, g.prepare s fs = .ok prepared ∧ report.units = prepared.units) ∧
    ∀ e, g.list s fs = .error e → g.generate s fs = (.error e, fs) := by
  refine ⟨fun report => exists_list_of_prepare hrun,
    fun report => g.exists_prepare_of_generate s fs, fun e he => ?_⟩
  have hprepare : g.prepare s fs = .error e := prepare_of_list_eq_error hrun he
  rw [generate, hprepare]

end Generations

/-- Surroundings that set no option. -/
def bareSurroundings : Surroundings := ⟨fun _ => none, ⟨fun _ => 0, 0⟩⟩

/-- A source directory with one file, in which one record is marked. -/
def personFiles : Files.FileSystem :=
  ⟨.directory [("src", .directory
    [("lib.rs", .file (.text "#[fixture] struct Person { age: u8 }"))])], []⟩

/-- A listing of a record that can be built, and one that stops for want of sources. -/
theorem list_agrees_with_generate_person :
    let s := bareSurroundings
    let fs := personFiles
    let bare : Files.FileSystem := ⟨.empty, []⟩
    (∀ options, usual.resolveOptions s fs = .ok options → options.run.value = true) ∧
    (∃ report index listing units, usual.prepare s fs = .ok report ∧
      report.units.map (·.factories) = [["create_person"]] ∧
      usual.index fs = .ok index ∧ usual.list s fs = .ok listing ∧
      units = (Pipeline.start report.options).runCalls index.toHost s.entropy rendering [] ∧
      report.units = units.map .ofSpec ∧
      List.Forall₂ FixtureInfo.Lists listing.fixtures (emittedFactories units)) ∧
    usual.list s bare = .error (.sourceNotFound "src") ∧
    usual.generate s bare = (.error (.sourceNotFound "src"), bare) := by
  intro s fs bare
  have hrun : ∀ fs : Files.FileSystem, usual.resolveOptions s fs = .ok .defaults →
      ∀ options, usual.resolveOptions s fs = .ok options → options.run.value = true := by
    intro fs hdefaults options hoptions
    rw [← Except.ok.inj (hdefaults.symm.trans hoptions)]
    rfl
  have hlist : usual.list s bare = .error (.sourceNotFound "src") := rfl
  refine ⟨hrun fs rfl, ?_, hlist,
    (list_agrees_with_generate usual s bare (hrun bare rfl)).2.2 _ hlist⟩
  have hfactories : (usual.prepare bareSurroundings personFiles).toOption.map
      (fun report => report.units.map (·.factories)) = some [["create_person"]] := by
    decide +kernel
  cases hprepare : usual.prepare s fs with
  | error e =>
      rw [hprepare] at hfactories
      cases hfactories
  | ok report =>
      rw [hprepare] at hfactories
      obtain ⟨index, listing, units, hagree⟩ :=
        (list_agrees_with_generate usual s fs (hrun fs rfl)).1 report hprepare
      obtain ⟨hindex, hlisting, hunits, hrendered, hlists⟩ := hagree
      exact ⟨report, index, listing, units, rfl, Option.some.inj hfactories, hindex, hlisting,
        hunits, hrendered, hlists⟩

end Generator
end FixtureFactory
