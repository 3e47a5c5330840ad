import FixtureFactory.Proofs.Failures
import FixtureFactory.Proofs.Writing

/-!
# From a request to files

A generation resolves its options, indexes the sources, runs the pipeline and renders the units; up
to there it has not touched a file.  What it has got then is a report, and the files to be written
are made of the units of that report.

* `failsWith_prepare`: no error up to there is one of writing, so such an error says that the run
  was over.
* `prepare_eq_ok`: what a report says of the run that it comes from.
* `isFileName_of_mem_unitOutputs` and `nodup_unitOutputs`: the files to be written lie in the output
  directory itself, and no two of them are one.  The names of the units differ by what the build
  claims, and none of them is that of the module that mounts them, by their ending.
* `generate_cases`: the three ways of a generation.
-/

namespace FixtureFactory

open Files (FileSystem IsFileName)

/-! ## Errors before anything is written -/

/-- The error is one of the options, of the sources or of the run.  The others are those of
writing. -/
def GenerationError.PrecedesWriting : GenerationError → Prop
  | .unwritable _ _ => False
  | _ => True

namespace Generator

variable (g : Generator) (s : Surroundings) (fs : FileSystem)

theorem failsWith_readManifestAt (path : String) :
    FailsWith GenerationError.PrecedesWriting (readManifestAt fs path) :=
  failsWith_mapError fun _ => trivial

theorem failsWith_resolveOptions :
    FailsWith GenerationError.PrecedesWriting (g.resolveOptions s fs) := by
  have hmanifest : FailsWith GenerationError.PrecedesWriting (g.readManifest fs) := by
    rw [readManifest]
    cases g.manifest with
    | some path => exact (failsWith_readManifestAt fs path).map some
    | none =>
        dsimp only
        split
        · exact (failsWith_readManifestAt fs g.implicitManifest).map some
        · exact failsWith_ok none
  refine hmanifest.bind fun manifest => ?_
  exact failsWith_mapError fun _ => trivial

theorem failsWith_collectSources (root : String) (excluded : List String) :
    FailsWith GenerationError.PrecedesWriting (collectSources fs root excluded) := by
  rw [collectSources]
  split
  · refine FailsWith.bind (failsWith_mapM fun found _ => ?_) fun read => failsWith_ok _
    rw [FoundFile.read]
    cases found.content with
    | text text => exact failsWith_ok _
    | bytes bytes => exact failsWith_error trivial
  · exact failsWith_error trivial

/-- **No error before anything is written is one of writing.** -/
theorem failsWith_prepare : FailsWith GenerationError.PrecedesWriting (g.prepare s fs) := by
  refine (failsWith_resolveOptions g s fs).bind fun options => ?_
  have hindex : FailsWith GenerationError.PrecedesWriting (g.index fs) := by
    refine (failsWith_collectSources fs _ _).bind fun files => ?_
    exact failsWith_mapError fun _ => trivial
  refine hindex.bind fun index => ?_
  refine FailsWith.bind ?_ fun run => failsWith_ok _
  exact failsWith_mapError fun _ => trivial

/-! ## Reports -/

variable {g s fs}

/-- **What a report says of its run.** -/
theorem prepare_eq_ok {report : GenerationReport} (h : g.prepare s fs = .ok report) :
    g.resolveOptions s fs = .ok report.options ∧ report.dryRun = g.dryRun ∧
      report.skipped = !report.options.run.value ∧
      ∃ index summary p, g.index fs = .ok index ∧
        (Pipeline.start report.options).run index.toHost s.entropy rendering [] =
          (.ok summary, p, report.units) := by
  rcases g.list_prepare_cases s fs with ⟨e, -, hprepare⟩ |
    ⟨options, index, hoptions, hindex, -, hprepare⟩
  · cases hprepare.symm.trans h
  · obtain ⟨run, hmapped, rfl⟩ := exceptMap_eq_ok_iff.mp (hprepare.symm.trans h)
    obtain ⟨p, hstart⟩ := render_eq_ok (mapError_eq_ok_iff.mp hmapped)
    refine ⟨hoptions, rfl, ?_, index, run.1, p, hindex, hstart⟩
    show run.1.skipped = !options.run.value
    cases hrun : options.run.value with
    | false =>
        rw [Pipeline.start_run_of_off hrun] at hstart
        rw [← Except.ok.inj (congrArg Prod.fst hstart)]
        rfl
    | true =>
        obtain ⟨-, -, -, -, hsummary⟩ := Pipeline.start_run_eq_ok hrun _ _ _ _ hstart
        rw [hsummary]
        rfl

/-- The units of an index are named after their files. -/
theorem baseName_of_mem_units {index : SourceIndex} (h : g.index fs = .ok index)
    {unit : SourceUnit} (hunit : unit ∈ index.units) : unit.baseName = unitBaseName unit.path := by
  rw [Generator.index] at h
  cases hfiles : collectSources fs g.sourceDirectory [g.outputDirectory] with
  | error e =>
      rw [hfiles] at h
      cases h
  | ok files =>
      rw [hfiles] at h
      obtain ⟨parsed, -, rfl⟩ := exceptMap_eq_ok_iff.mp (mapError_eq_ok_iff.mp h)
      obtain ⟨file, -, rfl⟩ := List.mem_map.mp hunit
      rfl

end Generator

/-! ## The files of a run -/

/-- The files of output units: the rendered units, each under its name, and the module that mounts
them. -/
def unitOutputs (units : List UnitSpec) : List (String × String) :=
  (units.map fun u => (u.name ++ ".rs", u.render)) ++
    [("mod.rs", "//! Generated by fixturegen. Do not edit.\n\n" ++
      String.join (units.map fun u => "pub mod " ++ u.name ++ ";\n"))]

theorem renderModFile_map_name (units : List UnitSpec) :
    renderModFile (units.map UnitSpec.name) = "//! Generated by fixturegen. Do not edit.\n\n" ++
      String.join (units.map fun u => "pub mod " ++ u.name ++ ";\n") := by
  unfold renderModFile
  rw [List.map_map]
  congr 1

theorem outputFiles_map_ofSpec (units : List UnitSpec) :
    Generator.outputFiles (units.map .ofSpec) = unitOutputs units := by
  have hfiles : (units.map RenderedUnit.ofSpec).map (fun u => (u.fileName, u.source)) =
      units.map fun u => (u.name ++ ".rs", u.render) := List.map_map
  have hnames : (units.map RenderedUnit.ofSpec).map (·.name) = units.map UnitSpec.name :=
    List.map_map
  rw [Generator.outputFiles, hfiles, hnames, renderModFile_map_name, unitOutputs,
    Generator.modFileName]

section Outputs

variable {units : List UnitSpec}

theorem mem_unitOutputs {file : String × String} (h : file ∈ unitOutputs units) :
    (∃ unit ∈ units, file.1 = unit.name ++ ".rs") ∨ file.1 = "mod.rs" := by
  rcases List.mem_append.mp h with h | h
  · obtain ⟨unit, hunit, rfl⟩ := List.mem_map.mp h
    exact Or.inl ⟨unit, hunit, rfl⟩
  · rw [List.mem_singleton.mp h]
    exact Or.inr rfl

/-- The names of the files of units that are named after source files are names of single files. -/
theorem isFileName_of_mem_unitOutputs
    (hsources : ∀ unit ∈ units, ∃ path, unit.name = outputUnitName (unitBaseName path))
    {file : String × String} (h : file ∈ unitOutputs units) : IsFileName file.1 := by
  rcases mem_unitOutputs h with ⟨unit, hunit, hname⟩ | hname
  · obtain ⟨path, hpath⟩ := hsources unit hunit
    have hlong : 3 ≤ file.1.length := by
      rw [hname, String.length_append]
      exact Nat.le_add_left _ _
    refine ⟨?_, ?_, ?_, ?_⟩
    · rw [hname, hpath, outputUnitName, String.toList_append, String.toList_append,
        List.mem_append, List.mem_append]
      rintro ((hslash | hslash) | hslash)
      · exact Files.noSlash_unitBaseName path hslash
      · exact absurd hslash (by decide)
      · exact absurd hslash (by decide)
    all_goals
      intro hshort
      rw [hshort] at hlong
      exact absurd hlong (by decide)
  · rw [hname]
    exact ⟨by decide, by decide, by decide, by decide⟩

/-- **No two files of units have one name**, where no two units have. -/
theorem nodup_unitOutputs (hnames : (units.map UnitSpec.name).Nodup)
    (hsources : ∀ unit ∈ units, ∃ path, unit.name = outputUnitName (unitBaseName path)) :
    ((unitOutputs units).map Prod.fst).Nodup := by
  have hfirst : (unitOutputs units).map Prod.fst =
      (units.map UnitSpec.name).map (· ++ ".rs") ++ ["mod.rs"] := by
    rw [unitOutputs, List.map_append, List.map_map, List.map_map]
    rfl
  rw [hfirst, List.nodup_append]
  refine ⟨hnames.map fun a b hab => (String.append_left_inj _).mp hab, List.nodup_singleton _, ?_⟩
  intro name hname mod hmod heq
  obtain ⟨unitName, hunitName, rfl⟩ := List.mem_map.mp hname
  obtain ⟨unit, hunit, rfl⟩ := List.mem_map.mp hunitName
  obtain ⟨path, hpath⟩ := hsources unit hunit
  -- the ending of a unit alone is longer than the name of the module
  have hlong : 11 ≤ (unit.name ++ ".rs").length := by
    rw [hpath, outputUnitName, String.length_append, String.length_append, Nat.add_assoc]
    exact Nat.le_add_left _ _
  rw [heq, List.mem_singleton.mp hmod] at hlong
  exact absurd hlong (by decide)

end Outputs

/-! ## Runs -/

namespace Generator

variable {g : Generator} {s : Surroundings} {fs : FileSystem}

/-- **The units of a generation** that is not switched off: the report has them rendered, their
names differ, and each is named after a source file. -/
theorem exists_units_of_prepare {report : GenerationReport} (h : g.prepare s fs = .ok report)
    (hrun : report.options.run.value = true) {index : SourceIndex}
    (hindex : g.index fs = .ok index) :
    ∃ units, units = (Pipeline.start report.options).runCalls index.toHost s.entropy rendering [] ∧
      report.units = units.map .ofSpec ∧ (units.map UnitSpec.name).Nodup ∧
      ∀ unit ∈ units, ∃ path, unit.name = outputUnitName (unitBaseName path) := by
  obtain ⟨-, -, -, index', summary, p, hindex', hstart⟩ := prepare_eq_ok h
  obtain rfl := Except.ok.inj (hindex'.symm.trans hindex)
  obtain ⟨-, -, -, haccepts, -⟩ := Pipeline.start_run_eq_ok hrun _ _ _ _ hstart
  refine ⟨_, rfl, eq_append_of_accepts_rendering haccepts,
    Pipeline.nodup_name_of_start_run hrun hstart, fun unit hunit => ?_⟩
  obtain ⟨group, -, hcovers⟩ :=
    exists_mem_left_of_forall₂ (Pipeline.covers_of_start_run hrun hstart) hunit
  obtain ⟨source, hsource, hname, -, -⟩ := hcovers.source
  refine ⟨source.path, ?_⟩
  rw [hname, baseName_of_mem_units hindex (List.mem_of_find?_eq_some hsource)]

/-! ## Generations -/

/-- **The three ways of a generation**: it fails before anything is written, or it is not to write
anything, or it writes the files of its units. -/
theorem generate_cases (g : Generator) (s : Surroundings) (fs : FileSystem) :
    (∃ e, g.prepare s fs = .error e ∧ e.PrecedesWriting ∧ g.generate s fs = (.error e, fs)) ∨
    (∃ report, g.prepare s fs = .ok report ∧
      (g.dryRun = true ∨ report.options.run.value = false) ∧
      g.generate s fs = (.ok report, fs)) ∨
    ∃ report outcome fs', g.prepare s fs = .ok report ∧ g.dryRun = false ∧
      report.options.run.value = true ∧
      Writes g.outputDirectory (outputFiles report.units) fs (outcome, fs') ∧
      g.generate s fs = (outcome.map fun paths => { report with filesWritten := paths }, fs') := by
  rw [generate]
  cases hprepare : g.prepare s fs with
  | error e => exact Or.inl ⟨e, rfl, failsWith_prepare g s fs e hprepare, rfl⟩
  | ok report =>
      obtain ⟨-, hdry, hskipped, index, summary, p, hindex, hstart⟩ := prepare_eq_ok hprepare
      dsimp only
      split
      · next hoff =>
          refine Or.inr (Or.inl ⟨report, rfl, ?_, rfl⟩)
          rw [Bool.or_eq_true, hdry, hskipped, Bool.not_eq_true'] at hoff
          exact hoff
      · next hon =>
          rw [Bool.not_eq_true, Bool.or_eq_false_iff, hdry, hskipped, Bool.not_eq_false'] at hon
          obtain ⟨units, -, hunits, hnames, hsources⟩ :=
            exists_units_of_prepare hprepare hon.2 hindex
          refine Or.inr (Or.inr ⟨report, _, _, rfl, hon.1, hon.2, ?_, rfl⟩)
          rw [hunits, outputFiles_map_ofSpec]
          refine writes_writeFiles _ ?_ (nodup_unitOutputs hnames hsources) fs
          exact List.append_ne_nil_of_right_ne_nil _ (List.cons_ne_nil _ _)

end Generator
end FixtureFactory
