import FixtureFactory.Proofs.Preparation

/-!
# What a generation changes

A generation that writes leaves one file for each of its units, and the module that mounts them; a
generation that does not leaves everything as it was.  Nothing else is ever changed but that the
output directory is made, with those above it, as far as they are missing.

The name of a unit comes up in three places that nothing ties together: in the name of its file, in
the line of the module that mounts it, and in the module path of every reference to one of its
factories.  The first two are read off the units, the third is made while the fields are classified,
before there is any unit.  `exists_unit_of_refersTo` joins it to the others: the factory that a
reference names is in a unit whose name ends the module path, and that unit is mounted.
-/

namespace FixtureFactory

open Files (FileSystem IsFileName)

/-! ## Files as they are read -/

namespace Files.FileSystem

/-- Files have been written into a directory, and nothing else has changed but that the directory
has been made, with those above it, as far as they were missing. -/
structure HasWritten (directory : String) (files : List (String × String)) (fs fs' : FileSystem) :
    Prop where
  /-- Each file has its text under its path. -/
  readText : ∀ file ∈ files, fs'.readText (join directory file.1) = .ok file.2
  /-- Whatever stands anywhere is one of these files in the directory, or it has not changed, or it
  is a directory on the path of the output directory that was missing. -/
  places : ∃ position, fs'.directoryPlace directory = .ok position ∧
    fs'.node? position = some .directory ∧
    ∀ place,
      (∃ file ∈ files, place = position ++ [file.1] ∧
        fs'.node? place = some (.file (.text file.2))) ∨
      fs'.node? place = fs.node? place ∨
      (fs.node? place = none ∧ fs'.node? place = some .directory ∧
        fs'.GoesThrough directory place)
  working : fs'.working = fs.working

/-- A directory that has been made and has got files, all under names of single files. -/
theorem hasWritten_of_hasReceived {directory : String} {files : List (String × String)}
    {fs made fs' : FileSystem} {position : List String}
    (hnames : ∀ file ∈ files, IsFileName file.1) (hmade : AddsDirectories directory fs made)
    (hplace : made.directoryPlace directory = .ok position)
    (hdirectory : made.node? position = some .directory)
    (hreceived : HasReceived position files made fs') : HasWritten directory files fs fs' := by
  have hextends := hreceived.toExtends
  have hplace' := hextends.directoryPlace hplace
  have hdirectory' := hextends.directory _ hdirectory
  refine ⟨fun file hfile => ?_, ⟨position, hplace', hdirectory', fun place => ?_⟩,
    hextends.working.trans hmade.working⟩
  · have hcontent := hreceived.contents file hfile
    refine readText_of_node? (locate_join (hnames file hfile) hplace' hdirectory' ?_) hcontent
    rw [hcontent]
    rfl
  · rcases hreceived.node?_cases place with hfile | hsame
    · exact Or.inl hfile
    · rw [hsame]
      exact Or.inr ((hmade.nodes place).imp_right fun ⟨hnone, hdir, hthrough⟩ =>
        ⟨hnone, hdir, hextends.goesThrough hthrough⟩)

end Files.FileSystem

open Files.FileSystem (HasWritten hasWritten_of_hasReceived)

theorem Generator.Writes.hasWritten {directory : String} {files : List (String × String)}
    {fs fs' : FileSystem} {paths : List String} (h : Writes directory files fs (.ok paths, fs'))
    (hnames : ∀ file ∈ files, IsFileName file.1) :
    paths = files.map (fun file => Files.join directory file.1) ∧
      HasWritten directory files fs fs' := by
  cases h with
  | done hmade hplace hdirectory hreceived =>
      exact ⟨rfl, hasWritten_of_hasReceived hnames hmade hplace hdirectory hreceived⟩

/-! ## References -/

/-- The default value of the parameter, or of a case of its type, is made by the factory. -/
inductive Parameter.RefersTo (q : Parameter) (ref : FactoryRef) : Prop
  | fixture (hkind : q.kind = .fixture ref)
  | sealed {entries : List SealedEntry} {entry : SealedEntry} (hkind : q.kind = .sealed entries)
      (hentry : entry ∈ entries) (hfactory : entry.factory = some ref)

/-- A reference that leads to a factory leads into a unit. -/
theorem LeadsToFactory.exists_unit {units : List UnitSpec} {ref : FactoryRef} {d : TypeDeclaration}
    (h : LeadsToFactory units ref d) :
    ∃ unit ∈ units, unit.modulePath = ref.modulePath ∧
      ref.function ∈ unit.functions.map FunctionSpec.name := by
  obtain ⟨fn, hfactories, -⟩ := h
  have hfn : fn ∈ factoriesAt units ref := by
    rw [hfactories]
    exact List.mem_singleton_self fn
  obtain ⟨unit, hunit, hfn⟩ := List.mem_flatMap.mp hfn
  obtain ⟨hunit, hmodule⟩ := List.mem_filter.mp hunit
  obtain ⟨hfn, hname⟩ := List.mem_filter.mp hfn
  refine ⟨unit, hunit, beq_iff_eq.mp hmodule, ?_⟩
  rw [← beq_iff_eq.mp hname]
  exact List.mem_map_of_mem hfn

/-- The references of a closed parameter lead to factories. -/
theorem Parameter.Closed.exists_leadsToFactory {host : Host} {units : List UnitSpec} {field : Field}
    {q : Parameter} (h : q.Closed host units field) {ref : FactoryRef} (href : q.RefersTo ref) :
    ∃ d, LeadsToFactory units ref d := by
  cases href with
  | fixture hkind =>
      obtain ⟨⟨d, -, hleads⟩, -⟩ := h.fixture ref hkind
      exact ⟨d, hleads⟩
  | sealed hkind hentry hfactory =>
      obtain ⟨d, -, hentries⟩ := h.sealed _ hkind
      obtain ⟨c, -, hcase⟩ := exists_mem_left_of_forall₂ hentries hentry
      obtain ⟨-, e, -, -, hleads⟩ := hcase ref hfactory
      exact ⟨e, hleads⟩

/-- **References point into the units.**  The module path of a reference is the mount point and the
name of a unit that has a function of the name. -/
theorem Pipeline.exists_unit_of_refersTo {σ : Type} {options : Options}
    (hrun : options.run.value = true) {host : Host} (hhost : host.Coherent)
    {entropy : RandomSource} {receive : Receiver σ} {s s' : σ} {summary : RunSummary}
    {p : Pipeline} (h : (start options).run host entropy receive s = (.ok summary, p, s'))
    {f : Fixture} (hf : f ∈ p.fixtures.toList) {q : Parameter} (hq : q ∈ f.parameters)
    {ref : FactoryRef} (href : q.RefersTo ref) :
    ∃ unit ∈ (start options).runCalls host entropy receive s,
      ref.modulePath = options.naming.root ++ "::" ++ unit.name ∧
      ref.function ∈ unit.functions.map FunctionSpec.name := by
  obtain ⟨owner, field, hclassify⟩ := exists_classify_of_mem_parameters hrun h hf hq
  have hcovers := covers_of_start_run hrun h
  obtain ⟨d, hleads⟩ := (closed_of_classify hhost hcovers (nodup_name_of_start_run hrun h)
    hclassify).exists_leadsToFactory href
  obtain ⟨unit, hunit, hmodule, hfunction⟩ := hleads.exists_unit
  obtain ⟨group, -, hcover⟩ := exists_mem_left_of_forall₂ hcovers hunit
  exact ⟨unit, hunit, hmodule.symm.trans hcover.modulePath_eq, hfunction⟩

/-! ## Generations -/

namespace Generator

variable {g : Generator} {s : Surroundings} {fs : FileSystem}

/-- **A generation that does not come to write changes nothing.** -/
theorem generate_unchanged (h : ∀ report, g.prepare s fs = .ok report → g.dryRun = false →
    report.options.run.value = false) : (g.generate s fs).2 = fs := by
  rcases g.generate_cases s fs with ⟨e, -, -, hgenerate⟩ | ⟨report, -, -, hgenerate⟩ |
    ⟨report, outcome, fs', hprepare, hdry, hrun, -, -⟩
  · rw [hgenerate]
  · rw [hgenerate]
  · cases hrun.symm.trans (h report hprepare hdry)

/-- An error that is not one of writing leaves everything as it was. -/
theorem generate_unchanged_of_error {e : GenerationError} (h : (g.generate s fs).1 = .error e)
    (he : e.PrecedesWriting) : (g.generate s fs).2 = fs := by
  rcases g.generate_cases s fs with ⟨e', -, -, hgenerate⟩ | ⟨report, -, -, hgenerate⟩ |
    ⟨report, outcome, fs', -, -, -, hwrites, hgenerate⟩
  · rw [hgenerate]
  · rw [hgenerate]
  · -- an error of writing would be the only one left
    rw [hgenerate] at h
    cases hwrites with
    | noDirectory => exact absurd he (Except.error.inj h ▸ not_false)
    | blocked => exact absurd he (Except.error.inj h ▸ not_false)
    | done => cases h

/-- **A generation that writes** has run the pipeline to its end, and has written the files of the
units. -/
theorem generate_writes {report : GenerationReport} (h : (g.generate s fs).1 = .ok report)
    (hdry : g.dryRun = false) (hrun : report.options.run.value = true) :
    g.resolveOptions s fs = .ok report.options ∧
    ∃ index units summary p, g.index fs = .ok index ∧
      (Pipeline.start report.options).run index.toHost s.entropy rendering [] =
        (.ok summary, p, report.units) ∧
      units = (Pipeline.start report.options).runCalls index.toHost s.entropy rendering [] ∧
      report.units = units.map .ofSpec ∧ (units.map UnitSpec.name).Nodup ∧
      report.filesWritten =
        (unitOutputs units).map (fun file => Files.join g.outputDirectory file.1) ∧
      HasWritten g.outputDirectory (unitOutputs units) fs (g.generate s fs).2 := by
  rcases g.generate_cases s fs with ⟨e, -, -, hgenerate⟩ | ⟨prepared, -, hoff, hgenerate⟩ |
    ⟨prepared, outcome, fs', hprepare, -, hon, hwrites, hgenerate⟩
  · rw [hgenerate] at h
    cases h
  · rw [hgenerate] at h
    obtain rfl := Except.ok.inj h
    rcases hoff with hoff | hoff
    · cases hdry.symm.trans hoff
    · cases hrun.symm.trans hoff
  · rw [hgenerate] at h ⊢
    obtain ⟨paths, rfl, rfl⟩ := exceptMap_eq_ok_iff.mp h
    obtain ⟨hoptions, -, -, index, summary, p, hindex, hstart⟩ := prepare_eq_ok hprepare
    obtain ⟨units, hcalls, hunits, hnames, hsources⟩ := exists_units_of_prepare hprepare hon hindex
    rw [hunits, outputFiles_map_ofSpec] at hwrites
    obtain ⟨hpaths, hwritten⟩ := hwrites.hasWritten fun file hfile =>
      isFileName_of_mem_unitOutputs hsources hfile
    exact ⟨hoptions, index, units, summary, p, hindex, hstart, hcalls, hunits, hnames, hpaths,
      hwritten⟩

/-- **A generation changes its outputs and nothing else.**  A dry run, a generation that the options
switch off, and one that fails before it writes leave the file system as it was.  One that succeeds
otherwise has written, for the units that the pipeline has handed over, one file each, named after
the unit and with its rendered text, and the module that has one line for each unit in their order;
the report lists the paths of these files.  The module of a unit is under the mount point by the
name of the unit, and every reference to a factory points into the module of one of the units. -/
theorem generate_changes_outputs (g : Generator) (s : Surroundings) (fs : FileSystem) :
    let fs' := (g.generate s fs).2
    (g.dryRun = true → fs' = fs) ∧
    (∀ options, g.resolveOptions s fs = .ok options → options.run.value = false → fs' = fs) ∧
    (∀ e, g.prepare s fs = .error e → g.generate s fs = (.error e, fs)) ∧
    (∀ e, (g.generate s fs).1 = .error e → e.PrecedesWriting → fs' = fs) ∧
    ∀ report, (g.generate s fs).1 = .ok report → g.dryRun = false →
      report.options.run.value = true →
      g.resolveOptions s fs = .ok report.options ∧
      ∃ index units summary p, g.index fs = .ok index ∧
        (Pipeline.start report.options).run index.toHost s.entropy rendering [] =
          (.ok summary, p, report.units) ∧
        units = (Pipeline.start report.options).runCalls index.toHost s.entropy rendering [] ∧
        report.units = units.map .ofSpec ∧ (units.map UnitSpec.name).Nodup ∧
        report.filesWritten =
          (unitOutputs units).map (fun file => Files.join g.outputDirectory file.1) ∧
        HasWritten g.outputDirectory (unitOutputs units) fs fs' ∧
        (∀ unit ∈ units, unit.modulePath = report.options.naming.root ++ "::" ++ unit.name) ∧
        ∀ f ∈ p.fixtures.toList, ∀ q ∈ f.parameters, ∀ ref, q.RefersTo ref →
          ∃ unit ∈ units,
            ref.modulePath = report.options.naming.root ++ "::" ++ unit.name ∧
            ref.function ∈ unit.functions.map FunctionSpec.name := by
  intro fs'
  refine ⟨fun hdry => ?_, fun options hoptions hoff => ?_, fun e he => ?_,
    fun e => generate_unchanged_of_error, fun report hreport hdry hrun => ?_⟩
  · exact generate_unchanged fun _ _ hwet => nomatch hdry.symm.trans hwet
  · refine generate_unchanged fun report hprepare _ => ?_
    rw [← Except.ok.inj (hoptions.symm.trans (prepare_eq_ok hprepare).1), hoff]
  · rw [generate, he]
  · obtain ⟨hoptions, index, units, summary, p, hindex, hstart, rfl, hunits, hnames, hpaths,
      hwritten⟩ := generate_writes hreport hdry hrun
    refine ⟨hoptions, index, _, summary, p, hindex, hstart, rfl, hunits, hnames, hpaths, hwritten,
      fun unit hunit => ?_, fun f hf q hq ref href => ?_⟩
    · obtain ⟨group, -, hcovers⟩ :=
        exists_mem_left_of_forall₂ (Pipeline.covers_of_start_run hrun hstart) hunit
      exact hcovers.modulePath_eq
    · exact Pipeline.exists_unit_of_refersTo hrun index.coherent_toHost hstart hf hq href

/-- A generation for one record that writes its two files. -/
theorem generate_changes_outputs_person :
    let outcome := usual.generate bareSurroundings personFiles
    let paths := ["src/fixtures/lib_fixture.rs", "src/fixtures/mod.rs"]
    ∃ report, outcome.1 = .ok report ∧ report.filesWritten = paths ∧
      outcome.2.readText "src/fixtures/mod.rs" =
        .ok "//! Generated by fixturegen. Do not edit.\n\npub mod lib_fixture;\n" ∧
      ∃ units, report.units = units.map .ofSpec ∧
        paths = (unitOutputs units).map (fun file => Files.join "src/fixtures" file.1) ∧
        HasWritten "src/fixtures" (unitOutputs units) personFiles outcome.2 := by
  intro outcome paths
  have hsuccess : outcome.1.map (fun report => (report.filesWritten, report.options.run.value)) =
      .ok (paths, true) := by
    decide +kernel
  obtain ⟨report, hreport, hvalues⟩ := exceptMap_eq_ok_iff.mp hsuccess
  obtain ⟨hwritten, hrun⟩ := Prod.mk.inj hvalues
  obtain ⟨-, index, units, summary, p, -, -, -, hunits, -, hpaths, hfiles, -⟩ :=
    (generate_changes_outputs usual bareSurroundings personFiles).2.2.2.2 report hreport rfl
      hrun.symm
  refine ⟨report, hreport, hwritten.symm, by decide +kernel, units, hunits, ?_, hfiles⟩
  rw [hwritten]
  exact hpaths

end Generator
end FixtureFactory
