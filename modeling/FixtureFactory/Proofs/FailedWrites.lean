import FixtureFactory.Proofs.Preparation

/-!
# What a failure to write leaves behind

A generation puts its files in place one after another, and it does not take back what it has put in
place.  So where it fails to write, the files before the one that could not be put in place are
there.  A file that was in the output directory before has kept its content if none of these stands
under its name, or if it had the new content already; and that no file is new needs the same of all
of them.  This is what `failed_write_keeps_files_iff` says: a failure keeps the files as they were
if and only if every file that has been put in place was there before with the same text.

Among the five faults of `Files.Fault` the obstacle is always a directory, either missing or in the
way.  Where the output directory cannot be made or is not there, nothing has been put in place, and
all files are as they were.

Faults that do not show in a tree of files are left out.  A disk that is full, a directory that may
not be written to or a temporary file that cannot be made would stop a generation before its first
file is in place.  A name that is too long for the file system would stop it at that file, with
those before it in place.  What is kept does not depend on why a file could not be put in place: the
equivalence is about the files before it.  Such a fault would only come up in the place of a
directory that has the name of the file.
-/

namespace FixtureFactory

open Files (FileSystem)
open Files.FileSystem (AddsDirectories HasReceived)

namespace Files.FileSystem

/-- No file is new or gone, and none has another content. -/
def KeepsFiles (fs fs' : FileSystem) : Prop :=
  ∀ place content,
    fs'.node? place = some (.file content) ↔ fs.node? place = some (.file content)

variable {fs made fs' : FileSystem} {directory : String} {position : List String}
  {files : List (String × String)}

/-- **Files that a directory has got are no change if they were there before.** -/
theorem keepsFiles_iff_of_hasReceived (hmade : AddsDirectories directory fs made)
    (hreceived : HasReceived position files made fs') :
    KeepsFiles fs fs' ↔
      ∀ file ∈ files, fs.node? (position ++ [file.1]) = some (.file (.text file.2)) := by
  constructor
  · intro hkeeps file hfile
    exact (hkeeps _ _).mp (hreceived.contents file hfile)
  · intro hold place content
    rcases hreceived.node?_cases place with ⟨file, hfile, rfl, hcontent⟩ | hsame
    · rw [hcontent, hold file hfile]
    · rw [hsame]
      exact hmade.node?_eq_file_iff

end Files.FileSystem

namespace Generator

open Files.FileSystem (KeepsFiles keepsFiles_iff_of_hasReceived hasReceived_nil)

/-- **What a failure to write leaves behind.**  The run was over, and of the files that were to be
written, in their order, those before some file have been put in place in the output directory,
which has been made as far as it was missing; nothing else has changed.  If there are any such
files, the one behind them could not be put in place since a directory has its name; no other of the
five faults can come up here.  The files are as they were before if and only if those that have been
put in place were there with the same text. -/
theorem failed_write_keeps_files_iff (g : Generator) (s : Surroundings) (fs : FileSystem)
    {path : String} {fault : Files.Fault} {fs' : FileSystem}
    (h : g.generate s fs = (.error (.unwritable path fault), fs')) :
    ∃ report made position placed rest, g.prepare s fs = .ok report ∧ g.dryRun = false ∧
      report.options.run.value = true ∧
      outputFiles report.units = placed ++ rest ∧ rest ≠ [] ∧
      AddsDirectories g.outputDirectory fs made ∧ HasReceived position placed made fs' ∧
      (placed ≠ [] → made.directoryPlace g.outputDirectory = .ok position ∧
        ∃ file ∈ rest.head?, made.node? (position ++ [file.1]) = some .directory ∧
          path = Files.join g.outputDirectory file.1 ∧ fault = .isDirectory) ∧
      (KeepsFiles fs fs' ↔
        ∀ file ∈ placed, fs.node? (position ++ [file.1]) = some (.file (.text file.2))) := by
  rcases g.generate_cases s fs with ⟨e, -, he, hgenerate⟩ | ⟨report, -, -, hgenerate⟩ |
    ⟨report, outcome, after, hprepare, hdry, hrun, hwrites, hgenerate⟩
  · -- no error before anything is written is one of writing
    have herror : e = .unwritable path fault :=
      Except.error.inj (congrArg Prod.fst (hgenerate.symm.trans h))
    rw [herror] at he
    exact absurd he not_false
  · cases congrArg Prod.fst (hgenerate.symm.trans h)
  · rw [hgenerate] at h
    obtain rfl : after = fs' := congrArg Prod.snd h
    have houtcome := congrArg Prod.fst h
    cases hwrites with
    | noDirectory path' fault' hmade =>
        refine ⟨report, after, [], [], outputFiles report.units, hprepare, hdry, hrun, rfl,
          ?_, hmade, hasReceived_nil [] after, fun hnil => absurd rfl hnil,
          keepsFiles_iff_of_hasReceived hmade (hasReceived_nil [] after)⟩
        exact List.append_ne_nil_of_right_ne_nil _ (List.cons_ne_nil _ _)
    | blocked hfiles hmade hplace hblocked hreceived =>
        obtain ⟨rfl, rfl⟩ := GenerationError.unwritable.inj (Except.error.inj houtcome)
        exact ⟨report, _, _, _, _, hprepare, hdry, hrun, hfiles, List.cons_ne_nil _ _, hmade,
          hreceived, fun _ => ⟨hplace, _, rfl, hblocked, rfl, rfl⟩,
          keepsFiles_iff_of_hasReceived hmade hreceived⟩
    | done => cases houtcome

/-- A source directory with one marked record, whose output directory holds a unit of an earlier
generation and a directory under the name of the module that mounts the units. -/
def mountBlocked : FileSystem :=
  ⟨.directory [("src", .directory
    [("lib.rs", .file (.text "#[fixture] struct Person { age: u8 }")),
     ("fixtures", .directory
      [("lib_fixture.rs", .file (.text "// earlier")), ("mod.rs", .directory [])])])], []⟩

/-- What comes of a generation there. -/
theorem generate_mountBlocked :
    usual.generate bareSurroundings mountBlocked =
      (.error (.unwritable "src/fixtures/mod.rs" .isDirectory),
        (usual.generate bareSurroundings mountBlocked).2) := by
  have hfailed : (usual.generate bareSurroundings mountBlocked).1.map (·.filesWritten) =
      .error (.unwritable "src/fixtures/mod.rs" .isDirectory) := by
    decide +kernel
  rcases hgenerate : usual.generate bareSurroundings mountBlocked with ⟨e | report, fs'⟩
  · rw [hgenerate] at hfailed
    rw [Except.error.inj hfailed]
  · rw [hgenerate] at hfailed
    cases hfailed

theorem failed_write_keeps_files_iff_mountBlocked :
    let fs := mountBlocked
    let fs' := (usual.generate bareSurroundings fs).2
    usual.generate bareSurroundings fs =
      (.error (.unwritable "src/fixtures/mod.rs" .isDirectory), fs') ∧
    ∃ report position placed, usual.prepare bareSurroundings fs = .ok report ∧
      placed <+: outputFiles report.units ∧
      (KeepsFiles fs fs' ↔
        ∀ file ∈ placed, fs.node? (position ++ [file.1]) = some (.file (.text file.2))) := by
  intro fs fs'
  obtain ⟨report, -, position, placed, rest, hprepare, -, -, hfiles, -, -, -, -, hkeeps⟩ :=
    failed_write_keeps_files_iff usual bareSurroundings fs generate_mountBlocked
  exact ⟨generate_mountBlocked, report, position, placed, hprepare, ⟨rest, hfiles.symm⟩, hkeeps⟩

/-- A failure to write need not keep the files: here the unit of the earlier generation is gone, and
another text stands under its name. -/
theorem failed_write_replaces_unit :
    ∃ fs', usual.generate bareSurroundings mountBlocked =
        (.error (.unwritable "src/fixtures/mod.rs" .isDirectory), fs') ∧
      mountBlocked.readText "src/fixtures/lib_fixture.rs" = .ok "// earlier" ∧
      fs'.readText "src/fixtures/lib_fixture.rs" ≠ .ok "// earlier" ∧
      ¬ KeepsFiles mountBlocked fs' := by
  refine ⟨_, generate_mountBlocked, by decide +kernel, by decide +kernel, fun hkeeps => ?_⟩
  have hearlier : mountBlocked.node? ["src", "fixtures", "lib_fixture.rs"] =
      some (.file (.text "// earlier")) := rfl
  have hgone : (usual.generate bareSurroundings mountBlocked).2.node?
      ["src", "fixtures", "lib_fixture.rs"] ≠ some (.file (.text "// earlier")) := by
    decide +kernel
  exact hgone ((hkeeps _ _).mpr hearlier)

end Generator
end FixtureFactory
