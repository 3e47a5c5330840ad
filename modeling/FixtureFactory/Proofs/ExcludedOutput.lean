import FixtureFactory.Proofs.FileLookups
import FixtureFactory.Proofs.FoundFiles
import FixtureFactory.Proofs.Listing

/-!
# The output directory and the sources

A walk through the source directory turns away from the output directory by the way it is written:
the components of the output directory have to begin the path of an entry, which is that of the
source directory with the names on the way down.  A look-up, in contrast, goes by where a path
leads.  Where the output directory lies below the source directory, the two agree if the path of the
output directory goes on from that of the source directory as it is written, and else the walk does
not notice the output directory: what lies there is read like any other source.

A dot at the start of a path is a component, so two paths of which only one has it are an instance.

* `Files.position_of_locate`: where a path leads, from its components.
* `Generator.indexedFiles_in_output_iff`: when files in the output directory are indexed.
* `Generator.stale_output_is_indexed`: a source directory with a dot at the start.
-/

namespace FixtureFactory

open Files (Component Content FileTree FileSystem components)

/-! ## Where paths lead -/

namespace Files

/-- Where a component leads from a place. -/
def follow (place : List String) : Component → List String
  | .root => []
  | .here => place
  | .up => place.dropLast
  | .name text => place ++ [text]

theorem foldl_follow_names (place names : List String) :
    (names.map Component.name).foldl follow place = place ++ names := by
  induction names generalizing place with
  | nil => exact (List.append_nil place).symm
  | cons name names ih =>
      rw [List.map_cons, List.foldl_cons, ih, follow, List.append_assoc, List.singleton_append]

/-- A look-up along pieces leads where their components lead. -/
theorem foldl_follow_of_foldlM_step {fs : FileSystem} {path : List String}
    {start place : List String} (h : path.foldlM fs.step start = .ok place) :
    (path.filterMap componentOf?).foldl follow start = place := by
  induction path generalizing start with
  | nil => exact Except.ok.inj h
  | cons piece path ih =>
      obtain ⟨middle, hstep, hrest⟩ := FileSystem.foldlM_cons_eq_ok_iff.mp h
      have hmiddle := (FileSystem.step_eq_ok_iff.mp hstep).2
      rw [List.filterMap_cons, componentOf?]
      by_cases hstay : piece = "" ∨ piece = "."
      · rw [if_pos hstay] at hmiddle
        rw [if_pos (by simpa using hstay), ← hmiddle]
        exact ih hrest
      · rw [if_neg hstay] at hmiddle
        rw [if_neg (by simpa using hstay)]
        by_cases hup : piece = ".."
        · rw [if_pos hup] at hmiddle
          rw [if_pos (beq_iff_eq.mpr hup)]
          rw [hmiddle] at hrest
          exact ih hrest
        · rw [if_neg hup] at hmiddle
          rw [if_neg (mt beq_iff_eq.mp hup)]
          rw [hmiddle.1] at hrest
          exact ih hrest

/-- **Where a path leads** is where its components lead from the working directory. -/
theorem position_of_locate {fs : FileSystem} {path : String} {place : List String}
    (h : fs.locate path = .ok place) : (components path).foldl follow fs.working = place := by
  have hinner := foldl_follow_of_foldlM_step (FileSystem.locate_eq_ok_iff.mp h).2
  rw [FileSystem.origin] at hinner
  rw [components]
  split
  · next habsolute =>
      rw [if_pos habsolute] at hinner
      exact hinner
  · next habsolute =>
      rw [if_neg habsolute] at hinner
      split
      · exact hinner
      · exact hinner

theorem names_eq_of_locate {fs : FileSystem} {base path : String} {place below names : List String}
    (hbase : fs.locate base = .ok place) (hpath : fs.locate path = .ok (place ++ below))
    (hnames : components path = components base ++ names.map .name) : names = below := by
  have hplace := position_of_locate hpath
  rw [hnames, List.foldl_append, position_of_locate hbase, foldl_follow_names] at hplace
  exact List.append_cancel_left hplace

/-- **Where a path leads down from another one** by the names `below`, it begins a way that goes on
further down, as the ways are written, only if it begins the way that ends there. -/
theorem prefix_names_iff {fs : FileSystem} {base path : String} {place below rest : List String}
    (hbase : fs.locate base = .ok place) (hpath : fs.locate path = .ok (place ++ below)) :
    components path <+: components base ++ (below ++ rest).map .name ↔
      components path <+: components base ++ below.map .name := by
  constructor
  · intro h
    rcases List.prefix_or_prefix_of_prefix h (List.prefix_append _ _) with hbefore | hafter
    · exact hbefore.trans (List.prefix_append _ _)
    · -- the path goes on by some of the names, and those are the ones that it leads down by
      obtain ⟨on, hon⟩ := hafter
      rw [← hon] at h
      obtain ⟨left, hleft⟩ := (List.prefix_append_right_inj _).mp h
      obtain ⟨names, left, -, rfl, -⟩ := List.map_eq_append_iff.mp hleft.symm
      rw [← hon, names_eq_of_locate hbase hpath hon.symm]
  · intro h
    rw [List.map_append, ← List.append_assoc]
    exact h.trans (List.prefix_append _ _)

end Files

/-! ## Indexes -/

/-- The files that are collected are those that are found. -/
theorem path_perm_of_collectSources {fs : FileSystem} {root : String} {excluded : List String}
    {entries : List (String × FileTree)} (hfind : fs.find root = .ok (.directory entries))
    {files : List SourceFile} (h : collectSources fs root excluded = .ok files) :
    (files.map SourceFile.path).Perm
      ((foundFiles excluded root (.directory entries)).map FoundFile.pathText) := by
  rw [collectSources, hfind] at h
  dsimp only at h
  cases hread : ((foundFiles excluded root (.directory entries)).mergeSort FoundFile.notAfter).mapM
      (FoundFile.read root) with
  | error e =>
      rw [hread] at h
      cases h
  | ok read =>
      rw [hread] at h
      rw [← Except.ok.inj h]
      have hpaths : read.map SourceFile.path =
          ((foundFiles excluded root (.directory entries)).mergeSort FoundFile.notAfter).map
            FoundFile.pathText :=
        (map_eq_map_of_forall₂ (((mapM_eq_ok_iff _ _ _).mp hread).imp fun f file hfile =>
          (FoundFile.read_eq_ok_iff.mp hfile).1.symm)).symm
      refine ((List.mergeSort_perm read _).map SourceFile.path).trans ?_
      rw [hpaths]
      exact (List.mergeSort_perm _ _).map FoundFile.pathText

/-- The units of an index are those of its sources, in their order. -/
theorem SourceIndex.path_units_ofSources {files : List SourceFile} {index : SourceIndex}
    (h : ofSources files = .ok index) : index.units.map (·.path) = files.map SourceFile.path := by
  obtain ⟨parsed, hparsed, rfl⟩ := exceptMap_eq_ok_iff.mp h
  have hfiles : files.map SourceFile.path = parsed.map ParsedFile.path := by
    refine map_eq_map_of_forall₂ (((mapM_eq_ok_iff _ _ _).mp hparsed).imp ?_)
    intro source file hfile
    rw [SourceFile.parse] at hfile
    split at hfile
    · rw [← Except.ok.inj hfile]
    · cases hfile
  have hunits : (ofFiles parsed).units.map (·.path) =
      (parsed.zipIdx.map Prod.fst).map ParsedFile.path := by
    rw [List.map_map]
    exact List.map_map
  rw [hfiles, hunits, List.zipIdx_map_fst]

namespace Generator

variable {g : Generator} {fs : FileSystem}

/-- The files that a generation and a listing index, by their paths of names below the source
directory. -/
def indexedFiles (g : Generator) (fs : FileSystem) : List FoundFile :=
  match fs.find g.sourceDirectory with
  | .ok (.directory entries) =>
      foundFiles [g.outputDirectory] g.sourceDirectory (.directory entries)
  | _ => []

theorem index_of_collectSources {files : List SourceFile} {index : SourceIndex}
    (hcollect : collectSources fs g.sourceDirectory [g.outputDirectory] = .ok files)
    (hindex : SourceIndex.ofSources files = .ok index) : g.index fs = .ok index := by
  rw [Generator.index, hcollect]
  exact mapError_eq_ok_iff.mpr hindex

/-- The index has one unit for each of these files. -/
theorem path_perm_of_index {index : SourceIndex} (h : g.index fs = .ok index) :
    (index.units.map (·.path)).Perm ((g.indexedFiles fs).map FoundFile.pathText) := by
  rw [Generator.index] at h
  cases hcollect : collectSources fs g.sourceDirectory [g.outputDirectory] with
  | error e =>
      rw [hcollect] at h
      cases h
  | ok files =>
      rw [hcollect] at h
      rw [SourceIndex.path_units_ofSources (mapError_eq_ok_iff.mp h), indexedFiles]
      cases hfind : fs.find g.sourceDirectory with
      | error e =>
          rw [collectSources, hfind] at hcollect
          cases hcollect
      | ok t =>
          cases t with
          | file content =>
              rw [collectSources, hfind] at hcollect
              cases hcollect
          | directory entries => exact path_perm_of_collectSources hfind hcollect

/-- A file below the source directory is a source of a generation. -/
def IsSource (g : Generator) (fs : FileSystem) (f : FoundFile) : Prop :=
  ∃ entries, fs.find g.sourceDirectory = .ok (.directory entries) ∧
    f.IsSourceOf g.sourceDirectory (.directory entries)

theorem mem_indexedFiles_iff {f : FoundFile} :
    f ∈ g.indexedFiles fs ↔ g.IsSource fs f ∧
      ¬ components g.outputDirectory <+: components g.sourceDirectory ++ f.path.map .name := by
  rw [indexedFiles]
  split
  · next entries hfind =>
      rw [mem_foundFiles_iff, List.forall_mem_singleton]
      refine and_congr_left fun _ => ⟨fun h => ⟨entries, hfind, h⟩, ?_⟩
      rintro ⟨_, hfind', h⟩
      cases hfind.symm.trans hfind'
      exact h
  · next hnone =>
      refine iff_of_false List.not_mem_nil ?_
      rintro ⟨⟨entries, hfind, -⟩, -⟩
      exact hnone entries hfind

/-- **When files in the output directory are indexed.**  A listing and a generation index the same
files, those that the source directory has for them.  If the output directory lies below the source
directory, or is the source directory itself, some of these files lie in it exactly if there are
sources in it and the path of the output directory does not begin the path that goes on from that of
the source directory, as it is written, by the names that lead to it.

The test compares paths as they are written, and not by where they lead.  In a walk that starts at
`./src` no path begins with `src/fixtures`, and a file that was generated there is read as a source
(`stale_output_is_indexed`). -/
theorem indexedFiles_in_output_iff {source below : List String}
    (hsource : fs.locate g.sourceDirectory = .ok source)
    (houtput : fs.locate g.outputDirectory = .ok (source ++ below)) :
    (∀ s, (∃ e, g.list s fs = .error e ∧ g.prepare s fs = .error e) ∨
      ∃ (options : Options) (index : SourceIndex),
        g.list s fs = (listHost options index.toHost).mapError .engine ∧
        g.prepare s fs =
          ((render options index.toHost s.entropy).mapError .engine).map (g.reportOf options) ∧
        (index.units.map (·.path)).Perm ((g.indexedFiles fs).map FoundFile.pathText)) ∧
    ((∃ f ∈ g.indexedFiles fs, source ++ below <+: source ++ f.path) ↔
      (∃ f, g.IsSource fs f ∧ source ++ below <+: source ++ f.path) ∧
        ¬ components g.outputDirectory <+: components g.sourceDirectory ++ below.map .name) := by
  have hspelling : ∀ f : FoundFile, source ++ below <+: source ++ f.path →
      (components g.outputDirectory <+: components g.sourceDirectory ++ f.path.map .name ↔
        components g.outputDirectory <+: components g.sourceDirectory ++ below.map .name) := by
    intro f hlies
    obtain ⟨rest, hrest⟩ := (List.prefix_append_right_inj _).mp hlies
    rw [← hrest]
    exact Files.prefix_names_iff hsource houtput
  refine ⟨fun s => ?_, ?_, ?_⟩
  · rcases g.list_prepare_cases s fs with h | ⟨options, index, -, hindex, hlist, hprepare⟩
    · exact Or.inl h
    · exact Or.inr ⟨options, index, hlist, hprepare, path_perm_of_index hindex⟩
  · rintro ⟨f, hindexed, hlies⟩
    obtain ⟨hf, hnot⟩ := mem_indexedFiles_iff.mp hindexed
    exact ⟨⟨f, hf, hlies⟩, mt (hspelling f hlies).mpr hnot⟩
  · rintro ⟨⟨f, hf, hlies⟩, hnot⟩
    exact ⟨f, mem_indexedFiles_iff.mpr ⟨hf, mt (hspelling f hlies).mp hnot⟩, hlies⟩

/-- The text of a record that an earlier generation has left. -/
def staleText : String := "#[fixture] pub struct Stale { pub name: String }"

/-- The text of a record that is to be read. -/
def personText : String := "#[fixture] pub struct Person { pub name: String }"

/-- A source directory with a record of its own and one in the output directory. -/
def staleFiles : FileSystem :=
  ⟨.directory [("src", .directory
    [("fixtures", .directory [("old.rs", .file (.text staleText))]),
     ("model.rs", .file (.text personText))])], []⟩

/-- The file in the output directory. -/
def staleFile : FoundFile := ⟨["fixtures", "old.rs"], .text staleText⟩

/-- With the usual directories the walk turns away from the output directory, though there is a
source in it. -/
theorem indexedFiles_in_output_iff_usual :
    staleFiles.locate usual.sourceDirectory = .ok ["src"] ∧
      staleFiles.locate usual.outputDirectory = .ok (["src"] ++ ["fixtures"]) ∧
      usual.IsSource staleFiles staleFile ∧
      ¬ ∃ f ∈ usual.indexedFiles staleFiles, ["src"] ++ ["fixtures"] <+: ["src"] ++ f.path := by
  have hsource : staleFiles.locate usual.sourceDirectory = .ok ["src"] := by decide +kernel
  have houtput : staleFiles.locate usual.outputDirectory = .ok (["src"] ++ ["fixtures"]) := by
    decide +kernel
  have hfile : usual.IsSource staleFiles staleFile :=
    ⟨_, rfl, by decide +kernel, .inside List.mem_cons_self (.inside List.mem_cons_self .here),
      by decide +kernel, by decide +kernel⟩
  refine ⟨hsource, houtput, hfile, ?_⟩
  rw [(indexedFiles_in_output_iff hsource houtput).2]
  exact fun h => h.2 (by decide +kernel)

/-- The usual directories, where the source directory is written with a dot at the start. -/
def fromDot : Generator := { usual with sourceDirectory := "./src" }

/-- What is collected from there. -/
theorem collectSources_fromDot :
    collectSources staleFiles fromDot.sourceDirectory [fromDot.outputDirectory] =
      .ok [⟨"fixtures/old.rs", staleText⟩, ⟨"model.rs", personText⟩] := by
  have hfound : foundFiles [fromDot.outputDirectory] fromDot.sourceDirectory
      (.directory [("fixtures", .directory [("old.rs", .file (.text staleText))]),
        ("model.rs", .file (.text personText))]) =
      [staleFile, ⟨["model.rs"], .text personText⟩] := by decide +kernel
  have hfind : staleFiles.find fromDot.sourceDirectory =
      .ok (.directory [("fixtures", .directory [("old.rs", .file (.text staleText))]),
        ("model.rs", .file (.text personText))]) := rfl
  rw [collectSources, hfind]
  dsimp only
  rw [hfound, List.mergeSort_of_pairwise (by decide +kernel)]
  show Except.ok (List.mergeSort _ _) = _
  rw [List.mergeSort_of_pairwise (by decide +kernel)]
  rfl

/-- **A generation that reads its own output.**  The source directory is written with a dot at the
start and the output directory without, which lies below it; what an earlier generation has left
there is indexed. -/
theorem stale_output_is_indexed :
    staleFiles.locate fromDot.sourceDirectory = .ok ["src"] ∧
      staleFiles.locate fromDot.outputDirectory = .ok (["src"] ++ ["fixtures"]) ∧
      staleFile ∈ fromDot.indexedFiles staleFiles ∧
      ["src"] ++ ["fixtures"] <+: ["src"] ++ staleFile.path ∧
      ∃ index, fromDot.index staleFiles = .ok index ∧
        index.units.map (·.path) = ["fixtures/old.rs", "model.rs"] ∧
        index.declarations.map (·.qualifiedName) =
          ["crate::fixtures::old::Stale", "crate::model::Person"] := by
  have hread : (SourceIndex.ofSources
      [⟨"fixtures/old.rs", staleText⟩, ⟨"model.rs", personText⟩]).map (fun index =>
        (index.units.map (·.path), index.declarations.map (·.qualifiedName))) =
      .ok (["fixtures/old.rs", "model.rs"],
        ["crate::fixtures::old::Stale", "crate::model::Person"]) := by
    decide +kernel
  obtain ⟨index, hindex, hfacts⟩ := exceptMap_eq_ok_iff.mp hread
  obtain ⟨hunits, hdeclarations⟩ := Prod.mk.inj hfacts
  exact ⟨by decide +kernel, by decide +kernel, by decide +kernel, by decide +kernel, index,
    index_of_collectSources collectSources_fromDot hindex, hunits.symm, hdeclarations.symm⟩

end Generator

end FixtureFactory
