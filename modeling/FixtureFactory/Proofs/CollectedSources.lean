import FixtureFactory.Proofs.FilePaths
import FixtureFactory.Proofs.FoundFiles
import FixtureFactory.Proofs.Outcome
import FixtureFactory.Proofs.TextOrder

/-!
# The files that are collected

A source directory is walked through, what is found is read directory by directory, and the files
that have been read are put in the order of their paths.  What comes out can be said without any of
this: it is every file that is a source, once, and the files come in the order of the bytes of
their paths.  The order in which the directories list their entries does not matter.

The paths that are compared in the end are texts, while a walk goes by names.  That two files do
not end up under one text rests on the trees: no name holds a slash, and the entries of a directory
have different names.

* `FileTree.IsReadable`, `FileTree.Rearranged`: the trees, and how their entries can be moved.
* `pairwise_walkTree`: a walk finds no file twice.
* `SourceFile.IsCollected`: which files are collected.
* `collectSources_of_readable` is the result.
-/

namespace FixtureFactory

open Files (Component Content FileTree FileSystem IsFileName components)

/-! ## Trees -/

namespace Files.FileTree

/-- A tree that can be read whole: its files hold texts, and the entries of a directory have names
of their own. -/
inductive IsReadable : FileTree → Prop where
  | file (text : String) : IsReadable (.file (.text text))
  | directory {entries : List (String × FileTree)} (distinct : (entries.map Prod.fst).Nodup)
      (names : ∀ entry ∈ entries, IsFileName entry.1)
      (below : ∀ entry ∈ entries, IsReadable entry.2) : IsReadable (.directory entries)

/-- One tree is the other with the entries of its directories in other orders. -/
inductive Rearranged : FileTree → FileTree → Prop where
  | refl (t : FileTree) : Rearranged t t
  | order {entries entries' : List (String × FileTree)} (h : entries.Perm entries') :
      Rearranged (.directory entries) (.directory entries')
  /-- The first entry is rearranged; with `order`, so is any other. -/
  | entry {name : String} {t t' : FileTree} {rest : List (String × FileTree)}
      (h : Rearranged t t') :
      Rearranged (.directory ((name, t) :: rest)) (.directory ((name, t') :: rest))
  | trans {t t' t'' : FileTree} (h : Rearranged t t') (h' : Rearranged t' t'') : Rearranged t t''

variable {t t' : FileTree} {entries : List (String × FileTree)} {names : List String}
  {content : Content}

theorem hasFile_directory_iff :
    (directory entries).HasFile names content ↔
      ∃ entry ∈ entries, ∃ path, names = entry.1 :: path ∧ entry.2.HasFile path content := by
  constructor
  · intro h
    cases h with
    | inside hentry hfile => exact ⟨_, hentry, _, rfl, hfile⟩
  · rintro ⟨_, hentry, path, rfl, hfile⟩
    exact .inside hentry hfile

/-- The files of a readable tree hold texts, and stand at the ends of names. -/
theorem IsReadable.of_hasFile (ht : t.IsReadable) (h : t.HasFile names content) :
    (∃ text, content = .text text) ∧ ∀ name ∈ names, IsFileName name := by
  induction h with
  | here =>
      cases ht with
      | file text => exact ⟨⟨text, rfl⟩, by simp⟩
  | inside hentry _ ih =>
      cases ht with
      | directory _ hnames hbelow =>
          obtain ⟨htext, hrest⟩ := ih (hbelow _ hentry)
          exact ⟨htext, List.forall_mem_cons.mpr ⟨hnames _ hentry, hrest⟩⟩

theorem Rearranged.hasFile_iff (h : t.Rearranged t') :
    t.HasFile names content ↔ t'.HasFile names content := by
  induction h generalizing names with
  | refl => exact Iff.rfl
  | order h => simp only [hasFile_directory_iff, h.mem_iff]
  | entry _ ih => simp only [hasFile_directory_iff, List.exists_mem_cons_iff, ih]
  | trans _ _ ih ih' => rw [ih, ih']

/-- A rearranged tree can be read if the tree can. -/
theorem Rearranged.isReadable (h : t.Rearranged t') (ht : t.IsReadable) : t'.IsReadable := by
  induction h with
  | refl => exact ht
  | order h =>
      cases ht with
      | directory hdistinct hnames hbelow =>
          refine .directory ((h.map Prod.fst).nodup_iff.mp hdistinct) ?_ ?_
          · exact fun entry hentry => hnames entry (h.mem_iff.mpr hentry)
          · exact fun entry hentry => hbelow entry (h.mem_iff.mpr hentry)
  | entry _ ih =>
      cases ht with
      | directory hdistinct hnames hbelow =>
          rw [List.forall_mem_cons] at hnames hbelow
          exact .directory hdistinct (List.forall_mem_cons.mpr hnames)
            (List.forall_mem_cons.mpr ⟨ih hbelow.1, hbelow.2⟩)
  | trans _ _ ih ih' => exact ih' (ih ht)

end Files.FileTree

/-! ## What a walk finds -/

section Walks

variable {excluded : List (List Component)}

mutual

/-- **A walk finds no file twice**, since the entries of a directory have different names. -/
theorem pairwise_walkTree : ∀ {t : FileTree}, t.IsReadable →
    ∀ (path : List String) (place : List Component),
      (walkTree excluded path place t).Pairwise fun f g => f.path ≠ g.path
  | .file content, _, path, place => by
      unfold walkTree
      split <;> simp
  | .directory entries, .directory hdistinct _ hbelow, path, place => by
      unfold walkTree
      exact pairwise_walkEntries hdistinct hbelow path place

/-- The files below two entries differ in the name that follows the path. -/
theorem pairwise_walkEntries : ∀ {entries : List (String × FileTree)},
    (entries.map Prod.fst).Nodup → (∀ entry ∈ entries, entry.2.IsReadable) →
    ∀ (path : List String) (place : List Component),
      (walkEntries excluded path place entries).Pairwise fun f g => f.path ≠ g.path
  | [], _, _, _, _ => List.Pairwise.nil
  | (name, t) :: entries, hdistinct, hbelow, path, place => by
      obtain ⟨hname, hdistinct⟩ := List.nodup_cons.mp hdistinct
      obtain ⟨ht, hbelow⟩ := List.forall_mem_cons.mp hbelow
      unfold walkEntries
      refine List.pairwise_append.mpr
        ⟨?_, pairwise_walkEntries hdistinct hbelow path place, fun f hf g hg heq => ?_⟩
      · split
        · exact pairwise_walkTree ht _ _
        · exact List.Pairwise.nil
      · split at hf
        · obtain ⟨rest, hf, -⟩ := (mem_walkTree_iff t _ _).mp hf
          obtain ⟨name', t', rest', hentry, hg, -⟩ := (mem_walkEntries_iff entries _ _).mp hg
          rw [hf, hg, List.append_assoc, List.append_cancel_left_eq] at heq
          obtain rfl : name = name' := (List.cons.inj heq).1
          exact hname (List.mem_map.mpr ⟨_, hentry, rfl⟩)
        · cases hf

end

end Walks

theorem pairwise_foundFiles {t : FileTree} (ht : t.IsReadable) (excluded : List String)
    (root : String) : (foundFiles excluded root t).Pairwise fun f g => f.path ≠ g.path := by
  unfold foundFiles
  dsimp only
  split
  · exact pairwise_walkTree ht _ _
  · exact List.Pairwise.nil

/-! ## Which files are collected -/

/-- A file is collected from a directory: it stands there under some names and is a source by its
extension, no name on the way to it is hidden or that of a build directory, and no excluded path
begins its path or the path of a directory above it, the directory itself among them. -/
structure SourceFile.IsCollected (root : String) (excluded : List String) (t : FileTree)
    (names : List String) (file : SourceFile) : Prop where
  path : file.path = "/".intercalate names
  holds : t.HasFile names (.text file.content)
  extension : names.getLast?.bind Files.extension? = some sourceExtension
  visited : ∀ name ∈ names, isHidden name = false ∧ name ≠ buildDirectory
  outside : ∀ base ∈ excluded, ∀ above, above <+: names →
    ¬ components base <+: components (Files.joinAll root above)

section Collected

variable {root : String} {excluded : List String} {t : FileTree} {file : SourceFile}

theorem Files.FileTree.Rearranged.isCollected_iff {t' : FileTree} {names : List String}
    (h : t.Rearranged t') : file.IsCollected root excluded t names ↔
      file.IsCollected root excluded t' names :=
  ⟨fun hfile => { hfile with holds := h.hasFile_iff.mp hfile.holds },
    fun hfile => { hfile with holds := h.hasFile_iff.mpr hfile.holds }⟩

/-- What the excluded paths say about a file can be said about its path alone: what begins the path
of a directory above it begins its own. -/
theorem forall_above_iff {names : List String} (h : ∀ name ∈ names, IsFileName name)
    (base : List Component) :
    (∀ above, above <+: names → ¬ base <+: components (Files.joinAll root above)) ↔
      ¬ base <+: components root ++ names.map .name := by
  constructor
  · intro houtside
    rw [← Files.components_joinAll h]
    exact houtside names List.prefix_rfl
  · intro houtside above habove hbase
    rw [Files.components_joinAll fun name hname => h name (habove.subset hname)] at hbase
    exact houtside (hbase.trans ((List.prefix_append_right_inj _).mpr (habove.map _)))

/-- **The files that are read** are those that are to be collected. -/
theorem exists_read_iff (hroot : Files.lastName root ≠ buildDirectory) (ht : t.IsReadable) :
    (∃ f ∈ foundFiles excluded root t, f.read root = .ok file) ↔
      ∃ names, file.IsCollected root excluded t names := by
  constructor
  · rintro ⟨f, hf, hread⟩
    obtain ⟨hpath, hcontent⟩ := FoundFile.read_eq_ok_iff.mp hread
    obtain ⟨⟨-, hfile, hextension, hnames⟩, houtside⟩ := mem_foundFiles_iff.mp hf
    have hfileNames := (ht.of_hasFile hfile).2
    exact ⟨f.path, hpath, hcontent ▸ hfile, hextension, hnames, fun base hbase =>
      (forall_above_iff hfileNames _).mpr (houtside base hbase)⟩
  · rintro ⟨names, hpath, hfile, hextension, hnames, houtside⟩
    have hfileNames := (ht.of_hasFile hfile).2
    refine ⟨⟨names, .text file.content⟩, mem_foundFiles_iff.mpr ⟨⟨hroot, hfile, hextension, hnames⟩,
      fun base hbase => ?_⟩, FoundFile.read_eq_ok_iff.mpr ⟨hpath, rfl⟩⟩
    exact (forall_above_iff hfileNames _).mp (houtside base hbase)

end Collected

/-! ## The order of the paths -/

/-- Files in the order of their paths, no two under one path. -/
def Ascending (files : List SourceFile) : Prop := files.Pairwise fun a b => a.path < b.path

/-- **Files in this order** are determined by which files they are. -/
theorem Ascending.eq_of_mem_iff {files files' : List SourceFile} (h : Ascending files)
    (h' : Ascending files') (hmem : ∀ file, file ∈ files ↔ file ∈ files') : files = files' := by
  have hnodup : ∀ {files : List SourceFile}, Ascending files → files.Nodup := by
    intro files hfiles
    refine List.Pairwise.imp (fun {a b} hlt heq => ?_) hfiles
    rw [heq] at hlt
    exact String.lt_irrefl _ hlt
  refine List.Perm.eq_of_pairwise (fun a b _ _ hab hba => absurd hba (String.lt_asymm hab)) h h' ?_
  exact (List.perm_ext_iff_of_nodup (hnodup h) (hnodup h')).mpr hmem

/-- Files under different paths are put in order. -/
theorem ascending_mergeSort {files : List SourceFile}
    (h : files.Pairwise fun a b => a.path ≠ b.path) :
    Ascending (files.mergeSort fun a b => decide (a.path ≤ b.path)) := by
  have hsorted : (files.mergeSort fun a b => decide (a.path ≤ b.path)).Pairwise
      fun a b => decide (a.path ≤ b.path) = true := by
    refine List.pairwise_mergeSort (fun a b c hab hbc => ?_) (fun a b => ?_) files
    · simp only [decide_eq_true_eq] at hab hbc ⊢
      exact le_trans hab hbc
    · simp only [Bool.or_eq_true, decide_eq_true_eq]
      exact le_total _ _
  have hdistinct : (files.mergeSort fun a b => decide (a.path ≤ b.path)).Pairwise
      fun a b => a.path ≠ b.path :=
    (List.mergeSort_perm files _).symm.pairwise h fun hab hba => hab hba.symm
  exact (hsorted.and hdistinct).imp fun h => lt_of_le_of_ne (of_decide_eq_true h.1) h.2

/-! ## Collecting -/

section Collecting

variable {root : String} {excluded : List String} {entries : List (String × FileTree)}

theorem pieces_pathText (ht : (FileTree.directory entries).IsReadable) {f : FoundFile}
    (hf : f ∈ foundFiles excluded root (.directory entries)) :
    Files.pieces f.pathText = f.path := by
  have hfile := (mem_foundFiles_iff.mp hf).1.file
  have hne : f.path ≠ [] := by
    obtain ⟨entry, -, path, hpath, -⟩ := Files.FileTree.hasFile_directory_iff.mp hfile
    simp [hpath]
  exact Files.pieces_intercalate hne fun name hname => ((ht.of_hasFile hfile).2 name hname).noSlash

/-- **What is found** is read without a fault, in any order, and the files that have been read have
different paths. -/
theorem exists_mapM_read (ht : (FileTree.directory entries).IsReadable) {found : List FoundFile}
    (hperm : found.Perm (foundFiles excluded root (.directory entries))) :
    ∃ read, found.mapM (FoundFile.read root) = .ok read ∧
      (read.Pairwise fun a b => a.path ≠ b.path) ∧
      ∀ file, file ∈ read ↔
        ∃ f ∈ foundFiles excluded root (.directory entries), f.read root = .ok file := by
  have hreads : ∀ f ∈ found, ∃ file, f.read root = .ok file := by
    intro f hf
    have hfile := (mem_foundFiles_iff.mp (hperm.mem_iff.mp hf)).1.file
    obtain ⟨text, htext⟩ := (ht.of_hasFile hfile).1
    exact ⟨⟨f.pathText, text⟩, FoundFile.read_eq_ok_iff.mpr ⟨rfl, htext⟩⟩
  obtain ⟨read, hread⟩ := exists_forall₂_iff.mpr hreads
  refine ⟨read, (mapM_eq_ok_iff _ _ _).mpr hread, ?_, fun file => ⟨fun hfile => ?_, ?_⟩⟩
  · have hpaths : read.map SourceFile.path = found.map FoundFile.pathText :=
      (map_eq_map_of_forall₂ (hread.imp fun f file hfile =>
        (FoundFile.read_eq_ok_iff.mp hfile).1.symm)).symm
    have hdistinct : found.Pairwise fun f g => f.pathText ≠ g.pathText := by
      refine ((pairwise_foundFiles ht excluded root).perm hperm.symm
        fun hne heq => hne heq.symm).imp_of_mem fun {f g} hf hg hne heq => hne ?_
      rw [← pieces_pathText ht (hperm.mem_iff.mp hf), heq,
        pieces_pathText ht (hperm.mem_iff.mp hg)]
    rw [← List.pairwise_map (R := (· ≠ ·)), hpaths, List.pairwise_map]
    exact hdistinct
  · obtain ⟨f, hf, hfile⟩ := exists_mem_left_of_forall₂ hread hfile
    exact ⟨f, hperm.mem_iff.mp hf, hfile⟩
  · rintro ⟨f, hf, hfile⟩
    obtain ⟨file', hmem, hfile'⟩ := exists_mem_right_of_forall₂ hread (hperm.mem_iff.mpr hf)
    rwa [Except.ok.inj (hfile.symm.trans hfile')]

/-- **What is collected from a directory**, whatever else there is, in the order of the paths. -/
theorem exists_collected (hroot : Files.lastName root ≠ buildDirectory)
    (ht : (FileTree.directory entries).IsReadable) (excluded : List String) :
    ∃ files,
      (∀ fs : FileSystem, fs.find root = .ok (.directory entries) →
        collectSources fs root excluded = .ok files) ∧ Ascending files ∧
      ∀ file, file ∈ files ↔
        ∃ names, file.IsCollected root excluded (.directory entries) names := by
  obtain ⟨read, hread, hdistinct, hmem⟩ := exists_mapM_read ht
    (List.mergeSort_perm (foundFiles excluded root (.directory entries)) FoundFile.notAfter)
  refine ⟨_, fun fs hfind => ?_, ascending_mergeSort hdistinct, fun file => ?_⟩
  · rw [collectSources, hfind]
    dsimp only
    rw [hread]
    rfl
  · rw [List.mem_mergeSort, hmem, exists_read_iff hroot ht]

/-- **What is collected.**  Whatever order the directories list their entries in, the files below a
source directory that can be read are collected as one list, unless the directory is called like a
build directory.  The list is in the order of the bytes of the paths, so no path comes twice, and
the files in it are those that are to be collected.

Strict order and elements determine a list, so neither the walk nor the two sorts of the program
have to be followed by whoever uses this. -/
theorem collectSources_of_readable (hroot : Files.lastName root ≠ buildDirectory)
    (ht : (FileTree.directory entries).IsReadable) (excluded : List String) :
    ∃ files,
      (∀ (fs : FileSystem) (entries' : List (String × FileTree)),
        (FileTree.directory entries).Rearranged (.directory entries') →
          fs.find root = .ok (.directory entries') → collectSources fs root excluded = .ok files) ∧
      (files.Pairwise fun a b => Text.bytes a.path < Text.bytes b.path) ∧
      ∀ file, file ∈ files ↔
        ∃ names, file.IsCollected root excluded (.directory entries) names := by
  obtain ⟨files, hread, hfiles, hmem⟩ := exists_collected hroot ht excluded
  refine ⟨files, fun fs entries' hmoved hfind => ?_, ?_, hmem⟩
  · obtain ⟨files', hread', hfiles', hmem'⟩ :=
      exists_collected hroot (hmoved.isReadable ht) excluded
    have hsame : files' = files := by
      refine hfiles'.eq_of_mem_iff hfiles fun file => ?_
      simp only [hmem, hmem', hmoved.isCollected_iff]
    rw [hread' fs hfind, hsame]
  · exact hfiles.imp Text.bytes_lt_bytes_iff.mpr

/-- The entries of a source directory with a module of two files, of which `inner` is a listing, and
with files that are hidden, built, generated or no sources. -/
def crateEntries (inner : List (String × FileTree)) : List (String × FileTree) :=
  [("model", .directory inner), ("model.rs", .file (.text "mod person;")),
    ("notes.txt", .file (.text "")), (".draft.rs", .file (.text "struct Draft;")),
    ("target", .directory [("built.rs", .file (.text "struct Built;"))]),
    ("fixtures", .directory [("old.rs", .file (.text "struct Old;"))])]

/-- The two files of the module. -/
def modelEntries : List (String × FileTree) :=
  [("person.rs", .file (.text "struct Person;")), ("address.rs", .file (.text "struct Address;"))]

/-- A file system with a source directory. -/
def crateFiles (entries : List (String × FileTree)) : FileSystem :=
  ⟨.directory [("src", .directory entries)], []⟩

/-- The sources, in the order of their paths: a dot comes before a slash. -/
def crateSources : List SourceFile :=
  [⟨"model.rs", "mod person;"⟩, ⟨"model/address.rs", "struct Address;"⟩,
    ⟨"model/person.rs", "struct Person;"⟩]

/-- It makes no difference how the two directories list their entries. -/
theorem collectSources_of_readable_crate :
    collectSources (crateFiles (crateEntries modelEntries)) "src" ["src/fixtures"] =
        .ok crateSources ∧
      collectSources (crateFiles (crateEntries modelEntries.reverse).reverse) "src"
        ["src/fixtures"] = .ok crateSources := by
  have hroot : Files.lastName "src" ≠ buildDirectory := by decide +kernel
  have ht : (FileTree.directory (crateEntries modelEntries)).IsReadable := by
    refine .directory (by decide +kernel) (by decide +kernel) ?_
    simp only [crateEntries, modelEntries, List.forall_mem_cons]
    refine ⟨.directory (by decide +kernel) (by decide +kernel) ?_, .file _, .file _, .file _,
      .directory (by decide +kernel) (by decide +kernel) ?_,
      .directory (by decide +kernel) (by decide +kernel) ?_, List.forall_mem_nil _⟩
    all_goals simp [FileTree.IsReadable.file]
  obtain ⟨files, hread, hsorted, hmem⟩ := collectSources_of_readable hroot ht ["src/fixtures"]
  have hfiles : files = crateSources := by
    -- the walk comes to the sources in the order of the entries, here from the last to the first
    have hfound : (foundFiles ["src/fixtures"] "src" (.directory (crateEntries modelEntries))).map
        (FoundFile.read "src") = crateSources.reverse.map .ok := rfl
    refine Ascending.eq_of_mem_iff (hsorted.imp Text.bytes_lt_bytes_iff.mp) ?_ fun file => ?_
    · unfold Ascending
      decide +kernel
    · rw [hmem, ← exists_read_iff hroot ht, ← List.mem_map, hfound]
      simp
  rw [← hfiles]
  refine ⟨hread _ _ (.refl _) rfl, hread _ _ ?_ rfl⟩
  exact .trans (.entry (.order modelEntries.reverse_perm.symm)) (.order (List.reverse_perm _).symm)

end Collecting

end FixtureFactory
