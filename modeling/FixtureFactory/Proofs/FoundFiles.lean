import FixtureFactory.SourceFiles
import Mathlib.Data.List.Infix

/-!
# The files that a walk finds

A walk turns away from an entry when it comes to it, so what it finds is said first by what it
meets on the way down to a file.  What is excluded at one place is excluded further down, so whether
a file is found can be told from its path as a whole: no name on it keeps a walk out, and no
excluded path begins it, as both are written.

* `FileTree.HasFile`: the files of a tree, by their paths of names.
* `mem_walkTree_iff`: what a walk finds, step by step.
* `mem_foundFiles_iff`: the files that a walk finds, by their paths.
-/

namespace FixtureFactory

open Files (Component Content FileTree isBelow components)

namespace Files

/-- A file stands in a tree, at the end of a path of names. -/
inductive FileTree.HasFile : FileTree → List String → Content → Prop where
  | here {content : Content} : HasFile (.file content) [] content
  | inside {entries : List (String × FileTree)} {name : String} {t : FileTree}
      {path : List String} {content : Content} (hentry : (name, t) ∈ entries)
      (hfile : HasFile t path content) : HasFile (.directory entries) (name :: path) content

end Files

/-! ## Walks -/

/-- A walk looks at everything on a way down from a place. -/
def IsReached (excluded : List (List Component)) : List Component → List String → Prop
  | _, [] => True
  | place, name :: rest =>
      isHidden name = false ∧ isVisited excluded (place ++ [.name name]) name = true ∧
        IsReached excluded (place ++ [.name name]) rest

section Walks

variable {excluded : List (List Component)} {f : FoundFile}

mutual

/-- The files that a walk finds in a tree: the sources that it gets to. -/
theorem mem_walkTree_iff : ∀ (t : FileTree) (path : List String) (place : List Component),
    f ∈ walkTree excluded path place t ↔ ∃ rest, f.path = path ++ rest ∧
      t.HasFile rest f.content ∧ IsReached excluded place rest ∧
      f.path.getLast?.bind Files.extension? = some sourceExtension
  | .file content, path, place => by
      rw [walkTree]
      constructor
      · intro h
        split at h
        · next hsource =>
            obtain rfl := List.mem_singleton.mp h
            exact ⟨[], (List.append_nil path).symm, .here, trivial, beq_iff_eq.mp hsource⟩
        · cases h
      · rintro ⟨rest, hpath, hfile, -, hsource⟩
        obtain ⟨found, holds⟩ := f
        cases hfile
        obtain rfl : found = path := hpath.trans (List.append_nil path)
        rw [if_pos (beq_iff_eq.mpr hsource)]
        exact List.mem_singleton_self _
  | .directory entries, path, place => by
      rw [walkTree, mem_walkEntries_iff entries path place]
      constructor
      · rintro ⟨name, t, rest, hentry, hpath, hfile, hreached, hsource⟩
        exact ⟨name :: rest, hpath, .inside hentry hfile, hreached, hsource⟩
      · rintro ⟨_, hpath, hfile, hreached, hsource⟩
        cases hfile with
        | inside hentry hfile =>
            exact ⟨_, _, _, hentry, hpath, hfile, hreached, hsource⟩

/-- The files that a walk finds in the entries of a directory. -/
theorem mem_walkEntries_iff : ∀ (entries : List (String × FileTree)) (path : List String)
    (place : List Component), f ∈ walkEntries excluded path place entries ↔
      ∃ name t rest, (name, t) ∈ entries ∧ f.path = path ++ name :: rest ∧
        t.HasFile rest f.content ∧ IsReached excluded place (name :: rest) ∧
      f.path.getLast?.bind Files.extension? = some sourceExtension
  | [], path, place => by
      refine iff_of_false List.not_mem_nil ?_
      rintro ⟨_, _, _, hentry, -⟩
      cases hentry
  | (name, t) :: entries, path, place => by
      rw [walkEntries, List.mem_append, mem_walkEntries_iff entries path place]
      constructor
      · rintro (h | ⟨name', t', rest, hentry, h⟩)
        · split at h
          · next hvisited =>
              obtain ⟨rest, hpath, hfile, hreached, hsource⟩ :=
                (mem_walkTree_iff t _ _).mp h
              rw [Bool.and_eq_true, Bool.not_eq_true'] at hvisited
              rw [List.append_assoc, List.singleton_append] at hpath
              exact ⟨name, t, rest, List.mem_cons_self, hpath, hfile,
                ⟨hvisited.1, hvisited.2, hreached⟩, hsource⟩
          · cases h
        · exact ⟨name', t', rest, List.mem_cons_of_mem _ hentry, h⟩
      · rintro ⟨name', t', rest, hentry, hpath, hfile, ⟨hhidden, hvisited, hreached⟩, hsource⟩
        rcases List.mem_cons.mp hentry with heq | hentry
        · cases heq
          refine Or.inl ?_
          rw [hhidden, hvisited, Bool.not_false, Bool.and_true, if_pos rfl]
          refine (mem_walkTree_iff t _ _).mpr ⟨rest, ?_, hfile, hreached, hsource⟩
          rw [List.append_assoc, List.singleton_append]
          exact hpath
        · exact Or.inr ⟨name', t', rest, hentry, hpath, hfile, ⟨hhidden, hvisited, hreached⟩,
            hsource⟩

end

theorem isVisited_iff {place : List Component} {name : String} :
    isVisited excluded place name = true ↔
      name ≠ buildDirectory ∧ ∀ base ∈ excluded, ¬ base <+: place := by
  simp [isVisited, isBelow]

/-- A walk gets to what lies on no way that an excluded place begins, unless a name on the way is
hidden or that of a build directory. -/
theorem isReached_iff {place : List Component} {names : List String} :
    (∀ base ∈ excluded, ¬ base <+: place) ∧ IsReached excluded place names ↔
      (∀ name ∈ names, isHidden name = false ∧ name ≠ buildDirectory) ∧
        ∀ base ∈ excluded, ¬ base <+: place ++ names.map .name := by
  induction names generalizing place with
  | nil => simp [IsReached]
  | cons name names ih =>
      -- what is excluded at one place is excluded further down, so the end of the way decides
      have hplace : (∀ base ∈ excluded, ¬ base <+: place ++ [.name name]) →
          ∀ base ∈ excluded, ¬ base <+: place :=
        fun h base hbase hway => h base hbase (hway.trans (List.prefix_append _ _))
      have hway : place ++ (name :: names).map .name = place ++ [.name name] ++ names.map .name :=
        List.append_cons _ _ _
      rw [IsReached, isVisited_iff, List.forall_mem_cons, hway]
      constructor
      · rintro ⟨-, hhidden, ⟨hbuild, hbase⟩, hreached⟩
        obtain ⟨hnames, hbase⟩ := ih.mp ⟨hbase, hreached⟩
        exact ⟨⟨⟨hhidden, hbuild⟩, hnames⟩, hbase⟩
      · rintro ⟨⟨⟨hhidden, hbuild⟩, hnames⟩, hbase⟩
        obtain ⟨hbase, hreached⟩ := ih.mpr ⟨hnames, hbase⟩
        exact ⟨hplace hbase, hhidden, ⟨hbuild, hbase⟩, hreached⟩

end Walks

/-- A file below a source directory is one of its sources: it has the extension, and no name on the
way to it keeps a walk out. -/
structure FoundFile.IsSourceOf (root : String) (t : FileTree) (f : FoundFile) : Prop where
  root : Files.lastName root ≠ buildDirectory
  file : t.HasFile f.path f.content
  extension : f.path.getLast?.bind Files.extension? = some sourceExtension
  names : ∀ name ∈ f.path, isHidden name = false ∧ name ≠ buildDirectory

/-- **The files that are found** are the sources but for those on a way that an excluded path
begins. -/
theorem mem_foundFiles_iff {excluded : List String} {root : String} {t : FileTree} {f : FoundFile} :
    f ∈ foundFiles excluded root t ↔ f.IsSourceOf root t ∧
      ∀ base ∈ excluded, ¬ components base <+: components root ++ f.path.map .name := by
  have hbases : ∀ place, (∀ base ∈ excluded.map components, ¬ base <+: place) ↔
      ∀ base ∈ excluded, ¬ components base <+: place :=
    fun place => List.forall_mem_map
  rw [foundFiles, ← hbases]
  constructor
  · intro h
    split at h
    · next hroot =>
        obtain ⟨hbuild, hbase⟩ := isVisited_iff.mp hroot
        obtain ⟨_, rfl, hfile, hreached, hsource⟩ := (mem_walkTree_iff t _ _).mp h
        obtain ⟨hnames, hbase⟩ := isReached_iff.mp ⟨hbase, hreached⟩
        exact ⟨⟨hbuild, hfile, hsource, hnames⟩, hbase⟩
    · cases h
  · rintro ⟨⟨hbuild, hfile, hsource, hnames⟩, hbase⟩
    obtain ⟨hroot, hreached⟩ := isReached_iff.mpr ⟨hnames, hbase⟩
    rw [if_pos (isVisited_iff.mpr ⟨hbuild, hroot⟩)]
    exact (mem_walkTree_iff t _ _).mpr ⟨f.path, rfl, hfile, hreached, hsource⟩

theorem FoundFile.read_eq_ok_iff {root : String} {f : FoundFile} {file : SourceFile} :
    f.read root = .ok file ↔ file.path = f.pathText ∧ f.content = .text file.content := by
  obtain ⟨path, content⟩ := f
  obtain ⟨text, held⟩ := file
  cases content <;> simp [FoundFile.read, eq_comm]

end FixtureFactory
