import FixtureFactory.Proofs.FileLookups

/-!
# Changes to a file system

Two operations change files: directories are made, and a file is put in place.  This file says for
each of them which nodes it changes, whether it succeeds or fails.

## Making directories

Making a directory with those above it may fail half-way, and what has been made by then stays.  So
the statement about the operation is one about its outcome in either case: `AddsDirectories`.  Every
node that is new is a directory, and the path goes through it.  The induction is on the bound of the
recursion, which goes from a path to the path above.

## Putting a file in place

A file that is put into a directory changes the node under its name, unless a directory stands
there; then nothing changes (`placeFile_cases`).
-/

namespace FixtureFactory
namespace Files
namespace FileSystem

variable {fs fs' : FileSystem} {path : String} {position : List String}

/-! ## Making one directory -/

/-- **Where there is place for something new**: under a name in a directory that has no such name,
at the end of the path but for empty pieces. -/
theorem freePlace_eq_ok {place : List String} (h : fs.freePlace path = .ok place) :
    path ≠ "" ∧ ∃ before directory name n, pieces path = before ++ name :: List.replicate n "" ∧
      before.foldlM fs.step (fs.origin path) = .ok directory ∧ place = directory ++ [name] ∧
      fs.node? directory = some .directory ∧ fs.node? place = none ∧
      name ≠ "" ∧ name ≠ "." ∧ name ≠ ".." := by
  rw [freePlace] at h
  by_cases hpath : path = ""
  · rw [hpath] at h
    cases h
  · rw [String.isEmpty_eq_false_iff.mpr hpath, if_neg Bool.false_ne_true] at h
    refine ⟨hpath, ?_⟩
    cases hbefore : (splitTarget path).1.foldlM fs.step (fs.origin path) with
    | error e =>
        simp only [hbefore, bind, Except.bind] at h
        cases h
    | ok directory =>
        simp only [hbefore, bind, Except.bind] at h
        rcases hdirectory : FileTree.at? directory fs.root with _ | ⟨c | entries⟩
        · simp only [hdirectory] at h
          cases h
        · simp only [hdirectory] at h
          cases h
        · simp only [hdirectory] at h
          split at h
          · cases h
          · next hfree =>
              obtain ⟨hname, hlookup⟩ := not_or.mp (mt Bool.or_eq_true_iff.mpr hfree)
              have hname : (splitTarget path).2 ≠ "" ∧ (splitTarget path).2 ≠ "." ∧
                  (splitTarget path).2 ≠ ".." := by
                simpa using hname
              have hnode : fs.node? directory = some .directory := by
                rw [node?, FileTree.node?, hdirectory]
                rfl
              have hnone : fs.node? (directory ++ [(splitTarget path).2]) = none := by
                rw [node?, FileTree.node?_concat hdirectory,
                  Option.not_isSome_iff_eq_none.mp hlookup]
                rfl
              rcases pieces_splitTarget path with hempty | ⟨n, hpieces⟩
              · rw [hempty] at hname
                exact absurd rfl hname.1
              · rw [← Except.ok.inj h]
                exact ⟨_, directory, _, n, hpieces, hbefore, rfl, hnode, hnone, hname⟩

/-- **Making one directory adds it, and the path leads to it.** -/
theorem makeDirectory_eq_ok (h : fs.makeDirectory path = .ok fs') :
    fs'.working = fs.working ∧ ∃ place, fs.node? place = none ∧
      (∀ position, fs'.node? position =
        if position = place then some .directory else fs.node? position) ∧
      fs'.GoesThrough path place ∧ fs'.locate path = .ok place := by
  rw [makeDirectory] at h
  cases hplace : fs.freePlace path with
  | error e =>
      rw [hplace] at h
      cases h
  | ok place =>
      rw [hplace] at h
      have hfs' : fs' = { fs with root := fs.root.put place .empty } := (Except.ok.inj h).symm
      obtain ⟨hpath, before, directory, name, n, hpieces, hbefore, rfl, hdirectory, hnone,
        hempty, hhere, hup⟩ := freePlace_eq_ok hplace
      have hworking : fs'.working = fs.working := by rw [hfs']
      have hnodes : ∀ position, fs'.node? position =
          if position = directory ++ [name] then some .directory else fs.node? position := by
        intro position
        rw [hfs']
        refine FileTree.node?_put hdirectory ?_ (fun _ => rfl) position
        show fs.node? (directory ++ [name]) ≠ _
        rw [hnone]
        exact Option.some_ne_none _ |>.symm
      have hextends : fs.Extends fs' :=
        extends_of_node?_eq hworking (by rw [hnone]; exact (Option.some_ne_none _).symm) hnodes
      have hmade : fs'.node? (directory ++ [name]) = some .directory := by
        rw [hnodes, if_pos rfl]
      have hstep : fs'.step directory name = .ok (directory ++ [name]) := by
        refine step_eq_ok_iff.mpr ⟨hextends.directory _ hdirectory, ?_⟩
        rw [if_neg (not_or.mpr ⟨hempty, hhere⟩), if_neg hup, hmade]
        exact ⟨rfl, rfl⟩
      have hthere : (before ++ [name]).foldlM fs'.step (fs'.origin path) =
          .ok (directory ++ [name]) := by
        rw [hextends.origin_eq, foldlM_append_eq_ok_iff]
        exact ⟨directory, hextends.foldlM_step hbefore,
          foldlM_cons_eq_ok_iff.mpr ⟨_, hstep, rfl⟩⟩
      have hsplit : pieces path = (before ++ [name]) ++ List.replicate n "" := by
        rw [hpieces, List.append_assoc, List.singleton_append]
      refine ⟨hworking, _, hnone, hnodes, ⟨_, _, hsplit, hthere⟩, ?_⟩
      rw [locate_eq_ok_iff, hsplit, foldlM_append_eq_ok_iff]
      exact ⟨hpath, _, hthere, foldlM_replicate_empty hmade n⟩

/-! ## Making directories -/

/-- The file system has got directories that were missing and that a path goes through, and nothing
else has changed. -/
structure AddsDirectories (path : String) (fs fs' : FileSystem) : Prop where
  working : fs'.working = fs.working
  nodes : ∀ position, fs'.node? position = fs.node? position ∨
    (fs.node? position = none ∧ fs'.node? position = some .directory ∧
      fs'.GoesThrough path position)

namespace AddsDirectories

theorem refl (path : String) (fs : FileSystem) : AddsDirectories path fs fs :=
  ⟨rfl, fun _ => Or.inl rfl⟩

theorem node?_eq (h : AddsDirectories path fs fs') {n : Node} (hnode : fs.node? position = some n) :
    fs'.node? position = some n := by
  rcases h.nodes position with hsame | ⟨hnone, -, -⟩
  · rw [hsame, hnode]
  · cases hnone.symm.trans hnode

theorem toExtends (h : AddsDirectories path fs fs') : fs.Extends fs' where
  working := h.working
  directory _ := h.node?_eq
  present position hpresent := by
    obtain ⟨n, hn⟩ := Option.isSome_iff_exists.mp hpresent
    rw [h.node?_eq hn]
    rfl

theorem node?_eq_file_iff (h : AddsDirectories path fs fs') {content : Content} :
    fs'.node? position = some (.file content) ↔ fs.node? position = some (.file content) := by
  rcases h.nodes position with hsame | ⟨hnone, hmade, -⟩
  · rw [hsame]
  · rw [hnone, hmade]
    exact ⟨fun heq => (nomatch heq), fun heq => (nomatch heq)⟩

/-- First some directories, then others. -/
theorem trans {middle : FileSystem} (h : AddsDirectories path fs middle)
    (h' : AddsDirectories path middle fs') : AddsDirectories path fs fs' where
  working := h'.working.trans h.working
  nodes position := by
    rcases h'.nodes position with hsame' | ⟨hnone', hmade', hthrough'⟩
    · rcases h.nodes position with hsame | ⟨hnone, hmade, hthrough⟩
      · exact Or.inl (hsame'.trans hsame)
      · exact Or.inr ⟨hnone, hsame'.trans hmade, h'.toExtends.goesThrough hthrough⟩
    · rcases h.nodes position with hsame | ⟨-, hmade, -⟩
      · exact Or.inr ⟨hsame.symm.trans hnone', hmade', hthrough'⟩
      · cases hnone'.symm.trans hmade

theorem of_parent (h : AddsDirectories (parent path) fs fs') (hempty : parent path = "" → fs' = fs) :
    AddsDirectories path fs fs' := by
  by_cases hparent : parent path = ""
  · rw [hempty hparent]
    exact .refl path fs
  · refine ⟨h.working, fun position => (h.nodes position).imp_right ?_⟩
    rintro ⟨hnone, hmade, hthrough⟩
    exact ⟨hnone, hmade, goesThrough_of_parent hparent hthrough⟩

end AddsDirectories

theorem addsDirectories_of_makeDirectory (h : fs.makeDirectory path = .ok fs') :
    AddsDirectories path fs fs' := by
  obtain ⟨hworking, place, hnone, hnodes, hthrough, -⟩ := makeDirectory_eq_ok h
  refine ⟨hworking, fun position => ?_⟩
  rw [hnodes]
  by_cases hposition : position = place
  · rw [if_pos hposition, hposition]
    exact Or.inr ⟨hnone, rfl, hthrough⟩
  · rw [if_neg hposition]
    exact Or.inl rfl

/-- What `makeDirectories` promises: whatever comes of it, nothing but directories on the path is
new, and if it succeeds, the path is empty or leads to a directory. -/
def MakesPath (path : String) (fs : FileSystem) (outcome : Outcome) : Prop :=
  AddsDirectories path fs outcome.2 ∧
    (outcome.1 = .ok () → path = "" ∨ outcome.2.isDirectory path = true)

theorem makesPath_unlessThere (fs : FileSystem) (path : String) (fault : Fault) :
    MakesPath path fs (fs.unlessThere path fault) := by
  refine ⟨.refl path fs, fun h => Or.inr ?_⟩
  rw [unlessThere] at h ⊢
  by_contra hdirectory
  rw [if_neg hdirectory] at h
  cases h

theorem makesPath_makeDirectoryOr {otherwise : Fault → Outcome}
    (h : ∀ fault, fs.makeDirectory path = .error fault → MakesPath path fs (otherwise fault)) :
    MakesPath path fs (fs.makeDirectoryOr path otherwise) := by
  rw [makeDirectoryOr]
  cases hmake : fs.makeDirectory path with
  | error fault => exact h fault hmake
  | ok made =>
      obtain ⟨-, place, -, hnodes, -, hlocate⟩ := makeDirectory_eq_ok hmake
      refine ⟨addsDirectories_of_makeDirectory hmake, fun _ => Or.inr ?_⟩
      exact isDirectory_iff.mpr ⟨place, hlocate, by rw [hnodes, if_pos rfl]⟩

theorem makeDirectoriesTo_empty (depth : Nat) (fs : FileSystem) :
    (makeDirectoriesTo depth fs "").2 = fs := by
  cases depth <;> rfl

/-- **Making a directory with those above it**, by induction on the bound of the recursion. -/
theorem makesPath_makeDirectoriesTo (depth : Nat) (fs : FileSystem) (path : String) :
    MakesPath path fs (makeDirectoriesTo depth fs path) := by
  induction depth generalizing fs path with
  | zero => exact ⟨.refl path fs, fun h => (nomatch h)⟩
  | succ depth ih =>
      rw [makeDirectoriesTo]
      by_cases hpath : path = ""
      · rw [hpath]
        exact ⟨.refl "" fs, fun _ => Or.inl rfl⟩
      · rw [String.isEmpty_eq_false_iff.mpr hpath, if_neg Bool.false_ne_true]
        refine makesPath_makeDirectoryOr fun fault hfault => ?_
        cases fault with
        | notFound =>
            have habove : AddsDirectories path fs (makeDirectoriesTo depth fs (parent path)).2 := by
              refine (ih fs (parent path)).1.of_parent fun hempty => ?_
              rw [hempty]
              exact makeDirectoriesTo_empty depth fs
            rcases hdone : makeDirectoriesTo depth fs (parent path) with ⟨e | ⟨⟩, above⟩
            · rw [hdone] at habove
              exact ⟨habove, fun h => (nomatch h)⟩
            · rw [hdone] at habove
              obtain ⟨hadds, hthere⟩ :
                  MakesPath path above (above.makeDirectoryOr path (above.unlessThere path)) :=
                makesPath_makeDirectoryOr fun fault _ => makesPath_unlessThere above path fault
              exact ⟨habove.trans hadds, hthere⟩
        | _ => exact makesPath_unlessThere fs path _

/-- **Making a directory with those above it** adds directories that the path goes through and
changes nothing else, whether it succeeds or not. -/
theorem makesPath_makeDirectories (fs : FileSystem) (path : String) :
    MakesPath path fs (fs.makeDirectories path) :=
  makesPath_makeDirectoriesTo _ fs path

theorem exists_directoryPlace (h : fs.isDirectory path = true) :
    ∃ position, fs.directoryPlace path = .ok position ∧ fs.node? position = some .directory := by
  obtain ⟨position, hlocate, hnode⟩ := isDirectory_iff.mp h
  refine ⟨position, ?_, hnode⟩
  rw [directoryPlace, String.isEmpty_eq_false_iff.mpr (locate_eq_ok_iff.mp hlocate).1,
    if_neg Bool.false_ne_true]
  exact hlocate

/-! ## Putting a file in place -/

/-- The file system has got a text under a name in a directory, and nothing else has changed. -/
structure HasPut (place : List String) (text : String) (fs fs' : FileSystem) : Prop where
  working : fs'.working = fs.working
  nodes : ∀ position, fs'.node? position =
    if position = place then some (.file (.text text)) else fs.node? position

/-- **A file is put in place unless a directory is there**, and then nothing happens. -/
theorem placeFile_cases {directory : String} (hplace : fs.directoryPlace directory = .ok position)
    (hdirectory : fs.node? position = some .directory) (name text : String) :
    (fs.node? (position ++ [name]) = some .directory ∧
      fs.placeFile directory name text = .error .isDirectory) ∨
    (fs.node? (position ++ [name]) ≠ some .directory ∧
      ∃ fs', fs.placeFile directory name text = .ok fs' ∧
        HasPut (position ++ [name]) text fs fs') := by
  obtain ⟨entries, hentries⟩ := FileTree.exists_at?_of_node?_eq_directory hdirectory
  have hold : fs.node? (position ++ [name]) = (entries.lookup name).map FileTree.node :=
    FileTree.node?_concat hentries name
  have hput : fs.node? (position ++ [name]) ≠ some .directory →
      HasPut (position ++ [name]) text fs
        { fs with root := fs.root.put (position ++ [name]) (.file (.text text)) } := fun hne =>
    ⟨rfl, FileTree.node?_put hdirectory hne fun _ => rfl⟩
  rw [placeFile, hplace]
  simp only [bind, Except.bind, hentries]
  rw [hold] at hput ⊢
  generalize entries.lookup name = found at hput ⊢
  rcases found with _ | ⟨c | below⟩
  · exact Or.inr ⟨by simp, _, rfl, hput (by simp)⟩
  · exact Or.inr ⟨by simp [FileTree.node], _, rfl, hput (by simp [FileTree.node])⟩
  · exact Or.inl ⟨rfl, rfl⟩

theorem HasPut.toExtends {place : List String} {text : String} (h : HasPut place text fs fs')
    (hplace : fs.node? place ≠ some .directory) : fs.Extends fs' :=
  extends_of_node?_eq h.working hplace h.nodes

/-- Nothing is put where there is no directory. -/
theorem exists_placeFile_eq_error {directory : String}
    (hplace : fs.directoryPlace directory = .ok position)
    (hdirectory : fs.node? position ≠ some .directory) (name text : String) :
    ∃ fault, fs.placeFile directory name text = .error fault := by
  rw [placeFile, hplace]
  rw [node?, FileTree.node?] at hdirectory
  simp only [bind, Except.bind]
  generalize FileTree.at? position fs.root = found at hdirectory ⊢
  rcases found with _ | ⟨c | entries⟩
  · exact ⟨_, rfl⟩
  · exact ⟨_, rfl⟩
  · exact absurd rfl hdirectory

end FileSystem
end Files
end FixtureFactory
