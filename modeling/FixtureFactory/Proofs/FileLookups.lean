import FixtureFactory.Proofs.FilePaths
import FixtureFactory.Proofs.FileTrees

/-!
# Look-ups in a file system

A look-up takes the pieces of a path one by one, each from a directory.  What it needs of the file
system are the nodes on its way, so it leads to the same place in every file system that has kept
these nodes.

* `Extends`: nothing has been lost, though files may have got other contents.
* `Extends.foldlM_step`: a look-up that succeeds does so in every file system that extends the
  first.
* `GoesThrough`: the places that the look-up of a path passes, its end included.  Where the path
  above is not empty, the path goes through all that the path above goes through.
* `locate_join`: a file in a directory is found under its name after the path of the directory.
-/

namespace FixtureFactory
namespace Files
namespace FileSystem

/-- What stands at a place. -/
def node? (fs : FileSystem) (position : List String) : Option Node := fs.root.node? position

/-! ## Traversals that may fail -/

section Folds

variable {α β ε : Type} {f : β → α → Except ε β}

theorem foldlM_cons_eq_ok_iff {x : α} {xs : List α} {b c : β} :
    (x :: xs).foldlM f b = .ok c ↔ ∃ m, f b x = .ok m ∧ xs.foldlM f m = .ok c := by
  rw [List.foldlM_cons]
  cases f b x with
  | error e => exact ⟨fun h => (nomatch h), fun ⟨m, h, _⟩ => (nomatch h)⟩
  | ok m => exact ⟨fun h => ⟨m, rfl, h⟩, fun ⟨m', hm, h⟩ => Except.ok.inj hm ▸ h⟩

theorem foldlM_append_eq_ok_iff {xs ys : List α} {b c : β} :
    (xs ++ ys).foldlM f b = .ok c ↔ ∃ m, xs.foldlM f b = .ok m ∧ ys.foldlM f m = .ok c := by
  rw [List.foldlM_append]
  cases xs.foldlM f b with
  | error e => exact ⟨fun h => (nomatch h), fun ⟨m, h, _⟩ => (nomatch h)⟩
  | ok m => exact ⟨fun h => ⟨m, rfl, h⟩, fun ⟨m', hm, h⟩ => Except.ok.inj hm ▸ h⟩

end Folds

/-! ## Steps -/

section Steps

variable {fs fs' : FileSystem} {position next : List String} {piece : String}

/-- **A step of a look-up** is from a directory.  It stays, goes up, or goes down to something that
is there. -/
theorem step_eq_ok_iff :
    fs.step position piece = .ok next ↔
      fs.node? position = some .directory ∧
        if piece = "" ∨ piece = "." then next = position
        else if piece = ".." then next = position.dropLast
        else next = position ++ [piece] ∧ (fs.node? next).isSome := by
  rw [step, node?, FileTree.node?]
  rcases hplace : FileTree.at? position fs.root with _ | ⟨c | entries⟩
  · simp
  · simp [FileTree.node]
  · have hpresent : (fs.node? (position ++ [piece])).isSome = (entries.lookup piece).isSome := by
      rw [node?, FileTree.node?_concat hplace, Option.isSome_map]
    have hdots : ((piece == "" || piece == ".") = true) ↔ piece = "" ∨ piece = "." := by
      rw [Bool.or_eq_true, beq_iff_eq, beq_iff_eq]
    simp only [Option.map_some, FileTree.node, true_and, hdots, beq_iff_eq]
    split
    · rw [Except.ok.injEq, eq_comm]
    · split
      · rw [Except.ok.injEq, eq_comm]
      · rw [← hpresent]
        split
        · next h =>
            rw [Except.ok.injEq]
            constructor
            · rintro rfl
              exact ⟨rfl, h⟩
            · exact fun h => h.1.symm
        · next h =>
            constructor
            · intro herror
              cases herror
            · rintro ⟨rfl, hsome⟩
              exact absurd hsome h

theorem step_empty (h : fs.node? position = some .directory) : fs.step position "" = .ok position :=
  step_eq_ok_iff.mpr ⟨h, by simp⟩

theorem step_name {name : String} (hname : IsFileName name)
    (h : fs.node? position = some .directory) (hpresent : (fs.node? (position ++ [name])).isSome) :
    fs.step position name = .ok (position ++ [name]) := by
  refine step_eq_ok_iff.mpr ⟨h, ?_⟩
  rw [if_neg (not_or.mpr ⟨hname.notEmpty, hname.notHere⟩), if_neg hname.notUp]
  exact ⟨rfl, hpresent⟩

theorem foldlM_replicate_empty (h : fs.node? position = some .directory) (n : Nat) :
    (List.replicate n "").foldlM fs.step position = .ok position := by
  induction n with
  | zero => rfl
  | succ n ih =>
      rw [List.replicate_succ, foldlM_cons_eq_ok_iff]
      exact ⟨position, step_empty h, ih⟩

end Steps

/-! ## Extensions -/

/-- Nothing has been lost: directories are directories still, and every other place is taken still.
The contents of files may have changed. -/
structure Extends (fs fs' : FileSystem) : Prop where
  working : fs'.working = fs.working
  directory : ∀ position, fs.node? position = some .directory →
    fs'.node? position = some .directory
  present : ∀ position, (fs.node? position).isSome → (fs'.node? position).isSome

section Extensions

variable {fs fs' : FileSystem}

theorem Extends.refl (fs : FileSystem) : fs.Extends fs := ⟨rfl, fun _ => id, fun _ => id⟩

theorem Extends.trans {middle : FileSystem} (h : fs.Extends middle) (h' : middle.Extends fs') :
    fs.Extends fs' where
  working := h'.working.trans h.working
  directory position hposition := h'.directory position (h.directory position hposition)
  present position hposition := h'.present position (h.present position hposition)

theorem extends_of_node?_eq {place : List String} {n : Node} (hworking : fs'.working = fs.working)
    (hplace : fs.node? place ≠ some .directory)
    (hnodes : ∀ position, fs'.node? position =
      if position = place then some n else fs.node? position) : fs.Extends fs' where
  working := hworking
  directory position h := by
    have hne : position ≠ place := fun heq => hplace (heq ▸ h)
    rw [hnodes, if_neg hne, h]
  present position h := by
    rw [hnodes]
    split
    · rfl
    · exact h

theorem Extends.origin_eq (h : fs.Extends fs') (path : String) :
    fs'.origin path = fs.origin path := by
  rw [origin, origin, h.working]

theorem Extends.step (h : fs.Extends fs') {position next : List String} {piece : String}
    (hstep : fs.step position piece = .ok next) : fs'.step position piece = .ok next := by
  obtain ⟨hdirectory, hnext⟩ := step_eq_ok_iff.mp hstep
  refine step_eq_ok_iff.mpr ⟨h.directory position hdirectory, ?_⟩
  split at hnext
  · next hstay =>
      rw [if_pos hstay]
      exact hnext
  · next hstay =>
      rw [if_neg hstay]
      split at hnext
      · next hup =>
          rw [if_pos hup]
          exact hnext
      · next hup =>
          rw [if_neg hup]
          exact ⟨hnext.1, h.present next hnext.2⟩

/-- **A look-up that succeeds does so where nothing has been lost.** -/
theorem Extends.foldlM_step (h : fs.Extends fs') {path : List String} {start position : List String}
    (hpath : path.foldlM fs.step start = .ok position) :
    path.foldlM fs'.step start = .ok position := by
  induction path generalizing start with
  | nil => exact hpath
  | cons piece path ih =>
      obtain ⟨middle, hpiece, hrest⟩ := foldlM_cons_eq_ok_iff.mp hpath
      exact foldlM_cons_eq_ok_iff.mpr ⟨middle, h.step hpiece, ih hrest⟩

end Extensions

/-! ## Paths -/

section Paths

variable {fs fs' : FileSystem} {path : String} {position : List String}

/-- The places that the look-up of a path goes through, from its start to its end. -/
def GoesThrough (fs : FileSystem) (path : String) (position : List String) : Prop :=
  ∃ before after, pieces path = before ++ after ∧
    before.foldlM fs.step (fs.origin path) = .ok position

theorem Extends.goesThrough (h : fs.Extends fs') (hpath : fs.GoesThrough path position) :
    fs'.GoesThrough path position := by
  obtain ⟨before, after, hpieces, hbefore⟩ := hpath
  refine ⟨before, after, hpieces, ?_⟩
  rw [h.origin_eq]
  exact h.foldlM_step hbefore

theorem eq_nil_of_goesThrough_root (h : fs.GoesThrough "/" position) : position = [] := by
  obtain ⟨before, after, hpieces, hbefore⟩ := h
  have hempty : ∀ piece ∈ before, piece = "" := by
    intro piece hpiece
    have hmem : piece ∈ pieces "/" := hpieces ▸ List.mem_append_left after hpiece
    rcases List.mem_cons.mp hmem with h | h
    · exact h
    · exact List.mem_singleton.mp h
  have hstart : fs.origin "/" = [] := rfl
  rw [hstart] at hbefore
  clear hpieces
  induction before with
  | nil => exact (Except.ok.inj hbefore).symm
  | cons piece before ih =>
      obtain ⟨hpiece, hrest⟩ := List.forall_mem_cons.mp hempty
      obtain ⟨middle, hstep, hbefore⟩ := foldlM_cons_eq_ok_iff.mp hbefore
      have hmiddle := (step_eq_ok_iff.mp hstep).2
      rw [if_pos (Or.inl hpiece)] at hmiddle
      exact ih (hmiddle ▸ hbefore) hrest

/-- **A path goes through what the path above goes through**, where that is not empty. -/
theorem goesThrough_of_parent (hparent : parent path ≠ "")
    (h : fs.GoesThrough (parent path) position) : fs.GoesThrough path position := by
  rcases parent_cases path with hempty | ⟨hroot, habsolute⟩ | ⟨rest, hpath⟩
  · exact absurd hempty hparent
  · rw [hroot] at h
    rw [eq_nil_of_goesThrough_root h]
    refine ⟨[], pieces path, rfl, ?_⟩
    rw [origin, habsolute, if_pos rfl]
    rfl
  · obtain ⟨before, after, hpieces, hbefore⟩ := h
    have hpiecesPath := pieces_of_toList_eq hpath
    rw [String.ofList_toList, hpieces, List.append_assoc] at hpiecesPath
    refine ⟨before, _, hpiecesPath, ?_⟩
    have habsolute : isAbsolute path = isAbsolute (parent path) := by
      have hne : (parent path).toList ≠ [] := fun hnil => hparent (String.toList_eq_nil_iff.mp hnil)
      obtain ⟨c, cs, hcs⟩ := List.exists_cons_of_ne_nil hne
      rw [isAbsolute, isAbsolute, hpath, hcs]
      rfl
    rw [origin, habsolute]
    exact hbefore

theorem locate_eq_ok_iff :
    fs.locate path = .ok position ↔
      path ≠ "" ∧ (pieces path).foldlM fs.step (fs.origin path) = .ok position := by
  rw [locate]
  by_cases hpath : path = ""
  · simp [hpath]
  · rw [String.isEmpty_eq_false_iff.mpr hpath, if_neg Bool.false_ne_true, and_iff_right hpath]

theorem Extends.directoryPlace (h : fs.Extends fs')
    (hplace : fs.directoryPlace path = .ok position) :
    fs'.directoryPlace path = .ok position := by
  rw [FileSystem.directoryPlace] at hplace ⊢
  split
  · next hempty =>
      rw [if_pos hempty] at hplace
      rw [h.working]
      exact hplace
  · next hempty =>
      rw [if_neg hempty, locate_eq_ok_iff] at hplace
      rw [locate_eq_ok_iff, h.origin_eq]
      exact ⟨hplace.1, h.foldlM_step hplace.2⟩

/-- **A file in a directory is found under its name** after the path of the directory. -/
theorem locate_join {name : String} (hname : IsFileName name)
    (hplace : fs.directoryPlace path = .ok position)
    (hdirectory : fs.node? position = some .directory)
    (hpresent : (fs.node? (position ++ [name])).isSome) :
    fs.locate (join path name) = .ok (position ++ [name]) := by
  have hlast := step_name hname hdirectory hpresent
  rw [directoryPlace] at hplace
  rw [locate_eq_ok_iff]
  by_cases hpath : path = ""
  · -- the name alone, from the working directory
    have hworking : fs.working = position := by
      rw [hpath] at hplace
      exact Except.ok.inj hplace
    have hjoin : join "" name = name := rfl
    rw [hpath, hjoin, pieces_of_noSlash hname.noSlash, origin, isAbsolute_of_noSlash hname.noSlash,
      if_neg Bool.false_ne_true, hworking]
    refine ⟨hname.notEmpty, foldlM_cons_eq_ok_iff.mpr ⟨_, hlast, rfl⟩⟩
  · rw [String.isEmpty_eq_false_iff.mpr hpath, if_neg Bool.false_ne_true, locate_eq_ok_iff] at hplace
    obtain ⟨front, hpieces, hfront⟩ := exists_pieces_join hpath hname.noSlash
    have horigin : fs.origin (join path name) = fs.origin path := by
      rw [origin, origin, isAbsolute_join hpath]
    have hmiddle : front.foldlM fs.step (fs.origin path) = .ok position := by
      rcases hfront with hfront | hfront
      · rw [← hfront]
        exact hplace.2
      · rw [hfront] at hplace
        obtain ⟨middle, hmiddle, hempty⟩ := foldlM_append_eq_ok_iff.mp hplace.2
        obtain ⟨last, hstep, hend⟩ := foldlM_cons_eq_ok_iff.mp hempty
        have hstay := (step_eq_ok_iff.mp hstep).2
        rw [if_pos (Or.inl rfl)] at hstay
        rw [hmiddle, ← hstay]
        exact hend
    refine ⟨?_, ?_⟩
    · intro hempty
      rcases toList_join hpath name with ⟨hjoin, -⟩ | hjoin
      · rw [hempty] at hjoin
        exact hname.notEmpty (String.toList_eq_nil_iff.mp (List.append_eq_nil_iff.mp hjoin.symm).2)
      · rw [hempty] at hjoin
        exact List.cons_ne_nil _ _ (List.append_eq_nil_iff.mp hjoin.symm).2
    · rw [hpieces, horigin, foldlM_append_eq_ok_iff]
      exact ⟨position, hmiddle, foldlM_cons_eq_ok_iff.mpr ⟨_, hlast, rfl⟩⟩

theorem find_eq_ok_iff {t : FileTree} :
    fs.find path = .ok t ↔
      ∃ position, fs.locate path = .ok position ∧ FileTree.at? position fs.root = some t := by
  rw [find]
  cases fs.locate path with
  | error e => exact ⟨fun h => (nomatch h), fun ⟨_, h, _⟩ => (nomatch h)⟩
  | ok position =>
      simp only [bind, Except.bind, Except.ok.injEq, exists_eq_left']
      cases FileTree.at? position fs.root <;> simp

theorem isDirectory_iff :
    fs.isDirectory path = true ↔
      ∃ position, fs.locate path = .ok position ∧ fs.node? position = some .directory := by
  have hnode : ∀ position, fs.node? position = some .directory ↔
      ∃ entries, FileTree.at? position fs.root = some (.directory entries) := by
    refine fun position => ⟨FileTree.exists_at?_of_node?_eq_directory, ?_⟩
    rintro ⟨entries, h⟩
    rw [node?, FileTree.node?, h]
    rfl
  have hfind : fs.isDirectory path = true ↔ ∃ entries, fs.find path = .ok (.directory entries) := by
    rw [isDirectory]
    rcases fs.find path with e | ⟨c | entries⟩ <;> simp
  simp only [hfind, find_eq_ok_iff, hnode]
  rw [exists_comm]
  simp only [exists_and_left]

theorem readText_of_node? {text : String} (hlocate : fs.locate path = .ok position)
    (hnode : fs.node? position = some (.file (.text text))) : fs.readText path = .ok text := by
  rw [node?, FileTree.node?] at hnode
  obtain ⟨t, ht, hfile⟩ := Option.map_eq_some_iff.mp hnode
  have hfind : fs.find path = .ok t := find_eq_ok_iff.mpr ⟨position, hlocate, ht⟩
  rw [readText, hfind]
  cases t with
  | directory entries => cases hfile
  | file content =>
      cases hfile
      rfl

end Paths
end FileSystem
end Files
end FixtureFactory
