import FixtureFactory.Generator
import FixtureFactory.Proofs.FileChanges
import Mathlib.Data.List.Nodup

/-!
# Writing files into a directory

The output directory is made, and then the files are put into it one after another.  The first file
that cannot be put in place ends this, and what has been put in place by then stays.

* `HasReceived`: a directory has got some files, and nothing else has changed.
* `placeFiles_cases`: it gets all of the files, or those before one under whose name a directory
  stands.
* `Writes`: what comes of it from the start, where the directory may be missing.  Three ways are all
  there are (`writes_writeFiles`), as long as there is a file and no two share a name.

That the names differ is what makes the contents stay: the second of two files of one name would
take the place of the first.
-/

namespace FixtureFactory

open Files (FileSystem)
open Files.FileSystem (AddsDirectories)

namespace Files.FileSystem

/-! ## Files that a directory has got -/

/-- The directory at a position has got files, in place of those that were there under their names,
and nothing else has changed. -/
structure HasReceived (position : List String) (files : List (String × String))
    (fs fs' : FileSystem) : Prop where
  toExtends : fs.Extends fs'
  contents : ∀ file ∈ files, fs'.node? (position ++ [file.1]) = some (.file (.text file.2))
  others : ∀ place, (∀ file ∈ files, place ≠ position ++ [file.1]) →
    fs'.node? place = fs.node? place

variable {fs middle fs' : FileSystem} {position : List String} {files : List (String × String)}

theorem hasReceived_nil (position : List String) (fs : FileSystem) :
    HasReceived position [] fs fs :=
  ⟨.refl fs, fun _ hfile => absurd hfile List.not_mem_nil, fun _ _ => rfl⟩

/-- A first file, and then others under other names. -/
theorem HasReceived.cons {name text : String} (hput : HasPut (position ++ [name]) text fs middle)
    (hold : fs.node? (position ++ [name]) ≠ some .directory)
    (h : HasReceived position files middle fs') (hname : name ∉ files.map Prod.fst) :
    HasReceived position ((name, text) :: files) fs fs' where
  toExtends := (hput.toExtends hold).trans h.toExtends
  contents := by
    refine List.forall_mem_cons.mpr ⟨?_, h.contents⟩
    have hkept : fs'.node? (position ++ [name]) = middle.node? (position ++ [name]) := by
      refine h.others _ fun file hfile heq => hname ?_
      rw [List.singleton_inj.mp (List.append_cancel_left heq)]
      exact List.mem_map_of_mem hfile
    rw [hkept, hput.nodes, if_pos rfl]
  others place hplace := by
    obtain ⟨hne, hrest⟩ := List.forall_mem_cons.mp hplace
    rw [h.others place hrest, hput.nodes, if_neg hne]

theorem HasReceived.node?_cases (h : HasReceived position files fs fs') (place : List String) :
    (∃ file ∈ files, place = position ++ [file.1] ∧
      fs'.node? place = some (.file (.text file.2))) ∨
    fs'.node? place = fs.node? place := by
  by_cases hplace : ∃ file ∈ files, place = position ++ [file.1]
  · obtain ⟨file, hfile, rfl⟩ := hplace
    exact Or.inl ⟨file, hfile, rfl, h.contents file hfile⟩
  · exact Or.inr (h.others place fun file hfile heq => hplace ⟨file, hfile, heq⟩)

end Files.FileSystem

namespace Generator

open Files.FileSystem (HasReceived hasReceived_nil placeFile_cases exists_placeFile_eq_error)

/-! ## Files one after another -/

/-- **All of the files are put in place, or those before one under whose name a directory stands.**
The induction is on the files; the directory stays where it is, since a file takes the place of no
directory. -/
theorem placeFiles_cases {directory : String} {position : List String}
    {files : List (String × String)} (hnames : (files.map Prod.fst).Nodup) {fs : FileSystem}
    (hplace : fs.directoryPlace directory = .ok position)
    (hdirectory : fs.node? position = some .directory) :
    (∃ fs', placeFiles directory files fs = (.ok (), fs') ∧ HasReceived position files fs fs') ∨
    ∃ before file after fs', files = before ++ file :: after ∧
      placeFiles directory files fs =
        (.error (.unwritable (Files.join directory file.1) .isDirectory), fs') ∧
      HasReceived position before fs fs' ∧
      fs.node? (position ++ [file.1]) = some .directory := by
  induction files generalizing fs with
  | nil => exact Or.inl ⟨fs, rfl, hasReceived_nil position fs⟩
  | cons file files ih =>
      obtain ⟨name, text⟩ := file
      obtain ⟨hname, hnames⟩ := List.nodup_cons.mp hnames
      rw [placeFiles]
      rcases placeFile_cases hplace hdirectory name text with ⟨hold, hput⟩ |
        ⟨hold, middle, hput, hmiddle⟩
      · rw [hput]
        exact Or.inr ⟨[], (name, text), files, fs, rfl, rfl, hasReceived_nil position fs, hold⟩
      · rw [hput]
        have hextends := hmiddle.toExtends hold
        rcases ih hnames (hextends.directoryPlace hplace) (hextends.directory _ hdirectory) with
          ⟨fs', hdone, hreceived⟩ | ⟨before, file, after, fs', rfl, hdone, hreceived, hblocked⟩
        · exact Or.inl ⟨fs', hdone, hreceived.cons hmiddle hold hname⟩
        · rw [List.map_append, List.mem_append, not_or] at hname
          refine Or.inr ⟨(name, text) :: before, file, after, fs', rfl, hdone,
            hreceived.cons hmiddle hold hname.1, ?_⟩
          have hne : position ++ [file.1] ≠ position ++ [name] := by
            intro heq
            refine hname.2 ?_
            rw [← List.singleton_inj.mp (List.append_cancel_left heq)]
            exact List.mem_cons_self
          rw [hmiddle.nodes, if_neg hne] at hblocked
          exact hblocked

/-! ## The directory and the files -/

/-- What comes of writing files into a directory: the paths or an error, and the file system after
it. -/
inductive Writes (directory : String) (files : List (String × String)) (fs : FileSystem) :
    Except GenerationError (List String) × FileSystem → Prop
  /-- There is no directory to put files into. -/
  | noDirectory {made : FileSystem} (path : String) (fault : Files.Fault)
      (hmade : AddsDirectories directory fs made) :
      Writes directory files fs (.error (.unwritable path fault), made)
  /-- A directory stands under the name of a file, and those before it have been put in place. -/
  | blocked {made fs' : FileSystem} {position : List String} {before after : List (String × String)}
      {file : String × String} (hfiles : files = before ++ file :: after)
      (hmade : AddsDirectories directory fs made)
      (hplace : made.directoryPlace directory = .ok position)
      (hblocked : made.node? (position ++ [file.1]) = some .directory)
      (hreceived : HasReceived position before made fs') :
      Writes directory files fs
        (.error (.unwritable (Files.join directory file.1) .isDirectory), fs')
  /-- All files have been put in place. -/
  | done {made fs' : FileSystem} {position : List String}
      (hmade : AddsDirectories directory fs made)
      (hplace : made.directoryPlace directory = .ok position)
      (hdirectory : made.node? position = some .directory)
      (hreceived : HasReceived position files made fs') :
      Writes directory files fs (.ok (files.map fun file => Files.join directory file.1), fs')

/-- **Writing files into a directory** goes one of three ways. -/
theorem writes_writeFiles (directory : String) {files : List (String × String)}
    (hfiles : files ≠ []) (hnames : (files.map Prod.fst).Nodup) (fs : FileSystem) :
    Writes directory files fs (writeFiles directory files fs) := by
  have hmakes := Files.FileSystem.makesPath_makeDirectories fs directory
  rw [writeFiles]
  rcases hoperation : fs.makeDirectories directory with ⟨fault | ⟨⟩, made⟩
  · rw [hoperation] at hmakes
    exact .noDirectory directory fault hmakes.1
  · rw [hoperation] at hmakes
    obtain ⟨hmade, hthere⟩ := hmakes
    have hplaced : ∃ position, made.directoryPlace directory = .ok position := by
      rcases hthere rfl with rfl | hdirectory
      · exact ⟨_, rfl⟩
      · obtain ⟨position, hplace, -⟩ := Files.FileSystem.exists_directoryPlace hdirectory
        exact ⟨position, hplace⟩
    obtain ⟨position, hplace⟩ := hplaced
    by_cases hdirectory : made.node? position = some .directory
    · rcases placeFiles_cases hnames hplace hdirectory with
        ⟨fs', hdone, hreceived⟩ | ⟨before, file, after, fs', hsplit, hdone, hreceived, hblocked⟩
      · simp only [hdone]
        exact .done hmade hplace hdirectory hreceived
      · simp only [hdone]
        exact .blocked hsplit hmade hplace hblocked hreceived
    · -- the working directory is missing, so the first file has no place
      obtain ⟨⟨name, text⟩, rest, rfl⟩ := List.exists_cons_of_ne_nil hfiles
      obtain ⟨fault, hfault⟩ := exists_placeFile_eq_error hplace hdirectory name text
      simp only [placeFiles, hfault]
      exact .noDirectory _ fault hmade

end Generator
end FixtureFactory
