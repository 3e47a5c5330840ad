import FixtureFactory.Proofs.FilePaths
import FixtureFactory.Proofs.PathTexts
import FixtureFactory.SourceIndex

/-!
# Units and modules of one file

A file gives its name to two things that are read off its path apart from each other: the unit that
its factories are written to, and the module that its declarations belong to.  The unit is named
after the stem of the file, or after its directory if the file is named `mod`.  The module has a
segment for each directory and one for the stem, unless the stem stands for the directory or for
the root.  The two readings come to the same name, however deep the file lies.

* `SourcePlace`: the directories and the stem of a source file below the source root.
* `SourcePlace.unitBaseName_text`, `SourcePlace.moduleSegments_text`: the two readings by cases on
  the stem.
* `SourcePlace.pathSegments_modulePathOf_text`: the module path of a file, segment by segment.
* `SourcePlace.unit_named_after_module`: the unit has the name of the module's last segment.
-/

namespace FixtureFactory

/-! ## Endings -/

theorem Text.dropEnding_append (ending cs : List Char) : dropEnding ending (cs ++ ending) = cs := by
  rw [dropEnding, if_pos (List.isSuffixOf_iff_suffix.mpr (List.suffix_append cs ending)),
    List.length_append, Nat.add_sub_cancel, List.take_left]

theorem dropEnding_extension (name : String) :
    Text.dropEnding ['.', 'r', 's'] (name ++ ".rs").toList = name.toList := by
  rw [String.toList_append]
  exact Text.dropEnding_append _ _

theorem intercalate_concat_append (separator text ending : String) (before : List String) :
    separator.intercalate (before ++ [text ++ ending]) =
      separator.intercalate (before ++ [text]) ++ ending := by
  by_cases hbefore : before = []
  · rw [hbefore, List.nil_append, List.nil_append, String.intercalate_singleton,
      String.intercalate_singleton]
  · rw [String.intercalate_append_of_ne_nil hbefore (List.cons_ne_nil _ _),
      String.intercalate_append_of_ne_nil hbefore (List.cons_ne_nil _ _),
      String.intercalate_singleton, String.intercalate_singleton, ← String.append_assoc]

/-! ## Places of source files -/

/-- A text that may stand between the slashes of a path: one that is not empty and has neither
slashes of either kind nor colons. -/
structure IsPathPart (part : String) : Prop where
  notEmpty : part ≠ ""
  noSlash : '/' ∉ part.toList
  noBackslash : '\\' ∉ part.toList
  noColon : ':' ∉ part.toList

instance (part : String) : Decidable (IsPathPart part) :=
  decidable_of_iff (part ≠ "" ∧ '/' ∉ part.toList ∧ '\\' ∉ part.toList ∧ ':' ∉ part.toList)
    ⟨fun ⟨hempty, hslash, hbackslash, hcolon⟩ => ⟨hempty, hslash, hbackslash, hcolon⟩,
      fun h => ⟨h.notEmpty, h.noSlash, h.noBackslash, h.noColon⟩⟩

/-- The place of a source file below the source root. -/
structure SourcePlace where
  directories : List String
  /-- The name of the file without its extension. -/
  stem : String
  isPathPart_of_mem : ∀ part ∈ directories ++ [stem], IsPathPart part

namespace SourcePlace

variable (p : SourcePlace)

/-- The path of the file. -/
def text : String := "/".intercalate (p.directories ++ [p.stem ++ ".rs"])

theorem isPathPart_stem : IsPathPart p.stem :=
  p.isPathPart_of_mem p.stem (List.mem_append_right _ (List.mem_singleton_self _))

theorem noSlashes_of_mem {name : String} (h : name ∈ p.directories ++ [p.stem ++ ".rs"]) :
    '/' ∉ name.toList ∧ '\\' ∉ name.toList := by
  rcases List.mem_append.mp h with h | h
  · have hpart := p.isPathPart_of_mem name (List.mem_append_left _ h)
    exact ⟨hpart.noSlash, hpart.noBackslash⟩
  · rw [List.mem_singleton.mp h, String.toList_append]
    simp only [List.mem_append, not_or]
    exact ⟨⟨p.isPathPart_stem.noSlash, by decide⟩, ⟨p.isPathPart_stem.noBackslash, by decide⟩⟩

theorem pieces_text : Files.pieces p.text = p.directories ++ [p.stem ++ ".rs"] :=
  Files.pieces_intercalate (List.concat_ne_nil _ _) fun _ hname => (p.noSlashes_of_mem hname).1

/-- A file with a path that has no slash is in no directory. -/
theorem text_eq_append_iff (stem : String) (h : '/' ∉ stem.toList) :
    p.text = stem ++ ".rs" ↔ p.directories = [] ∧ p.stem = stem := by
  constructor
  · intro htext
    have hslash : '/' ∉ (stem ++ ".rs").toList := by
      rw [String.toList_append, List.mem_append, not_or]
      exact ⟨h, by decide⟩
    have hpieces : p.directories ++ [p.stem ++ ".rs"] = [] ++ [stem ++ ".rs"] := by
      rw [← p.pieces_text, htext, Files.pieces_of_noSlash hslash, List.nil_append]
    obtain ⟨hdirectories, hname⟩ := List.append_inj' hpieces rfl
    exact ⟨hdirectories, (String.append_left_inj _).mp (List.singleton_inj.mp hname)⟩
  · rintro ⟨hdirectories, rfl⟩
    rw [text, hdirectories, List.nil_append, String.intercalate_singleton]

/-! ## The unit -/

/-- **The base name of the unit** is the stem, or the last directory for a file named `mod`. -/
theorem unitBaseName_text :
    unitBaseName p.text =
      if p.stem = "mod" then p.directories.getLast?.getD "mod" else p.stem := by
  have hsplit : Text.splitSlashes p.text.toList =
      (p.directories ++ [p.stem ++ ".rs"]).map String.toList := by
    refine Text.splitWhere_toList_intercalate rfl rfl (List.concat_ne_nil _ _) ?_
    intro name hname c hc
    obtain ⟨hslash, hbackslash⟩ := p.noSlashes_of_mem hname
    exact Bool.or_eq_false_iff.mpr
      ⟨beq_false_of_ne fun h => hslash (h ▸ hc), beq_false_of_ne fun h => hbackslash (h ▸ hc)⟩
  have hmod : p.stem.toList = ['m', 'o', 'd'] ↔ p.stem = "mod" := by
    rw [← String.toList_inj]
    rfl
  rw [unitBaseName, hsplit, ← List.map_reverse, List.reverse_concat, List.map_cons]
  simp only [dropEnding_extension, hmod]
  split
  · next h =>
      rw [h, List.map_reverse, List.headD_eq_head?_getD, List.head?_reverse, List.getLast?_map]
      cases p.directories.getLast? with
      | none => rfl
      | some directory => exact String.ofList_toList
  · exact String.ofList_toList

/-! ## The module -/

/-- **The segments of the module** below the root are the directories and the stem.  The stem `mod`
is none of them, nor are `lib` and `main` in no directory. -/
theorem moduleSegments_text :
    moduleSegments p.text =
      if p.stem = "mod" then p.directories
      else if (p.stem = "lib" ∨ p.stem = "main") ∧ p.directories = [] then []
      else p.directories ++ [p.stem] := by
  have hstem : Text.dropEnding ['.', 'r', 's'] p.text.toList =
      ("/".intercalate (p.directories ++ [p.stem])).toList := by
    rw [text, intercalate_concat_append, dropEnding_extension]
  have hsplit : Text.splitWhere (· == '/') ("/".intercalate (p.directories ++ [p.stem])).toList =
      (p.directories ++ [p.stem]).map String.toList :=
    Text.splitWhere_toList_intercalate rfl rfl (List.concat_ne_nil _ _) fun part hpart c hc =>
      beq_false_of_ne fun h => (p.isPathPart_of_mem part hpart).noSlash (h ▸ hc)
  have hfilter : ((p.directories ++ [p.stem]).map String.toList).filter (!·.isEmpty) =
      (p.directories ++ [p.stem]).map String.toList := by
    refine List.filter_eq_self.mpr (List.forall_mem_map.mpr fun part hpart => ?_)
    have hempty := (p.isPathPart_of_mem part hpart).notEmpty
    simpa using hempty
  rw [moduleSegments, hstem, hsplit, hfilter, Text.map_ofList_map_toList, List.getLast?_concat,
    List.dropLast_concat]
  split
  · next hmod => rw [if_pos (Option.some.inj hmod)]
  · next hlib =>
      have hlib : p.stem = "lib" := Option.some.inj hlib
      simp [hlib]
  · next hmain =>
      have hmain : p.stem = "main" := Option.some.inj hmain
      simp [hmain]
  · next hmod hlib hmain =>
      have hnot : ¬ ((p.stem = "lib" ∨ p.stem = "main") ∧ p.directories = []) := by
        rintro ⟨hstem | hstem, -⟩
        · exact hlib (congrArg some hstem)
        · exact hmain (congrArg some hstem)
      rw [if_neg fun hstem => hmod (congrArg some hstem), if_neg hnot]

/-- **The module path of a file**, segment by segment. -/
theorem pathSegments_modulePathOf_text :
    pathSegments (modulePathOf p.text) = rootModule :: moduleSegments p.text := by
  refine pathSegments_joinPath (List.cons_ne_nil _ _) (List.forall_mem_cons.mpr ⟨by decide, ?_⟩)
  intro segment hsegment
  have hpart : segment ∈ p.directories ++ [p.stem] := by
    rw [moduleSegments_text] at hsegment
    split at hsegment
    · exact List.mem_append_left _ hsegment
    · split at hsegment
      · cases hsegment
      · exact hsegment
  exact (p.isPathPart_of_mem segment hpart).noColon

/-- The module of a file is the root for three files only, which are in no directory. -/
theorem moduleSegments_text_eq_nil_iff :
    moduleSegments p.text = [] ↔ p.text = "lib.rs" ∨ p.text = "main.rs" ∨ p.text = "mod.rs" := by
  have hlib : p.text = "lib.rs" ↔ p.directories = [] ∧ p.stem = "lib" :=
    p.text_eq_append_iff "lib" (by decide)
  have hmain : p.text = "main.rs" ↔ p.directories = [] ∧ p.stem = "main" :=
    p.text_eq_append_iff "main" (by decide)
  have hmod : p.text = "mod.rs" ↔ p.directories = [] ∧ p.stem = "mod" :=
    p.text_eq_append_iff "mod" (by decide)
  rw [moduleSegments_text, hlib, hmain, hmod, ← and_or_left, ← and_or_left]
  split
  · next hstem => exact ⟨fun h => ⟨h, .inr (.inr hstem)⟩, And.left⟩
  · next hstem =>
      split
      · next hroot => exact iff_of_true rfl ⟨hroot.2, hroot.1.imp_right .inl⟩
      · next hroot =>
          refine iff_of_false (List.concat_ne_nil _ _) ?_
          rintro ⟨hdirectories, h | h | h⟩
          · exact hroot ⟨.inl h, hdirectories⟩
          · exact hroot ⟨.inr h, hdirectories⟩
          · exact hstem h

theorem modulePathOf_text_eq_rootModule_iff :
    modulePathOf p.text = rootModule ↔ moduleSegments p.text = [] := by
  constructor
  · intro h
    have hsegments := p.pathSegments_modulePathOf_text
    rw [h] at hsegments
    have hroot : pathSegments rootModule = [rootModule] := by decide
    exact (List.cons.inj (hroot.symm.trans hsegments)).2.symm
  · intro h
    rw [modulePathOf, h, joinPath_singleton]

/-- The last segment of a module below the root is the name of the unit. -/
theorem getLast?_moduleSegments_text (h : moduleSegments p.text ≠ []) :
    (moduleSegments p.text).getLast? = some (unitBaseName p.text) := by
  rw [moduleSegments_text] at h ⊢
  rw [unitBaseName_text]
  split
  · next hmod =>
      rw [if_pos hmod] at h
      rw [List.getLast?_eq_some_getLast h]
      rfl
  · next hmod =>
      rw [if_neg hmod] at h
      split
      · next hroot => exact absurd (if_pos hroot) h
      · exact List.getLast?_concat

/-- **Units are named after modules.**  A file is that of the root module if it is `lib`, `main` or
`mod` in no directory, and not otherwise.  The unit of any other file has the name of the last
segment of its module, so that two of them have units of one name if and only if their modules end
in the same segment.

The two readings of a path are made in different places of the program, and by different rules for
`mod`, which stands for its directory.  They agree at any depth. -/
theorem unit_named_after_module :
    (∀ p : SourcePlace,
      (modulePathOf p.text = rootModule ↔
        p.text = "lib.rs" ∨ p.text = "main.rs" ∨ p.text = "mod.rs") ∧
      (modulePathOf p.text ≠ rootModule →
        (pathSegments (modulePathOf p.text)).getLast? = some (unitBaseName p.text))) ∧
    ∀ p q : SourcePlace, modulePathOf p.text ≠ rootModule → modulePathOf q.text ≠ rootModule →
      (outputUnitName (unitBaseName p.text) = outputUnitName (unitBaseName q.text) ↔
        (pathSegments (modulePathOf p.text)).getLast? =
          (pathSegments (modulePathOf q.text)).getLast?) := by
  have hlast (p : SourcePlace) (h : modulePathOf p.text ≠ rootModule) :
      (pathSegments (modulePathOf p.text)).getLast? = some (unitBaseName p.text) := by
    have hbelow : moduleSegments p.text ≠ [] := mt p.modulePathOf_text_eq_rootModule_iff.mpr h
    rw [pathSegments_modulePathOf_text, List.getLast?_cons, getLast?_moduleSegments_text p hbelow]
    rfl
  refine ⟨fun p => ⟨?_, hlast p⟩, fun p q hp hq => ?_⟩
  · rw [modulePathOf_text_eq_rootModule_iff, moduleSegments_text_eq_nil_iff]
  · rw [hlast p hp, hlast q hq, Option.some_inj, outputUnitName, outputUnitName,
      String.append_left_inj]

/-- The file of a directory's module. -/
def billingDirectory : SourcePlace := ⟨["store", "billing"], "mod", by decide +kernel⟩

/-- A file of the same name elsewhere. -/
def billingFile : SourcePlace := ⟨["archive"], "billing", by decide +kernel⟩

/-- A directory and a file of one name, in two places, have units of one name. -/
theorem unit_named_after_module_billing :
    billingDirectory.text = "store/billing/mod.rs" ∧ billingFile.text = "archive/billing.rs" ∧
    modulePathOf billingDirectory.text ≠ rootModule ∧ modulePathOf billingFile.text ≠ rootModule ∧
    (pathSegments (modulePathOf billingDirectory.text)).getLast? =
      some (unitBaseName billingDirectory.text) ∧
    outputUnitName (unitBaseName billingDirectory.text) =
      outputUnitName (unitBaseName billingFile.text) := by
  have hdirectory : modulePathOf billingDirectory.text ≠ rootModule := by decide +kernel
  have hfile : modulePathOf billingFile.text ≠ rootModule := by decide +kernel
  have hsegments : (pathSegments (modulePathOf billingDirectory.text)).getLast? =
      (pathSegments (modulePathOf billingFile.text)).getLast? := by decide +kernel
  exact ⟨by decide +kernel, by decide +kernel, hdirectory, hfile,
    (unit_named_after_module.1 billingDirectory).2 hdirectory,
    (unit_named_after_module.2 billingDirectory billingFile hdirectory hfile).mpr hsegments⟩

end SourcePlace
end FixtureFactory
