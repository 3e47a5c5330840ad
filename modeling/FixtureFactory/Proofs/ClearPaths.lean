import FixtureFactory.Proofs.PlacedItems
import FixtureFactory.Proofs.ResolvedSegments
import FixtureFactory.Proofs.SourceScopes
import FixtureFactory.Proofs.TypeReading

/-!
# Paths without delimiters

The texts of types can be told apart if no path holds a bracket or a comma.  The words of a source
hold none, and all that a resolution puts into a path are the segments that were written, those of
imports, and the modules and types of the sources.  Only the names of files are not read from a
source, so the files are what remains to be asked about.

* `isClear_modulePathOf`: the module of a file is clear if the path of the file is.
* `ScopeTable.isClear_scopesOf`: the imports and types of sources are clear.
* `ScopeTable.IsClear.allClear_absolute`: in such a table a path is resolved to clear segments.
* `ScopeTable.IsClear.isClear_paths_writtenType`: so the types in such a table have clear paths.
* `isClear_of_mem_placedItems`: and they are written in modules with clear paths.
-/

namespace FixtureFactory

open Source (TypeTerm Argument UseTree Item IsWordText)

/-! ## Clear texts -/

theorem isClear_of_isWordText {text : String} (h : IsWordText text) : IsClear text := by
  have hdelimiters : TypeRef.delimiters.all (!Source.isNameCharacter ·) = true := by
    decide +kernel
  intro c hc hdelimiter
  have hother := List.all_eq_true.mp hdelimiters c hdelimiter
  rw [h c hc] at hother
  cases hother

theorem IsClear.append {text text' : String} (h : IsClear text) (h' : IsClear text') :
    IsClear (text ++ text') := by
  intro c hc
  rw [String.toList_append] at hc
  rcases List.mem_append.mp hc with hc | hc
  · exact h c hc
  · exact h' c hc

theorem IsClear.memberPath {module name : String} (h : IsClear module) (h' : IsClear name) :
    IsClear (ScopeTable.memberPath module name) :=
  (h.append (by decide)).append h'

/-- Whether all segments of a path are clear. -/
def AllClear (path : List String) : Prop := ∀ segment ∈ path, IsClear segment

theorem AllClear.append {path below : List String} (h : AllClear path) (h' : AllClear below) :
    AllClear (path ++ below) := by
  intro segment hsegment
  rcases List.mem_append.mp hsegment with hsegment | hsegment
  · exact h segment hsegment
  · exact h' segment hsegment

theorem allClear_nil : AllClear [] := fun _ h => absurd h List.not_mem_nil

theorem allClear_cons {segment : String} {path : List String} :
    AllClear (segment :: path) ↔ IsClear segment ∧ AllClear path := List.forall_mem_cons

/-- **The text of a path of clear segments is clear.** -/
theorem isClear_joinPath {path : List String} (h : AllClear path) : IsClear (joinPath path) := by
  induction path with
  | nil => exact fun c hc => absurd hc List.not_mem_nil
  | cons segment path ih =>
      rw [allClear_cons] at h
      cases path with
      | nil =>
          rw [joinPath_singleton]
          exact h.1
      | cons next path =>
          rw [joinPath_cons_cons]
          exact (h.1.append (by decide)).append (ih h.2)

theorem allClear_pathSegments {text : String} (h : IsClear text) :
    AllClear (pathSegments text) := by
  intro segment hsegment c hc
  obtain ⟨piece, hpiece, rfl⟩ := List.mem_map.mp hsegment
  rw [String.toList_ofList] at hc
  exact h c (Text.mem_of_mem_splitSegments hpiece c hc)

/-- **The module of a file is clear** if the path of the file is. -/
theorem isClear_modulePathOf {path : String} (h : IsClear path) : IsClear (modulePathOf path) := by
  have hstem : ∀ c ∈ Text.dropEnding ['.', 'r', 's'] path.toList, c ∈ path.toList := by
    intro c hc
    rw [Text.dropEnding] at hc
    split at hc
    · exact List.mem_of_mem_take hc
    · exact hc
  have hpieces : AllClear (((Text.splitWhere (· == '/')
      (Text.dropEnding ['.', 'r', 's'] path.toList)).filter (!·.isEmpty)).map String.ofList) := by
    intro segment hsegment c hc
    obtain ⟨piece, hpiece, rfl⟩ := List.mem_map.mp hsegment
    rw [String.toList_ofList] at hc
    exact h c (hstem c (Text.mem_of_mem_splitWhere (List.mem_of_mem_filter hpiece) c hc))
  have hsegments : AllClear (moduleSegments path) := by
    rw [moduleSegments]
    split
    · exact fun segment hsegment => hpieces segment ((List.dropLast_subset _) hsegment)
    · split
      · exact allClear_nil
      · exact hpieces
    · split
      · exact allClear_nil
      · exact hpieces
    · exact hpieces
  exact isClear_joinPath (allClear_cons.mpr ⟨by decide, hsegments⟩)

/-! ## Imports -/

namespace ModuleScope

variable {s : ModuleScope}

theorem mem_targets_bind {name : String} {path target : List String}
    (h : target ∈ (s.bind name path).targets) : target = path ∨ target ∈ s.targets := by
  rcases List.mem_append.mp h with h | h
  · obtain ⟨entry, hentry, rfl⟩ := List.mem_map.mp h
    rcases SortedMap.mem_insert hentry with rfl | hentry
    · exact Or.inl rfl
    · exact Or.inr (List.mem_append_left _ (List.mem_map_of_mem hentry))
  · exact Or.inr (List.mem_append_right _ h)

mutual

/-- **What the tree of an import adds is clear.** -/
theorem allClear_addTree {path : List String} (hpath : AllClear path) : ∀ {tree : UseTree},
    tree.WellNamed → ∀ {s : ModuleScope}, (∀ target ∈ s.targets, AllClear target) →
      ∀ target ∈ (addTree path tree s).targets, AllClear target
  | .path segment tree, htree, s, hs => by
      rw [addTree]
      have hsegment := isClear_of_isWordText htree.1
      exact allClear_addTree (hpath.append (allClear_cons.mpr ⟨hsegment, allClear_nil⟩)) htree.2 hs
  | .name segment, htree, s, hs => by
      have hlonger : AllClear (path ++ [segment]) :=
        hpath.append (allClear_cons.mpr ⟨isClear_of_isWordText htree, allClear_nil⟩)
      intro target htarget
      rw [addTree] at htarget
      split at htarget
      · split at htarget
        · rcases mem_targets_bind htarget with rfl | htarget
          · exact hpath
          · exact hs target htarget
        · exact hs target htarget
      · rcases mem_targets_bind htarget with rfl | htarget
        · exact hlonger
        · exact hs target htarget
  | .rename segment newName, htree, s, hs => by
      have hlonger : AllClear (path ++ [segment]) :=
        hpath.append (allClear_cons.mpr ⟨isClear_of_isWordText htree.1, allClear_nil⟩)
      intro target htarget
      rw [addTree] at htarget
      split at htarget
      · exact hs target htarget
      · rcases mem_targets_bind htarget with rfl | htarget
        · split
          · exact hpath
          · exact hlonger
        · exact hs target htarget
  | .glob, _, s, hs => by
      intro target htarget
      rw [addTree] at htarget
      rcases List.mem_append.mp htarget with htarget | htarget
      · exact hs target (List.mem_append_left _ htarget)
      · rcases List.mem_append.mp htarget with htarget | htarget
        · exact hs target (List.mem_append_right _ htarget)
        · exact List.mem_singleton.mp htarget ▸ hpath
  | .group trees, htree, s, hs => by
      rw [addTree]
      exact allClear_addTrees hpath htree hs

theorem allClear_addTrees {path : List String} (hpath : AllClear path) : ∀ {trees : List UseTree},
    UseTree.AllWellNamed trees → ∀ {s : ModuleScope}, (∀ target ∈ s.targets, AllClear target) →
      ∀ target ∈ (addTrees path trees s).targets, AllClear target
  | [], _, s, hs => by
      rw [addTrees]
      exact hs
  | tree :: trees, htrees, s, hs => by
      rw [addTrees]
      exact allClear_addTrees hpath htrees.2 (allClear_addTree hpath htrees.1 hs)

end

end ModuleScope

/-! ## Tables -/

namespace ScopeTable

/-- **What holds of the paths in the scopes of sources.** -/
structure IsClear (t : ScopeTable) : Prop where
  imports : ∀ w ∈ t.imports, AllClear w.segments
  types : ∀ d ∈ t.types, FixtureFactory.IsClear d.2

variable {t : ScopeTable}

theorem IsClear.targets (ht : t.IsClear) (module : String) :
    ∀ target ∈ ((t.scope? module).getD .empty).targets, AllClear target := by
  cases hscope : t.scope? module with
  | none => exact fun target htarget => absurd htarget List.not_mem_nil
  | some s => exact fun target htarget => ht.imports ⟨module, target⟩ (mem_imports hscope htarget)

theorem IsClear.change (ht : t.IsClear) (module : String) {f : ModuleScope → ModuleScope}
    (hf : ∀ s : ModuleScope, (∀ target ∈ s.targets, AllClear target) →
      ∀ target ∈ (f s).targets, AllClear target) : (t.change module f).IsClear := by
  refine ⟨fun w hw => ?_, ht.types⟩
  obtain ⟨entry, hentry, hw⟩ := List.mem_flatMap.mp hw
  obtain ⟨target, htarget, rfl⟩ := List.mem_map.mp hw
  rcases SortedMap.mem_insert hentry with rfl | hentry
  · exact hf _ (ht.targets module) target htarget
  · exact ht.imports _ (List.mem_flatMap.mpr ⟨entry, hentry, List.mem_map_of_mem htarget⟩)

/-- **The scopes of sources are clear** if the paths of the files are. -/
theorem isClear_scopesOf {files : List SourceFile} {parsed : List ParsedFile}
    (h : parseFiles files = .ok parsed)
    (hpaths : ∀ file ∈ parsed, FixtureFactory.IsClear file.path) : (scopesOf parsed).IsClear := by
  have hkept : KeptByIndexing FixtureFactory.IsClear IsClear :=
    { inside := fun hmodule hname => hmodule.memberPath (isClear_of_isWordText hname)
      declareType := by
        intro t module name hmodule hname ht
        have hchange : (t.change module (·.declare name)).IsClear := ht.change module fun s hs => hs
        refine ⟨hchange.imports, fun d hd => ?_⟩
        rcases List.mem_append.mp hd with hd | hd
        · exact ht.types d hd
        · exact List.mem_singleton.mp hd ▸ hmodule.memberPath (isClear_of_isWordText hname.1)
      declareModule := by
        intro t parent name ht
        have hparent : (t.change parent (·.declare name)).IsClear :=
          ht.change parent fun s hs => hs
        exact hparent.change (memberPath parent name) fun s hs => hs
      addUse := fun module tree htree ht =>
        ht.change module fun s hs => ModuleScope.allClear_addTree allClear_nil htree hs }
  have hempty : empty.IsClear :=
    ⟨fun w hw => absurd hw List.not_mem_nil, fun d hd => absurd hd List.not_mem_nil⟩
  exact hkept.scopesOf hempty h fun file hfile => isClear_modulePathOf (hpaths file hfile)

/-! ## Resolution -/

/-- Whether a resolution keeps paths clear. -/
def KeepsClear (resolve : String → List String → List String) : Prop :=
  ∀ module path, FixtureFactory.IsClear module → AllClear path → AllClear (resolve module path)

/-- **A clear path is resolved to a clear one.** -/
theorem IsClear.allClear_absolute (ht : t.IsClear) (budget : Nat) :
    KeepsClear (t.absolute budget) := by
  have hsegments : t.IsMadeOf FixtureFactory.IsClear :=
    { joined := fun _ _ hpath => allClear_pathSegments (isClear_joinPath hpath)
      imports := ht.imports
      types := fun d hd => allClear_pathSegments (ht.types d hd) }
  intro module path hmodule hpath
  exact hsegments.keeps_absolute budget module path (allClear_pathSegments hmodule) hpath

theorem IsClear.isClear_resolvePath (ht : t.IsClear) {module : String} {path : List String}
    (hmodule : FixtureFactory.IsClear module) (hpath : AllClear path) :
    FixtureFactory.IsClear (t.resolvePath module path) :=
  isClear_joinPath (ht.allClear_absolute _ module path hmodule hpath)

/-! ## Types -/

theorem allClear_of_isWordText {path : List String} (h : ∀ segment ∈ path, IsWordText segment) :
    AllClear path := fun segment hsegment => isClear_of_isWordText (h segment hsegment)

mutual

/-- **The paths of a type that is written in a clear module are clear.** -/
theorem IsClear.isClear_paths_writtenType (ht : t.IsClear) {module : String}
    (hmodule : FixtureFactory.IsClear module) : ∀ {term : TypeTerm}, term.OfWords →
      ∀ path ∈ (t.writtenType module term).paths, FixtureFactory.IsClear path
  | .path rooted segments before args, hterm, path, hpath => by
      obtain ⟨hsegments, hbefore, hargs⟩ := hterm
      have hclear := allClear_of_isWordText hsegments
      rw [writtenType] at hpath
      rcases WrittenType.of_mem_paths_ofPath hpath with rfl | hpath | hpath
      · cases rooted with
        | true => exact isClear_joinPath hclear
        | false => exact ht.isClear_resolvePath hmodule hclear
      · exact ht.isClear_pathsOfAll_writtenArguments hmodule hbefore path hpath
      · exact ht.isClear_pathsOfAll_writtenArguments hmodule hargs path hpath
  | .slice element, hterm, path, hpath => by
      rw [TypeTerm.OfWords] at hterm
      rw [writtenType] at hpath
      exact ht.isClear_paths_writtenType hmodule hterm path hpath
  | .parenthesized inner, hterm, path, hpath => by
      rw [TypeTerm.OfWords] at hterm
      rw [writtenType] at hpath
      exact ht.isClear_paths_writtenType hmodule hterm path hpath
  | .unit, _, path, hpath => by
      rw [List.mem_singleton.mp hpath]
      decide
  | .other _, _, path, hpath => absurd hpath List.not_mem_nil

/-- So are the paths of arguments. -/
theorem IsClear.isClear_pathsOfAll_writtenArguments (ht : t.IsClear) {module : String}
    (hmodule : FixtureFactory.IsClear module) : ∀ {args : List Argument}, Argument.AllOfWords args →
      ∀ path ∈ WrittenType.pathsOfAll (t.writtenArguments module args), FixtureFactory.IsClear path
  | [], _, path, hpath => absurd hpath List.not_mem_nil
  | .type term :: args, hargs, path, hpath => by
      rw [writtenArguments, WrittenType.pathsOfAll] at hpath
      rcases List.mem_append.mp hpath with hpath | hpath
      · exact ht.isClear_paths_writtenType hmodule hargs.1 path hpath
      · exact ht.isClear_pathsOfAll_writtenArguments hmodule hargs.2 path hpath
  | .other text :: args, hargs, path, hpath => by
      rw [Argument.AllOfWords] at hargs
      rw [writtenArguments] at hpath
      exact ht.isClear_pathsOfAll_writtenArguments hmodule hargs path hpath

end

end ScopeTable

/-! ## Items -/

/-- **Every item of sources stands in a clear module** if the paths of the files are clear, and it
is well named. -/
theorem isClear_of_mem_placedItems {files : List SourceFile} {parsed : List ParsedFile}
    (h : parseFiles files = .ok parsed) (hpaths : ∀ file ∈ parsed, IsClear file.path)
    {p : PlacedItem} (hp : p ∈ placedItems parsed) :
    IsClear p.context.module ∧ p.item.WellNamed := by
  rw [placedItems, List.mem_flatMap] at hp
  obtain ⟨⟨file, id⟩, hnumbered, hp⟩ := hp
  have hfile : file ∈ parsed := List.fst_mem_of_mem_zipIdx hnumbered
  have hmodule : IsClear (contextOf id file).module := isClear_modulePathOf (hpaths file hfile)
  have hinside : HandedInside IsClear := fun _ _ hclear hname =>
    hclear.memberPath (isClear_of_isWordText hname)
  exact of_mem_placeItems hinside (wellNamed_of_parseFiles h file hfile) hmodule hp

end FixtureFactory
