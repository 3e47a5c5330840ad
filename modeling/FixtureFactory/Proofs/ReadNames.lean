import FixtureFactory.Proofs.Outcome
import FixtureFactory.Proofs.ReadTypes
import FixtureFactory.SourceIndex

/-!
# Names that are read

The words that cannot be names never come out of a source as the name of a type, or as the name that
something is imported under, and no name has a character that cannot stand in one.  A resolution
treats some of those words in a way of its own, and puts the names together to texts, so what it
does with a declared name rests on how the name has been read.

* `Source.Item.WellNamed`: the names of an item and those in its types are what names can be.
* `Source.Grammar.namesWell_ofDepth`: the items of a grammar are well named, whatever its depth.
* `Source.wellNamed_of_parseFiles`: the items of source files are well named.
-/

namespace FixtureFactory
namespace Source

/-! ## Well named items -/

mutual

/-- Whether the segments of an import are words, and each name that it renames to is the underscore
or can be a name. -/
def UseTree.WellNamed : UseTree → Prop
  | .path segment tree => IsWordText segment ∧ tree.WellNamed
  | .name segment => IsWordText segment
  | .rename segment newName => IsWordText segment ∧ (newName = "_" ∨ IsName newName)
  | .glob => True
  | .group trees => UseTree.AllWellNamed trees

/-- Whether all of some trees are well named. -/
def UseTree.AllWellNamed : List UseTree → Prop
  | [] => True
  | tree :: trees => tree.WellNamed ∧ UseTree.AllWellNamed trees

end

theorem UseTree.allWellNamed_iff {trees : List UseTree} :
    UseTree.AllWellNamed trees ↔ ∀ tree ∈ trees, tree.WellNamed := by
  induction trees with
  | nil => simp [UseTree.AllWellNamed]
  | cons tree trees ih => simp [UseTree.AllWellNamed, ih]

/-- Whether the types of fields with names are made of words. -/
def Fields.OfWords : Fields → Prop
  | .named fields => ∀ field ∈ fields, field.2.OfWords
  | _ => True

mutual

/-- Whether the name of a type that an item declares can be a name, the name of a module is a word,
the types of fields and results are made of words, and imports are well named. -/
def Item.WellNamed : Item → Prop
  | .record _ name fields => IsName name.text ∧ fields.OfWords
  | .enumeration _ name _ => IsName name.text
  | .union _ name => IsName name.text
  | .typeAlias name => IsName name
  | .use tree => tree.WellNamed
  | .module name items => IsWordText name ∧ Item.AllWellNamed items
  | .function f => ∀ term ∈ f.result, term.OfWords
  | .implementation _ _ => True
  | .other => True

/-- Whether all of some items are well named. -/
def Item.AllWellNamed : List Item → Prop
  | [] => True
  | item :: items => item.WellNamed ∧ Item.AllWellNamed items

end

theorem Item.allWellNamed_iff {items : List Item} :
    Item.AllWellNamed items ↔ ∀ item ∈ items, item.WellNamed := by
  induction items with
  | nil => simp [Item.AllWellNamed]
  | cons item items ih => simp [Item.AllWellNamed, ih]

/-! ## The grammar -/

namespace Grammar

open Reader

/-- Whether the types, the items and the imports of a grammar are well named. -/
structure NamesWell (g : Grammar) : Prop where
  type : g.TypesOfWords
  item : ∀ attributes, (g.item attributes).Gives Item.WellNamed
  useTree : ∀ atRoot, (g.useTree atRoot).Gives fun tree => ∀ found ∈ tree, found.WellNamed

/-- What a list of optional trees holds if none is missing. -/
theorem mem_of_mapM_id {trees : List (Option UseTree)} {found : List UseTree}
    (h : trees.mapM id = some found) : ∀ tree ∈ found, some tree ∈ trees := by
  induction trees generalizing found with
  | nil =>
      cases h
      exact fun tree htree => absurd htree List.not_mem_nil
  | cons first trees ih =>
      rw [List.mapM_cons] at h
      cases first with
      | none => cases h
      | some tree =>
          cases hrest : trees.mapM id with
          | none =>
              rw [hrest] at h
              cases h
          | some rest =>
              rw [hrest] at h
              cases h
              intro other hother
              rcases List.mem_cons.mp hother with rfl | hother
              · exact List.mem_cons_self
              · exact List.mem_cons_of_mem _ (ih hrest other hother)

variable {g : Grammar}

/-- The trees of a group of an import are well named. -/
theorem gives_useTrees (hg : g.NamesWell) (atRoot : Bool) :
    (useTrees g atRoot).Gives fun trees => ∀ found ∈ trees, UseTree.AllWellNamed found := by
  have htree : ∀ rooted : Bool, (do
      let tree ← g.useTree (atRoot && !rooted)
      return if rooted then none else tree : Reader (Option UseTree)).Gives
        fun tree => ∀ found ∈ tree, found.WellNamed := by
    intro rooted
    refine (hg.useTree _).bind fun tree htree => gives_pure ?_
    cases rooted with
    | true =>
        intro found hfound
        cases hfound
    | false => exact htree
  refine Gives.bind (gives_separated _ _ (gives_either htree))
    fun trees htrees => gives_pure ?_
  intro found hfound
  refine UseTree.allWellNamed_iff.mpr fun tree hmem => ?_
  exact htrees _ (mem_of_mapM_id hfound tree hmem) tree rfl

/-- **The tree of an import is well named**, if the trees within it are. -/
theorem gives_anyUseTree (hg : g.NamesWell) (atRoot : Bool) :
    (anyUseTree g atRoot).Gives fun tree => ∀ found ∈ tree, found.WellNamed := by
  rw [anyUseTree]
  refine gives_bind fun segmentAhead => gives_ite ?_ ?_
  · refine gives_anyWord.bind fun segment hsegment => gives_bind fun goesOn => gives_ite ?_ ?_
    · refine (hg.useTree false).bind fun tree htree => gives_pure fun found hfound => ?_
      obtain ⟨inner, hinner, rfl⟩ := Option.map_eq_some_iff.mp hfound
      exact ⟨hsegment, htree inner hinner⟩
    · refine gives_bind fun renamed => gives_ite ?_ ?_
      · refine gives_nameOrBlank.bind fun newName hname => gives_pure fun found hfound => ?_
        cases hfound
        exact ⟨hsegment, hname⟩
      · refine gives_pure fun found hfound => ?_
        cases hfound
        exact hsegment
  · refine gives_bind fun star => gives_ite ?_ ?_
    · refine gives_pure fun found hfound => ?_
      cases hfound
      trivial
    · refine ((gives_useTrees hg atRoot).group .brace).bind fun trees htrees =>
        gives_pure fun found hfound => ?_
      obtain ⟨inner, hinner, rfl⟩ := Option.map_eq_some_iff.mp hfound
      exact htrees inner hinner

theorem gives_useItem (hg : g.NamesWell) (atRoot : Bool) :
    (useItem g atRoot).Gives fun tree => ∀ found ∈ tree, found.WellNamed :=
  gives_bind fun _ => gives_bind fun _ => (hg.useTree _).bind fun _ htree =>
    gives_bind fun _ => gives_pure htree

theorem gives_declaredName : declaredName.Gives fun name => IsName name.text :=
  gives_bind fun _ => gives_name.bind fun _ hname => gives_pure hname

/-- The name of a type with a definition alone can be a name. -/
theorem gives_typeDefinition (place : ConditionPlace) :
    (typeDefinition g place).Gives fun name => ∀ found ∈ name, IsName found := by
  rw [typeDefinition]
  refine gives_bind fun _ => gives_name.bind fun name hname => gives_bind fun _ =>
    gives_bind fun bounded => gives_optional (gives_either fun conditioned => ?_)
  refine gives_bind fun defined => gives_optional (gives_optional (gives_bind fun _ => ?_))
  refine gives_pure ?_
  intro found hfound
  split at hfound
  · cases hfound
    exact hname
  · cases hfound

theorem gives_namedFields (hg : g.NamesWell) :
    (namedFields g).Gives fun fields => ∀ field ∈ fields, field.2.OfWords := by
  refine Gives.group .brace (gives_separated _ _ ?_)
  refine gives_bind fun _ => gives_bind fun _ => gives_bind fun blank => gives_bind fun name =>
    gives_bind fun _ => gives_bind fun nested => gives_ite ?_ ?_
  · exact gives_bind fun _ => gives_pure trivial
  · exact (hg.type true).bind fun term hterm => gives_pure hterm

theorem gives_structBody (hg : g.NamesWell) : (structBody g).Gives Fields.OfWords := by
  rw [structBody]
  refine gives_bind fun conditioned => gives_bind fun unnamed => gives_ite ?_ ?_
  · exact gives_bind fun _ => gives_bind fun _ => gives_bind fun _ => gives_pure trivial
  refine gives_bind fun named => gives_ite ?_ (gives_bind fun _ => gives_pure trivial)
  exact (gives_namedFields hg).bind fun fields hfields => gives_pure hfields

/-- The result of a function is made of words. -/
theorem gives_signature (hg : g.NamesWell) (safe : Bool) :
    (signature g safe).Gives fun f => ∀ term ∈ f.result, term.OfWords := by
  have hrest : (do
      let _ ← interface?
      word "fn"
      let name ← declaredName
      parameters g
      let count ← group .parenthesis (functionParameters g)
      let result ← result? g true
      let _ ← conditions? g
      return ⟨[], name, count, result⟩ : Reader Function).Gives
        fun f => ∀ term ∈ f.result, term.OfWords :=
    gives_bind fun _ => gives_bind fun _ => gives_bind fun _ => gives_bind fun _ =>
      gives_bind fun _ => (gives_result? hg.type true).bind fun _ hresult =>
        gives_bind fun _ => gives_pure hresult
  rw [signature]
  refine gives_bind fun _ => gives_bind fun _ => gives_bind fun isSafe => gives_ite ?_ ?_
  · exact gives_bind fun _ => hrest
  · exact gives_bind fun _ => hrest

theorem gives_functionItem (hg : g.NamesWell) (attributes : List Attribute) :
    (functionItem g attributes).Gives Item.WellNamed :=
  (gives_signature hg false).bind fun _ hresult => gives_bind fun _ =>
    gives_ite (gives_pure trivial) (gives_bind fun _ => gives_pure hresult)

/-- The items of a module are well named. -/
theorem gives_moduleItem (hg : g.NamesWell) : (moduleItem g).Gives Item.WellNamed := by
  have hitems : (Reader.manyUntil .atEnd do
      let attributes ← outerAttributes g
      g.item attributes).Gives fun items => ∀ item ∈ items, item.WellNamed :=
    gives_manyUntil _ (gives_bind hg.item)
  have hrest : ∀ name : String, IsWordText name → (do
      if ← operator? ";" then return .module name []
      else
        let items ← group .brace do
          let _ ← innerAttributes g
          Reader.manyUntil .atEnd do
            let attributes ← outerAttributes g
            g.item attributes
        return .module name items : Reader Item).Gives Item.WellNamed := by
    intro name hname
    refine gives_bind fun announced => gives_ite (gives_pure ⟨hname, trivial⟩) ?_
    refine Gives.bind (Gives.group _ (gives_bind fun _ => hitems)) fun items hwell => gives_pure ?_
    exact ⟨hname, Item.allWellNamed_iff.mpr hwell⟩
  rw [moduleItem]
  refine gives_bind fun _ => gives_bind fun _ => gives_bind fun isTry => gives_ite ?_ ?_
  · exact gives_anyWord.bind hrest
  · exact gives_name.bind fun name hname => hrest name hname.1

/-- An implementation declares no type. -/
theorem gives_implementation : (implementation g).Gives Item.WellNamed := by
  rw [implementation]
  refine gives_bind fun isPublic => gives_bind fun _ => gives_bind fun _ => gives_bind fun _ =>
    gives_bind fun _ => gives_optional (gives_bind fun isConst => ?_)
  -- what stands before a constant implementation is read in two steps
  have hrest : ∀ {rest : Reader Item}, rest.Gives Item.WellNamed → (if isConst = true then
      (do let _ ← operator? "?"; word "const"; rest) else rest).Gives Item.WellNamed :=
    fun h => gives_ite (gives_bind fun _ => gives_bind fun _ => h) h
  refine hrest (gives_bind fun negative => gives_bind fun read => ?_)
  obtain ⟨first, text⟩ := read
  refine gives_bind fun ofTrait => gives_either fun selfType => gives_bind fun _ =>
    gives_bind fun functions => ?_
  exact gives_ite (gives_pure trivial) (gives_pure trivial)

theorem gives_other (r : Reader Unit) :
    (do r; return .other : Reader Item).Gives Item.WellNamed :=
  gives_bind fun _ => gives_pure trivial

theorem gives_unsafeItem (hg : g.NamesWell) : (unsafeItem g).Gives Item.WellNamed := by
  rw [unsafeItem]
  refine gives_bind fun isTrait => gives_ite (gives_other _) ?_
  refine gives_bind fun isImplementation => gives_ite gives_implementation ?_
  refine gives_bind fun isForeign => gives_ite (gives_other _) ?_
  refine gives_bind fun isModule => gives_ite (gives_moduleItem hg) ?_
  exact gives_bind fun _ => gives_fail

/-- **An item is well named**, if the items and the imports within it are. -/
theorem gives_itemAfter (hg : g.NamesWell) (attributes : List Attribute) (before : Cursor)
    (isPublic : Bool) : (itemAfter g attributes before isPublic).Gives Item.WellNamed := by
  rw [itemAfter]
  refine gives_bind fun isFunction => gives_ite (gives_functionItem hg attributes) ?_
  refine gives_bind fun isExtern => gives_ite ?_ ?_
  · exact gives_bind fun _ => gives_bind fun _ => gives_ite (gives_failAt _) (gives_other _)
  refine gives_bind fun isUse => gives_ite ?_ ?_
  · refine (gives_useItem hg true).bind fun tree htree => ?_
    cases tree with
    | some tree => exact gives_pure (htree tree rfl)
    | none => exact gives_pure trivial
  refine gives_bind fun isStatic => gives_ite (gives_other _) ?_
  refine gives_bind fun isConst => gives_ite (gives_other _) ?_
  refine gives_bind fun isUnsafe => gives_ite ?_ ?_
  · exact gives_bind fun _ => gives_ite (gives_failAt _) (gives_bind fun _ =>
      gives_ite (gives_bind fun _ => gives_implementation) (gives_unsafeItem hg))
  refine gives_bind fun isModule => gives_ite (gives_moduleItem hg) ?_
  refine gives_bind fun isType => gives_ite ?_ ?_
  · refine (gives_typeDefinition _).bind fun name hname => ?_
    cases name with
    | some name => exact gives_pure (hname name rfl)
    | none => exact gives_pure trivial
  refine gives_bind fun isStruct => gives_ite ?_ ?_
  · exact gives_declaredName.bind fun name hname => gives_bind fun _ =>
      (gives_structBody hg).bind fun fields hfields => gives_pure ⟨hname, hfields⟩
  refine gives_bind fun isEnum => gives_ite ?_ ?_
  · exact gives_declaredName.bind fun name hname => gives_bind fun _ => gives_bind fun _ =>
      gives_bind fun _ => gives_pure hname
  refine gives_bind fun isUnion => gives_ite ?_ ?_
  · exact gives_bind fun _ => gives_declaredName.bind fun name hname => gives_bind fun _ =>
      gives_bind fun _ => gives_bind fun _ => gives_pure hname
  refine gives_bind fun isTrait => gives_ite (gives_other _) ?_
  refine gives_bind fun isImplementation =>
    gives_ite (gives_bind fun _ => gives_implementation) ?_
  refine gives_bind fun isMacro => gives_ite (gives_other _) ?_
  exact gives_bind fun isCall => gives_ite (gives_other _) gives_fail

/-- **One more level of the grammar** keeps it well named. -/
theorem NamesWell.deeper (hg : g.NamesWell) : g.deeper.NamesWell :=
  ⟨gives_anyType hg.type,
    fun attributes => gives_bind fun before => gives_bind fun isPublic =>
      gives_itemAfter hg attributes before isPublic,
    fun atRoot => gives_anyUseTree hg atRoot⟩

/-- **A grammar of any depth is well named.** -/
theorem namesWell_ofDepth (depth : Nat) : (ofDepth depth).NamesWell := by
  induction depth with
  | zero => exact ⟨fun _ => gives_fail, fun _ => gives_fail, fun _ => gives_fail⟩
  | succ depth ih => exact ih.deeper

end Grammar

/-! ## Sources -/

/-- What all of some trees are read as is given by the reader. -/
theorem gives_of_runAll {α : Type} {P : α → Prop} {r : Reader α} {trees : List TokenTree} {a : α}
    (hr : r.Gives P) (h : r.runAll trees = .ok a) : P a := by
  rw [Reader.runAll] at h
  cases hrun : r.run (.ofTrees trees .start) with
  | error e =>
      rw [hrun] at h
      cases h
  | ok found =>
      obtain ⟨a', c⟩ := found
      rw [hrun] at h
      have hfound : P a' := hr _ _ _ hrun
      cases hunread : c.unread with
      | some p =>
          simp only [hunread, bind, Except.bind] at h
          cases h
      | none =>
          cases hrest : c.rest with
          | cons tree rest =>
              simp only [hunread, hrest, bind, Except.bind] at h
              cases h
          | nil =>
              simp only [hunread, hrest, bind, Except.bind] at h
              cases h
              exact hfound

/-- **The items of a text are well named.** -/
theorem wellNamed_of_readItems {content : String} {items : List Item}
    (h : readItems content = .ok items) : Item.AllWellNamed items := by
  rw [readItems] at h
  cases htrees : readFile content with
  | error e =>
      rw [htrees] at h
      cases h
  | ok trees =>
      rw [htrees] at h
      have hg := Grammar.namesWell_ofDepth (Grammar.entryPoints * (TokenTree.sizeAll trees + 2))
      have hitems : ∀ item ∈ items, item.WellNamed :=
        gives_of_runAll (P := fun items => ∀ item ∈ items, item.WellNamed)
          (Reader.gives_bind fun _ => Reader.gives_manyUntil _ (Reader.gives_bind hg.item)) h
      exact Item.allWellNamed_iff.mpr hitems

end Source

/-- A file that has been read has the path of its source and the items that are read from it. -/
theorem exists_source_of_parseFiles {files : List SourceFile} {parsed : List ParsedFile}
    (h : parseFiles files = .ok parsed) : ∀ file ∈ parsed, ∃ source ∈ files,
      source.path = file.path ∧ Source.readItems source.content = .ok file.items := by
  intro file hfile
  obtain ⟨source, hsource, hread⟩ :=
    exists_mem_left_of_forall₂ ((mapM_eq_ok_iff _ _ _).mp h) hfile
  refine ⟨source, hsource, ?_⟩
  rw [SourceFile.parse] at hread
  cases hitems : Source.readItems source.content with
  | error position =>
      rw [hitems] at hread
      cases hread
  | ok items =>
      rw [hitems] at hread
      cases hread
      exact ⟨rfl, rfl⟩

/-- **The items of source files are well named.** -/
theorem wellNamed_of_parseFiles {files : List SourceFile} {parsed : List ParsedFile}
    (h : parseFiles files = .ok parsed) : ∀ file ∈ parsed, Source.Item.AllWellNamed file.items := by
  intro file hfile
  obtain ⟨source, -, -, hitems⟩ := exists_source_of_parseFiles h file hfile
  exact Source.wellNamed_of_readItems hitems

end FixtureFactory
