import FixtureFactory.Proofs.PathTexts
import FixtureFactory.Proofs.ReadNames

/-!
# Scopes of sources

A table of scopes that is built from sources is not an arbitrary one.  What holds of the table
without modules and is kept by every step of the indexing holds of the table that a run over sources
works with; `KeptByIndexing` lists the steps, so that no property needs an induction of its own.

So it is with what is said here.  Every declared type stands below the root, its module declares it,
and its name is a word that can be a name.  Whatever is imported is imported under such a word as
well, unless the path that is imported ends in the word.

* `KeptByIndexing.scopesOf`: what every step keeps holds of the scopes of sources.
* `ModuleScope.keepsNames_addTree`: an import adds names that can be names.
* `ScopeTable.IsLawful`: what holds of the scopes of sources.
* `isLawful_scopesOf`: they are lawful.
-/

namespace FixtureFactory

open Source

/-! ## The indexing -/

/-- Whether a property of tables is kept by every step of the indexing, as long as another property
holds of the modules that types are declared in. -/
structure KeptByIndexing (Here : String → Prop) (P : ScopeTable → Prop) : Prop where
  inside : ∀ {module name : String}, Here module → IsWordText name →
    Here (ScopeTable.memberPath module name)
  declareType : ∀ {t : ScopeTable} {module name : String}, Here module → IsName name → P t →
    P (t.declareType module name)
  declareModule : ∀ {t : ScopeTable} (parent name : String), P t → P (t.declareModule parent name)
  addUse : ∀ {t : ScopeTable} (module : String) {tree : UseTree}, tree.WellNamed → P t →
    P (t.addUse module tree)

namespace KeptByIndexing

variable {Here : String → Prop} {P : ScopeTable → Prop}

mutual

/-- **A well named item keeps what every step keeps.** -/
theorem declareItem (h : KeptByIndexing Here P) :
    ∀ (item : Item) (module : String) (t : ScopeTable), item.WellNamed → Here module → P t →
      P (FixtureFactory.declareItem module item t)
  | .record _ name _, module, t, hitem, hmodule, ht => by
      rw [FixtureFactory.declareItem]
      exact h.declareType hmodule hitem.1 ht
  | .enumeration _ name _, module, t, hitem, hmodule, ht => by
      rw [FixtureFactory.declareItem]
      exact h.declareType hmodule hitem ht
  | .union _ name, module, t, hitem, hmodule, ht => by
      rw [FixtureFactory.declareItem]
      exact h.declareType hmodule hitem ht
  | .typeAlias name, module, t, hitem, hmodule, ht => by
      rw [FixtureFactory.declareItem]
      exact h.declareType hmodule hitem ht
  | .use tree, module, t, hitem, hmodule, ht => by
      rw [FixtureFactory.declareItem]
      exact h.addUse module hitem ht
  | .module name items, module, t, hitem, hmodule, ht => by
      rw [FixtureFactory.declareItem]
      exact h.declareItems items _ _ hitem.2 (h.inside hmodule hitem.1)
        (h.declareModule module name ht)
  | .function _, module, t, hitem, hmodule, ht => by
      rw [FixtureFactory.declareItem]
      exact ht
  | .implementation _ _, module, t, hitem, hmodule, ht => by
      rw [FixtureFactory.declareItem]
      exact ht
  | .other, module, t, hitem, hmodule, ht => by
      rw [FixtureFactory.declareItem]
      exact ht

/-- So do the items of a list. -/
theorem declareItems (h : KeptByIndexing Here P) :
    ∀ (items : List Item) (module : String) (t : ScopeTable), Item.AllWellNamed items →
      Here module → P t → P (FixtureFactory.declareItems module items t)
  | [], module, t, hitems, hmodule, ht => by
      rw [FixtureFactory.declareItems]
      exact ht
  | item :: items, module, t, hitems, hmodule, ht => by
      rw [Item.AllWellNamed] at hitems
      rw [FixtureFactory.declareItems]
      exact h.declareItems items module _ hitems.2 hmodule
        (h.declareItem item module t hitems.1 hmodule ht)

end

theorem declareFile (h : KeptByIndexing Here P) {file : ParsedFile} {t : ScopeTable}
    (hitems : Item.AllWellNamed file.items) (hmodule : Here (modulePathOf file.path)) (ht : P t) :
    P (FixtureFactory.declareFile file t) := by
  rw [FixtureFactory.declareFile]
  cases splitLast? (modulePathOf file.path) with
  | none => exact h.declareItems _ _ _ hitems hmodule ht
  | some parent =>
      exact h.declareItems _ _ _ hitems hmodule (h.declareModule parent.1 parent.2 ht)

/-- **What every step of the indexing keeps holds of the scopes of sources.** -/
theorem scopesOf (h : KeptByIndexing Here P) (hempty : P .empty) {files : List SourceFile}
    {parsed : List ParsedFile} (hparsed : parseFiles files = .ok parsed)
    (hmodules : ∀ file ∈ parsed, Here (modulePathOf file.path)) :
    P (FixtureFactory.scopesOf parsed) := by
  have hwell := wellNamed_of_parseFiles hparsed
  have hfold : ∀ (rest : List ParsedFile) (t : ScopeTable), rest ⊆ parsed → P t →
      P (rest.foldl (fun t file => FixtureFactory.declareFile file t) t) := by
    intro rest
    induction rest with
    | nil => exact fun t _ ht => ht
    | cons file rest ih =>
        intro t hrest ht
        obtain ⟨hfile, hrest⟩ := List.cons_subset.mp hrest
        rw [List.foldl_cons]
        exact ih _ hrest (h.declareFile (hwell file hfile) (hmodules file hfile) ht)
  exact hfold parsed .empty (List.Subset.refl parsed) hempty

end KeptByIndexing

/-! ## Scopes -/

namespace ModuleScope

variable {s s' s'' : ModuleScope}

/-- Whether every name that is imported can be a name, or is the end of the path that is imported.
-/
def ImportsNames (s : ModuleScope) : Prop :=
  ∀ name target, s.import? name = some target →
    name ∉ Lookahead.keywords ∨ target.getLast? = some name

/-- Whether a scope declares what another one declares, and imports names if the other one does. -/
structure KeepsNames (s s' : ModuleScope) : Prop where
  declares : ∀ name, s.declares name = true → s'.declares name = true
  imports : s.ImportsNames → s'.ImportsNames

theorem KeepsNames.refl (s : ModuleScope) : s.KeepsNames s := ⟨fun _ h => h, id⟩

theorem KeepsNames.trans (h : s.KeepsNames s') (h' : s'.KeepsNames s'') : s.KeepsNames s'' :=
  ⟨fun name hname => h'.declares name (h.declares name hname), fun hs => h'.imports (h.imports hs)⟩

theorem keepsNames_declare (s : ModuleScope) (name : String) : s.KeepsNames (s.declare name) := by
  refine ⟨fun other hother => ?_, id⟩
  rw [declares, List.contains_iff_mem] at hother ⊢
  exact List.mem_append_left _ hother

theorem keepsNames_glob (s : ModuleScope) (path : List String) : s.KeepsNames (s.glob path) :=
  ⟨fun _ h => h, id⟩

/-- **An import under a word** keeps the names, if the word can be a name or ends the path. -/
theorem keepsNames_bind (s : ModuleScope) {name : String} {path : List String}
    (h : name ∉ Lookahead.keywords ∨ path.getLast? = some name) :
    s.KeepsNames (s.bind name path) := by
  refine ⟨fun _ hother => hother, fun hs other target hother => ?_⟩
  rw [import?, bind] at hother
  by_cases hname : other = name
  · rw [hname, SortedMap.find?_insert_self] at hother
    rw [hname, ← Option.some.inj hother]
    exact h
  · rw [SortedMap.find?_insert_of_ne hname] at hother
    exact hs other target hother

mutual

/-- **The tree of an import adds names that can be names.** -/
theorem keepsNames_addTree (path : List String) :
    ∀ (tree : UseTree), tree.WellNamed → ∀ s : ModuleScope, s.KeepsNames (addTree path tree s)
  | .path segment tree, h, s => by
      rw [UseTree.WellNamed] at h
      rw [addTree]
      exact keepsNames_addTree _ tree h.2 s
  | .name name, _, s => by
      rw [addTree]
      split
      · split
        · rename_i last hlast
          exact keepsNames_bind s (Or.inr hlast)
        · exact .refl s
      · exact keepsNames_bind s (Or.inr List.getLast?_concat)
  | .rename name newName, h, s => by
      rw [UseTree.WellNamed] at h
      rw [addTree]
      split
      · exact .refl s
      · rename_i hblank
        have hname : IsName newName := h.2.resolve_left fun heq => hblank (beq_iff_eq.mpr heq)
        exact keepsNames_bind s (Or.inl hname.2)
  | .glob, _, s => by
      rw [addTree]
      exact keepsNames_glob s path
  | .group trees, h, s => by
      rw [UseTree.WellNamed] at h
      rw [addTree]
      exact keepsNames_addTrees path trees h s

theorem keepsNames_addTrees (path : List String) :
    ∀ (trees : List UseTree), UseTree.AllWellNamed trees →
      ∀ s : ModuleScope, s.KeepsNames (addTrees path trees s)
  | [], _, s => by
      rw [addTrees]
      exact .refl s
  | tree :: trees, h, s => by
      rw [UseTree.AllWellNamed] at h
      rw [addTrees]
      exact (keepsNames_addTree path tree h.1 s).trans (keepsNames_addTrees path trees h.2 _)

end

end ModuleScope

/-! ## Tables -/

namespace ScopeTable

/-- Whether a module declares a name. -/
def Declares (t : ScopeTable) (module name : String) : Prop :=
  ∃ s, t.scope? module = some s ∧ s.declares name = true

/-- Whether a module is the root or stands below it. -/
def IsBelowRoot (module : String) : Prop :=
  module = rootModule ∨ ∃ below, module = memberPath rootModule below

/-- **What holds of the scopes of sources.** -/
structure IsLawful (t : ScopeTable) : Prop where
  /-- No name of a type is a keyword, and a module below the root declares it. -/
  types : ∀ d ∈ t.types, d.1 ∉ Lookahead.keywords ∧
    ∃ module, IsBelowRoot module ∧ d.2 = memberPath module d.1 ∧ t.Declares module d.1
  imports : ∀ module s, t.scope? module = some s → s.ImportsNames

variable {t : ScopeTable} {module : String} {f : ModuleScope → ModuleScope}

theorem scope?_change_self (t : ScopeTable) (module : String) (f : ModuleScope → ModuleScope) :
    (t.change module f).scope? module = some (f ((t.scope? module).getD .empty)) :=
  SortedMap.find?_insert_self _ _ _

theorem scope?_change_of_ne {other : String} (h : other ≠ module) :
    (t.change module f).scope? other = t.scope? other :=
  SortedMap.find?_insert_of_ne h _ _

theorem Declares.change (hf : ∀ s : ModuleScope, s.KeepsNames (f s)) {other name : String}
    (h : t.Declares other name) : (t.change module f).Declares other name := by
  obtain ⟨s, hs, hname⟩ := h
  by_cases hother : other = module
  · refine ⟨f s, ?_, (hf s).declares name hname⟩
    rw [hother] at hs ⊢
    rw [scope?_change_self, hs]
    rfl
  · exact ⟨s, by rw [scope?_change_of_ne hother, hs], hname⟩

/-- **A change that keeps the names of its module** keeps a table lawful. -/
theorem IsLawful.change (ht : t.IsLawful) (hf : ∀ s : ModuleScope, s.KeepsNames (f s)) :
    (t.change module f).IsLawful := by
  constructor
  · intro d hd
    obtain ⟨hname, home, hbelow, hpath, hdeclares⟩ := ht.types d hd
    exact ⟨hname, home, hbelow, hpath, hdeclares.change hf⟩
  · intro other s hs
    by_cases hother : other = module
    · rw [hother, scope?_change_self] at hs
      rw [← Option.some.inj hs]
      refine (hf _).imports ?_
      cases hold : t.scope? module with
      | none => exact fun name target h => nomatch h
      | some old => exact ht.imports module old hold
    · rw [scope?_change_of_ne hother] at hs
      exact ht.imports other s hs

/-- **The declaration of a type** in a module below the root keeps a table lawful. -/
theorem IsLawful.declareType (ht : t.IsLawful) (hbelow : IsBelowRoot module) {name : String}
    (hname : name ∉ Lookahead.keywords) : (t.declareType module name).IsLawful := by
  have hchange : (t.change module (·.declare name)).IsLawful :=
    ht.change fun s => s.keepsNames_declare name
  refine ⟨fun d hd => ?_, hchange.imports⟩
  rcases List.mem_append.mp hd with hd | hd
  · exact hchange.types d hd
  · rw [List.mem_singleton.mp hd]
    refine ⟨hname, module, hbelow, rfl, _, scope?_change_self t module (·.declare name), ?_⟩
    rw [ModuleScope.declares, List.contains_iff_mem]
    exact List.mem_append_right _ (List.mem_singleton_self _)

theorem IsLawful.declareModule (ht : t.IsLawful) (parent name : String) :
    (t.declareModule parent name).IsLawful :=
  (ht.change fun s => s.keepsNames_declare name).change ModuleScope.KeepsNames.refl

theorem IsBelowRoot.member (h : IsBelowRoot module) (name : String) :
    IsBelowRoot (memberPath module name) := by
  rcases h with rfl | ⟨below, rfl⟩
  · exact Or.inr ⟨name, rfl⟩
  · refine Or.inr ⟨memberPath below name, ?_⟩
    simp only [memberPath, String.append_assoc]

theorem IsBelowRoot.exists_pathSegments (h : IsBelowRoot module) :
    ∃ below, pathSegments module = "crate" :: below := by
  rcases h with rfl | ⟨below, rfl⟩
  · exact ⟨[], by decide⟩
  · have hchars : (memberPath rootModule below).toList =
        ['c', 'r', 'a', 't', 'e'] ++ ':' :: ':' :: below.toList := by
      rw [memberPath, rootModule, String.toList_append, String.toList_append, List.append_assoc]
      rfl
    refine ⟨(Text.splitSegments below.toList).map String.ofList, ?_⟩
    rw [pathSegments, hchars, Text.splitSegments_append (by decide), List.map_cons]

end ScopeTable

theorem isBelowRoot_modulePathOf (path : String) : ScopeTable.IsBelowRoot (modulePathOf path) := by
  rw [modulePathOf]
  cases moduleSegments path with
  | nil => exact Or.inl (joinPath_singleton _)
  | cons segment segments => exact Or.inr ⟨_, joinPath_cons_cons _ _ _⟩

/-- **The scopes of sources are lawful.** -/
theorem isLawful_scopesOf {files : List SourceFile} {parsed : List ParsedFile}
    (h : parseFiles files = .ok parsed) : (scopesOf parsed).IsLawful := by
  have hkept : KeptByIndexing ScopeTable.IsBelowRoot ScopeTable.IsLawful :=
    { inside := fun hmodule _ => hmodule.member _
      declareType := fun hmodule hname ht => ht.declareType hmodule hname.2
      declareModule := fun parent name ht => ht.declareModule parent name
      addUse := fun module tree htree ht =>
        ht.change fun s => ModuleScope.keepsNames_addTree [] tree htree s }
  have hempty : ScopeTable.empty.IsLawful :=
    ⟨fun d hd => absurd hd List.not_mem_nil, fun module s hs => nomatch hs⟩
  exact hkept.scopesOf hempty h fun file _ => isBelowRoot_modulePathOf file.path

end FixtureFactory
