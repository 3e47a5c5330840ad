import FixtureFactory.Proofs.PathFollowing
import FixtureFactory.Proofs.PlacedItems
import FixtureFactory.Proofs.SourceScopes
import Mathlib.Data.List.Perm.Basic
import Mathlib.Data.Option.Basic

/-!
# The entries of a table of scopes

A table of scopes is filled step by step: by a type, by a module or by an import.  Here these steps
are listed, and what the table knows of a module is read off the list.  The module declares what its
entries name, and it imports what its imports bring, one after another.  What an item adds depends
on the module that it stands in, and on nothing that is in the table already, so the list of a set
of files is put together from the lists of the files.

The order of the list hardly matters.  A name is declared or it is not, and a type is the only one
of its name or it is not; only where two imports of one module meet does the order show, in the path
that a name is imported from and in the order of the modules that are imported as a whole.

* `ScopeTable.scope?_ofEntries`, `ScopeTable.types_ofEntries`: a table from its entries.
* `scopesOf_eq_ofEntries`: the scopes of some files are the table of their entries.
* `ScopeTable.Agrees`: two tables agree if nobody can tell them apart by resolving a path, as
  `ScopeTable.Agrees.resolveType_eq` says.
* `ScopeTable.agrees_of_perm`: tables of the same entries agree, if the imports of every module come
  in the same order.
-/

namespace FixtureFactory

open Source (Item UseTree)

/-- What one step of the indexing adds to a table. -/
inductive ScopeEntry where
  | type (module name : String)
  | submodule (parent name : String)
  | use (module : String) (tree : UseTree)

namespace ScopeEntry

/-- Adds the entry to a table. -/
def addTo (t : ScopeTable) : ScopeEntry → ScopeTable
  | .type module name => t.declareType module name
  | .submodule parent name => t.declareModule parent name
  | .use module tree => t.addUse module tree

/-- Whether a module has a scope because of the entry. -/
def touches (module : String) : ScopeEntry → Bool
  | .type home _ => home == module
  | .submodule parent name => parent == module || ScopeTable.memberPath parent name == module
  | .use home _ => home == module

/-- The name that a module declares by the entry. -/
def nameIn? (module : String) : ScopeEntry → Option String
  | .type home name => if home = module then some name else none
  | .submodule parent name => if parent = module then some name else none
  | .use _ _ => none

/-- The import that a module has by the entry. -/
def useIn? (module : String) : ScopeEntry → Option UseTree
  | .use home tree => if home = module then some tree else none
  | .type _ _ => none
  | .submodule _ _ => none

/-- The type that the entry declares, by its name and its path. -/
def type? : ScopeEntry → Option (String × String)
  | .type module name => some (name, ScopeTable.memberPath module name)
  | .submodule _ _ => none
  | .use _ _ => none

/-- What the entry makes of the scope of a module. -/
def change (module : String) (s : ModuleScope) (e : ScopeEntry) : ModuleScope :=
  match e.useIn? module with
  | some tree => s.addTree [] tree
  | none =>
      match e.nameIn? module with
      | some name => s.declare name
      | none => s

end ScopeEntry

namespace ModuleScope

/-! ## Imports and declared names -/

/-- The scope with other declared names. -/
def withItems (s : ModuleScope) (items : List String) : ModuleScope := { s with items := items }

mutual

/-- **An import does not look at the declared names**, and it does not change them. -/
theorem addTree_withItems (path : List String) :
    ∀ (tree : UseTree) (s : ModuleScope) (items : List String),
      addTree path tree (s.withItems items) = (addTree path tree s).withItems items
  | .path segment tree, s, items => addTree_withItems (path ++ [segment]) tree s items
  | .name name, s, items => by
      rw [addTree, addTree]
      split
      · split <;> rfl
      · rfl
  | .rename name newName, s, items => by
      rw [addTree, addTree]
      split <;> rfl
  | .glob, _, _ => rfl
  | .group trees, s, items => addTrees_withItems path trees s items

theorem addTrees_withItems (path : List String) :
    ∀ (trees : List UseTree) (s : ModuleScope) (items : List String),
      addTrees path trees (s.withItems items) = (addTrees path trees s).withItems items
  | [], _, _ => rfl
  | tree :: trees, s, items => by
      rw [addTrees, addTrees, addTree_withItems path tree s items, addTrees_withItems path trees]

end

theorem items_addTree (path : List String) (tree : UseTree) (s : ModuleScope) :
    (addTree path tree s).items = s.items := by
  have h := congrArg ModuleScope.items (addTree_withItems path tree s s.items)
  exact h

/-- The imports of a module, one after another. -/
def addUses (trees : List UseTree) (s : ModuleScope) : ModuleScope :=
  trees.foldl (fun s tree => addTree [] tree s) s

theorem addUses_withItems (trees : List UseTree) (s : ModuleScope) (items : List String) :
    addUses trees (s.withItems items) = (addUses trees s).withItems items := by
  induction trees generalizing s with
  | nil => rfl
  | cons tree trees ih =>
      rw [addUses, List.foldl_cons, addTree_withItems]
      exact ih _

/-- Two scopes agree if they have the same imports, in the same order, and declare the same names,
in any order. -/
structure Agrees (s s' : ModuleScope) : Prop where
  imports : s'.imports = s.imports
  globs : s'.globs = s.globs
  declares : ∀ name, s'.declares name = s.declares name

theorem Agrees.import?_eq {s s' : ModuleScope} (h : s.Agrees s') (name : String) :
    s'.import? name = s.import? name := by
  rw [import?, import?, h.imports]

end ModuleScope

namespace ScopeTable

/-! ## Tables of entries -/

/-- The table of some entries. -/
def ofEntries (es : List ScopeEntry) : ScopeTable := es.foldl ScopeEntry.addTo .empty

/-- The scope of a module in the table of some entries, if it has one. -/
def scopeIn (module : String) (es : List ScopeEntry) : ModuleScope :=
  (ModuleScope.addUses (es.filterMap (ScopeEntry.useIn? module)) .empty).withItems
    (es.filterMap (ScopeEntry.nameIn? module))

/-- **What an entry does to the scope of a module.** -/
theorem scope?_addTo (t : ScopeTable) (e : ScopeEntry) (module : String) :
    (e.addTo t).scope? module =
      if e.touches module then some (e.change module ((t.scope? module).getD .empty))
      else t.scope? module := by
  cases e with
  | type home name =>
      have hscope : (ScopeEntry.addTo t (.type home name)).scope? module =
          (t.change home (·.declare name)).scope? module := rfl
      by_cases hhome : home = module
      · subst hhome
        simp [hscope, scope?_change_self, ScopeEntry.touches, ScopeEntry.change,
          ScopeEntry.useIn?, ScopeEntry.nameIn?]
      · simp [hscope, scope?_change_of_ne (Ne.symm hhome), ScopeEntry.touches, hhome]
  | use home tree =>
      have hscope : (ScopeEntry.addTo t (.use home tree)).scope? module =
          (t.change home (ModuleScope.addTree [] tree)).scope? module := rfl
      by_cases hhome : home = module
      · subst hhome
        simp [hscope, scope?_change_self, ScopeEntry.touches, ScopeEntry.change,
          ScopeEntry.useIn?]
      · simp [hscope, scope?_change_of_ne (Ne.symm hhome), ScopeEntry.touches, hhome]
  | submodule parent name =>
      have hscope : (ScopeEntry.addTo t (.submodule parent name)).scope? module =
          ((t.change parent (·.declare name)).change (memberPath parent name) id).scope? module :=
        rfl
      have hparent : (t.change parent (·.declare name)).scope? module =
          if parent = module then some (((t.scope? module).getD .empty).declare name)
          else t.scope? module := by
        by_cases heq : parent = module
        · subst heq
          rw [if_pos rfl, scope?_change_self]
        · rw [if_neg heq, scope?_change_of_ne (Ne.symm heq)]
      by_cases hinside : memberPath parent name = module
      · rw [hscope, hinside, scope?_change_self, hparent]
        by_cases heq : parent = module <;>
          simp [ScopeEntry.touches, ScopeEntry.change, ScopeEntry.useIn?, ScopeEntry.nameIn?,
            hinside, heq]
      · rw [hscope, scope?_change_of_ne (Ne.symm hinside), hparent]
        by_cases heq : parent = module <;>
          simp [ScopeEntry.touches, ScopeEntry.change, ScopeEntry.useIn?, ScopeEntry.nameIn?,
            hinside, heq]

/-- What a module is not touched by does not change its scope. -/
theorem change_of_not_touches {e : ScopeEntry} {module : String} (h : e.touches module = false)
    (s : ModuleScope) : e.change module s = s := by
  cases e with
  | type home name =>
      have hhome : home ≠ module := beq_eq_false_iff_ne.mp h
      simp [ScopeEntry.change, ScopeEntry.useIn?, ScopeEntry.nameIn?, hhome]
  | use home tree =>
      have hhome : home ≠ module := beq_eq_false_iff_ne.mp h
      simp [ScopeEntry.change, ScopeEntry.useIn?, ScopeEntry.nameIn?, hhome]
  | submodule parent name =>
      have hparent : parent ≠ module := beq_eq_false_iff_ne.mp (Bool.or_eq_false_iff.mp h).1
      simp [ScopeEntry.change, ScopeEntry.useIn?, ScopeEntry.nameIn?, hparent]

theorem foldl_change_of_not_touches {es : List ScopeEntry} {module : String}
    (h : es.any (ScopeEntry.touches module) = false) (s : ModuleScope) :
    es.foldl (ScopeEntry.change module) s = s := by
  induction es with
  | nil => rfl
  | cons e es ih =>
      rw [List.any_cons, Bool.or_eq_false_iff] at h
      rw [List.foldl_cons, change_of_not_touches h.1, ih h.2]

/-- The scope of a module after some entries. -/
theorem scope?_foldl_addTo (es : List ScopeEntry) (t : ScopeTable) (module : String) :
    (es.foldl ScopeEntry.addTo t).scope? module =
      if es.any (ScopeEntry.touches module) then
        some (es.foldl (ScopeEntry.change module) ((t.scope? module).getD .empty))
      else t.scope? module := by
  induction es generalizing t with
  | nil => rfl
  | cons e es ih =>
      rw [List.foldl_cons, List.foldl_cons, List.any_cons, ih, scope?_addTo]
      cases htouches : e.touches module with
      | true =>
          cases hrest : es.any (ScopeEntry.touches module) with
          | true => simp
          | false => simp [foldl_change_of_not_touches hrest]
      | false => simp [change_of_not_touches htouches]

/-- What some entries make of the scope of a module: the imports do so one after another, and the
names are added to those that are declared already. -/
theorem foldl_change (es : List ScopeEntry) (module : String) (s : ModuleScope) :
    es.foldl (ScopeEntry.change module) s =
      (ModuleScope.addUses (es.filterMap (ScopeEntry.useIn? module)) s).withItems
        (s.items ++ es.filterMap (ScopeEntry.nameIn? module)) := by
  induction es generalizing s with
  | nil => simp [ModuleScope.addUses, ModuleScope.withItems]
  | cons e es ih =>
      rw [List.foldl_cons, ih, List.filterMap_cons, List.filterMap_cons, ScopeEntry.change]
      cases huse : e.useIn? module with
      | some tree =>
          have hname : e.nameIn? module = none := by
            cases e with
            | use home tree => rfl
            | type home name => cases huse
            | submodule parent name => cases huse
          rw [hname]
          simp only [ModuleScope.items_addTree]
          rfl
      | none =>
          cases e.nameIn? module with
          | none => rfl
          | some name =>
              have hdeclare : s.declare name = s.withItems (s.items ++ [name]) := rfl
              simp only [hdeclare, ModuleScope.addUses_withItems]
              simp [ModuleScope.withItems]

/-- **The scope of a module in a table of entries.** -/
theorem scope?_ofEntries (es : List ScopeEntry) (module : String) :
    (ofEntries es).scope? module =
      if es.any (ScopeEntry.touches module) then some (scopeIn module es) else none := by
  rw [ofEntries, scope?_foldl_addTo, foldl_change]
  rfl

/-- **The types in a table of entries.** -/
theorem types_ofEntries (es : List ScopeEntry) :
    (ofEntries es).types = es.filterMap ScopeEntry.type? := by
  have hfold : ∀ t : ScopeTable,
      (es.foldl ScopeEntry.addTo t).types = t.types ++ es.filterMap ScopeEntry.type? := by
    induction es with
    | nil => exact fun t => (List.append_nil _).symm
    | cons e es ih =>
        intro t
        rw [List.foldl_cons, ih, List.filterMap_cons]
        cases e with
        | type home name => exact List.append_assoc ..
        | submodule parent name => rfl
        | use home tree => rfl
  exact hfold .empty

/-! ## Tables that agree -/

/-- Two tables agree if the scopes of every module do, and if the same types are the only ones of
their names. -/
structure Agrees (t t' : ScopeTable) : Prop where
  scopes : ∀ module, Option.Rel ModuleScope.Agrees (t.scope? module) (t'.scope? module)
  types : ∀ name, t'.uniqueType? name = t.uniqueType? name

/-- A type is the only one of its name in any order of the types. -/
theorem uniqueType?_eq_of_perm {t t' : ScopeTable} (h : t.types.Perm t'.types) (name : String) :
    t'.uniqueType? name = t.uniqueType? name := by
  have hfilter := h.filter (·.1 == name)
  rw [uniqueType?, uniqueType?]
  generalize t.types.filter (·.1 == name) = named at hfilter
  generalize t'.types.filter (·.1 == name) = named' at hfilter
  rcases named with _ | ⟨a, _ | ⟨b, rest⟩⟩
  · rw [List.nil_perm.mp hfilter]
  · rw [List.singleton_perm.mp hfilter]
  · rcases named' with _ | ⟨a', _ | ⟨b', rest'⟩⟩
    · cases hfilter.length_eq
    · cases hfilter.length_eq
    · rfl

/-- **Tables of the same entries agree**, if the imports of every module come in the same order. -/
theorem agrees_of_perm {es es' : List ScopeEntry} (h : es.Perm es')
    (huses : ∀ module, es'.filterMap (ScopeEntry.useIn? module) =
      es.filterMap (ScopeEntry.useIn? module)) : (ofEntries es).Agrees (ofEntries es') := by
  constructor
  · intro module
    have htouched : es'.any (ScopeEntry.touches module) = es.any (ScopeEntry.touches module) := by
      rw [Bool.eq_iff_iff, List.any_eq_true, List.any_eq_true]
      simp only [h.mem_iff]
    rw [scope?_ofEntries, scope?_ofEntries, htouched]
    split
    · refine Option.Rel.some ⟨?_, ?_, fun name => ?_⟩
      · rw [scopeIn, scopeIn, huses]
        rfl
      · rw [scopeIn, scopeIn, huses]
        rfl
      · have hnames := h.filterMap (ScopeEntry.nameIn? module)
        rw [ModuleScope.declares, ModuleScope.declares, Bool.eq_iff_iff, List.contains_iff_mem,
          List.contains_iff_mem]
        exact hnames.mem_iff.symm
    · exact Option.Rel.none
  · refine uniqueType?_eq_of_perm ?_
    rw [types_ofEntries, types_ofEntries]
    exact h.filterMap _

namespace Agrees

variable {t t' : ScopeTable}

theorem refl (t : ScopeTable) : t.Agrees t := by
  refine ⟨fun module => ?_, fun _ => rfl⟩
  cases t.scope? module with
  | none => exact Option.Rel.none
  | some s => exact Option.Rel.some ⟨rfl, rfl, fun _ => rfl⟩

theorem scope?_cases (h : t.Agrees t') (module : String) :
    (t.scope? module = none ∧ t'.scope? module = none) ∨
      ∃ s s', t.scope? module = some s ∧ t'.scope? module = some s' ∧ s.Agrees s' := by
  have hscope := h.scopes module
  generalize t.scope? module = found at hscope
  generalize t'.scope? module = found' at hscope
  cases hscope with
  | none => exact Or.inl ⟨rfl, rfl⟩
  | some hs => exact Or.inr ⟨_, _, rfl, rfl, hs⟩

theorem reexport?_eq (h : t.Agrees t') (module segment : String) :
    t'.reexport? module segment = t.reexport? module segment := by
  rw [reexport?, reexport?]
  rcases h.scope?_cases module with ⟨hs, hs'⟩ | ⟨s, s', hs, hs', hagree⟩
  · rw [hs, hs']
  · simp only [hs, hs', hagree.declares, hagree.import?_eq]

theorem walkFrom_eq (h : t.Agrees t') (follow : Option (String → List String → List String))
    (module path : List String) :
    t'.walkFrom follow module path = t.walkFrom follow module path := by
  induction path generalizing module with
  | nil => rfl
  | cons segment rest ih =>
      simp only [walkFrom, h.reexport?_eq, ih]

theorem walk_eq (h : t.Agrees t') (follow : Option (String → List String → List String)) :
    t'.walk follow = t.walk follow := by
  funext path
  cases path with
  | nil => rfl
  | cons root rest => exact h.walkFrom_eq follow [root] rest

theorem globWith?_eq (h : t.Agrees t') (resolve : List String → List String) (name : String)
    (globs : List (List String)) :
    t'.globWith? resolve name globs = t.globWith? resolve name globs := by
  induction globs with
  | nil => rfl
  | cons glob globs ih =>
      rw [globWith?, globWith?]
      rcases h.scope?_cases (joinPath (resolve glob)) with ⟨hs, hs'⟩ | ⟨s, s', hs, hs', hagree⟩
      · simp only [hs, hs', ih]
      · simp only [hs, hs', hagree.declares, hagree.import?_eq, ih]

theorem relative_eq (h : t.Agrees t') (deeper : String → List String → List String)
    (here below : List String → List String) (module first : String) (rest : List String) :
    t'.relative deeper here below module first rest =
      t.relative deeper here below module first rest := by
  rw [relative, relative]
  rcases h.scope?_cases module with ⟨hs, hs'⟩ | ⟨s, s', hs, hs', hagree⟩
  · rw [hs, hs']
  · simp only [hs, hs', hagree.declares, hagree.import?_eq, hagree.globs, h.globWith?_eq, h.types]

/-- **Tables that agree resolve a path alike**, whatever the budget. -/
theorem absolute_eq (h : t.Agrees t') (budget : Nat) : t'.absolute budget = t.absolute budget := by
  induction budget using Nat.strongRecOn with
  | ind budget ih =>
      funext module path
      rcases path with _ | ⟨first, rest⟩
      · rw [absolute, absolute]
      rcases budget with _ | budget
      · simp only [absolute]
      have hfollower : ∀ n ≤ budget, t'.follower n = t.follower n := by
        intro n hn
        rw [follower, follower, ih n (Nat.lt_succ_of_le hn)]
      cases hanchor : anchor? module (first :: rest) with
      | some whole =>
          rw [absolute_of_anchor hanchor, absolute_of_anchor hanchor, h.walk_eq,
            hfollower budget (Nat.le_refl budget)]
      | none =>
          rw [absolute_of_relative hanchor, absolute_of_relative hanchor, h.relative_eq, h.walk_eq,
            h.walk_eq, ih budget (Nat.lt_succ_self budget), hfollower budget (Nat.le_refl budget),
            hfollower (budget - 1) (Nat.sub_le budget 1)]

theorem resolvePath_eq (h : t.Agrees t') (module : String) (path : List String) :
    t'.resolvePath module path = t.resolvePath module path := by
  rw [resolvePath, resolvePath, h.absolute_eq]

mutual

/-- **Tables that agree resolve a type alike.** -/
theorem resolveType_eq (h : t.Agrees t') (module : String) :
    ∀ term : Source.TypeTerm, t'.resolveType module term = t.resolveType module term
  | .path rooted segments _ args => by
      rw [resolveType, resolveType, h.resolvePath_eq, h.resolveArguments_eq module args]
  | .slice element => by rw [resolveType, resolveType, h.resolveType_eq module element]
  | .parenthesized inner => by rw [resolveType, resolveType, h.resolveType_eq module inner]
  | .unit => by rw [resolveType, resolveType]
  | .other _ => by rw [resolveType, resolveType]

theorem resolveArguments_eq (h : t.Agrees t') (module : String) :
    ∀ args : List Source.Argument,
      t'.resolveArguments module args = t.resolveArguments module args
  | [] => by rw [resolveArguments, resolveArguments]
  | .type term :: args => by
      rw [resolveArguments, resolveArguments, h.resolveType_eq module term,
        h.resolveArguments_eq module args]
  | .other _ :: args => by
      rw [resolveArguments, resolveArguments, h.resolveArguments_eq module args]

end

end Agrees

end ScopeTable

/-! ## The entries of files -/

/-- What an item adds to the table, itself. -/
def PlacedItem.entry? (p : PlacedItem) : Option ScopeEntry :=
  match p.item with
  | .record _ name _ => some (.type p.context.module name.text)
  | .enumeration _ name _ => some (.type p.context.module name.text)
  | .union _ name => some (.type p.context.module name.text)
  | .typeAlias name => some (.type p.context.module name)
  | .use tree => some (.use p.context.module tree)
  | .module name _ => some (.submodule p.context.module name)
  | .function _ => none
  | .implementation _ _ => none
  | .other => none

mutual

/-- An item adds its own entry and those of the items inside it. -/
theorem declareItem_eq (c : ItemContext) : ∀ (item : Item) (t : ScopeTable),
    declareItem c.module item t =
      ((⟨c, item⟩ :: placeInside c item).filterMap PlacedItem.entry?).foldl ScopeEntry.addTo t
  | .module name items, _ => declareItems_eq (c.within name) items _
  | .record _ _ _, _ => rfl
  | .enumeration _ _ _, _ => rfl
  | .union _ _, _ => rfl
  | .typeAlias _, _ => rfl
  | .use _, _ => rfl
  | .function _, _ => rfl
  | .implementation _ _, _ => rfl
  | .other, _ => rfl

theorem declareItems_eq (c : ItemContext) : ∀ (items : List Item) (t : ScopeTable),
    declareItems c.module items t =
      ((placeItems c items).filterMap PlacedItem.entry?).foldl ScopeEntry.addTo t
  | [], _ => rfl
  | item :: items, t => by
      rw [declareItems, declareItem_eq c item, declareItems_eq c items, placeItems,
        ← List.foldl_append, ← List.filterMap_append, List.cons_append]

end

/-- The entry of the module of a file, unless it is the root. -/
def moduleEntry (file : ParsedFile) : Option ScopeEntry :=
  (splitLast? (modulePathOf file.path)).map fun (parent, name) => .submodule parent name

/-- The entries of a file: its module, and its items. -/
def entriesOf (file : ParsedFile) : List ScopeEntry :=
  (moduleEntry file).toList ++
    (placeItems (contextOf 0 file) file.items).filterMap PlacedItem.entry?

theorem declareFile_eq (file : ParsedFile) (t : ScopeTable) :
    declareFile file t = (entriesOf file).foldl ScopeEntry.addTo t := by
  rw [entriesOf, List.foldl_append, ← declareItems_eq, declareFile, moduleEntry]
  cases splitLast? (modulePathOf file.path) <;> rfl

/-- **The scopes of some files are the table of their entries.** -/
theorem scopesOf_eq_ofEntries (files : List ParsedFile) :
    scopesOf files = .ofEntries (files.flatMap entriesOf) := by
  rw [scopesOf, ScopeTable.ofEntries, List.foldl_flatMap]
  exact congrArg (fun f => files.foldl f .empty) (funext fun t => funext fun file =>
    declareFile_eq file t)

end FixtureFactory
