import FixtureFactory.Scope

/-!
# Trees of imports

An import branches wherever it has braces, and it may do so at every depth.  What it adds to the
scope of its module is what its leaves add, from left to right, each at the end of the path that
leads to it: braces only save writing the same path again.

`ModuleScope.addTree` hands the path down, so that each branch has a path of its own.  `ImportWalk`
goes through a tree with one path for all branches, which grows by a segment on the way down and
loses it on the way up.  Had a segment not been lost, everything further to the right would be
imported from a longer path, so the two agree only because a walk ends with the path it began with.

* `UseTree.leaves`, `UseLeaf.imported?`: the leaves of a tree, and what each of them imports.
* `ImportWalk.visit_eq`: a walk gives the path back.
* `ModuleScope.addTree_eq_foldl_leaves`: a tree adds what its leaves add.
* `ScopeTable.imports_flatten`: both, and the braces of an import as so many imports.
-/

namespace FixtureFactory

open Source (UseTree)

/-! ## Leaves -/

/-- The end of a branch of an import. -/
inductive UseLeaf where
  | name (name : String)
  | rename (name newName : String)
  | glob
  deriving DecidableEq, Repr

/-- What a leaf imports. -/
inductive Imported where
  /-- Something under a name. -/
  | named (name : String) (path : List String)
  /-- All that a module has. -/
  | whole (path : List String)
  deriving DecidableEq, Repr

/-- What a leaf imports at the end of a path.  The word `self` stands for the path itself, which has
no name where it is empty. -/
def UseLeaf.imported? (path : List String) : UseLeaf → Option Imported
  | .name "self" => path.getLast?.map fun last => .named last path
  | .name segment => some (.named segment (path ++ [segment]))
  | .rename _ "_" => none
  | .rename "self" newName => some (.named newName path)
  | .rename segment newName => some (.named newName (path ++ [segment]))
  | .glob => some (.whole path)

namespace Source.UseTree

mutual

/-- The leaves of a tree from left to right, each with the path to it from the start of a path. -/
def leaves (path : List String) : UseTree → List (List String × UseLeaf)
  | .path segment tree => leaves (path ++ [segment]) tree
  | .name segment => [(path, .name segment)]
  | .rename segment newName => [(path, .rename segment newName)]
  | .glob => [(path, .glob)]
  | .group trees => leavesOfAll path trees

/-- The leaves of several trees. -/
def leavesOfAll (path : List String) : List UseTree → List (List String × UseLeaf)
  | [] => []
  | tree :: trees => leaves path tree ++ leavesOfAll path trees

end

/-- The leaves of `a::{self, b::{c as d, *}, e as _}`. -/
example : (UseTree.path "a" (.group [.name "self", .path "b" (.group [.rename "c" "d", .glob]),
      .rename "e" "_"])).leaves [] =
    [(["a"], .name "self"), (["a", "b"], .rename "c" "d"), (["a", "b"], .glob),
      (["a"], .rename "e" "_")] := rfl

end Source.UseTree

namespace ModuleScope

/-- Adds what is imported. -/
def add (s : ModuleScope) : Imported → ModuleScope
  | .named name path => { s with imports := s.imports.insert name path }
  | .whole path => { s with globs := s.globs ++ [path] }

/-- Adds what a leaf imports at the end of the path to it, if it imports anything. -/
def addLeaf (s : ModuleScope) (leaf : List String × UseLeaf) : ModuleScope :=
  match leaf.2.imported? leaf.1 with
  | some imported => s.add imported
  | none => s

theorem addTree_name (path : List String) (name : String) (s : ModuleScope) :
    addTree path (.name name) s = s.addLeaf (path, .name name) := by
  rw [addTree, addLeaf]
  by_cases hself : name = "self"
  · subst hself
    simp only [UseLeaf.imported?]
    cases path.getLast? <;> rfl
  · simp [UseLeaf.imported?, hself, add, bind]

theorem addTree_rename (path : List String) (name newName : String) (s : ModuleScope) :
    addTree path (.rename name newName) s = s.addLeaf (path, .rename name newName) := by
  rw [addTree, addLeaf]
  by_cases hblank : newName = "_"
  · simp [UseLeaf.imported?, hblank]
  · by_cases hself : name = "self" <;> simp [UseLeaf.imported?, hblank, hself, add, bind]

mutual

/-- **A tree adds what its leaves add**, one after another. -/
theorem addTree_eq_foldl_leaves (path : List String) :
    ∀ (tree : UseTree) (s : ModuleScope), addTree path tree s = (tree.leaves path).foldl addLeaf s
  | .path segment tree, s => by
      rw [addTree, UseTree.leaves]
      exact addTree_eq_foldl_leaves (path ++ [segment]) tree s
  | .name name, s => addTree_name path name s
  | .rename name newName, s => addTree_rename path name newName s
  | .glob, _ => rfl
  | .group trees, s => by
      rw [addTree, UseTree.leaves]
      exact addTrees_eq_foldl_leaves path trees s

theorem addTrees_eq_foldl_leaves (path : List String) :
    ∀ (trees : List UseTree) (s : ModuleScope),
      addTrees path trees s = (UseTree.leavesOfAll path trees).foldl addLeaf s
  | [], _ => rfl
  | tree :: trees, s => by
      rw [addTrees, UseTree.leavesOfAll, List.foldl_append, ← addTree_eq_foldl_leaves path tree s]
      exact addTrees_eq_foldl_leaves path trees _

end

theorem addTrees_eq_foldl (path : List String) (trees : List UseTree) (s : ModuleScope) :
    addTrees path trees s = trees.foldl (fun s tree => addTree path tree s) s := by
  induction trees generalizing s with
  | nil => rfl
  | cons tree trees ih => rw [addTrees, ih, List.foldl_cons]

end ModuleScope

/-! ## One path for all branches -/

/-- A walk through the tree of an import: the path to where it is, and the scope that it fills. -/
structure ImportWalk where
  path : List String
  scope : ModuleScope

namespace ImportWalk

/-- Goes down a segment. -/
def enter (w : ImportWalk) (segment : String) : ImportWalk :=
  { w with path := w.path ++ [segment] }

/-- Goes up again. -/
def leave (w : ImportWalk) : ImportWalk := { w with path := w.path.dropLast }

/-- Adds what a leaf imports where the walk is. -/
def take (w : ImportWalk) (leaf : UseLeaf) : ImportWalk :=
  { w with scope := w.scope.addLeaf (w.path, leaf) }

mutual

/-- Goes through a tree. -/
def visit : UseTree → ImportWalk → ImportWalk
  | .path segment tree, w => (visit tree (w.enter segment)).leave
  | .name name, w => w.take (.name name)
  | .rename name newName, w => w.take (.rename name newName)
  | .glob, w => w.take .glob
  | .group trees, w => visitAll trees w

/-- Goes through several trees. -/
def visitAll : List UseTree → ImportWalk → ImportWalk
  | [], w => w
  | tree :: trees, w => visitAll trees (visit tree w)

end

theorem leave_mk_concat (path : List String) (segment : String) (s : ModuleScope) :
    leave ⟨path ++ [segment], s⟩ = ⟨path, s⟩ := by
  rw [leave, List.dropLast_concat]

mutual

/-- **A walk gives the path back** and fills the scope as if each branch had a path of its own. -/
theorem visit_eq : ∀ (tree : UseTree) (path : List String) (s : ModuleScope),
    visit tree ⟨path, s⟩ = ⟨path, s.addTree path tree⟩
  | .path segment tree, path, s => by
      rw [visit, enter, visit_eq tree (path ++ [segment]) s, leave_mk_concat,
        ModuleScope.addTree]
  | .name name, path, s => by
      rw [visit, take, ModuleScope.addTree_name]
  | .rename name newName, path, s => by
      rw [visit, take, ModuleScope.addTree_rename]
  | .glob, _, _ => rfl
  | .group trees, path, s => by
      rw [visit, visitAll_eq trees path s, ModuleScope.addTree]

theorem visitAll_eq : ∀ (trees : List UseTree) (path : List String) (s : ModuleScope),
    visitAll trees ⟨path, s⟩ = ⟨path, s.addTrees path trees⟩
  | [], _, _ => rfl
  | tree :: trees, path, s => by
      rw [visitAll, visit_eq tree path s, visitAll_eq trees path, ModuleScope.addTrees]

end

end ImportWalk

/-! ## Imports of a module -/

theorem SortedMap.insert_insert_self {α : Type} (key : String) (old new : α) (m : SortedMap α) :
    (m.insert key old).insert key new = m.insert key new := by
  induction m with
  | nil => simp [insert]
  | cons entry m ih =>
      obtain ⟨k, v⟩ := entry
      by_cases hkey : key = k
      · simp [insert, hkey]
      · by_cases hlt : key < k <;> simp [insert, hkey, hlt, ih]

namespace ScopeTable

theorem change_change (t : ScopeTable) (module : String) (f g : ModuleScope → ModuleScope) :
    (t.change module f).change module g = t.change module fun s => g (f s) := by
  unfold change scope?
  simp only [SortedMap.find?_insert_self, SortedMap.insert_insert_self, Option.getD_some]

theorem foldl_addUse (t : ScopeTable) (module : String) (f : UseTree → UseTree) (tree : UseTree)
    (trees : List UseTree) :
    (tree :: trees).foldl (fun t tree => t.addUse module (f tree)) t =
      t.change module fun s =>
        (tree :: trees).foldl (fun s tree => s.addTree [] (f tree)) s := by
  induction trees generalizing t tree with
  | nil => rfl
  | cons next trees ih =>
      rw [List.foldl_cons, ih, addUse, change_change]
      rfl

/-- **Imports flatten.**  One path for all branches of a tree serves as well as a path for each of
them, and is left as it was found.  The tree adds to a scope what its leaves add, in their order.
In particular an import with braces is so many imports, one for each tree between the braces.

That the path is left as it was found is part of the induction: every branch to the right
goes on from it. -/
theorem imports_flatten :
    (∀ (tree : UseTree) (path : List String) (s : ModuleScope),
      ImportWalk.visit tree ⟨path, s⟩ = ⟨path, s.addTree path tree⟩ ∧
        s.addTree path tree = (tree.leaves path).foldl ModuleScope.addLeaf s) ∧
    (∀ (path : List String) (segment : String) (trees : List UseTree) (s : ModuleScope),
      s.addTree path (.path segment (.group trees)) =
        trees.foldl (fun s tree => s.addTree path (.path segment tree)) s) ∧
    ∀ (t : ScopeTable) (module segment : String) (tree : UseTree) (trees : List UseTree),
      t.addUse module (.path segment (.group (tree :: trees))) =
        (tree :: trees).foldl (fun t tree => t.addUse module (.path segment tree)) t := by
  have hgroup : ∀ (path : List String) (segment : String) (trees : List UseTree)
      (s : ModuleScope), s.addTree path (.path segment (.group trees)) =
        trees.foldl (fun s tree => s.addTree path (.path segment tree)) s := by
    intro path segment trees s
    rw [ModuleScope.addTree, ModuleScope.addTree, ModuleScope.addTrees_eq_foldl]
    simp only [ModuleScope.addTree]
  refine ⟨fun tree path s => ⟨ImportWalk.visit_eq tree path s, ?_⟩, hgroup, ?_⟩
  · exact ModuleScope.addTree_eq_foldl_leaves path tree s
  · intro t module segment tree trees
    rw [foldl_addUse, addUse]
    congr 1
    funext s
    exact hgroup [] segment (tree :: trees) s

end ScopeTable
end FixtureFactory
