import FixtureFactory.Files.Tree
import Mathlib.Data.List.Infix

/-!
# What stands where in a tree of files

A tree of files is compared with another place by place.  `Node` is what can stand at a place: a
directory, without its entries, or a file with its content.  `FileTree.node?` looks it up, so two
trees with the same nodes differ in the order of entries at most, and nothing that can be observed
through a look-up.

Putting something at a place makes what is missing on the way.  Where nothing is missing on the way
and no directory gives place to it, a file or an empty directory changes one node and no other
(`node?_put`), which is all that later files use of trees.
-/

namespace FixtureFactory
namespace Files

/-- What stands at a place. -/
inductive Node where
  | directory
  | file (content : Content)
  deriving DecidableEq

namespace FileTree

/-- The tree as something that stands at a place. -/
def node : FileTree → Node
  | directory _ => .directory
  | file content => .file content

/-- What stands at the end of a path of names. -/
def node? (path : List String) (t : FileTree) : Option Node := (t.at? path).map node

/-! ## Looking up -/

theorem entry?_eq_lookup (name : String) (t : FileTree) :
    t.entry? name = t.entries.lookup name := by
  cases t <;> rfl

theorem at?_cons (name : String) (path : List String) (t : FileTree) :
    at? (name :: path) t = (t.entry? name).bind (at? path) := rfl

theorem at?_append (path rest : List String) (t : FileTree) :
    at? (path ++ rest) t = (at? path t).bind (at? rest) := by
  induction path generalizing t with
  | nil => rfl
  | cons name path ih =>
      rw [List.cons_append, at?_cons, at?_cons]
      cases t.entry? name with
      | none => rfl
      | some u => exact ih u

theorem node?_cons (name : String) (path : List String) (t : FileTree) :
    node? (name :: path) t = (t.entry? name).bind (node? path) := by
  rw [node?, at?_cons]
  cases t.entry? name <;> rfl

/-- Only a directory has something below it. -/
theorem node?_of_node?_append {path : List String} {name : String} {rest : List String}
    {t : FileTree} {n : Node} (h : node? (path ++ name :: rest) t = some n) :
    node? path t = some .directory := by
  rw [node?, at?_append] at h
  rw [node?]
  rcases hpath : at? path t with _ | ⟨c | entries⟩
  · rw [hpath] at h
    cases h
  · rw [hpath] at h
    cases h
  · rfl

theorem exists_at?_of_node?_eq_directory {path : List String} {t : FileTree}
    (h : node? path t = some .directory) : ∃ entries, at? path t = some (directory entries) := by
  rw [node?] at h
  rcases hpath : at? path t with _ | ⟨c | entries⟩
  · rw [hpath] at h
    cases h
  · rw [hpath] at h
    cases h
  · exact ⟨entries, rfl⟩

theorem node?_concat {path : List String} {t : FileTree} {entries : List (String × FileTree)}
    (h : at? path t = some (directory entries)) (name : String) :
    node? (path ++ [name]) t = (entries.lookup name).map node := by
  rw [node?, at?_append, h]
  show ((entries.lookup name).bind (at? [])).map node = _
  cases entries.lookup name <;> rfl

/-! ## Putting -/

theorem lookup_putEntry (name : String) (u : FileTree) (entries : List (String × FileTree))
    (other : String) :
    (putEntry name u entries).lookup other =
      if other = name then some u else entries.lookup other := by
  induction entries with
  | nil =>
      rw [putEntry, List.lookup_cons]
      by_cases h : other = name
      · simp [h]
      · simp [h, beq_false_of_ne h]
  | cons entry entries ih =>
      obtain ⟨n, v⟩ := entry
      rw [putEntry]
      by_cases hn : n = name
      · rw [if_pos (beq_iff_eq.mpr hn), List.lookup_cons, List.lookup_cons]
        by_cases h : other = name
        · simp [h, hn]
        · simp [h, hn, beq_false_of_ne h]
      · rw [if_neg (mt beq_iff_eq.mp hn), List.lookup_cons, List.lookup_cons, ih]
        by_cases h : other = n
        · simp [h, hn]
        · simp [beq_false_of_ne h]

/-- What stands below a name after something has been put there or elsewhere. -/
theorem node?_cons_put (t : FileTree) (name : String) (path : List String) (new : FileTree)
    (other : String) (rest : List String) :
    node? (other :: rest) (put t (name :: path) new) =
      if other = name then node? rest (put ((t.entry? name).getD empty) path new)
      else node? (other :: rest) t := by
  rw [node?_cons, node?_cons, put, entry?_eq_lookup, entry?_eq_lookup, entry?_eq_lookup, entries,
    lookup_putEntry]
  by_cases h : other = name
  · rw [if_pos h, if_pos h]
    rfl
  · rw [if_neg h, if_neg h]

/-- **A file or an empty directory under a name of a directory changes one node**, unless a
directory gives place to it. -/
theorem node?_put {directoryPath : List String} {name : String} {t new : FileTree}
    (hdirectory : node? directoryPath t = some .directory)
    (hold : node? (directoryPath ++ [name]) t ≠ some .directory)
    (hnew : ∀ n, new.entry? n = none) (path : List String) :
    node? path (put t (directoryPath ++ [name]) new) =
      if path = directoryPath ++ [name] then some new.node else node? path t := by
  induction directoryPath generalizing t path with
  | nil =>
      cases path with
      | nil =>
          rw [if_neg (by simp), hdirectory]
          rfl
      | cons other rest =>
          rw [List.nil_append, node?_cons_put, put]
          by_cases h : other = name
          · cases rest with
            | nil => rw [h, if_pos rfl, if_pos rfl]; rfl
            | cons below rest =>
                -- nothing was below the name before, and nothing is now
                have hbelow : node? (name :: below :: rest) t = none := by
                  cases hnode : node? (name :: below :: rest) t with
                  | none => rfl
                  | some n => exact absurd (@node?_of_node?_append [name] _ _ _ _ hnode) hold
                rw [h, if_pos rfl, if_neg (by simp), hbelow, node?_cons, hnew]
                rfl
          · rw [if_neg h, if_neg fun heq => h (List.cons.inj heq).1]
  | cons first directoryPath ih =>
      cases path with
      | nil =>
          have hroot : node? ([] : List String) t = some .directory :=
            node?_of_node?_append hdirectory
          rw [if_neg (by simp), hroot]
          rfl
      | cons other rest =>
          rw [List.cons_append, node?_cons_put]
          by_cases h : other = first
          · rw [node?_cons] at hdirectory
            rw [List.cons_append, node?_cons] at hold
            rw [if_pos h, node?_cons, h]
            cases hentry : t.entry? first with
            | none =>
                rw [hentry] at hdirectory
                cases hdirectory
            | some u =>
                rw [hentry] at hdirectory hold
                have hrest := ih hdirectory hold rest
                rw [Option.getD_some, hrest]
                by_cases hpath : rest = directoryPath ++ [name] <;> simp [hpath]
          · rw [if_neg h, if_neg fun heq => h (List.cons.inj heq).1]

end FileTree
end Files
end FixtureFactory
