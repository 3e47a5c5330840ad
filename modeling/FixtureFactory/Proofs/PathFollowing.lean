import FixtureFactory.Scope

/-!
# Following paths

A resolution first makes a path absolute, as far as its first word says how, and then follows it
segment by segment up to the first re-export.  What it finds there depends on the table alone, and
what becomes of it is up to the budget.  This file keeps the two apart.

* `ScopeTable.reexportAlong?`: the first re-export along an absolute path.
* `ScopeTable.walk_of_eq_none`, `ScopeTable.walk_of_eq_some`: a path without re-exports is followed
  to itself, and a path with one to what the follower makes of it.
* `ScopeTable.anchor?`: the absolute form of a path that starts with `crate`, `self` or `super`.
* `ScopeTable.absolute_of_anchor`, `ScopeTable.absolute_of_relative`: how a path with such a word
  and one without are resolved.
-/

namespace FixtureFactory

/-- A path as it is written in a module. -/
structure WrittenPath where
  module : String
  segments : List String
  deriving DecidableEq, Repr

/-- A re-export on the way of a path: the path that is imported, and the segments that are left. -/
structure Reexport where
  source : WrittenPath
  rest : List String
  deriving DecidableEq, Repr

namespace ScopeTable

variable {t : ScopeTable}

/-! ## Re-exports on the way -/

/-- The first re-export among the segments after a module. -/
def reexportAfter? (t : ScopeTable) (module : List String) : List String → Option Reexport
  | [] => none
  | segment :: rest =>
      match t.reexport? (joinPath module) segment with
      | some target => some ⟨⟨joinPath module, target⟩, rest⟩
      | none => reexportAfter? t (module ++ [segment]) rest

/-- The first re-export along an absolute path. -/
def reexportAlong? (t : ScopeTable) : List String → Option Reexport
  | [] => none
  | root :: rest => t.reexportAfter? [root] rest

theorem reexportAfter?_cons (module : List String) (segment : String) (rest : List String) :
    t.reexportAfter? module (segment :: rest) =
      ((t.reexport? (joinPath module) segment).map fun target =>
        ⟨⟨joinPath module, target⟩, rest⟩).or (t.reexportAfter? (module ++ [segment]) rest) := by
  rw [reexportAfter?]
  cases t.reexport? (joinPath module) segment <;> rfl

theorem reexportAfter?_append {module path : List String}
    (hpath : t.reexportAfter? module path = none) (below : List String) :
    t.reexportAfter? module (path ++ below) = t.reexportAfter? (module ++ path) below := by
  induction path generalizing module with
  | nil => rw [List.nil_append, List.append_nil]
  | cons segment path ih =>
      rw [reexportAfter?_cons, Option.or_eq_none_iff, Option.map_eq_none_iff] at hpath
      rw [List.cons_append, reexportAfter?_cons, hpath.1, Option.map_none, Option.none_or,
        ih hpath.2, List.append_assoc]
      rfl

/-- Where no module is known, nothing is re-exported. -/
theorem reexportAfter?_of_scopes {module path : List String}
    (h : ∀ above, ∀ entry ∈ t.scopes, joinPath (module ++ above) ≠ entry.1) :
    t.reexportAfter? module path = none := by
  induction path generalizing module with
  | nil => rfl
  | cons segment path ih =>
      have hscope : t.scope? (joinPath module) = none := by
        cases hfound : t.scope? (joinPath module) with
        | none => rfl
        | some s =>
            have hmodule := h [] _ (SortedMap.mem_of_find? hfound)
            rw [List.append_nil] at hmodule
            exact absurd rfl hmodule
      have hreexport : t.reexport? (joinPath module) segment = none := by
        rw [reexport?, hscope]
      rw [reexportAfter?_cons, hreexport]
      refine ih fun above entry hentry => ?_
      rw [List.append_assoc]
      exact h _ entry hentry

theorem walkFrom_cons_of_eq_none {follow : Option (String → List String → List String)}
    {module : List String} {segment : String} {rest : List String}
    (h : t.reexport? (joinPath module) segment = none) :
    t.walkFrom follow module (segment :: rest) = t.walkFrom follow (module ++ [segment]) rest := by
  rw [walkFrom]
  intro f target _ htarget
  cases h.symm.trans htarget

theorem walkFrom_cons_of_eq_some {f : String → List String → List String} {module : List String}
    {segment : String} {rest target : List String}
    (h : t.reexport? (joinPath module) segment = some target) :
    t.walkFrom (some f) module (segment :: rest) = f (joinPath module) target ++ rest := by
  rw [walkFrom]
  exact h

theorem walkFrom_of_eq_none {follow : Option (String → List String → List String)}
    {module path : List String} (h : t.reexportAfter? module path = none) :
    t.walkFrom follow module path = module ++ path := by
  induction path generalizing module with
  | nil => rw [walkFrom, List.append_nil]
  | cons segment rest ih =>
      rw [reexportAfter?_cons, Option.or_eq_none_iff, Option.map_eq_none_iff] at h
      rw [walkFrom_cons_of_eq_none h.1, ih h.2, List.append_assoc]
      rfl

/-- The first re-export sends the rest elsewhere, after any module. -/
theorem walkFrom_of_eq_some {f : String → List String → List String} {module path : List String}
    {r : Reexport} (h : t.reexportAfter? module path = some r) :
    t.walkFrom (some f) module path = f r.source.module r.source.segments ++ r.rest := by
  induction path generalizing module with
  | nil => cases h
  | cons segment rest ih =>
      rw [reexportAfter?_cons] at h
      cases hnext : t.reexport? (joinPath module) segment with
      | some target =>
          rw [hnext] at h
          rw [walkFrom_cons_of_eq_some hnext, ← Option.some.inj h]
      | none =>
          rw [hnext] at h
          rw [walkFrom_cons_of_eq_none hnext]
          exact ih h

theorem walkFrom_none (module path : List String) :
    t.walkFrom none module path = module ++ path := by
  induction path generalizing module with
  | nil => rw [walkFrom, List.append_nil]
  | cons segment rest ih =>
      rw [walkFrom, ih, List.append_assoc]
      · rfl
      · intro f target hf
        cases hf

theorem walk_none (path : List String) : t.walk none path = path := by
  cases path with
  | nil => rfl
  | cons root rest => exact walkFrom_none [root] rest

/-- **A path without re-exports** is followed to itself. -/
theorem walk_of_eq_none {follow : Option (String → List String → List String)} {path : List String}
    (h : t.reexportAlong? path = none) : t.walk follow path = path := by
  cases path with
  | nil => rfl
  | cons root rest => exact walkFrom_of_eq_none h

/-- **The first re-export on the way** sends the rest of the path to where the import leads. -/
theorem walk_of_eq_some {f : String → List String → List String} {path : List String} {r : Reexport}
    (h : t.reexportAlong? path = some r) :
    t.walk (some f) path = f r.source.module r.source.segments ++ r.rest := by
  cases path with
  | nil => cases h
  | cons root rest => exact walkFrom_of_eq_some h

/-! ## First words -/

/-- The absolute form of a path that starts with one of the words `crate`, `self` and `super`. -/
def anchor? (module : String) : List String → Option (List String)
  | [] => none
  | first :: rest =>
      if first == "crate" then some (first :: rest)
      else if first == "self" then some (pathSegments module ++ rest)
      else if first == "super" then some (climb (pathSegments module) (first :: rest))
      else none

/-- What follows re-exports where so many may still be followed. -/
def follower (t : ScopeTable) (budget : Nat) : Option (String → List String → List String) :=
  if budget = 0 then none else some (t.absolute budget)

/-- **A path that starts with one of the words** is made absolute and followed. -/
theorem absolute_of_anchor {module : String} {path whole : List String}
    (h : anchor? module path = some whole) (budget : Nat) :
    t.absolute (budget + 1) module path = t.walk (t.follower budget) whole := by
  cases path with
  | nil => cases h
  | cons first rest =>
      rw [anchor?] at h
      unfold absolute
      dsimp only
      split at h
      · rename_i hcrate
        rw [if_pos hcrate, ← Option.some.inj h]
        rfl
      · rename_i hcrate
        rw [if_neg hcrate]
        split at h
        · rename_i hself
          rw [if_pos hself, ← Option.some.inj h]
          rfl
        · rename_i hself
          rw [if_neg hself]
          split at h
          · rename_i hsuper
            rw [if_pos hsuper, ← Option.some.inj h]
            rfl
          · cases h

/-- **Any other path** is looked up by its first segment. -/
theorem absolute_of_relative {module first : String} {rest : List String}
    (h : anchor? module (first :: rest) = none) (budget : Nat) :
    t.absolute (budget + 1) module (first :: rest) =
      t.relative (t.absolute budget) (t.walk (t.follower budget))
        (t.walk (t.follower (budget - 1))) module first rest := by
  rw [anchor?] at h
  split at h
  · cases h
  · rename_i hcrate
    split at h
    · cases h
    · rename_i hself
      split at h
      · cases h
      · rename_i hsuper
        unfold absolute
        dsimp only
        rw [if_neg hcrate, if_neg hself, if_neg hsuper]
        rcases budget with _ | _ | budget <;> rfl

end ScopeTable
end FixtureFactory
