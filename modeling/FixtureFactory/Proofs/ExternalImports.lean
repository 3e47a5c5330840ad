import FixtureFactory.Proofs.Spellings

/-!
# Imports from other packages

What another package declares is not in the table, so the path that a name is imported from should
take the place of the name, and whatever follows the name should stay.  The resolution does not stop
there, though: it resolves the imported path in the same module, since that path may start with a
name of the module in turn.

* Where the package's name is not imported itself, it is found nowhere, and the path stays as it is
  (`ScopeTable.absolute_of_unknown`).
* Where it is imported, it is imported from the package, as macros of the package's name are.  The
  path of that import starts with the package's name again.  So the resolution comes back to where
  it was until the budget is used up, and on the way out every round adds what the import has after
  the package's name (`ScopeTable.absolute_of_reimported`).

So the imported path is what a name is resolved to exactly if no segment comes after the package's
name where that is imported (`ScopeTable.resolvePath_external_iff`).
-/

namespace FixtureFactory

/-- Whether a name at the start of a path stands for another package: it is none of the words that a
path may start with, it is not declared, and wherever it is imported from starts with itself. -/
structure ModuleScope.IsExternal (s : ModuleScope) (name : String) : Prop where
  notMem_pathWords : name ∉ ScopeTable.pathWords
  declares : s.declares name = false
  imports : ∀ target, s.import? name = some target → target.head? = some name

/-- The segments after the first where a name is imported from. -/
def ModuleScope.segmentsAfter (s : ModuleScope) (name : String) : List String :=
  ((s.import? name).map List.tail).getD []

/-- A path that has more segments in the middle has another text. -/
theorem joinPath_ne_of_inserted {path inserted below : List String} (hpath : path ≠ [])
    (hinserted : inserted ≠ []) (hbelow : below ≠ []) :
    joinPath (path ++ (inserted ++ below)) ≠ joinPath (path ++ below) := by
  intro h
  have hmiddle : inserted ++ below ≠ [] := List.append_ne_nil_of_left_ne_nil hinserted below
  rw [joinPath_append hpath hmiddle, joinPath_append hpath hbelow,
    joinPath_append hinserted hbelow] at h
  have hlength := congrArg String.length h
  simp only [String.length_append] at hlength
  have hseparator : ("::" : String).length = 2 := rfl
  omega

namespace ScopeTable

variable {t : ScopeTable} {module name head : String} {s : ModuleScope}

/-- **A path that starts with an imported name** goes on where the import leads, if that is no path
below the root. -/
theorem absolute_of_import {target base rest : List String} {budget : Nat}
    (hname : name ∉ pathWords) (hscope : t.scope? module = some s)
    (himport : s.import? name = some target) (hbase : t.absolute budget module target = base)
    (hhead : base.head? = some head) (hexternal : head ∉ pathWords) :
    t.absolute (budget + 1) module (name :: rest) = base ++ rest := by
  have hcrate : ((base ++ rest).head? == some "crate") = false := by
    obtain ⟨below, rfl⟩ := List.head?_eq_some_iff.mp hhead
    refine beq_eq_false_iff_ne.mpr fun h => hexternal ?_
    rw [Option.some.inj h]
    exact List.mem_cons_self
  rw [absolute_of_relative (anchor?_eq_none hname rest), relative, hscope]
  simp only [himport, hbase, hcrate, Bool.false_and, Bool.false_eq_true, if_false]

/-- **A path that starts with a name that is found nowhere** stays as it is. -/
theorem absolute_of_unknown {tail : List String} (hscope : t.scope? module = some s)
    (hglobs : s.globs = []) (hexternal : s.IsExternal head) (himport : s.import? head = none)
    (htail : tail ≠ []) (budget : Nat) : t.absolute budget module (head :: tail) = head :: tail := by
  cases budget with
  | zero => rfl
  | succ budget =>
      have hempty : tail.isEmpty = false := List.isEmpty_eq_false_iff.mpr htail
      rw [absolute_of_relative (anchor?_eq_none hexternal.notMem_pathWords tail), relative, hscope]
      simp only [himport, hexternal.declares, hglobs, hempty, globWith?, Bool.false_and,
        Bool.false_eq_true, if_false]

/-- **A path that starts with a name imported from itself** goes round until the budget is used up,
and every round adds the segments that the import has after the name. -/
theorem absolute_of_reimported {again : List String} (hscope : t.scope? module = some s)
    (hexternal : s.IsExternal head) (himport : s.import? head = some (head :: again))
    (budget : Nat) (tail : List String) :
    t.absolute budget module (head :: tail) =
      head :: ((List.replicate budget again).flatten ++ tail) := by
  induction budget generalizing tail with
  | zero => rfl
  | succ budget ih =>
      rw [absolute_of_import hexternal.notMem_pathWords hscope himport (ih again) rfl
        hexternal.notMem_pathWords, List.replicate_succ', List.flatten_append,
        List.flatten_singleton]
      rfl

/-- A path into another package, in a module without modules imported as a whole. -/
theorem absolute_of_external {tail : List String} (hscope : t.scope? module = some s)
    (hglobs : s.globs = []) (hexternal : s.IsExternal head) (htail : tail ≠ []) (budget : Nat) :
    t.absolute budget module (head :: tail) =
      head :: ((List.replicate budget (s.segmentsAfter head)).flatten ++ tail) := by
  cases himport : s.import? head with
  | none =>
      have hafter : s.segmentsAfter head = [] := by rw [ModuleScope.segmentsAfter, himport]; rfl
      rw [absolute_of_unknown hscope hglobs hexternal himport htail, hafter]
      simp
  | some target =>
      obtain ⟨again, rfl⟩ := List.head?_eq_some_iff.mp (hexternal.imports target himport)
      have hafter : s.segmentsAfter head = again := by rw [ModuleScope.segmentsAfter, himport]; rfl
      rw [absolute_of_reimported hscope hexternal himport, hafter]

/-- **What a name is resolved to that is imported from another package.**  The imported path stands
in its place, with what the package's own import has after the name put in as often as the budget
allows. -/
theorem absolute_of_external_import {tail : List String} (hname : name ∉ pathWords)
    (hscope : t.scope? module = some s) (hglobs : s.globs = [])
    (himport : s.import? name = some (head :: tail)) (hexternal : s.IsExternal head)
    (htail : tail ≠ []) (budget : Nat) (rest : List String) :
    t.absolute (budget + 1) module (name :: rest) =
      head :: ((List.replicate budget (s.segmentsAfter head)).flatten ++ (tail ++ rest)) := by
  rw [absolute_of_import hname hscope himport
    (absolute_of_external hscope hglobs hexternal htail budget) rfl hexternal.notMem_pathWords,
    List.cons_append, List.append_assoc]

/-- **An imported path of another package is what its name is resolved to**, whatever follows the
name, exactly if the package's name is not imported or is imported alone.  The module has no modules
imported as a whole, and the name is none of the words that a path may start with.

Where the import of the package's name has something after that name, the name is resolved through
it again and again, up to the limit, and each round leaves what comes after. -/
theorem resolvePath_external_iff {tail : List String} (hname : name ∉ pathWords)
    (hscope : t.scope? module = some s) (hglobs : s.globs = [])
    (himport : s.import? name = some (head :: tail)) (hexternal : s.IsExternal head)
    (htail : tail ≠ []) (rest : List String) :
    t.resolvePath module (name :: rest) = joinPath (head :: tail ++ rest) ↔
      ∀ target, s.import? head = some target → target = [head] := by
  have hresolved : t.resolvePath module (name :: rest) = joinPath
      ([head] ++ ((List.replicate maxReexports (s.segmentsAfter head)).flatten ++ (tail ++ rest))) :=
    congrArg joinPath
      (absolute_of_external_import hname hscope hglobs himport hexternal htail maxReexports rest)
  have hwanted : head :: tail ++ rest = [head] ++ (tail ++ rest) := rfl
  rw [hresolved, hwanted]
  constructor
  · intro h target htarget
    obtain ⟨again, rfl⟩ := List.head?_eq_some_iff.mp (hexternal.imports target htarget)
    have hafter : s.segmentsAfter head = again := by rw [ModuleScope.segmentsAfter, htarget]; rfl
    rw [hafter] at h
    by_contra hagain
    have hinserted : (List.replicate maxReexports again).flatten ≠ [] := by
      rw [maxReexports, List.replicate_succ, List.flatten_cons]
      exact List.append_ne_nil_of_left_ne_nil (fun hnil => hagain (by rw [hnil])) _
    exact joinPath_ne_of_inserted (List.cons_ne_nil _ _) hinserted
      (List.append_ne_nil_of_left_ne_nil htail rest) h
  · intro h
    have hafter : s.segmentsAfter head = [] := by
      rw [ModuleScope.segmentsAfter]
      cases htarget : s.import? head with
      | none => rfl
      | some target =>
          rw [h target htarget]
          rfl
    rw [hafter]
    simp

/-- A module that imports a type of a package under a name of its own, and the package's name. -/
def clock : ScopeTable :=
  ((empty.declareModule "crate" "clock").addUse "crate::clock"
    (.path "chrono" (.group [.rename "DateTime" "Moment", .name "self"])))

/-- The name stands for the type of the package, with an associated type after it too. -/
theorem resolvePath_external_clock :
    clock.resolvePath "crate::clock" ["Moment"] = "chrono::DateTime" ∧
      clock.resolvePath "crate::clock" ["Moment", "Zone"] = "chrono::DateTime::Zone" := by
  have hscope : ∃ s, clock.scope? "crate::clock" = some s ∧ s.globs = [] ∧
      s.import? "Moment" = some ["chrono", "DateTime"] ∧ s.import? "chrono" = some ["chrono"] ∧
      s.declares "chrono" = false := ⟨_, rfl, by decide +kernel⟩
  obtain ⟨s, hscope, hglobs, hmoment, hchrono, hdeclares⟩ := hscope
  have honly : ∀ target, s.import? "chrono" = some target → target = ["chrono"] := fun target h =>
    (Option.some.inj (hchrono.symm.trans h)).symm
  have hexternal : s.IsExternal "chrono" := by
    refine ⟨by decide, hdeclares, fun target h => ?_⟩
    rw [honly target h]
    rfl
  have hresolved : ∀ rest, clock.resolvePath "crate::clock" ("Moment" :: rest) =
      joinPath ("chrono" :: ["DateTime"] ++ rest) := fun rest =>
    (resolvePath_external_iff (by decide) hscope hglobs hmoment hexternal (List.cons_ne_nil _ _)
      rest).mpr honly
  exact ⟨hresolved [], hresolved ["Zone"]⟩

/-- A module that imports a type of a package and the macro that has the package's name. -/
def failing : ScopeTable :=
  ((empty.declareModule "crate" "load").addUse "crate::load"
    (.path "anyhow" (.group [.name "anyhow", .name "Error"])))

/-- **The type is not resolved to the path that it is imported from**, though the module declares
nothing and imports nothing as a whole, and everything that it imports comes from the package. -/
theorem resolvePath_ne_import_of_failing :
    ∃ s, failing.scope? "crate::load" = some s ∧ s.globs = [] ∧ s.items = [] ∧
      s.imports = [("Error", ["anyhow", "Error"]), ("anyhow", ["anyhow", "anyhow"])] ∧
      failing.resolvePath "crate::load" ["Error"] =
        joinPath ("anyhow" :: List.replicate 16 "anyhow" ++ ["Error"]) ∧
      failing.resolvePath "crate::load" ["Error"] ≠ joinPath ["anyhow", "Error"] := by
  exact ⟨_, rfl, by decide +kernel⟩

end ScopeTable
end FixtureFactory
