import FixtureFactory.Proofs.PathFollowing
import FixtureFactory.Proofs.SourceScopes

/-!
# Spellings of a declared type

A type can be written in many ways: by its absolute path, from its own module or one above it, by a
name that it or its module is imported under, or as one of the names of a module that is imported as
a whole.  Each of them takes another way through the resolution, and all of them end in the path
under which the type is declared.  They do so at any depth and whatever else the table holds, as
long as every module on the way to the type is declared in its parent, so that nothing on the way is
taken for a re-export.

* `ScopeTable.IsReached`: every segment of a module's path is declared in its parent.
* `ScopeTable.reexportAlong?_of_isReached`: nothing is re-exported on the way to such a module.
* `ScopeTable.Names`: the ways of writing an absolute path where something is imported.
* `ScopeTable.Spells`: the ways of writing a type of a module in another module.
* `ScopeTable.resolvePath_of_spells`: all of them are resolved to the path of the type.
-/

namespace FixtureFactory
namespace ScopeTable

variable {t : ScopeTable}

/-! ## Declared paths -/

/-- Whether every segment after a module is declared in its parent. -/
def DeclaredAfter (t : ScopeTable) (module : List String) : List String → Prop
  | [] => True
  | segment :: rest =>
      t.Declares (joinPath module) segment ∧ t.DeclaredAfter (module ++ [segment]) rest

/-- Whether every segment of a module's path below the first is declared in its parent. -/
def IsReached (t : ScopeTable) (module : String) : Prop :=
  t.DeclaredAfter ((pathSegments module).take 1) ((pathSegments module).drop 1)

theorem reexport?_of_declares {module segment : String} (h : t.Declares module segment) :
    t.reexport? module segment = none := by
  obtain ⟨s, hscope, hdeclares⟩ := h
  rw [reexport?, hscope]
  exact if_pos hdeclares

theorem reexportAfter?_of_declaredAfter {module path : List String}
    (h : t.DeclaredAfter module path) : t.reexportAfter? module path = none := by
  induction path generalizing module with
  | nil => rfl
  | cons segment rest ih =>
      rw [reexportAfter?_cons, reexport?_of_declares h.1]
      exact ih h.2

theorem IsReached.exists_segments {home : String} (hreached : t.IsReached home)
    (hbelow : IsBelowRoot home) : ∃ below, pathSegments home = "crate" :: below ∧
      t.reexportAfter? ["crate"] below = none := by
  obtain ⟨below, hsegments⟩ := hbelow.exists_pathSegments
  refine ⟨below, hsegments, reexportAfter?_of_declaredAfter ?_⟩
  rw [IsReached, hsegments] at hreached
  exact hreached

/-- **Nothing is re-exported on the way to a declared module.** -/
theorem reexportAlong?_of_isReached {home : String} (hreached : t.IsReached home)
    (hbelow : IsBelowRoot home) : t.reexportAlong? (pathSegments home) = none := by
  obtain ⟨below, hsegments, hnone⟩ := hreached.exists_segments hbelow
  rw [hsegments]
  exact hnone

/-- **Nothing is re-exported on the way to a type of a declared module.** -/
theorem reexportAlong?_concat_of_isReached {home name : String} (hreached : t.IsReached home)
    (hbelow : IsBelowRoot home) (hname : t.Declares home name) :
    t.reexportAlong? (pathSegments home ++ [name]) = none := by
  obtain ⟨below, hsegments, hnone⟩ := hreached.exists_segments hbelow
  have hhome : joinPath (["crate"] ++ below) = home := by
    rw [List.singleton_append, ← hsegments, joinPath_pathSegments]
  rw [hsegments]
  refine (reexportAfter?_append hnone _).trans ?_
  rw [reexportAfter?_cons, hhome, reexport?_of_declares hname]
  rfl

/-! ## Words at the start of a path -/

/-- The words that a path may start with and that are no names. -/
def pathWords : List String := ["crate", "self", "super"]

theorem anchor?_eq_none {module first : String} (h : first ∉ pathWords) (rest : List String) :
    anchor? module (first :: rest) = none := by
  rw [pathWords, List.mem_cons, List.mem_cons, List.mem_singleton, not_or, not_or] at h
  rw [anchor?, if_neg (mt beq_iff_eq.mp h.1), if_neg (mt beq_iff_eq.mp h.2.1),
    if_neg (mt beq_iff_eq.mp h.2.2)]

theorem notMem_pathWords {name : String} (h : name ∉ Source.Lookahead.keywords) :
    name ∉ pathWords := by
  have hsub : pathWords ⊆ Source.Lookahead.keywords := by decide
  exact fun hname => h (hsub hname)

/-- **Every leading `super` leaves out one segment of the module.** -/
theorem climb_replicate (module : List String) (count : Nat) {remaining : List String}
    (h : remaining.head? ≠ some "super") :
    climb module (List.replicate count "super" ++ remaining) =
      module.take (module.length - count) ++ remaining := by
  induction count generalizing module with
  | zero =>
      rw [List.replicate_zero, List.nil_append, Nat.sub_zero, List.take_length, climb]
      intro rest hrest
      rw [hrest] at h
      exact h rfl
  | succ count ih =>
      rw [List.replicate_succ, List.cons_append, climb, ih, List.dropLast_eq_take,
        List.length_take, List.take_take]
      have hlength : min (min (module.length - 1) module.length - count) (module.length - 1) =
          module.length - (count + 1) := by omega
      rw [hlength]

/-! ## Spellings -/

/-- Whether a module imports a path under a name. -/
def Imports (t : ScopeTable) (module name : String) (target : List String) : Prop :=
  ∃ s, t.scope? module = some s ∧ s.import? name = some target

/-- The ways of writing an absolute path in a module, where something is imported: from a word, or
from a module that stands below and is not imported. -/
inductive Names (t : ScopeTable) (module : String) (whole : List String) : List String → Prop
  | word {path : List String} (h : anchor? module path = some whole) : Names t module whole path
  | child {first : String} {rest : List String} (hfirst : first ∉ pathWords)
      (himport : ∀ target, ¬ t.Imports module first target) (hdeclares : t.Declares module first)
      (hwhole : pathSegments module ++ first :: rest = whole) : Names t module whole (first :: rest)

/-- **The ways of writing a type** that is declared in a module `home`, in a module `module`. -/
inductive Spells (t : ScopeTable) (module home name : String) : List String → Prop
  /-- The absolute path. -/
  | absolute : Spells t module home name (pathSegments home ++ [name])
  /-- A path from the module itself. -/
  | self {below : List String} (h : pathSegments home = pathSegments module ++ below) :
      Spells t module home name ("self" :: (below ++ [name]))
  /-- A path from a module above. -/
  | super (count : Nat) (remaining : List String) (hcount : 0 < count)
      (hfirst : remaining.head? ≠ some "super")
      (h : (pathSegments module).take ((pathSegments module).length - count) ++ remaining =
        pathSegments home ++ [name]) :
      Spells t module home name (List.replicate count "super" ++ remaining)
  /-- The name, in the module of the type. -/
  | bare (h : module = home) (himport : ∀ target, ¬ t.Imports module name target) :
      Spells t module home name [name]
  /-- A name that the type is imported under. -/
  | imported {given : String} (h : t.Imports module given (pathSegments home ++ [name])) :
      Spells t module home name [given]
  /-- The name, in a module that is imported under a name.  The words at the start of paths are
  bound already. -/
  | throughModule {given : String} {target : List String} (hgiven : given ∉ pathWords)
      (h : t.Imports module given target) (htarget : t.Names module (pathSegments home) target) :
      Spells t module home name [given, name]
  /-- A name of the only module that is imported as a whole. -/
  | throughGlob {s : ModuleScope} {glob : List String} (hscope : t.scope? module = some s)
      (hglobs : s.globs = [glob]) (hglob : t.Names module (pathSegments home) glob)
      (himport : s.import? name = none) (hdeclares : s.declares name = false)
      (huniversal : name ∉ universalNames) : Spells t module home name [name]

section Resolving

variable {module home name first : String} {whole rest : List String}

/-- **What names an absolute path** without re-exports is resolved to it. -/
theorem absolute_of_names {path : List String} (h : t.Names module whole path)
    (hnone : t.reexportAlong? whole = none) (budget : Nat) :
    t.absolute (budget + 1) module path = whole := by
  cases h with
  | word h => rw [absolute_of_anchor h, walk_of_eq_none hnone]
  | child hfirst himport hdeclares hwhole =>
      rename_i first rest
      obtain ⟨s, hscope, hdeclares⟩ := hdeclares
      have hnot : s.import? first = none := by
        cases htarget : s.import? first with
        | none => rfl
        | some target => exact absurd ⟨s, hscope, htarget⟩ (himport target)
      rw [absolute_of_relative (anchor?_eq_none hfirst rest), relative, hscope]
      simp only [hnot, if_pos hdeclares]
      rw [hwhole, walk_of_eq_none hnone]

/-- **A path that starts with an imported name** goes on where the import leads, if nothing is
re-exported on the way. -/
theorem absolute_of_imports {target : List String} (hfirst : first ∉ pathWords)
    (h : t.Imports module first target) {base : List String} (htarget : t.Names module base target)
    (hbase : t.reexportAlong? base = none) (hnone : t.reexportAlong? (base ++ rest) = none)
    (budget : Nat) : t.absolute (budget + 2) module (first :: rest) = base ++ rest := by
  obtain ⟨s, hscope, himport⟩ := h
  rw [absolute_of_relative (anchor?_eq_none hfirst rest), relative, hscope]
  simp only [himport]
  rw [absolute_of_names htarget hbase, walk_of_eq_none hnone, ite_self]

/-- **A path that starts with a name of the only module imported as a whole** goes on in that
module, if nothing is re-exported on the way. -/
theorem absolute_of_glob {s : ModuleScope} {glob base : List String} (hfirst : first ∉ pathWords)
    (hscope : t.scope? module = some s) (himport : s.import? first = none)
    (hdeclares : s.declares first = false) (huniversal : first ∉ universalNames)
    (hglobs : s.globs = [glob]) (hglob : t.Names module base glob)
    (hbase : t.reexportAlong? base = none) (hmember : t.Declares (joinPath base) first)
    (hnone : t.reexportAlong? (base ++ first :: rest) = none) (budget : Nat) :
    t.absolute (budget + 2) module (first :: rest) = base ++ first :: rest := by
  have hknown : ¬ (rest.isEmpty && universalNames.contains first) = true := by
    rw [Bool.and_eq_true, List.contains_iff_mem]
    exact fun h => huniversal h.2
  obtain ⟨s', hscope', hmember⟩ := hmember
  have hfound : t.globWith? (t.absolute (budget + 1) module) first s.globs = some base := by
    rw [hglobs, globWith?, absolute_of_names hglob hbase]
    simp only [hscope', hmember, Bool.true_or, if_true]
  rw [absolute_of_relative (anchor?_eq_none hfirst rest), relative, hscope]
  simp only [himport, hdeclares, if_neg hknown, hfound]
  rw [walk_of_eq_none hnone]
  rfl

/-- **Every spelling of a type is resolved to its path**, in a table where the type stands below the
root and no name that cannot be one is imported. -/
theorem absolute_of_spells (ht : t.IsLawful) (hname : name ∉ Source.Lookahead.keywords)
    (hbelow : IsBelowRoot home) (hreached : t.IsReached home) (hdeclares : t.Declares home name)
    {path : List String} (h : t.Spells module home name path) (budget : Nat) :
    t.absolute (budget + 2) module path = pathSegments home ++ [name] := by
  have hhome : t.reexportAlong? (pathSegments home) = none :=
    reexportAlong?_of_isReached hreached hbelow
  have hwhole : t.reexportAlong? (pathSegments home ++ [name]) = none :=
    reexportAlong?_concat_of_isReached hreached hbelow hdeclares
  obtain ⟨below, hsegments⟩ := hbelow.exists_pathSegments
  have hcrate : ∀ module', anchor? module' (pathSegments home ++ [name]) =
      some (pathSegments home ++ [name]) := by
    intro module'
    rw [hsegments]
    rfl
  cases h with
  | absolute => exact absolute_of_names (.word (hcrate module)) hwhole _
  | self h =>
      refine absolute_of_names (.word ?_) hwhole _
      rw [h, List.append_assoc]
      rfl
  | super count remaining hcount hfirst h =>
      obtain ⟨count, rfl⟩ : ∃ n, count = n + 1 := ⟨count - 1, by omega⟩
      refine absolute_of_names (.word ?_) hwhole _
      rw [← h, ← climb_replicate _ _ hfirst]
      rfl
  | bare h himport =>
      rw [← h] at hdeclares
      refine absolute_of_names (.child (notMem_pathWords hname) himport hdeclares ?_) hwhole _
      rw [h]
  | imported h =>
      rename_i given
      obtain ⟨s, hscope, himport⟩ := h
      -- the import ends in the name of the type, which is no keyword
      have hgiven : given ∉ Source.Lookahead.keywords := by
        rcases ht.imports module s hscope given _ himport with hgiven | hlast
        · exact hgiven
        · rw [List.getLast?_concat] at hlast
          rw [← Option.some.inj hlast]
          exact hname
      have hend : t.reexportAlong? (pathSegments home ++ [name] ++ []) = none := by
        rw [List.append_nil]
        exact hwhole
      rw [absolute_of_imports (notMem_pathWords hgiven) ⟨s, hscope, himport⟩ (.word (hcrate module))
        hwhole hend budget, List.append_nil]
  | throughModule hgiven h htarget =>
      exact absolute_of_imports hgiven h htarget hhome hwhole budget
  | throughGlob hscope hglobs hglob himport hdeclares' huniversal =>
      have hmember : t.Declares (joinPath (pathSegments home)) name := by
        rw [joinPath_pathSegments]
        exact hdeclares
      exact absolute_of_glob (notMem_pathWords hname) hscope himport hdeclares' huniversal hglobs
        hglob hhome hmember hwhole budget

/-- **All spellings of a declared type agree.**  Over the scopes of sources, every way of writing a
type that is declared in some module is resolved to the path of the type, if every segment of the
module's path is declared in its parent.

Nothing is asked of the rest of the table.  The condition on the module keeps the way to the type
from being taken for a re-export, which would be followed before the type is found. -/
theorem resolvePath_of_spells {files : List SourceFile} {parsed : List ParsedFile}
    (hparsed : parseFiles files = .ok parsed)
    (htype : (name, memberPath home name) ∈ (scopesOf parsed).types)
    (hreached : (scopesOf parsed).IsReached home) {path : List String}
    (h : (scopesOf parsed).Spells module home name path) :
    (scopesOf parsed).resolvePath module path = memberPath home name := by
  have hlawful := isLawful_scopesOf hparsed
  obtain ⟨hname, declaring, hbelow, hpath, hdeclares⟩ := hlawful.types _ htype
  have hhome : declaring = home := by
    simp only [memberPath] at hpath
    exact (String.append_left_inj _).mp ((String.append_left_inj _).mp hpath).symm
  rw [hhome] at hbelow hdeclares
  have hresolved : (scopesOf parsed).absolute (maxReexports + 1) module path =
      pathSegments home ++ [name] :=
    absolute_of_spells hlawful hname hbelow hreached hdeclares h 15
  rw [resolvePath, hresolved, joinPath_concat (pathSegments_ne_nil home), joinPath_pathSegments]
  rfl

/-- A record, and a module that imports the module of the record under another name. -/
def peopleSources : List SourceFile :=
  [⟨"model.rs", "struct Person {}"⟩, ⟨"api.rs", "use crate::model as people;"⟩]

/-- The record is found through the imported module, and by a path from the module above. -/
theorem resolvePath_of_spells_people :
    ∃ parsed, parseFiles peopleSources = .ok parsed ∧
      ("Person", memberPath "crate::model" "Person") ∈ (scopesOf parsed).types ∧
      (scopesOf parsed).IsReached "crate::model" ∧
      (scopesOf parsed).resolvePath "crate::api" ["people", "Person"] = "crate::model::Person" ∧
      (scopesOf parsed).resolvePath "crate::api" ["super", "model", "Person"] =
        "crate::model::Person" := by
  have hindexed : (parseFiles peopleSources).map (fun parsed =>
      ((scopesOf parsed).types, ((scopesOf parsed).scope? "crate").map (·.declares "model"),
        ((scopesOf parsed).scope? "crate::api").map (·.import? "people"))) =
      .ok ([("Person", "crate::model::Person")], some true, some (some ["crate", "model"])) := by
    decide +kernel
  obtain ⟨parsed, hparsed, hindexed⟩ := exceptMap_eq_ok_iff.mp hindexed
  obtain ⟨htypes, hindexed⟩ := Prod.mk.inj hindexed
  obtain ⟨hroot, hapi⟩ := Prod.mk.inj hindexed
  have htype : ("Person", memberPath "crate::model" "Person") ∈ (scopesOf parsed).types := by
    rw [← htypes]
    exact List.mem_singleton_self _
  have hmodel : (scopesOf parsed).Declares "crate" "model" :=
    Option.map_eq_some_iff.mp hroot.symm
  have hreached : (scopesOf parsed).IsReached "crate::model" := ⟨hmodel, trivial⟩
  have hpeople : (scopesOf parsed).Imports "crate::api" "people" ["crate", "model"] :=
    Option.map_eq_some_iff.mp hapi.symm
  refine ⟨parsed, hparsed, htype, hreached, ?_, ?_⟩
  · exact resolvePath_of_spells hparsed htype hreached
      (.throughModule (by decide) hpeople (.word (by decide)))
  · exact resolvePath_of_spells hparsed htype hreached
      (.super 1 ["model", "Person"] (by decide) (by decide) (by decide))

end Resolving

end ScopeTable
end FixtureFactory
