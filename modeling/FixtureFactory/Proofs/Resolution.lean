import FixtureFactory.Proofs.PathFollowing
import FixtureFactory.Proofs.PathTexts
import Mathlib.Data.List.Nodup
import Mathlib.Data.List.Perm.Subperm
import Mathlib.Logic.Relation

/-!
# Resolving what has been resolved

A resolution follows one re-export on the way of a path and puts the segments that are left behind
what it has found.  It does not look for re-exports among those, so the result may be a path that
resolves to another one: a module can be re-exported by one module and re-export its types from a
third, and a path through both stops at the second.

Where nothing is re-exported at or below the places that imports lead to, a result is final.  The
budget has to be shown not to matter there.  A resolution asks for one import, that import for the
next, and no import comes twice if imports form no cycle; so the number of imports bounds how many
of them are followed.

* `ScopeTable.leads`: the imports that the resolution of a path asks for.
* `ScopeTable.endsWithin_of_acyclic`: without a cycle, chains of imports are as short as the table.
* `ScopeTable.step`: one step of a resolution; `ScopeTable.step_congr` says what it depends on.
* `ScopeTable.resolveBy`: the step in which re-exports lead where imports lead.
* `ScopeTable.absolute_eq_of_endsWithin`: resolving is such a step, if the chains fit into the
  budget.
* `ScopeTable.resolved_idempotent`: what has been resolved is resolved to itself.
* `ScopeTable.resolved_chained_ne`: a path through two re-exports is not.
-/

namespace FixtureFactory

/-- The paths that a scope imports, whole modules included, as they are written. -/
def ModuleScope.targets (s : ModuleScope) : List (List String) := s.imports.values ++ s.globs

namespace ScopeTable

variable {t : ScopeTable}

/-! ## Chains of imports -/

/-- The imports of a table. -/
def imports (t : ScopeTable) : List WrittenPath :=
  t.scopes.flatMap fun entry => entry.2.targets.map fun target => ⟨entry.1, target⟩

/-- The import that an absolute path meets first. -/
def firstAlong (t : ScopeTable) (path : List String) : List WrittenPath :=
  ((t.reexportAlong? path).map Reexport.source).toList

/-- The imports that a name at the start of a path asks for: the import of the name, the first
re-export below a declared module, or the modules that are imported as a whole. -/
def leadsOfName (t : ScopeTable) (module first : String) (rest : List String) :
    List WrittenPath :=
  match t.scope? module with
  | none => []
  | some s =>
      match s.import? first with
      | some target => [⟨module, target⟩]
      | none =>
          if s.declares first then t.firstAlong (pathSegments module ++ first :: rest)
          else if rest.isEmpty && universalNames.contains first then []
          else s.globs.map fun glob => ⟨module, glob⟩

/-- The imports that the resolution of a path asks for. -/
def leads (t : ScopeTable) (module : String) : List String → List WrittenPath
  | [] => []
  | first :: rest =>
      match anchor? module (first :: rest) with
      | some path => t.firstAlong path
      | none => t.leadsOfName module first rest

/-- Whether the resolution of one import asks for another. -/
def LeadsTo (t : ScopeTable) (w w' : WrittenPath) : Prop := w' ∈ t.leads w.module w.segments

/-- Whether no import leads back to itself. -/
def Acyclic (t : ScopeTable) : Prop := ∀ w, ¬ Relation.TransGen t.LeadsTo w w

/-- Whether every chain of imports from some written path ends within so many steps. -/
def EndsWithin (t : ScopeTable) : Nat → WrittenPath → Prop
  | 0, w => t.leads w.module w.segments = []
  | n + 1, w => ∀ w' ∈ t.leads w.module w.segments, t.EndsWithin n w'

/-- The chains are followed step by step. -/
instance decidableEndsWithin (t : ScopeTable) : (n : Nat) → (w : WrittenPath) →
    Decidable (t.EndsWithin n w)
  | 0, w => inferInstanceAs (Decidable (t.leads w.module w.segments = []))
  | n + 1, w =>
      haveI := decidableEndsWithin t n
      inferInstanceAs (Decidable (∀ w' ∈ t.leads w.module w.segments, t.EndsWithin n w'))

theorem mem_imports {module : String} {s : ModuleScope} {target : List String}
    (hscope : t.scope? module = some s) (htarget : target ∈ s.targets) :
    ⟨module, target⟩ ∈ t.imports :=
  List.mem_flatMap.mpr
    ⟨(module, s), SortedMap.mem_of_find? hscope, List.mem_map.mpr ⟨target, htarget, rfl⟩⟩

theorem mem_targets_of_import? {s : ModuleScope} {name : String} {target : List String}
    (h : s.import? name = some target) : target ∈ s.targets :=
  List.mem_append_left _ (List.mem_map.mpr ⟨(name, target), SortedMap.mem_of_find? h, rfl⟩)

theorem mem_imports_of_reexport? {module segment : String} {target : List String}
    (h : t.reexport? module segment = some target) : ⟨module, target⟩ ∈ t.imports := by
  rw [reexport?] at h
  split at h
  · rename_i s hscope
    split at h
    · cases h
    · exact mem_imports hscope (mem_targets_of_import? h)
  · cases h

theorem mem_firstAlong {path : List String} {r : Reexport} (h : t.reexportAlong? path = some r) :
    r.source ∈ t.firstAlong path := by
  rw [firstAlong, h]
  exact List.mem_singleton_self _

/-- A re-export after a module is an import of the table. -/
theorem mem_imports_of_reexportAfter? {module path : List String} {r : Reexport}
    (h : t.reexportAfter? module path = some r) : r.source ∈ t.imports := by
  induction path generalizing module with
  | nil => cases h
  | cons segment rest ih =>
      rw [reexportAfter?_cons] at h
      cases hnext : t.reexport? (joinPath module) segment with
      | some target =>
          rw [hnext] at h
          rw [← Option.some.inj h]
          exact mem_imports_of_reexport? hnext
      | none =>
          rw [hnext] at h
          exact ih h

theorem mem_imports_of_mem_firstAlong {path : List String} {w : WrittenPath}
    (h : w ∈ t.firstAlong path) : w ∈ t.imports := by
  rw [firstAlong, Option.mem_toList, Option.map_eq_some_iff] at h
  obtain ⟨r, hr, rfl⟩ := h
  cases path with
  | nil => cases hr
  | cons root rest => exact mem_imports_of_reexportAfter? hr

/-- **A resolution asks for imports of the table only.** -/
theorem mem_imports_of_leadsTo {w w' : WrittenPath} (h : t.LeadsTo w w') : w' ∈ t.imports := by
  obtain ⟨module, path⟩ := w
  rw [LeadsTo] at h
  cases path with
  | nil => cases h
  | cons first rest =>
      rw [leads] at h
      cases hanchor : anchor? module (first :: rest) with
      | some path =>
          rw [hanchor] at h
          exact mem_imports_of_mem_firstAlong h
      | none =>
          rw [hanchor] at h
          simp only [leadsOfName] at h
          split at h
          · cases h
          · rename_i s hscope
            split at h
            · rename_i target htarget
              rw [List.mem_singleton.mp h]
              exact mem_imports hscope (mem_targets_of_import? htarget)
            · split at h
              · exact mem_imports_of_mem_firstAlong h
              · split at h
                · cases h
                · obtain ⟨glob, hglob, rfl⟩ := List.mem_map.mp h
                  exact mem_imports hscope (List.mem_append_right _ hglob)

/-- Imports that have led to a written path, none of them twice. -/
structure IsBehind (t : ScopeTable) (behind : List WrittenPath) (w : WrittenPath) : Prop where
  nodup : behind.Nodup
  subset : behind ⊆ t.imports
  leads : ∀ v ∈ behind, Relation.ReflTransGen t.LeadsTo v w

/-- **A step of a chain** reaches an import that is not behind. -/
theorem IsBehind.step {behind : List WrittenPath} {w w' : WrittenPath} (hacyclic : t.Acyclic)
    (h : t.IsBehind behind w) (hlead : t.LeadsTo w w') : t.IsBehind (w' :: behind) w' := by
  have hnew : w' ∉ behind := by
    intro hmem
    exact hacyclic w' (Relation.TransGen.tail' (h.leads w' hmem) hlead)
  refine ⟨List.nodup_cons.mpr ⟨hnew, h.nodup⟩,
    List.cons_subset.mpr ⟨mem_imports_of_leadsTo hlead, h.subset⟩, ?_⟩
  intro v hv
  rcases List.mem_cons.mp hv with rfl | hv
  · exact .refl
  · exact (h.leads v hv).tail hlead

/-- **No more imports are behind than there are.** -/
theorem IsBehind.length_le {behind : List WrittenPath} {w : WrittenPath} (h : t.IsBehind behind w) :
    behind.length ≤ t.imports.length :=
  (h.nodup.subperm h.subset).length_le

/-- Without a cycle, a chain ends when all imports are behind.  The induction is on the steps that
are left. -/
theorem IsBehind.endsWithin {n : Nat} {behind : List WrittenPath} {w : WrittenPath}
    (hacyclic : t.Acyclic) (h : t.IsBehind behind w)
    (hlength : t.imports.length ≤ n + behind.length) : t.EndsWithin n w := by
  induction n generalizing behind w with
  | zero =>
      refine List.eq_nil_iff_forall_not_mem.mpr fun w' hlead => ?_
      have hle := (h.step hacyclic hlead).length_le
      rw [List.length_cons] at hle
      omega
  | succ n ih =>
      intro w' hlead
      refine ih (h.step hacyclic hlead) ?_
      rw [List.length_cons]
      omega

/-- **Without a cycle, no chain of imports is longer than their number.** -/
theorem endsWithin_of_acyclic (hacyclic : t.Acyclic) (w : WrittenPath) :
    t.EndsWithin t.imports.length w := by
  have hstart : t.IsBehind [] w :=
    ⟨List.nodup_nil, List.nil_subset _, fun v hv => absurd hv List.not_mem_nil⟩
  exact hstart.endsWithin hacyclic (Nat.le_add_right _ _)

/-- On a cycle, no chain ends. -/
theorem not_endsWithin_of_transGen {n : Nat} {w : WrittenPath}
    (hcycle : Relation.TransGen t.LeadsTo w w) : ¬ t.EndsWithin n w := by
  obtain ⟨w', hlead, hback⟩ := Relation.TransGen.head'_iff.mp hcycle
  induction n generalizing w w' with
  | zero =>
      intro hends
      rw [LeadsTo, hends] at hlead
      cases hlead
  | succ n ih =>
      intro hends
      have hcycle' : Relation.TransGen t.LeadsTo w' w' := Relation.TransGen.tail' hback hlead
      obtain ⟨w'', hlead', hback'⟩ := Relation.TransGen.head'_iff.mp hcycle'
      exact ih hcycle' w'' hlead' hback' (hends w' hlead)

/-- **Imports form no cycle exactly if the chains from all of them end.** -/
theorem acyclic_iff_endsWithin :
    t.Acyclic ↔ ∀ w ∈ t.imports, t.EndsWithin t.imports.length w := by
  refine ⟨fun hacyclic w _ => endsWithin_of_acyclic hacyclic w, fun hends w hcycle => ?_⟩
  obtain ⟨v, -, hlead⟩ := Relation.TransGen.tail'_iff.mp hcycle
  exact not_endsWithin_of_transGen hcycle (hends w (mem_imports_of_leadsTo hlead))

/-- The chains from all imports are followed. -/
instance (t : ScopeTable) : Decidable t.Acyclic := decidable_of_iff' _ acyclic_iff_endsWithin

/-! ## One step of a resolution -/

section Step

variable {lead : String → List String → List String} {module first : String}
  {path rest : List String}

/-- The path that a written one refers to, from where imports lead. -/
def resolveBy (t : ScopeTable) (lead : String → List String → List String) (module : String) :
    List String → List String
  | [] => []
  | first :: rest =>
      match anchor? module (first :: rest) with
      | some path => t.walk (some lead) path
      | none => t.relative lead (t.walk (some lead)) (t.walk (some lead)) module first rest

/-- Whether nothing is re-exported at or below where an import leads. -/
def IsFinal (t : ScopeTable) (lead : String → List String → List String) (w : WrittenPath) : Prop :=
  ∀ below, t.reexportAlong? (lead w.module w.segments ++ below) = none

/-- **Where no module stands at or below a path** without re-exports, the path is final. -/
theorem isFinal_of_scopes {w : WrittenPath} (hne : lead w.module w.segments ≠ [])
    (hnone : t.reexportAlong? (lead w.module w.segments) = none)
    (hscopes : ∀ entry ∈ t.scopes,
      ¬ (joinPath (lead w.module w.segments)).toList <+: entry.1.toList) : t.IsFinal lead w := by
  intro below
  obtain ⟨root, rest, hpath⟩ := List.exists_cons_of_ne_nil hne
  rw [hpath] at hnone hscopes ⊢
  refine (reexportAfter?_append hnone _).trans (reexportAfter?_of_scopes ?_)
  intro above entry hentry hmodule
  refine hscopes entry hentry ?_
  rw [← hmodule]
  exact toList_joinPath_prefix (root :: rest) above

theorem globWith?_congr {resolve resolve' : List String → List String} {name : String}
    {globs : List (List String)} (h : ∀ glob ∈ globs, resolve glob = resolve' glob) :
    t.globWith? resolve name globs = t.globWith? resolve' name globs := by
  induction globs with
  | nil => rfl
  | cons glob globs ih =>
      have hrest := ih fun glob hglob => h glob (List.mem_cons_of_mem _ hglob)
      rw [globWith?, globWith?, h glob List.mem_cons_self, hrest]

/-- What is found among modules imported as a whole is where one of them leads. -/
theorem exists_of_globWith? {resolve : List String → List String} {name : String}
    {globs : List (List String)} {base : List String}
    (h : t.globWith? resolve name globs = some base) : ∃ glob ∈ globs, base = resolve glob := by
  induction globs with
  | nil => cases h
  | cons glob globs ih =>
      have hrest : t.globWith? resolve name globs = some base →
          ∃ glob' ∈ glob :: globs, base = resolve glob' := by
        intro hfound
        obtain ⟨glob', hglob, hbase⟩ := ih hfound
        exact ⟨glob', List.mem_cons_of_mem _ hglob, hbase⟩
      simp only [globWith?] at h
      split at h
      · split at h
        · exact ⟨glob, List.mem_cons_self, (Option.some.inj h).symm⟩
        · exact hrest h
      · exact hrest h

/-- How a path that starts with a name is resolved.  Either its module imports the name, or it
declares the name, or the name is looked for in the modules that are imported as a whole.  Where it
is not found in those, the path stays as it is written or is that of a declared type. -/
inductive NameLookup (t : ScopeTable) (module first : String) (rest : List String) : Prop
  | imported (target : List String) (hleads : t.leadsOfName module first rest = [⟨module, target⟩])
      (heq : ∀ lead here below, t.relative lead here below module first rest =
        if (lead module target ++ rest).head? == some "crate" && !rest.isEmpty
        then below (lead module target ++ rest) else lead module target ++ rest)
  | declared
      (hleads : t.leadsOfName module first rest =
        t.firstAlong (pathSegments module ++ first :: rest))
      (heq : ∀ lead here below, t.relative lead here below module first rest =
        here (pathSegments module ++ first :: rest))
  | elsewhere (globs : List (List String)) (fallback : List String)
      (hleads : t.leadsOfName module first rest = globs.map fun glob => ⟨module, glob⟩)
      (hfallback : fallback = first :: rest ∨ ∃ d ∈ t.types, fallback = pathSegments d.2)
      (heq : ∀ lead here below, t.relative lead here below module first rest =
        (t.globWith? (lead module) first globs).elim fallback fun base =>
          below (base ++ first :: rest))

theorem exists_of_uniqueType? {name path : String} (h : t.uniqueType? name = some path) :
    ∃ d ∈ t.types, path = d.2 := by
  rw [uniqueType?] at h
  split at h
  · rename_i found _ hfilter
    have hmem : (found, path) ∈ t.types.filter (·.1 == name) := by
      rw [hfilter, Option.some.inj h]
      exact List.mem_singleton_self _
    exact ⟨_, (List.mem_filter.mp hmem).1, rfl⟩
  · cases h

/-- **Every name is looked up in one of these ways.** -/
theorem nameLookup (t : ScopeTable) (module first : String) (rest : List String) :
    t.NameLookup module first rest := by
  cases hscope : t.scope? module with
  | none =>
      refine .elsewhere [] (first :: rest) ?_ (Or.inl rfl) ?_
      · rw [leadsOfName, hscope, List.map_nil]
      · intro lead here below
        rw [relative, hscope]
        rfl
  | some s =>
      cases htarget : s.import? first with
      | some target =>
          refine .imported target ?_ ?_
          · simp only [leadsOfName, hscope, htarget]
          · intro lead here below
            simp only [relative, hscope, htarget]
      | none =>
          by_cases hdeclares : s.declares first = true
          · refine .declared ?_ ?_
            · simp only [leadsOfName, hscope, htarget, if_pos hdeclares]
            · intro lead here below
              simp only [relative, hscope, htarget, if_pos hdeclares]
          · by_cases huniversal : (rest.isEmpty && universalNames.contains first) = true
            · have hrest : rest = [] := List.isEmpty_iff.mp (Bool.and_eq_true_iff.mp huniversal).1
              refine .elsewhere [] (first :: rest) ?_ (Or.inl rfl) ?_
              · simp only [leadsOfName, hscope, htarget, if_neg hdeclares, if_pos huniversal,
                  List.map_nil]
              · intro lead here below
                simp only [relative, hscope, htarget, if_neg hdeclares, if_pos huniversal]
                rw [hrest]
                rfl
            · refine .elsewhere s.globs
                (((if rest.isEmpty then t.uniqueType? first else none).map pathSegments).getD
                  (first :: rest)) ?_ ?_ ?_
              · simp only [leadsOfName, hscope, htarget, if_neg hdeclares, if_neg huniversal]
              · cases hunique : if rest.isEmpty then t.uniqueType? first else none with
                | none => exact Or.inl rfl
                | some path =>
                    split at hunique
                    · obtain ⟨d, hd, rfl⟩ := exists_of_uniqueType? hunique
                      exact Or.inr ⟨d, hd, rfl⟩
                    · cases hunique
              · intro lead here below
                simp only [relative, hscope, htarget, if_neg hdeclares, if_neg huniversal]
                cases t.globWith? (lead module) first s.globs with
                | some base => rfl
                | none =>
                    cases if rest.isEmpty then t.uniqueType? first else none <;> rfl

/-- **Following a path by where imports lead** takes no more than that they agree on the first one.
-/
theorem walk_eq_of_firstAlong {follow : Option (String → List String → List String)}
    (h : ∀ w ∈ t.firstAlong path,
      ∃ f, follow = some f ∧ f w.module w.segments = lead w.module w.segments) :
    t.walk follow path = t.walk (some lead) path := by
  cases hr : t.reexportAlong? path with
  | none => rw [walk_of_eq_none hr, walk_of_eq_none hr]
  | some r =>
      obtain ⟨f, rfl, hlead⟩ := h _ (mem_firstAlong hr)
      rw [walk_of_eq_some hr, walk_of_eq_some hr, hlead]

/-- One step of a resolution.  `lead` says where imports lead, `here` follows an absolute path at
once, and `below` follows one behind an import. -/
def step (t : ScopeTable) (lead : String → List String → List String)
    (here below : List String → List String) (module : String) : List String → List String
  | [] => []
  | first :: rest =>
      match anchor? module (first :: rest) with
      | some path => here path
      | none => t.relative lead here below module first rest

/-- **Every step of a resolution** has fewer re-exports to go. -/
theorem absolute_succ (budget : Nat) (module : String) (path : List String) :
    t.absolute (budget + 1) module path =
      t.step (t.absolute budget) (t.walk (t.follower budget)) (t.walk (t.follower (budget - 1)))
        module path := by
  cases path with
  | nil => rfl
  | cons first rest =>
      cases hanchor : anchor? module (first :: rest) with
      | some whole =>
          rw [absolute_of_anchor hanchor]
          simp only [step, hanchor]
      | none =>
          rw [absolute_of_relative hanchor]
          simp only [step, hanchor]

theorem resolveBy_eq_step :
    t.resolveBy lead module path =
      t.step lead (t.walk (some lead)) (t.walk (some lead)) module path := by
  cases path <;> rfl

/-- Whether a step goes on along an absolute path behind an import. -/
def GoesOn (t : ScopeTable) (lead : String → List String → List String) (module : String)
    (path onward : List String) : Prop :=
  ∀ here below, t.step lead here below module path = below onward

/-- **What a step depends on**: where the imports lead that it asks for, and what becomes of the
absolute paths that it follows. -/
theorem step_congr {lead' : String → List String → List String}
    {here here' below below' : List String → List String}
    (hlead : ∀ w ∈ t.leads module path, lead w.module w.segments = lead' w.module w.segments)
    (hhere : ∀ whole, t.firstAlong whole ⊆ t.leads module path → here whole = here' whole)
    (hbelow : ∀ onward, t.GoesOn lead' module path onward → below onward = below' onward) :
    t.step lead here below module path = t.step lead' here' below' module path := by
  cases path with
  | nil => rfl
  | cons first rest =>
      unfold GoesOn at hbelow
      rw [leads] at hlead hhere
      simp only [step] at hbelow ⊢
      cases hanchor : anchor? module (first :: rest) with
      | some whole =>
          rw [hanchor] at hhere
          exact hhere whole (List.Subset.refl _)
      | none =>
          rw [hanchor] at hlead hhere hbelow
          simp only at hlead hhere hbelow ⊢
          cases t.nameLookup module first rest with
          | imported target hleads heq =>
              rw [hleads] at hlead
              have htarget := hlead _ (List.mem_singleton_self _)
              simp only at htarget
              rw [heq, heq, htarget]
              split
              · rename_i hcrate
                refine hbelow _ fun here below => ?_
                rw [heq, if_pos hcrate]
              · rfl
          | declared hleads heq =>
              rw [heq, heq]
              refine hhere _ ?_
              rw [hleads]
              exact List.Subset.refl _
          | elsewhere globs fallback hleads hfallback heq =>
              rw [hleads] at hlead
              have hglobs : ∀ glob ∈ globs, lead module glob = lead' module glob :=
                fun glob hglob => hlead _ (List.mem_map.mpr ⟨glob, hglob, rfl⟩)
              rw [heq, heq, globWith?_congr hglobs]
              cases hbase : t.globWith? (lead' module) first globs with
              | none => rfl
              | some base =>
                  refine hbelow _ fun here below => ?_
                  rw [heq, hbase]
                  rfl

/-- **A step goes on behind one of the imports that it asks for.** -/
theorem GoesOn.exists_lead {onward : List String} (h : t.GoesOn lead module path onward) :
    ∃ w ∈ t.leads module path, ∃ below, onward = lead w.module w.segments ++ below := by
  cases path with
  | nil => cases h id fun _ => [""]
  | cons first rest =>
      unfold GoesOn at h
      rw [leads]
      simp only [step] at h
      cases hanchor : anchor? module (first :: rest) with
      | some whole =>
          rw [hanchor] at h
          cases h (fun _ => []) fun _ => [""]
      | none =>
          rw [hanchor] at h
          simp only at h ⊢
          cases t.nameLookup module first rest with
          | imported target hleads heq =>
              rw [hleads]
              refine ⟨_, List.mem_singleton_self _, rest, ?_⟩
              have hpath := h id id
              rw [heq] at hpath
              split at hpath
              · exact hpath.symm
              · exact hpath.symm
          | declared hleads heq =>
              have hpath := h (fun _ => []) fun _ => [""]
              rw [heq] at hpath
              cases hpath
          | elsewhere globs fallback hleads hfallback heq =>
              rw [hleads]
              cases hbase : t.globWith? (lead module) first globs with
              | none =>
                  have hpath : ∀ below : List String → List String, fallback = below onward := by
                    intro below
                    have hfallback := h id below
                    rw [heq, hbase] at hfallback
                    exact hfallback
                  cases (hpath fun _ => []).symm.trans (hpath fun _ => [""])
              | some base =>
                  obtain ⟨glob, hglob, rfl⟩ := exists_of_globWith? hbase
                  refine ⟨_, List.mem_map_of_mem hglob, first :: rest, ?_⟩
                  have hpath := h id id
                  rw [heq, hbase] at hpath
                  exact hpath.symm

/-- **One step of a resolution** depends on where the imports lead that it asks for, if those places
are final. -/
theorem absolute_succ_eq_resolveBy {budget : Nat}
    (hlead : ∀ w ∈ t.leads module path,
      1 ≤ budget ∧ t.absolute budget w.module w.segments = lead w.module w.segments)
    (hfinal : ∀ w ∈ t.leads module path, t.IsFinal lead w) :
    t.absolute (budget + 1) module path = t.resolveBy lead module path := by
  rw [absolute_succ, resolveBy_eq_step]
  refine step_congr (fun w hw => (hlead w hw).2) (fun whole hfirst => ?_) fun onward honward => ?_
  · refine walk_eq_of_firstAlong fun w hw => ?_
    obtain ⟨hbudget, hw⟩ := hlead w (hfirst hw)
    exact ⟨t.absolute budget, if_neg (by omega), hw⟩
  · obtain ⟨w, hw, below, rfl⟩ := honward.exists_lead
    have hsettled := hfinal w hw below
    rw [walk_of_eq_none hsettled, walk_of_eq_none hsettled]

theorem reexportAlong?_walk (hfinal : ∀ w ∈ t.firstAlong path, t.IsFinal lead w) :
    t.reexportAlong? (t.walk (some lead) path) = none := by
  cases hr : t.reexportAlong? path with
  | none => rw [walk_of_eq_none hr, hr]
  | some r =>
      rw [walk_of_eq_some hr]
      exact hfinal _ (mem_firstAlong hr) r.rest

/-- **After a step of a resolution to final places, an absolute path has no re-export left.** -/
theorem reexportAlong?_resolveBy (hfinal : ∀ w ∈ t.leads module path, t.IsFinal lead w)
    (htypes : ∀ d ∈ t.types, t.reexportAlong? (pathSegments d.2) = none)
    (hcrate : (t.resolveBy lead module path).head? = some "crate") :
    t.reexportAlong? (t.resolveBy lead module path) = none := by
  cases path with
  | nil => rfl
  | cons first rest =>
      rw [leads] at hfinal
      rw [resolveBy] at hcrate ⊢
      cases hanchor : anchor? module (first :: rest) with
      | some whole =>
          rw [hanchor] at hfinal
          exact reexportAlong?_walk hfinal
      | none =>
          rw [hanchor] at hfinal hcrate
          simp only at hfinal hcrate ⊢
          cases t.nameLookup module first rest with
          | imported target hleads heq =>
              rw [hleads] at hfinal
              have hsettled := hfinal _ (List.mem_singleton_self _) rest
              rw [heq, walk_of_eq_none hsettled, ite_self, hsettled]
          | declared hleads heq =>
              rw [hleads] at hfinal
              rw [heq]
              exact reexportAlong?_walk hfinal
          | elsewhere globs fallback hleads hfallback heq =>
              rw [hleads] at hfinal
              rw [heq] at hcrate ⊢
              cases hbase : t.globWith? (lead module) first globs with
              | some base =>
                  obtain ⟨glob, hglob, rfl⟩ := exists_of_globWith? hbase
                  have hsettled :=
                    hfinal _ (List.mem_map.mpr ⟨glob, hglob, rfl⟩) (first :: rest)
                  simp only [Option.elim_some]
                  rw [walk_of_eq_none hsettled, hsettled]
              | none =>
                  rw [hbase] at hcrate
                  simp only [Option.elim_none] at hcrate ⊢
                  rcases hfallback with rfl | ⟨d, hd, rfl⟩
                  · -- a path that starts with `crate` is no name to be looked up
                    rw [anchor?, Option.some.inj hcrate] at hanchor
                    cases hanchor
                  · exact htypes d hd

end Step

/-! ## Resolving twice -/

/-- The segments of the absolute form of a path. -/
def resolved (t : ScopeTable) (module : String) (path : List String) : List String :=
  t.absolute (maxReexports + 1) module path

/-- Whether nothing is re-exported at or below the places that imports lead to, nor on the way to a
declared type. -/
structure IsSettled (t : ScopeTable) : Prop where
  imports : ∀ w ∈ t.imports, t.IsFinal t.resolved w
  types : ∀ d ∈ t.types, t.reexportAlong? (pathSegments d.2) = none

/-- **The budget does not matter** as long as the chains of imports fit into it.  The induction is
on the length of the chains: what a step asks for is the same under every such budget. -/
theorem absolute_eq_of_endsWithin (hsettled : t.IsSettled) {n budget : Nat} {w : WrittenPath}
    (h : t.EndsWithin n w) (hlimit : n ≤ maxReexports) (hbudget : n ≤ budget) :
    t.absolute (budget + 1) w.module w.segments =
      t.resolveBy t.resolved w.module w.segments := by
  induction n generalizing budget w with
  | zero =>
      rw [EndsWithin] at h
      refine absolute_succ_eq_resolveBy ?_ ?_
      · rw [h]
        exact fun w' hlead => absurd hlead List.not_mem_nil
      · rw [h]
        exact fun w' hlead => absurd hlead List.not_mem_nil
  | succ n ih =>
      obtain ⟨budget, rfl⟩ : ∃ b, budget = b + 1 := ⟨budget - 1, by omega⟩
      refine absolute_succ_eq_resolveBy (fun w' hlead => ⟨by omega, ?_⟩)
        fun w' hlead => hsettled.imports w' (mem_imports_of_leadsTo hlead)
      have hends := h w' hlead
      rw [ih hends (by omega) (by omega), resolved, ih hends (by omega) (by omega)]

/-- **What has been resolved is final**, if imports form no cycle and are fewer than the limit, and
nothing is re-exported at or below the places that they lead to: no re-export is left on the way of
the result, and from every module it resolves to itself.

Each condition rules out one way of stopping early.  A cycle or a long chain of imports would end at
the limit, and of a path through two re-exports only the first is followed; that needs no more than
the two imports of `resolved_chained_ne`. -/
theorem resolved_idempotent (hacyclic : t.Acyclic) (hcount : t.imports.length < maxReexports)
    (hsettled : t.IsSettled) {module : String} {path : List String}
    (hcrate : (t.resolved module path).head? = some "crate") (module' : String) :
    t.reexportAlong? (t.resolved module path) = none ∧
    t.resolved module' (t.resolved module path) = t.resolved module path ∧
    ((∀ segment ∈ t.resolved module path, ':' ∉ segment.toList) →
      t.resolvePath module' (pathSegments (t.resolvePath module path)) =
        t.resolvePath module path) := by
  have hstep : t.resolved module path = t.resolveBy t.resolved module path :=
    absolute_eq_of_endsWithin (w := ⟨module, path⟩) hsettled (endsWithin_of_acyclic hacyclic _)
      (Nat.le_of_lt hcount) (Nat.le_of_lt hcount)
  have hnone : t.reexportAlong? (t.resolved module path) = none := by
    rw [hstep] at hcrate ⊢
    exact reexportAlong?_resolveBy
      (fun w hlead => hsettled.imports w (mem_imports_of_leadsTo (w := ⟨module, path⟩) hlead))
      hsettled.types hcrate
  have hanchor : anchor? module' (t.resolved module path) = some (t.resolved module path) := by
    obtain ⟨rest, hrest⟩ := List.head?_eq_some_iff.mp hcrate
    rw [hrest]
    rfl
  have hagain : t.resolved module' (t.resolved module path) = t.resolved module path := by
    rw [resolved, absolute_of_anchor hanchor, walk_of_eq_none hnone]
  refine ⟨hnone, hagain, fun hplain => ?_⟩
  have hne : t.resolved module path ≠ [] := by
    intro hnil
    rw [hnil] at hcrate
    cases hcrate
  have htext : t.resolvePath module path = joinPath (t.resolved module path) := rfl
  rw [htext, pathSegments_joinPath hne hplain, resolvePath]
  exact congrArg joinPath hagain

/-- A module re-exports a type, and another module imports it from there under a name of its own. -/
def authors : ScopeTable :=
  ((((empty.declareModule "crate" "model").declareModule "crate" "api").declareType "crate::model"
    "Person").addUse "crate" (.path "model" (.name "Person"))).addUse "crate::api"
      (.path "super" (.rename "Person" "Author"))

/-- The name is resolved through both imports, and the result to itself. -/
theorem resolved_idempotent_authors :
    authors.Acyclic ∧ authors.imports.length < maxReexports ∧ authors.IsSettled ∧
      authors.resolvePath "crate::api" ["Author"] = "crate::model::Person" ∧
      authors.resolvePath "crate::api" (pathSegments "crate::model::Person") =
        "crate::model::Person" := by
  have hacyclic : authors.Acyclic := by decide +kernel
  have hcount : authors.imports.length < maxReexports := by decide +kernel
  have hlead : ∀ w ∈ authors.imports,
      authors.resolved w.module w.segments = ["crate", "model", "Person"] := by decide +kernel
  have hsettled : authors.IsSettled := by
    refine ⟨fun w hw => isFinal_of_scopes ?_ ?_ ?_, by decide +kernel⟩
    · rw [hlead w hw]
      exact List.cons_ne_nil _ _
    · rw [hlead w hw]
      decide +kernel
    · rw [hlead w hw]
      decide +kernel
  have hauthor : authors.resolved "crate::api" ["Author"] = ["crate", "model", "Person"] := by
    decide +kernel
  have hcrate : (authors.resolved "crate::api" ["Author"]).head? = some "crate" := by
    rw [hauthor]
    rfl
  obtain ⟨-, -, hagain⟩ :=
    resolved_idempotent hacyclic hcount hsettled hcrate "crate::api"
  have hplain : ∀ segment ∈ authors.resolved "crate::api" ["Author"], ':' ∉ segment.toList := by
    rw [hauthor]
    decide +kernel
  have htext : authors.resolvePath "crate::api" ["Author"] = "crate::model::Person" := by
    rw [resolvePath]
    exact congrArg joinPath hauthor
  have hagain := hagain hplain
  rw [htext] at hagain
  exact ⟨hacyclic, hcount, hsettled, htext, hagain⟩

/-- A module is re-exported by another one and re-exports a type of a third. -/
def chained : ScopeTable :=
  ((((((empty.declareModule "crate" "a").declareModule "crate" "b").declareModule "crate"
    "c").declareType "crate::c" "Item").addUse "crate::a"
      (.path "crate" (.rename "b" "inner"))).addUse "crate::b"
        (.path "crate" (.path "c" (.name "Item"))))

/-- **A path through both re-exports stops at the second**: the result is resolved to another path,
though the two imports form no cycle. -/
theorem resolved_chained_ne :
    chained.Acyclic ∧ chained.imports.length < maxReexports ∧
      chained.resolvePath "crate" ["crate", "a", "inner", "Item"] = "crate::b::Item" ∧
      chained.resolvePath "crate" (pathSegments "crate::b::Item") = "crate::c::Item" := by
  decide +kernel

end ScopeTable
end FixtureFactory
