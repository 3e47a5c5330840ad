import FixtureFactory.Proofs.ResolutionLimit
import FixtureFactory.Proofs.ResolvedSegments
import FixtureFactory.Proofs.Spellings

/-!
# Relative paths

A path may start with `self`, which stands for the module that it is written in, and with one
`super` for every module that it goes up from there.  The result of a resolution is meant to be
absolute: none of these words is left in it, and it names what the path names from the root.  That
holds of the path that is asked about and of every path that is imported on the way.

It holds unless a path has both words.  A `self` at the start is replaced by the module, and what
follows it is taken for names, so in `self::super::Person` the second word stays and the result
names nothing.  A `super` at the start is followed by a loop over all of them.

## The argument

What is left out of a path is put into the table instead.  In `ScopeTable.importedFromRoot` all
targets of imports are written from the root, so there is no word anywhere that a resolution could
leave in a path (`ScopeTable.IsMadeOf.keeps_absolute`).  Resolving from the root in that table takes
the steps of the one as it is written, and two families of resolutions that take the same steps
agree as long as the limit does not matter (`ScopeTable.StepsAlong.eq_resolved`).

* `RelativePath`: a path as it may be written, and `fromRoot`: that path from the root.
* `ScopeTable.step_fromRoot`: one step is the same for both.
* `ScopeTable.step_importedFromRoot`: and in a table with both.
* `ScopeTable.resolvePath_relative_iff`: resolved paths are absolute exactly if the path does not
  have both words.
-/

namespace FixtureFactory

/-! ## Paths as they may be written -/

/-- The words that stand for modules, seen from where a path is written. -/
def relativeWords : List String := ["self", "super"]

/-- Whether a segment is a name: it is none of the words, and one segment. -/
def IsName (segment : String) : Prop := segment ∉ relativeWords ∧ ':' ∉ segment.toList

instance (segment : String) : Decidable (IsName segment) :=
  inferInstanceAs (Decidable (segment ∉ relativeWords ∧ ':' ∉ segment.toList))

/-- Whether a module is known by a path of names from the root. -/
def IsModulePath (module : String) : Prop :=
  ScopeTable.IsBelowRoot module ∧ ∀ segment ∈ pathSegments module, IsName segment

/-- **A path as it may be written**: a `self` or none, some number of `super`, and names. -/
structure RelativePath where
  fromSelf : Bool
  ups : Nat
  names : List String
  deriving DecidableEq, Repr

namespace RelativePath

/-- The segments of the path. -/
def segments (p : RelativePath) : List String :=
  (if p.fromSelf then ["self"] else []) ++ (List.replicate p.ups "super" ++ p.names)

/-- Whether the path can be written in a module: it does not go up beyond the root. -/
def FitsIn (p : RelativePath) (module : String) : Prop :=
  p.ups < (pathSegments module).length ∧ ∀ name ∈ p.names, IsName name

instance (p : RelativePath) (module : String) : Decidable (p.FitsIn module) :=
  inferInstanceAs (Decidable (_ ∧ _))

/-- Whether the path does not have both words. -/
def IsStraight (p : RelativePath) : Prop := p.fromSelf = true → p.ups = 0

instance (p : RelativePath) : Decidable p.IsStraight :=
  inferInstanceAs (Decidable (_ → _))

end RelativePath

/-- **A path written from the root**: the words at its start are replaced by the module that they
stand for. -/
def fromRoot (module : String) : List String → List String
  | "self" :: rest => ScopeTable.climb (pathSegments module) rest
  | "super" :: rest => ScopeTable.climb (pathSegments module) ("super" :: rest)
  | path => path

section Written

variable {module : String} {names : List String}

theorem head?_ne_of_names (h : ∀ name ∈ names, IsName name) {word : String}
    (hword : word ∈ relativeWords) : names.head? ≠ some word := by
  intro hhead
  have hmem : word ∈ names := List.mem_of_mem_head? hhead
  exact (h word hmem).1 hword

theorem fromRoot_names (h : ∀ name ∈ names, IsName name) : fromRoot module names = names := by
  have hself : names.head? ≠ some "self" := head?_ne_of_names h (by decide)
  have hsuper : names.head? ≠ some "super" := head?_ne_of_names h (by decide)
  rw [fromRoot]
  · intro rest hrest
    rw [hrest] at hself
    exact hself rfl
  · intro rest hrest
    rw [hrest] at hsuper
    exact hsuper rfl

/-- **The module that a path starts from**: as many segments are left out as it goes up. -/
theorem climb_ups (h : ∀ name ∈ names, IsName name) (ups : Nat) :
    ScopeTable.climb (pathSegments module) (List.replicate ups "super" ++ names) =
      (pathSegments module).take ((pathSegments module).length - ups) ++ names :=
  ScopeTable.climb_replicate _ _ (head?_ne_of_names h (by decide))

/-- **A path from the root is made of names.** -/
theorem isName_of_mem_fromRoot {p : RelativePath} (hmodule : IsModulePath module)
    (hp : p.FitsIn module) : ∀ segment ∈ fromRoot module p.segments, IsName segment := by
  obtain ⟨fromSelf, ups, names⟩ := p
  have hnames : ∀ name ∈ names, IsName name := hp.2
  have hclimb : ∀ segment ∈
      ScopeTable.climb (pathSegments module) (List.replicate ups "super" ++ names),
      IsName segment := by
    rw [climb_ups hnames]
    refine List.forall_mem_append.mpr ⟨fun segment hsegment => ?_, hnames⟩
    exact hmodule.2 segment (List.mem_of_mem_take hsegment)
  cases fromSelf with
  | true => exact hclimb
  | false =>
      cases ups with
      | zero =>
          have hsame : fromRoot module (RelativePath.segments ⟨false, 0, names⟩) = names :=
            fromRoot_names hnames
          rw [hsame]
          exact hnames
      | succ ups => exact hclimb

end Written

namespace ScopeTable

variable {t : ScopeTable} {module : String} {p : RelativePath}

/-! ## Steps -/

/-- A path that does not have both words is one that starts with neither, or its absolute form is
the path from the root. -/
theorem anchor?_fromRoot (hmodule : IsModulePath module) (hp : p.FitsIn module)
    (hstraight : p.IsStraight) :
    fromRoot module p.segments = p.segments ∨
      (anchor? module p.segments = some (fromRoot module p.segments) ∧
        anchor? module (fromRoot module p.segments) = some (fromRoot module p.segments)) := by
  obtain ⟨below, hsegments⟩ := hmodule.1.exists_pathSegments
  obtain ⟨fromSelf, ups, names⟩ := p
  obtain ⟨hups, hnames⟩ : ups < (pathSegments module).length ∧ ∀ name ∈ names, IsName name := hp
  -- what is left of the module starts at the root
  have hroot : anchor? module
      (climb (pathSegments module) (List.replicate ups "super" ++ names)) =
        some (climb (pathSegments module) (List.replicate ups "super" ++ names)) := by
    rw [climb_ups hnames]
    obtain ⟨left, hleft⟩ : ∃ left, (pathSegments module).length - ups = left + 1 :=
      ⟨(pathSegments module).length - ups - 1, by omega⟩
    rw [hleft, hsegments]
    rfl
  cases fromSelf with
  | true =>
      obtain rfl : ups = 0 := hstraight rfl
      have hnone : climb (pathSegments module) (List.replicate 0 "super" ++ names) =
          pathSegments module ++ names := by
        rw [climb_ups hnames, Nat.sub_zero, List.take_length]
      refine Or.inr ⟨?_, hroot⟩
      exact congrArg some hnone.symm
  | false =>
      cases ups with
      | zero => exact Or.inl (fromRoot_names hnames)
      | succ ups => exact Or.inr ⟨rfl, hroot⟩

theorem step_of_anchor {lead : String → List String → List String}
    {here below : List String → List String} {path whole : List String}
    (h : anchor? module path = some whole) : t.step lead here below module path = here whole := by
  cases path with
  | nil => cases h
  | cons first rest => simp only [step, h]

/-- **One step is the same for a path and for that path from the root.** -/
theorem step_fromRoot (hmodule : IsModulePath module) (hp : p.FitsIn module)
    (hstraight : p.IsStraight) (lead : String → List String → List String)
    (here below : List String → List String) :
    t.step lead here below module (fromRoot module p.segments) =
      t.step lead here below module p.segments := by
  rcases anchor?_fromRoot hmodule hp hstraight with hsame | ⟨hpath, hroot⟩
  · rw [hsame]
  · rw [step_of_anchor hpath, step_of_anchor hroot]

/-! ## Imports from the root -/

/-- A resolution from the root. -/
def leadFromRoot (lead : String → List String → List String) (module : String)
    (path : List String) : List String := lead module (fromRoot module path)

end ScopeTable

/-- The scope of a module, with imports from the root. -/
def ModuleScope.importedFromRoot (module : String) (s : ModuleScope) : ModuleScope :=
  { imports := s.imports.map fun binding => (binding.1, fromRoot module binding.2)
    globs := s.globs.map (fromRoot module)
    items := s.items }

namespace ScopeTable

/-- **A table with every import written from the root.** -/
def importedFromRoot (t : ScopeTable) : ScopeTable :=
  { scopes := t.scopes.map fun entry => (entry.1, entry.2.importedFromRoot entry.1)
    types := t.types }

section FromRoot

variable {t : ScopeTable} {module : String} {p : RelativePath}

theorem scope?_importedFromRoot (module : String) :
    t.importedFromRoot.scope? module = (t.scope? module).map (·.importedFromRoot module) :=
  SortedMap.find?_map (fun module (s : ModuleScope) => s.importedFromRoot module) module t.scopes

theorem import?_importedFromRoot (s : ModuleScope) (module name : String) :
    (s.importedFromRoot module).import? name = (s.import? name).map (fromRoot module) :=
  SortedMap.find?_map (fun _ => fromRoot module) name s.imports

/-- A re-export leads to the path from the root. -/
theorem reexport?_importedFromRoot (module segment : String) :
    t.importedFromRoot.reexport? module segment =
      (t.reexport? module segment).map (fromRoot module) := by
  rw [reexport?, reexport?, scope?_importedFromRoot]
  cases t.scope? module with
  | none => rfl
  | some s =>
      simp only [Option.map_some, import?_importedFromRoot]
      have hdeclares : (s.importedFromRoot module).declares segment = s.declares segment := rfl
      rw [hdeclares]
      split
      · rfl
      · rfl

/-- **Following a path** in the table with imports from the root takes re-exports from there. -/
theorem walkFrom_importedFromRoot (follow : Option (String → List String → List String))
    (module path : List String) :
    t.importedFromRoot.walkFrom follow module path =
      t.walkFrom (follow.map leadFromRoot) module path := by
  cases follow with
  | none => rw [walkFrom_none, Option.map_none, walkFrom_none]
  | some f =>
      induction path generalizing module with
      | nil => rfl
      | cons segment rest ih =>
          have hreexport := t.reexport?_importedFromRoot (joinPath module) segment
          cases htarget : t.reexport? (joinPath module) segment with
          | none =>
              rw [htarget] at hreexport
              rw [walkFrom_cons_of_eq_none hreexport, walkFrom_cons_of_eq_none htarget]
              exact ih _
          | some target =>
              rw [htarget] at hreexport
              have hroot : t.walkFrom (some (leadFromRoot f)) module (segment :: rest) =
                  leadFromRoot f (joinPath module) target ++ rest :=
                walkFrom_cons_of_eq_some htarget
              rw [walkFrom_cons_of_eq_some hreexport]
              exact hroot.symm

theorem walk_importedFromRoot (follow : Option (String → List String → List String)) :
    t.importedFromRoot.walk follow = t.walk (follow.map leadFromRoot) := by
  funext path
  cases path with
  | nil => rfl
  | cons root rest => exact walkFrom_importedFromRoot follow [root] rest

theorem globWith?_importedFromRoot (lead : String → List String → List String)
    (module name : String) (globs : List (List String)) :
    t.importedFromRoot.globWith? (lead module) name (globs.map (fromRoot module)) =
      t.globWith? (leadFromRoot lead module) name globs := by
  induction globs with
  | nil => rfl
  | cons glob globs ih =>
      rw [List.map_cons, globWith?, globWith?, scope?_importedFromRoot, ih]
      have hbase : lead module (fromRoot module glob) = leadFromRoot lead module glob := rfl
      rw [hbase]
      cases t.scope? (joinPath (leadFromRoot lead module glob)) with
      | none => rfl
      | some s =>
          simp only [Option.map_some, import?_importedFromRoot, Option.isSome_map]
          rfl

/-- **One step in the table with imports from the root** is one step from the root in the table. -/
theorem step_importedFromRoot (lead : String → List String → List String)
    (here below : List String → List String) (module : String) (path : List String) :
    t.importedFromRoot.step lead here below module path =
      t.step (leadFromRoot lead) here below module path := by
  cases path with
  | nil => rfl
  | cons first rest =>
      rw [step, step]
      cases anchor? module (first :: rest) with
      | some whole => rfl
      | none =>
          simp only [relative, scope?_importedFromRoot]
          cases t.scope? module with
          | none => rfl
          | some s =>
              simp only [Option.map_some, import?_importedFromRoot]
              cases s.import? first with
              | some target => rfl
              | none =>
                  have hglobs := t.globWith?_importedFromRoot lead module first s.globs
                  simp only [Option.map_none]
                  simp only [ModuleScope.importedFromRoot]
                  rw [hglobs]
                  rfl

/-- Every import of the table with imports from the root is one of the table, from the root. -/
theorem exists_of_mem_imports_importedFromRoot {w : WrittenPath}
    (h : w ∈ t.importedFromRoot.imports) :
    ∃ w' ∈ t.imports, w.module = w'.module ∧ w.segments = fromRoot w'.module w'.segments := by
  rw [imports, List.mem_flatMap] at h
  obtain ⟨_, hmapped, h⟩ := h
  obtain ⟨entry, hentry, rfl⟩ := List.mem_map.mp hmapped
  obtain ⟨target, htarget, rfl⟩ := List.mem_map.mp h
  have hold : ∃ old ∈ entry.2.targets, target = fromRoot entry.1 old := by
    rcases List.mem_append.mp htarget with htarget | htarget
    · obtain ⟨_, hmapped, rfl⟩ := List.mem_map.mp htarget
      obtain ⟨binding, hbinding, rfl⟩ := List.mem_map.mp hmapped
      exact ⟨binding.2, List.mem_append_left _ (List.mem_map_of_mem hbinding), rfl⟩
    · obtain ⟨glob, hglob, rfl⟩ := List.mem_map.mp htarget
      exact ⟨glob, List.mem_append_right _ hglob, rfl⟩
  obtain ⟨old, hold, rfl⟩ := hold
  exact ⟨⟨entry.1, old⟩, List.mem_flatMap.mpr ⟨entry, hentry, List.mem_map_of_mem hold⟩, rfl, rfl⟩

/-- **Resolving from the root, with imports from the root**, takes the steps of the table, on paths
that do not have both words. -/
theorem stepsAlong_importedFromRoot :
    t.StepsAlong (fun budget => leadFromRoot (t.importedFromRoot.absolute budget)) fun w =>
      IsModulePath w.module ∧
        ∃ p : RelativePath, w.segments = p.segments ∧ p.FitsIn w.module ∧ p.IsStraight := by
  intro budget module path hwritten
  obtain ⟨hmodule, p, rfl, hp, hstraight⟩ := hwritten
  have hfollow : ∀ fewer, t.importedFromRoot.walk (t.importedFromRoot.follower fewer) =
      t.walk (following (fun budget => leadFromRoot (t.importedFromRoot.absolute budget))
        fewer) := by
    intro fewer
    rw [walk_importedFromRoot, follower, following]
    by_cases hnone : fewer = 0
    · rw [if_pos hnone, if_pos hnone]
      rfl
    · rw [if_neg hnone, if_neg hnone]
      rfl
  show t.importedFromRoot.absolute (budget + 1) module (fromRoot module p.segments) = _
  rw [absolute_succ, step_fromRoot hmodule hp hstraight, step_importedFromRoot, hfollow, hfollow]

end FromRoot

/-! ## Results -/

/-- **Tables of relative paths.**  All modules are known by paths of names from the root, no name is
one of the words, and every import can be written where it stands and does not have both words. -/
structure IsNavigable (t : ScopeTable) : Prop where
  modules : ∀ entry ∈ t.scopes, IsModulePath entry.1
  bindings : ∀ entry ∈ t.scopes, ∀ binding ∈ entry.2.imports, binding.1 ∉ relativeWords
  targets : ∀ w ∈ t.imports,
    ∃ p : RelativePath, w.segments = p.segments ∧ p.FitsIn w.module ∧ p.IsStraight
  types : ∀ d ∈ t.types, ∀ segment ∈ pathSegments d.2, IsName segment

section Absolute

variable {t : ScopeTable} {module : String} {p : RelativePath}

theorem IsNavigable.isModulePath_of_mem_imports (ht : t.IsNavigable) {w : WrittenPath}
    (h : w ∈ t.imports) : IsModulePath w.module := by
  obtain ⟨entry, hentry, hw⟩ := List.mem_flatMap.mp h
  obtain ⟨target, -, rfl⟩ := List.mem_map.mp hw
  exact ht.modules entry hentry

theorem IsNavigable.isMadeOf_importedFromRoot (ht : t.IsNavigable) :
    t.importedFromRoot.IsMadeOf IsName := by
  refine ⟨fun path hne hpath => ?_, fun w hw => ?_, ht.types⟩
  · rw [pathSegments_joinPath hne fun segment hsegment => (hpath segment hsegment).2]
    exact hpath
  · obtain ⟨w', hw', -, hsegments⟩ := exists_of_mem_imports_importedFromRoot hw
    obtain ⟨p, hp, hfits, -⟩ := ht.targets w' hw'
    rw [hsegments, hp]
    exact isName_of_mem_fromRoot (ht.isModulePath_of_mem_imports hw') hfits

/-- No segment as it is written holds a colon. -/
theorem RelativePath.notMem_colon (hp : p.FitsIn module) :
    ∀ segment ∈ p.segments, ':' ∉ segment.toList := by
  have hwords : ∀ word ∈ relativeWords, ':' ∉ word.toList := by decide
  intro segment hsegment
  rcases List.mem_append.mp hsegment with hsegment | hsegment
  · split at hsegment
    · exact hwords segment (by rw [List.mem_singleton.mp hsegment]; decide)
    · cases hsegment
  · rcases List.mem_append.mp hsegment with hsegment | hsegment
    · exact hwords segment (by rw [List.eq_of_mem_replicate hsegment]; decide)
    · exact (hp.2 segment hsegment).2

/-- Neither does any segment of a result. -/
theorem IsNavigable.notMem_colon_resolved (ht : t.IsNavigable) (hmodule : IsModulePath module)
    (hp : p.FitsIn module) : ∀ segment ∈ t.resolved module p.segments, ':' ∉ segment.toList := by
  have hsegments : t.IsMadeOf fun segment => ':' ∉ segment.toList := by
    refine ⟨fun path hne hpath => ?_, fun w hw => ?_, fun d hd segment hsegment => ?_⟩
    · rw [pathSegments_joinPath hne hpath]
      exact hpath
    · obtain ⟨p, hp, hfits, -⟩ := ht.targets w hw
      rw [hp]
      exact RelativePath.notMem_colon hfits
    · exact (ht.types d hd segment hsegment).2
  exact hsegments.keeps_absolute _ module p.segments
    (fun segment hsegment => (hmodule.2 segment hsegment).2) (RelativePath.notMem_colon hp)

/-- None of the words is imported. -/
theorem IsNavigable.reexport?_word (ht : t.IsNavigable) {word : String}
    (hword : word ∈ relativeWords) (module : String) : t.reexport? module word = none := by
  rw [reexport?]
  cases hscope : t.scope? module with
  | none => rfl
  | some s =>
      have himport : s.import? word = none := by
        cases htarget : s.import? word with
        | none => rfl
        | some target =>
            have hbinding := SortedMap.mem_of_find? htarget
            exact absurd hword (ht.bindings _ (SortedMap.mem_of_find? hscope) _ hbinding)
      simp only [himport, ite_self]

/-- **A word that is taken for a name stays.**  No module is known below it, so nothing is
re-exported from there on. -/
theorem IsNavigable.mem_walkFrom_of_word (ht : t.IsNavigable) {word : String}
    (hword : word ∈ relativeWords) (follow : Option (String → List String → List String))
    {module path : List String} (hne : module ≠ [])
    (hmodule : ∀ segment ∈ module, ':' ∉ segment.toList)
    (hpath : ∀ segment ∈ path, ':' ∉ segment.toList) (h : word ∈ module ++ path) :
    word ∈ t.walkFrom follow module path := by
  induction path generalizing module with
  | nil =>
      rw [List.append_nil] at h
      exact h
  | cons segment rest ih =>
      obtain ⟨hsegment, hrest⟩ := List.forall_mem_cons.mp hpath
      cases hreexport : t.reexport? (joinPath module) segment with
      | none =>
          rw [walkFrom_cons_of_eq_none hreexport]
          refine ih (List.append_ne_nil_of_left_ne_nil hne _) ?_ hrest ?_
          · exact List.forall_mem_append.mpr ⟨hmodule, List.forall_mem_singleton.mpr hsegment⟩
          · rw [List.append_assoc]
            exact h
      | some target =>
          cases follow with
          | none =>
              rw [walkFrom_none]
              exact h
          | some f =>
              -- the word is not the segment, which is imported, nor above it, where modules are
              have hnot : segment ≠ word := by
                rintro rfl
                rw [ht.reexport?_word hword] at hreexport
                cases hreexport
              have habove : word ∉ module := by
                intro hmem
                have hsource := mem_imports_of_reexport? hreexport
                have hnames := (ht.isModulePath_of_mem_imports hsource).2
                rw [pathSegments_joinPath hne hmodule] at hnames
                exact (hnames word hmem).1 hword
              have hbelow : word ∈ rest := by
                rcases List.mem_append.mp h with h | h
                · exact absurd h habove
                · exact (List.mem_cons.mp h).resolve_left (Ne.symm hnot)
              rw [walkFrom_cons_of_eq_some hreexport]
              exact List.mem_append_right _ hbelow

/-- **A path with both words keeps one.** -/
theorem IsNavigable.super_mem_resolved (ht : t.IsNavigable) (hmodule : IsModulePath module)
    (hp : p.FitsIn module) (hboth : ¬ p.IsStraight) : "super" ∈ t.resolved module p.segments := by
  obtain ⟨fromSelf, ups, names⟩ := p
  obtain ⟨below, hsegments⟩ := hmodule.1.exists_pathSegments
  have hself : fromSelf = true := by
    by_contra hnot
    exact hboth fun htrue => absurd htrue hnot
  subst hself
  have hups : ups ≠ 0 := fun hzero => hboth fun _ => hzero
  have hcolons := RelativePath.notMem_colon hp
  have hanchor : anchor? module (RelativePath.segments ⟨true, ups, names⟩) =
      some ("crate" :: (below ++ (List.replicate ups "super" ++ names))) := by
    have hself : anchor? module (RelativePath.segments ⟨true, ups, names⟩) =
        some (pathSegments module ++ (List.replicate ups "super" ++ names)) := rfl
    rw [hself, hsegments]
    rfl
  rw [resolved, absolute_of_anchor hanchor]
  refine ht.mem_walkFrom_of_word (by decide) _ (List.cons_ne_nil _ _) (by decide) ?_ ?_
  · refine List.forall_mem_append.mpr ⟨fun segment hsegment => ?_, fun segment hsegment => ?_⟩
    · exact (hmodule.2 segment (hsegments ▸ List.mem_cons_of_mem _ hsegment)).2
    · exact hcolons segment (List.mem_append_right _ hsegment)
  · have hword : "super" ∈ List.replicate ups "super" := List.mem_replicate.mpr ⟨hups, rfl⟩
    exact List.mem_append_right _ (List.mem_append_right _ (List.mem_append_left _ hword))

theorem mem_pathSegments_joinPath {path : List String}
    (h : ∀ segment ∈ path, ':' ∉ segment.toList) {segment : String} :
    segment ∈ pathSegments (joinPath path) ↔ segment ∈ path ∨ (path = [] ∧ segment = "") := by
  by_cases hne : path = []
  · subst hne
    have hempty : pathSegments (joinPath []) = [""] := by decide
    rw [hempty, List.mem_singleton]
    simp
  · rw [pathSegments_joinPath hne h]
    simp [hne]

/-- **Resolved paths are absolute exactly if the path does not have both words.**  The result then
holds none of them, and it is that of the path from the root, also in the table where all imports
are written from the root.  Imports form no cycle here, and there are at most half as many as the
limit of re-exports. -/
theorem resolvePath_relative_iff (ht : t.IsNavigable) (hcycles : t.FreeOfCycles)
    (hcount : 2 * t.imports.length ≤ maxReexports) (hmodule : IsModulePath module)
    (hp : p.FitsIn module) :
    ((∀ word ∈ relativeWords, word ∉ pathSegments (t.resolvePath module p.segments)) ∧
      t.resolvePath module p.segments = t.resolvePath module (fromRoot module p.segments) ∧
      t.resolvePath module p.segments =
        t.importedFromRoot.resolvePath module (fromRoot module p.segments)) ↔
    p.IsStraight := by
  have htext : t.resolvePath module p.segments = joinPath (t.resolved module p.segments) := rfl
  have hcolons := ht.notMem_colon_resolved hmodule hp
  constructor
  · rintro ⟨hwords, -, -⟩
    by_contra hboth
    refine hwords "super" (by decide) ?_
    rw [htext, mem_pathSegments_joinPath hcolons]
    exact Or.inl (ht.super_mem_resolved hmodule hp hboth)
  · intro hstraight
    have hrooted : t.resolved module (fromRoot module p.segments) =
        t.resolved module p.segments := by
      rw [resolved, resolved, absolute_succ, absolute_succ, step_fromRoot hmodule hp hstraight]
    have himported : t.importedFromRoot.resolved module (fromRoot module p.segments) =
        t.resolved module p.segments :=
      stepsAlong_importedFromRoot.eq_resolved hcycles hcount
        (fun w hw => ⟨ht.isModulePath_of_mem_imports hw, ht.targets w hw⟩)
        ⟨hmodule, p, rfl, hp, hstraight⟩ (Nat.lt_succ_self _)
    refine ⟨fun word hword => ?_, congrArg joinPath hrooted.symm, congrArg joinPath himported.symm⟩
    rw [htext, mem_pathSegments_joinPath hcolons]
    rintro (hmem | ⟨-, rfl⟩)
    · rw [← himported] at hmem
      have hname := ht.isMadeOf_importedFromRoot.keeps_absolute _ module _ hmodule.2
        (isName_of_mem_fromRoot hmodule hp) word hmem
      exact hname.1 hword
    · exact absurd hword (by decide)

/-- A module imports a type from one beside it, and the module inside imports it from there. -/
def writers : ScopeTable :=
  (((((empty.declareModule "crate" "model").declareModule "crate" "api").declareModule "crate::api"
    "v1").declareType "crate::model" "Person").addUse "crate::api"
      (.path "super" (.path "model" (.rename "Person" "Author")))).addUse "crate::api::v1"
        (.path "super" (.rename "Author" "Writer"))

/-- The type is found from the module inside, through both imports, and it is the same one where
everything is written from the root. -/
theorem resolvePath_relative_writers :
    writers.IsNavigable ∧ writers.FreeOfCycles ∧ 2 * writers.imports.length ≤ maxReexports ∧
      IsModulePath "crate::api::v1" ∧ RelativePath.FitsIn ⟨true, 0, ["Writer"]⟩ "crate::api::v1" ∧
      writers.resolvePath "crate::api::v1" ["self", "Writer"] = "crate::model::Person" ∧
      writers.importedFromRoot.resolvePath "crate::api::v1" ["crate", "api", "v1", "Writer"] =
        "crate::model::Person" := by
  have hmodules : ∀ module ∈ ["crate", "crate::api", "crate::api::v1", "crate::model"],
      IsModulePath module := by
    have hnames : ∀ module ∈ ["crate", "crate::api", "crate::api::v1", "crate::model"],
        ∀ segment ∈ pathSegments module, IsName segment := by decide +kernel
    have hbelow : ∀ module ∈ ["crate", "crate::api", "crate::api::v1", "crate::model"],
        IsBelowRoot module := by
      simp only [List.forall_mem_cons]
      exact ⟨Or.inl rfl, Or.inr ⟨"api", by decide⟩, Or.inr ⟨"api::v1", by decide⟩,
        Or.inr ⟨"model", by decide⟩, fun _ h => absurd h List.not_mem_nil⟩
    exact fun module hmodule => ⟨hbelow module hmodule, hnames module hmodule⟩
  have hkeys : ∀ entry ∈ writers.scopes,
      entry.1 ∈ ["crate", "crate::api", "crate::api::v1", "crate::model"] := by decide +kernel
  have himports : writers.imports =
      [⟨"crate::api", ["super", "model", "Person"]⟩, ⟨"crate::api::v1", ["super", "Author"]⟩] := by
    decide +kernel
  have hnavigable : writers.IsNavigable := by
    refine ⟨fun entry hentry => hmodules _ (hkeys entry hentry), by decide +kernel, ?_,
      by decide +kernel⟩
    rw [himports, List.forall_mem_cons, List.forall_mem_singleton]
    exact ⟨⟨⟨false, 1, ["model", "Person"]⟩, by decide, by decide, by decide⟩,
      ⟨⟨false, 1, ["Author"]⟩, by decide, by decide, by decide⟩⟩
  have hcycles : writers.FreeOfCycles :=
    freeOfCycles_of_acyclic (by decide +kernel) (by decide +kernel)
  have hcount : 2 * writers.imports.length ≤ maxReexports := by
    rw [himports]
    decide
  have hmodule : IsModulePath "crate::api::v1" := hmodules _ (by decide)
  have hp : RelativePath.FitsIn ⟨true, 0, ["Writer"]⟩ "crate::api::v1" := by decide
  obtain ⟨-, -, hrooted⟩ :=
    (resolvePath_relative_iff hnavigable hcycles hcount hmodule hp).mpr fun _ => rfl
  have htype :
      writers.resolvePath "crate::api::v1" ["self", "Writer"] = "crate::model::Person" := by
    decide +kernel
  exact ⟨hnavigable, hcycles, hcount, hmodule, hp, htype, hrooted.symm.trans htype⟩

/-- A module with a type, and a module inside it. -/
def people : ScopeTable :=
  ((empty.declareModule "crate" "model").declareType "crate::model" "Person").declareModule
    "crate::model" "inner"

/-- **A `super` behind a `self` is taken for a name**, though no import is involved: the result
holds the word, and it is not that of the path from the root. -/
theorem resolvePath_relative_people :
    people.imports = [] ∧
      fromRoot "crate::model::inner" ["self", "super", "Person"] = ["crate", "model", "Person"] ∧
      people.resolvePath "crate::model::inner" ["crate", "model", "Person"] =
        "crate::model::Person" ∧
      people.resolvePath "crate::model::inner" ["super", "Person"] = "crate::model::Person" ∧
      people.resolvePath "crate::model::inner" ["self", "super", "Person"] =
        "crate::model::inner::super::Person" := by
  decide +kernel

end Absolute

end ScopeTable
end FixtureFactory
