import FixtureFactory.Proofs.Resolution
import Mathlib.Data.Finset.Card

/-!
# The limit of a resolution

A resolution carries a budget, and where it runs out a path is left as it was written.  So whatever
is said of resolved paths holds as long as the budget lasts.  This file says when it does.

Imports can be followed in two places.  The import of a name is followed first, and the absolute
path that comes of it, with the rest behind it, may meet another one.  The first costs one unit and
the second is followed with one unit less again.  Without a cycle no import comes twice behind
another one, and so a budget of two units for each import is never used up.  One unit for each is
not enough: `ScopeTable.resolvePath_zigzag` has thirteen imports, no two of which lead back to one
another, and the limit of sixteen cuts a path off.

## The argument

* `ScopeTable.DependsOn`: following one import takes following another.
* `exists_rank`: without cycles, imports have ranks that fall along this relation.
* `ScopeTable.StepsAlong`: a family of resolutions that takes the steps of the table.  Resolving is
  one, and so are others that are compared with it.
* `ScopeTable.StepsAlong.eq_resolveBy`: a budget above twice the rank is not used up, and such
  families agree there.  The induction is on the rank.
* `ScopeTable.StepsAlong.eq_resolved`: so they agree with the resolution under the limit, if there
  are at most half as many imports as the limit.
-/

namespace FixtureFactory

/-- **A relation without cycles has ranks** that fall along it, none of them above the number of
all that it leads to. -/
theorem exists_rank {α : Type} {R : α → α → Prop} {all : List α} (hall : ∀ a b, R a b → b ∈ all)
    (hacyclic : ∀ a, ¬ Relation.TransGen R a a) :
    ∃ rank : α → Nat, (∀ a b, R a b → rank b < rank a) ∧ ∀ a, rank a ≤ all.length := by
  classical
  let reached (a : α) : Finset α := all.toFinset.filter fun b => Relation.TransGen R a b
  refine ⟨fun a => (reached a).card, fun a b hstep => ?_, fun a => ?_⟩
  · have hfewer : reached b ⊆ reached a := by
      intro c hc
      obtain ⟨hmem, hbelow⟩ := Finset.mem_filter.mp hc
      exact Finset.mem_filter.mpr ⟨hmem, Relation.TransGen.head hstep hbelow⟩
    have hmem : b ∈ reached a :=
      Finset.mem_filter.mpr ⟨List.mem_toFinset.mpr (hall a b hstep), .single hstep⟩
    have hnot : b ∉ reached b := fun hb => hacyclic b (Finset.mem_filter.mp hb).2
    exact Finset.card_lt_card ((Finset.ssubset_iff_of_subset hfewer).mpr ⟨b, hmem, hnot⟩)
  · exact (Finset.card_filter_le _ _).trans (List.toFinset_card_le all)

namespace ScopeTable

variable {t : ScopeTable}

/-! ## What following an import takes -/

/-- **Whether following one import takes following another**: it is asked for at once, or it is the
first one on the path on which the resolution goes on. -/
inductive DependsOn (t : ScopeTable) (w w' : WrittenPath) : Prop
  | lead (h : t.LeadsTo w w')
  | behind {onward : List String} (honward : t.GoesOn t.resolved w.module w.segments onward)
      (h : w' ∈ t.firstAlong onward)

/-- Whether following an import never takes following it again. -/
def FreeOfCycles (t : ScopeTable) : Prop := ∀ w, ¬ Relation.TransGen t.DependsOn w w

theorem mem_imports_of_dependsOn {w w' : WrittenPath} (h : t.DependsOn w w') : w' ∈ t.imports := by
  cases h with
  | lead h => exact mem_imports_of_leadsTo h
  | behind _ h => exact mem_imports_of_mem_firstAlong h

/-- A resolution that starts with one of the words does not go on behind an import. -/
theorem not_goesOn_of_anchor {lead : String → List String → List String} {module : String}
    {path onward : List String} (h : (anchor? module path).isSome = true) :
    ¬ t.GoesOn lead module path onward := by
  intro honward
  obtain ⟨whole, hwhole⟩ := Option.isSome_iff_exists.mp h
  cases path with
  | nil => cases hwhole
  | cons first rest =>
      have hpath := honward (fun _ => []) fun _ => [""]
      simp only [step, hwhole] at hpath
      cases hpath

/-- **Where all imports start with one of the words**, the chains of what they ask for are all that
there is to look at. -/
theorem freeOfCycles_of_acyclic (hacyclic : t.Acyclic)
    (hwords : ∀ w ∈ t.imports, (anchor? w.module w.segments).isSome = true) :
    t.FreeOfCycles := by
  have hlead : ∀ {w w'}, w ∈ t.imports → t.DependsOn w w' → t.LeadsTo w w' := by
    intro w w' hw h
    cases h with
    | lead h => exact h
    | behind honward _ => exact absurd honward (not_goesOn_of_anchor (hwords w hw))
  have hchain : ∀ {w w'}, w ∈ t.imports → Relation.TransGen t.DependsOn w w' →
      Relation.TransGen t.LeadsTo w w' := by
    intro w w' hw h
    induction h with
    | single h => exact .single (hlead hw h)
    | tail hpath h ih =>
        obtain ⟨_, -, hlast⟩ := Relation.TransGen.tail'_iff.mp hpath
        exact ih.tail (hlead (mem_imports_of_dependsOn hlast) h)
  intro w hcycle
  obtain ⟨_, -, hlast⟩ := Relation.TransGen.tail'_iff.mp hcycle
  exact hacyclic w (hchain (mem_imports_of_dependsOn hlast) hcycle)

/-! ## Families of resolutions -/

/-- What follows re-exports in a family of resolutions, where so many may still be followed. -/
def following (resolve : Nat → String → List String → List String) (budget : Nat) :
    Option (String → List String → List String) :=
  if budget = 0 then none else some (resolve budget)

/-- **Whether a family of resolutions takes the steps of a table**, on some of the paths that may be
written. -/
def StepsAlong (t : ScopeTable) (resolve : Nat → String → List String → List String)
    (D : WrittenPath → Prop) : Prop :=
  ∀ budget module path, D ⟨module, path⟩ →
    resolve (budget + 1) module path =
      t.step (resolve budget) (t.walk (following resolve budget))
        (t.walk (following resolve (budget - 1))) module path

theorem stepsAlong_absolute (D : WrittenPath → Prop) : t.StepsAlong t.absolute D :=
  fun budget module path _ => absolute_succ budget module path

namespace StepsAlong

variable {D : WrittenPath → Prop} {resolve : Nat → String → List String → List String}
  {rank : WrittenPath → Nat}

/-- **A budget above twice the rank of a path is not used up.**  A family that takes the steps of
the table on imports gives there what one step makes of where imports lead under the limit. -/
theorem eq_resolveBy (hrank : ∀ w w', t.DependsOn w w' → rank w' < rank w)
    (hlimit : ∀ w, 2 * rank w ≤ maxReexports) (himports : ∀ w ∈ t.imports, D w)
    (hsteps : t.StepsAlong resolve D) {w : WrittenPath} (hw : D w) {budget : Nat}
    (hbudget : 2 * rank w < budget) :
    resolve budget w.module w.segments = t.resolveBy t.resolved w.module w.segments := by
  induction hn : rank w using Nat.strongRecOn generalizing w budget resolve with
  | _ n ih =>
      subst hn
      obtain ⟨budget, rfl⟩ : ∃ b, budget = b + 1 := ⟨budget - 1, by omega⟩
      -- what is followed on the way has a lower rank, so two units less are enough for it
      have hlower : ∀ {w' fewer}, t.DependsOn w w' → 2 * rank w' < fewer →
          resolve fewer w'.module w'.segments = t.resolved w'.module w'.segments := by
        intro w' fewer hdepends hfewer
        have hlimit' := hlimit w'
        have hw' := himports w' (mem_imports_of_dependsOn hdepends)
        rw [ih _ (hrank w w' hdepends) hsteps hw' hfewer rfl, resolved,
          ih _ (hrank w w' hdepends) (stepsAlong_absolute D) hw' (by omega) rfl]
      have hfollow : ∀ {path fewer}, budget ≤ fewer + 1 →
          (∀ w' ∈ t.firstAlong path, t.DependsOn w w') →
          t.walk (following resolve fewer) path = t.walk (some t.resolved) path := by
        intro path fewer hfewer hpath
        refine walk_eq_of_firstAlong fun w' hw' => ?_
        have hfalls := hrank w w' (hpath w' hw')
        exact ⟨resolve fewer, if_neg (by omega), hlower (hpath w' hw') (by omega)⟩
      rw [hsteps budget _ _ hw, resolveBy_eq_step]
      refine step_congr (fun w' hw' => ?_) (fun whole hwhole => ?_) fun onward honward => ?_
      · have hfalls := hrank w w' (.lead hw')
        exact hlower (.lead hw') (by omega)
      · exact hfollow (by omega) fun w' hw' => .lead (hwhole hw')
      · exact hfollow (by omega) fun w' hw' => .behind honward hw'

/-- **The limit does not matter** if imports form no cycle and there are at most half as many: every
family that takes the steps of the table on imports agrees with the resolution, above the limit. -/
theorem eq_resolved (hcycles : t.FreeOfCycles) (hcount : 2 * t.imports.length ≤ maxReexports)
    (himports : ∀ w ∈ t.imports, D w) (hsteps : t.StepsAlong resolve D) {module : String}
    {path : List String} (hpath : D ⟨module, path⟩) {budget : Nat}
    (hbudget : maxReexports < budget) : resolve budget module path = t.resolved module path := by
  obtain ⟨rank, hrank, hbound⟩ :=
    exists_rank (fun w w' h => mem_imports_of_dependsOn h) hcycles
  have hlimit : ∀ w, 2 * rank w ≤ maxReexports := fun w => by
    have hle := hbound w
    omega
  have hstart := hlimit ⟨module, path⟩
  rw [hsteps.eq_resolveBy hrank hlimit himports hpath (by omega), resolved,
    (stepsAlong_absolute D).eq_resolveBy hrank hlimit himports hpath (by omega)]

end StepsAlong

/-- The name that a module hands on at a place. -/
def zigzagName (i : Nat) : String := "Item" ++ toString i

/-- Two modules that hand on names of each other: one by absolute paths, the other through a name
that it imports the first one under. -/
def zigzag : ScopeTable :=
  (List.range 6).foldl
    (fun t i => (t.addUse "crate::a" (.path "b" (.name (zigzagName (2 * i))))).addUse "crate::other"
      (.path "super" (.path "a" (.rename (zigzagName (2 * i + 2)) (zigzagName (2 * i))))))
    (((((empty.declareModule "crate" "a").declareModule "crate" "other").declareType "crate::a"
      "Item12").addUse "crate::a" (.path "super" (.rename "other" "b"))))

/-- **One unit of the budget for each import is not enough.**  No chain of imports is longer than
their number, which is below the limit, and still a path is left as it was written: resolving it
takes more than the limit and ends in a declared type. -/
theorem resolvePath_zigzag :
    zigzag.Acyclic ∧ zigzag.imports.length < maxReexports ∧
      zigzag.resolvePath "crate::a" ["Item0"] = "super::other::Item10" ∧
      joinPath (zigzag.absolute 20 "crate::a" ["Item0"]) = "crate::a::Item12" := by
  decide +kernel

end ScopeTable
end FixtureFactory
