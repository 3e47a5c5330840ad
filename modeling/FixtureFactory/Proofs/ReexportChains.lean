import FixtureFactory.Proofs.Spellings

/-!
# Chains of re-exports

A name can be handed on from module to module before it reaches the one that declares it.  The
resolution follows such a chain link by link and carries the number of links that it may still
take.  The number goes through two functions, one that makes a path absolute and one that follows
the segments of an absolute path, and they compare it in two ways.  So the question is where exactly
the chain is left: at its end, if it is short enough, and otherwise at a link that only the limit
determines, wherever the chain was entered.

## Positions

Entering the chain costs one unit: an absolute path spends it on being followed, and a bare name on
the import that it is bound to.  From then on every link costs one.  With a budget of `b + 1`, the
path of link `i` is therefore resolved to that of link `i + b`, or to that of the last one.  The
induction is on the budget, for all links at once, since the next link is resolved with one unit
less.

* `ScopeTable.IsChain`: modules that hand on a name, up to the one that declares it.
* `ScopeTable.IsChain.absolute_link`: where the path of a link leads, under every budget.
* `ScopeTable.resolvePath_of_isChain`: chains are followed exactly up to the limit.
-/

namespace FixtureFactory
namespace ScopeTable

variable {t : ScopeTable} {n : Nat} {home name : Nat → String}

/-! ## Looking up what a module imports -/

theorem imports_iff {module given : String} {target : List String} :
    t.Imports module given target ↔
      (t.scope? module).bind (·.import? given) = some target := by
  rw [Imports, Option.bind_eq_some_iff]

theorem declares_iff {module given : String} :
    t.Declares module given ↔ (t.scope? module).any (·.declares given) = true := by
  rw [Declares, Option.any_eq_true]

instance (t : ScopeTable) (module given : String) (target : List String) :
    Decidable (t.Imports module given target) := decidable_of_iff' _ imports_iff

instance (t : ScopeTable) (module given : String) : Decidable (t.Declares module given) :=
  decidable_of_iff' _ declares_iff

/-- The segments are looked up one by one. -/
instance decidableDeclaredAfter (t : ScopeTable) :
    (module path : List String) → Decidable (t.DeclaredAfter module path)
  | _, [] => inferInstanceAs (Decidable True)
  | module, segment :: rest =>
      haveI := decidableDeclaredAfter t (module ++ [segment]) rest
      inferInstanceAs (Decidable (t.Declares (joinPath module) segment ∧
        t.DeclaredAfter (module ++ [segment]) rest))

instance (t : ScopeTable) (module : String) : Decidable (t.IsReached module) :=
  decidableDeclaredAfter t _ _

theorem reexport?_of_imports {module given : String} {target : List String}
    (himports : t.Imports module given target) (hhidden : ¬ t.Declares module given) :
    t.reexport? module given = some target := by
  obtain ⟨s, hscope, htarget⟩ := himports
  have hother : ¬ s.declares given = true := fun h => hhidden ⟨s, hscope, h⟩
  rw [reexport?, hscope]
  simp only [if_neg hother, htarget]

/-- **An imported name of a declared module** is the first re-export on the way to it. -/
theorem reexportAlong?_of_imports {module given : String} {target : List String}
    (hreached : t.IsReached module) (hbelow : IsBelowRoot module)
    (himports : t.Imports module given target) (hhidden : ¬ t.Declares module given) :
    t.reexportAlong? (pathSegments module ++ [given]) = some ⟨⟨module, target⟩, []⟩ := by
  obtain ⟨below, hsegments, hnone⟩ := hreached.exists_segments hbelow
  have hmodule : joinPath (["crate"] ++ below) = module := by
    rw [List.singleton_append, ← hsegments, joinPath_pathSegments]
  rw [hsegments]
  refine (reexportAfter?_append hnone _).trans ?_
  rw [reexportAfter?_cons, hmodule, reexport?_of_imports himports hhidden]
  rfl

/-! ## Chains -/

/-- **A chain of re-exports**: every module but the last imports a name from the next one, under a
name of its own that it does not declare, and the last one declares its name. -/
structure IsChain (t : ScopeTable) (n : Nat) (home name : Nat → String) : Prop where
  below : ∀ i ≤ n, IsBelowRoot (home i)
  reached : ∀ i ≤ n, t.IsReached (home i)
  imports : ∀ i < n,
    t.Imports (home i) (name i) (pathSegments (home (i + 1)) ++ [name (i + 1)])
  hidden : ∀ i < n, ¬ t.Declares (home i) (name i)
  declares : t.Declares (home n) (name n)
  notImported : ∀ target, ¬ t.Imports (home n) (name n) target

namespace IsChain

theorem tail (h : t.IsChain (n + 1) home name) :
    t.IsChain n (fun i => home (i + 1)) (fun i => name (i + 1)) :=
  { below := fun i hi => h.below (i + 1) (Nat.succ_le_succ hi)
    reached := fun i hi => h.reached (i + 1) (Nat.succ_le_succ hi)
    imports := fun i hi => h.imports (i + 1) (Nat.succ_lt_succ hi)
    hidden := fun i hi => h.hidden (i + 1) (Nat.succ_lt_succ hi)
    declares := h.declares
    notImported := h.notImported }

theorem anchor?_link (h : t.IsChain n home name) {i : Nat} (hi : i ≤ n) (module : String) :
    anchor? module (pathSegments (home i) ++ [name i]) =
      some (pathSegments (home i) ++ [name i]) := by
  obtain ⟨below, hsegments⟩ := (h.below i hi).exists_pathSegments
  rw [hsegments]
  rfl

/-- **Where the path of a link leads**: as many links further as the budget allows, or to the end
of the chain. -/
theorem absolute_link (h : t.IsChain n home name) {i : Nat} (hi : i ≤ n) (module : String)
    (budget : Nat) :
    t.absolute (budget + 1) module (pathSegments (home i) ++ [name i]) =
      pathSegments (home (min n (i + budget))) ++ [name (min n (i + budget))] := by
  induction budget generalizing i module with
  | zero =>
      have hsame : min n (i + 0) = i := by omega
      rw [absolute_of_anchor (h.anchor?_link hi module), hsame]
      exact walk_none _
  | succ budget ih =>
      rw [absolute_of_anchor (h.anchor?_link hi module)]
      rcases Nat.lt_or_eq_of_le hi with hlt | rfl
      · have hfirst := reexportAlong?_of_imports (h.reached i hi) (h.below i hi) (h.imports i hlt)
          (h.hidden i hlt)
        have hnext : i + 1 + budget = i + (budget + 1) := by omega
        rw [follower, if_neg (Nat.succ_ne_zero budget), walk_of_eq_some hfirst, List.append_nil,
          ih hlt, hnext]
      · have hend : min i (i + (budget + 1)) = i := by omega
        rw [hend]
        exact walk_of_eq_none
          (reexportAlong?_concat_of_isReached (h.reached i hi) (h.below i hi) h.declares)

/-- **A bare name leads as far as the path of its link**, in the module that the chain starts in. -/
theorem absolute_name (h : t.IsChain n home name) (hname : name 0 ∉ pathWords) (budget : Nat) :
    t.absolute (budget + 2) (home 0) [name 0] =
      pathSegments (home (min n (budget + 1))) ++ [name (min n (budget + 1))] := by
  by_cases hn : n = 0
  · subst hn
    have hpath : t.reexportAlong? (pathSegments (home 0) ++ [name 0]) = none :=
      reexportAlong?_concat_of_isReached (h.reached 0 (Nat.le_refl 0))
        (h.below 0 (Nat.le_refl 0)) h.declares
    rw [absolute_of_names (.child hname h.notImported h.declares rfl) hpath, Nat.zero_min]
  · have hpos : 0 < n := Nat.pos_of_ne_zero hn
    obtain ⟨s, hscope, htarget⟩ := h.imports 0 hpos
    have hnext : 0 + 1 + budget = budget + 1 := by omega
    rw [absolute_of_relative (anchor?_eq_none hname []), relative, hscope]
    simp only [htarget, List.append_nil, List.isEmpty_nil, Bool.not_true, Bool.and_false,
      Bool.false_eq_true, if_false]
    rw [h.absolute_link hpos, hnext]

end IsChain

/-- **Chains of re-exports are followed exactly up to the limit.**  A chain is entered by its first
name, in the module that it starts in, or by the path of that name, in any module.  (No name is one
of the words that stand for modules; one that was could not be written on its own.)  If the chain
has no more links than the limit, it is followed to the name that the last module declares, and
otherwise to the name at the limit. -/
theorem resolvePath_of_isChain (h : t.IsChain n home name) {module : String} {path : List String}
    (hpath : (module = home 0 ∧ path = [name 0] ∧ name 0 ∉ pathWords) ∨
      path = pathSegments (home 0) ++ [name 0]) :
    (n ≤ maxReexports → t.resolvePath module path = memberPath (home n) (name n)) ∧
    (maxReexports < n →
      t.resolvePath module path = memberPath (home maxReexports) (name maxReexports)) := by
  have habsolute : t.absolute (maxReexports + 1) module path =
      pathSegments (home (min n maxReexports)) ++ [name (min n maxReexports)] := by
    rcases hpath with ⟨rfl, rfl, hname⟩ | rfl
    · exact h.absolute_name hname 15
    · rw [h.absolute_link (Nat.zero_le n), Nat.zero_add]
  have hresolved : t.resolvePath module path =
      memberPath (home (min n maxReexports)) (name (min n maxReexports)) := by
    rw [resolvePath, habsolute, joinPath_concat (pathSegments_ne_nil _), joinPath_pathSegments]
    rfl
  constructor
  · intro hshort
    rw [hresolved, Nat.min_eq_left hshort]
  · intro hlong
    rw [hresolved, Nat.min_eq_right (Nat.le_of_lt hlong)]

/-- The module at a place in a row of modules. -/
def relayHome (i : Nat) : String := memberPath "crate" ("m" ++ toString i)

/-- The name that it hands on. -/
def relayName (i : Nat) : String := "Item" ++ toString i

/-- A row of modules, each of which imports the name of the next one under its own. -/
def relay (n : Nat) : ScopeTable :=
  (List.range n).foldl
    (fun t i => (t.declareModule "crate" ("m" ++ toString i)).addUse (relayHome i)
      (.path "crate" (.path ("m" ++ toString (i + 1)) (.rename (relayName (i + 1)) (relayName i)))))
    ((empty.declareModule "crate" ("m" ++ toString n)).declareType (relayHome n) (relayName n))

/-- From the second module, the row has as many links as the limit and is followed to its end.  From
the first one it has one more, and it is left before the last. -/
theorem resolvePath_of_isChain_relay :
    (relay 17).IsChain 17 relayHome relayName ∧
      (relay 17).resolvePath "crate::m1" ["Item1"] = "crate::m17::Item17" ∧
      (relay 17).resolvePath "crate::m0" ["Item0"] = "crate::m16::Item16" ∧
      (relay 17).resolvePath "crate::m9" ["crate", "m0", "Item0"] = "crate::m16::Item16" := by
  have hlinks : (∀ i ≤ 17, (relay 17).IsReached (relayHome i)) ∧
      (∀ i < 17, (relay 17).Imports (relayHome i) (relayName i)
        (pathSegments (relayHome (i + 1)) ++ [relayName (i + 1)])) ∧
      (∀ i < 17, ¬ (relay 17).Declares (relayHome i) (relayName i)) ∧
      (relay 17).Declares (relayHome 17) (relayName 17) ∧
      ((relay 17).scope? (relayHome 17)).bind (·.import? (relayName 17)) = none := by
    decide +kernel
  obtain ⟨hreached, himports, hhidden, hdeclares, hnone⟩ := hlinks
  have hchain : (relay 17).IsChain 17 relayHome relayName := by
    refine ⟨fun i _ => Or.inr ⟨"m" ++ toString i, rfl⟩, hreached, himports, hhidden, hdeclares, ?_⟩
    intro target himport
    rw [imports_iff, hnone] at himport
    cases himport
  refine ⟨hchain, ?_, ?_, ?_⟩
  · exact (resolvePath_of_isChain hchain.tail (Or.inl ⟨rfl, rfl, by decide⟩)).1 (Nat.le_refl 16)
  · exact (resolvePath_of_isChain hchain (Or.inl ⟨rfl, rfl, by decide⟩)).2 (by decide)
  · exact (resolvePath_of_isChain hchain (Or.inr (by decide +kernel))).2 (by decide)

end ScopeTable
end FixtureFactory
