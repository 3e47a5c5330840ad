import FixtureFactory.Registry.Fixtures
import Mathlib.Data.List.Forall2
import Mathlib.Data.List.Induction
import Mathlib.Data.List.Nodup
import Mathlib.Data.List.Perm.Basic

/-!
# Grouping by unit

Output units follow the groups of the fixture registry, so their order and their contents are
decided here.  The registry is filled one fixture at a time and keeps a table of positions on the
side; what it amounts to is the *stable grouping* of the fixtures.

* `stableGroups`: the keys in the order in which they first occur, each with its elements in the
  order of the list.
* `stableGroups_concat_of_mem`, `stableGroups_concat_of_notMem`: what one more element changes.
* `perm_flatMap_stableGroups`: the groups hold every element exactly as often as the list does.
* `forall₂_stableGroups`: lists that correspond element by element, keys included, have groups
  that correspond element by element.
* `ofList_eq_grouped`: the registry of a list of fixtures is its stable grouping, the table of
  positions and the order across groups included.
* `groups_ofList`: what that means for the groups, for the table and for the order, one by one.
-/

namespace FixtureFactory

variable {α β : Type}

/-! ## Keys in order of discovery -/

theorem eraseDups_concat (ks : List Nat) (k : Nat) :
    (ks ++ [k]).eraseDups = if k ∈ ks then ks.eraseDups else ks.eraseDups ++ [k] := by
  rw [List.eraseDups_append]
  by_cases h : k ∈ ks <;> simp [List.removeAll, List.eraseDups_cons, h]

theorem nodup_eraseDups (ks : List Nat) : ks.eraseDups.Nodup := by
  induction ks using List.reverseRecOn with
  | nil => exact List.nodup_nil
  | append_singleton ks k ih =>
      rw [eraseDups_concat]
      split
      · exact ih
      · rename_i hk
        refine List.nodup_append.mpr ⟨ih, List.nodup_singleton k, ?_⟩
        intro a ha b hb hab
        rw [List.mem_singleton.mp hb] at hab
        exact hk (hab ▸ List.mem_eraseDups.mp ha)

/-- Keys without repetition stand in the order in which they first occur. -/
theorem pairwise_idxOf_eraseDups (ks : List Nat) :
    ks.eraseDups.Pairwise fun j k => ks.idxOf j < ks.idxOf k := by
  induction ks using List.reverseRecOn with
  | nil => exact List.Pairwise.nil
  | append_singleton ks k ih =>
      have hold : ∀ j ∈ ks.eraseDups, (ks ++ [k]).idxOf j = ks.idxOf j := fun j hj =>
        List.idxOf_append_of_mem (List.mem_eraseDups.mp hj)
      have hkeys : ks.eraseDups.Pairwise fun i j => (ks ++ [k]).idxOf i < (ks ++ [k]).idxOf j :=
        ih.imp_of_mem fun hi hj hij => by rwa [hold _ hi, hold _ hj]
      rw [eraseDups_concat]
      split
      · exact hkeys
      · next hk =>
          -- a new key comes after the first position of every old one
          refine List.pairwise_append.mpr ⟨hkeys, List.pairwise_singleton _ _, ?_⟩
          intro j hj new hnew
          rw [List.mem_singleton.mp hnew, hold j hj, List.idxOf_append_of_notMem hk]
          have hlt := List.idxOf_lt_length_of_mem (List.mem_eraseDups.mp hj)
          omega

/-! ## Stable groups -/

/-- The elements of a list by key: the keys in the order in which they first occur, each with its
elements in the order of the list. -/
def stableGroups (key : α → Nat) (xs : List α) : List (Nat × List α) :=
  (xs.map key).eraseDups.map fun k => (k, xs.filter fun x => key x == k)

theorem map_fst_stableGroups (key : α → Nat) (xs : List α) :
    (stableGroups key xs).map Prod.fst = (xs.map key).eraseDups := by
  rw [stableGroups, List.map_map]
  exact List.map_id _

/-- **An element of a known key joins the group of that key.** -/
theorem stableGroups_concat_of_mem {key : α → Nat} {xs : List α} {x : α}
    (h : key x ∈ xs.map key) :
    stableGroups key (xs ++ [x]) =
      (stableGroups key xs).map fun g => (g.1, if key x = g.1 then g.2 ++ [x] else g.2) := by
  rw [stableGroups, stableGroups, List.map_append, List.map_singleton, eraseDups_concat,
    if_pos h, List.map_map]
  refine List.map_congr_left fun k _ => ?_
  by_cases hk : key x = k <;> simp [hk]

/-- **An element of a new key opens a group at the end.** -/
theorem stableGroups_concat_of_notMem {key : α → Nat} {xs : List α} {x : α}
    (h : key x ∉ xs.map key) :
    stableGroups key (xs ++ [x]) = stableGroups key xs ++ [(key x, [x])] := by
  have hne : ∀ y ∈ xs, key y ≠ key x := fun y hy hyx => h (List.mem_map.mpr ⟨y, hy, hyx⟩)
  have hnew : xs.filter (fun y => key y == key x) = [] := by
    simpa [List.filter_eq_nil_iff] using hne
  rw [stableGroups, stableGroups, List.map_append, List.map_singleton, eraseDups_concat,
    if_neg h, List.map_append, List.map_singleton]
  congr 1
  · refine List.map_congr_left fun k hk => ?_
    have hxk : key x ≠ k := fun hxk => h (hxk ▸ List.mem_eraseDups.mp hk)
    simp [hxk]
  · simp [hnew]

theorem snd_ne_nil_of_mem_stableGroups {key : α → Nat} {xs : List α} {g : Nat × List α}
    (h : g ∈ stableGroups key xs) : g.2 ≠ [] := by
  rw [stableGroups, List.mem_map] at h
  obtain ⟨k, hk, rfl⟩ := h
  obtain ⟨x, hx, rfl⟩ := List.mem_map.mp (List.mem_eraseDups.mp hk)
  exact List.ne_nil_of_mem (List.mem_filter.mpr ⟨hx, beq_self_eq_true _⟩)

theorem exists_mem_stableGroups {key : α → Nat} {xs : List α} {x : α} (hx : x ∈ xs) :
    ∃ g ∈ stableGroups key xs, g.1 = key x ∧ x ∈ g.2 := by
  refine ⟨(key x, xs.filter fun y => key y == key x), ?_, rfl, ?_⟩
  · exact List.mem_map.mpr ⟨key x, List.mem_eraseDups.mpr (List.mem_map_of_mem hx), rfl⟩
  · exact List.mem_filter.mpr ⟨hx, beq_self_eq_true _⟩

theorem key_of_mem_stableGroups {key : α → Nat} {xs : List α} {g : Nat × List α}
    (hg : g ∈ stableGroups key xs) {x : α} (hx : x ∈ g.2) : key x = g.1 := by
  rw [stableGroups, List.mem_map] at hg
  obtain ⟨k, -, rfl⟩ := hg
  exact beq_iff_eq.mp (List.mem_filter.mp hx).2

/-- Sorting a list into the groups of distinct keys keeps every element whose key is listed. -/
theorem perm_flatMap_filter {key : α → Nat} {ks : List Nat} (hks : ks.Nodup) :
    ∀ {xs : List α}, (∀ x ∈ xs, key x ∈ ks) →
      (ks.flatMap fun k => xs.filter fun x => key x == k).Perm xs := by
  induction ks with
  | nil =>
      intro xs hxs
      cases xs with
      | nil => exact .nil
      | cons x xs => exact absurd (hxs x List.mem_cons_self) List.not_mem_nil
  | cons k ks ih =>
      intro xs hxs
      obtain ⟨hk, hks⟩ := List.nodup_cons.mp hks
      -- the later groups do not see the elements of the first one
      have hrest : (ks.flatMap fun k' => xs.filter fun x => key x == k') =
          ks.flatMap fun k' => (xs.filter fun x => !(key x == k)).filter fun x => key x == k' := by
        refine List.flatMap_congr fun k' hk' => ?_
        rw [List.filter_filter]
        refine List.filter_congr fun x _ => ?_
        have hne : k' ≠ k := fun h => hk (h ▸ hk')
        by_cases hx : key x = k'
        · simp [hx, hne]
        · simp [hx]
      rw [List.flatMap_cons, hrest]
      refine ((ih hks ?_).append_left _).trans (List.filter_append_perm _ xs)
      intro x hx
      obtain ⟨hx, hxk⟩ := List.mem_filter.mp hx
      exact (List.mem_cons.mp (hxs x hx)).resolve_left (by simpa using hxk)

/-- **Grouping loses, doubles and invents nothing.** -/
theorem perm_flatMap_stableGroups (key : α → Nat) (xs : List α) :
    ((stableGroups key xs).flatMap Prod.snd).Perm xs := by
  rw [stableGroups, List.flatMap_map]
  exact perm_flatMap_filter (nodup_eraseDups _) fun x hx =>
    List.mem_eraseDups.mpr (List.mem_map_of_mem hx)

/-- **Lists that correspond have groups that correspond.** -/
theorem forall₂_stableGroups {R : α → β → Prop} {key : α → Nat} {key' : β → Nat}
    (hkey : ∀ a b, R a b → key a = key' b) {xs : List α} {ys : List β}
    (h : List.Forall₂ R xs ys) :
    List.Forall₂ (fun g g' => g.1 = g'.1 ∧ List.Forall₂ R g.2 g'.2)
      (stableGroups key xs) (stableGroups key' ys) := by
  have hkeys : xs.map key = ys.map key' := by
    rw [← List.forall₂_eq_eq_eq, List.forall₂_map_left_iff, List.forall₂_map_right_iff]
    exact h.imp hkey
  rw [stableGroups, stableGroups, hkeys, List.forall₂_map_left_iff, List.forall₂_map_right_iff]
  refine List.forall₂_same.mpr fun k _ => ⟨rfl, ?_⟩
  refine List.rel_filter (fun {a b} hab => ?_) h
  show (key a == k) = true ↔ (key' b == k) = true
  rw [hkey a b hab]

/-! ## The registry of a list of fixtures -/

/-- Looking a key up among numbered keys gives its position. -/
theorem lookup_zipIdx (ks : List Nat) (k n : Nat) :
    (ks.zipIdx n).lookup k = if k ∈ ks then some (n + ks.idxOf k) else none := by
  induction ks generalizing n with
  | nil => rfl
  | cons j ks ih =>
      rw [List.zipIdx_cons, List.lookup_cons, ih (n + 1)]
      by_cases hkj : k = j
      · simp [hkj]
      · rw [beq_false_of_ne hkj, List.idxOf_cons_ne _ fun h => hkj h.symm]
        by_cases hk : k ∈ ks
        · simp [hk, Nat.add_assoc, Nat.add_comm 1]
        · simp [hkj, hk]

/-- Changing the element at the position of its key changes the element of that key. -/
theorem modify_idxOf {key : α → Nat} (f : α → α) (k : Nat) :
    ∀ {xs : List α}, (xs.map key).Nodup → k ∈ xs.map key →
      xs.modify ((xs.map key).idxOf k) f = xs.map fun x => if k = key x then f x else x
  | [], _, hk => absurd hk List.not_mem_nil
  | x :: xs, hnodup, hk => by
      rw [List.map_cons] at hnodup hk
      obtain ⟨hx, hxs⟩ := List.nodup_cons.mp hnodup
      rw [List.map_cons, List.map_cons]
      by_cases hkx : k = key x
      · -- the keys are distinct, so nothing behind the head changes
        have hrest : (xs.map fun y => if k = key y then f y else y) = xs := by
          refine (List.map_congr_left fun y hy => ?_).trans (List.map_id _)
          refine if_neg fun hky => hx ?_
          rw [← hkx, hky]
          exact List.mem_map_of_mem hy
        rw [if_pos hkx, hrest, hkx, List.idxOf_cons_self, List.modify_zero_cons]
      · rw [if_neg hkx, List.idxOf_cons_ne _ fun h => hkx h.symm, List.modify_succ_cons,
          modify_idxOf f k hxs ((List.mem_cons.mp hk).resolve_left hkx)]

namespace FixtureRegistry

/-- The registry of a list of fixtures, registered from the left. -/
def ofList (fs : List Fixture) : FixtureRegistry := fs.foldl register empty

/-- What the registry of a list holds: its stable groups, each unit's position among them, and the
names in the order of registration. -/
def grouped (fs : List Fixture) : FixtureRegistry where
  groups := (stableGroups Fixture.unit fs).map fun g => ⟨g.1, g.2⟩
  positions := (fs.map Fixture.unit).eraseDups.zipIdx
  order := fs.map Fixture.qualifiedName

theorem map_unit_grouped (fs : List Fixture) :
    (grouped fs).groups.map UnitFixtures.unit = (fs.map Fixture.unit).eraseDups := by
  rw [← map_fst_stableGroups, grouped, List.map_map]
  rfl

/-- A fixture of a unit that is known already. -/
theorem register_grouped_of_mem {fs : List Fixture} {f : Fixture}
    (h : f.unit ∈ fs.map Fixture.unit) : (grouped fs).register f = grouped (fs ++ [f]) := by
  have hkeys := map_unit_grouped fs
  have hlookup : (grouped fs).positions.lookup f.unit =
      some (((grouped fs).groups.map UnitFixtures.unit).idxOf f.unit) := by
    rw [hkeys, grouped, lookup_zipIdx, if_pos (List.mem_eraseDups.mpr h), Nat.zero_add]
  have hgroups : addAt (grouped fs).groups
      (((grouped fs).groups.map UnitFixtures.unit).idxOf f.unit) f =
        (grouped (fs ++ [f])).groups := by
    rw [addAt, modify_idxOf _ _ (hkeys ▸ nodup_eraseDups _) (hkeys ▸ List.mem_eraseDups.mpr h),
      grouped, grouped, stableGroups_concat_of_mem h, List.map_map, List.map_map]
    refine List.map_congr_left fun g _ => ?_
    by_cases hg : f.unit = g.1 <;> simp [hg]
  rw [register, hlookup]
  simp only [hgroups]
  simp [grouped, eraseDups_concat, h]

theorem register_grouped_of_notMem {fs : List Fixture} {f : Fixture}
    (h : f.unit ∉ fs.map Fixture.unit) : (grouped fs).register f = grouped (fs ++ [f]) := by
  have hlookup : (grouped fs).positions.lookup f.unit = none := by
    rw [grouped, lookup_zipIdx, if_neg fun hk => h (List.mem_eraseDups.mp hk)]
  have hlength : (grouped fs).groups.length = (fs.map Fixture.unit).eraseDups.length := by
    rw [← map_fst_stableGroups, grouped, List.length_map, List.length_map]
  rw [register, hlookup]
  simp only [hlength]
  simp [grouped, stableGroups_concat_of_notMem h, eraseDups_concat, h, List.zipIdx_append]

/-- **The registry of a list of fixtures is its stable grouping.** -/
theorem ofList_eq_grouped (fs : List Fixture) : ofList fs = grouped fs := by
  induction fs using List.reverseRecOn with
  | nil => rfl
  | append_singleton fs f ih =>
      have hconcat : ofList (fs ++ [f]) = (ofList fs).register f := by
        rw [ofList, ofList, List.foldl_concat]
      rw [hconcat, ih]
      by_cases h : f.unit ∈ fs.map Fixture.unit
      · exact register_grouped_of_mem h
      · exact register_grouped_of_notMem h

theorem size_ofList (fs : List Fixture) : (ofList fs).size = fs.length := by
  rw [ofList_eq_grouped, size, grouped, List.length_map]

theorem unit_of_mem_fixtures {fs : List Fixture} {group : UnitFixtures}
    (hgroup : group ∈ (ofList fs).groups) {f : Fixture} (hf : f ∈ group.fixtures) :
    f.unit = group.unit := by
  rw [ofList_eq_grouped, grouped, List.mem_map] at hgroup
  obtain ⟨g, hg, rfl⟩ := hgroup
  exact key_of_mem_stableGroups hg hf

theorem toList_ofList_perm (fs : List Fixture) : (ofList fs).toList.Perm fs := by
  rw [ofList_eq_grouped, toList, grouped, List.flatMap_map]
  exact perm_flatMap_stableGroups Fixture.unit fs

/-! ## What registration leaves -/

/-- A registry groups a list of fixtures: the three parts that a registration changes agree with
the list and with each other. -/
structure Groups (r : FixtureRegistry) (fs : List Fixture) : Prop where
  /-- A unit has a group exactly if a fixture of it has been registered. -/
  mem_units : ∀ unit, unit ∈ r.groups.map UnitFixtures.unit ↔ unit ∈ fs.map Fixture.unit
  /-- The groups stand in the order of the first fixtures of their units, so no unit has two. -/
  ordered : r.groups.Pairwise fun g h =>
    (fs.map Fixture.unit).idxOf g.unit < (fs.map Fixture.unit).idxOf h.unit
  /-- A group holds the fixtures of its unit, in the order of their registration. -/
  fixtures : ∀ group ∈ r.groups, group.fixtures = fs.filter fun f => f.unit == group.unit
  /-- Together the groups hold every fixture as often as it has been registered. -/
  perm : r.toList.Perm fs
  /-- The table of positions leads from a unit to the position of its group, and a unit without a
  group has no entry. -/
  positions : ∀ unit position, r.positions.lookup unit = some position ↔
    (r.groups[position]?).map UnitFixtures.unit = some unit
  order : r.order = fs.map Fixture.qualifiedName
  size : r.size = fs.length

/-- The table of positions and the list of groups say the same of every unit. -/
theorem lookup_positions_grouped (fs : List Fixture) (unit position : Nat) :
    (grouped fs).positions.lookup unit = some position ↔
      ((grouped fs).groups[position]?).map UnitFixtures.unit = some unit := by
  have hlookup : (grouped fs).positions.lookup unit =
      if unit ∈ (fs.map Fixture.unit).eraseDups
      then some ((fs.map Fixture.unit).eraseDups.idxOf unit) else none := by
    rw [grouped, lookup_zipIdx, Nat.zero_add]
  rw [hlookup, ← List.getElem?_map, map_unit_grouped]
  constructor
  · intro h
    split at h
    · next hunit =>
        rw [← Option.some.inj h]
        exact List.getElem?_idxOf hunit
    · cases h
  · intro h
    obtain ⟨hlt, hunit⟩ := List.getElem?_eq_some_iff.mp h
    rw [if_pos (hunit ▸ List.getElem_mem hlt), ← hunit, (nodup_eraseDups _).idxOf_getElem]

/-- **Registration groups by unit**, however the units of the fixtures are interleaved.  A position
that the table gives is that of a group, so the change of that group always happens.

So the registry of a list is its stable grouping.  The groups come in the order in which their units
first occur, and the fixtures of a group in the order of the list. -/
theorem groups_ofList (fs : List Fixture) : (ofList fs).Groups fs := by
  have hkeys : (ofList fs).groups.map UnitFixtures.unit = (fs.map Fixture.unit).eraseDups := by
    rw [ofList_eq_grouped, map_unit_grouped]
  refine ⟨?_, ?_, ?_, toList_ofList_perm fs, ?_, ?_, size_ofList fs⟩
  · intro unit
    rw [hkeys, List.mem_eraseDups]
  · rw [← List.pairwise_map (f := UnitFixtures.unit) (R := fun j k =>
      (fs.map Fixture.unit).idxOf j < (fs.map Fixture.unit).idxOf k), hkeys]
    exact pairwise_idxOf_eraseDups _
  · intro group hgroup
    rw [ofList_eq_grouped, grouped, stableGroups, List.map_map, List.mem_map] at hgroup
    obtain ⟨unit, -, rfl⟩ := hgroup
    rfl
  · intro unit position
    rw [ofList_eq_grouped]
    exact lookup_positions_grouped fs unit position
  · rw [ofList_eq_grouped]
    rfl

end FixtureRegistry
end FixtureFactory
