import FixtureFactory.Building
import FixtureFactory.Proofs.Outcome
import Mathlib.Data.List.Nodup

/-!
# What a successful build hands over

Building interleaves two things: default values are made, which may draw and may fail, and names
are claimed, which may collide.  Once a build has succeeded the two come apart again.

* The shape of a unit depends on the source unit and its fixtures alone.  `Fixture.BuildsTo` and
  `UnitFixtures.BuildsTo` say what it is; only the default values are left open.
* The names that have been claimed are distinct: those of the items within a unit, and those of
  the units.  Claims of earlier fixtures are carried along as a list of owned names, so the
  statements about a part of the loop name the claims it starts from.

`buildsTo_of_yields_buildUnits` puts the two together for all groups of a registry.
-/

namespace FixtureFactory

open Build

/-! ## Claims -/

theorem lookup_eq_none_iff_notMem (taken : Claims) (name : String) :
    taken.lookup name = none ↔ name ∉ taken.map Prod.fst := by
  rw [List.lookup_eq_none_iff, List.mem_map]
  constructor
  · rintro h ⟨claim, hclaim, rfl⟩
    exact absurd (h claim hclaim) (by simp)
  · intro h claim hclaim
    exact bne_iff_ne.mpr fun hname => h ⟨claim, hclaim, hname.symm⟩

/-- **Names can be claimed exactly when they are distinct and free**, and then they are claimed
for the owner, the latest first. -/
theorem claimItems_eq_ok_iff (unit owner : String) (names : List String) (taken taken' : Claims) :
    claimItems unit owner names taken = .ok taken' ↔
      names.Nodup ∧ (∀ name ∈ names, name ∉ taken.map Prod.fst) ∧
        taken' = (names.map fun name => (name, owner)).reverse ++ taken := by
  induction names generalizing taken with
  | nil => simp [claimItems, eq_comm]
  | cons name names ih =>
      rw [claimItems]
      cases hname : taken.lookup name with
      | some first =>
          -- the name has an owner, so neither side can hold
          have hmem : name ∈ taken.map Prod.fst := by
            by_contra hfree
            rw [(lookup_eq_none_iff_notMem taken name).mpr hfree] at hname
            cases hname
          simp only [reduceCtorEq, false_iff]
          rintro ⟨-, hfree, -⟩
          exact hfree name List.mem_cons_self hmem
      | none =>
          have hfree := (lookup_eq_none_iff_notMem taken name).mp hname
          have howned : ∀ other, other ∉ ((name, owner) :: taken).map Prod.fst ↔
              other ≠ name ∧ other ∉ taken.map Prod.fst := by
            intro other
            rw [List.map_cons, List.mem_cons, not_or]
          have hclaims : ((name :: names).map fun other => (other, owner)).reverse ++ taken =
              (names.map fun other => (other, owner)).reverse ++ (name, owner) :: taken := by
            rw [List.map_cons, List.reverse_cons, List.append_assoc, List.singleton_append]
          rw [ih, List.nodup_cons, List.forall_mem_cons, hclaims]
          constructor
          · rintro ⟨hnodup, hothers, htaken⟩
            exact ⟨⟨fun h => ((howned name).mp (hothers name h)).1 rfl, hnodup⟩,
              ⟨hfree, fun other h => ((howned other).mp (hothers other h)).2⟩, htaken⟩
          · rintro ⟨⟨hhead, hnodup⟩, ⟨-, hothers⟩, htaken⟩
            refine ⟨hnodup, fun other h => (howned other).mpr ⟨?_, hothers other h⟩, htaken⟩
            exact fun hother => hhead (hother ▸ h)

theorem mem_map_fst_of_claimItems {unit owner : String} {names : List String}
    {taken taken' : Claims} (h : claimItems unit owner names taken = .ok taken') (name : String) :
    name ∈ taken'.map Prod.fst ↔ name ∈ names ∨ name ∈ taken.map Prod.fst := by
  obtain ⟨-, -, rfl⟩ := (claimItems_eq_ok_iff ..).mp h
  simp

/-! ## Shapes -/

/-- An argument of the name and the type of a parameter. -/
def Parameter.BuildsTo (p : Parameter) (s : ParameterSpec) : Prop :=
  s.name = p.name ∧ s.type = p.type.render

/-- A factory of a fixture, whatever the default values of its arguments are. -/
def Fixture.BuildsTo (f : Fixture) (fn : FunctionSpec) : Prop :=
  ∃ parameters, List.Forall₂ Parameter.BuildsTo f.parameters parameters ∧
    fn = BuildContext.functionOf f parameters

/-- An output unit of a group of fixtures, whatever the default values are. -/
structure UnitFixtures.BuildsTo (host : Host) (naming : Naming) (group : UnitFixtures)
    (unit : UnitSpec) : Prop where
  /-- The unit is named after the source unit that the host knows by the group's identifier. -/
  source : ∃ source, host.unit? group.unit = some source ∧
    unit.name = outputUnitName source.baseName ∧ unit.sourcePath = source.path ∧
    unit.modulePath = naming.unitModule source
  /-- The factories are those of the fixtures, in their order. -/
  functions : List.Forall₂ Fixture.BuildsTo group.fixtures unit.functions
  /-- No two items of the unit share a name. -/
  nodup_items : (unit.functions.flatMap FunctionSpec.itemNames).Nodup

theorem Fixture.BuildsTo.map_name {f : Fixture} {fn : FunctionSpec} (h : f.BuildsTo fn) :
    fn.parameters.map ParameterSpec.name = f.parameters.map Parameter.name := by
  obtain ⟨parameters, hparameters, rfl⟩ := h
  rw [BuildContext.functionOf, ← List.forall₂_eq_eq_eq, List.forall₂_map_left_iff,
    List.forall₂_map_right_iff]
  exact hparameters.flip.imp fun _ _ hp => hp.1

/-! ## Successful builds -/

namespace BuildContext

variable (c : BuildContext)

theorem buildsTo_of_yields_parameterSpec {p : Parameter} {s : ParameterSpec}
    (h : Yields (c.parameterSpec p) s) : p.BuildsTo s := by
  rw [parameterSpec] at h
  obtain ⟨default, -, h⟩ := h.of_bind
  rw [← yields_pure_iff.mp h]
  exact ⟨rfl, rfl⟩

theorem buildsTo_of_yields_buildFunction {f : Fixture} {fn : FunctionSpec}
    (h : Yields (c.buildFunction f) fn) : f.BuildsTo fn := by
  rw [buildFunction] at h
  obtain ⟨parameters, hparameters, h⟩ := h.of_bind
  exact ⟨parameters,
    hparameters.of_mapM.imp fun p s => buildsTo_of_yields_parameterSpec c,
    (yields_pure_iff.mp h).symm⟩

/-- **The factories of a list of fixtures** are built one by one.  Their items are distinct among
each other and from all names that were taken before. -/
theorem forall₂_of_yields_buildFunctions {unit : String} {fs : List Fixture} {taken : Claims}
    {fns : List FunctionSpec} (h : Yields (c.buildFunctions unit fs taken) fns) :
    List.Forall₂ (fun f fn => Yields (c.buildFunction f) fn) fs fns ∧
      (fns.flatMap FunctionSpec.itemNames).Nodup ∧
      ∀ name ∈ fns.flatMap FunctionSpec.itemNames, name ∉ taken.map Prod.fst := by
  induction fs generalizing taken fns with
  | nil =>
      rw [buildFunctions, yields_pure_iff] at h
      rw [← h]
      exact ⟨.nil, List.nodup_nil, fun name hname => absurd hname List.not_mem_nil⟩
  | cons f fs ih =>
      rw [buildFunctions] at h
      obtain ⟨fn, hfn, h⟩ := h.of_bind
      cases hclaim : claimItems unit f.qualifiedName fn.itemNames taken with
      | error e =>
          rw [hclaim] at h
          exact absurd h (not_yields_throw e fns)
      | ok taken' =>
          rw [hclaim] at h
          obtain ⟨rest, hrest, h⟩ := h.of_bind
          obtain ⟨hbuilt, hnodup, hfresh⟩ := ih hrest
          have howned := mem_map_fst_of_claimItems hclaim
          obtain ⟨hitems, hfree, -⟩ := (claimItems_eq_ok_iff ..).mp hclaim
          rw [← yields_pure_iff.mp h, List.flatMap_cons]
          refine ⟨.cons hfn hbuilt, ?_, ?_⟩
          · refine List.nodup_append.mpr ⟨hitems, hnodup, ?_⟩
            intro a ha b hb hab
            exact hfresh b hb ((howned b).mpr (Or.inl (hab ▸ ha)))
          · intro name hname
            rcases List.mem_append.mp hname with hname | hname
            · exact hfree name hname
            · exact fun hold => hfresh name hname ((howned name).mpr (Or.inr hold))

theorem buildsTo_of_yields_buildUnit {host : Host} {source : SourceUnit} {group : UnitFixtures}
    {unit : UnitSpec} (hsource : host.unit? group.unit = some source)
    (h : Yields (c.buildUnit source group) unit) : group.BuildsTo host c.naming unit := by
  rw [buildUnit] at h
  obtain ⟨functions, hfunctions, h⟩ := h.of_bind
  obtain ⟨hbuilt, hnodup, -⟩ := c.forall₂_of_yields_buildFunctions hfunctions
  rw [← yields_pure_iff.mp h]
  exact ⟨⟨source, hsource, rfl, rfl, rfl⟩,
    hbuilt.imp fun _ _ => c.buildsTo_of_yields_buildFunction, hnodup⟩

/-- **The units of a list of groups** are built one by one.  Their names are distinct among each
other and from all names that were taken before. -/
theorem forall₂_of_yields_buildGroups {host : Host} {groups : List UnitFixtures}
    {taken : Claims} {units : List UnitSpec} (h : Yields (c.buildGroups host groups taken) units) :
    List.Forall₂ (fun group unit => ∃ source, host.unit? group.unit = some source ∧
        Yields (c.buildUnit source group) unit) groups units ∧
      (units.map UnitSpec.name).Nodup ∧
      ∀ name ∈ units.map UnitSpec.name, name ∉ taken.map Prod.fst := by
  induction groups generalizing taken units with
  | nil =>
      rw [buildGroups, yields_pure_iff] at h
      rw [← h]
      exact ⟨.nil, List.nodup_nil, fun name hname => absurd hname List.not_mem_nil⟩
  | cons group groups ih =>
      rw [buildGroups] at h
      cases hsource : host.unit? group.unit with
      | none =>
          rw [hsource] at h
          exact absurd h (not_yields_throw _ units)
      | some source =>
          rw [hsource] at h
          obtain ⟨unit, hunit, h⟩ := h.of_bind
          cases hname : taken.lookup unit.name with
          | some first =>
              rw [hname] at h
              exact absurd h (not_yields_throw _ units)
          | none =>
              rw [hname] at h
              obtain ⟨rest, hrest, h⟩ := h.of_bind
              obtain ⟨hbuilt, hnodup, hfresh⟩ := ih hrest
              rw [List.map_cons] at hfresh
              rw [← yields_pure_iff.mp h, List.map_cons]
              refine ⟨.cons ⟨source, hsource, hunit⟩ hbuilt,
                List.nodup_cons.mpr ⟨fun hmem => hfresh _ hmem List.mem_cons_self, hnodup⟩, ?_⟩
              intro name hmem
              rcases List.mem_cons.mp hmem with rfl | hmem
              · exact (lookup_eq_none_iff_notMem taken unit.name).mp hname
              · exact fun hold => hfresh name hmem (List.mem_cons_of_mem _ hold)

/-- **What a build of a registry hands over**: one unit for each group, in order, under distinct
names. -/
theorem buildsTo_of_yields_buildUnits {host : Host} {fixtures : FixtureRegistry}
    {units : List UnitSpec} (h : Yields (c.buildUnits host fixtures) units) :
    List.Forall₂ (UnitFixtures.BuildsTo host c.naming) fixtures.groups units ∧
      (units.map UnitSpec.name).Nodup := by
  obtain ⟨hbuilt, hnodup, -⟩ := c.forall₂_of_yields_buildGroups h
  refine ⟨hbuilt.imp ?_, hnodup⟩
  rintro group unit ⟨source, hsource, hunit⟩
  exact c.buildsTo_of_yields_buildUnit hsource hunit

end BuildContext
end FixtureFactory
