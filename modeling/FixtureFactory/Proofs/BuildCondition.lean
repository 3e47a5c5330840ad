import FixtureFactory.Proofs.BuiltUnits
import FixtureFactory.Proofs.FixedValues
import FixtureFactory.Proofs.Grouping

/-!
# When a build succeeds

A build goes through the groups of a registry, the fixtures of a group and the parameters of a
fixture.  It claims names on the way and stops at the first thing that goes wrong, so what it
reports depends on the order.  Whether it succeeds does not: `FixtureRegistry.Buildable` lists what
has to hold, each item of it independent of the others and of the order.

* Every unit is known to the host.
* The names of the output units are distinct.
* Within a unit, the names of all items are distinct, across the fixtures and across the three kinds
  of names.  The kinds do meet: the second factory of `Foo` is named like the first of `FooWith`.
* Every parameter has a value, which is `Parameter.HasValue`.

Without randomization this is exact (`buildUnits_succeeds_iff`).  With randomization it is not, for
then an entry other than the first may be taken, and a value may not be asked for at all; that the
names are distinct still follows from a success.
-/

namespace FixtureFactory

open Build

/-! ## Conditions -/

/-- The parameter has a value without randomization: there is an entry to take, the entry that is
taken can be constructed, and an adapter is there if one is needed. -/
def Parameter.HasValue (adapters : AdapterRegistry) (p : Parameter) : Prop :=
  match p.kind with
  | .enumeration entries => entries ≠ []
  | .sealed entries => ∃ first, entries.head? = some first ∧
      (first.isSingleton = true ∨ first.isFixture = true ∧ first.factory.isSome = true)
  | .adapterSupplied => adapters.contains p.type = true
  | _ => True

/-- The names of the items that are generated for a fixture. -/
def Fixture.itemNames (f : Fixture) : List String :=
  [Naming.factoryName f.enclosing f.simpleName, Naming.factoryWithName f.enclosing f.simpleName,
    Naming.argsName f.enclosing f.simpleName]

/-- The names of the output units of the groups whose unit is known. -/
def outputNames (host : Host) (groups : List UnitFixtures) : List String :=
  groups.filterMap fun group =>
    (host.unit? group.unit).map fun source => outputUnitName source.baseName

/-- What has to hold of the fixtures of a unit for a build without randomization. -/
structure UnitFixtures.Buildable (host : Host) (adapters : AdapterRegistry)
    (group : UnitFixtures) : Prop where
  known : ∃ source, host.unit? group.unit = some source
  nodup_items : (group.fixtures.flatMap Fixture.itemNames).Nodup
  values : ∀ f ∈ group.fixtures, ∀ p ∈ f.parameters, p.HasValue adapters

/-- What has to hold of a registry for a build without randomization. -/
structure FixtureRegistry.Buildable (host : Host) (adapters : AdapterRegistry)
    (fixtures : FixtureRegistry) : Prop where
  groups : ∀ group ∈ fixtures.groups, group.Buildable host adapters
  nodup_units : (outputNames host fixtures.groups).Nodup

@[simp] theorem outputNames_nil (host : Host) : outputNames host [] = [] := rfl

theorem outputNames_cons {host : Host} {group : UnitFixtures} {source : SourceUnit}
    (hsource : host.unit? group.unit = some source) (groups : List UnitFixtures) :
    outputNames host (group :: groups) =
      outputUnitName source.baseName :: outputNames host groups := by
  rw [outputNames, List.filterMap_cons, hsource]
  rfl

theorem Fixture.BuildsTo.itemNames_eq {f : Fixture} {fn : FunctionSpec} (h : f.BuildsTo fn) :
    fn.itemNames = f.itemNames := by
  obtain ⟨parameters, -, rfl⟩ := h
  rfl

/-! ## Fresh names -/

/-- The names are distinct among each other and from those that are taken. -/
def FreshNames (taken names : List String) : Prop :=
  names.Nodup ∧ ∀ name ∈ names, name ∉ taken

theorem freshNames_nil_left_iff {names : List String} : FreshNames [] names ↔ names.Nodup :=
  and_iff_left fun _ _ => List.not_mem_nil

/-- **Names are fresh in two parts**, the first of which is taken for the second. -/
theorem freshNames_append_iff {taken taken' xs ys : List String}
    (htaken : ∀ name, name ∈ taken' ↔ name ∈ xs ∨ name ∈ taken) :
    FreshNames taken (xs ++ ys) ↔ FreshNames taken xs ∧ FreshNames taken' ys := by
  rw [FreshNames, FreshNames, FreshNames, List.nodup_append]
  constructor
  · rintro ⟨⟨hxs, hys, hdisjoint⟩, hfree⟩
    refine ⟨⟨hxs, fun name hname => hfree name (List.mem_append_left ys hname)⟩, hys, ?_⟩
    intro name hname hold
    rcases (htaken name).mp hold with hx | hold
    · exact hdisjoint name hx name hname rfl
    · exact hfree name (List.mem_append_right xs hname) hold
  · rintro ⟨⟨hxs, hxsfree⟩, hys, hysfree⟩
    refine ⟨⟨hxs, hys, fun a ha b hb hab => ?_⟩, fun name hname => ?_⟩
    · exact hysfree b hb ((htaken b).mpr (Or.inl (hab ▸ ha)))
    · rcases List.mem_append.mp hname with hx | hy
      · exact hxsfree name hx
      · exact fun hold => hysfree name hy ((htaken name).mpr (Or.inr hold))

theorem exists_claimItems_iff {unit owner : String} {names : List String} {taken : Claims} :
    (∃ taken', claimItems unit owner names taken = .ok taken') ↔
      FreshNames (taken.map Prod.fst) names := by
  simp only [claimItems_eq_ok_iff, FreshNames, ← and_assoc, exists_and_left, exists_eq, and_true]

/-! ## Values -/

namespace DefaultValue

theorem exists_sealedValue_iff {type : TypeRef} {field : String} {entry : SealedEntry} :
    (∃ text, sealedValue type field entry = .ok text) ↔
      entry.isSingleton = true ∨ entry.isFixture = true ∧ entry.factory.isSome = true := by
  obtain ⟨name, singleton, fixture, factory⟩ := entry
  cases singleton <;> cases fixture <;> cases factory <;> simp [sealedValue]

/-- **A parameter has a fixed value exactly when it meets the condition of its kind.** -/
theorem exists_fixedValue_iff {adapters : AdapterRegistry} {p : Parameter} :
    (∃ value, fixedValue adapters p = .ok value) ↔ p.HasValue adapters := by
  rw [fixedValue, Parameter.HasValue]
  cases p.kind with
  | primitive kind => simp
  | knownType kind => simp
  | fixture factory => simp
  | enumeration entries => cases entries <;> simp [firstEntry, Except.map]
  | sealed entries =>
      cases entries with
      | nil => simp [firstEntry, Except.bind]
      | cons first rest =>
          have hfirst : (∃ text, sealedValue p.type p.name first = .ok text) ↔ _ :=
            exists_sealedValue_iff
          simp only [firstEntry, List.head?_cons, Except.bind, Option.some.injEq,
            exists_eq_left', exceptMap_eq_ok_iff, ← hfirst]
          constructor
          · rintro ⟨_, text, htext, -⟩
            exact ⟨text, htext⟩
          · rintro ⟨text, htext⟩
            exact ⟨_, text, htext, rfl⟩
  | collection kind elements => simp
  | adapterSupplied =>
      rw [AdapterRegistry.contains]
      cases adapters.find? p.type <;> simp

/-- A parameter has a default value exactly when it has a value. -/
theorem exists_yields_generate_iff {adapters : AdapterRegistry} {p : Parameter} :
    (∃ text, Yields (generate false adapters p) text) ↔ p.HasValue adapters := by
  rw [← exists_fixedValue_iff]
  constructor
  · rintro ⟨text, s, s', h⟩
    rw [run_generate_false, fixedDefault] at h
    obtain ⟨value, hvalue, -⟩ := exceptMap_eq_ok_iff.mp (congrArg Prod.fst h)
    exact ⟨value, hvalue⟩
  · rintro ⟨value, hvalue⟩
    refine ⟨wrap p.type value.1 value.2, ⟨fun _ => 0, 0⟩, ⟨fun _ => 0, 0⟩, ?_⟩
    rw [run_generate_false, fixedDefault, hvalue]
    rfl

end DefaultValue

/-! ## Builds -/

namespace BuildContext

variable {c : BuildContext}

theorem exists_yields_parameterSpec_iff (hc : c.randomize = false) {p : Parameter} :
    (∃ spec, Yields (c.parameterSpec p) spec) ↔ p.HasValue c.adapters := by
  rw [← DefaultValue.exists_yields_generate_iff, parameterSpec, hc]
  simp only [(DefaultValue.drawless_generate c.adapters p).yields_bind_iff, yields_pure_iff]
  constructor
  · rintro ⟨_, text, htext, -⟩
    exact ⟨text, htext⟩
  · rintro ⟨text, htext⟩
    exact ⟨_, text, htext, rfl⟩

/-- **What the factory of a fixture is**: that of its parameters, each with an argument. -/
theorem yields_buildFunction_iff (hc : c.randomize = false) {f : Fixture} {fn : FunctionSpec} :
    Yields (c.buildFunction f) fn ↔
      List.Forall₂ (fun p spec => Yields (c.parameterSpec p) spec) f.parameters fn.parameters ∧
        fn = functionOf f fn.parameters := by
  have hspec : ∀ p, Drawless (c.parameterSpec p) := drawless_parameterSpec hc
  rw [buildFunction]
  simp only [(drawless_mapM hspec f.parameters).yields_bind_iff, yields_pure_iff,
    yields_mapM_iff hspec]
  constructor
  · rintro ⟨specs, hspecs, rfl⟩
    exact ⟨hspecs, rfl⟩
  · rintro ⟨hspecs, hfn⟩
    exact ⟨fn.parameters, hspecs, hfn.symm⟩

/-- **A factory can be built exactly when its parameters have values.** -/
theorem exists_yields_buildFunction_iff (hc : c.randomize = false) {f : Fixture} :
    (∃ fn, Yields (c.buildFunction f) fn) ↔ ∀ p ∈ f.parameters, p.HasValue c.adapters := by
  simp only [← exists_yields_parameterSpec_iff hc, ← exists_forall₂_iff,
    yields_buildFunction_iff hc]
  constructor
  · rintro ⟨fn, hspecs, -⟩
    exact ⟨fn.parameters, hspecs⟩
  · rintro ⟨specs, hspecs⟩
    exact ⟨functionOf f specs, hspecs, rfl⟩

/-- **What the factories of a list of fixtures are**: those of the fixtures, under fresh names. -/
theorem yields_buildFunctions_iff (hc : c.randomize = false) {unit : String} {fs : List Fixture}
    {taken : Claims} {fns : List FunctionSpec} :
    Yields (c.buildFunctions unit fs taken) fns ↔
      List.Forall₂ (fun f fn => Yields (c.buildFunction f) fn) fs fns ∧
        FreshNames (taken.map Prod.fst) (fns.flatMap FunctionSpec.itemNames) := by
  refine ⟨c.forall₂_of_yields_buildFunctions, ?_⟩
  rintro ⟨hbuilt, hfresh⟩
  induction hbuilt generalizing taken with
  | nil => exact yields_pure_iff.mpr rfl
  | @cons f fn fs fns hfn _ ih =>
      have howned : ∀ name, name ∈ fn.itemNames ++ taken.map Prod.fst ↔ _ :=
        fun name => List.mem_append
      rw [List.flatMap_cons] at hfresh
      obtain ⟨taken', hclaim⟩ : ∃ taken', claimItems unit f.qualifiedName fn.itemNames taken =
          .ok taken' := exists_claimItems_iff.mpr ((freshNames_append_iff howned).mp hfresh).1
      have hrest := ih ((freshNames_append_iff (mem_map_fst_of_claimItems hclaim)).mp hfresh).2
      rw [buildFunctions, (drawless_buildFunction hc f).yields_bind_iff]
      refine ⟨fn, hfn, ?_⟩
      rw [hclaim]
      exact (drawless_buildFunctions hc unit fs taken').yields_bind_iff.mpr
        ⟨fns, hrest, yields_pure_iff.mpr rfl⟩

/-- **The factories of a list of fixtures can be built exactly when** their parameters have values
and their items have fresh names. -/
theorem exists_yields_buildFunctions_iff (hc : c.randomize = false) {unit : String}
    {fs : List Fixture} {taken : Claims} :
    (∃ fns, Yields (c.buildFunctions unit fs taken) fns) ↔
      (∀ f ∈ fs, ∀ p ∈ f.parameters, p.HasValue c.adapters) ∧
        FreshNames (taken.map Prod.fst) (fs.flatMap Fixture.itemNames) := by
  have hitems : ∀ fns, List.Forall₂ (fun f fn => Yields (c.buildFunction f) fn) fs fns →
      fns.flatMap FunctionSpec.itemNames = fs.flatMap Fixture.itemNames := by
    intro fns hbuilt
    rw [← List.forall₂_eq_eq_eq]
    refine List.rel_flatMap hbuilt.flip fun fn f hfn => ?_
    rw [List.forall₂_eq_eq_eq]
    exact (c.buildsTo_of_yields_buildFunction hfn).itemNames_eq
  have hbuilt : (∃ fns, List.Forall₂ (fun f fn => Yields (c.buildFunction f) fn) fs fns) ↔
      ∀ f ∈ fs, ∀ p ∈ f.parameters, p.HasValue c.adapters := by
    simp only [exists_forall₂_iff, exists_yields_buildFunction_iff hc]
  simp only [yields_buildFunctions_iff hc, ← hbuilt]
  constructor
  · rintro ⟨fns, hfns, hfresh⟩
    exact ⟨⟨fns, hfns⟩, hitems fns hfns ▸ hfresh⟩
  · rintro ⟨⟨fns, hfns⟩, hfresh⟩
    exact ⟨fns, hfns, (hitems fns hfns).symm ▸ hfresh⟩

/-- **What the unit of a group of fixtures is**: that of the source unit, with the factories of the
fixtures, whose items have distinct names. -/
theorem yields_buildUnit_iff (hc : c.randomize = false) {source : SourceUnit}
    {group : UnitFixtures} {unit : UnitSpec} :
    Yields (c.buildUnit source group) unit ↔
      (unit.name = outputUnitName source.baseName ∧ unit.sourcePath = source.path ∧
        unit.modulePath = c.naming.unitModule source) ∧
      List.Forall₂ (fun f fn => Yields (c.buildFunction f) fn) group.fixtures unit.functions ∧
      (unit.functions.flatMap FunctionSpec.itemNames).Nodup := by
  rw [buildUnit]
  simp only [(drawless_buildFunctions hc _ group.fixtures []).yields_bind_iff, yields_pure_iff,
    yields_buildFunctions_iff hc, List.map_nil, freshNames_nil_left_iff]
  constructor
  · rintro ⟨fns, hfns, rfl⟩
    exact ⟨⟨rfl, rfl, rfl⟩, hfns⟩
  · obtain ⟨name, path, module, fns⟩ := unit
    rintro ⟨⟨rfl, rfl, rfl⟩, hfns⟩
    exact ⟨fns, hfns, rfl⟩

/-- **The unit of a group of fixtures can be built exactly when** the parameters have values and the
items have distinct names. -/
theorem exists_yields_buildUnit_iff (hc : c.randomize = false) {source : SourceUnit}
    {group : UnitFixtures} :
    (∃ unit, Yields (c.buildUnit source group) unit) ↔
      (∀ f ∈ group.fixtures, ∀ p ∈ f.parameters, p.HasValue c.adapters) ∧
        (group.fixtures.flatMap Fixture.itemNames).Nodup := by
  have hfunctions :
      (∃ fns, Yields (c.buildFunctions (outputUnitName source.baseName) group.fixtures []) fns) ↔
        _ :=
    exists_yields_buildFunctions_iff hc
  rw [List.map_nil, freshNames_nil_left_iff] at hfunctions
  rw [← hfunctions, buildUnit]
  simp only [(drawless_buildFunctions hc _ group.fixtures []).yields_bind_iff, yields_pure_iff]
  constructor
  · rintro ⟨_, functions, hfunctions, -⟩
    exact ⟨functions, hfunctions⟩
  · rintro ⟨functions, hfunctions⟩
    exact ⟨_, functions, hfunctions, rfl⟩

/-- **What the units of a list of groups are**: those of the groups, under fresh names. -/
theorem yields_buildGroups_iff (hc : c.randomize = false) {host : Host}
    {groups : List UnitFixtures} {taken : Claims} {units : List UnitSpec} :
    Yields (c.buildGroups host groups taken) units ↔
      List.Forall₂ (fun group unit => ∃ source, host.unit? group.unit = some source ∧
        Yields (c.buildUnit source group) unit) groups units ∧
      FreshNames (taken.map Prod.fst) (units.map UnitSpec.name) := by
  refine ⟨c.forall₂_of_yields_buildGroups, ?_⟩
  rintro ⟨hbuilt, hfresh⟩
  induction hbuilt generalizing taken with
  | nil => exact yields_pure_iff.mpr rfl
  | @cons group unit groups units hunit _ ih =>
      obtain ⟨source, hsource, hunit⟩ := hunit
      have howned : ∀ other, other ∈ ((unit.name, source.path) :: taken).map Prod.fst ↔
          other ∈ [unit.name] ∨ other ∈ taken.map Prod.fst := by
        intro other
        rw [List.map_cons, List.mem_cons, List.mem_singleton]
      rw [List.map_cons, ← List.singleton_append, freshNames_append_iff howned] at hfresh
      obtain ⟨⟨-, hfree⟩, hfresh⟩ := hfresh
      rw [buildGroups, hsource, (drawless_buildUnit hc source group).yields_bind_iff]
      refine ⟨unit, hunit, ?_⟩
      rw [(lookup_eq_none_iff_notMem taken unit.name).mpr
        (hfree unit.name (List.mem_singleton_self unit.name))]
      exact (drawless_buildGroups hc host groups _).yields_bind_iff.mpr
        ⟨units, ih hfresh, yields_pure_iff.mpr rfl⟩

/-- **The units of a list of groups can be built exactly when** every group can and the units have
fresh names. -/
theorem exists_yields_buildGroups_iff (hc : c.randomize = false) {host : Host}
    {groups : List UnitFixtures} {taken : Claims} :
    (∃ units, Yields (c.buildGroups host groups taken) units) ↔
      (∀ group ∈ groups, group.Buildable host c.adapters) ∧
        FreshNames (taken.map Prod.fst) (outputNames host groups) := by
  let Built : UnitFixtures → UnitSpec → Prop := fun group unit =>
    ∃ source, host.unit? group.unit = some source ∧ Yields (c.buildUnit source group) unit
  have hnames : ∀ units, List.Forall₂ Built groups units →
      units.map UnitSpec.name = outputNames host groups := by
    intro units hbuilt
    induction hbuilt with
    | nil => rfl
    | cons hunit _ ih =>
        obtain ⟨source, hsource, hunit⟩ := hunit
        rw [List.map_cons, outputNames_cons hsource, ih, ((yields_buildUnit_iff hc).mp hunit).1.1]
  have hbuilt : (∃ units, List.Forall₂ Built groups units) ↔
      ∀ group ∈ groups, group.Buildable host c.adapters := by
    rw [exists_forall₂_iff]
    refine forall₂_congr fun group _ => ?_
    constructor
    · rintro ⟨unit, source, hsource, hunit⟩
      obtain ⟨hvalues, hitems⟩ := (exists_yields_buildUnit_iff hc).mp ⟨unit, hunit⟩
      exact ⟨⟨source, hsource⟩, hitems, hvalues⟩
    · rintro ⟨⟨source, hsource⟩, hitems, hvalues⟩
      obtain ⟨unit, hunit⟩ := (exists_yields_buildUnit_iff hc).mpr ⟨hvalues, hitems⟩
      exact ⟨unit, source, hsource, hunit⟩
  simp only [yields_buildGroups_iff hc, ← hbuilt]
  constructor
  · rintro ⟨units, hunits, hfresh⟩
    exact ⟨⟨units, hunits⟩, hnames units hunits ▸ hfresh⟩
  · rintro ⟨⟨units, hunits⟩, hfresh⟩
    exact ⟨units, hunits, (hnames units hunits).symm ▸ hfresh⟩

/-- **When a build succeeds.**  Whatever is drawn, the units of a successful build have distinct
names and so have the items of each unit.  Without randomization a build succeeds exactly when these
names are distinct, every unit is known and every parameter has a value.

What a build reports depends on the order in which it goes through the fixtures.  Whether it
succeeds does not, and `Buildable` speaks of no order.  With randomization another entry than the
first may be taken, and a value may not be asked for at all, so a success no longer says that every
parameter has a value. -/
theorem buildUnits_succeeds_iff (c : BuildContext) (host : Host) (fixtures : FixtureRegistry)
    (s : RandomSource) :
    (∀ units s', (c.buildUnits host fixtures).run s = (.ok units, s') →
      List.Forall₂ (UnitFixtures.BuildsTo host c.naming) fixtures.groups units ∧
      (units.map UnitSpec.name).Nodup ∧
      ∀ unit ∈ units, (unit.functions.flatMap FunctionSpec.itemNames).Nodup) ∧
    (c.randomize = false →
      ((∃ units s', (c.buildUnits host fixtures).run s = (.ok units, s')) ↔
        fixtures.Buildable host c.adapters)) := by
  constructor
  · intro units s' h
    obtain ⟨hbuilt, hnames⟩ := c.buildsTo_of_yields_buildUnits ⟨s, s', h⟩
    refine ⟨hbuilt, hnames, fun unit hunit => ?_⟩
    obtain ⟨group, -, hgroup⟩ := exists_mem_left_of_forall₂ hbuilt hunit
    exact hgroup.nodup_items
  · intro hc
    have hcondition : (∃ units, Yields (c.buildUnits host fixtures) units) ↔ _ :=
      exists_yields_buildGroups_iff hc
    rw [List.map_nil, freshNames_nil_left_iff] at hcondition
    constructor
    · rintro ⟨units, s', h⟩
      obtain ⟨hgroups, hnames⟩ := hcondition.mp ⟨units, s, s', h⟩
      exact ⟨hgroups, hnames⟩
    · rintro ⟨hgroups, hnames⟩
      obtain ⟨units, hunits⟩ := hcondition.mpr ⟨hgroups, hnames⟩
      exact ⟨units, s, (drawless_buildGroups hc host fixtures.groups []).run_of_yields hunits s⟩

/-- A host with one unit. -/
def singleUnit : Host where
  units := [⟨0, "src/lib.rs", "lib", "crate"⟩]
  markedFunctions _ := []
  markedTypes _ := []
  resolve _ := none
  fields _ := []
  cases _ := []

/-- A fixture without parameters. -/
def bareFixture (name : String) : Fixture :=
  ⟨"crate::" ++ name, name, [], 0, .named ("crate::" ++ name), [], ⟨"src/lib.rs", 1, 1⟩⟩

/-- A fixture whose parameters have values, among them an optional one of a type with a case that
cannot be constructed. -/
def order : Fixture :=
  { bareFixture "Order" with
    parameters :=
      [⟨"color", .named "crate::Color", .enumeration ["Red", "Green"]⟩,
       ⟨"payment", .optional (.named "crate::Payment"),
        .sealed [⟨"Cash", true, false, none⟩, ⟨"Cheque", false, false, none⟩]⟩] }

/-- Two fixtures whose names differ can be built unless the items that are generated for them meet:
the second factory of `Order` and the first of `OrderWith` have one name. -/
theorem buildUnits_order_with :
    let c : BuildContext := ⟨⟨Naming.defaultRoot⟩, .empty, false⟩
    let s : RandomSource := ⟨fun _ => 0, 0⟩
    let apart := FixtureRegistry.ofList [order, bareFixture "OrderLine"]
    let meeting := FixtureRegistry.ofList [order, bareFixture "OrderWith"]
    c.randomize = false ∧
    apart.Buildable singleUnit c.adapters ∧
    (∃ units s', (c.buildUnits singleUnit apart).run s = (.ok units, s')) ∧
    ¬ (∃ units s', (c.buildUnits singleUnit meeting).run s = (.ok units, s')) := by
  intro c s apart meeting
  have horder : ∀ p ∈ order.parameters, p.HasValue c.adapters :=
    List.forall_mem_cons.mpr
      ⟨List.cons_ne_nil _ _, List.forall_mem_singleton.mpr ⟨_, rfl, Or.inl rfl⟩⟩
  have hgroup : (⟨0, [order, bareFixture "OrderLine"]⟩ : UnitFixtures).Buildable singleUnit
      c.adapters := by
    refine ⟨⟨_, rfl⟩, by decide, List.forall_mem_cons.mpr ⟨horder, ?_⟩⟩
    exact List.forall_mem_singleton.mpr fun p hp => absurd hp List.not_mem_nil
  have hapart : apart.Buildable singleUnit c.adapters :=
    ⟨List.forall_mem_singleton.mpr hgroup, by decide⟩
  refine ⟨rfl, hapart, ?_, ?_⟩
  · exact ((buildUnits_succeeds_iff c singleUnit apart s).2 rfl).mpr hapart
  · intro h
    have hbuildable := ((buildUnits_succeeds_iff c singleUnit meeting s).2 rfl).mp h
    have hnodup := (hbuildable.groups _ List.mem_cons_self).nodup_items
    exact absurd hnodup (by decide)

end BuildContext
end FixtureFactory
