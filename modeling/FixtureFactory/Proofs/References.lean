import FixtureFactory.Proofs.Discovery
import FixtureFactory.SourceIndex

/-!
# References to factories

A parameter whose default value is made by another factory refers to that factory by a module and a
name.  The reference is taken while the fields of one declaration are classified; the function that
it names is built later, with the unit of another declaration.  Nothing hands the one to the other.
This file proves that they meet: after a run that succeeds, every reference names one function
among the units, and one only.

## Why there is a function

The reference is taken from a declaration that a type refers to and that is marked.  For the two
kinds of hosts that there are, such a declaration is listed among the marked ones (`Host.Coherent`),
so the scan has it, and so have the units.

## Why there is no other

A module determines its unit, since the module is made of the name of the unit and those names are
claimed; within a unit the names of the functions are claimed.  This is uniqueness of the *pair* of
module and name.  The joined text alone would not do, for the pieces of a path may themselves hold
the separator.
-/

namespace FixtureFactory

/-! ## The hosts -/

/-- The two kinds of hosts: filled by hand, or read from sources. -/
inductive Host.Supplied : Host → Prop where
  | catalogue (c : Catalogue) : Supplied c.toHost
  | index (index : SourceIndex) : Supplied index.toHost

/-- What a type refers to fits with the rest of the host. -/
structure Host.Coherent (host : Host) : Prop where
  /-- A marked declaration that a type refers to is listed. -/
  mem_markedTypes : ∀ {t : TypeRef} {d : TypeDeclaration} {m : Marker},
    host.resolve t = some d → d.hasMarker m = true → d ∈ host.markedTypes m
  /-- The qualified name of a declaration that a type refers to is the name of a declaration. -/
  resolve_qualifiedName : ∀ {t t' : TypeRef} {d : TypeDeclaration},
    host.resolve t = some d → t'.path = d.qualifiedName →
      ∃ d', host.resolve t' = some d' ∧ d'.qualifiedName = d.qualifiedName

namespace Catalogue

variable {c : Catalogue} {t : TypeRef} {d : TypeDeclaration}

theorem mem_of_single?_eq_some {α : Type} {xs : List α} {x : α} (h : single? xs = some x) :
    x ∈ xs := by
  match xs, h with
  | [_], rfl => exact List.mem_cons_self

/-- A declaration that a type refers to is in the catalogue. -/
theorem mem_types_of_resolve (h : c.resolve t = some d) : d ∈ c.types := by
  rw [resolve] at h
  cases hfind : c.types.find? fun e => e.qualifiedName == t.path with
  | some e =>
      rw [hfind] at h
      exact Option.some.inj h ▸ List.mem_of_find?_eq_some hfind
  | none =>
      rw [hfind] at h
      by_cases hpath : isQualified t.path = true
      · rw [if_pos hpath] at h
        cases h
      · rw [if_neg hpath] at h
        exact List.mem_of_mem_filter (mem_of_single?_eq_some h)

theorem coherent_toHost (c : Catalogue) : c.toHost.Coherent where
  mem_markedTypes := by
    intro t d m hresolve hmarker
    exact List.mem_mergeSort.mpr (List.mem_filter.mpr ⟨mem_types_of_resolve hresolve, hmarker⟩)
  resolve_qualifiedName := by
    intro t t' d hresolve hpath
    have hmem := mem_types_of_resolve hresolve
    cases hfind : c.types.find? fun e => e.qualifiedName == t'.path with
    | none =>
        have hnone := List.find?_eq_none.mp hfind d hmem
        exact absurd (beq_iff_eq.mpr hpath.symm) hnone
    | some e =>
        refine ⟨e, ?_, ?_⟩
        · show c.resolve t' = some e
          rw [resolve, hfind]
        · have hname := List.find?_some hfind
          rw [← hpath]
          exact beq_iff_eq.mp hname

end Catalogue

namespace SourceIndex

theorem exists_of_lastOf_eq_some {α : Type} {index : SourceIndex} {name : String}
    {ask : IndexedType → Option α} {a : α} (h : index.lastOf name ask = some a) :
    ∃ t ∈ index.types, t.declaration.qualifiedName = name ∧ ask t = some a := by
  obtain ⟨t, ht, hask⟩ := List.mem_filterMap.mp (List.mem_of_getLast? h)
  by_cases hname : t.declaration.qualifiedName = name
  · rw [if_pos (beq_iff_eq.mpr hname)] at hask
    exact ⟨t, ht, hname, hask⟩
  · rw [if_neg (mt beq_iff_eq.mp hname)] at hask
    cases hask

theorem coherent_toHost (index : SourceIndex) : index.toHost.Coherent where
  mem_markedTypes := by
    intro t d m hresolve hmarker
    obtain ⟨indexed, hindexed, -, hd⟩ := exists_of_lastOf_eq_some hresolve
    refine List.mem_filter.mpr ⟨List.mem_map.mpr ⟨indexed, hindexed, ?_⟩, hmarker⟩
    exact Option.some.inj hd
  resolve_qualifiedName := by
    intro t t' d hresolve hpath
    obtain ⟨indexed, -, hname, hd⟩ := exists_of_lastOf_eq_some hresolve
    have hsame : t'.path = t.path := by
      rw [hpath, ← Option.some.inj hd, hname]
    refine ⟨d, ?_, rfl⟩
    rw [← hresolve]
    show index.lastOf t'.path _ = index.lastOf t.path _
    rw [hsame]

end SourceIndex

theorem Host.Supplied.coherent {host : Host} (h : host.Supplied) : host.Coherent := by
  cases h with
  | catalogue c => exact c.coherent_toHost
  | index index => exact index.coherent_toHost

/-! ## Functions by module and name -/

/-- The functions that a reference names. -/
def factoriesAt (units : List UnitSpec) (ref : FactoryRef) : List FunctionSpec :=
  (units.filter fun unit => unit.modulePath == ref.modulePath).flatMap fun unit =>
    unit.functions.filter fun fn => fn.name == ref.function

/-- Where keys are distinct, an element is the only one of its key. -/
theorem filter_eq_singleton {α : Type} {key : α → String} {xs : List α}
    (hxs : (xs.map key).Nodup) {x : α} (hx : x ∈ xs) :
    (xs.filter fun y => key y == key x) = [x] := by
  induction xs with
  | nil => exact absurd hx List.not_mem_nil
  | cons y ys ih =>
      rw [List.map_cons, List.nodup_cons] at hxs
      obtain ⟨hy, hys⟩ := hxs
      rcases List.mem_cons.mp hx with rfl | hx
      · have hnone : (ys.filter fun y => key y == key x) = [] := by
          refine List.filter_eq_nil_iff.mpr fun z hz hzx => hy ?_
          rw [← beq_iff_eq.mp hzx]
          exact List.mem_map_of_mem hz
        rw [List.filter_cons, if_pos (beq_self_eq_true (key x)), hnone]
      · have hne : key y ≠ key x := fun hyx => hy (hyx ▸ List.mem_map_of_mem hx)
        rw [List.filter_cons, if_neg (mt beq_iff_eq.mp hne), ih hys hx]

section Units

variable {host : Host} {naming : Naming} {groups : List (Nat × List TypeDeclaration)}
  {units : List UnitSpec}

theorem UnitSpec.Covers.modulePath_eq {group : Nat × List TypeDeclaration} {unit : UnitSpec}
    (h : unit.Covers host naming group) : unit.modulePath = naming.root ++ "::" ++ unit.name := by
  obtain ⟨source, -, hname, -, hmodule⟩ := h.source
  rw [hmodule, hname, Naming.unitModule]

/-- **Units of distinct names have distinct modules.** -/
theorem nodup_modulePath (hcovers : List.Forall₂ (UnitSpec.Covers host naming) groups units)
    (hnames : (units.map UnitSpec.name).Nodup) : (units.map UnitSpec.modulePath).Nodup := by
  have hmodules : units.map UnitSpec.modulePath =
      (units.map UnitSpec.name).map (naming.root ++ "::" ++ ·) := by
    rw [List.map_map]
    refine List.map_congr_left fun unit hunit => ?_
    obtain ⟨group, -, hunit⟩ := exists_mem_left_of_forall₂ hcovers hunit
    exact hunit.modulePath_eq
  rw [hmodules]
  exact hnames.map fun a b hab => (String.append_right_inj _).mp hab

theorem UnitSpec.Covers.nodup_name {group : Nat × List TypeDeclaration} {unit : UnitSpec}
    (h : unit.Covers host naming group) : (unit.functions.map FunctionSpec.name).Nodup := by
  obtain ⟨-, hdisjoint⟩ := List.nodup_flatMap.mp h.nodup_items
  refine List.pairwise_map.mpr (hdisjoint.imp ?_)
  intro fn fn' hitems hname
  have hmem : fn.name ∈ fn.itemNames := List.mem_cons_self
  have hmem' : fn'.name ∈ fn'.itemNames := List.mem_cons_self
  exact hitems hmem (hname ▸ hmem')

/-- **A function of the units is the only one of its module and name.** -/
theorem factoriesAt_eq_singleton
    (hcovers : List.Forall₂ (UnitSpec.Covers host naming) groups units)
    (hnames : (units.map UnitSpec.name).Nodup) {unit : UnitSpec} (hunit : unit ∈ units)
    {fn : FunctionSpec} (hfn : fn ∈ unit.functions) :
    factoriesAt units ⟨unit.modulePath, fn.name⟩ = [fn] := by
  obtain ⟨group, -, hgroup⟩ := exists_mem_left_of_forall₂ hcovers hunit
  rw [factoriesAt, filter_eq_singleton (nodup_modulePath hcovers hnames) hunit,
    List.flatMap_cons, List.flatMap_nil, List.append_nil]
  exact filter_eq_singleton hgroup.nodup_name hfn

end Units

/-! ## Closed references -/

/-- The reference leads to the factory of the declaration: one function and no other has its module
and its name, and that function returns the type of the declaration. -/
def LeadsToFactory (units : List UnitSpec) (ref : FactoryRef) (d : TypeDeclaration) : Prop :=
  ∃ fn, factoriesAt units ref = [fn] ∧ fn.returnType = TypeRef.pathText d.qualifiedName

/-- The references of a parameter lead to the factories of what the types refer to. -/
structure Parameter.Closed (host : Host) (units : List UnitSpec) (field : Field) (q : Parameter) :
    Prop where
  /-- A field of the type of a fixture.  The type of the parameter may name the declaration in
  another way than the type of the field does. -/
  fixture : ∀ ref, q.kind = .fixture ref →
    (∃ d, host.resolve field.type = some d ∧ LeadsToFactory units ref d) ∧
    ∃ d, host.resolve q.type = some d ∧ LeadsToFactory units ref d
  /-- A field of the type of an enumeration with data, some of whose cases wrap fixtures. -/
  sealed : ∀ entries, q.kind = .sealed entries →
    ∃ d, host.resolve field.type = some d ∧
      List.Forall₂ (fun c entry => ∀ ref, entry.factory = some ref →
        ∃ inner e, c.shape = .wrapping inner ∧ host.resolve inner = some e ∧
          LeadsToFactory units ref e) (host.cases d) entries

section Closing

variable {host : Host} {adapters : AdapterRegistry} {naming : Naming} {units : List UnitSpec}

/-- **The factory of a marked declaration is among the units.** -/
theorem leadsToFactory_of_factoryOf
    (hcovers : List.Forall₂ (UnitSpec.Covers host naming)
      (stableGroups TypeDeclaration.unit (host.markedTypes .fixture)) units)
    (hnames : (units.map UnitSpec.name).Nodup) {d : TypeDeclaration}
    (hd : d ∈ host.markedTypes .fixture) {ref : FactoryRef}
    (href : factoryOf host naming d = .ok ref) : LeadsToFactory units ref d := by
  obtain ⟨source, hsource, rfl⟩ := factoryOf_eq_ok_iff.mp href
  obtain ⟨group, hgroup, hkey, hmem⟩ := exists_mem_stableGroups hd
  obtain ⟨unit, hunit, hcover⟩ := exists_mem_right_of_forall₂ hcovers hgroup
  obtain ⟨fn, hfn, hconstructs⟩ := exists_mem_right_of_forall₂ hcover.functions hmem
  obtain ⟨source', hsource', -, -, hmodule⟩ := hcover.source
  -- the reference and the unit were named after the same source unit
  have hsame : source' = source := by
    rw [hkey, hsource] at hsource'
    exact (Option.some.inj hsource').symm
  have href : naming.factoryFor source d = ⟨unit.modulePath, fn.name⟩ := by
    rw [hmodule, hsame, hconstructs.name, Naming.factoryFor]
  refine ⟨fn, ?_, hconstructs.returnType⟩
  rw [href]
  exact factoriesAt_eq_singleton hcovers hnames hunit hfn

/-- **The references of a classified field are closed.** -/
theorem closed_of_classify (hhost : host.Coherent)
    (hcovers : List.Forall₂ (UnitSpec.Covers host naming)
      (stableGroups TypeDeclaration.unit (host.markedTypes .fixture)) units)
    (hnames : (units.map UnitSpec.name).Nodup) {owner : String} {field : Field} {q : Parameter}
    (h : classify host adapters naming owner field = .ok q) : q.Closed host units field where
  fixture := by
    intro ref hkind
    obtain ⟨d, hresolve, htype, hmarker, href⟩ := kind_eq_fixture_of_classify h hkind
    have hleads := leadsToFactory_of_factoryOf hcovers hnames
      (hhost.mem_markedTypes hresolve hmarker) href
    have hpath : q.type.path = d.qualifiedName := by rw [htype]
    obtain ⟨d', hresolve', hname⟩ := hhost.resolve_qualifiedName hresolve hpath
    refine ⟨⟨d, hresolve, hleads⟩, d', hresolve', ?_⟩
    rw [LeadsToFactory, hname]
    exact hleads
  sealed := by
    intro entries hkind
    obtain ⟨d, hresolve, -, -, hentries⟩ := kind_eq_sealed_of_classify h hkind
    refine ⟨d, hresolve, hentries.imp ?_⟩
    intro c entry hentry ref href
    obtain ⟨inner, e, hwraps, hfactory⟩ := factory_of_sealedEntry hentry href
    exact ⟨inner, e, hwraps.shape, hwraps.resolve, leadsToFactory_of_factoryOf hcovers hnames
      (hhost.mem_markedTypes hwraps.resolve hwraps.marker) hfactory⟩

end Closing

/-! ## Runs -/

namespace Pipeline

variable {σ : Type}

theorem exists_scansTo_of_mem_toList {host : Host} {p : Pipeline} (h : p.Scanned host)
    {f : Fixture} (hf : f ∈ p.fixtures.toList) :
    ∃ owner ∈ host.markedTypes .fixture, ScansTo host p.adapters p.naming owner f := by
  obtain ⟨fs, hfs, hregistry⟩ := scanFixtures_eq_ok_iff.mp h.2
  rw [hregistry, (FixtureRegistry.toList_ofList_perm fs).mem_iff] at hf
  exact exists_mem_left_of_forall₂ hfs hf

theorem nodup_name_of_start_run {options : Options} (hrun : options.run.value = true)
    {host : Host} {entropy : RandomSource} {receive : Receiver σ} {s s' : σ}
    {summary : RunSummary} {p' : Pipeline}
    (h : (start options).run host entropy receive s = (.ok summary, p', s')) :
    (((start options).runCalls host entropy receive s).map UnitSpec.name).Nodup := by
  obtain ⟨-, -, hunits, -, -⟩ := start_run_eq_ok hrun host entropy receive s h
  exact (BuildContext.buildsTo_of_yields_buildUnits _ (yields_of_units_eq_ok hunits)).2

/-- A run that is switched off has registered nothing. -/
theorem run_value_of_mem_toList {options : Options} {host : Host} {entropy : RandomSource}
    {receive : Receiver σ} {s s' : σ} {summary : RunSummary} {p' : Pipeline}
    (h : (start options).run host entropy receive s = (.ok summary, p', s')) {f : Fixture}
    (hf : f ∈ p'.fixtures.toList) : options.run.value = true := by
  cases hrun : options.run.value with
  | true => rfl
  | false =>
      rw [start_run_of_off hrun] at h
      have hp' : p' = { start options with phase := .emitted } :=
        (congrArg (fun r => r.2.1) h).symm
      rw [hp'] at hf
      exact absurd hf List.not_mem_nil

/-- A parameter of a registered fixture is what a field of its declaration is classified as. -/
theorem exists_classify_of_mem_parameters {options : Options} (hrun : options.run.value = true)
    {host : Host} {entropy : RandomSource} {receive : Receiver σ} {s s' : σ}
    {summary : RunSummary} {p' : Pipeline}
    (h : (start options).run host entropy receive s = (.ok summary, p', s'))
    {f : Fixture} (hf : f ∈ p'.fixtures.toList) {q : Parameter} (hq : q ∈ f.parameters) :
    ∃ owner field, classify host p'.adapters options.naming owner field = .ok q := by
  obtain ⟨hoptions, hscanned, -⟩ := start_run_eq_ok hrun host entropy receive s h
  obtain ⟨owner, -, -, -, hfields⟩ := exists_scansTo_of_mem_toList hscanned hf
  rw [naming, hoptions] at hfields
  obtain ⟨field, -, hclassify⟩ := exists_mem_left_of_forall₂ hfields hq
  exact ⟨owner.qualifiedName, field, hclassify⟩

/-- **Every reference to a factory is closed.**  If a run succeeds, each registered fixture comes
from a marked declaration, its parameters from the fields of that declaration; and where a
parameter or a case of its type refers to a factory, the module and the name of the reference are
those of exactly one function of the units, which returns the type of the declaration that the type
or the wrapped type refers to.

Reference and function are made apart from each other, the one while the fields of some declaration
are scanned and the other while the unit of another is built.  There is a function since what a type
refers to is listed by the host, and only one since names are claimed. -/
theorem run_closes_references (host : Host) (hhost : host.Supplied) (options : Options)
    (entropy : RandomSource) (receive : Receiver σ) (s : σ) {summary : RunSummary}
    {p' : Pipeline} {s' : σ}
    (h : (start options).run host entropy receive s = (.ok summary, p', s')) :
    ∀ f ∈ p'.fixtures.toList, ∃ owner ∈ host.markedTypes .fixture,
      f = owner.toFixture f.parameters ∧
      List.Forall₂ (Parameter.Closed host ((start options).runCalls host entropy receive s))
        (host.fields owner) f.parameters := by
  intro f hf
  cases hrun : options.run.value with
  | false =>
      -- nothing has been scanned
      rw [start_run_of_off hrun] at h
      have hp' : p' = { start options with phase := .emitted } :=
        (congrArg (fun r => r.2.1) h).symm
      rw [hp'] at hf
      exact absurd hf List.not_mem_nil
  | true =>
      obtain ⟨hoptions, hscanned, -⟩ := start_run_eq_ok hrun host entropy receive s h
      obtain ⟨owner, howner, -, hfixture, hfields⟩ := exists_scansTo_of_mem_toList hscanned hf
      rw [naming, hoptions] at hfields
      refine ⟨owner, howner, hfixture, hfields.imp fun field q hq => ?_⟩
      exact closed_of_classify hhost.coherent (covers_of_start_run hrun h)
        (nodup_name_of_start_run hrun h) hq

/-- A catalogue whose records refer to one another across units and from within a case. -/
def nested : Catalogue :=
  let c := (Catalogue.empty.addUnit "src/model.rs" "crate::model").2
  let c := (c.addUnit "src/shop.rs" "crate::shop").2
  let c := (c.addFixture 0 "inner::Address" [⟨"city", .named "String"⟩]).2
  let c := (c.addSealed 0 "Contact"
    [⟨"None", .unit⟩, ⟨"At", .wrapping (.named "crate::model::inner::Address")⟩]).2
  (c.addFixture 1 "Person"
    [⟨"address", .optional (.named "Address")⟩, ⟨"contact", .named "crate::model::Contact"⟩]).2

theorem run_nested_closes_references :
    let takeAll : Receiver Unit := fun _ s => (.ok (), s)
    let host := nested.toHost
    let outcome := (start .defaults).run host ⟨fun _ => 0, 0⟩ takeAll ()
    let ref : FactoryRef := ⟨"crate::fixtures::model_fixture", "create_inner_address"⟩
    host.Supplied ∧
    outcome.1 = .ok ⟨false, 0, 2, [⟨"model_fixture", "src/model.rs", ["create_inner_address"]⟩,
      ⟨"shop_fixture", "src/shop.rs", ["create_person"]⟩]⟩ ∧
    ∃ address person, outcome.2.1.fixtures.toList = [address, person] ∧
      person.parameters.map Parameter.kind =
        [.fixture ref, .sealed [⟨"None", true, false, none⟩, ⟨"At", false, true, some ref⟩]] ∧
      ∃ owner ∈ host.markedTypes .fixture, person = owner.toFixture person.parameters ∧
        List.Forall₂ (Parameter.Closed host
            ((start .defaults).runCalls host ⟨fun _ => 0, 0⟩ takeAll ()))
          (host.fields owner) person.parameters := by
  intro takeAll host outcome ref
  have hhost : host = _ := Catalogue.toHost_of_pairwise (by decide) (by decide)
  have houtcome : outcome.1 = .ok ⟨false, 0, 2,
      [⟨"model_fixture", "src/model.rs", ["create_inner_address"]⟩,
       ⟨"shop_fixture", "src/shop.rs", ["create_person"]⟩]⟩ := by
    show ((start .defaults).run host _ takeAll ()).1 = _
    rw [hhost]
    rfl
  obtain ⟨address, person, hlist, hkinds⟩ : ∃ address person,
      outcome.2.1.fixtures.toList = [address, person] ∧ person.parameters.map Parameter.kind =
        [.fixture ref, .sealed [⟨"None", true, false, none⟩, ⟨"At", false, true, some ref⟩]] := by
    show ∃ address person, ((start .defaults).run host _ takeAll ()).2.1.fixtures.toList = _ ∧ _
    rw [hhost]
    exact ⟨_, _, rfl, rfl⟩
  refine ⟨.catalogue nested, houtcome, address, person, hlist, hkinds, ?_⟩
  have hperson : person ∈ outcome.2.1.fixtures.toList := by
    rw [hlist]
    exact List.mem_cons_of_mem _ List.mem_cons_self
  exact run_closes_references host (.catalogue nested) .defaults ⟨fun _ => 0, 0⟩ takeAll ()
    (Prod.ext houtcome rfl) person hperson

/-- The factory that a parameter refers to need not return the qualified name of the declaration: it
does not where that is the path of a slice. -/
theorem reference_returns_other_of_sliceNamed :
    let takeAll : Receiver Unit := fun _ s => (.ok (), s)
    let host := sliceNamed.toHost
    let ref : FactoryRef := ⟨"crate::fixtures::model_fixture", "create_row"⟩
    ((start .defaults).run host ⟨fun _ => 0, 0⟩ takeAll ()).1 =
      .ok ⟨false, 0, 2, [⟨"model_fixture", "src/model.rs", ["create_row", "create_table"]⟩]⟩ ∧
    ∃ row table q d fn,
      ((start .defaults).run host ⟨fun _ => 0, 0⟩ takeAll ()).2.1.fixtures.toList =
        [row, table] ∧
      table.parameters = [q] ∧ q.kind = .fixture ref ∧ host.resolve q.type = some d ∧
      factoriesAt ((start .defaults).runCalls host ⟨fun _ => 0, 0⟩ takeAll ()) ref = [fn] ∧
      fn.returnType = "[_]" ∧ d.qualifiedName = "[]" ∧ fn.returnType ≠ d.qualifiedName := by
  intro takeAll host ref
  have hhost : host = _ := Catalogue.toHost_of_pairwise (by decide) (by decide)
  rw [hhost]
  exact ⟨rfl, _, _, _, _, _, rfl, rfl, rfl, rfl, rfl, rfl, rfl, by decide⟩

end Pipeline
end FixtureFactory
