import FixtureFactory.Proofs.BuildCondition
import FixtureFactory.Proofs.Discovery

/-!
# Default values belong to their fields

A run passes one stream of draws through all units, functions and parameters.  Without randomization
nothing is drawn, and then a field gets its argument on its own: what is made of it depends on its
type, the adapters and the declarations, not on its position and not on the fields before it.

## What a run hands over, field by field

`Field.HasSpec` says which argument a field gets.  `FunctionSpec.IsFixed` and `UnitSpec.IsFixed`
collect the arguments of the fields of a declaration and the factories of the declarations of a
unit.  A run without randomization succeeds with some units exactly when the units are fixed in this
sense and their names are distinct: `isFixed_of_start_run` and `runsTo_of_isFixed`.

## Runs over other fields

`Host.withFields` exchanges the fields of some declarations.  If the new fields have arguments, the
units with these arguments are fixed for the new host (`UnitSpec.IsFixed.withFields`), so they are
what a run over it hands over.  Rearranging fields and adding a field are two ways to exchange them.
-/

namespace FixtureFactory

open Build

variable {α β γ : Type}

/-! ## Lists that change together -/

/-- The elements of a list in the order of the given positions. -/
def rearranged (order : List Nat) (xs : List α) : List α := order.filterMap fun i => xs[i]?

/-- Where each position is given once, the list is permuted. -/
theorem rearranged_perm {order : List Nat} {xs : List α} (h : order.Perm (List.range xs.length)) :
    (rearranged order xs).Perm xs := by
  have hself : rearranged (List.range xs.length) xs = xs := by
    clear h
    induction xs with
    | nil => rfl
    | cons x xs ih =>
        rw [rearranged, List.length_cons, List.range_succ_eq_map, List.filterMap_cons,
          List.filterMap_map]
        exact congrArg (x :: ·) ih
  have hperm : (rearranged order xs).Perm (rearranged (List.range xs.length) xs) := h.filterMap _
  rw [hself] at hperm
  exact hperm

theorem rel_getElem?_of_forall₂ {R : α → β → Prop} {xs : List α} {ys : List β}
    (h : List.Forall₂ R xs ys) (i : Nat) : Option.Rel R xs[i]? ys[i]? := by
  induction h generalizing i with
  | nil => exact .none
  | cons hxy _ ih =>
      cases i with
      | zero => exact .some hxy
      | succ i => exact ih i

/-- **Lists that correspond do so after both have been rearranged.** -/
theorem forall₂_rearranged {R : α → β → Prop} {xs : List α} {ys : List β}
    (h : List.Forall₂ R xs ys) (order : List Nat) :
    List.Forall₂ R (rearranged order xs) (rearranged order ys) := by
  refine List.rel_filterMap (fun i j hij => ?_) (List.forall₂_same.mpr fun i _ => Eq.refl i)
  rw [← hij]
  exact rel_getElem?_of_forall₂ h i

/-- Lists that correspond do so after elements that correspond have been added at one position. -/
theorem forall₂_insertIdx {R : α → β → Prop} {x : α} {y : β} (hxy : R x y) {xs : List α}
    {ys : List β} (h : List.Forall₂ R xs ys) (i : Nat) :
    List.Forall₂ R (xs.insertIdx i x) (ys.insertIdx i y) := by
  induction h generalizing i with
  | nil =>
      cases i with
      | zero => exact .cons hxy .nil
      | succ i => exact .nil
  | cons hab hrest ih =>
      cases i with
      | zero => exact .cons hxy (.cons hab hrest)
      | succ i => exact .cons hab (ih i)

theorem forall₂_congr_left {A : α → β → Prop} {R : α → γ → Prop} {S : β → γ → Prop}
    (h : ∀ a b c, A a b → (R a c ↔ S b c)) {xs : List α} {ys : List β} {zs : List γ}
    (hA : List.Forall₂ A xs ys) : List.Forall₂ R xs zs ↔ List.Forall₂ S ys zs :=
  ⟨forall₂_comp (fun b a c hab => (h a b c hab).mp) hA.flip,
    forall₂_comp (fun a b c hab => (h a b c hab).mpr) hA⟩

theorem forall₂_zipWith {R S : α → β → Prop} {f : α → β → β} (hf : ∀ a b, R a b → S a (f a b))
    {xs : List α} {ys : List β} (h : List.Forall₂ R xs ys) :
    List.Forall₂ S xs (List.zipWith f xs ys) := by
  induction h with
  | nil => exact .nil
  | cons hab _ ih => exact .cons (hf _ _ hab) ih

theorem map_zipWith_of_forall₂ {R : α → β → Prop} {f : α → β → β} {g : β → γ} {xs : List α}
    {ys : List β} (h : List.Forall₂ R xs ys) (hf : ∀ a b, R a b → g (f a b) = g b) :
    (List.zipWith f xs ys).map g = ys.map g := by
  induction h with
  | nil => rfl
  | cons hab _ ih => rw [List.zipWith_cons_cons, List.map_cons, List.map_cons, hf _ _ hab, ih]

theorem zipWith_eq_right_of_forall₂ {R : α → β → Prop} {f : α → β → β} {xs : List α} {ys : List β}
    (h : List.Forall₂ R xs ys) (hf : ∀ a ∈ xs, ∀ b, f a b = b) : List.zipWith f xs ys = ys := by
  induction h with
  | nil => rfl
  | cons _ _ ih =>
      obtain ⟨ha, has⟩ := List.forall_mem_cons.mp hf
      rw [List.zipWith_cons_cons, ha, ih has]

/-! ## Other fields -/

/-- The host with other fields for the chosen declarations. -/
def Host.withFields (host : Host) (chosen : TypeDeclaration → Bool)
    (fields : TypeDeclaration → List Field) : Host :=
  { host with fields := fun d => if chosen d then fields d else host.fields d }

/-- The factory with other parameters. -/
def FunctionSpec.withParameters (fn : FunctionSpec) (parameters : List ParameterSpec) :
    FunctionSpec :=
  { fn with
    parameters := parameters
    body := recordLiteral fn.returnType (parameters.map (·.name)) }

/-- The factories of some declarations, with other parameters for the chosen ones. -/
def FunctionSpec.edited (chosen : TypeDeclaration → Bool)
    (edit : TypeDeclaration → List ParameterSpec → List ParameterSpec) (d : TypeDeclaration)
    (fn : FunctionSpec) : FunctionSpec :=
  if chosen d then fn.withParameters (edit d fn.parameters) else fn

/-- The unit of a group of declarations, with other parameters for the chosen ones. -/
def UnitSpec.edited (chosen : TypeDeclaration → Bool)
    (edit : TypeDeclaration → List ParameterSpec → List ParameterSpec)
    (group : Nat × List TypeDeclaration) (unit : UnitSpec) : UnitSpec :=
  { unit with functions := List.zipWith (FunctionSpec.edited chosen edit) group.2 unit.functions }

section Edits

variable {chosen : TypeDeclaration → Bool}
  {edit : TypeDeclaration → List ParameterSpec → List ParameterSpec}

theorem FunctionSpec.edited_of_not_chosen {d : TypeDeclaration} (hd : chosen d = false)
    (fn : FunctionSpec) : fn.edited chosen edit d = fn := by
  rw [edited, hd, if_neg Bool.false_ne_true]

theorem FunctionSpec.names_edited (d : TypeDeclaration) (fn : FunctionSpec) :
    (fn.edited chosen edit d).itemNames = fn.itemNames ∧
      (fn.edited chosen edit d).name = fn.name := by
  rw [edited]
  split <;> exact ⟨rfl, rfl⟩

/-- **A unit without a chosen declaration stays as it is.** -/
theorem UnitSpec.edited_of_not_chosen {R : TypeDeclaration → FunctionSpec → Prop}
    {group : Nat × List TypeDeclaration} {unit : UnitSpec}
    (h : List.Forall₂ R group.2 unit.functions) (hgroup : ∀ d ∈ group.2, chosen d = false) :
    unit.edited chosen edit group = unit := by
  rw [edited, zipWith_eq_right_of_forall₂ h fun d hd =>
    FunctionSpec.edited_of_not_chosen (hgroup d hd)]

theorem UnitSpec.itemNames_edited {R : TypeDeclaration → FunctionSpec → Prop}
    {group : Nat × List TypeDeclaration} {unit : UnitSpec}
    (h : List.Forall₂ R group.2 unit.functions) :
    (unit.edited chosen edit group).functions.flatMap FunctionSpec.itemNames =
      unit.functions.flatMap FunctionSpec.itemNames := by
  rw [List.flatMap_def, List.flatMap_def, edited]
  exact congrArg List.flatten
    (map_zipWith_of_forall₂ h fun d fn _ => (FunctionSpec.names_edited d fn).1)

theorem UnitSpec.summary_edited {R : TypeDeclaration → FunctionSpec → Prop}
    {group : Nat × List TypeDeclaration} {unit : UnitSpec}
    (h : List.Forall₂ R group.2 unit.functions) :
    (unit.edited chosen edit group).summary = unit.summary := by
  have hnames : (List.zipWith (FunctionSpec.edited chosen edit) group.2 unit.functions).map
      FunctionSpec.name = unit.functions.map FunctionSpec.name :=
    map_zipWith_of_forall₂ h fun d fn _ => (FunctionSpec.names_edited d fn).2
  rw [UnitSpec.summary, UnitSpec.summary, edited, hnames]

end Edits

/-! ## Arguments of fields -/

/-- The field gets an argument without randomization: it is classified, and a default value is made
for what it has been classified as. -/
def Field.HasSpec (host : Host) (adapters : AdapterRegistry) (naming : Naming) (owner : String)
    (field : Field) (spec : ParameterSpec) : Prop :=
  ∃ p, mapField host adapters naming owner field = .ok p ∧
    Yields (BuildContext.parameterSpec ⟨naming, adapters, false⟩ p) spec

/-- The function is the factory of a record, and each of its parameters is the argument of a
field. -/
structure FunctionSpec.IsFixed (host : Host) (adapters : AdapterRegistry) (naming : Naming)
    (d : TypeDeclaration) (fn : FunctionSpec) : Prop where
  record : d.kind = .record
  parameters : List.Forall₂ (Field.HasSpec host adapters naming d.qualifiedName) (host.fields d)
    fn.parameters
  eq : fn = BuildContext.functionOf (d.toFixture []) fn.parameters

/-- The output unit of a group of declarations, each of which has its factory. -/
structure UnitSpec.IsFixed (host : Host) (adapters : AdapterRegistry) (naming : Naming)
    (group : Nat × List TypeDeclaration) (unit : UnitSpec) : Prop where
  source : ∃ source, host.unit? group.1 = some source ∧
    unit.name = outputUnitName source.baseName ∧ unit.sourcePath = source.path ∧
    unit.modulePath = naming.unitModule source
  functions : List.Forall₂ (FunctionSpec.IsFixed host adapters naming) group.2 unit.functions
  nodup_items : (unit.functions.flatMap FunctionSpec.itemNames).Nodup

section Builds

variable {host : Host} {adapters : AdapterRegistry} {naming : Naming}

/-- **The factory of a scanned fixture** is the fixed one of its declaration. -/
theorem ScansTo.isFixed_iff {d : TypeDeclaration} {f : Fixture}
    (h : ScansTo host adapters naming d f) {fn : FunctionSpec} :
    fn.IsFixed host adapters naming d ↔
      Yields (BuildContext.buildFunction ⟨naming, adapters, false⟩ f) fn := by
  obtain ⟨hrecord, hd, hfields⟩ := h
  -- the class of a field is one, so its argument is that of its class
  have hspecs : List.Forall₂ (Field.HasSpec host adapters naming d.qualifiedName)
      (host.fields d) fn.parameters ↔ List.Forall₂ (fun p spec =>
        Yields (BuildContext.parameterSpec ⟨naming, adapters, false⟩ p) spec) f.parameters
        fn.parameters := by
    refine forall₂_congr_left (fun field p spec hp => ?_) hfields
    have hmap : mapField host adapters naming d.qualifiedName field = .ok p :=
      mapError_eq_ok_iff.mpr hp
    constructor
    · rintro ⟨q, hq, hspec⟩
      rw [Except.ok.inj (hmap.symm.trans hq)]
      exact hspec
    · intro hspec
      exact ⟨p, hmap, hspec⟩
  have hfunction : BuildContext.functionOf (d.toFixture []) fn.parameters =
      BuildContext.functionOf f fn.parameters := by
    rw [hd]
    rfl
  rw [BuildContext.yields_buildFunction_iff rfl, ← hspecs]
  constructor
  · rintro ⟨-, hparameters, hfn⟩
    exact ⟨hparameters, hfn.trans hfunction⟩
  · rintro ⟨hparameters, hfn⟩
    exact ⟨hrecord, hparameters, hfn.trans hfunction.symm⟩

theorem FunctionSpec.IsFixed.exists_scansTo {d : TypeDeclaration} {fn : FunctionSpec}
    (h : fn.IsFixed host adapters naming d) : ∃ f, ScansTo host adapters naming d f := by
  have hfields : ∀ field ∈ host.fields d,
      ∃ p, classify host adapters naming d.qualifiedName field = .ok p := by
    intro field hfield
    obtain ⟨spec, -, p, hp, -⟩ := exists_mem_right_of_forall₂ h.parameters hfield
    exact ⟨p, mapError_eq_ok_iff.mp hp⟩
  obtain ⟨parameters, hparameters⟩ := exists_forall₂_iff.mpr hfields
  exact ⟨d.toFixture parameters, h.record, rfl, hparameters⟩

/-- **The unit of scanned fixtures** is the fixed one of their declarations. -/
theorem isFixed_iff_of_scansTo {decls : Nat × List TypeDeclaration} {fixtures : Nat × List Fixture}
    (hkey : decls.1 = fixtures.1)
    (hfixtures : List.Forall₂ (ScansTo host adapters naming) decls.2 fixtures.2)
    {unit : UnitSpec} :
    unit.IsFixed host adapters naming decls ↔
      ∃ source, host.unit? fixtures.1 = some source ∧
        Yields (BuildContext.buildUnit ⟨naming, adapters, false⟩ source
          ⟨fixtures.1, fixtures.2⟩) unit := by
  have hfunctions : List.Forall₂ (FunctionSpec.IsFixed host adapters naming) decls.2
      unit.functions ↔ List.Forall₂ (fun f fn =>
        Yields (BuildContext.buildFunction ⟨naming, adapters, false⟩ f) fn) fixtures.2
        unit.functions :=
    forall₂_congr_left (fun d f fn hf => hf.isFixed_iff) hfixtures
  simp only [BuildContext.yields_buildUnit_iff, ← hfunctions, ← hkey]
  constructor
  · rintro ⟨⟨source, hsource, hnames⟩, hfns, hitems⟩
    exact ⟨source, hsource, hnames, hfns, hitems⟩
  · rintro ⟨source, hsource, hnames, hfns, hitems⟩
    exact ⟨⟨source, hsource, hnames⟩, hfns, hitems⟩

/-- **What a scan and a build give together**: fixed units of distinct names for the stable groups
of the marked declarations. -/
theorem scanned_and_built_iff {units : List UnitSpec} :
    (∃ fixtures, scanFixtures host adapters naming = .ok fixtures ∧
      Yields (BuildContext.buildUnits ⟨naming, adapters, false⟩ host fixtures) units) ↔
    List.Forall₂ (UnitSpec.IsFixed host adapters naming)
      (stableGroups TypeDeclaration.unit (host.markedTypes .fixture)) units ∧
      (units.map UnitSpec.name).Nodup := by
  have hkey : ∀ d f, ScansTo host adapters naming d f → d.unit = f.unit := by
    intro d f hf
    rw [hf.2.1]
    rfl
  have hbuilds : ∀ fs, List.Forall₂ (ScansTo host adapters naming) (host.markedTypes .fixture) fs →
      (Yields (BuildContext.buildUnits ⟨naming, adapters, false⟩ host
          (FixtureRegistry.ofList fs)) units ↔
        List.Forall₂ (UnitSpec.IsFixed host adapters naming)
          (stableGroups TypeDeclaration.unit (host.markedTypes .fixture)) units ∧
          (units.map UnitSpec.name).Nodup) := by
    intro fs hfs
    rw [BuildContext.buildUnits, BuildContext.yields_buildGroups_iff rfl, List.map_nil,
      freshNames_nil_left_iff, FixtureRegistry.ofList_eq_grouped, FixtureRegistry.grouped,
      List.forall₂_map_left_iff]
    refine and_congr_left' (forall₂_congr_left (R := UnitSpec.IsFixed host adapters naming) ?_
      (forall₂_stableGroups hkey hfs)).symm
    intro decls fixtures unit hgroup
    exact isFixed_iff_of_scansTo hgroup.1 hgroup.2
  constructor
  · rintro ⟨fixtures, hscan, hunits⟩
    obtain ⟨fs, hfs, rfl⟩ := scanFixtures_eq_ok_iff.mp hscan
    exact (hbuilds fs hfs).mp hunits
  · intro hunits
    have hscans : ∀ d ∈ host.markedTypes .fixture, ∃ f, ScansTo host adapters naming d f := by
      intro d hd
      obtain ⟨group, hgroup, -, hmem⟩ := exists_mem_stableGroups hd
      obtain ⟨unit, -, hunit⟩ := exists_mem_right_of_forall₂ hunits.1 hgroup
      obtain ⟨fn, -, hfn⟩ := exists_mem_right_of_forall₂ hunit.functions hmem
      exact hfn.exists_scansTo
    obtain ⟨fs, hfs⟩ := exists_forall₂_iff.mpr hscans
    exact ⟨FixtureRegistry.ofList fs, scanFixtures_eq_ok_iff.mpr ⟨fs, hfs, rfl⟩,
      (hbuilds fs hfs).mpr hunits⟩

/-! ## Other fields, other arguments -/

variable {chosen : TypeDeclaration → Bool} {fields : TypeDeclaration → List Field}
  {edit : TypeDeclaration → List ParameterSpec → List ParameterSpec}

/-- The edit of the parameters follows the exchange of the fields: from arguments of the former
fields it makes arguments of the new ones. -/
def Follows (host : Host) (adapters : AdapterRegistry) (naming : Naming)
    (chosen : TypeDeclaration → Bool) (fields : TypeDeclaration → List Field)
    (edit : TypeDeclaration → List ParameterSpec → List ParameterSpec) : Prop :=
  ∀ d specs, chosen d = true →
    List.Forall₂ (Field.HasSpec host adapters naming d.qualifiedName) (host.fields d) specs →
    List.Forall₂ (Field.HasSpec host adapters naming d.qualifiedName) (fields d) (edit d specs)

/-- **A fixed factory stays fixed under an edit that follows the fields.** -/
theorem FunctionSpec.IsFixed.withFields (hedit : Follows host adapters naming chosen fields edit)
    {d : TypeDeclaration} {fn : FunctionSpec} (h : fn.IsFixed host adapters naming d) :
    (fn.edited chosen edit d).IsFixed (host.withFields chosen fields) adapters naming d := by
  -- the argument of a single field does not depend on the fields of any declaration
  have hspec : Field.HasSpec (host.withFields chosen fields) adapters naming d.qualifiedName =
      Field.HasSpec host adapters naming d.qualifiedName := rfl
  obtain ⟨hrecord, hparameters, hfn⟩ := h
  cases hd : chosen d with
  | false =>
      have hfields : (host.withFields chosen fields).fields d = host.fields d :=
        if_neg (ne_true_of_eq_false hd)
      rw [edited_of_not_chosen hd]
      refine ⟨hrecord, ?_, hfn⟩
      rw [hspec, hfields]
      exact hparameters
  | true =>
      have hfields : (host.withFields chosen fields).fields d = fields d := if_pos hd
      rw [edited, hd, if_pos rfl]
      refine ⟨hrecord, ?_, ?_⟩
      · rw [hspec, hfields]
        exact hedit d fn.parameters hd hparameters
      · rw [hfn]
        rfl

/-- **A fixed unit stays fixed under an edit that follows the fields.** -/
theorem UnitSpec.IsFixed.withFields (hedit : Follows host adapters naming chosen fields edit)
    {group : Nat × List TypeDeclaration} {unit : UnitSpec}
    (h : unit.IsFixed host adapters naming group) :
    (unit.edited chosen edit group).IsFixed (host.withFields chosen fields) adapters naming
      group := by
  refine ⟨h.source, forall₂_zipWith (fun d fn hfn => hfn.withFields hedit) h.functions, ?_⟩
  rw [itemNames_edited h.functions]
  exact h.nodup_items

theorem follows_rearranged (host : Host) (adapters : AdapterRegistry) (naming : Naming)
    (chosen : TypeDeclaration → Bool) (order : TypeDeclaration → List Nat) :
    Follows host adapters naming chosen (fun d => rearranged (order d) (host.fields d))
      fun d => rearranged (order d) :=
  fun d _ _ hspecs => forall₂_rearranged hspecs (order d)

theorem follows_insertIdx {extra : TypeDeclaration → Field} {spec : TypeDeclaration → ParameterSpec}
    (hextra : ∀ d, chosen d = true →
      (extra d).HasSpec host adapters naming d.qualifiedName (spec d))
    (index : TypeDeclaration → Nat) :
    Follows host adapters naming chosen (fun d => (host.fields d).insertIdx (index d) (extra d))
      fun d specs => specs.insertIdx (index d) (spec d) :=
  fun d _ hd hspecs => forall₂_insertIdx (hextra d hd) hspecs (index d)

end Builds

/-! ## Runs -/

namespace Pipeline

variable {σ : Type} {host : Host} {options : Options} {adapters : AdapterRegistry}
  {units : List UnitSpec} {summary : RunSummary}

/-- Every run to a receiver that takes all units succeeds with the summary and hands the units
over. -/
def RunsTo (host : Host) (options : Options) (summary : RunSummary) (units : List UnitSpec) : Prop :=
  ∀ (τ : Type) (receive : Receiver τ) (entropy : RandomSource) (t : τ), receive.NeverRefuses →
    ((start options).run host entropy receive t).1 = .ok summary ∧
      (start options).runCalls host entropy receive t = units

theorem runsTo_of_off (hrun : options.run.value = false) (host : Host) :
    RunsTo host options skippedSummary [] := by
  intro τ receive entropy t _
  rw [runCalls, start_run_of_off hrun, start_run_of_off hrun]
  exact ⟨rfl, rfl⟩

/-- **The units of a run without randomization are fixed.** -/
theorem isFixed_of_start_run (hrun : options.run.value = true)
    (hrandomize : options.randomize.value = false) {entropy : RandomSource} {receive : Receiver σ}
    {s s' : σ} {p' : Pipeline}
    (h : (start options).run host entropy receive s = (.ok summary, p', s'))
    (hunits : (start options).runCalls host entropy receive s = units) :
    List.Forall₂ (UnitSpec.IsFixed host p'.adapters options.naming)
        (stableGroups TypeDeclaration.unit (host.markedTypes .fixture)) units ∧
      (units.map UnitSpec.name).Nodup ∧ scanAdapters host = .ok p'.adapters ∧
      summary = ⟨false, p'.adapters.size, (host.markedTypes .fixture).length,
        units.map UnitSpec.summary⟩ := by
  obtain ⟨hoptions, hscanned, hbuilt, -, hsummary⟩ := start_run_eq_ok hrun host entropy receive s h
  rw [hunits] at hbuilt hsummary
  have hyields := yields_of_units_eq_ok hbuilt
  have hscan := hscanned.2
  rw [Pipeline.naming, hoptions] at hscan hyields
  rw [hrandomize] at hyields
  obtain ⟨hfixed, hnames⟩ := scanned_and_built_iff.mp ⟨p'.fixtures, hscan, hyields⟩
  refine ⟨hfixed, hnames, hscanned.1, ?_⟩
  rw [hsummary, Pipeline.summary, size_of_scanned hscanned]

/-- **Fixed units of distinct names are handed over by every run without randomization.** -/
theorem runsTo_of_isFixed (hrun : options.run.value = true)
    (hrandomize : options.randomize.value = false) (hadapters : scanAdapters host = .ok adapters)
    (hfixed : List.Forall₂ (UnitSpec.IsFixed host adapters options.naming)
      (stableGroups TypeDeclaration.unit (host.markedTypes .fixture)) units)
    (hnames : (units.map UnitSpec.name).Nodup) :
    RunsTo host options ⟨false, adapters.size, (host.markedTypes .fixture).length,
      units.map UnitSpec.summary⟩ units := by
  obtain ⟨fixtures, hscan, hyields⟩ := scanned_and_built_iff.mpr ⟨hfixed, hnames⟩
  let p : Pipeline := ⟨options, .fixturesScanned, adapters, fixtures⟩
  have hscanned : p.Scanned host := ⟨hadapters, hscan⟩
  have hreproducible : p.Reproducible := Or.inl hrandomize
  have hunits : ∀ entropy, p.units host entropy = .ok units := by
    intro entropy
    have hdrawless : Drawless (BuildContext.buildUnits ⟨options.naming, adapters, false⟩ host
        fixtures) := BuildContext.drawless_buildGroups rfl host fixtures.groups []
    rw [Pipeline.units, show p.options.randomize.value = false from hrandomize]
    exact congrArg Prod.fst (hdrawless.run_of_yields hyields (p.source entropy))
  have hwithAdapters : (start options).withAdapters host =
      .ok ⟨options, .adaptersScanned, adapters, .empty⟩ :=
    withAdapters_eq_ok_iff.mpr ⟨rfl, adapters, hadapters, rfl⟩
  have hwithFixtures : withFixtures ⟨options, .adaptersScanned, adapters, .empty⟩ host = .ok p :=
    withFixtures_eq_ok_iff.mpr ⟨rfl, fixtures, hscan, rfl⟩
  have hemit : ∀ {τ : Type} (receive : Receiver τ) (entropy : RandomSource) (t : τ),
      (start options).run host entropy receive t = p.emit host entropy receive t := by
    intro τ receive entropy t
    rw [run, show (start options).options.run.value = true from hrun]
    simp only [Bool.not_true, Bool.false_eq_true, if_false, hwithAdapters, hwithFixtures]
  intro τ receive entropy t hreceive
  obtain ⟨hcalls, hok⟩ :=
    hreproducible.emit_again rfl host entropy entropy hreceive t (hunits entropy)
  rw [runCalls, hemit, hemit]
  refine ⟨?_, hcalls⟩
  rw [hok, Pipeline.summary, size_of_scanned hscanned]

/-- **A run over other fields** succeeds like the former one, with the parameters edited along the
fields. -/
theorem runsTo_withFields (hrun : options.run.value = true)
    (hrandomize : options.randomize.value = false) {chosen : TypeDeclaration → Bool}
    {fields : TypeDeclaration → List Field}
    {edit : TypeDeclaration → List ParameterSpec → List ParameterSpec}
    (hedit : Follows host adapters options.naming chosen fields edit)
    (hadapters : scanAdapters host = .ok adapters)
    (hfixed : List.Forall₂ (UnitSpec.IsFixed host adapters options.naming)
      (stableGroups TypeDeclaration.unit (host.markedTypes .fixture)) units)
    (hnames : (units.map UnitSpec.name).Nodup) :
    RunsTo (host.withFields chosen fields) options
      ⟨false, adapters.size, (host.markedTypes .fixture).length, units.map UnitSpec.summary⟩
      (List.zipWith (UnitSpec.edited chosen edit)
        (stableGroups TypeDeclaration.unit (host.markedTypes .fixture)) units) := by
  have hedited : List.Forall₂ (UnitSpec.IsFixed (host.withFields chosen fields) adapters
      options.naming) (stableGroups TypeDeclaration.unit (host.markedTypes .fixture))
      (List.zipWith (UnitSpec.edited chosen edit)
        (stableGroups TypeDeclaration.unit (host.markedTypes .fixture)) units) :=
    forall₂_zipWith (fun _ _ hunit => hunit.withFields hedit) hfixed
  have hsummaries : (List.zipWith (UnitSpec.edited chosen edit)
      (stableGroups TypeDeclaration.unit (host.markedTypes .fixture)) units).map UnitSpec.summary =
        units.map UnitSpec.summary :=
    map_zipWith_of_forall₂ hfixed fun _ _ hunit => UnitSpec.summary_edited hunit.functions
  have hsame : (List.zipWith (UnitSpec.edited chosen edit)
      (stableGroups TypeDeclaration.unit (host.markedTypes .fixture)) units).map UnitSpec.name =
        units.map UnitSpec.name :=
    map_zipWith_of_forall₂ hfixed fun _ _ _ => rfl
  rw [← hsummaries]
  rw [← hsame] at hnames
  exact runsTo_of_isFixed hrun hrandomize hadapters hedited hnames

/-- **Without randomization default values are local to their fields.**  Let a run succeed.

* If the fields of some declarations are permuted, every run to a receiver that takes all units
  succeeds with the same summary and hands over the same units, but for the parameters of these
  declarations, which are permuted in the same way.
* If each of some declarations gets a further field, at any position, whose classification and
  default value succeed, the same holds with the argument of this field at its position.
* The units that cover no such declaration and the functions of the other declarations are the same
  as before. -/
theorem fixed_defaults_follow_fields (host : Host) {options : Options}
    (hrandomize : options.randomize.value = false) (entropy : RandomSource) (receive : Receiver σ)
    (s : σ) {p' : Pipeline} {s' : σ}
    (h : (start options).run host entropy receive s = (.ok summary, p', s')) :
    let groups := stableGroups TypeDeclaration.unit (host.markedTypes .fixture)
    let units := (start options).runCalls host entropy receive s
    (∀ (chosen : TypeDeclaration → Bool) (order : TypeDeclaration → List Nat),
      (∀ d, chosen d = true → (order d).Perm (List.range (host.fields d).length)) →
      (∀ d, chosen d = true → (rearranged (order d) (host.fields d)).Perm (host.fields d)) ∧
      RunsTo (host.withFields chosen fun d => rearranged (order d) (host.fields d)) options summary
        (List.zipWith (UnitSpec.edited chosen fun d => rearranged (order d)) groups units)) ∧
    (∀ (chosen : TypeDeclaration → Bool) (index : TypeDeclaration → Nat)
      (extra : TypeDeclaration → Field) (spec : TypeDeclaration → ParameterSpec),
      (∀ d, chosen d = true →
        (extra d).HasSpec host p'.adapters options.naming d.qualifiedName (spec d)) →
      RunsTo (host.withFields chosen fun d => (host.fields d).insertIdx (index d) (extra d)) options
        summary (List.zipWith
          (UnitSpec.edited chosen fun d specs => specs.insertIdx (index d) (spec d)) groups units)) ∧
    (options.run.value = true → List.Forall₂ (fun group unit =>
      unit.Covers host options.naming group ∧ ∀ chosen edit,
        ((∀ d ∈ group.2, chosen d = false) → UnitSpec.edited chosen edit group unit = unit) ∧
        List.Forall₂ (fun d fn => chosen d = false → FunctionSpec.edited chosen edit d fn = fn)
          group.2 unit.functions) groups units) := by
  intro groups units
  have hperm : ∀ (chosen : TypeDeclaration → Bool) (order : TypeDeclaration → List Nat),
      (∀ d, chosen d = true → (order d).Perm (List.range (host.fields d).length)) →
      ∀ d, chosen d = true → (rearranged (order d) (host.fields d)).Perm (host.fields d) :=
    fun _ _ horder d hd => rearranged_perm (horder d hd)
  cases hrun : options.run.value with
  | false =>
      -- nothing is handed over, whatever the fields are
      have hunits : units = [] := by
        show (start options).runCalls host entropy receive s = []
        rw [runCalls, start_run_of_off hrun]
      rw [start_run_of_off hrun] at h
      have hsummary : skippedSummary = summary := Except.ok.inj (congrArg Prod.fst h)
      rw [hunits, ← hsummary]
      simp only [List.zipWith_nil_right]
      exact ⟨fun chosen order horder => ⟨hperm chosen order horder, runsTo_of_off hrun _⟩,
        fun _ _ _ _ _ => runsTo_of_off hrun _, fun hon => absurd hon Bool.false_ne_true⟩
  | true =>
      obtain ⟨hfixed, hnames, hadapters, rfl⟩ := isFixed_of_start_run hrun hrandomize h rfl
      refine ⟨fun chosen order horder => ⟨hperm chosen order horder, ?_⟩,
        fun chosen index extra spec hextra => ?_, fun _ => ?_⟩
      · exact runsTo_withFields hrun hrandomize (follows_rearranged host _ _ chosen order) hadapters
          hfixed hnames
      · exact runsTo_withFields hrun hrandomize (follows_insertIdx hextra index) hadapters hfixed
          hnames
      · refine (covers_of_start_run hrun h).imp fun group unit hcovers => ⟨hcovers, ?_⟩
        intro chosen edit
        exact ⟨UnitSpec.edited_of_not_chosen hcovers.functions,
          hcovers.functions.imp fun d fn _ hd => FunctionSpec.edited_of_not_chosen hd fn⟩

/-- A pet. -/
def visitedPet : TypeDeclaration :=
  ⟨0, "crate::Pet", "Pet", [], .record, [.fixture], ⟨"src/lib.rs", 2, 1⟩⟩

/-- Two records of one unit, one with a field of the other and one with a field of an
enumeration. -/
def visits : Host where
  units := [⟨0, "src/lib.rs", "lib", "crate"⟩]
  markedFunctions _ := []
  markedTypes _ := [visitedPet, ⟨0, "crate::Visit", "Visit", [], .record, [.fixture],
    ⟨"src/lib.rs", 3, 1⟩⟩]
  resolve t :=
    if t.path = "Pet" then some visitedPet
    else if t.path = "Species" then
      some ⟨0, "crate::Species", "Species", [], .enumeration, [], ⟨"src/lib.rs", 1, 1⟩⟩
    else none
  fields d :=
    if d = visitedPet then [⟨"name", .named "String"⟩, ⟨"species", .named "Species"⟩]
    else [⟨"pet", .named "Pet"⟩, ⟨"cost", .named "u32"⟩]
  cases _ := [⟨"Cat", .unit⟩, ⟨"Dog", .unit⟩]

/-- The lists of arguments that a run over a host hands over. -/
def argumentsOver (host : Host) : List (List ParameterSpec) :=
  let takeAll : Receiver Unit := fun _ s => (.ok (), s)
  ((start .defaults).runCalls host ⟨fun _ => 0, 0⟩ takeAll ()).flatMap fun unit =>
    unit.functions.map FunctionSpec.parameters

/-- The fields of a pet are exchanged, or an age comes between them.  The arguments of the pet
follow, and those of a visit stay. -/
theorem fixed_defaults_follow_fields_of_pet :
    let takeAll : Receiver Unit := fun _ s => (.ok (), s)
    let zero : RandomSource := ⟨fun _ => 0, 0⟩
    let isPet : TypeDeclaration → Bool := fun d => decide (d = visitedPet)
    let name : ParameterSpec := ⟨"name", "String", "String::from(\"name\")"⟩
    let species : ParameterSpec := ⟨"species", "crate::Species", "crate::Species::Cat"⟩
    let age : ParameterSpec := ⟨"age", "u8", "0"⟩
    let visit : List ParameterSpec :=
      [⟨"pet", "crate::Pet", "crate::fixtures::lib_fixture::create_pet()"⟩, ⟨"cost", "u32", "0"⟩]
    Options.defaults.randomize.value = false ∧
    ((start .defaults).run visits zero takeAll ()).1 =
      .ok ⟨false, 0, 2, [⟨"lib_fixture", "src/lib.rs", ["create_pet", "create_visit"]⟩]⟩ ∧
    argumentsOver visits = [[name, species], visit] ∧
    (∀ d, isPet d = true → List.Perm [1, 0] (List.range (visits.fields d).length)) ∧
    argumentsOver (visits.withFields isPet fun d => rearranged [1, 0] (visits.fields d)) =
      [[species, name], visit] ∧
    Field.HasSpec visits .empty Options.defaults.naming "crate::Pet" ⟨"age", .named "u8"⟩ age ∧
    argumentsOver (visits.withFields isPet fun d =>
      (visits.fields d).insertIdx 1 ⟨"age", .named "u8"⟩) = [[name, age, species], visit] := by
  intro takeAll zero isPet name species age visit
  have hrun : (start .defaults).run visits zero takeAll () =
      (.ok ⟨false, 0, 2, [⟨"lib_fixture", "src/lib.rs", ["create_pet", "create_visit"]⟩]⟩,
        ((start .defaults).run visits zero takeAll ()).2.1, ()) := rfl
  have htakeAll : takeAll.NeverRefuses := fun _ _ => rfl
  have hpet : ∀ d, isPet d = true → d = visitedPet := fun d hd => of_decide_eq_true hd
  have horder : ∀ d, isPet d = true → List.Perm [1, 0] (List.range (visits.fields d).length) := by
    intro d hd
    rw [hpet d hd]
    exact List.Perm.swap 0 1 []
  have hage : Field.HasSpec visits .empty Options.defaults.naming "crate::Pet" ⟨"age", .named "u8"⟩
      age := ⟨⟨"age", .named "u8", .primitive .int⟩, rfl, zero, zero, rfl⟩
  have hextra : ∀ d, isPet d = true → Field.HasSpec visits .empty Options.defaults.naming
      d.qualifiedName ⟨"age", .named "u8"⟩ age := by
    intro d hd
    rw [hpet d hd]
    exact hage
  obtain ⟨hpermuted, hadded, -⟩ :=
    fixed_defaults_follow_fields visits rfl zero takeAll () hrun
  refine ⟨rfl, rfl, rfl, horder, ?_, hage, ?_⟩
  · obtain ⟨-, hruns⟩ := hpermuted isPet (fun _ => [1, 0]) horder
    rw [argumentsOver, (hruns Unit takeAll zero () htakeAll).2]
    rfl
  · have hruns := hadded isPet (fun _ => 1) (fun _ => ⟨"age", .named "u8"⟩) (fun _ => age) hextra
    rw [argumentsOver, (hruns Unit takeAll zero () htakeAll).2]
    rfl

end Pipeline
end FixtureFactory
