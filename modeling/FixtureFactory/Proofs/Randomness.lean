import FixtureFactory.Proofs.Discovery

/-!
# What randomness reaches

Two runs whose options differ in randomization and seed alone may hand over different sources.  They
differ in default values and nowhere else: what is scanned does not depend on those options, and of
what is built only the default values are drawn.  So if both runs succeed, their units are equal
once the default values are erased.  Without randomization the seed is not read at all, and the
runs are equal as they are, with the error if there is one.

Whether a run succeeds does depend on the draws.  The case of a sealed type may be drawn, and not
every case can be built.

* `UnitSpec.withoutDefaults`: a unit whose default values are erased.
* `UnitFixtures.BuildsTo.withoutDefaults_eq`: a group of fixtures determines the rest of its unit.
* `Pipeline.run_withOptions`: without randomization, only the options themselves differ afterwards.
* `Pipeline.randomness_reaches_defaults`: the runs side by side.
-/

namespace FixtureFactory

/-! ## Erasing default values -/

/-- An argument with its default value erased. -/
def ParameterSpec.withoutDefault (s : ParameterSpec) : ParameterSpec := { s with default := "" }

/-- A factory with the default values of its arguments erased. -/
def FunctionSpec.withoutDefaults (fn : FunctionSpec) : FunctionSpec :=
  { fn with parameters := fn.parameters.map ParameterSpec.withoutDefault }

/-- A unit with the default values of all arguments erased. -/
def UnitSpec.withoutDefaults (unit : UnitSpec) : UnitSpec :=
  { unit with functions := unit.functions.map FunctionSpec.withoutDefaults }

theorem UnitSpec.summary_withoutDefaults (unit : UnitSpec) :
    unit.withoutDefaults.summary = unit.summary := by
  rw [summary, summary, withoutDefaults, List.map_map]
  rfl

/-- The argument of a parameter, its default value left open. -/
def Parameter.outline (p : Parameter) : ParameterSpec := ⟨p.name, p.type.render, ""⟩

/-- The factory of a fixture, the default values left open. -/
def Fixture.outline (f : Fixture) : FunctionSpec :=
  BuildContext.functionOf f (f.parameters.map Parameter.outline)

theorem Parameter.BuildsTo.withoutDefault_eq {p : Parameter} {s : ParameterSpec}
    (h : p.BuildsTo s) : s.withoutDefault = p.outline := by
  rw [ParameterSpec.withoutDefault, Parameter.outline, h.1, h.2]

/-- Apart from default values, a factory is determined by its fixture. -/
theorem Fixture.BuildsTo.withoutDefaults_eq {f : Fixture} {fn : FunctionSpec}
    (h : f.BuildsTo fn) : fn.withoutDefaults = f.outline := by
  have hnames := h.map_name
  obtain ⟨parameters, hparameters, rfl⟩ := h
  have hnames : parameters.map ParameterSpec.name = f.parameters.map Parameter.name := hnames
  have houtline :
      parameters.map ParameterSpec.withoutDefault = f.parameters.map Parameter.outline := by
    rw [← List.forall₂_eq_eq_eq, List.forall₂_map_left_iff, List.forall₂_map_right_iff]
    exact hparameters.flip.imp fun _ _ hp => Parameter.BuildsTo.withoutDefault_eq hp
  have hbody : (f.parameters.map Parameter.outline).map ParameterSpec.name =
      parameters.map ParameterSpec.name := by
    rw [hnames, List.map_map]
    rfl
  rw [FunctionSpec.withoutDefaults, Fixture.outline, BuildContext.functionOf,
    BuildContext.functionOf, houtline, hbody]

/-- **Apart from default values, a unit is determined by its group of fixtures.** -/
theorem UnitFixtures.BuildsTo.withoutDefaults_eq {host : Host} {naming : Naming}
    {group : UnitFixtures} {unit unit' : UnitSpec} (h : group.BuildsTo host naming unit)
    (h' : group.BuildsTo host naming unit') :
    unit'.withoutDefaults = unit.withoutDefaults := by
  have hfunctions : ∀ {u : UnitSpec}, group.BuildsTo host naming u →
      u.functions.map FunctionSpec.withoutDefaults = group.fixtures.map Fixture.outline := by
    intro u hu
    rw [← List.forall₂_eq_eq_eq, List.forall₂_map_left_iff, List.forall₂_map_right_iff]
    exact hu.functions.flip.imp fun _ _ hf => Fixture.BuildsTo.withoutDefaults_eq hf
  obtain ⟨source, hsource, hname, hpath, hmodule⟩ := h.source
  obtain ⟨source', hsource', hname', hpath', hmodule'⟩ := h'.source
  have hsources : source' = source := Option.some.inj (hsource'.symm.trans hsource)
  subst hsources
  rw [UnitSpec.withoutDefaults, UnitSpec.withoutDefaults, hfunctions h, hfunctions h', hname,
    hname', hpath, hpath', hmodule, hmodule']

theorem map_withoutDefaults_eq {host : Host} {naming : Naming} {groups : List UnitFixtures}
    {units units' : List UnitSpec}
    (h : List.Forall₂ (UnitFixtures.BuildsTo host naming) groups units)
    (h' : List.Forall₂ (UnitFixtures.BuildsTo host naming) groups units') :
    units'.map UnitSpec.withoutDefaults = units.map UnitSpec.withoutDefaults := by
  rw [← List.forall₂_eq_eq_eq, List.forall₂_map_left_iff, List.forall₂_map_right_iff]
  exact forall₂_comp (fun _ _ _ hunit' hunit => hunit.withoutDefaults_eq hunit') h'.flip h

/-! ## Options that differ in randomness -/

/-- Whether options differ in randomization and seed at most. -/
def Options.SameButRandomness (o o' : Options) : Prop :=
  o' = { o with randomize := o'.randomize, seed := o'.seed }

theorem Options.SameButRandomness.run_eq {o o' : Options} (h : o.SameButRandomness o') :
    o'.run = o.run := by
  rw [h]

theorem Options.SameButRandomness.naming_eq {o o' : Options} (h : o.SameButRandomness o') :
    o'.naming = o.naming := by
  rw [h]
  rfl

namespace Pipeline

variable {σ : Type} {p : Pipeline} {o o' : Options}

/-- A pipeline with other options. -/
def withOptions (p : Pipeline) (options : Options) : Pipeline := { p with options := options }

/-- A phase that makes a pipeline makes the one with other options, if its work does. -/
theorem expect_withOptions {α : Type} (p : Pipeline) (options : Options) (phase : Phase)
    (x : Except FixtureError α) (f : α → Pipeline) :
    (p.withOptions options).expect phase (x.map fun a => (f a).withOptions options) =
      (p.expect phase (x.map f)).map (·.withOptions options) := by
  show p.expect phase (x.map fun a => (f a).withOptions options) = _
  rw [expect, expect]
  by_cases hphase : p.phase = phase
  · rw [if_pos hphase, if_pos hphase]
    cases x <;> rfl
  · rw [if_neg hphase, if_neg hphase]
    rfl

/-- **The scan of the adapters does not depend on the options.** -/
theorem withAdapters_withOptions (p : Pipeline) (host : Host) (options : Options) :
    (p.withOptions options).withAdapters host =
      (p.withAdapters host).map (·.withOptions options) :=
  p.expect_withOptions options .idle (scanAdapters host) fun adapters =>
    { p with adapters := adapters, phase := .adaptersScanned }

/-- **The scan of the fixtures does not depend on the options**, the module of the output units
aside. -/
theorem withFixtures_withOptions (host : Host) (hnaming : o'.naming = p.naming) :
    (p.withOptions o').withFixtures host = (p.withFixtures host).map (·.withOptions o') := by
  have hscan : scanFixtures host (p.withOptions o').adapters (p.withOptions o').naming =
      scanFixtures host p.adapters p.naming := congrArg (scanFixtures host p.adapters) hnaming
  rw [withFixtures, hscan]
  exact p.expect_withOptions o' .adaptersScanned (scanFixtures host p.adapters p.naming)
    fun fixtures => { p with fixtures := fixtures, phase := .fixturesScanned }

/-! ## Without randomization -/

/-- **Without randomization a build does not depend on the seed.** -/
theorem units_withOptions (host : Host) (hnaming : o'.naming = p.naming)
    (hp : p.options.randomize.value = false) (ho' : o'.randomize.value = false)
    (entropy entropy' : RandomSource) :
    (p.withOptions o').units host entropy' = p.units host entropy := by
  have hcontext : (⟨o'.naming, p.adapters, o'.randomize.value⟩ : BuildContext) =
      ⟨p.naming, p.adapters, p.options.randomize.value⟩ := by
    rw [hnaming, hp, ho']
  show ((BuildContext.buildUnits ⟨o'.naming, p.adapters, o'.randomize.value⟩ host
    p.fixtures).run ((p.withOptions o').source entropy')).1 = _
  rw [hcontext]
  exact BuildContext.run_buildUnits_eq hp host p.fixtures _ _

/-- Without randomization a handing over does not depend on the seed. -/
theorem emit_withOptions (host : Host) (hnaming : o'.naming = p.naming)
    (hp : p.options.randomize.value = false) (ho' : o'.randomize.value = false)
    (entropy entropy' : RandomSource) (receive : Receiver σ) (s : σ) :
    (p.withOptions o').emit host entropy' receive s =
      ((p.emit host entropy receive s).1, (p.emit host entropy receive s).2.1.withOptions o',
        (p.emit host entropy receive s).2.2) := by
  by_cases hphase : p.phase = .fixturesScanned
  · have hphase' : (p.withOptions o').phase = .fixturesScanned := hphase
    have hsame := units_withOptions host hnaming hp ho' entropy entropy'
    cases hunits : p.units host entropy with
    | error e =>
        rw [p.emit_of_units_eq_error host entropy receive s hphase hunits,
          (p.withOptions o').emit_of_units_eq_error host entropy' receive s hphase'
            (hsame.trans hunits)]
    | ok units =>
        rw [p.emit_of_units_eq_ok host entropy receive s hphase hunits,
          (p.withOptions o').emit_of_units_eq_ok host entropy' receive s hphase'
            (hsame.trans hunits)]
        rcases receive.offer units s with ⟨e | ⟨⟩, s₁⟩ <;> rfl
  · have hphase' : (p.withOptions o').phase ≠ .fixturesScanned := hphase
    rw [p.emit_of_phase_ne host entropy receive s hphase,
      (p.withOptions o').emit_of_phase_ne host entropy' receive s hphase']
    rfl

/-- **Without randomization a run does not depend on the seed.** -/
theorem run_withOptions (host : Host) (h : p.options.SameButRandomness o')
    (hp : p.options.randomize.value = false) (ho' : o'.randomize.value = false)
    (entropy entropy' : RandomSource) (receive : Receiver σ) (s : σ) :
    (p.withOptions o').run host entropy' receive s =
      ((p.run host entropy receive s).1, (p.run host entropy receive s).2.1.withOptions o',
        (p.run host entropy receive s).2.2) := by
  have hnaming : o'.naming = p.naming := h.naming_eq
  have hswitch : (p.withOptions o').options.run.value = p.options.run.value :=
    congrArg Setting.value h.run_eq
  rcases p.run_cases host entropy with ⟨hoff, hphase, hrun⟩ | ⟨hoff, hphase, hrun⟩ |
    ⟨hon, e, hadapters, hrun⟩ | ⟨hon, p₁, e, hadapters, hfixtures, hrun⟩ |
    ⟨hon, p₁, p₂, hadapters, hfixtures, hrun⟩
  · have hphase' : (p.withOptions o').phase = .idle := hphase
    rw [hrun]
    simp only [run, hswitch, hoff, expect, if_pos hphase', Bool.not_false, if_true]
    rfl
  · have hphase' : (p.withOptions o').phase ≠ .idle := hphase
    rw [hrun]
    simp only [run, hswitch, hoff, expect, if_neg hphase', Bool.not_false, if_true]
    rfl
  · rw [hrun]
    simp only [run, hswitch, hon, withAdapters_withOptions, hadapters, Except.map, Bool.not_true,
      Bool.false_eq_true, if_false]
  · have hp₁ : p₁.options = p.options := (leadsTo_of_withAdapters hadapters).1
    have hfixtures' : (p₁.withOptions o').withFixtures host = .error e := by
      rw [withFixtures_withOptions host (hnaming.trans (congrArg Options.naming hp₁.symm)),
        hfixtures]
      rfl
    rw [hrun]
    simp only [run, hswitch, hon, withAdapters_withOptions, hadapters, hfixtures', Except.map,
      Bool.not_true, Bool.false_eq_true, if_false]
  · have hp₁ : p₁.options = p.options := (leadsTo_of_withAdapters hadapters).1
    have hp₂ : p₂.options = p.options := (leadsTo_of_withFixtures hfixtures).1.trans hp₁
    have hfixtures' : (p₁.withOptions o').withFixtures host = .ok (p₂.withOptions o') := by
      rw [withFixtures_withOptions host (hnaming.trans (congrArg Options.naming hp₁.symm)),
        hfixtures]
      rfl
    rw [hrun, ← emit_withOptions host (hnaming.trans (congrArg Options.naming hp₂.symm))
      (hp₂ ▸ hp) ho' entropy entropy']
    simp only [run, hswitch, hon, withAdapters_withOptions, hadapters, hfixtures', Except.map,
      Bool.not_true, Bool.false_eq_true, if_false]

/-! ## Runs side by side -/

section Runs

variable {σ' : Type} {host : Host} {entropy entropy' : RandomSource} {receive : Receiver σ}
  {receive' : Receiver σ'} {s : σ} {s' : σ'}

/-- Pipelines that have scanned one host with options that differ in randomness have found the same.
-/
theorem Scanned.registries_eq {p p' : Pipeline} (h : p.Scanned host) (h' : p'.Scanned host)
    (hnaming : p'.naming = p.naming) : p'.adapters = p.adapters ∧ p'.fixtures = p.fixtures := by
  have hadapters : p'.adapters = p.adapters := Except.ok.inj (h'.1.symm.trans h.1)
  have hfixtures := h'.2
  rw [hadapters, hnaming, h.2] at hfixtures
  exact ⟨hadapters, (Except.ok.inj hfixtures).symm⟩

/-- **What runs that differ in randomness hand over** differs in default values only, and the
summaries do not differ. -/
theorem runCalls_withoutDefaults (h : o.SameButRandomness o') {summary summary' : RunSummary}
    (hrun : ((start o).run host entropy receive s).1 = .ok summary)
    (hrun' : ((start o').run host entropy' receive' s').1 = .ok summary') :
    ((start o').runCalls host entropy' receive' s').map UnitSpec.withoutDefaults =
      ((start o).runCalls host entropy receive s).map UnitSpec.withoutDefaults ∧
    summary' = summary := by
  cases hon : o.run.value with
  | false =>
      have hoff' : o'.run.value = false := (congrArg Setting.value h.run_eq).trans hon
      rw [start_run_of_off hon] at hrun
      rw [start_run_of_off hoff'] at hrun'
      rw [runCalls, runCalls, start_run_of_off hon, start_run_of_off hoff']
      exact ⟨rfl, (Except.ok.inj hrun').symm.trans (Except.ok.inj hrun)⟩
  | true =>
      have hon' : o'.run.value = true := (congrArg Setting.value h.run_eq).trans hon
      obtain ⟨hp, hscanned, hunits, -, hsummary⟩ :=
        start_run_eq_ok hon host entropy receive s (Prod.ext hrun rfl)
      obtain ⟨hp', hscanned', hunits', -, hsummary'⟩ :=
        start_run_eq_ok hon' host entropy' receive' s' (Prod.ext hrun' rfl)
      generalize ((start o).run host entropy receive s).2.1 = p at *
      generalize ((start o').run host entropy' receive' s').2.1 = p' at *
      have hnaming : p'.naming = p.naming := by
        rw [naming, naming, hp, hp', h.naming_eq]
      obtain ⟨hadapters, hfixtures⟩ := hscanned.registries_eq hscanned' hnaming
      obtain ⟨hbuilt, -⟩ := BuildContext.buildsTo_of_yields_buildUnits _
        (yields_of_units_eq_ok hunits)
      obtain ⟨hbuilt', -⟩ := BuildContext.buildsTo_of_yields_buildUnits _
        (yields_of_units_eq_ok hunits')
      have herased := map_withoutDefaults_eq hbuilt (hnaming ▸ hfixtures ▸ hbuilt')
      refine ⟨herased, ?_⟩
      have hsummaries : ∀ units : List UnitSpec,
          units.map UnitSpec.summary =
            (units.map UnitSpec.withoutDefaults).map UnitSpec.summary := by
        intro units
        rw [List.map_map]
        exact List.map_congr_left fun unit _ => unit.summary_withoutDefaults.symm
      rw [hsummary, hsummary', Pipeline.summary, Pipeline.summary, hadapters, hfixtures, hsummaries,
        herased, ← hsummaries]

/-- **Randomization and seed reach default values only.**  For any host and any options that differ
in nothing else, the scans do the same.  Where both runs succeed, with whatever receivers and
entropies, their units are equal once the default values are erased, and so are the summaries.
Where neither run is randomized, they do the same altogether: they end in the same error or with the
same summary, hand the same units over, and leave the receiver in the same state. -/
theorem randomness_reaches_defaults (host : Host) {o o' : Options} (h : o.SameButRandomness o') :
    (∀ p : Pipeline, p.options = o →
      (p.withOptions o').withAdapters host = (p.withAdapters host).map (·.withOptions o') ∧
      (p.withOptions o').withFixtures host = (p.withFixtures host).map (·.withOptions o')) ∧
    (∀ {σ σ' : Type} (receive : Receiver σ) (receive' : Receiver σ') (s : σ) (s' : σ')
      (entropy entropy' : RandomSource) (summary summary' : RunSummary),
      ((start o).run host entropy receive s).1 = .ok summary →
      ((start o').run host entropy' receive' s').1 = .ok summary' →
      ((start o').runCalls host entropy' receive' s').map UnitSpec.withoutDefaults =
        ((start o).runCalls host entropy receive s).map UnitSpec.withoutDefaults ∧
      summary' = summary) ∧
    (o.randomize.value = false → o'.randomize.value = false →
      ∀ {σ : Type} (receive : Receiver σ) (s : σ) (entropy entropy' : RandomSource),
        (start o').run host entropy' receive s =
          (((start o).run host entropy receive s).1,
            ((start o).run host entropy receive s).2.1.withOptions o',
            ((start o).run host entropy receive s).2.2) ∧
        (start o').runCalls host entropy' receive s = (start o).runCalls host entropy receive s) := by
  refine ⟨fun p hp => ?_, ?_, fun ho ho' σ receive s entropy entropy' => ?_⟩
  · have hnaming : o'.naming = p.naming := h.naming_eq.trans (congrArg Options.naming hp.symm)
    exact ⟨p.withAdapters_withOptions host o', withFixtures_withOptions host hnaming⟩
  · exact fun _ _ _ _ _ _ _ _ hrun hrun' => runCalls_withoutDefaults h hrun hrun'
  · have hruns : ∀ {τ : Type} (receive : Receiver τ) (t : τ),
        (start o').run host entropy' receive t = _ := run_withOptions (p := start o) host h ho ho' entropy entropy'
    refine ⟨hruns receive s, ?_⟩
    rw [runCalls, runCalls, hruns receive.recording (s, [])]

/-- The default values of the arguments that a run with some options hands over. -/
def defaultsHandedOver (host : Host) (options : Options) (entropy : RandomSource) : List String :=
  ((start options).runCalls host entropy (fun _ s => (.ok (), s)) ()).flatMap fun unit =>
    unit.functions.flatMap fun fn => fn.parameters.map (·.default)

/-- A seed alone changes nothing, and randomization changes the default of the one label. -/
theorem randomness_reaches_defaults_alternating :
    let takeAll : Receiver Unit := fun _ s => (.ok (), s)
    let zero : RandomSource := ⟨fun _ => 0, 0⟩
    let plain := Options.defaults
    let seeded : Options := { plain with seed := some ⟨7, .option⟩ }
    let randomized : Options := { plain with randomize := ⟨true, .option⟩ }
    plain.SameButRandomness seeded ∧ plain.SameButRandomness randomized ∧
    defaultsHandedOver alternating plain zero = ["String::from(\"label\")"] ∧
    defaultsHandedOver alternating randomized zero = ["String::from(\"A\")"] ∧
    (start seeded).runCalls alternating zero takeAll () =
      (start plain).runCalls alternating zero takeAll () ∧
    ((start randomized).runCalls alternating zero takeAll ()).map UnitSpec.withoutDefaults =
      ((start plain).runCalls alternating zero takeAll ()).map UnitSpec.withoutDefaults := by
  intro takeAll zero plain seeded randomized
  have hseeded : plain.SameButRandomness seeded := rfl
  have hrandomized : plain.SameButRandomness randomized := rfl
  obtain ⟨-, -, hsame⟩ := randomness_reaches_defaults alternating hseeded
  obtain ⟨-, herased, -⟩ := randomness_reaches_defaults alternating hrandomized
  refine ⟨rfl, rfl, rfl, by decide +kernel, (hsame rfl rfl takeAll () zero zero).2, ?_⟩
  exact (herased takeAll takeAll () () zero zero _ _ rfl rfl).1

end Runs

end Pipeline
end FixtureFactory
