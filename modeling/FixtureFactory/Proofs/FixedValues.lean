import FixtureFactory.Building
import FixtureFactory.Proofs.Outcome

/-!
# Building without randomization

Without randomization a build reads no word of its random source.  Each default value is a
function of the parameter, and the loops around it only pass the source on, so the outcome of a
whole build, its error included, is the same for every source.

* `DefaultValue.fixedValue` and `DefaultValue.fixedDefault` are these functions, and
  `DefaultValue.run_generate_false` says that the generator computes them.
* `BuildContext.run_buildUnits_eq` says that the outcome of a build does not depend on the source.
-/

namespace FixtureFactory

open Build

namespace DefaultValue

/-! ## Values of parameters -/

/-- The first entry of a list. -/
def firstEntry {α : Type} (entries : List α) (type : TypeRef) (field : String) :
    Except FixtureError α :=
  match entries.head? with
  | some entry => .ok entry
  | none => .error (.emptyVariants type.path field)

/-- The value that a parameter has without randomization, and whether it is an option already. -/
def fixedValue (adapters : AdapterRegistry) (p : Parameter) :
    Except FixtureError (String × Bool) :=
  match p.kind with
  | .primitive kind => .ok (primitive p.name p.type kind, false)
  | .knownType kind => .ok (knownType kind, false)
  | .fixture factory => .ok (factory.call, false)
  | .enumeration entries =>
      (firstEntry entries p.type p.name).map fun entry => (p.type.path ++ "::" ++ entry, false)
  | .sealed entries =>
      (firstEntry entries p.type p.name).bind fun entry =>
        (sealedValue p.type p.name entry).map fun text => (text, false)
  | .collection kind _ => .ok (collection p.type kind, false)
  | .adapterSupplied =>
      match adapters.find? p.type with
      | some a => .ok (a.call, a.target.nullable)
      | none => .error (.missingAdapter p.type.renderRequired p.name)

/-- The default value that a parameter has without randomization. -/
def fixedDefault (adapters : AdapterRegistry) (p : Parameter) : Except FixtureError String :=
  (fixedValue adapters p).map fun value => wrap p.type value.1 value.2

theorem run_pick_false {α : Type} (entries : List α) (type : TypeRef) (field : String)
    (s : RandomSource) :
    (pick false entries type field).run s = (firstEntry entries type field, s) := by
  cases entries with
  | nil => rfl
  | cons entry entries => rfl

/-- **Without randomization a value is a function of the parameter.** -/
theorem run_value_false (adapters : AdapterRegistry) (p : Parameter) (s : RandomSource) :
    (value false adapters p).run s = (fixedValue adapters p, s) := by
  rw [value, fixedValue]
  cases p.kind with
  | primitive kind => rfl
  | knownType kind => rfl
  | fixture factory => rfl
  | enumeration entries =>
      simp only [run_bind, run_pick_false]
      cases firstEntry entries p.type p.name <;> rfl
  | sealed entries =>
      simp only [run_bind, run_pick_false]
      cases firstEntry entries p.type p.name with
      | error e => rfl
      | ok entry =>
          simp only [Except.bind]
          cases sealedValue p.type p.name entry <;> rfl
  | collection kind elements => rfl
  | adapterSupplied =>
      cases adapters.find? p.type <;> rfl

/-- **Without randomization a default value is a function of the parameter.** -/
theorem run_generate_false (adapters : AdapterRegistry) (p : Parameter) (s : RandomSource) :
    (generate false adapters p).run s = (fixedDefault adapters p, s) := by
  have habsent : absent false p.type = pure false := by
    rw [absent, Bool.and_false]
    rfl
  rw [generate, habsent]
  show ((value false adapters p) >>= fun v => (pure (wrap p.type v.1 v.2) : Build String)).run s = _
  rw [run_bind, run_value_false, fixedDefault]
  cases fixedValue adapters p <;> rfl

theorem drawless_generate (adapters : AdapterRegistry) (p : Parameter) :
    Drawless (generate false adapters p) :=
  ⟨fixedDefault adapters p, run_generate_false adapters p⟩

end DefaultValue

namespace BuildContext

/-! ## Builds -/

variable {c : BuildContext}

theorem drawless_parameterSpec (hc : c.randomize = false) (p : Parameter) :
    Drawless (c.parameterSpec p) := by
  rw [parameterSpec, hc]
  exact (DefaultValue.drawless_generate c.adapters p).bind fun _ => drawless_pure _

theorem drawless_buildFunction (hc : c.randomize = false) (f : Fixture) :
    Drawless (c.buildFunction f) := by
  rw [buildFunction]
  exact (drawless_mapM (drawless_parameterSpec hc) f.parameters).bind fun _ => drawless_pure _

theorem drawless_buildFunctions (hc : c.randomize = false) (unit : String) (fs : List Fixture)
    (taken : Claims) : Drawless (c.buildFunctions unit fs taken) := by
  induction fs generalizing taken with
  | nil =>
      rw [buildFunctions]
      exact drawless_pure []
  | cons f fs ih =>
      rw [buildFunctions]
      refine (drawless_buildFunction hc f).bind fun fn => ?_
      cases claimItems unit f.qualifiedName fn.itemNames taken with
      | error e => exact drawless_throw e
      | ok taken' => exact (ih taken').bind fun _ => drawless_pure _

theorem drawless_buildUnit (hc : c.randomize = false) (source : SourceUnit)
    (group : UnitFixtures) : Drawless (c.buildUnit source group) := by
  rw [buildUnit]
  exact (drawless_buildFunctions hc _ group.fixtures []).bind fun _ => drawless_pure _

theorem drawless_buildGroups (hc : c.randomize = false) (host : Host)
    (groups : List UnitFixtures) (taken : Claims) :
    Drawless (c.buildGroups host groups taken) := by
  induction groups generalizing taken with
  | nil =>
      rw [buildGroups]
      exact drawless_pure []
  | cons group groups ih =>
      rw [buildGroups]
      cases host.unit? group.unit with
      | none => exact drawless_throw _
      | some source =>
          refine (drawless_buildUnit hc source group).bind fun unit => ?_
          cases taken.lookup unit.name with
          | some first => exact drawless_throw _
          | none => exact (ih _).bind fun _ => drawless_pure _

/-- **Without randomization the outcome of a build does not depend on the source.** -/
theorem run_buildUnits_eq (hc : c.randomize = false) (host : Host) (fixtures : FixtureRegistry)
    (s t : RandomSource) :
    ((c.buildUnits host fixtures).run s).1 = ((c.buildUnits host fixtures).run t).1 :=
  (drawless_buildGroups hc host fixtures.groups []).outcome_eq s t

end BuildContext
end FixtureFactory
