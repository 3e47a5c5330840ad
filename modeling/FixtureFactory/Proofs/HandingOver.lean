import FixtureFactory.Pipeline
import FixtureFactory.Proofs.FixedValues

/-!
# Handing units over

All units are built before the first is handed over, and the receiver may refuse any of them.
This file says which calls a receiver sees, in which order, and what the pipeline is afterwards.

## Watching a receiver

What a receiver is offered shows only in its own state, and that state is arbitrary.  So the
receiver is wrapped: `Receiver.recording` behaves like the receiver and also writes down every unit
it is offered.  Since emission can do nothing with a receiver but call it, the log of the wrapped
receiver is the list of calls of the receiver itself; `emit_recording` and `run_recording` say that
the wrapping changes nothing else.

## Handing over again

A refusal leaves the pipeline as it was, so the units can be asked for again.  They are then built
anew, from the first draw of the seed and not from where the draws had stopped, and so the second
attempt offers the same units from the first one on.  Without a seed this needs randomization to be
off, for then no draw is made at all.
-/

namespace FixtureFactory

variable {σ τ : Type}

namespace Receiver

/-! ## Calls of a receiver -/

/-- The receiver takes every unit of a list, one after another. -/
inductive Accepts (receive : Receiver σ) : List UnitSpec → σ → σ → Prop where
  | nil (s : σ) : Accepts receive [] s s
  | cons {unit : UnitSpec} {units : List UnitSpec} {s s₁ s₂ : σ} :
      receive unit s = (.ok (), s₁) → Accepts receive units s₁ s₂ →
      Accepts receive (unit :: units) s s₂

/-- The receiver takes every unit in every state. -/
def NeverRefuses (receive : Receiver σ) : Prop := ∀ unit s, (receive unit s).1 = .ok ()

/-- The units that are offered from a list, up to the first refusal. -/
def offered (receive : Receiver σ) : List UnitSpec → σ → List UnitSpec
  | [], _ => []
  | unit :: units, s =>
      match receive unit s with
      | (.ok (), s) => unit :: offered receive units s
      | (.error _, _) => [unit]

/-- **A recording receiver behaves like the receiver and writes down the offered units.** -/
theorem offer_recording (receive : Receiver σ) (units : List UnitSpec) (s : σ)
    (log : List UnitSpec) :
    receive.recording.offer units (s, log) =
      ((receive.offer units s).1, (receive.offer units s).2, log ++ receive.offered units s) := by
  induction units generalizing s log with
  | nil => simp [offer, offered]
  | cons unit units ih =>
      rw [offer, offer, offered, recording]
      rcases hr : receive unit s with ⟨e | ⟨⟩, s₁⟩
      · rfl
      · show receive.recording.offer units (s₁, log ++ [unit]) = _
        rw [ih s₁ (log ++ [unit]), List.append_assoc, List.singleton_append]

/-- **An offer ends in one of two ways.**  Either the receiver takes every unit, and every unit is
offered; or it takes the units before some unit and refuses that one, and nothing behind it is
offered. -/
theorem offer_cases (receive : Receiver σ) (units : List UnitSpec) (s : σ) :
    (∃ s', receive.Accepts units s s' ∧ receive.offered units s = units ∧
      receive.offer units s = (.ok (), s')) ∨
    (∃ before refused after s₁ s₂ e, units = before ++ refused :: after ∧
      receive.Accepts before s s₁ ∧ receive refused s₁ = (.error e, s₂) ∧
      receive.offered units s = before ++ [refused] ∧
      receive.offer units s = (.error e, s₂)) := by
  induction units generalizing s with
  | nil => exact Or.inl ⟨s, .nil s, rfl, rfl⟩
  | cons unit units ih =>
      rw [offer, offered]
      rcases hr : receive unit s with ⟨e | ⟨⟩, s₁⟩
      · exact Or.inr ⟨[], unit, units, s, s₁, e, rfl, .nil s, hr, rfl, rfl⟩
      · rcases ih s₁ with ⟨s', haccepts, hoffered, hoffer⟩ |
          ⟨before, refused, after, s₂, s₃, e, rfl, haccepts, hrefused, hoffered, hoffer⟩
        · exact Or.inl ⟨s', .cons hr haccepts, congrArg (unit :: ·) hoffered, hoffer⟩
        · exact Or.inr ⟨unit :: before, refused, after, s₂, s₃, e, rfl, .cons hr haccepts, hrefused,
            congrArg (unit :: ·) hoffered, hoffer⟩

end Receiver

namespace Pipeline

variable (p : Pipeline) (host : Host) (entropy : RandomSource) (receive : Receiver σ) (s : σ)

/-! ## Handing over, case by case -/

theorem emit_of_phase_ne (h : p.phase ≠ .fixturesScanned) :
    p.emit host entropy receive s =
      (.error (outOfOrder p.phase .fixturesScanned), p, s) := by
  rw [emit, expect, if_neg h]

theorem emit_of_units_eq_error (hphase : p.phase = .fixturesScanned) {e : FixtureError}
    (h : p.units host entropy = .error e) :
    p.emit host entropy receive s = (.error e, p, s) := by
  rw [emit, expect, if_pos hphase, h]

/-- What a build gives is offered to the receiver. -/
theorem emit_of_units_eq_ok (hphase : p.phase = .fixturesScanned) {units : List UnitSpec}
    (h : p.units host entropy = .ok units) :
    p.emit host entropy receive s =
      match receive.offer units s with
      | (.error e, s) => (.error e, p, s)
      | (.ok (), s) => (.ok (p.summary units), { p with phase := .emitted }, s) := by
  have hexpect : p.expect .fixturesScanned (p.units host entropy) = .ok units := by
    rw [expect, if_pos hphase, h]
  rcases hoffer : receive.offer units s with ⟨e | ⟨⟩, s₁⟩
  · simp only [emit, hexpect, hoffer]
  · simp only [emit, hexpect, hoffer]

theorem emitCalls_of_phase_ne (h : p.phase ≠ .fixturesScanned) :
    p.emitCalls host entropy receive s = [] := by
  rw [emitCalls, emit_of_phase_ne p host entropy receive.recording (s, []) h]

theorem emitCalls_of_units_eq_error (hphase : p.phase = .fixturesScanned) {e : FixtureError}
    (h : p.units host entropy = .error e) : p.emitCalls host entropy receive s = [] := by
  rw [emitCalls, emit_of_units_eq_error p host entropy receive.recording (s, []) hphase h]

theorem emitCalls_of_units_eq_ok (hphase : p.phase = .fixturesScanned) {units : List UnitSpec}
    (h : p.units host entropy = .ok units) :
    p.emitCalls host entropy receive s = receive.offered units s := by
  rw [emitCalls, emit_of_units_eq_ok p host entropy receive.recording (s, []) hphase h,
    receive.offer_recording, List.nil_append]
  rcases receive.offer units s with ⟨e | ⟨⟩, s₁⟩ <;> rfl

/-- **A handing over of what a build gives** ends as the offer does: the receiver takes every unit,
or it refuses one of them and the pipeline stays as it was. -/
theorem emit_cases (hphase : p.phase = .fixturesScanned) {units : List UnitSpec}
    (h : p.units host entropy = .ok units) :
    (∃ s', receive.Accepts units s s' ∧ p.emitCalls host entropy receive s = units ∧
      p.emit host entropy receive s =
        (.ok (p.summary units), { p with phase := .emitted }, s')) ∨
    (∃ before refused after s₁ s₂ e, units = before ++ refused :: after ∧
      receive.Accepts before s s₁ ∧ receive refused s₁ = (.error e, s₂) ∧
      p.emitCalls host entropy receive s = before ++ [refused] ∧
      p.emit host entropy receive s = (.error e, p, s₂)) := by
  rw [p.emitCalls_of_units_eq_ok host entropy receive s hphase h,
    p.emit_of_units_eq_ok host entropy receive s hphase h]
  rcases receive.offer_cases units s with ⟨s', haccepts, hoffered, hoffer⟩ |
    ⟨before, refused, after, s₁, s₂, e, hsplit, haccepts, hrefused, hoffered, hoffer⟩
  · rw [hoffer]
    exact Or.inl ⟨s', haccepts, hoffered, rfl⟩
  · rw [hoffer]
    exact Or.inr ⟨before, refused, after, s₁, s₂, e, hsplit, haccepts, hrefused, hoffered, rfl⟩

/-- **Recording changes nothing about a handing over.** -/
theorem emit_recording (log : List UnitSpec) :
    p.emit host entropy receive.recording (s, log) =
      ((p.emit host entropy receive s).1, (p.emit host entropy receive s).2.1,
        (p.emit host entropy receive s).2.2, log ++ p.emitCalls host entropy receive s) := by
  by_cases hphase : p.phase = .fixturesScanned
  · cases hunits : p.units host entropy with
    | error e =>
        rw [p.emit_of_units_eq_error host entropy _ _ hphase hunits,
          p.emit_of_units_eq_error host entropy _ _ hphase hunits,
          p.emitCalls_of_units_eq_error host entropy _ _ hphase hunits, List.append_nil]
    | ok units =>
        rw [p.emit_of_units_eq_ok host entropy _ _ hphase hunits,
          p.emit_of_units_eq_ok host entropy _ _ hphase hunits,
          p.emitCalls_of_units_eq_ok host entropy _ _ hphase hunits, receive.offer_recording]
        rcases receive.offer units s with ⟨e | ⟨⟩, s₁⟩ <;> rfl
  · rw [p.emit_of_phase_ne host entropy _ _ hphase, p.emit_of_phase_ne host entropy _ _ hphase,
      p.emitCalls_of_phase_ne host entropy _ _ hphase, List.append_nil]

/-- **A handing over that fails leaves the pipeline as it was.** -/
theorem emit_eq_error {e : FixtureError} {p' : Pipeline} {s' : σ}
    (h : p.emit host entropy receive s = (.error e, p', s')) : p' = p := by
  by_cases hphase : p.phase = .fixturesScanned
  · cases hunits : p.units host entropy with
    | error e₁ =>
        rw [p.emit_of_units_eq_error host entropy _ _ hphase hunits] at h
        exact (congrArg (fun r => r.2.1) h).symm
    | ok units =>
        rcases p.emit_cases host entropy receive s hphase hunits with ⟨s₁, -, -, hemit⟩ |
          ⟨_, _, _, s₁, s₂, e₁, -, -, -, -, hemit⟩
        · rw [hemit] at h
          cases h
        · rw [hemit] at h
          exact (congrArg (fun r => r.2.1) h).symm
  · rw [p.emit_of_phase_ne host entropy _ _ hphase] at h
    exact (congrArg (fun r => r.2.1) h).symm

/-- **What a handing over that succeeds has done.** -/
theorem emit_eq_ok {summary : RunSummary} {p' : Pipeline} {s' : σ}
    (h : p.emit host entropy receive s = (.ok summary, p', s')) :
    p.phase = .fixturesScanned ∧ p' = { p with phase := .emitted } ∧
      p.units host entropy = .ok (p.emitCalls host entropy receive s) ∧
      receive.Accepts (p.emitCalls host entropy receive s) s s' ∧
      summary = p.summary (p.emitCalls host entropy receive s) := by
  by_cases hphase : p.phase = .fixturesScanned
  · refine ⟨hphase, ?_⟩
    cases hunits : p.units host entropy with
    | error e =>
        rw [p.emit_of_units_eq_error host entropy _ _ hphase hunits] at h
        cases h
    | ok units =>
        rcases p.emit_cases host entropy receive s hphase hunits with
          ⟨s₁, haccepts, hcalls, hemit⟩ | ⟨_, _, _, s₁, s₂, e, -, -, -, -, hemit⟩
        · rw [hemit] at h
          have hs : s₁ = s' := congrArg (fun r => r.2.2) h
          rw [hcalls]
          exact ⟨(congrArg (fun r => r.2.1) h).symm, rfl, hs ▸ haccepts,
            (Except.ok.inj (congrArg Prod.fst h)).symm⟩
        · rw [hemit] at h
          cases h
  · rw [p.emit_of_phase_ne host entropy _ _ hphase] at h
    cases h

/-! ## Building again -/

/-- Builds of the pipeline do not depend on entropy: it has a seed, or it draws nothing. -/
def Reproducible : Prop := p.options.randomize.value = false ∨ p.options.seed.isSome

/-- **A reproducible pipeline builds the same units from any entropy.** -/
theorem Reproducible.units_eq {p : Pipeline} (h : p.Reproducible) (host : Host)
    (entropy entropy' : RandomSource) : p.units host entropy = p.units host entropy' := by
  rcases h with hrandomize | hseed
  · exact BuildContext.run_buildUnits_eq hrandomize host p.fixtures _ _
  · obtain ⟨seed, hseed⟩ := Option.isSome_iff_exists.mp hseed
    have hsource : p.source entropy = p.source entropy' := by
      rw [source, source, hseed]
    rw [units, units, hsource]

theorem Reproducible.emit_eq {p : Pipeline} (h : p.Reproducible) (host : Host)
    (entropy entropy' : RandomSource) (receive : Receiver σ) (s : σ) :
    p.emit host entropy receive s = p.emit host entropy' receive s := by
  rw [emit, emit, h.units_eq host entropy entropy']

/-- A handing over that follows a failed one, to a receiver that takes every unit. -/
theorem Reproducible.emit_again {p : Pipeline} (h : p.Reproducible)
    (hphase : p.phase = .fixturesScanned) (host : Host) (entropy entropy' : RandomSource)
    {receive : Receiver σ} (hreceive : receive.NeverRefuses) (s : σ) {units : List UnitSpec}
    (hunits : p.units host entropy' = .ok units) :
    p.emitCalls host entropy receive s = units ∧
      (p.emit host entropy receive s).1 = .ok (p.summary units) := by
  rw [← h.units_eq host entropy entropy'] at hunits
  rcases p.emit_cases host entropy receive s hphase hunits with ⟨s₁, -, hcalls, hemit⟩ |
    ⟨_, refused, _, s₁, s₂, e, -, -, hrefused, -, -⟩
  · exact ⟨hcalls, by rw [hemit]⟩
  · have hok := hreceive refused s₁
    rw [hrefused] at hok
    cases hok

/-! ## What a handing over does -/

/-- **All units are built before the first is offered, and a failure can be repaired.**  If the
build fails, nothing is offered.  If it succeeds, its units are offered in order, up to the first
that the receiver refuses.  A failure of either kind leaves the pipeline as it was; and unless
randomization draws from entropy, a later handing over to a receiver that takes every unit offers
all of them from the first one on, as it would have done without the failure. -/
theorem emit_builds_before_offering (host : Host) (p : Pipeline)
    (hphase : p.phase = .fixturesScanned) (entropy : RandomSource) (receive : Receiver σ) (s : σ) :
    (∀ e, p.units host entropy = .error e →
      p.emitCalls host entropy receive s = [] ∧
        p.emit host entropy receive s = (.error e, p, s)) ∧
    (∀ units, p.units host entropy = .ok units →
      (∃ s', receive.Accepts units s s' ∧ p.emitCalls host entropy receive s = units ∧
        p.emit host entropy receive s =
          (.ok (p.summary units), { p with phase := .emitted }, s')) ∨
      (∃ before refused after s₁ s₂ e, units = before ++ refused :: after ∧
        receive.Accepts before s s₁ ∧ receive refused s₁ = (.error e, s₂) ∧
        p.emitCalls host entropy receive s = before ++ [refused] ∧
        p.emit host entropy receive s = (.error e, p, s₂))) ∧
    (∀ e p' s', p.emit host entropy receive s = (.error e, p', s') →
      p' = p ∧
      (p.options.randomize.value = false ∨ p.options.seed.isSome → ∀ {τ : Type}
        (later : Receiver τ) (t : τ) (entropy₁ entropy₂ : RandomSource), later.NeverRefuses →
        p'.emit host entropy₁ later t = p.emit host entropy₂ later t ∧
        p'.emitCalls host entropy₁ later t = p.emitCalls host entropy₂ later t ∧
        ∀ units, p.units host entropy₂ = .ok units →
          p'.emitCalls host entropy₁ later t = units ∧
            (p'.emit host entropy₁ later t).1 = .ok (p.summary units))) := by
  refine ⟨fun e he => ?_, fun units hunits => ?_, fun e p' s' h => ?_⟩
  · exact ⟨p.emitCalls_of_units_eq_error host entropy receive s hphase he,
      p.emit_of_units_eq_error host entropy receive s hphase he⟩
  · exact p.emit_cases host entropy receive s hphase hunits
  · obtain rfl := p.emit_eq_error host entropy receive s h
    refine ⟨rfl, fun hp τ later t entropy₁ entropy₂ hlater => ?_⟩
    have hp : Reproducible p' := hp
    refine ⟨hp.emit_eq host entropy₁ entropy₂ later t, ?_, fun units hunits =>
      hp.emit_again hphase host entropy₁ entropy₂ hlater t hunits⟩
    rw [emitCalls, emitCalls, hp.emit_eq host entropy₁ entropy₂]

/-- A host with three units, whose records are discovered in turns. -/
def alternating : Host where
  units := [⟨0, "src/a.rs", "a", "crate::a"⟩, ⟨1, "src/b.rs", "b", "crate::b"⟩,
    ⟨2, "src/c.rs", "c", "crate::c"⟩]
  markedFunctions _ := []
  markedTypes _ :=
    [⟨0, "crate::a::First", "First", [], .record, [.fixture], ⟨"src/a.rs", 1, 1⟩⟩,
     ⟨1, "crate::b::Second", "Second", [], .record, [.fixture], ⟨"src/b.rs", 1, 1⟩⟩,
     ⟨0, "crate::a::Third", "Third", [], .record, [.fixture], ⟨"src/a.rs", 2, 1⟩⟩,
     ⟨2, "crate::c::Fourth", "Fourth", [], .record, [.fixture], ⟨"src/c.rs", 1, 1⟩⟩]
  resolve _ := none
  fields d := if d.simpleName = "First" then [⟨"label", .named "String"⟩] else []
  cases _ := []

/-- A pipeline that has scanned the host with three units. -/
def alternatingScanned : Pipeline where
  options := .defaults
  phase := .fixturesScanned
  adapters := .empty
  fixtures := ((scanFixtures alternating .empty Options.defaults.naming).toOption).getD .empty

/-- The second of three units is refused.  The third is not offered, and the next receiver is
offered all three. -/
theorem emit_after_refused_second_unit :
    let refuseSecond : Receiver Nat := fun unit n =>
      if n = 1 then (.error (.emit unit.name "disk full"), n + 1) else (.ok (), n + 1)
    let takeAll : Receiver Unit := fun _ s => (.ok (), s)
    let first := alternatingScanned.emit alternating ⟨fun _ => 0, 0⟩ refuseSecond 0
    alternatingScanned.phase = .fixturesScanned ∧
    first.1 = .error (.emit "b_fixture" "disk full") ∧
    (alternatingScanned.emitCalls alternating ⟨fun _ => 0, 0⟩ refuseSecond 0).map (·.name) =
      ["a_fixture", "b_fixture"] ∧
    takeAll.NeverRefuses ∧
    (first.2.1.emitCalls alternating ⟨fun _ => 7, 3⟩ takeAll ()).map (·.name) =
      ["a_fixture", "b_fixture", "c_fixture"] := by
  intro refuseSecond takeAll first
  have herror : first.1 = .error (.emit "b_fixture" "disk full") := rfl
  have hfirst : first = (.error (.emit "b_fixture" "disk full"), first.2.1, first.2.2) :=
    Prod.ext herror rfl
  have htakeAll : takeAll.NeverRefuses := fun _ _ => rfl
  obtain ⟨-, -, hagain⟩ := emit_builds_before_offering alternating alternatingScanned rfl
    ⟨fun _ => 0, 0⟩ refuseSecond 0
  obtain ⟨-, hlater⟩ := hagain _ _ _ hfirst
  obtain ⟨-, hcalls, -⟩ :=
    hlater (Or.inl rfl) takeAll () ⟨fun _ => 7, 3⟩ ⟨fun _ => 0, 0⟩ htakeAll
  refine ⟨rfl, herror, rfl, htakeAll, ?_⟩
  rw [hcalls]
  rfl

end Pipeline
end FixtureFactory
