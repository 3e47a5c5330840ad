import FixtureFactory.Proofs.HandingOver

/-!
# The phases of a pipeline

A pipeline answers four requests: scan the adapters, scan the fixtures, hand over, and run all
three.  Requests may come in any order and any number of times, with any receivers.  This file says
in which states that can leave a pipeline.

## The invariant

`Consistent` ties what the registries hold to how far the pipeline has come.  Nothing but the scan
of its own phase fills a registry, so each phase determines the contents: nothing before the first
scan, the adapters of the host after it, and after the second also the fixtures, classified under
exactly those adapters.  A pipeline at its end has been there, or it was switched off and has
scanned nothing.

## One step, then many

`run_cases` says all that a run can do: it is switched off, or it stops at one of the scans, or it
hands over from the pipeline that both scans have left.  With the two scans and the handing over
this gives one lemma for each request, `consistent_answer` for the invariant and `leadsTo_answer`
for the order of the phases, and the statements about any list of requests follow by induction on
the list.
-/

namespace FixtureFactory

variable {σ : Type}

/-- The position of a phase in the order of the phases. -/
def Phase.rank : Phase → Nat
  | .idle => 0
  | .adaptersScanned => 1
  | .fixturesScanned => 2
  | .emitted => 3

namespace Pipeline

variable {p p' : Pipeline} {host : Host}

/-! ## Scans -/

/-- A phase goes through when it is due and its work succeeds. -/
theorem expect_eq_ok_iff {α : Type} {phase : Phase} {next : Except FixtureError α} {a : α} :
    p.expect phase next = .ok a ↔ p.phase = phase ∧ next = .ok a := by
  rw [expect]
  by_cases hphase : p.phase = phase
  · rw [if_pos hphase, and_iff_right hphase]
  · rw [if_neg hphase]
    constructor
    · intro h
      cases h
    · intro h
      exact absurd h.1 hphase

theorem expect_of_phase_ne {α : Type} {phase : Phase} (next : Except FixtureError α)
    (h : p.phase ≠ phase) : p.expect phase next = .error (outOfOrder p.phase phase) := by
  rw [expect, if_neg h]

/-- **A scan of the adapters that succeeds.** -/
theorem withAdapters_eq_ok_iff :
    p.withAdapters host = .ok p' ↔
      p.phase = .idle ∧ ∃ adapters, scanAdapters host = .ok adapters ∧
        p' = { p with adapters := adapters, phase := .adaptersScanned } := by
  rw [withAdapters, expect_eq_ok_iff, exceptMap_eq_ok_iff]

/-- **A scan of the fixtures that succeeds.** -/
theorem withFixtures_eq_ok_iff :
    p.withFixtures host = .ok p' ↔
      p.phase = .adaptersScanned ∧
        ∃ fixtures, scanFixtures host p.adapters p.naming = .ok fixtures ∧
          p' = { p with fixtures := fixtures, phase := .fixturesScanned } := by
  rw [withFixtures, expect_eq_ok_iff, exceptMap_eq_ok_iff]

/-- The registries hold what the two scans find. -/
def Scanned (host : Host) (p : Pipeline) : Prop :=
  scanAdapters host = .ok p.adapters ∧ scanFixtures host p.adapters p.naming = .ok p.fixtures

/-! ## Runs -/

/-- **What a run can do**, whatever the receiver is. -/
theorem run_cases (p : Pipeline) (host : Host) (entropy : RandomSource) :
    (p.options.run.value = false ∧ p.phase = .idle ∧
      ∀ {σ : Type} (receive : Receiver σ) (s : σ), p.run host entropy receive s =
        (.ok skippedSummary, { p with phase := .emitted }, s)) ∨
    (p.options.run.value = false ∧ p.phase ≠ .idle ∧
      ∀ {σ : Type} (receive : Receiver σ) (s : σ), p.run host entropy receive s =
        (.error (outOfOrder p.phase .idle), p, s)) ∨
    (p.options.run.value = true ∧ ∃ e, p.withAdapters host = .error e ∧
      ∀ {σ : Type} (receive : Receiver σ) (s : σ), p.run host entropy receive s =
        (.error e, p, s)) ∨
    (p.options.run.value = true ∧ ∃ p₁ e, p.withAdapters host = .ok p₁ ∧
      p₁.withFixtures host = .error e ∧
      ∀ {σ : Type} (receive : Receiver σ) (s : σ), p.run host entropy receive s =
        (.error e, p₁, s)) ∨
    (p.options.run.value = true ∧ ∃ p₁ p₂, p.withAdapters host = .ok p₁ ∧
      p₁.withFixtures host = .ok p₂ ∧
      ∀ {σ : Type} (receive : Receiver σ) (s : σ), p.run host entropy receive s =
        p₂.emit host entropy receive s) := by
  cases hrun : p.options.run.value with
  | false =>
      by_cases hphase : p.phase = .idle
      · refine Or.inl ⟨rfl, hphase, fun receive s => ?_⟩
        simp [run, hrun, expect, hphase]
      · refine Or.inr (Or.inl ⟨rfl, hphase, fun receive s => ?_⟩)
        simp [run, hrun, expect, hphase]
  | true =>
      cases hadapters : p.withAdapters host with
      | error e =>
          refine Or.inr (Or.inr (Or.inl ⟨rfl, e, rfl, fun receive s => ?_⟩))
          simp [run, hrun, hadapters]
      | ok p₁ =>
          cases hfixtures : p₁.withFixtures host with
          | error e =>
              refine Or.inr (Or.inr (Or.inr (Or.inl ⟨rfl, p₁, e, rfl, hfixtures,
                fun receive s => ?_⟩)))
              simp [run, hrun, hadapters, hfixtures]
          | ok p₂ =>
              refine Or.inr (Or.inr (Or.inr (Or.inr ⟨rfl, p₁, p₂, rfl, hfixtures,
                fun receive s => ?_⟩)))
              simp [run, hrun, hadapters, hfixtures]

/-- **Recording changes nothing about a run.** -/
theorem run_recording (p : Pipeline) (host : Host) (entropy : RandomSource)
    (receive : Receiver σ) (s : σ) (log : List UnitSpec) :
    p.run host entropy receive.recording (s, log) =
      ((p.run host entropy receive s).1, (p.run host entropy receive s).2.1,
        (p.run host entropy receive s).2.2, log ++ p.runCalls host entropy receive s) := by
  rcases p.run_cases host entropy with ⟨-, -, hrun⟩ | ⟨-, -, hrun⟩ | ⟨-, e, -, hrun⟩ |
    ⟨-, p₁, e, -, -, hrun⟩ | ⟨-, p₁, p₂, -, -, hrun⟩
  · rw [runCalls, hrun, hrun, hrun, List.append_nil]
  · rw [runCalls, hrun, hrun, hrun, List.append_nil]
  · rw [runCalls, hrun, hrun, hrun, List.append_nil]
  · rw [runCalls, hrun, hrun, hrun, List.append_nil]
  · rw [runCalls, hrun, hrun, hrun, p₂.emit_recording, emitCalls]

theorem start_run_of_off {options : Options} (hrun : options.run.value = false) (host : Host)
    (entropy : RandomSource) (receive : Receiver σ) (s : σ) :
    (start options).run host entropy receive s =
      (.ok skippedSummary, { start options with phase := .emitted }, s) := by
  rw [run, show (start options).options.run.value = false from hrun]
  rfl

/-- **What a run that succeeds has done**, if generation is not switched off: both scans, and then
a handing over of all that the build gives. -/
theorem start_run_eq_ok {options : Options} (hrun : options.run.value = true) (host : Host)
    (entropy : RandomSource) (receive : Receiver σ) (s : σ) {summary : RunSummary}
    {p' : Pipeline} {s' : σ}
    (h : (start options).run host entropy receive s = (.ok summary, p', s')) :
    p'.options = options ∧ p'.Scanned host ∧
      p'.units host entropy = .ok ((start options).runCalls host entropy receive s) ∧
      receive.Accepts ((start options).runCalls host entropy receive s) s s' ∧
      summary = p'.summary ((start options).runCalls host entropy receive s) := by
  rcases (start options).run_cases host entropy with ⟨hoff, -, -⟩ | ⟨hoff, -, -⟩ |
    ⟨-, e, -, hcase⟩ | ⟨-, p₁, e, -, -, hcase⟩ | ⟨-, p₁, p₂, hp₁, hp₂, hcase⟩
  · cases hrun.symm.trans hoff
  · cases hrun.symm.trans hoff
  · rw [hcase] at h
    cases h
  · rw [hcase] at h
    cases h
  · rw [hcase] at h
    obtain ⟨-, rfl, hunits, haccepts, hsummary⟩ := p₂.emit_eq_ok host entropy receive s h
    obtain ⟨-, adapters, hadapters, rfl⟩ := withAdapters_eq_ok_iff.mp hp₁
    obtain ⟨-, fixtures, hfixtures, rfl⟩ := withFixtures_eq_ok_iff.mp hp₂
    rw [runCalls, hcase]
    exact ⟨rfl, ⟨hadapters, hfixtures⟩, hunits, haccepts, hsummary⟩

/-! ## The invariant -/

/-- The registries are empty. -/
def Unscanned (p : Pipeline) : Prop := p.adapters = .empty ∧ p.fixtures = .empty

/-- The registries hold what the phase says. -/
def Consistent (host : Host) (p : Pipeline) : Prop :=
  match p.phase with
  | .idle => p.Unscanned
  | .adaptersScanned => scanAdapters host = .ok p.adapters ∧ p.fixtures = .empty
  | .fixturesScanned => p.Scanned host
  | .emitted => p.Scanned host ∨ (p.options.run.value = false ∧ p.Unscanned)

theorem consistent_start (options : Options) (host : Host) : (start options).Consistent host :=
  ⟨rfl, rfl⟩

theorem Consistent.withAdapters (h : p.Consistent host) (hp' : p.withAdapters host = .ok p') :
    p'.Consistent host := by
  obtain ⟨hphase, adapters, hadapters, rfl⟩ := withAdapters_eq_ok_iff.mp hp'
  rw [Consistent, hphase] at h
  exact ⟨hadapters, h.2⟩

theorem Consistent.withFixtures (h : p.Consistent host) (hp' : p.withFixtures host = .ok p') :
    p'.Consistent host := by
  obtain ⟨hphase, fixtures, hfixtures, rfl⟩ := withFixtures_eq_ok_iff.mp hp'
  rw [Consistent, hphase] at h
  exact ⟨h.1, hfixtures⟩

theorem Consistent.emit (h : p.Consistent host) (entropy : RandomSource) (receive : Receiver σ)
    (s : σ) : (p.emit host entropy receive s).2.1.Consistent host := by
  rcases hemit : p.emit host entropy receive s with ⟨e | summary, p', s'⟩
  · rw [p.emit_eq_error host entropy receive s hemit]
    exact h
  · obtain ⟨hphase, rfl, -⟩ := p.emit_eq_ok host entropy receive s hemit
    rw [Consistent, hphase] at h
    exact Or.inl h

/-- A run keeps the invariant. -/
theorem Consistent.run (h : p.Consistent host) (entropy : RandomSource) (receive : Receiver σ)
    (s : σ) : (p.run host entropy receive s).2.1.Consistent host := by
  rcases p.run_cases host entropy with ⟨hoff, hphase, hrun⟩ | ⟨-, -, hrun⟩ | ⟨-, e, -, hrun⟩ |
    ⟨-, p₁, e, hp₁, -, hrun⟩ | ⟨-, p₁, p₂, hp₁, hp₂, hrun⟩
  · rw [hrun]
    rw [Consistent, hphase] at h
    exact Or.inr ⟨hoff, h⟩
  · rw [hrun]
    exact h
  · rw [hrun]
    exact h
  · rw [hrun]
    exact h.withAdapters hp₁
  · rw [hrun]
    exact ((h.withAdapters hp₁).withFixtures hp₂).emit entropy receive s

/-- **Every request keeps the invariant.** -/
theorem consistent_answer (h : p.Consistent host) (request : Request) :
    (p.answer host request).pipeline.Consistent host := by
  cases request with
  | scanAdapters =>
      rw [answer]
      cases hp' : p.withAdapters host with
      | error e => exact h
      | ok p' => exact h.withAdapters hp'
  | scanFixtures =>
      rw [answer]
      cases hp' : p.withFixtures host with
      | error e => exact h
      | ok p' => exact h.withFixtures hp'
  | emit entropy receive s => exact h.emit entropy receive s
  | run entropy receive s => exact h.run entropy receive s

/-- **Every pipeline that requests lead to keeps the invariant.** -/
theorem consistent_after (h : p.Consistent host) (requests : List Request) :
    (p.after host requests).Consistent host := by
  induction requests generalizing p with
  | nil => exact h
  | cons request requests ih => exact ih (consistent_answer h request)

/-! ## The order of the phases -/

/-- What no request changes, and what none turns back. -/
def LeadsTo (p p' : Pipeline) : Prop := p'.options = p.options ∧ p.phase.rank ≤ p'.phase.rank

theorem LeadsTo.refl (p : Pipeline) : p.LeadsTo p := ⟨rfl, Nat.le_refl _⟩

theorem LeadsTo.trans {p₁ p₂ p₃ : Pipeline} (h : p₁.LeadsTo p₂) (h' : p₂.LeadsTo p₃) :
    p₁.LeadsTo p₃ :=
  ⟨h'.1.trans h.1, Nat.le_trans h.2 h'.2⟩

theorem leadsTo_emitted (p : Pipeline) : p.LeadsTo { p with phase := .emitted } := by
  refine ⟨rfl, ?_⟩
  show p.phase.rank ≤ 3
  cases p.phase <;> decide

theorem leadsTo_of_withAdapters (hp' : p.withAdapters host = .ok p') : p.LeadsTo p' := by
  obtain ⟨hphase, adapters, -, rfl⟩ := withAdapters_eq_ok_iff.mp hp'
  refine ⟨rfl, ?_⟩
  rw [hphase]
  exact Nat.zero_le 1

theorem leadsTo_of_withFixtures (hp' : p.withFixtures host = .ok p') : p.LeadsTo p' := by
  obtain ⟨hphase, fixtures, -, rfl⟩ := withFixtures_eq_ok_iff.mp hp'
  refine ⟨rfl, ?_⟩
  rw [hphase]
  exact Nat.le_succ 1

theorem leadsTo_emit (p : Pipeline) (host : Host) (entropy : RandomSource) (receive : Receiver σ)
    (s : σ) : p.LeadsTo (p.emit host entropy receive s).2.1 := by
  rcases hemit : p.emit host entropy receive s with ⟨e | summary, p', s'⟩
  · rw [p.emit_eq_error host entropy receive s hemit]
    exact LeadsTo.refl p
  · obtain ⟨-, rfl, -⟩ := p.emit_eq_ok host entropy receive s hemit
    exact p.leadsTo_emitted

theorem leadsTo_run (p : Pipeline) (host : Host) (entropy : RandomSource) (receive : Receiver σ)
    (s : σ) : p.LeadsTo (p.run host entropy receive s).2.1 := by
  rcases p.run_cases host entropy with ⟨-, -, hrun⟩ | ⟨-, -, hrun⟩ | ⟨-, e, -, hrun⟩ |
    ⟨-, p₁, e, hp₁, -, hrun⟩ | ⟨-, p₁, p₂, hp₁, hp₂, hrun⟩
  · rw [hrun]
    exact p.leadsTo_emitted
  · rw [hrun]
    exact LeadsTo.refl p
  · rw [hrun]
    exact LeadsTo.refl p
  · rw [hrun]
    exact leadsTo_of_withAdapters hp₁
  · rw [hrun]
    exact ((leadsTo_of_withAdapters hp₁).trans (leadsTo_of_withFixtures hp₂)).trans
      (p₂.leadsTo_emit host entropy receive s)

/-- **No request turns a pipeline back.** -/
theorem leadsTo_answer (p : Pipeline) (host : Host) (request : Request) :
    p.LeadsTo (p.answer host request).pipeline := by
  cases request with
  | scanAdapters =>
      rw [answer]
      cases hp' : p.withAdapters host with
      | error e => exact LeadsTo.refl p
      | ok p' => exact leadsTo_of_withAdapters hp'
  | scanFixtures =>
      rw [answer]
      cases hp' : p.withFixtures host with
      | error e => exact LeadsTo.refl p
      | ok p' => exact leadsTo_of_withFixtures hp'
  | emit entropy receive s => exact p.leadsTo_emit host entropy receive s
  | run entropy receive s => exact p.leadsTo_run host entropy receive s

/-- **No list of requests turns a pipeline back.** -/
theorem leadsTo_after (p : Pipeline) (host : Host) (requests : List Request) :
    p.LeadsTo (p.after host requests) := by
  induction requests generalizing p with
  | nil => exact LeadsTo.refl p
  | cons request requests ih =>
      exact (p.leadsTo_answer host request).trans (ih (p.answer host request).pipeline)

/-! ## Failures -/

/-- What a request that fails leaves behind: the pipeline as it was, except that a run keeps the
scans it has completed. -/
def LeavesBehind (host : Host) (p : Pipeline) (e : FixtureError) (p' : Pipeline) :
    Request → Prop
  | .run entropy receive s =>
      (p.options.run.value = false ∧ p' = p) ∨
      (p.options.run.value = true ∧ p.withAdapters host = .error e ∧ p' = p) ∨
      (p.options.run.value = true ∧ p.withAdapters host = .ok p' ∧
        p'.withFixtures host = .error e) ∨
      (p.options.run.value = true ∧ ∃ p₁, p.withAdapters host = .ok p₁ ∧
        p₁.withFixtures host = .ok p' ∧ (p'.emit host entropy receive s).1 = .error e)
  | _ => p' = p

/-- **What a failed request leaves behind.** -/
theorem leavesBehind_answer (p : Pipeline) (host : Host) (request : Request) {e : FixtureError}
    (he : (p.answer host request).outcome = .error e) :
    LeavesBehind host p e (p.answer host request).pipeline request := by
  cases request with
  | scanAdapters =>
      rw [answer] at he ⊢
      cases hp' : p.withAdapters host with
      | error e' => rfl
      | ok p' => rw [hp'] at he; cases he
  | scanFixtures =>
      rw [answer] at he ⊢
      cases hp' : p.withFixtures host with
      | error e' => rfl
      | ok p' => rw [hp'] at he; cases he
  | emit entropy receive s =>
      rw [answer] at he ⊢
      rcases hemit : p.emit host entropy receive s with ⟨e' | summary, p', s'⟩
      · exact p.emit_eq_error host entropy receive s hemit
      · rw [hemit] at he
        cases he
  | run entropy receive s =>
      rw [answer] at he ⊢
      rcases p.run_cases host entropy with ⟨-, -, hrun⟩ | ⟨hoff, -, hrun⟩ | ⟨hon, e', hp₁, hrun⟩ |
        ⟨hon, p₁, e', hp₁, hp₂, hrun⟩ | ⟨hon, p₁, p₂, hp₁, hp₂, hrun⟩
      · rw [hrun] at he
        cases he
      · rw [hrun]
        exact Or.inl ⟨hoff, rfl⟩
      · rw [hrun] at he ⊢
        rw [Except.error.inj he] at hp₁
        exact Or.inr (Or.inl ⟨hon, hp₁, rfl⟩)
      · rw [hrun] at he ⊢
        rw [Except.error.inj he] at hp₂
        exact Or.inr (Or.inr (Or.inl ⟨hon, hp₁, hp₂⟩))
      · rw [hrun] at he ⊢
        rcases hemit : p₂.emit host entropy receive s with ⟨e' | summary, p', s'⟩
        · obtain rfl := p₂.emit_eq_error host entropy receive s hemit
          rw [hemit] at he
          refine Or.inr (Or.inr (Or.inr ⟨hon, p₁, hp₁, hp₂, ?_⟩))
          rw [hemit, Except.error.inj he]
        · rw [hemit] at he
          cases he

/-- **A pipeline at its end refuses every request**, and offers nothing to a receiver. -/
theorem answer_of_phase_eq_emitted (p : Pipeline) (host : Host) (request : Request)
    (h : p.phase = .emitted) :
    ∃ due, p.answer host request = ⟨.error (outOfOrder p.phase due), p, []⟩ := by
  have hidle : p.phase ≠ .idle := by rw [h]; decide
  have hscanned : p.phase ≠ .adaptersScanned := by rw [h]; decide
  have hbuilt : p.phase ≠ .fixturesScanned := by rw [h]; decide
  have hadapters : p.withAdapters host = .error (outOfOrder p.phase .idle) :=
    expect_of_phase_ne _ hidle
  cases request with
  | scanAdapters =>
      refine ⟨.idle, ?_⟩
      rw [answer, hadapters]
      rfl
  | scanFixtures =>
      have hfixtures : p.withFixtures host = .error (outOfOrder p.phase .adaptersScanned) :=
        expect_of_phase_ne _ hscanned
      refine ⟨.adaptersScanned, ?_⟩
      rw [answer, hfixtures]
      rfl
  | emit entropy receive s =>
      refine ⟨.fixturesScanned, ?_⟩
      rw [answer, p.emit_of_phase_ne host entropy receive s hbuilt,
        p.emitCalls_of_phase_ne host entropy receive s hbuilt]
      rfl
  | run entropy receive s =>
      refine ⟨.idle, ?_⟩
      rcases p.run_cases host entropy with ⟨-, hphase, -⟩ | ⟨-, -, hrun⟩ | ⟨-, e, hp₁, hrun⟩ |
        ⟨-, p₁, e, hp₁, -, -⟩ | ⟨-, p₁, p₂, hp₁, -, -⟩
      · exact absurd hphase hidle
      · rw [answer, runCalls, hrun, hrun]
        rfl
      · rw [hadapters] at hp₁
        rw [answer, runCalls, hrun, hrun, ← Except.error.inj hp₁]
        rfl
      · rw [hadapters] at hp₁
        cases hp₁
      · rw [hadapters] at hp₁
        cases hp₁

/-! ## What any list of requests leads to -/

/-- **The phases of a pipeline under any requests.**  However a pipeline has been used since its
start, its options are those it started with, its registries hold what its phase says, and no
further requests turn it back.  A request that fails leaves it as it was, except that a run keeps
the scans it has completed.  At its end it refuses everything and offers nothing.

The requests come in any order, and any of them may fail.  What a registry holds is compared with
the scan of the host, so it does not depend on how often a scan has been asked for in vain. -/
theorem after_start_lawful (host : Host) (options : Options) (requests later : List Request)
    (next : Request) :
    let p := (start options).after host requests
    p.options = options ∧ p.Consistent host ∧
      p.phase.rank ≤ (p.after host later).phase.rank ∧
      (∀ e, (p.answer host next).outcome = .error e →
        LeavesBehind host p e (p.answer host next).pipeline next) ∧
      (p.phase = .emitted →
        ∃ reason, p.answer host next = ⟨.error (.internal reason), p, []⟩) := by
  intro p
  have hstart : (start options).LeadsTo p := (start options).leadsTo_after host requests
  refine ⟨hstart.1, consistent_after (consistent_start options host) requests,
    (p.leadsTo_after host later).2, fun e he => p.leavesBehind_answer host next he, ?_⟩
  intro hphase
  obtain ⟨due, hrefused⟩ := p.answer_of_phase_eq_emitted host next hphase
  exact ⟨_, hrefused⟩

end Pipeline
end FixtureFactory
