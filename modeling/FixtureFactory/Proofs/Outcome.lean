import FixtureFactory.DefaultValue
import Mathlib.Data.List.Forall2

/-!
# Outcomes of computations that may fail

A scan is a traversal that may fail, and a build is a traversal that may fail and draws from a
random source on the way.  Both are taken apart the same way everywhere: a success of the whole
is a success of every part.  This file says so once.

## The first fault

A traversal that fails does so with the error of the first element that has one.  `FirstFault` says
this of a list and of any notion of a fault, so that errors can be told without the traversal.

## Successes of a build

`Build.Yields x a` says that some source makes `x` succeed with `a`.  The source is left out on
purpose.  The parts of a build run one after another on one stream of draws, so a statement that
kept the stream would have to name its state between every two parts; what the names and types of
generated items are does not depend on the draws at all.

## Builds without draws

`Build.Drawless x` says that `x` leaves the source alone and has one outcome whatever the source
is.  It is closed under everything that builds are made of, so a build is drawless as soon as its
smallest parts are.

## Lists that correspond

A traversal relates its input to its output element by element, and a program is a sequence of
traversals.  What is needed of such relations beyond the library is how two of them compose, and
that every element has a partner.
-/

namespace FixtureFactory

variable {α β ε : Type}

/-- **A traversal succeeds exactly when every step does.** -/
theorem mapM_eq_ok_iff (f : α → Except ε β) (xs : List α) (ys : List β) :
    xs.mapM f = .ok ys ↔ List.Forall₂ (fun x y => f x = .ok y) xs ys := by
  induction xs generalizing ys with
  | nil =>
      rw [List.mapM_nil, List.forall₂_nil_left_iff]
      exact ⟨fun h => (Except.ok.inj h).symm, fun h => by rw [h]; rfl⟩
  | cons x xs ih =>
      rw [List.mapM_cons, List.forall₂_cons_left_iff]
      constructor
      · intro h
        cases hx : f x with
        | error e => rw [hx] at h; cases h
        | ok y =>
            cases hxs : xs.mapM f with
            | error e => rw [hx, hxs] at h; cases h
            | ok rest =>
                rw [hx, hxs] at h
                exact ⟨y, rest, rfl, (ih rest).mp hxs, (Except.ok.inj h).symm⟩
      · rintro ⟨y, rest, hx, hxs, rfl⟩
        rw [hx, (ih rest).mpr hxs]
        rfl

theorem exceptMap_eq_ok_iff {f : α → β} {x : Except ε α} {b : β} :
    x.map f = .ok b ↔ ∃ a, x = .ok a ∧ b = f a := by
  cases x with
  | error e => simp [Except.map]
  | ok a => simp [Except.map, eq_comm]

theorem exceptMap_eq_error_iff {f : α → β} {x : Except ε α} {e : ε} :
    x.map f = .error e ↔ x = .error e := by
  cases x with
  | error e' => simp [Except.map]
  | ok a => simp [Except.map]

theorem mapError_eq_ok_iff {ε' : Type} {f : ε → ε'} {x : Except ε α} {a : α} :
    x.mapError f = .ok a ↔ x = .ok a := by
  cases x with
  | error e => simp [Except.mapError]
  | ok b => simp [Except.mapError]

/-! ## The first fault -/

section FirstFault

variable {Fault : α → ε → Prop} {e : ε}

/-- The first member of a list that has a fault has this one. -/
inductive FirstFault (Fault : α → ε → Prop) : List α → ε → Prop where
  | head {x : α} {xs : List α} {e : ε} (h : Fault x e) : FirstFault Fault (x :: xs) e
  | tail {x : α} {xs : List α} {e : ε} (hx : ∀ e, ¬ Fault x e) (hxs : FirstFault Fault xs e) :
      FirstFault Fault (x :: xs) e

theorem not_firstFault_nil : ¬ FirstFault Fault [] e := nofun

theorem firstFault_cons_iff {x : α} {xs : List α} :
    FirstFault Fault (x :: xs) e ↔ Fault x e ∨ (∀ e, ¬ Fault x e) ∧ FirstFault Fault xs e := by
  constructor
  · intro h
    cases h with
    | head h => exact Or.inl h
    | tail hx hxs => exact Or.inr ⟨hx, hxs⟩
  · rintro (h | ⟨hx, hxs⟩)
    · exact .head h
    · exact .tail hx hxs

theorem firstFault_singleton_iff {x : α} : FirstFault Fault [x] e ↔ Fault x e := by
  rw [firstFault_cons_iff]
  exact or_iff_left fun h => not_firstFault_nil h.2

/-- Where no element has two faults, there is one first fault. -/
theorem FirstFault.unique (hfault : ∀ x e e', Fault x e → Fault x e' → e = e') {xs : List α}
    {e e' : ε} (h : FirstFault Fault xs e) (h' : FirstFault Fault xs e') : e = e' := by
  induction h with
  | head h =>
      rcases firstFault_cons_iff.mp h' with h' | ⟨hnone, -⟩
      · exact hfault _ _ _ h h'
      · exact absurd h (hnone _)
  | tail hnone _ ih =>
      rcases firstFault_cons_iff.mp h' with h' | ⟨-, h'⟩
      · exact absurd h' (hnone _)
      · exact ih h'

/-- A list has a first fault exactly if it has a fault. -/
theorem exists_firstFault_iff {xs : List α} :
    (∃ e, FirstFault Fault xs e) ↔ ∃ x ∈ xs, ∃ e, Fault x e := by
  induction xs with
  | nil => simp [not_firstFault_nil]
  | cons x xs ih =>
      rw [List.exists_mem_cons_iff, ← ih]
      constructor
      · rintro ⟨e, h⟩
        exact (firstFault_cons_iff.mp h).imp (⟨e, ·⟩) fun h => ⟨e, h.2⟩
      · rintro (⟨e, he⟩ | ⟨e, he⟩)
        · exact ⟨e, .head he⟩
        · by_cases hx : ∃ e, Fault x e
          · exact hx.imp fun e he => .head he
          · exact ⟨e, .tail (fun e he => hx ⟨e, he⟩) he⟩

theorem firstFault_append_iff {xs ys : List α} :
    FirstFault Fault (xs ++ ys) e ↔
      FirstFault Fault xs e ∨ (∀ x ∈ xs, ∀ e, ¬ Fault x e) ∧ FirstFault Fault ys e := by
  induction xs with
  | nil => simp [not_firstFault_nil]
  | cons x xs ih =>
      rw [List.cons_append, firstFault_cons_iff, firstFault_cons_iff, ih, List.forall_mem_cons]
      tauto

theorem firstFault_map_iff {f : β → α} {xs : List β} :
    FirstFault Fault (xs.map f) e ↔ FirstFault (fun x => Fault (f x)) xs e := by
  induction xs with
  | nil => exact iff_of_false not_firstFault_nil not_firstFault_nil
  | cons x xs ih => rw [List.map_cons, firstFault_cons_iff, firstFault_cons_iff, ih]

/-- The faults of what some members of a list stand for. -/
theorem firstFault_filterMap_iff {f : β → Option α} {xs : List β} :
    FirstFault Fault (xs.filterMap f) e ↔
      FirstFault (fun x e => ∃ y, f x = some y ∧ Fault y e) xs e := by
  induction xs with
  | nil => exact iff_of_false not_firstFault_nil not_firstFault_nil
  | cons x xs ih =>
      rw [firstFault_cons_iff, ← ih]
      rcases hx : f x with _ | y
      · rw [List.filterMap_cons_none hx]
        simp
      · rw [List.filterMap_cons_some hx, firstFault_cons_iff]
        simp

/-- **A traversal fails with the first fault.** -/
theorem mapM_eq_error_iff {f : α → Except ε β} (hf : ∀ x e, f x = .error e ↔ Fault x e)
    {xs : List α} : xs.mapM f = .error e ↔ FirstFault Fault xs e := by
  induction xs with
  | nil => exact iff_of_false nofun not_firstFault_nil
  | cons x xs ih =>
      rw [List.mapM_cons, firstFault_cons_iff, ← ih, ← hf]
      simp only [← hf]
      cases f x <;> cases xs.mapM f <;> simp [bind, Except.bind, pure, Except.pure]

theorem foldlM_eq_error_iff {f : β → α → Except ε β} (hf : ∀ b x e, f b x = .error e ↔ Fault x e)
    {xs : List α} {b : β} : xs.foldlM f b = .error e ↔ FirstFault Fault xs e := by
  induction xs generalizing b with
  | nil => exact iff_of_false nofun not_firstFault_nil
  | cons x xs ih =>
      rw [List.foldlM_cons, firstFault_cons_iff, ← hf b]
      simp only [← hf b]
      rcases f b x with e' | b'
      · simp [bind, Except.bind]
      · simp [bind, Except.bind, ih]

end FirstFault

/-! ## Lists that correspond -/

/-- Two correspondences in a row. -/
theorem forall₂_comp {γ : Type} {R : α → β → Prop} {S : β → γ → Prop} {T : α → γ → Prop}
    (hRST : ∀ a b c, R a b → S b c → T a c) {xs : List α} {ys : List β} {zs : List γ}
    (hR : List.Forall₂ R xs ys) (hS : List.Forall₂ S ys zs) : List.Forall₂ T xs zs := by
  induction hR generalizing zs with
  | nil =>
      rw [List.forall₂_nil_left_iff] at hS
      rw [hS]
      exact .nil
  | cons hab _ ih =>
      obtain ⟨c, rest, hbc, hrest, rfl⟩ := List.forall₂_cons_left_iff.mp hS
      exact .cons (hRST _ _ c hab hbc) (ih hrest)

theorem exists_mem_right_of_forall₂ {R : α → β → Prop} {xs : List α} {ys : List β}
    (h : List.Forall₂ R xs ys) {x : α} (hx : x ∈ xs) : ∃ y ∈ ys, R x y := by
  induction h with
  | nil => exact absurd hx List.not_mem_nil
  | cons hab _ ih =>
      rcases List.mem_cons.mp hx with rfl | hx
      · exact ⟨_, List.mem_cons_self, hab⟩
      · obtain ⟨y, hy, hxy⟩ := ih hx
        exact ⟨y, List.mem_cons_of_mem _ hy, hxy⟩

theorem exists_mem_left_of_forall₂ {R : α → β → Prop} {xs : List α} {ys : List β}
    (h : List.Forall₂ R xs ys) {y : β} (hy : y ∈ ys) : ∃ x ∈ xs, R x y :=
  exists_mem_right_of_forall₂ h.flip hy

theorem map_eq_map_of_forall₂ {γ : Type} {f : α → γ} {g : β → γ} {xs : List α} {ys : List β}
    (h : List.Forall₂ (fun x y => f x = g y) xs ys) : xs.map f = ys.map g := by
  rw [← List.forall₂_eq_eq_eq, List.forall₂_map_left_iff, List.forall₂_map_right_iff]
  exact h

/-- A list has a corresponding list exactly when every element has a partner. -/
theorem exists_forall₂_iff {R : α → β → Prop} {xs : List α} :
    (∃ ys, List.Forall₂ R xs ys) ↔ ∀ x ∈ xs, ∃ y, R x y := by
  induction xs with
  | nil => exact ⟨fun _ x hx => absurd hx List.not_mem_nil, fun _ => ⟨[], .nil⟩⟩
  | cons x xs ih =>
      rw [List.forall_mem_cons, ← ih]
      constructor
      · rintro ⟨_, hx | ⟨hxy, hxs⟩⟩
        exact ⟨⟨_, hxy⟩, _, hxs⟩
      · rintro ⟨⟨y, hxy⟩, ys, hxs⟩
        exact ⟨y :: ys, .cons hxy hxs⟩

namespace Build

/-! ## Running -/

/-- A sequence runs its first part and hands the rest of the source to the second. -/
theorem run_bind (x : Build α) (f : α → Build β) (s : RandomSource) :
    (x >>= f).run s =
      match x.run s with
      | (.ok a, s) => (f a).run s
      | (.error e, s) => (.error e, s) := by
  show (ExceptT.bind x f).run s = _
  simp only [ExceptT.bind, ExceptT.run, ExceptT.mk, bind, StateT.bind]
  show _ = match x s with
    | (.ok a, s) => f a s
    | (.error e, s) => (.error e, s)
  rcases x s with ⟨r | a, s'⟩ <;> rfl

theorem run_draw (d : Draw α) (s : RandomSource) :
    (liftM d : Build α).run s = (.ok (d s).1, (d s).2) := rfl

/-! ## Successes -/

/-- Some source makes the computation succeed with the value. -/
def Yields (x : Build α) (a : α) : Prop := ∃ s s', x.run s = (.ok a, s')

theorem yields_pure_iff {a b : α} : Yields (pure a : Build α) b ↔ a = b := by
  constructor
  · rintro ⟨s, s', h⟩
    exact Except.ok.inj (congrArg Prod.fst h)
  · rintro rfl
    exact ⟨⟨fun _ => 0, 0⟩, ⟨fun _ => 0, 0⟩, rfl⟩

theorem not_yields_throw (e : FixtureError) (a : α) : ¬ Yields (throw e : Build α) a := by
  rintro ⟨s, s', h⟩
  cases h

theorem exists_of_yields_draw {d : Draw α} {a : α} (h : Yields (liftM d : Build α) a) :
    ∃ s, (d s).1 = a := by
  obtain ⟨s, s', h⟩ := h
  rw [run_draw] at h
  exact ⟨s, Except.ok.inj (congrArg Prod.fst h)⟩

/-- **A sequence succeeds only through successes of both parts.** -/
theorem Yields.of_bind {x : Build α} {f : α → Build β} {b : β} (h : Yields (x >>= f) b) :
    ∃ a, Yields x a ∧ Yields (f a) b := by
  obtain ⟨s, s', h⟩ := h
  rw [run_bind] at h
  rcases hx : x.run s with ⟨e | a, s₁⟩
  · rw [hx] at h
    cases h
  · rw [hx] at h
    exact ⟨a, ⟨s, s₁, hx⟩, s₁, s', h⟩

/-- A successful traversal yields what its steps yield. -/
theorem Yields.of_mapM {f : α → Build β} {xs : List α} {ys : List β}
    (h : Yields (xs.mapM f) ys) : List.Forall₂ (fun x y => Yields (f x) y) xs ys := by
  induction xs generalizing ys with
  | nil =>
      rw [List.mapM_nil, yields_pure_iff] at h
      rw [← h]
      exact .nil
  | cons x xs ih =>
      rw [List.mapM_cons] at h
      obtain ⟨y, hy, h⟩ := h.of_bind
      obtain ⟨rest, hrest, h⟩ := h.of_bind
      rw [yields_pure_iff] at h
      rw [← h]
      exact .cons hy (ih hrest)

/-! ## Outcomes that no draw decides -/

/-- The computation draws nothing, and its outcome is the same for every source. -/
def Drawless (x : Build α) : Prop := ∃ r, ∀ s, x.run s = (r, s)

theorem drawless_pure (a : α) : Drawless (pure a : Build α) := ⟨.ok a, fun _ => rfl⟩

theorem drawless_throw (e : FixtureError) : Drawless (throw e : Build α) :=
  ⟨.error e, fun _ => rfl⟩

theorem Drawless.bind {x : Build α} {f : α → Build β} (hx : Drawless x)
    (hf : ∀ a, Drawless (f a)) : Drawless (x >>= f) := by
  obtain ⟨r, hr⟩ := hx
  cases r with
  | error e => exact ⟨.error e, fun s => by rw [run_bind, hr s]⟩
  | ok a =>
      obtain ⟨r', hr'⟩ := hf a
      exact ⟨r', fun s => by rw [run_bind, hr s]; exact hr' s⟩

theorem drawless_mapM {f : α → Build β} (hf : ∀ a, Drawless (f a)) (xs : List α) :
    Drawless (xs.mapM f) := by
  induction xs with
  | nil =>
      rw [List.mapM_nil]
      exact drawless_pure []
  | cons x xs ih =>
      rw [List.mapM_cons]
      exact (hf x).bind fun y => ih.bind fun ys => drawless_pure (y :: ys)

theorem Drawless.run_of_yields {x : Build α} (hx : Drawless x) {a : α} (h : Yields x a)
    (s : RandomSource) : x.run s = (.ok a, s) := by
  obtain ⟨r, hr⟩ := hx
  obtain ⟨s₁, s₂, h⟩ := h
  rw [hr s₁] at h
  have hok : r = .ok a := congrArg Prod.fst h
  rw [hr s, hok]

/-- **A sequence whose first part draws nothing succeeds exactly when both parts do.** -/
theorem Drawless.yields_bind_iff {x : Build α} {f : α → Build β} (hx : Drawless x) {b : β} :
    Yields (x >>= f) b ↔ ∃ a, Yields x a ∧ Yields (f a) b := by
  constructor
  · exact Yields.of_bind
  · rintro ⟨a, ha, s, s', hb⟩
    refine ⟨s, s', ?_⟩
    rw [run_bind, hx.run_of_yields ha s]
    exact hb

/-- A traversal whose steps draw nothing succeeds exactly when every step does. -/
theorem yields_mapM_iff {f : α → Build β} (hf : ∀ a, Drawless (f a)) {xs : List α}
    {ys : List β} : Yields (xs.mapM f) ys ↔ List.Forall₂ (fun x y => Yields (f x) y) xs ys := by
  constructor
  · exact Yields.of_mapM
  · intro h
    induction h with
    | nil =>
        rw [List.mapM_nil, yields_pure_iff]
    | cons hxy _ ih =>
        rw [List.mapM_cons, (hf _).yields_bind_iff]
        refine ⟨_, hxy, (drawless_mapM hf _).yields_bind_iff.mpr ⟨_, ih, ?_⟩⟩
        exact yields_pure_iff.mpr rfl

theorem Drawless.outcome_eq {x : Build α} (h : Drawless x) (s t : RandomSource) :
    (x.run s).1 = (x.run t).1 := by
  obtain ⟨r, hr⟩ := h
  rw [hr s, hr t]

end Build
end FixtureFactory
