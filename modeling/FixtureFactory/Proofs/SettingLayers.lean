import Mathlib.Data.List.Basic
import Mathlib.Data.List.Induction
import FixtureFactory.Options

/-!
# Layers of settings

The values of a key come from four layers, in any order and as often as one likes.  This file says
which one stands in the end: of the valid ones from the highest layer, the one that came last.

* `Options.applyInPlace_cases` takes a step apart: it puts a setting under its key, or it fails, or
  its key is not known.  Everything about a step is read off from this.
* `OptionKey.setting_after` is the step lemma, for one key: what the step offers to it is merged
  with what was there.  `OptionKey.setting_afterAll` is the same for a list of steps.
* `Setting.mergeAll_eq_getLast?` solves the merging, by induction on the list from its end.
* `Options.layers_of_steps` puts this together, with what a failing step leaves and which steps
  may change places.

Texts are compared with what they have to be like (`OptionKey.Reads`), apart from the functions that
read them.
-/

namespace FixtureFactory

/-! ## Merging -/

namespace Setting

variable {α : Type}

/-- A list of settings merged from its front. -/
def mergeAll (xs : List (Setting α)) : Option (Setting α) :=
  xs.foldl (fun current next => some (mergeInto current next)) none

/-- The settings of a list that come from its highest layer. -/
def highest (xs : List (Setting α)) : List (Setting α) :=
  xs.filter fun x => ∀ y ∈ xs, y.source.rank ≤ x.source.rank

theorem mem_highest {xs : List (Setting α)} {x : Setting α} :
    x ∈ highest xs ↔ x ∈ xs ∧ ∀ y ∈ xs, y.source.rank ≤ x.source.rank := by
  rw [highest, List.mem_filter, decide_eq_true_eq]

theorem mergeAll_concat (xs : List (Setting α)) (x : Setting α) :
    mergeAll (xs ++ [x]) = some (mergeInto (mergeAll xs) x) := by
  rw [mergeAll, List.foldl_append]
  rfl

theorem forall_mem_concat {xs : List (Setting α)} {x : Setting α} {p : Setting α → Prop} :
    (∀ y ∈ xs ++ [x], p y) ↔ (∀ y ∈ xs, p y) ∧ p x := by
  rw [List.forall_mem_append, List.forall_mem_singleton]

theorem getLast?_highest_of_le {xs : List (Setting α)} {x : Setting α}
    (h : ∀ y ∈ xs, y.source.rank ≤ x.source.rank) :
    (highest (xs ++ [x])).getLast? = some x := by
  have hx : ∀ y ∈ xs ++ [x], y.source.rank ≤ x.source.rank :=
    forall_mem_concat.mpr ⟨h, Nat.le_refl _⟩
  rw [highest, List.filter_append, List.filter_cons_of_pos (by simpa using hx), List.filter_nil,
    List.getLast?_concat]

theorem highest_concat_of_lt {xs : List (Setting α)} {c x : Setting α} (hc : c ∈ xs)
    (h : x.source.rank < c.source.rank) : highest (xs ++ [x]) = highest xs := by
  have hx : ¬ ∀ y ∈ xs ++ [x], y.source.rank ≤ x.source.rank := fun hle =>
    absurd (hle c (List.mem_append_left _ hc)) (Nat.not_le_of_lt h)
  rw [highest, List.filter_append, List.filter_cons_of_neg (by simpa using hx), List.filter_nil,
    List.append_nil, highest]
  refine List.filter_congr fun y _ => decide_eq_decide.mpr ?_
  rw [forall_mem_concat]
  exact and_iff_left_of_imp fun hle => Nat.le_trans (Nat.le_of_lt h) (hle c hc)

/-- **Merging keeps the last setting of the highest layer.**  The induction goes from the end of the
list: the last setting either takes the place of the one before, or it is below it. -/
theorem mergeAll_eq_getLast? (xs : List (Setting α)) : mergeAll xs = (highest xs).getLast? := by
  induction xs using List.reverseRecOn with
  | nil => rfl
  | append_singleton xs x ih =>
      rw [mergeAll_concat]
      rcases hcurrent : mergeAll xs with _ | c
      · -- Only an empty list merges to nothing.
        obtain rfl | ⟨ys, y, rfl⟩ := xs.eq_nil_or_concat'
        · have hnone : ∀ y ∈ ([] : List (Setting α)), y.source.rank ≤ x.source.rank := nofun
          exact (getLast?_highest_of_le hnone).symm
        · rw [mergeAll_concat] at hcurrent
          cases hcurrent
      · obtain ⟨hmem, hle⟩ := mem_highest.mp (List.mem_of_getLast? (ih.symm.trans hcurrent))
        show some (c.merge x) = _
        by_cases h : c.source.rank ≤ x.source.rank
        · rw [merge, if_pos h, getLast?_highest_of_le fun y hy => Nat.le_trans (hle y hy) h]
        · rw [merge, if_neg h, highest_concat_of_lt hmem (Nat.lt_of_not_le h), ← ih, hcurrent]

/-- Settings of one layer, after others that are no higher: the last one of them stands. -/
theorem mergeAll_append {xs ys : List (Setting α)} {layer : OptionSource}
    (hxs : ∀ x ∈ xs, x.source.rank ≤ layer.rank) (hys : ∀ y ∈ ys, y.source = layer) :
    mergeAll (xs ++ ys) = ys.getLast?.or (mergeAll xs) := by
  obtain rfl | ⟨ys, y, rfl⟩ := ys.eq_nil_or_concat'
  · rw [List.append_nil]
    rfl
  · obtain ⟨hys, hy⟩ := forall_mem_concat.mp hys
    have hle : ∀ x ∈ xs ++ ys, x.source.rank ≤ y.source.rank := by
      rw [hy]
      exact List.forall_mem_append.mpr ⟨hxs, fun x hx => hys x hx ▸ Nat.le_refl _⟩
    rw [← List.append_assoc, mergeAll_eq_getLast?, getLast?_highest_of_le hle,
      List.getLast?_concat, Option.some_or]

theorem mergeInto_comm (current : Option (Setting α)) {x y : Setting α} (h : x.source ≠ y.source) :
    mergeInto (some (mergeInto current x)) y = mergeInto (some (mergeInto current y)) x := by
  have hrank : x.source.rank ≠ y.source.rank := by
    revert h
    cases x.source <;> cases y.source <;> decide
  cases current <;> grind [mergeInto, merge]

end Setting

/-! ## Keys -/

/-- The keys that options are known by. -/
inductive OptionKey where
  | run
  | randomize
  | seed
  | modulePath
  deriving DecidableEq, Repr

namespace OptionKey

/-- The text of a key. -/
def text : OptionKey → String
  | run => "fixtures.run"
  | randomize => "fixtures.randomize"
  | seed => "fixtures.seed"
  | modulePath => "fixtures.module"

/-- The values of a key. -/
abbrev Value : OptionKey → Type
  | run => Bool
  | randomize => Bool
  | seed => Nat
  | modulePath => String

/-- What a text has to be like to be read as a value, without the blanks around it.  A switch is on
for the word `true` in any case and off for every other text.  A seed has digits, perhaps after a
plus sign, and at most 64 bits.  A module path has no empty segment. -/
def Reads : (k : OptionKey) → String → k.Value → Prop
  | run, t, on => on = true ↔ (Text.trim t.toList).map Char.toLower = "true".toList
  | randomize, t, on => on = true ↔ (Text.trim t.toList).map Char.toLower = "true".toList
  | seed, t, n => ∃ digits : List Char,
      (Text.trim t.toList = digits ∨ Text.trim t.toList = '+' :: digits) ∧ digits ≠ [] ∧
      (∀ c ∈ digits, c.isDigit = true) ∧ digitsValue digits = n ∧ n < UInt64.size
  | modulePath, t, path =>
      [] ∉ Text.splitSegments (Text.trim t.toList) ∧ path = String.ofList (Text.trim t.toList)

/-- The value that a text is read as. -/
def parse? : (k : OptionKey) → String → Option k.Value
  | run, t => some (parseSwitch t)
  | randomize, t => some (parseSwitch t)
  | seed, t => parseSeed? t
  | modulePath, t => parseModulePath? t

/-- The setting under a key. -/
def setting : (k : OptionKey) → Options → Option (Setting k.Value)
  | run, o => some o.run
  | randomize, o => some o.randomize
  | seed, o => o.seed
  | modulePath, o => some o.modulePath

/-- The setting that a step offers to a key. -/
def offer (k : OptionKey) (step : OptionStep) : Option (Setting k.Value) :=
  if step.key = k.text then (k.parse? step.value).map (⟨·, step.source⟩) else none

/-- The options with a setting merged into those of a key. -/
def put : (k : OptionKey) → Setting k.Value → Options → Options
  | run, x, o => { o with run := o.run.merge x }
  | randomize, x, o => { o with randomize := o.randomize.merge x }
  | seed, x, o => { o with seed := some (Setting.mergeInto o.seed x) }
  | modulePath, x, o => { o with modulePath := o.modulePath.merge x }

theorem text_injective : Function.Injective text := by
  intro j k h
  cases j <;> cases k <;> first | rfl | exact absurd h (by decide)

/-! ### Reading values -/

theorem parseSwitch_eq_iff {t : String} {on : Bool} :
    parseSwitch t = on ↔
      (on = true ↔ (Text.trim t.toList).map Char.toLower = "true".toList) := by
  rw [← beq_iff_eq (a := (Text.trim t.toList).map Char.toLower), parseSwitch]
  generalize ((Text.trim t.toList).map Char.toLower == "true".toList) = b
  cases on <;> cases b <;> decide

theorem head?_ne_plus {digits : List Char} (h : ∀ c ∈ digits, c.isDigit = true) :
    digits.head? ≠ some '+' := fun hplus =>
  absurd (h '+' (List.mem_of_head? hplus)) (by decide)

theorem digits_eq_iff {cs digits : List Char} (h : ∀ c ∈ digits, c.isDigit = true) :
    (if cs.head? == some '+' then cs.tail else cs) = digits ↔ cs = digits ∨ cs = '+' :: digits := by
  cases cs with
  | nil => simp
  | cons c cs =>
      by_cases hc : c = '+'
      · subst hc
        have hne : '+' :: cs ≠ digits := fun heq => head?_ne_plus h (heq ▸ rfl)
        simp [hne]
      · simp [hc]

theorem seedDigits_iff {digits : List Char} :
    ¬ (digits.isEmpty || !digits.all Char.isDigit || UInt64.size ≤ digitsValue digits) = true ↔
      digits ≠ [] ∧ (∀ c ∈ digits, c.isDigit = true) ∧ digitsValue digits < UInt64.size := by
  simp [and_assoc]

theorem parseSeed?_eq_some_iff {t : String} {n : Nat} :
    parseSeed? t = some n ↔ seed.Reads t n := by
  simp only [parseSeed?, Option.ite_none_left_eq_some, seedDigits_iff, Option.some.injEq, Reads]
  constructor
  · rintro ⟨⟨hne, hdigits, hlt⟩, rfl⟩
    exact ⟨_, (digits_eq_iff hdigits).mp rfl, hne, hdigits, rfl, hlt⟩
  · rintro ⟨digits, htext, hne, hdigits, rfl, hlt⟩
    rw [(digits_eq_iff hdigits).mpr htext]
    exact ⟨⟨hne, hdigits, hlt⟩, rfl⟩

theorem parseModulePath?_eq_some_iff {t path : String} :
    parseModulePath? t = some path ↔ modulePath.Reads t path := by
  simp only [parseModulePath?, Reads]
  have hany : (Text.splitSegments (Text.trim t.toList)).any List.isEmpty = true ↔
      [] ∈ Text.splitSegments (Text.trim t.toList) := by
    simp only [List.any_eq_true, List.isEmpty_iff, exists_eq_right]
  by_cases h : [] ∈ Text.splitSegments (Text.trim t.toList)
  · simp [hany.mpr h, h]
  · simp [Bool.eq_false_iff.mpr (mt hany.mp h), h, eq_comm]

theorem parse?_eq_some_iff {k : OptionKey} {t : String} {v : k.Value} :
    k.parse? t = some v ↔ k.Reads t v := by
  cases k with
  | run => exact Option.some_inj.trans parseSwitch_eq_iff
  | randomize => exact Option.some_inj.trans parseSwitch_eq_iff
  | seed => exact parseSeed?_eq_some_iff
  | modulePath => exact parseModulePath?_eq_some_iff

theorem not_reads_of_parse?_eq_none {k : OptionKey} {t : String} (h : k.parse? t = none)
    (v : k.Value) : ¬ k.Reads t v := fun hv =>
  Option.some_ne_none v ((parse?_eq_some_iff.mpr hv).symm.trans h)

theorem offer_eq_some_iff {k : OptionKey} {step : OptionStep} {x : Setting k.Value} :
    k.offer step = some x ↔
      step.key = k.text ∧ k.Reads step.value x.value ∧ x.source = step.source := by
  rw [offer, Option.ite_none_right_eq_some, Option.map_eq_some_iff]
  constructor
  · rintro ⟨hkey, v, hv, rfl⟩
    exact ⟨hkey, parse?_eq_some_iff.mp hv, rfl⟩
  · rintro ⟨hkey, hv, hsource⟩
    exact ⟨hkey, x.value, parse?_eq_some_iff.mpr hv, hsource ▸ rfl⟩

theorem offer_of_parse? {k : OptionKey} {t : String} {v : k.Value} (h : k.parse? t = some v)
    (source : OptionSource) : k.offer ⟨k.text, t, source⟩ = some ⟨v, source⟩ :=
  offer_eq_some_iff.mpr ⟨rfl, parse?_eq_some_iff.mp h, rfl⟩

/-! ### Putting a setting under a key -/

@[simp]
theorem setting_put_self (k : OptionKey) (x : Setting k.Value) (o : Options) :
    k.setting (k.put x o) = some (Setting.mergeInto (k.setting o) x) := by
  cases k <;> rfl

theorem setting_put_of_ne {j k : OptionKey} (h : j ≠ k) (x : Setting k.Value) (o : Options) :
    j.setting (k.put x o) = j.setting o := by
  cases j <;> cases k <;> first | exact absurd rfl h | rfl

theorem ext_setting {o o' : Options} (h : ∀ k : OptionKey, k.setting o = k.setting o') :
    o = o' := by
  obtain ⟨run, randomize, seed, modulePath⟩ := o
  obtain ⟨run', randomize', seed', modulePath'⟩ := o'
  cases Option.some.inj (h .run)
  cases Option.some.inj (h .randomize)
  cases h .seed
  cases Option.some.inj (h .modulePath)
  rfl

end OptionKey

/-! ## Steps -/

/-- A step fails if its value is a seed or a module path, and not one that can be read. -/
inductive OptionStep.Fails (step : OptionStep) : FixtureError → Prop where
  | seed (hkey : step.key = "fixtures.seed") (hvalue : ∀ n, ¬ OptionKey.seed.Reads step.value n) :
      step.Fails (.invalidOption step.key step.value "expected an unsigned integer")
  | modulePath (hkey : step.key = "fixtures.module")
      (hvalue : ∀ path, ¬ OptionKey.modulePath.Reads step.value path) :
      step.Fails
        (.invalidOption step.key step.value "expected a module path such as crate::fixtures")

theorem OptionStep.Fails.exists_key {step : OptionStep} {e : FixtureError} (h : step.Fails e) :
    ∃ k : OptionKey, step.key = k.text ∧ ∀ v, ¬ k.Reads step.value v := by
  rcases h with ⟨hkey, hvalue⟩ | ⟨hkey, hvalue⟩
  · exact ⟨.seed, hkey, hvalue⟩
  · exact ⟨.modulePath, hkey, hvalue⟩

theorem OptionStep.Fails.offer_eq_none {step : OptionStep} {e : FixtureError} (h : step.Fails e)
    (k : OptionKey) : k.offer step = none := by
  obtain ⟨j, hj, hvalue⟩ := h.exists_key
  refine Option.eq_none_iff_forall_ne_some.mpr fun x hx => ?_
  obtain ⟨hk, hreads, -⟩ := OptionKey.offer_eq_some_iff.mp hx
  cases OptionKey.text_injective (hj.symm.trans hk)
  exact hvalue _ hreads

theorem OptionStep.Fails.unique {step : OptionStep} {e e' : FixtureError} (h : step.Fails e)
    (h' : step.Fails e') : e = e' := by
  rcases h with ⟨hkey, -⟩ | ⟨hkey, -⟩ <;> rcases h' with ⟨hkey', -⟩ | ⟨hkey', -⟩
  · rfl
  · exact absurd (hkey.symm.trans hkey') (by decide)
  · exact absurd (hkey.symm.trans hkey') (by decide)
  · rfl

namespace Options

/-- The options that a list of steps leaves, of which some may fail. -/
def afterAll (o : Options) (steps : List OptionStep) : Options := steps.foldl after o

/-- **What a step does**: it puts what it offers under its key, or it fails and leaves the options
alone, or its key is not known. -/
theorem applyInPlace_cases (step : OptionStep) :
    (∃ (k : OptionKey) (x : Setting k.Value), k.offer step = some x ∧
      ∀ o, (applyInPlace step).run.run o = (.ok (), k.put x o)) ∨
    (∃ e, step.Fails e ∧ ∀ o, (applyInPlace step).run.run o = (.error e, o)) ∨
    ((∀ k : OptionKey, step.key ≠ k.text) ∧
      ∀ o, (applyInPlace step).run.run o = (.ok (), o)) := by
  obtain ⟨key, value, source⟩ := step
  by_cases hkey : ∃ k : OptionKey, key = k.text
  · obtain ⟨k, rfl⟩ := hkey
    rcases hvalue : k.parse? value with _ | v
    · -- Switches are always read.
      have hfails := OptionKey.not_reads_of_parse?_eq_none hvalue
      cases k with
      | run => cases hvalue
      | randomize => cases hvalue
      | seed =>
          refine Or.inr (Or.inl ⟨_, .seed rfl hfails, fun o => ?_⟩)
          simp only [applyInPlace, show parseSeed? value = none from hvalue]
          rfl
      | modulePath =>
          refine Or.inr (Or.inl ⟨_, .modulePath rfl hfails, fun o => ?_⟩)
          simp only [applyInPlace, show parseModulePath? value = none from hvalue]
          rfl
    · refine Or.inl ⟨k, ⟨v, source⟩, OptionKey.offer_of_parse? hvalue source, fun o => ?_⟩
      cases k with
      | run => cases hvalue; rfl
      | randomize => cases hvalue; rfl
      | seed =>
          simp only [applyInPlace, show parseSeed? value = some v from hvalue]
          rfl
      | modulePath =>
          simp only [applyInPlace, show parseModulePath? value = some v from hvalue]
          rfl
  · have hrun : key ≠ "fixtures.run" := fun h => hkey ⟨.run, h⟩
    have hrandomize : key ≠ "fixtures.randomize" := fun h => hkey ⟨.randomize, h⟩
    have hseed : key ≠ "fixtures.seed" := fun h => hkey ⟨.seed, h⟩
    have hmodule : key ≠ "fixtures.module" := fun h => hkey ⟨.modulePath, h⟩
    refine Or.inr (Or.inr ⟨fun k hk => hkey ⟨k, hk⟩, fun o => ?_⟩)
    simp only [applyInPlace, if_neg hrun, if_neg hrandomize, if_neg hseed, if_neg hmodule]
    rfl

/-! ### The outcome of a step -/

theorem apply_eq_of_run {o o' : Options} {step : OptionStep}
    (h : (applyInPlace step).run.run o = (.ok (), o')) : o.apply step = .ok o' := by
  rw [apply, after, h]
  rfl

theorem after_eq_of_run {o o' : Options} {step : OptionStep} {outcome : Except FixtureError Unit}
    (h : (applyInPlace step).run.run o = (outcome, o')) : o.after step = o' := by
  rw [after, h]

theorem after_of_fails {step : OptionStep} {e : FixtureError} (h : step.Fails e) (o : Options) :
    o.after step = o := by
  rcases applyInPlace_cases step with ⟨k, x, hoffer, -⟩ | ⟨e', -, hrun⟩ | ⟨-, hrun⟩
  · cases (h.offer_eq_none k).symm.trans hoffer
  · exact after_eq_of_run (hrun o)
  · exact after_eq_of_run (hrun o)

/-- Whether a step fails does not depend on the options. -/
theorem apply_eq_error_iff {o : Options} {step : OptionStep} {e : FixtureError} :
    o.apply step = .error e ↔ step.Fails e := by
  rcases applyInPlace_cases step with ⟨k, x, hoffer, hrun⟩ | ⟨e', hfails, hrun⟩ | ⟨hkey, hrun⟩
  · refine iff_of_false ?_ fun h => ?_
    · rw [apply_eq_of_run (hrun o)]
      exact nofun
    · cases (h.offer_eq_none k).symm.trans hoffer
  · have herror : o.apply step = .error e' := by
      rw [apply, hrun o]
      rfl
    rw [herror]
    exact ⟨fun h => Except.error.inj h ▸ hfails, fun h => congrArg _ (hfails.unique h)⟩
  · refine iff_of_false ?_ fun h => ?_
    · rw [apply_eq_of_run (hrun o)]
      exact nofun
    · obtain ⟨k, hk, -⟩ := h.exists_key
      exact hkey k hk

theorem apply_eq_ok_iff {o o' : Options} {step : OptionStep} :
    o.apply step = .ok o' ↔ (∀ e, ¬ step.Fails e) ∧ o.after step = o' := by
  have hfails : ∀ e, step.Fails e ↔ o.apply step = .error e := fun e => apply_eq_error_iff.symm
  simp only [hfails]
  rw [apply]
  rcases ((applyInPlace step).run.run o).1 with e | ⟨⟩
  · exact iff_of_false nofun fun h => h.1 e rfl
  · exact ⟨fun h => ⟨nofun, Except.ok.inj h⟩, fun h => congrArg _ h.2⟩

/-- **The step lemma**: what a step offers to a key is merged with what was there. -/
theorem setting_after (o : Options) (step : OptionStep) (k : OptionKey) :
    k.setting (o.after step) =
      match k.offer step with
      | some x => some (Setting.mergeInto (k.setting o) x)
      | none => k.setting o := by
  rcases applyInPlace_cases step with ⟨j, x, hoffer, hrun⟩ | ⟨e, hfails, -⟩ | ⟨hkey, hrun⟩
  · rw [after_eq_of_run (hrun o)]
    by_cases h : k = j
    · subst h
      rw [hoffer, OptionKey.setting_put_self]
    · have hnone : k.offer step = none := by
        rw [OptionKey.offer, if_neg]
        exact fun hk => h (OptionKey.text_injective
          (hk.symm.trans (OptionKey.offer_eq_some_iff.mp hoffer).1))
      rw [hnone, OptionKey.setting_put_of_ne h]
  · rw [after_of_fails hfails, hfails.offer_eq_none]
  · rw [after_eq_of_run (hrun o), OptionKey.offer, if_neg (hkey k)]

theorem setting_after_of_key_ne {step : OptionStep} {k : OptionKey} (h : step.key ≠ k.text)
    (o : Options) : k.setting (o.after step) = k.setting o := by
  rw [setting_after, OptionKey.offer, if_neg h]

/-- **Steps of different keys or layers may change places.**  For one key, either at most one of
the two steps offers something, or both do and their layers differ. -/
theorem after_comm (o : Options) {s t : OptionStep} (h : s.key ≠ t.key ∨ s.source ≠ t.source) :
    (o.after s).after t = (o.after t).after s := by
  refine OptionKey.ext_setting fun k => ?_
  simp only [setting_after]
  rcases hs : k.offer s with _ | x <;> rcases ht : k.offer t with _ | y
  · rfl
  · rfl
  · rfl
  · obtain ⟨hskey, -, hxs⟩ := OptionKey.offer_eq_some_iff.mp hs
    obtain ⟨htkey, -, hyt⟩ := OptionKey.offer_eq_some_iff.mp ht
    have hsource : x.source ≠ y.source := by
      rw [hxs, hyt]
      exact h.resolve_left (not_not.mpr (hskey.trans htkey.symm))
    exact congrArg some (Setting.mergeInto_comm _ hsource)

/-- What a list of steps leaves under a key: the offers are merged with what was there. -/
theorem setting_afterAll (o : Options) (steps : List OptionStep) (k : OptionKey) :
    k.setting (o.afterAll steps) =
      Setting.mergeAll ((k.setting o).toList ++ steps.filterMap k.offer) := by
  induction steps using List.reverseRecOn with
  | nil => cases h : k.setting o <;> simp [afterAll, Setting.mergeAll, h, Setting.mergeInto]
  | append_singleton steps step ih =>
      have hafter : o.afterAll (steps ++ [step]) = (o.afterAll steps).after step := by
        rw [afterAll, List.foldl_append]
        rfl
      rw [hafter, setting_after, ih, List.filterMap_append]
      rcases hoffer : k.offer step with _ | x
      · rw [List.filterMap_cons_none hoffer, List.filterMap_nil, List.append_nil]
      · rw [List.filterMap_cons_some hoffer, List.filterMap_nil, ← List.append_assoc,
          Setting.mergeAll_concat]

/-! ## The layers -/

/-- A step for a known key offers something exactly if it does not fail. -/
theorem isSome_offer_iff {step : OptionStep} {k : OptionKey} (hkey : step.key = k.text) :
    (k.offer step).isSome ↔ ∀ e, ¬ step.Fails e := by
  constructor
  · intro hoffer e he
    rw [he.offer_eq_none k] at hoffer
    cases hoffer
  · intro hvalid
    rcases applyInPlace_cases step with ⟨j, x, hoffer, -⟩ | ⟨e, hfails, -⟩ | ⟨hne, -⟩
    · cases OptionKey.text_injective (hkey.symm.trans (OptionKey.offer_eq_some_iff.mp hoffer).1)
      exact Option.isSome_iff_exists.mpr ⟨x, hoffer⟩
    · exact absurd hfails (hvalid e)
    · exact absurd hkey (hne k)

/-- **What steps in any order leave.**  Under each key stands the last one of the settings from the
highest layer, out of the default, if there is one, and of what the steps offer to the key.  A step
for a key that is known offers the value that it is read as, unless it fails; then it changes
nothing.  No step changes what stands under other keys, and steps of different keys or layers may
change places.

The steps need not come in the order of the layers.  Each key is looked at on its own, as no step
reads what stands under another one. -/
theorem layers_of_steps :
    (∀ (k : OptionKey) (steps : List OptionStep),
      k.setting (defaults.afterAll steps) =
        (Setting.highest ((k.setting defaults).toList ++ steps.filterMap k.offer)).getLast?) ∧
    (∀ (k : OptionKey) (step : OptionStep) (x : Setting k.Value),
      k.offer step = some x ↔
        step.key = k.text ∧ k.Reads step.value x.value ∧ x.source = step.source) ∧
    (∀ (k : OptionKey) (step : OptionStep), step.key = k.text →
      ((k.offer step).isSome ↔ ∀ e, ¬ step.Fails e)) ∧
    (∀ (o : Options) (step : OptionStep) (e : FixtureError),
      (o.apply step = .error e ↔ step.Fails e) ∧ (step.Fails e → o.after step = o)) ∧
    (∀ (o : Options) (step : OptionStep) (k : OptionKey), step.key ≠ k.text →
      k.setting (o.after step) = k.setting o) ∧
    ∀ (o : Options) (s t : OptionStep), s.key ≠ t.key ∨ s.source ≠ t.source →
      (o.after s).after t = (o.after t).after s := by
  refine ⟨fun k steps => ?_, fun k step x => OptionKey.offer_eq_some_iff,
    fun k step hkey => isSome_offer_iff hkey,
    fun o step e => ⟨apply_eq_error_iff, fun h => after_of_fails h o⟩,
    fun o step k hkey => setting_after_of_key_ne hkey o, fun o s t h => after_comm o h⟩
  rw [setting_afterAll, Setting.mergeAll_eq_getLast?]

/-- A seed from an explicit option stays, though another one comes from the environment and a wrong
one comes last. -/
theorem layers_of_steps_seed :
    let explicit : OptionStep := ⟨"fixtures.seed", "7", .option⟩
    let environment : OptionStep := ⟨"fixtures.seed", " +9 ", .envVar⟩
    let wrong : OptionStep := ⟨"fixtures.seed", "nine", .option⟩
    OptionKey.seed.setting (defaults.afterAll [explicit, environment, wrong]) =
      some ⟨7, .option⟩ ∧
    (∀ e, ¬ environment.Fails e) ∧
    (defaults.after explicit).after wrong = defaults.after explicit ∧
    OptionKey.run.setting (defaults.after explicit) = some ⟨true, .default⟩ ∧
    (defaults.after explicit).after environment = (defaults.after environment).after explicit := by
  intro explicit environment wrong
  obtain ⟨hlayers, hoffer, hvalid, hfails, hframe, hcomm⟩ := layers_of_steps
  have hwrong : wrong.Fails (.invalidOption wrong.key wrong.value "expected an unsigned integer") :=
    (hfails defaults wrong _).1.mp (by decide)
  exact ⟨(hlayers .seed _).trans (by decide), (hvalid .seed environment rfl).mp (by decide),
    (hfails _ wrong _).2 hwrong, hframe defaults explicit .run (by decide),
    hcomm defaults explicit environment (Or.inr (by decide))⟩

end Options
end FixtureFactory
