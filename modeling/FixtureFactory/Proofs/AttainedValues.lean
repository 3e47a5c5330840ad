import FixtureFactory.Proofs.RandomValues

/-!
# Every random value is drawn

`RandomValues` says which default values a randomized parameter may get.  This file proves that the
list is not too long: each of those values is drawn, from some source, and so is each of the errors.
Randomness that never left the first entry of an enumeration would satisfy `RandomValues` and fail
here.

## Words that force a value

A draw reads words from the position of its source on, so a value is drawn if the right words stand
there.  `Draw.Attains` says that some words force the value wherever they stand.  That is closed
under sequences, since the words of two draws in a row stand one after another
(`Draw.Attains.bind`), and then each draw needs to be looked at once.

A bound of `n` needs as many words as there are numbers below it.  So a list that an element is
chosen from must have at most as many elements as there are words.
-/

namespace FixtureFactory

open Build

/-! ## Draws that are forced by words -/

/-- The next words of the source are these. -/
def RandomSource.Offers (s : RandomSource) (ws : List UInt32) : Prop :=
  ∀ i w, ws[i]? = some w → s.word (s.position + i) = w

/-- The source behind some words. -/
def RandomSource.skip (s : RandomSource) (n : Nat) : RandomSource :=
  { s with position := s.position + n }

theorem RandomSource.Offers.left {s : RandomSource} {ws ws' : List UInt32}
    (h : s.Offers (ws ++ ws')) : s.Offers ws := by
  intro i w hw
  refine h i w ?_
  rw [List.getElem?_append_left (List.getElem?_eq_some_iff.mp hw).1, hw]

theorem RandomSource.Offers.right {s : RandomSource} {ws ws' : List UInt32}
    (h : s.Offers (ws ++ ws')) : (s.skip ws.length).Offers ws' := by
  intro i w hw
  have hword := h (ws.length + i) w
  rw [List.getElem?_append_right (Nat.le_add_right ..), Nat.add_sub_cancel_left] at hword
  rw [RandomSource.skip, Nat.add_assoc]
  exact hword hw

namespace Draw

variable {α β : Type}

/-- Some words make a draw give a value, wherever in a source they stand. -/
def Attains (d : Draw α) (a : α) : Prop :=
  ∃ ws : List UInt32, ∀ s : RandomSource, s.Offers ws → d s = (a, s.skip ws.length)

theorem Attains.exists_source {d : Draw α} {a : α} (h : Attains d a) : ∃ s, (d s).1 = a := by
  obtain ⟨ws, hws⟩ := h
  refine ⟨⟨fun i => ws.getD i 0, 0⟩, ?_⟩
  rw [hws _ fun i w hw => ?_]
  simp [hw]

theorem attains_pure (a : α) : Attains (pure a : Draw α) a := ⟨[], fun _ _ => rfl⟩

/-- **The words of two draws in a row stand one after another.** -/
theorem Attains.bind {d : Draw α} {f : α → Draw β} {a : α} {b : β} (hd : Attains d a)
    (hf : Attains (f a) b) : Attains (d >>= f) b := by
  obtain ⟨ws, hws⟩ := hd
  obtain ⟨ws', hws'⟩ := hf
  refine ⟨ws ++ ws', fun s hs => ?_⟩
  have hrun : (d >>= f) s = f (d s).1 (d s).2 := rfl
  rw [hrun, hws s hs.left, hws' _ hs.right, List.length_append]
  simp only [RandomSource.skip, Nat.add_assoc]

theorem attains_word (w : UInt32) : Attains word w.toNat := by
  refine ⟨[w], fun s hs => ?_⟩
  have hw : s.word s.position = w := hs 0 w rfl
  rw [word, hw]
  rfl

theorem attains_word_of_lt {n : Nat} (hn : n < UInt32.size) : Attains word n := by
  have h := attains_word (UInt32.ofNat n)
  rwa [UInt32.toNat_ofNat_of_lt' hn] at h

/-- Both sides of the coin. -/
theorem attains_coin (side : Bool) : Attains coin side := by
  -- the high word alone decides whether a double word lies in the lower half
  have hside : ∃ high, high < UInt32.size ∧
      decide (2 * (high * UInt32.size + 0) < UInt64.size) = side := by
    cases side with
    | true => exact ⟨0, by decide, by decide⟩
    | false => exact ⟨UInt32.size - 1, by decide, by decide⟩
  obtain ⟨high, hhigh, rfl⟩ := hside
  have hlow : Attains word 0 := attains_word_of_lt (by decide)
  have hdouble : Attains doubleWord (high * UInt32.size + 0) :=
    hlow.bind ((attains_word_of_lt hhigh).bind (attains_pure _))
  exact hdouble.bind (attains_pure _)

/-- Some word takes a bound just past a multiple of the number of words. -/
theorem exists_word_mul {n k : Nat} (hk : k < n) (hn : n ≤ UInt32.size) :
    ∃ w low, w < UInt32.size ∧ low < n ∧ w * n = UInt32.size * k + low := by
  have hdiv := Nat.div_add_mod (UInt32.size * k + (n - 1)) n
  have hmod : (UInt32.size * k + (n - 1)) % n < n := Nat.mod_lt _ (by omega)
  have hnext : UInt32.size * (k + 1) ≤ UInt32.size * n := Nat.mul_le_mul_left _ hk
  have hproduct : (UInt32.size * k + (n - 1)) / n * n =
      UInt32.size * k + (n - 1 - (UInt32.size * k + (n - 1)) % n) := by
    rw [Nat.mul_comm] at hdiv
    omega
  refine ⟨_, _, Nat.lt_of_mul_lt_mul_right (a := n) ?_, by omega, hproduct⟩
  rw [hproduct]
  rw [Nat.mul_succ] at hnext
  omega

/-- **Every number below the bound is drawn**, if words are at least as many as numbers: the least
word whose product with the bound reaches the number, and a zero in case a second word is needed. -/
theorem attains_below {n k : Nat} (hk : k < n) (hn : n ≤ UInt32.size) : Attains (below n) k := by
  obtain ⟨w, low, hw, hlow, hproduct⟩ := exists_word_mul hk hn
  have hhigh : w * n / UInt32.size = k := by
    rw [hproduct, Nat.mul_add_div (by decide), Nat.div_eq_of_lt (by omega), Nat.add_zero]
  have hrest : w * n % UInt32.size = low := by
    rw [hproduct, Nat.mul_add_mod, Nat.mod_eq_of_lt (by omega)]
  refine (attains_word_of_lt hw).bind ?_
  simp only [hhigh, hrest]
  split
  · refine (attains_word_of_lt (n := 0) (by decide)).bind ?_
    rw [Nat.zero_mul, Nat.zero_div, if_neg (by omega)]
    exact attains_pure k
  · exact attains_pure k

theorem attains_choose {xs : List α} {x : α} (hx : x ∈ xs) (hxs : xs.length ≤ UInt32.size) :
    Attains (choose xs) (some x) := by
  obtain ⟨i, hi, rfl⟩ := List.getElem_of_mem hx
  rw [choose, if_neg (by simpa using List.ne_nil_of_mem hx)]
  refine (attains_below hi hxs).bind ?_
  rw [List.getElem?_eq_getElem hi]
  exact attains_pure _

theorem attains_times {draw : Draw α} {xs : List α} (hxs : ∀ x ∈ xs, Attains draw x) :
    Attains (times draw xs.length) xs := by
  induction xs with
  | nil => exact attains_pure []
  | cons x xs ih =>
      obtain ⟨hx, hrest⟩ := List.forall_mem_cons.mp hxs
      exact hx.bind ((ih hrest).bind (attains_pure (x :: xs)))

end Draw

/-! ## Builds -/

namespace Build

variable {α β : Type}

theorem attains_run_draw {d : Draw α} {a : α} (h : Draw.Attains d a) :
    Draw.Attains (liftM d : Build α).run (.ok a) := by
  have hrun : (liftM d : Build α).run = d >>= fun a => pure (.ok a) := rfl
  rw [hrun]
  exact h.bind (Draw.attains_pure _)

theorem attains_run_bind {x : Build α} {f : α → Build β} {a : α} {outcome : Except FixtureError β}
    (hx : Draw.Attains x.run (.ok a)) (hf : Draw.Attains (f a).run outcome) :
    Draw.Attains (x >>= f).run outcome := by
  rw [ExceptT.run_bind]
  exact hx.bind hf

theorem attains_run_bind_error {x : Build α} {f : α → Build β} {e : FixtureError}
    (hx : Draw.Attains x.run (.error e)) : Draw.Attains (x >>= f).run (.error e) := by
  rw [ExceptT.run_bind]
  exact hx.bind (Draw.attains_pure _)

end Build

/-! ## Values of parameters -/

/-- The number of entries that a value is picked from. -/
def ParameterKind.entryCount : ParameterKind → Nat
  | .enumeration entries => entries.length
  | .sealed entries => entries.length
  | _ => 0

namespace DefaultValue

open Draw

variable {r : AdapterRegistry} {p : Parameter} {text : String} {already : Bool}

theorem mem_allowedChars {c : Char} (hc : c.isAlphanum = true) : c ∈ allowedChars := by
  have hall : ∀ n < 123, (Char.ofNat n).isAlphanum = true →
      allowedChars.contains (Char.ofNat n) = true := by decide +kernel
  have hbound := (Text.toNat_bounds_of_isAlphanum hc).2
  have hcontains := hall c.toNat (by omega)
  rw [Char.ofNat_toNat] at hcontains
  exact List.contains_iff_mem.mp (hcontains hc)

theorem attains_randomChar {c : Char} (hc : c.isAlphanum = true) : Attains randomChar c :=
  (attains_choose (mem_allowedChars hc) (by decide)).bind (attains_pure c)

theorem attains_randomText {cs : List Char} (hlength : 1 ≤ cs.length ∧ cs.length ≤ 10)
    (hcs : ∀ c ∈ cs, c.isAlphanum = true) : Attains randomText (String.ofList cs) := by
  have hbelow : Attains (below 10) (cs.length - 1) := attains_below (by omega) (by decide)
  have htimes : Attains (times randomChar (cs.length - 1 + 1)) cs := by
    rw [Nat.sub_add_cancel hlength.1]
    exact attains_times fun c hc => attains_randomChar (hcs c hc)
  exact hbelow.bind (htimes.bind (attains_pure _))

theorem attains_randomNumber {n k : Nat} (hk : k < n) (hn : n ≤ UInt32.size) :
    Attains (randomNumber n) (toString k) :=
  (attains_below hk hn).bind (attains_pure _)

theorem PrimitiveValue.attains {type : TypeRef} {kind : Primitive}
    (h : PrimitiveValue type kind text) : Attains (randomPrimitive type kind) text := by
  rw [randomPrimitive.eq_def]
  cases h with
  | string cs hlength hcs =>
      rw [← quoted_of_isAlphanum hcs]
      exact (attains_randomText hlength hcs).bind (attains_pure _)
  | char c hc =>
      rw [← quotedChar_of_isAlphanum hc]
      exact (attains_randomChar hc).bind (attains_pure _)
  | boolean flag => exact (attains_coin flag).bind (attains_pure _)
  | int n hn => exact attains_randomNumber hn (by decide)
  | long n hn => exact (attains_randomNumber hn (by decide)).bind (attains_pure _)

theorem KnownTypeValue.attains {kind : KnownType} (h : KnownTypeValue kind text) :
    Attains (randomKnownType kind) text := by
  rw [randomKnownType.eq_def]
  cases h with
  | undrawn hkind =>
      cases kind <;> cases hkind <;> exact attains_pure _
  | timeZone seconds hlow hhigh hhours =>
      obtain ⟨hours, rfl⟩ := hhours
      have hseconds : offsetSeconds (hours + 12).toNat = 3600 * hours := by
        rw [offsetSeconds]
        omega
      rw [← hseconds]
      exact (attains_below (by omega) (by decide)).bind (attains_pure _)
  | offsetTime n hn => exact (attains_randomNumber hn (by decide)).bind (attains_pure _)
  | stdDuration n hn => exact (attains_randomNumber hn (by decide)).bind (attains_pure _)
  | zoneId zone hzone => exact (attains_choose hzone (by decide)).bind (attains_pure _)
  | bigInteger n hn => exact (attains_randomNumber hn (by decide)).bind (attains_pure _)

theorem attains_pick {α : Type} {entries : List α} {entry : α} (type : TypeRef) (field : String)
    (hentry : entry ∈ entries) (hlength : entries.length ≤ UInt32.size) :
    Attains (pick true entries type field).run (.ok entry) :=
  Build.attains_run_bind (Build.attains_run_draw (attains_choose hentry hlength)) (attains_pure _)

theorem RandomValue.attains (h : RandomValue r p text already)
    (hcount : p.kind.entryCount ≤ UInt32.size) :
    Attains (value true r p).run (.ok (text, already)) := by
  rw [value]
  cases h with
  | primitive hkind htext =>
      rw [hkind]
      exact Build.attains_run_bind (Build.attains_run_draw htext.attains) (attains_pure _)
  | knownType hkind htext =>
      rw [hkind]
      exact Build.attains_run_bind (Build.attains_run_draw htext.attains) (attains_pure _)
  | fixture hkind =>
      rw [hkind]
      exact attains_pure _
  | case hkind hentry =>
      rw [hkind] at hcount ⊢
      exact Build.attains_run_bind (attains_pick _ _ hentry hcount) (attains_pure _)
  | singleton hkind hentry hsingleton =>
      rw [hkind] at hcount ⊢
      refine Build.attains_run_bind (attains_pick _ _ hentry hcount) ?_
      simp only [sealedValue, hsingleton, if_true]
      exact attains_pure _
  | wrapping hkind hentry hcalls =>
      rw [hkind] at hcount ⊢
      refine Build.attains_run_bind (attains_pick _ _ hentry hcount) ?_
      simp only [sealedValue, hcalls.carries, hcalls.marked, hcalls.factory_eq, Bool.false_eq_true,
        if_false]
      exact attains_pure _
  | emptyArray hkind =>
      rw [hkind]
      exact attains_pure _
  | @emptyCollection kind _ hkind hne =>
      have htext : collection p.type kind = p.type.path ++ "::new()" := by
        cases kind with
        | array => exact absurd rfl hne
        | _ => rfl
      rw [hkind, ← htext]
      exact attains_pure _
  | supplied hkind hfind =>
      rw [hkind]
      simp only [hfind]
      exact attains_pure _

theorem RandomFault.attains {e : FixtureError} (h : RandomFault r p e)
    (hcount : p.kind.entryCount ≤ UInt32.size) : Attains (value true r p).run (.error e) := by
  rw [value]
  cases h with
  | @plainCase _ entry hkind hentry hplain =>
      rw [hkind] at hcount ⊢
      refine Build.attains_run_bind (attains_pick _ _ hentry hcount) ?_
      rcases sealedValue_cases p.type p.name entry with
        ⟨hsingleton, -⟩ | ⟨factory, hcalls, -⟩ | ⟨-, hvalue⟩
      · rw [hplain.1] at hsingleton
        cases hsingleton
      · exact absurd hcalls (hplain.2 factory)
      · rw [hvalue]
        exact attains_pure _
  | noCases hkind =>
      rcases hkind with hkind | hkind <;>
      · rw [hkind]
        exact Build.attains_run_bind_error (attains_pure _)
  | noAdapter hkind hfind =>
      rw [hkind]
      simp only [hfind]
      exact attains_pure _

theorem attains_absent {type : TypeRef} {isAbsent : Bool}
    (h : isAbsent = true → type.nullable = true) : Attains (absent true type) isAbsent := by
  rw [absent, Bool.and_true]
  by_cases hnullable : type.nullable = true
  · rw [if_pos hnullable]
    exact attains_coin isAbsent
  · rw [if_neg hnullable, Bool.eq_false_iff.mpr (mt h hnullable)]
    exact attains_pure false

theorem RandomOutcome.attains {outcome : Except FixtureError String} (h : RandomOutcome r p outcome)
    (hcount : p.kind.entryCount ≤ UInt32.size) : Attains (generate true r p).run outcome := by
  have hpresent : Attains (DefaultValue.absent true p.type) false := attains_absent nofun
  cases h with
  | absent hnullable =>
      have hcoin : Attains (DefaultValue.absent true p.type) true :=
        attains_absent fun _ => hnullable
      exact Build.attains_run_bind (Build.attains_run_draw hcoin) (attains_pure _)
  | present hvalue =>
      exact Build.attains_run_bind (Build.attains_run_draw hpresent)
        (Build.attains_run_bind (hvalue.attains hcount) (attains_pure _))
  | failed hfault =>
      exact Build.attains_run_bind (Build.attains_run_draw hpresent)
        (Build.attains_run_bind_error (hfault.attains hcount))

/-- **The outcomes of a random default value.**  Whatever is drawn, the default value is `None`,
which takes an optional type, or it is one of the values of the parameter with the option layer of
its type, or there is an error: a plain case has been picked, there is no case to pick, or no
adapter supplies the type.  Each of these is the outcome for some source, if there are no more
entries to pick from than there are words.

A source for an outcome is pieced together from one word for each choice on the way to it, which is
where the bound comes from: an entry is picked by a single word. -/
theorem random_outcomes (r : AdapterRegistry) (p : Parameter) (hkind : ¬ p.kind.IsFractional) :
    (∀ s, RandomOutcome r p ((generate true r p).run s).1) ∧
    (p.kind.entryCount ≤ UInt32.size → ∀ outcome, RandomOutcome r p outcome →
      ∃ s, ((generate true r p).run s).1 = outcome) :=
  ⟨generate_within_outcomes hkind, fun hcount _ houtcome => (houtcome.attains hcount).exists_source⟩

/-- A payment that may be missing, in cash or by a cheque that nothing can make. -/
def payment : Parameter :=
  ⟨"payment", .optional (.named "crate::Payment"),
    .sealed [⟨"Cash", true, false, none⟩, ⟨"Cheque", false, false, none⟩]⟩

/-- A payment has three outcomes, and the error of the cheque is one of them. -/
theorem random_outcomes_payment :
    ¬ payment.kind.IsFractional ∧ payment.kind.entryCount ≤ UInt32.size ∧
    (∀ s, RandomOutcome .empty payment ((generate true .empty payment).run s).1) ∧
    (∃ s, ((generate true .empty payment).run s).1 = .ok "None") ∧
    (∃ s, ((generate true .empty payment).run s).1 = .ok "Some(crate::Payment::Cash)") ∧
    ∃ s, ((generate true .empty payment).run s).1 =
      .error (.sealedCaseNotFixture "crate::Payment" "Cheque" "payment") := by
  have hkind : ¬ payment.kind.IsFractional := by
    rintro (hkind | hkind | hkind) <;> cases hkind
  have hcount : payment.kind.entryCount ≤ UInt32.size := by decide
  obtain ⟨hwithin, hattained⟩ := random_outcomes .empty payment hkind
  refine ⟨hkind, hcount, hwithin, ?_, ?_, ?_⟩
  · exact hattained hcount _ (.absent rfl)
  · have hcash : RandomValue .empty payment "crate::Payment::Cash" false :=
      @RandomValue.singleton _ payment _ ⟨"Cash", true, false, none⟩ rfl List.mem_cons_self rfl
    exact hattained hcount _ (.present hcash)
  · have hcheque : RandomFault .empty payment
        (.sealedCaseNotFixture "crate::Payment" "Cheque" "payment") :=
      @RandomFault.plainCase _ payment _ ⟨"Cheque", false, false, none⟩ rfl
        (List.mem_cons_of_mem _ List.mem_cons_self)
        ⟨rfl, fun factory hcalls => nomatch hcalls.marked⟩
    exact hattained hcount _ (.failed hcheque)

end DefaultValue
end FixtureFactory
