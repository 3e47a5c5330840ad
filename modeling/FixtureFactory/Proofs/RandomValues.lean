import FixtureFactory.Proofs.Failures
import FixtureFactory.Proofs.LetterCase
import FixtureFactory.Proofs.WrappedCases

/-!
# The values that are drawn

A randomized default value is drawn from a set that its parameter fixes: numbers below a bound,
texts of letters and digits, the cases of an enumeration.  The sets are written down here without
reference to draws (`DefaultValue.PrimitiveValue`, `KnownTypeValue`, `RandomValue`), and so are the
errors (`RandomFault`); and whatever the random source is, the outcome is one of these.

It all comes down to one fact about the source.  A draw below a bound takes the high half of a
product and may add one to it, if a second word carries.  That it then still is below the bound is
`Draw.below_lt`.

* `Draw.below_lt`, `Draw.exists_choose`, `Draw.times_spec`: what draws give.
* `quoted_of_isAlphanum`: letters and digits stand in quotes as they are.
* `DefaultValue.randomValue_of_yields_value`, `DefaultValue.failsWith_randomFault`: values and
  errors.
* `DefaultValue.generate_within_outcomes`: default values, with their option layer.

Numbers with a fraction are left out: their texts are those of rounded binary numbers.
-/

namespace FixtureFactory

open Build

/-! ## Draws -/

namespace Draw

/-- A number that is drawn is the high half of a product, or the one after it if the low half and
the product with a second word carry. -/
theorem below_cases (n : Nat) (s : RandomSource) :
    ∃ first second, first < UInt32.size ∧ second < UInt32.size ∧
      ((below n s).1 = first * n / UInt32.size ∨
        UInt32.size ≤ first * n % UInt32.size + second * n / UInt32.size ∧
          (below n s).1 = first * n / UInt32.size + 1) := by
  refine ⟨(word s).1, (word (word s).2).1, UInt32.toNat_lt_size _, UInt32.toNat_lt_size _, ?_⟩
  simp only [below, word, bind, StateT.bind]
  split
  · by_cases hcarry : UInt32.size ≤ (s.word s.position).toNat * n % UInt32.size +
        (s.word (s.position + 1)).toNat * n / UInt32.size
    · exact Or.inr ⟨hcarry, if_pos hcarry⟩
    · exact Or.inl (if_neg hcarry)
  · exact Or.inl rfl

/-- **A number that is drawn is below its bound**, whatever the words are. -/
theorem below_lt {n : Nat} (hn : 0 < n) (s : RandomSource) : (below n s).1 < n := by
  obtain ⟨first, second, hfirst, hsecond, hhigh | ⟨hcarry, hhigh⟩⟩ := below_cases n s
  · rw [hhigh]
    exact Nat.div_lt_of_lt_mul (Nat.mul_lt_mul_of_pos_right hfirst hn)
  · have hsmall : second * n / UInt32.size < n :=
      Nat.div_lt_of_lt_mul (Nat.mul_lt_mul_of_pos_right hsecond hn)
    rw [hhigh]
    refine Nat.lt_of_mul_lt_mul_left (a := UInt32.size) ?_
    calc UInt32.size * (first * n / UInt32.size + 1)
        = UInt32.size * (first * n / UInt32.size) + UInt32.size := Nat.mul_succ ..
      _ ≤ UInt32.size * (first * n / UInt32.size) +
            (first * n % UInt32.size + second * n / UInt32.size) := by omega
      _ = first * n + second * n / UInt32.size := by rw [← Nat.add_assoc, Nat.div_add_mod]
      _ < (first + 1) * n := by rw [Nat.succ_mul]; omega
      _ ≤ UInt32.size * n := Nat.mul_le_mul_right n hfirst

theorem exists_choose {α : Type} {xs : List α} (hxs : xs ≠ []) (s : RandomSource) :
    ∃ x ∈ xs, (choose xs s).1 = some x := by
  have hlt : (below xs.length s).1 < xs.length := below_lt (List.length_pos_of_ne_nil hxs) s
  refine ⟨xs[(below xs.length s).1], List.getElem_mem hlt, ?_⟩
  rw [choose, if_neg (by simpa using hxs), fst_bind_pure]
  exact List.getElem?_eq_getElem hlt

theorem times_spec {α : Type} {P : α → Prop} {draw : Draw α} (hdraw : ∀ s, P (draw s).1) (n : Nat)
    (s : RandomSource) : (times draw n s).1.length = n ∧ ∀ x ∈ (times draw n s).1, P x := by
  induction n generalizing s with
  | zero => exact ⟨rfl, List.forall_mem_nil _⟩
  | succ n ih =>
      obtain ⟨hlength, hall⟩ := ih (draw s).2
      exact ⟨congrArg (· + 1) hlength, List.forall_mem_cons.mpr ⟨hdraw s, hall⟩⟩

end Draw

/-! ## Quoted letters and digits -/

/-- A letter or a digit is quoted as it is. -/
theorem Text.quoteChar_of_isAlphanum {c quote : Char} (hc : c.isAlphanum = true)
    (hquote : quote.isAlphanum = false) (atStart : Bool) : quoteChar quote atStart c = [c] := by
  have hne : ∀ d : Char, d.isAlphanum = false → c ≠ d := by
    rintro d hd rfl
    simp [hc] at hd
  have hcode := toNat_bounds_of_isAlphanum hc
  have hprintable : isPrintable c = true := by
    rw [isPrintable, if_pos (by omega)]
    simp
    omega
  have hcombining : isCombining c = false := by
    rw [isCombining, decide_eq_false (by omega)]
    rfl
  simp [quoteChar, hne _ hquote, hne '\x00' rfl, hne '\t' rfl, hne '\r' rfl, hne '\n' rfl,
    hne '\\' rfl, hprintable, hcombining]

/-- A text of letters and digits is quoted as it is. -/
theorem quoted_of_isAlphanum {cs : List Char} (hcs : ∀ c ∈ cs, c.isAlphanum = true) :
    quoted (String.ofList cs) = String.ofList ('"' :: cs ++ ['"']) := by
  have hbody : Text.quoteBody cs = cs := by
    cases cs with
    | nil => rfl
    | cons c cs =>
        obtain ⟨hc, hrest⟩ := List.forall_mem_cons.mp hcs
        have htail : cs.flatMap (Text.quoteChar '"' false) = cs.flatMap fun c => [c] :=
          List.flatMap_congr fun c hc => Text.quoteChar_of_isAlphanum (hrest c hc) rfl false
        rw [Text.quoteBody, Text.quoteChar_of_isAlphanum hc rfl true, htail,
          List.flatMap_singleton']
        rfl
  rw [quoted, String.toList_ofList, hbody]

theorem quotedChar_of_isAlphanum {c : Char} (hc : c.isAlphanum = true) :
    quotedChar c = String.ofList ['\x27', c, '\x27'] := by
  rw [quotedChar, Text.quoteChar_of_isAlphanum hc rfl true]
  rfl

/-- The value is a number with a fraction. -/
def ParameterKind.IsFractional (kind : ParameterKind) : Prop :=
  kind = .primitive .float ∨ kind = .primitive .double ∨ kind = .knownType .bigDecimal

namespace DefaultValue

theorem isAlphanum_of_mem_allowedChars {c : Char} (hc : c ∈ allowedChars) :
    c.isAlphanum = true := by
  have hall : allowedChars.all Char.isAlphanum = true := by decide +kernel
  exact List.all_eq_true.mp hall c hc

theorem isAlphanum_randomChar (s : RandomSource) : (randomChar s).1.isAlphanum = true := by
  obtain ⟨c, hc, hchoose⟩ : ∃ c ∈ allowedChars, (Draw.choose allowedChars s).1 = some c :=
    Draw.exists_choose (by decide) s
  rw [randomChar, Draw.fst_bind_pure, hchoose]
  exact isAlphanum_of_mem_allowedChars hc

theorem randomText_spec (s : RandomSource) :
    ∃ cs, (randomText s).1 = String.ofList cs ∧ (1 ≤ cs.length ∧ cs.length ≤ 10) ∧
      ∀ c ∈ cs, c.isAlphanum = true := by
  have hlt : (Draw.below 10 s).1 < 10 := Draw.below_lt (by decide) s
  obtain ⟨hlength, hall⟩ := Draw.times_spec (P := fun c : Char => c.isAlphanum = true)
    isAlphanum_randomChar ((Draw.below 10 s).1 + 1) (Draw.below 10 s).2
  refine ⟨(Draw.times randomChar ((Draw.below 10 s).1 + 1) (Draw.below 10 s).2).1, rfl, ?_, hall⟩
  rw [hlength]
  omega

theorem randomNumber_spec {n : Nat} (hn : 0 < n) (s : RandomSource) :
    ∃ k, k < n ∧ (randomNumber n s).1 = toString k :=
  ⟨(Draw.below n s).1, Draw.below_lt hn s, rfl⟩

/-! ## Values of primitives and of well-known types -/

/-- The random values of a primitive.  Numbers with a fraction are not covered. -/
inductive PrimitiveValue (type : TypeRef) : Primitive → String → Prop where
  | string (cs : List Char) (hlength : 1 ≤ cs.length ∧ cs.length ≤ 10)
      (hcs : ∀ c ∈ cs, c.isAlphanum = true) :
      PrimitiveValue type .string ("String::from(" ++ String.ofList ('"' :: cs ++ ['"']) ++ ")")
  | char (c : Char) (hc : c.isAlphanum = true) :
      PrimitiveValue type .char (String.ofList ['\x27', c, '\x27'])
  | boolean (flag : Bool) : PrimitiveValue type .boolean (if flag then "true" else "false")
  | int (n : Nat) (hn : n < 20) : PrimitiveValue type .int (toString n)
  | long (n : Nat) (hn : n < 20) :
      PrimitiveValue type .long (toString n ++ "_" ++ type.simpleName)

/-- The values of well-known types that are the same whatever is drawn: the present moment in the
form of the type, and a new identifier. -/
def undrawn? : KnownType → Option String
  | .date => some "::std::time::SystemTime::now()"
  | .uuid => some "::uuid::Uuid::new_v4()"
  | .localDate => some "::chrono::Local::now().date_naive()"
  | .localTime => some "::chrono::Local::now().time()"
  | .localDateTime => some "::chrono::Local::now().naive_local()"
  | .zonedDateTime => some "::chrono::Utc::now().with_timezone(&::chrono_tz::Tz::UTC)"
  | .instant => some "::chrono::Utc::now()"
  | .offsetDateTime => some "::chrono::Local::now().fixed_offset()"
  | _ => none

/-- The random values of a well-known type.  Decimal numbers are not covered. -/
inductive KnownTypeValue : KnownType → String → Prop where
  | undrawn {kind : KnownType} {text : String} (h : undrawn? kind = some text) :
      KnownTypeValue kind text
  | timeZone (seconds : Int) (hlow : -43200 ≤ seconds) (hhigh : seconds ≤ 50400)
      (hhours : 3600 ∣ seconds) :
      KnownTypeValue .timeZone s!"::chrono::FixedOffset::east_opt({seconds}).unwrap()"
  | offsetTime (n : Nat) (hn : n < 86400) :
      KnownTypeValue .offsetTime ("::chrono::TimeDelta::seconds(" ++ toString n ++ ")")
  | stdDuration (n : Nat) (hn : n < 86400) :
      KnownTypeValue .stdDuration ("::std::time::Duration::from_secs(" ++ toString n ++ ")")
  | zoneId (zone : String) (hzone : zone ∈ zones) :
      KnownTypeValue .zoneId ("::chrono_tz::Tz::" ++ zone)
  | bigInteger (n : Nat) (hn : n < 20) :
      KnownTypeValue .bigInteger ("::num_bigint::BigInt::from(" ++ toString n ++ ")")

theorem primitiveValue_randomPrimitive {type : TypeRef} {kind : Primitive}
    (hfloat : kind ≠ .float) (hdouble : kind ≠ .double) (s : RandomSource) :
    PrimitiveValue type kind (randomPrimitive type kind s).1 := by
  rw [randomPrimitive.eq_def]
  cases kind with
  | string =>
      obtain ⟨cs, htext, hlength, hcs⟩ := randomText_spec s
      rw [Draw.fst_bind_pure, htext, quoted_of_isAlphanum hcs]
      exact .string cs hlength hcs
  | char =>
      have hc := isAlphanum_randomChar s
      rw [Draw.fst_bind_pure, quotedChar_of_isAlphanum hc]
      exact .char _ hc
  | boolean => exact .boolean (Draw.coin s).1
  | int =>
      obtain ⟨n, hn, htext⟩ := randomNumber_spec (n := 20) (by decide) s
      rw [htext]
      exact .int n hn
  | long =>
      obtain ⟨n, hn, htext⟩ := randomNumber_spec (n := 20) (by decide) s
      rw [Draw.fst_bind_pure, htext]
      exact .long n hn
  | float => exact absurd rfl hfloat
  | double => exact absurd rfl hdouble

theorem knownTypeValue_randomKnownType {kind : KnownType} (hdecimal : kind ≠ .bigDecimal)
    (s : RandomSource) : KnownTypeValue kind (randomKnownType kind s).1 := by
  rw [randomKnownType.eq_def]
  cases kind with
  | timeZone =>
      have hlt : (Draw.below 27 s).1 < 27 := Draw.below_lt (by decide) s
      rw [Draw.fst_bind_pure]
      refine .timeZone _ ?_ ?_ (Int.dvd_mul_left _ _)
      · rw [offsetSeconds]; omega
      · rw [offsetSeconds]; omega
  | offsetTime =>
      obtain ⟨n, hn, htext⟩ := randomNumber_spec (n := 86400) (by decide) s
      rw [Draw.fst_bind_pure, htext]
      exact .offsetTime n hn
  | stdDuration =>
      obtain ⟨n, hn, htext⟩ := randomNumber_spec (n := 86400) (by decide) s
      rw [Draw.fst_bind_pure, htext]
      exact .stdDuration n hn
  | zoneId =>
      obtain ⟨zone, hzone, hchoose⟩ : ∃ zone ∈ zones, (Draw.choose zones s).1 = some zone :=
        Draw.exists_choose (by decide) s
      rw [Draw.fst_bind_pure, hchoose]
      exact .zoneId zone hzone
  | bigInteger =>
      obtain ⟨n, hn, htext⟩ := randomNumber_spec (n := 20) (by decide) s
      rw [Draw.fst_bind_pure, htext]
      exact .bigInteger n hn
  | bigDecimal => exact absurd rfl hdecimal
  | _ => exact .undrawn rfl

/-! ## Values of parameters -/

variable {r : AdapterRegistry} {p : Parameter}

/-- The random values of a parameter, each with whether it is an option already. -/
inductive RandomValue (r : AdapterRegistry) (p : Parameter) : String → Bool → Prop where
  | primitive {kind : Primitive} {text : String} (hkind : p.kind = .primitive kind)
      (htext : PrimitiveValue p.type kind text) : RandomValue r p text false
  | knownType {kind : KnownType} {text : String} (hkind : p.kind = .knownType kind)
      (htext : KnownTypeValue kind text) : RandomValue r p text false
  | fixture {factory : FactoryRef} (hkind : p.kind = .fixture factory) :
      RandomValue r p factory.call false
  | case {entries : List String} {entry : String} (hkind : p.kind = .enumeration entries)
      (hentry : entry ∈ entries) : RandomValue r p (p.type.path ++ "::" ++ entry) false
  | singleton {entries : List SealedEntry} {entry : SealedEntry} (hkind : p.kind = .sealed entries)
      (hentry : entry ∈ entries) (hsingleton : entry.isSingleton = true) :
      RandomValue r p (p.type.path ++ "::" ++ entry.name) false
  | wrapping {entries : List SealedEntry} {entry : SealedEntry} {factory : FactoryRef}
      (hkind : p.kind = .sealed entries) (hentry : entry ∈ entries)
      (hcalls : entry.Calls factory) :
      RandomValue r p (p.type.path ++ "::" ++ entry.name ++ "(" ++ factory.call ++ ")") false
  | emptyArray {elements : List TypeRef} (hkind : p.kind = .collection .array elements) :
      RandomValue r p "Box::default()" false
  | emptyCollection {kind : Collection} {elements : List TypeRef}
      (hkind : p.kind = .collection kind elements) (hne : kind ≠ .array) :
      RandomValue r p (p.type.path ++ "::new()") false
  | supplied {a : Adapter} (hkind : p.kind = .adapterSupplied) (hfind : r.find? p.type = some a) :
      RandomValue r p a.call a.target.nullable

/-- The errors of random values. -/
inductive RandomFault (r : AdapterRegistry) (p : Parameter) : FixtureError → Prop where
  | plainCase {entries : List SealedEntry} {entry : SealedEntry} (hkind : p.kind = .sealed entries)
      (hentry : entry ∈ entries) (hplain : entry.IsPlain) :
      RandomFault r p (.sealedCaseNotFixture p.type.path entry.name p.name)
  | noCases (hkind : p.kind = .enumeration [] ∨ p.kind = .sealed []) :
      RandomFault r p (.emptyVariants p.type.path p.name)
  | noAdapter (hkind : p.kind = .adapterSupplied) (hfind : r.find? p.type = none) :
      RandomFault r p (.missingAdapter p.type.renderRequired p.name)

/-- **A random value is one of the values of its parameter.** -/
theorem randomValue_of_yields_value (hkind : ¬ p.kind.IsFractional) {text : String}
    {already : Bool} (h : Yields (value true r p) (text, already)) :
    RandomValue r p text already := by
  cases valueOrigin_of_yields h with
  | fixedPrimitive _ hfixed => cases hfixed
  | drawnPrimitive hp _ s =>
      refine .primitive hp (primitiveValue_randomPrimitive ?_ ?_ s)
      · rintro rfl
        exact hkind (Or.inl hp)
      · rintro rfl
        exact hkind (Or.inr (Or.inl hp))
  | fixedKnownType _ hfixed => cases hfixed
  | drawnKnownType hp _ s =>
      refine .knownType hp (knownTypeValue_randomKnownType ?_ s)
      rintro rfl
      exact hkind (Or.inr (Or.inr hp))
  | fixture hp => exact .fixture hp
  | enumeration hp hpick => exact .case hp (mem_of_yields_pick hpick)
  | @sealed _ entry _ hp hpick htext =>
      have hmem := mem_of_yields_pick hpick
      rcases sealedValue_cases p.type p.name entry with
        ⟨hsingleton, hvalue⟩ | ⟨factory, hcalls, hvalue⟩ | ⟨-, hvalue⟩
      · cases hvalue.symm.trans htext
        exact .singleton hp hmem hsingleton
      · cases hvalue.symm.trans htext
        exact .wrapping hp hmem hcalls
      · cases hvalue.symm.trans htext
  | @collection kind _ hp =>
      cases kind with
      | array => exact .emptyArray hp
      | _ => exact .emptyCollection hp (by decide)
  | supplied hp hfind => exact .supplied hp hfind

/-- A random pick fails only where there is nothing to pick. -/
theorem failsWith_pick_true {α : Type} (entries : List α) (type : TypeRef) (field : String) :
    Build.FailsWith (fun e => entries = [] ∧ e = .emptyVariants type.path field)
      (pick true entries type field) := by
  refine (failsWith_draw (Draw.choose entries)).bind fun entry hentry => ?_
  cases entry with
  | some e => exact failsWith_pure e
  | none =>
      refine failsWith_throw ⟨?_, rfl⟩
      by_contra hne
      obtain ⟨s, hdraw⟩ := exists_of_yields_draw hentry
      obtain ⟨x, -, hchoose⟩ := Draw.exists_choose hne s
      rw [hdraw] at hchoose
      cases hchoose

/-- **A random value fails only by one of the errors of its parameter.** -/
theorem failsWith_randomFault (r : AdapterRegistry) (p : Parameter) :
    Build.FailsWith (RandomFault r p) (value true r p) := by
  rw [value]
  cases hp : p.kind with
  | primitive kind => exact (failsWith_draw _).bind fun _ _ => failsWith_pure _
  | knownType kind => exact (failsWith_draw _).bind fun _ _ => failsWith_pure _
  | fixture factory => exact failsWith_pure _
  | enumeration entries =>
      refine Build.FailsWith.bind ?_ fun _ _ => failsWith_pure _
      intro s e s' hrun
      obtain ⟨rfl, rfl⟩ := failsWith_pick_true entries p.type p.name s e s' hrun
      exact .noCases (Or.inl hp)
  | sealed entries =>
      refine Build.FailsWith.bind ?_ fun entry hentry => ?_
      · intro s e s' hrun
        obtain ⟨rfl, rfl⟩ := failsWith_pick_true entries p.type p.name s e s' hrun
        exact .noCases (Or.inr hp)
      · rcases sealedValue_cases p.type p.name entry with
          ⟨-, hvalue⟩ | ⟨factory, -, hvalue⟩ | ⟨hplain, hvalue⟩
        · rw [hvalue]
          exact failsWith_pure _
        · rw [hvalue]
          exact failsWith_pure _
        · rw [hvalue]
          exact failsWith_throw (.plainCase hp (mem_of_yields_pick hentry) hplain)
  | collection kind elements => exact failsWith_pure _
  | adapterSupplied =>
      dsimp only
      cases hfind : r.find? p.type with
      | some a => exact failsWith_pure _
      | none => exact failsWith_throw (.noAdapter hp hfind)

/-- What a random default value may turn out to be. -/
inductive RandomOutcome (r : AdapterRegistry) (p : Parameter) :
    Except FixtureError String → Prop where
  | absent (hnullable : p.type.nullable = true) : RandomOutcome r p (.ok "None")
  | present {text : String} {already : Bool} (hvalue : RandomValue r p text already) :
      RandomOutcome r p
        (.ok (if p.type.nullable && !already then "Some(" ++ text ++ ")" else text))
  | failed {e : FixtureError} (hfault : RandomFault r p e) : RandomOutcome r p (.error e)

/-- **A random default value is one of the outcomes of its parameter.** -/
theorem generate_within_outcomes (hkind : ¬ p.kind.IsFractional) (s : RandomSource) :
    RandomOutcome r p ((generate true r p).run s).1 := by
  rcases hrun : (generate true r p).run s with ⟨e | text, s'⟩
  · refine .failed ?_
    have hfails : Build.FailsWith (RandomFault r p) (generate true r p) := by
      refine (failsWith_draw (absent true p.type)).bind fun isAbsent _ => ?_
      split
      · exact failsWith_pure _
      · exact (failsWith_randomFault r p).bind fun v _ => failsWith_pure _
    exact hfails s e s' hrun
  · rcases run_generate_cases hrun with ⟨hcoin, rfl⟩ | ⟨v, s₁, -, hvalue, rfl⟩
    · refine .absent ?_
      by_contra hrequired
      rw [absent_of_required (Bool.eq_false_iff.mpr hrequired)] at hcoin
      cases hcoin
    · exact .present (randomValue_of_yields_value hkind ⟨s₁, s', hvalue⟩)

end DefaultValue
end FixtureFactory
