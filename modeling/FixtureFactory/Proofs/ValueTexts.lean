import FixtureFactory.Building
import FixtureFactory.Proofs.Outcome
import Mathlib.Data.List.Basic

/-!
# Texts of values

The text `None` stands for an absent value, so no value may have it.  Values are texts of many
shapes: literals, paths, calls, numbers drawn at random.  What they share is a character that does
not occur in `None`, mostly a colon, a bracket or a digit, and one such character anywhere is enough
(`IsForeign.left`, `IsForeign.right`).

`DefaultValue.valueOrigin_of_yields` takes a value apart by the kind of its parameter,
`DefaultValue.cases_of_yields_value` says whether an adapter supplies it, and
`DefaultValue.ne_none_of_yields_value` that no value has the text of an absent one.
-/

namespace FixtureFactory

open Build

/-! ## Foreign characters -/

/-- The text holds a character that does not occur in `None`. -/
def IsForeign (text : String) : Prop := ∃ c ∈ text.toList, c ∉ ['N', 'o', 'n', 'e']

theorem IsForeign.ne_none {text : String} (h : IsForeign text) : text ≠ "None" := by
  rintro rfl
  obtain ⟨c, hc, hforeign⟩ := h
  exact hforeign hc

theorem IsForeign.left {a : String} (h : IsForeign a) (b : String) : IsForeign (a ++ b) := by
  obtain ⟨c, hc, hforeign⟩ := h
  exact ⟨c, by rw [String.toList_append]; exact List.mem_append_left _ hc, hforeign⟩

theorem IsForeign.right {b : String} (h : IsForeign b) (a : String) : IsForeign (a ++ b) := by
  obtain ⟨c, hc, hforeign⟩ := h
  exact ⟨c, by rw [String.toList_append]; exact List.mem_append_right _ hc, hforeign⟩

/-- A text that starts with a foreign character.  A literal is such a text by definition, so this
needs no look at its other characters. -/
theorem isForeign_ofList_cons {c : Char} {cs : List Char} (h : c ∉ ['N', 'o', 'n', 'e']) :
    IsForeign (String.ofList (c :: cs)) :=
  ⟨c, by rw [String.toList_ofList]; exact List.mem_cons_self, h⟩

/-! ## Numbers -/

theorem isForeign_toString (n : Nat) : IsForeign (toString n) := by
  have htext : (toString n).toList = Nat.toDigits 10 n := String.toList_ofList
  obtain ⟨c, hc⟩ := List.exists_mem_of_ne_nil _ (Nat.toDigits_ne_nil (n := n) (b := 10))
  have hdigit : c.isDigit = true := Nat.isDigit_of_mem_toDigits (by decide) (by decide) hc
  refine ⟨c, htext ▸ hc, fun hletter => ?_⟩
  simp only [List.mem_cons, List.not_mem_nil, or_false] at hletter
  rcases hletter with rfl | rfl | rfl | rfl <;> cases hdigit

theorem isForeign_toString_int (n : Int) : IsForeign (toString n) := by
  cases n with
  | ofNat m => exact isForeign_toString m
  | negSucc m => exact (isForeign_toString (m + 1)).right "-"

namespace Decimal

theorem isForeign_positional (d : Digits) : IsForeign d.positional := by
  -- every branch writes a point
  refine ⟨'.', ?_, by decide⟩
  rw [Digits.positional, String.toList_ofList]
  split
  · simp
  · split
    · simp
    · dsimp only
      split <;> simp

theorem isForeign_scientific (d : Digits) : IsForeign d.scientific :=
  ((isForeign_toString_int (d.point - 1)).right "e").right _

theorem isForeign_general (d : Digits) : IsForeign d.general := by
  rw [Digits.general]
  split
  · exact isForeign_positional d
  · exact isForeign_scientific d

end Decimal

/-! ## Values -/

theorem Draw.fst_bind_pure {α β : Type} (d : Draw α) (f : α → β) (s : RandomSource) :
    ((d >>= fun x => pure (f x) : Draw β) s).1 = f (d s).1 := rfl

theorem FactoryRef.isForeign_call (f : FactoryRef) : IsForeign f.call :=
  IsForeign.right (isForeign_ofList_cons (by decide)) f.path

theorem Adapter.isForeign_call (a : Adapter) : IsForeign a.call :=
  IsForeign.right (isForeign_ofList_cons (by decide)) a.path

/-- The adapter that the value of a parameter is taken from. -/
def Parameter.adapter? (r : AdapterRegistry) (p : Parameter) : Option Adapter :=
  match p.kind with
  | .adapterSupplied => r.find? p.type
  | _ => none

theorem Parameter.adapter?_eq_some_iff {r : AdapterRegistry} {p : Parameter} {a : Adapter} :
    p.adapter? r = some a ↔ p.kind = .adapterSupplied ∧ r.find? p.type = some a := by
  rw [adapter?]
  cases p.kind <;> simp

/-! ## Values -/

/-- The case carries the value that a factory makes. -/
structure SealedEntry.Calls (entry : SealedEntry) (factory : FactoryRef) : Prop where
  carries : entry.isSingleton = false
  marked : entry.isFixture = true
  factory_eq : entry.factory = some factory

/-- The case carries a value that no factory makes. -/
def SealedEntry.IsPlain (entry : SealedEntry) : Prop :=
  entry.isSingleton = false ∧ ∀ factory, ¬ entry.Calls factory

namespace DefaultValue

theorem isForeign_quotedChar (c : Char) : IsForeign (quotedChar c) :=
  isForeign_ofList_cons (by decide)

theorem isForeign_primitive (name : String) (type : TypeRef) (kind : Primitive) :
    IsForeign (primitive name type kind) := by
  cases kind with
  | string => exact IsForeign.left (IsForeign.left (isForeign_ofList_cons (by decide)) _) _
  | char => exact isForeign_quotedChar 'A'
  | long => exact IsForeign.left (isForeign_ofList_cons (by decide)) _
  | _ => exact isForeign_ofList_cons (by decide)

theorem isForeign_randomNumber (n : Nat) (s : RandomSource) :
    IsForeign (randomNumber n s).1 := by
  rw [randomNumber, Draw.fst_bind_pure]
  exact isForeign_toString _

theorem isForeign_randomPrimitive (type : TypeRef) (kind : Primitive) (s : RandomSource) :
    IsForeign (randomPrimitive type kind s).1 := by
  rw [randomPrimitive.eq_def]
  cases kind with
  | string =>
      rw [Draw.fst_bind_pure]
      exact IsForeign.left (IsForeign.left (isForeign_ofList_cons (by decide)) _) _
  | char =>
      rw [Draw.fst_bind_pure]
      exact isForeign_quotedChar (randomChar s).1
  | boolean =>
      rw [Draw.fst_bind_pure]
      split <;> exact isForeign_ofList_cons (by decide)
  | int => exact isForeign_randomNumber 20 s
  | long =>
      rw [Draw.fst_bind_pure]
      exact ((isForeign_randomNumber 20 s).left _).left _
  | float =>
      rw [Draw.fst_bind_pure, randomSingle, Draw.fst_bind_pure]
      exact (Decimal.isForeign_general _).left _
  | double =>
      rw [randomDouble, Draw.fst_bind_pure]
      exact Decimal.isForeign_general _

theorem isForeign_knownType (kind : KnownType) : IsForeign (knownType kind) := by
  cases kind with
  | offsetDateTime => exact IsForeign.left (isForeign_ofList_cons (by decide)) _
  | _ => exact isForeign_ofList_cons (by decide)

theorem isForeign_randomKnownType (kind : KnownType) (s : RandomSource) :
    IsForeign (randomKnownType kind s).1 := by
  rw [randomKnownType.eq_def]
  cases kind with
  | timeZone | offsetTime | stdDuration | bigDecimal | bigInteger =>
      rw [Draw.fst_bind_pure]
      exact IsForeign.left (IsForeign.left (isForeign_ofList_cons (by decide)) _) _
  | zoneId =>
      rw [Draw.fst_bind_pure]
      exact IsForeign.left (isForeign_ofList_cons (by decide)) _
  | _ => exact isForeign_ofList_cons (by decide)

theorem isForeign_collection (type : TypeRef) (kind : Collection) :
    IsForeign (collection type kind) := by
  cases kind with
  | array => exact isForeign_ofList_cons (by decide)
  | _ => exact IsForeign.right (isForeign_ofList_cons (by decide)) type.path

theorem isForeign_casePath (path entry : String) : IsForeign (path ++ "::" ++ entry) :=
  IsForeign.left (IsForeign.right (isForeign_ofList_cons (by decide)) path) entry

/-- **What comes of an entry**: the path of a singleton, the case applied to the call of its
factory, or an error if there is neither. -/
theorem sealedValue_cases (type : TypeRef) (field : String) (entry : SealedEntry) :
    (entry.isSingleton = true ∧
      sealedValue type field entry = .ok (type.path ++ "::" ++ entry.name)) ∨
    (∃ factory, entry.Calls factory ∧ sealedValue type field entry =
      .ok (type.path ++ "::" ++ entry.name ++ "(" ++ factory.call ++ ")")) ∨
    (entry.IsPlain ∧ sealedValue type field entry =
      .error (.sealedCaseNotFixture type.path entry.name field)) := by
  obtain ⟨name, isSingleton, isFixture, factory⟩ := entry
  cases isSingleton with
  | true => exact Or.inl ⟨rfl, rfl⟩
  | false =>
      refine Or.inr ?_
      cases isFixture with
      | false =>
          refine Or.inr ⟨⟨rfl, ?_⟩, ?_⟩
          · rintro ref ⟨-, hmarked, -⟩
            cases hmarked
          · cases factory <;> rfl
      | true =>
          cases factory with
          | some ref => exact Or.inl ⟨ref, ⟨rfl, rfl, rfl⟩, rfl⟩
          | none =>
              refine Or.inr ⟨⟨rfl, ?_⟩, rfl⟩
              rintro ref ⟨-, -, href⟩
              cases href

theorem isForeign_of_sealedValue {type : TypeRef} {field : String} {entry : SealedEntry}
    {text : String} (h : sealedValue type field entry = .ok text) : IsForeign text := by
  have hpath := isForeign_casePath type.path entry.name
  rcases sealedValue_cases type field entry with
    ⟨-, hv⟩ | ⟨factory, -, hv⟩ | ⟨-, hv⟩ <;> cases hv.symm.trans h
  · exact hpath
  · exact ((hpath.left _).left _).left _

/-! ## Where values come from -/

/-- How the value of a parameter comes about, and whether it is an option already. -/
inductive ValueOrigin (randomize : Bool) (r : AdapterRegistry) (p : Parameter) :
    String × Bool → Prop where
  | fixedPrimitive {kind : Primitive} (hkind : p.kind = .primitive kind)
      (hfixed : randomize = false) : ValueOrigin randomize r p (primitive p.name p.type kind, false)
  | drawnPrimitive {kind : Primitive} (hkind : p.kind = .primitive kind)
      (hrandom : randomize = true) (s : RandomSource) :
      ValueOrigin randomize r p ((randomPrimitive p.type kind s).1, false)
  | fixedKnownType {kind : KnownType} (hkind : p.kind = .knownType kind)
      (hfixed : randomize = false) : ValueOrigin randomize r p (knownType kind, false)
  | drawnKnownType {kind : KnownType} (hkind : p.kind = .knownType kind)
      (hrandom : randomize = true) (s : RandomSource) :
      ValueOrigin randomize r p ((randomKnownType kind s).1, false)
  | fixture {factory : FactoryRef} (hkind : p.kind = .fixture factory) :
      ValueOrigin randomize r p (factory.call, false)
  | enumeration {entries : List String} {entry : String} (hkind : p.kind = .enumeration entries)
      (hpick : Yields (pick randomize entries p.type p.name) entry) :
      ValueOrigin randomize r p (p.type.path ++ "::" ++ entry, false)
  | sealed {entries : List SealedEntry} {entry : SealedEntry} {text : String}
      (hkind : p.kind = .sealed entries)
      (hpick : Yields (pick randomize entries p.type p.name) entry)
      (htext : sealedValue p.type p.name entry = .ok text) : ValueOrigin randomize r p (text, false)
  | collection {kind : Collection} {elements : List TypeRef}
      (hkind : p.kind = .collection kind elements) :
      ValueOrigin randomize r p (collection p.type kind, false)
  | supplied {a : Adapter} (hkind : p.kind = .adapterSupplied) (hfind : r.find? p.type = some a) :
      ValueOrigin randomize r p (a.call, a.target.nullable)

/-- **Every value has an origin.**  One case for each kind of parameter, and two where a value may
be drawn. -/
theorem valueOrigin_of_yields {randomize : Bool} {r : AdapterRegistry} {p : Parameter}
    {v : String × Bool} (h : Yields (value randomize r p) v) : ValueOrigin randomize r p v := by
  rw [value] at h
  cases hkind : p.kind with
  | primitive kind =>
      simp only [hkind] at h
      cases randomize with
      | true =>
          obtain ⟨text, htext, h⟩ := h.of_bind
          obtain ⟨s, rfl⟩ := exists_of_yields_draw htext
          cases yields_pure_iff.mp h
          exact .drawnPrimitive hkind rfl s
      | false =>
          cases yields_pure_iff.mp h
          exact .fixedPrimitive hkind rfl
  | knownType kind =>
      simp only [hkind] at h
      cases randomize with
      | true =>
          obtain ⟨text, htext, h⟩ := h.of_bind
          obtain ⟨s, rfl⟩ := exists_of_yields_draw htext
          cases yields_pure_iff.mp h
          exact .drawnKnownType hkind rfl s
      | false =>
          cases yields_pure_iff.mp h
          exact .fixedKnownType hkind rfl
  | fixture factory =>
      simp only [hkind] at h
      cases yields_pure_iff.mp h
      exact .fixture hkind
  | enumeration entries =>
      simp only [hkind] at h
      obtain ⟨entry, hpick, h⟩ := h.of_bind
      cases yields_pure_iff.mp h
      exact .enumeration hkind hpick
  | sealed entries =>
      simp only [hkind] at h
      obtain ⟨entry, hpick, h⟩ := h.of_bind
      cases htext : sealedValue p.type p.name entry with
      | error e =>
          rw [htext] at h
          exact absurd h (not_yields_throw e v)
      | ok text =>
          rw [htext] at h
          cases yields_pure_iff.mp h
          exact .sealed hkind hpick htext
  | collection kind elements =>
      simp only [hkind] at h
      cases yields_pure_iff.mp h
      exact .collection hkind
  | adapterSupplied =>
      simp only [hkind] at h
      cases hfind : r.find? p.type with
      | none =>
          rw [hfind] at h
          exact absurd h (not_yields_throw _ v)
      | some a =>
          rw [hfind] at h
          cases yields_pure_iff.mp h
          exact .supplied hkind hfind

/-- **Where a value comes from.**  Either it is made from the parameter alone, and then it is no
option and holds a foreign character, or it is the call of the adapter that supplies it. -/
theorem cases_of_yields_value {randomize : Bool} {r : AdapterRegistry} {p : Parameter}
    {v : String × Bool} (h : Yields (value randomize r p) v) :
    (p.kind ≠ .adapterSupplied ∧ IsForeign v.1 ∧ v.2 = false) ∨
    ∃ a, p.adapter? r = some a ∧ v = (a.call, a.target.nullable) := by
  cases valueOrigin_of_yields h with
  | @fixedPrimitive kind hkind =>
      exact Or.inl ⟨hkind ▸ nofun, isForeign_primitive p.name p.type kind, rfl⟩
  | @drawnPrimitive kind hkind _ s =>
      exact Or.inl ⟨hkind ▸ nofun, isForeign_randomPrimitive p.type kind s, rfl⟩
  | @fixedKnownType kind hkind => exact Or.inl ⟨hkind ▸ nofun, isForeign_knownType kind, rfl⟩
  | @drawnKnownType kind hkind _ s =>
      exact Or.inl ⟨hkind ▸ nofun, isForeign_randomKnownType kind s, rfl⟩
  | @fixture factory hkind => exact Or.inl ⟨hkind ▸ nofun, factory.isForeign_call, rfl⟩
  | @enumeration _ entry hkind =>
      exact Or.inl ⟨hkind ▸ nofun, isForeign_casePath p.type.path entry, rfl⟩
  | sealed hkind _ htext => exact Or.inl ⟨hkind ▸ nofun, isForeign_of_sealedValue htext, rfl⟩
  | @collection kind _ hkind =>
      exact Or.inl ⟨hkind ▸ nofun, isForeign_collection p.type kind, rfl⟩
  | @supplied a hkind hfind =>
      exact Or.inr ⟨a, Parameter.adapter?_eq_some_iff.mpr ⟨hkind, hfind⟩, rfl⟩

/-- **No value has the text of an absent one.** -/
theorem ne_none_of_yields_value {randomize : Bool} {r : AdapterRegistry} {p : Parameter}
    {v : String × Bool} (h : Yields (value randomize r p) v) : v.1 ≠ "None" := by
  rcases cases_of_yields_value h with ⟨-, hforeign, -⟩ | ⟨a, -, rfl⟩
  · exact hforeign.ne_none
  · exact a.isForeign_call.ne_none

end DefaultValue
end FixtureFactory
