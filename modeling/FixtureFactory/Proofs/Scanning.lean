import FixtureFactory.Pipeline
import FixtureFactory.Proofs.Grouping
import FixtureFactory.Proofs.Outcome

/-!
# What a scan of the fixtures finds

A scan of the fixtures goes through the marked declarations, and for each through its fields.  It
stops at the first field that cannot be classified.  So a scan that succeeds has a fixture for
every declaration and a parameter for every field, in the same order.

## What a parameter keeps of its field

Its name, always.  Its type is that of the field, or the field refers to a declaration and the type
is written with the qualified name of that declaration from then on (`classify_cases`).

## Where factories are referred to

Only the rules that go by a declaration refer to factories: a marked declaration is referred to by
its own factory, and an enumeration with data by those of its cases.  `kind_eq_fixture_of_classify`
and `kind_eq_sealed_of_classify` lead from the reference in a parameter back to the declaration that
it was taken from.
-/

namespace FixtureFactory

/-! ## Classified fields -/

/-- The kind is one of those that refer to factories. -/
def ParameterKind.IsReferring : ParameterKind → Prop
  | .fixture _ => True
  | .sealed _ => True
  | _ => False

section Classification

variable {host : Host} {adapters : AdapterRegistry} {naming : Naming} {owner : String}
  {field : Field} {q : Parameter}

theorem factoryOf_eq_ok_iff {d : TypeDeclaration} {ref : FactoryRef} :
    factoryOf host naming d = .ok ref ↔
      ∃ source, host.unit? d.unit = some source ∧ ref = naming.factoryFor source d := by
  rw [factoryOf]
  cases host.unit? d.unit with
  | none => simp
  | some source => simp [eq_comm]

theorem wrappedFixture?_eq_some_iff {inner : TypeRef} {d : TypeDeclaration} :
    wrappedFixture? host inner = some d ↔
      host.resolve inner = some d ∧ d.hasMarker .fixture = true := by
  rw [wrappedFixture?, Option.filter_eq_some_iff]

/-- The case wraps a value of a type that refers to the marked declaration. -/
structure CaseDeclaration.Wraps (host : Host) (c : CaseDeclaration) (inner : TypeRef)
    (d : TypeDeclaration) : Prop where
  shape : c.shape = .wrapping inner
  resolve : host.resolve inner = some d
  marker : d.hasMarker .fixture = true

/-- **What a case is classified as**: a singleton, a fixture with the factory of the marked
declaration that the case wraps, or neither. -/
theorem sealedEntry_cases {c : CaseDeclaration} {entry : SealedEntry}
    (h : sealedEntry host naming c = .ok entry) :
    (c.shape = .unit ∧ entry = ⟨c.name, true, false, none⟩) ∨
    (∃ inner d ref, c.Wraps host inner d ∧ factoryOf host naming d = .ok ref ∧
      entry = ⟨c.name, false, true, some ref⟩) ∨
    (c.shape ≠ .unit ∧ (∀ inner d, ¬ c.Wraps host inner d) ∧
      entry = ⟨c.name, false, false, none⟩) := by
  rw [sealedEntry] at h
  cases hshape : c.shape with
  | unit =>
      rw [hshape] at h
      exact Or.inl ⟨rfl, (Except.ok.inj h).symm⟩
  | fields =>
      rw [hshape] at h
      refine Or.inr (Or.inr ⟨nofun, fun inner d hwraps => ?_, (Except.ok.inj h).symm⟩)
      cases hshape.symm.trans hwraps.shape
  | wrapping inner =>
      rw [hshape] at h
      cases hwrapped : wrappedFixture? host inner with
      | none =>
          simp only [hwrapped] at h
          refine Or.inr (Or.inr ⟨nofun, fun inner' d hwraps => ?_, (Except.ok.inj h).symm⟩)
          cases hshape.symm.trans hwraps.shape
          cases hwrapped.symm.trans
            (wrappedFixture?_eq_some_iff.mpr ⟨hwraps.resolve, hwraps.marker⟩)
      | some d =>
          simp only [hwrapped] at h
          obtain ⟨ref, href, rfl⟩ := exceptMap_eq_ok_iff.mp h
          obtain ⟨hresolve, hmarker⟩ := wrappedFixture?_eq_some_iff.mp hwrapped
          exact Or.inr (Or.inl ⟨inner, d, ref, ⟨hshape, hresolve, hmarker⟩, href, rfl⟩)

/-- **The factory of a case** is that of the marked declaration that the case wraps. -/
theorem factory_of_sealedEntry {c : CaseDeclaration} {entry : SealedEntry} {ref : FactoryRef}
    (h : sealedEntry host naming c = .ok entry) (href : entry.factory = some ref) :
    ∃ inner d, c.Wraps host inner d ∧ factoryOf host naming d = .ok ref := by
  rcases sealedEntry_cases h with
    ⟨-, rfl⟩ | ⟨inner, d, ref', hwraps, hfactory, rfl⟩ | ⟨-, -, rfl⟩
  · cases href
  · exact ⟨inner, d, hwraps, Option.some.inj href ▸ hfactory⟩
  · cases href

/-- **What a declaration makes of a field of its type**: a reference to its factory, an
enumeration, or an enumeration with data whose cases are classified in order. -/
theorem declaredKind?_cases {d : TypeDeclaration} {kind : ParameterKind}
    (h : declaredKind? host naming d = .ok (some kind)) :
    (d.hasMarker .fixture = true ∧
      ∃ ref, factoryOf host naming d = .ok ref ∧ kind = .fixture ref) ∨
    kind = .enumeration ((host.cases d).map (·.name)) ∨
    ∃ entries, kind = .sealed entries ∧ d.kind = .sealed ∧
      List.Forall₂ (fun c entry => sealedEntry host naming c = .ok entry) (host.cases d)
        entries := by
  rw [declaredKind?] at h
  by_cases hmarker : d.hasMarker .fixture = true
  · rw [if_pos hmarker] at h
    obtain ⟨ref, href, hkind⟩ := exceptMap_eq_ok_iff.mp h
    exact Or.inl ⟨hmarker, ref, href, Option.some.inj hkind⟩
  · rw [if_neg hmarker] at h
    refine Or.inr ?_
    cases hd : d.kind with
    | enumeration =>
        rw [hd] at h
        exact Or.inl (Option.some.inj (Except.ok.inj h)).symm
    | sealed =>
        rw [hd] at h
        obtain ⟨entries, hentries, hkind⟩ := exceptMap_eq_ok_iff.mp h
        exact Or.inr ⟨entries, Option.some.inj hkind, rfl, (mapM_eq_ok_iff ..).mp hentries⟩
    | record => rw [hd] at h; cases h
    | tupleStruct => rw [hd] at h; cases h
    | unitStruct => rw [hd] at h; cases h
    | union => rw [hd] at h; cases h

theorem classifyCollection_eq_ok (h : classifyCollection owner field = .ok q) :
    q.name = field.name ∧ q.type = field.type ∧ ¬ q.kind.IsReferring := by
  rw [classifyCollection] at h
  cases hkind : Collection.of? field.type with
  | none => rw [hkind] at h; cases h
  | some kind =>
      rw [hkind] at h
      rw [← Except.ok.inj h]
      exact ⟨rfl, rfl, id⟩

/-- **What a field is classified as.**  Either its type stays as it is and no factory is referred
to, or it refers to a declaration, which says the kind and under whose name the type is written. -/
theorem classify_cases (h : classify host adapters naming owner field = .ok q) :
    (q.name = field.name ∧ q.type = field.type ∧ ¬ q.kind.IsReferring) ∨
    ∃ d kind, host.resolve field.type = some d ∧ declaredKind? host naming d = .ok (some kind) ∧
      q = ⟨field.name, ⟨d.qualifiedName, field.type.args, field.type.nullable⟩, kind⟩ := by
  rw [classify] at h
  split at h
  · -- rule 1
    rw [← Except.ok.inj h]
    exact Or.inl ⟨rfl, rfl, id⟩
  · cases hprimitive : Primitive.of? field.type with
    | some kind =>
        rw [hprimitive] at h
        rw [← Except.ok.inj h]
        exact Or.inl ⟨rfl, rfl, id⟩
    | none =>
        cases hknown : KnownType.of? field.type with
        | some kind =>
            rw [hprimitive, hknown] at h
            rw [← Except.ok.inj h]
            exact Or.inl ⟨rfl, rfl, id⟩
        | none =>
            simp only [hprimitive, hknown, classifyDeclared] at h
            cases hresolve : host.resolve field.type with
            | none =>
                rw [hresolve] at h
                exact Or.inl (classifyCollection_eq_ok h)
            | some d =>
                simp only [hresolve] at h
                rcases hkind : declaredKind? host naming d with e | ⟨⟨⟩ | kind⟩
                · rw [hkind] at h
                  cases h
                · rw [hkind] at h
                  exact Or.inl (classifyCollection_eq_ok h)
                · rw [hkind] at h
                  exact Or.inr ⟨d, kind, rfl, hkind, (Except.ok.inj h).symm⟩

theorem name_of_classify (h : classify host adapters naming owner field = .ok q) :
    q.name = field.name := by
  rcases classify_cases h with ⟨hname, -, -⟩ | ⟨d, kind, -, -, rfl⟩
  · exact hname
  · rfl

/-- **Where a parameter of the kind of a fixture comes from.** -/
theorem kind_eq_fixture_of_classify {ref : FactoryRef}
    (h : classify host adapters naming owner field = .ok q) (hkind : q.kind = .fixture ref) :
    ∃ d, host.resolve field.type = some d ∧
      q.type = ⟨d.qualifiedName, field.type.args, field.type.nullable⟩ ∧
      d.hasMarker .fixture = true ∧ factoryOf host naming d = .ok ref := by
  rcases classify_cases h with ⟨-, -, hplain⟩ | ⟨d, kind, hresolve, hdeclared, rfl⟩
  · rw [hkind] at hplain
    exact absurd trivial hplain
  · rcases declaredKind?_cases hdeclared with ⟨hmarker, ref', href, rfl⟩ | rfl | ⟨entries, rfl, -⟩
    · rw [ParameterKind.fixture.inj hkind] at href
      exact ⟨d, hresolve, rfl, hmarker, href⟩
    · cases hkind
    · cases hkind

/-- **Where a parameter of the kind of an enumeration with data comes from.** -/
theorem kind_eq_sealed_of_classify {entries : List SealedEntry}
    (h : classify host adapters naming owner field = .ok q) (hkind : q.kind = .sealed entries) :
    ∃ d, host.resolve field.type = some d ∧
      q.type = ⟨d.qualifiedName, field.type.args, field.type.nullable⟩ ∧ d.kind = .sealed ∧
      List.Forall₂ (fun c entry => sealedEntry host naming c = .ok entry) (host.cases d)
        entries := by
  rcases classify_cases h with ⟨-, -, hplain⟩ | ⟨d, kind, hresolve, hdeclared, rfl⟩
  · rw [hkind] at hplain
    exact absurd trivial hplain
  · rcases declaredKind?_cases hdeclared with ⟨-, ref, -, rfl⟩ | rfl |
      ⟨entries', rfl, hsealed, hentries⟩
    · cases hkind
    · cases hkind
    · rw [ParameterKind.sealed.inj hkind] at hentries
      exact ⟨d, hresolve, rfl, hsealed, hentries⟩

end Classification

/-! ## Scanned declarations -/

/-- The fixture of a declaration whose fields have been classified. -/
def TypeDeclaration.toFixture (d : TypeDeclaration) (parameters : List Parameter) : Fixture where
  qualifiedName := d.qualifiedName
  simpleName := d.simpleName
  enclosing := d.enclosing
  unit := d.unit
  type := d.asType
  parameters := parameters
  location := d.location

section Scan

variable {host : Host} {adapters : AdapterRegistry} {naming : Naming}

/-- A declaration becomes a fixture: it is a record, and its fields are classified in order. -/
def ScansTo (host : Host) (adapters : AdapterRegistry) (naming : Naming) (d : TypeDeclaration)
    (f : Fixture) : Prop :=
  d.kind = .record ∧ f = d.toFixture f.parameters ∧
    List.Forall₂ (fun field q => classify host adapters naming d.qualifiedName field = .ok q)
      (host.fields d) f.parameters

theorem mapFields_eq_ok_iff {d : TypeDeclaration} {parameters : List Parameter} :
    mapFields host adapters naming d = .ok parameters ↔
      List.Forall₂ (fun field q => classify host adapters naming d.qualifiedName field = .ok q)
        (host.fields d) parameters := by
  rw [mapFields, mapM_eq_ok_iff]
  simp only [mapField, mapError_eq_ok_iff]

theorem fixtureOf_eq_ok_iff {d : TypeDeclaration} {f : Fixture} :
    fixtureOf host adapters naming d = .ok f ↔ ScansTo host adapters naming d f := by
  rw [fixtureOf, ScansTo]
  by_cases hkind : d.kind = .record
  · rw [if_neg (not_not_intro hkind), exceptMap_eq_ok_iff, and_iff_right hkind]
    constructor
    · rintro ⟨parameters, hparameters, rfl⟩
      exact ⟨rfl, mapFields_eq_ok_iff.mp hparameters⟩
    · rintro ⟨hf, hparameters⟩
      exact ⟨f.parameters, mapFields_eq_ok_iff.mpr hparameters, hf⟩
  · rw [if_pos hkind]
    constructor
    · intro h
      cases h
    · intro h
      exact absurd h.1 hkind

/-- **A scan of the fixtures that succeeds** has a fixture for every marked declaration, in order,
and registers them from the first on. -/
theorem scanFixtures_eq_ok_iff {registry : FixtureRegistry} :
    scanFixtures host adapters naming = .ok registry ↔
      ∃ fs, List.Forall₂ (ScansTo host adapters naming) (host.markedTypes .fixture) fs ∧
        registry = FixtureRegistry.ofList fs := by
  have hscan : scanFixtures host adapters naming =
      ((host.markedTypes .fixture).mapM (fixtureOf host adapters naming)).map
        FixtureRegistry.ofList := by
    rw [scanFixtures]
    cases (host.markedTypes .fixture).mapM (fixtureOf host adapters naming) <;> rfl
  rw [hscan, exceptMap_eq_ok_iff]
  simp only [mapM_eq_ok_iff, fixtureOf_eq_ok_iff]

end Scan
end FixtureFactory
