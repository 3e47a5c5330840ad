import Mathlib.Order.WellFounded
import FixtureFactory.Catalogue
import FixtureFactory.Proofs.Scanning

/-!
# The rules of classification

A field is classified by the first of seven rules that applies to its type.  The rules overlap:
everything goes by simple names and by what the sources declare, so a declared type may have the
name of a collection, and a marked type may be an enumeration.  This file states each rule apart
from the others, when it applies (`Rule.Applies`), what it gives (`Rule.Gives`) and which marked
declarations it needs the unit of (`Rule.references`), and the choice once (`Rule.Chosen`).

Three of the rules go by lists of names, which are `Primitive.names`, `KnownType.names` and
`Collection.names`.  An equivalence for each list says which types are accepted and as what.

* `Rule.exists_chosen`, `Rule.Chosen.unique`: if any rule applies, one is chosen.
* `classify_of_chosen` says what the classification does for each rule that may be chosen, and
  `classify_of_none` what it does without a rule.
* `classify_outcomes` is the result, as equivalences for successes and for errors.
-/

namespace FixtureFactory

/-! ## The allow-lists -/

/-- The names of a primitive. -/
def Primitive.names : Primitive → List String
  | string => ["String"]
  | char => ["char"]
  | boolean => ["bool"]
  | int => ["i8", "i16", "i32", "u8", "u16", "u32"]
  | long => ["i64", "u64", "i128", "u128", "isize", "usize"]
  | float => ["f32"]
  | double => ["f64"]

/-- The names of a well-known type that is told by its name alone. -/
def KnownType.names : KnownType → List String
  | date => ["SystemTime"]
  | timeZone => ["FixedOffset"]
  | uuid => ["Uuid"]
  | localDate => ["NaiveDate"]
  | localTime => ["NaiveTime"]
  | localDateTime => ["NaiveDateTime"]
  | offsetTime => ["TimeDelta"]
  | zoneId => ["Tz"]
  | bigDecimal => ["BigDecimal"]
  | bigInteger => ["BigInt"]
  | zonedDateTime | instant | offsetDateTime | stdDuration => []

/-- The names of the zones of a date with a zone. -/
def KnownType.zoneNames : KnownType → List String
  | zonedDateTime => ["Tz"]
  | instant => ["Utc"]
  | offsetDateTime => ["FixedOffset"]
  | _ => []

/-- The names of a collection that takes any elements. -/
def Collection.names : Collection → List String
  | array => []
  | list => ["Vec", "VecDeque", "LinkedList"]
  | set => ["HashSet", "BTreeSet"]
  | map => ["HashMap", "BTreeMap"]

section AllowLists

variable {t : TypeRef}

/-- **The primitives** are told by their names. -/
theorem Primitive.of?_eq_some_iff {kind : Primitive} :
    Primitive.of? t = some kind ↔ t.simpleName ∈ kind.names := by
  rw [Primitive.of?]
  generalize t.simpleName = name
  constructor
  · intro h
    iterate 3
      rcases ite_eq_iff.mp h with ⟨hname, ⟨⟩⟩ | ⟨-, h⟩
      · exact List.mem_singleton.mpr (eq_of_beq hname)
    iterate 2
      rcases ite_eq_iff.mp h with ⟨hname, ⟨⟩⟩ | ⟨-, h⟩
      · exact List.contains_iff_mem.mp hname
    iterate 2
      rcases ite_eq_iff.mp h with ⟨hname, ⟨⟩⟩ | ⟨-, h⟩
      · exact List.mem_singleton.mpr (eq_of_beq hname)
    cases h
  · revert name
    cases kind <;> decide

theorem KnownType.ofZone?_eq_some_iff {zone : String} {kind : KnownType} :
    KnownType.ofZone? zone = some kind ↔ zone ∈ kind.zoneNames := by
  rw [ofZone?]
  cases kind <;> simp only [zoneNames] <;> grind

/-- **The well-known types** are told by their names, but for dates with a zone, which also need
one of three zones, and for durations, of which those of one crate are of another kind. -/
theorem KnownType.of?_eq_some_iff {kind : KnownType} :
    KnownType.of? t = some kind ↔
      t.simpleName ∈ kind.names ∨
      (t.simpleName = "DateTime" ∧
        ∃ zone rest, t.args = zone :: rest ∧ zone.simpleName ∈ kind.zoneNames) ∨
      (t.simpleName = "Duration" ∧ kind = .offsetTime ∧ "chrono::".toList <+: t.path.toList) ∨
      (t.simpleName = "Duration" ∧ kind = .stdDuration ∧ ¬ "chrono::".toList <+: t.path.toList) := by
  have hzone : t.args.head?.bind (fun zone => ofZone? zone.simpleName) = some kind ↔
      ∃ zone rest, t.args = zone :: rest ∧ zone.simpleName ∈ kind.zoneNames := by
    cases t.args <;> simp [ofZone?_eq_some_iff]
  have hchrono : startsWith "chrono::" t.path = true ↔ "chrono::".toList <+: t.path.toList :=
    List.isPrefixOf_iff_prefix
  rw [← hzone, ← hchrono, of?]
  generalize t.args.head?.bind _ = zoned
  generalize startsWith "chrono::" t.path = chrono
  generalize t.simpleName = name
  constructor
  · intro h
    iterate 6
      rcases ite_eq_iff.mp h with ⟨hname, ⟨⟩⟩ | ⟨-, h⟩
      · exact Or.inl (List.mem_singleton.mpr (eq_of_beq hname))
    rcases ite_eq_iff.mp h with ⟨hname, hzoned⟩ | ⟨-, h⟩
    · exact Or.inr (Or.inl ⟨eq_of_beq hname, hzoned⟩)
    rcases ite_eq_iff.mp h with ⟨hname, ⟨⟩⟩ | ⟨-, h⟩
    · exact Or.inl (List.mem_singleton.mpr (eq_of_beq hname))
    rcases ite_eq_iff.mp h with ⟨hname, hduration⟩ | ⟨-, h⟩
    · rcases ite_eq_iff.mp hduration with ⟨hchrono, ⟨⟩⟩ | ⟨hchrono, ⟨⟩⟩
      · exact Or.inr (Or.inr (Or.inl ⟨eq_of_beq hname, rfl, hchrono⟩))
      · exact Or.inr (Or.inr (Or.inr ⟨eq_of_beq hname, rfl, hchrono⟩))
    iterate 3
      rcases ite_eq_iff.mp h with ⟨hname, ⟨⟩⟩ | ⟨-, h⟩
      · exact Or.inl (List.mem_singleton.mpr (eq_of_beq hname))
    cases h
  · rintro (h | ⟨h, hz⟩ | ⟨h, rfl, hc⟩ | ⟨h, rfl, hc⟩)
    · cases kind <;> simp only [names, List.mem_singleton, List.not_mem_nil] at h
      all_goals
        subst h
        rfl
    · subst h
      exact hz
    · subst h
      exact if_pos hc
    · subst h
      exact if_neg hc

/-- **The collections** are told by their names, and a box is one if it holds a slice. -/
theorem Collection.of?_eq_some_iff {kind : Collection} :
    Collection.of? t = some kind ↔
      t.simpleName ∈ kind.names ∨
      (t.simpleName = "Box" ∧ kind = .array ∧
        ∃ element rest, t.args = element :: rest ∧ element.path = "[]") := by
  have hslice : t.args.head?.any TypeRef.isSlice = true ↔
      ∃ element rest, t.args = element :: rest ∧ element.path = "[]" := by
    cases t.args <;> simp [TypeRef.isSlice, TypeRef.slicePath]
  rw [← hslice, of?]
  generalize t.args.head?.any _ = sliced
  generalize t.simpleName = name
  constructor
  · intro h
    rcases ite_eq_iff.mp h with ⟨hbox, ⟨⟩⟩ | ⟨-, h⟩
    · obtain ⟨hname, hsliced⟩ := Bool.and_eq_true_iff.mp hbox
      exact Or.inr ⟨eq_of_beq hname, rfl, hsliced⟩
    iterate 3
      rcases ite_eq_iff.mp h with ⟨hname, ⟨⟩⟩ | ⟨-, h⟩
      · exact Or.inl (List.contains_iff_mem.mp hname)
    cases h
  · rintro (h | ⟨rfl, rfl, rfl⟩)
    · revert name sliced
      cases kind <;> decide
    · rfl

end AllowLists

/-! ## Rules -/

/-- The rules of classification. -/
inductive Rule where
  | adapter
  | primitive
  | knownType
  | fixture
  | enumeration
  | sealed
  | collection
  deriving DecidableEq, Repr

/-- The declaration that a case wraps, if that is a marked one. -/
def CaseDeclaration.wrapped? (host : Host) (c : CaseDeclaration) : Option TypeDeclaration :=
  match c.shape with
  | .wrapping inner => wrappedFixture? host inner
  | _ => none

/-- Whether an entry is what becomes of a case: a singleton, a fixture with the factory of the
marked declaration that the case wraps, or neither. -/
def CaseDeclaration.Becomes (host : Host) (naming : Naming) (c : CaseDeclaration)
    (entry : SealedEntry) : Prop :=
  (c.shape = .unit ∧ entry = ⟨c.name, true, false, none⟩) ∨
  (∃ inner d unit, c.Wraps host inner d ∧ host.unit? d.unit = some unit ∧
    entry = ⟨c.name, false, true, some (naming.factoryFor unit d)⟩) ∨
  (c.shape ≠ .unit ∧ (∀ inner d, ¬ c.Wraps host inner d) ∧ entry = ⟨c.name, false, false, none⟩)

/-- Whether the unit of a declaration is not known to the host, and the error that says so. -/
def TypeDeclaration.IsWithoutUnit (host : Host) (d : TypeDeclaration) (e : FixtureError) : Prop :=
  host.unit? d.unit = none ∧ e = .declarationWithoutUnit d.qualifiedName d.unit

namespace Rule

/-- The place of a rule in the order of the rules. -/
def place : Rule → Nat
  | adapter => 0
  | primitive => 1
  | knownType => 2
  | fixture => 3
  | enumeration => 4
  | sealed => 5
  | collection => 6

/-- Whether a rule applies to a type, whatever the other rules say. -/
def Applies (host : Host) (adapters : AdapterRegistry) (t : TypeRef) : Rule → Prop
  | adapter => adapters.contains t = true
  | primitive => ∃ kind, Primitive.of? t = some kind
  | knownType => ∃ kind, KnownType.of? t = some kind
  | fixture => ∃ d, host.resolve t = some d ∧ d.hasMarker .fixture = true
  | enumeration => ∃ d, host.resolve t = some d ∧ d.kind = .enumeration
  | sealed => ∃ d, host.resolve t = some d ∧ d.kind = .sealed
  | collection => ∃ kind, Collection.of? t = some kind

/-- What a rule makes of a field.  The first three rules and the last one keep its type; the others
write it with the qualified name of the declaration that it refers to. -/
inductive Gives (host : Host) (naming : Naming) (field : Field) : Rule → Parameter → Prop where
  | adapter : Gives host naming field .adapter ⟨field.name, field.type, .adapterSupplied⟩
  | primitive {kind : Primitive} (h : Primitive.of? field.type = some kind) :
      Gives host naming field .primitive ⟨field.name, field.type, .primitive kind⟩
  | knownType {kind : KnownType} (h : KnownType.of? field.type = some kind) :
      Gives host naming field .knownType ⟨field.name, field.type, .knownType kind⟩
  | fixture {d : TypeDeclaration} {unit : SourceUnit} (hd : host.resolve field.type = some d)
      (hunit : host.unit? d.unit = some unit) :
      Gives host naming field .fixture
        ⟨field.name, ⟨d.qualifiedName, field.type.args, field.type.nullable⟩,
          .fixture (naming.factoryFor unit d)⟩
  | enumeration {d : TypeDeclaration} (hd : host.resolve field.type = some d) :
      Gives host naming field .enumeration
        ⟨field.name, ⟨d.qualifiedName, field.type.args, field.type.nullable⟩,
          .enumeration ((host.cases d).map (·.name))⟩
  | sealed {d : TypeDeclaration} {entries : List SealedEntry}
      (hd : host.resolve field.type = some d)
      (hentries : List.Forall₂ (CaseDeclaration.Becomes host naming) (host.cases d) entries) :
      Gives host naming field .sealed
        ⟨field.name, ⟨d.qualifiedName, field.type.args, field.type.nullable⟩, .sealed entries⟩
  | collection {kind : Collection} (h : Collection.of? field.type = some kind) :
      Gives host naming field .collection
        ⟨field.name, field.type, .collection kind field.type.args⟩

/-- The marked declarations that a rule refers to, in the order in which it does so. -/
def references (host : Host) (t : TypeRef) : Rule → List TypeDeclaration
  | fixture => (host.resolve t).toList
  | sealed => ((host.resolve t).toList.flatMap host.cases).filterMap (·.wrapped? host)
  | _ => []

/-- The rule that is chosen is the first one that applies. -/
structure Chosen (host : Host) (adapters : AdapterRegistry) (t : TypeRef) (rule : Rule) : Prop where
  applies : rule.Applies host adapters t
  first : ∀ earlier : Rule, earlier.place < rule.place → ¬ earlier.Applies host adapters t

variable {host : Host} {adapters : AdapterRegistry} {t : TypeRef}

theorem exists_chosen (h : ∃ rule : Rule, rule.Applies host adapters t) :
    ∃ rule, Chosen host adapters t rule := by
  obtain ⟨rule, hrule, hfirst⟩ :=
    (measure place).wf.has_min {rule | rule.Applies host adapters t} h
  exact ⟨rule, hrule, fun earlier hearlier happlies => hfirst earlier happlies hearlier⟩

theorem place_injective : Function.Injective place := by
  intro a b h
  cases a <;> cases b <;> first | rfl | exact absurd h (by decide)

theorem Chosen.unique {a b : Rule} (ha : Chosen host adapters t a) (hb : Chosen host adapters t b) :
    a = b := by
  rcases Nat.lt_trichotomy a.place b.place with h | h | h
  · exact absurd ha.applies (hb.first a h)
  · exact place_injective h
  · exact absurd hb.applies (ha.first b h)

end Rule

/-! ## Cases and their declarations -/

section Cases

variable {host : Host} {naming : Naming} {e : FixtureError}

theorem factoryOf_eq_error_iff {d : TypeDeclaration} :
    factoryOf host naming d = .error e ↔ d.IsWithoutUnit host e := by
  rw [factoryOf, TypeDeclaration.IsWithoutUnit]
  cases host.unit? d.unit with
  | none => simp [eq_comm]
  | some unit => simp

/-- A case is classified as what becomes of it. -/
theorem sealedEntry_eq_ok_iff {c : CaseDeclaration} {entry : SealedEntry} :
    sealedEntry host naming c = .ok entry ↔ c.Becomes host naming entry := by
  constructor
  · intro h
    rcases sealedEntry_cases h with hunit | ⟨inner, d, ref, hwraps, href, hentry⟩ | hplain
    · exact Or.inl hunit
    · obtain ⟨unit, hunit, rfl⟩ := factoryOf_eq_ok_iff.mp href
      exact Or.inr (Or.inl ⟨inner, d, unit, hwraps, hunit, hentry⟩)
    · exact Or.inr (Or.inr hplain)
  · rintro (⟨hshape, rfl⟩ | ⟨inner, d, unit, hwraps, hunit, rfl⟩ | ⟨hshape, hplain, rfl⟩)
    · rw [sealedEntry, hshape]
    · have hwrapped := wrappedFixture?_eq_some_iff.mpr ⟨hwraps.resolve, hwraps.marker⟩
      have href : factoryOf host naming d = _ := factoryOf_eq_ok_iff.mpr ⟨unit, hunit, rfl⟩
      simp only [sealedEntry, hwraps.shape, hwrapped, href]
      rfl
    · rw [sealedEntry]
      split
      · exact absurd ‹_› hshape
      · rfl
      · rename_i inner hinner
        rcases hwrapped : wrappedFixture? host inner with _ | d
        · rfl
        · obtain ⟨hresolve, hmarker⟩ := wrappedFixture?_eq_some_iff.mp hwrapped
          exact absurd ⟨hinner, hresolve, hmarker⟩ (hplain inner d)

/-- A case fails if it wraps a declaration whose unit is not known. -/
theorem sealedEntry_eq_error_iff {c : CaseDeclaration} :
    sealedEntry host naming c = .error e ↔
      ∃ d, c.wrapped? host = some d ∧ d.IsWithoutUnit host e := by
  rw [sealedEntry, CaseDeclaration.wrapped?]
  cases c.shape with
  | unit => simp
  | fields => simp
  | wrapping inner =>
      dsimp only
      rcases wrappedFixture? host inner with _ | d
      · simp
      · rw [exceptMap_eq_error_iff, factoryOf_eq_error_iff]
        simp

theorem mapM_sealedEntry_eq_ok_iff {cs : List CaseDeclaration} {entries : List SealedEntry} :
    cs.mapM (sealedEntry host naming) = .ok entries ↔
      List.Forall₂ (CaseDeclaration.Becomes host naming) cs entries := by
  simp only [mapM_eq_ok_iff, sealedEntry_eq_ok_iff]

theorem mapM_sealedEntry_eq_error_iff {cs : List CaseDeclaration} :
    cs.mapM (sealedEntry host naming) = .error e ↔
      FirstFault (TypeDeclaration.IsWithoutUnit host) (cs.filterMap (·.wrapped? host)) e := by
  rw [firstFault_filterMap_iff]
  exact mapM_eq_error_iff fun _ _ => sealedEntry_eq_error_iff

end Cases

/-! ## What a chosen rule does -/

section Classification

variable {host : Host} {adapters : AdapterRegistry} {naming : Naming} {owner : String}
  {field : Field} {rule : Rule}

/-- Whether an outcome is that of a rule: a success is what the rule gives, and an error is about
the first declaration without a unit that the rule refers to. -/
structure Rule.Explains (host : Host) (naming : Naming) (field : Field) (rule : Rule)
    (x : Except FixtureError Parameter) : Prop where
  ok_iff : ∀ p, x = .ok p ↔ rule.Gives host naming field p
  error_iff : ∀ e, x = .error e ↔
    FirstFault (TypeDeclaration.IsWithoutUnit host) (rule.references host field.type) e

/-- A rule gives a field no more than one parameter. -/
theorem Rule.Gives.unique {p q : Parameter} (hp : rule.Gives host naming field p)
    (hq : rule.Gives host naming field q) : p = q := by
  cases hp with
  | adapter => cases hq; rfl
  | primitive hkind =>
      cases hq with
      | primitive hkind' => cases hkind.symm.trans hkind'; rfl
  | knownType hkind =>
      cases hq with
      | knownType hkind' => cases hkind.symm.trans hkind'; rfl
  | fixture hd hunit =>
      cases hq with
      | fixture hd' hunit' =>
          cases hd.symm.trans hd'
          cases hunit.symm.trans hunit'
          rfl
  | enumeration hd =>
      cases hq with
      | enumeration hd' => cases hd.symm.trans hd'; rfl
  | sealed hd hentries =>
      cases hq with
      | sealed hd' hentries' =>
          cases hd.symm.trans hd'
          cases (mapM_sealedEntry_eq_ok_iff.mpr hentries).symm.trans
            (mapM_sealedEntry_eq_ok_iff.mpr hentries')
          rfl
  | collection hkind =>
      cases hq with
      | collection hkind' => cases hkind.symm.trans hkind'; rfl

theorem Rule.Explains.of_ok {p : Parameter} (hp : rule.Gives host naming field p)
    (hfault : ∀ e, ¬ FirstFault (TypeDeclaration.IsWithoutUnit host)
      (rule.references host field.type) e) :
    rule.Explains host naming field (.ok p) where
  ok_iff _ := ⟨fun h => Except.ok.inj h ▸ hp, fun hq => congrArg _ (hp.unique hq)⟩
  error_iff e := iff_of_false nofun (hfault e)

theorem Rule.Explains.of_error {e : FixtureError}
    (he : FirstFault (TypeDeclaration.IsWithoutUnit host) (rule.references host field.type) e)
    (hnone : ∀ p, ¬ rule.Gives host naming field p) :
    rule.Explains host naming field (.error e) where
  ok_iff q := iff_of_false nofun (hnone q)
  error_iff e' := by
    refine ⟨fun h => Except.error.inj h ▸ he, fun he' => congrArg _ (he.unique ?_ he')⟩
    rintro d _ _ ⟨-, rfl⟩ ⟨-, rfl⟩
    rfl

theorem none_of_forall_ne {α : Type} {x : Option α} (h : ¬ ∃ a, x = some a) : x = none :=
  Option.eq_none_iff_forall_ne_some.mpr fun a ha => h ⟨a, ha⟩

theorem classify_eq_classifyDeclared
    (hadapter : ¬ Rule.adapter.Applies host adapters field.type)
    (hprimitive : ¬ Rule.primitive.Applies host adapters field.type)
    (hknown : ¬ Rule.knownType.Applies host adapters field.type) :
    classify host adapters naming owner field = classifyDeclared host naming owner field := by
  have hcontains : ¬ adapters.contains field.type = true := hadapter
  rw [classify, if_neg hcontains, none_of_forall_ne hprimitive, none_of_forall_ne hknown]

/-- Where no declaration decides, the last rule does. -/
theorem classifyDeclared_eq_classifyCollection
    (hfixture : ¬ Rule.fixture.Applies host adapters field.type)
    (henumeration : ¬ Rule.enumeration.Applies host adapters field.type)
    (hsealed : ¬ Rule.sealed.Applies host adapters field.type) :
    classifyDeclared host naming owner field = classifyCollection owner field := by
  rw [classifyDeclared]
  rcases hd : host.resolve field.type with _ | d
  · rfl
  · have hmarker : ¬ d.hasMarker .fixture = true := fun h => hfixture ⟨d, hd, h⟩
    dsimp only
    rw [declaredKind?, if_neg hmarker]
    cases hkind : d.kind with
    | enumeration => exact absurd ⟨d, hd, hkind⟩ henumeration
    | sealed => exact absurd ⟨d, hd, hkind⟩ hsealed
    | _ => rfl

/-- What a field of the type of a marked declaration becomes. -/
theorem explains_fixture {d : TypeDeclaration} (hd : host.resolve field.type = some d)
    (hmarker : d.hasMarker .fixture = true) :
    Rule.fixture.Explains host naming field (classifyDeclared host naming owner field) := by
  have hreferences : Rule.fixture.references host field.type = [d] := by
    rw [Rule.references, hd, Option.toList_some]
  simp only [classifyDeclared, hd, declaredKind?, if_pos hmarker]
  rcases href : factoryOf host naming d with e | ref
  · have hunit := factoryOf_eq_error_iff.mp href
    refine .of_error (hreferences ▸ .head hunit) fun p hp => ?_
    cases hp with
    | fixture hd' hunit' =>
        cases hd.symm.trans hd'
        cases hunit.1.symm.trans hunit'
  · obtain ⟨unit, hunit, rfl⟩ := factoryOf_eq_ok_iff.mp href
    refine .of_ok (.fixture hd hunit) fun e he => ?_
    rw [hreferences, firstFault_singleton_iff] at he
    cases hunit.symm.trans he.1

theorem explains_enumeration {d : TypeDeclaration} (hd : host.resolve field.type = some d)
    (hmarker : ¬ d.hasMarker .fixture = true) (hkind : d.kind = .enumeration) :
    Rule.enumeration.Explains host naming field (classifyDeclared host naming owner field) := by
  simp only [classifyDeclared, hd, declaredKind?, if_neg hmarker, hkind]
  exact .of_ok (.enumeration hd) fun _ => not_firstFault_nil

/-- What a field of the type of an enumeration with data becomes. -/
theorem explains_sealed {d : TypeDeclaration} (hd : host.resolve field.type = some d)
    (hmarker : ¬ d.hasMarker .fixture = true) (hkind : d.kind = .sealed) :
    Rule.sealed.Explains host naming field (classifyDeclared host naming owner field) := by
  have hreferences : Rule.sealed.references host field.type =
      (host.cases d).filterMap (·.wrapped? host) := by
    rw [Rule.references, hd, Option.toList_some, List.flatMap_singleton]
  have herror (e : FixtureError) :
      (host.cases d).mapM (sealedEntry host naming) = .error e ↔
        FirstFault (TypeDeclaration.IsWithoutUnit host)
          (Rule.sealed.references host field.type) e :=
    hreferences ▸ mapM_sealedEntry_eq_error_iff
  simp only [classifyDeclared, hd, declaredKind?, if_neg hmarker, hkind]
  rcases hentries : (host.cases d).mapM (sealedEntry host naming) with e | entries
  · refine .of_error ((herror e).mp hentries) fun p hp => ?_
    cases hp with
    | sealed hd' hentries' =>
        cases hd.symm.trans hd'
        cases hentries.symm.trans (mapM_sealedEntry_eq_ok_iff.mpr hentries')
  · refine .of_ok (.sealed hd (mapM_sealedEntry_eq_ok_iff.mp hentries)) fun e he => ?_
    cases hentries.symm.trans ((herror e).mpr he)

theorem explains_collection {kind : Collection} (hkind : Collection.of? field.type = some kind) :
    Rule.collection.Explains host naming field (classifyCollection owner field) := by
  rw [classifyCollection, hkind]
  exact .of_ok (.collection hkind) fun _ => not_firstFault_nil

/-- **What the classification does** is what the chosen rule says. -/
theorem classify_of_chosen (h : Rule.Chosen host adapters field.type rule) :
    rule.Explains host naming field (classify host adapters naming owner field) := by
  have hearlier (earlier : Rule) (hplace : earlier.place < rule.place) :
      ¬ earlier.Applies host adapters field.type := h.first earlier hplace
  -- The rules are gone through in their order, so that each finds the earlier ones out of the way.
  cases rule with
  | adapter =>
      have hcontains : adapters.contains field.type = true := h.applies
      rw [classify, if_pos hcontains]
      exact .of_ok .adapter fun _ => not_firstFault_nil
  | primitive =>
      obtain ⟨kind, hkind⟩ := h.applies
      have hcontains : ¬ adapters.contains field.type = true := hearlier .adapter (by decide)
      rw [classify, if_neg hcontains, hkind]
      exact .of_ok (.primitive hkind) fun _ => not_firstFault_nil
  | knownType =>
      obtain ⟨kind, hkind⟩ := h.applies
      have hcontains : ¬ adapters.contains field.type = true := hearlier .adapter (by decide)
      rw [classify, if_neg hcontains, none_of_forall_ne (hearlier .primitive (by decide)), hkind]
      exact .of_ok (.knownType hkind) fun _ => not_firstFault_nil
  | fixture =>
      obtain ⟨d, hd, hmarker⟩ := h.applies
      rw [classify_eq_classifyDeclared (hearlier .adapter (by decide))
        (hearlier .primitive (by decide)) (hearlier .knownType (by decide))]
      exact explains_fixture hd hmarker
  | enumeration =>
      obtain ⟨d, hd, hkind⟩ := h.applies
      rw [classify_eq_classifyDeclared (hearlier .adapter (by decide))
        (hearlier .primitive (by decide)) (hearlier .knownType (by decide))]
      exact explains_enumeration hd
        (fun hmarker => hearlier .fixture (by decide) ⟨d, hd, hmarker⟩) hkind
  | sealed =>
      obtain ⟨d, hd, hkind⟩ := h.applies
      rw [classify_eq_classifyDeclared (hearlier .adapter (by decide))
        (hearlier .primitive (by decide)) (hearlier .knownType (by decide))]
      exact explains_sealed hd
        (fun hmarker => hearlier .fixture (by decide) ⟨d, hd, hmarker⟩) hkind
  | collection =>
      obtain ⟨kind, hkind⟩ := h.applies
      rw [classify_eq_classifyDeclared (hearlier .adapter (by decide))
        (hearlier .primitive (by decide)) (hearlier .knownType (by decide)),
        classifyDeclared_eq_classifyCollection (hearlier .fixture (by decide))
          (hearlier .enumeration (by decide)) (hearlier .sealed (by decide))]
      exact explains_collection hkind

theorem classify_of_none (h : ∀ rule : Rule, ¬ rule.Applies host adapters field.type) :
    classify host adapters naming owner field =
      .error (.unsupportedType field.type.renderRequired field.name owner) := by
  rw [classify_eq_classifyDeclared (h .adapter) (h .primitive) (h .knownType),
    classifyDeclared_eq_classifyCollection (h .fixture) (h .enumeration) (h .sealed),
    classifyCollection, none_of_forall_ne (h .collection)]

theorem Rule.Gives.keeps {p : Parameter} (h : rule.Gives host naming field p) :
    p.name = field.name ∧ p.type.nullable = field.type.nullable ∧
      p.type.args = field.type.args := by
  cases h <;> exact ⟨rfl, rfl, rfl⟩

theorem classify_eq_ok_iff_gives {p : Parameter} :
    classify host adapters naming owner field = .ok p ↔
      ∃ rule : Rule, rule.Chosen host adapters field.type ∧ rule.Gives host naming field p := by
  constructor
  · intro h
    by_cases hany : ∃ rule : Rule, rule.Applies host adapters field.type
    · obtain ⟨rule, hchosen⟩ := Rule.exists_chosen hany
      exact ⟨rule, hchosen, ((classify_of_chosen hchosen).ok_iff p).mp h⟩
    · cases h.symm.trans (classify_of_none fun rule hrule => hany ⟨rule, hrule⟩)
  · rintro ⟨rule, hchosen, hp⟩
    exact ((classify_of_chosen hchosen).ok_iff p).mpr hp

theorem classify_eq_error_iff {e : FixtureError} :
    classify host adapters naming owner field = .error e ↔
      ((∀ rule : Rule, ¬ rule.Applies host adapters field.type) ∧
        e = .unsupportedType field.type.renderRequired field.name owner) ∨
      ∃ rule : Rule, rule.Chosen host adapters field.type ∧
        FirstFault (TypeDeclaration.IsWithoutUnit host) (rule.references host field.type) e := by
  constructor
  · intro h
    by_cases hany : ∃ rule : Rule, rule.Applies host adapters field.type
    · obtain ⟨rule, hchosen⟩ := Rule.exists_chosen hany
      exact Or.inr ⟨rule, hchosen, ((classify_of_chosen hchosen).error_iff e).mp h⟩
    · have hnone : ∀ rule : Rule, ¬ rule.Applies host adapters field.type :=
        fun rule hrule => hany ⟨rule, hrule⟩
      exact Or.inl ⟨hnone, Except.error.inj (h.symm.trans (classify_of_none hnone))⟩
  · rintro (⟨hnone, rfl⟩ | ⟨rule, hchosen, he⟩)
    · exact classify_of_none hnone
    · exact ((classify_of_chosen hchosen).error_iff e).mpr he

theorem exists_message_of_firstFault {ds : List TypeDeclaration} {e : FixtureError}
    (h : FirstFault (TypeDeclaration.IsWithoutUnit host) ds e) :
    ∃ message, e = .internal message := by
  induction h with
  | head h => exact ⟨_, h.2⟩
  | tail _ _ ih => exact ih

theorem exists_firstFault_unit_iff {ds : List TypeDeclaration} :
    (∃ e, FirstFault (TypeDeclaration.IsWithoutUnit host) ds e) ↔
      ∃ d ∈ ds, host.unit? d.unit = none := by
  simp [exists_firstFault_iff, TypeDeclaration.IsWithoutUnit]

/-- **The classification of a field.**  It succeeds with what the first rule that applies gives, and
so keeps the name of the field, its option layer and its arguments.  Otherwise no rule applies, and
the type is not supported, or the chosen rule refers to a marked declaration whose unit is not known
to the host, and the error is an internal one, about the first such declaration.

When a rule applies and what it gives is said for each rule apart from the others.  The order of the
tests enters in one place: the chosen rule is the first of those that apply. -/
theorem classify_outcomes (host : Host) (adapters : AdapterRegistry) (naming : Naming)
    (owner : String) (field : Field) :
    (∀ p, classify host adapters naming owner field = .ok p ↔
      ∃ rule : Rule, rule.Chosen host adapters field.type ∧ rule.Gives host naming field p) ∧
    (∀ p, classify host adapters naming owner field = .ok p →
      p.name = field.name ∧ p.type.nullable = field.type.nullable ∧
        p.type.args = field.type.args) ∧
    (∀ e, classify host adapters naming owner field = .error e ↔
      ((∀ rule : Rule, ¬ rule.Applies host adapters field.type) ∧
        e = .unsupportedType field.type.renderRequired field.name owner) ∨
      ∃ rule : Rule, rule.Chosen host adapters field.type ∧
        FirstFault (TypeDeclaration.IsWithoutUnit host) (rule.references host field.type) e) ∧
    ((∃ type name fixture,
        classify host adapters naming owner field = .error (.unsupportedType type name fixture)) ↔
      ∀ rule : Rule, ¬ rule.Applies host adapters field.type) ∧
    ((∃ message, classify host adapters naming owner field = .error (.internal message)) ↔
      ∃ rule : Rule, rule.Chosen host adapters field.type ∧
        ∃ d ∈ rule.references host field.type, host.unit? d.unit = none) := by
  refine ⟨fun p => classify_eq_ok_iff_gives, fun p h => ?_, fun e => classify_eq_error_iff,
    ⟨?_, fun h => ⟨_, _, _, classify_of_none h⟩⟩, ⟨?_, ?_⟩⟩
  · obtain ⟨rule, -, hp⟩ := classify_eq_ok_iff_gives.mp h
    exact hp.keeps
  · rintro ⟨type, name, fixture, h⟩
    rcases classify_eq_error_iff.mp h with ⟨hnone, -⟩ | ⟨rule, -, he⟩
    · exact hnone
    · obtain ⟨message, hmessage⟩ := exists_message_of_firstFault he
      cases hmessage
  · rintro ⟨message, h⟩
    rcases classify_eq_error_iff.mp h with ⟨-, he⟩ | ⟨rule, hchosen, he⟩
    · cases he
    · exact ⟨rule, hchosen, exists_firstFault_unit_iff.mp ⟨_, he⟩⟩
  · rintro ⟨rule, hchosen, hunit⟩
    obtain ⟨e, he⟩ := exists_firstFault_unit_iff.mpr hunit
    obtain ⟨message, rfl⟩ := exists_message_of_firstFault he
    exact ⟨message, classify_eq_error_iff.mpr (Or.inr ⟨rule, hchosen, he⟩)⟩

end Classification

/-- A marked record. -/
def item : TypeDeclaration :=
  ⟨0, "crate::Item", "Item", [], .record, [.fixture], ⟨"src/lib.rs", 1, 1⟩⟩

/-- An enumeration with the name of a collection. -/
def itemVec : TypeDeclaration :=
  ⟨0, "crate::Vec", "Vec", [], .sealed, [], ⟨"src/lib.rs", 2, 1⟩⟩

/-- A library with both, of which the enumeration wraps the record. -/
def shelves : Host where
  units := [⟨0, "src/lib.rs", "lib", "crate"⟩]
  markedFunctions _ := []
  markedTypes _ := [item]
  resolve t := [item, itemVec].find? fun d => d.qualifiedName == t.path
  fields _ := []
  cases _ := [⟨"Empty", .unit⟩, ⟨"Filled", .wrapping (.named "crate::Item")⟩]

/-- A field of the type of the enumeration is classified by its declaration, though the rule for
collections applies to it too. -/
theorem classify_outcomes_shelves :
    let field : Field := ⟨"items", ⟨"crate::Vec", [.named "u8"], true⟩⟩
    let p : Parameter := ⟨"items", ⟨"crate::Vec", [.named "u8"], true⟩,
      .sealed [⟨"Empty", true, false, none⟩,
        ⟨"Filled", false, true, some ⟨"crate::fixtures::lib_fixture", "create_item"⟩⟩]⟩
    Rule.Chosen shelves .empty field.type .sealed ∧
    Rule.collection.Applies shelves .empty field.type ∧
    classify shelves .empty ⟨Naming.defaultRoot⟩ "crate::Shelf" field = .ok p ∧
    p.name = field.name ∧ p.type.nullable = field.type.nullable ∧
      p.type.args = field.type.args := by
  intro field p
  obtain ⟨hok, hkeeps, -⟩ :=
    classify_outcomes shelves .empty ⟨Naming.defaultRoot⟩ "crate::Shelf" field
  have hvec : shelves.resolve field.type = some itemVec := by decide
  have hitem : shelves.resolve (.named "crate::Item") = some item := by decide
  have hprimitive : Primitive.of? field.type = none := by decide
  have hknown : KnownType.of? field.type = none := by decide
  have hchosen : Rule.Chosen shelves .empty field.type .sealed := by
    refine ⟨⟨itemVec, hvec, rfl⟩, fun earlier hplace => ?_⟩
    cases earlier with
    | adapter => exact Bool.false_ne_true
    | primitive => exact fun ⟨kind, hkind⟩ => absurd (hprimitive.symm.trans hkind) nofun
    | knownType => exact fun ⟨kind, hkind⟩ => absurd (hknown.symm.trans hkind) nofun
    | fixture =>
        rintro ⟨d, hd, hmarker⟩
        cases hvec.symm.trans hd
        cases hmarker
    | enumeration =>
        rintro ⟨d, hd, hkind⟩
        cases hvec.symm.trans hd
        cases hkind
    | sealed => exact absurd hplace (by decide)
    | collection => exact absurd hplace (by decide)
  have hgives : Rule.sealed.Gives shelves ⟨Naming.defaultRoot⟩ field p := by
    refine .sealed hvec (.cons (Or.inl ⟨rfl, rfl⟩) (.cons (Or.inr (Or.inl ?_)) .nil))
    refine ⟨_, item, ⟨0, "src/lib.rs", "lib", "crate"⟩, ⟨rfl, hitem, ?_⟩, ?_, ?_⟩ <;> decide
  have hp := (hok p).mpr ⟨.sealed, hchosen, hgives⟩
  exact ⟨hchosen, ⟨.list, by decide⟩, hp, hkeeps p hp⟩

end FixtureFactory
