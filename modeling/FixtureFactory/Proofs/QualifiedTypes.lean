import FixtureFactory.Proofs.BuiltUnits
import FixtureFactory.Proofs.WrappedCases

/-!
# Types by their qualified names

Generated units stand in modules of their own, so a declared type has to be written there with its
qualified name.  The rules that go by a declaration see to it: they have the declaration at hand and
write its name in the place of what the field says.

The rule for adapters comes before them and asks no host, so it keeps the type as the field writes
it.  Both the registry and a host that is filled by hand look a bare name up among the simple names
they know; where the registry answers first, the bare name goes into the generated unit.  An index
of sources answers to qualified names only, so there the types of fields are qualified before any
rule looks at them.

* `type_of_classify`: how the type of a parameter is written.
* `path_eq_qualifiedName_iff`: when it is written with the qualified name.
* `path_ne_qualifiedName_of_supplied`: a field whose parameter keeps the bare name.
-/

namespace FixtureFactory

open Build

/-- The kind is one of those whose types are declared in the sources or supplied by an adapter. -/
def ParameterKind.IsDeclaredOrSupplied : ParameterKind → Prop
  | .adapterSupplied => True
  | .fixture _ => True
  | .enumeration _ => True
  | .sealed _ => True
  | _ => False

theorem SourceIndex.qualifiedName_of_resolve {index : SourceIndex} {t : TypeRef}
    {d : TypeDeclaration} (h : index.toHost.resolve t = some d) : t.path = d.qualifiedName := by
  obtain ⟨indexed, -, hname, hd⟩ := exists_of_lastOf_eq_some h
  rw [← hname, Option.some.inj hd]

theorem TypeRef.referringTo_eq_self {t : TypeRef} {d : TypeDeclaration}
    (h : t.path = d.qualifiedName) : t.referringTo d = t := by
  cases t
  rw [referringTo, ← h]

section Classification

variable {host : Host} {adapters : AdapterRegistry} {naming : Naming} {owner : String}
  {field : Field} {p : Parameter} {d : TypeDeclaration}

/-- **How the type of a parameter is written**, if it is declared: as the field has it where an
adapter supplies it, else with the qualified name of the declaration. -/
theorem type_of_classify (hresolve : host.resolve field.type = some d)
    (hprimitive : Primitive.of? field.type = none) (hknown : KnownType.of? field.type = none)
    (h : classify host adapters naming owner field = .ok p)
    (hkind : p.kind.IsDeclaredOrSupplied) :
    p.type = if adapters.contains field.type then field.type else field.type.referringTo d := by
  rw [classify] at h
  split
  · next hsupplied =>
      rw [if_pos hsupplied] at h
      rw [← Except.ok.inj h]
  · next hsupplied =>
      rw [if_neg hsupplied] at h
      simp only [hprimitive, hknown, classifyDeclared, hresolve] at h
      rcases hdeclared : declaredKind? host naming d with e | ⟨⟨⟩ | kind⟩
      · rw [hdeclared] at h
        cases h
      · -- the declaration says nothing about its fields, so the kind is that of a collection
        rw [hdeclared] at h
        simp only [classifyCollection] at h
        cases hcollection : Collection.of? field.type with
        | none =>
            rw [hcollection] at h
            cases h
        | some kind =>
            rw [hcollection] at h
            rw [← Except.ok.inj h] at hkind
            exact hkind.elim
      · rw [hdeclared] at h
        rw [← Except.ok.inj h]
        rfl

/-- **When a declared type is written with its qualified name.**  A field has a type that refers to
a declaration and is no allow-listed one, and it is classified as supplied by an adapter, as a
fixture or as an enumeration of either kind.  The path of the parameter is the qualified name of the
declaration exactly if no adapter answers for the type or the field has that name already, and then
the generated argument is of the type with that name in the place of the written one.  Over an index
of sources this is always so. -/
theorem path_eq_qualifiedName_iff (hresolve : host.resolve field.type = some d)
    (hprimitive : Primitive.of? field.type = none) (hknown : KnownType.of? field.type = none)
    (hclassify : classify host adapters naming owner field = .ok p)
    (hkind : p.kind.IsDeclaredOrSupplied) :
    (p.type.path = d.qualifiedName ↔
      (adapters.contains field.type = true → field.type.path = d.qualifiedName)) ∧
    (p.type.path = d.qualifiedName → p.type = field.type.referringTo d ∧
      ∀ (c : BuildContext) (argument : ParameterSpec), Yields (c.parameterSpec p) argument →
        argument.type = (field.type.referringTo d).render) ∧
    ∀ index : SourceIndex, host = index.toHost → p.type.path = d.qualifiedName := by
  have htype := type_of_classify hresolve hprimitive hknown hclassify hkind
  have hiff : p.type.path = d.qualifiedName ↔
      (adapters.contains field.type = true → field.type.path = d.qualifiedName) := by
    rw [htype]
    split
    · next hsupplied => exact ⟨fun h _ => h, fun h => h hsupplied⟩
    · next hsupplied => exact ⟨fun _ h => absurd h hsupplied, fun _ => rfl⟩
  refine ⟨hiff, fun hpath => ?_, ?_⟩
  · have hreferring : p.type = field.type.referringTo d := by
      rw [htype]
      split
      · next hsupplied => exact (TypeRef.referringTo_eq_self (hiff.mp hpath hsupplied)).symm
      · rfl
    refine ⟨hreferring, fun c argument hargument => ?_⟩
    rw [← hreferring]
    exact (c.buildsTo_of_yields_parameterSpec hargument).2
  · rintro index rfl
    exact hiff.mpr fun _ => SourceIndex.qualifiedName_of_resolve hresolve

end Classification

/-- A record and an enumeration of one module. -/
def sales : Catalogue :=
  let c := (Catalogue.empty.addUnit "src/model.rs" "crate::model").2
  let c := (c.addRecord 0 "Money" [] []).2
  (c.addEnum 0 "Currency" ["Euro", "Yen"]).2

/-- The declaration of the record. -/
def moneyRecord : TypeDeclaration :=
  ⟨0, "crate::model::Money", "Money", [], .record, [], ⟨"src/model.rs", 1, 1⟩⟩

/-- The declaration of the enumeration. -/
def currencyEnum : TypeDeclaration :=
  ⟨0, "crate::model::Currency", "Currency", [], .enumeration, [], ⟨"src/model.rs", 2, 1⟩⟩

/-- An adapter that supplies the record. -/
def moneySupply : AdapterRegistry :=
  AdapterRegistry.empty.insert
    ⟨"crate::model", "no_money", moneyRecord.asType, ⟨"src/model.rs", 9, 4⟩⟩

/-- What fields of a sale are classified as. -/
def classifySale (field : Field) : Except FixtureError Parameter :=
  classify sales.toHost moneySupply ⟨Naming.defaultRoot⟩ "crate::model::Sale" field

/-- An enumeration that a field names by its simple name and a record that another field names by
its qualified name are both written with their qualified names, though an adapter supplies the
record. -/
theorem path_eq_qualifiedName_sales :
    ∃ p q, classifySale ⟨"currency", .named "Currency"⟩ = .ok p ∧
      classifySale ⟨"price", .named "crate::model::Money"⟩ = .ok q ∧
      sales.toHost.resolve (.named "Currency") = some currencyEnum ∧
      sales.toHost.resolve (.named "crate::model::Money") = some moneyRecord ∧
      p.kind = .enumeration ["Euro", "Yen"] ∧ q.kind = .adapterSupplied ∧
      p.type.path = "crate::model::Currency" ∧ q.type.path = "crate::model::Money" := by
  have hcurrency : sales.toHost.resolve (.named "Currency") = some currencyEnum := rfl
  have hmoney : sales.toHost.resolve (.named "crate::model::Money") = some moneyRecord := rfl
  have hp : classifySale ⟨"currency", .named "Currency"⟩ =
    .ok ⟨"currency", currencyEnum.asType, .enumeration ["Euro", "Yen"]⟩ := rfl
  have hq : classifySale ⟨"price", .named "crate::model::Money"⟩ =
    .ok ⟨"price", moneyRecord.asType, .adapterSupplied⟩ := rfl
  obtain ⟨hpath, -⟩ := path_eq_qualifiedName_iff hcurrency (by decide) (by decide) hp trivial
  obtain ⟨hpath', -⟩ := path_eq_qualifiedName_iff hmoney (by decide) (by decide) hq trivial
  refine ⟨_, _, hp, hq, hcurrency, hmoney, rfl, rfl, hpath.mpr fun hsupplied => ?_,
    hpath'.mpr fun _ => rfl⟩
  exact absurd hsupplied (by decide)

/-- **The law fails where an adapter answers for a bare name.**  A field that names the record by
its simple name refers to the record, but its parameter and the argument generated for it keep the
simple name. -/
theorem path_ne_qualifiedName_of_supplied :
    ∃ q, sales.toHost.resolve (.named "Money") = some moneyRecord ∧
      Primitive.of? (.named "Money") = none ∧ KnownType.of? (.named "Money") = none ∧
      classifySale ⟨"price", .named "Money"⟩ = .ok q ∧ q.kind.IsDeclaredOrSupplied ∧
      q.type.path = "Money" ∧ q.type.path ≠ moneyRecord.qualifiedName ∧
      Yields (BuildContext.parameterSpec ⟨⟨Naming.defaultRoot⟩, moneySupply, false⟩ q)
        ⟨"price", "Money", "crate::model::no_money()"⟩ := by
  refine ⟨⟨"price", .named "Money", .adapterSupplied⟩, rfl, by decide, by decide, rfl, trivial, rfl,
    by decide, ⟨fun _ => 0, 0⟩, ⟨fun _ => 0, 0⟩, rfl⟩

end FixtureFactory
