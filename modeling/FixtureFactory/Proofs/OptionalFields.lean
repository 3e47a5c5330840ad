import FixtureFactory.Proofs.FixedValues
import FixtureFactory.Proofs.OptionLayer
import FixtureFactory.Proofs.References

/-!
# Optional fields

Making a field optional changes nothing about it but the option layer, as long as no adapter
supplies an option: it is classified by the same rule, fails with the same error, and its default
value is the former one in `Some`.  These are statements about two runs, one on the field and one on
its optional counterpart.

The rules for declared types ask the host which declaration the type of a field refers to, and the
answer is the host's own.  So the law is one of hosts that look through options
(`Host.SeesThroughOptions`).  Catalogues and indexes do, as both look types up by path; a host that
answers something else for an option breaks the law, and so does a field whose option is handed over
as a path of its own (`not_optional_like_plain`).

* `mapField_optional`: each of the seven rules looks through the option.
* `DefaultValue.fixedDefault_optional`: so does each way to make a value.
* `mapFields_withOptionalField`: the fields of a declaration one of which becomes optional.
* `optional_like_plain` puts the three together.
-/

namespace FixtureFactory

/-- The field, as an option. -/
def Field.optional (f : Field) : Field := { f with type := f.type.optional }

/-- The parameter, as an option. -/
def Parameter.optional (p : Parameter) : Parameter := { p with type := p.type.optional }

/-- The declaration that a type refers to does not depend on its option layer. -/
def Host.SeesThroughOptions (host : Host) : Prop :=
  ∀ t : TypeRef, host.resolve t.optional = host.resolve t

theorem Host.Supplied.seesThroughOptions {host : Host} (h : host.Supplied) :
    host.SeesThroughOptions := by
  cases h with
  | catalogue c => exact fun _ => rfl
  | index index => exact fun _ => rfl

/-! ## Classification -/

section Classification

variable {host : Host} {as : List Adapter} {naming : Naming} {owner : String} {field : Field}

theorem classifyCollection_optional (owner : String) (field : Field) :
    classifyCollection owner field.optional =
      (classifyCollection owner field).map Parameter.optional := by
  have hkind : Collection.of? field.optional.type = Collection.of? field.type := rfl
  rw [classifyCollection, classifyCollection, hkind]
  cases Collection.of? field.type <;> rfl

/-- Rules 4 to 7 look through the option. -/
theorem classifyDeclared_optional (hhost : host.SeesThroughOptions) (naming : Naming)
    (owner : String) (field : Field) :
    classifyDeclared host naming owner field.optional =
      (classifyDeclared host naming owner field).map Parameter.optional := by
  rw [classifyDeclared, classifyDeclared]
  have hresolve : host.resolve field.optional.type = host.resolve field.type := hhost field.type
  rw [hresolve]
  cases host.resolve field.type with
  | none => exact classifyCollection_optional owner field
  | some d =>
      dsimp only
      rcases declaredKind? host naming d with e | ⟨⟨⟩ | kind⟩
      · rfl
      · exact classifyCollection_optional owner field
      · rfl

/-- **All rules look through the option.** -/
theorem classify_optional (hhost : host.SeesThroughOptions)
    (has : ∀ a ∈ as, IsPlainPath a.target.path ∧ a.target.nullable = false) (naming : Naming)
    (owner : String) (hfield : IsPlainPath field.type.path)
    (hrequired : field.type.nullable = false) :
    classify host (AdapterRegistry.ofList as) naming owner field.optional =
      (classify host (AdapterRegistry.ofList as) naming owner field).map Parameter.optional := by
  have hcontains : (AdapterRegistry.ofList as).contains field.optional.type =
      (AdapterRegistry.ofList as).contains field.type :=
    congrArg Option.isSome (AdapterRegistry.find?_optional has hfield hrequired)
  have hprimitive : Primitive.of? field.optional.type = Primitive.of? field.type := rfl
  have hknown : KnownType.of? field.optional.type = KnownType.of? field.type := rfl
  rw [classify, classify, hcontains, hprimitive, hknown]
  split
  · rfl
  · cases Primitive.of? field.type with
    | some kind => rfl
    | none =>
        cases KnownType.of? field.type with
        | some kind => rfl
        | none => exact classifyDeclared_optional hhost naming owner field

/-- **An optional field is classified as the field is**, and fails with the same error. -/
theorem mapField_optional (hhost : host.SeesThroughOptions)
    (has : ∀ a ∈ as, IsPlainPath a.target.path ∧ a.target.nullable = false) (naming : Naming)
    (owner : String) (hfield : IsPlainPath field.type.path)
    (hrequired : field.type.nullable = false) :
    mapField host (AdapterRegistry.ofList as) naming owner field.optional =
      (mapField host (AdapterRegistry.ofList as) naming owner field).map Parameter.optional := by
  rw [mapField, mapField, classify_optional hhost has naming owner hfield hrequired]
  cases classify host (AdapterRegistry.ofList as) naming owner field <;> rfl

/-! ## Declarations -/

/-- The host after the field at a position of a declaration has become optional. -/
def Host.withOptionalField (host : Host) (d : TypeDeclaration) (i : Nat) : Host :=
  { host with
    fields := fun e => if e = d then (host.fields d).modify i Field.optional else host.fields e }

/-- **Traversing a list with one element changed** gives the list of results with one result
changed, if the change of the element changes its result, an error excepted. -/
theorem mapM_modify {α β ε : Type} {f : α → Except ε β} {g : α → α} {h : β → β} {xs : List α}
    {i : Nat} (hf : ∀ x, xs[i]? = some x → f (g x) = (f x).map h) :
    (xs.modify i g).mapM f = (xs.mapM f).map fun ys => ys.modify i h := by
  induction xs generalizing i with
  | nil =>
      show _ = Except.ok ([].modify i h)
      rw [List.modify_nil, List.modify_nil]
      rfl
  | cons x xs ih =>
      cases i with
      | zero =>
          have hx : f (g x) = (f x).map h := hf x rfl
          rw [List.modify_zero_cons, List.mapM_cons, List.mapM_cons, hx]
          cases f x with
          | error e => rfl
          | ok y => cases xs.mapM f <;> rfl
      | succ i =>
          have hxs : (xs.modify i g).mapM f = (xs.mapM f).map fun ys => ys.modify i h := ih hf
          rw [List.modify_succ_cons, List.mapM_cons, List.mapM_cons, hxs]
          cases f x with
          | error e => rfl
          | ok y => cases xs.mapM f <;> rfl

/-- **Where one field of a declaration becomes optional**, the parameter at its position does, and
an error stays the same. -/
theorem mapFields_withOptionalField (hhost : host.SeesThroughOptions)
    (has : ∀ a ∈ as, IsPlainPath a.target.path ∧ a.target.nullable = false) (naming : Naming)
    {d : TypeDeclaration} {i : Nat} (hi : (host.fields d)[i]? = some field)
    (hfield : IsPlainPath field.type.path) (hrequired : field.type.nullable = false) :
    mapFields (host.withOptionalField d i) (AdapterRegistry.ofList as) naming d =
      (mapFields host (AdapterRegistry.ofList as) naming d).map
        fun parameters => parameters.modify i Parameter.optional := by
  have hfields : (host.withOptionalField d i).fields d =
      (host.fields d).modify i Field.optional := if_pos rfl
  -- the classification of a single field does not ask for the fields of a declaration
  have hmap : mapField (host.withOptionalField d i) (AdapterRegistry.ofList as) naming
      d.qualifiedName = mapField host (AdapterRegistry.ofList as) naming d.qualifiedName := rfl
  rw [mapFields, mapFields, hfields, hmap]
  refine mapM_modify fun x hx => ?_
  rw [← Option.some.inj (hi.symm.trans hx)]
  exact mapField_optional hhost has naming d.qualifiedName hfield hrequired

end Classification

/-! ## Default values -/

namespace DefaultValue

variable {as : List Adapter} {p : Parameter}

theorem already_of_fixedValue (has : ∀ a ∈ as, a.target.nullable = false) {v : String × Bool}
    (h : fixedValue (AdapterRegistry.ofList as) p = .ok v) : v.2 = false := by
  have s : RandomSource := ⟨fun _ => 0, 0⟩
  have hyields : Build.Yields (value false (AdapterRegistry.ofList as) p) v :=
    ⟨s, s, by rw [run_value_false, h]⟩
  rcases cases_of_yields_value hyields with ⟨-, -, halready⟩ | ⟨a, ha, rfl⟩
  · exact halready
  · obtain ⟨-, hfind⟩ := Parameter.adapter?_eq_some_iff.mp ha
    exact has a (AdapterRegistry.mem_of_find? hfind)

/-- **The value of an optional parameter** is the value of the parameter. -/
theorem value_optional (has : ∀ a ∈ as, IsPlainPath a.target.path ∧ a.target.nullable = false)
    (hpath : p.kind = .adapterSupplied → IsPlainPath p.type.path)
    (hrequired : p.type.nullable = false) (randomize : Bool) :
    value randomize (AdapterRegistry.ofList as) p.optional =
      value randomize (AdapterRegistry.ofList as) p := by
  have htype : p.type.optional.required = p.type := TypeRef.required_eq_self hrequired
  have hself : p.optional.required = p := by
    rw [Parameter.required, Parameter.optional, htype]
  have hvalue : value randomize (AdapterRegistry.ofList as) p.optional.required =
      value randomize (AdapterRegistry.ofList as) p.optional := by
    refine value_required fun hkind => ?_
    show (AdapterRegistry.ofList as).find? p.type.optional.required = _
    rw [htype]
    exact (AdapterRegistry.find?_optional has (hpath hkind) hrequired).symm
  rw [← hvalue, hself]

theorem fixedValue_optional
    (has : ∀ a ∈ as, IsPlainPath a.target.path ∧ a.target.nullable = false)
    (hpath : p.kind = .adapterSupplied → IsPlainPath p.type.path)
    (hrequired : p.type.nullable = false) :
    fixedValue (AdapterRegistry.ofList as) p.optional =
      fixedValue (AdapterRegistry.ofList as) p := by
  have s : RandomSource := ⟨fun _ => 0, 0⟩
  have hrun := congrArg (fun x : Build (String × Bool) => x.run s)
    (value_optional has hpath hrequired false)
  simp only [run_value_false] at hrun
  exact congrArg Prod.fst hrun

/-- **The default value of an optional parameter** is that of the parameter in `Some`. -/
theorem fixedDefault_optional
    (has : ∀ a ∈ as, IsPlainPath a.target.path ∧ a.target.nullable = false)
    (hpath : p.kind = .adapterSupplied → IsPlainPath p.type.path)
    (hrequired : p.type.nullable = false) :
    fixedDefault (AdapterRegistry.ofList as) p.optional =
      (fixedDefault (AdapterRegistry.ofList as) p).map fun v => "Some(" ++ v ++ ")" := by
  rw [fixedDefault, fixedDefault, fixedValue_optional has hpath hrequired]
  cases hvalue : fixedValue (AdapterRegistry.ofList as) p with
  | error e => rfl
  | ok v =>
      obtain ⟨text, already⟩ := v
      have halready : already = false := already_of_fixedValue (fun a ha => (has a ha).2) hvalue
      show Except.ok (wrap p.type.optional text already) =
        Except.ok ("Some(" ++ wrap p.type text already ++ ")")
      rw [halready, wrap_of_required hrequired, wrap_of_optional rfl]
      rfl

end DefaultValue

/-! ## Optional fields against plain ones -/

open DefaultValue in
/-- **An optional field behaves like the plain one**, where no adapter supplies an option and the
host looks through options, as both kinds of hosts do.  The field gets the same parameter but for
the option, or the same error, on its own and among the fields of its declaration; and without
randomization its default value is the plain one in `Some`, or the same error.

Neither the condition on the host nor that no adapter supplies an option can be left out.  A host
may answer something else for an option (`not_optional_like_plain`), and an adapter that supplies
the option itself answers for the optional field only. -/
theorem optional_like_plain {host : Host} (hhost : host.SeesThroughOptions) {as : List Adapter}
    (has : ∀ a ∈ as, IsPlainPath a.target.path ∧ a.target.nullable = false) (naming : Naming)
    (owner : String) {field : Field} (hfield : IsPlainPath field.type.path)
    (hrequired : field.type.nullable = false) :
    (∀ supplied : Host, supplied.Supplied → supplied.SeesThroughOptions) ∧
    mapField host (AdapterRegistry.ofList as) naming owner field.optional =
      (mapField host (AdapterRegistry.ofList as) naming owner field).map Parameter.optional ∧
    (∀ d i, (host.fields d)[i]? = some field →
      mapFields (host.withOptionalField d i) (AdapterRegistry.ofList as) naming d =
        (mapFields host (AdapterRegistry.ofList as) naming d).map
          fun parameters => parameters.modify i Parameter.optional) ∧
    ∀ p, mapField host (AdapterRegistry.ofList as) naming owner field = .ok p →
      ∀ s t, ((generate false (AdapterRegistry.ofList as) p.optional).run s).1 =
        ((generate false (AdapterRegistry.ofList as) p).run t).1.map
          fun v => "Some(" ++ v ++ ")" := by
  refine ⟨fun _ h => h.seesThroughOptions,
    mapField_optional hhost has naming owner hfield hrequired,
    fun d i hi => mapFields_withOptionalField hhost has naming hi hfield hrequired,
    fun p hp s t => ?_⟩
  have hclassify := mapError_eq_ok_iff.mp hp
  have hpath := isPlainPath_of_classify hfield hclassify
  have hplain : p.type.nullable = false := (nullable_of_classify hclassify).trans hrequired
  rw [run_generate_false, run_generate_false]
  exact fixedDefault_optional has hpath hplain

/-- A record with two amounts. -/
def invoices : Catalogue :=
  ((Catalogue.empty.addUnit "src/lib.rs" "crate").2.addFixture 0 "Invoice"
    [⟨"number", .named "u32"⟩, ⟨"total", .named "Money"⟩]).2

/-- An adapter that the field `total` finds by its simple name. -/
def money : Adapter := ⟨"crate", "money", .named "crate::Money", ⟨"src/lib.rs", 1, 1⟩⟩

/-- An optional field of an invoice finds the adapter of the plain one. -/
theorem optional_like_plain_invoice :
    let host := invoices.toHost
    let r := AdapterRegistry.ofList [money]
    let naming : Naming := ⟨Naming.defaultRoot⟩
    let field : Field := ⟨"total", .named "Money"⟩
    let s : RandomSource := ⟨fun _ => 0, 0⟩
    host.SeesThroughOptions ∧
    (∀ a ∈ [money], IsPlainPath a.target.path ∧ a.target.nullable = false) ∧
    IsPlainPath field.type.path ∧ field.type.nullable = false ∧
    mapField host r naming "crate::Invoice" field.optional =
      .ok ⟨"total", .optional (.named "Money"), .adapterSupplied⟩ ∧
    ((DefaultValue.generate false r ⟨"total", .optional (.named "Money"), .adapterSupplied⟩).run
      s).1 = .ok "Some(crate::money())" := by
  intro host r naming field s
  have hhost : host.SeesThroughOptions := (Host.Supplied.catalogue invoices).seesThroughOptions
  have hadapters : ∀ a ∈ [money], IsPlainPath a.target.path ∧ a.target.nullable = false :=
    List.forall_mem_singleton.mpr ⟨by decide, rfl⟩
  have hfield : IsPlainPath field.type.path := by decide
  obtain ⟨-, hmap, -, hdefault⟩ :=
    optional_like_plain hhost hadapters naming "crate::Invoice" hfield rfl
  have hplain : mapField host r naming "crate::Invoice" field =
      .ok ⟨"total", .named "Money", .adapterSupplied⟩ := by
    show mapField invoices.toHost (AdapterRegistry.ofList [money]) _ _
      ⟨"total", .named "Money"⟩ = _
    rfl
  refine ⟨hhost, hadapters, hfield, rfl, ?_, ?_⟩
  · rw [hmap, hplain]
    rfl
  · exact hdefault _ hplain s s

/-- The invoices as a host that has no declaration for an option. -/
def strictInvoices : Host :=
  { invoices.toHost with resolve := fun t => if t.nullable then none else invoices.resolve t }

/-- **A host has to look through options.**  Otherwise a field that refers to a fixture cannot be
made optional: no rule applies to its option.  The same happens in a catalogue to a field whose
option is not a mark on its type but a path of its own, though both are written alike. -/
theorem not_optional_like_plain :
    let r := AdapterRegistry.ofList []
    let naming : Naming := ⟨Naming.defaultRoot⟩
    let previous : Field := ⟨"previous", .named "crate::Invoice"⟩
    let count : Field := ⟨"count", .named "u32"⟩
    let written : Field := ⟨"count", .withArgs "Option" [count.type]⟩
    (IsPlainPath previous.type.path ∧ previous.type.nullable = false ∧
      mapField strictInvoices r naming "crate::Invoice" previous = .ok ⟨"previous",
        .named "crate::Invoice", .fixture ⟨"crate::fixtures::lib_fixture", "create_invoice"⟩⟩ ∧
      mapField strictInvoices r naming "crate::Invoice" previous.optional =
        .error (.unsupportedType "crate::Invoice" "previous" "crate::Invoice") ∧
      mapField strictInvoices r naming "crate::Invoice" previous.optional ≠
        (mapField strictInvoices r naming "crate::Invoice" previous).map Parameter.optional) ∧
    written.type.render = count.optional.type.render ∧
    mapField invoices.toHost r naming "crate::Invoice" count =
      .ok ⟨"count", .named "u32", .primitive .int⟩ ∧
    mapField invoices.toHost r naming "crate::Invoice" written =
      .error (.unsupportedType "Option<u32>" "count" "crate::Invoice") := by
  have hplain : mapField strictInvoices (AdapterRegistry.ofList []) ⟨Naming.defaultRoot⟩
      "crate::Invoice" ⟨"previous", .named "crate::Invoice"⟩ = .ok ⟨"previous",
        .named "crate::Invoice", .fixture ⟨"crate::fixtures::lib_fixture", "create_invoice"⟩⟩ := rfl
  have hoptional : mapField strictInvoices (AdapterRegistry.ofList []) ⟨Naming.defaultRoot⟩
      "crate::Invoice" ⟨"previous", .optional (.named "crate::Invoice")⟩ =
        .error (.unsupportedType "crate::Invoice" "previous" "crate::Invoice") := rfl
  refine ⟨⟨by decide, rfl, hplain, hoptional, fun hlaw => ?_⟩, rfl, rfl, rfl⟩
  cases hoptional.symm.trans (hlaw.trans (congrArg _ hplain))

end FixtureFactory
