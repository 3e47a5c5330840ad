import FixtureFactory.Proofs.AdapterMap
import FixtureFactory.Proofs.Failures
import FixtureFactory.Proofs.FixedValues
import FixtureFactory.Scope
import FixtureFactory.Catalogue

/-!
# Adapters whose type is called like a built-in one

The last question of a look-up goes by simple name.  It is meant for names that the host could not
resolve, but all that it sees is a name without a separator, and such a name is also what `String`
and the primitives resolve to.  So a field of a built-in type may be handed to the adapter of any
type of that simple name, whatever its module.

* `AdapterRegistry.findBySimpleName?_ofList_iff`: the last question finds the latest adapter of the
  only text of a simple name.
* `AdapterRegistry.find?_filter`: adapters of other texts can be left out of a look-up that finds
  an exact text, and of one that meets no other text of the simple name.
* `AdapterRegistry.classify_builtin` is the result.  It says which fields of a built-in type are
  supplied by an adapter, and when adapters of other types are of no account for them.
* `AdapterRegistry.classify_builtin_other_text` is a field of type `String` that gets the value of
  another type.
-/

namespace FixtureFactory

namespace TypeRef

/-! ## Built-in types -/

/-- The names of the types without arguments that every module knows. -/
def builtinNames : List String :=
  ScopeTable.universalNames.filter (· ∉ ["Vec", "Option", "Box", "Result"])

/-- `String` or a primitive type, with or without an option around it. -/
def IsBuiltin (t : TypeRef) : Prop := t.path ∈ builtinNames ∧ t.args = []

/-- The modules of the standard library that hold a built-in type or hand it on. -/
def libraryModules (name : String) : List String :=
  if name == "String" then
    ["std::string", "alloc::string", "std::prelude::v1", "std::prelude::rust_2015",
      "std::prelude::rust_2018", "std::prelude::rust_2021", "std::prelude::rust_2024"]
  else ["std::primitive", "core::primitive"]

/-- The paths of a built-in type: its name, and its paths in the standard library. -/
def builtinPaths (name : String) : List String :=
  name :: (libraryModules name).map fun module => ScopeTable.memberPath module name

/-- The texts of a built-in type: each of its paths, with and without an option around it. -/
def builtinTexts (name : String) : List String :=
  (builtinPaths name).flatMap fun path => [path, optionText true path]

theorem of_mem_builtinNames {name : String} (h : name ∈ builtinNames) :
    isQualified name = false ∧ FixtureFactory.simpleName name = name ∧ name ≠ slicePath := by
  revert name
  decide +kernel

namespace IsBuiltin

variable {t : TypeRef}

theorem isQualified_eq (ht : t.IsBuiltin) : isQualified t.path = false :=
  (of_mem_builtinNames ht.1).1

theorem simpleName_eq (ht : t.IsBuiltin) : t.simpleName = t.path :=
  (of_mem_builtinNames ht.1).2.1

theorem renderRequired_eq (ht : t.IsBuiltin) : t.renderRequired = t.path := by
  rw [renderRequired, ht.2, plainText, if_neg (mt beq_iff_eq.mp (of_mem_builtinNames ht.1).2.2)]
  rfl

theorem renderRequired_mem (ht : t.IsBuiltin) : t.renderRequired ∈ builtinTexts t.path := by
  rw [ht.renderRequired_eq]
  exact List.mem_flatMap.mpr ⟨t.path, List.mem_cons_self, List.mem_cons_self⟩

theorem render_mem (ht : t.IsBuiltin) : t.render ∈ builtinTexts t.path := by
  rw [render_eq]
  cases t.nullable with
  | false => exact ht.renderRequired_mem
  | true =>
      rw [ht.renderRequired_eq]
      exact List.mem_flatMap.mpr
        ⟨t.path, List.mem_cons_self, List.mem_cons_of_mem _ List.mem_cons_self⟩

end IsBuiltin

end TypeRef

open TypeRef

namespace Adapter

/-- The adapter supplies a type without arguments that has a simple name. -/
def IsHomonym (name : String) (a : Adapter) : Prop :=
  a.target.args = [] ∧ a.target.simpleName = name

/-- The text of the adapter is one of a built-in type. -/
def ofBuiltin (name : String) (a : Adapter) : Bool := (builtinTexts name).contains a.target.render

end Adapter

namespace AdapterRegistry

/-! ## The last question -/

/-- Some adapter has the text of a type, or its text without the option layer. -/
def RegistersText (as : List Adapter) (t : TypeRef) : Prop :=
  ∃ a ∈ as, a.target.render = t.render ∨ a.target.render = t.renderRequired

/-- All adapters of a simple name have one text, and of these `a` is the latest. -/
structure StandsAlone (as : List Adapter) (name : String) (a : Adapter) : Prop where
  exists_homonym : ∃ b ∈ as, b.IsHomonym name
  render_eq : ∀ b ∈ as, b.IsHomonym name → b.target.render = a.target.render
  latest : as.reverse.find? (fun b => b.target.render == a.target.render) = some a

section LastQuestion

variable {as : List Adapter} {name : String} {a : Adapter} {t : TypeRef}

/-- **A simple name lists one text** if that is the text of all its adapters. -/
theorem keysOf_ofList_eq_singleton_iff {key : String} :
    (ofList as).keysOf name = [key] ↔
      (∃ b ∈ as, b.IsHomonym name) ∧ ∀ b ∈ as, b.IsHomonym name → b.target.render = key := by
  constructor
  · intro h
    have hmem : ∀ {text}, text ∈ (ofList as).keysOf name ↔ text = key := by
      rw [h]
      exact List.mem_singleton
    obtain ⟨b, hb, hname, hargs, -⟩ := mem_keysOf_ofList_iff.mp (hmem.mpr rfl)
    refine ⟨⟨b, hb, hargs, hname⟩, fun b hb hhomonym => ?_⟩
    exact hmem.mp (mem_keysOf_ofList_iff.mpr ⟨b, hb, hhomonym.2, hhomonym.1, rfl⟩)
  · rintro ⟨⟨b, hb, hhomonym⟩, hall⟩
    refine List.perm_singleton.mp ((List.perm_ext_iff_of_nodup (nodup_keysOf_ofList as name)
      (List.nodup_singleton key)).mpr fun text => ?_)
    rw [mem_keysOf_ofList_iff, List.mem_singleton]
    constructor
    · rintro ⟨b, hb, hname, hargs, rfl⟩
      exact hall b hb ⟨hargs, hname⟩
    · rintro rfl
      exact ⟨b, hb, hhomonym.2, hhomonym.1, hall b hb hhomonym⟩

/-- **The last question finds the latest adapter of the only text of a simple name**, unless it
would put an option where none belongs. -/
theorem findBySimpleName?_ofList_iff :
    (ofList as).findBySimpleName? t = some a ↔
      StandsAlone as t.simpleName a ∧ (a.target.nullable = true → t.nullable = true) := by
  rw [findBySimpleName?_eq_some_iff]
  constructor
  · rintro ⟨key, hkeys, hfound, hlayer⟩
    obtain ⟨-, rfl⟩ := of_find?_byType hfound
    obtain ⟨hsome, hall⟩ := keysOf_ofList_eq_singleton_iff.mp hkeys
    rw [find?_byType_ofList] at hfound
    exact ⟨⟨hsome, hall, hfound⟩, hlayer⟩
  · rintro ⟨⟨hsome, hall, hfound⟩, hlayer⟩
    refine ⟨a.target.render, keysOf_ofList_eq_singleton_iff.mpr ⟨hsome, hall⟩, ?_, hlayer⟩
    rw [find?_byType_ofList, hfound]

theorem isSome_find?_byType_iff {key : String} :
    ((ofList as).byType.find? key).isSome = true ↔ ∃ a ∈ as, a.target.render = key := by
  rw [find?_byType_ofList, List.find?_isSome]
  simp only [List.mem_reverse, beq_iff_eq]

theorem registersText_iff : RegistersText as t ↔
    (((ofList as).byType.find? t.render).or ((ofList as).byType.find? t.renderRequired)).isSome =
      true := by
  rw [Option.isSome_or, Bool.or_eq_true, isSome_find?_byType_iff, isSome_find?_byType_iff,
    RegistersText, ← exists_or]
  exact exists_congr fun a => and_or_left

/-- **A name without a separator is found** if an exact text is registered, or if an adapter stands
alone. -/
theorem contains_ofList_iff (hargs : t.args = []) (hpath : isQualified t.path = false) :
    (ofList as).contains t = true ↔ RegistersText as t ∨
      ∃ a, StandsAlone as t.simpleName a ∧ (a.target.nullable = true → t.nullable = true) := by
  have hbare : (!t.args.isEmpty || isQualified t.path) = false := by
    rw [hargs, hpath]
    rfl
  rw [contains, find?_eq_or, hbare, ← Option.or_assoc, Option.isSome_or, Bool.or_eq_true,
    ← registersText_iff]
  refine or_congr_right ?_
  rw [if_neg Bool.false_ne_true, Option.isSome_iff_exists]
  exact exists_congr fun a => findBySimpleName?_ofList_iff

end LastQuestion

/-! ## Leaving adapters out -/

section LeavingOut

variable {as : List Adapter} {t : TypeRef} {kept : String → Bool}

theorem find?_byType_filter {key : String} (hkey : kept key = true) :
    (ofList (as.filter fun a => kept a.target.render)).byType.find? key =
      (ofList as).byType.find? key := by
  rw [find?_byType_ofList, find?_byType_ofList, ← List.filter_reverse, List.find?_filter]
  congr 1
  funext a
  by_cases ha : a.target.render = key
  · simp only [ha, hkey, beq_self_eq_true, and_self, decide_true]
  · simp only [beq_false_of_ne ha, Bool.false_eq_true, and_false, decide_false]

/-- A simple name all of whose texts are kept lists one text if it listed that one before. -/
theorem keysOf_filter_eq_singleton_iff {name key : String}
    (hkept : ∀ a ∈ as, a.IsHomonym name → kept a.target.render = true) :
    (ofList (as.filter fun a => kept a.target.render)).keysOf name = [key] ↔
      (ofList as).keysOf name = [key] := by
  rw [keysOf_ofList_eq_singleton_iff, keysOf_ofList_eq_singleton_iff]
  refine and_congr ⟨?_, ?_⟩ ⟨fun h a ha hname => ?_, fun h a ha hname => ?_⟩
  · rintro ⟨a, ha, hname⟩
    exact ⟨a, List.mem_of_mem_filter ha, hname⟩
  · rintro ⟨a, ha, hname⟩
    exact ⟨a, List.mem_filter.mpr ⟨ha, hkept a ha hname⟩, hname⟩
  · exact h a (List.mem_filter.mpr ⟨ha, hkept a ha hname⟩) hname
  · exact h a (List.mem_of_mem_filter ha) hname

/-- **Adapters of other texts can be left out** of a look-up that finds an exact text, and of one
whose simple name has none of these texts. -/
theorem find?_filter (hrender : kept t.render = true) (hrequired : kept t.renderRequired = true)
    (h : RegistersText as t ∨
      ∀ a ∈ as, a.IsHomonym t.simpleName → kept a.target.render = true) :
    (ofList (as.filter fun a => kept a.target.render)).find? t = (ofList as).find? t := by
  rw [find?_eq_or, find?_eq_or, find?_byType_filter hrender, find?_byType_filter hrequired,
    ← Option.or_assoc, ← Option.or_assoc]
  rcases h with hexact | hkept
  · obtain ⟨a, ha⟩ := Option.isSome_iff_exists.mp (registersText_iff.mp hexact)
    rw [ha, Option.some_or, Option.some_or]
  · have hlast : (ofList (as.filter fun a => kept a.target.render)).findBySimpleName? t =
        (ofList as).findBySimpleName? t := by
      ext a
      rw [findBySimpleName?_eq_some_iff, findBySimpleName?_eq_some_iff]
      refine exists_congr fun key => ?_
      rw [keysOf_filter_eq_singleton_iff hkept]
      refine and_congr_right fun hkeys => ?_
      -- the one text of the simple name is that of an adapter which is kept
      obtain ⟨⟨b, hb, hname⟩, hall⟩ := keysOf_ofList_eq_singleton_iff.mp hkeys
      rw [find?_byType_filter (hall b hb hname ▸ hkept b hb hname)]
    rw [hlast]

end LeavingOut

/-! ## Fields of built-in types -/

section Classified

variable {host : Host} {naming : Naming} {owner : String} {field : Field} {p : Parameter}
variable {r r' : AdapterRegistry}

/-- **An adapter supplies a field** if the registry has one for its type. -/
theorem classify_eq_adapterSupplied_iff :
    classify host r naming owner field = .ok ⟨field.name, field.type, .adapterSupplied⟩ ↔
      r.contains field.type = true := by
  constructor
  · intro h
    obtain ⟨a, ha⟩ := exists_find?_of_classify_adapterSupplied h rfl
    exact Option.isSome_iff_exists.mpr ⟨a, ha⟩
  · intro h
    rw [classify, if_pos h]

theorem classify_eq_primitive {kind : Primitive} (hcontains : r.contains field.type = false)
    (hkind : Primitive.of? field.type = some kind) :
    classify host r naming owner field = .ok ⟨field.name, field.type, .primitive kind⟩ := by
  rw [classify, if_neg (Bool.eq_false_iff.mp hcontains), hkind]

theorem classify_congr (h : r'.find? field.type = r.find? field.type) :
    classify host r' naming owner field = classify host r naming owner field := by
  rw [classify, classify, contains, contains, h]

theorem generate_congr_of_classify (h : r'.find? field.type = r.find? field.type)
    (hclassify : classify host r naming owner field = .ok p) (randomize : Bool) :
    DefaultValue.generate randomize r' p = DefaultValue.generate randomize r p := by
  have hvalue : DefaultValue.value randomize r' p = DefaultValue.value randomize r p := by
    rw [DefaultValue.value, DefaultValue.value]
    cases hkind : p.kind with
    | adapterSupplied => simp only [type_of_classify_adapterSupplied hclassify hkind, h]
    | _ => rfl
  rw [DefaultValue.generate, DefaultValue.generate, hvalue]

end Classified

section Builtin

variable (host : Host) (naming : Naming) (owner : String) (as : List Adapter) {field : Field}

/-- **Fields of built-in types.**  An adapter supplies a field of type `String` or of a primitive
type exactly if one of its text is registered, with or without the option layer, or if all adapters
of that simple name have one text, whatever type this is the text of.

Where the first is the case, or where the adapters of that simple name are all adapters of the
built-in type itself, the field is supplied only by an adapter of that type, and neither its class
nor its value changes if all other adapters are left out. -/
theorem classify_builtin (hfield : field.type.IsBuiltin) :
    (classify host (ofList as) naming owner field =
        .ok ⟨field.name, field.type, .adapterSupplied⟩ ↔
      RegistersText as field.type ∨ ∃ a, StandsAlone as field.type.path a ∧
        (a.target.nullable = true → field.type.nullable = true)) ∧
    (RegistersText as field.type ∨
        (∀ a ∈ as, a.IsHomonym field.type.path → a.ofBuiltin field.type.path = true) →
      (classify host (ofList as) naming owner field =
          .ok ⟨field.name, field.type, .adapterSupplied⟩ →
        ∃ a ∈ as, a.ofBuiltin field.type.path = true) ∧
      classify host (ofList (as.filter (Adapter.ofBuiltin field.type.path))) naming owner field =
        classify host (ofList as) naming owner field ∧
      ∀ randomize p, classify host (ofList as) naming owner field = .ok p →
        DefaultValue.generate randomize
            (ofList (as.filter (Adapter.ofBuiltin field.type.path))) p =
          DefaultValue.generate randomize (ofList as) p) := by
  have hrender : (builtinTexts field.type.path).contains field.type.render = true :=
    List.contains_iff_mem.mpr hfield.render_mem
  have hrequired : (builtinTexts field.type.path).contains field.type.renderRequired = true :=
    List.contains_iff_mem.mpr hfield.renderRequired_mem
  have hsupplied := @contains_ofList_iff as field.type hfield.2 hfield.isQualified_eq
  rw [hfield.simpleName_eq] at hsupplied
  refine ⟨classify_eq_adapterSupplied_iff.trans hsupplied, fun h => ⟨fun hclassify => ?_, ?_⟩⟩
  · -- an exact text is one of the built-in type, and so is the only text of its simple name
    have hexact : RegistersText as field.type →
        ∃ a ∈ as, a.ofBuiltin field.type.path = true := by
      rintro ⟨a, ha, htext | htext⟩
      · exact ⟨a, ha, by rw [Adapter.ofBuiltin, htext, hrender]⟩
      · exact ⟨a, ha, by rw [Adapter.ofBuiltin, htext, hrequired]⟩
    rcases h with h | hown
    · exact hexact h
    · rcases hsupplied.mp (classify_eq_adapterSupplied_iff.mp hclassify) with h | ⟨a, halone, -⟩
      · exact hexact h
      · obtain ⟨b, hb, hname⟩ := halone.exists_homonym
        exact ⟨b, hb, hown b hb hname⟩
  · have hfind : (ofList (as.filter (Adapter.ofBuiltin field.type.path))).find? field.type =
        (ofList as).find? field.type :=
      find?_filter hrender hrequired (by rwa [hfield.simpleName_eq])
    exact ⟨classify_congr hfind,
      fun randomize p hp => generate_congr_of_classify hfind hp randomize⟩

/-- An adapter for `String`, given by its path in the standard library, and one for a type that is
not called so. -/
def libraryAdapters : List Adapter :=
  [⟨"crate::adapters", "label", .named "std::string::String", default⟩,
   ⟨"crate::adapters", "port", .named "crate::net::Port", default⟩]

/-- The field gets the label, and it does so without the other adapter. -/
theorem classify_builtin_label :
    let host := Catalogue.empty.toHost
    let naming := Options.defaults.naming
    let field : Field := ⟨"name", .named "String"⟩
    field.type.IsBuiltin ∧
    (∀ a ∈ libraryAdapters, a.IsHomonym "String" → a.ofBuiltin "String" = true) ∧
    classify host (ofList libraryAdapters) naming "crate::Person" field =
      .ok ⟨"name", .named "String", .adapterSupplied⟩ ∧
    classify host (ofList (libraryAdapters.take 1)) naming "crate::Person" field =
      .ok ⟨"name", .named "String", .adapterSupplied⟩ := by
  intro host naming field
  have hfield : field.type.IsBuiltin := by
    refine ⟨?_, rfl⟩
    decide +kernel
  have hown : ∀ a ∈ libraryAdapters, a.IsHomonym "String" → a.ofBuiltin "String" = true := by
    simp only [libraryAdapters, List.forall_mem_cons]
    refine ⟨fun _ => by decide +kernel, fun h => absurd h.2 (by decide +kernel),
      fun a ha => absurd ha List.not_mem_nil⟩
  obtain ⟨-, halone⟩ := classify_builtin host naming "crate::Person" libraryAdapters hfield
  obtain ⟨-, hsame, -⟩ := halone (Or.inr hown)
  have hsupplied : classify host (ofList libraryAdapters) naming "crate::Person" field =
      .ok ⟨"name", .named "String", .adapterSupplied⟩ :=
    classify_eq_adapterSupplied_iff.mpr (by decide +kernel)
  have hleft : libraryAdapters.filter (Adapter.ofBuiltin field.type.path) =
      libraryAdapters.take 1 := by
    rw [libraryAdapters, List.filter_cons_of_pos (by decide +kernel),
      List.filter_cons_of_neg (by decide +kernel)]
    rfl
  rw [hleft] at hsame
  exact ⟨hfield, hown, hsupplied, hsame.trans hsupplied⟩

/-- An adapter for a type of the sources that is called `String`. -/
def textAdapters : List Adapter :=
  [⟨"crate::adapters", "label", .named "crate::text::String", default⟩]

/-- **A field of type `String` gets a value of another type.**  Without that adapter it is a
primitive.  The same adapter takes the field away from an adapter for `std::string::String`. -/
theorem classify_builtin_other_text :
    let host := Catalogue.empty.toHost
    let naming := Options.defaults.naming
    let field : Field := ⟨"name", .named "String"⟩
    let supplied : Parameter := ⟨"name", .named "String", .adapterSupplied⟩
    let primitive : Parameter := ⟨"name", .named "String", .primitive .string⟩
    field.type.IsBuiltin ∧
    (∀ a ∈ textAdapters, a.ofBuiltin "String" = false) ∧
    classify host (ofList textAdapters) naming "crate::Person" field = .ok supplied ∧
    (DefaultValue.fixedDefault (ofList textAdapters) supplied).toOption =
      some "crate::adapters::label()" ∧
    classify host (ofList []) naming "crate::Person" field = .ok primitive ∧
    (DefaultValue.fixedDefault (ofList []) primitive).toOption =
      some "String::from(\"name\")" ∧
    classify host (ofList libraryAdapters) naming "crate::Person" field = .ok supplied ∧
    classify host (ofList (libraryAdapters ++ textAdapters)) naming "crate::Person" field =
      .ok primitive := by
  intro host naming field supplied primitive
  have hempty : (ofList []).contains field.type = false := by decide +kernel
  have hcontains : (ofList textAdapters).contains field.type = true := by decide +kernel
  have hlibrary : (ofList libraryAdapters).contains field.type = true := by decide +kernel
  have hboth : (ofList (libraryAdapters ++ textAdapters)).contains field.type = false := by
    decide +kernel
  have hkind : Primitive.of? field.type = some .string := by decide +kernel
  exact ⟨⟨by decide +kernel, rfl⟩, by decide +kernel, classify_eq_adapterSupplied_iff.mpr hcontains,
    by decide +kernel, classify_eq_primitive hempty hkind, by decide +kernel,
    classify_eq_adapterSupplied_iff.mpr hlibrary, classify_eq_primitive hboth hkind⟩

end Builtin

end AdapterRegistry
end FixtureFactory
