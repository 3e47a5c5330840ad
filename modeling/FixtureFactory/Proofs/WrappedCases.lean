import FixtureFactory.Proofs.References
import FixtureFactory.Proofs.TypeReading
import FixtureFactory.Proofs.ValueTexts

/-!
# Cases that wrap fixtures

A case of an enumeration with data may wrap a value that a factory makes.  Such a case is marked,
and its value is the case applied to the call of the factory.  For that to be well typed the factory
has to return the wrapped type, the type of a bare record.

The classification does not see to it.  It asks which declaration the wrapped type refers to, and
that question is answered by the path alone, so a case that wraps the *option* of a fixture is
marked just the same.  A field of that type would get its value wrapped in `Some`; a case gets the
bare call.

* `sealedEntry_marks`: when a case is marked, with the wrapped options counted and without.
* `DefaultValue.exists_entry_of_yields_value`: the value of a parameter comes from one entry.
* `TypeRef.referringTo_render_eq_iff`: the factory of a record returns the type that refers to the
  record exactly where that type has neither an option layer nor arguments.
* `Pipeline.sealed_cases_wrap_fixtures` is the result, and `Pipeline.round_wraps_option` an
  enumeration whose value is not well typed.
-/

namespace FixtureFactory

open Build

/-! ## Marked cases -/

/-- The case wraps a fixture as it is. -/
def CaseDeclaration.WrapsFixture (host : Host) (c : CaseDeclaration) : Prop :=
  ∃ inner d, inner.nullable = false ∧ c.Wraps host inner d

/-- The case wraps the option of a fixture. -/
def CaseDeclaration.WrapsOption (host : Host) (c : CaseDeclaration) : Prop :=
  ∃ inner d, inner.nullable = true ∧ c.Wraps host inner d

/-- The entry is marked as a fixture and has a factory. -/
def SealedEntry.IsFixtureCase (entry : SealedEntry) : Prop :=
  entry.isFixture = true ∧ entry.factory.isSome = true

theorem CaseDeclaration.Wraps.inner_eq {host : Host} {c : CaseDeclaration} {inner inner' : TypeRef}
    {d d' : TypeDeclaration} (h : c.Wraps host inner d) (h' : c.Wraps host inner' d') :
    inner = inner' :=
  CaseShape.wrapping.inj (h.shape.symm.trans h'.shape)

section Entries

variable {host : Host} {naming : Naming} {c : CaseDeclaration} {entry : SealedEntry}

/-- An entry is marked exactly when its case wraps a type that refers to a fixture, whatever the
option layer of that type is. -/
theorem isFixtureCase_iff_of_sealedEntry (h : sealedEntry host naming c = .ok entry) :
    entry.IsFixtureCase ↔ ∃ inner d, c.Wraps host inner d := by
  rcases sealedEntry_cases h with
    ⟨hunit, rfl⟩ | ⟨inner, d, ref, hwraps, -, rfl⟩ | ⟨-, hnone, rfl⟩
  · refine ⟨fun hmarked => absurd hmarked.1 Bool.false_ne_true, ?_⟩
    rintro ⟨inner, d, hwraps⟩
    cases hunit.symm.trans hwraps.shape
  · exact ⟨fun _ => ⟨inner, d, hwraps⟩, fun _ => ⟨rfl, rfl⟩⟩
  · refine ⟨fun hmarked => absurd hmarked.1 Bool.false_ne_true, ?_⟩
    rintro ⟨inner, d, hwraps⟩
    exact absurd hwraps (hnone inner d)

theorem name_of_sealedEntry (h : sealedEntry host naming c = .ok entry) : entry.name = c.name := by
  rcases sealedEntry_cases h with ⟨-, rfl⟩ | ⟨inner, d, ref, -, -, rfl⟩ | ⟨-, -, rfl⟩ <;> rfl

theorem isSingleton_iff_of_sealedEntry (h : sealedEntry host naming c = .ok entry) :
    entry.isSingleton = true ↔ c.shape = .unit := by
  rcases sealedEntry_cases h with
    ⟨hunit, rfl⟩ | ⟨inner, d, ref, hwraps, -, rfl⟩ | ⟨hunit, -, rfl⟩
  · exact ⟨fun _ => hunit, fun _ => rfl⟩
  · rw [hwraps.shape]
    exact ⟨nofun, nofun⟩
  · exact ⟨nofun, fun h => absurd h hunit⟩

/-- **When a case is marked.**  A case that wraps the option of a fixture is marked; any other case
is marked exactly when it wraps a fixture. -/
theorem sealedEntry_marks (h : sealedEntry host naming c = .ok entry) :
    (c.WrapsOption host → entry.IsFixtureCase) ∧
    (¬ c.WrapsOption host → (entry.IsFixtureCase ↔ c.WrapsFixture host)) := by
  rw [isFixtureCase_iff_of_sealedEntry h]
  refine ⟨?_, fun hoption => ⟨?_, ?_⟩⟩
  · rintro ⟨inner, d, -, hwraps⟩
    exact ⟨inner, d, hwraps⟩
  · rintro ⟨inner, d, hwraps⟩
    cases hnullable : inner.nullable with
    | false => exact ⟨inner, d, hnullable, hwraps⟩
    | true => exact absurd ⟨inner, d, hnullable, hwraps⟩ hoption
  · rintro ⟨inner, d, -, hwraps⟩
    exact ⟨inner, d, hwraps⟩

theorem CaseDeclaration.WrapsOption.not_wrapsFixture (h : c.WrapsOption host) :
    ¬ c.WrapsFixture host := by
  rintro ⟨inner, d, hrequired, hwraps⟩
  obtain ⟨inner', d', hoption, hwraps'⟩ := h
  rw [hwraps.inner_eq hwraps', hoption] at hrequired
  cases hrequired

end Entries

/-! ## Values of enumerations with data -/

theorem Draw.mem_of_choose {α : Type} {xs : List α} {x : α} {s : RandomSource}
    (h : (choose xs s).1 = some x) : x ∈ xs := by
  rw [choose] at h
  by_cases hempty : xs.isEmpty = true
  · rw [if_pos hempty] at h
    cases h
  · rw [if_neg hempty, Draw.fst_bind_pure] at h
    exact List.mem_of_getElem? h

namespace DefaultValue

variable {randomize already : Bool} {r : AdapterRegistry} {p : Parameter} {text : String}
  {type : TypeRef} {field : String}

/-- What is picked from a list is in the list, drawn or not. -/
theorem mem_of_yields_pick {α : Type} {xs : List α} {x : α}
    (h : Yields (pick randomize xs type field) x) : x ∈ xs := by
  rw [pick] at h
  cases randomize with
  | true =>
      obtain ⟨entry, hentry, h⟩ := h.of_bind
      obtain ⟨s, hdraw⟩ := exists_of_yields_draw hentry
      cases entry with
      | none => exact absurd h (not_yields_throw _ x)
      | some y => exact Draw.mem_of_choose (yields_pure_iff.mp h ▸ hdraw)
  | false =>
      obtain ⟨entry, hentry, h⟩ := h.of_bind
      have hhead : xs.head? = entry := yields_pure_iff.mp hentry
      cases entry with
      | none => exact absurd h (not_yields_throw _ x)
      | some y => exact List.mem_of_head? (yields_pure_iff.mp h ▸ hhead)

/-- **The value of an enumeration with data is the value of one of its entries.** -/
theorem exists_entry_of_yields_value {entries : List SealedEntry} (hkind : p.kind = .sealed entries)
    (h : Yields (value randomize r p) (text, already)) :
    ∃ entry ∈ entries, sealedValue p.type p.name entry = .ok text := by
  simp only [value, hkind] at h
  obtain ⟨entry, hentry, h⟩ := h.of_bind
  refine ⟨entry, mem_of_yields_pick hentry, ?_⟩
  cases hvalue : sealedValue p.type p.name entry with
  | error e =>
      rw [hvalue] at h
      exact absurd h (not_yields_throw e _)
  | ok text' =>
      rw [hvalue] at h
      have htext : text' = text := congrArg Prod.fst (yields_pure_iff.mp h)
      rw [htext]

end DefaultValue

/-! ## Types that refer to records -/

namespace TypeRef

/-- The type, written with the qualified name of the declaration that it refers to. -/
def referringTo (t : TypeRef) (d : TypeDeclaration) : TypeRef :=
  ⟨d.qualifiedName, t.args, t.nullable⟩

variable {t : TypeRef} {d : TypeDeclaration}

theorem referringTo_render_of_bare (hrequired : t.nullable = false) (hargs : t.args = []) :
    (t.referringTo d).render = pathText d.qualifiedName := by
  rw [referringTo, hrequired, hargs]
  exact render_named d.qualifiedName

theorem ne_slicePath_of_isClear {path : String} (h : IsClear path) : path ≠ slicePath := by
  rintro rfl
  exact absurd h (by decide)

/-- **A type has the text of the declaration that it refers to** exactly when it has neither an
option layer nor arguments, since either would show as an opening bracket. -/
theorem referringTo_render_eq_iff (hclear : IsClear d.qualifiedName) :
    pathText d.qualifiedName = (t.referringTo d).render ↔ t.nullable = false ∧ t.args = [] := by
  refine ⟨fun htext => ?_, fun h => (referringTo_render_of_bare h.1 h.2).symm⟩
  have hbare : ∀ head inner : String, d.qualifiedName ≠ head ++ "<" ++ inner ++ ">" := by
    intro head inner hname
    refine hclear '<' ?_ (by decide)
    rw [hname, toList_bracketed]
    exact List.mem_append_right _ List.mem_cons_self
  have hslice : d.qualifiedName ≠ slicePath := ne_slicePath_of_isClear hclear
  rw [pathText, if_neg hslice, render_eq] at htext
  cases hnullable : t.nullable with
  | true =>
      refine absurd ?_ (hbare "Option" (t.referringTo d).renderRequired)
      rw [htext, referringTo, hnullable]
      rfl
  | false =>
      refine ⟨rfl, ?_⟩
      by_contra hargs
      have hshown : ¬ (renderAll t.args).isEmpty = true := by
        rw [renderAll_eq_map, List.isEmpty_iff, List.map_eq_nil_iff]
        exact hargs
      refine hbare d.qualifiedName (", ".intercalate (renderAll t.args)) ?_
      conv_lhs => rw [htext]
      rw [referringTo, hnullable, optionText, if_neg Bool.false_ne_true, renderRequired, plainText,
        if_neg (mt beq_iff_eq.mp hslice), if_neg hshown]

end TypeRef

/-! ## Runs -/

namespace Pipeline

variable {σ : Type}

/-- **The value of a case in a run.**  It is the path of a singleton, or the case applied to the
call of the one factory that makes the fixture that the case wraps. -/
theorem exists_case_of_yields_value {options : Options} {host : Host} (hhost : host.Coherent)
    {entropy : RandomSource} {receive : Receiver σ} {s s' : σ} {summary : RunSummary}
    {p' : Pipeline} (h : (start options).run host entropy receive s = (.ok summary, p', s'))
    {f : Fixture} (hf : f ∈ p'.fixtures.toList) {q : Parameter} (hq : q ∈ f.parameters)
    {entries : List SealedEntry} (hkind : q.kind = .sealed entries) :
    ∃ d, q.type.path = d.qualifiedName ∧ ∀ randomize r text already,
      Yields (DefaultValue.value randomize r q) (text, already) → ∃ c ∈ host.cases d,
        (c.shape = .unit ∧ text = d.qualifiedName ++ "::" ++ c.name) ∨
        ∃ inner e ref, c.Wraps host inner e ∧
          text = d.qualifiedName ++ "::" ++ c.name ++ "(" ++ ref.call ++ ")" ∧
          LeadsToFactory ((start options).runCalls host entropy receive s) ref e := by
  have hrun := run_value_of_mem_toList h hf
  obtain ⟨owner, field, hclassify⟩ := exists_classify_of_mem_parameters hrun h hf hq
  obtain ⟨d, -, htype, -, hentries⟩ := kind_eq_sealed_of_classify hclassify hkind
  have hpath : q.type.path = d.qualifiedName := by rw [htype]
  refine ⟨d, hpath, fun randomize r text already hyields => ?_⟩
  obtain ⟨entry, hmem, hvalue⟩ := DefaultValue.exists_entry_of_yields_value hkind hyields
  obtain ⟨c, hc, hentry⟩ := exists_mem_left_of_forall₂ hentries hmem
  refine ⟨c, hc, ?_⟩
  rw [← hpath, ← name_of_sealedEntry hentry]
  rcases DefaultValue.sealedValue_cases q.type q.name entry with
    ⟨hsingleton, hv⟩ | ⟨ref, hcalls, hv⟩ | ⟨-, hv⟩ <;> cases hv.symm.trans hvalue
  · exact Or.inl ⟨(isSingleton_iff_of_sealedEntry hentry).mp hsingleton, rfl⟩
  · obtain ⟨inner, e, hwraps, hfactory⟩ := factory_of_sealedEntry hentry hcalls.factory_eq
    refine Or.inr ⟨inner, e, ref, hwraps, rfl, ?_⟩
    exact leadsToFactory_of_factoryOf (covers_of_start_run hrun h) (nodup_name_of_start_run hrun h)
      (hhost.mem_markedTypes hwraps.resolve hwraps.marker) hfactory

/-- **Which cases wrap fixtures.**  Of the entries that a field of an enumeration with data gets,
those are marked as fixtures whose cases wrap the type of a fixture, as long as that type is no
option; a case that wraps an option of a fixture is marked as well.  In a run on a host that lists
the marked declarations that it resolves, as both kinds of hosts do, the value of such a field is
the path of a singleton or a case applied to the call of one factory.  The factory returns the
wrapped type if that is no option and has no arguments; and only then, unless the name of the record
holds a bracket or a comma itself. -/
theorem sealed_cases_wrap_fixtures (host : Host) :
    (∀ adapters naming owner field q entries,
      classify host adapters naming owner field = .ok q → q.kind = .sealed entries →
      ∃ d, host.resolve field.type = some d ∧ d.kind = .sealed ∧
        List.Forall₂ (fun c entry => entry.name = c.name ∧
          (entry.isSingleton = true ↔ c.shape = .unit) ∧
          (¬ c.WrapsOption host → (entry.IsFixtureCase ↔ c.WrapsFixture host)) ∧
          (c.WrapsOption host → entry.IsFixtureCase ∧ ¬ c.WrapsFixture host))
          (host.cases d) entries) ∧
    ∀ (options : Options) (entropy : RandomSource) (receive : Receiver σ) (s s' : σ)
      (summary : RunSummary) (p' : Pipeline), host.Coherent →
      (start options).run host entropy receive s = (.ok summary, p', s') →
      ∀ f ∈ p'.fixtures.toList, ∀ q ∈ f.parameters, ∀ entries, q.kind = .sealed entries →
      ∃ d, q.type.path = d.qualifiedName ∧ ∀ randomize r text already,
        Yields (DefaultValue.value randomize r q) (text, already) → ∃ c ∈ host.cases d,
          (c.shape = .unit ∧ text = d.qualifiedName ++ "::" ++ c.name) ∨
          ∃ inner e ref fn, c.Wraps host inner e ∧
            text = d.qualifiedName ++ "::" ++ c.name ++ "(" ++ ref.call ++ ")" ∧
            factoriesAt ((start options).runCalls host entropy receive s) ref = [fn] ∧
            (inner.nullable = false → inner.args = [] →
              fn.returnType = (inner.referringTo e).render) ∧
            (IsClear e.qualifiedName → fn.returnType = (inner.referringTo e).render →
              inner.nullable = false ∧ inner.args = []) := by
  constructor
  · intro adapters naming owner field q entries hclassify hkind
    obtain ⟨d, hresolve, -, hsealed, hentries⟩ := kind_eq_sealed_of_classify hclassify hkind
    refine ⟨d, hresolve, hsealed, hentries.imp fun c entry hentry => ?_⟩
    obtain ⟨hoption, hplain⟩ := sealedEntry_marks hentry
    exact ⟨name_of_sealedEntry hentry, isSingleton_iff_of_sealedEntry hentry, hplain,
      fun h => ⟨hoption h, h.not_wrapsFixture⟩⟩
  · intro options entropy receive s s' summary p' hhost hrun f hf q hq entries hkind
    obtain ⟨d, hpath, hvalues⟩ := exists_case_of_yields_value hhost hrun hf hq hkind
    refine ⟨d, hpath, fun randomize r text already hyields => ?_⟩
    obtain ⟨c, hc, hcase⟩ := hvalues randomize r text already hyields
    refine ⟨c, hc, hcase.imp_right ?_⟩
    rintro ⟨inner, e, ref, hwraps, htext, fn, hfactory, hreturn⟩
    refine ⟨inner, e, ref, fn, hwraps, htext, hfactory, ?_, ?_⟩
    · intro hrequired hargs
      rw [hreturn, TypeRef.referringTo_render_of_bare hrequired hargs]
    · intro hclear hsame
      exact (TypeRef.referringTo_render_eq_iff hclear).mp (hreturn.symm.trans hsame)

/-- The case of a shape that wraps a circle, or the option of one. -/
def roundCase (nullable : Bool) : CaseDeclaration :=
  ⟨"Round", .wrapping ⟨"crate::model::Circle", [], nullable⟩⟩

/-- Circles, and drawings of a shape that is round or nothing. -/
def drawings (nullable : Bool) : Catalogue :=
  let c := (Catalogue.empty.addUnit "src/model.rs" "crate::model").2
  let c := (c.addFixture 0 "Circle" [⟨"radius", .named "f64"⟩]).2
  let c := (c.addSealed 0 "Shape" [roundCase nullable, ⟨"Nothing", .unit⟩]).2
  (c.addFixture 0 "Drawing" [⟨"shape", .named "crate::model::Shape"⟩]).2

/-- The entry of a round shape, with the factory of circles. -/
def roundEntry : SealedEntry :=
  ⟨"Round", false, true, some ⟨"crate::fixtures::model_fixture", "create_circle"⟩⟩

/-- The shape of a drawing. -/
def roundShape : Parameter :=
  ⟨"shape", .named "crate::model::Shape", .sealed [roundEntry, ⟨"Nothing", true, false, none⟩]⟩

/-- The default value of the shape of a drawing. -/
def roundValue : String :=
  "crate::model::Shape::Round(crate::fixtures::model_fixture::create_circle())"

theorem yields_value_roundShape :
    Yields (DefaultValue.value false .empty roundShape) (roundValue, false) :=
  ⟨⟨fun _ => 0, 0⟩, ⟨fun _ => 0, 0⟩, rfl⟩

/-- **The two runs on drawings agree**: whether a shape wraps a circle or the option of one, its
entry and the factory of circles are the same. -/
theorem run_drawings (nullable : Bool) :
    let takeAll : Receiver Unit := fun _ s => (.ok (), s)
    let host := (drawings nullable).toHost
    let outcome := (start .defaults).run host ⟨fun _ => 0, 0⟩ takeAll ()
    outcome.1 = .ok ⟨false, 0, 2,
      [⟨"model_fixture", "src/model.rs", ["create_circle", "create_drawing"]⟩]⟩ ∧
    (∃ f ∈ outcome.2.1.fixtures.toList, roundShape ∈ f.parameters) ∧
    classify host .empty ⟨Naming.defaultRoot⟩ "crate::model::Drawing"
      ⟨"shape", .named "crate::model::Shape"⟩ = .ok roundShape ∧
    ∃ fn, factoriesAt ((start .defaults).runCalls host ⟨fun _ => 0, 0⟩ takeAll ())
        ⟨"crate::fixtures::model_fixture", "create_circle"⟩ = [fn] ∧
      fn.returnType = "crate::model::Circle" := by
  intro takeAll host
  cases nullable
  all_goals
    have hhost : host = _ := Catalogue.toHost_of_pairwise (by decide) (by decide)
    rw [hhost]
    exact ⟨rfl, ⟨_, List.mem_cons_of_mem _ List.mem_cons_self, List.mem_cons_self⟩, rfl, _, rfl,
      rfl⟩

/-- Where a shape wraps a circle, its entry is marked for that, and the factory that its default
value calls returns circles. -/
theorem sealed_cases_wrap_fixtures_round :
    let takeAll : Receiver Unit := fun _ s => (.ok (), s)
    let host := (drawings false).toHost
    let outcome := (start .defaults).run host ⟨fun _ => 0, 0⟩ takeAll ()
    host.Coherent ∧
    outcome.1 = .ok ⟨false, 0, 2,
      [⟨"model_fixture", "src/model.rs", ["create_circle", "create_drawing"]⟩]⟩ ∧
    (∃ f ∈ outcome.2.1.fixtures.toList, roundShape ∈ f.parameters) ∧
    classify host .empty ⟨Naming.defaultRoot⟩ "crate::model::Drawing"
      ⟨"shape", .named "crate::model::Shape"⟩ = .ok roundShape ∧
    ¬ (roundCase false).WrapsOption host ∧
    (roundEntry.IsFixtureCase ↔ (roundCase false).WrapsFixture host) ∧
    Yields (DefaultValue.value false .empty roundShape) (roundValue, false) ∧
    ∃ ref fn, roundValue = "crate::model::Shape" ++ "::" ++ "Round" ++ "(" ++ ref.call ++ ")" ∧
      factoriesAt ((start .defaults).runCalls host ⟨fun _ => 0, 0⟩ takeAll ()) ref = [fn] ∧
      fn.returnType = "crate::model::Circle" := by
  intro takeAll host outcome
  have hcoherent : host.Coherent := Catalogue.coherent_toHost (drawings false)
  obtain ⟨houtcome, ⟨f, hf, hq⟩, hclassify, -⟩ := run_drawings false
  obtain ⟨hmarks, hcalls⟩ := sealed_cases_wrap_fixtures (σ := Unit) host
  have hoption : ¬ (roundCase false).WrapsOption host := by
    rintro ⟨inner, d, hnullable, hwraps⟩
    cases hwraps.shape
    cases hnullable
  have hmark : roundEntry.IsFixtureCase ↔ (roundCase false).WrapsFixture host := by
    obtain ⟨d, hresolve, -, hentries⟩ := hmarks _ _ _ _ _ _ hclassify rfl
    cases hresolve
    obtain ⟨⟨-, -, hplain, -⟩, -⟩ := List.forall₂_cons.mp hentries
    exact hplain hoption
  refine ⟨hcoherent, houtcome, ⟨f, hf, hq⟩, hclassify, hoption, hmark, yields_value_roundShape, ?_⟩
  obtain ⟨d, hpath, hvalues⟩ := hcalls .defaults ⟨fun _ => 0, 0⟩ takeAll () () _ _ hcoherent
    (Prod.ext houtcome rfl) f hf roundShape hq _ rfl
  obtain ⟨c, hc, hcase⟩ := hvalues false .empty roundValue false yields_value_roundShape
  have hcases : c = roundCase false ∨ c = ⟨"Nothing", .unit⟩ := by
    have hlookup : host.cases d = [roundCase false, ⟨"Nothing", .unit⟩] := by
      show ((drawings false).caseLists.lookup d.qualifiedName).getD [] = _
      rw [← hpath]
      rfl
    rw [hlookup] at hc
    exact List.mem_pair.mp hc
  rw [← hpath] at hcase
  rcases hcase with ⟨-, htext⟩ | ⟨inner, e, ref, fn, hwraps, htext, hfactory, hreturn, -⟩
  · -- the value is the path of neither case
    rcases hcases with rfl | rfl <;> exact absurd htext (by decide)
  · rcases hcases with rfl | rfl
    · cases hwraps.shape
      cases hwraps.resolve
      exact ⟨ref, fn, htext, hfactory, hreturn rfl rfl⟩
    · cases hwraps.shape

/-- **The law fails where a case wraps an option.**  A shape that wraps the option of a circle gets
the same entry and the same default value, but the factory returns a circle. -/
theorem round_wraps_option :
    let takeAll : Receiver Unit := fun _ s => (.ok (), s)
    let host := (drawings true).toHost
    let outcome := (start .defaults).run host ⟨fun _ => 0, 0⟩ takeAll ()
    host.Coherent ∧
    outcome.1 = .ok ⟨false, 0, 2,
      [⟨"model_fixture", "src/model.rs", ["create_circle", "create_drawing"]⟩]⟩ ∧
    sealedEntry host ⟨Naming.defaultRoot⟩ (roundCase true) = .ok roundEntry ∧
    roundEntry.IsFixtureCase ∧ ¬ (roundCase true).WrapsFixture host ∧
    classify host .empty ⟨Naming.defaultRoot⟩ "crate::model::Drawing"
      ⟨"shape", .named "crate::model::Shape"⟩ = .ok roundShape ∧
    (∃ f ∈ outcome.2.1.fixtures.toList, roundShape ∈ f.parameters) ∧
    Yields (DefaultValue.value false .empty roundShape) (roundValue, false) ∧
    (∃ fn, factoriesAt ((start .defaults).runCalls host ⟨fun _ => 0, 0⟩ takeAll ())
        ⟨"crate::fixtures::model_fixture", "create_circle"⟩ = [fn] ∧
      fn.returnType = "crate::model::Circle") ∧
    TypeRef.render ⟨"crate::model::Circle", [], true⟩ = "Option<crate::model::Circle>" := by
  intro takeAll host outcome
  obtain ⟨houtcome, hparameter, hclassify, hfactory⟩ := run_drawings true
  have hoption : (roundCase true).WrapsOption host := ⟨_, _, rfl, ⟨rfl, rfl, rfl⟩⟩
  exact ⟨Catalogue.coherent_toHost (drawings true), houtcome, rfl, ⟨rfl, rfl⟩,
    hoption.not_wrapsFixture, hclassify, hparameter, yields_value_roundShape, hfactory, rfl⟩

end Pipeline
end FixtureFactory
