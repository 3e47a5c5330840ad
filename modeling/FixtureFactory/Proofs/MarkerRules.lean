import FixtureFactory.MarkerCheck
import FixtureFactory.Pipeline
import FixtureFactory.Proofs.Failures
import FixtureFactory.Proofs.PlacedItems

/-!
# One rule, checked twice

What a marker may be put on is checked where the marker stands, on the item alone, and again by the
scans, on what the index has made of the item.  The two checks share no code.  The first matches on
the form of an item; the second goes by the kind of a declaration, by a number of parameters and by
a result that may be missing, and these are filled in by the index.

* `checkFixture_eq_ok_iff`, `fixtureOf_eq_notARecord_iff`: both sides of the rule on fixtures come
  down to the kind of the declaration.
* `checkAdapter_eq`: on adapters both sides are one function of the declaration that the index has
  for the function, `adapterTarget`, up to the wording.

The scans stop at the first error, so what they report of an item also depends on what is scanned
before it.  `FixtureCheckAgrees` and `AdapterCheckAgrees` therefore speak of the step of the scan at
the declaration, and of the whole scan where nothing else is marked.
-/

namespace FixtureFactory

open Source (Item Attribute Function)

/-! ## Marked items -/

/-- The item with other attributes. -/
def Source.Item.withAttributes (attributes : List Attribute) : Item → Item
  | .record _ name fields => .record attributes name fields
  | .enumeration _ name variants => .enumeration attributes name variants
  | .union _ name => .union attributes name
  | .function f => .function { f with attributes := attributes }
  | item => item

/-- The item declares a type: it is a struct, an enumeration or a union. -/
def Source.Item.DeclaresType : Item → Prop
  | .record _ _ _ => True
  | .enumeration _ _ _ => True
  | .union _ _ => True
  | _ => False

section Index

variable {files : List ParsedFile} {p : PlacedItem} {attributes : List Attribute} {item : Item}

/-- **The type of a placed item**, which has the attributes of the item as its markers. -/
theorem exists_type?_of_declaresType (t : ScopeTable) (hitem : item.DeclaresType)
    (hp : p.item = item.withAttributes attributes) :
    ∃ indexed, p.type? t = some indexed ∧ indexed.declaration.markers = markersOf attributes ∧
      (checkFixture item = .ok () ↔ indexed.declaration.kind = .record) := by
  obtain ⟨context, placed⟩ := p
  obtain rfl : placed = item.withAttributes attributes := hp
  cases item with
  | record own name fields =>
      refine ⟨_, rfl, rfl, ?_⟩
      cases fields <;> simp [checkFixture, kindOfFields, ItemContext.declaration]
  | enumeration own name variants =>
      refine ⟨_, rfl, rfl, ?_⟩
      show _ ↔ kindOfVariants variants = .record
      rw [kindOfVariants]
      split <;> simp [checkFixture]
  | union own name =>
      refine ⟨_, rfl, rfl, ?_⟩
      simp [checkFixture, ItemContext.declaration]
  | _ => exact absurd hitem id

theorem declaration_mem_markedTypes {indexed : IndexedType} {m : Marker}
    (hmem : p ∈ placedItems files) (hp : p.type? (scopesOf files) = some indexed)
    (hm : m ∈ indexed.declaration.markers) :
    indexed.declaration ∈ (SourceIndex.ofFiles files).toHost.markedTypes m := by
  refine List.mem_filter.mpr ⟨List.mem_map_of_mem ?_, List.contains_iff_mem.mpr hm⟩
  rw [SourceIndex.types_ofFiles]
  exact List.mem_filterMap.mpr ⟨p, hmem, hp⟩

theorem function_mem_markedFunctions {f : FunctionDeclaration} {m : Marker}
    (hmem : p ∈ placedItems files) (hf : f ∈ p.functions (scopesOf files)) (hm : m ∈ f.markers) :
    f ∈ (SourceIndex.ofFiles files).toHost.markedFunctions m := by
  refine List.mem_filter.mpr ⟨?_, List.contains_iff_mem.mpr hm⟩
  rw [SourceIndex.functions_ofFiles]
  exact List.mem_flatMap.mpr ⟨p, hmem, hf⟩

theorem markedTypes_of_types_eq {index : SourceIndex} {indexed : IndexedType} {m : Marker}
    (h : index.types = [indexed]) (hm : indexed.declaration ∈ index.toHost.markedTypes m) :
    index.toHost.markedTypes m = [indexed.declaration] := by
  show (index.types.map IndexedType.declaration).filter _ = _
  rw [h]
  exact List.filter_cons_of_pos (List.mem_filter.mp hm).2

theorem markedFunctions_of_functions_eq {index : SourceIndex} {g : FunctionDeclaration} {m : Marker}
    (h : index.functions = [g]) (hm : g ∈ index.toHost.markedFunctions m) :
    index.toHost.markedFunctions m = [g] := by
  show index.functions.filter _ = _
  rw [h]
  exact List.filter_cons_of_pos (List.mem_filter.mp hm).2

end Index

/-! ## Fixtures -/

/-- The error blames the kind of a declaration. -/
def FixtureError.IsNotARecord : FixtureError → Prop
  | .notARecord _ _ => True
  | _ => False

section Fixtures

variable {host : Host} {adapters : AdapterRegistry} {naming : Naming}

theorem failsWith_factoryOf (d : TypeDeclaration) :
    FailsWith (fun e => ¬ e.IsNotARecord) (factoryOf host naming d) := by
  rw [factoryOf]
  cases host.unit? d.unit with
  | some unit => exact failsWith_ok _
  | none => exact failsWith_error id

theorem failsWith_sealedEntry (c : CaseDeclaration) :
    FailsWith (fun e => ¬ e.IsNotARecord) (sealedEntry host naming c) := by
  rw [sealedEntry]
  cases c.shape with
  | unit => exact failsWith_ok _
  | fields => exact failsWith_ok _
  | wrapping inner =>
      dsimp only
      cases wrappedFixture? host inner with
      | none => exact failsWith_ok _
      | some d => exact (failsWith_factoryOf d).map _

theorem failsWith_declaredKind? (d : TypeDeclaration) :
    FailsWith (fun e => ¬ e.IsNotARecord) (declaredKind? host naming d) := by
  rw [declaredKind?]
  split
  · exact (failsWith_factoryOf d).map _
  · cases d.kind with
    | sealed => exact (failsWith_mapM fun c _ => failsWith_sealedEntry c).map _
    | _ => exact failsWith_ok _

/-- **No field is refused for the kind of its fixture.** -/
theorem failsWith_mapField_ne_notARecord (owner : String) (field : Field) :
    FailsWith (fun e => ¬ e.IsNotARecord) (mapField host adapters naming owner field) :=
  failsWith_mapField_of (fun _ _ _ => ⟨id, id⟩) (fun _ d _ => failsWith_declaredKind? d) owner field

/-- **A declaration is refused for its kind exactly when it is no record.** -/
theorem fixtureOf_eq_notARecord_iff {d : TypeDeclaration} {name : String} {location : Location} :
    fixtureOf host adapters naming d = .error (.notARecord name location) ↔
      d.kind ≠ .record ∧ name = d.qualifiedName ∧ location = d.location := by
  rw [fixtureOf]
  by_cases hkind : d.kind = .record
  · have hfields : FailsWith (fun e => ¬ e.IsNotARecord) (mapFields host adapters naming d) :=
      failsWith_mapM fun field _ => failsWith_mapField_ne_notARecord d.qualifiedName field
    rw [if_neg (not_not_intro hkind)]
    constructor
    · intro h
      exact absurd trivial ((hfields.map _) _ h)
    · rintro ⟨hrecord, -, -⟩
      exact absurd hkind hrecord
  · rw [if_pos hkind, Except.error.injEq, FixtureError.notARecord.injEq, and_iff_right hkind,
      eq_comm, @eq_comm _ d.location]

/-- The check of a fixture marker on an item and the scan of a declaration go by one rule. -/
structure FixtureCheckAgrees (item : Item) (host : Host) (d : TypeDeclaration) : Prop where
  /-- The scan of the fixtures comes to the declaration. -/
  marked : d ∈ host.markedTypes .fixture
  /-- The step of the scan at the declaration. -/
  step : ∀ adapters naming, checkMarker .fixture true item = .ok () ↔
    ∀ name location, fixtureOf host adapters naming d ≠ .error (.notARecord name location)
  refused : ∀ adapters naming, checkMarker .fixture true item ≠ .ok () →
    fixtureOf host adapters naming d = .error (.notARecord d.qualifiedName d.location)
  /-- The whole scan, where nothing else is marked. -/
  scan : host.markedTypes .fixture = [d] → ∀ adapters naming,
    (checkMarker .fixture true item = .ok () ↔
      ∀ name location, scanFixtures host adapters naming ≠ .error (.notARecord name location)) ∧
    (checkMarker .fixture true item ≠ .ok () →
      scanFixtures host adapters naming = .error (.notARecord d.qualifiedName d.location))

theorem scanFixtures_of_marked {d : TypeDeclaration} (h : host.markedTypes .fixture = [d]) :
    scanFixtures host adapters naming =
      (fixtureOf host adapters naming d).map fun f => FixtureRegistry.register .empty f := by
  rw [scanFixtures, h, List.mapM_cons, List.mapM_nil]
  cases fixtureOf host adapters naming d <;> rfl

theorem fixtureCheckAgrees_of_kind {item : Item} {d : TypeDeclaration}
    (hmarked : d ∈ host.markedTypes .fixture)
    (hkind : checkFixture item = .ok () ↔ d.kind = .record) : FixtureCheckAgrees item host d := by
  have hcheck : checkMarker .fixture true item = .ok () ↔ d.kind = .record := hkind
  have hstep : ∀ adapters naming, checkMarker .fixture true item = .ok () ↔
      ∀ name location, fixtureOf host adapters naming d ≠ .error (.notARecord name location) := by
    intro adapters naming
    rw [hcheck]
    constructor
    · intro hrecord name location h
      exact (fixtureOf_eq_notARecord_iff.mp h).1 hrecord
    · intro h
      by_contra hrecord
      exact h _ _ (fixtureOf_eq_notARecord_iff.mpr ⟨hrecord, rfl, rfl⟩)
  have hrefused : ∀ adapters naming, checkMarker .fixture true item ≠ .ok () →
      fixtureOf host adapters naming d = .error (.notARecord d.qualifiedName d.location) := by
    intro adapters naming h
    exact fixtureOf_eq_notARecord_iff.mpr ⟨mt hcheck.mpr h, rfl, rfl⟩
  refine ⟨hmarked, hstep, hrefused, fun halone adapters naming => ?_⟩
  simp only [scanFixtures_of_marked halone, ne_eq, exceptMap_eq_error_iff]
  exact ⟨hstep adapters naming, hrefused adapters naming⟩

end Fixtures

/-! ## Adapters -/

section Adapters

variable {host : Host} {f : Function}

theorem returnsSomething_eq (t : ScopeTable) (module : String) (f : Function) :
    returnsSomething f = (resultOf t module f.result).isSome := by
  rw [returnsSomething]
  cases f.result with
  | none => rfl
  | some type => cases type <;> rfl

/-- **The check of a function is the rule of the scan**, asked of the declaration that the index
has for it. -/
theorem checkAdapter_eq (t : ScopeTable) (c : ItemContext) (scope : String) (f : Function) :
    checkAdapter (.function f) =
      ((adapterTarget (functionOf t c scope false f)).map fun _ => ()).mapError
        (MarkerMisuse.invalidAdapter f.name.text) := by
  have hassociated : (functionOf t c scope false f).associated = false := rfl
  have hcount : (functionOf t c scope false f).parameterCount = f.parameterCount := rfl
  have hresult : (functionOf t c scope false f).returnType = resultOf t c.module f.result := rfl
  rw [checkAdapter, returnsSomething_eq t c.module f, adapterTarget, hassociated, hcount, hresult,
    if_neg Bool.false_ne_true]
  split
  · rfl
  · cases resultOf t c.module f.result <;> rfl

/-- The check of an adapter marker on a function and the scan of a declaration go by one rule. -/
structure AdapterCheckAgrees (f : Function) (host : Host) (g : FunctionDeclaration) : Prop where
  /-- The scan of the adapters comes to the declaration. -/
  marked : g ∈ host.markedFunctions .fixtureAdapter
  /-- The check accepts the function or names a violation. -/
  check : checkMarker .fixtureAdapter true (.function f) = .ok () ∨
    ∃ violation, checkMarker .fixtureAdapter true (.function f) =
      .error (.invalidAdapter f.name.text violation)
  /-- Parameters are a violation. -/
  parameters : checkMarker .fixtureAdapter true (.function f) =
    .error (.invalidAdapter f.name.text .hasParameters) ↔ 0 < f.parameterCount
  /-- Without parameters, a missing result is one, and so is a result of no value. -/
  result : checkMarker .fixtureAdapter true (.function f) =
      .error (.invalidAdapter f.name.text .noReturnType) ↔
    f.parameterCount = 0 ∧ (f.result = none ∨ f.result = some .unit)
  /-- The step of the scan at the declaration. -/
  step : checkMarker .fixtureAdapter true (.function f) = .ok () ↔ ∃ a, adapterOf g = .ok a
  violation : ∀ violation,
    checkMarker .fixtureAdapter true (.function f) = .error (.invalidAdapter f.name.text violation) ↔
      adapterOf g = .error (.invalidAdapter g.qualifiedName violation g.location)
  /-- The whole scan, where nothing else is marked. -/
  scan : host.markedFunctions .fixtureAdapter = [g] →
    (checkMarker .fixtureAdapter true (.function f) = .ok () ↔
      ∃ registry, scanAdapters host = .ok registry) ∧
    ∀ violation, checkMarker .fixtureAdapter true (.function f) =
        .error (.invalidAdapter f.name.text violation) ↔
      scanAdapters host = .error (.invalidAdapter g.qualifiedName violation g.location)

theorem scanAdapters_of_marked {g : FunctionDeclaration}
    (h : host.markedFunctions .fixtureAdapter = [g]) :
    scanAdapters host = (adapterOf g).map fun a => AdapterRegistry.insert .empty a := by
  rw [scanAdapters, h, List.mapM_cons, List.mapM_nil]
  cases adapterOf g <;> rfl

/-- What the check of a function finds, in terms of the function. -/
theorem checkAdapter_cases (f : Function) :
    (checkAdapter (.function f) = .error (.invalidAdapter f.name.text .hasParameters) ↔
      0 < f.parameterCount) ∧
    (checkAdapter (.function f) = .error (.invalidAdapter f.name.text .noReturnType) ↔
      f.parameterCount = 0 ∧ (f.result = none ∨ f.result = some .unit)) := by
  rw [checkAdapter, returnsSomething]
  rcases Nat.eq_zero_or_pos f.parameterCount with hcount | hcount
  · rw [hcount, if_neg (Nat.lt_irrefl 0)]
    cases f.result with
    | none => simp
    | some type => cases type <;> simp
  · simp [hcount, Nat.pos_iff_ne_zero.mp hcount]

/-- **The check of a function and the scan of a declaration agree** if the check is the rule of the
scan at the declaration. -/
theorem adapterCheckAgrees_of_check {g : FunctionDeclaration}
    (hmarked : g ∈ host.markedFunctions .fixtureAdapter)
    (hcheck : checkMarker .fixtureAdapter true (.function f) =
      ((adapterTarget g).map fun _ => ()).mapError (MarkerMisuse.invalidAdapter f.name.text)) :
    AdapterCheckAgrees f host g := by
  obtain ⟨hparameters, hresult⟩ : (checkMarker .fixtureAdapter true (.function f) = _ ↔ _) ∧
      (checkMarker .fixtureAdapter true (.function f) = _ ↔ _) := checkAdapter_cases f
  have hok : checkMarker .fixtureAdapter true (.function f) = .ok () ↔
      ∃ a, adapterOf g = .ok a := by
    rw [hcheck, adapterOf]
    cases adapterTarget g <;> simp [Except.map, Except.mapError]
  have herror : ∀ violation, checkMarker .fixtureAdapter true (.function f) =
        .error (.invalidAdapter f.name.text violation) ↔
      adapterOf g = .error (.invalidAdapter g.qualifiedName violation g.location) := by
    intro violation
    rw [hcheck, adapterOf]
    cases adapterTarget g <;> simp [Except.map, Except.mapError]
  have hcases : checkMarker .fixtureAdapter true (.function f) = .ok () ∨ ∃ violation,
      checkMarker .fixtureAdapter true (.function f) =
        .error (.invalidAdapter f.name.text violation) := by
    rw [hcheck]
    cases adapterTarget g with
    | error violation => exact Or.inr ⟨violation, rfl⟩
    | ok target => exact Or.inl rfl
  refine ⟨hmarked, hcases, hparameters, hresult, hok, herror, fun halone => ?_⟩
  simp only [scanAdapters_of_marked halone, exceptMap_eq_ok_iff, exceptMap_eq_error_iff]
  refine ⟨hok.trans ⟨?_, ?_⟩, herror⟩
  · rintro ⟨a, ha⟩
    exact ⟨_, a, ha, rfl⟩
  · rintro ⟨_, a, ha, -⟩
    exact ⟨a, ha⟩

end Adapters

/-! ## The rules agree -/

theorem placedItems_singleton (path : String) {item : Item}
    (hitem : ∀ c, placeInside c item = []) :
    placedItems [⟨path, [item]⟩] = [⟨contextOf 0 ⟨path, [item]⟩, item⟩] := by
  have hplaced : placedItems [⟨path, [item]⟩] = placeItems (contextOf 0 ⟨path, [item]⟩) [item] :=
    List.append_nil _
  rw [hplaced, placeItems, hitem]
  rfl

theorem placeInside_of_declaresType {item : Item} (hitem : item.DeclaresType)
    (attributes : List Attribute) (c : ItemContext) :
    placeInside c (item.withAttributes attributes) = [] := by
  cases item with
  | record own name fields => rfl
  | enumeration own name variants => rfl
  | union own name => rfl
  | _ => exact absurd hitem id

/-- **The check of a marker and the scan of what it marks go by the same rules**, wherever a marked
item stands, and in particular if it stands alone.

* An item that declares a type is accepted by the check of a fixture marker exactly when the scan of
  the fixtures does not report that its declaration is no record.
* A free function is accepted by the check of an adapter marker exactly when the scan of the
  adapters succeeds.  Otherwise both name the same violation: parameters, if there are any, and else
  a missing result, which the type of no value is as well. -/
theorem marker_checks_agree_with_scans (attributes : List Attribute) :
    (Marker.fixture ∈ markersOf attributes → ∀ item : Item, item.DeclaresType →
      (∀ files, ∀ p ∈ placedItems files, p.item = item.withAttributes attributes →
        ∃ indexed, p.type? (scopesOf files) = some indexed ∧
          FixtureCheckAgrees item (SourceIndex.ofFiles files).toHost indexed.declaration) ∧
      ∀ path adapters naming, checkMarker .fixture true item = .ok () ↔ ∀ name location,
        scanFixtures (SourceIndex.ofFiles [⟨path, [item.withAttributes attributes]⟩]).toHost adapters
          naming ≠ .error (.notARecord name location)) ∧
    (Marker.fixtureAdapter ∈ markersOf attributes → ∀ f : Function,
      (∀ files, ∀ p ∈ placedItems files, p.item = (Item.function f).withAttributes attributes →
        AdapterCheckAgrees f (SourceIndex.ofFiles files).toHost (functionOf (scopesOf files)
          p.context p.context.module false { f with attributes := attributes })) ∧
      ∀ path, let host :=
          (SourceIndex.ofFiles [⟨path, [(Item.function f).withAttributes attributes]⟩]).toHost
        (checkMarker .fixtureAdapter true (.function f) = .ok () ↔
          ∃ registry, scanAdapters host = .ok registry) ∧
        ∀ violation, checkMarker .fixtureAdapter true (.function f) =
            .error (.invalidAdapter f.name.text violation) ↔
          ∃ name location, scanAdapters host = .error (.invalidAdapter name violation location)) := by
  constructor
  · intro hmarker item hitem
    have hplaced : ∀ files, ∀ p ∈ placedItems files, p.item = item.withAttributes attributes →
        ∃ indexed, p.type? (scopesOf files) = some indexed ∧
          FixtureCheckAgrees item (SourceIndex.ofFiles files).toHost indexed.declaration := by
      intro files p hp hpitem
      obtain ⟨indexed, htype, hmarkers, hkind⟩ :=
        exists_type?_of_declaresType (scopesOf files) hitem hpitem
      refine ⟨indexed, htype, fixtureCheckAgrees_of_kind ?_ hkind⟩
      exact declaration_mem_markedTypes hp htype (hmarkers ▸ hmarker)
    refine ⟨hplaced, fun path adapters naming => ?_⟩
    have halone := placedItems_singleton path (placeInside_of_declaresType hitem attributes)
    obtain ⟨indexed, htype, hagrees⟩ := hplaced [⟨path, [item.withAttributes attributes]⟩]
      ⟨contextOf 0 ⟨path, [item.withAttributes attributes]⟩, item.withAttributes attributes⟩
      (halone ▸ List.mem_singleton_self _) rfl
    have htypes : (SourceIndex.ofFiles [⟨path, [item.withAttributes attributes]⟩]).types =
        [indexed] := by
      rw [SourceIndex.types_ofFiles, halone, List.filterMap_cons, htype]
      rfl
    exact (hagrees.scan (markedTypes_of_types_eq htypes hagrees.marked) adapters naming).1
  · intro hmarker f
    have hplaced : ∀ files, ∀ p ∈ placedItems files,
        p.item = (Item.function f).withAttributes attributes →
        AdapterCheckAgrees f (SourceIndex.ofFiles files).toHost (functionOf (scopesOf files)
          p.context p.context.module false { f with attributes := attributes }) := by
      rintro files ⟨context, placed⟩ hp rfl
      refine adapterCheckAgrees_of_check ?_ (checkAdapter_eq (scopesOf files) context
        context.module _)
      exact function_mem_markedFunctions hp (List.mem_singleton_self _) hmarker
    refine ⟨hplaced, fun path => ?_⟩
    have halone : placedItems [⟨path, [(Item.function f).withAttributes attributes]⟩] = _ :=
      placedItems_singleton path fun _ => rfl
    have hagrees := hplaced [⟨path, [(Item.function f).withAttributes attributes]⟩]
      ⟨contextOf 0 ⟨path, [(Item.function f).withAttributes attributes]⟩,
        (Item.function f).withAttributes attributes⟩ (halone ▸ List.mem_singleton_self _) rfl
    have hfunctions : (SourceIndex.ofFiles
        [⟨path, [(Item.function f).withAttributes attributes]⟩]).functions = _ :=
      (SourceIndex.functions_ofFiles _).trans (congrArg _ halone)
    obtain ⟨hok, herror⟩ :=
      hagrees.scan (markedFunctions_of_functions_eq hfunctions hagrees.marked)
    refine ⟨hok, fun violation => (herror violation).trans ⟨fun h => ⟨_, _, h⟩, ?_⟩⟩
    rintro ⟨name, location, hscan⟩
    -- the scan has failed, so the check names a violation, and the scan names the same
    rcases hagrees.check with haccepted | ⟨other, hother⟩
    · obtain ⟨registry, hregistry⟩ := hok.mp haccepted
      cases hregistry.symm.trans hscan
    · have hsame := (herror other).mp hother
      cases hsame.symm.trans hscan
      exact hsame

/-- A struct without fields is accepted by both checks of a fixture, and a union by neither.  A
function that returns the type of no value lacks a result for both checks of an adapter, unless it
has parameters as well. -/
theorem marker_checks_agree_with_scans_on_shapes :
    let fixture : List Attribute := [⟨["fixture"]⟩]
    let adapter : List Attribute := [⟨["fixturegen", "fixture_adapter"]⟩]
    let empty : Item := .record [] ⟨"Empty", ⟨1, 12⟩⟩ (.named [])
    let bits : Item := .union [] ⟨"Bits", ⟨1, 11⟩⟩
    let supply : Nat → Function := fun parameters => ⟨[], ⟨"supply", ⟨1, 4⟩⟩, parameters, some .unit⟩
    let alone : List Attribute → Item → Host := fun attributes item =>
      (SourceIndex.ofFiles [⟨"src/lib.rs", [item.withAttributes attributes]⟩]).toHost
    Marker.fixture ∈ markersOf fixture ∧ Marker.fixtureAdapter ∈ markersOf adapter ∧
    checkMarker .fixture true empty = .ok () ∧
    (∀ adapters naming name location, scanFixtures (alone fixture empty) adapters naming ≠
      .error (.notARecord name location)) ∧
    checkMarker .fixture true bits ≠ .ok () ∧
    (∀ adapters naming, ∃ name location, scanFixtures (alone fixture bits) adapters naming =
      .error (.notARecord name location)) ∧
    (∃ name location, scanAdapters (alone adapter (.function (supply 0))) =
      .error (.invalidAdapter name .noReturnType location)) ∧
    (∃ name location, scanAdapters (alone adapter (.function (supply 1))) =
      .error (.invalidAdapter name .hasParameters location)) := by
  intro fixture adapter empty bits supply alone
  have hfixture : Marker.fixture ∈ markersOf fixture := by decide
  have hadapter : Marker.fixtureAdapter ∈ markersOf adapter := by decide
  have hempty := ((marker_checks_agree_with_scans fixture).1 hfixture empty trivial).2 "src/lib.rs"
  have hbits := ((marker_checks_agree_with_scans fixture).1 hfixture bits trivial).2 "src/lib.rs"
  have hsupply := fun parameters =>
    (((marker_checks_agree_with_scans adapter).2 hadapter (supply parameters)).2 "src/lib.rs").2
  have hrefused : checkMarker .fixture true bits ≠ .ok () := by decide
  refine ⟨hfixture, hadapter, rfl, fun adapters naming => (hempty adapters naming).mp rfl, hrefused,
    fun adapters naming => ?_, (hsupply 0 .noReturnType).mp rfl, (hsupply 1 .hasParameters).mp rfl⟩
  by_contra hnone
  refine hrefused ((hbits adapters naming).mpr fun name location h => hnone ⟨name, location, h⟩)

end FixtureFactory
