import FixtureFactory.Proofs.Discovery
import FixtureFactory.Proofs.Listing
import FixtureFactory.Proofs.OptionLayer
import FixtureFactory.Proofs.References

/-!
# What a run over sources can fail by

Some errors have a branch of their own in the engine and should never be seen by somebody who hands
in sources: a unit that the host does not have, an adapter that is gone when its value is asked for,
a phase at the wrong time, a receiver that refuses.  This file proves that a run over the index of a
set of sources never ends with one of them.  What is left are the faults of the sources themselves
(`FixtureError.BlamesSources`).

## Why the branches are dead

* *Units.*  A declaration of an index stands in one of the files, and the unit of that file is among
  the units (`SourceIndex.exists_unit?_of_mem_declarations`).
* *Adapters.*  A parameter is classified as supplied by an adapter because the registry answered for
  its type.  The build asks the same registry about the same type
  (`exists_find?_of_classify_adapterSupplied`).
* *Phases.*  A run starts where the first phase is due, and each phase leaves the pipeline where the
  next one is.
* *The receiver.*  The receiver that renders takes every unit.

## How errors are followed

`FailsWith P` says that all errors of a computation satisfy `P`.  A scan and a build are made of
steps, and every way of joining steps keeps the property, so each function needs to be looked at
once and only for the errors that it throws itself.
-/

namespace FixtureFactory

/-- The error is a fault of the sources: of what is marked, of a type, or of a name.  The others are
faults of the engine, of its caller, or of its receiver. -/
def FixtureError.BlamesSources : FixtureError → Prop
  | .missingAdapter _ _ => False
  | .invalidOption _ _ _ => False
  | .emit _ _ => False
  | .internal _ => False
  | _ => True

/-! ## Errors of computations -/

section Errors

variable {ε ε' α β : Type} {P : ε → Prop}

/-- All errors of an outcome satisfy `P`. -/
def FailsWith (P : ε → Prop) (x : Except ε α) : Prop := ∀ e, x = .error e → P e

theorem failsWith_ok (a : α) : FailsWith P (.ok a) := by
  intro e h
  cases h

theorem failsWith_error {e : ε} (h : P e) : FailsWith P (.error e : Except ε α) := by
  intro e' he
  cases he
  exact h

theorem FailsWith.map {x : Except ε α} (hx : FailsWith P x) (f : α → β) :
    FailsWith P (x.map f) := by
  cases x with
  | error e => exact failsWith_error (hx e rfl)
  | ok a => exact failsWith_ok (f a)

theorem FailsWith.bind {x : Except ε α} (hx : FailsWith P x) {f : α → Except ε β}
    (hf : ∀ a, FailsWith P (f a)) : FailsWith P (x >>= f) := by
  cases x with
  | error e => exact failsWith_error (hx e rfl)
  | ok a => exact hf a

theorem FailsWith.mapError {x : Except ε α} {P' : ε' → Prop} (hx : FailsWith P x) {f : ε → ε'}
    (hf : ∀ e, P e → P' (f e)) : FailsWith P' (x.mapError f) := by
  cases x with
  | error e => exact failsWith_error (hf e (hx e rfl))
  | ok a => exact failsWith_ok a

theorem failsWith_mapError {x : Except ε α} {P' : ε' → Prop} {f : ε → ε'} (hf : ∀ e, P' (f e)) :
    FailsWith P' (x.mapError f) :=
  FailsWith.mapError (P := fun _ => True) (fun _ _ => trivial) fun e _ => hf e

/-- **A traversal fails only by an error of one of its steps.** -/
theorem failsWith_mapM {f : α → Except ε β} {xs : List α} (hf : ∀ x ∈ xs, FailsWith P (f x)) :
    FailsWith P (xs.mapM f) := by
  induction xs with
  | nil => exact failsWith_ok []
  | cons x xs ih =>
      obtain ⟨hx, hxs⟩ := List.forall_mem_cons.mp hf
      have hrest := ih hxs
      rw [List.mapM_cons]
      cases hfx : f x with
      | error e => exact failsWith_error (hx e hfx)
      | ok y =>
          cases hmap : xs.mapM f with
          | error e => exact failsWith_error (hrest e hmap)
          | ok ys => exact failsWith_ok (y :: ys)

end Errors

namespace Build

variable {α β : Type} {P : FixtureError → Prop}

/-- Whatever is drawn, all errors of a build satisfy `P`. -/
def FailsWith (P : FixtureError → Prop) (x : Build α) : Prop :=
  ∀ s e s', x.run s = (.error e, s') → P e

theorem failsWith_pure (a : α) : FailsWith P (pure a : Build α) := by
  intro s e s' h
  cases h

theorem failsWith_throw {e : FixtureError} (h : P e) : FailsWith P (throw e : Build α) := by
  intro s e' s' he
  cases he
  exact h

theorem failsWith_draw (d : Draw α) : FailsWith P (liftM d : Build α) := by
  intro s e s' h
  rw [run_draw] at h
  cases h

/-- **A sequence fails only by an error of one of its parts**, and its second part runs only on what
the first one yields. -/
theorem FailsWith.bind {x : Build α} {f : α → Build β} (hx : FailsWith P x)
    (hf : ∀ a, Yields x a → FailsWith P (f a)) : FailsWith P (x >>= f) := by
  intro s e s' h
  rw [run_bind] at h
  rcases hrun : x.run s with ⟨e₁ | a, s₁⟩
  · rw [hrun] at h
    cases h
    exact hx s e s' hrun
  · rw [hrun] at h
    exact hf a ⟨s, s₁, hrun⟩ s₁ e s' h

theorem failsWith_mapM {f : α → Build β} {xs : List α} (hf : ∀ x ∈ xs, FailsWith P (f x)) :
    FailsWith P (xs.mapM f) := by
  induction xs with
  | nil =>
      rw [List.mapM_nil]
      exact failsWith_pure []
  | cons x xs ih =>
      obtain ⟨hx, hxs⟩ := List.forall_mem_cons.mp hf
      rw [List.mapM_cons]
      exact hx.bind fun y _ => (ih hxs).bind fun ys _ => failsWith_pure (y :: ys)

end Build

/-! ## Hosts that know their units -/

/-- The host has the unit of every declaration that it hands out. -/
structure Host.KnowsUnits (host : Host) : Prop where
  /-- The declarations that types refer to. -/
  resolved : ∀ {t d}, host.resolve t = some d → ∃ source, host.unit? d.unit = some source
  /-- The marked declarations. -/
  marked : ∀ {m d}, d ∈ host.markedTypes m → ∃ source, host.unit? d.unit = some source

namespace SourceIndex

section Items

variable {t : ScopeTable}

mutual

/-- The types that an item declares belong to the unit of the item. -/
theorem unit_of_mem_typesOfItem {c : ItemContext} {indexed : IndexedType} :
    ∀ item : Source.Item, indexed ∈ typesOfItem t c item → indexed.declaration.unit = c.unit
  | .record _ _ _, h => by
      rw [typesOfItem, List.mem_singleton] at h
      rw [h]
      rfl
  | .enumeration _ _ _, h => by
      rw [typesOfItem, List.mem_singleton] at h
      rw [h]
      rfl
  | .union _ _, h => by
      rw [typesOfItem, List.mem_singleton] at h
      rw [h]
      rfl
  | .module name items, h => by
      rw [typesOfItem] at h
      exact unit_of_mem_typesOfItems (c := c.within name) items h
  | .typeAlias _, h => absurd h List.not_mem_nil
  | .use _, h => absurd h List.not_mem_nil
  | .function _, h => absurd h List.not_mem_nil
  | .implementation _ _, h => absurd h List.not_mem_nil
  | .other, h => absurd h List.not_mem_nil

theorem unit_of_mem_typesOfItems {c : ItemContext} {indexed : IndexedType} :
    ∀ items : List Source.Item, indexed ∈ typesOfItems t c items →
      indexed.declaration.unit = c.unit
  | [], h => absurd h List.not_mem_nil
  | item :: items, h => by
      rw [typesOfItems, List.mem_append] at h
      rcases h with h | h
      · exact unit_of_mem_typesOfItem item h
      · exact unit_of_mem_typesOfItems items h

end

end Items

variable {files : List ParsedFile}

theorem exists_unit?_of_mem_zipIdx {file : ParsedFile} {id : Nat}
    (h : (file, id) ∈ files.zipIdx) : ∃ source, (ofFiles files).toHost.unit? id = some source := by
  have hmem : unitOf id file ∈ (ofFiles files).units :=
    List.mem_map.mpr ⟨(file, id), h, rfl⟩
  have hfound : ((ofFiles files).units.find? fun unit => unit.id == id).isSome = true :=
    List.find?_isSome.mpr ⟨unitOf id file, hmem, beq_self_eq_true id⟩
  exact Option.isSome_iff_exists.mp hfound

/-- **The unit of every declaration of an index is among its units.** -/
theorem exists_unit?_of_mem_declarations {d : TypeDeclaration}
    (h : d ∈ (ofFiles files).declarations) :
    ∃ source, (ofFiles files).toHost.unit? d.unit = some source := by
  obtain ⟨indexed, hindexed, rfl⟩ := List.mem_map.mp h
  obtain ⟨⟨file, id⟩, hfile, hitem⟩ := List.mem_flatMap.mp hindexed
  have hunit : indexed.declaration.unit = id := unit_of_mem_typesOfItems file.items hitem
  rw [hunit]
  exact exists_unit?_of_mem_zipIdx hfile

theorem knowsUnits_toHost (files : List ParsedFile) : (ofFiles files).toHost.KnowsUnits where
  resolved := by
    intro t d hresolve
    obtain ⟨indexed, hindexed, -, hd⟩ := exists_of_lastOf_eq_some hresolve
    refine exists_unit?_of_mem_declarations (List.mem_map.mpr ⟨indexed, hindexed, ?_⟩)
    exact Option.some.inj hd
  marked := by
    intro m d hd
    exact exists_unit?_of_mem_declarations (List.mem_of_mem_filter hd)

end SourceIndex

/-! ## Scans -/

section Scans

variable {host : Host} {adapters : AdapterRegistry} {naming : Naming}

theorem failsWith_scanAdapters (host : Host) :
    FailsWith FixtureError.BlamesSources (scanAdapters host) := by
  have hsteps : FailsWith FixtureError.BlamesSources
      ((host.markedFunctions .fixtureAdapter).mapM adapterOf) := by
    refine failsWith_mapM fun f _ => ?_
    rw [adapterOf]
    cases adapterTarget f with
    | ok target => exact failsWith_ok _
    | error violation => exact failsWith_error trivial
  exact hsteps.map _

theorem exists_factoryOf (hhost : host.KnowsUnits) {t : TypeRef} {d : TypeDeclaration}
    (h : host.resolve t = some d) : ∃ ref, factoryOf host naming d = .ok ref := by
  obtain ⟨source, hsource⟩ := hhost.resolved h
  exact ⟨_, factoryOf_eq_ok_iff.mpr ⟨source, hsource, rfl⟩⟩

/-- Where the host knows its units, every case can be classified. -/
theorem exists_sealedEntry (hhost : host.KnowsUnits) (c : CaseDeclaration) :
    ∃ entry, sealedEntry host naming c = .ok entry := by
  rw [sealedEntry]
  cases c.shape with
  | unit => exact ⟨_, rfl⟩
  | fields => exact ⟨_, rfl⟩
  | wrapping inner =>
      dsimp only
      cases hwrapped : wrappedFixture? host inner with
      | none => exact ⟨_, rfl⟩
      | some d =>
          obtain ⟨hresolve, -⟩ := wrappedFixture?_eq_some_iff.mp hwrapped
          obtain ⟨ref, href⟩ : ∃ ref, factoryOf host naming d = .ok ref :=
            exists_factoryOf hhost hresolve
          dsimp only
          rw [href]
          exact ⟨_, rfl⟩

/-- So can every declaration that a type refers to. -/
theorem exists_declaredKind? (hhost : host.KnowsUnits) {t : TypeRef} {d : TypeDeclaration}
    (h : host.resolve t = some d) : ∃ kind, declaredKind? host naming d = .ok kind := by
  rw [declaredKind?]
  split
  · obtain ⟨ref, href⟩ : ∃ ref, factoryOf host naming d = .ok ref := exists_factoryOf hhost h
    rw [href]
    exact ⟨_, rfl⟩
  · cases d.kind with
    | sealed =>
        obtain ⟨entries, hentries⟩ : ∃ entries, List.Forall₂
            (fun c entry => sealedEntry host naming c = .ok entry) (host.cases d) entries :=
          exists_forall₂_iff.mpr fun c _ => exists_sealedEntry hhost c
        simp only [(mapM_eq_ok_iff ..).mpr hentries]
        exact ⟨_, rfl⟩
    | _ => exact ⟨_, rfl⟩

/-- **How the classification of a field can fail**: for its type, or at the declaration that the
type refers to. -/
theorem failsWith_mapField_of {P : FixtureError → Prop}
    (htype : ∀ type field fixture, P (.unsupportedType type field fixture) ∧
      P (.unsupportedCollection type field fixture))
    (hdeclared : ∀ t d, host.resolve t = some d → FailsWith P (declaredKind? host naming d))
    (owner : String) (field : Field) : FailsWith P (mapField host adapters naming owner field) := by
  have hcollection : FailsWith P (classifyCollection owner field) := by
    rw [classifyCollection]
    cases Collection.of? field.type with
    | some kind => exact failsWith_ok _
    | none => exact failsWith_error (htype _ _ _).1
  have hlater : FailsWith P (classifyDeclared host naming owner field) := by
    rw [classifyDeclared]
    cases hresolve : host.resolve field.type with
    | none => exact hcollection
    | some d =>
        rcases hkind : declaredKind? host naming d with e | ⟨⟨⟩ | kind⟩
        · simp only [hkind]
          exact failsWith_error (hdeclared _ d hresolve e hkind)
        · simp only [hkind]
          exact hcollection
        · simp only [hkind]
          exact failsWith_ok _
  have hclassify : FailsWith P (classify host adapters naming owner field) := by
    rw [classify]
    split
    · exact failsWith_ok _
    · split
      · exact failsWith_ok _
      · split
        · exact failsWith_ok _
        · exact hlater
  refine hclassify.mapError fun e he => ?_
  -- a reworded error blames the same type
  cases e with
  | unsupportedType type field fixture =>
      rw [reportContainer]
      split
      · exact (htype _ _ _).2
      · exact he
  | _ => exact he

/-- **A field is refused for its type.** -/
theorem failsWith_mapField (hhost : host.KnowsUnits) (owner : String) (field : Field) :
    FailsWith FixtureError.BlamesSources (mapField host adapters naming owner field) := by
  refine failsWith_mapField_of (fun _ _ _ => ⟨trivial, trivial⟩) (fun t d hresolve => ?_) owner field
  obtain ⟨kind, hkind⟩ : ∃ kind, declaredKind? host naming d = .ok kind :=
    exists_declaredKind? hhost hresolve
  rw [hkind]
  exact failsWith_ok _

/-- **A declaration is refused for its kind or for a field.** -/
theorem failsWith_scanFixtures (hhost : host.KnowsUnits) :
    FailsWith FixtureError.BlamesSources (scanFixtures host adapters naming) := by
  have hsteps : FailsWith FixtureError.BlamesSources
      ((host.markedTypes .fixture).mapM (fixtureOf host adapters naming)) := by
    refine failsWith_mapM fun d _ => ?_
    rw [fixtureOf]
    split
    · exact failsWith_error trivial
    · exact (failsWith_mapM fun field _ =>
        failsWith_mapField hhost d.qualifiedName field).map _
  exact hsteps.map _

end Scans

/-! ## Parameters that adapters supply -/

section Supplied

variable {host : Host} {adapters : AdapterRegistry} {naming : Naming} {owner : String}
  {field : Field} {q : Parameter}

theorem kind_ne_adapterSupplied_of_classifyCollection (h : classifyCollection owner field = .ok q) :
    q.kind ≠ .adapterSupplied := by
  rw [classifyCollection] at h
  cases hkind : Collection.of? field.type with
  | none =>
      rw [hkind] at h
      cases h
  | some kind =>
      rw [hkind] at h
      cases h
      simp

theorem kind_ne_adapterSupplied_of_classifyDeclared
    (h : classifyDeclared host naming owner field = .ok q) : q.kind ≠ .adapterSupplied := by
  rw [classifyDeclared] at h
  cases hresolve : host.resolve field.type with
  | none =>
      rw [hresolve] at h
      exact kind_ne_adapterSupplied_of_classifyCollection h
  | some d =>
      simp only [hresolve] at h
      rcases hdeclared : declaredKind? host naming d with e | ⟨⟨⟩ | kind⟩
      · rw [hdeclared] at h
        cases h
      · rw [hdeclared] at h
        exact kind_ne_adapterSupplied_of_classifyCollection h
      · rw [hdeclared] at h
        cases h
        rcases declaredKind?_cases hdeclared with ⟨-, ref, -, rfl⟩ | rfl | ⟨entries, rfl, -⟩ <;>
          simp

/-- **A parameter that an adapter supplies has its adapter.**  Only the first rule classifies a
field so, and it does because the registry has an adapter for the type, which the parameter keeps.
-/
theorem exists_find?_of_classify_adapterSupplied
    (h : classify host adapters naming owner field = .ok q) (hkind : q.kind = .adapterSupplied) :
    ∃ a, adapters.find? q.type = some a := by
  rw [type_of_classify_adapterSupplied h hkind]
  by_cases hcontains : adapters.contains field.type = true
  · exact Option.isSome_iff_exists.mp hcontains
  · rw [classify, if_neg hcontains] at h
    exfalso
    split at h
    · cases h
      cases hkind
    · split at h
      · cases h
        cases hkind
      · exact kind_ne_adapterSupplied_of_classifyDeclared h hkind

end Supplied

/-! ## Builds -/

namespace DefaultValue

open Build

/-- There may be no entry to take. -/
theorem failsWith_pick {α : Type} (randomize : Bool) (entries : List α) (type : TypeRef)
    (field : String) :
    Build.FailsWith FixtureError.BlamesSources (pick randomize entries type field) := by
  cases randomize with
  | true =>
      refine (failsWith_draw (Draw.choose entries)).bind fun entry _ => ?_
      cases entry with
      | none => exact failsWith_throw trivial
      | some e => exact failsWith_pure e
  | false =>
      refine (failsWith_pure entries.head?).bind fun entry _ => ?_
      cases entry with
      | none => exact failsWith_throw trivial
      | some e => exact failsWith_pure e

theorem failsWith_sealedValue (type : TypeRef) (field : String) (entry : SealedEntry) :
    FixtureFactory.FailsWith FixtureError.BlamesSources (sealedValue type field entry) := by
  rcases sealedValue_cases type field entry with ⟨-, hv⟩ | ⟨factory, -, hv⟩ | ⟨-, hv⟩ <;> rw [hv]
  · exact failsWith_ok _
  · exact failsWith_ok _
  · exact failsWith_error trivial

/-- **A value fails for its entries**, if it has its adapter where it needs one. -/
theorem failsWith_value (randomize : Bool) {r : AdapterRegistry} {p : Parameter}
    (hp : p.kind = .adapterSupplied → ∃ a, r.find? p.type = some a) :
    Build.FailsWith FixtureError.BlamesSources (value randomize r p) := by
  rw [value]
  cases hkind : p.kind with
  | primitive kind =>
      dsimp only
      split
      · exact (failsWith_draw _).bind fun text _ => failsWith_pure _
      · exact failsWith_pure _
  | knownType kind =>
      dsimp only
      split
      · exact (failsWith_draw _).bind fun text _ => failsWith_pure _
      · exact failsWith_pure _
  | fixture factory => exact failsWith_pure _
  | enumeration entries =>
      exact (failsWith_pick randomize entries p.type p.name).bind fun entry _ => failsWith_pure _
  | sealed entries =>
      refine (failsWith_pick randomize entries p.type p.name).bind fun entry _ => ?_
      cases hvalue : sealedValue p.type p.name entry with
      | ok text => exact failsWith_pure _
      | error e => exact failsWith_throw (failsWith_sealedValue p.type p.name entry e hvalue)
  | collection kind elements => exact failsWith_pure _
  | adapterSupplied =>
      obtain ⟨a, ha⟩ := hp hkind
      dsimp only
      rw [ha]
      exact failsWith_pure _

theorem failsWith_generate (randomize : Bool) {r : AdapterRegistry} {p : Parameter}
    (hp : p.kind = .adapterSupplied → ∃ a, r.find? p.type = some a) :
    Build.FailsWith FixtureError.BlamesSources (generate randomize r p) := by
  rw [generate]
  refine (failsWith_draw _).bind fun isAbsent _ => ?_
  split
  · exact failsWith_pure _
  · exact (failsWith_value randomize hp).bind fun v _ => failsWith_pure _

end DefaultValue

/-- Every parameter that an adapter supplies has its adapter. -/
def Fixture.IsSupplied (adapters : AdapterRegistry) (f : Fixture) : Prop :=
  ∀ p ∈ f.parameters, p.kind = .adapterSupplied → ∃ a, adapters.find? p.type = some a

namespace BuildContext

open Build

variable {c : BuildContext}

theorem failsWith_buildFunction {f : Fixture} (hf : f.IsSupplied c.adapters) :
    Build.FailsWith FixtureError.BlamesSources (c.buildFunction f) := by
  have hparameters : Build.FailsWith FixtureError.BlamesSources
      (f.parameters.mapM c.parameterSpec) := by
    refine Build.failsWith_mapM fun p hp => ?_
    rw [parameterSpec]
    exact (DefaultValue.failsWith_generate c.randomize (hf p hp)).bind fun _ _ => failsWith_pure _
  exact hparameters.bind fun _ _ => failsWith_pure _

theorem failsWith_claimItems (unit owner : String) (names : List String) (taken : Claims) :
    FixtureFactory.FailsWith FixtureError.BlamesSources (claimItems unit owner names taken) := by
  induction names generalizing taken with
  | nil => exact failsWith_ok taken
  | cons name names ih =>
      rw [claimItems]
      split
      · exact failsWith_error trivial
      · exact ih _

theorem failsWith_buildFunctions (unit : String) {fs : List Fixture}
    (hfs : ∀ f ∈ fs, f.IsSupplied c.adapters) (taken : Claims) :
    Build.FailsWith FixtureError.BlamesSources (c.buildFunctions unit fs taken) := by
  induction fs generalizing taken with
  | nil => exact failsWith_pure []
  | cons f fs ih =>
      obtain ⟨hf, hfs⟩ := List.forall_mem_cons.mp hfs
      rw [buildFunctions]
      refine (failsWith_buildFunction hf).bind fun fn _ => ?_
      cases hclaim : claimItems unit f.qualifiedName fn.itemNames taken with
      | error e => exact failsWith_throw (failsWith_claimItems _ _ _ _ e hclaim)
      | ok taken' => exact (ih hfs taken').bind fun _ _ => failsWith_pure _

/-- **A build fails for entries or for names**, if the host has the units of the fixtures and the
registry the adapters of their parameters. -/
theorem failsWith_buildGroups {host : Host} {groups : List UnitFixtures}
    (hunits : ∀ group ∈ groups, ∃ source, host.unit? group.unit = some source)
    (hfs : ∀ group ∈ groups, ∀ f ∈ group.fixtures, f.IsSupplied c.adapters) (taken : Claims) :
    Build.FailsWith FixtureError.BlamesSources (c.buildGroups host groups taken) := by
  induction groups generalizing taken with
  | nil => exact failsWith_pure []
  | cons group groups ih =>
      obtain ⟨⟨source, hsource⟩, hunits⟩ := List.forall_mem_cons.mp hunits
      obtain ⟨hgroup, hfs⟩ := List.forall_mem_cons.mp hfs
      have hunit : Build.FailsWith FixtureError.BlamesSources (c.buildUnit source group) := by
        rw [buildUnit]
        exact (failsWith_buildFunctions _ hgroup []).bind fun _ _ => failsWith_pure _
      rw [buildGroups, hsource]
      refine hunit.bind fun unit _ => ?_
      cases taken.lookup unit.name with
      | some first => exact failsWith_throw trivial
      | none => exact (ih hunits hfs _).bind fun _ _ => failsWith_pure _

end BuildContext

/-! ## Runs -/

namespace Pipeline

variable {σ : Type} {host : Host} {p : Pipeline}

/-- **What the scans find is supplied**: the parameters have been classified by the registry that
the build uses. -/
theorem isSupplied_of_scanned (h : p.Scanned host) {f : Fixture} (hf : f ∈ p.fixtures.toList) :
    f.IsSupplied p.adapters := by
  intro q hq hkind
  obtain ⟨owner, -, -, -, hfields⟩ := exists_scansTo_of_mem_toList h hf
  obtain ⟨field, -, hclassify⟩ := exists_mem_left_of_forall₂ hfields hq
  exact exists_find?_of_classify_adapterSupplied hclassify hkind

/-- The host has the units of what the scans find. -/
theorem exists_unit?_of_scanned (hhost : host.KnowsUnits) (h : p.Scanned host)
    {group : UnitFixtures} (hgroup : group ∈ p.fixtures.groups) :
    ∃ source, host.unit? group.unit = some source := by
  obtain ⟨fs, hfs, hregistry⟩ := scanFixtures_eq_ok_iff.mp h.2
  rw [hregistry, FixtureRegistry.ofList_eq_grouped, FixtureRegistry.grouped, List.mem_map] at hgroup
  obtain ⟨g, hg, rfl⟩ := hgroup
  -- a group is not empty, and its fixtures belong to its unit
  obtain ⟨f, hf⟩ := List.exists_mem_of_ne_nil _ (snd_ne_nil_of_mem_stableGroups hg)
  have hunit : f.unit = g.1 := key_of_mem_stableGroups hg hf
  have hmem : f ∈ fs :=
    (perm_flatMap_stableGroups _ _).mem_iff.mp (List.mem_flatMap.mpr ⟨g, hg, hf⟩)
  obtain ⟨d, hd, -, hfixture, -⟩ := exists_mem_left_of_forall₂ hfs hmem
  obtain ⟨source, hsource⟩ := hhost.marked hd
  refine ⟨source, ?_⟩
  rw [← hunit, hfixture]
  exact hsource

/-- **The build of what the scans find blames the sources.** -/
theorem failsWith_units (hhost : host.KnowsUnits) (h : p.Scanned host) (entropy : RandomSource) :
    FailsWith FixtureError.BlamesSources (p.units host entropy) := by
  intro e he
  rw [units] at he
  refine BuildContext.failsWith_buildGroups (c := ⟨p.naming, p.adapters, p.options.randomize.value⟩)
    (fun group hgroup => exists_unit?_of_scanned hhost h hgroup) ?_ [] _ e _ (Prod.ext he rfl)
  intro group hgroup f hf
  exact isSupplied_of_scanned h (List.mem_flatMap.mpr ⟨group, hgroup, hf⟩)

/-- **A handing over after the scans blames the sources**, if the receiver takes every unit. -/
theorem failsWith_emit (hhost : host.KnowsUnits) (h : p.Scanned host)
    (hphase : p.phase = .fixturesScanned) (entropy : RandomSource) {receive : Receiver σ}
    (hreceive : receive.NeverRefuses) (s : σ) :
    FailsWith FixtureError.BlamesSources (p.emit host entropy receive s).1 := by
  cases hunits : p.units host entropy with
  | error e =>
      rw [p.emit_of_units_eq_error host entropy receive s hphase hunits]
      exact failsWith_error (failsWith_units hhost h entropy e hunits)
  | ok units =>
      rcases p.emit_cases host entropy receive s hphase hunits with ⟨s', -, -, hemit⟩ |
        ⟨_, refused, _, s₁, s₂, e, -, -, hrefused, -, -⟩
      · rw [hemit]
        exact failsWith_ok _
      · have hok := hreceive refused s₁
        rw [hrefused] at hok
        cases hok

/-- **A run from the start blames the sources**, over a host that knows its units and with a
receiver that takes every unit. -/
theorem failsWith_start_run (hhost : host.KnowsUnits) (options : Options) (entropy : RandomSource)
    {receive : Receiver σ} (hreceive : receive.NeverRefuses) (s : σ) :
    FailsWith FixtureError.BlamesSources ((start options).run host entropy receive s).1 := by
  rcases (start options).run_cases host entropy with ⟨-, -, hrun⟩ | ⟨-, hphase, -⟩ |
    ⟨-, e, he, hrun⟩ | ⟨-, p₁, e, hp₁, he, hrun⟩ | ⟨-, p₁, p₂, hp₁, hp₂, hrun⟩
  · rw [hrun]
    exact failsWith_ok _
  · exact absurd rfl hphase
  · rw [hrun]
    have hscan : FailsWith FixtureError.BlamesSources ((start options).withAdapters host) :=
      (failsWith_scanAdapters host).map _
    exact failsWith_error (hscan e he)
  · rw [hrun]
    obtain ⟨-, adapters, -, rfl⟩ := withAdapters_eq_ok_iff.mp hp₁
    have hscan : FailsWith FixtureError.BlamesSources (withFixtures
        { start options with adapters := adapters, phase := .adaptersScanned } host) :=
      (failsWith_scanFixtures hhost).map _
    exact failsWith_error (hscan e he)
  · rw [hrun]
    obtain ⟨-, adapters, hadapters, rfl⟩ := withAdapters_eq_ok_iff.mp hp₁
    obtain ⟨-, fixtures, hfixtures, rfl⟩ := withFixtures_eq_ok_iff.mp hp₂
    exact failsWith_emit hhost ⟨hadapters, hfixtures⟩ rfl entropy hreceive s

/-- Where a run leaves fixtures, both scans have found what the registries hold, wherever the run
has stopped. -/
theorem scanned_of_start_run (options : Options) (entropy : RandomSource) (receive : Receiver σ)
    (s : σ) {p' : Pipeline} (hp' : p' = ((start options).run host entropy receive s).2.1)
    {f : Fixture} (hf : f ∈ p'.fixtures.toList) : p'.Scanned host := by
  have hconsistent := (consistent_start options host).run entropy receive s
  rw [← hp', Consistent] at hconsistent
  have hfixtures : p'.fixtures ≠ .empty := by
    intro hnone
    rw [hnone] at hf
    exact absurd hf List.not_mem_nil
  cases hphase : p'.phase with
  | idle =>
      rw [hphase] at hconsistent
      exact absurd hconsistent.2 hfixtures
  | adaptersScanned =>
      rw [hphase] at hconsistent
      exact absurd hconsistent.2 hfixtures
  | fixturesScanned =>
      rw [hphase] at hconsistent
      exact hconsistent
  | emitted =>
      rw [hphase] at hconsistent
      rcases hconsistent with hscanned | ⟨-, -, hnone⟩
      · exact hscanned
      · exact absurd hnone hfixtures

theorem isSupplied_of_start_run (options : Options) (entropy : RandomSource) (receive : Receiver σ)
    (s : σ) {p' : Pipeline} (hp' : p' = ((start options).run host entropy receive s).2.1)
    {f : Fixture} (hf : f ∈ p'.fixtures.toList) : f.IsSupplied p'.adapters :=
  isSupplied_of_scanned (scanned_of_start_run options entropy receive s hp' hf) hf

/-- **A run over sources that can be read fails only by faults of the sources.**  No error of it
says that an adapter is missing, that an option cannot be used, that the receiver has refused a
unit, or that the engine is in a state where it should not be.  The unit of every declaration is
known, and every parameter that is classified as supplied by an adapter finds one in the registry
that its value is made with.

So what a user is told is about the files they have written.  That holds for any options, and also
of a run that stops half-way. -/
theorem run_index_blames_sources {files : List SourceFile} {index : SourceIndex}
    (hindex : SourceIndex.ofSources files = .ok index) (options : Options)
    (entropy : RandomSource) :
    (∀ e, ((start options).run index.toHost entropy Generator.rendering []).1 = .error e →
      e.BlamesSources ∧
      (∀ type field, e ≠ .missingAdapter type field) ∧ (∀ reason, e ≠ .internal reason) ∧
      (∀ unit reason, e ≠ .emit unit reason) ∧
      ∀ key value reason, e ≠ .invalidOption key value reason) ∧
    (∀ d ∈ index.declarations, ∃ source, index.toHost.unit? d.unit = some source) ∧
    ∀ p', p' = ((start options).run index.toHost entropy Generator.rendering []).2.1 →
      ∀ f ∈ p'.fixtures.toList, ∀ q ∈ f.parameters, q.kind = .adapterSupplied →
        ∃ a, p'.adapters.find? q.type = some a := by
  obtain ⟨parsed, -, rfl⟩ := exceptMap_eq_ok_iff.mp hindex
  refine ⟨fun e he => ?_, fun d hd => SourceIndex.exists_unit?_of_mem_declarations hd,
    fun p' hp' f hf => isSupplied_of_start_run options entropy Generator.rendering [] hp' hf⟩
  have hblames : e.BlamesSources :=
    failsWith_start_run (SourceIndex.knowsUnits_toHost parsed) options entropy (fun _ _ => rfl) [] e
      he
  refine ⟨hblames, ?_, ?_, ?_, ?_⟩
  · rintro type field rfl
    exact hblames
  · rintro reason rfl
    exact hblames
  · rintro unit reason rfl
    exact hblames
  · rintro key value reason rfl
    exact hblames

/-- A record with a field that an adapter supplies and one of a type that nobody knows. -/
def connectionSources : List SourceFile :=
  [⟨"lib.rs", "#[fixture_adapter] fn price() -> Money { 0 }"⟩,
   ⟨"net.rs", "#[fixture] struct Connection { cost: Money, peer: Socket }"⟩]

/-- The run over them is refused for the unknown type, and not for the adapter. -/
theorem run_index_blames_unknown_type :
    ∃ index e, SourceIndex.ofSources connectionSources = .ok index ∧
      ((start .defaults).run index.toHost ⟨fun _ => 0, 0⟩ Generator.rendering []).1 = .error e ∧
      e = .unsupportedType "Socket" "peer" "crate::net::Connection" ∧ e.BlamesSources := by
  have hunknown : (SourceIndex.ofSources connectionSources).map (fun index =>
      ((start .defaults).run index.toHost ⟨fun _ => 0, 0⟩ Generator.rendering []).1.map
        fun _ => ()) =
      .ok (.error (.unsupportedType "Socket" "peer" "crate::net::Connection")) := by
    decide +kernel
  obtain ⟨index, hindex, hfails⟩ := exceptMap_eq_ok_iff.mp hunknown
  cases hrun : ((start .defaults).run index.toHost ⟨fun _ => 0, 0⟩ Generator.rendering []).1 with
  | ok summary =>
      rw [hrun] at hfails
      cases hfails
  | error e =>
      rw [hrun] at hfails
      refine ⟨index, e, hindex, hrun, (Except.error.inj hfails).symm, ?_⟩
      exact ((run_index_blames_sources hindex .defaults ⟨fun _ => 0, 0⟩).1 e hrun).1

end Pipeline
end FixtureFactory
