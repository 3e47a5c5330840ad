import FixtureFactory.Proofs.Outcome
import FixtureFactory.Proofs.SettingLayers
import FixtureFactory.Proofs.TomlTables

/-!
# Resolved options

The options of a run are put together from a manifest, the environment and explicit options.  A
wrong value makes this fail, whichever layer it comes from and whatever the other layers say.  The
program turns every layer into steps and applies them one after another.  What the result should be
can be said without steps, from the three inputs as they are given, and this file does so first.

* `Options.supplied` lists everything that is looked at, in the order in which this happens, and
  `Supplied.Fails` says what is wrong with its members.  The error of the whole is that of the first
  member that has one (`FirstFault`).
* `Options.texts` are the texts that a layer has for a key, and `Options.Counts` says which of them
  counts: the last one of the highest layer that has any.

The rest compares this with the steps.

* `Options.texts_eq_map_layerSteps` and `Options.supplied_eq`: the steps of a layer are made from
  its texts, and the steps of all layers are what is looked at after the manifest.
* `Options.manifestLayer` is the part that reads the manifest: two passes over its table, the first
  for the types of all values and the second for the values themselves.  So a value of a wrong type
  hides every wrong text.
* `Options.value_of_resolve` reads a success off from what steps in any order leave
  (`SettingLayers`): the layers are applied from the lowest one up, so the last text stands.
* `Options.resolve_outcomes` is the result.  The table of the manifest is in the order of its keys
  (`TomlTables`).
-/

namespace FixtureFactory

/-! ## What is supplied -/

namespace OptionKey

/-- The name of a key in the table of a manifest. -/
def entryName : OptionKey → String
  | run => "run"
  | randomize => "randomize"
  | seed => "seed"
  | modulePath => "module"

/-- The variable of the environment for a key. -/
def envName : OptionKey → String
  | run => "FIXTURES_RUN"
  | randomize => "FIXTURES_RANDOMIZE"
  | seed => "FIXTURES_SEED"
  | modulePath => "FIXTURES_MODULE"

/-- The setting of a key that no layer supplies. -/
def builtIn : (k : OptionKey) → Option (Setting k.Value)
  | run => some ⟨true, .default⟩
  | randomize => some ⟨false, .default⟩
  | seed => none
  | modulePath => some ⟨"crate::fixtures", .default⟩

theorem text_eq_iff {k : OptionKey} {name : String} :
    "fixtures." ++ name = k.text ↔ name = k.entryName := by
  have htext : k.text = "fixtures." ++ k.entryName := by
    cases k <;> rfl
  rw [htext, String.append_right_inj]

theorem reads_unique {k : OptionKey} {text : String} {v w : k.Value} (hv : k.Reads text v)
    (hw : k.Reads text w) : v = w :=
  Option.some.inj ((parse?_eq_some_iff.mpr hv).symm.trans (parse?_eq_some_iff.mpr hw))

end OptionKey

/-- The layers above one. -/
def OptionSource.above : OptionSource → List OptionSource
  | .default => [.projectConfig, .envVar, .option]
  | .projectConfig => [.envVar, .option]
  | .envVar => [.option]
  | .option => []

/-- What the options of a run are made from: the text of a manifest, an entry of its table, and a
text under a key. -/
inductive Supplied where
  | manifest (text : String)
  | entry (entry : String × Toml.Value)
  | underKey (key text : String)

/-- What can be wrong: a manifest that is no TOML document, an entry that is neither a string nor a
boolean nor an integer, and a text that is to be a seed or a module path and does not look like
one.  The first comes without what the parser says of it (`Options.manifestSteps`). -/
def Supplied.Fails : Supplied → FixtureError → Prop
  | manifest text, e =>
      Toml.parse text = none ∧ e = .invalidOption "Cargo.toml" "" "failed to parse manifest"
  | entry (key, value), e =>
      ((∀ text, value ≠ .string text) ∧ (∀ flag, value ≠ .boolean flag) ∧
        ∀ number, value ≠ .integer number) ∧
      e = .invalidOption ("fixtures." ++ key) (Toml.inline value)
        "expected a string, boolean or integer"
  | underKey key text, e =>
      (key = "fixtures.seed" ∧ (∀ n, ¬ OptionKey.seed.Reads text n) ∧
        e = .invalidOption key text "expected an unsigned integer") ∨
      (key = "fixtures.module" ∧ (∀ path, ¬ OptionKey.modulePath.Reads text path) ∧
        e = .invalidOption key text "expected a module path such as crate::fixtures")

namespace Options

variable {manifest : Option String} {env : String → Option String}
  {options : List (String × String)} {e : FixtureError} {o : Options} {k : OptionKey}
  {layer : OptionSource}

/-- The entries of the table `package.metadata.fixtures`, if there is a manifest that has it. -/
def optionTable (manifest : Option String) : List (String × Toml.Value) :=
  let found := manifest.bind fun text => do
    let document ← Toml.parse text
    let package ← document.get? "package"
    let metadata ← package.get? "metadata"
    metadata.get? "fixtures"
  match found with
  | some (.table entries) => entries
  | _ => []

/-- The text of a value, if it has one. -/
def valueTexts : Toml.Value → List String
  | .string text => [text]
  | .boolean true => ["true"]
  | .boolean false => ["false"]
  | .integer number => [toString number]
  | _ => []

/-- The texts that a layer supplies for a key, in the order in which they come.  The default is no
text. -/
def texts (manifest : Option String) (env : String → Option String)
    (options : List (String × String)) (k : OptionKey) : OptionSource → List String
  | .default => []
  | .projectConfig =>
      ((optionTable manifest).filter fun entry => entry.1 = k.entryName).flatMap
        fun entry => valueTexts entry.2
  | .envVar => (env k.envName).toList
  | .option => (options.filter fun option => option.1 = k.text).map fun option => option.2

/-- A text counts for a key if it is the last one of its layer and no layer above has one. -/
def Counts (manifest : Option String) (env : String → Option String)
    (options : List (String × String)) (k : OptionKey) (layer : OptionSource) (text : String) :
    Prop :=
  (texts manifest env options k layer).getLast? = some text ∧
    ∀ higher ∈ layer.above, texts manifest env options k higher = []

/-- All that is looked at, in the order in which this happens: the manifest, the types of all
entries of its table before the text of the first, the variables of the environment, and the
explicit options. -/
def supplied (manifest : Option String) (env : String → Option String)
    (options : List (String × String)) : List Supplied :=
  manifest.toList.map .manifest ++ (optionTable manifest).map .entry ++
    ((optionTable manifest).flatMap fun entry =>
      (valueTexts entry.2).map (.underKey ("fixtures." ++ entry.1))) ++
    ([OptionKey.run, .randomize, .seed, .modulePath].flatMap fun k =>
      (env k.envName).toList.map (.underKey k.text)) ++
    options.map fun option => .underKey option.1 option.2

/-! ### The steps of the layers -/

/-- The steps of a table, of which entries with other values are left out. -/
def tableSteps (table : List (String × Toml.Value)) : List OptionStep :=
  table.filterMap fun entry =>
    (entryText? entry.2).map fun text => ⟨"fixtures." ++ entry.1, text, .projectConfig⟩

/-- The steps of a layer. -/
def layerSteps (manifest : Option String) (env : String → Option String)
    (options : List (String × String)) : OptionSource → List OptionStep
  | .default => []
  | .projectConfig => tableSteps (optionTable manifest)
  | .envVar => envSteps env
  | .option => explicitSteps options

/-- The steps of all layers, from the lowest layer up. -/
def allSteps (manifest : Option String) (env : String → Option String)
    (options : List (String × String)) : List OptionStep :=
  layerSteps manifest env options .projectConfig ++ layerSteps manifest env options .envVar ++
    layerSteps manifest env options .option

theorem toList_entryText? (value : Toml.Value) : (entryText? value).toList = valueTexts value := by
  cases value with
  | boolean flag => cases flag <;> rfl
  | _ => rfl

theorem tableSteps_eq_flatMap (table : List (String × Toml.Value)) :
    tableSteps table = table.flatMap fun entry =>
      (valueTexts entry.2).map (⟨"fixtures." ++ entry.1, ·, .projectConfig⟩) := by
  simp only [tableSteps, ← toList_entryText?, List.filterMap_eq_flatMap_toList,
    Option.toList_map]

theorem envSteps_eq_flatMap (env : String → Option String) :
    envSteps env = [OptionKey.run, .randomize, .seed, .modulePath].flatMap fun k =>
      (env k.envName).toList.map (⟨k.text, ·, .envVar⟩) := by
  simp only [envSteps, List.filterMap_eq_flatMap_toList, Option.toList_map]
  rfl

theorem mem_allSteps_iff {step : OptionStep} :
    step ∈ allSteps manifest env options ↔
      ∃ layer, step ∈ layerSteps manifest env options layer := by
  simp only [allSteps, List.mem_append]
  constructor
  · rintro ((h | h) | h) <;> exact ⟨_, h⟩
  · rintro ⟨_ | _ | _ | _, h⟩
    · exact absurd h List.not_mem_nil
    · exact Or.inl (Or.inl h)
    · exact Or.inl (Or.inr h)
    · exact Or.inr h

/-- The steps of a layer come from this layer. -/
theorem source_of_mem_layerSteps {step : OptionStep}
    (h : step ∈ layerSteps manifest env options layer) : step.source = layer := by
  cases layer with
  | default => exact absurd h List.not_mem_nil
  | projectConfig =>
      obtain ⟨entry, -, h⟩ := List.mem_filterMap.mp h
      obtain ⟨text, -, rfl⟩ := Option.map_eq_some_iff.mp h
      rfl
  | envVar =>
      obtain ⟨entry, -, h⟩ := List.mem_filterMap.mp h
      obtain ⟨value, -, rfl⟩ := Option.map_eq_some_iff.mp h
      rfl
  | option =>
      obtain ⟨option, -, rfl⟩ := List.mem_map.mp h
      rfl

/-- **The texts of a layer** are those of its steps. -/
theorem texts_eq_map_layerSteps (k : OptionKey) (layer : OptionSource) :
    texts manifest env options k layer =
      ((layerSteps manifest env options layer).filter fun step => step.key = k.text).map
        OptionStep.value := by
  cases layer with
  | default => rfl
  | projectConfig =>
      rw [layerSteps, tableSteps_eq_flatMap, texts, List.filter_flatMap, List.map_flatMap]
      induction optionTable manifest with
      | nil => rfl
      | cons entry table ih =>
          rw [List.flatMap_cons, List.filter_cons, ← ih, List.filter_map, List.map_map]
          by_cases h : entry.1 = k.entryName
          · simp [h, OptionKey.text_eq_iff, Function.comp_def]
          · simp [h, OptionKey.text_eq_iff, Function.comp_def]
  | envVar =>
      rw [layerSteps, envSteps_eq_flatMap, texts]
      cases k <;> simp [OptionKey.text, List.filter_map, Function.comp_def]
  | option =>
      rw [layerSteps, explicitSteps, texts, List.filter_map, List.map_map]
      rfl

theorem mem_texts_iff {text : String} :
    text ∈ texts manifest env options k layer ↔
      ∃ step ∈ layerSteps manifest env options layer, step.key = k.text ∧ step.value = text := by
  simp only [texts_eq_map_layerSteps, List.mem_map, List.mem_filter, decide_eq_true_eq, and_assoc]

theorem fails_iff_underKey {step : OptionStep} :
    step.Fails e ↔ (Supplied.underKey step.key step.value).Fails e := by
  constructor
  · rintro (⟨hkey, hvalue⟩ | ⟨hkey, hvalue⟩)
    · exact Or.inl ⟨hkey, hvalue, rfl⟩
    · exact Or.inr ⟨hkey, hvalue, rfl⟩
  · rintro (⟨hkey, hvalue, rfl⟩ | ⟨hkey, hvalue, rfl⟩)
    · exact .seed hkey hvalue
    · exact .modulePath hkey hvalue

theorem supplied_eq (manifest : Option String) (env : String → Option String)
    (options : List (String × String)) :
    supplied manifest env options =
      manifest.toList.map .manifest ++ (optionTable manifest).map .entry ++
        (allSteps manifest env options).map fun step => .underKey step.key step.value := by
  simp only [supplied, allSteps, layerSteps, tableSteps_eq_flatMap, envSteps_eq_flatMap,
    explicitSteps, List.map_append, List.map_flatMap, List.map_map, List.append_assoc,
    Function.comp_def]

/-! ### The table of the manifest -/

theorem optionTable_some {text : String} {document : Toml.Value}
    (h : Toml.parse text = some document) : optionTable (some text) = manifestTable document := by
  have hfound : (document.get? "package" >>= (·.get? "metadata") >>= (·.get? "fixtures")) =
      ["package", "metadata", "fixtures"].foldl (fun v key => v.bind (·.get? key))
        (some document) := rfl
  simp only [optionTable, manifestTable, Option.bind_some, h, ← hfound, bind_assoc]
  rfl

theorem sorted_manifestTable {document : Toml.Value} (h : document.Ordered) :
    SortedMap.Sorted (manifestTable document) := by
  rw [manifestTable]
  split
  · rename_i entries htable
    obtain ⟨inPackage, hpackage, hfixtures⟩ := Option.bind_eq_some_iff.mp htable
    obtain ⟨package, hdocument, hmetadata⟩ := Option.bind_eq_some_iff.mp hpackage
    exact (((h.get? hdocument).get? hmetadata).get? hfixtures).sorted
  · exact List.Pairwise.nil

theorem sorted_optionTable (manifest : Option String) :
    SortedMap.Sorted (optionTable manifest) := by
  rcases manifest with _ | text
  · exact List.Pairwise.nil
  · rcases hparse : Toml.parse text with _ | document
    · rw [optionTable, Option.bind_some, hparse]
      exact List.Pairwise.nil
    · rw [optionTable_some hparse]
      exact sorted_manifestTable (Toml.ordered_of_parse hparse)

theorem entryText?_eq_none_iff {value : Toml.Value} :
    entryText? value = none ↔
      (∀ text, value ≠ .string text) ∧ (∀ flag, value ≠ .boolean flag) ∧
        ∀ number, value ≠ .integer number := by
  cases value <;> simp [entryText?]

theorem entryStep_eq_error_iff {entry : String × Toml.Value} :
    entryStep entry = .error e ↔ (Supplied.entry entry).Fails e := by
  obtain ⟨key, value⟩ := entry
  rw [Supplied.Fails, ← entryText?_eq_none_iff, entryStep]
  rcases entryText? value with _ | text <;> simp [eq_comm]

theorem mapM_entryStep_eq_ok {table : List (String × Toml.Value)} {steps : List OptionStep}
    (h : table.mapM entryStep = .ok steps) : steps = tableSteps table := by
  have hall := (mapM_eq_ok_iff ..).mp h
  clear h
  induction hall with
  | nil => rfl
  | @cons entry step table steps hentry _ ih =>
      rw [entryStep] at hentry
      split at hentry
      · rename_i text htext
        cases hentry
        rw [tableSteps, List.filterMap_cons_some (by rw [htext]; rfl), ih]
        rfl
      · cases hentry

/-! ### Applying the steps -/

theorem applyAll_eq_error_iff {steps : List OptionStep} :
    o.applyAll steps = .error e ↔
      FirstFault Supplied.Fails (steps.map fun step => .underKey step.key step.value) e := by
  rw [firstFault_map_iff]
  exact foldlM_eq_error_iff (f := apply) fun _ _ _ => apply_eq_error_iff.trans fails_iff_underKey

/-- Steps that succeed leave what they leave one by one. -/
theorem afterAll_of_applyAll {steps : List OptionStep} {o' : Options}
    (h : o.applyAll steps = .ok o') : o.afterAll steps = o' := by
  induction steps generalizing o with
  | nil => exact Except.ok.inj h
  | cons step steps ih =>
      rw [applyAll, List.foldlM_cons] at h
      rcases hstep : o.apply step with e | o₁
      · rw [hstep] at h
        cases h
      · rw [hstep] at h
        rw [← ih h, ← (apply_eq_ok_iff.mp hstep).2]
        rfl

/-! ### The layer of the manifest -/

/-- The steps of the manifest, if there is one. -/
def manifestLayer (manifest : Option String) : Except FixtureError (List OptionStep) :=
  match manifest with
  | some text => manifestSteps text
  | none => pure []

theorem manifestLayer_eq_error_iff :
    manifestLayer manifest = .error e ↔
      FirstFault Supplied.Fails (manifest.toList.map .manifest ++ (optionTable manifest).map .entry)
        e := by
  rcases manifest with _ | text
  · exact iff_of_false nofun not_firstFault_nil
  · rw [manifestLayer, manifestSteps, Option.toList_some, List.map_singleton,
      List.singleton_append, firstFault_cons_iff]
    rcases hparse : Toml.parse text with _ | document
    · have htable : optionTable (some text) = [] := by
        rw [optionTable, Option.bind_some, hparse]
        rfl
      simp [Supplied.Fails, hparse, htable, not_firstFault_nil, eq_comm]
    · rw [firstFault_map_iff, optionTable_some hparse]
      simp only [Supplied.Fails, hparse, reduceCtorEq, false_and, false_or, not_false_eq_true,
        implies_true, true_and]
      exact mapM_eq_error_iff fun _ _ => entryStep_eq_error_iff

theorem manifestLayer_eq_ok {steps : List OptionStep} (h : manifestLayer manifest = .ok steps) :
    steps = tableSteps (optionTable manifest) := by
  rcases manifest with _ | text
  · exact (Except.ok.inj h).symm
  · rw [manifestLayer, manifestSteps] at h
    split at h
    · cases h
    · rename_i document hdocument
      rw [optionTable_some hdocument]
      exact mapM_entryStep_eq_ok h

/-! ### The whole -/

theorem resolve_eq_bind (manifest : Option String) (env : String → Option String)
    (options : List (String × String)) :
    resolve manifest env options = manifestLayer manifest >>= fun steps =>
      defaults.applyAll (steps ++ envSteps env ++ explicitSteps options) := by
  cases manifest <;> rfl

/-- **The error of the whole is the first fault.** -/
theorem resolve_eq_error_iff :
    resolve manifest env options = .error e ↔
      FirstFault Supplied.Fails (supplied manifest env options) e := by
  have hsteps : defaults.applyAll (allSteps manifest env options) = .error e ↔
      FirstFault Supplied.Fails ((allSteps manifest env options).map fun step =>
        .underKey step.key step.value) e := applyAll_eq_error_iff
  rw [resolve_eq_bind, supplied_eq, firstFault_append_iff, ← manifestLayer_eq_error_iff, ← hsteps]
  rcases hlayer : manifestLayer manifest with e' | steps
  · -- The fault of the manifest hides whatever is wrong with the steps.
    have hfault : ∃ e, FirstFault Supplied.Fails _ e := ⟨e', manifestLayer_eq_error_iff.mp hlayer⟩
    obtain ⟨x, hx, e₁, he₁⟩ := exists_firstFault_iff.mp hfault
    refine ⟨fun h => Or.inl (congrArg _ (Except.error.inj h)), fun h => ?_⟩
    exact congrArg _ (Except.error.inj (h.resolve_right fun hnone => hnone.1 x hx e₁ he₁))
  · have hnone : ∀ x ∈ manifest.toList.map Supplied.manifest ++
        (optionTable manifest).map Supplied.entry, ∀ e, ¬ x.Fails e := fun x hx e he => by
      obtain ⟨e', he'⟩ := exists_firstFault_iff.mpr ⟨x, hx, e, he⟩
      cases hlayer.symm.trans (manifestLayer_eq_error_iff.mpr he')
    rw [manifestLayer_eq_ok hlayer]
    exact ⟨fun h => Or.inr ⟨hnone, h⟩, fun h => (h.resolve_left nofun).2⟩

theorem afterAll_of_resolve (h : resolve manifest env options = .ok o) :
    defaults.afterAll (allSteps manifest env options) = o := by
  rw [resolve_eq_bind] at h
  rcases hlayer : manifestLayer manifest with e | steps
  · rw [hlayer] at h
    cases h
  · rw [hlayer, manifestLayer_eq_ok hlayer] at h
    exact afterAll_of_applyAll h

/-! ### What can be wrong -/

theorem exists_unread_step_iff :
    (∃ step ∈ allSteps manifest env options,
      step.key = k.text ∧ ∀ v, ¬ k.Reads step.value v) ↔
      ∃ layer, ∃ text ∈ texts manifest env options k layer, ∀ v, ¬ k.Reads text v := by
  constructor
  · rintro ⟨step, hstep, hkey, hvalue⟩
    obtain ⟨layer, hlayer⟩ := mem_allSteps_iff.mp hstep
    exact ⟨layer, step.value, mem_texts_iff.mpr ⟨step, hlayer, hkey, rfl⟩, hvalue⟩
  · rintro ⟨layer, text, htext, hvalue⟩
    obtain ⟨step, hstep, hkey, rfl⟩ := mem_texts_iff.mp htext
    exact ⟨step, mem_allSteps_iff.mpr ⟨layer, hstep⟩, hkey, hvalue⟩

theorem exists_fails_iff {step : OptionStep} :
    (∃ e, step.Fails e) ↔
      (step.key = OptionKey.seed.text ∧ ∀ n, ¬ OptionKey.seed.Reads step.value n) ∨
        (step.key = OptionKey.modulePath.text ∧
          ∀ path, ¬ OptionKey.modulePath.Reads step.value path) := by
  constructor
  · rintro ⟨e, ⟨hkey, hvalue⟩ | ⟨hkey, hvalue⟩⟩
    · exact Or.inl ⟨hkey, hvalue⟩
    · exact Or.inr ⟨hkey, hvalue⟩
  · rintro (⟨hkey, hvalue⟩ | ⟨hkey, hvalue⟩)
    · exact ⟨_, .seed hkey hvalue⟩
    · exact ⟨_, .modulePath hkey hvalue⟩

/-- A text under a key is wrong if it is none of the values of the key, and seeds and module paths
are the keys for which there are such texts. -/
theorem exists_wrong_step_iff :
    (∃ step ∈ allSteps manifest env options, ∃ e, step.Fails e) ↔
      (∃ layer, ∃ text ∈ texts manifest env options .seed layer,
        ∀ n, ¬ OptionKey.seed.Reads text n) ∨
      ∃ layer, ∃ text ∈ texts manifest env options .modulePath layer,
        ∀ path, ¬ OptionKey.modulePath.Reads text path := by
  simp only [exists_fails_iff, and_or_left, exists_or]
  exact or_congr exists_unread_step_iff exists_unread_step_iff

/-- What can be wrong, by what it is that is wrong. -/
theorem exists_fault_iff :
    (∃ x ∈ supplied manifest env options, ∃ e, x.Fails e) ↔
      (∃ text, manifest = some text ∧ Toml.parse text = none) ∨
      (∃ entry ∈ optionTable manifest, (∀ text, entry.2 ≠ .string text) ∧
        (∀ flag, entry.2 ≠ .boolean flag) ∧ ∀ number, entry.2 ≠ .integer number) ∨
      ∃ step ∈ allSteps manifest env options, ∃ e, step.Fails e := by
  simp only [supplied_eq, List.mem_append, or_and_right, exists_or, or_assoc, List.mem_map,
    ↓existsAndEq, and_true, ← fails_iff_underKey]
  refine or_congr ?_ (or_congr ?_ Iff.rfl)
  · simp [Supplied.Fails]
  · simp [Supplied.Fails]

/-! ### The layers of a success -/

/-- The last setting that some steps offer to a key. -/
def lastOffer (k : OptionKey) (steps : List OptionStep) : Option (Setting k.Value) :=
  (steps.filterMap k.offer).getLast?

theorem source_of_mem_offers {x : Setting k.Value}
    (hx : x ∈ (layerSteps manifest env options layer).filterMap k.offer) : x.source = layer := by
  obtain ⟨step, hstep, hoffer⟩ := List.mem_filterMap.mp hx
  exact (OptionKey.offer_eq_some_iff.mp hoffer).2.2.trans (source_of_mem_layerSteps hstep)

theorem setting_defaults (k : OptionKey) : k.setting defaults = k.builtIn := by
  cases k <;> rfl

theorem source_of_mem_builtIn {x : Setting k.Value} (hx : x ∈ k.builtIn.toList) :
    x.source = .default := by
  cases k <;> simp_all [OptionKey.builtIn]

/-- **The value of a key** is the last one that the highest layer with a value for it supplies. -/
theorem setting_of_resolve (h : resolve manifest env options = .ok o) (k : OptionKey) :
    k.setting o = (lastOffer k (layerSteps manifest env options .option)).or
      ((lastOffer k (layerSteps manifest env options .envVar)).or
        ((lastOffer k (layerSteps manifest env options .projectConfig)).or k.builtIn)) := by
  have hle {xs : List (Setting k.Value)} {lower higher : OptionSource}
      (hrank : lower.rank ≤ higher.rank) (hxs : ∀ x ∈ xs, x.source = lower) :
      ∀ x ∈ xs, x.source.rank ≤ higher.rank := fun x hx => hxs x hx ▸ hrank
  have hdefault : ∀ x ∈ k.builtIn.toList, x.source = .default := fun _ => source_of_mem_builtIn
  have hlayer (layer : OptionSource) :
      ∀ x ∈ (layerSteps manifest env options layer).filterMap k.offer, x.source = layer :=
    fun _ => source_of_mem_offers
  -- The layers come in the order of their ranks, so each one stands before all that went before it.
  rw [← afterAll_of_resolve h, setting_afterAll, setting_defaults, allSteps, List.filterMap_append,
    List.filterMap_append, ← List.append_assoc, ← List.append_assoc,
    Setting.mergeAll_append ?_ (hlayer .option), Setting.mergeAll_append ?_ (hlayer .envVar),
    Setting.mergeAll_append (hle (by decide) hdefault) (hlayer .projectConfig)]
  · cases k <;> rfl
  · exact List.forall_mem_append.mpr
      ⟨hle (by decide) hdefault, hle (by decide) (hlayer .projectConfig)⟩
  · exact List.forall_mem_append.mpr
      ⟨List.forall_mem_append.mpr
        ⟨hle (by decide) hdefault, hle (by decide) (hlayer .projectConfig)⟩,
        hle (by decide) (hlayer .envVar)⟩

/-! ### The text that counts -/

theorem mem_above_or_mem_above {layer' : OptionSource} (h : layer ≠ layer') :
    layer ∈ layer'.above ∨ layer' ∈ layer.above := by
  revert h
  cases layer <;> cases layer' <;> decide

theorem Counts.texts_ne_nil {text : String} (h : Counts manifest env options k layer text) :
    texts manifest env options k layer ≠ [] := by
  intro hnil
  rw [Counts, hnil] at h
  cases h.1

/-- At most one text counts for a key. -/
theorem Counts.unique {text text' : String} {layer' : OptionSource}
    (h : Counts manifest env options k layer text)
    (h' : Counts manifest env options k layer' text') : layer = layer' ∧ text = text' := by
  by_cases hlayer : layer = layer'
  · subst hlayer
    exact ⟨rfl, Option.some.inj (h.1.symm.trans h'.1)⟩
  · rcases mem_above_or_mem_above hlayer with habove | habove
    · exact absurd (h'.2 layer habove) h.texts_ne_nil
    · exact absurd (h.2 layer' habove) h'.texts_ne_nil

/-- What the steps of a layer offer last is the value of its last text. -/
theorem lastOffer_layerSteps (h : ∀ step ∈ layerSteps manifest env options layer,
    ∀ e, ¬ step.Fails e) (k : OptionKey) :
    (texts manifest env options k layer = [] ∧
      lastOffer k (layerSteps manifest env options layer) = none) ∨
    ∃ text v, (texts manifest env options k layer).getLast? = some text ∧ k.Reads text v ∧
      lastOffer k (layerSteps manifest env options layer) = some ⟨v, layer⟩ := by
  have hoffers : (layerSteps manifest env options layer).filterMap k.offer =
      ((layerSteps manifest env options layer).filter fun step => step.key = k.text).filterMap
        k.offer := by
    rw [List.filterMap_filter]
    refine List.filterMap_congr fun step _ => ?_
    rw [OptionKey.offer]
    split <;> simp_all
  rw [lastOffer, hoffers, texts_eq_map_layerSteps]
  obtain hnil | ⟨steps, step, hsteps⟩ := List.eq_nil_or_concat'
    ((layerSteps manifest env options layer).filter fun step => step.key = k.text)
  · rw [hnil]
    exact Or.inl ⟨rfl, rfl⟩
  · have hmem : step ∈ (layerSteps manifest env options layer).filter
        fun step => step.key = k.text := by
      rw [hsteps]
      exact List.mem_concat_self
    obtain ⟨hstep, hkey⟩ := List.mem_filter.mp hmem
    obtain ⟨x, hoffer⟩ := Option.isSome_iff_exists.mp
      ((isSome_offer_iff (of_decide_eq_true hkey)).mpr (h step hstep))
    obtain ⟨-, hreads, hsource⟩ := OptionKey.offer_eq_some_iff.mp hoffer
    refine Or.inr ⟨step.value, x.value, ?_, hreads, ?_⟩
    · rw [hsteps, List.map_append, List.map_singleton, List.getLast?_concat]
    · rw [hsteps, List.filterMap_append, List.filterMap_cons_some hoffer, List.filterMap_nil,
        List.getLast?_concat, ← source_of_mem_layerSteps hstep, ← hsource]

/-- **The value of a key after a success** is that of the text that counts for it, and the built-in
one if no layer has a text for it. -/
theorem value_of_resolve (h : resolve manifest env options = .ok o) (k : OptionKey) :
    (∃ layer text v, Counts manifest env options k layer text ∧ k.Reads text v ∧
      k.setting o = some ⟨v, layer⟩) ∨
    (∀ layer, texts manifest env options k layer = []) ∧ k.setting o = k.builtIn := by
  have hfine : ∀ layer, ∀ step ∈ layerSteps manifest env options layer, ∀ e, ¬ step.Fails e := by
    intro layer step hstep e he
    obtain ⟨e', he'⟩ := exists_firstFault_iff.mpr
      (exists_fault_iff.mpr (Or.inr (Or.inr ⟨step, mem_allSteps_iff.mpr ⟨layer, hstep⟩, e, he⟩)))
    cases h.symm.trans (resolve_eq_error_iff.mpr he')
  have hsetting := setting_of_resolve h k
  rcases lastOffer_layerSteps (hfine .option) k with ⟨hoption, hlast⟩ | ⟨t, v, ht, hreads, hlast⟩
  · rw [hlast, Option.none_or] at hsetting
    rcases lastOffer_layerSteps (hfine .envVar) k with ⟨henv, hlast⟩ | ⟨t, v, ht, hreads, hlast⟩
    · rw [hlast, Option.none_or] at hsetting
      rcases lastOffer_layerSteps (hfine .projectConfig) k with
        ⟨htable, hlast⟩ | ⟨t, v, ht, hreads, hlast⟩
      · rw [hlast, Option.none_or] at hsetting
        refine Or.inr ⟨?_, hsetting⟩
        rintro (_ | _ | _ | _)
        exacts [rfl, htable, henv, hoption]
      · rw [hlast, Option.some_or] at hsetting
        refine Or.inl ⟨.projectConfig, t, v, ⟨ht, ?_⟩, hreads, hsetting⟩
        simp [OptionSource.above, henv, hoption]
    · rw [hlast, Option.some_or] at hsetting
      refine Or.inl ⟨.envVar, t, v, ⟨ht, ?_⟩, hreads, hsetting⟩
      simp [OptionSource.above, hoption]
  · rw [hlast, Option.some_or] at hsetting
    exact Or.inl ⟨.option, t, v, ⟨ht, nofun⟩, hreads, hsetting⟩

/-- This determines the value. -/
theorem setting_eq_some_iff_of_resolve (h : resolve manifest env options = .ok o) (k : OptionKey)
    (v : k.Value) (layer : OptionSource) :
    k.setting o = some ⟨v, layer⟩ ↔
      (∃ text, Counts manifest env options k layer text ∧ k.Reads text v) ∨
      (∀ layer, texts manifest env options k layer = []) ∧ k.builtIn = some ⟨v, layer⟩ := by
  rcases value_of_resolve h k with
    ⟨layer', text', v', hcounts', hreads', hsetting⟩ | ⟨hnone, hsetting⟩
  · rw [hsetting]
    constructor
    · intro heq
      cases heq
      exact Or.inl ⟨text', hcounts', hreads'⟩
    · rintro (⟨text, hcounts, hreads⟩ | ⟨hnone, -⟩)
      · obtain ⟨rfl, rfl⟩ := hcounts.unique hcounts'
        rw [OptionKey.reads_unique hreads hreads']
      · exact absurd (hnone layer') hcounts'.texts_ne_nil
  · rw [hsetting]
    constructor
    · exact fun heq => Or.inr ⟨hnone, heq⟩
    · rintro (⟨text, hcounts, -⟩ | ⟨-, heq⟩)
      · exact absurd (hnone layer) hcounts.texts_ne_nil
      · exact heq

/-- **Resolving options.**  The error is that of the first thing with a fault: of a manifest that is
no document, then of the entries of its table with a value of a wrong type, in the order of their
keys, then of a wrong seed or module path in the table, in the environment and among the explicit
options.  So it fails exactly if one of these is there, also if a layer above has a fine value for
the same key.  Otherwise the value of a key is that of the last text for it in the highest layer
that has one: the last explicit option of this key, or else its variable, or else its entry in the
table, or else the built-in setting.

All of this is said in terms of the manifest, the environment and the options as they are given;
the steps that the program makes of them do not occur. -/
theorem resolve_outcomes (manifest : Option String) (env : String → Option String)
    (options : List (String × String)) :
    (∀ e, resolve manifest env options = .error e ↔
      FirstFault Supplied.Fails (supplied manifest env options) e) ∧
    SortedMap.Sorted (optionTable manifest) ∧
    ((∃ e, resolve manifest env options = .error e) ↔
      (∃ text, manifest = some text ∧ Toml.parse text = none) ∨
      (∃ entry ∈ optionTable manifest, (∀ text, entry.2 ≠ .string text) ∧
        (∀ flag, entry.2 ≠ .boolean flag) ∧ ∀ number, entry.2 ≠ .integer number) ∨
      (∃ layer, ∃ text ∈ texts manifest env options .seed layer,
        ∀ n, ¬ OptionKey.seed.Reads text n) ∨
      ∃ layer, ∃ text ∈ texts manifest env options .modulePath layer,
        ∀ path, ¬ OptionKey.modulePath.Reads text path) ∧
    ∀ o, resolve manifest env options = .ok o → ∀ (k : OptionKey),
      (∀ (v : k.Value) (layer : OptionSource), k.setting o = some ⟨v, layer⟩ ↔
        (∃ text, Counts manifest env options k layer text ∧ k.Reads text v) ∨
        (∀ layer, texts manifest env options k layer = []) ∧ k.builtIn = some ⟨v, layer⟩) := by
  refine ⟨fun e => resolve_eq_error_iff, sorted_optionTable manifest, ?_,
    fun o h => setting_eq_some_iff_of_resolve h⟩
  rw [← exists_wrong_step_iff, ← exists_fault_iff]
  simp only [resolve_eq_error_iff, exists_firstFault_iff]

/-- Explicit options replace what the manifest and the environment have for the same keys, and the
last one for a key stands.  The variable of another key stands as well. -/
theorem resolve_outcomes_seed :
    let manifest := some
      "[package.metadata.fixtures]\nseed = 5\nmodule = 'crate::made'\nrandomize = false\n"
    let env : String → Option String := fun name =>
      if name = "FIXTURES_SEED" then some "9" else if name = "FIXTURES_RUN" then some "no" else none
    let options := [("fixtures.seed", "3"), ("fixtures.module", "crate::sets"),
      ("fixtures.randomize", "TRUE"), ("fixtures.seed", " +7 ")]
    ∃ o, resolve manifest env options = .ok o ∧
      OptionKey.seed.setting o = some ⟨7, .option⟩ ∧
      OptionKey.modulePath.setting o = some ⟨"crate::sets", .option⟩ ∧
      OptionKey.randomize.setting o = some ⟨true, .option⟩ ∧
      OptionKey.run.setting o = some ⟨false, .envVar⟩ := by
  intro manifest env options
  obtain ⟨-, -, -, hlayers⟩ := resolve_outcomes manifest env options
  obtain ⟨o, ho⟩ : ∃ o, resolve manifest env options = .ok o := ⟨_, rfl⟩
  have hvalue (k : OptionKey) {layer : OptionSource} {text : String} {v : k.Value}
      (hcounts : Counts manifest env options k layer text) (hread : k.parse? text = some v) :
      k.setting o = some ⟨v, layer⟩ :=
    (hlayers o ho k v layer).mpr (Or.inl ⟨text, hcounts, OptionKey.parse?_eq_some_iff.mp hread⟩)
  refine ⟨o, ho, hvalue .seed ⟨rfl, nofun⟩ rfl, ?_, ?_, ?_⟩
  · exact hvalue .modulePath ⟨rfl, nofun⟩ rfl
  · exact hvalue .randomize ⟨rfl, nofun⟩ rfl
  · exact hvalue .run ⟨rfl, by decide⟩ rfl

/-- A wrong seed in the manifest is an error, though the environment would replace it. -/
example : resolve (some "[package.metadata.fixtures]\nseed = 'five'\n")
    (fun name => if name = "FIXTURES_SEED" then some "9" else none) [] =
    .error (.invalidOption "fixtures.seed" "five" "expected an unsigned integer") := rfl

end Options
end FixtureFactory
