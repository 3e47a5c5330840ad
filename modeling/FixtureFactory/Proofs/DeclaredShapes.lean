import FixtureFactory.Proofs.Outcome
import FixtureFactory.Proofs.PlacedItems

/-!
# The shapes of declarations

A declaration does not hold its fields or cases; they are asked of the host, and the index answers
by the qualified name.  Nothing keeps two files, or two items of one file, from declaring a type of
the same qualified name: the files `lib.rs` and `main.rs` stand for one module, and of two items
with opposite conditions both are read.  All such declarations are listed, and the last of them with
fields answers for all.

So a declaration has its own fields exactly if no later one of its name has others, and the same
holds of cases.  The index keeps the declarations in the order of the text, hence "later" is meant
in that order, file by file.

* `recordsOf`, `enumerationsOf`: what the sources declare, each declaration with its own fields or
  cases.
* `SourceIndex.lastOf_eq_lastNamed`: an answer by name is that of the last declaration of the name.
* `SourceIndex.fields_of_split`, `SourceIndex.cases_of_split`: the answers for one declaration.
* `SourceIndex.keeps_own_shape`: when a declaration has its own fields or cases.
* `SourceIndex.loses_own_fields`: the record of one file has the fields of another.
-/

namespace FixtureFactory

open Source (Item)

/-! ## What sources declare -/

namespace PlacedItem

variable (t : ScopeTable)

/-- The record with named fields that an item declares, and the fields in their order. -/
def record? (p : PlacedItem) : Option (TypeDeclaration × List Field) :=
  match p.item with
  | .record attributes name (.named fields) =>
      some (p.context.declaration attributes name .record,
        fields.map fun (name, type) => ⟨name, t.resolveType p.context.module type⟩)
  | _ => none

/-- The enumeration that an item declares, and the cases in their order. -/
def enumeration? (p : PlacedItem) : Option (TypeDeclaration × List CaseDeclaration) :=
  match p.item with
  | .enumeration attributes name variants =>
      some (p.context.declaration attributes name (kindOfVariants variants),
        variants.map (caseOf t p.context.module))
  | _ => none

end PlacedItem

/-- The records with named fields of some files, each with its own fields. -/
def recordsOf (files : List ParsedFile) : List (TypeDeclaration × List Field) :=
  (placedItems files).filterMap (PlacedItem.record? (scopesOf files))

/-- The enumerations of some files, each with its own cases. -/
def enumerationsOf (files : List ParsedFile) : List (TypeDeclaration × List CaseDeclaration) :=
  (placedItems files).filterMap (PlacedItem.enumeration? (scopesOf files))

/-- What the last declaration of a qualified name holds. -/
def lastNamed {α : Type} (name : String) (entries : List (TypeDeclaration × α)) : Option α :=
  ((entries.filter fun e => e.1.qualifiedName == name).getLast?).map Prod.snd

theorem getD_eq_iff {α : Type} {replacement : Option α} {own : α} :
    replacement.getD own = own ↔ ∀ other, replacement = some other → other = own := by
  cases replacement <;> simp

namespace SourceIndex

/-! ## Answers by name -/

section Answers

variable {α : Type} {index : SourceIndex} {ask : IndexedType → Option α}

/-- The declarations that have an answer to a question, each with its own. -/
def answers (index : SourceIndex) (ask : IndexedType → Option α) : List (TypeDeclaration × α) :=
  index.types.filterMap fun e => (ask e).map fun a => (e.declaration, a)

/-- **An answer by name is that of the last declaration of the name.** -/
theorem lastOf_eq_lastNamed (name : String) :
    index.lastOf name ask = lastNamed name (index.answers ask) := by
  have hanswer : ∀ e : IndexedType,
      (if e.declaration.qualifiedName == name then ask e else none) =
        (((ask e).map fun a => (e.declaration, a)).filter
          fun e => e.1.qualifiedName == name).map Prod.snd := by
    intro e
    cases ask e with
    | none => simp
    | some a => by_cases hname : e.declaration.qualifiedName = name <;> simp [Option.filter, hname]
  rw [lastOf, lastNamed, answers, ← List.getLast?_map, List.filter_filterMap, List.map_filterMap]
  exact congrArg List.getLast? (List.filterMap_congr fun e _ => hanswer e)

/-- **The answer for a declaration** is its own, unless a later one of its name has an answer too.
-/
theorem lastOf_of_split {before after : List (TypeDeclaration × α)} {d : TypeDeclaration} {own : α}
    (h : index.answers ask = before ++ (d, own) :: after) :
    index.lastOf d.qualifiedName ask = some ((lastNamed d.qualifiedName after).getD own) := by
  rw [lastOf_eq_lastNamed, h, lastNamed, lastNamed, List.filter_append, List.getLast?_append]
  simp only [List.filter_cons, beq_self_eq_true, if_true, List.getLast?_cons]
  cases (after.filter fun e => e.1.qualifiedName == d.qualifiedName).getLast? <;> rfl

end Answers

/-! ## Fields and cases -/

variable (files : List ParsedFile)

theorem answers_fields : (ofFiles files).answers IndexedType.fields = recordsOf files := by
  rw [answers, types_ofFiles, recordsOf, List.filterMap_filterMap]
  refine List.filterMap_congr fun p _ => ?_
  obtain ⟨c, item⟩ := p
  cases item with
  | record attributes name fields => cases fields <;> rfl
  | _ => rfl

theorem answers_cases : (ofFiles files).answers IndexedType.cases = enumerationsOf files := by
  rw [answers, types_ofFiles, enumerationsOf, List.filterMap_filterMap]
  refine List.filterMap_congr fun p _ => ?_
  obtain ⟨c, item⟩ := p
  cases item <;> rfl

theorem kindOfVariants_cases (variants : List Source.Variant) :
    kindOfVariants variants = .enumeration ∨ kindOfVariants variants = .sealed := by
  rw [kindOfVariants]
  cases variants.all isPlainCase <;> simp

theorem filter_declarations {α : Type} {own? : PlacedItem → Option (TypeDeclaration × α)}
    {test : TypeDeclaration → Bool}
    (h : ∀ p : PlacedItem, ((p.type? (scopesOf files)).map IndexedType.declaration).filter test =
      (own? p).map Prod.fst) :
    (ofFiles files).declarations.filter test =
      ((placedItems files).filterMap own?).map Prod.fst := by
  rw [declarations, types_ofFiles, List.map_filterMap, List.filter_filterMap, List.map_filterMap]
  exact List.filterMap_congr fun p _ => h p

/-- **The listed records with named fields** are those of the sources, in their order. -/
theorem filter_declarations_record :
    (ofFiles files).declarations.filter (fun d => d.kind = .record) =
      (recordsOf files).map Prod.fst := by
  refine filter_declarations files fun p => ?_
  obtain ⟨c, item⟩ := p
  cases item with
  | record attributes name fields => cases fields <;> rfl
  | enumeration attributes name variants =>
      rcases kindOfVariants_cases variants with hkind | hkind <;>
        simp [PlacedItem.type?, PlacedItem.record?, ItemContext.declaration, Option.filter, hkind]
  | _ => rfl

/-- **The listed enumerations**, with data or without, are those of the sources, in their order. -/
theorem filter_declarations_enumeration :
    (ofFiles files).declarations.filter (fun d => d.kind = .enumeration ∨ d.kind = .sealed) =
      (enumerationsOf files).map Prod.fst := by
  refine filter_declarations files fun p => ?_
  obtain ⟨c, item⟩ := p
  cases item with
  | record attributes name fields => cases fields <;> rfl
  | enumeration attributes name variants =>
      rcases kindOfVariants_cases variants with hkind | hkind <;>
        simp [PlacedItem.type?, PlacedItem.enumeration?, ItemContext.declaration, Option.filter,
          hkind]
  | _ => rfl

/-- **The fields that the host gives for a record** are those of the last record of its name. -/
theorem fields_of_split {before after : List (TypeDeclaration × List Field)} {d : TypeDeclaration}
    {own : List Field} (h : recordsOf files = before ++ (d, own) :: after) :
    (ofFiles files).toHost.fields d = (lastNamed d.qualifiedName after).getD own := by
  rw [← answers_fields] at h
  exact congrArg (Option.getD · []) (lastOf_of_split h)

/-- **The cases that the host gives for an enumeration** are those of the last enumeration of its
name. -/
theorem cases_of_split {before after : List (TypeDeclaration × List CaseDeclaration)}
    {d : TypeDeclaration} {own : List CaseDeclaration}
    (h : enumerationsOf files = before ++ (d, own) :: after) :
    (ofFiles files).toHost.cases d = (lastNamed d.qualifiedName after).getD own := by
  rw [← answers_cases] at h
  exact congrArg (Option.getD · []) (lastOf_of_split h)

/-- **A declaration keeps its own shape exactly if no later one of its name has another.**  The
records with named fields and the enumerations that are listed are those of the sources, in the
order of the text.  For each record the host gives its own fields in their order if the last record
of the same qualified name after it, should there be one, has the same fields, and other fields if
that has not; and so it is with enumerations and cases. -/
theorem keeps_own_shape :
    (ofFiles files).declarations.filter (fun d => d.kind = .record) =
      (recordsOf files).map Prod.fst ∧
    (ofFiles files).declarations.filter (fun d => d.kind = .enumeration ∨ d.kind = .sealed) =
      (enumerationsOf files).map Prod.fst ∧
    (∀ before d own after, recordsOf files = before ++ (d, own) :: after →
      ((ofFiles files).toHost.fields d = own ↔
        ∀ later, lastNamed d.qualifiedName after = some later → later = own)) ∧
    ∀ before d own after, enumerationsOf files = before ++ (d, own) :: after →
      ((ofFiles files).toHost.cases d = own ↔
        ∀ later, lastNamed d.qualifiedName after = some later → later = own) :=
  ⟨filter_declarations_record files, filter_declarations_enumeration files,
    fun _ _ _ _ h => by rw [fields_of_split files h, getD_eq_iff],
    fun _ _ _ _ h => by rw [cases_of_split files h, getD_eq_iff]⟩

/-- The two files of the root module, each with a record of one name. -/
def configSources : List SourceFile :=
  [⟨"lib.rs", "struct Config { port: u16 } enum Mode { Fast, Slow(u8) }"⟩,
   ⟨"main.rs", "struct Config { host: String }"⟩]

/-- What the two files declare. -/
theorem shapes_of_configSources :
    ∃ parsed lib main mode, parseFiles configSources = .ok parsed ∧
      recordsOf parsed = [lib, main] ∧ enumerationsOf parsed = [mode] ∧
      lib.1.qualifiedName = "crate::Config" ∧ lib.2.map Field.name = ["port"] ∧
      main.1.qualifiedName = "crate::Config" ∧ main.2.map Field.name = ["host"] ∧
      mode.2.map CaseDeclaration.name = ["Fast", "Slow"] := by
  have hshapes : (parseFiles configSources).map (fun parsed =>
      ((recordsOf parsed).map fun e => (e.1.qualifiedName, e.2.map Field.name),
        (enumerationsOf parsed).map fun e => e.2.map CaseDeclaration.name)) =
      .ok ([("crate::Config", ["port"]), ("crate::Config", ["host"])], [["Fast", "Slow"]]) := by
    decide +kernel
  obtain ⟨parsed, hparsed, hshapes⟩ := exceptMap_eq_ok_iff.mp hshapes
  obtain ⟨hrecords, henumerations⟩ := Prod.mk.inj hshapes
  obtain ⟨lib, rest, hrest, hlib, hmap⟩ := List.map_eq_cons_iff.mp hrecords.symm
  obtain ⟨main, none, rfl, hmain, hnil⟩ := List.map_eq_cons_iff.mp hmap
  obtain ⟨mode, nothing, hmodes, hmode, hempty⟩ := List.map_eq_cons_iff.mp henumerations.symm
  rw [List.map_eq_nil_iff] at hnil hempty
  rw [hnil] at hrest
  rw [hempty] at hmodes
  exact ⟨parsed, lib, main, mode, hparsed, hrest, hmodes, (Prod.mk.inj hlib).1,
    (Prod.mk.inj hlib).2, (Prod.mk.inj hmain).1, (Prod.mk.inj hmain).2, hmode⟩

/-- The last of the two records has its own field, and the enumeration its own cases. -/
theorem keeps_own_shape_config :
    ∃ parsed lib main mode, parseFiles configSources = .ok parsed ∧
      recordsOf parsed = [lib, main] ∧ enumerationsOf parsed = [mode] ∧
      main.2.map Field.name = ["host"] ∧ (ofFiles parsed).toHost.fields main.1 = main.2 ∧
      mode.2.map CaseDeclaration.name = ["Fast", "Slow"] ∧
      (ofFiles parsed).toHost.cases mode.1 = mode.2 := by
  obtain ⟨parsed, lib, main, mode, hparsed, hrecords, henumerations, -, -, -, hmain, hmode⟩ :=
    shapes_of_configSources
  obtain ⟨-, -, hfields, hcases⟩ := keeps_own_shape parsed
  refine ⟨parsed, lib, main, mode, hparsed, hrecords, henumerations, hmain, ?_, hmode, ?_⟩
  · exact (hfields [lib] main.1 main.2 [] hrecords).mpr fun later hlater => nomatch hlater
  · exact (hcases [] mode.1 mode.2 [] henumerations).mpr fun later hlater => nomatch hlater

/-- **The first of the two records has the field of the second**, though both are listed and each
declares a field of its own. -/
theorem loses_own_fields :
    ∃ parsed lib main, parseFiles configSources = .ok parsed ∧ recordsOf parsed = [lib, main] ∧
      (ofFiles parsed).declarations.filter (fun d => d.kind = .record) = [lib.1, main.1] ∧
      lib.2.map Field.name = ["port"] ∧
      ((ofFiles parsed).toHost.fields lib.1).map Field.name = ["host"] ∧
      (ofFiles parsed).toHost.fields lib.1 ≠ lib.2 := by
  obtain ⟨parsed, lib, main, mode, hparsed, hrecords, -, hlibName, hlib, hmainName, hmain, -⟩ :=
    shapes_of_configSources
  have hlisted := filter_declarations_record parsed
  rw [hrecords] at hlisted
  have hlast : lastNamed lib.1.qualifiedName [main] = some main.2 := by
    rw [lastNamed, List.filter_cons_of_pos (by rw [hmainName, hlibName]; rfl)]
    rfl
  have hfields : (ofFiles parsed).toHost.fields lib.1 = main.2 := by
    have hsplit : recordsOf parsed = [] ++ (lib.1, lib.2) :: [main] := hrecords
    rw [fields_of_split parsed hsplit, hlast, Option.getD_some]
  refine ⟨parsed, lib, main, hparsed, hrecords, hlisted, hlib, by rw [hfields, hmain], ?_⟩
  intro hown
  rw [← hown, hfields, hmain] at hlib
  exact absurd hlib (by decide)

end SourceIndex
end FixtureFactory
