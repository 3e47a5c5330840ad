import FixtureFactory.Proofs.Failures
import FixtureFactory.Proofs.Outcome
import FixtureFactory.Proofs.ScopeEntries
import Mathlib.Data.List.Forall2
import Mathlib.Data.List.Induction
import Mathlib.Logic.Equiv.Basic

/-!
# The order of the files

The files of a source root come in some order, and their positions are the numbers of the units.
Apart from these numbers the order means nothing, as long as every module takes its items from one
file: each file declares the same types and functions, and what is written in them is resolved to
the same.

Where two files have items for one module, the order does matter.  The imports of that module meet
in the order of the files, and so do the declarations of one qualified name, the last of which
answers for all.

* `flatMap_eq_of_perm`: lists of parts, of which at most one is not empty, can be reordered.
* `exists_renumbering`: the entries of a reordered list stand in other positions.
* `agrees_scopesOf_of_perm`: the scopes of reordered files agree.
* `SourceIndex.Renumbers`, `Host.Renumbers`: what it means to be the same but for the numbers.
* `SourceIndex.ofSources_of_perm` is the result.
-/

namespace FixtureFactory

open Source (Item IsWordText)

/-! ## Lists in another order -/

section Reordered

variable {α β : Type}

/-- **Parts of which at most one is not empty** make one list in any order. -/
theorem flatMap_eq_of_perm {f : α → List β} {xs ys : List α} (h : xs.Perm ys)
    (hone : xs.Pairwise fun x y => f x = [] ∨ f y = []) : ys.flatMap f = xs.flatMap f := by
  induction h with
  | nil => rfl
  | cons x h ih =>
      rw [List.flatMap_cons, List.flatMap_cons, ih (List.pairwise_cons.mp hone).2]
  | swap x y xs =>
      have hempty := (List.pairwise_cons.mp hone).1 x List.mem_cons_self
      simp only [List.flatMap_cons]
      rcases hempty with hempty | hempty <;> rw [hempty, List.nil_append, List.nil_append]
  | trans h h' ih ih' =>
      have hone' := (h.pairwise_iff fun {x y} hxy => hxy.symm).mp hone
      rw [ih' hone', ih hone]

/-- A permutation of the positions after the first. -/
def shifted (ρ : Equiv.Perm Nat) : Equiv.Perm Nat where
  toFun
    | 0 => 0
    | i + 1 => ρ i + 1
  invFun
    | 0 => 0
    | i + 1 => ρ.symm i + 1
  left_inv
    | 0 => rfl
    | i + 1 => congrArg (· + 1) (ρ.symm_apply_apply i)
  right_inv
    | 0 => rfl
    | i + 1 => congrArg (· + 1) (ρ.apply_symm_apply i)

/-- **The entries of a reordered list** stand in other positions. -/
theorem exists_renumbering {xs ys : List α} (h : xs.Perm ys) :
    ∃ ρ : Equiv.Perm Nat, ∀ i, ys[ρ i]? = xs[i]? := by
  induction h with
  | nil => exact ⟨Equiv.refl Nat, fun _ => rfl⟩
  | cons x h ih =>
      obtain ⟨ρ, hρ⟩ := ih
      refine ⟨shifted ρ, fun i => ?_⟩
      cases i with
      | zero => rfl
      | succ i =>
          rw [List.getElem?_cons_succ, ← hρ i]
          rfl
  | swap x y xs =>
      refine ⟨Equiv.swap 0 1, fun i => ?_⟩
      rcases i with _ | _ | i
      · rfl
      · rfl
      · rw [Equiv.swap_apply_of_ne_of_ne (by omega) (by omega)]
        rfl
  | trans h h' ih ih' =>
      obtain ⟨ρ, hρ⟩ := ih
      obtain ⟨ρ', hρ'⟩ := ih'
      exact ⟨ρ.trans ρ', fun i => (hρ' (ρ i)).trans (hρ i)⟩

/-- The results of a list whose steps succeed stand where their arguments do. -/
theorem getElem?_of_forall₂ {ε : Type} {f : α → Except ε β} {xs : List α} {ys : List β}
    (h : List.Forall₂ (fun x y => f x = .ok y) xs ys) (i : Nat) :
    ys[i]? = xs[i]?.bind fun x => (f x).toOption := by
  induction h generalizing i with
  | nil => rfl
  | cons hxy h ih =>
      cases i with
      | zero =>
          rw [List.getElem?_cons_zero, List.getElem?_cons_zero, Option.bind_some, hxy]
          rfl
      | succ i => exact ih i

/-- **What one position of a list contributes**, if it can be told from the contributions of the
others. -/
theorem filter_flatMap_zipIdx {f : α × Nat → List β} {key : β → Nat}
    (hkey : ∀ x, ∀ b ∈ f x, key b = x.2) (xs : List α) (i : Nat) :
    (xs.zipIdx.flatMap f).filter (fun b => key b == i) =
      (xs[i]?.map fun x => f (x, i)).getD [] := by
  have hpart : ∀ x, (f x).filter (fun b => key b == i) = if x.2 = i then f x else [] := by
    intro x
    split
    · rename_i heq
      exact List.filter_eq_self.mpr fun b hb => beq_iff_eq.mpr ((hkey x b hb).trans heq)
    · rename_i hne
      exact List.filter_eq_nil_iff.mpr fun b hb heq =>
        hne ((hkey x b hb).symm.trans (beq_iff_eq.mp heq))
  induction xs using List.reverseRecOn with
  | nil => rfl
  | append_singleton xs x ih =>
      rw [List.zipIdx_append, List.flatMap_append, List.filter_append, ih]
      simp only [List.zipIdx_cons, List.zipIdx_nil, List.flatMap_cons, List.flatMap_nil,
        List.append_nil, hpart, Nat.zero_add]
      rcases Nat.lt_trichotomy i xs.length with hlt | heq | hgt
      · rw [if_neg (Nat.ne_of_gt hlt), List.append_nil, List.getElem?_append_left hlt]
      · rw [if_pos heq.symm, heq, List.getElem?_eq_none (Nat.le_refl _),
          List.getElem?_concat_length]
        rfl
      · rw [if_neg (Nat.ne_of_lt hgt), List.getElem?_eq_none (Nat.le_of_lt hgt),
          List.getElem?_eq_none (by rw [List.length_append]; exact hgt)]
        rfl

end Reordered

/-! ## Other numbers -/

section Renumbered

variable (ρ : Nat → Nat)

/-- The unit under another number. -/
def SourceUnit.renumber (u : SourceUnit) : SourceUnit := { u with id := ρ u.id }

/-- The declaration in the unit of another number. -/
def TypeDeclaration.renumber (d : TypeDeclaration) : TypeDeclaration := { d with unit := ρ d.unit }

@[inherit_doc TypeDeclaration.renumber]
def FunctionDeclaration.renumber (f : FunctionDeclaration) : FunctionDeclaration :=
  { f with unit := ρ f.unit }

@[inherit_doc TypeDeclaration.renumber]
def IndexedType.renumber (e : IndexedType) : IndexedType :=
  { e with declaration := e.declaration.renumber ρ }

/-- The place in the unit of another number. -/
def ItemContext.renumber (c : ItemContext) : ItemContext := { c with unit := ρ c.unit }

/-- The item in the unit of another number. -/
def PlacedItem.renumber (p : PlacedItem) : PlacedItem := { p with context := p.context.renumber ρ }

mutual

/-- The number of the unit is handed on to the items inside an item. -/
theorem placeInside_renumber (c : ItemContext) : ∀ item : Item,
    placeInside (c.renumber ρ) item = (placeInside c item).map (PlacedItem.renumber ρ)
  | .module name items => placeItems_renumber (c.within name) items
  | .record _ _ _ => rfl
  | .enumeration _ _ _ => rfl
  | .union _ _ => rfl
  | .typeAlias _ => rfl
  | .use _ => rfl
  | .function _ => rfl
  | .implementation _ _ => rfl
  | .other => rfl

theorem placeItems_renumber (c : ItemContext) : ∀ items : List Item,
    placeItems (c.renumber ρ) items = (placeItems c items).map (PlacedItem.renumber ρ)
  | [] => rfl
  | item :: items => by
      rw [placeItems, placeItems, placeInside_renumber c item, placeItems_renumber c items,
        List.map_cons, List.map_append]
      rfl

end

section Declared

variable {t t' : ScopeTable} (h : t.Agrees t')

include h

/-- **An item declares the same type** with a table that agrees. -/
theorem PlacedItem.type?_renumber (p : PlacedItem) :
    (p.renumber ρ).type? t' = (p.type? t).map (IndexedType.renumber ρ) := by
  obtain ⟨c, item⟩ := p
  cases item with
  | record attributes name fields =>
      cases fields with
      | named fields => simp only [PlacedItem.type?, fieldsOf, h.resolveType_eq]; rfl
      | unnamed types => rfl
      | unit => rfl
  | enumeration attributes name variants =>
      have hcase : caseOf t' c.module = caseOf t c.module := by
        funext v
        simp only [caseOf, h.resolveType_eq]
      exact congrArg (fun f => some (IndexedType.mk _ none (some (variants.map f)))) hcase
  | _ => rfl

/-- **It declares the same functions.** -/
theorem PlacedItem.functions_renumber (p : PlacedItem) :
    (p.renumber ρ).functions t' = (p.functions t).map (FunctionDeclaration.renumber ρ) := by
  obtain ⟨c, item⟩ := p
  have hfunction : ∀ scope associated f, functionOf t' (c.renumber ρ) scope associated f =
      (functionOf t c scope associated f).renumber ρ := by
    intro scope associated f
    have hresult : resultOf t' c.module f.result = resultOf t c.module f.result := by
      simp only [resultOf, h.resolveType_eq]
    exact congrArg (fun r => FunctionDeclaration.mk _ _ _ _ r _ _ _) hresult
  cases item with
  | function f => exact congrArg (fun f => [f]) (hfunction _ _ f)
  | implementation selfType functions =>
      simp only [PlacedItem.functions, List.map_map, h.resolveType_eq]
      exact List.map_congr_left fun f _ => hfunction _ _ f
  | _ => rfl

theorem typesOfItems_renumber (c : ItemContext) (items : List Item) :
    typesOfItems t' (c.renumber ρ) items =
      (typesOfItems t c items).map (IndexedType.renumber ρ) := by
  rw [typesOfItems_eq, typesOfItems_eq, placeItems_renumber, List.filterMap_map,
    List.map_filterMap]
  exact List.filterMap_congr fun p _ => p.type?_renumber ρ h

theorem functionsOfItems_renumber (c : ItemContext) (items : List Item) :
    functionsOfItems t' (c.renumber ρ) items =
      (functionsOfItems t c items).map (FunctionDeclaration.renumber ρ) := by
  rw [functionsOfItems_eq, functionsOfItems_eq, placeItems_renumber, List.flatMap_map,
    List.map_flatMap]
  exact List.flatMap_congr fun p _ => p.functions_renumber ρ h

end Declared

theorem unit_of_mem_functionsOfItems {t : ScopeTable} {c : ItemContext} (items : List Item)
    {f : FunctionDeclaration} (hf : f ∈ functionsOfItems t c items) : f.unit = c.unit := by
  -- the number of the unit may be replaced by itself
  have hsame := functionsOfItems_renumber (fun _ => c.unit) (.refl t) c items
  have hcontext : c.renumber (fun _ => c.unit) = c := rfl
  rw [hcontext] at hsame
  rw [hsame] at hf
  obtain ⟨f, -, rfl⟩ := List.mem_map.mp hf
  rfl

end Renumbered

/-! ## One file for each module -/

/-- The modules that take items from a file. -/
def ParsedFile.modules (file : ParsedFile) : List String :=
  (placeItems (contextOf 0 file) file.items).map fun p => p.context.module

/-- Every module, inline or not, takes its items from one file only. -/
def OneFilePerModule (files : List ParsedFile) : Prop :=
  files.Pairwise fun f g => ∀ module ∈ f.modules, module ∉ g.modules

/-- The modules of all pairs of files are compared. -/
instance (files : List ParsedFile) : Decidable (OneFilePerModule files) :=
  inferInstanceAs (Decidable (List.Pairwise _ files))

section OneFile

variable {files files' : List ParsedFile}

/-- **What files contribute to one module** does not depend on their order. -/
theorem OneFilePerModule.flatMap_eq {β : Type} (hone : OneFilePerModule files)
    (hperm : files.Perm files') {module : String} {part : ParsedFile → List β}
    (hpart : ∀ file, module ∉ file.modules → part file = []) :
    files'.flatMap part = files.flatMap part := by
  refine flatMap_eq_of_perm hperm (hone.imp fun {f g} hdisjoint => ?_)
  by_cases hmodule : module ∈ f.modules
  · exact Or.inr (hpart g (hdisjoint module hmodule))
  · exact Or.inl (hpart f hmodule)

/-- A file that a module takes no items from imports nothing into it. -/
theorem filterMap_useIn?_entriesOf {module : String} {file : ParsedFile}
    (h : module ∉ file.modules) : (entriesOf file).filterMap (ScopeEntry.useIn? module) = [] := by
  refine List.filterMap_eq_nil_iff.mpr fun e he => ?_
  rcases List.mem_append.mp he with he | he
  · obtain ⟨⟨parent, name⟩, -, rfl⟩ := Option.map_eq_some_iff.mp (Option.mem_toList.mp he)
    rfl
  · obtain ⟨⟨c, item⟩, hp, hentry⟩ := List.mem_filterMap.mp he
    cases item with
    | use tree =>
        have hother : c.module ≠ module := fun heq => h (List.mem_map.mpr ⟨_, hp, heq⟩)
        rw [← Option.some.inj hentry, ScopeEntry.useIn?, if_neg hother]
    | _ => cases hentry <;> rfl

/-- **The scopes of reordered files agree**, if every module takes its items from one file. -/
theorem agrees_scopesOf_of_perm (hperm : files.Perm files') (hone : OneFilePerModule files) :
    (scopesOf files).Agrees (scopesOf files') := by
  rw [scopesOf_eq_ofEntries, scopesOf_eq_ofEntries]
  refine ScopeTable.agrees_of_perm (hperm.flatMap_right _) fun module => ?_
  rw [List.filterMap_flatMap, List.filterMap_flatMap]
  exact hone.flatMap_eq hperm fun file => filterMap_useIn?_entriesOf

theorem OneFilePerModule.eq_of_mem (hone : OneFilePerModule files) {i j : Nat} {f g : ParsedFile}
    {module : String} (hf : files[i]? = some f) (hg : files[j]? = some g)
    (hmodule : module ∈ f.modules) (hmodule' : module ∈ g.modules) : i = j := by
  obtain ⟨hi, rfl⟩ := List.getElem?_eq_some_iff.mp hf
  obtain ⟨hj, rfl⟩ := List.getElem?_eq_some_iff.mp hg
  have hdisjoint := List.pairwise_iff_getElem.mp hone
  rcases Nat.lt_trichotomy i j with hlt | heq | hgt
  · exact absurd hmodule' (hdisjoint i j hi hj hlt module hmodule)
  · exact heq
  · exact absurd hmodule (hdisjoint j i hj hi hgt module hmodule')

end OneFile

/-! ## Qualified names -/

/-- **A qualified name shows the module and the name**, as long as names have no colons. -/
theorem memberPath_inj {module module' name name' : String} (hname : ':' ∉ name.toList)
    (hname' : ':' ∉ name'.toList)
    (h : ScopeTable.memberPath module name = ScopeTable.memberPath module' name') :
    module = module' ∧ name = name' := by
  have hchars : ∀ home own : String, (ScopeTable.memberPath home own).toList =
      (home.toList ++ [':']) ++ ':' :: own.toList := by
    intro home own
    rw [ScopeTable.memberPath, String.toList_append, String.toList_append, List.append_assoc,
      List.append_assoc]
    rfl
  have hsplit := congrArg String.toList h
  rw [hchars, hchars, List.append_eq_append_iff] at hsplit
  -- the last colon of the one is the last colon of the other
  have hnone : ∀ {between own other : List Char}, ':' ∉ own →
      ':' :: own = between ++ ':' :: other → between = [] := by
    intro between own other hown hlonger
    cases between with
    | nil => rfl
    | cons c between =>
        rw [(List.cons.inj hlonger).2] at hown
        exact absurd (List.mem_append_right _ List.mem_cons_self) hown
  have hboth : module.toList ++ [':'] = module'.toList ++ [':'] ∧
      ':' :: name.toList = ':' :: name'.toList := by
    rcases hsplit with ⟨between, hmodule, hrest⟩ | ⟨between, hmodule, hrest⟩
    · rw [hnone hname hrest, List.append_nil] at hmodule
      rw [hnone hname hrest] at hrest
      exact ⟨hmodule.symm, hrest⟩
    · rw [hnone hname' hrest, List.append_nil] at hmodule
      rw [hnone hname' hrest] at hrest
      exact ⟨hmodule, hrest.symm⟩
  exact ⟨String.toList_inj.mp (List.append_left_injective _ hboth.1),
    String.toList_inj.mp (List.cons.inj hboth.2).2⟩

theorem notMem_colon_of_isWordText {text : String} (h : IsWordText text) : ':' ∉ text.toList :=
  fun hcolon => absurd (h ':' hcolon) (by decide +kernel)

/-- The type of a well named item has the qualified name of a word in the module of the item. -/
theorem PlacedItem.exists_name_of_type? {t : ScopeTable} {p : PlacedItem} {e : IndexedType}
    (hp : p.item.WellNamed) (he : p.type? t = some e) :
    ∃ name, IsWordText name ∧
      e.declaration.qualifiedName = ScopeTable.memberPath p.context.module name := by
  obtain ⟨c, item⟩ := p
  cases item with
  | record attributes name fields =>
      rw [← Option.some.inj he]
      exact ⟨name.text, hp.1.1, rfl⟩
  | enumeration attributes name variants =>
      rw [← Option.some.inj he]
      exact ⟨name.text, hp.1, rfl⟩
  | union attributes name =>
      rw [← Option.some.inj he]
      exact ⟨name.text, hp.1, rfl⟩
  | _ => cases he

namespace SourceIndex

section Homes

variable {files : List ParsedFile}

/-- **Where a type of the index comes from**: a file, whose unit it belongs to, and one of the
modules that take items from the file. -/
theorem exists_home (hwell : ∀ file ∈ files, Item.AllWellNamed file.items) {e : IndexedType}
    (he : e ∈ (ofFiles files).types) :
    ∃ file, files[e.declaration.unit]? = some file ∧ ∃ module ∈ file.modules,
      ∃ name, IsWordText name ∧
        e.declaration.qualifiedName = ScopeTable.memberPath module name := by
  obtain ⟨⟨file, id⟩, hfile, hitem⟩ := List.mem_flatMap.mp he
  have hunit : e.declaration.unit = id := unit_of_mem_typesOfItems file.items hitem
  have hget := List.mk_mem_zipIdx_iff_getElem?.mp hfile
  have hitem : e ∈ typesOfItems (scopesOf files) (contextOf id file) file.items := hitem
  rw [typesOfItems_eq] at hitem
  obtain ⟨p, hp, htype⟩ := List.mem_filterMap.mp hitem
  have heverywhere : HandedInside fun _ => True := fun _ _ _ _ => trivial
  obtain ⟨-, hnamed⟩ :=
    of_mem_placeItems heverywhere (hwell file (List.mem_of_getElem? hget)) trivial hp
  obtain ⟨name, hname, hqualified⟩ := p.exists_name_of_type? hnamed htype
  refine ⟨file, hunit ▸ hget, p.context.module, ?_, name, hname, hqualified⟩
  -- the modules of a file are the same whatever its number
  have hcontext : contextOf id file = (contextOf 0 file).renumber fun _ => id := rfl
  rw [hcontext, placeItems_renumber] at hp
  obtain ⟨q, hq, rfl⟩ := List.mem_map.mp hp
  exact List.mem_map.mpr ⟨q, hq, rfl⟩

/-- **Types of one qualified name belong to one unit**, if every module takes its items from one
file. -/
theorem unit_eq_of_qualifiedName_eq (hwell : ∀ file ∈ files, Item.AllWellNamed file.items)
    (hone : OneFilePerModule files) {e e' : IndexedType} (he : e ∈ (ofFiles files).types)
    (he' : e' ∈ (ofFiles files).types)
    (h : e.declaration.qualifiedName = e'.declaration.qualifiedName) :
    e.declaration.unit = e'.declaration.unit := by
  obtain ⟨file, hfile, module, hmodule, name, hname, hqualified⟩ := exists_home hwell he
  obtain ⟨file', hfile', module', hmodule', name', hname', hqualified'⟩ := exists_home hwell he'
  obtain ⟨rfl, -⟩ := memberPath_inj (notMem_colon_of_isWordText hname)
    (notMem_colon_of_isWordText hname') (hqualified.symm.trans (h.trans hqualified'))
  exact hone.eq_of_mem hfile hfile' hmodule hmodule'

end Homes

/-! ## Indexes under other numbers -/

/-- The one index has, for every unit, what the other has for the unit of the new number, in the
same order and apart from the number. -/
structure Renumbers (ρ : Nat → Nat) (index index' : SourceIndex) : Prop where
  units : ∀ i, index'.units.filter (fun u => u.id == ρ i) =
    (index.units.filter fun u => u.id == i).map (SourceUnit.renumber ρ)
  types : ∀ i, index'.types.filter (fun e => e.declaration.unit == ρ i) =
    (index.types.filter fun e => e.declaration.unit == i).map (IndexedType.renumber ρ)
  functions : ∀ i, index'.functions.filter (fun f => f.unit == ρ i) =
    (index.functions.filter fun f => f.unit == i).map (FunctionDeclaration.renumber ρ)

section Index

variable {files files' : List ParsedFile} {ρ : Nat → Nat} {index index' : SourceIndex}

theorem filter_units (files : List ParsedFile) (i : Nat) :
    (ofFiles files).units.filter (fun u => u.id == i) =
      (files[i]?.map fun file => [unitOf i file]).getD [] := by
  have hunits : (ofFiles files).units = files.zipIdx.flatMap fun x => [unitOf x.2 x.1] :=
    List.map_eq_flatMap
  rw [hunits]
  refine filter_flatMap_zipIdx (fun x u hu => ?_) files i
  rw [List.mem_singleton.mp hu]
  rfl

@[inherit_doc filter_units]
theorem filter_types (files : List ParsedFile) (i : Nat) :
    (ofFiles files).types.filter (fun e => e.declaration.unit == i) =
      (files[i]?.map fun file =>
        typesOfItems (scopesOf files) (contextOf i file) file.items).getD [] :=
  filter_flatMap_zipIdx (fun x _ he => unit_of_mem_typesOfItems x.1.items he) files i

@[inherit_doc filter_units]
theorem filter_functions (files : List ParsedFile) (i : Nat) :
    (ofFiles files).functions.filter (fun f => f.unit == i) =
      (files[i]?.map fun file =>
        functionsOfItems (scopesOf files) (contextOf i file) file.items).getD [] :=
  filter_flatMap_zipIdx (fun x _ hf => unit_of_mem_functionsOfItems x.1.items hf) files i

/-- **The index of the same files in other positions** is the same but for the numbers, if the
scopes agree. -/
theorem renumbers_of_getElem? (h : (scopesOf files).Agrees (scopesOf files'))
    (hρ : ∀ i, files'[ρ i]? = files[i]?) : (ofFiles files).Renumbers ρ (ofFiles files') := by
  refine ⟨fun i => ?_, fun i => ?_, fun i => ?_⟩
  · rw [filter_units, filter_units, hρ]
    cases files[i]? <;> rfl
  · rw [filter_types, filter_types, hρ]
    cases files[i]? with
    | none => rfl
    | some file => exact typesOfItems_renumber ρ h (contextOf i file) file.items
  · rw [filter_functions, filter_functions, hρ]
    cases files[i]? with
    | none => rfl
    | some file => exact functionsOfItems_renumber ρ h (contextOf i file) file.items

/-! ## Answers by name -/

/-- The types of a qualified name. -/
def named (index : SourceIndex) (name : String) : List IndexedType :=
  index.types.filter fun e => e.declaration.qualifiedName == name

/-- **The types of a qualified name** are the same in the same order, if they belong to one unit. -/
theorem Renumbers.named_eq (h : index.Renumbers ρ index') (hρ : Function.Surjective ρ)
    {name : String} {i : Nat}
    (hunit : ∀ e ∈ index.types, e.declaration.qualifiedName = name → e.declaration.unit = i) :
    index'.named name = (index.named name).map (IndexedType.renumber ρ) := by
  have hnew : ∀ e ∈ index'.types,
      e.declaration.qualifiedName = name → e.declaration.unit = ρ i := by
    intro e he hname
    obtain ⟨j, hj⟩ := hρ e.declaration.unit
    have hfiltered : e ∈ index'.types.filter fun e => e.declaration.unit == ρ j :=
      List.mem_filter.mpr ⟨he, beq_iff_eq.mpr hj.symm⟩
    rw [h.types] at hfiltered
    obtain ⟨old, hold, rfl⟩ := List.mem_map.mp hfiltered
    exact congrArg ρ (hunit old (List.mem_of_mem_filter hold) hname)
  have hwithin : ∀ {types : List IndexedType} {k : Nat},
      (∀ e ∈ types, e.declaration.qualifiedName = name → e.declaration.unit = k) →
      types.filter (fun e => e.declaration.qualifiedName == name) =
        (types.filter fun e => e.declaration.unit == k).filter
          fun e => e.declaration.qualifiedName == name := by
    intro types k hk
    rw [List.filter_filter]
    refine List.filter_congr fun e he => ?_
    by_cases hname : e.declaration.qualifiedName = name
    · rw [hk e he hname, hname, beq_self_eq_true, beq_self_eq_true]
      rfl
    · rw [beq_false_of_ne hname]
      rfl
  rw [named, named, hwithin hnew, h.types, hwithin hunit, List.filter_map]
  rfl

theorem lastOf_eq_getLast? {α : Type} (index : SourceIndex) (name : String)
    (ask : IndexedType → Option α) :
    index.lastOf name ask = ((index.named name).filterMap ask).getLast? := by
  rw [lastOf, named, List.filterMap_filter]

/-- **Answers by name are the same**, if the answers of the types are. -/
theorem Renumbers.lastOf_eq {α β : Type} (h : index.Renumbers ρ index')
    (hρ : Function.Surjective ρ)
    (hone : ∀ e ∈ index.types, ∀ e' ∈ index.types,
      e.declaration.qualifiedName = e'.declaration.qualifiedName →
        e.declaration.unit = e'.declaration.unit)
    {ask : IndexedType → Option α} {ask' : IndexedType → Option β} {g : α → β}
    (hask : ∀ e, ask' (e.renumber ρ) = (ask e).map g) (name : String) :
    index'.lastOf name ask' = (index.lastOf name ask).map g := by
  have hunit : ∃ i, ∀ e ∈ index.types,
      e.declaration.qualifiedName = name → e.declaration.unit = i := by
    by_cases hnone : ∃ e ∈ index.types, e.declaration.qualifiedName = name
    · obtain ⟨e, he, hname⟩ := hnone
      exact ⟨_, fun e' he' hname' => hone e' he' e he (hname'.trans hname.symm)⟩
    · exact ⟨0, fun e he hname => absurd ⟨e, he, hname⟩ hnone⟩
  obtain ⟨i, hunit⟩ := hunit
  rw [lastOf_eq_getLast?, lastOf_eq_getLast?, h.named_eq hρ hunit, List.filterMap_map,
    ← List.getLast?_map, List.map_filterMap]
  exact congrArg List.getLast? (List.filterMap_congr fun e _ => hask e)

end Index

end SourceIndex

/-! ## Hosts under other numbers -/

/-- The one host gives the answers of the other, apart from the numbers of the units: for every
unit it lists the same declarations in the same order, and it finds the same declarations, fields
and cases. -/
structure Host.Renumbers (ρ : Nat → Nat) (host host' : Host) : Prop where
  unit? : ∀ id, host'.unit? (ρ id) = (host.unit? id).map (SourceUnit.renumber ρ)
  markedFunctions : ∀ m id, (host'.markedFunctions m).filter (fun f => f.unit == ρ id) =
    ((host.markedFunctions m).filter fun f => f.unit == id).map (FunctionDeclaration.renumber ρ)
  markedTypes : ∀ m id, (host'.markedTypes m).filter (fun d => d.unit == ρ id) =
    ((host.markedTypes m).filter fun d => d.unit == id).map (TypeDeclaration.renumber ρ)
  resolve : ∀ t, host'.resolve t = (host.resolve t).map (TypeDeclaration.renumber ρ)
  fields : ∀ d, host'.fields (d.renumber ρ) = host.fields d
  cases : ∀ d, host'.cases (d.renumber ρ) = host.cases d

namespace SourceIndex

variable {ρ : Nat → Nat} {index index' : SourceIndex}

theorem Renumbers.declarations (h : index.Renumbers ρ index') (i : Nat) :
    index'.declarations.filter (fun d => d.unit == ρ i) =
      (index.declarations.filter fun d => d.unit == i).map (TypeDeclaration.renumber ρ) := by
  have htypes := congrArg (List.map IndexedType.declaration) (h.types i)
  rw [SourceIndex.declarations, SourceIndex.declarations, List.filter_map, List.filter_map,
    List.map_map]
  rw [List.map_map] at htypes
  exact htypes

/-- **The host of an index under other numbers** is the host under other numbers, if types of one
qualified name belong to one unit. -/
theorem Renumbers.toHost (h : index.Renumbers ρ index') (hρ : Function.Surjective ρ)
    (hone : ∀ e ∈ index.types, ∀ e' ∈ index.types,
      e.declaration.qualifiedName = e'.declaration.qualifiedName →
        e.declaration.unit = e'.declaration.unit) :
    index.toHost.Renumbers ρ index'.toHost where
  unit? id := by
    have hunits := congrArg List.head? (h.units id)
    rwa [List.head?_filter, List.head?_map, List.head?_filter] at hunits
  markedFunctions m id := by
    rw [SourceIndex.toHost, SourceIndex.toHost, List.filter_comm, h.functions, List.filter_map,
      List.filter_comm]
    rfl
  markedTypes m id := by
    rw [SourceIndex.toHost, SourceIndex.toHost, List.filter_comm, h.declarations, List.filter_map,
      List.filter_comm]
    rfl
  resolve t := h.lastOf_eq hρ hone (fun _ => rfl) t.path
  fields d := by
    have hfields : index'.lastOf d.qualifiedName IndexedType.fields =
        (index.lastOf d.qualifiedName IndexedType.fields).map id :=
      h.lastOf_eq hρ hone (fun e => (congrFun Option.map_id e.fields).symm) d.qualifiedName
    rw [Option.map_id] at hfields
    exact congrArg (Option.getD · []) hfields
  cases d := by
    have hcases : index'.lastOf d.qualifiedName IndexedType.cases =
        (index.lastOf d.qualifiedName IndexedType.cases).map id :=
      h.lastOf_eq hρ hone (fun e => (congrFun Option.map_id e.cases).symm) d.qualifiedName
    rw [Option.map_id] at hcases
    exact congrArg (Option.getD · []) hcases

/-! ## Sources in another order -/

theorem exists_parseFiles_of_perm {files files' : List SourceFile} {parsed : List ParsedFile}
    (hperm : files.Perm files') (hparsed : parseFiles files = .ok parsed) :
    ∃ parsed', parseFiles files' = .ok parsed' ∧ parsed.Perm parsed' := by
  obtain ⟨parsed', hread, hpermuted⟩ :=
    List.perm_comp_forall₂ hperm.symm ((mapM_eq_ok_iff _ _ _).mp hparsed)
  exact ⟨parsed', (mapM_eq_ok_iff _ _ _).mpr hread, hpermuted.symm⟩

/-- **The order of the files does not matter**, if every module takes its items from one file.  The
same files can be read in any order.  The index of the reordered files has for each file what the
index of the files has for it: the unit, the types with the fields and cases that are written in
them, and the functions with their results, in the same order and apart from the number of the unit.
The hosts of the two indexes give the same answers in this sense. -/
theorem ofSources_of_perm {files files' : List SourceFile} {parsed : List ParsedFile}
    (hperm : files.Perm files') (hparsed : parseFiles files = .ok parsed)
    (hone : OneFilePerModule parsed) :
    ∃ (ρ : Equiv.Perm Nat) (index index' : SourceIndex),
      ofSources files = .ok index ∧ ofSources files' = .ok index' ∧
      (∀ i, files'[ρ i]? = files[i]?) ∧
      index.Renumbers ρ index' ∧ index.toHost.Renumbers ρ index'.toHost := by
  obtain ⟨ρ, hρ⟩ := exists_renumbering hperm
  obtain ⟨parsed', hparsed', hpermuted⟩ := exists_parseFiles_of_perm hperm hparsed
  -- the files that have been read stand where the sources do
  have hread : ∀ i, parsed'[ρ i]? = parsed[i]? := by
    intro i
    rw [getElem?_of_forall₂ ((mapM_eq_ok_iff _ _ _).mp hparsed'),
      getElem?_of_forall₂ ((mapM_eq_ok_iff _ _ _).mp hparsed), hρ]
  have hindex : (ofFiles parsed).Renumbers ρ (ofFiles parsed') :=
    renumbers_of_getElem? (agrees_scopesOf_of_perm hpermuted hone) hread
  have hnames : ∀ e ∈ (ofFiles parsed).types, ∀ e' ∈ (ofFiles parsed).types,
      e.declaration.qualifiedName = e'.declaration.qualifiedName →
        e.declaration.unit = e'.declaration.unit := fun e he e' he' =>
    unit_eq_of_qualifiedName_eq (wellNamed_of_parseFiles hparsed) hone he he'
  refine ⟨ρ, ofFiles parsed, ofFiles parsed', ?_, ?_, hρ, hindex,
    hindex.toHost ρ.surjective hnames⟩
  · rw [ofSources, hparsed]
    rfl
  · rw [ofSources, hparsed']
    rfl

/-- The names that a unit declares, each with the texts of its field types or of its result. -/
def signatures (index : SourceIndex) (unit : Nat) : List (String × List String) :=
  (index.types.filter fun e => e.declaration.unit == unit).map
      (fun e => (e.declaration.qualifiedName, (e.fields.getD []).map fun f => f.type.render)) ++
    (index.functions.filter fun f => f.unit == unit).map
      (fun f => (f.qualifiedName, f.returnType.toList.map TypeRef.render))

theorem Renumbers.signatures_eq (h : index.Renumbers ρ index') (unit : Nat) :
    index'.signatures (ρ unit) = index.signatures unit := by
  rw [signatures, signatures, h.types, h.functions, List.map_map, List.map_map]
  rfl

/-- A record with a field of a type of another file, and a function that returns that type. -/
def pairSources : List SourceFile :=
  [⟨"lib.rs", "use a::B; struct C { b: B } fn f() -> B {}"⟩, ⟨"a.rs", "struct B;"⟩]

/-- The two files can change places. -/
theorem ofSources_of_perm_pair :
    ∃ (parsed : List ParsedFile) (ρ : Equiv.Perm Nat) (index index' : SourceIndex),
      parseFiles pairSources = .ok parsed ∧ OneFilePerModule parsed ∧
      ofSources pairSources = .ok index ∧ ofSources pairSources.reverse = .ok index' ∧
      ρ 0 = 1 ∧ index.toHost.Renumbers ρ index'.toHost ∧
      index.signatures 0 = [("crate::C", ["crate::a::B"]), ("crate::f", ["crate::a::B"])] ∧
      index'.signatures 1 = [("crate::C", ["crate::a::B"]), ("crate::f", ["crate::a::B"])] := by
  have hfacts : (parseFiles pairSources).map (fun parsed =>
      (decide (OneFilePerModule parsed), (ofFiles parsed).signatures 0)) =
      .ok (true, [("crate::C", ["crate::a::B"]), ("crate::f", ["crate::a::B"])]) := by
    decide +kernel
  obtain ⟨parsed, hparsed, hfacts⟩ := exceptMap_eq_ok_iff.mp hfacts
  obtain ⟨hone, hsignatures⟩ := Prod.mk.inj hfacts
  have hone : OneFilePerModule parsed := of_decide_eq_true hone.symm
  obtain ⟨ρ, index, index', hindex, hindex', hρ, hrenumbers, hhosts⟩ :=
    ofSources_of_perm pairSources.reverse_perm.symm hparsed hone
  have hsame : index = ofFiles parsed := by
    rw [ofSources, hparsed] at hindex
    exact (Except.ok.inj hindex).symm
  rw [← hsame] at hsignatures
  -- the first file can only be found at the second position of the reversed list
  have hfirst : ρ 0 = 1 := by
    have hget := hρ 0
    generalize ρ 0 = position at hget
    rcases position with _ | _ | position
    · exact absurd hget (by decide)
    · rfl
    · cases hget
  refine ⟨parsed, ρ, index, index', hparsed, hone, hindex, hindex', hfirst, hhosts,
    hsignatures.symm, ?_⟩
  rw [← hfirst, hrenumbers.signatures_eq, ← hsignatures]

end SourceIndex

end FixtureFactory
