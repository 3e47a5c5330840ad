import FixtureFactory.Proofs.Discovery
import Mathlib.Data.List.Find

/-!
# Filling a catalogue in another order

A catalogue lists its declarations unit by unit, numbers the made-up lines within a unit, and finds
types, fields and cases by qualified name.  So it matters in which order the declarations of one
unit are added, but not how those of different units are mixed, as long as no two types have one
qualified name.  Catalogues that differ in the mixture are not equal, for they keep what is added in
the order of the additions; they are equal as hosts, and a run sees no more than that.

## One unit

`Catalogue.SameUnit` says that two catalogues hold the same of one unit, the next line included.
An addition to another unit keeps that, and the same addition to both keeps it as well
(`SameUnit.apply_of_ne`, `SameUnit.apply`), so what a catalogue holds of a unit depends on the
additions to that unit alone: `SameUnit.addAll`.

## All units

* `SameByKey.mergeSort_eq`: a stable sort forgets how elements of different keys are mixed.
* `Catalogue.toHost_addAll`: additions that differ in the mixture of the units make one host.
* `Pipeline.run_of_reordered`: a run over that host is one and the same.
-/

namespace FixtureFactory

/-! ## Lists that agree key by key -/

section Keys

variable {α : Type} {key : α → Nat} {xs ys : List α}

/-- Whether two lists hold the same elements of each key, in the same order. -/
def SameByKey (key : α → Nat) (xs ys : List α) : Prop :=
  ∀ k, xs.filter (fun x => key x == k) = ys.filter fun y => key y == k

theorem SameByKey.symm (h : SameByKey key xs ys) : SameByKey key ys xs := fun k => (h k).symm

theorem SameByKey.mem_iff (h : SameByKey key xs ys) {x : α} : x ∈ xs ↔ x ∈ ys := by
  have hmem : ∀ {zs : List α}, x ∈ zs ↔ x ∈ zs.filter fun z => key z == key x := by
    intro zs
    rw [List.mem_filter, beq_self_eq_true, and_iff_left rfl]
  rw [hmem, h, ← hmem]

theorem SameByKey.filter (h : SameByKey key xs ys) (p : α → Bool) :
    SameByKey key (xs.filter p) (ys.filter p) := by
  intro k
  rw [List.filter_comm, h k, List.filter_comm]

/-- **Sorted lists that agree key by key are equal.** -/
theorem SameByKey.eq_of_sorted (h : SameByKey key xs ys)
    (hxs : xs.Pairwise fun a b => key a ≤ key b) (hys : ys.Pairwise fun a b => key a ≤ key b) :
    xs = ys := by
  induction xs generalizing ys with
  | nil => exact (List.eq_nil_iff_forall_not_mem.mpr fun y hy => by cases h.mem_iff.mpr hy).symm
  | cons x xs ih =>
      cases ys with
      | nil => cases h.mem_iff.mp List.mem_cons_self
      | cons y ys =>
          obtain ⟨hx, hxrest⟩ := List.pairwise_cons.mp hxs
          obtain ⟨hy, hyrest⟩ := List.pairwise_cons.mp hys
          have hkey : key x = key y := by
            refine Nat.le_antisymm ?_ ?_
            · rcases List.mem_cons.mp (h.mem_iff.mpr List.mem_cons_self) with rfl | hmem
              · exact Nat.le_refl _
              · exact hx y hmem
            · rcases List.mem_cons.mp (h.mem_iff.mp List.mem_cons_self) with rfl | hmem
              · exact Nat.le_refl _
              · exact hy x hmem
          have hhead := h (key y)
          simp only [List.filter_cons, hkey, beq_self_eq_true, if_true] at hhead
          obtain ⟨rfl, hsame⟩ := List.cons.inj hhead
          refine congrArg (x :: ·) (ih (fun k => ?_) hxrest hyrest)
          by_cases hk : key x = k
          · rw [← hk]
            exact hsame
          · have hrest := h k
            simp only [List.filter_cons, beq_false_of_ne hk, Bool.false_eq_true, if_false] at hrest
            exact hrest

theorem decide_key_le_trans (key : α → Nat) (a b c : α) (hab : decide (key a ≤ key b) = true)
    (hbc : decide (key b ≤ key c) = true) : decide (key a ≤ key c) = true :=
  decide_eq_true (Nat.le_trans (of_decide_eq_true hab) (of_decide_eq_true hbc))

theorem decide_key_le_total (key : α → Nat) (a b : α) :
    (decide (key a ≤ key b) || decide (key b ≤ key a)) = true := by
  rw [Bool.or_eq_true, decide_eq_true_eq, decide_eq_true_eq]
  exact Nat.le_total _ _

/-- **A stable sort keeps the elements of each key as they are.** -/
theorem sameByKey_mergeSort (key : α → Nat) (xs : List α) :
    SameByKey key (xs.mergeSort fun a b => key a ≤ key b) xs := by
  intro k
  have hsublist : (xs.filter fun x => key x == k).Sublist
      (xs.mergeSort fun a b => key a ≤ key b) := by
    refine List.sublist_mergeSort (decide_key_le_trans key) (decide_key_le_total key)
      (List.pairwise_of_forall_mem_list fun a ha b hb => ?_) List.filter_sublist
    rw [beq_iff_eq.mp (List.mem_filter.mp ha).2, beq_iff_eq.mp (List.mem_filter.mp hb).2]
    exact decide_eq_true (Nat.le_refl k)
  have hfilter := hsublist.filter fun x => key x == k
  rw [List.filter_filter, funext fun x => Bool.and_self (key x == k)] at hfilter
  exact (hfilter.eq_of_length
    ((List.mergeSort_perm xs _).filter fun x => key x == k).length_eq.symm).symm

/-- **A stable sort forgets how elements of different keys are mixed.** -/
theorem SameByKey.mergeSort_eq (h : SameByKey key xs ys) :
    (xs.mergeSort fun a b => key a ≤ key b) = ys.mergeSort fun a b => key a ≤ key b := by
  have hsorted : ∀ zs : List α,
      (zs.mergeSort fun a b => key a ≤ key b).Pairwise fun a b => key a ≤ key b := fun zs =>
    (List.pairwise_mergeSort (decide_key_le_trans key) (decide_key_le_total key) zs).imp
      of_decide_eq_true
  refine SameByKey.eq_of_sorted (fun k => ?_) (hsorted xs) (hsorted ys)
  rw [sameByKey_mergeSort, h k, sameByKey_mergeSort]

/-- **Lists that agree key by key are permutations of each other.** -/
theorem SameByKey.perm (h : SameByKey key xs ys) : xs.Perm ys :=
  (List.mergeSort_perm xs _).symm.trans (h.mergeSort_eq ▸ List.mergeSort_perm ys _)

end Keys

/-! ## Look-ups in permuted lists -/

section LookUps

variable {α β : Type}

theorem find?_eq_of_perm_of_nodup [BEq β] [LawfulBEq β] {xs ys : List α} (hperm : xs.Perm ys)
    {key : α → β} (hnodup : (xs.map key).Nodup) (k : β) :
    (xs.find? fun x => key x == k) = ys.find? fun y => key y == k := by
  refine List.find?_eq_find?_of_perm hperm ?_
  rintro x ⟨hx, hxkey⟩ y ⟨hy, hykey⟩
  exact List.inj_on_of_nodup_map hnodup hx hy
    ((beq_iff_eq.mp hxkey).trans (beq_iff_eq.mp hykey).symm)

theorem lookup_eq_find? [BEq β] [LawfulBEq β] (k : β) (entries : List (β × α)) :
    entries.lookup k = (entries.find? fun entry => entry.1 == k).map Prod.snd := by
  induction entries with
  | nil => rfl
  | cons entry entries ih =>
      rw [List.lookup_cons, List.find?_cons, BEq.comm (a := k)]
      cases entry.1 == k with
      | true => rfl
      | false => exact ih

theorem Catalogue.single?_eq_of_perm {xs ys : List α} (hperm : xs.Perm ys) :
    single? xs = single? ys := by
  rcases xs with _ | ⟨x, _ | ⟨x', xs⟩⟩
  · rw [List.nil_perm.mp hperm]
  · rw [List.singleton_perm.mp hperm]
  · rcases ys with _ | ⟨y, _ | ⟨y', ys⟩⟩
    · rfl
    · cases hperm.length_eq
    · rfl

/-- A function that gives less than another one gives a sublist. -/
theorem filterMap_sublist_filterMap {f g : α → Option β}
    (h : ∀ x b, f x = some b → g x = some b) (xs : List α) :
    (xs.filterMap f).Sublist (xs.filterMap g) := by
  induction xs with
  | nil => exact .slnil
  | cons x xs ih =>
      rw [List.filterMap_cons, List.filterMap_cons]
      cases hf : f x with
      | none =>
          cases g x with
          | none => exact ih
          | some b => exact ih.cons b
      | some b =>
          rw [h x b hf]
          exact ih.cons_cons b

end LookUps

namespace Catalogue

/-! ## Additions -/

/-- What can be added to a catalogue once its units are there.  A fixture is a record with a marker,
an enumeration comes with its cases, and an adapter is a marked function without parameters. -/
inductive Addition where
  /-- A type declaration as it is. -/
  | type (d : TypeDeclaration)
  /-- A function declaration as it is. -/
  | function (f : FunctionDeclaration)
  | declaration (unit : Nat) (name : String) (kind : DeclarationKind) (markers : List Marker)
  | record (unit : Nat) (name : String) (fields : List Field) (markers : List Marker)
  | enumeration (unit : Nat) (name : String) (kind : DeclarationKind)
      (cases : List CaseDeclaration)
  | markedFunction (unit : Nat) (name : String) (parameterCount : Nat)
      (returnType : Option TypeRef)

namespace Addition

/-- The unit that something is added to. -/
def unit : Addition → Nat
  | .type d => d.unit
  | .function f => f.unit
  | .declaration unit .. => unit
  | .record unit .. => unit
  | .enumeration unit .. => unit
  | .markedFunction unit .. => unit

/-- The catalogue after an addition. -/
def apply (c : Catalogue) : Addition → Catalogue
  | .type d => c.addType d
  | .function f => c.addFunction f
  | .declaration unit name kind markers => (c.addDeclaration unit name kind markers).2
  | .record unit name fields markers => (c.addRecord unit name fields markers).2
  | .enumeration unit name kind cases => (c.addCases unit name kind cases).2
  | .markedFunction unit name parameterCount returnType =>
      c.addMarkedFunction unit name parameterCount returnType

/-- The type that is added. -/
def type? (c : Catalogue) : Addition → Option TypeDeclaration
  | .type d => some d
  | .declaration unit name kind markers => some (c.declaration unit name kind markers).1
  | .record unit name _ markers => some (c.declaration unit name .record markers).1
  | .enumeration unit name kind _ => some (c.declaration unit name kind []).1
  | _ => none

/-- The function that is added. -/
def function? (c : Catalogue) : Addition → Option FunctionDeclaration
  | .function f => some f
  | .markedFunction unit name parameterCount returnType =>
      some ⟨unit, c.modulePath unit, name, parameterCount, returnType, [.fixtureAdapter],
        (c.nextLocation unit).1, false⟩
  | _ => none

/-- The qualified name of the type that is added. -/
def name? (c : Catalogue) : Addition → Option String
  | .type d => some d.qualifiedName
  | .declaration unit name _ _ => some (c.modulePath unit ++ "::" ++ name)
  | .record unit name _ _ => some (c.modulePath unit ++ "::" ++ name)
  | .enumeration unit name _ _ => some (c.modulePath unit ++ "::" ++ name)
  | _ => none

/-- The fields that are added. -/
def fields? : Addition → Option (List Field)
  | .record _ _ fields _ => some fields
  | _ => none

/-- The cases that are added. -/
def cases? : Addition → Option (List CaseDeclaration)
  | .enumeration _ _ _ cases => some cases
  | _ => none

/-- The line that is given out. -/
def line? (c : Catalogue) : Addition → Option (Nat × Nat)
  | .type _ => none
  | .function _ => none
  | a => some (a.unit, (c.nextLocation a.unit).1.line)

/-- A part of an addition, under the qualified name of the type that is added. -/
def named? {α : Type} (part : Addition → Option α) (c : Catalogue) (a : Addition) :
    Option (String × α) :=
  (a.name? c).bind fun name => (part a).map fun x => (name, x)

/-- **What an addition adds**, part by part. -/
theorem apply_eq (c : Catalogue) (a : Addition) : a.apply c =
    { units := c.units
      types := c.types ++ (a.type? c).toList
      functions := c.functions ++ (a.function? c).toList
      fieldLists := (named? fields? c a).toList ++ c.fieldLists
      caseLists := (named? cases? c a).toList ++ c.caseLists
      lines := (a.line? c).toList ++ c.lines } := by
  cases a with
  | type d => simp [apply, addType, type?, function?, named?, name?, fields?, cases?, line?]
  | function f => simp [apply, addFunction, type?, function?, named?, name?, line?]
  | declaration unit name kind markers =>
      simp [apply, addDeclaration, Catalogue.declaration, nextLocation, addType, type?, function?,
        named?, name?, fields?, cases?, line?, Addition.unit]
  | record unit name fields markers =>
      simp [apply, addRecord, Catalogue.declaration, nextLocation, addType, type?, function?,
        named?, name?, fields?, cases?, line?, Addition.unit]
  | enumeration unit name kind cases =>
      simp [apply, addCases, Catalogue.declaration, nextLocation, addType, type?, function?,
        named?, name?, fields?, cases?, line?, Addition.unit]
  | markedFunction unit name parameterCount returnType =>
      simp [apply, addMarkedFunction, nextLocation, addFunction, type?, function?, named?, name?,
        line?, Addition.unit]

theorem unit_of_type? {c : Catalogue} {a : Addition} {d : TypeDeclaration}
    (h : a.type? c = some d) : d.unit = a.unit := by
  cases a <;> cases h <;> rfl

theorem unit_of_function? {c : Catalogue} {a : Addition} {f : FunctionDeclaration}
    (h : a.function? c = some f) : f.unit = a.unit := by
  cases a <;> cases h <;> rfl

theorem fst_of_line? {c : Catalogue} {a : Addition} {line : Nat × Nat}
    (h : a.line? c = some line) : line.1 = a.unit := by
  cases a <;> cases h <;> rfl

theorem name?_eq (c : Catalogue) (a : Addition) :
    a.name? c = (a.type? c).map TypeDeclaration.qualifiedName := by
  cases a <;> rfl

end Addition

/-- The catalogue after some additions. -/
def addAll (c : Catalogue) (additions : List Addition) : Catalogue :=
  additions.foldl Addition.apply c

/-! ## One unit -/

/-- Whether two catalogues have the same units and hold the same of one of them. -/
structure SameUnit (unit : Nat) (c c' : Catalogue) : Prop where
  units : c'.units = c.units
  types : c'.types.filter (fun d => d.unit == unit) = c.types.filter fun d => d.unit == unit
  functions :
    c'.functions.filter (fun f => f.unit == unit) = c.functions.filter fun f => f.unit == unit
  lines : c'.lines.lookup unit = c.lines.lookup unit

section OneUnit

variable {unit : Nat} {c c' c'' : Catalogue} {a : Addition}

theorem SameUnit.refl (unit : Nat) (c : Catalogue) : SameUnit unit c c := ⟨rfl, rfl, rfl, rfl⟩

theorem SameUnit.symm (h : SameUnit unit c c') : SameUnit unit c' c :=
  ⟨h.units.symm, h.types.symm, h.functions.symm, h.lines.symm⟩

theorem SameUnit.trans (h : SameUnit unit c c') (h' : SameUnit unit c' c'') : SameUnit unit c c'' :=
  ⟨h'.units.trans h.units, h'.types.trans h.types, h'.functions.trans h.functions,
    h'.lines.trans h.lines⟩

theorem SameUnit.nextLocation (h : SameUnit unit c c') :
    (c'.nextLocation unit).1 = (c.nextLocation unit).1 := by
  rw [Catalogue.nextLocation, Catalogue.nextLocation, unit?, unit?, h.units, h.lines]

theorem modulePath_congr (h : c'.units = c.units) (unit : Nat) :
    c'.modulePath unit = c.modulePath unit := by
  rw [modulePath, modulePath, unit?, unit?, h]

theorem SameUnit.declaration (h : SameUnit unit c c') (name : String) (kind : DeclarationKind)
    (markers : List Marker) :
    (c'.declaration unit name kind markers).1 = (c.declaration unit name kind markers).1 := by
  simp only [Catalogue.declaration, modulePath_congr h.units, h.nextLocation]

theorem SameUnit.type?_eq (h : SameUnit a.unit c c') : a.type? c' = a.type? c := by
  cases a with
  | type d => rfl
  | function f => rfl
  | declaration unit name kind markers => exact congrArg some (h.declaration name kind markers)
  | record unit name fields markers => exact congrArg some (h.declaration name .record markers)
  | enumeration unit name kind cases => exact congrArg some (h.declaration name kind [])
  | markedFunction unit name parameterCount returnType => rfl

theorem SameUnit.function?_eq (h : SameUnit a.unit c c') : a.function? c' = a.function? c := by
  cases a with
  | markedFunction unit name parameterCount returnType =>
      have hlocation : (c'.nextLocation unit).1 = (c.nextLocation unit).1 :=
        SameUnit.nextLocation h
      simp only [Addition.function?, modulePath_congr h.units, hlocation]
  | type d => rfl
  | function f => rfl
  | declaration unit name kind markers => rfl
  | record unit name fields markers => rfl
  | enumeration unit name kind cases => rfl

theorem SameUnit.line?_eq (h : SameUnit a.unit c c') : a.line? c' = a.line? c := by
  cases a with
  | type d => rfl
  | function f => rfl
  | _ => simp only [Addition.line?, h.nextLocation]

/-- **An addition to another unit** changes nothing about a unit. -/
theorem SameUnit.apply_of_ne (c : Catalogue) (hne : a.unit ≠ unit) :
    SameUnit unit c (a.apply c) := by
  rw [a.apply_eq c]
  refine ⟨rfl, ?_, ?_, ?_⟩
  · have hnone : (a.type? c).toList.filter (fun d => d.unit == unit) = [] := by
      refine List.filter_eq_nil_iff.mpr fun d hd => ?_
      rw [Addition.unit_of_type? (Option.mem_toList.mp hd), beq_iff_eq]
      exact hne
    rw [List.filter_append, hnone, List.append_nil]
  · have hnone : (a.function? c).toList.filter (fun f => f.unit == unit) = [] := by
      refine List.filter_eq_nil_iff.mpr fun f hf => ?_
      rw [Addition.unit_of_function? (Option.mem_toList.mp hf), beq_iff_eq]
      exact hne
    rw [List.filter_append, hnone, List.append_nil]
  · show ((a.line? c).toList ++ c.lines).lookup unit = c.lines.lookup unit
    cases hline : a.line? c with
    | none => rfl
    | some line =>
        have hother : (unit == line.1) = false :=
          beq_false_of_ne fun h => hne (Addition.fst_of_line? hline ▸ h.symm)
        obtain ⟨home, number⟩ := line
        rw [Option.toList_some, List.singleton_append, List.lookup_cons, hother]

/-- **The same addition to both** keeps what two catalogues have in common of its unit. -/
theorem SameUnit.apply (h : SameUnit a.unit c c') : SameUnit a.unit (a.apply c) (a.apply c') := by
  rw [a.apply_eq c, a.apply_eq c']
  refine ⟨h.units, ?_, ?_, ?_⟩
  · rw [List.filter_append, List.filter_append, h.types, h.type?_eq]
  · rw [List.filter_append, List.filter_append, h.functions, h.function?_eq]
  · show ((a.line? c').toList ++ c'.lines).lookup a.unit =
      ((a.line? c).toList ++ c.lines).lookup a.unit
    rw [h.line?_eq]
    cases a.line? c with
    | none => exact h.lines
    | some line =>
        obtain ⟨home, number⟩ := line
        rw [Option.toList_some, List.singleton_append, List.singleton_append, List.lookup_cons,
          List.lookup_cons, h.lines]

/-- **What a catalogue holds of a unit** depends on the additions to that unit.  The induction is on
the additions, for any two catalogues that hold the same of the unit before. -/
theorem SameUnit.addAll (h : SameUnit unit c c') (additions : List Addition) :
    SameUnit unit (c.addAll additions)
      (c'.addAll (additions.filter fun a => a.unit == unit)) := by
  induction additions generalizing c c' with
  | nil => exact h
  | cons a additions ih =>
      by_cases hunit : a.unit = unit
      · subst hunit
        rw [List.filter_cons, beq_self_eq_true, if_pos rfl]
        exact ih h.apply
      · rw [List.filter_cons, beq_false_of_ne hunit, if_neg Bool.false_ne_true]
        exact ih ((apply_of_ne c hunit).symm.trans h)

theorem sameUnit_addAll (c : Catalogue) {additions additions' : List Addition}
    (h : SameByKey Addition.unit additions additions') (unit : Nat) :
    SameUnit unit (c.addAll additions) (c.addAll additions') := by
  have hadditions := (SameUnit.refl unit c).addAll additions
  rw [h unit] at hadditions
  exact hadditions.trans ((SameUnit.refl unit c).addAll additions').symm

end OneUnit

/-! ## All units -/

section AllUnits

variable {c : Catalogue} {additions additions' : List Addition}

theorem Addition.units_apply (c : Catalogue) (a : Addition) : (a.apply c).units = c.units := by
  rw [a.apply_eq]

theorem units_addAll (c : Catalogue) (additions : List Addition) :
    (c.addAll additions).units = c.units := by
  induction additions generalizing c with
  | nil => rfl
  | cons a additions ih => exact (ih (a.apply c)).trans (a.units_apply c)

theorem Addition.name?_congr {c c' : Catalogue} (h : c'.units = c.units) :
    Addition.name? c' = Addition.name? c := by
  funext a
  cases a with
  | type d => rfl
  | function f => rfl
  | markedFunction unit name parameterCount returnType => rfl
  | _ => simp only [Addition.name?, modulePath_congr h]

theorem map_qualifiedName_addAll (c : Catalogue) (additions : List Addition) :
    (c.addAll additions).types.map TypeDeclaration.qualifiedName =
      c.types.map TypeDeclaration.qualifiedName ++ additions.filterMap (Addition.name? c) := by
  induction additions generalizing c with
  | nil => exact (List.append_nil _).symm
  | cons a additions ih =>
      refine (ih (a.apply c)).trans ?_
      rw [Addition.name?_congr (a.units_apply c), a.apply_eq, List.map_append, List.append_assoc,
        List.filterMap_cons, a.name?_eq]
      cases a.type? c <;> rfl

/-- **What is kept by qualified name** comes from the additions, the latest first. -/
theorem named_addAll {α : Type} {kept : Catalogue → List (String × α)} {part : Addition → Option α}
    (hkept : ∀ c a, kept (Addition.apply c a) = (Addition.named? part c a).toList ++ kept c)
    (c : Catalogue) (additions : List Addition) :
    kept (c.addAll additions) =
      (additions.filterMap (Addition.named? part c)).reverse ++ kept c := by
  induction additions generalizing c with
  | nil => rfl
  | cons a additions ih =>
      have hnamed : Addition.named? part (a.apply c) = Addition.named? part c := by
        funext b
        rw [Addition.named?, Addition.name?_congr (a.units_apply c), Addition.named?]
      refine (ih (a.apply c)).trans ?_
      rw [hnamed, hkept, List.filterMap_cons]
      cases Addition.named? part c a with
      | none => rfl
      | some entry => simp

/-- **Where the names of the types are distinct**, what is kept by name does not depend on the order
of the additions. -/
theorem lookup_named_addAll {α : Type} {kept : Catalogue → List (String × α)}
    {part : Addition → Option α}
    (hkept : ∀ c a, kept (Addition.apply c a) = (Addition.named? part c a).toList ++ kept c)
    (hperm : additions.Perm additions') (hnodup : (additions.filterMap (Addition.name? c)).Nodup)
    (name : String) :
    (kept (c.addAll additions)).lookup name = (kept (c.addAll additions')).lookup name := by
  have hentries := hperm.filterMap (Addition.named? part c)
  have hkeys : ((additions.filterMap (Addition.named? part c)).map Prod.fst).Nodup := by
    rw [List.map_filterMap]
    refine hnodup.sublist (filterMap_sublist_filterMap (fun a n hn => ?_) additions)
    obtain ⟨entry, hentry, rfl⟩ := Option.map_eq_some_iff.mp hn
    obtain ⟨owner, howner, hpart⟩ := Option.bind_eq_some_iff.mp hentry
    obtain ⟨x, -, rfl⟩ := Option.map_eq_some_iff.mp hpart
    exact howner
  have hlatest := ((List.reverse_perm _).trans hentries).trans (List.reverse_perm _).symm
  have hlookup : ((additions.filterMap (Addition.named? part c)).reverse).lookup name =
      ((additions'.filterMap (Addition.named? part c)).reverse).lookup name := by
    rw [lookup_eq_find?, lookup_eq_find?, find?_eq_of_perm_of_nodup hlatest
      (((List.reverse_perm _).map Prod.fst).nodup_iff.mpr hkeys)]
  rw [named_addAll hkept, named_addAll hkept, List.lookup_append, List.lookup_append, hlookup]

/-- **Additions that differ in the mixture of the units make one host**, if no two types have one
qualified name. -/
theorem toHost_addAll
    (hnodup : ((c.addAll additions).types.map TypeDeclaration.qualifiedName).Nodup)
    (h : SameByKey Addition.unit additions additions') :
    (c.addAll additions').toHost = (c.addAll additions).toHost := by
  have htypes : SameByKey TypeDeclaration.unit (c.addAll additions').types
      (c.addAll additions).types := fun unit => (sameUnit_addAll c h unit).types
  have hfunctions : SameByKey FunctionDeclaration.unit (c.addAll additions').functions
      (c.addAll additions).functions := fun unit => (sameUnit_addAll c h unit).functions
  have hnames : (additions.filterMap (Addition.name? c)).Nodup := by
    rw [map_qualifiedName_addAll] at hnodup
    exact (List.nodup_append.mp hnodup).2.1
  have hfields (name : String) : (c.addAll additions).fieldLists.lookup name =
      (c.addAll additions').fieldLists.lookup name :=
    lookup_named_addAll (fun c a => by rw [a.apply_eq]) h.perm hnames name
  have hcases (name : String) : (c.addAll additions).caseLists.lookup name =
      (c.addAll additions').caseLists.lookup name :=
    lookup_named_addAll (fun c a => by rw [a.apply_eq]) h.perm hnames name
  rw [toHost, toHost]
  congr 1
  · rw [units_addAll, units_addAll]
  · funext m
    exact (hfunctions.filter _).mergeSort_eq
  · funext m
    exact (htypes.filter _).mergeSort_eq
  · funext t
    rw [resolve, resolve, ← find?_eq_of_perm_of_nodup htypes.perm.symm hnodup t.path,
      single?_eq_of_perm (htypes.perm.filter fun d => d.simpleName == t.path)]
  · funext d
    rw [hfields]
  · funext d
    rw [hcases]

end AllUnits

end Catalogue

/-! ## Runs -/

/-- A catalogue with two units. -/
def twoUnits : Catalogue :=
  ((Catalogue.empty.addUnit "src/people.rs" "crate::people").2.addUnit "src/sales.rs"
    "crate::sales").2

/-- Additions to two units in turns. -/
def salesAndPeople : List Catalogue.Addition :=
  [.record 1 "Order" [⟨"buyer", .named "Person"⟩, ⟨"total", .named "crate::people::Money"⟩,
      ⟨"state", .named "State"⟩] [.fixture],
   .record 0 "Person" [⟨"name", .named "String"⟩] [.fixture],
   .enumeration 1 "State" .enumeration [⟨"Open", .unit⟩],
   .markedFunction 0 "money" 0 (some (.named "crate::people::Money"))]

/-- The same additions, unit by unit. -/
def peopleThenSales : List Catalogue.Addition :=
  [.record 0 "Person" [⟨"name", .named "String"⟩] [.fixture],
   .markedFunction 0 "money" 0 (some (.named "crate::people::Money")),
   .record 1 "Order" [⟨"buyer", .named "Person"⟩, ⟨"total", .named "crate::people::Money"⟩,
      ⟨"state", .named "State"⟩] [.fixture],
   .enumeration 1 "State" .enumeration [⟨"Open", .unit⟩]]

namespace Pipeline

variable {σ : Type}

/-- **A reproducible pipeline runs in the same way from any entropy.** -/
theorem Reproducible.run_eq {p : Pipeline} (h : p.Reproducible) (host : Host)
    (entropy entropy' : RandomSource) (receive : Receiver σ) (s : σ) :
    p.run host entropy' receive s = p.run host entropy receive s := by
  rcases p.run_cases host entropy with ⟨hoff, -, -⟩ | ⟨hoff, -, -⟩ | ⟨-, e, hadapters, -⟩ |
    ⟨-, p₁, e, hadapters, hfixtures, -⟩ | ⟨-, p₁, p₂, hadapters, hfixtures, -⟩
  · simp only [run, hoff, Bool.not_false, if_true]
  · simp only [run, hoff, Bool.not_false, if_true]
  · simp only [run, hadapters]
  · simp only [run, hadapters, hfixtures]
  · have hp₂ : p₂.options = p.options :=
      (leadsTo_of_withFixtures hfixtures).1.trans (leadsTo_of_withAdapters hadapters).1
    have hreproducible : p₂.Reproducible := by
      rw [Reproducible, hp₂]
      exact h
    simp only [run, hadapters, hfixtures, hreproducible.emit_eq host entropy' entropy]

/-- **The order of additions to different units does not matter.**  Let declarations be added to a
catalogue, so that no two types have one qualified name, and let them be added in another order,
which is the same for the additions to each unit.  Then every run with a seed or without
randomization does the same over both: it ends in the same error or with the same summary, hands the
same units over, and leaves the receiver in the same state.

Only the order across units is free, since the order within one is that of its output.  A run that
is randomized without a seed draws from entropy, of which there are two here. -/
theorem run_of_reordered (c : Catalogue) {additions additions' : List Catalogue.Addition}
    (hnodup : ((c.addAll additions).types.map TypeDeclaration.qualifiedName).Nodup)
    (hreordered : SameByKey Catalogue.Addition.unit additions additions') {options : Options}
    (hoptions : options.randomize.value = false ∨ options.seed.isSome)
    (entropy entropy' : RandomSource) (receive : Receiver σ) (s : σ) :
    (start options).run (c.addAll additions').toHost entropy' receive s =
      (start options).run (c.addAll additions).toHost entropy receive s ∧
    (start options).runCalls (c.addAll additions').toHost entropy' receive s =
      (start options).runCalls (c.addAll additions).toHost entropy receive s := by
  have hreproducible : (start options).Reproducible := hoptions
  rw [Catalogue.toHost_addAll hnodup hreordered]
  refine ⟨hreproducible.run_eq _ entropy entropy' receive s, ?_⟩
  rw [runCalls, runCalls, hreproducible.run_eq _ entropy entropy']

/-- Two units that are filled in turns, or one after the other: the catalogues differ, and the run
does not. -/
theorem run_of_reordered_sales :
    let takeAll : Receiver Unit := fun _ s => (.ok (), s)
    let zero : RandomSource := ⟨fun _ => 0, 0⟩
    ((twoUnits.addAll salesAndPeople).types.map TypeDeclaration.qualifiedName).Nodup ∧
    SameByKey Catalogue.Addition.unit salesAndPeople peopleThenSales ∧
    (twoUnits.addAll peopleThenSales).types ≠ (twoUnits.addAll salesAndPeople).types ∧
    ((start .defaults).run (twoUnits.addAll salesAndPeople).toHost zero takeAll ()).1 =
      .ok ⟨false, 1, 2, [⟨"people_fixture", "src/people.rs", ["create_person"]⟩,
        ⟨"sales_fixture", "src/sales.rs", ["create_order"]⟩]⟩ := by
  intro takeAll zero
  have hnodup : ((twoUnits.addAll salesAndPeople).types.map
      TypeDeclaration.qualifiedName).Nodup := by
    decide +kernel
  have hreordered : SameByKey Catalogue.Addition.unit salesAndPeople peopleThenSales := by
    intro unit
    rcases unit with _ | _ | unit <;> rfl
  refine ⟨hnodup, hreordered, by decide +kernel, ?_⟩
  rw [← (run_of_reordered twoUnits hnodup hreordered (Or.inl rfl) zero zero takeAll ()).1,
    Catalogue.toHost_of_pairwise (c := twoUnits.addAll peopleThenSales) (by decide +kernel)
      (by decide +kernel)]
  decide +kernel

end Pipeline
end FixtureFactory
