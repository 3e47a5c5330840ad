import FixtureFactory.Proofs.PathTexts
import FixtureFactory.Proofs.PlacedItems
import Mathlib.Data.List.Sort

/-!
# Declarations by their places

What an index lists, said without going through the sources: a declaration stands at a place, which
is the number of its file followed by the numbers of the modules around it and its own.  Places are
compared by their first difference, and a part of a place comes before the whole, so files come in
their order and what a file declares comes in the order of the text, modules before what is in them.

There is one list only that has what stands somewhere, once for each place, in the order of the
places.  The index is that list, for types and for functions.  On the way into the modules of a file
it keeps the path of the present module and the modules around it, each as what is put together
from the names on the way, so a qualified name is made of the names that lead to the place.

* `ListsInOrder`: a list has what stands at places, in their order.
* `OwnsInOrder.placedItems`: what the items of some files own, by the places of the items.
* `SourceIndex.lists_declarations`: the units, the types and the functions of an index.
-/

namespace FixtureFactory

open Source (Item Attribute Name Fields Variant Function TypeTerm)

/-! ## Lists in the order of places -/

/-- A list has exactly the things that stand at some place, once for each place, in the order of
their places. -/
def ListsInOrder {α : Type} (At : List Nat → α → Prop) (found : List α) : Prop :=
  ∃ entries : List (List Nat × α), entries.map Prod.snd = found ∧
    (entries.Pairwise fun a b => a.1 < b.1) ∧ ∀ place a, (place, a) ∈ entries ↔ At place a

section Lists

variable {α β : Type} {At Below : List Nat → α → Prop} {found others : List α}

theorem ListsInOrder.unique (h : ListsInOrder At found) (hothers : ListsInOrder At others) :
    found = others := by
  obtain ⟨entries, rfl, hsorted, hentries⟩ := h
  obtain ⟨entries', rfl, hsorted', hentries'⟩ := hothers
  have hirrefl : Std.Irrefl fun a b : List Nat × α => a.1 < b.1 := ⟨fun a => List.lt_irrefl a.1⟩
  have hantisymm : Std.Antisymm fun a b : List Nat × α => a.1 < b.1 :=
    ⟨fun a b hab hba => absurd hba (List.lt_asymm hab)⟩
  have heq : entries = entries' := hsorted.eq_of_mem_iff hsorted' fun entry =>
    (hentries entry.1 entry.2).trans (hentries' entry.1 entry.2).symm
  rw [heq]

theorem ListsInOrder.congr (h : ListsInOrder At found)
    (hiff : ∀ place a, At place a ↔ Below place a) : ListsInOrder Below found := by
  obtain ⟨entries, hfound, hsorted, hentries⟩ := h
  exact ⟨entries, hfound, hsorted, fun place a => (hentries place a).trans (hiff place a)⟩

theorem listsInOrder_nil (h : ∀ place a, ¬ At place a) : ListsInOrder At [] :=
  ⟨[], rfl, List.Pairwise.nil, fun place a => iff_of_false List.not_mem_nil (h place a)⟩

theorem listsInOrder_toList (found? : Option α) :
    ListsInOrder (fun place a => place = [] ∧ found? = some a) found?.toList := by
  cases found? with
  | none => exact listsInOrder_nil fun place a h => nomatch h.2
  | some found =>
      refine ⟨[([], found)], rfl, List.pairwise_singleton _ _, fun place a => ?_⟩
      rw [List.mem_singleton, Prod.mk.injEq]
      exact and_congr_right fun _ =>
        ⟨fun h => congrArg some h.symm, fun h => (Option.some.inj h).symm⟩

theorem not_at_of_listsInOrder_nil (h : ListsInOrder At []) (place : List Nat) (a : α) :
    ¬ At place a := by
  obtain ⟨entries, hfound, -, hentries⟩ := h
  rw [List.map_eq_nil_iff.mp hfound] at hentries
  exact fun hat => List.not_mem_nil ((hentries place a).mpr hat)

/-- The place that follows in a row. -/
def nextPlace : List Nat → List Nat
  | [] => []
  | i :: rest => (i + 1) :: rest

theorem nextPlace_lt_nextPlace {p q : List Nat} (h : p < q) : nextPlace p < nextPlace q := by
  cases q with
  | nil => exact absurd h (List.not_lt_nil p)
  | cons j q =>
      cases p with
      | nil => exact List.nil_lt_cons _ _
      | cons i p =>
          refine List.cons_lt_cons_iff.mpr ?_
          rcases List.cons_lt_cons_iff.mp h with hlt | ⟨rfl, hrest⟩
          · exact Or.inl (Nat.succ_lt_succ hlt)
          · exact Or.inr ⟨rfl, hrest⟩

/-- What stands at the first of some places in a row comes before what stands at the others. -/
theorem ListsInOrder.append (h : ListsInOrder At found) (hothers : ListsInOrder Below others)
    (hplace : ∀ a, ¬ Below [] a) :
    ListsInOrder (fun place a => (∃ rest, place = 0 :: rest ∧ At rest a) ∨
      ∃ i rest, place = (i + 1) :: rest ∧ Below (i :: rest) a) (found ++ others) := by
  obtain ⟨entries, rfl, hsorted, hentries⟩ := h
  obtain ⟨entries', rfl, hsorted', hentries'⟩ := hothers
  refine ⟨entries.map (fun e => (0 :: e.1, e.2)) ++ entries'.map (fun e => (nextPlace e.1, e.2)),
    ?_, ?_, fun place a => ?_⟩
  · rw [List.map_append, List.map_map, List.map_map]
    rfl
  · refine List.pairwise_append.mpr ⟨?_, ?_, ?_⟩
    · exact List.pairwise_map.mpr (hsorted.imp fun hlt =>
        List.cons_lt_cons_iff.mpr (Or.inr ⟨rfl, hlt⟩))
    · exact List.pairwise_map.mpr (hsorted'.imp nextPlace_lt_nextPlace)
    · intro e he e' he'
      obtain ⟨⟨rest, a⟩, -, rfl⟩ := List.mem_map.mp he
      obtain ⟨⟨place, b⟩, hmem, rfl⟩ := List.mem_map.mp he'
      cases place with
      | nil => exact absurd ((hentries' [] b).mp hmem) (hplace b)
      | cons i place => exact List.cons_lt_cons_iff.mpr (Or.inl (Nat.succ_pos i))
  · rw [List.mem_append, List.mem_map, List.mem_map]
    refine or_congr ⟨?_, ?_⟩ ⟨?_, ?_⟩
    · rintro ⟨⟨rest, b⟩, hmem, heq⟩
      cases heq
      exact ⟨rest, rfl, (hentries rest b).mp hmem⟩
    · rintro ⟨rest, rfl, hat⟩
      exact ⟨(rest, a), (hentries rest a).mpr hat, rfl⟩
    · rintro ⟨⟨place, b⟩, hmem, heq⟩
      cases heq
      cases place with
      | nil => exact absurd ((hentries' [] b).mp hmem) (hplace b)
      | cons i rest => exact ⟨i, rest, rfl, (hentries' (i :: rest) b).mp hmem⟩
    · rintro ⟨i, rest, rfl, hat⟩
      exact ⟨(i :: rest, a), (hentries' (i :: rest) a).mpr hat, rfl⟩

/-- What the members of a list own is listed member by member, at places that begin with the number
of the member. -/
theorem listsInOrder_flatMap {AtMember : β → List Nat → α → Prop} {own : β → List α} {xs : List β}
    (h : ∀ x ∈ xs, ListsInOrder (AtMember x) (own x)) :
    ListsInOrder (fun place a => ∃ i rest x, place = i :: rest ∧ xs[i]? = some x ∧
      AtMember x rest a) (xs.flatMap own) := by
  induction xs with
  | nil =>
      refine listsInOrder_nil ?_
      rintro place a ⟨i, rest, x, -, hx, -⟩
      cases hx
  | cons x xs ih =>
      obtain ⟨hx, hxs⟩ := List.forall_mem_cons.mp h
      rw [List.flatMap_cons]
      refine (hx.append (ih hxs) ?_).congr fun place a => ⟨?_, ?_⟩
      · rintro a ⟨i, rest, x, hnil, -⟩
        cases hnil
      · rintro (⟨rest, rfl, hat⟩ | ⟨i, rest, rfl, ⟨j, rest', y, heq, hy, hat⟩⟩)
        · exact ⟨0, rest, x, rfl, rfl, hat⟩
        · cases heq
          exact ⟨i + 1, rest, y, rfl, hy, hat⟩
      · rintro ⟨i, rest, y, rfl, hy, hat⟩
        cases i with
        | zero =>
            cases hy
            exact Or.inl ⟨rest, rfl, hat⟩
        | succ i => exact Or.inr ⟨i, rest, rfl, i, rest, y, rfl, hy, hat⟩

end Lists

/-! ## Where items stand -/

/-- An item stands among others: at an address, which has the number of the item after those of the
inline modules around it, and within the modules of these names. -/
inductive StandsAt : List Item → List Nat → List String → Item → Prop where
  | here {items : List Item} {i : Nat} {item : Item} (hitem : items[i]? = some item) :
      StandsAt items [i] [] item
  | inside {items inner : List Item} {i : Nat} {name : String} {address : List Nat}
      {chain : List String} {item : Item} (hmodule : items[i]? = some (.module name inner))
      (hinner : StandsAt inner address chain item) :
      StandsAt items (i :: address) (name :: chain) item

theorem not_standsAt_nil {address : List Nat} {chain : List String} {item : Item} :
    ¬ StandsAt [] address chain item := by
  rintro (⟨hitem⟩ | ⟨hmodule, -⟩)
  · cases hitem
  · cases hmodule

/-- What stands among some items is the first, or stands inside it, or stands among the others. -/
theorem standsAt_cons_iff {first item : Item} {items : List Item} {address : List Nat}
    {chain : List String} : StandsAt (first :: items) address chain item ↔
      (address = [0] ∧ chain = [] ∧ item = first) ∨
      (∃ name inner rest names, first = .module name inner ∧ address = 0 :: rest ∧
        chain = name :: names ∧ StandsAt inner rest names item) ∨
      ∃ i rest, address = (i + 1) :: rest ∧ StandsAt items (i :: rest) chain item := by
  constructor
  · rintro (@⟨_, i, _, hitem⟩ | @⟨_, inner, i, name, rest, names, _, hmodule, hinner⟩)
    · cases i with
      | zero =>
          cases hitem
          exact Or.inl ⟨rfl, rfl, rfl⟩
      | succ i => exact Or.inr (Or.inr ⟨i, [], rfl, .here hitem⟩)
    · cases i with
      | zero =>
          cases hmodule
          exact Or.inr (Or.inl ⟨name, inner, rest, names, rfl, rfl, rfl, hinner⟩)
      | succ i => exact Or.inr (Or.inr ⟨i, rest, rfl, .inside hmodule hinner⟩)
  · rintro (⟨rfl, rfl, rfl⟩ | ⟨name, inner, rest, names, rfl, rfl, rfl, hinner⟩ |
      ⟨i, rest, rfl, h⟩)
    · exact .here rfl
    · exact .inside rfl hinner
    · cases h with
      | here hitem => exact .here hitem
      | inside hmodule hinner => exact .inside hmodule hinner

/-- Within nested modules the path of the module and the names around grow by the same names. -/
theorem foldl_within (c : ItemContext) (chain : List String) :
    chain.foldl ItemContext.within c =
      ⟨c.unit, c.path, joinPath (c.module :: chain), c.enclosing ++ chain⟩ := by
  induction chain generalizing c with
  | nil => rw [joinPath_singleton, List.append_nil, List.foldl_nil]
  | cons name chain ih =>
      have hmodule : joinPath ((c.within name).module :: chain) =
          joinPath (c.module :: name :: chain) := by
        cases chain with
        | nil => rw [joinPath_singleton, joinPath_cons_cons, joinPath_singleton]; rfl
        | cons next chain =>
            rw [joinPath_cons_cons, joinPath_cons_cons c.module, joinPath_cons_cons name,
              ItemContext.within, ScopeTable.memberPath]
            simp only [String.append_assoc]
      rw [List.foldl_cons, ih, hmodule, ItemContext.within, List.append_assoc, List.singleton_append]

section Owned

variable {α : Type} (OwnAt : PlacedItem → List Nat → α → Prop)

/-- Something is owned by one of some items, at a place below the address of the item. -/
def OwnedAmong (c : ItemContext) (items : List Item) (place : List Nat) (a : α) : Prop :=
  ∃ address rest chain item, place = address ++ rest ∧ StandsAt items address chain item ∧
    OwnAt ⟨chain.foldl ItemContext.within c, item⟩ rest a

/-- Something is owned by one of the items inside an item. -/
def OwnedInside (c : ItemContext) (item : Item) (place : List Nat) (a : α) : Prop :=
  ∃ name inner, item = .module name inner ∧ OwnedAmong OwnAt (c.within name) inner place a

variable {OwnAt}

theorem ownedAmong_cons_iff {c : ItemContext} {item : Item} {items : List Item} {place : List Nat}
    {a : α} : OwnedAmong OwnAt c (item :: items) place a ↔
      (∃ rest, place = 0 :: rest ∧ (OwnAt ⟨c, item⟩ rest a ∨ OwnedInside OwnAt c item rest a)) ∨
      ∃ i rest, place = (i + 1) :: rest ∧ OwnedAmong OwnAt c items (i :: rest) a := by
  constructor
  · rintro ⟨address, rest, chain, found, rfl, hstands, hown⟩
    rcases standsAt_cons_iff.mp hstands with ⟨rfl, rfl, rfl⟩ |
      ⟨name, inner, below, names, rfl, rfl, rfl, hinner⟩ | ⟨i, below, rfl, hothers⟩
    · exact Or.inl ⟨rest, rfl, Or.inl hown⟩
    · exact Or.inl ⟨below ++ rest, rfl,
        Or.inr ⟨name, inner, rfl, below, rest, names, found, rfl, hinner, hown⟩⟩
    · exact Or.inr ⟨i, below ++ rest, rfl, i :: below, rest, chain, found, rfl, hothers, hown⟩
  · rintro (⟨rest, rfl, hown | ⟨name, inner, rfl, address, below, chain, found, rfl, hinner, hown⟩⟩ |
      ⟨i, rest, rfl, address, below, chain, found, hplace, hothers, hown⟩)
    · exact ⟨[0], rest, [], item, rfl, .here rfl, hown⟩
    · exact ⟨0 :: address, below, name :: chain, found, rfl, .inside rfl hinner, hown⟩
    · cases address with
      | nil => cases hothers
      | cons j address =>
          cases hplace
          exact ⟨(i + 1) :: address, below, chain, found, rfl,
            standsAt_cons_iff.mpr (Or.inr (Or.inr ⟨i, address, rfl, hothers⟩)), hown⟩

/-- What items own by themselves is listed in the order of places, and modules own nothing, so the
places in a module are those of the items inside it. -/
structure OwnsInOrder (own : PlacedItem → List α) (OwnAt : PlacedItem → List Nat → α → Prop) :
    Prop where
  lists : ∀ p, ListsInOrder (OwnAt p) (own p)
  ofModule : ∀ c name items, own ⟨c, .module name items⟩ = []

variable {own : PlacedItem → List α}

/-- What an item owns comes before what the items inside it own; one of the two is always
missing. -/
theorem OwnsInOrder.append (h : OwnsInOrder own OwnAt) {c : ItemContext} {item : Item}
    {inside : List α} (hinside : ListsInOrder (OwnedInside OwnAt c item) inside) :
    ListsInOrder (fun place a => OwnAt ⟨c, item⟩ place a ∨ OwnedInside OwnAt c item place a)
      (own ⟨c, item⟩ ++ inside) := by
  by_cases hitem : ∃ name inner, item = .module name inner
  · obtain ⟨name, inner, rfl⟩ := hitem
    have hnone := not_at_of_listsInOrder_nil
      (h.ofModule c name inner ▸ h.lists ⟨c, .module name inner⟩)
    rw [h.ofModule, List.nil_append]
    exact hinside.congr fun place a => (or_iff_right (hnone place a)).symm
  · have hnone : ∀ place a, ¬ OwnedInside OwnAt c item place a :=
      fun place a ⟨name, inner, heq, _⟩ => hitem ⟨name, inner, heq⟩
    rw [hinside.unique (listsInOrder_nil hnone), List.append_nil]
    exact (h.lists ⟨c, item⟩).congr fun place a => (or_iff_left (hnone place a)).symm

mutual

/-- What the items inside an item own is listed in the order of places.  The induction is on the
items as they are nested, and the context is that of the module at hand. -/
theorem OwnsInOrder.placeInside (h : OwnsInOrder own OwnAt) :
    ∀ (item : Item) (c : ItemContext),
      ListsInOrder (OwnedInside OwnAt c item) ((FixtureFactory.placeInside c item).flatMap own)
  | .module name inner, c => by
      refine (h.placeItems inner (c.within name)).congr fun place a => ?_
      refine ⟨fun h => ⟨name, inner, rfl, h⟩, ?_⟩
      rintro ⟨_, _, heq, h⟩
      cases heq
      exact h
  | .record _ _ _, _ => listsInOrder_nil fun _ _ ⟨_, _, h, _⟩ => Item.noConfusion h
  | .enumeration _ _ _, _ => listsInOrder_nil fun _ _ ⟨_, _, h, _⟩ => Item.noConfusion h
  | .union _ _, _ => listsInOrder_nil fun _ _ ⟨_, _, h, _⟩ => Item.noConfusion h
  | .typeAlias _, _ => listsInOrder_nil fun _ _ ⟨_, _, h, _⟩ => Item.noConfusion h
  | .use _, _ => listsInOrder_nil fun _ _ ⟨_, _, h, _⟩ => Item.noConfusion h
  | .function _, _ => listsInOrder_nil fun _ _ ⟨_, _, h, _⟩ => Item.noConfusion h
  | .implementation _ _, _ => listsInOrder_nil fun _ _ ⟨_, _, h, _⟩ => Item.noConfusion h
  | .other, _ => listsInOrder_nil fun _ _ ⟨_, _, h, _⟩ => Item.noConfusion h

/-- What items and the items inside them own is listed in the order of places. -/
theorem OwnsInOrder.placeItems (h : OwnsInOrder own OwnAt) :
    ∀ (items : List Item) (c : ItemContext),
      ListsInOrder (OwnedAmong OwnAt c items) ((FixtureFactory.placeItems c items).flatMap own)
  | [], _ => listsInOrder_nil fun _ _ ⟨_, _, _, _, _, h, _⟩ => not_standsAt_nil h
  | item :: items, c => by
      have hfirst := h.append (h.placeInside item c)
      have hothers := h.placeItems items c
      rw [FixtureFactory.placeItems, List.flatMap_cons, List.flatMap_append, ← List.append_assoc]
      refine (hfirst.append hothers ?_).congr fun place a => ownedAmong_cons_iff.symm
      rintro a ⟨address, rest, chain, found, hnil, hstands, -⟩
      rw [(List.append_eq_nil_iff.mp hnil.symm).1] at hstands
      cases hstands

end

/-- **What the items of some files own is listed in the order of places**: at each place what is
owned by the item that stands there. -/
theorem OwnsInOrder.placedItems (h : OwnsInOrder own OwnAt) (files : List ParsedFile) :
    ListsInOrder (fun place a => ∃ id rest file, place = id :: rest ∧ files[id]? = some file ∧
        OwnedAmong OwnAt (contextOf id file) file.items rest a)
      ((FixtureFactory.placedItems files).flatMap own) := by
  have hfiles : ∀ x ∈ files.zipIdx,
      ListsInOrder (OwnedAmong OwnAt (contextOf x.2 x.1) x.1.items)
        ((FixtureFactory.placeItems (contextOf x.2 x.1) x.1.items).flatMap own) :=
    fun x _ => h.placeItems x.1.items (contextOf x.2 x.1)
  rw [FixtureFactory.placedItems, List.flatMap_assoc]
  refine (listsInOrder_flatMap hfiles).congr fun place a => ⟨?_, ?_⟩
  · rintro ⟨id, rest, x, rfl, hx, howned⟩
    rw [List.getElem?_zipIdx, Nat.zero_add] at hx
    obtain ⟨file, hfile, rfl⟩ := Option.map_eq_some_iff.mp hx
    exact ⟨id, rest, file, rfl, hfile, howned⟩
  · rintro ⟨id, rest, file, rfl, hfile, howned⟩
    refine ⟨id, rest, (file, id), rfl, ?_, howned⟩
    rw [List.getElem?_zipIdx, hfile, Nat.zero_add, Option.map_some]

end Owned

/-! ## Types and functions -/

/-- An item declares a type of some name and kind, with some attributes. -/
inductive Source.Item.IsType : Item → List Attribute → Name → DeclarationKind → Prop where
  | record {attributes : List Attribute} {name : Name} {fields : Fields} :
      IsType (.record attributes name fields) attributes name (kindOfFields fields)
  | enumeration {attributes : List Attribute} {name : Name} {variants : List Variant} :
      IsType (.enumeration attributes name variants) attributes name (kindOfVariants variants)
  | union {attributes : List Attribute} {name : Name} :
      IsType (.union attributes name) attributes name .union

theorem PlacedItem.type?_map_eq_some_iff {t : ScopeTable} {p : PlacedItem} {d : TypeDeclaration} :
    (p.type? t).map IndexedType.declaration = some d ↔
      ∃ attributes name kind, p.item.IsType attributes name kind ∧
        p.context.declaration attributes name kind = d := by
  obtain ⟨c, item⟩ := p
  constructor
  · intro h
    cases item with
    | record attributes name fields =>
        exact ⟨attributes, name, kindOfFields fields, .record, Option.some.inj h⟩
    | enumeration attributes name variants =>
        exact ⟨attributes, name, kindOfVariants variants, .enumeration, Option.some.inj h⟩
    | union attributes name => exact ⟨attributes, name, .union, .union, Option.some.inj h⟩
    | typeAlias | use | function | implementation | module | other => cases h
  · rintro ⟨attributes, name, kind, ⟨⟩, rfl⟩ <;> rfl

theorem PlacedItem.listsInOrder_type? (t : ScopeTable) (p : PlacedItem) :
    ListsInOrder (fun rest d => rest = [] ∧ ∃ attributes name kind,
        p.item.IsType attributes name kind ∧ p.context.declaration attributes name kind = d)
      ((p.type? t).map IndexedType.declaration).toList :=
  (listsInOrder_toList _).congr fun _ _ =>
    and_congr_right fun _ => PlacedItem.type?_map_eq_some_iff

/-- A free function is at the place of its item.  Those of the functions of a type that carry a
marker are at the places of their own below it. -/
inductive FunctionOwnedAt (t : ScopeTable) (c : ItemContext) :
    Item → List Nat → FunctionDeclaration → Prop where
  | free {f : Function} : FunctionOwnedAt t c (.function f) [] (functionOf t c c.module false f)
  | associated {selfType : TypeTerm} {functions : List Function} {j : Nat} {f : Function}
      (hfunction : functions[j]? = some f) (hmarked : markersOf f.attributes ≠ []) :
      FunctionOwnedAt t c (.implementation selfType functions) [j]
        (functionOf t c (t.resolveType c.module selfType).render true f)

/-- Of the members of a list those that pass a check are listed, each at its number. -/
theorem listsInOrder_map_filter {α β : Type} (check : β → Bool) (result : β → α) (xs : List β) :
    ListsInOrder (fun place a => ∃ j x, place = [j] ∧ xs[j]? = some x ∧ check x = true ∧
      result x = a) ((xs.filter check).map result) := by
  have hmember : ∀ x ∈ xs, ListsInOrder
      (fun place a => place = [] ∧ (Option.guard check x).map result = some a)
      ((Option.guard check x).map result).toList := fun x _ => listsInOrder_toList _
  rw [← List.filterMap_eq_filter, List.map_filterMap, List.filterMap_eq_flatMap_toList]
  refine (listsInOrder_flatMap hmember).congr fun place a => ⟨?_, ?_⟩
  · rintro ⟨j, rest, x, rfl, hx, rfl, ha⟩
    obtain ⟨y, hguard, rfl⟩ := Option.map_eq_some_iff.mp ha
    obtain ⟨rfl, hcheck⟩ := Option.guard_eq_some_iff.mp hguard
    exact ⟨j, x, rfl, hx, hcheck, rfl⟩
  · rintro ⟨j, x, rfl, hx, hcheck, rfl⟩
    refine ⟨j, [], x, rfl, hx, rfl, ?_⟩
    rw [Option.guard_eq_some_iff.mpr ⟨rfl, hcheck⟩, Option.map_some]

theorem PlacedItem.listsInOrder_functions (t : ScopeTable) (p : PlacedItem) :
    ListsInOrder (FunctionOwnedAt t p.context p.item) (p.functions t) := by
  obtain ⟨c, item⟩ := p
  cases item with
  | function f =>
      refine (listsInOrder_toList (some (functionOf t c c.module false f))).congr
        fun place d => ⟨?_, ?_⟩
      · rintro ⟨rfl, ⟨⟩⟩
        exact .free
      · rintro ⟨⟩
        exact ⟨rfl, rfl⟩
  | implementation selfType functions =>
      refine (listsInOrder_map_filter _ _ functions).congr fun place d => ⟨?_, ?_⟩
      · rintro ⟨j, f, rfl, hf, hmarked, rfl⟩
        exact .associated hf fun hnil => by rw [hnil] at hmarked; cases hmarked
      · rintro (_ | @⟨_, _, j, f, hf, hmarked⟩)
        refine ⟨j, f, rfl, hf, ?_, rfl⟩
        cases hmarkers : markersOf f.attributes with
        | nil => exact absurd hmarkers hmarked
        | cons marker markers => rfl
  | record | enumeration | union | typeAlias | use | module | other =>
      exact listsInOrder_nil fun place d h => nomatch h

/-! ## The index -/

/-- A type is declared at a place of some files: an item that stands there among the items of its
file declares it. -/
inductive DeclaresTypeAt (files : List ParsedFile) : List Nat → TypeDeclaration → Prop where
  | type {id : Nat} {file : ParsedFile} {address : List Nat} {chain : List String} {item : Item}
      {attributes : List Attribute} {name : Name} {kind : DeclarationKind}
      (hfile : files[id]? = some file) (hitem : StandsAt file.items address chain item)
      (htype : item.IsType attributes name kind) :
      DeclaresTypeAt files (id :: address)
        { unit := id
          qualifiedName := joinPath (modulePathOf file.path :: (chain ++ [name.text]))
          simpleName := name.text
          enclosing := chain
          kind := kind
          markers := markersOf attributes
          location := ⟨file.path, name.position.line, name.position.column⟩ }

/-- A function in a module of a file, by the modules around it. -/
def functionIn (files : List ParsedFile) (id : Nat) (file : ParsedFile) (chain : List String)
    (scope : String) (associated : Bool) (f : Function) : FunctionDeclaration where
  unit := id
  scope := scope
  name := f.name.text
  parameterCount := f.parameterCount
  returnType := resultOf (scopesOf files) (joinPath (modulePathOf file.path :: chain)) f.result
  markers := markersOf f.attributes
  location := ⟨file.path, f.name.position.line, f.name.position.column⟩
  associated := associated

/-- A function is declared at a place of some files: it is free, and then its scope is the module,
or it is a function of a type and carries a marker, and then its scope is the type. -/
inductive DeclaresFunctionAt (files : List ParsedFile) : List Nat → FunctionDeclaration → Prop where
  | free {id : Nat} {file : ParsedFile} {address : List Nat} {chain : List String} {f : Function}
      (hfile : files[id]? = some file) (hitem : StandsAt file.items address chain (.function f)) :
      DeclaresFunctionAt files (id :: address)
        (functionIn files id file chain (joinPath (modulePathOf file.path :: chain)) false f)
  | associated {id : Nat} {file : ParsedFile} {address : List Nat} {chain : List String}
      {selfType : TypeTerm} {functions : List Function} {j : Nat} {f : Function}
      (hfile : files[id]? = some file)
      (hitem : StandsAt file.items address chain (.implementation selfType functions))
      (hfunction : functions[j]? = some f) (hmarked : markersOf f.attributes ≠ []) :
      DeclaresFunctionAt files (id :: (address ++ [j]))
        (functionIn files id file chain ((scopesOf files).resolveType
          (joinPath (modulePathOf file.path :: chain)) selfType).render true f)

theorem declaration_foldl_within (id : Nat) (file : ParsedFile) (chain : List String)
    (attributes : List Attribute) (name : Name) (kind : DeclarationKind) :
    (chain.foldl ItemContext.within (contextOf id file)).declaration attributes name kind =
      { unit := id
        qualifiedName := joinPath (modulePathOf file.path :: (chain ++ [name.text]))
        simpleName := name.text
        enclosing := chain
        kind := kind
        markers := markersOf attributes
        location := ⟨file.path, name.position.line, name.position.column⟩ } := by
  rw [foldl_within, ItemContext.declaration, ← List.cons_append,
    joinPath_concat (List.cons_ne_nil _ _)]
  rfl

theorem functionOf_foldl_within (files : List ParsedFile) (id : Nat) (file : ParsedFile)
    (chain : List String) (scope : String) (associated : Bool) (f : Function) :
    functionOf (scopesOf files) (chain.foldl ItemContext.within (contextOf id file)) scope associated
      f = functionIn files id file chain scope associated f := by
  rw [foldl_within]
  rfl

theorem module_foldl_within (id : Nat) (file : ParsedFile) (chain : List String) :
    (chain.foldl ItemContext.within (contextOf id file)).module =
      joinPath (modulePathOf file.path :: chain) := by
  rw [foldl_within]
  rfl

namespace SourceIndex

/-- The types of an index are those that are declared, in the order of their places. -/
theorem listsInOrder_declarations (files : List ParsedFile) :
    ListsInOrder (DeclaresTypeAt files) (ofFiles files).declarations := by
  rw [declarations, types_ofFiles, List.map_filterMap, List.filterMap_eq_flatMap_toList]
  have howns : OwnsInOrder _ _ :=
    ⟨PlacedItem.listsInOrder_type? (scopesOf files), fun _ _ _ => rfl⟩
  refine (howns.placedItems files).congr fun place d => ⟨?_, ?_⟩
  · rintro ⟨id, _, file, rfl, hfile, address, _, chain, item, rfl, hitem, rfl, attributes, name,
      kind, htype, rfl⟩
    rw [declaration_foldl_within, List.append_nil]
    exact .type hfile hitem htype
  · rintro @⟨id, file, address, chain, item, attributes, name, kind, hfile, hitem, htype⟩
    refine ⟨id, address, file, rfl, hfile, address, [], chain, item, (List.append_nil _).symm, hitem,
      rfl, attributes, name, kind, htype, ?_⟩
    exact declaration_foldl_within id file chain attributes name kind

/-- The functions of an index are those that are declared, in the order of their places. -/
theorem listsInOrder_functions (files : List ParsedFile) :
    ListsInOrder (DeclaresFunctionAt files) (ofFiles files).functions := by
  rw [functions_ofFiles]
  have howns : OwnsInOrder _ _ :=
    ⟨PlacedItem.listsInOrder_functions (scopesOf files), fun _ _ _ => rfl⟩
  refine (howns.placedItems files).congr fun place d => ⟨?_, ?_⟩
  · rintro ⟨id, _, file, rfl, hfile, address, rest, chain, item, rfl, hitem, hown⟩
    cases hown with
    | free =>
        rw [functionOf_foldl_within, module_foldl_within, List.append_nil]
        exact .free hfile hitem
    | associated hfunction hmarked =>
        rw [functionOf_foldl_within, module_foldl_within]
        exact .associated hfile hitem hfunction hmarked
  · intro h
    cases h with
    | free hfile hitem =>
        refine ⟨_, _, _, rfl, hfile, _, [], _, _, (List.append_nil _).symm, hitem, ?_⟩
        rw [← functionOf_foldl_within, ← module_foldl_within]
        exact .free
    | associated hfile hitem hfunction hmarked =>
        refine ⟨_, _, _, rfl, hfile, _, _, _, _, rfl, hitem, ?_⟩
        rw [← functionOf_foldl_within, ← module_foldl_within]
        exact .associated hfunction hmarked

/-- **The index lists every declaration once.**  Its units are those of the files.  Its types are
the one list of what the structs, enumerations and unions of the files declare at their places, and
its functions are the one list of the free functions and the marked functions of types.

One list only has what stands at the places, in the order of the places, so nothing is left out,
doubled or moved.  What stands at a place is spelled out from its file and the modules around it;
its qualified name is put together from their names. -/
theorem lists_declarations (files : List ParsedFile) :
    (∀ id, (ofFiles files).units[id]? = files[id]?.map (unitOf id)) ∧
    (∀ found, ListsInOrder (DeclaresTypeAt files) found ↔ found = (ofFiles files).declarations) ∧
    ∀ found, ListsInOrder (DeclaresFunctionAt files) found ↔ found = (ofFiles files).functions := by
  have htypes := listsInOrder_declarations files
  have hfunctions := listsInOrder_functions files
  refine ⟨fun id => ?_, fun found => ⟨fun h => h.unique htypes, ?_⟩,
    fun found => ⟨fun h => h.unique hfunctions, ?_⟩⟩
  · change (files.zipIdx.map fun x => unitOf x.2 x.1)[id]? = _
    rw [List.getElem?_map, List.getElem?_zipIdx, Option.map_map, Nat.zero_add]
    rfl
  · rintro rfl
    exact htypes
  · rintro rfl
    exact hfunctions

end SourceIndex

end FixtureFactory
