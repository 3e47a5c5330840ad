import FixtureFactory.Proofs.ReadNames
import FixtureFactory.SourceIndex
import Mathlib.Data.List.Basic

/-!
# Items where they stand

The index goes through the items of a file and into the modules among them, and on the way it keeps
two things in step: the path of the present module and the names of the modules around it.  Here the
items of some files are listed once and for all, each with the place where it stands, in the order
of the text; a module comes before the items inside it.  The index has one type, or some functions,
for each of the items of this list, so what is said about the index needs no recursion of its own.

* `placedItems`: the items of some files, each where it stands.
* `of_mem_placeItems`: where the items of well named items stand, and that they are well named.
* `SourceIndex.types_ofFiles`: the types of the index, item by item.
* `SourceIndex.functions_ofFiles`: the functions of the index, item by item.
-/

namespace FixtureFactory

open Source (Item IsWordText)

/-- An item and where it stands. -/
structure PlacedItem where
  context : ItemContext
  item : Item

mutual

/-- The items inside an item, which has some if it is a module. -/
def placeInside (c : ItemContext) : Item → List PlacedItem
  | .module name items => placeItems (c.within name) items
  | _ => []

/-- Items, each followed by the items inside it. -/
def placeItems (c : ItemContext) : List Item → List PlacedItem
  | [] => []
  | item :: items => ⟨c, item⟩ :: (placeInside c item ++ placeItems c items)

end

/-- The items of some files, in the order of the files. -/
def placedItems (files : List ParsedFile) : List PlacedItem :=
  files.zipIdx.flatMap fun (file, id) => placeItems (contextOf id file) file.items

namespace PlacedItem

/-- The type that an item declares itself. -/
def type? (t : ScopeTable) (p : PlacedItem) : Option IndexedType :=
  match p.item with
  | .record attributes name fields =>
      some ⟨p.context.declaration attributes name (kindOfFields fields),
        fieldsOf t p.context.module fields, none⟩
  | .enumeration attributes name variants =>
      some ⟨p.context.declaration attributes name (kindOfVariants variants), none,
        some (variants.map (caseOf t p.context.module))⟩
  | .union attributes name => some ⟨p.context.declaration attributes name .union, none, none⟩
  | _ => none

/-- The functions that an item declares itself. -/
def functions (t : ScopeTable) (p : PlacedItem) : List FunctionDeclaration :=
  match p.item with
  | .function f => [functionOf t p.context p.context.module false f]
  | .implementation selfType functions =>
      (functions.filter fun f => !(markersOf f.attributes).isEmpty).map
        (functionOf t p.context (t.resolveType p.context.module selfType).render true)
  | _ => []

end PlacedItem

/-- Whether something that holds of a module holds of the modules inside it. -/
def HandedInside (Here : String → Prop) : Prop :=
  ∀ module name : String, Here module → IsWordText name →
    Here (ScopeTable.memberPath module name)

section Places

variable {Here : String → Prop}

mutual

/-- The items inside a well named item are well named, and they stand in modules of which all holds
that is handed on from a module to the modules inside it. -/
theorem of_mem_placeInside (hinside : HandedInside Here) {p : PlacedItem} :
    ∀ {item : Item} {c : ItemContext}, item.WellNamed → Here c.module →
      p ∈ placeInside c item → Here p.context.module ∧ p.item.WellNamed
  | .module name items, c, hitem, hmodule, hp => by
      rw [placeInside] at hp
      have hwithin : Here (c.within name).module := hinside c.module name hmodule hitem.1
      exact of_mem_placeItems hinside hitem.2 hwithin hp
  | .record _ _ _, _, _, _, hp => absurd hp List.not_mem_nil
  | .enumeration _ _ _, _, _, _, hp => absurd hp List.not_mem_nil
  | .union _ _, _, _, _, hp => absurd hp List.not_mem_nil
  | .typeAlias _, _, _, _, hp => absurd hp List.not_mem_nil
  | .use _, _, _, _, hp => absurd hp List.not_mem_nil
  | .function _, _, _, _, hp => absurd hp List.not_mem_nil
  | .implementation _ _, _, _, _, hp => absurd hp List.not_mem_nil
  | .other, _, _, _, hp => absurd hp List.not_mem_nil

/-- So are well named items and what stands inside them. -/
theorem of_mem_placeItems (hinside : HandedInside Here) {p : PlacedItem} :
    ∀ {items : List Item} {c : ItemContext}, Item.AllWellNamed items → Here c.module →
      p ∈ placeItems c items → Here p.context.module ∧ p.item.WellNamed
  | [], _, _, _, hp => absurd hp List.not_mem_nil
  | item :: items, c, hitems, hmodule, hp => by
      rw [placeItems] at hp
      rcases List.mem_cons.mp hp with rfl | hp
      · exact ⟨hmodule, hitems.1⟩
      · rcases List.mem_append.mp hp with hp | hp
        · exact of_mem_placeInside hinside hitems.1 hmodule hp
        · exact of_mem_placeItems hinside hitems.2 hmodule hp

end

end Places

section Index

variable (t : ScopeTable)

mutual

/-- The types of an item are the one that it declares itself and those that the items inside it
declare. -/
theorem typesOfItem_eq (c : ItemContext) : ∀ item : Item, typesOfItem t c item =
    (PlacedItem.type? t ⟨c, item⟩).toList ++ (placeInside c item).filterMap (PlacedItem.type? t)
  | .module name items => typesOfItems_eq (c.within name) items
  | .record _ _ _ => rfl
  | .enumeration _ _ _ => rfl
  | .union _ _ => rfl
  | .typeAlias _ => rfl
  | .use _ => rfl
  | .function _ => rfl
  | .implementation _ _ => rfl
  | .other => rfl

theorem typesOfItems_eq (c : ItemContext) : ∀ items : List Item,
    typesOfItems t c items = (placeItems c items).filterMap (PlacedItem.type? t)
  | [] => rfl
  | item :: items => by
      rw [typesOfItems, placeItems, typesOfItem_eq c item, typesOfItems_eq c items,
        List.filterMap_cons, List.filterMap_append]
      cases PlacedItem.type? t ⟨c, item⟩ <;> simp

end

mutual

/-- The functions of an item are those that it declares itself and those that the items inside it
declare. -/
theorem functionsOfItem_eq (c : ItemContext) : ∀ item : Item, functionsOfItem t c item =
    PlacedItem.functions t ⟨c, item⟩ ++ (placeInside c item).flatMap (PlacedItem.functions t)
  | .module name items => functionsOfItems_eq (c.within name) items
  | .implementation _ _ => (List.append_nil _).symm
  | .record _ _ _ => rfl
  | .enumeration _ _ _ => rfl
  | .union _ _ => rfl
  | .typeAlias _ => rfl
  | .use _ => rfl
  | .function _ => rfl
  | .other => rfl

theorem functionsOfItems_eq (c : ItemContext) : ∀ items : List Item,
    functionsOfItems t c items = (placeItems c items).flatMap (PlacedItem.functions t)
  | [] => rfl
  | item :: items => by
      rw [functionsOfItems, placeItems, functionsOfItem_eq c item, functionsOfItems_eq c items,
        List.flatMap_cons, List.flatMap_append, List.append_assoc]

end

end Index

namespace SourceIndex

variable (files : List ParsedFile)

/-- **The types of an index are those that the placed items declare**, in their order. -/
theorem types_ofFiles :
    (ofFiles files).types = (placedItems files).filterMap (PlacedItem.type? (scopesOf files)) := by
  rw [placedItems, List.filterMap_flatMap]
  exact List.flatMap_congr fun file _ => typesOfItems_eq _ _ _

/-- **The functions of an index are those that the placed items declare**, in their order. -/
theorem functions_ofFiles :
    (ofFiles files).functions =
      (placedItems files).flatMap (PlacedItem.functions (scopesOf files)) := by
  rw [placedItems, List.flatMap_assoc]
  exact List.flatMap_congr fun file _ => functionsOfItems_eq _ _ _

end SourceIndex

end FixtureFactory
