import FixtureFactory.SortedMap
import FixtureFactory.Toml.Value

/-!
# Tables of a document

A TOML document is a list of lines, each of which names a place in a tree of tables.  What may be
named twice, and how, is decided here.

* A table that only came about on the way to another one is *implicit*: a header may still name
  it, once.
* A table that came about by a key with dots is *dotted*: further keys with dots may extend it,
  and a header may not.
* Below a header, keys are put into a table of their own, which takes its place in the tree when
  the next header comes.
-/

namespace FixtureFactory
namespace Toml

/-- A place in the tree of tables. -/
inductive Node where
  | value (v : Value)
  | table (implicit dotted : Bool) (entries : List (String × Node))
  /-- An array of tables, latest last. -/
  | tables (items : List (List (String × Node)))
  deriving Inhabited, Repr

/-- The entries of a table. -/
abbrev Entries := List (String × Node)

/-- The entries with another node at a key that they have. -/
def replaceEntry (key : String) (node : Node) (entries : Entries) : Entries :=
  entries.map fun entry => if entry.1 == key then (key, node) else entry

/-- Changes the entries at the end of a path, making tables on the way.  `dotted` says whether the
path is that of a key with dots; `change` is told whether the table at the end is a dotted one. -/
def descend (dotted : Bool) (change : Bool → Entries → Option Entries) :
    List String → Bool → Entries → Option Entries
  | [], here, entries => change here entries
  | key :: path, _, entries =>
      match entries.lookup key with
      | none => do
          let inner ← descend dotted change path dotted []
          return entries ++ [(key, .table true dotted inner)]
      | some (.value _) => none
      | some (.tables items) => do
          let inner ← descend dotted change path false (items.getLast?.getD [])
          return replaceEntry key (.tables (items.dropLast ++ [inner])) entries
      | some (.table implicit isDotted inner) =>
          if dotted && !implicit then none
          else do
            let changed ← descend dotted change path isDotted inner
            return replaceEntry key (.table implicit isDotted changed) entries

/-- Puts a node at a key that must be free. -/
def addEntry (key : String) (node : Node) (entries : Entries) : Option Entries :=
  if (entries.lookup key).isSome then none else some (entries ++ [(key, node)])

/-- Puts the value of a key, which may have dots, into a table.  Where the key has dots, its table
must be one that such keys have made. -/
def addKeyValue (path : List String) (key : String) (v : Value) (entries : Entries) :
    Option Entries :=
  descend (!path.isEmpty)
    (fun isDotted inner =>
      if isDotted == path.isEmpty then none else addEntry key (.value v) inner)
    path false entries

/-- A line of a document. -/
inductive Line where
  | keyValue (path : List String) (key : String) (v : Value)
  | header (path : List String) (name : String)
  | arrayHeader (path : List String) (name : String)
  deriving Inhabited, Repr

/-- A document that is being read: the tree, and the table that keys are put into at present. -/
structure Draft where
  root : Entries
  current : Entries
  /-- The header of the present table; there is none before the first header. -/
  place : Option (List String × String × Bool)
  deriving Inhabited, Repr

/-- Puts the present table in its place in the tree. -/
def Draft.settle (d : Draft) : Option Entries :=
  match d.place with
  | none => some d.current
  | some (path, name, false) =>
      descend false (fun _ entries => addEntry name (.table false false d.current) entries)
        path false d.root
  | some (path, name, true) =>
      descend false
        (fun _ entries =>
          match entries.lookup name with
          | none => some (entries ++ [(name, .tables [d.current])])
          | some (.tables items) => some (replaceEntry name (.tables (items ++ [d.current])) entries)
          | some _ => none)
        path false d.root

/-- What a question about entries gives at the end of a path. -/
def lookAt {α : Type} (ask : Entries → Option α) : List String → Entries → Option α
  | [], entries => ask entries
  | key :: path, entries =>
      match entries.lookup key with
      | none => lookAt ask path []
      | some (.value _) => none
      | some (.tables items) => lookAt ask path (items.getLast?.getD [])
      | some (.table _ _ inner) => lookAt ask path inner

/-- The table that a header may open under a name: a new one, or one that is there implicitly. -/
def openable (name : String) (entries : Entries) : Option Entries :=
  match entries.lookup name with
  | none => some []
  | some (.table true false inner) => some inner
  | some _ => none

/-- Opens the table of a header: its entries, and the tree without it. -/
def openTable (path : List String) (name : String) (root : Entries) :
    Option (Entries × Entries) := do
  let opened ← lookAt (openable name) path root
  let rest ← descend false (fun _ entries => some (entries.filter (·.1 != name))) path false root
  return (opened, rest)

/-- Reads one line into a draft. -/
def Draft.add (d : Draft) : Line → Option Draft
  | .keyValue path key v => do
      return { d with current := ← addKeyValue path key v d.current }
  | .header path name => do
      let (opened, rest) ← openTable path name (← d.settle)
      return ⟨rest, opened, some (path, name, false)⟩
  | .arrayHeader path name => do
      let root ← d.settle
      let opened ← descend false
        (fun _ entries =>
          match entries.lookup name with
          | none => some (entries ++ [(name, .tables [])])
          | some (.tables _) => some entries
          | some _ => none)
        path false root
      return ⟨opened, [], some (path, name, true)⟩

mutual

/-- The value of a node. -/
def Node.toValue : Node → Value
  | .value v => v
  | .table _ _ entries => .table (entriesToValues entries)
  | .tables items => .array (itemsToValues items)

/-- The values of the entries of a table, in the order of their keys. -/
def entriesToValues : Entries → List (String × Value)
  | [] => []
  | (key, node) :: rest => SortedMap.insert key node.toValue (entriesToValues rest)

/-- The values of an array of tables. -/
def itemsToValues : List Entries → List Value
  | [] => []
  | entries :: rest => .table (entriesToValues entries) :: itemsToValues rest

end

/-- The value of a whole document. -/
def documentValue (lines : List Line) : Option Value := do
  let draft ← lines.foldlM Draft.add ⟨[], [], none⟩
  return .table (entriesToValues (← draft.settle))

/-- The value of an inline table. -/
def inlineTableValue (pairs : List (List String × String × Value)) : Option Value := do
  let entries ← pairs.foldlM (fun entries (path, key, v) => addKeyValue path key v entries) []
  return .table (entriesToValues entries)

end Toml
end FixtureFactory
