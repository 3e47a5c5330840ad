import FixtureFactory.Toml.Reader
import FixtureFactory.Proofs.AdapterMap

/-!
# The order of the tables of a document

The entries of a table of a TOML document stand in the order of their keys, whatever the order in
which a text writes them.  Tables are put in order where a node becomes a value: once at the end for
the tables that headers open, and for every inline table as soon as it has been read.  So a document
that is being read holds values that are in order and nodes that are not yet.

* `Toml.Value.Ordered`, `Toml.Node.Ordered`: every table of a value is in order, and every value
  below a node is.
* `Toml.OrderedEntries.descend`: what is put into the tree of tables stays so.  Every line of a
  document goes through it.
* `Toml.Reader.gives_valueWithin`: values that are read are in order, by induction on the depth to
  which they may be nested.
* `Toml.ordered_of_parse` is the result.
-/

namespace FixtureFactory
namespace Toml

/-! ## Order -/

/-- Whether every table of a value stands in the order of its keys, with no key twice. -/
inductive Value.Ordered : Value → Prop where
  | string (text : String) : Value.Ordered (.string text)
  | integer (number : Int) : Value.Ordered (.integer number)
  | float (number : FloatValue) : Value.Ordered (.float number)
  | boolean (flag : Bool) : Value.Ordered (.boolean flag)
  | moment (text : String) : Value.Ordered (.moment text)
  | array {items : List Value} (h : ∀ v ∈ items, Value.Ordered v) : Value.Ordered (.array items)
  | table {entries : List (String × Value)} (hsorted : SortedMap.Sorted entries)
      (h : ∀ entry ∈ entries, Value.Ordered entry.2) : Value.Ordered (.table entries)

/-- Whether every value below a node is in order. -/
inductive Node.Ordered : Node → Prop where
  | value {v : Value} (h : v.Ordered) : Node.Ordered (.value v)
  | table {implicit dotted : Bool} {entries : Entries}
      (h : ∀ entry ∈ entries, Node.Ordered entry.2) : Node.Ordered (.table implicit dotted entries)
  | tables {items : List Entries} (h : ∀ entries ∈ items, ∀ entry ∈ entries, Node.Ordered entry.2) :
      Node.Ordered (.tables items)

/-- Whether every value below some entries is in order. -/
def OrderedEntries (entries : Entries) : Prop := ∀ entry ∈ entries, entry.2.Ordered

theorem orderedEntries_nil : OrderedEntries [] := fun _ h => absurd h List.not_mem_nil

theorem Value.Ordered.sorted {entries : List (String × Value)}
    (h : (Value.table entries).Ordered) : SortedMap.Sorted entries := by
  cases h with
  | table hsorted _ => exact hsorted

theorem Value.Ordered.get? {v w : Value} {key : String} (h : v.Ordered) (hw : v.get? key = some w) :
    w.Ordered := by
  cases h with
  | table hsorted hentries =>
      obtain ⟨before, after, rfl, -⟩ := List.lookup_eq_some_iff.mp hw
      exact hentries (key, w) (List.mem_append_right _ List.mem_cons_self)
  | _ => cases hw

/-! ## From nodes to values -/

theorem sorted_entriesToValues (entries : Entries) :
    SortedMap.Sorted (entriesToValues entries) := by
  induction entries with
  | nil => exact List.Pairwise.nil
  | cons entry entries ih => exact SortedMap.Sorted.insert ih

theorem ordered_of_mem_entriesToValues {entries : Entries}
    (h : ∀ entry ∈ entries, entry.2.toValue.Ordered) :
    ∀ entry ∈ entriesToValues entries, entry.2.Ordered := by
  induction entries with
  | nil => exact fun entry hentry => absurd hentry List.not_mem_nil
  | cons first entries ih =>
      obtain ⟨hfirst, hentries⟩ := List.forall_mem_cons.mp h
      intro entry hentry
      rcases SortedMap.mem_insert hentry with rfl | hentry
      · exact hfirst
      · exact ih hentries entry hentry

theorem ordered_table {entries : Entries} (h : ∀ entry ∈ entries, entry.2.toValue.Ordered) :
    (Value.table (entriesToValues entries)).Ordered :=
  .table (sorted_entriesToValues entries) (ordered_of_mem_entriesToValues h)

theorem itemsToValues_eq_map (items : List Entries) :
    itemsToValues items = items.map fun entries => .table (entriesToValues entries) := by
  induction items with
  | nil => rfl
  | cons entries items ih => rw [itemsToValues, ih, List.map_cons]

theorem Node.Ordered.toValue {node : Node} (h : node.Ordered) : node.toValue.Ordered := by
  induction h with
  | value h => exact h
  | table _ ih => exact ordered_table ih
  | @tables items _ ih =>
      rw [Node.toValue, itemsToValues_eq_map]
      exact .array (List.forall_mem_map.mpr fun entries hentries =>
        ordered_table (ih entries hentries))

/-! ## Entries -/

namespace OrderedEntries

variable {entries entries' : Entries} {key : String} {node : Node}

theorem concat (h : OrderedEntries entries) (hnode : node.Ordered) :
    OrderedEntries (entries ++ [(key, node)]) :=
  List.forall_mem_append.mpr ⟨h, List.forall_mem_singleton.mpr hnode⟩

theorem replaceEntry (h : OrderedEntries entries) (hnode : node.Ordered) :
    OrderedEntries (replaceEntry key node entries) := by
  refine List.forall_mem_map.mpr fun entry hentry => ?_
  split
  · exact hnode
  · exact h entry hentry

theorem filter (h : OrderedEntries entries) (keep : String × Node → Bool) :
    OrderedEntries (entries.filter keep) := fun entry hentry =>
  h entry (List.mem_of_mem_filter hentry)

theorem of_lookup (h : OrderedEntries entries) (hnode : entries.lookup key = some node) :
    node.Ordered := by
  obtain ⟨before, after, rfl, -⟩ := List.lookup_eq_some_iff.mp hnode
  exact h (key, node) (List.mem_append_right _ List.mem_cons_self)

theorem of_lookup_table {implicit dotted : Bool} {inner : Entries} (h : OrderedEntries entries)
    (htable : entries.lookup key = some (.table implicit dotted inner)) :
    OrderedEntries inner := by
  cases h.of_lookup htable with
  | table hinner => exact hinner

theorem of_lookup_tables {items : List Entries} (h : OrderedEntries entries)
    (htables : entries.lookup key = some (.tables items)) :
    ∀ inner ∈ items, OrderedEntries inner := by
  cases h.of_lookup htables with
  | tables hitems => exact hitems

theorem getLast {items : List Entries} (h : ∀ inner ∈ items, OrderedEntries inner) :
    OrderedEntries (items.getLast?.getD []) := by
  rcases hlast : items.getLast? with _ | inner
  · exact orderedEntries_nil
  · exact h inner (List.mem_of_getLast? hlast)

theorem tables_concat {items : List Entries} (h : ∀ inner ∈ items, OrderedEntries inner)
    (hentries : OrderedEntries entries) : (Node.tables (items ++ [entries])).Ordered :=
  .tables (List.forall_mem_append.mpr ⟨h, List.forall_mem_singleton.mpr hentries⟩)

/-- **A change somewhere in the tree keeps it in order**, if it keeps the entries there in order. -/
theorem descend {dotted : Bool} {change : Bool → Entries → Option Entries}
    (hchange : ∀ here inner inner', OrderedEntries inner → change here inner = some inner' →
      OrderedEntries inner') {path : List String} {here : Bool} (h : OrderedEntries entries)
    (hrun : Toml.descend dotted change path here entries = some entries') :
    OrderedEntries entries' := by
  induction path generalizing here entries entries' with
  | nil => exact hchange here entries entries' h hrun
  -- One case for what stands at the key: nothing, a value, an array of tables, a table.
  | cons key path ih =>
      rw [Toml.descend] at hrun
      split at hrun
      · obtain ⟨inner, hinner, hrun⟩ := Option.bind_eq_some_iff.mp hrun
        cases hrun
        exact h.concat (.table (ih orderedEntries_nil hinner))
      · cases hrun
      · rename_i items hitems
        obtain ⟨inner, hinner, hrun⟩ := Option.bind_eq_some_iff.mp hrun
        cases hrun
        have hall := h.of_lookup_tables hitems
        exact h.replaceEntry (tables_concat (fun entries hentries =>
          hall entries ((List.dropLast_sublist items).subset hentries)) (ih (getLast hall) hinner))
      · rename_i implicit isDotted inner hinner
        split at hrun
        · cases hrun
        · obtain ⟨changed, hchanged, hrun⟩ := Option.bind_eq_some_iff.mp hrun
          cases hrun
          exact h.replaceEntry (.table (ih (h.of_lookup_table hinner) hchanged))

theorem addEntry (h : OrderedEntries entries) (hnode : node.Ordered)
    (hrun : Toml.addEntry key node entries = some entries') : OrderedEntries entries' := by
  obtain ⟨-, hrun⟩ := Option.ite_none_left_eq_some.mp hrun
  cases hrun
  exact h.concat hnode

theorem addKeyValue {path : List String} {v : Value} (h : OrderedEntries entries) (hv : v.Ordered)
    (hrun : Toml.addKeyValue path key v entries = some entries') : OrderedEntries entries' := by
  refine h.descend (fun here inner inner' hinner hchange => ?_) hrun
  obtain ⟨-, hchange⟩ := Option.ite_none_left_eq_some.mp hchange
  exact hinner.addEntry (.value hv) hchange

theorem openable (h : OrderedEntries entries) (hrun : Toml.openable key entries = some entries') :
    OrderedEntries entries' := by
  rw [Toml.openable] at hrun
  split at hrun
  · cases hrun
    exact orderedEntries_nil
  · rename_i inner hinner
    cases hrun
    exact h.of_lookup_table hinner
  · cases hrun

theorem lookAt {path : List String} (h : OrderedEntries entries)
    (hrun : Toml.lookAt (Toml.openable key) path entries = some entries') :
    OrderedEntries entries' := by
  induction path generalizing entries with
  | nil => exact h.openable hrun
  | cons key path ih =>
      rw [Toml.lookAt] at hrun
      split at hrun
      · exact ih orderedEntries_nil hrun
      · cases hrun
      · rename_i items hitems
        exact ih (getLast (h.of_lookup_tables hitems)) hrun
      · rename_i implicit isDotted inner hinner
        exact ih (h.of_lookup_table hinner) hrun

end OrderedEntries

/-! ## Documents -/

/-- Whether the value of a line is in order, if it has one. -/
def Line.Ordered : Line → Prop
  | .keyValue _ _ v => v.Ordered
  | .header _ _ => True
  | .arrayHeader _ _ => True

/-- Whether all that has been read of a document is in order. -/
structure Draft.Ordered (d : Draft) : Prop where
  root : OrderedEntries d.root
  current : OrderedEntries d.current

theorem Draft.Ordered.settle {d : Draft} {entries : Entries} (h : d.Ordered)
    (hrun : d.settle = some entries) : OrderedEntries entries := by
  rw [Draft.settle] at hrun
  split at hrun
  · cases hrun
    exact h.current
  · exact h.root.descend (fun here inner inner' hinner hchange =>
      hinner.addEntry (.table h.current) hchange) hrun
  · refine h.root.descend (fun here inner inner' hinner hchange => ?_) hrun
    split at hchange
    · cases hchange
      exact hinner.concat (.tables (List.forall_mem_singleton.mpr h.current))
    · rename_i items hitems
      cases hchange
      exact hinner.replaceEntry
        (OrderedEntries.tables_concat (hinner.of_lookup_tables hitems) h.current)
    · cases hchange

theorem ordered_openTable {path : List String} {name : String} {root opened rest : Entries}
    (h : OrderedEntries root) (hrun : openTable path name root = some (opened, rest)) :
    OrderedEntries opened ∧ OrderedEntries rest := by
  obtain ⟨entries, hentries, hrun⟩ := Option.bind_eq_some_iff.mp hrun
  obtain ⟨left, hleft, hrun⟩ := Option.bind_eq_some_iff.mp hrun
  cases hrun
  refine ⟨h.lookAt hentries, h.descend (fun here inner inner' hinner hchange => ?_) hleft⟩
  cases hchange
  exact hinner.filter _

/-- **Every line keeps a draft in order.** -/
theorem Draft.Ordered.add {d d' : Draft} {line : Line} (h : d.Ordered) (hline : line.Ordered)
    (hrun : d.add line = some d') : d'.Ordered := by
  cases line with
  | keyValue path key v =>
      obtain ⟨current, hcurrent, hrun⟩ := Option.bind_eq_some_iff.mp hrun
      cases hrun
      exact ⟨h.root, h.current.addKeyValue hline hcurrent⟩
  | header path name =>
      obtain ⟨root, hroot, hrun⟩ := Option.bind_eq_some_iff.mp hrun
      obtain ⟨⟨opened, rest⟩, hopen, hrun⟩ := Option.bind_eq_some_iff.mp hrun
      cases hrun
      obtain ⟨hopened, hrest⟩ := ordered_openTable (h.settle hroot) hopen
      exact ⟨hrest, hopened⟩
  | arrayHeader path name =>
      obtain ⟨root, hroot, hrun⟩ := Option.bind_eq_some_iff.mp hrun
      obtain ⟨opened, hopened, hrun⟩ := Option.bind_eq_some_iff.mp hrun
      cases hrun
      refine ⟨(h.settle hroot).descend (fun here inner inner' hinner hchange => ?_) hopened,
        orderedEntries_nil⟩
      split at hchange
      · cases hchange
        exact hinner.concat (.tables nofun)
      · cases hchange
        exact hinner
      · cases hchange

/-- What every step of a traversal keeps, the traversal keeps. -/
theorem inv_of_foldlM {α β : Type} {f : β → α → Option β} {P : α → Prop} {Inv : β → Prop}
    (hstep : ∀ b a b', Inv b → P a → f b a = some b' → Inv b') {xs : List α} {b c : β}
    (hb : Inv b) (hxs : ∀ a ∈ xs, P a) (h : xs.foldlM f b = some c) : Inv c := by
  induction xs generalizing b with
  | nil =>
      cases h
      exact hb
  | cons a xs ih =>
      rw [List.foldlM_cons] at h
      obtain ⟨b', hb', h⟩ := Option.bind_eq_some_iff.mp h
      obtain ⟨ha, hxs⟩ := List.forall_mem_cons.mp hxs
      exact ih (hstep b a b' hb ha hb') hxs h

theorem ordered_of_documentValue {lines : List Line} {v : Value}
    (hlines : ∀ line ∈ lines, line.Ordered) (hrun : documentValue lines = some v) : v.Ordered := by
  obtain ⟨draft, hdraft, hrun⟩ := Option.bind_eq_some_iff.mp hrun
  obtain ⟨entries, hentries, hrun⟩ := Option.bind_eq_some_iff.mp hrun
  cases hrun
  have hordered : draft.Ordered := inv_of_foldlM (fun d line d' h hline => h.add hline)
    ⟨orderedEntries_nil, orderedEntries_nil⟩ hlines hdraft
  exact ordered_table fun entry hentry => (hordered.settle hentries entry hentry).toValue

theorem ordered_of_inlineTableValue {pairs : List (List String × String × Value)} {v : Value}
    (hpairs : ∀ pair ∈ pairs, pair.2.2.Ordered) (hrun : inlineTableValue pairs = some v) :
    v.Ordered := by
  obtain ⟨entries, hentries, hrun⟩ := Option.bind_eq_some_iff.mp hrun
  cases hrun
  have hordered : OrderedEntries entries := inv_of_foldlM
    (fun entries pair entries' h hpair => h.addKeyValue hpair) orderedEntries_nil hpairs hentries
  exact ordered_table fun entry hentry => (hordered entry hentry).toValue

/-! ## Readers -/

namespace Reader

variable {α β : Type} {P : α → Prop} {Q : β → Prop}

/-- Whether whatever a reader gives has a property. -/
def Gives (r : Reader α) (P : α → Prop) : Prop := ∀ cs a rest, r.run cs = some (a, rest) → P a

theorem gives_pure {a : α} (h : P a) : (pure a : Reader α).Gives P := by
  intro cs a' rest hrun
  cases hrun
  exact h

theorem gives_failure : (failure : Reader α).Gives P := by
  intro cs a rest hrun
  cases hrun

theorem gives_lift {x : Option α} (h : ∀ a, x = some a → P a) :
    (liftM x : Reader α).Gives P := by
  intro cs a rest hrun
  cases x with
  | none => cases hrun
  | some a' =>
      cases hrun
      exact h a rfl

theorem Gives.bind {r : Reader α} {f : α → Reader β} (hr : r.Gives P)
    (hf : ∀ a, P a → (f a).Gives Q) : (r >>= f).Gives Q := by
  intro cs b rest hrun
  rw [StateT.run_bind] at hrun
  obtain ⟨⟨a, cs'⟩, hfirst, hrun⟩ := Option.bind_eq_some_iff.mp hrun
  exact hf a (hr cs a cs' hfirst) cs' b rest hrun

theorem gives_bind {r : Reader α} {f : α → Reader β} (hf : ∀ a, (f a).Gives Q) :
    (r >>= f).Gives Q :=
  Gives.bind (P := fun _ => True) (fun _ _ _ _ => trivial) fun a _ => hf a

theorem gives_ite {c : Prop} [Decidable c] {r r' : Reader α} (h : r.Gives P) (h' : r'.Gives P) :
    (if c then r else r').Gives P := by
  split
  · exact h
  · exact h'

theorem gives_map {r : Reader α} {f : α → β} (h : ∀ a, Q (f a)) : (f <$> r).Gives Q := by
  rw [map_eq_pure_bind]
  exact gives_bind fun a => gives_pure (h a)

theorem Gives.orElse {r r' : Reader α} (h : r.Gives P) (h' : r'.Gives P) : (r <|> r').Gives P := by
  intro cs a rest hrun
  have hrun : (r.run cs <|> r'.run cs) = some (a, rest) := hrun
  rcases hfirst : r.run cs with _ | found
  · rw [hfirst] at hrun
    exact h' cs a rest hrun
  · rw [hfirst] at hrun
    cases hrun
    exact h cs a rest hfirst

/-- **A repetition keeps what its step keeps.** -/
theorem gives_repeating {start : α} {step : α → Reader (α × Bool)} (hstart : P start)
    (hstep : ∀ a, P a → (step a).Gives fun found => P found.1) :
    (repeating start step).Gives P := by
  have hloop : ∀ fuel a, P a → (loop step fuel a).Gives P := by
    intro fuel
    induction fuel with
    | zero => exact fun a _ => gives_failure
    | succ fuel ih =>
        intro a ha
        refine (hstep a ha).bind fun found hfound => ?_
        exact gives_ite (gives_pure hfound) (ih found.1 hfound)
  exact gives_bind fun cs => hloop _ start hstart

/-! ### Values -/

section Values

variable {value : Reader Value}

theorem gives_arrayItems (h : value.Gives Value.Ordered) :
    (arrayItems value).Gives fun items => ∀ v ∈ items, v.Ordered := by
  refine gives_repeating nofun fun items hitems => gives_bind fun _ => gives_bind fun ended => ?_
  refine gives_ite (gives_pure hitems) ?_
  refine h.bind fun v hv => gives_bind fun _ => gives_bind fun more => ?_
  have hcons : ∀ w ∈ v :: items, w.Ordered := List.forall_mem_cons.mpr ⟨hv, hitems⟩
  exact gives_ite (gives_pure hcons) (gives_bind fun _ => gives_pure hcons)

theorem gives_keyValue (h : value.Gives Value.Ordered) :
    (keyValue value).Gives fun entry => entry.2.2.Ordered :=
  gives_bind fun _ => gives_bind fun _ => gives_bind fun _ => h.bind fun _ hv => gives_pure hv

theorem gives_inlineEntries (h : value.Gives Value.Ordered) :
    (inlineEntries value).Gives fun entries => ∀ entry ∈ entries, entry.2.2.Ordered := by
  refine gives_bind fun _ => gives_bind fun empty => gives_ite (gives_pure nofun) ?_
  refine gives_repeating nofun fun entries hentries => ?_
  refine (gives_keyValue h).bind fun entry hentry => ?_
  have hcons : ∀ e ∈ entry :: entries, e.2.2.Ordered := List.forall_mem_cons.mpr ⟨hentry, hentries⟩
  exact gives_bind fun _ => gives_bind fun more =>
    gives_ite (gives_pure hcons) (gives_bind fun _ => gives_pure hcons)

theorem gives_numeric : numeric.Gives Value.Ordered :=
  (gives_map .moment).orElse ((gives_map .float).orElse
    ((gives_map .float).orElse (gives_map .integer)))

/-- **Values that are read are in order**, however deep they are nested. -/
theorem gives_valueWithin (depth : Nat) : (valueWithin depth).Gives Value.Ordered := by
  induction depth with
  | zero => exact gives_failure
  | succ depth ih =>
      refine gives_bind fun next => ?_
      cases next with
      | none => exact gives_failure
      | some c =>
          refine gives_ite (gives_bind fun text => gives_pure (.string text)) (gives_ite ?_
            (gives_ite ?_ (gives_ite ?_ (gives_ite ?_ gives_numeric))))
          · refine gives_bind fun _ => (gives_arrayItems ih).bind fun items hitems => ?_
            exact gives_pure (.array fun v hv => hitems v (List.mem_reverse.mp hv))
          · refine gives_bind fun _ => (gives_inlineEntries ih).bind fun entries hentries => ?_
            exact gives_lift fun v hv => ordered_of_inlineTableValue
              (fun entry hentry => hentries entry (List.mem_reverse.mp hentry)) hv
          · exact gives_bind fun _ => gives_pure (.boolean true)
          · exact gives_bind fun _ => gives_pure (.boolean false)

end Values

theorem gives_line : line.Gives Line.Ordered := by
  refine gives_bind fun isArray => gives_ite ?_ (gives_bind fun isHeader => gives_ite ?_ ?_)
  · exact gives_bind fun _ => gives_bind fun _ => gives_pure trivial
  · exact gives_bind fun _ => gives_bind fun _ => gives_pure trivial
  · exact (gives_keyValue (gives_valueWithin _)).bind fun _ hv => gives_pure hv

theorem gives_document : document.Gives fun lines => ∀ line ∈ lines, line.Ordered := by
  refine gives_bind fun _ => ?_
  refine Gives.bind (P := fun lines => ∀ line ∈ lines, line.Ordered) ?_ fun lines hlines =>
    gives_pure fun line hline => hlines line (List.mem_reverse.mp hline)
  refine gives_repeating nofun fun lines hlines => gives_bind fun _ => gives_bind fun rest => ?_
  refine gives_ite (gives_pure hlines) (gives_line.bind fun line hline => gives_bind fun _ => ?_)
  exact gives_pure (List.forall_mem_cons.mpr ⟨hline, hlines⟩)

end Reader

/-- **The tables of a document are in order**, at every depth. -/
theorem ordered_of_parse {text : String} {v : Value} (h : parse text = some v) : v.Ordered := by
  obtain ⟨⟨lines, rest⟩, hlines, h⟩ := Option.bind_eq_some_iff.mp h
  exact ordered_of_documentValue (Reader.gives_document _ _ _ hlines) h

end Toml
end FixtureFactory
