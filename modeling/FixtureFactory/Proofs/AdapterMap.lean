import FixtureFactory.Proofs.AdapterLookup
import Mathlib.Data.List.Nodup

/-!
# Look-ups as a function of one map

The registry of adapters keeps two maps, and the second one is only ever added to: an adapter that
is replaced leaves its text under its simple name.  What a look-up by simple name answers could so
depend on the whole history of registrations.  It does not.  A text shows whether its type has
arguments and what its simple name is, so the adapter that replaces another one is listed under the
same name, and the second map lists what could as well be read off the first one.

* `SortedMap.Sorted.insert`, `SortedMap.Sorted.eq_of_find?_eq`: maps stay sorted, and a sorted map
  is what it answers.
* `TypeRef.nil_of_render_eq`: a text shows whether its type has arguments.
* `AdapterRegistry.nodup_keysOf_ofList`, `AdapterRegistry.mem_keysOf_ofList_iff`: the second map
  lists each text that has been registered without arguments, and lists it once.
* `AdapterRegistry.answers_by_latest`: registering hands back what the map holds and a look-up is
  `AdapterRegistry.answer` of it.
-/

namespace FixtureFactory

/-! ## Sorted maps -/

namespace SortedMap

variable {α : Type} {key : String} {value : α} {m m' : SortedMap α}

/-- **A map stays sorted.** -/
theorem Sorted.insert (h : m.Sorted) : (SortedMap.insert key value m).Sorted := by
  induction m with
  | nil => exact List.pairwise_singleton _ _
  | cons head rest ih =>
      obtain ⟨hhead, hrest⟩ := List.pairwise_cons.mp h
      rw [SortedMap.insert]
      split
      · rename_i hkey
        exact List.pairwise_cons.mpr ⟨fun entry hentry => hkey ▸ hhead entry hentry, hrest⟩
      · rename_i hne
        split
        · rename_i hlt
          refine List.pairwise_cons.mpr ⟨fun entry hentry => ?_, h⟩
          rcases List.mem_cons.mp hentry with rfl | hentry
          · exact hlt
          · exact String.lt_trans hlt (hhead entry hentry)
        · rename_i hnlt
          refine List.pairwise_cons.mpr ⟨fun entry hentry => ?_, ih hrest⟩
          rcases mem_insert hentry with rfl | hentry
          · -- of two keys that are not one, the smaller one comes first
            have hle : head.1 ≤ key := String.not_lt.mp hnlt
            exact String.not_le.mp fun hge => hne (String.le_antisymm hge hle)
          · exact hhead entry hentry

theorem Sorted.nodup_keys (h : m.Sorted) : (m.map Prod.fst).Nodup := by
  refine List.pairwise_map.mpr (h.imp ?_)
  intro a b hlt heq
  rw [heq] at hlt
  exact String.lt_irrefl _ hlt

/-- **The entries of a sorted map are what it answers.** -/
theorem Sorted.mem_iff (h : m.Sorted) : (key, value) ∈ m ↔ m.find? key = some value := by
  refine ⟨?_, mem_of_find?⟩
  induction m with
  | nil => exact fun hmem => absurd hmem List.not_mem_nil
  | cons head rest ih =>
      obtain ⟨k, v⟩ := head
      obtain ⟨hhead, hrest⟩ := List.pairwise_cons.mp h
      intro hmem
      rw [find?]
      rcases List.mem_cons.mp hmem with hentry | hentry
      · cases hentry
        exact if_pos rfl
      · -- a key further on is not the first one
        have hne : key ≠ k := by
          intro hkey
          have hlt : k < key := hhead _ hentry
          rw [hkey] at hlt
          exact String.lt_irrefl _ hlt
        rw [if_neg hne]
        exact ih hrest hentry

/-- **Sorted maps that answer alike are equal.** -/
theorem Sorted.eq_of_find?_eq (h : m.Sorted) (h' : m'.Sorted)
    (heq : ∀ key, m.find? key = m'.find? key) : m = m' := by
  have hperm : m.Perm m' := by
    refine (List.perm_ext_iff_of_nodup (.of_map _ h.nodup_keys) (.of_map _ h'.nodup_keys)).mpr ?_
    intro entry
    rw [h.mem_iff, h'.mem_iff, heq]
  exact hperm.eq_of_pairwise
    (fun a b _ _ hab hba => absurd hba (String.lt_asymm hab)) h h'

end SortedMap

/-! ## What texts show -/

namespace TypeRef

/-- Whether the outermost path of a type is plain and, if it is that of slices, has one argument.
Nothing is asked of the arguments themselves. -/
def IsPlain (t : TypeRef) : Prop := IsPlainPath t.path ∧ (t.path = slicePath → t.args.length = 1)

/-- The path is looked at, and the arguments are counted. -/
instance (t : TypeRef) : Decidable t.IsPlain :=
  inferInstanceAs (Decidable (_ ∧ (_ → _)))

variable {t u : TypeRef}

/-- Types with one text have one text without the option layer. -/
theorem renderRequired_eq_of_render_eq (ht : IsPlainPath t.path) (hu : IsPlainPath u.path)
    (h : t.render = u.render) : t.renderRequired = u.renderRequired := by
  have hlayer := nullable_eq_of_render_eq ht hu h
  rw [render_eq, render_eq, hlayer] at h
  cases hnullable : u.nullable with
  | false =>
      rw [hnullable] at h
      exact h
  | true =>
      rw [hnullable] at h
      have hwrapped : "Option<" ++ t.renderRequired ++ ">" = "Option<" ++ u.renderRequired ++ ">" :=
        h
      exact String.append_right_inj _ |>.mp (String.append_left_inj _ |>.mp hwrapped)

theorem IsPlain.ne_slicePath_of_nil (ht : t.IsPlain) (hnil : t.args = []) : t.path ≠ slicePath := by
  intro hslice
  have hone := ht.2 hslice
  rw [hnil] at hone
  cases hone

theorem IsPlain.renderRequired_of_nil (ht : t.IsPlain) (hnil : t.args = []) :
    t.renderRequired = t.path := by
  rw [renderRequired, hnil, plainText, if_neg (mt beq_iff_eq.mp (ht.ne_slicePath_of_nil hnil))]
  rfl

/-- **A text shows whether its type has arguments**, and without arguments it shows the path. -/
theorem nil_of_render_eq (ht : t.IsPlain) (hu : u.IsPlain) (h : t.render = u.render)
    (hnil : t.args = []) : u.args = [] ∧ u.path = t.path := by
  have hslice : t.path ≠ slicePath := ht.ne_slicePath_of_nil hnil
  have htext : t.path = u.renderRequired := by
    rw [← ht.renderRequired_of_nil hnil]
    exact renderRequired_eq_of_render_eq ht.1 hu.1 h
  rw [renderRequired, plainText] at htext
  by_cases huslice : u.path = slicePath
  · rw [if_pos (beq_iff_eq.mpr huslice)] at htext
    refine absurd ?_ (notMem_toList_of_isPlainPath ht.1 hslice (c := '[') (by decide))
    rw [htext]
    simp
  · rw [if_neg (mt beq_iff_eq.mp huslice)] at htext
    split at htext
    · rename_i hempty
      refine ⟨?_, htext.symm⟩
      rw [renderAll_eq_map, List.isEmpty_iff, List.map_eq_nil_iff] at hempty
      exact hempty
    · refine absurd ?_ (notMem_toList_of_isPlainPath ht.1 hslice (c := '<') (by decide))
      rw [htext, toList_bracketed]
      exact List.mem_append_right _ List.mem_cons_self

end TypeRef

namespace AdapterRegistry

/-! ## The second map -/

theorem bySimpleName_insert (r : AdapterRegistry) (a : Adapter) :
    (r.insert a).bySimpleName =
      if a.target.args.isEmpty && !(r.keysOf a.target.simpleName).contains a.target.render
      then r.bySimpleName.insert a.target.simpleName
        (r.keysOf a.target.simpleName ++ [a.target.render])
      else r.bySimpleName := rfl

/-- **What a registration lists** under a simple name. -/
theorem keysOf_insert (r : AdapterRegistry) (a : Adapter) (name : String) :
    (r.insert a).keysOf name =
      if a.target.simpleName = name ∧ a.target.args = [] ∧ a.target.render ∉ r.keysOf name
      then r.keysOf name ++ [a.target.render] else r.keysOf name := by
  have hcond : (a.target.args.isEmpty &&
      !(r.keysOf a.target.simpleName).contains a.target.render) = true ↔
      a.target.args = [] ∧ a.target.render ∉ r.keysOf a.target.simpleName := by
    simp
  rw [keysOf, bySimpleName_insert]
  by_cases hname : a.target.simpleName = name
  · subst hname
    by_cases hlisted : a.target.args = [] ∧ a.target.render ∉ r.keysOf a.target.simpleName
    · rw [if_pos (hcond.mpr hlisted), SortedMap.find?_insert_self, if_pos ⟨rfl, hlisted⟩]
      rfl
    · rw [if_neg (mt hcond.mp hlisted), if_neg fun h => hlisted h.2]
      rfl
  · have hother : ¬ (a.target.simpleName = name ∧ a.target.args = [] ∧
        a.target.render ∉ r.keysOf name) := fun h => hname h.1
    rw [if_neg hother]
    split
    · rw [SortedMap.find?_insert_of_ne fun h => hname h.symm]
      rfl
    · rfl

/-- **A simple name lists no text twice.** -/
theorem nodup_keysOf_ofList (as : List Adapter) (name : String) :
    ((ofList as).keysOf name).Nodup := by
  induction as using List.reverseRecOn with
  | nil => exact List.nodup_nil
  | append_singleton as a ih =>
      rw [ofList_concat, keysOf_insert]
      split
      · rename_i hlisted
        exact List.nodup_append_comm.mp (List.nodup_cons.mpr ⟨hlisted.2.2, ih⟩)
      · exact ih

/-- **A simple name lists what has been registered under it without arguments.** -/
theorem mem_keysOf_ofList_iff {as : List Adapter} {name key : String} :
    key ∈ (ofList as).keysOf name ↔
      ∃ a ∈ as, a.target.simpleName = name ∧ a.target.args = [] ∧ a.target.render = key := by
  induction as using List.reverseRecOn with
  | nil => exact ⟨fun h => absurd h List.not_mem_nil, fun ⟨_, h, _⟩ => absurd h List.not_mem_nil⟩
  | append_singleton as a ih =>
      have hsplit : (∃ b ∈ as ++ [a], b.target.simpleName = name ∧ b.target.args = [] ∧
          b.target.render = key) ↔ key ∈ (ofList as).keysOf name ∨
            (a.target.simpleName = name ∧ a.target.args = [] ∧ a.target.render = key) := by
        rw [ih]
        simp only [List.mem_append, List.mem_singleton, or_and_right, exists_or, exists_eq_left]
      rw [hsplit, ofList_concat, keysOf_insert]
      split
      · rename_i hlisted
        rw [List.mem_append, List.mem_singleton]
        refine or_congr_right ⟨fun h => ⟨hlisted.1, hlisted.2.1, h.symm⟩, fun h => h.2.2.symm⟩
      · rename_i hlisted
        refine ⟨Or.inl, ?_⟩
        rintro (h | ⟨hname, hnil, hkey⟩)
        · exact h
        · by_contra hnot
          exact hlisted ⟨hname, hnil, hkey ▸ hnot⟩

/-! ## The latest adapters -/

/-- The latest adapter of each text, by text. -/
def latest (as : List Adapter) : SortedMap Adapter :=
  as.foldl (fun m a => m.insert a.target.render a) []

theorem latest_concat (as : List Adapter) (a : Adapter) :
    latest (as ++ [a]) = (latest as).insert a.target.render a := by
  rw [latest, latest, List.foldl_concat]

theorem byType_ofList (as : List Adapter) : (ofList as).byType = latest as := by
  induction as using List.reverseRecOn with
  | nil => rfl
  | append_singleton as a ih =>
      rw [ofList_concat, latest_concat, insert, ih]

theorem sorted_latest (as : List Adapter) : (latest as).Sorted := by
  induction as using List.reverseRecOn with
  | nil => exact List.Pairwise.nil
  | append_singleton as a ih =>
      rw [latest_concat]
      exact ih.insert

/-- **What the latest adapters hold under a text** is the last adapter of that text. -/
theorem find?_latest (as : List Adapter) (key : String) :
    (latest as).find? key = as.reverse.find? fun a => a.target.render == key := by
  rw [← byType_ofList, find?_byType_ofList]

/-- Without two adapters of one text, every adapter is the latest one. -/
theorem find?_latest_eq_some_iff {as : List Adapter}
    (hnodup : (as.map fun a => a.target.render).Nodup) {key : String} {a : Adapter} :
    (latest as).find? key = some a ↔ a ∈ as ∧ a.target.render = key := by
  constructor
  · intro h
    rw [← byType_ofList] at h
    exact of_find?_byType h
  · rintro ⟨hmem, rfl⟩
    rw [find?_latest]
    cases hfound : as.reverse.find? fun b => b.target.render == a.target.render with
    | none =>
        have hnone := List.find?_eq_none.mp hfound a (List.mem_reverse.mpr hmem)
        exact absurd (beq_self_eq_true _) hnone
    | some b =>
        have hkey := List.find?_some hfound
        rw [beq_iff_eq] at hkey
        have hb : b ∈ as := List.mem_reverse.mp (List.mem_of_find?_eq_some hfound)
        rw [List.inj_on_of_nodup_map hnodup hb hmem hkey]

/-- **The order of registrations does not matter** to the latest adapters, if no text comes twice.
-/
theorem latest_eq_of_perm {as bs : List Adapter} (hperm : as.Perm bs)
    (hnodup : (as.map fun a => a.target.render).Nodup) : latest as = latest bs := by
  have hnodup' : (bs.map fun a => a.target.render).Nodup := (hperm.map _).nodup_iff.mp hnodup
  refine (sorted_latest as).eq_of_find?_eq (sorted_latest bs) fun key => ?_
  ext a
  rw [find?_latest_eq_some_iff hnodup, find?_latest_eq_some_iff hnodup', hperm.mem_iff]

/-! ## The answer -/

/-- The entries whose targets have no arguments and a simple name. -/
def bareEntries (m : SortedMap Adapter) (name : String) : SortedMap Adapter :=
  m.filter fun entry => entry.2.target.args.isEmpty && entry.2.target.simpleName == name

/-- The adapter of the one and only entry of a simple name, unless it would put an option where none
belongs. -/
def onlyBare (m : SortedMap Adapter) (t : TypeRef) : Option Adapter :=
  match bareEntries m t.simpleName with
  | [(_, a)] => if a.target.nullable && !t.nullable then none else some a
  | _ => none

/-- What a map of adapters by text answers for a type: what stands under its text, else what stands
under its text without the option layer, else, for a bare name, what alone has that simple name. -/
def answer (m : SortedMap Adapter) (t : TypeRef) : Option Adapter :=
  (m.find? t.render).or ((m.find? t.renderRequired).or
    (if t.args.isEmpty && !isQualified t.path then onlyBare m t else none))

section Answer

variable {as : List Adapter}

/-- **The second map lists the keys of the bare entries of the first one.** -/
theorem keysOf_perm_bareEntries (has : ∀ a ∈ as, a.target.IsPlain) (name : String) :
    ((ofList as).keysOf name).Perm ((bareEntries (latest as) name).map Prod.fst) := by
  have hsorted := sorted_latest as
  have hkeys : ((bareEntries (latest as) name).map Prod.fst).Nodup :=
    hsorted.nodup_keys.sublist (List.filter_sublist.map _)
  refine (List.perm_ext_iff_of_nodup (nodup_keysOf_ofList as name) hkeys).mpr fun key => ?_
  rw [mem_keysOf_ofList_iff]
  constructor
  · rintro ⟨a, ha, hname, hnil, hkey⟩
    -- the latest adapter of the text has no arguments either, and the same simple name
    have hsome : ((latest as).find? key).isSome = true := by
      rw [find?_latest, List.find?_isSome]
      exact ⟨a, List.mem_reverse.mpr ha, beq_iff_eq.mpr hkey⟩
    obtain ⟨b, hb⟩ := Option.isSome_iff_exists.mp hsome
    have hfound := hb
    rw [← byType_ofList] at hfound
    obtain ⟨hbmem, hbkey⟩ := of_find?_byType hfound
    obtain ⟨hbnil, hbpath⟩ :=
      TypeRef.nil_of_render_eq (has a ha) (has b hbmem) (hkey.trans hbkey.symm) hnil
    have hbname : b.target.simpleName = name := by
      rw [← hname, TypeRef.simpleName, TypeRef.simpleName, hbpath]
    refine List.mem_map.mpr ⟨(key, b), List.mem_filter.mpr ⟨hsorted.mem_iff.mpr hb, ?_⟩, rfl⟩
    simp [hbnil, hbname]
  · intro hmem
    obtain ⟨⟨_, b⟩, hentry, rfl⟩ := List.mem_map.mp hmem
    obtain ⟨hentry, hbare⟩ := List.mem_filter.mp hentry
    have hfound := hsorted.mem_iff.mp hentry
    rw [← byType_ofList] at hfound
    obtain ⟨hb, hkey⟩ := of_find?_byType hfound
    rw [Bool.and_eq_true, List.isEmpty_iff, beq_iff_eq] at hbare
    exact ⟨b, hb, hbare.2, hbare.1, hkey⟩

/-- **What the second map finds** is what alone has the simple name. -/
theorem findBySimpleName?_ofList (has : ∀ a ∈ as, a.target.IsPlain) (t : TypeRef) :
    (ofList as).findBySimpleName? t = onlyBare (latest as) t := by
  have hperm := keysOf_perm_bareEntries has t.simpleName
  have hentries : ∀ entry ∈ bareEntries (latest as) t.simpleName, entry ∈ latest as :=
    fun entry hentry => (List.mem_filter.mp hentry).1
  rw [findBySimpleName?, onlyBare]
  rcases hbare : bareEntries (latest as) t.simpleName with _ | ⟨⟨key, a⟩, _ | ⟨other, rest⟩⟩
  · rw [hbare] at hperm
    rw [List.perm_nil.mp hperm]
  · rw [hbare] at hperm hentries
    have hfound : (latest as).find? key = some a :=
      (sorted_latest as).mem_iff.mp (hentries _ List.mem_cons_self)
    rw [List.perm_singleton.mp hperm, byType_ofList]
    simp only
    rw [hfound]
    cases hnullable : a.target.nullable <;> cases ht : t.nullable <;>
      simp [Option.filter, hnullable]
  · rw [hbare] at hperm
    have hlength := hperm.length_eq
    rcases hkeys : (ofList as).keysOf t.simpleName with _ | ⟨key', _ | ⟨_, _⟩⟩
    · rfl
    · rw [hkeys] at hlength
      cases hlength
    · rfl

/-- **A look-up is the answer of the latest adapters.** -/
theorem find?_ofList (has : ∀ a ∈ as, a.target.IsPlain) (t : TypeRef) :
    (ofList as).find? t = answer (latest as) t := by
  rw [find?_eq_or, answer, byType_ofList, findBySimpleName?_ofList has]
  cases hargs : t.args.isEmpty <;> cases hpath : isQualified t.path <;> rfl

/-- **The registry of adapters is its map of latest adapters.**  That map holds, in the order of the
texts, the last adapter of each one.  A registration hands back what the map holds under the text of
the new adapter, and a look-up is the answer of the map.  So it does not matter in which order
adapters of different texts are registered.

An adapter that is replaced stays listed under its simple name, so the second claim is not a matter
of definition: the answer is computed from the map alone, and the history drops out.  The targets
are plain, so that a text tells an option from what is within it. -/
theorem answers_by_latest (as : List Adapter) (has : ∀ a ∈ as, a.target.IsPlain) :
    ((latest as).Sorted ∧
      ∀ key, (latest as).find? key = as.reverse.find? fun a => a.target.render == key) ∧
    (∀ a, (ofList as).register a = ((latest as).find? a.target.render, ofList (as ++ [a]))) ∧
    (∀ t, (ofList as).find? t = answer (latest as) t) ∧
    ∀ bs, as.Perm bs → (as.map fun a => a.target.render).Nodup →
      ∀ t, (ofList bs).find? t = (ofList as).find? t := by
  refine ⟨⟨sorted_latest as, find?_latest as⟩, fun a => ?_, find?_ofList has, ?_⟩
  · rw [register, byType_ofList, ofList_concat]
  · intro bs hperm hnodup t
    have hbs : ∀ a ∈ bs, a.target.IsPlain := fun a ha => has a (hperm.mem_iff.mpr ha)
    rw [find?_ofList has, find?_ofList hbs, latest_eq_of_perm hperm hnodup]

/-- Adapters for a type without arguments, for one with arguments and for an option. -/
def shopAdapters : List Adapter :=
  [⟨"crate", "price", .named "crate::Money", default⟩,
   ⟨"crate", "bytes", .withArgs "Vec" [.named "u8"], default⟩,
   ⟨"crate", "discount", (TypeRef.named "crate::Rate").optional, default⟩]

/-- They answer alike in the other order: a bare name finds the money, and finds the option of a
rate for an option only. -/
theorem answers_by_latest_shop :
    (∀ a ∈ shopAdapters, a.target.IsPlain) ∧
    (∀ t, (ofList shopAdapters.reverse).find? t = (ofList shopAdapters).find? t) ∧
    ((ofList shopAdapters.reverse).find? (.named "Money")).map Adapter.function = some "price" ∧
    ((ofList shopAdapters.reverse).find? (.named "Rate")).map Adapter.function = none ∧
    ((ofList shopAdapters.reverse).find? (TypeRef.named "Rate").optional).map Adapter.function =
      some "discount" := by
  have hplain : ∀ a ∈ shopAdapters, a.target.IsPlain := by decide +kernel
  obtain ⟨-, -, hanswer, hperm⟩ := answers_by_latest shopAdapters hplain
  have hreverse := hperm _ (List.reverse_perm _).symm (by decide +kernel)
  refine ⟨hplain, hreverse, ?_, ?_, ?_⟩
  · rw [hreverse, hanswer]
    decide +kernel
  · rw [hreverse, hanswer]
    decide +kernel
  · rw [hreverse, hanswer]
    decide +kernel

end Answer

end AdapterRegistry
end FixtureFactory
