import FixtureFactory.Proofs.TypeTexts
import FixtureFactory.Registry.Adapters
import Mathlib.Data.List.Induction

/-!
# Looking adapters up

A look-up asks up to three questions, and each of them could hand out an adapter of the wrong option
layer: the first two go by text, and the third by simple name alone.  This file says that none of
them does, as long as the paths are plain.

* `AdapterRegistry.find?_byType_ofList`: under a text stands the latest adapter of that text.
* `AdapterRegistry.nullable_of_find?`: an adapter that supplies an option is found only for an
  option.
* `AdapterRegistry.find?_required_of_find?`: an adapter that does not supply an option is found for
  the type within an option too.
* `AdapterRegistry.find?_optional`: where no adapter supplies an option, a look-up does not see the
  option layer.
-/

namespace FixtureFactory
namespace AdapterRegistry

/-! ## The registry of a list of adapters -/

/-- The registry of a list of adapters, registered from the left.  Registering can build no other
registries. -/
def ofList (as : List Adapter) : AdapterRegistry := as.foldl insert empty

theorem ofList_concat (as : List Adapter) (a : Adapter) :
    ofList (as ++ [a]) = (ofList as).insert a := by
  rw [ofList, ofList, List.foldl_concat]

/-- **Under a text stands the latest adapter whose target has that text.** -/
theorem find?_byType_ofList (as : List Adapter) (key : String) :
    (ofList as).byType.find? key = as.reverse.find? fun a => a.target.render == key := by
  induction as using List.reverseRecOn with
  | nil => rfl
  | append_singleton as a ih =>
      rw [ofList_concat, List.reverse_concat, List.find?_cons, insert]
      by_cases hkey : a.target.render = key
      · rw [hkey, SortedMap.find?_insert_self, beq_self_eq_true]
      · rw [SortedMap.find?_insert_of_ne fun h => hkey h.symm, ih, beq_false_of_ne hkey]

theorem of_find?_byType {as : List Adapter} {key : String} {a : Adapter}
    (h : (ofList as).byType.find? key = some a) : a ∈ as ∧ a.target.render = key := by
  rw [find?_byType_ofList] at h
  have hkey := List.find?_some h
  exact ⟨List.mem_reverse.mp (List.mem_of_find?_eq_some h), beq_iff_eq.mp hkey⟩

/-! ## The three questions -/

section Questions

variable {r : AdapterRegistry} {t : TypeRef} {a : Adapter}

theorem find?_eq_or (r : AdapterRegistry) (t : TypeRef) :
    r.find? t = (r.byType.find? t.render).or ((r.byType.find? t.renderRequired).or
      (if !t.args.isEmpty || isQualified t.path then none else r.findBySimpleName? t)) := by
  rw [find?]
  cases r.byType.find? t.render with
  | some a => rfl
  | none => cases r.byType.find? t.renderRequired <;> rfl

/-- **What is found by simple name** is the adapter of the only text of that name, and it supplies
an option only where one is asked for. -/
theorem findBySimpleName?_eq_some_iff :
    r.findBySimpleName? t = some a ↔
      ∃ key, r.keysOf t.simpleName = [key] ∧ r.byType.find? key = some a ∧
        (a.target.nullable = true → t.nullable = true) := by
  rw [findBySimpleName?]
  rcases r.keysOf t.simpleName with _ | ⟨key, _ | ⟨other, keys⟩⟩
  · simp
  · have hfilter : (!a.target.nullable || t.nullable) = true ↔
        (a.target.nullable = true → t.nullable = true) := by
      cases a.target.nullable <;> simp
    simp [Option.filter_eq_some_iff, hfilter]
  · simp

/-- **Where an adapter that is found comes from.** -/
theorem find?_cases (h : r.find? t = some a) :
    r.byType.find? t.render = some a ∨
    r.byType.find? t.renderRequired = some a ∨
    (r.byType.find? t.renderRequired = none ∧
      (!t.args.isEmpty || isQualified t.path) = false ∧ r.findBySimpleName? t = some a) := by
  rw [find?_eq_or, Option.or_eq_some_iff, Option.or_eq_some_iff] at h
  rcases h with h | ⟨-, h | ⟨hrequired, h⟩⟩
  · exact Or.inl h
  · exact Or.inr (Or.inl h)
  · refine Or.inr (Or.inr ⟨hrequired, ?_⟩)
    split at h
    · cases h
    · rename_i hbare
      exact ⟨Bool.eq_false_iff.mpr hbare, h⟩

end Questions

theorem mem_of_find? {as : List Adapter} {t : TypeRef} {a : Adapter}
    (h : (ofList as).find? t = some a) : a ∈ as := by
  rcases find?_cases h with h | h | ⟨-, -, h⟩
  · exact (of_find?_byType h).1
  · exact (of_find?_byType h).1
  · obtain ⟨key, -, hkey, -⟩ := findBySimpleName?_eq_some_iff.mp h
    exact (of_find?_byType hkey).1

/-! ## Option layers -/

section Layers

variable {as : List Adapter} {t : TypeRef} {a : Adapter}

theorem nullable_eq_of_find?_byType (has : ∀ a ∈ as, IsPlainPath a.target.path)
    (ht : IsPlainPath t.path) (h : (ofList as).byType.find? t.render = some a) :
    a.target.nullable = t.nullable := by
  obtain ⟨hmem, hkey⟩ := of_find?_byType h
  exact TypeRef.nullable_eq_of_render_eq (has a hmem) ht hkey

theorem nullable_eq_false_of_find?_byType (has : ∀ a ∈ as, IsPlainPath a.target.path)
    (ht : IsPlainPath t.path) (h : (ofList as).byType.find? t.renderRequired = some a) :
    a.target.nullable = false :=
  -- the text is that of the required type
  nullable_eq_of_find?_byType (t := t.required) has ht h

/-- **An adapter that supplies an option is found only for an option.** -/
theorem nullable_of_find? (has : ∀ a ∈ as, IsPlainPath a.target.path)
    (ht : IsPlainPath t.path) (h : (ofList as).find? t = some a) (ha : a.target.nullable = true) :
    t.nullable = true := by
  rcases find?_cases h with h | h | ⟨-, -, h⟩
  · rw [← nullable_eq_of_find?_byType has ht h, ha]
  · cases (nullable_eq_false_of_find?_byType has ht h).symm.trans ha
  · obtain ⟨key, -, -, hlayer⟩ := findBySimpleName?_eq_some_iff.mp h
    exact hlayer ha

/-- **An adapter that does not supply an option** is found for the type within an option as well. -/
theorem find?_required_of_find? (has : ∀ a ∈ as, IsPlainPath a.target.path)
    (ht : IsPlainPath t.path) (h : (ofList as).find? t = some a) (ha : a.target.nullable = false) :
    (ofList as).find? t.required = some a := by
  cases hnullable : t.nullable with
  | false =>
      rw [TypeRef.required_eq_self hnullable, h]
  | true =>
      rw [find?_eq_or, TypeRef.render_of_required rfl, TypeRef.renderRequired_required]
      rcases find?_cases h with h | h | ⟨hnone, hbare, h⟩
      · cases (ha.symm.trans (nullable_eq_of_find?_byType has ht h)).trans hnullable
      · rw [h]
        rfl
      · obtain ⟨key, hkeys, hkey, -⟩ := findBySimpleName?_eq_some_iff.mp h
        have hfound : (ofList as).findBySimpleName? t.required = some a :=
          findBySimpleName?_eq_some_iff.mpr
            ⟨key, hkeys, hkey, fun htrue => by cases ha.symm.trans htrue⟩
        have hbare : (!t.required.args.isEmpty || isQualified t.required.path) = false := hbare
        rw [hnone, hbare, hfound]
        rfl

/-- **Where no adapter supplies an option, a look-up does not see the option layer.** -/
theorem find?_optional (has : ∀ a ∈ as, IsPlainPath a.target.path ∧ a.target.nullable = false)
    (ht : IsPlainPath t.path) (hrequired : t.nullable = false) :
    (ofList as).find? t.optional = (ofList as).find? t := by
  have hexact : (ofList as).byType.find? t.optional.render = none := by
    cases h : (ofList as).byType.find? t.optional.render with
    | none => rfl
    | some a =>
        have ha := nullable_eq_of_find?_byType (t := t.optional) (fun a ha => (has a ha).1) ht h
        cases ha.symm.trans (has a (of_find?_byType h).1).2
  have hsimple : (ofList as).findBySimpleName? t.optional = (ofList as).findBySimpleName? t := by
    ext a
    rw [findBySimpleName?_eq_some_iff, findBySimpleName?_eq_some_iff]
    refine exists_congr fun key => and_congr_right fun _ => and_congr_right fun hkey => ?_
    rw [(has a (of_find?_byType hkey).1).2]
    exact ⟨fun _ h => absurd h Bool.false_ne_true, fun _ h => absurd h Bool.false_ne_true⟩
  rw [find?_eq_or, find?_eq_or, hexact, hsimple, TypeRef.render_of_required hrequired,
    TypeRef.renderRequired_optional]
  cases (ofList as).byType.find? t.renderRequired <;> rfl

end Layers

end AdapterRegistry
end FixtureFactory
