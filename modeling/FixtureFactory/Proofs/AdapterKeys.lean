import FixtureFactory.Proofs.AdapterMap
import FixtureFactory.Proofs.TypeReading

/-!
# Keys of adapters

An adapter is kept under the text of the type that it supplies, and it takes the place of whatever
stood there before.  Whether it replaces the right one is a question about texts: do two types that
are not equal have one text?  They may.  A path is an arbitrary text, so a path such as `Vec<u8>`
has the text of a path with an argument, and `[]` with two arguments has that of a slice of the
first.  Where no path in a type can be taken for what stands around it, no two types share a key.

## The argument

A text is read back in two steps.  `WrittenType.eq_of_text_eq` leads from the text to the tree of
the written type; it carries the induction over the brackets.  What is left is that the tree leads
back to the type reference: it has an option where the reference has its flag, since paths are not
taken for options, and a slice where the reference has the reserved path.

* `TypeRef.IsPlainThroughout`: no path in a type can be taken for what stands around it.
* `TypeRef.isLegible_toWritten`: the text of such a type can be read.
* `TypeRef.eq_of_toWritten_eq`: such a type is determined by the tree that it stands for.
* `AdapterRegistry.key_eq_iff_eq`: so it is determined by its key, and an adapter replaces another
  one exactly if both supply one type.
-/

namespace FixtureFactory
namespace TypeRef

/-! ## Types without ambiguous paths -/

mutual

/-- Whether every path in a type is plain, and is that of slices only where it has one argument. -/
def IsPlainThroughout : TypeRef → Prop
  | ⟨path, args, nullable⟩ => IsPlain ⟨path, args, nullable⟩ ∧ AllPlainThroughout args

/-- Whether that holds of some types. -/
def AllPlainThroughout : List TypeRef → Prop
  | [] => True
  | t :: ts => t.IsPlainThroughout ∧ AllPlainThroughout ts

end

mutual

/-- The paths are looked at one by one. -/
instance decidableIsPlainThroughout : (t : TypeRef) → Decidable t.IsPlainThroughout
  | ⟨path, args, nullable⟩ =>
      haveI := decidableAllPlainThroughout args
      inferInstanceAs (Decidable (IsPlain ⟨path, args, nullable⟩ ∧ AllPlainThroughout args))

/-- So are those of some types. -/
instance decidableAllPlainThroughout : (ts : List TypeRef) → Decidable (AllPlainThroughout ts)
  | [] => inferInstanceAs (Decidable True)
  | t :: ts =>
      haveI := decidableIsPlainThroughout t
      haveI := decidableAllPlainThroughout ts
      inferInstanceAs (Decidable (t.IsPlainThroughout ∧ AllPlainThroughout ts))

end

/-- What a plain type stands for is a slice of its one argument, or a clear path that is no option.
-/
theorem IsPlain.writtenPath_cases {path : String} {args : List TypeRef} {nullable : Bool}
    (h : IsPlain ⟨path, args, nullable⟩) :
    (∃ element, path = slicePath ∧ args = [element] ∧
      writtenPath path (toWrittenAll args) = .slice element.toWritten) ∨
    (path ≠ slicePath ∧ path ≠ "Option" ∧ IsClear path ∧
      writtenPath path (toWrittenAll args) = .path path [] (toWrittenAll args)) := by
  obtain ⟨hpath, hcount⟩ := h
  by_cases hslice : path = slicePath
  · obtain ⟨element, hargs⟩ := List.length_eq_one_iff.mp (hcount hslice)
    have hargs : args = [element] := hargs
    refine Or.inl ⟨element, hslice, hargs, ?_⟩
    rw [hargs, hslice]
    rfl
  · obtain ⟨hoption, hclear⟩ := hpath.resolve_left hslice
    refine Or.inr ⟨hslice, hoption, hclear, ?_⟩
    have hother : (path == slicePath) = false := beq_false_of_ne hslice
    rcases args with _ | ⟨t, _ | ⟨t', ts⟩⟩
    · rfl
    · simp [toWrittenAll, writtenPath, hother]
    · rfl

mutual

/-- **The text of a type without ambiguous paths can be read.** -/
theorem isLegible_toWritten : ∀ {t : TypeRef}, t.IsPlainThroughout → t.toWritten.IsLegible
  | ⟨path, args, nullable⟩, h => by
      obtain ⟨hplain, hargs⟩ := h
      have hlegible : WrittenType.AllLegible (toWrittenAll args) := allLegible_toWrittenAll hargs
      have hpath : (writtenPath path (toWrittenAll args)).IsLegible := by
        rcases hplain.writtenPath_cases with ⟨element, -, rfl, hform⟩ | ⟨-, hoption, hclear, hform⟩
        · rw [hform]
          exact hlegible.1
        · rw [hform]
          exact ⟨hclear, rfl, fun hname => absurd hname hoption, hlegible⟩
      rw [toWritten]
      cases nullable with
      | false => exact hpath
      | true => exact hpath

theorem allLegible_toWrittenAll : ∀ {ts : List TypeRef}, AllPlainThroughout ts →
    WrittenType.AllLegible (toWrittenAll ts)
  | [], _ => trivial
  | _ :: _, h => ⟨isLegible_toWritten h.1, allLegible_toWrittenAll h.2⟩

end

/-- **The option layer of a type shows in what it stands for**, since no path is taken for an
option. -/
theorem withLayer_inj {nullable nullable' : Bool} {w w' : WrittenType} (hw : w.isOption = false)
    (hw' : w'.isOption = false) (h : withLayer nullable w = withLayer nullable' w') :
    nullable = nullable' ∧ w = w' := by
  have hlayer : ∀ (nullable : Bool) {w : WrittenType}, w.isOption = false →
      (withLayer nullable w).isOption = nullable := by
    intro nullable w hw
    cases nullable with
    | false => exact hw
    | true => rfl
  have hnullable : nullable = nullable' := by
    rw [← hlayer nullable hw, h, hlayer nullable' hw']
  subst hnullable
  cases nullable with
  | false => exact ⟨rfl, h⟩
  | true => exact ⟨rfl, WrittenType.option.inj h⟩

mutual

/-- **A type without ambiguous paths is determined by what it stands for.** -/
theorem eq_of_toWritten_eq : ∀ {t u : TypeRef}, t.IsPlainThroughout → u.IsPlainThroughout →
    t.toWritten = u.toWritten → t = u
  | ⟨path, args, nullable⟩, ⟨path', args', nullable'⟩, ht, hu, h => by
      obtain ⟨hplain, hargs⟩ := ht
      obtain ⟨hplain', hargs'⟩ := hu
      rw [toWritten, toWritten] at h
      obtain ⟨rfl, hpaths⟩ :=
        withLayer_inj (isOption_writtenPath _ _) (isOption_writtenPath _ _) h
      have hboth : path = path' ∧ toWrittenAll args = toWrittenAll args' := by
        rcases hplain.writtenPath_cases with ⟨element, rfl, rfl, hform⟩ | ⟨-, -, -, hform⟩ <;>
        rcases hplain'.writtenPath_cases with ⟨element', rfl, rfl, hform'⟩ | ⟨-, -, -, hform'⟩ <;>
        rw [hform, hform'] at hpaths
        · have helement := WrittenType.slice.inj hpaths
          simp [toWrittenAll, helement]
        · cases hpaths
        · cases hpaths
        · obtain ⟨hpath, -, hall⟩ := WrittenType.path.inj hpaths
          exact ⟨hpath, hall⟩
      obtain ⟨rfl, hall⟩ := hboth
      rw [eq_of_toWrittenAll_eq hargs hargs' hall]

theorem eq_of_toWrittenAll_eq : ∀ {ts us : List TypeRef}, AllPlainThroughout ts →
    AllPlainThroughout us → toWrittenAll ts = toWrittenAll us → ts = us
  | [], [], _, _, _ => rfl
  | [], _ :: _, _, _, h => nomatch h
  | _ :: _, [], _, _, h => nomatch h
  | _ :: _, _ :: _, hts, hus, h => by
      rw [toWrittenAll, toWrittenAll] at h
      obtain ⟨hhead, htail⟩ := List.cons.inj h
      rw [eq_of_toWritten_eq hts.1 hus.1 hhead, eq_of_toWrittenAll_eq hts.2 hus.2 htail]

end

/-- **Types of one text are equal**, if no path in them is ambiguous. -/
theorem eq_of_render_eq {t u : TypeRef} (ht : t.IsPlainThroughout) (hu : u.IsPlainThroughout)
    (h : t.render = u.render) : t = u :=
  eq_of_toWritten_eq ht hu
    (toWritten_eq_of_render_eq (isLegible_toWritten ht) (isLegible_toWritten hu) h)

end TypeRef

/-! ## Adapters -/

namespace AdapterRegistry

open TypeRef (IsPlainThroughout)

/-- **No two types share a key.**  Types in which no path is ambiguous have one text exactly if they
are equal.  So, whatever has been registered before, an adapter takes the place of the one before it
exactly if both supply one type.

The condition on paths cannot be left out.  A path `Vec<u8>` has the text of `Vec` with an argument,
and `[]` with two arguments has that of a slice.  Nothing is asked of the adapters that have been
registered before. -/
theorem key_eq_iff_eq {t u : TypeRef} (ht : t.IsPlainThroughout) (hu : u.IsPlainThroughout) :
    (t.render = u.render ↔ t = u) ∧
    ∀ (as : List Adapter) (a b : Adapter), a.target = t → b.target = u →
      (((ofList (as ++ [a])).register b).1 = some a ↔ t = u) := by
  have hkeys : t.render = u.render ↔ t = u :=
    ⟨TypeRef.eq_of_render_eq ht hu, fun h => congrArg TypeRef.render h⟩
  refine ⟨hkeys, ?_⟩
  rintro as a b rfl rfl
  have hregister : ((ofList (as ++ [a])).register b).1 =
      (ofList (as ++ [a])).byType.find? b.target.render := rfl
  rw [hregister, ← hkeys]
  constructor
  · intro h
    exact (of_find?_byType h).2
  · intro h
    rw [find?_byType_ofList, List.reverse_concat, List.find?_cons, beq_iff_eq.mpr h]

/-- A list of options and an option of a list have two keys, so an adapter for the one does not
replace that for the other. -/
theorem key_ne_of_options :
    let bytes : TypeRef := .slice (TypeRef.named "u8").optional
    let options : TypeRef := .withArgs "Pair" [bytes, .named "crate::Id"]
    let option : TypeRef :=
      (TypeRef.withArgs "Pair" [.slice (.named "u8"), .named "crate::Id"]).optional
    options.IsPlainThroughout ∧ option.IsPlainThroughout ∧
    options.render = "Pair<[Option<u8>], crate::Id>" ∧
    option.render = "Option<Pair<[u8], crate::Id>>" ∧ options.render ≠ option.render ∧
    ((ofList [⟨"crate", "options", options, default⟩]).register
      ⟨"crate", "option", option, default⟩).1 ≠ some ⟨"crate", "options", options, default⟩ := by
  intro bytes options option
  have hoptions : options.IsPlainThroughout := by decide +kernel
  have hoption : option.IsPlainThroughout := by decide +kernel
  have hne : options ≠ option := by
    intro h
    have hlayer := congrArg TypeRef.nullable h
    cases hlayer
  obtain ⟨hkeys, hregister⟩ := key_eq_iff_eq hoptions hoption
  refine ⟨hoptions, hoption, by decide +kernel, by decide +kernel, mt hkeys.mp hne, ?_⟩
  exact mt (hregister [] ⟨"crate", "options", options, default⟩
    ⟨"crate", "option", option, default⟩ rfl rfl).mp hne

end AdapterRegistry
end FixtureFactory
