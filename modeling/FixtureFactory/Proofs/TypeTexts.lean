import FixtureFactory.TypeRef
import Mathlib.Data.List.Basic

/-!
# Texts of types

Adapters are kept under the texts of the types that they supply, so a look-up cannot tell apart what
has one text.  A path is an arbitrary text itself, and a path such as `Option<u8>` has the text of
an option without being one.  This file names the paths that cause no such confusion, and says what
the text of a type with a plain path shows.

* `IsPlainPath`: a path without the characters that the text of a type puts between paths and other
  than the name of the option; the reserved path of slices is allowed.  Only the outermost path of a
  type needs to be one, whatever the paths of its arguments are.
* `TypeRef.renderRequired_ne_optionText`: no such type, without its option layer, has the text of an
  option.
* `TypeRef.nullable_eq_of_render_eq`: so the text of such a type shows whether it is an option, and
  the text of the type within.
-/

namespace FixtureFactory

/-- The characters that the text of a type puts around and between paths. -/
def TypeRef.delimiters : List Char := ['<', '>', ',', '[', ']']

/-- A path that cannot be taken for the text around it. -/
def IsPlainPath (path : String) : Prop :=
  path = TypeRef.slicePath ∨ path ≠ "Option" ∧ ∀ c ∈ path.toList, c ∉ TypeRef.delimiters

/-- The characters of the path are looked at one by one. -/
instance (path : String) : Decidable (IsPlainPath path) :=
  haveI : Decidable (∀ c ∈ path.toList, c ∉ TypeRef.delimiters) := List.decidableBAll _ _
  inferInstanceAs (Decidable (_ ∨ _ ∧ _))

/-! ## Texts in brackets -/

theorem toList_bracketed (head inner : String) :
    (head ++ "<" ++ inner ++ ">").toList = head.toList ++ '<' :: (inner.toList ++ ['>']) := by
  simp only [String.toList_append, List.append_assoc]
  rfl

/-- **What stands before the first opening bracket** is determined by the whole. -/
theorem eq_of_bracketed_eq {head head' inner inner' : String} (h : '<' ∉ head.toList)
    (h' : '<' ∉ head'.toList) (heq : head ++ "<" ++ inner ++ ">" = head' ++ "<" ++ inner' ++ ">") :
    head = head' := by
  have htake : ∀ {cs : List Char}, '<' ∉ cs → ∀ rest : List Char,
      (cs ++ '<' :: rest).takeWhile (· != '<') = cs := by
    intro cs hcs rest
    have hbefore : ∀ c ∈ cs, (c != '<') = true := by
      intro c hc
      exact bne_iff_ne.mpr fun hopen => hcs (hopen ▸ hc)
    rw [List.takeWhile_append_of_pos hbefore, List.takeWhile_cons_of_neg (by decide),
      List.append_nil]
  refine String.toList_inj.mp ?_
  rw [← htake h (inner.toList ++ ['>']), ← toList_bracketed, heq, toList_bracketed, htake h']

namespace TypeRef

variable {t u : TypeRef}

theorem required_eq_self (h : t.nullable = false) : t.required = t := by
  obtain ⟨path, args, nullable⟩ := t
  rw [required, ← h]

theorem notMem_toList_of_isPlainPath {path : String} (h : IsPlainPath path)
    (hslice : path ≠ slicePath) {c : Char} (hc : c ∈ delimiters) : c ∉ path.toList :=
  fun hmem => (h.resolve_left hslice).2 c hmem hc

/-- **No type with a plain path has the text of an option** once its option layer is left out. -/
theorem renderRequired_ne_optionText (h : IsPlainPath t.path) (inner : String) :
    t.renderRequired ≠ optionText true inner := by
  intro htext
  have htext : t.renderRequired = "Option" ++ "<" ++ inner ++ ">" := htext
  rw [renderRequired, plainText] at htext
  by_cases hslice : t.path = slicePath
  · -- the text of a slice opens with a bracket of the other kind
    rw [if_pos (beq_iff_eq.mpr hslice)] at htext
    have hchars := congrArg String.toList htext
    simp at hchars
  · have hopen : '<' ∉ t.path.toList := notMem_toList_of_isPlainPath h hslice (by decide)
    rw [if_neg (mt beq_iff_eq.mp hslice)] at htext
    split at htext
    · -- the path is the whole text, and that holds a bracket
      refine hopen ?_
      rw [htext, toList_bracketed]
      exact List.mem_append_right _ List.mem_cons_self
    · exact (h.resolve_left hslice).1 (eq_of_bracketed_eq hopen (by decide) htext)

/-- **The text of a type shows its option layer.** -/
theorem nullable_eq_of_render_eq (ht : IsPlainPath t.path) (hu : IsPlainPath u.path)
    (h : t.render = u.render) : t.nullable = u.nullable := by
  rw [render_eq, render_eq] at h
  cases htn : t.nullable with
  | false =>
      cases hun : u.nullable with
      | false => rfl
      | true =>
          rw [htn, hun] at h
          exact absurd h (renderRequired_ne_optionText ht _)
  | true =>
      cases hun : u.nullable with
      | false =>
          rw [htn, hun] at h
          exact absurd h.symm (renderRequired_ne_optionText hu _)
      | true => rfl

theorem render_of_required (h : t.nullable = false) : t.render = t.renderRequired := by
  rw [render_eq, h, optionText, if_neg Bool.false_ne_true]

end TypeRef
end FixtureFactory
