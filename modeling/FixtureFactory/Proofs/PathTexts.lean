import FixtureFactory.Text.Path
import Mathlib.Data.List.Basic

/-!
# Texts of paths

A path is kept as a list of segments while it is resolved and as a text everywhere else.  This file
says what goes from the one to the other and back.

* `joinPath_append`: the text of two paths one after the other.
* `joinPath_pathSegments`: the segments of a text, joined, are that text.
* `pathSegments_joinPath`: segments without colons are what the text of them splits into.
-/

namespace FixtureFactory

@[simp] theorem joinPath_singleton (segment : String) : joinPath [segment] = segment :=
  String.intercalate_singleton

theorem joinPath_cons_cons (segment next : String) (rest : List String) :
    joinPath (segment :: next :: rest) = segment ++ "::" ++ joinPath (next :: rest) :=
  String.intercalate_cons_cons

/-- **The text of two paths one after the other** has a separator between theirs. -/
theorem joinPath_append {path below : List String} (hpath : path ≠ []) (hbelow : below ≠ []) :
    joinPath (path ++ below) = joinPath path ++ "::" ++ joinPath below :=
  String.intercalate_append_of_ne_nil hpath hbelow

theorem joinPath_concat {path : List String} (hpath : path ≠ []) (name : String) :
    joinPath (path ++ [name]) = joinPath path ++ "::" ++ name := by
  rw [joinPath_append hpath (List.cons_ne_nil _ _), joinPath_singleton]

theorem toList_joinPath_prefix (path below : List String) :
    (joinPath path).toList <+: (joinPath (path ++ below)).toList := by
  by_cases hpath : path = []
  · rw [hpath]
    exact List.nil_prefix
  · by_cases hbelow : below = []
    · simp [hbelow]
    · rw [joinPath_append hpath hbelow, String.append_assoc, String.toList_append]
      exact List.prefix_append _ _

/-! ## Splitting -/

namespace Text

theorem splitSegments_ne_nil (cs : List Char) : splitSegments cs ≠ [] := by
  fun_induction splitSegments cs <;> simp

/-- The characters of a segment are those of the text. -/
theorem mem_of_mem_splitSegments {cs piece : List Char} (h : piece ∈ splitSegments cs) :
    ∀ c ∈ piece, c ∈ cs := by
  revert piece
  fun_induction splitSegments cs with
  | case1 =>
      intro piece hpiece c hc
      rwa [List.mem_singleton.mp hpiece] at hc
  | case2 rest ih =>
      intro piece hpiece c hc
      rcases List.mem_cons.mp hpiece with rfl | hpiece
      · cases hc
      · exact List.mem_cons_of_mem _ (List.mem_cons_of_mem _ (ih hpiece c hc))
  | case3 first rest _ hnil ih => exact absurd hnil (splitSegments_ne_nil rest)
  | case4 first rest _ segment segments hsplit ih =>
      rw [hsplit] at ih
      intro piece hpiece c hc
      rcases List.mem_cons.mp hpiece with rfl | hpiece
      · rcases List.mem_cons.mp hc with rfl | hc
        · exact List.mem_cons_self
        · exact List.mem_cons_of_mem _ (ih List.mem_cons_self c hc)
      · exact List.mem_cons_of_mem _ (ih (List.mem_cons_of_mem _ hpiece) c hc)

theorem splitSegments_cons {c : Char} {cs segment : List Char} {segments : List (List Char)}
    (hc : c ≠ ':') (h : splitSegments cs = segment :: segments) :
    splitSegments (c :: cs) = (c :: segment) :: segments := by
  rw [splitSegments, h]
  intro rest hcolon
  exact absurd hcolon hc

/-- **A segment without colons** is split off at the separator after it. -/
theorem splitSegments_append {segment : List Char} (h : ':' ∉ segment) (rest : List Char) :
    splitSegments (segment ++ ':' :: ':' :: rest) = segment :: splitSegments rest := by
  induction segment with
  | nil => rw [List.nil_append, splitSegments]
  | cons c segment ih =>
      obtain ⟨hc, hsegment⟩ := List.ne_and_not_mem_of_not_mem_cons h
      exact splitSegments_cons hc.symm (ih hsegment)

theorem splitSegments_of_notMem {segment : List Char} (h : ':' ∉ segment) :
    splitSegments segment = [segment] := by
  induction segment with
  | nil => rfl
  | cons c segment ih =>
      obtain ⟨hc, hsegment⟩ := List.ne_and_not_mem_of_not_mem_cons h
      exact splitSegments_cons hc.symm (ih hsegment)

/-- The segments of a text with a separator between every two of them are the text. -/
theorem intercalate_splitSegments (cs : List Char) :
    [':', ':'].intercalate (splitSegments cs) = cs := by
  fun_induction splitSegments cs with
  | case1 => rfl
  | case2 rest ih =>
      obtain ⟨segment, segments, hsplit⟩ :=
        List.exists_cons_of_ne_nil (splitSegments_ne_nil rest)
      rw [hsplit] at ih ⊢
      rw [List.intercalate_cons_cons, ih]
      rfl
  | case3 c rest hcolon hnil ih => exact absurd hnil (splitSegments_ne_nil rest)
  | case4 c rest hcolon segment segments hsplit ih =>
      rw [hsplit] at ih
      cases segments with
      | nil =>
          rw [List.intercalate_singleton] at ih ⊢
          rw [ih]
      | cons segment' segments =>
          rw [List.intercalate_cons_cons] at ih ⊢
          rw [List.cons_append, List.cons_append, ih]

end Text

/-- **The segments of a text, joined, are that text.** -/
@[simp] theorem joinPath_pathSegments (text : String) : joinPath (pathSegments text) = text := by
  refine String.toList_inj.mp ?_
  have hchars : ((pathSegments text).map String.toList) = Text.splitSegments text.toList := by
    rw [pathSegments, List.map_map]
    exact (List.map_congr_left fun cs _ => String.toList_ofList).trans (List.map_id _)
  rw [joinPath, String.toList_intercalate, hchars]
  exact Text.intercalate_splitSegments text.toList

theorem pathSegments_ne_nil (text : String) : pathSegments text ≠ [] := by
  rw [pathSegments, ne_eq, List.map_eq_nil_iff]
  exact Text.splitSegments_ne_nil _

/-- **Segments without colons** are what the text of them splits into. -/
theorem pathSegments_joinPath {path : List String} (hpath : path ≠ [])
    (h : ∀ segment ∈ path, ':' ∉ segment.toList) : pathSegments (joinPath path) = path := by
  induction path with
  | nil => exact absurd rfl hpath
  | cons segment path ih =>
      have hsegment : ':' ∉ segment.toList := h segment List.mem_cons_self
      cases path with
      | nil =>
          rw [joinPath_singleton, pathSegments, Text.splitSegments_of_notMem hsegment]
          simp
      | cons next path =>
          have htail := ih (List.cons_ne_nil _ _) fun s hs => h s (List.mem_cons_of_mem _ hs)
          have hchars : (joinPath (segment :: next :: path)).toList =
              segment.toList ++ ':' :: ':' :: (joinPath (next :: path)).toList := by
            rw [joinPath_cons_cons, String.toList_append, String.toList_append, List.append_assoc]
            rfl
          rw [pathSegments, hchars, Text.splitSegments_append hsegment, List.map_cons,
            String.ofList_toList]
          rw [pathSegments] at htail
          rw [htail]

end FixtureFactory
