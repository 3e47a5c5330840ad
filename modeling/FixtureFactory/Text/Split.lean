/-!
# Splitting texts

A text cut at every character of some kind.  There is one piece more than there are cuts, so the
pieces determine the text when the separator is a single character.
-/

namespace FixtureFactory
namespace Text

/-- The pieces between the characters of some kind, empty ones included. -/
def splitWhere (separates : Char → Bool) : List Char → List (List Char)
  | [] => [[]]
  | c :: rest =>
      if separates c then [] :: splitWhere separates rest
      else match splitWhere separates rest with
        | [] => [[c]]
        | piece :: pieces => (c :: piece) :: pieces

theorem splitWhere_ne_nil (separates : Char → Bool) (cs : List Char) :
    splitWhere separates cs ≠ [] := by
  induction cs with
  | nil => simp [splitWhere]
  | cons c rest ih =>
      simp only [splitWhere]
      split
      · simp
      · split <;> simp

theorem splitWhere_of_forall {separates : Char → Bool} {cs : List Char}
    (h : ∀ c ∈ cs, separates c = false) : splitWhere separates cs = [cs] := by
  induction cs with
  | nil => rfl
  | cons c rest ih =>
      obtain ⟨hc, hrest⟩ := List.forall_mem_cons.mp h
      simp [splitWhere, hc, ih hrest]

/-- The pieces of a text are those before a separator and those behind it. -/
theorem splitWhere_append_cons {separates : Char → Bool} {separator : Char}
    (h : separates separator = true) (before after : List Char) :
    splitWhere separates (before ++ separator :: after) =
      splitWhere separates before ++ splitWhere separates after := by
  induction before with
  | nil => simp [splitWhere, h]
  | cons c before ih =>
      rw [List.cons_append, splitWhere, splitWhere]
      cases hc : separates c with
      | true => simp [ih]
      | false =>
          cases hbefore : splitWhere separates before with
          | nil => exact absurd hbefore (splitWhere_ne_nil separates before)
          | cons piece pieces => simp [ih, hbefore]

/-- **Pieces without separators** are what the text of them splits into. -/
theorem splitWhere_intercalate {separates : Char → Bool} {separator : Char}
    (h : separates separator = true) {pieces : List (List Char)} (hne : pieces ≠ [])
    (hpieces : ∀ piece ∈ pieces, ∀ c ∈ piece, separates c = false) :
    splitWhere separates ([separator].intercalate pieces) = pieces := by
  induction pieces with
  | nil => exact absurd rfl hne
  | cons piece pieces ih =>
      obtain ⟨hpiece, hrest⟩ := List.forall_mem_cons.mp hpieces
      cases pieces with
      | nil =>
          rw [List.intercalate_singleton]
          exact splitWhere_of_forall hpiece
      | cons next pieces =>
          rw [List.intercalate_cons_cons, List.append_assoc, List.singleton_append,
            splitWhere_append_cons h, splitWhere_of_forall hpiece, ih (List.cons_ne_nil _ _) hrest,
            List.singleton_append]

theorem splitWhere_toList_intercalate {separates : Char → Bool} {separator : String} {c : Char}
    (hseparator : separator.toList = [c]) (h : separates c = true) {names : List String}
    (hne : names ≠ []) (hnames : ∀ name ∈ names, ∀ x ∈ name.toList, separates x = false) :
    splitWhere separates (separator.intercalate names).toList = names.map String.toList := by
  rw [String.toList_intercalate, hseparator]
  exact splitWhere_intercalate h (mt List.map_eq_nil_iff.mp hne) (List.forall_mem_map.mpr hnames)

theorem map_ofList_map_toList (texts : List String) :
    (texts.map String.toList).map String.ofList = texts := by
  rw [List.map_map]
  exact (List.map_congr_left fun text _ => String.ofList_toList).trans (List.map_id _)

/-- No piece holds a separator. -/
theorem separates_of_mem_splitWhere {separates : Char → Bool} {cs piece : List Char}
    (h : piece ∈ splitWhere separates cs) : ∀ c ∈ piece, separates c = false := by
  induction cs generalizing piece with
  | nil => simp_all [splitWhere]
  | cons c rest ih =>
      simp only [splitWhere] at h
      split at h
      · rcases List.mem_cons.1 h with rfl | h
        · simp
        · exact ih h
      · split at h
        next heq => exact absurd heq (splitWhere_ne_nil separates rest)
        next first pieces heq =>
          rcases List.mem_cons.1 h with rfl | h
          · intro x hx
            rcases List.mem_cons.1 hx with rfl | hx
            · simp_all
            · exact ih (by simp [heq]) x hx
          · exact ih (by simp [heq, h])

/-- The characters of a piece are those of the text. -/
theorem mem_of_mem_splitWhere {separates : Char → Bool} {cs piece : List Char}
    (h : piece ∈ splitWhere separates cs) : ∀ c ∈ piece, c ∈ cs := by
  induction cs generalizing piece with
  | nil =>
      intro c hc
      rw [List.mem_singleton.mp h] at hc
      exact hc
  | cons first rest ih =>
      intro c hc
      rw [splitWhere] at h
      split at h
      · rcases List.mem_cons.mp h with rfl | h
        · cases hc
        · exact List.mem_cons_of_mem _ (ih h c hc)
      · split at h
        next heq => exact absurd heq (splitWhere_ne_nil separates rest)
        next front pieces heq =>
          rcases List.mem_cons.mp h with rfl | h
          · rcases List.mem_cons.mp hc with rfl | hc
            · exact List.mem_cons_self
            · exact List.mem_cons_of_mem _ (ih (heq ▸ List.mem_cons_self) c hc)
          · exact List.mem_cons_of_mem _ (ih (heq ▸ List.mem_cons_of_mem _ h) c hc)

/-- A character that separates nothing stands in one of the pieces. -/
theorem exists_mem_splitWhere {separates : Char → Bool} {cs : List Char} {x : Char} (hx : x ∈ cs)
    (h : separates x = false) : ∃ piece ∈ splitWhere separates cs, x ∈ piece := by
  induction cs with
  | nil => cases hx
  | cons c rest ih =>
      rw [splitWhere]
      split
      · next hc =>
          rcases List.mem_cons.mp hx with rfl | hx
          · rw [h] at hc
            cases hc
          · obtain ⟨piece, hpiece, hmem⟩ := ih hx
            exact ⟨piece, List.mem_cons_of_mem _ hpiece, hmem⟩
      · split
        next heq => exact absurd heq (splitWhere_ne_nil separates rest)
        next first pieces heq =>
          rw [heq] at ih
          rcases List.mem_cons.mp hx with rfl | hx
          · exact ⟨_, List.mem_cons_self, List.mem_cons_self⟩
          · obtain ⟨piece, hpiece, hmem⟩ := ih hx
            rcases List.mem_cons.mp hpiece with rfl | hpiece
            · exact ⟨_, List.mem_cons_self, List.mem_cons_of_mem _ hmem⟩
            · exact ⟨piece, List.mem_cons_of_mem _ hpiece, hmem⟩

end Text
end FixtureFactory
