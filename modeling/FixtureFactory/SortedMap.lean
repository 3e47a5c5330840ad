/-!
# Sorted maps

A map from texts to values, kept as a list of pairs in the order of the keys.  Insertion is one
pass that replaces the value of a key it meets, so the two look-up equations below need no
assumption that the list is sorted; that it stays sorted is a statement of its own.
-/

namespace FixtureFactory

/-- A map from texts to values, in the order of the keys. -/
abbrev SortedMap (α : Type) := List (String × α)

namespace SortedMap

variable {α : Type}

/-- Puts a value at a key, in place of the one that was there. -/
def insert (key : String) (value : α) : SortedMap α → SortedMap α
  | [] => [(key, value)]
  | (k, v) :: rest =>
      if key = k then (key, value) :: rest
      else if key < k then (key, value) :: (k, v) :: rest
      else (k, v) :: insert key value rest

/-- The value at a key. -/
def find? (key : String) : SortedMap α → Option α
  | [] => none
  | (k, v) :: rest => if key = k then some v else find? key rest

/-- The values, in the order of their keys. -/
def values (m : SortedMap α) : List α := List.map Prod.snd m

/-- Whether the keys go strictly upwards. -/
def Sorted (m : SortedMap α) : Prop := m.Pairwise fun a b => a.1 < b.1

@[simp] theorem find?_nil (key : String) : find? key ([] : SortedMap α) = none := rfl

@[simp] theorem find?_insert_self (key : String) (value : α) (m : SortedMap α) :
    find? key (insert key value m) = some value := by
  induction m with
  | nil => simp [insert, find?]
  | cons entry rest ih =>
      obtain ⟨k, v⟩ := entry
      simp only [insert]
      split
      · simp [find?]
      · split
        · simp [find?]
        · simp [find?, *]

theorem find?_insert_of_ne {key other : String} (h : other ≠ key) (value : α) (m : SortedMap α) :
    find? other (insert key value m) = find? other m := by
  induction m with
  | nil => simp [insert, find?, h]
  | cons entry rest ih =>
      obtain ⟨k, v⟩ := entry
      simp only [insert]
      split
      · subst_vars; simp [find?, h]
      · split
        · simp [find?, h]
        · simp [find?, ih]

/-- What is found in a map whose values have been changed, each with its key. -/
theorem find?_map {β : Type} (f : String → α → β) (key : String) (m : SortedMap α) :
    find? key (List.map (fun entry => (entry.1, f entry.1 entry.2)) m) =
      (find? key m).map (f key) := by
  induction m with
  | nil => rfl
  | cons entry m ih =>
      obtain ⟨other, value⟩ := entry
      rw [List.map_cons, find?, find?]
      by_cases hkey : key = other
      · rw [if_pos hkey, if_pos hkey, hkey]
        rfl
      · rw [if_neg hkey, if_neg hkey, ih]

/-- What a look-up finds is an entry. -/
theorem mem_of_find? {key : String} {value : α} {m : SortedMap α} (h : find? key m = some value) :
    (key, value) ∈ m := by
  induction m with
  | nil => cases h
  | cons entry rest ih =>
      obtain ⟨k, v⟩ := entry
      rw [find?] at h
      split at h
      · rename_i hkey
        rw [hkey, Option.some.inj h]
        exact List.mem_cons_self
      · exact List.mem_cons_of_mem _ (ih h)

/-- An entry after an insertion is the new one or an old one. -/
theorem mem_insert {key : String} {value : α} {m : SortedMap α} {entry : String × α}
    (h : entry ∈ insert key value m) : entry = (key, value) ∨ entry ∈ m := by
  induction m with
  | nil => exact Or.inl (List.mem_singleton.mp h)
  | cons head rest ih =>
      rw [insert] at h
      split at h
      · rcases List.mem_cons.mp h with h | h
        · exact Or.inl h
        · exact Or.inr (List.mem_cons_of_mem _ h)
      · split at h
        · exact List.mem_cons.mp h
        · rcases List.mem_cons.mp h with h | h
          · exact Or.inr (h ▸ List.mem_cons_self)
          · exact (ih h).imp_right (List.mem_cons_of_mem _)

end SortedMap
end FixtureFactory
