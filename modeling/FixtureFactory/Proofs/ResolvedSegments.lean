import FixtureFactory.Proofs.Resolution

/-!
# Segments of resolved paths

A resolution makes up no segments.  All that it puts into a path are the segments that were written,
those of the module that they are written in, those of imports, and those of declared types.  So if
all of these are of some kind, the segments of the result are of that kind, however far re-exports
are followed and whether or not the limit is reached.

Two kinds matter: segments without delimiters, so that the texts of types can be told apart, and
segments that are names, so that a result is absolute.  The induction is the same for both.

* `ScopeTable.IsMadeOf`: the imports and types of a table are made of segments of one kind.
* `ScopeTable.Keeps`: a resolution leads from segments of a kind to segments of that kind.
* `ScopeTable.IsMadeOf.keeps_absolute`: resolving a path does, in such a table.
-/

namespace FixtureFactory
namespace ScopeTable

variable {t : ScopeTable} {Q : String → Prop}

/-- **Tables of segments of one kind.**  A module is looked up by its text, so the text of a path of
such segments has to split into such segments. -/
structure IsMadeOf (t : ScopeTable) (Q : String → Prop) : Prop where
  joined : ∀ path : List String, path ≠ [] → (∀ segment ∈ path, Q segment) →
    ∀ segment ∈ pathSegments (joinPath path), Q segment
  imports : ∀ w ∈ t.imports, ∀ segment ∈ w.segments, Q segment
  types : ∀ d ∈ t.types, ∀ segment ∈ pathSegments d.2, Q segment

/-- Whether a resolution leads to segments of some kind, from a module and a path of that kind. -/
def Keeps (Q : String → Prop) (resolve : String → List String → List String) : Prop :=
  ∀ module path, (∀ segment ∈ pathSegments module, Q segment) →
    (∀ segment ∈ path, Q segment) → ∀ segment ∈ resolve module path, Q segment

/-- **Following a path** keeps the kind of its segments, if the follower of re-exports does. -/
theorem IsMadeOf.forall_walkFrom (ht : t.IsMadeOf Q)
    {follow : Option (String → List String → List String)} (hfollow : ∀ f ∈ follow, Keeps Q f)
    {module path : List String} (hne : module ≠ []) (hmodule : ∀ segment ∈ module, Q segment)
    (hpath : ∀ segment ∈ path, Q segment) :
    ∀ segment ∈ t.walkFrom follow module path, Q segment := by
  induction path generalizing module with
  | nil => exact hmodule
  | cons segment rest ih =>
      obtain ⟨hsegment, hrest⟩ := List.forall_mem_cons.mp hpath
      have hlonger : ∀ segment' ∈ module ++ [segment], Q segment' :=
        List.forall_mem_append.mpr ⟨hmodule, List.forall_mem_singleton.mpr hsegment⟩
      have hnext := ih (List.append_ne_nil_of_left_ne_nil hne _) hlonger hrest
      cases hreexport : t.reexport? (joinPath module) segment with
      | none =>
          rw [walkFrom_cons_of_eq_none hreexport]
          exact hnext
      | some target =>
          cases follow with
          | none =>
              rw [walkFrom_none] at hnext ⊢
              rw [List.append_assoc] at hnext
              exact hnext
          | some f =>
              have htarget := ht.imports _ (mem_imports_of_reexport? hreexport)
              rw [walkFrom_cons_of_eq_some hreexport]
              exact List.forall_mem_append.mpr
                ⟨hfollow f rfl _ _ (ht.joined module hne hmodule) htarget, hrest⟩

theorem IsMadeOf.forall_walk (ht : t.IsMadeOf Q)
    {follow : Option (String → List String → List String)} (hfollow : ∀ f ∈ follow, Keeps Q f)
    {path : List String} (hpath : ∀ segment ∈ path, Q segment) :
    ∀ segment ∈ t.walk follow path, Q segment := by
  cases path with
  | nil => exact hpath
  | cons root rest =>
      obtain ⟨hroot, hrest⟩ := List.forall_mem_cons.mp hpath
      exact ht.forall_walkFrom hfollow (List.cons_ne_nil _ _)
        (List.forall_mem_singleton.mpr hroot) hrest

theorem forall_climb {module path : List String} (hmodule : ∀ segment ∈ module, Q segment)
    (hpath : ∀ segment ∈ path, Q segment) : ∀ segment ∈ climb module path, Q segment := by
  fun_induction climb module path with
  | case1 module rest ih =>
      exact ih (fun segment hsegment => hmodule segment (List.dropLast_subset _ hsegment))
        (List.forall_mem_cons.mp hpath).2
  | case2 module path _ => exact List.forall_mem_append.mpr ⟨hmodule, hpath⟩

theorem forall_anchor? {module : String} {path whole : List String}
    (h : anchor? module path = some whole) (hmodule : ∀ segment ∈ pathSegments module, Q segment)
    (hpath : ∀ segment ∈ path, Q segment) : ∀ segment ∈ whole, Q segment := by
  cases path with
  | nil => cases h
  | cons first rest =>
      rw [anchor?] at h
      split at h
      · exact Option.some.inj h ▸ hpath
      · split at h
        · exact Option.some.inj h ▸
            List.forall_mem_append.mpr ⟨hmodule, (List.forall_mem_cons.mp hpath).2⟩
        · split at h
          · exact Option.some.inj h ▸ forall_climb hmodule hpath
          · cases h

/-- **One step of a resolution** keeps the kind of segments, if what it is made of does. -/
theorem IsMadeOf.forall_step (ht : t.IsMadeOf Q) {lead : String → List String → List String}
    {here below : List String → List String} (hlead : Keeps Q lead)
    (hhere : ∀ path, (∀ segment ∈ path, Q segment) → ∀ segment ∈ here path, Q segment)
    (hbelow : ∀ path, (∀ segment ∈ path, Q segment) → ∀ segment ∈ below path, Q segment) :
    Keeps Q (t.step lead here below) := by
  intro module path hmodule hpath
  cases path with
  | nil => exact hpath
  | cons first rest =>
      rw [step]
      cases hanchor : anchor? module (first :: rest) with
      | some whole => exact hhere whole (forall_anchor? hanchor hmodule hpath)
      | none =>
          have himport : ∀ target, ⟨module, target⟩ ∈ t.leadsOfName module first rest →
              ∀ segment ∈ lead module target, Q segment := by
            intro target htarget
            have hleads : t.LeadsTo ⟨module, first :: rest⟩ ⟨module, target⟩ := by
              rw [LeadsTo, leads, hanchor]
              exact htarget
            exact hlead _ _ hmodule (ht.imports _ (mem_imports_of_leadsTo hleads))
          simp only
          cases t.nameLookup module first rest with
          | imported target hleads heq =>
              have hwhole := List.forall_mem_append.mpr
                ⟨himport target (hleads ▸ List.mem_singleton_self _),
                  (List.forall_mem_cons.mp hpath).2⟩
              rw [heq]
              split
              · exact hbelow _ hwhole
              · exact hwhole
          | declared hleads heq =>
              rw [heq]
              exact hhere _ (List.forall_mem_append.mpr ⟨hmodule, hpath⟩)
          | elsewhere globs fallback hleads hfallback heq =>
              rw [heq]
              cases hglob : t.globWith? (lead module) first globs with
              | some base =>
                  obtain ⟨glob, hmem, rfl⟩ := exists_of_globWith? hglob
                  exact hbelow _ (List.forall_mem_append.mpr
                    ⟨himport glob (hleads ▸ List.mem_map_of_mem hmem), hpath⟩)
              | none =>
                  rcases hfallback with rfl | ⟨d, hd, rfl⟩
                  · exact hpath
                  · exact ht.types d hd

/-- **Resolutions make up no segments**, under any limit: from a module and a path of segments of
some kind they lead to segments of that kind, in a table that is made of such segments. -/
theorem IsMadeOf.keeps_absolute (ht : t.IsMadeOf Q) (budget : Nat) :
    Keeps Q (t.absolute budget) := by
  induction budget using Nat.strongRecOn with
  | _ budget ih =>
      cases budget with
      | zero =>
          intro module path _ hpath
          cases path with
          | nil => exact hpath
          | cons first rest => exact hpath
      | succ budget =>
          have hfollower : ∀ fewer ≤ budget, ∀ path, (∀ segment ∈ path, Q segment) →
              ∀ segment ∈ t.walk (t.follower fewer) path, Q segment := by
            refine fun fewer hfewer path => ht.forall_walk fun f hf => ?_
            rw [follower] at hf
            split at hf
            · cases hf
            · exact Option.some.inj hf ▸ ih fewer (Nat.lt_succ_of_le hfewer)
          intro module path
          rw [absolute_succ]
          exact ht.forall_step (ih budget (Nat.lt_succ_self _)) (hfollower budget (Nat.le_refl _))
            (hfollower (budget - 1) (Nat.sub_le _ _)) module path

end ScopeTable
end FixtureFactory
