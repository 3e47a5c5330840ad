import FixtureFactory.Naming
import FixtureFactory.Proofs.LetterCase
import FixtureFactory.Source.Lookahead
import Mathlib.Data.List.TakeWhile

/-!
# Names of generated items as identifiers

The names of the generated items are put together from the names of a declaration and of the modules
around it.  A change of case keeps the characters of words, and so do the parts that are put in
between, so what is made of plain identifiers is a plain identifier.  It is no keyword, since none
begins as the generated names do.

A raw identifier is stored with its mark, and neither change of case takes it off.  It ends up
inside the generated names, though a name can have it at the front only.

* `ContinuesWord.snakeCase`, `ContinuesWord.pascalCase`: the two changes of case.
* `isPlainIdentifier_iff_of_mem_itemNames`: when a generated name is an identifier.
* `not_isPlainIdentifier_of_raw_module`: a module with a raw name.
-/

namespace FixtureFactory

open Source (isWordContinue isWordContinue_of_isWordStart isWordContinue_of_mem_lowerChar
  isWordContinue_of_mem_upperChar)

/-! ## Identifiers -/

/-- The text is an identifier, plain or raw. -/
def IsIdentifier (text : String) : Prop :=
  Source.afterName text.toList = some [] ∧ text ∉ Source.Lookahead.keywords

/-- The text is an identifier without the mark of raw ones. -/
def IsPlainIdentifier (text : String) : Prop :=
  Source.afterWord text.toList = some [] ∧ text ∉ Source.Lookahead.keywords

instance (text : String) : Decidable (IsIdentifier text) := instDecidableAnd

instance (text : String) : Decidable (IsPlainIdentifier text) := instDecidableAnd

/-- The text has the mark of a raw identifier. -/
def IsRaw (text : String) : Prop := ['r', '#'] <+: text.toList

instance (text : String) : Decidable (IsRaw text) :=
  inferInstanceAs (Decidable (['r', '#'] <+: text.toList))

/-- The text is made of the characters that may continue a word. -/
def ContinuesWord (text : String) : Prop := ∀ c ∈ text.toList, isWordContinue c = true

instance (text : String) : Decidable (ContinuesWord text) :=
  decidable_of_iff (text.toList.all isWordContinue = true) List.all_eq_true

theorem isWordContinue_mark : isWordContinue '#' = false := by decide +kernel

theorem IsRaw.mark_mem {text : String} (h : IsRaw text) : '#' ∈ text.toList :=
  h.subset (List.mem_cons_of_mem _ List.mem_cons_self)

theorem not_continuesWord_of_mark_mem {text : String} (h : '#' ∈ text.toList) :
    ¬ ContinuesWord text :=
  fun hword => Bool.false_ne_true (isWordContinue_mark.symm.trans (hword '#' h))

/-- A text that is a word is made of the characters of words. -/
theorem continuesWord_of_afterWord {text : String} (h : Source.afterWord text.toList = some []) :
    ContinuesWord text := by
  rw [ContinuesWord]
  cases hchars : text.toList with
  | nil => exact List.forall_mem_nil _
  | cons first rest =>
      rw [hchars, Source.afterWord] at h
      split at h
      · next hstart =>
          refine List.forall_mem_cons.mpr ⟨isWordContinue_of_isWordStart hstart, ?_⟩
          exact List.dropWhile_eq_nil_iff.mp (Option.some.inj h)
      · cases h

/-- An identifier is made of the characters of words exactly if it is not raw. -/
theorem IsIdentifier.continuesWord_iff {text : String} (h : IsIdentifier text) :
    ContinuesWord text ↔ ¬ IsRaw text := by
  refine ⟨fun hword hraw => not_continuesWord_of_mark_mem hraw.mark_mem hword, fun hraw => ?_⟩
  have hname := h.1
  unfold Source.afterName at hname
  split at hname
  · next heq =>
      refine absurd ?_ hraw
      rw [IsRaw, heq]
      exact ⟨_, rfl⟩
  · exact continuesWord_of_afterWord hname

/-! ## Putting texts together -/

theorem ContinuesWord.append {a b : String} (ha : ContinuesWord a) (hb : ContinuesWord b) :
    ContinuesWord (a ++ b) := by
  rw [ContinuesWord, String.toList_append]
  exact List.forall_mem_append.mpr ⟨ha, hb⟩

theorem ContinuesWord.join {texts : List String} (h : ∀ text ∈ texts, ContinuesWord text) :
    ContinuesWord (String.join texts) := by
  rw [ContinuesWord, String.toList_join]
  exact List.forall_mem_flatMap.mpr h

theorem ContinuesWord.intercalate {separator : String} (hseparator : ContinuesWord separator)
    {texts : List String} (h : ∀ text ∈ texts, ContinuesWord text) :
    ContinuesWord (separator.intercalate texts) := by
  induction texts with
  | nil => exact List.forall_mem_nil _
  | cons text texts ih =>
      obtain ⟨htext, htexts⟩ := List.forall_mem_cons.mp h
      cases texts with
      | nil =>
          rw [String.intercalate_singleton]
          exact htext
      | cons next texts =>
          rw [String.intercalate_cons_cons]
          exact (htext.append hseparator).append (ih htexts)

/-- The characters of a text that is joined to others are among those of the whole. -/
theorem mem_toList_intercalate {separator text : String} {texts : List String} {x : Char}
    (htext : text ∈ texts) (hx : x ∈ text.toList) : x ∈ (separator.intercalate texts).toList := by
  induction texts with
  | nil => cases htext
  | cons first texts ih =>
      cases texts with
      | nil =>
          rw [String.intercalate_singleton, ← List.mem_singleton.mp htext]
          exact hx
      | cons next texts =>
          rw [String.intercalate_cons_cons, String.toList_append]
          rcases List.mem_cons.mp htext with rfl | htext
          · rw [String.toList_append]
            exact List.mem_append_left _ (List.mem_append_left _ hx)
          · exact List.mem_append_right _ (ih htext)

theorem isPrefix_intercalate {separator text : String} {texts : List String} :
    text.toList <+: (separator.intercalate (text :: texts)).toList := by
  cases texts with
  | nil => simp only [String.intercalate_singleton, List.prefix_rfl]
  | cons next texts =>
      rw [String.intercalate_cons_cons, String.toList_append, String.toList_append,
        List.append_assoc]
      exact List.prefix_append _ _

/-! ## Changes of case -/

theorem Text.isWordContinue_of_mem_snakeFrom {previous : Option Char} {underscored : Bool}
    {cs : List Char} (h : ∀ c ∈ cs, isWordContinue c = true) :
    ∀ x ∈ snakeFrom previous underscored cs, isWordContinue x = true := by
  induction cs generalizing previous underscored with
  | nil => exact List.forall_mem_nil _
  | cons c rest ih =>
      obtain ⟨hc, hrest⟩ := List.forall_mem_cons.mp h
      rw [snakeFrom]
      split
      · intro x hx
        rcases List.mem_append.mp hx with hx | hx
        · rcases List.mem_append.mp hx with hgap | hlower
          · split at hgap
            · rw [List.mem_singleton.mp hgap]
              decide
            · cases hgap
          · exact isWordContinue_of_mem_lowerChar hc hlower
        · exact ih hrest x hx
      · exact List.forall_mem_cons.mpr ⟨hc, ih hrest⟩

/-- Snake case keeps every character that is not in upper case. -/
theorem Text.mem_snakeFrom {x : Char} (hx : isUpper x = false) {previous : Option Char}
    {underscored : Bool} {cs : List Char} (h : x ∈ cs) : x ∈ snakeFrom previous underscored cs := by
  induction cs generalizing previous underscored with
  | nil => cases h
  | cons c rest ih =>
      rw [snakeFrom]
      rcases List.mem_cons.mp h with rfl | h
      · rw [if_neg (Bool.eq_false_iff.mp hx)]
        exact List.mem_cons_self
      · split
        · exact List.mem_append_right _ (ih h)
        · exact List.mem_cons_of_mem _ (ih h)

theorem Text.isWordContinue_of_mem_pascalCase {cs : List Char}
    (h : ∀ c ∈ cs, isWordContinue c = true) : ∀ x ∈ pascalCase cs, isWordContinue x = true := by
  intro x hx
  obtain ⟨word, hword, hx⟩ := List.mem_flatMap.mp hx
  have hword := fun c hc => h c (mem_of_mem_splitWhere hword c hc)
  cases word with
  | nil => cases hx
  | cons first rest =>
      obtain ⟨hfirst, hrest⟩ := List.forall_mem_cons.mp hword
      rcases List.mem_append.mp hx with hupper | hx
      · exact isWordContinue_of_mem_upperChar hfirst hupper
      · exact hrest x hx

/-- Pascal case keeps every character that has no other upper-case form, but for underscores. -/
theorem Text.mem_pascalCase {x : Char} (hupper : upperChar x = [x]) (hx : (x == '_') = false)
    {cs : List Char} (h : x ∈ cs) : x ∈ pascalCase cs := by
  obtain ⟨word, hword, hmem⟩ : ∃ word ∈ splitUnderscores cs, x ∈ word := exists_mem_splitWhere h hx
  refine List.mem_flatMap.mpr ⟨word, hword, ?_⟩
  cases word with
  | nil => cases hmem
  | cons first rest =>
      rw [capitalize]
      rcases List.mem_cons.mp hmem with rfl | hmem
      · rw [hupper]
        exact List.mem_append_left _ List.mem_cons_self
      · exact List.mem_append_right _ hmem

theorem ContinuesWord.snakeCase {name : String} (h : ContinuesWord name) :
    ContinuesWord (snakeCase name) := by
  rw [ContinuesWord, FixtureFactory.snakeCase, String.toList_ofList]
  exact Text.isWordContinue_of_mem_snakeFrom h

theorem ContinuesWord.pascalCase {name : String} (h : ContinuesWord name) :
    ContinuesWord (pascalCase name) := by
  rw [ContinuesWord, FixtureFactory.pascalCase, String.toList_ofList]
  exact Text.isWordContinue_of_mem_pascalCase h

theorem mark_mem_snakeCase {name : String} (h : '#' ∈ name.toList) :
    '#' ∈ (snakeCase name).toList := by
  rw [snakeCase, String.toList_ofList]
  exact Text.mem_snakeFrom (by decide) h

theorem mark_mem_pascalCase {name : String} (h : '#' ∈ name.toList) :
    '#' ∈ (pascalCase name).toList := by
  rw [pascalCase, String.toList_ofList]
  exact Text.mem_pascalCase (by decide) (by decide) h

/-! ## Generated names -/

/-- The names of the items that are generated for a declaration: its factory, the factory that takes
an argument record, and the record. -/
def Naming.itemNames (enclosing : List String) (simpleName : String) : List String :=
  [factoryName enclosing simpleName, factoryWithName enclosing simpleName,
    argsName enclosing simpleName]

section ItemNames

variable {enclosing : List String} {simpleName item : String}

theorem forall_mem_itemNames {P : String → Prop}
    (hfactory : P (Naming.factoryName enclosing simpleName))
    (hwith : P (Naming.factoryWithName enclosing simpleName))
    (hargs : P (Naming.argsName enclosing simpleName)) :
    ∀ item ∈ Naming.itemNames enclosing simpleName, P item :=
  List.forall_mem_cons.mpr ⟨hfactory, List.forall_mem_cons.mpr ⟨hwith,
    List.forall_mem_singleton.mpr hargs⟩⟩

/-- Names of the characters of words make generated names of such characters. -/
theorem continuesWord_of_mem_itemNames
    (h : ∀ name ∈ enclosing ++ [simpleName], ContinuesWord name) :
    ∀ item ∈ Naming.itemNames enclosing simpleName, ContinuesWord item := by
  obtain ⟨henclosing, hsimple⟩ := List.forall_mem_append.mp h
  have hsimple := List.forall_mem_singleton.mp hsimple
  have hcreate : ContinuesWord "create" ∧ ContinuesWord "Create" := by decide +kernel
  have hbetween : ContinuesWord "_" ∧ ContinuesWord "_with" ∧ ContinuesWord "Args" := by
    decide +kernel
  have hfactory : ContinuesWord (Naming.factoryName enclosing simpleName) := by
    refine hbetween.1.intercalate (List.forall_mem_cons.mpr ⟨hcreate.1, ?_⟩)
    refine List.forall_mem_append.mpr ⟨?_, List.forall_mem_singleton.mpr hsimple.snakeCase⟩
    exact List.forall_mem_map.mpr fun name hname => (henclosing name hname).snakeCase
  have hmodules : ContinuesWord (String.join (enclosing.map pascalCase)) :=
    ContinuesWord.join (List.forall_mem_map.mpr fun name hname => (henclosing name hname).pascalCase)
  exact forall_mem_itemNames hfactory (hfactory.append hbetween.2.1)
    (((hcreate.2.append hmodules).append hsimple).append hbetween.2.2)

/-- The mark of a raw name gets into every generated name. -/
theorem mark_mem_of_mem_itemNames {name : String} (hname : name ∈ enclosing ++ [simpleName])
    (h : '#' ∈ name.toList) : ∀ item ∈ Naming.itemNames enclosing simpleName, '#' ∈ item.toList := by
  have hfactory : '#' ∈ (Naming.factoryName enclosing simpleName).toList := by
    refine mem_toList_intercalate (List.mem_cons_of_mem _ ?_) (mark_mem_snakeCase h)
    rw [← List.map_singleton, ← List.map_append]
    exact List.mem_map_of_mem hname
  refine forall_mem_itemNames hfactory ?_ ?_
  · rw [Naming.factoryWithName, String.toList_append]
    exact List.mem_append_left _ hfactory
  · rw [Naming.argsName, String.toList_append, String.toList_append, String.toList_append,
      String.toList_join]
    refine List.mem_append_left _ ?_
    rcases List.mem_append.mp hname with hname | hname
    · refine List.mem_append_left _ (List.mem_append_right _ (List.mem_flatMap.mpr ?_))
      exact ⟨pascalCase name, List.mem_map_of_mem hname, mark_mem_pascalCase h⟩
    · rw [List.mem_singleton.mp hname] at h
      exact List.mem_append_right _ h

theorem isPrefix_of_mem_itemNames : ∀ item ∈ Naming.itemNames enclosing simpleName,
    "create".toList <+: item.toList ∨ "Create".toList <+: item.toList := by
  have hfactory : "create".toList <+: (Naming.factoryName enclosing simpleName).toList :=
    isPrefix_intercalate
  refine forall_mem_itemNames (Or.inl hfactory) (Or.inl ?_) (Or.inr ?_)
  · rw [Naming.factoryWithName, String.toList_append]
    exact hfactory.trans (List.prefix_append _ _)
  · rw [Naming.argsName, String.toList_append, String.toList_append, String.toList_append,
      List.append_assoc, List.append_assoc]
    exact List.prefix_append _ _

theorem notMem_keywords_of_isPrefix {text : String}
    (h : "create".toList <+: text.toList ∨ "Create".toList <+: text.toList) :
    text ∉ Source.Lookahead.keywords := by
  have hnone : ∀ keyword ∈ Source.Lookahead.keywords,
      ¬ ("create".toList <+: keyword.toList ∨ "Create".toList <+: keyword.toList) := by decide
  exact fun hkeyword => hnone text hkeyword h

/-- A text that begins as the generated names do is a plain identifier if it is made of the
characters of words. -/
theorem isPlainIdentifier_of_isPrefix {text : String}
    (h : "create".toList <+: text.toList ∨ "Create".toList <+: text.toList)
    (hword : ContinuesWord text) : IsPlainIdentifier text := by
  refine ⟨?_, notMem_keywords_of_isPrefix h⟩
  have hstart : ∃ first rest, text.toList = first :: rest ∧ Source.isWordStart first = true := by
    rcases h with ⟨rest, hrest⟩ | ⟨rest, hrest⟩
    · exact ⟨'c', "reate".toList ++ rest, hrest.symm, by decide⟩
    · exact ⟨'C', "reate".toList ++ rest, hrest.symm, by decide⟩
  obtain ⟨first, rest, hchars, hfirst⟩ := hstart
  rw [ContinuesWord, hchars] at hword
  rw [hchars, Source.afterWord, if_pos hfirst,
    List.dropWhile_eq_nil_iff.mpr (List.forall_mem_cons.mp hword).2]

/-- **When a generated name is an identifier.**  The simple name of a declaration and the names of
the modules around it are identifiers, plain or raw.  Each name that is generated for the
declaration is a plain identifier exactly if none of them is raw, and it has the mark of raw
identifiers in it exactly if one of them is raw.

No generated name is a keyword, since each begins with a word that no keyword begins with.  So the
mark is all that can spoil a name, and neither change of case takes it away. -/
theorem isPlainIdentifier_iff_of_mem_itemNames
    (hnames : ∀ name ∈ enclosing ++ [simpleName], IsIdentifier name) :
    ∀ item ∈ Naming.itemNames enclosing simpleName,
      (IsPlainIdentifier item ↔ ∀ name ∈ enclosing ++ [simpleName], ¬ IsRaw name) ∧
      ('#' ∈ item.toList ↔ ∃ name ∈ enclosing ++ [simpleName], IsRaw name) := by
  intro item hitem
  have hmarked : (∃ name ∈ enclosing ++ [simpleName], IsRaw name) → '#' ∈ item.toList := by
    rintro ⟨name, hname, hraw⟩
    exact mark_mem_of_mem_itemNames hname hraw.mark_mem item hitem
  have hword : (∀ name ∈ enclosing ++ [simpleName], ¬ IsRaw name) → ContinuesWord item :=
    fun hplain => continuesWord_of_mem_itemNames
      (fun name hname => (hnames name hname).continuesWord_iff.mpr (hplain name hname)) item hitem
  refine ⟨⟨fun hplain name hname hraw => ?_, fun hplain => ?_⟩, ⟨fun hmark => ?_, hmarked⟩⟩
  · exact not_continuesWord_of_mark_mem (hmarked ⟨name, hname, hraw⟩)
      (continuesWord_of_afterWord hplain.1)
  · exact isPlainIdentifier_of_isPrefix (isPrefix_of_mem_itemNames item hitem) (hword hplain)
  · by_contra hnone
    refine not_continuesWord_of_mark_mem hmark (hword fun name hname hraw => ?_)
    exact hnone ⟨name, hname, hraw⟩

/-- The names that are generated for a type within a module, both of plain names. -/
theorem isPlainIdentifier_address :
    (∀ name ∈ ["outer", "Address"], IsIdentifier name) ∧
      Naming.itemNames ["outer"] "Address" =
        ["create_outer_address", "create_outer_address_with", "CreateOuterAddressArgs"] ∧
      ∀ item ∈ Naming.itemNames ["outer"] "Address", IsPlainIdentifier item := by
  have hnames : ∀ name ∈ ["outer"] ++ ["Address"], IsIdentifier name := by decide +kernel
  refine ⟨hnames, by decide +kernel, fun item hitem => ?_⟩
  exact (isPlainIdentifier_iff_of_mem_itemNames hnames item hitem).1.mpr (by decide)

/-- **A raw name gets into the generated names.**  A module that is called after a keyword leaves
its mark in the middle of each name that is generated within it, and none of them is an
identifier. -/
theorem not_isPlainIdentifier_of_raw_module :
    IsIdentifier "r#type" ∧ IsIdentifier "Person" ∧
      Naming.itemNames ["r#type"] "Person" =
        ["create_r#type_person", "create_r#type_person_with", "CreateR#typePersonArgs"] ∧
      ∀ item ∈ Naming.itemNames ["r#type"] "Person",
        ¬ IsIdentifier item ∧ ¬ IsPlainIdentifier item := by
  decide +kernel

end ItemNames

end FixtureFactory
