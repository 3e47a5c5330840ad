import FixtureFactory.Naming
import FixtureFactory.Proofs.LetterCase
import Mathlib.Data.List.Basic

/-!
# Words in snake case and in Pascal case

Snake case puts an underscore between two words, Pascal case a capital at the start of each.  Going
from the one to the other drops the underscores, so the way back has to find their places from the
case of the characters alone.  It does if each word has a lower-case letter or a digit behind its
capital; two capitals next to each other would be taken for an acronym.

Whatever it is given, snake case takes nothing away.  It writes the text in lower case, and in some
places one underscore more.

* `Text.snakeFrom_cons`: what snake case writes for one character.
* `Text.Spaced`: a text in lower case with underscores put in.
* `Text.spaced_snakeCase`: snake case of any text.
* `Text.snakeFrom_capitalize`: one word comes back from its capitalized form.
* `snakeCase_undoes_pascalCase`: all words do, and every text is spaced.
-/

namespace FixtureFactory
namespace Text

/-! ## One character -/

/-- What snake case writes for a character. -/
def snakeChar (c : Char) : List Char := if isUpper c then lowerChar c else [c]

theorem snakeFrom_cons (previous : Option Char) (underscored : Bool) (c : Char)
    (rest : List Char) :
    snakeFrom previous underscored (c :: rest) =
      (if isUpper c && (isWordStart previous rest.head? && !underscored) then ['_'] else []) ++
        (snakeChar c ++
          snakeFrom (some c) ((snakeChar c).getLast? == some '_') rest) := by
  rw [snakeFrom, snakeChar]
  cases isUpper c <;> simp

theorem ne_underscore_of_isUpper {c : Char} (h : isUpper c = true) : c ≠ '_' := by
  rintro rfl
  exact absurd h (by decide)

theorem ne_underscore_of_isWordStart {c : Char} {next : Option Char}
    (h : isWordStart (some c) next = true) : c ≠ '_' := by
  rintro rfl
  have hnot : isWordStart (some '_') next = false := rfl
  rw [hnot] at h
  cases h

/-! ## Any text -/

/-- A text, and the same text in lower case with underscores put in: one at most between two
neighbouring characters, neither of which is an underscore, and none at the ends. -/
inductive Spaced : List Char → List Char → Prop
  | nil : Spaced [] []
  | last (c : Char) : Spaced [c] (snakeChar c)
  | join {c next : Char} {rest out : List Char} : Spaced (next :: rest) out →
      Spaced (c :: next :: rest) (snakeChar c ++ out)
  | gap {c next : Char} {rest out : List Char} : c ≠ '_' → next ≠ '_' →
      Spaced (next :: rest) out → Spaced (c :: next :: rest) (snakeChar c ++ '_' :: out)

/-- What snake case writes from a character on, without what stands before it. -/
theorem spaced_snakeFrom (c : Char) (underscored : Bool) (rest : List Char) :
    Spaced (c :: rest) (snakeChar c ++ snakeFrom (some c) underscored rest) := by
  induction rest generalizing c underscored with
  | nil =>
      rw [snakeFrom, List.append_nil]
      exact .last c
  | cons next rest ih =>
      rw [snakeFrom_cons]
      split
      · next hgap =>
          obtain ⟨hupper, hstart⟩ := Bool.and_eq_true_iff.mp hgap
          exact .gap (ne_underscore_of_isWordStart (Bool.and_eq_true_iff.mp hstart).1)
            (ne_underscore_of_isUpper hupper) (ih next _)
      · exact .join (ih next _)

/-- **Snake case of any text** is the text in lower case with underscores put in. -/
theorem spaced_snakeCase (cs : List Char) : Spaced cs (snakeCase cs) := by
  cases cs with
  | nil => exact .nil
  | cons c rest =>
      have hfirst : snakeCase (c :: rest) =
          snakeChar c ++ snakeFrom (some c) ((snakeChar c).getLast? == some '_') rest := by
        rw [snakeCase, snakeFrom_cons]
        simp [isWordStart]
      rw [hfirst]
      exact spaced_snakeFrom c _ rest

/-! ## Plain words -/

/-- Whether a character is a lower-case letter or a digit of ASCII. -/
def isPlain (c : Char) : Bool := c.isLower || c.isDigit

/-- Whether a word has two characters or more, a lower-case ASCII letter first and such letters or
digits after it. -/
def isPlainWord : List Char → Bool
  | first :: second :: rest => first.isLower && (second :: rest).all isPlain
  | _ => false

/-- A question about a plain character is settled by the ASCII characters, one by one. -/
theorem of_isPlain {p : Char → Bool}
    (h : ∀ n < 128, isPlain (Char.ofNat n) = true → p (Char.ofNat n) = true) {c : Char}
    (hc : isPlain c = true) : p c = true := by
  have hkinds : c.isAlphanum = true := by
    rcases Bool.or_eq_true_iff.mp hc with hlower | hdigit
    · show (c.isUpper || c.isLower || c.isDigit) = true
      rw [hlower, Bool.or_true, Bool.true_or]
    · show (c.isUpper || c.isLower || c.isDigit) = true
      rw [hdigit, Bool.or_true]
  have hascii : c.toNat < 128 :=
    Nat.lt_of_le_of_lt (toNat_bounds_of_isAlphanum hkinds).2 (by decide)
  have hchar := h c.toNat hascii
  rw [Char.ofNat_toNat] at hchar
  exact hchar hc

theorem isUpper_of_isPlain {c : Char} (h : isPlain c = true) : isUpper c = false := by
  have hcase := of_isPlain (p := fun c => !isUpper c) (by decide +kernel) h
  rwa [Bool.not_eq_true'] at hcase

theorem isWordStart_of_isPlain {c : Char} (h : isPlain c = true) (next : Option Char) :
    isWordStart (some c) next = true := by
  have hbefore := of_isPlain (p := fun c => isLower c || c.isDigit) (by decide +kernel) h
  rw [isWordStart, if_pos hbefore]

theorem ne_underscore_of_isPlain {c : Char} (h : isPlain c = true) : c ≠ '_' := by
  rintro rfl
  exact absurd h (by decide)

theorem upperChar_of_isLower {c : Char} (h : c.isLower = true) :
    ∃ capital, upperChar c = [capital] ∧ isUpper capital = true ∧ lowerChar capital = [c] := by
  have hplain : isPlain c = true := Bool.or_eq_true_iff.mpr (.inl h)
  have hcase := of_isPlain (p := fun c => !c.isLower ||
    (upperChar c == [c.toUpper] && isUpper c.toUpper && lowerChar c.toUpper == [c]))
    (by decide +kernel) hplain
  rw [h] at hcase
  simp only [Bool.not_true, Bool.false_or, Bool.and_eq_true, beq_iff_eq] at hcase
  exact ⟨c.toUpper, hcase.1.1, hcase.1.2, hcase.2⟩

theorem snakeChar_of_isPlain {c : Char} (h : isPlain c = true) : snakeChar c = [c] := by
  rw [snakeChar, isUpper_of_isPlain h]
  rfl

theorem snakeFrom_cons_of_isPlain {c : Char} (h : isPlain c = true) (previous : Option Char)
    (underscored : Bool) (rest : List Char) :
    snakeFrom previous underscored (c :: rest) = c :: snakeFrom (some c) false rest := by
  have hlast : ([c].getLast? == some '_') = false :=
    beq_false_of_ne fun hlast => ne_underscore_of_isPlain h (Option.some.inj hlast)
  rw [snakeFrom_cons, isUpper_of_isPlain h, snakeChar_of_isPlain h, hlast]
  rfl

/-- Snake case copies plain characters, and goes on after the last of them. -/
theorem snakeFrom_append_of_plain {plain : List Char} (h : ∀ c ∈ plain, isPlain c = true)
    {p : Char} (hp : isPlain p = true) : ∃ last, isPlain last = true ∧ ∀ rest,
      snakeFrom (some p) false (plain ++ rest) = plain ++ snakeFrom (some last) false rest := by
  induction plain generalizing p with
  | nil => exact ⟨p, hp, fun _ => rfl⟩
  | cons c plain ih =>
      obtain ⟨hc, hplain⟩ := List.forall_mem_cons.mp h
      obtain ⟨last, hlast, hgoesOn⟩ := ih hplain hc
      refine ⟨last, hlast, fun rest => ?_⟩
      rw [List.cons_append, snakeFrom_cons_of_isPlain hc, hgoesOn]
      rfl

/-- A plain word comes back from its capitalized form, with an underscore before it if that starts
a word. -/
theorem snakeFrom_capitalize {word : List Char} (hword : isPlainWord word = true)
    (previous : Option Char) : ∃ last, isPlain last = true ∧ ∀ rest,
      snakeFrom previous false (capitalize word ++ rest) =
        (if isWordStart previous word.tail.head? then ['_'] else []) ++
          (word ++ snakeFrom (some last) false rest) := by
  match word, hword with
  | first :: second :: tail, hword =>
      obtain ⟨hfirst, htail⟩ := Bool.and_eq_true_iff.mp hword
      obtain ⟨hsecond, htail⟩ := List.forall_mem_cons.mp (List.all_eq_true.mp htail)
      obtain ⟨capital, hcapital, hupper, hlower⟩ := upperChar_of_isLower hfirst
      obtain ⟨last, hlast, hgoesOn⟩ := snakeFrom_append_of_plain htail hsecond
      refine ⟨last, hlast, fun rest => ?_⟩
      have hchar : snakeChar capital = [first] := by
        rw [snakeChar, if_pos hupper, hlower]
      rw [capitalize, hcapital, List.append_assoc, List.singleton_append, snakeFrom_cons, hupper,
        hchar, List.cons_append, snakeFrom_cons_of_isPlain hsecond, hgoesOn,
        Bool.not_false, Bool.and_true, Bool.true_and]
      rfl

/-- After a plain character, plain words come back from Pascal case with an underscore before each
of them. -/
theorem snakeFrom_flatMap_capitalize {words : List (List Char)}
    (h : ∀ word ∈ words, isPlainWord word = true) {p : Char} (hp : isPlain p = true) :
    snakeFrom (some p) false (words.flatMap capitalize) =
      words.flatMap fun word => '_' :: word := by
  induction words generalizing p with
  | nil => rfl
  | cons word words ih =>
      obtain ⟨hword, hwords⟩ := List.forall_mem_cons.mp h
      obtain ⟨last, hlast, hgoesOn⟩ := snakeFrom_capitalize hword (some p)
      rw [List.flatMap_cons, hgoesOn, isWordStart_of_isPlain hp, ih hwords hlast]
      rfl

theorem intercalate_cons_eq_append_flatMap (separator word : List Char) (words : List (List Char)) :
    separator.intercalate (word :: words) = word ++ words.flatMap (separator ++ ·) := by
  induction words generalizing word with
  | nil => simp
  | cons next words ih =>
      rw [List.intercalate_cons_cons, ih, List.flatMap_cons, List.append_assoc, List.append_assoc]

theorem pascalCase_intercalate {words : List (List Char)} (hne : words ≠ [])
    (h : ∀ word ∈ words, ∀ c ∈ word, c ≠ '_') :
    pascalCase (['_'].intercalate words) = words.flatMap capitalize := by
  rw [pascalCase, splitUnderscores, splitWhere_intercalate rfl hne]
  exact fun word hword c hc => beq_false_of_ne (h word hword c hc)

theorem isPlain_of_mem_plainWord {word : List Char} (h : isPlainWord word = true) :
    ∀ c ∈ word, isPlain c = true := by
  match word, h with
  | first :: second :: tail, h =>
      obtain ⟨hfirst, htail⟩ := Bool.and_eq_true_iff.mp h
      exact List.forall_mem_cons.mpr
        ⟨Bool.or_eq_true_iff.mpr (.inl hfirst), List.all_eq_true.mp htail⟩

/-- **Snake case undoes Pascal case** on plain words. -/
theorem snakeCase_pascalCase_intercalate {words : List (List Char)} (hne : words ≠ [])
    (h : ∀ word ∈ words, isPlainWord word = true) :
    snakeCase (pascalCase (['_'].intercalate words)) = ['_'].intercalate words := by
  rw [pascalCase_intercalate hne fun word hword c hc =>
    ne_underscore_of_isPlain (isPlain_of_mem_plainWord (h word hword) c hc)]
  cases words with
  | nil => exact absurd rfl hne
  | cons word words =>
      obtain ⟨hword, hwords⟩ := List.forall_mem_cons.mp h
      obtain ⟨last, hlast, hgoesOn⟩ := snakeFrom_capitalize hword none
      rw [snakeCase, List.flatMap_cons, hgoesOn, snakeFrom_flatMap_capitalize hwords hlast,
        intercalate_cons_eq_append_flatMap]
      rfl

end Text

/-- Whether a name has two characters or more, a lower-case ASCII letter first and such letters or
digits after it. -/
def isPlainWord (name : String) : Bool := Text.isPlainWord name.toList

/-- **Snake case undoes Pascal case** on plain words.  And snake case of any text at all is that
text in lower case, with no more than one underscore put in between two neighbouring characters,
neither of which is an underscore, and with none at the ends.

The capitals tell where the underscores were.  A plain word starts with a lower-case letter and goes
on with a character that is no capital, so no two capitals of the Pascal case stand next to each
other; words of one character would, and would be taken for an acronym. -/
theorem snakeCase_undoes_pascalCase :
    (∀ words : List String, words ≠ [] → (∀ word ∈ words, isPlainWord word = true) →
      snakeCase (pascalCase ("_".intercalate words)) = "_".intercalate words) ∧
    ∀ name : String, Text.Spaced name.toList (snakeCase name).toList := by
  constructor
  · intro words hne hwords
    have hplain : ∀ word ∈ words.map String.toList, Text.isPlainWord word = true :=
      List.forall_mem_map.mpr hwords
    have hback := Text.snakeCase_pascalCase_intercalate (mt List.map_eq_nil_iff.mp hne) hplain
    refine String.toList_inj.mp ?_
    rw [snakeCase, pascalCase, String.toList_ofList, String.toList_ofList,
      String.toList_intercalate]
    exact hback
  · intro name
    rw [snakeCase, String.toList_ofList]
    exact Text.spaced_snakeCase name.toList

/-- A digit may end a word, and the word after it is found all the same. -/
theorem snakeCase_undoes_pascalCase_address :
    (["address", "v2", "info"] : List String) ≠ [] ∧
    (∀ word ∈ ["address", "v2", "info"], isPlainWord word = true) ∧
    pascalCase "address_v2_info" = "AddressV2Info" ∧
    snakeCase (pascalCase "address_v2_info") = "address_v2_info" := by
  have hwords : ∀ word ∈ ["address", "v2", "info"], isPlainWord word = true := by
    decide +kernel
  refine ⟨List.cons_ne_nil _ _, hwords, by decide +kernel, ?_⟩
  have hjoined : "_".intercalate ["address", "v2", "info"] = "address_v2_info" := by
    decide +kernel
  have hback :=
    snakeCase_undoes_pascalCase.1 ["address", "v2", "info"] (List.cons_ne_nil _ _) hwords
  rwa [hjoined] at hback

/-- Words of one character are taken for an acronym. -/
example : pascalCase "a_b" = "AB" ∧ snakeCase "AB" = "ab" := by decide +kernel

end FixtureFactory
