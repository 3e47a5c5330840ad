import FixtureFactory.Text.Case
import FixtureFactory.Text.IdentifierTable

/-!
# Words

Where a word or a name ends.  Each reader takes the characters from the start of the thing and
gives those after it, or nothing if there is no such thing here.

The words of a source carry the proof that they are made of the characters of names, so what is
read from them later on can hold no others.
-/

namespace FixtureFactory
namespace Source

/-- The characters of a text up to a later part of it. -/
def upTo (cs rest : List Char) : List Char := cs.take (cs.length - rest.length)

theorem upTo_append (front rest : List Char) : upTo (front ++ rest) rest = front := by
  rw [upTo, List.length_append, Nat.add_sub_cancel]
  exact List.take_left

/-! ## Where words end -/

/-- Whether a character may start a word. -/
def isWordStart (c : Char) : Bool :=
  c == '_' || Text.inRanges Text.identifierStartRanges c.toNat

/-- Whether a character may continue a word. -/
def isWordContinue (c : Char) : Bool := Text.inRanges Text.identifierContinueRanges c.toNat

/-- What follows a word. -/
def afterWord : List Char → Option (List Char)
  | c :: rest => if isWordStart c then some (rest.dropWhile isWordContinue) else none
  | [] => none

/-- The words that cannot be written raw. -/
def neverRaw : List String := ["_", "super", "self", "Self", "crate"]

/-- What follows a name, raw or not. -/
def afterName : List Char → Option (List Char)
  | 'r' :: '#' :: rest => do
      let after ← afterWord rest
      if neverRaw.contains (String.ofList (upTo rest after)) then none else some after
  | cs => afterWord cs

/-! ## What words are made of -/

/-- Whether a character may stand in a name: in a word, or in the mark of a raw name. -/
def isNameCharacter (c : Char) : Bool := c == '#' || isWordStart c || isWordContinue c

/-- A word is made of the characters of names. -/
theorem exists_of_afterWord {cs rest : List Char} (h : afterWord cs = some rest) :
    ∃ word, cs = word ++ rest ∧ ∀ c ∈ word, isNameCharacter c = true := by
  cases cs with
  | nil => cases h
  | cons first cs =>
      rw [afterWord] at h
      by_cases hstart : isWordStart first = true
      · rw [if_pos hstart] at h
        obtain rfl := Option.some.inj h
        refine ⟨first :: cs.takeWhile isWordContinue, ?_, ?_⟩
        · rw [List.cons_append, List.takeWhile_append_dropWhile]
        · refine List.forall_mem_cons.mpr ⟨?_, fun c hc => ?_⟩
          · rw [isNameCharacter, hstart, Bool.or_true, Bool.true_or]
          · have hcontinue : isWordContinue c = true := List.all_eq_true.mp List.all_takeWhile c hc
            rw [isNameCharacter, hcontinue, Bool.or_true]
      · rw [if_neg hstart] at h
        cases h

/-- **A name is made of the characters of names**, its mark included. -/
theorem exists_of_afterName {cs rest : List Char} (h : afterName cs = some rest) :
    ∃ name, cs = name ++ rest ∧ ∀ c ∈ name, isNameCharacter c = true := by
  unfold afterName at h
  split at h
  · rename_i raw
    obtain ⟨after, hafter, hraw⟩ := Option.bind_eq_some_iff.mp h
    obtain ⟨word, rfl, hword⟩ := exists_of_afterWord hafter
    split at hraw
    · cases hraw
    · obtain rfl := Option.some.inj hraw
      refine ⟨'r' :: '#' :: word, rfl, ?_⟩
      exact List.forall_mem_cons.mpr ⟨by decide, List.forall_mem_cons.mpr ⟨by decide, hword⟩⟩
  · exact exists_of_afterWord h

/-- A word: a name or a keyword; a raw name keeps its mark. -/
structure Word where
  text : String
  isNameCharacter : ∀ c ∈ text.toList, isNameCharacter c = true
  deriving DecidableEq, Repr

instance : Inhabited Word := ⟨⟨"_", List.all_eq_true.mp (by decide)⟩⟩

/-- The name at the start of a text. -/
def Word.ofAfterName {cs rest : List Char} (h : afterName cs = some rest) : Word where
  text := String.ofList (upTo cs rest)
  isNameCharacter := by
    obtain ⟨name, rfl, hname⟩ := exists_of_afterName h
    rw [upTo_append, String.toList_ofList]
    exact hname

/-- The word that a documentation comment stands for. -/
def Word.doc : Word := ⟨"doc", List.all_eq_true.mp (by decide)⟩

end Source
end FixtureFactory
