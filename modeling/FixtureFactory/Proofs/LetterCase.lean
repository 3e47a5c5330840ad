import FixtureFactory.Source.Word

/-!
# Names in another case

A character that may stand in a word may do so in the other case as well: its lower-case and its
upper-case form, which may be of several characters, are made of such characters again.  The tables
have it run by run.  The targets of most runs lie in one range of characters of words, some runs
hold no character of a word at all, and one has targets with gaps between them, which are looked at
one by one.

* `isWordContinue_of_isWordStart`: what starts a word may also continue one.
* `isWordContinue_of_mem_lowerChar`, `isWordContinue_of_mem_upperChar`: the two mappings.
-/

namespace FixtureFactory
namespace Text

/-! ## Ranges of code points -/

/-- Whether all of a range lies in one range of a table. -/
def coversRange (table : List (Nat × Nat)) (first last : Nat) : Bool :=
  table.any fun range => range.1.ble first && last.ble range.2

/-- Whether none of a range lies in a table. -/
def missesRange (table : List (Nat × Nat)) (first last : Nat) : Bool :=
  table.all fun range => last.blt range.1 || range.2.blt first

/-- Whether a table covers the ranges of another one, both in ascending order: ranges that end
before the next one to be covered are dropped. -/
def coversInOrder (table : List (Nat × Nat)) : List (Nat × Nat) → Bool
  | [] => true
  | range :: ranges =>
      let rest := table.dropWhile fun covering => covering.2.blt range.2
      (rest.head?.any fun covering => covering.1.ble range.1 && range.2.ble covering.2) &&
        coversInOrder rest ranges

theorem inRanges_iff {table : List (Nat × Nat)} {code : Nat} :
    inRanges table code = true ↔ ∃ range ∈ table, range.1 ≤ code ∧ code ≤ range.2 := by
  simp [inRanges, List.any_eq_true]

theorem inRanges_of_coversRange {table : List (Nat × Nat)} {first last code : Nat}
    (h : coversRange table first last = true) (hfirst : first ≤ code) (hlast : code ≤ last) :
    inRanges table code = true := by
  obtain ⟨range, hrange, hcovers⟩ := List.any_eq_true.mp h
  obtain ⟨hlow, hhigh⟩ := Bool.and_eq_true_iff.mp hcovers
  exact inRanges_iff.mpr ⟨range, hrange, Nat.le_trans (Nat.le_of_ble_eq_true hlow) hfirst,
    Nat.le_trans hlast (Nat.le_of_ble_eq_true hhigh)⟩

theorem inRanges_of_missesRange {table : List (Nat × Nat)} {first last code : Nat}
    (h : missesRange table first last = true) (hfirst : first ≤ code) (hlast : code ≤ last) :
    inRanges table code = false := by
  rw [← Bool.not_eq_true, inRanges_iff]
  rintro ⟨range, hrange, hlow, hhigh⟩
  rcases Bool.or_eq_true_iff.mp (List.all_eq_true.mp h range hrange) with hmiss | hmiss
  · have hlt : last < range.1 := Nat.le_of_ble_eq_true hmiss
    omega
  · have hlt : range.2 < first := Nat.le_of_ble_eq_true hmiss
    omega

/-- What lies in a table lies in every table that covers it. -/
theorem inRanges_of_coversInOrder {table ranges : List (Nat × Nat)} {code : Nat}
    (hcovers : coversInOrder table ranges = true) (h : inRanges ranges code = true) :
    inRanges table code = true := by
  induction ranges generalizing table with
  | nil => cases h
  | cons range ranges ih =>
      obtain ⟨hhead, hrest⟩ := Bool.and_eq_true_iff.mp hcovers
      have hsub : table.dropWhile (fun covering => covering.2.blt range.2) ⊆ table :=
        (List.dropWhile_sublist _).subset
      suffices hmem :
          inRanges (table.dropWhile fun covering => covering.2.blt range.2) code = true by
        obtain ⟨covering, hcovering, hin⟩ := inRanges_iff.mp hmem
        exact inRanges_iff.mpr ⟨covering, hsub hcovering, hin⟩
      obtain ⟨found, hfound, hin⟩ := inRanges_iff.mp h
      rcases List.mem_cons.mp hfound with rfl | hfound
      · obtain ⟨covering, hcovering, hcovers⟩ := (Option.any_eq_true _ _).mp hhead
        obtain ⟨hlow, hhigh⟩ := Bool.and_eq_true_iff.mp hcovers
        exact inRanges_iff.mpr ⟨covering, List.mem_of_head? hcovering,
          Nat.le_trans (Nat.le_of_ble_eq_true hlow) hin.1,
          Nat.le_trans hin.2 (Nat.le_of_ble_eq_true hhigh)⟩
      · exact ih hrest (inRanges_iff.mpr ⟨found, hfound, hin⟩)

/-! ## Letters and digits of ASCII -/

/-- Letters and digits lie between the digit zero and the small letter z. -/
theorem toNat_bounds_of_isAlphanum {c : Char} (hc : c.isAlphanum = true) :
    48 ≤ c.toNat ∧ c.toNat ≤ 122 := by
  have hrange {low high : UInt32} (hbounds : 48 ≤ low.toNat ∧ high.toNat ≤ 122)
      (hlow : low ≤ c.val) (hhigh : c.val ≤ high) : 48 ≤ c.toNat ∧ c.toNat ≤ 122 :=
    ⟨Nat.le_trans hbounds.1 (UInt32.le_iff_toNat_le.mp hlow),
      Nat.le_trans (UInt32.le_iff_toNat_le.mp hhigh) hbounds.2⟩
  have hkinds : (c.isUpper || c.isLower || c.isDigit) = true := hc
  rw [Bool.or_eq_true, Bool.or_eq_true] at hkinds
  rcases hkinds with (hupper | hlower) | hdigit
  · obtain ⟨hlow, hhigh⟩ := of_decide_eq_true hupper
    exact hrange (by decide) hlow hhigh
  · obtain ⟨hlow, hhigh⟩ := (Bool.and_eq_true _ _).mp hlower
    exact hrange (by decide) (of_decide_eq_true hlow) (of_decide_eq_true hhigh)
  · obtain ⟨hlow, hhigh⟩ := (Bool.and_eq_true _ _).mp hdigit
    exact hrange (by decide) (of_decide_eq_true hlow) (of_decide_eq_true hhigh)

end Text

namespace Source

open Text

/-! ## Characters of words -/

theorem isWordContinue_of_isWordStart {c : Char} (h : isWordStart c = true) :
    isWordContinue c = true := by
  rcases Bool.or_eq_true_iff.mp h with hunderscore | hstart
  · rw [eq_of_beq hunderscore]
    decide
  · exact inRanges_of_coversInOrder (by decide +kernel) hstart

/-- Whether a code point is that of a character that may continue a word. -/
def isWordCode (code : Nat) : Bool := inRanges identifierContinueRanges code

theorem isValidChar_of_isWordCode {code : Nat} (h : isWordCode code = true) : code.isValidChar := by
  have hranges : identifierContinueRanges.all (fun range =>
      range.2.blt 0xd800 || Nat.blt 0xdfff range.1 && range.2.blt 0x110000) = true := by
    decide +kernel
  obtain ⟨range, hrange, hlow, hhigh⟩ := inRanges_iff.mp h
  have hrange := List.all_eq_true.mp hranges range hrange
  simp only [Bool.or_eq_true, Bool.and_eq_true, Nat.blt_eq] at hrange
  rcases hrange with hlt | ⟨hgt, hlt⟩
  · exact Or.inl (by omega)
  · exact Or.inr ⟨by omega, by omega⟩

theorem isWordContinue_ofNat {code : Nat} (h : isWordCode code = true) :
    isWordContinue (Char.ofNat code) = true := by
  have htoNat : (Char.ofNat code).toNat = code := by
    rw [Char.ofNat, dif_pos (isValidChar_of_isWordCode h)]
    rfl
  rw [isWordContinue, htoNat]
  exact h

/-! ## Mappings -/

/-- Whether a run of a mapping takes characters of words to such characters: its targets lie in one
range, or it has no such characters, or each of its targets is one. -/
def keepsWords : Nat × Nat × Nat × Nat → Bool
  | (first, last, stride, target) =>
      coversRange identifierContinueRanges target (target + (last - first)) ||
        missesRange identifierContinueRanges first last ||
        (List.range ((last - first) / stride + 1)).all fun k => isWordCode (target + k * stride)

theorem isWordCode_of_keepsWords {first last stride target code : Nat}
    (h : keepsWords (first, last, stride, target) = true) (hfirst : first ≤ code)
    (hlast : code ≤ last) (hstride : (code - first) % stride = 0) (hcode : isWordCode code = true) :
    isWordCode (target + (code - first)) = true := by
  rcases Bool.or_eq_true_iff.mp h with h | heach
  · rcases Bool.or_eq_true_iff.mp h with hcovers | hmisses
    · exact inRanges_of_coversRange hcovers (by omega) (by omega)
    · have hnot := inRanges_of_missesRange hmisses hfirst hlast
      rw [isWordCode, hnot] at hcode
      cases hcode
  · -- the code point is that of a step of the run, which has been looked at by itself
    have hk : (code - first) / stride ∈ List.range ((last - first) / stride + 1) :=
      List.mem_range.mpr (Nat.lt_succ_of_le (Nat.div_le_div_right (by omega)))
    have hword := List.all_eq_true.mp heach _ hk
    rwa [Nat.div_mul_cancel (Nat.dvd_of_mod_eq_zero hstride)] at hword

/-- A mapping whose expansions and runs keep the characters of words keeps them past ASCII. -/
theorem isWordContinue_of_mem_mapCase {expansions : List (Nat × List Nat)}
    {runs : List (Nat × Nat × Nat × Nat)}
    (hexpansions : (expansions.all fun expansion => expansion.2.all isWordCode) = true)
    (hruns : runs.all keepsWords = true) {c x : Char} (hc : isWordContinue c = true)
    (hx : x ∈ mapCase expansions runs c) : isWordContinue x = true := by
  unfold mapCase at hx
  split at hx
  · next codes hlookup =>
      obtain ⟨code, hcode, rfl⟩ := List.mem_map.mp hx
      obtain ⟨before, after, hsplit, -⟩ := List.lookup_eq_some_iff.mp hlookup
      have hmem : (c.toNat, codes) ∈ expansions := by
        rw [hsplit]
        exact List.mem_append_right _ List.mem_cons_self
      exact isWordContinue_ofNat
        (List.all_eq_true.mp (List.all_eq_true.mp hexpansions _ hmem) code hcode)
  · split at hx
    · next code htarget =>
        rw [List.mem_singleton.mp hx]
        obtain ⟨⟨first, last, stride, target⟩, hrun, hcode⟩ :=
          List.exists_of_findSome?_eq_some htarget
        dsimp only at hcode
        split at hcode
        · next hin =>
            simp only [Bool.and_eq_true, decide_eq_true_eq, beq_iff_eq] at hin
            rw [← Option.some.inj hcode]
            exact isWordContinue_ofNat (isWordCode_of_keepsWords (List.all_eq_true.mp hruns _ hrun)
              hin.1.1 hin.1.2 hin.2 hc)
        · cases hcode
    · rw [List.mem_singleton.mp hx]
      exact hc

/-- Within ASCII a mapping that keeps a character or gives a letter of one case keeps the characters
of words. -/
theorem isWordContinue_of_ascii (change : Char → Char) (first last : Nat)
    (hall : ∀ n < 128, change (Char.ofNat n) = Char.ofNat n ∨
      first ≤ (change (Char.ofNat n)).toNat ∧ (change (Char.ofNat n)).toNat ≤ last)
    (hletters : coversRange identifierContinueRanges first last = true) {c : Char}
    (hascii : c.toNat < 128) (hc : isWordContinue c = true) :
    isWordContinue (change c) = true := by
  have hchange := hall c.toNat hascii
  rw [Char.ofNat_toNat] at hchange
  rcases hchange with heq | ⟨hfirst, hlast⟩
  · rw [heq]
    exact hc
  · exact inRanges_of_coversRange hletters hfirst hlast

/-- **The lower-case form of a character of words is made of such characters.** -/
theorem isWordContinue_of_mem_lowerChar {c x : Char} (hc : isWordContinue c = true)
    (hx : x ∈ lowerChar c) : isWordContinue x = true := by
  unfold lowerChar at hx
  split at hx
  · next hascii =>
      rw [List.mem_singleton.mp hx]
      exact isWordContinue_of_ascii Char.toLower 97 122 (by decide +kernel) (by decide +kernel)
        hascii hc
  · exact isWordContinue_of_mem_mapCase (by decide +kernel) (by decide +kernel) hc hx

/-- **The upper-case form of a character of words is made of such characters.** -/
theorem isWordContinue_of_mem_upperChar {c x : Char} (hc : isWordContinue c = true)
    (hx : x ∈ upperChar c) : isWordContinue x = true := by
  unfold upperChar at hx
  split at hx
  · next hascii =>
      rw [List.mem_singleton.mp hx]
      exact isWordContinue_of_ascii Char.toUpper 65 90 (by decide +kernel) (by decide +kernel)
        hascii hc
  · exact isWordContinue_of_mem_mapCase (by decide +kernel) (by decide +kernel) hc hx

end Source
end FixtureFactory
