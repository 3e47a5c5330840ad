import Mathlib.Data.String.Basic

/-!
# Texts in the order of their bytes

Texts are ordered character by character.  A text on a disk is its bytes, and a path is compared
with another byte by byte.  Both orders are the same: of two characters, the one with the smaller
code is encoded by bytes that come first, and no encoding starts another one.

* `encode_append_lt`: the first characters that differ decide about the bytes.
* `bytes_lt_bytes_iff`: the order of texts is that of their bytes.
-/

namespace FixtureFactory
namespace Text

/-- The bytes of a text. -/
def bytes (text : String) : List UInt8 := text.toUTF8.data.toList

theorem bytes_eq (text : String) : bytes text = text.toList.flatMap String.utf8EncodeChar := by
  have hencode : text.toUTF8 = text.toList.utf8Encode := by
    rw [String.toUTF8_eq_toByteArray, ← String.toByteArray_ofList, String.ofList_toList]
  unfold bytes
  rw [hencode]
  exact List.toList_data_toByteArray

theorem cons_lt_cons_iff {m n : Nat} (hm : m < 256) (hn : n < 256) {xs ys : List UInt8} :
    UInt8.ofNat m :: xs < UInt8.ofNat n :: ys ↔ m < n ∨ m = n ∧ xs < ys := by
  rw [List.cons_lt_cons_iff, UInt8.lt_iff_toNat_lt, ← UInt8.toNat_inj,
    UInt8.toNat_ofNat_of_lt' hm, UInt8.toNat_ofNat_of_lt' hn]

/-- **The first characters that differ decide**, whatever follows them. -/
theorem encode_append_lt {c d : Char} (h : c < d) (rest rest' : List UInt8) :
    String.utf8EncodeChar c ++ rest < String.utf8EncodeChar d ++ rest' := by
  have hcodes : c.val.toNat < d.val.toNat := h
  have hbound : d.val.toNat < 1114112 := by
    rcases d.valid with hd | hd <;> omega
  -- the digits of a code to the base 64, each from the one before
  have hthird : ∀ n, n / 4096 = n / 64 / 64 := by omega
  have hfourth : ∀ n, n / 262144 = n / 64 / 64 / 64 := by omega
  unfold String.utf8EncodeChar
  generalize c.val.toNat = m at *
  generalize d.val.toNat = n at *
  simp only [hthird, hfourth]
  -- one to four bytes for each of the two characters
  split_ifs <;>
    simp (disch := omega) only [List.cons_append, List.nil_append, cons_lt_cons_iff] <;> omega

theorem flatMap_encode_lt {cs ds : List Char} (h : cs < ds) :
    cs.flatMap String.utf8EncodeChar < ds.flatMap String.utf8EncodeChar := by
  induction cs generalizing ds with
  | nil =>
      cases ds with
      | nil => exact absurd h (by simp)
      | cons d ds =>
          obtain ⟨first, rest, hd⟩ :=
            List.exists_cons_of_ne_nil (String.utf8EncodeChar_ne_nil (c := d))
          simp [hd]
  | cons c cs ih =>
      cases ds with
      | nil => exact absurd h (by simp)
      | cons d ds =>
          simp only [List.flatMap_cons]
          rcases List.cons_lt_cons_iff.mp h with hfirst | ⟨rfl, hrest⟩
          · exact encode_append_lt hfirst _ _
          · exact List.append_left_lt (ih hrest)

/-- **The order of texts** is that of their bytes. -/
theorem bytes_lt_bytes_iff {a b : String} : bytes a < bytes b ↔ a < b := by
  have hforward : ∀ {a b : String}, a < b → bytes a < bytes b := by
    intro a b h
    rw [bytes_eq, bytes_eq]
    exact flatMap_encode_lt (String.lt_iff_toList_lt.mp h)
  constructor
  · intro h
    rcases lt_trichotomy a b with hlt | rfl | hgt
    · exact hlt
    · exact absurd h (List.lt_irrefl _)
    · exact absurd h (List.lt_asymm (hforward hgt))
  · exact hforward

end Text
end FixtureFactory
