import Mathlib.Data.List.Basic

/-!
The order of texts is the order of their bytes in UTF-8: whichever character
comes first has the lesser bytes, whatever follows it.
-/

namespace AssetLink.Text

def bytes (text : String) : List UInt8 :=
  text.toUTF8.data.toList

def encode (cs : List Char) : List UInt8 :=
  cs.flatMap String.utf8EncodeChar

theorem bytes_eq_encode (text : String) : bytes text = encode text.toList := by
  rw [bytes, String.toUTF8_eq_toByteArray, ← String.utf8Encode_toList, List.utf8Encode,
    List.data_toByteArray]
  rfl

theorem encodeChar_ne_nil (c : Char) : String.utf8EncodeChar c ≠ [] := by
  have length := String.length_utf8EncodeChar c
  have positive := c.utf8Size_pos
  intro empty
  rw [empty, List.length_nil] at length
  omega

theorem toNat_byte {n : Nat} (h : n < 256) : (UInt8.ofNat n).toNat = n :=
  UInt8.toNat_ofNat_of_lt' h

theorem encodeChar_lt {c d : Char} (h : c < d) (x y : List UInt8) :
    String.utf8EncodeChar c ++ x < String.utf8EncodeChar d ++ y := by
  have less : c.val.toNat < d.val.toNat := h
  have bound : d.val.toNat < 1114112 := by
    rcases d.valid with low | high
    · exact Nat.lt_trans low (by decide)
    · exact high.2
  have twice : ∀ v : Nat, v / 4096 = v / 64 / 64 := by omega
  have thrice : ∀ v : Nat, v / 262144 = v / 64 / 64 / 64 := by omega
  unfold String.utf8EncodeChar
  dsimp only
  split_ifs <;>
    simp (disch := omega) only [List.cons_append, List.nil_append, List.cons_lt_cons_iff,
      UInt8.lt_iff_toNat_lt, ← UInt8.toNat_inj, toNat_byte, twice, thrice] <;>
    omega

theorem encode_lt_encode {cs ds : List Char} (h : cs < ds) : encode cs < encode ds := by
  induction h with
  | nil =>
      rename_i d ds
      change ([] : List UInt8) < String.utf8EncodeChar d ++ encode ds
      have some := encodeChar_ne_nil d
      cases bytes : String.utf8EncodeChar d with
      | nil => exact absurd bytes some
      | cons byte rest => exact List.nil_lt_cons _ _
  | rel first => exact encodeChar_lt first _ _
  | cons _ ih => exact List.append_left_lt ih

/-- Texts are ordered as their bytes are. -/
theorem bytes_lt_bytes_iff {a b : String} : bytes a < bytes b ↔ a < b := by
  rw [bytes_eq_encode, bytes_eq_encode]
  constructor
  · intro h
    by_contra notLess
    have other : b ≤ a := String.not_lt.1 notLess
    rcases List.le_iff_lt_or_eq.1 other with less | same
    · exact List.lt_asymm h (encode_lt_encode less)
    · rw [same] at h
      exact List.lt_irrefl _ h
  · exact encode_lt_encode

end AssetLink.Text
