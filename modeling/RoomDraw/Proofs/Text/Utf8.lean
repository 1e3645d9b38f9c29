import Mathlib.Tactic.Lemma
import Mathlib.Tactic.SplitIfs
import RoomDraw.Text.Utf8

/-!
# Texts are read back from their bytes

The bytes of a text are those of its characters, one character after the other. The bytes of
ASCII stand for themselves wherever they occur.
-/

namespace RoomDraw

namespace Utf8

lemma decode?_encode (s : String) : decode? (encode s) = some s := by
  have hbytes : (encode s).toByteArray = s.toByteArray := by
    apply ByteArray.ext
    rw [List.data_toByteArray, encode, Array.toArray_toList]
  rw [decode?, hbytes, String.fromUTF8?, dif_pos s.isValidUTF8]
  rfl

/-- Bytes spell a text only if they are the bytes of it. -/
lemma eq_encode_of_decode? {bytes : Bytes} {s : String} (h : decode? bytes = some s) :
    bytes = encode s := by
  rw [decode?, String.fromUTF8?] at h
  split at h
  · obtain rfl := Option.some.inj h
    simp [encode, String.fromUTF8]
  · cases h

/-! ### Characters -/

/-- The bytes of characters. -/
def ofChars (s : List Char) : Bytes := s.flatMap String.utf8EncodeChar

@[simp] lemma ofChars_nil : ofChars [] = [] := rfl

@[simp] lemma ofChars_append (s t : List Char) : ofChars (s ++ t) = ofChars s ++ ofChars t :=
  List.flatMap_append

lemma ofChars_cons (c : Char) (s : List Char) :
    ofChars (c :: s) = String.utf8EncodeChar c ++ ofChars s :=
  List.flatMap_cons

lemma encode_eq_ofChars (s : String) : encode s = ofChars s.toList := by
  have hbytes : s.toByteArray = (ofChars s.toList).toByteArray := by
    rw [← s.ofList_toList, String.toByteArray_ofList, String.toList_ofList]
    rfl
  rw [encode, hbytes, List.data_toByteArray]

lemma ofChars_ne_nil {s : List Char} (h : s ≠ []) : ofChars s ≠ [] := by
  obtain ⟨c, s, rfl⟩ := List.exists_cons_of_ne_nil h
  rw [ofChars_cons]
  exact List.append_ne_nil_of_left_ne_nil String.utf8EncodeChar_ne_nil _

/-- A character that is not of ASCII has no byte of ASCII. -/
lemma le_toNat_of_mem_utf8EncodeChar {b : UInt8} {c : Char} (hc : 127 < c.val.toNat)
    (h : b ∈ String.utf8EncodeChar c) : 128 ≤ b.toNat := by
  have hall : ∀ b ∈ String.utf8EncodeChar c, 128 ≤ b.toNat := by
    rw [String.utf8EncodeChar, if_neg (by omega)]
    split_ifs <;> simp only [List.forall_mem_cons, UInt8.toNat_ofNat'] <;>
      refine ⟨by omega, by omega, ?_⟩
    · simp
    · exact ⟨by omega, by simp⟩
    · exact ⟨by omega, by omega, by simp⟩
  exact hall b h

/-- Among the bytes of a character is one of ASCII only if the character is that one. -/
lemma toNat_eq_of_mem_utf8EncodeChar {b : UInt8} {c : Char}
    (h : b ∈ String.utf8EncodeChar c) (hb : b.toNat < 128) : c.toNat = b.toNat := by
  by_cases hc : c.val.toNat ≤ 127
  · rw [String.utf8EncodeChar, if_pos hc, List.mem_singleton] at h
    subst h
    rw [UInt8.toNat_ofNat', Nat.mod_eq_of_lt (by omega)]
    rfl
  · have := le_toNat_of_mem_utf8EncodeChar (by omega) h
    omega

end Utf8

end RoomDraw
