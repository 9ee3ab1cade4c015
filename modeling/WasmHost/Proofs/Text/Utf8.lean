import Mathlib.Data.List.Basic
import WasmHost.Text.Utf8

/-! The bytes of texts, character by character. -/

namespace WasmHost.Utf8

/-- The bytes of some characters. -/
def encode (text : List Char) : List UInt8 := text.flatMap String.utf8EncodeChar

@[simp] theorem encode_nil : encode [] = [] := rfl

@[simp] theorem encode_cons (c : Char) (text : List Char) :
    encode (c :: text) = String.utf8EncodeChar c ++ encode text := rfl

@[simp] theorem encode_append (first second : List Char) : encode (first ++ second) = encode first ++ encode second :=
  List.flatMap_append

theorem toByteArray_encode (text : List Char) : (encode text).toByteArray = (String.ofList text).toUTF8 := by
  rw [String.toUTF8_eq_toByteArray, String.toByteArray_ofList]
  rfl

/-- The elements of a byte array, whichever way they are listed. -/
theorem toList_eq (bytes : ByteArray) : bytes.toList = bytes.data.toList := by
  have size : bytes.data.toList.length = bytes.size := rfl
  have loop (count : Nat) : ∀ start listed, start + count = bytes.size →
      ByteArray.toList.loop bytes start listed = listed.reverse ++ bytes.data.toList.drop start := by
    -- The induction is on what is not listed yet.
    induction count with
    | zero =>
      intro start listed all
      rw [ByteArray.toList.loop, if_neg (by omega), List.drop_eq_nil_of_le (by omega), List.append_nil]
    | succ count ih =>
      intro start listed all
      have within : start < bytes.data.toList.length := by omega
      have here : bytes.get! start = bytes.data.toList[start] := getElem!_pos bytes.data start within
      rw [ByteArray.toList.loop, if_pos (by omega), ih (start + 1) _ (by omega), List.drop_eq_getElem_cons within, here]
      simp
  rw [ByteArray.toList, loop bytes.size 0 [] (Nat.zero_add _)]
  rfl

/-- The bytes of a text are those of its characters. -/
theorem toList_toUTF8 (text : String) : text.toUTF8.toList = encode text.toList := by
  have same := toByteArray_encode text.toList
  rw [String.ofList_toList] at same
  rw [← same, toList_eq, List.toList_data_toByteArray]

/-- A character of ASCII is one byte. -/
theorem encodeChar_of_ascii {c : Char} (ascii : c.toNat < 128) : String.utf8EncodeChar c = [c.toNat.toUInt8] := by
  rw [String.utf8EncodeChar]
  exact if_pos (Nat.le_of_lt_succ ascii)

/-- All bytes of other characters are beyond ASCII. -/
theorem high_of_mem_encodeChar {c : Char} (wide : 128 ≤ c.toNat) {b : UInt8} (member : b ∈ String.utf8EncodeChar c) :
    128 ≤ b.toNat := by
  have beyond : ¬ c.val.toNat ≤ 127 := by
    have : c.val.toNat = c.toNat := rfl
    omega
  rw [String.utf8EncodeChar] at member
  simp only [if_neg beyond] at member
  -- There may be two, three or four bytes, and each has its leading bit set.
  split_ifs at member <;> simp only [List.mem_cons, List.not_mem_nil, or_false] at member <;>
    rcases member with rfl | rfl | rfl | rfl <;> simp only [UInt8.toNat_ofNat'] <;> omega

/-- Bytes that are read as a text are the bytes of this text. -/
theorem text?_eq_some_iff {bytes : ByteArray} {text : String} : text? bytes = some text ↔ bytes = text.toUTF8 := by
  unfold text? String.fromUTF8?
  constructor
  · intro found
    split at found
    · cases found
      rfl
    · cases found
  · -- The bytes of a text are always valid.
    rintro rfl
    exact dif_pos text.isValidUTF8

end WasmHost.Utf8
