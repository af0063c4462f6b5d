import Kmip.Hex
import Mathlib.Tactic.IntervalCases
import Mathlib.Tactic.Lemma

/-!
# Hexadecimal digits

The digits of bytes spell these bytes (`decode_encodeUpper`).
-/

namespace Kmip.Hex

/-- An upper-case digit has the value that it was made for. -/
lemma digitValue?_upperDigit {value : Nat} (small : value < 16) :
    digitValue? (upperDigit value).toNat = some value := by
  interval_cases value <;> rfl

/-- A lower-case digit has the value that it was made for. -/
lemma digitValue?_lowerDigit {value : Nat} (small : value < 16) :
    digitValue? (lowerDigit value).toNat = some value := by
  interval_cases value <;> rfl

lemma toNat_upperDigit_lt {value : Nat} (small : value < 16) : (upperDigit value).toNat < 128 := by
  interval_cases value <;> decide

/-- The bytes of an array from a place on, behind those that are held. -/
lemma toList_loop_eq (bytes : ByteArray) (place : Nat) (held : Bytes) :
    ByteArray.toList.loop bytes place held = held.reverse ++ bytes.data.toList.drop place := by
  fun_induction ByteArray.toList.loop bytes place held with
  | case1 place held inside ih =>
    have some : place < bytes.data.toList.length := by simpa using inside
    rw [ih, List.drop_eq_getElem_cons some]
    simp [ByteArray.get!, inside]
  | case2 place held outside =>
    have none : bytes.data.toList.length ≤ place := by simpa using outside
    rw [List.drop_eq_nil_of_le none, List.append_nil]

lemma toList_eq (bytes : ByteArray) : bytes.toList = bytes.data.toList :=
  toList_loop_eq bytes 0 []

/-- Characters of a single byte each. -/
lemma toList_toUTF8_ofList {chars : List Char} (single : ∀ c ∈ chars, c.toNat < 128) :
    (String.ofList chars).toUTF8.toList = chars.map fun c => UInt8.ofNat c.toNat := by
  rw [toList_eq, String.toUTF8, String.toByteArray_ofList]
  induction chars with
  | nil => rfl
  | cons c chars ih =>
    obtain ⟨first, others⟩ := List.forall_mem_cons.1 single
    have size : c.utf8Size = 1 := Char.utf8Size_eq_one_iff.2 (UInt32.le_iff_toNat_le.2 (by
      exact Nat.le_of_lt_succ first))
    rw [List.utf8Encode_cons, ByteArray.toList_data_append, ih others, List.utf8Encode_singleton,
      String.utf8EncodeChar_eq_singleton size]
    rfl

lemma digitValue?_byte {value : Nat} (small : value < 16) :
    digitValue? (UInt8.ofNat (upperDigit value).toNat).toNat = some value := by
  have byte : (upperDigit value).toNat < UInt8.size :=
    (toNat_upperDigit_lt small).trans (by decide)
  rw [UInt8.toNat_ofNat_of_lt' byte, digitValue?_upperDigit small]

/-- A byte has two digits. -/
lemma digits_lt (byte : UInt8) : byte.toNat / 16 < 16 ∧ byte.toNat % 16 < 16 := by
  have small := byte.toNat_lt
  omega

lemma encodeWith_cons (digit : Nat → Char) (byte : UInt8) (bytes : Bytes) :
    encodeWith digit (byte :: bytes) =
      digit (byte.toNat / 16) :: digit (byte.toNat % 16) :: encodeWith digit bytes :=
  rfl

lemma length_encodeWith (digit : Nat → Char) (bytes : Bytes) :
    (encodeWith digit bytes).length = 2 * bytes.length := by
  induction bytes with
  | nil => rfl
  | cons byte bytes ih =>
    rw [encodeWith_cons, List.length_cons, List.length_cons, List.length_cons, ih]
    omega

lemma toNat_lt_of_mem_encodeWith {bytes : Bytes} :
    ∀ c ∈ encodeWith upperDigit bytes, c.toNat < 128 := by
  induction bytes with
  | nil => exact nofun
  | cons byte bytes ih =>
    obtain ⟨high, low⟩ := digits_lt byte
    rw [encodeWith_cons]
    exact List.forall_mem_cons.2 ⟨toNat_upperDigit_lt high,
      List.forall_mem_cons.2 ⟨toNat_upperDigit_lt low, ih⟩⟩

lemma decodeFrom_encodeWith (position : Nat) (bytes : Bytes) :
    decodeFrom position ((encodeWith upperDigit bytes).map fun c => UInt8.ofNat c.toNat) =
      .ok bytes := by
  induction bytes generalizing position with
  | nil => rfl
  | cons byte bytes ih =>
    obtain ⟨high, low⟩ := digits_lt byte
    rw [encodeWith_cons, List.map_cons, List.map_cons, decodeFrom, digitValue?_byte high,
      digitValue?_byte low]
    simp [ih, Nat.div_add_mod', pure, Except.pure, bind, Except.bind]

/-- The digits of bytes spell these bytes. -/
lemma decode_encodeUpper (bytes : Bytes) : decode (encodeUpper bytes) = .ok bytes := by
  have even : 2 * bytes.length % 2 = 0 := by omega
  simp only [decode, encodeUpper, toList_toUTF8_ofList toNat_lt_of_mem_encodeWith, List.length_map,
    length_encodeWith, even, if_true]
  exact decodeFrom_encodeWith 0 bytes

end Kmip.Hex
