import Kmip.Proofs.Bytes
import Mathlib.Tactic.Linarith
import Mathlib.Tactic.Positivity

/-!
# Big integers as bytes

`decode` gives the integer that bytes denote in two's complement (`decode_eq_iff`). `encode` gives
bytes that denote its value (`twosComplement_encode`), and these are the only ones that are as short
as whole groups of eight bytes allow (`IsShortest.eq_encode`).
-/

namespace Kmip

/-- Bytes denote one integer only. -/
lemma Bytes.TwosComplement.unique {bytes : Bytes} {left right : Int}
    (hl : bytes.TwosComplement left) (hr : bytes.TwosComplement right) : left = right := by
  rw [Bytes.twosComplement_iff_bmod] at hl hr
  rw [hl, hr]

/-- Runs of one length that denote the same integer are the same. -/
lemma Bytes.TwosComplement.eq_of_length {left right : Bytes} {value : Int}
    (hl : left.TwosComplement value) (hr : right.TwosComplement value)
    (length : left.length = right.length) : left = right := by
  apply Bytes.eq_of_toNat_eq length
  have residue := Int.dvd_sub hr.residue (length ▸ hl.residue)
  have hl := Bytes.toNat_lt left
  have hr := Bytes.toNat_lt right
  rw [length] at hl
  have cast : ((256 ^ right.length : Nat) : Int) = 256 ^ right.length := by simp
  rw [← cast] at residue
  generalize 256 ^ right.length = modulus at *
  -- the numbers differ by a multiple of the modulus, and by less than the modulus
  obtain ⟨factor, residue⟩ := residue
  have zero : factor = 0 := by
    by_contra nonzero
    rcases Int.lt_or_gt_of_ne nonzero with neg | pos
    · nlinarith
    · nlinarith
  subst zero
  omega

namespace BigInteger

/-- The value of bytes is the one that they denote. -/
lemma twosComplement_decode (bytes : Bytes) : bytes.TwosComplement (decode bytes) := by
  cases bytes with
  | nil => exact ⟨by simp [decode], by simp [decode], by simp [decode]⟩
  | cons first rest =>
    have low := Bytes.toNat_lt rest
    have high := first.toNat_lt
    have number := Bytes.toNat_cons first rest
    have power : 256 ^ (first :: rest).length = 256 * 256 ^ rest.length := by
      rw [List.length_cons, Nat.pow_succ, Nat.mul_comm]
    have cast : ((256 ^ (first :: rest).length : Nat) : Int) = 256 ^ (first :: rest).length := by
      simp
    have value : decode (first :: rest) = if first.toNat < 128
        then (Bytes.toNat (first :: rest) : Int)
        else (Bytes.toNat (first :: rest) : Int) - (256 ^ (first :: rest).length : Nat) := rfl
    rw [value]
    constructor <;> rw [← cast] <;> rw [power] <;> split
    · simp
    · simp
    all_goals
      rw [number]
      generalize 256 ^ rest.length = modulus at *
      generalize Bytes.toNat rest = lower at *
      generalize first.toNat = digit at *
      push_cast
      nlinarith

/-- Bytes have the value that they denote. -/
lemma decode_eq_iff {bytes : Bytes} {value : Int} :
    decode bytes = value ↔ bytes.TwosComplement value := by
  constructor
  · rintro rfl
    exact twosComplement_decode bytes
  · intro h
    exact (twosComplement_decode bytes).unique h

/-- A number has so many binary digits at most if it is below that power of two. -/
lemma bitLength_le_iff {n count : Nat} : bitLength n ≤ count ↔ n < 2 ^ count := by
  unfold bitLength
  split
  · next zero => simp [zero]
  · next nonzero => exact Nat.log2_lt nonzero

/-- So many groups hold a value if it lies in their range. -/
lemma groups_le_iff {value : Int} {count : Nat} (some : 0 < count) :
    groups value ≤ count ↔
      -(256 ^ (8 * count) : Int) ≤ 2 * value ∧ 2 * value < (256 ^ (8 * count) : Int) := by
  -- a group has 64 binary digits, and one digit of all groups together is the sign
  have half : 256 ^ (8 * count) = 2 * 2 ^ (64 * count - 1) := by
    rw [← Nat.pow_succ', show (64 * count - 1).succ = 8 * (8 * count) by omega, Nat.pow_mul 2 8]
  have cast : (256 ^ (8 * count) : Int) = 2 * (2 ^ (64 * count - 1) : Nat) := by exact_mod_cast half
  have digits : groups value ≤ count ↔ bitLength (magnitude value) ≤ 64 * count - 1 := by
    unfold groups
    omega
  rw [digits, bitLength_le_iff, cast]
  generalize 2 ^ (64 * count - 1) = bound
  unfold magnitude
  split <;> omega

/-- The written form of a value denotes it. -/
lemma twosComplement_encode (value : Int) : (encode value).TwosComplement value := by
  obtain ⟨lower, upper⟩ : -(256 ^ (8 * groups value) : Int) ≤ 2 * value ∧
      2 * value < (256 ^ (8 * groups value) : Int) := (groups_le_iff (Nat.succ_pos _)).1 le_rfl
  have length : (encode value).length = 8 * groups value := Bytes.length_bigEndian _ _
  have positive : (0 : Int) < (256 ^ (8 * groups value) : Nat) := by positivity
  have number : ((encode value).toNat : Int) = value % (256 ^ (8 * groups value) : Nat) := by
    have below := Int.emod_lt_of_pos value positive
    have above := Int.emod_nonneg value positive.ne'
    have pow : Nat.pow 256 (8 * groups value) = 256 ^ (8 * groups value) := rfl
    simp only [encode, Bytes.toNat_bigEndian, pow]
    generalize 256 ^ (8 * groups value) = modulus at *
    rw [Nat.mod_eq_of_lt (by omega)]
    omega
  refine ⟨?_, ?_, ?_⟩ <;> rw [length]
  · rw [number]
    exact_mod_cast Int.dvd_self_sub_emod
  · exact lower
  · exact upper

/-- Whole groups of eight bytes, of which no fewer than these hold the value. -/
structure IsShortest (bytes : Bytes) (value : Int) : Prop where
  ne_nil : bytes ≠ []
  le_length : ∀ other : Bytes, other ≠ [] → other.length % 8 = 0 → other.TwosComplement value →
    bytes.length ≤ other.length

/-- The shortest bytes that denote a value are its written form. -/
lemma IsShortest.eq_encode {bytes : Bytes} {value : Int} (shortest : IsShortest bytes value)
    (whole : bytes.length % 8 = 0) (denoted : bytes.TwosComplement value) :
    bytes = encode value := by
  have length : (encode value).length = 8 * groups value := Bytes.length_bigEndian _ _
  have some : 0 < groups value := Nat.succ_pos _
  have nonempty : 0 < bytes.length := List.length_pos_iff.2 shortest.ne_nil
  have encoded := twosComplement_encode value
  -- each of the two is no longer than the other one
  apply denoted.eq_of_length encoded
  have upper : bytes.length ≤ (encode value).length := by
    apply shortest.le_length _ _ (length_encode_mod value) encoded
    exact List.ne_nil_of_length_pos (by omega)
  have lower : groups value ≤ bytes.length / 8 := by
    have count : 8 * (bytes.length / 8) = bytes.length := by omega
    rw [groups_le_iff (by omega), count]
    exact ⟨denoted.lower, denoted.upper⟩
  omega

/-- The written form of a value is no longer than other groups of bytes that denote it. -/
lemma length_encode_le {bytes : Bytes} {value : Int} (some : bytes ≠ [])
    (whole : bytes.length % 8 = 0) (denoted : bytes.TwosComplement value) :
    (encode value).length ≤ bytes.length := by
  have length : (encode value).length = 8 * groups value := Bytes.length_bigEndian _ _
  have positive := List.length_pos_iff.2 some
  have count : 8 * (bytes.length / 8) = bytes.length := by omega
  have fewer : groups value ≤ bytes.length / 8 := by
    rw [groups_le_iff (by omega), count]
    exact ⟨denoted.lower, denoted.upper⟩
  omega

/-- The written form of a value is as short as can be. -/
lemma isShortest_encode (value : Int) : IsShortest (encode value) value where
  ne_nil := by
    have length : (encode value).length = 8 * groups value := Bytes.length_bigEndian _ _
    have some : 0 < groups value := Nat.succ_pos _
    exact List.ne_nil_of_length_pos (by omega)
  le_length _ some whole denoted := length_encode_le some whole denoted

end BigInteger

end Kmip
