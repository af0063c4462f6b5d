import Kmip.BigInteger
import Mathlib.Data.List.Induction
import Mathlib.Tactic.Lemma
import Mathlib.Tactic.Ring

/-!
# Bytes as numbers

Big-endian bytes and the number that they denote determine each other (`toNat_bigEndian`,
`bigEndian_toNat`). `TwosComplement` says which integer bytes denote when their first bit is a sign;
that integer is the balanced residue of their number (`twosComplement_iff_bmod`).
-/

namespace Kmip

namespace Bytes

@[simp] lemma toNat_nil : toNat [] = 0 := rfl

@[simp] lemma toNat_concat (bytes : Bytes) (last : UInt8) :
    toNat (bytes ++ [last]) = toNat bytes * 256 + last.toNat := by
  simp [toNat]

/-- Bytes behind others shift these. -/
lemma toNat_append (high low : Bytes) :
    toNat (high ++ low) = toNat high * 256 ^ low.length + toNat low := by
  induction low using List.reverseRecOn with
  | nil => simp
  | append_singleton low last ih =>
    rw [← List.append_assoc, toNat_concat, ih, toNat_concat, List.length_append,
      List.length_singleton, Nat.pow_succ]
    ring

/-- The first byte is the highest. -/
lemma toNat_cons (first : UInt8) (rest : Bytes) :
    toNat (first :: rest) = first.toNat * 256 ^ rest.length + toNat rest := by
  have h := toNat_append [first] rest
  simpa [toNat] using h

/-- So many bytes denote so many numbers. -/
lemma toNat_lt (bytes : Bytes) : toNat bytes < 256 ^ bytes.length := by
  induction bytes using List.reverseRecOn with
  | nil => simp
  | append_singleton bytes last ih =>
    have byte := last.toNat_lt
    rw [toNat_concat, List.length_append, List.length_singleton, Nat.pow_succ]
    omega

/-- What stands behind a big-endian form stays there. -/
lemma bigEndianOnto_eq (width n : Nat) (tail : Bytes) :
    bigEndianOnto width n tail = bigEndian width n ++ tail := by
  induction width generalizing n tail with
  | zero => rfl
  | succ width ih =>
    rw [bigEndian, bigEndianOnto, bigEndianOnto, ih, ih (n / 256) [UInt8.ofNat n],
      List.append_assoc, List.singleton_append]

/-- The last byte of a big-endian form is the remainder. -/
lemma bigEndian_succ (width n : Nat) :
    bigEndian (width + 1) n = bigEndian width (n / 256) ++ [UInt8.ofNat n] := by
  rw [bigEndian, bigEndianOnto, bigEndianOnto_eq]

@[simp] lemma toNat_bigEndian (width n : Nat) : toNat (bigEndian width n) = n % 256 ^ width := by
  induction width generalizing n with
  | zero => simp [bigEndian, bigEndianOnto, Nat.mod_one]
  | succ width ih =>
    have byte : (UInt8.ofNat n).toNat = n % 256 := rfl
    rw [bigEndian_succ, toNat_concat, ih, byte, Nat.pow_succ, Nat.mul_comm (256 ^ width),
      Nat.mod_mul]
    omega

@[simp] lemma bigEndian_toNat (bytes : Bytes) : bigEndian bytes.length bytes.toNat = bytes := by
  induction bytes using List.reverseRecOn with
  | nil => rfl
  | append_singleton bytes last ih =>
    have byte := last.toNat_lt
    have high : (toNat bytes * 256 + last.toNat) / 256 = toNat bytes := by omega
    have low : UInt8.ofNat (toNat bytes * 256 + last.toNat) = last := by
      apply UInt8.toNat_inj.1
      simp only [UInt8.toNat_ofNat']
      omega
    rw [List.length_append, List.length_singleton, bigEndian_succ, toNat_concat, high, low, ih]

/-- Runs of one length that denote the same number are the same. -/
lemma eq_of_toNat_eq {left right : Bytes} (length : left.length = right.length)
    (same : left.toNat = right.toNat) : left = right := by
  rw [← bigEndian_toNat left, length, same, bigEndian_toNat]

/-- The integer that bytes denote when the first bit is their sign: the one of its residue class
that lies in the range of so many bytes. -/
structure TwosComplement (bytes : Bytes) (value : Int) : Prop where
  residue : (256 ^ bytes.length : Int) ∣ value - bytes.toNat
  lower : -(256 ^ bytes.length : Int) ≤ 2 * value
  upper : 2 * value < (256 ^ bytes.length : Int)

/-- Powers of the base are even, but for the first. -/
lemma pow_eq_one_or_even (width : Nat) : 256 ^ width = 1 ∨ ∃ half, 256 ^ width = 2 * half := by
  cases width with
  | zero => exact .inl rfl
  | succ width => exact .inr ⟨256 ^ width * 128, by rw [Nat.pow_succ]; ring⟩

/-- The integer of a run of bytes is the balanced remainder of its number. -/
lemma twosComplement_iff_bmod {bytes : Bytes} {value : Int} :
    TwosComplement bytes value ↔ value = (bytes.toNat : Int).bmod (256 ^ bytes.length) := by
  have positive : 0 < 256 ^ bytes.length := Nat.pow_pos (by decide)
  have cast : ((256 ^ bytes.length : Nat) : Int) = 256 ^ bytes.length := by simp
  constructor
  · rintro ⟨residue, lower, upper⟩
    rw [← cast] at residue lower upper
    generalize 256 ^ bytes.length = modulus at *
    rw [← Int.bmod_eq_of_le_mul_two (x := value) (y := modulus) (by omega) (by omega)]
    exact Int.bmod_eq_bmod_iff_bmod_sub_eq_zero.2 (Int.bmod_eq_zero_of_dvd residue)
  · rintro rfl
    have lower := Int.le_bmod (x := bytes.toNat) positive
    have upper := Int.bmod_lt (x := bytes.toNat) positive
    have parity := pow_eq_one_or_even bytes.length
    refine ⟨?_, ?_, ?_⟩ <;> rw [← cast] <;> generalize 256 ^ bytes.length = modulus at *
    · exact Int.dvd_bmod_sub_self
    all_goals
      obtain rfl | ⟨half, rfl⟩ := parity <;> omega

end Bytes

end Kmip
