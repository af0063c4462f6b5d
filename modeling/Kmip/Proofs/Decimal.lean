import Kmip.Nanos
import Mathlib.Data.List.DropRight
import Mathlib.Tactic.IntervalCases
import Mathlib.Tactic.Lemma

/-!
# Decimal digits

The digits of a number spell it, with zeros in front of them or without (`valueFrom?_ofNat`,
`valueFrom?_padded`), and those of a fraction, with the zeros that were cut from their end
(`fraction_append_zeros`).
-/

namespace Kmip.Decimal

/-- A digit has the value that it was made for. -/
lemma digitValue?_digit {value : Nat} (small : value < 10) :
    digitValue? (digit value) = some value := by
  interval_cases value <;> rfl

lemma valueFrom?_digitsOnto (n : Nat) (tail : List Char) :
    valueFrom? 0 (digitsOnto n tail) = valueFrom? n tail := by
  induction n using Nat.strongRecOn generalizing tail with
  | ind n ih =>
    rw [digitsOnto]
    split
    · next small => simp [valueFrom?, digitValue?_digit small]
    · next large =>
      have last := digitValue?_digit (Nat.mod_lt n (by decide : 0 < 10))
      rw [ih (n / 10) (by omega), valueFrom?, last]
      simp [Nat.div_add_mod']

/-- The digits of a number spell it. -/
lemma valueFrom?_ofNat (n : Nat) : valueFrom? 0 (ofNat n) = some n :=
  valueFrom?_digitsOnto n []

/-- Zeros in front of digits change nothing. -/
lemma valueFrom?_zeros (count : Nat) (digits : List Char) :
    valueFrom? 0 (List.replicate count '0' ++ digits) = valueFrom? 0 digits := by
  induction count with
  | zero => rfl
  | succ count ih => exact ih

lemma valueFrom?_padded (width n : Nat) : valueFrom? 0 (padded width n) = some n :=
  (valueFrom?_zeros _ _).trans (valueFrom?_ofNat n)

lemma isSome_digitValue?_digitsOnto {n : Nat} {tail : List Char}
    (digits : ∀ c ∈ tail, (digitValue? c).isSome) :
    ∀ c ∈ digitsOnto n tail, (digitValue? c).isSome := by
  induction n using Nat.strongRecOn generalizing tail with
  | ind n ih =>
    rw [digitsOnto]
    split
    · next small =>
      refine List.forall_mem_cons.2 ⟨?_, digits⟩
      rw [digitValue?_digit small]
      rfl
    · next large =>
      refine ih (n / 10) (by omega) (List.forall_mem_cons.2 ⟨?_, digits⟩)
      rw [digitValue?_digit (Nat.mod_lt n (by decide))]
      rfl

/-- A number is made of digits. -/
lemma isSome_digitValue?_ofNat (n : Nat) : ∀ c ∈ ofNat n, (digitValue? c).isSome :=
  isSome_digitValue?_digitsOnto nofun

lemma isSome_digitValue?_padded (width n : Nat) : ∀ c ∈ padded width n, (digitValue? c).isSome := by
  refine List.forall_mem_append.2 ⟨fun c mem => ?_, isSome_digitValue?_ofNat n⟩
  rw [List.eq_of_mem_replicate mem]
  rfl

lemma exists_head_digitsOnto {n : Nat} (positive : 0 < n) (tail : List Char) :
    ∃ value rest, 0 < value ∧ value < 10 ∧ digitsOnto n tail = digit value :: rest := by
  induction n using Nat.strongRecOn generalizing tail with
  | ind n ih =>
    rw [digitsOnto]
    split
    · next small => exact ⟨n, tail, positive, small, rfl⟩
    · next large => exact ih (n / 10) (by omega) (by omega) _

/-- Only the number zero starts with a zero. -/
lemma head?_ofNat_ne_zero {n : Nat} (positive : 0 < n) : (ofNat n).head? ≠ some '0' := by
  obtain ⟨value, rest, nonzero, small, spelled⟩ := exists_head_digitsOnto positive []
  rw [ofNat, spelled, List.head?_cons]
  interval_cases value <;> decide

lemma ofNat_ne_nil (n : Nat) : ofNat n ≠ [] := by
  intro none
  have spelled := valueFrom?_ofNat n
  rw [none] at spelled
  obtain rfl : 0 = n := by simpa [valueFrom?] using spelled
  simp [ofNat, digitsOnto] at none

lemma length_digitsOnto_le {n width : Nat} (fits : n < 10 ^ (width + 1)) (tail : List Char) :
    (digitsOnto n tail).length ≤ width + 1 + tail.length := by
  induction width generalizing n tail with
  | zero =>
    rw [digitsOnto, if_pos (by simpa using fits), List.length_cons]
    omega
  | succ width ih =>
    rw [digitsOnto]
    split
    · rw [List.length_cons]
      omega
    · have shorter := ih (Nat.div_lt_of_lt_mul (by rwa [pow_succ'] at fits)) (digit (n % 10) :: tail)
      rw [List.length_cons] at shorter
      omega

lemma length_padded {n width : Nat} (positive : 0 < width) (fits : n < 10 ^ width) :
    (padded width n).length = width := by
  obtain ⟨width, rfl⟩ := Nat.exists_eq_add_one.2 positive
  have short : (ofNat n).length ≤ width + 1 := length_digitsOnto_le fits []
  rw [padded, List.length_append, List.length_replicate, Nat.sub_add_cancel short]

/-- A padded number is taken as what it spells. -/
lemma takeDigits?_padded {n width : Nat} (positive : 0 < width) (fits : n < 10 ^ width)
    (rest : List Char) : takeDigits? width (padded width n ++ rest) = some (n, rest) := by
  have length := length_padded positive fits
  rw [takeDigits?, List.take_left' length, List.drop_left' length, length, valueFrom?_padded]
  simp

/-- Digits spell less than the power of ten behind them. -/
lemma valueFrom?_lt {digits : List Char} {high n : Nat} (found : valueFrom? high digits = some n) :
    n < (high + 1) * 10 ^ digits.length := by
  induction digits generalizing high with
  | nil =>
    obtain rfl := Option.some.inj found
    simp
  | cons c rest ih =>
    obtain ⟨digit, read, others⟩ := Option.bind_eq_some_iff.1 found
    have small : digit < 10 := by
      unfold digitValue? at read
      split at read
      · next within =>
        obtain rfl := Option.some.inj read
        have most : c.toNat ≤ '9'.toNat := within.2
        have nine : '9'.toNat = 57 := rfl
        omega
      · cases read
    calc n < (high * 10 + digit + 1) * 10 ^ rest.length := ih others
      _ ≤ ((high + 1) * 10) * 10 ^ rest.length := Nat.mul_le_mul_right _ (by omega)
      _ = (high + 1) * 10 ^ (rest.length + 1) := by rw [pow_succ', Nat.mul_assoc]

/-- A number of so many digits is below the power of ten. -/
lemma takeDigits?_lt {width n : Nat} {text rest : List Char}
    (found : takeDigits? width text = some (n, rest)) : n < 10 ^ width := by
  simp only [takeDigits?, Option.bind_eq_bind, Option.bind_eq_some_iff, Option.guard_eq_some',
    Option.pure_def, Option.some.injEq, Prod.mk.injEq, exists_const] at found
  obtain ⟨length, value, read, rfl, -⟩ := found
  have below := valueFrom?_lt read
  rwa [length, Nat.zero_add, Nat.one_mul] at below

/-- The digits of a fraction, and the zeros that were cut from their end. -/
lemma fraction_append_zeros (digits : List Char) :
    fraction digits ++ List.replicate (digits.length - (fraction digits).length) '0' = digits := by
  let cut : Char → Bool := (· = '0')
  have whole : fraction digits ++ digits.rtakeWhile cut = digits :=
    List.rdropWhile_append_rtakeWhile
  have zeros : digits.rtakeWhile cut =
      List.replicate (digits.length - (fraction digits).length) '0' := by
    refine List.eq_replicate_iff.2 ⟨?_, fun c mem => ?_⟩
    · have lengths := congrArg List.length whole
      rw [List.length_append] at lengths
      omega
    · simpa [cut] using List.mem_rtakeWhile_imp mem
  rw [← zeros, whole]

lemma fraction_subset (digits : List Char) : fraction digits ⊆ digits := by
  intro c mem
  rw [← fraction_append_zeros digits]
  exact List.mem_append_left _ mem

end Kmip.Decimal
