/-!
# Decimal text

Whole numbers in decimal digits, plain or padded with zeros to a given width.
-/

namespace Kmip.Decimal

/-- The decimal digit of a value below ten. -/
def digit (value : Nat) : Char :=
  Char.ofNat (48 + value)

/-- The value of a decimal digit. -/
def digitValue? (c : Char) : Option Nat :=
  if '0' ≤ c ∧ c ≤ '9' then some (c.toNat - 48) else none

/-- The digits of `n`, most significant first, in front of `tail`. -/
def digitsOnto (n : Nat) (tail : List Char) : List Char :=
  if n < 10 then digit n :: tail else digitsOnto (n / 10) (digit (n % 10) :: tail)
termination_by n

/-- The digits of a number, without leading zeros. -/
def ofNat (n : Nat) : List Char :=
  digitsOnto n []

/-- The digits of a number, after a sign when it is negative. -/
def ofInt (n : Int) : List Char :=
  if n < 0 then '-' :: ofNat n.natAbs else ofNat n.natAbs

/-- The digits of a number, with zeros in front up to `width` characters. -/
def padded (width n : Nat) : List Char :=
  let digits := ofNat n
  List.replicate (width - digits.length) '0' ++ digits

/-- The number that decimal digits spell, after `high`. -/
def valueFrom? (high : Nat) : List Char → Option Nat
  | [] => some high
  | c :: rest => do valueFrom? (high * 10 + (← digitValue? c)) rest

/-- The number that one or more decimal digits spell. -/
def nat? : List Char → Option Nat
  | [] => none
  | digits => valueFrom? 0 digits

/-- The number that decimal digits spell, after an optional minus sign. -/
def int? : List Char → Option Int
  | '-' :: digits => (nat? digits).map fun n => -(n : Int)
  | digits => (nat? digits).map Int.ofNat

/-- The number that the first `width` characters spell, all of them digits, and what follows. -/
def takeDigits? (width : Nat) (text : List Char) : Option (Nat × List Char) := do
  let digits := text.take width
  guard (digits.length = width)
  pure (← valueFrom? 0 digits, text.drop width)

end Kmip.Decimal
