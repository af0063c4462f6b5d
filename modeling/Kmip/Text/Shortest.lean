import Kmip.Text.Decimal

/-!
# Shortest decimals of floating-point numbers

Among the decimals that read back as a given number, the one with the fewest digits, and of several
such the one nearest to the number; a tie goes to the even last digit. All comparisons are made between whole numbers.
-/

namespace Kmip.Shortest

/-- A positive floating-point number: `mantissa` times two to the power `exponent`. -/
structure Binary where
  mantissa : Nat
  exponent : Int
  /-- Whether the next smaller number is only half as far away as the next larger one. -/
  narrow : Bool
deriving DecidableEq, Repr

/-- A decimal: `digits` times ten to the power `exponent`. -/
structure Places where
  digits : Nat
  exponent : Int
deriving DecidableEq, Repr

/-- Two to an integer power as a fraction. -/
def twoPower (exponent : Int) : Nat × Nat :=
  (Nat.pow 2 exponent.toNat, Nat.pow 2 (-exponent).toNat)

/-- Ten to an integer power as a fraction. -/
def tenPower (exponent : Int) : Nat × Nat :=
  (Nat.pow 10 exponent.toNat, Nat.pow 10 (-exponent).toNat)

/-- Of the two neighbouring multiples `below * step` and `(below + 1) * step` of a step, between which
a value lies, the factor of the nearer one; of two that are equally near, the even one. -/
def nearer (value step below : Nat) : Nat :=
  let above := below + 1
  let toBelow := value - below * step
  let toAbove := above * step - value
  if toBelow < toAbove ∨ toBelow = toAbove ∧ below % 2 = 0 then below else above

/-- The multiple of ten to the power `place` that reads back as the number and is nearest to it; of
two that are equally near, the even one. The number and the ends of the interval of what reads back
as it are counted in quarters of its last binary place. -/
def multiple? (number : Binary) (place : Int) : Option Nat :=
  let (twoUp, twoDown) := twoPower (number.exponent - 2)
  let (tenUp, tenDown) := tenPower place
  let unit := twoUp * tenDown
  let step := tenUp * twoDown
  let value := 4 * number.mantissa * unit
  let low := (4 * number.mantissa - if number.narrow then 1 else 2) * unit
  let high := (4 * number.mantissa + 2) * unit
  let inside : Nat → Bool := fun n =>
    if number.mantissa % 2 = 0 then low ≤ n * step && n * step ≤ high
    else low < n * step && n * step < high
  let below := value / step
  let above := below + 1
  match inside below, inside above with
  | true, true => some (nearer value step below)
  | true, false => some below
  | false, true => some above
  | false, false => none

/-- The first place, from `place` downwards, at which a multiple reads back as the number. -/
def search (number : Binary) (place : Int) : (steps : Nat) → Places
  | 0 => ⟨0, 0⟩
  | steps + 1 =>
    match multiple? number place with
    | some digits => ⟨digits, place⟩
    | none => search number (place - 1) steps

/-- The shortest decimal of a number of double precision. -/
def ofBinary (number : Binary) : Places :=
  search number 309 680

/-- The bit in front of the 52 bits of a mantissa, which is not stored. -/
def leadingBit : Nat := 4503599627370496

/-- The magnitude of a finite number of double precision, unless it is zero. -/
def binary? (bits : UInt64) : Option Binary :=
  let fraction : Nat := bits.toNat % leadingBit
  let power : Nat := bits.toNat / leadingBit % 2048
  if power = 0 then
    if fraction = 0 then none else some ⟨fraction, -1074, false⟩
  else some ⟨leadingBit + fraction, (power : Int) - 1075, fraction = 0 ∧ 1 < power⟩

/-- A decimal in positional form from 0.00001 up to sixteen digits before the point, and in scientific
form with a signed exponent beyond that. -/
def Places.text (places : Places) : List Char :=
  let digits := Decimal.ofNat places.digits
  let leading := (digits.length : Int) - 1 + places.exponent
  if -5 ≤ leading ∧ leading < 16 then
    if 0 ≤ places.exponent then digits ++ List.replicate places.exponent.toNat '0' ++ ['.', '0']
    else if 0 ≤ leading then
      digits.take (leading.toNat + 1) ++ '.' :: digits.drop (leading.toNat + 1)
    else '0' :: '.' :: List.replicate (-leading - 1).toNat '0' ++ digits
  else
    let fraction := digits.drop 1
    digits.take 1 ++ (if fraction.isEmpty then [] else '.' :: fraction) ++
      'e' :: (if leading < 0 then '-' else '+') :: Decimal.ofNat leading.natAbs

/-- The text of a finite number. -/
def text (number : Float) : List Char :=
  let bits := number.toBits
  let sign := if bits.toNat < 9223372036854775808 then [] else ['-']
  match binary? bits with
  | none => sign ++ ['0', '.', '0']
  | some magnitude => sign ++ (ofBinary magnitude).text

end Kmip.Shortest
