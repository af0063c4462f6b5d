import Kmip.Json

/-!
# Numbers of JSON texts

A number without point and exponent is whole if it fits 64 bits, signed or not; every other number is
rounded to double precision. The leading digits that fit an unsigned word are taken as they are, and
scaled by a power of ten.
-/

namespace Kmip.Json

/-- The parts of a number as it is written. -/
structure Numeral where
  negative : Bool
  whole : List Char
  /-- The digits behind the point. -/
  fraction : Option (List Char)
  /-- The exponent, and whether it is negative. -/
  exponent : Option (Bool × List Char)
deriving Repr

/-- Whether a character is a decimal digit. -/
def isDigit (c : Char) : Bool :=
  (Decimal.digitValue? c).isSome

/-- The leading digits of a text, at least one, and what follows them. -/
def digits? (text : List Char) : Option (List Char × List Char) :=
  let digits := text.takeWhile isDigit
  if digits.isEmpty then none else some (digits, text.drop digits.length)

/-- The whole part of a number: a zero, or digits that do not start with one. -/
def whole? (text : List Char) : Option (List Char × List Char) := do
  let (digits, rest) ← digits? text
  guard (digits.length = 1 ∨ digits.head? ≠ some '0')
  pure (digits, rest)

/-- The fraction of a number, if a point announces one. -/
def fraction? : List Char → Option (Option (List Char) × List Char)
  | '.' :: rest => do
    let (digits, rest) ← digits? rest
    pure (some digits, rest)
  | rest => some (none, rest)

/-- The exponent of a number, if a letter announces one. -/
def exponent? : List Char → Option (Option (Bool × List Char) × List Char)
  | 'e' :: rest | 'E' :: rest => do
    let (negative, rest) := match rest with
      | '+' :: rest => (false, rest)
      | '-' :: rest => (true, rest)
      | rest => (false, rest)
    let (digits, rest) ← digits? rest
    pure (some (negative, digits), rest)
  | rest => some (none, rest)

/-- The number at the start of a text, and what follows it. -/
def numeral? (text : List Char) : Option (Numeral × List Char) := do
  let (negative, rest) := match text with
    | '-' :: rest => (true, rest)
    | rest => (false, rest)
  let (whole, rest) ← whole? rest
  let (fraction, rest) ← fraction? rest
  let (exponent, rest) ← exponent? rest
  pure (⟨negative, whole, fraction, exponent⟩, rest)

/-- The first number that does not fit an unsigned word of 64 bits. -/
def wordLimit : Nat := 18446744073709551616

/-- The number of a word followed by as many digits as fit a word, and how many those are. -/
def absorb (word : Nat) : List Char → Nat × Nat
  | [] => (word, 0)
  | c :: rest =>
    let next := word * 10 + (c.toNat - 48)
    if next < wordLimit then
      let (word, count) := absorb next rest
      (word, count + 1)
    else (word, 0)

/-- A power of ten in double precision. -/
def tenPower (exponent : Nat) : Float :=
  Float.ofScientific 1 false exponent

/-- A number divided by a power of ten, in steps of the largest such power. -/
def scaleDown (number : Float) (exponent : Nat) : (steps : Nat) → Float
  | 0 => number
  | steps + 1 =>
    if exponent ≤ 308 then number / tenPower exponent
    else scaleDown (number / tenPower 308) (exponent - 308) steps

/-- A word times a power of ten; none when that is beyond all numbers. -/
def scale? (word : Nat) (exponent : Int) : Option Float :=
  let number := (UInt64.ofNat word).toFloat
  if word = 0 then some number
  else if exponent < 0 then some (scaleDown number exponent.natAbs 4)
  else if 308 < exponent then none
  else
    let product := number * tenPower exponent.toNat
    if product.isInf then none else some product

namespace Numeral

/-- A number whose magnitude is rounded to double precision. -/
def float (numeral : Numeral) (magnitude : Float) : Json :=
  .float (if numeral.negative then -magnitude else magnitude)

/-- The number of a numeral that is not whole. -/
def rounded? (numeral : Numeral) : Option Json := do
  let (word, kept) := absorb 0 numeral.whole
  let (word, places) := absorb word (numeral.fraction.getD [])
  let (negative, digits) := numeral.exponent.getD (false, [])
  let exponent := (← Decimal.valueFrom? 0 digits)
  let shift : Int := (numeral.whole.length - kept : Nat) - (places : Int)
  let magnitude ← scale? word (if negative then shift - exponent else shift + exponent)
  pure (numeral.float magnitude)

/-- The value of a numeral; none when it is beyond all numbers. -/
def value? (numeral : Numeral) : Option Json :=
  if numeral.fraction.isSome ∨ numeral.exponent.isSome then numeral.rounded?
  else do
    let n ← Decimal.valueFrom? 0 numeral.whole
    if numeral.negative then
      if 0 < n ∧ n ≤ wordLimit / 2 then pure (.integer (-n)) else numeral.rounded?
    else
      if n < wordLimit then pure (.integer n) else numeral.rounded?

end Numeral

end Kmip.Json
