import Kmip.Text.Decimal

/-!
# Parts of a second

Nanoseconds that do not make a whole second, and decimal fractions without superfluous zeros.
-/

namespace Kmip

/-- Nanoseconds that do not make a whole second. -/
abbrev Nanos := Fin 1000000000

namespace Nanos

/-- No nanosecond. -/
def zero : Nanos := ⟨0, by decide⟩

/-- All nanoseconds but the last. -/
def last : Nanos := ⟨999999999, by decide⟩

/-- So many nanoseconds, if they do not make a whole second. -/
def ofNat? (count : Nat) : Option Nanos :=
  if fits : count < 1000000000 then some ⟨count, fits⟩ else none

end Nanos

/-- The digits of a fraction without the zeros at its end. -/
def Decimal.fraction (digits : List Char) : List Char :=
  (digits.reverse.dropWhile (· = '0')).reverse

end Kmip
