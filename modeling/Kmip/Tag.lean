import Kmip.Hex
import Kmip.Tag.Registry

/-!
# Tags

The number that says what an item is. A tag is written as the name that the registry gives it, and
as a hexadecimal number when the registry has none.
-/

namespace Kmip

/-- What an item is. -/
structure Tag where
  code : UInt32
deriving DecidableEq, Repr, Inhabited

namespace Tag

/-- Why a text names no tag. -/
inductive Fault where
  /-- No tag has this name. -/
  | unknownName (name : String)
  /-- The text announces a hexadecimal number and goes on with something else. -/
  | badNumber (text : String)
deriving DecidableEq, Repr

/-- The text of a refusal. -/
def Fault.message : Fault → String
  | .unknownName name => s!"unknown tag name: {name}"
  | .badNumber text => s!"invalid hex tag: {text}"

/-- The name that the registry gives to a tag. -/
def registered? (tag : Tag) : Option String :=
  (registry.find? fun entry => entry.2 = tag.code).map Prod.fst

/-- The tag of a name, be it canonical or an alias. -/
def named? (name : String) : Option Tag :=
  ((registry ++ aliases).find? fun entry => entry.1 = name).map fun entry => ⟨entry.2⟩

/-- A tag as a number: at least six hexadecimal digits after `0x`. -/
def hexText (tag : Tag) : String :=
  "0x" ++ Hex.ofNatUpper 6 tag.code.toNat

/-- The canonical text of a tag: its registered name, or else its number. -/
def text (tag : Tag) : String :=
  tag.registered?.getD tag.hexText

/-- The number that hexadecimal digits spell, after `high`. -/
def hexValueFrom? (high : Nat) : List Char → Option Nat
  | [] => some high
  | c :: rest => do hexValueFrom? (high * 16 + (← Hex.digitValue? c.toNat)) rest

/-- The 32-bit number that one or more hexadecimal digits spell, after an optional plus sign. -/
def hexNumber? (digits : List Char) : Option UInt32 := do
  let digits := match digits with
    | '+' :: rest => rest
    | _ => digits
  guard (¬ digits.isEmpty)
  let n ← hexValueFrom? 0 digits
  guard (n < 4294967296)
  pure (UInt32.ofNat n)

/-- The tag of a registered name. -/
def ofName (name : String) : Except Fault Tag :=
  (named? name).elim (.error (.unknownName name)) .ok

/-- The tag of a text: a number after `0x`, or else a registered name. -/
def ofText (text : String) : Except Fault Tag :=
  match text.toList with
  | '0' :: 'x' :: digits | '0' :: 'X' :: digits =>
    (hexNumber? digits).elim (.error (.badNumber text)) fun code => .ok ⟨code⟩
  | _ => ofName text

/-- The registered tags from one number to another, with their names. -/
def listed (first last : Nat) : List (String × UInt32) :=
  registry.filter fun entry => first ≤ entry.2.toNat ∧ entry.2.toNat ≤ last

end Tag

end Kmip
