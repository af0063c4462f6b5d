import Kmip.DateTime.Rfc3339
import Kmip.Fault
import Kmip.Json
import Kmip.Text.Quoted

/-!
# Faults of JSON

A text that is no JSON is malformed, and nothing more is said about it. JSON that does not have the
expected form is refused with what was found and what was expected there.
-/

namespace Kmip.Json

/-- What was found in a place. -/
inductive Found where
  | null
  | bool (value : Bool)
  | integer (value : Int)
  | float (value : Float)
  | string (text : String)
  | sequence
  | map

/-- What a value is found to be. -/
def found : Json → Found
  | null => .null
  | bool value => .bool value
  | integer value => .integer value
  | float value => .float value
  | string text => .string text
  | array _ => .sequence
  | object _ => .map

/-- The text of what was found. -/
def Found.text : Found → String
  | null => "null"
  | bool value => if value then "boolean `true`" else "boolean `false`"
  | integer value => "integer `" ++ String.ofList (Decimal.ofInt value) ++ "`"
  | float value => "floating point `" ++ String.ofList (Shortest.text value) ++ "`"
  | string text => "string " ++ Text.quote text
  | sequence => "sequence"
  | map => "map"

/-- What is wrong with a text or a value. -/
inductive Fault where
  /-- The text is no JSON, or nests too deep. -/
  | malformed
  /-- The place needs a value of another type. -/
  | invalidType (found : Found) (expected : String)
  /-- The place needs another value of this type. -/
  | invalidValue (found : Found) (expected : String)
  /-- A list has the wrong length. -/
  | invalidLength (length : Nat) (expected : String)
  | missingField (name : String)
  | duplicateField (name : String)
  | unknownField (name : String) (known : List String)
  | unknownVariant (name : String) (known : List String)
  /-- An item names its type behind its value. -/
  | typeAfterValue
  | unknownType (name : String)
  /-- A text is not the form of such a value. -/
  | badText (what text : String)
  /-- The form of an item stands for something that no item can be. -/
  | badItem (cause : Kmip.Fault)
  /-- A date-time has no text. -/
  | unwritableDate (cause : DateTime.Rfc3339.Fault)

/-- Names that could have stood in a place. -/
def alternatives : List String → String
  | [] => "there are no fields"
  | [name] => s!"expected `{name}`"
  | [first, second] => s!"expected `{first}` or `{second}`"
  | names => "expected one of " ++ ", ".intercalate (names.map fun name => s!"`{name}`")

/-- The text of a fault; that a text is malformed says nothing more. -/
def Fault.message : Fault → String
  | malformed => ""
  | invalidType found expected => s!"invalid type: {found.text}, expected {expected}"
  | invalidValue found expected => s!"invalid value: {found.text}, expected {expected}"
  | invalidLength length expected => s!"invalid length {length}, expected {expected}"
  | missingField name => s!"missing field `{name}`"
  | duplicateField name => s!"duplicate field `{name}`"
  | unknownField name known => s!"unknown field `{name}`, {alternatives known}"
  | unknownVariant name known => s!"unknown variant `{name}`, {alternatives known}"
  | typeAfterValue => "type must come before value"
  | unknownType name => s!"unknown type: {name}"
  | badText what text => s!"invalid value for {what}: {text}"
  | badItem cause => cause.message
  | unwritableDate cause => cause.message

end Kmip.Json
