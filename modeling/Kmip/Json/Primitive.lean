import Kmip.Json.Scan

/-!
# Primitive values of JSON

Texts, truth values and whole numbers, taken either from the text of a JSON value or from the value
itself. What is built on them works for both.
-/

namespace Kmip.Json

/-- How primitive values are taken. -/
structure Primitive (m : Type → Type) where
  text : m String
  boolean : m Bool
  /-- A whole number within bounds, of the type that is expected. -/
  whole : (low high : Int) → (expected : String) → m Int

/-- A whole number within bounds. -/
def within (low high : Int) (expected : String) : Json → Except Fault Int
  | integer n =>
    if low ≤ n ∧ n ≤ high then .ok n else .error (.invalidValue (.integer n) expected)
  | value => .error (.invalidType value.found expected)

/-- The primitive values that a value can be. -/
def primitive (value : Json) : Primitive (Except Fault) where
  text :=
    match value with
    | string text => .ok text
    | _ => .error (.invalidType value.found "a string")
  boolean :=
    match value with
    | bool truth => .ok truth
    | _ => .error (.invalidType value.found "a boolean")
  whole low high expected := value.within low high expected

namespace Scan

/-- A primitive value that comes next: one that starts with a fitting character is taken. -/
def primitive : Primitive Scan where
  text := do
    match ← next? with
    | some '"' => quoted
    | _ => mismatch "a string"
  boolean := do
    match ← next? with
    | some 't' =>
      word ['t', 'r', 'u', 'e']
      pure true
    | some 'f' =>
      word ['f', 'a', 'l', 's', 'e']
      pure false
    | _ => mismatch "a boolean"
  whole low high expected := do
    match ← next? with
    | some c =>
      if startsNumber c then
        let value ← number
        match value.within low high expected with
        | .ok n => pure n
        | .error fault => throw fault
      else mismatch expected
    | none => throw .malformed

end Scan

end Kmip.Json
