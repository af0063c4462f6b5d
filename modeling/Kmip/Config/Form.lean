import Kmip.Config
import Kmip.Json.Primitive

/-!
# Settings as JSON

The settings of a reader as an object of some of them, or as a list in which they stand in a fixed
order. What is left out keeps its strict value; what is unknown is refused.
-/

namespace Kmip.Config

/-- The names of the settings, in the order of a list. -/
def settingNames : List String :=
  ["unknown_tags", "max_value_length", "max_depth"]

/-- The policies of a name. -/
def policyNamed (name : String) : Except Json.Fault UnknownTags :=
  if name = "reject" then .ok .reject
  else if name = "skip" then .ok .skip
  else .error (.unknownVariant name ["reject", "skip"])

/-- The policy of a value: a name, or an object that gives a name to nothing. -/
def policyOf : Json → Except Json.Fault UnknownTags
  | .string name => policyNamed name
  | .object [(name, value)] => do
    let policy ← policyNamed name
    match value with
    | .null => pure policy
    | _ => throw (.invalidType value.found "unit")
  | .object _ => .error (.invalidValue .map "map with a single key")
  | value => .error (.invalidType value.found "string or map")

/-- The settings with one of them replaced, by its name. -/
def set (config : Config) (name : String) (value : Json) : Except Json.Fault Config :=
  if name = "unknown_tags" then do
    let unknownTags ← policyOf value
    pure { config with unknownTags }
  else if name = "max_value_length" then do
    let length ← value.within 0 4294967295 "u32"
    pure { config with maxValueLength := length.toNat }
  else if name = "max_depth" then do
    let depth ← value.within 0 18446744073709551615 "usize"
    pure { config with maxDepth := depth.toNat }
  else .error (.unknownField name settingNames)

/-- The settings with some of them replaced, in turn. -/
def setAll (config : Config) : List (String × Json) → Except Json.Fault Config
  | [] => .ok config
  | (name, value) :: rest => do
    let config ← config.set name value
    config.setAll rest

/-- The settings of a value. -/
def ofForm : Json → Except Json.Fault Config
  | .object members => strict.setAll members
  | .array values => do
    let config ← strict.setAll (settingNames.zip values)
    if settingNames.length < values.length then
      throw (.invalidLength values.length "fewer elements in array")
    pure config
  | value => .error (.invalidType value.found "struct DecoderConfig")

end Kmip.Config
