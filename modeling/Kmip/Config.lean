/-!
# Limits of a reader

What a reader does with tags that a record does not declare, and how much it takes before it gives
up.
-/

namespace Kmip

/-- What happens to an item whose tag the enclosing record does not declare. -/
inductive UnknownTags where
  /-- The item is an error. -/
  | reject
  /-- The item is passed over as a whole. -/
  | skip
deriving DecidableEq, Repr

/-- The settings of a reader. -/
structure Config where
  unknownTags : UnknownTags := .reject
  /-- The greatest length that an item other than a structure may declare. -/
  maxValueLength : Nat := 16 * 1024 * 1024
  /-- How many structures may be open at a time. -/
  maxDepth : Nat := 64
deriving DecidableEq, Repr

namespace Config

/-- The strict settings, which hold where none are given. -/
def strict : Config := {}

/-- The strict settings, but for unknown tags, which are passed over. -/
def lenient : Config := { unknownTags := .skip }

instance : Inhabited Config := ⟨strict⟩

end Config

end Kmip
