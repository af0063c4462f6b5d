import Kmip.Shape

/-!
# Field tables

What a record says about its fields, one entry a field, in the order in which they are written.
-/

namespace Kmip

/-- How often a field stands. -/
inductive Occurrence where
  | required
  | optional
  | zeroOrMore
  | oneOrMore
deriving DecidableEq, Repr

namespace Occurrence

/-- Whether a field must stand at least once. -/
def isMandatory : Occurrence → Bool
  | required | oneOrMore => true
  | optional | zeroOrMore => false

/-- The name of an occurrence. -/
def name : Occurrence → String
  | required => "Required"
  | optional => "Optional"
  | zeroOrMore => "ZeroOrMore"
  | oneOrMore => "OneOrMore"

end Occurrence

/-- How often a field that may be absent or not stands. -/
def Presence.occurrence : Presence → Occurrence
  | required => .required
  | optional => .optional

/-- How a field is made up. -/
inductive FieldKind where
  /-- A single item. -/
  | value
  /-- Items in a row. -/
  | repeated
  /-- The fields of another record. -/
  | embedded
  /-- A single item of a form that another field selects. -/
  | selected
deriving DecidableEq, Repr

/-- The name of a kind. -/
def FieldKind.name : FieldKind → String
  | value => "value"
  | repeated => "repeated"
  | embedded => "embedded"
  | selected => "dynamic"

/-- What a record says about one of its fields. -/
structure FieldEntry where
  /-- The tag of the field; an embedded record has none. -/
  tag : Option Tag
  occurrence : Occurrence
  kind : FieldKind
deriving DecidableEq, Repr

/-- An entry on one line. -/
def FieldEntry.text (entry : FieldEntry) : String :=
  let tag := entry.tag.elim "None" fun tag => s!"Some({tag.text})"
  "Field \x7b tag: " ++ tag ++ ", occurs: " ++ entry.occurrence.name ++ ", kind: \"" ++
    entry.kind.name ++ "\" \x7d"

/-- The entries of fields, those of embedded records not included. -/
def Fields.entries : Fields → List FieldEntry
  | .nil => []
  | .one presence tag _ _ rest => ⟨some tag, presence.occurrence, .value⟩ :: rest.entries
  | .many atLeastOne tag _ _ rest =>
    ⟨some tag, if atLeastOne then .oneOrMore else .zeroOrMore, .repeated⟩ :: rest.entries
  | .embedded _ _ _ _ rest => ⟨none, .zeroOrMore, .embedded⟩ :: rest.entries
  | .keyed _ keyTag _ between presence tag _ _ rest =>
    ⟨some keyTag, .required, .value⟩ :: between.entries ++
      ⟨some tag, presence.occurrence, .selected⟩ :: rest.entries

end Kmip
