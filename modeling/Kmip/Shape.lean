import Kmip.Enumeration
import Kmip.Item
import Kmip.Span
import Kmip.Tag
import Kmip.UsageMask

/-!
# Shapes of values

The records of the protocol are data: a shape says of which fields a record is made, in the order in
which they are written, and `Shape.Val` is the type of the values of a shape. Everything that is done
with records, from writing to printing them, is done once, by recursion on the shape.
-/

namespace Kmip

/-- The shapes that are written as a single item and have no fields of their own. -/
inductive Leaf where
  | integer
  | longInteger
  | bigInteger
  | boolean
  | text
  | bytes
  | dateTime
  /-- A date-time that is shown under the name of its type. -/
  | timeStamp
  | interval
  | enumeration (domain : Domain)
  | usageMask
  /-- Any item at all, kept as it was read. -/
  | anything
deriving DecidableEq

namespace Leaf

/-- The values of a leaf. -/
@[reducible] def Val : Leaf → Type
  | integer => Int32
  | longInteger => Int64
  | bigInteger => Int
  | boolean => Bool
  | text => String
  | bytes => Bytes
  | dateTime | timeStamp => DateTime
  | interval => Span
  | enumeration domain => domain.Member
  | usageMask => UsageMask
  | anything => Value

/-- The value that stands where none is given. -/
def blank : (leaf : Leaf) → leaf.Val
  | integer => (0 : Int32)
  | longInteger => (0 : Int64)
  | bigInteger => (0 : Int)
  | boolean => false
  | text => ""
  | bytes => []
  | dateTime | timeStamp => DateTime.epoch
  | interval => Span.ofSeconds 0
  | enumeration domain => domain.first
  | usageMask => UsageMask.mk 0
  | anything => Value.empty

end Leaf

/-- Whether a field may be absent. -/
inductive Presence where
  | required
  | optional
deriving DecidableEq, Repr

/-- The values of a field that is present, or of one that may be absent. -/
@[reducible] def Presence.Val : Presence → Type → Type
  | required, α => α
  | optional, α => Option α

namespace Presence

/-- The value that stands where none is given: nothing, if the field may be absent. -/
def blank {α : Type} (blank : α) : (presence : Presence) → presence.Val α
  | required => blank
  | optional => none

/-- The value of a field, if there is one. -/
def toOption {α : Type} : (presence : Presence) → presence.Val α → Option α
  | required, value => some value
  | optional, value => value

end Presence

/-- What selects the variant of a value whose form is not fixed. -/
inductive Selector where
  /-- The name of an attribute selects the form of its value. -/
  | attributeName
  /-- The type of a credential selects the form of its value. -/
  | credentialType
  /-- The operation of a batch item selects the form of its payload. -/
  | operation
deriving DecidableEq, Repr

/-- The leaf of the field that selects. -/
@[reducible] def Selector.leaf : Selector → Leaf
  | attributeName => .text
  | credentialType => .enumeration .credentialType
  | operation => .enumeration .operation

mutual

/-- The form of a value. -/
inductive Shape where
  /-- A single item without fields of its own. -/
  | leaf (leaf : Leaf)
  /-- One of several forms. -/
  | choice (variants : Variants)
  /-- A structure of fields, with the name of the record and the tag that it has on its own. -/
  | record (name : String) (tag : Tag) (fields : Fields)

/-- The fields of a record, in the order in which they are written. -/
inductive Fields where
  | nil
  /-- A field that stands once, or at most once. -/
  | one (presence : Presence) (tag : Tag) (label : String) (shape : Shape) (rest : Fields)
  /-- A field that stands any number of times in a row, or at least once. -/
  | many (atLeastOne : Bool) (tag : Tag) (label : String) (shape : Shape) (rest : Fields)
  /-- The fields of another record, without a structure around them. -/
  | embedded (label name : String) (tag : Tag) (fields : Fields) (rest : Fields)
  /-- A field that selects, some fields behind it, and a field of the form that it selects. -/
  | keyed (selector : Selector) (keyTag : Tag) (keyLabel : String) (between : Fields)
      (presence : Presence) (tag : Tag) (label : String) (variants : Variants) (rest : Fields)

/-- The forms that a value may have, each with its name; the first stands where none is given. -/
inductive Variants where
  | only (label : String) (shape : Shape)
  | or (label : String) (shape : Shape) (rest : Variants)

end

namespace Shape

/-- A signed number of 32 bits. -/
abbrev integer : Shape := .leaf .integer
/-- A truth value. -/
abbrev boolean : Shape := .leaf .boolean
/-- A text. -/
abbrev text : Shape := .leaf .text
/-- Bytes of any kind. -/
abbrev bytes : Shape := .leaf .bytes
/-- An instant. -/
abbrev dateTime : Shape := .leaf .dateTime
/-- The instant at which a message was made. -/
abbrev timeStamp : Shape := .leaf .timeStamp
/-- A length of time. -/
abbrev interval : Shape := .leaf .interval
/-- A member of a domain. -/
abbrev enumeration (domain : Domain) : Shape := .leaf (.enumeration domain)
/-- What a key may be used for. -/
abbrev usageMask : Shape := .leaf .usageMask
/-- An item of any type. -/
abbrev anything : Shape := .leaf .anything

end Shape

namespace Fields

/-- A field that stands once. -/
abbrev required (tag : Tag) (label : String) (shape : Shape) (rest : Fields) : Fields :=
  .one .required tag label shape rest
/-- A field that stands at most once. -/
abbrev optional (tag : Tag) (label : String) (shape : Shape) (rest : Fields) : Fields :=
  .one .optional tag label shape rest
/-- A field that stands any number of times. -/
abbrev zeroOrMore (tag : Tag) (label : String) (shape : Shape) (rest : Fields) : Fields :=
  .many false tag label shape rest
/-- A field that stands at least once. -/
abbrev oneOrMore (tag : Tag) (label : String) (shape : Shape) (rest : Fields) : Fields :=
  .many true tag label shape rest

end Fields

/-- A record: a structure of fields under a name, with the tag that it has on its own. -/
structure Record where
  name : String
  tag : Tag
  fields : Fields

/-- The shape of a record. -/
abbrev Record.shape (record : Record) : Shape :=
  .record record.name record.tag record.fields

instance : Coe Record Shape := ⟨Record.shape⟩

/-- The fields of another record among those of this one. -/
abbrev Fields.embed (label : String) (record : Record) (rest : Fields) : Fields :=
  .embedded label record.name record.tag record.fields rest

mutual

/-- The values of a shape. -/
@[reducible] def Shape.Val : Shape → Type
  | .leaf leaf => leaf.Val
  | .choice variants => variants.Val
  | .record _ _ fields => fields.Val

/-- The values of fields, side by side. -/
@[reducible] def Fields.Val : Fields → Type
  | .nil => Unit
  | .one presence _ _ shape rest => presence.Val shape.Val × rest.Val
  | .many _ _ _ shape rest => List shape.Val × rest.Val
  | .embedded _ _ _ fields rest => fields.Val × rest.Val
  | .keyed selector _ _ between presence _ _ variants rest =>
    selector.leaf.Val × between.Val × presence.Val variants.Val × rest.Val

/-- A value of one of the variants. -/
@[reducible] def Variants.Val : Variants → Type
  | .only _ shape => shape.Val
  | .or _ shape rest => shape.Val ⊕ rest.Val

end

/-- The values of a record. -/
abbrev Record.Val (record : Record) : Type :=
  record.fields.Val

mutual

/-- The value that stands where none is given. -/
def Shape.blank : (shape : Shape) → shape.Val
  | .leaf leaf => leaf.blank
  | .choice variants => variants.blank
  | .record _ _ fields => fields.blank

/-- Fields of which none is given. -/
def Fields.blank : (fields : Fields) → fields.Val
  | .nil => ()
  | .one presence _ _ shape rest => (presence.blank shape.blank, rest.blank)
  | .many _ _ _ _ rest => ([], rest.blank)
  | .embedded _ _ _ fields rest => (fields.blank, rest.blank)
  | .keyed selector _ _ between presence _ _ variants rest =>
    (selector.leaf.blank, between.blank, presence.blank variants.blank, rest.blank)

/-- The value of the first variant that stands where none is given. -/
def Variants.blank : (variants : Variants) → variants.Val
  | .only _ shape => shape.blank
  | .or _ shape _ => .inl shape.blank

end

namespace Variants

/-- The value that stands where none is given, in the variant of this name. -/
def blankOf? (wanted : String) : (variants : Variants) → Option variants.Val
  | .only label shape => if label = wanted then some shape.blank else none
  | .or label shape rest =>
    if label = wanted then some (.inl shape.blank) else (rest.blankOf? wanted).map .inr

/-- The name of the variant of a value. -/
def labelOf : (variants : Variants) → variants.Val → String
  | .only label _, _ => label
  | .or label _ _, .inl _ => label
  | .or _ _ rest, .inr value => rest.labelOf value

end Variants

namespace Fields

/-- The tags of the fields, those of embedded records included. -/
def tags : Fields → List Tag
  | .nil => []
  | .one _ tag _ _ rest => tag :: rest.tags
  | .many _ tag _ _ rest => tag :: rest.tags
  | .embedded _ _ _ fields rest => fields.tags ++ rest.tags
  | .keyed _ keyTag _ between _ tag _ _ rest => keyTag :: between.tags ++ tag :: rest.tags

end Fields

/-- A record of which no field is given. -/
def Record.blank (record : Record) : record.Val :=
  record.fields.blank

end Kmip
