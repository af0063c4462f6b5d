import Kmip.Records

/-!
# Lists of attributes

Attributes in their order. A name may occur several times; looking one up gives the first.
-/

namespace Kmip

/-- A value of an attribute. -/
abbrev AttributeValue := Records.attributeValueVariants.Val

/-- A named value of a managed object. -/
abbrev AttributeEntry := Records.attributeEntry.Val

/-- A list of attributes. -/
abbrev Attributes := Records.attributes.Val

namespace AttributeEntry

/-- An attribute of a name, with an index when the name occurs several times. -/
def ofValue (name : String) (index : Option Int32) (value : AttributeValue) : AttributeEntry :=
  (name, (index, ()), value, ())

/-- The name of an attribute. -/
def name (entry : AttributeEntry) : String :=
  entry.1

end AttributeEntry

namespace Attributes

/-- The attributes of a list, in its order. -/
def ofList (entries : List AttributeEntry) : Attributes :=
  (entries, ())

/-- The attributes in their order. -/
def toList (attributes : Attributes) : List AttributeEntry :=
  attributes.1

/-- How many attributes there are. -/
def size (attributes : Attributes) : Nat :=
  attributes.toList.length

/-- Whether there is no attribute. -/
def isEmpty (attributes : Attributes) : Bool :=
  attributes.toList.isEmpty

/-- The attributes with one more behind them. -/
def push (attributes : Attributes) (entry : AttributeEntry) : Attributes :=
  ofList (attributes.toList ++ [entry])

/-- The first attribute of a name. -/
def get? (attributes : Attributes) (name : String) : Option AttributeEntry :=
  attributes.toList.find? fun entry => entry.name = name

/-- The names of the attributes, in their order. -/
def names (attributes : Attributes) : List String :=
  attributes.toList.map AttributeEntry.name

/-- A template of attributes for a new object. -/
def template (attributes : Attributes) : Records.templateAttribute.Val :=
  ([], attributes, ())

end Attributes

end Kmip
