import Kmip.ItemType

/-!
# Items

An item read without knowing its record: a tag, held as text, and a value. A structure holds further
items; every other value is of a scalar type.
-/

namespace Kmip

mutual

/-- A tag and what it marks. -/
structure Item where
  /-- The text of the tag; its canonical text when the item was read from bytes. -/
  tag : String
  value : Value

/-- What an item holds. -/
inductive Value where
  /-- The items of a structure. -/
  | structured (items : List Item)
  /-- A single value. -/
  | scalar (type : ScalarType) (content : type.Content)

end

namespace Value

/-- A structure without items. -/
def empty : Value := .structured []

instance : Inhabited Value := ⟨empty⟩

/-- The type of a value. -/
def type : Value → ItemType
  | .structured _ => .structured
  | .scalar type _ => .scalar type

/-- The items of a structure; a scalar has none. -/
def items : Value → List Item
  | .structured items => items
  | .scalar _ _ => []

mutual

/-- How many structures lie within each other. -/
def nesting : Value → Nat
  | .structured items => nestingOfAll items + 1
  | .scalar _ _ => 0

/-- The deepest nesting among items. -/
def nestingOfAll : List Item → Nat
  | [] => 0
  | ⟨_, value⟩ :: rest => max value.nesting (nestingOfAll rest)

end

end Value

namespace Item

instance : Inhabited Item := ⟨⟨"", default⟩⟩

/-- The first item of a structure that has the given tag text. -/
def child? (item : Item) (tag : String) : Option Item :=
  item.value.items.find? fun child => child.tag = tag

end Item

end Kmip
