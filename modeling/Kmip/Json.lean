import Kmip.Hex
import Kmip.Text.Shortest

/-!
# JSON values

Values with their members in the order in which they stand, and their compact and indented texts.
-/

namespace Kmip

/-- A JSON value. Whole numbers are kept apart from numbers with a point or an exponent. -/
inductive Json where
  | null
  | bool (value : Bool)
  | integer (value : Int)
  | float (value : Float)
  | string (text : String)
  | array (items : List Json)
  | object (members : List (String × Json))

namespace Json

instance : Inhabited Json := ⟨null⟩

/-- A character within a quoted text. -/
def escape (c : Char) : List Char :=
  if c = '"' ∨ c = '\\' then ['\\', c]
  else if c = '\n' then ['\\', 'n']
  else if c = '\r' then ['\\', 'r']
  else if c = '\t' then ['\\', 't']
  else if c = '\x08' then ['\\', 'b']
  else if c = '\x0c' then ['\\', 'f']
  else if c.toNat < 0x20 then
    ['\\', 'u', '0', '0', Hex.lowerDigit (c.toNat / 16), Hex.lowerDigit (c.toNat % 16)]
  else [c]

/-- A quoted text. -/
def quote (text : String) : List Char :=
  '"' :: text.toList.flatMap escape ++ ['"']

/-- A value that holds no other. -/
def atom : Json → List Char
  | bool true => ['t', 'r', 'u', 'e']
  | bool false => ['f', 'a', 'l', 's', 'e']
  | integer value => Decimal.ofInt value
  | float value => if value.isFinite then Shortest.text value else ['n', 'u', 'l', 'l']
  | string text => quote text
  | null | array _ | object _ => ['n', 'u', 'l', 'l']

mutual

/-- The text of a value without any blanks. -/
def compact : Json → List Char
  | array items => '[' :: compactItems items ++ [']']
  | object members => '\x7b' :: compactMembers members ++ ['\x7d']
  | value => value.atom

/-- The texts of items, with commas between them. -/
def compactItems : List Json → List Char
  | [] => []
  | [item] => item.compact
  | item :: rest => item.compact ++ ',' :: compactItems rest

/-- The texts of members, with commas between them. -/
def compactMembers : List (String × Json) → List Char
  | [] => []
  | [(name, value)] => quote name ++ ':' :: value.compact
  | (name, value) :: rest => quote name ++ ':' :: value.compact ++ ',' :: compactMembers rest

end

/-- A new line at a depth, two blanks a level. -/
def newline (depth : Nat) : List Char :=
  '\n' :: List.replicate (2 * depth) ' '

mutual

/-- The text of a value, one item or member a line; what is empty stays on its line. -/
def pretty (depth : Nat) : Json → List Char
  | array [] => ['[', ']']
  | array items => '[' :: prettyItems (depth + 1) items ++ newline depth ++ [']']
  | object [] => ['\x7b', '\x7d']
  | object members => '\x7b' :: prettyMembers (depth + 1) members ++ newline depth ++ ['\x7d']
  | value => value.atom

/-- The lines of items. -/
def prettyItems (depth : Nat) : List Json → List Char
  | [] => []
  | [item] => newline depth ++ item.pretty depth
  | item :: rest => newline depth ++ item.pretty depth ++ ',' :: prettyItems depth rest

/-- The lines of members. -/
def prettyMembers (depth : Nat) : List (String × Json) → List Char
  | [] => []
  | [(name, value)] => newline depth ++ quote name ++ ':' :: ' ' :: value.pretty depth
  | (name, value) :: rest =>
    newline depth ++ quote name ++ ':' :: ' ' :: value.pretty depth ++
      ',' :: prettyMembers depth rest

end

/-- A member put into members that are sorted by name; it takes the place of one of its own name. -/
def insertSorted (name : String) (value : Json) : List (String × Json) → List (String × Json)
  | [] => [(name, value)]
  | (other, held) :: rest =>
    if name = other then (name, value) :: rest
    else if name < other then (name, value) :: (other, held) :: rest
    else (other, held) :: insertSorted name value rest

mutual

/-- The value with the members of every object sorted by name; of several members of one name the
last one is kept. -/
def sorted : Json → Json
  | array items => array (sortedItems items)
  | object members => object (sortedMembers [] members)
  | value => value

/-- Items with sorted members. -/
def sortedItems : List Json → List Json
  | [] => []
  | item :: rest => item.sorted :: sortedItems rest

/-- Members put one after the other into sorted ones. -/
def sortedMembers (held : List (String × Json)) : List (String × Json) → List (String × Json)
  | [] => held
  | (name, value) :: rest => sortedMembers (insertSorted name value.sorted held) rest

end

end Json

end Kmip
