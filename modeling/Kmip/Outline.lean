import Kmip.Text.Decimal
import Kmip.Text.Quoted

/-!
# Outlines

A value as a tree of names, lists and texts, and its form over several lines: each part on a line of
its own, four blanks further in than what it belongs to, and with a comma behind it.
-/

namespace Kmip

/-- A value as it is shown. -/
inductive Outline where
  /-- A text that stands as it is. -/
  | atom (text : String)
  /-- Parts without names. -/
  | list (items : List Outline)
  /-- One part under a name. -/
  | wrapped (name : String) (content : Outline)
  /-- Parts with names, under the name of the whole. -/
  | fields (name : String) (members : List (String × Outline))

namespace Outline

instance : Inhabited Outline := ⟨atom ""⟩

/-- The outline of a whole number. -/
def integer (n : Int) : Outline :=
  atom (String.ofList (Decimal.ofInt n))

/-- The outline of a text. -/
def quoted (text : String) : Outline :=
  atom (Text.quote text)

/-- The outline of a value that may be absent. -/
def optional : Option Outline → Outline
  | none => atom "None"
  | some content => wrapped "Some" content

/-- A new line at a depth. -/
def newline (depth : Nat) : List Char :=
  '\n' :: List.replicate (4 * depth) ' '

mutual

/-- The text of an outline whose first line stands at a depth. -/
def lines (depth : Nat) : Outline → List Char
  | atom text => text.toList
  | list [] => ['[', ']']
  | list items => '[' :: itemLines (depth + 1) items ++ newline depth ++ [']']
  | wrapped name content =>
    name.toList ++ '(' :: newline (depth + 1) ++ content.lines (depth + 1) ++
      ',' :: newline depth ++ [')']
  | fields name [] => name.toList
  | fields name members =>
    name.toList ++ ' ' :: '\x7b' :: memberLines (depth + 1) members ++ newline depth ++ ['\x7d']

/-- The lines of parts without names. -/
def itemLines (depth : Nat) : List Outline → List Char
  | [] => []
  | item :: rest => newline depth ++ item.lines depth ++ ',' :: itemLines depth rest

/-- The lines of parts with names. -/
def memberLines (depth : Nat) : List (String × Outline) → List Char
  | [] => []
  | (name, value) :: rest =>
    newline depth ++ name.toList ++ ':' :: ' ' :: value.lines depth ++ ',' :: memberLines depth rest

end

/-- The text of an outline. -/
def text (outline : Outline) : String :=
  String.ofList (outline.lines 0)

end Outline

end Kmip
