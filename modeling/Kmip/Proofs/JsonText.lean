import Kmip.Json.Scan
import Mathlib.Tactic.Lemma

/-!
# Texts of JSON values

Which texts stand for a value, with blanks between their parts (`Json.Spells`). The compact text and
the indented one do, if the numbers of the value are whole and fit 64 bits (`Json.spells_compact`,
`Json.spells_pretty`).
-/

namespace Kmip.Json

/-- Blanks that may stand between the parts of a text. -/
def IsGap (text : List Char) : Prop :=
  ∀ c ∈ text, isSpace c

/-- A value that holds no other, and no number with a point, an exponent, or more than 64 bits. -/
def IsAtom : Json → Prop
  | integer n => -9223372036854775808 ≤ n ∧ n < wordLimit
  | null | bool _ | string _ => True
  | float _ | array _ | object _ => False

/-- What stands in front of an item or a member: a comma, unless it is the first one. -/
def comma : (first : Bool) → List Char
  | true => []
  | false => [',']

mutual

/-- The text stands for the value. -/
inductive Spells : Json → List Char → Prop
  | atom {value : Json} (single : value.IsAtom) : Spells value value.atom
  | array {items : List Json} {text : List Char} (spelled : SpellsItems true items text) :
      Spells (array items) ('[' :: text)
  | object {members : List (String × Json)} {text : List Char}
      (spelled : SpellsMembers true members text) : Spells (object members) ('\x7b' :: text)

/-- The text stands for the items, the first ones or later ones, up to the end of the array. -/
inductive SpellsItems : (first : Bool) → List Json → List Char → Prop
  | nil {first : Bool} {gap : List Char} (blank : IsGap gap) : SpellsItems first [] (gap ++ [']'])
  | cons {first : Bool} {item : Json} {items : List Json} {gap text more : List Char}
      (blank : IsGap gap) (spelled : Spells item text) (others : SpellsItems false items more) :
      SpellsItems first (item :: items) (comma first ++ gap ++ text ++ more)

/-- The text stands for the members, the first ones or later ones, up to the end of the object. -/
inductive SpellsMembers : (first : Bool) → List (String × Json) → List Char → Prop
  | nil {first : Bool} {gap : List Char} (blank : IsGap gap) :
      SpellsMembers first [] (gap ++ ['\x7d'])
  | cons {first : Bool} {name : String} {value : Json} {members : List (String × Json)}
      {gap space text more : List Char} (blank : IsGap gap) (blanks : IsGap space)
      (spelled : Spells value text) (others : SpellsMembers false members more) :
      SpellsMembers first ((name, value) :: members)
        (comma first ++ gap ++ quote name ++ ':' :: space ++ text ++ more)

end

mutual

/-- No number in the value has a point, an exponent, or more than 64 bits. -/
def IsPlain : Json → Prop
  | array items => ArePlain items
  | object members => HavePlain members
  | value => value.IsAtom

/-- All items are plain. -/
def ArePlain : List Json → Prop
  | [] => True
  | item :: rest => item.IsPlain ∧ ArePlain rest

/-- The values of all members are plain. -/
def HavePlain : List (String × Json) → Prop
  | [] => True
  | (_, value) :: rest => value.IsPlain ∧ HavePlain rest

end

lemma IsAtom.isPlain {json : Json} (single : json.IsAtom) : json.IsPlain := by
  cases json with
  | array items => exact single.elim
  | object members => exact single.elim
  | null | bool value | integer value | float value | string text => exact single

lemma isGap_nil : IsGap [] := nofun

lemma isGap_newline (depth : Nat) : IsGap (newline depth) := by
  intro c mem
  obtain rfl | mem := List.mem_cons.1 mem
  · rfl
  · rw [List.eq_of_mem_replicate mem]
    rfl

/-- What stands in front of items or members, if there are any. -/
def lead {α : Type} (first : Bool) : List α → List Char
  | [] => []
  | _ :: _ => comma first

lemma lead_true {α : Type} (items : List α) : lead true items = [] := by
  cases items <;> rfl

mutual

/-- The compact text stands for its value. -/
lemma spells_compact (json : Json) (plain : json.IsPlain) : Spells json json.compact := by
  cases json with
  | array items =>
    have spelled := spellsItems_compact true items plain
    rw [lead_true, List.nil_append] at spelled
    exact .array spelled
  | object members =>
    have spelled := spellsMembers_compact true members plain
    rw [lead_true, List.nil_append] at spelled
    exact .object spelled
  | null | bool value | integer value | float value | string text => exact .atom plain

lemma spellsItems_compact (first : Bool) (items : List Json) (plain : ArePlain items) :
    SpellsItems first items (lead first items ++ compactItems items ++ [']']) := by
  cases items with
  | nil => exact .nil isGap_nil
  | cons item rest =>
    have spelled : SpellsItems first (item :: rest) _ := .cons isGap_nil
      (spells_compact item plain.1) (spellsItems_compact false rest plain.2)
    cases rest <;> simpa [compactItems, lead, comma] using spelled

lemma spellsMembers_compact (first : Bool) (members : List (String × Json))
    (plain : HavePlain members) :
    SpellsMembers first members (lead first members ++ compactMembers members ++ ['}']) := by
  cases members with
  | nil => exact .nil isGap_nil
  | cons member rest =>
    have spelled : SpellsMembers first (member :: rest) _ := .cons isGap_nil isGap_nil
      (spells_compact member.2 plain.1) (spellsMembers_compact false rest plain.2)
    cases rest <;> simpa [compactMembers, lead, comma] using spelled

end

mutual

/-- The indented text stands for its value. -/
lemma spells_pretty (depth : Nat) (json : Json) (plain : json.IsPlain) :
    Spells json (json.pretty depth) := by
  cases json with
  | array items =>
    have spelled := spellsItems_pretty depth true items plain
    cases items with
    | nil => exact .array (.nil isGap_nil)
    | cons item rest => simpa [pretty, lead, comma] using Spells.array spelled
  | object members =>
    have spelled := spellsMembers_pretty depth true members plain
    cases members with
    | nil => exact .object (.nil isGap_nil)
    | cons member rest => simpa [pretty, lead, comma] using Spells.object spelled
  | null | bool value | integer value | float value | string text => exact .atom plain

lemma spellsItems_pretty (depth : Nat) (first : Bool) (items : List Json)
    (plain : ArePlain items) :
    SpellsItems first items
      (lead first items ++ prettyItems (depth + 1) items ++ newline depth ++ [']']) := by
  cases items with
  | nil => exact .nil (isGap_newline depth)
  | cons item rest =>
    have spelled : SpellsItems first (item :: rest) _ := .cons (isGap_newline (depth + 1))
      (spells_pretty (depth + 1) item plain.1) (spellsItems_pretty depth false rest plain.2)
    cases rest <;> simpa [prettyItems, lead, comma] using spelled

lemma spellsMembers_pretty (depth : Nat) (first : Bool) (members : List (String × Json))
    (plain : HavePlain members) :
    SpellsMembers first members
      (lead first members ++ prettyMembers (depth + 1) members ++ newline depth ++ ['}']) := by
  cases members with
  | nil => exact .nil (isGap_newline depth)
  | cons member rest =>
    have space : IsGap [' '] := List.forall_mem_singleton.2 rfl
    have spelled : SpellsMembers first (member :: rest) _ := .cons (isGap_newline (depth + 1))
      space (spells_pretty (depth + 1) member.2 plain.1)
      (spellsMembers_pretty depth false rest plain.2)
    cases rest <;> simpa [prettyMembers, lead, comma] using spelled

end

end Kmip.Json
