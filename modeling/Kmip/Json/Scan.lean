import Kmip.Json.Fault
import Kmip.Json.Number

/-!
# Scanning JSON texts

Steps that take a value from the front of a text. A step for values of one type looks at the first
character of what comes; a value of another type is taken far enough to tell what was found instead.
Arrays and objects may lie within each other to a limited depth only.
-/

namespace Kmip.Json

/-- A step over a text, which may fail. -/
abbrev Scan := StateT (List Char) (Except Fault)

/-- How many arrays and objects may lie within each other. -/
def depthLimit : Nat := 127

/-- Whether a character may stand between values. -/
def isSpace (c : Char) : Bool :=
  c == ' ' || c == '\n' || c == '\t' || c == '\r'

/-- The number of four hexadecimal digits. -/
def hexUnit? (a b c d : Char) : Option Nat := do
  let a ← Hex.digitValue? a.toNat
  let b ← Hex.digitValue? b.toNat
  let c ← Hex.digitValue? c.toNat
  let d ← Hex.digitValue? d.toNat
  pure (a * 4096 + b * 256 + c * 16 + d)

/-- The character of an escape of one letter. -/
def unescape? (c : Char) : Option Char :=
  if c = '"' ∨ c = '\\' ∨ c = '/' then some c
  else if c = 'b' then some '\x08'
  else if c = 'f' then some '\x0c'
  else if c = 'n' then some '\n'
  else if c = 'r' then some '\r'
  else if c = 't' then some '\t'
  else none

/-- The characters up to the closing quote, behind those that are `held` in reverse, and what follows
the quote. A character beyond the first 65536 is escaped as two halves, which must come as a pair. -/
def quoted? (held : List Char) : List Char → Option (List Char × List Char)
  | [] => none
  | '"' :: rest => some (held.reverse, rest)
  | '\\' :: 'u' :: a :: b :: c :: d :: rest =>
    match hexUnit? a b c d with
    | none => none
    | some unit =>
      if unit < 0xD800 ∨ 0xDFFF < unit then quoted? (Char.ofNat unit :: held) rest
      else if 0xDC00 ≤ unit then none
      else
        match rest with
        | '\\' :: 'u' :: e :: f :: g :: h :: rest =>
          match hexUnit? e f g h with
          | none => none
          | some second =>
            if second < 0xDC00 ∨ 0xDFFF < second then none
            else
              let code := 0x10000 + (unit - 0xD800) * 0x400 + (second - 0xDC00)
              quoted? (Char.ofNat code :: held) rest
        | _ => none
  | '\\' :: c :: rest =>
    match unescape? c with
    | some c => quoted? (c :: held) rest
    | none => none
  | c :: rest => if c.toNat < 0x20 then none else quoted? (c :: held) rest

namespace Scan

/-- The first character of the next value, after the blanks before it. -/
def next? : Scan (Option Char) := fun text =>
  let rest := text.dropWhile isSpace
  .ok (rest.head?, rest)

/-- Passes over a character. -/
def advance : Scan Unit :=
  modify List.tail

/-- Passes over a word. -/
def word (word : List Char) : Scan Unit := fun text =>
  if word.isPrefixOf text then .ok ((), text.drop word.length) else .error .malformed

/-- A text whose quote comes next. -/
def quoted : Scan String := fun text =>
  match text with
  | '"' :: rest =>
    match quoted? [] rest with
    | some (chars, rest) => .ok (String.ofList chars, rest)
    | none => .error .malformed
  | _ => .error .malformed

/-- A number that comes next. -/
def number : Scan Json := fun text =>
  match numeral? text with
  | some (numeral, rest) =>
    match numeral.value? with
    | some value => .ok (value, rest)
    | none => .error .malformed
  | none => .error .malformed

/-- Whether a number starts with this character. -/
def startsNumber (c : Char) : Bool :=
  c == '-' || isDigit c

/-- Takes a value without items and members. -/
def atom (c : Char) : Scan Json := do
  if c = 'n' then
    word ['n', 'u', 'l', 'l']
    pure .null
  else if c = 't' then
    word ['t', 'r', 'u', 'e']
    pure (.bool true)
  else if c = 'f' then
    word ['f', 'a', 'l', 's', 'e']
    pure (.bool false)
  else if c = '"' then
    let text ← quoted
    pure (.string text)
  else if startsNumber c then number
  else throw .malformed

/-- Refuses the next value, which is not what is expected. -/
def mismatch {α : Type} (expected : String) : Scan α := do
  match ← next? with
  | none => throw .malformed
  | some '[' => throw (.invalidType .sequence expected)
  | some '\x7b' => throw (.invalidType .map expected)
  | some c =>
    let value ← atom c
    throw (.invalidType value.found expected)

/-- Items up to the end of an array, of which `first` is the first one or not. Every item takes a
character, so `fuel` characters are enough where no more than that can still come. -/
def itemsWithin {α : Type} (item : Scan α) : (first : Bool) → (fuel : Nat) → Scan (List α)
  | _, 0 => throw .malformed
  | first, fuel + 1 => do
    match ← next? with
    | none => throw .malformed
    | some ']' =>
      advance
      pure []
    | some c =>
      if ¬ first then
        if c ≠ ',' then throw .malformed
        advance
        if (← next?) = some ']' then throw .malformed
      let value ← item
      let rest ← itemsWithin item false fuel
      pure (value :: rest)

/-- The items of an array whose bracket has been passed. -/
def items {α : Type} (item : Scan α) : Scan (List α) := do
  itemsWithin item true ((← get).length + 1)

/-- Members up to the end of an object, each of which is taken into a state by its name; `first` tells
whether the first one is to come. -/
def membersWithin {σ : Type} (member : σ → String → Scan σ) :
    (first : Bool) → σ → (fuel : Nat) → Scan σ
  | _, _, 0 => throw .malformed
  | first, state, fuel + 1 => do
    match ← next? with
    | none => throw .malformed
    | some '\x7d' =>
      advance
      pure state
    | some c =>
      if ¬ first then
        if c ≠ ',' then throw .malformed
        advance
        let _ ← next?
      let name ← quoted
      let state ← member state name
      membersWithin member false state fuel

/-- The members of an object whose brace has been passed. -/
def members {σ : Type} (member : σ → String → Scan σ) (state : σ) : Scan σ := do
  membersWithin member true state ((← get).length + 1)

/-- Passes over the colon behind a name. -/
def colon : Scan Unit := do
  match ← next? with
  | some ':' => advance
  | _ => throw .malformed

/-- Any value, with at most so many arrays and objects within each other. -/
def value : (depth : Nat) → Scan Json
  | 0 => do
    match ← next? with
    | none => throw .malformed
    | some c => atom c
  | depth + 1 => do
    match ← next? with
    | none => throw .malformed
    | some '[' =>
      advance
      let items ← items (value depth)
      pure (.array items)
    | some '\x7b' =>
      advance
      let member : List (String × Json) → String → Scan (List (String × Json)) :=
        fun held name => do
          colon
          let value ← value depth
          pure ((name, value) :: held)
      let held ← members member []
      pure (.object held.reverse)
    | some c => atom c

/-- Makes sure that nothing but blanks follows. -/
def finish : Scan Unit := do
  if (← next?).isSome then throw .malformed

/-- The result of a step that takes a whole text. -/
def whole {α : Type} (scan : Scan α) (text : String) : Except Fault α :=
  let step : Scan α := do
    let value ← scan
    finish
    pure value
  (step.run text.toList).map Prod.fst

end Scan

/-- The value of a text. -/
def parse (text : String) : Except Fault Json :=
  (Scan.value depthLimit).whole text

end Kmip.Json
