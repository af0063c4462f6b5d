import Kmip.Hex
import Kmip.Text.Hidden

/-!
# Quoted text

A text between quotes, in which a quote, a backslash and every character without a glyph of its own
is written as an escape.
-/

namespace Kmip.Text

/-- A character by its number, between braces. -/
def escapeNumber (c : Char) : List Char :=
  "\\u\x7b".toList ++ (Hex.ofNat c.toNat).toList ++ ['\x7d']

/-- A character as it stands between marks that are `mark`. -/
def escape (mark c : Char) : List Char :=
  if c = '\x00' then ['\\', '0']
  else if c = '\t' then ['\\', 't']
  else if c = '\r' then ['\\', 'r']
  else if c = '\n' then ['\\', 'n']
  else if c = '\\' ∨ c = mark then ['\\', c]
  else if isHidden c then escapeNumber c
  else [c]

/-- A text between double quotes. -/
def quote (text : String) : String :=
  String.ofList ('"' :: text.toList.flatMap (escape '"') ++ ['"'])

/-- A character between single quotes. -/
def quoteChar (c : Char) : String :=
  String.ofList ('\x27' :: escape '\x27' c ++ ['\x27'])

end Kmip.Text
