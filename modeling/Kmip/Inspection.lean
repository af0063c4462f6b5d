import Kmip.Failure
import Kmip.Item.Form
import Kmip.Records
import Kmip.Shape.Decode
import Kmip.Shape.Outline
import Kmip.Text.Blank

/-!
# Inspecting messages

A message that is given in hexadecimal digits is displayed twice: as the JSON form of its items, and,
when its tag is that of a message, as the record that it holds. What is displayed before a failure
stays.
-/

namespace Kmip

/-- A step that displays something, or fails behind what has been displayed. -/
abbrev Display := EStateM Failure (List Char)

namespace Display

/-- Displays characters. -/
def put (text : List Char) : Display Unit :=
  modify fun displayed => displayed ++ text

/-- A step that displays nothing. -/
def lift {α : Type} : Except Failure α → Display α
  | .ok value => pure value
  | .error failure => throw failure

/-- Displays something under a heading. -/
def headed (heading : String) (body : List Char) : Display Unit :=
  put (heading.toList ++ [' ', '=', '=', '>', '\n', '\n'] ++ body ++ ['\n', '\n'])

end Display

namespace Inspection

/-- A text without blanks and without the bars that people put between the parts of a message. -/
def cleaned (text : String) : String :=
  String.ofList (text.toList.filter fun c => ¬ Text.isBlank c ∧ c ≠ '|')

/-- Displays the record that the bytes of a message hold. -/
def record (config : Config) (heading : String) (record : Record) (bytes : Bytes) :
    Display Unit := do
  let value ← Display.lift ((record.decode config bytes).mapError .item)
  Display.headed heading ((record.outline value).lines 0)

/-- Displays a message. -/
def message (config : Config) (input : String) : Display Unit := do
  let bytes ← Display.lift ((Hex.decode (cleaned input)).mapError .hex)
  let item ← Display.lift ((Item.decode config bytes).mapError .item)
  let form ← Display.lift (item.form.mapError .json)
  Display.headed "TTLV" (form.pretty 0)
  if item.tag = Records.requestMessage.tag.text then
    record config "Request" Records.requestMessage bytes
  else if item.tag = Records.responseMessage.tag.text then
    record config "Response" Records.responseMessage bytes
  else
    Display.put "not a message: expecting RequestMessage or ResponseMessage\n".toList

end Inspection

end Kmip
