import Kmip.Fault
import Kmip.Json.Fault

/-!
# Failures of operations

Why an operation did not succeed, as it is told to the other side: every failure has a text, and a
reason out of those that the protocol knows.
-/

namespace Kmip

/-- A reason for a failure that the protocol knows. -/
abbrev ResultReason := Domain.resultReason.Member

namespace ResultReason

/-- The message is not what the protocol demands. -/
def invalidMessage : ResultReason := ⟨0x4, by decide⟩

/-- No other reason fits. -/
def generalFailure : ResultReason := ⟨0x100, by decide⟩

end ResultReason

/-- The text of a refusal of hexadecimal digits. -/
def Hex.Fault.message : Hex.Fault → String
  | .oddLength => "Odd number of digits"
  | .notADigit byte position =>
    s!"Invalid character {Text.quoteChar (Char.ofNat byte.toNat)} at position {position}"

/-- Why an operation did not succeed. -/
inductive Failure where
  /-- A failure of which only the text is known. -/
  | plain (text : String)
  /-- A failure with the reason to report. -/
  | reported (reason : ResultReason) (text : String)
  /-- A message whose parts do not fit together. -/
  | invalidMessage (text : String)
  /-- Bytes that are no message, or a message that has no bytes. -/
  | item (cause : Fault)
  /-- A text that is no JSON form, or an item that has no such form. -/
  | json (cause : Json.Fault)
  /-- A text that is no run of hexadecimal digits. -/
  | hex (cause : Hex.Fault)
  /-- A source or a sink failed. -/
  | io (report : String)

namespace Failure

/-- The text of a failure. -/
def message : Failure → String
  | plain text => text
  | reported reason text => s!"{reason.name}: {text}"
  | invalidMessage text => s!"invalid message: {text}"
  | item cause => cause.message
  | json cause => cause.message
  | hex cause => cause.message
  | io report => report

/-- The reason to report for a failure. -/
def reason : Failure → ResultReason
  | reported reason _ => reason
  | invalidMessage _ | item _ | json _ | hex _ => .invalidMessage
  | plain _ | io _ => .generalFailure

/-- The failure with another reason to report. Only its text is kept. -/
def withReason (reason : ResultReason) : Failure → Failure
  | reported _ text => reported reason text
  | failure => reported reason failure.message

/-- The failure with what was going on in front of its text. -/
def inContext (context : String) (failure : Failure) : Failure :=
  plain s!"{context}: {failure.message}"

/-- A failure of no particular kind. -/
def general (text : String) : Failure :=
  reported .generalFailure text

end Failure

end Kmip
