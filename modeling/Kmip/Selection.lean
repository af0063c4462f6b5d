import Kmip.Fault
import Kmip.Shape

/-!
# Selecting the form of a value

Some fields have a form that another field of the same record selects: the value of an attribute, of
a credential, and the payload of a batch item.
-/

namespace Kmip

/-- The forms of the values of the standard attributes. -/
def standardAttributes : List (String × String) :=
  [("Unique Identifier", "TextString"), ("Object Group", "TextString"),
    ("Contact Information", "TextString"), ("Operation Policy Name", "TextString"),
    ("Name", "Name"), ("Object Type", "ObjectType"),
    ("Cryptographic Algorithm", "CryptographicAlgorithm"), ("Cryptographic Length", "Integer"),
    ("Cryptographic Usage Mask", "CryptographicUsageMask"), ("Initial Date", "DateTime"),
    ("Last Change Date", "DateTime"), ("Activation Date", "DateTime"),
    ("Deactivation Date", "DateTime"), ("Destroy Date", "DateTime"),
    ("Process Start Date", "DateTime"), ("Protect Stop Date", "DateTime"),
    ("Compromise Date", "DateTime"), ("Compromise Occurrence Date", "DateTime"),
    ("Archive Date", "DateTime"), ("Lease Time", "Interval"), ("State", "State"),
    ("Link", "Link"), ("Sensitive", "Boolean"), ("Extractable", "Boolean"),
    ("Always Sensitive", "Boolean"), ("Never Extractable", "Boolean"), ("Fresh", "Boolean")]

/-- Whether a name is one that clients (`x-`) or servers (`y-`) give to attributes of their own. -/
def isCustomAttribute (name : String) : Bool :=
  match name.toList with
  | mark :: '-' :: _ => mark == 'x' || mark == 'y'
  | _ => false

/-- The form of the value of an attribute, by the name of the attribute. Attributes of clients and
servers may hold anything. -/
def attributeForm? (name : String) : Option String :=
  match (standardAttributes.find? fun entry => entry.1 = name).map Prod.snd with
  | some form => some form
  | none => if isCustomAttribute name then some "Custom" else none

/-- A field that selects, with the text of its value. -/
structure Selection where
  selector : Selector
  key : String
deriving DecidableEq, Repr

namespace Selection

/-- The selection that the value of a selecting field makes. -/
def of : (selector : Selector) → selector.leaf.Val → Selection
  | .attributeName, name => ⟨.attributeName, name⟩
  | .credentialType, type => ⟨.credentialType, Domain.Member.name type⟩
  | .operation, operation => ⟨.operation, Domain.Member.name operation⟩

/-- What selects, as it is called in reports. -/
def what (selection : Selection) : String :=
  match selection.selector with
  | .attributeName => "attribute"
  | .credentialType => "credential type"
  | .operation => "operation"

/-- The name of the variant that is selected. Credential types and operations select the variant of
their own name. -/
def variant? (selection : Selection) : Option String :=
  match selection.selector with
  | .attributeName => attributeForm? selection.key
  | .credentialType | .operation => some selection.key

/-- The fault of a selection for which there is no variant. -/
def unsupported (selection : Selection) : Fault :=
  .unsupported selection.what selection.key

/-- The fault of a value that has another variant than the one selected. -/
def mismatched (selection : Selection) : Fault :=
  .mismatched selection.what selection.key

/-- The value that stands where none is given, in the variant that is selected. -/
def blank (selection : Selection) (variants : Variants) : Except Fault variants.Val :=
  (selection.variant?.bind fun label => variants.blankOf? label).elim
    (.error selection.unsupported) .ok

/-- Makes sure that a value has the variant that is selected. -/
def check (selection : Selection) (variants : Variants) (value : variants.Val) :
    Except Fault Unit :=
  match selection.variant? with
  | none => .error selection.unsupported
  | some label => if label = variants.labelOf value then .ok () else .error selection.mismatched

end Selection

end Kmip
