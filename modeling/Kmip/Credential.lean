import Kmip.Records

/-!
# Credentials

What a client authenticates a request with. The type of a credential has the name of the variant of
its value.
-/

namespace Kmip

/-- A value of a credential. -/
abbrev CredentialValue := Records.credentialValueVariants.Val

/-- A credential. -/
abbrev Credential := Records.credential.Val

/-- The credential of a value, of the type that fits it. -/
def Credential.ofValue (value : CredentialValue) : Credential :=
  let type := (Domain.credentialType.named? (Records.credentialValueVariants.labelOf value)).getD
    Domain.credentialType.first
  (type, (), value, ())

end Kmip
