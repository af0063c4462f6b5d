import Kmip.Records.Basic

/-!
# Credentials

What a client authenticates a request with.
-/

namespace Kmip.Records

/-- A credential made of a name and a password. -/
abbrev usernameAndPassword : Record where
  name := "UsernameAndPassword"
  tag := .credentialValue
  fields :=
    .required .username "username" .text <|
    .required .password "password" .text <|
    .nil

/-- A credential that names a device. -/
abbrev deviceCredential : Record where
  name := "DeviceCredential"
  tag := .credentialValue
  fields :=
    .optional .deviceSerialNumber "device_serial_number" .text <|
    .optional .password "password" .text <|
    .optional .deviceIdentifier "device_identifier" .text <|
    .optional .networkIdentifier "network_identifier" .text <|
    .optional .machineIdentifier "machine_identifier" .text <|
    .optional .mediaIdentifier "media_identifier" .text <|
    .nil

/-- A credential that attests the state of the client. -/
abbrev attestationCredential : Record where
  name := "AttestationCredential"
  tag := .credentialValue
  fields :=
    .required .nonce "nonce" nonce <|
    .required .attestationType "attestation_type" (.enumeration .attestationType) <|
    .optional .attestationMeasurement "attestation_measurement" .bytes <|
    .optional .attestationAssertion "attestation_assertion" .bytes <|
    .nil

/-- The forms of the value of a credential. -/
abbrev credentialValueVariants : Variants :=
  .or "UsernameAndPassword" usernameAndPassword <|
  .or "Device" deviceCredential <|
  .only "Attestation" attestationCredential

/-- A credential, of the form that its type selects. -/
abbrev credential : Record where
  name := "Credential"
  tag := .credential
  fields :=
    .keyed .credentialType .credentialType "credential_type"
      .nil
      .required .credentialValue "credential_value" credentialValueVariants <|
    .nil

/-- The credentials of a request. -/
abbrev authentication : Record where
  name := "Authentication"
  tag := .authentication
  fields :=
    .oneOrMore .credential "credentials" credential <|
    .nil

end Kmip.Records
