import Kmip.Records.Attribute

/-!
# Keys and certificates

Managed objects, and how keys are wrapped.
-/

namespace Kmip.Records

/-- The material of a key, and the attributes bound to it. -/
abbrev keyValue : Record where
  name := "KeyValue"
  tag := .keyValue
  fields :=
    .required .keyMaterial "key_material" .bytes <|
    .embed "attributes" attributes <|
    .nil

/-- The key that wraps or signs another key. Its parameters are kept as they are read. -/
abbrev keyInformation : Record where
  name := "KeyInformation"
  tag := .encryptionKeyInformation
  fields :=
    .required .uniqueIdentifier "unique_identifier" .text <|
    .optional .cryptographicParameters "cryptographic_parameters" .anything <|
    .nil

/-- How a key value has been wrapped. -/
abbrev keyWrappingData : Record where
  name := "KeyWrappingData"
  tag := .keyWrappingData
  fields :=
    .required .wrappingMethod "wrapping_method" (.enumeration .wrappingMethod) <|
    .optional .encryptionKeyInformation "encryption_key_information" keyInformation <|
    .optional .macSignatureKeyInformation "mac_signature_key_information" keyInformation <|
    .optional .macSignature "mac_signature" .bytes <|
    .optional .ivCounterNonce "iv_counter_nonce" .bytes <|
    .optional .encodingOption "encoding_option" (.enumeration .encodingOption) <|
    .nil

/-- A key with what belongs to it; the key itself is absent where it is kept elsewhere. -/
abbrev keyBlock : Record where
  name := "KeyBlock"
  tag := .keyBlock
  fields :=
    .required .keyFormatType "key_format_type" (.enumeration .keyFormatType) <|
    .optional .keyCompressionType "key_compression_type" (.enumeration .keyCompressionType) <|
    .optional .keyValue "key_value" keyValue <|
    .optional .cryptographicAlgorithm "cryptographic_algorithm"
      (.enumeration .cryptographicAlgorithm) <|
    .optional .cryptographicLength "cryptographic_length" .integer <|
    .optional .keyWrappingData "key_wrapping_data" keyWrappingData <|
    .nil

/-- How a key that is handed out is to be wrapped, and with which attributes. -/
abbrev keyWrappingSpecification : Record where
  name := "KeyWrappingSpecification"
  tag := .keyWrappingSpecification
  fields :=
    .required .wrappingMethod "wrapping_method" (.enumeration .wrappingMethod) <|
    .optional .encryptionKeyInformation "encryption_key_information" keyInformation <|
    .optional .macSignatureKeyInformation "mac_signature_key_information" keyInformation <|
    .zeroOrMore .attributeName "attribute_names" .text <|
    .optional .encodingOption "encoding_option" (.enumeration .encodingOption) <|
    .nil

/-- A symmetric key. -/
abbrev symmetricKey : Record where
  name := "SymmetricKey"
  tag := .symmetricKey
  fields :=
    .required .keyBlock "key_block" keyBlock <|
    .nil

/-- A digital certificate in its encoded form. -/
abbrev certificate : Record where
  name := "Certificate"
  tag := .certificate
  fields :=
    .required .certificateType "certificate_type" (.enumeration .certificateType) <|
    .required .certificateValue "certificate_value" .bytes <|
    .nil

end Kmip.Records
