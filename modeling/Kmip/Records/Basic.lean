import Kmip.Shape
import Kmip.Tag.Named

/-!
# Records that stand alone

Versions, labels, links and other records that use no further record.
-/

namespace Kmip.Records

/-- The version of the protocol in which a message is written. -/
abbrev protocolVersion : Record where
  name := "ProtocolVersion"
  tag := .protocolVersion
  fields :=
    .required .protocolVersionMajor "protocol_version_major" .integer <|
    .required .protocolVersionMinor "protocol_version_minor" .integer <|
    .nil

/-- A label of a managed object. -/
abbrev name : Record where
  name := "Name"
  tag := .name
  fields :=
    .required .nameValue "name_value" .text <|
    .required .nameType "name_type" (.enumeration .nameType) <|
    .nil

/-- A relation of a managed object to another one. -/
abbrev link : Record where
  name := "Link"
  tag := .link
  fields :=
    .required .linkType "link_type" (.enumeration .linkType) <|
    .required .linkedObjectIdentifier "linked_object_identifier" .text <|
    .nil

/-- A random value that an attestation has to repeat. -/
abbrev nonce : Record where
  name := "Nonce"
  tag := .nonce
  fields :=
    .required .nonceId "nonce_id" .bytes <|
    .required .nonceValue "nonce_value" .bytes <|
    .nil

/-- Data of a vendor. An extension that is critical must be understood. -/
abbrev messageExtension : Record where
  name := "MessageExtension"
  tag := .messageExtension
  fields :=
    .required .vendorIdentification "vendor_identification" .text <|
    .required .criticalityIndicator "criticality_indicator" .boolean <|
    .required .vendorExtension "vendor_extension" .anything <|
    .nil

end Kmip.Records
