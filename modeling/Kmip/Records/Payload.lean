import Kmip.Records.Key

/-!
# Payloads

What requests and responses say about a single operation.
-/

namespace Kmip.Records

/-- Asks for a new object. -/
abbrev createRequest : Record where
  name := "CreateRequest"
  tag := .requestPayload
  fields :=
    .required .objectType "object_type" (.enumeration .objectType) <|
    .required .templateAttribute "template_attribute" templateAttribute <|
    .nil

/-- Tells of a new object, and which attributes it was given. -/
abbrev createResponse : Record where
  name := "CreateResponse"
  tag := .responsePayload
  fields :=
    .required .objectType "object_type" (.enumeration .objectType) <|
    .required .uniqueIdentifier "unique_identifier" .text <|
    .optional .templateAttribute "template_attribute" templateAttribute <|
    .nil

/-- Asks for a public and a private key; what applies to both stands in the common template. -/
abbrev createKeyPairRequest : Record where
  name := "CreateKeyPairRequest"
  tag := .requestPayload
  fields :=
    .optional .commonTemplateAttribute "common_template_attribute" templateAttribute <|
    .optional .privateKeyTemplateAttribute "private_key_template_attribute" templateAttribute <|
    .optional .publicKeyTemplateAttribute "public_key_template_attribute" templateAttribute <|
    .nil

/-- Tells of a new pair of keys. -/
abbrev createKeyPairResponse : Record where
  name := "CreateKeyPairResponse"
  tag := .responsePayload
  fields :=
    .required .privateKeyUniqueIdentifier "private_key_unique_identifier" .text <|
    .required .publicKeyUniqueIdentifier "public_key_unique_identifier" .text <|
    .optional .privateKeyTemplateAttribute "private_key_template_attribute" templateAttribute <|
    .optional .publicKeyTemplateAttribute "public_key_template_attribute" templateAttribute <|
    .nil

/-- Asks for an object, by default for the last one that was mentioned. -/
abbrev getRequest : Record where
  name := "GetRequest"
  tag := .requestPayload
  fields :=
    .optional .uniqueIdentifier "unique_identifier" .text <|
    .optional .keyFormatType "key_format_type" (.enumeration .keyFormatType) <|
    .optional .keyWrapType "key_wrap_type" (.enumeration .keyWrapType) <|
    .optional .keyCompressionType "key_compression_type" (.enumeration .keyCompressionType) <|
    .optional .keyWrappingSpecification "key_wrapping_specification" keyWrappingSpecification <|
    .nil

/-- Hands out a symmetric key or a certificate. -/
abbrev getResponse : Record where
  name := "GetResponse"
  tag := .responsePayload
  fields :=
    .required .objectType "object_type" (.enumeration .objectType) <|
    .required .uniqueIdentifier "unique_identifier" .text <|
    .optional .symmetricKey "symmetric_key" symmetricKey <|
    .optional .certificate "certificate" certificate <|
    .nil

/-- Asks for attributes of an object, for all of them when none is named. -/
abbrev getAttributesRequest : Record where
  name := "GetAttributesRequest"
  tag := .requestPayload
  fields :=
    .optional .uniqueIdentifier "unique_identifier" .text <|
    .zeroOrMore .attributeName "attribute_names" .text <|
    .nil

/-- Tells attributes of an object. -/
abbrev getAttributesResponse : Record where
  name := "GetAttributesResponse"
  tag := .responsePayload
  fields :=
    .required .uniqueIdentifier "unique_identifier" .text <|
    .embed "attributes" attributes <|
    .nil

/-- Asks which attributes an object has. -/
abbrev getAttributeListRequest : Record where
  name := "GetAttributeListRequest"
  tag := .requestPayload
  fields :=
    .optional .uniqueIdentifier "unique_identifier" .text <|
    .nil

/-- Tells which attributes an object has. -/
abbrev getAttributeListResponse : Record where
  name := "GetAttributeListResponse"
  tag := .responsePayload
  fields :=
    .required .uniqueIdentifier "unique_identifier" .text <|
    .zeroOrMore .attributeName "attribute_names" .text <|
    .nil

/-- Asks for an object to be destroyed. -/
abbrev destroyRequest : Record where
  name := "DestroyRequest"
  tag := .requestPayload
  fields :=
    .optional .uniqueIdentifier "unique_identifier" .text <|
    .nil

/-- Tells that an object was destroyed. -/
abbrev destroyResponse : Record where
  name := "DestroyResponse"
  tag := .responsePayload
  fields :=
    .required .uniqueIdentifier "unique_identifier" .text <|
    .nil

/-- Tells which versions the client speaks, the preferred one first. -/
abbrev discoverVersionsRequest : Record where
  name := "DiscoverVersionsRequest"
  tag := .requestPayload
  fields :=
    .zeroOrMore .protocolVersion "protocol_versions" protocolVersion <|
    .nil

/-- Tells which versions both sides speak. -/
abbrev discoverVersionsResponse : Record where
  name := "DiscoverVersionsResponse"
  tag := .responsePayload
  fields :=
    .zeroOrMore .protocolVersion "protocol_versions" protocolVersion <|
    .nil

/-- The forms of the payload of a request; without an operation it is about versions. -/
abbrev requestPayloadVariants : Variants :=
  .or "DiscoverVersions" discoverVersionsRequest <|
  .or "Create" createRequest <|
  .or "CreateKeyPair" createKeyPairRequest <|
  .or "Get" getRequest <|
  .or "GetAttributes" getAttributesRequest <|
  .or "GetAttributeList" getAttributeListRequest <|
  .only "Destroy" destroyRequest

/-- The forms of the payload of a response; without an operation it is about versions. -/
abbrev responsePayloadVariants : Variants :=
  .or "DiscoverVersions" discoverVersionsResponse <|
  .or "Create" createResponse <|
  .or "CreateKeyPair" createKeyPairResponse <|
  .or "Get" getResponse <|
  .or "GetAttributes" getAttributesResponse <|
  .or "GetAttributeList" getAttributeListResponse <|
  .only "Destroy" destroyResponse

end Kmip.Records
