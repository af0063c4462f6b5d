/-!
# Enumeration domains

The sets of named codes that the protocol defines, each with its members in the order in which the
protocol lists them.
-/

namespace Kmip

/-- A set of named codes. -/
inductive Domain where
  | operation
  | cryptographicAlgorithm
  | credentialType
  | resultStatus
  | resultReason
  | nameType
  | linkType
  | certificateType
  | keyFormatType
  | keyCompressionType
  | keyWrapType
  | wrappingMethod
  | encodingOption
  | state
  | attestationType
  | batchErrorContinuationOption
  | objectType
deriving DecidableEq, Repr

namespace Domain

/-- Every domain. -/
def all : List Domain :=
  [
    .operation, .cryptographicAlgorithm, .credentialType, .resultStatus, .resultReason, .nameType,
    .linkType, .certificateType, .keyFormatType, .keyCompressionType, .keyWrapType,
    .wrappingMethod, .encodingOption, .state, .attestationType, .batchErrorContinuationOption,
    .objectType ]

/-- The name of a domain. -/
def name : Domain → String
  | .operation => "Operation"
  | .cryptographicAlgorithm => "CryptographicAlgorithm"
  | .credentialType => "CredentialType"
  | .resultStatus => "ResultStatus"
  | .resultReason => "ResultReason"
  | .nameType => "NameType"
  | .linkType => "LinkType"
  | .certificateType => "CertificateType"
  | .keyFormatType => "KeyFormatType"
  | .keyCompressionType => "KeyCompressionType"
  | .keyWrapType => "KeyWrapType"
  | .wrappingMethod => "WrappingMethod"
  | .encodingOption => "EncodingOption"
  | .state => "State"
  | .attestationType => "AttestationType"
  | .batchErrorContinuationOption => "BatchErrorContinuationOption"
  | .objectType => "ObjectType"

/-- The members of the domain Operation. -/
def operationMembers : List (String × UInt32) :=
  [
    ("Create", 0x1), ("CreateKeyPair", 0x2), ("Register", 0x3), ("ReKey", 0x4),
    ("DeriveKey", 0x5), ("Certify", 0x6), ("ReCertify", 0x7), ("Locate", 0x8), ("Check", 0x9),
    ("Get", 0xA), ("GetAttributes", 0xB), ("GetAttributeList", 0xC), ("AddAttribute", 0xD),
    ("ModifyAttribute", 0xE), ("DeleteAttribute", 0xF), ("ObtainLease", 0x10),
    ("GetUsageAllocation", 0x11), ("Activate", 0x12), ("Revoke", 0x13), ("Destroy", 0x14),
    ("Archive", 0x15), ("Recover", 0x16), ("Validate", 0x17), ("Query", 0x18), ("Cancel", 0x19),
    ("Poll", 0x1A), ("Notify", 0x1B), ("Put", 0x1C), ("ReKeyKeyPair", 0x1D),
    ("DiscoverVersions", 0x1E), ("Encrypt", 0x1F), ("Decrypt", 0x20), ("Sign", 0x21),
    ("SignatureVerify", 0x22), ("MAC", 0x23), ("MACVerify", 0x24), ("RNGRetrieve", 0x25),
    ("RNGSeed", 0x26), ("Hash", 0x27), ("CreateSplitKey", 0x28), ("JoinSplitKey", 0x29),
    ("Import", 0x2A), ("Export", 0x2B), ("Log", 0x2C), ("Login", 0x2D), ("Logout", 0x2E),
    ("DelegatedLogin", 0x2F), ("AdjustAttribute", 0x30), ("SetAttribute", 0x31),
    ("SetEndpointRole", 0x32), ("PKCS11", 0x33), ("Interop", 0x34), ("ReProvision", 0x35) ]

/-- The members of the domain CryptographicAlgorithm. -/
def cryptographicAlgorithmMembers : List (String × UInt32) :=
  [
    ("DES", 0x1), ("THREE_DES", 0x2), ("AES", 0x3), ("RSA", 0x4), ("DSA", 0x5), ("ECDSA", 0x6),
    ("HMACSHA1", 0x7), ("HMACSHA224", 0x8), ("HMACSHA256", 0x9), ("HMACSHA384", 0xA),
    ("HMACSHA512", 0xB), ("HMACMD5", 0xC), ("DH", 0xD), ("ECDH", 0xE), ("ECMQV", 0xF),
    ("Blowfish", 0x10), ("Camellia", 0x11), ("CAST5", 0x12), ("IDEA", 0x13), ("MARS", 0x14),
    ("RC2", 0x15), ("RC4", 0x16), ("RC5", 0x17), ("SKIPJACK", 0x18), ("Twofish", 0x19),
    ("EC", 0x1A), ("OneTimePad", 0x1B), ("ChaCha20", 0x1C), ("Poly1305", 0x1D),
    ("ChaCha20Poly1305", 0x1E), ("SHA3224", 0x1F), ("SHA3256", 0x20), ("SHA3384", 0x21),
    ("SHA3512", 0x22), ("HMACSHA3224", 0x23), ("HMACSHA3256", 0x24), ("HMACSHA3384", 0x25),
    ("HMACSHA3512", 0x26), ("SHAKE128", 0x27), ("SHAKE256", 0x28), ("ARIA", 0x29), ("SEED", 0x2A),
    ("SM2", 0x2B), ("SM3", 0x2C), ("SM4", 0x2D), ("GOSTR34102012", 0x2E), ("GOSTR34112012", 0x2F),
    ("GOSTR34132015", 0x30), ("GOST2814789", 0x31), ("XMSS", 0x32), ("SPHINCS_256", 0x33),
    ("McEliece", 0x34), ("McEliece6960119", 0x35), ("McEliece8192128", 0x36), ("Ed25519", 0x37),
    ("Ed448", 0x38) ]

/-- The members of the domain CredentialType. -/
def credentialTypeMembers : List (String × UInt32) :=
  [
    ("UsernameAndPassword", 0x1), ("Device", 0x2), ("Attestation", 0x3), ("OneTimePassword", 0x4),
    ("HashedPassword", 0x5), ("Ticket", 0x6) ]

/-- The members of the domain ResultStatus. -/
def resultStatusMembers : List (String × UInt32) :=
  [
    ("Success", 0x0), ("OperationFailed", 0x1), ("OperationPending", 0x2),
    ("OperationUndone", 0x3) ]

/-- The members of the domain ResultReason. -/
def resultReasonMembers : List (String × UInt32) :=
  [
    ("ItemNotFound", 0x1), ("ResponseTooLarge", 0x2), ("AuthenticationNotSuccessful", 0x3),
    ("InvalidMessage", 0x4), ("OperationNotSupported", 0x5), ("MissingData", 0x6),
    ("InvalidField", 0x7), ("FeatureNotSupported", 0x8), ("OperationCanceledByRequester", 0x9),
    ("CryptographicFailure", 0xA), ("IllegalOperation", 0xB), ("PermissionDenied", 0xC),
    ("ObjectArchived", 0xD), ("IndexOutOfBounds", 0xE), ("ApplicationNamespaceNotSupported", 0xF),
    ("KeyFormatTypeNotSupported", 0x10), ("KeyCompressionTypeNotSupported", 0x11),
    ("EncodingOptionError", 0x12), ("KeyValueNotPresent", 0x13), ("AttestationRequired", 0x14),
    ("AttestationFailed", 0x15), ("Sensitive", 0x16), ("NotExtractable", 0x17),
    ("ObjectAlreadyExists", 0x18), ("GeneralFailure", 0x100) ]

/-- The members of the domain NameType. -/
def nameTypeMembers : List (String × UInt32) :=
  [
    ("UninterpretedTextString", 0x1), ("URI", 0x2) ]

/-- The members of the domain LinkType. -/
def linkTypeMembers : List (String × UInt32) :=
  [
    ("CertificateLink", 0x101), ("PublicKeyLink", 0x102), ("PrivateKeyLink", 0x103),
    ("DerivationBaseObjectLink", 0x104), ("DerivedKeyLink", 0x105),
    ("ReplacementObjectLink", 0x106), ("ReplacedObjectLink", 0x107), ("ParentLink", 0x108),
    ("ChildLink", 0x109), ("PreviousLink", 0x10A), ("NextLink", 0x10B) ]

/-- The members of the domain CertificateType. -/
def certificateTypeMembers : List (String × UInt32) :=
  [
    ("X509", 0x1), ("PGP", 0x2) ]

/-- The members of the domain KeyFormatType. -/
def keyFormatTypeMembers : List (String × UInt32) :=
  [
    ("Raw", 0x1), ("Opaque", 0x2), ("PKCS1", 0x3), ("PKCS8", 0x4), ("X509", 0x5),
    ("ECPrivateKey", 0x6), ("TransparentSymmetricKey", 0x7), ("TransparentDSAPrivateKey", 0x8),
    ("TransparentDSAPublicKey", 0x9), ("TransparentRSAPrivateKey", 0xA),
    ("TransparentRSAPublicKey", 0xB), ("TransparentDHPrivateKey", 0xC),
    ("TransparentDHPublicKey", 0xD), ("TransparentECDSAPrivateKey", 0xE),
    ("TransparentECDSAPublicKey", 0xF), ("TransparentECDHPrivateKey", 0x10),
    ("TransparentECDHPublicKey", 0x11), ("TransparentECMQVPrivateKey", 0x12),
    ("TransparentECMQVPublicKey", 0x13), ("TransparentECPrivateKey", 0x14),
    ("TransparentECPublicKey", 0x15), ("PKCS12", 0x16) ]

/-- The members of the domain KeyCompressionType. -/
def keyCompressionTypeMembers : List (String × UInt32) :=
  [
    ("ECPublicKeyTypeUncompressed", 0x1), ("ECPublicKeyTypeX962CompressedPrime", 0x2),
    ("ECPublicKeyTypeX962CompressedChar2", 0x3), ("ECPublicKeyTypeX962Hybrid", 0x4) ]

/-- The members of the domain KeyWrapType. -/
def keyWrapTypeMembers : List (String × UInt32) :=
  [
    ("NotWrapped", 0x1), ("AsRegistered", 0x2) ]

/-- The members of the domain WrappingMethod. -/
def wrappingMethodMembers : List (String × UInt32) :=
  [
    ("Encrypt", 0x1), ("MACSign", 0x2), ("EncryptThenMACSign", 0x3), ("MACSignThenEncrypt", 0x4),
    ("TR31", 0x5) ]

/-- The members of the domain EncodingOption. -/
def encodingOptionMembers : List (String × UInt32) :=
  [
    ("NoEncoding", 0x1), ("TTLVEncoding", 0x2) ]

/-- The members of the domain State. -/
def stateMembers : List (String × UInt32) :=
  [
    ("PreActive", 0x1), ("Active", 0x2), ("Deactivated", 0x3), ("Compromised", 0x4),
    ("Destroyed", 0x5), ("Destroyed_Compromised", 0x6) ]

/-- The members of the domain AttestationType. -/
def attestationTypeMembers : List (String × UInt32) :=
  [
    ("TPM_Quote", 0x1), ("TCG_Integrity_Report", 0x2), ("SAML_Assertion", 0x3) ]

/-- The members of the domain BatchErrorContinuationOption. -/
def batchErrorContinuationOptionMembers : List (String × UInt32) :=
  [
    ("Continue", 0x1), ("Stop", 0x2), ("Undo", 0x3) ]

/-- The members of the domain ObjectType. -/
def objectTypeMembers : List (String × UInt32) :=
  [
    ("Certificate", 0x1), ("SymmetricKey", 0x2), ("PublicKey", 0x3), ("PrivateKey", 0x4),
    ("SplitKey", 0x5), ("Template", 0x6), ("SecretData", 0x7), ("OpaqueObject", 0x8),
    ("PGPKey", 0x9), ("CertificateRequest", 0xA) ]

/-- The names and codes of the members of a domain. -/
def members : Domain → List (String × UInt32)
  | .operation => operationMembers
  | .cryptographicAlgorithm => cryptographicAlgorithmMembers
  | .credentialType => credentialTypeMembers
  | .resultStatus => resultStatusMembers
  | .resultReason => resultReasonMembers
  | .nameType => nameTypeMembers
  | .linkType => linkTypeMembers
  | .certificateType => certificateTypeMembers
  | .keyFormatType => keyFormatTypeMembers
  | .keyCompressionType => keyCompressionTypeMembers
  | .keyWrapType => keyWrapTypeMembers
  | .wrappingMethod => wrappingMethodMembers
  | .encodingOption => encodingOptionMembers
  | .state => stateMembers
  | .attestationType => attestationTypeMembers
  | .batchErrorContinuationOption => batchErrorContinuationOptionMembers
  | .objectType => objectTypeMembers

end Domain

end Kmip
