/-!
# Cryptographic usage masks

What a key may be used for, as a set of bits. Some bits have names; all others may be set too.
-/

namespace Kmip

/-- A set of permitted uses. -/
structure UsageMask where
  bits : UInt32
deriving DecidableEq, Repr, Inhabited

namespace UsageMask

/-- The names of single bits, from the lowest on. -/
def flagNames : List String :=
  ["Sign", "Verify", "Encrypt", "Decrypt", "WrapKey", "UnwrapKey", "Export", "MACGenerate",
    "MACVerify", "DeriveKey", "ContentCommitment", "KeyAgreement", "CertificateSign", "CRLSign",
    "GenerateCryptogram", "ValidateCryptogram", "TranslateEncrypt", "TranslateDecrypt",
    "TranslateWrap", "TranslateUnwrap", "Authenticate", "Unrestricted", "FPEEncrypt", "FPEDecrypt"]

/-- The named uses, each with its bit. -/
def flags : List (String × UsageMask) :=
  flagNames.zipIdx.map fun (name, place) => (name, ⟨1 <<< UInt32.ofNat place⟩)

/-- The mask of a named use. -/
def flag? (name : String) : Option UsageMask :=
  (flags.find? fun flag => flag.1 = name).map Prod.snd

/-- The uses of both masks together. -/
def insert (mask other : UsageMask) : UsageMask := ⟨mask.bits ||| other.bits⟩

/-- The uses of a mask that the other does not have. -/
def remove (mask other : UsageMask) : UsageMask := ⟨mask.bits &&& ~~~ other.bits⟩

/-- The uses that exactly one of two masks has. -/
def toggle (mask other : UsageMask) : UsageMask := ⟨mask.bits ^^^ other.bits⟩

/-- The uses that two masks share. -/
def and (mask other : UsageMask) : UsageMask := ⟨mask.bits &&& other.bits⟩

/-- Whether a mask has every use of the other. -/
def contains (mask other : UsageMask) : Bool := mask.bits &&& other.bits == other.bits

/-- Whether two masks share a use. -/
def intersects (mask other : UsageMask) : Bool := mask.bits &&& other.bits != 0

/-- Whether a mask permits nothing. -/
def isEmpty (mask : UsageMask) : Bool := mask.bits == 0

/-- The named uses of a mask. -/
def named (mask : UsageMask) : List (String × UsageMask) :=
  flags.filter fun flag => mask.contains flag.2

end UsageMask

end Kmip
