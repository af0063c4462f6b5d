import Kmip.Tag

/-!
# Tags by name

The registered tags that the records of the protocol use.
-/

namespace Kmip.Tag

def asynchronousCorrelationValue : Tag := ⟨0x420006⟩
def asynchronousIndicator : Tag := ⟨0x420007⟩
def attributeEntry : Tag := ⟨0x420008⟩
def attributeIndex : Tag := ⟨0x420009⟩
def attributeName : Tag := ⟨0x42000A⟩
def attributeValue : Tag := ⟨0x42000B⟩
def authentication : Tag := ⟨0x42000C⟩
def batchCount : Tag := ⟨0x42000D⟩
def batchErrorContinuationOption : Tag := ⟨0x42000E⟩
def batchItem : Tag := ⟨0x42000F⟩
def batchOrderOption : Tag := ⟨0x420010⟩
def certificate : Tag := ⟨0x420013⟩
def certificateType : Tag := ⟨0x42001D⟩
def certificateValue : Tag := ⟨0x42001E⟩
def commonTemplateAttribute : Tag := ⟨0x42001F⟩
def credential : Tag := ⟨0x420023⟩
def credentialType : Tag := ⟨0x420024⟩
def credentialValue : Tag := ⟨0x420025⟩
def criticalityIndicator : Tag := ⟨0x420026⟩
def cryptographicAlgorithm : Tag := ⟨0x420028⟩
def cryptographicLength : Tag := ⟨0x42002A⟩
def cryptographicParameters : Tag := ⟨0x42002B⟩
def encryptionKeyInformation : Tag := ⟨0x420036⟩
def ivCounterNonce : Tag := ⟨0x42003D⟩
def keyBlock : Tag := ⟨0x420040⟩
def keyCompressionType : Tag := ⟨0x420041⟩
def keyFormatType : Tag := ⟨0x420042⟩
def keyMaterial : Tag := ⟨0x420043⟩
def keyValue : Tag := ⟨0x420045⟩
def keyWrappingData : Tag := ⟨0x420046⟩
def keyWrappingSpecification : Tag := ⟨0x420047⟩
def link : Tag := ⟨0x42004A⟩
def linkType : Tag := ⟨0x42004B⟩
def linkedObjectIdentifier : Tag := ⟨0x42004C⟩
def macSignature : Tag := ⟨0x42004D⟩
def macSignatureKeyInformation : Tag := ⟨0x42004E⟩
def maximumResponseSize : Tag := ⟨0x420050⟩
def messageExtension : Tag := ⟨0x420051⟩
def name : Tag := ⟨0x420053⟩
def nameType : Tag := ⟨0x420054⟩
def nameValue : Tag := ⟨0x420055⟩
def objectType : Tag := ⟨0x420057⟩
def operation : Tag := ⟨0x42005C⟩
def privateKeyTemplateAttribute : Tag := ⟨0x420065⟩
def privateKeyUniqueIdentifier : Tag := ⟨0x420066⟩
def protocolVersion : Tag := ⟨0x420069⟩
def protocolVersionMajor : Tag := ⟨0x42006A⟩
def protocolVersionMinor : Tag := ⟨0x42006B⟩
def publicKeyTemplateAttribute : Tag := ⟨0x42006E⟩
def publicKeyUniqueIdentifier : Tag := ⟨0x42006F⟩
def requestHeader : Tag := ⟨0x420077⟩
def requestMessage : Tag := ⟨0x420078⟩
def requestPayload : Tag := ⟨0x420079⟩
def responseHeader : Tag := ⟨0x42007A⟩
def responseMessage : Tag := ⟨0x42007B⟩
def responsePayload : Tag := ⟨0x42007C⟩
def resultMessage : Tag := ⟨0x42007D⟩
def resultReason : Tag := ⟨0x42007E⟩
def resultStatus : Tag := ⟨0x42007F⟩
def symmetricKey : Tag := ⟨0x42008F⟩
def templateAttribute : Tag := ⟨0x420091⟩
def timeStamp : Tag := ⟨0x420092⟩
def uniqueBatchItemId : Tag := ⟨0x420093⟩
def uniqueIdentifier : Tag := ⟨0x420094⟩
def username : Tag := ⟨0x420099⟩
def vendorExtension : Tag := ⟨0x42009C⟩
def vendorIdentification : Tag := ⟨0x42009D⟩
def wrappingMethod : Tag := ⟨0x42009E⟩
def password : Tag := ⟨0x4200A1⟩
def deviceIdentifier : Tag := ⟨0x4200A2⟩
def encodingOption : Tag := ⟨0x4200A3⟩
def machineIdentifier : Tag := ⟨0x4200A9⟩
def mediaIdentifier : Tag := ⟨0x4200AA⟩
def networkIdentifier : Tag := ⟨0x4200AB⟩
def deviceSerialNumber : Tag := ⟨0x4200B0⟩
def attestationType : Tag := ⟨0x4200C7⟩
def nonce : Tag := ⟨0x4200C8⟩
def nonceId : Tag := ⟨0x4200C9⟩
def nonceValue : Tag := ⟨0x4200CA⟩
def attestationMeasurement : Tag := ⟨0x4200CB⟩
def attestationAssertion : Tag := ⟨0x4200CC⟩
def keyWrapType : Tag := ⟨0x4200F8⟩
def clientCorrelationValue : Tag := ⟨0x420105⟩
def serverCorrelationValue : Tag := ⟨0x420106⟩
def attributeList : Tag := ⟨0x420125⟩

end Kmip.Tag
