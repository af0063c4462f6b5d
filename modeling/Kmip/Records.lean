import Kmip.Records.Message

/-!
# The records of the protocol

Every record by its name.
-/

namespace Kmip

namespace Records

/-- Every record. -/
def all : List Record :=
  [protocolVersion, name, link, nonce, messageExtension, attributeEntry, attributes,
    templateAttribute, keyValue, keyInformation, keyWrappingData, keyBlock,
    keyWrappingSpecification, symmetricKey, certificate, usernameAndPassword, deviceCredential,
    attestationCredential, credential, authentication, createRequest, createResponse,
    createKeyPairRequest, createKeyPairResponse, getRequest, getResponse, getAttributesRequest,
    getAttributesResponse, getAttributeListRequest, getAttributeListResponse, destroyRequest,
    destroyResponse, discoverVersionsRequest, discoverVersionsResponse, requestHeader,
    requestBatchItem, requestMessage, responseHeader, responseBatchItem, responseMessage]

end Records

/-- The record of a name. -/
def Record.named? (name : String) : Option Record :=
  Records.all.find? fun record => record.name = name

end Kmip
