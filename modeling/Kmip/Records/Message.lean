import Kmip.Records.Credential
import Kmip.Records.Payload

/-!
# Messages

A message is a header and its batch items. The operation of a batch item selects the form of its
payload.
-/

namespace Kmip.Records

/-- What a request says about all of its batch items. -/
abbrev requestHeader : Record where
  name := "RequestHeader"
  tag := .requestHeader
  fields :=
    .required .protocolVersion "protocol_version" protocolVersion <|
    .optional .maximumResponseSize "maximum_response_size" .integer <|
    .optional .asynchronousIndicator "asynchronous_indicator" .boolean <|
    .optional .authentication "authentication" authentication <|
    .optional .batchErrorContinuationOption "batch_error_continuation_option"
      (.enumeration .batchErrorContinuationOption) <|
    .optional .batchOrderOption "batch_order_option" .boolean <|
    .optional .timeStamp "time_stamp" .timeStamp <|
    .required .batchCount "batch_count" .integer <|
    .nil

/-- One operation of a request. -/
abbrev requestBatchItem : Record where
  name := "RequestBatchItem"
  tag := .batchItem
  fields :=
    .keyed .operation .operation "operation"
      (.optional .uniqueBatchItemId "unique_batch_item_id" .bytes <|
        .nil)
      .required .requestPayload "request_payload" requestPayloadVariants <|
    .optional .messageExtension "message_extension" messageExtension <|
    .nil

/-- A request. -/
abbrev requestMessage : Record where
  name := "RequestMessage"
  tag := .requestMessage
  fields :=
    .required .requestHeader "request_header" requestHeader <|
    .oneOrMore .batchItem "batch_items" requestBatchItem <|
    .nil

/-- What a response says about all of its batch items. -/
abbrev responseHeader : Record where
  name := "ResponseHeader"
  tag := .responseHeader
  fields :=
    .required .protocolVersion "protocol_version" protocolVersion <|
    .optional .timeStamp "time_stamp" .timeStamp <|
    .optional .nonce "nonce" nonce <|
    .zeroOrMore .attestationType "attestation_types" (.enumeration .attestationType) <|
    .optional .clientCorrelationValue "client_correlation_value" .text <|
    .optional .serverCorrelationValue "server_correlation_value" .text <|
    .required .batchCount "batch_count" .integer <|
    .nil

/-- The outcome of one operation; the payload is there on success only. -/
abbrev responseBatchItem : Record where
  name := "ResponseBatchItem"
  tag := .batchItem
  fields :=
    .keyed .operation .operation "operation"
      (.optional .uniqueBatchItemId "unique_batch_item_id" .bytes <|
        .required .resultStatus "result_status" (.enumeration .resultStatus) <|
        .optional .resultReason "result_reason" (.enumeration .resultReason) <|
        .optional .resultMessage "result_message" .text <|
        .optional .asynchronousCorrelationValue "asynchronous_correlation_value" .bytes <|
        .nil)
      .optional .responsePayload "response_payload" responsePayloadVariants <|
    .optional .messageExtension "message_extension" messageExtension <|
    .nil

/-- A response. -/
abbrev responseMessage : Record where
  name := "ResponseMessage"
  tag := .responseMessage
  fields :=
    .required .responseHeader "response_header" responseHeader <|
    .oneOrMore .batchItem "batch_items" responseBatchItem <|
    .nil

end Kmip.Records
