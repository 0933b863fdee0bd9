import TunnelDeck.Daemon.State
import TunnelDeck.Text.JsonText

/-!
# The messages between client and daemon

Version 1 of the protocol: a client sends requests, and the daemon answers each with a response
that carries the id of the request. Over a subscription it sends events instead, numbered by the
hub that published them.
-/

namespace TunnelDeck.Ipc

open Json (Value)

/-- `PROTOCOL_VERSION`. -/
def protocolVersion : UInt32 := 1

/-- `MAX_MESSAGE_BYTES`. -/
def maxMessageBytes : ℕ := 1024 * 1024

/-- `EVENT_BUFFER_CAPACITY`. -/
def eventBufferCapacity : ℕ := 64

/-! ## Requests and responses -/

/-- A request on the wire: what the manager reads of it, the version and the id. -/
structure Request extends TunnelDeck.Request where
  protocolVersion : UInt32
  requestId : Uuid
  deriving DecidableEq

structure SuccessResponse where
  protocolVersion : UInt32
  requestId : Uuid
  result : Value
  deriving DecidableEq

structure ProtocolError where
  code : ErrorCode
  message : String
  deriving DecidableEq

structure ErrorResponse where
  protocolVersion : UInt32
  requestId : Uuid
  error : ProtocolError
  deriving DecidableEq

inductive Response where
  | success (response : SuccessResponse)
  | failure (response : ErrorResponse)
  deriving DecidableEq

def Response.requestId : Response → Uuid
  | .success response => response.requestId
  | .failure response => response.requestId

/-- `ipc::success`. -/
def success (requestId : Uuid) (result : Value) : Response :=
  .success { protocolVersion, requestId, result }

/-- `ipc::failure`. -/
def failure (requestId : Uuid) (code : ErrorCode) (message : String) : Response :=
  .failure { protocolVersion, requestId, error := { code, message } }

/-- The end of `RequestHandler::handle` of the manager. -/
def Request.respond (request : Request) : Reply → Response
  | .ok value => Ipc.success request.requestId value
  | .error (code, message) => Ipc.failure request.requestId code message

@[simp] theorem success_requestId (id : Uuid) (result : Value) :
    (success id result).requestId = id := rfl

@[simp] theorem failure_requestId (id : Uuid) (code : ErrorCode) (message : String) :
    (failure id code message).requestId = id := rfl

@[simp] theorem Request.respond_requestId (request : Request) (reply : Reply) :
    (request.respond reply).requestId = request.requestId := by
  rcases reply with ⟨code, message⟩ | value <;> rfl

/-! ## Events -/

/-- An event with the number the hub gave it. -/
structure Event extends TunnelDeck.Event where
  protocolVersion : UInt32
  sequence : ℕ
  deriving DecidableEq

/-! ## Encodings -/

/-- The variants of `Operation` with their names. -/
def operationVariants : List (String × Operation) :=
  [("host_list", .hostList), ("host_show", .hostShow), ("host_test", .hostTest),
    ("forward_list", .forwardList), ("forward_add", .forwardAdd),
    ("forward_edit_active", .forwardEditActive), ("forward_import", .forwardImport),
    ("forward_remove", .forwardRemove), ("forward_start", .forwardStart),
    ("forward_stop", .forwardStop), ("settings_get", .settingsGet),
    ("settings_update", .settingsUpdate), ("status", .status), ("subscribe", .subscribe)]

/-- The variants of `ErrorCode` with their names. -/
def errorCodeVariants : List (String × ErrorCode) :=
  [("invalid_request", .invalidRequest), ("message_too_large", .messageTooLarge),
    ("unsupported_version", .unsupportedVersion), ("not_found", .notFound),
    ("conflict", .conflict), ("unavailable", .unavailable), ("internal", .internal)]

def encodeVersion (version : UInt32) : Value := .int version.toNat

def encodeId (id : Uuid) : Value := .string (Text.formatUuid id)

def encodeRequest (request : Request) : Value :=
  .object [("protocol_version", encodeVersion request.protocolVersion),
    ("request_id", encodeId request.requestId),
    ("operation", .string (variantName operationVariants request.operation)),
    ("payload", request.payload)]

def encodeError (error : ProtocolError) : Value :=
  .object [("code", .string (variantName errorCodeVariants error.code)),
    ("message", .string error.message)]

/-- A response is not tagged. -/
def encodeResponse : Response → Value
  | .success response =>
    .object [("protocol_version", encodeVersion response.protocolVersion),
      ("request_id", encodeId response.requestId), ("result", response.result)]
  | .failure response =>
    .object [("protocol_version", encodeVersion response.protocolVersion),
      ("request_id", encodeId response.requestId), ("error", encodeError response.error)]

def encodeEvent (event : Event) : Value :=
  .object [("protocol_version", encodeVersion event.protocolVersion),
    ("sequence", .int event.sequence), ("event", .string event.event),
    ("payload", event.payload)]

/-! ## Errors of the transport -/

inductive TransportError where
  | io (error : IoError)
  | messageTooLarge
  | disconnected
  | invalidMessage
  deriving DecidableEq

end TunnelDeck.Ipc
