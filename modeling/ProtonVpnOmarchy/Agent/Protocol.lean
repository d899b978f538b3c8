import ProtonVpnOmarchy.Agent.Json

/-!
# The protocol of the agent

The frames of `protocol/src/lib.rs`, and the parts of the snapshot that the tasks of the agent read:
the account, the connection, the operations and the auto-connect preference.
-/

namespace ProtonVpnOmarchy.Agent

/-- Source: `protocol/src/lib.rs` `OperationDomain` -/
inductive OperationDomain where
  | authSession
  | tunnelConfiguration
  | support
  | store
  deriving DecidableEq

/-- Source: `protocol/src/lib.rs` `OperationStatus` -/
inductive OperationStatus where
  | queued
  | running
  | succeeded
  | failed
  | cancelled
  deriving DecidableEq

/-- Source: `protocol/src/lib.rs` `OperationError` -/
structure OperationError where
  code : String
  details : Option Value
  retryable : Bool
  deriving DecidableEq

/-- Source: `protocol/src/lib.rs` `OperationRecord` -/
structure OperationRecord where
  id : String
  initiatorClientInstanceId : String
  domain : OperationDomain
  kind : String
  state : OperationStatus
  stage : String
  startedAtUnixMs : UInt64
  updatedAtUnixMs : UInt64
  finishedAtUnixMs : Option UInt64
  cancelable : Bool
  error : Option OperationError
  deriving DecidableEq

/-- Source: `protocol/src/lib.rs` `OperationState` -/
structure OperationState where
  active : List OperationRecord := []
  recent : List OperationRecord := []
  deriving DecidableEq

/-- Source: `protocol/src/lib.rs` `AccountStatus` -/
inductive AccountStatus where
  | unknown
  | restoring
  | signedOut
  | signingIn
  | twoFactorRequired
  | signedIn
  | error
  deriving DecidableEq

/-- Source: `protocol/src/lib.rs` `ConnectionStatus` -/
inductive ConnectionStatus where
  | unknown
  | disconnected
  | connecting
  | connected
  | error
  deriving DecidableEq

/-- Source: `protocol/src/lib.rs` `AccountState` -/
structure AccountState where
  status : AccountStatus := .unknown
  deriving DecidableEq

/-- Source: `protocol/src/lib.rs` `ConnectionState` -/
structure ConnectionState where
  status : ConnectionStatus := .unknown
  deriving DecidableEq

/-- Source: `protocol/src/lib.rs` `CanonicalStoreState` -/
structure CanonicalStoreState where
  autoConnect : Bool := false
  deriving DecidableEq

/-- Source: `protocol/src/lib.rs` `StateSnapshot` -/
structure StateSnapshot where
  revision : UInt64 := 0
  account : AccountState := {}
  connection : ConnectionState := {}
  operations : OperationState := {}
  store : CanonicalStoreState := {}
  deriving DecidableEq

/-! ## Frames -/

/-- Source: `protocol/src/lib.rs` `PROTOCOL_VERSION` -/
def PROTOCOL_VERSION : UInt16 := 1

/-- Source: `protocol/src/lib.rs` `MAX_FRAME_BYTES` -/
def MAX_FRAME_BYTES : ℕ := 64 * 1024

/-- Source: `protocol/src/lib.rs` `STORE_METHODS` -/
def STORE_METHODS : List String :=
  ["store.get", "onboarding.complete", "preferences.set", "profiles.list", "profiles.save",
    "profiles.duplicate", "profiles.delete", "excluded_locations.get", "excluded_locations.set",
    "recents.list", "recents.record", "recents.pin", "recents.delete", "default_connection.set",
    "connection.resolve"]

/-- Source: `protocol/src/lib.rs` `RequestEnvelope` -/
structure RequestEnvelope where
  v : UInt16
  id : String
  messageType : String
  method : String
  params : Value := .null

/-- Source: `protocol/src/lib.rs` `HelloParams` -/
structure HelloParams where
  client : String
  clientVersion : String
  clientInstanceId : String := ""

/-- Source: `protocol/src/lib.rs` `ProtocolError` -/
structure ProtocolError where
  code : String
  message : String
  details : Option Value
  retryable : Bool
  deriving DecidableEq

/-- Source: `protocol/src/lib.rs` `ServerMessage` -/
inductive ServerMessage where
  | response (v : UInt16) (id : Option String) (ok : Bool) (result : Option Value)
      (error : Option ProtocolError)
  | event (v : UInt16) (event : String) (data : Value)
  deriving DecidableEq

namespace ServerMessage

/-- Source: `protocol/src/lib.rs` `ServerMessage::ok` -/
def success (id : String) (result : Value) : ServerMessage :=
  .response PROTOCOL_VERSION (some id) true (some result) none

/-- Source: `protocol/src/lib.rs` `ServerMessage::error_with_details` -/
def errorWithDetails (id : Option String) (code message : String) (details : Option Value)
    (retryable : Bool) : ServerMessage :=
  .response PROTOCOL_VERSION id false none (some ⟨code, message, details, retryable⟩)

/-- Source: `protocol/src/lib.rs` `ServerMessage::error` -/
def error (id : Option String) (code message : String) : ServerMessage :=
  errorWithDetails id code message none false

/-- Source: `protocol/src/lib.rs` `ServerMessage::event` -/
def notice (name : String) (data : Value) : ServerMessage := .event PROTOCOL_VERSION name data

end ServerMessage

/-! ## Values -/

/-- `serde_json::to_value` -/
def ProtocolError.toValue (error : ProtocolError) : Value :=
  .object ([("code", .string error.code), ("message", .string error.message)] ++
    (error.details.map fun details => ("details", details)).toList ++
    [("retryable", .bool error.retryable)])

/-- `serde_json::to_value` -/
def ServerMessage.toValue : ServerMessage → Value
  | .response v id ok result error =>
    .object ([("type", .string "response"), ("v", .u64 v.toUInt64),
      ("id", (id.map Value.string).getD .null), ("ok", .bool ok)] ++
      (result.map fun result => ("result", result)).toList ++
      (error.map fun error => ("error", error.toValue)).toList)
  | .event v name data =>
    .object [("type", .string "event"), ("v", .u64 v.toUInt64), ("event", .string name),
      ("data", data)]

def OperationDomain.name : OperationDomain → String
  | .authSession => "auth_session"
  | .tunnelConfiguration => "tunnel_configuration"
  | .support => "support"
  | .store => "store"

def OperationStatus.name : OperationStatus → String
  | .queued => "queued"
  | .running => "running"
  | .succeeded => "succeeded"
  | .failed => "failed"
  | .cancelled => "cancelled"

/-- `serde_json::to_value` -/
def OperationError.toValue (error : OperationError) : Value :=
  .obj ([("code", .string error.code), ("retryable", .bool error.retryable)] ++
    (error.details.map fun details => ("details", details)).toList)

/-- `serde_json::to_value` -/
def OperationRecord.toValue (operation : OperationRecord) : Value :=
  .obj [("id", .string operation.id),
    ("initiator_client_instance_id", .string operation.initiatorClientInstanceId),
    ("domain", .string operation.domain.name), ("kind", .string operation.kind),
    ("state", .string operation.state.name), ("stage", .string operation.stage),
    ("started_at_unix_ms", .u64 operation.startedAtUnixMs),
    ("updated_at_unix_ms", .u64 operation.updatedAtUnixMs),
    ("finished_at_unix_ms", (operation.finishedAtUnixMs.map Value.u64).getD .null),
    ("cancelable", .bool operation.cancelable),
    ("error", (operation.error.map OperationError.toValue).getD .null)]

end ProtonVpnOmarchy.Agent
