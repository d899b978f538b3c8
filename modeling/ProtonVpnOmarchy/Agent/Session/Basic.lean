import ProtonVpnOmarchy.Agent.JsonText
import ProtonVpnOmarchy.Agent.Protocol
import ProtonVpnOmarchy.Splitd.AddressText

/-!
# The session of a client

The loop of `session.rs` that serves one socket. It takes frames of the client, completions of the
tasks it has spawned and changes of the published state in any order, and every send can fail: the
loop then returns. A frame comes as `serde_json` decodes it, and the decoding of the parameters of
`hello` is a parameter of the model.

Frames are numbered. The number of a frame stands with the task that the frame has started and with
the messages that answer it, which neither of them does in the source.
-/

namespace ProtonVpnOmarchy.Agent.Session

open Splitd

/-- Source: `backend.rs` `NATIVE_METHODS` -/
def NATIVE_METHODS : List String :=
  ["account.get", "account.retry_restore", "account.refresh", "guest_hole.cancel",
    "account.upgrade_url", "report_issue.categories.get", "report_issue.submit",
    "diagnostics.get", "account.login", "account.submit_2fa", "account.authenticate_fido2",
    "account.submit_fido2_pin", "account.cancel_fido2", "account.logout", "locations.get",
    "servers.get", "servers.lookup", "feature.set", "protocol.set", "dns.set", "apps.get",
    "system.launch", "split_tunneling.set", "connection.observe",
    "connection.network_conflict_detection", "connection.connect", "connection.cancel",
    "connection.disconnect", "connection.feedback", "netshield.stats.get", "traffic.get"]

/-- Source: `backend.rs` `NATIVE_CAPABILITIES` -/
def NATIVE_CAPABILITIES : List String :=
  ["state.push", "operations.push", "operations.conflicts", "requests.concurrent",
    "device_location.read", "account.session", "account.refresh", "api.guest_hole.stealth",
    "account.login", "account.sso", "account.human_verification", "account.2fa",
    "account.2fa.security_key", "account.2fa.security_key_pin", "account.2fa.security_key_cancel",
    "account.web_upgrade", "report_issue.categories", "report_issue.submit", "servers.page",
    "servers.remote_lookup", "connection.observe", "connection.fastest", "connection.country",
    "connection.state", "connection.city", "connection.random_country", "connection.server",
    "connection.gateway", "connection.gateway_server", "connection.secure_core",
    "connection.secure_core_entry_country", "connection.p2p", "connection.tor",
    "feature.kill_switch", "feature.kill_switch_split_tunneling", "feature.netshield",
    "feature.vpn_accelerator", "feature.port_forwarding", "feature.anonymous_usage_statistics",
    "feature.moderate_nat", "feature.ipv6", "feature.ipv6_leak_protection",
    "feature.alternative_routing", "connection.feedback", "netshield.statistics",
    "protocol.settings", "dns.custom", "apps.catalog", "profiles.connect_and_go",
    "profiles.custom_dns", "profiles.lan_policy", "system.private_browsing",
    "split_tunneling.apps", "store.canonical", "store.migration.qt", "profiles.crud",
    "profiles.duplicate", "recents.canonical", "default_connection.canonical",
    "onboarding.preferences", "notifications.freedesktop", "network.insecure_wifi",
    "lifecycle.resume_reconnect"]

/-- Source: `session.rs` `MAX_PENDING_REQUESTS_PER_CLIENT` -/
def MAX_PENDING_REQUESTS_PER_CLIENT : ℕ := 32

/-- What is the same for a whole session: its number, how `serde_json::from_value` reads the
parameters of `hello`, and the text that it writes for a floating-point number. -/
structure Setup where
  sessionId : ℕ
  helloParams : Value → Except String HelloParams
  floatSize : UInt64 → ℕ

/-- Source: `session.rs` `run`, the variables of its loop -/
structure State where
  helloComplete : Bool := false
  clientInstanceId : String
  pending : List (ℕ × String) := []
  pendingIds : Finset String := ∅

/-- Source: `session.rs` `run`, before its loop -/
def State.new (setup : Setup) : State :=
  { clientInstanceId := "anonymous-session-" ++ toString setup.sessionId }

/-- Source: `session.rs` `run`, the check of the fields of `hello` -/
def helloFieldsInvalid (params : HelloParams) : Bool :=
  trim params.client = "" || 64 < params.client.utf8ByteSize ||
    64 < params.clientVersion.utf8ByteSize || 128 < params.clientInstanceId.utf8ByteSize ||
    (params.clientInstanceId ≠ "" && !params.clientInstanceId.toList.all fun c =>
      c.isAlphanum || c ∈ ['.', '_', ':', '-'])

/-- Source: `session.rs` `run`, the name of the client -/
def instanceId (setup : Setup) (params : HelloParams) : String :=
  if trim params.clientInstanceId = "" then
    trim params.client ++ "-session-" ++ toString setup.sessionId
  else trim params.clientInstanceId

/-- Source: `session.rs` `run`, the result of `hello` -/
def helloResult (params : HelloParams) (clientInstanceId : String) : Value :=
  .obj [("protocol_version", .u64 PROTOCOL_VERSION.toUInt64),
    ("server", .string "proton-omarchy-agent"), ("mock_backend", .bool false),
    ("backend", .string "proton_rust"), ("client", .string params.client),
    ("client_instance_id", .string clientInstanceId),
    ("request_methods", .array ((NATIVE_METHODS ++ STORE_METHODS).map .string)),
    ("capabilities", .array (NATIVE_CAPABILITIES.map .string))]

/-- What a frame leads to: messages that answer it, or a task. -/
inductive Reaction where
  | reply (session : State) (messages : List ServerMessage)
  | accept (id : String)

namespace State

variable (setup : Setup) (session : State)

/-- An error that answers a frame. -/
def refuse (id : Option String) (code message : String) : Reaction :=
  .reply session [.error id code message]

/-- Source: `session.rs` `run`, the branch of `hello` -/
def hello (request : RequestEnvelope) (snapshot : Value) : Reaction :=
  if session.helloComplete then
    session.refuse (some request.id) "hello_already_completed"
      "hello may only be sent once per socket session"
  else
    match setup.helloParams request.params with
    | .error error => session.refuse (some request.id) "invalid_params" error
    | .ok params =>
      if helloFieldsInvalid params then
        session.refuse (some request.id) "invalid_params"
          "hello client fields have an invalid length"
      else
        .reply
          { session with
            helloComplete := true
            clientInstanceId := instanceId setup params }
          [.success request.id (helloResult params (instanceId setup params)),
            .notice "state.snapshot" snapshot]

/-- Source: `session.rs` `run`, the branches of the methods that are run by a task -/
def spawn (request : RequestEnvelope) : Reaction :=
  if MAX_PENDING_REQUESTS_PER_CLIENT ≤ session.pending.length then
    .reply session
      [.errorWithDetails (some request.id) "too_many_pending_requests"
        "too many requests are pending for this client"
        (some (.obj [("limit", .u64 (.ofNat MAX_PENDING_REQUESTS_PER_CLIENT))])) true]
  else if request.id ∈ session.pendingIds then
    session.refuse (some request.id) "duplicate_request_id" "request id is already pending"
  else .accept request.id

/-- Source: `session.rs` `run`, the methods -/
def dispatch (request : RequestEnvelope) (snapshot : Value) : Reaction :=
  if request.method = "hello" then session.hello setup request snapshot
  else if request.method = "state.get" then .reply session [.success request.id snapshot]
  else if request.method ∈ NATIVE_METHODS then session.spawn request
  else if request.method ∈ STORE_METHODS then session.spawn request
  else session.refuse (some request.id) "method_not_found" "unknown request method"

/-- Source: `session.rs` `run`, the branch of a frame -/
def receive (line : Except String RequestEnvelope) (snapshot : Value) : Reaction :=
  match line with
  | .error error => session.refuse none "invalid_json" error
  | .ok request =>
    if request.messageType ≠ "request" then
      session.refuse (some request.id) "invalid_type" "client frames must use type=request"
    else if request.v ≠ PROTOCOL_VERSION then
      session.refuse (some request.id) "unsupported_version"
        ("protocol version " ++ toString PROTOCOL_VERSION.toNat ++ " is required")
    else if trim request.id = "" ∨ 128 < request.id.utf8ByteSize then
      session.refuse none "invalid_request_id"
        "request id must contain between 1 and 128 characters"
    else if session.helloComplete = false ∧ request.method ≠ "hello" then
      session.refuse (some request.id) "hello_required" "send hello before other requests"
    else session.dispatch setup request snapshot

/-- Source: `session.rs` `run`, a task is spawned for a frame -/
def push (frame : ℕ) (id : String) : State :=
  { session with
    pending := session.pending ++ [(frame, id)]
    pendingIds := insert id session.pendingIds }

/-- Source: `session.rs` `run`, the branch of a completed task, before its match; a task that has
panicked is dropped from the set of tasks and nothing else happens -/
def finish (position : ℕ) (id : String) (panicked : Bool) : State :=
  { session with
    pending := session.pending.eraseIdx position
    pendingIds := if panicked then session.pendingIds else session.pendingIds.erase id }

end State

/-- Source: `session.rs` `run`, the answer to a request whose task has returned -/
def completion (id : String) : Except BackendError Value → ServerMessage
  | .ok result => .success id result
  | .error error =>
    .errorWithDetails (some id) error.code error.message error.details error.retryable

/-! ## Runs -/

/-- A message with the number of the frame it answers. -/
structure Sent where
  frame : Option ℕ
  message : ServerMessage
  deriving DecidableEq

/-- What the `select!` of the loop can take. A task ends with a result or by panicking. -/
inductive Input where
  | line (line : Except String RequestEnvelope) (snapshot : Value)
  | closed
  | completed (position : ℕ) (outcome : Option (Except BackendError Value))
  | changed (snapshot : Value)

/-- A session, whether its loop still runs, how many frames it has received, the requests it has
accepted with the numbers of their frames, and what it has sent. -/
structure Trace where
  session : State
  running : Bool := true
  received : ℕ := 0
  accepted : List (ℕ × String) := []
  sent : List Sent := []

/-- Source: `session.rs` `send`, one message after the other, of which the socket takes at most so
many: what has been sent, and whether that is all -/
def sendAll (setup : Setup) : ℕ → List Sent → List Sent × Bool
  | _, [] => ([], true)
  | 0, _ :: _ => ([], false)
  | room + 1, message :: messages =>
    if MAX_FRAME_BYTES < message.message.toValue.textSize setup.floatSize .compact 0 then
      ([], false)
    else
      let (sent, all) := sendAll setup room messages
      (message :: sent, all)

namespace Trace

variable (setup : Setup) (room : ℕ) (trace : Trace)

/-- The start of a session. -/
def new : Trace := { session := .new setup }

/-- Send messages, and return when that fails. -/
def send (messages : List Sent) : Trace :=
  let (sent, all) := sendAll setup room messages
  { trace with
    running := all
    sent := trace.sent ++ sent }

/-- What messages that answer a frame are tagged with; an event answers nothing. -/
def tag (frame : ℕ) (message : ServerMessage) : Sent :=
  match message with
  | .response .. => ⟨some frame, message⟩
  | .event .. => ⟨none, message⟩

/-- Source: `session.rs` `run`, the branch of a frame -/
def line (line : Except String RequestEnvelope) (snapshot : Value) : Trace :=
  let next := { trace with received := trace.received + 1 }
  match trace.session.receive setup line snapshot with
  | .reply session messages =>
    { next with session := session }.send setup room (messages.map (tag trace.received))
  | .accept id =>
    { next with
      session := trace.session.push trace.received id
      accepted := trace.accepted ++ [(trace.received, id)] }

/-- Source: `session.rs` `run`, the branch of a completed task -/
def completed (position : ℕ) (outcome : Option (Except BackendError Value)) : Trace :=
  match trace.session.pending[position]? with
  | none => trace
  | some (frame, id) =>
    match outcome with
    | none => { trace with session := trace.session.finish position id true }
    | some result =>
      { trace with session := trace.session.finish position id false }.send setup room
        [⟨some frame, completion id result⟩]

/-- One round of the loop, in which the socket takes at most so many messages. -/
def step (input : Input) : Trace :=
  if trace.running = false then trace
  else
    match input with
    | .line line snapshot => trace.line setup room line snapshot
    | .closed => { trace with running := false }
    | .completed position outcome => trace.completed setup room position outcome
    | .changed snapshot =>
      if trace.session.helloComplete then
        trace.send setup room [⟨none, .notice "state.changed" snapshot⟩]
      else trace

/-- The rounds of a session from its start. -/
def run (inputs : List (Input × ℕ)) : Trace :=
  inputs.foldl (fun trace input => trace.step setup input.2 input.1) (new setup)

/-- The responses to a frame. -/
def answers (frame : ℕ) : List Sent := trace.sent.filter fun sent => sent.frame = some frame

end Trace

end ProtonVpnOmarchy.Agent.Session
