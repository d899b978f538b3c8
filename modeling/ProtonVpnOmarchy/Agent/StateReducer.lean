import ProtonVpnOmarchy.Agent.Backend.ConnectParams
import ProtonVpnOmarchy.Agent.JsonNumbers
import ProtonVpnOmarchy.Agent.Protocol
import ProtonVpnOmarchy.Agent.Store.Params

/-!
# The reduction of the events of the backend

`apply_event` of `state_reducer.rs`: how an event changes the snapshot that the clients see. The
operations and the store publish their own sections of the snapshot; what they publish on an event,
if anything, is left open.

* `reduceConnection_eq` — what a connection event keeps of the previous connection.
* `reduction_invariants` — the two-run property of connection events, and the invariants of the runs
  from the default snapshot.
-/

namespace ProtonVpnOmarchy.Agent.StateReducer

open Store Backend

/-! ## The snapshot -/

/-- Source: `protocol/src/lib.rs` `AccountState` -/
structure AccountState where
  status : AccountStatus := .unknown
  name : Option String := none
  tier : Option UInt8 := none
  credentialless : Bool := false
  twoFactorCodeSupported : Bool := false
  twoFactorSecurityKeySupported : Bool := false
  ssoSupported : Bool := false

/-- Source: `protocol/src/lib.rs` `BackendState` -/
structure BackendState where
  kind : String := "proton_linux"
  coreAvailable : Bool := false
  connectionAvailable : Bool := false
  connectionAvailabilityKnown : Bool := false
  settingsKnown : Bool := false
  connectorInitialized : Bool := false
  networkBlockedKnown : Bool := false
  networkBlocked : Bool := false
  coreVersion : Option String := none
  error : Option String := none

/-- Source: `protocol/src/lib.rs` `ConnectionState` -/
structure ConnectionState where
  observationKnown : Bool := false
  status : ConnectionStatus := .unknown
  profileId : Option String := none
  countryCode : Option String := none
  countryName : Option String := none
  hostCountryCode : Option String := none
  hostCountryName : Option String := none
  entryCountryCode : Option String := none
  entryCountryName : Option String := none
  state : Option String := none
  city : Option String := none
  serverName : Option String := none
  serverIp : Option String := none
  serverLoad : Option UInt8 := none
  p2p : Bool := false
  tor : Bool := false
  latencyMs : Option UInt32 := none
  protocol : Option String := none
  connectedAtUnixMs : Option UInt64 := none
  error : Option String := none
  errorCode : Option String := none
  restrictionReasonCode : Option Int32 := none
  networkConflicts : List String := []

/-- Source: `protocol/src/lib.rs` `DeviceLocationState` -/
structure DeviceLocationState where
  known : Bool := false
  ipAddress : Option String := none
  countryCode : Option String := none
  isp : Option String := none
  latitude : Option Number := none
  longitude : Option Number := none

/-- Source: `protocol/src/lib.rs` `ProtocolSettingsState` -/
structure ProtocolSettingsState where
  selected : String := ""
  available : List String := []
  profileAvailable : List String := []

/-- Source: `protocol/src/lib.rs` `KillSwitchMode` -/
inductive KillSwitchMode where
  | off
  | standard
  | advanced

/-- Source: `protocol/src/lib.rs` `KillSwitchState` -/
structure KillSwitchState where
  mode : KillSwitchMode := .off

/-- Source: `protocol/src/lib.rs` `NetShieldState` -/
structure NetShieldState where
  level : UInt8 := 0
  statisticsKnown : Bool := false
  malwareBlocked : UInt32 := 0
  adsBlocked : UInt32 := 0
  trackersBlocked : UInt32 := 0

/-- Source: `protocol/src/lib.rs` `ToggleFeatureState`, and the other features with a switch only -/
structure ToggleFeatureState where
  enabled : Bool := false

/-- Source: `protocol/src/lib.rs` `ConnectionFeedbackState` -/
structure ConnectionFeedbackState where
  available : Bool := false
  viewed : Bool := false
  sent : Bool := false
  autoDismissSeconds : UInt32 := 0

/-- Source: `protocol/src/lib.rs` `SplitTunnelingMode` -/
inductive SplitTunnelingMode where
  | off
  | standard
  | inverse

/-- Source: `protocol/src/lib.rs` `SplitTunnelingConfigState` -/
structure SplitTunnelingConfigState where
  appPaths : List String := []
  ipRanges : List String := []

/-- Source: `protocol/src/lib.rs` `SplitTunnelingState` -/
structure SplitTunnelingState where
  mode : SplitTunnelingMode := .off
  availabilityKnown : Bool := false
  available : Bool := false
  appPathsSupported : Bool := false
  ipRangesSupported : Bool := false
  standard : SplitTunnelingConfigState := {}
  inverse : SplitTunnelingConfigState := {}

/-- Source: `protocol/src/lib.rs` `PortForwardingState` -/
structure PortForwardingState where
  enabled : Bool := false
  activePort : Option UInt16 := none

/-- Source: `protocol/src/lib.rs` `CustomDnsState` -/
structure CustomDnsState where
  enabled : Bool := false
  servers : List String := []

/-- Source: `protocol/src/lib.rs` `FeatureWriteCapabilities` -/
structure FeatureWriteCapabilities where
  protocol : Bool := false
  killSwitch : Bool := false
  netshield : Bool := false
  vpnAccelerator : Bool := false
  anonymousCrashReports : Bool := false
  anonymousUsageStatistics : Bool := false
  moderateNat : Bool := false
  ipv6 : Bool := false
  ipv6LeakProtection : Bool := false
  alternativeRouting : Bool := false
  allowLanConnections : Bool := false
  allowLocalDns : Bool := false
  customDns : Bool := false
  secureCore : Bool := false
  splitTunneling : Bool := false
  portForwarding : Bool := false

/-- Source: `protocol/src/lib.rs` `FeatureState` -/
structure FeatureState where
  protocol : ProtocolSettingsState := {}
  killSwitch : KillSwitchState := {}
  netshield : NetShieldState := {}
  vpnAccelerator : ToggleFeatureState := {}
  anonymousCrashReports : ToggleFeatureState := {}
  anonymousUsageStatistics : ToggleFeatureState := {}
  connectionFeedback : ConnectionFeedbackState := {}
  moderateNat : ToggleFeatureState := {}
  ipv6 : ToggleFeatureState := { enabled := true }
  ipv6LeakProtection : ToggleFeatureState := { enabled := true }
  alternativeRouting : ToggleFeatureState := { enabled := true }
  allowLanConnections : ToggleFeatureState := {}
  allowLocalDns : ToggleFeatureState := {}
  secureCore : Bool := false
  splitTunneling : SplitTunnelingState := {}
  portForwarding : PortForwardingState := {}
  customDns : CustomDnsState := {}
  writes : FeatureWriteCapabilities := {}
  known : Bool := false
  writable : Bool := false

/-- Source: `protocol/src/lib.rs` `NetworkSecurityState` -/
structure NetworkSecurityState where
  known : Bool := false
  wifiConnected : Bool := false
  insecureWifi : Bool := false
  generation : UInt64 := 0

/-- Source: `protocol/src/lib.rs` `CanonicalStoreState` -/
structure CanonicalStoreState where
  revision : UInt64 := 0
  ready : Bool := false
  onboardingComplete : Bool := false
  locale : String := "en"
  startWithOmarchy : Bool := true
  autoConnect : Bool := false
  notificationsEnabled : Bool := true
  portForwardingNotificationsEnabled : Bool := true
  accountScopeKnown : Bool := false
  profileCount : ℕ := 0
  recentCount : ℕ := 0
  defaultConnection : Value := .obj [("type", .string "fastest")]
  migrationAvailable : Bool := false

/-- Source: `protocol/src/lib.rs` `StateSnapshot` -/
structure StateSnapshot where
  revision : UInt64 := 0
  account : AccountState := {}
  backend : BackendState := {}
  connection : ConnectionState := {}
  deviceLocation : DeviceLocationState := {}
  networkSecurity : NetworkSecurityState := {}
  features : FeatureState := {}
  operations : OperationState := {}
  store : CanonicalStoreState := {}

/-! ## Fields of events -/

/-- `.and_then(Value::as_bool).unwrap_or(false)` -/
def flag (value : Option Value) : Bool := (value.bind Value.asBool).getD false

/-- `.and_then(Value::as_str)` -/
def text (value : Option Value) : Option String := value.bind Value.asStr

/-- `.and_then(Value::as_str).filter(|value| !value.is_empty())` -/
def nonemptyText (value : Option Value) : Option String := (text value).filter (· ≠ "")

/-- `.and_then(Value::as_u64)` -/
def count (value : Option Value) : Option UInt64 := value.bind Value.asU64

/-- Source: `state_reducer.rs` `string_array` -/
def stringArray (object : Map) (key : String) : List String :=
  (((object.get key).bind Value.asArray).map fun values => values.filterMap Value.asStr).getD []

/-- Source: `state_reducer.rs` `server_string` -/
def serverString (server : Option Map) (key : String) : Option String :=
  nonemptyText (server.bind (·.get key))

/-- The object under a key, if there is one, changes something. -/
def updated {α : Type} (object : Option Value) (update : Map → α → α) (a : α) : α :=
  match object.bind Value.asObject with
  | some object => update object a
  | none => a

/-! ## The sections -/

/-- Source: `state_reducer.rs` `apply_event`, the event `backend` -/
def reduceBackend (data : Value) : BackendState where
  kind := (text (data.get "kind")).getD "proton_linux"
  coreAvailable := flag (data.get "core_available")
  connectionAvailable := flag (data.get "connection_available")
  connectionAvailabilityKnown := flag (data.get "connection_availability_known")
  settingsKnown := flag (data.get "settings_known")
  connectorInitialized := flag (data.get "connector_initialized")
  networkBlockedKnown := flag (data.get "network_blocked_known")
  networkBlocked := flag (data.get "network_blocked")
  coreVersion := text (data.get "core_version")
  error := text (data.get "error")

def accountStatus (status : String) : AccountStatus :=
  match status with
  | "restoring" => .restoring
  | "signed_out" => .signedOut
  | "signing_in" => .signingIn
  | "two_factor_required" => .twoFactorRequired
  | "signed_in" => .signedIn
  | "error" => .error
  | _ => .unknown

/-- Source: `state_reducer.rs` `apply_event`, the event `account` -/
def reduceAccount (data : Value) : AccountState where
  status := accountStatus ((text (data.get "status")).getD "unknown")
  name := text (data.get "name")
  tier := (count (data.get "tier")).bind tryU8
  credentialless := flag (data.get "credentialless")
  twoFactorCodeSupported := flag (data.get "two_factor_code_supported")
  twoFactorSecurityKeySupported := flag (data.get "two_factor_security_key_supported")
  ssoSupported := flag (data.get "sso_supported")

/-- Source: `state_reducer.rs` `apply_event`, the event `device_location` -/
def reduceDeviceLocation (data : Value) : DeviceLocationState where
  known := flag (data.get "known")
  ipAddress := nonemptyText (data.get "ip_address")
  countryCode := (nonemptyText (data.get "country_code")).map toAsciiUppercase
  isp := nonemptyText (data.get "isp")
  latitude := (data.get "latitude").bind asF64
  longitude := (data.get "longitude").bind asF64

/-- A feature that has a switch only. -/
def toggle (object : Map) : ToggleFeatureState where
  enabled := flag (object.get "enabled")

def netshieldOf (object : Map) : NetShieldState where
  level := ((count (object.get "level")).bind tryU8).getD 0
  statisticsKnown := flag (object.get "statistics_known")
  malwareBlocked := ((count (object.get "malware_blocked")).bind tryU32).getD 0
  adsBlocked := ((count (object.get "ads_blocked")).bind tryU32).getD 0
  trackersBlocked := ((count (object.get "trackers_blocked")).bind tryU32).getD 0

def feedbackOf (object : Map) : ConnectionFeedbackState where
  available := flag (object.get "available")
  viewed := flag (object.get "viewed")
  autoDismissSeconds := (((count (object.get "auto_dismiss_seconds")).filter fun seconds =>
    1 ≤ seconds && seconds ≤ 300).getD 10).toUInt32
  sent := flag (object.get "sent")

def splitConfigOf (object : Map) : SplitTunnelingConfigState where
  appPaths := stringArray object "app_paths"
  ipRanges := stringArray object "ip_ranges"

def killSwitchMode (mode : String) : KillSwitchMode :=
  match mode with
  | "advanced" => .advanced
  | "standard" => .standard
  | _ => .off

def splitTunnelingMode (mode : String) : SplitTunnelingMode :=
  match mode with
  | "inverse" => .inverse
  | "standard" => .standard
  | _ => .off

def splitTunnelingOf (object : Map) (split : SplitTunnelingState) : SplitTunnelingState :=
  let split := { split with
    availabilityKnown := flag (object.get "availability_known")
    mode := splitTunnelingMode ((text (object.get "mode")).getD "off")
    available := flag (object.get "available")
    appPathsSupported := flag (object.get "app_paths_supported")
    ipRangesSupported := flag (object.get "ip_ranges_supported") }
  let split := updated (object.get "standard")
    (fun standard split => { split with standard := splitConfigOf standard }) split
  updated (object.get "inverse")
    (fun inverse split => { split with inverse := splitConfigOf inverse }) split

def writesOf (object : Map) : FeatureWriteCapabilities where
  protocol := flag (object.get "protocol")
  killSwitch := flag (object.get "kill_switch")
  netshield := flag (object.get "netshield")
  vpnAccelerator := flag (object.get "vpn_accelerator")
  anonymousCrashReports := flag (object.get "anonymous_crash_reports")
  anonymousUsageStatistics := flag (object.get "anonymous_usage_statistics")
  moderateNat := flag (object.get "moderate_nat")
  ipv6 := flag (object.get "ipv6")
  ipv6LeakProtection := flag (object.get "ipv6_leak_protection")
  alternativeRouting := flag (object.get "alternative_routing")
  allowLanConnections := flag (object.get "allow_lan_connections")
  allowLocalDns := flag (object.get "allow_local_dns")
  customDns := flag (object.get "custom_dns")
  secureCore := flag (object.get "secure_core")
  splitTunneling := flag (object.get "split_tunneling")
  portForwarding := flag (object.get "port_forwarding")

/-- The changes of an event `features` with known features, one section after the other. -/
def featureUpdates (data : Value) : List (FeatureState → FeatureState) :=
  [updated (data.get "protocol") fun protocol features => { features with
      protocol :=
        { selected := (text (protocol.get "selected")).getD ""
          available := stringArray protocol "available"
          profileAvailable := stringArray protocol "profile_available" } },
    updated (data.get "kill_switch") fun killSwitch features => { features with
      killSwitch := { mode := killSwitchMode ((text (killSwitch.get "mode")).getD "off") } },
    updated (data.get "netshield") fun netshield features => { features with
      netshield := netshieldOf netshield },
    updated (data.get "vpn_accelerator") fun object features => { features with
      vpnAccelerator := toggle object },
    updated (data.get "anonymous_crash_reports") fun object features => { features with
      anonymousCrashReports := toggle object },
    updated (data.get "anonymous_usage_statistics") fun object features => { features with
      anonymousUsageStatistics := toggle object },
    updated (data.get "connection_feedback") fun object features => { features with
      connectionFeedback := feedbackOf object },
    updated (data.get "moderate_nat") fun object features => { features with
      moderateNat := toggle object },
    updated (data.get "ipv6") fun object features => { features with ipv6 := toggle object },
    updated (data.get "ipv6_leak_protection") fun object features => { features with
      ipv6LeakProtection := toggle object },
    updated (data.get "alternative_routing") fun object features => { features with
      alternativeRouting := toggle object },
    updated (data.get "allow_lan_connections") fun object features => { features with
      allowLanConnections := toggle object },
    updated (data.get "allow_local_dns") fun object features => { features with
      allowLocalDns := toggle object },
    fun features => { features with
      secureCore := ((data.get "secure_core").bind Value.asBool).getD features.secureCore },
    updated (data.get "split_tunneling") fun object features => { features with
      splitTunneling := splitTunnelingOf object features.splitTunneling },
    updated (data.get "port_forwarding") fun object features => { features with
      portForwarding :=
        { enabled := flag (object.get "enabled")
          activePort := (count (object.get "active_port")).bind tryU16 } },
    updated (data.get "custom_dns") fun object features => { features with
      customDns :=
        { enabled := flag (object.get "enabled"), servers := stringArray object "servers" } },
    updated (data.get "writes") fun object features => { features with writes := writesOf object }]

/-- Source: `state_reducer.rs` `apply_event`, the event `features` -/
def reduceFeatures (data : Value) (features : FeatureState) : FeatureState :=
  let features := { features with
    known := flag (data.get "known"), writable := flag (data.get "writable") }
  if features.known = false then { features with writes := {} }
  else (featureUpdates data).foldl (fun features update => update features) features

/-! ## The connection -/

def connectionStatus (status : String) : ConnectionStatus :=
  match status with
  | "disconnected" => .disconnected
  | "connecting" => .connecting
  | "connected" => .connected
  | "error" => .error
  | _ => .unknown

/-- The status that an event `connection` reports. -/
def statusOf (data : Value) : ConnectionStatus :=
  connectionStatus ((text (data.get "status")).getD "unknown")

/-- The `server` of an event. -/
def serverOf (data : Value) : Option Map := (data.get "server").bind Value.asObject

/-- The event says Secure Core. -/
def saysSecureCore (data : Value) : Bool :=
  (((data.get "secure_core").bind Value.asBool).or
    (((serverOf data).bind (·.get "secure_core")).bind Value.asBool)).getD false

/-- The conflicts that an event carries. -/
def conflictsOf (data : Value) : Option (List String) :=
  ((data.get "network_conflicts").bind Value.asArray).map fun conflicts =>
    (conflicts.filterMap Value.asStr).take 16

/-- The fields that an event `connection` sets whatever they were. -/
def described (data : Value) (connection : ConnectionState) : ConnectionState :=
  let server := serverOf data
  let secureCore := saysSecureCore data
  { connection with
    observationKnown := flag (data.get "observation_known")
    status := statusOf data
    profileId := (text (data.get "profile_id")).filter fun value =>
      value ≠ "" && value.utf8ByteSize ≤ 128 && !value.toList.any isControl
    countryCode := text (server.bind (·.get "country_code"))
    countryName := text (server.bind (·.get "country_name"))
    hostCountryCode := serverString server "host_country_code"
    hostCountryName := serverString server "host_country_name"
    entryCountryCode := if secureCore then serverString server "entry_country_code" else none
    entryCountryName := if secureCore then serverString server "entry_country_name" else none
    state := nonemptyText (server.bind (·.get "state"))
    city := text (server.bind (·.get "city"))
    serverName := text (server.bind (·.get "name"))
    serverLoad := (count (server.bind (·.get "load"))).bind tryU8
    p2p := flag (server.bind (·.get "p2p"))
    tor := flag (server.bind (·.get "tor"))
    serverIp := nonemptyText (server.bind (·.get "server_ip"))
    latencyMs := none
    protocol := nonemptyText (data.get "protocol")
    error := text (data.get "error")
    errorCode := nonemptyText (data.get "error_code")
    restrictionReasonCode :=
      ((data.get "restriction_reason_code").bind asI64).bind tryI32 }

/-- The conflicts of an event; without them, those of a settled connection are cleared. -/
def withConflicts (data : Value) (connection : ConnectionState) : ConnectionState :=
  match conflictsOf data with
  | some conflicts => { connection with networkConflicts := conflicts }
  | none =>
    if connection.status = .connected ∨ connection.status = .disconnected then
      { connection with networkConflicts := [] }
    else connection

/-- The time at which a connection was made. -/
def withConnectedAt (now : UInt64) (previousStatus : ConnectionStatus)
    (connection : ConnectionState) : ConnectionState :=
  if connection.status = .connected ∧ previousStatus ≠ .connected then
    { connection with connectedAtUnixMs := some now }
  else if connection.status = .disconnected then { connection with connectedAtUnixMs := none }
  else connection

/-- Source: `state_reducer.rs` `apply_event`, the section of the event `connection` -/
def reduceConnection (now : UInt64) (data : Value) (connection : ConnectionState) :
    ConnectionState :=
  withConnectedAt now connection.status (withConflicts data (described data connection))

/-! ## Events -/

/-- The events that the reduction recognises. -/
def recognised (event : String) : Prop :=
  event ∈ ["backend", "account", "device_location", "features", "connection"]

instance (event : String) : Decidable (recognised event) :=
  inferInstanceAs (Decidable (event ∈ _))

/-- The `match` of `apply_event`. -/
def reduceSections (now : UInt64) (event : String) (data : Value) (state : StateSnapshot) :
    Option StateSnapshot :=
  match event with
  | "backend" => some { state with backend := reduceBackend data }
  | "account" => some { state with account := reduceAccount data }
  | "device_location" => some { state with deviceLocation := reduceDeviceLocation data }
  | "features" => some { state with features := reduceFeatures data state.features }
  | "connection" => some { state with
      connection := reduceConnection now data state.connection
      features := { state.features with secureCore := saysSecureCore data } }
  | _ => none

/-- The reduction: the closure of `send_modify` in `apply_event`. -/
def reduce (now : UInt64) (event : String) (data : Value) (state : StateSnapshot) :
    StateSnapshot :=
  match reduceSections now event data state with
  | some state => { state with revision := state.revision + 1 }
  | none => state

/-- An event, with the time at which it is applied, and what the operations and the store publish
when they are told of it. -/
structure Event where
  name : String
  data : Value
  now : UInt64
  updateStage : String → String → Option Bool → Option OperationState
  activateAccount : String → Option CanonicalStoreState

/-- The account that an event activates. -/
def accountToActivate (event : String) (data : Value) : Option String :=
  if event = "account" ∧ text (data.get "status") = some "signed_in" then text (data.get "name")
  else none

/-- What the operations publish on an event `operation.stage`. -/
def operationsOf (event : Event) : Option OperationState :=
  let method := (text (event.data.get "method")).getD ""
  let stage := (text (event.data.get "stage")).getD ""
  let cancelable := (event.data.get "cancelable").bind Value.asBool
  event.updateStage method stage cancelable

/-- What the store publishes on an event. -/
def storeOf (event : Event) : Option CanonicalStoreState :=
  (accountToActivate event.name event.data).bind event.activateAccount

/-- `OperationCoordinator::publish` -/
def publishOperations (operations : OperationState) (state : StateSnapshot) : StateSnapshot :=
  { state with operations, revision := state.revision + 1 }

/-- Source: `store.rs` `publish_locked` -/
def publishStore (store : CanonicalStoreState) (state : StateSnapshot) : StateSnapshot :=
  { state with store, revision := state.revision + 1 }

/-- Source: `state_reducer.rs` `apply_event` -/
def applyEvent (event : Event) (state : StateSnapshot) : StateSnapshot :=
  if event.name = "operation.stage" then
    ((operationsOf event).map (publishOperations · state)).getD state
  else
    let state := reduce event.now event.name event.data state
    ((storeOf event).map (publishStore · state)).getD state

/-- The snapshot after a sequence of events. -/
def after (events : List Event) : StateSnapshot :=
  events.foldl (fun state event => applyEvent event state) {}

/-! ## Connection events -/

section connection

variable (now : UInt64) (data : Value) (connection : ConnectionState)

/-- The conflicts after an event. -/
def conflictsAfter : List String :=
  (conflictsOf data).getD
    (if statusOf data = .connected ∨ statusOf data = .disconnected then []
      else connection.networkConflicts)

/-- The time of the connection after an event. -/
def connectedAtAfter : Option UInt64 :=
  if statusOf data = .connected ∧ connection.status ≠ .connected then some now
  else if statusOf data = .disconnected then none
  else connection.connectedAtUnixMs

theorem withConflicts_described :
    withConflicts data (described data connection) =
      { described data connection with networkConflicts := conflictsAfter data connection } := by
  unfold withConflicts conflictsAfter
  cases conflictsOf data with
  | some conflicts => rfl
  | none =>
      rw [Option.getD_none]
      by_cases hsettled : statusOf data = .connected ∨ statusOf data = .disconnected
      · rw [if_pos hsettled]
        exact if_pos hsettled
      · rw [if_neg hsettled]
        exact if_neg hsettled

/-- Only the time and the conflicts depend on the previous connection. -/
theorem reduceConnection_eq :
    reduceConnection now data connection =
      { described data connection with
        networkConflicts := conflictsAfter data connection
        connectedAtUnixMs := connectedAtAfter now data connection } := by
  unfold reduceConnection withConnectedAt connectedAtAfter
  rw [withConflicts_described]
  by_cases hmade : statusOf data = .connected ∧ connection.status ≠ .connected
  · rw [if_pos hmade]
    exact if_pos hmade
  · rw [if_neg hmade]
    refine (if_neg hmade).trans ?_
    by_cases hleft : statusOf data = .disconnected
    · rw [if_pos hleft]
      exact if_pos hleft
    · rw [if_neg hleft]
      exact if_neg hleft

@[simp] theorem status_reduceConnection :
    (reduceConnection now data connection).status = statusOf data := by
  rw [reduceConnection_eq]
  rfl

theorem connectedAt_reduceConnection :
    (reduceConnection now data connection).connectedAtUnixMs =
      connectedAtAfter now data connection := by
  rw [reduceConnection_eq]

theorem networkConflicts_reduceConnection :
    (reduceConnection now data connection).networkConflicts =
      conflictsAfter data connection := by
  rw [reduceConnection_eq]

/-- A country of entry is kept only for Secure Core. -/
theorem entryCountry_reduceConnection (h : saysSecureCore data = false) :
    (reduceConnection now data connection).entryCountryCode = none ∧
      (reduceConnection now data connection).entryCountryName = none := by
  rw [reduceConnection_eq]
  unfold described
  rw [h]
  exact ⟨rfl, rfl⟩

/-- Two connections that the same event is applied to differ in the time and, if the event neither
carries conflicts nor settles the connection, in the conflicts. -/
theorem reduceConnection_congr (now' : UInt64) (connection' : ConnectionState) :
    reduceConnection now data connection =
        { reduceConnection now' data connection' with
          connectedAtUnixMs := (reduceConnection now data connection).connectedAtUnixMs
          networkConflicts := (reduceConnection now data connection).networkConflicts } ∧
      (conflictsOf data ≠ none ∨ statusOf data = .connected ∨ statusOf data = .disconnected →
        (reduceConnection now data connection).networkConflicts =
          (reduceConnection now' data connection').networkConflicts) := by
  refine ⟨?_, fun h => ?_⟩
  · rw [reduceConnection_eq now, reduceConnection_eq now']
    rfl
  · rw [networkConflicts_reduceConnection, networkConflicts_reduceConnection]
    unfold conflictsAfter
    cases hconflicts : conflictsOf data with
    | some conflicts => rfl
    | none =>
        rcases h with h | h
        · exact absurd hconflicts h
        · rw [if_pos h, if_pos h]

end connection

/-! ## Features -/

theorem apply_updated {α β : Type} (f : α → β) {update : Map → α → α}
    (h : ∀ object a, f (update object a) = f a) (object : Option Value) (a : α) :
    f (updated object update a) = f a := by
  unfold updated
  cases object.bind Value.asObject with
  | none => rfl
  | some object => exact h object a

/-- Whether the features are known is set by no section. -/
theorem known_update (data : Value) :
    ∀ update ∈ featureUpdates data, ∀ features, (update features).known = features.known := by
  intro update hupdate features
  simp only [featureUpdates, List.mem_cons, List.not_mem_nil, or_false] at hupdate
  rcases hupdate with rfl | rfl | rfl | rfl | rfl | rfl | rfl | rfl | rfl | rfl | rfl | rfl | rfl |
    rfl | rfl | rfl | rfl | rfl
  case inr.inr.inr.inr.inr.inr.inr.inr.inr.inr.inr.inr.inr.inl => rfl
  all_goals
    refine apply_updated FeatureState.known ?_ _ features
    exact fun _ _ => rfl

theorem known_updates (data : Value) (features : FeatureState) :
    ((featureUpdates data).foldl (fun features update => update features) features).known =
      features.known := by
  have hupdate := known_update data
  generalize featureUpdates data = updates at hupdate ⊢
  induction updates generalizing features with
  | nil => rfl
  | cons update updates ih =>
      rw [List.foldl_cons, ih _ fun update' h => hupdate update' (.tail _ h)]
      exact hupdate update (.head _) features

/-! ## One event -/

section step

variable (now : UInt64) (event : String) (data : Value) (state : StateSnapshot)

/-- What the reduction does with the sections. -/
theorem reduceSections_cases :
    (¬ recognised event ∧ reduceSections now event data state = none) ∨
      recognised event ∧ ∃ state', reduceSections now event data state = some state' ∧
        state'.revision = state.revision ∧ state'.operations = state.operations ∧
        state'.store = state.store ∧
        (event = "connection" ∧ state'.connection = reduceConnection now data state.connection ∨
          event ≠ "connection" ∧ state'.connection = state.connection) ∧
        (event = "features" ∧ state'.features = reduceFeatures data state.features ∨
          event ≠ "features" ∧ state'.features.known = state.features.known ∧
            state'.features.writes = state.features.writes) := by
  by_cases h : recognised event
  · refine .inr ⟨h, ?_⟩
    simp only [recognised, List.mem_cons, List.not_mem_nil, or_false] at h
    rcases h with rfl | rfl | rfl | rfl | rfl
    case inr.inr.inr.inl =>
        exact ⟨_, rfl, rfl, rfl, rfl, .inr ⟨by decide, rfl⟩, .inl ⟨rfl, rfl⟩⟩
    case inr.inr.inr.inr =>
        exact ⟨_, rfl, rfl, rfl, rfl, .inl ⟨rfl, rfl⟩, .inr ⟨by decide, rfl, rfl⟩⟩
    all_goals
      exact ⟨_, rfl, rfl, rfl, rfl, .inr ⟨by decide, rfl⟩, .inr ⟨by decide, rfl, rfl⟩⟩
  · refine .inl ⟨h, ?_⟩
    simp only [recognised, List.mem_cons, List.not_mem_nil, or_false, not_or] at h
    obtain ⟨hbackend, haccount, hlocation, hfeatures, hconnection⟩ := h
    unfold reduceSections
    split <;> first | contradiction | rfl

/-- An event that is not recognised changes nothing. -/
theorem reduce_of_not_recognised (h : ¬ recognised event) :
    reduce now event data state = state := by
  rcases reduceSections_cases now event data state with ⟨-, hnone⟩ | ⟨hrecognised, -⟩
  · unfold reduce
    rw [hnone]
  · exact absurd hrecognised h

theorem revision_reduce :
    (reduce now event data state).revision =
      if recognised event then state.revision + 1 else state.revision := by
  by_cases h : recognised event
  · rw [if_pos h]
    rcases reduceSections_cases now event data state with ⟨hnot, -⟩ | ⟨-, state', hstate', hrev, -⟩
    · exact absurd h hnot
    · unfold reduce
      rw [hstate', ← hrev]
  · rw [if_neg h, reduce_of_not_recognised now event data state h]

/-- The operations and the store are published by their owners only. -/
theorem operations_store_reduce :
    (reduce now event data state).operations = state.operations ∧
      (reduce now event data state).store = state.store := by
  rcases reduceSections_cases now event data state with
    ⟨hnot, -⟩ | ⟨-, state', hstate', -, hoperations, hstore, -⟩
  · rw [reduce_of_not_recognised now event data state hnot]
    exact ⟨rfl, rfl⟩
  · unfold reduce
    rw [hstate']
    exact ⟨hoperations, hstore⟩

theorem connection_reduce :
    (reduce now event data state).connection =
      if event = "connection" then reduceConnection now data state.connection
      else state.connection := by
  rcases reduceSections_cases now event data state with
    ⟨hnot, -⟩ | ⟨-, state', hstate', -, -, -, hconnection, -⟩
  · rw [reduce_of_not_recognised now event data state hnot, if_neg]
    rintro rfl
    exact hnot (by decide)
  · unfold reduce
    rw [hstate']
    rcases hconnection with ⟨hevent, hconnection⟩ | ⟨hevent, hconnection⟩
    · rw [if_pos hevent]
      exact hconnection
    · rw [if_neg hevent]
      exact hconnection

/-- Only features that are known can be written. -/
theorem writes_reduceFeatures (features : FeatureState)
    (h : (reduceFeatures data features).known = false) :
    (reduceFeatures data features).writes = {} := by
  unfold reduceFeatures at h ⊢
  dsimp only at h ⊢
  by_cases hknown : flag (data.get "known") = false
  · rw [if_pos hknown]
  · rw [if_neg hknown, known_updates data] at h
    exact absurd h hknown

theorem writes_reduce (hwrites : state.features.known = false → state.features.writes = {})
    (h : (reduce now event data state).features.known = false) :
    (reduce now event data state).features.writes = {} := by
  rcases reduceSections_cases now event data state with
    ⟨hnot, -⟩ | ⟨-, state', hstate', -, -, -, -, hfeatures⟩
  · rw [reduce_of_not_recognised now event data state hnot] at h ⊢
    exact hwrites h
  · unfold reduce at h ⊢
    rw [hstate'] at h ⊢
    change state'.features.known = false at h
    change state'.features.writes = {}
    rcases hfeatures with ⟨-, hfeatures⟩ | ⟨-, hknown, hkept⟩
    · rw [hfeatures] at h ⊢
      exact writes_reduceFeatures data state.features h
    · rw [hkept]
      exact hwrites (hknown ▸ h)

end step

/-! ## Runs -/

/-- The last event `connection` of a sequence. -/
def latestConnection (events : List Event) : Option Value :=
  (events.reverse.find? fun event => event.name = "connection").map (·.data)

/-- What the sections of a snapshot owe to each other and to the latest event `connection`. -/
structure Consistent (latest : Option Value) (state : StateSnapshot) : Prop where
  connected : state.connection.status = .connected → state.connection.connectedAtUnixMs.isSome
  disconnected : state.connection.status = .disconnected →
    state.connection.connectedAtUnixMs = none
  entryCountry : latest.any saysSecureCore = false →
    state.connection.entryCountryCode = none ∧ state.connection.entryCountryName = none
  writes : state.features.known = false → state.features.writes = {}

/-- The event `operation.stage` is not for the reduction. -/
theorem not_recognised_operation_stage : ¬ recognised "operation.stage" := by decide

/-- Up to what the operations and the store publish, an event is applied by the reduction. -/
theorem applyEvent_eq (event : Event) (state : StateSnapshot) :
    (applyEvent event state).connection =
        (reduce event.now event.name event.data state).connection ∧
      (applyEvent event state).features =
        (reduce event.now event.name event.data state).features := by
  unfold applyEvent
  by_cases hstage : event.name = "operation.stage"
  · rw [if_pos hstage, hstage, reduce_of_not_recognised _ _ _ _ not_recognised_operation_stage]
    cases operationsOf event with
    | none => exact ⟨rfl, rfl⟩
    | some operations => exact ⟨rfl, rfl⟩
  · rw [if_neg hstage]
    dsimp only
    cases storeOf event with
    | none => exact ⟨rfl, rfl⟩
    | some store => exact ⟨rfl, rfl⟩

/-- An event on which neither the operations nor the store publish anything is reduced only. -/
theorem applyEvent_of_unpublished {event : Event} (hoperations : operationsOf event = none)
    (hstore : storeOf event = none) (state : StateSnapshot) :
    applyEvent event state = reduce event.now event.name event.data state := by
  unfold applyEvent
  by_cases hstage : event.name = "operation.stage"
  · rw [if_pos hstage, hstage, reduce_of_not_recognised _ _ _ _ not_recognised_operation_stage,
      hoperations]
    rfl
  · rw [if_neg hstage, hstore]
    rfl

/-- The connection after an event keeps the time of one that was made. -/
theorem consistent_reduceConnection (now : UInt64) (data : Value) {connection : ConnectionState}
    (hconnected : connection.status = .connected → connection.connectedAtUnixMs.isSome) :
    (statusOf data = .connected →
        (reduceConnection now data connection).connectedAtUnixMs.isSome) ∧
      (statusOf data = .disconnected →
        (reduceConnection now data connection).connectedAtUnixMs = none) := by
  rw [connectedAt_reduceConnection]
  unfold connectedAtAfter
  refine ⟨fun h => ?_, fun h => ?_⟩
  · rw [h]
    by_cases hprevious : connection.status = .connected
    · rw [if_neg fun hmade => hmade.2 hprevious, if_neg (by decide)]
      exact hconnected hprevious
    · rw [if_pos ⟨rfl, hprevious⟩]
      rfl
  · rw [h, if_neg fun hmade => nomatch hmade.1]
    exact if_pos rfl

theorem Consistent.applyEvent {latest : Option Value} {state : StateSnapshot}
    (h : Consistent latest state) (event : Event) :
    Consistent (if event.name = "connection" then some event.data else latest)
      (applyEvent event state) := by
  obtain ⟨hconnection, hfeatures⟩ := applyEvent_eq event state
  have hwrites : (StateReducer.applyEvent event state).features.known = false →
      (StateReducer.applyEvent event state).features.writes = {} := by
    rw [hfeatures]
    exact writes_reduce _ _ _ _ h.writes
  rw [connection_reduce] at hconnection
  by_cases hname : event.name = "connection"
  · rw [if_pos hname] at hconnection ⊢
    obtain ⟨hconnected, hdisconnected⟩ :=
      consistent_reduceConnection event.now event.data h.connected
    refine ⟨?_, ?_, ?_, hwrites⟩
    · rw [hconnection, status_reduceConnection]
      exact hconnected
    · rw [hconnection, status_reduceConnection]
      exact hdisconnected
    · rw [hconnection]
      exact fun hstatus => entryCountry_reduceConnection _ _ _ hstatus
  · rw [if_neg hname] at hconnection ⊢
    refine ⟨?_, ?_, ?_, hwrites⟩ <;> rw [hconnection]
    · exact h.connected
    · exact h.disconnected
    · exact h.entryCountry

theorem after_append (events more : List Event) :
    after (events ++ more) = more.foldl (fun state event => applyEvent event state)
      (after events) :=
  List.foldl_append

/-- Every sequence of events leaves a consistent snapshot. -/
theorem consistent_after (events : List Event) :
    Consistent (latestConnection events) (after events) := by
  induction events using List.reverseRecOn with
  | nil =>
      exact ⟨nofun, nofun, fun _ => ⟨rfl, rfl⟩, fun _ => rfl⟩
  | append_singleton events event ih =>
      have hlatest : latestConnection (events ++ [event]) =
          if event.name = "connection" then some event.data else latestConnection events := by
        unfold latestConnection
        rw [List.reverse_append, List.reverse_singleton, List.singleton_append, List.find?_cons]
        by_cases hname : event.name = "connection"
        · simp [hname]
        · simp [hname]
      rw [after_append, hlatest]
      exact ih.applyEvent event

/-- While every event says that the connection is up, the time of the connection stays. -/
theorem connectedAt_foldl (events : List Event) (state : StateSnapshot)
    (hstate : state.connection.status = .connected)
    (hevents : ∀ event ∈ events, event.name = "connection" → statusOf event.data = .connected) :
    (events.foldl (fun state event => applyEvent event state)
        state).connection.connectedAtUnixMs = state.connection.connectedAtUnixMs := by
  induction events generalizing state with
  | nil => rfl
  | cons event events ih =>
      obtain ⟨hconnection, -⟩ := applyEvent_eq event state
      rw [connection_reduce] at hconnection
      have hstep : (applyEvent event state).connection.status = .connected ∧
          (applyEvent event state).connection.connectedAtUnixMs =
            state.connection.connectedAtUnixMs := by
        rw [hconnection]
        by_cases hname : event.name = "connection"
        · have hstatus := hevents event (.head _) hname
          rw [if_pos hname, status_reduceConnection, connectedAt_reduceConnection]
          unfold connectedAtAfter
          rw [hstatus, if_neg fun hmade => hmade.2 hstate, if_neg (by decide)]
          exact ⟨rfl, rfl⟩
        · rw [if_neg hname]
          exact ⟨hstate, rfl⟩
      rw [List.foldl_cons, ih _ hstep.1 fun event' h => hevents event' (.tail _ h)]
      exact hstep.2

/-! ## The reduction -/

/-- The same event `connection` leaves two connections that differ in the time and, unless it
carries conflicts or settles the connection, in the conflicts. Over every sequence of events from
the default snapshot, the time is there when connected, absent when disconnected and kept while the
events say connected; the country of entry is there for Secure Core only, and nothing can be written
while the features are not known. The reduction counts the events it recognises, leaves the snapshot
as it is on the others, and touches neither the operations nor the store; and it is all that an
event does on which these publish nothing. -/
theorem reduction_invariants :
    (∀ now now' data state state',
      let connection := (reduce now "connection" data state).connection
      let connection' := (reduce now' "connection" data state').connection
      connection = { connection' with
          connectedAtUnixMs := connection.connectedAtUnixMs
          networkConflicts := connection.networkConflicts } ∧
        (conflictsOf data ≠ none ∨ statusOf data = .connected ∨ statusOf data = .disconnected →
          connection.networkConflicts = connection'.networkConflicts)) ∧
    (∀ events,
      let state := after events
      (state.connection.status = .connected → state.connection.connectedAtUnixMs.isSome) ∧
      (state.connection.status = .disconnected → state.connection.connectedAtUnixMs = none) ∧
      (state.connection.status = .connected → ∀ more : List Event,
        (∀ event ∈ more, event.name = "connection" → statusOf event.data = .connected) →
        (after (events ++ more)).connection.connectedAtUnixMs =
          state.connection.connectedAtUnixMs) ∧
      ((latestConnection events).any saysSecureCore = false →
        state.connection.entryCountryCode = none ∧ state.connection.entryCountryName = none) ∧
      (state.features.known = false → state.features.writes = {})) ∧
    (∀ now event data state,
      (recognised event → (reduce now event data state).revision = state.revision + 1) ∧
      (¬ recognised event → reduce now event data state = state) ∧
      (reduce now event data state).operations = state.operations ∧
      (reduce now event data state).store = state.store) ∧
    ∀ event state, operationsOf event = none → storeOf event = none →
      applyEvent event state = reduce event.now event.name event.data state := by
  refine ⟨fun now now' data state state' => ?_, fun events => ?_, fun now event data state => ?_,
    fun event state hoperations hstore => applyEvent_of_unpublished hoperations hstore state⟩
  · dsimp only
    rw [connection_reduce, connection_reduce, if_pos rfl, if_pos rfl]
    exact reduceConnection_congr now data state.connection now' state'.connection
  · have h := consistent_after events
    refine ⟨h.connected, h.disconnected, fun hconnected more hmore => ?_, h.entryCountry, h.writes⟩
    rw [after_append]
    exact connectedAt_foldl more _ hconnected hmore
  · refine ⟨fun h => ?_, reduce_of_not_recognised now event data state,
      operations_store_reduce now event data state⟩
    rw [revision_reduce, if_pos h]

end ProtonVpnOmarchy.Agent.StateReducer
