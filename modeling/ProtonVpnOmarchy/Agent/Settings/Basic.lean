import ProtonVpnOmarchy.Agent.Backend.DestinationPolicy
import ProtonVpnOmarchy.Splitd.Model

/-!
# The settings of the native backend

The settings that are stored, and what the requests that change them make of them: `feature.set`,
`dns.set`, `protocol.set` and `split_tunneling.set`. What a request does outside the settings (the
kill switch, the split service, the Local Agent) is not here.
-/

namespace ProtonVpnOmarchy.Agent.Settings

open Lib Splitd Store Backend

/-! ## Settings -/

/-- Source: `models.rs` `SplitTunnelingConfig` -/
structure SplitTunnelingConfig where
  mode : String := "exclude"
  appPaths : List String := []
  ipRanges : List String := []

/-- Source: `models.rs` `SplitTunnelingSettings` -/
structure SplitTunnelingSettings where
  enabled : Bool := false
  mode : String := "exclude"
  configByMode : String → Option SplitTunnelingConfig := fun mode =>
    if mode = "exclude" ∨ mode = "include" then some { mode } else none

/-- Source: `models.rs` `SplitTunnelingSettings::config` -/
def SplitTunnelingSettings.config (settings : SplitTunnelingSettings) (mode : String) :
    SplitTunnelingConfig :=
  (settings.configByMode mode).getD { mode }

/-- All settings. Source: `models.rs` `NativeSettings` -/
structure StoredSettings extends NativeSettings where
  killswitch : UInt8 := 0
  ipv6 : Bool := true
  ipv6LeakProtection : Bool := true
  alternativeRouting : Bool := true
  shareStatistics : Bool := false
  vpnAccelerator : Bool := true
  splitTunneling : SplitTunnelingSettings := {}

/-- The session that a request finds. -/
structure SessionState where
  restorePending : Bool := false
  tier : Option UInt8

/-- Source: `mod.rs` `ensure_session_restored` -/
def ensureSessionRestored (session : SessionState) : NativeResult Unit :=
  reject session.restorePending
    { BackendError.new "keyring_unavailable"
      "Waiting for the desktop keyring to restore the saved Proton session" with retryable := true }

/-- Source: `mod.rs` `require_session` -/
def requireSession (session : SessionState) : NativeResult UInt8 := do
  ensureSessionRestored session
  okOrElse session.tier
    (.new "not_authenticated" "Sign in to Proton before using VPN controls")

/-! ## `feature.set` -/

/-- Source: `mod.rs` `bool_feature_value` -/
def boolFeatureValue (params : Value) (feature : String) : NativeResult Bool :=
  okOrElse ((params.get "value").bind Value.asBool)
    (invalidParams (feature ++ " value must be boolean"))

/-- Source: `mod.rs` `require_paid_feature` -/
def requirePaidFeature (tier : UInt8) (feature : String) : NativeResult Unit :=
  reject (tier = 0)
    (.new "feature_restricted" (feature ++ " requires a paid Proton VPN plan"))

/-- Source: `mod.rs` `kill_switch_value` -/
def killSwitchValue (value : String) : Option UInt8 :=
  match toAsciiLowercase (trim value) with
  | "off" => some 0
  | "standard" | "on" => some 1
  | "advanced" | "permanent" => some 2
  | _ => none

/-- The name of the feature of a request. -/
def featureOf (params : Value) : String :=
  toAsciiLowercase (trim (((params.get "feature").bind Value.asStr).getD ""))

/-- Source: `mod.rs` `feature_set`, before it holds `settings_write`; the tier -/
def checkFeature (session : SessionState) (feature : String) : NativeResult UInt8 := do
  reject (session.tier = none ∧ feature ∉ ["kill_switch", "alternative_routing"])
    (.new "not_authenticated" "Sign in to Proton VPN first")
  reject (feature = "split_tunneling")
    (.new "invalid_method" "Use split_tunneling.set so app lists and mode stay atomic")
  reject (feature = "secure_core")
    (.new "invalid_method" "Secure Core is connection-derived; use connection.connect")
  return session.tier.getD 0

/-- The level of NetShield that is asked for. -/
def setNetshield (tier : UInt8) (params : Value) (settings : StoredSettings) :
    NativeResult StoredSettings := do
  requirePaidFeature tier "NetShield"
  let level ← okOrElse (((params.get "value").bind Value.asU64).filter (· ≤ 2))
    (invalidParams "netshield value must be an integer from 0 through 2")
  reject (0 < level ∧ settings.customDns.enabled)
    (.new "setting_conflict" "Disable Custom DNS before enabling NetShield")
  return { settings with netshield := level.toUInt8 }

def setModerateNat (tier : UInt8) (params : Value) (settings : StoredSettings) :
    NativeResult StoredSettings := do
  requirePaidFeature tier "Moderate NAT"
  let enabled ← boolFeatureValue params "moderate_nat"
  reject (enabled ∧ settings.portForwarding)
    (.new "setting_conflict" "Disable port forwarding before enabling Moderate NAT")
  return { settings with moderateNat := enabled }

def setPortForwarding (tier : UInt8) (params : Value) (settings : StoredSettings) :
    NativeResult StoredSettings := do
  requirePaidFeature tier "Port forwarding"
  let enabled ← boolFeatureValue params "port_forwarding"
  reject (enabled ∧ settings.moderateNat)
    (.new "setting_conflict" "Moderate NAT and port forwarding cannot be enabled together")
  return { settings with portForwarding := enabled }

def setVpnAccelerator (tier : UInt8) (params : Value) (settings : StoredSettings) :
    NativeResult StoredSettings := do
  requirePaidFeature tier "VPN Accelerator"
  let enabled ← boolFeatureValue params "vpn_accelerator"
  return { settings with vpnAccelerator := enabled }

/-- Source: `mod.rs` `feature_set`, the settings that a request asks for -/
def featureUpdate (feature : String) (tier : UInt8) (params : Value) (settings : StoredSettings) :
    NativeResult StoredSettings :=
  match feature with
  | "anonymous_crash_reports" =>
    .error (.new "feature_unavailable" "Anonymous crash reports are unavailable in this build")
  | "anonymous_usage_statistics" =>
    (boolFeatureValue params feature).map fun enabled =>
      { settings with shareStatistics := enabled }
  | "kill_switch" =>
    (okOrElse (((params.get "value").bind Value.asStr).bind killSwitchValue)
      (invalidParams "kill_switch value must be off, standard or advanced")).map fun mode =>
        { settings with killswitch := mode }
  | "netshield" => setNetshield tier params settings
  | "vpn_accelerator" => setVpnAccelerator tier params settings
  | "moderate_nat" => setModerateNat tier params settings
  | "ipv6" => (boolFeatureValue params feature).map fun enabled => { settings with ipv6 := enabled }
  | "ipv6_leak_protection" =>
    (boolFeatureValue params feature).map fun enabled =>
      { settings with ipv6LeakProtection := enabled }
  | "alternative_routing" =>
    (boolFeatureValue params feature).map fun enabled =>
      { settings with alternativeRouting := enabled }
  | "allow_lan_connections" =>
    (boolFeatureValue params feature).map fun enabled =>
      { settings with allowLanConnections := enabled }
  | "allow_local_dns" =>
    (boolFeatureValue params feature).map fun enabled => { settings with allowLocalDns := enabled }
  | "port_forwarding" => setPortForwarding tier params settings
  | _ => .error (invalidParams "Unknown feature")

/-! ## `dns.set` -/

/-- One server of a request; a blank one is left out. -/
def dnsServer (raw : Value) : NativeResult (Option String) :=
  match raw.asStr with
  | none => .error (invalidParams "DNS servers must be strings")
  | some value =>
    if trim value = "" then .ok none
    else
      match IpAddr.fromStr (trim value) with
      | some address => .ok (some address.display)
      | none => .error (.new "invalid_dns" "Invalid custom DNS IP")

/-- The addresses that a request asks for. Source: `mod.rs` `dns_set`, before it holds
`settings_write` -/
def requestedDns (session : SessionState) (params : Value) : NativeResult CustomDns := do
  let _ ← requireSession session
  let enabled ← okOrElse ((params.get "enabled").bind Value.asBool)
    (invalidParams "enabled must be a boolean")
  let tooMany := invalidParams "servers must be an array with at most 16 IP addresses"
  let rawServers ← okOrElse ((params.get "servers").bind Value.asArray) tooMany
  reject (16 < rawServers.length) tooMany
  let servers ← rawServers.mapM dnsServer
  let normalized := firstOccurrences (servers.filterMap id)
  reject (enabled ∧ normalized = [])
    (.new "invalid_dns"
      "At least one valid DNS IP is required when custom DNS is enabled")
  return ⟨enabled, normalized.map fun ip => .obj [("ip", .string ip), ("enabled", .bool true)]⟩

/-- Source: `mod.rs` `dns_set`, the settings that a request asks for -/
def dnsUpdate (session : SessionState) (params : Value) (settings : StoredSettings) :
    NativeResult StoredSettings :=
  (requestedDns session params).map fun customDns => { settings with customDns }

/-! ## `protocol.set` -/

/-- Source: `mod.rs` `protocol_set`, the settings that a request asks for; `disconnected` says what
was observed of the tunnel -/
def protocolUpdate (session : SessionState) (installed : Descriptors) (disconnected : Bool)
    (params : Value) (settings : StoredSettings) : NativeResult StoredSettings := do
  let _ ← requireSession session
  let value ← okOrElse ((((params.get "value").bind Value.asStr).map normalizedProtocol).filter
    (· ≠ "")) (invalidParams "protocol value is required")
  reject (¬ availableProtocol installed value) (protocolUnavailable value)
  reject (¬ disconnected)
    (.new "connection_active" "VPN protocol can only be changed while disconnected")
  return { settings with protocol := value }

/-! ## `split_tunneling.set` -/

def MAX_SPLIT_APPS : ℕ := 128
def MAX_SPLIT_APP_PATH_BYTES : ℕ := 4096
def MAX_SPLIT_IP_RANGES : ℕ := 256

def invalidSplitApps (message : String) : BackendError := .new "invalid_split_apps" message

def invalidSplitIpRanges (message : String) : BackendError :=
  .new "invalid_split_ip_ranges" message

/-- One application of a request; a blank one is left out. -/
def splitApp (raw : Value) : NativeResult (Option String) := do
  let value ← okOrElse raw.asStr (invalidSplitApps "App entries must be strings")
  let value := trim value
  if value = "" then return none
  reject (value.toList.any (fun c => c = Char.ofNat 0 ∨ c = '\n' ∨ c = '\r') ∨
      MAX_SPLIT_APP_PATH_BYTES < value.utf8ByteSize)
    (invalidSplitApps "App entry contains invalid characters or is too long")
  return some value

/-- One range of a request; a blank one is left out. -/
def splitIpRange (raw : Value) : NativeResult (Option String) := do
  let value ← okOrElse raw.asStr (invalidSplitIpRanges "IP range entries must be strings")
  let value := trim value
  if value = "" then return none
  let network ← okOrElse ((readRange value).or ((IpAddr.fromStr value).map IpNet.host))
    (invalidSplitIpRanges ("Invalid IP address or CIDR range: " ++ value))
  return some (networkText network.trunc)

/-- Source: `mod.rs` `split_request_config` -/
def splitRequestConfig (params : Value) (requestName mode : String)
    (previous : SplitTunnelingConfig) : NativeResult SplitTunnelingConfig := do
  let object ← okOrElse ((params.get requestName).getD (.obj [])).asObject
    (invalidParams "standard/inverse configs must be objects")
  let apps ← okOrElse ((object.get "app_paths").getD (.array [])).asArray
    (invalidSplitApps "app_paths must be an array")
  reject (MAX_SPLIT_APPS < apps.length)
    (invalidSplitApps "app_paths must contain at most 128 entries")
  let appPaths ← apps.mapM splitApp
  let ranges ← okOrElse ((object.get "ip_ranges").getD
    (.array (previous.ipRanges.map .string))).asArray
    (invalidSplitIpRanges "ip_ranges must be an array")
  reject (MAX_SPLIT_IP_RANGES < ranges.length)
    (invalidSplitIpRanges "ip_ranges must contain at most 256 entries")
  let ipRanges ← ranges.mapM splitIpRange
  return { previous with
    mode
    appPaths := firstOccurrences (appPaths.filterMap id)
    ipRanges := firstOccurrences (ipRanges.filterMap id) }

/-- The mode of a request. -/
def splitMode (params : Value) (enabled : Bool) : NativeResult String :=
  let name := toAsciiLowercase (trim (((params.get "mode").bind Value.asStr).getD "standard"))
  match if name = "off" ∧ ¬ enabled then "standard" else name with
  | "standard" => .ok "exclude"
  | "inverse" => .ok "include"
  | _ => .error (invalidParams "mode must be standard or inverse")

/-- Source: `mod.rs` `split_tunneling_set`, the settings that a request asks for -/
def splitTunnelingUpdate (session : SessionState) (available : Bool) (params : Value)
    (settings : StoredSettings) : NativeResult StoredSettings := do
  let _ ← requireSession session
  reject (¬ available) (.new "split_tunneling_unavailable"
    "Proton split tunneling service is unavailable on this system")
  let enabled ← okOrElse ((params.get "enabled").bind Value.asBool)
    (invalidParams "enabled must be a boolean")
  let mode ← splitMode params enabled
  let split := settings.splitTunneling
  let standard ← splitRequestConfig params "standard" "exclude" (split.config "exclude")
  let inverse ← splitRequestConfig params "inverse" "include" (split.config "include")
  let active := if mode = "include" then inverse else standard
  reject (enabled ∧ active.appPaths = [] ∧ active.ipRanges = [])
    (.new "split_tunneling_empty_selection"
      "The active Split Tunneling mode requires at least one application or IP range")
  return { settings with
    splitTunneling :=
      { enabled, mode
        configByMode := Function.update (Function.update split.configByMode "exclude" (some standard))
          "include" (some inverse) } }

end ProtonVpnOmarchy.Agent.Settings
