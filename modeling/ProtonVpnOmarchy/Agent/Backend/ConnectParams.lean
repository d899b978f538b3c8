import ProtonVpnOmarchy.Agent.Store.Profiles

/-!
# Parameters of a connection

What `native_backend` checks of the parameters of a connection before it looks for a server: the id
of the profile, the settings of the profile, and the shape of the target. Whether the descriptor of
a protocol is installed is a parameter.
-/

namespace ProtonVpnOmarchy.Agent.Backend

open Lib Splitd Store

/-- Errors without details and sources. Source: `native_backend/mod.rs` `NativeResult` -/
abbrev NativeResult := Except BackendError

/-! ## The id of the profile -/

/-- `char::is_control` -/
def isControl (c : Char) : Bool := c.toNat < 0x20 || (0x7f ≤ c.toNat && c.toNat < 0xa0)

/-- Source: `native_backend/mod.rs` `connection_profile_id` -/
def connectionProfileId (params : Value) : NativeResult (Option String) :=
  match params.get "profile_id" with
  | none => .ok none
  | some .null => .ok none
  | some value => do
    let profileId ← okOrElse value.asStr (invalidParams "profile_id must be a string")
    reject (profileId = "" ∨ 128 < profileId.utf8ByteSize ∨ profileId.toList.any isControl)
      (invalidParams "profile_id must contain 1 to 128 non-control bytes")
    return some profileId

/-- The id of the profile of a connection that is observed. Source: `state_reducer.rs` `apply` -/
def reducedProfileId (data : Value) : Option String :=
  ((data.get "profile_id").bind Value.asStr).filter fun value =>
    value ≠ "" && value.utf8ByteSize ≤ 128 && !value.toList.any isControl

/-! ## The shape of the target -/

/-- Source: `native_backend/catalog.rs` `object_string` -/
def objectString (params : Map) (key : String) : String :=
  trim (((params.get key).bind Value.asStr).getD "")

/-- Source: `native_backend/catalog.rs` `object_bool` -/
def objectBool (params : Map) (key : String) : Bool :=
  ((params.get key).bind Value.asBool).getD false

/-- The target of a connection passes the checks that come before the choice of a server.
Source: `native_backend/catalog.rs` `select_validated` -/
def checkTarget (params : Value) : NativeResult Unit := do
  let target ← okOrElse ((params.get "target").bind Value.asObject)
    (invalidParams "target must be a JSON object")
  let countryCode := toAsciiUppercase (objectString target "country_code")
  let entryCountryCode := toAsciiUppercase (objectString target "entry_country_code")
  let stateName := objectString target "state"
  let cityName := objectString target "city"
  let gatewayName := objectString target "gateway_name"
  let secureCore := objectBool target "secure_core"
  let p2p := objectBool target "p2p"
  let tor := objectBool target "tor"
  let randomTarget := objectBool target "random"
  let randomServer := objectBool target "random_server"
  let featureCount := secureCore.toNat + p2p.toNat + tor.toNat
  reject (1 < featureCount ∨ (gatewayName ≠ "" ∧ 0 < featureCount))
    (invalidParams "Gateway, Secure Core, P2P and Tor target modes cannot be combined")
  reject ((stateName ≠ "" ∨ cityName ≠ "") ∧ countryCode = "")
    (invalidParams "State/city connection targets require country_code")
  reject (entryCountryCode ≠ "" ∧ ¬ secureCore)
    (invalidParams "Secure Core entry-country targets require secure_core")
  reject (randomTarget ∧ randomServer)
    (invalidParams "Country-random and server-random selection cannot be combined")

/-! ## Settings -/

/-- Source: `native_backend/models.rs` `CustomDns` -/
structure CustomDns where
  enabled : Bool := false
  ipList : List Value := []

/-- The settings that a profile replaces. Source: `native_backend/models.rs` `NativeSettings` -/
structure NativeSettings where
  protocol : String := "wireguard"
  netshield : UInt8 := 0
  moderateNat : Bool := false
  portForwarding : Bool := false
  customDns : CustomDns := {}
  allowLanConnections : Bool := false
  allowLocalDns : Bool := false

/-- Source: `native_backend/mod.rs` `normalized_protocol` -/
def normalizedProtocol (value : String) : String :=
  match toAsciiLowercase (trim value) with
  | "smart" | "protun-smart" => "protun-smart"
  | "wireguard" | "wireguard-udp" | "protun-udp" => "protun-udp"
  | "wireguard-tcp" | "protun-tcp" => "protun-tcp"
  | "wireguard-tls" | "stealth" | "protun-tls" => "protun-tls"
  | value => value

/-- The descriptors that are installed. -/
structure Descriptors where
  protun : Bool
  openvpn : Bool

/-- Source: `native_backend/mod.rs` `available_protocol` -/
def availableProtocol (installed : Descriptors) (protocol : String) : Bool :=
  match protocol with
  | "protun-smart" | "protun-udp" | "protun-tcp" | "protun-tls" => installed.protun
  | "openvpn-udp" | "openvpn-tcp" => installed.openvpn
  | _ => false

def protocolUnavailable (protocol : String) : BackendError :=
  .new "protocol_unavailable" ("VPN protocol is unavailable: " ++ protocol)

/-- Source: `native_backend/mod.rs` `optional_profile_bool` -/
def optionalProfileBool (object : Map) (key : String) (default : Bool) : NativeResult Bool :=
  match object.get key with
  | none => .ok default
  | some value => okOrElse value.asBool (invalidParams ("profile " ++ key ++ " must be boolean"))

/-- Source: `native_backend/mod.rs` `optional_profile_policy` -/
def optionalProfilePolicy (object : Map) (key : String) : NativeResult (Option Bool) :=
  match object.get key with
  | none => .ok none
  | some .null => .ok none
  | some value => (okOrElse value.asBool
      (invalidParams ("profile " ++ key ++ " must be boolean or null"))).map some

/-- The level of NetShield of a profile. -/
def profileNetshieldLevel (object : Map) : NativeResult UInt64 :=
  match object.get "netshield_level" with
  | none => .ok 2
  | some value => okOrElse (value.asU64.filter (· ≤ 2))
      (invalidParams "profile netshield_level must be an integer from 0 through 2")

/-- One address of a profile; a blank one is left out. -/
def customDnsServer (value : Value) : NativeResult (Option String) :=
  match value.asStr with
  | none => .error (.new "invalid_dns" "Profile DNS servers must be strings")
  | some text =>
    if trim text = "" then .ok none
    else
      match IpAddr.fromStr (trim text) with
      | some address => .ok (some address.display)
      | none => .error (.new "invalid_dns" "Invalid profile DNS IP")

/-- Source: `native_backend/mod.rs` `profile_custom_dns` -/
def profileCustomDns (value : Option Value) : NativeResult (Option CustomDns) :=
  match value with
  | none => .ok none
  | some value => do
    let object ← okOrElse value.asObject (invalidParams "profile custom_dns must be an object")
    let mode := toAsciiLowercase (trim (textOr object "mode" "inherit"))
    if mode = "inherit" then return none
    else if mode = "off" then return some {}
    else do
      reject (mode ≠ "custom")
        (invalidParams "profile custom DNS mode must be inherit, off or custom")
      let servers ← okOrElse ((object.get "servers").bind Value.asArray)
        (.new "invalid_dns" "A custom DNS profile requires an array of DNS server IPs")
      reject (16 < servers.length)
        (.new "invalid_dns" "A profile can contain at most 16 custom DNS servers")
      let addresses ← servers.mapM customDnsServer
      let normalized := firstOccurrences (addresses.filterMap id)
      reject (normalized = [])
        (.new "invalid_dns" "A custom DNS profile requires at least one DNS server")
      return some ⟨true, normalized.map fun address =>
        .obj [("ip", .string address), ("enabled", .bool true)]⟩

/-- The settings of a profile, over the global ones. -/
def profileOverrides (installed : Descriptors) (raw : Map) (global : NativeSettings)
    (tier : UInt8) : NativeResult (NativeSettings × String × Bool) := do
  let protocol := (((raw.get "protocol").bind Value.asStr).map normalizedProtocol).getD
    "protun-smart"
  reject (¬ availableProtocol installed protocol) (protocolUnavailable protocol)
  let netshieldEnabled ← optionalProfileBool raw "netshield_enabled" true
  let netshieldLevel ← profileNetshieldLevel raw
  let moderateNat ← optionalProfileBool raw "moderate_nat" false
  let portForwarding ← optionalProfileBool raw "port_forwarding" false
  let customDns ← profileCustomDns (raw.get "custom_dns")
  let allowLanConnections ← optionalProfilePolicy raw "allow_lan_connections"
  let allowLocalDns ← optionalProfilePolicy raw "allow_local_dns"
  reject (tier = 0 ∧ (netshieldEnabled ∨ moderateNat ∨ portForwarding))
    (.new "feature_unavailable"
      "Profile NetShield, Moderate NAT and port forwarding require a paid plan")
  reject (moderateNat ∧ portForwarding)
    (.new "profile_settings_conflict"
      "Moderate NAT and port forwarding cannot be enabled together")
  reject (netshieldEnabled ∧ customDns.any CustomDns.enabled)
    (.new "profile_settings_conflict"
      "Custom DNS and NetShield cannot be enabled in the same profile")
  return ({
    protocol := protocol
    netshield := if netshieldEnabled then netshieldLevel.toUInt8 else 0
    moderateNat := moderateNat
    portForwarding := portForwarding
    customDns :=
      match customDns with
      | some customDns => customDns
      | none =>
        -- A choice of NetShield wins over the addresses of the global settings.
        if netshieldEnabled then { global.customDns with enabled := false } else global.customDns
    allowLanConnections := allowLanConnections.getD global.allowLanConnections
    allowLocalDns := allowLocalDns.getD global.allowLocalDns }, protocol, true)

/-- Source: `native_backend/mod.rs` `effective_connection_settings` -/
def effectiveConnectionSettings (installed : Descriptors) (params : Value)
    (global : NativeSettings) (tier : UInt8) : NativeResult (NativeSettings × String × Bool) :=
  match params.get "profile_settings" with
  | none => do
    let protocol := normalizedProtocol global.protocol
    reject (¬ availableProtocol installed protocol) (protocolUnavailable protocol)
    return (global, protocol, false)
  | some raw => do
    let raw ← okOrElse raw.asObject (invalidParams "profile_settings must be a JSON object")
    profileOverrides installed raw global tier

end ProtonVpnOmarchy.Agent.Backend
