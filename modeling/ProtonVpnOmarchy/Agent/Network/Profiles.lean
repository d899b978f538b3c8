import ProtonVpnOmarchy.Agent.Backend.ConnectParams
import ProtonVpnOmarchy.Agent.Catalog.Basic
import ProtonVpnOmarchy.Agent.JsonSyntax
import ProtonVpnOmarchy.Lib.BitText

/-!
# VPN profiles

The profiles of NetworkManager that `network.rs` builds, their D-Bus settings, and what is read
back from the settings of a connection that is observed.

* `VpnProfile.new` — a profile for a server, or the check that the server or the client
  configuration fails.
* `VpnProfile.dbusSettings` — the sections `connection` and `vpn`; the sections of the addresses,
  the user and the secrets are not read back and left out.
* `profileProtocol`, `profileEndpoint`, `profileStoreId` — what `observe` reads.

The keys, the random numbers, the files of the credentials and the verification of the signature
of a server are parameters.
-/

namespace ProtonVpnOmarchy.Agent.Network

open Lib Splitd Store Backend Catalog

/-! ## Ports and sessions -/

/-- Source: `models.rs` `ProtocolPorts` -/
structure ProtocolPorts where
  udp : List UInt16 := []
  tcp : List UInt16 := []
  tls : List UInt16 := []

/-- Source: `models.rs` `DefaultPorts` -/
structure DefaultPorts where
  wireGuard : ProtocolPorts
  openVpn : ProtocolPorts := {}

/-- Source: `models.rs` `ClientConfig` -/
structure ClientConfig where
  defaultPorts : DefaultPorts

/-- The parts of a session that a profile is made of. Source: `models.rs` `VpnSessionData` -/
structure SessionData where
  ed25519Privatekey : String
  certificate : String

/-- What a profile takes from outside: the pinned key of the servers, keys and random numbers, the
directory of the credentials, and the file system. -/
structure Outside where
  floats : FloatText
  verifyStrict : (payload : String) → (signature : List (BitVec 8)) → Bool
  wireguardPrivateKey : String → NativeResult String
  encryptedOpenvpnPrivateKey : (key passphrase : String) → NativeResult String
  passphrase : String
  uuid : String
  openvpnCredentialDir : String → NativeResult String
  writePrivateFile : (path contents : String) → NativeResult Unit
  OPENVPN_CA : String
  OPENVPN_TLS_CRYPT : String

variable (outside : Outside)

/-! ## The signature of a server -/

/-- `STANDARD` -/
def STANDARD : Alphabet 6 where
  chars := "ABCDEFGHIJKLMNOPQRSTUVWXYZabcdefghijklmnopqrstuvwxyz0123456789+/".toList
  length_chars := by decide
  nodup := by decide

/-- `STANDARD.decode`: the text is padded to groups of four characters. -/
def standardDecode (text : String) : Option (List (BitVec 8)) :=
  let body := text.toList.takeWhile (· ≠ '=')
  if text.toList = body ++ List.replicate ((4 - body.length % 4) % 4) '=' then
    STANDARD.decode 8 body
  else none

/-- Source: `server_validation.rs` `invalid` -/
def invalid : BackendError :=
  { code := "server_validation_failed"
    message := "The VPN server could not be verified. Refresh the server list and try again."
    retryable := true }

/-- Source: `server_validation.rs` `signed_payload` -/
def signedPayload (server : PhysicalServer) : String :=
  .ofList (writeValue outside.floats (.object [("Server", .object [
    ("EntryIP", .string server.entryIp),
    ("Label", orNull server.label)])]))

/-- Source: `server_validation.rs` `validate` -/
def validate (server : PhysicalServer) : NativeResult Unit := do
  reject (IpAddr.fromStr server.entryIp = none ∨
    server.label.any (fun label => label.toList.any fun c => 128 ≤ c.toNat) ∨
    server.x25519PublicKey.utf8ByteSize ≠ 44 ∨
    (standardDecode server.x25519PublicKey).map List.length ≠ some 32) invalid
  let signature ← okOrElse (server.signature.filter fun text => text.utf8ByteSize = 88) invalid
  let signature ← okOrElse (standardDecode signature) invalid
  reject (signature.length ≠ 64) invalid
  reject (outside.verifyStrict (signedPayload outside server) signature = false) invalid

/-! ## ProTun -/

/-- Source: `network.rs` `normalize_protocol` -/
def normalizeProtocol (protocol : String) : String :=
  match protocol with
  | "smart" => "protun-smart"
  | "wireguard" | "wireguard-udp" => "protun-udp"
  | "wireguard-tcp" => "protun-tcp"
  | "wireguard-tls" | "stealth" => "protun-tls"
  | value => value

/-- Source: `network.rs` `ProtunProfile` -/
structure ProtunProfile where
  id : String
  uuid : String
  protocol : String
  profileId : Option String
  settingsJson : String
  privateKey : String
  enableIpv6 : Bool

def protocolUnavailable (message : String) : BackendError := .new "protocol_unavailable" message

/-- The ports of a protocol. -/
def protunPorts (protocol : String) (ports : ProtocolPorts) : NativeResult ProtocolPorts :=
  match protocol with
  | "protun-smart" | "smart" => .ok ports
  | "wireguard" | "wireguard-udp" | "protun-udp" => .ok { udp := ports.udp }
  | "protun-tcp" | "wireguard-tcp" => .ok { tcp := ports.tcp }
  | "protun-tls" | "wireguard-tls" | "stealth" => .ok { tls := ports.tls }
  | value => .error (protocolUnavailable
      ("The Rust backend cannot create a ProTun profile for " ++ value))

/-- The value of a list of ports. -/
def portsValue (ports : List UInt16) : Value := .array (ports.map fun port => .u64 port.toUInt64)

/-- The settings of the one peer of a ProTun profile. -/
def settingsValue (name entryIp publicKey : String) (ports : ProtocolPorts) : Value :=
  .obj [
    ("version", .u64 1),
    ("peers", .array [.obj [
      ("id", .string name),
      ("endpoint", .string entryIp),
      ("public-key", .string publicKey),
      ("udp-ports", portsValue ports.udp),
      ("tcp-ports", portsValue ports.tcp),
      ("tls-ports", portsValue ports.tls),
      ("priority", .u64 0)]]),
    ("pcap-file", .null)]

/-- A backslash before every comma. -/
def escapeCommas (text : List Char) : List Char :=
  text.flatMap fun c => if c = ',' then ['\\', ','] else [c]

/-- Source: `network.rs` `ProtunProfile::new` -/
def ProtunProfile.new (target : ConnectionTarget) (protocol : String) (session : SessionData)
    (clientConfig : ClientConfig) (ipv6 : Bool) (profileId : Option String) :
    NativeResult ProtunProfile := do
  validate outside target.physical
  let ports ← protunPorts protocol clientConfig.defaultPorts.wireGuard
  reject (ports.udp = [] ∧ ports.tcp = [] ∧ ports.tls = []) (protocolUnavailable
    "The Proton client configuration provides no ports for this protocol")
  let settings := settingsValue target.logical.name target.physical.entryIp
    target.physical.x25519PublicKey ports
  let privateKey ← outside.wireguardPrivateKey session.ed25519Privatekey
  return {
    id := "ProtonVPN " ++ target.logical.name
    uuid := outside.uuid
    protocol := normalizeProtocol protocol
    profileId := profileId
    settingsJson := .ofList (escapeCommas (writeValue outside.floats settings))
    privateKey := privateKey
    enableIpv6 := ipv6 && target.logical.has FEATURE_IPV6 }

/-! ## OpenVPN -/

/-- Source: `network.rs` `OpenVpnProfile` -/
structure OpenVpnProfile where
  id : String
  uuid : String
  protocol : String
  profileId : Option String
  remote : String
  domain : String
  passphrase : String
  ca : String
  certificate : String
  privateKey : String
  tlsCrypt : String
  enableIpv6 : Bool

def openvpnPorts (protocol : String) (ports : ProtocolPorts) : NativeResult (List UInt16) :=
  match protocol with
  | "openvpn-udp" => .ok ports.udp
  | "openvpn-tcp" => .ok ports.tcp
  | value => .error (protocolUnavailable
      ("The Rust backend cannot create an OpenVPN profile for " ++ value))

/-- The text of an address and a port. -/
def remoteText (entryIp : String) (port : UInt16) : String :=
  entryIp ++ ":" ++ .ofList (Nat.toDigits 10 port.toNat)

/-- Source: `network.rs` `OpenVpnProfile::new` -/
def OpenVpnProfile.new (target : ConnectionTarget) (protocol : String) (session : SessionData)
    (clientConfig : ClientConfig) (ipv6 : Bool) (profileId : Option String) :
    NativeResult OpenVpnProfile := do
  validate outside target.physical
  let protocol := normalizeProtocol protocol
  let ports ← openvpnPorts protocol clientConfig.defaultPorts.openVpn
  reject (ports = []) (protocolUnavailable
    "The Proton client configuration provides no ports for this OpenVPN protocol")
  reject (trim target.logical.domain = "")
    (.new "server_invalid" "The selected Proton server has no certificate domain")
  reject (¬ "-----BEGIN CERTIFICATE-----".toList <:+: session.certificate.toList)
    (.new "vpn_credentials_invalid" "The stored Proton VPN certificate is missing or invalid")
  let privateKey ← outside.encryptedOpenvpnPrivateKey session.ed25519Privatekey outside.passphrase
  let credentialDir ← outside.openvpnCredentialDir outside.uuid
  outside.writePrivateFile (credentialDir ++ "/ca.pem") outside.OPENVPN_CA
  outside.writePrivateFile (credentialDir ++ "/certificate.pem") session.certificate
  outside.writePrivateFile (credentialDir ++ "/private-key.pem") privateKey
  outside.writePrivateFile (credentialDir ++ "/tls-crypt.pem") outside.OPENVPN_TLS_CRYPT
  return {
    id := "ProtonVPN " ++ target.logical.name
    uuid := outside.uuid
    protocol := protocol
    profileId := profileId
    remote := String.intercalate ", " (ports.map (remoteText target.physical.entryIp))
    domain := target.logical.domain
    passphrase := outside.passphrase
    ca := credentialDir ++ "/ca.pem"
    certificate := credentialDir ++ "/certificate.pem"
    privateKey := credentialDir ++ "/private-key.pem"
    tlsCrypt := credentialDir ++ "/tls-crypt.pem"
    enableIpv6 := ipv6 && target.logical.has FEATURE_IPV6 }

/-! ## Profiles -/

/-- Source: `network.rs` `VpnProfile` -/
inductive VpnProfile where
  | protun (profile : ProtunProfile)
  | openVpn (profile : OpenVpnProfile)

/-- Source: `network.rs` `VpnProfile::new` -/
def VpnProfile.new (target : ConnectionTarget) (protocol : String) (session : SessionData)
    (clientConfig : ClientConfig) (ipv6 : Bool) (profileId : Option String) :
    NativeResult VpnProfile :=
  match normalizeProtocol protocol with
  | "openvpn-udp" | "openvpn-tcp" =>
    (OpenVpnProfile.new outside target protocol session clientConfig ipv6 profileId).map .openVpn
  | _ =>
    (ProtunProfile.new outside target protocol session clientConfig ipv6 profileId).map .protun

/-- Source: `network.rs` `VpnProfile::protocol` -/
def VpnProfile.protocol : VpnProfile → String
  | .protun profile => profile.protocol
  | .openVpn profile => profile.protocol

/-! ## D-Bus settings -/

/-- A value of a section of settings. -/
inductive Property where
  | string (text : String)
  | bool (value : Bool)
  | int (value : Int)
  | dict (entries : List (String × String))

/-- A section of settings. Source: `nmdbus` `PropMap` -/
abbrev PropMap := List (String × Property)

/-- The settings of a connection by their sections. -/
abbrev Settings := List (String × PropMap)

def PROTUN_SERVICE : String := "org.freedesktop.NetworkManager.protun"
def OPENVPN_SERVICE : String := "org.freedesktop.NetworkManager.openvpn"
def PROTUN_INTERFACE : String := "proton0"
def PROTON_OMARCHY_OWNER_KEY : String := "proton-omarchy-owner"
def PROTON_OMARCHY_OWNER_VALUE : String := "rust-v2"
def PROTON_OMARCHY_PROFILE_ID_KEY : String := "proton-omarchy-profile-id"
def PROTON_OMARCHY_STABLE_ID : String := "proton-omarchy-rust-v2"

/-- The id of a profile among the data. -/
def profileIdEntry (profileId : Option String) : List (String × String) :=
  profileId.toList.map fun profileId => (PROTON_OMARCHY_PROFILE_ID_KEY, profileId)

/-- Source: `network.rs` `ProtunProfile::dbus_settings` -/
def ProtunProfile.dbusSettings (profile : ProtunProfile) : Settings :=
  [("connection", [
      ("id", .string profile.id),
      ("uuid", .string profile.uuid),
      ("type", .string "vpn"),
      ("llmnr", .int 0),
      ("stable-id", .string PROTON_OMARCHY_STABLE_ID),
      ("interface-name", .string PROTUN_INTERFACE)]),
    ("vpn", [
      ("service-type", .string PROTUN_SERVICE),
      ("data", .dict (profileIdEntry profile.profileId ++ [
        ("settings", profile.settingsJson),
        ("private-key-flags", "0"),
        (PROTON_OMARCHY_OWNER_KEY, PROTON_OMARCHY_OWNER_VALUE)])),
      ("secrets", .dict [("private-key", profile.privateKey)]),
      ("persistent", .bool false)])]

/-- Source: `network.rs` `OpenVpnProfile::dbus_settings` -/
def OpenVpnProfile.dbusSettings (profile : OpenVpnProfile) : Settings :=
  [("connection", [
      ("id", .string profile.id),
      ("uuid", .string profile.uuid),
      ("type", .string "vpn"),
      ("llmnr", .int 0),
      ("interface-name", .string PROTUN_INTERFACE),
      ("autoconnect", .bool false),
      ("stable-id", .string PROTON_OMARCHY_STABLE_ID)]),
    ("vpn", [
      ("service-type", .string OPENVPN_SERVICE),
      ("data", .dict (profileIdEntry profile.profileId ++
        (if profile.enableIpv6 then [("push-peer-info", "yes"), ("tun-ipv6", "yes")] else []) ++
        (if profile.protocol = "openvpn-tcp" then [("proto-tcp", "yes")] else []) ++ [
        ("ca", profile.ca),
        ("cert", profile.certificate),
        ("key", profile.privateKey),
        ("tls-crypt", profile.tlsCrypt),
        ("connection-type", "tls"),
        ("remote", profile.remote),
        ("remote-random", "yes"),
        ("cipher", "AES-256-GCM"),
        ("dev", PROTUN_INTERFACE),
        ("dev-type", "tun"),
        ("mssfix", "0"),
        ("tunnel-mtu", "1500"),
        ("reneg-seconds", "0"),
        ("remote-cert-tls", "server"),
        ("verify-x509-name", "name:" ++ profile.domain),
        ("cert-pass-flags", "0")])),
      ("secrets", .dict [("cert-pass", profile.passphrase)]),
      ("persistent", .bool false)])]

/-- Source: `network.rs` `VpnProfile::dbus_settings` -/
def VpnProfile.dbusSettings : VpnProfile → Settings
  | .protun profile => profile.dbusSettings
  | .openVpn profile => profile.dbusSettings

/-! ## Reading settings -/

def Property.asStr : Property → Option String
  | .string text => some text
  | _ => none

/-- Source: `network.rs` `dict_string` -/
def dictString (value : Property) (key : String) : Option String :=
  match value with
  | .dict entries => entries.lookup key
  | _ => none

/-- Source: `network.rs` `service_type` -/
def serviceType (settings : Settings) : Option String := do
  let value ← (← settings.lookup "vpn").lookup "service-type"
  value.asStr

/-- Source: `network.rs` `vpn_data_string` -/
def vpnDataString (settings : Settings) (key : String) : Option String := do
  let data ← (← settings.lookup "vpn").lookup "data"
  dictString data key

/-- Source: `network.rs` `nonempty_ports` -/
def nonemptyPorts (value : Option Value) : Bool :=
  ((value.bind Value.asArray).map fun ports => !ports.isEmpty).getD false

/-- The first peer of ProTun settings, without the escapes of the separators. -/
def firstPeer (settings : Settings) : Option Value := do
  let settingsValue ← vpnDataString settings "settings"
  let raw := settingsValue.toList.filter (· ≠ '\\')
  let peers ← (← readJson outside.floats raw).get "peers"
  (← peers.asArray).head?

/-- Source: `network.rs` `profile_protocol` -/
def profileProtocol (settings : Settings) : Option String :=
  if serviceType settings = some OPENVPN_SERVICE then
    some (if vpnDataString settings "proto-tcp" = some "yes" then "openvpn-tcp" else "openvpn-udp")
  else do
    let peer ← firstPeer outside settings
    let hasUdp := nonemptyPorts (peer.get "udp-ports")
    let hasTcp := nonemptyPorts (peer.get "tcp-ports")
    let hasTls := nonemptyPorts (peer.get "tls-ports")
    return match hasUdp, hasTcp, hasTls with
      | false, false, true => "protun-tls"
      | false, true, false => "protun-tcp"
      | true, false, false => "protun-udp"
      | _, _, _ => "protun-smart"

/-- The address of the first remote of an OpenVPN profile. -/
def remoteAddress (remote : List Char) : Option (List Char) := do
  let first ← (remote.splitOnP fun c => c = ',' ∨ c = ' ' ∨ c = '\t').find? (· ≠ [])
  match first with
  | '[' :: bracketed =>
    if ']' ∈ bracketed then some (bracketed.takeWhile (· ≠ ']')) else none
  | first => some (first.takeWhile (· ≠ ':'))

/-- Source: `network.rs` `profile_endpoint` -/
def profileEndpoint (settings : Settings) : Option String :=
  if serviceType settings = some OPENVPN_SERVICE then do
    let remote ← vpnDataString settings "remote"
    (remoteAddress remote.toList).map String.ofList
  else do
    let peer ← firstPeer outside settings
    (← peer.get "endpoint").asStr

/-- Source: `network.rs` `profile_store_id` -/
def profileStoreId (settings : Settings) : Option String :=
  (vpnDataString settings PROTON_OMARCHY_PROFILE_ID_KEY).filter fun value =>
    value ≠ "" && value.utf8ByteSize ≤ 128 && !value.toList.any isControl

end ProtonVpnOmarchy.Agent.Network
