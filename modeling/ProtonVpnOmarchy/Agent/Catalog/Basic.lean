import ProtonVpnOmarchy.Agent.Store.Params

/-!
# The server catalog

The servers of `models.rs`, the features of a server, and the state that `catalog.rs` assigns to a
server whose own is blank. Fields that are only stored are left out. A score is read from JSON, so
it is a finite number; it is a rational number here. The names of the countries are a parameter.
-/

namespace ProtonVpnOmarchy.Agent.Catalog

open Splitd Store

/-! ## Servers -/

/-- Source: `models.rs` `PhysicalServer` -/
structure PhysicalServer where
  id : String
  entryIp : String := ""
  exitIp : String := ""
  domain : String := ""
  status : UInt8 := 0
  x25519PublicKey : String := ""
  label : Option String := none
  signature : Option String := none
  deriving DecidableEq

/-- Source: `models.rs` `ServerLocation` -/
structure ServerLocation where
  lat : Option Number := none
  long : Option Number := none
  deriving DecidableEq

/-- Source: `models.rs` `LogicalServer` -/
structure LogicalServer where
  id : String
  name : String
  entryCountry : String := ""
  exitCountry : String := ""
  hostCountry : Option String := none
  city : String := ""
  state : String := ""
  domain : String := ""
  tier : UInt8 := 0
  features : BitVec 32 := 0
  load : UInt8 := 0
  score : ℚ := 0
  status : UInt8 := 0
  location : ServerLocation := {}
  servers : List PhysicalServer := []
  gatewayName : String := ""
  extra : Map := []
  deriving DecidableEq

/-- Source: `models.rs` `ServerCatalog` -/
structure ServerCatalog where
  logicalServers : List LogicalServer := []

/-- Source: `catalog.rs` `ConnectionTarget` -/
structure ConnectionTarget where
  logical : LogicalServer
  physical : PhysicalServer
  deriving DecidableEq

/-! ## Features -/

def FEATURE_SECURE_CORE : BitVec 32 := 1 <<< 0
def FEATURE_TOR : BitVec 32 := 1 <<< 1
def FEATURE_P2P : BitVec 32 := 1 <<< 2
def FEATURE_STREAMING : BitVec 32 := 1 <<< 3
def FEATURE_IPV6 : BitVec 32 := 1 <<< 4
def FEATURE_RESTRICTED : BitVec 32 := 1 <<< 5
def FEATURE_PARTNER : BitVec 32 := 1 <<< 6
def FEATURE_DOUBLE_RESTRICTED : BitVec 32 := 1 <<< 7
def FEATURE_B2B : BitVec 32 := FEATURE_RESTRICTED ||| FEATURE_DOUBLE_RESTRICTED
def FEATURE_NON_STANDARD : BitVec 32 :=
  FEATURE_SECURE_CORE ||| FEATURE_TOR ||| FEATURE_RESTRICTED ||| FEATURE_PARTNER |||
    FEATURE_DOUBLE_RESTRICTED

namespace LogicalServer

variable (server : LogicalServer)

/-- Some of the features is there. -/
def has (features : BitVec 32) : Bool := server.features &&& features ≠ 0

/-- Source: `models.rs` `LogicalServer::enabled` -/
def enabled : Bool := server.status = 1 && server.servers.any fun physical => physical.status = 1

/-- Source: `models.rs` `LogicalServer::maintenance` -/
def maintenance : Bool := !server.enabled

/-- Source: `models.rs` `LogicalServer::standard` -/
def standard : Bool := server.features &&& FEATURE_NON_STANDARD = 0

/-- Source: `models.rs` `LogicalServer::gateway_name` -/
def gateway : String :=
  if server.gatewayName ≠ "" then server.gatewayName
  else ((server.extra.get "GatewayName").bind Value.asStr).getD ""

/-- Source: `models.rs` `LogicalServer::host_country_code` -/
def hostCountryCode : Option String := (server.hostCountry.map trim).filter (· ≠ "")

end LogicalServer

/-- The name of a country with a code of two letters. Source: `isocountry`
`CountryCode::for_alpha2_caseless` -/
abbrev CountryNames := String → Option String

/-- Source: `models.rs` `country_name` -/
def countryName (names : CountryNames) (code : String) : String :=
  (names code).getD (toAsciiUppercase code)

/-- A text, or `null`. -/
def orNull (text : Option String) : Value := text.elim .null .string

/-- Source: `models.rs` `LogicalServer::serialized` -/
def LogicalServer.serialized (names : CountryNames) (server : LogicalServer) : Value :=
  .obj [
    ("id", .string server.id),
    ("name", .string server.name),
    ("country_code", .string server.exitCountry),
    ("country_name", .string (countryName names server.exitCountry)),
    ("entry_country_code", .string server.entryCountry),
    ("entry_country_name", .string (countryName names server.entryCountry)),
    ("state", .string server.state),
    ("city", .string (if server.city = "" then server.state else server.city)),
    ("latitude", server.location.lat.elim .null .number),
    ("longitude", server.location.long.elim .null .number),
    ("load", .u64 server.load.toUInt64),
    ("tier", .u64 server.tier.toUInt64),
    ("enabled", .bool server.enabled),
    ("maintenance", .bool server.maintenance),
    ("secure_core", .bool (server.has FEATURE_SECURE_CORE)),
    ("tor", .bool (server.has FEATURE_TOR)),
    ("p2p", .bool (server.has FEATURE_P2P)),
    ("streaming", .bool (server.has FEATURE_STREAMING)),
    ("ipv6", .bool (server.has FEATURE_IPV6)),
    ("restricted", .bool (server.has FEATURE_B2B)),
    ("partner", .bool (server.has FEATURE_PARTNER)),
    ("smart_routing", .bool server.hostCountryCode.isSome),
    ("host_country_code", orNull server.hostCountryCode),
    ("host_country_name", orNull (server.hostCountryCode.map (countryName names))),
    ("gateway_name", .string server.gateway)]

/-! ## States -/

/-- The states that servers of a country name together with a city.
Source: `catalog.rs` `ServerCatalog::city_states` -/
def ServerCatalog.cityStates (catalog : ServerCatalog) (country city : String) : List String :=
  ((catalog.logicalServers.filter fun server =>
    server.city ≠ "" ∧ trim server.state ≠ "" ∧ server.exitCountry = country ∧
      server.city = city).map LogicalServer.state).dedup

/-- The state of a server; that of its city if it names none and the city has one only.
Source: `catalog.rs` `canonical_state` -/
def canonicalState (catalog : ServerCatalog) (server : LogicalServer) : String :=
  if trim server.state ≠ "" then server.state
  else
    match catalog.cityStates server.exitCountry server.city with
    | [state] => state
    | _ => ""

end ProtonVpnOmarchy.Agent.Catalog
