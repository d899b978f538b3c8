import ProtonVpnOmarchy.Agent.Network.Connections
import ProtonVpnOmarchy.Agent.Runtime.Basic

/-!
# Tunnels of NetworkManager

The functions of `network.rs` that bring up, observe and take down the tunnels, as programs that call
NetworkManager. Between two calls other clients, and other tasks of the agent, may do whatever they want;
every call may fail, by a parameter, and one that fails may have had its effect.

* `observeMatching`, `connect`, `disconnectUuid`, `cleanupGuestProfiles` — the programs.
* `act` — what the calls do to the profiles and the active connections.
-/

namespace ProtonVpnOmarchy.Agent.Network.Tunnels

open Lib Native

/-! ## Settings -/

def GUEST_HOLE_PURPOSE : String := "proton-omarchy-guest-hole"

/-- A text of the section `connection`. -/
def connectionString (settings : Settings) (key : String) : Option String :=
  ((settings.lookup "connection").bind (·.lookup key)).bind Property.asStr

/-- Source: `network.rs` `connection_owned` -/
def connectionOwned (settings : Settings) : Bool :=
  connectionString settings "stable-id" = some PROTON_OMARCHY_STABLE_ID

/-- Source: `network.rs` `profile_owned` -/
def profileOwned (settings : Settings) : Bool :=
  vpnDataString settings PROTON_OMARCHY_OWNER_KEY = some PROTON_OMARCHY_OWNER_VALUE ||
    connectionOwned settings

theorem profileOwned_of_stableId {settings : Settings}
    (h : connectionString settings "stable-id" = some PROTON_OMARCHY_STABLE_ID) :
    profileOwned settings = true := by
  simp [profileOwned, connectionOwned, h]

/-- What `connect` reads of a profile: a `VpnProfile`, or a `ProtunProfile` for the recovery. -/
structure NewProfile where
  id : String
  uuid : String
  protocol : String
  profileId : Option String
  settings : Settings
  /-- It is an OpenVPN profile, whose credentials are files. -/
  openVpn : Bool
  uuid_eq : connectionString settings "uuid" = some uuid
  owned : profileOwned settings = true

/-- Source: `network.rs` `VpnProfile::id`, `uuid`, `protocol`, `profile_id`, `dbus_settings` -/
def NewProfile.ofVpnProfile : VpnProfile → NewProfile
  | .protun profile =>
    { id := profile.id
      uuid := profile.uuid
      protocol := profile.protocol
      profileId := profile.profileId
      settings := profile.dbusSettings
      openVpn := false
      uuid_eq := rfl
      owned := profileOwned_of_stableId rfl }
  | .openVpn profile =>
    { id := profile.id
      uuid := profile.uuid
      protocol := profile.protocol
      profileId := profile.profileId
      settings := profile.dbusSettings
      openVpn := true
      uuid_eq := rfl
      owned := profileOwned_of_stableId rfl }

/-- A profile for the recovery of a user; what its peer is made of is in `settingsJson`. As with other
profiles, the permissions and the addresses are left out.
Source: `network.rs` `ProtunProfile::guest`, `dbus_settings` -/
def NewProfile.guest (uuid settingsJson privateKey interface uid : String) : NewProfile where
  id := "ProtonVPN Guest Hole"
  uuid := uuid
  protocol := "protun-tls"
  profileId := none
  settings :=
    [("connection", [
        ("id", .string "ProtonVPN Guest Hole"),
        ("uuid", .string uuid),
        ("type", .string "vpn"),
        ("llmnr", .int 0),
        ("stable-id", .string PROTON_OMARCHY_STABLE_ID),
        ("interface-name", .string interface),
        ("autoconnect", .bool false)]),
      ("vpn", [
        ("service-type", .string PROTUN_SERVICE),
        ("data", .dict [
          ("settings", settingsJson),
          ("private-key-flags", "0"),
          (PROTON_OMARCHY_OWNER_KEY, PROTON_OMARCHY_OWNER_VALUE),
          (GUEST_HOLE_PURPOSE, uid)]),
        ("secrets", .dict [("private-key", privateKey)]),
        ("persistent", .bool false)])]
  openVpn := false
  uuid_eq := rfl
  owned := profileOwned_of_stableId rfl

/-! ## Calls -/

/-- A call over D-Bus, or the removal of credentials. -/
inductive Call where
  /-- `Connection::new_system` -/
  | systemBus
  | activeConnections
  /-- The properties `Vpn`, `Connection`, `Uuid`, `Id`, `VpnState` and `Type` of an active connection -/
  | activeVpn (path : String)
  | activeConnection (path : String)
  | activeUuid (path : String)
  | activeId (path : String)
  | vpnState (path : String)
  | activeType (path : String)
  | primaryConnection
  | listConnections
  | getSettings (path : String)
  | addConnectionUnsaved (settings : Settings)
  | activateConnection (path specificObject : String)
  | deactivateConnection (path : String)
  | delete (path : String)
  /-- `cleanup_openvpn_credentials`, whose errors are ignored -/
  | cleanupCredentials (uuid : String)

/-- The result of a call, with the text of its error. -/
abbrev Call.Answer : Call → Type
  | .systemBus => Except String Unit
  | .activeConnections => Except String (List String)
  | .activeVpn _ => Except String Bool
  | .activeConnection _ => Except String String
  | .activeUuid _ => Except String String
  | .activeId _ => Except String String
  | .vpnState _ => Except String UInt32
  | .activeType _ => Except String String
  | .primaryConnection => Except String String
  | .listConnections => Except String (List String)
  | .getSettings _ => Except String Settings
  | .addConnectionUnsaved _ => Except String String
  | .activateConnection .. => Except String String
  | .deactivateConnection _ => Except String Unit
  | .delete _ => Except String Unit
  | .cleanupCredentials _ => Unit

abbrev Task := Dialogue Call Call.Answer

/-- Make a call. -/
abbrev request (call : Call) : Task call.Answer := Dialogue.answer call

/-- A call whose error is passed on. -/
def required {α : Type} (action : String) (task : Task (Except String α)) : Task (NativeResult α) := do
  return (← task).mapError (nmError action)

/-! ## Observation -/

/-- Source: `network.rs` `TunnelObservation` -/
structure TunnelObservation where
  state : Runtime.TunnelState
  activePath : Option String
  connectionPath : Option String
  id : Option String
  uuid : Option String
  protocol : Option String
  endpoint : Option String
  profileId : Option String
  owned : Bool

/-- No tunnel is found. -/
def TunnelObservation.absent : TunnelObservation where
  state := .disconnected
  activePath := none
  connectionPath := none
  id := none
  uuid := none
  protocol := none
  endpoint := none
  profileId := none
  owned := false

/-- The state of a tunnel, by the number that NetworkManager has for it. -/
def tunnelState (vpnState : UInt32) : Runtime.TunnelState :=
  if vpnState = 5 then .connected
  else if vpnState = 1 ∨ vpnState = 2 ∨ vpnState = 3 ∨ vpnState = 4 then .connecting
  else if vpnState = 6 then .error
  else .disconnected

/-- The active connection is looked for: the one with a UUID, or any that is not of the recovery. -/
def isLookedFor (uuid : Option String) (path : String) (settings : Settings) : Task Bool :=
  match uuid with
  | some uuid => return (← request (.activeUuid path)).toOption = some uuid
  | none => return (vpnDataString settings GUEST_HOLE_PURPOSE).isNone

section observation

variable (outside : Outside)

/-- An active connection, if it is a tunnel that is looked for. -/
def observeActive (uuid : Option String) (path : String) : Task (Option TunnelObservation) := do
  if !((← request (.activeVpn path)).toOption.getD false) then return none
  else
    match ← request (.activeConnection path) with
    | .error _ => return none
    | .ok connectionPath =>
      match ← request (.getSettings connectionPath) with
      | .error _ => return none
      | .ok settings =>
        if !(← isLookedFor uuid path settings) then return none
        else if serviceType settings ∉ [some PROTUN_SERVICE, some OPENVPN_SERVICE] then return none
        else
          let vpnState := (← request (.vpnState path)).toOption.getD 0
          let id := (← request (.activeId path)).toOption
          let uuid := (← request (.activeUuid path)).toOption
          return some
            { state := tunnelState vpnState
              activePath := some path
              connectionPath := some connectionPath
              id
              uuid
              protocol := profileProtocol outside settings
              endpoint := profileEndpoint outside settings
              profileId := if profileOwned settings then profileStoreId settings else none
              owned := profileOwned settings }

/-- The first of the active connections that is looked for. -/
def observeAmong (uuid : Option String) : List String → Task TunnelObservation
  | [] => return .absent
  | path :: paths => do
    match ← observeActive outside uuid path with
    | some observation => return observation
    | none => observeAmong uuid paths

/-- Source: `network.rs` `observe_matching` -/
def observeMatching (uuid : Option String) : Task (NativeResult TunnelObservation) :=
  (required "connect to NetworkManager" (request .systemBus)).andThen fun _ =>
    (required "list active NetworkManager connections" (request .activeConnections)).andThen
      fun paths => return .ok (← observeAmong outside uuid paths)

/-- Source: `network.rs` `observe` -/
def observe : Task (NativeResult TunnelObservation) := observeMatching outside none

/-- Source: `network.rs` `observe_uuid` -/
def observeUuid (uuid : String) : Task (NativeResult TunnelObservation) :=
  observeMatching outside (some uuid)

end observation

/-! ## Connecting -/

/-- Source: `network.rs` `best_parent` -/
def bestParent : Task (Option String) := do
  match ← request .primaryConnection with
  | .error _ => return none
  | .ok primary =>
    if primary = "/" then return none
    else
      match ← request (.activeType primary) with
      | .error _ => return none
      | .ok kind =>
        return if kind ∈ ["802-3-ethernet", "802-11-wireless", "gsm", "cdma", "bridge"] then
          some primary else none

/-- Source: `network.rs` `VpnProfile::cleanup_credentials` -/
def NewProfile.cleanupCredentials (profile : NewProfile) : Task Unit :=
  if profile.openVpn then request (.cleanupCredentials profile.uuid) else pure ()

/-- Source: `network.rs` `connect` -/
def connect (profile : NewProfile) : Task (NativeResult TunnelObservation) :=
  (required "connect to NetworkManager" (request .systemBus)).andThen fun _ => do
    match ← request (.addConnectionUnsaved profile.settings) with
    | .error error =>
      profile.cleanupCredentials
      return .error (nmError "create the temporary Proton VPN profile" error)
    | .ok connectionPath =>
      let specificObject := (← bestParent).getD "/"
      match ← request (.activateConnection connectionPath specificObject) with
      | .error error =>
        let _ ← request (.delete connectionPath)
        profile.cleanupCredentials
        return .error (nmError "activate the Proton VPN profile" error)
      | .ok activePath =>
        return .ok
          { state := .connecting
            activePath := some activePath
            connectionPath := some connectionPath
            id := some profile.id
            uuid := some profile.uuid
            protocol := some profile.protocol
            endpoint := none
            profileId := profile.profileId
            owned := true }

/-! ## Disconnecting -/

/-- Source: `network.rs` `disconnect_observation` -/
def disconnectObservation (observation : TunnelObservation) : Task (NativeResult Bool) :=
  match observation.activePath with
  | none => return .ok false
  | some activePath =>
    (required "connect to NetworkManager" (request .systemBus)).andThen fun _ =>
      (required "deactivate the Proton VPN connection"
        (request (.deactivateConnection activePath))).andThen fun _ => do
        match observation.connectionPath with
        | none => return .ok true
        | some connectionPath =>
          let _ ← request (.delete connectionPath)
          return .ok true

/-- Source: `network.rs` `delete_inactive_owned_profile`, the profiles among listed paths -/
def deleteAmong (uuid : String) : List String → Task (NativeResult Unit)
  | [] => return .ok ()
  | path :: paths => do
    match ← request (.getSettings path) with
    | .error _ => deleteAmong uuid paths
    | .ok values =>
      if connectionString values "uuid" = some uuid ∧ profileOwned values then
        (required "delete temporary profile" (request (.delete path))).andThen
          fun _ => deleteAmong uuid paths
      else deleteAmong uuid paths

/-- Source: `network.rs` `delete_inactive_owned_profile` -/
def deleteInactiveOwnedProfile (uuid : String) : Task (NativeResult Unit) :=
  (required "connect to NetworkManager" (request .systemBus)).andThen fun _ =>
    (required "list temporary profiles" (request .listConnections)).andThen
      fun paths => deleteAmong uuid paths

section disconnection

variable (outside : Outside)

/-- Source: `network.rs` `disconnect_uuid`, up to the removal of the credentials -/
def disconnectObserved (uuid : String) : Task (NativeResult Bool) :=
  (observeUuid outside uuid).andThen fun observation =>
    if observation.uuid = some uuid then disconnectObservation observation else return .ok false

/-- Source: `network.rs` `disconnect_uuid` -/
def disconnectUuid (expectedUuid : String) : Task (NativeResult Bool) :=
  (disconnectObserved outside expectedUuid).andThen fun disconnected => do
    request (.cleanupCredentials expectedUuid)
    (deleteInactiveOwnedProfile expectedUuid).andThen fun _ => return .ok disconnected

/-- A profile for the recovery of a user. -/
def isGuest (uid : String) (settings : Settings) : Bool :=
  vpnDataString settings GUEST_HOLE_PURPOSE = some uid && profileOwned settings

/-- Source: `network.rs` `cleanup_guest_profiles`, the profiles among listed paths -/
def cleanupAmong (uid : String) : List String → Task (NativeResult Unit)
  | [] => return .ok ()
  | path :: paths => do
    match ← request (.getSettings path) with
    | .error _ => cleanupAmong uid paths
    | .ok values =>
      match if isGuest uid values then connectionString values "uuid" else none with
      | none => cleanupAmong uid paths
      | some uuid => (disconnectUuid outside uuid).andThen fun _ => cleanupAmong uid paths

/-- Source: `network.rs` `cleanup_guest_profiles`; `uid` is the user that the agent runs for. -/
def cleanupGuestProfiles (uid : String) : Task (NativeResult Unit) :=
  (required "connect to NetworkManager" (request .systemBus)).andThen fun _ =>
    (required "list recovery profiles" (request .listConnections)).andThen
      fun paths => cleanupAmong outside uid paths

end disconnection

/-! ## What the calls do -/

/-- Object paths and UUIDs. NetworkManager gives no path to two objects, and nobody else draws a UUID of
this agent, so what a path or a UUID stands for does not depend on the time. -/
structure Naming where
  /-- The path of a profile of this agent. -/
  mine : String → Bool
  /-- The profile of an active connection. -/
  profile : String → String
  /-- A UUID of a profile of this agent. -/
  drawn : String → Bool

/-- What NetworkManager holds, and the credentials by the UUIDs they are for. -/
structure World (naming : Naming) where
  profiles : Finset String
  settings : String → Settings
  active : Finset String
  credentials : Finset String
  profile_mem : ∀ path ∈ active, naming.profile path ∈ profiles
  mine_eq : ∀ path ∈ profiles, naming.mine path = profileOwned (settings path)
  drawn_eq : ∀ path ∈ profiles, ∀ uuid, connectionString (settings path) "uuid" = some uuid →
    naming.drawn uuid = naming.mine path

section acts

variable {naming : Naming} {α : Type}

/-- The data of a world. -/
def World.data (w : World naming) :
    Finset String × (String → Settings) × Finset String × Finset String :=
  (w.profiles, w.settings, w.active, w.credentials)

/-- A call that reads a value, or fails. -/
def Reads (fails : Prop) (value : α → Prop) (before : World naming) (answer : Except String α)
    (after : World naming) : Prop :=
  after = before ∧ ((∃ a, answer = .ok a ∧ value a) ∨ fails ∧ ∃ error, answer = .error error)

/-- A call with an effect; one that fails may have had it. -/
def Changes (fails : Prop) (effect : α → World naming → Prop) (before : World naming)
    (answer : Except String α) (after : World naming) : Prop :=
  (∃ a, answer = .ok a ∧ effect a after) ∨
    fails ∧ (∃ error, answer = .error error) ∧ (after = before ∨ ∃ a, effect a after)

/-- How a call acts. What has no effect here and says nothing about profiles may be answered at
will. -/
def act (naming : Naming) (fails : Call → Prop) :
    (call : Call) → World naming → call.Answer → World naming → Prop
  | .systemBus, w, answer, w' => Reads (fails .systemBus) (fun _ => True) w answer w'
  | .activeConnections, w, answer, w' =>
    Reads (fails .activeConnections) (fun paths : List String => paths.toFinset = w.active) w
      answer w'
  | .activeVpn path, w, answer, w' =>
    Reads (fails (.activeVpn path) ∨ path ∉ w.active) (fun _ => True) w answer w'
  | .activeConnection path, w, answer, w' =>
    Reads (fails (.activeConnection path) ∨ path ∉ w.active)
      (fun profile => path ∈ w.active ∧ profile = naming.profile path) w answer w'
  | .activeUuid path, w, answer, w' =>
    Reads (fails (.activeUuid path) ∨ path ∉ w.active)
      (fun uuid => path ∈ w.active ∧
        connectionString (w.settings (naming.profile path)) "uuid" = some uuid) w answer w'
  | .activeId path, w, answer, w' =>
    Reads (fails (.activeId path) ∨ path ∉ w.active) (fun _ => True) w answer w'
  | .vpnState path, w, answer, w' =>
    Reads (fails (.vpnState path) ∨ path ∉ w.active) (fun _ => True) w answer w'
  | .activeType path, w, answer, w' =>
    Reads (fails (.activeType path) ∨ path ∉ w.active) (fun _ => True) w answer w'
  | .primaryConnection, w, answer, w' =>
    Reads (fails .primaryConnection) (fun _ => True) w answer w'
  | .listConnections, w, answer, w' =>
    Reads (fails .listConnections) (fun paths : List String => paths.toFinset = w.profiles) w
      answer w'
  | .getSettings path, w, answer, w' =>
    Reads (fails (.getSettings path) ∨ path ∉ w.profiles)
      (fun settings => path ∈ w.profiles ∧ settings = w.settings path) w answer w'
  | .addConnectionUnsaved settings, w, answer, w' =>
    Changes (fails (.addConnectionUnsaved settings))
      (fun path after => path ∉ w.profiles ∧ after.data =
        (insert path w.profiles, Function.update w.settings path settings, w.active,
          w.credentials)) w answer w'
  | .activateConnection path specificObject, w, answer, w' =>
    Changes (fails (.activateConnection path specificObject) ∨ path ∉ w.profiles)
      (fun new after => path ∈ w.profiles ∧ new ∉ w.active ∧ naming.profile new = path ∧
        after.data = (w.profiles, w.settings, insert new w.active, w.credentials)) w answer w'
  | .deactivateConnection path, w, answer, w' =>
    Changes (fails (.deactivateConnection path) ∨ path ∉ w.active)
      (fun _ after => path ∈ w.active ∧
        after.data = (w.profiles, w.settings, w.active.erase path, w.credentials)) w answer w'
  | .delete path, w, answer, w' =>
    Changes (fails (.delete path) ∨ path ∉ w.profiles)
      (fun _ after => path ∈ w.profiles ∧ after.data =
        (w.profiles.erase path, w.settings, w.active.filter (naming.profile · ≠ path),
          w.credentials)) w answer w'
  | .cleanupCredentials uuid, w, _, w' =>
    w' = w ∨ w'.data = (w.profiles, w.settings, w.active, w.credentials.erase uuid)

end acts

end ProtonVpnOmarchy.Agent.Network.Tunnels
