import ProtonVpnOmarchy.Splitd.Routing.Precedence
import ProtonVpnOmarchy.Splitd.Store

/-!
# The service of the daemon

`main.rs`: the methods that the daemon has on the system bus, over the engine and its state file. A
`System` is the file together with the engine, if the daemon runs; `Happening`s change it, in any
order: starts and stops, calls of any client, process events, and rescans.

What the rest of the system does is part of each happening: how `ip` and the kernel answer, and where a
save stops.
-/

namespace ProtonVpnOmarchy.Splitd.Service

open Std (ExtTreeMap)
open Lib Lib.Fallible Bpf StateStore

/-! ## Errors, methods and replies -/

/-- Source: `fdo::Error`, as far as the daemon makes its errors -/
inductive FdoError where
  | accessDenied (message : String)
  | invalidArgs (message : String)
  | failed (message : String)
  | bus (message : String)
  deriving DecidableEq

/-- Source: `main.rs` `SplitTunnelService` -/
inductive Method (V : Type) where
  | setConfig (uid : UInt16) (config : ExtTreeMap String V)
  | getConfig (uid : UInt16)
  | clearConfig (uid : UInt16)
  | logStatus
  | setDestinationPolicy (uid : UInt16) (ranges : List String)
  | getDestinationPolicy (uid : UInt16)
  | setKillSwitchBypass (uid : UInt16) (enabled : Bool) (routes : List (String × String × String))
  | getAllConfigs

/-- What a method answers. -/
inductive Reply (V : Type) where
  | done
  | config (entries : ExtTreeMap String V)
  | ranges (ranges : List String)
  | configs (configs : List (UInt16 × ExtTreeMap String V))

/-- The caller, as the bus knows it. -/
structure Header where
  sender : Option String
  /-- The answer to `GetConnectionUnixUser` -/
  unixUser : String → Except FdoError UInt32

/-- Source: `main.rs` `SplitTunnelService::caller_uid` -/
def callerUid (header : Header) : Except FdoError UInt32 :=
  match header.sender with
  | none => .error (.accessDenied "D-Bus sender identity missing")
  | some sender => header.unixUser sender

/-- Source: `main.rs` `SplitTunnelService::authorize` -/
def authorize (header : Header) (requested : UInt16) : Except FdoError Unit := do
  let caller ← callerUid header
  if caller = 0 ∨ caller = requested.toUInt32 then return ()
  else .error (.accessDenied "split-tunneling configuration may only target the calling user")

/-! ## Calls -/

/-- How the rest of the system behaves during a call. -/
structure CallEnv where
  header : Header
  /-- `routing::disable` -/
  disable : Routing.IpEnv × Routing.IpState
  /-- `routing::enable` with the routes of the call -/
  enable : Routing.IpEnv × Routing.IpState
  /-- `routing::enable` with the routes that were there before -/
  restore : Routing.IpEnv × Routing.IpState
  reconcile : ReconcileEnv
  rollback : ReconcileEnv
  save : SaveEnv

/-- The engine and its state file -/
structure Daemon where
  engine : Inner
  file : Option String

/-- What the engine saves. -/
def stored (inner : Inner) : StoredState where
  schemaVersion := SCHEMA_VERSION
  configs := inner.configs
  destinationPolicies := inner.destinationPolicies
  killSwitchBypass := inner.killSwitchBypass

/-- What a request of `engine.rs` finds, if its save ends with `save`. -/
def CallEnv.request (env : CallEnv) (uid : UInt16) (inner : Inner) (save : Except IoError Unit) :
    RequestEnv where
  routingEnabled := true
  disable := ((Routing.disable env.disable.1 uid (inner.killSwitchBypass[uid]?.getD [])).exec
    env.disable.2).1
  enable := ((Routing.enable env.restore.1 uid (inner.killSwitchBypass[uid]?.getD [])).exec
    env.restore.2).1
  reconcile := env.reconcile
  save := save
  rollback := env.rollback

section requests

variable (json : StateJson) (text : IpNetText) (env : CallEnv)

/-- The state that a request saves, if it comes to that. -/
def saved (inner : Inner) : Request → Option Inner
  | .setConfig uid config env =>
    if inner.full uid then none
    else
      match removeBypass env uid
        (if env.routingEnabled && !config.hasRules then inner.killSwitchBypass[uid]? else none) inner with
      | .error _ => none
      | .ok inner =>
        match (reconcile text env.reconcile).exec { inner with configs := inner.configs.insert uid config } with
        | (.ok (), inner) => some inner
        | (.error _, _) => none
  | .clearConfig uid env =>
    match removeBypass env uid (if env.routingEnabled then inner.killSwitchBypass[uid]? else none) inner with
    | .error _ => none
    | .ok inner =>
      match (reconcile text env.reconcile).exec { inner with configs := inner.configs.erase uid } with
      | (.ok (), inner) => some inner
      | (.error _, _) => none
  | .setDestinationPolicy uid ranges env =>
    if inner.full uid then none
    else
      match (reconcile text env.reconcile).exec { inner with
          destinationPolicies :=
            if ranges.isEmpty then inner.destinationPolicies.erase uid
            else inner.destinationPolicies.insert uid ranges } with
      | (.ok (), inner) => some inner
      | (.error _, _) => none
  | .reconcile _ => none
  | .event _ _ => none

/-- The save of a request: what it saves does not depend on how the save ends. -/
def saveOf (daemon : Daemon) (request : Request) : Except IoError Unit × Option String :=
  match saved text daemon.engine request with
  | some inner => (StateStore.save json env.save (stored inner)).exec daemon.file
  | none => (.ok (), daemon.file)

/-- A request of `engine.rs` together with the file that it saves to. -/
def perform (uid : UInt16) (request : RequestEnv → Request) : Fallible IoError Daemon Unit :=
  ofFun fun daemon =>
    let (save, file) := saveOf json text env daemon (request (env.request uid daemon.engine (.ok ())))
    let (result, engine) :=
      ((request (env.request uid daemon.engine save)).perform text).exec daemon.engine
    (result, { engine, file })

/-- A save of the engine as it is. -/
def saveEngine : Fallible IoError Daemon Unit := ofFun fun daemon =>
  let (result, file) := (StateStore.save json env.save (stored daemon.engine)).exec daemon.file
  (result, { daemon with file })

/-- Routes that were there before are installed again, if that succeeds. -/
def reinstall (uid : UInt16) (previous : Option (List PhysicalRoute)) (daemon : Daemon) : Daemon :=
  match previous with
  | none => daemon
  | some routes =>
    match ((Routing.enable env.restore.1 uid routes).exec env.restore.2).1 with
    | .error _ => daemon
    | .ok restored =>
      { daemon with engine := { daemon.engine with
          killSwitchBypass := daemon.engine.killSwitchBypass.insert uid restored } }

def Daemon.withBypass (daemon : Daemon) (bypass : BypassMap) : Daemon :=
  { daemon with engine := { daemon.engine with killSwitchBypass := bypass } }

/-- Source: `engine.rs` `Engine::set_kill_switch_bypass` -/
def setKillSwitchBypass (uid : UInt16) (enabled : Bool) (routes : List PhysicalRoute) :
    Fallible IoError Daemon Unit := ofFun fun daemon =>
  let bypass := daemon.engine.killSwitchBypass
  let previous := bypass[uid]?
  let disabled := ((Routing.disable env.disable.1 uid (previous.getD [])).exec env.disable.2).1
  if enabled && !daemon.engine.configs[uid]?.any SplitConfig.hasRules then
    (.error { kind := .invalidInput
              message := "kill-switch bypass requires an active split-tunneling policy" }, daemon)
  else if enabled then
    if previous = some routes then (.ok (), daemon)
    else
      match if previous.isSome then disabled else .ok () with
      | .error error => (.error error, daemon)
      | .ok () =>
        let daemon := daemon.withBypass (bypass.erase uid)
        match ((Routing.enable env.enable.1 uid routes).exec env.enable.2).1 with
        | .error error => (.error error, reinstall env uid previous daemon)
        | .ok installed =>
          match (saveEngine json env).exec (daemon.withBypass ((bypass.erase uid).insert uid installed)) with
          | (.ok (), daemon) => (.ok (), daemon)
          | (.error error, daemon) =>
            (.error error, reinstall env uid previous
              (daemon.withBypass (daemon.engine.killSwitchBypass.erase uid)))
  else
    match previous with
    | none => (.ok (), daemon)
    | some _ =>
      match disabled with
      | .error error => (.error error, daemon)
      | .ok () =>
        match (saveEngine json env).exec (daemon.withBypass (bypass.erase uid)) with
        | (.ok (), daemon) => (.ok (), daemon)
        | (.error error, daemon) => (.error error, reinstall env uid previous daemon)

end requests

/-- An error of the engine -/
def failed {α : Type} (result : Except IoError α) : Except FdoError α :=
  result.mapError fun error => .failed error.message

def invalidArgs {α : Type} (result : Except String α) : Except FdoError α :=
  result.mapError .invalidArgs

/-- A method that changes the engine, after its arguments were read. -/
def change {V : Type} (result : Except FdoError (Fallible IoError Daemon Unit)) (daemon : Daemon) :
    Except FdoError (Reply V) × Daemon :=
  match result with
  | .error error => (.error error, daemon)
  | .ok request => ((failed (request.exec daemon).1).map fun () => .done, (request.exec daemon).2)

/-- Source: `main.rs` `SplitTunnelService::set_kill_switch_bypass` -/
def parseRoutes (routes : List (String × String × String)) : Except FdoError (List PhysicalRoute) :=
  if 8 < routes.length then .error (.invalidArgs "at most eight physical routes are accepted")
  else invalidArgs (routes.mapM fun route => PhysicalRoute.parse route.1 route.2.1 route.2.2)

section call

variable {V : Type} (json : StateJson) (text : IpNetText) (values : OwnedValues V)

/-- Source: `main.rs` `SplitTunnelService` -/
def call (env : CallEnv) (daemon : Daemon) : Method V → Except FdoError (Reply V) × Daemon
  | .setConfig uid config => change (do
      authorize env.header uid
      let config ← invalidArgs (configFromDbus values text config)
      return perform json text env uid (.setConfig uid config)) daemon
  | .getConfig uid => (do
      authorize env.header uid
      match daemon.engine.configs[uid]? with
      | none => return .config ∅
      | some config => .config <$> (configToDbus values config).mapError .failed, daemon)
  | .clearConfig uid => change (do
      authorize env.header uid
      return perform json text env uid (.clearConfig uid)) daemon
  | .logStatus => (.ok .done, daemon)
  | .setDestinationPolicy uid ranges => change (do
      authorize env.header uid
      let ranges ← invalidArgs (validateIpRanges text ranges)
      return perform json text env uid (.setDestinationPolicy uid ranges)) daemon
  | .getDestinationPolicy uid => (do
      authorize env.header uid
      return .ranges (daemon.engine.destinationPolicies[uid]?.getD []), daemon)
  | .setKillSwitchBypass uid enabled routes => change (do
      authorize env.header uid
      let routes ← parseRoutes routes
      return setKillSwitchBypass json env uid enabled routes) daemon
  | .getAllConfigs => (do
      let caller ← callerUid env.header
      let configs ← (daemon.engine.configs.toList.filter fun entry =>
        caller = 0 || entry.1.toUInt32 = caller).mapM fun entry => do
          return (entry.1, ← (configToDbus values entry.2).mapError .failed)
      return .configs configs, daemon)

/-! ## The daemon over time -/

/-- How the rest of the system behaves during a start. -/
structure StartEnv where
  load : LoadEnv
  disable : UInt16 → Routing.IpEnv × Routing.IpState
  save : SaveEnv
  reconcile : ReconcileEnv
  /-- `ProcessConnector::spawn`, and the registration on the bus -/
  connect : Except IoError Unit

/-- Routes of the last run are removed. -/
def removeStale (env : StartEnv) (bypass : BypassMap) : Except IoError Unit :=
  bypass.toList.forM fun entry =>
    ((Routing.disable (env.disable entry.1).1 entry.1 entry.2).exec (env.disable entry.1).2).1

/-- The routes that were removed are taken out of the file. -/
def forgetStale (json : StateJson) (env : StartEnv) (loaded : LoadedState) :
    Fallible IoError (Option String) Unit :=
  if loaded.killSwitchBypass.isEmpty then pure ()
  else StateStore.save json env.save
    { schemaVersion := SCHEMA_VERSION
      configs := loaded.configs
      destinationPolicies := loaded.destinationPolicies
      killSwitchBypass := ∅ }

/-- Source: `engine.rs` `Engine::with_store` -/
def start (env : StartEnv) : Fallible IoError (Option String) Inner := ofFun fun file =>
  match load json text env.load file with
  | .error error => (.error error, file)
  | .ok loaded =>
    match removeStale env loaded.killSwitchBypass with
    | .error error => (.error error, file)
    | .ok () =>
      match (forgetStale json env loaded).exec file with
      | (.error error, file) => (.error error, file)
      | (.ok (), file) =>
        match (reconcile text env.reconcile).exec
          { configs := loaded.configs, destinationPolicies := loaded.destinationPolicies } with
        | (.error error, _) => (.error error, file)
        | (.ok (), inner) => (env.connect.map fun () => inner, file)

/-- The state file, and the engine while the daemon runs -/
structure System where
  file : Option String := none
  engine : Option Inner := none

/-- What can happen to the daemon. -/
inductive Happening (V : Type) where
  | start (env : StartEnv)
  | call (env : CallEnv) (method : Method V)
  | event (event : ProcessEvent) (env : EventEnv)
  | rescan (env : ReconcileEnv)
  | stop

def System.step (system : System) : Happening V → System
  | .start env =>
    match system.engine with
    | some _ => system
    | none =>
      match (start json text env).exec system.file with
      | (.ok engine, file) => { file, engine := some engine }
      | (.error _, file) => { file, engine := none }
  | .call env method =>
    match system.engine with
    | none => system
    | some engine =>
      let after := (call json text values env { engine, file := system.file } method).2
      { file := after.file, engine := some after.engine }
  | .event event env =>
    { system with engine := system.engine.map fun engine => ((handleEvent env event).exec engine).2 }
  | .rescan env =>
    { system with engine := system.engine.map fun engine => ((reconcile text env).exec engine).2 }
  | .stop => { system with engine := none }

/-- After a fresh installation -/
def System.after (happenings : List (Happening V)) : System :=
  happenings.foldl (System.step json text values) {}

end call

end ProtonVpnOmarchy.Splitd.Service
