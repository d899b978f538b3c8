import ProtonVpnOmarchy.Agent.Protocol
import ProtonVpnOmarchy.Lib.Dialogue

/-!
# The native runtime

The requests and the background tasks of `native_backend/mod.rs` that work on the tunnel, as dialogues
with what they share: the attempt counter, the mutexes, the recorded uuid of the tunnel, NetworkManager,
the split service, the Local Agent and the settings. One question is one uninterrupted access; between
two questions any other task may run. A worker that panics answers with an error, as `join_error` does,
and what is only published (stages, features) is left out.
-/

namespace ProtonVpnOmarchy.Agent.Runtime

open Lib

abbrev NativeError := BackendError

abbrev NativeResult := Except NativeError

/-- The asynchronous mutexes that order the tasks of the runtime; `recovery` is the one of
`guest_hole.rs` `Recovery`. -/
inductive Mutex where
  | auth
  | recovery
  | network
  | settings
  | splitRoute
  deriving DecidableEq

/-- Source: `network.rs` `TunnelState` -/
inductive TunnelState where
  | disconnected
  | connecting
  | connected
  | error
  deriving DecidableEq

/-- Source: `network.rs` `TunnelObservation` -/
structure TunnelObservation where
  state : TunnelState
  uuid : Option String
  owned : Bool
  deriving DecidableEq

/-- Source: `models.rs` `NativeSettings` -/
structure NativeSettings where
  killswitch : UInt8 := 0
  ipv6LeakProtection : Bool := true
  splitTunneling : Bool := false
  allowLanConnections : Bool := false
  allowLocalDns : Bool := false
  deriving DecidableEq

/-- Source: `catalog.rs` `ConnectionTarget` -/
structure ConnectionTarget where
  domain : String
  entryIp : String
  deriving DecidableEq

/-- Source: `local_agent.rs` `AgentSnapshot` -/
structure AgentSnapshot where
  connected : Bool := false
  hardJailed : Bool := false
  reason : Option String := none
  deriving DecidableEq

/-- Source: `local_agent.rs` `AgentUpdate`; a status comes as the snapshot that is made of it -/
inductive AgentUpdate where
  | status (snapshot : AgentSnapshot)
  | error (text : String)
  | stopped
  deriving DecidableEq

/-- The queue of updates of a Local Agent. -/
abbrev Queue := ℕ

/-- What `connection_connect` finds out about a request before it touches the network. -/
structure Plan where
  target : ConnectionTarget
  globalSettings : NativeSettings
  settings : NativeSettings
  protocol : String
  deriving DecidableEq

/-- Computations that can fail and change nothing that is modelled here. -/
inductive Computation where
  /-- A request to the Proton API, apart from its recovery -/
  | api
  /-- `require_session` -/
  | session
  /-- The parameters of a request, and the other checks before its first write -/
  | params
  /-- A file or the secret store is written. -/
  | persist
  deriving DecidableEq

/-- What a task waits for in a `select!` with `wait_for_connection_cancel`. -/
inductive Future where
  | prepared
  | lock (mutex : Mutex)
  | agent (domain : String)
  | ready (queue : Queue)
  deriving DecidableEq

/-- The outer error of `ready` is the end of its time. -/
abbrev Future.Result : Future → Type
  | .prepared => NativeResult Unit
  | .lock _ => Unit
  | .agent _ => NativeResult Queue
  | .ready _ => Except Unit (NativeResult AgentSnapshot)

/-- Where the tunnel is looked at. -/
inductive Site where
  | request
  | polling
  | cleanup
  | background
  deriving DecidableEq

/-- What a task asks of the rest. -/
inductive Query where
  /-- `connection_attempt.fetch_add(1)`, and the number after it -/
  | nextAttempt
  /-- `connection_attempt.load()` -/
  | loadAttempt
  | lock (mutex : Mutex)
  | unlock (mutex : Mutex)
  /-- `try_lock` -/
  | tryLock (mutex : Mutex)
  /-- A future that is not ready when `wait_for_connection_cancel` looks again answers `none`. -/
  | poll (future : Future)
  | compute (computation : Computation)
  /-- The settings, the catalog and the client configuration are read for a request. -/
  | plan
  /-- `observe_blocking` -/
  | observe (site : Site)
  /-- `owned_connection_uuid` -/
  | ownedUuid
  | setOwnedUuid (uuid : Option String)
  /-- `VpnProfile::new`, and the uuid it gets -/
  | newProfile
  /-- `network.conflicting_interfaces()` -/
  | conflictingInterfaces
  /-- `state.settings` -/
  | settings
  /-- `state.selected` -/
  | selected
  | setSelected (target : Option ConnectionTarget)
  /-- `network.reconcile_kill_switch` -/
  | killSwitch (mode : UInt8) (active : Bool) (serverIp : Option String) (ipv6 : Bool)
  /-- `network.connect` -/
  | connect (uuid : String)
  /-- `network.disconnect_uuid` -/
  | disconnectUuid (uuid : String)
  /-- `split_kill_switch_bypass_active` -/
  | splitBypassActive
  | setSplitBypassActive (active : Bool)
  /-- `network.physical_default_routes()` -/
  | physicalDefaultRoutes
  /-- `split_tunnel.set_kill_switch_bypass` -/
  | setKillSwitchBypass (enabled : Bool) (routes : List String)
  /-- `destination_policy_available` -/
  | policyAvailable
  /-- The ranges for LAN and local DNS are sent to the split service. -/
  | applyRanges (allowLan allowLocalDns : Bool)
  /-- `destination_policy_override` -/
  | policyOverride
  | setPolicyOverride (override : Option (Bool × Bool))
  /-- `local_agent::start` -/
  | startAgent (domain : String)
  | setLocalAgent (agent : Option Queue)
  /-- `local_agent_snapshot` -/
  | setSnapshot (snapshot : AgentSnapshot)
  /-- `wait_for_local_agent_ready` with its timeout -/
  | ready (queue : Queue)
  /-- `updates.recv()` -/
  | receive (queue : Queue)
  /-- `tokio::spawn` of `watch_local_agent` -/
  | spawnWatch (queue : Queue) (attempt : ℕ)
  /-- `emit_connection`, which also completes `state.selected` -/
  | emitConnection (observation : TunnelObservation) (error : Option String)
  /-- Whether a session is there, and the selected target -/
  | restorable
  /-- `restore_saved_session` -/
  | restoreSaved
  /-- `persist_settings` -/
  | persistSettings (settings : NativeSettings)
  /-- `Instant::now() >= deadline` -/
  | deadlinePassed
  /-- At least two seconds have passed since the activation. -/
  | twoSecondsPassed
  | sleep
  /-- Whatever decides between two ways through a function that is not modelled further -/
  | choose

abbrev Query.Answer : Query → Type
  | .nextAttempt => ℕ
  | .loadAttempt => ℕ
  | .tryLock _ => Bool
  | .poll future => Option future.Result
  | .compute _ => NativeResult Unit
  | .plan => NativeResult Plan
  | .observe _ => NativeResult TunnelObservation
  | .ownedUuid => Option String
  | .newProfile => NativeResult String
  | .conflictingInterfaces => NativeResult (List String)
  | .settings => NativeSettings
  | .selected => Option ConnectionTarget
  | .killSwitch .. => NativeResult Unit
  | .connect _ => NativeResult Unit
  | .disconnectUuid _ => NativeResult Unit
  | .splitBypassActive => Bool
  | .physicalDefaultRoutes => NativeResult (List String)
  | .setKillSwitchBypass .. => NativeResult Unit
  | .policyAvailable => Bool
  | .applyRanges .. => NativeResult Unit
  | .policyOverride => Option (Bool × Bool)
  | .startAgent _ => NativeResult Queue
  | .ready _ => Except Unit (NativeResult AgentSnapshot)
  | .receive _ => Option AgentUpdate
  | .restorable => Option ConnectionTarget
  | .restoreSaved => NativeResult Bool
  | .persistSettings _ => NativeResult Unit
  | .deadlinePassed => Bool
  | .twoSecondsPassed => Bool
  | .choose => Bool
  | .lock _ | .unlock _ | .setOwnedUuid _ | .setSelected _ | .setSplitBypassActive _
  | .setPolicyOverride _ | .setLocalAgent _ | .setSnapshot _ | .spawnWatch .. | .emitConnection ..
  | .sleep => Unit

abbrev Task := Dialogue Query Query.Answer

abbrev Event := Dialogue.Event Query Query.Answer

/-- Ask a question. -/
abbrev ask (query : Query) : Task query.Answer := Dialogue.answer query

/-- A guard that lives as long as the task it is for. -/
def guarded {α : Type} (mutex : Mutex) (task : Task α) : Task α := do
  ask (.lock mutex)
  let result ← task
  ask (.unlock mutex)
  return result

/-- The operator `?`, before the rest of a function. -/
def orReturn {α β : Type} (task : Task (NativeResult α)) (next : α → Task (NativeResult β)) :
    Task (NativeResult β) := do
  match ← task with
  | .error error => return .error error
  | .ok value => next value

/-! ## Attempts -/

def connectionCancelled : NativeError :=
  .new "connection_cancelled" "VPN connection attempt was cancelled"

/-- Source: `mod.rs` `check_connection_attempt` -/
def checkConnectionAttempt (attempt : ℕ) : Task (NativeResult Unit) := do
  if (← ask .loadAttempt) = attempt then return .ok ()
  else return .error connectionCancelled

/-- Source: `mod.rs` `wait_for_connection_cancel` in a biased `select!` with another future. The
counter is looked at before the future, and again after every sleep. -/
def unlessCancelled (attempt : ℕ) (future : Future) : Task (NativeResult future.Result) :=
  .loop (fun _ : Unit => do
    match ← checkConnectionAttempt attempt with
    | .error error => return .inr (.error error)
    | .ok () =>
      match ← ask (.poll future) with
      | some result => return .inr (.ok result)
      | none => return .inl ()) () pure

/-! ## Bypasses and policies -/

/-- Source: `mod.rs` `reconcile_split_kill_switch_bypass`, the call of the split service -/
def bypassKillSwitch (enabled : Bool) : Task (NativeResult Unit) :=
  orReturn (if enabled then ask .physicalDefaultRoutes else pure (.ok [])) fun routes =>
    orReturn (ask (.setKillSwitchBypass enabled routes)) fun _ => do
      ask (.setSplitBypassActive enabled)
      return .ok ()

/-- Source: `mod.rs` `reconcile_split_kill_switch_bypass` -/
def reconcileSplitKillSwitchBypass (settings : NativeSettings) (tunnelActive : Bool) :
    Task (NativeResult Unit) :=
  let combinationConfigured := settings.killswitch ≠ 0 && settings.splitTunneling
  let enabled := tunnelActive && combinationConfigured
  guarded .splitRoute do
    let needed ←
      (if enabled || combinationConfigured then pure true else ask .splitBypassActive : Task Bool)
    if needed then bypassKillSwitch enabled else return .ok ()

/-- Source: `mod.rs` `apply_destination_policy` -/
def applyDestinationPolicy (settings : NativeSettings) : Task (NativeResult Unit) := do
  if ← ask .policyAvailable then
    ask (.applyRanges settings.allowLanConnections settings.allowLocalDns)
  else
    return .error (.new "destination_policy_unavailable"
      "LAN and local DNS policy require the Proton Omarchy Rust split service")

/-- Source: `mod.rs` `apply_connection_destination_policy` -/
def applyConnectionDestinationPolicy (globalSettings effective : NativeSettings) :
    Task (NativeResult Unit) := do
  if globalSettings.allowLanConnections ≠ effective.allowLanConnections ∨
      globalSettings.allowLocalDns ≠ effective.allowLocalDns then
    orReturn (applyDestinationPolicy effective) fun _ => do
      ask (.setPolicyOverride (some (effective.allowLanConnections, effective.allowLocalDns)))
      return .ok ()
  else
    ask (.setPolicyOverride none)
    return .ok ()

/-- Source: `mod.rs` `restore_global_destination_policy` -/
def restoreGlobalDestinationPolicy : Task (NativeResult Unit) := do
  if (← ask .policyOverride).isNone then return .ok ()
  else
    let settings ← ask .settings
    orReturn (applyDestinationPolicy settings) fun _ => do
      ask (.setPolicyOverride none)
      return .ok ()

/-! ## The end of a tunnel -/

/-- Source: `mod.rs` `disconnect_owned_inner`, after NetworkManager has taken the tunnel down -/
def forgetConnection : Task (NativeResult Unit) := do
  ask (.setOwnedUuid none)
  ask (.setSelected none)
  orReturn (ask (.observe .cleanup)) fun observation => do
    ask (.emitConnection observation none)
    return .ok ()

/-- Source: `mod.rs` `disconnect_owned_inner` -/
def disconnectOwnedInner (uuid : String) : Task (NativeResult Unit) := do
  let settings ← ask .settings
  let serverIp := (← ask .selected).map ConnectionTarget.entryIp
  orReturn (reconcileSplitKillSwitchBypass settings false) fun _ =>
    orReturn restoreGlobalDestinationPolicy fun _ => do
      -- `stop_local_agent`
      ask (.setLocalAgent none)
      ask (.setSnapshot {})
      orReturn (ask (.disconnectUuid uuid)) fun _ =>
        orReturn (ask (.killSwitch settings.killswitch false serverIp settings.ipv6LeakProtection))
          fun _ => forgetConnection

/-- Source: `mod.rs` `cleanup_owned_connection` -/
def cleanupOwnedConnection (uuid : String) : Task Unit := do
  let _ ← disconnectOwnedInner uuid
  return ()

/-- Source: `mod.rs` `disconnect_inner` -/
def disconnectInner : Task (NativeResult Unit) := do
  match ← ask .ownedUuid with
  | some uuid => disconnectOwnedInner uuid
  | none => return .ok ()

/-- Source: `mod.rs` `connection_cancel` -/
def connectionCancel : Task (NativeResult Unit) := do
  let cancelledGeneration ← ask .nextAttempt
  guarded .network do
    if (← ask .loadAttempt) ≠ cancelledGeneration then return .ok ()
    else disconnectInner

/-- Source: `mod.rs` `connection_disconnect` -/
def connectionDisconnect : Task (NativeResult Unit) := do
  let _ ← ask .nextAttempt
  guarded .network do
    match ← ask .ownedUuid with
    | none =>
      return .error (.new "connection_not_owned"
        "The active VPN connection belongs to another Proton client")
    | some uuid => disconnectOwnedInner uuid

/-- Source: `mod.rs` `disconnect_after_local_agent_rejection` -/
def disconnectAfterLocalAgentRejection : Task Unit := do
  let _ ← ask .nextAttempt
  match ← ask .ownedUuid with
  | none => return ()
  | some uuid => guarded .network (cleanupOwnedConnection uuid)

end ProtonVpnOmarchy.Agent.Runtime
