import ProtonVpnOmarchy.Agent.Runtime.Basic

/-!
# Connections of the native runtime

`connection_connect` with its polling loop, the watcher of a Local Agent, and what restores a tunnel
that an earlier run of the agent left behind.
-/

namespace ProtonVpnOmarchy.Agent.Runtime

open Lib

/-! ## A connection attempt -/

/-- Source: `mod.rs` `replacement_connection_uuid` -/
def replacementConnectionUuid (observation : TunnelObservation) (ownedUuid : Option String) :
    NativeResult (Option String) :=
  if observation.state = .disconnected then .ok none
  else
    match observation.owned, observation.uuid, ownedUuid with
    | true, some activeUuid, some knownUuid =>
      if activeUuid = knownUuid then .ok (some activeUuid) else .error connectionActive
    | _, _, _ => .error connectionActive
where
  connectionActive : NativeError :=
    .new "connection_active"
      "The active VPN connection belongs to another client and cannot be replaced"

/-- Source: `mod.rs` `with_network_conflicts` -/
def withNetworkConflicts (error : NativeError) (conflicts : List String) : NativeError :=
  if conflicts.isEmpty then error
  else
    { code := "network_conflict_detected"
      message :=
        "Another active VPN or tunnel interface might be preventing Proton VPN from connecting"
      retryable := true
      details := some (.obj [("interfaces", .array (conflicts.map .string)),
        ("underlying_code", .string error.code), ("underlying_error", .string error.message)]) }

def connectionTimeout : NativeError :=
  { BackendError.new "connection_timeout" "VPN connection timed out before the tunnel became ready"
    with retryable := true }

def connectionFailed (message protocol : String) : NativeError :=
  { BackendError.new "connection_failed" message with
    retryable := true
    details := some (.obj [("protocol", .string protocol)]) }

/-- Source: `mod.rs` `connection_connect`, before it holds `network_write` -/
def preparation (attempt : ℕ) : Task (NativeResult Unit) :=
  orReturn (unlessCancelled attempt .prepared) fun prepared =>
    orReturn (pure prepared) fun _ =>
      ask (.compute .params)

/-- Source: `mod.rs` `connection_connect`, an active tunnel of this agent is replaced -/
def replaceTunnel (attempt : ℕ) : Task (NativeResult Unit) :=
  orReturn (ask (.observe .request)) fun current =>
    orReturn (checkConnectionAttempt attempt) fun _ => do
      let ownedUuid ← ask .ownedUuid
      match replacementConnectionUuid current ownedUuid with
      | .error error => return .error error
      | .ok none => return .ok ()
      | .ok (some uuid) =>
        orReturn (disconnectOwnedInner uuid) fun _ =>
          orReturn (ask (.observe .request)) fun observation => do
            if observation.state ≠ .disconnected then
              return .error
                { BackendError.new "disconnect_failed"
                  "The active VPN connection did not stop before reconnecting" with
                  retryable := true }
            else return .ok ()

/-- Source: `mod.rs` `connection_connect`, the worker that activates the tunnel -/
def activate (plan : Plan) (uuid : String) : Task (NativeResult Unit) :=
  let killSwitch (active : Bool) : Task (NativeResult Unit) :=
    ask (.killSwitch plan.settings.killswitch active (some plan.target.entryIp)
      plan.settings.ipv6LeakProtection)
  orReturn (killSwitch true) fun _ => do
    match ← ask (.connect uuid) with
    | .ok () => return .ok ()
    | .error error =>
      let _ ← killSwitch false
      return .error error

/-- An attempt fails after its tunnel was activated. -/
def giveUp (uuid : String) (error : NativeError) : Task (Unit ⊕ NativeResult Unit) := do
  cleanupOwnedConnection uuid
  return .inr (.error error)

/-- Source: `mod.rs` `connection_connect`, the Local Agent of a tunnel that is up confirms the
session -/
def awaitLocalAgent (attempt : ℕ) (uuid : String) (observation : TunnelObservation)
    (queue : Queue) : Task (Unit ⊕ NativeResult Unit) := do
  ask (.setLocalAgent (some queue))
  match ← unlessCancelled attempt (.ready queue) with
  | .error error => giveUp uuid error
  | .ok (.error ()) =>
    giveUp uuid
      { BackendError.new "local_agent_timeout"
        "The Proton Local Agent did not confirm the VPN session in time" with retryable := true }
  | .ok (.ok (.error error)) => giveUp uuid error
  | .ok (.ok (.ok snapshot)) =>
    ask (.setSnapshot snapshot)
    ask (.spawnWatch queue attempt)
    ask (.emitConnection observation none)
    return .inr (.ok ())

/-- Source: `mod.rs` `connection_connect`, the tunnel is up -/
def secureSession (attempt : ℕ) (plan : Plan) (uuid : String) (observation : TunnelObservation) :
    Task (Unit ⊕ NativeResult Unit) := do
  match ← reconcileSplitKillSwitchBypass plan.settings true with
  | .error error => giveUp uuid error
  | .ok () =>
    match (← unlessCancelled attempt (.agent plan.target.domain)).bind id with
    | .ok queue => awaitLocalAgent attempt uuid observation queue
    | .error error =>
      if error.code = "local_agent_connect_timeout" then
        if ← ask .deadlinePassed then giveUp uuid error
        else return .inl ()
      else giveUp uuid error

/-- Source: `mod.rs` `connection_connect`, one round of the polling loop -/
def pollTunnel (attempt : ℕ) (plan : Plan) (uuid : String) (conflicts : List String) :
    Task (Unit ⊕ NativeResult Unit) := do
  match ← checkConnectionAttempt attempt with
  | .error error => giveUp uuid error
  | .ok () =>
    match ← ask (.observe .polling) with
    | .error error => return .inr (.error error)
    | .ok observation =>
      match observation.state with
      | .connected => secureSession attempt plan uuid observation
      | .error =>
        let error := withNetworkConflicts
          (connectionFailed "NetworkManager reported that the VPN tunnel failed" plan.protocol)
          conflicts
        ask (.emitConnection observation (some error.message))
        giveUp uuid error
      | .disconnected =>
        if ← ask .twoSecondsPassed then
          giveUp uuid (withNetworkConflicts (connectionFailed
            "The VPN service stopped before the tunnel became ready" plan.protocol) conflicts)
        else waitForTunnel
      | .connecting => waitForTunnel
where
  waitForTunnel : Task (Unit ⊕ NativeResult Unit) := do
    if ← ask .deadlinePassed then
      giveUp uuid (withNetworkConflicts
        { connectionTimeout with details := some (.obj [("protocol", .string plan.protocol)]) }
        conflicts)
    else
      ask .sleep
      return .inl ()

/-- Source: `mod.rs` `connection_connect`, while it holds `network_write`: from the policy of the
connection on -/
def establish (attempt : ℕ) (plan : Plan) (uuid : String) (conflicts : List String) :
    Task (NativeResult Unit) :=
  orReturn (applyConnectionDestinationPolicy plan.globalSettings plan.settings) fun _ => do
    match ← checkConnectionAttempt attempt with
    | .error error => orReturn restoreGlobalDestinationPolicy fun _ => return .error error
    | .ok () =>
      match ← activate plan uuid with
      | .error error =>
        orReturn restoreGlobalDestinationPolicy fun _ =>
          return .error (withNetworkConflicts error conflicts)
      | .ok () =>
        ask (.setOwnedUuid (some uuid))
        ask (.setSelected (some plan.target))
        .loop (fun _ : Unit => pollTunnel attempt plan uuid conflicts) () pure

/-- Source: `mod.rs` `connection_connect`, while it holds `network_write` -/
def connectExclusively (attempt : ℕ) : Task (NativeResult Unit) :=
  orReturn (ask (.compute .session)) fun _ =>
    orReturn (ask .plan) fun plan =>
      orReturn (replaceTunnel attempt) fun _ =>
        orReturn (ask .newProfile) fun uuid =>
          orReturn (ask .conflictingInterfaces) fun conflicts =>
            establish attempt plan uuid conflicts

/-- A guard that is waited for until the attempt is cancelled. -/
def guardedUnlessCancelled (attempt : ℕ) (mutex : Mutex) (task : Task (NativeResult Unit)) :
    Task (NativeResult Unit) :=
  orReturn (unlessCancelled attempt (.lock mutex)) fun _ => do
    let result ← task
    ask (.unlock mutex)
    return result

/-- Source: `mod.rs` `connection_connect` -/
def connectionConnect : Task (NativeResult Unit) := do
  let attempt ← ask .nextAttempt
  orReturn (preparation attempt) fun _ =>
    guardedUnlessCancelled attempt .recovery
      (guardedUnlessCancelled attempt .network (connectExclusively attempt))

/-! ## Watching a Local Agent -/

/-- How the updates of a queue come to an end. -/
inductive Ending where
  | rejected
  | stopped

/-- Source: `mod.rs` `watch_local_agent`, the updates of a queue -/
def receiveUpdates (queue : Queue) : Task Ending :=
  .loop (fun _ : Unit => do
    match ← ask (.receive queue) with
    | none => return .inr .stopped
    | some .stopped => return .inr .stopped
    | some (.error error) =>
      match ← ask (.observe .background) with
      | .error _ => return .inl ()
      | .ok observation =>
        ask (.emitConnection observation (some error))
        return .inl ()
    | some (.status snapshot) =>
      let reason := snapshot.reason.getD "The Proton VPN session was restricted"
      ask (.setSnapshot snapshot)
      match ← ask (.observe .background) with
      | .error _ => pure ()
      | .ok observation =>
        ask (.emitConnection observation (if snapshot.hardJailed then some reason else none))
      if snapshot.hardJailed then
        disconnectAfterLocalAgentRejection
        return .inr .rejected
      else return .inl ()) () pure

/-- Source: `mod.rs` `watch_local_agent`, a new Local Agent for a tunnel that is still up; the queue
it gives, if the watcher goes on with one -/
def restartAgent (observation : TunnelObservation) (domain : String) :
    Task (Option Queue ⊕ Unit) := do
  match ← ask (.startAgent domain) with
  | .error error =>
    ask (.emitConnection observation (some error.message))
    return .inl none
  | .ok queue =>
    ask (.setLocalAgent (some queue))
    match ← ask (.ready queue) with
    | .ok (.ok snapshot) =>
      ask (.setSnapshot snapshot)
      ask (.emitConnection observation none)
      return .inl (some queue)
    | .ok (.error error) =>
      ask (.emitConnection observation (some error.message))
      if error.retryable then
        ask (.setLocalAgent none)
        return .inl none
      else
        disconnectAfterLocalAgentRejection
        return .inr ()
    | .error () =>
      ask (.emitConnection observation (some "The Proton Local Agent reconnect timed out"))
      ask (.setLocalAgent none)
      return .inl none

/-- Source: `mod.rs` `watch_local_agent`, after the updates of a queue have stopped. A queue that has
stopped is read to its end again, which gives nothing. -/
def afterStop (attempt : ℕ) : Task (Option Queue ⊕ Unit) := do
  if (← ask .loadAttempt) ≠ attempt then return .inr ()
  else
    match ← ask (.observe .background) with
    | .error _ => return .inr ()
    | .ok observation =>
      if observation.state ≠ .connected then
        ask (.emitConnection observation none)
        return .inr ()
      else
        ask (.setSnapshot {})
        ask (.emitConnection observation (some "The Proton Local Agent is reconnecting"))
        ask (.setLocalAgent none)
        ask .sleep
        if (← ask .loadAttempt) ≠ attempt then return .inr ()
        else
          match ← ask (.observe .background) with
          | .error _ => return .inr ()
          | .ok observation =>
            if observation.state ≠ .connected then return .inr ()
            else
              match ← ask .restorable with
              | none =>
                ask (.emitConnection observation
                  (some "The Proton Local Agent session could not be restored"))
                return .inr ()
              | some target => restartAgent observation target.domain

/-- Source: `mod.rs` `watch_local_agent` -/
def watchLocalAgent (queue : Queue) (attempt : ℕ) : Task Unit :=
  .loop (fun queue : Queue => do
    match ← receiveUpdates queue with
    | .rejected => return .inr ()
    | .stopped =>
      match ← afterStop attempt with
      | .inl next => return .inl (next.getD queue)
      | .inr () => return .inr ()) queue pure

/-! ## Restoring a tunnel -/

/-- Source: `mod.rs` `restore_owned_local_agent` -/
def restoreOwnedLocalAgent (observation : TunnelObservation) : Task Unit := do
  ask (.setOwnedUuid observation.uuid)
  match ← ask .restorable with
  | none => reject "The owned VPN session could not be restored"
  | some target =>
    match ← ask (.startAgent target.domain) with
    | .error error => reject error.message
    | .ok queue =>
      ask (.setLocalAgent (some queue))
      match ← ask (.ready queue) with
      | .ok (.ok snapshot) =>
        ask (.setSnapshot snapshot)
        ask (.emitConnection observation none)
        let attempt ← ask .loadAttempt
        ask (.spawnWatch queue attempt)
      | .ok (.error error) => reject error.message
      | .error () => reject "The Proton Local Agent restore timed out"
where
  reject (error : String) : Task Unit := do
    ask (.emitConnection observation (some error))
    disconnectAfterLocalAgentRejection

/-- Source: `mod.rs` `restore_session`, the tunnel that was found while `network_write` is held -/
def restoreTunnel : Task Unit := do
  match ← ask (.observe .background) with
  | .error _ => return ()
  | .ok observation =>
    ask (.emitConnection observation none)
    if observation.owned && observation.state = .connected then restoreOwnedLocalAgent observation
    else return ()

/-- Source: `mod.rs` `restore_session` -/
def restoreSession : Task (NativeResult Unit) :=
  guarded .auth do
    orReturn (ask .restoreSaved) fun restored => do
      if restored then
        guarded .network restoreTunnel
        return .ok ()
      else return .ok ()

end ProtonVpnOmarchy.Agent.Runtime
