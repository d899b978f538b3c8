import ProtonVpnOmarchy.Agent.Protocol
import ProtonVpnOmarchy.Agent.Store.Params
import ProtonVpnOmarchy.Lib.FirstMatch

/-!
# The operation coordinator

`operations.rs`: a request that changes something begins an operation, unless an operation that is
active conflicts with it, and finishes it with its result. A control request (a cancellation, the PIN
of a security key) attaches to the operation that it controls instead. Progress of the backend
changes the stage of an active operation. Every change is published.
-/

namespace ProtonVpnOmarchy.Agent.Operations

open Lib

def RECENT_OPERATION_LIMIT : ℕ := 16

structure OperationRegistry where
  nextId : UInt64 := 1
  active : List OperationRecord := []
  recent : List OperationRecord := []

structure OperationLease where
  id : String
  ownsCompletion : Bool
  controlFailureStage : Option String
  controlFailureCancelable : Bool
  deriving DecidableEq

structure ControlSpec where
  targetKind : String
  stage : String
  cancelable : Bool
  failureStage : String
  failureCancelable : Bool
  requiresTarget : Bool
  deriving DecidableEq

structure OperationSpec where
  domain : OperationDomain
  stage : String
  cancelable : Bool
  control : Option ControlSpec
  deriving DecidableEq

/-- The registry, and the snapshot that the watch channel holds. -/
structure OperationCoordinator where
  registry : OperationRegistry
  state : StateSnapshot

/-! ## The operations of methods -/

def submitFido2PinControl : ControlSpec where
  targetKind := "account.authenticate_fido2"
  stage := "auth.submitting_security_key_pin"
  cancelable := true
  failureStage := "auth.security_key_pin_failed"
  failureCancelable := true
  requiresTarget := true

def cancelFido2Control : ControlSpec where
  targetKind := "account.authenticate_fido2"
  stage := "auth.cancelling_security_key"
  cancelable := false
  failureStage := "auth.security_key_cancel_failed"
  failureCancelable := true
  requiresTarget := true

/-- The control of `connection.disconnect` and of `connection.cancel`. -/
def cancelConnectControl : ControlSpec where
  targetKind := "connection.connect"
  stage := "tunnel.cancelling"
  cancelable := false
  failureStage := "tunnel.cancel_failed"
  failureCancelable := true
  requiresTarget := false

/-- The methods of the store that change it. -/
def storeMutations : List String :=
  ["onboarding.complete", "preferences.set", "profiles.save", "profiles.duplicate",
    "profiles.delete", "recents.record", "recents.pin", "recents.delete",
    "default_connection.set"]

/-- Source: `operations.rs` `operation_spec` -/
def operationSpec (method : String) : Option OperationSpec :=
  match method with
  | "account.login" => some ⟨.authSession, "auth.submitting_credentials", false, none⟩
  | "account.submit_2fa" => some ⟨.authSession, "auth.submitting_two_factor", false, none⟩
  | "account.authenticate_fido2" => some ⟨.authSession, "auth.scanning_security_keys", true, none⟩
  | "account.submit_fido2_pin" =>
    some ⟨.authSession, "auth.submitting_security_key_pin", false, some submitFido2PinControl⟩
  | "account.cancel_fido2" =>
    some ⟨.authSession, "auth.cancelling_security_key", false, some cancelFido2Control⟩
  | "account.logout" => some ⟨.authSession, "auth.signing_out", false, none⟩
  | "account.refresh" => some ⟨.authSession, "auth.loading_account", false, none⟩
  | "connection.connect" =>
    some ⟨.tunnelConfiguration, "tunnel.preparing_connection", true, none⟩
  | "connection.disconnect" =>
    some ⟨.tunnelConfiguration, "tunnel.disconnecting", false, some cancelConnectControl⟩
  | "connection.cancel" =>
    some ⟨.tunnelConfiguration, "tunnel.cancelling", false, some cancelConnectControl⟩
  | "feature.set" => some ⟨.tunnelConfiguration, "settings.applying_feature", false, none⟩
  | "protocol.set" => some ⟨.tunnelConfiguration, "settings.applying_protocol", false, none⟩
  | "dns.set" => some ⟨.tunnelConfiguration, "settings.applying_dns", false, none⟩
  | "split_tunneling.set" =>
    some ⟨.tunnelConfiguration, "settings.applying_split_tunneling", false, none⟩
  | "report_issue.submit" => some ⟨.support, "support.submitting_report", false, none⟩
  | "connection.feedback" =>
    some ⟨.support, "support.submitting_connection_feedback", false, none⟩
  | "netshield.stats.get" =>
    some ⟨.support, "support.requesting_netshield_statistics", false, none⟩
  | method => if method ∈ storeMutations then some ⟨.store, "store.saving", false, none⟩ else none

/-- Source: `operations.rs` `domains_conflict` -/
def domainsConflict : OperationDomain → OperationDomain → Bool
  | .store, .store => true
  | .store, _ => false
  | _, .store => false
  | .support, .tunnelConfiguration => false
  | .tunnelConfiguration, .support => false
  | .support, .support => true
  | .authSession, _ => true
  | _, .authSession => true
  | .tunnelConfiguration, .tunnelConfiguration => true

/-- Source: `operations.rs` `requires_stable_session` -/
def requiresStableSession (method : String) : Bool :=
  method ∈ ["account.upgrade_url", "report_issue.categories.get", "locations.get", "servers.get",
    "servers.lookup", "apps.get", "connection.observe", "traffic.get"]

/-- Source: `operations.rs` `completion_stage` -/
def completionStage (method : String) : String :=
  if method ∈ ["account.login", "account.submit_2fa", "account.authenticate_fido2"] then
    "auth.complete"
  else if method = "account.logout" then "auth.signed_out"
  else if method = "connection.connect" then "tunnel.connected"
  else if method ∈ ["connection.disconnect", "connection.cancel"] then "tunnel.disconnected"
  else if method = "report_issue.submit" then "support.report_submitted"
  else if method ∈ storeMutations then "store.saved"
  else "settings.applied"

/-- Source: `operations.rs` `failure_stage` -/
def failureStage (method : String) : String :=
  if method = "account.login" then "auth.credentials_failed"
  else if method = "account.submit_2fa" then "auth.two_factor_failed"
  else if method = "account.authenticate_fido2" then "auth.security_key_failed"
  else if method = "account.logout" then "auth.logout_failed"
  else if method = "connection.connect" then "tunnel.connection_failed"
  else if method ∈ ["connection.disconnect", "connection.cancel"] then "tunnel.disconnect_failed"
  else if method = "report_issue.submit" then "support.report_failed"
  else if method ∈ storeMutations then "store.save_failed"
  else "settings.apply_failed"

/-- Source: `operations.rs` `cancelled_stage` -/
def cancelledStage (method : String) : String :=
  if method = "account.authenticate_fido2" then "auth.security_key_cancelled"
  else "tunnel.cancelled"

/-- Source: `operations.rs` `is_cancelled_error` -/
def isCancelledError (code : String) : Bool :=
  code ∈ ["cancelled", "operation_cancelled", "connection_cancelled", "fido2_cancelled"]

/-- Source: `operations.rs` `operation_error` -/
def operationError (error : BackendError) : OperationError :=
  { code := error.code, details := error.details, retryable := error.retryable }

/-! ## The coordinator -/

namespace OperationCoordinator

/-- Source: `operations.rs` `OperationCoordinator::new` -/
def new (state : StateSnapshot) : OperationCoordinator := { registry := {}, state := state }

/-- Source: `operations.rs` `OperationCoordinator::publish` -/
def publish (coordinator : OperationCoordinator) (registry : OperationRegistry) :
    OperationCoordinator :=
  { registry := registry
    state := { coordinator.state with
      operations := { active := registry.active, recent := registry.recent }
      revision := coordinator.state.revision + 1 } }

/-- Change the first active operation that `p` accepts, if there is one. -/
def edit (coordinator : OperationCoordinator) (p : OperationRecord → Bool)
    (f : OperationRecord → OperationRecord) : OperationCoordinator :=
  match coordinator.registry.active.find? p with
  | none => coordinator
  | some _ => coordinator.publish
    { coordinator.registry with active := modifyFirst p f coordinator.registry.active }

end OperationCoordinator

/-- The error of a request that an active operation stands in the way of. -/
def operationConflict (message : String) (active : OperationRecord) : BackendError where
  code := "operation_conflict"
  message := message
  retryable := true
  details := some (.obj [("active_operation", active.toValue)])

def operationNotActive : BackendError :=
  .new "operation_not_active" "The operation controlled by this request is not active"

/-- `op-{:016x}` -/
def operationId (n : UInt64) : String := "op-" ++ Store.hexPadded 16 n.toNat

/-- The operation that a control request attaches to. -/
def isTarget (domain : OperationDomain) (control : ControlSpec) (operation : OperationRecord) :
    Bool :=
  operation.domain = domain && operation.kind = control.targetKind && operation.state = .running

/-- What a control request makes of its target. -/
def attach (now : UInt64) (control : ControlSpec) (operation : OperationRecord) :
    OperationRecord :=
  { operation with
    stage := control.stage
    updatedAtUnixMs := now
    cancelable := control.cancelable
    error := none }

def controlLease (control : ControlSpec) (target : OperationRecord) : OperationLease where
  id := target.id
  ownsCompletion := false
  controlFailureStage := some control.failureStage
  controlFailureCancelable := control.failureCancelable

def newOperation (now : UInt64) (clientInstanceId method : String) (spec : OperationSpec)
    (id : String) : OperationRecord where
  id := id
  initiatorClientInstanceId := clientInstanceId
  domain := spec.domain
  kind := method
  state := .running
  stage := spec.stage
  startedAtUnixMs := now
  updatedAtUnixMs := now
  finishedAtUnixMs := none
  cancelable := spec.cancelable
  error := none

def ownerLease (id : String) : OperationLease where
  id := id
  ownsCompletion := true
  controlFailureStage := none
  controlFailureCancelable := false

abbrev BeginResult := Except BackendError (Option OperationLease)

namespace OperationCoordinator

/-- Source: `operations.rs` `OperationCoordinator::guard_read` -/
def guardRead (method : String) (coordinator : OperationCoordinator) : BeginResult :=
  if requiresStableSession method then
    match coordinator.registry.active.find? (·.domain = .authSession) with
    | some active =>
      .error (operationConflict "Authentication state is changing; retry this request afterwards"
        active)
    | none => .ok none
  else .ok none

/-- The part of `begin` that starts an operation of its own. -/
def beginOwn (now : UInt64) (clientInstanceId method : String) (spec : OperationSpec)
    (coordinator : OperationCoordinator) : BeginResult × OperationCoordinator :=
  let registry := coordinator.registry
  match registry.active.find? fun active => domainsConflict spec.domain active.domain with
  | some active =>
    (.error (operationConflict "Another incompatible Proton VPN operation is already running"
      active), coordinator)
  | none =>
    let id := operationId registry.nextId
    (.ok (some (ownerLease id)), coordinator.publish
      { registry with
        nextId := registry.nextId + 1
        active := registry.active ++ [newOperation now clientInstanceId method spec id] })

/-- Source: `operations.rs` `OperationCoordinator::begin` -/
def begin (now : UInt64) (clientInstanceId method : String) (coordinator : OperationCoordinator) :
    BeginResult × OperationCoordinator :=
  match operationSpec method with
  | none => (coordinator.guardRead method, coordinator)
  | some spec =>
    match spec.control with
    | none => coordinator.beginOwn now clientInstanceId method spec
    | some control =>
      match coordinator.registry.active.find? (isTarget spec.domain control) with
      | some target =>
        (.ok (some (controlLease control target)),
          coordinator.edit (isTarget spec.domain control) (attach now control))
      | none =>
        if control.requiresTarget then (.error operationNotActive, coordinator)
        else coordinator.beginOwn now clientInstanceId method spec

end OperationCoordinator

/-- What the failure of a control request makes of its target. -/
def controlFailed (now : UInt64) (lease : OperationLease) (error : BackendError)
    (operation : OperationRecord) : OperationRecord :=
  { operation with
    stage := lease.controlFailureStage.getD "operation.control_failed"
    updatedAtUnixMs := now
    cancelable := lease.controlFailureCancelable
    error := some (operationError error) }

/-- The stages that stand for a requested cancellation. -/
def cancellationRequested (operation : OperationRecord) : Bool :=
  operation.stage ∈ ["tunnel.cancelling", "auth.cancelling_security_key"]

/-- The record of an operation with its result. -/
def complete (now : UInt64) (result : Except BackendError Unit) (operation : OperationRecord) :
    OperationRecord :=
  let finished := { operation with
    updatedAtUnixMs := now
    finishedAtUnixMs := some now
    cancelable := false }
  match result with
  | .ok () =>
    if cancellationRequested operation then
      { finished with state := .cancelled, stage := cancelledStage operation.kind }
    else { finished with state := .succeeded, stage := completionStage operation.kind }
  | .error error =>
    if cancellationRequested operation || isCancelledError error.code then
      { finished with state := .cancelled, stage := cancelledStage operation.kind, error := none }
    else
      { finished with
        state := .failed
        stage := failureStage operation.kind
        error := some (operationError error) }

/-- The change of a stage by progress of the backend. -/
def setStage (now : UInt64) (stage : String) (cancelable : Option Bool)
    (operation : OperationRecord) : OperationRecord :=
  { operation with
    stage := stage
    updatedAtUnixMs := now
    cancelable := cancelable.getD operation.cancelable }

namespace OperationCoordinator

/-- Source: `operations.rs` `OperationCoordinator::finish` -/
def finish (now : UInt64) (lease : Option OperationLease) (result : Except BackendError Unit)
    (coordinator : OperationCoordinator) : OperationCoordinator :=
  match lease with
  | none => coordinator
  | some lease =>
    if lease.ownsCompletion then
      match coordinator.registry.active.find? (·.id = lease.id) with
      | none => coordinator
      | some operation =>
        coordinator.publish
          { coordinator.registry with
            active := coordinator.registry.active.eraseP (·.id = lease.id)
            recent := (complete now result operation :: coordinator.registry.recent).take
              RECENT_OPERATION_LIMIT }
    else
      match result with
      | .ok () => coordinator
      | .error error => coordinator.edit (·.id = lease.id) (controlFailed now lease error)

/-- Source: `operations.rs` `OperationCoordinator::update_stage` -/
def updateStage (now : UInt64) (method stage : String) (cancelable : Option Bool)
    (coordinator : OperationCoordinator) : OperationCoordinator :=
  if method = "" ∨ 128 < method.utf8ByteSize ∨ stage = "" ∨ 128 < stage.utf8ByteSize then
    coordinator
  else coordinator.edit (fun operation => operation.kind = method && operation.state = .running)
    (setStage now stage cancelable)

/-- Source: `operations.rs` `OperationCoordinator::update_domain_stage` -/
def updateDomainStage (now : UInt64) (domain : OperationDomain) (stage : String)
    (cancelable : Option Bool) (coordinator : OperationCoordinator) : OperationCoordinator :=
  if stage = "" ∨ 128 < stage.utf8ByteSize then coordinator
  else coordinator.edit (fun operation => operation.domain = domain && operation.state = .running)
    (setStage now stage cancelable)

end OperationCoordinator

/-! ## Interruptions -/

/-- The requests by which a client takes over the connection. -/
def takeoverMethods : List String :=
  ["connection.connect", "connection.cancel", "connection.disconnect", "account.logout"]

/-- An operation after the baseline that a sequence of `initiator` has to give way to. -/
def interrupts (initial : List String) (initiator : String) (operation : OperationRecord) : Bool :=
  operation.id ∉ initial &&
    ((operation.kind = "connection.connect" &&
        (operation.stage = "tunnel.cancelling" || operation.state = .cancelled)) ||
      (operation.initiatorClientInstanceId ≠ initiator && operation.kind ∈ takeoverMethods))

/-- Source: `operations.rs` `connection_sequence_interrupted` -/
def connectionSequenceInterrupted (state : StateSnapshot) (initial : List String)
    (initiator : String) : Bool :=
  (state.operations.active ++ state.operations.recent).any (interrupts initial initiator)

/-- Source: `autoconnect.rs` `recent_operation_ids` -/
def recentOperationIds (state : StateSnapshot) : List String :=
  state.operations.recent.map (·.id)

end ProtonVpnOmarchy.Agent.Operations
