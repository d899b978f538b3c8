import ProtonVpnOmarchy.Agent.Account.Basic
import ProtonVpnOmarchy.Agent.NativeError
import ProtonVpnOmarchy.Agent.Operations.Cancellation
import ProtonVpnOmarchy.Agent.Runtime.Basic

/-!
# The recovery of the API through a temporary tunnel

`Recovery::run` of `guest_hole.rs`, as a dialogue with NetworkManager, the network and the coordinator
of the operations. Before each of its steps the rest of the agent may have made any changes: the answer
to a question is the list of them with the reply. The bundled and the cached catalog, and the
parameters of the tunnels apart from their uuids, are left open.

* `run` — the candidates one after the other.
* `Scene` — what a check for a cancellation looks at, after the changes of a history.
-/

namespace ProtonVpnOmarchy.Agent.Recovery

open Lib Operations Native
open ProtonVpnOmarchy.Agent.Runtime (TunnelState TunnelObservation)

def MAX_ATTEMPTS : ℕ := 5

/-- Source: `guest_hole.rs` `Endpoint` -/
structure Endpoint where
  name : String
  ip : String
  publicKey : String
  deriving DecidableEq

/-- Source: `guest_hole.rs` `Operation` -/
structure Operation where
  id : String
  method : String
  generation : UInt64
  deriving DecidableEq

/-- The request that the API did not answer. -/
structure ApiRequest where
  method : String
  endpoint : String
  body : Option Value
  session : Option Account.ApiSession

/-! ## What the rest of the agent changes -/

/-- A change that is made between two steps. -/
inductive Change where
  /-- A call of the coordinator -/
  | call (call : Call)
  /-- `Recovery::cancel` -/
  | cancel
  /-- The future of the request is dropped. -/
  | dropRequest

/-- What a check for a cancellation looks at. The last three are what a run is judged by: how often the
recovery was cancelled, whether its operation has been asked to cancel, and whether another stage has
been written over that since. -/
structure Scene where
  world : World
  generation : UInt64
  replyClosed : Bool := false
  cancels : ℕ := 0
  asked : Bool := false
  overwritten : Bool := false

/-- `stage.contains("cancelling")` -/
def standsForCancelling (stage : String) : Bool :=
  decide ("cancelling".toList <:+: stage.toList)

/-- The kinds of operations that may be recovered. -/
def authorised : List String :=
  ["account.login", "account.submit_2fa", "account.authenticate_fido2", "account.refresh",
    "connection.connect"]

namespace Scene

/-- The operations that are published. -/
abbrev active (scene : Scene) : List OperationRecord :=
  scene.world.coordinator.state.operations.active

/-- Source: `guest_hole.rs` `Recovery::operation` -/
def operation (scene : Scene) : Option Operation :=
  match scene.active.find? (·.kind ∈ authorised) with
  | none => none
  | some active =>
    if standsForCancelling active.stage then none
    else some
      { id := active.id, method := active.kind, generation := scene.generation }

/-- Source: `guest_hole.rs` `Recovery::cancelled`, and `reply.is_closed()` before it in `run` -/
def cancelled (op : Operation) (scene : Scene) : Bool :=
  scene.replyClosed || scene.generation ≠ op.generation ||
    !scene.active.any fun active => active.id = op.id && !standsForCancelling active.stage

/-- A call of the coordinator. -/
def call (op : Operation) (scene : Scene) (call : Call) : Scene :=
  let called := { scene with world := scene.world.call call }
  match scene.world.stageFor call op.id with
  | none => called
  | some stage =>
    if standsForCancelling stage then { called with asked := true, overwritten := false }
    else { called with overwritten := scene.asked }

def change (op : Operation) (scene : Scene) : Change → Scene
  | .call call => scene.call op call
  | .cancel =>
    { scene with generation := scene.generation + 1, cancels := scene.cancels + 1 }
  | .dropRequest => { scene with replyClosed := true }

/-- The operation, or the recovery itself, has been asked to cancel. -/
def requested (scene : Scene) : Bool := scene.asked || 0 < scene.cancels

end Scene

/-! ## The questions of a run -/

/-- How the wait for an answer of the API ends: with it, after thirty seconds, or after the next
125 milliseconds. -/
inductive Awaited where
  | result (result : NativeResult Value)
  | timeout
  | tick

inductive Query where
  /-- `reply.is_closed() || self.cancelled(api, op)` -/
  | cancelled
  /-- `network.observe()` -/
  | observe
  /-- `network.conflicting_interfaces()` -/
  | conflictingInterfaces
  /-- `network.network_blocked()` -/
  | networkBlocked
  /-- `recovery_endpoints()` -/
  | endpoints
  /-- `api.events.stage` -/
  | stage (method stage : String) (cancelable : Bool)
  /-- `ProtunProfile::guest`, and the uuid of the profile -/
  | guest (target : Endpoint)
  /-- The activation of the tunnel is begun. -/
  | connect (uuid : String)
  /-- The outcome of the activation -/
  | connected (uuid : String)
  /-- `observe_uuid` -/
  | observeUuid (uuid : String)
  /-- `Instant::now() >= deadline` -/
  | deadlinePassed
  | sleep
  /-- `dns::resolve_api` -/
  | resolveApi
  /-- `api.for_guest_hole` -/
  | forGuestHole (addresses : List String)
  /-- The `select!` over `request_direct`, its timeout and the next check -/
  | await (request : ApiRequest)
  /-- `disconnect_uuid`; the outer error is that of its worker. -/
  | disconnectUuid (uuid : String)

/-- What is replied to a question; that to `stage` is the time. -/
abbrev Query.Reply : Query → Type
  | .cancelled => Bool
  | .observe => NativeResult TunnelObservation
  | .conflictingInterfaces => NativeResult (List String)
  | .networkBlocked => NativeResult Bool
  | .endpoints => NativeResult (List Endpoint)
  | .stage .. => UInt64
  | .guest _ => NativeResult String
  | .connected _ => NativeResult Unit
  | .observeUuid _ => NativeResult TunnelObservation
  | .deadlinePassed => Bool
  | .resolveApi => NativeResult (List String)
  | .forGuestHole _ => NativeResult Unit
  | .await _ => Awaited
  | .disconnectUuid _ => NativeResult (NativeResult Unit)
  | .connect _ | .sleep => Unit

/-- The changes before a step, and the reply. -/
abbrev Query.Answer (query : Query) : Type := List Change × query.Reply

abbrev Task := Dialogue Query Query.Answer

abbrev Event := Dialogue.Event Query Query.Answer

/-- Ask a question. -/
def ask (query : Query) : Task query.Reply := .ask query fun answer => .pure answer.2

/-- The changes of a step, its own one last. -/
def changes : Event → List Change
  | ⟨.stage method stage cancelable, before, now⟩ =>
    before ++ [.call (.updateStage now method stage (some cancelable))]
  | ⟨_, before, _⟩ => before

/-- What a history has made of a scene. -/
def sceneAfter (op : Operation) (first : Scene) : List Event → Scene
  | [] => first
  | event :: past => (changes event).foldl (Scene.change op) (sceneAfter op first past)

/-! ## The run -/

/-- Source: `guest_hole.rs` `cancelled_error` -/
def cancelledError : NativeError where
  code := "guest_hole_cancelled"
  message := "Temporary API recovery was cancelled"

def vpnActive : NativeError where
  code := "guest_hole_vpn_active"
  message := "Disconnect the existing VPN before API recovery"

def networkBlockedError : NativeError where
  code := "guest_hole_network_blocked"
  message := "The active kill switch blocks temporary API recovery"

def unavailable : NativeError where
  code := "guest_hole_unavailable"
  message := "No recovery server is available"
  retryable := true

def notStarted : NativeError where
  code := "guest_hole_failed"
  message := "The recovery tunnel did not start"
  retryable := true

def tunnelTimeout : NativeError where
  code := "guest_hole_timeout"
  message := "The recovery tunnel timed out"
  retryable := true

def requestTimeout : NativeError where
  code := "guest_hole_timeout"
  message := "The recovery API request timed out"
  retryable := true

def cleanupFailed (error : NativeError) : NativeError where
  code := "guest_hole_cleanup_failed"
  message := "The temporary recovery tunnel could not be removed"
  source := some error.display

/-- Source: `guest_hole.rs` `transport_failure` -/
def transportFailure (code : String) : Bool :=
  code ∈ ["api_unreachable", "tls_pin_mismatch", "api_response_invalid", "api_response_too_large"]

/-- An error after which no other candidate is tried. -/
def isFinal (code : String) : Bool :=
  code = "guest_hole_cancelled" ||
    (!transportFailure code && !decide ("guest_hole_".toList <+: code.toList))

/-- Go on unless there is a cancellation. -/
def unlessCancelled {α : Type} (task : Task (NativeResult α)) : Task (NativeResult α) := do
  if ← ask .cancelled then return .error cancelledError else task

/-- The check before the first candidate. -/
def initialCheck : Task (NativeResult Unit) :=
  (ask .observe).andThen fun observation =>
    if observation.state ≠ .disconnected then return .error vpnActive
    else (ask .conflictingInterfaces).andThen fun interfaces =>
      if interfaces ≠ [] then return .error vpnActive
      else (ask .networkBlocked).andThen fun blocked =>
        if blocked then return .error networkBlockedError else return .ok ()

/-- One look at the tunnel; the loop ends with a result. -/
def look (uuid : String) : Task (NativeResult (Unit ⊕ Unit)) :=
  unlessCancelled <| (ask (.observeUuid uuid)).andThen fun observation =>
    if observation.state = .connected then return .ok (.inr ())
    else if observation.state = .error then return .error notStarted
    else do
      if ← ask .deadlinePassed then return .error tunnelTimeout
      else
        ask .sleep
        return .ok (.inl ())

/-- A loop that is left with an error or a result. -/
def untilDone {β : Type} (round : Task (NativeResult (Unit ⊕ β))) : Task (NativeResult β) :=
  .loop (fun _ : Unit => do
    match ← round with
    | .error error => return .inr (.error error)
    | .ok (.inl ()) => return .inl ()
    | .ok (.inr value) => return .inr (.ok value)) () pure

/-- One turn of the wait for the API. -/
def awaitOnce (request : ApiRequest) : Task (NativeResult (Unit ⊕ Value)) := do
  match ← ask (.await request) with
  | .result (.ok value) => return .ok (.inr value)
  | .result (.error error) => return .error error
  | .timeout => return .error requestTimeout
  | .tick => unlessCancelled (return .ok (.inl ()))

/-- What is tried with a tunnel once its activation has been begun. -/
def attempt (op : Operation) (request : ApiRequest) (uuid : String) : Task (NativeResult Value) :=
  (ask (.connected uuid)).andThen fun _ =>
    (untilDone (look uuid)).andThen fun _ =>
      (ask .resolveApi).andThen fun addresses => unlessCancelled do
        let _ ← ask (.stage op.method "guest_hole.requesting" true)
        (ask (.forGuestHole addresses)).andThen fun _ => untilDone (awaitOnce request)

/-- A temporary tunnel, and its removal whatever comes of it. The right side is an error after which
another candidate is tried. -/
def through (op : Operation) (request : ApiRequest) (uuid : String) :
    Task (NativeResult Value ⊕ NativeError) := do
  ask (.connect uuid)
  let attempted ← attempt op request uuid
  let _ ← ask (.stage op.method "guest_hole.cleaning_up" false)
  match ← ask (.disconnectUuid uuid) with
  | .error error => return .inl (.error error)
  | .ok (.error error) => return .inl (.error (cleanupFailed error))
  | .ok (.ok ()) =>
    match attempted with
    | .ok value => return .inl (.ok value)
    | .error error =>
      if isFinal error.code then return .inl (.error error) else return .inr error

/-- The candidates one after the other. -/
def candidates (op : Operation) (request : ApiRequest) :
    NativeError → List Endpoint → Task (NativeResult Value)
  | lastError, [] => return .error lastError
  | _, target :: targets => unlessCancelled do
    let _ ← ask (.stage op.method "guest_hole.connecting" true)
    (ask (.guest target)).andThen fun uuid => do
      match ← through op request uuid with
      | .inl result => return result
      | .inr error => candidates op request error targets

/-- Source: `guest_hole.rs` `Recovery::run` -/
def run (op : Operation) (request : ApiRequest) : Task (NativeResult Value) :=
  unlessCancelled <| initialCheck.andThen fun _ => (ask .endpoints).andThen fun endpoints =>
    candidates op request unavailable (endpoints.take MAX_ATTEMPTS)

end ProtonVpnOmarchy.Agent.Recovery
