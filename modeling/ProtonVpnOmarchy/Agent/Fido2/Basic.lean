import ProtonVpnOmarchy.Agent.NativeError

/-!
# Authentication with a security key

`fido2.rs`: one run of `authenticate` with any number of calls of `submit_pin` and of `cancel` beside
it. They share the manager, the pending request for a PIN, the sender of the reply and a flag, each of
them behind a lock of its own, so that a step is one access. The transport of the security key may
send any statuses and end in any way. Stages are left out, and no timeout elapses.

* `State.step` — what one access does.
* `Reaches` — the states of all interleavings whose steps are of a kind.
-/

namespace ProtonVpnOmarchy.Agent.Fido2

open Native

/-! ## Outcomes and statuses -/

/-- Source: `fido2.rs` `PinOutcome` -/
inductive Outcome where
  | accepted
  | invalid (retries : Option UInt8)
  | failed (code message : String)
  deriving DecidableEq

/-- The channel on which the authenticator gets a PIN. -/
abbrev Sender := ℕ

/-- `StatusUpdate` of the authenticator -/
inductive Status where
  | presenceRequired
  | selectDeviceNotice
  | pinRequired (sender : Sender)
  | invalidPin (sender : Sender) (retries : Option UInt8)
  | pinNotSet
  | pinBlocked
  | pinAuthBlocked
  | uvBlocked
  | pinIsTooShort
  | pinIsTooLong (length : ℕ)
  | invalidUv (retries : Option UInt8)
  | selectResultNotice
  | interactiveManagement
  deriving DecidableEq

/-- Source: `fido2.rs` `handle_status`, the reply to a PIN -/
def Status.outcome : Status → Option Outcome
  | .presenceRequired => some .accepted
  | .invalidPin _ retries => some (.invalid retries)
  | .pinNotSet =>
    some (.failed "fido2_pin_not_set" "The security key needs a PIN before it can be used")
  | .pinBlocked => some (.failed "fido2_pin_blocked" "The security key PIN is blocked")
  | .pinAuthBlocked =>
    some (.failed "fido2_pin_auth_blocked" "Too many PIN attempts; reconnect the security key")
  | .uvBlocked =>
    some (.failed "fido2_user_verification_blocked" "Security-key user verification is blocked")
  | .pinIsTooShort => some (.failed "fido2_pin_too_short" "The security-key PIN is too short")
  | .pinIsTooLong _ => some (.failed "fido2_pin_too_long" "The security-key PIN is too long")
  | .selectDeviceNotice | .pinRequired _ | .invalidUv _ | .selectResultNotice
  | .interactiveManagement => none

/-- Source: `fido2.rs` `handle_status`, the request for a PIN after the reply -/
def Status.request : Status → Option Sender
  | .pinRequired sender => some sender
  | .invalidPin sender _ => some sender
  | _ => none

def cancelledOutcome : Outcome :=
  .failed "fido2_cancelled" "Security-key authentication was cancelled"

/-! ## Results of the run -/

/-- `AuthenticatorError`, with its text -/
structure AuthenticatorError where
  cancelledByUser : Bool
  text : String
  deriving DecidableEq

/-- `SignResult`, what the run uses of it -/
structure SignResult where
  credentialId : Option (List UInt8)
  authData : List UInt8
  signature : List UInt8
  deriving DecidableEq

/-- Source: `fido2.rs` `FidoRequest`, and the serialized client data -/
structure FidoRequest where
  authenticationOptions : Value
  clientData : List UInt8
  allowList : List (List UInt8)

/-- Source: `fido2.rs` `FidoAssertion` -/
structure FidoAssertion where
  authenticationOptions : Value
  clientData : List UInt8
  authenticatorData : List UInt8
  signature : List UInt8
  credentialId : List UInt8
  deriving DecidableEq

/-- What `result_rx.recv()` comes to; the outer error is that of the channel. -/
abbrev Received := Except String (Except AuthenticatorError SignResult)

def contains (text part : String) : Bool := decide (part.toList <:+: text.toList)

/-- Source: `fido2.rs` `fido_error` -/
def fidoError (error : AuthenticatorError) : NativeError :=
  let lower := error.text.map Char.toLower
  let (code, message, retryable) :=
    if error.cancelledByUser then
      ("fido2_cancelled", "Security-key authentication was cancelled", false)
    else if contains lower "timeout" || contains lower "not allowed" then
      ("fido2_timeout", "No eligible security key answered in time", true)
    else if contains lower "pin" then
      ("fido2_pin_failed", "The security key could not verify its PIN", true)
    else if contains lower "not supported" || contains lower "unsupported" then
      ("fido2_unsupported", "The security key does not support this Proton request", false)
    else ("fido2_device_error", "The security key could not complete authentication", true)
  { code, message, retryable, source := some error.text }

def cancelledError : NativeError where
  code := "fido2_cancelled"
  message := "Security-key authentication was cancelled"

def workerFailed (text : String) : NativeError where
  code := "fido2_worker_failed"
  message := "The security-key transport stopped unexpectedly"
  source := some text

def responseInvalid : NativeError where
  code := "fido2_response_invalid"
  message := "The security key did not return a credential identifier"

/-- The result of the transport, or the error that `authenticate` returns instead. -/
def Received.result : Received → NativeResult SignResult
  | .error text => .error (workerFailed text)
  | .ok (.error error) => .error (fidoError error)
  | .ok (.ok result) => .ok result

/-- Source: `fido2.rs` `authenticate`, the assertion at its end -/
def assertion (request : FidoRequest) (result : SignResult) : NativeResult FidoAssertion :=
  let fallback := if request.allowList.length = 1 then request.allowList.head? else none
  match result.credentialId <|> fallback with
  | none => .error responseInvalid
  | some credentialId => .ok
    { authenticationOptions := request.authenticationOptions
      clientData := request.clientData
      authenticatorData := result.authData
      signature := result.signature
      credentialId }

/-! ## The parties -/

/-- Why `submit_pin` is rejected without an outcome. -/
inductive Rejection where
  | tooLong
  | notRequested
  | alreadySubmitted
  | stopped
  deriving DecidableEq

def Rejection.error : Rejection → NativeError
  | .tooLong => { code := "invalid_params", message := "The security-key PIN is too long" }
  | .notRequested =>
    { code := "fido2_pin_not_requested", message := "The security key is not requesting a PIN" }
  | .alreadySubmitted =>
    { code := "fido2_pin_already_submitted"
      message := "A security-key PIN is already being checked" }
  | .stopped =>
    { code := "fido2_pin_not_requested", message := "The security key stopped requesting a PIN" }

/-- How far a call of `submit_pin` is; `registered` has put its sender into the slot, `waiting` has
handed its PIN to the authenticator. An answer is the outcome, or the end of the channel. -/
inductive Phase where
  | absent
  | holding (sender : Sender)
  | registered (sender : Sender)
  | waiting
  | rejected (reason : Rejection)
  | answered (outcome : Option Outcome)
  deriving DecidableEq

/-- The channel on which a call gets its reply. -/
inductive Channel where
  | absent
  | open
  | filled (outcome : Outcome)
  | dropped
  deriving DecidableEq

/-- A call of `submit_pin`. The last three are what it is judged by: whether it has taken a request,
whether it has dropped the reply of another call, and the outcome of its PIN. -/
structure Caller where
  phase : Phase := .absent
  channel : Channel := .absent
  took : Bool := false
  displaced : Bool := false
  verdict : Option Outcome := none
  deriving DecidableEq

/-- The outcome is lost if the receiver is gone. -/
def Caller.tell (outcome : Outcome) (caller : Caller) : Caller :=
  { caller with
    channel := if caller.channel = .open then .filled outcome else caller.channel }

def Caller.drop (caller : Caller) : Caller :=
  { caller with channel := if caller.channel = .open then .dropped else caller.channel }

/-- Source: `fido2.rs` `FidoOperation::submit_pin`, its result -/
def Phase.result : Phase → Option (NativeResult Unit)
  | .absent | .holding _ | .registered _ | .waiting => none
  | .rejected reason => some (.error reason.error)
  | .answered (some .accepted) => some (.ok ())
  | .answered (some (.invalid retries)) => some (.error
    { code := "fido2_pin_invalid"
      message := "The security-key PIN was not accepted"
      details := some (.obj [("retries_remaining",
        (retries.map fun n => .u64 n.toUInt64).getD .null)])
      retryable := true })
  | .answered (some (.failed code message)) => some (.error { code, message })
  | .answered none => some (.error
    { code := "fido2_operation_ended"
      message := "Security-key authentication ended before the PIN was checked" })

/-- How far a call of `cancel` is. -/
inductive Cancel where
  | absent
  | stored
  | replied
  | returned (result : NativeResult Unit)

def operationNotActive : NativeError where
  code := "fido2_operation_not_active"
  message := "Security-key authentication is no longer waiting for a device"

def cancelFailed (text : String) : NativeError where
  code := "fido2_cancel_failed"
  message := "The security-key operation could not be cancelled"
  source := some text

/-- How far `authenticate` is: what it does next. -/
inductive Main where
  /-- `AuthenticatorService::new` and `set_manager` -/
  | preparing
  /-- `sign` -/
  | signing
  /-- `clear_manager` after `sign` has failed -/
  | failing (error : AuthenticatorError)
  /-- `status_worker.join()` after that -/
  | failed (error : AuthenticatorError)
  /-- `result_rx.recv()` -/
  | receiving
  /-- `clear_manager` -/
  | received (result : Received)
  /-- `clear_pin` -/
  | cleared (result : Received)
  /-- `status_worker.join()` -/
  | joining (result : Received)
  /-- `is_cancelled` -/
  | deciding (result : Received)
  /-- The reply that it was cancelled -/
  | cancelling
  /-- The reply that the PIN was accepted -/
  | accepting (result : SignResult)
  | returned (result : NativeResult FidoAssertion)

/-- The thread of `handle_status`. -/
inductive Worker where
  | absent
  | idle
  /-- `request_pin` after a reply -/
  | requesting (sender : Sender)
  | finished
  deriving DecidableEq

/-- Source: `fido2.rs` `FidoOperation`, with those who share it. `checking` are the calls whose PIN the
authenticator has and has not judged, `granted` says that a cancellation has returned without an
error; no code reads these two. -/
structure State where
  managerSet : Bool := false
  pendingPin : Option Sender := none
  pinReply : Option ℕ := none
  cancelled : Bool := false
  main : Main := .preparing
  worker : Worker := .absent
  callers : ℕ → Caller := fun _ => {}
  cancels : ℕ → Cancel := fun _ => .absent
  checking : List ℕ := []
  granted : Bool := false

namespace State

def setCaller (c : ℕ) (caller : Caller) (s : State) : State :=
  { s with callers := Function.update s.callers c caller }

/-- Source: `fido2.rs` `FidoOperation::reply` -/
def reply (outcome : Outcome) (s : State) : State :=
  match s.pinReply with
  | none => s
  | some c => { s.setCaller c ((s.callers c).tell outcome) with pinReply := none }

/-- The authenticator judges the PINs that it has. -/
def judge (outcome : Outcome) (s : State) : State :=
  { s with
    checking := []
    callers := fun c =>
      if c ∈ s.checking then { s.callers c with verdict := some outcome } else s.callers c }

/-- What an outcome of the authenticator leads to. -/
def report (outcome : Outcome) (s : State) : State := (s.judge outcome).reply outcome

/-! ## Steps -/

/-- Source: `fido2.rs` `FidoOperation::submit_pin`, up to the request -/
def submit (c : ℕ) (pin : String) (s : State) : Option State :=
  match (s.callers c).phase with
  | .absent =>
    if 255 < pin.utf8ByteSize then
      some (s.setCaller c { s.callers c with phase := .rejected .tooLong })
    else
      match s.pendingPin with
      | none => some (s.setCaller c { s.callers c with phase := .rejected .notRequested })
      | some sender => some
        { s.setCaller c { s.callers c with phase := .holding sender, took := true } with
          pendingPin := none }
  | _ => none

/-- Source: `fido2.rs` `FidoOperation::submit_pin`, `pin_reply.replace` -/
def register (c : ℕ) (s : State) : Option State :=
  match (s.callers c).phase with
  | .holding sender =>
    match s.pinReply with
    | none => some
      { s.setCaller c { s.callers c with phase := .registered sender, channel := .open } with
        pinReply := some c }
    | some other =>
      let s := s.setCaller other (s.callers other).drop
      some
        { s.setCaller c
            { s.callers c with
              phase := .rejected .alreadySubmitted, channel := .dropped, displaced := true } with
          pinReply := some c }
  | _ => none

/-- Source: `fido2.rs` `FidoOperation::submit_pin`, `authenticator.send` and what follows an error -/
def handOver (c : ℕ) (accepted : Bool) (s : State) : Option State :=
  match (s.callers c).phase with
  | .registered _ =>
    if accepted then
      some { s.setCaller c { s.callers c with phase := .waiting } with checking := c :: s.checking }
    else
      match s.pinReply with
      | none => some (s.setCaller c { s.callers c with phase := .rejected .stopped })
      | some other =>
        let s := { s.setCaller other (s.callers other).drop with pinReply := none }
        some (s.setCaller c
          { s.callers c with phase := .rejected .stopped, displaced := decide (other ≠ c) })
  | _ => none

/-- Source: `fido2.rs` `FidoOperation::submit_pin`, the end of the wait -/
def hear (c : ℕ) (s : State) : Option State :=
  match (s.callers c).phase, (s.callers c).channel with
  | .waiting, .filled outcome =>
    some (s.setCaller c { s.callers c with phase := .answered (some outcome) })
  | .waiting, .dropped => some (s.setCaller c { s.callers c with phase := .answered none })
  | _, _ => none

/-- Source: `fido2.rs` `handle_status`, up to the reply -/
def status (status : Status) (s : State) : Option State :=
  match s.worker with
  | .idle =>
    let told := match status.outcome with
      | none => s
      | some outcome => s.report outcome
    some { told with worker := (status.request.map Worker.requesting).getD .idle }
  | _ => none

/-- Source: `fido2.rs` `FidoOperation::request_pin` -/
def request (s : State) : Option State :=
  match s.worker with
  | .requesting sender => some { s with pendingPin := some sender, worker := .idle }
  | _ => none

/-- Source: `fido2.rs` `FidoOperation::cancel`, the next access of a call -/
def cancel (k : ℕ) (error : Option String) (s : State) : Option State :=
  match s.cancels k with
  | .absent => some { s with cancelled := true, cancels := Function.update s.cancels k .stored }
  | .stored => some
    { s.reply cancelledOutcome with cancels := Function.update s.cancels k .replied }
  | .replied =>
    if s.managerSet then
      match error with
      | none => some
        { s with cancels := Function.update s.cancels k (.returned (.ok ())), granted := true }
      | some text => some
        { s with cancels := Function.update s.cancels k (.returned (.error (cancelFailed text))) }
    else some
      { s with cancels := Function.update s.cancels k (.returned (.error operationNotActive)) }
  | .returned _ => none

/-- Source: `fido2.rs` `authenticate`, before `sign` -/
def prepare (error : Option NativeError) (s : State) : Option State :=
  match s.main with
  | .preparing =>
    match error with
    | some error => some { s with main := .returned (.error error) }
    | none => some { s with managerSet := true, worker := .idle, main := .signing }
  | _ => none

/-- Source: `fido2.rs` `authenticate`, `sign` -/
def sign (error : Option AuthenticatorError) (s : State) : Option State :=
  match s.main with
  | .signing =>
    match error with
    | some error => some { s with main := .failing error }
    | none => some { s with main := .receiving }
  | _ => none

/-- Source: `fido2.rs` `authenticate`, `result_rx.recv()` -/
def receive (result : Received) (s : State) : Option State :=
  match s.main with
  | .receiving => some { s with main := .received result }
  | _ => none

/-- Source: `fido2.rs` `authenticate`, the next access where nothing is left open -/
def advance (request : FidoRequest) (s : State) : Option State :=
  match s.main with
  | .failing error => some { s with managerSet := false, main := .failed error }
  | .failed error =>
    if s.worker = .idle then
      some { s with worker := .finished, main := .returned (.error (fidoError error)) }
    else none
  | .received result => some { s with managerSet := false, main := .cleared result }
  | .cleared result => some { s with pendingPin := none, main := .joining result }
  | .joining result =>
    if s.worker = .idle then some { s with worker := .finished, main := .deciding result } else none
  | .deciding result =>
    if s.cancelled then some { s with main := .cancelling }
    else
      match result.result with
      | .error error => some { s with main := .returned (.error error) }
      | .ok result => some { s with main := .accepting result }
  | .cancelling => some
    { s.reply cancelledOutcome with main := .returned (.error cancelledError) }
  | .accepting result => some
    { s.report .accepted with main := .returned (assertion request result) }
  | .preparing | .signing | .receiving | .returned _ => none

end State

/-- One access of one party. -/
inductive Action where
  | submit (c : ℕ) (pin : String)
  | register (c : ℕ)
  | handOver (c : ℕ) (accepted : Bool)
  | hear (c : ℕ)
  | status (status : Status)
  | request
  | cancel (k : ℕ) (error : Option String)
  | prepare (error : Option NativeError)
  | sign (error : Option AuthenticatorError)
  | receive (result : Received)
  | advance

def State.step (request : FidoRequest) (s : State) : Action → Option State
  | .submit c pin => s.submit c pin
  | .register c => s.register c
  | .handOver c accepted => s.handOver c accepted
  | .hear c => s.hear c
  | .status status => s.status status
  | .request => s.request
  | .cancel k error => s.cancel k error
  | .prepare error => s.prepare error
  | .sign error => s.sign error
  | .receive result => s.receive result
  | .advance => s.advance request

/-- The states that are reached when every step is of a kind. -/
inductive Reaches (request : FidoRequest) (kind : State → Action → Prop) : State → Prop
  | start : Reaches request kind {}
  | step {s s' : State} (h : Reaches request kind s) (action : Action) (hkind : kind s action)
      (hstep : s.step request action = some s') : Reaches request kind s'

end ProtonVpnOmarchy.Agent.Fido2
