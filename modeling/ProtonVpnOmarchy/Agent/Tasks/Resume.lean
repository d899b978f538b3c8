import ProtonVpnOmarchy.Agent.Tasks.Basic

/-!
# Recovery after a resume

`native_backend/lifecycle.rs` `reconnect_after_resume`: the sequence that brings a connection back after
the system slept, or after the tunnel was lost.

* `resume_cleared` — a request is submitted only after a check that found no interruption.
-/

namespace ProtonVpnOmarchy.Agent.Tasks.Resume

open Lib Operations

def LIFECYCLE_CLIENT_ID : String := "agent-lifecycle"

/-- In seconds -/
def RESUME_RETRY_DELAYS : List ℕ := [0, 1, 2, 4, 8, 15]

def interrupted (state : StateSnapshot) (initial : List String) : Bool :=
  connectionSequenceInterrupted state initial LIFECYCLE_CLIENT_ID

/-- The sequence is there only for auto-connect, and auto-connect is off. -/
def switchedOff (wasActive : Bool) : Task Bool := do
  if wasActive then return false
  else return !(← ask .autoConnectEnabled)

/-- Source: `lifecycle.rs` `vpn_is_active` -/
def vpnIsActive (status : ConnectionStatus) : Bool := status = .connecting || status = .connected

/-- Wait before an attempt; `false` if the sequence is over. -/
def waitForAttempt (wasActive : Bool) (initial : List String) (seconds : ℕ) : Task Bool :=
  .loop (fun _ : Unit => do
    if interrupted (← ask (.check initial)) initial then return .inr false
    else if ← switchedOff wasActive then return .inr false
    else
      match ← ask (.wait seconds) with
      | .changed => return .inl ()
      | .closed => return .inr false
      | .elapsed => return .inr true) () pure

/-- The request of an attempt; `true` if the next attempt follows. -/
def submitResolved (resolved : Value) : Task Bool := do
  ask (.submit ((resolved.get "connect_params").getD (.obj [])))
  match ← ask .reply with
  | .ok _ =>
    match resolved.get "recent" with
    | none => return false
    | some recent =>
      ask (.record recent)
      return false
  | .error error => return error.retryable && !isCancelledError error.code

def selection (wasActive : Bool) : Value :=
  if wasActive then .obj [("selection", .obj [("type", .string "last")])] else .obj []

/-- An attempt after its delay; `true` if the next attempt follows. -/
def attempt (wasActive : Bool) (initial : List String) : Task Bool := do
  if interrupted (← ask (.check initial)) initial then return false
  else if (← ask .accountStatus) ≠ .signedIn then return true
  else if ← switchedOff wasActive then return false
  else
    match ← ask .observe with
    | .error _ => return true
    | .ok _ =>
      if vpnIsActive (← ask .connectionStatus) then return false
      else if interrupted (← ask (.check initial)) initial then return false
      else if ← switchedOff wasActive then return false
      else
        match ← ask (.resolve (selection wasActive)) with
        | .error _ => return true
        | .ok resolved => submitResolved resolved

/-- The delay before an attempt; `false` if the sequence is over. -/
def delay (wasActive : Bool) (initial : List String) (seconds : ℕ) : Task Bool :=
  if seconds = 0 then pure true else waitForAttempt wasActive initial seconds

/-- The attempts after the delays that remain. -/
def attempts (wasActive : Bool) (initial : List String) : List ℕ → Task Unit
  | [] => return ()
  | seconds :: delays => do
    if !(← delay wasActive initial seconds) then return ()
    else if ← attempt wasActive initial then attempts wasActive initial delays
    else return ()

/-- Source: `lifecycle.rs` `reconnect_after_resume` -/
def reconnectAfterResume (wasActive : Bool) : Task Unit := do
  let autoConnect ← ask .autoConnectEnabled
  if wasActive || autoConnect then
    let initial ← ask .recentOperations
    attempts wasActive initial RESUME_RETRY_DELAYS
  else
    let _ ← ask .observe
    return ()

/-! ## Checks before a request -/

/-- A task that looks for an interruption before it connects. -/
def Looks {α : Type} (task : Task α) : Prop :=
  ∀ past, Cleared LIFECYCLE_CLIENT_ID past →
    Dialogue.Keeps (fun _ => True) (Cleared LIFECYCLE_CLIENT_ID) task past fun _ _ => True

theorem looks_pure {α : Type} (a : α) : Looks (pure a : Task α) :=
  fun _ hcleared => Dialogue.keeps_pure hcleared trivial

theorem looks_bind {α β : Type} {task : Task α} {next : α → Task β} (h : Looks task)
    (hnext : ∀ a, Looks (next a)) : Looks (task >>= next) := by
  intro past hcleared
  refine Dialogue.keeps_bind (h past hcleared) ?_ Dialogue.closed_true
  exact fun a past' hcleared' _ => hnext a past' hcleared'

theorem looks_answer {α : Type} {query : Query} {next : query.Answer → Task α}
    (h : ∀ params, query ≠ .submit params) (hnext : ∀ answer, Looks (next answer)) :
    Looks (ask query >>= next) := by
  intro past hcleared
  refine keeps_answer Dialogue.closed_true hcleared ?_
  intro answer _
  refine hnext answer _ ?_
  cases query with
  | submit params => exact absurd rfl (h params)
  | _ => exact trivial

theorem looks_switchedOff (wasActive : Bool) : Looks (switchedOff wasActive) := by
  unfold switchedOff
  split_ifs
  · exact looks_pure _
  · exact looks_answer nofun fun _ => looks_pure _

theorem looks_waitForAttempt (wasActive : Bool) (initial : List String) (seconds : ℕ) :
    Looks (waitForAttempt wasActive initial seconds) := by
  intro past hcleared
  refine Dialogue.keeps_loop (fun _ _ => True) (fun _ _ => True) Dialogue.closed_true ?_ ?_ hcleared
    trivial
  · intro _ past hcleared _
    have hround : Looks (do
        if interrupted (← ask (.check initial)) initial then return Sum.inr false
        else if ← switchedOff wasActive then return .inr false
        else
          match ← ask (.wait seconds) with
          | .changed => return Sum.inl ()
          | .closed => return .inr false
          | .elapsed => return .inr true) := by
      refine looks_answer nofun fun snapshot => ?_
      split_ifs
      · exact looks_pure _
      refine looks_bind (looks_switchedOff wasActive) fun off => ?_
      split_ifs
      · exact looks_pure _
      refine looks_answer nofun ?_
      rintro (_ | _ | _)
      · exact looks_pure _
      · exact looks_pure _
      · exact looks_pure _
    intro n rest past' htalks hrely
    refine ⟨(hround past hcleared n rest past' htalks hrely).1, ?_⟩
    rintro (_ | _) _
    · exact trivial
    · exact trivial
  · exact fun _ past hcleared _ => Dialogue.keeps_pure hcleared trivial

/-- The last check is the one before the preference and the store are asked. -/
theorem keeps_switchedOff {initial : List String} {snapshot : StateSnapshot} (wasActive : Bool)
    {past : List Event} (hcleared : Cleared LIFECYCLE_CLIENT_ID past)
    (hcheck : lastCheck past = some (initial, snapshot)) :
    Dialogue.Keeps (fun _ => True) (Cleared LIFECYCLE_CLIENT_ID) (switchedOff wasActive) past
      fun _ past' => lastCheck past' = some (initial, snapshot) := by
  unfold switchedOff
  split_ifs
  · exact Dialogue.keeps_pure hcleared hcheck
  · refine keeps_answer Dialogue.closed_true hcleared ?_
    exact fun _ _ => Dialogue.keeps_pure trivial hcheck

theorem keeps_submitResolved {initial : List String} {snapshot : StateSnapshot} (resolved : Value)
    {past : List Event} (hcleared : Cleared LIFECYCLE_CLIENT_ID past)
    (hcheck : lastCheck past = some (initial, snapshot))
    (hinterrupted : interrupted snapshot initial = false) :
    Dialogue.Keeps (fun _ => True) (Cleared LIFECYCLE_CLIENT_ID) (submitResolved resolved) past
      fun _ _ => True := by
  unfold submitResolved
  refine keeps_answer Dialogue.closed_true hcleared ?_
  intro _ _
  refine keeps_answer Dialogue.closed_true ⟨initial, snapshot, hcheck, hinterrupted⟩ ?_
  rintro (error | value) _
  · exact Dialogue.keeps_pure trivial trivial
  · dsimp only
    rcases resolved.get "recent" with _ | recent
    · exact Dialogue.keeps_pure trivial trivial
    · refine keeps_answer Dialogue.closed_true trivial ?_
      exact fun _ _ => Dialogue.keeps_pure trivial trivial

theorem looks_attempt (wasActive : Bool) (initial : List String) :
    Looks (attempt wasActive initial) := by
  unfold attempt
  refine looks_answer nofun fun snapshot => ?_
  split_ifs
  · exact looks_pure _
  refine looks_answer nofun fun status => ?_
  split_ifs
  · exact looks_pure _
  refine looks_bind (looks_switchedOff wasActive) fun off => ?_
  split_ifs
  · exact looks_pure _
  refine looks_answer nofun ?_
  rintro (error | value)
  · exact looks_pure _
  refine looks_answer nofun fun status => ?_
  split_ifs
  · exact looks_pure _
  intro past hcleared
  refine keeps_answer Dialogue.closed_true hcleared ?_
  intro snapshot _
  split_ifs with hinterrupted
  · exact Dialogue.keeps_pure trivial trivial
  refine Dialogue.keeps_bind (keeps_switchedOff wasActive trivial rfl) ?_ Dialogue.closed_true
  intro off past' hcleared' hcheck
  split_ifs
  · exact Dialogue.keeps_pure hcleared' trivial
  refine keeps_answer Dialogue.closed_true hcleared' ?_
  rintro (error | resolved) _
  · exact Dialogue.keeps_pure trivial trivial
  · exact keeps_submitResolved resolved trivial hcheck (Bool.not_eq_true _ ▸ hinterrupted)

theorem looks_attempts (wasActive : Bool) (initial : List String) (delays : List ℕ) :
    Looks (attempts wasActive initial delays) := by
  induction delays with
  | nil => exact looks_pure _
  | cons seconds delays ih =>
      unfold attempts
      refine looks_bind ?_ fun goesOn => ?_
      · unfold delay
        split_ifs
        · exact looks_pure _
        · exact looks_waitForAttempt wasActive initial seconds
      · split_ifs
        · exact looks_pure _
        refine looks_bind (looks_attempt wasActive initial) fun next => ?_
        split_ifs
        · exact ih
        · exact looks_pure _

/-- **The recovery submits a request only after a check that found no interruption.** -/
theorem resume_cleared {n : ℕ} {wasActive : Bool} {rest : Task Unit} {past : List Event}
    (h : Dialogue.Talks n (reconnectAfterResume wasActive) [] rest past) :
    Cleared LIFECYCLE_CLIENT_ID past := by
  have hlooks : Looks (reconnectAfterResume wasActive) := by
    unfold reconnectAfterResume
    refine looks_answer nofun fun autoConnect => ?_
    split_ifs
    · exact looks_answer nofun fun initial => looks_attempts wasActive initial _
    · exact looks_answer nofun fun _ => looks_pure _
  exact (hlooks [] trivial n rest past h trivial).1

end ProtonVpnOmarchy.Agent.Tasks.Resume
