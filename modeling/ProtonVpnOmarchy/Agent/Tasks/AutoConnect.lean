import ProtonVpnOmarchy.Agent.Tasks.Basic

/-!
# Auto-connect

`autoconnect.rs`: the task that connects when the agent starts, when auto-connect is switched on and
when the account becomes ready, and that gives up when a client takes over.

* `attempt_keeps` — what a sequence of attempts leaves behind.
* `autoConnect_within_triggers` — at most `MAX_ATTEMPTS` requests for each trigger, none while the
  preference was read as off, and none after a cancellation until it is switched on again, as long as
  the two places at which the task forgets something are not reached.
* `connects_after_cancellation` — the first of them.
-/

namespace ProtonVpnOmarchy.Agent.Tasks.AutoConnect

open Lib Operations

def AUTOCONNECT_CLIENT_ID : String := "agent-autoconnect"

def MAX_ATTEMPTS : ℕ := 8

inductive AttemptOutcome where
  | waitingForAccount
  | finished
  | interrupted
  deriving DecidableEq

/-- Source: `autoconnect.rs` `user_interrupted` -/
def userInterrupted (state : StateSnapshot) (initial : List String) : Bool :=
  connectionSequenceInterrupted state initial AUTOCONNECT_CLIENT_ID

/-- The last part of an attempt: the request and its reply. -/
def submitResolved (resolved : Value) : Task (Except BackendError Unit) := do
  ask (.submit ((resolved.get "connect_params").getD (.obj [])))
  match ← ask .reply with
  | .error error => return .error error
  | .ok _ =>
    match resolved.get "recent" with
    | none => return .ok ()
    | some recent =>
      ask (.record recent)
      return .ok ()

/-- The part of an attempt for an account that is signed in. -/
def attemptSignedIn (initial : List String) : Task (Except BackendError Unit) := do
  match ← ask .observe with
  | .error error => return .error error
  | .ok _ =>
    let status ← ask .connectionStatus
    if status = .connecting ∨ status = .connected then return .ok ()
    else if !(← ask .autoConnectEnabled) then return .ok ()
    else if userInterrupted (← ask (.check initial)) initial then return .ok ()
    else
      match ← ask (.resolve (.obj [])) with
      | .error error => return .error error
      | .ok resolved => submitResolved resolved

/-- The result, and whether the account was found signed in.
Source: `autoconnect.rs` `attempt_once` -/
def attemptOnce (initial : List String) (authenticated : Bool) :
    Task (Except BackendError Unit × Bool) := do
  if !(← ask .autoConnectEnabled) then return (.ok (), authenticated)
  else
    match ← ask .accountGet with
    | .error error => return (.error error, authenticated)
    | .ok account =>
      if ((account.get "logged_in").bind Value.asBool).getD false then
        return (← attemptSignedIn initial, true)
      else return (.ok (), authenticated)

/-- Wait for the next attempt; `some` if there is none. -/
def waitForRetry (initial : List String) (seconds : ℕ) : Task (Option AttemptOutcome) :=
  .loop (fun _ : Unit => do
    if userInterrupted (← ask (.check initial)) initial then return .inr (some .interrupted)
    else if !(← ask .autoConnectEnabled) then return .inr (some .finished)
    else if (← ask .connectionStatus) = .connected then return .inr (some .finished)
    else
      match ← ask (.wait seconds) with
      | .changed => return .inl ()
      | .closed => return .inr (some .finished)
      | .elapsed => return .inr none) () pure

/-- The outcome of a sequence that is over. -/
def ending (authenticated : Bool) : AttemptOutcome :=
  if authenticated then .finished else .waitingForAccount

/-- The attempts that remain. -/
def attemptFrom (initial : List String) : ℕ → Bool → Task AttemptOutcome
  | 0, authenticated => return ending authenticated
  | remaining + 1, authenticated => do
    if userInterrupted (← ask (.check initial)) initial then return .interrupted
    else if !(← ask .autoConnectEnabled) then return ending authenticated
    else
      let (result, authenticated) ← attemptOnce initial authenticated
      if userInterrupted (← ask (.check initial)) initial then return .interrupted
      else
        match result with
        | .ok () => return ending authenticated
        | .error error =>
          if isCancelledError error.code then return .interrupted
          else if !error.retryable || remaining = 0 then return ending authenticated
          else
            match ← waitForRetry initial (min (5 <<< (MAX_ATTEMPTS - (remaining + 1))) 60) with
            | some outcome => return outcome
            | none => attemptFrom initial remaining authenticated

/-- Source: `autoconnect.rs` `attempt` -/
def attempt (initial : List String) : Task AttemptOutcome := attemptFrom initial MAX_ATTEMPTS false

/-- What the task remembers between changes of the state. -/
structure Memory where
  previousAutoConnect : Bool
  previousAccount : AccountStatus
  userStopped : Bool
  initialOperations : List String

/-- What the task remembers of a snapshot, and whether it starts a sequence. -/
def noteSnapshot (memory : Memory) (snapshot : StateSnapshot) : Memory × Bool :=
  let autoConnect := snapshot.store.autoConnect
  let enabledNow := autoConnect && !memory.previousAutoConnect
  let sessionBecameReady := autoConnect && snapshot.account.status = .signedIn &&
    memory.previousAccount ≠ .signedIn
  let userStopped :=
    (memory.userStopped || userInterrupted snapshot memory.initialOperations) && !enabledNow
  ({ previousAutoConnect := autoConnect
     previousAccount := snapshot.account.status
     userStopped := userStopped
     initialOperations :=
       if enabledNow then recentOperationIds snapshot else memory.initialOperations },
    enabledNow || (sessionBecameReady && !userStopped))

/-- One round of the loop of `run`. -/
def onChange (memory : Memory) : Task (Memory ⊕ Unit) := do
  match ← ask (.changed memory.initialOperations) with
  | none => return .inr ()
  | some snapshot =>
    let (memory, starts) := noteSnapshot memory snapshot
    if starts then
      let outcome ← attempt memory.initialOperations
      let previousAutoConnect ← ask .autoConnectEnabled
      let previousAccount ← ask .accountStatus
      return .inl { memory with
        previousAutoConnect := previousAutoConnect
        previousAccount := previousAccount
        userStopped := memory.userStopped || outcome = .interrupted }
    else return .inl memory

/-- The sequence that the start of the agent begins. -/
def onStart (memory : Memory) : Task Memory := do
  match ← attempt memory.initialOperations with
  | .finished => return { memory with previousAccount := ← ask .accountStatus }
  | .interrupted => return { memory with userStopped := true }
  | .waitingForAccount => return memory

/-- Source: `autoconnect.rs` `run` -/
def run : Task Unit := do
  let previousAutoConnect ← ask .autoConnectEnabled
  let previousAccount ← ask .accountStatus
  let initialOperations ← ask .recentOperations
  let enabled ← ask .autoConnectEnabled
  let memory := Memory.mk previousAutoConnect previousAccount false initialOperations
  let memory ← if enabled then onStart memory else pure memory
  .loop onChange memory pure

/-! ## What the task has seen and done -/

/-- What a history of the task says. -/
structure Record where
  /-- The preference as it was read last -/
  flag : Option Bool := none
  /-- The status of the account as it was read last -/
  account : Option AccountStatus := none
  /-- There was a cancellation or an interruption, and the preference was not switched on since. -/
  stopped : Bool := false
  /-- How many requests were submitted since the last trigger, if there was one -/
  submitted : Option ℕ := none

/-- A reading of the preference: the first one, if it is on, and each one that is on after one that
was off are triggers. -/
def Record.readFlag (record : Record) (flag : Bool) : Record :=
  if flag && record.flag ≠ some true then
    { record with flag := some flag, stopped := false, submitted := some 0 }
  else { record with flag := some flag }

/-- A snapshot that the task waited for: a change of the account to signed in is a trigger. -/
def Record.readSnapshot (record : Record) (snapshot : StateSnapshot) (initial : List String) :
    Record :=
  let record := { record with stopped := record.stopped || userInterrupted snapshot initial }
  let record := record.readFlag snapshot.store.autoConnect
  let ready := snapshot.store.autoConnect && snapshot.account.status = .signedIn &&
    record.account ≠ some .signedIn && !record.stopped
  { record with
    account := some snapshot.account.status
    submitted := if ready then some 0 else record.submitted }

/-- A reply: a cancelled one stops the task. -/
def Record.readReply (record : Record) (reply : Except BackendError Value) : Record :=
  match reply with
  | .ok _ => record
  | .error error => { record with stopped := record.stopped || isCancelledError error.code }

def Record.note (record : Record) : Event → Record
  | ⟨.autoConnectEnabled, flag⟩ => record.readFlag flag
  | ⟨.accountStatus, status⟩ => { record with account := some status }
  | ⟨.check initial, snapshot⟩ =>
    { record with stopped := record.stopped || userInterrupted snapshot initial }
  | ⟨.changed initial, some snapshot⟩ => record.readSnapshot snapshot initial
  | ⟨.accountGet, reply⟩ => record.readReply reply
  | ⟨.observe, reply⟩ => record.readReply reply
  | ⟨.resolve _, reply⟩ => record.readReply reply
  | ⟨.reply, reply⟩ => record.readReply reply
  | ⟨.submit _, _⟩ => { record with submitted := record.submitted.map (· + 1) }
  | _ => record

/-- The record of a history, which has its newest event first. -/
def record : List Event → Record
  | [] => {}
  | event :: past => (record past).note event

/-- A request is submitted only after a trigger, at most `MAX_ATTEMPTS` of them for each, while the
preference is on, and not after a cancellation or an interruption. -/
def Within : List Event → Prop
  | ⟨.submit _, _⟩ :: past =>
    (record past).flag = some true ∧ (record past).stopped = false ∧
      ∃ n < MAX_ATTEMPTS, (record past).submitted = some n
  | _ => True

/-! ## What the task relies on -/

/-- The preference as it was read, the first reading first. -/
def flagReads (past : List Event) : List Bool :=
  past.reverse.filterMap fun
    | ⟨.autoConnectEnabled, flag⟩ => some flag
    | _ => none

/-- The preference is not switched on between the first two readings of it. -/
def StartsAlike (past : List Event) : Prop := (flagReads past).take 2 ≠ [false, true]

/-- An interruption that a check sees is still there at a check that follows directly. -/
def Confirmed : List Event → Prop
  | ⟨.check initial', later⟩ :: ⟨.check initial, earlier⟩ :: past =>
    (initial' = initial → userInterrupted earlier initial = true →
      userInterrupted later initial = true) ∧ Confirmed (⟨.check initial, earlier⟩ :: past)
  | _ :: past => Confirmed past
  | [] => True

/-- The task does not get to the places at which it forgets something. -/
def Remembered (past : List Event) : Prop := StartsAlike past ∧ Confirmed past

theorem Confirmed.of_cons {event : Event} {past : List Event} (h : Confirmed (event :: past)) :
    Confirmed past := by
  unfold Confirmed at h
  split at h
  · next heq =>
      obtain ⟨-, rfl⟩ := List.cons.inj heq
      exact h.2
  · next heq =>
      obtain ⟨-, rfl⟩ := List.cons.inj heq
      exact h
  · next heq => cases heq

theorem closed_remembered : Dialogue.Closed Remembered := by
  intro event past h
  refine ⟨?_, h.2.of_cons⟩
  intro heq
  refine h.1 ?_
  unfold flagReads at heq ⊢
  rw [List.reverse_cons, List.filterMap_append]
  have hlength := congrArg List.length heq
  rw [List.length_take, List.length_cons, List.length_singleton] at hlength
  rw [List.take_append_of_le_length (by omega), heq]

/-! ## Attempts -/

/-- At most `n` requests since the last trigger, and no cancellation. -/
def Budget (n : ℕ) (past : List Event) : Prop :=
  (∃ m ≤ n, (record past).submitted = some m) ∧ (record past).stopped = false

/-- The last event is a check that sees an interruption. -/
def SeesInterruption (initial : List String) : List Event → Prop
  | ⟨.check initial', snapshot⟩ :: _ =>
    initial' = initial ∧ userInterrupted snapshot initial = true
  | _ => False

section budget

variable {n : ℕ} {past : List Event}

theorem Budget.mono {m : ℕ} (h : Budget n past) (hle : n ≤ m) : Budget m past := by
  obtain ⟨⟨k, hk, hsubmitted⟩, hstopped⟩ := h
  exact ⟨⟨k, by omega, hsubmitted⟩, hstopped⟩

theorem Budget.flag (h : Budget n past) (flag : Bool) :
    Budget n (⟨.autoConnectEnabled, flag⟩ :: past) := by
  obtain ⟨hsubmitted, hstopped⟩ := h
  unfold Budget
  rw [show record (⟨.autoConnectEnabled, flag⟩ :: past) = (record past).readFlag flag from rfl]
  unfold Record.readFlag
  split_ifs
  · exact ⟨⟨0, Nat.zero_le n, rfl⟩, rfl⟩
  · exact ⟨hsubmitted, hstopped⟩

theorem Budget.check (h : Budget n past) (initial : List String) {snapshot : StateSnapshot}
    (hsnapshot : userInterrupted snapshot initial = false) :
    Budget n (⟨.check initial, snapshot⟩ :: past) := by
  refine ⟨h.1, ?_⟩
  show ((record past).stopped || userInterrupted snapshot initial) = false
  rw [h.2, hsnapshot]
  rfl

/-- A reply that is not a cancellation. -/
theorem Budget.readReply {record : Record} (h : (∃ m ≤ n, record.submitted = some m) ∧
    record.stopped = false) {reply : Except BackendError Value}
    (hreply : ∀ error, reply = .error error → isCancelledError error.code = false) :
    (∃ m ≤ n, (record.readReply reply).submitted = some m) ∧
      (record.readReply reply).stopped = false := by
  rcases reply with error | value
  · refine ⟨h.1, ?_⟩
    show (record.stopped || isCancelledError error.code) = false
    rw [h.2, hreply error rfl]
    rfl
  · exact h

end budget

/-- What an attempt leaves behind: its budget, unless it ends with a cancellation, or with a check
that sees an interruption. -/
def AttemptLeaves (n : ℕ) (initial : List String) (result : Except BackendError Unit)
    (past : List Event) : Prop :=
  Budget n past ∨ (∃ error, result = .error error ∧ isCancelledError error.code = true) ∨
    SeesInterruption initial past

/-- A reply that ends an attempt with its error. -/
theorem attemptLeaves_error {n : ℕ} {initial : List String} {past past' : List Event}
    {error : BackendError} (h : Budget n past)
    (hrecord : record past' = (record past).readReply (.error error)) :
    AttemptLeaves n initial (.error error) past' := by
  rcases hcancelled : isCancelledError error.code with _ | _
  · refine .inl ?_
    unfold Budget
    rw [hrecord]
    refine Budget.readReply h ?_
    intro error' heq
    rw [← Except.error.inj heq]
    exact hcancelled
  · exact .inr (.inl ⟨error, rfl, hcancelled⟩)

theorem submitResolved_keeps {n : ℕ} {initial : List String} {past : List Event} (resolved : Value)
    (hsafe : Within past) (hflag : (record past).flag = some true) (h : Budget n past)
    (hn : n < MAX_ATTEMPTS) :
    Dialogue.Keeps Remembered Within (submitResolved resolved) past
      (AttemptLeaves (n + 1) initial) := by
  unfold submitResolved
  refine keeps_answer closed_remembered hsafe ?_
  intro _ _
  have hbudget : Budget (n + 1)
      (⟨.submit ((resolved.get "connect_params").getD (.obj [])), ()⟩ :: past) := by
    obtain ⟨⟨m, hm, hsubmitted⟩, hstopped⟩ := h
    refine ⟨⟨m + 1, by omega, ?_⟩, hstopped⟩
    show (record past).submitted.map (· + 1) = some (m + 1)
    rw [hsubmitted]
    rfl
  have hwithin : Within
      (⟨.submit ((resolved.get "connect_params").getD (.obj [])), ()⟩ :: past) := by
    obtain ⟨⟨m, hm, hsubmitted⟩, hstopped⟩ := h
    exact ⟨hflag, hstopped, m, by omega, hsubmitted⟩
  refine keeps_answer closed_remembered hwithin ?_
  rintro (error | value) _
  · exact Dialogue.keeps_pure trivial (attemptLeaves_error hbudget rfl)
  · dsimp only
    rcases resolved.get "recent" with _ | recent
    · exact Dialogue.keeps_pure trivial (.inl hbudget)
    · refine keeps_answer closed_remembered trivial ?_
      intro _ _
      exact Dialogue.keeps_pure trivial (.inl hbudget)

theorem attemptSignedIn_keeps {n : ℕ} {initial : List String} {past : List Event}
    (hsafe : Within past) (h : Budget n past) (hn : n < MAX_ATTEMPTS) :
    Dialogue.Keeps Remembered Within (attemptSignedIn initial) past
      (AttemptLeaves (n + 1) initial) := by
  unfold attemptSignedIn
  refine keeps_answer closed_remembered hsafe ?_
  rintro (error | value) _
  · exact Dialogue.keeps_pure trivial (attemptLeaves_error (h.mono n.le_succ) rfl)
  have hobserved : Budget n (⟨.observe, .ok value⟩ :: past) := h
  refine keeps_answer closed_remembered trivial ?_
  intro status _
  split_ifs
  · exact Dialogue.keeps_pure trivial (.inl (hobserved.mono n.le_succ))
  refine keeps_answer closed_remembered trivial ?_
  intro flag _
  have hflag := (show Budget n (⟨.connectionStatus, status⟩ :: _) from hobserved).flag flag
  split_ifs with hoff
  · exact Dialogue.keeps_pure trivial (.inl (hflag.mono n.le_succ))
  refine keeps_answer closed_remembered trivial ?_
  intro snapshot _
  split_ifs with hinterrupted
  · exact Dialogue.keeps_pure trivial (.inr (.inr ⟨rfl, hinterrupted⟩))
  have hcheck := hflag.check initial (Bool.not_eq_true _ ▸ hinterrupted)
  refine keeps_answer closed_remembered trivial ?_
  rintro (error | resolved) _
  · exact Dialogue.keeps_pure trivial (attemptLeaves_error (hcheck.mono n.le_succ) rfl)
  · refine submitResolved_keeps resolved trivial ?_ hcheck hn
    -- The reading of the preference before the check was on.
    obtain rfl : flag = true := by simpa using hoff
    show ((record _).readFlag true).flag = some true
    unfold Record.readFlag
    split_ifs <;> rfl

theorem attemptOnce_keeps {n : ℕ} {initial : List String} {past : List Event} (authenticated : Bool)
    (hsafe : Within past) (h : Budget n past) (hn : n < MAX_ATTEMPTS) :
    Dialogue.Keeps Remembered Within (attemptOnce initial authenticated) past
      fun result => AttemptLeaves (n + 1) initial result.1 := by
  unfold attemptOnce
  refine keeps_answer closed_remembered hsafe ?_
  intro flag _
  have hflag := h.flag flag
  split_ifs
  · exact Dialogue.keeps_pure trivial (.inl (hflag.mono n.le_succ))
  refine keeps_answer closed_remembered trivial ?_
  rintro (error | account) _
  · exact Dialogue.keeps_pure trivial (attemptLeaves_error (hflag.mono n.le_succ) rfl)
  dsimp only
  split_ifs
  · refine Dialogue.keeps_bind (attemptSignedIn_keeps trivial hflag hn) ?_
      closed_remembered
    intro result past' hsafe hleaves
    exact Dialogue.keeps_pure hsafe hleaves
  · exact Dialogue.keeps_pure trivial (.inl (hflag.mono n.le_succ))

theorem waitForRetry_keeps {n : ℕ} {initial : List String} {past : List Event} (seconds : ℕ)
    (hsafe : Within past) (h : Budget n past) :
    Dialogue.Keeps Remembered Within (waitForRetry initial seconds) past
      fun outcome past' => outcome ≠ some .interrupted → Budget n past' := by
  unfold waitForRetry
  refine Dialogue.keeps_loop (fun _ => Budget n)
    (fun outcome past => outcome ≠ some .interrupted → Budget n past)
    closed_remembered ?_ ?_ hsafe h
  · intro _ past hsafe h
    refine keeps_answer closed_remembered hsafe ?_
    intro snapshot _
    split_ifs with hinterrupted
    · exact Dialogue.keeps_pure trivial fun hne => absurd rfl hne
    have hcheck := h.check initial (Bool.not_eq_true _ ▸ hinterrupted)
    refine keeps_answer closed_remembered trivial ?_
    intro flag _
    have hflag := hcheck.flag flag
    split_ifs
    · exact Dialogue.keeps_pure trivial fun _ => hflag
    refine keeps_answer closed_remembered trivial ?_
    intro status _
    split_ifs
    · exact Dialogue.keeps_pure trivial fun _ => hflag
    refine keeps_answer closed_remembered trivial ?_
    rintro (_ | _ | _) _
    · exact Dialogue.keeps_pure trivial hflag
    · exact Dialogue.keeps_pure trivial fun _ => hflag
    · exact Dialogue.keeps_pure trivial fun _ => hflag
  · intro outcome past hsafe h
    exact Dialogue.keeps_pure hsafe h

/-- **What a sequence of attempts leaves behind: if it does not say that it was interrupted, there was
no cancellation.** -/
theorem attemptFrom_keeps {initial : List String} (remaining : ℕ) {n : ℕ} {past : List Event}
    (authenticated : Bool) (hsafe : Within past) (h : Budget n past)
    (hn : n + remaining ≤ MAX_ATTEMPTS) :
    Dialogue.Keeps Remembered Within (attemptFrom initial remaining authenticated) past
      fun outcome past' => outcome ≠ .interrupted → (record past').stopped = false := by
  induction remaining generalizing n past authenticated with
  | zero => exact Dialogue.keeps_pure hsafe fun _ => h.2
  | succ remaining ih =>
      unfold attemptFrom
      refine keeps_answer closed_remembered hsafe ?_
      intro snapshot _
      split_ifs with hinterrupted
      · exact Dialogue.keeps_pure trivial fun hne => absurd rfl hne
      have hcheck := h.check initial (Bool.not_eq_true _ ▸ hinterrupted)
      refine keeps_answer closed_remembered trivial ?_
      intro flag _
      have hflag := hcheck.flag flag
      split_ifs
      · exact Dialogue.keeps_pure trivial fun _ => hflag.2
      refine Dialogue.keeps_bind (attemptOnce_keeps authenticated trivial hflag (by omega)) ?_
        closed_remembered
      rintro ⟨result, authenticated⟩ past' hsafe' hleaves
      refine keeps_answer closed_remembered hsafe' ?_
      intro snapshot' hremembered
      split_ifs with hinterrupted'
      · exact Dialogue.keeps_pure trivial fun hne => absurd rfl hne
      rcases hleaves with hbudget | ⟨error, rfl, hcancelled⟩ | hsees
      · have hcheck' := hbudget.check initial (Bool.not_eq_true _ ▸ hinterrupted')
        rcases result with error | _
        · dsimp only
          split_ifs
          · exact Dialogue.keeps_pure trivial fun hne => absurd rfl hne
          · exact Dialogue.keeps_pure trivial fun _ => hcheck'.2
          refine Dialogue.keeps_bind (waitForRetry_keeps _ trivial hcheck') ?_ closed_remembered
          rintro (_ | outcome) past'' hsafe'' hwait
          · exact ih authenticated hsafe'' (hwait nofun) (by omega)
          · refine Dialogue.keeps_pure hsafe'' ?_
            intro hne
            exact (hwait fun heq => hne (Option.some.inj heq)).2
        · exact Dialogue.keeps_pure trivial fun _ => hcheck'.2
      · dsimp only
        rw [if_pos hcancelled]
        exact Dialogue.keeps_pure trivial fun hne => absurd rfl hne
      · -- The check of the attempt saw an interruption, so this one sees it.
        unfold SeesInterruption at hsees
        split at hsees
        · next initial' earlier past'' =>
            obtain ⟨rfl, hearlier⟩ := hsees
            exact absurd (hremembered.2.1 rfl hearlier) hinterrupted'
        · exact absurd hsees id

/-! ## The loop -/

/-- What the task remembers agrees with what it has seen. -/
structure Agrees (memory : Memory) (past : List Event) : Prop where
  flag : memory.previousAutoConnect = false → (record past).flag = some false
  account : (record past).account = some memory.previousAccount
  stopped : (record past).stopped = true → memory.userStopped = true

theorem readFlag_flag (record : Record) (flag : Bool) :
    (record.readFlag flag).flag = some flag := by
  unfold Record.readFlag
  split_ifs <;> rfl

theorem readFlag_account (record : Record) (flag : Bool) :
    (record.readFlag flag).account = record.account := by
  unfold Record.readFlag
  split_ifs <;> rfl

/-- Reading the preference does not stop the task. -/
theorem stopped_of_readFlag {record : Record} {flag : Bool}
    (h : (record.readFlag flag).stopped = true) : record.stopped = true := by
  unfold Record.readFlag at h
  split_ifs at h
  exact h

/-- A snapshot after which what is remembered still agrees; if it starts a sequence, there is a
trigger. -/
theorem noteSnapshot_agrees {memory : Memory} {past : List Event} (h : Agrees memory past)
    (snapshot : StateSnapshot) :
    Agrees (noteSnapshot memory snapshot).1
      (⟨.changed memory.initialOperations, some snapshot⟩ :: past) ∧
    ((noteSnapshot memory snapshot).2 = true →
      Budget 0 (⟨.changed memory.initialOperations, some snapshot⟩ :: past)) := by
  have hrecord : record (⟨.changed memory.initialOperations, some snapshot⟩ :: past) =
      (record past).readSnapshot snapshot memory.initialOperations := rfl
  unfold Budget
  set interrupted := userInterrupted snapshot memory.initialOperations with hinterrupted
  by_cases hon : snapshot.store.autoConnect = true ∧ memory.previousAutoConnect = false
  · -- The preference was switched on.
    obtain ⟨hauto, hprevious⟩ := hon
    have hflag := h.flag hprevious
    have hread : (record past).readSnapshot snapshot memory.initialOperations =
        { flag := some true
          account := some snapshot.account.status
          stopped := false
          submitted := some 0 } := by
      simp [Record.readSnapshot, Record.readFlag, hauto, hflag]
    rw [hrecord, hread]
    refine ⟨⟨?_, ?_, ?_⟩, fun _ => ⟨⟨0, le_rfl, rfl⟩, rfl⟩⟩
    rotate_left
    · rw [hrecord, hread]
      rfl
    · intro hstop
      rw [hrecord, hread] at hstop
      cases hstop
    intro hoff
    rw [show (noteSnapshot memory snapshot).1.previousAutoConnect =
      snapshot.store.autoConnect from rfl, hauto] at hoff
    cases hoff
  · have henabled : (snapshot.store.autoConnect && !memory.previousAutoConnect) = false := by
      simpa using hon
    have hstopped : (noteSnapshot memory snapshot).1.userStopped =
        (memory.userStopped || interrupted) := by
      simp [noteSnapshot, henabled, hinterrupted]
    have hread : ((record past).readSnapshot snapshot memory.initialOperations).stopped = true →
        memory.userStopped = true ∨ interrupted = true := by
      intro hstop
      have hflagged : (Record.readFlag { record past with
          stopped := (record past).stopped || interrupted } snapshot.store.autoConnect).stopped =
            true := hstop
      have hstop' := stopped_of_readFlag hflagged
      rcases (Bool.or_eq_true _ _).mp hstop' with hearlier | hnow
      · exact .inl (h.stopped hearlier)
      · exact .inr hnow
    rw [hrecord]
    refine ⟨⟨?_, rfl, ?_⟩, ?_⟩
    · intro hoff
      have hoff' : snapshot.store.autoConnect = false := hoff
      show (Record.readFlag _ snapshot.store.autoConnect).flag = some false
      rw [readFlag_flag, hoff']
    · intro hstop
      rw [hstopped]
      simpa using hread hstop
    · -- The account became ready, and the task was not stopped.
      intro hstarts
      simp only [noteSnapshot, henabled, Bool.false_or, Bool.not_false, Bool.and_true,
        Bool.and_eq_true, decide_eq_true_eq, Bool.not_eq_true', Bool.or_eq_false_iff] at hstarts
      obtain ⟨⟨⟨hauto, hsigned⟩, hbefore⟩, huser, hnot⟩ := hstarts
      have hrunning : ((record past).readSnapshot snapshot memory.initialOperations).stopped =
          false := by
        rw [Bool.eq_false_iff]
        intro hstop
        rcases hread hstop with hstop | hstop
        · rw [huser] at hstop
          cases hstop
        · rw [hinterrupted, hnot] at hstop
          cases hstop
      refine ⟨⟨0, le_rfl, ?_⟩, hrunning⟩
      have hready : (snapshot.store.autoConnect && snapshot.account.status = .signedIn &&
          (Record.readFlag { record past with
            stopped := (record past).stopped || interrupted }
            snapshot.store.autoConnect).account ≠ some .signedIn &&
          !(Record.readFlag { record past with
            stopped := (record past).stopped || interrupted }
            snapshot.store.autoConnect).stopped) = true := by
        rw [readFlag_account]
        have hrunning' : (Record.readFlag { record past with
            stopped := (record past).stopped || interrupted }
            snapshot.store.autoConnect).stopped = false := hrunning
        rw [hrunning']
        have haccount : (record past).account ≠ some .signedIn := by
          rw [h.account]
          exact fun heq => hbefore (Option.some.inj heq)
        simp [hauto, hsigned, haccount]
      unfold Record.readSnapshot
      dsimp only
      rw [if_pos hready]

theorem onChange_keeps {memory : Memory} {past : List Event} (hsafe : Within past)
    (h : Agrees memory past) :
    Dialogue.Keeps Remembered Within (onChange memory) past fun result past' =>
      result.elim (Agrees · past') fun _ => True := by
  unfold onChange
  refine keeps_answer closed_remembered hsafe ?_
  rintro (_ | snapshot) _
  · exact Dialogue.keeps_pure trivial trivial
  obtain ⟨hagrees, hstarts⟩ := noteSnapshot_agrees h snapshot
  dsimp only
  split_ifs with hstart
  · refine Dialogue.keeps_bind
      (attemptFrom_keeps MAX_ATTEMPTS false trivial (hstarts hstart) (by omega)) ?_
      closed_remembered
    intro outcome past' hsafe' houtcome
    refine keeps_answer closed_remembered hsafe' ?_
    intro flag _
    refine keeps_answer closed_remembered trivial ?_
    intro status _
    refine Dialogue.keeps_pure trivial ⟨?_, rfl, ?_⟩
    · intro hoff
      show ((record past').readFlag flag).flag = some false
      rw [readFlag_flag, show flag = false from hoff]
    · intro hstop
      have hstop' : ((record past').readFlag flag).stopped = true := hstop
      have hbefore := stopped_of_readFlag hstop'
      rw [Bool.or_eq_true, decide_eq_true_eq]
      by_contra hne
      rw [houtcome fun heq => hne (.inr heq)] at hbefore
      cases hbefore
  · exact Dialogue.keeps_pure trivial hagrees

/-! ## Runs -/

/-- A task that looks for an interruption before it connects, and does not look at the account. -/
def Looks {α : Type} (task : Task α) : Prop :=
  ∀ past account, Cleared AUTOCONNECT_CLIENT_ID past → (record past).account = account →
    Dialogue.Keeps (fun _ => True) (Cleared AUTOCONNECT_CLIENT_ID) task past
      fun _ past' => (record past').account = account

theorem readReply_account (record : Record) (reply : Except BackendError Value) :
    (record.readReply reply).account = record.account := by
  rcases reply with error | value <;> rfl

theorem looks_pure {α : Type} (a : α) : Looks (pure a : Task α) :=
  fun _ _ hcleared haccount => Dialogue.keeps_pure hcleared haccount

theorem looks_bind {α β : Type} {task : Task α} {next : α → Task β} (h : Looks task)
    (hnext : ∀ a, Looks (next a)) : Looks (task >>= next) := by
  intro past account hcleared haccount
  refine Dialogue.keeps_bind (h past account hcleared haccount) ?_ Dialogue.closed_true
  exact fun a past' hcleared' haccount' => hnext a past' account hcleared' haccount'

/-- The questions that are neither about the account nor a request to connect. -/
def IsQuiet : Query → Prop
  | .accountStatus => False
  | .changed _ => False
  | .submit _ => False
  | _ => True

theorem looks_answer {α : Type} {query : Query} {next : query.Answer → Task α} (h : IsQuiet query)
    (hnext : ∀ answer, Looks (next answer)) : Looks (ask query >>= next) := by
  intro past account hcleared haccount
  refine keeps_answer Dialogue.closed_true hcleared ?_
  intro answer _
  cases query with
  | accountStatus => exact absurd h id
  | changed initial => exact absurd h id
  | submit params => exact absurd h id
  | autoConnectEnabled =>
      exact hnext answer _ account trivial ((readFlag_account _ _).trans haccount)
  | accountGet => exact hnext answer _ account trivial ((readReply_account _ _).trans haccount)
  | observe => exact hnext answer _ account trivial ((readReply_account _ _).trans haccount)
  | resolve params =>
      exact hnext answer _ account trivial ((readReply_account _ _).trans haccount)
  | reply => exact hnext answer _ account trivial ((readReply_account _ _).trans haccount)
  | _ => exact hnext answer _ account trivial haccount

theorem looks_attemptSignedIn (initial : List String) : Looks (attemptSignedIn initial) := by
  unfold attemptSignedIn
  refine looks_answer trivial ?_
  rintro (error | value)
  · exact looks_pure _
  refine looks_answer trivial fun status => ?_
  split_ifs
  · exact looks_pure _
  refine looks_answer trivial fun flag => ?_
  split_ifs
  · exact looks_pure _
  intro past account hcleared haccount
  refine keeps_answer Dialogue.closed_true hcleared ?_
  intro snapshot _
  split_ifs with hinterrupted
  · exact Dialogue.keeps_pure trivial haccount
  refine keeps_answer Dialogue.closed_true trivial ?_
  rintro (error | resolved) _
  · exact Dialogue.keeps_pure trivial haccount
  -- The request follows the check, with only the store in between.
  unfold submitResolved
  refine keeps_answer Dialogue.closed_true trivial ?_
  intro _ _
  have hrest : Looks (do
      match ← ask .reply with
      | .error error => return Except.error error
      | .ok _ =>
        match resolved.get "recent" with
        | none => return Except.ok ()
        | some recent =>
          ask (.record recent)
          return Except.ok ()) := by
    refine looks_answer trivial ?_
    rintro (error | value)
    · exact looks_pure _
    dsimp only
    rcases resolved.get "recent" with _ | recent
    · exact looks_pure _
    · exact looks_answer trivial fun _ => looks_pure _
  exact hrest _ account ⟨initial, snapshot, rfl, Bool.not_eq_true _ ▸ hinterrupted⟩ haccount

theorem looks_attemptOnce (initial : List String) (authenticated : Bool) :
    Looks (attemptOnce initial authenticated) := by
  unfold attemptOnce
  refine looks_answer trivial fun flag => ?_
  split_ifs
  · exact looks_pure _
  refine looks_answer trivial ?_
  rintro (error | account)
  · exact looks_pure _
  dsimp only
  split_ifs
  · exact looks_bind (looks_attemptSignedIn initial) fun _ => looks_pure _
  · exact looks_pure _

theorem looks_waitForRetry (initial : List String) (seconds : ℕ) :
    Looks (waitForRetry initial seconds) := by
  intro past account hcleared haccount
  refine Dialogue.keeps_loop (fun _ past => (record past).account = account)
    (fun _ past => (record past).account = account) Dialogue.closed_true ?_ ?_ hcleared haccount
  · intro _ past hcleared haccount
    have hround : Looks (do
        if userInterrupted (← ask (.check initial)) initial then
          return Sum.inr (some AttemptOutcome.interrupted)
        else if !(← ask .autoConnectEnabled) then return .inr (some .finished)
        else if (← ask .connectionStatus) = .connected then return .inr (some .finished)
        else
          match ← ask (.wait seconds) with
          | .changed => return Sum.inl ()
          | .closed => return .inr (some .finished)
          | .elapsed => return .inr none) := by
      refine looks_answer trivial fun snapshot => ?_
      split_ifs
      · exact looks_pure _
      refine looks_answer trivial fun flag => ?_
      split_ifs
      · exact looks_pure _
      refine looks_answer trivial fun status => ?_
      split_ifs
      · exact looks_pure _
      refine looks_answer trivial ?_
      rintro (_ | _ | _)
      · exact looks_pure _
      · exact looks_pure _
      · exact looks_pure _
    intro n rest past' htalks hrely
    obtain ⟨hcleared', hresult⟩ := hround past account hcleared haccount n rest past' htalks hrely
    refine ⟨hcleared', ?_⟩
    rintro (_ | outcome) hdone
    · exact hresult _ hdone
    · exact hresult _ hdone
  · exact fun _ past hcleared haccount => Dialogue.keeps_pure hcleared haccount

theorem looks_attemptFrom (initial : List String) (remaining : ℕ) (authenticated : Bool) :
    Looks (attemptFrom initial remaining authenticated) := by
  induction remaining generalizing authenticated with
  | zero => exact looks_pure _
  | succ remaining ih =>
      unfold attemptFrom
      refine looks_answer trivial fun snapshot => ?_
      split_ifs
      · exact looks_pure _
      refine looks_answer trivial fun flag => ?_
      split_ifs
      · exact looks_pure _
      refine looks_bind (looks_attemptOnce initial authenticated) ?_
      rintro ⟨result, authenticated⟩
      refine looks_answer trivial fun snapshot => ?_
      split_ifs
      · exact looks_pure _
      rcases result with error | _
      · dsimp only
        split_ifs
        · exact looks_pure _
        · exact looks_pure _
        refine looks_bind (looks_waitForRetry initial _) ?_
        rintro (_ | outcome)
        · exact ih authenticated
        · exact looks_pure _
      · exact looks_pure _

theorem onStart_keeps {memory : Memory} {past : List Event} (hsafe : Within past)
    (hcleared : Cleared AUTOCONNECT_CLIENT_ID past) (h : Budget 0 past)
    (hflag : memory.previousAutoConnect = true)
    (haccount : (record past).account = some memory.previousAccount) :
    Dialogue.Keeps Remembered Within (onStart memory) past Agrees := by
  unfold onStart
  refine Dialogue.keeps_bind ((attemptFrom_keeps MAX_ATTEMPTS false hsafe h (by omega)).and
    (looks_attemptFrom memory.initialOperations MAX_ATTEMPTS false past _ hcleared haccount)) ?_
    closed_remembered
  rintro outcome past' hsafe' ⟨houtcome, haccount'⟩
  have hon : memory.previousAutoConnect = false → (record past').flag = some false := by
    intro hoff
    rw [hflag] at hoff
    cases hoff
  rcases outcome with _ | _ | _
  · refine Dialogue.keeps_pure hsafe' ⟨hon, haccount', ?_⟩
    intro hstop
    rw [houtcome nofun] at hstop
    cases hstop
  · refine keeps_answer closed_remembered hsafe' ?_
    intro status _
    refine Dialogue.keeps_pure trivial ⟨hon, rfl, ?_⟩
    intro hstop
    have hstop' : (record past').stopped = true := hstop
    rw [houtcome nofun] at hstop'
    cases hstop'
  · exact Dialogue.keeps_pure hsafe' ⟨hon, haccount', fun _ => rfl⟩

theorem run_keeps : Dialogue.Keeps Remembered Within run [] fun _ _ => True := by
  unfold run
  refine keeps_answer closed_remembered trivial ?_
  intro previous _
  refine keeps_answer closed_remembered trivial ?_
  intro account _
  refine keeps_answer closed_remembered trivial ?_
  intro operations _
  refine keeps_answer closed_remembered trivial ?_
  intro enabled hremembered
  have hloop : ∀ memory past, Within past → Agrees memory past →
      Dialogue.Keeps Remembered Within (.loop onChange memory pure) past fun _ _ => True := by
    intro memory past hsafe hagrees
    refine Dialogue.keeps_loop Agrees (fun _ _ => True) closed_remembered ?_ ?_ hsafe hagrees
    · exact fun memory past hsafe hagrees => onChange_keeps hsafe hagrees
    · exact fun _ past hsafe _ => Dialogue.keeps_pure hsafe trivial
  rcases enabled with _ | _
  · -- The preference is off, and no sequence begins.
    refine hloop _ _ trivial ⟨fun _ => ?_, ?_, ?_⟩
    · exact readFlag_flag _ _
    · exact readFlag_account _ _
    · intro hstop
      have hrunning : (record [⟨.autoConnectEnabled, false⟩, ⟨.recentOperations, operations⟩,
          ⟨.accountStatus, account⟩, ⟨.autoConnectEnabled, previous⟩]).stopped = false := by
        rcases previous with _ | _ <;> rfl
      rw [hrunning] at hstop
      cases hstop
  · obtain rfl : previous = true := by
      by_contra hne
      rw [Bool.not_eq_true] at hne
      subst hne
      exact hremembered.1 rfl
    refine Dialogue.keeps_bind (onStart_keeps trivial trivial ⟨⟨0, le_rfl, rfl⟩, rfl⟩ rfl rfl) ?_
      closed_remembered
    exact fun memory past hsafe hagrees => hloop memory past hsafe hagrees

/-- **Whatever snapshots, preferences and replies the task gets, in every history of it in which the
preference is not switched on between the first two readings and an interruption that an attempt sees
is still there at the check after it: a request is submitted only after a trigger, at most
`MAX_ATTEMPTS` for each, while the preference was read as on, and not after a cancellation or an
interruption until it is switched on again.** -/
theorem autoConnect_within_triggers {n : ℕ} {rest : Task Unit} {past : List Event}
    (h : Dialogue.Talks n run [] rest past) (hstarts : StartsAlike past)
    (hconfirmed : Confirmed past) : Within past :=
  (run_keeps n rest past h ⟨hstarts, hconfirmed⟩).1

/-- **The task submits a request only after a check that found no interruption.** -/
theorem autoConnect_cleared {n : ℕ} {rest : Task Unit} {past : List Event}
    (h : Dialogue.Talks n run [] rest past) : Cleared AUTOCONNECT_CLIENT_ID past := by
  have hattempt : ∀ memory past, Cleared AUTOCONNECT_CLIENT_ID past →
      Dialogue.Keeps (fun _ => True) (Cleared AUTOCONNECT_CLIENT_ID)
        (attempt (Memory.initialOperations memory)) past fun _ _ => True := by
    intro memory past hcleared n rest past' htalks hrely
    have hlooks := looks_attemptFrom memory.initialOperations MAX_ATTEMPTS false
    exact ⟨(hlooks past _ hcleared rfl n rest past' htalks hrely).1, fun _ _ => trivial⟩
  have hround : ∀ memory past, Cleared AUTOCONNECT_CLIENT_ID past →
      Dialogue.Keeps (fun _ => True) (Cleared AUTOCONNECT_CLIENT_ID) (onChange memory) past
        fun result _ => result.elim (fun _ => True) fun _ => True := by
    intro memory past hcleared
    unfold onChange
    refine keeps_answer Dialogue.closed_true hcleared ?_
    rintro (_ | snapshot) _
    · exact Dialogue.keeps_pure trivial trivial
    dsimp only
    split_ifs
    · refine Dialogue.keeps_bind (hattempt _ _ trivial) ?_ Dialogue.closed_true
      intro outcome past' hcleared' _
      refine keeps_answer Dialogue.closed_true hcleared' fun flag _ => ?_
      refine keeps_answer Dialogue.closed_true trivial fun status _ => ?_
      exact Dialogue.keeps_pure trivial trivial
    · exact Dialogue.keeps_pure trivial trivial
  have hloop : ∀ memory past, Cleared AUTOCONNECT_CLIENT_ID past →
      Dialogue.Keeps (fun _ => True) (Cleared AUTOCONNECT_CLIENT_ID) (.loop onChange memory pure)
        past fun (_ : Unit) _ => True := by
    intro memory past hcleared
    refine Dialogue.keeps_loop (fun _ _ => True) (fun _ _ => True) Dialogue.closed_true ?_ ?_
      hcleared trivial
    · exact fun memory past hcleared _ => hround memory past hcleared
    · exact fun _ past hcleared _ => Dialogue.keeps_pure hcleared trivial
  have hrun : Dialogue.Keeps (fun _ => True) (Cleared AUTOCONNECT_CLIENT_ID) run []
      fun _ _ => True := by
    unfold run
    refine keeps_answer Dialogue.closed_true trivial fun previous _ => ?_
    refine keeps_answer Dialogue.closed_true trivial fun account _ => ?_
    refine keeps_answer Dialogue.closed_true trivial fun operations _ => ?_
    refine keeps_answer Dialogue.closed_true trivial fun enabled _ => ?_
    rcases enabled with _ | _
    · exact hloop _ _ trivial
    · have hrest : ∀ memory past, Cleared AUTOCONNECT_CLIENT_ID past → True →
          Dialogue.Keeps (fun _ => True) (Cleared AUTOCONNECT_CLIENT_ID)
            (.loop onChange memory pure) past fun (_ : Unit) _ => True :=
        fun memory past hcleared _ => hloop memory past hcleared
      refine Dialogue.keeps_bind ?_ hrest Dialogue.closed_true
      unfold onStart
      refine Dialogue.keeps_bind (hattempt _ _ trivial) ?_ Dialogue.closed_true
      rintro (_ | _ | _) past hcleared _
      · exact Dialogue.keeps_pure hcleared trivial
      · refine keeps_answer Dialogue.closed_true hcleared fun status _ => ?_
        exact Dialogue.keeps_pure trivial trivial
      · exact Dialogue.keeps_pure hcleared trivial
  exact (hrun n rest past h trivial).1

/-- The preference is on from a time on, the account is signed in, and every request to connect is
cancelled. -/
def cancelling (onFrom : ℕ) : (query : Query) → List Event → query.Answer
  | .autoConnectEnabled, past => decide (onFrom ≤ past.length)
  | .accountStatus, _ => AccountStatus.signedIn
  | .connectionStatus, _ => ConnectionStatus.disconnected
  | .recentOperations, _ => []
  | .check _, _ => ({} : StateSnapshot)
  | .changed _, _ => some { account := ⟨.signedIn⟩, store := ⟨true⟩ }
  | .accountGet, _ => Except.ok (Value.obj [("logged_in", .bool true)])
  | .observe, _ => Except.ok Value.null
  | .resolve _, _ => Except.ok (Value.obj [])
  | .submit _, _ => ()
  | .reply, _ => Except.error (BackendError.new "connection_cancelled"
      "VPN connection attempt was cancelled")
  | .record _, _ => ()
  | .wait _, _ => Wake.elapsed

theorem autoConnect_within_triggers_cancelled :
    StartsAlike (Dialogue.drive (cancelling 0) 14 run []).2 ∧
      Confirmed (Dialogue.drive (cancelling 0) 14 run []).2 ∧
      Within (Dialogue.drive (cancelling 0) 14 run []).2 := by
  have hstarts : StartsAlike (Dialogue.drive (cancelling 0) 14 run []).2 := by
    show [true, true] ≠ [false, true]
    decide
  have hconfirmed : Confirmed (Dialogue.drive (cancelling 0) 14 run []).2 := trivial
  obtain ⟨n, htalks⟩ := Dialogue.talks_drive (cancelling 0) 14 run []
  exact ⟨hstarts, hconfirmed, autoConnect_within_triggers htalks hstarts hconfirmed⟩

/-- **The preference is switched on between the first two readings of it: the sequence of the start is
cancelled, and the next change of the state begins another one.** -/
theorem connects_after_cancellation :
    ¬ ∀ (n : ℕ) (rest : Task Unit) (past : List Event), Dialogue.Talks n run [] rest past →
      Within past := by
  intro h
  obtain ⟨n, htalks⟩ := Dialogue.talks_drive (cancelling 1) 28 run []
  have hlast : Within (⟨.submit (.obj []), ()⟩ :: (Dialogue.drive (cancelling 1) 27 run []).2) :=
    h n _ _ htalks
  have hstopped : (record (Dialogue.drive (cancelling 1) 27 run []).2).stopped = true := by
    decide +kernel
  exact absurd (hstopped.symm.trans hlast.2.1) (by decide)

end ProtonVpnOmarchy.Agent.Tasks.AutoConnect
