import ProtonVpnOmarchy.Agent.Json

/-!
# Anonymous statistics

A tunnel that goes down leaves an event, which a task of its own adds to a queue in a file and posts
with the others. The tasks exclude each other; switching the statistics off clears the queue without
waiting for them.

* `keeps_quiet` — once the queue was cleared with no event under way, no step brings one back.
* `respected_after` — nothing is queued or posted after the user has switched the statistics off, as
  long as no event is under way when the queue is cleared.
-/

namespace ProtonVpnOmarchy.Agent.Statistics

def MAX_EVENTS : ℕ := 100

/-! ## The queue -/

/-- Source: `telemetry.rs` `valid_event` -/
def validEvent (value : Value) : Bool :=
  (value.get "MeasurementGroup").bind Value.asStr = some "vpn.any.connection" &&
    (value.get "Event").bind Value.asStr = some "vpn_disconnection" &&
    ((value.get "Values").bind Value.asObject).isSome &&
    ((value.get "Dimensions").bind Value.asObject).isSome

/-- The file of the queue, with its `StatisticalEvents`. -/
inductive QueueFile where
  | missing
  | invalid
  | events (values : List Value)
  deriving DecidableEq

/-- Source: `telemetry.rs` `load`; `readable` says whether the file can be read -/
def load (readable : Bool) : QueueFile → Option (List Value)
  | .missing => some []
  | .invalid => none
  | .events values => if readable then some ((values.filter validEvent).take MAX_EVENTS) else none

/-- The events that `enqueue` saves. -/
def withEvent (event : Value) (events : List Value) : List Value :=
  (events ++ [event]).drop (events.length + 1 - MAX_EVENTS)

/-! ## Tasks -/

inductive Job where
  /-- `enqueue_and_flush` -/
  | enqueueAndFlush (event : Value)
  /-- `flush_existing` -/
  | flushExisting
  deriving DecidableEq

/-- How far a task has come. -/
inductive Stage where
  /-- It is to be spawned, or waits for `telemetry_write`. -/
  | waiting
  | locked
  /-- It is about to save these events. -/
  | saving (events : List Value)
  /-- It is about to post these events. -/
  | posting (events : List Value)
  /-- It is about to clear the queue. -/
  | posted
  | done
  deriving DecidableEq

structure Task where
  job : Job
  stage : Stage
  deriving DecidableEq

/-- The task has `telemetry_write`. -/
def Stage.holdsWrite : Stage → Bool
  | .waiting | .done => false
  | _ => true

/-- What the handler of `feature.set` is about to do, after it has saved the settings. -/
inductive Handler where
  | idle
  | clearing
  | returning
  deriving DecidableEq

structure Post where
  events : List Value
  /-- The user had switched the statistics off. -/
  optedOut : Bool
  deriving DecidableEq

structure State where
  shareStatistics : Bool
  /-- The event of the session of the tunnel. -/
  feedback : Option Value
  queue : QueueFile
  tasks : List Task
  handler : Handler
  /-- Switching the statistics off has returned `Ok`, and they were not switched on since. -/
  optedOut : Bool
  posts : List Post
  deriving DecidableEq

/-! ## Steps -/

/-- The next stage of a task that holds `telemetry_write`, the queue, and what was posted; `ok` says
whether the file or the API lets the task do what it is about to do. -/
def Task.next (task : Task) (ok : Bool) (queue : QueueFile) :
    Stage × QueueFile × Option (List Value) :=
  match task.stage with
  | .waiting => (.locked, queue, none)
  | .locked =>
    match load ok queue, task.job with
    | none, _ => (.done, queue, none)
    | some events, .enqueueAndFlush event => (.saving (withEvent event events), queue, none)
    | some events, .flushExisting =>
      if events = [] then (.done, queue, none) else (.posting events, queue, none)
  | .saving events => if ok then (.posting events, .events events, none) else (.done, queue, none)
  | .posting events => (if ok then .posted else .done, queue, some events)
  | .posted => (.done, if ok then .events [] else queue, none)
  | .done => (.done, queue, none)

inductive Action where
  /-- A tunnel comes up whose session will leave this event. -/
  | connected (event : Value)
  /-- `emit_connection` of a tunnel that is down, with or without a session of the account -/
  | disconnected (session : Bool)
  /-- `flush_statistics_queue` -/
  | flush (session : Bool)
  /-- A task goes on. -/
  | advance (i : ℕ) (ok : Bool)
  /-- `feature.set` of `anonymous_usage_statistics`, up to the saved settings -/
  | set (enabled saved : Bool)
  /-- `feature.set` clears the queue. -/
  | clear (ok : Bool)
  /-- `feature.set` returns `Ok`. -/
  | finish
  deriving DecidableEq

namespace State

def spawn (state : State) (job : Job) : State :=
  { state with tasks := state.tasks ++ [⟨job, .waiting⟩] }

/-- A task may go on, unless it would have to wait for `telemetry_write`. -/
def mayAdvance (state : State) (task : Task) : Bool :=
  task.stage ≠ .waiting || !state.tasks.any (·.stage.holdsWrite)

def advance (state : State) (i : ℕ) (task : Task) (ok : Bool) : State :=
  let (stage, queue, posted) := task.next ok state.queue
  { state with
    tasks := state.tasks.set i { task with stage }
    queue
    posts := state.posts ++ posted.toList.map fun events => ⟨events, state.optedOut⟩ }

/-- The state after an action, if it can happen. -/
def step (state : State) : Action → Option State
  | .connected event => some { state with feedback := some event }
  | .disconnected session =>
    match state.feedback with
    | some event =>
      let state := { state with feedback := none }
      some (if state.shareStatistics && session then state.spawn (.enqueueAndFlush event) else state)
    | none => some state
  | .flush session =>
    some (if state.shareStatistics && session then state.spawn .flushExisting else state)
  | .advance i ok =>
    match state.tasks[i]? with
    | some task => if state.mayAdvance task then some (state.advance i task ok) else none
    | none => none
  | .set enabled saved =>
    if state.handler ≠ .idle then none
    else if !saved then some state
    else if enabled then some { state with shareStatistics := true, optedOut := false }
    else some { state with shareStatistics := false, handler := .clearing }
  | .clear ok =>
    if state.handler ≠ .clearing then none
    else if ok then some { state with queue := .events [], handler := .returning }
    else some { state with handler := .idle }
  | .finish =>
    if state.handler ≠ .returning then none
    else some { state with optedOut := true, handler := .idle }

/-- The state after actions, if they can happen in this order. -/
def run (state : State) : List Action → Option State
  | [] => some state
  | action :: actions => (state.step action).bind fun state => state.run actions

end State

/-! ## Switching off -/

def QueueFile.HoldsNothing : QueueFile → Prop
  | .missing => True
  | .invalid => False
  | .events values => values = []

/-- The task brings no event to the queue or to the API, if the queue is empty. -/
def Task.Harmless (task : Task) : Prop :=
  match task.stage with
  | .done | .posted => True
  | .waiting | .locked => task.job = .flushExisting
  | .saving _ | .posting _ => False

/-- No event is in the queue or under way, and none is let in. -/
structure Quiet (state : State) : Prop where
  off : state.shareStatistics = false
  queue : state.queue.HoldsNothing
  tasks : ∀ task ∈ state.tasks, task.Harmless

/-- What the user can expect of having switched the statistics off. -/
structure Respected (state : State) : Prop where
  queue : state.optedOut = true → state.queue.HoldsNothing
  posts : ∀ post ∈ state.posts, post.optedOut = false

/-- A state in which the user's choice is respected from now on. -/
structure Settled (state : State) : Prop where
  posts : ∀ post ∈ state.posts, post.optedOut = false
  clearing : state.handler = .clearing → state.shareStatistics = false
  optedOut : state.optedOut = true → Quiet state
  returning : state.handler = .returning → Quiet state

theorem Settled.respected {state : State} (h : Settled state) : Respected state :=
  ⟨fun hout => (h.optedOut hout).queue, h.posts⟩

section steps

variable {state state' : State}

/-- A harmless task stays so, leaves the queue empty and posts nothing. -/
theorem Task.Harmless.next {task : Task} (h : task.Harmless) {queue : QueueFile}
    (hqueue : queue.HoldsNothing) (ok : Bool) :
    ({ task with stage := (task.next ok queue).1 } : Task).Harmless ∧
      (task.next ok queue).2.1.HoldsNothing ∧ (task.next ok queue).2.2 = none := by
  obtain ⟨job, stage⟩ := task
  cases stage with
  | waiting => exact ⟨h, hqueue, rfl⟩
  | locked =>
      obtain rfl : job = .flushExisting := h
      -- an empty queue is read as no events, or not at all
      have hload : load ok queue = none ∨ load ok queue = some [] := by
        cases queue with
        | missing => exact .inr rfl
        | invalid => exact .inl rfl
        | events values =>
            obtain rfl : values = [] := hqueue
            cases ok with
            | true => exact .inr rfl
            | false => exact .inl rfl
      rcases hload with hload | hload
      · simp only [Task.next, hload]
        exact ⟨trivial, hqueue, trivial⟩
      · simp only [Task.next, hload, if_true]
        exact ⟨trivial, hqueue, trivial⟩
  | saving events => exact h.elim
  | posting events => exact h.elim
  | posted =>
      refine ⟨trivial, ?_, rfl⟩
      cases ok with
      | true => exact rfl
      | false => exact hqueue
  | done => exact ⟨trivial, hqueue, rfl⟩

theorem Quiet.advance (h : Quiet state) {i : ℕ} {task : Task} (htask : state.tasks[i]? = some task)
    (ok : Bool) : Quiet (state.advance i task ok) ∧ (state.advance i task ok).posts = state.posts := by
  obtain ⟨hharmless, hqueue, hnone⟩ :=
    (h.tasks task (List.mem_of_getElem? htask)).next h.queue ok
  refine ⟨⟨h.off, hqueue, ?_⟩, ?_⟩
  · intro other hmem
    rcases List.mem_or_eq_of_mem_set hmem with hmem | rfl
    · exact h.tasks other hmem
    · exact hharmless
  · simp [State.advance, hnone]

instance (task : Task) : Decidable task.Harmless :=
  match task with
  | ⟨_, .done⟩ => isTrue trivial
  | ⟨_, .posted⟩ => isTrue trivial
  | ⟨job, .waiting⟩ => inferInstanceAs (Decidable (job = .flushExisting))
  | ⟨job, .locked⟩ => inferInstanceAs (Decidable (job = .flushExisting))
  | ⟨_, .saving _⟩ => isFalse id
  | ⟨_, .posting _⟩ => isFalse id

/-- The queue is not cleared while an event is under way. -/
def Clears (state : State) (action : Action) : Prop :=
  action = .clear true → ∀ task ∈ state.tasks, task.Harmless

instance (state : State) (action : Action) : Decidable (Clears state action) :=
  inferInstanceAs (Decidable (action = .clear true → ∀ task ∈ state.tasks, task.Harmless))

theorem Settled.of_same (h : Settled state) (hposts : state'.posts = state.posts)
    (hflag : state'.shareStatistics = state.shareStatistics)
    (hhandler : state'.handler = state.handler) (hout : state'.optedOut = state.optedOut)
    (hquiet : Quiet state → Quiet state') : Settled state' := by
  refine ⟨hposts ▸ h.posts, ?_, ?_, ?_⟩
  · rw [hhandler, hflag]
    exact h.clearing
  · rw [hout]
    exact fun hout => hquiet (h.optedOut hout)
  · rw [hhandler]
    exact fun hreturning => hquiet (h.returning hreturning)

theorem Settled.spawn (h : Settled state) (hon : state.shareStatistics = true) (job : Job) :
    Settled (state.spawn job) := by
  refine h.of_same rfl rfl rfl rfl fun hquiet => ?_
  rw [hquiet.off] at hon
  cases hon

theorem Settled.disconnected (h : Settled state) (session : Bool)
    (hstep : state.step (.disconnected session) = some state') : Settled state' := by
  dsimp only [State.step] at hstep
  cases hfeedback : state.feedback with
  | none =>
      rw [hfeedback] at hstep
      obtain rfl := Option.some.inj hstep
      exact h
  | some event =>
      rw [hfeedback] at hstep
      obtain rfl := Option.some.inj hstep
      have hwithout : Settled { state with feedback := none } :=
        h.of_same rfl rfl rfl rfl fun hquiet => ⟨hquiet.off, hquiet.queue, hquiet.tasks⟩
      split_ifs with hon
      · exact hwithout.spawn (by simp_all) _
      · exact hwithout

/-- Every step keeps what the user can expect, if it does not clear the queue too early. -/
theorem Settled.step (h : Settled state) {action : Action} (hclears : Clears state action)
    (hstep : state.step action = some state') : Settled state' := by
  cases action with
  | connected event =>
      obtain rfl := Option.some.inj hstep
      exact h.of_same rfl rfl rfl rfl fun hquiet => ⟨hquiet.off, hquiet.queue, hquiet.tasks⟩
  | disconnected session => exact h.disconnected session hstep
  | flush session =>
      obtain rfl := Option.some.inj hstep
      split_ifs with hon
      · exact h.spawn (by simp_all) _
      · exact h
  | advance i ok =>
      dsimp only [State.step] at hstep
      cases htask : state.tasks[i]? with
      | none =>
          rw [htask] at hstep
          cases hstep
      | some task =>
          rw [htask] at hstep
          dsimp only at hstep
          split_ifs at hstep
          obtain rfl := Option.some.inj hstep
          refine ⟨?_, h.clearing, fun hout => ((h.optedOut hout).advance htask ok).1,
            fun hreturning => ((h.returning hreturning).advance htask ok).1⟩
          by_cases hout : state.optedOut = true
          · rw [((h.optedOut hout).advance htask ok).2]
            exact h.posts
          · intro post hmem
            rcases List.mem_append.mp hmem with hmem | hmem
            · exact h.posts post hmem
            · obtain ⟨events, -, rfl⟩ := List.mem_map.mp hmem
              exact Bool.eq_false_iff.mpr hout
  | set enabled saved =>
      dsimp only [State.step] at hstep
      split_ifs at hstep with hidle hsaved henabled
      all_goals obtain rfl := Option.some.inj hstep
      · exact h
      · have hidle : state.handler = .idle := not_not.mp hidle
        exact ⟨h.posts, fun hclearing => absurd (hidle.symm.trans hclearing) (by decide), nofun,
          fun hreturning => absurd (hidle.symm.trans hreturning) (by decide)⟩
      · exact ⟨h.posts, fun _ => rfl,
          fun hout => ⟨rfl, (h.optedOut hout).queue, (h.optedOut hout).tasks⟩, nofun⟩
  | clear ok =>
      dsimp only [State.step] at hstep
      split_ifs at hstep with hclearing hok
      all_goals obtain rfl := Option.some.inj hstep
      · subst hok
        have hquiet : Quiet { state with queue := .events [], handler := .returning } :=
          ⟨h.clearing (not_not.mp hclearing), rfl, hclears rfl⟩
        exact ⟨h.posts, nofun, fun _ => hquiet, fun _ => hquiet⟩
      · exact ⟨h.posts, nofun, fun hout => ⟨(h.optedOut hout).off, (h.optedOut hout).queue,
          (h.optedOut hout).tasks⟩, nofun⟩
  | finish =>
      dsimp only [State.step] at hstep
      split_ifs at hstep with hreturning
      obtain rfl := Option.some.inj hstep
      have hquiet := h.returning (not_not.mp hreturning)
      exact ⟨h.posts, nofun, fun _ => ⟨hquiet.off, hquiet.queue, hquiet.tasks⟩, nofun⟩

end steps

/-! ## Runs -/

/-- A state of an agent that was just started. -/
structure Started (state : State) : Prop where
  tasks : state.tasks = []
  handler : state.handler = .idle
  optedOut : state.optedOut = false
  posts : state.posts = []

theorem Started.settled {state : State} (h : Started state) : Settled state := by
  obtain ⟨-, hhandler, hout, hposts⟩ := h
  refine ⟨by simp [hposts], ?_, ?_, ?_⟩
  · rw [hhandler]
    nofun
  · rw [hout]
    nofun
  · rw [hhandler]
    nofun

/-- In the run no clearing of the queue overlaps an event that is under way. -/
def ClearsInTime : State → List Action → Prop
  | _, [] => True
  | state, action :: actions =>
    Clears state action ∧
      match state.step action with
      | some state' => ClearsInTime state' actions
      | none => True

instance decidableClearsInTime : (state : State) → (actions : List Action) →
    Decidable (ClearsInTime state actions)
  | _, [] => isTrue trivial
  | state, action :: actions =>
    have : Decidable (match state.step action with
        | some state' => ClearsInTime state' actions
        | none => True) :=
      match state.step action with
      | some state' => decidableClearsInTime state' actions
      | none => isTrue trivial
    inferInstanceAs (Decidable (_ ∧ _))

theorem Settled.run {state state' : State} {actions : List Action} (h : Settled state)
    (hclears : ClearsInTime state actions) (hrun : state.run actions = some state') :
    Settled state' := by
  induction actions generalizing state with
  | nil =>
      obtain rfl := Option.some.inj hrun
      exact h
  | cons action actions ih =>
      obtain ⟨next, hstep, hrun⟩ := Option.bind_eq_some_iff.mp hrun
      obtain ⟨hclear, hrest⟩ := hclears
      rw [hstep] at hrest
      exact ih (h.step hclear hstep) hrest hrun

/-- Nothing is queued or posted after the user has switched the statistics off, if no event is under
way when the queue is cleared. -/
theorem respected_after {state state' : State} {actions : List Action} (h : Started state)
    (hclears : ClearsInTime state actions) (hrun : state.run actions = some state') :
    Respected state' := (h.settled.run hclears hrun).respected

/-- An agent whose user shares statistics. -/
def sharing : State where
  shareStatistics := true
  feedback := none
  queue := .missing
  tasks := []
  handler := .idle
  optedOut := false
  posts := []

def disconnection : Value := .obj
  [("MeasurementGroup", .string "vpn.any.connection"), ("Event", .string "vpn_disconnection"),
    ("Values", .obj []), ("Dimensions", .obj [])]

theorem started_sharing : Started sharing := ⟨rfl, rfl, rfl, rfl⟩

/-- A disconnection that leaves an event, which is posted before the statistics are switched off. -/
def postedBefore : List Action :=
  [.connected disconnection, .disconnected true, .advance 0 true, .advance 0 true, .advance 0 true,
    .advance 0 true, .set false true, .clear true, .finish]

def afterPosted : State where
  shareStatistics := false
  feedback := none
  queue := .events []
  tasks := [⟨.enqueueAndFlush disconnection, .posted⟩]
  handler := .idle
  optedOut := true
  posts := [⟨[disconnection], false⟩]

theorem respected_after_posted : Respected afterPosted := by
  have hclears : ClearsInTime sharing postedBefore := by decide
  have hrun : sharing.run postedBefore = some afterPosted := by decide
  exact respected_after started_sharing hclears hrun

/-- The same disconnection, with a task that is slower. -/
def postedAfter : List Action :=
  [.connected disconnection, .disconnected true, .set false true, .clear true, .finish,
    .advance 0 true, .advance 0 true, .advance 0 true]

/-- The event is in the queue. -/
def afterSlow : State where
  shareStatistics := false
  feedback := none
  queue := .events [disconnection]
  tasks := [⟨.enqueueAndFlush disconnection, .posting [disconnection]⟩]
  handler := .idle
  optedOut := true
  posts := []

/-- An event that is added to the queue after it was cleared. -/
theorem not_always_respected : ¬ ∀ (state state' : State) (actions : List Action),
    Started state → state.run actions = some state' → Respected state' := by
  intro h
  have hrun : sharing.run postedAfter = some afterSlow := by decide
  have hqueue := (h sharing afterSlow postedAfter started_sharing hrun).queue rfl
  exact List.cons_ne_nil _ _ hqueue

end ProtonVpnOmarchy.Agent.Statistics
