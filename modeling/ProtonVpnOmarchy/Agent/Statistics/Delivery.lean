import ProtonVpnOmarchy.Agent.Statistics.Feedback

/-!
# What becomes of the events

A ledger follows a run and notes what was saved, what the server took and how far the user had the
queue cleared. Whatever the order in which the tasks go on and whatever fails, the queue is the end
of what was saved, and the events before it are accounted for.

* `consistent_step` — no step loses an event, however the tasks are interleaved.
* `events_accounted` — every event that was saved is queued, delivered or cleared, or a hundred
  later ones pushed it out; every post that the server took is a piece of what was saved.
-/

namespace ProtonVpnOmarchy.Agent.Statistics

/-! ## The ledger -/

/-- A post that the server took. -/
structure Delivery where
  events : List Value
  /-- The number of events that had been saved. -/
  upTo : ℕ
  deriving DecidableEq

structure Ledger where
  /-- The events that were saved, and before them those that the agent found in the queue. -/
  saved : List Value
  delivered : List Delivery
  /-- The number of events that had been saved when the user had the queue cleared. -/
  cleared : ℕ
  deriving DecidableEq

namespace Ledger

/-- A task goes on. -/
def advance (ledger : Ledger) (task : Task) (ok : Bool) : Ledger :=
  match task.stage, task.job, ok with
  | .saving _, .enqueueAndFlush event, true => { ledger with saved := ledger.saved ++ [event] }
  | .posting events, _, true =>
    { ledger with delivered := ledger.delivered ++ [⟨events, ledger.saved.length⟩] }
  | _, _, _ => ledger

def next (ledger : Ledger) (state : State) : Action → Ledger
  | .advance i ok =>
    match state.tasks[i]? with
    | some task => ledger.advance task ok
    | none => ledger
  | .clear true => { ledger with cleared := ledger.saved.length }
  | _ => ledger

/-- The ledger after a run. -/
def after (ledger : Ledger) (state : State) : List Action → Ledger
  | [] => ledger
  | action :: actions =>
    match state.step action with
    | some state' => (ledger.next state action).after state' actions
    | none => ledger

/-- The ledger of an agent that was just started. -/
def initial (state : State) : Ledger where
  saved := (load true state.queue).getD []
  delivered := []
  cleared := 0

/-- The event was delivered or cleared, or so many were saved after it that it had to go. -/
def Settles (ledger : Ledger) (i : ℕ) : Prop :=
  (∃ delivery ∈ ledger.delivered,
    delivery.upTo - delivery.events.length ≤ i ∧ i < delivery.upTo) ∨
  i < ledger.cleared ∨ i + MAX_EVENTS < ledger.saved.length

/-- These are the last events that were saved, and those before them are settled. -/
structure Keeps (ledger : Ledger) (events : List Value) : Prop where
  isSuffix : events <:+ ledger.saved
  length_le : events.length ≤ MAX_EVENTS
  settles : ∀ i < ledger.saved.length - events.length, ledger.Settles i

/-- The ledger goes on from another one. -/
structure Extends (ledger' ledger : Ledger) : Prop where
  saved : ledger.saved.length ≤ ledger'.saved.length
  delivered : ledger.delivered ⊆ ledger'.delivered
  cleared : ledger.cleared ≤ ledger'.cleared

/-- Every post that the server took is a piece of what was saved. -/
structure Pieces (ledger : Ledger) : Prop where
  delivered : ∀ delivery ∈ ledger.delivered, delivery.events <:+ ledger.saved.take delivery.upTo ∧
    delivery.events.length ≤ MAX_EVENTS ∧ delivery.upTo ≤ ledger.saved.length
  cleared : ledger.cleared ≤ ledger.saved.length

theorem Settles.mono {ledger ledger' : Ledger} (h : ledger'.Extends ledger) {i : ℕ}
    (hi : ledger.Settles i) : ledger'.Settles i := by
  rcases hi with ⟨delivery, hmem, hrange⟩ | hcleared | hpushed
  · exact .inl ⟨delivery, h.delivered hmem, hrange⟩
  · exact .inr (.inl (hcleared.trans_le h.cleared))
  · exact .inr (.inr (hpushed.trans_le h.saved))

theorem Keeps.mono {ledger ledger' : Ledger} (h : ledger'.Extends ledger)
    (hsaved : ledger'.saved = ledger.saved) {events : List Value} (hkeeps : ledger.Keeps events) :
    ledger'.Keeps events := by
  refine ⟨hsaved ▸ hkeeps.isSuffix, hkeeps.length_le, fun i hi => ?_⟩
  rw [hsaved] at hi
  exact (hkeeps.settles i hi).mono h

/-- Adding an event pushes out at most the first one. -/
theorem Keeps.withEvent {ledger : Ledger} {events : List Value} (h : ledger.Keeps events)
    (event : Value) :
    ({ ledger with saved := ledger.saved ++ [event] } : Ledger).Keeps
      (Statistics.withEvent event events) := by
  have hlength : (Statistics.withEvent event events).length =
      events.length + 1 - (events.length + 1 - MAX_EVENTS) := by
    simp [Statistics.withEvent]
  have hextends : ({ ledger with saved := ledger.saved ++ [event] } : Ledger).Extends ledger :=
    ⟨by simp, fun _ h => h, le_rfl⟩
  have hle := h.length_le
  refine ⟨?_, by omega, fun i hi => ?_⟩
  · obtain ⟨before, hbefore⟩ := h.isSuffix
    refine (List.drop_suffix _ _).trans ⟨before, ?_⟩
    rw [← List.append_assoc, hbefore]
  · dsimp only at hi
    rw [List.length_append, List.length_singleton, hlength] at hi
    by_cases hbefore : i < ledger.saved.length - events.length
    · exact (h.settles i hbefore).mono hextends
    · refine .inr (.inr ?_)
      have hsuffix := h.isSuffix.length_le
      simp only [List.length_append, List.length_singleton]
      omega

end Ledger

/-! ## Tasks and the queue -/

section tasks

variable {ledger ledger' : Ledger} {queue : QueueFile} {ok : Bool} {events : List Value}

theorem load_true (h : load ok queue = some events) : load true queue = some events := by
  cases queue with
  | missing => exact h
  | invalid => cases h
  | events values =>
      cases ok with
      | true => exact h
      | false => cases h

theorem validEvent_of_load (h : load ok queue = some events) :
    ∀ event ∈ events, validEvent event = true := by
  have htrue := load_true h
  intro event hevent
  cases queue with
  | missing =>
      obtain rfl := Option.some.inj htrue
      cases hevent
  | invalid => cases htrue
  | events values =>
      obtain rfl := Option.some.inj htrue
      exact (List.mem_filter.mp (List.mem_of_mem_take hevent)).2

theorem length_le_of_load (h : load ok queue = some events) : events.length ≤ MAX_EVENTS := by
  have htrue := load_true h
  cases queue with
  | missing =>
      obtain rfl := Option.some.inj htrue
      exact Nat.zero_le _
  | invalid => cases htrue
  | events values =>
      obtain rfl := Option.some.inj htrue
      exact List.length_take_le _ _

theorem load_events (hvalid : ∀ event ∈ events, validEvent event = true)
    (hlength : events.length ≤ MAX_EVENTS) : load true (.events events) = some events := by
  have hfilter : events.filter validEvent = events := List.filter_eq_self.mpr hvalid
  simp [load, hfilter, List.take_of_length_le hlength]

/-- The queue holds the last events that were saved. A file that is no queue stays so until it is
cleared, and lets nothing be saved. -/
def QueueFits (ledger : Ledger) (queue : QueueFile) : Prop :=
  (∃ kept, load true queue = some kept ∧ ledger.Keeps kept) ∨
    load true queue = none ∧ ledger.saved = []

theorem QueueFits.keeps (h : QueueFits ledger queue) (hload : load ok queue = some events) :
    ledger.Keeps events := by
  rcases h with ⟨kept, hkept, hkeeps⟩ | ⟨hnone, -⟩
  · obtain rfl := Option.some.inj (hkept.symm.trans (load_true hload))
    exact hkeeps
  · rw [load_true hload] at hnone
    cases hnone

/-- What a task has in hand agrees with the ledger. -/
def Task.Fits (ledger : Ledger) (task : Task) : Prop :=
  match task.stage with
  | .saving events => ∃ event kept, task.job = .enqueueAndFlush event ∧
      events = withEvent event kept ∧ ledger.Keeps kept ∧ ∀ event ∈ events, validEvent event = true
  | .posting events => ledger.Keeps events
  | .posted => ledger.Keeps []
  | .waiting | .locked | .done => True

theorem Task.fits_of_not_holdsWrite {task : Task} (h : task.stage.holdsWrite = false) :
    task.Fits ledger := by
  obtain ⟨job, stage⟩ := task
  cases stage with
  | waiting | done => exact trivial
  | locked | saving events | posting events | posted => cases h

theorem Task.Fits.mono (h : ledger'.Extends ledger) (hsaved : ledger'.saved = ledger.saved)
    {task : Task} (hfits : task.Fits ledger) : task.Fits ledger' := by
  obtain ⟨job, stage⟩ := task
  cases stage with
  | waiting | locked | done => exact trivial
  | saving events =>
      obtain ⟨event, kept, hjob, hevents, hkeeps, hvalid⟩ := hfits
      exact ⟨event, kept, hjob, hevents, hkeeps.mono h hsaved, hvalid⟩
  | posting events => exact Ledger.Keeps.mono h hsaved hfits
  | posted => exact Ledger.Keeps.mono h hsaved hfits

/-- At most one task has `telemetry_write`. -/
def Exclusive (tasks : List Task) : Prop :=
  ∀ (i j : ℕ) (a b : Task), tasks[i]? = some a → tasks[j]? = some b → a.stage.holdsWrite = true →
    b.stage.holdsWrite = true → i = j

/-- The state and its ledger. -/
structure Consistent (state : State) (ledger : Ledger) : Prop where
  exclusive : Exclusive state.tasks
  jobs : ∀ task ∈ state.tasks, ∀ event, task.job = .enqueueAndFlush event → validEvent event = true
  feedback : ∀ event, state.feedback = some event → validEvent event = true
  tasks : ∀ task ∈ state.tasks, task.Fits ledger
  queue : QueueFits ledger state.queue
  pieces : ledger.Pieces

/-- What a task that goes on leaves. -/
theorem fits_next {task : Task} (hfits : task.Fits ledger) (hqueue : QueueFits ledger queue)
    (hjob : ∀ event, task.job = .enqueueAndFlush event → validEvent event = true) (ok : Bool) :
    ({ task with stage := (task.next ok queue).1 } : Task).Fits (ledger.advance task ok) ∧
      QueueFits (ledger.advance task ok) (task.next ok queue).2.1 ∧
      (task.stage.holdsWrite = false → ledger.advance task ok = ledger) := by
  obtain ⟨job, stage⟩ := task
  cases stage with
  | waiting => exact ⟨trivial, hqueue, fun _ => rfl⟩
  | done => exact ⟨trivial, hqueue, fun _ => rfl⟩
  | locked =>
      have hsame : ledger.advance ⟨job, .locked⟩ ok = ledger := rfl
      rw [hsame]
      cases hload : load ok queue with
      | none =>
          simp only [Task.next, hload]
          exact ⟨trivial, hqueue, fun _ => trivial⟩
      | some events =>
          have hkeeps := hqueue.keeps hload
          cases job with
          | enqueueAndFlush event =>
              simp only [Task.next, hload]
              refine ⟨⟨event, events, rfl, rfl, hkeeps, fun other hother => ?_⟩, hqueue,
                fun _ => trivial⟩
              rcases List.mem_append.mp (List.mem_of_mem_drop hother) with hmem | hmem
              · exact validEvent_of_load hload other hmem
              · obtain rfl := List.mem_singleton.mp hmem
                exact hjob other rfl
          | flushExisting =>
              simp only [Task.next, hload]
              split_ifs
              · exact ⟨trivial, hqueue, fun _ => trivial⟩
              · exact ⟨hkeeps, hqueue, fun _ => trivial⟩
  | saving events =>
      obtain ⟨event, kept, hjob', rfl, hkeeps, hvalid⟩ := hfits
      obtain rfl : job = .enqueueAndFlush event := hjob'
      cases ok with
      | false => exact ⟨trivial, hqueue, by rintro ⟨⟩⟩
      | true =>
          have hnew := hkeeps.withEvent event
          exact ⟨hnew, .inl ⟨_, load_events hvalid hnew.length_le, hnew⟩, by rintro ⟨⟩⟩
  | posting events =>
      have hkeeps : ledger.Keeps events := hfits
      cases ok with
      | false =>
          have hsame : ledger.advance ⟨job, .posting events⟩ false = ledger := by
            cases job <;> rfl
          rw [hsame]
          exact ⟨trivial, hqueue, by rintro ⟨⟩⟩
      | true =>
          have hledger : ledger.advance ⟨job, .posting events⟩ true =
              { ledger with delivered := ledger.delivered ++ [⟨events, ledger.saved.length⟩] } := by
            cases job <;> rfl
          rw [hledger]
          have hextends : ({ ledger with
              delivered := ledger.delivered ++ [⟨events, ledger.saved.length⟩] } : Ledger).Extends
                ledger := ⟨le_rfl, List.subset_append_left _ _, le_rfl⟩
          refine ⟨⟨List.nil_suffix, Nat.zero_le _, fun i hi => ?_⟩, ?_, by rintro ⟨⟩⟩
          · by_cases hbefore : i < ledger.saved.length - events.length
            · exact (hkeeps.settles i hbefore).mono hextends
            · exact .inl ⟨_, List.mem_append_right _ (List.mem_singleton.mpr rfl),
                not_lt.mp hbefore, hi⟩
          · rcases hqueue with ⟨kept, hload, hkept⟩ | hmalformed
            · exact .inl ⟨kept, hload, hkept.mono hextends rfl⟩
            · exact .inr hmalformed
  | posted =>
      have hsame : ledger.advance ⟨job, .posted⟩ ok = ledger := by
        cases job <;> rfl
      rw [hsame]
      refine ⟨trivial, ?_, by rintro ⟨⟩⟩
      cases ok with
      | true => exact .inl ⟨[], rfl, hfits⟩
      | false => exact hqueue

/-- A task notes what it has saved and what the server took. -/
theorem advance_cases (ledger : Ledger) (task : Task) (ok : Bool) :
    ledger.advance task ok = ledger ∨
      (∃ event, ledger.advance task ok = { ledger with saved := ledger.saved ++ [event] }) ∨
      ∃ events, task.stage = .posting events ∧ ledger.advance task ok =
        { ledger with delivered := ledger.delivered ++ [⟨events, ledger.saved.length⟩] } := by
  unfold Ledger.advance
  split
  · exact .inr (.inl ⟨_, rfl⟩)
  · exact .inr (.inr ⟨_, by assumption, rfl⟩)
  · exact .inl rfl

theorem pieces_advance {task : Task} (hfits : task.Fits ledger) (h : ledger.Pieces) (ok : Bool) :
    (ledger.advance task ok).Pieces := by
  rcases advance_cases ledger task ok with hsame | ⟨event, hsaved⟩ | ⟨events, hstage, hposted⟩
  · rwa [hsame]
  · rw [hsaved]
    refine ⟨fun delivery hmem => ?_, h.cleared.trans (by simp)⟩
    obtain ⟨hsuffix, hlength, hupTo⟩ := h.delivered delivery hmem
    dsimp only
    rw [List.take_append_of_le_length hupTo]
    exact ⟨hsuffix, hlength, hupTo.trans (by simp)⟩
  · rw [hposted]
    have hkeeps : ledger.Keeps events := by
      unfold Task.Fits at hfits
      rwa [hstage] at hfits
    refine ⟨fun delivery hmem => ?_, h.cleared⟩
    rcases List.mem_append.mp hmem with hmem | hmem
    · exact h.delivered delivery hmem
    · obtain rfl := List.mem_singleton.mp hmem
      dsimp only
      rw [List.take_length]
      exact ⟨hkeeps.isSuffix, hkeeps.length_le, le_rfl⟩

end tasks

/-! ## Runs -/

section runs

variable {state state' : State} {ledger : Ledger}

theorem Exclusive.append {tasks : List Task} (h : Exclusive tasks) (job : Job) :
    Exclusive (tasks ++ [⟨job, .waiting⟩]) := by
  have hold : ∀ {k : ℕ} {task : Task}, (tasks ++ [⟨job, .waiting⟩])[k]? = some task →
      task.stage.holdsWrite = true → tasks[k]? = some task := by
    intro k task hk hholds
    rw [List.getElem?_append] at hk
    split_ifs at hk
    · exact hk
    · obtain rfl := List.mem_singleton.mp (List.mem_of_getElem? hk)
      cases hholds
  intro i j a b hi hj ha hb
  exact h i j a b (hold hi ha) (hold hj hb) ha hb

/-- A task that goes on takes the lock only if nobody has it. -/
theorem Exclusive.set {tasks : List Task} (h : Exclusive tasks) {i : ℕ} {task next : Task}
    (htask : tasks[i]? = some task)
    (hmay : task.stage.holdsWrite = true ∨ (∀ other ∈ tasks, other.stage.holdsWrite = false) ∨
      next.stage.holdsWrite = false) :
    Exclusive (tasks.set i next) := by
  have hother : ∀ {k : ℕ} {other : Task}, tasks[k]? = some other → other.stage.holdsWrite = true →
      next.stage.holdsWrite = true → k = i := by
    intro k other hk hholds hnext
    rcases hmay with htaken | hfree | hleft
    · exact h k i other task hk htask hholds htaken
    · rw [hfree other (List.mem_of_getElem? hk)] at hholds
      cases hholds
    · rw [hleft] at hnext
      cases hnext
  intro j k a b hj hk ha hb
  rw [List.getElem?_set] at hj hk
  split_ifs at hj hk with hij hlt hik hik
  · exact hij.symm.trans hik
  · obtain rfl := Option.some.inj hj
    exact hij.symm.trans (hother hk hb ha).symm
  · obtain rfl := Option.some.inj hk
    exact (hother hj ha hb).trans hik
  · exact h j k a b hj hk ha hb

theorem Consistent.spawn (h : Consistent state ledger) {job : Job}
    (hjob : ∀ event, job = .enqueueAndFlush event → validEvent event = true) :
    Consistent (state.spawn job) ledger := by
  refine ⟨h.exclusive.append job, ?_, h.feedback, ?_, h.queue, h.pieces⟩
  · intro task hmem event hevent
    rcases List.mem_append.mp hmem with hmem | hmem
    · exact h.jobs task hmem event hevent
    · obtain rfl := List.mem_singleton.mp hmem
      exact hjob event hevent
  · intro task hmem
    rcases List.mem_append.mp hmem with hmem | hmem
    · exact h.tasks task hmem
    · obtain rfl := List.mem_singleton.mp hmem
      exact trivial

/-- A task goes on. -/
theorem Consistent.advance (h : Consistent state ledger) {i : ℕ} {task : Task}
    (htask : state.tasks[i]? = some task) (hmay : state.mayAdvance task = true) (ok : Bool) :
    Consistent (state.advance i task ok) (ledger.advance task ok) := by
  have hmem := List.mem_of_getElem? htask
  obtain ⟨hfits, hqueue, hsame⟩ := fits_next (h.tasks task hmem) h.queue (h.jobs task hmem) ok
  refine ⟨?_, ?_, h.feedback, ?_, hqueue, pieces_advance (h.tasks task hmem) h.pieces ok⟩
  · refine h.exclusive.set htask ?_
    obtain ⟨job, stage⟩ := task
    cases stage with
    | waiting =>
        refine .inr (.inl fun other hother => ?_)
        have hfree : ∀ other ∈ state.tasks, other.stage.holdsWrite = false := by
          simpa [State.mayAdvance] using hmay
        exact hfree other hother
    | done => exact .inr (.inr rfl)
    | locked | saving events | posting events | posted => exact .inl rfl
  · intro other hother event hevent
    rcases List.mem_or_eq_of_mem_set hother with hother | rfl
    · exact h.jobs other hother event hevent
    · exact h.jobs task hmem event hevent
  · intro other hother
    obtain ⟨j, hj⟩ := List.mem_iff_getElem?.mp hother
    dsimp only [State.advance] at hj
    rw [List.getElem?_set] at hj
    split_ifs at hj with hij
    · obtain rfl := Option.some.inj hj
      exact hfits
    · have hkept := h.tasks other (List.mem_of_getElem? hj)
      cases hholds : task.stage.holdsWrite with
      | false => rwa [hsame hholds]
      | true =>
          refine Task.fits_of_not_holdsWrite (Bool.eq_false_iff.mpr fun hother => ?_)
          exact hij (h.exclusive i j task other htask hj hholds hother)

/-- **One step** loses no event. -/
theorem consistent_step (h : Consistent state ledger) {action : Action}
    (hvalid : ∀ event, action = .connected event → validEvent event = true)
    (hstep : state.step action = some state') :
    Consistent state' (ledger.next state action) := by
  cases action with
  | connected event =>
      obtain rfl := Option.some.inj hstep
      refine ⟨h.exclusive, h.jobs, ?_, h.tasks, h.queue, h.pieces⟩
      rintro _ ⟨⟩
      exact hvalid event rfl
  | disconnected session =>
      dsimp only [State.step] at hstep
      cases hfeedback : state.feedback with
      | none =>
          rw [hfeedback] at hstep
          obtain rfl := Option.some.inj hstep
          exact h
      | some event =>
          rw [hfeedback] at hstep
          obtain rfl := Option.some.inj hstep
          have hwithout : Consistent { state with feedback := none } ledger :=
            ⟨h.exclusive, h.jobs, by rintro _ ⟨⟩, h.tasks, h.queue, h.pieces⟩
          split_ifs
          · refine hwithout.spawn ?_
            rintro _ ⟨⟩
            exact h.feedback event hfeedback
          · exact hwithout
  | flush session =>
      obtain rfl := Option.some.inj hstep
      split_ifs
      · exact h.spawn (by rintro _ ⟨⟩)
      · exact h
  | advance i ok =>
      dsimp only [State.step] at hstep
      cases htask : state.tasks[i]? with
      | none =>
          rw [htask] at hstep
          cases hstep
      | some task =>
          rw [htask] at hstep
          dsimp only at hstep
          split_ifs at hstep with hmay
          obtain rfl := Option.some.inj hstep
          have hledger : ledger.next state (.advance i ok) = ledger.advance task ok := by
            simp only [Ledger.next, htask]
          rw [hledger]
          exact h.advance htask hmay ok
  | set enabled saved =>
      dsimp only [State.step] at hstep
      split_ifs at hstep
      all_goals obtain rfl := Option.some.inj hstep
      · exact h
      · exact ⟨h.exclusive, h.jobs, h.feedback, h.tasks, h.queue, h.pieces⟩
      · exact ⟨h.exclusive, h.jobs, h.feedback, h.tasks, h.queue, h.pieces⟩
  | clear ok =>
      dsimp only [State.step] at hstep
      split_ifs at hstep with hclearing hok
      all_goals obtain rfl := Option.some.inj hstep
      · subst hok
        have hextends : (ledger.next state (.clear true)).Extends ledger :=
          ⟨le_rfl, fun _ h => h, h.pieces.cleared⟩
        exact ⟨h.exclusive, h.jobs, h.feedback,
          fun task hmem => (h.tasks task hmem).mono hextends rfl,
          .inl ⟨[], rfl, List.nil_suffix, Nat.zero_le _, fun i hi => .inr (.inl hi)⟩,
          h.pieces.delivered, le_rfl⟩
      · obtain rfl : ok = false := by simpa using hok
        exact ⟨h.exclusive, h.jobs, h.feedback, h.tasks, h.queue, h.pieces⟩
  | finish =>
      dsimp only [State.step] at hstep
      split_ifs at hstep
      obtain rfl := Option.some.inj hstep
      exact ⟨h.exclusive, h.jobs, h.feedback, h.tasks, h.queue, h.pieces⟩

theorem consistent_run {actions : List Action} (h : Consistent state ledger)
    (hvalid : ∀ event, .connected event ∈ actions → validEvent event = true)
    (hrun : state.run actions = some state') :
    Consistent state' (ledger.after state actions) := by
  induction actions generalizing state ledger with
  | nil =>
      obtain rfl := Option.some.inj hrun
      exact h
  | cons action actions ih =>
      obtain ⟨next, hstep, hrun⟩ := Option.bind_eq_some_iff.mp hrun
      have hnext := consistent_step h
        (fun event hevent => hvalid event (hevent ▸ List.mem_cons_self)) hstep
      rw [Ledger.after, hstep]
      exact ih hnext (fun event hevent => hvalid event (List.mem_cons_of_mem _ hevent)) hrun

theorem consistent_initial (h : Started state)
    (hfeedback : ∀ event, state.feedback = some event → validEvent event = true) :
    Consistent state (.initial state) := by
  have htasks := h.tasks
  refine ⟨?_, by simp [htasks], hfeedback, by simp [htasks], ?_, by rintro _ ⟨⟩, Nat.zero_le _⟩
  · rintro i j a b hi
    simp [htasks] at hi
  · unfold Ledger.initial
    cases hload : load true state.queue with
    | none => exact .inr ⟨hload, rfl⟩
    | some events =>
        refine .inl ⟨events, hload, List.suffix_rfl, length_le_of_load hload, fun i hi => ?_⟩
        simp at hi

/-- **Every event that was saved** is in the queue, or was delivered, or the user had it cleared, or
a hundred later ones were saved. -/
theorem events_accounted {actions : List Action} (h : Started state)
    (hfeedback : ∀ event, state.feedback = some event → validEvent event = true)
    (hvalid : ∀ event, .connected event ∈ actions → validEvent event = true)
    (hrun : state.run actions = some state') :
    QueueFits ((Ledger.initial state).after state actions) state'.queue ∧
      ((Ledger.initial state).after state actions).Pieces := by
  have hconsistent := consistent_run (consistent_initial h hfeedback) hvalid hrun
  exact ⟨hconsistent.queue, hconsistent.pieces⟩

/-- Two tunnels of which the second one's event cannot be posted, and the user has the queue
cleared meanwhile. -/
def twoTunnels : List Action :=
  [.connected disconnection, .disconnected true, .connected disconnection, .advance 0 true,
    .advance 0 true, .disconnected true, .advance 0 true, .advance 0 true, .advance 0 false,
    .advance 1 true, .advance 1 true, .set false true, .advance 1 true, .clear true,
    .advance 1 false]

theorem events_accounted_twoTunnels : ∃ state',
    sharing.run twoTunnels = some state' ∧
      QueueFits ((Ledger.initial sharing).after sharing twoTunnels) state'.queue ∧
      ((Ledger.initial sharing).after sharing twoTunnels).Pieces := by
  obtain ⟨state', hrun⟩ := Option.isSome_iff_exists.mp
    (show (sharing.run twoTunnels).isSome by decide)
  refine ⟨state', hrun, events_accounted ⟨rfl, rfl, rfl, rfl⟩ (by rintro _ ⟨⟩) ?_ hrun⟩
  intro event hmem
  obtain rfl : event = disconnection := by simpa [twoTunnels] using hmem
  decide

end runs

end ProtonVpnOmarchy.Agent.Statistics
