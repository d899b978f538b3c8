import ProtonVpnOmarchy.Agent.Tasks.Resume
import ProtonVpnOmarchy.Lib.Endings

/-!
# The monitor of the connection

`native_backend/lifecycle.rs` `monitor_connection`: every two seconds the tunnel is observed, and one that
was lost is brought back by the recovery.

* `fits_round` — a round knows of the tunnel that is watched what the history says.
* `recoveries_due` — a recovery is under way only for a tunnel of this agent that was seen up, and seen
  down later with nothing between that forbids to bring it back; and none that is due is left out.
-/

namespace ProtonVpnOmarchy.Agent.Tasks.Monitor

open Lib Operations

/-! ## The loop -/

/-- What the monitor asks of the rest of the agent. -/
inductive Query where
  /-- `interval.tick()` -/
  | tick
  /-- `state_rx.borrow().clone()` -/
  | snapshot
  /-- The request `connection.observe` -/
  | observe
  /-- The snapshot that `connection_sequence_interrupted` is asked about. -/
  | check (baseline : List String)
  /-- A question of the recovery. -/
  | recovery (query : Tasks.Query)

abbrev Query.Answer : Query → Type
  | .tick => Unit
  | .snapshot => StateSnapshot
  | .observe => Except BackendError Value
  | .check _ => StateSnapshot
  | .recovery query => query.Answer

abbrev Task := Dialogue Query Query.Answer

abbrev Event := Dialogue.Event Query Query.Answer

abbrev ask (query : Query) : Task query.Answer := Dialogue.answer query

/-- The recovery, as a part of the monitor. -/
def recovery : Task Unit :=
  Dialogue.relabel Query.recovery (fun _ answer => answer) (Resume.reconnectAfterResume true)

def status? (observed : Value) : Option String := (observed.get "status").bind Value.asStr

def owned? (observed : Value) : Option Bool := (observed.get "owned").bind Value.asBool

/-- What follows an observation; the result is the baseline of the tunnel that is watched. -/
def afterObservation (before : StateSnapshot) (ownedOperations : Option (List String))
    (observed : Value) :
    Task (Option (List String)) :=
  if status? observed = some "connected" then
    return if owned? observed = some true then some (recentOperationIds before) else none
  else if status? observed = some "disconnected" ∨ status? observed = some "error" then
    match ownedOperations with
    | none => return none
    | some baseline => do
      if !Resume.interrupted (← ask (.check baseline)) baseline then recovery
      return none
  else return ownedOperations

/-- One round of the loop, with the baseline of the tunnel that is watched. -/
def round (ownedOperations : Option (List String)) : Task (Option (List String)) := do
  ask .tick
  let before ← ask .snapshot
  if before.account.status ≠ .signedIn then return none
  else if before.operations.active ≠ [] then return ownedOperations
  else
    match ← ask .observe with
    | .error _ => return ownedOperations
    | .ok observed => afterObservation before ownedOperations observed

/-- Source: `lifecycle.rs` `monitor_connection` -/
def monitorConnection : Task Empty :=
  .loop (fun ownedOperations => do return .inl (← round ownedOperations)) none pure

/-! ## What a recovery goes back to -/

/-- The account is signed in and nothing is under way. -/
def Calm (before : StateSnapshot) : Prop :=
  before.account.status = .signedIn ∧ before.operations.active = []

/-- Nothing that ends the watch over a tunnel. -/
def Undecided : Event → Prop
  | ⟨.tick, _⟩ => True
  | ⟨.snapshot, before⟩ => before.account.status = .signedIn
  | ⟨.observe, .error _⟩ => True
  | ⟨.observe, .ok observed⟩ =>
    status? observed ∉ [some "connected", some "disconnected", some "error"]
  | ⟨.check _, _⟩ => False
  | ⟨.recovery _, _⟩ => False

/-- A tunnel of this agent is watched: it was seen up, when these operations were the recent ones, and
nothing has been decided since. -/
inductive Watching (baseline : List String) : List Event → Prop
  | found {past : List Event} {before : StateSnapshot} {observed : Value} (hcalm : Calm before)
      (hbaseline : recentOperationIds before = baseline)
      (hstatus : status? observed = some "connected") (howned : owned? observed = some true) :
      Watching baseline (⟨.observe, .ok observed⟩ :: ⟨.snapshot, before⟩ :: past)
  | waits {past : List Event} {event : Event} (hevent : Undecided event)
      (hwatching : Watching baseline past) : Watching baseline (event :: past)

/-- The tunnel that was watched was just seen down. -/
inductive Lost (baseline : List String) : List Event → Prop
  | lost {past : List Event} {before : StateSnapshot} {observed : Value}
      (hwatching : Watching baseline past) (hcalm : Calm before)
      (hstatus : status? observed = some "disconnected" ∨ status? observed = some "error") :
      Lost baseline (⟨.observe, .ok observed⟩ :: ⟨.snapshot, before⟩ :: ⟨.tick, ()⟩ :: past)

/-- The tunnel that was lost may be brought back: no client has done anything about the connection
since the baseline. -/
inductive Begins : List Event → Prop
  | begins {past : List Event} {now : StateSnapshot} {baseline : List String}
      (hlost : Lost baseline past) (hinterrupted : Resume.interrupted now baseline = false) :
      Begins (⟨.check baseline, now⟩ :: past)

/-- A recovery is under way. -/
inductive Recovers : List Event → Prop
  | begins {past : List Event} (hbegins : Begins past) : Recovers past
  | goesOn {past : List Event} (query : Tasks.Query) (answer : query.Answer)
      (hrecovers : Recovers past) : Recovers (⟨.recovery query, answer⟩ :: past)

/-- A lost tunnel has not been dealt with. -/
def Due (past : List Event) : Prop := (∃ baseline, Lost baseline past) ∨ Begins past

/-- The questions of a recovery are asked while one is under way, and a round begins with nothing
left. -/
def Traced : Event → List Event → Prop
  | ⟨.recovery _, _⟩, past => Recovers past
  | ⟨.tick, _⟩, past => ¬ Due past
  | _, _ => True

/-! ## What is watched -/

section watching

variable {past : List Event} {baseline : List String} {ownedOperations : Option (List String)}

/-- The watched tunnel is what the loop has a baseline of. -/
def Watched (ownedOperations : Option (List String)) (past : List Event) : Prop :=
  ∀ baseline, ownedOperations = some baseline ↔ Watching baseline past

theorem watching_cons_iff {event : Event} (hevent : Undecided event) :
    Watching baseline (event :: past) ↔ Watching baseline past := by
  constructor
  · intro h
    cases h with
    | found hcalm hbaseline hstatus howned => exact absurd hstatus (by simp_all [Undecided])
    | waits _ hwatching => exact hwatching
  · exact .waits hevent

theorem watching_found_iff {before : StateSnapshot} {observed : Value} (hcalm : Calm before)
    (hstatus : status? observed = some "connected") (howned : owned? observed = some true) :
    Watching baseline (⟨.observe, .ok observed⟩ :: ⟨.snapshot, before⟩ :: past) ↔
      recentOperationIds before = baseline := by
  constructor
  · intro h
    cases h with
    | found _ hbaseline _ _ => exact hbaseline
    | waits hevent _ => exact absurd hevent (by simp [Undecided, hstatus])
  · exact fun hbaseline => .found hcalm hbaseline hstatus howned

theorem not_watching {event : Event} (hevent : ¬ Undecided event)
    (hfound : ∀ observed, event = ⟨.observe, .ok observed⟩ →
      ¬ (status? observed = some "connected" ∧ owned? observed = some true)) :
    ¬ Watching baseline (event :: past) := by
  intro h
  cases h with
  | found _ _ hstatus howned => exact hfound _ rfl ⟨hstatus, howned⟩
  | waits h _ => exact hevent h

theorem Watched.waits (h : Watched ownedOperations past) {event : Event}
    (hevent : Undecided event) : Watched ownedOperations (event :: past) :=
  fun baseline => (h baseline).trans (watching_cons_iff hevent).symm

theorem Watched.seen (h : Watched ownedOperations past) {before : StateSnapshot}
    (hsigned : before.account.status = .signedIn) :
    Watched ownedOperations (⟨.snapshot, before⟩ :: ⟨.tick, ()⟩ :: past) := by
  have hticked : Watched ownedOperations (⟨.tick, ()⟩ :: past) := h.waits trivial
  exact hticked.waits hsigned

theorem watched_none (h : ∀ baseline, ¬ Watching baseline past) : Watched none past := by
  intro baseline
  constructor
  · rintro ⟨⟩
  · exact fun hwatching => absurd hwatching (h baseline)

theorem not_due_of_snapshot {before : StateSnapshot} : ¬ Due (⟨.snapshot, before⟩ :: past) := by
  rintro (⟨baseline, ⟨⟩⟩ | hbegins)
  cases hbegins

theorem not_due_of_recovery {query : Tasks.Query} {answer : query.Answer} :
    ¬ Due (⟨.recovery query, answer⟩ :: past) := by
  rintro (⟨baseline, ⟨⟩⟩ | hbegins)
  cases hbegins

end watching

/-! ## The rounds -/

abbrev Safe (past : List Event) : Prop := Dialogue.Always Traced past

/-- What the loop knows between two rounds. -/
structure Settled (ownedOperations : Option (List String)) (past : List Event) : Prop where
  watched : Watched ownedOperations past
  notDue : ¬ Due past

/-- A round, or the end of one. -/
abbrev Fits (task : Task (Option (List String))) (past : List Event) : Prop :=
  Dialogue.Keeps (fun _ => True) Safe task past Settled

section rounds

variable {past : List Event} {ownedOperations : Option (List String)}

theorem fits_pure (hsafe : Safe past) (hwatched : Watched ownedOperations past)
    (hdue : ¬ Due past) : Fits (pure ownedOperations) past :=
  Dialogue.keeps_pure hsafe ⟨hwatched, hdue⟩

theorem fits_ask {query : Query} {next : query.Answer → Task (Option (List String))}
    (hquery : ∀ answer, Traced ⟨query, answer⟩ past) (hsafe : Safe past)
    (h : ∀ answer, Safe (⟨query, answer⟩ :: past) → Fits (next answer) (⟨query, answer⟩ :: past)) :
    Fits (ask query >>= next) past :=
  Dialogue.keeps_ask Dialogue.closed_true hsafe fun answer _ => h answer ⟨hquery answer, hsafe⟩

/-- A recovery that has begun goes on as one, to its end. -/
theorem keeps_recovery (hsafe : Safe past) (h : Recovers past) :
    Dialogue.Keeps (fun _ => True) Safe recovery past fun _ past' =>
      Safe past' ∧ Settled none past' := by
  have hsettled : ∀ query answer past, Settled none (⟨.recovery query, answer⟩ :: past) :=
    fun query answer past => ⟨watched_none fun baseline => not_watching id (by rintro _ ⟨⟩),
      not_due_of_recovery⟩
  have honly : Dialogue.Only (fun query => ∃ q, query = Query.recovery q) recovery :=
    Dialogue.only_relabel _
  obtain ⟨-, hrest⟩ := honly
  refine Dialogue.keeps_ask Dialogue.closed_true hsafe fun autoConnect _ => ?_
  refine ((hrest autoConnect).keeps (fun past => Recovers past ∧ Safe past ∧ Settled none past)
    (fun _ h => h.2.1) ?_ ⟨.goesOn _ _ h, ⟨h, hsafe⟩, hsettled _ _ _⟩).mono fun _ _ h => h.2
  rintro query answer past ⟨q, rfl⟩ ⟨hrecovers, hsafe, -⟩
  exact ⟨.goesOn q answer hrecovers, ⟨hrecovers, hsafe⟩, hsettled _ _ _⟩

theorem fits_afterObservation {before : StateSnapshot} {observed : Value} (hcalm : Calm before)
    (h : Watched ownedOperations past)
    (hsafe : Safe (⟨.observe, .ok observed⟩ :: ⟨.snapshot, before⟩ :: ⟨.tick, ()⟩ :: past)) :
    Fits (afterObservation before ownedOperations observed)
      (⟨.observe, .ok observed⟩ :: ⟨.snapshot, before⟩ :: ⟨.tick, ()⟩ :: past) := by
  have hup_of_due : ∀ {event past'}, Due (⟨.observe, .ok observed⟩ :: event :: past') →
      status? observed = some "disconnected" ∨ status? observed = some "error" := by
    rintro event past' (⟨baseline, ⟨-, -, hstatus⟩⟩ | hbegins)
    · exact hstatus
    · cases hbegins
  unfold afterObservation
  split_ifs with hup howned hlost
  · refine fits_pure hsafe ?_ fun hdue => by simpa [hup] using hup_of_due hdue
    intro baseline
    rw [watching_found_iff hcalm hup howned, Option.some_inj]
  · refine fits_pure hsafe (watched_none fun baseline => ?_) fun hdue => by
      simpa [hup] using hup_of_due hdue
    refine not_watching (by simp [Undecided, hup]) ?_
    rintro _ ⟨⟩ ⟨-, howned'⟩
    exact howned howned'
  · have hgone : ∀ baseline, ¬ Watching baseline
        (⟨.observe, .ok observed⟩ :: ⟨.snapshot, before⟩ :: ⟨.tick, ()⟩ :: past) := by
      intro baseline
      refine not_watching ?_ ?_
      · rcases hlost with hlost | hlost
        · simp [Undecided, hlost]
        · simp [Undecided, hlost]
      · rintro _ ⟨⟩ ⟨hup', -⟩
        exact hup hup'
    cases ownedOperations with
    | none =>
        refine fits_pure hsafe (watched_none hgone) ?_
        rintro (⟨baseline, ⟨hwatching, -, -⟩⟩ | hbegins)
        · cases (h baseline).mpr hwatching
        · cases hbegins
    | some baseline =>
        have hwas : Lost baseline
            (⟨.observe, .ok observed⟩ :: ⟨.snapshot, before⟩ :: ⟨.tick, ()⟩ :: past) :=
          .lost ((h baseline).mp rfl) hcalm hlost
        refine fits_ask (fun _ => trivial) hsafe fun now hsafe => ?_
        cases hinterrupted : Resume.interrupted now baseline with
        | true =>
            refine fits_pure hsafe (watched_none fun _ => not_watching id (by rintro _ ⟨⟩)) ?_
            rintro (⟨_, ⟨⟩⟩ | ⟨-, hnot⟩)
            rw [hinterrupted] at hnot
            cases hnot
        | false =>
            have hrecovers : Recovers _ := .begins (.begins hwas hinterrupted)
            refine Dialogue.keeps_bind (keeps_recovery hsafe hrecovers) ?_ Dialogue.closed_true
            rintro _ past' - ⟨hsafe, hsettled⟩
            exact Dialogue.keeps_pure hsafe hsettled
  · have hundecided : Undecided ⟨.observe, .ok observed⟩ := by
      simp only [Undecided, List.mem_cons, List.not_mem_nil, or_false, not_or]
      exact ⟨hup, not_or.mp hlost⟩
    exact fits_pure hsafe ((h.seen hcalm.1).waits hundecided) fun hdue => hlost (hup_of_due hdue)

/-- **A round** knows of the tunnel that is watched what the history says, and leaves nothing due. -/
theorem fits_round (hsafe : Safe past) (h : Settled ownedOperations past) :
    Fits (round ownedOperations) past := by
  refine fits_ask (fun _ => h.notDue) hsafe fun _ hsafe => ?_
  refine fits_ask (fun _ => trivial) hsafe fun before hsafe => ?_
  split_ifs with hsigned hactive
  · refine fits_pure hsafe (watched_none fun baseline => ?_) not_due_of_snapshot
    exact not_watching hsigned (by rintro _ ⟨⟩)
  · exact fits_pure hsafe (h.watched.seen (not_not.mp hsigned)) not_due_of_snapshot
  · have hcalm : Calm before := ⟨not_not.mp hsigned, not_not.mp hactive⟩
    refine fits_ask (fun _ => trivial) hsafe fun observed hsafe => ?_
    rcases observed with error | observed
    · refine fits_pure hsafe ((h.watched.seen hcalm.1).waits trivial) ?_
      rintro (⟨baseline, ⟨⟩⟩ | hbegins)
      cases hbegins
    · exact fits_afterObservation hcalm h.watched hsafe

end rounds

/-- **The recoveries are those that are due**: whatever a recovery asks goes back to a tunnel of this
agent that was watched and lost, and no round begins while a lost tunnel has not been dealt with. -/
theorem recoveries_due {n : ℕ} {rest : Task Empty} {past : List Event}
    (h : Dialogue.Talks n monitorConnection [] rest past) : Dialogue.Always Traced past := by
  have hsettled : Settled none [] := by
    refine ⟨watched_none fun baseline => ?_, ?_⟩
    · rintro ⟨⟩
    · rintro (⟨baseline, ⟨⟩⟩ | hbegins)
      cases hbegins
  have hkeeps : Dialogue.Keeps (fun _ => True) Safe monitorConnection [] fun _ _ => True := by
    refine Dialogue.keeps_loop Settled (fun _ _ => True) Dialogue.closed_true ?_ ?_ trivial hsettled
    · intro ownedOperations past hsafe hsettled
      refine Dialogue.keeps_bind (fits_round hsafe hsettled) ?_ Dialogue.closed_true
      exact fun after past' hsafe' hsettled' => Dialogue.keeps_pure hsafe' hsettled'
    · exact fun _ past hsafe _ => Dialogue.keeps_pure hsafe trivial
  exact (hkeeps n rest past h trivial).1

/-- A tunnel of this agent is seen up, and down two seconds later. -/
def losing : (query : Query) → List Event → query.Answer
  | .tick, _ => ()
  | .snapshot, _ => { account := { status := .signedIn } }
  | .observe, past =>
    .ok (if past.length < 3 then .obj [("status", .string "connected"), ("owned", .bool true)]
      else .obj [("status", .string "disconnected")])
  | .check _, _ => {}
  | .recovery .autoConnectEnabled, _ => false
  | .recovery .accountStatus, _ => .unknown
  | .recovery .connectionStatus, _ => .unknown
  | .recovery .recentOperations, _ => []
  | .recovery (.check _), _ => {}
  | .recovery (.changed _), _ => none
  | .recovery .accountGet, _ => .ok .null
  | .recovery .observe, _ => .ok .null
  | .recovery (.resolve _), _ => .ok .null
  | .recovery (.submit _), _ => ()
  | .recovery .reply, _ => .ok .null
  | .recovery (.record _), _ => ()
  | .recovery (.wait _), _ => .elapsed

theorem recoveries_due_lost :
    (Dialogue.drive losing 10 monitorConnection []).2.head? =
        some ⟨.recovery .autoConnectEnabled, false⟩ ∧
      Dialogue.Always Traced (Dialogue.drive losing 10 monitorConnection []).2 := by
  obtain ⟨n, htalks⟩ := Dialogue.talks_drive losing 10 monitorConnection []
  exact ⟨rfl, recoveries_due htalks⟩

end ProtonVpnOmarchy.Agent.Tasks.Monitor
