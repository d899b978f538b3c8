import ProtonVpnOmarchy.Agent.Runtime.Cleanup
import ProtonVpnOmarchy.Agent.Runtime.Core

/-!
# Updates of an earlier attempt

The watcher of a Local Agent reads the updates of its queue, also those that come after a later attempt
has begun. Only a queue that stops is compared with the attempt counter.

* `keeps_watchLocalAgent` — what a watcher does after it got an update late.
* `reach_loads` — the counter that is read after an attempt has begun is another one.
* `unintrusive_of_no_status` — late errors and stops leave the later attempt alone.
* `not_unintrusive` — a late status does not.
-/

namespace ProtonVpnOmarchy.Agent.Runtime

open Lib
open Dialogue hiding pure bind ask

/-- What would interfere with a later attempt. -/
def Query.isIntrusive : Query → Bool
  | .nextAttempt | .disconnectUuid _ | .setOwnedUuid _ | .setSnapshot _ => true
  | _ => false

/-- Updates of a Local Agent are read. -/
def Query.isReceive : Query → Bool
  | .receive _ | .ready _ => true
  | _ => false

/-- A status is read, also by the wait for a Local Agent that is started again. -/
def isStatus : Event → Bool
  | ⟨.receive _, some (.status _)⟩ => true
  | ⟨.ready _, .ok (.ok _)⟩ => true
  | ⟨.ready _, .ok (.error error)⟩ => !error.retryable
  | _ => false

section watcher

variable (attempt begun : ℕ)

/-- Something was read after the first `begun` events. -/
def Late (past : List Event) : Prop :=
  ∃ later event earlier, past = later ++ event :: earlier ∧ event.1.isReceive = true ∧
    begun ≤ earlier.length

/-- After the first `begun` events the counter is another one, and no status comes. -/
def Overtaken : List Event → Prop :=
  Always fun event past => begun ≤ past.length →
    event ≠ ⟨.loadAttempt, attempt⟩ ∧ isStatus event = false

/-- Nothing is read late before something intrusive. -/
def Undisturbed : List Event → Prop :=
  Always fun event past => event.1.isIntrusive = true → ¬ Late begun past

variable {attempt begun} {past : List Event} {α β : Type}

theorem closed_overtaken : Closed (Overtaken attempt begun) := closed_always _

theorem Late.length_le (h : Late begun past) : begun ≤ past.length := by
  obtain ⟨later, event, earlier, rfl, -, hle⟩ := h
  rw [List.length_append, List.length_cons]
  omega

theorem late_cons {event : Event} : Late begun (event :: past) ↔
    (event.1.isReceive = true ∧ begun ≤ past.length) ∨ Late begun past := by
  constructor
  · rintro ⟨later, received, earlier, heq, hreceived, hle⟩
    rcases later with _ | ⟨first, later⟩
    · obtain ⟨rfl, rfl⟩ := List.cons.inj heq
      exact .inl ⟨hreceived, hle⟩
    · exact .inr ⟨later, received, earlier, (List.cons.inj heq).2, hreceived, hle⟩
  · rintro (⟨hreceived, hle⟩ | ⟨later, received, earlier, rfl, hreceived, hle⟩)
    · exact ⟨[], event, past, rfl, hreceived, hle⟩
    · exact ⟨event :: later, received, earlier, rfl, hreceived, hle⟩

theorem not_late_nil : ¬ Late begun [] := fun h => by
  obtain ⟨later, event, earlier, heq, -, -⟩ := h
  exact List.append_ne_nil_of_right_ne_nil later (List.cons_ne_nil event earlier) heq.symm

instance : ∀ past, Decidable (Late begun past)
  | [] => .isFalse not_late_nil
  | _ :: past =>
    have : Decidable (Late begun past) := instDecidableLate past
    decidable_of_iff _ late_cons.symm

instance (past : List Event) : Decidable (Undisturbed begun past) :=
  inferInstanceAs (Decidable (Always _ past))

theorem not_late_cons {event : Event} (h : ¬ Late begun past)
    (hevent : event.1.isReceive = true → past.length < begun) : ¬ Late begun (event :: past) := by
  rw [late_cons]
  rintro (⟨hreceived, hle⟩ | hlate)
  · exact Nat.not_lt.mpr hle (hevent hreceived)
  · exact h hlate

/-- A status is read before the later attempt has begun. -/
theorem not_late_status {event : Event} (hrely : Overtaken attempt begun (event :: past))
    (hstatus : isStatus event = true) : ¬ Late begun (event :: past) := by
  have hearly : past.length < begun := by
    by_contra hle
    have hfalse := (hrely.1 (Nat.not_lt.mp hle)).2
    rw [hstatus] at hfalse
    cases hfalse
  exact not_late_cons (fun hlate => Nat.not_lt.mpr hlate.length_le hearly) fun _ => hearly

/-! ## Pieces of the watcher -/

/-- Nothing has to be said of a result. -/
theorem keeps_any {rely safe : List Event → Prop} {task : Task α} {post : α → List Event → Prop}
    (h : Keeps rely safe task past fun _ _ => True) (hpost : ∀ a past', post a past') :
    Keeps rely safe task past post := h.mono fun a past' _ => hpost a past'

/-- A piece that reads nothing, before anything was read late. -/
theorem keeps_punctual {task : Task α} (h : Only (fun query => query.isReceive = false) task)
    (hsafe : Undisturbed begun past) (hlate : ¬ Late begun past) :
    Keeps (Overtaken attempt begun) (Undisturbed begun) task past fun _ _ => True := by
  refine (h.keeps (fun past => Undisturbed begun past ∧ ¬ Late begun past) (fun _ hp => hp.1) ?_
    ⟨hsafe, hlate⟩).mono fun _ _ _ => trivial
  rintro query answer past' hquery ⟨hsafe', hlate'⟩
  refine ⟨⟨fun _ => hlate', hsafe'⟩, not_late_cons hlate' fun hreceive => ?_⟩
  rw [hquery] at hreceive
  cases hreceive

/-- A piece that does nothing intrusive. -/
theorem keeps_unintrusive {task : Task α} (h : Only (fun query => query.isIntrusive = false) task)
    (hsafe : Undisturbed begun past) :
    Keeps (Overtaken attempt begun) (Undisturbed begun) task past fun _ _ => True := by
  refine (h.keeps (Undisturbed begun) (fun _ hp => hp) ?_ hsafe).mono fun _ _ _ => trivial
  intro query answer past' hquery hsafe'
  refine ⟨fun hintrusive => ?_, hsafe'⟩
  rw [hquery] at hintrusive
  cases hintrusive

/-- A question that reads nothing, before anything was read late. -/
theorem keeps_punctual_ask {query : Query} {next : query.Answer → Task α}
    (hquery : query.isReceive = false) (hsafe : Undisturbed begun past) (hlate : ¬ Late begun past)
    (h : ∀ answer, Undisturbed begun (⟨query, answer⟩ :: past) →
      ¬ Late begun (⟨query, answer⟩ :: past) →
      Keeps (Overtaken attempt begun) (Undisturbed begun) (next answer) (⟨query, answer⟩ :: past)
        fun _ _ => True) :
    Keeps (Overtaken attempt begun) (Undisturbed begun) (.ask query next) past
      fun _ _ => True := by
  refine keeps_ask closed_overtaken hsafe fun answer _ => ?_
  refine h answer ⟨fun _ => hlate, hsafe⟩ (not_late_cons hlate fun hreceive => ?_)
  rw [hquery] at hreceive
  cases hreceive

theorem only_disconnectAfterLocalAgentRejection : Only Outside disconnectAfterLocalAgentRejection := by
  refine only_bind (only_ask trivial) fun _ => only_bind (only_ask trivial) fun ownedUuid => ?_
  rcases ownedUuid with _ | uuid
  · exact trivial
  · have hcleanup : Only Outside (cleanupOwnedConnection uuid) :=
      only_bind (only_disconnectOwnedInner uuid) fun _ => trivial
    exact only_guarded trivial trivial hcleanup

theorem isReceive_of_outside {query : Query} (h : Outside query) : query.isReceive = false := by
  cases query with
  | receive queue => exact h.elim
  | ready queue => exact h.elim
  | _ => rfl

theorem only_rejection :
    Only (fun query => query.isReceive = false) disconnectAfterLocalAgentRejection :=
  only_disconnectAfterLocalAgentRejection.mono fun _ => isReceive_of_outside

/-- Whatever a queue gives, what comes after a late update is not intrusive. -/
theorem keeps_receiveUpdates (queue : Queue) (hsafe : Undisturbed begun past) :
    Keeps (Overtaken attempt begun) (Undisturbed begun) (receiveUpdates queue) past fun _ _ => True := by
  refine keeps_loop (fun _ _ => True) (fun _ _ => True) closed_overtaken ?_
    (fun _ _ hsafe _ => keeps_pure hsafe trivial) hsafe trivial
  intro _ past hsafe _
  refine keeps_any (keeps_ask closed_overtaken hsafe fun update hrely => ?_) ?_
  · have hreceived : Undisturbed begun (⟨.receive queue, update⟩ :: past) := ⟨nofun, hsafe⟩
    rcases update with _ | (snapshot | error | _)
    · exact keeps_pure hreceived trivial
    · refine keeps_punctual ?_ hreceived (not_late_status hrely rfl)
      refine ⟨rfl, fun _ => ⟨rfl, fun observed => ?_⟩⟩
      have hrest : Only (fun query => query.isReceive = false)
          (if snapshot.hardJailed then do
            disconnectAfterLocalAgentRejection
            pure (.inr .rejected)
          else pure (.inl ()) : Task (Unit ⊕ Ending)) := by
        split_ifs
        · exact only_bind only_rejection fun _ => trivial
        · exact trivial
      rcases observed with error | observation
      · exact hrest
      · exact ⟨rfl, fun _ => hrest⟩
    · refine keeps_unintrusive ⟨rfl, fun observed => ?_⟩ hreceived
      rcases observed with error | observation
      · exact trivial
      · exact ⟨rfl, fun _ => trivial⟩
    · exact keeps_pure hreceived trivial
  · rintro (_ | _) _
    · exact trivial
    · exact trivial

theorem keeps_restartAgent (observation : TunnelObservation) (domain : String)
    (hsafe : Undisturbed begun past) (hlate : ¬ Late begun past) :
    Keeps (Overtaken attempt begun) (Undisturbed begun) (restartAgent observation domain) past
      fun _ _ => True := by
  refine keeps_punctual_ask rfl hsafe hlate fun started hsafe hlate => ?_
  rcases started with error | queue
  · exact keeps_unintrusive ⟨rfl, fun _ => trivial⟩ hsafe
  · refine keeps_punctual_ask rfl hsafe hlate fun _ hsafe hlate => ?_
    refine keeps_ask closed_overtaken hsafe fun ready hrely => ?_
    have hread : Undisturbed begun (⟨.ready queue, ready⟩ :: _) := ⟨nofun, hsafe⟩
    rcases ready with _ | (error | snapshot)
    · exact keeps_unintrusive ⟨rfl, fun _ => ⟨rfl, fun _ => trivial⟩⟩ hread
    · by_cases hretryable : error.retryable = true
      · refine keeps_unintrusive ⟨rfl, fun _ => ?_⟩ hread
        rw [if_pos hretryable]
        exact ⟨rfl, fun _ => trivial⟩
      · refine keeps_punctual ⟨rfl, fun _ => ?_⟩ hread
          (not_late_status hrely (by rw [isStatus, Bool.eq_false_iff.mpr hretryable, Bool.not_false]))
        rw [if_neg hretryable]
        exact only_bind (d := disconnectAfterLocalAgentRejection) only_rejection fun _ => trivial
    · exact keeps_punctual ⟨rfl, fun _ => ⟨rfl, fun _ => trivial⟩⟩ hread
        (not_late_status hrely rfl)

/-- After a queue has stopped late, the counter is another one. -/
theorem keeps_afterStop (hsafe : Undisturbed begun past) :
    Keeps (Overtaken attempt begun) (Undisturbed begun) (afterStop attempt) past fun _ _ => True := by
  refine keeps_ask closed_overtaken hsafe fun current hrely => ?_
  have hloaded : Undisturbed begun (⟨.loadAttempt, current⟩ :: past) := ⟨nofun, hsafe⟩
  change Keeps _ _ (if current ≠ attempt then _ else _) _ _
  split_ifs with hcurrent
  · exact keeps_pure hloaded trivial
  · have hlate : ¬ Late begun past := fun hlate =>
      (hrely.1 hlate.length_le).1 (by rw [not_not.mp hcurrent])
    have hlate' : ¬ Late begun (⟨.loadAttempt, current⟩ :: past) := not_late_cons hlate nofun
    refine keeps_punctual_ask rfl hloaded hlate' fun observed hsafe hlate => ?_
    rcases observed with error | observation
    · exact keeps_pure hsafe trivial
    · change Keeps _ _ (if observation.state ≠ .connected then _ else _) _ _
      split_ifs
      · exact keeps_unintrusive ⟨rfl, fun _ => trivial⟩ hsafe
      · refine keeps_punctual_ask rfl hsafe hlate fun _ hsafe hlate => ?_
        refine keeps_punctual_ask rfl hsafe hlate fun _ hsafe hlate => ?_
        refine keeps_punctual_ask rfl hsafe hlate fun _ hsafe hlate => ?_
        refine keeps_punctual_ask rfl hsafe hlate fun _ hsafe hlate => ?_
        refine keeps_punctual_ask rfl hsafe hlate fun current hsafe hlate => ?_
        change Keeps _ _ (if current ≠ attempt then _ else _) _ _
        split_ifs
        · exact keeps_pure hsafe trivial
        · refine keeps_punctual_ask rfl hsafe hlate fun observed hsafe hlate => ?_
          rcases observed with error | observation
          · exact keeps_pure hsafe trivial
          · change Keeps _ _ (if observation.state ≠ .connected then _ else _) _ _
            split_ifs
            · exact keeps_pure hsafe trivial
            · refine keeps_punctual_ask rfl hsafe hlate fun target hsafe hlate => ?_
              rcases target with _ | target
              · exact keeps_unintrusive ⟨rfl, fun _ => trivial⟩ hsafe
              · exact keeps_restartAgent observation target.domain hsafe hlate

theorem keeps_watchLocalAgent (queue : Queue) (hsafe : Undisturbed begun past) :
    Keeps (Overtaken attempt begun) (Undisturbed begun) (watchLocalAgent queue attempt) past
      fun _ _ => True := by
  refine keeps_loop (fun _ _ => True) (fun _ _ => True) closed_overtaken ?_
    (fun _ _ hsafe _ => keeps_pure hsafe trivial) hsafe trivial
  intro queue past hsafe _
  refine keeps_any (keeps_bind (keeps_receiveUpdates queue hsafe) ?_ closed_overtaken) ?_
  · rintro (_ | _) past' hsafe' -
    · exact keeps_pure hsafe' trivial
    · refine keeps_bind (keeps_afterStop hsafe') ?_ closed_overtaken
      rintro (next | _) past'' hsafe'' -
      · exact keeps_pure hsafe'' trivial
      · exact keeps_pure hsafe'' trivial
  · rintro (_ | _) _
    · exact trivial
    · exact trivial

theorem overtaken_append {new old : List Event}
    (h : ∀ event ∈ new, event ≠ ⟨.loadAttempt, attempt⟩ ∧ isStatus event = false) :
    Overtaken attempt old.length (new ++ old) := by
  have hold : ∀ past : List Event, past.length ≤ old.length → Overtaken attempt old.length past := by
    intro past hle
    induction past with
    | nil => exact trivial
    | cons event past ih =>
        rw [List.length_cons] at hle
        refine ⟨fun hge => ?_, ih (by omega)⟩
        omega
  induction new with
  | nil => exact hold old le_rfl
  | cons event new ih =>
      obtain ⟨hevent, hnew⟩ := List.forall_mem_cons.mp h
      exact ⟨fun _ => hevent, ih hnew⟩

end watcher

/-! ## Attempts beside a watcher -/

/-- The task that is spawned for the updates of a queue. -/
def watching (queue : Queue) (attempt : ℕ) : Task (NativeResult Unit) := do
  watchLocalAgent queue attempt
  return .ok ()

section pool

variable {ι : Type} [DecidableEq ι] {fails : Query → Prop} {losses : Prop}

/-- The counter never goes back. -/
theorem act_attempt_le {i : ι} {query : Query} {s s' : Shared ι} {answer : query.Answer}
    (hact : act fails i query s answer s') : s.attempt ≤ s'.attempt := by
  cases query with
  | nextAttempt =>
      obtain ⟨-, rfl⟩ := hact
      exact Nat.le_succ _
  | setOwnedUuid uuid =>
      obtain rfl := hact
      exact le_rfl
  | newProfile =>
      cases answer with
      | ok uuid =>
          obtain ⟨-, -, rfl⟩ := hact
          exact le_rfl
      | error error =>
          obtain ⟨-, rfl⟩ := hact
          exact le_rfl
  | connect uuid | disconnectUuid uuid =>
      rcases hact with ⟨-, rfl⟩ | ⟨-, -, rfl⟩
      · exact le_rfl
      · exact le_rfl
  | lock mutex =>
      obtain ⟨-, rfl⟩ := hact
      exact le_rfl
  | unlock mutex =>
      obtain rfl := hact
      exact le_rfl
  | tryLock mutex =>
      cases answer with
      | true =>
          obtain ⟨-, rfl⟩ := hact
          exact le_rfl
      | false => exact (congrArg Shared.attempt hact).ge
  | poll future =>
      cases future with
      | lock mutex =>
          cases answer with
          | some _ =>
              obtain ⟨-, rfl⟩ := hact
              exact le_rfl
          | none => exact (congrArg Shared.attempt hact).ge
      | _ => exact (congrArg Shared.attempt hact).ge
  | _ => exact (congrArg Core.attempt (act_core rfl hact)).ge

/-- A later attempt has moved the counter, and it is never read again as it was before. -/
theorem reach_loads {begun pool : Pool ι Query Query.Answer (Shared ι) (NativeResult Unit)}
    {attempt : ℕ} (hattempt : attempt < begun.shared.attempt)
    (h : Pool.Reach (machine fails losses) begun pool) (i : ι) :
    attempt < pool.shared.attempt ∧ ∃ new, pool.past i = new ++ begun.past i ∧
      ∀ event ∈ new, event ≠ ⟨.loadAttempt, attempt⟩ := by
  induction h with
  | refl => exact ⟨hattempt, [], rfl, nofun⟩
  | @tail pool _ _ hmove ih =>
      obtain ⟨hlt, new, hpast, hnew⟩ := ih
      cases hmove with
      | @ask j query next htask answer s hact =>
          refine ⟨lt_of_lt_of_le hlt (act_attempt_le hact), ?_⟩
          by_cases hj : i = j
          · subst hj
            refine ⟨⟨query, answer⟩ :: new, ?_, List.forall_mem_cons.mpr ⟨?_, hnew⟩⟩
            · dsimp only
              rw [Function.update_self, hpast, List.cons_append]
            · rintro heq
              cases heq
              exact absurd hact.1 (Nat.ne_of_lt hlt)
          · refine ⟨new, ?_, hnew⟩
            dsimp only
            rw [Function.update_of_ne hj, hpast]
      | loop j htask => exact ⟨hlt, new, hpast, hnew⟩
      | surroundings s hact =>
          obtain ⟨-, uuid, rfl⟩ := hact
          exact ⟨hlt, new, hpast, hnew⟩

end pool

/-- Two attempts, and the watcher of the first. -/
inductive Party where
  | first
  | watcher
  | second
  deriving DecidableEq

instance : Fintype Party where
  elems := {.first, .watcher, .second}
  complete party := by cases party <;> decide

def parties : Party → Task (NativeResult Unit)
  | .watcher => watching 0 1
  | _ => connectionConnect

def restriction : AgentUpdate := .status { hardJailed := true }

/-- What the Local Agent of the first attempt tells its watcher. -/
def partiesSetup (update : AgentUpdate) : Setup Party where
  uuid
    | .second => "b"
    | _ => "a"
  update := some update

/-- The first attempt has come to its end, and the second one begins. -/
def secondBegun (update : AgentUpdate) :
    Pool Party Query Query.Answer (Shared Party) (NativeResult Unit) :=
  Pool.play (reply (partiesSetup update)) (List.replicate 44 .first ++ [.second])
    (.start parties {})

/-- The second attempt comes to its end, and then the watcher reads what was there for it. -/
def updatedLate (update : AgentUpdate) (turns : ℕ) :
    Pool Party Query Query.Answer (Shared Party) (NativeResult Unit) :=
  Pool.play (reply (partiesSetup update))
    (List.replicate 69 .second ++ List.replicate turns .watcher) (secondBegun update)

end ProtonVpnOmarchy.Agent.Runtime
