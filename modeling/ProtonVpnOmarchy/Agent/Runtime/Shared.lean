import ProtonVpnOmarchy.Agent.Runtime.Connection
import ProtonVpnOmarchy.Lib.Interleaving

/-!
# What the tasks of the runtime share

How the questions of the tasks act on the attempt counter, the mutexes, the recorded uuid, the tunnels
that NetworkManager holds for this agent, the settings, the policy of the split service and the Local
Agent. Which calls may fail is a parameter. Whatever else a question asks for (the session, the catalog,
the time, the Local Agent, other VPN clients) is answered in any way.
-/

namespace ProtonVpnOmarchy.Agent.Runtime

open Lib

variable {ι : Type} [DecidableEq ι]

/-- The state that the tasks share. The last part says who did what, for the proofs only. -/
structure Shared (ι : Type) where
  attempt : ℕ := 0
  holder : Mutex → Option ι := fun _ => none
  owned : Option String := none
  tunnels : Finset String := ∅
  settings : NativeSettings := {}
  override : Option (Bool × Bool) := none
  policy : Bool × Bool := (false, false)
  snapshot : AgentSnapshot := {}
  /-- The task that moved the counter last. -/
  latest : Option ι := none
  /-- What the counter was when a task moved it last. -/
  number : ι → ℕ := fun _ => 0
  /-- The uuids of the profiles of a task. -/
  created : ι → Finset String := fun _ => ∅
  /-- What the counter was when `network_write` was released last with no uuid recorded. -/
  quiet : ℕ := 0
  /-- What was recorded when a task took `network_write`. -/
  found : ι → Option (Option String) := fun _ => none
  /-- What was recorded when a task gave `network_write` back. -/
  left : ι → Option (Option String) := fun _ => none
  /-- The tasks that have taken a tunnel down. -/
  removed : ι → Bool := fun _ => false

/-- No task has done anything yet. -/
structure Shared.Fresh (s : Shared ι) : Prop where
  holder : ∀ mutex, s.holder mutex = none
  latest : s.latest = none
  number : ∀ i, s.number i = 0
  created : ∀ i, s.created i = ∅
  quiet : s.quiet = 0
  found : ∀ i, s.found i = none
  left : ∀ i, s.left i = none
  removed : ∀ i, s.removed i = false

/-- A call that may fail has an effect, or it has none. -/
def Outcome (fails : Prop) (before after : Shared ι) (answer : NativeResult Unit)
    (shared : Shared ι) : Prop :=
  answer = .ok () ∧ shared = after ∨ fails ∧ (∃ error, answer = .error error) ∧ shared = before

omit [DecidableEq ι] in
/-- The answer of a call that cannot fail. -/
theorem Outcome.eq_ok {fails : Prop} {before after s : Shared ι} {answer : NativeResult Unit}
    (h : Outcome fails before after answer s) (hfails : ¬ fails) : answer = .ok () := by
  rcases h with ⟨hanswer, -⟩ | ⟨hfail, -⟩
  · exact hanswer
  · exact absurd hfail hfails

/-- A mutex is taken. -/
def Shared.take (shared : Shared ι) (mutex : Mutex) (i : ι) : Shared ι :=
  { shared with
    holder := Function.update shared.holder mutex (some i)
    found :=
      if mutex = .network then Function.update shared.found i (some shared.owned)
      else shared.found }

/-- A mutex is given back. -/
def Shared.release (shared : Shared ι) (mutex : Mutex) (i : ι) : Shared ι :=
  { shared with
    holder := Function.update shared.holder mutex none
    quiet := if mutex = .network ∧ shared.owned = none then shared.attempt else shared.quiet
    left :=
      if mutex = .network then Function.update shared.left i (some shared.owned)
      else shared.left }

/-- How the question of a task acts on the shared state. -/
def act (fails : Query → Prop) (i : ι) :
    (query : Query) → Shared ι → query.Answer → Shared ι → Prop
  | .nextAttempt, s, answer, s' =>
    answer = s.attempt + 1 ∧
      s' =
        { s with
          attempt := s.attempt + 1
          latest := some i
          number := Function.update s.number i (s.attempt + 1) }
  | .loadAttempt, s, answer, s' => answer = s.attempt ∧ s' = s
  | .lock mutex, s, _, s' => s.holder mutex = none ∧ s' = s.take mutex i
  | .unlock mutex, s, _, s' => s' = s.release mutex i
  | .tryLock mutex, s, answer, s' =>
    match answer with
    | true => s.holder mutex = none ∧ s' = s.take mutex i
    | false => s' = s
  | .poll (.lock mutex), s, answer, s' =>
    match answer with
    | some _ => s.holder mutex = none ∧ s' = s.take mutex i
    | none => s' = s
  | .ownedUuid, s, answer, s' => answer = s.owned ∧ s' = s
  | .setOwnedUuid uuid, s, _, s' => s' = { s with owned := uuid }
  | .newProfile, s, answer, s' =>
    match answer with
    | .ok uuid =>
      uuid ∉ s.tunnels ∧ (∀ j, uuid ∉ s.created j) ∧
        s' = { s with created := Function.update s.created i (insert uuid (s.created i)) }
    | .error _ => fails .newProfile ∧ s' = s
  | .connect uuid, s, answer, s' =>
    Outcome (fails (.connect uuid)) s { s with tunnels := insert uuid s.tunnels } answer s'
  | .disconnectUuid uuid, s, answer, s' =>
    Outcome (fails (.disconnectUuid uuid)) s
      { s with
        tunnels := s.tunnels.erase uuid
        removed := Function.update s.removed i true } answer s'
  | .observe site, s, answer, s' =>
    s' = s ∧
      match answer with
      | .ok observation =>
        if observation.state = .disconnected then s.tunnels = ∅
        else observation.owned = true → ∃ uuid ∈ s.tunnels, observation.uuid = some uuid
      | .error _ => fails (.observe site)
  | .settings, s, answer, s' => answer = s.settings ∧ s' = s
  | .persistSettings settings, s, answer, s' =>
    Outcome (fails (.persistSettings settings)) s { s with settings := settings } answer s'
  | .policyOverride, s, answer, s' => answer = s.override ∧ s' = s
  | .setPolicyOverride override, s, _, s' => s' = { s with override := override }
  | .policyAvailable, s, answer, s' => (answer = true ∨ fails .policyAvailable) ∧ s' = s
  | .applyRanges allowLan allowLocalDns, s, answer, s' =>
    Outcome (fails (.applyRanges allowLan allowLocalDns)) s
      { s with policy := (allowLan, allowLocalDns) } answer s'
  | .setSnapshot snapshot, s, _, s' => s' = { s with snapshot := snapshot }
  | .killSwitch mode active serverIp ipv6, s, answer, s' =>
    Outcome (fails (.killSwitch mode active serverIp ipv6)) s s answer s'
  | .setKillSwitchBypass enabled routes, s, answer, s' =>
    Outcome (fails (.setKillSwitchBypass enabled routes)) s s answer s'
  | _, s, _, s' => s' = s

/-- The tasks of the runtime, with surroundings that let none, or any, of its tunnels go down. -/
def machine (fails : Query → Prop) (losses : Prop) :
    Machine ι Query Query.Answer (Shared ι) where
  act := act fails
  surroundings s s' :=
    losses ∧ ∃ uuid, s' = { s with tunnels := s.tunnels.erase uuid }

end ProtonVpnOmarchy.Agent.Runtime
