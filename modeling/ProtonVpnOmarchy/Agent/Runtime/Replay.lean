import ProtonVpnOmarchy.Agent.Runtime.Shared

/-!
# Replaying the runtime

A computable choice among the answers that the shared state allows, so that a run of several tasks is
determined by the turns they take.

* `act_of_reply` — the choice is one of the allowed ones.
-/

namespace ProtonVpnOmarchy.Agent.Runtime

open Lib

variable {ι : Type} [DecidableEq ι]

/-- What a replayed run is told about the world. -/
structure Setup (ι : Type) where
  failing : Query → Bool := fun _ => false
  uuid : ι → String
  plan : Plan := ⟨⟨"node.protonvpn.net", "192.0.2.1"⟩, {}, {}, "wireguard"⟩
  ready : Except Unit (NativeResult AgentSnapshot) := .ok (.ok { connected := true })
  update : Option AgentUpdate := none

def unavailable : NativeError := .new "unavailable" "The service did not answer"

/-- The answers to questions that leave the shared state alone. -/
def Setup.answer (setup : Setup ι) : (query : Query) → query.Answer
  | .nextAttempt | .loadAttempt => 0
  | .tryLock _ => false
  | .poll .prepared => some (.ok ())
  | .poll (.lock _) => none
  | .poll (.agent _) => some (.ok 0)
  | .poll (.ready _) => some setup.ready
  | .compute _ => .ok ()
  | .plan => .ok setup.plan
  | .observe _ => .error unavailable
  | .ownedUuid => none
  | .newProfile => .error unavailable
  | .conflictingInterfaces => .ok []
  | .settings => {}
  | .selected => none
  | .killSwitch .. | .connect _ | .disconnectUuid _ | .setKillSwitchBypass .. | .applyRanges .. =>
    .ok ()
  | .splitBypassActive => true
  | .physicalDefaultRoutes => .ok []
  | .policyAvailable => true
  | .policyOverride => none
  | .startAgent _ => .ok 0
  | .ready _ => setup.ready
  | .receive _ => setup.update
  | .restorable => none
  | .restoreSaved => .ok true
  | .persistSettings _ => .ok ()
  | .deadlinePassed | .twoSecondsPassed | .choose => false
  | .lock _ | .unlock _ | .setOwnedUuid _ | .setSelected _ | .setSplitBypassActive _
  | .setPolicyOverride _ | .setLocalAgent _ | .setSnapshot _ | .spawnWatch .. | .emitConnection ..
  | .sleep => ()

/-- A call with an effect. -/
def call (fails : Bool) (before after : Shared ι) : Option (NativeResult Unit × Shared ι) :=
  some (if fails then (.error unavailable, before) else (.ok (), after))

/-- What is seen of the tunnels of this agent. -/
def Shared.observation (s : Shared ι) : TunnelObservation :=
  if s.tunnels = ∅ then ⟨.disconnected, none, false⟩
  else ⟨.connected, s.owned, decide (∃ uuid ∈ s.tunnels, s.owned = some uuid)⟩

/-- An answer to the question of a task, and what becomes of the shared state. -/
def reply [Fintype ι] (setup : Setup ι) (i : ι) :
    (query : Query) → Shared ι → Option (query.Answer × Shared ι)
  | .nextAttempt, s =>
    some (s.attempt + 1,
      { s with
        attempt := s.attempt + 1
        latest := some i
        number := Function.update s.number i (s.attempt + 1) })
  | .loadAttempt, s => some (s.attempt, s)
  | .lock mutex, s => if s.holder mutex = none then some ((), s.take mutex i) else none
  | .unlock mutex, s => some ((), s.release mutex i)
  | .tryLock mutex, s =>
    some (if s.holder mutex = none then (true, s.take mutex i) else (false, s))
  | .poll (.lock mutex), s =>
    some (if s.holder mutex = none then (some (), s.take mutex i) else (none, s))
  | .ownedUuid, s => some (s.owned, s)
  | .setOwnedUuid uuid, s => some ((), { s with owned := uuid })
  | .newProfile, s =>
    if setup.uuid i ∉ s.tunnels ∧ ∀ j, setup.uuid i ∉ s.created j then
      some (.ok (setup.uuid i),
        { s with created := Function.update s.created i (insert (setup.uuid i) (s.created i)) })
    else none
  | .connect uuid, s =>
    call (setup.failing (.connect uuid)) s { s with tunnels := insert uuid s.tunnels }
  | .disconnectUuid uuid, s =>
    call (setup.failing (.disconnectUuid uuid)) s
      { s with
        tunnels := s.tunnels.erase uuid
        removed := Function.update s.removed i true }
  | .observe site, s =>
    some (if setup.failing (.observe site) then .error unavailable
      else .ok s.observation, s)
  | .settings, s => some (s.settings, s)
  | .persistSettings settings, s =>
    call (setup.failing (.persistSettings settings)) s { s with settings := settings }
  | .policyOverride, s => some (s.override, s)
  | .setPolicyOverride override, s => some ((), { s with override := override })
  | .policyAvailable, s => some (true, s)
  | .applyRanges allowLan allowLocalDns, s =>
    call (setup.failing (.applyRanges allowLan allowLocalDns)) s
      { s with policy := (allowLan, allowLocalDns) }
  | .setSnapshot snapshot, s => some ((), { s with snapshot := snapshot })
  | .killSwitch mode active serverIp ipv6, s =>
    call (setup.failing (.killSwitch mode active serverIp ipv6)) s s
  | .setKillSwitchBypass enabled routes, s =>
    call (setup.failing (.setKillSwitchBypass enabled routes)) s s
  | query, s => some (setup.answer query, s)

omit [DecidableEq ι] in
theorem outcome_of_call {fails : Bool} {before after s : Shared ι} {answer : NativeResult Unit}
    (h : call fails before after = some (answer, s)) :
    Outcome (fails = true) before after answer s := by
  unfold call at h
  cases fails with
  | true =>
      cases h
      exact .inr ⟨rfl, ⟨unavailable, rfl⟩, rfl⟩
  | false =>
      cases h
      exact .inl ⟨rfl, rfl⟩

theorem act_of_reply [Fintype ι] {setup : Setup ι} {losses : Prop} (i : ι) (query : Query)
    (s : Shared ι) (answer : query.Answer) (s' : Shared ι)
    (h : reply setup i query s = some (answer, s')) :
    (machine (fun query => setup.failing query = true) losses).act i query s answer s' := by
  cases query with
  | nextAttempt | loadAttempt | unlock _ | ownedUuid | setOwnedUuid _ | settings | policyOverride
  | setPolicyOverride _ | setSnapshot _ =>
      cases h
      simp [machine, act]
  | lock mutex =>
      simp only [reply] at h
      split_ifs at h with hfree
      cases h
      exact ⟨hfree, rfl⟩
  | tryLock mutex =>
      simp only [reply] at h
      split_ifs at h with hfree
      · cases h
        exact ⟨hfree, rfl⟩
      · cases h
        rfl
  | poll future =>
      cases future with
      | lock mutex =>
          simp only [reply] at h
          split_ifs at h with hfree
          · cases h
            exact ⟨hfree, rfl⟩
          · cases h
            rfl
      | _ =>
          cases h
          rfl
  | newProfile =>
      simp only [reply] at h
      split_ifs at h with hnew
      cases h
      exact ⟨hnew.1, hnew.2, rfl⟩
  | observe site =>
      simp only [reply] at h
      split_ifs at h with hfails
      · cases h
        exact ⟨rfl, hfails⟩
      · cases h
        refine ⟨rfl, ?_⟩
        by_cases hnone : s.tunnels = ∅
        · simp [Shared.observation, hnone]
        · simp [Shared.observation, hnone]
  | policyAvailable =>
      cases h
      exact ⟨.inl rfl, rfl⟩
  | connect _ | disconnectUuid _ | persistSettings _ | applyRanges _ _ | killSwitch _ _ _ _
  | setKillSwitchBypass _ _ => exact outcome_of_call h
  | _ =>
      cases h
      rfl

end ProtonVpnOmarchy.Agent.Runtime
