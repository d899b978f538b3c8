import ProtonVpnOmarchy.Agent.Runtime.Cleanup
import ProtonVpnOmarchy.Lib.Orderly

/-!
# The policy of destinations

Which destinations bypass the tunnel is known twice: the agent has an override, or its settings, and the
split service has the policy that was applied last. The requests that change them, and the loop that
applies them again, run one after another here.

* `leads_restoreGlobalDestinationPolicy`, `leads_disconnectOwnedInner` — the override goes with the tunnel.
* `leads_connectionConnect`, `leads_allowFeatureSet`, `leads_policyTick` — each request keeps the two alike.
* `policy_intended` — so does every orderly run in which no tunnel with an override is lost.
* `not_policy_intended` — a tunnel that is lost with its override leaves its policy to the next connection.
-/

namespace ProtonVpnOmarchy.Agent.Runtime

open Lib
open Dialogue hiding pure bind ask

/-! ## Requests -/

/-- The destinations that the settings allow beside the tunnel: the LAN, and local DNS. -/
def NativeSettings.allowed (settings : NativeSettings) : Bool × Bool :=
  (settings.allowLanConnections, settings.allowLocalDns)

/-- The settings with an override. -/
def NativeSettings.overridden (settings : NativeSettings) : Option (Bool × Bool) → NativeSettings
  | some (allowLan, allowLocalDns) =>
    { settings with
      allowLanConnections := allowLan
      allowLocalDns := allowLocalDns }
  | none => settings

/-- Source: `mod.rs` `feature_set`, for `allow_lan_connections` and `allow_local_dns` -/
def allowFeatureSet (change : NativeSettings → NativeSettings) : Task (NativeResult Unit) :=
  orReturn (ask (.compute .session)) fun _ =>
    guarded .settings do
      let previous ← ask .settings
      orReturn (ask (.compute .params)) fun _ =>
        orReturn (ask (.observe .request)) fun _ => do
          let live := (← ask .policyOverride).isNone
          orReturn (if live then applyDestinationPolicy (change previous) else pure (.ok ())) fun _ => do
            match ← ask (.persistSettings (change previous)) with
            | .ok () => return .ok ()
            | .error error =>
              let _ ← (if live then applyDestinationPolicy previous else pure (.ok ()))
              return .error error

/-- Source: `mod.rs` `spawn_maintenance`, a tick of the policy loop -/
def policyTick : Task (NativeResult Unit) := do
  if ← ask .policyAvailable then
    let settings ← ask .settings
    let effective := settings.overridden (← ask .policyOverride)
    if effective.allowLanConnections || effective.allowLocalDns then
      let _ ← applyDestinationPolicy effective
      return .ok ()
    else return .ok ()
  else return .ok ()

/-- What changes the policy. -/
inductive Operation : Task (NativeResult Unit) → Prop
  | connect : Operation connectionConnect
  | cancel : Operation connectionCancel
  | disconnect : Operation connectionDisconnect
  | allow (change : NativeSettings → NativeSettings) : Operation (allowFeatureSet change)
  | tick : Operation policyTick

/-! ## What the policy depends on -/

/-- What of the shared state is about the policy. -/
structure Destinations where
  allowed : Bool × Bool
  override : Option (Bool × Bool)
  policy : Bool × Bool
  tunnels : Finset String

variable {ι : Type} [DecidableEq ι]

def Shared.destinations (s : Shared ι) : Destinations :=
  ⟨s.settings.allowed, s.override, s.policy, s.tunnels⟩

/-- What the policy should be: that of the override if a tunnel is up that has one, otherwise that of the
settings. -/
def Destinations.intended (d : Destinations) : Bool × Bool :=
  if d.tunnels = ∅ then d.allowed else d.override.getD d.allowed

/-- The policy is that of the override, or of the settings, and an override has its tunnel. -/
structure InForce (d : Destinations) : Prop where
  policy : d.policy = d.override.getD d.allowed
  tunnel : d.override ≠ none → d.tunnels ≠ ∅

theorem InForce.intended {d : Destinations} (h : InForce d) : d.policy = d.intended := by
  unfold Destinations.intended
  split_ifs with hnone
  · have hoverride : d.override = none := by
      by_contra hsome
      exact h.tunnel hsome hnone
    rw [h.policy, hoverride, Option.getD_none]
  · exact h.policy

/-- A question that leaves the settings, the override and the policy alone. -/
def Query.sparesRules : Query → Bool
  | .persistSettings _ | .setPolicyOverride _ | .applyRanges .. => false
  | _ => true

/-- A question that leaves the tunnels alone, too. -/
def Query.sparesPolicy : Query → Bool
  | .connect _ | .disconnectUuid _ => false
  | query => query.sparesRules

theorem act_destinations {fails : Query → Prop} {i : ι} {query : Query} {s s' : Shared ι}
    {answer : query.Answer} (hspares : query.sparesPolicy = true)
    (hact : act fails i query s answer s') : s'.destinations = s.destinations := by
  cases query with
  | connect | disconnectUuid | persistSettings | setPolicyOverride | applyRanges =>
      exact absurd hspares (by simp [Query.sparesPolicy, Query.sparesRules])
  | nextAttempt =>
      obtain ⟨-, rfl⟩ := hact
      rfl
  | lock mutex =>
      obtain ⟨-, rfl⟩ := hact
      rfl
  | unlock mutex =>
      obtain rfl := hact
      rfl
  | tryLock mutex =>
      cases answer with
      | true =>
          obtain ⟨-, rfl⟩ := hact
          rfl
      | false =>
          obtain rfl := hact
          rfl
  | poll future =>
      cases future with
      | lock mutex =>
          cases answer with
          | some _ =>
              obtain ⟨-, rfl⟩ := hact
              rfl
          | none =>
              obtain rfl := hact
              rfl
      | _ =>
          obtain rfl := hact
          rfl
  | loadAttempt | ownedUuid | settings | policyOverride | policyAvailable =>
      obtain ⟨-, rfl⟩ := hact
      rfl
  | observe site =>
      obtain ⟨rfl, -⟩ := hact
      rfl
  | newProfile =>
      cases answer with
      | ok uuid =>
          obtain ⟨-, -, rfl⟩ := hact
          rfl
      | error error =>
          obtain ⟨-, rfl⟩ := hact
          rfl
  | killSwitch _ _ _ _ | setKillSwitchBypass _ _ =>
      rcases hact with ⟨-, rfl⟩ | ⟨-, -, rfl⟩
      · rfl
      · rfl
  | _ =>
      obtain rfl := hact
      rfl

theorem act_rules {fails : Query → Prop} {i : ι} {query : Query} {s s' : Shared ι}
    {answer : query.Answer} (hspares : query.sparesRules = true)
    (hact : act fails i query s answer s') :
    s'.destinations = { s.destinations with tunnels := s'.tunnels } := by
  have hquiet : query.sparesPolicy = true →
      s'.destinations = { s.destinations with tunnels := s'.tunnels } := by
    intro hpolicy
    have hsame := act_destinations hpolicy hact
    rw [show s'.tunnels = s.tunnels from congrArg Destinations.tunnels hsame]
    exact hsame
  cases query with
  | connect _ | disconnectUuid _ =>
      rcases hact with ⟨-, rfl⟩ | ⟨-, -, rfl⟩
      · rfl
      · rfl
  | _ => exact hquiet hspares

/-! ## Pieces of the requests -/

/-- A plan is made with the settings of its moment. -/
def PlannedFrom (settings : NativeSettings) : (query : Query) → query.Answer → Prop
  | .plan, .ok plan => plan.globalSettings = settings
  | _, _ => True

/-- A tunnel goes down by itself, where that can happen. -/
def Loses (mayLose : Shared ι → Prop) (s s' : Shared ι) : Prop :=
  mayLose s ∧ ∃ uuid, s' = { s with tunnels := s.tunnels.erase uuid }

/-- The tasks of the runtime, with plans that are made with the settings, and with tunnels that are lost
in some states. -/
def policyMachine (fails : Query → Prop) (mayLose : Shared ι → Prop) :
    Machine ι Query Query.Answer (Shared ι) where
  act i query s answer s' := act fails i query s answer s' ∧ PlannedFrom s.settings query answer
  surroundings := Loses mayLose

/-- No tunnel is lost while there is an override. -/
abbrev Guarded : Shared ι → Prop := fun s => s.override = none

/-- What does not break when a tunnel without an override is lost. -/
def Lossproof (p : Destinations → Prop) : Prop :=
  ∀ d uuid, p d → d.override = none → p { d with tunnels := d.tunnels.erase uuid }

section leads

variable {fails : Query → Prop} {i : ι} {α β : Type} {p q : Destinations → Prop}
  {post : α → Destinations → Prop} {post' : β → Destinations → Prop}

/-- What a piece of a task makes of the policy while no other task runs. -/
def Leads (fails : Query → Prop) (i : ι) (p : Destinations → Prop) (task : Task α)
    (post : α → Destinations → Prop) : Prop :=
  Meets ((policyMachine fails Guarded).act i) (Loses Guarded) (fun _ _ => True)
    (fun s : Shared ι => p s.destinations) task fun a s => post a s.destinations

omit [DecidableEq ι] in
theorem stable_of_lossproof (h : Lossproof p) :
    Stable (Loses Guarded) fun s : Shared ι => p s.destinations := by
  rintro s _ hs ⟨hnone, uuid, rfl⟩
  exact h s.destinations uuid hs hnone

theorem leads_pure {a : α} (hpost : Lossproof (post a)) (h : ∀ d, p d → post a d) :
    Leads fails i p (pure a) post :=
  meets_pure (stable_of_lossproof hpost) fun s hs => h s.destinations hs

theorem leads_bind (mid : α → Destinations → Prop) {task : Task α} {next : α → Task β}
    (h : Leads fails i p task mid) (hnext : ∀ a, Leads fails i (mid a) (next a) post') :
    Leads fails i p (task >>= next) post' :=
  meets_bind (fun a (s : Shared ι) => mid a s.destinations) h hnext

theorem Leads.consequence {p' : Destinations → Prop} {post' : α → Destinations → Prop}
    {task : Task α} (h : Leads fails i p task post) (hp : ∀ d, p' d → p d)
    (hpost : ∀ a d, post a d → post' a d) : Leads fails i p' task post' :=
  Meets.consequence h (fun s hs => hp s.destinations hs) fun a s hs => hpost a s.destinations hs

/-- A fact that is known beside the state. -/
theorem leads_fact {fact : Prop} {task : Task α} (h : fact → Leads fails i p task post) :
    Leads fails i (fun d => fact ∧ p d) task post := by
  rintro s ⟨hfact, hs⟩
  exact h hfact s hs

theorem leads_orReturn (mid : NativeResult α → Destinations → Prop)
    {task : Task (NativeResult α)} {next : α → Task (NativeResult β)}
    {post : NativeResult β → Destinations → Prop} (h : Leads fails i p task mid)
    (hpost : ∀ error, Lossproof (post (.error error)))
    (herror : ∀ error d, mid (.error error) d → post (.error error) d)
    (hnext : ∀ a, Leads fails i (mid (.ok a)) (next a) post) :
    Leads fails i p (orReturn task next) post := by
  refine leads_bind mid h fun r => ?_
  rcases r with error | a
  · exact leads_pure (hpost error) (herror error)
  · exact hnext a

/-- A question and what is known after its answer. -/
theorem leads_query {query : Query} (mid : query.Answer → Destinations → Prop) (hp : Lossproof p)
    (hmid : ∀ a, Lossproof (mid a))
    (hstep : ∀ (s : Shared ι) a s', p s.destinations → act fails i query s a s' →
      PlannedFrom s.settings query a → mid a s'.destinations) :
    Leads fails i p (ask query) mid := by
  refine meets_ask (fun a (s : Shared ι) => mid a s.destinations) (stable_of_lossproof hp) ?_
    fun a => leads_pure (hmid a) fun _ hd => hd
  intro s a s' hs hact
  exact ⟨trivial, hstep s a s' hs hact.1 hact.2⟩

theorem leads_loop {σ : Type} {body : σ → Task (σ ⊕ α)} {t : σ} (hp : Lossproof p)
    (h : ∀ t, Leads fails i p (body t) fun _ => p) :
    Leads fails i p (.loop body t pure) fun _ => p := by
  refine meets_loop (fun _ (s : Shared ι) => p s.destinations)
    (fun _ (s : Shared ι) => p s.destinations) (fun _ => stable_of_lossproof hp) (fun t => ?_)
    fun _ => leads_pure hp fun _ hd => hd
  refine Meets.consequence (h t) (fun _ hs => hs) ?_
  rintro (t' | a) s hs
  · exact hs
  · exact hs

/-- A piece that leaves the policy alone. -/
theorem leads_spares {task : Task α} (h : Only (fun query => query.sparesPolicy = true) task)
    (hp : Lossproof p) : Leads fails i p task fun _ => p := by
  refine h.meets (stable_of_lossproof hp) ?_
  intro query s a s' hspares hs hact
  exact ⟨trivial, by rwa [act_destinations hspares hact.1]⟩

/-- A piece that changes the tunnels only. -/
theorem leads_sparesRules {task : Task α}
    (h : Only (fun query => query.sparesRules = true) task)
    (hp : ∀ d tunnels, p d → p { d with tunnels := tunnels }) : Leads fails i p task fun _ => p := by
  refine h.meets (stable_of_lossproof fun d uuid hd _ => hp d _ hd) ?_
  intro query s a s' hspares hs hact
  refine ⟨trivial, ?_⟩
  rw [act_rules hspares hact.1]
  exact hp _ _ hs

/-! ### The calls of the split service -/

/-- The policy can be applied: the split service is there and takes it, and NetworkManager tells the
physical DNS servers. -/
structure PolicyApplies (fails : Query → Prop) : Prop where
  available : ¬ fails .policyAvailable
  ranges : ∀ allowLan allowLocalDns, ¬ fails (.applyRanges allowLan allowLocalDns)

/-- The settings allow these destinations. -/
def At (allowed : Bool × Bool) (p : Destinations → Prop) (d : Destinations) : Prop :=
  d.allowed = allowed ∧ p d

/-- The policy is that of the override, or of the settings. -/
def Agrees (d : Destinations) : Prop := d.policy = d.override.getD d.allowed

/-- There is no override, and the policy is that of the settings. -/
def Plain (d : Destinations) : Prop := d.override = none ∧ d.policy = d.allowed

theorem Plain.inForce {d : Destinations} (h : Plain d) : InForce d where
  policy := by rw [h.1, h.2, Option.getD_none]
  tunnel hsome := absurd h.1 hsome

theorem InForce.plain {d : Destinations} (h : InForce d) (hnone : d.override = none) : Plain d :=
  ⟨hnone, by rw [h.policy, hnone, Option.getD_none]⟩

theorem lossproof_inForce : Lossproof InForce := by
  intro d uuid h hnone
  exact ⟨h.policy, fun hsome => absurd hnone hsome⟩

theorem lossproof_agrees : Lossproof Agrees := fun _ _ h _ => h

theorem lossproof_plain : Lossproof Plain := fun _ _ h _ => h

theorem lossproof_at (h : Lossproof p) (allowed : Bool × Bool) : Lossproof (At allowed p) :=
  fun d uuid hd hnone => ⟨hd.1, h d uuid hd.2 hnone⟩

theorem leads_applyDestinationPolicy (happlies : PolicyApplies fails) (settings : NativeSettings)
    (hp : Lossproof p) (hq : Lossproof q)
    (h : ∀ d, p d → q { d with policy := settings.allowed }) :
    Leads fails i p (applyDestinationPolicy settings) fun r d => r = .ok () ∧ q d := by
  refine leads_bind (fun available d => available = true ∧ p d) ?_ fun available =>
    leads_fact fun havailable => ?_
  · refine leads_query _ hp (fun _ d uuid hd hnone => ⟨hd.1, hp d uuid hd.2 hnone⟩) ?_
    rintro s a s' hs ⟨hanswer, rfl⟩ -
    exact ⟨hanswer.resolve_right happlies.available, hs⟩
  · rw [if_pos havailable]
    refine leads_query _ hp (fun _ d uuid hd hnone => ⟨hd.1, hq d uuid hd.2 hnone⟩) ?_
    rintro s a s' hs (⟨rfl, rfl⟩ | ⟨hfails, -⟩) -
    · exact ⟨rfl, h s.destinations hs⟩
    · exact absurd hfails (happlies.ranges _ _)

theorem leads_restoreGlobalDestinationPolicy (happlies : PolicyApplies fails)
    (allowed : Bool × Bool) :
    Leads fails i (At allowed Agrees) restoreGlobalDestinationPolicy fun r d =>
      r = .ok () ∧ At allowed Plain d := by
  refine leads_bind (fun override d => At allowed Agrees d ∧ d.override = override) ?_ fun override => ?_
  · refine leads_query _ (lossproof_at lossproof_agrees allowed) (fun _ _ _ hd _ => hd) ?_
    rintro s a s' hs ⟨rfl, rfl⟩ -
    exact ⟨hs, rfl⟩
  · rcases override with _ | override
    · refine leads_pure (fun _ _ hd _ => hd) ?_
      rintro d ⟨⟨hallowed, hagrees⟩, hnone⟩
      refine ⟨rfl, hallowed, hnone, ?_⟩
      rw [hagrees, hnone, Option.getD_none]
    · change Leads fails i _ (ask .settings >>= _) _
      refine leads_bind (fun settings d => settings.allowed = allowed ∧ d.allowed = allowed) ?_
        fun settings => leads_fact fun hsettings => ?_
      · refine leads_query _ (fun _ _ hd _ => hd) (fun _ _ _ hd _ => hd) ?_
        rintro s a s' ⟨⟨hallowed, -⟩, -⟩ ⟨rfl, rfl⟩ -
        exact ⟨hallowed, hallowed⟩
      · refine leads_orReturn _ (leads_applyDestinationPolicy happlies settings (fun _ _ hd _ => hd)
          (q := fun d => d.allowed = allowed ∧ d.policy = allowed) (fun _ _ hd _ => hd)
          fun d hd => ⟨hd, hsettings⟩) (fun _ _ _ hd _ => hd) (fun error d hd => absurd hd.1 nofun)
          fun _ => leads_fact fun _ => ?_
        refine leads_bind (fun _ => At allowed Plain) ?_ fun _ =>
          leads_pure (fun _ _ hd _ => hd) fun d hd => ⟨rfl, hd⟩
        refine leads_query _ (fun _ _ hd _ => hd) (fun _ _ _ hd _ => hd) ?_
        rintro s a s' ⟨hallowed, hpolicy⟩ rfl -
        exact ⟨hallowed, rfl, hpolicy.trans hallowed.symm⟩

theorem leads_applyConnectionDestinationPolicy (happlies : PolicyApplies fails)
    {globalSettings : NativeSettings} (effective : NativeSettings) :
    Leads fails i (At globalSettings.allowed Plain)
      (applyConnectionDestinationPolicy globalSettings effective) fun r d =>
        r = .ok () ∧ At globalSettings.allowed Agrees d := by
  unfold applyConnectionDestinationPolicy
  split_ifs
  · refine leads_orReturn _ (leads_applyDestinationPolicy happlies effective (fun _ _ hd _ => hd)
      (q := fun d => d.allowed = globalSettings.allowed ∧ d.policy = effective.allowed)
      (fun _ _ hd _ => hd) fun d hd => ⟨hd.1, rfl⟩) (fun _ _ _ hd _ => hd)
      (fun error d hd => absurd hd.1 nofun) fun _ => leads_fact fun _ => ?_
    refine leads_bind (fun _ => At globalSettings.allowed Agrees) ?_ fun _ =>
      leads_pure (fun _ _ hd _ => hd) fun d hd => ⟨rfl, hd⟩
    refine leads_query _ (fun _ _ hd _ => hd) (fun _ _ _ hd _ => hd) ?_
    rintro s a s' ⟨hallowed, hpolicy⟩ rfl -
    exact ⟨hallowed, hpolicy⟩
  · refine leads_bind (fun _ => At globalSettings.allowed Agrees) ?_ fun _ =>
      leads_pure (fun _ _ hd _ => hd) fun d hd => ⟨rfl, hd⟩
    refine leads_query _ (lossproof_at lossproof_plain _) (fun _ _ _ hd _ => hd) ?_
    rintro s a s' ⟨hallowed, -, hpolicy⟩ rfl -
    exact ⟨hallowed, hpolicy⟩

/-! ### The end of a tunnel -/

theorem only_spares_reconcile (settings : NativeSettings) (tunnelActive : Bool) :
    Only (fun query => query.sparesPolicy = true)
      (reconcileSplitKillSwitchBypass settings tunnelActive) := by
  apply only_reconcileSplitKillSwitchBypass
  all_goals
    intros
    rfl

theorem only_spares_check (attempt : ℕ) :
    Only (fun query => query.sparesPolicy = true) (checkConnectionAttempt attempt) := by
  apply only_checkConnectionAttempt
  rfl

theorem only_spares_unlessCancelled (attempt : ℕ) {future : Future}
    (h : (Query.poll future).sparesPolicy = true) :
    Only (fun query => query.sparesPolicy = true) (unlessCancelled attempt future) := by
  apply only_unlessCancelled
  · rfl
  · exact h

/-- What is left to do for a tunnel after its policy is gone. -/
theorem only_sparesRules_takeDown (settings : NativeSettings) (serverIp : Option String)
    (uuid : String) :
    Only (fun query => query.sparesRules = true) (do
      ask (.setLocalAgent none)
      ask (.setSnapshot {})
      orReturn (ask (.disconnectUuid uuid)) fun _ =>
        orReturn (ask (.killSwitch settings.killswitch false serverIp settings.ipv6LeakProtection))
          fun _ => forgetConnection : Task (NativeResult Unit)) := by
  refine only_bind (only_ask rfl) fun _ => only_bind (only_ask rfl) fun _ => ?_
  refine only_orReturn (only_ask rfl) fun _ => only_orReturn (only_ask rfl) fun _ => ?_
  refine only_bind (only_ask rfl) fun _ => only_bind (only_ask rfl) fun _ => ?_
  exact only_orReturn (only_ask rfl) fun _ => only_bind (only_ask rfl) fun _ => trivial

/-- What is known after a piece that ends with a tunnel taken down. -/
def TakenBack (allowed : Bool × Bool) (r : NativeResult Unit) (d : Destinations) : Prop :=
  At allowed InForce d ∧ (r = .ok () → d.override = none)

theorem lossproof_takenBack (allowed : Bool × Bool) (r : NativeResult Unit) :
    Lossproof (TakenBack allowed r) :=
  fun d uuid hd hnone => ⟨lossproof_at lossproof_inForce allowed d uuid hd.1 hnone, hd.2⟩

variable (happlies : PolicyApplies fails) (allowed : Bool × Bool)

include happlies

theorem leads_disconnectOwnedInner (uuid : String) :
    Leads fails i (At allowed InForce) (disconnectOwnedInner uuid) (TakenBack allowed) := by
  have hforce := lossproof_at lossproof_inForce allowed
  refine leads_bind _ (leads_spares (only_ask rfl) hforce) fun settings => ?_
  refine leads_bind _ (leads_spares (only_ask rfl) hforce) fun selected => ?_
  refine leads_orReturn _ (leads_spares (only_spares_reconcile settings false) hforce)
    (fun _ => lossproof_takenBack _ _) (fun _ d hd => ⟨hd, nofun⟩) fun _ => ?_
  refine leads_orReturn _ ((leads_restoreGlobalDestinationPolicy happlies allowed).consequence
    (fun d hd => ⟨hd.1, hd.2.policy⟩) fun _ _ hd => hd) (fun _ => lossproof_takenBack _ _)
    (fun _ d hd => absurd hd.1 nofun) fun _ => leads_fact fun _ => ?_
  refine (leads_sparesRules (only_sparesRules_takeDown settings _ uuid)
    (fun _ _ hd => hd)).consequence (fun _ hd => hd) ?_
  exact fun r d hd => ⟨⟨hd.1, hd.2.inForce⟩, fun _ => hd.2.1⟩

theorem leads_disconnectInner :
    Leads fails i (At allowed InForce) disconnectInner fun _ => At allowed InForce := by
  have hforce := lossproof_at lossproof_inForce allowed
  refine leads_bind _ (leads_spares (only_ask rfl) hforce) fun ownedUuid => ?_
  rcases ownedUuid with _ | uuid
  · exact leads_pure hforce fun _ hd => hd
  · exact (leads_disconnectOwnedInner happlies allowed uuid).consequence (fun _ hd => hd)
      fun _ _ hd => hd.1

/-! ### A connection -/

omit happlies in
theorem disconnected_of_replacement {observation : TunnelObservation} {ownedUuid : Option String}
    (h : replacementConnectionUuid observation ownedUuid = .ok none) :
    observation.state = .disconnected := by
  unfold replacementConnectionUuid at h
  split_ifs at h with hstate
  · exact hstate
  · split at h
    · split_ifs at h
      cases Except.ok.inj h
    · cases h

theorem leads_replaceTunnel (attempt : ℕ) :
    Leads fails i (At allowed InForce) (replaceTunnel attempt) (TakenBack allowed) := by
  have hforce := lossproof_at lossproof_inForce allowed
  refine leads_orReturn (fun r d => At allowed InForce d ∧ ∀ observation, r = .ok observation →
    observation.state = .disconnected → d.override = none) ?_ (fun _ => lossproof_takenBack _ _)
    (fun _ d hd => ⟨hd.1, nofun⟩) fun current => ?_
  · refine leads_query _ hforce (fun r d uuid hd hnone => ⟨hforce d uuid hd.1 hnone, hd.2⟩) ?_
    rintro s r s' hs ⟨rfl, hact⟩ -
    refine ⟨hs, ?_⟩
    rintro observation rfl hdisconnected
    by_contra hsome
    exact hs.2.tunnel hsome ((if_pos hdisconnected).mp hact)
  · have hcurrent : Lossproof fun d => At allowed InForce d ∧ ∀ observation,
        (.ok current : NativeResult TunnelObservation) = .ok observation →
          observation.state = .disconnected → d.override = none :=
      fun d uuid hd hnone => ⟨hforce d uuid hd.1 hnone, hd.2⟩
    refine leads_orReturn _ (leads_spares (only_spares_check attempt) hcurrent)
      (fun _ => lossproof_takenBack _ _) (fun _ d hd => ⟨hd.1, nofun⟩) fun _ => ?_
    refine leads_bind _ (leads_spares (only_ask rfl) hcurrent) fun ownedUuid => ?_
    cases hreplacement : replacementConnectionUuid current ownedUuid with
    | error error =>
        exact leads_pure (lossproof_takenBack _ _) fun d hd => ⟨hd.1, nofun⟩
    | ok replacement =>
        rcases replacement with _ | uuid
        · refine leads_pure (lossproof_takenBack _ _) fun d hd => ⟨hd.1, fun _ => ?_⟩
          exact hd.2 current rfl (disconnected_of_replacement hreplacement)
        · refine leads_orReturn _ ((leads_disconnectOwnedInner happlies allowed uuid).consequence
            (fun d hd => hd.1) fun _ _ hd => hd) (fun _ => lossproof_takenBack _ _)
            (fun _ _ hd => ⟨hd.1, nofun⟩) fun _ => ?_
          refine leads_orReturn _ (leads_spares (only_ask rfl) (lossproof_takenBack _ _))
            (fun _ => lossproof_takenBack _ _) (fun _ _ hd => ⟨hd.1, nofun⟩) fun observation => ?_
          split_ifs
          · exact leads_pure (lossproof_takenBack _ _) fun _ hd => ⟨hd.1, nofun⟩
          · exact leads_pure (lossproof_takenBack _ _) fun _ hd => hd

theorem leads_giveUp (uuid : String) (error : NativeError) :
    Leads fails i (At allowed InForce) (giveUp uuid error) fun _ => At allowed InForce := by
  have hforce := lossproof_at lossproof_inForce allowed
  refine leads_bind (fun _ => At allowed InForce) ?_ fun _ => leads_pure hforce fun _ hd => hd
  refine leads_bind _ (leads_disconnectOwnedInner happlies allowed uuid) fun r => ?_
  exact leads_pure hforce fun _ hd => hd.1

theorem leads_awaitLocalAgent (attempt : ℕ) (uuid : String) (observation : TunnelObservation)
    (queue : Queue) :
    Leads fails i (At allowed InForce) (awaitLocalAgent attempt uuid observation queue)
      fun _ => At allowed InForce := by
  have hforce := lossproof_at lossproof_inForce allowed
  refine leads_bind _ (leads_spares (only_ask rfl) hforce) fun _ => ?_
  refine leads_bind _ (leads_spares (only_spares_unlessCancelled attempt rfl) hforce) fun ready => ?_
  rcases ready with error | (_ | (error | snapshot))
  · exact leads_giveUp happlies allowed uuid error
  · exact leads_giveUp happlies allowed uuid _
  · exact leads_giveUp happlies allowed uuid error
  · refine leads_bind _ (leads_spares (only_ask rfl) hforce) fun _ => ?_
    refine leads_bind _ (leads_spares (only_ask rfl) hforce) fun _ => ?_
    refine leads_bind _ (leads_spares (only_ask rfl) hforce) fun _ => ?_
    exact leads_pure hforce fun _ hd => hd

theorem leads_secureSession (attempt : ℕ) (plan : Plan) (uuid : String)
    (observation : TunnelObservation) :
    Leads fails i (At allowed InForce) (secureSession attempt plan uuid observation)
      fun _ => At allowed InForce := by
  have hforce := lossproof_at lossproof_inForce allowed
  refine leads_bind _ (leads_spares (only_spares_reconcile plan.settings true) hforce)
    fun bypassed => ?_
  rcases bypassed with error | _
  · exact leads_giveUp happlies allowed uuid error
  · refine leads_bind _ (leads_spares (only_spares_unlessCancelled attempt rfl) hforce)
      fun started => ?_
    split
    · exact leads_awaitLocalAgent happlies allowed attempt uuid observation _
    · split_ifs
      · refine leads_bind _ (leads_spares (only_ask rfl) hforce) fun passed => ?_
        split_ifs
        · exact leads_giveUp happlies allowed uuid _
        · exact leads_pure hforce fun _ hd => hd
      · exact leads_giveUp happlies allowed uuid _

theorem leads_waitForTunnel (plan : Plan) (uuid : String) (conflicts : List String) :
    Leads fails i (At allowed InForce) (pollTunnel.waitForTunnel plan uuid conflicts)
      fun _ => At allowed InForce := by
  have hforce := lossproof_at lossproof_inForce allowed
  refine leads_bind _ (leads_spares (only_ask rfl) hforce) fun passed => ?_
  split_ifs
  · exact leads_giveUp happlies allowed uuid _
  · refine leads_bind _ (leads_spares (only_ask rfl) hforce) fun _ => ?_
    exact leads_pure hforce fun _ hd => hd

/-- One round of the polling loop. -/
theorem leads_pollTunnel (attempt : ℕ) (plan : Plan) (uuid : String) (conflicts : List String) :
    Leads fails i (At allowed InForce) (pollTunnel attempt plan uuid conflicts)
      fun _ => At allowed InForce := by
  have hforce := lossproof_at lossproof_inForce allowed
  refine leads_bind _ (leads_spares (only_spares_check attempt) hforce) fun checked => ?_
  rcases checked with error | _
  · exact leads_giveUp happlies allowed uuid error
  · refine leads_bind _ (leads_spares (only_ask rfl) hforce) fun observed => ?_
    rcases observed with error | observation
    · exact leads_pure hforce fun _ hd => hd
    · dsimp only
      split
      · exact leads_secureSession happlies allowed attempt plan uuid observation
      · refine leads_bind _ (leads_spares (only_ask rfl) hforce) fun _ => ?_
        exact leads_giveUp happlies allowed uuid _
      · refine leads_bind _ (leads_spares (only_ask rfl) hforce) fun passed => ?_
        split_ifs
        · exact leads_giveUp happlies allowed uuid _
        · exact leads_waitForTunnel happlies allowed plan uuid conflicts
      · exact leads_waitForTunnel happlies allowed plan uuid conflicts

omit happlies in
/-- A tunnel that is up has its override. -/
theorem leads_activate (plan : Plan) (uuid : String) :
    Leads fails i (At allowed Agrees) (activate plan uuid) fun r d =>
      At allowed Agrees d ∧ (r = .ok () → At allowed InForce d) := by
  have hagrees := lossproof_at lossproof_agrees allowed
  have hpost : ∀ r : NativeResult Unit, Lossproof fun d =>
      At allowed Agrees d ∧ (r = .ok () → At allowed InForce d) := by
    intro r d uuid hd hnone
    exact ⟨hagrees d uuid hd.1 hnone, fun hr => lossproof_at lossproof_inForce allowed d uuid
      (hd.2 hr) hnone⟩
  refine leads_orReturn _ (leads_spares (only_ask rfl) hagrees) (fun _ => hpost _)
    (fun _ _ hd => ⟨hd, nofun⟩) fun _ => ?_
  refine leads_bind (fun r d => At allowed Agrees d ∧ (r = .ok () → At allowed InForce d)) ?_
    fun connected => ?_
  · refine leads_query _ hagrees hpost ?_
    rintro s r s' hs (⟨rfl, rfl⟩ | ⟨-, ⟨error, rfl⟩, rfl⟩) -
    · exact ⟨hs, fun _ => ⟨hs.1, hs.2, fun _ => Finset.insert_ne_empty _ _⟩⟩
    · exact ⟨hs, nofun⟩
  · rcases connected with error | _
    · refine leads_bind _ (leads_spares (only_ask rfl) (hpost _)) fun _ => ?_
      exact leads_pure (hpost _) fun _ hd => ⟨hd.1, nofun⟩
    · exact leads_pure (hpost _) fun _ hd => hd

theorem leads_establish {plan : Plan} (attempt : ℕ) (uuid : String) (conflicts : List String) :
    Leads fails i (At plan.globalSettings.allowed Plain) (establish attempt plan uuid conflicts)
      fun _ => At plan.globalSettings.allowed InForce := by
  have hforce := lossproof_at lossproof_inForce plan.globalSettings.allowed
  have hagrees := lossproof_at lossproof_agrees plan.globalSettings.allowed
  have hrestore : ∀ error : NativeError, Leads fails i (At plan.globalSettings.allowed Agrees)
      (orReturn restoreGlobalDestinationPolicy fun _ => pure (.error error : NativeResult Unit))
      fun _ => At plan.globalSettings.allowed InForce := by
    intro error
    refine leads_orReturn _ (leads_restoreGlobalDestinationPolicy happlies _) (fun _ => hforce)
      (fun _ _ hd => ⟨hd.2.1, hd.2.2.inForce⟩) fun _ => ?_
    exact leads_pure hforce fun _ hd => ⟨hd.2.1, hd.2.2.inForce⟩
  refine leads_orReturn _ (leads_applyConnectionDestinationPolicy happlies plan.settings)
    (fun _ => hforce) (fun _ _ hd => absurd hd.1 nofun) fun _ => leads_fact fun _ => ?_
  refine leads_bind _ (leads_spares (only_spares_check attempt) hagrees) fun checked => ?_
  rcases checked with error | _
  · exact hrestore error
  · refine leads_bind _ (leads_activate _ plan uuid) fun activated => ?_
    rcases activated with error | _
    · exact (hrestore _).consequence (fun _ hd => hd.1) fun _ _ hd => hd
    · refine Leads.consequence (p := At plan.globalSettings.allowed InForce) ?_ (fun _ hd => hd.2 rfl)
        fun _ _ hd => hd
      refine leads_bind _ (leads_spares (only_ask rfl) hforce) fun _ => ?_
      refine leads_bind _ (leads_spares (only_ask rfl) hforce) fun _ => ?_
      exact leads_loop hforce (fun _ => leads_pollTunnel happlies _ attempt plan uuid conflicts)

theorem leads_connectExclusively (attempt : ℕ) :
    Leads fails i (At allowed InForce) (connectExclusively attempt) fun _ => At allowed InForce := by
  have hforce := lossproof_at lossproof_inForce allowed
  refine leads_orReturn _ (leads_spares (only_ask rfl) hforce) (fun _ => hforce) (fun _ _ hd => hd)
    fun _ => ?_
  refine leads_orReturn (fun r d => (∀ plan : Plan, r = .ok plan →
    plan.globalSettings.allowed = allowed) ∧ At allowed InForce d) ?_ (fun _ => hforce)
    (fun _ _ hd => hd.2) fun plan => leads_fact fun hplan => ?_
  · refine leads_query _ hforce (fun _ d uuid hd hnone => ⟨hd.1, hforce d uuid hd.2 hnone⟩) ?_
    rintro s r s' hs rfl hplanned
    refine ⟨?_, hs⟩
    rintro plan rfl
    rw [show plan.globalSettings = s'.settings from hplanned]
    exact hs.1
  · obtain rfl : plan.globalSettings.allowed = allowed := hplan plan rfl
    refine leads_orReturn _ (leads_replaceTunnel happlies _ attempt) (fun _ => hforce)
      (fun _ _ hd => hd.1) fun _ => ?_
    refine Leads.consequence (p := At plan.globalSettings.allowed Plain) ?_
      (fun _ hd => ⟨hd.1.1, hd.1.2.plain (hd.2 rfl)⟩) fun _ _ hd => hd
    have hplain := lossproof_at lossproof_plain plan.globalSettings.allowed
    have herror : ∀ d, At plan.globalSettings.allowed Plain d →
        At plan.globalSettings.allowed InForce d := fun _ hd => ⟨hd.1, hd.2.inForce⟩
    refine leads_orReturn _ (leads_spares (only_ask rfl) hplain) (fun _ => hforce)
      (fun _ d hd => herror d hd) fun uuid => ?_
    refine leads_orReturn _ (leads_spares (only_ask rfl) hplain) (fun _ => hforce)
      (fun _ d hd => herror d hd) fun conflicts => ?_
    exact leads_establish happlies attempt uuid conflicts

omit happlies in
theorem leads_guardedUnlessCancelled {attempt : ℕ} {mutex : Mutex} {task : Task (NativeResult Unit)}
    (h : Leads fails i (At allowed InForce) task fun _ => At allowed InForce) :
    Leads fails i (At allowed InForce) (guardedUnlessCancelled attempt mutex task)
      fun _ => At allowed InForce := by
  have hforce := lossproof_at lossproof_inForce allowed
  refine leads_orReturn _ (leads_spares (only_spares_unlessCancelled attempt rfl) hforce)
    (fun _ => hforce) (fun _ _ hd => hd) fun _ => ?_
  refine leads_bind _ h fun r => ?_
  refine leads_bind _ (leads_spares (only_ask rfl) hforce) fun _ => ?_
  exact leads_pure hforce fun _ hd => hd

omit happlies in
theorem leads_guarded {mutex : Mutex} {task : Task (NativeResult Unit)} {r : Destinations → Prop}
    (hp : Lossproof p) (hr : Lossproof r) (h : Leads fails i p task fun _ => r) :
    Leads fails i p (guarded mutex task) fun _ => r := by
  refine leads_bind _ (leads_spares (only_ask rfl) hp) fun _ => ?_
  refine leads_bind _ h fun _ => ?_
  refine leads_bind _ (leads_spares (only_ask rfl) hr) fun _ => ?_
  exact leads_pure hr fun _ hd => hd

theorem leads_connectionConnect :
    Leads fails i (At allowed InForce) connectionConnect fun _ => At allowed InForce := by
  have hforce := lossproof_at lossproof_inForce allowed
  refine leads_bind _ (leads_spares (only_ask rfl) hforce) fun attempt => ?_
  have hpreparation : Only (fun query => query.sparesPolicy = true) (preparation attempt) := by
    refine only_orReturn (only_spares_unlessCancelled attempt rfl) fun prepared => ?_
    exact only_orReturn trivial fun _ => only_ask rfl
  refine leads_orReturn _ (leads_spares hpreparation hforce) (fun _ => hforce) (fun _ _ hd => hd)
    fun _ => ?_
  exact leads_guardedUnlessCancelled allowed (leads_guardedUnlessCancelled allowed
    (leads_connectExclusively happlies allowed attempt))

theorem leads_connectionCancel :
    Leads fails i (At allowed InForce) connectionCancel fun _ => At allowed InForce := by
  have hforce := lossproof_at lossproof_inForce allowed
  refine leads_bind _ (leads_spares (only_ask rfl) hforce) fun generation => ?_
  refine leads_guarded hforce hforce ?_
  refine leads_bind _ (leads_spares (only_ask rfl) hforce) fun current => ?_
  split_ifs
  · exact leads_pure hforce fun _ hd => hd
  · exact leads_disconnectInner happlies allowed

theorem leads_connectionDisconnect :
    Leads fails i (At allowed InForce) connectionDisconnect fun _ => At allowed InForce := by
  have hforce := lossproof_at lossproof_inForce allowed
  refine leads_bind _ (leads_spares (only_ask rfl) hforce) fun generation => ?_
  refine leads_guarded hforce hforce ?_
  refine leads_bind _ (leads_spares (only_ask rfl) hforce) fun ownedUuid => ?_
  rcases ownedUuid with _ | uuid
  · exact leads_pure hforce fun _ hd => hd
  · exact (leads_disconnectOwnedInner happlies allowed uuid).consequence (fun _ hd => hd)
      fun _ _ hd => hd.1

/-! ### Settings and ticks -/

theorem leads_allowFeatureSet (change : NativeSettings → NativeSettings) :
    Leads fails i InForce (allowFeatureSet change) fun _ => InForce := by
  refine leads_orReturn _ (leads_spares (only_ask rfl) lossproof_inForce) (fun _ => lossproof_inForce)
    (fun _ _ hd => hd) fun _ => ?_
  refine leads_guarded lossproof_inForce lossproof_inForce ?_
  refine leads_bind (fun previous => At previous.allowed InForce) ?_ fun previous => ?_
  · refine leads_query _ lossproof_inForce (fun _ => lossproof_at lossproof_inForce _) ?_
    rintro s a s' hs ⟨rfl, rfl⟩ -
    exact ⟨rfl, hs⟩
  have hforce := lossproof_at lossproof_inForce previous.allowed
  refine leads_orReturn _ (leads_spares (only_ask rfl) hforce) (fun _ => lossproof_inForce)
    (fun _ _ hd => hd.2) fun _ => ?_
  refine leads_orReturn _ (leads_spares (only_ask rfl) hforce) (fun _ => lossproof_inForce)
    (fun _ _ hd => hd.2) fun _ => ?_
  refine leads_bind (fun override d => d.override = override ∧ At previous.allowed InForce d) ?_
    fun override => ?_
  · refine leads_query _ hforce (fun _ d uuid hd hnone => ⟨hd.1, hforce d uuid hd.2 hnone⟩) ?_
    rintro s a s' hs ⟨rfl, rfl⟩ -
    exact ⟨rfl, hs⟩
  rcases override with _ | override
  · -- There is no override: the new policy is applied, and taken back if it is not persisted.
    refine leads_orReturn _ (leads_applyDestinationPolicy happlies (change previous)
      (q := fun d => d.override = none ∧ d.allowed = previous.allowed ∧
        d.policy = (change previous).allowed)
      (fun d uuid hd hnone => ⟨hd.1, hforce d uuid hd.2 hnone⟩) (fun _ _ hd _ => hd)
      fun d hd => ⟨hd.1, hd.2.1, rfl⟩) (fun _ => lossproof_inForce)
      (fun _ _ hd => absurd hd.1 nofun) fun _ => leads_fact fun _ => ?_
    refine leads_bind (fun r d => (r = .ok () → Plain d) ∧
      ∀ error, r = .error error → d.override = none ∧ d.allowed = previous.allowed) ?_
      fun persisted => ?_
    · refine leads_query _ (fun _ _ hd _ => hd) (fun _ _ _ hd _ => hd) ?_
      rintro s r s' ⟨hnone, hallowed, hpolicy⟩ (⟨rfl, rfl⟩ | ⟨-, ⟨error, rfl⟩, rfl⟩) -
      · exact ⟨fun _ => ⟨hnone, hpolicy⟩, nofun⟩
      · exact ⟨nofun, fun _ _ => ⟨hnone, hallowed⟩⟩
    rcases persisted with error | _
    · refine leads_bind _ ((leads_applyDestinationPolicy happlies previous
        (p := fun d => d.override = none ∧ d.allowed = previous.allowed) (q := Plain)
        (fun _ _ hd _ => hd) lossproof_plain fun d hd => ⟨hd.1, hd.2.symm⟩).consequence
        (fun d hd => hd.2 error rfl) fun _ _ hd => hd) fun _ => ?_
      exact leads_pure lossproof_inForce fun _ hd => hd.2.inForce
    · exact leads_pure lossproof_inForce fun _ hd => (hd.1 rfl).inForce
  · -- The override stays in force, whatever the settings are.
    have hkept : Lossproof fun d => d.override = some override ∧ InForce d :=
      fun d uuid hd hnone => ⟨hd.1, lossproof_inForce d uuid hd.2 hnone⟩
    have hread : Lossproof fun d => d.override = some override ∧ At previous.allowed InForce d :=
      fun d uuid hd hnone => ⟨hd.1, hforce d uuid hd.2 hnone⟩
    refine leads_orReturn (fun r d => r = .ok () ∧ d.override = some override ∧
      At previous.allowed InForce d) (leads_pure (fun d uuid hd hnone => ⟨hd.1, hread d uuid hd.2 hnone⟩)
        fun _ hd => ⟨rfl, hd⟩) (fun _ => lossproof_inForce) (fun _ _ hd => absurd hd.1 nofun)
      fun _ => leads_fact fun _ => ?_
    refine leads_bind (fun _ d => d.override = some override ∧ InForce d) ?_ fun persisted => ?_
    · refine leads_query _ hread (fun _ => hkept) ?_
      rintro s r s' ⟨hoverride, -, hs⟩ (⟨rfl, rfl⟩ | ⟨-, -, rfl⟩) -
      · refine ⟨hoverride, ?_, hs.tunnel⟩
        have hpolicy : s.policy = override := by
          have h := hs.policy
          rwa [hoverride, Option.getD_some] at h
        change s.policy = s.override.getD _
        rw [hpolicy, show s.override = some override from hoverride, Option.getD_some]
      · exact ⟨hoverride, hs⟩
    rcases persisted with error | _
    · refine leads_bind (fun _ d => d.override = some override ∧ InForce d)
        (leads_pure hkept fun _ hd => hd) fun _ => ?_
      exact leads_pure lossproof_inForce fun _ hd => hd.2
    · exact leads_pure lossproof_inForce fun _ hd => hd.2

omit [DecidableEq ι] happlies in
theorem allowed_overridden (settings : NativeSettings) (override : Option (Bool × Bool)) :
    (settings.overridden override).allowed = override.getD settings.allowed := by
  rcases override with _ | override
  · rfl
  · rfl

theorem leads_policyTick : Leads fails i InForce policyTick fun _ => InForce := by
  refine leads_bind _ (leads_spares (only_ask rfl) lossproof_inForce) fun available => ?_
  split_ifs
  · refine leads_bind (fun settings => At settings.allowed InForce) ?_ fun settings => ?_
    · refine leads_query _ lossproof_inForce (fun _ => lossproof_at lossproof_inForce _) ?_
      rintro s a s' hs ⟨rfl, rfl⟩ -
      exact ⟨rfl, hs⟩
    refine leads_bind (fun override d => d.override = override ∧ At settings.allowed InForce d) ?_
      fun override => ?_
    · refine leads_query _ (lossproof_at lossproof_inForce _)
        (fun _ d uuid hd hnone => ⟨hd.1, lossproof_at lossproof_inForce _ d uuid hd.2 hnone⟩) ?_
      rintro s a s' hs ⟨rfl, rfl⟩ -
      exact ⟨rfl, hs⟩
    dsimp only
    split_ifs
    · refine leads_bind _ (leads_applyDestinationPolicy happlies _
        (p := fun d => d.override = override ∧ At settings.allowed InForce d) (q := InForce)
        (fun d uuid hd hnone => ⟨hd.1, lossproof_at lossproof_inForce _ d uuid hd.2 hnone⟩)
        lossproof_inForce ?_) fun _ => leads_pure lossproof_inForce fun _ hd => hd.2
      rintro d ⟨rfl, hallowed, hd⟩
      refine ⟨?_, hd.tunnel⟩
      dsimp only
      rw [allowed_overridden, hallowed]
    · exact leads_pure lossproof_inForce fun _ hd => hd.2.2
  · exact leads_pure lossproof_inForce fun _ hd => hd

/-! ## Orderly runs -/

omit happlies in
/-- What holds whatever the settings allow. -/
theorem leads_any {task : Task α} {r : Destinations → Prop}
    (h : ∀ allowed, Leads fails i (At allowed p) task fun _ => At allowed r) :
    Leads fails i p task fun _ => r := by
  intro s hs
  exact (h s.settings.allowed).consequence (fun _ hd => hd) (fun _ _ hd => hd.2) s ⟨rfl, hs⟩

theorem leads_operation {task : Task (NativeResult Unit)} (h : Operation task) :
    Leads fails i InForce task fun _ => InForce := by
  cases h with
  | connect => exact leads_any fun allowed => leads_connectionConnect happlies allowed
  | cancel => exact leads_any fun allowed => leads_connectionCancel happlies allowed
  | disconnect => exact leads_any fun allowed => leads_connectionDisconnect happlies allowed
  | allow change => exact leads_allowFeatureSet happlies change
  | tick => exact leads_policyTick happlies

/-- Whatever the order of the operations, the policy is the intended one whenever none is under way, if
no tunnel is lost while there is an override. -/
theorem policy_intended {tasks : ι → Task (NativeResult Unit)} (htasks : ∀ i, Operation (tasks i))
    {shared : Shared ι} (hstart : Plain shared.destinations)
    {pool : Pool ι Query Query.Answer (Shared ι) (NativeResult Unit)}
    (h : Pool.OrderlyReach (policyMachine fails Guarded) (.start tasks shared) pool)
    (hrest : ∀ i, pool.AtRest i) : pool.shared.policy = pool.shared.destinations.intended := by
  have hmeets : ∀ i, Leads fails i InForce (tasks i) fun _ => InForce :=
    fun i => leads_operation happlies (htasks i)
  have hinforce : InForce pool.shared.destinations :=
    orderly_invariant hmeets (stable_of_lossproof lossproof_inForce) (fun _ _ hloss => hloss)
      hstart.inForce h hrest
  exact hinforce.intended

end leads

/-! ## Two connections -/

/-- A connection with a profile that allows the LAN, and one without a profile. -/
def policyPlan : Bool → Plan
  | false => ⟨⟨"node.protonvpn.net", "192.0.2.1"⟩, {}, { allowLanConnections := true }, "wireguard"⟩
  | true => ⟨⟨"node.protonvpn.net", "192.0.2.1"⟩, {}, {}, "wireguard"⟩

def policySetup : Setup Bool where
  uuid
    | false => "a"
    | true => "b"

/-- The answers of a replay, with the plan of the task. -/
def policyReply (i : Bool) : (query : Query) → Shared Bool → Option (query.Answer × Shared Bool)
  | .plan, s => some (.ok { policyPlan i with globalSettings := s.settings }, s)
  | query, s => reply policySetup i query s

theorem act_of_policyReply (mayLose : Shared Bool → Prop) (i : Bool) (query : Query)
    (s : Shared Bool) (answer : query.Answer) (s' : Shared Bool)
    (h : policyReply i query s = some (answer, s')) :
    (policyMachine (fun _ => False) mayLose).act i query s answer s' := by
  have hreply : query ≠ .plan → reply policySetup i query s = some (answer, s') →
      act (fun _ => False) i query s answer s' := by
    intro _ h
    have hact : (machine (fun query => policySetup.failing query = true) False).act i query s
        answer s' := act_of_reply i query s answer s' h
    simpa [policySetup, machine] using hact
  cases query with
  | plan =>
      cases h
      exact ⟨rfl, rfl⟩
  | _ => exact ⟨hreply (by rintro ⟨⟩) h, trivial⟩

def connections : Bool → Task (NativeResult Unit) := fun _ => connectionConnect

/-- The connection with the profile is made. -/
def lanAllowed : Pool Bool Query Query.Answer (Shared Bool) (NativeResult Unit) :=
  Pool.play policyReply (List.replicate 46 false) (.start connections {})

/-- The tunnel of a connection is lost. -/
def lose (pool : Pool Bool Query Query.Answer (Shared Bool) (NativeResult Unit))
    (uuid : String) : Pool Bool Query Query.Answer (Shared Bool) (NativeResult Unit) :=
  { pool with shared := { pool.shared with tunnels := pool.shared.tunnels.erase uuid } }

/-- The tunnel is lost, and the other connection is made. -/
def lanForgotten : Pool Bool Query Query.Answer (Shared Bool) (NativeResult Unit) :=
  Pool.play policyReply (List.replicate 46 true) (lose lanAllowed "a")

theorem reach_lanAllowed (mayLose : Shared Bool → Prop) :
    Pool.OrderlyReach (policyMachine (fun _ => False) mayLose) (.start connections {}) lanAllowed :=
  Pool.orderly_play (act_of_policyReply mayLose) (fun _ _ => .inl rfl) 46

theorem atRest_of_isSome {pool : Pool Bool Query Query.Answer (Shared Bool) (NativeResult Unit)}
    {i : Bool} (h : (pool.tasks i).result?.isSome = true) : pool.AtRest i := by
  obtain ⟨r, hr⟩ := Option.isSome_iff_exists.mp h
  exact .inr ⟨r, Dialogue.eq_pure_of_result? hr⟩

theorem atRest_lanAllowed : ∀ i, lanAllowed.AtRest i
  | false => atRest_of_isSome (by decide +kernel)
  | true => by
    have hpast : (lanAllowed.past true).isEmpty = true := by decide +kernel
    exact .inl (List.isEmpty_iff.mp hpast)

/-- The tunnel is lost while no task runs, and then the other connection is made. -/
theorem orderly_play_lose {pool : Pool Bool Query Query.Answer (Shared Bool) (NativeResult Unit)}
    (hrest : ∀ i, pool.AtRest i) (n : ℕ) :
    Pool.OrderlyReach (policyMachine (fun _ => False) fun _ => True) pool
      (Pool.play policyReply (List.replicate n true) (lose pool "a")) := by
  have hlost : Pool.OrderlyReach (policyMachine (fun _ => False) fun _ => True) pool (lose pool "a") :=
    .single ⟨.surroundings _ ⟨trivial, "a", rfl⟩, fun _ _ _ h => absurd rfl h⟩
  have hothers : ∀ j ≠ true, (lose pool "a").AtRest j := fun j _ => hrest j
  exact hlost.trans (Pool.orderly_play (act_of_policyReply _) hothers n)

theorem reach_lanForgotten :
    Pool.OrderlyReach (policyMachine (fun _ => False) fun _ => True) (.start connections {})
      lanForgotten :=
  (reach_lanAllowed fun _ => True).trans (orderly_play_lose atRest_lanAllowed 46)

/-- The policy of the profile is in force with its tunnel. -/
theorem policy_intended_lanAllowed :
    lanAllowed.shared.policy = lanAllowed.shared.destinations.intended :=
  policy_intended ⟨id, fun _ _ => id⟩ (fun _ => .connect) ⟨rfl, rfl⟩ (reach_lanAllowed Guarded)
    atRest_lanAllowed

/-- Although every call succeeds, the LAN stays allowed in a connection without a profile, after the
tunnel of a profile that allows it was lost. -/
theorem not_policy_intended :
    ¬ ∀ (fails : Query → Prop) (tasks : Bool → Task (NativeResult Unit)) (shared : Shared Bool)
      (pool : Pool Bool Query Query.Answer (Shared Bool) (NativeResult Unit)),
      (∀ query, ¬ fails query) → (∀ i, Operation (tasks i)) → Plain shared.destinations →
        Pool.OrderlyReach (policyMachine fails fun _ => True) (.start tasks shared) pool →
          (∀ i, pool.AtRest i) → pool.shared.policy = pool.shared.destinations.intended := by
  intro h
  have hwrong : lanForgotten.shared.policy ≠ lanForgotten.shared.destinations.intended := by
    decide +kernel
  have hpast : (lanForgotten.tasks false).result?.isSome = true ∧
      (lanForgotten.tasks true).result?.isSome = true := by decide +kernel
  have hreach := reach_lanForgotten
  generalize lanForgotten = pool at hwrong hpast hreach
  refine hwrong (h (fun _ => False) connections {} pool (fun _ => id) (fun _ => .connect) ⟨rfl, rfl⟩
    hreach ?_)
  rintro (_ | _)
  · exact atRest_of_isSome hpast.1
  · exact atRest_of_isSome hpast.2

end ProtonVpnOmarchy.Agent.Runtime
