import ProtonVpnOmarchy.Agent.Settings.Exclusions

/-!
# The features that a connection asks for

A connection with a profile asks the Local Agent for the features of the profile. The requests that
follow (of a live change, of its rollback, of a reconnect, of an agent that was started again) are
built from the stored settings, which do not have the profile's values.

* `update_value` — a request changes no other feature than the one it names.
* `Life.asked_due_iff` — the requests of a connection ask for what is due exactly if each feature
  that the profile sets apart was changed by the user before the first request that follows.
-/

namespace ProtonVpnOmarchy.Agent.Settings

open Lib Splitd Store Backend

/-! ## Requests to the Local Agent -/

/-- Source: `local_agent.rs` `AgentFeatures` -/
structure AgentFeatures where
  netshieldLevel : UInt8
  randomizedNat : Bool
  splitTcp : Bool
  portForwarding : Bool
  bouncing : Option String
  deriving DecidableEq

/-- Source: `local_agent.rs` `requested_features` -/
def requestedFeatures (netshield : UInt8) (moderateNat vpnAccelerator portForwarding : Bool)
    (bouncing : String) : AgentFeatures where
  netshieldLevel := netshield
  randomizedNat := !moderateNat
  splitTcp := vpnAccelerator
  portForwarding := portForwarding
  bouncing := if bouncing = "" then none else some bouncing

/-- Source: `mod.rs` `connection_agent_features` -/
def connectionAgentFeatures (settings : StoredSettings) (label : Option String) : AgentFeatures :=
  requestedFeatures settings.netshield settings.moderateNat settings.vpnAccelerator
    settings.portForwarding (label.getD "")

/-- Source: `mod.rs` `feature_set`, `is_local_agent_feature` -/
def isLocalAgentFeature (feature : String) : Bool :=
  feature ∈ ["netshield", "vpn_accelerator", "port_forwarding", "moderate_nat"]

/-- A feature that a profile has a value of. -/
inductive ProfileFeature where
  | netshield
  | moderateNat
  | portForwarding
  deriving DecidableEq

namespace ProfileFeature

/-- The name of the feature in a request. -/
def name : ProfileFeature → String
  | netshield => "netshield"
  | moderateNat => "moderate_nat"
  | portForwarding => "port_forwarding"

def value : ProfileFeature → StoredSettings → ℕ
  | netshield, settings => settings.netshield.toNat
  | moderateNat, settings => settings.moderateNat.toNat
  | portForwarding, settings => settings.portForwarding.toNat

end ProfileFeature

/-- The value of a feature that is asked for. -/
def AgentFeatures.value (asked : AgentFeatures) : ProfileFeature → ℕ
  | .netshield => asked.netshieldLevel.toNat
  | .moderateNat => (!asked.randomizedNat).toNat
  | .portForwarding => asked.portForwarding.toNat

@[simp] theorem value_connectionAgentFeatures (settings : StoredSettings) (label : Option String)
    (feature : ProfileFeature) :
    (connectionAgentFeatures settings label).value feature = feature.value settings := by
  cases feature
  · rfl
  · simp [AgentFeatures.value, connectionAgentFeatures, requestedFeatures, ProfileFeature.value]
  · rfl

/-! ## The life of a connection -/

/-- The name of the feature that a request is about. -/
def SettingsRequest.feature : SettingsRequest → String
  | .featureSet _ params => featureOf params
  | _ => ""

/-- The features of a profile that a request changes. -/
def SettingsRequest.changes (request : SettingsRequest) : List ProfileFeature :=
  [.netshield, .moderateNat, .portForwarding].filter (·.name = request.feature)

/-- A request that holds `settings_write`, and whether it has asked the Local Agent. -/
structure Change where
  request : SettingsRequest
  updated : StoredSettings
  live : Bool := false

/-- A connection: the label of its server, the settings it was made with, and those that are stored.
`changed` is not kept by the agent: the features that the user has changed since the connection was
asked for. -/
structure Life where
  label : Option String
  effective : StoredSettings
  stored : StoredSettings
  inFlight : Option Change := none
  changed : List ProfileFeature := []

/-- What happens while a connection lives. An agent that stops gives up the request in flight. -/
inductive Action where
  /-- `connection_connect` starts the Local Agent. -/
  | connect (tier : UInt8)
  /-- `watch_local_agent` starts it again. -/
  | reconnect (tier : UInt8)
  /-- `restore_owned_local_agent` starts it. -/
  | restore (tier : UInt8)
  /-- A request takes `settings_write` and passes its checks. -/
  | begin (request : SettingsRequest)
  /-- `feature_set` asks the Local Agent for the new features. -/
  | askLive
  /-- The request in flight stores its settings. -/
  | store
  /-- `feature_set` asks for the previous features because they were not stored. -/
  | askBack
  /-- The request in flight fails. -/
  | giveUp

namespace Life

/-- The connection that is asked for; `inFlight` is the request that holds `settings_write` then.
Source: `mod.rs` `connection_connect` -/
def ofParams (installed : Descriptors) (params : Value) (global : StoredSettings) (tier : UInt8)
    (label : Option String) (inFlight : Option Change) : NativeResult Life := do
  let (settings, _, _) ← effectiveConnectionSettings installed params global.toNativeSettings tier
  return {
    label
    effective := { global with toNativeSettings := settings }
    stored := global
    inFlight }

/-- The features that an action asks the Local Agent for. -/
def asked (life : Life) : Action → Option AgentFeatures
  | .connect tier =>
    if 0 < tier then some (connectionAgentFeatures life.effective life.label) else none
  | .reconnect tier | .restore tier =>
    if 0 < tier then some (connectionAgentFeatures life.stored life.label) else none
  | .askLive => life.inFlight.bind fun change =>
    if isLocalAgentFeature change.request.feature then
      some (connectionAgentFeatures change.updated life.label)
    else none
  | .askBack => life.inFlight.bind fun change =>
    if change.live then some (connectionAgentFeatures life.stored life.label) else none
  | _ => none

def next (life : Life) : Action → Life
  | .begin request =>
    match life.inFlight, request.update life.stored with
    | none, .ok updated => { life with inFlight := some { request, updated } }
    | _, _ => life
  | .askLive => { life with
      inFlight := life.inFlight.map fun change =>
        { change with live := change.live || isLocalAgentFeature change.request.feature } }
  | .store =>
    match life.inFlight with
    | some change => { life with
        stored := change.updated
        inFlight := none
        changed := life.changed ++ change.request.changes }
    | none => life
  | .askBack | .giveUp => { life with inFlight := none }
  | _ => life

def after (life : Life) (actions : List Action) : Life := actions.foldl next life

/-! ## What is due -/

/-- The features that the user has changed, with the change that an action asks for. -/
def chosen (life : Life) : Action → List ProfileFeature
  | .askLive => life.changed ++ life.inFlight.toList.flatMap (·.request.changes)
  | _ => life.changed

/-- The settings of the user, with the change that an action asks for. -/
def current (life : Life) : Action → StoredSettings
  | .askLive => (life.inFlight.map (·.updated)).getD life.stored
  | _ => life.stored

/-- The value of a feature that a request is to ask for: the user's if the user has changed the
feature since the connection was asked for, the one of the connection otherwise. -/
def due (life : Life) (action : Action) (feature : ProfileFeature) : ℕ :=
  if feature ∈ life.chosen action then feature.value (life.current action)
  else feature.value life.effective

/-- The condition under which a request asks for what is due: one of the connect call, that no
feature was given another value since the call; one that follows, that each feature that was not
changed had the value of the connection in the stored settings at the call, `global`. -/
def Agrees (life : Life) (global : StoredSettings) : Action → Prop
  | .connect _ => ∀ feature ∈ life.changed, feature.value life.effective = feature.value life.stored
  | action => ∀ feature, feature ∉ life.chosen action →
      feature.value global = feature.value life.effective

end Life

/-! ## What a request leaves as it is -/

theorem mem_changes_iff {request : SettingsRequest} {feature : ProfileFeature} :
    feature ∈ request.changes ↔ feature.name = request.feature := by
  unfold SettingsRequest.changes
  rw [List.mem_filter, decide_eq_true_iff]
  exact ⟨fun h => h.2, fun h => ⟨by cases feature <;> simp, h⟩⟩

theorem featureUpdate_value {name : String} {tier : UInt8} {params : Value}
    {settings updated : StoredSettings} (h : featureUpdate name tier params settings = .ok updated)
    {feature : ProfileFeature} (hname : feature.name ≠ name) :
    feature.value updated = feature.value settings := by
  unfold featureUpdate at h
  split at h
  case h_4 =>
    unfold setNetshield at h
    obtain ⟨_, -, h⟩ := Except.bind_eq_ok.mp h
    obtain ⟨level, -, h⟩ := Except.bind_eq_ok.mp h
    obtain ⟨_, -, h⟩ := Except.bind_eq_ok.mp h
    obtain rfl := Except.ok.inj h
    cases feature with
    | netshield => exact absurd rfl hname
    | moderateNat => rfl
    | portForwarding => rfl
  case h_5 =>
    obtain ⟨_, -, h⟩ := Except.bind_eq_ok.mp h
    obtain ⟨enabled, -, h⟩ := Except.bind_eq_ok.mp h
    obtain rfl := Except.ok.inj h
    cases feature <;> rfl
  case h_6 =>
    unfold setModerateNat at h
    obtain ⟨_, -, h⟩ := Except.bind_eq_ok.mp h
    obtain ⟨enabled, -, h⟩ := Except.bind_eq_ok.mp h
    obtain ⟨_, -, h⟩ := Except.bind_eq_ok.mp h
    obtain rfl := Except.ok.inj h
    cases feature with
    | netshield => rfl
    | moderateNat => exact absurd rfl hname
    | portForwarding => rfl
  case h_12 =>
    unfold setPortForwarding at h
    obtain ⟨_, -, h⟩ := Except.bind_eq_ok.mp h
    obtain ⟨enabled, -, h⟩ := Except.bind_eq_ok.mp h
    obtain ⟨_, -, h⟩ := Except.bind_eq_ok.mp h
    obtain rfl := Except.ok.inj h
    cases feature with
    | netshield => rfl
    | moderateNat => rfl
    | portForwarding => exact absurd rfl hname
  all_goals first
    | cases h
    | obtain ⟨_, -, rfl⟩ := Except.map_eq_ok.mp h
      cases feature <;> rfl

theorem update_value {request : SettingsRequest} {settings updated : StoredSettings}
    (h : request.update settings = .ok updated) {feature : ProfileFeature}
    (hfeature : feature ∉ request.changes) : feature.value updated = feature.value settings := by
  rw [mem_changes_iff] at hfeature
  cases request with
  | featureSet session params =>
      obtain ⟨tier, -, h⟩ := Except.bind_eq_ok.mp h
      exact featureUpdate_value h hfeature
  | dnsSet session params =>
      obtain ⟨customDns, -, rfl⟩ := Except.map_eq_ok.mp h
      cases feature <;> rfl
  | protocolSet session installed disconnected params =>
      obtain ⟨protocol, rfl⟩ := protocolUpdate_eq_ok h
      cases feature <;> rfl
  | splitTunnelingSet session available params =>
      obtain ⟨split, rfl⟩ := splitTunnelingUpdate_eq_ok h
      cases feature <;> rfl

/-! ## The requests of a connection -/

namespace Life

/-- What holds throughout the life of a connection. -/
structure Kept (life : Life) (global : StoredSettings) : Prop where
  stored : ∀ feature, feature ∉ life.changed → feature.value life.stored = feature.value global
  inFlight : ∀ change ∈ life.inFlight, change.request.update life.stored = .ok change.updated

theorem Kept.next {life : Life} {global : StoredSettings} (h : Kept life global)
    (action : Action) : Kept (life.next action) global := by
  cases action with
  | begin request =>
      dsimp only [Life.next]
      split
      case h_1 _ _ updated hnone hupdate =>
        refine ⟨h.stored, ?_⟩
        intro change hchange
        obtain rfl := Option.some.inj hchange
        exact hupdate
      case h_2 => exact h
  | askLive =>
      refine ⟨h.stored, ?_⟩
      intro change hchange
      obtain ⟨change, hmem, rfl⟩ := Option.map_eq_some_iff.mp hchange
      exact h.inFlight change hmem
  | store =>
      dsimp only [Life.next]
      split
      case h_1 change hchange =>
        refine ⟨?_, by simp⟩
        intro feature hfeature
        rw [List.mem_append, not_or] at hfeature
        exact (update_value (h.inFlight change hchange) hfeature.2).trans
          (h.stored feature hfeature.1)
      case h_2 => exact h
  | askBack => exact ⟨h.stored, by simp [Life.next]⟩
  | giveUp => exact ⟨h.stored, by simp [Life.next]⟩
  | connect tier => exact h
  | reconnect tier => exact h
  | restore tier => exact h

theorem Kept.after {life : Life} {global : StoredSettings} (h : Kept life global)
    (actions : List Action) : Kept (life.after actions) global := by
  induction actions generalizing life with
  | nil => exact h
  | cons action actions ih => exact ih (h.next action)

theorem due_of_mem {life : Life} {action : Action} {feature : ProfileFeature}
    (h : feature ∈ life.chosen action) :
    life.due action feature = feature.value (life.current action) := if_pos h

theorem due_of_not_mem {life : Life} {action : Action} {feature : ProfileFeature}
    (h : feature ∉ life.chosen action) :
    life.due action feature = feature.value life.effective := if_neg h

/-- A request that is built from the user's settings. -/
theorem current_due_iff (life : Life) (action : Action) {global : StoredSettings}
    (hcurrent : ∀ feature, feature ∉ life.chosen action →
      feature.value (life.current action) = feature.value global) :
    (∀ feature, feature.value (life.current action) = life.due action feature) ↔
      ∀ feature, feature ∉ life.chosen action →
        feature.value global = feature.value life.effective := by
  constructor
  · intro hdue feature hfeature
    rw [← hcurrent feature hfeature, hdue feature, due_of_not_mem hfeature]
  · intro hagrees feature
    by_cases hfeature : feature ∈ life.chosen action
    · rw [due_of_mem hfeature]
    · rw [due_of_not_mem hfeature, hcurrent feature hfeature, hagrees feature hfeature]

/-- A request of the connect call is built from the settings of the connection. -/
theorem effective_due_iff (life : Life) (tier : UInt8) :
    (∀ feature : ProfileFeature, feature.value life.effective = life.due (.connect tier) feature) ↔
      ∀ feature ∈ life.changed, feature.value life.effective = feature.value life.stored := by
  constructor
  · intro hdue feature hfeature
    exact (hdue feature).trans (due_of_mem hfeature)
  · intro hagrees feature
    by_cases hfeature : feature ∈ life.changed
    · have hdue : life.due (.connect tier) feature = feature.value life.stored :=
        due_of_mem hfeature
      rw [hdue, hagrees feature hfeature]
    · have hdue : life.due (.connect tier) feature = feature.value life.effective :=
        due_of_not_mem hfeature
      rw [hdue]

/-- One request. -/
theorem Kept.asked_iff {life : Life} {global : StoredSettings} (h : Kept life global)
    {action : Action} {features : AgentFeatures} (hasked : features ∈ life.asked action) :
    (∀ feature, features.value feature = life.due action feature) ↔ life.Agrees global action := by
  cases action with
  | connect tier =>
      obtain ⟨-, hsome⟩ := Option.ite_none_right_eq_some.mp hasked
      obtain rfl := Option.some.inj hsome
      simp only [value_connectionAgentFeatures]
      exact effective_due_iff life tier
  | reconnect tier =>
      obtain ⟨-, hsome⟩ := Option.ite_none_right_eq_some.mp hasked
      obtain rfl := Option.some.inj hsome
      simp only [value_connectionAgentFeatures]
      exact current_due_iff life (.reconnect tier) h.stored
  | restore tier =>
      obtain ⟨-, hsome⟩ := Option.ite_none_right_eq_some.mp hasked
      obtain rfl := Option.some.inj hsome
      simp only [value_connectionAgentFeatures]
      exact current_due_iff life (.restore tier) h.stored
  | askBack =>
      obtain ⟨change, -, hasked⟩ := Option.bind_eq_some_iff.mp hasked
      obtain ⟨-, hsome⟩ := Option.ite_none_right_eq_some.mp hasked
      obtain rfl := Option.some.inj hsome
      simp only [value_connectionAgentFeatures]
      exact current_due_iff life .askBack h.stored
  | askLive =>
      obtain ⟨change, hchange, hasked⟩ := Option.bind_eq_some_iff.mp hasked
      obtain ⟨-, hsome⟩ := Option.ite_none_right_eq_some.mp hasked
      obtain rfl := Option.some.inj hsome
      simp only [value_connectionAgentFeatures]
      have hcurrent : life.current .askLive = change.updated := by simp [current, hchange]
      have hchosen : life.chosen .askLive = life.changed ++ change.request.changes := by
        simp [chosen, hchange]
      rw [← hcurrent]
      refine current_due_iff life .askLive ?_
      intro feature hfeature
      rw [hchosen, List.mem_append, not_or] at hfeature
      rw [hcurrent, update_value (h.inFlight change hchange) hfeature.2]
      exact h.stored feature hfeature.1
  | begin request => cases hasked
  | store => cases hasked
  | giveUp => cases hasked

/-- Every request of a connection asks for what is due exactly if every request agrees. -/
theorem asked_due_iff {installed : Descriptors} {params : Value} {global : StoredSettings}
    {tier : UInt8} {label : Option String} {start : Life} {inFlight : Option Change}
    (hstart : ofParams installed params global tier label inFlight = .ok start)
    (hinFlight : ∀ change ∈ inFlight, change.request.update global = .ok change.updated)
    (actions : List Action) :
    (∀ earlier action, earlier ++ [action] <+: actions →
      ∀ features ∈ (start.after earlier).asked action,
        ∀ feature, features.value feature =
          (start.after earlier).due action feature) ↔
      ∀ earlier action, earlier ++ [action] <+: actions →
        ((start.after earlier).asked action).isSome →
          (start.after earlier).Agrees global action := by
  obtain ⟨settings, -, hstart⟩ := Except.bind_eq_ok.mp hstart
  obtain rfl := Except.ok.inj hstart
  have hkept := Kept.after (⟨fun _ _ => rfl, hinFlight⟩ : Kept
    ⟨label, { global with toNativeSettings := settings.1 }, global, inFlight, []⟩ global)
  constructor
  · intro hdue earlier action hprefix hsome
    obtain ⟨features, hasked⟩ := Option.isSome_iff_exists.mp hsome
    exact ((hkept earlier).asked_iff hasked).mp (hdue earlier action hprefix features hasked)
  · intro hagrees earlier action hprefix features hasked
    exact ((hkept earlier).asked_iff hasked).mpr
      (hagrees earlier action hprefix (Option.isSome_iff_exists.mpr ⟨features, hasked⟩))

/-- A connection with the settings that a profile has if it says nothing, NetShield at level 2. -/
theorem asked_due_iff_default_profile : ∃ start,
    ofParams ⟨true, true⟩ (.obj [("profile_settings", .obj [])]) {} 2 none none = .ok start ∧
      ((∀ earlier action, earlier ++ [action] <+: [.connect 2, .reconnect 2] →
        ∀ features ∈ (start.after earlier).asked action,
          ∀ feature, features.value feature = (start.after earlier).due action feature) ↔
        ∀ earlier action, earlier ++ [action] <+: [.connect 2, .reconnect 2] →
          ((start.after earlier).asked action).isSome →
            (start.after earlier).Agrees {} action) := by
  have hstart : ofParams ⟨true, true⟩ (.obj [("profile_settings", .obj [])]) {} 2 none none =
    .ok _ := rfl
  exact ⟨_, hstart, asked_due_iff hstart (by simp) _⟩

/-- A profile with NetShield at level 2 over settings without it, then a change of VPN
Accelerator. -/
theorem not_asked_due : ¬ ∀ installed params global tier label start,
    ofParams installed params global tier label none = .ok start →
      ∀ earlier action, ∀ features ∈ (start.after earlier).asked action,
        ∀ feature, features.value feature = (start.after earlier).due action feature := by
  intro h
  have hlive := h ⟨true, true⟩ (.obj [("profile_settings", .obj [])]) {} 2 none _ rfl
    [.connect 2, .begin (.featureSet { tier := some 2 }
      (.obj [("feature", .string "vpn_accelerator"), ("value", .bool false)]))] .askLive
    (connectionAgentFeatures { vpnAccelerator := false } none) (by decide +kernel) .netshield
  revert hlive
  decide +kernel

end Life

end ProtonVpnOmarchy.Agent.Settings
