import ProtonVpnOmarchy.Agent.Runtime.Replay
import ProtonVpnOmarchy.Lib.NewEvents

/-!
# Cleaning up after an attempt that fails

What `connection_connect` does from the activation of its tunnel to an error. A history is split at the
activation; what comes after it is compared with a full clean-up (`TakenDown`).

* `adds_disconnectOwnedInner` — `disconnect_owned_inner` is a full clean-up.
* `adds_pollTunnel` — the exits of the polling loop.
* `takenDown_iff` — an attempt that fails has cleaned up, exactly if no observation of the loop failed.
-/

namespace ProtonVpnOmarchy.Agent.Runtime

open Lib
open Dialogue hiding pure bind ask

/-- NetworkManager has activated a tunnel. -/
def Activation (event : Event) : Prop := ∃ uuid, event = ⟨.connect uuid, .ok ()⟩

/-- A call of a clean-up succeeds. -/
def CleanUpCall : Event → Prop
  | ⟨.setKillSwitchBypass false _, answer⟩ => answer = .ok ()
  | ⟨.policyAvailable, answer⟩ => answer = true
  | ⟨.applyRanges _ _, answer⟩ => answer = .ok ()
  | ⟨.disconnectUuid _, answer⟩ => answer = .ok ()
  | ⟨.killSwitch _ false _ _, answer⟩ => answer = .ok ()
  | _ => True

/-- Every call of a clean-up after the activation succeeds. -/
abbrev CleansUp : List Event → Prop := From Activation CleanUpCall

/-- The uuid that an event records. -/
def recorded? (event : Event) : Option (Option String) :=
  match event.1 with
  | .setOwnedUuid uuid => some uuid
  | _ => none

/-- The policy of the global settings is in force: there is no override, or the policy of the settings
was applied and the override taken away. -/
def PolicyRestored (after : List Event) : Prop :=
  ⟨.policyOverride, none⟩ ∈ after ∨
    ∃ settings : NativeSettings, ⟨.settings, settings⟩ ∈ after ∧
      ⟨.applyRanges settings.allowLanConnections settings.allowLocalDns, .ok ()⟩ ∈ after ∧
      ⟨.setPolicyOverride none, ()⟩ ∈ after

/-- What a full clean-up of a tunnel has done. -/
structure TakenDown (uuid : String) (after : List Event) : Prop where
  disconnected : ⟨.disconnectUuid uuid, .ok ()⟩ ∈ after
  killSwitch : ∃ (settings : NativeSettings) (serverIp : Option String),
    ⟨.settings, settings⟩ ∈ after ∧
      ⟨.killSwitch settings.killswitch false serverIp settings.ipv6LeakProtection, .ok ()⟩ ∈ after
  policy : PolicyRestored after
  cleared : after.findSome? recorded? = some none

/-- An observation of the polling loop fails. -/
def PollingFails (event : Event) : Prop := ∃ error, event = ⟨.observe .polling, .error error⟩

/-! ## Events beside the clean-up -/

/-- A question that is no part of an activation, of a disconnection or of the polling. -/
def Aside : Query → Prop
  | .connect _ | .disconnectUuid _ | .observe .polling => False
  | _ => True

/-- No tunnel is activated or taken down, and no observation of the loop fails. -/
structure Quiet (new : List Event) : Prop where
  activation : ∀ event ∈ new, ¬ Activation event
  disconnection : ∀ uuid answer, ⟨.disconnectUuid uuid, answer⟩ ∉ new
  polling : ∀ event ∈ new, ¬ PollingFails event

theorem Quiet.nil : Quiet [] := ⟨nofun, nofun, nofun⟩

theorem Quiet.append {new old : List Event} (hnew : Quiet new) (hold : Quiet old) :
    Quiet (new ++ old) where
  activation event hmem := (List.mem_append.mp hmem).elim (hnew.activation event)
    (hold.activation event)
  disconnection uuid answer hmem := (List.mem_append.mp hmem).elim (hnew.disconnection uuid answer)
    (hold.disconnection uuid answer)
  polling event hmem := (List.mem_append.mp hmem).elim (hnew.polling event) (hold.polling event)

theorem quiet_of_aside {new : List Event} (h : ∀ event ∈ new, Aside event.1) : Quiet new where
  activation event hmem := by
    rintro ⟨uuid, rfl⟩
    exact h _ hmem
  disconnection uuid answer hmem := h _ hmem
  polling event hmem := by
    rintro ⟨error, rfl⟩
    exact h _ hmem

/-- A question of the kind `Aside` adds a quiet event. -/
theorem Only.adds_quiet {start fact : Event → Prop} {α : Type} {task : Task α}
    (h : Only Aside task) : Adds start fact (fun _ new => Quiet new) task :=
  (Only.adds h).mono fun _ _ hnew => quiet_of_aside hnew

theorem PolicyRestored.mono {old new : List Event} (h : PolicyRestored old)
    (hsub : ∀ event ∈ old, event ∈ new) : PolicyRestored new := by
  rcases h with hnone | ⟨settings, hsettings, hranges, hoverride⟩
  · exact .inl (hsub _ hnone)
  · exact .inr ⟨settings, hsub _ hsettings, hsub _ hranges, hsub _ hoverride⟩

theorem TakenDown.append {uuid : String} {new : List Event} (h : TakenDown uuid new)
    (old : List Event) : TakenDown uuid (new ++ old) where
  disconnected := List.mem_append_left _ h.disconnected
  killSwitch := by
    obtain ⟨settings, serverIp, hsettings, hcall⟩ := h.killSwitch
    exact ⟨settings, serverIp, List.mem_append_left _ hsettings, List.mem_append_left _ hcall⟩
  policy := h.policy.mono fun _ hmem => List.mem_append_left _ hmem
  cleared := by
    rw [List.findSome?_append, h.cleared]
    rfl

/-- A piece of a task with quiet events only, and with a result of which something is said. -/
def Idle {α : Type} (result : α → Prop) (task : Task α) : Prop :=
  Adds Activation CleanUpCall (fun a new => result a ∧ Quiet new) task

section idle

variable {α β : Type} {result : α → Prop} {result' : β → Prop}

/-- What is known of an idle piece. -/
theorem idle_adds (result : α → Prop) {task : Task α} {post : α → List Event → Prop}
    (h : Idle result task) (hpost : ∀ a new, result a → Quiet new → post a new) :
    Adds Activation CleanUpCall post task := h.mono fun a new hnew => hpost a new hnew.1 hnew.2

theorem idle_pure {a : α} (h : result a) : Idle result (pure a) := adds_pure ⟨h, .nil⟩

theorem idle_bind (result : α → Prop) {task : Task α} {next : α → Task β} (h : Idle result task)
    (hnext : ∀ a, result a → Idle result' (next a)) : Idle result' (task >>= next) := by
  refine adds_bind _ h fun a old hold => (hnext a hold.1).mono fun b new hnew => ?_
  exact ⟨hnew.1, hnew.2.append hold.2⟩

theorem idle_orReturn (result : NativeResult α → Prop) {task : Task (NativeResult α)}
    {next : α → Task (NativeResult β)} {result' : NativeResult β → Prop} (h : Idle result task)
    (herror : ∀ error, result (.error error) → result' (.error error))
    (hnext : ∀ a, result (.ok a) → Idle result' (next a)) :
    Idle result' (orReturn task next) := by
  refine idle_bind _ h fun r hr => ?_
  rcases r with error | a
  · exact idle_pure (herror error hr)
  · exact hnext a hr

theorem idle_answer {query : Query} (result : query.Answer → Prop) (hquery : Aside query)
    (h : ∀ answer, CleanUpCall ⟨query, answer⟩ → result answer) : Idle result (ask query) :=
  adds_answer _ fun answer hcall => ⟨h answer hcall, quiet_of_aside (by simpa using hquery)⟩

theorem idle_ask {query : Query} (hquery : Aside query) : Idle (fun _ => True) (ask query) :=
  idle_answer _ hquery fun _ _ => trivial

theorem idle_guarded {mutex : Mutex} {task : Task α} (h : Idle result task) :
    Idle result (guarded mutex task) := by
  refine idle_bind _ (idle_ask trivial) fun _ _ => ?_
  refine idle_bind _ h fun a ha => ?_
  refine idle_bind _ (idle_ask trivial) fun _ _ => ?_
  exact idle_pure ha

theorem idle_checkConnectionAttempt (attempt : ℕ) :
    Idle (fun _ => True) (checkConnectionAttempt attempt) := by
  refine idle_bind _ (idle_ask trivial) fun current _ => ?_
  split_ifs
  · exact idle_pure trivial
  · exact idle_pure trivial

theorem idle_unlessCancelled (attempt : ℕ) (future : Future) :
    Idle (fun _ => True) (unlessCancelled attempt future) := by
  refine adds_loop (fun _ old => Quiet old) .nil fun _ old hold => ?_
  refine idle_adds (fun _ => True) ?_ fun r new _ hnew => ?_
  · refine idle_bind _ (idle_checkConnectionAttempt attempt) fun checked _ => ?_
    rcases checked with error | _
    · exact idle_pure trivial
    · refine idle_bind _ (idle_ask trivial) fun polled _ => ?_
      rcases polled with _ | result
      · exact idle_pure trivial
      · exact idle_pure trivial
  · rcases r with _ | a
    · exact hnew.append hold
    · exact ⟨trivial, hnew.append hold⟩

theorem idle_bypassKillSwitch (enabled : Bool) :
    Idle (fun r => enabled = false → r = .ok ()) (bypassKillSwitch enabled) := by
  refine idle_orReturn (fun r => enabled = false → r = .ok []) ?_
    (fun error h hactive => absurd (h hactive) nofun) fun routes _ => ?_
  · cases enabled with
    | false => exact idle_pure fun _ => rfl
    | true => exact idle_answer _ trivial fun _ _ h => absurd h (by decide)
  · refine idle_orReturn (fun r => enabled = false → r = .ok ()) ?_
      (fun error h hactive => absurd (h hactive) nofun) fun _ _ => ?_
    · refine idle_answer _ trivial ?_
      rintro answer hcall rfl
      exact hcall
    · exact idle_bind _ (idle_ask trivial) fun _ _ => idle_pure fun _ => rfl

theorem idle_reconcileSplitKillSwitchBypass (settings : NativeSettings) (tunnelActive : Bool) :
    Idle (fun r => tunnelActive = false → r = .ok ())
      (reconcileSplitKillSwitchBypass settings tunnelActive) := by
  refine idle_guarded ?_
  refine idle_bind (fun _ => True) ?_ fun needed _ => ?_
  · split_ifs
    · exact idle_pure trivial
    · exact idle_ask trivial
  · cases needed with
    | false => exact idle_pure fun _ => rfl
    | true =>
        refine (idle_bypassKillSwitch _).mono fun r new hnew => ⟨fun hactive => hnew.1 ?_, hnew.2⟩
        rw [hactive]
        rfl

end idle

/-! ## A full clean-up -/

section cleanup

variable {post : NativeResult Unit → List Event → Prop}

/-- A call that succeeds, before the rest of a function. -/
theorem adds_orReturn_ok (mid : List Event → Prop) {task : Task (NativeResult Unit)}
    {next : Unit → Task (NativeResult Unit)}
    (h : Adds Activation CleanUpCall (fun r new => r = .ok () ∧ mid new) task)
    (hnext : ∀ old, mid old →
      Adds Activation CleanUpCall (fun r new => post r (new ++ old)) (next ())) :
    Adds Activation CleanUpCall post (orReturn task next) := by
  refine adds_bind _ h ?_
  rintro _ old ⟨rfl, hold⟩
  exact hnext old hold

theorem adds_applyDestinationPolicy (settings : NativeSettings) :
    Adds Activation CleanUpCall (fun r new => r = .ok () ∧ Quiet new ∧
      ⟨.applyRanges settings.allowLanConnections settings.allowLocalDns, .ok ()⟩ ∈ new)
      (applyDestinationPolicy settings) := by
  have havailable : Idle (· = true) (ask .policyAvailable) := idle_answer _ trivial fun _ h => h
  refine adds_bind _ havailable ?_
  rintro _ old ⟨rfl, hold⟩
  refine adds_answer _ fun answer (hcall : answer = .ok ()) => ?_
  subst hcall
  exact ⟨rfl, Quiet.append (quiet_of_aside (by simp [Aside])) hold, by simp⟩

theorem adds_restoreGlobalDestinationPolicy :
    Adds Activation CleanUpCall (fun r new => r = .ok () ∧ Quiet new ∧ PolicyRestored new)
      restoreGlobalDestinationPolicy := by
  refine adds_bind _ (adds_event Query.policyOverride) ?_
  rintro override _ ⟨-, rfl⟩
  have hoverride : Quiet [⟨.policyOverride, override⟩] := quiet_of_aside (by simp [Aside])
  cases override with
  | none => exact adds_pure ⟨rfl, hoverride, .inl (by simp)⟩
  | some override =>
      refine adds_bind _ (adds_event Query.settings) ?_
      rintro settings _ ⟨-, rfl⟩
      have hsettings : Quiet [⟨.settings, settings⟩] := quiet_of_aside (by simp [Aside])
      refine adds_orReturn_ok _ (adds_applyDestinationPolicy settings) ?_
      rintro old ⟨hold, hranges⟩
      refine adds_bind _ (adds_event (Query.setPolicyOverride none)) ?_
      rintro ⟨⟩ _ ⟨-, rfl⟩
      refine adds_pure ⟨rfl, ?_, .inr ⟨settings, ?_, ?_, ?_⟩⟩
      · exact .append (.append (.append (quiet_of_aside (by simp [Aside])) hold) hsettings) hoverride
      · simp
      · simp [hranges]
      · simp

/-- NetworkManager takes a tunnel down, and the agent forgets it. -/
theorem adds_forgetConnection :
    Adds Activation CleanUpCall (fun _ new => new.findSome? recorded? = some none)
      forgetConnection := by
  refine adds_bind _ (adds_event (Query.setOwnedUuid none)) ?_
  rintro ⟨⟩ _ ⟨-, rfl⟩
  refine adds_bind _ (adds_event (Query.setSelected none)) ?_
  rintro ⟨⟩ _ ⟨-, rfl⟩
  refine adds_bind _ (adds_event (Query.observe .cleanup)) ?_
  rintro (error | observation) _ ⟨-, rfl⟩
  · exact adds_pure rfl
  · refine adds_bind _ (adds_event (Query.emitConnection observation none)) ?_
    rintro ⟨⟩ _ ⟨-, rfl⟩
    exact adds_pure rfl

/-- `disconnect_owned_inner` is a full clean-up, also where it returns an error after it. -/
theorem adds_disconnectOwnedInner (uuid : String) :
    Adds Activation CleanUpCall (fun _ new => TakenDown uuid new) (disconnectOwnedInner uuid) := by
  refine adds_bind _ (adds_event Query.settings) ?_
  rintro settings _ ⟨-, rfl⟩
  refine adds_bind _ (adds_event Query.selected) ?_
  rintro selected _ ⟨-, rfl⟩
  refine adds_orReturn_ok (fun _ => True) ?_ fun old _ => ?_
  · refine (idle_reconcileSplitKillSwitchBypass settings false).mono fun r new hnew => ?_
    exact ⟨hnew.1 rfl, trivial⟩
  refine adds_orReturn_ok _ adds_restoreGlobalDestinationPolicy ?_
  rintro restored ⟨-, hpolicy⟩
  refine adds_bind _ (adds_event (Query.setLocalAgent none)) ?_
  rintro ⟨⟩ _ ⟨-, rfl⟩
  refine adds_bind _ (adds_event (Query.setSnapshot {})) ?_
  rintro ⟨⟩ _ ⟨-, rfl⟩
  refine adds_orReturn_ok (· = [⟨.disconnectUuid uuid, .ok ()⟩]) ?_ ?_
  · exact adds_answer _ fun r (hr : r = .ok ()) => ⟨hr, by rw [hr]⟩
  rintro _ rfl
  refine adds_orReturn_ok (· = [⟨.killSwitch settings.killswitch false
    (selected.map ConnectionTarget.entryIp) settings.ipv6LeakProtection, .ok ()⟩]) ?_ ?_
  · exact adds_answer _ fun r (hr : r = .ok ()) => ⟨hr, by rw [hr]⟩
  rintro _ rfl
  refine adds_forgetConnection.mono fun r new hcleared => ?_
  refine ⟨by simp, ⟨settings, selected.map ConnectionTarget.entryIp, by simp, by simp⟩, ?_, ?_⟩
  · exact hpolicy.mono fun event hmem => by simp [hmem]
  · simp only [List.append_assoc, List.findSome?_append, hcleared]
    rfl

end cleanup

/-! ## What an attempt asks before the activation and in a clean-up -/

/-- A question that neither activates a tunnel nor belongs to the polling or to a watcher. -/
def Outside : Query → Prop
  | .connect _ | .observe .polling | .receive _ | .ready _ => False
  | _ => True

section outside

variable {α β : Type}

theorem only_orReturn {kind : Query → Prop} {task : Task (NativeResult α)}
    {next : α → Task (NativeResult β)} (h : Only kind task) (hnext : ∀ a, Only kind (next a)) :
    Only kind (orReturn task next) := by
  refine only_bind h ?_
  rintro (error | a)
  · exact trivial
  · exact hnext a

theorem only_ask {kind : Query → Prop} {query : Query} (h : kind query) :
    Only kind (ask query) := ⟨h, fun _ => trivial⟩

section kind

variable {kind : Query → Prop}

theorem only_guarded {mutex : Mutex} (hlock : kind (.lock mutex)) (hunlock : kind (.unlock mutex))
    {task : Task α} (h : Only kind task) : Only kind (guarded mutex task) := by
  refine only_bind (only_ask hlock) fun _ => only_bind h fun _ => ?_
  exact only_bind (only_ask hunlock) fun _ => trivial

theorem only_checkConnectionAttempt (hload : kind .loadAttempt) (attempt : ℕ) :
    Only kind (checkConnectionAttempt attempt) := by
  refine only_bind (only_ask hload) fun current => ?_
  split_ifs
  · exact trivial
  · exact trivial

theorem only_unlessCancelled {future : Future} (hload : kind .loadAttempt)
    (hpoll : kind (.poll future)) (attempt : ℕ) : Only kind (unlessCancelled attempt future) := by
  refine ⟨fun _ => only_bind (only_checkConnectionAttempt hload attempt) ?_, fun _ => trivial⟩
  rintro (error | _)
  · exact trivial
  · refine only_bind (only_ask hpoll) ?_
    rintro (_ | result)
    · exact trivial
    · exact trivial

theorem only_bypassKillSwitch (hroutes : kind .physicalDefaultRoutes)
    (hset : ∀ enabled routes, kind (.setKillSwitchBypass enabled routes))
    (hactive : ∀ active, kind (.setSplitBypassActive active)) (enabled : Bool) :
    Only kind (bypassKillSwitch enabled) := by
  refine only_orReturn ?_ fun routes => only_orReturn (only_ask (hset _ _)) fun _ => ?_
  · cases enabled with
    | false => exact trivial
    | true => exact only_ask hroutes
  · exact only_bind (only_ask (hactive _)) fun _ => trivial

theorem only_reconcileSplitKillSwitchBypass (hlock : kind (.lock .splitRoute))
    (hunlock : kind (.unlock .splitRoute)) (hneeded : kind .splitBypassActive)
    (hroutes : kind .physicalDefaultRoutes)
    (hset : ∀ enabled routes, kind (.setKillSwitchBypass enabled routes))
    (hactive : ∀ active, kind (.setSplitBypassActive active)) (settings : NativeSettings)
    (tunnelActive : Bool) : Only kind (reconcileSplitKillSwitchBypass settings tunnelActive) := by
  refine only_guarded hlock hunlock (only_bind ?_ fun needed => ?_)
  · split_ifs
    · exact trivial
    · exact only_ask hneeded
  · cases needed with
    | false => exact trivial
    | true => exact only_bypassKillSwitch hroutes hset hactive _

end kind

theorem only_applyDestinationPolicy (settings : NativeSettings) :
    Only Outside (applyDestinationPolicy settings) := by
  refine only_bind (only_ask trivial) fun available => ?_
  cases available with
  | false => exact trivial
  | true => exact only_ask trivial

theorem only_applyConnectionDestinationPolicy (globalSettings effective : NativeSettings) :
    Only Outside (applyConnectionDestinationPolicy globalSettings effective) := by
  unfold applyConnectionDestinationPolicy
  split_ifs
  · refine only_orReturn (only_applyDestinationPolicy effective) fun _ => ?_
    exact only_bind (only_ask trivial) fun _ => trivial
  · exact only_bind (only_ask trivial) fun _ => trivial

theorem only_restoreGlobalDestinationPolicy : Only Outside restoreGlobalDestinationPolicy := by
  refine only_bind (only_ask trivial) fun override => ?_
  split_ifs
  · exact trivial
  · refine only_bind (only_ask trivial) fun settings => ?_
    refine only_orReturn (only_applyDestinationPolicy settings) fun _ => ?_
    exact only_bind (only_ask trivial) fun _ => trivial

theorem only_disconnectOwnedInner (uuid : String) : Only Outside (disconnectOwnedInner uuid) := by
  refine only_bind (only_ask trivial) fun settings => only_bind (only_ask trivial) fun selected => ?_
  refine only_orReturn (only_reconcileSplitKillSwitchBypass trivial trivial trivial trivial
    (fun _ _ => trivial) (fun _ => trivial) settings false) fun _ => ?_
  refine only_orReturn only_restoreGlobalDestinationPolicy fun _ => ?_
  refine only_bind (only_ask trivial) fun _ => only_bind (only_ask trivial) fun _ => ?_
  refine only_orReturn (only_ask trivial) fun _ => only_orReturn (only_ask trivial) fun _ => ?_
  refine only_bind (only_ask trivial) fun _ => only_bind (only_ask trivial) fun _ => ?_
  exact only_orReturn (only_ask trivial) fun _ => only_bind (only_ask trivial) fun _ => trivial

theorem only_replaceTunnel (attempt : ℕ) : Only Outside (replaceTunnel attempt) := by
  refine only_orReturn (only_ask trivial) fun current => ?_
  refine only_orReturn (only_checkConnectionAttempt trivial attempt) fun _ => ?_
  refine only_bind (only_ask trivial) fun ownedUuid => ?_
  split
  · exact trivial
  · exact trivial
  · refine only_orReturn (only_disconnectOwnedInner _) fun _ => ?_
    refine only_orReturn (only_ask trivial) fun observation => ?_
    split_ifs
    · exact trivial
    · exact trivial

end outside

/-! ## The polling loop -/

/-- How an attempt leaves its tunnel when it fails: an observation of the loop has failed and the tunnel
is as it was, or it was cleaned up. -/
def Abandoned (uuid : String) (new : List Event) : Prop :=
  (∃ event ∈ new, PollingFails event) ∧ (∀ answer, ⟨.disconnectUuid uuid, answer⟩ ∉ new) ∨
    TakenDown uuid new ∧ ∀ event ∈ new, ¬ PollingFails event

/-- What has happened since the activation after a round of the polling loop. -/
def Polled (uuid : String) : Unit ⊕ NativeResult Unit → List Event → Prop
  | .inl _, new => Quiet new
  | .inr (.ok _), new => ∀ event ∈ new, ¬ Activation event
  | .inr (.error _), new => (∀ event ∈ new, ¬ Activation event) ∧ Abandoned uuid new

section polling

variable {α : Type} {uuid : String} {attempt : ℕ} {plan : Plan} {conflicts : List String}

theorem Abandoned.append {new old : List Event} (h : Abandoned uuid new) (hold : Quiet old) :
    Abandoned uuid (new ++ old) := by
  rcases h with ⟨⟨event, hmem, hfails⟩, hup⟩ | ⟨hdown, hpolling⟩
  · refine .inl ⟨⟨event, List.mem_append_left _ hmem, hfails⟩, fun answer hmem => ?_⟩
    exact (List.mem_append.mp hmem).elim (hup answer) (hold.disconnection uuid answer)
  · refine .inr ⟨hdown.append old, fun event hmem => ?_⟩
    exact (List.mem_append.mp hmem).elim (hpolling event) (hold.polling event)

theorem Abandoned.unlock {new : List Event} (h : Abandoned uuid new) {mutex : Mutex}
    {answer : Unit} : Abandoned uuid (⟨.unlock mutex, answer⟩ :: new) := by
  have hsub : ∀ event ∈ new, event ∈ (⟨.unlock mutex, answer⟩ :: new : List Event) :=
    fun _ hmem => List.mem_cons_of_mem _ hmem
  rcases h with ⟨⟨event, hmem, hfails⟩, hup⟩ | ⟨hdown, hpolling⟩
  · refine .inl ⟨⟨event, hsub event hmem, hfails⟩, fun answer hmem => ?_⟩
    rcases List.mem_cons.mp hmem with heq | hmem
    · cases heq
    · exact hup answer hmem
  · obtain ⟨settings, serverIp, hsettings, hcall⟩ := hdown.killSwitch
    refine .inr ⟨⟨hsub _ hdown.disconnected, ?_, hdown.policy.mono hsub, hdown.cleared⟩, ?_⟩
    · exact ⟨settings, serverIp, hsub _ hsettings, hsub _ hcall⟩
    · exact List.forall_mem_cons.mpr ⟨nofun, hpolling⟩

theorem Polled.append {r : Unit ⊕ NativeResult Unit} {new old : List Event}
    (h : Polled uuid r new) (hold : Quiet old) : Polled uuid r (new ++ old) := by
  have hactivation (hnew : ∀ event ∈ new, ¬ Activation event) :
      ∀ event ∈ new ++ old, ¬ Activation event := fun event hmem =>
    (List.mem_append.mp hmem).elim (hnew event) (hold.activation event)
  rcases r with _ | (error | _)
  · exact Quiet.append h hold
  · exact ⟨hactivation h.1, h.2.append hold⟩
  · exact hactivation h

theorem polled_bind {result : α → Prop} {task : Task α}
    {next : α → Task (Unit ⊕ NativeResult Unit)} (h : Idle result task)
    (hnext : ∀ a, Adds Activation CleanUpCall (Polled uuid) (next a)) :
    Adds Activation CleanUpCall (Polled uuid) (task >>= next) :=
  adds_bind _ h fun a _ hold => (hnext a).mono fun _ _ hnew => hnew.append hold.2

theorem adds_giveUp (error : NativeError) :
    Adds Activation CleanUpCall (Polled uuid) (giveUp uuid error) := by
  have honly : Only Outside (cleanupOwnedConnection uuid) :=
    only_bind (only_disconnectOwnedInner uuid) fun _ => trivial
  have hdown : Adds Activation CleanUpCall (fun _ new => TakenDown uuid new)
      (cleanupOwnedConnection uuid) :=
    adds_bind _ (adds_disconnectOwnedInner uuid) fun _ _ hold => adds_pure (by simpa using hold)
  refine adds_bind _ (hdown.and honly.adds) ?_
  rintro ⟨⟩ old ⟨hold, hquestions⟩
  refine adds_pure ⟨?_, .inr ⟨hold, ?_⟩⟩
  · rintro event hmem ⟨uuid, rfl⟩
    exact hquestions _ hmem
  · rintro event hmem ⟨error, rfl⟩
    exact hquestions _ hmem

theorem adds_awaitLocalAgent (observation : TunnelObservation) (queue : Queue) :
    Adds Activation CleanUpCall (Polled uuid)
      (awaitLocalAgent attempt uuid observation queue) := by
  refine polled_bind (idle_ask trivial) fun _ => ?_
  refine polled_bind (idle_unlessCancelled attempt _) ?_
  rintro (error | (_ | (error | snapshot)))
  · exact adds_giveUp error
  · exact adds_giveUp _
  · exact adds_giveUp error
  · refine polled_bind (idle_ask trivial) fun _ => ?_
    refine polled_bind (idle_ask trivial) fun _ => ?_
    refine polled_bind (idle_ask trivial) fun _ => ?_
    exact adds_pure nofun

theorem adds_secureSession (observation : TunnelObservation) :
    Adds Activation CleanUpCall (Polled uuid) (secureSession attempt plan uuid observation) := by
  refine polled_bind (idle_reconcileSplitKillSwitchBypass plan.settings true) ?_
  rintro (error | _)
  · exact adds_giveUp error
  · refine polled_bind (idle_unlessCancelled attempt _) fun started => ?_
    split
    · exact adds_awaitLocalAgent observation _
    · split_ifs
      · refine polled_bind (idle_ask trivial) fun passed => ?_
        split_ifs
        · exact adds_giveUp _
        · exact adds_pure .nil
      · exact adds_giveUp _

theorem adds_waitForTunnel :
    Adds Activation CleanUpCall (Polled uuid) (pollTunnel.waitForTunnel plan uuid conflicts) := by
  refine polled_bind (idle_ask trivial) fun passed => ?_
  split_ifs
  · exact adds_giveUp _
  · exact polled_bind (idle_ask trivial) fun _ => adds_pure .nil

/-- Every exit of the loop but one cleans up: a failing observation is passed on at once. -/
theorem adds_pollTunnel :
    Adds Activation CleanUpCall (Polled uuid) (pollTunnel attempt plan uuid conflicts) := by
  refine polled_bind (idle_checkConnectionAttempt attempt) ?_
  rintro (error | _)
  · exact adds_giveUp error
  · refine adds_bind _ (adds_event (Query.observe .polling)) ?_
    rintro (error | observation) _ ⟨-, rfl⟩
    · refine adds_pure ⟨?_, .inl ⟨⟨_, List.mem_singleton_self _, error, rfl⟩, ?_⟩⟩
      · rintro event hmem ⟨uuid, rfl⟩
        cases List.mem_singleton.mp hmem
      · intro answer hmem
        cases List.mem_singleton.mp hmem
    · have hobserved : Quiet [⟨Query.observe .polling, .ok observation⟩] := by
        refine ⟨?_, ?_, ?_⟩
        · rintro event hmem ⟨uuid, rfl⟩
          cases List.mem_singleton.mp hmem
        · intro uuid answer hmem
          cases List.mem_singleton.mp hmem
        · rintro event hmem ⟨error, rfl⟩
          cases List.mem_singleton.mp hmem
      refine Adds.mono ?_ fun _ _ hnew => Polled.append hnew hobserved
      obtain ⟨state, observed, owned⟩ := observation
      cases state with
      | connected => exact adds_secureSession _
      | error => exact polled_bind (idle_ask trivial) fun _ => adds_giveUp _
      | disconnected =>
          refine polled_bind (idle_ask trivial) fun passed => ?_
          split_ifs
          · exact adds_giveUp _
          · exact adds_waitForTunnel
      | connecting => exact adds_waitForTunnel

end polling

/-! ## The whole attempt -/

/-- NetworkManager has activated no tunnel. -/
def Unactivated (past : List Event) : Prop := ∀ event ∈ past, ¬ Activation event

/-- How an attempt ends: it has activated no tunnel, or one. -/
def Concluded (r : NativeResult Unit) (history : List Event) : Prop :=
  Unactivated history ∨
    ∃ uuid new old, history = new ++ ⟨.connect uuid, .ok ()⟩ :: old ∧ Unactivated old ∧
      Polled uuid (.inr r) new

/-- A mutex is given back at the end. -/
theorem Concluded.unlock {r : NativeResult Unit} {history : List Event} (h : Concluded r history)
    {mutex : Mutex} {answer : Unit} : Concluded r (⟨.unlock mutex, answer⟩ :: history) := by
  have hcons (past : List Event) (hpast : Unactivated past) :
      Unactivated (⟨.unlock mutex, answer⟩ :: past) :=
    List.forall_mem_cons.mpr ⟨nofun, hpast⟩
  rcases h with hnone | ⟨uuid, new, old, rfl, hold, hnew⟩
  · exact .inl (hcons _ hnone)
  · refine .inr ⟨uuid, ⟨.unlock mutex, answer⟩ :: new, old, rfl, hold, ?_⟩
    rcases r with error | _
    · exact ⟨hcons _ hnew.1, hnew.2.unlock⟩
    · exact hcons _ hnew

/-- A part of an attempt that begins without a tunnel, up to the end of the attempt. -/
def Concludes (task : Task (NativeResult Unit)) : Prop :=
  ∀ past, Unactivated past → Keeps CleansUp (fun _ => True) task past Concluded

section attempt

variable {α : Type} {uuid : String} {attempt : ℕ} {plan : Plan} {conflicts : List String}

theorem Only.unactivated {task : Task α} (h : Only Outside task) {past : List Event}
    (hpast : Unactivated past) :
    Keeps CleansUp (fun _ => True) task past fun _ past' => Unactivated past' := by
  apply Only.keeps h Unactivated (fun _ _ => trivial) ?_ hpast
  intro q a past' hq hpast'
  refine List.forall_mem_cons.mpr ⟨?_, hpast'⟩
  rintro ⟨uuid, ⟨⟩⟩
  exact hq

theorem concludes_of_only {task : Task (NativeResult Unit)} (h : Only Outside task) :
    Concludes task := fun _ hpast => (Only.unactivated h hpast).mono fun _ _ hpast' => .inl hpast'

theorem concludes_bind {task : Task α} {next : α → Task (NativeResult Unit)}
    (h : Only Outside task) (hnext : ∀ a, Concludes (next a)) : Concludes (task >>= next) :=
  fun _ hpast => keeps_bind (Only.unactivated h hpast) (fun a past' _ hpast' => hnext a past' hpast')
    (closed_from _ _)

theorem concludes_orReturn {task : Task (NativeResult α)} {next : α → Task (NativeResult Unit)}
    (h : Only Outside task) (hnext : ∀ a, Concludes (next a)) : Concludes (orReturn task next) := by
  refine concludes_bind h ?_
  rintro (error | a)
  · exact concludes_of_only trivial
  · exact hnext a

/-- The activation is the last that happens before the polling loop. -/
theorem keeps_activate {past : List Event} (hpast : Unactivated past) :
    Keeps CleansUp (fun _ => True) (activate plan uuid) past fun r past' =>
      match r with
      | .error _ => Unactivated past'
      | .ok _ => ∃ old, past' = ⟨.connect uuid, .ok ()⟩ :: old ∧ Unactivated old := by
  refine keeps_bind (Only.unactivated (only_ask ?_) hpast) ?_ (closed_from _ _)
  · exact trivial
  rintro (error | _) past' - hpast'
  · exact keeps_pure trivial hpast'
  · refine keeps_ask (closed_from _ _) trivial ?_
    rintro (error | ⟨⟨⟩⟩) -
    · have hfailed : Unactivated (⟨.connect uuid, .error error⟩ :: past') := by
        refine List.forall_mem_cons.mpr ⟨?_, hpast'⟩
        rintro ⟨other, heq⟩
        cases heq
      refine keeps_ask (closed_from _ _) trivial fun answer _ => keeps_pure trivial ?_
      refine List.forall_mem_cons.mpr ⟨?_, hfailed⟩
      rintro ⟨other, heq⟩
      cases heq
    · exact keeps_pure trivial ⟨past', rfl, hpast'⟩

/-- What comes after the activation. -/
theorem adds_polling : Adds Activation CleanUpCall (fun r new => Polled uuid (.inr r) new) (do
    ask (.setOwnedUuid (some uuid))
    ask (.setSelected (some plan.target))
    .loop (fun _ : Unit => pollTunnel attempt plan uuid conflicts) () pure) := by
  refine adds_bind _ (idle_ask trivial) fun _ recorded hrecorded => ?_
  refine adds_bind _ (idle_ask trivial) fun _ selected hselected => ?_
  have hloop : Adds Activation CleanUpCall (fun r new => Polled uuid (.inr r) new)
      (.loop (fun _ : Unit => pollTunnel attempt plan uuid conflicts) () .pure) := by
    refine adds_loop (fun _ new => Quiet new) .nil fun _ old hold => ?_
    refine adds_pollTunnel.mono fun r new hnew => ?_
    rcases r with _ | r
    · exact Quiet.append hnew hold
    · exact Polled.append hnew hold
  exact hloop.mono fun r new hnew => (hnew.append hselected.2).append hrecorded.2

theorem concludes_establish : Concludes (establish attempt plan uuid conflicts) := by
  refine concludes_orReturn (only_applyConnectionDestinationPolicy _ _) fun _ => ?_
  refine concludes_bind (only_checkConnectionAttempt trivial attempt) ?_
  rintro (error | _)
  · exact concludes_of_only (only_orReturn only_restoreGlobalDestinationPolicy fun _ => trivial)
  · intro past hpast
    refine keeps_bind (keeps_activate hpast) ?_ (closed_from _ _)
    rintro (error | _) past' - hpast'
    · refine concludes_orReturn only_restoreGlobalDestinationPolicy (fun _ => ?_) past' hpast'
      exact concludes_of_only trivial
    · obtain ⟨old, rfl, hold⟩ := hpast'
      refine (adds_polling.keeps ⟨_, List.mem_cons_self, uuid, rfl⟩).mono ?_
      rintro r _ ⟨new, rfl, hnew⟩
      exact .inr ⟨uuid, new, old, rfl, hold, hnew⟩

theorem concludes_connectExclusively : Concludes (connectExclusively attempt) := by
  refine concludes_orReturn (only_ask trivial) fun _ => concludes_orReturn (only_ask trivial) ?_
  intro plan
  refine concludes_orReturn (only_replaceTunnel attempt) fun _ => ?_
  refine concludes_orReturn (only_ask trivial) fun uuid => ?_
  exact concludes_orReturn (only_ask trivial) fun conflicts => concludes_establish

theorem concludes_guardedUnlessCancelled {mutex : Mutex} {task : Task (NativeResult Unit)}
    (h : Concludes task) : Concludes (guardedUnlessCancelled attempt mutex task) := by
  refine concludes_orReturn (only_unlessCancelled trivial trivial attempt) fun _ => ?_
  intro past hpast
  refine keeps_bind (h past hpast) (fun r past' _ hr => ?_) (closed_from _ _)
  exact keeps_ask (closed_from _ _) trivial fun _ _ => keeps_pure trivial hr.unlock

theorem concludes_connectionConnect : Concludes connectionConnect := by
  refine concludes_bind (only_ask trivial) fun attempt => ?_
  refine concludes_orReturn ?_ fun _ => ?_
  · refine only_orReturn (only_unlessCancelled trivial trivial attempt) fun prepared => ?_
    exact only_orReturn trivial fun _ => only_ask trivial
  · exact concludes_guardedUnlessCancelled
      (concludes_guardedUnlessCancelled concludes_connectExclusively)

end attempt

/-- **An attempt that fails after the activation of its tunnel has cleaned up, exactly if no observation
of the polling loop failed**, whatever it is told and wherever it fails, as long as the calls of a
clean-up succeed. -/
theorem takenDown_iff {n : ℕ} {error : NativeError} {uuid : String} {after before : List Event}
    (hrun : Dialogue.Talks n connectionConnect [] (.pure (.error error))
      (after ++ ⟨.connect uuid, .ok ()⟩ :: before))
    (hclean : CleansUp (after ++ ⟨.connect uuid, .ok ()⟩ :: before)) :
    TakenDown uuid after ↔ ∀ event ∈ after, ¬ PollingFails event := by
  obtain ⟨-, hresult⟩ := concludes_connectionConnect [] nofun _ _ _ hrun hclean
  rcases hresult _ rfl with hnone | ⟨uuid', new, old, heq, hold, hnew, habandoned⟩
  · exact absurd ⟨uuid, rfl⟩ (hnone _ (List.mem_append_right _ List.mem_cons_self))
  -- The activation occurs once, so the history is split in one way only.
  have hsplit := (List.append_cons_inj_of_notMem (fun hmem => hnew _ hmem ⟨uuid, rfl⟩)
    (fun hmem => hold _ hmem ⟨uuid, rfl⟩)).mp heq.symm
  obtain ⟨rfl, hevent, rfl⟩ := hsplit
  obtain rfl : uuid' = uuid := by
    cases hevent
    rfl
  rcases habandoned with ⟨⟨event, hmem, hfails⟩, hup⟩ | ⟨hdown, hpolling⟩
  · refine ⟨fun hdown => absurd hdown.disconnected (hup _), fun hpolling => ?_⟩
    exact absurd hfails (hpolling event hmem)
  · exact ⟨fun _ => hpolling, fun _ => hdown⟩

/-- Everything succeeds, and the polling loop sees this. -/
def observing (observation : NativeResult TunnelObservation) :
    (query : Query) → List Event → query.Answer
  | .newProfile, _ => .ok "u"
  | .poll (.lock _), _ => some ()
  | .observe .polling, _ => observation
  | .observe _, _ => .ok ⟨.disconnected, none, false⟩
  | query, _ => Setup.answer ({ uuid := fun _ => "u" } : Setup Unit) query

/-- Nothing stops an attempt but what the polling loop sees. -/
def observed (observation : NativeResult TunnelObservation) (n : ℕ) :
    Task (NativeResult Unit) × List Event :=
  Dialogue.drive (observing observation) n connectionConnect []

theorem cleansUp_observed (observation : NativeResult TunnelObservation) (n : ℕ) :
    CleansUp (observed observation n).2 := by
  refine Dialogue.from_of_forall (Dialogue.forall_drive (fun query past => ?_) n _)
  cases query with
  | setKillSwitchBypass enabled routes =>
      cases enabled with
      | false => exact rfl
      | true => exact trivial
  | killSwitch mode active serverIp ipv6 =>
      cases active with
      | false => exact rfl
      | true => exact trivial
  | policyAvailable | applyRanges _ _ | disconnectUuid _ => rfl
  | _ => exact trivial

/-- NetworkManager reports that the tunnel failed. -/
theorem takenDown_iff_failed :
    TakenDown "u" ((observed (.ok ⟨.error, some "u", true⟩) 48).2.take 23) := by
  have hhistory : (observed (.ok ⟨.error, some "u", true⟩) 48).2 =
      (observed (.ok ⟨.error, some "u", true⟩) 48).2.take 23 ++
        ⟨.connect "u", .ok ()⟩ :: (observed (.ok ⟨.error, some "u", true⟩) 48).2.drop 24 := rfl
  have hpolling : ∀ event ∈ (observed (.ok ⟨.error, some "u", true⟩) 48).2,
      ¬ PollingFails event := by
    apply Dialogue.forall_drive
    rintro query past ⟨error, heq⟩
    cases heq
  obtain ⟨error, herror⟩ :
      ∃ error, (observed (.ok ⟨.error, some "u", true⟩) 48).1.result? = some (.error error) :=
    ⟨_, rfl⟩
  obtain ⟨n, hrun⟩ := Dialogue.talks_drive (observing (.ok ⟨.error, some "u", true⟩)) 48
    connectionConnect []
  change Dialogue.Talks n _ _ (observed _ _).1 (observed _ _).2 at hrun
  have hclean := cleansUp_observed (.ok ⟨.error, some "u", true⟩) 48
  rw [Dialogue.eq_pure_of_result? herror, hhistory] at hrun
  rw [hhistory] at hclean
  exact (takenDown_iff hrun hclean).mpr fun event hmem =>
    hpolling event (List.mem_of_mem_take hmem)

/-- Although every call of a clean-up would succeed, an attempt whose observation fails leaves its
tunnel up. -/
theorem not_takenDown : ¬ ∀ (n : ℕ) (error : NativeError) (uuid : String) (after before : List Event),
    Dialogue.Talks n connectionConnect [] (.pure (.error error))
        (after ++ ⟨.connect uuid, .ok ()⟩ :: before) →
      CleansUp (after ++ ⟨.connect uuid, .ok ()⟩ :: before) → TakenDown uuid after := by
  intro h
  have hhistory : (observed (.error unavailable) 32).2 =
      (observed (.error unavailable) 32).2.take 6 ++
        ⟨.connect "u", .ok ()⟩ :: (observed (.error unavailable) 32).2.drop 7 := rfl
  have herror : (observed (.error unavailable) 32).1.result? = some (.error unavailable) := rfl
  obtain ⟨n, hrun⟩ := Dialogue.talks_drive (observing (.error unavailable)) 32 connectionConnect []
  change Dialogue.Talks n _ _ (observed _ _).1 (observed _ _).2 at hrun
  have hclean := cleansUp_observed (.error unavailable) 32
  rw [Dialogue.eq_pure_of_result? herror, hhistory] at hrun
  rw [hhistory] at hclean
  have hdown := (h _ _ _ _ _ hrun hclean).disconnected
  have hnone : ((observed (.error unavailable) 32).2.take 6).all
      (fun event => match event.1 with
        | .disconnectUuid _ => false
        | _ => true) = true := rfl
  exact absurd (List.all_eq_true.mp hnone _ hdown) nofun

end ProtonVpnOmarchy.Agent.Runtime
