import ProtonVpnOmarchy.Agent.Network.Connections

/-!
# The kill switch

`NetworkManagerBackend::reconcile_kill_switch` of `network.rs`: a dummy connection of this agent blocks
traffic beside the tunnel, a standard one while a tunnel is wanted and a permanent one always.

* `meets_ensureFullKillSwitch` — switching from one kind to the other overlaps them.
* `reconcileKillSwitch_failClosed` — blocking does not stop in between, and what is left at the end.
* `foreign_connection_relied_on` — a connection of another owner with the id stands for the own one.
-/

namespace ProtonVpnOmarchy.Agent.Network

open Lib Native

/-! ## The model -/

def IPV6_LEAK_CONNECTION_ID : String := "pvpn-killswitch-ipv6"

def IPV6_LEAK_INTERFACE : String := "ipv6leakintrf0"

def KILL_SWITCH_CONNECTION_ID : String := "pvpn-killswitch"

def KILL_SWITCH_PERMANENT_CONNECTION_ID : String := "pvpn-killswitch-perm"

def KILL_SWITCH_INTERFACE : String := "pvpnksintrf0"

def KILL_SWITCH_PERMANENT_INTERFACE : String := "pvpnksintrf1"

/-- Source: `network.rs` `kill_switch_settings`, the settings of the connection -/
def killSwitchSettings (id interface : String) (permanent : Bool) : ConnectionSettings :=
  ⟨id, interface, permanent, some PROTON_OMARCHY_STABLE_ID⟩

/-- Source: `network.rs` `ipv6_leak_settings`, the settings of the connection -/
def ipv6LeakSettings : ConnectionSettings :=
  ⟨IPV6_LEAK_CONNECTION_ID, IPV6_LEAK_INTERFACE, true, some PROTON_OMARCHY_STABLE_ID⟩

/-- Source: `network.rs` `ensure_full_kill_switch` and `ensure_ipv6_leak_protection`, connectivity
checking is switched off -/
def disableConnectivityCheck : Task (NativeResult Unit) := do
  if (← request .connectivityCheckEnabled).toOption.getD false then
    required "disable NetworkManager connectivity checking"
      (request (.setConnectivityCheckEnabled false))
  else return .ok ()

/-- Source: `network.rs` `ensure_full_kill_switch` and `ensure_ipv6_leak_protection`, a profile of this
agent with the id of the settings is activated, and added before if there is none -/
def activateOwn (create activate : String) (settings : ConnectionSettings) (saved : Bool) :
    Task (NativeResult Unit) :=
  (settingsConnectionByIdOwned settings.id).andThen fun found =>
    Dialogue.andThen
      (match found with
        | some path => return .ok path
        | none => required create (request (.addConnection settings saved)))
      fun path => required activate (request (.activateConnection path))

/-- Source: `network.rs` `ensure_ipv6_leak_protection` -/
def ensureIpv6LeakProtection : Task (NativeResult Unit) :=
  (required "connect to NetworkManager" (request .systemBus)).andThen fun _ =>
    disableConnectivityCheck.andThen fun _ =>
      (activeConnectionById IPV6_LEAK_CONNECTION_ID).andThen fun active =>
        if active.isSome then return .ok ()
        else
          activateOwn "create IPv6 leak protection" "activate IPv6 leak protection" ipv6LeakSettings
            false

/-- Source: `network.rs` `remove_ipv6_leak_protection` -/
def removeIpv6LeakProtection : Task (NativeResult Bool) :=
  removeOwnedConnectionsById IPV6_LEAK_CONNECTION_ID

/-- The id of a kill switch; the other one is that of the opposite kind. -/
def killSwitchId (permanent : Bool) : String :=
  if permanent then KILL_SWITCH_PERMANENT_CONNECTION_ID else KILL_SWITCH_CONNECTION_ID

def killSwitchInterface (permanent : Bool) : String :=
  if permanent then KILL_SWITCH_PERMANENT_INTERFACE else KILL_SWITCH_INTERFACE

/-- Source: `network.rs` `ensure_full_kill_switch` -/
def ensureFullKillSwitch (permanent : Bool) : Task (NativeResult Unit) :=
  (required "connect to NetworkManager" (request .systemBus)).andThen fun _ =>
    disableConnectivityCheck.andThen fun _ =>
      (activeConnectionById (killSwitchId permanent)).andThen fun active =>
        Dialogue.andThen
          (if active.isSome then return .ok ()
          else
            activateOwn
              (if permanent then "create permanent Kill Switch" else "create standard Kill Switch")
              "activate Kill Switch"
              (killSwitchSettings (killSwitchId permanent) (killSwitchInterface permanent) permanent)
              permanent)
          fun _ => (removeOwnedConnectionsById (killSwitchId !permanent)).andThen fun _ =>
            return .ok ()

/-- Blocking is wanted. -/
def shouldBlock (mode : UInt8) (tunnelActive : Bool) : Bool :=
  mode = 2 || mode = 1 && tunnelActive

/-- Source: `network.rs` `reconcile_kill_switch` -/
def reconcileKillSwitch (mode : UInt8) (tunnelActive : Bool) (serverIp : Option String)
    (ipv6LeakProtection : Bool) : Task (NativeResult Unit) :=
  let serverRoute (add : Bool) : Task (NativeResult Unit) :=
    match serverIp with
    | some serverIp => request (.modifyServerRoute serverIp add)
    | none => return .ok ()
  if 2 < mode then
    return .error
      { code := "invalid_kill_switch"
        message := "Kill Switch mode must be off, standard or advanced" }
  else if shouldBlock mode tunnelActive then
    (ensureFullKillSwitch (mode = 2)).andThen fun _ =>
      removeIpv6LeakProtection.andThen fun _ => serverRoute tunnelActive
  else
    (removeOwnedConnectionsById KILL_SWITCH_CONNECTION_ID).andThen fun _ =>
      (removeOwnedConnectionsById KILL_SWITCH_PERMANENT_CONNECTION_ID).andThen fun _ =>
        Dialogue.andThen (if mode ≠ 0 then serverRoute false else return .ok ()) fun _ =>
          if tunnelActive && ipv6LeakProtection then ensureIpv6LeakProtection
          else removeIpv6LeakProtection.andThen fun _ => return .ok ()

/-! ## Blocking connections -/

/-- A connection of this agent with an id is active. -/
def Protected (id : String) (s : Connections) : Prop :=
  ∃ path ∈ s.active, Own id (s.activeSettings path)

/-- A kill switch of this agent is active. -/
def Blocks (s : Connections) : Prop := ∃ permanent, Protected (killSwitchId permanent) s

/-- Every active connection with an id is one of this agent. -/
def Unshared (id : String) (s : Connections) : Prop :=
  ∀ path ∈ s.active, (s.activeSettings path).id = id → connectionOwned (s.activeSettings path) = true

/-- A profile of this agent is added, or activated. -/
def Grows (settings : ConnectionSettings) (before after : Connections) : Prop :=
  (∃ path ∉ before.profiles, after = before.add path settings) ∨
    ∃ (path : String) (h : path ∈ before.profiles) (new : String), new ∉ before.active ∧
      Own settings.id (before.settings path) ∧ after = before.activate path h new

theorem killSwitchId_ne (permanent : Bool) : killSwitchId permanent ≠ killSwitchId !permanent := by
  cases permanent <;> decide

theorem killSwitchId_ne_ipv6 (permanent : Bool) : killSwitchId permanent ≠ IPV6_LEAK_CONNECTION_ID := by
  cases permanent <;> decide

theorem activeSettings_add {s : Connections} {path : String} (hpath : path ∉ s.profiles)
    (settings : ConnectionSettings) {other : String} (hother : other ∈ s.active) :
    (s.add path settings).activeSettings other = s.activeSettings other :=
  Function.update_of_ne (ne_of_mem_of_not_mem (s.profile_mem other hother) hpath) _ _

theorem activeSettings_activate_self {s : Connections} {path new : String} (h : path ∈ s.profiles) :
    (s.activate path h new).activeSettings new = s.settings path :=
  congrArg s.settings (Function.update_self ..)

theorem activeSettings_activate_of_ne {s : Connections} {path new : String} (h : path ∈ s.profiles)
    {other : String} (hother : other ≠ new) :
    (s.activate path h new).activeSettings other = s.activeSettings other :=
  congrArg s.settings (Function.update_of_ne hother ..)

theorem Protected.grows {id : String} {settings : ConnectionSettings} {s s' : Connections}
    (h : Protected id s) (hgrows : Grows settings s s') : Protected id s' := by
  obtain ⟨other, hother, hown⟩ := h
  rcases hgrows with ⟨path, hpath, rfl⟩ | ⟨path, hpath, new, hnew, -, rfl⟩
  · refine ⟨other, hother, ?_⟩
    rw [activeSettings_add hpath settings hother]
    exact hown
  · refine ⟨other, Finset.mem_insert_of_mem hother, ?_⟩
    rw [activeSettings_activate_of_ne hpath (ne_of_mem_of_not_mem hother hnew)]
    exact hown

theorem Blocks.grows {settings : ConnectionSettings} {s s' : Connections} (h : Blocks s)
    (hgrows : Grows settings s s') : Blocks s' := by
  obtain ⟨permanent, hprotected⟩ := h
  exact ⟨permanent, hprotected.grows hgrows⟩

theorem Protected.removes {id id' : String} {s s' : Connections} (h : Protected id s) (hne : id ≠ id')
    (hremoves : Removes id' s s') : Protected id s' := by
  obtain ⟨path, hpath, hown⟩ := h
  refine ⟨path, hremoves.kept_active path hpath fun hother => hne (hown.1.symm.trans hother.1), ?_⟩
  rw [hremoves.activeSettings]
  exact hown

theorem Gone.grows {id : String} {settings : ConnectionSettings} {s s' : Connections} (h : Gone id s)
    (hne : id ≠ settings.id) (hgrows : Grows settings s s') : Gone id s' := by
  rcases hgrows with ⟨path, hpath, rfl⟩ | ⟨path, hpath, new, hnew, hown, rfl⟩
  · refine ⟨fun other hother => ?_, fun other hother => ?_⟩
    · rw [activeSettings_add hpath settings hother]
      exact h.active other hother
    · by_cases heq : other = path
      · subst heq
        rw [show (s.add other settings).settings other = settings from Function.update_self ..]
        exact fun hown => hne hown.1.symm
      · rw [show (s.add path settings).settings other = s.settings other from
          Function.update_of_ne heq ..]
        exact h.profiles other (Finset.mem_of_mem_insert_of_ne hother heq)
  · refine ⟨fun other hother => ?_, h.profiles⟩
    by_cases heq : other = new
    · rw [heq, activeSettings_activate_self hpath]
      exact fun hother => hne (hother.1.symm.trans hown.1)
    · rw [activeSettings_activate_of_ne hpath heq]
      exact h.active other (Finset.mem_of_mem_insert_of_ne hother heq)

/-! ## The steps of a reconciliation -/

section steps

variable {fails : Call → Prop} {guar : Connections → Connections → Prop} {p : Connections → Prop}
  {settings : ConnectionSettings} (hrefl : ∀ s, guar s s)

include hrefl

theorem views_disableConnectivityCheck (s : Connections) :
    Views fails guar s (fun _ => True) disableConnectivityCheck := by
  refine views_bind (fun _ => True) ?_ fun answer _ => ?_
  · exact views_request hrefl _ fun _ _ hact => ⟨hact.1, trivial⟩
  · split_ifs
    · exact views_check (views_request hrefl _ fun _ _ hact => ⟨hact.1, trivial⟩)
    · exact views_pure trivial

theorem views_modifyServerRoute {s : Connections} (serverIp : String) (add : Bool) :
    Views fails guar s (fun _ => True) (request (.modifyServerRoute serverIp add)) :=
  views_request hrefl _ fun _ _ hact => ⟨hact.1, trivial⟩

variable (hgrows : ∀ s s', p s → Grows settings s s' → guar s s' ∧ p s')

include hgrows

theorem meets_requiredAdd (create : String) (saved : Bool)
    (hown : connectionOwned settings = true) :
    Meets (act fails) alone guar p (required create (request (.addConnection settings saved)))
      fun r s => p s ∧ ∀ path, r = .ok path → Own settings.id (s.settings path) := by
  refine meets_ask (fun answer s => p s ∧ ∀ path, answer = .ok path →
    Own settings.id (s.settings path)) (stable_alone _) ?_ ?_
  · rintro s answer s' hs (⟨path, rfl, hpath, rfl⟩ | ⟨-, ⟨error, rfl⟩, rfl | ⟨path, hpath, rfl⟩⟩)
    · obtain ⟨hguar, hp⟩ := hgrows _ _ hs (.inl ⟨path, hpath, rfl⟩)
      refine ⟨hguar, hp, ?_⟩
      rintro _ ⟨⟩
      rw [show (s.add path settings).settings path = settings from Function.update_self ..]
      exact ⟨rfl, hown⟩
    · exact ⟨hrefl _, hs, nofun⟩
    · obtain ⟨hguar, hp⟩ := hgrows _ _ hs (.inl ⟨path, hpath, rfl⟩)
      exact ⟨hguar, hp, nofun⟩
  · rintro (error | path)
    · exact meets_pure (stable_alone _) fun s hs => ⟨hs.1, nofun⟩
    · refine meets_pure (stable_alone _) fun s hs => ⟨hs.1, ?_⟩
      rintro _ ⟨⟩
      exact hs.2 path rfl

theorem meets_requiredActivate (activate path : String) :
    Meets (act fails) alone guar (fun s => p s ∧ Own settings.id (s.settings path))
      (required activate (request (.activateConnection path)))
      fun r s => p s ∧ (r = .ok () → Protected settings.id s) := by
  refine meets_ask (fun answer s => p s ∧ (answer = .ok () → Protected settings.id s))
    (stable_alone _) ?_ ?_
  · rintro s answer s' ⟨hs, hown⟩ (⟨_, rfl, hpath, new, hnew, rfl⟩ |
      ⟨-, ⟨error, rfl⟩, rfl | ⟨_, hpath, new, hnew, rfl⟩⟩)
    · obtain ⟨hguar, hp⟩ := hgrows _ _ hs (.inr ⟨path, hpath, new, hnew, hown, rfl⟩)
      refine ⟨hguar, hp, fun _ => ⟨new, Finset.mem_insert_self _ _, ?_⟩⟩
      rw [activeSettings_activate_self hpath]
      exact hown
    · exact ⟨hrefl _, hs, nofun⟩
    · obtain ⟨hguar, hp⟩ := hgrows _ _ hs (.inr ⟨path, hpath, new, hnew, hown, rfl⟩)
      exact ⟨hguar, hp, nofun⟩
  · rintro (error | _)
    · exact meets_pure (stable_alone _) fun s hs => ⟨hs.1, nofun⟩
    · exact meets_pure (stable_alone _) fun s hs => ⟨hs.1, fun _ => hs.2 rfl⟩

/-- A profile of this agent is active afterwards. -/
theorem meets_activateOwn (create activate : String) (saved : Bool)
    (hown : connectionOwned settings = true) :
    Meets (act fails) alone guar p (activateOwn create activate settings saved)
      fun r s => p s ∧ (r = .ok () → Protected settings.id s) := by
  refine meets_andThen _ (meets_views fun s _ => views_settingsConnectionByIdOwned hrefl settings.id)
    (fun _ _ hs => ⟨hs.1, nofun⟩) fun found => ?_
  refine meets_andThen (fun r s => p s ∧ ∀ path, r = .ok path → Own settings.id (s.settings path)) ?_
    (fun _ _ hs => ⟨hs.1, nofun⟩) fun path => ?_
  · rcases found with _ | path
    · exact (meets_requiredAdd hrefl hgrows create saved hown).consequence (fun _ hs => hs.1)
        fun _ _ hs => hs
    · refine meets_pure (stable_alone _) fun s hs => ⟨hs.1, ?_⟩
      rintro _ ⟨⟩
      exact (hs.2 _ rfl path rfl).2
  · exact (meets_requiredActivate hrefl hgrows activate path).consequence
      (fun _ hs => ⟨hs.1, hs.2 path rfl⟩) fun _ _ hs => hs

end steps

/-! ## A whole reconciliation -/

/-- A step does not end the blocking. -/
def KeepsBlocking (s s' : Connections) : Prop := Blocks s → Blocks s'

/-- How a reconciliation that blocks ends; connections that could not be read may be left. -/
def Blocking (fails : Call → Prop) (permanent : Bool) (s : Connections) : Prop :=
  Protected (killSwitchId permanent) s ∧ (Readable fails → Gone (killSwitchId !permanent) s)

section reconcile

variable {fails : Call → Prop} {permanent : Bool}

theorem keepsBlocking_refl (s : Connections) : KeepsBlocking s s := id

/-- The requested kind is active before the other one is removed. -/
theorem meets_ensureFullKillSwitch :
    Meets (act fails) alone KeepsBlocking (Unshared (killSwitchId permanent))
      (ensureFullKillSwitch permanent) fun r s => r = .ok () → Blocking fails permanent s := by
  refine meets_andThen _ (meets_views fun s _ => views_check (views_systemBus keepsBlocking_refl))
    (fun _ _ _ => nofun) fun _ => ?_
  refine meets_andThen _ (meets_views fun s _ => views_disableConnectivityCheck keepsBlocking_refl s)
    (fun _ _ _ => nofun) fun _ => ?_
  refine meets_andThen _ (meets_views fun s _ =>
    views_activeConnectionById keepsBlocking_refl (killSwitchId permanent))
    (fun _ _ _ => nofun) fun active => ?_
  refine meets_andThen (fun r s => r = .ok () → Protected (killSwitchId permanent) s) ?_
    (fun _ _ _ => nofun) fun _ => ?_
  · rcases active with _ | path
    · refine (meets_activateOwn (p := fun _ => True) keepsBlocking_refl ?_ _ _ _ ?_).consequence
        (fun _ _ => trivial) fun _ _ hs => hs.2
      · exact fun s s' _ hgrows => ⟨fun hblocks => hblocks.grows hgrows, trivial⟩
      · exact decide_eq_true rfl
    · refine meets_pure (stable_alone _) fun s hs _ => ?_
      obtain ⟨hpath, hid⟩ := hs.2 _ rfl path rfl
      exact ⟨path, hpath, hid, hs.1.1.1 path hpath hid⟩
  · refine meets_andThen _ ((meets_removeOwnedConnectionsById (p := Protected (killSwitchId permanent))
      ?_ ?_ keepsBlocking_refl).consequence (fun s hs => hs rfl) fun _ _ hs => hs)
      (fun _ _ _ => nofun) fun removed => ?_
    · exact fun s s' hs hremoves _ => ⟨permanent, hs.removes (killSwitchId_ne permanent) hremoves⟩
    · exact fun s s' hs hremoves => hs.removes (killSwitchId_ne permanent) hremoves
    · exact meets_pure (stable_alone _) fun s hs _ => ⟨hs.1, hs.2 _ rfl⟩

theorem Blocking.removes {id : String} {s s' : Connections} (h : Blocking fails permanent s)
    (hne : killSwitchId permanent ≠ id) (hremoves : Removes id s s') : Blocking fails permanent s' :=
  ⟨h.1.removes hne hremoves, fun hreadable => (h.2 hreadable).removes hremoves⟩

theorem meets_block {mode : UInt8} {tunnelActive ipv6LeakProtection : Bool} {serverIp : Option String}
    (hblock : shouldBlock mode tunnelActive = true) :
    Meets (act fails) alone KeepsBlocking (Unshared (killSwitchId (mode = 2)))
      (reconcileKillSwitch mode tunnelActive serverIp ipv6LeakProtection)
      fun r s => r = .ok () → Blocking fails (mode = 2) s := by
  have hmode : ¬ 2 < mode := by
    intro hlt
    simp only [shouldBlock, Bool.or_eq_true, decide_eq_true_eq, Bool.and_eq_true] at hblock
    rcases hblock with rfl | ⟨rfl, -⟩
    · exact absurd hlt (by decide)
    · exact absurd hlt (by decide)
  unfold reconcileKillSwitch
  rw [if_neg hmode, if_pos hblock]
  refine meets_andThen _ meets_ensureFullKillSwitch (fun _ _ _ => nofun) fun _ => ?_
  refine meets_andThen _ ((meets_removeOwnedConnectionsById (p := Blocking fails (mode = 2))
    ?_ ?_ keepsBlocking_refl).consequence (fun s hs => hs rfl) fun _ _ hs => hs)
    (fun _ _ _ => nofun) fun removed => ?_
  · exact fun s s' hs hremoves _ => ⟨_, hs.1.removes (killSwitchId_ne_ipv6 _) hremoves⟩
  · exact fun s s' hs hremoves => hs.removes (killSwitchId_ne_ipv6 _) hremoves
  · rcases serverIp with _ | serverIp
    · exact meets_pure (stable_alone _) fun s hs _ => hs.1
    · refine (meets_views fun s _ => views_modifyServerRoute keepsBlocking_refl serverIp _).consequence
        (fun _ hs => hs.1) fun _ _ hs _ => hs.1

/-- No kill switch of this agent is left, if every connection could be read. -/
def Unblocked (fails : Call → Prop) (s : Connections) : Prop :=
  Readable fails → ∀ permanent, Gone (killSwitchId permanent) s

theorem Unblocked.removes {id : String} {s s' : Connections} (h : Unblocked fails s)
    (hremoves : Removes id s s') : Unblocked fails s' :=
  fun hreadable permanent => (h hreadable permanent).removes hremoves

theorem meets_ensureIpv6LeakProtection :
    Meets (act fails) alone (fun _ _ => True) (Unblocked fails) ensureIpv6LeakProtection
      fun _ s => Unblocked fails s := by
  have hrefl : ∀ _ : Connections, True := fun _ => trivial
  refine meets_andThen _ (meets_views fun s _ => views_check (views_systemBus hrefl))
    (fun _ _ hs => hs.1) fun _ => ?_
  refine meets_andThen _ (meets_views fun s _ => views_disableConnectivityCheck hrefl s)
    (fun _ _ hs => hs.1.1) fun _ => ?_
  refine meets_andThen _ (meets_views fun s _ =>
    views_activeConnectionById hrefl IPV6_LEAK_CONNECTION_ID) (fun _ _ hs => hs.1.1.1) fun active => ?_
  rcases active with _ | path
  · refine (meets_activateOwn (p := Unblocked fails) hrefl ?_ _ _ _ ?_).consequence
      (fun _ hs => hs.1.1.1) fun _ _ hs => hs.1
    · refine fun s s' hs hgrows => ⟨trivial, fun hreadable permanent => ?_⟩
      exact (hs hreadable permanent).grows (killSwitchId_ne_ipv6 permanent) hgrows
    · exact decide_eq_true rfl
  · exact meets_pure (stable_alone _) fun s hs => hs.1.1.1

/-- Both kinds are removed, and what is gone stays gone. -/
theorem meets_unblock {mode : UInt8} {tunnelActive ipv6LeakProtection : Bool}
    {serverIp : Option String} (hblock : shouldBlock mode tunnelActive = false) :
    Meets (act fails) alone (fun _ _ => True) (fun _ => True)
      (reconcileKillSwitch mode tunnelActive serverIp ipv6LeakProtection)
      fun r s => r = .ok () → Unblocked fails s := by
  have hrefl : ∀ _ : Connections, True := fun _ => trivial
  unfold reconcileKillSwitch
  by_cases hmode : 2 < mode
  · rw [if_pos hmode]
    exact meets_pure (stable_alone _) fun _ _ => nofun
  rw [if_neg hmode, if_neg (by simp [hblock])]
  refine meets_andThen _ (meets_removeOwnedConnectionsById (p := fun _ => True)
    (fun _ _ _ _ => trivial) (fun _ _ _ _ => trivial) hrefl) (fun _ _ _ => nofun) fun standard => ?_
  refine meets_andThen _ ((meets_removeOwnedConnectionsById
    (p := fun s => Readable fails → Gone KILL_SWITCH_CONNECTION_ID s) (fun _ _ _ _ => trivial)
    (fun s s' hs hremoves hreadable => (hs hreadable).removes hremoves) hrefl).consequence
    (fun s hs => hs.2 _ rfl) fun _ _ hs => hs) (fun _ _ _ => nofun) fun permanent => ?_
  refine meets_andThen (fun _ s => Unblocked fails s) ?_ (fun _ _ _ => nofun) fun _ => ?_
  · have hunblocked (s : Connections) (hstandard : Readable fails → Gone KILL_SWITCH_CONNECTION_ID s)
        (hpermanent : Readable fails → Gone KILL_SWITCH_PERMANENT_CONNECTION_ID s) :
        Unblocked fails s := by
      rintro hreadable (_ | _)
      · exact hstandard hreadable
      · exact hpermanent hreadable
    split_ifs
    · rcases serverIp with _ | serverIp
      · exact meets_pure (stable_alone _) fun s hs => hunblocked s hs.1 (hs.2 _ rfl)
      · exact (meets_views fun s _ => views_modifyServerRoute hrefl serverIp false).consequence
          (fun s hs => hs) fun _ s hs => hunblocked s hs.1.1 (hs.1.2 _ rfl)
    · exact meets_pure (stable_alone _) fun s hs => hunblocked s hs.1 (hs.2 _ rfl)
  · split_ifs
    · exact meets_ensureIpv6LeakProtection.consequence (fun _ hs => hs) fun _ _ hs _ => hs
    · refine meets_andThen _ (meets_removeOwnedConnectionsById (p := Unblocked fails)
        (fun _ _ _ _ => trivial) (fun _ _ hs hremoves => hs.removes hremoves) hrefl)
        (fun _ _ _ => nofun) fun _ => meets_pure (stable_alone _) fun _ hs _ => hs.1

end reconcile

/-- The states that a reconciliation goes through. -/
abbrev Reconciliation := Pool Unit Call Call.Answer Connections (NativeResult Unit)

/-- **The kill switch fails closed.** Whatever calls fail: if blocking is wanted and every active
connection with the requested id is one of this agent, blocking does not stop in between, and after
success the requested kind is active; after success without blocking no kill switch is left. Connections
that cannot be read are not removed. -/
theorem reconcileKillSwitch_failClosed {fails : Call → Prop} {mode : UInt8}
    {tunnelActive ipv6LeakProtection : Bool} {serverIp : Option String} {s : Connections}
    {pool : Reconciliation}
    (hreach : Pool.Reach (networkManager fails) (.start (fun _ : Unit =>
      reconcileKillSwitch mode tunnelActive serverIp ipv6LeakProtection) s) pool) :
    (shouldBlock mode tunnelActive = true → Unshared (killSwitchId (mode = 2)) s →
        (Blocks s → Blocks pool.shared) ∧
          (pool.tasks () = .pure (.ok ()) → Blocking fails (mode = 2) pool.shared)) ∧
      (shouldBlock mode tunnelActive = false → pool.tasks () = .pure (.ok ()) →
        Unblocked fails pool.shared) := by
  have hone (i j : Unit) (hne : i ≠ j) : False := hne rfl
  have halone (_ : Unit) (s s' : Connections)
      (h : (networkManager fails).surroundings s s') : alone s s' := h
  refine ⟨fun hblock hunshared => ⟨fun hblocks => ?_, fun hok => ?_⟩, fun hblock hok => ?_⟩
  · exact reach_invariant (fun _ => meets_block hblock) (fun _ => hunshared)
      (fun i j hne => (hone i j hne).elim) halone hblocks (fun _ _ _ hs hguar => hguar hs)
      (fun _ _ _ (h : False) => h.elim) hreach
  · exact (reach_meets (fun _ => meets_block hblock) (fun _ => hunshared)
      (fun i j hne => (hone i j hne).elim) halone hreach ()).2 _ hok rfl
  · exact (reach_meets (fun _ => meets_unblock hblock) (fun _ => trivial)
      (fun i j hne => (hone i j hne).elim) halone hreach ()).2 _ hok rfl

/-! ## Runs -/

/-- The answers of a NetworkManager in which no call fails and no path is used but these. -/
def respond (paths : List String) :
    (call : Call) → Connections → Option (call.Answer × Connections)
  | .systemBus, s => some (.ok (), s)
  | .connectivityCheckEnabled, s => some (.ok false, s)
  | .setConnectivityCheckEnabled _, s => some (.ok (), s)
  | .activeConnections, s =>
    if s.active ⊆ paths.toFinset then some (.ok (paths.filter (· ∈ s.active)), s) else none
  | .activeId path, s =>
    if path ∈ s.active then some (.ok (s.activeSettings path).id, s) else none
  | .activeConnection path, s => if path ∈ s.active then some (.ok (s.profile path), s) else none
  | .listConnections, s =>
    if s.profiles ⊆ paths.toFinset then some (.ok (paths.filter (· ∈ s.profiles)), s) else none
  | .getSettings path, s => if path ∈ s.profiles then some (.ok (s.settings path), s) else none
  | .addConnection settings _, s =>
    (paths.find? (· ∉ s.profiles)).map fun path => (.ok path, s.add path settings)
  | .activateConnection path, s =>
    if h : path ∈ s.profiles then
      (paths.find? (· ∉ s.active)).map fun new => (.ok (), s.activate path h new)
    else none
  | .deactivateConnection path, s =>
    if path ∈ s.active then some (.ok (), s.deactivate path) else none
  | .delete path, s => if path ∈ s.profiles then some (.ok (), s.delete path) else none
  | .modifyServerRoute .., s => some (.ok (), s)

theorem toFinset_filter_of_subset {paths : List String} {used : Finset String}
    (h : used ⊆ paths.toFinset) : (paths.filter (· ∈ used)).toFinset = used := by
  ext path
  rw [List.mem_toFinset, List.mem_filter, decide_eq_true_eq]
  exact ⟨And.right, fun hpath => ⟨List.mem_toFinset.mp (h hpath), hpath⟩⟩

theorem act_of_respond {paths : List String} (call : Call) (s : Connections) (answer : call.Answer)
    (s' : Connections) (h : respond paths call s = some (answer, s')) :
    act (fun _ => False) call s answer s' := by
  cases call with
  | systemBus | connectivityCheckEnabled | setConnectivityCheckEnabled _ | modifyServerRoute _ _ =>
      cases h
      exact ⟨rfl, .inl ⟨_, rfl, trivial⟩⟩
  | activeConnections | listConnections =>
      simp only [respond] at h
      split_ifs at h with hsub
      cases h
      exact ⟨rfl, .inl ⟨_, rfl, toFinset_filter_of_subset hsub⟩⟩
  | activeId path | activeConnection path | getSettings path =>
      simp only [respond] at h
      split_ifs at h with hpath
      cases h
      exact ⟨rfl, .inl ⟨_, rfl, hpath, rfl⟩⟩
  | addConnection settings saved =>
      simp only [respond, Option.map_eq_some_iff] at h
      obtain ⟨path, hfind, heq⟩ := h
      cases heq
      exact .inl ⟨path, rfl, by simpa using List.find?_some hfind, rfl⟩
  | activateConnection path =>
      simp only [respond] at h
      split_ifs at h with hpath
      obtain ⟨new, hfind, heq⟩ := Option.map_eq_some_iff.mp h
      cases heq
      exact .inl ⟨(), rfl, hpath, new, by simpa using List.find?_some hfind, rfl⟩
  | deactivateConnection path | delete path =>
      simp only [respond] at h
      split_ifs at h with hpath
      cases h
      exact .inl ⟨(), rfl, hpath, rfl⟩

/-- A reconciliation without failing calls, after some steps. -/
def reconciled (mode : UInt8) (s : Connections) (steps : ℕ) : Reconciliation :=
  Pool.play (fun _ => respond ["/1", "/2", "/3"]) (List.replicate steps ())
    (.start (fun _ => reconcileKillSwitch mode true none true) s)

theorem reach_reconciled (mode : UInt8) (s : Connections) (steps : ℕ) :
    Pool.Reach (networkManager fun _ => False)
      (.start (fun _ : Unit => reconcileKillSwitch mode true none true) s) (reconciled mode s steps) :=
  Pool.reach_play (fun _ => act_of_respond) _ _

/-- The standard kill switch of this agent is active. -/
def standardActive : Connections where
  profiles := {"/1"}
  settings _ := killSwitchSettings KILL_SWITCH_CONNECTION_ID KILL_SWITCH_INTERFACE false
  active := {"/1"}
  profile := id
  profile_mem _ h := h

theorem own_standardActive (path : String) :
    Own KILL_SWITCH_CONNECTION_ID (standardActive.activeSettings path) :=
  ⟨rfl, decide_eq_true rfl⟩

/-- The standard kill switch is replaced by the permanent one. -/
theorem reconcileKillSwitch_failClosed_switch :
    Blocks (reconciled 2 standardActive 18).shared ∧
      Blocking (fun _ => False) true (reconciled 2 standardActive 28).shared := by
  have hunshared : Unshared (killSwitchId true) standardActive := by
    intro path _ hid
    exact absurd hid (killSwitchId_ne false)
  have hblocks : Blocks standardActive :=
    ⟨false, "/1", Finset.mem_singleton_self _, own_standardActive _⟩
  have hok : ((reconciled 2 standardActive 28).tasks ()).result? = some (.ok ()) := rfl
  constructor
  · exact ((reconcileKillSwitch_failClosed (reach_reconciled 2 standardActive 18)).1 rfl
      hunshared).1 hblocks
  · exact ((reconcileKillSwitch_failClosed (reach_reconciled 2 standardActive 28)).1 rfl
      hunshared).2 (Dialogue.eq_pure_of_result? hok)

/-- Beside it, another owner has an active connection with the id of the permanent kill switch. -/
def foreignActive : Connections where
  profiles := {"/1", "/2"}
  settings path :=
    if path = "/2" then
      { killSwitchSettings KILL_SWITCH_PERMANENT_CONNECTION_ID KILL_SWITCH_PERMANENT_INTERFACE true with
        stableId := none }
    else killSwitchSettings KILL_SWITCH_CONNECTION_ID KILL_SWITCH_INTERFACE false
  active := {"/1", "/2"}
  profile := id
  profile_mem _ h := h

/-- Although no call fails, the only active kill switch of this agent is removed where another owner's
active connection has the requested id. -/
theorem foreign_connection_relied_on :
    ¬ ∀ (fails : Call → Prop) (mode : UInt8) (tunnelActive ipv6LeakProtection : Bool)
      (serverIp : Option String) (s : Connections) (pool : Reconciliation),
      Pool.Reach (networkManager fails) (.start (fun _ : Unit =>
          reconcileKillSwitch mode tunnelActive serverIp ipv6LeakProtection) s) pool →
        shouldBlock mode tunnelActive = true → Blocks s → Blocks pool.shared := by
  intro h
  have hblocks : Blocks foreignActive := by
    refine ⟨false, "/1", Finset.mem_insert_self _ _, ?_, ?_⟩
    · rfl
    · exact decide_eq_true rfl
  obtain ⟨permanent, path, hpath, hid, howned⟩ :=
    h _ _ _ _ _ _ _ (reach_reconciled 2 foreignActive 14) rfl hblocks
  have hactive : (reconciled 2 foreignActive 14).shared.active = {"/2"} := by decide +kernel
  have hforeign : connectionOwned ((reconciled 2 foreignActive 14).shared.activeSettings "/2") = false :=
    by decide +kernel
  rw [hactive, Finset.mem_singleton] at hpath
  rw [hpath, hforeign] at howned
  cases howned

end ProtonVpnOmarchy.Agent.Network
