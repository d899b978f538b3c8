import ProtonVpnOmarchy.Agent.Network.RoundTrip
import ProtonVpnOmarchy.Agent.Network.Tunnels

/-!
# Whose tunnels are touched

A path or a UUID that was read in one call is used in a later one, when the connection may be gone. What
an answer tells for all times (`Tells`) makes the later call proper.

* `changed_of_act` — what a call can have changed.
* `act_spares` — a proper call changes nothing that is not of this agent.
* `cares_connect`, `cares_disconnectUuid`, `cares_cleanupGuestProfiles` — the programs make proper calls
  only.
* `spares_operations` — so do any operations, one after the other.
-/

namespace ProtonVpnOmarchy.Agent.Network.Tunnels

open Lib Native

/-! ## What is not of this agent -/

section ownership

variable {naming : Naming} {fails : Call → Prop} {outside : Outside} {α β : Type}

/-- Nothing that is not of this agent changes. -/
structure Spares (w w' : World naming) : Prop where
  profiles : w'.profiles.filter (naming.mine · = false) = w.profiles.filter (naming.mine · = false)
  settings : ∀ path ∈ w.profiles, naming.mine path = false → w'.settings path = w.settings path
  active : w'.active.filter (fun path => naming.mine (naming.profile path) = false) =
    w.active.filter (fun path => naming.mine (naming.profile path) = false)

theorem Spares.rfl {w : World naming} : Spares w w := ⟨Eq.refl _, fun _ _ _ => Eq.refl _, Eq.refl _⟩

/-- A call that may change something only of this agent. -/
def Proper (naming : Naming) : Call → Prop
  | .addConnectionUnsaved settings => profileOwned settings = true
  | .activateConnection path _ => naming.mine path = true
  | .deactivateConnection path => naming.mine (naming.profile path) = true
  | .delete path => naming.mine path = true
  | _ => True

/-- What an answer tells for all times. -/
def Tells (naming : Naming) : (call : Call) → call.Answer → Prop
  | .activeConnection path, .ok profile => profile = naming.profile path
  | .activeUuid path, .ok uuid => naming.drawn uuid = naming.mine (naming.profile path)
  | .getSettings path, .ok settings => naming.mine path = profileOwned settings ∧
      ∀ uuid, connectionString settings "uuid" = some uuid → naming.drawn uuid = naming.mine path
  | .addConnectionUnsaved settings, .ok path => naming.mine path = profileOwned settings
  | _, _ => True

theorem Changes.cases {answerType : Type} {failing : Prop} {effect : answerType → World naming → Prop}
    {w w' : World naming} {answer : Except String answerType}
    (h : Changes failing effect w answer w') : w' = w ∨ ∃ a, effect a w' := by
  rcases h with ⟨a, -, heffect⟩ | ⟨-, -, hsame | heffect⟩
  · exact .inr ⟨a, heffect⟩
  · exact .inl hsame
  · exact .inr heffect

theorem data_eq {w' : World naming} {profiles active credentials : Finset String}
    {settings : String → Settings} (h : w'.data = (profiles, settings, active, credentials)) :
    w'.profiles = profiles ∧ w'.settings = settings ∧ w'.active = active ∧
      w'.credentials = credentials := by
  simpa [World.data] using h

/-- What a call can have changed. -/
inductive Changed : Call → World naming → World naming → Prop
  | same {call : Call} {w : World naming} : Changed call w w
  | added {settings : Settings} {path : String} {w w' : World naming} (hnew : path ∉ w.profiles)
      (hprofiles : w'.profiles = insert path w.profiles)
      (hsettings : w'.settings = Function.update w.settings path settings)
      (hactive : w'.active = w.active) : Changed (.addConnectionUnsaved settings) w w'
  | activated {path specificObject new : String} {w w' : World naming}
      (hprofile : naming.profile new = path) (hprofiles : w'.profiles = w.profiles)
      (hsettings : w'.settings = w.settings) (hactive : w'.active = insert new w.active) :
      Changed (.activateConnection path specificObject) w w'
  | deactivated {path : String} {w w' : World naming} (hprofiles : w'.profiles = w.profiles)
      (hsettings : w'.settings = w.settings) (hactive : w'.active = w.active.erase path) :
      Changed (.deactivateConnection path) w w'
  | deleted {path : String} {w w' : World naming} (hprofiles : w'.profiles = w.profiles.erase path)
      (hsettings : w'.settings = w.settings)
      (hactive : w'.active = w.active.filter (naming.profile · ≠ path)) :
      Changed (.delete path) w w'
  | cleaned {uuid : String} {w w' : World naming} (hprofiles : w'.profiles = w.profiles)
      (hsettings : w'.settings = w.settings) (hactive : w'.active = w.active) :
      Changed (.cleanupCredentials uuid) w w'

theorem changed_of_act {call : Call} {w w' : World naming} {answer : call.Answer}
    (hact : act naming fails call w answer w') : Changed call w w' := by
  cases call with
  | addConnectionUnsaved settings =>
      unfold act at hact
      rcases hact.cases with rfl | ⟨path, hnew, hdata⟩
      · exact .same
      · obtain ⟨hprofiles, hsettings, hactive, -⟩ := data_eq hdata
        exact .added hnew hprofiles hsettings hactive
  | activateConnection path specificObject =>
      unfold act at hact
      rcases hact.cases with rfl | ⟨new, -, -, hprofile, hdata⟩
      · exact .same
      · obtain ⟨hprofiles, hsettings, hactive, -⟩ := data_eq hdata
        exact .activated hprofile hprofiles hsettings hactive
  | deactivateConnection path =>
      unfold act at hact
      rcases hact.cases with rfl | ⟨_, -, hdata⟩
      · exact .same
      · obtain ⟨hprofiles, hsettings, hactive, -⟩ := data_eq hdata
        exact .deactivated hprofiles hsettings hactive
  | delete path =>
      unfold act at hact
      rcases hact.cases with rfl | ⟨_, -, hdata⟩
      · exact .same
      · obtain ⟨hprofiles, hsettings, hactive, -⟩ := data_eq hdata
        exact .deleted hprofiles hsettings hactive
  | cleanupCredentials uuid =>
      rcases hact with rfl | hdata
      · exact .same
      · obtain ⟨hprofiles, hsettings, hactive, -⟩ := data_eq hdata
        exact .cleaned hprofiles hsettings hactive
  | _ =>
      obtain rfl : w' = w := hact.1
      exact .same

theorem mine_of_add {w w' : World naming} {path : String} {settings : Settings}
    (hprofiles : w'.profiles = insert path w.profiles)
    (hsettings : w'.settings = Function.update w.settings path settings) :
    naming.mine path = profileOwned settings := by
  have hmem : path ∈ w'.profiles := by simp [hprofiles]
  simpa [hsettings] using w'.mine_eq path hmem

/-- **A proper call** changes nothing that is not of this agent. -/
theorem act_spares {call : Call} (hproper : Proper naming call) {w w' : World naming}
    {answer : call.Answer} (hact : act naming fails call w answer w') : Spares w w' := by
  cases changed_of_act hact with
  | same => exact .rfl
  | added hnew hprofiles hsettings hactive =>
      have hmine := (mine_of_add hprofiles hsettings).trans hproper
      refine ⟨?_, fun other hother _ => ?_, by rw [hactive]⟩
      · rw [hprofiles, Finset.filter_insert, if_neg (by simp [hmine])]
      · rw [hsettings, Function.update_of_ne (ne_of_mem_of_not_mem hother hnew)]
  | @activated _ _ new _ _ hprofile hprofiles hsettings hactive =>
      have hmine : naming.mine (naming.profile new) = true := by
        rw [hprofile]
        exact hproper
      refine ⟨by rw [hprofiles], fun _ _ _ => by rw [hsettings], ?_⟩
      rw [hactive, Finset.filter_insert, if_neg (by simp [hmine])]
  | @deactivated path _ _ hprofiles hsettings hactive =>
      have hmine : naming.mine (naming.profile path) = true := hproper
      refine ⟨by rw [hprofiles], fun _ _ _ => by rw [hsettings], ?_⟩
      rw [hactive, Finset.filter_erase, Finset.erase_eq_of_notMem (by simp [hmine])]
  | @deleted path _ _ hprofiles hsettings hactive =>
      have hmine : naming.mine path = true := hproper
      refine ⟨?_, fun _ _ _ => by rw [hsettings], ?_⟩
      · rw [hprofiles, Finset.filter_erase, Finset.erase_eq_of_notMem (by simp [hmine])]
      · rw [hactive, Finset.filter_filter]
        refine Finset.filter_congr fun other _ => ?_
        constructor
        · exact fun h => h.2
        · refine fun h => ⟨?_, h⟩
          rintro rfl
          rw [hmine] at h
          cases h
  | cleaned hprofiles hsettings hactive =>
      exact ⟨by rw [hprofiles], fun _ _ _ => by rw [hsettings], by rw [hactive]⟩

theorem act_tells {call : Call} {w w' : World naming} {answer : call.Answer}
    (hact : act naming fails call w answer w') : Tells naming call answer := by
  cases call with
  | activeConnection path =>
      rcases hact.2 with ⟨profile, rfl, -, hprofile⟩ | ⟨-, error, rfl⟩
      · exact hprofile
      · exact trivial
  | activeUuid path =>
      rcases hact.2 with ⟨uuid, rfl, hmem, huuid⟩ | ⟨-, error, rfl⟩
      · exact w.drawn_eq _ (w.profile_mem path hmem) uuid huuid
      · exact trivial
  | getSettings path =>
      rcases hact.2 with ⟨settings, rfl, hmem, rfl⟩ | ⟨-, error, rfl⟩
      · exact ⟨w.mine_eq path hmem, w.drawn_eq path hmem⟩
      · exact trivial
  | addConnectionUnsaved settings =>
      rcases hact with ⟨path, rfl, -, hdata⟩ | ⟨-, ⟨error, rfl⟩, -⟩
      · obtain ⟨hprofiles, hsettings, -, -⟩ := data_eq hdata
        exact mine_of_add hprofiles hsettings
      · exact trivial
  | _ => exact trivial

/-! ## Programs that make proper calls only -/

/-- Whatever others do, every step of a program spares what is not of this agent; and what is known of
its result. -/
def Cares (naming : Naming) (fails : Call → Prop) (result : α → Prop) (task : Task α) : Prop :=
  Meets (act naming fails) (fun _ _ => True) Spares (fun _ => True) task fun a _ => result a

theorem cares_pure {result : α → Prop} {a : α} (h : result a) :
    Cares naming fails result (pure a) :=
  meets_pure (fun _ _ h _ => h) fun _ _ => h

theorem cares_bind {result : α → Prop} {result' : β → Prop} {task : Task α} {next : α → Task β}
    (h : Cares naming fails result task)
    (hnext : ∀ a, result a → Cares naming fails result' (next a)) :
    Cares naming fails result' (task >>= next) := by
  refine meets_bind (fun a _ => result a) h fun a => ?_
  by_cases ha : result a
  · exact (hnext a ha).consequence (fun _ _ => trivial) fun _ _ h => h
  · exact fun _ h => absurd h ha

theorem Cares.mono {result result' : α → Prop} {task : Task α} (h : Cares naming fails result task)
    (himp : ∀ a, result a → result' a) : Cares naming fails result' task :=
  h.consequence (fun _ h => h) fun a _ => himp a

theorem cares_request (call : Call) (hproper : Proper naming call) :
    Cares naming fails (Tells naming call) (request call) := by
  refine meets_ask (fun answer _ => Tells naming call answer) (fun _ _ _ _ => trivial) ?_ ?_
  · exact fun w answer w' _ hact => ⟨act_spares hproper hact, act_tells hact⟩
  · exact fun answer => meets_pure (fun _ _ h _ => h) fun _ h => h

/-- A call, and what follows each answer. -/
theorem cares_ask {call : Call} {result : β → Prop} {next : call.Answer → Task β}
    (hproper : Proper naming call)
    (hnext : ∀ answer, Tells naming call answer → Cares naming fails result (next answer)) :
    Cares naming fails result (request call >>= next) :=
  cares_bind (cares_request call hproper) hnext

theorem cares_andThen {result : NativeResult α → Prop} {result' : NativeResult β → Prop}
    {task : Task (NativeResult α)} {next : α → Task (NativeResult β)}
    (h : Cares naming fails result task) (herror : ∀ error, result' (.error error))
    (hnext : ∀ a, result (.ok a) → Cares naming fails result' (next a)) :
    Cares naming fails result' (task.andThen next) := by
  refine cares_bind h ?_
  rintro (error | a) ha
  · exact cares_pure (herror error)
  · exact hnext a ha

/-- A call of which only the error matters. -/
theorem cares_required {action : String} {task : Task (Except String α)}
    {result : Except String α → Prop}
    (h : Cares naming fails result task) :
    Cares naming fails (fun _ => True) (required action task) :=
  cares_bind h fun _ _ => cares_pure trivial

/-- An observation whose paths and UUID are those of one active connection. -/
def Sound (naming : Naming) (observation : TunnelObservation) : Prop :=
  ∀ activePath, observation.activePath = some activePath →
    (∀ path, observation.connectionPath = some path → path = naming.profile activePath) ∧
    ∀ uuid, observation.uuid = some uuid → naming.drawn uuid = naming.mine (naming.profile activePath)

theorem cares_isLookedFor {uuid : Option String} {path : String} {settings : Settings} :
    Cares naming fails (fun _ => True) (isLookedFor uuid path settings) := by
  cases uuid with
  | none => exact cares_pure trivial
  | some uuid => exact cares_ask trivial fun _ _ => cares_pure trivial

theorem cares_observeActive {uuid : Option String} {path : String} :
    Cares naming fails (fun found => ∀ observation, found = some observation → Sound naming observation)
      (observeActive outside uuid path) := by
  have hnone : Cares naming fails
      (fun found => ∀ observation, found = some observation → Sound naming observation)
      (pure none) := cares_pure (by rintro _ ⟨⟩)
  refine cares_ask trivial fun vpn _ => ?_
  split_ifs
  · exact hnone
  refine cares_ask trivial fun connection hconnection => ?_
  rcases connection with error | connectionPath
  · exact hnone
  refine cares_ask trivial fun read _ => ?_
  rcases read with error | settings
  · exact hnone
  refine cares_bind cares_isLookedFor fun lookedFor _ => ?_
  dsimp only
  split
  · exact hnone
  split
  · exact hnone
  refine cares_ask trivial fun vpnState _ => ?_
  refine cares_ask trivial fun id _ => ?_
  refine cares_ask trivial fun read huuid => cares_pure ?_
  rintro _ ⟨⟩ activePath ⟨⟩
  refine ⟨?_, ?_⟩
  · rintro path ⟨⟩
    exact hconnection
  · intro uuid hread
    rcases read with error | value
    · cases hread
    · obtain rfl := Option.some.inj hread
      exact huuid

theorem cares_observeAmong {uuid : Option String} (paths : List String) :
    Cares naming fails (Sound naming) (observeAmong outside uuid paths) := by
  induction paths with
  | nil => exact cares_pure (by rintro _ ⟨⟩)
  | cons path paths ih =>
      refine cares_bind cares_observeActive fun found hfound => ?_
      cases found with
      | none => exact ih
      | some observation => exact cares_pure (hfound observation rfl)

/-- An observation that is sound, if there is one. -/
def SoundResult (naming : Naming) (result : NativeResult TunnelObservation) : Prop :=
  ∀ observation, result = .ok observation → Sound naming observation

theorem cares_observeMatching {uuid : Option String} :
    Cares naming fails (SoundResult naming) (observeMatching outside uuid) := by
  refine cares_andThen (cares_required (cares_request _ trivial)) (by rintro _ _ ⟨⟩) fun _ _ => ?_
  refine cares_andThen (cares_required (cares_request _ trivial)) (by rintro _ _ ⟨⟩) fun paths _ => ?_
  refine cares_bind (cares_observeAmong paths) fun observation hsound => cares_pure ?_
  rintro _ ⟨⟩
  exact hsound

theorem cares_bestParent : Cares naming fails (fun _ => True) bestParent := by
  refine cares_ask trivial fun primary _ => ?_
  rcases primary with error | primary
  · exact cares_pure trivial
  dsimp only
  split_ifs
  · exact cares_pure trivial
  refine cares_ask trivial fun kind _ => ?_
  rcases kind with error | kind
  · exact cares_pure trivial
  · exact cares_pure trivial

theorem cares_cleanupCredentials {profile : NewProfile} :
    Cares naming fails (fun _ => True) profile.cleanupCredentials := by
  unfold NewProfile.cleanupCredentials
  split_ifs
  · exact (cares_request (.cleanupCredentials profile.uuid) trivial).mono fun _ _ => trivial
  · exact cares_pure trivial

theorem cares_connect {profile : NewProfile} :
    Cares naming fails (fun _ => True) (connect profile) := by
  refine cares_andThen (cares_required (cares_request _ trivial)) (fun _ => trivial) fun _ _ => ?_
  refine cares_ask profile.owned fun added hadded => ?_
  rcases added with error | connectionPath
  · exact cares_bind cares_cleanupCredentials fun _ _ => cares_pure trivial
  have hmine : naming.mine connectionPath = true := hadded.trans profile.owned
  refine cares_bind cares_bestParent fun parent _ => ?_
  refine cares_ask hmine fun activated _ => ?_
  rcases activated with error | activePath
  · refine cares_ask hmine fun _ _ => ?_
    exact cares_bind cares_cleanupCredentials fun _ _ => cares_pure trivial
  · exact cares_pure trivial

theorem cares_disconnectObservation {observation : TunnelObservation}
    (hsound : Sound naming observation) {uuid : String} (huuid : observation.uuid = some uuid)
    (hdrawn : naming.drawn uuid = true) :
    Cares naming fails (fun _ => True) (disconnectObservation observation) := by
  unfold disconnectObservation
  cases hactive : observation.activePath with
  | none => exact cares_pure trivial
  | some activePath =>
      obtain ⟨hpath, hmine⟩ := hsound activePath hactive
      have hproper : naming.mine (naming.profile activePath) = true :=
        (hmine uuid huuid).symm.trans hdrawn
      dsimp only
      refine cares_andThen (cares_required (cares_request .systemBus trivial)) (fun _ => trivial)
        fun _ _ => ?_
      refine cares_andThen
        (cares_required (cares_request (.deactivateConnection activePath) hproper))
        (fun _ => trivial) fun _ _ => ?_
      cases hconnection : observation.connectionPath with
      | none => exact cares_pure trivial
      | some connectionPath =>
          obtain rfl := hpath connectionPath hconnection
          exact cares_ask hproper fun _ _ => cares_pure trivial

theorem cares_deleteAmong {uuid : String} (paths : List String) :
    Cares naming fails (fun _ => True) (deleteAmong uuid paths) := by
  induction paths with
  | nil => exact cares_pure trivial
  | cons path paths ih =>
      refine cares_ask trivial fun read hread => ?_
      rcases read with error | values
      · exact ih
      dsimp only
      split_ifs with howned
      · have hproper : naming.mine path = true := hread.1.trans howned.2
        exact cares_andThen (cares_required (cares_request _ hproper)) (fun _ => trivial) fun _ _ => ih
      · exact ih

theorem cares_disconnectUuid {uuid : String} (hdrawn : naming.drawn uuid = true) :
    Cares naming fails (fun _ => True) (disconnectUuid outside uuid) := by
  have hobserved : Cares naming fails (fun _ => True) (disconnectObserved outside uuid) := by
    refine cares_andThen cares_observeMatching (fun _ => trivial) fun observation hsound => ?_
    split_ifs with huuid
    · exact cares_disconnectObservation (hsound observation rfl) huuid hdrawn
    · exact cares_pure trivial
  have hdeleted : Cares naming fails (fun _ => True) (deleteInactiveOwnedProfile uuid) := by
    refine cares_andThen (cares_required (cares_request _ trivial)) (fun _ => trivial) fun _ _ => ?_
    exact cares_andThen (cares_required (cares_request _ trivial)) (fun _ => trivial) fun paths _ =>
      cares_deleteAmong paths
  refine cares_andThen hobserved (fun _ => trivial) fun disconnected _ => ?_
  refine cares_ask trivial fun _ _ => ?_
  exact cares_andThen hdeleted (fun _ => trivial) fun _ _ => cares_pure trivial

theorem cares_cleanupAmong {uid : String} (paths : List String) :
    Cares naming fails (fun _ => True) (cleanupAmong outside uid paths) := by
  induction paths with
  | nil => exact cares_pure trivial
  | cons path paths ih =>
      refine cares_ask trivial fun read hread => ?_
      rcases read with error | values
      · exact ih
      dsimp only
      split_ifs with hguest
      · cases huuid : connectionString values "uuid" with
        | none => exact ih
        | some uuid =>
            have howned : profileOwned values = true := (Bool.and_eq_true_iff.mp hguest).2
            have hdrawn : naming.drawn uuid = true :=
              (hread.2 uuid huuid).trans (hread.1.trans howned)
            exact cares_andThen (cares_disconnectUuid hdrawn) (fun _ => trivial) fun _ _ => ih
      · exact ih

theorem cares_cleanupGuestProfiles (uid : String) :
    Cares naming fails (fun _ => True) (cleanupGuestProfiles outside uid) := by
  refine cares_andThen (cares_required (cares_request _ trivial)) (fun _ => trivial) fun _ _ => ?_
  exact cares_andThen (cares_required (cares_request _ trivial)) (fun _ => trivial) fun paths _ =>
    cares_cleanupAmong paths

end ownership

/-! ## Operations -/

/-- What the rest of the agent asks of NetworkManager about its tunnels. -/
inductive Operation where
  | observe
  | observeUuid (uuid : String)
  | connect (profile : NewProfile)
  | disconnectUuid (uuid : String)
  | cleanupGuestProfiles (uid : String)

/-- An operation, whose result is left to the rest of the agent. -/
def Operation.task (outside : Outside) : Operation → Task Unit
  | .observe => do let _ ← Tunnels.observe outside
  | .observeUuid uuid => do let _ ← Tunnels.observeUuid outside uuid
  | .connect profile => do let _ ← Tunnels.connect profile
  | .disconnectUuid uuid => do let _ ← Tunnels.disconnectUuid outside uuid
  | .cleanupGuestProfiles uid => do let _ ← Tunnels.cleanupGuestProfiles outside uid

/-- Operations, one after the other. -/
def operate (outside : Outside) : List Operation → Task Unit
  | [] => return ()
  | operation :: operations => do
    operation.task outside
    operate outside operations

/-- A disconnection is asked for a UUID of this agent. -/
def Operation.Draws (naming : Naming) : Operation → Prop
  | .disconnectUuid uuid => naming.drawn uuid = true
  | _ => True

theorem cares_operation {naming : Naming} {fails : Call → Prop} {outside : Outside}
    {operation : Operation} (h : operation.Draws naming) :
    Cares naming fails (fun _ => True) (operation.task outside) := by
  cases operation with
  | observe => exact cares_bind cares_observeMatching fun _ _ => cares_pure trivial
  | observeUuid uuid => exact cares_bind cares_observeMatching fun _ _ => cares_pure trivial
  | connect profile => exact cares_bind cares_connect fun _ _ => cares_pure trivial
  | disconnectUuid uuid => exact cares_bind (cares_disconnectUuid h) fun _ _ => cares_pure trivial
  | cleanupGuestProfiles uid =>
      exact cares_bind (cares_cleanupGuestProfiles uid) fun _ _ => cares_pure trivial

/-- **Whatever operations are asked for**, whatever fails and whatever others do between two calls, no
call changes a profile or an active connection that is not of this agent. -/
theorem spares_operations {naming : Naming} {fails : Call → Prop} {outside : Outside}
    {operations : List Operation} (h : ∀ operation ∈ operations, operation.Draws naming) :
    Meets (act naming fails) (fun _ _ => True) Spares (fun _ => True)
      (operate outside operations) fun _ _ => True := by
  induction operations with
  | nil => exact cares_pure trivial
  | cons operation operations ih =>
      refine cares_bind (cares_operation (h operation List.mem_cons_self)) fun _ _ => ?_
      exact ih fun other hother => h other (List.mem_cons_of_mem _ hother)

/-- The first profile and every active connection are of this agent. -/
def firstIsMine : Naming where
  mine path := path = "/1"
  profile _ := "/1"
  drawn uuid := uuid = "u"

/-- No disconnection touches another profile. -/
theorem spares_operations_firstIsMine :
    Meets (act firstIsMine fun _ => False) (fun _ _ => True) Spares (fun _ => True)
      (operate fineOutside
        [.connect (.guest "u" "\x7b\x7d" "key" "proton0" "1000"), .disconnectUuid "u",
          .cleanupGuestProfiles "1000"])
      fun _ _ => True :=
  spares_operations (by
    intro operation hmem
    simp only [List.mem_cons, List.not_mem_nil, or_false] at hmem
    rcases hmem with rfl | rfl | rfl
    · exact trivial
    · exact rfl
    · exact trivial)

end ProtonVpnOmarchy.Agent.Network.Tunnels
