import ProtonVpnOmarchy.Agent.NativeError
import ProtonVpnOmarchy.Agent.Network.Profiles
import ProtonVpnOmarchy.Lib.Interleaving

/-!
# Connections of NetworkManager

The profiles and the active connections that NetworkManager holds, the calls of `network.rs` that read
and change them, and the functions there that look for a connection or remove one. Every call may fail,
by a parameter; one that fails may have had its effect.

* `views_activeConnectionById`, `views_activeOwnedConnectionById`,
  `views_settingsConnectionByIdOwned` — what is found.
* `meets_removeOwnedConnectionsById` — only connections of this agent with the id are removed, and all of
  them if every connection could be read.
-/

namespace ProtonVpnOmarchy.Agent.Network

open Lib Native

/-! ## The model -/

/-- The settings of a profile, as far as they are looked at or chosen here. -/
structure ConnectionSettings where
  id : String
  interfaceName : String
  autoconnect : Bool
  stableId : Option String
  deriving DecidableEq

/-- Source: `network.rs` `connection_owned` -/
def connectionOwned (settings : ConnectionSettings) : Bool :=
  settings.stableId = some PROTON_OMARCHY_STABLE_ID

/-- The profiles and the active connections, by their object paths; an active connection belongs to a
profile. -/
structure Connections where
  profiles : Finset String
  settings : String → ConnectionSettings
  active : Finset String
  profile : String → String
  profile_mem : ∀ path ∈ active, profile path ∈ profiles

/-- A call over D-Bus, or of `nmcli`. -/
inductive Call where
  /-- `Connection::new_system` -/
  | systemBus
  | connectivityCheckEnabled
  | setConnectivityCheckEnabled (enabled : Bool)
  | activeConnections
  /-- The property `Id` of an active connection -/
  | activeId (path : String)
  /-- The property `Connection` of an active connection -/
  | activeConnection (path : String)
  | listConnections
  | getSettings (path : String)
  /-- `add_connection`, or `add_connection_unsaved` -/
  | addConnection (settings : ConnectionSettings) (saved : Bool)
  | activateConnection (path : String)
  | deactivateConnection (path : String)
  | delete (path : String)
  /-- `modify_server_route`, which changes routes of physical devices only -/
  | modifyServerRoute (serverIp : String) (add : Bool)

/-- The result of a call, with the text of its error. -/
abbrev Call.Answer : Call → Type
  | .systemBus => Except String Unit
  | .connectivityCheckEnabled => Except String Bool
  | .setConnectivityCheckEnabled _ => Except String Unit
  | .activeConnections => Except String (List String)
  | .activeId _ => Except String String
  | .activeConnection _ => Except String String
  | .listConnections => Except String (List String)
  | .getSettings _ => Except String ConnectionSettings
  | .addConnection .. => Except String String
  | .activateConnection _ => Except String Unit
  | .deactivateConnection _ => Except String Unit
  | .delete _ => Except String Unit
  | .modifyServerRoute .. => NativeResult Unit

abbrev Task := Dialogue Call Call.Answer

/-- Make a call. -/
abbrev request (call : Call) : Task call.Answer := Dialogue.answer call

/-- Source: `network.rs` `nm_error` -/
def nmError (action error : String) : NativeError :=
  { code := "networkmanager_error"
    message := "Unable to " ++ action ++ " through NetworkManager"
    source := some error
    retryable := true }

/-- A call whose error is passed on. -/
def required {α : Type} (action : String) (task : Task (Except String α)) : Task (NativeResult α) := do
  return (← task).mapError (nmError action)

/-- Source: `network.rs` `active_connection_by_id`, among listed paths -/
def findActive (id : String) : List String → Task (Option String)
  | [] => return none
  | path :: paths => do
    if (← request (.activeId path)).toOption = some id then return some path
    else findActive id paths

/-- Source: `network.rs` `active_connection_by_id` -/
def activeConnectionById (id : String) : Task (NativeResult (Option String)) :=
  (required "list active NetworkManager connections" (request .activeConnections)).andThen
    fun paths => return .ok (← findActive id paths)

/-- Source: `network.rs` `active_owned_connection_by_id`, among listed paths -/
def findActiveOwned (id : String) : List String → Task (Option String)
  | [] => return none
  | path :: paths => do
    if (← request (.activeId path)).toOption ≠ some id then findActiveOwned id paths
    else
      match ← request (.activeConnection path) with
      | .error _ => findActiveOwned id paths
      | .ok profilePath =>
        if ((← request (.getSettings profilePath)).toOption.map connectionOwned).getD false then
          return some path
        else findActiveOwned id paths

/-- Source: `network.rs` `active_owned_connection_by_id` -/
def activeOwnedConnectionById (id : String) : Task (NativeResult (Option String)) :=
  (required "list active NetworkManager connections" (request .activeConnections)).andThen
    fun paths => return .ok (← findActiveOwned id paths)

/-- Source: `network.rs` `settings_connection_by_id_owned`, among listed paths -/
def findProfileOwned (id : String) : List String → Task (Option String)
  | [] => return none
  | path :: paths => do
    match ← request (.getSettings path) with
    | .error _ => findProfileOwned id paths
    | .ok values =>
      if values.id = id ∧ connectionOwned values then return some path
      else findProfileOwned id paths

/-- Source: `network.rs` `settings_connection_by_id_owned` -/
def settingsConnectionByIdOwned (id : String) : Task (NativeResult (Option String)) :=
  (required "list NetworkManager profiles" (request .listConnections)).andThen
    fun paths => return .ok (← findProfileOwned id paths)

/-- Source: `network.rs` `remove_owned_connections_by_id`, the active ones; the result says whether
there were any -/
def deactivateOwned (id : String) : Task (NativeResult Bool) :=
  .loop (fun removed : Bool => do
    match ← activeOwnedConnectionById id with
    | .error error => return .inr (.error error)
    | .ok none => return .inr (.ok removed)
    | .ok (some path) =>
      match ← request (.deactivateConnection path) with
      | .ok () => return .inl true
      | .error error =>
        match ← activeOwnedConnectionById id with
        | .error error => return .inr (.error error)
        | .ok (some _) =>
          return .inr (.error (nmError "deactivate Proton protection connection" error))
        | .ok none => return .inl true) false pure

/-- Source: `network.rs` `remove_owned_connections_by_id`, the profiles among listed paths -/
def deleteOwned (id : String) (removed : Bool) : List String → Task (NativeResult Bool)
  | [] => return .ok removed
  | path :: paths => do
    match ← request (.getSettings path) with
    | .error _ => deleteOwned id removed paths
    | .ok settings =>
      if settings.id = id ∧ connectionOwned settings then
        (required "remove Proton protection connection" (request (.delete path))).andThen
          fun _ => deleteOwned id true paths
      else deleteOwned id removed paths

/-- Source: `network.rs` `remove_owned_connections_by_id` -/
def removeOwnedConnectionsById (id : String) : Task (NativeResult Bool) :=
  (required "connect to NetworkManager" (request .systemBus)).andThen fun _ =>
    (deactivateOwned id).andThen fun removed =>
      (required "list NetworkManager profiles" (request .listConnections)).andThen
        fun paths => deleteOwned id removed paths

/-! ## What the calls do -/

namespace Connections

/-- A profile is added. -/
def add (s : Connections) (path : String) (settings : ConnectionSettings) : Connections where
  profiles := insert path s.profiles
  settings := Function.update s.settings path settings
  active := s.active
  profile := s.profile
  profile_mem other h := Finset.mem_insert_of_mem (s.profile_mem other h)

/-- A profile gets an active connection. -/
def activate (s : Connections) (path : String) (h : path ∈ s.profiles) (new : String) :
    Connections where
  profiles := s.profiles
  settings := s.settings
  active := insert new s.active
  profile := Function.update s.profile new path
  profile_mem other hother := by
    by_cases hnew : other = new
    · rw [hnew, Function.update_self]
      exact h
    · rw [Function.update_of_ne hnew]
      exact s.profile_mem other (Finset.mem_of_mem_insert_of_ne hother hnew)

/-- An active connection goes down. -/
def deactivate (s : Connections) (path : String) : Connections where
  profiles := s.profiles
  settings := s.settings
  active := s.active.erase path
  profile := s.profile
  profile_mem other h := s.profile_mem other (Finset.mem_of_mem_erase h)

/-- A profile is deleted, with what is active of it. -/
def delete (s : Connections) (path : String) : Connections where
  profiles := s.profiles.erase path
  settings := s.settings
  active := s.active.filter fun other => s.profile other ≠ path
  profile := s.profile
  profile_mem other h :=
    have h := Finset.mem_filter.mp h
    Finset.mem_erase.mpr ⟨h.2, s.profile_mem other h.1⟩

/-- The settings of an active connection. -/
def activeSettings (s : Connections) (path : String) : ConnectionSettings :=
  s.settings (s.profile path)

end Connections

/-- A profile of this agent with an id. -/
def Own (id : String) (settings : ConnectionSettings) : Prop :=
  settings.id = id ∧ connectionOwned settings = true

/-- A call that reads a value, or fails. -/
def Reads {α ε : Type} (fails : Prop) (value : α → Prop) (before : Connections)
    (answer : Except ε α) (after : Connections) : Prop :=
  after = before ∧
    ((∃ a, answer = .ok a ∧ value a) ∨ fails ∧ ∃ error, answer = .error error)

/-- A call with an effect; one that fails may have had it. -/
def Changes {α : Type} (fails : Prop) (effect : α → Connections → Prop) (before : Connections)
    (answer : Except String α) (after : Connections) : Prop :=
  (∃ a, answer = .ok a ∧ effect a after) ∨
    fails ∧ (∃ error, answer = .error error) ∧ (after = before ∨ ∃ a, effect a after)

/-- How a call acts on the connections. -/
def act (fails : Call → Prop) :
    (call : Call) → Connections → call.Answer → Connections → Prop
  | .systemBus, s, answer, s' => Reads (fails .systemBus) (fun _ => True) s answer s'
  | .connectivityCheckEnabled, s, answer, s' =>
    Reads (fails .connectivityCheckEnabled) (fun _ => True) s answer s'
  | .setConnectivityCheckEnabled enabled, s, answer, s' =>
    Reads (fails (.setConnectivityCheckEnabled enabled)) (fun _ => True) s answer s'
  | .activeConnections, s, answer, s' =>
    Reads (fails .activeConnections) (fun paths : List String => paths.toFinset = s.active) s
      answer s'
  | .activeId path, s, answer, s' =>
    Reads (fails (.activeId path) ∨ path ∉ s.active)
      (fun id => path ∈ s.active ∧ id = (s.activeSettings path).id) s answer s'
  | .activeConnection path, s, answer, s' =>
    Reads (fails (.activeConnection path) ∨ path ∉ s.active)
      (fun profile => path ∈ s.active ∧ profile = s.profile path) s answer s'
  | .listConnections, s, answer, s' =>
    Reads (fails .listConnections) (fun paths : List String => paths.toFinset = s.profiles) s
      answer s'
  | .getSettings path, s, answer, s' =>
    Reads (fails (.getSettings path) ∨ path ∉ s.profiles)
      (fun settings => path ∈ s.profiles ∧ settings = s.settings path) s answer s'
  | .addConnection settings saved, s, answer, s' =>
    Changes (fails (.addConnection settings saved))
      (fun path after => path ∉ s.profiles ∧ after = s.add path settings) s answer s'
  | .activateConnection path, s, answer, s' =>
    Changes (fails (.activateConnection path) ∨ path ∉ s.profiles)
      (fun _ after => ∃ (h : path ∈ s.profiles) (new : String),
        new ∉ s.active ∧ after = s.activate path h new) s answer s'
  | .deactivateConnection path, s, answer, s' =>
    Changes (fails (.deactivateConnection path) ∨ path ∉ s.active)
      (fun _ after => path ∈ s.active ∧ after = s.deactivate path) s answer s'
  | .delete path, s, answer, s' =>
    Changes (fails (.delete path) ∨ path ∉ s.profiles)
      (fun _ after => path ∈ s.profiles ∧ after = s.delete path) s answer s'
  | .modifyServerRoute serverIp add, s, answer, s' =>
    Reads (fails (.modifyServerRoute serverIp add)) (fun _ => True) s answer s'

/-- NetworkManager, with one client. -/
def networkManager (fails : Call → Prop) : Machine Unit Call Call.Answer Connections where
  act _ := act fails
  surroundings _ _ := False

/-- The properties of every connection can be read. -/
structure Readable (fails : Call → Prop) : Prop where
  activeId : ∀ path, ¬ fails (.activeId path)
  activeConnection : ∀ path, ¬ fails (.activeConnection path)
  getSettings : ∀ path, ¬ fails (.getSettings path)

/-! ## What is found -/

/-- There is one client only. -/
def alone : Connections → Connections → Prop := fun _ _ => False

theorem stable_alone (p : Connections → Prop) : Stable alone p := fun _ _ _ h => h.elim

section views

variable {fails : Call → Prop} {guar : Connections → Connections → Prop} {s : Connections}
  {α β : Type}

/-- A piece of a program that only reads, with what it finds. -/
def Views (fails : Call → Prop) (guar : Connections → Connections → Prop) (s : Connections)
    (result : α → Prop) (task : Task α) : Prop :=
  Meets (act fails) alone guar (· = s) task fun a s' => result a ∧ s' = s

theorem views_pure {result : α → Prop} {a : α} (h : result a) :
    Views fails guar s result (pure a) :=
  meets_pure (stable_alone _) fun _ hs => ⟨h, hs⟩

theorem views_bind (result : α → Prop) {task : Task α} {next : α → Task β} {result' : β → Prop}
    (h : Views fails guar s result task)
    (hnext : ∀ a, result a → Views fails guar s result' (next a)) :
    Views fails guar s result' (task >>= next) := by
  refine meets_bind (fun a s' => result a ∧ s' = s) h fun a => ?_
  by_cases ha : result a
  · exact (hnext a ha).consequence (fun _ hs => hs.2) fun _ _ hs => hs
  · exact fun s' hs => absurd hs.1 ha

theorem Views.mono {result result' : α → Prop} {task : Task α}
    (h : Views fails guar s result task) (himp : ∀ a, result a → result' a) :
    Views fails guar s result' task :=
  h.consequence (fun _ hs => hs) fun a _ hs => ⟨himp a hs.1, hs.2⟩

theorem views_andThen (result : NativeResult α → Prop) {task : Task (NativeResult α)}
    {next : α → Task (NativeResult β)} {result' : NativeResult β → Prop}
    (h : Views fails guar s result task)
    (herror : ∀ error, result (.error error) → result' (.error error))
    (hnext : ∀ a, result (.ok a) → Views fails guar s result' (next a)) :
    Views fails guar s result' (task.andThen next) := by
  refine views_bind result h ?_
  rintro (error | a) hr
  · exact views_pure (herror error hr)
  · exact hnext a hr

variable (hguar : ∀ s, guar s s)

include hguar

theorem views_request {call : Call} (result : call.Answer → Prop)
    (h : ∀ answer s', act fails call s answer s' → s' = s ∧ result answer) :
    Views fails guar s result (request call) := by
  refine meets_ask (fun answer s' => result answer ∧ s' = s) (stable_alone _) ?_
    fun _ => meets_pure (stable_alone _) fun _ hs => hs
  rintro _ answer s' rfl hact
  obtain ⟨rfl, hanswer⟩ := h answer s' hact
  exact ⟨hguar _, hanswer, rfl⟩

theorem views_activeId {path : String} (hpath : path ∈ s.active) :
    Views fails guar s (fun r => r = .ok (s.activeSettings path).id ∨
      fails (.activeId path) ∧ ∃ error, r = .error error) (request (.activeId path)) := by
  apply views_request hguar
  rintro answer s' ⟨rfl, ⟨id, rfl, -, rfl⟩ | ⟨hfails, herror⟩⟩
  · exact ⟨rfl, .inl rfl⟩
  · exact ⟨rfl, .inr ⟨hfails.resolve_right (not_not_intro hpath), herror⟩⟩

theorem views_activeConnection {path : String} (hpath : path ∈ s.active) :
    Views fails guar s (fun r => r = .ok (s.profile path) ∨
      fails (.activeConnection path) ∧ ∃ error, r = .error error)
      (request (.activeConnection path)) := by
  apply views_request hguar
  rintro answer s' ⟨rfl, ⟨profile, rfl, -, rfl⟩ | ⟨hfails, herror⟩⟩
  · exact ⟨rfl, .inl rfl⟩
  · exact ⟨rfl, .inr ⟨hfails.resolve_right (not_not_intro hpath), herror⟩⟩

theorem views_getSettings (path : String) :
    Views fails guar s (fun r => path ∈ s.profiles ∧ r = .ok (s.settings path) ∨
      (fails (.getSettings path) ∨ path ∉ s.profiles) ∧ ∃ error, r = .error error)
      (request (.getSettings path)) := by
  apply views_request hguar
  rintro answer s' ⟨rfl, ⟨settings, rfl, hpath, rfl⟩ | herror⟩
  · exact ⟨rfl, .inl ⟨hpath, rfl⟩⟩
  · exact ⟨rfl, .inr herror⟩

theorem views_findActive (id : String) {paths : List String} (hpaths : ∀ path ∈ paths, path ∈ s.active) :
    Views fails guar s (fun r => ∀ path, r = some path →
      path ∈ s.active ∧ (s.activeSettings path).id = id) (findActive id paths) := by
  induction paths with
  | nil => exact views_pure nofun
  | cons path paths ih =>
      obtain ⟨hpath, hpaths⟩ := List.forall_mem_cons.mp hpaths
      refine views_bind _ (views_activeId hguar hpath) fun r hr => ?_
      split_ifs with hid
      · refine views_pure ?_
        rintro _ ⟨⟩
        rcases hr with rfl | ⟨-, error, rfl⟩
        · exact ⟨hpath, Option.some.inj hid⟩
        · cases hid
      · exact ih hpaths

theorem views_findActiveOwned (id : String) {paths : List String}
    (hpaths : ∀ path ∈ paths, path ∈ s.active) :
    Views fails guar s (fun r => (∀ path, r = some path →
        path ∈ s.active ∧ Own id (s.activeSettings path)) ∧
      (r = none → Readable fails → ∀ path ∈ paths, ¬ Own id (s.activeSettings path)))
      (findActiveOwned id paths) := by
  induction paths with
  | nil => exact views_pure ⟨nofun, fun _ _ => nofun⟩
  | cons path paths ih =>
      obtain ⟨hpath, hpaths⟩ := List.forall_mem_cons.mp hpaths
      -- The path is passed over, because it is not one of this agent or cannot be read.
      have hpass (h : Readable fails → ¬ Own id (s.activeSettings path)) :
          Views fails guar s (fun r => (∀ path, r = some path →
              path ∈ s.active ∧ Own id (s.activeSettings path)) ∧
            (r = none → Readable fails → ∀ other ∈ path :: paths, ¬ Own id (s.activeSettings other)))
            (findActiveOwned id paths) :=
        (ih hpaths).mono fun r hr => ⟨hr.1, fun hnone hreadable =>
          List.forall_mem_cons.mpr ⟨h hreadable, hr.2 hnone hreadable⟩⟩
      refine views_bind _ (views_activeId hguar hpath) fun r hr => ?_
      split_ifs with hid
      · refine hpass fun hreadable hown => hid ?_
        rcases hr with rfl | ⟨hfails, -⟩
        · exact congrArg some hown.1
        · exact absurd hfails (hreadable.activeId path)
      · have hpathId : (s.activeSettings path).id = id := by
          rcases hr with rfl | ⟨-, error, rfl⟩
          · exact Option.some.inj (not_not.mp hid)
          · exact absurd (not_not.mp hid) nofun
        refine views_bind _ (views_activeConnection hguar hpath) ?_
        rintro _ (rfl | ⟨hfails, error, rfl⟩)
        · refine views_bind _ (views_getSettings hguar (s.profile path)) fun settings hsettings => ?_
          split_ifs with howned
          · refine views_pure ⟨?_, nofun⟩
            rintro _ ⟨⟩
            rcases hsettings with ⟨-, rfl⟩ | ⟨-, error, rfl⟩
            · exact ⟨hpath, hpathId, howned⟩
            · cases howned
          · refine hpass fun hreadable hown => howned ?_
            rcases hsettings with ⟨-, rfl⟩ | ⟨hfails | hgone, -⟩
            · exact hown.2
            · exact absurd hfails (hreadable.getSettings _)
            · exact absurd (s.profile_mem path hpath) hgone
        · exact hpass fun hreadable => absurd hfails (hreadable.activeConnection path)

theorem views_findProfileOwned (id : String) (paths : List String) :
    Views fails guar s (fun r => ∀ path, r = some path →
      path ∈ s.profiles ∧ Own id (s.settings path)) (findProfileOwned id paths) := by
  induction paths with
  | nil => exact views_pure nofun
  | cons path paths ih =>
      refine views_bind _ (views_getSettings hguar path) ?_
      rintro _ (⟨hpath, rfl⟩ | ⟨-, error, rfl⟩)
      · show Views _ _ _ _ (if _ then _ else _)
        split_ifs with hown
        · refine views_pure ?_
          rintro _ ⟨⟩
          exact ⟨hpath, hown⟩
        · exact ih
      · exact ih

omit hguar in
theorem views_required {listed : Finset String} {action : String}
    {listing : Task (Except String (List String))}
    (h : Views fails guar s (fun r => ∀ paths, r = .ok paths → paths.toFinset = listed) listing) :
    Views fails guar s (fun r => ∀ paths, r = .ok paths → paths.toFinset = listed)
      (required action listing) := by
  refine views_bind _ h fun r hr => views_pure fun paths hpaths => ?_
  rcases r with error | listing
  · cases hpaths
  · cases hpaths
    exact hr _ rfl

omit hguar in
/-- Something is looked for among what a call lists. -/
theorem views_search {listed : Finset String} {action : String}
    {listing : Task (Except String (List String))} {find : List String → Task (Option String)}
    {result : Option String → Prop}
    (hlisting : Views fails guar s (fun r => ∀ paths, r = .ok paths → paths.toFinset = listed) listing)
    (hfind : ∀ paths : List String, paths.toFinset = listed → Views fails guar s result (find paths)) :
    Views fails guar s (fun r => ∀ found, r = .ok found → result found)
      ((required action listing).andThen fun paths => return .ok (← find paths)) := by
  refine views_andThen _ (views_required hlisting) (fun _ _ => nofun) fun paths hpaths => ?_
  refine views_bind _ (hfind paths (hpaths _ rfl)) fun found hfound => views_pure ?_
  rintro _ ⟨⟩
  exact hfound

omit hguar in
/-- A call that is for its success only. -/
theorem views_check {action : String} {task : Task (Except String Unit)}
    (h : Views fails guar s (fun _ => True) task) :
    Views fails guar s (fun _ => True) (required action task) :=
  views_bind _ h fun _ _ => views_pure trivial

theorem views_systemBus : Views fails guar s (fun _ => True) (request .systemBus) :=
  views_request hguar _ fun _ _ hact => ⟨hact.1, trivial⟩

theorem views_activeConnections :
    Views fails guar s (fun r => ∀ paths, r = .ok paths → paths.toFinset = s.active)
      (request .activeConnections) := by
  apply views_request hguar
  rintro answer s' ⟨rfl, ⟨paths, rfl, hpaths⟩ | ⟨-, error, rfl⟩⟩
  · refine ⟨rfl, ?_⟩
    rintro _ ⟨⟩
    exact hpaths
  · exact ⟨rfl, nofun⟩

theorem views_listConnections :
    Views fails guar s (fun r => ∀ paths, r = .ok paths → paths.toFinset = s.profiles)
      (request .listConnections) := by
  apply views_request hguar
  rintro answer s' ⟨rfl, ⟨paths, rfl, hpaths⟩ | ⟨-, error, rfl⟩⟩
  · refine ⟨rfl, ?_⟩
    rintro _ ⟨⟩
    exact hpaths
  · exact ⟨rfl, nofun⟩

theorem views_activeConnectionById (id : String) :
    Views fails guar s (fun r => ∀ found, r = .ok found → ∀ path, found = some path →
      path ∈ s.active ∧ (s.activeSettings path).id = id) (activeConnectionById id) := by
  refine views_search (views_activeConnections hguar) fun paths hpaths => ?_
  exact views_findActive hguar id fun path hmem => hpaths ▸ List.mem_toFinset.mpr hmem

theorem views_activeOwnedConnectionById (id : String) :
    Views fails guar s (fun r => ∀ found, r = .ok found →
      (∀ path, found = some path → path ∈ s.active ∧ Own id (s.activeSettings path)) ∧
        (found = none → Readable fails → ∀ path ∈ s.active, ¬ Own id (s.activeSettings path)))
      (activeOwnedConnectionById id) := by
  refine views_search (views_activeConnections hguar) fun paths hpaths => ?_
  refine (views_findActiveOwned hguar id ?_).mono fun found hfound => ⟨hfound.1, ?_⟩
  · exact fun path hmem => hpaths ▸ List.mem_toFinset.mpr hmem
  · rw [← hpaths]
    exact fun hnone hreadable path hmem => hfound.2 hnone hreadable path (List.mem_toFinset.mp hmem)

theorem views_settingsConnectionByIdOwned (id : String) :
    Views fails guar s (fun r => ∀ found, r = .ok found → ∀ path, found = some path →
      path ∈ s.profiles ∧ Own id (s.settings path)) (settingsConnectionByIdOwned id) :=
  views_search (views_listConnections hguar) fun paths _ => views_findProfileOwned hguar id paths

end views

/-! ## What is removed -/

/-- Only connections of this agent with an id are removed. -/
structure Removes (id : String) (before after : Connections) : Prop where
  settings : after.settings = before.settings
  profile : after.profile = before.profile
  profiles : after.profiles ⊆ before.profiles
  active : after.active ⊆ before.active
  kept_profiles : ∀ path ∈ before.profiles, ¬ Own id (before.settings path) → path ∈ after.profiles
  kept_active : ∀ path ∈ before.active, ¬ Own id (before.activeSettings path) → path ∈ after.active

/-- No connection of this agent with an id is active or saved. -/
structure Gone (id : String) (s : Connections) : Prop where
  active : ∀ path ∈ s.active, ¬ Own id (s.activeSettings path)
  profiles : ∀ path ∈ s.profiles, ¬ Own id (s.settings path)

theorem Removes.refl (id : String) (s : Connections) : Removes id s s :=
  ⟨rfl, rfl, Finset.Subset.refl _, Finset.Subset.refl _, fun _ h _ => h, fun _ h _ => h⟩

theorem Removes.activeSettings {id : String} {s s' : Connections} (h : Removes id s s')
    (path : String) : s'.activeSettings path = s.activeSettings path := by
  rw [Connections.activeSettings, Connections.activeSettings, h.settings, h.profile]

theorem removes_deactivate {id path : String} {s : Connections}
    (hown : Own id (s.activeSettings path)) : Removes id s (s.deactivate path) where
  settings := rfl
  profile := rfl
  profiles := Finset.Subset.refl _
  active := Finset.erase_subset _ _
  kept_profiles _ h _ := h
  kept_active _ h hother := Finset.mem_erase.mpr ⟨fun heq => hother (heq ▸ hown), h⟩

theorem removes_delete {id path : String} {s : Connections} (hown : Own id (s.settings path)) :
    Removes id s (s.delete path) where
  settings := rfl
  profile := rfl
  profiles := Finset.erase_subset _ _
  active := Finset.filter_subset _ _
  kept_profiles other h hother := Finset.mem_erase.mpr ⟨fun heq => hother (heq ▸ hown), h⟩
  kept_active other h hother := Finset.mem_filter.mpr ⟨h, fun heq => hother (by
    rw [Connections.activeSettings, heq]
    exact hown)⟩

theorem Gone.removes {id id' : String} {s s' : Connections} (h : Gone id s)
    (hremoves : Removes id' s s') : Gone id s' where
  active path hpath := by
    rw [hremoves.activeSettings]
    exact h.active path (hremoves.active hpath)
  profiles path hpath := by
    rw [hremoves.settings]
    exact h.profiles path (hremoves.profiles hpath)

/-- What is left to delete is among the paths. -/
def Left (id : String) (paths : List String) (s : Connections) : Prop :=
  (∀ path ∈ s.active, ¬ Own id (s.activeSettings path)) ∧
    ∀ path ∈ s.profiles, Own id (s.settings path) → path ∈ paths

/-- A path is passed over that is nothing to delete. -/
theorem Left.pass {id path : String} {paths : List String} {s : Connections}
    (h : Left id (path :: paths) s) (hpath : path ∈ s.profiles → ¬ Own id (s.settings path)) :
    Left id paths s := by
  refine ⟨h.1, fun other hother hown => (List.mem_cons.mp (h.2 other hother hown)).resolve_left ?_⟩
  rintro rfl
  exact hpath hother hown

theorem Left.delete {id path : String} {paths : List String} {s : Connections}
    (h : Left id (path :: paths) s) (hown : Own id (s.settings path)) :
    Left id paths (s.delete path) := by
  refine ⟨fun other hother => h.1 other ((removes_delete hown).active hother),
    fun other hother hother' => ?_⟩
  obtain ⟨hne, hmem⟩ := Finset.mem_erase.mp hother
  exact (List.mem_cons.mp (h.2 other hmem hother')).resolve_left hne

section remove

variable {fails : Call → Prop} {guar : Connections → Connections → Prop} {α β : Type} {id : String}
  {p : Connections → Prop}

/-- A piece that only reads, where the state is not known. -/
theorem meets_views {result : Connections → α → Prop} {task : Task α}
    (h : ∀ s, p s → Views fails guar s (result s) task) :
    Meets (act fails) alone guar p task fun a s => p s ∧ result s a := by
  intro s hs n d' s' hevolves
  obtain ⟨hguar, hresult⟩ := h s hs s rfl n d' s' hevolves
  refine ⟨hguar, fun a ha => ?_⟩
  obtain ⟨hr, rfl⟩ := hresult a ha
  exact ⟨hs, hr⟩

theorem meets_andThen {task : Task (NativeResult α)} {next : α → Task (NativeResult β)}
    {post : NativeResult β → Connections → Prop} (mid : NativeResult α → Connections → Prop)
    (h : Meets (act fails) alone guar p task mid)
    (herror : ∀ error s, mid (.error error) s → post (.error error) s)
    (hnext : ∀ a, Meets (act fails) alone guar (mid (.ok a)) (next a) post) :
    Meets (act fails) alone guar p (task.andThen next) post := by
  refine meets_bind mid h ?_
  rintro (error | a)
  · exact meets_pure (stable_alone _) fun s hs => herror error s hs
  · exact hnext a

variable (hguar : ∀ s s', p s → Removes id s s' → guar s s')
  (hp : ∀ s s', p s → Removes id s s' → p s')

include hguar hp

/-- A call that removes a connection of this agent, if it does anything. -/
theorem meets_removal {call : Call} {q : Connections → Prop}
    (hact : ∀ s answer s', q s → act fails call s answer s' → Removes id s s') :
    Meets (act fails) alone guar (fun s => p s ∧ q s) (request call) fun _ => p := by
  refine meets_ask (fun _ => p) (stable_alone _) ?_
    fun _ => meets_pure (stable_alone _) fun _ hs => hs
  intro s answer s' hs hstep
  have hremoves := hact s answer s' hs.2 hstep
  exact ⟨hguar s s' hs.1 hremoves, hp s s' hs.1 hremoves⟩

theorem meets_deactivateConnection (path : String) :
    Meets (act fails) alone guar (fun s => p s ∧ Own id (s.activeSettings path))
      (request (.deactivateConnection path)) fun _ => p := by
  apply meets_removal hguar hp
  rintro s answer s' hown (⟨_, -, -, rfl⟩ | ⟨-, -, rfl | ⟨_, -, rfl⟩⟩)
  · exact removes_deactivate hown
  · exact .refl id _
  · exact removes_deactivate hown

theorem meets_delete (path : String) :
    Meets (act fails) alone guar (fun s => p s ∧ Own id (s.settings path))
      (request (.delete path)) fun _ => p := by
  apply meets_removal hguar hp
  rintro s answer s' hown (⟨_, -, -, rfl⟩ | ⟨-, -, rfl | ⟨_, -, rfl⟩⟩)
  · exact removes_delete hown
  · exact .refl id _
  · exact removes_delete hown

variable (hrefl : ∀ s, guar s s)

include hrefl

theorem meets_deactivateOwned :
    Meets (act fails) alone guar p (deactivateOwned id) fun r s => p s ∧
      ∀ removed, r = .ok removed → Readable fails →
        ∀ path ∈ s.active, ¬ Own id (s.activeSettings path) := by
  refine meets_loop (fun _ => p) (fun r s => p s ∧ ∀ removed, r = .ok removed → Readable fails →
    ∀ path ∈ s.active, ¬ Own id (s.activeSettings path)) (fun _ => stable_alone _) (fun removed => ?_)
    fun _ => meets_pure (stable_alone _) fun _ hs => hs
  refine meets_bind _ (meets_views fun s _ => views_activeOwnedConnectionById hrefl id) ?_
  rintro (error | (_ | path))
  · exact meets_pure (stable_alone _) fun s hs => ⟨hs.1, nofun⟩
  · refine meets_pure (stable_alone _) fun s hs => ⟨hs.1, ?_⟩
    exact fun _ _ hreadable => (hs.2 _ rfl).2 rfl hreadable
  · refine meets_bind (fun _ => p) ?_ ?_
    · refine (meets_deactivateConnection hguar hp path).consequence (fun s hs => ?_) fun _ _ hs => hs
      exact ⟨hs.1, ((hs.2 _ rfl).1 path rfl).2⟩
    · rintro (error | _)
      · refine meets_bind _ (meets_views fun s _ => views_activeOwnedConnectionById hrefl id) ?_
        rintro (error | (_ | path))
        · exact meets_pure (stable_alone _) fun s hs => ⟨hs.1, nofun⟩
        · exact meets_pure (stable_alone _) fun s hs => hs.1
        · exact meets_pure (stable_alone _) fun s hs => ⟨hs.1, nofun⟩
      · exact meets_pure (stable_alone _) fun s hs => hs

theorem meets_requiredDelete {action path : String} (paths : List String) :
    Meets (act fails) alone guar
      (fun s => (p s ∧ (Readable fails → Left id (path :: paths) s)) ∧ Own id (s.settings path))
      (required action (request (.delete path))) fun r s => p s ∧
        ∀ a, r = .ok a → Readable fails → Left id paths s := by
  refine meets_ask (fun answer s => p s ∧ ∀ a, answer = .ok a → Readable fails → Left id paths s)
    (stable_alone _) ?_ ?_
  · rintro s answer s' ⟨⟨hs, hleft⟩, hown⟩ (⟨_, -, -, rfl⟩ | ⟨-, ⟨error, rfl⟩, rfl | ⟨_, -, rfl⟩⟩)
    · have hremoves := removes_delete hown
      refine ⟨hguar _ _ hs hremoves, hp _ _ hs hremoves, fun _ _ hreadable => ?_⟩
      exact (hleft hreadable).delete hown
    · exact ⟨hrefl _, hs, nofun⟩
    · have hremoves := removes_delete hown
      exact ⟨hguar _ _ hs hremoves, hp _ _ hs hremoves, nofun⟩
  · rintro (error | _)
    · exact meets_pure (stable_alone _) fun s hs => ⟨hs.1, nofun⟩
    · exact meets_pure (stable_alone _) fun s hs => ⟨hs.1, fun _ _ => hs.2 _ rfl⟩

theorem meets_deleteOwned (removed : Bool) (paths : List String) :
    Meets (act fails) alone guar (fun s => p s ∧ (Readable fails → Left id paths s))
      (deleteOwned id removed paths) fun r s => p s ∧
        ∀ removed, r = .ok removed → Readable fails → Gone id s := by
  induction paths generalizing removed with
  | nil =>
      refine meets_pure (stable_alone _) fun s hs => ⟨hs.1, fun _ _ hreadable => ?_⟩
      obtain ⟨hactive, hprofiles⟩ := hs.2 hreadable
      exact ⟨hactive, fun path hpath hown => List.not_mem_nil (hprofiles path hpath hown)⟩
  | cons path paths ih =>
      refine meets_bind _ (meets_views fun s _ => views_getSettings hrefl path) ?_
      rintro (error | settings)
      · refine (ih removed).consequence ?_ fun _ _ hs => hs
        rintro s ⟨⟨hs, hleft⟩, ⟨-, hok⟩ | ⟨hunread, -⟩⟩
        · cases hok
        · refine ⟨hs, fun hreadable => (hleft hreadable).pass fun hpath => ?_⟩
          exact absurd hunread (not_or.mpr ⟨hreadable.getSettings _, not_not_intro hpath⟩)
      · show Meets _ _ _ _ (if _ then _ else _) _
        split_ifs with hown
        · refine meets_bind _ ((meets_requiredDelete hguar hp hrefl paths).consequence ?_
            fun _ _ hs => hs) ?_
          · rintro s ⟨hs, ⟨-, hok⟩ | ⟨-, error, herror⟩⟩
            · cases hok
              exact ⟨hs, hown⟩
            · cases herror
          · rintro (error | _)
            · exact meets_pure (stable_alone _) fun s hs => ⟨hs.1, nofun⟩
            · exact (ih true).consequence (fun s hs => ⟨hs.1, hs.2 _ rfl⟩) fun _ _ hs => hs
        · refine (ih removed).consequence ?_ fun _ _ hs => hs
          rintro s ⟨⟨hs, hleft⟩, ⟨-, hok⟩ | ⟨-, error, herror⟩⟩
          · cases hok
            exact ⟨hs, fun hreadable => (hleft hreadable).pass fun _ => hown⟩
          · cases herror

/-- Only connections of this agent with the id are removed, and all of them if every connection could be
read. -/
theorem meets_removeOwnedConnectionsById :
    Meets (act fails) alone guar p (removeOwnedConnectionsById id) fun r s => p s ∧
      ∀ removed, r = .ok removed → Readable fails → Gone id s := by
  refine meets_andThen _ (meets_views fun s _ => views_check (views_systemBus hrefl))
    (fun _ _ hs => ⟨hs.1, nofun⟩) fun _ => ?_
  refine meets_andThen _ ((meets_deactivateOwned hguar hp hrefl).consequence (fun _ hs => hs.1)
    fun _ _ hs => hs) (fun _ _ hs => ⟨hs.1, nofun⟩) fun removed => ?_
  refine meets_andThen _ (meets_views fun s _ => views_required (views_listConnections hrefl))
    (fun _ _ hs => ⟨hs.1.1, nofun⟩) fun paths => ?_
  refine (meets_deleteOwned hguar hp hrefl removed paths).consequence ?_ fun _ _ hs => hs
  rintro s ⟨⟨hs, hactive⟩, hpaths⟩
  refine ⟨hs, fun hreadable => ⟨hactive _ rfl hreadable, fun path hpath _ => ?_⟩⟩
  rw [← hpaths _ rfl] at hpath
  exact List.mem_toFinset.mp hpath

end remove

end ProtonVpnOmarchy.Agent.Network
