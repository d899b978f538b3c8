import ProtonVpnOmarchy.Agent.Network.Ownership
import ProtonVpnOmarchy.Lib.Orderly

/-!
# Which profiles are gone

Profiles are listed, then read and deleted one by one, while others change NetworkManager. As long as
nobody else adds a profile of the kind that is removed, the ones that are still to be looked at shrink
with every answer.

* `brings_deleteAmong`, `brings_cleanupAmong` — the two loops, by induction on the listed paths.
* `removes_disconnectUuid` — after a disconnection that succeeds no profile has the UUID.
* `removes_cleanupGuestProfiles` — after a cleanup that succeeds there is no recovery profile of the
  user.
-/

namespace ProtonVpnOmarchy.Agent.Network.Tunnels

open Lib Native Dialogue

section removal

variable {naming : Naming} {fails : Call → Prop} {outside : Outside} {kind : Settings → Prop}
  {q : String → Settings → Prop} {w w' : World naming} {α β : Type}

/-- Nobody else adds a profile of a kind, or makes one of another. -/
def Leaves (kind : Settings → Prop) (w w' : World naming) : Prop :=
  ∀ path ∈ w'.profiles, kind (w'.settings path) →
    path ∈ w.profiles ∧ w'.settings path = w.settings path

/-- What is known of all profiles of a kind. -/
def Every (kind : Settings → Prop) (q : String → Settings → Prop) (w : World naming) : Prop :=
  ∀ path ∈ w.profiles, kind (w.settings path) → q path (w.settings path)

theorem Every.mono {q' : String → Settings → Prop} (h : Every kind q w)
    (himp : ∀ path ∈ w.profiles, kind (w.settings path) → q path (w.settings path) →
      q' path (w.settings path)) : Every kind q' w :=
  fun path hmem hkind => himp path hmem hkind (h path hmem hkind)

theorem every_stable : Stable (Leaves kind) (Every kind q : World naming → Prop) := by
  intro w w' h hleaves path hmem hkind
  obtain ⟨hbefore, hsettings⟩ := hleaves path hmem hkind
  rw [hsettings] at hkind ⊢
  exact h path hbefore hkind

/-- A call that adds no profile. -/
def Shrinks : Call → Prop
  | .addConnectionUnsaved _ => False
  | _ => True

/-- After a call that adds none, the profiles are some of those before, with their settings. -/
theorem shrinks_act {call : Call} (h : Shrinks call) {answer : call.Answer}
    (hact : act naming fails call w answer w') :
    w'.profiles ⊆ w.profiles ∧ w'.settings = w.settings := by
  cases changed_of_act hact with
  | same => exact ⟨subset_rfl, rfl⟩
  | added => exact h.elim
  | activated _ hprofiles hsettings => exact ⟨hprofiles.subset, hsettings⟩
  | deactivated hprofiles hsettings => exact ⟨hprofiles.subset, hsettings⟩
  | deleted hprofiles hsettings =>
      exact ⟨hprofiles.trans_subset (Finset.erase_subset _ _), hsettings⟩
  | cleaned hprofiles hsettings => exact ⟨hprofiles.subset, hsettings⟩

theorem every_act (call : Call) (h : Shrinks call) {answer : call.Answer} (hevery : Every kind q w)
    (hact : act naming fails call w answer w') : Every kind q w' := by
  obtain ⟨hprofiles, hsettings⟩ := shrinks_act h hact
  intro path hmem hkind
  rw [hsettings] at hkind ⊢
  exact hevery path (hprofiles hmem) hkind

/-! ## Programs that add no profile -/

theorem only_required {action : String} {task : Task (Except String α)} (h : Only Shrinks task) :
    Only Shrinks (required action task) :=
  only_bind h fun _ => trivial

theorem only_isLookedFor (uuid : Option String) (path : String) (settings : Settings) :
    Only Shrinks (isLookedFor uuid path settings) := by
  cases uuid with
  | none => exact trivial
  | some uuid => exact ⟨trivial, fun _ => trivial⟩

theorem only_ask {call : Call} {next : call.Answer → Task α} (hcall : Shrinks call)
    (hnext : ∀ answer, Only Shrinks (next answer)) : Only Shrinks (request call >>= next) :=
  only_bind ⟨hcall, fun _ => trivial⟩ hnext

theorem only_observeActive (uuid : Option String) (path : String) :
    Only Shrinks (observeActive outside uuid path) := by
  refine only_ask trivial fun vpn => ?_
  split_ifs
  · exact trivial
  refine only_ask trivial ?_
  rintro (error | connectionPath)
  · exact trivial
  refine only_ask trivial ?_
  rintro (error | settings)
  · exact trivial
  refine only_bind (only_isLookedFor uuid path settings) fun lookedFor => ?_
  split
  · exact trivial
  split
  · exact trivial
  · exact only_ask trivial fun _ => only_ask trivial fun _ => only_ask trivial fun _ => trivial

theorem only_observeAmong (uuid : Option String) (paths : List String) :
    Only Shrinks (observeAmong outside uuid paths) := by
  induction paths with
  | nil => exact trivial
  | cons path paths ih =>
      refine only_bind (only_observeActive uuid path) ?_
      rintro (_ | observation)
      · exact ih
      · exact trivial

theorem only_disconnectObservation (observation : TunnelObservation) :
    Only Shrinks (disconnectObservation observation) := by
  unfold disconnectObservation
  rcases observation.activePath with _ | activePath
  · exact trivial
  refine only_andThen (only_required ⟨trivial, fun _ => trivial⟩) fun _ => ?_
  refine only_andThen (only_required ⟨trivial, fun _ => trivial⟩) fun _ => ?_
  rcases observation.connectionPath with _ | connectionPath
  · exact trivial
  · exact ⟨trivial, fun _ => trivial⟩

theorem only_disconnectObserved (uuid : String) :
    Only Shrinks (disconnectObserved outside uuid) := by
  have hobserved : Only Shrinks (observeMatching outside (some uuid)) := by
    refine only_andThen (only_required ⟨trivial, fun _ => trivial⟩) fun _ => ?_
    refine only_andThen (only_required ⟨trivial, fun _ => trivial⟩) fun paths => ?_
    exact only_bind (only_observeAmong _ paths) fun _ => trivial
  refine only_andThen hobserved fun observation => ?_
  split_ifs
  · exact only_disconnectObservation observation
  · exact trivial

/-! ## What is removed -/

/-- A program as it is judged here: as long as others leave the profiles of a kind alone, what is
known of them before and after. -/
abbrev Brings (naming : Naming) (fails : Call → Prop) (kind : Settings → Prop)
    (q : String → Settings → Prop) (task : Task α) (post : α → World naming → Prop) : Prop :=
  Meets (act naming fails) (Leaves kind) (fun _ _ => True) (Every kind q) task post

theorem brings_of_only {task : Task α} (h : Only Shrinks task) :
    Brings naming fails kind q task fun _ => Every kind q :=
  h.meets every_stable fun _ _ _ _ hshrinks hevery hact =>
    ⟨trivial, every_act _ hshrinks hevery hact⟩

/-- A call, whose answer says more about the profiles. -/
theorem brings_request (call : Call) {q' : call.Answer → String → Settings → Prop}
    (hact : ∀ w answer (w' : World naming), Every kind q w → act naming fails call w answer w' →
      Every kind (q' answer) w') :
    Brings naming fails kind q (request call) fun answer => Every kind (q' answer) := by
  refine meets_ask (fun answer => Every kind (q' answer)) every_stable ?_ ?_
  · exact fun w answer w' hevery hstep => ⟨trivial, hact w answer w' hevery hstep⟩
  · exact fun answer => meets_pure every_stable fun _ h => h

theorem brings_andThen {task : Task (NativeResult α)} {next : α → Task (NativeResult β)}
    {q' : α → String → Settings → Prop} {post : NativeResult β → World naming → Prop}
    (h : Brings naming fails kind q task fun result w => ∀ a, result = .ok a → Every kind (q' a) w)
    (herror : ∀ error w, post (.error error) w)
    (hnext : ∀ a, Brings naming fails kind (q' a) (next a) post) :
    Brings naming fails kind q (task.andThen next) post := by
  refine meets_bind (fun result w => ∀ a, result = .ok a → Every kind (q' a) w) h ?_
  rintro (error | a)
  · exact meets_pure (fun _ w' _ _ => herror error w') fun w _ => herror error w
  · exact (hnext a).consequence (fun w h => h a rfl) fun _ _ h => h

/-- The program comes to a result that is no error; what was known is known. -/
theorem brings_ok {value : β} :
    Brings naming fails kind q (Pure.pure (Except.ok value) : Task (NativeResult β)) fun result w =>
      ∀ a, result = .ok a → Every kind q w := by
  refine meets_pure ?_ fun _ h _ _ => h
  exact fun w w' h hrely a ha => every_stable w w' (h a ha) hrely

theorem brings_only_andThen {task : Task (NativeResult α)} {next : α → Task (NativeResult β)}
    {post : NativeResult β → World naming → Prop} (h : Only Shrinks task)
    (herror : ∀ error w, post (.error error) w)
    (hnext : ∀ a, Brings naming fails kind q (next a) post) :
    Brings naming fails kind q (task.andThen next) post := by
  refine brings_andThen ?_ herror hnext
  exact (brings_of_only h).consequence (fun _ h => h) fun _ _ h _ _ => h

theorem brings_required {action : String} {task : Task (Except String α)}
    {q' : Except String α → String → Settings → Prop}
    (h : Brings naming fails kind q task fun answer => Every kind (q' answer)) :
    Brings naming fails kind q (required action task) fun result w =>
      ∀ a, result = .ok a → Every kind (q' (.ok a)) w := by
  refine meets_bind (fun answer => Every kind (q' answer)) h ?_
  rintro (error | a)
  · refine meets_pure (fun _ _ _ _ => by rintro _ ⟨⟩) fun _ _ => by rintro _ ⟨⟩
  · refine meets_pure ?_ ?_
    · intro w w' hresult hrely _ ha
      obtain rfl : a = _ := Except.ok.inj ha
      exact every_stable w w' (hresult a rfl) hrely
    · intro w hevery _ ha
      obtain rfl : a = _ := Except.ok.inj ha
      exact hevery

/-! ## The profiles with a UUID -/

/-- The settings have a UUID. -/
abbrev HasUuid (uuid : String) (settings : Settings) : Prop :=
  connectionString settings "uuid" = some uuid

/-- Profiles of the kind that have the UUID are of this agent. -/
def OwnedWith (naming : Naming) (kind : Settings → Prop) (uuid : String) : Prop :=
  ∀ (w : World naming), ∀ path ∈ w.profiles, kind (w.settings path) →
    HasUuid uuid (w.settings path) → profileOwned (w.settings path) = true

/-- What is known after the settings of a profile were asked for, among profiles to look at. -/
theorem every_getSettings {q : String → Settings → Prop} {path : String}
    (hread : ∀ path, ¬ fails (.getSettings path)) {answer : Except String Settings}
    (hevery : Every kind q w) (hact : act naming fails (.getSettings path) w answer w') :
    Every kind (fun other settings => q other settings ∧
      (other = path → answer = .ok settings)) w' := by
  obtain ⟨rfl, ⟨settings, rfl, hmem, rfl⟩ | ⟨hfails, error, rfl⟩⟩ := hact
  · refine hevery.mono fun other _ _ hq => ⟨hq, ?_⟩
    rintro rfl
    rfl
  · refine hevery.mono fun other hother _ hq => ⟨hq, ?_⟩
    rintro rfl
    exact absurd hother (hfails.resolve_left (hread _))

/-- A profile that was deleted without an error is gone. -/
theorem every_delete {q : String → Settings → Prop} {path : String} {answer : Except String Unit}
    (hevery : Every kind q w) (hact : act naming fails (.delete path) w answer w') :
    Every kind (fun other settings => q other settings ∧ (answer = .ok () → other ≠ path)) w' := by
  intro other hother hkind
  refine ⟨every_act (.delete path) trivial hevery hact other hother hkind, ?_⟩
  rintro rfl rfl
  rcases hact with ⟨_, -, -, hdata⟩ | ⟨-, ⟨error, herror⟩, -⟩
  · obtain ⟨hprofiles, -, -, -⟩ := data_eq hdata
    rw [hprofiles] at hother
    exact Finset.notMem_erase _ _ hother
  · cases herror

/-- Every profile is listed. -/
theorem every_listConnections {answer : Except String (List String)} (hevery : Every kind q w)
    (hact : act naming fails .listConnections w answer w') :
    Every kind (fun path settings => q path settings ∧ ∀ paths, answer = .ok paths → path ∈ paths)
      w' := by
  obtain ⟨rfl, ⟨paths, rfl, hpaths⟩ | ⟨-, error, rfl⟩⟩ := hact
  · refine hevery.mono fun path hmem _ hq => ⟨hq, ?_⟩
    rintro _ ⟨⟩
    rwa [← hpaths, List.mem_toFinset] at hmem
  · exact hevery.mono fun path _ _ hq => ⟨hq, by rintro _ ⟨⟩⟩

theorem brings_deleteAmong {uuid : String} (hread : ∀ path, ¬ fails (.getSettings path))
    (howned : OwnedWith naming kind uuid) (paths : List String) :
    Brings naming fails kind
      (fun path settings => q path settings ∧ (HasUuid uuid settings → path ∈ paths))
      (deleteAmong uuid paths)
      fun result w => ∀ a, result = .ok a →
        Every kind (fun path settings => q path settings ∧ ¬ HasUuid uuid settings) w := by
  induction paths with
  | nil =>
      refine meets_pure ?_ ?_
      · intro w w' h hrely a ha
        exact every_stable w w' (h a ha) hrely
      · intro w hevery _ _
        exact hevery.mono fun path _ _ hq => ⟨hq.1, fun huuid => List.not_mem_nil (hq.2 huuid)⟩
  | cons path paths ih =>
      refine meets_bind _ (brings_request (.getSettings path) fun w answer w' hevery hact =>
        every_getSettings hread hevery hact) ?_
      rintro (error | values)
      · refine ih.consequence (fun w hevery => ?_) fun _ _ h => h
        refine hevery.mono fun other _ _ hq => ⟨hq.1.1, fun huuid => ?_⟩
        have hother : other ≠ path := fun hsame => by cases hq.2 hsame
        exact List.mem_of_ne_of_mem hother (hq.1.2 huuid)
      · dsimp only
        split_ifs with hdelete
        · refine brings_andThen (brings_required (brings_request _ fun w answer w' hevery hact =>
            every_delete hevery hact)) (by rintro _ _ _ ⟨⟩) fun _ => ?_
          refine ih.consequence (fun w hevery => ?_) fun _ _ h => h
          refine hevery.mono fun other _ _ hq => ⟨hq.1.1.1, fun huuid => ?_⟩
          exact List.mem_of_ne_of_mem (hq.2 rfl) (hq.1.1.2 huuid)
        · refine ih.consequence (fun w hevery => ?_) fun _ _ h => h
          refine hevery.mono fun other hother hkind hq => ⟨hq.1.1, fun huuid => ?_⟩
          rcases List.mem_cons.mp (hq.1.2 huuid) with hsame | hmem
          · obtain rfl : values = _ := Except.ok.inj (hq.2 hsame)
            exact absurd ⟨huuid, howned w other hother hkind huuid⟩ hdelete
          · exact hmem

theorem brings_deleteInactiveOwnedProfile {uuid : String}
    (hread : ∀ path, ¬ fails (.getSettings path)) (howned : OwnedWith naming kind uuid) :
    Brings naming fails kind q (deleteInactiveOwnedProfile uuid) fun result w =>
      ∀ a, result = .ok a →
        Every kind (fun path settings => q path settings ∧ ¬ HasUuid uuid settings) w := by
  refine brings_only_andThen (only_required ⟨trivial, fun _ => trivial⟩) (by rintro _ _ _ ⟨⟩)
    fun _ => ?_
  refine brings_andThen (brings_required (brings_request _ fun w answer w' hevery hact =>
    every_listConnections hevery hact)) (by rintro _ _ _ ⟨⟩) fun paths => ?_
  refine (brings_deleteAmong hread howned paths).consequence (fun w hevery => ?_) fun _ _ h => h
  exact hevery.mono fun path _ _ hq => ⟨hq.1, fun _ => hq.2 paths rfl⟩

theorem brings_disconnectUuid {uuid : String} (hread : ∀ path, ¬ fails (.getSettings path))
    (howned : OwnedWith naming kind uuid) :
    Brings naming fails kind q (disconnectUuid outside uuid) fun result w =>
      ∀ a, result = .ok a →
        Every kind (fun path settings => q path settings ∧ ¬ HasUuid uuid settings) w := by
  refine brings_only_andThen (only_disconnectObserved uuid) (by rintro _ _ _ ⟨⟩)
    fun disconnected => ?_
  refine meets_bind (fun _ => Every kind q) (brings_of_only ⟨trivial, fun _ => trivial⟩) fun _ => ?_
  exact brings_andThen (brings_deleteInactiveOwnedProfile hread howned) (by rintro _ _ _ ⟨⟩)
    fun _ => brings_ok

/-! ## The profiles of a recovery -/

theorem brings_cleanupAmong {uid : String} (hread : ∀ path, ¬ fails (.getSettings path))
    (paths : List String) :
    Brings naming fails (isGuest uid · = true)
      (fun path settings => connectionString settings "uuid" ≠ none → path ∈ paths)
      (cleanupAmong outside uid paths)
      fun result w => ∀ a, result = .ok a →
        Every (isGuest uid · = true) (fun _ settings => connectionString settings "uuid" = none) w := by
  induction paths with
  | nil =>
      refine brings_ok.consequence (fun w hevery => ?_) fun _ _ h => h
      refine hevery.mono fun path _ _ hq => ?_
      by_contra huuid
      exact List.not_mem_nil (hq huuid)
  | cons path paths ih =>
      have howned : ∀ uuid, OwnedWith naming (isGuest uid · = true) uuid := by
        intro uuid w path _ hguest _
        exact (Bool.and_eq_true_iff.mp hguest).2
      refine meets_bind _ (brings_request (.getSettings path) fun w answer w' hevery hact =>
        every_getSettings hread hevery hact) ?_
      rintro (error | values)
      · refine ih.consequence (fun w hevery => ?_) fun _ _ h => h
        refine hevery.mono fun other _ _ hq huuid => ?_
        have hother : other ≠ path := fun hsame => by cases hq.2 hsame
        exact List.mem_of_ne_of_mem hother (hq.1 huuid)
      · dsimp only
        split
        · next hnone =>
            refine ih.consequence (fun w hevery => ?_) fun _ _ h => h
            refine hevery.mono fun other _ hguest hq huuid => ?_
            rcases List.mem_cons.mp (hq.1 huuid) with hsame | hmem
            · obtain rfl : values = _ := Except.ok.inj (hq.2 hsame)
              rw [if_pos hguest] at hnone
              exact absurd hnone huuid
            · exact hmem
        · next uuid hsome =>
            refine brings_andThen (brings_disconnectUuid hread (howned uuid)) (by rintro _ _ _ ⟨⟩)
              fun _ => ?_
            refine ih.consequence (fun w hevery => ?_) fun _ _ h => h
            refine hevery.mono fun other _ hguest hq huuid => ?_
            rcases List.mem_cons.mp (hq.1.1 huuid) with hsame | hmem
            · obtain rfl : values = _ := Except.ok.inj (hq.1.2 hsame)
              rw [if_pos hguest] at hsome
              exact absurd hsome hq.2
            · exact hmem

/-! ## Main results -/

/-- **A disconnection that succeeds** leaves no profile with the UUID, and so no active connection of
one, as long as nobody else adds such a profile and the settings of every profile can be read. -/
theorem removes_disconnectUuid {uuid : String} (hdrawn : naming.drawn uuid = true)
    (hread : ∀ path, ¬ fails (.getSettings path)) :
    Meets (act naming fails) (Leaves (HasUuid uuid)) (fun _ _ => True) (fun _ => True)
      (disconnectUuid outside uuid) fun result w => ∀ disconnected, result = .ok disconnected →
        (∀ path ∈ w.profiles, ¬ HasUuid uuid (w.settings path)) ∧
          ∀ path ∈ w.active, ¬ HasUuid uuid (w.settings (naming.profile path)) := by
  have howned : OwnedWith naming (HasUuid uuid) uuid := by
    intro w path hmem huuid _
    rw [← w.mine_eq path hmem, ← w.drawn_eq path hmem uuid huuid]
    exact hdrawn
  refine (brings_disconnectUuid (q := fun _ _ => True) hread howned).consequence
    (fun _ _ _ _ _ => trivial) fun result w h disconnected hok => ?_
  have hprofiles : ∀ path ∈ w.profiles, ¬ HasUuid uuid (w.settings path) :=
    fun path hmem huuid => (h disconnected hok path hmem huuid).2 huuid
  exact ⟨hprofiles, fun path hmem => hprofiles _ (w.profile_mem path hmem)⟩

/-- The agent's own tunnel is taken down. -/
theorem removes_disconnectUuid_firstIsMine :
    Meets (act firstIsMine fun _ => False) (Leaves (HasUuid "u")) (fun _ _ => True) (fun _ => True)
      (disconnectUuid fineOutside "u") fun result w => ∀ disconnected, result = .ok disconnected →
        (∀ path ∈ w.profiles, ¬ HasUuid "u" (w.settings path)) ∧
          ∀ path ∈ w.active, ¬ HasUuid "u" (w.settings (firstIsMine.profile path)) :=
  removes_disconnectUuid rfl fun _ h => h

/-- **A cleanup that succeeds** leaves no recovery profile of the user, of those that have a UUID, as
long as nobody else adds one and the settings of every profile can be read. -/
theorem removes_cleanupGuestProfiles {uid : String} (hread : ∀ path, ¬ fails (.getSettings path)) :
    Meets (act naming fails) (Leaves (isGuest uid · = true)) (fun _ _ => True) (fun _ => True)
      (cleanupGuestProfiles outside uid) fun result w => result = .ok () →
        ∀ path ∈ w.profiles, isGuest uid (w.settings path) = true →
          connectionString (w.settings path) "uuid" = none := by
  have hbrings : Brings naming fails (isGuest uid · = true) (fun _ _ => True)
      (cleanupGuestProfiles outside uid) fun result w => ∀ a, result = .ok a →
        Every (isGuest uid · = true) (fun _ settings => connectionString settings "uuid" = none)
          w := by
    refine brings_only_andThen (only_required ⟨trivial, fun _ => trivial⟩) (by rintro _ _ _ ⟨⟩)
      fun _ => ?_
    refine brings_andThen (brings_required (brings_request _ fun w answer w' hevery hact =>
      every_listConnections hevery hact)) (by rintro _ _ _ ⟨⟩) fun paths => ?_
    refine (brings_cleanupAmong hread paths).consequence (fun w hevery => ?_) fun _ _ h => h
    exact hevery.mono fun path _ _ hq _ => hq.2 paths rfl
  exact hbrings.consequence (fun _ _ _ _ _ => trivial) fun result w h hok => h () hok

end removal

/-- The profiles that a recovery has left behind are removed, although none can be activated. -/
theorem removes_cleanupGuestProfiles_firstIsMine :
    Meets (act firstIsMine fun call => ∃ path root, call = .activateConnection path root)
      (Leaves (isGuest "1000" · = true)) (fun _ _ => True) (fun _ => True)
      (cleanupGuestProfiles fineOutside "1000") fun result w => result = .ok () →
        ∀ path ∈ w.profiles, isGuest "1000" (w.settings path) = true →
          connectionString (w.settings path) "uuid" = none :=
  removes_cleanupGuestProfiles (by
    rintro path ⟨_, _, h⟩
    cases h)

end ProtonVpnOmarchy.Agent.Network.Tunnels
