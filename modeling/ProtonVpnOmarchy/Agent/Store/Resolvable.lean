import ProtonVpnOmarchy.Agent.Store.Records

/-!
# Records that can be connected to

Profiles and recent connections are stored as their normalisation leaves them, and a recent
connection to a profile goes when its profile goes. So `connection.resolve` of a listed one succeeds.

* `Resolvable` — the profiles and recent connections of an account are of that kind.
* `resolvable_invariant` — every account stays so, in every run.
* `Resolvable.resolvedProfile`, `Resolvable.resolvedRecent` — what can be resolved.
-/

namespace ProtonVpnOmarchy.Agent.Store

open Lib Lib.Fallible Splitd

/-- A profile that the store has written. -/
def IsStoredProfile (profile : Value) : Prop :=
  ∃ fields id, profile = .object fields ∧ StoredProfile fields id

/-- A recent connection that the store has written. -/
def IsStoredRecent (profiles : List Value) (recent : Value) : Prop :=
  ∃ fields, recent = .object fields ∧ StoredRecent profiles fields

/-- An account whose profiles and recent connections can be connected to. -/
structure Resolvable (account : AccountStore) : Prop where
  profiles : ∀ profile ∈ account.profiles, IsStoredProfile profile
  recents : ∀ recent ∈ account.recents, IsStoredRecent account.profiles recent

/-- The records of a legacy file that is imported are ones that the store could have written. -/
def CompleteLegacy (world : World) : Event → Prop
  | .request _ _ _ _ => True
  | .activate _ _ _ _ => True
  | .restart _ _ legacy =>
    ∀ value object, world.files.store = none → legacy = some value → value.asObject = some object →
      let array (key : String) : List Value := ((object.get key).bind Value.asArray).getD []
      (∀ profile ∈ (array "profiles").take MAX_PROFILES, IsStoredProfile profile) ∧
        ∀ recent ∈ array "recents",
          IsStoredRecent ((array "profiles").take MAX_PROFILES) recent

theorem StoredRecent.mono {profiles profiles' : List Value} {recent : Map}
    (h : StoredRecent profiles recent)
    (hprofiles : ∀ id, recent.get "kind" = some (.string "profile") →
      recent.get "profileId" = some (.string id) → id ∈ profiles.filterMap idOf →
        id ∈ profiles'.filterMap idOf) : StoredRecent profiles' recent := by
  refine ⟨h.kind, ?_⟩
  intro hkind
  obtain ⟨id, hget, hstored, hmem⟩ := h.profile hkind
  exact ⟨id, hget, hstored, exists_idOf_iff.mpr
    (hprofiles id hkind hget (exists_idOf_iff.mp hmem))⟩

theorem IsStoredRecent.mono {profiles profiles' : List Value} {recent : Value}
    (h : IsStoredRecent profiles recent)
    (hprofiles : ∀ id ∈ profiles.filterMap idOf, id ∈ profiles'.filterMap idOf) :
    IsStoredRecent profiles' recent := by
  obtain ⟨fields, rfl, hfields⟩ := h
  exact ⟨fields, rfl, hfields.mono fun id _ _ hid => hprofiles id hid⟩

section changes

variable {account account' : AccountStore}

/-- Profiles are added, or replaced by ones with their ids. -/
theorem Resolvable.withProfiles (h : Resolvable account)
    (hstored : ∀ profile ∈ account'.profiles, IsStoredProfile profile)
    (hids : ∀ id ∈ account.profiles.filterMap idOf, id ∈ account'.profiles.filterMap idOf)
    (hrecents : account'.recents = account.recents) : Resolvable account' := by
  refine ⟨hstored, ?_⟩
  rw [hrecents]
  exact fun recent hrecent => (h.recents recent hrecent).mono hids

/-- The ids of the profiles before a save are there after it. -/
theorem mem_putById_of_mem {values : List Value} {id id' : String} {value : Value}
    (hvalue : idOf value = some id) (h : id' ∈ values.filterMap idOf) :
    id' ∈ (putById values id value).filterMap idOf := by
  by_cases hmem : id ∈ values.filterMap idOf
  · rw [filterMap_idOf, map_idOf_putById_of_mem hvalue hmem, ← filterMap_idOf]
    exact h
  · rw [putById_of_not_mem hmem, List.filterMap_append]
    exact List.mem_append_left _ h

/-- A saved profile is stored under its id, the others stay. -/
theorem saveProfileIn_spec {clock : ℕ → UInt64} {raw : Map} {value : Value}
    (hsave : saveProfileIn clock raw account = .ok (value, account')) :
    ∃ profile id, StoredProfile profile id ∧
      account' = { account with profiles := putById account.profiles id (.object profile) } := by
  unfold saveProfileIn at hsave
  obtain ⟨existingId, -, hsave⟩ := Except.bind_eq_ok.mp hsave
  obtain ⟨⟨⟩, -, hsave⟩ := Except.bind_eq_ok.mp hsave
  obtain ⟨profile, hprofile, hsave⟩ := Except.bind_eq_ok.mp hsave
  obtain ⟨-, rfl⟩ := Prod.mk.inj (Except.ok.inj hsave)
  exact ⟨profile, _, normalizeProfile_spec hprofile, rfl⟩

theorem duplicateProfileIn_spec {clock : ℕ → UInt64} {object : Map} {sourceId : String}
    {value : Value}
    (hsave : duplicateProfileIn clock object sourceId account = .ok (value, account')) :
    ∃ profile id, StoredProfile profile id ∧
      account' = { account with profiles := account.profiles ++ [.object profile] } := by
  unfold duplicateProfileIn at hsave
  obtain ⟨⟨⟩, -, hsave⟩ := Except.bind_eq_ok.mp hsave
  obtain ⟨source, -, hsave⟩ := Except.bind_eq_ok.mp hsave
  obtain ⟨name, -, hsave⟩ := Except.bind_eq_ok.mp hsave
  obtain ⟨profile, hprofile, hsave⟩ := Except.bind_eq_ok.mp hsave
  obtain ⟨-, rfl⟩ := Prod.mk.inj (Except.ok.inj hsave)
  exact ⟨profile, _, normalizeProfile_spec hprofile, rfl⟩

theorem Resolvable.saveProfileIn (h : Resolvable account) {clock : ℕ → UInt64} {raw : Map}
    {value : Value} (hsave : saveProfileIn clock raw account = .ok (value, account')) :
    Resolvable account' := by
  obtain ⟨profile, id, hstored, rfl⟩ := saveProfileIn_spec hsave
  refine h.withProfiles ?_ (fun _ => mem_putById_of_mem (idOf_of_stored hstored)) rfl
  intro other hother
  rcases mem_putById hother with hother | rfl
  · exact h.profiles other hother
  · exact ⟨profile, id, rfl, hstored⟩

/-- The ids of the profiles before another one is added. -/
theorem mem_filterMap_of_perm {profile : Value} {profiles profiles' : List Value} {id : String}
    (hprofiles : profiles'.Perm (profile :: profiles)) (hid : id ∈ profiles.filterMap idOf) :
    id ∈ profiles'.filterMap idOf := by
  obtain ⟨other, hother, hid⟩ := List.mem_filterMap.mp hid
  exact List.mem_filterMap.mpr
    ⟨other, hprofiles.mem_iff.mpr (List.mem_cons_of_mem _ hother), hid⟩

/-- A profile is added at an end. -/
theorem Resolvable.addProfile (h : Resolvable account) {profile : Value}
    (hprofile : IsStoredProfile profile)
    (hprofiles : account'.profiles.Perm (profile :: account.profiles))
    (hrecents : account'.recents = account.recents) : Resolvable account' := by
  refine h.withProfiles ?_ (fun _ => mem_filterMap_of_perm hprofiles) hrecents
  intro other hother
  rcases List.mem_cons.mp (hprofiles.mem_iff.mp hother) with rfl | hother
  · exact hprofile
  · exact h.profiles other hother

/-- A profile is deleted together with the recent connections to it. -/
theorem Resolvable.deleteProfile (h : Resolvable account) (id : String)
    (hprofiles : account'.profiles = account.profiles.filter fun profile => idOf profile ≠ some id)
    (hrecents : account'.recents = account.recents.filter fun recent => ¬ isRecentOf id recent) :
    Resolvable account' := by
  constructor
  · rw [hprofiles]
    exact fun profile hprofile => h.profiles profile (List.mem_filter.mp hprofile).1
  · rw [hprofiles, hrecents]
    intro recent hrecent
    obtain ⟨hrecent, hother⟩ := List.mem_filter.mp hrecent
    obtain ⟨fields, rfl, hfields⟩ := h.recents recent hrecent
    refine ⟨fields, rfl, hfields.mono ?_⟩
    intro id' hkind hget hid'
    obtain ⟨profile, hprofile, hidOf⟩ := List.mem_filterMap.mp hid'
    refine List.mem_filterMap.mpr ⟨profile, List.mem_filter.mpr ⟨hprofile, ?_⟩, hidOf⟩
    -- A recent connection that is kept is to another profile.
    rw [decide_eq_true_eq, hidOf]
    rintro ⟨⟩
    simp [isRecentOf, hkind, hget] at hother

/-- A normalised recent connection whose profile is there. -/
theorem storedRecent_of_normalizeRecent {raw recent : Map} {kind : String} {profiles : List Value}
    (hrecent : normalizeRecent raw = .ok recent) (hkind : requiredString recent "kind" 32 = .ok kind)
    (hcheck : checkRecentProfile recent kind profiles = .ok ()) : StoredRecent profiles recent := by
  obtain ⟨kind', hkind', hnamed, hvalid⟩ := normalizeRecent_spec hrecent
  have hstored := stored_of_requiredString hkind'
  rw [hstored.requiredString hnamed.kind] at hkind
  obtain rfl := Except.ok.inj hkind
  constructor
  · refine ⟨kind', hnamed.kind, hstored, ?_⟩
    rw [recentKindFeatures_isSome_iff]
    exact recentKindSupported_of_valid hvalid
  · intro hprofile
    rw [hnamed.kind] at hprofile
    obtain rfl : kind' = "profile" := by simpa using hprofile
    unfold checkRecentProfile at hcheck
    rw [if_pos rfl] at hcheck
    obtain ⟨id, hid, hcheck⟩ := Except.bind_eq_ok.mp hcheck
    obtain ⟨-, -, text, hget, -⟩ := requiredString_eq_ok_iff.mp hid
    obtain ⟨id', hid', hstoredId⟩ := hnamed.profileId _ hget
    rw [hid'] at hget
    rw [hstoredId.requiredString hget] at hid
    obtain rfl := Except.ok.inj hid
    exact ⟨id', hget, hstoredId,
      exists_idOf_iff.mpr (any_idOf_iff.mp (not_not.mp (reject_eq_ok hcheck)))⟩

/-- The fields that are added to a recorded connection. -/
theorem get_recordFields (clock : ℕ → UInt64) (recents : List Value) (reused : Option Value)
    (recent : Map) {key : String}
    (hkey : key ∉ ["id", "pinned", "pinTimeMs", "lastConnectionTimeMs"]) :
    (recent.insertAll (recordFields clock recents reused)).get key = recent.get key := by
  simp only [List.mem_cons, List.not_mem_nil, not_or, or_false] at hkey
  obtain ⟨hid, hpinned, hpinTime, hlast⟩ := hkey
  unfold Map.insertAll recordFields
  simp only [List.foldl_cons, List.foldl_nil]
  rw [Map.get_insert_of_ne hlast, Map.get_insert_of_ne hpinTime, Map.get_insert_of_ne hpinned,
    Map.get_insert_of_ne hid]

/-- The recorded entry goes in front of those with another key, which are then trimmed. -/
theorem recordRecentIn_spec {clock : ℕ → UInt64} {recent : Map} {kind : String} {value : Value}
    (hrecorded : recordRecentIn clock recent kind account = .ok (value, account')) :
    checkRecentProfile recent kind account.profiles = .ok () ∧
      let reused := account.recents.find? fun other => keyOf other = some (recentKey recent)
      let others := account.recents.filter fun other => keyOf other ≠ some (recentKey recent)
      let output := Value.object (recent.insertAll (recordFields clock others reused))
      value = .obj [("recent", output)] ∧
        account' = validateDefault { account with recents := trimRecents (output :: others) } := by
  unfold recordRecentIn at hrecorded
  obtain ⟨⟨⟩, hcheck, hrecorded⟩ := Except.bind_eq_ok.mp hrecorded
  obtain ⟨rfl, rfl⟩ := Prod.mk.inj (Except.ok.inj hrecorded)
  exact ⟨hcheck, rfl, rfl⟩

theorem Resolvable.recordRecentIn (h : Resolvable account) {clock : ℕ → UInt64} {raw recent : Map}
    {kind : String} {value : Value} (hrecent : normalizeRecent raw = .ok recent)
    (hkind : requiredString recent "kind" 32 = .ok kind)
    (hrecorded : recordRecentIn clock recent kind account = .ok (value, account')) :
    Resolvable account' := by
  obtain ⟨hcheck, -, rfl⟩ := recordRecentIn_spec hrecorded
  refine ⟨h.profiles, ?_⟩
  intro other hother
  rcases List.mem_cons.mp (mem_of_mem_trimRecents hother) with rfl | hother
  · refine ⟨_, rfl, (storedRecent_of_normalizeRecent hrecent hkind hcheck).of_get ?_ ?_⟩
    · exact get_recordFields _ _ _ _ (by decide)
    · exact get_recordFields _ _ _ _ (by decide)
  · exact h.recents other (List.mem_filter.mp hother).1

/-- A changed mark leaves the other fields. -/
theorem get_withPin (clock : ℕ → UInt64) (pinned : Bool) (recent : Map) {key : String}
    (hpinned : key ≠ "pinned") (hpinTime : key ≠ "pinTimeMs") :
    (withPin clock pinned recent).get key = recent.get key := by
  unfold withPin
  rw [Value.get_object, Map.get_insert_of_ne hpinTime, Map.get_insert_of_ne hpinned]

/-- The marked entry replaces the first one with the id, and the entries are trimmed. -/
theorem pinRecentIn_spec {clock : ℕ → UInt64} {id : String} {pinned : Bool} {value : Value}
    (hmarked : pinRecentIn clock id pinned account = .ok (value, account')) :
    ∃ recent, findById account.recents id = some (.object recent) ∧ account' = { account with
      recents := trimRecents (putById account.recents id (withPin clock pinned recent)) } := by
  unfold pinRecentIn at hmarked
  obtain ⟨recent, hfound, hmarked⟩ := Except.bind_eq_ok.mp hmarked
  obtain ⟨-, rfl⟩ := Prod.mk.inj (Except.ok.inj hmarked)
  obtain ⟨entry, hentry, hobject⟩ := Option.bind_eq_some_iff.mp (okOrElse_eq_ok hfound)
  rcases entry with _ | _ | _ | _ | _ | fields
  all_goals cases hobject
  exact ⟨recent, hentry, rfl⟩

theorem Resolvable.pinRecentIn (h : Resolvable account) {clock : ℕ → UInt64} {id : String}
    {pinned : Bool} {value : Value}
    (hmarked : pinRecentIn clock id pinned account = .ok (value, account')) :
    Resolvable account' := by
  obtain ⟨recent, hfound, rfl⟩ := pinRecentIn_spec hmarked
  refine ⟨h.profiles, ?_⟩
  intro other hother
  rcases mem_putById (mem_of_mem_trimRecents hother) with hother | rfl
  · exact h.recents other hother
  · obtain ⟨fields, heq, hfields⟩ := h.recents _ (findById_eq_some hfound).1
    obtain rfl := Value.object.inj heq
    refine ⟨_, rfl, hfields.of_get ?_ ?_⟩
    · exact get_withPin clock pinned recent (by decide) (by decide)
    · exact get_withPin clock pinned recent (by decide) (by decide)

theorem Resolvable.addOfficial (h : Resolvable account) {profile : Value}
    (hprofile : IsStoredProfile profile) : Resolvable (addOfficial account profile) := by
  unfold Store.addOfficial
  split_ifs
  · exact h.addProfile hprofile List.perm_append_comm rfl
  · exact h

/-- The seeding with the fastest profile adds it, or changes the default connection only. -/
theorem addFastest_cases (account : AccountStore) (profile : Value) :
    ((addFastest account profile).profiles = account.profiles ∨
      (addFastest account profile).profiles = profile :: account.profiles ∧
        hasProfile account FASTEST_DEFAULT_PROFILE_ID = false ∧
        account.profiles.length < MAX_PROFILES) ∧
      (addFastest account profile).recents = account.recents ∧
      ((addFastest account profile).defaultConnection = account.defaultConnection ∨
        (addFastest account profile).defaultConnection = .obj [("type", .string "profile"),
          ("profileId", .string FASTEST_DEFAULT_PROFILE_ID)] ∧
        hasProfile (addFastest account profile) FASTEST_DEFAULT_PROFILE_ID = true) := by
  unfold addFastest
  dsimp only
  by_cases hnew : ¬ hasProfile account FASTEST_DEFAULT_PROFILE_ID = true ∧
      account.profiles.length < MAX_PROFILES
  · rw [if_pos hnew]
    have hnew' : hasProfile account FASTEST_DEFAULT_PROFILE_ID = false := by simpa using hnew.1
    split_ifs with hdefault
    · exact ⟨.inr ⟨rfl, hnew', hnew.2⟩, rfl, .inr ⟨rfl, hdefault.1⟩⟩
    · exact ⟨.inr ⟨rfl, hnew', hnew.2⟩, rfl, .inl rfl⟩
  · rw [if_neg hnew]
    split_ifs with hdefault
    · exact ⟨.inl rfl, rfl, .inr ⟨rfl, hdefault.1⟩⟩
    · exact ⟨.inl rfl, rfl, .inl rfl⟩

theorem Resolvable.addFastest (h : Resolvable account) {profile : Value}
    (hprofile : IsStoredProfile profile) : Resolvable (addFastest account profile) := by
  obtain ⟨hprofiles | ⟨hprofiles, -⟩, hrecents, -⟩ := addFastest_cases account profile
  · refine h.withProfiles ?_ ?_ hrecents
    · rw [hprofiles]
      exact h.profiles
    · rw [hprofiles]
      exact fun _ hid => hid
  · refine h.addProfile hprofile ?_ hrecents
    rw [hprofiles]

end changes

/-! ## Resolving -/

/-- A search that keeps what it has or takes the next value finds one of the values. -/
theorem foldl_mem {keep : Option Value → Value → Option Value}
    (hkeep : ∀ best value, keep best value = best ∨ keep best value = some value)
    {recent : Value} (values : List Value) (best : Option Value)
    (h : values.foldl keep best = some recent) : best = some recent ∨ recent ∈ values := by
  induction values generalizing best with
  | nil => exact .inl h
  | cons value values ih =>
      rw [List.foldl_cons] at h
      rcases ih _ h with h | h
      · rcases hkeep best value with heq | heq
        · exact .inl (heq ▸ h)
        · rw [heq] at h
          exact .inr (Option.some.inj h ▸ List.mem_cons_self)
      · exact .inr (List.mem_cons_of_mem _ h)

theorem mostRecentConnection_mem {recents : List Value} {recent : Value}
    (h : mostRecentConnection recents = some recent) : recent ∈ recents := by
  unfold mostRecentConnection at h
  refine (foldl_mem (fun best value => ?_) recents none h).resolve_left
    (Option.some_ne_none recent).symm
  rcases best with _ | best
  · exact .inr rfl
  · dsimp only
    split_ifs
    · exact .inr rfl
    · exact .inl rfl

/-- A listed profile can be connected to. -/
theorem Resolvable.resolvedProfile {account : AccountStore} (h : Resolvable account) {id : String}
    (hid : Stored 128 id) (hmem : id ∈ account.profiles.filterMap idOf) (selectionType : String) :
    ∃ profile value, findById account.profiles id = some profile ∧
      resolvedProfile profile selectionType = .ok value := by
  obtain ⟨profile, hprofile, hfind, hidOf⟩ := findById_of_mem hmem
  obtain ⟨fields, id', rfl, hfields⟩ := h.profiles profile hprofile
  rw [idOf_of_stored hfields] at hidOf
  obtain rfl := Option.some.inj hidOf
  obtain ⟨features, kind, name, hresolved⟩ := resolvedProfile_of_stored hfields hid selectionType
  exact ⟨_, _, hfind, hresolved⟩

/-- A listed recent connection can be connected to. -/
theorem Resolvable.resolvedRecent {account : AccountStore} (h : Resolvable account) {recent : Value}
    (hmem : recent ∈ account.recents) (selectionType : String) :
    ∃ value, resolvedRecent account.profiles recent selectionType = .ok value := by
  obtain ⟨fields, rfl, hfields⟩ := h.recents recent hmem
  exact resolvedRecent_of_stored hfields selectionType fun id hid hprofile =>
    h.resolvedProfile hid (exists_idOf_iff.mp hprofile) selectionType

/-! ## Runs -/

theorem isStoredProfile_of_official {clock : ℕ → UInt64} {locale : String} {profiles : List Value}
    (h : officialDefaultProfiles clock locale = .ok profiles) :
    ∀ profile ∈ profiles, IsStoredProfile profile := by
  intro profile hprofile
  unfold officialDefaultProfiles at h
  obtain ⟨⟨⟨raw, id⟩, index⟩, -, h⟩ := (Except.mem_of_mapM_eq_ok h).2 profile hprofile
  obtain ⟨fields, hfields, h⟩ := Except.bind_eq_ok.mp h
  obtain rfl := Except.ok.inj h
  exact ⟨fields, id, rfl, normalizeProfile_spec hfields⟩

theorem isStoredProfile_of_fastest {clock : ℕ → UInt64} {locale : String} {profile : Value}
    (h : fastestDefaultProfile clock locale = .ok profile) : IsStoredProfile profile := by
  unfold fastestDefaultProfile at h
  obtain ⟨fields, hfields, h⟩ := Except.bind_eq_ok.mp h
  obtain rfl := Except.ok.inj h
  exact ⟨fields, _, rfl, normalizeProfile_spec hfields⟩

theorem legacyAccount_lists (object : Map) :
    (legacyAccount object).profiles =
        (((object.get "profiles").bind Value.asArray).getD []).take MAX_PROFILES ∧
      (legacyAccount object).recents =
        trimRecents (((object.get "recents").bind Value.asArray).getD []) := by
  unfold legacyAccount
  dsimp only
  split
  · exact ⟨rfl, rfl⟩
  · exact ⟨rfl, rfl⟩

/-- **The records of every account can be connected to, in every run.** -/
theorem resolvable_invariant : AccountInvariant CompleteLegacy Resolvable where
  empty := ⟨nofun, nofun⟩
  effect := by
    intro disk clock method params data files account _ h heffect
    cases heffect with
    | saveProfile _ _ hsave => exact h.saveProfileIn hsave
    | duplicateProfile _ _ hsave =>
        obtain ⟨profile, id, hstored, rfl⟩ := duplicateProfileIn_spec hsave
        exact h.addProfile ⟨profile, id, rfl, hstored⟩ List.perm_append_comm rfl
    | deleteProfile id => exact h.deleteProfile id rfl rfl
    | setExcludedLocations _ => exact ⟨h.profiles, h.recents⟩
    | recordRecent _ _ hrecent hkind hrecorded => exact h.recordRecentIn hrecent hkind hrecorded
    | pinRecent _ _ _ hmarked => exact h.pinRecentIn hmarked
    | deleteRecent id =>
        exact ⟨h.profiles, fun recent hrecent => h.recents recent (List.mem_filter.mp hrecent).1⟩
    | setDefaultConnection _ => exact ⟨h.profiles, h.recents⟩
  official := by
    intro clock locale profiles account hprofiles h
    have hstored := isStoredProfile_of_official hprofiles
    clear hprofiles
    induction profiles generalizing account with
    | nil => exact h
    | cons profile profiles ih =>
        exact ih (h.addOfficial (hstored profile List.mem_cons_self))
          fun other hother => hstored other (List.mem_cons_of_mem _ hother)
  fastest := fun hprofile h => h.addFastest (isStoredProfile_of_fastest hprofile)
  repair := fun h => ⟨h.profiles, h.recents⟩
  legacy := by
    intro world disk clock legacy object hallowed hstore hobject
    obtain ⟨hprofiles, hrecents⟩ := hallowed legacy object hstore rfl hobject
    obtain ⟨hprofilesEq, hrecentsEq⟩ := legacyAccount_lists object
    constructor
    · rw [hprofilesEq]
      exact hprofiles
    · rw [hprofilesEq, hrecentsEq]
      exact fun recent hrecent => hrecents recent (mem_of_mem_trimRecents hrecent)

end ProtonVpnOmarchy.Agent.Store
