import ProtonVpnOmarchy.Agent.Store.Resolvable

/-!
# The number of profiles

`save_profile` checks the limit for a profile without an id only: an id that is not in use adds a
profile to a full account. Every other path that adds profiles checks the limit and the ids.

* `WithinLimit` — the profiles of an account have different ids and are at most `MAX_PROFILES`.
* `profiles_within_limit` — without a save under an unknown id into a full account, and without a
  legacy file that repeats an id, all accounts stay within the limit.
* `profile_limit_exceeded` — saves under new ids exceed it.
-/

namespace ProtonVpnOmarchy.Agent.Store

open Lib Lib.Fallible Splitd
open Std (ExtTreeMap)

/-- The ids of the profiles are different, and there are at most `MAX_PROFILES` of them. -/
structure WithinLimit (account : AccountStore) : Prop where
  nodup : (account.profiles.filterMap idOf).Nodup
  length_le : account.profiles.length ≤ MAX_PROFILES

/-- A profile under an id that is not in use is saved only into an account that is not full; the
profiles of a legacy file that is imported have different ids. -/
def SavesWithinLimit (world : World) : Event → Prop
  | .request _ _ method params =>
    ∀ data object raw id, world.memory = some data → method = "profiles.save" →
      params.asObject = some object → (object.get "profile").bind Value.asObject = some raw →
      stringValue (raw.get "id") 128 false = .ok id → id ≠ "" →
      hasProfile (entry data (accountKey data)) id ∨
        (entry data (accountKey data)).profiles.length < MAX_PROFILES
  | .activate _ _ _ _ => True
  | .restart _ _ legacy =>
    ∀ value object, world.files.store = none → legacy = some value → value.asObject = some object →
      (((((object.get "profiles").bind Value.asArray).getD []).take MAX_PROFILES).filterMap
        idOf).Nodup

/-! ## What adds and removes profiles -/

section changes

variable {account : AccountStore}

/-- A profile under a new id. -/
theorem WithinLimit.append (h : WithinLimit account) {profile : Value} {account' : AccountStore}
    (hprofiles : account'.profiles.Perm (profile :: account.profiles))
    (hnew : ∀ id, idOf profile = some id → id ∉ account.profiles.filterMap idOf)
    (hlt : account.profiles.length < MAX_PROFILES) : WithinLimit account' := by
  constructor
  · rw [(hprofiles.filterMap idOf).nodup_iff]
    rcases hid : idOf profile with _ | id
    · rw [List.filterMap_cons_none hid]
      exact h.nodup
    · rw [List.filterMap_cons_some hid]
      exact h.nodup.cons (hnew id hid)
  · rw [hprofiles.length_eq, List.length_cons]
    exact hlt

theorem WithinLimit.of_profiles (h : WithinLimit account) {account' : AccountStore}
    (haccount' : account'.profiles = account.profiles) : WithinLimit account' := by
  constructor
  · rw [haccount']
    exact h.nodup
  · rw [haccount']
    exact h.length_le

theorem WithinLimit.saveProfileIn (h : WithinLimit account) {clock : ℕ → UInt64} {raw : Map}
    {value : Value} {account' : AccountStore}
    (hspace : ∀ id, stringValue (raw.get "id") 128 false = .ok id → id ≠ "" →
      hasProfile account id ∨ account.profiles.length < MAX_PROFILES)
    (hsave : saveProfileIn clock raw account = .ok (value, account')) : WithinLimit account' := by
  unfold Store.saveProfileIn at hsave
  obtain ⟨existingId, hexisting, hsave⟩ := Except.bind_eq_ok.mp hsave
  obtain ⟨⟨⟩, hlimit, hsave⟩ := Except.bind_eq_ok.mp hsave
  obtain ⟨profile, hprofile, hsave⟩ := Except.bind_eq_ok.mp hsave
  obtain ⟨-, rfl⟩ := Prod.mk.inj (Except.ok.inj hsave)
  have hlimit := reject_eq_ok hlimit
  generalize hid : (if existingId = "" then uniqueId "profile" (clock 0) account.profiles
    else existingId) = id at hprofile ⊢
  have hidOf := idOf_of_stored (normalizeProfile_spec hprofile)
  by_cases hmem : id ∈ account.profiles.filterMap idOf
  · have hids := map_idOf_putById_of_mem hidOf hmem
    constructor
    · dsimp only
      rw [filterMap_idOf, hids, ← filterMap_idOf]
      exact h.nodup
    · have hlength := congrArg List.length hids
      rw [List.length_map, List.length_map] at hlength
      dsimp only
      rw [hlength]
      exact h.length_le
  · have hadded : (putById account.profiles id (.object profile)).Perm
        (.object profile :: account.profiles) := by
      rw [putById_of_not_mem hmem]
      exact List.perm_append_comm
    refine h.append hadded ?_ ?_
    · intro id' hid'
      rw [hidOf] at hid'
      obtain rfl := Option.some.inj hid'
      exact hmem
    · by_cases hempty : existingId = ""
      · exact Nat.lt_of_not_le fun hfull => hlimit ⟨hempty, hfull⟩
      · rw [if_neg hempty] at hid
        subst hid
        exact (hspace existingId hexisting hempty).resolve_left fun hhas =>
          hmem (hasProfile_iff.mp hhas)

theorem WithinLimit.duplicateProfileIn (h : WithinLimit account) {clock : ℕ → UInt64}
    {object : Map} {sourceId : String} {value : Value} {account' : AccountStore}
    (hsave : duplicateProfileIn clock object sourceId account = .ok (value, account')) :
    WithinLimit account' := by
  unfold Store.duplicateProfileIn at hsave
  obtain ⟨⟨⟩, hlimit, hsave⟩ := Except.bind_eq_ok.mp hsave
  obtain ⟨source, -, hsave⟩ := Except.bind_eq_ok.mp hsave
  obtain ⟨name, -, hsave⟩ := Except.bind_eq_ok.mp hsave
  obtain ⟨profile, hprofile, hsave⟩ := Except.bind_eq_ok.mp hsave
  obtain ⟨-, rfl⟩ := Prod.mk.inj (Except.ok.inj hsave)
  refine h.append List.perm_append_comm ?_ (Nat.lt_of_not_le (reject_eq_ok hlimit))
  intro id hid hmem
  rw [idOf_of_stored (normalizeProfile_spec hprofile)] at hid
  obtain rfl := Option.some.inj hid
  obtain ⟨other, hother, hsame⟩ := List.mem_filterMap.mp hmem
  exact (uniqueId_spec "profile" (clock 0) account.profiles).2 other hother hsame

theorem WithinLimit.deleteProfile (h : WithinLimit account) (kept : Value → Bool)
    {account' : AccountStore} (haccount' : account'.profiles = account.profiles.filter kept) :
    WithinLimit account' := by
  constructor
  · rw [haccount']
    exact h.nodup.sublist (List.filter_sublist.filterMap idOf)
  · rw [haccount']
    exact (List.length_filter_le _ _).trans h.length_le

theorem WithinLimit.addOfficial (h : WithinLimit account) (profile : Value) :
    WithinLimit (addOfficial account profile) := by
  unfold Store.addOfficial
  split_ifs with hnew
  · refine h.append List.perm_append_comm ?_ hnew.2
    intro id hid hmem
    refine hnew.1 ?_
    rw [hid]
    exact hasProfile_iff.mpr hmem
  · exact h

theorem WithinLimit.addFastest (h : WithinLimit account) {profile : Value}
    (hid : idOf profile = some FASTEST_DEFAULT_PROFILE_ID) :
    WithinLimit (addFastest account profile) := by
  obtain ⟨hprofiles | ⟨hprofiles, hnew, hlt⟩, -⟩ := addFastest_cases account profile
  · exact h.of_profiles hprofiles
  · refine h.append (by rw [hprofiles]) ?_ hlt
    intro id hid' hmem
    rw [hid] at hid'
    obtain rfl := Option.some.inj hid'
    rw [hasProfile_iff.mpr hmem] at hnew
    cases hnew

end changes

theorem idOf_fastestDefaultProfile {clock : ℕ → UInt64} {locale : String} {profile : Value}
    (h : fastestDefaultProfile clock locale = .ok profile) :
    idOf profile = some FASTEST_DEFAULT_PROFILE_ID := by
  unfold fastestDefaultProfile at h
  obtain ⟨fields, hfields, h⟩ := Except.bind_eq_ok.mp h
  obtain rfl := Except.ok.inj h
  exact idOf_of_stored (normalizeProfile_spec hfields)

/-! ## Runs -/

theorem withinLimit_invariant : AccountInvariant SavesWithinLimit WithinLimit where
  empty := ⟨List.nodup_nil, Nat.zero_le _⟩
  effect := by
    intro disk clock method params data files account hallowed h heffect
    cases heffect with
    | saveProfile hobject hraw hsave =>
        exact h.saveProfileIn (fun id hid hempty =>
          hallowed data _ _ id rfl rfl hobject hraw hid hempty) hsave
    | duplicateProfile _ _ hsave => exact h.duplicateProfileIn hsave
    | deleteProfile id => exact h.deleteProfile _ rfl
    | setExcludedLocations _ => exact h.of_profiles rfl
    | recordRecent _ _ _ _ hrecorded =>
        obtain ⟨-, -, rfl⟩ := recordRecentIn_spec hrecorded
        exact h.of_profiles rfl
    | pinRecent _ _ _ hmarked =>
        obtain ⟨recent, -, rfl⟩ := pinRecentIn_spec hmarked
        exact h.of_profiles rfl
    | deleteRecent id => exact h.of_profiles rfl
    | setDefaultConnection _ => exact h.of_profiles rfl
  official := by
    intro clock locale profiles account hprofiles h
    clear hprofiles
    induction profiles generalizing account with
    | nil => exact h
    | cons profile profiles ih => exact ih (h.addOfficial profile)
  fastest := fun hprofile h => h.addFastest (idOf_fastestDefaultProfile hprofile)
  repair := fun h => h.of_profiles rfl
  legacy := by
    intro world disk clock legacy object hallowed hstore hobject
    obtain ⟨hprofiles, -⟩ := legacyAccount_lists object
    constructor
    · rw [hprofiles]
      exact hallowed legacy object hstore rfl hobject
    · rw [hprofiles]
      exact List.length_take_le _ _

/-! ## Saves under new ids -/

/-- The parameters of a save under an id. -/
def newProfile (id : String) : Map := [("id", .string id), ("name", .string "x")]

theorem isOk_newProfile (id : String) (existing : Option Map) (now : UInt64) :
    (normalizeProfile (newProfile id) existing id now).isOk := by
  have hsame : ∀ key, key ≠ "id" →
      (newProfile id).get key = Map.get [("name", .string "x")] key := by
    intro key hkey
    unfold newProfile
    rw [Map.get_cons, if_neg hkey]
  rw [isOk_normalizeProfile_iff, profileTarget_congr hsame, profileSettings_congr hsame,
    connectAndGo_congr hsame]
  decide +kernel

theorem saveProfileIn_new {account : AccountStore} {id : String} (hbounded : Bounded 128 id)
    (hempty : id ≠ "") (hnew : id ∉ account.profiles.filterMap idOf) :
    ∃ profile value, idOf profile = some id ∧
      saveProfileIn (fun _ => 0) (newProfile id) account =
        .ok (value, { account with profiles := account.profiles ++ [profile] }) := by
  obtain ⟨fields, hfields⟩ := isOk_iff.mp
    (isOk_newProfile id ((findById account.profiles id).bind Value.asObject) 0)
  refine ⟨.object fields, .obj [("profile", .object fields)],
    idOf_of_stored (normalizeProfile_spec hfields), ?_⟩
  have hid : stringValue ((newProfile id).get "id") 128 false = .ok id :=
    stringValue_eq_ok_iff.mpr (.inr ⟨id, rfl, rfl, hbounded⟩)
  unfold saveProfileIn
  refine Except.bind_eq_ok.mpr ⟨id, hid, ?_⟩
  refine Except.bind_eq_ok.mpr ⟨(), ?_, ?_⟩
  · unfold reject
    rw [if_neg fun h => hempty h.1]
  · rw [if_neg hempty]
    refine Except.bind_eq_ok.mpr ⟨fields, hfields, ?_⟩
    rw [putById_of_not_mem hnew]
    rfl

/-- One save under a new id adds a profile, however many there are. -/
theorem step_saveProfile_new {data : StoreFile} (files : Files) {id : String}
    (hbounded : Bounded 128 id) (hempty : id ≠ "")
    (hnew : id ∉ (entry data (accountKey data)).profiles.filterMap idOf) :
    ∃ data' files' profile, World.step ⟨some data, files⟩ (.request quietDisk (fun _ => 0)
        "profiles.save" (.object [("profile", .object (newProfile id))])) = ⟨some data', files'⟩ ∧
      accountKey data' = accountKey data ∧ idOf profile = some id ∧
      (entry data' (accountKey data)).profiles =
        (entry data (accountKey data)).profiles ++ [profile] := by
  obtain ⟨profile, value, hid, hsave⟩ := saveProfileIn_new hbounded hempty hnew
  have hexec : (saveProfile (fun _ => 0) (.object [("profile", .object (newProfile id))])).exec
      data = (.ok value, { data with
        accounts := data.accounts.insert (accountKey data)
          { entry data (accountKey data) with
            profiles := (entry data (accountKey data)).profiles ++ [profile] } }) := by
    have hrest : (saveProfile (fun _ => 0)
        (.object [("profile", .object (newProfile id))])).exec data =
          (onAccount (saveProfileIn (fun _ => 0) (newProfile id))).exec data := rfl
    rw [hrest, exec_onAccount, hsave]
  refine ⟨_, _, profile, step_request_quietDisk files rfl rfl hexec rfl, rfl, hid, ?_⟩
  simp [entry, accountKey]

end ProtonVpnOmarchy.Agent.Store
