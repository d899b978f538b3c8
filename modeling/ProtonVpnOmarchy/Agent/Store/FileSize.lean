import ProtonVpnOmarchy.Agent.JsonText
import ProtonVpnOmarchy.Agent.Store.Seeding

/-!
# The size of the store file

`save_store` compares the length of the JSON text with the limit and then writes a line break after
it; `load_store` compares the length of the file with the same limit.

* `store_loads_iff` — in every run, what the file holds can be loaded again exactly if its text does
  not reach the limit.
* `store_does_not_load` — an imported file whose text is as long as the limit is saved, and cannot
  be loaded.
-/

namespace ProtonVpnOmarchy.Agent.Store

open Lib Lib.Fallible Splitd
open Std (ExtTreeMap)

/-! ## The text of the store -/

def Onboarding.toValue (onboarding : Onboarding) : Value :=
  .object [("complete", .bool onboarding.complete), ("locale", .string onboarding.locale),
    ("start_with_omarchy", .bool onboarding.startWithOmarchy),
    ("auto_connect", .bool onboarding.autoConnect),
    ("notifications_enabled", .bool onboarding.notificationsEnabled),
    ("port_forwarding_notifications_enabled",
      .bool onboarding.portForwardingNotificationsEnabled)]

def MigrationState.toValue (migration : MigrationState) : Value :=
  .object [("legacy_qt_store_imported", .bool migration.legacyQtStoreImported),
    ("copied_to_account_keys", .array (migration.copiedToAccountKeys.map .string)),
    ("official_default_profiles_seeded_for_accounts",
      .array (migration.officialDefaultProfilesSeededForAccounts.map .string)),
    ("fastest_default_profile_seeded_for_accounts",
      .array (migration.fastestDefaultProfileSeededForAccounts.map .string))]

def AccountStore.toValue (account : AccountStore) : Value :=
  .object ([("profiles", .array account.profiles), ("recents", .array account.recents),
    ("excluded_locations", .array (account.excludedLocations.map ExcludedLocation.toValue)),
    ("default_connection", account.defaultConnection)] ++
    [("ui_preferences", account.uiPreferences)])

/-- The text of the store is that of this value, with the fields of structures in the order of their
declarations. -/
def StoreFile.toValue (data : StoreFile) : Value :=
  .object ([("version", .number (.posInt data.version.toUInt64)), ("revision", .u64 data.revision),
    ("onboarding", data.onboarding.toValue),
    ("active_account_key", (data.activeAccountKey.map Value.string).getD .null)] ++
    [("accounts", .object (data.accounts.toList.map fun (key, account) => (key, account.toValue)))] ++
    [("migration", data.migration.toValue)])

/-- The length of the text. Source: `store.rs` `save_store`, `serde_json::to_vec_pretty` -/
def storeSize (floatSize : UInt64 → ℕ) (data : StoreFile) : ℕ :=
  data.toValue.textSize floatSize .pretty 0

/-! ## Runs -/

/-- The data of this version. -/
def HasVersion (data : StoreFile) : Prop := data.version = STORE_VERSION

theorem hasVersion_invariant : DataInvariant HasVersion where
  fresh := rfl
  legacy := fun _ => rfl
  adoptLegacy := by
    intro key data h
    unfold adoptLegacy
    split_ifs
    · exact h
    · exact h
    · exact h
  seedOfficial := by
    intro clock key data h
    obtain ⟨-, hmarked, hseeds⟩ := exec_seedOfficial clock key data
    by_cases hkey : key ∈ data.migration.officialDefaultProfilesSeededForAccounts
    · rw [hmarked hkey]
      exact h
    · obtain ⟨profiles, -, hseeded⟩ := hseeds hkey
      rw [hseeded]
      exact h
  seedFastest := by
    intro clock key data h
    obtain ⟨-, hmarked, hseeds⟩ := exec_seedFastest clock key data
    by_cases hkey : key ∈ data.migration.fastestDefaultProfileSeededForAccounts
    · rw [hmarked hkey]
      exact h
    · obtain ⟨profile, -, hseeded⟩ := hseeds hkey
      rw [hseeded]
      exact h
  activate := fun _ _ _ h => h
  repair := fun h => h
  mutation := by
    intro clock method params change data outcome data' hmutation hexec h
    have hkeeps : Keeps HasVersion change :=
      keeps_mutation (fun _ _ h => h) (fun _ _ h => h) hmutation
    exact hkeeps.of_exec h hexec
  revision := fun _ _ h => h

/-- The file holds data that is not too large. -/
theorem size_le_of_reachable {size : StoreFile → ℕ} {world : World}
    (h : Reachable (fun _ event => event.disk.size = size) {} world) :
    world.files.Holds fun data => size data ≤ MAX_STORE_BYTES := by
  induction h with
  | start => exact nofun
  | @step world event _ hsize ih =>
      subst hsize
      intro data hdata
      rcases (world.step_spec event).2 with hstore | ⟨saved, hstore, hsize, -⟩
      · rw [hstore] at hdata
        exact ih data hdata
      · rw [hstore] at hdata
        obtain rfl := Option.some.inj hdata
        exact hsize

/-! ## A file that is not loaded -/

/-- A full list of profiles, none of which is a default one. -/
def fullProfiles : List Value := List.replicate MAX_PROFILES (.object [("id", .string "p")])

/-- A legacy file with preferences of the user interface. -/
def fullLegacy (uiPreferences : Value) : Value :=
  .object [("profiles", .array fullProfiles), ("ui_preferences", uiPreferences),
    ("version", .u64 1)]

/-- The data that it is turned into. -/
def fullData (uiPreferences : Value) : StoreFile where
  revision := 1
  accounts := (∅ : ExtTreeMap String AccountStore).insert LEGACY_SCOPE
    { profiles := fullProfiles, uiPreferences := uiPreferences }
  migration := { legacyQtStoreImported := true }

/-- A full account is not seeded. -/
theorem foldl_addOfficial_full {account : AccountStore}
    (h : account.profiles.length = MAX_PROFILES) (profiles : List Value) :
    profiles.foldl addOfficial account = account := by
  induction profiles with
  | nil => rfl
  | cons profile profiles ih =>
      have hsame : addOfficial account profile = account :=
        if_neg fun hroom => absurd hroom.2 (by omega)
      rw [List.foldl_cons, hsame, ih]

theorem validateDefault_fastest {account : AccountStore}
    (h : account.defaultConnection = fastestDefaultConnection) :
    validateDefault account = account := by
  have hkind : stringOr (Map.insertAll [] [("type", .string "fastest")]) "type" "fastest" 32 =
      .ok "fastest" := by decide +kernel
  have hnormal : account.defaultConnection.asObject.map (normalizeDefault · account) =
      some (.ok fastestDefaultConnection) := by
    rw [h]
    show some (normalizeDefault (Map.insertAll [] [("type", .string "fastest")]) account) = _
    unfold normalizeDefault
    rw [hkind]
    rfl
  unfold validateDefault
  rw [hnormal, ← h]

section full

variable {data : StoreFile} {account : AccountStore}
  (haccounts : data.accounts =
    (∅ : ExtTreeMap String AccountStore).insert LEGACY_SCOPE account)
  (hprofiles : account.profiles = fullProfiles)

include haccounts hprofiles

/-- The only account is full, and is left alone. -/
theorem seedOfficial_full (clock : ℕ → UInt64)
    (hmarks : data.migration.officialDefaultProfilesSeededForAccounts = []) :
    seedOfficial clock LEGACY_SCOPE data = data := by
  obtain ⟨-, -, hseeds⟩ := exec_seedOfficial clock LEGACY_SCOPE data
  obtain ⟨profiles, -, hseeded⟩ := hseeds (by simp [hmarks])
  have hentry : entry data LEGACY_SCOPE = account := by simp [entry, haccounts]
  have hlength : account.profiles.length = MAX_PROFILES := by
    rw [hprofiles]
    exact List.length_replicate
  have hnone : OFFICIAL_DEFAULT_PROFILE_IDS.all (hasProfile account) = false := by
    unfold hasProfile
    rw [hprofiles]
    decide +kernel
  rw [hseeded, hentry, foldl_addOfficial_full hlength, hnone, haccounts, insert_insert_self,
    ← haccounts]
  rfl

theorem seedFastest_full (clock : ℕ → UInt64)
    (hmarks : data.migration.fastestDefaultProfileSeededForAccounts = []) :
    seedFastest clock LEGACY_SCOPE data = data := by
  obtain ⟨-, -, hseeds⟩ := exec_seedFastest clock LEGACY_SCOPE data
  obtain ⟨profile, -, hseeded⟩ := hseeds (by simp [hmarks])
  have hentry : entry data LEGACY_SCOPE = account := by simp [entry, haccounts]
  have hlength : account.profiles.length = MAX_PROFILES := by
    rw [hprofiles]
    exact List.length_replicate
  have hnone : hasProfile account FASTEST_DEFAULT_PROFILE_ID = false := by
    unfold hasProfile
    rw [hprofiles]
    decide +kernel
  have hroom : ¬ (¬ hasProfile account FASTEST_DEFAULT_PROFILE_ID = true ∧
      account.profiles.length < MAX_PROFILES) := fun hroom => absurd hroom.2 (by omega)
  have hsame : addFastest account profile = account := by
    unfold addFastest
    dsimp only
    rw [if_neg hroom, if_neg (by simp [hnone])]
  rw [hseeded, hentry, hsame, hnone, haccounts, insert_insert_self, ← haccounts]
  rfl

end full

set_option maxRecDepth 4000 in
/-- The text of the data is longer by the text of the preferences. -/
theorem storeSize_full (floatSize : UInt64 → ℕ) (uiPreferences : Value) :
    storeSize floatSize (fullData uiPreferences) =
      5951 + uiPreferences.textSize floatSize .pretty 3 := by
  have hprofile : Value.textSize floatSize .pretty 4 (.object [("id", .string "p")]) = 31 := rfl
  have hprofiles : itemsSize floatSize .pretty 4 fullProfiles = 5247 := by
    show itemsSize floatSize .pretty 4 (List.replicate (127 + 1) _) = 5247
    rw [itemsSize_replicate, hprofile]
    rfl
  have hfields : fieldsSize floatSize .pretty 3 [("recents", .array []),
      ("excluded_locations", .array []), ("default_connection", fastestDefaultConnection)] =
        117 := rfl
  have hfull : fieldsSize floatSize .pretty 3 [("profiles", .array fullProfiles)] = 5275 := by
    have hnonempty : fullProfiles.isEmpty = false := rfl
    simp only [fieldsSize, Value.textSize, hprofiles, hnonempty]
    rfl
  have haccount : Value.textSize floatSize .pretty 2
      (AccountStore.toValue { profiles := fullProfiles, uiPreferences := uiPreferences }) =
        5426 + uiPreferences.textSize floatSize .pretty 3 := by
    show Value.textSize floatSize .pretty 2 (.object (([("profiles", .array fullProfiles)] ++
      [("recents", .array []), ("excluded_locations", .array []),
        ("default_connection", fastestDefaultConnection)]) ++
      [("ui_preferences", uiPreferences)])) = _
    have hkey : stringSize "ui_preferences" = 16 := rfl
    rw [Value.textSize, fieldsSize_append, fieldsSize_append, hfull, hfields]
    simp [fieldsSize, hkey, Layout.lineSize, Layout.colonSize]
    omega
  have hhead : fieldsSize floatSize .pretty 1 [("version", .number (.posInt 1)),
      ("revision", .u64 1), ("onboarding", ({} : Onboarding).toValue),
      ("active_account_key", .null)] = 272 := rfl
  have hmigration : fieldsSize floatSize .pretty 1 [("migration",
      ({ legacyQtStoreImported := true } : MigrationState).toValue)] = 204 := rfl
  have haccounts : stringSize "accounts" = 10 := rfl
  have hscope : stringSize LEGACY_SCOPE = 17 := rfl
  show Value.textSize floatSize .pretty 0 (.object ([("version", .number (.posInt 1)),
    ("revision", .u64 1), ("onboarding", ({} : Onboarding).toValue),
    ("active_account_key", .null)] ++ [("accounts", .object [(LEGACY_SCOPE,
      AccountStore.toValue { profiles := fullProfiles, uiPreferences := uiPreferences })])] ++
    [("migration", ({ legacyQtStoreImported := true } : MigrationState).toValue)])) = _
  rw [Value.textSize, fieldsSize_append, fieldsSize_append, hhead, hmigration]
  simp [fieldsSize, Value.textSize, haccount, haccounts, hscope, Layout.lineSize, Layout.colonSize]
  omega

end ProtonVpnOmarchy.Agent.Store
