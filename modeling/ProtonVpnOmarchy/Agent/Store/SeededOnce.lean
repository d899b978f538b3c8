import ProtonVpnOmarchy.Agent.Store.Records
import ProtonVpnOmarchy.Agent.Store.Seeding

/-!
# Default profiles that were deleted

A seeding adds the default profiles that are missing, until the account is marked. The mark is set
only when all of them are there at once, so an account that had no room for them is seeded again at
every open, and gets back what the user has deleted.

* `deleted_profile_stays_deleted` — if the account is marked when a default profile is deleted, no
  later open or activation puts it back.
* `deleted_profile_comes_back` — in an account that had room for one of them it does.
-/

namespace ProtonVpnOmarchy.Agent.Store

open Lib Lib.Fallible Splitd
open Std (ExtTreeMap)

/-- The account is marked as seeded with the default profile. -/
structure Marked (id key : String) (data : StoreFile) : Prop where
  official : id ∈ OFFICIAL_DEFAULT_PROFILE_IDS →
    key ∈ data.migration.officialDefaultProfilesSeededForAccounts
  fastest : id = FASTEST_DEFAULT_PROFILE_ID →
    key ∈ data.migration.fastestDefaultProfileSeededForAccounts

/-- A marked account that has a record. -/
structure Settled (id key : String) (data : StoreFile) : Prop extends Marked id key data where
  known : key ∈ data.accounts

/-- The profile is not added to the account, if the account is marked; and it stays so. -/
def Calm (id key : String) (data data' : StoreFile) : Prop :=
  Settled id key data → Settled id key data' ∧
    (hasProfile (entry data' key) id = true → hasProfile (entry data key) id = true)

namespace Calm

variable {id key : String} {data data' data'' : StoreFile}

theorem refl (id key : String) (data : StoreFile) : Calm id key data data := fun h => ⟨h, fun h => h⟩

theorem trans (h : Calm id key data data') (h' : Calm id key data' data'') :
    Calm id key data data'' := by
  intro hsettled
  obtain ⟨hsettled', hadds⟩ := h hsettled
  obtain ⟨hsettled'', hadds'⟩ := h' hsettled'
  exact ⟨hsettled'', fun hhas => hadds (hadds' hhas)⟩

theorem foldl {f : StoreFile → String → StoreFile}
    (h : ∀ data other, Calm id key data (f data other)) (keys : List String) (data : StoreFile) :
    Calm id key data (keys.foldl f data) := by
  induction keys generalizing data with
  | nil => exact refl id key data
  | cons other keys ih => exact (h data other).trans (ih (f data other))

/-- The record of one account is replaced, and marks are added. -/
theorem insert {other : String} {account : AccountStore}
    (haccounts : data'.accounts = data.accounts.insert other account)
    (hofficial : ∀ key ∈ data.migration.officialDefaultProfilesSeededForAccounts,
      key ∈ data'.migration.officialDefaultProfilesSeededForAccounts)
    (hfastest : ∀ key ∈ data.migration.fastestDefaultProfileSeededForAccounts,
      key ∈ data'.migration.fastestDefaultProfileSeededForAccounts)
    (hadds : other = key → Settled id key data → hasProfile account id = true →
      hasProfile (entry data key) id = true) : Calm id key data data' := by
  intro h
  refine ⟨⟨⟨fun hid => hofficial key (h.official hid), fun hid => hfastest key (h.fastest hid)⟩,
    ?_⟩, ?_⟩
  · rw [haccounts, ExtTreeMap.mem_insert]
    exact .inr h.known
  · intro hhas
    unfold entry at hhas
    rw [haccounts, ExtTreeMap.getElem?_insert] at hhas
    split_ifs at hhas with hkey
    · exact hadds (compare_eq_iff_eq.mp hkey) h hhas
    · exact hhas

end Calm

/-! ## Seedings -/

theorem idOf_official {clock : ℕ → UInt64} {locale : String} {profiles : List Value}
    (h : officialDefaultProfiles clock locale = .ok profiles) :
    ∀ profile ∈ profiles, ∃ id ∈ OFFICIAL_DEFAULT_PROFILE_IDS, idOf profile = some id := by
  intro profile hprofile
  unfold officialDefaultProfiles at h
  obtain ⟨⟨⟨raw, id⟩, index⟩, hmem, h⟩ := (Except.mem_of_mapM_eq_ok h).2 profile hprofile
  obtain ⟨fields, hfields, h⟩ := Except.bind_eq_ok.mp h
  obtain rfl := Except.ok.inj h
  exact ⟨id, (List.of_mem_zip (List.fst_mem_of_mem_zipIdx hmem)).2,
    idOf_of_stored (normalizeProfile_spec hfields)⟩

theorem idOf_fastest {clock : ℕ → UInt64} {locale : String} {profile : Value}
    (h : fastestDefaultProfile clock locale = .ok profile) :
    idOf profile = some FASTEST_DEFAULT_PROFILE_ID := by
  unfold fastestDefaultProfile at h
  obtain ⟨fields, hfields, h⟩ := Except.bind_eq_ok.mp h
  obtain rfl := Except.ok.inj h
  exact idOf_of_stored (normalizeProfile_spec hfields)

/-- A profile that is added has its own id. -/
theorem hasProfile_addOfficial {account : AccountStore} {profile : Value} {id : String}
    (hprofile : idOf profile ≠ some id) (h : hasProfile (addOfficial account profile) id = true) :
    hasProfile account id = true := by
  unfold addOfficial at h
  split_ifs at h
  · simpa [hasProfile, hprofile] using h
  · exact h

theorem hasProfile_foldl_addOfficial {profiles : List Value} {account : AccountStore} {id : String}
    (hprofiles : ∀ profile ∈ profiles, idOf profile ≠ some id)
    (h : hasProfile (profiles.foldl addOfficial account) id = true) :
    hasProfile account id = true := by
  induction profiles generalizing account with
  | nil => exact h
  | cons profile profiles ih =>
      refine hasProfile_addOfficial (hprofiles profile List.mem_cons_self) (ih ?_ h)
      exact fun other hother => hprofiles other (List.mem_cons_of_mem _ hother)

theorem hasProfile_addFastest {account : AccountStore} {profile : Value} {id : String}
    (hprofile : idOf profile ≠ some id) (h : hasProfile (addFastest account profile) id = true) :
    hasProfile account id = true := by
  unfold addFastest at h
  dsimp only at h
  split_ifs at h
  · simpa [hasProfile, hprofile] using h
  · simpa [hasProfile, hprofile] using h
  · exact h
  · exact h

section calm

variable (id key : String)

theorem calm_seedOfficial (clock : ℕ → UInt64) (data : StoreFile) (other : String) :
    Calm id key data (seedOfficial clock other data) := by
  obtain ⟨-, hmarked, hseeds⟩ := exec_seedOfficial clock other data
  by_cases hother : other ∈ data.migration.officialDefaultProfilesSeededForAccounts
  · rw [hmarked hother]
    exact .refl id key data
  · obtain ⟨profiles, hprofiles, hseeded⟩ := hseeds hother
    rw [hseeded]
    refine .insert rfl ?_ ?_ ?_
    · intro key hkey
      dsimp only
      split_ifs
      · exact List.mem_append_left _ hkey
      · exact hkey
    · intro key hkey
      dsimp only
      split_ifs
      · exact hkey
      · exact hkey
    · rintro rfl hsettled hhas
      refine hasProfile_foldl_addOfficial (fun profile hprofile hid => ?_) hhas
      obtain ⟨official, hofficial, hidOf⟩ := idOf_official hprofiles profile hprofile
      obtain rfl := Option.some.inj (hidOf.symm.trans hid)
      exact hother (hsettled.official hofficial)

theorem calm_seedFastest (clock : ℕ → UInt64) (data : StoreFile) (other : String) :
    Calm id key data (seedFastest clock other data) := by
  obtain ⟨-, hmarked, hseeds⟩ := exec_seedFastest clock other data
  by_cases hother : other ∈ data.migration.fastestDefaultProfileSeededForAccounts
  · rw [hmarked hother]
    exact .refl id key data
  · obtain ⟨profile, hprofile, hseeded⟩ := hseeds hother
    rw [hseeded]
    refine .insert rfl ?_ ?_ ?_
    · intro key hkey
      dsimp only
      split_ifs
      · exact hkey
      · exact hkey
    · intro key hkey
      dsimp only
      split_ifs
      · exact List.mem_append_left _ hkey
      · exact hkey
    · rintro rfl hsettled hhas
      refine hasProfile_addFastest (fun hid => ?_) hhas
      have hfastest := Option.some.inj (hid.symm.trans (idOf_fastest hprofile))
      exact hother (hsettled.fastest hfastest)

/-- An account that has a record is not copied again. -/
theorem calm_adoptLegacy (data : StoreFile) (other : String) :
    Calm id key data (adoptLegacy other data) := by
  by_cases hother : other ∈ data.accounts
  · unfold adoptLegacy
    rw [if_pos hother]
    exact .refl id key data
  · obtain ⟨-, hofficial, hfastest⟩ := adoptLegacy_same other data
    refine .insert (adoptLegacy_accounts hother) ?_ ?_ ?_
    · rw [hofficial]
      exact fun _ hkey => hkey
    · rw [hfastest]
      exact fun _ hkey => hkey
    · rintro rfl hsettled
      exact absurd hsettled.known hother

theorem calm_activation {clock : ℕ → UInt64} {other : String} {data data' : StoreFile}
    {outcome : StoreResult Unit} (h : (activation clock other).exec data = (outcome, data')) :
    Calm id key data data' := by
  rw [exec_activation] at h
  obtain ⟨-, rfl⟩ := Prod.mk.inj h
  refine (calm_adoptLegacy id key data other).trans ?_
  refine (calm_seedOfficial id key clock _ other).trans ?_
  refine (calm_seedFastest id key clock _ other).trans ?_
  exact fun hsettled => ⟨⟨⟨hsettled.official, hsettled.fastest⟩, hsettled.known⟩, fun hhas => hhas⟩

theorem calm_repair (data : StoreFile) : Calm id key data { data with
    accounts := data.accounts.map fun _ account => validateDefault account } := by
  intro hsettled
  refine ⟨⟨⟨hsettled.official, hsettled.fastest⟩, ?_⟩, ?_⟩
  · rw [ExtTreeMap.mem_map]
    exact hsettled.known
  · intro hhas
    unfold entry at hhas ⊢
    rw [ExtTreeMap.getElem?_map] at hhas
    rcases hget : data.accounts[key]? with _ | account
    · rw [hget] at hhas
      exact hhas
    · rw [hget] at hhas
      exact hhas

theorem calm_opened (clock : String → ℕ → UInt64) (data : StoreFile) :
    Calm id key data (opened clock data) := by
  have hofficial := Calm.foldl
    (fun data other => calm_seedOfficial id key (clock other) data other) data.accounts.keys data
  unfold opened
  dsimp only
  generalize data.accounts.keys.foldl (fun data key => seedOfficial (clock key) key data) data =
    official at hofficial ⊢
  have hfastest := Calm.foldl
    (fun data other => calm_seedFastest id key (clock other) data other) official.accounts.keys
    official
  exact hofficial.trans (hfastest.trans (calm_repair id key _))

/-- Requests leave the marks and the records of accounts. -/
theorem settled_mutation {clock : ℕ → UInt64} {method : String} {params : Value}
    {change : Mutation Value} {outcome : StoreResult Value} {data data' : StoreFile}
    (hmutation : mutation clock method params = some change)
    (hexec : change.exec data = (outcome, data')) (h : Settled id key data) :
    Settled id key data' := by
  have hkeeps : Keeps (fun other => other.migration = data.migration) change :=
    keeps_mutation (fun _ _ h => h) (fun _ _ h => h) hmutation
  have hmigration : data'.migration = data.migration := hkeeps.of_exec rfl hexec
  refine ⟨⟨?_, ?_⟩, ?_⟩
  · rw [hmigration]
    exact h.official
  · rw [hmigration]
    exact h.fastest
  · rcases mutation_effect hmutation hexec with haccounts | ⟨account, haccounts, -⟩
    · rw [haccounts]
      exact h.known
    · rw [haccounts, ExtTreeMap.mem_insert]
      exact .inr h.known

end calm

/-! ## Runs -/

/-- The account is marked, and has a record, in memory and in the file. -/
structure World.Settled (id key : String) (world : World) : Prop where
  memory : ∀ data ∈ world.memory, Store.Settled id key data
  store : ∃ data, world.files.store = some data ∧ Store.Settled id key data

section runs

variable {id key : String} {world : World}

theorem initialData_of_store {disk : Disk} {legacy : Option Value} {files : Files}
    {stored data : StoreFile} (hstore : files.store = some stored)
    (h : initialData disk legacy files = .ok data) : data = stored := by
  unfold initialData at h
  rw [hstore] at h
  dsimp only at h
  unfold loadStore at h
  split_ifs at h
  exact (Except.ok.inj h).symm

theorem World.Settled.computes (h : world.Settled id key) {event : Event} {data : StoreFile}
    (hcomputes : Computes world event data) : Store.Settled id key data := by
  cases hcomputes with
  | request hmutation hexec =>
      have hsettled := settled_mutation id key hmutation hexec (h.memory _ rfl)
      exact ⟨⟨hsettled.official, hsettled.fastest⟩, hsettled.known⟩
  | activate _ hexec => exact (calm_activation id key hexec (h.memory _ rfl)).1
  | @restart _ data _ _ _ clock _ _ hinitial hexec =>
      obtain ⟨stored, hstore, hsettled⟩ := h.store
      obtain rfl := initialData_of_store hstore hinitial
      obtain ⟨changed, hopened⟩ := exec_opening clock data
      rw [hopened] at hexec
      obtain ⟨-, rfl⟩ := Prod.mk.inj hexec
      exact (calm_opened id key clock data hsettled).1

theorem World.Settled.step (h : world.Settled id key) (event : Event) :
    (world.step event).Settled id key := by
  obtain ⟨hmemory, hstore⟩ := world.step_spec event
  refine ⟨?_, ?_⟩
  · intro data hdata
    rcases hmemory data hdata with hdata | hcomputes | hleaves
    · exact h.memory data hdata
    · exact h.computes hcomputes
    · cases hleaves with
      | request hmutation hexec => exact settled_mutation id key hmutation hexec (h.memory _ rfl)
      | activate _ hexec => exact (calm_activation id key hexec (h.memory _ rfl)).1
  · rcases hstore with hstore | ⟨saved, hstore, -, hsaved | hcomputes⟩
    · rw [hstore]
      exact h.store
    · exact ⟨saved, hstore, h.memory saved hsaved⟩
    · exact ⟨saved, hstore, h.computes hcomputes⟩

theorem World.Settled.reachable {world' : World} (h : world.Settled id key)
    (hlater : Reachable (fun _ _ => True) world world') : world'.Settled id key := by
  induction hlater with
  | start => exact h
  | step event _ _ ih => exact ih.step event

theorem exec_deleteProfile {data data' : StoreFile} {params value : Value}
    (h : (deleteProfile params).exec data = (.ok value, data')) :
    ∃ object id, params.asObject = some object ∧ requiredString object "id" 128 = .ok id ∧
      data' = { data with
        accounts := data.accounts.insert (accountKey data) (validateDefault
          { entry data (accountKey data) with
            profiles := (entry data (accountKey data)).profiles.filter
              fun profile => idOf profile ≠ some id
            recents := (entry data (accountKey data)).recents.filter
              fun recent => ¬ isRecentOf id recent }) } := by
  rcases exec_liftResult_bind h with ⟨_, -, herror, -⟩ | ⟨object, hobject, h⟩
  · cases herror
  rcases exec_liftResult_bind h with ⟨_, -, herror, -⟩ | ⟨id, hid, h⟩
  · cases herror
  rw [exec_onAccount] at h
  obtain ⟨-, rfl⟩ := Prod.mk.inj h
  exact ⟨object, id, okOrElse_eq_ok hobject, hid, rfl⟩

/-- After a deletion that succeeds the record is there, in memory and in the file. -/
theorem settled_of_delete {data : StoreFile} {disk : Disk} {clock : ℕ → UInt64} {params value : Value}
    (hmemory : world.memory = some data) (hmarked : Marked id (accountKey data) data)
    (hdeleted : (requestInner disk clock "profiles.delete" params ⟨data, world.files⟩).1 =
      .ok value) :
    (world.step (.request disk clock "profiles.delete" params)).Settled id (accountKey data) := by
  obtain ⟨memory, files⟩ := world
  obtain rfl : memory = some data := hmemory
  obtain ⟨data', hexec, hdata, hsaved⟩ := requestInner_eq_ok rfl rfl hdeleted
  have hsettled : Store.Settled id (accountKey data)
      (requestInner disk clock "profiles.delete" params ⟨data, files⟩).2.data := by
    rw [hdata]
    obtain ⟨object, id', -, -, rfl⟩ := exec_deleteProfile hexec
    exact ⟨⟨hmarked.official, hmarked.fastest⟩, ExtTreeMap.mem_insert_self⟩
  refine ⟨?_, _, ?_, hsettled⟩
  · rintro _ ⟨⟩
    exact hsettled
  · rw [hdata]
    exact persist_eq_none hsaved

/-- **If the account is marked when a default profile is deleted from it, no later open or
activation puts a profile with that id back.** -/
theorem deleted_profile_stays_deleted {data : StoreFile} {disk : Disk} {clock : ℕ → UInt64}
    {params value : Value} {object : Map} {world' : World}
    (hmemory : world.memory = some data) (hobject : params.asObject = some object)
    (hid : requiredString object "id" 128 = .ok id) (hmarked : Marked id (accountKey data) data)
    (hdeleted : (requestInner disk clock "profiles.delete" params ⟨data, world.files⟩).1 =
      .ok value)
    (hlater : Reachable (fun _ _ => True)
      (world.step (.request disk clock "profiles.delete" params)) world') :
    (∀ data' ∈ (world.step (.request disk clock "profiles.delete" params)).memory,
      hasProfile (entry data' (accountKey data)) id = false) ∧
    (∀ disk clock lowercase name, ∀ before ∈ world'.memory,
      ∀ after ∈ (world'.step (.activate disk clock lowercase name)).memory,
        hasProfile (entry after (accountKey data)) id = true →
          hasProfile (entry before (accountKey data)) id = true) ∧
    ∀ disk clock legacy, ∃ before, world'.files.store = some before ∧
      ∀ after ∈ (world'.step (.restart disk clock legacy)).memory,
        hasProfile (entry after (accountKey data)) id = true →
          hasProfile (entry before (accountKey data)) id = true := by
  have hsettled := (settled_of_delete hmemory hmarked hdeleted).reachable hlater
  obtain ⟨memory', files'⟩ := world'
  refine ⟨?_, ?_, ?_⟩
  · obtain ⟨memory, files⟩ := world
    obtain rfl : memory = some data := hmemory
    rintro _ ⟨⟩
    obtain ⟨data', hexec, hdata, -⟩ := requestInner_eq_ok rfl rfl hdeleted
    obtain ⟨object', id', hobject', hid', rfl⟩ := exec_deleteProfile hexec
    obtain rfl := Option.some.inj (hobject'.symm.trans hobject)
    obtain rfl := Except.ok.inj (hid'.symm.trans hid)
    show hasProfile (entry (requestInner disk clock "profiles.delete" params
      ⟨data, files⟩).2.data _) id' = false
    rw [hdata]
    simp [entry, hasProfile, validateDefault]
  · intro disk clock lowercase name before hbefore after hafter hhas
    obtain rfl : memory' = some before := hbefore
    rcases (World.step_spec _ _).1 after hafter with hsame | hcomputes | hleaves
    · obtain rfl := Option.some.inj hsame
      exact hhas
    · cases hcomputes with
      | activate _ hexec =>
          exact (calm_activation id _ hexec (hsettled.memory _ rfl)).2 hhas
    · cases hleaves with
      | activate _ hexec =>
          exact (calm_activation id _ hexec (hsettled.memory _ rfl)).2 hhas
  · intro disk clock legacy
    obtain ⟨before, hstore, hbefore⟩ := hsettled.store
    refine ⟨before, hstore, fun after hafter hhas => ?_⟩
    cases World.step_restart_memory hafter with
    | @restart _ initial _ _ _ clock _ _ hinitial hexec =>
        obtain rfl := initialData_of_store hstore hinitial
        obtain ⟨changed, hopened⟩ := exec_opening clock initial
        rw [hopened] at hexec
        obtain ⟨-, rfl⟩ := Prod.mk.inj hexec
        exact (calm_opened id _ clock initial hbefore).2 hhas

end runs

/-! ## An account with room for one default profile -/

/-- One of the official default profiles. -/
def STREAMING : String := "proton-default-streaming-v1"

/-- The parameters of its deletion. -/
def deleteParams : Value := .object [("id", .string STREAMING)]

def deleteStreaming : Event := .request quietDisk (fun _ => 1) "profiles.delete" deleteParams

/-- A first open with a legacy file that has some profiles. -/
def openLegacy (count : ℕ) : Event :=
  .restart quietDisk (fun _ _ => 0) (some (.object
    [("profiles", .array (List.replicate count (.object [("id", .string "p")]))),
      ("version", .u64 1)]))

theorem deleted_profile_stays_deleted_seeded :
    ∃ data, (World.step {} (openLegacy 0)).memory = some data ∧ ∀ world',
      Reachable (fun _ _ => True) ((World.step {} (openLegacy 0)).step deleteStreaming) world' →
      ∀ disk clock legacy, ∃ before, world'.files.store = some before ∧
        ∀ after ∈ (world'.step (.restart disk clock legacy)).memory,
          hasProfile (entry after (accountKey data)) STREAMING = true →
            hasProfile (entry before (accountKey data)) STREAMING = true := by
  have hfacts : ((World.step {} (openLegacy 0)).memory.map fun data =>
      decide (accountKey data ∈ data.migration.officialDefaultProfilesSeededForAccounts) &&
        (requestInner quietDisk (fun _ => 1) "profiles.delete" deleteParams
          ⟨data, (World.step {} (openLegacy 0)).files⟩).1.isOk) = some true := by decide +kernel
  obtain ⟨data, hmemory, hfacts⟩ := Option.map_eq_some_iff.mp hfacts
  rw [Bool.and_eq_true, decide_eq_true_eq] at hfacts
  obtain ⟨value, hdeleted⟩ := isOk_iff.mp hfacts.2
  refine ⟨data, hmemory, fun world' hlater => ?_⟩
  have hid : requiredString [("id", .string STREAMING)] "id" 128 = .ok STREAMING := by
    decide +kernel
  have hmarked : Marked STREAMING (accountKey data) data :=
    ⟨fun _ => hfacts.1, fun hid => absurd hid (by decide)⟩
  exact (deleted_profile_stays_deleted hmemory rfl hid hmarked hdeleted hlater).2.2

/-- **In an account that had room for one of them, an official default profile that was deleted
comes back at the next open.** -/
theorem deleted_profile_comes_back :
    ¬ ∀ world data id clock params object value, Reachable (fun _ _ => True) {} world →
      world.memory = some data → params.asObject = some object →
      requiredString object "id" 128 = .ok id → id ∈ OFFICIAL_DEFAULT_PROFILE_IDS →
      hasProfile (entry data (accountKey data)) id = true →
      (requestInner quietDisk clock "profiles.delete" params ⟨data, world.files⟩).1 = .ok value →
      ∀ after ∈ ((world.step (.request quietDisk clock "profiles.delete" params)).step
        firstOpen).memory, hasProfile (entry after (accountKey data)) id = false := by
  intro h
  have hfacts : ((World.step {} (openLegacy 127)).memory.map fun data =>
      hasProfile (entry data (accountKey data)) STREAMING &&
        (requestInner quietDisk (fun _ => 1) "profiles.delete" deleteParams
          ⟨data, (World.step {} (openLegacy 127)).files⟩).1.isOk &&
        ((((World.step {} (openLegacy 127)).step deleteStreaming).step firstOpen).memory.any
          fun after => hasProfile (entry after (accountKey data)) STREAMING)) = some true := by
    decide +kernel
  obtain ⟨data, hmemory, hfacts⟩ := Option.map_eq_some_iff.mp hfacts
  rw [Bool.and_eq_true, Bool.and_eq_true] at hfacts
  obtain ⟨⟨hhas, hok⟩, hback⟩ := hfacts
  obtain ⟨value, hdeleted⟩ := isOk_iff.mp hok
  have hid : requiredString [("id", .string STREAMING)] "id" 128 = .ok STREAMING := by
    decide +kernel
  have hgone := h _ data STREAMING (fun _ => 1) deleteParams _ value
    (.step (openLegacy 127) .start trivial) hmemory rfl hid (by decide) hhas hdeleted
  rcases hafter : (((World.step {} (openLegacy 127)).step deleteStreaming).step firstOpen).memory
    with _ | after
  · rw [hafter] at hback
    cases hback
  · rw [hafter] at hback
    have hfalse := hgone after hafter
    rw [Option.any_some, hfalse] at hback
    cases hback

end ProtonVpnOmarchy.Agent.Store
