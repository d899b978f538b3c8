import ProtonVpnOmarchy.Agent.Store.Effects

/-!
# Seeding with default profiles

An account is seeded with the official default profiles and with the fastest one, each time until
they are all there at once; then it is marked, and not seeded again.

* `exists_officialDefaultProfiles`, `exists_fastestDefaultProfile` — the templates are valid.
* `exec_activation`, `exec_opening` — so an activation and an open never fail in memory, and what
  they do is a function of the data.
-/

namespace ProtonVpnOmarchy.Agent.Store

open Lib Lib.Fallible Splitd
open Std (ExtTreeMap)

/-! ## Templates -/

/-- A profile that is accepted whatever its id and its time. -/
def Acceptable (raw : Map) : Prop :=
  (profileTarget raw).isOk ∧ (profileSettings raw).isOk ∧ (connectAndGo raw).isOk

instance (raw : Map) : Decidable (Acceptable raw) := inferInstanceAs (Decidable (_ ∧ _))

theorem Acceptable.normalizeProfile {raw : Map} (h : Acceptable raw) (existing : Option Map)
    (id : String) (now : UInt64) : ∃ profile, normalizeProfile raw existing id now = .ok profile :=
  isOk_iff.mp (isOk_normalizeProfile_iff.mpr h)

/-- The templates depend on the language only. -/
theorem officialTemplates_eq (locale : String) :
    officialTemplates locale = officialTemplates (if isSpanish locale then "es" else "en") := by
  have hlocale : isSpanish (if isSpanish locale then "es" else "en") = isSpanish locale := by
    rcases isSpanish locale with _ | _
    · decide +kernel
    · decide +kernel
  unfold officialTemplates
  rw [hlocale]

theorem acceptable_officialTemplates (locale : String) :
    ∀ raw ∈ officialTemplates locale, Acceptable (Map.insertAll [] raw) := by
  rw [officialTemplates_eq]
  rcases isSpanish locale with _ | _
  · decide +kernel
  · decide +kernel

theorem exists_officialDefaultProfiles (clock : ℕ → UInt64) (locale : String) :
    ∃ profiles, officialDefaultProfiles clock locale = .ok profiles := by
  refine Except.exists_mapM_eq_ok fun x hx => ?_
  obtain ⟨⟨raw, id⟩, index⟩ := x
  have hraw : raw ∈ officialTemplates locale := (List.of_mem_zip (List.fst_mem_of_mem_zipIdx hx)).1
  obtain ⟨profile, hprofile⟩ := (acceptable_officialTemplates locale raw hraw).normalizeProfile none
    id (clock index)
  exact Except.exists_bind_eq_ok.mpr ⟨profile, hprofile, _, rfl⟩

theorem exists_fastestDefaultProfile (clock : ℕ → UInt64) (locale : String) :
    ∃ profile, fastestDefaultProfile clock locale = .ok profile := by
  have hacceptable : ∀ spanish : Bool, Acceptable (Map.insertAll []
      [("name", .string (if spanish then "Servidor más rápido" else "Fastest server")),
        ("targetKind", .string "fastest"), ("iconName", .string "Speed")]) := by decide +kernel
  obtain ⟨profile, hprofile⟩ := (hacceptable (isSpanish locale)).normalizeProfile none
    FASTEST_DEFAULT_PROFILE_ID (clock 6)
  exact Except.exists_bind_eq_ok.mpr ⟨profile, hprofile, _, rfl⟩

/-! ## The data after seeding -/

/-- The data after a seeding of one account with the official default profiles. -/
def seedOfficial (clock : ℕ → UInt64) (key : String) (data : StoreFile) : StoreFile :=
  ((seedAccountWithOfficialProfiles clock key).exec data).2

/-- The data after a seeding of one account with the fastest default profile. -/
def seedFastest (clock : ℕ → UInt64) (key : String) (data : StoreFile) : StoreFile :=
  ((seedAccountWithFastestProfile clock key).exec data).2

/-- A seeding leaves a marked account alone, and otherwise adds the profiles, and marks the account
if they are all there. -/
theorem exec_seedOfficial (clock : ℕ → UInt64) (key : String) (data : StoreFile) :
    (∃ changed, (seedAccountWithOfficialProfiles clock key).exec data =
      (.ok changed, seedOfficial clock key data)) ∧
    (key ∈ data.migration.officialDefaultProfilesSeededForAccounts →
      seedOfficial clock key data = data) ∧
    (key ∉ data.migration.officialDefaultProfilesSeededForAccounts → ∃ profiles,
      officialDefaultProfiles clock data.onboarding.locale = .ok profiles ∧
      let account := profiles.foldl addOfficial (entry data key)
      seedOfficial clock key data = { data with
        accounts := data.accounts.insert key account
        migration := if OFFICIAL_DEFAULT_PROFILE_IDS.all (hasProfile account) then
            { data.migration with
              officialDefaultProfilesSeededForAccounts :=
                data.migration.officialDefaultProfilesSeededForAccounts ++ [key] }
          else data.migration }) := by
  obtain ⟨profiles, hprofiles⟩ := exists_officialDefaultProfiles clock data.onboarding.locale
  unfold seedOfficial
  by_cases hmarked : key ∈ data.migration.officialDefaultProfilesSeededForAccounts
  · have hexec : (seedAccountWithOfficialProfiles clock key).exec data = (.ok false, data) := by
      unfold seedAccountWithOfficialProfiles
      rw [exec_bind]
      simp only [getData, exec_ofFun]
      rw [if_pos hmarked]
      rfl
    rw [hexec]
    exact ⟨⟨false, rfl⟩, fun _ => rfl, fun h => absurd hmarked h⟩
  · have hexec : (seedAccountWithOfficialProfiles clock key).exec data =
        (seedAccount key (profiles.foldl addOfficial (entry data key))
          (OFFICIAL_DEFAULT_PROFILE_IDS.all
            (hasProfile (profiles.foldl addOfficial (entry data key)))) fun migration =>
          { migration with
            officialDefaultProfilesSeededForAccounts :=
              migration.officialDefaultProfilesSeededForAccounts ++ [key] }).exec data := by
      unfold seedAccountWithOfficialProfiles
      rw [exec_bind]
      simp only [getData, exec_ofFun]
      rw [if_neg hmarked, exec_bind, exec_liftResult, hprofiles]
    rw [hexec]
    exact ⟨⟨_, rfl⟩, fun h => absurd h hmarked, fun _ => ⟨profiles, hprofiles, rfl⟩⟩

theorem exec_seedFastest (clock : ℕ → UInt64) (key : String) (data : StoreFile) :
    (∃ changed, (seedAccountWithFastestProfile clock key).exec data =
      (.ok changed, seedFastest clock key data)) ∧
    (key ∈ data.migration.fastestDefaultProfileSeededForAccounts →
      seedFastest clock key data = data) ∧
    (key ∉ data.migration.fastestDefaultProfileSeededForAccounts → ∃ profile,
      fastestDefaultProfile clock data.onboarding.locale = .ok profile ∧
      let account := addFastest (entry data key) profile
      seedFastest clock key data = { data with
        accounts := data.accounts.insert key account
        migration := if hasProfile account FASTEST_DEFAULT_PROFILE_ID then
            { data.migration with
              fastestDefaultProfileSeededForAccounts :=
                data.migration.fastestDefaultProfileSeededForAccounts ++ [key] }
          else data.migration }) := by
  obtain ⟨profile, hprofile⟩ := exists_fastestDefaultProfile clock data.onboarding.locale
  unfold seedFastest
  by_cases hmarked : key ∈ data.migration.fastestDefaultProfileSeededForAccounts
  · have hexec : (seedAccountWithFastestProfile clock key).exec data = (.ok false, data) := by
      unfold seedAccountWithFastestProfile
      rw [exec_bind]
      simp only [getData, exec_ofFun]
      rw [if_pos hmarked]
      rfl
    rw [hexec]
    exact ⟨⟨false, rfl⟩, fun _ => rfl, fun h => absurd hmarked h⟩
  · have hexec : (seedAccountWithFastestProfile clock key).exec data =
        (seedAccount key (addFastest (entry data key) profile)
          (hasProfile (addFastest (entry data key) profile) FASTEST_DEFAULT_PROFILE_ID)
          fun migration =>
          { migration with
            fastestDefaultProfileSeededForAccounts :=
              migration.fastestDefaultProfileSeededForAccounts ++ [key] }).exec data := by
      unfold seedAccountWithFastestProfile
      rw [exec_bind]
      simp only [getData, exec_ofFun]
      rw [if_neg hmarked, exec_bind, exec_liftResult, hprofile]
    rw [hexec]
    exact ⟨⟨_, rfl⟩, fun h => absurd h hmarked, fun _ => ⟨profile, hprofile, rfl⟩⟩

/-- What the adoption of the unscoped record leaves alone. -/
theorem adoptLegacy_same (key : String) (data : StoreFile) :
    (adoptLegacy key data).onboarding = data.onboarding ∧
      (adoptLegacy key data).migration.officialDefaultProfilesSeededForAccounts =
        data.migration.officialDefaultProfilesSeededForAccounts ∧
      (adoptLegacy key data).migration.fastestDefaultProfileSeededForAccounts =
        data.migration.fastestDefaultProfileSeededForAccounts := by
  unfold adoptLegacy
  split_ifs
  · exact ⟨rfl, rfl, rfl⟩
  · exact ⟨rfl, rfl, rfl⟩
  · exact ⟨rfl, rfl, rfl⟩

theorem adoptLegacy_accounts {key : String} {data : StoreFile} (h : key ∉ data.accounts) :
    (adoptLegacy key data).accounts = data.accounts.insert key (entry data LEGACY_SCOPE) := by
  unfold adoptLegacy
  rw [if_neg h]

/-- **An activation does not fail in memory.** -/
theorem exec_activation (clock : ℕ → UInt64) (key : String) (data : StoreFile) :
    (activation clock key).exec data = (.ok (),
      let seeded := seedFastest clock key (seedOfficial clock key (adoptLegacy key data))
      { seeded with activeAccountKey := some key, revision := seeded.revision + 1 }) := by
  obtain ⟨changed, hofficial⟩ := (exec_seedOfficial clock key (adoptLegacy key data)).1
  obtain ⟨changed', hfastest⟩ :=
    (exec_seedFastest clock key (seedOfficial clock key (adoptLegacy key data))).1
  unfold activation
  simp only [exec_bind, exec_ofFun, exec_discard, hofficial, hfastest]

theorem exec_seedKnownAccounts {seed : String → Mutation Bool}
    {after : String → StoreFile → StoreFile}
    (h : ∀ key data, ∃ changed, (seed key).exec data = (.ok changed, after key data))
    (data : StoreFile) : ∃ changed, (seedKnownAccounts seed).exec data =
      (.ok changed, data.accounts.keys.foldl (fun data key => after key data) data) := by
  unfold seedKnownAccounts
  rw [exec_bind]
  refine exec_foldlM_eq_ok (fun changed key data => ?_) data.accounts.keys false data
  obtain ⟨changed', hseed⟩ := h key data
  refine ⟨changed' || changed, ?_⟩
  rw [exec_bind, hseed]
  rfl

/-- The data after an open. -/
def opened (clock : String → ℕ → UInt64) (data : StoreFile) : StoreFile :=
  let official := data.accounts.keys.foldl (fun data key => seedOfficial (clock key) key data) data
  let fastest := official.accounts.keys.foldl
    (fun data key => seedFastest (clock key) key data) official
  { fastest with accounts := fastest.accounts.map fun _ account => validateDefault account }

/-- **An open does not fail in memory.** -/
theorem exec_opening (clock : String → ℕ → UInt64) (data : StoreFile) :
    ∃ changed, (opening clock).exec data = (.ok changed, opened clock data) := by
  obtain ⟨changed, hofficial⟩ := exec_seedKnownAccounts
    (fun key data => (exec_seedOfficial (clock key) key data).1) data
  obtain ⟨changed', hfastest⟩ := exec_seedKnownAccounts
    (fun key data => (exec_seedFastest (clock key) key data).1)
    (data.accounts.keys.foldl (fun data key => seedOfficial (clock key) key data) data)
  unfold opening
  simp only [exec_bind, hofficial, hfastest]
  exact ⟨_, rfl⟩

/-! ## Invariants of the data -/

/-- What is to be shown of a property of the data that holds in every run. -/
structure DataInvariant (I : StoreFile → Prop) : Prop where
  fresh : I {}
  legacy : ∀ account, I { ({} : StoreFile) with
    accounts := (∅ : ExtTreeMap String AccountStore).insert LEGACY_SCOPE account
    migration := { legacyQtStoreImported := true }
    revision := 1 }
  adoptLegacy : ∀ key {data}, I data → I (adoptLegacy key data)
  seedOfficial : ∀ clock key {data}, I data → I (seedOfficial clock key data)
  seedFastest : ∀ clock key {data}, I data → I (seedFastest clock key data)
  activate : ∀ key revision {data}, I data →
    I { data with activeAccountKey := some key, revision := revision }
  repair : ∀ {data}, I data → I { data with
    accounts := data.accounts.map fun _ account => validateDefault account }
  mutation : ∀ {clock method params change data outcome data'},
    mutation clock method params = some change → change.exec data = (outcome, data') →
    I data → I data'
  revision : ∀ revision {data}, I data → I { data with revision := revision }

namespace DataInvariant

variable {I : StoreFile → Prop} (h : DataInvariant I) {data data' : StoreFile}

include h

theorem activation {clock : ℕ → UInt64} {key : String} {outcome : StoreResult Unit}
    (hexec : (activation clock key).exec data = (outcome, data')) (hdata : I data) : I data' := by
  rw [exec_activation] at hexec
  obtain ⟨-, rfl⟩ := Prod.mk.inj hexec
  exact h.activate key _ (h.seedFastest clock key (h.seedOfficial clock key
    (h.adoptLegacy key hdata)))

theorem opened (clock : String → ℕ → UInt64) (hdata : I data) : I (opened clock data) := by
  have hofficial : I (data.accounts.keys.foldl
      (fun data key => Store.seedOfficial (clock key) key data) data) :=
    List.foldlRecOn _ _ hdata fun data hdata key _ => h.seedOfficial (clock key) key hdata
  refine h.repair (List.foldlRecOn _ _ hofficial fun data hdata key _ => ?_)
  exact h.seedFastest (clock key) key hdata

theorem initialData {disk : Disk} {legacy : Option Value} {files : Files} (hfiles : files.Holds I)
    (hinitial : initialData disk legacy files = .ok data) : I data := by
  unfold Store.initialData at hinitial
  split at hinitial
  · rename_i stored hstore
    unfold loadStore at hinitial
    split_ifs at hinitial
    obtain rfl := Except.ok.inj hinitial
    exact hfiles stored hstore
  · obtain rfl := Except.ok.inj hinitial
    unfold importLegacy
    split
    · exact h.fresh
    · dsimp only
      split_ifs
      · exact h.legacy _
      · exact h.fresh

theorem computes {world : World} {event : Event} (hmemory : ∀ data ∈ world.memory, I data)
    (hfiles : world.files.Holds I) (hcomputes : Computes world event data) : I data := by
  cases hcomputes with
  | request hmutation hexec =>
      exact h.revision _ (h.mutation hmutation hexec (hmemory _ rfl))
  | activate _ hexec => exact h.activation hexec (hmemory _ rfl)
  | @restart _ initial _ _ _ clock _ _ hinitial hexec =>
      obtain ⟨changed, hopened⟩ := exec_opening clock initial
      rw [hopened] at hexec
      obtain ⟨-, rfl⟩ := Prod.mk.inj hexec
      exact h.opened clock (h.initialData hfiles hinitial)

/-- One event. -/
theorem step {world : World} (event : Event) (hmemory : ∀ data ∈ world.memory, I data)
    (hfiles : world.files.Holds I) :
    (∀ data ∈ (world.step event).memory, I data) ∧ (world.step event).files.Holds I := by
  obtain ⟨hmemory', hstore⟩ := world.step_spec event
  refine ⟨?_, ?_⟩
  · intro data hdata
    rcases hmemory' data hdata with hdata | hcomputes | hleaves
    · exact hmemory data hdata
    · exact h.computes hmemory hfiles hcomputes
    · cases hleaves with
      | request hmutation hexec => exact h.mutation hmutation hexec (hmemory _ rfl)
      | activate _ hexec => exact h.activation hexec (hmemory _ rfl)
  · intro data hdata
    rcases hstore with hstore | ⟨saved, hstore, -, hsaved⟩
    · rw [hstore] at hdata
      exact hfiles data hdata
    · rw [hstore] at hdata
      obtain rfl := Option.some.inj hdata
      rcases hsaved with hsaved | hcomputes
      · exact hmemory saved hsaved
      · exact h.computes hmemory hfiles hcomputes

/-- **What is kept by every change of the data holds in every run, in memory and in the file.** -/
theorem reachable {allowed : World → Event → Prop} {world : World}
    (hreachable : Reachable allowed {} world) :
    (∀ data ∈ world.memory, I data) ∧ world.files.Holds I := by
  induction hreachable with
  | start => exact ⟨nofun, nofun⟩
  | step event _ _ ih => exact h.step event ih.1 ih.2

end DataInvariant

end ProtonVpnOmarchy.Agent.Store
