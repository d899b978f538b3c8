import ProtonVpnOmarchy.Agent.Store.Basic

/-!
# Runs of the canonical store

What surrounds the changes in memory: `mutate` saves them or takes them back, an account that is
activated is seeded with default profiles, and an open reads a file or imports the one of an older
application, and repairs it. The outcome of every write is a parameter (`Disk`). A run of the store
is a sequence of requests, activations and restarts (`Reachable`).
-/

namespace ProtonVpnOmarchy.Agent.Store

open Lib Lib.Fallible Splitd
open Std (ExtTreeMap)

/-! ## Saving -/

/-- The rest of the system while one operation of the store runs. -/
structure Disk where
  /-- Why the `n`-th write of the operation fails. -/
  fails : ℕ → Option String
  /-- The length of the JSON text of the data. -/
  size : StoreFile → ℕ

def MAX_STORE_BYTES : ℕ := 1024 * 1024

/-- What the files hold: the store, the onboarding data of the lifecycle file, and whether the
autostart is registered. -/
structure Files where
  store : Option StoreFile := none
  lifecycle : Option Onboarding := none
  autostart : Option Bool := none

/-- The data in memory and the files. -/
structure StoreState where
  data : StoreFile
  files : Files

/-- Source: `store.rs` `store_io_error` -/
def storeIoError (error : String) : BackendError :=
  { code := "store_io"
    message := "Unable to persist canonical state: " ++ error
    retryable := true }

/-- A write: the `n`-th one of the operation. -/
def write (disk : Disk) (n : ℕ) (files : Files) : Except String Files :=
  match disk.fails n with
  | some error => .error error
  | none => .ok files

/-- The file is replaced as a whole. Source: `store.rs` `save_store` -/
def saveStore (disk : Disk) (n : ℕ) (data : StoreFile) (files : Files) : Except String Files :=
  if MAX_STORE_BYTES < disk.size data then .error "canonical store exceeds the size limit"
  else write disk n { files with store := some data }

/-- Source: `store.rs` `save_lifecycle` -/
def saveLifecycle (disk : Disk) (n : ℕ) (onboarding : Onboarding) (files : Files) :
    Except String Files := write disk n { files with lifecycle := some onboarding }

/-- Source: `store.rs` `sync_autostart_registration` -/
def syncAutostartRegistration (disk : Disk) (n : ℕ) (enabled : Bool) (files : Files) :
    Except String Files := write disk n { files with autostart := some enabled }

/-- A write whose outcome is ignored. -/
def attempt (save : Files → Except String Files) (files : Files) : Files :=
  match save files with
  | .ok files => files
  | .error _ => files

/-- The lifecycle file depends on these fields. -/
def lifecycleChanged (previous onboarding : Onboarding) : Bool :=
  onboarding.complete ≠ previous.complete || onboarding.locale ≠ previous.locale ||
    onboarding.startWithOmarchy ≠ previous.startWithOmarchy ||
    onboarding.autoConnect ≠ previous.autoConnect

/-- The files after a rollback of `mutate`. -/
def restoreFiles (disk : Disk) (previous : StoreFile) (files : Files) : Files :=
  attempt (saveLifecycle disk 3 previous.onboarding)
    (attempt (saveStore disk 2 previous) files)

/-- The writes of `mutate` after the data was changed, with the error of the first that fails. -/
def persist (disk : Disk) (previous data : StoreFile) (files : Files) : Option String × Files :=
  match saveStore disk 0 data files with
  | .error error => (some error, files)
  | .ok files =>
    match if lifecycleChanged previous.onboarding data.onboarding then
        saveLifecycle disk 1 data.onboarding files
      else .ok files with
    | .error error => (some error, restoreFiles disk previous files)
    | .ok files =>
      match if data.onboarding.startWithOmarchy ≠ previous.onboarding.startWithOmarchy then
          syncAutostartRegistration disk 4 data.onboarding.startWithOmarchy files
        else .ok files with
      | .error error =>
        (some error, attempt
          (syncAutostartRegistration disk 5 previous.onboarding.startWithOmarchy)
          (restoreFiles disk previous files))
      | .ok files => (none, files)

/-- Source: `store.rs` `mutate` -/
def mutate (disk : Disk) (change : Mutation Value) (state : StoreState) :
    StoreResult Value × StoreState :=
  match change.exec state.data with
  | (.error error, data) => (.error error, { state with data := data })
  | (.ok value, data) =>
    let data := { data with revision := data.revision + 1 }
    match persist disk state.data data state.files with
    | (none, files) => (.ok value, ⟨data, files⟩)
    | (some error, files) => (.error (storeIoError error), ⟨state.data, files⟩)

/-- Source: `store.rs` `request_inner` -/
def requestInner (disk : Disk) (clock : ℕ → UInt64) (method : String) (params : Value)
    (state : StoreState) : StoreResult Value × StoreState :=
  match query method params state.data with
  | some result => (result, state)
  | none =>
    match mutation clock method params with
    | some change => mutate disk change state
    | none => (.error (.new "method_not_found" "Unknown canonical-store method"), state)

/-! ## Default profiles -/

/-- The language of a locale is Spanish. -/
def isSpanish (locale : String) : Bool :=
  toAsciiLowercase ((localeParts (locale.map fun c => if c = '_' then '-' else c)).headD "") = "es"

/-- The templates of the official default profiles.
Source: `store.rs` `official_default_profiles` -/
def officialTemplates (locale : String) : List Map :=
  let spanish := isSpanish locale
  let name (english translated : String) : String × Value :=
    ("name", .string (if spanish then translated else english))
  [[name "Streaming US" "Streaming EE. UU.", ("targetKind", .string "country"),
      ("countryCode", .string "US"),
      ("countryName", .string (if spanish then "Estados Unidos" else "United States")),
      ("iconName", .string "Streaming")],
    [name "Gaming" "Juegos", ("targetKind", .string "p2p"), ("iconName", .string "Gaming"),
      ("profileNatType", .string "moderate")],
    [name "P2P" "P2P", ("targetKind", .string "p2p"), ("iconName", .string "Download"),
      ("profilePortForwardingEnabled", .bool true)],
    [name "Max security" "Seguridad máxima", ("targetKind", .string "secureCore"),
      ("iconName", .string "Protection")],
    [name "Work/School" "Trabajo/Escuela", ("targetKind", .string "fastest"),
      ("iconName", .string "Business"), ("profileProtocol", .string "protun-tls"),
      ("profileNetShieldEnabled", .bool true), ("profileNetShieldLevel", .u64 1),
      ("profileNatType", .string "moderate")],
    [name "Random connection" "Conexión aleatoria", ("targetKind", .string "random"),
      ("iconName", .string "Browsing")]]

/-- Source: `store.rs` `official_default_profiles` -/
def officialDefaultProfiles (clock : ℕ → UInt64) (locale : String) : StoreResult (List Value) :=
  (((officialTemplates locale).zip OFFICIAL_DEFAULT_PROFILE_IDS).zipIdx).mapM
    fun ((raw, id), index) =>
      return .object (← normalizeProfile (Map.insertAll [] raw) none id (clock index))

/-- Source: `store.rs` `fastest_default_profile` -/
def fastestDefaultProfile (clock : ℕ → UInt64) (locale : String) : StoreResult Value :=
  return .object (← normalizeProfile (Map.insertAll []
    [("name", .string (if isSpanish locale then "Servidor más rápido" else "Fastest server")),
      ("targetKind", .string "fastest"), ("iconName", .string "Speed")]) none
    FASTEST_DEFAULT_PROFILE_ID (clock 6))

def hasProfile (account : AccountStore) (id : String) : Bool :=
  account.profiles.any fun profile => idOf profile = some id

/-- Add a default profile that is not there, within the limit. -/
def addOfficial (account : AccountStore) (profile : Value) : AccountStore :=
  if ¬ hasProfile account ((idOf profile).getD "") ∧ account.profiles.length < MAX_PROFILES then
    { account with profiles := account.profiles ++ [profile] }
  else account

/-- The record of an account that is made if it is not there: `entry(key).or_default()` -/
def entry (data : StoreFile) (key : String) : AccountStore := (data.accounts[key]?).getD {}

/-- The record of an account and the mark of its seeding; the result says whether something
changed. -/
def seedAccount (key : String) (account : AccountStore) (complete : Bool)
    (mark : MigrationState → MigrationState) : Mutation Bool := ofFun fun data =>
  (.ok (account.profiles.length ≠ (entry data key).profiles.length || complete), { data with
    accounts := data.accounts.insert key account
    migration := if complete then mark data.migration else data.migration })

/-- Source: `store.rs` `seed_account_with_official_profiles` -/
def seedAccountWithOfficialProfiles (clock : ℕ → UInt64) (key : String) : Mutation Bool := do
  let data ← getData
  if key ∈ data.migration.officialDefaultProfilesSeededForAccounts then pure false
  else do
    let templates ← liftResult (officialDefaultProfiles clock data.onboarding.locale)
    let account := templates.foldl addOfficial (entry data key)
    seedAccount key account (OFFICIAL_DEFAULT_PROFILE_IDS.all (hasProfile account))
      fun migration =>
        { migration with
          officialDefaultProfilesSeededForAccounts :=
            migration.officialDefaultProfilesSeededForAccounts ++ [key] }

/-- Source: `store.rs` `seed_account_with_fastest_profile`, on the record of the account -/
def addFastest (account : AccountStore) (profile : Value) : AccountStore :=
  let account :=
    if ¬ hasProfile account FASTEST_DEFAULT_PROFILE_ID ∧ account.profiles.length < MAX_PROFILES then
      { account with profiles := profile :: account.profiles }
    else account
  if hasProfile account FASTEST_DEFAULT_PROFILE_ID ∧
      (account.defaultConnection.get "type").bind Value.asStr = some "fastest" then
    { account with
      defaultConnection := .obj [("type", .string "profile"),
        ("profileId", .string FASTEST_DEFAULT_PROFILE_ID)] }
  else account

/-- Source: `store.rs` `seed_account_with_fastest_profile` -/
def seedAccountWithFastestProfile (clock : ℕ → UInt64) (key : String) : Mutation Bool := do
  let data ← getData
  if key ∈ data.migration.fastestDefaultProfileSeededForAccounts then pure false
  else do
    let profile ← liftResult (fastestDefaultProfile clock data.onboarding.locale)
    let account := addFastest (entry data key) profile
    seedAccount key account (hasProfile account FASTEST_DEFAULT_PROFILE_ID) fun migration =>
      { migration with
        fastestDefaultProfileSeededForAccounts :=
          migration.fastestDefaultProfileSeededForAccounts ++ [key] }

/-! ## Accounts -/

/-- Source: `store.rs` `account_fingerprint`; `lowercase` is `str::to_lowercase`. -/
def accountFingerprint (lowercase : String → String) (accountName : String) : String :=
  let hash := (utf8 (lowercase (trim accountName))).foldl
    (fun (hash : UInt64) byte => (hash ^^^ byte.toUInt64) * 0x100000001b3) 0xcbf29ce484222325
  "account-" ++ hexPadded 16 hash.toNat

/-- The record of an account that is seen for the first time is a copy of the legacy one. -/
def adoptLegacy (key : String) (data : StoreFile) : StoreFile :=
  if key ∈ data.accounts then data
  else
    { data with
      accounts := data.accounts.insert key (entry data LEGACY_SCOPE)
      migration :=
        if data.migration.legacyQtStoreImported ∧ key ∉ data.migration.copiedToAccountKeys then
          { data.migration with
            copiedToAccountKeys := data.migration.copiedToAccountKeys ++ [key] }
        else data.migration }

/-- Source: `store.rs` `activate_account`, the change of the data -/
def activation (clock : ℕ → UInt64) (key : String) : Mutation Unit := do
  ofFun fun data => (.ok (), adoptLegacy key data)
  discard (seedAccountWithOfficialProfiles clock key)
  discard (seedAccountWithFastestProfile clock key)
  ofFun fun data => (.ok (), { data with
    activeAccountKey := some key
    revision := data.revision + 1 })

/-- Source: `store.rs` `activate_account` -/
def activateAccount (disk : Disk) (clock : ℕ → UInt64) (lowercase : String → String)
    (accountName : Option String) (state : StoreState) : StoreResult Value × StoreState :=
  match (accountName.map trim).filter (· ≠ "") with
  | none => (.ok (.obj [("changed", .bool false)]), state)
  | some name =>
    let key := accountFingerprint lowercase name
    if state.data.activeAccountKey = some key then (.ok (.obj [("changed", .bool false)]), state)
    else
      match (activation clock key).exec state.data with
      | (.error error, data) => (.error error, { state with data := data })
      | (.ok (), data) =>
        match saveStore disk 0 data state.files with
        | .error error => (.error (storeIoError error), state)
        | .ok files => (.ok (.obj [("changed", .bool true)]), ⟨data, files⟩)

/-! ## Opening -/

/-- The record that a legacy file is turned into.
Source: `store.rs` `import_legacy` -/
def legacyAccount (object : Map) : AccountStore :=
  let array (key : String) : List Value := ((object.get key).bind Value.asArray).getD []
  let account : AccountStore :=
    { profiles := (array "profiles").take MAX_PROFILES
      recents := trimRecents (array "recents")
      uiPreferences := (object.get "ui_preferences").getD (.obj []) }
  match (object.get "default_connection").bind Value.asObject with
  | none => account
  | some selection =>
    { account with
      defaultConnection :=
        match normalizeDefault selection account with
        | .ok value => value
        | .error _ => fastestDefaultConnection }

/-- Source: `store.rs` `import_legacy`; without a readable legacy file there is nothing to do. -/
def importLegacy (legacy : Option Value) (data : StoreFile) : StoreFile :=
  match legacy.bind Value.asObject with
  | none => data
  | some object =>
    let version := (((object.get "version").bind Value.asU64).getD 0).toNat
    if 1 ≤ version ∧ version ≤ 4 then
      { data with
        accounts := data.accounts.insert LEGACY_SCOPE (legacyAccount object)
        migration := { data.migration with legacyQtStoreImported := true }
        revision := data.revision + 1 }
    else data

/-- Source: `store.rs` `repair_default_connections` -/
def repairDefaultConnections : Mutation Bool := ofFun fun data =>
  (.ok (data.accounts.values.any fun account =>
      (validateDefault account).defaultConnection ≠ account.defaultConnection),
    { data with accounts := data.accounts.map fun _ account => validateDefault account })

/-- A seeding of all known accounts, each with its own readings of the clock.
Source: `store.rs` `seed_known_accounts_with_official_profiles`,
`seed_known_accounts_with_fastest_profile` -/
def seedKnownAccounts (seed : String → Mutation Bool) : Mutation Bool := do
  let data ← getData
  data.accounts.keys.foldlM (fun changed key => return (← seed key) || changed) false

/-- Source: `store.rs` `StoreHandle::open`, the changes of the data -/
def opening (clock : String → ℕ → UInt64) : Mutation Bool := do
  let official ← seedKnownAccounts fun key => seedAccountWithOfficialProfiles (clock key) key
  let fastest ← seedKnownAccounts fun key => seedAccountWithFastestProfile (clock key) key
  let repaired ← repairDefaultConnections
  return official || fastest || repaired

/-- Source: `store.rs` `load_store` -/
def loadStore (disk : Disk) (data : StoreFile) : Except String StoreFile :=
  if MAX_STORE_BYTES < disk.size data + 1 then .error "canonical store exceeds the size limit"
  else if data.version ≠ STORE_VERSION then
    .error ("unsupported canonical store version " ++ toString data.version)
  else .ok data

/-- The data that an open starts with. -/
def initialData (disk : Disk) (legacy : Option Value) (files : Files) : Except String StoreFile :=
  match files.store with
  | some data => loadStore disk data
  | none => .ok (importLegacy legacy {})

/-- The writes of an open, with the error of the first that fails. -/
def persistOpened (disk : Disk) (data : StoreFile) (changed : Bool) (files : Files) :
    Option String × Files :=
  match if files.store.isNone ∨ changed then saveStore disk 0 data files else .ok files with
  | .error error => (some error, files)
  | .ok files =>
    match saveLifecycle disk 1 data.onboarding files with
    | .error error => (some error, files)
    | .ok files =>
      match syncAutostartRegistration disk 2 data.onboarding.startWithOmarchy files with
      | .error error => (some error, files)
      | .ok files => (none, files)

/-- Source: `store.rs` `StoreHandle::open` -/
def openStore (disk : Disk) (clock : String → ℕ → UInt64) (legacy : Option Value) (files : Files) :
    Except String StoreFile × Files :=
  match initialData disk legacy files with
  | .error error => (.error error, files)
  | .ok data =>
    match (opening clock).exec data with
    | (.error error, _) => (.error error.message, files)
    | (.ok changed, data) =>
      match persistOpened disk data changed files with
      | (some error, files) => (.error error, files)
      | (none, files) => (.ok data, files)

/-! ## Runs -/

/-- The store of an agent, which need not be open, and its files. -/
structure World where
  memory : Option StoreFile := none
  files : Files := {}

/-- What can happen to a store. -/
inductive Event where
  | request (disk : Disk) (clock : ℕ → UInt64) (method : String) (params : Value)
  | activate (disk : Disk) (clock : ℕ → UInt64) (lowercase : String → String)
    (accountName : Option String)
  | restart (disk : Disk) (clock : String → ℕ → UInt64) (legacy : Option Value)

def World.step (world : World) : Event → World
  | .request disk clock method params =>
    match world.memory with
    | none => world
    | some data =>
      let state := (requestInner disk clock method params ⟨data, world.files⟩).2
      ⟨some state.data, state.files⟩
  | .activate disk clock lowercase accountName =>
    match world.memory with
    | none => world
    | some data =>
      let state := (activateAccount disk clock lowercase accountName ⟨data, world.files⟩).2
      ⟨some state.data, state.files⟩
  | .restart disk clock legacy =>
    match openStore disk clock legacy world.files with
    | (.ok data, files) => ⟨some data, files⟩
    | (.error _, files) => ⟨none, files⟩

/-- The worlds that are reached by events that are each allowed where they happen. -/
inductive Reachable (allowed : World → Event → Prop) (start : World) : World → Prop
  | start : Reachable allowed start start
  | step {world : World} (event : Event) (h : Reachable allowed start world)
      (hallowed : allowed world event) : Reachable allowed start (world.step event)

end ProtonVpnOmarchy.Agent.Store
