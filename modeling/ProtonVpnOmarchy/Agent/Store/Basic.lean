import ProtonVpnOmarchy.Agent.Store.Recents
import ProtonVpnOmarchy.Lib.Text

/-!
# The canonical store

`store.rs`: the agent keeps profiles, recent connections, excluded locations and the default
connection of each account, and the onboarding data of the user, in one file. Here are the data and
every request, as what it reads (`query`) or as the change it makes in memory (`mutation`).

The clock is a parameter of every operation that reads it: `clock i` is the reading at the `i`-th
place in its source.
-/

namespace ProtonVpnOmarchy.Agent.Store

open Lib Lib.Fallible Splitd
open Std (ExtTreeMap)

/-! ## The data -/

def STORE_VERSION : UInt32 := 1
def MAX_PROFILES : ℕ := 128
def MAX_EXCLUDED_LOCATIONS : ℕ := 256
def MAX_PAGE_SIZE : ℕ := 100
def LEGACY_SCOPE : String := "legacy-unscoped"

def OFFICIAL_DEFAULT_PROFILE_IDS : List String :=
  ["proton-default-streaming-v1", "proton-default-gaming-v1", "proton-default-p2p-v1",
    "proton-default-max-security-v1", "proton-default-work-school-v1",
    "proton-default-random-v1"]

def FASTEST_DEFAULT_PROFILE_ID : String := "proton-default-fastest-v1"

/-- Source: `store.rs` `fastest_default_connection` -/
def fastestDefaultConnection : Value := .obj [("type", .string "fastest")]

/-- Source: `store.rs` `Onboarding` -/
@[ext] structure Onboarding where
  complete : Bool := false
  locale : String := "en"
  startWithOmarchy : Bool := true
  autoConnect : Bool := false
  notificationsEnabled : Bool := true
  portForwardingNotificationsEnabled : Bool := true
  deriving DecidableEq

/-- Source: `store.rs` `MigrationState` -/
structure MigrationState where
  legacyQtStoreImported : Bool := false
  copiedToAccountKeys : List String := []
  officialDefaultProfilesSeededForAccounts : List String := []
  fastestDefaultProfileSeededForAccounts : List String := []
  deriving DecidableEq

/-- Source: `store.rs` `ExcludedLocation` -/
structure ExcludedLocation where
  kind : String
  countryCode : String
  state : String
  city : String
  deriving DecidableEq

/-- Source: `store.rs` `AccountStore` -/
structure AccountStore where
  profiles : List Value := []
  recents : List Value := []
  excludedLocations : List ExcludedLocation := []
  defaultConnection : Value := fastestDefaultConnection
  uiPreferences : Value := .obj []
  deriving DecidableEq

/-- Source: `store.rs` `StoreFile` -/
structure StoreFile where
  version : UInt32 := STORE_VERSION
  revision : UInt64 := 0
  onboarding : Onboarding := {}
  activeAccountKey : Option String := none
  accounts : ExtTreeMap String AccountStore := ∅
  migration : MigrationState := {}

/-- Source: `store.rs` `account_ref` -/
def accountRef (data : StoreFile) : AccountStore :=
  (((data.activeAccountKey.bind fun key => data.accounts[key]?)).or
    data.accounts[LEGACY_SCOPE]?).getD {}

/-- The key of the account that requests change. -/
def accountKey (data : StoreFile) : String := data.activeAccountKey.getD LEGACY_SCOPE

/-- Computations on the data. -/
abbrev Mutation (α : Type) := Fallible BackendError StoreFile α

def liftResult {α : Type} (result : StoreResult α) : Mutation α := ofFun fun data => (result, data)

/-- The record that requests change; there is one afterwards. Source: `store.rs` `account_mut` -/
def accountMut : Mutation AccountStore := ofFun fun data =>
  let account := (data.accounts[accountKey data]?).getD {}
  (.ok account, { data with accounts := data.accounts.insert (accountKey data) account })

/-- Write the record back. -/
def setAccount (account : AccountStore) : Mutation Unit := ofFun fun data =>
  (.ok (), { data with accounts := data.accounts.insert (accountKey data) account })

/-- Write the onboarding data. -/
def setOnboarding (change : Onboarding → Onboarding) : Mutation Unit := ofFun fun data =>
  (.ok (), { data with onboarding := change data.onboarding })

def getData : Mutation StoreFile := ofFun fun data => (.ok data, data)

/-! ## Preferences -/

/-- Source: `store.rs` `complete_onboarding` -/
def completeOnboarding (params : Value) : Mutation Value := do
  let object ← liftResult (objectParams params)
  let locale ← liftResult (localeValue (object.get "locale"))
  setOnboarding fun onboarding => { onboarding with locale := locale }
  let startWithOmarchy ← liftResult (requiredBool object "start_with_omarchy")
  setOnboarding fun onboarding => { onboarding with startWithOmarchy := startWithOmarchy }
  let autoConnect ← liftResult (requiredBool object "auto_connect")
  setOnboarding fun onboarding =>
    { onboarding with
      autoConnect := autoConnect
      startWithOmarchy := onboarding.startWithOmarchy || autoConnect
      complete := true }
  return .obj [("onboarding_complete", .bool true)]

/-- One field of `preferences.set`, if it is given. -/
def setPreference {α : Type} (object : Map) (key : String) (read : Value → StoreResult α)
    (write : Onboarding → α → Onboarding) : Mutation Unit :=
  match object.get key with
  | none => pure ()
  | some value => do
    let value ← liftResult (read value)
    setOnboarding fun onboarding => write onboarding value

/-- A boolean of `preferences.set`. -/
def readFlag (key : String) (value : Value) : StoreResult Bool :=
  okOrElse value.asBool (invalidParams (key ++ " must be a boolean"))

/-- Source: `store.rs` `set_preferences`, the dependent switches -/
def reconcileSwitches (onboarding : Onboarding) : Onboarding :=
  let onboarding := if onboarding.autoConnect then { onboarding with startWithOmarchy := true }
    else onboarding
  if ¬ onboarding.startWithOmarchy then { onboarding with autoConnect := false } else onboarding

/-- Source: `store.rs` `set_preferences` -/
def setPreferences (params : Value) : Mutation Value := do
  let object ← liftResult (objectParams params)
  setPreference object "locale" (fun value => localeValue (some value))
    fun onboarding locale => { onboarding with locale := locale }
  setPreference object "start_with_omarchy" (readFlag "start_with_omarchy")
    fun onboarding flag => { onboarding with startWithOmarchy := flag }
  setPreference object "auto_connect" (readFlag "auto_connect")
    fun onboarding flag => { onboarding with autoConnect := flag }
  setPreference object "notifications_enabled" (readFlag "notifications_enabled")
    fun onboarding flag => { onboarding with notificationsEnabled := flag }
  setPreference object "port_forwarding_notifications_enabled"
    (readFlag "port_forwarding_notifications_enabled")
    fun onboarding flag => { onboarding with portForwardingNotificationsEnabled := flag }
  setOnboarding reconcileSwitches
  return .obj [("updated", .bool true)]

/-! ## Excluded locations -/

/-- The fields of one location, read in order. -/
def excludedLocation (item : Value) : StoreResult ExcludedLocation := do
  let object ← okOrElse item.asObject
    (invalidParams "Each excluded location must be an object")
  let kind ← requiredString object "kind" 16
  reject (toAsciiLowercase kind ∉ ["country", "state", "city"])
    (.new "invalid_excluded_location" "Excluded location kind must be country, state or city")
  let countryCode ← requiredString object "country_code" 2
  reject (countryCode.utf8ByteSize ≠ 2 ∨ ¬ countryCode.toList.all Char.isAlpha)
    (.new "invalid_excluded_location" "Excluded locations require a two-letter country code")
  let state ← stringValue (object.get "state") 128 true
  let city ← stringValue (object.get "city") 128 true
  reject ((toAsciiLowercase kind = "state" ∧ state = "") ∨
      (toAsciiLowercase kind = "city" ∧ city = ""))
    (.new "invalid_excluded_location"
      "Excluded state and city entries require their location name")
  return ⟨toAsciiLowercase kind, toAsciiUppercase countryCode, state, city⟩

/-- Two locations with one key are one. -/
def ExcludedLocation.key (location : ExcludedLocation) : String :=
  location.kind ++ ":" ++ location.countryCode ++ ":" ++ toAsciiLowercase location.state ++ ":" ++
    toAsciiLowercase location.city

/-- The first location of each key. -/
def firstLocations (locations : List ExcludedLocation) : List ExcludedLocation :=
  locations.foldl (fun kept location =>
    if kept.any fun other => other.key = location.key then kept else kept ++ [location]) []

def ExcludedLocation.toValue (location : ExcludedLocation) : Value :=
  .obj [("kind", .string location.kind), ("country_code", .string location.countryCode),
    ("state", .string location.state), ("city", .string location.city)]

/-- A change of the record of the account. -/
def onAccount (change : AccountStore → StoreResult (Value × AccountStore)) : Mutation Value := do
  let account ← accountMut
  let (value, account) ← liftResult (change account)
  setAccount account
  return value

/-- Source: `store.rs` `set_excluded_locations` -/
def setExcludedLocations (params : Value) : Mutation Value := do
  let object ← liftResult (objectParams params)
  let raw ← liftResult (okOrElse ((object.get "items").bind Value.asArray)
    (invalidParams "items must be an array"))
  liftResult (reject (MAX_EXCLUDED_LOCATIONS < raw.length)
    (.new "excluded_location_limit_reached" "Too many excluded locations"))
  let locations ← liftResult (raw.mapM excludedLocation)
  onAccount fun account =>
    .ok (.obj [("items", .array ((firstLocations locations).map ExcludedLocation.toValue))],
      { account with excludedLocations := firstLocations locations })

/-! ## The default connection -/

/-- Source: `store.rs` `normalize_default` -/
def normalizeDefault (selection : Map) (account : AccountStore) : StoreResult Value := do
  let kind ← stringOr selection "type" "fastest" 32
  match kind with
  | "fastest" | "random" | "last" => return .obj [("type", .string kind)]
  | "recent" =>
    let id ← requiredString selection "recentId" 128
    reject (¬ account.recents.any fun value => idOf value = some id)
      (.new "recent_not_found" "Default recent connection was not found")
    return .obj [("type", .string "recent"), ("recentId", .string id)]
  | "profile" =>
    let id ← requiredString selection "profileId" 128
    reject (¬ account.profiles.any fun value => idOf value = some id)
      (.new "profile_not_found" "Default profile was not found")
    return .obj [("type", .string "profile"), ("profileId", .string id)]
  | _ =>
    throw (.new "invalid_default_connection" "Unsupported default connection type")

/-- Source: `store.rs` `validate_default` -/
def validateDefault (account : AccountStore) : AccountStore :=
  { account with
    defaultConnection :=
      match account.defaultConnection.asObject.map (normalizeDefault · account) with
      | some (.ok normalized) => normalized
      | _ => fastestDefaultConnection }

/-- Source: `store.rs` `set_default_connection` -/
def setDefaultConnection (params : Value) : Mutation Value := do
  let object ← liftResult (objectParams params)
  let selection ← liftResult (okOrElse ((object.get "selection").bind Value.asObject)
    (invalidParams "selection must be an object"))
  onAccount fun account => do
    let defaultConnection ← normalizeDefault selection account
    return (.obj [("default_connection", defaultConnection)],
      { account with defaultConnection := defaultConnection })

/-- Source: `store.rs` `resolve_connection` -/
def resolveConnection (account : AccountStore) (params : Value) : StoreResult Value := do
  let selection ← okOrElse
    (((params.get "selection").bind Value.asObject).or account.defaultConnection.asObject)
    (.new "invalid_default_connection" "Default connection selection is invalid")
  match textOr selection "type" "fastest" with
  | "fastest" =>
    return .obj [("selection", .obj [("type", .string "fastest")]),
      ("connect_params", .obj [("target", .obj [])])]
  | "random" =>
    return .obj [("selection", .obj [("type", .string "random")]),
      ("connect_params", .obj [("target", .obj [("random", .bool true)])])]
  | "last" =>
    match mostRecentConnection account.recents with
    | some recent => resolvedRecent account.profiles recent "last"
    | none =>
      return .obj [("selection", .obj [("type", .string "last")]),
        ("fallback", .string "fastest"), ("connect_params", .obj [("target", .obj [])])]
  | "recent" =>
    let id ← requiredString selection "recentId" 128
    let recent ← okOrElse (findById account.recents id)
      (.new "recent_not_found" "Default recent connection was not found")
    resolvedRecent account.profiles recent "recent"
  | "profile" =>
    let id ← requiredString selection "profileId" 128
    let profile ← okOrElse (findById account.profiles id)
      (.new "profile_not_found" "Default profile was not found")
    resolvedProfile profile "profile"
  | _ => throw (.new "invalid_default_connection" "Unsupported default connection type")

/-! ## Profiles -/

/-- Replace the first record with the id, or add one. -/
def putById (values : List Value) (id : String) (value : Value) : List Value :=
  match values.findIdx? fun other => idOf other = some id with
  | some index => values.set index value
  | none => values ++ [value]

def profileLimitReached : BackendError :=
  .new "profile_limit_reached" "Maximum profile count reached"

/-- Source: `store.rs` `save_profile`, on the record of the account -/
def saveProfileIn (clock : ℕ → UInt64) (raw : Map) (account : AccountStore) :
    StoreResult (Value × AccountStore) := do
  let existingId ← stringValue (raw.get "id") 128 false
  reject (existingId = "" ∧ MAX_PROFILES ≤ account.profiles.length) profileLimitReached
  let id := if existingId = "" then uniqueId "profile" (clock 0) account.profiles else existingId
  let existing := (findById account.profiles id).bind Value.asObject
  let profile ← normalizeProfile raw existing id (clock 1)
  return (.obj [("profile", .object profile)],
    { account with profiles := putById account.profiles id (.object profile) })

/-- Source: `store.rs` `save_profile` -/
def saveProfile (clock : ℕ → UInt64) (params : Value) : Mutation Value := do
  let object ← liftResult (objectParams params)
  let raw ← liftResult (okOrElse ((object.get "profile").bind Value.asObject)
    (invalidParams "profile must be an object"))
  onAccount (saveProfileIn clock raw)

/-- One of the names that `copy_name` tries. -/
def copyCandidate (source : String) (sequence : ℕ) : String :=
  let suffix := if sequence = 1 then " copy" else " copy " ++ toString sequence
  String.ofList (source.toList.take (60 - suffix.length)) ++ suffix

/-- Source: `store.rs` `copy_name` -/
def copyName (source : String) (profiles : List Value) : String :=
  ((((List.range (MAX_PROFILES + 1)).map fun n => copyCandidate source (n + 1)).find?
    fun candidate => ¬ profiles.any fun profile =>
      ((profile.get "name").bind Value.asStr).any fun name =>
        toAsciiLowercase name = toAsciiLowercase candidate)).getD
    (String.ofList (source.toList.take 60))

/-- The name of a duplicate: the requested one, else one made from that of the source. -/
def duplicateName (object duplicate : Map) (profiles : List Value) : StoreResult String := do
  let requestedName ← stringValue (object.get "name") 60 true
  if requestedName = "" then do
    let sourceName ← requiredString duplicate "name" 60
    return copyName sourceName profiles
  else return requestedName

/-- Source: `store.rs` `duplicate_profile`, on the record of the account -/
def duplicateProfileIn (clock : ℕ → UInt64) (object : Map) (sourceId : String)
    (account : AccountStore) : StoreResult (Value × AccountStore) := do
  reject (MAX_PROFILES ≤ account.profiles.length) profileLimitReached
  let source ← okOrElse ((findById account.profiles sourceId).bind Value.asObject)
    (.new "profile_not_found" "Profile was not found")
  let duplicate := ((source.remove "id").remove "createdAtMs").remove "updatedAtMs"
  let name ← duplicateName object duplicate account.profiles
  let id := uniqueId "profile" (clock 0) account.profiles
  let profile ← normalizeProfile (duplicate.insert "name" (.string name)) none id (clock 1)
  return (.obj [("profile", .object profile), ("source_id", .string sourceId)],
    { account with profiles := account.profiles ++ [.object profile] })

/-- Source: `store.rs` `duplicate_profile` -/
def duplicateProfile (clock : ℕ → UInt64) (params : Value) : Mutation Value := do
  let object ← liftResult (objectParams params)
  let sourceId ← liftResult (requiredString object "id" 128)
  onAccount (duplicateProfileIn clock object sourceId)

/-- The recent connection is one to the profile. -/
def isRecentOf (id : String) (recent : Value) : Bool :=
  (recent.get "kind").bind Value.asStr = some "profile" &&
    (recent.get "profileId").bind Value.asStr = some id

/-- Source: `store.rs` `delete_profile` -/
def deleteProfile (params : Value) : Mutation Value := do
  let object ← liftResult (objectParams params)
  let id ← liftResult (requiredString object "id" 128)
  onAccount fun account =>
    let profiles := account.profiles.filter fun profile => idOf profile ≠ some id
    .ok (.obj [("deleted", .bool (profiles.length ≠ account.profiles.length))],
      validateDefault { account with
        profiles := profiles
        recents := account.recents.filter fun recent => ¬ isRecentOf id recent })

/-! ## Recent connections -/

/-- The key of a stored recent connection. -/
def keyOf (value : Value) : Option String := value.asObject.map recentKey

/-- The fields that a recorded connection takes from the clock and from an earlier one. -/
def recordFields (clock : ℕ → UInt64) (recents : List Value) (reused : Option Value) :
    List (String × Value) :=
  let newest := (recents.map fun value => numberOf value "lastConnectionTimeMs").foldl max 0
  [("id", .string ((reused.bind idOf).getD (uniqueId "recent" (clock 0) recents))),
    ("pinned", .bool ((reused.map isPinned).getD false)),
    ("pinTimeMs", .u64 ((reused.map fun value => numberOf value "pinTimeMs").getD 0)),
    ("lastConnectionTimeMs", .u64 (max (clock 1) (newest + 1)))]

/-- A recent connection to a profile names one that is there. -/
def checkRecentProfile (recent : Map) (kind : String) (profiles : List Value) : StoreResult Unit :=
  if kind = "profile" then do
    let profileId ← requiredString recent "profileId" 128
    reject (¬ profiles.any fun profile => idOf profile = some profileId)
      (.new "profile_not_found" "Recent profile was not found")
  else .ok ()

/-- Source: `store.rs` `record_recent`, on the record of the account -/
def recordRecentIn (clock : ℕ → UInt64) (recent : Map) (kind : String) (account : AccountStore) :
    StoreResult (Value × AccountStore) := do
  checkRecentProfile recent kind account.profiles
  let reused := (account.recents.find? fun candidate => keyOf candidate = some (recentKey recent))
  let recents := account.recents.filter fun candidate => keyOf candidate ≠ some (recentKey recent)
  let output := Value.object (recent.insertAll (recordFields clock recents reused))
  return (.obj [("recent", output)],
    validateDefault { account with recents := trimRecents (output :: recents) })

/-- Source: `store.rs` `record_recent` -/
def recordRecent (clock : ℕ → UInt64) (params : Value) : Mutation Value := do
  let object ← liftResult (objectParams params)
  let raw ← liftResult (okOrElse ((object.get "recent").bind Value.asObject)
    (invalidParams "recent must be an object"))
  let recent ← liftResult (normalizeRecent raw)
  let kind ← liftResult (requiredString recent "kind" 32)
  onAccount (recordRecentIn clock recent kind)

/-- The recent connection with another mark. -/
def withPin (clock : ℕ → UInt64) (pinned : Bool) (recent : Map) : Value :=
  .object ((recent.insert "pinned" (.bool pinned)).insert "pinTimeMs"
    (.u64 (if pinned then clock 0 else 0)))

/-- Source: `store.rs` `pin_recent`, on the record of the account -/
def pinRecentIn (clock : ℕ → UInt64) (id : String) (pinned : Bool) (account : AccountStore) :
    StoreResult (Value × AccountStore) := do
  let recent ← okOrElse ((findById account.recents id).bind Value.asObject)
    (.new "recent_not_found" "Recent connection was not found")
  return (.obj [("updated", .bool true)],
    { account with recents := trimRecents (putById account.recents id
        (withPin clock pinned recent)) })

/-- Source: `store.rs` `pin_recent` -/
def pinRecent (clock : ℕ → UInt64) (params : Value) : Mutation Value := do
  let object ← liftResult (objectParams params)
  let id ← liftResult (requiredString object "id" 128)
  let pinned ← liftResult (requiredBool object "pinned")
  onAccount (pinRecentIn clock id pinned)

/-- Source: `store.rs` `delete_recent` -/
def deleteRecent (params : Value) : Mutation Value := do
  let object ← liftResult (objectParams params)
  let id ← liftResult (requiredString object "id" 128)
  onAccount fun account =>
    let recents := account.recents.filter fun recent => idOf recent ≠ some id
    .ok (.obj [("deleted", .bool (recents.length ≠ account.recents.length))],
      validateDefault { account with recents := recents })

/-! ## Requests -/

/-- The data that is published. Source: `store.rs` `store_state`, `summary_value` -/
def summaryValue (data : StoreFile) : Value :=
  let account := accountRef data
  .obj [("revision", .u64 data.revision), ("ready", .bool true),
    ("onboarding_complete", .bool data.onboarding.complete),
    ("locale", .string data.onboarding.locale),
    ("start_with_omarchy", .bool data.onboarding.startWithOmarchy),
    ("auto_connect", .bool data.onboarding.autoConnect),
    ("notifications_enabled", .bool data.onboarding.notificationsEnabled),
    ("port_forwarding_notifications_enabled",
      .bool data.onboarding.portForwardingNotificationsEnabled),
    ("account_scope_known", .bool data.activeAccountKey.isSome),
    ("profile_count", .u64 (.ofNat account.profiles.length)),
    ("recent_count", .u64 (.ofNat account.recents.length)),
    ("default_connection", account.defaultConnection),
    ("migration_available", .bool data.migration.legacyQtStoreImported)]

/-- Source: `store.rs` `list_collection` -/
def listCollection (params : Value) (collection : AccountStore → List Value) (data : StoreFile) :
    StoreResult Value := do
  let offset ← boundedUsize params "offset" 0 (2 ^ 64 - 1)
  let limit ← boundedUsize params "limit" 50 MAX_PAGE_SIZE
  let items := collection (accountRef data)
  return .obj [("items", .array ((items.drop offset).take limit)),
    ("offset", .u64 (.ofNat offset)), ("limit", .u64 (.ofNat limit)),
    ("total", .u64 (.ofNat items.length)),
    ("has_more", .bool (min (offset + limit) (2 ^ 64 - 1) < items.length)),
    ("store_revision", .u64 data.revision)]

/-- A request that only reads. Source: `store.rs` `request_inner` -/
def query (method : String) (params : Value) (data : StoreFile) : Option (StoreResult Value) :=
  match method with
  | "store.get" => some (.ok (summaryValue data))
  | "profiles.list" => some (listCollection params AccountStore.profiles data)
  | "recents.list" => some (listCollection params AccountStore.recents data)
  | "excluded_locations.get" =>
    some (.ok (.obj [("items",
      .array ((accountRef data).excludedLocations.map ExcludedLocation.toValue))]))
  | "connection.resolve" => some (resolveConnection (accountRef data) params)
  | _ => none

/-- A request that changes the data. Source: `store.rs` `request_inner` -/
def mutation (clock : ℕ → UInt64) (method : String) (params : Value) : Option (Mutation Value) :=
  match method with
  | "onboarding.complete" => some (completeOnboarding params)
  | "preferences.set" => some (setPreferences params)
  | "profiles.save" => some (saveProfile clock params)
  | "profiles.duplicate" => some (duplicateProfile clock params)
  | "profiles.delete" => some (deleteProfile params)
  | "excluded_locations.set" => some (setExcludedLocations params)
  | "recents.record" => some (recordRecent clock params)
  | "recents.pin" => some (pinRecent clock params)
  | "recents.delete" => some (deleteRecent params)
  | "default_connection.set" => some (setDefaultConnection params)
  | _ => none

end ProtonVpnOmarchy.Agent.Store
