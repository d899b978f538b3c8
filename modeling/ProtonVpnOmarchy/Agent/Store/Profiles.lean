import ProtonVpnOmarchy.Agent.Store.Params

/-!
# Profiles

A profile is stored as `normalize_profile` leaves it: an object whose fields were read from the
request, bounded, and completed with defaults. `resolved_profile` turns a stored profile into the
parameters of a connection.

* `normalizeProfile_spec` — the fields of a stored profile that others read again.
* `isOk_normalizeProfile_iff` — the fields that are checked; the id is none of them.
* `resolvedProfile_of_stored` — stored profiles can be connected to, if their id can be read.
-/

namespace ProtonVpnOmarchy.Agent.Store

open Lib Splitd

/-! ## Normalisation -/

/-- A text field of a request that is copied if it is not empty; a country code is two letters.
Source: `store.rs` `insert_profile_string`, `insert_recent_string` -/
def insertString (source target : Map) (key : String) (maxChars : ℕ) (uppercase : Bool) :
    StoreResult Map := do
  let value ← stringValue (source.get key) maxChars true
  if value = "" then return target
  else if uppercase then do
    reject (value.utf8ByteSize ≠ 2 ∨ ¬ value.toList.all Char.isAlpha)
      (invalidParams (key ++ " must be a two-letter country code"))
    return target.insert key (.string (toAsciiUppercase value))
  else return target.insert key (.string value)

/-- Source: `store.rs` `insert_profile_string` -/
def insertProfileString := insertString

/-- The location fields of a profile, with their bounds; the codes are upper case. -/
def profileStrings : List (String × ℕ × Bool) :=
  [("countryCode", 2, true), ("countryName", 128, false), ("entryCountryCode", 2, true),
    ("entryCountryName", 128, false), ("state", 128, false), ("city", 128, false),
    ("serverName", 128, false), ("gatewayName", 128, false)]

/-- Source: `store.rs` `profile_target_valid` -/
def profileTargetValid (kind : String) (value : Map) : Bool :=
  match kind with
  | "fastest" | "random" | "p2p" | "tor" => true
  | "secureCore" => !nonempty value "entryCountryCode" || nonempty value "countryCode"
  | "country" => nonempty value "countryCode"
  | "state" => nonempty value "countryCode" && nonempty value "state"
  | "city" => nonempty value "countryCode" && nonempty value "city"
  | "server" => nonempty value "countryCode" && nonempty value "serverName"
  | "gateway" => nonempty value "gatewayName"
  | "gatewayServer" => nonempty value "gatewayName" && nonempty value "serverName"
  | _ => false

/-- Source: `store.rs` `profile_mode` -/
def profileMode (raw : Map) (key : String) (allowed : List String) : StoreResult String := do
  let value ← stringOr raw key "inherit" 16
  if toAsciiLowercase value ∈ allowed then return toAsciiLowercase value
  else throw (invalidParams (key ++ " contains an unsupported policy"))

/-- One address of `profileCustomDnsServers`; a blank one is left out. -/
def profileDnsServer (value : Value) : StoreResult (Option String) :=
  match value.asStr with
  | none => .error (.new "invalid_dns" "Profile DNS servers must be strings")
  | some text =>
    if trim text = "" then .ok none
    else
      match IpAddr.fromStr (trim text) with
      | some address => .ok (some address.display)
      | none => .error (.new "invalid_dns" "Profile DNS servers must be valid IP addresses")

/-- The first occurrences. -/
def firstOccurrences (texts : List String) : List String :=
  texts.foldl (fun kept text => if text ∈ kept then kept else kept ++ [text]) []

theorem firstOccurrences_concat (texts : List String) (text : String) :
    firstOccurrences (texts ++ [text]) =
      if text ∈ firstOccurrences texts then firstOccurrences texts
      else firstOccurrences texts ++ [text] := by
  unfold firstOccurrences
  rw [List.foldl_append]
  rfl

theorem mem_firstOccurrences {texts : List String} {text : String} :
    text ∈ firstOccurrences texts ↔ text ∈ texts := by
  induction texts using List.reverseRecOn with
  | nil => exact Iff.rfl
  | append_singleton texts last ih =>
      rw [firstOccurrences_concat, List.mem_append, List.mem_singleton, ← ih]
      split_ifs with hlast
      · refine ⟨.inl, ?_⟩
        rintro (h | rfl)
        · exact h
        · exact hlast
      · rw [List.mem_append, List.mem_singleton]

theorem firstOccurrences_sublist (texts : List String) :
    (firstOccurrences texts).Sublist texts := by
  induction texts using List.reverseRecOn with
  | nil => exact List.Sublist.refl []
  | append_singleton texts last ih =>
      rw [firstOccurrences_concat]
      split_ifs
      · exact ih.trans (List.sublist_append_left _ _)
      · exact ih.append (List.Sublist.refl [last])

theorem length_firstOccurrences_le (texts : List String) :
    (firstOccurrences texts).length ≤ texts.length := (firstOccurrences_sublist texts).length_le

theorem firstOccurrences_eq_nil {texts : List String} (h : firstOccurrences texts = []) :
    texts = [] := by
  refine List.eq_nil_iff_forall_not_mem.mpr fun text htext => ?_
  rw [← mem_firstOccurrences, h] at htext
  cases htext

theorem nodup_firstOccurrences (texts : List String) : (firstOccurrences texts).Nodup := by
  induction texts using List.reverseRecOn with
  | nil => exact List.nodup_nil
  | append_singleton texts last ih =>
      rw [firstOccurrences_concat]
      split_ifs with hlast
      · exact ih
      · exact List.nodup_append.mpr ⟨ih, List.nodup_singleton last, by
          rintro text htext _ hmem rfl
          exact hlast (List.mem_singleton.mp hmem ▸ htext)⟩

theorem firstOccurrences_of_nodup {texts : List String} (h : texts.Nodup) :
    firstOccurrences texts = texts := by
  induction texts using List.reverseRecOn with
  | nil => rfl
  | append_singleton texts last ih =>
      obtain ⟨hnodup, -, hdisjoint⟩ := List.nodup_append.mp h
      have hlast : last ∉ texts := fun hmem => hdisjoint last hmem last (by simp) rfl
      rw [firstOccurrences_concat, ih hnodup, if_neg hlast]

theorem firstOccurrences_cons (text : String) (texts : List String) :
    firstOccurrences (text :: texts) = text :: (firstOccurrences texts).filter (· ≠ text) := by
  induction texts using List.reverseRecOn with
  | nil => rfl
  | append_singleton texts last ih =>
      rw [← List.cons_append, firstOccurrences_concat, firstOccurrences_concat, ih]
      by_cases hlast : last = text
      · subst hlast
        split_ifs with h h'
        · rfl
        · simp
        · simp at h
        · simp at h
      · have hmem : last ∈ text :: (firstOccurrences texts).filter (· ≠ text) ↔
            last ∈ firstOccurrences texts := by simp [hlast]
        by_cases h : last ∈ firstOccurrences texts
        · rw [if_pos h, if_pos (hmem.mpr h)]
        · rw [if_neg h, if_neg (mt hmem.mp h), List.filter_append]
          simp [hlast]

/-- Source: `store.rs` `profile_dns_servers` -/
def profileDnsServers (value : Option Value) : StoreResult (List String) :=
  match value with
  | none => .ok []
  | some value =>
    match value.asArray with
    | none =>
      .error (.new "invalid_dns" "profileCustomDnsServers must be an array of IP addresses")
    | some values => do
      reject (16 < values.length)
        (.new "invalid_dns" "A profile can contain at most 16 custom DNS servers")
      let servers ← values.mapM profileDnsServer
      return firstOccurrences (servers.filterMap id)

/-- What a profile connects to. -/
structure ProfileTarget where
  name : String
  targetKind : String
  selectionStrategy : String
  locations : Map

/-- Source: `store.rs` `normalize_profile`, up to the check of the target -/
def profileTarget (raw : Map) : StoreResult ProfileTarget := do
  let name ← requiredString raw "name" 60
  let targetKind ← stringOr raw "targetKind" "fastest" 32
  let selectionStrategy ← stringOr raw "selectionStrategy"
    (if targetKind = "random" then "random" else "fastest") 16
  reject (toAsciiLowercase selectionStrategy ∉ ["fastest", "random"])
    (.new "invalid_profile_target" "Profile selection strategy is unsupported")
  let locations ← profileStrings.foldlM (fun target (key, maxChars, uppercase) =>
    insertProfileString raw target key maxChars uppercase) []
  reject (¬ profileTargetValid targetKind locations)
    (.new "invalid_profile_target" "Profile target is incomplete or unsupported")
  return ⟨name, targetKind, toAsciiLowercase selectionStrategy, locations⟩

def supportedProtocols : List String :=
  ["smart", "wireguard-udp", "wireguard-tcp", "wireguard-tls", "protun-udp", "protun-tcp",
    "protun-tls", "openvpn-udp", "openvpn-tcp"]

/-- Source: `store.rs` `normalize_profile`, the settings of the connection -/
def profileSettings (raw : Map) : StoreResult (List (String × Value)) := do
  let protocol ← stringOr raw "profileProtocol" "smart" 32
  let protocol := if toAsciiLowercase protocol ∈ supportedProtocols then toAsciiLowercase protocol
    else "smart"
  let excludeMyCountry ← optionalBool raw "excludeMyCountry" false
  let iconName ← stringOr raw "iconName" "Speed" 64
  let color ← stringOr raw "color" "#C857E7" 32
  let netShieldEnabled ← optionalBool raw "profileNetShieldEnabled" true
  let netShieldLevel := min (((raw.get "profileNetShieldLevel").bind Value.asU64).getD 2) 2
  let nat ← stringOr raw "profileNatType" "strict" 16
  let nat := if toAsciiLowercase nat = "moderate" then "moderate" else "strict"
  let portForwarding ← optionalBool raw "profilePortForwardingEnabled" false
  let customDnsMode ← profileMode raw "profileCustomDnsMode" ["inherit", "off", "custom"]
  let customDnsServers ← profileDnsServers (raw.get "profileCustomDnsServers")
  reject (customDnsMode = "custom" ∧ customDnsServers = [])
    (.new "invalid_dns" "A custom DNS profile requires at least one DNS server")
  reject (customDnsMode = "custom" ∧ netShieldEnabled)
    (.new "profile_settings_conflict"
      "Custom DNS and NetShield cannot be enabled in the same profile")
  let lanMode ← profileMode raw "profileLanMode" ["inherit", "allow", "block"]
  let localDnsMode ← profileMode raw "profileLocalDnsMode" ["inherit", "allow", "block"]
  return [("excludeMyCountry", .bool excludeMyCountry), ("iconName", .string iconName),
    ("color", .string color), ("profileProtocol", .string protocol),
    ("profileNetShieldEnabled", .bool netShieldEnabled),
    ("profileNetShieldLevel", .u64 netShieldLevel), ("profileNatType", .string nat),
    ("profilePortForwardingEnabled", .bool (portForwarding && nat ≠ "moderate")),
    ("profileCustomDnsMode", .string customDnsMode),
    ("profileCustomDnsServers", .array (customDnsServers.map .string)),
    ("profileLanMode", .string lanMode), ("profileLocalDnsMode", .string localDnsMode)]

/-- Source: `store.rs` `normalize_profile`, what is opened after connecting -/
def connectAndGo (raw : Map) : StoreResult (List (String × Value)) := do
  let enabled ← optionalBool raw "connectAndGoEnabled" false
  let mode ← stringOr raw "connectAndGoMode" "website" 32
  reject (toAsciiLowercase mode ∉ ["website", "application"])
    (.new "invalid_connect_and_go" "Connect and Go mode must be website or application")
  let url ← stringOr raw "connectAndGoUrl" "" 2048
  let appId ← stringOr raw "connectAndGoAppId" "" 255
  let appPath ← stringOr raw "connectAndGoAppPath" "" 2048
  reject (enabled ∧ ((toAsciiLowercase mode = "website" ∧ url = "") ∨
      (toAsciiLowercase mode = "application" ∧ appId = "")))
    (.new "invalid_connect_and_go" "Connect and Go requires a website or installed application")
  let privateBrowsing ← optionalBool raw "connectAndGoUsePrivateBrowsingMode" false
  return [("connectAndGoEnabled", .bool enabled),
    ("connectAndGoMode", .string (toAsciiLowercase mode)), ("connectAndGoUrl", .string url),
    ("connectAndGoUsePrivateBrowsingMode", .bool privateBrowsing),
    ("connectAndGoAppId", .string appId), ("connectAndGoAppPath", .string appPath)]

/-- The time of creation: that of the stored profile, else a given one, else now. -/
def createdAt (raw : Map) (existing : Option Map) (now : UInt64) : UInt64 :=
  ((((existing.bind fun value => value.get "createdAtMs").bind Value.asU64).or
    ((raw.get "createdAtMs").bind Value.asU64)).filter fun value => 0 < value).getD now

/-- Source: `store.rs` `normalize_profile` -/
def normalizeProfile (raw : Map) (existing : Option Map) (id : String) (now : UInt64) :
    StoreResult Map := do
  let target ← profileTarget raw
  let settings ← profileSettings raw
  let opened ← connectAndGo raw
  return target.locations.insertAll (settings ++ opened ++
    [("id", .string id), ("name", .string target.name),
      ("targetKind", .string target.targetKind),
      ("selectionStrategy", .string target.selectionStrategy),
      ("createdAtMs", .u64 (createdAt raw existing now)), ("updatedAtMs", .u64 now)])

/-! ## Connecting to a profile -/

/-- Source: `store.rs` `copy_nonempty_string` -/
def copyNonemptyString (source target : Map) (sourceName targetName : String) : Map :=
  match ((source.get sourceName).bind Value.asStr).filter (· ≠ "") with
  | some value => target.insert targetName (.string value)
  | none => target

/-- The location fields of a connection target. -/
def locationTarget (object : Map) : Map :=
  [("countryCode", "country_code"), ("entryCountryCode", "entry_country_code"),
    ("state", "state"), ("city", "city"), ("serverName", "server_name"),
    ("gatewayName", "gateway_name")].foldl
      (fun target (sourceName, targetName) =>
        copyNonemptyString object target sourceName targetName) []

/-- The features that a kind of profile asks for; `none` for a kind that is not supported. -/
def profileKindFeatures (kind : String) : Option (List (String × Value)) :=
  match kind with
  | "fastest" | "country" | "state" | "city" | "server" | "gateway" | "gatewayServer" => some []
  | "random" => some [("random", .bool true)]
  | "p2p" => some [("p2p", .bool true)]
  | "secureCore" => some [("secure_core", .bool true)]
  | "tor" => some [("tor", .bool true)]
  | _ => none

/-- A text field, or a default. -/
def textOr (object : Map) (key fallback : String) : String :=
  ((object.get key).bind Value.asStr).getD fallback

/-- A boolean field, or a default. -/
def boolOr (object : Map) (key : String) (fallback : Bool) : Bool :=
  ((object.get key).bind Value.asBool).getD fallback

/-- Source: `store.rs` `profile_policy_value` -/
def profilePolicyValue (object : Map) (key : String) : Value :=
  match textOr object key "inherit" with
  | "allow" => .bool true
  | "block" => .bool false
  | _ => .null

/-- The choice of a server, and whether the user's own country is left out. -/
def strategyFields (object : Map) (kind : String) : List (String × Value) :=
  let strategy := textOr object "selectionStrategy" (if kind = "random" then "random" else "fastest")
  (if strategy = "random" ∧ kind ≠ "random" then
    [(if ["countryCode", "state", "city", "gatewayName"].any (nonempty object) then "random_server"
      else "random", .bool true)] else []) ++
    if boolOr object "excludeMyCountry" false then [("exclude_my_country", .bool true)] else []

/-- What is opened after connecting. -/
def postConnect (object : Map) : Value :=
  if boolOr object "connectAndGoEnabled" false then
    .obj [("mode", .string (textOr object "connectAndGoMode" "website")),
      ("url", .string (textOr object "connectAndGoUrl" "")),
      ("private_browsing", .bool (boolOr object "connectAndGoUsePrivateBrowsingMode" false)),
      ("desktop_id", .string (textOr object "connectAndGoAppId" ""))]
  else .null

/-- The settings a profile connects with. -/
def profileSettingsValue (object : Map) : Value :=
  .obj [("protocol", .string (textOr object "profileProtocol" "smart")),
    ("netshield_enabled", .bool (boolOr object "profileNetShieldEnabled" true)),
    ("netshield_level",
      .u64 (((object.get "profileNetShieldLevel").bind Value.asU64).getD 2)),
    ("moderate_nat", .bool ((object.get "profileNatType").bind Value.asStr = some "moderate")),
    ("port_forwarding", .bool (boolOr object "profilePortForwardingEnabled" false)),
    ("custom_dns", .obj [("mode", .string (textOr object "profileCustomDnsMode" "inherit")),
      ("servers",
        .array (((object.get "profileCustomDnsServers").bind Value.asArray).getD []))]),
    ("allow_lan_connections", profilePolicyValue object "profileLanMode"),
    ("allow_local_dns", profilePolicyValue object "profileLocalDnsMode")]

/-- How a profile is described among the recent connections. -/
def profileDescription (object : Map) : String :=
  (((((object.get "countryName").or (object.get "serverName")).or
    (object.get "gatewayName")).bind Value.asStr).filter (· ≠ "")).getD "Profile"

/-- The connection to a profile. -/
def profileConnection (object : Map) (features : List (String × Value))
    (selectionType kind profileId profileName : String) : Value :=
  .obj [("selection", .obj [("type", .string selectionType)]),
    ("connect_params", .obj [("profile_id", .string profileId),
      ("target", .object ((locationTarget object).insertAll
        (features ++ strategyFields object kind))),
      ("profile_settings", profileSettingsValue object)]),
    ("recent", .obj [("kind", .string "profile"), ("profileId", .string profileId),
      ("header", .string profileName), ("description", .string (profileDescription object))]),
    ("post_connect", postConnect object)]

/-- Source: `store.rs` `resolved_profile` -/
def resolvedProfile (profile : Value) (selectionType : String) : StoreResult Value := do
  let object ← okOrElse profile.asObject
    (.new "invalid_profile_target" "Profile connection target is invalid")
  let kind ← requiredString object "targetKind" 32
  let features ← okOrElse (profileKindFeatures kind)
    (.new "invalid_profile_target" "Profile connection target is unsupported")
  let profileId ← requiredString object "id" 128
  let profileName ← requiredString object "name" 60
  return profileConnection object features selectionType kind profileId profileName

/-! ## Stored profiles -/

/-- A text as the store keeps it. -/
structure Stored (maxChars : ℕ) (text : String) : Prop where
  ne_empty : text ≠ ""
  bounded : Bounded maxChars text
  trimmed : trim text = text

theorem Stored.requiredString {object : Map} {key : String} {maxChars : ℕ} {text : String}
    (h : Stored maxChars text) (hget : object.get key = some (.string text)) :
    requiredString object key maxChars = .ok text :=
  requiredString_of_get hget h.ne_empty h.bounded h.trimmed

theorem stored_of_requiredString {object : Map} {key : String} {maxChars : ℕ} {text : String}
    (h : requiredString object key maxChars = .ok text) : Stored maxChars text := by
  obtain ⟨hempty, hbounded, -⟩ := requiredString_eq_ok_iff.mp h
  exact ⟨hempty, hbounded, requiredString_trimmed h⟩

theorem stored_of_stringOr {object : Map} {key fallback : String} {maxChars : ℕ} {text : String}
    (hfallback : Stored maxChars fallback)
    (h : stringOr object key fallback maxChars = .ok text) : Stored maxChars text := by
  rcases stringOr_eq_ok h with rfl | ⟨hempty, hbounded, htrim⟩
  · exact hfallback
  · exact ⟨hempty, hbounded, htrim⟩

/-- A kind that is valid for a profile is supported by connections. -/
theorem profileKindFeatures_isSome {kind : String} {locations : Map}
    (h : profileTargetValid kind locations = true) : ∃ features,
      profileKindFeatures kind = some features := by
  unfold profileTargetValid at h
  split at h
  all_goals first | exact ⟨_, rfl⟩ | cases h

/-- What others read from a stored profile. -/
structure StoredProfile (profile : Map) (id : String) : Prop where
  id : profile.get "id" = some (.string id)
  name : ∃ name, profile.get "name" = some (.string name) ∧ Stored 60 name
  targetKind : ∃ kind features, profile.get "targetKind" = some (.string kind) ∧ Stored 32 kind ∧
    profileKindFeatures kind = some features

theorem profileTarget_spec {raw : Map} {target : ProfileTarget}
    (h : profileTarget raw = .ok target) : Stored 60 target.name ∧ Stored 32 target.targetKind ∧
      ∃ features, profileKindFeatures target.targetKind = some features := by
  unfold profileTarget at h
  obtain ⟨name, hname, h⟩ := Except.bind_eq_ok.mp h
  obtain ⟨targetKind, hkind, h⟩ := Except.bind_eq_ok.mp h
  obtain ⟨strategy, -, h⟩ := Except.bind_eq_ok.mp h
  obtain ⟨-, -, h⟩ := Except.bind_eq_ok.mp h
  obtain ⟨locations, -, h⟩ := Except.bind_eq_ok.mp h
  obtain ⟨⟨⟩, hvalid, h⟩ := Except.bind_eq_ok.mp h
  obtain rfl := Except.ok.inj h
  have hfastest : Stored 32 "fastest" := ⟨by decide, ⟨by decide, by decide⟩, by decide +kernel⟩
  have hvalid := reject_eq_ok hvalid
  rw [not_not] at hvalid
  exact ⟨stored_of_requiredString hname, stored_of_stringOr hfastest hkind,
    profileKindFeatures_isSome hvalid⟩

theorem normalizeProfile_spec {raw profile : Map} {existing : Option Map} {id : String}
    {now : UInt64} (h : normalizeProfile raw existing id now = .ok profile) :
    StoredProfile profile id := by
  unfold normalizeProfile at h
  obtain ⟨target, htarget, h⟩ := Except.bind_eq_ok.mp h
  obtain ⟨settings, -, h⟩ := Except.bind_eq_ok.mp h
  obtain ⟨opened, -, h⟩ := Except.bind_eq_ok.mp h
  obtain rfl := Except.ok.inj h
  obtain ⟨hname, hkind, features, hfeatures⟩ := profileTarget_spec htarget
  exact ⟨Map.get_insertAll_append rfl, ⟨target.name, Map.get_insertAll_append rfl, hname⟩,
    ⟨target.targetKind, features, Map.get_insertAll_append rfl, hkind, hfeatures⟩⟩

theorem isOk_iff {α : Type} {result : StoreResult α} : result.isOk ↔ ∃ a, result = .ok a := by
  rcases result with error | a
  · simp [Except.isOk, Except.toBool]
  · simp [Except.isOk, Except.toBool]

theorem isOk_bind_iff {α β : Type} {result : StoreResult α} {f : α → StoreResult β} :
    (result >>= f).isOk ↔ ∃ a, result = .ok a ∧ (f a).isOk := by
  simp only [isOk_iff]
  exact Except.exists_bind_eq_ok

theorem isOk_normalizeProfile_iff {raw : Map} {existing : Option Map} {id : String}
    {now : UInt64} : (normalizeProfile raw existing id now).isOk ↔
      (profileTarget raw).isOk ∧ (profileSettings raw).isOk ∧ (connectAndGo raw).isOk := by
  unfold normalizeProfile
  simp only [isOk_bind_iff]
  simp only [isOk_iff]
  constructor
  · rintro ⟨target, htarget, settings, hsettings, opened, hopened, -⟩
    exact ⟨⟨target, htarget⟩, ⟨settings, hsettings⟩, ⟨opened, hopened⟩⟩
  · rintro ⟨⟨target, htarget⟩, ⟨settings, hsettings⟩, ⟨opened, hopened⟩⟩
    exact ⟨target, htarget, settings, hsettings, opened, hopened, _, rfl⟩

section congr

variable {raw raw' : Map} (h : ∀ key, key ≠ "id" → raw.get key = raw'.get key)

include h

/-- The id of the request is not read. -/
theorem profileTarget_congr : profileTarget raw = profileTarget raw' := by
  simp only [profileTarget, requiredString, stringOr, profileStrings, List.foldlM_cons,
    List.foldlM_nil, insertProfileString, insertString]
  simp (disch := decide) only [h]

theorem profileSettings_congr : profileSettings raw = profileSettings raw' := by
  simp only [profileSettings, stringOr, optionalBool, profileMode]
  simp (disch := decide) only [h]

theorem connectAndGo_congr : connectAndGo raw = connectAndGo raw' := by
  simp only [connectAndGo, stringOr, optionalBool]
  simp (disch := decide) only [h]

end congr

/-- A stored profile whose id can be read can be connected to. -/
theorem resolvedProfile_of_stored {profile : Map} {id : String} (h : StoredProfile profile id)
    (hid : Stored 128 id) (selectionType : String) : ∃ features kind name,
      resolvedProfile (.object profile) selectionType =
        .ok (profileConnection profile features selectionType kind id name) := by
  obtain ⟨name, hname, hnameStored⟩ := h.name
  obtain ⟨kind, features, hkind, hkindStored, hfeatures⟩ := h.targetKind
  refine ⟨features, kind, name, ?_⟩
  unfold resolvedProfile
  refine Except.bind_eq_ok.mpr ⟨profile, rfl, ?_⟩
  refine Except.bind_eq_ok.mpr ⟨kind, hkindStored.requiredString hkind, ?_⟩
  refine Except.bind_eq_ok.mpr ⟨features, by rw [hfeatures]; rfl, ?_⟩
  refine Except.bind_eq_ok.mpr ⟨id, hid.requiredString h.id, ?_⟩
  exact Except.bind_eq_ok.mpr ⟨name, hnameStored.requiredString hname, rfl⟩

/-- The id that a connection to a profile carries. -/
theorem profileId_profileConnection (object : Map) (features : List (String × Value))
    (selectionType kind profileId profileName : String) :
    ((profileConnection object features selectionType kind profileId profileName).get
      "connect_params").bind (fun parameters => parameters.get "profile_id") =
        some (.string profileId) := by
  unfold profileConnection
  rw [Value.get_obj]
  exact Value.get_obj _ _

end ProtonVpnOmarchy.Agent.Store
