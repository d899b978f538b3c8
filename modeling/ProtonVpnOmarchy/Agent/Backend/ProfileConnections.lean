import ProtonVpnOmarchy.Agent.Backend.ProfileIds
import ProtonVpnOmarchy.Agent.Store.AccountScopes
import ProtonVpnOmarchy.Agent.Store.DefaultConnection
import ProtonVpnOmarchy.Agent.Store.SeededOnce

/-!
# Connections to profiles

The store checks the target and the settings of a profile when it is saved, the backend when it is
connected to.

* `FitsKind` — the locations of a profile are those that its kind has a use for; the store does not
  ask for that.
* `checkTarget_iff`, `profileOverrides_iff` — when the backend accepts a stored profile.
* `profile_connects_iff` — a saved profile can be connected to exactly if it fits its kind and its
  id can be read, with a paid plan; the profile that a new account connects to by default cannot,
  without one.
-/

namespace ProtonVpnOmarchy.Agent.Backend

open Lib Lib.Fallible Splitd Store
open Std (ExtTreeMap)

/-! ## The target -/

/-- The locations of a profile are those that its kind has a use for. -/
def FitsKind (profile : Map) : Prop :=
  let kind := textOr profile "targetKind" "fastest"
  (nonempty profile "gatewayName" → kind ∉ ["p2p", "secureCore", "tor"]) ∧
    (nonempty profile "state" ∨ nonempty profile "city" → nonempty profile "countryCode") ∧
    (nonempty profile "entryCountryCode" → kind = "secureCore")

instance (profile : Map) : Decidable (FitsKind profile) := inferInstanceAs (Decidable (_ ∧ _))

/-- The target of a connection to a profile. -/
def connectionTarget (object : Map) (features : List (String × Value)) (kind : String) : Map :=
  (locationTarget object).insertAll (features ++ strategyFields object kind)

/-- The names of the location fields in profiles and in targets. -/
def locationNames : List (String × String) :=
  [("countryCode", "country_code"), ("entryCountryCode", "entry_country_code"),
    ("state", "state"), ("city", "city"), ("serverName", "server_name"),
    ("gatewayName", "gateway_name")]

theorem get_copyNonemptyString (source target : Map) (sourceName targetName key : String) :
    (copyNonemptyString source target sourceName targetName).get key =
      if key = targetName then
        ((((source.get sourceName).bind Value.asStr).filter (· ≠ "")).map Value.string).or
          (target.get key)
      else target.get key := by
  unfold copyNonemptyString
  split
  · rename_i text htext
    rw [htext, Map.get_insert]
    rfl
  · rename_i hnone
    rw [hnone]
    split_ifs
    · rfl
    · rfl

/-- The location fields of a target are those of the profile that are not empty. -/
theorem get_locationTarget (object : Map) {names : String × String} (h : names ∈ locationNames) :
    (locationTarget object).get names.2 =
      (((object.get names.1).bind Value.asStr).filter (· ≠ "")).map Value.string := by
  unfold locationTarget
  simp only [List.foldl_cons, List.foldl_nil, get_copyNonemptyString, Map.get_nil, Option.or_none]
  fin_cases h
  all_goals simp

theorem get_locationTarget_of_not_mem (object : Map) {key : String}
    (h : key ∉ locationNames.map Prod.snd) : (locationTarget object).get key = none := by
  simp only [locationNames, List.map_cons, List.map_nil, List.mem_cons, List.not_mem_nil, or_false,
    not_or] at h
  unfold locationTarget
  simp only [List.foldl_cons, List.foldl_nil, get_copyNonemptyString, Map.get_nil, h, if_false]

theorem get_eq_none_of_not_mem {entries : List (String × Value)} {key : String}
    (h : key ∉ entries.map Prod.fst) : Map.get entries key = none := by
  induction entries with
  | nil => rfl
  | cons entry entries ih =>
      rw [List.map_cons, List.mem_cons, not_or] at h
      rw [Map.get_cons, if_neg h.1, ih h.2]

/-- The features and the choice of a server are not location fields. -/
theorem features_keys {object : Map} {features : List (String × Value)} {kind : String}
    (h : profileKindFeatures kind = some features) :
    ∀ entry ∈ features ++ strategyFields object kind,
      entry.1 ∈ ["random", "p2p", "secure_core", "tor", "random_server", "exclude_my_country"] := by
  intro entry hentry
  rcases List.mem_append.mp hentry with hfeature | hstrategy
  · unfold profileKindFeatures at h
    split at h
    all_goals cases h
    all_goals simp only [List.mem_singleton, List.not_mem_nil] at hfeature
    all_goals simp [hfeature]
  · unfold strategyFields at hstrategy
    rcases List.mem_append.mp hstrategy with hrandom | hexclude
    · split_ifs at hrandom
      all_goals simp only [List.mem_singleton, List.not_mem_nil] at hrandom
      all_goals simp [hrandom]
    · split_ifs at hexclude
      all_goals simp only [List.mem_singleton, List.not_mem_nil] at hexclude
      all_goals simp [hexclude]

/-- A location field of the target. -/
theorem get_connectionTarget {object : Map} {features : List (String × Value)} {kind : String}
    (hfeatures : profileKindFeatures kind = some features) {names : String × String}
    (h : names ∈ locationNames) : (connectionTarget object features kind).get names.2 =
      (((object.get names.1).bind Value.asStr).filter (· ≠ "")).map Value.string := by
  unfold connectionTarget
  rw [Map.get_insertAll, get_eq_none_of_not_mem, Option.none_or, get_locationTarget object h]
  rw [List.map_reverse, List.mem_reverse]
  intro hkey
  obtain ⟨entry, hentry, hname⟩ := List.mem_map.mp hkey
  have hmem := features_keys hfeatures entry hentry
  rw [hname] at hmem
  have hapart : ∀ names ∈ locationNames, names.2 ∉
      ["random", "p2p", "secure_core", "tor", "random_server", "exclude_my_country"] := by decide
  exact hapart names h hmem

/-- The modes of the target. -/
theorem objectBool_connectionTarget {object : Map} {features : List (String × Value)}
    {kind : String} (hfeatures : profileKindFeatures kind = some features) :
    let target := connectionTarget object features kind
    objectBool target "secure_core" = decide (kind = "secureCore") ∧
      objectBool target "p2p" = decide (kind = "p2p") ∧
      objectBool target "tor" = decide (kind = "tor") ∧
      (objectBool target "random" && objectBool target "random_server") = false := by
  dsimp only
  unfold connectionTarget objectBool
  simp only [Map.get_insertAll, get_locationTarget_of_not_mem object
    (show "secure_core" ∉ locationNames.map Prod.snd by decide),
    get_locationTarget_of_not_mem object (show "p2p" ∉ locationNames.map Prod.snd by decide),
    get_locationTarget_of_not_mem object (show "tor" ∉ locationNames.map Prod.snd by decide),
    get_locationTarget_of_not_mem object (show "random" ∉ locationNames.map Prod.snd by decide),
    get_locationTarget_of_not_mem object
      (show "random_server" ∉ locationNames.map Prod.snd by decide), Option.or_none]
  unfold profileKindFeatures at hfeatures
  unfold strategyFields
  dsimp only
  split at hfeatures
  all_goals cases hfeatures
  all_goals split_ifs
  all_goals first | exact ⟨rfl, rfl, rfl, rfl⟩ | simp_all

/-- A location field of a stored profile is empty in the target exactly if it is not given. -/
theorem objectString_connectionTarget (profile : NormalProfile)
    {features : List (String × Value)} {kind : String}
    (hfeatures : profileKindFeatures kind = some features) (source target : String)
    (h : (source, target) ∈ locationNames) :
    objectString (connectionTarget profile.toMap features kind) target = "" ↔
      ¬ nonempty profile.toMap source = true := by
  have hlocation : source ∈ profileStrings.map Prod.fst := by
    have hall : ∀ names ∈ locationNames, names.1 ∈ profileStrings.map Prod.fst := by decide
    exact hall (source, target) h
  unfold objectString nonempty
  rw [get_connectionTarget hfeatures h, profile.get_location hlocation]
  rcases hget : profile.target.locations.get source with _ | value
  · simp [trim]
  · obtain ⟨entry, hentry, hkey⟩ := List.mem_map.mp hlocation
    obtain ⟨text, rfl, htext, -⟩ := profile.target.located entry hentry value (by rw [hkey, hget])
    simp [Option.filter_some, htext.ne_empty, htext.trimmed]

theorem toAsciiUppercase_eq_empty {text : String} : toAsciiUppercase text = "" ↔ text = "" := by
  unfold toAsciiUppercase
  rw [← String.toList_inj, String.toList_map, ← String.toList_inj]
  exact List.map_eq_nil_iff

theorem isOk_reject_iff {condition : Prop} [Decidable condition] {error : BackendError} :
    (reject condition error).isOk ↔ ¬ condition := by
  unfold reject
  split_ifs with h
  · exact iff_of_false nofun (not_not.mpr h)
  · exact iff_of_true rfl h

theorem isOk_bind_of_ok {α β : Type} {result : StoreResult α} {a : α} (h : result = .ok a)
    (f : α → StoreResult β) : (result >>= f).isOk ↔ (f a).isOk := by
  rw [h]
  exact Iff.rfl

theorem isOk_reject_bind_iff {β : Type} {condition : Prop} [Decidable condition]
    {error : BackendError} {f : Unit → StoreResult β} :
    (reject condition error >>= f).isOk ↔ ¬ condition ∧ (f ()).isOk := by
  unfold reject
  split_ifs with h
  · exact iff_of_false nofun fun h' => h'.1 h
  · exact ⟨fun hf => ⟨h, hf⟩, fun hf => hf.2⟩

/-- **The backend accepts the target of a stored profile exactly if its locations fit its kind.** -/
theorem checkTarget_iff {profile : NormalProfile} {features : List (String × Value)}
    (hfeatures : profileKindFeatures profile.target.targetKind = some features) {params : Value}
    (hparams : params.get "target" =
      some (.object (connectionTarget profile.toMap features profile.target.targetKind))) :
    (checkTarget params).isOk ↔ FitsKind profile.toMap := by
  have hkind : textOr profile.toMap "targetKind" "fastest" = profile.target.targetKind := by
    unfold textOr
    rw [profile.get_entry rfl]
    rfl
  obtain ⟨hsecure, hp2p, htor, hrandom⟩ :=
    @objectBool_connectionTarget profile.toMap features _ hfeatures
  have hcountry := objectString_connectionTarget profile hfeatures "countryCode" "country_code"
    (by decide)
  have hentry := objectString_connectionTarget profile hfeatures "entryCountryCode"
    "entry_country_code" (by decide)
  have hstate := objectString_connectionTarget profile hfeatures "state" "state" (by decide)
  have hcity := objectString_connectionTarget profile hfeatures "city" "city" (by decide)
  have hgateway := objectString_connectionTarget profile hfeatures "gatewayName" "gateway_name"
    (by decide)
  unfold checkTarget FitsKind
  rw [hparams]
  refine (isOk_bind_of_ok (a := connectionTarget profile.toMap features _) rfl _).trans ?_
  simp only [ne_eq, isOk_reject_bind_iff, isOk_reject_iff, toAsciiUppercase_eq_empty, hcountry,
    hentry, hstate, hcity, hgateway, hsecure, hp2p, htor, hkind]
  rw [← Bool.and_eq_true, hrandom]
  generalize profile.target.targetKind = kind
  by_cases hsecureCore : kind = "secureCore"
  · simp [hsecureCore]
  by_cases hpeer : kind = "p2p"
  · simp [hpeer]
  by_cases honion : kind = "tor"
  · simp [honion]
  · simp [hsecureCore, hpeer, honion]

/-! ## The settings -/

/-- The profile asks for a feature of a paid plan. -/
def AsksForPaid (profile : Map) : Prop :=
  boolOr profile "profileNetShieldEnabled" true ∨
    (profile.get "profileNatType").bind Value.asStr = some "moderate" ∨
    boolOr profile "profilePortForwardingEnabled" false

instance (profile : Map) : Decidable (AsksForPaid profile) := inferInstanceAs (Decidable (_ ∨ _))

/-- All descriptors are installed. -/
def allInstalled : Descriptors := ⟨true, true⟩

theorem available_of_supported {protocol : String} (h : protocol ∈ supportedProtocols) :
    availableProtocol allInstalled (normalizedProtocol protocol) = true := by
  have hall : ∀ protocol ∈ supportedProtocols,
      availableProtocol allInstalled (normalizedProtocol protocol) = true := by decide +kernel
  exact hall protocol h

/-- The addresses of a stored profile are read as they are. -/
theorem mapM_customDnsServer {servers : List String}
    (h : ∀ text ∈ servers, ∃ address : IpAddr, text = address.display) :
    (servers.map Value.string).mapM customDnsServer = .ok (servers.map some) :=
  mapM_displays (fun address => by
    unfold customDnsServer
    rw [Value.asStr_string]
    dsimp only
    rw [address.trim_display, if_neg address.display_ne_empty, address.fromStr_display]) h

/-- The addresses of a stored profile are accepted; they are used if the profile says so. -/
theorem profileCustomDns_eq_ok (settings : NormalSettings) :
    ∃ customDns, profileCustomDns (some (.obj [("mode", .string settings.customDnsMode),
        ("servers", .array (settings.customDnsServers.map .string))])) = .ok customDns ∧
      (customDns.any CustomDns.enabled = true → settings.customDnsMode = "custom") := by
  have hmode : ∀ mode ∈ ["inherit", "off", "custom"], toAsciiLowercase (trim mode) = mode := by
    decide +kernel
  let fields : Map := Map.insertAll [] [("mode", .string settings.customDnsMode),
    ("servers", .array (settings.customDnsServers.map .string))]
  have hread : toAsciiLowercase (trim (textOr fields "mode" "inherit")) =
      settings.customDnsMode := by
    have hget : fields.get "mode" = some (.string settings.customDnsMode) := Value.get_obj _ _
    unfold textOr
    rw [hget]
    exact hmode _ settings.dns_mem
  by_cases hinherit : settings.customDnsMode = "inherit"
  · refine ⟨none, Except.bind_eq_ok.mpr ⟨fields, rfl, ?_⟩, nofun⟩
    dsimp only
    rw [hread, if_pos hinherit]
    rfl
  by_cases hoff : settings.customDnsMode = "off"
  · refine ⟨some {}, Except.bind_eq_ok.mpr ⟨fields, rfl, ?_⟩, nofun⟩
    dsimp only
    rw [hread, if_neg hinherit, if_pos hoff]
    rfl
  have hcustom : settings.customDnsMode = "custom" := by
    simpa [hinherit, hoff] using settings.dns_mem
  have hservers : (fields.get "servers").bind Value.asArray =
      some (settings.customDnsServers.map .string) := by
    have hget : fields.get "servers" = some (.array (settings.customDnsServers.map .string)) :=
      Value.get_obj _ _
    rw [hget]
    rfl
  have haddresses : (settings.customDnsServers.map some).filterMap id =
      settings.customDnsServers := by
    rw [List.filterMap_map]
    exact List.filterMap_some
  refine ⟨some ⟨true, (firstOccurrences settings.customDnsServers).map fun address =>
    .obj [("ip", .string address), ("enabled", .bool true)]⟩,
    Except.bind_eq_ok.mpr ⟨fields, rfl, ?_⟩, fun _ => hcustom⟩
  dsimp only
  rw [hread, if_neg hinherit, if_neg hoff]
  refine Except.bind_eq_ok.mpr ⟨(), reject_of_not (not_not.mpr hcustom) _, ?_⟩
  refine Except.bind_eq_ok.mpr ⟨_, by rw [hservers]; rfl, ?_⟩
  refine Except.bind_eq_ok.mpr ⟨(), reject_of_not ?_ _, ?_⟩
  · rw [List.length_map]
    exact Nat.not_lt.mpr settings.dns_length
  refine Except.bind_eq_ok.mpr ⟨_, mapM_customDnsServer settings.dns_addresses, ?_⟩
  rw [haddresses]
  refine Except.bind_eq_ok.mpr ⟨(), reject_of_not ?_ _, rfl⟩
  exact fun hnone => (settings.dns_custom hcustom).1 (firstOccurrences_eq_nil hnone)

/-- A switch of a stored profile. -/
theorem optionalProfileBool_of_get {object : Map} {key : String} {value : Bool}
    (h : object.get key = some (.bool value)) (default : Bool) :
    optionalProfileBool object key default = .ok value := by
  unfold optionalProfileBool
  rw [h]
  rfl

/-- A policy of a stored profile. -/
theorem optionalProfilePolicy_of_get {object profile : Map} {key source : String}
    (h : object.get key = some (profilePolicyValue profile source)) :
    ∃ policy, optionalProfilePolicy object key = .ok policy := by
  unfold profilePolicyValue at h
  unfold optionalProfilePolicy
  split at h
  all_goals rw [h]
  all_goals exact ⟨_, rfl⟩

theorem textOr_toMap {profile : NormalProfile} {key text : String} (fallback : String)
    (h : Map.get profile.entries.reverse key = some (.string text)) :
    textOr profile.toMap key fallback = text := by
  unfold textOr
  rw [profile.get_entry h]
  rfl

theorem boolOr_toMap {profile : NormalProfile} {key : String} {value : Bool} (fallback : Bool)
    (h : Map.get profile.entries.reverse key = some (.bool value)) :
    boolOr profile.toMap key fallback = value := by
  unfold boolOr
  rw [profile.get_entry h]
  rfl

/-- What the backend reads of the settings of a stored profile. -/
theorem profileSettingsValue_toMap (profile : NormalProfile) :
    profileSettingsValue profile.toMap =
      .obj [("protocol", .string profile.settings.protocol),
        ("netshield_enabled", .bool profile.settings.netShieldEnabled),
        ("netshield_level", .u64 profile.settings.netShieldLevel),
        ("moderate_nat", .bool (profile.settings.nat = "moderate")),
        ("port_forwarding", .bool profile.settings.portForwarding),
        ("custom_dns", .obj [("mode", .string profile.settings.customDnsMode),
          ("servers", .array (profile.settings.customDnsServers.map .string))]),
        ("allow_lan_connections", profilePolicyValue profile.toMap "profileLanMode"),
        ("allow_local_dns", profilePolicyValue profile.toMap "profileLocalDnsMode")] := by
  have hlevel : profile.toMap.get "profileNetShieldLevel" =
      some (.u64 profile.settings.netShieldLevel) := profile.get_entry rfl
  have hnat : profile.toMap.get "profileNatType" = some (.string profile.settings.nat) :=
    profile.get_entry rfl
  have hservers : profile.toMap.get "profileCustomDnsServers" =
      some (.array (profile.settings.customDnsServers.map .string)) := profile.get_entry rfl
  unfold profileSettingsValue
  rw [textOr_toMap "smart" rfl, boolOr_toMap true rfl, boolOr_toMap false rfl,
    textOr_toMap "inherit" rfl, hlevel, hnat, hservers]
  simp only [Option.bind_some, Value.asStr_string, Option.some.injEq]
  rfl

/-- A profile asks for a feature of a paid plan. -/
theorem asksForPaid_iff (profile : NormalProfile) :
    AsksForPaid profile.toMap ↔ profile.settings.netShieldEnabled = true ∨
      profile.settings.nat = "moderate" ∨ profile.settings.portForwarding = true := by
  have hnat : profile.toMap.get "profileNatType" = some (.string profile.settings.nat) :=
    profile.get_entry rfl
  unfold AsksForPaid
  rw [boolOr_toMap true rfl, boolOr_toMap false rfl, hnat, Option.bind_some, Value.asStr_string,
    Option.some.injEq]

/-- **The backend accepts the settings of a stored profile exactly if the plan covers them.** -/
theorem profileOverrides_iff (profile : NormalProfile) (global : NativeSettings) (tier : UInt8)
    {params : Value}
    (hparams : params.get "profile_settings" = some (profileSettingsValue profile.toMap)) :
    (effectiveConnectionSettings allInstalled params global tier).isOk ↔
      (tier = 0 → ¬ AsksForPaid profile.toMap) := by
  let settings := profile.settings
  let raw : Map := Map.insertAll [] [("protocol", .string settings.protocol),
    ("netshield_enabled", .bool settings.netShieldEnabled),
    ("netshield_level", .u64 settings.netShieldLevel),
    ("moderate_nat", .bool (settings.nat = "moderate")),
    ("port_forwarding", .bool settings.portForwarding),
    ("custom_dns", .obj [("mode", .string settings.customDnsMode),
      ("servers", .array (settings.customDnsServers.map .string))]),
    ("allow_lan_connections", profilePolicyValue profile.toMap "profileLanMode"),
    ("allow_local_dns", profilePolicyValue profile.toMap "profileLocalDnsMode")]
  obtain ⟨customDns, hcustom, henabled⟩ := profileCustomDns_eq_ok settings
  obtain ⟨lan, hlan⟩ := optionalProfilePolicy_of_get
    (show raw.get "allow_lan_connections" = some (profilePolicyValue profile.toMap "profileLanMode")
      from Value.get_obj _ _)
  obtain ⟨localDns, hlocalDns⟩ := optionalProfilePolicy_of_get
    (show raw.get "allow_local_dns" = some (profilePolicyValue profile.toMap "profileLocalDnsMode")
      from Value.get_obj _ _)
  have hprotocol : raw.get "protocol" = some (.string settings.protocol) := Value.get_obj _ _
  have hdns : raw.get "custom_dns" = some (.obj [("mode", .string settings.customDnsMode),
      ("servers", .array (settings.customDnsServers.map .string))]) := Value.get_obj _ _
  have hnetshield : raw.get "netshield_enabled" = some (.bool settings.netShieldEnabled) :=
    Value.get_obj _ _
  have hnat : raw.get "moderate_nat" = some (.bool (settings.nat = "moderate")) :=
    Value.get_obj _ _
  have hforwarding : raw.get "port_forwarding" = some (.bool settings.portForwarding) :=
    Value.get_obj _ _
  have hlevel : profileNetshieldLevel raw = .ok settings.netShieldLevel := by
    have hget : raw.get "netshield_level" = some (.u64 settings.netShieldLevel) :=
      Value.get_obj _ _
    unfold profileNetshieldLevel
    rw [hget]
    show okOrElse ((some settings.netShieldLevel).filter (· ≤ 2)) _ = _
    rw [Option.filter_some, if_pos (decide_eq_true settings.level_le)]
    rfl
  unfold effectiveConnectionSettings
  rw [hparams, profileSettingsValue_toMap]
  refine (isOk_bind_of_ok (a := raw) rfl _).trans ?_
  unfold profileOverrides
  rw [hprotocol, hdns]
  refine isOk_reject_bind_iff.trans ?_
  refine (and_iff_right (not_not.mpr (available_of_supported settings.protocol_mem))).trans ?_
  refine (isOk_bind_of_ok (optionalProfileBool_of_get hnetshield true) _).trans ?_
  refine (isOk_bind_of_ok hlevel _).trans ?_
  refine (isOk_bind_of_ok (optionalProfileBool_of_get hnat false) _).trans ?_
  refine (isOk_bind_of_ok (optionalProfileBool_of_get hforwarding false) _).trans ?_
  refine (isOk_bind_of_ok hcustom _).trans ?_
  refine (isOk_bind_of_ok hlan _).trans ?_
  refine (isOk_bind_of_ok hlocalDns _).trans ?_
  rw [isOk_reject_bind_iff, isOk_reject_bind_iff, isOk_reject_bind_iff, asksForPaid_iff]
  simp only [decide_eq_true_eq, not_and]
  constructor
  · exact fun h => h.1
  · -- The store has made sure of the rest.
    refine fun h => ⟨h, ?_, ?_, rfl⟩
    · intro hmoderate hforward
      have hstrict := settings.nat_strict hforward
      rw [hmoderate] at hstrict
      exact absurd hstrict (by decide)
    · intro hshield hused
      have hoff := (settings.dns_custom (henabled hused)).2
      rw [hshield] at hoff
      cases hoff

/-! ## Connections -/

/-- The backend accepts the parameters of a connection. -/
def Accepts (params : Value) (global : NativeSettings) (tier : UInt8) : Prop :=
  (checkTarget params).isOk ∧ (effectiveConnectionSettings allInstalled params global tier).isOk

/-- `connection.resolve` has an answer for the profile, and the backend accepts it. -/
def ConnectsTo (account : AccountStore) (id : String) (global : NativeSettings) (tier : UInt8) :
    Prop :=
  ∃ value params, resolveConnection account (.obj [("selection", selectProfile id)]) = .ok value ∧
    value.get "connect_params" = some params ∧ params.get "profile_id" = some (.string id) ∧
    Accepts params global tier

/-- The parameters of a connection to a stored profile. -/
theorem resolvedProfile_normal (profile : NormalProfile) (hid : Stored 128 profile.id)
    (selectionType : String) : ∃ value params,
      resolvedProfile (.object profile.toMap) selectionType = .ok value ∧
      value.get "connect_params" = some params ∧
      params.get "profile_id" = some (.string profile.id) ∧
      ∀ global tier, Accepts params global tier ↔
        FitsKind profile.toMap ∧ (tier = 0 → ¬ AsksForPaid profile.toMap) := by
  obtain ⟨features, hfeatures⟩ := profileKindFeatures_isSome profile.target.kind_valid
  have hkind : profile.toMap.get "targetKind" = some (.string profile.target.targetKind) :=
    profile.get_entry rfl
  have hname : profile.toMap.get "name" = some (.string profile.target.name) :=
    profile.get_entry rfl
  have hidGet : profile.toMap.get "id" = some (.string profile.id) := profile.get_entry rfl
  refine ⟨profileConnection profile.toMap features selectionType profile.target.targetKind
    profile.id profile.target.name, _, ?_, Value.get_obj _ _, Value.get_obj _ _, ?_⟩
  · unfold resolvedProfile
    refine Except.bind_eq_ok.mpr ⟨profile.toMap, rfl, ?_⟩
    refine Except.bind_eq_ok.mpr ⟨_, profile.target.kind_stored.requiredString hkind, ?_⟩
    refine Except.bind_eq_ok.mpr ⟨features, by rw [hfeatures]; rfl, ?_⟩
    refine Except.bind_eq_ok.mpr ⟨_, hid.requiredString hidGet, ?_⟩
    exact Except.bind_eq_ok.mpr ⟨_, profile.target.name_stored.requiredString hname, rfl⟩
  · intro global tier
    exact and_congr (checkTarget_iff hfeatures (Value.get_obj _ _))
      (profileOverrides_iff profile global tier (Value.get_obj _ _))

/-- The selection of a profile is resolved as the profile that is found under its trimmed id. -/
theorem resolveConnection_select {account : AccountStore} {params value : Value} {id : String}
    (hselection : ((params.get "selection").bind Value.asObject).or
      account.defaultConnection.asObject = some (selectedFields id)) :
    resolveConnection account params = .ok value ↔
      ∃ read profile, requiredString (selectedFields id) "profileId" 128 = .ok read ∧
        findById account.profiles read = some profile ∧
        resolvedProfile profile "profile" = .ok value := by
  have htype : textOr (selectedFields id) "type" "fastest" = "profile" := by
    unfold textOr
    rw [get_selectedFields_type]
    rfl
  unfold resolveConnection
  rw [hselection, Except.bind_eq_ok]
  constructor
  · rintro ⟨selection, hread, h⟩
    obtain rfl := Except.ok.inj hread
    rw [htype] at h
    obtain ⟨read, hread, h⟩ := Except.bind_eq_ok.mp h
    obtain ⟨profile, hprofile, h⟩ := Except.bind_eq_ok.mp h
    exact ⟨read, profile, hread, okOrElse_eq_ok hprofile, h⟩
  · rintro ⟨read, profile, hread, hprofile, h⟩
    refine ⟨selectedFields id, rfl, ?_⟩
    rw [htype]
    refine Except.bind_eq_ok.mpr ⟨read, hread, ?_⟩
    exact Except.bind_eq_ok.mpr ⟨profile, by rw [hprofile]; rfl, h⟩

/-- The id that a connection to a profile carries is trimmed. -/
theorem trim_of_resolvedProfile {profile value params : Value} {selectionType id : String}
    (h : resolvedProfile profile selectionType = .ok value)
    (hparams : value.get "connect_params" = some params)
    (hid : params.get "profile_id" = some (.string id)) : trim id = id := by
  unfold resolvedProfile at h
  obtain ⟨object, -, h⟩ := Except.bind_eq_ok.mp h
  obtain ⟨kind, -, h⟩ := Except.bind_eq_ok.mp h
  obtain ⟨features, -, h⟩ := Except.bind_eq_ok.mp h
  obtain ⟨profileId, hprofileId, h⟩ := Except.bind_eq_ok.mp h
  obtain ⟨name, -, h⟩ := Except.bind_eq_ok.mp h
  have hcarried := profileId_profileConnection object features selectionType kind profileId name
  rw [← Except.ok.inj h] at hparams
  rw [hparams, Option.bind_some, hid] at hcarried
  obtain rfl := Value.string.inj (Option.some.inj hcarried)
  exact requiredString_trimmed hprofileId

/-- **A saved profile.** -/
theorem Saved.connectsTo_iff {data : StoreFile} {profile : Map} {id : String}
    (h : Saved data (.object profile) id) (global : NativeSettings) (tier : UInt8) :
    ConnectsTo (accountRef data) id global tier ↔
      trim id = id ∧ FitsKind profile ∧ (tier = 0 → ¬ AsksForPaid profile) := by
  obtain ⟨normal, heq, rfl⟩ := h.normal
  rw [Value.object.inj heq] at h ⊢
  constructor
  · rintro ⟨value, params, hresolve, hparams, hid, haccepts⟩
    obtain ⟨read, found, hread, hfound, hresolved⟩ :=
      (resolveConnection_select rfl).mp hresolve
    have htrim := trim_of_resolvedProfile hresolved hparams hid
    rw [(h.stored htrim).requiredString (get_selectedFields_id _)] at hread
    obtain rfl := Except.ok.inj hread
    rw [h.found] at hfound
    obtain rfl := Option.some.inj hfound
    obtain ⟨value', params', hresolved', hparams', -, hiff⟩ :=
      resolvedProfile_normal normal (h.stored htrim) "profile"
    rw [hresolved] at hresolved'
    obtain rfl := Except.ok.inj hresolved'
    rw [hparams] at hparams'
    obtain rfl := Option.some.inj hparams'
    exact ⟨htrim, (hiff global tier).mp haccepts⟩
  · rintro ⟨htrim, hfits⟩
    obtain ⟨value, params, hresolved, hparams, hid, hiff⟩ :=
      resolvedProfile_normal normal (h.stored htrim) "profile"
    refine ⟨value, params, (resolveConnection_select rfl).mpr ⟨normal.id, _, ?_, h.found, hresolved⟩,
      hparams, hid, (hiff global tier).mpr hfits⟩
    exact (h.stored htrim).requiredString (get_selectedFields_id _)

/-! ## Default profiles -/

/-- The locations of a target are those that its kind has a use for. -/
theorem fitsKind_toMap (profile : NormalProfile) :
    FitsKind profile.toMap ↔ FitsKind (profile.target.locations.insert "targetKind"
      (.string profile.target.targetKind)) := by
  have hkind : textOr profile.toMap "targetKind" "fastest" = profile.target.targetKind :=
    textOr_toMap "fastest" rfl
  have hkind' : textOr (profile.target.locations.insert "targetKind"
      (.string profile.target.targetKind)) "targetKind" "fastest" = profile.target.targetKind := by
    unfold textOr
    rw [Map.get_insert_self]
    rfl
  have hnonempty : ∀ key ∈ profileStrings.map Prod.fst, nonempty profile.toMap key =
      nonempty (profile.target.locations.insert "targetKind"
        (.string profile.target.targetKind)) key := by
    intro key hkey
    have hne : key ≠ "targetKind" := by
      rintro rfl
      exact absurd hkey (by decide)
    unfold nonempty
    rw [profile.get_location hkey, Map.get_insert_of_ne hne]
  unfold FitsKind
  rw [hkind, hkind', hnonempty "gatewayName" (by decide), hnonempty "state" (by decide),
    hnonempty "city" (by decide), hnonempty "countryCode" (by decide),
    hnonempty "entryCountryCode" (by decide)]

/-- A template of a profile whose locations fit its kind. -/
def FittingTemplate (raw : Map) : Prop :=
  (profileTarget raw).toOption.any fun target =>
    FitsKind (target.locations.insert "targetKind" (.string target.targetKind))

instance (raw : Map) : Decidable (FittingTemplate raw) := inferInstanceAs (Decidable (_ = true))

theorem FittingTemplate.fitsKind {raw : Map} (h : FittingTemplate raw) {profile : NormalProfile}
    (htarget : profileTarget raw = .ok profile.target.toProfileTarget) :
    FitsKind profile.toMap := by
  unfold FittingTemplate at h
  rw [htarget] at h
  rw [fitsKind_toMap]
  exact of_decide_eq_true h

theorem fitting_officialTemplates (locale : String) :
    ∀ raw ∈ officialTemplates locale, FittingTemplate (Map.insertAll [] raw) := by
  rw [officialTemplates_eq]
  rcases isSpanish locale with _ | _
  · decide +kernel
  · decide +kernel

theorem stored_officialId : ∀ id ∈ OFFICIAL_DEFAULT_PROFILE_IDS, Stored 128 id := by
  intro id hid
  fin_cases hid
  all_goals exact ⟨by decide, ⟨by decide, by decide⟩, by decide +kernel⟩

/-- The official default profiles as they are stored. -/
theorem exists_normal_official {clock : ℕ → UInt64} {locale : String} {profiles : List Value}
    (h : officialDefaultProfiles clock locale = .ok profiles) :
    ∀ profile ∈ profiles, ∃ normal : NormalProfile, profile = .object normal.toMap ∧
      FitsKind normal.toMap ∧ Stored 128 normal.id := by
  intro profile hprofile
  unfold officialDefaultProfiles at h
  obtain ⟨⟨⟨raw, id⟩, index⟩, hmem, h⟩ := (Except.mem_of_mapM_eq_ok h).2 profile hprofile
  obtain ⟨fields, hfields, h⟩ := Except.bind_eq_ok.mp h
  obtain rfl := Except.ok.inj h
  obtain ⟨normal, rfl, hnormal, htarget, -⟩ := exists_normalProfile hfields
  obtain ⟨hraw, hid⟩ := List.of_mem_zip (List.fst_mem_of_mem_zipIdx hmem)
  exact ⟨normal, rfl, (fitting_officialTemplates locale raw hraw).fitsKind htarget,
    hnormal ▸ stored_officialId id hid⟩

/-- The fastest default profile asks for NetShield. -/
theorem exists_normal_fastest {clock : ℕ → UInt64} {locale : String} {profile : Value}
    (h : fastestDefaultProfile clock locale = .ok profile) :
    ∃ normal : NormalProfile, profile = .object normal.toMap ∧ FitsKind normal.toMap ∧
      normal.id = FASTEST_DEFAULT_PROFILE_ID ∧ AsksForPaid normal.toMap := by
  have hfitting : ∀ spanish : Bool, FittingTemplate (Map.insertAll []
      [("name", .string (if spanish then "Servidor más rápido" else "Fastest server")),
        ("targetKind", .string "fastest"), ("iconName", .string "Speed")]) := by decide +kernel
  have hsettings : ∀ spanish : Bool, ((profileSettings (Map.insertAll []
      [("name", .string (if spanish then "Servidor más rápido" else "Fastest server")),
        ("targetKind", .string "fastest"), ("iconName", .string "Speed")])).toOption.bind
          fun entries => Map.get entries "profileNetShieldEnabled") = some (.bool true) := by
    decide +kernel
  unfold fastestDefaultProfile at h
  obtain ⟨fields, hfields, h⟩ := Except.bind_eq_ok.mp h
  obtain rfl := Except.ok.inj h
  obtain ⟨normal, rfl, hid, htarget, hentries, -⟩ := exists_normalProfile hfields
  refine ⟨normal, rfl, (hfitting _).fitsKind htarget, hid, ?_⟩
  have hnetshield := hsettings (isSpanish locale)
  rw [hentries] at hnetshield
  rw [asksForPaid_iff]
  exact .inl (Value.bool.inj (Option.some.inj hnetshield))

/-- A seeding with the official default profiles adds at most their number, and leaves the default
connection alone. -/
theorem foldl_addOfficial_spec (profiles : List Value) (account : AccountStore) :
    (profiles.foldl addOfficial account).profiles.length ≤
        account.profiles.length + profiles.length ∧
      (profiles.foldl addOfficial account).defaultConnection = account.defaultConnection := by
  induction profiles generalizing account with
  | nil => exact ⟨Nat.le_refl _, rfl⟩
  | cons profile profiles ih =>
      obtain ⟨hlength, hdefault⟩ := ih (addOfficial account profile)
      have hadded : (addOfficial account profile).profiles.length ≤ account.profiles.length + 1 ∧
          (addOfficial account profile).defaultConnection = account.defaultConnection := by
        unfold addOfficial
        split_ifs
        · exact ⟨by rw [List.length_append, List.length_singleton], rfl⟩
        · exact ⟨Nat.le_succ _, rfl⟩
      rw [List.foldl_cons, List.length_cons]
      exact ⟨by omega, hdefault.trans hadded.2⟩

/-- A new account connects to the fastest default profile by default. -/
theorem withDefaults_fresh (clock : ℕ → UInt64) (locale : String) :
    ∃ profile, fastestDefaultProfile clock locale = .ok profile ∧
      findById (withDefaults clock locale {}).profiles FASTEST_DEFAULT_PROFILE_ID = some profile ∧
      (withDefaults clock locale {}).defaultConnection =
        selectProfile FASTEST_DEFAULT_PROFILE_ID := by
  obtain ⟨profiles, hprofiles⟩ := exists_officialDefaultProfiles clock locale
  obtain ⟨profile, hprofile⟩ := exists_fastestDefaultProfile clock locale
  rw [withDefaults_eq hprofiles hprofile]
  obtain ⟨hlength, hdefault⟩ := foldl_addOfficial_spec profiles {}
  have hcount : profiles.length = 6 := by
    unfold officialDefaultProfiles at hprofiles
    rw [(Except.mem_of_mapM_eq_ok hprofiles).1, List.length_zipIdx, List.length_zip]
    rfl
  have hnew : ¬ hasProfile (profiles.foldl addOfficial {}) FASTEST_DEFAULT_PROFILE_ID = true := by
    intro hhas
    have hnone := hasProfile_foldl_addOfficial (fun other hother hid => by
      obtain ⟨official, hofficial, hidOf⟩ := idOf_official hprofiles other hother
      rw [hidOf] at hid
      rw [Option.some.inj hid] at hofficial
      exact absurd hofficial (by decide)) hhas
    cases hnone
  have hid := idOf_fastest hprofile
  refine ⟨profile, hprofile, ?_⟩
  generalize profiles.foldl addOfficial {} = account at hlength hdefault hnew
  have hfew : account.profiles.length < MAX_PROFILES := by
    rw [hcount] at hlength
    exact hlength.trans_lt (by decide)
  have htype : (account.defaultConnection.get "type").bind Value.asStr = some "fastest" := by
    rw [hdefault]
    rfl
  have hhas : hasProfile { account with profiles := profile :: account.profiles }
      FASTEST_DEFAULT_PROFILE_ID = true := by
    simp [hasProfile, hid]
  have hadds : ¬ hasProfile account FASTEST_DEFAULT_PROFILE_ID = true ∧
      account.profiles.length < MAX_PROFILES := ⟨hnew, hfew⟩
  unfold addFastest
  dsimp only
  rw [if_pos hadds, if_pos ⟨hhas, htype⟩]
  refine ⟨?_, rfl⟩
  unfold findById
  rw [List.find?_cons_of_pos (by simp [hid])]

/-- The default connection of a new account is accepted exactly with a paid plan. -/
theorem default_accepted_iff (clock : ℕ → UInt64) (locale : String) :
    ∃ value params, resolveConnection (withDefaults clock locale {}) (.obj []) = .ok value ∧
      value.get "connect_params" = some params ∧
      ∀ global tier, Accepts params global tier ↔ tier ≠ 0 := by
  obtain ⟨profile, hprofile, hfound, hdefault⟩ := withDefaults_fresh clock locale
  obtain ⟨normal, rfl, hfits, hid, hpaid⟩ := exists_normal_fastest hprofile
  have hstored : Stored 128 normal.id := hid ▸ stored_fastestDefaultProfileId
  obtain ⟨value, params, hresolved, hparams, -, hiff⟩ :=
    resolvedProfile_normal normal hstored "profile"
  refine ⟨value, params, ?_, hparams, ?_⟩
  · have hselection : (((Value.obj []).get "selection").bind Value.asObject).or
        (withDefaults clock locale {}).defaultConnection.asObject =
          some (selectedFields FASTEST_DEFAULT_PROFILE_ID) := by
      rw [hdefault]
      rfl
    exact (resolveConnection_select hselection).mpr ⟨_, _,
      stored_fastestDefaultProfileId.requiredString (get_selectedFields_id _), hfound, hresolved⟩
  · intro global tier
    rw [hiff]
    refine ⟨fun h hfree => h.2 hfree hpaid, fun h => ⟨hfits, fun hfree => absurd hfree h⟩⟩

/-- **A saved profile can be connected to, with a paid plan, exactly if its id is not trimmed and
its locations fit its kind; the default profiles can. Without a paid plan the default connection of
an account that is activated for the first time, from an empty record, is rejected.** -/
theorem profile_connects_iff {world : World} (h : Reachable (fun _ _ => True) {} world) :
    ∀ data ∈ world.memory,
      (∀ disk clock method params value profile id global tier,
        let done := requestInner disk clock method params ⟨data, world.files⟩
        method = "profiles.save" ∨ method = "profiles.duplicate" → done.1 = .ok value →
        value.get "profile" = some (.object profile) → idOf (.object profile) = some id →
        tier ≠ 0 →
        (ConnectsTo (accountRef done.2.data) id global tier ↔ trim id = id ∧ FitsKind profile)) ∧
      (∀ clock locale profiles profile, officialDefaultProfiles clock locale = .ok profiles →
        fastestDefaultProfile clock locale = .ok profile →
        ∀ seeded ∈ profile :: profiles, ∃ value params, resolvedProfile seeded "profile" = .ok value ∧
          value.get "connect_params" = some params ∧
          ∀ global tier, tier ≠ 0 → Accepts params global tier) ∧
      ∀ clock key, key ∉ data.accounts → entry data LEGACY_SCOPE = {} →
        ∃ data' value params, (activation clock key).exec data = (.ok (), data') ∧
          resolveConnection (accountRef data') (.obj []) = .ok value ∧
          value.get "connect_params" = some params ∧
          ∀ global tier, Accepts params global tier ↔ tier ≠ 0 := by
  intro data hdata
  refine ⟨?_, ?_, ?_⟩
  · intro disk clock method params value profile id global tier
    dsimp only
    intro hmethod hdone hprofile hid hpaid
    obtain ⟨profile', id', hprofile', hsaved⟩ := saved_requestInner hmethod hdone
    rw [hprofile] at hprofile'
    rw [← Option.some.inj hprofile'] at hsaved
    obtain ⟨-, hid'⟩ := findById_eq_some hsaved.found
    rw [hid] at hid'
    rw [← Option.some.inj hid'] at hsaved
    rw [hsaved.connectsTo_iff]
    exact ⟨fun h => ⟨h.1, h.2.1⟩, fun h => ⟨h.1, h.2, fun hfree => absurd hfree hpaid⟩⟩
  · intro clock locale profiles profile hprofiles hprofile seeded hseeded
    have hnormal : ∃ normal : NormalProfile, seeded = .object normal.toMap ∧
        FitsKind normal.toMap ∧ Stored 128 normal.id := by
      rcases List.mem_cons.mp hseeded with rfl | hseeded
      · obtain ⟨normal, hnormal, hfits, hid, -⟩ := exists_normal_fastest hprofile
        exact ⟨normal, hnormal, hfits, hid ▸ stored_fastestDefaultProfileId⟩
      · exact exists_normal_official hprofiles seeded hseeded
    obtain ⟨normal, rfl, hfits, hstored⟩ := hnormal
    obtain ⟨value, connectParams, hresolved, hparams, -, hiff⟩ :=
      resolvedProfile_normal normal hstored "profile"
    exact ⟨value, connectParams, hresolved, hparams, fun global tier hpaid =>
      (hiff global tier).mpr ⟨hfits, fun hfree => absurd hfree hpaid⟩⟩
  · intro clock key hnew hempty
    have hmarks := (marksKnown_invariant.reachable h).1 data hdata
    obtain ⟨data', hexec, haccounts⟩ := exec_activation_new hmarks hnew clock
    obtain ⟨value, params, hresolve, hparams, hiff⟩ :=
      default_accepted_iff clock data.onboarding.locale
    refine ⟨data', value, params, hexec, ?_, hparams, hiff⟩
    have haccount : accountRef data' = withDefaults clock data.onboarding.locale {} := by
      have hkey : data'.activeAccountKey = some key := by
        rw [exec_activation] at hexec
        exact congrArg StoreFile.activeAccountKey (Prod.mk.inj hexec).2.symm
      unfold accountRef
      rw [hkey, haccounts, Option.bind_some, ExtTreeMap.getElem?_insert_self, hempty]
      rfl
    rw [haccount]
    exact hresolve

/-- A profile is saved after the first open. -/
def saveOpened (fields : Map) (data : StoreFile) : StoreResult Value × StoreState :=
  requestInner quietDisk (fun _ => 1) "profiles.save" (.object [("profile", .object fields)])
    ⟨data, (World.step {} firstOpen).files⟩

/-- A saved profile with an id, if its locations fit its kind as said. -/
def savesFitting (done : StoreResult Value × StoreState) (id : String) (fits : Bool) : Bool :=
  done.1.toOption.any fun value => (value.get "profile").any fun profile =>
    idOf profile = some id && profile.asObject.any fun fields => decide (FitsKind fields) = fits

theorem of_savesFitting {done : StoreResult Value × StoreState} {id : String} {fits : Bool}
    (h : savesFitting done id fits = true) : ∃ value profile, done.1 = .ok value ∧
      value.get "profile" = some (.object profile) ∧ idOf (.object profile) = some id ∧
      (FitsKind profile ↔ fits = true) := by
  unfold savesFitting at h
  obtain ⟨value, hvalue, h⟩ := (Option.any_eq_true _ _).mp h
  obtain ⟨profile, hprofile, h⟩ := (Option.any_eq_true _ _).mp h
  obtain ⟨hid, hfields⟩ := Bool.and_eq_true_iff.mp h
  obtain ⟨fields, hobject, hfits⟩ := (Option.any_eq_true _ _).mp hfields
  have hdone : done.1 = .ok value := by
    rcases hresult : done.1 with error | result
    · rw [hresult] at hvalue
      cases hvalue
    · rw [hresult] at hvalue
      exact congrArg Except.ok (Option.some.inj hvalue)
  cases profile with
  | object profile =>
      obtain rfl := Option.some.inj hobject
      refine ⟨value, profile, hdone, hprofile, of_decide_eq_true hid, ?_⟩
      rw [← of_decide_eq_true hfits, decide_eq_true_eq]
  | _ => cases hobject

/-- A profile without locations is connected to with a paid plan. -/
theorem home_connects : ∃ data ∈ (World.step {} firstOpen).memory,
    ConnectsTo (accountRef (saveOpened [("id", .string "home"), ("name", .string "Home")]
      data).2.data) "home" {} 2 := by
  have hfacts : ((World.step {} firstOpen).memory.map fun data =>
      savesFitting (saveOpened [("id", .string "home"), ("name", .string "Home")] data) "home"
        true) = some true := by decide +kernel
  obtain ⟨data, hmemory, hfacts⟩ := Option.map_eq_some_iff.mp hfacts
  obtain ⟨value, profile, hdone, hprofile, hid, hfits⟩ := of_savesFitting hfacts
  refine ⟨data, hmemory, ?_⟩
  exact ((profile_connects_iff (.step firstOpen .start trivial) data hmemory).1 quietDisk _ _ _
    value profile "home" {} 2 (.inl rfl) hdone hprofile hid (by decide)).mpr
      ⟨by decide +kernel, hfits.mpr rfl⟩

/-- **A profile for peer-to-peer servers with the name of a gateway is saved, and rejected by the
backend.** -/
theorem gateway_profile_rejected :
    ¬ ∀ world, Reachable (fun _ _ => True) {} world → ∀ data ∈ world.memory,
      ∀ disk clock params value profile id,
        let done := requestInner disk clock "profiles.save" params ⟨data, world.files⟩
        done.1 = .ok value → value.get "profile" = some (.object profile) →
        idOf (.object profile) = some id → trim id = id →
        ConnectsTo (accountRef done.2.data) id {} 2 := by
  intro h
  have hfacts : ((World.step {} firstOpen).memory.map fun data =>
      savesFitting (saveOpened [("gatewayName", .string "Office"), ("id", .string "home"),
        ("name", .string "Home"), ("targetKind", .string "p2p")] data) "home" false) =
        some true := by decide +kernel
  obtain ⟨data, hmemory, hfacts⟩ := Option.map_eq_some_iff.mp hfacts
  obtain ⟨value, profile, hdone, hprofile, hid, hfits⟩ := of_savesFitting hfacts
  have hconnects := h _ (.step firstOpen .start trivial) data hmemory _ _ _ value profile "home"
    hdone hprofile hid (by decide +kernel)
  obtain ⟨profile', id', hprofile', hsaved⟩ := saved_requestInner (.inl rfl) hdone
  rw [hprofile] at hprofile'
  rw [← Option.some.inj hprofile'] at hsaved
  obtain ⟨-, hid'⟩ := findById_eq_some hsaved.found
  rw [hid] at hid'
  rw [← Option.some.inj hid'] at hsaved
  exact absurd (hfits.mp ((hsaved.connectsTo_iff {} 2).mp hconnects).2.1) (by decide)

end ProtonVpnOmarchy.Agent.Backend
