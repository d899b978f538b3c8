import ProtonVpnOmarchy.Agent.JsonOrder
import ProtonVpnOmarchy.Agent.Store.Seeding

/-!
# Normal profiles

All fields of a profile as `normalize_profile` leaves it, with what is known of them.

* `NormalProfile` — a profile whose fields are of that kind; `NormalProfile.toMap` is its record.
* `exists_normalProfile` — the profiles that are stored are such records.
* `Gives.profileTarget`, `Gives.profileSettings`, `Gives.connectAndGo` — a stored profile is read
  again as it is.
-/

namespace ProtonVpnOmarchy.Agent.Store

open Lib Lib.Fallible Splitd

/-! ## Fields -/

/-- A text that is stored, or none. -/
structure StoredOrEmpty (maxChars : ℕ) (text : String) : Prop where
  bounded : Bounded maxChars text
  trimmed : trim text = text

theorem Stored.orEmpty {maxChars : ℕ} {text : String} (h : Stored maxChars text) :
    StoredOrEmpty maxChars text := ⟨h.bounded, h.trimmed⟩

theorem storedOrEmpty_of_stringOr {object : Map} {key : String} {maxChars : ℕ} {text : String}
    (h : stringOr object key "" maxChars = .ok text) : StoredOrEmpty maxChars text := by
  rcases stringOr_eq_ok h with rfl | ⟨-, hbounded, htrim⟩
  · exact ⟨⟨Nat.zero_le _, rfl⟩, rfl⟩
  · exact ⟨hbounded, htrim⟩

/-- A stored text is read again as it is. -/
theorem StoredOrEmpty.stringOr {object : Map} {key fallback : String} {maxChars : ℕ}
    {text : String} (h : StoredOrEmpty maxChars text) (hget : object.get key = some (.string text)) :
    stringOr object key fallback maxChars = .ok (if text = "" then fallback else text) := by
  unfold Store.stringOr
  have hvalue : stringValue (object.get key) maxChars true = .ok text :=
    stringValue_eq_ok_iff.mpr (.inr ⟨text, hget, h.trimmed.symm, h.bounded⟩)
  rw [hvalue]
  rfl

theorem Stored.stringOr {object : Map} {key fallback : String} {maxChars : ℕ} {text : String}
    (h : Stored maxChars text) (hget : object.get key = some (.string text)) :
    stringOr object key fallback maxChars = .ok text := by
  rw [h.orEmpty.stringOr hget, if_neg h.ne_empty]

theorem optionalBool_of_get {object : Map} {key : String} {value : Bool}
    (h : object.get key = some (.bool value)) (fallback : Bool) :
    optionalBool object key fallback = .ok value := by
  unfold optionalBool
  rw [h]
  rfl

/-! ## Locations -/

/-- A location field as it is stored: a text, or a code in upper case. -/
def IsLocation (maxChars : ℕ) (uppercase : Bool) (text : String) : Prop :=
  Stored maxChars text ∧
    (uppercase = true → text.utf8ByteSize = 2 ∧ text.toList.all Char.isAlpha = true ∧
      toAsciiUppercase text = text)

/-- The location fields of a profile. -/
def Located (locations : Map) : Prop :=
  ∀ entry ∈ profileStrings, ∀ value, locations.get entry.1 = some value →
    ∃ text, value = .string text ∧ IsLocation entry.2.1 entry.2.2 text

/-- What is known of a letter in upper case. -/
theorem toUpper_of_isAlpha {c : Char} (h : c.isAlpha = true) :
    c.toUpper.isAlpha = true ∧ c.toUpper.toUpper = c.toUpper ∧ c.toUpper.utf8Size = c.utf8Size ∧
      isWhitespace c.toUpper = false ∧ isForbiddenChar c.toUpper = false := by
  have hletters : ∀ n < 128, (Char.ofNat n).isAlpha = true →
      (Char.ofNat n).toUpper.isAlpha = true ∧
      (Char.ofNat n).toUpper.toUpper = (Char.ofNat n).toUpper ∧
      (Char.ofNat n).toUpper.utf8Size = (Char.ofNat n).utf8Size ∧
      isWhitespace (Char.ofNat n).toUpper = false ∧
      isForbiddenChar (Char.ofNat n).toUpper = false := by decide +kernel
  have hlt : c.toNat < 128 := by
    simp only [Char.isAlpha, Char.isUpper, Char.isLower, Bool.or_eq_true, Bool.and_eq_true,
      decide_eq_true_eq, UInt32.le_iff_toNat_le] at h
    change (65 ≤ c.toNat ∧ c.toNat ≤ 90) ∨ (97 ≤ c.toNat ∧ c.toNat ≤ 122) at h
    omega
  rw [← Char.ofNat_toNat c] at h ⊢
  exact hletters _ hlt h

/-- A country code in upper case. -/
theorem isLocation_code {maxChars : ℕ} {value : String} (hbounded : Bounded maxChars value)
    (hsize : value.utf8ByteSize = 2) (halpha : value.toList.all Char.isAlpha = true) :
    IsLocation maxChars true (toAsciiUppercase value) := by
  have hletters := List.all_eq_true.mp halpha
  have hlist : (toAsciiUppercase value).toList = value.toList.map Char.toUpper :=
    String.toList_map ..
  have hsize' : (toAsciiUppercase value).utf8ByteSize = 2 := by
    rw [utf8ByteSize_eq, hlist, List.map_map, ← hsize, utf8ByteSize_eq]
    refine congrArg List.sum (List.map_congr_left fun c hc => ?_)
    exact (toUpper_of_isAlpha (hletters c hc)).2.2.1
  have hempty : toAsciiUppercase value ≠ "" := by
    intro h
    rw [h] at hsize'
    cases hsize'
  refine ⟨⟨hempty, ⟨?_, ?_⟩, ?_⟩, fun _ => ⟨hsize', ?_, ?_⟩⟩
  · rw [toAsciiUppercase, String.length_map]
    exact hbounded.length_le
  · rw [hlist, List.any_eq_false]
    intro c hc
    obtain ⟨letter, hletter, rfl⟩ := List.mem_map.mp hc
    rw [(toUpper_of_isAlpha (hletters letter hletter)).2.2.2.2]
    exact Bool.false_ne_true
  · rw [← String.ofList_toList (s := toAsciiUppercase value)]
    refine trim_of_forall fun c hc => ?_
    rw [hlist] at hc
    obtain ⟨letter, hletter, rfl⟩ := List.mem_map.mp hc
    exact (toUpper_of_isAlpha (hletters letter hletter)).2.2.2.1
  · rw [hlist, List.all_eq_true]
    intro c hc
    obtain ⟨letter, hletter, rfl⟩ := List.mem_map.mp hc
    exact (toUpper_of_isAlpha (hletters letter hletter)).1
  · refine String.toList_injective ?_
    have hlist' : (toAsciiUppercase (toAsciiUppercase value)).toList =
        (toAsciiUppercase value).toList.map Char.toUpper := String.toList_map ..
    rw [hlist', hlist, List.map_map]
    refine List.map_congr_left fun c hc => ?_
    exact (toUpper_of_isAlpha (hletters c hc)).2.1

theorem insertString_isLocation {source target result : Map} {key : String} {maxChars : ℕ}
    {uppercase : Bool} (h : insertString source target key maxChars uppercase = .ok result) :
    result = target ∨ ∃ text, result = target.insert key (.string text) ∧
      IsLocation maxChars uppercase text := by
  unfold insertString at h
  obtain ⟨value, hvalue, h⟩ := Except.bind_eq_ok.mp h
  split_ifs at h with hempty hupper
  · exact .inl (Except.ok.inj h).symm
  · obtain ⟨⟨⟩, hcode, h⟩ := Except.bind_eq_ok.mp h
    refine .inr ⟨toAsciiUppercase value, (Except.ok.inj h).symm, ?_⟩
    have hcode := reject_eq_ok hcode
    rw [not_or, not_not, not_not] at hcode
    rcases stringValue_eq_ok_iff.mp hvalue with ⟨-, rfl⟩ | ⟨raw, -, -, hbounded⟩
    · exact absurd rfl hempty
    · rw [hupper]
      exact isLocation_code hbounded hcode.1 hcode.2
  · refine .inr ⟨value, (Except.ok.inj h).symm, ?_, fun hupper' => absurd hupper' hupper⟩
    rcases stringValue_eq_ok_iff.mp hvalue with ⟨-, rfl⟩ | ⟨raw, -, rfl, hbounded⟩
    · exact absurd rfl hempty
    · exact ⟨hempty, hbounded, trim_trim raw⟩

theorem located_profileStrings {raw locations : Map}
    (h : profileStrings.foldlM (fun target (key, maxChars, uppercase) =>
      insertProfileString raw target key maxChars uppercase) [] = .ok locations) :
    Located locations := by
  have hkeys : ∀ entry ∈ profileStrings, ∀ other ∈ profileStrings, entry.1 = other.1 →
      entry = other := by decide
  have hstart : Located [] := fun _ _ value hget => by
    rw [Map.get_nil] at hget
    cases hget
  refine Except.foldlM_inv Located ?_ hstart h
  intro entry hentry target target' htarget hstep
  rcases insertString_isLocation hstep with rfl | ⟨text, rfl, htext⟩
  · exact htarget
  · intro other hother value hvalue
    rw [Map.get_insert] at hvalue
    split_ifs at hvalue with hkey
    · rw [hkeys other hother entry hentry hkey]
      exact ⟨text, (Option.some.inj hvalue).symm, htext⟩
    · exact htarget other hother value hvalue

/-! ## Profiles -/

/-- The target of a profile as it is stored. -/
structure NormalTarget extends ProfileTarget where
  name_stored : Stored 60 name
  kind_stored : Stored 32 targetKind
  kind_valid : profileTargetValid targetKind locations = true
  strategy_mem : selectionStrategy ∈ ["fastest", "random"]
  located : Located locations

/-- The settings of a profile as they are stored. -/
structure NormalSettings where
  excludeMyCountry : Bool
  iconName : String
  color : String
  protocol : String
  netShieldEnabled : Bool
  netShieldLevel : UInt64
  nat : String
  portForwarding : Bool
  customDnsMode : String
  customDnsServers : List String
  lanMode : String
  localDnsMode : String
  icon_stored : Stored 64 iconName
  color_stored : Stored 32 color
  protocol_mem : protocol ∈ supportedProtocols
  level_le : netShieldLevel ≤ 2
  nat_mem : nat ∈ ["moderate", "strict"]
  nat_strict : portForwarding = true → nat = "strict"
  dns_mem : customDnsMode ∈ ["inherit", "off", "custom"]
  dns_addresses : ∀ text ∈ customDnsServers, ∃ address : IpAddr, text = address.display
  dns_length : customDnsServers.length ≤ 16
  dns_custom : customDnsMode = "custom" → customDnsServers ≠ [] ∧ netShieldEnabled = false
  lan_mem : lanMode ∈ ["inherit", "allow", "block"]
  localDns_mem : localDnsMode ∈ ["inherit", "allow", "block"]

/-- What is opened after connecting, as it is stored. -/
structure NormalOpening where
  enabled : Bool
  mode : String
  url : String
  privateBrowsing : Bool
  appId : String
  appPath : String
  mode_mem : mode ∈ ["website", "application"]
  url_stored : StoredOrEmpty 2048 url
  appId_stored : StoredOrEmpty 255 appId
  appPath_stored : StoredOrEmpty 2048 appPath
  complete : enabled = true → ¬ ((mode = "website" ∧ url = "") ∨ (mode = "application" ∧ appId = ""))

def NormalSettings.entries (settings : NormalSettings) : List (String × Value) :=
  [("excludeMyCountry", .bool settings.excludeMyCountry), ("iconName", .string settings.iconName),
    ("color", .string settings.color), ("profileProtocol", .string settings.protocol),
    ("profileNetShieldEnabled", .bool settings.netShieldEnabled),
    ("profileNetShieldLevel", .u64 settings.netShieldLevel),
    ("profileNatType", .string settings.nat),
    ("profilePortForwardingEnabled", .bool settings.portForwarding),
    ("profileCustomDnsMode", .string settings.customDnsMode),
    ("profileCustomDnsServers", .array (settings.customDnsServers.map .string)),
    ("profileLanMode", .string settings.lanMode),
    ("profileLocalDnsMode", .string settings.localDnsMode)]

/-- The settings with every server once. -/
def NormalSettings.distinct (settings : NormalSettings) : NormalSettings :=
  { settings with
    customDnsServers := firstOccurrences settings.customDnsServers
    dns_addresses := fun text h => settings.dns_addresses text (mem_firstOccurrences.mp h)
    dns_length := (length_firstOccurrences_le _).trans settings.dns_length
    dns_custom := fun h => ⟨fun hnone => (settings.dns_custom h).1 (firstOccurrences_eq_nil hnone),
      (settings.dns_custom h).2⟩ }

def NormalOpening.entries (opening : NormalOpening) : List (String × Value) :=
  [("connectAndGoEnabled", .bool opening.enabled), ("connectAndGoMode", .string opening.mode),
    ("connectAndGoUrl", .string opening.url),
    ("connectAndGoUsePrivateBrowsingMode", .bool opening.privateBrowsing),
    ("connectAndGoAppId", .string opening.appId), ("connectAndGoAppPath", .string opening.appPath)]

/-- A profile as it is stored. -/
structure NormalProfile where
  id : String
  target : NormalTarget
  settings : NormalSettings
  opening : NormalOpening
  createdAtMs : UInt64
  updatedAtMs : UInt64

def NormalProfile.entries (profile : NormalProfile) : List (String × Value) :=
  profile.settings.entries ++ profile.opening.entries ++
    [("id", .string profile.id), ("name", .string profile.target.name),
      ("targetKind", .string profile.target.targetKind),
      ("selectionStrategy", .string profile.target.selectionStrategy),
      ("createdAtMs", .u64 profile.createdAtMs), ("updatedAtMs", .u64 profile.updatedAtMs)]

/-- The record of a profile. -/
def NormalProfile.toMap (profile : NormalProfile) : Map :=
  profile.target.locations.insertAll profile.entries

theorem exists_normalTarget {raw : Map} {target : ProfileTarget}
    (h : profileTarget raw = .ok target) :
    ∃ normal : NormalTarget, normal.toProfileTarget = target := by
  obtain ⟨hname, hkind, -⟩ := profileTarget_spec h
  unfold profileTarget at h
  obtain ⟨name, -, h⟩ := Except.bind_eq_ok.mp h
  obtain ⟨targetKind, -, h⟩ := Except.bind_eq_ok.mp h
  obtain ⟨strategy, -, h⟩ := Except.bind_eq_ok.mp h
  obtain ⟨⟨⟩, hstrategy, h⟩ := Except.bind_eq_ok.mp h
  obtain ⟨locations, hlocations, h⟩ := Except.bind_eq_ok.mp h
  obtain ⟨⟨⟩, hvalid, h⟩ := Except.bind_eq_ok.mp h
  obtain rfl := Except.ok.inj h
  exact ⟨⟨_, hname, hkind, not_not.mp (reject_eq_ok hvalid), not_not.mp (reject_eq_ok hstrategy),
    located_profileStrings hlocations⟩, rfl⟩

theorem profileMode_eq_ok {raw : Map} {key mode : String} {allowed : List String}
    (h : profileMode raw key allowed = .ok mode) : mode ∈ allowed := by
  unfold profileMode at h
  obtain ⟨value, -, h⟩ := Except.bind_eq_ok.mp h
  split_ifs at h with hmem
  obtain rfl := Except.ok.inj h
  exact hmem

theorem profileDnsServers_spec {value : Option Value} {servers : List String}
    (h : profileDnsServers value = .ok servers) :
    (∀ text ∈ servers, ∃ address : IpAddr, text = address.display) ∧ servers.length ≤ 16 ∧
      servers.Nodup := by
  unfold profileDnsServers at h
  split at h
  · obtain rfl := Except.ok.inj h
    exact ⟨nofun, Nat.zero_le _, List.nodup_nil⟩
  split at h
  · cases h
  rename_i values _
  obtain ⟨⟨⟩, hlength, h⟩ := Except.bind_eq_ok.mp h
  obtain ⟨texts, htexts, h⟩ := Except.bind_eq_ok.mp h
  obtain rfl := Except.ok.inj h
  obtain ⟨hcount, hread⟩ := Except.mem_of_mapM_eq_ok htexts
  refine ⟨?_, ?_, nodup_firstOccurrences _⟩
  · intro text htext
    rw [mem_firstOccurrences, List.mem_filterMap] at htext
    obtain ⟨read, hmem, rfl⟩ := htext
    obtain ⟨value, -, hvalue⟩ := hread _ hmem
    unfold profileDnsServer at hvalue
    split at hvalue
    · cases hvalue
    split_ifs at hvalue
    · cases hvalue
    split at hvalue
    · rename_i address _
      exact ⟨address, (Option.some.inj (Except.ok.inj hvalue)).symm⟩
    · cases hvalue
  · have hlength := reject_eq_ok hlength
    have hkept := List.length_filterMap_le id texts
    have hfirst := length_firstOccurrences_le (texts.filterMap id)
    omega

theorem exists_normalSettings {raw : Map} {entries : List (String × Value)}
    (h : profileSettings raw = .ok entries) :
    ∃ normal : NormalSettings, normal.entries = entries ∧ normal.customDnsServers.Nodup := by
  unfold profileSettings at h
  obtain ⟨protocol, -, h⟩ := Except.bind_eq_ok.mp h
  obtain ⟨excludeMyCountry, -, h⟩ := Except.bind_eq_ok.mp h
  obtain ⟨iconName, hicon, h⟩ := Except.bind_eq_ok.mp h
  obtain ⟨color, hcolor, h⟩ := Except.bind_eq_ok.mp h
  obtain ⟨netShieldEnabled, -, h⟩ := Except.bind_eq_ok.mp h
  obtain ⟨nat, -, h⟩ := Except.bind_eq_ok.mp h
  obtain ⟨portForwarding, -, h⟩ := Except.bind_eq_ok.mp h
  obtain ⟨customDnsMode, hmode, h⟩ := Except.bind_eq_ok.mp h
  obtain ⟨servers, hservers, h⟩ := Except.bind_eq_ok.mp h
  obtain ⟨⟨⟩, hempty, h⟩ := Except.bind_eq_ok.mp h
  obtain ⟨⟨⟩, hconflict, h⟩ := Except.bind_eq_ok.mp h
  obtain ⟨lanMode, hlan, h⟩ := Except.bind_eq_ok.mp h
  obtain ⟨localDnsMode, hlocal, h⟩ := Except.bind_eq_ok.mp h
  obtain rfl := Except.ok.inj h
  have hspeed : Stored 64 "Speed" := ⟨by decide, ⟨by decide, by decide⟩, by decide +kernel⟩
  have hpurple : Stored 32 "#C857E7" := ⟨by decide, ⟨by decide, by decide⟩, by decide +kernel⟩
  have hlevel : ∀ level : UInt64, min level 2 ≤ 2 := by
    intro level
    change (if level ≤ 2 then level else 2) ≤ 2
    split_ifs with hle
    · exact hle
    · exact UInt64.le_refl 2
  obtain ⟨haddresses, hlength, hnodup⟩ := profileDnsServers_spec hservers
  refine ⟨{
    excludeMyCountry, iconName, color, netShieldEnabled, customDnsMode, lanMode, localDnsMode
    protocol := if toAsciiLowercase protocol ∈ supportedProtocols then toAsciiLowercase protocol
      else "smart"
    netShieldLevel := min (((raw.get "profileNetShieldLevel").bind Value.asU64).getD 2) 2
    nat := if toAsciiLowercase nat = "moderate" then "moderate" else "strict"
    portForwarding := portForwarding &&
      (if toAsciiLowercase nat = "moderate" then "moderate" else "strict") ≠ "moderate"
    customDnsServers := servers
    icon_stored := stored_of_stringOr hspeed hicon
    color_stored := stored_of_stringOr hpurple hcolor
    protocol_mem := ?_
    level_le := hlevel _
    nat_mem := ?_
    nat_strict := ?_
    dns_mem := profileMode_eq_ok hmode
    dns_addresses := haddresses
    dns_length := hlength
    dns_custom := ?_
    lan_mem := profileMode_eq_ok hlan
    localDns_mem := profileMode_eq_ok hlocal }, rfl, hnodup⟩
  · split_ifs with hsupported
    · exact hsupported
    · decide
  · split_ifs
    · exact List.mem_cons_self
    · exact List.mem_cons_of_mem _ List.mem_cons_self
  · intro hforwarding
    by_cases hmoderate : toAsciiLowercase nat = "moderate"
    · simp [hmoderate] at hforwarding
    · rw [if_neg hmoderate]
  · intro hcustom
    refine ⟨fun hnone => reject_eq_ok hempty ⟨hcustom, hnone⟩, ?_⟩
    rw [← Bool.not_eq_true]
    exact fun henabled => reject_eq_ok hconflict ⟨hcustom, henabled⟩

theorem exists_normalOpening {raw : Map} {entries : List (String × Value)}
    (h : connectAndGo raw = .ok entries) :
    ∃ normal : NormalOpening, normal.entries = entries := by
  unfold connectAndGo at h
  obtain ⟨enabled, -, h⟩ := Except.bind_eq_ok.mp h
  obtain ⟨mode, -, h⟩ := Except.bind_eq_ok.mp h
  obtain ⟨⟨⟩, hmode, h⟩ := Except.bind_eq_ok.mp h
  obtain ⟨url, hurl, h⟩ := Except.bind_eq_ok.mp h
  obtain ⟨appId, happId, h⟩ := Except.bind_eq_ok.mp h
  obtain ⟨appPath, happPath, h⟩ := Except.bind_eq_ok.mp h
  obtain ⟨⟨⟩, hcomplete, h⟩ := Except.bind_eq_ok.mp h
  obtain ⟨privateBrowsing, -, h⟩ := Except.bind_eq_ok.mp h
  obtain rfl := Except.ok.inj h
  exact ⟨⟨enabled, toAsciiLowercase mode, url, privateBrowsing, appId, appPath,
    not_not.mp (reject_eq_ok hmode), storedOrEmpty_of_stringOr hurl,
    storedOrEmpty_of_stringOr happId, storedOrEmpty_of_stringOr happPath,
    fun henabled hopen => reject_eq_ok hcomplete ⟨henabled, hopen⟩⟩, rfl⟩

/-- **What `normalize_profile` returns is a normal profile.** -/
theorem exists_normalProfile {raw fields : Map} {existing : Option Map} {id : String}
    {now : UInt64} (h : normalizeProfile raw existing id now = .ok fields) :
    ∃ profile : NormalProfile, profile.toMap = fields ∧ profile.id = id ∧
      profileTarget raw = .ok profile.target.toProfileTarget ∧
      profileSettings raw = .ok profile.settings.entries ∧
      profile.settings.customDnsServers.Nodup := by
  unfold normalizeProfile at h
  obtain ⟨target, htarget, h⟩ := Except.bind_eq_ok.mp h
  obtain ⟨settings, hsettings, h⟩ := Except.bind_eq_ok.mp h
  obtain ⟨opened, hopened, h⟩ := Except.bind_eq_ok.mp h
  obtain rfl := Except.ok.inj h
  obtain ⟨target, rfl⟩ := exists_normalTarget htarget
  obtain ⟨settings, rfl, hnodup⟩ := exists_normalSettings hsettings
  obtain ⟨opening, rfl⟩ := exists_normalOpening hopened
  exact ⟨⟨id, target, settings, opening, createdAt raw existing now, now⟩, rfl, rfl, htarget,
    hsettings, hnodup⟩

/-! ## Normal profiles are accepted again -/

/-- A request that gives the fields of a stored profile, with any name. -/
structure Gives (profile : NormalProfile) (raw : Map) : Prop where
  name : (requiredString raw "name" 60).isOk
  get : ∀ key, key ∉ ["id", "name", "createdAtMs", "updatedAtMs"] →
    raw.get key = profile.toMap.get key

namespace NormalProfile

variable (profile : NormalProfile)

/-- The location fields are read from the locations. -/
theorem get_location {key : String} (h : key ∈ profileStrings.map Prod.fst) :
    profile.toMap.get key = profile.target.locations.get key := by
  unfold toMap
  rw [Map.get_insertAll]
  fin_cases h
  all_goals rfl

/-- The other fields are read from the entries. -/
theorem get_entry {key : String} {value : Value}
    (h : Map.get profile.entries.reverse key = some value) :
    profile.toMap.get key = some value := by
  unfold toMap
  rw [Map.get_insertAll, h]
  rfl

end NormalProfile

/-- A location field that is stored is read again as it is. -/
theorem IsLocation.insertString {source : Map} {key text : String} {maxChars : ℕ}
    {uppercase : Bool} (h : IsLocation maxChars uppercase text)
    (hget : source.get key = some (.string text)) (target : Map) :
    insertString source target key maxChars uppercase =
      .ok (target.insert key (.string text)) := by
  unfold Store.insertString
  have hvalue : stringValue (source.get key) maxChars true = .ok text :=
    stringValue_eq_ok_iff.mpr (.inr ⟨text, hget, h.1.trimmed.symm, h.1.bounded⟩)
  rw [hvalue]
  show (if text = "" then _ else _) = _
  rw [if_neg h.1.ne_empty]
  split_ifs with hupper
  · obtain ⟨hsize, halpha, hsame⟩ := h.2 hupper
    rw [hsame, reject, if_neg (by simp [hsize, halpha])]
    rfl
  · rfl

/-- Location fields that are stored are read again as they are. -/
theorem foldlM_insertProfileString {raw : Map} (strings : List (String × ℕ × Bool))
    (h : ∀ entry ∈ strings, ∀ value, raw.get entry.1 = some value →
      ∃ text, value = .string text ∧ IsLocation entry.2.1 entry.2.2 text) (start : Map) :
    ∃ locations, strings.foldlM (fun target (key, maxChars, uppercase) =>
        insertProfileString raw target key maxChars uppercase) start = .ok locations ∧
      ∀ key, locations.get key = if key ∈ strings.map Prod.fst then
        (raw.get key).or (start.get key) else start.get key := by
  induction strings generalizing start with
  | nil => exact ⟨start, rfl, fun _ => rfl⟩
  | cons entry strings ih =>
      obtain ⟨key, maxChars, uppercase⟩ := entry
      have hrest := fun other hother => h other (List.mem_cons_of_mem _ hother)
      have hfirst : ∃ next, insertProfileString raw start key maxChars uppercase = .ok next ∧
          ∀ other, next.get other = if other = key then (raw.get key).or (start.get key)
            else start.get other := by
        rcases hget : raw.get key with _ | value
        · refine ⟨start, ?_, ?_⟩
          · simp [insertProfileString, Store.insertString, hget, stringValue]
            rfl
          · intro other
            split_ifs with hother
            · rw [hother]
              rfl
            · rfl
        · obtain ⟨text, rfl, htext⟩ := h _ List.mem_cons_self value hget
          refine ⟨_, htext.insertString hget start, ?_⟩
          intro other
          rw [Map.get_insert]
          rfl
      obtain ⟨next, hnext, hgetNext⟩ := hfirst
      obtain ⟨locations, hlocations, hgets⟩ := ih hrest next
      refine ⟨locations, ?_, ?_⟩
      · rw [List.foldlM_cons]
        exact Except.bind_eq_ok.mpr ⟨next, hnext, hlocations⟩
      · intro other
        rw [hgets, hgetNext]
        simp only [List.map_cons, List.mem_cons]
        by_cases hother : other = key
        · subst hother
          by_cases hmem : other ∈ strings.map Prod.fst
          · rw [if_pos hmem, if_pos rfl, if_pos (.inl rfl), ← Option.or_assoc, Option.or_self]
          · rw [if_neg hmem, if_pos rfl, if_pos (.inl rfl)]
        · simp only [hother, if_false, false_or]

/-- Whether a target is valid depends on the location fields only. -/
theorem profileTargetValid_congr {locations locations' : Map} (kind : String)
    (h : ∀ key ∈ profileStrings.map Prod.fst, locations.get key = locations'.get key) :
    profileTargetValid kind locations = profileTargetValid kind locations' := by
  have hnonempty : ∀ key ∈ profileStrings.map Prod.fst,
      nonempty locations key = nonempty locations' key := by
    intro key hkey
    unfold nonempty
    rw [h key hkey]
  unfold profileTargetValid
  rw [hnonempty "countryCode" (by decide), hnonempty "entryCountryCode" (by decide),
    hnonempty "state" (by decide), hnonempty "city" (by decide),
    hnonempty "serverName" (by decide), hnonempty "gatewayName" (by decide)]

/-- Addresses that are each read as they are. -/
theorem mapM_displays {f : Value → StoreResult (Option String)}
    (hf : ∀ address : IpAddr, f (.string address.display) = .ok (some address.display))
    {servers : List String}
    (h : ∀ text ∈ servers, ∃ address : IpAddr, text = address.display) :
    (servers.map Value.string).mapM f = .ok (servers.map some) := by
  induction servers with
  | nil => rfl
  | cons text servers ih =>
      obtain ⟨address, rfl⟩ := h text List.mem_cons_self
      rw [List.map_cons, List.map_cons, List.mapM_cons, hf]
      refine Except.bind_eq_ok.mpr ⟨_, rfl, Except.bind_eq_ok.mpr ⟨_, ih ?_, rfl⟩⟩
      exact fun other hother => h other (List.mem_cons_of_mem _ hother)

theorem profileDnsServer_display (address : IpAddr) :
    profileDnsServer (.string address.display) = .ok (some address.display) := by
  unfold profileDnsServer
  rw [Value.asStr_string]
  dsimp only
  rw [address.trim_display, if_neg address.display_ne_empty, address.fromStr_display]

theorem profileMode_of_get {raw : Map} {key mode : String} {allowed : List String}
    (hmode : mode ∈ ["inherit", "off", "custom", "allow", "block"]) (hallowed : mode ∈ allowed)
    (hget : raw.get key = some (.string mode)) : profileMode raw key allowed = .ok mode := by
  have hstored : Stored 16 mode ∧ toAsciiLowercase mode = mode := by
    fin_cases hmode
    all_goals exact ⟨⟨by decide, ⟨by decide, by decide⟩, by decide +kernel⟩, by decide +kernel⟩
  unfold profileMode
  refine Except.bind_eq_ok.mpr ⟨mode, hstored.1.stringOr hget, ?_⟩
  rw [hstored.2, if_pos hallowed]
  rfl

section gives

variable {profile : NormalProfile} {raw : Map} (h : Gives profile raw)

include h

/-- A field of the stored profile. -/
theorem Gives.get_eq {key : String} {value : Value}
    (hkey : key ∉ ["id", "name", "createdAtMs", "updatedAtMs"])
    (hget : Map.get profile.entries.reverse key = some value) : raw.get key = some value := by
  rw [h.get key hkey, profile.get_entry hget]

/-- The target is read as it is, with the new name. -/
theorem Gives.profileTarget {name : String} (hname : requiredString raw "name" 60 = .ok name) :
    ∃ locations, profileTarget raw =
        .ok ⟨name, profile.target.targetKind, profile.target.selectionStrategy, locations⟩ ∧
      ∀ key, locations.get key = if key ∈ profileStrings.map Prod.fst then
        profile.target.locations.get key else none := by
  have hkeys : ∀ key ∈ profileStrings.map Prod.fst,
      key ∉ ["id", "name", "createdAtMs", "updatedAtMs"] := by decide
  have hlocations : ∀ key ∈ profileStrings.map Prod.fst,
      raw.get key = profile.target.locations.get key := by
    intro key hkey
    rw [h.get key (hkeys key hkey), profile.get_location hkey]
  have hlocated : Located raw := by
    intro entry hentry value hvalue
    rw [hlocations entry.1 (List.mem_map_of_mem hentry)] at hvalue
    exact profile.target.located entry hentry value hvalue
  obtain ⟨locations, hfold, hgets⟩ := foldlM_insertProfileString profileStrings hlocated []
  have hread : ∀ key, locations.get key = if key ∈ profileStrings.map Prod.fst then
      profile.target.locations.get key else none := by
    intro key
    rw [hgets, Map.get_nil, Option.or_none]
    split_ifs with hkey
    · exact hlocations key hkey
    · rfl
  have hvalid : profileTargetValid profile.target.targetKind locations = true := by
    rw [← profile.target.kind_valid]
    refine profileTargetValid_congr _ fun key hkey => ?_
    rw [hread, if_pos hkey]
  have hstrategy : Stored 16 profile.target.selectionStrategy ∧
      toAsciiLowercase profile.target.selectionStrategy = profile.target.selectionStrategy := by
    have hmem := profile.target.strategy_mem
    generalize profile.target.selectionStrategy = strategy at hmem
    fin_cases hmem
    all_goals exact ⟨⟨by decide, ⟨by decide, by decide⟩, by decide +kernel⟩, by decide +kernel⟩
  refine ⟨locations, ?_, hread⟩
  unfold Store.profileTarget
  refine Except.bind_eq_ok.mpr ⟨name, hname, ?_⟩
  refine Except.bind_eq_ok.mpr
    ⟨_, profile.target.kind_stored.stringOr (h.get_eq (by decide) rfl), ?_⟩
  refine Except.bind_eq_ok.mpr ⟨_, hstrategy.1.stringOr (h.get_eq (by decide) rfl), ?_⟩
  rw [hstrategy.2]
  refine Except.bind_eq_ok.mpr ⟨(), reject_of_not (not_not.mpr profile.target.strategy_mem) _, ?_⟩
  refine Except.bind_eq_ok.mpr ⟨locations, hfold, ?_⟩
  exact Except.bind_eq_ok.mpr ⟨(), reject_of_not (not_not.mpr hvalid) _, rfl⟩

/-- The settings are read as they are. -/
theorem Gives.profileSettings : profileSettings raw = .ok profile.settings.distinct.entries := by
  have hprotocol : Stored 32 profile.settings.protocol ∧
      toAsciiLowercase profile.settings.protocol = profile.settings.protocol := by
    have hmem := profile.settings.protocol_mem
    generalize profile.settings.protocol = protocol at hmem
    fin_cases hmem
    all_goals exact ⟨⟨by decide, ⟨by decide, by decide⟩, by decide +kernel⟩, by decide +kernel⟩
  have hnat : Stored 16 profile.settings.nat ∧ (if toAsciiLowercase profile.settings.nat =
      "moderate" then "moderate" else "strict") = profile.settings.nat := by
    have hmem := profile.settings.nat_mem
    generalize profile.settings.nat = nat at hmem
    fin_cases hmem
    all_goals exact ⟨⟨by decide, ⟨by decide, by decide⟩, by decide +kernel⟩, by decide +kernel⟩
  have hlevel : min (((raw.get "profileNetShieldLevel").bind Value.asU64).getD 2) 2 =
      profile.settings.netShieldLevel := by
    have hget : raw.get "profileNetShieldLevel" = some (.u64 profile.settings.netShieldLevel) :=
      h.get_eq (by decide) rfl
    rw [hget]
    exact if_pos profile.settings.level_le
  have hforwarding : (profile.settings.portForwarding && profile.settings.nat ≠ "moderate") =
      profile.settings.portForwarding := by
    cases hforwarded : profile.settings.portForwarding with
    | false => rfl
    | true =>
        rw [profile.settings.nat_strict hforwarded]
        rfl
  have hdns : ∀ mode ∈ ["inherit", "off", "custom"],
      mode ∈ ["inherit", "off", "custom", "allow", "block"] := by decide
  have hpolicy : ∀ mode ∈ ["inherit", "allow", "block"],
      mode ∈ ["inherit", "off", "custom", "allow", "block"] := by decide
  have hservers : profileDnsServers (raw.get "profileCustomDnsServers") =
      .ok (firstOccurrences profile.settings.customDnsServers) := by
    have hget : raw.get "profileCustomDnsServers" =
        some (.array (profile.settings.customDnsServers.map .string)) := h.get_eq (by decide) rfl
    rw [hget]
    refine Except.bind_eq_ok.mpr ⟨(), reject_of_not ?_ _, ?_⟩
    · rw [List.length_map]
      exact Nat.not_lt.mpr profile.settings.dns_length
    · refine Except.bind_eq_ok.mpr
        ⟨_, mapM_displays profileDnsServer_display profile.settings.dns_addresses, ?_⟩
      rw [List.filterMap_map]
      exact congrArg (fun texts => Except.ok (firstOccurrences texts)) List.filterMap_some
  unfold Store.profileSettings
  refine Except.bind_eq_ok.mpr ⟨_, hprotocol.1.stringOr (h.get_eq (by decide) rfl), ?_⟩
  refine Except.bind_eq_ok.mpr ⟨_, optionalBool_of_get (h.get_eq (by decide) rfl) false, ?_⟩
  refine Except.bind_eq_ok.mpr
    ⟨_, profile.settings.icon_stored.stringOr (h.get_eq (by decide) rfl), ?_⟩
  refine Except.bind_eq_ok.mpr
    ⟨_, profile.settings.color_stored.stringOr (h.get_eq (by decide) rfl), ?_⟩
  refine Except.bind_eq_ok.mpr ⟨_, optionalBool_of_get (h.get_eq (by decide) rfl) true, ?_⟩
  refine Except.bind_eq_ok.mpr ⟨_, hnat.1.stringOr (h.get_eq (by decide) rfl), ?_⟩
  refine Except.bind_eq_ok.mpr ⟨_, optionalBool_of_get (h.get_eq (by decide) rfl) false, ?_⟩
  refine Except.bind_eq_ok.mpr ⟨_, profileMode_of_get (hdns _ profile.settings.dns_mem)
    profile.settings.dns_mem (h.get_eq (by decide) rfl), ?_⟩
  refine Except.bind_eq_ok.mpr ⟨_, hservers, ?_⟩
  refine Except.bind_eq_ok.mpr ⟨(), reject_of_not ?_ _, ?_⟩
  · rintro ⟨hcustom, hnone⟩
    exact (profile.settings.dns_custom hcustom).1 (firstOccurrences_eq_nil hnone)
  refine Except.bind_eq_ok.mpr ⟨(), reject_of_not ?_ _, ?_⟩
  · rintro ⟨hcustom, henabled⟩
    rw [(profile.settings.dns_custom hcustom).2] at henabled
    cases henabled
  refine Except.bind_eq_ok.mpr ⟨_, profileMode_of_get (hpolicy _ profile.settings.lan_mem)
    profile.settings.lan_mem (h.get_eq (by decide) rfl), ?_⟩
  refine Except.bind_eq_ok.mpr ⟨_, profileMode_of_get (hpolicy _ profile.settings.localDns_mem)
    profile.settings.localDns_mem (h.get_eq (by decide) rfl), ?_⟩
  rw [hprotocol.2, if_pos profile.settings.protocol_mem, hlevel, hnat.2, hforwarding]
  rfl

/-- What is opened is read as it is. -/
theorem Gives.connectAndGo : connectAndGo raw = .ok profile.opening.entries := by
  have hmode : Stored 32 profile.opening.mode ∧
      toAsciiLowercase profile.opening.mode = profile.opening.mode := by
    have hmem := profile.opening.mode_mem
    generalize profile.opening.mode = mode at hmem
    fin_cases hmem
    all_goals exact ⟨⟨by decide, ⟨by decide, by decide⟩, by decide +kernel⟩, by decide +kernel⟩
  have hsame : ∀ text : String, (if text = "" then "" else text) = text := by
    intro text
    split_ifs with hempty
    · exact hempty.symm
    · rfl
  unfold Store.connectAndGo
  refine Except.bind_eq_ok.mpr ⟨_, optionalBool_of_get (h.get_eq (by decide) rfl) false, ?_⟩
  refine Except.bind_eq_ok.mpr ⟨_, hmode.1.stringOr (h.get_eq (by decide) rfl), ?_⟩
  rw [hmode.2]
  refine Except.bind_eq_ok.mpr ⟨(), reject_of_not (not_not.mpr profile.opening.mode_mem) _, ?_⟩
  refine Except.bind_eq_ok.mpr
    ⟨_, profile.opening.url_stored.stringOr (h.get_eq (by decide) rfl), ?_⟩
  refine Except.bind_eq_ok.mpr
    ⟨_, profile.opening.appId_stored.stringOr (h.get_eq (by decide) rfl), ?_⟩
  refine Except.bind_eq_ok.mpr
    ⟨_, profile.opening.appPath_stored.stringOr (h.get_eq (by decide) rfl), ?_⟩
  rw [hsame, hsame, hsame]
  refine Except.bind_eq_ok.mpr ⟨(), reject_of_not ?_ _, ?_⟩
  · exact fun hopen => profile.opening.complete hopen.1 hopen.2
  · exact Except.bind_eq_ok.mpr
      ⟨_, optionalBool_of_get (h.get_eq (by decide) rfl) false, rfl⟩

/-- **A stored profile is accepted again.** -/
theorem Gives.acceptable : Acceptable raw := by
  obtain ⟨name, hname⟩ := isOk_iff.mp h.name
  obtain ⟨locations, htarget, -⟩ := h.profileTarget hname
  exact ⟨isOk_iff.mpr ⟨_, htarget⟩, isOk_iff.mpr ⟨_, h.profileSettings⟩,
    isOk_iff.mpr ⟨_, h.connectAndGo⟩⟩

end gives

end ProtonVpnOmarchy.Agent.Store
