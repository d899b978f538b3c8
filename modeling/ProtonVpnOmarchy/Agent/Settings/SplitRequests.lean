import ProtonVpnOmarchy.Agent.NativeError
import ProtonVpnOmarchy.Agent.Settings.Basic
import ProtonVpnOmarchy.Splitd.Validation

/-!
# Requests for split tunneling

`mod.rs` `split_request_config`: the lists of applications and ranges of a request, over any text
form of networks, with the other fields of the configuration and the sources of the errors. The agent
has limits and a parser of its own for the lists that the daemon validates again.

* `plain_splitRequestConfig` — without these fields and sources, and in the text form of the agent,
  it is what the requests for the settings do.
* `splitRequestConfig_spec` — the lists of an accepted request are short, canonical and without
  repetitions.
* `lists_agree` — the daemon accepts them and leaves them as they are.
-/

namespace ProtonVpnOmarchy.Agent.Settings.SplitRequests

open Lib Splitd Store Native
open Backend (readRange networkText)

/-- Source: `models.rs` `SplitTunnelingConfig`, with the fields that are kept for other versions -/
structure SplitTunnelingConfig where
  mode : String
  appPaths : List String
  ipRanges : List String
  extra : Map
  deriving DecidableEq

def invalidSplitApps (message : String) : NativeError :=
  { code := "invalid_split_apps", message := message }

def invalidSplitIpRanges (message : String) : NativeError :=
  { code := "invalid_split_ip_ranges", message := message }

/-- An entry of `app_paths`; a blank one is left out. -/
def splitApp (raw : Value) : NativeResult (Option String) :=
  match raw.asStr with
  | none => .error (invalidSplitApps "App entries must be strings")
  | some value =>
    let value := trim value
    if value = "" then .ok none
    else if value.toList.any (fun c => c = '\x00' || c = '\n' || c = '\r') ∨
        MAX_SPLIT_APP_PATH_BYTES < value.utf8ByteSize then
      .error (invalidSplitApps "App entry contains invalid characters or is too long")
    else .ok (some value)

section ranges

variable (text : IpNetText)

/-- An entry of `ip_ranges`; a blank one is left out. -/
def splitIpRange (raw : Value) : NativeResult (Option String) :=
  match raw.asStr with
  | none => .error (invalidSplitIpRanges "IP range entries must be strings")
  | some value =>
    let value := trim value
    if value = "" then .ok none
    else
      match text.fromStr value with
      | some network => .ok (some (text.toString network.trunc))
      | none =>
        match IpAddr.fromStr value with
        | some address => .ok (some (text.toString (IpNet.host address).trunc))
        | none => .error
            { invalidSplitIpRanges ("Invalid IP address or CIDR range: " ++ value) with
              source := some "invalid IP address syntax" }

/-- The entries of a list, at most so many, without repetitions. -/
def splitList (value : Value) (maximum : ℕ) (invalid : String → NativeError) (key : String)
    (read : Value → NativeResult (Option String)) : NativeResult (List String) :=
  match value.asArray with
  | none => .error (invalid (key ++ " must be an array"))
  | some entries =>
    if maximum < entries.length then
      .error (invalid (key ++ " must contain at most " ++ toString maximum ++ " entries"))
    else (entries.mapM read).map fun texts => firstOccurrences (texts.filterMap id)

/-- Source: `mod.rs` `split_request_config` -/
def splitRequestConfig (params : Value) (requestName mode : String)
    (previous : SplitTunnelingConfig) : NativeResult SplitTunnelingConfig :=
  match ((params.get requestName).getD (.object [])).asObject with
  | none => .error
      { code := "invalid_params", message := "standard/inverse configs must be objects" }
  | some object => do
    let appPaths ← splitList ((object.get "app_paths").getD (.array [])) MAX_SPLIT_APPS
      invalidSplitApps "app_paths" splitApp
    let ipRanges ← splitList
      ((object.get "ip_ranges").getD (.array (previous.ipRanges.map .string)))
      MAX_SPLIT_IP_RANGES invalidSplitIpRanges "ip_ranges" (splitIpRange text)
    return { previous with mode := mode, appPaths := appPaths, ipRanges := ipRanges }

end ranges

/-! ## The settings -/

/-- An error without its source. -/
def plainError (error : NativeError) : BackendError where
  code := error.code
  message := error.message
  retryable := error.retryable
  details := error.details

/-- A configuration without its other fields. -/
def SplitTunnelingConfig.plain (config : SplitTunnelingConfig) : Settings.SplitTunnelingConfig where
  mode := config.mode
  appPaths := config.appPaths
  ipRanges := config.ipRanges

/-- The text form of networks in the settings. -/
def settingsText : IpNetText where
  fromStr := readRange
  toString := networkText

theorem plain_splitApp (raw : Value) :
    (splitApp raw).mapError plainError = Settings.splitApp raw := by
  unfold splitApp Settings.splitApp
  cases raw.asStr with
  | none => rfl
  | some value =>
      show (if trim value = "" then _ else _ : NativeResult (Option String)).mapError plainError =
        if trim value = "" then _ else _
      by_cases hempty : trim value = ""
      · rw [if_pos hempty, if_pos hempty]
        rfl
      rw [if_neg hempty, if_neg hempty]
      have hsame : (trim value).toList.any (fun c => c = '\x00' || c = '\n' || c = '\r') =
          (trim value).toList.any (fun c => c = Char.ofNat 0 ∨ c = '\n' ∨ c = '\r') := by
        simp only [Bool.decide_or, Bool.or_assoc]
      rw [hsame]
      unfold reject
      split_ifs
      all_goals rfl

theorem plain_splitIpRange (raw : Value) :
    (splitIpRange settingsText raw).mapError plainError = Settings.splitIpRange raw := by
  unfold splitIpRange Settings.splitIpRange
  cases raw.asStr with
  | none => rfl
  | some value =>
      show (if trim value = "" then _ else _ : NativeResult (Option String)).mapError plainError =
        if trim value = "" then _ else _
      by_cases hempty : trim value = ""
      · rw [if_pos hempty, if_pos hempty]
        rfl
      rw [if_neg hempty, if_neg hempty]
      cases hnetwork : readRange (trim value) with
      | some network =>
          simp only [settingsText, hnetwork, okOrElse]
          rfl
      | none =>
          cases haddress : IpAddr.fromStr (trim value) with
          | some address =>
              simp only [settingsText, hnetwork, okOrElse, Option.none_or, Option.map_some]
              rfl
          | none =>
              simp only [settingsText, hnetwork, okOrElse, Option.none_or, Option.map_none]
              rfl

theorem plain_mapM {read : Value → NativeResult (Option String)}
    {read' : Value → Except BackendError (Option String)}
    (h : ∀ raw, (read raw).mapError plainError = read' raw) (entries : List Value) :
    (entries.mapM read).mapError plainError = entries.mapM read' := by
  induction entries with
  | nil => rfl
  | cons raw entries ih =>
      rw [List.mapM_cons, List.mapM_cons, ← h raw, ← ih]
      cases read raw with
      | error error => rfl
      | ok entry =>
          cases entries.mapM read with
          | error error => rfl
          | ok rest => rfl

/-- One of the lists of a request, in the model of all settings. -/
theorem plain_splitList (value : Value) (maximum : ℕ) (invalid : String → NativeError)
    (key : String) {read : Value → NativeResult (Option String)}
    {read' : Value → Except BackendError (Option String)}
    (h : ∀ raw, (read raw).mapError plainError = read' raw) :
    (splitList value maximum invalid key read).mapError plainError = (do
      let entries ← okOrElse value.asArray (plainError (invalid (key ++ " must be an array")))
      reject (maximum < entries.length)
        (plainError (invalid (key ++ " must contain at most " ++ toString maximum ++ " entries")))
      let texts ← entries.mapM read'
      return firstOccurrences (texts.filterMap id)) := by
  unfold splitList
  cases value.asArray with
  | none => rfl
  | some entries =>
      show (if maximum < entries.length then _ else _ : NativeResult (List String)).mapError
        plainError = (reject (maximum < entries.length) _ >>= _)
      unfold reject
      by_cases hlength : maximum < entries.length
      · rw [if_pos hlength, if_pos hlength]
        rfl
      rw [if_neg hlength, if_neg hlength, ← plain_mapM h entries]
      cases entries.mapM read with
      | error error => rfl
      | ok texts => rfl

/-- The settings that a request asks for, in the model of all settings. -/
theorem plain_splitRequestConfig (params : Value) (requestName mode : String)
    (previous : SplitTunnelingConfig) :
    ((splitRequestConfig settingsText params requestName mode previous).mapError plainError).map
        SplitTunnelingConfig.plain =
      Settings.splitRequestConfig params requestName mode previous.plain := by
  unfold splitRequestConfig Settings.splitRequestConfig
  change _ = (okOrElse ((params.get requestName).getD (.object [])).asObject _ >>= _)
  cases ((params.get requestName).getD (.object [])).asObject with
  | none => rfl
  | some object =>
      have happs := plain_splitList ((object.get "app_paths").getD (.array [])) MAX_SPLIT_APPS
        invalidSplitApps "app_paths" plain_splitApp
      have hranges := plain_splitList
        ((object.get "ip_ranges").getD (.array (previous.ipRanges.map .string)))
        MAX_SPLIT_IP_RANGES invalidSplitIpRanges "ip_ranges" plain_splitIpRange
      refine Eq.trans (b := (splitList ((object.get "app_paths").getD (.array [])) MAX_SPLIT_APPS
        invalidSplitApps "app_paths" splitApp).mapError plainError >>= fun appPaths =>
          (splitList ((object.get "ip_ranges").getD (.array (previous.ipRanges.map .string)))
            MAX_SPLIT_IP_RANGES invalidSplitIpRanges "ip_ranges"
            (splitIpRange settingsText)).mapError plainError >>= fun ipRanges =>
              pure { previous.plain with mode, appPaths, ipRanges }) ?_ ?_
      · dsimp only
        cases splitList ((object.get "app_paths").getD (.array [])) MAX_SPLIT_APPS
            invalidSplitApps "app_paths" splitApp with
        | error error => rfl
        | ok appPaths =>
            cases splitList ((object.get "ip_ranges").getD
                (.array (previous.ipRanges.map .string))) MAX_SPLIT_IP_RANGES
                invalidSplitIpRanges "ip_ranges" (splitIpRange settingsText) with
            | error error => rfl
            | ok ipRanges => rfl
      · rw [happs, hranges]
        simp only [bind_assoc, pure_bind]
        rfl

section ranges

variable {text : IpNetText}

/-! ## What is accepted -/

/-- A path that the daemon accepts as it is. -/
def PlainPath (path : String) : Prop := path ≠ "" ∧ malformed path = false

theorem splitApp_eq_ok {raw : Value} {path : String} (h : splitApp raw = .ok (some path)) :
    PlainPath path := by
  unfold splitApp at h
  cases hraw : raw.asStr with
  | none =>
      rw [hraw] at h
      cases h
  | some value =>
      rw [hraw] at h
      dsimp only at h
      split_ifs at h with hempty hinvalid
      · cases h
      · obtain rfl := Option.some.inj (Except.ok.inj h)
        rw [not_or, not_lt, Bool.not_eq_true, List.any_eq_false] at hinvalid
        refine ⟨hempty, ?_⟩
        unfold malformed
        rw [Bool.or_eq_false_iff, decide_eq_false_iff_not, not_lt]
        refine ⟨hinvalid.2, ?_⟩
        rw [List.contains_eq_any_beq, List.any_eq_false]
        intro c hc
        have hplain := hinvalid.1 c hc
        rw [Bool.or_eq_true, Bool.or_eq_true, not_or, not_or, decide_eq_true_eq] at hplain
        exact fun heq => hplain.1.1 (beq_iff_eq.mp heq).symm

theorem splitIpRange_eq_ok {raw : Value} {range : String}
    (h : splitIpRange text raw = .ok (some range)) : Canonical text range := by
  unfold splitIpRange at h
  cases hraw : raw.asStr with
  | none =>
      rw [hraw] at h
      cases h
  | some value =>
      rw [hraw] at h
      dsimp only at h
      split_ifs at h with hempty
      · cases h
      · cases hnetwork : text.fromStr (trim value) with
        | some network =>
            rw [hnetwork] at h
            exact ⟨network, (Option.some.inj (Except.ok.inj h)).symm⟩
        | none =>
            rw [hnetwork] at h
            cases haddress : IpAddr.fromStr (trim value) with
            | some address =>
                rw [haddress] at h
                exact ⟨_, (Option.some.inj (Except.ok.inj h)).symm⟩
            | none =>
                rw [haddress] at h
                cases h

/-- A list is no longer than its bound, has no repetitions, and only entries that were read. -/
theorem splitList_eq_ok {value : Value} {maximum : ℕ} {invalid : String → NativeError}
    {key : String} {read : Value → NativeResult (Option String)} {texts : List String}
    (h : splitList value maximum invalid key read = .ok texts) :
    texts.length ≤ maximum ∧ texts.Nodup ∧ ∀ entry ∈ texts, ∃ raw, read raw = .ok (some entry) := by
  unfold splitList at h
  cases hentries : value.asArray with
  | none =>
      rw [hentries] at h
      cases h
  | some entries =>
      rw [hentries] at h
      dsimp only at h
      split_ifs at h with hlength
      obtain ⟨read, hread, rfl⟩ := Except.map_eq_ok.mp h
      obtain ⟨hcount, hmem⟩ := Except.mem_of_mapM_eq_ok hread
      refine ⟨?_, nodup_firstOccurrences _, fun entry hentry => ?_⟩
      · have hfirst := length_firstOccurrences_le (read.filterMap id)
        have hfilter := List.length_filterMap_le id read
        omega
      · rw [mem_firstOccurrences, List.mem_filterMap] at hentry
        obtain ⟨_, hentry, rfl⟩ := hentry
        obtain ⟨raw, -, hraw⟩ := hmem _ hentry
        exact ⟨raw, hraw⟩

/-- What an accepted request asks for. -/
theorem splitRequestConfig_spec {params : Value} {requestName mode : String}
    {previous config : SplitTunnelingConfig}
    (h : splitRequestConfig text params requestName mode previous = .ok config) :
    config.mode = mode ∧
      (config.appPaths.length ≤ MAX_SPLIT_APPS ∧ config.appPaths.Nodup ∧
        ∀ path ∈ config.appPaths, PlainPath path) ∧
      config.ipRanges.length ≤ MAX_SPLIT_IP_RANGES ∧ config.ipRanges.Nodup ∧
        ∀ range ∈ config.ipRanges, Canonical text range := by
  unfold splitRequestConfig at h
  cases hobject : ((params.get requestName).getD (.object [])).asObject with
  | none =>
      rw [hobject] at h
      cases h
  | some object =>
      rw [hobject] at h
      obtain ⟨appPaths, happs, h⟩ := Except.bind_eq_ok.mp h
      obtain ⟨ipRanges, hranges, h⟩ := Except.bind_eq_ok.mp h
      obtain rfl := Except.ok.inj h
      obtain ⟨happCount, happNodup, happ⟩ := splitList_eq_ok happs
      obtain ⟨hrangeCount, hrangeNodup, hrange⟩ := splitList_eq_ok hranges
      refine ⟨rfl, ⟨happCount, happNodup, fun path hpath => ?_⟩, hrangeCount, hrangeNodup,
        fun range hmem => ?_⟩
      · obtain ⟨raw, hraw⟩ := happ path hpath
        exact splitApp_eq_ok hraw
      · obtain ⟨raw, hraw⟩ := hrange range hmem
        exact splitIpRange_eq_ok hraw

end ranges

/-! ## The daemon's validation -/

/-- The configuration that the daemon is given. -/
def SplitTunnelingConfig.forDaemon (config : SplitTunnelingConfig) (mode : SplitMode) :
    SplitConfig where
  mode := mode
  appPaths := config.appPaths
  ipRanges := config.ipRanges

/-- **The lists of both sides agree.** The daemon's validation is idempotent and keeps the rules, a
validated configuration passes through its D-Bus form unchanged, and so does through the validation
what the agent accepted. -/
theorem lists_agree {text : IpNetText} (hlaw : text.Lawful) (hshort : text.Short) {V : Type}
    {values : OwnedValues V} (hvalues : values.Lawful) :
    (∀ config validated : SplitConfig, config.validate text = .ok validated →
      ValidationOf text config validated ∧ ∃ entries,
        configToDbus values validated = .ok entries ∧
        configFromDbus values text entries = .ok validated) ∧
    ∀ (params : Value) (requestName : String) (mode : SplitMode)
      (previous config : SplitTunnelingConfig),
      splitRequestConfig text params requestName mode.asStr previous = .ok config →
        SplitMode.parse config.mode = .ok mode ∧
        (config.forDaemon mode).validate text = .ok (config.forDaemon mode) := by
  constructor
  · intro config validated h
    have hspec := validate_spec hlaw hshort h
    exact ⟨hspec, configFromDbus_configToDbus hvalues hspec.again⟩
  · intro params requestName mode previous config h
    obtain ⟨hmode, ⟨happCount, happNodup, happ⟩, hrangeCount, hrangeNodup, hrange⟩ :=
      splitRequestConfig_spec h
    rw [hmode]
    refine ⟨SplitMode.parse_asStr mode, ?_⟩
    have happFew : config.appPaths.length ≤ MAX_PATHS :=
      happCount.trans (by unfold MAX_SPLIT_APPS MAX_PATHS; omega)
    exact Fixed.validate hlaw hshort ⟨happFew, hrangeCount, happNodup, hrangeNodup, happ, hrange⟩

/-- A configuration with a repeated path and a range with host bits. -/
def repeatedConfig : SplitConfig where
  mode := .exclude
  appPaths := ["/usr/bin/vi", "", "/usr/bin/vi"]
  ipRanges := ["192.0.2.42/24", " ", "192.0.2.0/24"]

def requestedConfig : SplitTunnelingConfig where
  mode := "exclude"
  appPaths := ["/usr/bin/vi"]
  ipRanges := ["192.0.2.0/24"]
  extra := []

theorem lists_agree_repeated :
    (ValidationOf decimalText repeatedConfig (requestedConfig.forDaemon .exclude) ∧
      ∃ entries, configToDbus plainValues (requestedConfig.forDaemon .exclude) = .ok entries ∧
        configFromDbus plainValues decimalText entries =
          .ok (requestedConfig.forDaemon .exclude)) ∧
    (requestedConfig.forDaemon .exclude).validate decimalText =
      .ok (requestedConfig.forDaemon .exclude) := by
  have hagree := lists_agree decimalText_lawful decimalText_short plainValues_lawful
  constructor
  · exact hagree.1 repeatedConfig _ (by decide +kernel)
  · have hrequest : splitRequestConfig decimalText (.object [("standard", .object
        [("app_paths", .array [.string " /usr/bin/vi"]),
          ("ip_ranges", .array [.string "192.0.2.42/24", .string "192.0.2.0/24"])])])
        "standard" SplitMode.exclude.asStr { requestedConfig with appPaths := [], ipRanges := [] } =
        .ok requestedConfig := by
      decide +kernel
    exact (hagree.2 _ "standard" .exclude _ _ hrequest).2

end ProtonVpnOmarchy.Agent.Settings.SplitRequests
