import ProtonVpnOmarchy.Lib.Fallible
import ProtonVpnOmarchy.Splitd.Net

/-!
# Split-tunnel configurations

`model.rs`: the configuration of one user, its validation, and the rules it states: whether a
process matches it (`SplitConfig.isMatch`) and whether a process is excluded from the VPN
(`SplitConfig.excludes`).

* `validate_ipRanges` — every range of a validated configuration is the text of a truncated
  network, at most `MAX_IP_RANGES` of them.
* `parseIpRange_canonical` — such a text parses, and to that network.
-/

namespace ProtonVpnOmarchy.Splitd

open Lib
open Std (ExtTreeMap)

def MAX_CONFIGS : ℕ := 64
def MAX_PATHS : ℕ := 256
def MAX_PATH_BYTES : ℕ := 4096
def MAX_IP_RANGES : ℕ := 256

/-- Source: `model.rs` `SplitMode` -/
inductive SplitMode where
  | exclude
  | include
  deriving DecidableEq, Repr

/-- Source: `model.rs` `SplitMode::parse` -/
def SplitMode.parse (value : String) : Except String SplitMode :=
  if value = "exclude" then .ok .exclude
  else if value = "include" then .ok .include
  else .error "mode must be 'exclude' or 'include'"

/-- Source: `model.rs` `SplitConfig` -/
structure SplitConfig where
  mode : SplitMode
  appPaths : List String
  ipRanges : List String
  deriving DecidableEq, Repr

/-! ## Ranges -/

/-- Drops empty values and all but the first of equal ones. Source: `model.rs` `normalize` -/
def normalize (values : List String) : List String :=
  values.foldl
    (fun normalized value =>
      if value ≠ "" ∧ value ∉ normalized then normalized ++ [value] else normalized) []

/-- A value no configuration may hold. -/
def malformed (value : String) : Bool :=
  decide (MAX_PATH_BYTES < value.utf8ByteSize) || value.toList.contains '\x00'

section ranges

variable (text : IpNetText)

/-- Source: `model.rs` `parse_ip_range` -/
def parseIpRange (value : String) : Except String IpNet :=
  let value := trim value
  match text.fromStr value with
  | some network => .ok network.trunc
  | none =>
    match IpAddr.fromStr value with
    | some address => .ok (IpNet.host address).trunc
    | none => .error ("invalid IP address or CIDR range: " ++ value)

/-- Source: `model.rs` `canonical_ip_range` -/
def canonicalIpRange (value : String) : Except String String :=
  text.toString <$> parseIpRange text value

/-- Source: `model.rs` `validate_ip_ranges` -/
def validateIpRanges (values : List String) : Except String (List String) :=
  if MAX_IP_RANGES < values.length then .error "at most 256 IP ranges are allowed"
  else if values.any malformed then .error "configuration values must be at most 4096 bytes"
  else do
    let values ← (values.filter fun value => trim value ≠ "").mapM (canonicalIpRange text)
    return normalize values

/-! ### What validation leaves -/

theorem normalize_sublist (values : List String) : (normalize values).Sublist values := by
  suffices h : ∀ normalized, (values.foldl (fun normalized value =>
      if value ≠ "" ∧ value ∉ normalized then normalized ++ [value] else normalized)
      normalized).Sublist (normalized ++ values) by
    simpa [normalize] using h []
  induction values with
  | nil => simp
  | cons value values ih =>
      intro normalized
      rw [List.foldl_cons]
      split
      · simpa using ih (normalized ++ [value])
      · refine (ih normalized).trans ?_
        exact (List.sublist_cons_self value values).append_left normalized

variable {text}

/-- The text of a truncated network. -/
def Canonical (text : IpNetText) (value : String) : Prop :=
  ∃ network : IpNet, value = text.toString network.trunc

theorem canonical_of_canonicalIpRange {value canonical : String}
    (h : canonicalIpRange text value = .ok canonical) : Canonical text canonical := by
  unfold canonicalIpRange parseIpRange at h
  cases hnet : text.fromStr (trim value) with
  | some network => exact ⟨network, by simpa [hnet] using h.symm⟩
  | none =>
      cases hip : IpAddr.fromStr (trim value) with
      | some address => exact ⟨IpNet.host address, by simpa [hnet, hip] using h.symm⟩
      | none => simp [hnet, hip] at h

theorem parseIpRange_canonical (hlaw : text.Lawful) {value : String} (h : Canonical text value) :
    ∃ network, value = text.toString network ∧ parseIpRange text value = .ok network := by
  obtain ⟨network, rfl⟩ := h
  refine ⟨network.trunc, rfl, ?_⟩
  simp [parseIpRange, hlaw.trim_toString, hlaw.fromStr_toString, IpNet.trunc_trunc]

theorem validateIpRanges_spec {values ranges : List String}
    (h : validateIpRanges text values = .ok ranges) :
    (∀ range ∈ ranges, Canonical text range) ∧ ranges.length ≤ MAX_IP_RANGES := by
  unfold validateIpRanges at h
  split_ifs at h with hlen hmal
  obtain ⟨canonical, hmap, h⟩ := Except.bind_eq_ok.mp h
  obtain rfl := Except.ok.inj h
  obtain ⟨hlen', hmem⟩ := Except.mem_of_mapM_eq_ok hmap
  have hsub := normalize_sublist canonical
  constructor
  · intro range hrange
    obtain ⟨value, -, hvalue⟩ := hmem range (hsub.subset hrange)
    exact canonical_of_canonicalIpRange hvalue
  · have h₁ := hsub.length_le
    have h₂ := List.length_filter_le (fun value => decide (trim value ≠ "")) values
    omega

end ranges

namespace SplitConfig

/-- Source: `model.rs` `SplitConfig::validate` -/
def validate (text : IpNetText) (config : SplitConfig) : Except String SplitConfig :=
  if MAX_PATHS < config.appPaths.length then .error "at most 256 application paths are allowed"
  else if MAX_IP_RANGES < config.ipRanges.length then .error "at most 256 IP ranges are allowed"
  else if (config.appPaths ++ config.ipRanges).any malformed then
    .error "configuration values must be at most 4096 bytes"
  else do
    let ipRanges ← validateIpRanges text config.ipRanges
    return { mode := config.mode, appPaths := normalize config.appPaths, ipRanges := ipRanges }

/-- The ranges of a validated configuration are validated ranges. -/
theorem validate_ipRanges {text : IpNetText} {config validated : SplitConfig}
    (h : config.validate text = .ok validated) :
    validateIpRanges text config.ipRanges = .ok validated.ipRanges := by
  unfold validate at h
  split_ifs at h
  obtain ⟨ranges, hranges, h⟩ := Except.bind_eq_ok.mp h
  obtain rfl := Except.ok.inj h
  exact hranges

/-! ## Rules -/

def hasAppRules (config : SplitConfig) : Bool := config.appPaths.any fun path => path ≠ ""

def hasRules (config : SplitConfig) : Bool := config.hasAppRules || !config.ipRanges.isEmpty

/-- The identity is the path, or the path followed by whitespace.
Source: `model.rs` `identity_matches_path` -/
def identityMatchesPath (identity path : String) : Bool :=
  identity == path ||
    match identity.toList.dropPrefix? path.toList with
    | some suffix => suffix.head?.any isWhitespace
    | none => false

/-- `str::contains` -/
def mentions (identity word : String) : Bool :=
  identity.toList.tails.any fun tail => word.toList.isPrefixOf tail

theorem mentions_iff {identity word : String} :
    mentions identity word = true ↔ word.toList <:+: identity.toList := by
  unfold mentions
  rw [List.any_eq_true, List.infix_iff_prefix_suffix]
  simp only [List.mem_tails, List.isPrefixOf_iff_prefix, and_comm]

/-- Source: `model.rs` `SplitConfig::matches` -/
def isMatch (config : SplitConfig) (identities : List String) : Bool :=
  if config.mode = .include ∧ identities.any (fun identity =>
      mentions identity "protonvpn-app" || mentions identity "proton-omarchy-agent") then true
  else (config.appPaths.filter fun path => path ≠ "").any fun path =>
    identities.any fun identity => identityMatchesPath identity path

/-- Source: `model.rs` `SplitConfig::excludes` -/
def excludes (config : SplitConfig) (matched : Bool) : Bool :=
  match config.mode with
  | .exclude => matched
  | .include => !matched

end SplitConfig

/-- Source: `model.rs` `ConfigMap` -/
abbrev ConfigMap := ExtTreeMap UInt16 SplitConfig

/-- Source: `model.rs` `PolicyMap` -/
abbrev PolicyMap := ExtTreeMap UInt16 (List String)

/-- The number of users with a configuration or a destination policy.
Source: `engine.rs` `configured_user_count` -/
def configuredUserCount (configs : ConfigMap) (policies : PolicyMap) : ℕ :=
  (configs.keys ++ policies.keys).dedup.length

theorem size_configs_le (configs : ConfigMap) (policies : PolicyMap) :
    configs.size ≤ configuredUserCount configs policies := by
  have hsub : configs.keys ⊆ (configs.keys ++ policies.keys).dedup := by
    intro uid huid
    exact List.mem_dedup.mpr (List.mem_append_left _ huid)
  have := (ExtTreeMap.nodup_keys.subperm hsub).length_le
  rwa [ExtTreeMap.length_keys] at this

theorem size_policies_le (configs : ConfigMap) (policies : PolicyMap) :
    policies.size ≤ configuredUserCount configs policies := by
  have hsub : policies.keys ⊆ (configs.keys ++ policies.keys).dedup := by
    intro uid huid
    exact List.mem_dedup.mpr (List.mem_append_right _ huid)
  have := (ExtTreeMap.nodup_keys.subperm hsub).length_le
  rwa [ExtTreeMap.length_keys] at this

/-- Every configuration and every destination policy went through validation. -/
structure Validated (text : IpNetText) (configs : ConfigMap) (policies : PolicyMap) : Prop where
  configs : ∀ (uid : UInt16) (config : SplitConfig), configs[uid]? = some config →
    ∃ raw : SplitConfig, raw.validate text = .ok config
  policies : ∀ (uid : UInt16) (ranges : List String), policies[uid]? = some ranges →
    ∃ raw, validateIpRanges text raw = .ok ranges

namespace Validated

variable {text : IpNetText} {configs : ConfigMap} {policies : PolicyMap}

theorem config_spec (h : Validated text configs policies) {uid : UInt16} {config : SplitConfig}
    (hget : configs[uid]? = some config) :
    (∀ range ∈ config.ipRanges, Canonical text range) ∧ config.ipRanges.length ≤ MAX_IP_RANGES := by
  obtain ⟨raw, hraw⟩ := h.configs uid config hget
  exact validateIpRanges_spec (SplitConfig.validate_ipRanges hraw)

theorem policy_spec (h : Validated text configs policies) {uid : UInt16} {ranges : List String}
    (hget : policies[uid]? = some ranges) :
    (∀ range ∈ ranges, Canonical text range) ∧ ranges.length ≤ MAX_IP_RANGES := by
  obtain ⟨raw, hraw⟩ := h.policies uid ranges hget
  exact validateIpRanges_spec hraw

end Validated

end ProtonVpnOmarchy.Splitd
