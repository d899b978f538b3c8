import ProtonVpnOmarchy.Lib.Text
import ProtonVpnOmarchy.Splitd.Model

/-!
# What validation does to a configuration

* `normalize_eq` — the first occurrences of the values that are not empty, in their order.
* `validate_spec` — a validated configuration is its own validation, and states the same rules.
* `configFromDbus_configToDbus` — it is recovered from its D-Bus form.
-/

namespace ProtonVpnOmarchy.Splitd

open Lib
open Std (ExtTreeMap)

/-! ## First occurrences -/

theorem nodup_eraseDups {α : Type} [DecidableEq α] (values : List α) : values.eraseDups.Nodup := by
  induction hlength : values.length using Nat.strongRecOn generalizing values with
  | _ length ih =>
      rcases values with _ | ⟨value, values⟩
      · exact List.nodup_nil
      · rw [List.eraseDups_cons, List.nodup_cons]
        constructor
        · rw [List.mem_eraseDups]
          simp
        · refine ih _ ?_ _ rfl
          have hle := List.length_filter_le (fun other => !other == value) values
          rw [List.length_cons] at hlength
          omega

theorem eraseDups_of_nodup {α : Type} [DecidableEq α] {values : List α} (h : values.Nodup) :
    values.eraseDups = values := by
  induction values with
  | nil => rfl
  | cons value values ih =>
      obtain ⟨hvalue, hvalues⟩ := List.nodup_cons.mp h
      have hfilter : (values.filter fun other => !other == value) = values := by
        refine List.filter_eq_self.mpr fun other hother => ?_
        have hne : other ≠ value := fun heq => hvalue (heq ▸ hother)
        simpa using hne
      rw [List.eraseDups_cons, hfilter, ih hvalues]

/-- What `normalize` keeps. -/
theorem normalize_eq (values : List String) :
    normalize values = (values.filter (· ≠ "")).eraseDups := by
  suffices h : ∀ normalized : List String, values.foldl (fun normalized value =>
      if value ≠ "" ∧ value ∉ normalized then normalized ++ [value] else normalized) normalized =
      normalized ++ (values.filter fun value => value ≠ "" ∧ value ∉ normalized).eraseDups by
    simpa [normalize] using h []
  induction values with
  | nil => simp
  | cons value values ih =>
      intro normalized
      rw [List.foldl_cons]
      by_cases hnew : value ≠ "" ∧ value ∉ normalized
      · rw [if_pos hnew, ih, List.filter_cons_of_pos (by simpa using hnew), List.eraseDups_cons,
          List.filter_filter, List.append_assoc, List.singleton_append]
        congr 3
        refine List.filter_congr fun other _ => ?_
        simp only [List.mem_append, List.mem_singleton, not_or]
        grind
      · rw [if_neg hnew, ih, List.filter_cons_of_neg (by simpa using hnew)]

theorem mem_normalize {values : List String} {value : String} :
    value ∈ normalize values ↔ value ∈ values ∧ value ≠ "" := by
  rw [normalize_eq, List.mem_eraseDups, List.mem_filter, decide_eq_true_eq]

theorem nodup_normalize (values : List String) : (normalize values).Nodup := by
  rw [normalize_eq]
  exact nodup_eraseDups _

/-- Nothing is dropped twice. -/
theorem normalize_of_nodup {values : List String} (hnodup : values.Nodup)
    (hnonempty : ∀ value ∈ values, value ≠ "") : normalize values = values := by
  have hfilter : values.filter (· ≠ "") = values :=
    List.filter_eq_self.mpr fun value hvalue => by simpa using hnonempty value hvalue
  rw [normalize_eq, hfilter, eraseDups_of_nodup hnodup]

/-! ## Ranges -/

/-- What the daemon relies on besides: the texts of networks are short and without NUL. -/
structure IpNetText.Short (text : IpNetText) : Prop where
  ne_empty : ∀ network, text.toString network ≠ ""
  wellFormed : ∀ network, malformed (text.toString network) = false

section ranges

variable {text : IpNetText}

/-- The network that a range states, before its host bits are cleared. -/
inductive Reads (text : IpNetText) (value : String) : IpNet → Prop
  | network {network} (h : text.fromStr (trim value) = some network) : Reads text value network
  | host {address} (hnetwork : text.fromStr (trim value) = none)
      (h : IpAddr.fromStr (trim value) = some address) : Reads text value (.host address)

theorem parseIpRange_eq_ok_iff {value : String} {truncated : IpNet} :
    parseIpRange text value = .ok truncated ↔
      ∃ network, Reads text value network ∧ truncated = network.trunc := by
  unfold parseIpRange
  dsimp only
  constructor
  · intro h
    cases hnetwork : text.fromStr (trim value) with
    | some network =>
        rw [hnetwork] at h
        exact ⟨network, .network hnetwork, (Except.ok.inj h).symm⟩
    | none =>
        rw [hnetwork] at h
        cases haddress : IpAddr.fromStr (trim value) with
        | some address =>
            rw [haddress] at h
            exact ⟨_, .host hnetwork haddress, (Except.ok.inj h).symm⟩
        | none =>
            rw [haddress] at h
            cases h
  · rintro ⟨network, hreads, rfl⟩
    cases hreads with
    | network h => rw [h]
    | host hnetwork h => rw [hnetwork, h]

theorem Reads.eq {value : String} {network other : IpNet} (h : Reads text value network)
    (hother : Reads text value other) : network = other := by
  cases h with
  | network h =>
      cases hother with
      | network hother => exact Option.some.inj (h.symm.trans hother)
      | host hnone _ =>
          rw [h] at hnone
          cases hnone
  | host hnone h =>
      cases hother with
      | network hother =>
          rw [hnone] at hother
          cases hother
      | host _ hother => rw [Option.some.inj (h.symm.trans hother)]

theorem reads_toString (hlaw : text.Lawful) (network : IpNet) :
    Reads text (text.toString network) network :=
  .network (by rw [hlaw.trim_toString, hlaw.fromStr_toString])

theorem canonicalIpRange_eq_ok_iff {value range : String} :
    canonicalIpRange text value = .ok range ↔
      ∃ network, Reads text value network ∧ range = text.toString network.trunc := by
  unfold canonicalIpRange
  constructor
  · intro h
    obtain ⟨truncated, hparse, rfl⟩ := Except.map_eq_ok.mp h
    obtain ⟨network, hreads, rfl⟩ := parseIpRange_eq_ok_iff.mp hparse
    exact ⟨network, hreads, rfl⟩
  · rintro ⟨network, hreads, rfl⟩
    rw [parseIpRange_eq_ok_iff.mpr ⟨network, hreads, rfl⟩]
    rfl

/-- A canonical range is its own canonical form. -/
theorem canonicalIpRange_canonical (hlaw : text.Lawful) {value : String}
    (h : Canonical text value) : canonicalIpRange text value = .ok value := by
  obtain ⟨network, rfl⟩ := h
  refine canonicalIpRange_eq_ok_iff.mpr ⟨network.trunc, reads_toString hlaw _, ?_⟩
  rw [IpNet.trunc_trunc]

/-- Validated ranges are validated again as they are. -/
theorem validateIpRanges_of_canonical (hlaw : text.Lawful) (hshort : text.Short)
    {ranges : List String} (hlength : ranges.length ≤ MAX_IP_RANGES) (hnodup : ranges.Nodup)
    (h : ∀ range ∈ ranges, Canonical text range) : validateIpRanges text ranges = .ok ranges := by
  have hmalformed : ranges.any malformed = false := by
    rw [List.any_eq_false]
    intro range hrange
    obtain ⟨network, rfl⟩ := h range hrange
    rw [hshort.wellFormed]
    exact Bool.false_ne_true
  have hnonempty : ∀ range ∈ ranges, trim range ≠ "" := by
    intro range hrange
    obtain ⟨network, rfl⟩ := h range hrange
    rw [hlaw.trim_toString]
    exact hshort.ne_empty _
  have hfilter : (ranges.filter fun range => trim range ≠ "") = ranges :=
    List.filter_eq_self.mpr fun range hrange => by simpa using hnonempty range hrange
  have hmap : ranges.mapM (canonicalIpRange text) = .ok ranges := by
    clear hlength hnodup hmalformed hnonempty hfilter
    induction ranges with
    | nil => rfl
    | cons range ranges ih =>
        rw [List.mapM_cons, canonicalIpRange_canonical hlaw (h range List.mem_cons_self),
          ih fun other hother => h other (List.mem_cons_of_mem _ hother)]
        rfl
  unfold validateIpRanges
  rw [if_neg (not_lt.mpr hlength), if_neg (by simp [hmalformed]), hfilter, hmap]
  refine congrArg Except.ok (normalize_of_nodup hnodup fun range hrange => ?_)
  obtain ⟨network, rfl⟩ := h range hrange
  exact hshort.ne_empty _

end ranges

/-! ## Configurations -/

/-- The addresses in the ranges of a configuration. -/
def SplitConfig.Covers (text : IpNetText) (config : SplitConfig) (address : IpAddr) : Prop :=
  ∃ range ∈ config.ipRanges, trim range ≠ "" ∧
    ∃ network, Reads text range network ∧ network.Contains address

/-- What a validated configuration has to do with the one that was given. -/
structure ValidationOf (text : IpNetText) (config validated : SplitConfig) : Prop where
  /-- Validation leaves it as it is. -/
  again : validated.validate text = .ok validated
  mode : validated.mode = config.mode
  /-- The paths are the first occurrences of those that are not empty. -/
  appPaths : validated.appPaths = (config.appPaths.filter (· ≠ "")).eraseDups
  /-- The ranges are the first occurrences of the canonical ranges. -/
  ipRanges : ∃ ranges, (config.ipRanges.filter (trim · ≠ "")).mapM (canonicalIpRange text) =
    .ok ranges ∧ validated.ipRanges = ranges.eraseDups
  nodup : validated.appPaths.Nodup ∧ validated.ipRanges.Nodup
  nonempty : ∀ value ∈ validated.appPaths ++ validated.ipRanges, value ≠ ""
  /-- The same processes match. -/
  isMatch : ∀ identities, validated.isMatch identities = config.isMatch identities
  covers : ∀ address, validated.Covers text address ↔ config.Covers text address

theorem contains_trunc {network : IpNet} {address : IpAddr} :
    network.trunc.Contains address ↔ network.Contains address := by
  rcases network with network | network <;> rcases address with address | address
  · exact network.contains_trunc address
  · exact Iff.rfl
  · exact Iff.rfl
  · exact network.contains_trunc address

section validate

variable {text : IpNetText}

theorem nonempty_of_canonical (hshort : text.Short) {value : String} (h : Canonical text value) :
    value ≠ "" := by
  obtain ⟨network, rfl⟩ := h
  exact hshort.ne_empty _

/-- The steps of a successful validation of ranges. -/
theorem validateIpRanges_eq_ok {values ranges : List String}
    (h : validateIpRanges text values = .ok ranges) :
    ∃ canonical, (values.filter (trim · ≠ "")).mapM (canonicalIpRange text) = .ok canonical ∧
      ranges = normalize canonical := by
  unfold validateIpRanges at h
  split_ifs at h with hlength hmalformed
  obtain ⟨canonical, hmap, h⟩ := Except.bind_eq_ok.mp h
  exact ⟨canonical, hmap, (Except.ok.inj h).symm⟩

/-- Configurations with the same paths, however often, have the same matches. -/
theorem isMatch_congr {config other : SplitConfig} (hmode : other.mode = config.mode)
    (hpaths : ∀ path, path ≠ "" → (path ∈ other.appPaths ↔ path ∈ config.appPaths))
    (identities : List String) : other.isMatch identities = config.isMatch identities := by
  unfold SplitConfig.isMatch
  rw [hmode]
  split_ifs
  · rfl
  · rw [Bool.eq_iff_iff, List.any_eq_true, List.any_eq_true]
    refine exists_congr fun path => and_congr_left fun _ => ?_
    simp only [List.mem_filter, decide_eq_true_eq]
    constructor
    · rintro ⟨hmem, hne⟩
      exact ⟨(hpaths path hne).mp hmem, hne⟩
    · rintro ⟨hmem, hne⟩
      exact ⟨(hpaths path hne).mpr hmem, hne⟩

/-- A configuration that validation has nothing to change about. -/
structure Fixed (text : IpNetText) (config : SplitConfig) : Prop where
  paths_le : config.appPaths.length ≤ MAX_PATHS
  ranges_le : config.ipRanges.length ≤ MAX_IP_RANGES
  paths_nodup : config.appPaths.Nodup
  ranges_nodup : config.ipRanges.Nodup
  paths : ∀ path ∈ config.appPaths, path ≠ "" ∧ malformed path = false
  ranges : ∀ range ∈ config.ipRanges, Canonical text range

theorem Fixed.validate (hlaw : text.Lawful) (hshort : text.Short) {config : SplitConfig}
    (h : Fixed text config) : config.validate text = .ok config := by
  have hfine : (config.appPaths ++ config.ipRanges).any malformed = false := by
    rw [List.any_eq_false]
    intro value hvalue
    rcases List.mem_append.mp hvalue with hvalue | hvalue
    · rw [(h.paths value hvalue).2]
      exact Bool.false_ne_true
    · obtain ⟨network, rfl⟩ := h.ranges value hvalue
      rw [hshort.wellFormed]
      exact Bool.false_ne_true
  unfold SplitConfig.validate
  rw [if_neg (not_lt.mpr h.paths_le), if_neg (not_lt.mpr h.ranges_le), if_neg (by simp [hfine]),
    validateIpRanges_of_canonical hlaw hshort h.ranges_le h.ranges_nodup h.ranges,
    normalize_of_nodup h.paths_nodup fun path hpath => (h.paths path hpath).1]
  rfl

/-- **Validation** is idempotent, and keeps the rules of a configuration. -/
theorem validate_spec (hlaw : text.Lawful) (hshort : text.Short) {config validated : SplitConfig}
    (h : config.validate text = .ok validated) : ValidationOf text config validated := by
  have hvalidated := h
  unfold SplitConfig.validate at h
  split_ifs at h with hpaths hlength hmalformed
  obtain ⟨ranges, hranges, h⟩ := Except.bind_eq_ok.mp h
  obtain rfl := Except.ok.inj h
  obtain ⟨hcanonical, hcount⟩ := validateIpRanges_spec hranges
  obtain ⟨canonical, hmap, rfl⟩ := validateIpRanges_eq_ok hranges
  have hcanonical' : ∀ range ∈ canonical, Canonical text range := by
    intro range hrange
    obtain ⟨value, -, hvalue⟩ := (Except.mem_of_mapM_eq_ok hmap).2 range hrange
    exact canonical_of_canonicalIpRange hvalue
  have hsub : (normalize config.appPaths).Sublist config.appPaths := normalize_sublist _
  refine ⟨?_, rfl, normalize_eq _, ⟨canonical, hmap, ?_⟩, ⟨nodup_normalize _, nodup_normalize _⟩,
    ?_, ?_, ?_⟩
  · refine Fixed.validate hlaw hshort ⟨hsub.length_le.trans (not_lt.mp hpaths), hcount,
      nodup_normalize _, nodup_normalize _, fun path hpath => ⟨(mem_normalize.mp hpath).2, ?_⟩,
      hcanonical⟩
    rw [Bool.not_eq_true, List.any_eq_false] at hmalformed
    exact Bool.not_eq_true _ ▸ hmalformed path (List.mem_append_left _ (hsub.subset hpath))
  · have hfilter : canonical.filter (· ≠ "") = canonical :=
      List.filter_eq_self.mpr fun range hrange => by
        simpa using nonempty_of_canonical hshort (hcanonical' range hrange)
    change normalize canonical = _
    rw [normalize_eq, hfilter]
  · intro value hvalue
    rcases List.mem_append.mp hvalue with hvalue | hvalue
    · exact (mem_normalize.mp hvalue).2
    · exact (mem_normalize.mp hvalue).2
  · refine isMatch_congr rfl fun path hne => ?_
    rw [mem_normalize]
    exact and_iff_left hne
  · intro address
    constructor
    · rintro ⟨range, hrange, -, network, hreads, hcontains⟩
      obtain ⟨value, hvalue, hcanonicalValue⟩ :=
        (Except.mem_of_mapM_eq_ok hmap).2 range (mem_normalize.mp hrange).1
      obtain ⟨original, horiginal, rfl⟩ := canonicalIpRange_eq_ok_iff.mp hcanonicalValue
      obtain rfl := hreads.eq (reads_toString hlaw original.trunc)
      rw [List.mem_filter, decide_eq_true_eq] at hvalue
      exact ⟨value, hvalue.1, hvalue.2, original, horiginal, contains_trunc.mp hcontains⟩
    · rintro ⟨value, hvalue, htrim, network, hreads, hcontains⟩
      obtain ⟨range, hrange, hcanonicalValue⟩ := Except.exists_mem_of_mapM_eq_ok hmap
        (List.mem_filter.mpr ⟨hvalue, by simpa using htrim⟩)
      obtain ⟨original, horiginal, rfl⟩ := canonicalIpRange_eq_ok_iff.mp hcanonicalValue
      obtain rfl := hreads.eq horiginal
      have hne := hshort.ne_empty network.trunc
      refine ⟨_, mem_normalize.mpr ⟨hrange, hne⟩, ?_, _, reads_toString hlaw network.trunc,
        contains_trunc.mpr hcontains⟩
      rwa [hlaw.trim_toString]

end validate

/-! ## The D-Bus form -/

/-- Source: `model.rs` `SplitMode::as_str` -/
def SplitMode.asStr : SplitMode → String
  | .exclude => "exclude"
  | .include => "include"

theorem SplitMode.parse_asStr (mode : SplitMode) : SplitMode.parse mode.asStr = .ok mode := by
  cases mode <;> decide

/-- The values of `zvariant` and their conversions. -/
structure OwnedValues (V : Type) where
  ofString : String → V
  ofStrings : List String → Except String V
  asString : V → Option String
  asStrings : V → Option (List String)

/-- Strings, and arrays of strings, are recovered. -/
structure OwnedValues.Lawful {V : Type} (values : OwnedValues V) : Prop where
  asString_ofString : ∀ string, values.asString (values.ofString string) = some string
  asStrings_ofStrings : ∀ strings, ∃ value,
    values.ofStrings strings = .ok value ∧ values.asStrings value = some strings

section dbus

variable {V : Type} (values : OwnedValues V)

/-- A required entry of the right type. -/
def entry {α : Type} (entries : ExtTreeMap String V) (key : String) (read : V → Option α)
    (missing mistyped : String) : Except String α :=
  match entries[key]? with
  | none => .error missing
  | some value =>
    match read value with
    | none => .error mistyped
    | some a => .ok a

theorem entry_eq_ok {α : Type} {entries : ExtTreeMap String V} {key : String}
    {read : V → Option α} {missing mistyped : String} {value : V} {a : α}
    (hget : entries[key]? = some value) (hread : read value = some a) :
    entry entries key read missing mistyped = .ok a := by
  unfold entry
  rw [hget]
  dsimp only
  rw [hread]

/-- Source: `main.rs` `config_from_dbus` -/
def configFromDbus (text : IpNetText) (entries : ExtTreeMap String V) :
    Except String SplitConfig := do
  let mode ← entry entries "mode" values.asString "mode is required" "mode must be a string"
  let entries := entries.erase "mode"
  let appPaths ← entry entries "app_paths" values.asStrings "app_paths is required"
    "app_paths must be an array of strings"
  let entries := entries.erase "app_paths"
  let ipRanges ← entry entries "ip_ranges" values.asStrings "ip_ranges is required"
    "ip_ranges must be an array of strings"
  let entries := entries.erase "ip_ranges"
  if ¬ entries.isEmpty then .error "unknown split-tunneling configuration key"
  else
    let mode ← SplitMode.parse mode
    SplitConfig.validate text { mode := mode, appPaths := appPaths, ipRanges := ipRanges }

/-- Source: `main.rs` `config_to_dbus` -/
def configToDbus (config : SplitConfig) : Except String (ExtTreeMap String V) := do
  let entries := (∅ : ExtTreeMap String V).insert "mode" (values.ofString config.mode.asStr)
  let appPaths ← values.ofStrings config.appPaths
  let entries := entries.insert "app_paths" appPaths
  let ipRanges ← values.ofStrings config.ipRanges
  return entries.insert "ip_ranges" ipRanges

variable {values} {text : IpNetText}

/-- **The D-Bus form** of a validated configuration is read as the configuration. -/
theorem configFromDbus_configToDbus (hvalues : values.Lawful) {config : SplitConfig}
    (h : config.validate text = .ok config) : ∃ entries,
      configToDbus values config = .ok entries ∧
      configFromDbus values text entries = .ok config := by
  obtain ⟨appPaths, happTo, happFrom⟩ := hvalues.asStrings_ofStrings config.appPaths
  obtain ⟨ipRanges, hipTo, hipFrom⟩ := hvalues.asStrings_ofStrings config.ipRanges
  have hmode := hvalues.asString_ofString config.mode.asStr
  refine ⟨((((∅ : ExtTreeMap String V).insert "mode" (values.ofString config.mode.asStr)).insert
    "app_paths" appPaths).insert "ip_ranges" ipRanges), ?_, ?_⟩
  · unfold configToDbus
    rw [happTo, hipTo]
    rfl
  · have hget : ∀ key : String, ((((∅ : ExtTreeMap String V).insert "mode"
        (values.ofString config.mode.asStr)).insert "app_paths" appPaths).insert "ip_ranges"
        ipRanges)[key]? = if key = "ip_ranges" then some ipRanges else
          if key = "app_paths" then some appPaths else
          if key = "mode" then some (values.ofString config.mode.asStr) else none := by
      intro key
      simp only [ExtTreeMap.getElem?_insert, compare_eq_iff_eq, ExtTreeMap.getElem?_empty,
        eq_comm (b := key)]
    have hempty : ((((((∅ : ExtTreeMap String V).insert "mode"
        (values.ofString config.mode.asStr)).insert "app_paths" appPaths).insert "ip_ranges"
        ipRanges).erase "mode").erase "app_paths").erase "ip_ranges" = ∅ := by
      refine ExtTreeMap.ext_getElem? fun key => ?_
      simp only [ExtTreeMap.getElem?_erase, hget, compare_eq_iff_eq]
      split_ifs <;> simp_all
    unfold configFromDbus
    refine Except.bind_eq_ok.mpr ⟨_, entry_eq_ok (by rw [hget]; rfl) hmode, ?_⟩
    refine Except.bind_eq_ok.mpr ⟨_, entry_eq_ok ?_ happFrom, ?_⟩
    · simp only [ExtTreeMap.getElem?_erase, hget]
      rfl
    refine Except.bind_eq_ok.mpr ⟨_, entry_eq_ok ?_ hipFrom, ?_⟩
    · simp only [ExtTreeMap.getElem?_erase, hget]
      rfl
    dsimp only
    rw [hempty, SplitMode.parse_asStr, if_neg (by simp)]
    exact h

end dbus

/-! ## The decimal text form is short -/

theorem lt_of_mem_fieldsOf {b : ℕ} (hb : 0 < b) {k n field : ℕ} (h : field ∈ fieldsOf b k n) :
    field < b := by
  induction k generalizing n with
  | zero => cases h
  | succ k ih =>
      rcases List.mem_append.mp h with h | h
      · exact ih h
      · rw [List.mem_singleton.mp h]
        exact Nat.mod_lt n hb

theorem length_intercalate_le {separator : Char} {bound : ℕ} {parts : List (List Char)}
    (h : ∀ part ∈ parts, part.length ≤ bound) :
    ([separator].intercalate parts).length ≤ parts.length * (bound + 1) := by
  induction parts with
  | nil => simp
  | cons part parts ih =>
      have hpart := h part List.mem_cons_self
      have hparts := ih fun other hother => h other (List.mem_cons_of_mem _ hother)
      rcases parts with _ | ⟨next, parts⟩
      · simp only [List.intercalate_singleton, List.length_cons, List.length_nil]
        omega
      · rw [List.intercalate_cons_cons, List.length_append, List.length_append,
          List.length_singleton, List.length_cons, Nat.add_one_mul]
        omega

/-- The text of a network with fields of at most five digits. -/
theorem fieldText_short {separator : Char} (hseparator : '\x00' ≠ separator) {fields : List ℕ}
    {prefixLen : ℕ} (hfields : ∀ field ∈ fields, field < 10 ^ 5) (hlength : fields.length ≤ 8)
    (hshort : prefixLen < 10 ^ 3) :
    String.ofList (fieldText separator fields prefixLen) ≠ "" ∧
      malformed (.ofList (fieldText separator fields prefixLen)) = false := by
  have hbody : ([separator].intercalate (fields.map (Nat.toDigits 10))).length ≤ 8 * 6 := by
    have hparts : ∀ part ∈ fields.map (Nat.toDigits 10), part.length ≤ 5 := by
      intro part hpart
      obtain ⟨field, hfield, rfl⟩ := List.mem_map.mp hpart
      exact Nat.toDigits_length 10 field 5 (by decide) (hfields field hfield)
    replace hparts := @length_intercalate_le separator _ _ hparts
    rw [List.length_map] at hparts
    omega
  have hdigits := Nat.toDigits_length 10 prefixLen 3 (by decide) hshort
  have htext : fieldText separator fields prefixLen =
      [separator].intercalate (fields.map (Nat.toDigits 10)) ++ '/' :: Nat.toDigits 10 prefixLen := by
    simp [fieldText, List.intercalate_cons_cons]
  constructor
  · intro h
    have hnil := congrArg String.toList h
    rw [String.toList_ofList, htext] at hnil
    simp at hnil
  · unfold malformed
    rw [Bool.or_eq_false_iff, decide_eq_false_iff_not, not_lt, utf8ByteSize_ofList, String.toList_ofList]
    constructor
    · have hsum : ((fieldText separator fields prefixLen).map Char.utf8Size).sum ≤
          ((fieldText separator fields prefixLen).map Char.utf8Size).length * 4 := by
        refine List.sum_le_card_nsmul _ 4 fun size hsize => ?_
        obtain ⟨c, -, rfl⟩ := List.mem_map.mp hsize
        exact c.utf8Size_le_four
      rw [List.length_map, htext, List.length_append, List.length_cons] at hsum
      rw [htext]
      unfold MAX_PATH_BYTES
      omega
    · rw [List.contains_eq_any_beq, List.any_eq_false]
      intro c hc hnul
      rw [← beq_iff_eq.mp hnul, htext, List.mem_append, List.mem_cons] at hc
      rcases hc with hc | hc | hc
      · exact not_mem_intercalate (by decide) hseparator fields hc
      · exact absurd hc (by decide)
      · exact not_mem_toDigits (by decide) prefixLen hc

theorem decimalText_short : decimalText.Short := by
  have hshort : ∀ network, decimalText.toString network ≠ "" ∧
      malformed (decimalText.toString network) = false := by
    intro network
    rcases network with network | network
    · have hle := network.prefixLen_le
      exact fieldText_short (by decide)
        (fun field hfield => (lt_of_mem_fieldsOf (by decide) hfield).trans (by decide))
        (by rw [length_fieldsOf]; decide) (by omega)
    · have hle := network.prefixLen_le
      exact fieldText_short (by decide)
        (fun field hfield => (lt_of_mem_fieldsOf (by decide) hfield).trans (by decide))
        (by rw [length_fieldsOf]) (by omega)
  exact ⟨fun network => (hshort network).1, fun network => (hshort network).2⟩

/-- Strings and arrays of strings. -/
def plainValues : OwnedValues (String ⊕ List String) where
  ofString := .inl
  ofStrings strings := .ok (.inr strings)
  asString := Sum.getLeft?
  asStrings := Sum.getRight?

theorem plainValues_lawful : plainValues.Lawful :=
  ⟨fun _ => rfl, fun strings => ⟨.inr strings, rfl, rfl⟩⟩

end ProtonVpnOmarchy.Splitd
