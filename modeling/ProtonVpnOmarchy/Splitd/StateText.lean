import ProtonVpnOmarchy.Agent.JsonSyntax
import ProtonVpnOmarchy.Lib.Codec
import ProtonVpnOmarchy.Splitd.Store

/-!
# The text of the state file

What `serde_json` writes for a `StoredState` with `to_vec_pretty`, and what it reads with
`from_slice`: the fields of a record in any order, each at most once and none unknown. Which error a
malformed text has is left out.

* `stateCodec` — the text of a state, from codecs of its parts.
* `stateJson_lawful` — a state is recovered from its text.
-/

namespace ProtonVpnOmarchy.Splitd.StateText

open Std (ExtTreeMap)
open Agent Lib StateStore

/-! ## JSON -/

/-- `serde_json::ser::PrettyFormatter` -/
def json : Punctuation where
  blank := isBlank
  mark c := c ∈ [',', ':', ']', '}']
  line depth := '\n' :: List.replicate (2 * depth) ' '
  line_blank depth c hc := by
    rcases List.mem_cons.mp hc with rfl | hc
    · decide
    · obtain rfl := List.eq_of_mem_replicate hc
      decide

def arrayBrackets : Brackets json where
  opening := '['
  closing := ']'
  separator := ','
  opening_begins := by decide
  closing_mark := by decide
  separator_mark := by decide
  closing_solid := by decide
  separator_solid := by decide
  distinct := by decide

def objectBrackets : Brackets json where
  opening := '{'
  closing := '}'
  separator := ','
  opening_begins := by decide
  closing_mark := by decide
  separator_mark := by decide
  closing_solid := by decide
  separator_solid := by decide
  distinct := by decide

def colon : Codec.Colon json where
  colon := ':'
  gap := [' ']
  colon_mark := by decide
  colon_solid := by decide
  gap_blank c hc := by
    obtain rfl := List.mem_singleton.mp hc
    decide

theorem isNumberChar_of_delimits {c : Char} (h : json.delimits c = true) : isNumberChar c = false := by
  have hmem : c ∈ [' ', '\t', '\n', '\r', ',', ':', ']', '}'] := by
    unfold Punctuation.delimits json isBlank at h
    simp only [Bool.or_eq_true, decide_eq_true_eq] at h
    rw [← List.mem_append] at h
    exact h
  have hall : [' ', '\t', '\n', '\r', ',', ':', ']', '}'].all fun c => !isNumberChar c := by
    decide +kernel
  simpa using List.all_eq_true.mp hall c hmem

theorem stops_of_ends {rest : List Char} (h : json.Ends rest) : Stops rest :=
  fun c hc => isNumberChar_of_delimits (h c hc)

def string : Codec json String where
  write _ text := writeString text
  read
    | '"' :: rest => (readChars rest).map fun (chars, rest) => (.ofList chars, rest)
    | _ => none
  begins _ text := ⟨'"', _, rfl, by decide⟩
  read_write _ text rest _ := by
    unfold writeString
    rw [List.cons_append, List.append_assoc, List.singleton_append]
    change (readChars (text.toList.flatMap escapeChar ++ '"' :: rest)).map _ = _
    rw [readChars_writeString, Option.map_some]
    dsimp only
    rw [String.ofList_toList]

/-- An unsigned number below a bound -/
def number (bound : ℕ) : Codec json (Fin bound) where
  write _ value := Nat.toDigits 10 value
  read text := (readDigits (text.takeWhile isNumberChar)).bind fun n =>
    if h : n < bound then some (⟨n, h⟩, text.dropWhile isNumberChar) else none
  begins _ value := by
    obtain ⟨c, text, htext⟩ := List.exists_cons_of_ne_nil (Nat.toDigits_ne_nil (b := 10) (n := value))
    refine ⟨c, text, htext, ?_⟩
    have hc : isNumberChar c := isNumberChar_toDigits (by rw [htext]; exact List.mem_cons_self)
    by_contra hdelimits
    rw [isNumberChar_of_delimits (by simpa using hdelimits)] at hc
    cases hc
  read_write _ value rest hrest := by
    obtain ⟨htake, hdrop⟩ := takeWhile_append_stops
      (fun c hc => isNumberChar_toDigits (n := value) hc) (stops_of_ends hrest)
    rw [htake, hdrop, readDigits_toDigits, Option.bind_some, dif_pos value.isLt]

/-- `null`, or a value that is written as a string -/
def nullable {α : Type} (f : α → String) (g : String → Option α) (h : ∀ value, g (f value) = some value) :
    Codec json (Option α) where
  write depth
    | none => ['n', 'u', 'l', 'l']
    | some value => string.write depth (f value)
  read
    | 'n' :: 'u' :: 'l' :: 'l' :: rest => some (none, rest)
    | text => ((string.map f g h).read text).map fun read => (some read.1, read.2)
  begins depth value := by
    rcases value with _ | value
    · exact ⟨'n', _, rfl, by decide⟩
    · exact string.begins depth (f value)
  read_write depth value rest hrest := by
    rcases value with _ | value
    · rfl
    · have hread := (string.map f g h).read_write depth value rest hrest
      obtain ⟨text, htext⟩ : ∃ text, string.write depth (f value) = '"' :: text := ⟨_, rfl⟩
      change (string.map f g h).read (string.write depth (f value) ++ rest) = _ at hread
      show (match string.write depth (f value) ++ rest with
        | 'n' :: 'u' :: 'l' :: 'l' :: rest => some (none, rest)
        | text => ((string.map f g h).read text).map fun (read : α × List Char) =>
          (some read.1, read.2)) = _
      rw [htext, List.cons_append] at hread ⊢
      -- A text that begins with a quote is not `null`.
      change ((string.map f g h).read ('"' :: (text ++ rest))).map _ = _
      rw [hread]
      rfl

/-! ## Records -/

/-- The value of a field that is there once -/
def only {F α : Type} (field : F → Option α) (fields : List F) : Option α :=
  match fields.filterMap field with
  | [value] => some value
  | _ => none

/-- The value of a field that may be left out -/
def defaulted {F α : Type} (default : α) (field : F → Option α) (fields : List F) : Option α :=
  match fields.filterMap field with
  | [] => some default
  | [value] => some value
  | _ => none

/-- A record, with its fields in any order -/
def record {F α : Type} (fields : Codec.Fields json String F) (split : α → List F)
    (join : List F → Option α) (h : ∀ value, join (split value) = some value) : Codec json α :=
  (Codec.sequence objectBrackets (Codec.entry colon string fields)).map split join h

def strings : Codec json (List String) := Codec.sequence arrayBrackets string

/-! ### Configurations -/

/-- Source: `model.rs` `SplitMode`, derived -/
def mode : Codec json SplitMode :=
  string.map SplitMode.asStr
    (fun text => if text = "exclude" then some .exclude else if text = "include" then some .include else none)
    (fun mode => by cases mode <;> decide)

inductive ConfigField where
  | mode (mode : SplitMode)
  | appPaths (paths : List String)
  | ipRanges (ranges : List String)

def configFields : Codec.Fields json String ConfigField where
  key
    | .mode _ => "mode"
    | .appPaths _ => "app_paths"
    | .ipRanges _ => "ip_ranges"
  write depth
    | .mode value => mode.write depth value
    | .appPaths paths => strings.write depth paths
    | .ipRanges ranges => strings.write depth ranges
  read key text :=
    if key = "mode" then (mode.read text).map fun (value, rest) => (.mode value, rest)
    else if key = "app_paths" then (strings.read text).map fun (paths, rest) => (.appPaths paths, rest)
    else if key = "ip_ranges" then (strings.read text).map fun (ranges, rest) => (.ipRanges ranges, rest)
    else none
  begins depth field := by
    cases field with
    | mode value => exact mode.begins depth value
    | appPaths paths => exact strings.begins depth paths
    | ipRanges ranges => exact strings.begins depth ranges
  read_write depth field rest hrest := by
    cases field with
    | mode value => simp [mode.read_write depth value rest hrest]
    | appPaths paths => simp [strings.read_write depth paths rest hrest]
    | ipRanges ranges => simp [strings.read_write depth ranges rest hrest]

/-- Source: `model.rs` `SplitConfig`, derived -/
def config : Codec json SplitConfig :=
  record configFields (fun config => [.mode config.mode, .appPaths config.appPaths, .ipRanges config.ipRanges])
    (fun fields => do
      let mode ← only (fun | .mode mode => some mode | _ => none) fields
      let appPaths ← only (fun | .appPaths paths => some paths | _ => none) fields
      let ipRanges ← only (fun | .ipRanges ranges => some ranges | _ => none) fields
      return { mode, appPaths, ipRanges })
    (fun _ => rfl)

/-! ### Routes -/

/-- Source: `routing.rs` `AddressFamily`, derived -/
def family : Codec json AddressFamily :=
  string.map PhysicalRoute.familyText
    (fun text => if text = "ipv4" then some .ipv4 else if text = "ipv6" then some .ipv6 else none)
    (fun family => by cases family <;> decide)

def gateway : Codec json (Option IpAddr) :=
  nullable IpAddr.display IpAddr.fromStr IpAddr.fromStr_display

inductive RouteField where
  | family (family : AddressFamily)
  | gateway (gateway : Option IpAddr)
  | interface (interface : String)

def routeFields : Codec.Fields json String RouteField where
  key
    | .family _ => "family"
    | .gateway _ => "gateway"
    | .interface _ => "interface"
  write depth
    | .family value => family.write depth value
    | .gateway value => gateway.write depth value
    | .interface name => string.write depth name
  read key text :=
    if key = "family" then (family.read text).map fun (value, rest) => (.family value, rest)
    else if key = "gateway" then (gateway.read text).map fun (value, rest) => (.gateway value, rest)
    else if key = "interface" then (string.read text).map fun (name, rest) => (.interface name, rest)
    else none
  begins depth field := by
    cases field with
    | family value => exact family.begins depth value
    | gateway value => exact gateway.begins depth value
    | interface name => exact string.begins depth name
  read_write depth field rest hrest := by
    cases field with
    | family value => simp [family.read_write depth value rest hrest]
    | gateway value => simp [gateway.read_write depth value rest hrest]
    | interface name => simp [string.read_write depth name rest hrest]

/-- Source: `routing.rs` `PhysicalRoute`, derived: an optional field may be left out. -/
def route : Codec json PhysicalRoute :=
  record routeFields (fun route => [.family route.family, .gateway route.gateway, .interface route.interface])
    (fun fields => do
      let family ← only (fun | .family family => some family | _ => none) fields
      let gateway ← defaulted none (fun | .gateway gateway => some gateway | _ => none) fields
      let interface ← only (fun | .interface name => some name | _ => none) fields
      return { family, gateway, interface })
    (fun _ => rfl)

/-! ## Maps -/

/-- The text of a user as the key of a map -/
def uidText (uid : UInt16) : String := .ofList (Nat.toDigits 10 uid.toNat)

def readUid (text : String) : Option UInt16 :=
  (readDigits text.toList).bind fun n => if n < 2 ^ 16 then some (.ofNat n) else none

theorem readUid_uidText (uid : UInt16) : readUid (uidText uid) = some uid := by
  unfold readUid uidText
  rw [String.toList_ofList, readDigits_toDigits, Option.bind_some, if_pos uid.toNat_lt,
    UInt16.ofNat_toNat]

def userFields {V : Type} (values : Codec json V) : Codec.Fields json String (UInt16 × V) where
  key entry := uidText entry.1
  write depth entry := values.write depth entry.2
  read key text := (readUid key).bind fun uid =>
    (values.read text).map fun (value, rest) => ((uid, value), rest)
  begins depth entry := values.begins depth entry.2
  read_write depth entry rest hrest := by
    rw [readUid_uidText, Option.bind_some, values.read_write depth entry.2 rest hrest]
    rfl

/-- A map of users, in the order of the keys; the last of equal keys counts. -/
def users {V : Type} (values : Codec json V) : Codec json (ExtTreeMap UInt16 V) :=
  record (userFields values) ExtTreeMap.toList (fun entries => some (.ofList entries))
    (fun map => congrArg some (ofList_toList map))

/-! ## States -/

inductive StateField where
  | schemaVersion (version : UInt32)
  | configs (configs : ConfigMap)
  | destinationPolicies (policies : PolicyMap)
  | killSwitchBypass (bypass : BypassMap)

def version : Codec json UInt32 :=
  (number (2 ^ 32)).map UInt32.toFin (fun n => some (.ofFin n)) (fun _ => rfl)

def stateFields : Codec.Fields json String StateField where
  key
    | .schemaVersion _ => "schema_version"
    | .configs _ => "configs"
    | .destinationPolicies _ => "destination_policies"
    | .killSwitchBypass _ => "kill_switch_bypass"
  write depth
    | .schemaVersion value => version.write depth value
    | .configs configs => (users config).write depth configs
    | .destinationPolicies policies => (users strings).write depth policies
    | .killSwitchBypass bypass => (users (Codec.sequence arrayBrackets route)).write depth bypass
  read key text :=
    if key = "schema_version" then (version.read text).map fun (value, rest) => (.schemaVersion value, rest)
    else if key = "configs" then ((users config).read text).map fun (configs, rest) => (.configs configs, rest)
    else if key = "destination_policies" then
      ((users strings).read text).map fun (policies, rest) => (.destinationPolicies policies, rest)
    else if key = "kill_switch_bypass" then
      ((users (Codec.sequence arrayBrackets route)).read text).map fun (bypass, rest) =>
        (.killSwitchBypass bypass, rest)
    else none
  begins depth field := by
    cases field with
    | schemaVersion value => exact version.begins depth value
    | configs configs => exact (users config).begins depth configs
    | destinationPolicies policies => exact (users strings).begins depth policies
    | killSwitchBypass bypass => exact (users (Codec.sequence arrayBrackets route)).begins depth bypass
  read_write depth field rest hrest := by
    cases field with
    | schemaVersion value => simp [version.read_write depth value rest hrest]
    | configs configs => simp [(users config).read_write depth configs rest hrest]
    | destinationPolicies policies => simp [(users strings).read_write depth policies rest hrest]
    | killSwitchBypass bypass =>
        simp [(users (Codec.sequence arrayBrackets route)).read_write depth bypass rest hrest]

/-- Source: `store.rs` `StoredState`, derived -/
def stateCodec : Codec json StoredState :=
  record stateFields
    (fun state => [.schemaVersion state.schemaVersion, .configs state.configs,
      .destinationPolicies state.destinationPolicies, .killSwitchBypass state.killSwitchBypass])
    (fun fields => do
      let schemaVersion ← only (fun | .schemaVersion version => some version | _ => none) fields
      let configs ← only (fun | .configs configs => some configs | _ => none) fields
      let destinationPolicies ←
        defaulted ∅ (fun | .destinationPolicies policies => some policies | _ => none) fields
      let killSwitchBypass ←
        defaulted ∅ (fun | .killSwitchBypass bypass => some bypass | _ => none) fields
      return { schemaVersion, configs, destinationPolicies, killSwitchBypass })
    (fun _ => rfl)

/-- `serde_json::to_vec_pretty` and `serde_json::from_slice` -/
def stateJson : StateJson where
  toVecPretty state := .ofList (stateCodec.write 0 state)
  fromSlice text :=
    match stateCodec.read (json.skip text.toList) with
    | some (state, rest) => if json.skip rest = [] then .ok state else .error "trailing characters"
    | none => .error "no state"

/-- **A state is recovered from its text**, also with a newline behind it. -/
theorem stateJson_lawful : stateJson.Lawful := by
  intro state
  have hends : json.Ends ['\n'] := Punctuation.ends_cons (by decide) []
  have hread : stateCodec.read (json.skip ([] ++ (stateCodec.write 0 state ++ ['\n']))) =
      some (state, ['\n']) := stateCodec.read_skip (by simp) 0 state hends
  unfold stateJson
  dsimp only
  rw [String.toList_append, String.toList_ofList]
  rw [List.nil_append] at hread
  change (match stateCodec.read (json.skip (stateCodec.write 0 state ++ ['\n'])) with
    | some (state, rest) => if json.skip rest = [] then Except.ok state else .error "trailing characters"
    | none => .error "no state") = _
  rw [hread]
  rfl

end ProtonVpnOmarchy.Splitd.StateText
