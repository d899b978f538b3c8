import ProtonVpnOmarchy.Splitd.Engine.Requests
import ProtonVpnOmarchy.Splitd.Validation

/-!
# The state file of the daemon

`store.rs`: what the engine saves, and what a new engine loads. The text of a state belongs to
`serde_json`: it is a parameter, `StateJson`, and what the daemon relies on is `StateJson.Lawful`.

* `load_of_loadable` — a text that was saved is loaded as it was, unless the final newline makes it too
  long.
* `save_spec` — what is in the file after a save, wherever it stops.
-/

namespace ProtonVpnOmarchy.Splitd

open Std (ExtTreeMap)
open Lib Lib.Fallible Bpf

namespace StateStore

def SCHEMA_VERSION : UInt32 := 2

def MAX_STATE_BYTES : ℕ := 2 * 1024 * 1024

def DEFAULT_STATE_PATH : String := "/var/lib/proton-vpn-omarchy/split-tunneling-v1.json"

/-- The directory of the state file -/
def STATE_DIRECTORY : String := "/var/lib/proton-vpn-omarchy"

abbrev BypassMap := ExtTreeMap UInt16 (List PhysicalRoute)

/-- Source: `store.rs` `StoredState` -/
structure StoredState where
  schemaVersion : UInt32
  configs : ConfigMap
  destinationPolicies : PolicyMap
  killSwitchBypass : BypassMap

/-- Source: `store.rs` `LoadedState` -/
structure LoadedState where
  configs : ConfigMap := {}
  destinationPolicies : PolicyMap := {}
  killSwitchBypass : BypassMap := {}

/-- The text of a state, and the state of a text. -/
structure StateJson where
  toVecPretty : StoredState → String
  fromSlice : String → Except String StoredState

/-- A text is read as what was written, also with a newline at its end. -/
def StateJson.Lawful (json : StateJson) : Prop :=
  ∀ state, json.fromSlice (json.toVecPretty state ++ "\n") = .ok state

/-! ## Errors -/

/-- Source: `store.rs` `invalid_state` -/
def invalidState (detail : String) : IoError where
  kind := .invalidData
  message := "invalid split-tunneling state " ++ DEFAULT_STATE_PATH ++ ": " ++ detail

/-- Source: `store.rs` `with_path` -/
def withPath (action path : String) (error : IoError) : IoError where
  kind := error.kind
  message := "unable to " ++ action ++ " " ++ path ++ ": " ++ error.message

/-- An operation on a file -/
def fileStep (action path : String) (outcome : Except IoError Unit) : Except IoError Unit :=
  outcome.mapError (withPath action path)

/-- The error of an entry of a user -/
def invalidEntry (uid : UInt16) (detail : String) : IoError :=
  invalidState ("UID " ++ toString uid.toNat ++ detail)

/-! ## Load -/

/-- How the operations on the file end. -/
structure LoadEnv where
  openFile : Except IoError Unit := .ok ()
  inspect : Except IoError Unit := .ok ()
  read : Except IoError Unit := .ok ()

/-- Every value of a map, in the order of the keys -/
def mapEntries {V : Type} (f : UInt16 → V → Except IoError V) (map : ExtTreeMap UInt16 V) :
    Except IoError (ExtTreeMap UInt16 V) := do
  let entries ← map.toList.mapM fun entry => do return (entry.1, ← f entry.1 entry.2)
  return .ofList entries

/-- The routes of a user. Source: `store.rs` `StateStore::load` -/
def loadRoutes (configs : ConfigMap) (uid : UInt16) (routes : List PhysicalRoute) :
    Except IoError (List PhysicalRoute) :=
  if routes = [] ∨ 2 < routes.length then
    .error (invalidEntry uid " has an invalid bypass-route count")
  else if ¬ configs[uid]?.any SplitConfig.hasRules then
    .error (invalidEntry uid " has bypass routes without a split policy")
  else do
    let routes ← routes.mapM fun route => route.validated.mapError fun error =>
      invalidEntry uid (": " ++ error)
    if (routes.map PhysicalRoute.family).dedup.length ≠ routes.length then
      .error (invalidEntry uid " has duplicate bypass-route families")
    else return routes

/-- A state that was read. Source: `store.rs` `StateStore::load` -/
def accept (text : IpNetText) (stored : StoredState) : Except IoError LoadedState :=
  if stored.schemaVersion ≠ 1 ∧ stored.schemaVersion ≠ SCHEMA_VERSION then
    .error (invalidState ("unsupported schema version " ++ toString stored.schemaVersion.toNat))
  else if MAX_CONFIGS < max stored.configs.size stored.destinationPolicies.size then
    .error (invalidState "too many configured users")
  else do
    let configs ← mapEntries (fun uid config => (config.validate text).mapError fun error =>
      invalidEntry uid (": " ++ error)) stored.configs
    let destinationPolicies ← mapEntries (fun uid ranges => (validateIpRanges text ranges).mapError
      fun error => invalidEntry uid (" policy: " ++ error)) stored.destinationPolicies
    let killSwitchBypass ← mapEntries (loadRoutes configs) stored.killSwitchBypass
    return { configs, destinationPolicies, killSwitchBypass }

/-- Source: `store.rs` `StateStore::load` -/
def load (json : StateJson) (text : IpNetText) (env : LoadEnv) (file : Option String) :
    Except IoError LoadedState := do
  fileStep "open state" DEFAULT_STATE_PATH env.openFile
  match file with
  | none => return {}
  | some contents =>
    fileStep "inspect state" DEFAULT_STATE_PATH env.inspect
    if MAX_STATE_BYTES < contents.utf8ByteSize then
      .error (invalidState "state file exceeds the 2 MiB limit")
    else
      fileStep "read state" DEFAULT_STATE_PATH env.read
      let stored ← (json.fromSlice contents).mapError fun error =>
        invalidState ("invalid JSON: " ++ error)
      accept text stored

/-! ## Save -/

/-- How the operations on the files end, and the process that does them. -/
structure SaveEnv where
  processId : ℕ
  createDirectory : Except IoError Unit := .ok ()
  secureDirectory : Except IoError Unit := .ok ()
  create : Except IoError Unit := .ok ()
  write : Except IoError Unit := .ok ()
  finish : Except IoError Unit := .ok ()
  sync : Except IoError Unit := .ok ()
  rename : Except IoError Unit := .ok ()
  syncDirectory : Except IoError Unit := .ok ()

/-- Source: `store.rs` `temporary_path` -/
def temporaryPath (processId : ℕ) : String :=
  STATE_DIRECTORY ++ "/.split-tunneling-v1.json." ++ toString processId ++ ".tmp"

/-- The temporary file is written. -/
def writeTemporary (env : SaveEnv) : Except IoError Unit := do
  let temporary := temporaryPath env.processId
  fileStep "create temporary state" temporary env.create
  fileStep "write temporary state" temporary env.write
  fileStep "finish temporary state" temporary env.finish
  fileStep "sync temporary state" temporary env.sync
  fileStep "replace state" DEFAULT_STATE_PATH env.rename

/-- Source: `store.rs` `StateStore::save`; the state is the file. -/
def save (json : StateJson) (env : SaveEnv) (stored : StoredState) : Fallible IoError (Option String) Unit :=
  ofFun fun file =>
    match (do
      fileStep "create state directory" STATE_DIRECTORY env.createDirectory
      fileStep "secure state directory" STATE_DIRECTORY env.secureDirectory
      if MAX_STATE_BYTES < (json.toVecPretty stored).utf8ByteSize then
        .error { kind := .invalidInput
                 message := "serialized split-tunneling state exceeds the 2 MiB limit" }
      else writeTemporary env : Except IoError Unit) with
    | .error error => (.error error, file)
    | .ok () =>
      (fileStep "sync state directory" STATE_DIRECTORY env.syncDirectory,
        some (json.toVecPretty stored ++ "\n"))

/-- The file is left alone, or has the state, which is not too long then. -/
theorem save_spec (json : StateJson) (env : SaveEnv) (stored : StoredState) (file : Option String) :
    ((save json env stored).exec file).2 = file ∧ ((save json env stored).exec file).1 ≠ .ok () ∨
      ((save json env stored).exec file).2 = some (json.toVecPretty stored ++ "\n") ∧
        (json.toVecPretty stored).utf8ByteSize ≤ MAX_STATE_BYTES := by
  unfold save
  rw [exec_ofFun]
  split
  · exact .inl ⟨rfl, by simp⟩
  · next hwritten =>
      refine .inr ⟨rfl, ?_⟩
      obtain ⟨-, -, hwritten⟩ := Except.bind_eq_ok.mp hwritten
      obtain ⟨-, -, hwritten⟩ := Except.bind_eq_ok.mp hwritten
      split_ifs at hwritten with hlong
      exact not_lt.mp hlong

/-! ## What is loaded -/

/-- Routes that were installed for a user. -/
structure Installed (routes : List PhysicalRoute) : Prop where
  ne_nil : routes ≠ []
  length_le : routes.length ≤ 2
  validated : ∀ route ∈ routes, route.validated = .ok route
  families : (routes.map PhysicalRoute.family).Nodup

/-- A state that a new engine loads as it is. -/
structure Loadable (text : IpNetText) (configs : ConfigMap) (policies : PolicyMap)
    (bypass : BypassMap) : Prop where
  users : configuredUserCount configs policies ≤ MAX_CONFIGS
  config : ∀ (uid : UInt16) (config : SplitConfig), configs[uid]? = some config →
    config.validate text = .ok config
  policy : ∀ (uid : UInt16) (ranges : List String), policies[uid]? = some ranges →
    validateIpRanges text ranges = .ok ranges
  routes : ∀ (uid : UInt16) (routes : List PhysicalRoute), bypass[uid]? = some routes →
    Installed routes ∧ configs[uid]?.any SplitConfig.hasRules = true

theorem ofList_toList {V : Type} (map : ExtTreeMap UInt16 V) : ExtTreeMap.ofList map.toList = map := by
  refine ExtTreeMap.ext_getElem? fun uid => ?_
  rcases hget : map[uid]? with _ | value
  · refine ExtTreeMap.getElem?_ofList_of_contains_eq_false ?_
    rw [List.contains_eq_mem, decide_eq_false_iff_not]
    intro hmem
    obtain ⟨entry, hentry, rfl⟩ := List.mem_map.mp hmem
    rw [ExtTreeMap.mem_toList_iff_getElem?_eq_some.mp hentry] at hget
    cases hget
  · exact ExtTreeMap.getElem?_ofList_of_mem (k := uid) (by simp) ExtTreeMap.distinct_keys_toList
      (ExtTreeMap.mem_toList_iff_getElem?_eq_some.mpr hget)

/-- Entries that stay as they are -/
theorem mapEntries_of_forall {V : Type} {f : UInt16 → V → Except IoError V}
    {map : ExtTreeMap UInt16 V} (h : ∀ (uid : UInt16) (value : V), map[uid]? = some value →
      f uid value = .ok value) : mapEntries f map = .ok map := by
  have hentries : map.toList.mapM (fun entry => do return (entry.1, ← f entry.1 entry.2)) =
      .ok map.toList := by
    have hall : ∀ entry ∈ map.toList, f entry.1 entry.2 = .ok entry.2 := fun entry hentry =>
      h _ _ (ExtTreeMap.mem_toList_iff_getElem?_eq_some.mp hentry)
    revert hall
    generalize map.toList = entries
    intro hall
    induction entries with
    | nil => rfl
    | cons entry entries ih =>
        rw [List.mapM_cons, hall entry List.mem_cons_self,
          ih fun entry hentry => hall entry (List.mem_cons_of_mem _ hentry)]
        rfl
  unfold mapEntries
  rw [hentries]
  exact congrArg Except.ok (ofList_toList map)

theorem mapM_of_forall {α ε : Type} {f : α → Except ε α} {values : List α}
    (h : ∀ value ∈ values, f value = .ok value) : values.mapM f = .ok values := by
  induction values with
  | nil => rfl
  | cons value values ih =>
      rw [List.mapM_cons, h value List.mem_cons_self,
        ih fun value hvalue => h value (List.mem_cons_of_mem _ hvalue)]
      rfl

theorem loadRoutes_of_installed {configs : ConfigMap} {uid : UInt16} {routes : List PhysicalRoute}
    (h : Installed routes) (hrules : configs[uid]?.any SplitConfig.hasRules = true) :
    loadRoutes configs uid routes = .ok routes := by
  unfold loadRoutes
  have hcount : ¬ (routes = [] ∨ 2 < routes.length) :=
    not_or.mpr ⟨h.ne_nil, not_lt.mpr h.length_le⟩
  rw [if_neg hcount, if_neg (not_not.mpr hrules), mapM_of_forall fun route hroute => ?_]
  · show (if (routes.map PhysicalRoute.family).dedup.length ≠ routes.length then _ else _) = _
    rw [h.families.dedup, List.length_map, if_neg (not_not.mpr rfl)]
    rfl
  · rw [h.validated route hroute]
    rfl

theorem accept_of_loadable {text : IpNetText} {configs : ConfigMap} {policies : PolicyMap}
    {bypass : BypassMap} (h : Loadable text configs policies bypass) :
    accept text ⟨SCHEMA_VERSION, configs, policies, bypass⟩ = .ok ⟨configs, policies, bypass⟩ := by
  have hsize : ¬ MAX_CONFIGS < max configs.size policies.size := by
    rw [not_lt, max_le_iff]
    exact ⟨(size_configs_le configs policies).trans h.users, (size_policies_le configs policies).trans h.users⟩
  unfold accept
  rw [if_neg (fun hversion => hversion.2 rfl), if_neg hsize,
    mapEntries_of_forall fun uid config hconfig => by rw [h.config uid config hconfig]; rfl,
    mapEntries_of_forall fun uid ranges hranges => by rw [h.policy uid ranges hranges]; rfl]
  show (mapEntries (loadRoutes configs) bypass >>= _) = _
  rw [mapEntries_of_forall fun uid routes hroutes => ?_]
  · rfl
  · exact loadRoutes_of_installed (h.routes uid routes hroutes).1 (h.routes uid routes hroutes).2

/-- **A text that was saved is loaded as it was, unless the final newline makes it too long.** -/
theorem load_of_loadable {json : StateJson} (hjson : json.Lawful) {text : IpNetText}
    {configs : ConfigMap} {policies : PolicyMap} {bypass : BypassMap}
    (h : Loadable text configs policies bypass) :
    load json text {} (some (json.toVecPretty ⟨SCHEMA_VERSION, configs, policies, bypass⟩ ++ "\n")) =
      if MAX_STATE_BYTES < (json.toVecPretty ⟨SCHEMA_VERSION, configs, policies, bypass⟩).utf8ByteSize + 1
      then .error (invalidState "state file exceeds the 2 MiB limit")
      else .ok ⟨configs, policies, bypass⟩ := by
  have hsize : (json.toVecPretty ⟨SCHEMA_VERSION, configs, policies, bypass⟩ ++ "\n").utf8ByteSize =
      (json.toVecPretty ⟨SCHEMA_VERSION, configs, policies, bypass⟩).utf8ByteSize + 1 := by
    rw [String.utf8ByteSize_append]
    rfl
  unfold load
  show (if MAX_STATE_BYTES < _ then _ else _) = _
  rw [hsize, hjson]
  split_ifs
  · rfl
  · exact accept_of_loadable h

end StateStore

end ProtonVpnOmarchy.Splitd
