import ProtonVpnOmarchy.Splitd.Routing.Basic

/-!
# The split-tunnel engine

`engine.rs`: the state behind the engine's lock, the rescan (`reconcile`), the handler of process
events, and the three requests that change configurations. The lock serialises them, so a run of
the engine is a sequence of `Request`s.

What the engine asks the rest of the system is a parameter of each step: the outcome of attaching
the eBPF programs, of the process scan, of saving the state and of the routing commands, which map
operations the kernel refuses, and the order in which a hash map is iterated.
-/

namespace ProtonVpnOmarchy.Splitd

open Std (ExtTreeMap)
open Lib Lib.Fallible Bpf

/-! ## State -/

/-- Source: `procfs.rs` `ProcessInfo` -/
structure ProcessInfo where
  uid : UInt16
  pid : UInt32
  ppid : UInt32
  identities : List String
  deriving DecidableEq

/-- Source: `engine.rs` `TrackedProcess` -/
structure TrackedProcess where
  uid : UInt16
  matched : Bool
  excluded : Bool
  deriving DecidableEq

/-- Source: `proc_events.rs` `ProcessEvent` -/
inductive ProcessEvent where
  | fork (parent child : UInt32)
  | exec (pid : UInt32)
  | exit (pid : UInt32)
  deriving DecidableEq, Repr

abbrev TrackedTable := ExtTreeMap UInt32 TrackedProcess

abbrev PidMap := ExtTreeMap UInt32 UInt32

/-- The table has an entry of `pid`, and it is excluded. -/
def isExcluded (tracked : TrackedTable) (pid : UInt32) : Bool := tracked[pid]?.any (·.excluded)

/-- Source: `engine.rs` `Inner` -/
structure Inner where
  configs : ConfigMap := {}
  destinationPolicies : PolicyMap := {}
  marker : Option SocketMarker := none
  tracked : TrackedTable := {}
  killSwitchBypass : ExtTreeMap UInt16 (List PhysicalRoute) := {}

/-! ## The pid map -/

/-- Whether a pid is put into the pid map or taken out. -/
structure PidOp where
  pid : UInt32
  excluded : Bool
  deriving DecidableEq

def PidOp.apply (op : PidOp) (map : PidMap) : PidMap :=
  if op.excluded then map.insert op.pid 1 else map.erase op.pid

/-- Which operation on the pid map the kernel refuses. -/
abbrev PidFaults := Faults PidOp IoError

/-- Source: `bpf.rs` `SocketMarker::set_excluded` -/
def setExcluded (faults : PidFaults) (pid : UInt32) (excluded : Bool) :
    Fallible IoError (Pass PidMap) Unit :=
  (Step.attempt ⟨pid, excluded⟩).perform PidOp.apply faults

/-- A computation on the pid map of a marker. -/
def onPidMap (m : Fallible IoError (Pass PidMap) Unit) (marker : SocketMarker) :
    Except IoError Unit × SocketMarker :=
  match m.exec ⟨0, marker.pidMap⟩ with
  | (result, p) => (result, { marker with pidMap := p.state })

/-! ## The rescan -/

/-- Source: `engine.rs` `needs_process_tracking` -/
def needsProcessTracking (config : SplitConfig) : Bool :=
  config.hasAppRules || (decide (config.mode = .include) && config.hasRules)

section tracking

variable (configs : ConfigMap) (processes : List ProcessInfo)

/-- Which processes match by themselves; processes of users without a configuration are left out. -/
def directMatches : ExtTreeMap UInt32 Bool :=
  .ofList (processes.filterMap fun process =>
    configs[process.uid]?.map fun config => (process.pid, config.isMatch process.identities))

/-- A process with a matched parent becomes matched. The flag tells whether there was one. -/
def inheritStep (state : ExtTreeMap UInt32 Bool × Bool) (process : ProcessInfo) :
    ExtTreeMap UInt32 Bool × Bool :=
  if state.1[process.pid]? = some false ∧ state.1[process.ppid]? = some true then
    (state.1.insert process.pid true, true)
  else state

/-- One pass over the processes. -/
def inheritRound (found : ExtTreeMap UInt32 Bool) : ExtTreeMap UInt32 Bool × Bool :=
  processes.foldl inheritStep (found, false)

/-- At most `n` passes, until one changes nothing. -/
def inheritMatches : ℕ → ExtTreeMap UInt32 Bool → ExtTreeMap UInt32 Bool
  | 0, found => found
  | n + 1, found =>
    match inheritRound processes found with
    | (found, true) => inheritMatches n found
    | (found, false) => found

/-- The table entry of a process with flag `matched`. -/
def trackedEntry (config : SplitConfig) (uid : UInt16) (matched : Bool) : TrackedProcess :=
  { uid := uid, matched := matched, excluded := config.excludes matched }

/-- Source: `engine.rs` `build_tracking` -/
def buildTracking : TrackedTable :=
  let found := inheritMatches processes processes.length (directMatches configs processes)
  .ofList (processes.filterMap fun process =>
    configs[process.uid]?.map fun config =>
      (process.pid, trackedEntry config process.uid (found[process.pid]?.getD false)))

end tracking

/-- The order in which a hash map is iterated. -/
structure IterationOrder where
  run : List (UInt32 × TrackedProcess) → List (UInt32 × TrackedProcess)
  perm : ∀ entries, (run entries).Perm entries

/-- The rest of the system during a rescan. -/
structure ReconcileEnv where
  /-- The outcome of `SocketMarker::attach`. -/
  attach : Except IoError Unit
  /-- Which operations of `sync_configs` are refused. -/
  sync : SyncFaults
  /-- The outcome of `procfs::scan`. -/
  scan : Except IoError (List ProcessInfo)
  /-- Which operations on the pid map are refused. -/
  pids : PidFaults
  /-- The orders of the loops over the old and the new table. -/
  oldOrder : IterationOrder
  newOrder : IterationOrder

/-- Some rule or destination policy is in force. -/
def Inner.needsMarker (inner : Inner) : Bool :=
  inner.configs.toList.any (fun (_, config) => config.hasRules) ||
    inner.destinationPolicies.toList.any fun (_, ranges) => !ranges.isEmpty

/-- Some user's rules need the processes to be tracked. -/
def Inner.needsTracking (inner : Inner) : Bool :=
  inner.configs.toList.any fun (_, config) => needsProcessTracking config

/-- The pid map's loops when tracking ends. -/
def untrackAll (env : ReconcileEnv) (tracked : TrackedTable) :
    Fallible IoError (Pass PidMap) Unit :=
  forM (env.oldOrder.run tracked.toList) fun (pid, process) =>
    if process.excluded then setExcluded env.pids pid false else pure ()

/-- The pid map's loops of a rescan that found the table `next`. -/
def retrack (env : ReconcileEnv) (tracked next : TrackedTable) :
    Fallible IoError (Pass PidMap) Unit := do
  forM (env.oldOrder.run tracked.toList) fun (pid, process) =>
    if process.excluded && !isExcluded next pid then setExcluded env.pids pid false else pure ()
  forM (env.newOrder.run next.toList) fun (pid, process) =>
    if process.excluded then setExcluded env.pids pid true else pure ()

/-- The tracking part of a rescan, with the marker attached and synchronised. -/
def reconcileTracking (env : ReconcileEnv) (inner : Inner) (marker : SocketMarker) :
    Except IoError Unit × Inner :=
  if inner.needsTracking then
    match env.scan with
    | .error error => (.error error, { inner with marker := some marker })
    | .ok processes =>
      let next := buildTracking inner.configs processes
      match onPidMap (retrack env inner.tracked next) marker with
      | (.ok (), marker) => (.ok (), { inner with marker := some marker, tracked := next })
      | (.error error, marker) => (.error error, { inner with marker := some marker })
  else
    match onPidMap (untrackAll env inner.tracked) marker with
    | (.ok (), marker) => (.ok (), { inner with marker := some marker, tracked := {} })
    | (.error error, marker) => (.error error, { inner with marker := some marker })

/-- The attached marker, or a new one. -/
def ensureMarker (env : ReconcileEnv) (inner : Inner) : Except IoError SocketMarker :=
  match inner.marker with
  | some marker => .ok marker
  | none =>
    match env.attach with
    | .ok () => .ok {}
    | .error error => .error error

/-- Source: `engine.rs` `reconcile` -/
def reconcile (text : IpNetText) (env : ReconcileEnv) : Fallible IoError Inner Unit :=
  ofFun fun inner =>
    if inner.needsMarker then
      match ensureMarker env inner with
      | .error error => (.error error, inner)
      | .ok marker =>
        match (syncConfigs text env.sync inner.configs inner.destinationPolicies).exec marker with
        | (.error error, marker) => (.error error, { inner with marker := some marker })
        | (.ok (), marker) => reconcileTracking env inner marker
    else (.ok (), { inner with tracked := {}, marker := none })

/-! ## Process events -/

/-- The rest of the system during an event. -/
structure EventEnv where
  /-- `procfs::read_process`, `none` on an error. -/
  read : UInt32 → Option ProcessInfo
  pids : PidFaults

/-- Take a process out of the table, and out of the pid map if it was excluded. -/
def untrack (env : EventEnv) (inner : Inner) (marker : SocketMarker) (pid : UInt32) :
    Except IoError Unit × Inner :=
  let tracked := inner.tracked.erase pid
  if isExcluded inner.tracked pid then
    match onPidMap (setExcluded env.pids pid false) marker with
    | (result, marker) => (result, { inner with marker := some marker, tracked := tracked })
  else (.ok (), { inner with tracked := tracked })

/-- Put a process into the table if the pid map can be brought in line with it. -/
def track (env : EventEnv) (inner : Inner) (marker : SocketMarker) (pid : UInt32)
    (process : TrackedProcess) : Except IoError Unit × Inner :=
  match onPidMap (setExcluded env.pids pid process.excluded) marker with
  | (.ok (), marker) =>
    (.ok (), { inner with marker := some marker, tracked := inner.tracked.insert pid process })
  | (.error error, marker) => (.error error, { inner with marker := some marker })

/-- The entry of a new process: a tracked parent's flag is inherited, any other process is read. -/
def forkedProcess (env : EventEnv) (inner : Inner) (parent child : UInt32) :
    Option TrackedProcess :=
  match inner.tracked[parent]? with
  | some parent => do
    let config ← inner.configs[parent.uid]?
    return trackedEntry config parent.uid parent.matched
  | none => do
    let info ← env.read child
    let config ← inner.configs[info.uid]?
    return trackedEntry config info.uid (config.isMatch info.identities)

/-- Source: `engine.rs` `handle_event` -/
def handleEvent (env : EventEnv) (event : ProcessEvent) : Fallible IoError Inner Unit :=
  ofFun fun inner =>
    match inner.marker with
    | none => (.ok (), inner)
    | some marker =>
      match event with
      | .exit pid => untrack env inner marker pid
      | .fork parent child =>
        match forkedProcess env inner parent child with
        | some process => track env inner marker child process
        | none => (.ok (), inner)
      | .exec pid =>
        match env.read pid with
        | none => (.ok (), inner)
        | some info =>
          match inner.configs[info.uid]? with
          | none => untrack env inner marker pid
          | some config =>
            let matched := inner.tracked[pid]?.any (·.matched) || config.isMatch info.identities
            track env inner marker pid (trackedEntry config info.uid matched)

/-! ## Requests -/

/-- The rest of the system during a request that changes a configuration. -/
structure RequestEnv where
  routingEnabled : Bool
  /-- The outcome of `routing::disable`. -/
  disable : Except IoError Unit
  /-- The outcome of `routing::enable`: the routes installed. -/
  enable : Except IoError (List PhysicalRoute)
  /-- The rescan with the new configuration. -/
  reconcile : ReconcileEnv
  /-- The outcome of `StateStore::save`. -/
  save : Except IoError Unit
  /-- The rescan after the configuration was restored. -/
  rollback : ReconcileEnv

/-- `reconcile(..).and_then(|()| store.save(..))` -/
def reconcileAndSave (text : IpNetText) (env : RequestEnv) : Fallible IoError Inner Unit := do
  reconcile text env.reconcile
  ofFun fun inner => (env.save, inner)

/-- Remove a user's routes, if there are any. -/
def removeBypass (env : RequestEnv) (uid : UInt16) (bypass : Option (List PhysicalRoute))
    (inner : Inner) : Except IoError Inner :=
  match bypass with
  | none => .ok inner
  | some _ =>
    match env.disable with
    | .ok () => .ok { inner with killSwitchBypass := inner.killSwitchBypass.erase uid }
    | .error error => .error error

/-- Reinstall routes that were removed; a failure is ignored. -/
def restoreBypass (env : RequestEnv) (uid : UInt16) (bypass : Option (List PhysicalRoute))
    (inner : Inner) : Inner :=
  match bypass, env.enable with
  | some _, .ok installed =>
    { inner with killSwitchBypass := inner.killSwitchBypass.insert uid installed }
  | _, _ => inner

/-- The user is new and there are already `MAX_CONFIGS` users. -/
def Inner.full (inner : Inner) (uid : UInt16) : Bool :=
  !inner.configs.contains uid && !inner.destinationPolicies.contains uid &&
    decide (MAX_CONFIGS ≤ configuredUserCount inner.configs inner.destinationPolicies)

/-- `BTreeMap` entry restored to a previous value. -/
def restoreEntry {V : Type} (map : ExtTreeMap UInt16 V) (uid : UInt16) :
    Option V → ExtTreeMap UInt16 V
  | some value => map.insert uid value
  | none => map.erase uid

/-- Source: `engine.rs` `Engine::set_config` -/
def setConfig (text : IpNetText) (env : RequestEnv) (uid : UInt16) (config : SplitConfig) :
    Fallible IoError Inner Unit := ofFun fun inner =>
  if inner.full uid then
    (.error { kind := .invalidInput
              message := "at most 64 users may configure split tunneling" }, inner)
  else
    let bypass :=
      if env.routingEnabled && !config.hasRules then inner.killSwitchBypass[uid]? else none
    match removeBypass env uid bypass inner with
    | .error error => (.error error, inner)
    | .ok inner =>
      let previous := inner.configs[uid]?
      match (reconcileAndSave text env).exec
          { inner with configs := inner.configs.insert uid config } with
      | (.ok (), inner) => (.ok (), inner)
      | (.error error, inner) =>
        let inner := { inner with configs := restoreEntry inner.configs uid previous }
        let inner := ((reconcile text env.rollback).exec inner).2
        (.error error, restoreBypass env uid bypass inner)

/-- Source: `engine.rs` `Engine::clear_config` -/
def clearConfig (text : IpNetText) (env : RequestEnv) (uid : UInt16) :
    Fallible IoError Inner Unit := ofFun fun inner =>
  let bypass := inner.killSwitchBypass[uid]?
  match removeBypass env uid (if env.routingEnabled then bypass else none) inner with
  | .error error => (.error error, inner)
  | .ok inner =>
    let previous := inner.configs[uid]?
    match (reconcileAndSave text env).exec { inner with configs := inner.configs.erase uid } with
    | (.ok (), inner) => (.ok (), inner)
    | (.error error, inner) =>
      let inner :=
        match previous with
        | some config =>
          ((reconcile text env.rollback).exec
            { inner with configs := inner.configs.insert uid config }).2
        | none => inner
      (.error error, restoreBypass env uid bypass inner)

/-- Source: `engine.rs` `Engine::set_destination_policy` -/
def setDestinationPolicy (text : IpNetText) (env : RequestEnv) (uid : UInt16)
    (ranges : List String) : Fallible IoError Inner Unit := ofFun fun inner =>
  if inner.full uid then
    (.error { kind := .invalidInput
              message := "at most 64 users may configure destination policies" }, inner)
  else
    let previous := inner.destinationPolicies[uid]?
    let policies :=
      if ranges.isEmpty then inner.destinationPolicies.erase uid
      else inner.destinationPolicies.insert uid ranges
    match (reconcileAndSave text env).exec { inner with destinationPolicies := policies } with
    | (.ok (), inner) => (.ok (), inner)
    | (.error error, inner) =>
      let inner :=
        { inner with destinationPolicies := restoreEntry inner.destinationPolicies uid previous }
      (.error error, ((reconcile text env.rollback).exec inner).2)

/-- One thing the engine does under its lock. -/
inductive Request where
  | setConfig (uid : UInt16) (config : SplitConfig) (env : RequestEnv)
  | clearConfig (uid : UInt16) (env : RequestEnv)
  | setDestinationPolicy (uid : UInt16) (ranges : List String) (env : RequestEnv)
  | reconcile (env : ReconcileEnv)
  | event (processEvent : ProcessEvent) (env : EventEnv)

def Request.perform (text : IpNetText) : Request → Fallible IoError Inner Unit
  | .setConfig uid config env => Splitd.setConfig text env uid config
  | .clearConfig uid env => Splitd.clearConfig text env uid
  | .setDestinationPolicy uid ranges env => Splitd.setDestinationPolicy text env uid ranges
  | .reconcile env => Splitd.reconcile text env
  | .event processEvent env => handleEvent env processEvent

/-- The states the engine can be in: after the rescan of `Engine::new` over loaded configurations,
and after any sequence of requests that meet `P`. -/
inductive Inner.Reachable (text : IpNetText) (start : Inner → ReconcileEnv → Prop)
    (P : Inner → Request → Prop) : Inner → Prop
  | new {configs : ConfigMap} {policies : PolicyMap} {env : ReconcileEnv} {inner : Inner}
      (hstart : start { configs := configs, destinationPolicies := policies } env)
      (hok : (Splitd.reconcile text env).exec
        { configs := configs, destinationPolicies := policies } = (.ok (), inner)) :
      Reachable text start P inner
  | step {inner : Inner} {request : Request} (hreach : Reachable text start P inner)
      (hrequest : P inner request) : Reachable text start P ((request.perform text).exec inner).2

end ProtonVpnOmarchy.Splitd
