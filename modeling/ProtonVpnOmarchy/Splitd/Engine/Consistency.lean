import ProtonVpnOmarchy.Splitd.Engine.Inheritance
import ProtonVpnOmarchy.Splitd.Engine.Requests

/-!
# The table, the pid map and the configurations agree

`Inner.Aligned` says that the pid map is a copy of the table's exclusions, `Current` that each
entry's exclusion is what its user's configuration makes of its flag. While no map operation is
refused every request keeps the first; the second is kept too, unless the configuration was changed
back after a rescan with the new one and the rescan with the old one fails.

* `reconcile_aligned` — one rescan.
* `handleEvent_consistent` — one event.
* `engine_consistent` — every run.
* `stale_exclusion` — the run in which the second is lost.
-/

namespace ProtonVpnOmarchy.Splitd

open Std (ExtTreeMap)
open Lib Lib.Fallible Bpf

/-- Every exclusion is what the user's configuration makes of the flag. -/
def Current (configs : ConfigMap) (tracked : TrackedTable) : Prop :=
  ∀ (pid : UInt32) (process : TrackedProcess), tracked[pid]? = some process →
    ∃ config, configs[process.uid]? = some config ∧
      process.excluded = config.excludes process.matched

/-- The pid map is a copy of the table's exclusions, and the marker recorded networks. -/
structure Inner.Aligned (text : IpNetText) (inner : Inner) : Prop where
  untracked : inner.marker = none → inner.tracked = ∅
  pids : ∀ pid, pid ∈ inner.pidMap ↔ isExcluded inner.tracked pid = true
  recorded : ∀ marker, inner.marker = some marker →
    Parses text marker.configs marker.destinationPolicies

/-- What holds between requests. -/
structure Inner.Consistent (text : IpNetText) (inner : Inner) : Prop extends
    inner.Aligned text where
  current : Current inner.configs inner.tracked
  parses : Parses text inner.configs inner.destinationPolicies

/-- No map operation of a rescan is refused. -/
structure ReconcileEnv.MapsSucceed (env : ReconcileEnv) : Prop where
  pids : ∀ n op, env.pids n op = none
  replace : ∀ n op, env.sync.replace n op = none
  rollback : ∀ n op, env.sync.rollback n op = none

/-- No map operation of a request is refused. -/
def Request.MapsSucceed : Request → Prop
  | .setConfig _ _ env => env.reconcile.MapsSucceed ∧ env.rollback.MapsSucceed
  | .clearConfig _ env => env.reconcile.MapsSucceed ∧ env.rollback.MapsSucceed
  | .setDestinationPolicy _ _ env => env.reconcile.MapsSucceed ∧ env.rollback.MapsSucceed
  | .reconcile env => env.MapsSucceed
  | .event _ env => ∀ n op, env.pids n op = none

/-- Where `set_config` could not save, its rollback can scan the processes. -/
def Request.RollbackScans : Request → Prop
  | .setConfig _ _ env => env.save ≠ .ok () → ∃ processes, env.rollback.scan = .ok processes
  | _ => True

theorem Inner.Aligned.retarget {text : IpNetText} {inner : Inner} (h : inner.Aligned text)
    (target : ConfigMap × PolicyMap) (bypass : ExtTreeMap UInt16 (List PhysicalRoute)) :
    (inner.retarget target bypass).Aligned text :=
  ⟨h.untracked, h.pids, h.recorded⟩

section rescan

variable {text : IpNetText} {env : ReconcileEnv} {inner inner' : Inner} {marker : SocketMarker}
  {r : Except IoError Unit}

theorem current_empty (configs : ConfigMap) : Current configs ∅ := by
  intro pid process h
  simp at h

theorem current_buildTracking (configs : ConfigMap) (processes : List ProcessInfo) :
    Current configs (buildTracking configs processes) := by
  intro pid process h
  obtain ⟨info, -, config, -, hconfig, hprocess⟩ := buildTracking_entry h
  rw [hprocess]
  exact ⟨config, hconfig, rfl⟩

theorem current_rescanTable {next : TrackedTable} (h : rescanTable env inner = .ok next) :
    Current inner.configs next := by
  unfold rescanTable at h
  split_ifs at h
  · cases hscan : env.scan with
    | error error => simp [hscan, Except.map] at h
    | ok processes =>
        simp only [hscan, Except.map, Except.ok.injEq] at h
        rw [← h]
        exact current_buildTracking _ _
  · rw [← Except.ok.inj h]
    exact current_empty _

/-- What the marker records consists of networks. -/
theorem sync_parses (call : SyncCall)
    (h : Parses text marker.configs marker.destinationPolicies) :
    Parses text (marker.sync text call).2.configs
      (marker.sync text call).2.destinationPolicies := by
  rcases sync_cases text marker call with ⟨-, -, hsync⟩ | ⟨p, hreplace, hsync⟩ |
    ⟨_, _, _, _, -, -, error, hsync⟩
  · rw [hsync]
    exact h
  · rw [hsync]
    exact replaceMaps_parses hreplace
  · rw [hsync]
    exact h

/-- Without refusals a synchronisation of networks returns. -/
theorem sync_returns {call : SyncCall} (h : Parses text marker.configs marker.destinationPolicies)
    (hcall : Parses text call.configs call.destinationPolicies)
    (hnone : ∀ n op, call.faults.replace n op = none) : (marker.sync text call).1 = .ok () := by
  rcases sync_cases text marker call with ⟨-, -, hsync⟩ | ⟨p, -, hsync⟩ |
    ⟨_, p, _, _, hreplace, -, error, -⟩
  · rw [hsync]
  · rw [hsync]
  · have hreturns := replaceMaps_returns ⟨0, marker.policy⟩ hnone h hcall
    rw [hreplace] at hreturns
    cases hreturns

theorem parses_of_not_needsMarker (h : inner.needsMarker = false) :
    Parses text inner.configs inner.destinationPolicies := by
  unfold Inner.needsMarker at h
  rw [Bool.or_eq_false_iff, List.any_eq_false, List.any_eq_false] at h
  constructor
  · intro uid config hget range hrange
    have hnone := h.1 (uid, config) (ExtTreeMap.mem_toList_iff_getElem?_eq_some.mpr hget)
    have hne : config.ipRanges ≠ [] := List.ne_nil_of_mem hrange
    simp [SplitConfig.hasRules, hne] at hnone
  · intro uid ranges hget range hrange
    have hnone := h.2 (uid, ranges) (ExtTreeMap.mem_toList_iff_getElem?_eq_some.mpr hget)
    have hne : ranges ≠ [] := List.ne_nil_of_mem hrange
    simp [hne] at hnone

theorem ensureMarker_parses (hrecorded : ∀ marker, inner.marker = some marker →
      Parses text marker.configs marker.destinationPolicies)
    (h : ensureMarker env inner = .ok marker) :
    Parses text marker.configs marker.destinationPolicies := by
  unfold ensureMarker at h
  cases hmarker : inner.marker with
  | some marker' =>
      simp only [hmarker, Except.ok.injEq] at h
      rw [← h]
      exact hrecorded _ hmarker
  | none =>
      simp only [hmarker] at h
      cases hattach : env.attach with
      | error error => simp [hattach] at h
      | ok _ =>
          simp only [hattach, Except.ok.injEq] at h
          rw [← h]
          simp [Parses]

/-- **One rescan** keeps the pid map a copy of the table. If it returns, the table is the one it
arrived at and everything configured is a network; if it fails, the table is as before. -/
theorem reconcile_aligned (hmaps : env.MapsSucceed) (h : inner.Aligned text)
    (hexec : (reconcile text env).exec inner = (r, inner')) :
    inner'.Aligned text ∧
      (r = .ok () → rescanTable env inner = .ok inner'.tracked ∧
        Parses text inner.configs inner.destinationPolicies) ∧
      (r ≠ .ok () → inner'.tracked = inner.tracked) := by
  rcases reconcile_cases hexec with ⟨hneeds, rfl, rfl⟩ | ⟨-, -, ⟨error, -, rfl⟩, rfl⟩ |
    ⟨-, marker, hensure, ⟨error, rfl, -, rfl⟩ | ⟨next, p, hsync, hnext, hretrack, rfl⟩⟩
  · refine ⟨⟨fun _ => rfl, ?_, by simp⟩, ?_, by simp⟩
    · simp [Inner.pidMap, isExcluded]
    · exact fun _ => ⟨rescanTable_of_not_needsMarker hneeds, parses_of_not_needsMarker hneeds⟩
  · exact ⟨h, by simp, by simp⟩
  · refine ⟨⟨by simp, ?_, ?_⟩, by simp, by simp⟩
    · intro pid
      rw [← h.pids, ← ensureMarker_pidMap hensure,
        ← (sync_pidMap text marker (syncCall env inner)).1]
      rfl
    · intro marker' hmarker'
      rw [← Option.some.inj hmarker']
      exact sync_parses _ (ensureMarker_parses h.recorded hensure)
  · have hrecorded := sync_parses (syncCall env inner) (ensureMarker_parses h.recorded hensure)
    have hok := retrack_ok hmaps.pids inner.tracked next ⟨0, inner.pidMap⟩
    rw [hretrack] at hok
    subst hok
    rcases retrack_spec rfl hretrack with ⟨-, hpids⟩ | ⟨_, herror, -⟩
    · refine ⟨⟨by simp, ?_, ?_⟩, ?_, by simp⟩
      · intro pid
        refine (hpids pid).trans ?_
        rw [if_pos rfl, h.pids]
        simp
      · intro marker' hmarker'
        rw [← Option.some.inj hmarker']
        exact hrecorded
      · intro _
        obtain ⟨hconfigs, hpolicies⟩ := (sync_pidMap text marker (syncCall env inner)).2 hsync
        rw [hconfigs, hpolicies] at hrecorded
        exact ⟨by simpa using hnext, hrecorded⟩
    · cases herror

/-- With a marker attached, only the scan can stop a rescan. -/
theorem reconcile_returns (hmaps : env.MapsSucceed) (h : inner.Aligned text)
    (hparses : Parses text inner.configs inner.destinationPolicies) (hmarker : inner.marker ≠ none)
    (hscan : ∃ processes, env.scan = .ok processes)
    (hexec : (reconcile text env).exec inner = (r, inner')) : r = .ok () := by
  rcases reconcile_cases hexec with ⟨-, hr, -⟩ | ⟨-, hnone, -, -⟩ |
    ⟨-, marker, hensure, ⟨error, -, hfail, -⟩ | ⟨next, p, -, -, hretrack, -⟩⟩
  · exact hr
  · exact absurd hnone hmarker
  · rcases hfail with hsync | ⟨-, htable⟩
    · rw [sync_returns (ensureMarker_parses h.recorded hensure) hparses hmaps.replace] at hsync
      cases hsync
    · obtain ⟨processes, hscan⟩ := hscan
      unfold rescanTable at htable
      rw [hscan] at htable
      split_ifs at htable
      cases htable
  · rw [← retrack_ok hmaps.pids inner.tracked next ⟨0, inner.pidMap⟩, hretrack]

end rescan

/-! ## Requests -/

section requests

variable {text : IpNetText} {env : RequestEnv} {inner inner' : Inner}
  {target : ConfigMap × PolicyMap}

/-- A request keeps the pid map a copy of the table, and everything configured a network. -/
theorem changes_aligned (h : inner.Consistent text) (hreconcile : env.reconcile.MapsSucceed)
    (hrollback : env.rollback.MapsSucceed) (hchanges : Changes text env inner target inner') :
    inner'.Aligned text ∧ Parses text inner'.configs inner'.destinationPolicies := by
  cases hchanges with
  | rejected => exact ⟨h.toAligned, h.parses⟩
  | saved hexec hsave =>
      obtain ⟨ha, hok, -⟩ := reconcile_aligned hreconcile (h.retarget _ _) hexec
      obtain ⟨hconfigs, hpolicies, -⟩ := reconcile_frame hexec
      rw [hconfigs, hpolicies]
      exact ⟨ha, (hok rfl).2⟩
  | nothingToRestore hexec htarget =>
      obtain ⟨ha, -, -⟩ := reconcile_aligned hreconcile (h.retarget _ _) hexec
      obtain ⟨hconfigs, hpolicies, -⟩ := reconcile_frame hexec
      subst htarget
      refine ⟨⟨ha.untracked, ha.pids, ha.recorded⟩, ?_⟩
      rw [hconfigs, hpolicies]
      exact h.parses
  | @rolledBack bypass bypass' after r hexec hfail =>
      obtain ⟨ha, -, -⟩ := reconcile_aligned hreconcile (h.retarget _ _) hexec
      rcases hexec' : (reconcile text env.rollback).exec (after.retarget
        (inner.configs, inner.destinationPolicies) after.killSwitchBypass) with ⟨r', after'⟩
      obtain ⟨ha', -, -⟩ := reconcile_aligned hrollback (ha.retarget _ _) hexec'
      obtain ⟨hconfigs, hpolicies, -⟩ := reconcile_frame hexec'
      refine ⟨⟨ha'.untracked, ha'.pids, ha'.recorded⟩, ?_⟩
      rw [hconfigs, hpolicies]
      exact h.parses

/-- **A request keeps what holds between configurations and tables** and is established by its
rescans, if what holds with the new configurations holds with the old ones or the rollback, after a
failed save, can scan. -/
theorem changes_table {Q : ConfigMap → TrackedTable → Prop} (h : inner.Consistent text)
    (hreconcile : env.reconcile.MapsSucceed) (hrollback : env.rollback.MapsSucceed)
    (hold : Q inner.configs inner.tracked) (hempty : Q inner.configs ∅)
    (hfirst : ∀ (before : Inner) next, before.configs = target.1 →
      rescanTable env.reconcile before = .ok next → Q target.1 next)
    (hsecond : ∀ (before : Inner) next, before.configs = inner.configs →
      rescanTable env.rollback before = .ok next → Q inner.configs next)
    (hsafe : (∀ tracked, Q target.1 tracked → Q inner.configs tracked) ∨
      (env.save ≠ .ok () → ∃ processes, env.rollback.scan = .ok processes))
    (hchanges : Changes text env inner target inner') : Q inner'.configs inner'.tracked := by
  cases hchanges with
  | rejected => exact hold
  | saved hexec hsave =>
      obtain ⟨-, hok, -⟩ := reconcile_aligned hreconcile (h.retarget _ _) hexec
      rw [(reconcile_frame hexec).1]
      exact hfirst _ _ rfl (hok rfl).1
  | @nothingToRestore bypass bypass' after r hexec htarget =>
      obtain ⟨-, hok, hsame⟩ := reconcile_aligned hreconcile (h.retarget _ _) hexec
      subst htarget
      change Q after.configs after.tracked
      rw [(reconcile_frame hexec).1]
      by_cases hr : r = .ok ()
      · exact hfirst _ _ rfl (hok hr).1
      · rw [hsame hr]
        exact hold
  | @rolledBack bypass bypass' after r hexec hfail =>
      obtain ⟨ha, hok, hsame⟩ := reconcile_aligned hreconcile (h.retarget _ _) hexec
      have ha₁ := ha.retarget (inner.configs, inner.destinationPolicies) after.killSwitchBypass
      rcases hexec' : (reconcile text env.rollback).exec (after.retarget
        (inner.configs, inner.destinationPolicies) after.killSwitchBypass) with ⟨r', after'⟩
      obtain ⟨-, hok', hsame'⟩ := reconcile_aligned hrollback ha₁ hexec'
      change Q after'.configs after'.tracked
      rw [(reconcile_frame hexec').1]
      by_cases hr' : r' = .ok ()
      · exact hsecond _ _ rfl (hok' hr').1
      rw [hsame' hr']
      change Q inner.configs after.tracked
      by_cases hr : r = .ok ()
      · rcases hsafe with hsub | hscan
        · exact hsub _ (hfirst _ _ rfl (hok hr).1)
        · -- only without a marker, and then with an empty table, can the rollback still fail
          have hmarker : after.marker = none := by
            by_contra hmarker
            exact hr' (reconcile_returns hrollback ha₁ h.parses hmarker
              (hscan (hfail.resolve_left (not_not_intro hr))) hexec')
          rw [ha.untracked hmarker]
          exact hempty
      · rw [hsame hr]
        exact hold

/-- **A request that changes a configuration** keeps everything consistent, if it only takes
configurations away or its rollback, after a failed save, can scan. -/
theorem changes_consistent (h : inner.Consistent text) (hreconcile : env.reconcile.MapsSucceed)
    (hrollback : env.rollback.MapsSucceed)
    (hsafe : (∀ (uid : UInt16) (config : SplitConfig), target.1[uid]? = some config →
        inner.configs[uid]? = some config) ∨
      (env.save ≠ .ok () → ∃ processes, env.rollback.scan = .ok processes))
    (hchanges : Changes text env inner target inner') : inner'.Consistent text := by
  obtain ⟨haligned, hparses⟩ := changes_aligned h hreconcile hrollback hchanges
  refine ⟨haligned, ?_, hparses⟩
  refine changes_table h hreconcile hrollback h.current (current_empty _) ?_ ?_ ?_ hchanges
  · intro before next hconfigs hnext
    rw [← hconfigs]
    exact current_rescanTable hnext
  · intro before next hconfigs hnext
    rw [← hconfigs]
    exact current_rescanTable hnext
  · refine hsafe.imp_left fun hsub tracked hcurrent pid process hget => ?_
    obtain ⟨config, hconfig, hexcluded⟩ := hcurrent pid process hget
    exact ⟨config, hsub _ _ hconfig, hexcluded⟩

end requests

/-! ## Events -/

section events

variable {text : IpNetText} {env : EventEnv} {inner inner' : Inner} {event : ProcessEvent}
  {marker : SocketMarker} {pid : UInt32} {r : Except IoError Unit}

theorem isExcluded_erase (tracked : TrackedTable) (pid pid' : UInt32) :
    isExcluded (tracked.erase pid) pid' = (!decide (pid = pid') && isExcluded tracked pid') := by
  unfold isExcluded
  rw [ExtTreeMap.getElem?_erase]
  by_cases h : pid = pid'
  · simp [h]
  · simp [h]

theorem isExcluded_insert (tracked : TrackedTable) (pid pid' : UInt32) (process : TrackedProcess) :
    isExcluded (tracked.insert pid process) pid' =
      if pid = pid' then process.excluded else isExcluded tracked pid' := by
  unfold isExcluded
  rw [ExtTreeMap.getElem?_insert]
  by_cases h : pid = pid'
  · simp [h]
  · simp [h]

theorem Inner.pidMap_of_marker (hmarker : inner.marker = some marker) :
    inner.pidMap = marker.pidMap := by
  unfold Inner.pidMap
  rw [hmarker]

theorem untrack_consistent (h : inner.Consistent text) (hmarker : inner.marker = some marker)
    (hpids : ∀ n op, env.pids n op = none) (hexec : untrack env inner marker pid = (r, inner')) :
    inner'.Consistent text := by
  have hcurrent : Current inner.configs (inner.tracked.erase pid) := by
    intro pid' process hget
    rw [ExtTreeMap.getElem?_erase] at hget
    split_ifs at hget
    exact h.current pid' process hget
  rcases untrack_cases hexec with ⟨hexcluded, -, rfl⟩ | ⟨-, -, -, rfl⟩ | ⟨error, -, hfault, -⟩
  · refine ⟨⟨fun hnone => ?_, ?_, h.recorded⟩, hcurrent, h.parses⟩
    · rw [hmarker] at hnone
      cases hnone
    · intro pid'
      refine (h.pids pid').trans ?_
      rw [isExcluded_erase]
      by_cases hpid : pid = pid'
      · simp [← hpid, hexcluded]
      · simp [hpid]
  · refine ⟨⟨by simp, ?_, ?_⟩, hcurrent, h.parses⟩
    · intro pid'
      change pid' ∈ marker.pidMap.erase pid ↔ isExcluded (inner.tracked.erase pid) pid' = true
      rw [isExcluded_erase, ExtTreeMap.mem_erase, ← Inner.pidMap_of_marker hmarker, h.pids]
      simp
    · intro marker' hmarker'
      rw [← Option.some.inj hmarker']
      exact h.recorded marker hmarker
  · rw [hpids] at hfault
    cases hfault

theorem track_consistent {config : SplitConfig} {uid : UInt16} {matched : Bool}
    (h : inner.Consistent text) (hmarker : inner.marker = some marker)
    (hpids : ∀ n op, env.pids n op = none) (hconfig : inner.configs[uid]? = some config)
    (hexec : track env inner marker pid (trackedEntry config uid matched) = (r, inner')) :
    inner'.Consistent text := by
  rcases track_cases hexec with ⟨-, -, rfl⟩ | ⟨error, hfault, -⟩
  · refine ⟨⟨by simp, ?_, ?_⟩, ?_, h.parses⟩
    · intro pid'
      refine (PidOp.mem_apply _ _).trans ?_
      rw [isExcluded_insert, ← Inner.pidMap_of_marker hmarker, h.pids]
      by_cases hpid : pid = pid'
      · simp [hpid]
      · simp [hpid]
    · intro marker' hmarker'
      rw [← Option.some.inj hmarker']
      exact h.recorded marker hmarker
    · intro pid' process hget
      change (inner.tracked.insert pid (trackedEntry config uid matched))[pid']? = some process at hget
      rw [ExtTreeMap.getElem?_insert] at hget
      split_ifs at hget
      · rw [← Option.some.inj hget]
        exact ⟨config, hconfig, rfl⟩
      · exact h.current pid' process hget
  · rw [hpids] at hfault
    cases hfault

/-- **One event** keeps everything consistent. -/
theorem handleEvent_consistent (h : inner.Consistent text) (hpids : ∀ n op, env.pids n op = none)
    (hexec : (handleEvent env event).exec inner = (r, inner')) : inner'.Consistent text := by
  cases hmarker : inner.marker with
  | none =>
      unfold handleEvent at hexec
      rw [exec_ofFun, hmarker] at hexec
      rw [← (Prod.mk.inj hexec).2]
      exact h
  | some marker =>
      rcases handleEvent_cases hmarker hexec with ⟨-, rfl⟩ | ⟨pid, -, huntrack⟩ |
        ⟨pid, config, uid, matched, hconfig, -, htrack⟩
      · exact h
      · exact untrack_consistent h hmarker hpids huntrack
      · exact track_consistent h hmarker hpids hconfig htrack

end events

/-! ## Runs -/

section runs

variable {text : IpNetText} {inner : Inner} {request : Request}

theorem reconcile_consistent {env : ReconcileEnv} {r : Except IoError Unit} {inner' : Inner}
    (h : inner.Consistent text) (hmaps : env.MapsSucceed)
    (hexec : (reconcile text env).exec inner = (r, inner')) : inner'.Consistent text := by
  obtain ⟨ha, hok, hsame⟩ := reconcile_aligned hmaps h.toAligned hexec
  obtain ⟨hconfigs, hpolicies, -⟩ := reconcile_frame hexec
  refine ⟨ha, ?_, ?_⟩
  · rw [hconfigs]
    by_cases hr : r = .ok ()
    · exact current_rescanTable (hok hr).1
    · rw [hsame hr]
      exact h.current
  · rw [hconfigs, hpolicies]
    exact h.parses

theorem aligned_start (configs : ConfigMap) (policies : PolicyMap) :
    ({ configs := configs, destinationPolicies := policies } : Inner).Aligned text :=
  ⟨fun _ => rfl, by simp [Inner.pidMap, isExcluded], by simp⟩

/-- What the first rescan of a new engine leaves. -/
theorem consistent_new {configs : ConfigMap} {policies : PolicyMap} {env : ReconcileEnv}
    (hmaps : env.MapsSucceed)
    (hok : (reconcile text env).exec { configs := configs, destinationPolicies := policies } =
      (.ok (), inner)) : inner.Consistent text := by
  obtain ⟨ha, hok', -⟩ := reconcile_aligned hmaps (aligned_start configs policies) hok
  obtain ⟨hconfigs, hpolicies, -⟩ := reconcile_frame hok
  refine ⟨ha, ?_, ?_⟩
  · rw [hconfigs]
    exact current_rescanTable (hok' rfl).1
  · rw [hconfigs, hpolicies]
    exact (hok' rfl).2

theorem perform_consistent (h : inner.Consistent text) (hmaps : request.MapsSucceed)
    (hrollback : request.RollbackScans) : ((request.perform text).exec inner).2.Consistent text := by
  rcases request with ⟨uid, config, env⟩ | ⟨uid, env⟩ | ⟨uid, ranges, env⟩ | env | ⟨event, env⟩
  · exact changes_consistent h hmaps.1 hmaps.2 (.inr hrollback) (perform_changes rfl inner)
  · refine changes_consistent h hmaps.1 hmaps.2 (.inl ?_) (perform_changes rfl inner)
    intro uid' config hget
    change (inner.configs.erase uid)[uid']? = some config at hget
    rw [ExtTreeMap.getElem?_erase] at hget
    split_ifs at hget
    exact hget
  · exact changes_consistent h hmaps.1 hmaps.2 (.inl fun _ _ hget => hget)
      (perform_changes rfl inner)
  · exact reconcile_consistent h hmaps rfl
  · exact handleEvent_consistent h hmaps rfl

/-- **The pid map is exactly the set of excluded processes, in every run.** Attaching, scanning,
saving and routing may fail. -/
theorem engine_consistent
    (hreach : inner.Reachable text (fun _ env => env.MapsSucceed)
      fun _ request => request.MapsSucceed ∧ request.RollbackScans) :
    (inner.marker = none → inner.tracked = ∅) ∧
      ∀ marker, inner.marker = some marker →
        (∀ pid, pid ∈ marker.pidMap ↔
          ∃ process, inner.tracked[pid]? = some process ∧ process.excluded = true) ∧
        ∀ (pid : UInt32) (process : TrackedProcess), inner.tracked[pid]? = some process →
          ∃ config, inner.configs[process.uid]? = some config ∧
            process.excluded = config.excludes process.matched := by
  have h : inner.Consistent text := by
    induction hreach with
    | new hstart hok => exact consistent_new hstart hok
    | step hreach hrequest ih => exact perform_consistent ih hrequest.1 hrequest.2
  refine ⟨h.untracked, ?_⟩
  intro marker hmarker
  refine ⟨?_, h.current⟩
  intro pid
  rw [← Inner.pidMap_of_marker hmarker, h.pids, isExcluded_iff]

/-! ### Sample runs -/

/-- A process started from the sample configuration's application. -/
def firefox : ProcessInfo :=
  { uid := 1000, pid := 10, ppid := 1, identities := ["/usr/bin/firefox"] }

def plainOrder : IterationOrder := ⟨id, fun _ => .refl _⟩

/-- A rescan in which nothing but the scan can fail. -/
def quietRescan (scan : Except IoError (List ProcessInfo)) : ReconcileEnv :=
  { attach := .ok ()
    sync := ⟨noFaults, noFaults⟩
    scan := scan
    pids := fun _ _ => none
    oldOrder := plainOrder
    newOrder := plainOrder }

theorem quietRescan_mapsSucceed (scan : Except IoError (List ProcessInfo)) :
    (quietRescan scan).MapsSucceed :=
  ⟨fun _ _ => rfl, fun _ _ => rfl, fun _ _ => rfl⟩

/-- A new engine that excludes one application, which is running. -/
def firefoxExcluded : Inner :=
  ((reconcile decimalText (quietRescan (.ok [firefox]))).exec
    { configs := oneApplication .exclude }).2

theorem firefoxExcluded_reachable {start : Inner → ReconcileEnv → Prop}
    {P : Inner → Request → Prop}
    (hstart : start { configs := oneApplication .exclude } (quietRescan (.ok [firefox]))) :
    firefoxExcluded.Reachable decimalText start P :=
  .new hstart (Prod.ext (by decide +kernel) rfl)

/-- The user switches to the other mode; the new state cannot be saved. -/
def unsavedSwitch (rollbackScan : Except IoError (List ProcessInfo)) : Request :=
  .setConfig 1000 { mode := .include, appPaths := ["/usr/bin/firefox"], ipRanges := [] }
    { routingEnabled := false
      disable := .ok ()
      enable := .ok []
      reconcile := quietRescan (.ok [firefox])
      save := .error { kind := .os 28, message := "No space left on device" }
      rollback := quietRescan rollbackScan }

theorem engine_consistent_after_rollback :
    (((unsavedSwitch (.ok [firefox])).perform decimalText).exec firefoxExcluded).2.marker.isSome ∧
      ∀ marker, (((unsavedSwitch (.ok [firefox])).perform decimalText).exec
        firefoxExcluded).2.marker = some marker → ∀ pid, pid ∈ marker.pidMap ↔
          ∃ process, (((unsavedSwitch (.ok [firefox])).perform decimalText).exec
            firefoxExcluded).2.tracked[pid]? = some process ∧ process.excluded = true := by
  refine ⟨by decide +kernel, fun marker hmarker => ?_⟩
  refine ((engine_consistent (.step (firefoxExcluded_reachable (quietRescan_mapsSucceed _))
    ⟨?_, ?_⟩)).2 marker hmarker).1
  · exact ⟨quietRescan_mapsSucceed _, quietRescan_mapsSucceed _⟩
  · exact fun _ => ⟨[firefox], rfl⟩

/-- The engine after the rollback's scan failed too. -/
def switchedBack : Inner :=
  (((unsavedSwitch (.error { kind := .os 24, message := "Too many open files" })).perform
    decimalText).exec firefoxExcluded).2

/-- The process keeps the exclusion of the mode that was rejected. -/
theorem stale_exclusion :
    switchedBack.Reachable decimalText (fun _ env => env.MapsSucceed)
        (fun _ request => request.MapsSucceed) ∧
      switchedBack.marker.isSome ∧
      ∃ process config, switchedBack.tracked[(10 : UInt32)]? = some process ∧
        switchedBack.configs[process.uid]? = some config ∧
        process.excluded ≠ config.excludes process.matched := by
  refine ⟨.step (firefoxExcluded_reachable (quietRescan_mapsSucceed _))
      ⟨quietRescan_mapsSucceed _, quietRescan_mapsSucceed _⟩, by decide +kernel, ⟨1000, true, false⟩,
    { mode := .exclude, appPaths := ["/usr/bin/firefox"], ipRanges := [] }, ?_, ?_, ?_⟩
  · decide +kernel
  · decide +kernel
  · decide

end runs

end ProtonVpnOmarchy.Splitd
