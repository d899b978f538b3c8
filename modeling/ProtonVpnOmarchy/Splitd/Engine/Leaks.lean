import ProtonVpnOmarchy.Splitd.Engine.Consistency

/-!
# Pids the engine forgets

A rescan deletes from the pid map what its own table calls excluded. A pid in the map that the table
does not call excluded is a leak: no rescan removes it (`reconcile_ok_pids`). Refused map operations
can cause leaks in two ways: an exit, or an exec by a user without configuration, takes the entry
out of the table before the deletion is tried, and a rescan adds pids to the map before it replaces
the table. Where neither is refused, there are no leaks in any run.
-/

namespace ProtonVpnOmarchy.Splitd

open Std (ExtTreeMap)
open Lib Lib.Fallible Bpf

/-- The table knows of every pid in the map. -/
def Inner.NoLeak (inner : Inner) : Prop :=
  ∀ pid ∈ inner.pidMap, isExcluded inner.tracked pid = true

/-- Where an insertion of the rescan is refused, all pids inserted before were already excluded in
the table that stays. -/
def ReconcileEnv.Settles (env : ReconcileEnv) (inner : Inner) : Prop :=
  ∀ next, rescanTable env inner = .ok next →
    ∀ done pid rest error, additions env next = done ++ pid :: rest →
      env.pids ((removals env inner.tracked next).length + done.length) ⟨pid, true⟩ = some error →
      ∀ pid ∈ done, isExcluded inner.tracked pid = true

/-- A request cannot cause a leak: its rescans settle, the one of the rollback from the old table or
from that of the first rescan, and a process that leaves the table is deleted from the map. -/
def Request.Settles (inner : Inner) (request : Request) : Prop :=
  (∀ env, request.env? = some env →
      env.reconcile.Settles (inner.retarget (request.target inner) ∅) ∧
        ∀ tracked, tracked = inner.tracked ∨
          rescanTable env.reconcile (inner.retarget (request.target inner) ∅) = .ok tracked →
            env.rollback.Settles { inner with tracked := tracked }) ∧
    (∀ env, request = .reconcile env → env.Settles inner) ∧
    ∀ event env pid, request = .event event env → Drops env inner event pid →
      isExcluded inner.tracked pid = true → env.pids 0 ⟨pid, false⟩ = none

section steps

variable {text : IpNetText} {inner inner' : Inner} {r : Except IoError Unit}

/-- What a rescan that returns leaves in the map: the excluded processes, and every leak. -/
theorem reconcile_ok_pids {env : ReconcileEnv} {marker : SocketMarker}
    (hok : (reconcile text env).exec inner = (.ok (), inner'))
    (hmarker : inner'.marker = some marker) :
    ∀ pid, pid ∈ marker.pidMap ↔ isExcluded inner'.tracked pid = true ∨
      pid ∈ inner.pidMap ∧ ¬ isExcluded inner.tracked pid = true := by
  rcases reconcile_cases hok with ⟨-, -, rfl⟩ | ⟨-, -, ⟨error, -, h⟩, -⟩ |
    ⟨-, _, -, ⟨error, h, -⟩ | ⟨next, p, -, -, hretrack, rfl⟩⟩
  · cases hmarker
  · cases h
  · cases h
  · rw [← Option.some.inj hmarker]
    rcases retrack_spec rfl hretrack with ⟨-, hpids⟩ | ⟨_, h, -⟩
    · simpa using hpids
    · cases h

/-- A rescan that settles causes no leak. -/
theorem reconcile_noLeak {env : ReconcileEnv} (h : inner.NoLeak) (hsettles : env.Settles inner)
    (hexec : (reconcile text env).exec inner = (r, inner')) : inner'.NoLeak := by
  rcases reconcile_cases hexec with ⟨-, -, rfl⟩ | ⟨-, -, -, rfl⟩ |
    ⟨-, marker, hensure, ⟨error, -, -, rfl⟩ | ⟨next, p, -, hnext, hretrack, rfl⟩⟩
  · intro pid hpid
    simp [Inner.pidMap] at hpid
  · exact h
  · intro pid hpid
    refine h pid ?_
    rw [← ensureMarker_pidMap hensure, ← (sync_pidMap text marker (syncCall env inner)).1]
    exact hpid
  · intro pid hpid
    change pid ∈ p.state at hpid
    change isExcluded (if r = .ok () then next else inner.tracked) pid = true
    rcases retrack_spec rfl hretrack with ⟨rfl, hpids⟩ | ⟨error, rfl, hsub | hstopped⟩
    · rw [if_pos rfl]
      rcases (hpids pid).mp hpid with hexcluded | ⟨hleak, hnot⟩
      · exact hexcluded
      · exact absurd (h pid hleak) hnot
    · rw [if_neg (by simp)]
      exact h pid (hsub pid hpid)
    · rw [if_neg (by simp)]
      obtain ⟨done, refused, rest, hadd, hfault, hsub⟩ := hstopped
      rcases hsub pid hpid with hold | hdone
      · exact h pid hold
      · exact hsettles next hnext done refused rest error hadd hfault pid hdone

/-- The table after a rescan is the one it arrived at, or the one before. -/
theorem reconcile_tracked {env : ReconcileEnv}
    (hexec : (reconcile text env).exec inner = (r, inner')) :
    inner'.tracked = inner.tracked ∨ rescanTable env inner = .ok inner'.tracked := by
  rcases reconcile_cases hexec with ⟨hneeds, -, rfl⟩ | ⟨-, -, -, rfl⟩ |
    ⟨-, marker, hensure, ⟨error, -, -, rfl⟩ | ⟨next, p, -, hnext, hretrack, rfl⟩⟩
  · exact .inr (rescanTable_of_not_needsMarker hneeds)
  · exact .inl rfl
  · exact .inl rfl
  · change (if r = .ok () then next else inner.tracked) = _ ∨
      rescanTable env inner = .ok (if r = .ok () then next else inner.tracked)
    by_cases hr : r = .ok ()
    · rw [if_pos hr]
      exact .inr hnext
    · rw [if_neg hr]
      exact .inl rfl

/-- A request that changes a configuration and settles causes no leak. -/
theorem changes_noLeak {env : RequestEnv} {target : ConfigMap × PolicyMap} (h : inner.NoLeak)
    (hreconcile : env.reconcile.Settles (inner.retarget target ∅))
    (hrollback : ∀ tracked, tracked = inner.tracked ∨
      rescanTable env.reconcile (inner.retarget target ∅) = .ok tracked →
        env.rollback.Settles { inner with tracked := tracked })
    (hchanges : Changes text env inner target inner') : inner'.NoLeak := by
  have hfirst : ∀ bypass r after,
      (reconcile text env.reconcile).exec (inner.retarget target bypass) = (r, after) →
        after.NoLeak := by
    intro bypass r after hexec
    have hstart : (inner.retarget target bypass).NoLeak := h
    exact reconcile_noLeak hstart hreconcile hexec
  cases hchanges with
  | rejected => exact h
  | saved hexec hsave => exact hfirst _ _ _ hexec
  | @nothingToRestore bypass bypass' after r hexec htarget =>
      have hafter : after.NoLeak := hfirst _ _ _ hexec
      exact hafter
  | @rolledBack bypass bypass' after r hexec hfail =>
      have hafter : after.NoLeak := hfirst _ _ _ hexec
      have hrestored : (after.retarget (inner.configs, inner.destinationPolicies)
        after.killSwitchBypass).NoLeak := hafter
      have hsettles := hrollback after.tracked (reconcile_tracked hexec)
      rcases hexec' : (reconcile text env.rollback).exec (after.retarget
        (inner.configs, inner.destinationPolicies) after.killSwitchBypass) with ⟨r', after'⟩
      have hafter' : after'.NoLeak := reconcile_noLeak hrestored hsettles hexec'
      exact hafter'

/-- An event that settles causes no leak. -/
theorem handleEvent_noLeak {env : EventEnv} {event : ProcessEvent} (h : inner.NoLeak)
    (hdrops : ∀ pid, Drops env inner event pid → isExcluded inner.tracked pid = true →
      env.pids 0 ⟨pid, false⟩ = none)
    (hexec : (handleEvent env event).exec inner = (r, inner')) : inner'.NoLeak := by
  cases hmarker : inner.marker with
  | none =>
      unfold handleEvent at hexec
      rw [exec_ofFun, hmarker] at hexec
      rw [← (Prod.mk.inj hexec).2]
      exact h
  | some marker =>
      have hpidMap := Inner.pidMap_of_marker hmarker
      rcases handleEvent_cases hmarker hexec with ⟨-, rfl⟩ | ⟨pid, hdrop, huntrack⟩ |
        ⟨pid, config, uid, matched, -, -, htrack⟩
      · exact h
      · rcases untrack_cases huntrack with ⟨hexcluded, -, rfl⟩ | ⟨-, -, -, rfl⟩ |
          ⟨error, hexcluded, hfault, -, -⟩
        · intro pid' hpid'
          change pid' ∈ inner.pidMap at hpid'
          have hpid : pid ≠ pid' := by
            rintro rfl
            rw [h pid hpid'] at hexcluded
            cases hexcluded
          change isExcluded (inner.tracked.erase pid) pid' = true
          rw [isExcluded_erase, h pid' hpid']
          simp [hpid]
        · intro pid' hpid'
          obtain ⟨hpid, hpid'⟩ := ExtTreeMap.mem_erase.mp hpid'
          rw [← hpidMap] at hpid'
          change isExcluded (inner.tracked.erase pid) pid' = true
          rw [isExcluded_erase, h pid' hpid']
          simpa using hpid
        · rw [hdrops pid hdrop hexcluded] at hfault
          cases hfault
      · rcases track_cases htrack with ⟨-, -, rfl⟩ | ⟨error, -, -, rfl⟩
        · intro pid' hpid'
          have hpid' := (PidOp.mem_apply _ _).mp hpid'
          rw [← hpidMap] at hpid'
          change isExcluded (inner.tracked.insert pid (trackedEntry config uid matched)) pid' = true
          rw [isExcluded_insert]
          by_cases hpid : pid = pid'
          · simpa [hpid] using hpid'
          · simp only [hpid, if_false] at hpid' ⊢
            exact h pid' hpid'
        · intro pid' hpid'
          change pid' ∈ marker.pidMap at hpid'
          rw [← hpidMap] at hpid'
          exact h pid' hpid'

theorem perform_noLeak {request : Request} (h : inner.NoLeak) (hsettles : request.Settles inner) :
    ((request.perform text).exec inner).2.NoLeak := by
  obtain ⟨hchanges, hreconcile, hevent⟩ := hsettles
  cases henv : request.env? with
  | some env =>
      obtain ⟨hfirst, hrollback⟩ := hchanges env henv
      exact changes_noLeak h hfirst hrollback (perform_changes henv inner)
  | none =>
      rcases request with _ | _ | _ | env | ⟨event, env⟩
      · cases henv
      · cases henv
      · cases henv
      · exact reconcile_noLeak h (hreconcile env rfl) rfl
      · exact handleEvent_noLeak h (fun pid => hevent event env pid rfl) rfl

end steps

section runs

variable {text : IpNetText} {inner inner' : Inner} {env : ReconcileEnv}

theorem noLeak_of_reachable
    (hreach : inner.Reachable text (fun _ _ => True) fun inner request => request.Settles inner) :
    inner.NoLeak := by
  induction hreach with
  | @new configs policies env inner hstart hok =>
      intro pid hpid
      cases hmarker : inner.marker with
      | none => simp [Inner.pidMap, hmarker] at hpid
      | some marker =>
          rw [Inner.pidMap_of_marker hmarker, reconcile_ok_pids hok hmarker] at hpid
          rcases hpid with hpid | ⟨hpid, -⟩
          · exact hpid
          · simp [Inner.pidMap] at hpid
  | step hreach hrequest ih => exact perform_noLeak ih hrequest

/-- **A rescan that returns leaves exactly the excluded processes of its scan in the pid map**, in
every run without the refusals that cause a leak. Any other operation may fail. -/
theorem reconcile_ok_exact
    (hreach : inner.Reachable text (fun _ _ => True) fun inner request => request.Settles inner)
    (hok : (reconcile text env).exec inner = (.ok (), inner')) (marker : SocketMarker)
    (hmarker : inner'.marker = some marker) :
    (inner.needsTracking = true → ∃ processes, env.scan = .ok processes ∧
        ∀ pid, pid ∈ marker.pidMap ↔
          isExcluded (buildTracking inner.configs processes) pid = true) ∧
      (inner.needsTracking = false → ∀ pid, pid ∉ marker.pidMap) := by
  have h := noLeak_of_reachable hreach
  have hnext := reconcile_ok_table hok
  have hexact : ∀ pid, pid ∈ marker.pidMap ↔ isExcluded inner'.tracked pid = true := by
    intro pid
    rw [reconcile_ok_pids hok hmarker, or_iff_left]
    rintro ⟨hpid, hnot⟩
    exact hnot (h pid hpid)
  unfold rescanTable at hnext
  constructor
  · intro htracking
    rw [if_pos htracking] at hnext
    cases hscan : env.scan with
    | error error => simp [hscan, Except.map] at hnext
    | ok processes =>
        simp only [hscan, Except.map, Except.ok.injEq] at hnext
        rw [← hnext] at hexact
        exact ⟨processes, rfl, hexact⟩
  · intro htracking pid hpid
    rw [if_neg (by simp [htracking])] at hnext
    rw [hexact, ← Except.ok.inj hnext] at hpid
    simp [isExcluded] at hpid

/-- The application exits; `faults` says whether the deletion is refused. -/
def firefoxExit (faults : PidFaults) : Request := .event (.exit 10) ⟨fun _ => none, faults⟩

theorem firefoxExit_settles (inner : Inner) : (firefoxExit fun _ _ => none).Settles inner := by
  refine ⟨fun _ h => ?_, fun _ h => ?_, fun event env pid h _ _ => ?_⟩
  · cases h
  · cases h
  · cases h
    rfl

theorem reconcile_ok_exact_after_exit :
    ∃ marker, ((reconcile decimalText (quietRescan (.ok []))).exec
        (((firefoxExit fun _ _ => none).perform decimalText).exec firefoxExcluded).2).2.marker =
          some marker ∧
      ∃ processes, (quietRescan (.ok [])).scan = .ok processes ∧ ∀ pid, pid ∈ marker.pidMap ↔
        isExcluded (buildTracking (oneApplication .exclude) processes) pid = true := by
  have hsome : ((reconcile decimalText (quietRescan (.ok []))).exec
      (((firefoxExit fun _ _ => none).perform decimalText).exec
        firefoxExcluded).2).2.marker.isSome := by decide +kernel
  obtain ⟨marker, hmarker⟩ := Option.isSome_iff_exists.mp hsome
  have hexact := reconcile_ok_exact (.step (firefoxExcluded_reachable trivial)
    (firefoxExit_settles _)) (Prod.ext (by decide +kernel) rfl) marker hmarker
  exact ⟨marker, hmarker, hexact.1 (by decide +kernel)⟩

/-- Every deletion is refused. -/
def refuseDeletions : PidFaults := fun _ op =>
  if op.excluded then none else some { kind := .os 1, message := "Operation not permitted" }

/-- The engine after an exit whose deletion was refused. -/
def unnoticedExit : Inner :=
  (((firefoxExit refuseDeletions).perform decimalText).exec firefoxExcluded).2

/-- The pid stays in the map though a rescan without it returns. -/
theorem leaked_pid :
    unnoticedExit.Reachable decimalText (fun _ _ => True) (fun _ _ => True) ∧
      ((reconcile decimalText (quietRescan (.ok []))).exec unnoticedExit).1 = .ok () ∧
      ∃ marker, ((reconcile decimalText (quietRescan (.ok []))).exec unnoticedExit).2.marker =
          some marker ∧ (10 : UInt32) ∈ marker.pidMap ∧
        isExcluded (buildTracking unnoticedExit.configs []) 10 = false := by
  have hpid : ((reconcile decimalText (quietRescan (.ok []))).exec unnoticedExit).2.marker.any
      fun marker => decide ((10 : UInt32) ∈ marker.pidMap) := by decide +kernel
  obtain ⟨marker, hmarker, hpid⟩ := (Option.any_eq_true _ _).mp hpid
  exact ⟨.step (firefoxExcluded_reachable trivial) trivial, by decide +kernel, marker, hmarker,
    by simpa using hpid, by decide +kernel⟩

end runs

end ProtonVpnOmarchy.Splitd
