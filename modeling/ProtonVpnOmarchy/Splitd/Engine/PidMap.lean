import ProtonVpnOmarchy.Splitd.Bpf.History
import ProtonVpnOmarchy.Splitd.Engine.Basic

/-!
# What a rescan and an event do to the pid map

The pid map is the kernel's copy of one bit of the table: who is excluded. The engine changes the
two one after the other, and any change of the map can be refused.

* `retrack_spec` — the two loops of a rescan, wherever they stop.
* `reconcile_cases` — everything a rescan can do.
* `untrack_cases`, `track_cases` — everything an event can do.
-/

namespace ProtonVpnOmarchy.Splitd

open Std (ExtTreeMap)
open Lib Lib.Fallible Bpf

/-- The pid map of the engine; without a marker it has none. -/
def Inner.pidMap (inner : Inner) : PidMap :=
  match inner.marker with
  | some marker => marker.pidMap
  | none => ∅

/-! ## The loops of a rescan -/

section loops

variable {env : ReconcileEnv} {tracked next : TrackedTable} {pid : UInt32}

theorem PidOp.mem_apply (op : PidOp) (map : PidMap) :
    pid ∈ op.apply map ↔ if op.pid = pid then op.excluded = true else pid ∈ map := by
  unfold PidOp.apply
  by_cases hpid : op.pid = pid
  · by_cases hexcluded : op.excluded = true
    · simp [hexcluded, hpid]
    · simp [hexcluded, hpid]
  · by_cases hexcluded : op.excluded = true
    · simp [hexcluded, hpid]
    · simp [hexcluded, hpid]

theorem mem_foldl_include (pids : List UInt32) (map : PidMap) :
    pid ∈ (pids.map (PidOp.mk · false)).foldl (fun map op => op.apply map) map ↔
      pid ∉ pids ∧ pid ∈ map := by
  induction pids generalizing map with
  | nil => simp
  | cons head pids ih =>
      rw [List.map_cons, List.foldl_cons, ih, PidOp.mem_apply, List.mem_cons]
      by_cases hpid : head = pid
      · simp [hpid]
      · simp [hpid, Ne.symm hpid]

theorem mem_foldl_exclude (pids : List UInt32) (map : PidMap) :
    pid ∈ (pids.map (PidOp.mk · true)).foldl (fun map op => op.apply map) map ↔
      pid ∈ pids ∨ pid ∈ map := by
  induction pids generalizing map with
  | nil => simp
  | cons head pids ih =>
      rw [List.map_cons, List.foldl_cons, ih, PidOp.mem_apply, List.mem_cons]
      by_cases hpid : head = pid
      · simp [hpid]
      · simp [hpid, Ne.symm hpid]

/-- The pids a rescan takes out of the pid map, in order. -/
def removals (env : ReconcileEnv) (tracked next : TrackedTable) : List UInt32 :=
  ((env.oldOrder.run tracked.toList).filter fun entry =>
    entry.2.excluded && !isExcluded next entry.1).map Prod.fst

/-- The pids a rescan puts into the pid map, in order. -/
def additions (env : ReconcileEnv) (next : TrackedTable) : List UInt32 :=
  ((env.newOrder.run next.toList).filter fun entry => entry.2.excluded).map Prod.fst

theorem isExcluded_iff : isExcluded tracked pid = true ↔
    ∃ process, tracked[pid]? = some process ∧ process.excluded = true := by
  unfold isExcluded
  cases tracked[pid]? <;> simp

theorem mem_removals :
    pid ∈ removals env tracked next ↔ isExcluded tracked pid ∧ ¬ isExcluded next pid := by
  unfold removals
  simp only [List.mem_map, List.mem_filter, (env.oldOrder.perm _).mem_iff, isExcluded_iff,
    Prod.exists, exists_and_right, exists_eq_right, ExtTreeMap.mem_toList_iff_getElem?_eq_some,
    Bool.and_eq_true, Bool.not_eq_true', ← Bool.not_eq_true]
  constructor
  · rintro ⟨process, htracked, hexcluded, hnext⟩
    exact ⟨⟨process, htracked, hexcluded⟩, hnext⟩
  · rintro ⟨⟨process, htracked, hexcluded⟩, hnext⟩
    exact ⟨process, htracked, hexcluded, hnext⟩

theorem mem_additions : pid ∈ additions env next ↔ isExcluded next pid := by
  unfold additions
  simp only [List.mem_map, List.mem_filter, (env.newOrder.perm _).mem_iff, isExcluded_iff,
    Prod.exists, exists_and_right, exists_eq_right, ExtTreeMap.mem_toList_iff_getElem?_eq_some]

/-- The loops of a rescan are two sequences of attempts. -/
theorem retrack_eq (env : ReconcileEnv) (tracked next : TrackedTable) :
    retrack env tracked next = (do
      forM (((removals env tracked next).map (PidOp.mk · false)).map Step.attempt)
        (Step.perform PidOp.apply env.pids)
      forM (((additions env next).map (PidOp.mk · true)).map Step.attempt)
        (Step.perform PidOp.apply env.pids)) := by
  unfold retrack removals additions
  simp only [List.forM_map]
  rw [← forM_ite, ← forM_ite]
  rfl

/-- Ending the tracking is a rescan that finds nobody. -/
theorem untrackAll_eq (env : ReconcileEnv) (tracked : TrackedTable) :
    untrackAll env tracked = retrack env tracked ∅ := by
  have hnew : env.newOrder.run (∅ : TrackedTable).toList = [] :=
    (env.newOrder.perm (∅ : TrackedTable).toList).eq_nil
  unfold untrackAll retrack
  rw [hnew]
  simp [isExcluded]

/-- **The loops of a rescan.** Where they succeed, the excluded pids of the new table are in the map,
and of the others only those that the old table did not know to be excluded. Where they are stopped
while adding, everything added before was already in the new table. -/
theorem retrack_spec {p p' : Pass PidMap} {r : Except IoError Unit} (hp : p.count = 0)
    (hexec : (retrack env tracked next).exec p = (r, p')) :
    (r = .ok () ∧ ∀ pid, pid ∈ p'.state ↔
        isExcluded next pid ∨ pid ∈ p.state ∧ ¬ isExcluded tracked pid) ∨
      ∃ error, r = .error error ∧ ((∀ pid ∈ p'.state, pid ∈ p.state) ∨
        ∃ done pid rest, additions env next = done ++ pid :: rest ∧
          env.pids ((removals env tracked next).length + done.length) ⟨pid, true⟩ = some error ∧
          ∀ pid ∈ p'.state, pid ∈ p.state ∨ pid ∈ done) := by
  rw [retrack_eq, exec_bind] at hexec
  rcases hdel : (forM (((removals env tracked next).map (PidOp.mk · false)).map Step.attempt)
    (Step.perform PidOp.apply env.pids)).exec p with ⟨error | _, p₁⟩
  · rw [hdel] at hexec
    obtain ⟨rfl, rfl⟩ := Prod.mk.inj hexec
    refine .inr ⟨error, rfl, .inl ?_⟩
    rcases forM_perform_attempts hdel with ⟨h, -⟩ | ⟨done, op, rest, _, hops, -, -, hp₁⟩
    · cases h
    · obtain ⟨pids, -, -, rfl, -⟩ := List.map_eq_append_iff.mp hops
      intro pid hpid
      rw [hp₁, mem_foldl_include] at hpid
      exact hpid.2
  · rw [hdel] at hexec
    have hp₁ : p₁.count = (removals env tracked next).length ∧
        ∀ pid, pid ∈ p₁.state ↔ pid ∉ removals env tracked next ∧ pid ∈ p.state := by
      rcases forM_perform_attempts hdel with ⟨-, rfl⟩ | ⟨_, _, _, _, _, _, h, _⟩
      · exact ⟨by simp [hp], fun pid => mem_foldl_include _ _⟩
      · cases h
    rcases forM_perform_attempts hexec with ⟨hr, rfl⟩ | ⟨done, op, rest, error, hops, hf, hr, hp'⟩
    · refine .inl ⟨hr, ?_⟩
      intro pid
      rw [mem_foldl_exclude, mem_additions, hp₁.2, mem_removals]
      by_cases hnext : isExcluded next pid = true
      · simp [hnext]
      · simp [hnext, and_comm]
    · obtain ⟨pids, rest, hadd, rfl, hrest⟩ := List.map_eq_append_iff.mp hops
      obtain ⟨pid, rest, rfl, rfl, rfl⟩ := List.map_eq_cons_iff.mp hrest
      refine .inr ⟨error, hr, .inr ⟨pids, pid, rest, hadd, ?_, ?_⟩⟩
      · rwa [hp₁.1, List.length_map] at hf
      · intro pid hpid
        rw [hp', mem_foldl_exclude, hp₁.2] at hpid
        exact hpid.symm.imp_left And.right

theorem retrack_ok (hpids : ∀ n op, env.pids n op = none) (tracked next : TrackedTable)
    (p : Pass PidMap) : ((retrack env tracked next).exec p).1 = .ok () := by
  have hsome : ∀ (ops : List PidOp), ∀ step ∈ ops.map (Step.attempt (ε := IoError)),
      step.op?.isSome := by
    intro ops step hstep
    obtain ⟨op, -, rfl⟩ := List.mem_map.mp hstep
    rfl
  rw [retrack_eq, exec_bind]
  rcases hdel : (forM (((removals env tracked next).map (PidOp.mk · false)).map Step.attempt)
    (Step.perform PidOp.apply env.pids)).exec p with ⟨error | _, p₁⟩
  · have hok : ((forM (((removals env tracked next).map (PidOp.mk · false)).map Step.attempt)
        (Step.perform PidOp.apply env.pids)).exec p).1 = .ok () := forM_perform_ok hpids (hsome _)
    rw [hdel] at hok
    cases hok
  · exact forM_perform_ok hpids (hsome _)

end loops

/-! ## The rescan -/

section rescan

variable {text : IpNetText} {env : ReconcileEnv} {inner inner' : Inner} {marker : SocketMarker}
  {r : Except IoError Unit}

/-- The table a rescan arrives at: that of the scan, or nobody's where no rule needs one. -/
def rescanTable (env : ReconcileEnv) (inner : Inner) : Except IoError TrackedTable :=
  if inner.needsTracking then env.scan.map (buildTracking inner.configs) else .ok ∅

/-- Without a rule in force no process needs tracking. -/
theorem needsTracking_of_not_needsMarker (h : inner.needsMarker = false) :
    inner.needsTracking = false := by
  unfold Inner.needsMarker at h
  unfold Inner.needsTracking
  rw [Bool.or_eq_false_iff, List.any_eq_false] at h
  rw [List.any_eq_false]
  intro entry hentry htracking
  have hrules := h.1 entry hentry
  simp only [needsProcessTracking, SplitConfig.hasRules, Bool.or_eq_true, Bool.and_eq_true,
    not_or] at htracking hrules
  rcases htracking with happ | ⟨-, happ | hranges⟩
  · exact hrules.1 happ
  · exact hrules.1 happ
  · exact hrules.2 hranges

theorem rescanTable_of_not_needsMarker (h : inner.needsMarker = false) :
    rescanTable env inner = .ok ∅ := by
  unfold rescanTable
  rw [needsTracking_of_not_needsMarker h]
  rfl

theorem reconcileTracking_eq (env : ReconcileEnv) (inner : Inner) (marker : SocketMarker) :
    reconcileTracking env inner marker =
      match rescanTable env inner with
      | .error error => (.error error, { inner with marker := some marker })
      | .ok next =>
        match onPidMap (retrack env inner.tracked next) marker with
        | (.ok (), marker) => (.ok (), { inner with marker := some marker, tracked := next })
        | (.error error, marker) => (.error error, { inner with marker := some marker }) := by
  unfold reconcileTracking rescanTable
  by_cases htracking : inner.needsTracking = true
  · rw [if_pos htracking, if_pos htracking]
    cases env.scan <;> rfl
  · rw [if_neg htracking, if_neg htracking]
    dsimp only
    exact untrackAll_eq env inner.tracked ▸ rfl

theorem reconcileTracking_cases (hpids : marker.pidMap = inner.pidMap)
    (hexec : reconcileTracking env inner marker = (r, inner')) :
    (∃ error, rescanTable env inner = .error error ∧ r = .error error ∧
        inner' = { inner with marker := some marker }) ∨
      ∃ next p, rescanTable env inner = .ok next ∧
        (retrack env inner.tracked next).exec ⟨0, inner.pidMap⟩ = (r, p) ∧
        inner' = { inner with
          marker := some { marker with pidMap := p.state }
          tracked := if r = .ok () then next else inner.tracked } := by
  rw [reconcileTracking_eq] at hexec
  cases hnext : rescanTable env inner with
  | error error =>
      rw [hnext] at hexec
      obtain ⟨rfl, rfl⟩ := Prod.mk.inj hexec
      exact .inl ⟨error, rfl, rfl, rfl⟩
  | ok next =>
      simp only [hnext, onPidMap, hpids] at hexec
      rcases hretrack : (retrack env inner.tracked next).exec ⟨0, inner.pidMap⟩ with ⟨error | _, p⟩
      · rw [hretrack] at hexec
        obtain ⟨rfl, rfl⟩ := Prod.mk.inj hexec
        exact .inr ⟨next, p, rfl, hretrack, by simp⟩
      · rw [hretrack] at hexec
        obtain ⟨rfl, rfl⟩ := Prod.mk.inj hexec
        exact .inr ⟨next, p, rfl, hretrack, by simp⟩

theorem ensureMarker_pidMap (h : ensureMarker env inner = .ok marker) :
    marker.pidMap = inner.pidMap := by
  unfold ensureMarker at h
  unfold Inner.pidMap
  cases hmarker : inner.marker with
  | some marker' =>
      rw [hmarker] at h
      obtain rfl := Except.ok.inj h
      rfl
  | none =>
      simp only [hmarker] at h
      cases hattach : env.attach with
      | error error => simp [hattach] at h
      | ok _ =>
          simp only [hattach, Except.ok.injEq] at h
          rw [← h]

/-- A synchronisation does not touch the pid map, and records what it was given if it returns. -/
theorem sync_pidMap (text : IpNetText) (marker : SocketMarker) (call : SyncCall) :
    (marker.sync text call).2.pidMap = marker.pidMap ∧
      ((marker.sync text call).1 = .ok () →
        (marker.sync text call).2.configs = call.configs ∧
          (marker.sync text call).2.destinationPolicies = call.destinationPolicies) := by
  rcases sync_cases text marker call with ⟨hconfigs, hpolicies, h⟩ | ⟨p, -, h⟩ |
    ⟨_, _, _, _, -, -, error, h⟩
  · rw [h]
    exact ⟨rfl, fun _ => ⟨hconfigs.symm, hpolicies.symm⟩⟩
  · rw [h]
    exact ⟨rfl, fun _ => ⟨rfl, rfl⟩⟩
  · rw [h]
    exact ⟨rfl, fun h => by cases h⟩

/-- The synchronisation a rescan starts with. -/
def syncCall (env : ReconcileEnv) (inner : Inner) : SyncCall :=
  ⟨inner.configs, inner.destinationPolicies, env.sync⟩

/-- Everything a rescan can do: end the tracking with no rule in force; stop before the loops over
the pid map, at the attachment, the synchronisation or the scan; or reach the loops with a marker
that records the current configurations. -/
theorem reconcile_cases (hexec : (reconcile text env).exec inner = (r, inner')) :
    (inner.needsMarker = false ∧ r = .ok () ∧
        inner' = { inner with tracked := ∅, marker := none }) ∨
      (inner.needsMarker = true ∧ inner.marker = none ∧
        (∃ error, env.attach = .error error ∧ r = .error error) ∧ inner' = inner) ∨
      inner.needsMarker = true ∧ ∃ marker, ensureMarker env inner = .ok marker ∧
        ((∃ error, r = .error error ∧
            ((marker.sync text (syncCall env inner)).1 = .error error ∨
              (marker.sync text (syncCall env inner)).1 = .ok () ∧
                rescanTable env inner = .error error) ∧
            inner' = { inner with marker := some (marker.sync text (syncCall env inner)).2 }) ∨
          ∃ next p, (marker.sync text (syncCall env inner)).1 = .ok () ∧
            rescanTable env inner = .ok next ∧
            (retrack env inner.tracked next).exec ⟨0, inner.pidMap⟩ = (r, p) ∧
            inner' = { inner with
              marker := some { (marker.sync text (syncCall env inner)).2 with pidMap := p.state }
              tracked := if r = .ok () then next else inner.tracked }) := by
  unfold reconcile at hexec
  rw [exec_ofFun] at hexec
  by_cases hneeds : inner.needsMarker = true
  · rw [if_pos hneeds] at hexec
    right
    cases hensure : ensureMarker env inner with
    | error error =>
        left
        rw [hensure] at hexec
        obtain ⟨rfl, rfl⟩ := Prod.mk.inj hexec
        unfold ensureMarker at hensure
        cases hmarker : inner.marker with
        | some marker => simp [hmarker] at hensure
        | none =>
            simp only [hmarker] at hensure
            cases hattach : env.attach with
            | ok _ => simp [hattach] at hensure
            | error error' =>
                simp only [hattach, Except.error.injEq] at hensure
                exact ⟨hneeds, rfl, ⟨error', rfl, by rw [hensure]⟩, rfl⟩
    | ok marker =>
        right
        refine ⟨hneeds, marker, rfl, ?_⟩
        have hpids := (sync_pidMap text marker (syncCall env inner)).1
        rw [ensureMarker_pidMap hensure] at hpids
        rw [hensure] at hexec
        have hcall : (syncConfigs text env.sync inner.configs inner.destinationPolicies).exec marker =
            marker.sync text (syncCall env inner) := rfl
        dsimp only at hexec
        rw [hcall] at hexec
        rcases hsync : marker.sync text (syncCall env inner) with ⟨error | _, marker'⟩
        · left
          rw [hsync] at hexec
          obtain ⟨rfl, rfl⟩ := Prod.mk.inj hexec
          exact ⟨error, rfl, .inl rfl, rfl⟩
        · rw [hsync] at hexec hpids
          rcases reconcileTracking_cases hpids hexec with ⟨error, hnext, hr, hinner⟩ |
            ⟨next, p, hnext, hretrack, hinner⟩
          · exact .inl ⟨error, hr, .inr ⟨rfl, hnext⟩, hinner⟩
          · exact .inr ⟨next, p, rfl, hnext, hretrack, hinner⟩
  · rw [if_neg hneeds] at hexec
    obtain ⟨rfl, rfl⟩ := Prod.mk.inj hexec
    exact .inl ⟨by simpa using hneeds, rfl, rfl⟩

/-- A rescan that returns replaces the table by the one it arrived at. -/
theorem reconcile_ok_table (hok : (reconcile text env).exec inner = (.ok (), inner')) :
    rescanTable env inner = .ok inner'.tracked := by
  rcases reconcile_cases hok with ⟨hneeds, -, rfl⟩ | ⟨-, -, ⟨error, -, h⟩, -⟩ |
    ⟨-, _, -, ⟨error, h, -⟩ | ⟨next, p, -, hnext, -, rfl⟩⟩
  · exact rescanTable_of_not_needsMarker hneeds
  · cases h
  · cases h
  · simpa using hnext

end rescan

/-! ## Events -/

section events

variable {env : EventEnv} {inner inner' : Inner} {marker : SocketMarker} {pid : UInt32}
  {event : ProcessEvent} {r : Except IoError Unit}

theorem onPidMap_setExcluded (faults : PidFaults) (pid : UInt32) (excluded : Bool)
    (marker : SocketMarker) :
    onPidMap (setExcluded faults pid excluded) marker =
      match faults 0 ⟨pid, excluded⟩ with
      | none => (.ok (), { marker with pidMap := PidOp.apply ⟨pid, excluded⟩ marker.pidMap })
      | some error => (.error error, marker) := by
  unfold onPidMap setExcluded Step.perform
  rw [exec_ofFun]
  cases faults 0 ⟨pid, excluded⟩ <;> rfl

/-- The table loses the process; the pid map loses it too unless the deletion is refused. -/
theorem untrack_cases (hexec : untrack env inner marker pid = (r, inner')) :
    (isExcluded inner.tracked pid = false ∧ r = .ok () ∧
        inner' = { inner with tracked := inner.tracked.erase pid }) ∨
      (isExcluded inner.tracked pid = true ∧ env.pids 0 ⟨pid, false⟩ = none ∧ r = .ok () ∧
        inner' = { inner with
          marker := some { marker with pidMap := marker.pidMap.erase pid }
          tracked := inner.tracked.erase pid }) ∨
      ∃ error, isExcluded inner.tracked pid = true ∧ env.pids 0 ⟨pid, false⟩ = some error ∧
        r = .error error ∧
        inner' = { inner with marker := some marker, tracked := inner.tracked.erase pid } := by
  unfold untrack at hexec
  by_cases hexcluded : isExcluded inner.tracked pid = true
  · rw [if_pos hexcluded, onPidMap_setExcluded] at hexec
    right
    cases hfault : env.pids 0 ⟨pid, false⟩ with
    | none =>
        rw [hfault] at hexec
        obtain ⟨rfl, rfl⟩ := Prod.mk.inj hexec
        exact .inl ⟨hexcluded, rfl, rfl, rfl⟩
    | some error =>
        rw [hfault] at hexec
        obtain ⟨rfl, rfl⟩ := Prod.mk.inj hexec
        exact .inr ⟨error, hexcluded, rfl, rfl, rfl⟩
  · rw [if_neg hexcluded] at hexec
    obtain ⟨rfl, rfl⟩ := Prod.mk.inj hexec
    exact .inl ⟨by simpa using hexcluded, rfl, rfl⟩

/-- Table and pid map change together, or not at all. -/
theorem track_cases {process : TrackedProcess} (hexec : track env inner marker pid process = (r, inner')) :
    (env.pids 0 ⟨pid, process.excluded⟩ = none ∧ r = .ok () ∧
        inner' = { inner with
          marker := some { marker with pidMap := PidOp.apply ⟨pid, process.excluded⟩ marker.pidMap }
          tracked := inner.tracked.insert pid process }) ∨
      ∃ error, env.pids 0 ⟨pid, process.excluded⟩ = some error ∧ r = .error error ∧
        inner' = { inner with marker := some marker } := by
  unfold track at hexec
  rw [onPidMap_setExcluded] at hexec
  cases hfault : env.pids 0 ⟨pid, process.excluded⟩ with
  | none =>
      rw [hfault] at hexec
      obtain ⟨rfl, rfl⟩ := Prod.mk.inj hexec
      exact .inl ⟨rfl, rfl, rfl⟩
  | some error =>
      rw [hfault] at hexec
      obtain ⟨rfl, rfl⟩ := Prod.mk.inj hexec
      exact .inr ⟨error, rfl, rfl, rfl⟩

/-- A forked process inherits the entry of a tracked parent, and is read otherwise. -/
theorem forkedProcess_cases {parent child : UInt32} {process : TrackedProcess}
    (h : forkedProcess env inner parent child = some process) :
    (∃ entry config, inner.tracked[parent]? = some entry ∧
        inner.configs[entry.uid]? = some config ∧
        process = trackedEntry config entry.uid entry.matched) ∨
      inner.tracked[parent]? = none ∧ ∃ info config, env.read child = some info ∧
        inner.configs[info.uid]? = some config ∧
        process = trackedEntry config info.uid (config.isMatch info.identities) := by
  unfold forkedProcess at h
  cases hparent : inner.tracked[parent]? with
  | some entry =>
      simp only [hparent, Option.bind_eq_bind, Option.bind_eq_some_iff, Option.pure_def,
        Option.some.injEq] at h
      obtain ⟨config, hconfig, rfl⟩ := h
      exact .inl ⟨entry, config, rfl, hconfig, rfl⟩
  | none =>
      simp only [hparent, Option.bind_eq_bind, Option.bind_eq_some_iff, Option.pure_def,
        Option.some.injEq] at h
      obtain ⟨info, hread, config, hconfig, rfl⟩ := h
      exact .inr ⟨rfl, info, config, hread, hconfig, rfl⟩

/-- The event takes `pid` out of the table: an exit, or an exec by a user without configuration. -/
def Drops (env : EventEnv) (inner : Inner) (event : ProcessEvent) (pid : UInt32) : Prop :=
  event = .exit pid ∨
    event = .exec pid ∧ ∃ info, env.read pid = some info ∧ inner.configs[info.uid]? = none

/-- Everything an event can do with a marker attached: nothing, drop a process, or track one with
the flag its user's configuration gives. -/
theorem handleEvent_cases (hmarker : inner.marker = some marker)
    (hexec : (handleEvent env event).exec inner = (r, inner')) :
    (r = .ok () ∧ inner' = inner) ∨
      (∃ pid, Drops env inner event pid ∧ untrack env inner marker pid = (r, inner')) ∨
      ∃ pid config uid matched, inner.configs[uid]? = some config ∧
        ((∃ parent, event = .fork parent pid ∧
            forkedProcess env inner parent pid = some (trackedEntry config uid matched)) ∨
          event = .exec pid ∧ ∃ info, env.read pid = some info ∧ info.uid = uid ∧
            matched = (inner.tracked[pid]?.any (·.matched) || config.isMatch info.identities)) ∧
        track env inner marker pid (trackedEntry config uid matched) = (r, inner') := by
  unfold handleEvent at hexec
  rw [exec_ofFun, hmarker] at hexec
  rcases event with ⟨parent, child⟩ | pid | pid
  · cases hforked : forkedProcess env inner parent child with
    | none =>
        simp only [hforked] at hexec
        obtain ⟨rfl, rfl⟩ := Prod.mk.inj hexec
        exact .inl ⟨rfl, rfl⟩
    | some process =>
        simp only [hforked] at hexec
        have hprocess : ∃ config uid matched, inner.configs[uid]? = some config ∧
            process = trackedEntry config uid matched := by
          rcases forkedProcess_cases hforked with ⟨entry, config, -, hconfig, rfl⟩ |
            ⟨-, info, config, -, hconfig, rfl⟩
          · exact ⟨config, _, _, hconfig, rfl⟩
          · exact ⟨config, _, _, hconfig, rfl⟩
        obtain ⟨config, uid, matched, hconfig, rfl⟩ := hprocess
        exact .inr (.inr ⟨child, config, uid, matched, hconfig, .inl ⟨parent, rfl, hforked⟩, hexec⟩)
  · cases hread : env.read pid with
    | none =>
        simp only [hread] at hexec
        obtain ⟨rfl, rfl⟩ := Prod.mk.inj hexec
        exact .inl ⟨rfl, rfl⟩
    | some info =>
        simp only [hread] at hexec
        cases hconfig : inner.configs[info.uid]? with
        | none =>
            simp only [hconfig] at hexec
            exact .inr (.inl ⟨pid, .inr ⟨rfl, info, hread, hconfig⟩, hexec⟩)
        | some config =>
            simp only [hconfig] at hexec
            exact .inr (.inr ⟨pid, config, info.uid, _, hconfig,
              .inr ⟨rfl, info, hread, rfl, rfl⟩, hexec⟩)
  · exact .inr (.inl ⟨pid, .inl rfl, hexec⟩)

/-- The table after an event none of whose map operations is refused. -/
def eventTable (env : EventEnv) (inner : Inner) : ProcessEvent → TrackedTable
  | .exit pid => inner.tracked.erase pid
  | .fork parent child =>
    match forkedProcess env inner parent child with
    | some process => inner.tracked.insert child process
    | none => inner.tracked
  | .exec pid =>
    match env.read pid with
    | none => inner.tracked
    | some info =>
      match inner.configs[info.uid]? with
      | none => inner.tracked.erase pid
      | some config =>
        inner.tracked.insert pid (trackedEntry config info.uid
          (inner.tracked[pid]?.any (·.matched) || config.isMatch info.identities))

/-- The process an event is about. -/
def ProcessEvent.subject : ProcessEvent → UInt32
  | .fork _ child => child
  | .exec pid => pid
  | .exit pid => pid

theorem getElem?_insert_of_ne {tracked : TrackedTable} {pid pid' : UInt32}
    {process : TrackedProcess} (h : pid ≠ pid') :
    (tracked.insert pid process)[pid']? = tracked[pid']? := by
  rw [ExtTreeMap.getElem?_insert, if_neg (by simpa using h)]

/-- An event changes the entry of its process only. -/
theorem eventTable_of_ne (h : event.subject ≠ pid) :
    (eventTable env inner event)[pid]? = inner.tracked[pid]? := by
  have herase : ∀ pid' : UInt32, pid' ≠ pid → (inner.tracked.erase pid')[pid]? = inner.tracked[pid]? :=
    fun pid' hne => by rw [ExtTreeMap.getElem?_erase, if_neg (by simpa using hne)]
  rcases event with ⟨parent, child⟩ | pid' | pid'
  · simp only [eventTable]
    cases forkedProcess env inner parent child with
    | none => rfl
    | some process => exact getElem?_insert_of_ne h
  · simp only [eventTable]
    cases env.read pid' with
    | none => rfl
    | some info =>
        simp only
        cases inner.configs[info.uid]? with
        | none => exact herase pid' h
        | some config => exact getElem?_insert_of_ne h
  · exact herase pid' h

theorem untrack_eq (hmarker : inner.marker = some marker) (hpids : ∀ n op, env.pids n op = none) :
    ∃ marker', untrack env inner marker pid =
      (.ok (), { inner with marker := some marker', tracked := inner.tracked.erase pid }) := by
  rcases h : untrack env inner marker pid with ⟨r, inner'⟩
  rcases untrack_cases h with ⟨-, rfl, rfl⟩ | ⟨-, -, rfl, rfl⟩ | ⟨error, -, hfault, -⟩
  · exact ⟨marker, by rw [← hmarker]⟩
  · exact ⟨_, rfl⟩
  · rw [hpids] at hfault
    cases hfault

theorem track_eq {process : TrackedProcess} (hpids : ∀ n op, env.pids n op = none) :
    ∃ marker', track env inner marker pid process =
      (.ok (), { inner with marker := some marker', tracked := inner.tracked.insert pid process }) := by
  rcases h : track env inner marker pid process with ⟨r, inner'⟩
  rcases track_cases h with ⟨-, rfl, rfl⟩ | ⟨error, hfault, -⟩
  · exact ⟨_, rfl⟩
  · rw [hpids] at hfault
    cases hfault

/-- With a marker attached and no refusal an event succeeds and changes the table as it says. -/
theorem handleEvent_eq (hmarker : inner.marker = some marker)
    (hpids : ∀ n op, env.pids n op = none) (event : ProcessEvent) :
    ∃ marker', (handleEvent env event).exec inner =
      (.ok (), { inner with marker := some marker', tracked := eventTable env inner event }) := by
  unfold handleEvent
  rw [exec_ofFun, hmarker]
  rcases event with ⟨parent, child⟩ | pid | pid
  · simp only [eventTable]
    cases forkedProcess env inner parent child with
    | none => exact ⟨marker, by rw [← hmarker]⟩
    | some process => exact track_eq hpids
  · simp only [eventTable]
    cases env.read pid with
    | none => exact ⟨marker, by rw [← hmarker]⟩
    | some info =>
        simp only
        cases inner.configs[info.uid]? with
        | none => exact untrack_eq hmarker hpids
        | some config => exact track_eq hpids
  · exact untrack_eq hmarker hpids

end events

end ProtonVpnOmarchy.Splitd
