import ProtonVpnOmarchy.Splitd.ProcEvents
import ProtonVpnOmarchy.Splitd.Engine.Consistency

/-!
# Frames about threads

The kernel reports every thread, and a frame names the thread and its process. The daemon keeps the
process alone, so the end of a thread looks like the end of its process, and the start of a thread
like a new process started by the process's parent.

* `handleFrame_unchanged_iff` — one step: such a frame leaves the table and the pid map as they are
  exactly if it is `Harmless`.
* `thread_frames_harmless` — whole runs: if every such frame is harmless when it arrives, the engine
  ends up as if the kernel reported processes only.
* `thread_exit_untracks` — a run in which a process that is alive is no longer tracked.
-/

namespace ProtonVpnOmarchy.Splitd

open Std (ExtTreeMap ExtTreeSet)
open Lib Lib.Fallible Bpf

/-! ## Handling frames -/

section frames

variable {inner inner' : Inner} {frame : Frame} {env : EventEnv}

/-- The engine handles what the daemon reads off a frame. -/
def handleFrame (inner : Inner) (step : Frame × EventEnv) : Inner :=
  (parseMessages step.1.bytes).foldl
    (fun inner event => ((handleEvent step.2 event).exec inner).2) inner

/-- The engine after a run of frames. -/
def handleFrames (inner : Inner) (steps : List (Frame × EventEnv)) : Inner :=
  steps.foldl handleFrame inner

/-- However the kernel packs the frames into datagrams, the events are the same. -/
theorem parseMessages_datagram (frames : List Frame) :
    parseMessages (frames.flatMap Frame.bytes) =
      frames.flatMap fun frame => parseMessages frame.bytes := by
  rw [parseMessages_frames]
  congr 1
  funext frame
  simpa using (parseMessages_frames [frame]).symm

theorem handleFrame_eq (inner : Inner) (frame : Frame) (env : EventEnv) :
    handleFrame inner (frame, env) = match frame.event.toProcessEvent with
      | some event => ((handleEvent env event).exec inner).2
      | none => inner := by
  have hparse : parseMessages frame.bytes = frame.event.toProcessEvent.toList := by
    simpa using parseMessages_frames [frame]
  unfold handleFrame
  rw [hparse]
  cases frame.event.toProcessEvent with
  | none => rfl
  | some event => rfl

/-- What a process counts as if it were started by `parent` now. -/
def Derived (env : EventEnv) (inner : Inner) (parent pid : UInt32) (process : TrackedProcess) :
    Prop :=
  (∃ entry config, inner.tracked[parent]? = some entry ∧ inner.configs[entry.uid]? = some config ∧
      process = trackedEntry config entry.uid entry.matched) ∨
    inner.tracked[parent]? = none ∧ ∃ info config, env.read pid = some info ∧
      inner.configs[info.uid]? = some config ∧
      process = trackedEntry config info.uid (config.isMatch info.identities)

/-- The thread's process is not tracked when the thread ends; it is tracked already as what its
parent would make of it when a thread starts, or the pid map refuses the change. -/
def KernelEvent.Harmless (env : EventEnv) (inner : Inner) : KernelEvent → Prop
  | .fork _ parent _ tgid _ => inner.marker ≠ none → ∀ process, Derived env inner parent tgid process →
      env.pids 0 ⟨tgid, process.excluded⟩ ≠ none ∨
        inner.tracked[tgid]? = some process ∧
          inner.pidMap[tgid]? = if process.excluded then some 1 else none
  | .exit _ tgid _ => inner.marker ≠ none → inner.tracked[tgid]? = none
  | _ => True

theorem forkedProcess_eq_some_iff {parent child : UInt32} {process : TrackedProcess} :
    forkedProcess env inner parent child = some process ↔
      Derived env inner parent child process := by
  refine ⟨forkedProcess_cases, ?_⟩
  rintro (⟨entry, config, hentry, hconfig, rfl⟩ | ⟨hnone, info, config, hread, hconfig, rfl⟩)
  · simp [forkedProcess, hentry, hconfig]
  · simp [forkedProcess, hnone, hread, hconfig]

theorem insert_eq_self_iff {tracked : TrackedTable} {pid : UInt32} {process : TrackedProcess} :
    tracked.insert pid process = tracked ↔ tracked[pid]? = some process := by
  constructor
  · intro h
    rw [← h, ExtTreeMap.getElem?_insert_self]
  · intro h
    refine ExtTreeMap.ext_getElem? fun other => ?_
    by_cases hpid : pid = other
    · rw [← hpid, ExtTreeMap.getElem?_insert_self, h]
    · exact getElem?_insert_of_ne hpid

theorem PidOp.getElem?_apply (op : PidOp) (map : PidMap) (pid : UInt32) :
    (op.apply map)[pid]? =
      if op.pid = pid then (if op.excluded then some 1 else none) else map[pid]? := by
  unfold PidOp.apply
  by_cases hexcluded : op.excluded = true
  · simp [hexcluded, ExtTreeMap.getElem?_insert]
  · simp [hexcluded, ExtTreeMap.getElem?_erase]

theorem PidOp.apply_eq_self_iff {op : PidOp} {map : PidMap} :
    op.apply map = map ↔ map[op.pid]? = if op.excluded then some 1 else none := by
  constructor
  · intro h
    have hget := op.getElem?_apply map op.pid
    rwa [h, if_pos rfl] at hget
  · intro h
    refine ExtTreeMap.ext_getElem? fun pid => ?_
    rw [op.getElem?_apply]
    by_cases hpid : op.pid = pid
    · rw [if_pos hpid, ← hpid, h]
    · rw [if_neg hpid]

/-- A thread's end is no news about a process that is not tracked, and only then. -/
theorem exit_unchanged_iff {pid : UInt32} :
    (((handleEvent env (.exit pid)).exec inner).2.tracked = inner.tracked ∧
        ((handleEvent env (.exit pid)).exec inner).2.pidMap = inner.pidMap) ↔
      (inner.marker ≠ none → inner.tracked[pid]? = none) := by
  unfold handleEvent
  rw [exec_ofFun]
  cases hmarker : inner.marker with
  | none => simp
  | some marker =>
      rcases hexec : untrack env inner marker pid with ⟨r, inner'⟩
      simp only [ne_eq, reduceCtorEq, not_false_eq_true, forall_const, hexec]
      constructor
      · rintro ⟨htracked, -⟩
        have herase : inner'.tracked = inner.tracked.erase pid := by
          rcases untrack_cases hexec with ⟨-, -, rfl⟩ | ⟨-, -, -, rfl⟩ | ⟨_, -, -, -, rfl⟩
          · rfl
          · rfl
          · rfl
        rw [← htracked, herase, ExtTreeMap.getElem?_erase_self]
      · intro hnone
        have hexcluded : isExcluded inner.tracked pid = false := by
          simp [isExcluded, hnone]
        rcases untrack_cases hexec with ⟨-, -, rfl⟩ | ⟨htrue, -⟩ | ⟨_, htrue, -⟩
        · refine ⟨?_, by simp [Inner.pidMap, hmarker]⟩
          refine ExtTreeMap.ext_getElem? fun other => ?_
          by_cases hpid : pid = other
          · rw [← hpid, ExtTreeMap.getElem?_erase_self, hnone]
          · simp [ExtTreeMap.getElem?_erase, hpid]
        · rw [hexcluded] at htrue
          cases htrue
        · rw [hexcluded] at htrue
          cases htrue

/-- A thread's start is no news about a process that is what its parent would make of it. -/
theorem fork_unchanged_iff {parent child : UInt32} :
    (((handleEvent env (.fork parent child)).exec inner).2.tracked = inner.tracked ∧
        ((handleEvent env (.fork parent child)).exec inner).2.pidMap = inner.pidMap) ↔
      (inner.marker ≠ none → ∀ process, Derived env inner parent child process →
        env.pids 0 ⟨child, process.excluded⟩ ≠ none ∨
          inner.tracked[child]? = some process ∧
            inner.pidMap[child]? = if process.excluded then some 1 else none) := by
  unfold handleEvent
  rw [exec_ofFun]
  cases hmarker : inner.marker with
  | none => simp
  | some marker =>
      simp only [← forkedProcess_eq_some_iff, ne_eq, reduceCtorEq, not_false_eq_true, forall_const]
      cases forkedProcess env inner parent child with
      | none => simp
      | some process =>
          rcases hexec : track env inner marker child process with ⟨r, inner'⟩
          simp only [hexec, Option.some.injEq, forall_eq']
          rcases track_cases hexec with ⟨hfault, -, rfl⟩ | ⟨error, hfault, -, rfl⟩
          · simp only [hfault, not_true_eq_false, false_or, insert_eq_self_iff]
            refine and_congr_right fun _ => ?_
            simp only [Inner.pidMap, hmarker]
            exact PidOp.apply_eq_self_iff
          · simp [hfault, Inner.pidMap, hmarker]

/-- **One step**: a frame about a thread changes nothing exactly if it is harmless. -/
theorem handleFrame_unchanged_iff (hthread : frame.event.OfThread) :
    ((handleFrame inner (frame, env)).tracked = inner.tracked ∧
        (handleFrame inner (frame, env)).pidMap = inner.pidMap) ↔
      frame.event.Harmless env inner := by
  rw [handleFrame_eq]
  rcases hevent : frame.event with _ | _ | _ | _
  · exact fork_unchanged_iff
  · rw [hevent] at hthread
    exact hthread.elim
  · exact exit_unchanged_iff
  · rw [hevent] at hthread
    exact hthread.elim

/-- An event writes the table and the pid map, and nothing else. -/
theorem handleEvent_writes (env : EventEnv) (event : ProcessEvent) {marker : SocketMarker}
    (hmarker : inner.marker = some marker) :
    ∃ pidMap tracked, ((handleEvent env event).exec inner).2 =
      { inner with marker := some { marker with pidMap := pidMap }, tracked := tracked } := by
  have hsame : inner = { inner with marker := some { marker with pidMap := marker.pidMap } } := by
    rw [← hmarker]
  rcases hexec : (handleEvent env event).exec inner with ⟨r, inner'⟩
  rcases handleEvent_cases hmarker hexec with ⟨-, rfl⟩ | ⟨pid, -, huntrack⟩ |
    ⟨pid, config, uid, matched, -, -, htrack⟩
  · exact ⟨_, _, hsame⟩
  · rcases untrack_cases huntrack with ⟨-, -, rfl⟩ | ⟨-, -, -, rfl⟩ | ⟨_, -, -, -, rfl⟩
    · exact ⟨marker.pidMap, _, by rw [← hmarker]⟩
    · exact ⟨_, _, rfl⟩
    · exact ⟨_, _, rfl⟩
  · rcases track_cases htrack with ⟨-, -, rfl⟩ | ⟨_, -, -, rfl⟩
    · exact ⟨_, _, rfl⟩
    · exact ⟨_, _, rfl⟩

/-- A frame that leaves the table and the pid map leaves the engine. -/
theorem handleFrame_eq_self (htracked : (handleFrame inner (frame, env)).tracked = inner.tracked)
    (hpidMap : (handleFrame inner (frame, env)).pidMap = inner.pidMap) :
    handleFrame inner (frame, env) = inner := by
  rw [handleFrame_eq] at htracked hpidMap ⊢
  cases hevent : frame.event.toProcessEvent with
  | none => rfl
  | some event =>
      simp only [hevent] at htracked hpidMap ⊢
      cases hmarker : inner.marker with
      | none =>
          unfold handleEvent
          rw [exec_ofFun, hmarker]
      | some marker =>
          obtain ⟨pidMap, tracked, hwrites⟩ := handleEvent_writes env event hmarker
          rw [hwrites] at htracked hpidMap ⊢
          simp only [Inner.pidMap, hmarker] at htracked hpidMap
          rw [htracked, hpidMap, ← hmarker]

end frames

/-! ## Runs -/

section runs

variable {inner : Inner} {steps : List (Frame × EventEnv)}

/-- Every frame about a thread leaves the table and the pid map as they are. -/
def ThreadsUnnoticed (inner : Inner) (steps : List (Frame × EventEnv)) : Prop :=
  ∀ before frame env after, steps = before ++ (frame, env) :: after → frame.event.OfThread →
    (handleFrames inner (before ++ [(frame, env)])).tracked = (handleFrames inner before).tracked ∧
      (handleFrames inner (before ++ [(frame, env)])).pidMap = (handleFrames inner before).pidMap

/-- Every frame about a thread is harmless when it arrives. -/
def ThreadsHarmless (inner : Inner) (steps : List (Frame × EventEnv)) : Prop :=
  ∀ before frame env after, steps = before ++ (frame, env) :: after → frame.event.OfThread →
    frame.event.Harmless env (handleFrames inner before)

theorem handleFrames_concat (inner : Inner) (steps : List (Frame × EventEnv))
    (step : Frame × EventEnv) :
    handleFrames inner (steps ++ [step]) = handleFrame (handleFrames inner steps) step :=
  List.foldl_concat _ _ _ _

theorem threadsUnnoticed_iff : ThreadsUnnoticed inner steps ↔ ThreadsHarmless inner steps := by
  unfold ThreadsUnnoticed ThreadsHarmless
  refine forall_congr' fun before => forall_congr' fun frame => forall_congr' fun env =>
    forall_congr' fun after => imp_congr_right fun _ => imp_congr_right fun hthread => ?_
  rw [handleFrames_concat]
  exact handleFrame_unchanged_iff hthread

theorem handleFrames_filter (h : ThreadsUnnoticed inner steps) :
    handleFrames inner steps =
      handleFrames inner (steps.filter fun step => ¬ step.1.event.OfThread) := by
  induction steps using List.reverseRecOn with
  | nil => rfl
  | append_singleton steps step ih =>
      obtain ⟨frame, env⟩ := step
      have hsteps : ThreadsUnnoticed inner steps := by
        intro before frame' env' after hsplit
        exact h before frame' env' (after ++ [(frame, env)]) (by rw [hsplit]; simp)
      rw [handleFrames_concat, List.filter_append]
      by_cases hthread : frame.event.OfThread
      · obtain ⟨htracked, hpidMap⟩ := h steps frame env [] rfl hthread
        rw [handleFrames_concat] at htracked hpidMap
        rw [handleFrame_eq_self htracked hpidMap, ih hsteps]
        simp [hthread]
      · rw [ih hsteps]
        simp [hthread, handleFrames_concat]

/-- **Threads go unnoticed exactly in the runs in which every frame about one is harmless**, and
then the engine is where the frames about processes alone would have taken it. -/
theorem thread_frames_harmless (inner : Inner) (steps : List (Frame × EventEnv)) :
    (ThreadsUnnoticed inner steps ↔ ThreadsHarmless inner steps) ∧
      (ThreadsHarmless inner steps → handleFrames inner steps =
        handleFrames inner (steps.filter fun step => ¬ step.1.event.OfThread)) :=
  ⟨threadsUnnoticed_iff, fun h => handleFrames_filter (threadsUnnoticed_iff.mpr h)⟩

/-- A frame that reports the end of the thread `pid` of the process `tgid`. -/
def exitFrame (pid tgid : UInt32) : Frame :=
  { netlink := .replicate 12 0
    connector := .replicate 16 0
    flags := .replicate 2 0
    clock := .replicate 12 0
    event := .exit pid tgid (.replicate 4 0) }

/-- Nothing can be read about a process and nothing is refused. -/
def quietEvent : EventEnv := ⟨fun _ => none, fun _ _ => none⟩

theorem thread_frames_harmless_untracked :
    ThreadsUnnoticed firefoxExcluded [(exitFrame 31 30, quietEvent)] ∧
      ThreadsHarmless firefoxExcluded [(exitFrame 31 30, quietEvent)] := by
  have hharmless : ThreadsHarmless firefoxExcluded [(exitFrame 31 30, quietEvent)] := by
    intro before frame env after hsplit _
    rcases before with _ | ⟨step, before⟩
    · obtain ⟨hstep, -⟩ := List.cons.inj hsplit
      obtain ⟨rfl, rfl⟩ := Prod.mk.inj hstep
      intro _
      exact Option.isNone_iff_eq_none.mp (by decide +kernel)
    · obtain ⟨-, hnil⟩ := List.cons.inj hsplit
      exact absurd hnil.symm (by simp)
  exact ⟨(thread_frames_harmless _ _).1.mpr hharmless, hharmless⟩

/-- A thread of the running application ends: the application is no longer tracked, nor excluded. -/
theorem thread_exit_untracks :
    isExcluded firefoxExcluded.tracked 10 = true ∧ (10 : UInt32) ∈ firefoxExcluded.pidMap ∧
      (exitFrame 12 10).event.OfThread ∧
      isExcluded (handleFrames firefoxExcluded [(exitFrame 12 10, quietEvent)]).tracked 10 = false ∧
      (10 : UInt32) ∉ (handleFrames firefoxExcluded [(exitFrame 12 10, quietEvent)]).pidMap := by
  have hhandle : handleFrames firefoxExcluded [(exitFrame 12 10, quietEvent)] =
      ((handleEvent quietEvent (.exit 10)).exec firefoxExcluded).2 :=
    handleFrame_eq _ _ _
  rw [hhandle]
  exact ⟨by decide +kernel, by decide +kernel, by decide +kernel, by decide +kernel,
    by decide +kernel⟩

end runs

end ProtonVpnOmarchy.Splitd
