import ProtonVpnOmarchy.Agent.Operations.Runs

/-!
# Cancellations

A cancellation attaches to the operation that it cancels, and is remembered only as the stage of that
operation.

* `stage_eq_lastStage` — the stage of an operation is the one that was written last.
* `finish_cancelled_iff` — an operation that was cancelled is recorded so exactly if the stage that
  was written last stands for a cancellation, or its own result does.
* `cancelled_connection_succeeds` — progress of the backend makes the coordinator forget a
  cancellation.
-/

namespace ProtonVpnOmarchy.Agent.Operations

open Lib

/-- The stage that a call writes for an operation. -/
def World.stageFor (world : World) (call : Call) (id : String) : Option String :=
  ((world.stageWritten call).filter fun written => written.1 = id).map (·.2)

/-- The stage that the calls write last for an operation, or the one that it has. -/
def lastStage (id : String) (world : World) (stage : String) : List Call → String
  | [] => stage
  | call :: calls => lastStage id (world.call call) ((world.stageFor call id).getD stage) calls

/-- The operation of an id, if it is active, is at a stage. -/
def StageIs (world : World) (id stage : String) : Prop :=
  ∀ operation ∈ world.active, operation.id = id → operation.stage = stage

section stage

variable {world : World} {records : List OperationRecord} {id : String}

/-- A stage that a call writes is the stage afterwards. -/
theorem stageIs_of_written (h : Accounted world records) (call : Call) {stage : String}
    (hfew : (world.call call).begun.length < 2 ^ 64)
    (hwritten : world.stageFor call id = some stage) : StageIs (world.call call) id stage := by
  have hnodup := (List.nodup_append.mp ((h.call call).nodup hfew)).1
  have heffect := call_effect world call
  revert heffect hnodup
  generalize world.call call = world'
  intro hnodup heffect operation hoperation hid
  unfold World.stageFor at hwritten
  cases heffect with
  | idle hnone hcompleted => simp [hnone] at hwritten
  | @edit call p f target stage' leases hfound hidentity hstage hleases hsome hcompleted =>
      rw [hsome] at hwritten
      obtain ⟨⟨id', stage''⟩, hfilter, rfl⟩ := Option.map_eq_some_iff.mp hwritten
      obtain ⟨heq, htarget⟩ := Option.filter_eq_some_iff.mp hfilter
      obtain ⟨rfl, rfl⟩ := Prod.mk.inj (Option.some.inj heq)
      have hfid : (f target).id = target.id := congrArg (·.1) (hidentity target)
      have hsame : operation = f target := by
        refine List.inj_on_of_nodup_map hnodup hoperation (mem_modifyFirst_of_find? hfound) ?_
        rw [hid, hfid]
        exact (of_decide_eq_true htarget).symm
      rw [hsame, hstage]
  | begin now clientInstanceId method hspec hfree hnone => simp [hnone] at hwritten
  | finish now lease result howns hfound =>
      have hnone : world.stageWritten (.finish now (some lease) result) = none := by
        rcases result with error | _ <;> simp [World.stageWritten, howns]
      simp [hnone] at hwritten

/-- A stage remains while no call writes another one. -/
theorem StageIs.call {stage : String} (hstage : StageIs world id stage)
    (h : Accounted world records) (call : Call) (hfew : (world.call call).begun.length < 2 ^ 64)
    (hid : id ∈ world.begun) (hwritten : world.stageFor call id = none) :
    StageIs (world.call call) id stage := by
  have hbegun := (h.call call).begun
  have heffect := call_effect world call
  revert heffect hbegun hfew
  generalize world.call call = world'
  intro hfew hbegun heffect operation hoperation hoperationId
  unfold World.stageFor at hwritten
  cases heffect with
  | idle hnone hcompleted => exact hstage operation hoperation hoperationId
  | @edit call p f target stage' leases hfound hidentity hstage' hleases hsome hcompleted =>
      have hother : target.id ≠ id := by
        rw [hsome] at hwritten
        simpa using hwritten
      rcases mem_modifyFirst hoperation with hmem | ⟨target', hfound', rfl⟩
      · exact hstage operation hmem hoperationId
      · rw [hfound] at hfound'
        obtain rfl := Option.some.inj hfound'
        have hfid : (f target).id = target.id := congrArg (·.1) (hidentity target)
        exact absurd (hfid.symm.trans hoperationId) hother
  | @begin now clientInstanceId method spec hspec hfree hnone =>
      rcases List.mem_append.mp hoperation with hmem | hmem
      · exact hstage operation hmem hoperationId
      · -- The id of the new operation is not one of those that began before.
        have hnew : operationId world.registry.nextId = id := by
          rw [List.mem_singleton.mp hmem] at hoperationId
          exact hoperationId
        have hnodup := firstIds_nodup hfew
        rw [← hbegun, World.begun_began] at hnodup
        exact absurd hnew.symm ((List.nodup_append.mp hnodup).2.2 id hid _ List.mem_cons_self)
  | finish now lease result howns hfound =>
      exact hstage operation (List.mem_of_mem_eraseP hoperation) hoperationId

end stage

/-- **The stage of an operation is the one that was written last.** -/
theorem stage_eq_lastStage {state : StateSnapshot} (hstate : state.operations = {})
    {before between : List Call} {id stage : String}
    (hfew : (after state (before ++ between)).begun.length < 2 ^ 64)
    (hid : id ∈ (after state before).begun) (hstage : StageIs (after state before) id stage) :
    StageIs (after state (before ++ between)) id
      (lastStage id (after state before) stage between) := by
  induction between generalizing before stage with
  | nil =>
      rw [List.append_nil]
      exact hstage
  | cons call between ih =>
      have happend : before ++ call :: between = before ++ [call] ++ between := by simp
      rw [happend] at hfew ⊢
      have hfewer : ((after state before).call call).begun.length < 2 ^ 64 := by
        rw [← after_concat]
        exact lt_of_le_of_lt (begun_append state _ between).length_le hfew
      unfold lastStage
      rw [← after_concat]
      refine ih hfew ?_ ?_
      · rw [after_concat]
        exact (begun_grows _ call).subset hid
      · rw [after_concat]
        rcases hwritten : (after state before).stageFor call id with _ | stage'
        · exact hstage.call (accounted hstate before) call hfewer hid hwritten
        · exact stageIs_of_written (accounted hstate before) call hfewer hwritten

/-! ## Cancelled operations -/

/-- The requests that cancel an operation. -/
def cancelMethods : List String :=
  ["connection.cancel", "connection.disconnect", "account.cancel_fido2"]

/-- A stage that stands for a requested cancellation. -/
def IsCancelling (stage : String) : Prop :=
  stage ∈ ["tunnel.cancelling", "auth.cancelling_security_key"]

/-- A result that is a cancellation itself. -/
def cancelledResult : Except BackendError Unit → Bool
  | .ok () => false
  | .error error => isCancelledError error.code

/-- A request attaches to a running operation, and gets a lease that does not own it. -/
def Attaches (world : World) (call : Call) (lease : OperationLease) : Prop :=
  ∃ now clientInstanceId method, call = .begin now clientInstanceId method ∧
    method ∈ cancelMethods ∧
    leaseOf (world.coordinator.begin now clientInstanceId method).1 = some lease ∧
    lease.ownsCompletion = false

/-- The stage of the target of a cancellation. -/
def attachedStage (world : World) (call : Call) (lease : OperationLease) : String :=
  (world.stageFor call lease.id).getD ""

theorem exists_of_leaseOf_begin {world : World} {now : UInt64} {clientInstanceId method : String}
    {lease : OperationLease}
    (h : leaseOf (world.coordinator.begin now clientInstanceId method).1 = some lease)
    (howns : lease.ownsCompletion = false) :
    ∃ spec control target, operationSpec method = some spec ∧ spec.control = some control ∧
      world.active.find? (isTarget spec.domain control) = some target ∧
      lease = controlLease control target := by
  have hown : ∀ spec, leaseOf (world.coordinator.beginOwn now clientInstanceId method spec).1 ≠
      some lease := by
    intro spec hlease
    unfold OperationCoordinator.beginOwn at hlease
    dsimp only at hlease
    split at hlease
    · cases hlease
    · rw [← Option.some.inj hlease] at howns
      cases howns
  unfold OperationCoordinator.begin at h
  split at h
  · unfold OperationCoordinator.guardRead at h
    split_ifs at h
    · split at h
      · cases h
      · cases h
    · cases h
  · next spec hspec =>
      split at h
      · exact absurd h (hown spec)
      · next control hcontrol =>
          split at h
          · next target htarget =>
              exact ⟨spec, control, target, hspec, hcontrol, htarget, (Option.some.inj h).symm⟩
          · split_ifs at h
            · cases h
            · exact absurd h (hown spec)

/-- A cancellation writes a stage that stands for it. -/
theorem attaches_spec {world : World} {call : Call} {lease : OperationLease}
    (h : Attaches world call lease) :
    lease.id ∈ world.active.map (·.id) ∧ ∃ stage, world.stageFor call lease.id = some stage ∧
      IsCancelling stage := by
  obtain ⟨now, clientInstanceId, method, rfl, hmethod, hlease, howns⟩ := h
  obtain ⟨spec, control, target, hspec, hcontrol, htarget, rfl⟩ :=
    exists_of_leaseOf_begin hlease howns
  refine ⟨List.mem_map.mpr ⟨target, List.mem_of_find?_eq_some htarget, rfl⟩, control.stage, ?_, ?_⟩
  · simp [World.stageFor, World.stageWritten, hspec, hcontrol, htarget, controlLease]
  · have hall : ∀ method ∈ cancelMethods,
        ((operationSpec method).bind (·.control)).all fun control =>
          control.stage ∈ ["tunnel.cancelling", "auth.cancelling_security_key"] := by
      decide +kernel
    have hstage := hall method hmethod
    rw [hspec, Option.bind_some, hcontrol, Option.all_some] at hstage
    unfold IsCancelling
    exact of_decide_eq_true hstage

/-- How an operation is recorded. -/
theorem state_complete (now : UInt64) (result : Except BackendError Unit)
    (operation : OperationRecord) :
    (complete now result operation).state = .cancelled ↔
      IsCancelling operation.stage ∨ cancelledResult result = true := by
  have hrequested : cancellationRequested operation = true ↔ IsCancelling operation.stage :=
    decide_eq_true_iff
  rw [← hrequested]
  unfold complete cancelledResult
  rcases result with error | _
  · dsimp only
    split_ifs with hcancelled
    · simpa using hcancelled
    · simpa using hcancelled
  · dsimp only
    split_ifs with hcancelled
    · simp [hcancelled]
    · simp [hcancelled]

/-- **A cancellation has attached to an operation, and its owner finishes it after any further calls:
it is recorded as cancelled exactly if the stage that was written last stands for a cancellation, or
its own result does.** -/
theorem finish_cancelled_iff {state : StateSnapshot} (hstate : state.operations = {})
    {before between : List Call} {cancel : Call} {lease : OperationLease} (now : UInt64)
    (result : Except BackendError Unit)
    (hfew : (after state (before ++ [cancel] ++ between)).begun.length < 2 ^ 64)
    (hattaches : Attaches (after state before) cancel lease)
    (hactive : lease.id ∈ (after state (before ++ [cancel] ++ between)).active.map (·.id)) :
    ∃ record, (after state (before ++ [cancel] ++ between ++
        [.finish now (some (ownerLease lease.id)) result])).registry.recent.head? = some record ∧
      record.id = lease.id ∧
      (record.state = .cancelled ↔
        IsCancelling (lastStage lease.id (after state (before ++ [cancel]))
          (attachedStage (after state before) cancel lease) between) ∨
        cancelledResult result = true) := by
  obtain ⟨hbegun, stage, hwritten, -⟩ := attaches_spec hattaches
  have haccounted := accounted hstate before
  have hid : lease.id ∈ (after state (before ++ [cancel])).begun :=
    (begun_append state before [cancel]).subset (haccounted.mem_begun_iff.mpr (.inl hbegun))
  have hattached : StageIs (after state (before ++ [cancel])) lease.id
      (attachedStage (after state before) cancel lease) := by
    rw [attachedStage, hwritten, Option.getD_some, after_concat]
    refine stageIs_of_written haccounted cancel ?_ hwritten
    rw [← after_concat]
    exact lt_of_le_of_lt (begun_append state _ between).length_le hfew
  have hstage := stage_eq_lastStage hstate hfew hid hattached
  obtain ⟨operation, hoperation, hoperationId⟩ := List.mem_map.mp hactive
  rcases hfound : (after state (before ++ [cancel] ++ between)).active.find? (·.id = lease.id) with
    _ | target
  · exact absurd (decide_eq_true hoperationId) (List.find?_eq_none.mp hfound operation hoperation)
  · have htarget : target.id = lease.id := by simpa using List.find?_some hfound
    refine ⟨complete now result target, ?_, ?_, ?_⟩
    · have hcompleted := @completed_of_find _ (ownerLease lease.id) _ now result rfl hfound
      rw [(accounted hstate _).recent, finished_concat, hcompleted]
      rfl
    · rw [id_complete, htarget]
    · rw [state_complete, hstage target (List.mem_of_find?_eq_some hfound) htarget]

/-- The lease of a cancellation of the first connection. -/
def firstCancellation : OperationLease :=
  { id := operationId 1
    ownsCompletion := false
    controlFailureStage := some "tunnel.cancel_failed"
    controlFailureCancelable := true }

def firstConnect : List Call := [.begin 1 "panel" "connection.connect"]

def firstCancel : Call := .begin 2 "menu" "connection.cancel"

theorem attaches_firstCancel : Attaches (after {} firstConnect) firstCancel firstCancellation :=
  ⟨2, "menu", "connection.cancel", rfl, by decide, by decide +kernel, rfl⟩

theorem finish_cancelled_iff_at_once :
    ∃ record, (after {} (firstConnect ++ [firstCancel] ++ [] ++
        [.finish 3 (some (ownerLease (operationId 1))) (.ok ())])).registry.recent.head? =
          some record ∧
      record.id = operationId 1 ∧
      (record.state = .cancelled ↔
        IsCancelling (lastStage (operationId 1) (after {} (firstConnect ++ [firstCancel]))
          (attachedStage (after {} firstConnect) firstCancel firstCancellation) []) ∨
        cancelledResult (.ok ()) = true) :=
  finish_cancelled_iff rfl 3 (.ok ()) (by decide +kernel) attaches_firstCancel (by decide +kernel)

/-- **A connection that was cancelled is recorded as successful after progress of the backend.** -/
theorem cancelled_connection_succeeds :
    ¬ ∀ (state : StateSnapshot) (before between : List Call) (cancel : Call)
      (lease : OperationLease) (now : UInt64) (result : Except BackendError Unit),
      state.operations = {} →
      Run state (before ++ [cancel] ++ between ++
        [.finish now (some (ownerLease lease.id)) result]) →
      (after state (before ++ [cancel] ++ between)).begun.length < 2 ^ 64 →
      Attaches (after state before) cancel lease →
      (∀ now error, .finish now (some lease) (.error error) ∉ between) →
      lease.id ∈ (after state (before ++ [cancel] ++ between)).active.map (·.id) →
      ∃ record, (after state (before ++ [cancel] ++ between ++
          [.finish now (some (ownerLease lease.id)) result])).registry.recent.head? =
            some record ∧
        record.id = lease.id ∧ record.state = .cancelled := by
  intro h
  have hconnect : Run {} firstConnect := .call .start _ trivial
  have hcancel : Run {} (firstConnect ++ [firstCancel]) := .call hconnect _ trivial
  have hprogress : Run {} (firstConnect ++ [firstCancel] ++
      [.updateStage 3 "connection.connect" "tunnel.connecting" (some true)]) :=
    .call hcancel _ trivial
  have hlease : ownerLease (operationId 1) ∈ (after {} (firstConnect ++ [firstCancel] ++
      [.updateStage 3 "connection.connect" "tunnel.connecting" (some true)])).leases := by
    decide +kernel
  obtain ⟨record, hrecord, -, hstate⟩ := h {} firstConnect _ firstCancel firstCancellation 4 (.ok ())
    rfl (.call hprogress _ hlease) (by decide +kernel) attaches_firstCancel (by simp)
    (by decide +kernel)
  have hsucceeded : (after {} (firstConnect ++ [firstCancel] ++
      [.updateStage 3 "connection.connect" "tunnel.connecting" (some true)] ++
      [.finish 4 (some (ownerLease (operationId 1))) (.ok ())])).registry.recent.head?.map
        (·.state) = some .succeeded := by decide +kernel
  have hcancelled := congrArg (Option.map (·.state)) hrecord
  rw [Option.map_some, hstate] at hcancelled
  exact absurd (hsucceeded.symm.trans hcancelled) (by decide)

end ProtonVpnOmarchy.Agent.Operations
