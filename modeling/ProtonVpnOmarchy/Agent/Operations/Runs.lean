import ProtonVpnOmarchy.Agent.Operations.Basic

/-!
# Runs of the coordinator

The calls of the coordinator one after the other, each `finish` with a lease that `begin` has given
out before. Leases may be used in any order, and more than once.

* `call_effect` — what a call can do: nothing, change the stage of an operation, begin one, or finish
  one through its lease.
* `Accounted` — what holds after every run.
-/

namespace ProtonVpnOmarchy.Agent.Operations

open Lib

inductive Call where
  | begin (now : UInt64) (clientInstanceId method : String)
  | finish (now : UInt64) (lease : Option OperationLease) (result : Except BackendError Unit)
  | updateStage (now : UInt64) (method stage : String) (cancelable : Option Bool)
  | updateDomainStage (now : UInt64) (domain : OperationDomain) (stage : String)
      (cancelable : Option Bool)

/-- The coordinator and the leases that it has given out. -/
structure World where
  coordinator : OperationCoordinator
  leases : List OperationLease := []

/-- The lease that `begin` gives out. -/
def leaseOf : BeginResult → Option OperationLease
  | .ok lease => lease
  | .error _ => none

namespace World

def start (state : StateSnapshot) : World := { coordinator := .new state }

abbrev registry (world : World) : OperationRegistry := world.coordinator.registry

abbrev active (world : World) : List OperationRecord := world.registry.active

def call (world : World) : Call → World
  | .begin now clientInstanceId method =>
    let begun := world.coordinator.begin now clientInstanceId method
    { coordinator := begun.2, leases := world.leases ++ (leaseOf begun.1).toList }
  | .finish now lease result =>
    { world with coordinator := world.coordinator.finish now lease result }
  | .updateStage now method stage cancelable =>
    { world with coordinator := world.coordinator.updateStage now method stage cancelable }
  | .updateDomainStage now domain stage cancelable =>
    { world with coordinator := world.coordinator.updateDomainStage now domain stage cancelable }

/-- The record of the operation that a call finishes. -/
def completed (world : World) : Call → Option OperationRecord
  | .finish now (some lease) result =>
    if lease.ownsCompletion then
      (world.active.find? (·.id = lease.id)).map (complete now result)
    else none
  | _ => none

/-- An active operation is changed. -/
def edited (world : World) (p : OperationRecord → Bool) (f : OperationRecord → OperationRecord)
    (leases : List OperationLease) : World where
  coordinator := world.coordinator.publish
    { world.registry with active := modifyFirst p f world.active }
  leases := world.leases ++ leases

/-- An operation begins. -/
def began (world : World) (operation : OperationRecord) : World where
  coordinator := world.coordinator.publish
    { world.registry with
      nextId := world.registry.nextId + 1
      active := world.active ++ [operation] }
  leases := world.leases ++ [ownerLease operation.id]

/-- An operation is taken off the active ones. -/
def left (world : World) (id : String) (record : OperationRecord) : World where
  coordinator := world.coordinator.publish
    { world.registry with
      active := world.active.eraseP (·.id = id)
      recent := (record :: world.registry.recent).take RECENT_OPERATION_LIMIT }
  leases := world.leases

/-- The operation whose stage a call writes, and the stage. -/
def stageWritten (world : World) : Call → Option (String × String)
  | .begin _ _ method => do
    let spec ← operationSpec method
    let control ← spec.control
    let target ← world.active.find? (isTarget spec.domain control)
    return (target.id, control.stage)
  | .finish _ (some lease) (.error _) =>
    if lease.ownsCompletion then none
    else (world.active.find? (·.id = lease.id)).map fun target =>
      (target.id, lease.controlFailureStage.getD "operation.control_failed")
  | .finish _ _ _ => none
  | .updateStage _ method stage _ =>
    if method = "" ∨ 128 < method.utf8ByteSize ∨ stage = "" ∨ 128 < stage.utf8ByteSize then none
    else (world.active.find? fun operation =>
      operation.kind = method && operation.state = .running).map fun target => (target.id, stage)
  | .updateDomainStage _ domain stage _ =>
    if stage = "" ∨ 128 < stage.utf8ByteSize then none
    else (world.active.find? fun operation =>
      operation.domain = domain && operation.state = .running).map fun target => (target.id, stage)

end World

/-- What remains of a record while its operation is active. -/
def identity (operation : OperationRecord) : String × OperationDomain × String × OperationStatus ×
    String :=
  (operation.id, operation.domain, operation.kind, operation.state,
    operation.initiatorClientInstanceId)

/-! ## What a call can do -/

/-- The effect of a call. -/
inductive Effect (world : World) : Call → World → Prop
  | idle {call : Call} (hwritten : world.stageWritten call = none)
      (hcompleted : world.completed call = none) : Effect world call world
  | edit {call : Call} (p : OperationRecord → Bool) (f : OperationRecord → OperationRecord)
      {target : OperationRecord} {stage : String} (leases : List OperationLease)
      (hfound : world.active.find? p = some target)
      (hidentity : ∀ operation, identity (f operation) = identity operation)
      (hstage : ∀ operation, (f operation).stage = stage)
      (hleases : ∀ lease ∈ leases, lease.ownsCompletion = false)
      (hwritten : world.stageWritten call = some (target.id, stage))
      (hcompleted : world.completed call = none) :
      Effect world call (world.edited p f leases)
  | begin (now : UInt64) (clientInstanceId method : String) {spec : OperationSpec}
      (hspec : operationSpec method = some spec)
      (hfree : ∀ active ∈ world.active, domainsConflict spec.domain active.domain = false)
      (hwritten : world.stageWritten (.begin now clientInstanceId method) = none) :
      Effect world (.begin now clientInstanceId method) (world.began
        (newOperation now clientInstanceId method spec (operationId world.registry.nextId)))
  | finish (now : UInt64) (lease : OperationLease) (result : Except BackendError Unit)
      {operation : OperationRecord} (howns : lease.ownsCompletion = true)
      (hfound : world.active.find? (·.id = lease.id) = some operation) :
      Effect world (.finish now (some lease) result)
        (world.left lease.id (complete now result operation))

theorem edit_effect {world : World} {call : Call} {p : OperationRecord → Bool}
    {f : OperationRecord → OperationRecord} {stage : String}
    (hidentity : ∀ operation, identity (f operation) = identity operation)
    (hstage : ∀ operation, (f operation).stage = stage)
    (hwritten : world.stageWritten call =
      (world.active.find? p).map fun target => (target.id, stage))
    (hcompleted : world.completed call = none) :
    Effect world call { world with coordinator := world.coordinator.edit p f } := by
  unfold OperationCoordinator.edit
  rcases hfound : world.coordinator.registry.active.find? p with _ | target
  · rw [hfound] at hwritten
    exact .idle hwritten hcompleted
  · rw [hfound] at hwritten
    have heffect := Effect.edit p f [] hfound hidentity hstage (by simp) hwritten hcompleted
    rwa [World.edited, List.append_nil] at heffect

theorem beginOwn_effect {world : World} {method : String} {spec : OperationSpec} (now : UInt64)
    (clientInstanceId : String) (hspec : operationSpec method = some spec)
    (hwritten : world.stageWritten (.begin now clientInstanceId method) = none)
    {begun : BeginResult × OperationCoordinator}
    (hbegun : begun = world.coordinator.beginOwn now clientInstanceId method spec) :
    Effect world (.begin now clientInstanceId method)
      { coordinator := begun.2, leases := world.leases ++ (leaseOf begun.1).toList } := by
  subst hbegun
  unfold OperationCoordinator.beginOwn
  dsimp only
  rcases hconflict : world.coordinator.registry.active.find? fun active =>
      domainsConflict spec.domain active.domain with _ | active
  · rw [hconflict]
    refine .begin now clientInstanceId method hspec ?_ hwritten
    intro active hactive
    simpa using List.find?_eq_none.mp hconflict active hactive
  · rw [hconflict]
    have heffect : Effect world (.begin now clientInstanceId method) world := .idle hwritten rfl
    simpa [leaseOf] using heffect

theorem begin_effect (world : World) (now : UInt64) (clientInstanceId method : String) :
    Effect world (.begin now clientInstanceId method)
      (world.call (.begin now clientInstanceId method)) := by
  unfold World.call
  dsimp only
  unfold OperationCoordinator.begin
  rcases hspec : operationSpec method with _ | spec
  · have hwritten : world.stageWritten (.begin now clientInstanceId method) = none := by
      simp [World.stageWritten, hspec]
    have hnone : leaseOf (world.coordinator.guardRead method) = none := by
      unfold OperationCoordinator.guardRead
      split_ifs
      · split <;> rfl
      · rfl
    have heffect : Effect world (.begin now clientInstanceId method) world := .idle hwritten rfl
    dsimp only
    rw [hnone]
    simpa using heffect
  · dsimp only
    rcases hcontrol : spec.control with _ | control
    · refine beginOwn_effect now clientInstanceId hspec ?_ rfl
      simp [World.stageWritten, hspec, hcontrol]
    · dsimp only
      rcases hfound : world.coordinator.registry.active.find? (isTarget spec.domain control) with
        _ | target
      · have hwritten : world.stageWritten (.begin now clientInstanceId method) = none := by
          simp [World.stageWritten, hspec, hcontrol, hfound]
        dsimp only
        split_ifs
        · have heffect : Effect world (.begin now clientInstanceId method) world :=
            .idle hwritten rfl
          simpa [leaseOf] using heffect
        · exact beginOwn_effect now clientInstanceId hspec hwritten rfl
      · dsimp only
        unfold OperationCoordinator.edit
        rw [hfound]
        dsimp only
        refine .edit _ _ [controlLease control target] hfound (fun _ => rfl) (fun _ => rfl) ?_ ?_ rfl
        · intro lease hlease
          rw [List.mem_singleton.mp hlease]
          rfl
        · simp [World.stageWritten, hspec, hcontrol, hfound]

theorem finish_effect (world : World) (now : UInt64) (lease : Option OperationLease)
    (result : Except BackendError Unit) :
    Effect world (.finish now lease result) (world.call (.finish now lease result)) := by
  unfold World.call
  dsimp only
  unfold OperationCoordinator.finish
  rcases lease with _ | lease
  · exact .idle (by simp [World.stageWritten]) rfl
  · dsimp only
    rcases howns : lease.ownsCompletion with _ | _
    · have hcompleted : world.completed (.finish now (some lease) result) = none := by
        simp [World.completed, howns]
      rcases result with error | _
      · simp only [Bool.false_eq_true, if_false]
        refine edit_effect (fun _ => rfl) (fun _ => rfl) ?_ hcompleted
        rw [World.stageWritten, howns]
        rfl
      · simp only [Bool.false_eq_true, if_false]
        exact .idle (by simp [World.stageWritten]) hcompleted
    · rw [if_pos rfl]
      have hwritten : world.stageWritten (.finish now (some lease) result) = none := by
        rcases result with error | _ <;> simp [World.stageWritten, howns]
      rcases hfound : world.coordinator.registry.active.find? (·.id = lease.id) with _ | operation
      · rw [hfound]
        refine .idle hwritten ?_
        simp [World.completed, hfound]
      · rw [hfound]
        exact .finish now lease result howns hfound

theorem updateStage_effect (world : World) (now : UInt64) (method stage : String)
    (cancelable : Option Bool) :
    Effect world (.updateStage now method stage cancelable)
      (world.call (.updateStage now method stage cancelable)) := by
  unfold World.call
  dsimp only
  unfold OperationCoordinator.updateStage
  split_ifs with hinvalid
  · exact .idle (by rw [World.stageWritten, if_pos hinvalid]) rfl
  · exact edit_effect (fun _ => rfl) (fun _ => rfl) (by rw [World.stageWritten, if_neg hinvalid]) rfl

theorem updateDomainStage_effect (world : World) (now : UInt64) (domain : OperationDomain)
    (stage : String) (cancelable : Option Bool) :
    Effect world (.updateDomainStage now domain stage cancelable)
      (world.call (.updateDomainStage now domain stage cancelable)) := by
  unfold World.call
  dsimp only
  unfold OperationCoordinator.updateDomainStage
  split_ifs with hinvalid
  · exact .idle (by rw [World.stageWritten, if_pos hinvalid]) rfl
  · exact edit_effect (fun _ => rfl) (fun _ => rfl) (by rw [World.stageWritten, if_neg hinvalid]) rfl

/-- **What a call can do.** -/
theorem call_effect (world : World) (call : Call) : Effect world call (world.call call) := by
  cases call with
  | begin now clientInstanceId method => exact begin_effect world now clientInstanceId method
  | finish now lease result => exact finish_effect world now lease result
  | updateStage now method stage cancelable =>
      exact updateStage_effect world now method stage cancelable
  | updateDomainStage now domain stage cancelable =>
      exact updateDomainStage_effect world now domain stage cancelable

/-! ## Runs -/

/-- The world after a list of calls. -/
def after (state : StateSnapshot) (calls : List Call) : World :=
  calls.foldl World.call (.start state)

/-- The lease of a call has been given out. -/
def Call.HasLease (leases : List OperationLease) : Call → Prop
  | .finish _ (some lease) _ => lease ∈ leases
  | _ => True

/-- The calls can be made one after the other. -/
inductive Run (state : StateSnapshot) : List Call → Prop
  | start : Run state []
  | call {calls : List Call} (h : Run state calls) (call : Call)
      (hlease : call.HasLease (after state calls).leases) : Run state (calls ++ [call])

/-- The ids of the operations that began, in order. -/
def World.begun (world : World) : List String :=
  (world.leases.filter (·.ownsCompletion)).map (·.id)

/-- The operations that a list of calls finishes, the last one first. -/
def finished (state : StateSnapshot) (calls : List Call) : List OperationRecord :=
  (calls.foldl (fun past call => (past.1.call call, (past.1.completed call).toList ++ past.2))
    (World.start state, [])).2

@[simp] theorem after_nil (state : StateSnapshot) : after state [] = .start state := rfl

@[simp] theorem after_concat (state : StateSnapshot) (calls : List Call) (call : Call) :
    after state (calls ++ [call]) = (after state calls).call call := by
  unfold after
  rw [List.foldl_append]
  rfl

@[simp] theorem finished_nil (state : StateSnapshot) : finished state [] = [] := rfl

@[simp] theorem finished_concat (state : StateSnapshot) (calls : List Call) (call : Call) :
    finished state (calls ++ [call]) =
      ((after state calls).completed call).toList ++ finished state calls := by
  have hworld : ∀ (calls : List Call) (world : World) (records : List OperationRecord),
      (calls.foldl (fun past call =>
        (past.1.call call, (past.1.completed call).toList ++ past.2)) (world, records)).1 =
          calls.foldl World.call world := by
    intro calls
    induction calls with
    | nil => exact fun _ _ => rfl
    | cons call calls ih => exact fun world records => ih _ _
  unfold finished after
  rw [List.foldl_append, List.foldl_cons, List.foldl_nil, hworld]

theorem World.begun_began (world : World) (operation : OperationRecord) :
    (world.began operation).begun = world.begun ++ [operation.id] := by
  unfold World.begun World.began
  simp [ownerLease]

theorem begun_grows (world : World) (call : Call) : world.begun <+: (world.call call).begun := by
  have hleases : world.leases <+: (world.call call).leases := by
    cases call with
    | begin now clientInstanceId method => exact List.prefix_append _ _
    | finish now lease result => exact List.prefix_refl _
    | updateStage now method stage cancelable => exact List.prefix_refl _
    | updateDomainStage now domain stage cancelable => exact List.prefix_refl _
  exact (hleases.filter _).map _

/-- Operations that began remain so. -/
theorem begun_append (state : StateSnapshot) (calls calls' : List Call) :
    (after state calls).begun <+: (after state (calls ++ calls')).begun := by
  induction calls' using List.reverseRecOn with
  | nil =>
      rw [List.append_nil]
  | append_singleton calls' call ih =>
      rw [← List.append_assoc, after_concat]
      exact ih.trans (begun_grows _ call)

/-! ## Ids -/

theorem operationId_injective : Function.Injective operationId := by
  intro n m h
  have hhex : Store.hexPadded 16 n.toNat = Store.hexPadded 16 m.toNat := by
    have hlist := congrArg String.toList h
    refine String.toList_inj.mp ?_
    simpa [operationId, String.toList_append] using hlist
  exact UInt64.toNat_inj.mp (Store.hexPadded_injective 16 hhex)

/-- The ids of the first `n` operations. -/
def firstIds (n : ℕ) : List String :=
  (List.range n).map fun k => operationId (UInt64.ofNat (k + 1))

theorem firstIds_succ (n : ℕ) :
    firstIds (n + 1) = firstIds n ++ [operationId (UInt64.ofNat (n + 1))] := by
  simp [firstIds, List.range_succ]

/-- The counter does not come back to an id before it has run through all of them. -/
theorem firstIds_nodup {n : ℕ} (h : n < 2 ^ 64) : (firstIds n).Nodup := by
  refine List.Nodup.map_on ?_ List.nodup_range
  intro j hj k hk heq
  have hnat := congrArg UInt64.toNat (operationId_injective heq)
  rw [UInt64.toNat_ofNat', UInt64.toNat_ofNat'] at hnat
  rw [List.mem_range] at hj hk
  omega

/-! ## What holds after every run -/

/-- The operations that began are those that are active and those that finished. -/
structure Accounted (world : World) (finished : List OperationRecord) : Prop where
  begun : world.begun = firstIds world.begun.length
  next : world.registry.nextId = UInt64.ofNat (world.begun.length + 1)
  owner : ∀ lease ∈ world.leases, lease.ownsCompletion = true → lease = ownerLease lease.id
  ids : (world.active.map (·.id) ++ finished.map (·.id)).Perm world.begun
  apart : world.active.Pairwise fun a b => domainsConflict a.domain b.domain = false
  running : ∀ operation ∈ world.active, operation.state = .running
  recent : world.registry.recent = finished.take RECENT_OPERATION_LIMIT
  published : world.coordinator.state.operations = ⟨world.active, world.registry.recent⟩

theorem domainsConflict_comm (a b : OperationDomain) :
    domainsConflict a b = domainsConflict b a := by
  cases a <;> cases b <;> rfl

theorem id_complete (now : UInt64) (result : Except BackendError Unit)
    (operation : OperationRecord) : (complete now result operation).id = operation.id := by
  unfold complete
  rcases result with error | _
  · dsimp only
    split_ifs <;> rfl
  · dsimp only
    split_ifs <;> rfl

theorem completed_of_find {world : World} {lease : OperationLease} {operation : OperationRecord}
    (now : UInt64) (result : Except BackendError Unit) (howns : lease.ownsCompletion = true)
    (hfound : world.active.find? (·.id = lease.id) = some operation) :
    world.completed (.finish now (some lease) result) = some (complete now result operation) := by
  rw [World.completed, if_pos howns, hfound, Option.map_some]

/-- An operation that a call finishes is active before. -/
theorem exists_of_completed {world : World} {call : Call} {record : OperationRecord}
    (h : world.completed call = some record) :
    ∃ now lease result operation, call = .finish now (some lease) result ∧
      lease.ownsCompletion = true ∧ world.active.find? (·.id = lease.id) = some operation ∧
      record = complete now result operation := by
  unfold World.completed at h
  split at h
  · next now lease result =>
      split_ifs at h with howns
      obtain ⟨operation, hfound, rfl⟩ := Option.map_eq_some_iff.mp h
      exact ⟨now, lease, result, operation, rfl, howns, hfound, rfl⟩
  · cases h

theorem accounted_start {state : StateSnapshot} (hstate : state.operations = {}) :
    Accounted (.start state) [] where
  begun := rfl
  next := rfl
  owner := nofun
  ids := .nil
  apart := .nil
  running := nofun
  recent := rfl
  published := hstate

/-- **What holds after a run holds after one more call.** -/
theorem Accounted.call {world : World} {finished : List OperationRecord}
    (h : Accounted world finished) (call : Call) :
    Accounted (world.call call) ((world.completed call).toList ++ finished) := by
  have heffect := call_effect world call
  revert heffect
  generalize world.call call = world'
  intro heffect
  cases heffect with
  | idle hwritten hcompleted =>
      rw [hcompleted]
      exact h
  | @edit call p f target stage leases hfound hidentity hstage hleases hwritten hcompleted =>
      rw [hcompleted]
      have hbegun : (world.edited p f leases).begun = world.begun := by
        have hnone : leases.filter (·.ownsCompletion) = [] := by
          rw [List.filter_eq_nil_iff]
          intro lease hlease
          simp [hleases lease hlease]
        unfold World.begun World.edited
        dsimp only
        rw [List.filter_append, hnone, List.append_nil]
      have hsame : (modifyFirst p f world.active).map identity = world.active.map identity :=
        map_modifyFirst identity hidentity _
      have hids : (modifyFirst p f world.active).map (·.id) = world.active.map (·.id) :=
        map_modifyFirst (·.id) (fun operation => congrArg (·.1) (hidentity operation)) _
      refine ⟨?_, ?_, ?_, ?_, ?_, ?_, h.recent, rfl⟩
      · rw [hbegun]
        exact h.begun
      · rw [hbegun]
        exact h.next
      · intro lease hlease howns
        rcases List.mem_append.mp hlease with hmem | hmem
        · exact h.owner lease hmem howns
        · rw [hleases lease hmem] at howns
          cases howns
      · rw [hbegun]
        show ((modifyFirst p f world.active).map (·.id) ++ finished.map (·.id)).Perm world.begun
        rw [hids]
        exact h.ids
      · have hapart : ((modifyFirst p f world.active).map identity).Pairwise
            fun a b => domainsConflict a.2.1 b.2.1 = false := by
          rw [hsame]
          exact List.pairwise_map.mpr h.apart
        exact List.pairwise_map.mp hapart
      · refine forall_modifyFirst h.running ?_
        intro operation hrunning
        rw [← hrunning]
        exact congrArg (·.2.2.2.1) (hidentity operation)
  | @begin now clientInstanceId method spec hspec hfree hwritten =>
      have hcompleted : world.completed (.begin now clientInstanceId method) = none := rfl
      rw [hcompleted]
      have hbegun := world.begun_began
        (newOperation now clientInstanceId method spec (operationId world.registry.nextId))
      have hnewId : (newOperation now clientInstanceId method spec
          (operationId world.registry.nextId)).id = operationId world.registry.nextId := rfl
      rw [hnewId] at hbegun
      refine ⟨?_, ?_, ?_, ?_, ?_, ?_, h.recent, rfl⟩
      · rw [hbegun, List.length_append, List.length_singleton, firstIds_succ, ← h.begun, ← h.next]
      · rw [hbegun, List.length_append, List.length_singleton]
        show world.registry.nextId + 1 = _
        rw [h.next, ← UInt64.ofNat_one, ← UInt64.ofNat_add]
      · intro lease hlease howns
        rcases List.mem_append.mp hlease with hmem | hmem
        · exact h.owner lease hmem howns
        · rw [List.mem_singleton.mp hmem]
          rfl
      · rw [hbegun]
        show ((world.active ++ [newOperation now clientInstanceId method spec
          (operationId world.registry.nextId)]).map (·.id) ++ finished.map (·.id)).Perm _
        rw [List.map_append, List.append_assoc]
        refine ((List.perm_append_comm).append_left _).trans ?_
        rw [← List.append_assoc]
        exact h.ids.append_right _
      · rw [show (World.active _) = world.active ++ [newOperation now clientInstanceId method spec
          (operationId world.registry.nextId)] from rfl, List.pairwise_append]
        refine ⟨h.apart, List.pairwise_singleton _ _, ?_⟩
        intro active hactive operation hoperation
        rw [List.mem_singleton.mp hoperation, domainsConflict_comm]
        exact hfree active hactive
      · intro operation hoperation
        rcases List.mem_append.mp hoperation with hmem | hmem
        · exact h.running operation hmem
        · rw [List.mem_singleton.mp hmem]
          rfl
  | @finish now lease result operation howns hfound =>
      have hperm := perm_cons_eraseP hfound
      rw [completed_of_find now result howns hfound]
      refine ⟨h.begun, h.next, h.owner, ?_, ?_, ?_, ?_, rfl⟩
      · refine List.Perm.trans ?_ h.ids
        show ((world.active.eraseP (·.id = lease.id)).map (·.id) ++
          (complete now result operation :: finished).map (·.id)).Perm _
        rw [List.map_cons, id_complete]
        exact List.perm_middle.trans ((hperm.map (·.id)).symm.append_right _)
      · exact h.apart.sublist List.eraseP_sublist
      · intro active hactive
        exact h.running active (List.mem_of_mem_eraseP hactive)
      · show (complete now result operation :: world.registry.recent).take _ =
          (complete now result operation :: finished).take _
        rw [h.recent, RECENT_OPERATION_LIMIT, List.take_succ_cons, List.take_succ_cons,
          List.take_take]
        rfl

/-- The account holds after every list of calls. -/
theorem accounted {state : StateSnapshot} (hstate : state.operations = {}) (calls : List Call) :
    Accounted (after state calls) (finished state calls) := by
  induction calls using List.reverseRecOn with
  | nil => exact accounted_start hstate
  | append_singleton calls call ih =>
      rw [after_concat, finished_concat]
      exact ih.call call

theorem Accounted.nodup {world : World} {records : List OperationRecord}
    (h : Accounted world records) (hfew : world.begun.length < 2 ^ 64) :
    (world.active.map (·.id) ++ records.map (·.id)).Nodup := by
  refine h.ids.nodup_iff.mpr ?_
  rw [h.begun]
  exact firstIds_nodup hfew

/-- An operation that finished does not become active again. -/
theorem Accounted.not_mem_active {world : World} {records : List OperationRecord} {id : String}
    (h : Accounted world records) (hfew : world.begun.length < 2 ^ 64)
    (hid : id ∈ records.map (·.id)) : id ∉ world.active.map (·.id) :=
  fun hactive => (List.disjoint_of_nodup_append (h.nodup hfew)) hactive hid

/-- An operation that began is active or has finished. -/
theorem Accounted.mem_begun_iff {world : World} {records : List OperationRecord} {id : String}
    (h : Accounted world records) :
    id ∈ world.begun ↔ id ∈ world.active.map (·.id) ∨ id ∈ records.map (·.id) := by
  rw [← h.ids.mem_iff, List.mem_append]

end ProtonVpnOmarchy.Agent.Operations
