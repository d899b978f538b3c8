import ProtonVpnOmarchy.Agent.Operations.Runs
import ProtonVpnOmarchy.Agent.Tasks.AutoConnect
import ProtonVpnOmarchy.Agent.Tasks.Resume

/-!
# Interruptions by clients

The tasks that connect on their own look for operations of clients in the published lists of active
and recent operations, among those that were not recent at a baseline.

* `takeover_interrupts` — an operation by which another client takes over is found in every later
  snapshot until sixteen operations have finished after it, and no task goes on to connect with such
  a snapshot.
* `takeover_unseen` — a client that announces the name of a task is not found.
-/

namespace ProtonVpnOmarchy.Agent.Tasks

open Lib Operations

/-! ## What remains of an operation -/

/-- The records of an operation, active or finished, have a kind and a client. -/
def Traced (world : World) (records : List OperationRecord) (id kind client : String) : Prop :=
  ∀ operation ∈ world.active ++ records, operation.id = id →
    operation.kind = kind ∧ operation.initiatorClientInstanceId = client

theorem complete_kind (now : UInt64) (result : Except BackendError Unit)
    (operation : OperationRecord) :
    (complete now result operation).kind = operation.kind ∧
      (complete now result operation).initiatorClientInstanceId =
        operation.initiatorClientInstanceId := by
  unfold complete
  rcases result with error | _
  · dsimp only
    split_ifs <;> exact ⟨rfl, rfl⟩
  · dsimp only
    split_ifs <;> exact ⟨rfl, rfl⟩

theorem Traced.call {world : World} {records : List OperationRecord} {id kind client : String}
    (h : Traced world records id kind client) (haccounted : Accounted world records) (call : Call)
    (hfew : (world.call call).begun.length < 2 ^ 64) (hid : id ∈ world.begun) :
    Traced (world.call call) ((world.completed call).toList ++ records) id kind client := by
  have hbegun := (haccounted.call call).begun
  have heffect := call_effect world call
  revert heffect hbegun hfew
  generalize world.call call = world'
  intro hfew hbegun heffect operation hoperation hoperationId
  have hold : ∀ operation ∈ world.active, operation.id = id →
      operation.kind = kind ∧ operation.initiatorClientInstanceId = client :=
    fun operation hmem => h operation (List.mem_append_left _ hmem)
  have hrecords : ∀ operation ∈ records, operation.id = id →
      operation.kind = kind ∧ operation.initiatorClientInstanceId = client :=
    fun operation hmem => h operation (List.mem_append_right _ hmem)
  cases heffect with
  | idle hwritten hcompleted =>
      rw [hcompleted] at hoperation
      exact h operation hoperation hoperationId
  | @edit call p f target stage leases hfound hidentity hstage hleases hwritten hcompleted =>
      rw [hcompleted] at hoperation
      rcases List.mem_append.mp hoperation with hmem | hmem
      · rcases mem_modifyFirst hmem with hmem | ⟨target', hfound', rfl⟩
        · exact hold operation hmem hoperationId
        · have hsame := hidentity target'
          have htarget := hold target' (List.mem_of_find?_eq_some hfound')
            ((congrArg (·.1) hsame).symm.trans hoperationId)
          exact ⟨(congrArg (·.2.2.1) hsame).trans htarget.1,
            (congrArg (·.2.2.2.2) hsame).trans htarget.2⟩
      · exact hrecords operation hmem hoperationId
  | @begin now clientInstanceId method spec hspec hfree hwritten =>
      rcases List.mem_append.mp hoperation with hmem | hmem
      · rcases List.mem_append.mp hmem with hmem | hmem
        · exact hold operation hmem hoperationId
        · have hnew : operationId world.registry.nextId = id := by
            rw [List.mem_singleton.mp hmem] at hoperationId
            exact hoperationId
          have hnodup := firstIds_nodup hfew
          rw [← hbegun, World.begun_began] at hnodup
          exact absurd hnew.symm ((List.nodup_append.mp hnodup).2.2 id hid _ List.mem_cons_self)
      · exact hrecords operation hmem hoperationId
  | @finish now lease result finished howns hfound =>
      rw [completed_of_find now result howns hfound] at hoperation
      rcases List.mem_append.mp hoperation with hmem | hmem
      · exact hold operation (List.mem_of_mem_eraseP hmem) hoperationId
      · rcases List.mem_cons.mp hmem with rfl | hmem
        · rw [id_complete] at hoperationId
          have hfinished := hold finished (List.mem_of_find?_eq_some hfound) hoperationId
          have hkind := complete_kind now result finished
          exact ⟨hkind.1.trans hfinished.1, hkind.2.trans hfinished.2⟩
        · exact hrecords operation hmem hoperationId

/-- A request begins an operation of its own. -/
def Begins (world : World) (call : Call) (client method id : String) : Prop :=
  ∃ now, call = .begin now client method ∧
    leaseOf (world.coordinator.begin now client method).1 = some (ownerLease id)

/-- The operation that a request begins is new, and has the kind and the client of the request. -/
theorem begins_spec {world : World} {records : List OperationRecord} {call : Call}
    {client method id : String} (haccounted : Accounted world records)
    (hfew : (world.call call).begun.length < 2 ^ 64)
    (h : Begins world call client method id) :
    id ∉ world.begun ∧ id ∈ (world.call call).begun ∧
      Traced (world.call call) ((world.completed call).toList ++ records) id method client := by
  obtain ⟨now, rfl, hlease⟩ := h
  have hbegun := (haccounted.call (.begin now client method)).begun
  have hleases : (world.call (.begin now client method)).leases =
      world.leases ++ [ownerLease id] := by
    show world.leases ++ (leaseOf (world.coordinator.begin now client method).1).toList = _
    rw [hlease]
    rfl
  have heffect := call_effect world (.begin now client method)
  revert heffect hbegun hfew hleases
  generalize world.call (.begin now client method) = world'
  intro hfew hbegun hleases heffect
  cases heffect with
  | idle hwritten hcompleted => exact absurd hleases (by simp)
  | edit p f leases hfound hidentity hstage howner hwritten hcompleted =>
      have howns := howner (ownerLease id) (by rw [List.append_cancel_left hleases]; simp)
      exact absurd (show true = false from howns) (by decide)
  | @begin _ _ _ spec hspec hfree hwritten =>
      obtain rfl : operationId world.registry.nextId = id := by
        have hsame := List.append_cancel_left hleases
        exact congrArg (·.id) (List.singleton_inj.mp hsame)
      have hsplit := world.begun_began
        (newOperation now client method spec (operationId world.registry.nextId))
      have hnodup := firstIds_nodup hfew
      rw [← hbegun, hsplit] at hnodup
      have hnew : operationId world.registry.nextId ∉ world.begun := fun hmem =>
        (List.nodup_append.mp hnodup).2.2 _ hmem _ List.mem_cons_self rfl
      refine ⟨hnew, ?_, ?_⟩
      · rw [hsplit]
        exact List.mem_append_right _ List.mem_cons_self
      · intro operation hoperation hoperationId
        have hold : operation ∈ world.active ++ records → False := by
          intro hmem
          refine hnew (haccounted.mem_begun_iff.mpr ?_)
          rw [← hoperationId]
          rcases List.mem_append.mp hmem with hmem | hmem
          · exact .inl (List.mem_map_of_mem hmem)
          · exact .inr (List.mem_map_of_mem hmem)
        rcases List.mem_append.mp hoperation with hmem | hmem
        · rcases List.mem_append.mp hmem with hmem | hmem
          · exact absurd (List.mem_append_left _ hmem) hold
          · rw [List.mem_singleton.mp hmem]
            exact ⟨rfl, rfl⟩
        · exact absurd (List.mem_append_right _ hmem) hold

section run

variable {state : StateSnapshot}

/-- The kind and the client of an operation remain through a run. -/
theorem traced_append (hstate : state.operations = {}) {calls : List Call} {id kind client : String}
    (hid : id ∈ (after state calls).begun)
    (h : Traced (after state calls) (finished state calls) id kind client) (later : List Call)
    (hfew : (after state (calls ++ later)).begun.length < 2 ^ 64) :
    Traced (after state (calls ++ later)) (finished state (calls ++ later)) id kind client := by
  induction later using List.reverseRecOn with
  | nil =>
      rw [List.append_nil]
      exact h
  | append_singleton later call ih =>
      rw [← List.append_assoc] at hfew ⊢
      rw [after_concat] at hfew ⊢
      rw [finished_concat]
      have hfewer : (after state (calls ++ later)).begun.length < 2 ^ 64 :=
        lt_of_le_of_lt (begun_grows _ call).length_le hfew
      refine (ih hfewer).call (accounted hstate _) call hfew ?_
      exact (begun_append state calls later).subset hid

/-- Fewer than sixteen operations have finished after an operation finished. -/
def InRing (state : StateSnapshot) (calls : List Call) (id : String) : Prop :=
  id ∈ (after state calls).active.map (·.id) ∨
    ((finished state calls).takeWhile (·.id ≠ id)).length < RECENT_OPERATION_LIMIT

/-- An operation in the ring is published. -/
theorem exists_published_of_inRing (hstate : state.operations = {}) {calls : List Call} {id : String}
    (hid : id ∈ (after state calls).begun) (hring : InRing state calls id) :
    ∃ operation ∈ (after state calls).coordinator.state.operations.active ++
        (after state calls).coordinator.state.operations.recent,
      operation.id = id ∧
        operation ∈ (after state calls).active ++ finished state calls := by
  have haccounted := accounted hstate calls
  rw [haccounted.published, haccounted.recent]
  by_cases hactive : id ∈ (after state calls).active.map (·.id)
  · obtain ⟨operation, hoperation, hoperationId⟩ := List.mem_map.mp hactive
    exact ⟨operation, List.mem_append_left _ hoperation, hoperationId,
      List.mem_append_left _ hoperation⟩
  · have hnewer := hring.resolve_left hactive
    obtain ⟨record, hrecord, hrecordId⟩ := List.mem_map.mp
      ((haccounted.mem_begun_iff.mp hid).resolve_left hactive)
    -- The records that finished later, and the first one after them.
    have hsplit := List.takeWhile_append_dropWhile (p := fun record : OperationRecord =>
      decide (record.id ≠ id)) (l := finished state calls)
    have hnonempty : (finished state calls).dropWhile (fun record => decide (record.id ≠ id)) ≠ [] := by
      intro hempty
      rw [List.dropWhile_eq_nil_iff] at hempty
      exact of_decide_eq_true (hempty record hrecord) hrecordId
    obtain ⟨first, rest, hrest⟩ := List.exists_cons_of_ne_nil hnonempty
    have hfirst : first.id = id := by
      have hhead := List.head_dropWhile_not (fun record : OperationRecord =>
        decide (record.id ≠ id)) hnonempty
      simp only [hrest, List.head_cons] at hhead
      simpa using hhead
    have hmem : first ∈ (finished state calls).take RECENT_OPERATION_LIMIT := by
      rw [← hsplit, hrest, List.take_append]
      refine List.mem_append_right _ ?_
      obtain ⟨k, hk⟩ := Nat.exists_eq_add_of_lt hnewer
      rw [show RECENT_OPERATION_LIMIT - ((finished state calls).takeWhile
        fun record => decide (record.id ≠ id)).length = k + 1 by omega, List.take_succ_cons]
      exact List.mem_cons_self
    exact ⟨first, List.mem_append_right _ hmem, hfirst,
      List.mem_append_right _ (List.mem_of_mem_take hmem)⟩

/-- A task that has checked a snapshot goes on to connect. -/
def ConnectsOn (initiator : String) (initial : List String) (snapshot : StateSnapshot) : Prop :=
  ∃ n rest params past, lastCheck past = some (initial, snapshot) ∧
    ((initiator = AutoConnect.AUTOCONNECT_CLIENT_ID ∧
        Dialogue.Talks n AutoConnect.run [] rest (⟨.submit params, ()⟩ :: past)) ∨
      (initiator = Resume.LIFECYCLE_CLIENT_ID ∧ ∃ wasActive,
        Dialogue.Talks n (Resume.reconnectAfterResume wasActive) [] rest
          (⟨.submit params, ()⟩ :: past)))

/-- No task goes on to connect with a snapshot in which it was interrupted. -/
theorem not_connectsOn {initiator : String} {initial : List String} {snapshot : StateSnapshot}
    (h : connectionSequenceInterrupted snapshot initial initiator = true) :
    ¬ ConnectsOn initiator initial snapshot := by
  rintro ⟨n, rest, params, past, hcheck, ⟨rfl, htalks⟩ | ⟨rfl, wasActive, htalks⟩⟩
  · obtain ⟨initial', snapshot', hcheck', hclear⟩ := AutoConnect.autoConnect_cleared htalks
    rw [hcheck] at hcheck'
    obtain ⟨rfl, rfl⟩ := Prod.mk.inj (Option.some.inj hcheck')
    rw [h] at hclear
    cases hclear
  · obtain ⟨initial', snapshot', hcheck', hclear⟩ := Resume.resume_cleared htalks
    rw [hcheck] at hcheck'
    obtain ⟨rfl, rfl⟩ := Prod.mk.inj (Option.some.inj hcheck')
    rw [h] at hclear
    cases hclear

/-- **Another client takes over after a baseline: every later snapshot shows the interruption until
sixteen operations have finished after it, and with such a snapshot no task goes on to connect.** -/
theorem takeover_interrupts (hstate : state.operations = {}) {before between later : List Call}
    {call : Call} {client method id initiator : String}
    (hfew : (after state (before ++ between ++ [call] ++ later)).begun.length < 2 ^ 64)
    (hbegins : Begins (after state (before ++ between)) call client method id)
    (hmethod : method ∈ takeoverMethods) (hclient : client ≠ initiator)
    (hring : InRing state (before ++ between ++ [call] ++ later) id) :
    ∀ snapshot : StateSnapshot, snapshot.operations =
        (after state (before ++ between ++ [call] ++ later)).coordinator.state.operations →
      connectionSequenceInterrupted snapshot
          (recentOperationIds (after state before).coordinator.state) initiator = true ∧
        ¬ ConnectsOn initiator (recentOperationIds (after state before).coordinator.state)
          snapshot := by
  intro snapshot hsnapshot
  have hfewer : ((after state (before ++ between)).call call).begun.length < 2 ^ 64 := by
    rw [← after_concat]
    exact lt_of_le_of_lt (begun_append state _ later).length_le hfew
  obtain ⟨hnew, hid, htraced⟩ :=
    begins_spec (accounted hstate (before ++ between)) hfewer hbegins
  rw [← after_concat] at hid
  rw [← after_concat, ← finished_concat] at htraced
  have htraced' := traced_append hstate hid htraced later hfew
  have hid' := (begun_append state (before ++ between ++ [call]) later).subset hid
  obtain ⟨operation, hpublished, hoperationId, hoperation⟩ :=
    exists_published_of_inRing hstate hid' hring
  obtain ⟨hkind, hinitiator⟩ := htraced' operation hoperation hoperationId
  -- The baseline has only operations that began before.
  have hbaseline : id ∉ recentOperationIds (after state before).coordinator.state := by
    intro hmem
    refine hnew ((begun_append state before between).subset ?_)
    have haccounted := accounted hstate before
    refine haccounted.mem_begun_iff.mpr (.inr ?_)
    unfold recentOperationIds at hmem
    rw [haccounted.published, haccounted.recent, List.map_take] at hmem
    exact List.mem_of_mem_take hmem
  have hinterrupted : connectionSequenceInterrupted snapshot
      (recentOperationIds (after state before).coordinator.state) initiator = true := by
    unfold connectionSequenceInterrupted
    rw [hsnapshot, List.any_eq_true]
    refine ⟨operation, hpublished, ?_⟩
    unfold interrupts
    rw [hoperationId, hkind, hinitiator]
    simp [hbaseline, hclient, hmethod]
  exact ⟨hinterrupted, not_connectsOn hinterrupted⟩

end run

/-- A name that `hello` accepts for a client. -/
def IsInstanceId (client : String) : Prop :=
  client ≠ "" ∧ client.utf8ByteSize ≤ 128 ∧
    client.toList.all (fun c => c.isAlphanum || c ∈ ['.', '_', ':', '-']) = true

def firstDisconnect (client : String) : Call := .begin 1 client "connection.disconnect"

theorem begins_disconnect (client : String) :
    Begins (after {} ([] ++ [])) (firstDisconnect client) client "connection.disconnect"
      (operationId 1) := ⟨1, rfl, rfl⟩

/-- The state after the tunnel is closed from the panel. -/
def disconnectedFromPanel : StateSnapshot :=
  (after {} ([] ++ [] ++ [firstDisconnect "panel"] ++ [])).coordinator.state

theorem takeover_interrupts_disconnect :
    connectionSequenceInterrupted disconnectedFromPanel
        (recentOperationIds (after {} []).coordinator.state) AutoConnect.AUTOCONNECT_CLIENT_ID =
          true ∧
      ¬ ConnectsOn AutoConnect.AUTOCONNECT_CLIENT_ID
        (recentOperationIds (after {} []).coordinator.state) disconnectedFromPanel :=
  have hfew : (after {} ([] ++ [] ++ [firstDisconnect "panel"] ++ [])).begun.length < 2 ^ 64 := by
    decide +kernel
  have hactive : operationId 1 ∈
      (after {} ([] ++ [] ++ [firstDisconnect "panel"] ++ [])).active.map (·.id) := by
    decide +kernel
  takeover_interrupts rfl hfew (begins_disconnect "panel") (by decide) (by decide) (.inl hactive)
    disconnectedFromPanel rfl

/-- **A client that announces the name of the auto-connect task disconnects, and the task does not see
it.** -/
theorem takeover_unseen :
    ¬ ∀ (state : StateSnapshot) (before between later : List Call) (call : Call)
      (client method id initiator : String),
      state.operations = {} → Run state (before ++ between ++ [call] ++ later) →
      (after state (before ++ between ++ [call] ++ later)).begun.length < 2 ^ 64 →
      IsInstanceId client → Begins (after state (before ++ between)) call client method id →
      method ∈ takeoverMethods →
      initiator ∈ [AutoConnect.AUTOCONNECT_CLIENT_ID, Resume.LIFECYCLE_CLIENT_ID] →
      connectionSequenceInterrupted
        (after state (before ++ between ++ [call] ++ later)).coordinator.state
        (recentOperationIds (after state before).coordinator.state) initiator = true := by
  intro h
  have hrun : Run {} ([] ++ [] ++ [firstDisconnect "agent-autoconnect"] ++ []) :=
    .call .start _ trivial
  have hfew : (after {} ([] ++ [] ++ [firstDisconnect "agent-autoconnect"] ++ [])).begun.length <
      2 ^ 64 := by decide +kernel
  have hid : IsInstanceId "agent-autoconnect" := ⟨by decide, by decide +kernel, by decide +kernel⟩
  have hseen := h {} [] [] [] _ _ _ _ AutoConnect.AUTOCONNECT_CLIENT_ID rfl hrun hfew hid
    (begins_disconnect "agent-autoconnect") (by decide) (by decide)
  have hunseen : connectionSequenceInterrupted
      (after {} ([] ++ [] ++ [firstDisconnect "agent-autoconnect"] ++ [])).coordinator.state
        (recentOperationIds (after {} []).coordinator.state)
        AutoConnect.AUTOCONNECT_CLIENT_ID = false := by decide +kernel
  exact absurd (hunseen.symm.trans hseen) (by decide)

end ProtonVpnOmarchy.Agent.Tasks
