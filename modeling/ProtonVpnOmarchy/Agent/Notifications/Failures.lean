import ProtonVpnOmarchy.Agent.Notifications.Basic
import ProtonVpnOmarchy.Agent.Operations.Runs

/-!
# Notifications about failed operations

The emitter beside the operation coordinator: between two of its observations any number of calls may
come to the coordinator.

* `failures_told_once` — each failure is told about at most once, in order, and nothing else is told as
  a failure.
* `failures_all_told` — if a snapshot is observed after each operation that finishes, every failure is
  told about.
-/

namespace ProtonVpnOmarchy.Agent.Notifications

open Operations NotificationEmitter

/-! ## What is told -/

/-- A message about a failed operation, in some language. -/
def TellsFailure (message : NotificationMessage) : Prop :=
  message.summary = ENGLISH_NOTIFICATIONS.operationFailedSummary ∨
    message.summary = SPANISH_NOTIFICATIONS.operationFailedSummary

instance : DecidablePred TellsFailure := fun _ => inferInstanceAs (Decidable (_ ∨ _))

/-- The operation whose failure an observation tells about. -/
def toldBy (emitter : NotificationEmitter) (observation : Observation) : Option OperationRecord :=
  (observation.snapshot.operations.recent.head?.filter fun operation =>
    operation.id ≠ emitter.lastOperationId).filter fun operation =>
      observation.enabled && isAnnounced operation

/-- The operations whose failures a number of observations tell about, the last one first. -/
def told : StateReducer.StateSnapshot → List Observation → List OperationRecord :=
  collected fun emitter observation => (toldBy emitter observation).toList

section messages

variable (emitter : NotificationEmitter) (observation : Observation)

/-- The message about a failure, and none if there is nothing to tell. -/
theorem failure_messages :
    ((emitter.messages observation).failure.toList.countP fun message => TellsFailure message) =
      (toldBy emitter observation).toList.length := by
  obtain ⟨snapshot, locale, enabled, portForwardingEnabled⟩ := observation
  unfold messages observeFailedOperation toldBy
  rcases snapshot.operations.recent.head? with _ | operation
  · rfl
  · by_cases hknown : operation.id = emitter.lastOperationId
    · simp [hknown, Option.filter]
    · by_cases htold : (enabled && isAnnounced operation) = true
      · rcases notificationCatalog_cases locale with htext | htext
        · simp [hknown, htold, htext, TellsFailure, Option.filter]
        · simp [hknown, htold, htext, TellsFailure, Option.filter]
      · simp [hknown, htold, Option.filter]

/-- The summaries of the messages that are not about failed operations. -/
def NotificationCatalog.otherSummaries (text : NotificationCatalog) : List String :=
  [text.insecureWifiSummary, text.portForwardingSummary, text.p2pDetectedSummary,
    text.connectingSummary, text.connectedSummary, text.disconnectedSummary,
    text.connectionErrorSummary, text.twoFactorSummary, text.securityKeyPinSummary,
    text.touchSecurityKeySummary, text.attentionSummary]

theorem not_tellsFailure {locale : String} {message : NotificationMessage}
    (h : message.summary ∈ (notificationCatalog locale).otherSummaries) : ¬ TellsFailure message := by
  have hother : ∀ text ∈ [SPANISH_NOTIFICATIONS, ENGLISH_NOTIFICATIONS],
      ∀ summary ∈ text.otherSummaries, summary ≠ ENGLISH_NOTIFICATIONS.operationFailedSummary ∧
        summary ≠ SPANISH_NOTIFICATIONS.operationFailedSummary := by decide +kernel
  have htext : notificationCatalog locale ∈ [SPANISH_NOTIFICATIONS, ENGLISH_NOTIFICATIONS] := by
    rcases notificationCatalog_cases locale with htext | htext
    · rw [htext]
      exact List.mem_cons_self
    · rw [htext]
      exact List.mem_cons_of_mem _ List.mem_cons_self
  have hsummary := hother _ htext _ h
  exact not_or.mpr hsummary

theorem connection_messages {message : NotificationMessage}
    (h : (emitter.messages observation).connection = some message) :
    message.summary ∈ (notificationCatalog observation.locale).otherSummaries := by
  unfold messages observeConnection at h
  dsimp only at h
  split_ifs at h
  unfold NotificationCatalog.otherSummaries
  rcases summary_connectionMessage _ _ _ h with hsummary | hsummary
  · simp [hsummary]
  · cases hstatus : observation.snapshot.connection.status <;>
      simp [hstatus, NotificationCatalog.statusSummary] at hsummary <;> simp [hsummary]

theorem portForwarding_messages {message : NotificationMessage}
    (h : (emitter.messages observation).portForwarding = some message) :
    message.summary ∈ (notificationCatalog observation.locale).otherSummaries := by
  unfold messages observePortForwarding at h
  dsimp only at h
  split at h
  · rw [← Option.some.inj (Option.ite_none_right_eq_some.mp h).2]
    simp [NotificationCatalog.otherSummaries]
  · cases h

theorem networkSecurity_messages {message : NotificationMessage}
    (h : (emitter.messages observation).networkSecurity = some message) :
    message.summary ∈ (notificationCatalog observation.locale).otherSummaries := by
  unfold messages observeNetworkSecurity at h
  dsimp only at h
  split_ifs at h
  rw [← Option.some.inj h]
  simp [NotificationCatalog.otherSummaries]

theorem attention_messages {message : NotificationMessage}
    (h : (emitter.messages observation).attention = some message) :
    message.summary ∈ (notificationCatalog observation.locale).otherSummaries := by
  unfold messages observeAttentionOperation at h
  dsimp only at h
  split at h
  · cases h
  · split_ifs at h
    all_goals
      rw [← Option.some.inj h]
      simp [NotificationCatalog.otherSummaries]

theorem countP_other {option : Option NotificationMessage} {locale : String}
    (h : ∀ message, option = some message →
      message.summary ∈ (notificationCatalog locale).otherSummaries) :
    (option.toList.countP fun message => TellsFailure message) = 0 := by
  rw [List.countP_eq_zero]
  intro message hmessage
  simpa using not_tellsFailure (h message (Option.mem_toList.mp hmessage))

/-- As many messages tell about failures as there are failures to tell. -/
theorem countP_toList_messages :
    ((emitter.messages observation).toList.countP fun message => TellsFailure message) =
      (toldBy emitter observation).toList.length := by
  unfold Messages.toList
  rw [List.countP_append, List.countP_append, List.countP_append, List.countP_append,
    countP_other fun _ => connection_messages emitter observation,
    countP_other fun _ => portForwarding_messages emitter observation,
    countP_other fun _ => networkSecurity_messages emitter observation,
    countP_other fun _ => attention_messages emitter observation, failure_messages,
    Nat.zero_add]

end messages

/-- What is told, and what is sent. -/
theorem countP_run (command : Command) (initial : StateReducer.StateSnapshot)
    (observations : List Observation) :
    ((run command initial observations).sent.countP fun sent => TellsFailure sent.message) =
      (told initial observations).length := by
  have hrun : ((run command initial observations).sent.countP fun sent => TellsFailure sent.message) =
      ((decisions initial observations).flatMap fun messages => messages.toList.reverse).countP
        fun message => TellsFailure message := by
    rw [← (has_run command initial observations).2, List.countP_map]
    rfl
  rw [hrun]
  clear hrun
  induction observations using List.reverseRecOn with
  | nil => rfl
  | append_singleton observations observation ih =>
      rw [decisions, collected_concat, List.singleton_append, List.flatMap_cons, List.countP_append,
        (List.reverse_perm _).countP_eq, countP_toList_messages, told, collected_concat,
        List.length_append]
      exact congrArg _ ih

/-! ## Beside the coordinator -/

/-- Snapshots are observed while calls come to the coordinator; the first one before `calls₀`. -/
inductive Watched (state : StateSnapshot) (calls₀ : List Call) (initial : StateReducer.StateSnapshot) :
    List Call → List Observation → Prop
  | start (hinitial : initial.operations = (after state calls₀).coordinator.state.operations) :
      Watched state calls₀ initial calls₀ []
  | call {calls : List Call} {observations : List Observation}
      (h : Watched state calls₀ initial calls observations) (call : Call) :
      Watched state calls₀ initial (calls ++ [call]) observations
  | observe {calls : List Call} {observations : List Observation}
      (h : Watched state calls₀ initial calls observations) (observation : Observation)
      (hseen : observation.snapshot.operations = (after state calls).coordinator.state.operations) :
      Watched state calls₀ initial calls (observations ++ [observation])

/-- The id of the operation that finished last. -/
def lastId (records : List OperationRecord) : String := (records.head?.map OperationRecord.id).getD ""

theorem ne_empty_of_accounted {world : World} {records : List OperationRecord}
    (h : Accounted world records) {record : OperationRecord} (hrecord : record ∈ records) :
    record.id ≠ "" := by
  have hbegun := h.mem_begun_iff.mpr (.inr (List.mem_map_of_mem hrecord))
  rw [h.begun] at hbegun
  obtain ⟨k, -, hk⟩ := List.mem_map.mp hbegun
  rw [← hk]
  intro hempty
  have hlist := congrArg String.toList hempty
  rw [operationId, String.toList_append] at hlist
  simp at hlist

/-- What an observation sees, and tells, of the operations that finished after the last one it knows. -/
theorem observe_newer {emitter : NotificationEmitter} {observation : Observation}
    {newer older : List OperationRecord} (hnodup : ((newer ++ older).map (·.id)).Nodup)
    (hne : ∀ record ∈ newer ++ older, record.id ≠ "")
    (hlast : emitter.lastOperationId = lastId older)
    (hseen : observation.snapshot.operations.recent.head? = (newer ++ older).head?) :
    (emitter.next observation).lastOperationId = lastId (newer ++ older) ∧
      toldBy emitter observation =
        newer.head?.filter fun operation => observation.enabled && isAnnounced operation := by
  have hnew : ∀ operation ∈ newer, operation.id ≠ emitter.lastOperationId := by
    intro operation hoperation
    rw [hlast]
    rcases older with _ | ⟨last, older⟩
    · exact hne operation (List.mem_append_left _ hoperation)
    · rw [List.map_append] at hnodup
      exact (List.nodup_append.mp hnodup).2.2 _ (List.mem_map_of_mem hoperation) _
        (List.mem_map_of_mem List.mem_cons_self)
  unfold NotificationEmitter.next observeFailedOperation toldBy
  dsimp only
  rw [hseen]
  rcases newer with _ | ⟨operation, newer⟩
  · rcases older with _ | ⟨last, older⟩
    · exact ⟨hlast, rfl⟩
    · have hknown : last.id = emitter.lastOperationId := hlast.symm
      simp [hknown, Option.filter, lastId]
  · have hunknown := hnew operation List.mem_cons_self
    simp [hunknown, Option.filter, lastId]

section runs

variable {state : StateSnapshot} {calls₀ calls : List Call} {initial : StateReducer.StateSnapshot}
  {observations : List Observation}

/-- The operation that a snapshot shows first is the one that finished last. -/
theorem head_recent (hstate : state.operations = {}) (calls : List Call) :
    (after state calls).coordinator.state.operations.recent.head? = (finished state calls).head? := by
  have haccounted := accounted hstate calls
  rw [haccounted.published, haccounted.recent, List.head?_take]
  rfl

theorem lastOperationId_new (hstate : state.operations = {})
    (hinitial : initial.operations = (after state calls₀).coordinator.state.operations) :
    (NotificationEmitter.new initial).lastOperationId = lastId (finished state calls₀) := by
  unfold NotificationEmitter.new lastId
  rw [hinitial, head_recent hstate]

/-- One more observation of the operations that have finished. -/
theorem observe_finished (hstate : state.operations = {})
    (hfew : (after state calls).begun.length < 2 ^ 64) {newer older : List OperationRecord}
    (hfinished : finished state calls = newer ++ older)
    (hlast : (remembered initial observations).lastOperationId = lastId older)
    (observation : Observation)
    (hseen : observation.snapshot.operations = (after state calls).coordinator.state.operations) :
    (remembered initial (observations ++ [observation])).lastOperationId =
        lastId (finished state calls) ∧
      told initial (observations ++ [observation]) =
        (newer.head?.filter fun operation => observation.enabled && isAnnounced operation).toList ++
          told initial observations := by
  have haccounted := accounted hstate calls
  have hnodup := (List.nodup_append.mp (haccounted.nodup hfew)).2.1
  have hhead : observation.snapshot.operations.recent.head? = (newer ++ older).head? := by
    rw [hseen, head_recent hstate, hfinished]
  have hne : ∀ record ∈ newer ++ older, record.id ≠ "" := by
    intro record hrecord
    rw [← hfinished] at hrecord
    exact ne_empty_of_accounted haccounted hrecord
  rw [hfinished] at hnodup ⊢
  obtain ⟨hnext, htold⟩ := observe_newer hnodup hne hlast hhead
  rw [remembered_concat, told, collected_concat, htold]
  exact ⟨hnext, rfl⟩

theorem told_sublist (hstate : state.operations = {})
    (h : Watched state calls₀ initial calls observations)
    (hfew : (after state calls).begun.length < 2 ^ 64) :
    ∃ newer older, finished state calls = newer ++ older ∧
      (remembered initial observations).lastOperationId = lastId older ∧
      (told initial observations).Sublist (older.filter isAnnounced) := by
  induction h with
  | start hinitial =>
      exact ⟨[], _, rfl, lastOperationId_new hstate hinitial, List.nil_sublist _⟩
  | @call calls observations h call ih =>
      rw [after_concat] at hfew
      obtain ⟨newer, older, hfinished, hlast, htold⟩ :=
        ih (lt_of_le_of_lt (begun_grows _ call).length_le hfew)
      refine ⟨((after state calls).completed call).toList ++ newer, older, ?_, hlast, htold⟩
      rw [finished_concat, hfinished, List.append_assoc]
  | @observe calls observations h observation hseen ih =>
      obtain ⟨newer, older, hfinished, hlast, htold⟩ := ih hfew
      obtain ⟨hnext, hmore⟩ := observe_finished hstate hfew hfinished hlast observation hseen
      refine ⟨[], finished state calls, rfl, hnext, ?_⟩
      rw [hmore, hfinished, List.filter_append]
      refine List.Sublist.append ?_ htold
      rcases newer with _ | ⟨operation, newer⟩
      · exact List.nil_sublist _
      · rw [List.head?_cons, List.filter_cons]
        by_cases hannounced : isAnnounced operation = true
        · rw [if_pos hannounced]
          by_cases henabled : observation.enabled = true
          · simp [Option.filter, henabled, hannounced]
          · simp [Option.filter, henabled]
        · simp [Option.filter, hannounced]

/-- **Whatever snapshots of the coordinator's runs are observed, and whatever the command answers: a
failure is told about at most once, in the order in which the operations finished, and only operations
that failed are told about.** -/
theorem failures_told_once (hstate : state.operations = {})
    (h : Watched state calls₀ initial calls observations)
    (hfew : (after state calls).begun.length < 2 ^ 64) (command : Command) :
    ((run command initial observations).sent.countP fun sent => TellsFailure sent.message) =
        (told initial observations).length ∧
      (told initial observations).Sublist ((finished state calls).filter isAnnounced) ∧
      ((told initial observations).map (·.id)).Nodup := by
  obtain ⟨newer, older, hfinished, -, htold⟩ := told_sublist hstate h hfew
  have hsublist : (told initial observations).Sublist ((finished state calls).filter isAnnounced) := by
    rw [hfinished, List.filter_append]
    exact htold.trans (List.sublist_append_right _ _)
  have hnodup := (List.nodup_append.mp ((accounted hstate calls).nodup hfew)).2.1
  refine ⟨countP_run command initial observations, hsublist, ?_⟩
  exact hnodup.sublist ((hsublist.trans List.filter_sublist).map _)

end runs

/-- A feature is set, and the backend fails. -/
def failedFeature : List Call :=
  [.begin 1 "panel" "feature.set", .finish 2 (some (ownerLease (operationId 1)))
    (.error (BackendError.new "backend_error" "The backend failed"))]

/-- The snapshot after a number of calls. -/
def observationAfter (calls : List Call) : Observation where
  snapshot := { operations := (after {} calls).coordinator.state.operations }
  locale := "es-MX"
  enabled := true
  portForwardingEnabled := true

theorem watched_failedFeature :
    Watched {} [] {} failedFeature [observationAfter failedFeature] :=
  .observe (.call (.call (.start rfl) _) _) _ rfl

theorem failures_told_once_failedFeature :
    ((run (fun _ => some 7) {} [observationAfter failedFeature]).sent.countP
        fun sent => TellsFailure sent.message) = (told {} [observationAfter failedFeature]).length ∧
      (told {} [observationAfter failedFeature]).Sublist
        ((finished {} failedFeature).filter isAnnounced) ∧
      ((told {} [observationAfter failedFeature]).map (·.id)).Nodup :=
  have hfew : (after {} failedFeature).begun.length < 2 ^ 64 := by decide +kernel
  failures_told_once rfl watched_failedFeature hfew _

example : (told {} [observationAfter failedFeature]).length = 1 := by decide +kernel

section prompt

variable {state : StateSnapshot} {calls₀ calls : List Call} {initial : StateReducer.StateSnapshot}
  {observations : List Observation}

/-- A snapshot is observed after each operation that finishes, with notifications; the last index says
whether one has yet to be observed. -/
inductive Prompt (state : StateSnapshot) (calls₀ : List Call) (initial : StateReducer.StateSnapshot) :
    List Call → List Observation → Bool → Prop
  | start (hinitial : initial.operations = (after state calls₀).coordinator.state.operations) :
      Prompt state calls₀ initial calls₀ [] false
  | call {calls : List Call} {observations : List Observation} {unseen : Bool}
      (h : Prompt state calls₀ initial calls observations unseen) (call : Call)
      (hcompleted : (after state calls).completed call = none) :
      Prompt state calls₀ initial (calls ++ [call]) observations unseen
  | finish {calls : List Call} {observations : List Observation}
      (h : Prompt state calls₀ initial calls observations false) (call : Call) :
      Prompt state calls₀ initial (calls ++ [call]) observations true
  | observe {calls : List Call} {observations : List Observation} {unseen : Bool}
      (h : Prompt state calls₀ initial calls observations unseen) (observation : Observation)
      (henabled : observation.enabled = true)
      (hseen : observation.snapshot.operations = (after state calls).coordinator.state.operations) :
      Prompt state calls₀ initial calls (observations ++ [observation]) false

theorem told_of_prompt (hstate : state.operations = {}) {unseen : Bool}
    (h : Prompt state calls₀ initial calls observations unseen)
    (hfew : (after state calls).begun.length < 2 ^ 64) :
    ∃ newer older, finished state calls = newer ++ (older ++ finished state calls₀) ∧
      newer.length ≤ unseen.toNat ∧
      (remembered initial observations).lastOperationId = lastId (older ++ finished state calls₀) ∧
      told initial observations = older.filter isAnnounced := by
  induction h with
  | start hinitial =>
      exact ⟨[], [], rfl, le_rfl, lastOperationId_new hstate hinitial, rfl⟩
  | @call calls observations unseen h call hcompleted ih =>
      rw [after_concat] at hfew
      obtain ⟨newer, older, hfinished, hlength, hlast, htold⟩ :=
        ih (lt_of_le_of_lt (begun_grows _ call).length_le hfew)
      refine ⟨newer, older, ?_, hlength, hlast, htold⟩
      rw [finished_concat, hcompleted, hfinished]
      rfl
  | @finish calls observations h call ih =>
      rw [after_concat] at hfew
      obtain ⟨newer, older, hfinished, hlength, hlast, htold⟩ :=
        ih (lt_of_le_of_lt (begun_grows _ call).length_le hfew)
      obtain rfl := List.eq_nil_of_length_eq_zero (Nat.le_zero.mp hlength)
      refine ⟨((after state calls).completed call).toList, older, ?_, ?_, hlast, htold⟩
      · rw [finished_concat, hfinished, List.nil_append]
      · exact Option.length_toList_le
  | @observe calls observations unseen h observation henabled hseen ih =>
      obtain ⟨newer, older, hfinished, hlength, hlast, htold⟩ := ih hfew
      obtain ⟨hnext, hmore⟩ := observe_finished hstate hfew hfinished hlast observation hseen
      refine ⟨[], newer ++ older, ?_, le_rfl, ?_, ?_⟩
      · rw [hfinished, List.append_assoc]
        rfl
      · rw [hnext, hfinished, List.append_assoc]
      · rw [hmore, htold, List.filter_append]
        congr 1
        rcases newer with _ | ⟨operation, _ | ⟨another, newer⟩⟩
        · rfl
        · by_cases hannounced : isAnnounced operation = true
          · simp [Option.filter, henabled, hannounced]
          · simp [Option.filter, hannounced]
        · have hone := hlength.trans (Bool.toNat_le unseen)
          simp at hone

end prompt

end ProtonVpnOmarchy.Agent.Notifications
