import ProtonVpnOmarchy.Agent.Operations.Basic
import ProtonVpnOmarchy.Lib.Dialogue

/-!
# Tasks that connect on their own

The auto-connect task and the recovery after a resume, as dialogues with the rest of the agent: they
read the published state and the preference of the store, and submit requests. Every read and every
reply is an answer that the rest of the agent is free to choose.
-/

namespace ProtonVpnOmarchy.Agent.Tasks

open Lib Operations

/-- How a wait ends. -/
inductive Wake where
  | changed
  | closed
  | elapsed
  deriving DecidableEq

/-- What a task asks of the rest of the agent. -/
inductive Query where
  /-- `store.auto_connect_enabled()` -/
  | autoConnectEnabled
  /-- `state_rx.borrow().account.status` -/
  | accountStatus
  /-- `state_rx.borrow().connection.status` -/
  | connectionStatus
  /-- `recent_operation_ids(&state_rx.borrow())` -/
  | recentOperations
  /-- The snapshot that `connection_sequence_interrupted` is asked about. -/
  | check (initial : List String)
  /-- `state_rx.changed()` and the snapshot after it, which is compared with the same baseline. -/
  | changed (initial : List String)
  /-- The request `account.get` -/
  | accountGet
  /-- The request `connection.observe` -/
  | observe
  /-- The request `connection.resolve` of the store -/
  | resolve (params : Value)
  /-- The request `connection.connect` is sent. -/
  | submit (params : Value)
  /-- Its reply -/
  | reply
  /-- The request `recents.record` of the store, whose reply is ignored -/
  | record (recent : Value)
  /-- The next change of the state, or the end of a sleep -/
  | wait (seconds : ℕ)

abbrev Query.Answer : Query → Type
  | .autoConnectEnabled => Bool
  | .accountStatus => AccountStatus
  | .connectionStatus => ConnectionStatus
  | .recentOperations => List String
  | .check _ => StateSnapshot
  | .changed _ => Option StateSnapshot
  | .accountGet => Except BackendError Value
  | .observe => Except BackendError Value
  | .resolve _ => Except BackendError Value
  | .submit _ => Unit
  | .reply => Except BackendError Value
  | .record _ => Unit
  | .wait _ => Wake

abbrev Task := Dialogue Query Query.Answer

abbrev Event := Dialogue.Event Query Query.Answer

/-- Ask a question. -/
abbrev ask (query : Query) : Task query.Answer := Dialogue.answer query

section rules

variable {rely safe : List Event → Prop} {past : List Event} {α : Type}
  {post : α → List Event → Prop}

/-- The rule for a question that is followed by the rest of a task. -/
theorem keeps_answer (hclosed : Dialogue.Closed rely) {query : Query}
    {next : query.Answer → Task α} (hsafe : safe past)
    (h : ∀ answer, rely (⟨query, answer⟩ :: past) →
      Dialogue.Keeps rely safe (next answer) (⟨query, answer⟩ :: past) post) :
    Dialogue.Keeps rely safe (ask query >>= next) past post :=
  Dialogue.keeps_ask hclosed hsafe h

end rules

/-! ## Checks before a request -/

/-- The last check of a history: the baseline and the snapshot. -/
def lastCheck : List Event → Option (List String × StateSnapshot)
  | [] => none
  | ⟨.check initial, snapshot⟩ :: _ => some (initial, snapshot)
  | _ :: past => lastCheck past

/-- A request is submitted only if the last check of the task for an interruption found none. -/
def Cleared (initiator : String) : List Event → Prop
  | ⟨.submit _, _⟩ :: past =>
    ∃ initial snapshot, lastCheck past = some (initial, snapshot) ∧
      connectionSequenceInterrupted snapshot initial initiator = false
  | _ => True

end ProtonVpnOmarchy.Agent.Tasks
