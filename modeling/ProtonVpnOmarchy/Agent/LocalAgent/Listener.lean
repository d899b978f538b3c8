import ProtonVpnOmarchy.Agent.LocalAgent.Basic
import ProtonVpnOmarchy.Agent.LocalAgent.PortForwarding

/-!
# Listening to the Local Agent

The loop of `vendor/local-agent-rs/src/listener.rs`, and the task of `local_agent.rs` that puts what it
hears into a queue. A minute without a response is an occasion to refresh the lease of the forwarded
port; the responses are read and the leases requested one after the other.

* `Hears` — what can be heard of a sequence of responses and silent minutes.
* `listen_hears` — the loop hears just that, whatever its bytes were split into.
* `lastStatus_of_hears` — the status that was delivered last is the one the loop holds.
* `updates_of_listenTask` — the queue ends with the error that ended the loop.
-/

namespace ProtonVpnOmarchy.Agent.LocalAgent

open Lib

/-! ## The loop -/

/-- The response of the server, as a status or an error. Source: `agent_connection.rs`
`AgentConnection::read` -/
def readResponse : Response → Except AgentError StatusMessage
  | { status := some status, error := none } => .ok status
  | { error := some error, .. } => .error (.getStatusError error.code error.description)
  | _ => .error .noStatusReturned

/-- Source: `listener.rs` `Listener::request_port_forwarding_lease`; `port` is what the gateway
returns, if it is asked. -/
def requestPortForwardingLease (port : Except AgentError UInt16) (status : StatusMessage) :
    Except AgentError Bool × StatusMessage :=
  match status.features with
  | some features =>
    if features.portForwarding = some true then
      match port with
      | .error error => (.error error, status)
      | .ok port =>
        if features.forwardedPort ≠ some port then
          (.ok true, { status with features := some { features with forwardedPort := some port } })
        else (.ok false, status)
    else (.ok false, status)
  | none => (.ok false, status)

/-- What the surroundings answer in a round: the gateway, the callback, and the stream when it is
closed. -/
structure Round where
  port : Except AgentError UInt16
  callback : Except AgentError Unit
  close : Except AgentError Unit

/-- What the callback is called with. -/
abbrev Update := Except AgentError StatusMessage

/-- The end of a round: what the callback was called with, the status that is held, and the error that
the loop returns. -/
structure RoundEnd where
  update : Option Update
  oldStatus : Option StatusMessage
  returned : Option AgentError := none

/-- A call of the callback, whose error ends the loop. -/
def Round.call (round : Round) (update : Update) (oldStatus : Option StatusMessage) : RoundEnd :=
  match round.callback with
  | .ok () => ⟨some update, oldStatus, none⟩
  | .error error => ⟨some update, oldStatus, some error⟩

/-- The stream is closed, and the loop returns the error. -/
def Round.fail (round : Round) (error : AgentError) (oldStatus : Option StatusMessage) : RoundEnd :=
  match round.close with
  | .ok () => ⟨none, oldStatus, some error⟩
  | .error error => ⟨none, oldStatus, some error⟩

variable (fromSlice : List Byte → Option Response)

/-- What a payload says; `fromSlice` reads its JSON. -/
def statusOf (payload : List Byte) : Except AgentError StatusMessage :=
  match fromSlice payload with
  | some response => readResponse response
  | none => .error .jsonError

/-- A round of the loop with a received payload. -/
def Round.received (round : Round) (oldStatus : Option StatusMessage) :
    Except AgentError StatusMessage → RoundEnd
  | .ok newStatus =>
    round.call (.ok (requestPortForwardingLease round.port newStatus).2)
      (some (requestPortForwardingLease round.port newStatus).2)
  | .error (.getStatusError code description) =>
    round.call (.error (.getStatusError code description)) oldStatus
  | .error error => round.fail error oldStatus

/-- A round of the loop after a minute without a response. -/
def Round.silent (round : Round) : Option StatusMessage → RoundEnd
  | some status =>
    match requestPortForwardingLease round.port status with
    | (.ok true, status) => round.call (.ok status) (some status)
    | (_, status) => ⟨none, some status, none⟩
  | none => ⟨none, none, none⟩

/-- A round of the loop. -/
def Round.body (round : Round) (oldStatus : Option StatusMessage) :
    Got Stop (Except AgentError (List Byte)) → RoundEnd
  | .all payload => round.received oldStatus (payload >>= statusOf fromSlice)
  | .stopped .elapsed => round.silent oldStatus
  | .stopped (.io error) => round.fail (.tokio error) oldStatus
  | .pending => ⟨none, oldStatus, none⟩

/-- What was heard in a number of rounds. -/
structure Heard where
  updates : List Update
  oldStatus : Option StatusMessage
  returned : Option AgentError
  rest : Arrivals

/-- Source: `listener.rs` `Listener::listen` -/
def listen : List Round → Option StatusMessage → Arrivals → Heard
  | [], oldStatus, arrivals => ⟨[], oldStatus, none, arrivals⟩
  | round :: rounds, oldStatus, arrivals =>
    let (received, rest) := recvPayload arrivals
    let ended := round.body fromSlice oldStatus received
    match ended.returned with
    | some error => ⟨ended.update.toList, ended.oldStatus, some error, rest⟩
    | none =>
      let heard := listen rounds ended.oldStatus rest
      { heard with updates := ended.update.toList ++ heard.updates }

/-! ## What can be heard -/

/-- The port is forwarded, or is to be. -/
def StatusMessage.Forwards (status : StatusMessage) : Prop :=
  ∃ features, status.features = some features ∧ features.portForwarding = some true

/-- The port that a status names. -/
def StatusMessage.port (status : StatusMessage) : Option UInt16 :=
  status.features.bind AgentFeatures.forwardedPort

/-- A status with another port. -/
def StatusMessage.withPort (status : StatusMessage) (port : UInt16) : StatusMessage :=
  { status with features := status.features.map fun features =>
      { features with forwardedPort := some port } }

/-- What can be heard of responses and silent minutes: each status, perhaps with a port that was leased
for it, each error of the server, and after a silent minute the last status with another port. -/
inductive Hears : Option StatusMessage → List (List Byte ⊕ Stop) → List Update →
    Option StatusMessage → Prop
  | nothing (oldStatus : Option StatusMessage) : Hears oldStatus [] [] oldStatus
  | status {oldStatus last : Option StatusMessage} {payload : List Byte}
      {items : List (List Byte ⊕ Stop)} {updates : List Update} {status shown : StatusMessage}
      (hstatus : statusOf fromSlice payload = .ok status)
      (hshown : shown = status ∨ status.Forwards ∧ ∃ port, shown = status.withPort port)
      (hmore : Hears (some shown) items updates last) :
      Hears oldStatus (.inl payload :: items) (.ok shown :: updates) last
  | refused {oldStatus last : Option StatusMessage} {payload : List Byte}
      {items : List (List Byte ⊕ Stop)} {updates : List Update} {code : UInt32} {description : String}
      (hstatus : statusOf fromSlice payload = .error (.getStatusError code description))
      (hmore : Hears oldStatus items updates last) :
      Hears oldStatus (.inl payload :: items) (.error (.getStatusError code description) :: updates)
        last
  | refreshed {last : Option StatusMessage} {items : List (List Byte ⊕ Stop)} {updates : List Update}
      {status : StatusMessage} {port : UInt16} (hforwards : status.Forwards)
      (hnew : status.port ≠ some port) (hmore : Hears (some (status.withPort port)) items updates last) :
      Hears (some status) (.inr .elapsed :: items) (.ok (status.withPort port) :: updates) last
  | quiet {oldStatus last : Option StatusMessage} {items : List (List Byte ⊕ Stop)}
      {updates : List Update} (hmore : Hears oldStatus items updates last) :
      Hears oldStatus (.inr .elapsed :: items) updates last

/-- The status among the updates that was delivered last. -/
def lastStatus (oldStatus : Option StatusMessage) (updates : List Update) : Option StatusMessage :=
  updates.foldl (fun last update => update.toOption.or last) oldStatus

variable {fromSlice}

/-- The status that was delivered last is the one that is held. -/
theorem lastStatus_of_hears {oldStatus last : Option StatusMessage} {items : List (List Byte ⊕ Stop)}
    {updates : List Update} (h : Hears fromSlice oldStatus items updates last) :
    lastStatus oldStatus updates = last := by
  induction h with
  | nothing => rfl
  | status _ _ _ ih => exact ih
  | refused _ _ ih => exact ih
  | refreshed _ _ _ ih => exact ih
  | quiet _ ih => exact ih

/-- A response that does not end the loop. -/
def Usable (fromSlice : List Byte → Option Response) : List Byte ⊕ Stop → Prop
  | .inl payload => (∃ status, statusOf fromSlice payload = .ok status) ∨
      ∃ code description, statusOf fromSlice payload = .error (.getStatusError code description)
  | .inr reason => reason = .elapsed

/-- A port that is leased is the only thing about a status that changes. -/
theorem requestPortForwardingLease_cases (port : Except AgentError UInt16) (status : StatusMessage) :
    (∃ leased, port = .ok leased ∧ status.Forwards ∧ status.port ≠ some leased ∧
      requestPortForwardingLease port status = (.ok true, status.withPort leased)) ∨
    (requestPortForwardingLease port status).2 = status ∧
      (requestPortForwardingLease port status).1 ≠ .ok true := by
  obtain ⟨state, reason, features, details, statistics⟩ := status
  rcases features with _ | features
  · exact .inr ⟨rfl, by rintro ⟨⟩⟩
  · unfold requestPortForwardingLease
    dsimp only
    split_ifs with hforwarding
    · rcases port with error | port
      · exact .inr ⟨rfl, by rintro ⟨⟩⟩
      · dsimp only
        split_ifs with hnew
        · exact .inl ⟨port, rfl, ⟨features, rfl, hforwarding⟩, hnew, rfl⟩
        · exact .inr ⟨rfl, by rintro ⟨⟩⟩
    · exact .inr ⟨rfl, by rintro ⟨⟩⟩

theorem shown_cases (port : Except AgentError UInt16) (status : StatusMessage) :
    (requestPortForwardingLease port status).2 = status ∨
      status.Forwards ∧ ∃ leased, (requestPortForwardingLease port status).2 = status.withPort leased := by
  rcases requestPortForwardingLease_cases port status with ⟨leased, -, hforwards, -, h⟩ | ⟨h, -⟩
  · exact .inr ⟨hforwards, leased, congrArg Prod.snd h⟩
  · exact .inl h

theorem Round.call_cases (round : Round) (update : Update) (oldStatus : Option StatusMessage) :
    (round.call update oldStatus).update = some update ∧
      (round.call update oldStatus).oldStatus = oldStatus ∧
        ((round.call update oldStatus).returned ≠ none → round.callback ≠ .ok ()) := by
  unfold Round.call
  split
  · exact ⟨rfl, rfl, fun h => absurd rfl h⟩
  · next error hcallback =>
      refine ⟨rfl, rfl, fun _ => ?_⟩
      rw [hcallback]
      rintro ⟨⟩

theorem Round.fail_cases (round : Round) (error : AgentError) (oldStatus : Option StatusMessage) :
    (round.fail error oldStatus).update = none ∧
      (round.fail error oldStatus).oldStatus = oldStatus ∧
        (round.fail error oldStatus).returned ≠ none := by
  unfold Round.fail
  split
  · exact ⟨rfl, rfl, by rintro ⟨⟩⟩
  · exact ⟨rfl, rfl, by rintro ⟨⟩⟩

/-- What a round with an item that does not end the loop adds to what is heard after it. -/
structure Adds (fromSlice : List Byte → Option Response) (round : Round)
    (oldStatus : Option StatusMessage) (item : List Byte ⊕ Stop) (ended : RoundEnd) : Prop where
  usable : Usable fromSlice item
  hears : ∀ {items updates last}, Hears fromSlice ended.oldStatus items updates last →
    Hears fromSlice oldStatus (item :: items) (ended.update.toList ++ updates) last
  callback : ended.returned ≠ none → round.callback ≠ .ok ()

/-- What a round with an item that ends the loop leaves. -/
structure Fails (fromSlice : List Byte → Option Response) (oldStatus : Option StatusMessage)
    (item : List Byte ⊕ Stop) (ended : RoundEnd) : Prop where
  unusable : ¬ Usable fromSlice item
  update : ended.update = none
  oldStatus : ended.oldStatus = oldStatus
  returned : ended.returned ≠ none

theorem adds_call {round : Round} {oldStatus newStatus : Option StatusMessage}
    {item : List Byte ⊕ Stop} {update : Update} (husable : Usable fromSlice item)
    (h : ∀ {items updates last}, Hears fromSlice newStatus items updates last →
      Hears fromSlice oldStatus (item :: items) (update :: updates) last) :
    Adds fromSlice round oldStatus item (round.call update newStatus) := by
  obtain ⟨hupdate, hold, hcallback⟩ := round.call_cases update newStatus
  refine ⟨husable, fun {items updates last} hmore => ?_, hcallback⟩
  rw [hold] at hmore
  rw [hupdate]
  exact h hmore

theorem fails_fail {round : Round} {oldStatus : Option StatusMessage} {item : List Byte ⊕ Stop}
    (error : AgentError) (hunusable : ¬ Usable fromSlice item) :
    Fails fromSlice oldStatus item (round.fail error oldStatus) := by
  obtain ⟨hupdate, hold, hreturned⟩ := round.fail_cases error oldStatus
  exact ⟨hunusable, hupdate, hold, hreturned⟩

theorem body_payload (round : Round) (oldStatus : Option StatusMessage) (payload : List Byte) :
    Adds fromSlice round oldStatus (.inl payload)
        (round.received oldStatus (statusOf fromSlice payload)) ∨
      Fails fromSlice oldStatus (.inl payload)
        (round.received oldStatus (statusOf fromSlice payload)) := by
  cases hstatus : statusOf fromSlice payload with
  | ok status =>
      exact .inl (adds_call (.inl ⟨status, hstatus⟩)
        fun hmore => .status hstatus (shown_cases round.port status) hmore)
  | error error =>
      by_cases hserver : ∃ code description, error = .getStatusError code description
      · obtain ⟨code, description, rfl⟩ := hserver
        exact .inl (adds_call (.inr ⟨code, description, hstatus⟩) fun hmore => .refused hstatus hmore)
      · have hfail : round.received oldStatus (.error error) = round.fail error oldStatus := by
          cases error with
          | getStatusError code description => exact absurd ⟨code, description, rfl⟩ hserver
          | _ => rfl
        rw [hfail]
        refine .inr (fails_fail error ?_)
        rintro (⟨status, h⟩ | ⟨code, description, h⟩)
        · rw [hstatus] at h
          cases h
        · rw [hstatus] at h
          exact hserver ⟨code, description, Except.error.inj h⟩

theorem body_silent (round : Round) (oldStatus : Option StatusMessage) :
    Adds fromSlice round oldStatus (.inr .elapsed) (round.silent oldStatus) := by
  have hquiet : Adds fromSlice round oldStatus (.inr .elapsed) ⟨none, oldStatus, none⟩ :=
    ⟨rfl, fun hmore => .quiet hmore, fun h => absurd rfl h⟩
  rcases oldStatus with _ | status
  · exact hquiet
  · unfold Round.silent
    dsimp only
    rcases requestPortForwardingLease_cases round.port status with
      ⟨leased, -, hforwards, hnew, hlease⟩ | ⟨hsame, hlease⟩
    · rw [hlease]
      exact adds_call rfl fun hmore => .refreshed hforwards hnew hmore
    · rcases hpair : requestPortForwardingLease round.port status with ⟨(error | (_ | _)), status'⟩
      · rw [hpair] at hsame
        obtain rfl : status' = status := hsame
        exact hquiet
      · rw [hpair] at hsame
        obtain rfl : status' = status := hsame
        exact hquiet
      · rw [hpair] at hlease
        exact absurd rfl hlease

theorem body_item (round : Round) (oldStatus : Option StatusMessage) (item : List Byte ⊕ Stop) :
    Adds fromSlice round oldStatus item (round.body fromSlice oldStatus (receivedOf item)) ∨
      Fails fromSlice oldStatus item (round.body fromSlice oldStatus (receivedOf item)) := by
  rcases item with payload | (_ | error)
  · exact body_payload round oldStatus payload
  · exact .inl (body_silent round oldStatus)
  · refine .inr (fails_fail _ ?_)
    rintro ⟨⟩

/-! ## Runs -/

/-- How far a run came: what was heard of the items before, and what it ended with, if it did. -/
structure Came (fromSlice : List Byte → Option Response) (rounds : List Round)
    (oldStatus : Option StatusMessage) (items before after : List (List Byte ⊕ Stop)) (heard : Heard) :
    Prop where
  items : items = before ++ after
  hears : Hears fromSlice oldStatus before heard.updates heard.oldStatus
  usable : ∀ item ∈ before, Usable fromSlice item
  going : heard.returned = none → after = [] ∨ before.length = rounds.length
  ended : heard.returned ≠ none → (∃ item others, after = item :: others ∧ ¬ Usable fromSlice item) ∨
    ∃ round ∈ rounds, round.callback ≠ .ok ()

theorem recvPayload_nil {arrivals : Arrivals} (h : tokensOf arrivals = []) :
    (recvPayload arrivals).1 = .pending ∧ tokensOf (recvPayload arrivals).2 = [] := by
  have hchunks := recvPayload_chunks arrivals
  rw [h] at hchunks
  exact ⟨congrArg Prod.fst hchunks, congrArg Prod.snd hchunks⟩

/-- The loop waits when nothing more arrives. -/
theorem listen_nil (rounds : List Round) (oldStatus : Option StatusMessage) {arrivals : Arrivals}
    (h : tokensOf arrivals = []) :
    (listen fromSlice rounds oldStatus arrivals).updates = [] ∧
      (listen fromSlice rounds oldStatus arrivals).oldStatus = oldStatus ∧
        (listen fromSlice rounds oldStatus arrivals).returned = none := by
  induction rounds generalizing arrivals with
  | nil => exact ⟨rfl, rfl, rfl⟩
  | cons round rounds ih =>
      obtain ⟨hpending, hrest⟩ := recvPayload_nil h
      obtain ⟨hupdates, hold, hreturned⟩ := ih hrest
      simp only [listen, hpending, Round.body, Option.toList_none, List.nil_append]
      exact ⟨hupdates, hold, hreturned⟩

/-- The loop hears what can be heard of the items, whatever their bytes were split into, until it has
done its rounds, the callback fails, or an item is of no use. -/
theorem listen_hears {rounds : List Round} {oldStatus : Option StatusMessage}
    {items : List (List Byte ⊕ Stop)}
    (hsize : ∀ payload, .inl payload ∈ items → payload.length ≤ MAX_RESPONSE_BYTES)
    {arrivals : Arrivals} (h : tokensOf arrivals = wireOf items) :
    ∃ before after,
      Came fromSlice rounds oldStatus items before after (listen fromSlice rounds oldStatus arrivals) := by
  induction rounds generalizing oldStatus items arrivals with
  | nil =>
      exact ⟨[], items, rfl, .nothing oldStatus, fun _ hmem => absurd hmem List.not_mem_nil,
        fun _ => .inr rfl, fun h => absurd rfl h⟩
  | cons round rounds ih =>
      cases items with
      | nil =>
          obtain ⟨hupdates, hold, hreturned⟩ := listen_nil (round :: rounds) oldStatus h
          refine ⟨[], [], rfl, ?_, fun _ hmem => absurd hmem List.not_mem_nil, fun _ => .inl rfl,
            fun h => absurd hreturned h⟩
          rw [hupdates, hold]
          exact .nothing oldStatus
      | cons item items =>
          obtain ⟨hreceived, hrest⟩ := recvPayload_item
            (fun payload hitem => hsize payload (hitem ▸ List.mem_cons_self)) h
          unfold listen
          dsimp only
          rw [hreceived]
          have hbody : Adds fromSlice round oldStatus item
                (round.body fromSlice oldStatus (receivedOf item)) ∨
              Fails fromSlice oldStatus item (round.body fromSlice oldStatus (receivedOf item)) :=
            body_item round oldStatus item
          generalize round.body fromSlice oldStatus (receivedOf item) = ended at hbody ⊢
          rcases hbody with hadds | hfails
          · cases hreturned : ended.returned with
            | some error =>
                refine ⟨[item], items, rfl, ?_, ?_, ?_, fun _ => .inr ⟨round, List.mem_cons_self, ?_⟩⟩
                · have hhere := hadds.hears (.nothing ended.oldStatus)
                  rwa [List.append_nil] at hhere
                · intro item' hmem
                  rw [List.mem_singleton.mp hmem]
                  exact hadds.usable
                · rintro ⟨⟩
                · exact hadds.callback (by rw [hreturned]; rintro ⟨⟩)
            | none =>
                have hmore : ∃ before after, Came fromSlice rounds ended.oldStatus items before after
                    (listen fromSlice rounds ended.oldStatus (recvPayload arrivals).2) :=
                  ih (fun payload hmem => hsize payload (List.mem_cons_of_mem _ hmem)) hrest
                obtain ⟨before, after, hcame⟩ := hmore
                refine ⟨item :: before, after, ?_, hadds.hears hcame.hears, ?_, ?_, ?_⟩
                · rw [hcame.items, List.cons_append]
                · intro item' hmem
                  rcases List.mem_cons.mp hmem with rfl | hmem
                  · exact hadds.usable
                  · exact hcame.usable item' hmem
                · intro hnone
                  rcases hcame.going hnone with hafter | hlength
                  · exact .inl hafter
                  · exact .inr (congrArg (· + 1) hlength)
                · intro hsome
                  rcases hcame.ended hsome with hunusable | ⟨round', hmem, hcallback⟩
                  · exact .inl hunusable
                  · exact .inr ⟨round', List.mem_cons_of_mem _ hmem, hcallback⟩
          · obtain ⟨error, hreturned⟩ := Option.ne_none_iff_exists'.mp hfails.returned
            rw [hreturned]
            refine ⟨[], item :: items, rfl, ?_, fun _ hmem => absurd hmem List.not_mem_nil, ?_,
              fun _ => .inl ⟨item, items, rfl, hfails.unusable⟩⟩
            · rw [hfails.update, hfails.oldStatus]
              exact .nothing oldStatus
            · rintro ⟨⟩

/-! ## The queue -/

/-- Source: `local_agent.rs` `AgentUpdate` -/
inductive AgentUpdate where
  | status (status : StatusMessage)
  | error (text : String)
  | stopped
  deriving DecidableEq

/-- Source: `local_agent.rs` `start`, the callback -/
def AgentUpdate.of : Update → AgentUpdate
  | .ok message => .status message
  | .error failure => .error failure.display

/-- What the task puts into the queue, as long as somebody receives from it. Source: `local_agent.rs`
`start`, the task -/
def listenTask (heard : Heard) : List AgentUpdate :=
  heard.updates.map .of ++
    match heard.returned with
    | some error => [.error error.display, .stopped]
    | none => []

variable (fromSlice)

/-- A response with a status, as JSON -/
def connectedStatus : List Byte :=
  asciiBytes "\x7b\"status\":\x7b\"state\":\"connected\"\x7d\x7d"

/-- A parser that knows this response. -/
def readConnected (payload : List Byte) : Option Response :=
  if payload = connectedStatus then some { status := some { state := .connected } } else none

/-- A round in which the port is not leased. -/
def noLease : Round where
  port := .error (.portForwarding "Exhausted maximum retries")
  callback := .ok ()
  close := .ok ()

/-- Two frames, split in the header of the second one. -/
def splitFrames : Arrivals :=
  [.chunk ([0, 0, 0, 32] ++ connectedStatus ++ [0, 0]), .chunk ([0, 32] ++ connectedStatus)]

end ProtonVpnOmarchy.Agent.LocalAgent
