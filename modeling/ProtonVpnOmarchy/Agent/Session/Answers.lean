import ProtonVpnOmarchy.Agent.Session.Basic

/-!
# Answers to the requests of a client

Every frame of a client is refused, answered at once or accepted, and then its task answers it.

* `accepted_answered` — whatever arrives in whatever order, a session sends only errors before it
  has answered `hello`, and it has at most 32 requests pending, under different ids. While no task
  panics, a request it has accepted is pending or has exactly one answer, and its id is free again.
* `panicked_unanswered` — the request of a task that panics is never answered and its id is never
  free.
-/

namespace ProtonVpnOmarchy.Agent.Session

/-- A response that reports an error. -/
def IsError : ServerMessage → Prop
  | .response _ _ ok _ _ => ok = false
  | .event .. => False

/-- A response to a request with an id. -/
def Carries (id : String) : ServerMessage → Prop
  | .response _ id' _ _ _ => id' = some id
  | .event .. => False

/-- The response to `hello` of a client. -/
def IsWelcome (message : ServerMessage) : Prop :=
  ∃ (id : String) (params : HelloParams) (clientInstanceId : String),
    message = .success id (helloResult params clientInstanceId)

/-- Nothing but errors, up to a successful `hello`. -/
def Greeted (sent : List Sent) : Prop :=
  ∃ (errors : List Sent) (welcome : Sent) (rest : List Sent), sent = errors ++ welcome :: rest ∧
    (∀ message ∈ errors, IsError message.message) ∧ IsWelcome welcome.message

/-- A task that ends by panicking. -/
def Input.Panics : Input → Prop
  | .completed _ none => True
  | _ => False

theorem carries_completion (id : String) (result : Except BackendError Value) :
    Carries id (completion id result) := by
  cases result with
  | ok result => exact rfl
  | error error => exact rfl

theorem Greeted.append {sent : List Sent} (h : Greeted sent) (more : List Sent) :
    Greeted (sent ++ more) := by
  obtain ⟨errors, welcome, rest, rfl, herrors, hwelcome⟩ := h
  exact ⟨errors, welcome, rest ++ more, by simp, herrors, hwelcome⟩

/-! ## One round -/

section receive

variable (setup : Setup) (session : State)

/-- What a frame leads to: an error, the state, the end of the greeting, or a task. -/
inductive Receives : Reaction → Prop
  | refused {id : Option String} {error : ProtocolError} :
    Receives (.reply session [.response PROTOCOL_VERSION id false none (some error)])
  | state {id : String} {snapshot : Value} (hhello : session.helloComplete = true) :
    Receives (.reply session [.success id snapshot])
  | greeted {id : String} {params : HelloParams} {snapshot : Value}
      (hhello : session.helloComplete = false) :
    Receives (.reply
      { session with
        helloComplete := true
        clientInstanceId := instanceId setup params }
      [.success id (helloResult params (instanceId setup params)),
        .notice "state.snapshot" snapshot])
  | accepted {id : String} (hhello : session.helloComplete = true)
      (hfew : session.pending.length < MAX_PENDING_REQUESTS_PER_CLIENT)
      (hid : id ∉ session.pendingIds) :
    Receives (.accept id)

variable {setup session}

/-- A reply leaves the tasks as they are. -/
theorem Receives.tasks_eq {session' : State} {messages : List ServerMessage}
    (h : Receives setup session (.reply session' messages)) :
    session'.pending = session.pending ∧ session'.pendingIds = session.pendingIds := by
  cases h with
  | refused => exact ⟨rfl, rfl⟩
  | state hhello => exact ⟨rfl, rfl⟩
  | greeted hhello => exact ⟨rfl, rfl⟩

theorem receives_hello (request : RequestEnvelope) (snapshot : Value) :
    Receives setup session (session.hello setup request snapshot) := by
  unfold State.hello
  split_ifs with hhello
  · exact .refused
  · cases setup.helloParams request.params with
    | error error => exact .refused
    | ok params =>
        dsimp only
        split_ifs
        · exact .refused
        · exact .greeted (by simpa using hhello)

theorem receives_spawn (request : RequestEnvelope) (hhello : session.helloComplete = true) :
    Receives setup session (session.spawn request) := by
  unfold State.spawn
  split_ifs with hmany hid
  · exact .refused
  · exact .refused
  · exact .accepted hhello (not_le.mp hmany) hid

theorem receives_receive (line : Except String RequestEnvelope) (snapshot : Value) :
    Receives setup session (session.receive setup line snapshot) := by
  cases line with
  | error error => exact .refused
  | ok request =>
      unfold State.receive State.dispatch
      dsimp only
      split_ifs with htype hversion hid hrequired hhello hget hnative hstore
      · exact .refused
      · exact .refused
      · exact .refused
      · exact .refused
      · exact receives_hello request snapshot
      all_goals
        have hcomplete : session.helloComplete = true := by
          by_contra hnot
          exact hrequired ⟨by simpa using hnot, hhello⟩
      · exact .state hcomplete
      · exact receives_spawn request hcomplete
      · exact receives_spawn request hcomplete
      · exact .refused

end receive

/-- A request that is well formed, for a method that a task runs. -/
structure Runnable (request : RequestEnvelope) : Prop where
  messageType : request.messageType = "request"
  version : request.v = PROTOCOL_VERSION
  id_ne : Splitd.trim request.id ≠ ""
  id_le : request.id.utf8ByteSize ≤ 128
  method : request.method ∈ NATIVE_METHODS ++ STORE_METHODS

/-- A well-formed request is accepted while there is room and its id is free. -/
theorem receive_of_runnable {setup : Setup} {session : State} {request : RequestEnvelope}
    (hrequest : Runnable request) (hhello : session.helloComplete = true)
    (hfew : session.pending.length < MAX_PENDING_REQUESTS_PER_CLIENT)
    (hid : request.id ∉ session.pendingIds) (snapshot : Value) :
    session.receive setup (.ok request) snapshot = .accept request.id := by
  have hspawn : session.spawn request = .accept request.id := by
    unfold State.spawn
    rw [if_neg (not_le.mpr hfew), if_neg hid]
  have hplain : ∀ method ∈ NATIVE_METHODS ++ STORE_METHODS,
      method ≠ "hello" ∧ method ≠ "state.get" := by decide
  obtain ⟨hne, hget⟩ := hplain _ hrequest.method
  unfold State.receive State.dispatch
  simp only [hrequest.messageType, hrequest.version, ne_eq, not_true_eq_false, if_false, hhello,
    Bool.true_eq_false, false_and, hne, hget, hspawn]
  rw [if_neg (by simpa using ⟨hrequest.id_ne, hrequest.id_le⟩)]
  split_ifs with hnative hstore
  · rfl
  · rfl
  · rcases List.mem_append.mp hrequest.method with hmem | hmem
    · exact absurd hmem hnative
    · exact absurd hmem hstore

theorem sendAll_grows (setup : Setup) (room : ℕ) (messages : List Sent) :
    (sendAll setup room messages).1 <+: messages := by
  induction messages generalizing room with
  | nil => rw [sendAll]
  | cons message messages ih =>
      cases room with
      | zero => exact List.nil_prefix
      | succ room =>
          unfold sendAll
          split_ifs
          · exact List.nil_prefix
          · exact (List.prefix_cons_inj message).mpr (ih room)

theorem sendAll_all (setup : Setup) (room : ℕ) (messages : List Sent)
    (h : (sendAll setup room messages).2 = true) :
    (sendAll setup room messages).1 = messages := by
  induction messages generalizing room with
  | nil => rw [sendAll]
  | cons message messages ih =>
      cases room with
      | zero => exact absurd h (by simp [sendAll])
      | succ room =>
          unfold sendAll at h ⊢
          split_ifs at h ⊢
          exact congrArg (message :: ·) (ih room h)

/-- What one round of a running session does. -/
inductive Effect (setup : Setup) (trace : Trace) : Input → Trace → Prop
  | still {input : Input} (running : Bool) :
    Effect setup trace input { trace with running := running }
  | replied {input : Input} {session : State} {messages : List ServerMessage} {kept : List Sent}
      {running : Bool} (hreceives : Receives setup trace.session (.reply session messages))
      (hkept : kept <+: messages.map (Trace.tag trace.received))
      (hall : running = true → kept = messages.map (Trace.tag trace.received)) :
    Effect setup trace input
      { trace with
        session := session
        received := trace.received + 1
        sent := trace.sent ++ kept
        running := running }
  | accepted {input : Input} {id : String}
      (hreceives : Receives setup trace.session (.accept id)) :
    Effect setup trace input
      { trace with
        session := trace.session.push trace.received id
        received := trace.received + 1
        accepted := trace.accepted ++ [(trace.received, id)] }
  | announced {input : Input} {data : Value} {kept : List Sent} {running : Bool}
      (hhello : trace.session.helloComplete = true)
      (hkept : kept <+: [⟨none, .notice "state.changed" data⟩]) :
    Effect setup trace input
      { trace with
        sent := trace.sent ++ kept
        running := running }
  | answered {input : Input} {position frame : ℕ} {id : String}
      {result : Except BackendError Value} {kept : List Sent} {running : Bool}
      (hentry : trace.session.pending[position]? = some (frame, id))
      (hkept : kept <+: [⟨some frame, completion id result⟩])
      (hall : running = true → kept = [⟨some frame, completion id result⟩]) :
    Effect setup trace input
      { trace with
        session := trace.session.finish position id false
        sent := trace.sent ++ kept
        running := running }
  | panicked {position frame : ℕ} {id : String}
      (hentry : trace.session.pending[position]? = some (frame, id)) :
    Effect setup trace (.completed position none)
      { trace with session := trace.session.finish position id true }

theorem step_effect {setup : Setup} {trace : Trace} (hrunning : trace.running = true) (room : ℕ)
    (input : Input) : Effect setup trace input (trace.step setup room input) := by
  unfold Trace.step
  rw [if_neg (by simp [hrunning])]
  cases input with
  | line line snapshot =>
      have hreceives : Receives setup trace.session
          (trace.session.receive setup line snapshot) := receives_receive line snapshot
      dsimp only [Trace.line]
      revert hreceives
      cases trace.session.receive setup line snapshot with
      | reply session messages =>
          intro hreceives
          exact .replied hreceives (sendAll_grows _ _ _) (sendAll_all _ _ _)
      | accept id =>
          intro hreceives
          exact .accepted hreceives
  | closed => exact .still false
  | completed position outcome =>
      dsimp only [Trace.completed]
      cases hentry : trace.session.pending[position]? with
      | none => exact .still trace.running
      | some entry =>
          cases outcome with
          | none => exact .panicked hentry
          | some result => exact .answered hentry (sendAll_grows _ _ _) (sendAll_all _ _ _)
  | changed snapshot =>
      dsimp only
      split_ifs with hhello
      · exact .announced hhello (sendAll_grows _ _ _)
      · exact .still trace.running

/-! ## Whole runs -/

/-- What holds of every session. -/
structure Sound (trace : Trace) : Prop where
  errors : (∀ sent ∈ trace.sent, IsError sent.message) ∨ Greeted trace.sent
  greeted : trace.running = true → trace.session.helloComplete = true → Greeted trace.sent
  complete : trace.accepted ≠ [] → trace.session.helloComplete = true
  few : trace.session.pending.length ≤ MAX_PENDING_REQUESTS_PER_CLIENT
  ids : (trace.session.pending.map Prod.snd).Nodup
  held : ∀ entry ∈ trace.session.pending, entry.2 ∈ trace.session.pendingIds
  known : ∀ entry ∈ trace.session.pending, entry ∈ trace.accepted
  numbers : (trace.accepted.map Prod.fst).Nodup
  accepted_lt : ∀ entry ∈ trace.accepted, entry.1 < trace.received
  sent_lt : ∀ sent ∈ trace.sent, ∀ frame ∈ sent.frame, frame < trace.received
  unanswered : ∀ entry ∈ trace.session.pending, trace.answers entry.1 = []
  once : ∀ entry ∈ trace.accepted, (trace.answers entry.1).length ≤ 1
  carries : ∀ entry ∈ trace.accepted, ∀ sent ∈ trace.answers entry.1,
    Carries entry.2 sent.message

/-- What holds of a session while no task has panicked. -/
structure Settled (trace : Trace) : Prop where
  free : ∀ id ∈ trace.session.pendingIds, id ∈ trace.session.pending.map Prod.snd
  answered : trace.running = true → ∀ entry ∈ trace.accepted,
    entry ∉ trace.session.pending → trace.answers entry.1 ≠ []

theorem sound_new (setup : Setup) : Sound (.new setup) where
  errors := .inl (by simp [Trace.new])
  greeted := by simp [Trace.new, State.new]
  complete := by simp [Trace.new]
  few := by simp [Trace.new, State.new]
  ids := by simp [Trace.new, State.new]
  held := by simp [Trace.new, State.new]
  known := by simp [Trace.new, State.new]
  numbers := by simp [Trace.new]
  accepted_lt := by simp [Trace.new]
  sent_lt := by simp [Trace.new]
  unanswered := by simp [Trace.new, State.new]
  once := by simp [Trace.new]
  carries := by simp [Trace.new]

theorem settled_new (setup : Setup) : Settled (.new setup) where
  free := by simp [Trace.new, State.new]
  answered := by simp [Trace.new]

/-- The answers to a frame after more has been sent. -/
theorem answers_append {trace : Trace} {session : State} {received : ℕ} {running : Bool}
    {accepted : List (ℕ × String)} {kept : List Sent} (frame : ℕ) :
    Trace.answers { session, running, received, accepted, sent := trace.sent ++ kept } frame =
      trace.answers frame ++ kept.filter fun sent => sent.frame = some frame := by
  unfold Trace.answers
  rw [List.filter_append]

/-- What is sent to others does not answer a frame. -/
theorem filter_eq_nil_of_ne {messages kept : List Sent} {frame : ℕ} (hkept : kept <+: messages)
    (hne : ∀ sent ∈ messages, sent.frame ≠ some frame) :
    (kept.filter fun sent => sent.frame = some frame) = [] := by
  rw [List.filter_eq_nil_iff]
  intro sent hsent
  simpa using hne sent (hkept.subset hsent)

theorem frame_tag {frame : ℕ} {messages : List ServerMessage} :
    ∀ sent ∈ messages.map (Trace.tag frame), ∀ frame' ∈ sent.frame, frame' = frame := by
  intro sent hsent frame' hframe
  obtain ⟨message, -, rfl⟩ := List.mem_map.mp hsent
  cases message with
  | response v id ok result error => exact (Option.some.inj hframe).symm
  | event v name data => cases hframe

/-- The entries that remain when a task has ended. -/
theorem mem_eraseIdx_of_nodup {pending : List (ℕ × String)} {position : ℕ} {ended : ℕ × String}
    (hnodup : (pending.map Prod.snd).Nodup) (hentry : pending[position]? = some ended)
    (entry : ℕ × String) :
    entry ∈ pending.eraseIdx position ↔ entry ∈ pending ∧ entry.2 ≠ ended.2 := by
  obtain ⟨hlt, rfl⟩ := List.getElem?_eq_some_iff.mp hentry
  rw [List.mem_eraseIdx_iff_getElem]
  constructor
  · rintro ⟨i, hi, hne, rfl⟩
    refine ⟨List.getElem_mem hi, fun heq => hne ?_⟩
    have hi' : i < (pending.map Prod.snd).length := by simpa using hi
    have hposition : position < (pending.map Prod.snd).length := by simpa using hlt
    have hsnd : (pending.map Prod.snd)[i] = (pending.map Prod.snd)[position] := by simpa using heq
    exact hnodup.getElem_inj_iff.mp hsnd
  · rintro ⟨hmem, hne⟩
    obtain ⟨i, hi, rfl⟩ := List.getElem_of_mem hmem
    refine ⟨i, hi, fun heq => hne ?_, rfl⟩
    subst heq
    rfl

section effect

variable {setup : Setup} {trace trace' : Trace} {input : Input}

/-- A round in which the session sends messages that answer no request it has accepted, and in which
nothing else changes but the greeting. -/
theorem Sound.reply (h : Sound trace) {session : State} {received : ℕ} {messages kept : List Sent}
    {running : Bool} (hpending : session.pending = trace.session.pending)
    (hids : session.pendingIds = trace.session.pendingIds)
    (hhello : trace.session.helloComplete = true → session.helloComplete = true)
    (hreceived : trace.received ≤ received) (hkept : kept <+: messages)
    (htags : ∀ sent ∈ messages, ∀ frame ∈ sent.frame, trace.received ≤ frame ∧ frame < received)
    (herrors : (∀ sent ∈ trace.sent ++ kept, IsError sent.message) ∨ Greeted (trace.sent ++ kept))
    (hgreeted : running = true → session.helloComplete = true → Greeted (trace.sent ++ kept)) :
    Sound
      { trace with
        session := session
        received := received
        sent := trace.sent ++ kept
        running := running } := by
  have hanswers : ∀ entry ∈ trace.accepted,
      (kept.filter fun sent => sent.frame = some entry.1) = [] := by
    intro entry hentry
    apply filter_eq_nil_of_ne hkept
    intro sent hsent hframe
    have hle := (htags sent hsent entry.1 hframe).1
    exact absurd (h.accepted_lt entry hentry) (by omega)
  refine
    { errors := herrors
      greeted := hgreeted
      complete := fun hne => hhello (h.complete hne)
      few := hpending ▸ h.few
      ids := hpending ▸ h.ids
      held := ?_
      known := ?_
      numbers := h.numbers
      accepted_lt := fun entry hentry => (h.accepted_lt entry hentry).trans_le hreceived
      sent_lt := ?_
      unanswered := ?_
      once := ?_
      carries := ?_ }
  · intro entry hentry
    rw [hpending] at hentry
    rw [hids]
    exact h.held entry hentry
  · intro entry hentry
    rw [hpending] at hentry
    exact h.known entry hentry
  · intro sent hsent frame hframe
    rcases List.mem_append.mp hsent with hsent | hsent
    · exact (h.sent_lt sent hsent frame hframe).trans_le hreceived
    · exact (htags sent (hkept.subset hsent) frame hframe).2
  · intro entry hentry
    rw [hpending] at hentry
    rw [answers_append, h.unanswered entry hentry, hanswers entry (h.known entry hentry)]
    rfl
  · intro entry hentry
    rw [answers_append, hanswers entry hentry, List.append_nil]
    exact h.once entry hentry
  · intro entry hentry
    rw [answers_append, hanswers entry hentry, List.append_nil]
    exact h.carries entry hentry

/-- Errors, or what follows a greeting, can always be sent. -/
theorem Sound.errors_append (h : Sound trace) (hrunning : trace.running = true) {kept : List Sent}
    (hkept : (∀ sent ∈ kept, IsError sent.message) ∨ trace.session.helloComplete = true) :
    (∀ sent ∈ trace.sent ++ kept, IsError sent.message) ∨ Greeted (trace.sent ++ kept) := by
  by_cases hhello : trace.session.helloComplete = true
  · exact .inr ((h.greeted hrunning hhello).append kept)
  · rcases h.errors with herrors | hgreeted
    · refine .inl fun sent hsent => ?_
      rcases List.mem_append.mp hsent with hsent | hsent
      · exact herrors sent hsent
      · exact (hkept.resolve_right hhello) sent hsent
    · exact .inr (hgreeted.append kept)

theorem Sound.replied (h : Sound trace) (hrunning : trace.running = true) {session : State}
    {messages : List ServerMessage} {kept : List Sent} {running : Bool}
    (hreceives : Receives setup trace.session (.reply session messages))
    (hkept : kept <+: messages.map (Trace.tag trace.received))
    (hall : running = true → kept = messages.map (Trace.tag trace.received)) :
    Sound
      { trace with
        session := session
        received := trace.received + 1
        sent := trace.sent ++ kept
        running := running } := by
  have htags : ∀ sent ∈ messages.map (Trace.tag trace.received), ∀ frame ∈ sent.frame,
      trace.received ≤ frame ∧ frame < trace.received + 1 := by
    intro sent hsent frame hframe
    rw [frame_tag sent hsent frame hframe]
    omega
  cases hreceives with
  | refused =>
      apply h.reply rfl rfl id (Nat.le_succ _) hkept htags
      · apply h.errors_append hrunning
        left
        intro sent hsent
        obtain rfl := List.mem_singleton.mp (hkept.subset hsent)
        exact rfl
      · intro _ hhello
        exact (h.greeted hrunning hhello).append kept
  | state hhello =>
      apply h.reply rfl rfl id (Nat.le_succ _) hkept htags
      · exact h.errors_append hrunning (.inr hhello)
      · intro _ _
        exact (h.greeted hrunning hhello).append kept
  | greeted hhello =>
      have hwelcome : kept ≠ [] → Greeted (trace.sent ++ kept) := by
        intro hne
        rcases h.errors with herrors | hgreeted
        · obtain ⟨first, rest, rfl⟩ := List.exists_cons_of_ne_nil hne
          obtain ⟨tail, htail⟩ := hkept
          have hfirst := (List.cons_eq_cons.mp htail).1
          refine ⟨trace.sent, first, rest, rfl, herrors, ?_⟩
          rw [hfirst]
          exact ⟨_, _, _, rfl⟩
        · exact hgreeted.append kept
      refine h.reply rfl rfl (fun _ => rfl) (Nat.le_succ _) hkept htags ?_ ?_
      · by_cases hne : kept = []
        · rw [hne, List.append_nil]
          exact h.errors
        · exact .inr (hwelcome hne)
      · intro hrunning' _
        apply hwelcome
        rw [hall hrunning']
        simp

theorem Sound.accepted (h : Sound trace) (hrunning : trace.running = true) {id : String}
    (hreceives : Receives setup trace.session (.accept id)) :
    Sound
      { trace with
        session := trace.session.push trace.received id
        received := trace.received + 1
        accepted := trace.accepted ++ [(trace.received, id)] } := by
  cases hreceives with
  | accepted hhello hfew hid =>
      have hnone : trace.answers trace.received = [] := by
        unfold Trace.answers
        rw [List.filter_eq_nil_iff]
        intro sent hsent
        have hlt := h.sent_lt sent hsent trace.received
        simpa using fun hframe : sent.frame = some trace.received =>
          absurd (hlt hframe) (lt_irrefl _)
      refine
        { errors := h.errors
          greeted := fun _ _ => h.greeted hrunning hhello
          complete := fun _ => hhello
          few := ?_
          ids := ?_
          held := ?_
          known := ?_
          numbers := ?_
          accepted_lt := ?_
          sent_lt := ?_
          unanswered := ?_
          once := ?_
          carries := ?_ }
      · simpa [State.push] using hfew
      · have hfresh : id ∉ trace.session.pending.map Prod.snd := by
          intro hmem
          obtain ⟨entry, hentry, rfl⟩ := List.mem_map.mp hmem
          exact hid (h.held entry hentry)
        have hconcat := h.ids.concat hfresh
        rw [List.concat_eq_append] at hconcat
        simpa only [State.push, List.map_append, List.map_cons, List.map_nil] using hconcat
      · intro entry hentry
        rcases List.mem_append.mp hentry with hentry | hentry
        · exact Finset.mem_insert_of_mem (h.held entry hentry)
        · rw [List.mem_singleton.mp hentry]
          exact Finset.mem_insert_self _ _
      · intro entry hentry
        rcases List.mem_append.mp hentry with hentry | hentry
        · exact List.mem_append_left _ (h.known entry hentry)
        · exact List.mem_append_right _ hentry
      · have hfresh : trace.received ∉ trace.accepted.map Prod.fst := by
          intro hmem
          obtain ⟨entry, hentry, heq⟩ := List.mem_map.mp hmem
          exact absurd (h.accepted_lt entry hentry) (by omega)
        have hconcat := h.numbers.concat hfresh
        rw [List.concat_eq_append] at hconcat
        simpa only [List.map_append, List.map_cons, List.map_nil] using hconcat
      · intro entry hentry
        rcases List.mem_append.mp hentry with hentry | hentry
        · exact (h.accepted_lt entry hentry).trans (Nat.lt_succ_self _)
        · rw [List.mem_singleton.mp hentry]
          exact Nat.lt_succ_self _
      · intro sent hsent frame hframe
        exact (h.sent_lt sent hsent frame hframe).trans (Nat.lt_succ_self _)
      · intro entry hentry
        rcases List.mem_append.mp hentry with hentry | hentry
        · exact h.unanswered entry hentry
        · rw [List.mem_singleton.mp hentry]
          exact hnone
      · intro entry hentry
        rcases List.mem_append.mp hentry with hentry | hentry
        · exact h.once entry hentry
        · rw [List.mem_singleton.mp hentry]
          exact (congrArg List.length hnone).trans_le (Nat.zero_le _)
      · intro entry hentry
        rcases List.mem_append.mp hentry with hentry | hentry
        · exact h.carries entry hentry
        · rw [List.mem_singleton.mp hentry]
          intro sent hsent
          exact absurd (hnone ▸ hsent) List.not_mem_nil

/-- A task has ended, with or without an answer to its frame. -/
theorem Sound.finished (h : Sound trace) (hrunning : trace.running = true) {position frame : ℕ}
    {id : String} (hentry : trace.session.pending[position]? = some (frame, id)) (panicked : Bool)
    {messages kept : List Sent} {running : Bool} (hkept : kept <+: messages)
    (hone : messages.length ≤ 1)
    (hmessages : ∀ sent ∈ messages, sent.frame = some frame ∧ Carries id sent.message) :
    Sound
      { trace with
        session := trace.session.finish position id panicked
        sent := trace.sent ++ kept
        running := running } := by
  have hmem : (frame, id) ∈ trace.session.pending := List.mem_of_getElem? hentry
  have hhello : trace.session.helloComplete = true :=
    h.complete (List.ne_nil_of_mem (h.known _ hmem))
  have hgreeted := (h.greeted hrunning hhello).append kept
  have hrest := mem_eraseIdx_of_nodup h.ids hentry
  have hother : ∀ entry ∈ trace.accepted, entry ≠ (frame, id) →
      (kept.filter fun sent => sent.frame = some entry.1) = [] := by
    intro entry hentry hne
    apply filter_eq_nil_of_ne hkept
    intro sent hsent hframe
    have heq : entry.1 = frame := Option.some.inj (hframe.symm.trans (hmessages sent hsent).1)
    exact hne (List.inj_on_of_nodup_map h.numbers hentry (h.known _ hmem) heq)
  have hlength : kept.length ≤ 1 := hkept.length_le.trans hone
  refine
    { errors := .inr hgreeted
      greeted := fun _ _ => hgreeted
      complete := fun _ => hhello
      few := (List.length_eraseIdx_le _ _).trans h.few
      ids := h.ids.sublist ((List.eraseIdx_sublist _ _).map _)
      held := ?_
      known := fun entry hentry => h.known entry ((hrest entry).mp hentry).1
      numbers := h.numbers
      accepted_lt := h.accepted_lt
      sent_lt := ?_
      unanswered := ?_
      once := ?_
      carries := ?_ }
  · intro entry hentry
    obtain ⟨hentry, hne⟩ := (hrest entry).mp hentry
    dsimp only [State.finish]
    split_ifs
    · exact h.held entry hentry
    · exact Finset.mem_erase.mpr ⟨hne, h.held entry hentry⟩
  · intro sent hsent frame' hframe
    rcases List.mem_append.mp hsent with hsent | hsent
    · exact h.sent_lt sent hsent frame' hframe
    · have heq : frame = frame' :=
        Option.some.inj ((hmessages sent (hkept.subset hsent)).1.symm.trans hframe)
      rw [← heq]
      exact h.accepted_lt _ (h.known _ hmem)
  · intro entry hentry
    obtain ⟨hentry, hne⟩ := (hrest entry).mp hentry
    have hne' : entry ≠ (frame, id) := fun heq => hne (by rw [heq])
    rw [answers_append, h.unanswered entry hentry, hother entry (h.known entry hentry) hne']
    rfl
  · intro entry hentry
    rw [answers_append, List.length_append]
    by_cases heq : entry = (frame, id)
    · rw [heq, h.unanswered _ hmem]
      have hfilter := List.length_filter_le (fun sent : Sent => sent.frame = some frame) kept
      simpa using hfilter.trans hlength
    · rw [hother entry hentry heq]
      exact h.once entry hentry
  · intro entry hentry sent hsent
    rw [answers_append] at hsent
    rcases List.mem_append.mp hsent with hsent | hsent
    · exact h.carries entry hentry sent hsent
    · by_cases heq : entry = (frame, id)
      · rw [heq]
        exact (hmessages sent (hkept.subset (List.mem_of_mem_filter hsent))).2
      · rw [hother entry hentry heq] at hsent
        exact absurd hsent List.not_mem_nil

theorem Sound.effect (h : Sound trace) (hrunning : trace.running = true)
    (heffect : Effect setup trace input trace') : Sound trace' := by
  cases heffect with
  | still running =>
      exact
        { h with
          greeted := fun _ => h.greeted hrunning }
  | replied hreceives hkept hall => exact h.replied hrunning hreceives hkept hall
  | accepted hreceives => exact h.accepted hrunning hreceives
  | announced hhello hkept =>
      have hgreeted := (h.greeted hrunning hhello).append
      refine h.reply rfl rfl (fun hhello => hhello) le_rfl hkept ?_ (.inr (hgreeted _))
        fun _ _ => hgreeted _
      intro sent hsent frame hframe
      rw [List.mem_singleton.mp hsent] at hframe
      cases hframe
  | answered hentry hkept hall =>
      refine h.finished hrunning hentry false hkept le_rfl fun sent hsent => ?_
      rw [List.mem_singleton.mp hsent]
      exact ⟨rfl, carries_completion _ _⟩
  | panicked hentry =>
      have hnone := @Sound.finished trace h hrunning _ _ _ hentry true [] [] trace.running
        (List.prefix_refl []) (Nat.zero_le 1) fun sent hsent => absurd hsent List.not_mem_nil
      rw [List.append_nil] at hnone
      exact hnone

theorem Settled.effect (h : Settled trace) (hsound : Sound trace) (hrunning : trace.running = true)
    (hpanics : ¬ input.Panics) (heffect : Effect setup trace input trace') : Settled trace' := by
  cases heffect with
  | still running =>
      exact
        { h with
          answered := fun _ => h.answered hrunning }
  | replied hreceives hkept hall =>
      obtain ⟨hpending, hids⟩ := hreceives.tasks_eq
      constructor
      · intro id hid
        rw [hids] at hid
        rw [hpending]
        exact h.free id hid
      · intro _ entry hentry hnot
        rw [hpending] at hnot
        rw [answers_append]
        exact List.append_ne_nil_of_left_ne_nil (h.answered hrunning entry hentry hnot) _
  | @accepted _ id hreceives =>
      constructor
      · intro id' hid
        rcases Finset.mem_insert.mp hid with rfl | hid
        · simp [State.push]
        · simpa [State.push] using .inl (by simpa using h.free id' hid)
      · intro _ entry hentry hnot
        have hnot' : entry ∉ trace.session.pending ∧ entry ≠ (trace.received, id) := by
          simpa [State.push] using hnot
        rcases List.mem_append.mp hentry with hentry | hentry
        · exact h.answered hrunning entry hentry hnot'.1
        · exact absurd (List.mem_singleton.mp hentry) hnot'.2
  | announced hhello hkept =>
      constructor
      · exact h.free
      · intro _ entry hentry hnot
        rw [answers_append]
        exact List.append_ne_nil_of_left_ne_nil (h.answered hrunning entry hentry hnot) _
  | @answered _ position frame id result kept running hentry hkept hall =>
      have hrest := mem_eraseIdx_of_nodup hsound.ids hentry
      constructor
      · intro id' hid
        obtain ⟨hne, hid⟩ := Finset.mem_erase.mp hid
        obtain ⟨entry, hmem, rfl⟩ := List.mem_map.mp (h.free id' hid)
        exact List.mem_map.mpr ⟨entry, (hrest entry).mpr ⟨hmem, hne⟩, rfl⟩
      · intro hrunning' entry haccepted hnot
        rw [answers_append]
        by_cases hpending : entry ∈ trace.session.pending
        · have hid : entry.2 = id := by
            by_contra hne
            exact hnot ((hrest entry).mpr ⟨hpending, hne⟩)
          have heq : entry = (frame, id) :=
            List.inj_on_of_nodup_map hsound.ids hpending (List.mem_of_getElem? hentry) hid
          rw [hall hrunning', heq]
          simp
        · exact List.append_ne_nil_of_left_ne_nil (h.answered hrunning entry haccepted hpending) _
  | panicked hentry => exact absurd trivial hpanics

end effect

/-- Rounds after a session has returned change nothing. -/
theorem step_of_not_running {setup : Setup} {trace : Trace} (h : trace.running ≠ true) (room : ℕ)
    (input : Input) : trace.step setup room input = trace := by
  unfold Trace.step
  rw [if_pos (by simpa using h)]

theorem Sound.step {trace : Trace} (h : Sound trace) (setup : Setup) (room : ℕ) (input : Input) :
    Sound (trace.step setup room input) := by
  by_cases hrunning : trace.running = true
  · exact h.effect hrunning (step_effect hrunning room input)
  · rwa [step_of_not_running hrunning]

theorem run_concat (setup : Setup) (inputs : List (Input × ℕ)) (input : Input × ℕ) :
    Trace.run setup (inputs ++ [input]) =
      (Trace.run setup inputs).step setup input.2 input.1 := by
  unfold Trace.run
  rw [List.foldl_append, List.foldl_cons, List.foldl_nil]

theorem sound_run (setup : Setup) (inputs : List (Input × ℕ)) : Sound (.run setup inputs) := by
  induction inputs using List.reverseRecOn with
  | nil => exact sound_new setup
  | append_singleton inputs input ih =>
      rw [run_concat]
      exact ih.step setup input.2 input.1

theorem settled_run (setup : Setup) (inputs : List (Input × ℕ))
    (hpanics : ∀ input ∈ inputs, ¬ input.1.Panics) : Settled (.run setup inputs) := by
  induction inputs using List.reverseRecOn with
  | nil => exact settled_new setup
  | append_singleton inputs input ih =>
      have hsettled := ih fun input hinput => hpanics input (List.mem_append_left _ hinput)
      have hsound := sound_run setup inputs
      have hlast : ¬ input.1.Panics := hpanics input (by simp)
      rw [run_concat]
      by_cases hrunning : (Trace.run setup inputs).running = true
      · exact hsettled.effect hsound hrunning hlast (step_effect hrunning input.2 input.1)
      · rwa [step_of_not_running hrunning]

/-- Only errors before a successful `hello`, at most so many requests pending, under different ids;
and while the loop runs, every request that was accepted is pending or has one answer, which carries
its id, and an id that is not pending can be used. -/
structure Served (setup : Setup) (trace : Trace) : Prop where
  errors : (∀ sent ∈ trace.sent, IsError sent.message) ∨ Greeted trace.sent
  few : trace.session.pending.length ≤ MAX_PENDING_REQUESTS_PER_CLIENT
  distinct : (trace.session.pending.map Prod.snd).Nodup
  answered : trace.running = true → ∀ entry ∈ trace.accepted,
    (entry ∈ trace.session.pending ∧ trace.answers entry.1 = []) ∨
      (entry ∉ trace.session.pending ∧
        ∃ sent, trace.answers entry.1 = [sent] ∧ Carries entry.2 sent.message)
  reusable : trace.running = true → ∀ entry ∈ trace.accepted,
    entry.2 ∉ trace.session.pending.map Prod.snd →
      trace.session.pending.length < MAX_PENDING_REQUESTS_PER_CLIENT →
        ∀ request : RequestEnvelope, Runnable request → request.id = entry.2 →
          ∀ snapshot : Value,
            trace.session.receive setup (.ok request) snapshot = .accept request.id

/-- Whatever frames arrive and in whatever order tasks end, sends fail and the state changes, a
session serves its client as long as no task panics. -/
theorem accepted_answered (setup : Setup) (inputs : List (Input × ℕ))
    (hpanics : ∀ input ∈ inputs, ¬ input.1.Panics) : Served setup (.run setup inputs) := by
  have hsound := sound_run setup inputs
  have hsettled := settled_run setup inputs hpanics
  refine ⟨hsound.errors, hsound.few, hsound.ids, ?_, ?_⟩
  · intro hrunning entry hentry
    by_cases hpending : entry ∈ (Trace.run setup inputs).session.pending
    · exact .inl ⟨hpending, hsound.unanswered entry hpending⟩
    · have hne := hsettled.answered hrunning entry hentry hpending
      obtain ⟨sent, rest, hcons⟩ := List.exists_cons_of_ne_nil hne
      have hlength := hsound.once entry hentry
      rw [hcons, List.length_cons] at hlength
      have hrest : rest = [] := List.eq_nil_of_length_eq_zero (by omega)
      rw [hrest] at hcons
      refine .inr ⟨hpending, sent, hcons, hsound.carries entry hentry sent ?_⟩
      rw [hcons]
      exact List.mem_singleton_self sent
  · intro _ entry hentry hfree hfew request hrequest hid snapshot
    apply receive_of_runnable hrequest (hsound.complete (List.ne_nil_of_mem hentry)) hfew
    rw [hid]
    exact fun hmem => hfree (hsettled.free entry.2 hmem)

/-- How `HelloParams` is read from an object with the fields it needs. -/
def plainSetup : Setup where
  sessionId := 1
  helloParams value :=
    match (value.get "client").bind Value.asStr, (value.get "client_version").bind Value.asStr with
    | some client, some version =>
      .ok ⟨client, version, ((value.get "client_instance_id").bind Value.asStr).getD ""⟩
    | _, _ => .error "missing field"
  floatSize _ := 24

/-- A client says hello and asks for the profiles. -/
def listing : List (Input × ℕ) :=
  [(.line (.ok ⟨1, "0", "request", "hello",
      .obj [("client", .string "panel"), ("client_version", .string "1")]⟩) .null, 2),
    (.line (.ok ⟨1, "1", "request", "profiles.list", .null⟩) .null, 1)]

/-- The list of the profiles is on its way. -/
theorem run_listing :
    (Trace.run plainSetup listing).running = true ∧
      (Trace.run plainSetup listing).accepted = [(1, "1")] ∧
        (Trace.run plainSetup listing).session.pending = [(1, "1")] := by
  decide +kernel

theorem accepted_answered_listing :
    (Trace.run plainSetup (listing ++ [(.completed 0 (some (.ok .null)), 1)])).accepted =
        [(1, "1")] ∧
      Served plainSetup (.run plainSetup (listing ++ [(.completed 0 (some (.ok .null)), 1)])) := by
  refine ⟨?_, accepted_answered plainSetup _ fun input hinput => ?_⟩
  · obtain ⟨hrunning, haccepted, hpending⟩ := run_listing
    rw [run_concat]
    generalize Trace.run plainSetup listing = trace at hrunning haccepted hpending
    unfold Trace.step Trace.completed
    rw [if_neg (by simp [hrunning]), hpending]
    exact haccepted
  simp only [listing, List.cons_append, List.nil_append, List.mem_cons, List.not_mem_nil,
    or_false] at hinput
  rcases hinput with rfl | rfl | rfl
  · exact id
  · exact id
  · exact id

/-! ## Tasks that panic -/

/-- A request that is neither pending nor answered, whose id is still taken. -/
structure Lost (trace : Trace) (entry : ℕ × String) : Prop where
  known : entry ∈ trace.accepted
  gone : entry.2 ∉ trace.session.pending.map Prod.snd
  taken : entry.2 ∈ trace.session.pendingIds
  unanswered : trace.answers entry.1 = []

theorem Lost.effect {setup : Setup} {trace trace' : Trace} {entry : ℕ × String} {input : Input}
    (h : Lost trace entry) (hsound : Sound trace) (heffect : Effect setup trace input trace') :
    Lost trace' entry := by
  have hnot : ∀ {position frame : ℕ} {id : String},
      trace.session.pending[position]? = some (frame, id) → entry.2 ≠ id := by
    intro position frame id hentry heq
    exact h.gone (List.mem_map.mpr ⟨_, List.mem_of_getElem? hentry, heq.symm⟩)
  have hfinish : ∀ position, entry.2 ∉ (trace.session.pending.eraseIdx position).map Prod.snd :=
    fun position hmem => h.gone (((List.eraseIdx_sublist _ _).map _).subset hmem)
  cases heffect with
  | still running => exact { h with }
  | @replied _ session messages kept running hreceives hkept hall =>
      obtain ⟨hpending, hids⟩ := hreceives.tasks_eq
      have hframe : ∀ sent ∈ messages.map (Trace.tag trace.received),
          sent.frame ≠ some entry.1 := by
        intro sent hsent hframe
        have hlt := hsound.accepted_lt entry h.known
        rw [frame_tag sent hsent entry.1 hframe] at hlt
        exact lt_irrefl _ hlt
      refine ⟨h.known, hpending ▸ h.gone, hids ▸ h.taken, ?_⟩
      rw [answers_append, h.unanswered, filter_eq_nil_of_ne hkept hframe]
      rfl
  | @accepted _ id hreceives =>
      cases hreceives with
      | accepted hhello hfew hid =>
          refine ⟨List.mem_append_left _ h.known, ?_, Finset.mem_insert_of_mem h.taken,
            h.unanswered⟩
          intro hmem
          rcases List.mem_append.mp (by simpa only [State.push, List.map_append] using hmem) with
            hmem | hmem
          · exact h.gone hmem
          · have heq : entry.2 = id := List.mem_singleton.mp hmem
            exact hid (heq ▸ h.taken)
  | announced hhello hkept =>
      refine ⟨h.known, h.gone, h.taken, ?_⟩
      rw [answers_append, h.unanswered, filter_eq_nil_of_ne hkept (by simp)]
      rfl
  | @answered _ position frame id result kept running hentry hkept hall =>
      refine ⟨h.known, hfinish position, Finset.mem_erase.mpr ⟨hnot hentry, h.taken⟩, ?_⟩
      have hframe : frame ≠ entry.1 := by
        intro heq
        have hmem := hsound.known _ (List.mem_of_getElem? hentry)
        have hsame := List.inj_on_of_nodup_map hsound.numbers hmem h.known heq
        exact hnot hentry (congrArg Prod.snd hsame).symm
      rw [answers_append, h.unanswered, filter_eq_nil_of_ne hkept (by simpa using hframe)]
      rfl
  | panicked hentry => exact ⟨h.known, hfinish _, h.taken, h.unanswered⟩

/-- A session runs on without a task that has panicked. -/
theorem run_panicked {setup : Setup} {inputs : List (Input × ℕ)} {position room : ℕ}
    {entry : ℕ × String} (hrunning : (Trace.run setup inputs).running = true)
    (hentry : (Trace.run setup inputs).session.pending[position]? = some entry) :
    Trace.run setup (inputs ++ [(.completed position none, room)]) =
      { Trace.run setup inputs with
        session := (Trace.run setup inputs).session.finish position entry.2 true } := by
  rw [run_concat]
  unfold Trace.step Trace.completed
  rw [if_neg (by simp [hrunning])]
  simp only [hentry]

theorem running_panicked {setup : Setup} {inputs : List (Input × ℕ)} {position room : ℕ}
    {entry : ℕ × String} (hrunning : (Trace.run setup inputs).running = true)
    (hentry : (Trace.run setup inputs).session.pending[position]? = some entry) :
    (Trace.run setup (inputs ++ [(.completed position none, room)])).running = true := by
  rw [run_panicked hrunning hentry]
  exact hrunning

/-- The request of a task that has panicked is never answered, and its id is never free again. -/
theorem panicked_unanswered {setup : Setup} {inputs : List (Input × ℕ)} {position room : ℕ}
    {entry : ℕ × String} (hrunning : (Trace.run setup inputs).running = true)
    (hentry : (Trace.run setup inputs).session.pending[position]? = some entry)
    (later : List (Input × ℕ)) :
    Lost (.run setup (inputs ++ (.completed position none, room) :: later)) entry := by
  have hsound := sound_run setup inputs
  have hmem := List.mem_of_getElem? hentry
  induction later using List.reverseRecOn with
  | nil =>
      rw [run_panicked hrunning hentry]
      refine ⟨hsound.known entry hmem, ?_, hsound.held entry hmem, hsound.unanswered entry hmem⟩
      intro hin
      obtain ⟨other, hother, heq⟩ := List.mem_map.mp hin
      exact ((mem_eraseIdx_of_nodup hsound.ids hentry other).mp hother).2 heq
  | append_singleton later input ih =>
      have hbefore := sound_run setup (inputs ++ (.completed position none, room) :: later)
      rw [← List.cons_append, ← List.append_assoc, run_concat]
      by_cases hstill : (Trace.run setup
          (inputs ++ (Input.completed position none, room) :: later)).running = true
      · exact ih.effect hbefore (step_effect hstill input.2 input.1)
      · rwa [step_of_not_running hstill]

/-- The task that lists the profiles panics. -/
theorem not_served_panicked :
    ¬ ∀ (setup : Setup) (inputs : List (Input × ℕ)), Served setup (.run setup inputs) := by
  intro h
  have hserved := h plainSetup (listing ++ [(.completed 0 none, 1)])
  obtain ⟨hrunning, -, hpending⟩ := run_listing
  have hentry : (Trace.run plainSetup listing).session.pending[0]? = some (1, "1") := by
    rw [hpending, List.getElem?_cons_zero]
  have hlost : Lost (.run plainSetup (listing ++ [(.completed 0 none, 1)])) (1, "1") :=
    panicked_unanswered hrunning hentry []
  have hstill : (Trace.run plainSetup (listing ++ [(.completed 0 none, 1)])).running = true :=
    running_panicked hrunning hentry
  rcases hserved.answered hstill (1, "1") hlost.known with ⟨hmem, -⟩ | ⟨-, sent, hsent, -⟩
  · exact hlost.gone (List.mem_map_of_mem hmem)
  · rw [hlost.unanswered] at hsent
    cases hsent

end ProtonVpnOmarchy.Agent.Session
