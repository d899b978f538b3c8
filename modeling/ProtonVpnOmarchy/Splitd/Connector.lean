import ProtonVpnOmarchy.Splitd.ProcEvents

/-!
# Where the bytes of a process event lie

The connector wraps a payload of any length, and three lengths bound it: the datagram's, the netlink
message's and the connector's own. `ConnectorFrame` is a well-formed frame with a payload, a
trailer and padding of any length; `framesFrom` are the places where the daemon finds frames in any
buffer.

* `parseMessages_connectorFrames` — well-formed frames are read as their events, in order.
* `parseMessages_eq` — an arbitrary buffer is read as the events of the places found in it.
* `parseMessages_faithful_iff` — the events are decoded inside their payloads as long as every
  payload has room for its event. The daemon asks only for the head of an event.
-/

namespace ProtonVpnOmarchy.Splitd

open Lib

/-! ## The event of a payload -/

/-- The connector's length of its payload. -/
def cnLengthAt (buffer : List Byte) (offset : ℕ) : ℕ :=
  ((getU16 buffer (offset + 16 + 16)).getD 0).toNat

/-- The payload has the head of an event and lies in its frame. -/
def Accepted (buffer : List Byte) (offset length : ℕ) : Prop :=
  16 ≤ cnLengthAt buffer offset ∧ headerLength + cnLengthAt buffer offset ≤ length

instance (buffer : List Byte) (offset length : ℕ) : Decidable (Accepted buffer offset length) :=
  inferInstanceAs (Decidable (_ ∧ _))

/-- The event with the second word, and for a `fork` the fourth word, of its union. -/
def eventOf (what second fourth : UInt32) : Option ProcessEvent :=
  if what = procEventFork then some (.fork second fourth)
  else if what = procEventExec then some (.exec second)
  else if what = procEventExit then some (.exit second)
  else none

@[simp] theorem eventOf_fork (second fourth : UInt32) :
    eventOf procEventFork second fourth = some (.fork second fourth) := rfl

@[simp] theorem eventOf_exec (second fourth : UInt32) :
    eventOf procEventExec second fourth = some (.exec second) := rfl

@[simp] theorem eventOf_exit (second fourth : UInt32) :
    eventOf procEventExit second fourth = some (.exit second) := rfl

theorem eventOf_other {what : UInt32} (h : what ∉ [procEventFork, procEventExec, procEventExit])
    (second fourth : UInt32) : eventOf what second fourth = none := by
  simp only [List.mem_cons, List.not_mem_nil, or_false, not_or] at h
  rw [eventOf, if_neg h.1, if_neg h.2.1, if_neg h.2.2]

section accepted

variable {buffer : List Byte} {offset length : ℕ}

theorem parseEvent_of_accepted (h : Accepted buffer offset length) :
    parseEvent buffer offset length =
      eventOf ((getU32 buffer (offset + headerLength)).getD 0)
        ((getU32 buffer (offset + headerLength + 20)).getD 0)
        ((getU32 buffer (offset + headerLength + 28)).getD 0) := by
  unfold parseEvent
  refine if_pos ⟨h.1, ?_⟩
  have hwithin := h.2
  unfold cnLengthAt at hwithin
  omega

theorem parseEvent_of_not_accepted (h : ¬ Accepted buffer offset length) :
    parseEvent buffer offset length = none := by
  unfold parseEvent
  refine if_neg fun haccepted => h ⟨haccepted.1, ?_⟩
  have hwithin := haccepted.2
  unfold cnLengthAt
  omega

end accepted

/-! ## Frames of any length -/

/-- The payload of a connector message: an event whose union may go on behind the process ids, or
too few bytes for the head of an event. -/
inductive ConnectorPayload where
  | fork (clock : Vector Byte 12) (parentPid parentTgid childPid childTgid : UInt32)
      (rest : List Byte)
  | exec (clock : Vector Byte 12) (pid tgid : UInt32) (rest : List Byte)
  | exit (clock : Vector Byte 12) (pid tgid : UInt32) (rest : List Byte)
  | other (clock : Vector Byte 12) (what : UInt32) (rest : List Byte)
      (hwhat : what ∉ [procEventFork, procEventExec, procEventExit])
  | short (bytes : List Byte) (hshort : bytes.length < 16)

namespace ConnectorPayload

def eventBytes (what : UInt32) (clock : Vector Byte 12) (words : List UInt32)
    (rest : List Byte) : List Byte :=
  (wordBytes what ++ clock.toList) ++ (words.flatMap wordBytes ++ rest)

def bytes : ConnectorPayload → List Byte
  | .fork clock parentPid parentTgid childPid childTgid rest =>
    eventBytes procEventFork clock [parentPid, parentTgid, childPid, childTgid] rest
  | .exec clock pid tgid rest => eventBytes procEventExec clock [pid, tgid] rest
  | .exit clock pid tgid rest => eventBytes procEventExit clock [pid, tgid] rest
  | .other clock what rest _ => eventBytes what clock [] rest
  | .short bytes _ => bytes

/-- What the daemon makes of it. -/
def toProcessEvent : ConnectorPayload → Option ProcessEvent
  | .fork _ _ parentTgid _ childTgid _ => some (.fork parentTgid childTgid)
  | .exec _ _ tgid _ => some (.exec tgid)
  | .exit _ _ tgid _ => some (.exit tgid)
  | .other .. => none
  | .short .. => none

end ConnectorPayload

/-- A well-formed message of the connector with the padding behind it. -/
structure ConnectorFrame where
  /-- `nlmsg_type`, `nlmsg_flags`, `nlmsg_seq`, `nlmsg_pid` -/
  netlink : Vector Byte 12
  /-- `id`, `seq`, `ack` -/
  connector : Vector Byte 16
  flags : Vector Byte 2
  payload : ConnectorPayload
  /-- What the netlink message has behind the connector's payload. -/
  trailer : List Byte
  padding : List Byte
  payload_lt : payload.bytes.length < 2 ^ 16
  length_lt : headerLength + payload.bytes.length + trailer.length < 2 ^ 32
  padded : headerLength + payload.bytes.length + trailer.length + padding.length =
    (headerLength + payload.bytes.length + trailer.length + 3) / 4 * 4

namespace ConnectorFrame

variable (frame : ConnectorFrame)

/-- `nlmsg_len` -/
def length : ℕ := headerLength + frame.payload.bytes.length + frame.trailer.length

def header : List Byte :=
  wordBytes (.ofNat frame.length) ++ (frame.netlink.toList ++ (frame.connector.toList ++
    (leBytes 2 frame.payload.bytes.length ++ frame.flags.toList)))

def bytes : List Byte :=
  frame.header ++ (frame.payload.bytes ++ (frame.trailer ++ frame.padding))

@[simp] theorem length_header : frame.header.length = headerLength := by
  simp [header, headerLength]

theorem length_bytes : frame.bytes.length = (frame.length + 3) / 4 * 4 := by
  unfold length
  rw [← frame.padded]
  simp [bytes]
  omega

end ConnectorFrame

section reading

variable {as bs : List Byte} {offset : ℕ}

theorem getU32_append_left (h : offset + 4 ≤ as.length) :
    getU32 (as ++ bs) offset = getU32 as offset := by
  unfold getU32
  rw [if_pos h, if_pos (by rw [List.length_append]; omega),
    List.drop_append_of_le_length (by omega), List.take_append_of_le_length (by simp; omega)]

/-- The `n`-th word behind the head of an event. -/
theorem getU32_eventBytes {what : UInt32} {clock : Vector Byte 12} {words : List UInt32}
    {rest : List Byte} {n : ℕ} (h : n < words.length) :
    getU32 (ConnectorPayload.eventBytes what clock words rest) (16 + 4 * n) = words[n]? := by
  unfold ConnectorPayload.eventBytes
  rw [getU32_append_right (by simp), ← @getU32_words rest _ _ h]
  simp

theorem getU32_what {what : UInt32} {clock : Vector Byte 12} {words : List UInt32}
    {rest : List Byte} :
    getU32 (ConnectorPayload.eventBytes what clock words rest) 0 = some what := by
  unfold ConnectorPayload.eventBytes
  rw [List.append_assoc]
  exact getU32_wordBytes what

end reading

section frames

variable {before rest : List Byte} (frame : ConnectorFrame)

theorem ConnectorFrame.length_field :
    getU32 (before ++ (frame.bytes ++ rest)) before.length = some (.ofNat frame.length) := by
  rw [getU32_append_right le_rfl, Nat.sub_self, bytes, header]
  simp only [List.append_assoc]
  exact getU32_wordBytes _

theorem ConnectorFrame.cnLength_field :
    getU16 (before ++ (frame.bytes ++ rest)) (before.length + 16 + 16) =
      some (.ofNat frame.payload.bytes.length) := by
  have hbytes : frame.bytes ++ rest =
      (wordBytes (.ofNat frame.length) ++ frame.netlink.toList ++ frame.connector.toList) ++
        (leBytes 2 frame.payload.bytes.length ++ (frame.flags.toList ++ (frame.payload.bytes ++
          (frame.trailer ++ (frame.padding ++ rest))))) := by
    simp [bytes, header]
  rw [Nat.add_assoc, getU16_append_right (Nat.le_add_right _ _), Nat.add_sub_cancel_left, hbytes,
    getU16_append_right (by simp)]
  simpa using getU16_leBytes frame.payload_lt

/-- Inside the payload the buffer is the payload. -/
theorem ConnectorFrame.payload_field {k : ℕ} (h : k + 4 ≤ frame.payload.bytes.length) :
    getU32 (before ++ (frame.bytes ++ rest)) (before.length + headerLength + k) =
      getU32 frame.payload.bytes k := by
  have hoffset : before.length + headerLength + k = before.length + (headerLength + k) :=
    Nat.add_assoc _ _ _
  rw [hoffset, getU32_append_right (Nat.le_add_right _ _), Nat.add_sub_cancel_left, bytes,
    List.append_assoc, getU32_append_right (by simp), frame.length_header,
    Nat.add_sub_cancel_left, List.append_assoc, getU32_append_left h]

theorem ConnectorFrame.cnLengthAt_bytes :
    cnLengthAt (before ++ (frame.bytes ++ rest)) before.length = frame.payload.bytes.length := by
  rw [cnLengthAt, frame.cnLength_field, Option.getD_some]
  exact UInt16.toNat_ofNat_of_lt frame.payload_lt

/-- A payload with the head of an event and the words behind it is accepted and read. -/
theorem ConnectorFrame.parseEvent_eventBytes {what : UInt32} {clock : Vector Byte 12}
    {words : List UInt32} {tail : List Byte}
    (hpayload : frame.payload.bytes = ConnectorPayload.eventBytes what clock words tail) :
    ∃ second fourth, parseEvent (before ++ (frame.bytes ++ rest)) before.length frame.length =
        eventOf what second fourth ∧
      (1 < words.length → words[1]? = some second) ∧
      (3 < words.length → words[3]? = some fourth) := by
  have hlength : frame.payload.bytes.length = 16 + (4 * words.length + tail.length) := by
    rw [hpayload]
    simp only [ConnectorPayload.eventBytes, List.length_append, length_wordBytes,
      Vector.length_toList, List.length_flatMap, List.map_const', List.sum_replicate, smul_eq_mul]
    omega
  have haccepted : Accepted (before ++ (frame.bytes ++ rest)) before.length frame.length := by
    unfold Accepted
    rw [frame.cnLengthAt_bytes, length]
    omega
  have hwhat : getU32 (before ++ (frame.bytes ++ rest)) (before.length + headerLength) =
      some what := by
    have hfield := @ConnectorFrame.payload_field before rest frame 0 (by omega)
    rw [Nat.add_zero] at hfield
    rw [hfield, hpayload, getU32_what]
  have hword : ∀ n, n < words.length →
      words[n]? = some ((getU32 (before ++ (frame.bytes ++ rest))
        (before.length + headerLength + (16 + 4 * n))).getD 0) := by
    intro n hn
    rw [frame.payload_field (by omega), hpayload, getU32_eventBytes hn,
      List.getElem?_eq_getElem hn, Option.getD_some]
  refine ⟨_, _, ?_, hword 1, hword 3⟩
  rw [parseEvent_of_accepted haccepted, hwhat, Option.getD_some]

theorem parseEvent_connectorFrame :
    parseEvent (before ++ (frame.bytes ++ rest)) before.length frame.length =
      frame.payload.toProcessEvent := by
  rcases hpayload : frame.payload with
    ⟨clock, parentPid, parentTgid, childPid, childTgid, tail⟩ | ⟨clock, pid, tgid, tail⟩ |
    ⟨clock, pid, tgid, tail⟩ | ⟨clock, what, tail, hother⟩ | ⟨bytes, hshort⟩
  · obtain ⟨second, fourth, hevent, hsecond, hfourth⟩ :=
      @ConnectorFrame.parseEvent_eventBytes before rest frame _ _ _ _ (congrArg _ hpayload)
    obtain rfl : parentTgid = second := Option.some.inj (hsecond (by simp))
    obtain rfl : childTgid = fourth := Option.some.inj (hfourth (by simp))
    rw [hevent, eventOf_fork]
    rfl
  · obtain ⟨second, fourth, hevent, hsecond, -⟩ :=
      @ConnectorFrame.parseEvent_eventBytes before rest frame _ _ _ _ (congrArg _ hpayload)
    obtain rfl : tgid = second := Option.some.inj (hsecond (by simp))
    rw [hevent, eventOf_exec]
    rfl
  · obtain ⟨second, fourth, hevent, hsecond, -⟩ :=
      @ConnectorFrame.parseEvent_eventBytes before rest frame _ _ _ _ (congrArg _ hpayload)
    obtain rfl : tgid = second := Option.some.inj (hsecond (by simp))
    rw [hevent, eventOf_exit]
    rfl
  · obtain ⟨second, fourth, hevent, -, -⟩ :=
      @ConnectorFrame.parseEvent_eventBytes before rest frame _ _ _ _ (congrArg _ hpayload)
    rw [hevent, eventOf_other hother]
    rfl
  · refine parseEvent_of_not_accepted fun h => ?_
    have hhead := h.1
    rw [frame.cnLengthAt_bytes, hpayload] at hhead
    exact absurd hshort (by simpa [ConnectorPayload.bytes] using hhead)

/-- One frame of the loop. -/
theorem parseFrom_connectorFrame :
    parseFrom (before ++ (frame.bytes ++ rest)) before.length =
      frame.payload.toProcessEvent.toList ++
        parseFrom ((before ++ frame.bytes) ++ rest) (before ++ frame.bytes).length := by
  have hlength : (UInt32.ofNat frame.length).toNat = frame.length :=
    UInt32.toNat_ofNat_of_lt frame.length_lt
  have hheader : headerLength ≤ frame.length := by
    unfold ConnectorFrame.length
    omega
  have hpadded := frame.length_bytes
  rw [parseFrom]
  simp only [frame.length_field, Option.getD_some, hlength]
  rw [dif_pos (by simp only [List.length_append]; omega), parseEvent_connectorFrame, ← hpadded,
    List.append_assoc, List.length_append]

theorem parseFrom_connectorFrames (frames : List ConnectorFrame) (before : List Byte) :
    parseFrom (before ++ frames.flatMap ConnectorFrame.bytes) before.length =
      frames.flatMap fun frame => frame.payload.toProcessEvent.toList := by
  induction frames generalizing before with
  | nil =>
      rw [parseFrom]
      simp [headerLength]
  | cons frame frames ih =>
      rw [List.flatMap_cons, List.flatMap_cons, parseFrom_connectorFrame, ih]

theorem parseMessages_connectorFrames (frames : List ConnectorFrame) :
    parseMessages (frames.flatMap ConnectorFrame.bytes) =
      frames.flatMap fun frame => frame.payload.toProcessEvent.toList :=
  parseFrom_connectorFrames frames []

end frames

/-! ## The frames of an arbitrary buffer -/

/-- Where the loop finds frames: their places and lengths. -/
def framesFrom (buffer : List Byte) (offset : ℕ) : List (ℕ × ℕ) :=
  let length := ((getU32 buffer offset).getD 0).toNat
  if _h : offset + headerLength ≤ buffer.length ∧ headerLength ≤ length ∧
      offset + length ≤ buffer.length then
    (offset, length) :: framesFrom buffer (offset + (length + 3) / 4 * 4)
  else []
termination_by buffer.length - offset
decreasing_by
  have hheader : headerLength = 36 := rfl
  omega

/-- The connector's payload in the frame at `offset`. -/
def payloadAt (buffer : List Byte) (offset : ℕ) : List Byte :=
  (buffer.drop (offset + headerLength)).take (cnLengthAt buffer offset)

/-- Every number of the event stands in the payload. -/
def DecodedFrom (payload : List Byte) : ProcessEvent → Prop
  | .fork parent child => getU32 payload 0 = some procEventFork ∧
      getU32 payload 20 = some parent ∧ getU32 payload 28 = some child
  | .exec pid => getU32 payload 0 = some procEventExec ∧ getU32 payload 20 = some pid
  | .exit pid => getU32 payload 0 = some procEventExit ∧ getU32 payload 20 = some pid

instance (payload : List Byte) : DecidablePred (DecodedFrom payload)
  | .fork .. => inferInstanceAs (Decidable (_ ∧ _ ∧ _))
  | .exec .. => inferInstanceAs (Decidable (_ ∧ _))
  | .exit .. => inferInstanceAs (Decidable (_ ∧ _))

/-- How long a payload has to be for the process ids of its event. -/
def eventRoom (what : UInt32) : ℕ :=
  if what = procEventFork then 32
  else if what = procEventExec ∨ what = procEventExit then 24
  else 0

/-- A payload that the daemon reads has room for its event. -/
def Roomy (buffer : List Byte) (offset length : ℕ) : Prop :=
  Accepted buffer offset length →
    eventRoom ((getU32 buffer (offset + headerLength)).getD 0) ≤ cnLengthAt buffer offset

/-- What the parser owes a buffer. -/
structure Faithful (buffer : List Byte) : Prop where
  /-- The loop ends: it takes at least the headers off the buffer each time. -/
  ends : headerLength * (framesFrom buffer 0).length ≤ buffer.length
  /-- A sequence of well-formed frames is read as its events. -/
  exact : ∀ frames : List ConnectorFrame, buffer = frames.flatMap ConnectorFrame.bytes →
    parseMessages buffer = frames.flatMap fun frame => frame.payload.toProcessEvent.toList
  /-- What is returned are the events of the frames in the buffer. -/
  framed : parseMessages buffer =
    (framesFrom buffer 0).flatMap fun frame => (parseEvent buffer frame.1 frame.2).toList
  /-- No event is made of bytes outside its frame's payload. -/
  confined : ∀ frame ∈ framesFrom buffer 0, ∀ event ∈ parseEvent buffer frame.1 frame.2,
    DecodedFrom (payloadAt buffer frame.1) event

section walk

variable {buffer : List Byte}

theorem parseFrom_eq (offset : ℕ) :
    parseFrom buffer offset =
      (framesFrom buffer offset).flatMap fun frame =>
        (parseEvent buffer frame.1 frame.2).toList := by
  induction offset using framesFrom.induct buffer with
  | case1 offset length h ih =>
      rw [parseFrom, framesFrom, dif_pos h, dif_pos h, ih, List.flatMap_cons]
  | case2 offset length h =>
      rw [parseFrom, framesFrom, dif_neg h, dif_neg h]
      rfl

theorem length_framesFrom (offset : ℕ) :
    headerLength * (framesFrom buffer offset).length ≤ buffer.length - offset := by
  have hheader : headerLength = 36 := rfl
  induction offset using framesFrom.induct buffer with
  | case1 offset length h ih =>
      rw [framesFrom, dif_pos h, List.length_cons, Nat.mul_succ]
      dsimp only [length] at ih h ⊢
      omega
  | case2 offset length h =>
      rw [framesFrom, dif_neg h]
      simp

/-- A frame that the loop finds lies in the buffer. -/
theorem within_of_mem_framesFrom {offset : ℕ} {frame : ℕ × ℕ}
    (h : frame ∈ framesFrom buffer offset) :
    frame.1 + frame.2 ≤ buffer.length := by
  induction offset using framesFrom.induct buffer with
  | case1 offset length hbound ih =>
      rw [framesFrom, dif_pos hbound] at h
      rcases List.mem_cons.1 h with rfl | h
      · exact hbound.2.2
      · exact ih h
  | case2 offset length hbound =>
      rw [framesFrom, dif_neg hbound] at h
      cases h

end walk

section payload

variable {buffer : List Byte} {offset length : ℕ}

/-- A word of the payload is a word of the buffer, as far as the payload goes. -/
theorem getU32_payloadAt
    (h : offset + headerLength + cnLengthAt buffer offset ≤ buffer.length) (k : ℕ) :
    getU32 (payloadAt buffer offset) k =
      if k + 4 ≤ cnLengthAt buffer offset then getU32 buffer (offset + headerLength + k)
      else none := by
  have hlength : (payloadAt buffer offset).length = cnLengthAt buffer offset := by
    simp [payloadAt]
    omega
  unfold getU32
  rw [hlength]
  by_cases hk : k + 4 ≤ cnLengthAt buffer offset
  · rw [if_pos hk, if_pos hk, if_pos (by omega), payloadAt, List.drop_take, List.take_take,
      List.drop_drop, min_eq_left (by omega)]
  · rw [if_neg hk, if_neg hk]

/-- A word that lies in the buffer is read. -/
theorem getU32_eq_getD {k : ℕ} (h : k + 4 ≤ buffer.length) :
    getU32 buffer k = some ((getU32 buffer k).getD 0) := by
  rw [getU32, if_pos h]
  rfl

/-- An event is decoded inside its payload when the payload has room for it, and only then. -/
theorem decodedFrom_iff (hwithin : offset + length ≤ buffer.length) :
    (∀ event ∈ parseEvent buffer offset length, DecodedFrom (payloadAt buffer offset) event) ↔
      Roomy buffer offset length := by
  by_cases haccepted : Accepted buffer offset length
  swap
  · rw [parseEvent_of_not_accepted haccepted]
    exact ⟨fun _ h => absurd h haccepted, fun _ event h => by cases h⟩
  obtain ⟨hhead, hpayload⟩ := haccepted
  have hread := @getU32_payloadAt buffer offset (by omega)
  have hword : ∀ k, k + 4 ≤ cnLengthAt buffer offset →
      getU32 (payloadAt buffer offset) k =
        some ((getU32 buffer (offset + headerLength + k)).getD 0) := by
    intro k hk
    rw [hread, if_pos hk, ← getU32_eq_getD (by omega)]
  have hmissing : ∀ k value, getU32 (payloadAt buffer offset) k = some value →
      k + 4 ≤ cnLengthAt buffer offset := by
    intro k value h
    rw [hread] at h
    by_contra hk
    rw [if_neg hk] at h
    cases h
  have hroomy : Roomy buffer offset length ↔
      eventRoom ((getU32 buffer (offset + headerLength)).getD 0) ≤ cnLengthAt buffer offset :=
    ⟨fun h => h ⟨hhead, hpayload⟩, fun h _ => h⟩
  have hwhat := hword 0 (by omega)
  rw [Nat.add_zero] at hwhat
  rw [parseEvent_of_accepted ⟨hhead, hpayload⟩, hroomy]
  generalize (getU32 buffer (offset + headerLength)).getD 0 = what at hwhat ⊢
  by_cases hfork : what = procEventFork
  · subst hfork
    rw [eventOf_fork]
    constructor
    · intro h
      exact hmissing 28 _ (h _ rfl).2.2
    · rintro h _ ⟨⟩
      change 32 ≤ _ at h
      exact ⟨hwhat, hword 20 (by omega), hword 28 (by omega)⟩
  by_cases hexec : what = procEventExec
  · subst hexec
    rw [eventOf_exec]
    constructor
    · intro h
      exact hmissing 20 _ (h _ rfl).2
    · rintro h _ ⟨⟩
      change 24 ≤ _ at h
      exact ⟨hwhat, hword 20 (by omega)⟩
  by_cases hexit : what = procEventExit
  · subst hexit
    rw [eventOf_exit]
    constructor
    · intro h
      exact hmissing 20 _ (h _ rfl).2
    · rintro h _ ⟨⟩
      change 24 ≤ _ at h
      exact ⟨hwhat, hword 20 (by omega)⟩
  · rw [eventOf_other (by simp [hfork, hexec, hexit]), eventRoom, if_neg hfork,
      if_neg (not_or.2 ⟨hexec, hexit⟩)]
    exact ⟨fun _ => Nat.zero_le _, fun _ event h => by cases h⟩

end payload

/-- **The parser owes a buffer nothing more just in case every payload has room for its event.** -/
theorem parseMessages_faithful_iff (buffer : List Byte) :
    Faithful buffer ↔ ∀ frame ∈ framesFrom buffer 0, Roomy buffer frame.1 frame.2 := by
  constructor
  · intro h frame hframe
    exact (decodedFrom_iff (within_of_mem_framesFrom hframe)).1 (h.confined frame hframe)
  · intro h
    refine ⟨length_framesFrom 0, ?_, parseFrom_eq 0, ?_⟩
    · rintro frames rfl
      exact parseMessages_connectorFrames frames
    · intro frame hframe
      exact (decodedFrom_iff (within_of_mem_framesFrom hframe)).2 (h frame hframe)

/-- An `exec` of the head of an event only, and a frame without a payload behind it. -/
def headOnly : List Byte :=
  wordBytes 52 ++ List.replicate 28 0 ++ leBytes 2 16 ++ List.replicate 2 0 ++
    wordBytes procEventExec ++ List.replicate 12 0 ++
    (wordBytes 36 ++ wordBytes 4242 ++ List.replicate 28 0)

/-- The type and flags of the next frame become a process id. -/
theorem headOnly_not_faithful :
    parseEvent headOnly 0 52 = some (.exec 4242) ∧ ¬ Faithful headOnly := by
  have hevent : parseEvent headOnly 0 52 = some (.exec 4242) := by decide +kernel
  have hmem : (0, 52) ∈ framesFrom headOnly 0 := by
    rw [framesFrom]
    have hlength : ((getU32 headOnly 0).getD 0).toNat = 52 := by decide +kernel
    simp only [hlength]
    rw [dif_pos (by decide +kernel)]
    exact List.mem_cons_self
  refine ⟨hevent, fun h => ?_⟩
  exact absurd (h.confined _ hmem _ hevent) (by decide +kernel)

end ProtonVpnOmarchy.Splitd
