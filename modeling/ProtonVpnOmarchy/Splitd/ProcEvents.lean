import ProtonVpnOmarchy.Splitd.Engine.PidMap

/-!
# The kernel's process events

The kernel reports processes and threads in netlink datagrams, one frame for each fork, exec and
exit. `parseMessages` is what the daemon reads from a datagram and `Frame.bytes` what the kernel
writes into it. `parseMessages_frames`: of every frame the daemon keeps the thread group ids and
nothing else, in the order of the frames.
-/

namespace ProtonVpnOmarchy.Splitd

open Lib

/-! ## The daemon's parser -/

/-- `NLMSG_HEADER + CN_HEADER` -/
def headerLength : ℕ := 16 + 20

/-- Source: `proc_events.rs` `get_u16`, on a little-endian machine -/
def getU16 (buffer : List Byte) (offset : ℕ) : Option UInt16 :=
  if offset + 2 ≤ buffer.length then
    some (.ofNat (ofLeBytes ((buffer.drop offset).take 2)))
  else none

/-- Source: `proc_events.rs` `get_u32`, on a little-endian machine -/
def getU32 (buffer : List Byte) (offset : ℕ) : Option UInt32 :=
  if offset + 4 ≤ buffer.length then
    some (.ofNat (ofLeBytes ((buffer.drop offset).take 4)))
  else none

/-- `PROC_EVENT_FORK` -/
def procEventFork : UInt32 := 0x00000001

/-- `PROC_EVENT_EXEC` -/
def procEventExec : UInt32 := 0x00000002

/-- `PROC_EVENT_EXIT` -/
def procEventExit : UInt32 := 0x80000000

/-- The event in the frame at `offset`. -/
def parseEvent (buffer : List Byte) (offset length : ℕ) : Option ProcessEvent :=
  let payload := offset + headerLength
  let cnLength := ((getU16 buffer (offset + 16 + 16)).getD 0).toNat
  if cnLength ≥ 16 ∧ payload + cnLength ≤ offset + length then
    let what := (getU32 buffer payload).getD 0
    let data := payload + 16
    if what = procEventFork then
      some (.fork ((getU32 buffer (data + 4)).getD 0) ((getU32 buffer (data + 12)).getD 0))
    else if what = procEventExec then some (.exec ((getU32 buffer (data + 4)).getD 0))
    else if what = procEventExit then some (.exit ((getU32 buffer (data + 4)).getD 0))
    else none
  else none

/-- The loop of `parse_messages`. -/
def parseFrom (buffer : List Byte) (offset : ℕ) : List ProcessEvent :=
  let length := ((getU32 buffer offset).getD 0).toNat
  if _h : offset + headerLength ≤ buffer.length ∧ headerLength ≤ length ∧
      offset + length ≤ buffer.length then
    (parseEvent buffer offset length).toList ++ parseFrom buffer (offset + (length + 3) / 4 * 4)
  else []
termination_by buffer.length - offset
decreasing_by
  have hheader : headerLength = 36 := rfl
  omega

/-- Source: `proc_events.rs` `parse_messages` -/
def parseMessages (buffer : List Byte) : List ProcessEvent := parseFrom buffer 0

/-! ## The kernel's frames -/

/-- What the kernel reports, with the words of the event's union. `pid` is a thread's id and `tgid`
that of its process. -/
inductive KernelEvent where
  | fork (parentPid parentTgid childPid childTgid : UInt32) (rest : Vector UInt32 2)
  | exec (pid tgid : UInt32) (rest : Vector UInt32 4)
  | exit (pid tgid : UInt32) (rest : Vector UInt32 4)
  | other (what : UInt32) (words : Vector UInt32 6)
      (hwhat : what ∉ [procEventFork, procEventExec, procEventExit])

namespace KernelEvent

def what : KernelEvent → UInt32
  | .fork .. => procEventFork
  | .exec .. => procEventExec
  | .exit .. => procEventExit
  | .other what .. => what

def words : KernelEvent → List UInt32
  | .fork parentPid parentTgid childPid childTgid rest =>
    [parentPid, parentTgid, childPid, childTgid] ++ rest.toList
  | .exec pid tgid rest => [pid, tgid] ++ rest.toList
  | .exit pid tgid rest => [pid, tgid] ++ rest.toList
  | .other _ words _ => words.toList

/-- What the daemon makes of it. -/
def toProcessEvent : KernelEvent → Option ProcessEvent
  | .fork _ parentTgid _ childTgid _ => some (.fork parentTgid childTgid)
  | .exec _ tgid _ => some (.exec tgid)
  | .exit _ tgid _ => some (.exit tgid)
  | .other .. => none

/-- A thread other than the process's first one started or ended. -/
def OfThread : KernelEvent → Prop
  | .fork _ _ childPid childTgid _ => childPid ≠ childTgid
  | .exec .. => False
  | .exit pid tgid _ => pid ≠ tgid
  | .other .. => False

instance : DecidablePred OfThread
  | .fork .. => inferInstanceAs (Decidable (_ ≠ _))
  | .exec .. => inferInstanceAs (Decidable False)
  | .exit .. => inferInstanceAs (Decidable (_ ≠ _))
  | .other .. => inferInstanceAs (Decidable False)

@[simp] theorem length_words (event : KernelEvent) : event.words.length = 6 := by
  rcases event with _ | _ | _ | _ <;> simp [words]

end KernelEvent

/-- One message of the process connector: a netlink header, a connector header and an event. -/
structure Frame where
  /-- `nlmsg_type`, `nlmsg_flags`, `nlmsg_seq`, `nlmsg_pid` -/
  netlink : Vector Byte 12
  /-- `id`, `seq`, `ack` -/
  connector : Vector Byte 16
  flags : Vector Byte 2
  /-- `cpu`, `timestamp_ns` -/
  clock : Vector Byte 12
  event : KernelEvent

def wordBytes (word : UInt32) : List Byte := leBytes 4 word.toNat

/-- The frame as the kernel sends it: 76 bytes, 40 of them the event. -/
def Frame.bytes (frame : Frame) : List Byte :=
  wordBytes 76 ++ (frame.netlink.toList ++ (frame.connector.toList ++ (leBytes 2 40 ++
    (frame.flags.toList ++ (wordBytes frame.event.what ++ (frame.clock.toList ++
      frame.event.words.flatMap wordBytes))))))

/-! ## Reading a frame -/

section reading

variable {as bs : List Byte} {offset : ℕ}

theorem getU32_append_right (h : as.length ≤ offset) :
    getU32 (as ++ bs) offset = getU32 bs (offset - as.length) := by
  have hbound : offset + 4 ≤ (as ++ bs).length ↔ offset - as.length + 4 ≤ bs.length := by
    rw [List.length_append]
    omega
  simp only [getU32, hbound, List.drop_append, List.drop_of_length_le h, List.nil_append]

theorem getU16_append_right (h : as.length ≤ offset) :
    getU16 (as ++ bs) offset = getU16 bs (offset - as.length) := by
  have hbound : offset + 2 ≤ (as ++ bs).length ↔ offset - as.length + 2 ≤ bs.length := by
    rw [List.length_append]
    omega
  simp only [getU16, hbound, List.drop_append, List.drop_of_length_le h, List.nil_append]

@[simp] theorem length_wordBytes (word : UInt32) : (wordBytes word).length = 4 :=
  length_leBytes 4 _

theorem getU32_wordBytes (word : UInt32) : getU32 (wordBytes word ++ bs) 0 = some word := by
  have htake : (wordBytes word ++ bs).take 4 = wordBytes word := by
    rw [List.take_append_of_le_length (by simp), List.take_of_length_le (by simp)]
  unfold getU32
  rw [if_pos (by simp), List.drop_zero, htake]
  unfold wordBytes
  rw [ofLeBytes_leBytes_of_lt 4 word.toNat_lt]
  simp

theorem getU16_leBytes {value : ℕ} (h : value < 2 ^ 16) :
    getU16 (leBytes 2 value ++ bs) 0 = some (.ofNat value) := by
  have htake : (leBytes 2 value ++ bs).take 2 = leBytes 2 value := by
    rw [List.take_append_of_le_length (by simp), List.take_of_length_le (by simp)]
  unfold getU16
  rw [if_pos (by simp), List.drop_zero, htake, ofLeBytes_leBytes_of_lt 2 h]

/-- The `n`-th word of an event. -/
theorem getU32_words {words : List UInt32} {n : ℕ} (h : n < words.length) :
    getU32 (words.flatMap wordBytes ++ bs) (4 * n) = words[n]? := by
  induction words generalizing n with
  | nil => cases h
  | cons word words ih =>
      rw [List.flatMap_cons, List.append_assoc]
      rcases n with _ | n
      · exact getU32_wordBytes word
      · rw [getU32_append_right (by simp), length_wordBytes, List.getElem?_cons_succ,
          ← ih (by simpa using h)]
        congr 1

end reading

section frames

variable {before rest : List Byte}

@[simp] theorem Frame.length_bytes (frame : Frame) : frame.bytes.length = 76 := by
  have hwords : (frame.event.words.flatMap wordBytes).length = 24 := by
    simp [List.length_flatMap]
  simp [Frame.bytes, hwords]

theorem Frame.length_field (frame : Frame) :
    getU32 (before ++ (frame.bytes ++ rest)) before.length = some 76 := by
  rw [getU32_append_right le_rfl, Nat.sub_self]
  unfold Frame.bytes
  rw [List.append_assoc]
  exact getU32_wordBytes 76

theorem Frame.cnLength_field (frame : Frame) :
    getU16 (before ++ (frame.bytes ++ rest)) (before.length + 16 + 16) = some 40 := by
  have hbytes : frame.bytes ++ rest =
      (wordBytes 76 ++ frame.netlink.toList ++ frame.connector.toList) ++ (leBytes 2 40 ++
        (frame.flags.toList ++ (wordBytes frame.event.what ++ (frame.clock.toList ++
          (frame.event.words.flatMap wordBytes ++ rest))))) := by
    simp [Frame.bytes]
  rw [Nat.add_assoc, getU16_append_right (Nat.le_add_right _ _), Nat.add_sub_cancel_left, hbytes,
    getU16_append_right (by simp)]
  simpa using getU16_leBytes (by decide : (40 : ℕ) < 2 ^ 16)

theorem Frame.what_field (frame : Frame) :
    getU32 (before ++ (frame.bytes ++ rest)) (before.length + headerLength) =
      some frame.event.what := by
  have hbytes : frame.bytes ++ rest =
      (wordBytes 76 ++ frame.netlink.toList ++ frame.connector.toList ++ leBytes 2 40 ++
        frame.flags.toList) ++ (wordBytes frame.event.what ++ (frame.clock.toList ++
          (frame.event.words.flatMap wordBytes ++ rest))) := by
    simp [Frame.bytes]
  rw [getU32_append_right (Nat.le_add_right _ _), Nat.add_sub_cancel_left, hbytes,
    getU32_append_right (by simp [headerLength])]
  simpa [headerLength] using getU32_wordBytes frame.event.what

/-- The `n`-th word of the event's union. -/
theorem Frame.word_field (frame : Frame) {n : ℕ} (hn : n < 6) :
    getU32 (before ++ (frame.bytes ++ rest)) (before.length + headerLength + 16 + 4 * n) =
      frame.event.words[n]? := by
  have hbytes : frame.bytes ++ rest =
      (wordBytes 76 ++ frame.netlink.toList ++ frame.connector.toList ++ leBytes 2 40 ++
        frame.flags.toList ++ wordBytes frame.event.what ++ frame.clock.toList) ++
          (frame.event.words.flatMap wordBytes ++ rest) := by
    simp [Frame.bytes]
  have hoffset : before.length + headerLength + 16 + 4 * n = before.length + (52 + 4 * n) := by
    unfold headerLength
    omega
  rw [hoffset, getU32_append_right (Nat.le_add_right _ _), Nat.add_sub_cancel_left, hbytes,
    getU32_append_right (by simp)]
  simpa using getU32_words (by simpa using hn)

/-- The daemon reads off a frame the process ids of its event. -/
theorem parseEvent_frame (frame : Frame) :
    parseEvent (before ++ (frame.bytes ++ rest)) before.length 76 =
      frame.event.toProcessEvent := by
  have hfirst : getU32 (before ++ (frame.bytes ++ rest)) (before.length + headerLength + 16 + 4) =
      frame.event.words[1]? := frame.word_field (n := 1) (by decide)
  have hthird : getU32 (before ++ (frame.bytes ++ rest)) (before.length + headerLength + 16 + 12) =
      frame.event.words[3]? := frame.word_field (n := 3) (by decide)
  unfold parseEvent
  simp only [frame.cnLength_field, frame.what_field, hfirst, hthird]
  rcases frame.event with _ | _ | _ | ⟨what, words, hwhat⟩
  · simp [KernelEvent.what, KernelEvent.words, KernelEvent.toProcessEvent, headerLength]
  · simp [KernelEvent.what, KernelEvent.words, KernelEvent.toProcessEvent, headerLength,
      procEventFork, procEventExec]
  · simp [KernelEvent.what, KernelEvent.words, KernelEvent.toProcessEvent, headerLength,
      procEventFork, procEventExec, procEventExit]
  · simp only [List.mem_cons, List.not_mem_nil, or_false, not_or] at hwhat
    simp [KernelEvent.what, KernelEvent.toProcessEvent, hwhat]

/-- One frame of the loop. -/
theorem parseFrom_frame (frame : Frame) :
    parseFrom (before ++ (frame.bytes ++ rest)) before.length =
      frame.event.toProcessEvent.toList ++
        parseFrom ((before ++ frame.bytes) ++ rest) (before ++ frame.bytes).length := by
  rw [parseFrom]
  simp only [frame.length_field, Option.getD_some]
  rw [dif_pos (by simp [headerLength]; omega)]
  have hlength : (76 : UInt32).toNat = 76 := rfl
  rw [hlength, parseEvent_frame]
  simp [List.append_assoc]

theorem parseFrom_frames (frames : List Frame) (before : List Byte) :
    parseFrom (before ++ frames.flatMap Frame.bytes) before.length =
      frames.flatMap fun frame => frame.event.toProcessEvent.toList := by
  induction frames generalizing before with
  | nil =>
      rw [parseFrom]
      simp [headerLength]
  | cons frame frames ih =>
      rw [List.flatMap_cons, List.flatMap_cons, parseFrom_frame, ih]

/-- **A datagram of frames is read as the events of its frames.** -/
theorem parseMessages_frames (frames : List Frame) :
    parseMessages (frames.flatMap Frame.bytes) =
      frames.flatMap fun frame => frame.event.toProcessEvent.toList :=
  parseFrom_frames frames []

end frames

end ProtonVpnOmarchy.Splitd
