import ProtonVpnOmarchy.Agent.NativeError

/-!
# The pipe to the browser

`write_pipe_message` and `read_pipe_message` of `web_auth.rs`. A message ends in a NUL byte. The writer
compares one message with `MAX_CDP_MESSAGE_BYTES`; the reader compares what it holds of a message and
the whole of its next read, delimiter and following bytes included, with the same limit.

* `delivered_iff` — calls over one buffer return the messages exactly if every read fits.
* `pipe_delivers_iff` — the same for a given splitting and for all of them, and the bound on what is
  returned.
* `full_message_lost` — a message as long as the limit is written and never returned.
-/

namespace ProtonVpnOmarchy.Agent.WebAuth

open Native

/-! ## The model -/

/-- Source: `web_auth.rs` -/
def MAX_CDP_MESSAGE_BYTES : ℕ := 1024 * 1024

/-- The length of the array that is read into. -/
def CHUNK_BYTES : ℕ := 8192

/-- The bytes that are written. Source: `web_auth.rs` `write_pipe_message` -/
def writePipeMessage (payload : List UInt8) : Except String (List UInt8) :=
  if MAX_CDP_MESSAGE_BYTES < payload.length then .error "browser command exceeds the size limit"
  else .ok (payload ++ [0])

/-- What the reader returns, one read after the other; a read without bytes, or none at all, is the end
of the stream. -/
abbrev Reads := List (Except String (List UInt8))

def channelFailed (error : String) : NativeError :=
  { code := "web_auth_failed", message := "Browser channel failed", source := some error }

def windowClosed : NativeError :=
  { code := "web_auth_cancelled", message := "The isolated browser window was closed" }

def messageTooLong : NativeError :=
  { code := "web_auth_failed", message := "Browser control message exceeds the size limit" }

/-- The loop over the delimiters in the buffer, behind the bytes of `front`: the first message that is
not empty and what follows its delimiter, or what the buffer holds when no delimiter is left. -/
def nextMessage (front : List UInt8) : List UInt8 → List UInt8 ⊕ (List UInt8 × List UInt8)
  | [] => .inl front
  | byte :: buffer =>
    if byte = 0 then
      if front = [] then nextMessage [] buffer else .inr (front, buffer)
    else nextMessage (front ++ [byte]) buffer

/-- The result, the reads that are left and the buffer. Source: `web_auth.rs` `read_pipe_message` -/
def readPipeMessage : Reads → List UInt8 → NativeResult (List UInt8) × Reads × List UInt8
  | [], buffer =>
    match nextMessage [] buffer with
    | .inr (message, buffer) => (.ok message, [], buffer)
    | .inl buffer => (.error windowClosed, [], buffer)
  | read :: reads, buffer =>
    match nextMessage [] buffer with
    | .inr (message, buffer) => (.ok message, read :: reads, buffer)
    | .inl buffer =>
      match read with
      | .error error => (.error (channelFailed error), reads, buffer)
      | .ok chunk =>
        if chunk = [] then (.error windowClosed, reads, buffer)
        else if MAX_CDP_MESSAGE_BYTES < buffer.length + chunk.length then
          (.error messageTooLong, reads, buffer)
        else readPipeMessage reads (buffer ++ chunk)

/-- A number of calls, one after the other. -/
def readMessages : ℕ → Reads → List UInt8 → List (NativeResult (List UInt8)) × Reads × List UInt8
  | 0, reads, buffer => ([], reads, buffer)
  | n + 1, reads, buffer =>
    let (result, reads, buffer) := readPipeMessage reads buffer
    let (results, rest) := readMessages n reads buffer
    (result :: results, rest)

/-! ## Messages and reads -/

/-- A message that is written and is not empty. -/
structure Message where
  bytes : List UInt8
  nonempty : bytes ≠ []
  noDelimiter : 0 ∉ bytes
  accepted : ∃ written, writePipeMessage bytes = .ok written

/-- The bytes that a message is written as. -/
def Message.written (message : Message) : List UInt8 := message.bytes ++ [0]

theorem Message.writePipeMessage_eq (message : Message) :
    writePipeMessage message.bytes = .ok message.written := by
  obtain ⟨written, h⟩ := message.accepted
  unfold writePipeMessage at h ⊢
  split_ifs at h ⊢
  rfl

/-- What messages are written as, one after the other. -/
def stream (messages : List Message) : List UInt8 := messages.flatMap Message.written

/-- A way of splitting what is written into reads. -/
structure Splits (messages : List Message) (chunks : List (List UInt8)) : Prop where
  flatten : chunks.flatten = stream messages
  length : ∀ chunk ∈ chunks, 1 ≤ chunk.length ∧ chunk.length ≤ CHUNK_BYTES

/-- As many calls as there are messages return the messages, and leave nothing. -/
def Delivered (messages : List Message) (chunks : List (List UInt8)) (buffer : List UInt8) : Prop :=
  readMessages messages.length (chunks.map .ok) buffer =
    (messages.map fun message => .ok message.bytes, [], [])

/-- The bytes behind the last delimiter. -/
def unfinished (bytes : List UInt8) : List UInt8 := bytes.rtakeWhile (· ≠ 0)

/-- Every read, with what was read before of the message that it goes on with, is within the limit. -/
def ReadsFit (buffer : List UInt8) (chunks : List (List UInt8)) : Prop :=
  ∀ before chunk after, chunks = before ++ chunk :: after →
    (unfinished (buffer ++ before.flatten)).length + chunk.length ≤ MAX_CDP_MESSAGE_BYTES

/-- Each message, and as much as one read may hold of its delimiter and what follows, is within the
limit. -/
def LeavesRoom (messages : List Message) : Prop :=
  ∀ before message after, messages = before ++ message :: after →
    message.bytes.length + min CHUNK_BYTES (1 + (stream after).length) ≤ MAX_CDP_MESSAGE_BYTES

theorem stream_cons (message : Message) (messages : List Message) :
    stream (message :: messages) = message.bytes ++ 0 :: stream messages := by
  unfold stream Message.written
  rw [List.flatMap_cons, List.append_assoc]
  rfl

theorem unfinished_of_not_mem {bytes : List UInt8} (h : 0 ∉ bytes) : unfinished bytes = bytes := by
  unfold unfinished
  rw [List.rtakeWhile_eq_self_iff]
  intro byte hbyte
  have hne : byte ≠ 0 := fun hzero => h (hzero ▸ hbyte)
  simpa using hne

theorem unfinished_cons (front bytes : List UInt8) :
    unfinished (front ++ 0 :: bytes) = unfinished bytes := by
  induction bytes using List.reverseRecOn with
  | nil =>
      unfold unfinished
      rw [List.rtakeWhile_concat_neg _ _ _ (by simp)]
      rfl
  | append_singleton bytes byte ih =>
      unfold unfinished at ih ⊢
      rw [← List.cons_append, ← List.append_assoc]
      by_cases hzero : byte = 0
      · rw [List.rtakeWhile_concat_neg _ _ _ (by simp [hzero]),
          List.rtakeWhile_concat_neg _ _ _ (by simp [hzero])]
      · rw [List.rtakeWhile_concat_pos _ _ _ (by simp [hzero]),
          List.rtakeWhile_concat_pos _ _ _ (by simp [hzero]), ih]

theorem readsFit_cons (buffer chunk : List UInt8) (chunks : List (List UInt8)) :
    ReadsFit buffer (chunk :: chunks) ↔
      (unfinished buffer).length + chunk.length ≤ MAX_CDP_MESSAGE_BYTES ∧
        ReadsFit (buffer ++ chunk) chunks := by
  constructor
  · intro h
    refine ⟨by simpa using h [] chunk chunks rfl, ?_⟩
    rintro before chunk' after rfl
    have hfits := h (chunk :: before) chunk' after rfl
    rwa [List.flatten_cons, ← List.append_assoc] at hfits
  · rintro ⟨hfirst, hrest⟩ before chunk' after heq
    rcases before with _ | ⟨first, before⟩
    · obtain ⟨rfl, rfl⟩ := List.cons.inj heq
      rwa [List.flatten_nil, List.append_nil]
    · obtain ⟨rfl, rfl⟩ := List.cons.inj heq
      rw [List.flatten_cons, ← List.append_assoc]
      exact hrest before chunk' after rfl

/-- What stands before a delimiter does not matter to the reads. -/
theorem readsFit_behind (front buffer : List UInt8) (chunks : List (List UInt8)) :
    ReadsFit (front ++ 0 :: buffer) chunks ↔ ReadsFit buffer chunks := by
  unfold ReadsFit
  refine forall₄_congr fun before chunk after _ => ?_
  rw [List.append_assoc, List.cons_append, unfinished_cons]

/-! ## Calls -/

theorem nextMessage_of_not_mem {buffer : List UInt8} (h : 0 ∉ buffer) (front : List UInt8) :
    nextMessage front buffer = .inl (front ++ buffer) := by
  induction buffer generalizing front with
  | nil => rw [nextMessage, List.append_nil]
  | cons byte buffer ih =>
      rw [List.mem_cons, not_or] at h
      rw [nextMessage, if_neg (Ne.symm h.1), ih h.2, List.append_assoc, List.singleton_append]

theorem nextMessage_append {bytes : List UInt8} (h : 0 ∉ bytes) {front : List UInt8}
    (hne : front ++ bytes ≠ []) (buffer : List UInt8) :
    nextMessage front (bytes ++ 0 :: buffer) = .inr (front ++ bytes, buffer) := by
  induction bytes generalizing front with
  | nil =>
      rw [List.append_nil] at hne
      rw [List.nil_append, nextMessage, if_pos rfl, if_neg hne, List.append_nil]
  | cons byte bytes ih =>
      rw [List.mem_cons, not_or] at h
      rw [List.cons_append, nextMessage, if_neg (Ne.symm h.1), ih h.2 (by simp), List.append_assoc,
        List.singleton_append]

/-- A message that is in the buffer is returned. -/
theorem readPipeMessage_buffered (message : Message) (reads : Reads) (buffer : List UInt8) :
    readPipeMessage reads (message.bytes ++ 0 :: buffer) = (.ok message.bytes, reads, buffer) := by
  have hne : [] ++ message.bytes ≠ [] := message.nonempty
  have hnext := nextMessage_append message.noDelimiter hne buffer
  rw [List.nil_append] at hnext
  cases reads with
  | nil => rw [readPipeMessage, hnext]
  | cons read reads => rw [readPipeMessage, hnext]

/-- Without a delimiter in the buffer, more is read. -/
theorem readPipeMessage_unfinished {buffer chunk : List UInt8} (h : 0 ∉ buffer) (hchunk : chunk ≠ [])
    (reads : Reads) :
    readPipeMessage (.ok chunk :: reads) buffer =
      if MAX_CDP_MESSAGE_BYTES < buffer.length + chunk.length then
        (.error messageTooLong, reads, buffer)
      else readPipeMessage reads (buffer ++ chunk) := by
  rw [readPipeMessage, nextMessage_of_not_mem h, List.nil_append]
  dsimp only
  rw [if_neg hchunk]

theorem delivered_buffered (message : Message) (messages : List Message)
    (chunks : List (List UInt8)) (buffer : List UInt8) :
    Delivered (message :: messages) chunks (message.bytes ++ 0 :: buffer) ↔
      Delivered messages chunks buffer := by
  unfold Delivered
  rw [List.length_cons, readMessages, readPipeMessage_buffered, List.map_cons]
  constructor
  · intro heq
    obtain ⟨hresults, hrest⟩ := Prod.mk.inj heq
    exact Prod.ext (List.cons.inj hresults).2 hrest
  · intro heq
    dsimp only
    rw [heq]

theorem delivered_unfinished (message : Message) (messages : List Message)
    {chunk buffer : List UInt8} (h : 0 ∉ buffer) (hchunk : chunk ≠ []) (chunks : List (List UInt8)) :
    Delivered (message :: messages) (chunk :: chunks) buffer ↔
      buffer.length + chunk.length ≤ MAX_CDP_MESSAGE_BYTES ∧
        Delivered (message :: messages) chunks (buffer ++ chunk) := by
  unfold Delivered
  rw [List.length_cons, readMessages, List.map_cons, readPipeMessage_unfinished h hchunk]
  split_ifs with hlong
  · refine iff_of_false ?_ fun hfits => absurd hfits.1 (not_le.mpr hlong)
    intro heq
    cases (List.cons.inj (Prod.mk.inj heq).1).1
  · rw [and_iff_right (not_lt.mp hlong), readMessages]

/-- A buffer that the messages begin with holds the first of them, or a part of it. -/
theorem buffer_cases {message : Message} {messages : List Message} {buffer rest : List UInt8}
    (h : buffer ++ rest = stream (message :: messages)) :
    (∃ buffer', buffer = message.bytes ++ 0 :: buffer' ∧ buffer' ++ rest = stream messages) ∨
      0 ∉ buffer ∧ rest ≠ [] := by
  rw [stream_cons] at h
  rcases List.append_eq_append_iff.mp h with ⟨between, hbytes, hrest⟩ | ⟨between, hbuffer, hstream⟩
  · refine .inr ⟨fun hzero => message.noDelimiter ?_, ?_⟩
    · rw [hbytes]
      exact List.mem_append_left _ hzero
    · rw [hrest]
      simp
  · rcases between with _ | ⟨byte, between⟩
    · rw [List.append_nil] at hbuffer
      refine .inr ⟨hbuffer ▸ message.noDelimiter, ?_⟩
      rw [List.nil_append] at hstream
      rw [← hstream]
      simp
    · obtain ⟨rfl, hrest⟩ := List.cons.inj hstream
      exact .inl ⟨between, hbuffer, hrest.symm⟩

/-- **Calls over one buffer return the messages exactly if every read fits.** -/
theorem delivered_iff {messages : List Message} {chunks : List (List UInt8)} {buffer : List UInt8}
    (hstream : buffer ++ chunks.flatten = stream messages) (hchunks : ∀ chunk ∈ chunks, chunk ≠ []) :
    Delivered messages chunks buffer ↔ ReadsFit buffer chunks := by
  induction messages generalizing chunks buffer with
  | nil =>
      obtain ⟨rfl, hflatten⟩ := List.append_eq_nil_iff.mp hstream
      have hnone : chunks = [] := by
        rcases chunks with _ | ⟨chunk, chunks⟩
        · rfl
        · rw [List.flatten_cons, List.append_eq_nil_iff] at hflatten
          exact absurd hflatten.1 (hchunks chunk List.mem_cons_self)
      subst hnone
      refine iff_of_true rfl ?_
      rintro (_ | ⟨_, _⟩) chunk after ⟨⟩
  | cons message messages ih =>
      induction chunks generalizing buffer with
      | nil =>
          rcases buffer_cases hstream with ⟨buffer', rfl, hrest⟩ | ⟨-, hne⟩
          · rw [delivered_buffered, readsFit_behind, ih hrest hchunks]
          · exact absurd rfl hne
      | cons chunk chunks ihChunks =>
          rcases buffer_cases hstream with ⟨buffer', rfl, hrest⟩ | ⟨hzero, -⟩
          · rw [delivered_buffered, readsFit_behind, ih hrest hchunks]
          · rw [List.flatten_cons, ← List.append_assoc] at hstream
            rw [delivered_unfinished message messages hzero (hchunks chunk List.mem_cons_self),
              readsFit_cons, unfinished_of_not_mem hzero,
              ihChunks hstream fun chunk hmem => hchunks chunk (List.mem_cons_of_mem _ hmem)]

theorem Splits.delivered_iff {messages : List Message} {chunks : List (List UInt8)}
    (h : Splits messages chunks) : Delivered messages chunks [] ↔ ReadsFit [] chunks := by
  refine WebAuth.delivered_iff h.flatten fun chunk hmem hempty => ?_
  have hpos := (h.length chunk hmem).1
  rw [hempty] at hpos
  exact absurd hpos (by decide)

/-! ## All splittings -/

/-- A place inside a stream lies inside one of its messages or at its end. -/
theorem exists_position {messages : List Message} {front rest : List UInt8}
    (h : front ++ rest = stream messages) (hrest : rest ≠ []) :
    ∃ before message after part part', messages = before ++ message :: after ∧
      front = stream before ++ part ∧ part ++ part' = message.bytes ∧
      rest = part' ++ 0 :: stream after := by
  induction messages generalizing front with
  | nil => exact absurd (List.append_eq_nil_iff.mp h).2 hrest
  | cons message messages ih =>
      rw [stream_cons] at h
      rcases List.append_eq_append_iff.mp h with ⟨part', hbytes, hrest'⟩ | ⟨between, hfront, hstream⟩
      · exact ⟨[], message, messages, front, part', rfl, rfl, hbytes.symm, hrest'⟩
      · rcases between with _ | ⟨byte, between⟩
        · rw [List.append_nil] at hfront
          exact ⟨[], message, messages, front, [], rfl, rfl, by rw [List.append_nil, hfront],
            hstream.symm⟩
        · obtain ⟨rfl, hbetween⟩ := List.cons.inj hstream
          obtain ⟨before, message', after, part, part', rfl, rfl, hpart, hrest'⟩ :=
            ih hbetween.symm
          refine ⟨message :: before, message', after, part, part', rfl, ?_, hpart, hrest'⟩
          rw [hfront, stream_cons, List.append_assoc, List.cons_append]

theorem unfinished_stream (messages : List Message) {part : List UInt8} (h : 0 ∉ part) :
    unfinished (stream messages ++ part) = part := by
  induction messages with
  | nil => exact unfinished_of_not_mem h
  | cons message messages ih =>
      rw [stream_cons, List.append_assoc, List.cons_append, unfinished_cons, ih]

/-- With room left, every splitting fits. -/
theorem readsFit_of_leavesRoom {messages : List Message} {chunks : List (List UInt8)}
    (hroom : LeavesRoom messages) (hsplits : Splits messages chunks) : ReadsFit [] chunks := by
  rintro before chunk after rfl
  have hchunk := hsplits.length chunk (by simp)
  have hflatten := hsplits.flatten
  rw [List.flatten_append, List.flatten_cons] at hflatten
  have hrest : chunk ++ after.flatten ≠ [] := by
    intro hnil
    rw [(List.append_eq_nil_iff.mp hnil).1] at hchunk
    exact absurd hchunk.1 (by decide)
  obtain ⟨front, message, back, part, part', rfl, hfront, hpart, hback⟩ :=
    exists_position hflatten hrest
  have hzero : 0 ∉ part := fun hzero =>
    message.noDelimiter (hpart ▸ List.mem_append_left _ hzero)
  rw [List.nil_append, hfront, unfinished_stream front hzero]
  have hlength := congrArg List.length hback
  have hbytes := congrArg List.length hpart
  simp only [List.length_append, List.length_cons] at hlength hbytes
  have hbound := hroom front message back rfl
  rcases le_total CHUNK_BYTES (1 + (stream back).length) with hle | hle
  · rw [min_eq_left hle] at hbound
    omega
  · rw [min_eq_right hle] at hbound
    omega

/-- One byte in each read. -/
def singly (bytes : List UInt8) : List (List UInt8) := bytes.map fun byte => [byte]

theorem flatten_singly (bytes : List UInt8) : (singly bytes).flatten = bytes := by
  unfold singly
  rw [← List.flatMap_def, List.flatMap_singleton']

theorem length_of_mem_singly {bytes chunk : List UInt8} (h : chunk ∈ singly bytes) :
    1 ≤ chunk.length ∧ chunk.length ≤ CHUNK_BYTES := by
  obtain ⟨byte, -, rfl⟩ := List.mem_map.mp h
  rw [List.length_singleton]
  decide

/-- The splitting in which a read begins with the delimiter of a message and is as long as it may be. -/
theorem splits_at_delimiter (before : List Message) (message : Message) (after : List Message) :
    Splits (before ++ message :: after)
      (singly (stream before ++ message.bytes) ++
        (0 :: stream after).take CHUNK_BYTES :: singly ((0 :: stream after).drop CHUNK_BYTES)) where
  flatten := by
    rw [List.flatten_append, List.flatten_cons, flatten_singly, flatten_singly,
      List.take_append_drop, List.append_assoc, ← stream_cons]
    exact List.flatMap_append.symm
  length := by
    intro chunk hchunk
    rcases List.mem_append.mp hchunk with h | h
    · exact length_of_mem_singly h
    · rcases List.mem_cons.mp h with rfl | h
      · rw [List.length_take, List.length_cons]
        have hpos : 1 ≤ CHUNK_BYTES := by decide
        omega
      · exact length_of_mem_singly h

theorem leavesRoom_of_readsFit {messages : List Message}
    (h : ∀ chunks, Splits messages chunks → ReadsFit [] chunks) : LeavesRoom messages := by
  rintro before message after rfl
  have hfits := h _ (splits_at_delimiter before message after) _ _ _ rfl
  rw [List.nil_append, flatten_singly, unfinished_stream before message.noDelimiter,
    List.length_take, List.length_cons] at hfits
  rwa [Nat.add_comm 1]

/-! ## What is returned -/

theorem length_nextMessage {front buffer : List UInt8} :
    (∀ rest, nextMessage front buffer = .inl rest → rest.length ≤ front.length + buffer.length) ∧
      ∀ message rest, nextMessage front buffer = .inr (message, rest) →
        message.length + rest.length ≤ front.length + buffer.length := by
  induction buffer generalizing front with
  | nil =>
      refine ⟨?_, nofun⟩
      rintro rest ⟨⟩
      exact le_rfl
  | cons byte buffer ih =>
      rw [nextMessage, List.length_cons]
      split_ifs with hzero hempty
      · obtain ⟨hleft, hright⟩ := @ih []
        rw [List.length_nil, Nat.zero_add] at hleft hright
        exact ⟨fun rest hrest => (hleft rest hrest).trans (by omega),
          fun message rest hrest => (hright message rest hrest).trans (by omega)⟩
      · refine ⟨nofun, ?_⟩
        rintro message rest ⟨⟩
        omega
      · obtain ⟨hleft, hright⟩ := @ih (front ++ [byte])
        rw [List.length_append, List.length_singleton] at hleft hright
        exact ⟨fun rest hrest => (hleft rest hrest).trans (by omega),
          fun message rest hrest => (hright message rest hrest).trans (by omega)⟩

/-- A call keeps the buffer within the limit, and what it returns was in the buffer. -/
theorem length_readPipeMessage (reads : Reads) {buffer : List UInt8}
    (h : buffer.length ≤ MAX_CDP_MESSAGE_BYTES) :
    (readPipeMessage reads buffer).2.2.length ≤ MAX_CDP_MESSAGE_BYTES ∧
      ∀ message, (readPipeMessage reads buffer).1 = .ok message →
        message.length ≤ MAX_CDP_MESSAGE_BYTES := by
  induction reads generalizing buffer with
  | nil =>
      obtain ⟨hleft, hright⟩ := @length_nextMessage [] buffer
      rw [List.length_nil, Nat.zero_add] at hleft hright
      rw [readPipeMessage]
      rcases hnext : nextMessage [] buffer with rest | ⟨message, rest⟩
      · exact ⟨(hleft rest hnext).trans h, nofun⟩
      · have hle := hright message rest hnext
        refine ⟨by dsimp only; omega, ?_⟩
        rintro message' ⟨⟩
        omega
  | cons read reads ih =>
      obtain ⟨hleft, hright⟩ := @length_nextMessage [] buffer
      rw [List.length_nil, Nat.zero_add] at hleft hright
      rw [readPipeMessage]
      rcases hnext : nextMessage [] buffer with rest | ⟨message, rest⟩
      · have hle := (hleft rest hnext).trans h
        rcases read with error | chunk
        · exact ⟨hle, nofun⟩
        · dsimp only
          split_ifs with hempty hlong
          · exact ⟨hle, nofun⟩
          · exact ⟨hle, nofun⟩
          · exact ih (by rw [List.length_append]; omega)
      · have hle := hright message rest hnext
        refine ⟨by dsimp only; omega, ?_⟩
        rintro message' ⟨⟩
        omega

/-- Nothing longer than the limit is ever returned. -/
theorem length_of_mem_readMessages (n : ℕ) (reads : Reads) {buffer : List UInt8}
    (h : buffer.length ≤ MAX_CDP_MESSAGE_BYTES) :
    ∀ message, .ok message ∈ (readMessages n reads buffer).1 →
      message.length ≤ MAX_CDP_MESSAGE_BYTES := by
  induction n generalizing reads buffer with
  | zero => exact fun message hmem => absurd hmem List.not_mem_nil
  | succ n ih =>
      intro message hmem
      obtain ⟨hbuffer, hreturned⟩ := length_readPipeMessage reads h
      rw [readMessages] at hmem
      rcases List.mem_cons.mp hmem with heq | hmem
      · exact hreturned message heq.symm
      · exact ih _ hbuffer message hmem

/-- **The messages are returned, whole and in order, exactly if every read fits; they are for every
splitting exactly if each message leaves room for one read behind it. Nothing longer than the limit is
ever returned.** -/
theorem pipe_delivers_iff (messages : List Message) :
    (∀ chunks, Splits messages chunks → (Delivered messages chunks [] ↔ ReadsFit [] chunks)) ∧
    ((∀ chunks, Splits messages chunks → Delivered messages chunks []) ↔ LeavesRoom messages) ∧
    ∀ n reads message, .ok message ∈ (readMessages n reads []).1 →
      message.length ≤ MAX_CDP_MESSAGE_BYTES := by
  refine ⟨fun chunks => Splits.delivered_iff, ⟨?_, ?_⟩,
    fun n reads => length_of_mem_readMessages n reads (Nat.zero_le _)⟩
  · intro hall
    exact leavesRoom_of_readsFit fun chunks hsplits =>
      hsplits.delivered_iff.mp (hall chunks hsplits)
  · intro hroom chunks hsplits
    exact hsplits.delivered_iff.mpr (readsFit_of_leavesRoom hroom hsplits)

/-- A message as long as the limit. -/
def fullMessage : Message where
  bytes := List.replicate MAX_CDP_MESSAGE_BYTES 1
  nonempty := by
    rw [ne_eq, List.replicate_eq_nil_iff]
    decide
  noDelimiter := by
    rw [List.mem_replicate]
    decide
  accepted := by
    refine ⟨_, if_neg ?_⟩
    rw [List.length_replicate]
    exact lt_irrefl _

/-- It is written, and its delimiter does not fit behind it. -/
theorem full_message_lost :
    ∃ messages chunks, Splits messages chunks ∧ ¬ Delivered messages chunks [] := by
  have hsplits := splits_at_delimiter [] fullMessage []
  refine ⟨_, _, hsplits, fun hdelivered => ?_⟩
  have hread := hsplits.delivered_iff.mp hdelivered _ _ _ rfl
  rw [List.nil_append, flatten_singly, unfinished_stream [] fullMessage.noDelimiter] at hread
  have hlength : fullMessage.bytes.length = MAX_CDP_MESSAGE_BYTES := List.length_replicate
  have hpos : 1 ≤ ((0 :: stream []).take CHUNK_BYTES).length := by decide
  rw [hlength] at hread
  omega

end ProtonVpnOmarchy.Agent.WebAuth
