import ProtonVpnOmarchy.Lib.Arrivals
import ProtonVpnOmarchy.Lib.Fallible
import ProtonVpnOmarchy.Lib.Records

/-!
# The channel to the Local Agent

Frames of `vendor/local-agent-rs/src/transport_stream.rs`: four bytes of length, and a payload of JSON.
The serializer is a parameter. A frame is read in two reads of exact lengths; what arrives is split
anyhow, and a read that is given up loses what it had taken.

* `readPieces_recvPayload` — frames come out as they went in, if no read is given up within a frame.
* `recvPayload_chunks` — how the bytes were split makes no difference.
* `recvPayload_send` — what is sent can be received.
* `recvTokens_abandoned` — a read that is given up within a frame takes its next length from what was
  left of the frame.
-/

namespace ProtonVpnOmarchy.Agent.LocalAgent

open Lib

/-! ## Messages -/

/-- The errors that the modelled code gives. Source: `error.rs` `Error` -/
inductive AgentError where
  | default
  | tokio (error : String)
  | noStatusReturned
  | getStatusError (code : UInt32) (description : String)
  | jsonError
  | tokioElapsed
  | invalidAgentConnection (text : String)
  | requestTooLarge (length : ℕ)
  | responseTooLarge (length : ℕ)
  | portForwarding (text : String)
  | bincode (error : String)
  deriving DecidableEq

/-- Source: `error.rs` `Error`, the texts of its attributes -/
def AgentError.display : AgentError → String
  | .default => "Default error"
  | .tokio error => "Tokio IO error: " ++ error
  | .noStatusReturned => "No status from local agent"
  | .getStatusError _ _ => "Error received from local agent server"
  | .jsonError => "An error from json conversion"
  | .tokioElapsed => "Tokio elapsed error: deadline has elapsed"
  | .invalidAgentConnection text => "Invalid agent connection: " ++ text
  | .requestTooLarge length => "Local Agent request is too large: " ++ toString length ++ " bytes"
  | .responseTooLarge length => "Local Agent response is too large: " ++ toString length ++ " bytes"
  | .portForwarding text => "Port Forwarding: " ++ text
  | .bincode error => "Bincode: " ++ error

/-- Source: `message.rs` `State` -/
inductive State where
  | connected
  | hardJailed
  deriving DecidableEq

/-- Source: `message.rs` `Reason` -/
structure Reason where
  code : Int32
  isFinal : Bool
  description : String
  deriving DecidableEq

/-- Source: `message.rs` `ConnectionDetails` -/
structure ConnectionDetails where
  deviceIp : Option String
  deviceCountry : Option String
  serverIpv4 : Option String
  serverIpv6 : Option String
  deriving DecidableEq

/-- Source: `message.rs` `NetshieldStats` -/
structure NetshieldStats where
  malware : Option UInt32
  ads : Option UInt32
  tracker : Option UInt32
  deriving DecidableEq

/-- Source: `message.rs` `FeaturesStatistics` -/
structure FeaturesStatistics where
  netshieldLevel : Option NetshieldStats
  deriving DecidableEq

/-- Source: `agent_features.rs` `AgentFeatures` -/
structure AgentFeatures where
  netshieldLevel : Option UInt8 := none
  randomizedNat : Option Bool := none
  splitTcp : Option Bool := none
  portForwarding : Option Bool := none
  forwardedPort : Option UInt16 := none
  jail : Option Bool := none
  bouncing : Option String := none
  deriving DecidableEq

/-- Source: `message.rs` `StatusMessage` -/
structure StatusMessage where
  state : State
  reason : Option Reason := none
  features : Option AgentFeatures := none
  connectionDetails : Option ConnectionDetails := none
  featuresStatistics : Option FeaturesStatistics := none
  deriving DecidableEq

/-- Source: `message.rs` `ErrorMessage` -/
structure ErrorMessage where
  code : UInt32
  description : String
  deriving DecidableEq

/-- Source: `message.rs` `Response` -/
structure Response where
  status : Option StatusMessage := none
  error : Option ErrorMessage := none
  deriving DecidableEq

/-! ## Frames -/

/-- Source: `transport_stream.rs` -/
def MAX_REQUEST_BYTES : ℕ := 1024 * 1024

/-- Source: `transport_stream.rs` -/
def MAX_RESPONSE_BYTES : ℕ := 4 * 1024 * 1024

/-- What stops a read that waits: its time is over, or the stream fails or ends. -/
inductive Stop where
  | elapsed
  | io (error : String)
  deriving DecidableEq

abbrev Arrivals := List (Arrival Byte Stop)

/-- A payload behind its length. -/
def frame (payload : List Byte) : List Byte := bigEndian 4 payload.length ++ payload

/-- The bytes that are written for a request; the payload is its JSON. Source: `transport_stream.rs`
`TransportStream::send` -/
def send (payload : List Byte) : Except AgentError (List Byte) :=
  if MAX_REQUEST_BYTES < payload.length then .error (.requestTooLarge payload.length)
  else .ok (frame payload)

/-- What follows a length. -/
def afterLength {τ : Type} (read : ℕ → List τ → Got Stop (List Byte) × List τ) :
    Got Stop (List Byte) × List τ → Got Stop (Except AgentError (List Byte)) × List τ
  | (.all header, rest) =>
    if MAX_RESPONSE_BYTES < ofBigEndian header then
      (.all (.error (.responseTooLarge (ofBigEndian header))), rest)
    else ((read (ofBigEndian header) rest).1.map .ok, (read (ofBigEndian header) rest).2)
  | (.stopped reason, rest) => (.stopped reason, rest)
  | (.pending, rest) => (.pending, rest)

/-- The payload of a response. Source: `transport_stream.rs` `TransportStream::recv` -/
def recvPayload (arrivals : Arrivals) : Got Stop (Except AgentError (List Byte)) × Arrivals :=
  afterLength readExact (readExact 4 arrivals)

/-- The same on bytes that are not in chunks. -/
def recvTokens (tokens : List (Byte ⊕ Stop)) :
    Got Stop (Except AgentError (List Byte)) × List (Byte ⊕ Stop) :=
  afterLength readTokens (readTokens 4 tokens)

/-- How the bytes were split makes no difference. -/
theorem recvPayload_chunks (arrivals : Arrivals) :
    ((recvPayload arrivals).1, tokensOf (recvPayload arrivals).2) = recvTokens (tokensOf arrivals) := by
  have hheader := readExact_tokens 4 arrivals
  unfold recvPayload recvTokens
  rw [← hheader]
  rcases readExact 4 arrivals with ⟨header | reason | _, rest⟩
  · have hpayload := readExact_tokens (ofBigEndian header) rest
    simp only [afterLength]
    split_ifs
    · rfl
    · rw [← hpayload]
  · rfl
  · rfl

theorem MAX_RESPONSE_BYTES_lt : MAX_RESPONSE_BYTES < 256 ^ 4 := by decide

/-- A frame that has all arrived is received. -/
theorem recvTokens_frame {payload : List Byte} (h : payload.length ≤ MAX_RESPONSE_BYTES)
    (rest : List (Byte ⊕ Stop)) :
    recvTokens ((frame payload).map .inl ++ rest) = (.all (.ok payload), rest) := by
  have hlength : ofBigEndian (bigEndian 4 payload.length) = payload.length :=
    ofBigEndian_bigEndian (h.trans_lt MAX_RESPONSE_BYTES_lt)
  have hheader := readTokens_all (bigEndian 4 payload.length) (payload.map .inl ++ rest)
  rw [length_bigEndian] at hheader
  unfold recvTokens frame
  rw [List.map_append, List.append_assoc, hheader]
  simp only [afterLength]
  rw [hlength, if_neg (not_lt.mpr h), readTokens_all]
  rfl

theorem recvTokens_stop (reason : Stop) (rest : List (Byte ⊕ Stop)) :
    recvTokens (.inr reason :: rest) = (.stopped reason, rest) := rfl

/-- What comes over the wire: payloads in frames, and stops between them. -/
def wireOf (items : List (List Byte ⊕ Stop)) : List (Byte ⊕ Stop) := wire frame items

/-- What is received for an item. -/
def receivedOf : List Byte ⊕ Stop → Got Stop (Except AgentError (List Byte))
  | .inl payload => .all (.ok payload)
  | .inr reason => .stopped reason

/-- What is left after an item was received, whatever its bytes were split into. -/
theorem recvPayload_item {item : List Byte ⊕ Stop} {items : List (List Byte ⊕ Stop)}
    (hsize : ∀ payload, item = .inl payload → payload.length ≤ MAX_RESPONSE_BYTES) {arrivals : Arrivals}
    (h : tokensOf arrivals = wireOf (item :: items)) :
    (recvPayload arrivals).1 = receivedOf item ∧ tokensOf (recvPayload arrivals).2 = wireOf items := by
  have hchunks := recvPayload_chunks arrivals
  rw [h] at hchunks
  rcases item with payload | reason
  · have hframe : wireOf (.inl payload :: items) = (frame payload).map .inl ++ wireOf items := rfl
    rw [hframe, recvTokens_frame (hsize payload rfl)] at hchunks
    exact ⟨congrArg Prod.fst hchunks, congrArg Prod.snd hchunks⟩
  · have hstop : wireOf (.inr reason :: items) = .inr reason :: wireOf items := rfl
    rw [hstop, recvTokens_stop] at hchunks
    exact ⟨congrArg Prod.fst hchunks, congrArg Prod.snd hchunks⟩

/-- Frames come out as they went in, if no read is given up within a frame. -/
theorem readPieces_recvPayload {items : List (List Byte ⊕ Stop)}
    (hsize : ∀ payload, .inl payload ∈ items → payload.length ≤ MAX_RESPONSE_BYTES)
    {arrivals : Arrivals} (h : tokensOf arrivals = wireOf items) :
    (readPieces recvPayload items.length arrivals).1 = items.map receivedOf ∧
      tokensOf (readPieces recvPayload items.length arrivals).2 = [] :=
  readPieces_wire (fun _ hmem _ _ => recvPayload_item fun payload hitem => hsize payload (hitem ▸ hmem)) h

theorem send_eq_ok {payload written : List Byte} (h : send payload = .ok written) :
    payload.length ≤ MAX_REQUEST_BYTES ∧ written = frame payload := by
  unfold send at h
  split_ifs at h with hlarge
  exact ⟨not_lt.mp hlarge, (Except.ok.inj h).symm⟩

theorem mapM_send_eq_ok {payloads written : List (List Byte)} (h : payloads.mapM send = .ok written) :
    written = payloads.map frame ∧ ∀ payload ∈ payloads, payload.length ≤ MAX_REQUEST_BYTES := by
  induction payloads generalizing written with
  | nil =>
      cases h
      exact ⟨rfl, fun payload hmem => absurd hmem List.not_mem_nil⟩
  | cons payload payloads ih =>
      rw [List.mapM_cons] at h
      obtain ⟨first, hfirst, hrest⟩ := Except.bind_eq_ok.mp h
      obtain ⟨others, hothers, hwritten⟩ := Except.bind_eq_ok.mp hrest
      cases hwritten
      obtain ⟨hsize, rfl⟩ := send_eq_ok hfirst
      obtain ⟨rfl, hsizes⟩ := ih hothers
      refine ⟨rfl, fun payload' hmem => ?_⟩
      rcases List.mem_cons.mp hmem with rfl | hmem
      · exact hsize
      · exact hsizes payload' hmem

theorem wireOf_map_inl (payloads : List (List Byte)) :
    wireOf (payloads.map .inl) = (payloads.map frame).flatten.map .inl := by
  induction payloads with
  | nil => rfl
  | cons payload payloads ih =>
      rw [List.map_cons, List.map_cons, List.flatten_cons, List.map_append, ← ih]
      rfl

/-- What is sent can be received, whatever its bytes are split into. -/
theorem recvPayload_send {payloads written : List (List Byte)} (hsent : payloads.mapM send = .ok written)
    {arrivals : Arrivals} (h : tokensOf arrivals = written.flatten.map .inl) :
    (readPieces recvPayload payloads.length arrivals).1 =
      payloads.map fun payload => .all (.ok payload) := by
  obtain ⟨rfl, hsizes⟩ := mapM_send_eq_ok hsent
  have hwire : tokensOf arrivals = wireOf (payloads.map .inl) := by rw [h, wireOf_map_inl]
  have hfit : ∀ payload, Sum.inl payload ∈ (payloads.map .inl : List (List Byte ⊕ Stop)) →
      payload.length ≤ MAX_RESPONSE_BYTES := by
    intro payload hmem
    obtain ⟨payload', hmem', heq⟩ := List.mem_map.mp hmem
    cases heq
    exact (hsizes payload hmem').trans (by decide)
  have hread := (readPieces_recvPayload hfit hwire).1
  rw [List.length_map, List.map_map] at hread
  exact hread

/-- The bytes of a text of ASCII characters -/
def asciiBytes (text : String) : List Byte := text.toList.map fun c => BitVec.ofNat 8 c.toNat

/-- A request for the status, as JSON -/
def statusGet : List Byte := asciiBytes "\x7b\"status-get\":\x7b\x7d\x7d"

/-- Two frames of it, split in the header of the second one -/
def splitRequests : Arrivals :=
  [.chunk ([0, 0, 0, 17] ++ statusGet ++ [0, 0]), .chunk ([0, 17] ++ statusGet)]

theorem recvPayload_send_statusGet : (readPieces recvPayload 2 splitRequests).1 =
    [statusGet, statusGet].map fun payload => .all (.ok payload) := by
  have hsent : [statusGet, statusGet].mapM send =
      .ok [[0, 0, 0, 17] ++ statusGet, [0, 0, 0, 17] ++ statusGet] := by decide +kernel
  exact recvPayload_send hsent (by decide +kernel)

/-- A read that is given up within a frame takes its next length from what was left of the frame. -/
theorem recvTokens_abandoned {taken left : List Byte} (hleft : left ≠ [])
    (h : (taken ++ left).length ≤ MAX_RESPONSE_BYTES) (rest : List (Byte ⊕ Stop)) :
    recvTokens ((bigEndian 4 (taken ++ left).length ++ taken).map .inl ++
      .inr .elapsed :: (left.map .inl ++ rest)) = (.stopped .elapsed, left.map .inl ++ rest) := by
  have hlength : ofBigEndian (bigEndian 4 (taken ++ left).length) = (taken ++ left).length :=
    ofBigEndian_bigEndian (h.trans_lt MAX_RESPONSE_BYTES_lt)
  have hheader := readTokens_all (bigEndian 4 (taken ++ left).length)
    (taken.map .inl ++ .inr .elapsed :: (left.map .inl ++ rest))
  rw [length_bigEndian] at hheader
  obtain ⟨n, hn⟩ := Nat.exists_eq_succ_of_ne_zero (List.length_pos_iff.mpr hleft).ne'
  have hpayload : readTokens (taken ++ left).length
      (taken.map .inl ++ .inr .elapsed :: (left.map .inl ++ rest)) =
        (.stopped .elapsed, left.map .inl ++ rest) := by
    rw [List.length_append, hn, readTokens_append]
    rfl
  unfold recvTokens
  rw [List.map_append, List.append_assoc, hheader]
  simp only [afterLength]
  rw [hlength, if_neg (not_lt.mpr h), hpayload]
  rfl

end ProtonVpnOmarchy.Agent.LocalAgent
