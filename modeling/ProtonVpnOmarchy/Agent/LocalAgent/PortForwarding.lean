import ProtonVpnOmarchy.Agent.LocalAgent.Basic

/-!
# Leases of a forwarded port

The NAT-PMP exchange of `vendor/local-agent-rs/src/port_forwarding.rs`: a request of twelve bytes, a
reply of sixteen, and attempts whose time doubles. Only the end of the time of a reply leads to another
attempt.

* `deserialize_serialize` — a reply is read as it was written.
* `requestPortForwarding_eq_ok` — a port is returned exactly if the first reply grants it.
* `times_requestPortForwarding` — the times of the attempts, and how long a request can take.
-/

namespace ProtonVpnOmarchy.Agent.LocalAgent.PortForwarding

open Lib

/-! ## Messages -/

/-- Source: `port_forwarding.rs` `NatPmpRequestOp` -/
inductive NatPmpRequestOp where
  | externalAddress
  | udp
  | tcp
  deriving DecidableEq

/-- The number of an operation in a request. -/
def NatPmpRequestOp.code : NatPmpRequestOp → UInt8
  | .externalAddress => 0
  | .udp => 1
  | .tcp => 2

/-- Source: `port_forwarding.rs` `NatPmpReplyOp` -/
inductive NatPmpReplyOp where
  | udp
  | tcp
  deriving DecidableEq

/-- The number of an operation in a reply. -/
def NatPmpReplyOp.code : NatPmpReplyOp → UInt8
  | .udp => 129
  | .tcp => 130

def PROTOCOL_VERSION_NATPMP : UInt8 := 0

def DEFAULT_PORT_LIFETIME : UInt32 := 60

/-- Source: `port_forwarding.rs` `Request` -/
structure Request where
  version : UInt8
  operation : UInt8
  reserved : UInt16
  internalPort : UInt16
  externalPort : UInt16
  lifetimeSeconds : UInt32
  deriving DecidableEq

/-- Source: `port_forwarding.rs` `Request::new` -/
def Request.new (operation : NatPmpRequestOp) : Request where
  version := PROTOCOL_VERSION_NATPMP
  operation := operation.code
  reserved := 0
  internalPort := 0
  externalPort := 0
  lifetimeSeconds := DEFAULT_PORT_LIFETIME

/-- Source: `port_forwarding.rs` `Response` -/
structure Response where
  version : UInt8
  operation : UInt8
  responseCode : UInt16
  gatewayEpochSeconds : UInt32
  internalPort : UInt16
  externalPort : UInt16
  lifetimeSeconds : UInt32
  deriving DecidableEq

/-- The fields of a request, as `bincode` writes them. -/
def Request.fields (request : Request) : List (ℕ × ℕ) :=
  [(1, request.version.toNat), (1, request.operation.toNat), (2, request.reserved.toNat),
    (2, request.internalPort.toNat), (2, request.externalPort.toNat), (4, request.lifetimeSeconds.toNat)]

/-- The fields of a reply, as `bincode` writes them. -/
def Response.fields (response : Response) : List (ℕ × ℕ) :=
  [(1, response.version.toNat), (1, response.operation.toNat), (2, response.responseCode.toNat),
    (4, response.gatewayEpochSeconds.toNat), (2, response.internalPort.toNat),
    (2, response.externalPort.toNat), (4, response.lifetimeSeconds.toNat)]

def Request.serialize (request : Request) : List Byte := writeRecord request.fields

def Response.serialize (response : Response) : List Byte := writeRecord response.fields

/-- A reply, read with trailing bytes allowed. -/
def Response.deserialize (bytes : List Byte) : Except AgentError Response :=
  match readRecord [1, 1, 2, 4, 2, 2, 4] bytes with
  | some [version, operation, code, epoch, internal, external, lifetime] => .ok
    { version := .ofNat version
      operation := .ofNat operation
      responseCode := .ofNat code
      gatewayEpochSeconds := .ofNat epoch
      internalPort := .ofNat internal
      externalPort := .ofNat external
      lifetimeSeconds := .ofNat lifetime }
  | _ => .error (.bincode "io error: unexpected end of file")

theorem fields_fit (response : Response) : ∀ field ∈ response.fields, field.2 < 256 ^ field.1 := by
  have hversion := response.version.toNat_lt
  have hoperation := response.operation.toNat_lt
  have hcode := response.responseCode.toNat_lt
  have hepoch := response.gatewayEpochSeconds.toNat_lt
  have hinternal := response.internalPort.toNat_lt
  have hexternal := response.externalPort.toNat_lt
  have hlifetime := response.lifetimeSeconds.toNat_lt
  intro field hmem
  simp only [Response.fields, List.mem_cons, List.not_mem_nil, or_false] at hmem
  rcases hmem with rfl | rfl | rfl | rfl | rfl | rfl | rfl
  all_goals
    dsimp only
    omega

/-- A reply is read as it was written, whatever follows it. -/
theorem deserialize_serialize (response : Response) (rest : List Byte) :
    Response.deserialize (response.serialize ++ rest) = .ok response := by
  have hread := readRecord_writeRecord (fields_fit response) rest
  unfold Response.deserialize Response.serialize
  rw [show [1, 1, 2, 4, 2, 2, 4] = response.fields.map Prod.fst from rfl, hread]
  simp only [Response.fields, List.map_cons, List.map_nil, UInt8.ofNat_toNat, UInt16.ofNat_toNat,
    UInt32.ofNat_toNat]

theorem length_serialize (request : Request) : request.serialize.length = 12 := length_writeRecord _

theorem length_serialize_response (response : Response) : response.serialize.length = 16 :=
  length_writeRecord _

/-! ## Attempts -/

/-- `tokio::time::timeout` -/
inductive Waited (β : Type) where
  | done (result : Except AgentError β)
  | elapsed
  deriving DecidableEq

/-- What becomes of an attempt: whether the request is sent in time, and the datagram that comes back in
time. -/
structure Attempt where
  send : Waited Unit
  recv : Waited (List Byte)

/-- The length of a reply. -/
def BYTE_SIZE : ℕ := 16

/-- A datagram, received into an array of sixteen bytes. Source: `port_forwarding.rs`
`NetworkTransport::recv` -/
def received (datagram : List Byte) : Except AgentError (List Byte) :=
  if datagram.length < BYTE_SIZE then
    .error (.portForwarding
      ("Protocol error incorrect number of bytes returned in nat-pmp response " ++
        toString datagram.length))
  else .ok (datagram.take BYTE_SIZE)

/-- Whether a reply answers the operation. -/
def answers : NatPmpRequestOp → UInt8 → Bool
  | .tcp, code => code = NatPmpReplyOp.tcp.code
  | .udp, code => code = NatPmpReplyOp.udp.code
  | .externalAddress, _ => false

/-- What a reply is worth: the port, or an error. -/
def granted (operation : NatPmpRequestOp) (bytes : List Byte) : Except AgentError UInt16 := do
  let response ← Response.deserialize bytes
  if response.responseCode ≠ 0 then
    .error (.portForwarding ("Failed to request port forwarding, response code: " ++
      toString response.responseCode.toNat))
  else if answers operation response.operation then .ok response.internalPort
  else .error (.portForwarding ("Failed to request port forwarding, unexpected response code: " ++
    toString response.responseCode.toNat))

/-- What an attempt leads to, if not to another one. -/
def Attempt.outcome (operation : NatPmpRequestOp) (attempt : Attempt) :
    Option (Except AgentError UInt16) :=
  match attempt.send with
  | .elapsed => some (.error .tokioElapsed)
  | .done (.error error) => some (.error error)
  | .done (.ok ()) =>
    match attempt.recv with
    | .elapsed => none
    | .done datagram => some (datagram >>= received >>= granted operation)

/-- The loop over the attempts that are left, and the time that each of them is given. -/
def attemptsFrom (operation : NatPmpRequestOp) (attempts : ℕ → Attempt) :
    (left attempt timeout : ℕ) → Except AgentError UInt16 × List ℕ
  | 0, _, _ => (.error (.portForwarding "Exhausted maximum retries"), [])
  | left + 1, attempt, timeout =>
    match (attempts attempt).outcome operation with
    | some result => (result, [timeout])
    | none =>
      let (result, timeouts) := attemptsFrom operation attempts left (attempt + 1) (timeout * 2)
      (result, timeout :: timeouts)

/-- Source: `port_forwarding.rs` `request_port_forwarding` -/
def requestPortForwarding (operation : NatPmpRequestOp) (attempts : ℕ → Attempt)
    (timeoutInSeconds maxRetries : ℕ) : Except AgentError UInt16 × List ℕ :=
  attemptsFrom operation attempts (maxRetries + 1) 0 timeoutInSeconds

section attempts

variable {operation : NatPmpRequestOp} {attempts : ℕ → Attempt}

variable (operation attempts) in
/-- How the attempts end: with the first one that leads to something. -/
theorem attemptsFrom_cases (left attempt timeout : ℕ) :
    (∃ n < left, (∀ k < n, (attempts (attempt + k)).outcome operation = none) ∧
      (attempts (attempt + n)).outcome operation =
        some (attemptsFrom operation attempts left attempt timeout).1 ∧
      (attemptsFrom operation attempts left attempt timeout).2 =
        (List.range (n + 1)).map (timeout * 2 ^ ·)) ∨
    ((∀ k < left, (attempts (attempt + k)).outcome operation = none) ∧
      attemptsFrom operation attempts left attempt timeout =
        (.error (.portForwarding "Exhausted maximum retries"),
          (List.range left).map (timeout * 2 ^ ·))) := by
  induction left generalizing attempt timeout with
  | zero => exact .inr ⟨fun k hk => absurd hk (Nat.not_lt_zero k), rfl⟩
  | succ left ih =>
      cases houtcome : (attempts attempt).outcome operation with
      | some result =>
          have hhere : attemptsFrom operation attempts (left + 1) attempt timeout =
              (result, [timeout]) := by
            rw [attemptsFrom, houtcome]
          refine .inl ⟨0, Nat.succ_pos left, fun k hk => absurd hk (Nat.not_lt_zero k), ?_, ?_⟩
          · rw [Nat.add_zero, houtcome, hhere]
          · rw [hhere]
            simp
      | none =>
          have hnext : attemptsFrom operation attempts (left + 1) attempt timeout =
              ((attemptsFrom operation attempts left (attempt + 1) (timeout * 2)).1,
                timeout :: (attemptsFrom operation attempts left (attempt + 1) (timeout * 2)).2) := by
            rw [attemptsFrom, houtcome]
          have hearlier : ∀ n, (∀ k < n, (attempts (attempt + 1 + k)).outcome operation = none) →
              ∀ k < n + 1, (attempts (attempt + k)).outcome operation = none := by
            intro n h k hk
            rcases k with _ | k
            · exact houtcome
            · have hthen := h k (Nat.lt_of_succ_lt_succ hk)
              rwa [Nat.add_assoc, Nat.add_comm 1 k] at hthen
          have htimes : ∀ n, timeout :: (List.range n).map (timeout * 2 * 2 ^ ·) =
              (List.range (n + 1)).map (timeout * 2 ^ ·) := by
            intro n
            rw [List.range_succ_eq_map, List.map_cons, List.map_map, pow_zero, Nat.mul_one]
            congr 1
            apply List.map_congr_left
            intro k _
            dsimp only [Function.comp_apply]
            rw [pow_succ, Nat.mul_assoc, Nat.mul_comm 2]
          rcases ih (attempt + 1) (timeout * 2) with ⟨n, hlt, hnone, hsome, htime⟩ | ⟨hnone, hend⟩
          · refine .inl ⟨n + 1, Nat.succ_lt_succ hlt, hearlier n hnone, ?_, ?_⟩
            · rw [hnext, ← hsome, Nat.add_assoc, Nat.add_comm 1 n]
            · rw [hnext, htime, htimes]
          · refine .inr ⟨hearlier left hnone, ?_⟩
            rw [hnext, hend, htimes]

/-- A request returns what the first attempt leads to that leads to anything. -/
theorem fst_requestPortForwarding_eq {timeout maxRetries n : ℕ} (hn : n ≤ maxRetries)
    (hnone : ∀ k < n, (attempts k).outcome operation = none) {result : Except AgentError UInt16}
    (hsome : (attempts n).outcome operation = some result) :
    (requestPortForwarding operation attempts timeout maxRetries).1 = result := by
  unfold requestPortForwarding
  rcases attemptsFrom_cases operation attempts (maxRetries + 1) 0 timeout
    with ⟨m, hlt, hnone', hsome', -⟩ | ⟨hnone', -⟩
  · simp only [Nat.zero_add] at hnone' hsome'
    rcases Nat.lt_trichotomy m n with hmn | rfl | hnm
    · rw [hnone m hmn] at hsome'
      cases hsome'
    · rw [hsome] at hsome'
      exact (Option.some.inj hsome').symm
    · rw [hnone' n hnm] at hsome
      cases hsome
  · have h := hnone' n (Nat.lt_succ_of_le hn)
    rw [Nat.zero_add, hsome] at h
    cases h

theorem outcome_eq_ok {attempt : Attempt} {port : UInt16} :
    attempt.outcome operation = some (.ok port) ↔
      attempt.send = .done (.ok ()) ∧ ∃ datagram, attempt.recv = .done (.ok datagram) ∧
        BYTE_SIZE ≤ datagram.length ∧ granted operation (datagram.take BYTE_SIZE) = .ok port := by
  obtain ⟨send, recv⟩ := attempt
  constructor
  · intro h
    rcases send with (error | ⟨⟩) | _
    · cases h
    · rcases recv with (error | datagram) | _
      · cases h
      · have h' : (received datagram >>= granted operation) = .ok port := Option.some.inj h
        unfold received at h'
        split_ifs at h' with hlength
        · cases h'
        · exact ⟨rfl, datagram, rfl, not_lt.mp hlength, h'⟩
      · cases h
    · cases h
  · rintro ⟨hsend, datagram, hrecv, hlength, hgranted⟩
    dsimp only at hsend hrecv
    subst hsend hrecv
    change some (received datagram >>= granted operation) = _
    unfold received
    rw [if_neg (not_lt.mpr hlength)]
    exact congrArg some hgranted

theorem outcome_eq_none {attempt : Attempt} :
    attempt.outcome operation = none ↔ attempt.send = .done (.ok ()) ∧ attempt.recv = .elapsed := by
  obtain ⟨send, recv⟩ := attempt
  rcases send with (error | ⟨⟩) | _ <;> rcases recv with (error | datagram) | _ <;>
    simp [Attempt.outcome]

theorem granted_eq_ok {bytes : List Byte} {port : UInt16} :
    granted operation bytes = .ok port ↔ ∃ response, Response.deserialize bytes = .ok response ∧
      response.responseCode = 0 ∧ answers operation response.operation = true ∧
        response.internalPort = port := by
  unfold granted
  cases hread : Response.deserialize bytes with
  | error error =>
      refine ⟨fun h => ?_, ?_⟩
      · cases h
      · rintro ⟨response, hresponse, -⟩
        cases hresponse
  | ok response =>
      dsimp only [bind, Except.bind]
      split_ifs with hcode hanswers
      · refine ⟨fun h => ?_, ?_⟩
        · cases h
        · rintro ⟨response', hresponse, hzero, -⟩
          cases hresponse
          exact absurd hzero hcode
      · have hzero : response.responseCode = 0 := not_not.mp hcode
        constructor
        · rintro h
          exact ⟨response, rfl, hzero, hanswers, Except.ok.inj h⟩
        · rintro ⟨response', hresponse, -, -, rfl⟩
          cases hresponse
          rfl
      · refine ⟨fun h => ?_, ?_⟩
        · cases h
        · rintro ⟨response', hresponse, -, hanswers', -⟩
          cases hresponse
          exact absurd hanswers' hanswers

/-- An attempt that is granted a port: the request was sent in time, and a reply came in time that
answers the operation, without an error, for the port. -/
def Attempt.Grants (operation : NatPmpRequestOp) (attempt : Attempt) (port : UInt16) : Prop :=
  attempt.send = .done (.ok ()) ∧ ∃ datagram response, attempt.recv = .done (.ok datagram) ∧
    BYTE_SIZE ≤ datagram.length ∧ Response.deserialize (datagram.take BYTE_SIZE) = .ok response ∧
    response.responseCode = 0 ∧ answers operation response.operation = true ∧
    response.internalPort = port

theorem grants_iff {attempt : Attempt} {port : UInt16} :
    attempt.Grants operation port ↔ attempt.outcome operation = some (.ok port) := by
  rw [outcome_eq_ok]
  constructor
  · rintro ⟨hsend, datagram, response, hrecv, hlength, hread, hcode, hanswers, hport⟩
    exact ⟨hsend, datagram, hrecv, hlength,
      granted_eq_ok.mpr ⟨response, hread, hcode, hanswers, hport⟩⟩
  · rintro ⟨hsend, datagram, hrecv, hlength, hgranted⟩
    obtain ⟨response, hread, hcode, hanswers, hport⟩ := granted_eq_ok.mp hgranted
    exact ⟨hsend, datagram, response, hrecv, hlength, hread, hcode, hanswers, hport⟩

variable (operation attempts) in
/-- Each attempt is given twice the time of the one before. -/
theorem times_requestPortForwarding (timeout maxRetries : ℕ) :
    ∃ n ≤ maxRetries + 1, (requestPortForwarding operation attempts timeout maxRetries).2 =
      (List.range n).map (timeout * 2 ^ ·) := by
  unfold requestPortForwarding
  rcases attemptsFrom_cases operation attempts (maxRetries + 1) 0 timeout
    with ⟨n, hlt, -, -, htimes⟩ | ⟨-, hend⟩
  · exact ⟨n + 1, hlt, htimes⟩
  · exact ⟨maxRetries + 1, le_rfl, by rw [hend]⟩

theorem sum_doubling (timeout n : ℕ) :
    ((List.range n).map (timeout * 2 ^ ·)).sum = timeout * (2 ^ n - 1) := by
  induction n with
  | zero => rfl
  | succ n ih =>
      have hpos : 1 ≤ 2 ^ n := Nat.one_le_two_pow
      rw [List.range_succ, List.map_append, List.sum_append, ih, List.map_singleton,
        List.sum_singleton, ← Nat.mul_add]
      congr 1
      rw [pow_succ]
      omega

/-- A request takes no longer than all its attempts, each with its time for the request and for the
reply. -/
theorem sum_times_le (timeout maxRetries : ℕ) :
    2 * (requestPortForwarding operation attempts timeout maxRetries).2.sum ≤
      2 * timeout * (2 ^ (maxRetries + 1) - 1) := by
  obtain ⟨n, hn, htimes⟩ :=
    times_requestPortForwarding operation attempts timeout maxRetries
  have hpow : 2 ^ n - 1 ≤ 2 ^ (maxRetries + 1) - 1 :=
    Nat.sub_le_sub_right (Nat.pow_le_pow_right (by decide) hn) 1
  rw [htimes, sum_doubling, ← Nat.mul_assoc]
  exact Nat.mul_le_mul_left _ hpow

end attempts

end ProtonVpnOmarchy.Agent.LocalAgent.PortForwarding
