import ProtonVpnOmarchy.Agent.AlternativeRouting
import ProtonVpnOmarchy.Lib.StableSort

/-!
# The resolver of the recovery tunnel

The parser of the DNS replies that the recovery tunnel resolves the API with. It is written
independently of the one for alternative routes: names are limited in length, and the pointers in
them have to stay inside the message.

* `skipName_eq_ok`, `format_readAnswer` — what each reader accepts.
* `parse_format` — the parser never indexes out of bounds, accepts exactly the replies in the
  format with a usable address, and returns these addresses in strictly increasing order.
-/

namespace ProtonVpnOmarchy.Agent.GuestHoleDns

open Lib Lib.Dns Splitd Native
open AlternativeRouting (DnsResult rejectWhen okOr rejectWhen_eq_ok inBounds_rejectWhen)

/-- `SocketAddr` of an IPv4 address -/
structure SocketAddr where
  ip : Ipv4Addr
  port : ℕ
  deriving DecidableEq

/-- The order of socket addresses: by address, then by port. -/
def SocketAddr.key (address : SocketAddr) : ℕ ×ₗ ℕ := toLex (address.ip.toNat, address.port)

/-- The error of `parse`. -/
def invalid : NativeError where
  code := "guest_hole_dns_failed"
  message := "The recovery DNS reply is invalid"
  retryable := true

/-- Source: `guest_hole/dns.rs` `dns_error` -/
def dnsError (error : String) : NativeError where
  code := "guest_hole_dns_failed"
  message := "The recovery tunnel could not resolve the Proton API"
  source := some error
  retryable := true

/-! ## Addresses -/

/-- `Ipv4Addr::is_loopback` -/
def isLoopback (address : Ipv4Addr) : Bool := address.extractLsb' 24 8 = 127

/-- `Ipv4Addr::is_multicast` -/
def isMulticast (address : Ipv4Addr) : Bool :=
  224 ≤ address.extractLsb' 24 8 && address.extractLsb' 24 8 ≤ 239

/-- An address that a recovery connection can be made to: it is not unspecified, not a loopback,
multicast or broadcast address. -/
def usable (address : Ipv4Addr) : Bool :=
  !(address = 0) && !isLoopback address && !isMulticast address && !(address = 0xffffffff)

/-! ## The parser -/

/-- The loop of `skip_name` with a number of rounds left. -/
def skipItems (data : List Byte) : ℕ → ℕ → DnsResult ℕ
  | 0, _ => .error (.error (dnsError "name exceeds limit"))
  | rounds + 1, offset =>
    match data[offset]? with
    | none => .error (.error (dnsError "truncated name"))
    | some byte =>
      if byte = 0 then .ok (offset + 1)
      else if 0xc0 ≤ byte then
        match data[offset + 1]? with
        | none => .error (.error (dnsError "truncated pointer"))
        | some low =>
          if data.length ≤ ((byte &&& 63).toNat <<< 8 ||| low.toNat) then
            .error (.error (dnsError "invalid pointer"))
          else .ok (offset + 1 + 1)
      else if byte ≤ 63 then
        if data.length < offset + 1 + byte.toNat then
          .error (.error (dnsError "truncated label"))
        else skipItems data rounds (offset + 1 + byte.toNat)
      else .error (.error (dnsError "invalid label"))

/-- Source: `guest_hole/dns.rs` `skip_name` -/
def skipName (data : List Byte) (offset : ℕ) : DnsResult ℕ := skipItems data 128 offset

/-- `||` of conditions that can index out of bounds -/
def anyOf : List (DnsResult Bool) → DnsResult Bool
  | [] => .ok false
  | condition :: conditions => do
    let holds ← condition
    if holds then .ok true else anyOf conditions

/-- The condition of `parse` on the header. -/
def headerInvalid (data : List Byte) (id : BitVec 16) : DnsResult Bool :=
  anyOf [
    .ok (data.length < 12),
    (indexRange data 0 2).map (· ≠ wordBytes id),
    (index data 2).map fun byte => byte &&& 0x82 ≠ 0x80,
    (index data 3).map fun byte => byte &&& 15 ≠ 0,
    (indexRange data 4 6).map (· ≠ [0, 1])]

/-- The address in a record whose type and class are `kind`. -/
def addressOf (kind bytes : List Byte) : DnsResult (Option SocketAddr) :=
  if kind = [0, 1, 0, 1] ∧ bytes.length = 4 then do
    let a ← index bytes 0
    let b ← index bytes 1
    let c ← index bytes 2
    let d ← index bytes 3
    let ip := longOf a b c d
    .ok (if usable ip then some { ip, port := 443 } else none)
  else .ok none

/-- The loop over the answers, with the address that a round pushes. -/
def readAnswer (data : List Byte) : Reader (Stop NativeError) (Option SocketAddr) :=
  fun offset => do
    let offset ← skipName data offset
    let header ← okOr (getRange data offset (offset + 10)) invalid
    let high ← index header 8
    let low ← index header 9
    let length := (wordOf high low).toNat
    let offset := offset + 10
    let bytes ← okOr (getRange data offset (offset + length)) invalid
    let kind ← indexRange header 0 4
    let address ← addressOf kind bytes
    return (address, offset + length)

/-- Source: `guest_hole/dns.rs` `parse` -/
def parse (data : List Byte) (id : BitVec 16) : DnsResult (List SocketAddr) := do
  let invalidHeader ← headerInvalid data id
  rejectWhen (invalidHeader = true) invalid
  let high ← index data 6
  let low ← index data 7
  let answers := wordOf high low
  rejectWhen (64 < answers) invalid
  let offset ← skipName data 12
  rejectWhen (data.length < offset + 4) invalid
  let (found, _) ← readMany (readAnswer data) answers.toNat (offset + 4)
  let addresses := (found.reduceOption.insertionSort fun a b => a.key ≤ b.key).destutter (· ≠ ·)
  rejectWhen (addresses = []) invalid
  return addresses

/-! ## What the readers accept -/

section readers

variable {data : List Byte} {offset : ℕ}

/-- The forms of the first byte of a name. -/
theorem byte_forms : ∀ byte : Byte, (0xc0 ≤ byte ↔ 192 ≤ byte.toNat) ∧
    (byte ≤ 63 ↔ byte.toNat ≤ 63) := by decide +kernel

theorem skipItems_of_liesAt {rounds : ℕ} (name : Name) (hrounds : name.items ≤ rounds)
    (hbelow : name.PointsBelow data.length) (h : LiesAt data name.bytes offset) :
    skipItems data rounds offset = .ok (offset + name.bytes.length) := by
  induction name generalizing offset rounds with
  | root =>
      obtain ⟨rounds, rfl⟩ := Nat.exists_eq_succ_of_ne_zero (Nat.ne_of_gt hrounds)
      rw [skipItems, liesAt_singleton.mp h]
      rfl
  | pointer high low isPointer =>
      obtain ⟨rounds, rfl⟩ := Nat.exists_eq_succ_of_ne_zero (Nat.ne_of_gt hrounds)
      obtain ⟨hhigh, hlow⟩ := liesAt_cons.mp h
      have hne : high ≠ 0 := by
        rintro rfl
        exact absurd isPointer (by decide)
      rw [skipItems, hhigh]
      dsimp only
      rw [if_neg hne, if_pos ((byte_forms high).1.mpr isPointer), liesAt_singleton.mp hlow]
      dsimp only
      rw [if_neg (not_le.mpr hbelow)]
      rfl
  | label text short rest ih =>
      obtain ⟨rounds, rfl⟩ := Nat.exists_eq_succ_of_ne_zero
        (Nat.ne_of_gt ((Nat.succ_pos _).trans_le hrounds))
      obtain ⟨hlength, htext, hrest⟩ := Name.liesAt_label.mp h
      have htoNat := Name.toNat_first_label short rest
      rw [Name.first] at htoNat
      have hpos := List.length_pos_iff.mpr short.1
      have hne : BitVec.ofNat 8 text.length ≠ 0 := by
        intro hzero
        rw [hzero] at htoNat
        exact hpos.ne htoNat
      rw [skipItems, hlength]
      dsimp only
      rw [if_neg hne, if_neg (fun hlong => by have := (byte_forms _).1.mp hlong; omega),
        if_pos ((byte_forms _).2.mpr (htoNat.trans_le short.2)), htoNat,
        if_neg (not_lt.mpr (htext.length_le short.1)), ih (Nat.le_of_succ_le_succ hrounds) hbelow hrest,
        Name.length_bytes_label]
      congr 1
      omega

theorem exists_of_skipItems {rounds offset' : ℕ} (h : skipItems data rounds offset = .ok offset') :
    ∃ name : Name, name.items ≤ rounds ∧ name.PointsBelow data.length ∧
      LiesAt data name.bytes offset ∧ offset' = offset + name.bytes.length := by
  fun_induction skipItems data rounds offset with
  | case1 offset => cases h
  | case2 rounds offset hnone => cases h
  | case3 rounds offset hsome =>
      obtain rfl := Except.ok.inj h
      exact ⟨.root, Nat.succ_le_succ (Nat.zero_le _), trivial, liesAt_singleton.mpr hsome, rfl⟩
  | case4 rounds offset byte hsome hzero hlong hnone => cases h
  | case5 rounds offset byte hsome hzero hlong low hlow hfar => cases h
  | case6 rounds offset byte hsome hzero hlong low hlow hnear =>
      obtain rfl := Except.ok.inj h
      exact ⟨.pointer byte low ((byte_forms _).1.mp hlong), Nat.succ_le_succ (Nat.zero_le _),
        not_le.mp hnear, liesAt_cons.mpr ⟨hsome, liesAt_singleton.mpr hlow⟩, rfl⟩
  | case7 rounds offset byte hsome hzero hlong hshort hend => cases h
  | case8 rounds offset byte hsome hzero hlong hshort hend ih =>
      obtain ⟨rest, hrounds, hbelow, hrest, rfl⟩ := ih h
      have hpos : byte.toNat ≠ 0 := fun htoNat => hzero (BitVec.eq_of_toNat_eq htoNat)
      have hlow := (byte_forms _).2.mp hshort
      have htext : ((data.drop (offset + 1)).take byte.toNat).length = byte.toNat := by
        rw [List.length_take, List.length_drop]
        omega
      refine ⟨.label ((data.drop (offset + 1)).take byte.toNat)
        ⟨fun hnil => hpos (by rw [← htext, hnil]; rfl), htext.trans_le hlow⟩ rest,
        Nat.succ_le_succ hrounds, hbelow, ?_, ?_⟩
      · rw [Name.liesAt_label, htext, BitVec.ofNat_toNat, BitVec.setWidth_eq]
        exact ⟨hsome, liesAt_take _, hrest⟩
      · rw [Name.length_bytes_label, htext]
        omega
  | case9 rounds offset byte hsome hzero hlong hshort => cases h

/-- A name that the resolver accepts in a message of some length: at most 128 labels and ends, and
no pointer behind the message. -/
def Accepted (length : ℕ) (name : Name) : Prop := name.items ≤ 128 ∧ name.PointsBelow length

theorem skipName_eq_ok {offset' : ℕ} :
    skipName data offset = .ok offset' ↔
      ∃ name : Name, Accepted data.length name ∧ LiesAt data name.bytes offset ∧
        offset' = offset + name.bytes.length := by
  constructor
  · intro h
    obtain ⟨name, hrounds, hbelow, hlies, hend⟩ := exists_of_skipItems h
    exact ⟨name, ⟨hrounds, hbelow⟩, hlies, hend⟩
  · rintro ⟨name, ⟨hrounds, hbelow⟩, hlies, rfl⟩
    exact skipItems_of_liesAt name hrounds hbelow hlies

/-! ## Answers -/

/-- The usable address that four bytes spell. -/
def usableAddress : List Byte → Option SocketAddr
  | [a, b, c, d] =>
    if usable (longOf a b c d) then some { ip := longOf a b c d, port := 443 } else none
  | _ => none

/-- The address in a record: only a record with a usable address of the Internet has one. -/
def addressIn (record : Record) : Option SocketAddr :=
  if record.recordType = 1 ∧ record.recordClass = 1 then usableAddress record.data else none

theorem okOr_eq_ok {α : Type} {value : Option α} {error : NativeError} {a : α} :
    okOr value error = .ok a ↔ value = some a := by
  unfold okOr
  cases value <;> simp

/-- The first four bytes of the head of an address record. -/
theorem kind_eq_iff (record : Record) :
    record.head.take 4 = [0, 1, 0, 1] ↔ record.recordType = 1 ∧ record.recordClass = 1 := by
  have hhead : record.head.take 4 = wordBytes record.recordType ++ wordBytes record.recordClass :=
    rfl
  have hword : wordBytes 1 = [0, 1] := by decide
  rw [hhead, show ([0, 1, 0, 1] : List Byte) = wordBytes 1 ++ wordBytes 1 by rw [hword]; rfl]
  constructor
  · intro h
    obtain ⟨htype, hclass⟩ := List.append_inj h rfl
    exact ⟨wordBytes_injective htype, wordBytes_injective hclass⟩
  · rintro ⟨htype, hclass⟩
    rw [htype, hclass]

theorem addressOf_eq (kind bytes : List Byte) :
    addressOf kind bytes =
      .ok (if kind = [0, 1, 0, 1] then usableAddress bytes else none) := by
  unfold addressOf
  by_cases hkind : kind = [0, 1, 0, 1]
  · rw [if_pos hkind]
    match bytes with
    | [a, b, c, d] =>
        rw [if_pos ⟨hkind, rfl⟩]
        rfl
    | [] | [_] | [_, _] | [_, _, _] =>
        rw [if_neg fun h => absurd h.2 (by simp)]
        rfl
    | _ :: _ :: _ :: _ :: _ :: _ =>
        rw [if_neg fun h => absurd h.2 (by simp)]
        rfl
  · rw [if_neg hkind, if_neg fun h => hkind h.1]

theorem addressOf_record (record : Record) :
    addressOf (record.head.take 4) record.data = .ok (addressIn record) := by
  rw [addressOf_eq, addressIn]
  simp only [kind_eq_iff]

/-- The head of a record, as its bytes are indexed. -/
theorem indexed_head (record : Record) :
    (indexRange record.head 0 4 : DnsResult (List Byte)) = .ok (record.head.take 4) ∧
      ∃ high low, (index record.head 8 : DnsResult Byte) = .ok high ∧
        (index record.head 9 : DnsResult Byte) = .ok low ∧
        (wordOf high low).toNat = record.data.length := by
  refine ⟨@indexRange_eq _ record.head 0 _ 4 (by simp [Record.length_head]), _, _, rfl, rfl, ?_⟩
  have hword := wordBytes_eq_iff.mp (rfl : wordBytes (.ofNat 16 record.data.length) = [_, _])
  rw [← hword, BitVec.toNat_ofNat, Nat.mod_eq_of_lt record.data_lt]

theorem format_readAnswer :
    Format data (readAnswer data) (fun record : Record => Accepted data.length record.name)
      Record.bytes addressIn := by
  intro offset result
  unfold readAnswer
  simp only [Except.bind_eq_ok, skipName_eq_ok, okOr_eq_ok, getRange_eq_some]
  constructor
  · rintro ⟨offset', ⟨name, haccepted, hname, rfl⟩, header, ⟨hheaderEnd, hheaderLength, hheader⟩,
      high, hhigh, low, hlow, bytes, ⟨hend, hlength, hbytes⟩, kind, hkind, address, haddress, hresult⟩
    obtain ⟨recordType, htype⟩ :=
      @exists_liesAt_wordBytes data (offset + name.bytes.length) (by omega)
    obtain ⟨recordClass, hclass⟩ :=
      @exists_liesAt_wordBytes data (offset + name.bytes.length + 2) (by omega)
    obtain ⟨ttl, httl⟩ := @exists_liesAt_longBytes data (offset + name.bytes.length + 4) (by omega)
    have hdataLen : LiesAt data (wordBytes (wordOf high low)) (offset + name.bytes.length + 8) := by
      rw [wordBytes_eq_iff.mpr rfl, liesAt_cons, liesAt_singleton]
      refine ⟨?_, ?_⟩
      · rw [hheader.getElem? (by omega)]
        exact index_eq_ok.mp hhigh
      · rw [Nat.add_assoc, hheader.getElem? (by omega)]
        exact index_eq_ok.mp hlow
    obtain ⟨record, rfl, rfl, rfl, rfl, hdata, hrecord, hrecordLength⟩ :=
      exists_record hname htype hclass httl hdataLen hend
    obtain rfl : header = record.head :=
      hheader.eq (liesAt_append.mp (liesAt_append.mp hrecord).2).1 hheaderLength
    obtain rfl : bytes = record.data := by
      rw [hdata, ← liesAt_iff.mp hbytes, hlength]
    rw [(indexed_head record).1] at hkind
    obtain rfl := Except.ok.inj hkind
    rw [addressOf_record] at haddress
    obtain rfl := Except.ok.inj haddress
    refine ⟨record, haccepted, hrecord, ?_⟩
    rw [hrecordLength, ← Nat.add_assoc, ← Nat.add_assoc]
    exact (Except.ok.inj hresult).symm
  · rintro ⟨record, haccepted, hrecord, rfl⟩
    obtain ⟨hname, hrest⟩ := liesAt_append.mp hrecord
    obtain ⟨hhead, hdata⟩ := liesAt_append.mp hrest
    rw [Record.length_head] at hdata
    have hheadEnd := hhead.length_le (by simp [Record.head, wordBytes])
    rw [Record.length_head] at hheadEnd
    obtain ⟨hkind, high, low, hhigh, hlow, hlength⟩ := indexed_head record
    refine ⟨_, ⟨record.name, haccepted, hname, rfl⟩, record.head, ⟨hheadEnd, record.length_head, hhead⟩,
      high, hhigh, low, hlow, record.data, ?_, _, hkind, _, addressOf_record record, ?_⟩
    · rw [hlength]
      exact ⟨hdata.length_le' hheadEnd, rfl, hdata⟩
    · rw [hlength, Record.length_bytes, ← Nat.add_assoc, ← Nat.add_assoc]
      rfl

end readers

/-! ## The header -/

section header

variable {data : List Byte} {id : BitVec 16}

theorem anyOf_eq_false {conditions : List (DnsResult Bool)} :
    anyOf conditions = .ok false ↔ ∀ condition ∈ conditions, condition = .ok false := by
  induction conditions with
  | nil => simp [anyOf]
  | cons condition conditions ih =>
      unfold anyOf
      rw [Except.bind_eq_ok, List.forall_mem_cons, ← ih]
      constructor
      · rintro ⟨holds, hcondition, h⟩
        cases holds with
        | true => cases h
        | false => exact ⟨hcondition, h⟩
      · rintro ⟨hcondition, h⟩
        exact ⟨false, hcondition, h⟩

theorem inBounds_anyOf {conditions : List (DnsResult Bool)}
    (h : ∀ condition ∈ conditions, InBounds condition) : InBounds (anyOf conditions) := by
  induction conditions with
  | nil => exact inBounds_ok _
  | cons condition conditions ih =>
      obtain ⟨hcondition, h⟩ := List.forall_mem_cons.mp h
      refine hcondition.bind fun holds _ => ?_
      split
      · exact inBounds_ok _
      · exact ih h

theorem flags_forms : ∀ byte : Byte,
    (byte &&& 0x82 = 0x80 ↔ byte.getLsbD 7 = true ∧ byte.getLsbD 1 = false) ∧
      (byte &&& 15 = 0 ↔ byte.extractLsb' 0 4 = 0) := by
  decide +kernel

/-- The condition on the bytes of the flags is one on the flags of a message. -/
theorem flags_iff (parts : Message) :
    parts.flags.extractLsb' 8 8 &&& 0x82 = 0x80 ∧ parts.flags.extractLsb' 0 8 &&& 15 = 0 ↔
      parts.isResponse = true ∧ parts.isTruncated = false ∧ parts.responseCode = 0 := by
  rw [(flags_forms _).1, (flags_forms _).2, and_assoc]
  have hcode : (parts.flags.extractLsb' 0 8).extractLsb' 0 4 = parts.responseCode := by
    unfold Message.responseCode
    ext i hi
    simp [Nat.lt_trans hi]
  rw [hcode]
  simp [Message.isResponse, Message.isTruncated]

theorem headerInvalid_eq_false :
    headerInvalid data id = .ok false ↔
      12 ≤ data.length ∧ LiesAt data (wordBytes id) 0 ∧
        (∃ flags, LiesAt data (wordBytes flags) 2 ∧ flags.extractLsb' 8 8 &&& 0x82 = 0x80 ∧
          flags.extractLsb' 0 8 &&& 15 = 0) ∧
        LiesAt data (wordBytes 1) 4 := by
  have hone : wordBytes 1 = [0, 1] := by decide
  unfold headerInvalid
  rw [anyOf_eq_false]
  simp only [List.forall_mem_cons, List.not_mem_nil, false_imp_iff, implies_true, and_true,
    @indexRange_eq_ok _ data 0 _ 2, @indexRange_eq_ok _ data 4 _ 2,
    Except.map_eq_ok, index_eq_ok, Except.ok.injEq, decide_eq_false_iff_not, not_lt, not_not]
  constructor
  · rintro ⟨hlength, ⟨_, ⟨-, -, hid⟩, rfl⟩, ⟨high, hhigh, hresponse⟩, ⟨low, hlow, hcode⟩,
      _, ⟨-, -, hquestions⟩, rfl⟩
    refine ⟨hlength, hid, ⟨wordOf high low, ?_, ?_⟩, hone ▸ hquestions⟩
    · rw [wordBytes_eq_iff.mpr rfl, liesAt_cons, liesAt_singleton]
      exact ⟨hhigh, hlow⟩
    · obtain ⟨hhighEq, hlowEq⟩ := List.cons.inj (wordBytes_eq_iff.mpr (rfl : wordOf high low = _))
      rw [hhighEq, (List.cons.inj hlowEq).1]
      exact ⟨hresponse, hcode⟩
  · rintro ⟨hlength, hid, ⟨flags, hflags, hresponse, hcode⟩, hquestions⟩
    obtain ⟨hhigh, hlow⟩ := liesAt_cons.mp hflags
    rw [hone] at hquestions
    exact ⟨hlength, ⟨_, ⟨by omega, rfl, hid⟩, rfl⟩, ⟨_, hhigh, hresponse⟩,
      ⟨_, liesAt_singleton.mp hlow, hcode⟩, _, ⟨by omega, rfl, hquestions⟩, rfl⟩

theorem InBounds.map {α β : Type} {x : DnsResult α} (h : InBounds x) (f : α → β) :
    InBounds (x.map f) := by
  intro hmap
  cases x with
  | ok a => cases hmap
  | error stop => exact h (congrArg Except.error (Except.error.inj hmap))

theorem inBounds_headerInvalid : InBounds (headerInvalid data id) := by
  unfold headerInvalid
  by_cases hlength : data.length < 12
  · rw [anyOf, decide_eq_true hlength]
    exact inBounds_ok _
  · apply inBounds_anyOf
    simp only [List.forall_mem_cons, List.not_mem_nil, false_imp_iff, implies_true, and_true]
    rw [@indexRange_eq _ data 0 _ 2 (by omega), @indexRange_eq _ data 4 _ 2 (by omega)]
    exact ⟨inBounds_ok _, inBounds_ok _, InBounds.map (inBounds_index (by omega)) _,
      InBounds.map (inBounds_index (by omega)) _, inBounds_ok _⟩

end header

/-! ## Nothing is indexed out of bounds -/

section bounds

variable (data : List Byte)

theorem inBounds_skipName (offset : ℕ) : InBounds (skipName data offset) := by
  unfold skipName
  fun_induction skipItems data 128 offset with
  | case1 => exact inBounds_error _
  | case2 => exact inBounds_error _
  | case3 => exact inBounds_ok _
  | case4 => exact inBounds_error _
  | case5 => exact inBounds_error _
  | case6 => exact inBounds_ok _
  | case7 => exact inBounds_error _
  | case8 _ _ _ _ _ _ _ _ ih => exact ih
  | case9 => exact inBounds_error _

theorem inBounds_okOr {α : Type} (value : Option α) (error : NativeError) :
    InBounds (okOr value error) := by
  unfold okOr
  split
  · exact inBounds_ok _
  · exact inBounds_error _

theorem inBounds_addressOf (kind bytes : List Byte) : InBounds (addressOf kind bytes) := by
  rw [addressOf_eq]
  exact inBounds_ok _

/-- The head of an answer has the bytes that are indexed. -/
theorem inBounds_readAnswer (offset : ℕ) : InBounds (readAnswer data offset) := by
  refine (inBounds_skipName data offset).bind fun offset _ => ?_
  refine (inBounds_okOr _ _).bind fun header hheader => ?_
  have hlength := (getRange_eq_some.mp (okOr_eq_ok.mp hheader)).2.1
  refine (inBounds_index (by omega)).bind fun high _ => ?_
  refine (inBounds_index (by omega)).bind fun low _ => ?_
  refine (inBounds_okOr _ _).bind fun bytes _ => ?_
  rw [@indexRange_eq _ header 0 _ 4 (by omega)]
  exact (inBounds_addressOf _ _).bind fun address _ => inBounds_ok _

theorem inBounds_parse (id : BitVec 16) : InBounds (parse data id) := by
  refine inBounds_headerInvalid.bind fun holds hheader => ?_
  refine (inBounds_rejectWhen _ _).bind fun _ hholds => ?_
  have hfalse := rejectWhen_eq_ok.mp hholds
  rw [Bool.not_eq_true] at hfalse
  rw [hfalse] at hheader
  have hlength := (headerInvalid_eq_false.mp hheader).1
  refine (inBounds_index (by omega)).bind fun high _ => ?_
  refine (inBounds_index (by omega)).bind fun low _ => ?_
  refine (inBounds_rejectWhen _ _).bind fun _ _ => ?_
  refine (inBounds_skipName data _).bind fun offset _ => ?_
  refine (inBounds_rejectWhen _ _).bind fun _ _ => ?_
  refine (inBounds_readMany (inBounds_readAnswer data) _ _).bind fun found _ => ?_
  exact (inBounds_rejectWhen _ _).bind fun _ _ => inBounds_ok _

end bounds

/-! ## Replies -/

/-- A reply to the query with an id: one question, at most 64 answers, no error, nothing cut off by
the sender. -/
structure Reply (requestId : BitVec 16) extends Message where
  id_eq : id = requestId
  response : toMessage.isResponse = true
  whole : toMessage.isTruncated = false
  noError : toMessage.responseCode = 0
  oneQuestion : questions.length = 1
  few : answers.length ≤ 64

/-- The names of a message of some length are well-formed. -/
def WellNamed (length : ℕ) (parts : Message) : Prop :=
  (∀ question ∈ parts.questions, Accepted length question.name) ∧
    ∀ record ∈ parts.answers, Accepted length record.name

/-- The addresses in the answers, in the order of socket addresses and none of them twice. -/
def addressesIn (parts : Message) : List SocketAddr :=
  ((parts.answers.filterMap addressIn).insertionSort fun a b => a.key ≤ b.key).destutter (· ≠ ·)

theorem parse_eq_ok {data : List Byte} {id : BitVec 16} {addresses : List SocketAddr} :
    parse data id = .ok addresses ↔
      ∃ reply : Reply id, LiesAt data reply.bytes 0 ∧ WellNamed data.length reply.toMessage ∧
        addresses = addressesIn reply.toMessage ∧ addresses ≠ [] := by
  unfold parse
  simp only [Except.bind_eq_ok, rejectWhen_eq_ok, index_eq_ok, skipName_eq_ok,
    (format_readAnswer.readMany _) _ _, not_lt]
  constructor
  · rintro ⟨holds, hheader, -, hfalse, high, hhigh, low, hlow, -, hfew, offset, ⟨name, haccepted,
      hname, rfl⟩, -, hend, found, ⟨records, ⟨hrecords, hnames⟩, hlies, rfl⟩, -, hne, hresult⟩
    rw [Bool.not_eq_true] at hfalse
    rw [hfalse] at hheader
    obtain ⟨hlength, hid, ⟨flags, hflags, hflagged⟩, hquestions⟩ := headerInvalid_eq_false.mp hheader
    obtain ⟨authorities, hauthorities⟩ := @exists_liesAt_wordBytes data 8 (by omega)
    obtain ⟨additionals, hadditionals⟩ := @exists_liesAt_wordBytes data 10 (by omega)
    obtain ⟨recordType, htype⟩ := @exists_liesAt_wordBytes data (12 + name.bytes.length) (by omega)
    obtain ⟨recordClass, hclass⟩ :=
      @exists_liesAt_wordBytes data (12 + name.bytes.length + 2) (by omega)
    have hanswers : LiesAt data (wordBytes (wordOf high low)) 6 := by
      rw [wordBytes_eq_iff.mpr rfl, liesAt_cons, liesAt_singleton]
      exact ⟨hhigh, hlow⟩
    rw [BitVec.lt_def, not_lt] at hfew
    have hasked : ([⟨name, recordType, recordClass⟩] : List Question).flatMap Question.bytes =
        Question.bytes ⟨name, recordType, recordClass⟩ := by
      rw [List.flatMap_cons, List.flatMap_nil, List.append_nil]
    have hliesAll : LiesAt data (Message.mk id flags [⟨name, recordType, recordClass⟩] records
        authorities additionals (by simp) (hrecords ▸ (wordOf high low).isLt)).bytes 0 := by
      rw [liesAt_message]
      refine ⟨hid, hflags, hquestions, ?_, hauthorities, hadditionals, ?_, ?_⟩
      · rw [hrecords, BitVec.ofNat_toNat, BitVec.setWidth_eq]
        exact hanswers
      · rw [hasked]
        exact liesAt_question.mpr ⟨hname, htype, hclass⟩
      · rw [hasked, Question.length_bytes, ← Nat.add_assoc]
        exact hlies
    obtain ⟨hresponse, hwhole, hcode⟩ := (flags_iff (Message.mk id flags
      [⟨name, recordType, recordClass⟩] records authorities additionals (by simp)
      (hrecords ▸ (wordOf high low).isLt))).mp hflagged
    refine ⟨⟨_, rfl, hresponse, hwhole, hcode, rfl, hrecords.trans_le hfew⟩, hliesAll, ⟨?_, hnames⟩,
      ?_, ?_⟩
    · simpa using haccepted
    · rw [addressesIn, ← Except.ok.inj hresult, List.reduceOption, List.filterMap_map]
      rfl
    · rw [← Except.ok.inj hresult]
      exact hne
  · rintro ⟨reply, hlies, hnames, rfl, hne⟩
    obtain ⟨hid, hflags, hquestions, hanswers, -, hadditionals, hliesAsked, hliesRecords⟩ :=
      liesAt_message.mp hlies
    have hlength := hadditionals.length_le (by simp [wordBytes])
    rw [length_wordBytes] at hlength
    obtain ⟨question, hquestion⟩ := List.length_eq_one_iff.mp reply.oneQuestion
    rw [hquestion, List.flatMap_cons, List.flatMap_nil, List.append_nil] at hliesAsked hliesRecords
    obtain ⟨hname, -, hclass⟩ := liesAt_question.mp hliesAsked
    have hend := hclass.length_le (by simp [wordBytes])
    rw [length_wordBytes] at hend
    rw [reply.oneQuestion] at hquestions
    rw [Question.length_bytes, ← Nat.add_assoc] at hliesRecords
    obtain ⟨hhigh, hlow⟩ := liesAt_cons.mp hanswers
    have hcount := wordBytes_eq_iff.mp (rfl : wordBytes (.ofNat 16 reply.answers.length) = [_, _])
    have htoNat : (BitVec.ofNat 16 reply.answers.length).toNat = reply.answers.length := by
      rw [BitVec.toNat_ofNat, Nat.mod_eq_of_lt reply.answers_lt]
    have hheader : headerInvalid data id = .ok false := headerInvalid_eq_false.mpr
      ⟨hlength, reply.id_eq ▸ hid, ⟨reply.flags, hflags, (flags_iff _).mpr
        ⟨reply.response, reply.whole, reply.noError⟩⟩, hquestions⟩
    have hfew : ¬ 64 < BitVec.ofNat 16 reply.answers.length := by
      rw [BitVec.lt_def, not_lt, htoNat]
      exact reply.few
    refine ⟨false, hheader, (), Bool.false_ne_true, _, hhigh, _, liesAt_singleton.mp hlow, (), ?_, _,
      ⟨question.name, hnames.1 question (by simp [hquestion]), hname, rfl⟩, (), by omega, _,
      ⟨reply.answers, ⟨?_, hnames.2⟩, hliesRecords, rfl⟩, (), ?_, ?_⟩
    · rw [← hcount]
      exact hfew
    · rw [← hcount, htoNat]
    · dsimp only
      rw [List.reduceOption, List.filterMap_map]
      exact hne
    · dsimp only
      rw [List.reduceOption, List.filterMap_map]
      rfl

/-! ## The result -/

theorem key_injective : Function.Injective SocketAddr.key := by
  rintro ⟨ip, port⟩ ⟨ip', port'⟩ h
  obtain ⟨hip, hport⟩ := Prod.mk.inj (toLex.injective h)
  rw [show ip = ip' from BitVec.eq_of_toNat_eq hip, show port = port' from hport]

/-- The addresses of a reply are the list in strictly increasing order that has them. -/
theorem eq_addressesIn_iff {parts : Message} {addresses : List SocketAddr} :
    addresses = addressesIn parts ↔
      (addresses.Pairwise fun a b => a.key < b.key) ∧
        ∀ address, address ∈ addresses ↔
          ∃ record ∈ parts.answers, addressIn record = some address := by
  have htotal : Std.Total fun a b : SocketAddr => a.key ≤ b.key := ⟨fun a b => le_total _ _⟩
  have htrans : IsTrans SocketAddr fun a b => a.key ≤ b.key := ⟨fun a b c => le_trans⟩
  have hincreasing : (addressesIn parts).Pairwise fun a b => a.key < b.key :=
    pairwise_lt_destutter_ne key_injective (List.pairwise_insertionSort _ _)
  have hmem : ∀ address, address ∈ addressesIn parts ↔
      ∃ record ∈ parts.answers, addressIn record = some address := by
    intro address
    rw [addressesIn, mem_destutter_ne, List.mem_insertionSort, List.mem_filterMap]
  constructor
  · rintro rfl
    exact ⟨hincreasing, hmem⟩
  · rintro ⟨hincreasing', hmem'⟩
    have hasymm : Std.Asymm fun a b : SocketAddr => a.key < b.key := ⟨fun a b => lt_asymm⟩
    exact List.Pairwise.eq_of_mem_iff hincreasing' hincreasing
      fun address => (hmem' address).trans (hmem address).symm

/-- The parser accepts exactly the replies to the query with well-formed names and a usable address,
it returns these addresses, and it never indexes out of bounds; a message that ends before its last
answer does is rejected. -/
theorem parse_format (data : List Byte) (id : BitVec 16) :
    InBounds (parse data id) ∧
      (∀ addresses, parse data id = .ok addresses ↔
        ∃ (reply : Reply id) (rest : List Byte), data = reply.bytes ++ rest ∧
          WellNamed data.length reply.toMessage ∧ addresses ≠ [] ∧
          (addresses.Pairwise fun a b => a.key < b.key) ∧
          ∀ address, address ∈ addresses ↔
            ∃ record ∈ reply.answers, addressIn record = some address) ∧
      ∀ (parts : Message) (length : ℕ), length < parts.bytes.length →
        ∃ error, parse (parts.bytes.take length) id = .error (.error error) := by
  refine ⟨inBounds_parse data id, fun addresses => ?_, fun parts length hlength => ?_⟩
  · rw [parse_eq_ok]
    constructor
    · rintro ⟨reply, ⟨rest, hrest⟩, hnames, haddresses, hne⟩
      exact ⟨reply, rest, hrest.symm, hnames, hne, eq_addressesIn_iff.mp haddresses⟩
    · rintro ⟨reply, rest, rfl, hnames, hne, haddresses⟩
      exact ⟨reply, ⟨rest, rfl⟩, hnames, eq_addressesIn_iff.mpr haddresses, hne⟩
  · cases hparse : parse (parts.bytes.take length) id with
    | ok addresses =>
        obtain ⟨reply, hreply, -⟩ := parse_eq_ok.mp hparse
        exact absurd hreply (Message.not_liesAt_take hlength)
    | error stop =>
        cases stop with
        | outOfBounds => exact absurd hparse (inBounds_parse _ id)
        | error error => exact ⟨error, rfl⟩

end ProtonVpnOmarchy.Agent.GuestHoleDns
