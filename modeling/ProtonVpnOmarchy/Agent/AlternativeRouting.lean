import ProtonVpnOmarchy.Agent.NativeError
import ProtonVpnOmarchy.Agent.SecretStore.Texts
import ProtonVpnOmarchy.Lib.Dns

/-!
# The lookup of alternative routes

The TXT query for an alternative host of the API, and the parser of the responses that the
DNS-over-HTTPS providers send.

* `skipDnsName_eq_ok`, `readTxt_eq_ok`, `format_readAnswer` — what each reader accepts.
* `parseTxtResponse_format` — the parser never indexes out of bounds, accepts exactly the
  responses in the format and returns their routes, and rejects every response that is cut off.
-/

namespace ProtonVpnOmarchy.Agent.AlternativeRouting

open Lib Lib.Dns Splitd Native SecretStore

/-- Source: `alternative_routing.rs` `AlternativeRoute`; `validFor` is in seconds -/
structure AlternativeRoute where
  host : String
  validFor : ℕ
  deriving DecidableEq

abbrev DnsResult := Except (Stop NativeError)

/-- Source: `alternative_routing.rs` `invalid_dns_response` -/
def invalidDnsResponse (detail : String) : NativeError where
  code := "alternative_routing_response_invalid"
  message := "The alternative-routing DNS response is invalid"
  source := some detail

/-- An early return with an error. -/
def rejectWhen (condition : Prop) [Decidable condition] (error : NativeError) : DnsResult Unit :=
  if condition then .error (.error error) else .ok ()

/-- `Option::ok_or_else` -/
def okOr {α : Type} (value : Option α) (error : NativeError) : DnsResult α :=
  match value with
  | some value => .ok value
  | none => .error (.error error)

/-! ## Host names -/

/-- `u8::is_ascii_alphanumeric` or a hyphen -/
def isLabelByte (byte : Byte) : Bool :=
  (0x30 ≤ byte && byte ≤ 0x39) || (0x41 ≤ byte && byte ≤ 0x5a) || (0x61 ≤ byte && byte ≤ 0x7a) ||
    byte = 0x2d

/-- The condition of `valid_hostname` on a label. -/
def validLabel (label : String) : Bool :=
  label ≠ "" && label.utf8ByteSize ≤ 63 && label.toList.head? ≠ some '-' &&
    label.toList.getLast? ≠ some '-' && (bytesOf label).all isLabelByte

/-- `host.split('.')` -/
def labels (host : String) : List String := (host.toList.splitOn '.').map .ofList

/-- Source: `alternative_routing.rs` `valid_hostname` -/
def validHostname (host : String) : Bool :=
  host ≠ "" && host.utf8ByteSize ≤ 253 && (labels host).all validLabel

/-! ## The query -/

/-- A label behind its length. -/
def labelBytes (label : String) : List Byte :=
  .ofNat 8 label.utf8ByteSize :: bytesOf label

/-- The name of a host. -/
def nameBytes (host : String) : List Byte := (labels host).flatMap labelBytes ++ [0]

def queryHead : List Byte :=
  wordBytes 0x5056 ++ wordBytes 0x0100 ++ wordBytes 1 ++ wordBytes 0 ++ wordBytes 0 ++ wordBytes 0

/-- Source: `alternative_routing.rs` `build_txt_query` -/
def buildTxtQuery (host : String) : DnsResult (List Byte) := do
  rejectWhen (validHostname host = false)
    { code := "alternative_routing_invalid_host"
      message := "The generated alternative-routing lookup host is invalid" }
  return queryHead ++ nameBytes host ++ wordBytes 16 ++ wordBytes 1

/-! ## The parser -/

/-- Source: `alternative_routing.rs` `read_u16` -/
def readU16 (message : List Byte) (offset : ℕ) : DnsResult (BitVec 16) :=
  match getRange message offset (offset + 2) with
  | none => .error (.error (invalidDnsResponse "DNS integer is truncated"))
  | some [high, low] => .ok (wordOf high low)
  | some _ => .error (.error (invalidDnsResponse "DNS integer is invalid"))

/-- Source: `alternative_routing.rs` `read_u32` -/
def readU32 (message : List Byte) (offset : ℕ) : DnsResult (BitVec 32) :=
  match getRange message offset (offset + 4) with
  | none => .error (.error (invalidDnsResponse "DNS integer is truncated"))
  | some [a, b, c, d] => .ok (longOf a b c d)
  | some _ => .error (.error (invalidDnsResponse "DNS integer is invalid"))

/-- Source: `alternative_routing.rs` `skip_dns_name` -/
def skipDnsName (message : List Byte) (offset : ℕ) : DnsResult ℕ :=
  match h : message[offset]? with
  | none => .error (.error (invalidDnsResponse "DNS name is truncated"))
  | some length =>
    if length = 0 then .ok (offset + 1)
    else if length &&& 0xc0 = 0xc0 then
      match message[offset + 1]? with
      | none => .error (.error (invalidDnsResponse "DNS compression pointer is truncated"))
      | some _ => .ok (offset + 1 + 1)
    else if length &&& 0xc0 ≠ 0 ∨ 63 < length then
      .error (.error (invalidDnsResponse "DNS label length is invalid"))
    else if offset + 1 + length.toNat ≤ message.length then
      skipDnsName message (offset + 1 + length.toNat)
    else .error (.error (invalidDnsResponse "DNS label is truncated"))
termination_by message.length - offset
decreasing_by
  obtain ⟨hlt, -⟩ := List.getElem?_eq_some_iff.mp h
  omega

/-- The loop over the questions. -/
def skipQuestion (message : List Byte) : Reader (Stop NativeError) Unit := fun offset => do
  let offset ← skipDnsName message offset
  rejectWhen (message.length < offset + 4) (invalidDnsResponse "DNS question is truncated")
  return ((), offset + 4)

/-- The loop over the character strings of a record that ends at `last`. -/
def readTxt (message : List Byte) (last : ℕ) (text : List Byte) (cursor : ℕ) :
    DnsResult (List Byte) :=
  if cursor < last then
    match (index message cursor : DnsResult Byte) with
    | .error stop => .error stop
    | .ok partLen =>
      let partEnd := cursor + 1 + partLen.toNat
      if partEnd ≤ last then
        match (indexRange message (cursor + 1) partEnd : DnsResult (List Byte)) with
        | .error stop => .error stop
        | .ok part => readTxt message last (text ++ part) partEnd
      else .error (.error (invalidDnsResponse "DNS TXT record is truncated"))
  else .ok text
termination_by last - cursor

/-- `str::trim_end_matches` of a character -/
def trimEndMatches (c : Char) (text : String) : String :=
  .ofList (text.toList.reverse.dropWhile (· = c)).reverse

/-- The route in the text of a record, if it is a host name. -/
def routeOf (text : List Byte) (ttl : BitVec 32) : Option AlternativeRoute := do
  let host ← textOf text
  let host := toAsciiLowercase (trimEndMatches '.' (trim host))
  if validHostname host then some { host, validFor := max ttl.toNat 60 } else none

/-- The loop over the answers, with the route that a round pushes. -/
def readAnswer (message : List Byte) : Reader (Stop NativeError) (Option AlternativeRoute) :=
  fun offset => do
    let offset ← skipDnsName message offset
    let recordType ← readU16 message offset
    let recordClass ← readU16 message (offset + 2)
    let ttl ← readU32 message (offset + 4)
    let dataLen ← readU16 message (offset + 8)
    let last := offset + 10 + dataLen.toNat
    rejectWhen (message.length < last) (invalidDnsResponse "DNS record is truncated")
    if recordType = 16 ∧ recordClass = 1 then
      (readTxt message last [] (offset + 10)).map fun text => (routeOf text ttl, last)
    else .ok (none, last)

/-- Source: `alternative_routing.rs` `parse_txt_response` -/
def parseTxtResponse (message : List Byte) : DnsResult (List AlternativeRoute) := do
  rejectWhen (message.length < 12) (invalidDnsResponse "DNS header is truncated")
  let transactionId ← readU16 message 0
  rejectWhen (transactionId ≠ 0x5056) (invalidDnsResponse "DNS transaction ID does not match")
  let flags ← readU16 message 2
  rejectWhen (flags &&& 0x8000 = 0 ∨ flags &&& 0x000f ≠ 0)
    (invalidDnsResponse "DNS query was not answered successfully")
  let questions ← readU16 message 4
  let answers ← readU16 message 6
  let (_, offset) ← readMany (skipQuestion message) questions.toNat 12
  let (routes, _) ← readMany (readAnswer message) answers.toNat offset
  return routes.reduceOption

/-! ## What the readers accept -/

section readers

variable {message : List Byte} {offset : ℕ}

theorem rejectWhen_eq_ok {condition : Prop} [Decidable condition] {error : NativeError} {u : Unit} :
    rejectWhen condition error = .ok u ↔ ¬ condition := by
  unfold rejectWhen
  split <;> simp_all

theorem readU16_eq_ok {w : BitVec 16} :
    readU16 message offset = .ok w ↔ LiesAt message (wordBytes w) offset := by
  rw [liesAt_wordBytes]
  unfold readU16
  constructor
  · intro h
    split at h
    · cases h
    · rename_i high low hrange
      exact ⟨high, low, hrange, (Except.ok.inj h).symm⟩
    · cases h
  · rintro ⟨high, low, hrange, rfl⟩
    rw [hrange]

theorem readU32_eq_ok {w : BitVec 32} :
    readU32 message offset = .ok w ↔ LiesAt message (longBytes w) offset := by
  rw [liesAt_longBytes]
  unfold readU32
  constructor
  · intro h
    split at h
    · cases h
    · rename_i a b c d hrange
      exact ⟨a, b, c, d, hrange, (Except.ok.inj h).symm⟩
    · cases h
  · rintro ⟨a, b, c, d, hrange, rfl⟩
    rw [hrange]

/-- Both high bits are set in the bytes from 192 on. -/
theorem isPointer_iff : ∀ b : Byte, b &&& 0xc0 = 0xc0 ↔ 192 ≤ b.toNat := by decide +kernel

/-- One of the high bits is set in the bytes from 64 on. -/
theorem isInvalid_iff : ∀ b : Byte, (b &&& 0xc0 ≠ 0 ∨ 63 < b) ↔ 64 ≤ b.toNat := by decide +kernel

/-- The round of `skip_dns_name` at a byte. -/
theorem skipDnsName_of_some {length : Byte} (h : message[offset]? = some length) :
    skipDnsName message offset =
      if length = 0 then .ok (offset + 1)
      else if length &&& 0xc0 = 0xc0 then
        match message[offset + 1]? with
        | none => .error (.error (invalidDnsResponse "DNS compression pointer is truncated"))
        | some _ => .ok (offset + 1 + 1)
      else if length &&& 0xc0 ≠ 0 ∨ 63 < length then
        .error (.error (invalidDnsResponse "DNS label length is invalid"))
      else if offset + 1 + length.toNat ≤ message.length then
        skipDnsName message (offset + 1 + length.toNat)
      else .error (.error (invalidDnsResponse "DNS label is truncated")) := by
  rw [skipDnsName]
  split
  · rename_i hnone
    rw [h] at hnone
    cases hnone
  · rename_i length' hsome
    rw [h] at hsome
    obtain rfl := Option.some.inj hsome
    rfl

theorem skipDnsName_of_liesAt (name : Name) (h : LiesAt message name.bytes offset) :
    skipDnsName message offset = .ok (offset + name.bytes.length) := by
  induction name generalizing offset with
  | root =>
      rw [skipDnsName_of_some (liesAt_singleton.mp h), if_pos rfl]
      rfl
  | pointer high low isPointer =>
      obtain ⟨hhigh, hlow⟩ := liesAt_cons.mp h
      have hne : high ≠ 0 := by
        rintro rfl
        exact absurd isPointer (by decide)
      rw [skipDnsName_of_some hhigh, if_neg hne, if_pos ((isPointer_iff high).mpr isPointer),
        liesAt_singleton.mp hlow]
      rfl
  | label text short rest ih =>
      obtain ⟨hlength, htext, hrest⟩ := Name.liesAt_label.mp h
      have htoNat : (BitVec.ofNat 8 text.length).toNat = text.length := by
        rw [BitVec.toNat_ofNat]
        omega
      have hpos := List.length_pos_iff.mpr short.1
      have hne : BitVec.ofNat 8 text.length ≠ 0 := by
        intro hzero
        rw [hzero] at htoNat
        exact hpos.ne htoNat
      have hlow : ¬ 64 ≤ (BitVec.ofNat 8 text.length).toNat := by omega
      rw [skipDnsName_of_some hlength, if_neg hne,
        if_neg (fun hpointer => by have := (isPointer_iff _).mp hpointer; omega),
        if_neg (fun hinvalid => hlow ((isInvalid_iff _).mp hinvalid)), htoNat,
        if_pos (htext.length_le short.1), ih hrest, Name.length_bytes_label]
      congr 1
      omega

theorem exists_of_skipDnsName {offset' : ℕ} (h : skipDnsName message offset = .ok offset') :
    ∃ name : Name, LiesAt message name.bytes offset ∧ offset' = offset + name.bytes.length := by
  fun_induction skipDnsName message offset with
  | case1 offset hnone => cases h
  | case2 offset hsome =>
      obtain rfl := Except.ok.inj h
      exact ⟨.root, liesAt_singleton.mpr hsome, rfl⟩
  | case3 offset length hsome hzero hpointer hnone => cases h
  | case4 offset length hsome hzero hpointer low hlow =>
      obtain rfl := Except.ok.inj h
      exact ⟨.pointer length low ((isPointer_iff _).mp hpointer),
        liesAt_cons.mpr ⟨hsome, liesAt_singleton.mpr hlow⟩, rfl⟩
  | case5 offset length hsome hzero hpointer hinvalid => cases h
  | case6 offset length hsome hzero hpointer hinvalid hle ih =>
      obtain ⟨rest, hrest, rfl⟩ := ih h
      have hshort : length.toNat < 64 := by
        by_contra hlong
        exact hinvalid ((isInvalid_iff _).mpr (Nat.le_of_not_lt hlong))
      have hpos : length.toNat ≠ 0 := fun htoNat => hzero (BitVec.eq_of_toNat_eq htoNat)
      have htext : ((message.drop (offset + 1)).take length.toNat).length = length.toNat := by
        rw [List.length_take, List.length_drop]
        omega
      refine ⟨.label ((message.drop (offset + 1)).take length.toNat)
        ⟨fun hnil => hpos (by rw [← htext, hnil]; rfl), by omega⟩ rest, ?_, ?_⟩
      · rw [Name.liesAt_label, htext, BitVec.ofNat_toNat, BitVec.setWidth_eq]
        exact ⟨hsome, liesAt_take _, hrest⟩
      · rw [Name.length_bytes_label, htext]
        omega
  | case7 offset length hsome hzero hpointer hinvalid hle => cases h

theorem skipDnsName_eq_ok {offset' : ℕ} :
    skipDnsName message offset = .ok offset' ↔
      ∃ name : Name, LiesAt message name.bytes offset ∧ offset' = offset + name.bytes.length := by
  refine ⟨exists_of_skipDnsName, ?_⟩
  rintro ⟨name, h, rfl⟩
  exact skipDnsName_of_liesAt name h

theorem format_skipQuestion :
    Format message (skipQuestion message) (fun _ : Question => True) Question.bytes
      (fun _ => ()) := by
  intro offset result
  unfold skipQuestion
  simp only [Except.bind_eq_ok, skipDnsName_eq_ok, rejectWhen_eq_ok, not_lt]
  constructor
  · rintro ⟨offset', ⟨name, hname, rfl⟩, -, hle, hresult⟩
    obtain rfl := Except.ok.inj hresult
    obtain ⟨recordType, htype⟩ :=
      @exists_liesAt_wordBytes message (offset + name.bytes.length) (by omega)
    obtain ⟨recordClass, hclass⟩ :=
      @exists_liesAt_wordBytes message (offset + name.bytes.length + 2) (by omega)
    refine ⟨⟨name, recordType, recordClass⟩, trivial, liesAt_question.mpr ⟨hname, htype, hclass⟩, ?_⟩
    rw [Question.length_bytes, Nat.add_assoc]
  · rintro ⟨question, -, hquestion, rfl⟩
    obtain ⟨hname, -, hclass⟩ := liesAt_question.mp hquestion
    have hle := hclass.length_le (by simp [wordBytes])
    rw [length_wordBytes] at hle
    refine ⟨_, ⟨question.name, hname, rfl⟩, (), by omega, ?_⟩
    rw [Question.length_bytes, ← Nat.add_assoc]
    rfl

/-- A round of the loop over the character strings. -/
theorem readTxt_of_lt {last cursor : ℕ} {text : List Byte} {length : Byte}
    (hlast : last ≤ message.length) (hcursor : cursor < last)
    (hlength : message[cursor]? = some length) :
    readTxt message last text cursor =
      if cursor + 1 + length.toNat ≤ last then
        readTxt message last (text ++ (message.drop (cursor + 1)).take length.toNat)
          (cursor + 1 + length.toNat)
      else .error (.error (invalidDnsResponse "DNS TXT record is truncated")) := by
  rw [readTxt, if_pos hcursor, index_eq_ok.mpr hlength]
  dsimp only
  split
  · rename_i hle
    rw [indexRange_eq (hle.trans hlast)]
  · rfl

theorem readTxt_self {last : ℕ} {text : List Byte} : readTxt message last text last = .ok text := by
  rw [readTxt, if_neg (Nat.lt_irrefl last)]

theorem readTxt_of_liesAt {last cursor : ℕ} {text : List Byte} {strings : List (List Byte)}
    (hlast : last ≤ message.length) (hshort : ∀ string ∈ strings, string.length < 256)
    (hlies : LiesAt message (textData strings) cursor)
    (hend : cursor + (textData strings).length = last) :
    readTxt message last text cursor = .ok (text ++ strings.flatten) := by
  induction strings generalizing cursor text with
  | nil =>
      obtain rfl : cursor = last := hend
      rw [readTxt_self, List.flatten_nil, List.append_nil]
  | cons string strings ih =>
      rw [length_textData_cons] at hend
      rw [textData_cons, liesAt_cons, liesAt_append] at hlies
      obtain ⟨hlength, hstring, hrest⟩ := hlies
      obtain ⟨hlt, hshort⟩ := List.forall_mem_cons.mp hshort
      have htoNat : (BitVec.ofNat 8 string.length).toNat = string.length := by
        rw [BitVec.toNat_ofNat, Nat.mod_eq_of_lt hlt]
      rw [readTxt_of_lt hlast (by omega) hlength, htoNat, if_pos (by omega),
        liesAt_iff.mp hstring, ih hshort hrest (by omega), List.flatten_cons, List.append_assoc]

theorem exists_of_readTxt {last cursor : ℕ} {text result : List Byte}
    (hlast : last ≤ message.length) (hcursor : cursor ≤ last)
    (h : readTxt message last text cursor = .ok result) :
    ∃ strings, (∀ string ∈ strings, string.length < 256) ∧
      LiesAt message (textData strings) cursor ∧
      cursor + (textData strings).length = last ∧ result = text ++ strings.flatten := by
  induction hsteps : last - cursor using Nat.strong_induction_on generalizing cursor text with
  | _ steps ih =>
      by_cases hend : cursor = last
      · subst hend
        rw [readTxt_self] at h
        refine ⟨[], by simp, liesAt_nil, rfl, ?_⟩
        rw [List.flatten_nil, List.append_nil, Except.ok.inj h]
      · have hlt : cursor < last := Nat.lt_of_le_of_ne hcursor hend
        obtain ⟨length, hlength⟩ : ∃ length, message[cursor]? = some length :=
          ⟨_, List.getElem?_eq_getElem (Nat.lt_of_lt_of_le hlt hlast)⟩
        rw [readTxt_of_lt hlast hlt hlength] at h
        by_cases hpart : cursor + 1 + length.toNat ≤ last
        · rw [if_pos hpart] at h
          obtain ⟨strings, hshort, hlies, hlastEq, rfl⟩ := ih _ (by omega) hpart h rfl
          have htake : ((message.drop (cursor + 1)).take length.toNat).length = length.toNat := by
            rw [List.length_take, List.length_drop]
            omega
          refine ⟨(message.drop (cursor + 1)).take length.toNat :: strings,
            List.forall_mem_cons.mpr ⟨?_, hshort⟩, ?_, ?_, ?_⟩
          · rw [htake]
            exact length.isLt
          · rw [textData_cons, liesAt_cons, liesAt_append, htake, BitVec.ofNat_toNat,
              BitVec.setWidth_eq]
            exact ⟨hlength, liesAt_take _, hlies⟩
          · rw [length_textData_cons, htake]
            omega
          · rw [List.flatten_cons, List.append_assoc]
        · rw [if_neg hpart] at h
          cases h

/-- The loop over the character strings adds up those that end where the record does. -/
theorem readTxt_eq_ok {last cursor : ℕ} {text result : List Byte} (hlast : last ≤ message.length)
    (hcursor : cursor ≤ last) :
    readTxt message last text cursor = .ok result ↔
      ∃ strings, (∀ string ∈ strings, string.length < 256) ∧
        LiesAt message (textData strings) cursor ∧
        cursor + (textData strings).length = last ∧ result = text ++ strings.flatten := by
  refine ⟨exists_of_readTxt hlast hcursor, ?_⟩
  rintro ⟨strings, hshort, hlies, hend, rfl⟩
  exact readTxt_of_liesAt hlast hshort hlies hend

end readers

/-! ## Answers -/

/-- A record, with the character strings of its text if it is a TXT record of the Internet. -/
structure Answer extends Record where
  strings : List (List Byte)
  short : ∀ string ∈ strings, string.length < 256
  isText : recordType = 16 → recordClass = 1 → data = textData strings

/-- The route in a record: only a TXT record of the Internet has one. -/
def Answer.route (answer : Answer) : Option AlternativeRoute :=
  if answer.recordType = 16 ∧ answer.recordClass = 1 then
    routeOf answer.strings.flatten answer.ttl
  else none

theorem format_readAnswer {message : List Byte} :
    Format message (readAnswer message) (fun _ : Answer => True) (fun answer => answer.bytes)
      Answer.route := by
  intro offset result
  unfold readAnswer
  simp only [Except.bind_eq_ok, skipDnsName_eq_ok, readU16_eq_ok, readU32_eq_ok, rejectWhen_eq_ok,
    not_lt]
  constructor
  · rintro ⟨offset', ⟨name, hname, rfl⟩, recordType, htype, recordClass, hclass, ttl, httl, dataLen,
      hdataLen, -, hle, hresult⟩
    obtain ⟨record, rfl, rfl, rfl, rfl, hdata, hrecord, hlength⟩ :=
      exists_record hname htype hclass httl hdataLen hle
    have hend : offset + record.bytes.length =
        offset + record.name.bytes.length + 10 + dataLen.toNat := by omega
    split at hresult
    · rename_i htxt
      obtain ⟨text, htext, rfl⟩ := Except.map_eq_ok.mp hresult
      obtain ⟨strings, hshort, hlies, hstrings, rfl⟩ := exists_of_readTxt hle (by omega) htext
      have hisText : record.data = textData strings := by
        rw [hdata, ← liesAt_iff.mp hlies, Nat.add_left_cancel hstrings]
      refine ⟨⟨record, strings, hshort, fun _ _ => hisText⟩, trivial, hrecord, ?_⟩
      rw [Answer.route, if_pos htxt, hend, List.nil_append]
    · rename_i htxt
      obtain rfl := Except.ok.inj hresult
      refine ⟨⟨record, [], by simp, fun htype hclass => absurd ⟨htype, hclass⟩ htxt⟩, trivial,
        hrecord, ?_⟩
      rw [Answer.route, if_neg htxt, hend]
  · rintro ⟨answer, -, hanswer, rfl⟩
    obtain ⟨hname, htype, hclass, httl, hdataLen, hdata⟩ := liesAt_record.mp hanswer
    refine ⟨_, ⟨answer.name, hname, rfl⟩, _, htype, _, hclass, _, httl, _, hdataLen, (), ?_⟩
    have htoNat : (BitVec.ofNat 16 answer.data.length).toNat = answer.data.length := by
      rw [BitVec.toNat_ofNat, Nat.mod_eq_of_lt answer.data_lt]
    have hhead := hdataLen.length_le (by simp [wordBytes])
    rw [length_wordBytes] at hhead
    have hle := hdata.length_le' hhead
    rw [htoNat, Record.length_bytes, ← Nat.add_assoc, ← Nat.add_assoc]
    refine ⟨hle, ?_⟩
    unfold Answer.route
    split
    · rename_i htxt
      have htext := answer.isText htxt.1 htxt.2
      rw [readTxt_of_liesAt hle answer.short (htext ▸ hdata) (by rw [htext]), List.nil_append]
      rfl
    · rfl

/-! ## Nothing is indexed out of bounds -/

section bounds

variable (message : List Byte)

theorem inBounds_rejectWhen (condition : Prop) [Decidable condition] (error : NativeError) :
    InBounds (rejectWhen condition error) := by
  unfold rejectWhen
  split
  · exact inBounds_error _
  · exact inBounds_ok _

theorem inBounds_readU16 (offset : ℕ) : InBounds (readU16 message offset) := by
  unfold readU16
  split
  · exact inBounds_error _
  · exact inBounds_ok _
  · exact inBounds_error _

theorem inBounds_readU32 (offset : ℕ) : InBounds (readU32 message offset) := by
  unfold readU32
  split
  · exact inBounds_error _
  · exact inBounds_ok _
  · exact inBounds_error _

theorem inBounds_skipDnsName (offset : ℕ) : InBounds (skipDnsName message offset) := by
  fun_induction skipDnsName message offset with
  | case1 => exact inBounds_error _
  | case2 => exact inBounds_ok _
  | case3 => exact inBounds_error _
  | case4 => exact inBounds_ok _
  | case5 => exact inBounds_error _
  | case6 _ _ _ _ _ _ _ ih => exact ih
  | case7 => exact inBounds_error _

theorem inBounds_skipQuestion (offset : ℕ) : InBounds (skipQuestion message offset) :=
  (inBounds_skipDnsName message offset).bind fun _ _ =>
    (inBounds_rejectWhen _ _).bind fun _ _ => inBounds_ok _

/-- The strings of a record inside the message are read inside the message. -/
theorem inBounds_readTxt {last : ℕ} (hlast : last ≤ message.length) (text : List Byte)
    (cursor : ℕ) : InBounds (readTxt message last text cursor) := by
  induction hsteps : last - cursor using Nat.strong_induction_on generalizing cursor text with
  | _ steps ih =>
      by_cases hlt : cursor < last
      · rw [readTxt_of_lt hlast hlt (List.getElem?_eq_getElem (Nat.lt_of_lt_of_le hlt hlast))]
        split
        · exact ih _ (by omega) _ _ rfl
        · exact inBounds_error _
      · rw [readTxt, if_neg hlt]
        exact inBounds_ok _

theorem inBounds_readAnswer (offset : ℕ) : InBounds (readAnswer message offset) := by
  refine (inBounds_skipDnsName message offset).bind fun offset _ => ?_
  refine (inBounds_readU16 message _).bind fun recordType _ => ?_
  refine (inBounds_readU16 message _).bind fun recordClass _ => ?_
  refine (inBounds_readU32 message _).bind fun ttl _ => ?_
  refine (inBounds_readU16 message _).bind fun dataLen _ => ?_
  refine (inBounds_rejectWhen _ _).bind fun _ hlast => ?_
  split
  · have htext := inBounds_readTxt message (not_lt.mp (rejectWhen_eq_ok.mp hlast)) []
      (offset + 10)
    intro hmap
    cases hread : readTxt message (offset + 10 + dataLen.toNat) [] (offset + 10) with
    | error stop =>
        rw [hread] at hmap htext
        exact htext (congrArg Except.error (Except.error.inj hmap))
    | ok text =>
        rw [hread] at hmap
        cases hmap
  · exact inBounds_ok _

theorem inBounds_parseTxtResponse : InBounds (parseTxtResponse message) := by
  refine (inBounds_rejectWhen _ _).bind fun _ _ => ?_
  refine (inBounds_readU16 message _).bind fun transactionId _ => ?_
  refine (inBounds_rejectWhen _ _).bind fun _ _ => ?_
  refine (inBounds_readU16 message _).bind fun flags _ => ?_
  refine (inBounds_rejectWhen _ _).bind fun _ _ => ?_
  refine (inBounds_readU16 message _).bind fun questions _ => ?_
  refine (inBounds_readU16 message _).bind fun answers _ => ?_
  refine (inBounds_readMany (inBounds_skipQuestion message) _ _).bind fun skipped _ => ?_
  exact (inBounds_readMany (inBounds_readAnswer message) _ _).bind fun routes _ => inBounds_ok _

end bounds

/-! ## Responses -/

/-- A successful response to the query. -/
structure Response extends Message where
  records : List Answer
  answers_eq : answers = records.map Answer.toRecord
  id_eq : id = 0x5056
  response : toMessage.isResponse = true
  noError : toMessage.responseCode = 0

/-- The routes of the records that have one, in the order of the records. -/
def Response.routes (response : Response) : List AlternativeRoute :=
  response.records.filterMap Answer.route

theorem parseTxtResponse_eq_ok {message : List Byte} {routes : List AlternativeRoute} :
    parseTxtResponse message = .ok routes ↔
      ∃ response : Response, LiesAt message response.bytes 0 ∧ routes = response.routes := by
  unfold parseTxtResponse
  simp only [Except.bind_eq_ok, rejectWhen_eq_ok, readU16_eq_ok, (format_skipQuestion.readMany _) _ _,
    (format_readAnswer.readMany _) _ _, not_lt, not_or, not_not]
  constructor
  · rintro ⟨-, hlength, _, hid, -, rfl, flags, hflags, -, hnoError, questions, hquestions, answers,
      hanswers, skipped, ⟨asked, ⟨hasked, -⟩, hliesAsked, rfl⟩, found, ⟨records, ⟨hrecords, -⟩,
      hliesRecords, rfl⟩, hroutes⟩
    obtain ⟨authorities, hauthorities⟩ := @exists_liesAt_wordBytes message 8 (by omega)
    obtain ⟨additionals, hadditionals⟩ := @exists_liesAt_wordBytes message 10 (by omega)
    have hofNat : ∀ w : BitVec 16, BitVec.ofNat 16 w.toNat = w := by
      intro w
      rw [BitVec.ofNat_toNat, BitVec.setWidth_eq]
    have hlies : LiesAt message (Message.mk 0x5056 flags asked (records.map Answer.toRecord)
        authorities additionals (hasked ▸ questions.isLt)
        (by rw [List.length_map, hrecords]; exact answers.isLt)).bytes 0 := by
      rw [liesAt_message]
      refine ⟨hid, hflags, ?_, ?_, hauthorities, hadditionals, hliesAsked, ?_⟩
      · rw [hasked, hofNat]
        exact hquestions
      · rw [List.length_map, hrecords, hofNat]
        exact hanswers
      · rw [List.flatMap_map]
        exact hliesRecords
    refine ⟨⟨_, records, rfl, rfl, (Message.isResponse_iff _).mpr hnoError.1,
      (Message.responseCode_eq_zero_iff _).mpr hnoError.2⟩, hlies, ?_⟩
    rw [Response.routes, ← Except.ok.inj hroutes, List.reduceOption, List.filterMap_map]
    rfl
  · rintro ⟨response, hlies, rfl⟩
    obtain ⟨hid, hflags, hquestions, hanswers, -, hadditionals, hliesAsked, hliesRecords⟩ :=
      liesAt_message.mp hlies
    have hlength := hadditionals.length_le (by simp [wordBytes])
    rw [length_wordBytes] at hlength
    have htoNat : ∀ n, n < 2 ^ 16 → (BitVec.ofNat 16 n).toNat = n := fun n hn => by
      rw [BitVec.toNat_ofNat, Nat.mod_eq_of_lt hn]
    rw [response.id_eq] at hid
    rw [response.answers_eq, List.flatMap_map] at hliesRecords
    refine ⟨(), hlength, _, hid, (), rfl, _, hflags, (),
      ⟨(Message.isResponse_iff _).mp response.response,
        (Message.responseCode_eq_zero_iff _).mp response.noError⟩, _, hquestions, _, hanswers, _,
      ⟨response.questions, ⟨(htoNat _ response.questions_lt).symm, by simp⟩, hliesAsked, rfl⟩, _,
      ⟨response.records, ⟨?_, by simp⟩, hliesRecords, rfl⟩, ?_⟩
    · rw [htoNat _ response.answers_lt, response.answers_eq, List.length_map]
    · dsimp only
      rw [Response.routes, List.reduceOption, List.filterMap_map]
      rfl

/-- A message that ends before its last answer does is rejected. -/
theorem parseTxtResponse_take {parts : Message} {length : ℕ} (hlength : length < parts.bytes.length) :
    ∃ error, parseTxtResponse (parts.bytes.take length) = .error (.error error) := by
  cases hparse : parseTxtResponse (parts.bytes.take length) with
  | ok routes =>
      obtain ⟨other, hother, -⟩ := parseTxtResponse_eq_ok.mp hparse
      exact absurd hother (Message.not_liesAt_take hlength)
  | error stop =>
      cases stop with
      | outOfBounds => exact absurd hparse (inBounds_parseTxtResponse _)
      | error error => exact ⟨error, rfl⟩

/-! ## Queries -/

theorem exists_name {parts : List String} (h : parts.all validLabel = true) :
    ∃ name : Name, name.bytes = parts.flatMap labelBytes ++ [0] := by
  induction parts with
  | nil => exact ⟨.root, rfl⟩
  | cons part parts ih =>
      rw [List.all_cons, Bool.and_eq_true] at h
      obtain ⟨rest, hrest⟩ := ih h.2
      have hpart := h.1
      unfold validLabel at hpart
      simp only [Bool.and_eq_true, decide_eq_true_eq] at hpart
      obtain ⟨⟨⟨⟨hne, hshort⟩, -⟩, -⟩, -⟩ := hpart
      have hbytes : bytesOf part ≠ [] := by
        intro hnil
        exact hne (bytesOf_injective (hnil.trans (by rfl)))
      refine ⟨.label (bytesOf part) ⟨hbytes, length_bytesOf part ▸ hshort⟩ rest, ?_⟩
      rw [Name.bytes, hrest, length_bytesOf, List.flatMap_cons, labelBytes, List.append_assoc]
      rfl

/-- The name that a query is made of is skipped exactly, wherever it lies. -/
theorem skipDnsName_nameBytes {host : String} (h : validHostname host = true)
    {message : List Byte} {offset : ℕ} (hlies : LiesAt message (nameBytes host) offset) :
    skipDnsName message offset = .ok (offset + (nameBytes host).length) := by
  unfold validHostname at h
  obtain ⟨name, hname⟩ := exists_name (Bool.and_eq_true_iff.mp h).2
  unfold nameBytes at hlies ⊢
  rw [← hname] at hlies ⊢
  exact skipDnsName_of_liesAt name hlies

end ProtonVpnOmarchy.Agent.AlternativeRouting
