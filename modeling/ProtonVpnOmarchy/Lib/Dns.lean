import ProtonVpnOmarchy.Lib.Bytes
import ProtonVpnOmarchy.Lib.Pieces

/-!
# The wire format of DNS messages

Words in network order, names as labels that end in the root or in a compression pointer,
questions, records, and messages up to the end of their answers.

* `liesAt_wordBytes`, `liesAt_longBytes` — a word lies where its bytes can be read.
* `Name.liesAt_label` — a label lies where its length, its text and the rest of the name do.
* `Message.length_unique` — where the answers of a message end is determined by the message.
-/

namespace ProtonVpnOmarchy.Lib.Dns

/-! ## Words -/

/-- The bytes of a 16-bit word in network order. -/
def wordBytes (w : BitVec 16) : List Byte := [w.extractLsb' 8 8, w.extractLsb' 0 8]

/-- The bytes of a 32-bit word in network order. -/
def longBytes (w : BitVec 32) : List Byte :=
  [w.extractLsb' 24 8, w.extractLsb' 16 8, w.extractLsb' 8 8, w.extractLsb' 0 8]

/-- `u16::from_be_bytes` -/
def wordOf (high low : Byte) : BitVec 16 := .ofNat 16 (256 * high.toNat + low.toNat)

/-- `u32::from_be_bytes` -/
def longOf (a b c d : Byte) : BitVec 32 :=
  .ofNat 32 (256 * (256 * (256 * a.toNat + b.toNat) + c.toNat) + d.toNat)

@[simp] theorem length_wordBytes (w : BitVec 16) : (wordBytes w).length = 2 := rfl

@[simp] theorem length_longBytes (w : BitVec 32) : (longBytes w).length = 4 := rfl

theorem wordBytes_eq_iff {w : BitVec 16} {high low : Byte} :
    wordBytes w = [high, low] ↔ w = wordOf high low := by
  unfold wordBytes wordOf
  simp only [List.cons.injEq, and_true, ← BitVec.toNat_inj, BitVec.extractLsb'_toNat,
    BitVec.toNat_ofNat, Nat.shiftRight_eq_div_pow]
  omega

theorem longBytes_eq_iff {w : BitVec 32} {a b c d : Byte} :
    longBytes w = [a, b, c, d] ↔ w = longOf a b c d := by
  unfold longBytes longOf
  simp only [List.cons.injEq, and_true, ← BitVec.toNat_inj, BitVec.extractLsb'_toNat,
    BitVec.toNat_ofNat, Nat.shiftRight_eq_div_pow]
  omega

theorem wordBytes_injective : Function.Injective wordBytes := fun _ _ h =>
  (wordBytes_eq_iff.mp h).trans (wordBytes_eq_iff.mp rfl).symm

section reading

variable {message : List Byte} {offset : ℕ}

theorem liesAt_wordBytes {w : BitVec 16} :
    LiesAt message (wordBytes w) offset ↔
      ∃ high low, getRange message offset (offset + 2) = some [high, low] ∧ w = wordOf high low := by
  constructor
  · intro h
    have hle := h.length_le (by simp [wordBytes])
    refine ⟨_, _, getRange_eq_some.mpr ⟨hle, rfl, h⟩, wordBytes_eq_iff.mp rfl⟩
  · rintro ⟨high, low, hrange, rfl⟩
    rw [wordBytes_eq_iff.mpr rfl]
    exact (getRange_eq_some.mp hrange).2.2

theorem liesAt_longBytes {w : BitVec 32} :
    LiesAt message (longBytes w) offset ↔
      ∃ a b c d, getRange message offset (offset + 4) = some [a, b, c, d] ∧ w = longOf a b c d := by
  constructor
  · intro h
    have hle := h.length_le (by simp [longBytes])
    refine ⟨_, _, _, _, getRange_eq_some.mpr ⟨hle, rfl, h⟩, longBytes_eq_iff.mp rfl⟩
  · rintro ⟨a, b, c, d, hrange, rfl⟩
    rw [longBytes_eq_iff.mpr rfl]
    exact (getRange_eq_some.mp hrange).2.2

end reading

/-! ## Names -/

/-- A name: labels that end in the root or in a pointer to another name. -/
inductive Name where
  | root
  | pointer (high low : Byte) (isPointer : 192 ≤ high.toNat)
  | label (text : List Byte) (short : text ≠ [] ∧ text.length ≤ 63) (rest : Name)

namespace Name

def bytes : Name → List Byte
  | root => [0]
  | pointer high low _ => [high, low]
  | label text _ rest => BitVec.ofNat 8 text.length :: (text ++ rest.bytes)

/-- The labels and the end of a name. -/
def items : Name → ℕ
  | root => 1
  | pointer .. => 1
  | label _ _ rest => rest.items + 1

/-- The pointer of a name is below a bound. -/
def PointsBelow (bound : ℕ) : Name → Prop
  | root => True
  | pointer high low _ => ((high &&& 63).toNat <<< 8 ||| low.toNat) < bound
  | label _ _ rest => rest.PointsBelow bound

theorem PointsBelow.mono {bound bound' : ℕ} (hle : bound ≤ bound') {name : Name}
    (h : name.PointsBelow bound) : name.PointsBelow bound' := by
  induction name with
  | root => trivial
  | pointer high low isPointer => exact Nat.lt_of_lt_of_le h hle
  | label text short rest ih => exact ih h

/-- The first byte of a name tells its form: 0, a length from 1 to 63, or at least 192. -/
def first : Name → Byte
  | root => 0
  | pointer high _ _ => high
  | label text _ _ => .ofNat 8 text.length

theorem first_of_liesAt {message : List Byte} {offset : ℕ} {name : Name}
    (h : LiesAt message name.bytes offset) : message[offset]? = some name.first := by
  cases name <;> exact (liesAt_cons.mp h).1

theorem toNat_first_label {text : List Byte} (short : text ≠ [] ∧ text.length ≤ 63)
    (rest : Name) : (label text short rest).first.toNat = text.length := by
  rw [first, BitVec.toNat_ofNat]
  omega

theorem length_bytes_label (text : List Byte) (short : text ≠ [] ∧ text.length ≤ 63)
    (rest : Name) : (label text short rest).bytes.length = 1 + text.length + rest.bytes.length := by
  rw [bytes, List.length_cons, List.length_append]
  omega

theorem liesAt_label {message text : List Byte} {offset : ℕ}
    {short : text ≠ [] ∧ text.length ≤ 63} {rest : Name} :
    LiesAt message (label text short rest).bytes offset ↔
      message[offset]? = some (.ofNat 8 text.length) ∧ LiesAt message text (offset + 1) ∧
        LiesAt message rest.bytes (offset + 1 + text.length) := by
  rw [bytes, liesAt_cons, liesAt_append]

end Name

/-! ## Questions, records, messages -/

structure Question where
  name : Name
  recordType : BitVec 16
  recordClass : BitVec 16

def Question.bytes (question : Question) : List Byte :=
  question.name.bytes ++ (wordBytes question.recordType ++ wordBytes question.recordClass)

structure Record where
  name : Name
  recordType : BitVec 16
  recordClass : BitVec 16
  ttl : BitVec 32
  data : List Byte
  data_lt : data.length < 2 ^ 16

/-- The part of a record between its name and its data. -/
def Record.head (record : Record) : List Byte :=
  wordBytes record.recordType ++ (wordBytes record.recordClass ++ (longBytes record.ttl ++
    wordBytes (.ofNat 16 record.data.length)))

def Record.bytes (record : Record) : List Byte := record.name.bytes ++ (record.head ++ record.data)

/-- Character strings one behind the other, each behind its length. -/
def textData (strings : List (List Byte)) : List Byte :=
  strings.flatMap fun string => .ofNat 8 string.length :: string

/-- A message up to the end of its answers, with the counts of the two sections behind them. -/
structure Message where
  id : BitVec 16
  flags : BitVec 16
  questions : List Question
  answers : List Record
  authorities : BitVec 16
  additionals : BitVec 16
  questions_lt : questions.length < 2 ^ 16
  answers_lt : answers.length < 2 ^ 16

namespace Message

/-- The bit that tells a response from a query. -/
def isResponse (message : Message) : Bool := message.flags.getLsbD 15

def isTruncated (message : Message) : Bool := message.flags.getLsbD 9

def responseCode (message : Message) : BitVec 4 := message.flags.extractLsb' 0 4

def header (message : Message) : List Byte :=
  wordBytes message.id ++ (wordBytes message.flags ++
    (wordBytes (.ofNat 16 message.questions.length) ++
      (wordBytes (.ofNat 16 message.answers.length) ++
        (wordBytes message.authorities ++ wordBytes message.additionals))))

def bytes (message : Message) : List Byte :=
  message.header ++ (message.questions.flatMap Question.bytes ++
    message.answers.flatMap Record.bytes)

@[simp] theorem length_header (message : Message) : message.header.length = 12 := rfl

end Message

theorem Message.isResponse_iff (message : Message) :
    message.isResponse = true ↔ message.flags &&& 0x8000 ≠ 0 := by
  have hbit : (0x8000 : BitVec 16) = BitVec.twoPow 16 15 := by decide
  unfold isResponse
  rw [hbit, BitVec.and_twoPow]
  cases message.flags.getLsbD 15 <;> decide

theorem Message.responseCode_eq_zero_iff (message : Message) :
    message.responseCode = 0 ↔ message.flags &&& 0x000f = 0 := by
  unfold responseCode
  rw [← BitVec.toNat_inj, ← BitVec.toNat_inj, BitVec.extractLsb'_toNat, BitVec.toNat_and,
    Nat.shiftRight_zero]
  exact Eq.congr_left (Nat.and_two_pow_sub_one_eq_mod _ 4).symm

theorem Question.length_bytes (question : Question) :
    question.bytes.length = question.name.bytes.length + 4 := by
  rw [bytes, List.length_append, List.length_append, length_wordBytes, length_wordBytes]

theorem Record.length_head (record : Record) : record.head.length = 10 := rfl

theorem Record.length_bytes (record : Record) :
    record.bytes.length = record.name.bytes.length + 10 + record.data.length := by
  rw [bytes, List.length_append, List.length_append, Nat.add_assoc]
  rfl

@[simp] theorem textData_nil : textData [] = [] := rfl

theorem textData_cons (string : List Byte) (strings : List (List Byte)) :
    textData (string :: strings) = .ofNat 8 string.length :: (string ++ textData strings) := rfl

theorem length_textData_cons (string : List Byte) (strings : List (List Byte)) :
    (textData (string :: strings)).length = 1 + string.length + (textData strings).length := by
  rw [textData_cons, List.length_cons, List.length_append]
  omega

section layout

variable {message : List Byte} {offset : ℕ}

theorem exists_liesAt_wordBytes (h : offset + 2 ≤ message.length) :
    ∃ w, LiesAt message (wordBytes w) offset := by
  obtain ⟨high, low, hrange⟩ : ∃ high low, (message.drop offset).take 2 = [high, low] :=
    List.length_eq_two.mp (by rw [List.length_take, List.length_drop]; omega)
  refine ⟨wordOf high low, ?_⟩
  rw [wordBytes_eq_iff.mpr rfl, ← hrange]
  exact liesAt_take 2

theorem exists_liesAt_longBytes (h : offset + 4 ≤ message.length) :
    ∃ w, LiesAt message (longBytes w) offset := by
  obtain ⟨a, b, c, d, hrange⟩ : ∃ a b c d, (message.drop offset).take 4 = [a, b, c, d] := by
    have hlength : ((message.drop offset).take 4).length = 4 := by
      rw [List.length_take, List.length_drop]
      omega
    match (message.drop offset).take 4, hlength with
    | [a, b, c, d], _ => exact ⟨a, b, c, d, rfl⟩
  refine ⟨longOf a b c d, ?_⟩
  rw [longBytes_eq_iff.mpr rfl, ← hrange]
  exact liesAt_take 4

theorem liesAt_question {question : Question} :
    LiesAt message question.bytes offset ↔
      LiesAt message question.name.bytes offset ∧
        LiesAt message (wordBytes question.recordType) (offset + question.name.bytes.length) ∧
        LiesAt message (wordBytes question.recordClass)
          (offset + question.name.bytes.length + 2) := by
  rw [Question.bytes, liesAt_append, liesAt_append, length_wordBytes]

/-- Where the fields of a record lie. -/
theorem liesAt_record {record : Record} :
    LiesAt message record.bytes offset ↔
      LiesAt message record.name.bytes offset ∧
        LiesAt message (wordBytes record.recordType) (offset + record.name.bytes.length) ∧
        LiesAt message (wordBytes record.recordClass) (offset + record.name.bytes.length + 2) ∧
        LiesAt message (longBytes record.ttl) (offset + record.name.bytes.length + 4) ∧
        LiesAt message (wordBytes (.ofNat 16 record.data.length))
          (offset + record.name.bytes.length + 8) ∧
        LiesAt message record.data (offset + record.name.bytes.length + 10) := by
  unfold Record.bytes Record.head
  simp only [liesAt_append, List.length_append, length_wordBytes, length_longBytes, and_assoc,
    Nat.add_assoc, Nat.reduceAdd]

/-- A record out of fields that were read one after the other. -/
theorem exists_record {name : Name} {recordType recordClass dataLen : BitVec 16} {ttl : BitVec 32}
    (hname : LiesAt message name.bytes offset)
    (htype : LiesAt message (wordBytes recordType) (offset + name.bytes.length))
    (hclass : LiesAt message (wordBytes recordClass) (offset + name.bytes.length + 2))
    (httl : LiesAt message (longBytes ttl) (offset + name.bytes.length + 4))
    (hdataLen : LiesAt message (wordBytes dataLen) (offset + name.bytes.length + 8))
    (hle : offset + name.bytes.length + 10 + dataLen.toNat ≤ message.length) :
    ∃ record : Record, record.name = name ∧ record.recordType = recordType ∧
      record.recordClass = recordClass ∧ record.ttl = ttl ∧
      record.data = (message.drop (offset + name.bytes.length + 10)).take dataLen.toNat ∧
      LiesAt message record.bytes offset ∧
      record.bytes.length = name.bytes.length + 10 + dataLen.toNat := by
  have hlength : ((message.drop (offset + name.bytes.length + 10)).take dataLen.toNat).length =
      dataLen.toNat := by
    rw [List.length_take, List.length_drop]
    omega
  have hofNat : BitVec.ofNat 16 ((message.drop (offset + name.bytes.length + 10)).take
      dataLen.toNat).length = dataLen := by
    rw [hlength, BitVec.ofNat_toNat, BitVec.setWidth_eq]
  refine ⟨⟨name, recordType, recordClass, ttl, _, hlength.trans_lt dataLen.isLt⟩, rfl, rfl, rfl, rfl, rfl,
    liesAt_record.mpr ⟨hname, htype, hclass, httl, ?_, liesAt_take _⟩, ?_⟩
  · rw [hofNat]
    exact hdataLen
  · rw [Record.length_bytes]
    exact congrArg (name.bytes.length + 10 + ·) hlength

/-- Where the parts of a message lie. -/
theorem liesAt_message {parts : Message} :
    LiesAt message parts.bytes 0 ↔
      LiesAt message (wordBytes parts.id) 0 ∧
        LiesAt message (wordBytes parts.flags) 2 ∧
        LiesAt message (wordBytes (.ofNat 16 parts.questions.length)) 4 ∧
        LiesAt message (wordBytes (.ofNat 16 parts.answers.length)) 6 ∧
        LiesAt message (wordBytes parts.authorities) 8 ∧
        LiesAt message (wordBytes parts.additionals) 10 ∧
        LiesAt message (parts.questions.flatMap Question.bytes) 12 ∧
        LiesAt message (parts.answers.flatMap Record.bytes)
          (12 + (parts.questions.flatMap Question.bytes).length) := by
  unfold Message.bytes Message.header
  simp only [liesAt_append, List.length_append, length_wordBytes, and_assoc, Nat.reduceAdd,
    Nat.zero_add]

end layout

/-! ## Where parts end -/

section ends

variable {message : List Byte} {offset : ℕ}

theorem word_eq_of_liesAt {w w' : BitVec 16} (h : LiesAt message (wordBytes w) offset)
    (h' : LiesAt message (wordBytes w') offset) : w = w' :=
  wordBytes_injective (h.eq h' rfl)

theorem ofNat_inj_of_lt {w a b : ℕ} (ha : a < 2 ^ w) (hb : b < 2 ^ w)
    (h : BitVec.ofNat w a = BitVec.ofNat w b) : a = b := by
  have htoNat := congrArg BitVec.toNat h
  rwa [BitVec.toNat_ofNat, BitVec.toNat_ofNat, Nat.mod_eq_of_lt ha, Nat.mod_eq_of_lt hb] at htoNat

theorem Name.length_unique {name other : Name} (h : LiesAt message name.bytes offset)
    (hother : LiesAt message other.bytes offset) : name.bytes.length = other.bytes.length := by
  induction name generalizing offset other with
  | root =>
      have hfirst := Option.some.inj ((first_of_liesAt h).symm.trans (first_of_liesAt hother))
      cases other with
      | root => rfl
      | pointer high low isPointer =>
          rw [← show (0 : Byte) = high from hfirst] at isPointer
          exact absurd isPointer (by decide)
      | label text short rest =>
          have hlength := toNat_first_label short rest
          rw [← hfirst] at hlength
          exact absurd (List.length_eq_zero_iff.mp hlength.symm) short.1
  | pointer high low isPointer =>
      have hfirst := Option.some.inj ((first_of_liesAt h).symm.trans (first_of_liesAt hother))
      cases other with
      | root =>
          rw [show high = (0 : Byte) from hfirst] at isPointer
          exact absurd isPointer (by decide)
      | pointer high' low' isPointer' => rfl
      | label text short rest =>
          have hlength := toNat_first_label short rest
          rw [← hfirst] at hlength
          have hlow : high.toNat ≤ 63 := hlength.trans_le short.2
          omega
  | label text short rest ih =>
      have hfirst := Option.some.inj ((first_of_liesAt h).symm.trans (first_of_liesAt hother))
      have hlength := toNat_first_label short rest
      rw [hfirst] at hlength
      cases other with
      | root => exact absurd (List.length_eq_zero_iff.mp hlength.symm) short.1
      | pointer high low isPointer =>
          have hlow : high.toNat ≤ 63 := hlength.trans_le short.2
          omega
      | label text' short' rest' =>
          rw [toNat_first_label] at hlength
          have hrest := (liesAt_label.mp h).2.2
          rw [← hlength] at hrest
          rw [length_bytes_label, length_bytes_label, hlength,
            ih hrest (liesAt_label.mp hother).2.2]

theorem Question.length_unique {question other : Question}
    (h : LiesAt message question.bytes offset) (hother : LiesAt message other.bytes offset) :
    question.bytes.length = other.bytes.length := by
  rw [length_bytes, length_bytes,
    Name.length_unique (liesAt_question.mp h).1 (liesAt_question.mp hother).1]

theorem Record.length_unique {record other : Record} (h : LiesAt message record.bytes offset)
    (hother : LiesAt message other.bytes offset) : record.bytes.length = other.bytes.length := by
  obtain ⟨hname, -, -, -, hlength, -⟩ := liesAt_record.mp h
  obtain ⟨hname', -, -, -, hlength', -⟩ := liesAt_record.mp hother
  have hnames := Name.length_unique hname hname'
  rw [← hnames] at hlength'
  rw [length_bytes, length_bytes, hnames,
    ofNat_inj_of_lt record.data_lt other.data_lt (word_eq_of_liesAt hlength hlength')]

/-- Where the answers of a message end. -/
theorem Message.length_unique {parts other : Message} (h : LiesAt message parts.bytes 0)
    (hother : LiesAt message other.bytes 0) : parts.bytes.length = other.bytes.length := by
  obtain ⟨-, -, hquestions, hanswers, -, -, hasked, hrecords⟩ := liesAt_message.mp h
  obtain ⟨-, -, hquestions', hanswers', -, -, hasked', hrecords'⟩ := liesAt_message.mp hother
  have hasks := length_flatMap_unique (fun _ _ _ => Question.length_unique)
    (ofNat_inj_of_lt parts.questions_lt other.questions_lt (word_eq_of_liesAt hquestions hquestions'))
    hasked hasked'
  rw [← hasks] at hrecords'
  have hrecs := length_flatMap_unique (fun _ _ _ => Record.length_unique)
    (ofNat_inj_of_lt parts.answers_lt other.answers_lt (word_eq_of_liesAt hanswers hanswers'))
    hrecords hrecords'
  unfold bytes
  rw [List.length_append, List.length_append, List.length_append, List.length_append,
    length_header, length_header, hasks, hrecs]

/-- No message lies in the part of another one before the end of its last answer. -/
theorem Message.not_liesAt_take {parts other : Message} {length : ℕ}
    (hlength : length < parts.bytes.length) : ¬ LiesAt (parts.bytes.take length) other.bytes 0 := by
  intro hother
  have hshort := hother.length_le' (Nat.zero_le _)
  rw [Nat.zero_add, List.length_take] at hshort
  have hwhole := hother.append_right (parts.bytes.drop length)
  rw [List.take_append_drop] at hwhole
  have hself : LiesAt parts.bytes parts.bytes 0 := List.prefix_rfl
  have hunique := Message.length_unique hwhole hself
  omega

end ends

end ProtonVpnOmarchy.Lib.Dns
