import ProtonVpnOmarchy.Lib.Bytes

/-!
# Records of big-endian numbers

Records with fields of fixed widths, one after the other, each in network byte order. A reader takes as
many bytes as the fields have and leaves the rest.

* `readRecord_writeRecord` — what is read of a record is what was written.
* `writeRecord_of_readRecord` — what is read determines the bytes it was read from.
-/

namespace ProtonVpnOmarchy.Lib

/-- The bytes of a number in network byte order. -/
def bigEndian (width value : ℕ) : List Byte := (leBytes width value).reverse

/-- The number that bytes in network byte order spell. -/
def ofBigEndian (bytes : List Byte) : ℕ := ofLeBytes bytes.reverse

@[simp] theorem length_bigEndian (width value : ℕ) : (bigEndian width value).length = width := by
  unfold bigEndian
  rw [List.length_reverse, length_leBytes]

theorem ofBigEndian_bigEndian {width value : ℕ} (h : value < 256 ^ width) :
    ofBigEndian (bigEndian width value) = value := by
  unfold ofBigEndian bigEndian
  rw [List.reverse_reverse, ofLeBytes_leBytes_of_lt width h]

theorem bigEndian_ofBigEndian (bytes : List Byte) :
    bigEndian bytes.length (ofBigEndian bytes) = bytes := by
  unfold bigEndian ofBigEndian
  have h := leBytes_ofLeBytes bytes.reverse
  rw [List.length_reverse] at h
  rw [h, List.reverse_reverse]

/-- A record: fields of these widths with these values. -/
def writeRecord : List (ℕ × ℕ) → List Byte
  | [] => []
  | (width, value) :: fields => bigEndian width value ++ writeRecord fields

/-- The values of the fields of a record. -/
def readRecord : List ℕ → List Byte → Option (List ℕ)
  | [], _ => some []
  | width :: widths, bytes =>
    if bytes.length < width then none
    else (readRecord widths (bytes.drop width)).map (ofBigEndian (bytes.take width) :: ·)

theorem length_writeRecord (fields : List (ℕ × ℕ)) :
    (writeRecord fields).length = (fields.map Prod.fst).sum := by
  induction fields with
  | nil => rfl
  | cons field fields ih =>
      rw [writeRecord, List.length_append, length_bigEndian, ih, List.map_cons, List.sum_cons]

/-- What is read of a record is what was written, whatever follows it. -/
theorem readRecord_writeRecord {fields : List (ℕ × ℕ)} (h : ∀ field ∈ fields, field.2 < 256 ^ field.1)
    (rest : List Byte) :
    readRecord (fields.map Prod.fst) (writeRecord fields ++ rest) = some (fields.map Prod.snd) := by
  induction fields with
  | nil => rfl
  | cons field fields ih =>
      obtain ⟨width, value⟩ := field
      have hvalue : value < 256 ^ width := h (width, value) List.mem_cons_self
      have hrest := ih fun field hmem => h field (List.mem_cons_of_mem _ hmem)
      have hlength : ¬ (bigEndian width value ++ writeRecord fields ++ rest).length < width := by
        rw [List.append_assoc, List.length_append, length_bigEndian]
        omega
      simp only [List.map_cons, writeRecord, readRecord]
      rw [if_neg hlength, List.append_assoc, List.take_left' (length_bigEndian _ _),
        List.drop_left' (length_bigEndian _ _), hrest, ofBigEndian_bigEndian hvalue]
      rfl

/-- What is read determines the bytes it was read from. -/
theorem writeRecord_of_readRecord {widths : List ℕ} {bytes : List Byte} {values : List ℕ}
    (h : readRecord widths bytes = some values) :
    writeRecord (widths.zip values) = bytes.take widths.sum ∧ widths.length = values.length := by
  induction widths generalizing bytes values with
  | nil =>
      cases h
      exact ⟨rfl, rfl⟩
  | cons width widths ih =>
      simp only [readRecord] at h
      split_ifs at h with hlength
      obtain ⟨values', hvalues, rfl⟩ := Option.map_eq_some_iff.mp h
      obtain ⟨hrecord, hlen⟩ := ih hvalues
      refine ⟨?_, congrArg (· + 1) hlen⟩
      have htake : (bytes.take width).length = width := List.length_take_of_le (not_lt.mp hlength)
      have hfirst : bigEndian width (ofBigEndian (bytes.take width)) = bytes.take width := by
        have h := bigEndian_ofBigEndian (bytes.take width)
        rwa [htake] at h
      rw [List.zip_cons_cons, writeRecord, hrecord, hfirst, List.sum_cons, List.take_add]

end ProtonVpnOmarchy.Lib
