import ProtonVpnOmarchy.Agent.Json
import ProtonVpnOmarchy.Splitd.AddressText

/-!
# JSON text

What `serde_json` writes for a value (`Value::to_string`, `to_vec`) and what it reads
(`from_str`, `from_slice`). Numbers that are no integers are left to two parameters; the depth of
nesting is not limited here.

* `readJson_writeValue` — a value is recovered from its text.
-/

namespace ProtonVpnOmarchy.Agent

open Splitd Splitd.Parser

/-! ## Strings -/

/-- The escapes of one letter, the character that is escaped first. -/
def shortEscapes : List (Char × Char) :=
  [('"', '"'), ('\\', '\\'), ('\x08', 'b'), ('\t', 't'), ('\n', 'n'), ('\x0c', 'f'), ('\r', 'r')]

/-- The text of a character of a string. -/
def escapeChar (c : Char) : List Char :=
  match shortEscapes.lookup c with
  | some letter => ['\\', letter]
  | none =>
    if c.toNat < 0x20 then
      ['\\', 'u', '0', '0', (c.toNat / 16).digitChar, (c.toNat % 16).digitChar]
    else [c]

def writeString (text : String) : List Char :=
  '"' :: (text.toList.flatMap escapeChar ++ ['"'])

/-- The escapes of one letter that are read, the letter first. -/
def shortUnescapes : List (Char × Char) :=
  [('"', '"'), ('\\', '\\'), ('/', '/'), ('b', '\x08'), ('f', '\x0c'), ('n', '\n'), ('r', '\r'),
    ('t', '\t')]

/-- The number of an escape of four digits. -/
def hexQuad (a b c d : Char) : Option ℕ := do
  let a ← toDigit 16 a
  let b ← toDigit 16 b
  let c ← toDigit 16 c
  let d ← toDigit 16 d
  return ((a * 16 + b) * 16 + c) * 16 + d

/-- The characters up to the quote that ends a string. -/
def readChars : List Char → Option (List Char × List Char)
  | [] => none
  | '"' :: rest => some ([], rest)
  | '\\' :: 'u' :: a :: b :: c :: d :: rest =>
    match hexQuad a b c d with
    | none => none
    | some high =>
      if high < 0xD800 ∨ 0xE000 ≤ high then
        (readChars rest).map fun (chars, rest) => (Char.ofNat high :: chars, rest)
      else
        match rest with
        | '\\' :: 'u' :: a :: b :: c :: d :: rest =>
          match hexQuad a b c d with
          | none => none
          | some low =>
            if high < 0xDC00 ∧ 0xDC00 ≤ low ∧ low < 0xE000 then
              (readChars rest).map fun (chars, rest) =>
                (Char.ofNat (0x10000 + (high - 0xD800) * 0x400 + (low - 0xDC00)) :: chars, rest)
            else none
        | _ => none
  | '\\' :: letter :: rest =>
    match shortUnescapes.lookup letter with
    | none => none
    | some c => (readChars rest).map fun (chars, rest) => (c :: chars, rest)
  | c :: rest =>
    if c = '\\' ∨ c.toNat < 0x20 then none
    else (readChars rest).map fun (chars, rest) => (c :: chars, rest)

/-- What `readChars` makes of a plain character. -/
theorem readChars_cons {c : Char} (hquote : c ≠ '"') (hescape : c ≠ '\\') (hcontrol : 0x20 ≤ c.toNat)
    (rest : List Char) :
    readChars (c :: rest) = (readChars rest).map fun (chars, rest) => (c :: chars, rest) := by
  rw [readChars]
  · rw [if_neg (by simp only [not_or, not_lt]; exact ⟨hescape, hcontrol⟩)]
  · exact hquote
  · rintro a b c d rest rfl
    exact absurd rfl hescape
  · rintro letter rest rfl
    exact absurd rfl hescape

theorem hexQuad_control {n : ℕ} (h : n < 0x20) :
    hexQuad '0' '0' (n / 16).digitChar (n % 16).digitChar = some n := by
  have htable : ∀ n < 0x20, hexQuad '0' '0' (n / 16).digitChar (n % 16).digitChar = some n := by
    decide
  exact htable n h

theorem readChars_escapeChar (c : Char) (rest : List Char) :
    readChars (escapeChar c ++ rest) =
      (readChars rest).map fun (chars, rest) => (c :: chars, rest) := by
  by_cases hshort : c ∈ ['"', '\\', '\x08', '\t', '\n', '\x0c', '\r']
  · simp only [List.mem_cons, List.not_mem_nil, or_false] at hshort
    rcases hshort with rfl | rfl | rfl | rfl | rfl | rfl | rfl <;> rfl
  · have hlookup : shortEscapes.lookup c = none := by
      simp only [List.mem_cons, List.not_mem_nil, or_false, not_or] at hshort
      rw [List.lookup_eq_none_iff]
      simp [shortEscapes, hshort]
    unfold escapeChar
    rw [hlookup]
    dsimp only
    split_ifs with hcontrol
    · have hquad := hexQuad_control hcontrol
      have hlow : c.toNat < 0xD800 ∨ 0xE000 ≤ c.toNat := by omega
      simp only [List.cons_append, List.nil_append, readChars, hquad, if_pos hlow,
        Char.ofNat_toNat]
    · refine readChars_cons ?_ ?_ (by omega) rest
      · rintro rfl
        simp at hshort
      · rintro rfl
        simp at hshort

/-- A string is read up to its quote. -/
theorem readChars_writeString (text : String) (rest : List Char) :
    readChars (text.toList.flatMap escapeChar ++ '"' :: rest) = some (text.toList, rest) := by
  induction text.toList with
  | nil => rfl
  | cons c chars ih => rw [List.flatMap_cons, List.append_assoc, readChars_escapeChar, ih]; rfl

/-! ## Numbers -/

/-- The text of numbers that are no integers. -/
structure FloatText where
  write : UInt64 → List Char
  read : List Char → Option UInt64

def Number.write (floats : FloatText) : Number → List Char
  | .posInt value => Nat.toDigits 10 value.toNat
  | .negInt value => '-' :: Nat.toDigits 10 value.toInt.natAbs
  | .float bits => floats.write bits

def isNumberChar (c : Char) : Bool := (toDigit 10 c).isSome || c ∈ ['-', '+', '.', 'e', 'E']

/-- An unsigned integer without superfluous zeros. -/
def readDigits (digits : List Char) : Option ℕ :=
  if digits = [] ∨ digits.any (fun c => (toDigit 10 c).isNone) ∨
      (digits.head? = some '0' ∧ 1 < digits.length) then none
  else some (digits.foldl (fun n c => n * 10 + (toDigit 10 c).getD 0) 0)

def readUnsigned (text : List Char) : Option Number :=
  (readDigits text).bind fun n => if n < 2 ^ 64 then some (.posInt (.ofNat n)) else none

def readNegative : List Char → Option Number
  | '-' :: digits => (readDigits digits).bind fun n =>
    if 0 < n ∧ n ≤ 2 ^ 63 then some (.negInt (.ofInt (-n))) else none
  | _ => none

/-- A number from its text, an integer if it fits. -/
def readNumberText (floats : FloatText) (text : List Char) : Option Number :=
  ((readUnsigned text).or (readNegative text)).or ((floats.read text).map .float)

theorem readDigits_toDigits (n : ℕ) : readDigits (Nat.toDigits 10 n) = some n := by
  obtain ⟨hdigits, hfold, hhead⟩ := digits_toDigits (show 10 ≤ 16 by decide) (by decide) n
  unfold readDigits
  rw [if_neg, hfold]
  rintro (hnil | hany | ⟨hzero, hlong⟩)
  · exact Nat.toDigits_ne_nil hnil
  · obtain ⟨c, hc, hnone⟩ := List.any_eq_true.mp hany
    rw [Option.isNone_iff_eq_none] at hnone
    simpa [hnone] using hdigits c hc
  · rw [hhead hzero, Nat.toDigits_zero] at hlong
    simp at hlong

theorem readDigits_minus (digits : List Char) : readDigits ('-' :: digits) = none := by
  have hnone : (toDigit 10 '-').isNone := by decide
  unfold readDigits
  rw [if_pos (.inr (.inl (List.any_eq_true.mpr ⟨'-', List.mem_cons_self, hnone⟩)))]

/-- Integers are recovered from their text. -/
theorem readNumberText_posInt (floats : FloatText) (value : UInt64) :
    readNumberText floats (Number.write floats (.posInt value)) = some (.posInt value) := by
  have hlt := value.toNat_lt
  unfold readNumberText readUnsigned Number.write
  rw [readDigits_toDigits, Option.bind_some, if_pos hlt, UInt64.ofNat_toNat]
  rfl

theorem readNumberText_negInt (floats : FloatText) {value : Int64} (h : value.toInt < 0) :
    readNumberText floats (Number.write floats (.negInt value)) = some (.negInt value) := by
  have hle := value.le_toInt
  have habs : -(value.toInt.natAbs : ℤ) = value.toInt := by omega
  have hbound : 0 < value.toInt.natAbs ∧ value.toInt.natAbs ≤ 2 ^ 63 := by omega
  have hnegative : readNegative ('-' :: Nat.toDigits 10 value.toInt.natAbs) =
      some (.negInt value) := by
    rw [readNegative, readDigits_toDigits, Option.bind_some, if_pos hbound, habs,
      Int64.ofInt_toInt]
  unfold readNumberText readUnsigned Number.write
  rw [readDigits_minus, Option.bind_none, Option.none_or, hnegative, Option.some_or]

/-! ## Values -/

section syntax_of_values

variable (floats : FloatText)

mutual

/-- `Value::to_string` -/
def writeValue : Value → List Char
  | .null => ['n', 'u', 'l', 'l']
  | .bool true => ['t', 'r', 'u', 'e']
  | .bool false => ['f', 'a', 'l', 's', 'e']
  | .number value => value.write floats
  | .string text => writeString text
  | .array values => '[' :: (writeItems values ++ [']'])
  | .object fields => '{' :: (writeFields fields ++ ['}'])

/-- The items of an array. -/
def writeItems : List Value → List Char
  | [] => []
  | value :: values =>
    writeValue value ++ if values.isEmpty then [] else ',' :: writeItems values

/-- The fields of an object. -/
def writeFields : List (String × Value) → List Char
  | [] => []
  | (key, value) :: fields =>
    writeString key ++ ':' :: writeValue value ++
      if fields.isEmpty then [] else ',' :: writeFields fields

end

def isBlank (c : Char) : Bool := c ∈ [' ', '\t', '\n', '\r']

def skipBlanks (text : List Char) : List Char := text.dropWhile isBlank

mutual

/-- A value and what stands behind it; `fuel` bounds the number of calls. -/
def readValue : (fuel : ℕ) → List Char → Option (Value × List Char)
  | 0, _ => none
  | fuel + 1, text =>
    match skipBlanks text with
    | 'n' :: 'u' :: 'l' :: 'l' :: rest => some (.null, rest)
    | 't' :: 'r' :: 'u' :: 'e' :: rest => some (.bool true, rest)
    | 'f' :: 'a' :: 'l' :: 's' :: 'e' :: rest => some (.bool false, rest)
    | '"' :: rest => (readChars rest).map fun (chars, rest) => (.string (.ofList chars), rest)
    | '[' :: rest =>
      match skipBlanks rest with
      | ']' :: rest => some (.array [], rest)
      | _ => (readItems fuel rest).map fun (values, rest) => (.array values, rest)
    | '{' :: rest =>
      match skipBlanks rest with
      | '}' :: rest => some (.object [], rest)
      | _ => (readFields fuel rest).map fun (fields, rest) => (.obj fields, rest)
    | text => (readNumberText floats (text.takeWhile isNumberChar)).map fun value =>
      (.number value, text.dropWhile isNumberChar)

/-- The items up to the bracket that ends an array. -/
def readItems : (fuel : ℕ) → List Char → Option (List Value × List Char)
  | 0, _ => none
  | fuel + 1, text =>
    (readValue fuel text).bind fun (value, rest) =>
      match skipBlanks rest with
      | ',' :: rest => (readItems fuel rest).map fun (values, rest) => (value :: values, rest)
      | ']' :: rest => some ([value], rest)
      | _ => none

/-- The fields up to the brace that ends an object. -/
def readFields : (fuel : ℕ) → List Char → Option (List (String × Value) × List Char)
  | 0, _ => none
  | fuel + 1, text =>
    match skipBlanks text with
    | '"' :: rest =>
      (readChars rest).bind fun (key, rest) =>
        match skipBlanks rest with
        | ':' :: rest =>
          (readValue fuel rest).bind fun (value, rest) =>
            match skipBlanks rest with
            | ',' :: rest => (readFields fuel rest).map fun (fields, rest) =>
              ((.ofList key, value) :: fields, rest)
            | '}' :: rest => some ([(.ofList key, value)], rest)
            | _ => none
        | _ => none
    | _ => none

end

/-- `serde_json::from_str` -/
def readJson (text : List Char) : Option Value :=
  (readValue floats (2 * text.length + 2) text).bind fun (value, rest) =>
    if skipBlanks rest = [] then some value else none

/-! ## Values are recovered from their text -/

/-- A value without floating-point numbers, as `serde_json` holds it: a negative integer is
negative, and the keys of an object are sorted. -/
inductive Value.Plain : Value → Prop
  | null : Plain .null
  | bool (value : Bool) : Plain (.bool value)
  | posInt (value : UInt64) : Plain (.number (.posInt value))
  | negInt {value : Int64} (h : value.toInt < 0) : Plain (.number (.negInt value))
  | string (text : String) : Plain (.string text)
  | array {values : List Value} (h : ∀ value ∈ values, Plain value) : Plain (.array values)
  | object {fields : Map} (hsorted : Map.insertAll [] fields = fields)
    (h : ∀ field ∈ fields, Plain field.2) : Plain (.object fields)

/-- What stands behind a number. -/
def Stops (rest : List Char) : Prop := ∀ c ∈ rest.head?, isNumberChar c = false

theorem skipBlanks_cons {c : Char} (h : isBlank c = false) (rest : List Char) :
    skipBlanks (c :: rest) = c :: rest := List.dropWhile_cons_of_neg (by simp [h])

theorem takeWhile_append_stops {text rest : List Char} (htext : ∀ c ∈ text, isNumberChar c)
    (h : Stops rest) : (text ++ rest).takeWhile isNumberChar = text ∧
      (text ++ rest).dropWhile isNumberChar = rest := by
  rw [List.takeWhile_append_of_pos htext, List.dropWhile_append_of_pos htext]
  rcases rest with _ | ⟨c, rest⟩
  · simp
  · have hc : isNumberChar c = false := h c rfl
    simp [hc]

theorem isNumberChar_toDigits {n : ℕ} {c : Char} (h : c ∈ Nat.toDigits 10 n) : isNumberChar c := by
  have hdigit := (digits_toDigits (show 10 ≤ 16 by decide) (by decide) n).1 c h
  simp [isNumberChar, hdigit]

theorem ne_of_isNumberChar {c c' : Char} (hc : isNumberChar c) (hc' : isNumberChar c' = false) :
    c ≠ c' := by
  rintro rfl
  rw [hc] at hc'
  cases hc'

theorem isBlank_of_isNumberChar {c : Char} (hc : isNumberChar c) : isBlank c = false := by
  simp only [isBlank, decide_eq_false_iff_not, List.mem_cons, List.not_mem_nil, or_false, not_or]
  exact ⟨ne_of_isNumberChar hc (by decide), ne_of_isNumberChar hc (by decide),
    ne_of_isNumberChar hc (by decide), ne_of_isNumberChar hc (by decide)⟩

/-- A text that begins like a number is read as one. -/
theorem readValue_number {fuel : ℕ} {c : Char} {text : List Char} (hc : isNumberChar c) :
    readValue floats (fuel + 1) (c :: text) =
      (readNumberText floats ((c :: text).takeWhile isNumberChar)).map fun value =>
        (.number value, (c :: text).dropWhile isNumberChar) := by
  have hne : ∀ c', isNumberChar c' = false → c ≠ c' := fun _ hc' => ne_of_isNumberChar hc hc'
  rw [readValue, skipBlanks_cons (isBlank_of_isNumberChar hc)]
  split
  case h_1 heq => exact absurd (List.cons.inj heq).1 (hne _ (by decide))
  case h_2 heq => exact absurd (List.cons.inj heq).1 (hne _ (by decide))
  case h_3 heq => exact absurd (List.cons.inj heq).1 (hne _ (by decide))
  case h_4 heq => exact absurd (List.cons.inj heq).1 (hne _ (by decide))
  case h_5 heq => exact absurd (List.cons.inj heq).1 (hne _ (by decide))
  case h_6 heq => exact absurd (List.cons.inj heq).1 (hne _ (by decide))
  case h_7 => rfl

theorem readValue_writeNumber {fuel : ℕ} {number : Number} {rest : List Char}
    (hread : readNumberText floats (number.write floats) = some number)
    (hchars : ∀ c ∈ number.write floats, isNumberChar c) (hne : number.write floats ≠ [])
    (hrest : Stops rest) :
    readValue floats (fuel + 1) (number.write floats ++ rest) = some (.number number, rest) := by
  obtain ⟨htake, hdrop⟩ := takeWhile_append_stops hchars hrest
  obtain ⟨c, text, htext⟩ := List.exists_cons_of_ne_nil hne
  have hc : isNumberChar c := hchars c (by rw [htext]; exact List.mem_cons_self)
  rw [htext, List.cons_append] at htake hdrop ⊢
  rw [readValue_number floats hc, htake, hdrop, ← htext, hread]
  rfl

theorem head_writeValue {value : Value} (h : value.Plain) : ∃ c text,
    writeValue floats value = c :: text ∧ isBlank c = false ∧ c ≠ ']' := by
  cases h with
  | null => exact ⟨_, _, rfl, by decide, by decide⟩
  | bool value => cases value <;> exact ⟨_, _, rfl, by decide, by decide⟩
  | posInt value =>
      have hne : writeValue floats (.number (.posInt value)) ≠ [] := Nat.toDigits_ne_nil
      obtain ⟨c, text, htext⟩ := List.exists_cons_of_ne_nil hne
      have hmem : c ∈ Nat.toDigits 10 value.toNat := by
        change c ∈ writeValue floats (.number (.posInt value))
        rw [htext]
        exact List.mem_cons_self
      have hc := isNumberChar_toDigits hmem
      exact ⟨c, text, htext, isBlank_of_isNumberChar hc, ne_of_isNumberChar hc (by decide)⟩
  | negInt h => exact ⟨_, _, rfl, by decide, by decide⟩
  | string text => exact ⟨_, _, rfl, by decide, by decide⟩
  | array h => exact ⟨_, _, rfl, by decide, by decide⟩
  | object hsorted h => exact ⟨_, _, rfl, by decide, by decide⟩

theorem head_writeItems {value : Value} (h : value.Plain) (values : List Value) : ∃ c text,
    writeItems floats (value :: values) = c :: text ∧ isBlank c = false ∧ c ≠ ']' := by
  obtain ⟨c, text, htext, hblank, hbracket⟩ := head_writeValue floats h
  rw [writeItems, htext]
  exact ⟨c, _, List.cons_append, hblank, hbracket⟩

/-- What is read back from the text of a value, whatever follows it. -/
def ReadsBack (value : Value) : Prop :=
  ∀ fuel rest, (writeValue floats value).length < fuel → Stops rest →
    readValue floats fuel (writeValue floats value ++ rest) = some (value, rest)

theorem readItems_writeItems {values : List Value} (hne : values ≠ [])
    (h : ∀ value ∈ values, ReadsBack floats value) {fuel : ℕ}
    (hfuel : (writeItems floats values).length + 1 < fuel) (rest : List Char) :
    readItems floats fuel (writeItems floats values ++ ']' :: rest) = some (values, rest) := by
  induction values generalizing fuel with
  | nil => exact absurd rfl hne
  | cons value values ih =>
      obtain ⟨fuel, rfl⟩ : ∃ fuel', fuel = fuel' + 1 := ⟨fuel - 1, by omega⟩
      have hvalue := h value List.mem_cons_self
      rw [writeItems, List.length_append] at hfuel
      rw [readItems, writeItems, List.append_assoc]
      cases values with
      | nil =>
          rw [hvalue fuel _ (by omega) (by simp [Stops]; decide)]
          rfl
      | cons value' values =>
          rw [List.isEmpty_cons, if_neg (by simp), List.length_cons] at hfuel
          rw [List.isEmpty_cons, if_neg (by simp), List.cons_append,
            hvalue fuel _ (by omega) (by simp [Stops]; decide), Option.bind_some]
          dsimp only
          rw [skipBlanks_cons (by decide)]
          change (readItems floats fuel (writeItems floats (value' :: values) ++ ']' :: rest)).map _ =
            _
          rw [ih (by simp) (fun value hmem => h value (List.mem_cons_of_mem _ hmem)) (by omega)]
          rfl

theorem readFields_writeFields {fields : Map} (hne : fields ≠ [])
    (h : ∀ field ∈ fields, ReadsBack floats field.2) {fuel : ℕ}
    (hfuel : (writeFields floats fields).length + 1 < fuel) (rest : List Char) :
    readFields floats fuel (writeFields floats fields ++ '}' :: rest) = some (fields, rest) := by
  induction fields generalizing fuel with
  | nil => exact absurd rfl hne
  | cons field fields ih =>
      obtain ⟨fuel, rfl⟩ : ∃ fuel', fuel = fuel' + 1 := ⟨fuel - 1, by omega⟩
      obtain ⟨key, value⟩ := field
      have hvalue : ReadsBack floats value := h _ List.mem_cons_self
      simp only [writeFields, writeString, List.length_append, List.length_cons, List.length_nil]
        at hfuel
      simp only [writeFields, writeString, List.cons_append, List.append_assoc, List.nil_append]
      rw [readFields, skipBlanks_cons (by decide)]
      change (readChars (key.toList.flatMap escapeChar ++ _)).bind _ = _
      rw [readChars_writeString, Option.bind_some]
      dsimp only
      rw [skipBlanks_cons (by decide)]
      change (readValue floats fuel _).bind _ = _
      cases fields with
      | nil =>
          simp only [List.isEmpty_nil, if_true, List.nil_append]
          rw [hvalue fuel _ (by omega) (by simp [Stops]; decide)]
          simp only [Option.bind_some, String.ofList_toList]
          rfl
      | cons field' fields =>
          simp only [List.isEmpty_cons, Bool.false_eq_true, if_false, List.length_cons] at hfuel
          simp only [List.isEmpty_cons, Bool.false_eq_true, if_false, List.cons_append]
          rw [hvalue fuel _ (by omega) (by simp [Stops]; decide), Option.bind_some]
          dsimp only
          rw [skipBlanks_cons (by decide)]
          change (readFields floats fuel (writeFields floats (field' :: fields) ++ _)).map _ = _
          rw [ih (by simp) (fun field hmem => h field (List.mem_cons_of_mem _ hmem)) (by omega)]
          simp only [Option.map_some, String.ofList_toList]

theorem ReadsBack.of_succ {value : Value}
    (h : ∀ fuel rest, (writeValue floats value).length ≤ fuel → Stops rest →
      readValue floats (fuel + 1) (writeValue floats value ++ rest) = some (value, rest)) :
    ReadsBack floats value := by
  intro fuel rest hfuel hrest
  obtain ⟨fuel, rfl⟩ : ∃ fuel', fuel = fuel' + 1 := ⟨fuel - 1, by omega⟩
  exact h fuel rest (by omega) hrest

theorem readsBack_array {values : List Value} (h : ∀ value ∈ values, value.Plain)
    (hread : ∀ value ∈ values, ReadsBack floats value) : ReadsBack floats (.array values) := by
  refine .of_succ floats fun fuel rest hfuel hrest => ?_
  simp only [writeValue, List.length_cons, List.length_append, List.length_nil] at hfuel
  simp only [writeValue, List.cons_append, List.append_assoc, List.nil_append]
  rw [readValue, skipBlanks_cons (by decide)]
  cases values with
  | nil => rfl
  | cons value values =>
      obtain ⟨c, text, htext, hblank, hbracket⟩ :=
        head_writeItems floats (h value List.mem_cons_self) values
      have hitems : readItems floats fuel (writeItems floats (value :: values) ++ ']' :: rest) =
          some (value :: values, rest) :=
        readItems_writeItems floats (List.cons_ne_nil value values) hread (by omega) rest
      rw [htext, List.cons_append] at hitems ⊢
      change (match skipBlanks (c :: (text ++ ']' :: rest)) with
        | ']' :: rest => some (Value.array [], rest)
        | _ => (readItems floats fuel (c :: (text ++ ']' :: rest))).map fun (values, rest) =>
          (Value.array values, rest)) = _
      rw [skipBlanks_cons hblank]
      split
      case h_1 heq => exact absurd (List.cons.inj heq).1 hbracket
      case h_2 =>
        rw [hitems]
        rfl

theorem readsBack_object {fields : Map} (hsorted : Map.insertAll [] fields = fields)
    (hread : ∀ field ∈ fields, ReadsBack floats field.2) :
    ReadsBack floats (.object fields) := by
  refine .of_succ floats fun fuel rest hfuel hrest => ?_
  simp only [writeValue, List.length_cons, List.length_append, List.length_nil] at hfuel
  simp only [writeValue, List.cons_append, List.append_assoc, List.nil_append]
  rw [readValue, skipBlanks_cons (by decide)]
  cases fields with
  | nil => rfl
  | cons field fields =>
      have hfields : readFields floats fuel (writeFields floats (field :: fields) ++ '}' :: rest) =
          some (field :: fields, rest) :=
        readFields_writeFields floats (List.cons_ne_nil field fields) hread (by omega) rest
      obtain ⟨text, htext⟩ : ∃ text, writeFields floats (field :: fields) = '"' :: text := ⟨_, rfl⟩
      rw [htext, List.cons_append] at hfields ⊢
      change (match skipBlanks ('"' :: (text ++ '}' :: rest)) with
        | '}' :: rest => some (Value.object [], rest)
        | _ => (readFields floats fuel ('"' :: (text ++ '}' :: rest))).map fun (fields, rest) =>
          (Value.obj fields, rest)) = _
      rw [skipBlanks_cons (by decide)]
      change (readFields floats fuel ('"' :: (text ++ '}' :: rest))).map _ = _
      have hobj : Value.obj (field :: fields) = .object (field :: fields) := by
        rw [Value.obj, hsorted]
      rw [hfields, Option.map_some]
      dsimp only
      rw [hobj]

/-- Every value is read back, part by part. -/
theorem readsBack {value : Value} (h : value.Plain) : ReadsBack floats value := by
  induction h with
  | null => exact .of_succ floats fun _ _ _ _ => rfl
  | bool value => cases value <;> exact .of_succ floats fun _ _ _ _ => rfl
  | posInt value =>
      refine .of_succ floats fun fuel rest hfuel hrest => ?_
      exact readValue_writeNumber floats (readNumberText_posInt floats value)
        (fun c hc => isNumberChar_toDigits hc) Nat.toDigits_ne_nil hrest
  | negInt h =>
      refine .of_succ floats fun fuel rest hfuel hrest => ?_
      refine readValue_writeNumber floats (readNumberText_negInt floats h) ?_
        (by simp [Number.write]) hrest
      intro c hc
      rcases List.mem_cons.mp hc with rfl | hc
      · decide
      · exact isNumberChar_toDigits hc
  | string text =>
      refine .of_succ floats fun fuel rest hfuel hrest => ?_
      simp only [writeValue, writeString, List.cons_append, List.append_assoc, List.nil_append]
      rw [readValue, skipBlanks_cons (by decide)]
      change (readChars (text.toList.flatMap escapeChar ++ _)).map _ = _
      rw [readChars_writeString, Option.map_some]
      dsimp only
      rw [String.ofList_toList]
  | array h ih => exact readsBack_array floats h ih
  | object hsorted h ih => exact readsBack_object floats hsorted ih

/-- A value is recovered from its text. -/
theorem readJson_writeValue {value : Value} (h : value.Plain) :
    readJson floats (writeValue floats value) = some value := by
  have hread := readsBack floats h (2 * (writeValue floats value).length + 2) [] (by omega)
    (by simp [Stops])
  rw [List.append_nil] at hread
  rw [readJson, hread]
  rfl

end syntax_of_values

end ProtonVpnOmarchy.Agent
