import ProtonVpnOmarchy.Agent.Json
import ProtonVpnOmarchy.Lib.Fallible
import ProtonVpnOmarchy.Splitd.AddressText

/-!
# Parameters of store requests

The helpers of `store.rs` that read the fields of a request: texts that are bounded in characters,
booleans, languages, and the ids of new records.

* `trim_trim`, `stringValue_eq_ok` — what a text field is read as.
* `uniqueId_fresh` — a new id is none of those in use.
-/

namespace ProtonVpnOmarchy.Agent.Store

open Lib Splitd

abbrev StoreResult := Except BackendError

def invalidParams (message : String) : BackendError := .new "invalid_params" message

/-- An early return with an error. -/
def reject (condition : Prop) [Decidable condition] (error : BackendError) : StoreResult Unit :=
  if condition then .error error else .ok ()

/-- `Option::ok_or_else` -/
def okOrElse {α : Type} (value : Option α) (error : BackendError) : StoreResult α :=
  match value with
  | some value => .ok value
  | none => .error error

/-! ## Fields -/

/-- Source: `store.rs` `object_params` -/
def objectParams (value : Value) : StoreResult Map :=
  okOrElse value.asObject (invalidParams "params must be an object")

/-- `['\0', '\n', '\r']` -/
def isForbiddenChar (c : Char) : Bool := c = '\x00' || c = '\n' || c = '\r'

/-- Source: `store.rs` `string_value` -/
def stringValue (value : Option Value) (maxChars : ℕ) (trimmed : Bool) : StoreResult String :=
  match value with
  | none => .ok ""
  | some value =>
    match value.asStr with
    | none => .error (invalidParams "Expected a string value")
    | some raw =>
      let raw := if trimmed then trim raw else raw
      if maxChars < raw.length ∨ raw.toList.any isForbiddenChar then
        .error (invalidParams "String value has an invalid length or characters")
      else .ok raw

/-- Source: `store.rs` `required_string` -/
def requiredString (object : Map) (key : String) (maxChars : ℕ) : StoreResult String := do
  let value ← stringValue (object.get key) maxChars true
  if value = "" then .error (invalidParams (key ++ " is required")) else .ok value

/-- Source: `store.rs` `string_or` -/
def stringOr (object : Map) (key fallback : String) (maxChars : ℕ) : StoreResult String := do
  let value ← stringValue (object.get key) maxChars true
  return if value = "" then fallback else value

/-- Source: `store.rs` `required_bool` -/
def requiredBool (object : Map) (key : String) : StoreResult Bool :=
  okOrElse ((object.get key).bind Value.asBool) (invalidParams (key ++ " must be a boolean"))

/-- Source: `store.rs` `optional_bool` -/
def optionalBool (object : Map) (key : String) (fallback : Bool) : StoreResult Bool :=
  match object.get key with
  | none => .ok fallback
  | some value => okOrElse value.asBool (invalidParams (key ++ " must be a boolean"))

/-- Source: `store.rs` `nonempty` -/
def nonempty (object : Map) (key : String) : Bool :=
  ((object.get key).bind Value.asStr).any fun value => trim value ≠ ""

/-- Source: `store.rs` `bounded_usize` -/
def boundedUsize (params : Value) (key : String) (fallback maximum : ℕ) : StoreResult ℕ :=
  match params.get key with
  | none => .ok fallback
  | some value =>
    match value.asU64 with
    | none => .error (invalidParams (key ++ " must be an integer"))
    | some value =>
      if maximum < value.toNat then .error (invalidParams (key ++ " exceeds the maximum"))
      else .ok value.toNat

/-! ## Languages -/

/-- `str::to_ascii_uppercase` -/
def toAsciiUppercase (text : String) : String := text.map Char.toUpper

/-- The parts of a language tag between its hyphens. -/
def localeParts (raw : String) : List String := (raw.toList.splitOn '-').map String.ofList

/-- A part after the first one. -/
def isLocaleSubtag (part : String) : Bool :=
  part ≠ "" && part.utf8ByteSize ≤ 8 && part.toList.all Char.isAlphanum

/-- The spelling of the part at an index. -/
def canonicalLocalePart (index : ℕ) (part : String) : String :=
  if index = 0 then toAsciiLowercase part
  else if part.utf8ByteSize = 2 ∧ part.toList.all Char.isAlpha then toAsciiUppercase part
  else if part.utf8ByteSize = 4 ∧ part.toList.all Char.isAlpha then
    match (toAsciiLowercase part).toList with
    | [] => ""
    | first :: rest => String.ofList (first.toUpper :: rest)
  else toAsciiLowercase part

/-- Source: `store.rs` `locale_value` -/
def localeValue (value : Option Value) : StoreResult String :=
  let raw := (trim ((value.bind Value.asStr).getD "")).map fun c => if c = '_' then '-' else c
  let parts := localeParts raw
  let language := parts.headD ""
  if raw ≠ "" ∧ raw.utf8ByteSize ≤ 35 ∧ 2 ≤ language.utf8ByteSize ∧ language.utf8ByteSize ≤ 8 ∧
      language.toList.all Char.isAlpha ∧ (parts.drop 1).all isLocaleSubtag then
    .ok ("-".intercalate (parts.mapIdx canonicalLocalePart))
  else .error (.new "invalid_locale" "locale must be a valid bounded BCP 47 language tag")

example : localeValue (some (.string "EN_us")) = .ok "en-US" := by decide +kernel

/-! ## New ids -/

/-- `{n:0width x}` -/
def hexPadded (width n : ℕ) : String :=
  String.ofList ((Nat.toDigits 16 n).leftpad width '0')

/-- The id of a record. -/
def idOf (value : Value) : Option String := (value.get "id").bind Value.asStr

/-- One of the ids that `unique_id` tries. -/
def candidateId (kind : String) (now : UInt64) (sequence : ℕ) : String :=
  kind ++ "-" ++ hexPadded 16 now.toNat ++ "-" ++ hexPadded 4 sequence

/-- The first candidate that is not in use; there are more candidates than records.
Source: `store.rs` `unique_id` -/
def uniqueId (kind : String) (now : UInt64) (values : List Value) : String :=
  (((List.range (values.length + 1)).map (candidateId kind now)).find? fun id =>
    ¬ values.any fun value => idOf value = some id).getD ""

/-! ### What is read -/

/-- Trimmed text is not trimmed further. -/
theorem trim_trim (text : String) : trim (trim text) = trim text := by
  unfold trim
  rw [String.toList_ofList]
  congr 1
  have hback : ∀ l : List Char, (l.reverse.dropWhile isWhitespace).reverse =
      l.rdropWhile isWhitespace := fun _ => rfl
  rw [hback, hback]
  have hfront : ((text.toList.dropWhile isWhitespace).rdropWhile isWhitespace).dropWhile
      isWhitespace = (text.toList.dropWhile isWhitespace).rdropWhile isWhitespace := by
    -- What is kept begins as the text without its leading blanks does.
    rcases hkept : (text.toList.dropWhile isWhitespace).rdropWhile isWhitespace with _ | ⟨c, rest⟩
    · rfl
    · obtain ⟨behind, hbehind⟩ := List.rdropWhile_prefix isWhitespace
        (text.toList.dropWhile isWhitespace)
      rw [hkept, List.cons_append] at hbehind
      have hhead := List.head?_dropWhile_not isWhitespace text.toList
      rw [← hbehind] at hhead
      rw [List.dropWhile_cons_of_neg (by simpa using hhead)]
  rw [hfront, List.rdropWhile_idempotent]

theorem reject_eq_ok {condition : Prop} [Decidable condition] {error : BackendError}
    (h : reject condition error = .ok ()) : ¬ condition := by
  unfold reject at h
  split_ifs at h with hcondition
  exact hcondition

theorem reject_of_not {condition : Prop} [Decidable condition] (h : ¬ condition)
    (error : BackendError) : reject condition error = .ok () := by
  unfold reject
  rw [if_neg h]

theorem okOrElse_eq_ok {α : Type} {value : Option α} {error : BackendError} {a : α}
    (h : okOrElse value error = .ok a) : value = some a := by
  rcases value with _ | b
  · cases h
  · rw [Except.ok.inj h]

/-- A text that a request can hold under a bound. -/
structure Bounded (maxChars : ℕ) (text : String) : Prop where
  length_le : text.length ≤ maxChars
  chars : text.toList.any isForbiddenChar = false

theorem stringValue_eq_ok_iff {value : Option Value} {maxChars : ℕ} {trimmed : Bool}
    {text : String} : stringValue value maxChars trimmed = .ok text ↔
      (value = none ∧ text = "") ∨ ∃ raw, value = some (.string raw) ∧
        text = (if trimmed then trim raw else raw) ∧ Bounded maxChars text := by
  unfold stringValue
  rcases value with _ | value
  · simp [eq_comm]
  · cases value with
    | string raw =>
        generalize hread : (if trimmed then trim raw else raw) = read
        have hraw : (∃ raw', some (Value.string raw) = some (.string raw') ∧
            text = (if trimmed then trim raw' else raw') ∧ Bounded maxChars text) ↔
              text = read ∧ Bounded maxChars text := by
          simp [← hread]
        rw [hraw]
        simp only [Value.asStr, hread]
        by_cases hbad : maxChars < read.length ∨ read.toList.any isForbiddenChar = true
        · rw [if_pos hbad]
          refine iff_of_false nofun ?_
          rintro (⟨h, -⟩ | ⟨rfl, hbounded⟩)
          · cases h
          · rcases hbad with hbad | hbad
            · exact absurd hbounded.length_le (Nat.not_le_of_lt hbad)
            · rw [hbounded.chars] at hbad
              cases hbad
        · rw [if_neg hbad]
          rw [not_or, not_lt, Bool.not_eq_true] at hbad
          constructor
          · intro h
            obtain rfl := Except.ok.inj h
            exact .inr ⟨rfl, hbad.1, hbad.2⟩
          · rintro (⟨h, -⟩ | ⟨rfl, -⟩)
            · cases h
            · rfl
    | _ => simp [Value.asStr]

theorem requiredString_eq_ok_iff {object : Map} {key : String} {maxChars : ℕ} {text : String} :
    requiredString object key maxChars = .ok text ↔ text ≠ "" ∧ Bounded maxChars text ∧
      ∃ raw, object.get key = some (.string raw) ∧ trim raw = text := by
  unfold requiredString
  rw [Except.bind_eq_ok]
  constructor
  · rintro ⟨value, hvalue, h⟩
    split_ifs at h with hempty
    obtain rfl := Except.ok.inj h
    rcases stringValue_eq_ok_iff.mp hvalue with ⟨-, rfl⟩ | ⟨raw, hget, htext, hbounded⟩
    · exact absurd rfl hempty
    · exact ⟨hempty, hbounded, raw, hget, htext.symm⟩
  · rintro ⟨hempty, hbounded, raw, hget, rfl⟩
    refine ⟨trim raw, stringValue_eq_ok_iff.mpr (.inr ⟨raw, hget, rfl, hbounded⟩), ?_⟩
    rw [if_neg hempty]

/-- A text that is stored as it was read is read again as it is. -/
theorem requiredString_of_get {object : Map} {key : String} {maxChars : ℕ} {text : String}
    (hget : object.get key = some (.string text)) (hempty : text ≠ "")
    (hbounded : Bounded maxChars text) (htrim : trim text = text) :
    requiredString object key maxChars = .ok text :=
  requiredString_eq_ok_iff.mpr ⟨hempty, hbounded, text, hget, htrim⟩

theorem requiredString_trimmed {object : Map} {key : String} {maxChars : ℕ} {text : String}
    (h : requiredString object key maxChars = .ok text) : trim text = text := by
  obtain ⟨-, -, raw, -, rfl⟩ := requiredString_eq_ok_iff.mp h
  exact trim_trim raw

theorem stringOr_eq_ok {object : Map} {key fallback : String} {maxChars : ℕ} {text : String}
    (h : stringOr object key fallback maxChars = .ok text) : text = fallback ∨
      (text ≠ "" ∧ Bounded maxChars text ∧ trim text = text) := by
  unfold stringOr at h
  obtain ⟨value, hvalue, h⟩ := Except.bind_eq_ok.mp h
  have h := Except.ok.inj h
  split_ifs at h with hempty
  · exact .inl h.symm
  · subst h
    rcases stringValue_eq_ok_iff.mp hvalue with ⟨-, rfl⟩ | ⟨raw, -, rfl, hbounded⟩
    · exact absurd rfl hempty
    · exact .inr ⟨hempty, hbounded, trim_trim raw⟩

/-! ### New ids are new -/

theorem foldl_leftpad (width n : ℕ) :
    ((Nat.toDigits 16 n).leftpad width '0').foldl
      (fun m c => m * 16 + (Parser.toDigit 16 c).getD 0) 0 = n := by
  have hzeros : ∀ k, (List.replicate k '0').foldl
      (fun m c => m * 16 + (Parser.toDigit 16 c).getD 0) 0 = 0 := by
    intro k
    induction k with
    | zero => rfl
    | succ k ih =>
        rw [List.replicate_succ, List.foldl_cons]
        exact ih
  rw [List.leftpad, List.foldl_append, hzeros]
  exact (Parser.digits_toDigits (by decide) (by decide) n).2.1

theorem hexPadded_injective (width : ℕ) : Function.Injective (hexPadded width) := by
  intro m n h
  have hlist := congrArg String.toList h
  rw [hexPadded, hexPadded, String.toList_ofList, String.toList_ofList] at hlist
  rw [← foldl_leftpad width m, hlist, foldl_leftpad]

theorem candidateId_injective (kind : String) (now : UInt64) :
    Function.Injective (candidateId kind now) := by
  intro m n h
  refine hexPadded_injective 4 ?_
  unfold candidateId at h
  exact String.append_right_inj _ |>.mp h

theorem exists_candidateId_free (kind : String) (now : UInt64) (values : List Value) :
    ∃ sequence ∈ List.range (values.length + 1),
      ¬ values.any fun value => idOf value = some (candidateId kind now sequence) := by
  by_contra hnone
  have hall : ∀ sequence ∈ List.range (values.length + 1),
      ∃ value ∈ values, idOf value = some (candidateId kind now sequence) := by
    intro sequence hsequence
    by_contra hfree
    exact hnone ⟨sequence, hsequence, by simpa using hfree⟩
  -- Otherwise the candidates are ids of records, and there are more candidates than records.
  have hsub : (List.range (values.length + 1)).map (fun n => some (candidateId kind now n)) ⊆
      values.map idOf := by
    intro id hid
    obtain ⟨sequence, hsequence, rfl⟩ := List.mem_map.mp hid
    obtain ⟨value, hvalue, h⟩ := hall sequence hsequence
    exact List.mem_map.mpr ⟨value, hvalue, h⟩
  have hnodup : ((List.range (values.length + 1)).map
      (fun n => some (candidateId kind now n))).Nodup :=
    List.nodup_range.map ((Option.some_injective _).comp (candidateId_injective kind now))
  have hlength := (hnodup.subperm hsub).length_le
  rw [List.length_map, List.length_map, List.length_range] at hlength
  omega

/-- **A new id is a candidate that is none of those in use.** -/
theorem uniqueId_spec (kind : String) (now : UInt64) (values : List Value) :
    (∃ sequence ≤ values.length, uniqueId kind now values = candidateId kind now sequence) ∧
      ∀ value ∈ values, idOf value ≠ some (uniqueId kind now values) := by
  obtain ⟨sequence, hsequence, hfree⟩ := exists_candidateId_free kind now values
  unfold uniqueId
  generalize hfind : ((List.range (values.length + 1)).map (candidateId kind now)).find?
    (fun id => ¬ values.any fun value => idOf value = some id) = found
  cases found with
  | none =>
      rw [List.find?_eq_none] at hfind
      exact absurd (by simpa using hfree)
        (hfind _ (List.mem_map.mpr ⟨sequence, hsequence, rfl⟩))
  | some id =>
      obtain ⟨sequence, hsequence, hid⟩ := List.mem_map.mp (List.mem_of_find?_eq_some hfind)
      have hnew := List.find?_some hfind
      refine ⟨⟨sequence, Nat.lt_succ_iff.mp (List.mem_range.mp hsequence), hid.symm⟩, ?_⟩
      simpa using hnew

theorem length_hexPadded {width n : ℕ} (hwidth : 0 < width) (h : n < 16 ^ width) :
    (hexPadded width n).length = width := by
  unfold hexPadded
  rw [String.length_ofList, List.length_leftpad]
  exact Nat.max_eq_left (Nat.toDigits_length 16 n width hwidth h)

theorem not_isForbiddenChar_hexPadded (width n : ℕ) :
    (hexPadded width n).toList.any isForbiddenChar = false := by
  unfold hexPadded
  rw [String.toList_ofList, List.any_eq_false]
  intro c hc hforbidden
  rcases List.mem_append.mp hc with hzero | hdigit
  · rw [List.eq_of_mem_replicate hzero] at hforbidden
    revert hforbidden
    decide
  · have hsome := (Parser.digits_toDigits (by decide) (by decide) n).1 c hdigit
    simp only [isForbiddenChar, Bool.or_eq_true, decide_eq_true_eq] at hforbidden
    rcases hforbidden with (rfl | rfl) | rfl
    · revert hsome
      decide
    · revert hsome
      decide
    · revert hsome
      decide

/-- A new id is short. -/
theorem bounded_uniqueId {kind : String} (hkind : Bounded 64 kind) (now : UInt64)
    {values : List Value} (h : values.length < 16 ^ 4) :
    Bounded 128 (uniqueId kind now values) := by
  obtain ⟨⟨sequence, hsequence, hid⟩, -⟩ := uniqueId_spec kind now values
  have hnow : (hexPadded 16 now.toNat).length = 16 :=
    length_hexPadded (by decide) now.toNat_lt
  have hlast : (hexPadded 4 sequence).length = 4 := length_hexPadded (by decide) (by omega)
  have hhyphen : "-".length = 1 := rfl
  have hlength := hkind.length_le
  rw [hid]
  unfold candidateId
  constructor
  · simp only [String.length_append]
    omega
  · simp only [String.toList_append, List.any_append, hkind.chars, not_isForbiddenChar_hexPadded,
      Bool.false_or, Bool.or_false]
    decide

end ProtonVpnOmarchy.Agent.Store
