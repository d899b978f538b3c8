import Mathlib

/-!
# Text as bytes

* `utf8` — the bytes of a text; `lossy` — the text of bytes that need not be one, in which every
  maximal ill-formed part becomes one replacement character.
* `lossy_utf8` — a text is recovered from its bytes.
* `splitOnP_terminated` — strings that end in a separator are recovered by splitting at it.
* `splitOnP_map` — a text whose characters are changed is split where it was.
-/

namespace ProtonVpnOmarchy.Lib

/-- The UTF-8 bytes of a text. -/
def utf8 (text : String) : List UInt8 := text.toList.flatMap String.utf8EncodeChar

theorem utf8ByteSize_ofList (chars : List Char) :
    (String.ofList chars).utf8ByteSize = (chars.map Char.utf8Size).sum := by
  induction chars with
  | nil => rfl
  | cons c chars ih =>
      rw [String.ofList_cons, String.utf8ByteSize_append, String.utf8ByteSize_singleton, ih,
        List.map_cons, List.sum_cons]

/-- The length of a text in bytes. -/
theorem utf8ByteSize_eq (text : String) :
    text.utf8ByteSize = (text.toList.map Char.utf8Size).sum := by
  rw [← utf8ByteSize_ofList, String.ofList_toList]

/-- How many bytes of an ill-formed sequence could have begun a character. -/
def brokenLength (first : UInt8) (rest : List UInt8) : ℕ :=
  let within (low high : UInt8) (byte : Option UInt8) : Bool :=
    byte.any fun byte => low ≤ byte && byte ≤ high
  let three (low high : UInt8) : ℕ := if within low high rest[0]? then 2 else 1
  let four (low high : UInt8) : ℕ :=
    if within low high rest[0]? then (if within 0x80 0xbf rest[1]? then 3 else 2) else 1
  if first = 0xe0 then three 0xa0 0xbf
  else if first = 0xed then three 0x80 0x9f
  else if 0xe1 ≤ first ∧ first ≤ 0xef then three 0x80 0xbf
  else if first = 0xf0 then four 0x90 0xbf
  else if 0xf1 ≤ first ∧ first ≤ 0xf3 then four 0x80 0xbf
  else if first = 0xf4 then four 0x80 0x8f
  else 1

/-- The characters of a byte string, with U+FFFD for what is none. -/
def lossyChars : List UInt8 → List Char
  | [] => []
  | first :: rest =>
    match (first :: rest).toByteArray.utf8DecodeChar? 0 with
    | some c => c :: lossyChars (rest.drop (c.utf8Size - 1))
    | none => '\uFFFD' :: lossyChars (rest.drop (brokenLength first rest - 1))
termination_by bytes => bytes.length
decreasing_by
  · rw [List.length_drop, List.length_cons]
    omega
  · rw [List.length_drop, List.length_cons]
    omega

/-- `String::from_utf8_lossy` -/
def lossy (bytes : List UInt8) : String := String.ofList (lossyChars bytes)

theorem lossyChars_utf8EncodeChar (c : Char) (bytes : List UInt8) :
    lossyChars (String.utf8EncodeChar c ++ bytes) = c :: lossyChars bytes := by
  have hdecode : (String.utf8EncodeChar c ++ bytes).toByteArray.utf8DecodeChar? 0 = some c := by
    rw [List.toByteArray_append]
    exact ByteArray.utf8DecodeChar?_utf8EncodeChar_append
  have hlength := String.length_utf8EncodeChar c
  rcases hbytes : String.utf8EncodeChar c with _ | ⟨first, rest⟩
  · exact absurd hbytes String.utf8EncodeChar_ne_nil
  · rw [hbytes, List.cons_append] at hdecode
    rw [hbytes, List.length_cons] at hlength
    rw [List.cons_append, lossyChars, hdecode]
    dsimp only
    rw [← hlength, Nat.add_sub_cancel, List.drop_left]

theorem lossyChars_flatMap (chars : List Char) :
    lossyChars (chars.flatMap String.utf8EncodeChar) = chars := by
  induction chars with
  | nil => rw [List.flatMap_nil, lossyChars]
  | cons c chars ih => rw [List.flatMap_cons, lossyChars_utf8EncodeChar, ih]

@[simp] theorem lossy_utf8 (text : String) : lossy (utf8 text) = text := by
  unfold lossy utf8
  rw [lossyChars_flatMap, String.ofList_toList]

theorem lossyChars_ne_nil {bytes : List UInt8} (h : bytes ≠ []) : lossyChars bytes ≠ [] := by
  rcases bytes with _ | ⟨first, rest⟩
  · exact absurd rfl h
  · rw [lossyChars]
    split
    · exact List.cons_ne_nil _ _
    · exact List.cons_ne_nil _ _

theorem lossy_ne_empty {bytes : List UInt8} (h : bytes ≠ []) : lossy bytes ≠ "" := by
  intro hempty
  refine lossyChars_ne_nil h ?_
  simpa [lossy] using congrArg String.toList hempty

theorem utf8_eq_nil_iff {text : String} : utf8 text = [] ↔ text = "" := by
  unfold utf8
  rw [List.flatMap_eq_nil_iff]
  constructor
  · intro h
    by_contra hne
    obtain ⟨c, hc⟩ := List.exists_mem_of_ne_nil text.toList (by simpa using hne)
    exact String.utf8EncodeChar_ne_nil (h c hc)
  · rintro rfl c hc
    simp at hc

theorem eq_nul_of_zero_mem {c : Char} (h : (0 : UInt8) ∈ String.utf8EncodeChar c) : c = '\x00' := by
  have hzero : ∀ n, (0 : UInt8) = UInt8.ofNat n → n % 256 = 0 := by
    intro n hn
    simpa using (congrArg UInt8.toNat hn).symm
  have hval : c.val.toNat = 0 := by
    unfold String.utf8EncodeChar at h
    dsimp only at h
    split_ifs at h
    · have := hzero _ (List.mem_singleton.mp h)
      omega
    · simp only [List.mem_cons, List.not_mem_nil, or_false] at h
      rcases h with h | h <;> have := hzero _ h <;> omega
    · simp only [List.mem_cons, List.not_mem_nil, or_false] at h
      rcases h with h | h | h <;> have := hzero _ h <;> omega
    · simp only [List.mem_cons, List.not_mem_nil, or_false] at h
      rcases h with h | h | h | h <;> have := hzero _ h <;> omega
  exact Char.ext (UInt32.toNat_inj.mp hval)

/-- Only NUL is encoded with a zero byte. -/
theorem zero_mem_utf8_iff {text : String} : (0 : UInt8) ∈ utf8 text ↔ '\x00' ∈ text.toList := by
  unfold utf8
  rw [List.mem_flatMap]
  constructor
  · rintro ⟨c, hc, hzero⟩
    rwa [eq_nul_of_zero_mem hzero] at hc
  · intro h
    exact ⟨'\x00', h, by decide⟩

/-- Strings that each end in a separator come apart at the separators. -/
theorem splitOnP_terminated {α : Type} {p : α → Bool} {separator : α} (hsep : p separator = true)
    {strings : List (List α)} (h : ∀ string ∈ strings, ∀ a ∈ string, p a = false) :
    (strings.flatMap (· ++ [separator])).splitOnP p = strings ++ [[]] := by
  induction strings with
  | nil => rfl
  | cons string strings ih =>
      have hstring : string.splitOnP p = [string] :=
        List.splitOnP_eq_singleton (h string List.mem_cons_self)
      rw [List.flatMap_cons, List.append_assoc, List.singleton_append,
        List.splitOnP_append_cons _ _ hsep, hstring,
        ih fun string hmem => h string (List.mem_cons_of_mem _ hmem)]
      rfl

/-- A separator is found where the items are changed by a function that leaves it alone. -/
theorem splitOnP_map {α β : Type} (p : β → Bool) (f : α → β) (items : List α) :
    (items.map f).splitOnP p = (items.splitOnP fun a => p (f a)).map (List.map f) := by
  induction items with
  | nil => rfl
  | cons a items ih =>
      rw [List.map_cons, List.splitOnP_cons_eq_if_modifyHead, List.splitOnP_cons_eq_if_modifyHead,
        ih]
      split_ifs
      · rfl
      · cases items.splitOnP fun a => p (f a) <;> rfl

theorem map_intercalate {α β : Type} (f : α → β) (separator : List α) (parts : List (List α)) :
    (separator.intercalate parts).map f = (separator.map f).intercalate (parts.map (List.map f)) := by
  induction parts with
  | nil => rfl
  | cons part parts ih =>
      rcases parts with _ | ⟨next, parts⟩
      · rw [List.intercalate_singleton, List.map_singleton, List.intercalate_singleton]
      · rw [List.intercalate_cons_cons, List.map_append, List.map_append, ih, List.map_cons,
          List.map_cons, List.map_cons, List.intercalate_cons_cons]

section search

variable {α : Type} [DecidableEq α]

/-- What stands before and after the last occurrence of `pattern`. -/
def rsplitOnce (pattern text : List α) : Option (List α × List α) :=
  (text.reverse.dropInfix? pattern.reverse).map fun (after, before) =>
    (before.reverse, after.reverse)

/-- The parts between separators that are not empty. -/
def nonemptyParts (p : α → Bool) (text : List α) : List (List α) :=
  (text.splitOnP p).filter (· ≠ [])

theorem dropPrefix?_eq_some {text before rest : List α} :
    text.dropPrefix? before = some rest ↔ text = before ++ rest := by
  rw [List.dropPrefix?_eq_some_iff]
  simp [and_comm]

/-- Joined texts come apart at every separator, their own ones included. -/
theorem splitOn_intercalate_flatMap (separator : α) {parts : List (List α)} (h : parts ≠ []) :
    ([separator].intercalate parts).splitOn separator = parts.flatMap (·.splitOn separator) := by
  induction parts with
  | nil => exact absurd rfl h
  | cons part parts ih =>
      rcases parts with _ | ⟨next, parts⟩
      · rw [List.intercalate_singleton, List.flatMap_cons, List.flatMap_nil, List.append_nil]
      · rw [List.intercalate_cons_cons, List.append_assoc, List.singleton_append,
          List.splitOn_append_cons_self, ih (List.cons_ne_nil _ _)]
        rfl

/-- Joined texts are equal if the parts between all separators are. -/
theorem intercalate_eq_iff (separator : α) {parts parts' : List (List α)} (h : parts ≠ [])
    (h' : parts' ≠ []) : [separator].intercalate parts = [separator].intercalate parts' ↔
      parts.flatMap (·.splitOn separator) = parts'.flatMap (·.splitOn separator) := by
  rw [← splitOn_intercalate_flatMap separator h, ← splitOn_intercalate_flatMap separator h']
  refine ⟨fun heq => by rw [heq], fun heq => ?_⟩
  calc [separator].intercalate parts
      = [separator].intercalate (([separator].intercalate parts).splitOn separator) :=
        (List.intercalate_splitOn separator).symm
    _ = [separator].intercalate parts' := by
        rw [heq, List.intercalate_splitOn]

end search

/-- What ends in a character that the rest of a text does not have stands before that rest. -/
theorem infix_of_infix_append {α : Type} {c : α} {word tail text rest : List α} (hc : c ∉ rest)
    (h : word ++ c :: tail <:+: text ++ rest) : word ++ [c] <:+: text := by
  obtain ⟨before, after, h⟩ := h
  have happend : (before ++ word ++ [c]) ++ (tail ++ after) = text ++ rest := by
    rw [← h]
    simp
  rcases List.append_eq_append_iff.mp happend with ⟨mid, htext, -⟩ | ⟨mid, hword, hrest⟩
  · exact ⟨before, mid, by rw [htext]; simp⟩
  · rcases List.eq_nil_or_concat mid with rfl | ⟨mid, last, rfl⟩
    · exact ⟨before, [], by rw [List.append_nil] at hword; rw [← hword]; simp⟩
    · obtain rfl : c = last := by
        rw [List.concat_eq_append, ← List.append_assoc] at hword
        exact List.singleton_inj.mp (List.append_inj_right' hword rfl)
      exact absurd (by rw [hrest]; simp) hc

end ProtonVpnOmarchy.Lib
