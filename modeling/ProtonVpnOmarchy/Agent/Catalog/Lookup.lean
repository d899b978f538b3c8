import ProtonVpnOmarchy.Agent.Catalog.Search
import ProtonVpnOmarchy.Lib.Text

/-!
# Complete server names

`servers.lookup` takes the complete name of a server, in any case and with or without the mark that
separates the place from the number, and looks for its canonical form.

* `compactServerName_canonical` — the canonical form has the same compact name.
* `canonicalServerLookupQuery_canonical` — what it is made of, and that it is its own canonical form
  if it is not too long: the mark that is inserted can make it longer than a query may be.
-/

namespace ProtonVpnOmarchy.Agent.Catalog

open Lib Splitd Store

/-! ## The canonical form -/

def MAX_LOOKUP_QUERY_BYTES : ℕ := 128

def isQueryChar (c : Char) : Bool := c.isAlphanum || isNameMark c

/-- The characters before the first digit. -/
def beforeDigits (text : List Char) : List Char := text.takeWhile (!·.isDigit)

/-- The characters from the first digit on. -/
def fromDigits (text : List Char) : List Char := text.dropWhile (!·.isDigit)

/-- The place of a server with the mark `#` in it, in place of a hyphen at its end. -/
def marked (place : List Char) : List Char :=
  if '#' ∈ place then place
  else if place.getLast? = some '-' then place.dropLast ++ ['#']
  else place ++ ['#']

/-- Source: `catalog.rs` `canonical_server_lookup_query` -/
def canonicalServerLookupQuery (value : String) : Option String :=
  let trimmed := trim value
  if trimmed = "" ∨ MAX_LOOKUP_QUERY_BYTES < trimmed.utf8ByteSize ∨
      ¬ trimmed.toList.all isQueryChar then none
  else
    let canonical := (toAsciiUppercase trimmed).toList
    let place := beforeDigits canonical
    if fromDigits canonical = [] then none
    else if (place.filter Char.isAlpha).length < 2 ∨
        ¬ place.all (fun c => c.isAlpha || isNameMark c) then none
    else some (.ofList (marked place ++ fromDigits canonical))

example : canonicalServerLookupQuery " us-ca-42" = some "US-CA#42" := by decide +kernel

/-! ## Characters -/

theorem lt_of_isQueryChar {c : Char} (h : isQueryChar c = true) : c.toNat < 128 := by
  simp only [isQueryChar, isNameMark, Char.isAlphanum, Char.isAlpha, Char.isUpper, Char.isLower,
    Char.isDigit, Bool.or_eq_true, Bool.and_eq_true, decide_eq_true_eq,
    UInt32.le_iff_toNat_le] at h
  change (((65 ≤ c.toNat ∧ c.toNat ≤ 90) ∨ (97 ≤ c.toNat ∧ c.toNat ≤ 122)) ∨
    (48 ≤ c.toNat ∧ c.toNat ≤ 57)) ∨ (c = '#' ∨ c = '-') at h
  rcases h with h | rfl | rfl
  · omega
  · decide
  · decide

/-- What holds of the characters of a query is seen by looking at each of them. -/
theorem of_isQueryChar {p : Char → Bool}
    (hp : ∀ n < 128, isQueryChar (Char.ofNat n) = true → p (Char.ofNat n) = true) {c : Char}
    (h : isQueryChar c = true) : p c = true := by
  have hlt := lt_of_isQueryChar h
  rw [← Char.ofNat_toNat c] at h ⊢
  exact hp _ hlt h

section characters

variable {c : Char} (h : isQueryChar c = true)
include h

theorem utf8Size_of_isQueryChar : c.utf8Size = 1 := by
  simpa using of_isQueryChar (p := fun c => c.utf8Size = 1) (by decide +kernel) h

theorem isWhitespace_of_isQueryChar :
    isWhitespace c = false ∧ isWhitespace c.toLower = false := by
  simpa using of_isQueryChar (p := fun c => !isWhitespace c && !isWhitespace c.toLower)
    (by decide +kernel) h

theorem isNameMark_toLower : isNameMark c.toLower = isNameMark c := by
  simpa using of_isQueryChar (p := fun c => isNameMark c.toLower = isNameMark c)
    (by decide +kernel) h

/-- The upper case of a query's character is one, too, and its own upper case. -/
theorem isQueryChar_toUpper :
    isQueryChar c.toUpper = true ∧ c.toUpper.isLower = false := by
  simpa using of_isQueryChar (p := fun c => isQueryChar c.toUpper && !c.toUpper.isLower)
    (by decide +kernel) h

theorem isDigit_toUpper : c.toUpper.isDigit = c.isDigit := by
  simpa using of_isQueryChar (p := fun c => c.toUpper.isDigit = c.isDigit) (by decide +kernel) h

theorem toUpper_eq_mark_iff :
    (c.toUpper = '#' ↔ c = '#') ∧ (c.toUpper = '-' ↔ c = '-') := by
  simpa using of_isQueryChar
    (p := fun c => (c.toUpper = '#' ↔ c = '#') && (c.toUpper = '-' ↔ c = '-'))
    (by decide +kernel) h

theorem spelled_of_isQueryChar (hlower : c.isLower = false) :
    c.toUpper = c ∧ (c.isUpper = true ∨ c.isDigit = true ∨ c = '#' ∨ c = '-') := by
  have hchar := of_isQueryChar (p := fun c => c.isLower ||
    (c.toUpper = c && (c.isUpper || c.isDigit || c = '#' || c = '-'))) (by decide +kernel) h
  rw [hlower] at hchar
  simpa [or_assoc] using hchar

end characters

/-! ## Places and numbers -/

/-- A complete name: a number behind a place with two letters. -/
structure IsServerName (text : List Char) : Prop where
  numbered : fromDigits text ≠ []
  letters : 2 ≤ ((beforeDigits text).filter Char.isAlpha).length
  place : ∀ c ∈ beforeDigits text, c.isAlpha = true ∨ isNameMark c = true

/-- The canonical form of a name in upper case. -/
def canonicalName (text : List Char) : List Char := marked (beforeDigits text) ++ fromDigits text

section marked

variable (place : List Char)

/-- What the mark does to a place: it has one, ends in a hyphen, or is followed by the mark. -/
theorem marked_cases :
    ('#' ∈ place ∧ marked place = place) ∨
      (∃ rest, '#' ∉ place ∧ place = rest ++ ['-'] ∧ marked place = rest ++ ['#']) ∨
      ('#' ∉ place ∧ place.getLast? ≠ some '-' ∧ marked place = place ++ ['#']) := by
  unfold marked
  by_cases hmark : '#' ∈ place
  · exact .inl ⟨hmark, if_pos hmark⟩
  rw [if_neg hmark]
  by_cases hlast : place.getLast? = some '-'
  · obtain ⟨rest, rfl⟩ := List.getLast?_eq_some_iff.mp hlast
    refine .inr (.inl ⟨rest, hmark, rfl, ?_⟩)
    rw [if_pos hlast, List.dropLast_concat]
  · exact .inr (.inr ⟨hmark, hlast, if_neg hlast⟩)

theorem mem_marked : '#' ∈ marked place := by
  rcases marked_cases place with ⟨hmark, h⟩ | ⟨rest, -, -, h⟩ | ⟨-, -, h⟩
  · rwa [h]
  · simp [h]
  · simp [h]

theorem marked_marked : marked (marked place) = marked place := if_pos (mem_marked place)

/-- Nothing but marks is new. -/
theorem mem_of_mem_marked {c : Char} (h : c ∈ marked place) : c ∈ place ∨ c = '#' := by
  rcases marked_cases place with ⟨-, hmarked⟩ | ⟨rest, -, hplace, hmarked⟩ | ⟨-, -, hmarked⟩
  · rw [hmarked] at h
    exact .inl h
  · rw [hmarked, List.mem_append, List.mem_singleton] at h
    rw [hplace, List.mem_append]
    exact h.imp .inl id
  · rw [hmarked, List.mem_append, List.mem_singleton] at h
    exact h

/-- What does not look at marks sees the place as it was. -/
theorem filter_marked {p : Char → Bool} (hhash : p '#' = false) (hhyphen : p '-' = false) :
    (marked place).filter p = place.filter p := by
  rcases marked_cases place with ⟨-, h⟩ | ⟨rest, -, hplace, h⟩ | ⟨-, -, h⟩
  · rw [h]
  · rw [h, hplace, List.filter_append, List.filter_append]
    simp [hhash, hhyphen]
  · rw [h, List.filter_append]
    simp [hhash]

/-- The mark makes a place longer that has none and does not end in a hyphen. -/
theorem length_marked : (marked place).length =
    place.length + if '#' ∉ place ∧ place.getLast? ≠ some '-' then 1 else 0 := by
  rcases marked_cases place with ⟨hmark, h⟩ | ⟨rest, -, hplace, h⟩ | ⟨hmark, hlast, h⟩
  · rw [h, if_neg fun hnone => hnone.1 hmark, Nat.add_zero]
  · have hlast : place.getLast? = some '-' := by rw [hplace, List.getLast?_concat]
    rw [h, if_neg fun hnone => hnone.2 hlast, hplace]
    simp
  · rw [h, if_pos ⟨hmark, hlast⟩, List.length_append, List.length_singleton]

end marked

section names

variable {text : List Char}

theorem beforeDigits_append (text : List Char) : beforeDigits text ++ fromDigits text = text :=
  List.takeWhile_append_dropWhile

/-- The canonical form has the same number behind its place. -/
theorem IsServerName.split (h : IsServerName text) :
    beforeDigits (canonicalName text) = marked (beforeDigits text) ∧
      fromDigits (canonicalName text) = fromDigits text := by
  have hplace : ∀ c ∈ marked (beforeDigits text), (!c.isDigit) = true := by
    intro c hc
    rcases mem_of_mem_marked _ hc with hc | rfl
    · exact List.mem_takeWhile_imp (p := fun c : Char => !c.isDigit) hc
    · rfl
  obtain ⟨digit, rest, hnumber⟩ := List.exists_cons_of_ne_nil h.numbered
  have hdigit : ¬ (!digit.isDigit) = true := by
    have hhead := List.head?_dropWhile_not (fun c : Char => !c.isDigit) text
    rw [show text.dropWhile (fun c => !c.isDigit) = digit :: rest from hnumber] at hhead
    simpa using hhead
  constructor
  · rw [beforeDigits, canonicalName, hnumber, List.takeWhile_append_of_pos hplace,
      List.takeWhile_cons_of_neg (p := fun c : Char => !c.isDigit) hdigit, List.append_nil]
  · rw [fromDigits, canonicalName, hnumber, List.dropWhile_append_of_pos hplace,
      List.dropWhile_cons_of_neg (p := fun c : Char => !c.isDigit) hdigit]

theorem IsServerName.canonicalName (h : IsServerName text) :
    IsServerName (canonicalName text) := by
  obtain ⟨hplace, hnumber⟩ := h.split
  refine ⟨by rw [hnumber]; exact h.numbered, ?_, ?_⟩
  · rw [hplace, filter_marked _ rfl rfl]
    exact h.letters
  · rw [hplace]
    intro c hc
    rcases mem_of_mem_marked _ hc with hc | rfl
    · exact h.place c hc
    · exact .inr rfl

/-- A canonical form is its own. -/
theorem IsServerName.canonicalName_canonicalName (h : IsServerName text) :
    Catalog.canonicalName (Catalog.canonicalName text) = Catalog.canonicalName text := by
  obtain ⟨hplace, hnumber⟩ := h.split
  rw [Catalog.canonicalName, hplace, hnumber, marked_marked]
  rfl

end names

/-! ## The canonical form of a query -/

section query

variable {value canonical : String}

/-- A query is accepted if it is short enough and names a server. -/
theorem canonicalServerLookupQuery_eq_some_iff :
    canonicalServerLookupQuery value = some canonical ↔
      (trim value).utf8ByteSize ≤ MAX_LOOKUP_QUERY_BYTES ∧
      (∀ c ∈ (trim value).toList, isQueryChar c = true) ∧
      IsServerName (toAsciiUppercase (trim value)).toList ∧
      canonical.toList = canonicalName (toAsciiUppercase (trim value)).toList := by
  have hempty : trim value = "" → fromDigits (toAsciiUppercase (trim value)).toList = [] := by
    intro h
    rw [h]
    decide +kernel
  unfold canonicalServerLookupQuery
  dsimp only
  constructor
  · intro h
    split_ifs at h with hrefused hnumber hplace
    rw [not_or, not_or, not_lt, not_not, List.all_eq_true] at hrefused
    rw [not_or, not_lt, not_not, List.all_eq_true] at hplace
    obtain rfl := Option.some.inj h
    refine ⟨hrefused.2.1, hrefused.2.2, ⟨hnumber, hplace.1, fun c hc => ?_⟩,
      String.toList_ofList⟩
    simpa using hplace.2 c hc
  · rintro ⟨hsize, hchars, hname, hcanonical⟩
    rw [if_neg, if_neg hname.numbered, if_neg]
    · rw [← String.ofList_toList (s := canonical), hcanonical]
      rfl
    · rw [not_or, not_lt, not_not, List.all_eq_true]
      exact ⟨hname.letters, fun c hc => by simpa using hname.place c hc⟩
    · rw [not_or, not_or, not_lt, not_not, List.all_eq_true]
      exact ⟨fun h => hname.numbered (hempty h), hsize, hchars⟩

/-! ## What is kept -/

/-- The query is as long as a query may be, and the mark would make it longer. -/
def Full (value : String) : Prop :=
  (trim value).utf8ByteSize = MAX_LOOKUP_QUERY_BYTES ∧
    '#' ∉ beforeDigits (trim value).toList ∧
    (beforeDigits (trim value).toList).getLast? ≠ some '-'

instance (value : String) : Decidable (Full value) :=
  inferInstanceAs (Decidable (_ ∧ _ ∧ _))

/-- What Unicode says about ASCII: there is nothing to decompose, and lower case is ASCII's. -/
structure Unicode.OnAscii (unicode : Unicode) : Prop where
  nfd : ∀ text : List Char, (∀ c ∈ text, c.toNat < 128) → unicode.nfd text = text
  isCombiningMark : ∀ c : Char, c.toNat < 128 → unicode.isCombiningMark c = false
  toLowercase : ∀ c : Char, c.toNat < 128 → unicode.toLowercase c = [c.toLower]

/-- The compact name of a query is its letters and digits in lower case. -/
theorem compactServerName_of_isQueryChar {unicode : Unicode} (hunicode : unicode.OnAscii)
    (h : ∀ c ∈ (trim value).toList, isQueryChar c = true) :
    compactServerName unicode value =
      .ofList (((trim value).toList.filter fun c => !isNameMark c).map Char.toLower) := by
  have hascii : ∀ c ∈ (trim value).toList, c.toNat < 128 :=
    fun c hc => lt_of_isQueryChar (h c hc)
  have hlower : (normalizeSearch unicode value).toList = (trim value).toList.map Char.toLower := by
    have hmarks : ((trim value).toList.filter fun c => !unicode.isCombiningMark c) =
        (trim value).toList :=
      List.filter_eq_self.mpr fun c hc => by simp [hunicode.isCombiningMark c (hascii c hc)]
    rw [normalizeSearch, String.toList_ofList, hunicode.nfd _ hascii, hmarks,
      List.map_eq_flatMap]
    exact List.flatMap_congr fun c hc => hunicode.toLowercase c (hascii c hc)
  unfold compactServerName
  rw [hlower, List.filter_map]
  congr 2
  refine List.filter_congr fun c hc => ?_
  have hchar := h c hc
  simp [isNameMark_toLower hchar, (isWhitespace_of_isQueryChar hchar).2]

/-- What a canonical form is made of. -/
structure Canonical (unicode : Unicode) (value canonical : String) : Prop where
  /-- It is looked for under the same name. -/
  name : compactServerName unicode canonical = compactServerName unicode value
  spelled : ∀ c ∈ canonical.toList, c.isUpper = true ∨ c.isDigit = true ∨ c = '#' ∨ c = '-'
  /-- There is a number, and the mark stands before it. -/
  numbered : fromDigits canonical.toList ≠ []
  marked : '#' ∈ beforeDigits canonical.toList

section accepted

variable {text : List Char} (hchars : ∀ c ∈ text, isQueryChar c = true)
include hchars

theorem beforeDigits_map_toUpper :
    beforeDigits (text.map Char.toUpper) = (beforeDigits text).map Char.toUpper := by
  induction text with
  | nil => rfl
  | cons c text ih =>
      have hdigit := isDigit_toUpper (hchars c List.mem_cons_self)
      have hrest := ih fun c hc => hchars c (List.mem_cons_of_mem _ hc)
      unfold beforeDigits at hrest ⊢
      by_cases h : c.isDigit = true
      · simp [h, hdigit]
      · simp [h, hdigit, hrest]

/-- The canonical form of a query has characters of a query in upper case. -/
theorem isQueryChar_of_mem_canonicalName {c : Char}
    (h : c ∈ canonicalName (text.map Char.toUpper)) :
    isQueryChar c = true ∧ c.isLower = false := by
  have hupper : ∀ c ∈ text.map Char.toUpper, isQueryChar c = true ∧ c.isLower = false := by
    intro c hc
    obtain ⟨d, hd, rfl⟩ := List.mem_map.mp hc
    exact isQueryChar_toUpper (hchars d hd)
  rcases List.mem_append.mp h with h | h
  · rcases mem_of_mem_marked _ h with h | rfl
    · exact hupper c ((List.takeWhile_sublist _).subset h)
    · decide
  · exact hupper c ((List.dropWhile_sublist _).subset h)

/-- The canonical form has the letters and digits of the query. -/
theorem filter_canonicalName :
    ((canonicalName (text.map Char.toUpper)).filter fun c => !isNameMark c).map Char.toLower =
      (text.filter fun c => !isNameMark c).map Char.toLower := by
  have hmark : ∀ c ∈ text, isNameMark c.toUpper = isNameMark c := by
    intro c hc
    rw [← isNameMark_toLower (isQueryChar_toUpper (hchars c hc)).1,
      ← isNameMark_toLower (hchars c hc)]
    simp
  rw [canonicalName, List.filter_append, filter_marked _ rfl rfl, ← List.filter_append,
    beforeDigits_append, List.filter_map, List.map_map]
  have hfilter : text.filter ((fun c => !isNameMark c) ∘ Char.toUpper) =
      text.filter fun c => !isNameMark c :=
    List.filter_congr fun c hc => by simp [hmark c hc]
  rw [hfilter]
  exact List.map_congr_left fun c _ => by simp

/-- The mark makes the canonical form longer just in case the query has none before its number, nor
a hyphen just before it. -/
theorem length_canonicalName :
    (canonicalName (text.map Char.toUpper)).length =
      text.length + if '#' ∉ beforeDigits text ∧ (beforeDigits text).getLast? ≠ some '-' then 1
        else 0 := by
  have hmem : ∀ c ∈ beforeDigits text, isQueryChar c = true :=
    fun c hc => hchars c ((List.takeWhile_sublist _).subset hc)
  have hhash : '#' ∈ (beforeDigits text).map Char.toUpper ↔ '#' ∈ beforeDigits text := by
    rw [List.mem_map]
    constructor
    · rintro ⟨c, hc, h⟩
      rwa [(toUpper_eq_mark_iff (hmem c hc)).1.mp h] at hc
    · exact fun h => ⟨'#', h, rfl⟩
  have hhyphen : ((beforeDigits text).map Char.toUpper).getLast? = some '-' ↔
      (beforeDigits text).getLast? = some '-' := by
    rw [List.getLast?_map, Option.map_eq_some_iff]
    constructor
    · rintro ⟨c, hc, h⟩
      rwa [(toUpper_eq_mark_iff (hmem c (List.mem_of_getLast? hc))).2.mp h] at hc
    · exact fun h => ⟨'-', h, rfl⟩
  have hlength := congrArg List.length (beforeDigits_append (text.map Char.toUpper))
  rw [List.length_append, List.length_map, beforeDigits_map_toUpper hchars,
    List.length_map] at hlength
  rw [canonicalName, List.length_append, length_marked, beforeDigits_map_toUpper hchars,
    List.length_map]
  simp only [hhash, hhyphen, ne_eq]
  omega

end accepted

theorem utf8ByteSize_of_isQueryChar {text : String}
    (h : ∀ c ∈ text.toList, isQueryChar c = true) : text.utf8ByteSize = text.toList.length := by
  rw [utf8ByteSize_eq, List.map_congr_left fun c hc => utf8Size_of_isQueryChar (h c hc),
    List.map_const', List.sum_replicate, smul_eq_mul, mul_one]

/-- **The canonical form of an accepted query** is looked for under the same name. It is accepted
and its own canonical form, or the query left no room for the mark and it is not accepted. -/
theorem canonicalServerLookupQuery_canonical {unicode : Unicode} (hunicode : unicode.OnAscii)
    (h : canonicalServerLookupQuery value = some canonical) :
    Canonical unicode value canonical ∧
      canonicalServerLookupQuery canonical = if Full value then none else some canonical := by
  obtain ⟨hsize, hchars, hname, hcanonical⟩ := canonicalServerLookupQuery_eq_some_iff.mp h
  have hupper : (toAsciiUppercase (trim value)).toList = (trim value).toList.map Char.toUpper :=
    String.toList_map ..
  rw [hupper] at hname hcanonical
  have hspelled : ∀ c ∈ canonical.toList, isQueryChar c = true ∧ c.isLower = false := by
    rw [hcanonical]
    exact fun c hc => isQueryChar_of_mem_canonicalName hchars hc
  have hquery : ∀ c ∈ canonical.toList, isQueryChar c = true := fun c hc => (hspelled c hc).1
  have htrim : trim canonical = canonical := by
    have htrim := trim_of_forall fun c hc => (isWhitespace_of_isQueryChar (hquery c hc)).1
    rwa [String.ofList_toList] at htrim
  have hsame : (toAsciiUppercase canonical).toList = canonical.toList := by
    rw [toAsciiUppercase, String.toList_map]
    refine (List.map_congr_left fun c hc => ?_).trans (List.map_id _)
    exact (spelled_of_isQueryChar (hquery c hc) (hspelled c hc).2).1
  constructor
  · refine ⟨?_, fun c hc => ?_, ?_, ?_⟩
    · rw [compactServerName_of_isQueryChar hunicode hchars,
        compactServerName_of_isQueryChar hunicode (by rwa [htrim]), htrim, hcanonical,
        filter_canonicalName hchars]
    · exact (spelled_of_isQueryChar (hquery c hc) (hspelled c hc).2).2
    · rw [hcanonical, hname.split.2]
      exact hname.numbered
    · rw [hcanonical, hname.split.1]
      exact mem_marked _
  · have hlength : canonical.utf8ByteSize = (trim value).utf8ByteSize +
        if '#' ∉ beforeDigits (trim value).toList ∧
          (beforeDigits (trim value).toList).getLast? ≠ some '-' then 1 else 0 := by
      rw [utf8ByteSize_of_isQueryChar hquery, hcanonical, length_canonicalName hchars,
        utf8ByteSize_of_isQueryChar hchars]
    have hagain : canonicalServerLookupQuery canonical = some canonical ↔
        canonical.utf8ByteSize ≤ MAX_LOOKUP_QUERY_BYTES := by
      rw [canonicalServerLookupQuery_eq_some_iff, htrim, hsame]
      refine ⟨fun h => h.1, fun h => ⟨h, hquery, ?_, ?_⟩⟩
      · rw [hcanonical]
        exact hname.canonicalName
      · rw [hcanonical, hname.canonicalName_canonicalName]
    by_cases hfull : Full value
    · rw [if_pos hfull]
      obtain ⟨hlimit, hmark⟩ := hfull
      rw [if_pos hmark] at hlength
      rw [Option.eq_none_iff_forall_ne_some]
      intro form hform
      have hbound := (canonicalServerLookupQuery_eq_some_iff.mp hform).1
      rw [htrim] at hbound
      omega
    · rw [if_neg hfull, hagain, hlength]
      by_cases hmark : '#' ∉ beforeDigits (trim value).toList ∧
          (beforeDigits (trim value).toList).getLast? ≠ some '-'
      · rw [if_pos hmark]
        have hshort : (trim value).utf8ByteSize ≠ MAX_LOOKUP_QUERY_BYTES :=
          fun h => hfull ⟨h, hmark⟩
        omega
      · rw [if_neg hmark]
        omega

theorem onAscii_asciiUnicode : asciiUnicode.OnAscii :=
  ⟨fun _ _ => rfl, fun _ _ => rfl, fun _ _ => rfl⟩

/-- A query in lower case. -/
theorem canonicalServerLookupQuery_canonical_us42 : Canonical asciiUnicode "us42" "US#42" ∧
    canonicalServerLookupQuery "US#42" = if Full "us42" then none else some "US#42" :=
  canonicalServerLookupQuery_canonical onAscii_asciiUnicode (by decide +kernel)

/-- The longest query without marks: two letters and 126 digits. -/
def longestQuery : String := .ofList ('U' :: 'S' :: List.replicate 126 '1')

/-- Its canonical form is too long for a query. -/
theorem longestQuery_not_again : ∃ canonical,
    canonicalServerLookupQuery longestQuery = some canonical ∧
      canonicalServerLookupQuery canonical = none :=
  ⟨.ofList ('U' :: 'S' :: '#' :: List.replicate 126 '1'), by decide +kernel, by decide +kernel⟩

end query

end ProtonVpnOmarchy.Agent.Catalog
