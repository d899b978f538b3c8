import ProtonVpnOmarchy.Agent.Store.Params
import ProtonVpnOmarchy.Lib.Text

/-!
# Language tags

What `locale_value` of `store.rs` accepts, and the spelling it gives to a tag. The spelling depends on a
text only up to ASCII case and up to underscores for hyphens (`spell_lowercase`), and it changes a tag
in ASCII case alone (`lowercase_of_spell`); a second application therefore changes nothing.

* `isOk_spell_iff` — the texts that are accepted are those of the language tags.
* `localeValue_canonical` — what is accepted, and that the result is canonical.
-/

namespace ProtonVpnOmarchy.Agent.Store

open Lib Splitd

/-! ## Tags -/

/-- A language of 2 to 8 letters, and subtags of 1 to 8 letters and digits. -/
structure LanguageTag where
  language : List Char
  subtags : List (List Char)
  language_length : 2 ≤ language.length ∧ language.length ≤ 8
  language_alpha : ∀ c ∈ language, c.isAlpha = true
  subtag_length : ∀ subtag ∈ subtags, 1 ≤ subtag.length ∧ subtag.length ≤ 8
  subtag_alphanum : ∀ subtag ∈ subtags, ∀ c ∈ subtag, c.isAlphanum = true

/-- A tag, with hyphens between its parts. -/
def LanguageTag.text (tag : LanguageTag) : String :=
  String.ofList (['-'].intercalate (tag.language :: tag.subtags))

/-- Two texts that differ only in ASCII case or in underscores for hyphens. -/
def SameTag (text text' : String) : Prop :=
  List.Forall₂ (fun c c' => c.toLower = c'.toLower ∨ c ∈ ['_', '-'] ∧ c' ∈ ['_', '-'])
    text.toList text'.toList

/-- A hyphen for an underscore. -/
def hyphenChar (c : Char) : Char := if c = '_' then '-' else c

/-- A text without its surrounding blanks and with hyphens for underscores. -/
def hyphened (text : String) : String := (trim text).map hyphenChar

/-- What `localeValue` makes of such a text. -/
def spell (raw : String) : StoreResult String :=
  let parts := localeParts raw
  let language := parts.headD ""
  if raw ≠ "" ∧ raw.utf8ByteSize ≤ 35 ∧ 2 ≤ language.utf8ByteSize ∧ language.utf8ByteSize ≤ 8 ∧
      language.toList.all Char.isAlpha ∧ (parts.drop 1).all isLocaleSubtag then
    .ok ("-".intercalate (parts.mapIdx canonicalLocalePart))
  else .error (.new "invalid_locale" "locale must be a valid bounded BCP 47 language tag")

theorem localeValue_eq (value : Option Value) :
    localeValue value = spell (hyphened ((value.bind Value.asStr).getD "")) := rfl

/-- Only strings are accepted. -/
theorem exists_of_localeValue {value : Option Value} {tag : String} (h : localeValue value = .ok tag) :
    ∃ text, value = some (.string text) := by
  rw [localeValue_eq] at h
  rcases hvalue : value.bind Value.asStr with _ | text
  · have hempty : spell (hyphened "") ≠ .ok tag := by
      have hraw : hyphened "" = "" := by decide +kernel
      rw [hraw]
      unfold spell
      rw [if_neg fun hvalid => hvalid.1 rfl]
      exact nofun
    rw [hvalue] at h
    exact absurd h hempty
  · obtain ⟨value, rfl, htext⟩ := Option.bind_eq_some_iff.mp hvalue
    cases value with
    | string text => exact ⟨text, rfl⟩
    | _ => cases htext

/-! ## ASCII case -/

theorem utf8Size_toLower (c : Char) : c.toLower.utf8Size = c.utf8Size := by
  by_cases h : c.isUpper = true
  · have hrange : 65 ≤ c.toNat ∧ c.toNat ≤ 90 := by
      simpa [Char.isUpper, UInt32.le_iff_toNat_le] using h
    have hall : ∀ n < 91, (Char.ofNat n).toLower.utf8Size = (Char.ofNat n).utf8Size := by
      decide +kernel
    rw [← Char.ofNat_toNat c]
    exact hall c.toNat (by omega)
  · rw [Char.toLower_eq_of_not_isUpper h]

theorem isAlphanum_toLower (c : Char) : c.toLower.isAlphanum = c.isAlphanum := by
  by_cases h : c.isUpper = true
  · have halpha : c.isAlpha = true := by simp [Char.isAlpha, h]
    simp [Char.isAlphanum, halpha]
  · rw [Char.toLower_eq_of_not_isUpper h]

theorem utf8ByteSize_toAsciiLowercase (text : String) :
    (toAsciiLowercase text).utf8ByteSize = text.utf8ByteSize := by
  rw [utf8ByteSize_eq, utf8ByteSize_eq, toAsciiLowercase, String.toList_map, List.map_map]
  exact congrArg List.sum (List.map_congr_left fun c _ => utf8Size_toLower c)

theorem all_toAsciiLowercase {p : Char → Bool} (hp : ∀ c, p c.toLower = p c) (text : String) :
    (toAsciiLowercase text).toList.all p = text.toList.all p := by
  rw [toAsciiLowercase, String.toList_map, List.all_map]
  exact congrArg (List.all text.toList) (funext hp)

theorem toAsciiLowercase_toAsciiLowercase (text : String) :
    toAsciiLowercase (toAsciiLowercase text) = toAsciiLowercase text := by
  apply String.toList_injective
  simp [toAsciiLowercase]

theorem toAsciiUppercase_toAsciiLowercase (text : String) :
    toAsciiUppercase (toAsciiLowercase text) = toAsciiUppercase text := by
  apply String.toList_injective
  simp [toAsciiUppercase, toAsciiLowercase]

theorem toAsciiLowercase_toAsciiUppercase (text : String) :
    toAsciiLowercase (toAsciiUppercase text) = toAsciiLowercase text := by
  apply String.toList_injective
  simp [toAsciiUppercase, toAsciiLowercase]

theorem isLocaleSubtag_toAsciiLowercase (part : String) :
    isLocaleSubtag (toAsciiLowercase part) = isLocaleSubtag part := by
  have hempty : toAsciiLowercase part ≠ "" ↔ part ≠ "" := by
    rw [toAsciiLowercase, ne_eq, String.map_eq_empty]
  unfold isLocaleSubtag
  rw [utf8ByteSize_toAsciiLowercase, all_toAsciiLowercase isAlphanum_toLower, decide_eq_decide.mpr hempty]

/-- The spelling of a part does not depend on its case. -/
theorem canonicalLocalePart_toAsciiLowercase (index : ℕ) (part : String) :
    canonicalLocalePart index (toAsciiLowercase part) = canonicalLocalePart index part := by
  unfold canonicalLocalePart
  rw [toAsciiLowercase_toAsciiLowercase, toAsciiUppercase_toAsciiLowercase,
    utf8ByteSize_toAsciiLowercase, all_toAsciiLowercase Char.isAlpha_toLower_eq_isAlpha]

/-- Only the case of a part is changed. -/
theorem toAsciiLowercase_canonicalLocalePart (index : ℕ) (part : String) :
    toAsciiLowercase (canonicalLocalePart index part) = toAsciiLowercase part := by
  unfold canonicalLocalePart
  split_ifs with hfirst hregion hscript
  · exact toAsciiLowercase_toAsciiLowercase part
  · exact toAsciiLowercase_toAsciiUppercase part
  · rcases hpart : (toAsciiLowercase part).toList with _ | ⟨first, rest⟩
    · rw [String.toList_eq_nil_iff.mp hpart]
      simp [toAsciiLowercase]
    · have htitle : toAsciiLowercase (String.ofList (first.toUpper :: rest)) =
          toAsciiLowercase (String.ofList (first :: rest)) := by
        apply String.toList_injective
        simp [toAsciiLowercase]
      rw [htitle, ← hpart, String.ofList_toList]
      exact toAsciiLowercase_toAsciiLowercase part
  · exact toAsciiLowercase_toAsciiLowercase part

theorem toLower_eq_hyphen_iff (c : Char) : c.toLower = '-' ↔ c = '-' := by
  by_cases h : c.isUpper = true
  · have halpha : c.toLower.isAlpha = true := by simp [Char.isAlpha, h]
    constructor
    · intro heq
      rw [heq] at halpha
      cases halpha
    · rintro rfl
      cases h
  · rw [Char.toLower_eq_of_not_isUpper h]

theorem localeParts_toAsciiLowercase (raw : String) :
    localeParts (toAsciiLowercase raw) = (localeParts raw).map toAsciiLowercase := by
  have hsame : (fun c : Char => c.toLower == '-') = (· == '-') := by
    funext c
    rw [Bool.eq_iff_iff, beq_iff_eq, beq_iff_eq]
    exact toLower_eq_hyphen_iff c
  unfold localeParts
  rw [toAsciiLowercase, String.toList_map, List.splitOn_eq_splitOnP, splitOnP_map, hsame,
    List.map_map, List.map_map, List.splitOn_eq_splitOnP]
  refine List.map_congr_left fun part _ => ?_
  apply String.toList_injective
  simp [toAsciiLowercase]

/-- The parts of a text are put together again with hyphens. -/
theorem intercalate_localeParts (raw : String) : "-".intercalate (localeParts raw) = raw := by
  apply String.toList_injective
  have hparts : (localeParts raw).map String.toList = raw.toList.splitOn '-' := by
    unfold localeParts
    rw [List.map_map]
    exact List.map_id'' (fun _ => String.toList_ofList) _
  rw [String.toList_intercalate, hparts]
  exact List.intercalate_splitOn '-'

theorem localeParts_ne_nil (raw : String) : localeParts raw ≠ [] := by
  unfold localeParts
  rw [ne_eq, List.map_eq_nil_iff]
  exact List.splitOn_ne_nil _ _

/-! ## The spelling of a tag -/

/-- The spelling of a tag does not depend on its case. -/
theorem spell_toAsciiLowercase (raw : String) : spell (toAsciiLowercase raw) = spell raw := by
  obtain ⟨language, subtags, hparts⟩ := List.exists_cons_of_ne_nil (localeParts_ne_nil raw)
  have hempty : toAsciiLowercase raw ≠ "" ↔ raw ≠ "" := by
    rw [toAsciiLowercase, ne_eq, String.map_eq_empty]
  have hspelled : ((language :: subtags).map toAsciiLowercase).mapIdx canonicalLocalePart =
      (language :: subtags).mapIdx canonicalLocalePart := by
    refine List.ext_getElem? fun index => ?_
    rw [List.getElem?_mapIdx, List.getElem?_mapIdx, List.getElem?_map, Option.map_map]
    exact congrArg (Option.map · _)
      (funext fun part => canonicalLocalePart_toAsciiLowercase index part)
  have hsubtags : (subtags.map toAsciiLowercase).all isLocaleSubtag = subtags.all isLocaleSubtag := by
    rw [List.all_map]
    exact congrArg subtags.all (funext isLocaleSubtag_toAsciiLowercase)
  unfold spell
  rw [localeParts_toAsciiLowercase, hparts, utf8ByteSize_toAsciiLowercase]
  dsimp only
  rw [hspelled]
  simp only [List.map_cons, List.headD_cons, List.drop_one, List.tail_cons, hempty, hsubtags,
    utf8ByteSize_toAsciiLowercase, all_toAsciiLowercase Char.isAlpha_toLower_eq_isAlpha]

theorem toAsciiLowercase_intercalate (parts : List String) :
    toAsciiLowercase ("-".intercalate parts) = "-".intercalate (parts.map toAsciiLowercase) := by
  apply String.toList_injective
  have hparts : (parts.map toAsciiLowercase).map String.toList =
      (parts.map String.toList).map (List.map Char.toLower) := by
    rw [List.map_map, List.map_map]
    exact List.map_congr_left fun part _ => String.toList_map
  rw [toAsciiLowercase, String.toList_map, String.toList_intercalate, map_intercalate,
    String.toList_intercalate, hparts]
  rfl

/-- Only the case of a tag is changed. -/
theorem toAsciiLowercase_of_spell {raw tag : String} (h : spell raw = .ok tag) :
    toAsciiLowercase tag = toAsciiLowercase raw := by
  unfold spell at h
  dsimp only at h
  split_ifs at h with hvalid
  obtain rfl := Except.ok.inj h
  have hspelled : ((localeParts raw).mapIdx canonicalLocalePart).map toAsciiLowercase =
      (localeParts raw).map toAsciiLowercase := by
    refine List.ext_getElem? fun index => ?_
    rw [List.getElem?_map, List.getElem?_mapIdx, Option.map_map, List.getElem?_map]
    exact congrArg (Option.map · _)
      (funext fun part => toAsciiLowercase_canonicalLocalePart index part)
  rw [toAsciiLowercase_intercalate, hspelled, ← toAsciiLowercase_intercalate,
    intercalate_localeParts]

/-! ## What comes before -/

/-- A hyphen for an underscore, and lower case. -/
def foldChar (c : Char) : Char := (hyphenChar c).toLower

theorem isWhitespace_foldChar (c : Char) : isWhitespace (foldChar c) = isWhitespace c := by
  by_cases hlt : c.toNat < 128
  · have hall : ∀ n < 128, isWhitespace (foldChar (Char.ofNat n)) = isWhitespace (Char.ofNat n) := by
      decide +kernel
    rw [← Char.ofNat_toNat c]
    exact hall _ hlt
  · have hne : c ≠ '_' := by
      rintro rfl
      exact hlt (by decide)
    have hupper : ¬ c.isUpper = true := by
      simp only [Char.isUpper, decide_eq_true_eq, UInt32.le_iff_toNat_le]
      rintro ⟨-, hle⟩
      have hn : c.val.toNat ≤ 90 := hle
      exact hlt (by rw [← Char.toNat_val]; omega)
    rw [foldChar, hyphenChar, if_neg hne, Char.toLower_eq_of_not_isUpper hupper]

theorem foldChar_toLower (c : Char) : foldChar c.toLower = foldChar c := by
  by_cases h : c = '_'
  · rw [h]
    decide
  · have hlower : c.toLower ≠ '_' := by
      by_cases hupper : c.isUpper = true
      · intro heq
        have halpha : c.toLower.isAlpha = true := by simp [Char.isAlpha, hupper]
        rw [heq] at halpha
        cases halpha
      · rwa [Char.toLower_eq_of_not_isUpper hupper]
    rw [foldChar, foldChar, hyphenChar, hyphenChar, if_neg h, if_neg hlower,
      Char.toLower_toLower_eq_toLower]

theorem foldChar_eq_of_same {c c' : Char}
    (h : c.toLower = c'.toLower ∨ c ∈ ['_', '-'] ∧ c' ∈ ['_', '-']) : foldChar c = foldChar c' := by
  rcases h with h | ⟨hc, hc'⟩
  · rw [← foldChar_toLower c, h, foldChar_toLower c']
  · have hhyphen : ∀ c ∈ ['_', '-'], foldChar c = '-' := by
      intro c hc
      rcases List.mem_pair.mp hc with rfl | rfl
      · rw [foldChar, hyphenChar, if_pos rfl]
        decide
      · rw [foldChar, hyphenChar, if_neg (by decide)]
        decide
    rw [hhyphen c hc, hhyphen c' hc']

theorem trim_map {f : Char → Char} (hf : ∀ c, isWhitespace (f c) = isWhitespace c) (text : String) :
    trim (text.map f) = (trim text).map f := by
  have hsame : isWhitespace ∘ f = isWhitespace := funext hf
  apply String.toList_injective
  unfold trim
  rw [String.toList_map, String.toList_map, String.toList_ofList, String.toList_ofList,
    List.dropWhile_map, ← List.map_reverse, List.dropWhile_map, ← List.map_reverse, hsame]

theorem isWhitespace_hyphenChar (c : Char) : isWhitespace (hyphenChar c) = isWhitespace c := by
  unfold hyphenChar
  split_ifs with h
  · rw [h]
    decide
  · rfl

theorem hyphenChar_hyphenChar (c : Char) : hyphenChar (hyphenChar c) = hyphenChar c := by
  by_cases h : c = '_'
  · rw [h]
    decide
  · have hsame : hyphenChar c = c := if_neg h
    rw [hsame, hsame]

theorem hyphened_hyphened (text : String) : hyphened (hyphened text) = hyphened text := by
  have htrim : trim (hyphened text) = hyphened text := by
    unfold hyphened
    rw [trim_map isWhitespace_hyphenChar, trim_trim]
  calc hyphened (hyphened text)
      = (hyphened text).map hyphenChar := by
        unfold hyphened at htrim ⊢
        rw [htrim]
    _ = hyphened text := by
        apply String.toList_injective
        simp [hyphened, hyphenChar_hyphenChar]

/-- In lower case, a text comes out of `hyphened` as its characters one by one. -/
theorem toAsciiLowercase_hyphened (text : String) :
    toAsciiLowercase (hyphened text) = trim (text.map foldChar) := by
  rw [trim_map isWhitespace_foldChar]
  apply String.toList_injective
  simp [hyphened, toAsciiLowercase, foldChar]

theorem spell_eq_of_fold {text text' : String} (h : text.map foldChar = text'.map foldChar) :
    spell (hyphened text) = spell (hyphened text') := by
  rw [← spell_toAsciiLowercase, toAsciiLowercase_hyphened, h, ← toAsciiLowercase_hyphened,
    spell_toAsciiLowercase]

/-- The spelling of a tag is its own spelling. -/
theorem spell_of_spell {text tag : String} (h : spell (hyphened text) = .ok tag) :
    spell (hyphened tag) = .ok tag := by
  have hfold : ∀ raw : String, raw.map foldChar = (toAsciiLowercase raw).map foldChar := by
    intro raw
    apply String.toList_injective
    simp [toAsciiLowercase, foldChar_toLower]
  rw [← h]
  calc spell (hyphened tag)
      = spell (hyphened (hyphened text)) := by
        apply spell_eq_of_fold
        rw [hfold, toAsciiLowercase_of_spell h, ← hfold]
    _ = spell (hyphened text) := by rw [hyphened_hyphened]

/-! ## What is accepted -/

theorem utf8ByteSize_of_isAlphanum {text : String} (h : ∀ c ∈ text.toList, c.isAlphanum = true) :
    text.utf8ByteSize = text.toList.length := by
  have hone : ∀ c ∈ text.toList, c.utf8Size = 1 := by
    intro c hc
    have hc := h c hc
    simp only [Char.isAlphanum, Char.isAlpha, Char.isUpper, Char.isLower, Char.isDigit,
      Bool.or_eq_true, Bool.and_eq_true, decide_eq_true_eq, UInt32.le_iff_toNat_le] at hc
    have hlt : c.val.toNat ≤ 127 := by
      have hZ : 'Z'.val.toNat = 90 := rfl
      have hz : 'z'.val.toNat = 122 := rfl
      have h9 : '9'.val.toNat = 57 := rfl
      omega
    exact Char.utf8Size_eq_one_iff.mpr (UInt32.le_iff_toNat_le.mpr hlt)
  rw [utf8ByteSize_eq, List.map_congr_left hone, List.map_const', List.sum_replicate, smul_eq_mul,
    mul_one]

theorem LanguageTag.localeParts_text (tag : LanguageTag) :
    localeParts tag.text = (tag.language :: tag.subtags).map String.ofList := by
  have hfree : ∀ part ∈ tag.language :: tag.subtags, '-' ∉ part := by
    intro part hpart hhyphen
    rcases List.mem_cons.mp hpart with rfl | hpart
    · exact absurd (tag.language_alpha _ hhyphen) (by decide)
    · exact absurd (tag.subtag_alphanum _ hpart _ hhyphen) (by decide)
  unfold localeParts LanguageTag.text
  rw [String.toList_ofList, List.splitOn_intercalate _ hfree (List.cons_ne_nil _ _)]

theorem isLocaleSubtag_iff (part : String) :
    isLocaleSubtag part = true ↔
      (1 ≤ part.toList.length ∧ part.toList.length ≤ 8) ∧ ∀ c ∈ part.toList, c.isAlphanum = true := by
  unfold isLocaleSubtag
  rw [Bool.and_eq_true, Bool.and_eq_true, decide_eq_true_eq, decide_eq_true_eq, List.all_eq_true]
  constructor
  · rintro ⟨⟨hne, hle⟩, hall⟩
    rw [utf8ByteSize_of_isAlphanum hall] at hle
    refine ⟨⟨?_, hle⟩, hall⟩
    exact List.length_pos_iff.mpr fun hnil => hne (String.toList_eq_nil_iff.mp hnil)
  · rintro ⟨⟨hpos, hle⟩, hall⟩
    rw [utf8ByteSize_of_isAlphanum hall]
    refine ⟨⟨?_, hle⟩, hall⟩
    rintro rfl
    cases hpos

/-- The texts that are accepted are those of the tags that are not too long. -/
theorem isOk_spell_iff (raw : String) :
    (∃ result, spell raw = .ok result) ↔
      ∃ tag : LanguageTag, raw = tag.text ∧ raw.utf8ByteSize ≤ 35 := by
  constructor
  · rintro ⟨result, h⟩
    obtain ⟨language, subtags, hparts⟩ := List.exists_cons_of_ne_nil (localeParts_ne_nil raw)
    unfold spell at h
    dsimp only at h
    split_ifs at h with hvalid
    rw [hparts] at hvalid
    obtain ⟨-, hsize, hmin, hmax, halpha, hsubtags⟩ := hvalid
    rw [List.headD_cons, List.all_eq_true] at halpha
    rw [List.headD_cons, utf8ByteSize_of_isAlphanum
      fun c hc => by rw [Char.isAlphanum, halpha c hc, Bool.true_or]] at hmin hmax
    rw [List.drop_one, List.tail_cons, List.all_eq_true] at hsubtags
    have hspec := fun subtag hmem => (isLocaleSubtag_iff subtag).mp (hsubtags subtag hmem)
    refine ⟨⟨language.toList, subtags.map String.toList, ⟨hmin, hmax⟩, halpha,
      List.forall_mem_map.mpr fun subtag hmem => (hspec subtag hmem).1,
      List.forall_mem_map.mpr fun subtag hmem => (hspec subtag hmem).2⟩, ?_, hsize⟩
    apply String.toList_injective
    rw [← intercalate_localeParts raw, hparts, LanguageTag.text, String.toList_intercalate]
    exact String.toList_ofList.symm
  · rintro ⟨tag, rfl, hsize⟩
    have hlanguage : (String.ofList tag.language).utf8ByteSize = tag.language.length := by
      rw [utf8ByteSize_of_isAlphanum, String.toList_ofList]
      intro c hc
      rw [String.toList_ofList] at hc
      rw [Char.isAlphanum, tag.language_alpha c hc, Bool.true_or]
    have hne : tag.text ≠ "" := by
      intro hempty
      have hparts := tag.localeParts_text
      rw [hempty, List.map_cons] at hparts
      have hnil : String.ofList tag.language = "" := (List.cons.inj hparts).1.symm
      rw [hnil] at hlanguage
      have hmin := tag.language_length.1
      rw [← hlanguage] at hmin
      cases hmin
    have hsubtags : ∀ subtag ∈ tag.subtags, isLocaleSubtag (String.ofList subtag) = true := by
      intro subtag hmem
      rw [isLocaleSubtag_iff, String.toList_ofList]
      exact ⟨tag.subtag_length subtag hmem, tag.subtag_alphanum subtag hmem⟩
    refine ⟨_, if_pos ?_⟩
    rw [tag.localeParts_text, List.map_cons, List.headD_cons, List.drop_one, List.tail_cons,
      hlanguage, String.toList_ofList, List.all_eq_true, List.all_eq_true]
    exact ⟨hne, hsize, tag.language_length.1, tag.language_length.2, tag.language_alpha,
      List.forall_mem_map.mpr hsubtags⟩

/-- **`locale_value` accepts exactly the bounded language tags, and its result is canonical.** -/
theorem localeValue_canonical :
    (∀ value, (∃ result, localeValue value = .ok result) ↔
      ∃ text, value = some (.string text) ∧
        ∃ tag : LanguageTag, hyphened text = tag.text ∧ (hyphened text).utf8ByteSize ≤ 35) ∧
    (∀ value result, localeValue value = .ok result →
      localeValue (some (.string result)) = .ok result) ∧
    ∀ text text', SameTag text text' →
      localeValue (some (.string text)) = localeValue (some (.string text')) := by
  refine ⟨?_, ?_, ?_⟩
  · intro value
    constructor
    · rintro ⟨result, h⟩
      obtain ⟨text, rfl⟩ := exists_of_localeValue h
      exact ⟨text, rfl, (isOk_spell_iff (hyphened text)).mp ⟨result, h⟩⟩
    · rintro ⟨text, rfl, htag⟩
      exact (isOk_spell_iff (hyphened text)).mpr htag
  · intro value result h
    obtain ⟨text, rfl⟩ := exists_of_localeValue h
    exact spell_of_spell h
  · intro text text' hsame
    apply spell_eq_of_fold
    apply String.toList_injective
    rw [String.toList_map, String.toList_map]
    have hfold := hsame.imp fun c c' h => foldChar_eq_of_same h
    rw [← List.forall₂_eq_eq_eq, List.forall₂_map_left_iff, List.forall₂_map_right_iff]
    exact hfold

end ProtonVpnOmarchy.Agent.Store
