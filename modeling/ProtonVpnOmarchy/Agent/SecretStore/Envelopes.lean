import ProtonVpnOmarchy.Agent.JsonTokens
import ProtonVpnOmarchy.Agent.SecretStore.Durability

/-!
# What is stored is loaded

Sessions and the account index are stored as Base64 in an envelope, and the sizes of the JSON text
and of the envelope are limited both when they are written and when they are read. The sessions of
older releases are JSON text in which a keyring may have replaced escapes by control characters.

* `decodeSession_encodeSession` — an envelope is ASCII, fits whenever its JSON text does, and is decoded to what
  was encoded.
* `decodeLegacySession_of_unescapes` — the session of a legacy text survives the replacement of any
  escapes.
-/

namespace ProtonVpnOmarchy.Agent.SecretStore

open Lib Lib.Fallible Splitd Store Backend

/-! ## Envelopes -/

/-- `str::is_ascii` -/
def isAscii (text : String) : Bool := text.toList.all (·.val ≤ 127)

theorem isAscii_sealText {fieldPrefix : String} (h : isAscii fieldPrefix) (text : String) :
    isAscii (sealText fieldPrefix text) := by
  unfold isAscii at h ⊢
  rw [sealText, String.toList_append, String.toList_ofList, List.all_append, h, Bool.true_and,
    List.all_eq_true]
  intro c hc
  obtain ⟨word, -, rfl⟩ := List.mem_map.mp hc
  have hascii : URL_SAFE_NO_PAD.chars.all (·.val ≤ 127) := rfl
  exact List.all_eq_true.mp hascii _ (URL_SAFE_NO_PAD.char_mem word)

section serde

variable {serde : Serde}

/-- What is encoded is an envelope of the JSON text. -/
theorem encodeSession_eq_ok {session : SessionData} {raw : String}
    (h : encodeSession serde session = .ok raw) :
    (serde.sessionToJson session).utf8ByteSize ≤ MAX_SESSION_BYTES ∧
      raw = sealText SESSION_ENVELOPE_PREFIX (serde.sessionToJson session) := by
  unfold encodeSession at h
  obtain ⟨_, hjson, h⟩ := Except.bind_eq_ok.mp h
  obtain ⟨_, -, h⟩ := Except.bind_eq_ok.mp h
  exact ⟨not_lt.mp (reject_eq_ok hjson), (Except.ok.inj h).symm⟩

theorem encodeAccountIndex_eq_ok {accounts : List String} {raw : String}
    (h : encodeAccountIndex serde accounts = .ok raw) :
    (accountsToJson serde accounts).utf8ByteSize ≤ MAX_INDEX_BYTES ∧
      raw = sealText INDEX_ENVELOPE_PREFIX (accountsToJson serde accounts) := by
  unfold encodeAccountIndex at h
  obtain ⟨_, hjson, h⟩ := Except.bind_eq_ok.mp h
  obtain ⟨_, -, h⟩ := Except.bind_eq_ok.mp h
  exact ⟨not_lt.mp (reject_eq_ok hjson), (Except.ok.inj h).symm⟩

theorem decodeSession_sealText {json : String} (h : json.utf8ByteSize ≤ MAX_SESSION_BYTES) :
    decodeSession serde (sealText SESSION_ENVELOPE_PREFIX json) = serde.sessionFromJson json := by
  unfold decodeSession
  rw [if_neg (not_lt.mpr (utf8ByteSize_sealText_session_le h)), openText_sealText _ _ h,
    Option.bind_some]

/-- **Envelopes.** An envelope is ASCII and decoded to what was encoded, if the JSON text of a
session is one of that session. An encoder refuses only what is too long as JSON text: the limit of
an envelope holds whenever that of its text does. -/
theorem decodeSession_encodeSession (serde : Serde) {session : SessionData}
    (hserde : serde.sessionFromJson (serde.sessionToJson session) = some session) :
    (∀ raw, encodeSession serde session = .ok raw →
      isAscii raw ∧ decodeSession serde raw = some session) ∧
    (∀ accounts raw, encodeAccountIndex serde accounts = .ok raw →
      isAscii raw ∧ decodeAccountIndex serde raw = some accounts) ∧
    (∀ json : String, json.utf8ByteSize ≤ MAX_SESSION_BYTES →
      (sealText SESSION_ENVELOPE_PREFIX json).utf8ByteSize ≤ MAX_SESSION_ENVELOPE_BYTES) ∧
    (∀ json : String, json.utf8ByteSize ≤ MAX_INDEX_BYTES →
      (sealText INDEX_ENVELOPE_PREFIX json).utf8ByteSize ≤ MAX_INDEX_ENVELOPE_BYTES) ∧
    ((encodeSession serde session).isOk ↔
      (serde.sessionToJson session).utf8ByteSize ≤ MAX_SESSION_BYTES) ∧
    ∀ accounts, (encodeAccountIndex serde accounts).isOk ↔
      (accountsToJson serde accounts).utf8ByteSize ≤ MAX_INDEX_BYTES := by
  refine ⟨fun raw h => ?_, fun accounts raw h => ?_,
    fun json => utf8ByteSize_sealText_session_le, fun json => utf8ByteSize_sealText_index_le,
    ⟨fun h => ?_, fun h => ?_⟩, fun accounts => ⟨fun h => ?_, fun h => ?_⟩⟩
  · obtain ⟨hsize, rfl⟩ := encodeSession_eq_ok h
    refine ⟨isAscii_sealText rfl _, ?_⟩
    rw [decodeSession_sealText hsize, hserde]
  · refine ⟨?_, decodeAccountIndex_encode serde h⟩
    obtain ⟨-, rfl⟩ := encodeAccountIndex_eq_ok h
    exact isAscii_sealText rfl _
  · cases hraw : encodeSession serde session with
    | error error =>
        rw [hraw] at h
        cases h
    | ok raw => exact (encodeSession_eq_ok hraw).1
  · obtain ⟨raw, hraw⟩ := exists_encodeSession h
    rw [hraw]
    rfl
  · cases hraw : encodeAccountIndex serde accounts with
    | error error =>
        rw [hraw] at h
        cases h
    | ok raw => exact (encodeAccountIndex_eq_ok hraw).1
  · obtain ⟨raw, hraw⟩ := exists_encodeAccountIndex serde h
    rw [hraw]
    rfl

end serde

/-! ## Legacy texts -/

/-- What the store relies on: a session is decoded from the tokens of its text. -/
structure Serde.ReadsTokens (serde : Serde) : Prop where
  seen : ∀ {raw raw' : String} {tokens}, Lexes raw.toList tokens → Lexes raw'.toList tokens →
    serde.sessionFromJson raw = serde.sessionFromJson raw'
  strict : ∀ {raw : String} {session}, serde.sessionFromJson raw = some session →
    ∃ tokens, Lexes raw.toList tokens

/-- There are no control characters between the strings. -/
def Compact (raw : String) : Prop :=
  ∀ tokens, Lexes raw.toList tokens → ∀ c, .char c ∈ tokens → 0x20 ≤ c.toNat

theorem toList_escapeLegacyControlCharacters (raw : String) :
    (escapeLegacyControlCharacters raw).toList = escapeControls raw.toList := String.toList_ofList

theorem utf8Size_le_of_isControlCode {c : Char} (h : IsControlCode c.toNat) : c.utf8Size ≤ 2 := by
  have hle : c.val ≤ 0x7ff := by
    rw [UInt32.le_iff_toNat_le]
    change c.toNat ≤ 0x7ff
    unfold IsControlCode at h
    omega
  by_cases hone : c.val ≤ 0x7f
  · rw [Char.utf8Size_eq_one_iff.mpr hone]
    decide
  · rw [Char.utf8Size_eq_two_iff.mpr ⟨UInt32.not_le.mp hone, hle⟩]

/-- No alteration makes a text longer. -/
theorem charsSize_le_of_unescapes {inside : Bool} {text text' : List Char}
    (h : Unescapes inside text text') : charsSize text' ≤ charsSize text := by
  have hescape : '\\'.utf8Size = 1 := rfl
  have hu : 'u'.utf8Size = 1 := rfl
  induction h with
  | nil => exact le_rfl
  | @short letter c _ _ _ hcontrol _ ih =>
      have hc := utf8Size_le_of_isControlCode hcontrol
      have hletter := letter.utf8Size_pos
      simp only [charsSize_cons, hescape]
      omega
  | @quad a b c d n _ _ _ hcontrol _ ih =>
      have hn := toNat_ofNat_of_isControlCode hcontrol
      have hc := utf8Size_le_of_isControlCode (c := Char.ofNat n) (by rwa [hn])
      simp only [charsSize_cons, hescape, hu]
      omega
  | _ =>
      simp only [charsSize_cons]
      omega

/-- **Legacy texts.** Whatever escapes of control characters in the strings of a session's text are
replaced, the altered text is decoded to the session. -/
theorem decodeLegacySession_of_unescapes {serde : Serde} (hserde : serde.ReadsTokens)
    {raw altered : String} {session : SessionData} (hsize : raw.utf8ByteSize ≤ MAX_SESSION_BYTES)
    (hcompact : Compact raw) (hsession : serde.sessionFromJson raw = some session)
    (haltered : Unescapes false raw.toList altered.toList) :
    decodeLegacySession serde altered = some session := by
  obtain ⟨tokens, htokens⟩ := hserde.strict hsession
  obtain ⟨hescaped, hsame⟩ := lexes_of_unescapes htokens (hcompact tokens htokens) haltered
  have hshort : altered.utf8ByteSize ≤ MAX_SESSION_BYTES := by
    have hle := charsSize_le_of_unescapes haltered
    unfold charsSize at hle
    rw [← utf8ByteSize_eq, ← utf8ByteSize_eq] at hle
    omega
  unfold decodeLegacySession
  rw [if_neg (not_lt.mpr hshort)]
  cases hfirst : serde.sessionFromJson altered with
  | none =>
      rw [Option.none_or, ← hsession]
      refine hserde.seen ?_ htokens
      rwa [toList_escapeLegacyControlCharacters]
  | some session' =>
      -- The text is decoded as it is only if there was nothing to escape.
      obtain ⟨tokens', htokens'⟩ := hserde.strict hfirst
      rw [hsame tokens' htokens'] at hescaped
      rw [Option.some_or, ← hfirst, hserde.seen hescaped htokens, hsession]

/-! ## A decoder that sees the tokens only -/

/-- The text of a token with the escapes of `serde_json`. -/
def Token.spell : Token → List Char
  | .char c => [c]
  | .string chars => writeString (.ofList chars)

/-- `plainSerde`, whatever the escapes are. -/
def tokenSerde : Serde where
  floats := plainSerde.floats
  sessionToJson := plainSerde.sessionToJson
  sessionFromJson json := (lexTokens json.toList.length json.toList).bind fun tokens =>
    plainSerde.sessionFromJson (.ofList (tokens.flatMap Token.spell))

theorem readsTokens_tokenSerde : tokenSerde.ReadsTokens where
  seen h h' := by
    simp only [tokenSerde, lexTokens_eq_some_iff.mpr h, lexTokens_eq_some_iff.mpr h']
  strict h := by
    obtain ⟨tokens, htokens, -⟩ := Option.bind_eq_some_iff.mp h
    exact ⟨tokens, lexTokens_eq_some_iff.mp htokens⟩

deriving instance DecidableEq for SessionData

/-- The session of the texts below. -/
def legacySession : SessionData where
  uid := "u"
  accessToken := "a\nb"
  refreshToken := "r"
  accountName := "n"
  rest := .null

/-- The session is stored and loaded. -/
theorem decodeSession_encodeSession_legacySession : ∃ raw, encodeSession plainSerde legacySession = .ok raw ∧
    isAscii raw ∧ decodeSession plainSerde raw = some legacySession := by
  obtain ⟨raw, hraw⟩ := @exists_encodeSession plainSerde legacySession (by decide +kernel)
  exact ⟨raw, hraw, (decodeSession_encodeSession plainSerde (by decide +kernel)).1 raw hraw⟩

/-- The text of the session up to the escape. -/
def legacyBefore : List Char :=
  ['\x7b', '"', 'U', 'I', 'D', '"', ':', '"', 'u', '"', ',', '"', 'A', 'c', 'c', 'e', 's',
    's', 'T', 'o', 'k', 'e', 'n', '"', ':', '"', 'a']

def legacyAfter : List Char :=
  ['b', '"', ',', '"', 'R', 'e', 'f', 'r', 'e', 's', 'h', 'T', 'o', 'k', 'e', 'n', '"', ':',
    '"', 'r', '"', ',', '"', 'A', 'c', 'c', 'o', 'u', 'n', 't', 'N', 'a', 'm', 'e', '"', ':',
    '"', 'n', '"', ',', '"', 'v', 'p', 'n', '"', ':', 'n', 'u', 'l', 'l', '\x7d']

/-- The line break in the text of the session is no longer escaped. -/
theorem decodeLegacySession_of_unescapes_lineBreak :
    decodeLegacySession tokenSerde (.ofList (legacyBefore ++ '\n' :: legacyAfter)) =
      some legacySession := by
  refine @decodeLegacySession_of_unescapes _ readsTokens_tokenSerde
    (.ofList (legacyBefore ++ '\\' :: 'n' :: legacyAfter)) _ _ (by decide +kernel) ?_
    (by decide +kernel) ?_
  · intro tokens htokens c hc
    have hlexes : lexTokens 100 (legacyBefore ++ '\\' :: 'n' :: legacyAfter) = some tokens := by
      rw [String.toList_ofList] at htokens
      exact lexTokens_of_lexes htokens (by decide +kernel)
    have hcompact : ((lexTokens 100 (legacyBefore ++ '\\' :: 'n' :: legacyAfter)).getD []).all
        (fun | .char c => decide (' ' ≤ c) | .string _ => true) = true := by decide +kernel
    rw [hlexes, Option.getD_some, List.all_eq_true] at hcompact
    have hblank := of_decide_eq_true (hcompact _ hc)
    exact hblank
  · rw [String.toList_ofList, String.toList_ofList]
    unfold legacyBefore legacyAfter
    simp only [List.cons_append, List.nil_append]
    repeat
      first
      | exact .nil
      | refine .closes ?_
      | refine .opens ?_
      | refine .short (by decide) (.inl (by decide)) ?_
      | refine .plain (by decide) (by decide) ?_
      | refine .outside (by decide) ?_

end ProtonVpnOmarchy.Agent.SecretStore
