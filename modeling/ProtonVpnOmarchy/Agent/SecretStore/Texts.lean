import ProtonVpnOmarchy.Agent.SecretStore.Basic

/-!
# The texts of the secret store

* `privateAccountKey_injective` — accounts have different items, which are neither the index nor the
  mark.
* `decodeAccountIndex_encode` — the index is read as it was written.
* `exists_encodeAccountIndex` — an index is written if its JSON text is short enough.
-/

namespace ProtonVpnOmarchy.Agent.SecretStore

open Lib Lib.Fallible Splitd Store Backend

/-! ## Bytes -/

theorem ofBitVec_bytesOf (text : String) : (bytesOf text).map UInt8.ofBitVec = utf8 text := by
  rw [bytesOf, List.map_map]
  exact (List.map_congr_left fun _ _ => UInt8.ofBitVec_toBitVec _).trans (List.map_id _)

@[simp] theorem textOf_bytesOf (text : String) : textOf (bytesOf text) = some text := by
  unfold textOf
  rw [ofBitVec_bytesOf, lossy_utf8]
  exact if_pos rfl

theorem bytesOf_injective : Function.Injective bytesOf := by
  intro text text' h
  have htext := textOf_bytesOf text
  rw [h, textOf_bytesOf] at htext
  exact (Option.some.inj htext).symm

theorem length_bytesOf (text : String) : (bytesOf text).length = text.utf8ByteSize := by
  have hlength : ∀ chars : List Char, (chars.flatMap String.utf8EncodeChar).length =
      (chars.map Char.utf8Size).sum := by
    intro chars
    induction chars with
    | nil => rfl
    | cons c chars ih =>
        rw [List.flatMap_cons, List.length_append, ih, String.length_utf8EncodeChar, List.map_cons,
          List.sum_cons]
  rw [bytesOf, List.length_map, utf8, hlength, utf8ByteSize_eq]

/-! ## Keys -/

/-- The letters of the keys. -/
def keyAlphabet : Alphabet 5 where
  chars := "abcdefghijklmnopqrstuvwxyz234567".toList
  length_chars := by decide
  nodup := by decide

theorem toLower_char (word : BitVec 5) :
    (BASE32_NOPAD.char word).toLower = keyAlphabet.char word := by
  revert word
  decide

theorem toAsciiLowercase_encode (words : List (BitVec 8)) :
    (toAsciiLowercase (.ofList (BASE32_NOPAD.encode words))).toList = keyAlphabet.encode words := by
  unfold toAsciiLowercase Alphabet.encode
  rw [String.toList_map, String.toList_ofList, List.map_map]
  exact List.map_congr_left fun word _ => toLower_char word

theorem toList_privateAccountKey (accountName : String) : (privateAccountKey accountName).toList =
    "account-v1-".toList ++ keyAlphabet.encode (bytesOf accountName) := by
  rw [privateAccountKey, String.toList_append, toAsciiLowercase_encode]

/-- Accounts have different items. -/
theorem privateAccountKey_injective : Function.Injective privateAccountKey := by
  intro name name' h
  have hlist := congrArg String.toList h
  rw [toList_privateAccountKey, toList_privateAccountKey] at hlist
  exact bytesOf_injective
    (keyAlphabet.encode_injective (by decide) (by decide) (List.append_cancel_left hlist))

theorem privateAccountKey_ne {username : String}
    (h : ¬ "account-v1-".toList <+: username.toList) (accountName : String) :
    privateAccountKey accountName ≠ username := by
  rintro rfl
  rw [toList_privateAccountKey] at h
  exact h (List.prefix_append _ _)

theorem privateAccountKey_ne_index (accountName : String) :
    privateAccountKey accountName ≠ ACCOUNT_INDEX := privateAccountKey_ne (by decide) accountName

theorem privateAccountKey_ne_marker (accountName : String) :
    privateAccountKey accountName ≠ LEGACY_IMPORT_MARKER :=
  privateAccountKey_ne (by decide) accountName

/-! ## Sizes of JSON text -/

/-- The number of bytes of characters. -/
def charsSize (chars : List Char) : ℕ := (chars.map Char.utf8Size).sum

theorem utf8ByteSize_ofList_eq_charsSize (chars : List Char) :
    (String.ofList chars).utf8ByteSize = charsSize chars := utf8ByteSize_ofList chars

@[simp] theorem charsSize_nil : charsSize [] = 0 := rfl

@[simp] theorem charsSize_cons (c : Char) (chars : List Char) :
    charsSize (c :: chars) = c.utf8Size + charsSize chars := by
  simp [charsSize]

@[simp] theorem charsSize_append (chars chars' : List Char) :
    charsSize (chars ++ chars') = charsSize chars + charsSize chars' := by
  simp [charsSize]

theorem charsSize_escapeChar_le (c : Char) : charsSize (escapeChar c) ≤ 6 * c.utf8Size := by
  have hpos := c.utf8Size_pos
  unfold escapeChar
  cases hlookup : shortEscapes.lookup c with
  | some letter =>
      have hascii : ∀ entry ∈ shortEscapes, entry.2.utf8Size = 1 := by decide
      obtain ⟨_, _, hsplit, _⟩ := List.lookup_eq_some_iff.mp hlookup
      have hletter : letter.utf8Size = 1 := hascii (c, letter) (by rw [hsplit]; simp)
      have hescape : '\\'.utf8Size = 1 := rfl
      simp only [charsSize_cons, charsSize_nil, hletter, hescape]
      omega
  | none =>
      dsimp only
      split_ifs with hcontrol
      · have hdigit : ∀ n < 16, n.digitChar.utf8Size = 1 := by decide
        have hhigh := hdigit (c.toNat / 16) (by omega)
        have hlow := hdigit (c.toNat % 16) (by omega)
        have hmarks : '\\'.utf8Size = 1 ∧ 'u'.utf8Size = 1 ∧ '0'.utf8Size = 1 := ⟨rfl, rfl, rfl⟩
        simp only [charsSize_cons, charsSize_nil, hhigh, hlow, hmarks]
        omega
      · simp only [charsSize_cons, charsSize_nil]
        omega

/-- Every byte of a string is written in at most six. -/
theorem charsSize_writeString_le (text : String) :
    charsSize (writeString text) ≤ 6 * text.utf8ByteSize + 2 := by
  have hchars : ∀ chars : List Char,
      charsSize (chars.flatMap escapeChar) ≤ 6 * charsSize chars := by
    intro chars
    induction chars with
    | nil => exact le_rfl
    | cons c chars ih =>
        have hc := charsSize_escapeChar_le c
        rw [List.flatMap_cons, charsSize_append, charsSize_cons]
        omega
  have htext := hchars text.toList
  have hquote : '"'.utf8Size = 1 := rfl
  rw [utf8ByteSize_eq]
  simp only [writeString, charsSize_cons, charsSize_append, charsSize_nil, hquote]
  unfold charsSize at htext ⊢
  omega

/-- An index of short names is short. -/
theorem utf8ByteSize_accountsToJson_le (serde : Serde) {accounts : List String} {bound : ℕ}
    (h : ∀ account ∈ accounts, account.utf8ByteSize ≤ bound) :
    (accountsToJson serde accounts).utf8ByteSize ≤ accounts.length * (6 * bound + 3) + 2 := by
  have hitems : ∀ accounts : List String, (∀ account ∈ accounts, account.utf8ByteSize ≤ bound) →
      charsSize (writeItems serde.floats (accounts.map .string)) ≤
        accounts.length * (6 * bound + 3) := by
    intro accounts h
    induction accounts with
    | nil => exact Nat.zero_le _
    | cons account accounts ih =>
        have hrest := ih fun account' hmem => h account' (List.mem_cons_of_mem _ hmem)
        have haccount := charsSize_writeString_le account
        have hbound := h account List.mem_cons_self
        have hcomma : ','.utf8Size = 1 := rfl
        rw [List.length_cons, Nat.add_one_mul, List.map_cons, writeItems, writeValue,
          charsSize_append]
        split_ifs
        · simp only [charsSize_nil]
          omega
        · simp only [charsSize_cons, hcomma]
          omega
  have hbrackets : '['.utf8Size = 1 ∧ ']'.utf8Size = 1 := ⟨rfl, rfl⟩
  have hlist := hitems accounts h
  rw [accountsToJson, utf8ByteSize_ofList_eq_charsSize, writeValue]
  simp only [charsSize_cons, charsSize_append, charsSize_nil, hbrackets]
  omega

/-! ## Envelopes -/

theorem utf8ByteSize_encode {u w : ℕ} (alphabet : Alphabet w)
    (hascii : alphabet.chars.all (·.val ≤ 127)) (words : List (BitVec u)) :
    (String.ofList (alphabet.encode words)).utf8ByteSize =
      Alphabet.textLength u w words.length := by
  have hone : ∀ c ∈ alphabet.encode words, c.utf8Size = 1 := by
    intro c hc
    obtain ⟨word, -, rfl⟩ := List.mem_map.mp hc
    have hle := List.all_eq_true.mp hascii _ (alphabet.char_mem word)
    exact Char.utf8Size_eq_one_iff.mpr (of_decide_eq_true hle)
  rw [utf8ByteSize_ofList, List.map_congr_left hone, List.map_const', List.sum_replicate,
    smul_eq_mul, mul_one, Alphabet.encode, List.length_map, length_regroup]

/-- What was sealed is read again. -/
theorem openText_sealText (fieldPrefix text : String) {maxBytes : ℕ}
    (h : text.utf8ByteSize ≤ maxBytes) :
    openText fieldPrefix (sealText fieldPrefix text) maxBytes = some text := by
  have hdrop : (sealText fieldPrefix text).toList.dropPrefix? fieldPrefix.toList =
      some (URL_SAFE_NO_PAD.encode (bytesOf text)) := by
    rw [dropPrefix?_eq_some, sealText, String.toList_append, String.toList_ofList]
  have hlength : ¬ maxBytes < (bytesOf text).length := by
    rw [length_bytesOf]
    omega
  unfold openText
  rw [hdrop]
  dsimp only [Option.bind_eq_bind, Option.bind_some]
  rw [URL_SAFE_NO_PAD.decode_encode (by decide) (by decide), Option.bind_some, if_neg hlength,
    textOf_bytesOf]

theorem utf8ByteSize_sealText (fieldPrefix text : String) :
    (sealText fieldPrefix text).utf8ByteSize =
      fieldPrefix.utf8ByteSize + Alphabet.textLength 8 6 text.utf8ByteSize := by
  rw [sealText, String.utf8ByteSize_append, utf8ByteSize_encode _ rfl, length_bytesOf]

/-- Three bytes become four characters: an index that may be stored fits into its envelope. -/
theorem utf8ByteSize_sealText_index_le {json : String} (h : json.utf8ByteSize ≤ MAX_INDEX_BYTES) :
    (sealText INDEX_ENVELOPE_PREFIX json).utf8ByteSize ≤ MAX_INDEX_ENVELOPE_BYTES := by
  have hprefix : INDEX_ENVELOPE_PREFIX.utf8ByteSize = 12 := by decide
  rw [utf8ByteSize_sealText, hprefix]
  unfold Alphabet.textLength MAX_INDEX_ENVELOPE_BYTES
  unfold MAX_INDEX_BYTES at h
  omega

theorem utf8ByteSize_sealText_session_le {json : String}
    (h : json.utf8ByteSize ≤ MAX_SESSION_BYTES) :
    (sealText SESSION_ENVELOPE_PREFIX json).utf8ByteSize ≤ MAX_SESSION_ENVELOPE_BYTES := by
  have hprefix : SESSION_ENVELOPE_PREFIX.utf8ByteSize = 6 := by decide
  rw [utf8ByteSize_sealText, hprefix]
  unfold Alphabet.textLength MAX_SESSION_ENVELOPE_BYTES
  unfold MAX_SESSION_BYTES at h
  omega

/-! ## The index -/

section index

variable (serde : Serde)

theorem accountsFromJson_accountsToJson (accounts : List String) :
    accountsFromJson serde (accountsToJson serde accounts) = some accounts := by
  have hplain : (Value.array (accounts.map .string)).Plain := by
    refine .array fun value hvalue => ?_
    obtain ⟨name, -, rfl⟩ := List.mem_map.mp hvalue
    exact .string name
  have hnames : (accounts.map Value.string).mapM Value.asStr = some accounts := by
    clear hplain
    induction accounts with
    | nil => rfl
    | cons name accounts ih =>
        rw [List.map_cons, List.mapM_cons, ih]
        rfl
  unfold accountsFromJson accountsToJson
  rw [String.toList_ofList, readJson_writeValue serde.floats hplain]
  exact hnames

theorem decodeAccountIndex_encode {accounts : List String} {encoded : String}
    (h : encodeAccountIndex serde accounts = .ok encoded) :
    decodeAccountIndex serde encoded = some accounts := by
  unfold encodeAccountIndex at h
  obtain ⟨_, hjson, h⟩ := Except.bind_eq_ok.mp h
  obtain ⟨_, hsealed, h⟩ := Except.bind_eq_ok.mp h
  obtain rfl := Except.ok.inj h
  have hsize := reject_eq_ok hjson
  unfold decodeAccountIndex
  rw [if_neg (reject_eq_ok hsealed), openText_sealText _ _ (by omega), Option.bind_some,
    accountsFromJson_accountsToJson]

/-- Only the length of the JSON text can keep an index from being written. -/
theorem exists_encodeAccountIndex {accounts : List String}
    (h : (accountsToJson serde accounts).utf8ByteSize ≤ MAX_INDEX_BYTES) :
    ∃ encoded, encodeAccountIndex serde accounts = .ok encoded := by
  have hsealed := utf8ByteSize_sealText_index_le h
  refine ⟨sealText INDEX_ENVELOPE_PREFIX (accountsToJson serde accounts), ?_⟩
  unfold encodeAccountIndex
  exact Except.bind_eq_ok.mpr ⟨(), reject_of_not (by omega) _,
    Except.bind_eq_ok.mpr ⟨(), reject_of_not (by omega) _, rfl⟩⟩

end index

/-- Only the length of its JSON text can keep a session from being written. -/
theorem exists_encodeSession {serde : Serde} {session : SessionData}
    (h : (serde.sessionToJson session).utf8ByteSize ≤ MAX_SESSION_BYTES) :
    ∃ raw, encodeSession serde session = .ok raw := by
  have hsealed := utf8ByteSize_sealText_session_le h
  refine ⟨sealText SESSION_ENVELOPE_PREFIX (serde.sessionToJson session), ?_⟩
  unfold encodeSession
  exact Except.bind_eq_ok.mpr ⟨(), reject_of_not (by omega) _,
    Except.bind_eq_ok.mpr ⟨(), reject_of_not (by omega) _, rfl⟩⟩

end ProtonVpnOmarchy.Agent.SecretStore
