import ProtonVpnOmarchy.Agent.Backend.ConnectParams
import ProtonVpnOmarchy.Agent.JsonSyntax
import ProtonVpnOmarchy.Lib.BitText
import ProtonVpnOmarchy.Lib.Text

/-!
# The secret store

The items that the agent keeps in the desktop keyring: a session for each account, the index of the
accounts, and the mark that the sessions of an older application were imported. Every access to the
keyring can be refused; an operation ends at the first one that is. An agent that stops at an access
leaves the keyring as a refusal of that access does.
-/

namespace ProtonVpnOmarchy.Agent.SecretStore

open Lib Lib.Fallible Splitd Store Backend

def SERVICE : String := "Proton VPN for Omarchy"
def LEGACY_SERVICE : String := "Proton"
def ACCOUNT_INDEX : String := "accounts-v1"
def LEGACY_ACCOUNT_INDEX : String := "proton-sso-accounts"
def LEGACY_IMPORT_MARKER : String := "legacy-import-v1"
def LEGACY_IMPORT_COMPLETE : String := "complete"
def SESSION_ENVELOPE_PREFIX : String := "pvom1:"
def INDEX_ENVELOPE_PREFIX : String := "pvom-index1:"
def MAX_ACCOUNTS : ℕ := 32
def MAX_ACCOUNT_NAME_BYTES : ℕ := 256
def MAX_SESSION_BYTES : ℕ := 1024 * 1024
def MAX_SESSION_ENVELOPE_BYTES : ℕ := 1400 * 1024
def MAX_INDEX_BYTES : ℕ := 16 * 1024
def MAX_INDEX_ENVELOPE_BYTES : ℕ := 24 * 1024

/-! ## The keyring -/

/-- The text of an item, under the service and the user name. -/
abbrev Items := String → String → Option String

inductive Access where
  | read (service username : String)
  | writePrivate (username value : String)
  | deletePrivate (username : String)
  deriving DecidableEq

/-- Which accesses of an operation are refused, by their number. -/
abbrev Refusals := ℕ → Access → Bool

/-- The items, and the accesses of the operation so far with whether each one was answered. -/
structure Keyring where
  items : Items
  log : List (Access × Bool) := []

/-- `keyring::Error` -/
inductive KeyringError where
  | noEntry
  | refused

abbrev KeyringOp := Fallible BackendError Keyring

namespace Keyring

/-- An item is replaced. -/
def set (keyring : Keyring) (username : String) (value : Option String) : Keyring :=
  { keyring with
    items := Function.update keyring.items SERVICE
      (Function.update (keyring.items SERVICE) username value) }

def note (keyring : Keyring) (access : Access) (answered : Bool) : Keyring :=
  { keyring with log := keyring.log ++ [(access, answered)] }

end Keyring

section accesses

variable (refusals : Refusals)

/-- An access that is refused, or has an effect on the keyring. -/
def perform {α : Type} (access : Access) (effect : Keyring → Except KeyringError α × Keyring) :
    KeyringOp (Except KeyringError α) := ofFun fun keyring =>
  if refusals keyring.log.length access then (.ok (.error .refused), keyring.note access false)
  else
    let (result, keyring') := effect keyring
    (.ok result, keyring'.note access true)

/-- Source: `secret_store.rs` `SecretService::read` -/
def read (service username : String) : KeyringOp (Except KeyringError String) :=
  perform refusals (.read service username) fun keyring =>
    match keyring.items service username with
    | some value => (.ok value, keyring)
    | none => (.error .noEntry, keyring)

/-- Source: `secret_store.rs` `SecretService::write_private` -/
def writePrivate (username value : String) : KeyringOp (Except KeyringError Unit) :=
  perform refusals (.writePrivate username value) fun keyring =>
    (.ok (), keyring.set username (some value))

/-- Source: `secret_store.rs` `SecretService::delete_private` -/
def deletePrivate (username : String) : KeyringOp (Except KeyringError Unit) :=
  perform refusals (.deletePrivate username) fun keyring =>
    match keyring.items SERVICE username with
    | some _ => (.ok (), keyring.set username none)
    | none => (.error .noEntry, keyring)

end accesses

/-! ## Accounts -/

/-- Source: `secret_store.rs` `valid_account_name` -/
def validAccountName (accountName : String) : Bool :=
  trim accountName ≠ "" && accountName.utf8ByteSize ≤ MAX_ACCOUNT_NAME_BYTES &&
    !accountName.toList.any isControl

def sessionInvalid (message : String) : BackendError := .new "session_invalid" message

/-- Source: `secret_store.rs` `validate_account_name` -/
def validateAccountName (accountName : String) : NativeResult Unit :=
  reject (¬ validAccountName accountName) (sessionInvalid
    "A Proton account name must contain between 1 and 256 bytes and no control characters")

/-- The first occurrences of valid names, so many that the index holds.
Source: `secret_store.rs` `normalized_accounts` -/
def normalizedAccounts (accounts : List String) : List String :=
  (firstOccurrences (accounts.filter validAccountName)).take MAX_ACCOUNTS

/-- `BASE32_NOPAD` -/
def BASE32_NOPAD : Alphabet 5 where
  chars := "ABCDEFGHIJKLMNOPQRSTUVWXYZ234567".toList
  length_chars := by decide
  nodup := by decide

/-- `URL_SAFE_NO_PAD` -/
def URL_SAFE_NO_PAD : Alphabet 6 where
  chars := "ABCDEFGHIJKLMNOPQRSTUVWXYZabcdefghijklmnopqrstuvwxyz0123456789-_".toList
  length_chars := by decide
  nodup := by decide

/-- The bytes of a text. -/
def bytesOf (text : String) : List (BitVec 8) := (utf8 text).map UInt8.toBitVec

/-- `String::from_utf8` -/
def textOf (bytes : List (BitVec 8)) : Option String :=
  let text := lossy (bytes.map UInt8.ofBitVec)
  if bytesOf text = bytes then some text else none

/-- Source: `secret_store.rs` `private_account_key` -/
def privateAccountKey (accountName : String) : String :=
  "account-v1-" ++ toAsciiLowercase (.ofList (BASE32_NOPAD.encode (bytesOf accountName)))

/-- Source: `secret_store.rs` `legacy_account_key` -/
def legacyAccountKey (accountName : String) : String :=
  "proton-sso-account-" ++ toAsciiLowercase (.ofList (BASE32_NOPAD.encode (bytesOf accountName)))

/-! ## Sessions -/

/-- Source: `models.rs` `SessionData`; `rest` is what the store does not look at -/
structure SessionData where
  uid : String
  accessToken : String
  refreshToken : String
  accountName : String
  rest : Value

/-- Source: `models.rs` `SessionData::is_authenticated` -/
def SessionData.isAuthenticated (session : SessionData) : Bool :=
  session.uid ≠ "" && session.accessToken ≠ "" && session.refreshToken ≠ "" &&
    session.accountName ≠ ""

/-- The JSON text of sessions, and of numbers that are no integers. -/
structure Serde where
  floats : FloatText
  sessionToJson : SessionData → String
  sessionFromJson : String → Option SessionData

/-- The envelope of a text: a prefix and Base64. -/
def sealText (fieldPrefix text : String) : String :=
  fieldPrefix ++ .ofList (URL_SAFE_NO_PAD.encode (bytesOf text))

/-- The text in an envelope. -/
def openText (fieldPrefix raw : String) (maxBytes : ℕ) : Option String := do
  let encoded ← raw.toList.dropPrefix? fieldPrefix.toList
  let decoded ← URL_SAFE_NO_PAD.decode 8 encoded
  if maxBytes < decoded.length then none else textOf decoded

section envelopes

variable (serde : Serde)

/-- Source: `secret_store.rs` `encode_session` -/
def encodeSession (session : SessionData) : NativeResult String := do
  let json := serde.sessionToJson session
  reject (MAX_SESSION_BYTES < json.utf8ByteSize)
    (sessionInvalid "The Proton session exceeds the storage size limit")
  let encoded := sealText SESSION_ENVELOPE_PREFIX json
  reject (MAX_SESSION_ENVELOPE_BYTES < encoded.utf8ByteSize)
    (sessionInvalid "The encoded Proton session exceeds the storage size limit")
  return encoded

/-- Source: `secret_store.rs` `decode_session` -/
def decodeSession (raw : String) : Option SessionData :=
  if MAX_SESSION_ENVELOPE_BYTES < raw.utf8ByteSize then none
  else (openText SESSION_ENVELOPE_PREFIX raw MAX_SESSION_BYTES).bind serde.sessionFromJson

/-- The JSON text of account names. -/
def accountsToJson (accounts : List String) : String :=
  .ofList (writeValue serde.floats (.array (accounts.map .string)))

/-- Account names from JSON text. -/
def accountsFromJson (json : String) : Option (List String) := do
  let values ← (← readJson serde.floats json.toList).asArray
  values.mapM Value.asStr

/-- Source: `secret_store.rs` `encode_account_index` -/
def encodeAccountIndex (accounts : List String) : NativeResult String := do
  let json := accountsToJson serde accounts
  reject (MAX_INDEX_BYTES < json.utf8ByteSize)
    (sessionInvalid "The Proton account index exceeds the storage size limit")
  let encoded := sealText INDEX_ENVELOPE_PREFIX json
  reject (MAX_INDEX_ENVELOPE_BYTES < encoded.utf8ByteSize)
    (sessionInvalid "The encoded Proton account index exceeds the storage size limit")
  return encoded

/-- Source: `secret_store.rs` `decode_account_index` -/
def decodeAccountIndex (raw : String) : Option (List String) :=
  if MAX_INDEX_ENVELOPE_BYTES < raw.utf8ByteSize then none
  else (openText INDEX_ENVELOPE_PREFIX raw MAX_INDEX_BYTES).bind (accountsFromJson serde)

/-- Source: `secret_store.rs` `escape_legacy_control_characters` -/
def escapeLegacyControlCharacters (raw : String) : String :=
  .ofList (raw.toList.flatMap fun c => if c.toNat < 0x20 then escapeChar c else [c])

/-- Source: `secret_store.rs` `decode_legacy_session` -/
def decodeLegacySession (raw : String) : Option SessionData :=
  if MAX_SESSION_BYTES < raw.utf8ByteSize then none
  else (serde.sessionFromJson raw).or (serde.sessionFromJson (escapeLegacyControlCharacters raw))

end envelopes

/-! ## Operations -/

/-- Source: `secret_store.rs` `keyring_error` -/
def keyringError (action : String) : BackendError :=
  { code := "secret_service_error"
    message := "Unable to " ++ action ++ " using the desktop Secret Service"
    retryable := true }

/-- A result that is no stateful computation. -/
def ofResult {α : Type} (result : NativeResult α) : KeyringOp α := ofFun fun keyring =>
  (result, keyring)

/-- A write whose failure ends the operation. -/
def orFail (action : String) (write : KeyringOp (Except KeyringError Unit)) : KeyringOp Unit := do
  match ← write with
  | .ok () => return ()
  | .error _ => throw (keyringError action)

section operations

variable (serde : Serde) (refusals : Refusals)

/-- Source: `secret_store.rs` `load_private_accounts` -/
def loadPrivateAccounts : KeyringOp (List String) := do
  match ← read refusals SERVICE ACCOUNT_INDEX with
  | .ok raw => return (decodeAccountIndex serde raw).getD []
  | .error .noEntry => return []
  | .error .refused => throw (keyringError "read private account index")

/-- Source: `secret_store.rs` `store_private_accounts` -/
def storePrivateAccounts (encoded : String) : KeyringOp Unit :=
  orFail "store private account index" (writePrivate refusals ACCOUNT_INDEX encoded)

/-- An index with the accounts that it has already is not written. -/
def storeChangedAccounts (accounts previous : List String) (encoded : String) : KeyringOp Unit :=
  if accounts ≠ previous then storePrivateAccounts refusals encoded else pure ()

/-- Source: `secret_store.rs` `legacy_import_complete` -/
def legacyImportComplete : KeyringOp Bool := do
  match ← read refusals SERVICE LEGACY_IMPORT_MARKER with
  | .ok value => return value = LEGACY_IMPORT_COMPLETE
  | .error .noEntry => return false
  | .error .refused => throw (keyringError "read legacy import marker")

/-- Source: `secret_store.rs` `mark_legacy_import_complete` -/
def markLegacyImportComplete : KeyringOp Unit := do
  if ← legacyImportComplete refusals then return ()
  else
    orFail "store legacy import marker"
      (writePrivate refusals LEGACY_IMPORT_MARKER LEGACY_IMPORT_COMPLETE)

/-- The session of an item, if it is one of the account. -/
def ownSession (account : String) (session : Option SessionData) : Option SessionData :=
  session.filter fun session => session.accountName = account && session.isAuthenticated

/-- The loop over the accounts of `load_private_default`. -/
def firstPrivateSession : List String → KeyringOp (Option SessionData)
  | [] => return none
  | account :: accounts => do
    match ← read refusals SERVICE (privateAccountKey account) with
    | .ok raw =>
      match ownSession account (decodeSession serde raw) with
      | some session => return some session
      | none => firstPrivateSession accounts
    | .error .noEntry => firstPrivateSession accounts
    | .error .refused => throw (keyringError "read Proton VPN for Omarchy session")

/-- Source: `secret_store.rs` `load_private_default` -/
def loadPrivateDefault : KeyringOp (Option SessionData) := do
  let accounts ← loadPrivateAccounts serde refusals
  firstPrivateSession serde refusals (normalizedAccounts accounts)

/-- The loop over the accounts of `load_legacy_default`. -/
def firstLegacySession : List String → KeyringOp (Option SessionData)
  | [] => return none
  | account :: accounts => do
    match ← read refusals LEGACY_SERVICE (legacyAccountKey account) with
    | .ok raw =>
      match ownSession account (decodeLegacySession serde raw) with
      | some session => return some session
      | none => firstLegacySession accounts
    | .error .noEntry => firstLegacySession accounts
    | .error .refused => throw (keyringError "read legacy Proton session")

/-- Source: `secret_store.rs` `load_legacy_default` -/
def loadLegacyDefault : KeyringOp (Option SessionData) := do
  match ← read refusals LEGACY_SERVICE LEGACY_ACCOUNT_INDEX with
  | .ok raw =>
    if MAX_INDEX_BYTES < raw.utf8ByteSize then return none
    firstLegacySession serde refusals
      (normalizedAccounts ((accountsFromJson serde raw).getD []))
  | .error .noEntry => return none
  | .error .refused => throw (keyringError "read legacy Proton account index")

/-- Source: `secret_store.rs` `save` -/
def save (session : SessionData) : KeyringOp Unit := do
  ofResult (validateAccountName session.accountName)
  ofResult (reject (¬ session.isAuthenticated)
    (sessionInvalid "The Proton session is missing authentication fields"))
  let previous ← loadPrivateAccounts serde refusals
  let accounts := normalizedAccounts (session.accountName :: previous)
  let raw ← ofResult (encodeSession serde session)
  let index ← ofResult (encodeAccountIndex serde accounts)
  orFail "store Proton VPN for Omarchy session"
    (writePrivate refusals (privateAccountKey session.accountName) raw)
  storeChangedAccounts refusals accounts previous index
  markLegacyImportComplete refusals

/-- The session of an account is removed; there need not be one. -/
def removeSession (accountName : String) : KeyringOp Unit := do
  match ← deletePrivate refusals (privateAccountKey accountName) with
  | .ok () => return ()
  | .error .noEntry => return ()
  | .error .refused => throw (keyringError "delete Proton VPN for Omarchy session")

/-- Source: `secret_store.rs` `delete` -/
def delete (accountName : String) : KeyringOp Unit := do
  ofResult (validateAccountName accountName)
  let previous ← loadPrivateAccounts serde refusals
  let accounts := normalizedAccounts (previous.filter (· ≠ accountName))
  let index ← ofResult (encodeAccountIndex serde accounts)
  markLegacyImportComplete refusals
  removeSession refusals accountName
  storeChangedAccounts refusals accounts previous index

/-- Source: `secret_store.rs` `load_default` -/
def loadDefault : KeyringOp (Option SessionData) := do
  match ← loadPrivateDefault serde refusals with
  | some session => return some session
  | none =>
    if ← legacyImportComplete refusals then return none
    match ← loadLegacyDefault serde refusals with
    | none => return none
    | some session =>
      save serde refusals session
      return some session

end operations

end ProtonVpnOmarchy.Agent.SecretStore
