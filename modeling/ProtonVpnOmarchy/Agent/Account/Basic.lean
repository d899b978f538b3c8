import ProtonVpnOmarchy.Agent.SecretStore.Basic

/-!
# The account and its tokens

The operations that hold `auth_write`: those that refresh the tokens of the session, that sign in,
that restore a session and that sign out. They exclude each other, so that a run is a sequence of
them. What the API, the clocks and the network answer is left open, as is what is made of an answer;
the keyring is the one of the secret store. Events are left out.
-/

namespace ProtonVpnOmarchy.Agent.Account

open Lib Lib.Fallible Splitd Store Backend SecretStore

/-! ## Sessions -/

structure Tokens where
  accessToken : String
  refreshToken : String
  deriving DecidableEq

/-- Source: `api.rs` `ApiSession`, without what no operation here reads -/
structure ApiSession where
  uid : String
  accessToken : String
  refreshToken : String
  scopes : List String
  accountName : String

def ApiSession.tokens (auth : ApiSession) : Tokens := ⟨auth.accessToken, auth.refreshToken⟩

/-- Source: `api.rs` `ApiSession::needs_two_factor` -/
def ApiSession.needsTwoFactor (auth : ApiSession) : Bool := auth.scopes.any (· = "twofactor")

/-- A field of an object is replaced. -/
def setField (key : String) (value : Value) : Value → Value
  | .object fields => .object (Map.insert fields key value)
  | other => other

/-- The texts of an array. -/
def textsOf (value : Value) : List String := (value.asArray.getD []).filterMap Value.asStr

section sessions

def tokensOf (session : SessionData) : Tokens := ⟨session.accessToken, session.refreshToken⟩

/-- Source: `session_bootstrap.rs` `stored_api_session` -/
def storedApiSession (session : SessionData) : ApiSession where
  uid := session.uid
  accessToken := session.accessToken
  refreshToken := session.refreshToken
  scopes := ((session.rest.get "Scopes").map textsOf).getD []
  accountName := session.accountName

/-- The session with the tokens and the scopes of an answer. -/
def withTokens (session : SessionData) (auth : ApiSession) : SessionData :=
  { session with
    accessToken := auth.accessToken
    refreshToken := auth.refreshToken
    rest := setField "Scopes" (.array (auth.scopes.map .string)) session.rest }

/-- The session with a field of its `vpn` replaced. -/
def withVpn (key : String) (value : Value) (session : SessionData) : SessionData :=
  { session with
    rest := setField "vpn" (setField key value ((session.rest.get "vpn").getD .null)) session.rest }

/-- A time of the certificate of a session. -/
def certificateTime (key : String) (session : SessionData) : ℕ :=
  ((do (← (← (← session.rest.get "vpn").get "certificate").get key).asU64).map UInt64.toNat).getD 0

end sessions

/-! ## The agent -/

/-- Source: `mod.rs` `RuntimeState`, what the operations on the account use of it -/
structure RuntimeState where
  session : Option SessionData
  sessionRestorePending : Bool
  catalog : Option Value
  clientConfig : Option Value
  remoteRefreshAfter : Option ℕ
  locationRetryAfter : Option ℕ
  locationIdentity : Option String
  physicalLocationKnown : Bool

/-- What an operation can tell of its refreshes and of its saves to the keyring. -/
inductive Exchange where
  /-- A refresh was answered with all the required fields. -/
  | refreshed (tokens : Tokens)
  | saved (session : SessionData) (done : Bool)

/-- The agent and the items in the keyring; `calls` numbers what the operation asks, and `log` holds
its refreshes and saves. -/
structure World where
  state : RuntimeState
  pendingAuth : Option ApiSession
  items : Items
  /-- The tokens of the last refresh of the session that was answered. -/
  rotated : Option Tokens
  calls : ℕ
  log : List Exchange

abbrev Op := Fallible BackendError World

/-- What the operations ask the API. -/
inductive Request where
  | refresh (auth : ApiSession)
  | get (endpoint : String) (auth : ApiSession)
  | certificate (session : SessionData)

/-- What an operation finds outside, by the number of the question. -/
structure Outside where
  api : ℕ → Request → NativeResult Value
  /-- `ProtonApi::authenticate`, `authenticate_sso` -/
  authenticate : ℕ → NativeResult ApiSession
  /-- The scopes after `/auth/2fa` -/
  submit : ℕ → ApiSession → NativeResult (List String)
  /-- `session_bootstrap::fetch`: what a session has besides its tokens, catalog and configuration -/
  bootstrap : ℕ → ApiSession → NativeResult (Value × Value × Value)
  securityKey : ℕ → NativeResult Unit
  keyring : ℕ → Refusals
  saveValue : ℕ → NativeResult Unit
  unixSeconds : ℕ → NativeResult ℕ
  instant : ℕ → ℕ
  /-- The physical network, and whether the location can be asked for -/
  physical : ℕ → NativeResult (String × Bool)
  unchanged : ℕ → NativeResult Bool
  disconnect : ℕ → NativeResult Unit

/-- What is made of the answers of the API. -/
structure Readers where
  serde : Serde
  catalog : Value → NativeResult Value
  hasEndpointSignatures : Value → Bool
  catalogExpires : Value → ℕ → Bool
  clientConfig : Value → NativeResult Value
  clientConfigFresh : Value → ℕ → Bool
  certificate : Value → NativeResult Value
  location : Value → NativeResult Value

/-! ## Questions -/

/-- A question that is answered. -/
def ask {α : Type} (answer : ℕ → α) : Op α := ofFun fun world =>
  (.ok (answer world.calls), { world with calls := world.calls + 1 })

/-- A question whose answer can be a failure. -/
def call {α : Type} (answer : ℕ → NativeResult α) : Op α := ofFun fun world =>
  (answer world.calls, { world with calls := world.calls + 1 })

/-- The outcome of a part that can fail. -/
def attempt {α : Type} (m : Op α) : Op (NativeResult α) := ofFun fun world =>
  let (outcome, world') := m.exec world
  (.ok outcome, world')

def readState : Op RuntimeState := ofFun fun world => (.ok world.state, world)

/-- A change of the state that leaves the session. -/
def writeState (change : RuntimeState → RuntimeState) : Op Unit := ofFun fun world =>
  (.ok (), { world with
    state := { change world.state with
      session := world.state.session
      sessionRestorePending := world.state.sessionRestorePending } })

def ofOutcome {α : Type} (outcome : NativeResult α) : Op α := ofFun fun world => (outcome, world)

def setPendingAuth (pending : Option ApiSession) : Op Unit := ofFun fun world =>
  (.ok (), { world with pendingAuth := pending })

def takePendingAuth : Op (Option ApiSession) := ofFun fun world =>
  (.ok world.pendingAuth, { world with pendingAuth := none })

def ensureSessionRestored (state : RuntimeState) : NativeResult Unit :=
  reject (state.sessionRestorePending)
    { code := "keyring_unavailable"
      message := "Waiting for the desktop keyring to restore the saved Proton session"
      retryable := true }

/-- Source: `mod.rs` `require_session`, without the tier -/
def requireSession : Op SessionData := do
  let state ← readState
  ofOutcome (ensureSessionRestored state)
  match state.session with
  | some session => return session
  | none => throw (.new "not_authenticated" "Sign in to Proton before using VPN controls")

def SIGNED_CATALOG_ENDPOINT : String :=
  "/vpn/v1/logicals?SecureCoreFilter=all&WithState=true&SignServer=Server.EntryIP,Server.Label"

/-! ## The tokens -/

/-- Source: `api.rs` `invalid_api_response` -/
def invalidApiResponse (field : String) : BackendError :=
  .new "api_response_invalid" ("Proton API response is missing " ++ field)

/-- Source: `api.rs` `required_string` -/
def requiredString (value : Value) (key : String) : NativeResult String :=
  match ((value.get key).bind Value.asStr).filter (· ≠ "") with
  | some text => .ok text
  | none => .error (invalidApiResponse key)

/-- Source: `api.rs` `string_array` -/
def stringArray (value : Value) (key : String) : NativeResult (List String) :=
  match (value.get key).bind Value.asArray with
  | some values => .ok (values.filterMap Value.asStr)
  | none => .error (invalidApiResponse key)

/-- The session with the tokens and scopes of an answered refresh. -/
def refreshedSession (auth : ApiSession) (response : Value) : NativeResult ApiSession := do
  let accessToken ← requiredString response "AccessToken"
  let refreshToken ← requiredString response "RefreshToken"
  let scopes ← stringArray response "Scopes"
  return { auth with accessToken, refreshToken, scopes }

def noteRefreshed (tokens : Tokens) : Op Unit := ofFun fun world =>
  (.ok (), { world with rotated := some tokens, log := world.log ++ [.refreshed tokens] })

section operations

variable (readers : Readers) (outside : Outside)

/-- Source: `api.rs` `ProtonApi::refresh` -/
def refresh (auth : ApiSession) : Op ApiSession := do
  let response ← call fun n => outside.api n (.refresh auth)
  let auth' ← ofOutcome (refreshedSession auth response)
  noteRefreshed auth'.tokens
  return auth'

/-- `SecretStore::save` -/
def saveSession (session : SessionData) : Op Unit := ofFun fun world =>
  let (outcome, keyring) :=
    (save readers.serde (outside.keyring world.calls) session).exec { items := world.items }
  (outcome, { world with
    items := keyring.items
    calls := world.calls + 1
    log := world.log ++ [.saved session outcome.isOk] })

/-- A session that was saved becomes the one in memory. -/
def publishSession (session : SessionData) : Op Unit := ofFun fun world =>
  (.ok (), { world with state := { world.state with session := some session } })

/-- Source: `mod.rs` `persist_session_data` -/
def persistSessionData (session : SessionData) : Op Unit := do
  saveSession readers outside session
  publishSession session

/-- Source: `mod.rs` `refresh_tokens` -/
def refreshTokens : Op Unit := do
  match (← readState).session with
  | none => return ()
  | some stored =>
    let auth ← refresh outside (storedApiSession stored)
    persistSessionData readers outside (withTokens stored auth)

/-- The rest of `refresh_certificate_if_needed`, with the new tokens stored. -/
def renewCertificate (required : Bool) (stored : SessionData) : Op Bool := do
  let response ← attempt (call fun n => outside.api n (.certificate stored))
  match response.bind readers.certificate with
  | .ok certificate =>
    persistSessionData readers outside (withVpn "certificate" certificate stored)
    return true
  | .error error => if required then throw error else return false

/-- Source: `mod.rs` `refresh_certificate_if_needed` -/
def refreshCertificateIfNeeded : Op Bool := do
  match (← readState).session with
  | none => return false
  | some stored =>
    let now ← call outside.unixSeconds
    let required : Bool := certificateTime "ExpirationTime" stored ≤ now + 60
    if !required && now < certificateTime "RefreshTime" stored then return false
    else
      match ← attempt (refresh outside (storedApiSession stored)) with
      | .error error => if required then throw error else return false
      | .ok auth =>
        persistSessionData readers outside (withTokens stored auth)
        renewCertificate readers outside required (withTokens stored auth)

/-- A refresh for a request that the API has turned away, and the request again. -/
def getAgain (endpoint : String) (session : SessionData) (auth : ApiSession) : Op Value := do
  persistSessionData readers outside (withTokens session auth)
  call fun n => outside.api n (.get endpoint auth)

/-- The answer, and the session with the tokens that it may have been given.
Source: `refresh.rs` `get_refreshing_session` -/
def getRefreshingSession (endpoint : String) (session : SessionData) :
    Op (NativeResult Value × SessionData) := do
  match ← attempt (call fun n => outside.api n (.get endpoint (storedApiSession session))) with
  | .ok response => return (.ok response, session)
  | .error error =>
    if error.code ≠ "authentication_expired" then return (.error error, session)
    else
      match ← attempt (refresh outside (storedApiSession session)) with
      | .error error => return (.error error, session)
      | .ok auth =>
        let answer ← attempt (getAgain readers outside endpoint session auth)
        return (answer, withTokens session auth)

/-- Source: `refresh.rs` `save_client_config` -/
def saveClientConfig (config : Value) : Op Unit := do
  call outside.saveValue
  writeState fun state => { state with clientConfig := some config }

/-- Source: `refresh.rs` `ensure_client_config` -/
def ensureClientConfig : Op Unit := do
  let session ← requireSession
  let now ← call outside.unixSeconds
  let cached := (← readState).clientConfig
  if cached.any (readers.clientConfigFresh · now) then return ()
  else
    let (response, _) ← getRefreshingSession readers outside "/vpn/v2/clientconfig" session
    match response.bind readers.clientConfig with
    | .ok config => saveClientConfig outside config
    | .error error => if cached.isSome then return () else throw error

/-- The catalog that was fetched becomes the cached one. -/
def saveCatalog (catalog : Value) : Op Unit := do
  call outside.saveValue
  writeState fun state => { state with catalog := some catalog }

/-- Source: `session_bootstrap.rs` `fetch_catalog` -/
def fetchCatalog (auth : ApiSession) : Op Value := do
  let response ← call fun n => outside.api n (.get SIGNED_CATALOG_ENDPOINT auth)
  ofOutcome (readers.catalog response)

/-- The end of `ensure_signed_catalog`, with the answer to its first request. -/
def refetchCatalog (stored : SessionData) (error : BackendError) : Op Value := do
  if error.code = "authentication_expired" then
    let auth ← refresh outside (storedApiSession stored)
    persistSessionData readers outside (withTokens stored auth)
    fetchCatalog readers outside auth
  else throw error

/-- Source: `mod.rs` `ensure_signed_catalog` -/
def ensureSignedCatalog : Op Unit := do
  let stored ← requireSession
  let now ← call outside.unixSeconds
  let cached := (← readState).catalog
  let signed := cached.any readers.hasEndpointSignatures
  if signed && cached.any (readers.catalogExpires · now) then return ()
  else
    match ← attempt (fetchCatalog readers outside (storedApiSession stored)) with
    | .ok catalog => saveCatalog outside catalog
    | .error error =>
      if signed then return ()
      else
        let catalog ← refetchCatalog readers outside stored error
        saveCatalog outside catalog

end operations

/-! ## Remote data -/

def ACCOUNT_REFRESH_INTERVAL : ℕ := 15 * 60
def FAILED_REFRESH_INTERVAL : ℕ := 60

/-- Source: `session_bootstrap.rs` `without_api_code` -/
def withoutApiCode : Value → Value
  | .object fields => .object (Map.remove fields "Code")
  | other => other

/-- Source: `session_bootstrap.rs` `account_info` -/
def accountInfo (value : Value) : NativeResult Value :=
  match ((value.get "VPN").bind (·.get "MaxTier")).bind Value.asU64 with
  | some tier =>
    if tier.toNat < 256 then .ok (withoutApiCode value)
    else .error (.new "api_response_invalid" "Proton VPN account response is missing MaxTier")
  | none => .error (.new "api_response_invalid" "Proton VPN account response is missing MaxTier")

/-- What `refresh_remote_data` has done so far. -/
structure Progress where
  session : SessionData
  accountUpdated : Bool := false
  configUpdated : Bool := false
  locationUpdated : Bool := false
  firstError : Option BackendError := none

/-- The first error is kept. -/
def Progress.fail (progress : Progress) (error : BackendError) : Progress :=
  { progress with firstError := progress.firstError.or (some error) }

section operations

variable (readers : Readers) (outside : Outside)

/-- The part of `refresh_remote_data` that asks for the account. -/
def remoteAccount (now : ℕ) (progress : Progress) : Op Progress := do
  let (response, session) ← getRefreshingSession readers outside "/vpn/v2" progress.session
  match response.bind accountInfo with
  | .ok info =>
    let session := withVpn "vpninfo" info session
    persistSessionData readers outside session
    writeState fun state =>
      { state with remoteRefreshAfter := some (now + ACCOUNT_REFRESH_INTERVAL) }
    return { progress with session, accountUpdated := true }
  | .error error => return { progress with session }.fail error

/-- The part of `refresh_remote_data` that asks for the client configuration. -/
def remoteConfig (progress : Progress) : Op Progress := do
  let (response, session) ←
    getRefreshingSession readers outside "/vpn/v2/clientconfig" progress.session
  match response.bind readers.clientConfig with
  | .ok config =>
    saveClientConfig outside config
    return { progress with session, configUpdated := true }
  | .error error => return { progress with session }.fail error

/-- A location that was asked for is stored if the network is still the same. -/
def storeLocation (identity : String) (location : Value) (progress : Progress) : Op Progress := do
  if ← call outside.unchanged then
    persistSessionData readers outside (withVpn "location" location progress.session)
    writeState fun state =>
      { state with locationIdentity := some identity, physicalLocationKnown := true }
    return { progress with locationUpdated := true }
  else return progress

/-- Whether `refresh_remote_data` asks for the location. -/
def shouldRefresh (force refreshAccount canProbe : Bool) (identity : String) (now : ℕ)
    (state : RuntimeState) : Bool :=
  canProbe && (force ||
    ((!state.physicalLocationKnown || state.locationIdentity ≠ some identity || refreshAccount) &&
      state.locationRetryAfter.all (· ≤ now)))

/-- The part of `refresh_remote_data` that asks for the location. -/
def remoteLocation (force refreshAccount canProbe : Bool) (identity : String) (now : ℕ)
    (progress : Progress) : Op Progress := do
  writeState fun state =>
    { state with physicalLocationKnown :=
        state.physicalLocationKnown && state.locationIdentity = some identity }
  if !shouldRefresh force refreshAccount canProbe identity now (← readState) then return progress
  else
    writeState fun state =>
      { state with locationRetryAfter := some (now + FAILED_REFRESH_INTERVAL) }
    let (response, session) ←
      getRefreshingSession readers outside "/vpn/v1/location" progress.session
    match response.bind readers.location with
    | .ok location => storeLocation readers outside identity location { progress with session }
    | .error error => return { progress with session }.fail error

/-- The account and the client configuration, if it is time to ask for them. -/
def remoteAccountData (refreshAccount : Bool) (now : ℕ) (progress : Progress) : Op Progress := do
  if refreshAccount then
    writeState fun state =>
      { state with remoteRefreshAfter := some (now + FAILED_REFRESH_INTERVAL) }
    let progress ← remoteAccount readers outside now progress
    remoteConfig readers outside progress
  else return progress

/-- The end of `refresh_remote_data`: an error is returned if nothing was updated. -/
def Progress.outcome (force : Bool) (progress : Progress) : NativeResult Unit :=
  match progress.firstError with
  | some error =>
    if (force && !progress.accountUpdated) ||
        (!progress.accountUpdated && !progress.configUpdated && !progress.locationUpdated) then
      .error error
    else .ok ()
  | none => .ok ()

/-- Without `force` the operation is left out if `auth_write` is taken.
Source: `refresh.rs` `refresh_remote_data` -/
def refreshRemoteData (force taken : Bool) : Op Unit := do
  if !force && taken then return ()
  else
    let session ← requireSession
    let now ← ask outside.instant
    let refreshAccount := force || (← readState).remoteRefreshAfter.all (· ≤ now)
    let progress ← remoteAccountData readers outside refreshAccount now { session }
    let (identity, canProbe) ← call outside.physical
    if identity = "" then ofOutcome (progress.outcome force)
    else
      let progress ←
        remoteLocation readers outside force refreshAccount canProbe identity now progress
      ofOutcome (progress.outcome force)

/-! ## Signing in and out -/

/-- Source: `mod.rs` `login_error` -/
def loginError (stage : String) (error : BackendError) : BackendError :=
  let code :=
    if error.code = "human_verification_required" ∨ error.code = "sso_required" then error.code
    else if stage = "two_factor" ∧ error.code = "authentication_expired" then
      "two_factor_session_expired"
    else if stage = "two_factor" ∧ error.code = "authentication_failed" then "two_factor_failed"
    else if stage = "credentials" ∧ error.code = "authentication_failed" then "login_failed"
    else error.code
  let details := (error.details.bind Value.asObject).getD []
  { error with
    code := code
    details := some (.object (Map.insert details "auth_stage" (.string stage)))
    retryable := error.retryable || code = "login_failed" || code = "two_factor_failed" }

/-- A session that was signed in becomes the one in memory; none of its refreshes was answered. -/
def publishLogin (session : SessionData) (catalog clientConfig : Value) (now : ℕ) : Op Unit :=
  ofFun fun world => (.ok (), { world with
    rotated := none
    state := { world.state with
      session := some session
      catalog := some catalog
      clientConfig := some clientConfig
      remoteRefreshAfter := some (now + ACCOUNT_REFRESH_INTERVAL)
      physicalLocationKnown := false } })

/-- Source: `mod.rs` `finalize_auth` -/
def finalizeAuth (auth : ApiSession) : Op Unit := do
  match ← attempt (call fun n => outside.bootstrap n auth) with
  | .error error => throw (loginError "account" error)
  | .ok (rest, catalog, clientConfig) =>
    let session : SessionData :=
      { uid := auth.uid, accessToken := auth.accessToken, refreshToken := auth.refreshToken
        accountName := auth.accountName, rest }
    call outside.saveValue
    saveSession readers outside session
    let now ← ask outside.instant
    publishLogin session catalog clientConfig now
    setPendingAuth none

/-- Tokens that the API has issued are asked for a second factor, or are used. -/
def useAuth (auth : ApiSession) : Op Unit := do
  if auth.needsTwoFactor then setPendingAuth (some auth)
  else finalizeAuth readers outside auth

/-- A login that failed. -/
def abandonLogin (stage : String) (error : BackendError) : Op Unit := do
  setPendingAuth none
  throw (loginError stage error)

/-- `params` says whether the parameters are well formed. Source: `mod.rs` `account_login` -/
def accountLogin (params : NativeResult Unit) : Op Unit := do
  let state ← readState
  ofOutcome (ensureSessionRestored state)
  ofOutcome params
  if state.session.isSome then return ()
  else
    match ← attempt (call outside.authenticate) with
    | .ok auth => useAuth readers outside auth
    | .error error =>
      if error.code = "sso_required" then
        match ← attempt (call outside.authenticate) with
        | .ok auth => useAuth readers outside auth
        | .error error => abandonLogin "sso" error
      else abandonLogin "credentials" error

/-- The answer to a second factor. -/
def submitFactor (stage : String) (rejected : BackendError) (auth : ApiSession) : Op Unit := do
  match ← attempt (call fun n => outside.submit n auth) with
  | .error error =>
    if error.code ≠ "authentication_expired" then setPendingAuth (some auth)
    throw (loginError stage error)
  | .ok scopes =>
    let auth := { auth with scopes }
    if auth.needsTwoFactor then
      setPendingAuth (some auth)
      throw rejected
    else finalizeAuth readers outside auth

/-- Source: `mod.rs` `account_submit_2fa` -/
def accountSubmit2fa (params : NativeResult Unit) : Op Unit := do
  ofOutcome params
  match ← takePendingAuth with
  | none =>
    throw (.new "two_factor_not_required"
      "The current Proton session is not waiting for two-factor authentication")
  | some auth =>
    submitFactor readers outside "two_factor"
      { code := "two_factor_failed", message := "The two-factor code was not accepted"
        retryable := true } auth

/-- Source: `mod.rs` `account_authenticate_fido2` -/
def accountAuthenticateFido2 : Op Unit := do
  call outside.securityKey
  match ← takePendingAuth with
  | none =>
    throw (.new "authentication_expired" "The pending Proton authentication session expired")
  | some auth =>
    submitFactor readers outside "security_key"
      { code := "fido2_rejected", message := "The security key was not accepted"
        retryable := true } auth

/-- The keyring is asked for the saved session; a session that it has is published.
Source: `mod.rs` `restore_session`, `restore_saved_session` -/
def restoreSession : Op Unit := ofFun fun world =>
  if !world.state.sessionRestorePending then (.ok (), world)
  else
    let (outcome, keyring) :=
      (loadDefault readers.serde (outside.keyring world.calls)).exec { items := world.items }
    let world := { world with items := keyring.items, calls := world.calls + 1 }
    match outcome with
    | .error error => (.error error, world)
    | .ok session => (.ok (), { world with
        state := { world.state with session, sessionRestorePending := false } })

/-- `SecretStore::delete`, if there is a session -/
def deleteStored (stored : Option SessionData) : Op Unit := ofFun fun world =>
  match stored with
  | none => (.ok (), world)
  | some session =>
    let (outcome, keyring) :=
      (delete readers.serde (outside.keyring world.calls) session.accountName).exec
        { items := world.items }
    (outcome, { world with items := keyring.items, calls := world.calls + 1 })

def clearState : Op Unit := ofFun fun world => (.ok (), { world with
  state := { world.state with
    session := none
    catalog := none
    clientConfig := none
    physicalLocationKnown := false
    locationIdentity := none
    locationRetryAfter := none
    remoteRefreshAfter := none } })

/-- The revocation at the API cannot fail the operation, and is left out.
Source: `mod.rs` `account_logout` -/
def accountLogout : Op Unit := do
  let state ← readState
  ofOutcome (ensureSessionRestored state)
  call outside.disconnect
  setPendingAuth none
  deleteStored readers outside state.session
  clearState

end operations

/-! ## Runs -/

inductive Operation where
  | refreshTokens
  | refreshCertificateIfNeeded
  | refreshRemoteData (force taken : Bool)
  | ensureClientConfig
  | ensureSignedCatalog
  | accountLogin (params : NativeResult Unit)
  | accountSubmit2fa (params : NativeResult Unit)
  | accountAuthenticateFido2
  | restoreSession
  | accountLogout

def Operation.perform (readers : Readers) (outside : Outside) : Operation → Op Unit
  | .refreshTokens => Account.refreshTokens readers outside
  | .refreshCertificateIfNeeded => discard (Account.refreshCertificateIfNeeded readers outside)
  | .refreshRemoteData force taken => Account.refreshRemoteData readers outside force taken
  | .ensureClientConfig => Account.ensureClientConfig readers outside
  | .ensureSignedCatalog => Account.ensureSignedCatalog readers outside
  | .accountLogin params => Account.accountLogin readers outside params
  | .accountSubmit2fa params => Account.accountSubmit2fa readers outside params
  | .accountAuthenticateFido2 => Account.accountAuthenticateFido2 readers outside
  | .restoreSession => Account.restoreSession readers outside
  | .accountLogout => Account.accountLogout readers outside

/-- An operation, and what it finds outside. -/
structure Turn where
  operation : Operation
  outside : Outside

/-- The world before an operation, with nothing asked yet. -/
def World.begin (world : World) : World := { world with calls := 0, log := [] }

/-- The outcome of an operation, and the world after it. -/
def Turn.run (readers : Readers) (turn : Turn) (world : World) : NativeResult Unit × World :=
  (turn.operation.perform readers turn.outside).exec world.begin

/-- The world after operations that come to `auth_write` in this order. -/
def worldAfter (readers : Readers) (turns : List Turn) (world : World) : World :=
  turns.foldl (fun world turn => (turn.run readers world).2) world

end ProtonVpnOmarchy.Agent.Account
