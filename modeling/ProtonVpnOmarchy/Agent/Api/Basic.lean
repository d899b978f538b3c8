import ProtonVpnOmarchy.Agent.Account.Basic
import ProtonVpnOmarchy.Agent.AlternativeRouting
import ProtonVpnOmarchy.Agent.Catalog.Selection
import ProtonVpnOmarchy.Agent.JsonNumbers
import ProtonVpnOmarchy.Lib.Endings

/-!
# Requests to the API, and the routes they take

`request_direct` and `post_multipart` of `api.rs`, each as a dialogue with the network, the clock, the
switch of the alternative routing and the cached route that all requests share. A response is what
the two functions look at: its certificate, its status, some headers, the sizes of the chunks of its
body, and what `serde_json` makes of the body.

* `requestDirect`, `postMultipart` — the two loops, as the source has them.
* `apiLoop` — one loop of which both are cases.
-/

namespace ProtonVpnOmarchy.Agent.Api

open Lib Splitd Native Catalog
open AlternativeRouting (AlternativeRoute)
open Account (ApiSession)

def API_BASE : String := "https://vpn-api.proton.me"
def MAX_API_RESPONSE_BYTES : ℕ := 4 * 1024 * 1024
def MAX_SERVER_CATALOG_BYTES : ℕ := 64 * 1024 * 1024

def TLS_PINS : List String :=
  ["CT56BhOTmj5ZIPgb/xD5mH8rY3BLo/MlhP7oPyJUEDo=",
    "35Dx28/uzN3LeltkCBQ8RHK0tlNSa2kCpCRGNp34Gxc=",
    "qYIukVc63DEITct8sFT7ebIq5qsWmuscaIKeJx+5J5A="]

def ALTERNATIVE_TLS_PINS : List String :=
  ["EU6TS9MO0L/GsDHvVc9D5fChYLNy5JdGYpJw0ccgetM=",
    "iKPIHPnDNqdkvOnTClQ8zQAIKG0XavaPkcEo0LBAABA=",
    "MSlVrBCdL0hKyczvgYVSRNm88RicyY04Q2y5qrBt0xA=",
    "C2UxW0T1Ckl9s+8cXfjXxlEqwAfPM4HiW2y3UdtBeCw="]

/-! ## Routes -/

/-- Source: `api.rs` `ApiRoute` -/
inductive ApiRoute where
  | direct
  | alternative (host : String)
  | account
  deriving DecidableEq

namespace ApiRoute

def url (endpoint : String) : ApiRoute → String
  | direct => API_BASE ++ endpoint
  | alternative host => "https://" ++ host ++ endpoint
  | account => "https://account.proton.me/api" ++ endpoint

def pins : ApiRoute → List String
  | direct | account => TLS_PINS
  | alternative _ => ALTERNATIVE_TLS_PINS

def isAlternative : ApiRoute → Bool
  | alternative _ => true
  | _ => false

def label : ApiRoute → String
  | direct => "direct"
  | alternative _ => "alternative"
  | account => "account"

end ApiRoute

/-- Source: `api.rs` `CachedAlternativeRoute`; instants are in milliseconds -/
structure CachedAlternativeRoute where
  route : ApiRoute
  expiresAt : ℕ
  deriving DecidableEq

/-- The client that a request is sent with. -/
inductive Client where
  | primary
  | alternative
  deriving DecidableEq

/-- Source: `api.rs` `client_for_route` -/
def clientForRoute : ApiRoute → Client
  | .direct | .account => .primary
  | .alternative _ => .alternative

/-! ## Requests and responses -/

/-- What a request carries. -/
inductive Content where
  | json (method : String) (body : Option Value)
  | multipart (fields : List (String × String)) (files : List (String × String × List Byte))

structure Request where
  client : Client
  url : String
  content : Content
  session : Option ApiSession
  humanVerificationToken : Option String

/-- What `x509_parser` makes of the certificate of the peer. -/
inductive Certificate where
  | missing
  | unreadable (error : String)
  | key (pin : String)

structure Response where
  certificate : Certificate
  path : String
  status : ℕ
  /-- The header as a number of seconds. -/
  retryAfter : Option ℕ
  contentType : Option String
  contentLength : Option ℕ
  /-- The sizes of the chunks of the body. -/
  chunks : List (Except String ℕ)
  json : Except String Value

/-- Source: `api.rs` `validate_tls_pin` -/
def validateTlsPin (response : Response) (expectedPins : List String) : NativeResult Unit :=
  match response.certificate with
  | .missing => .error
      { code := "tls_pinning_unavailable"
        message := "The Proton API peer certificate was not available for pinning" }
  | .unreadable error => .error
      { code := "tls_certificate_invalid"
        message := "Unable to parse Proton's TLS certificate"
        source := some error }
  | .key pin =>
    if pin ∈ expectedPins then .ok ()
    else .error
      { code := "tls_pin_mismatch", message := "Proton API TLS pin verification failed" }

/-- Source: `api.rs` `response_body_limit` -/
def responseBodyLimit (path : String) : ℕ :=
  let path := ((path.toList.dropPrefix? "/api".toList).map String.ofList).getD path
  if path = "/vpn/v2" ∨ path = "/vpn/v1/logicals" ∨ path = "/vpn/v2/logicals" then
    MAX_SERVER_CATALOG_BYTES
  else MAX_API_RESPONSE_BYTES

/-- Source: `api.rs` `invalid_response_error` -/
def invalidResponseError (status : ℕ) (route : ApiRoute) (contentType : String) (bodyBytes : ℕ)
    (reason : String) : NativeError where
  code := "api_response_invalid"
  message := "Proton returned an invalid API response"
  details := some (.obj
    [("http_status", .u64 (.ofNat status)), ("content_type", .string contentType),
      ("body_bytes", .u64 (.ofNat bodyBytes)), ("route", .string route.label),
      ("reason", .string reason)])
  retryable := true

/-- The loop over the chunks of a body. -/
def readBody (invalid : ℕ → String → NativeError) (limit : ℕ) :
    List (Except String ℕ) → ℕ → NativeResult ℕ
  | [], size => .ok size
  | .error error :: _, size =>
    .error { invalid size "response body could not be read" with source := some error }
  | .ok chunk :: chunks, size =>
    if limit < size + chunk then .error (invalid (size + chunk) "response exceeds the size limit")
    else readBody invalid limit chunks (size + chunk)

structure Decoded where
  status : ℕ
  retryAfter : Option ℕ
  payload : Value

/-- Source: `api.rs` `decode_api_response` -/
def decodeApiResponse (response : Response) (route : ApiRoute) : NativeResult Decoded := do
  let limit := responseBodyLimit response.path
  let contentType := String.ofList ((response.contentType.getD "unknown").toList.take 80)
  let invalid := invalidResponseError response.status route contentType
  if response.contentLength.any (limit < ·) then
    .error (invalid (limit + 1) "response exceeds the size limit")
  else do
    let size ← readBody invalid limit response.chunks 0
    match response.json with
    | .error error =>
      .error { invalid size "response body is not valid JSON" with source := some error }
    | .ok payload =>
      .ok { status := response.status, retryAfter := response.retryAfter.map (min 8), payload }

/-! ## Payloads -/

/-- The `Code` of a payload. -/
def codeOf (payload : Value) : ℤ := ((payload.get "Code").bind asI64).getD 0

/-- Source: `api.rs` `human_verification_challenge` -/
def humanVerificationChallenge (code : ℤ) (payload : Value) : Option String :=
  if code ≠ 9001 ∧ code ≠ 12087 then none
  else do
    let details ← payload.get "Details"
    let methods := ((details.get "HumanVerificationMethods").bind Value.asArray).getD []
    if (methods.filterMap Value.asStr).any (eqIgnoreAsciiCase · "captcha") then
      ((details.get "HumanVerificationToken").bind Value.asStr).filter fun token =>
        token ≠ "" && token.utf8ByteSize ≤ 8192
    else none

/-- The code, the message and whether to retry, of an error that the API returns. -/
def errorKind (status : ℕ) (code : ℤ) : String × String × Bool :=
  if code = 8002 then
    ("authentication_failed", "Incorrect Proton credentials or verification code", false)
  else if code = 8100 then
    ("sso_required", "This Proton account must sign in with organization SSO", false)
  else if (status = 422 ∧ code = 9001) ∨ code = 12087 then
    ("human_verification_required", "Proton requires additional human verification", false)
  else if status = 401 then
    ("authentication_expired", "The Proton session has expired", false)
  else if status = 403 then
    ("api_scope_missing", "The Proton session lacks a required scope", false)
  else if status = 429 then ("api_rate_limited", "The Proton API rate limit was reached", true)
  else if 500 ≤ status ∧ status ≤ 599 then
    ("api_server_error", "The Proton API is temporarily unavailable", true)
  else ("api_error", "The Proton API rejected the request", false)

/-- Source: `api.rs` `api_error` -/
def apiError (status : ℕ) (code : ℤ) (payload : Value) : NativeError :=
  let (nativeCode, fallback, retryable) := errorKind status code
  { code := nativeCode
    message := (((payload.get "Error").bind Value.asStr).filter fun value =>
      value ≠ "" && value.utf8ByteSize ≤ 240).getD fallback
    details := some (.obj [("api_code", i64 code), ("http_status", .u64 (.ofNat status))])
    retryable }

/-- The error of a request that gets no response. -/
def unreachable (error : String) : NativeError where
  code := "api_unreachable"
  message := "The Proton API could not be reached"
  source := some error
  retryable := true

/-! ## What a request asks -/

/-- The codes of the errors of `web_auth::solve_captcha`. -/
def captchaErrorCodes : List String :=
  ["human_verification_failed", "human_verification_timeout", "web_auth_unavailable",
    "web_auth_failed", "web_auth_cancelled"]

abbrev CaptchaError := {error : NativeError // error.code ∈ captchaErrorCodes}

inductive Query where
  /-- `alternative_routing_enabled.load` -/
  | enabled
  /-- What `alternative_route` holds -/
  | cachedRoute
  | setCachedRoute (route : Option CachedAlternativeRoute)
  /-- `Instant::now` -/
  | now
  /-- `alternative_routing::resolve` -/
  | resolve
  | send (route : ApiRoute) (request : Request)
  /-- `human_verification.try_lock` -/
  | tryLockVerification
  /-- `events.stage_auth` -/
  | stageAuth (stage : String)
  /-- `web_auth::solve_captcha` -/
  | solveCaptcha (challenge : String)
  | sleep (milliseconds : ℕ)

/-- The answers; a request that is sent has a response or the error of the transport. -/
abbrev Answer : Query → Type
  | .enabled => Bool
  | .cachedRoute => Option CachedAlternativeRoute
  | .setCachedRoute _ => Unit
  | .now => ℕ
  | .resolve => NativeResult AlternativeRoute
  | .send _ _ => Except String Response
  | .tryLockVerification => Bool
  | .stageAuth _ => Unit
  | .solveCaptcha _ => Except CaptchaError String
  | .sleep _ => Unit

abbrev Exchange := Dialogue Query Answer

/-- Source: `api.rs` `initial_route` -/
def initialRoute : Exchange ApiRoute :=
  .ask .enabled fun
    | false => .pure .direct
    | true => .ask .cachedRoute fun
      | none => .pure .direct
      | some cached => .ask .now fun now =>
        if now < cached.expiresAt then .pure cached.route
        else .ask (.setCachedRoute none) fun _ => .pure .direct

/-- The end of `route_after_transport_failure`: the last fallback. -/
def fallBack : Exchange (Option ApiRoute) :=
  .ask .now fun now =>
    .ask (.setCachedRoute (some { route := .account, expiresAt := now + 1000 * 120 })) fun _ =>
      .pure (some .account)

/-- Source: `api.rs` `route_after_transport_failure` -/
def routeAfterTransportFailure (current : ApiRoute) (triedAlternative : Bool) :
    Exchange (Option ApiRoute) :=
  .ask .enabled fun
    | false => .pure none
    | true =>
      if current = .account then .ask (.setCachedRoute none) fun _ => .pure none
      else if !current.isAlternative && !triedAlternative then
        .ask .resolve fun
          | .ok found => .ask .now fun now =>
            .ask (.setCachedRoute (some
                { route := .alternative found.host, expiresAt := now + 1000 * found.validFor })) fun _ =>
              .pure (some (.alternative found.host))
          | .error _ => fallBack
      else fallBack

/-- Source: `api.rs` `solve_human_verification` -/
def solveHumanVerification (challenge : String) : Exchange (NativeResult String) :=
  .ask .tryLockVerification fun
    | false => .pure (.error
        { code := "human_verification_in_progress"
          message := "Another Proton human verification is already in progress" })
    | true => .ask (.stageAuth "auth.waiting_for_human_verification") fun _ =>
      .ask (.solveCaptcha challenge) fun
        | .error error => .pure (.error error)
        | .ok token =>
          if token = "" ∨ 8192 < token.utf8ByteSize then .pure (.error
            { code := "human_verification_failed"
              message := "Proton returned an invalid human-verification token" })
          else .ask (.stageAuth "auth.completing_human_verification") fun _ => .pure (.ok token)

/-! ## The loops -/

/-- The variables of a loop. -/
structure Attempt where
  transientAttempt : ℕ := 0
  humanVerificationToken : Option String := none
  route : ApiRoute
  triedAlternative : Bool

/-- The loop goes on with another route. -/
def Attempt.moveTo (s : Attempt) (next : ApiRoute) : Attempt :=
  { s with route := next, triedAlternative := s.triedAlternative || next.isAlternative }

def Attempt.retry (s : Attempt) : Attempt := { s with transientAttempt := s.transientAttempt + 1 }

def isSuccess (status : ℕ) : Prop := 200 ≤ status ∧ status ≤ 299

instance (status : ℕ) : Decidable (isSuccess status) :=
  inferInstanceAs (Decidable (200 ≤ status ∧ status ≤ 299))

/-- A round of the loop of `request_direct`. -/
def requestDirectRound (method endpoint : String) (body : Option Value)
    (session : Option ApiSession) (s : Attempt) : Exchange (Attempt ⊕ NativeResult Value) :=
  .ask (.send s.route
      { client := clientForRoute s.route
        url := s.route.url endpoint
        content := .json method body
        session
        humanVerificationToken := s.humanVerificationToken }) fun
    | .error error =>
      (routeAfterTransportFailure s.route s.triedAlternative).bind fun
        | some next => .pure (.inl (s.moveTo next))
        | none =>
          if s.transientAttempt < 2 then
            .ask (.sleep (250 * (s.transientAttempt + 1))) fun _ => .pure (.inl s.retry)
          else .pure (.inr (.error (unreachable error)))
    | .ok response =>
      match validateTlsPin response s.route.pins with
      | .error error =>
        (routeAfterTransportFailure s.route s.triedAlternative).bind fun
          | some next => .pure (.inl (s.moveTo next))
          | none => .pure (.inr (.error error))
      | .ok () =>
        match decodeApiResponse response s.route with
        | .error error =>
          (routeAfterTransportFailure s.route s.triedAlternative).bind fun
            | some next => .pure (.inl (s.moveTo next))
            | none => .pure (.inr (.error error))
        | .ok decoded =>
          let code := codeOf decoded.payload
          if isSuccess decoded.status ∧ (code = 1000 ∨ code = 1001) then
            .pure (.inr (.ok decoded.payload))
          else
            match (if s.humanVerificationToken.isNone then
              humanVerificationChallenge code decoded.payload else none) with
            | some challenge =>
              (solveHumanVerification challenge).bind fun
                | .error error => .pure (.inr (.error error))
                | .ok token => .pure (.inl { s with humanVerificationToken := some token })
            | none =>
              if s.transientAttempt < 2 ∧ ((decoded.status = 408 ∨ decoded.status = 502) ∨
                  (decoded.status = 429 ∨ decoded.status = 503)) then
                .ask (.sleep (1000 * decoded.retryAfter.getD 1)) fun _ => .pure (.inl s.retry)
              else .pure (.inr (.error (apiError decoded.status code decoded.payload)))

/-- Source: `api.rs` `request_direct` -/
def requestDirect (method endpoint : String) (body : Option Value) (session : Option ApiSession) :
    Exchange (NativeResult Value) :=
  initialRoute.bind fun route =>
    .loop (requestDirectRound method endpoint body session)
      { route, triedAlternative := route.isAlternative } .pure

/-- A round of the loop of `post_multipart`. -/
def postMultipartRound (endpoint : String) (fields : List (String × String))
    (files : List (String × String × List Byte)) (session : Option ApiSession) (s : Attempt) :
    Exchange (Attempt ⊕ NativeResult Value) :=
  .ask (.send s.route
      { client := clientForRoute s.route
        url := s.route.url endpoint
        content := .multipart fields files
        session
        humanVerificationToken := s.humanVerificationToken }) fun
    | .error error =>
      (routeAfterTransportFailure s.route s.triedAlternative).bind fun
        | some next => .pure (.inl (s.moveTo next))
        | none =>
          if s.transientAttempt < 2 then
            .ask (.sleep (250 * (s.transientAttempt + 1))) fun _ => .pure (.inl s.retry)
          else .pure (.inr (.error (unreachable error)))
    | .ok response =>
      match validateTlsPin response s.route.pins with
      | .error error =>
        (routeAfterTransportFailure s.route s.triedAlternative).bind fun
          | some next => .pure (.inl (s.moveTo next))
          | none => .pure (.inr (.error error))
      | .ok () =>
        match decodeApiResponse response s.route with
        | .error error =>
          (routeAfterTransportFailure s.route s.triedAlternative).bind fun
            | some next => .pure (.inl (s.moveTo next))
            | none => .pure (.inr (.error error))
        | .ok decoded =>
          let code := codeOf decoded.payload
          if isSuccess decoded.status ∧ (code = 1000 ∨ code = 1001) then
            .pure (.inr (.ok decoded.payload))
          else
            match (if s.humanVerificationToken.isNone then
              humanVerificationChallenge code decoded.payload else none) with
            | some challenge =>
              (solveHumanVerification challenge).bind fun
                | .error error => .pure (.inr (.error error))
                | .ok token => .pure (.inl { s with humanVerificationToken := some token })
            | none =>
              if s.transientAttempt < 2 ∧ (decoded.status = 408 ∨ decoded.status = 502 ∨
                  decoded.status = 429 ∨ decoded.status = 503) then
                .ask (.sleep (1000 * 1)) fun _ => .pure (.inl s.retry)
              else .pure (.inr (.error (apiError decoded.status code decoded.payload)))

/-- Source: `api.rs` `post_multipart` -/
def postMultipart (endpoint : String) (fields : List (String × String))
    (files : List (String × String × List Byte)) (session : Option ApiSession) :
    Exchange (NativeResult Value) :=
  initialRoute.bind fun route =>
    .loop (postMultipartRound endpoint fields files session)
      { route, triedAlternative := route.isAlternative } .pure

/-! ## One loop for both -/

/-- What a round does when a response cannot be used. -/
def giveUpRoute (s : Attempt) (failed : Exchange (Attempt ⊕ NativeResult Value)) :
    Exchange (Attempt ⊕ NativeResult Value) :=
  (routeAfterTransportFailure s.route s.triedAlternative).bind fun
    | some next => .pure (.inl (s.moveTo next))
    | none => failed

/-- What a round does with a payload, with a pause before the next attempt. -/
def judge (pause : Option ℕ → ℕ) (s : Attempt) (decoded : Decoded) :
    Exchange (Attempt ⊕ NativeResult Value) :=
  let code := codeOf decoded.payload
  if isSuccess decoded.status ∧ (code = 1000 ∨ code = 1001) then
    .pure (.inr (.ok decoded.payload))
  else
    match (if s.humanVerificationToken.isNone then
      humanVerificationChallenge code decoded.payload else none) with
    | some challenge =>
      (solveHumanVerification challenge).bind fun
        | .error error => .pure (.inr (.error error))
        | .ok token => .pure (.inl { s with humanVerificationToken := some token })
    | none =>
      if s.transientAttempt < 2 ∧ (decoded.status = 408 ∨ decoded.status = 502 ∨
          decoded.status = 429 ∨ decoded.status = 503) then
        .ask (.sleep (1000 * pause decoded.retryAfter)) fun _ => .pure (.inl s.retry)
      else .pure (.inr (.error (apiError decoded.status code decoded.payload)))

/-- What a round does with an outcome. -/
def settle (pause : Option ℕ → ℕ) (s : Attempt) :
    Except String Response → Exchange (Attempt ⊕ NativeResult Value)
  | .error error =>
    giveUpRoute s (if s.transientAttempt < 2 then
        .ask (.sleep (250 * (s.transientAttempt + 1))) fun _ => .pure (.inl s.retry)
      else .pure (.inr (.error (unreachable error))))
  | .ok response =>
    match validateTlsPin response s.route.pins with
    | .error error => giveUpRoute s (.pure (.inr (.error error)))
    | .ok () =>
      match decodeApiResponse response s.route with
      | .error error => giveUpRoute s (.pure (.inr (.error error)))
      | .ok decoded => judge pause s decoded

/-- A round of a loop that sends a content. -/
def apiRound (endpoint : String) (content : Content) (session : Option ApiSession)
    (pause : Option ℕ → ℕ) (s : Attempt) : Exchange (Attempt ⊕ NativeResult Value) :=
  .ask (.send s.route
      { client := clientForRoute s.route
        url := s.route.url endpoint
        content
        session
        humanVerificationToken := s.humanVerificationToken }) (settle pause s)

/-- A call that sends a content. -/
def apiLoop (endpoint : String) (content : Content) (session : Option ApiSession)
    (pause : Option ℕ → ℕ) : Exchange (NativeResult Value) :=
  initialRoute.bind fun route =>
    .loop (apiRound endpoint content session pause)
      { route, triedAlternative := route.isAlternative } .pure

theorem requestDirect_eq (method endpoint : String) (body : Option Value)
    (session : Option ApiSession) :
    requestDirect method endpoint body session =
      apiLoop endpoint (.json method body) session (·.getD 1) := by
  have hround : requestDirectRound method endpoint body session =
      apiRound endpoint (.json method body) session (·.getD 1) := by
    funext s
    unfold requestDirectRound apiRound
    congr 1
    funext outcome
    cases outcome with
    | error error => rfl
    | ok response =>
        unfold settle judge
        simp only [or_assoc]
        rfl
  unfold requestDirect apiLoop
  rw [hround]

theorem postMultipart_eq (endpoint : String) (fields : List (String × String))
    (files : List (String × String × List Byte)) (session : Option ApiSession) :
    postMultipart endpoint fields files session =
      apiLoop endpoint (.multipart fields files) session fun _ => 1 := by
  have hround : postMultipartRound endpoint fields files session =
      apiRound endpoint (.multipart fields files) session fun _ => 1 := by
    funext s
    unfold postMultipartRound apiRound
    congr 1
    funext outcome
    cases outcome with
    | error error => rfl
    | ok response => rfl
  unfold postMultipart apiLoop
  rw [hround]

end ProtonVpnOmarchy.Agent.Api
