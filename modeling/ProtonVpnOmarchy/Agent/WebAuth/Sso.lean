import ProtonVpnOmarchy.Agent.Catalog.Selection
import ProtonVpnOmarchy.Agent.JsonText
import ProtonVpnOmarchy.Agent.WebAuth.Pipe

/-!
# Organization sign-in

The event loop of `complete_sso` in `web_auth.rs`: the messages of the browser are read one after the
other, paused requests are continued, and the loop returns the token of the callback. The `url` crate is
a parameter; what is relied on is that a text without `#` has no fragment.

* `ssoCallbackToken`, `navigationUrls` — the token of a URL, and the URLs of an event.
* `SignIn.turn`, `SignIn.awaitCallback` — what one message leads to, and the loop.
-/

namespace ProtonVpnOmarchy.Agent.WebAuth

open Native Catalog

/-! ## URLs -/

/-- `reqwest::Url`; `port` is `port_or_known_default`. -/
structure Url where
  scheme : String
  host : Option String
  port : Option UInt16
  path : String
  fragment : Option String

/-- The `url` crate: `Url::parse`, and the pairs of `form_urlencoded::parse` of the bytes of a text. -/
structure UrlCrate where
  parse : String → Option Url
  formUrlencoded : String → List (String × String)

/-- A fragment stands behind a `#`. -/
def UrlCrate.Lawful (crate : UrlCrate) : Prop :=
  ∀ text url, '#' ∉ text.toList → crate.parse text = some url → url.fragment = none

/-- The value that a name is collected with: the last one. -/
def lastValue (pairs : List (String × String)) (name : String) : Option String :=
  pairs.reverse.lookup name

/-- Source: `web_auth.rs` `sso_callback_token` -/
def ssoCallbackToken (crate : UrlCrate) (candidate expectedUid : String) : Option String :=
  (crate.parse candidate).bind fun url =>
    if url.scheme ≠ "https" ∨ url.host ≠ some "vpn-api.proton.me" ∨ url.port ≠ some 443 ∨
        url.path ≠ "/sso/login" then none
    else
      url.fragment.bind fun fragment =>
        let values := crate.formUrlencoded fragment
        if lastValue values "uid" = some expectedUid then
          (lastValue values "token").filter (· ≠ "")
        else none

/-- Source: `web_auth.rs` `navigation_urls` -/
def navigationUrls (method : String) (params : Value) : List String :=
  match method with
  | "Page.frameNavigated" =>
    (((params.get "frame").bind (·.get "url")).bind Value.asStr).toList
  | "Page.navigatedWithinDocument" => ((params.get "url").bind Value.asStr).toList
  | "Network.requestWillBeSent" =>
    (((params.get "request").bind (·.get "url")).bind Value.asStr).toList
  | _ => []

/-! ## Headers -/

/-- `json!` of a header -/
def headerValue (header : String × String) : Value :=
  .obj [("name", .string header.1), ("value", .string header.2)]

/-- The headers whose values are strings. -/
def stringHeaders (headers : Option Value) : List (String × String) :=
  ((headers.bind Value.asObject).getD []).filterMap fun (name, value) =>
    value.asStr.map fun value => (name, value)

/-- Source: `web_auth.rs` `header_array` -/
def headerArray (headers : Option Value) : List Value := (stringHeaders headers).map headerValue

/-- Source: `web_auth.rs` `set_header` -/
def setHeader (headers : List Value) (name value : String) : List Value :=
  (headers.filter fun header =>
    !(((header.get "name").bind Value.asStr).map fun candidate =>
      eqIgnoreAsciiCase candidate name).getD false) ++ [headerValue (name, value)]

/-! ## The client -/

/-- The counter and the attached page. Source: `web_auth.rs` `CdpClient` -/
structure CdpClient where
  nextId : UInt64
  sessionId : Option String

/-- The message of a command. Source: `web_auth.rs` `send_with_session` -/
def CdpClient.command (client : CdpClient) (method : String) (params : Value) : Value :=
  .obj ([("id", .u64 client.nextId), ("method", .string method), ("params", params)] ++
    client.sessionId.toList.map fun sessionId => ("sessionId", .string sessionId))

/-- The length of the text of a message; commands hold no floating-point numbers. -/
def payloadSize (message : Value) : ℕ := message.textSize (fun _ => 0) .compact 0

/-- The client after a command. -/
def CdpClient.advance (client : CdpClient) : CdpClient :=
  { client with nextId := client.nextId + 1 }

/-- What is written, and the client after it. Source: `web_auth.rs` `send` -/
def CdpClient.send (client : CdpClient) (method : String) (params : Value) :
    NativeResult (Value × CdpClient) :=
  if client.sessionId = none then
    .error { code := "web_auth_failed", message := "The browser page is not attached" }
  else if MAX_CDP_MESSAGE_BYTES < payloadSize (client.command method params) then
    .error (channelFailed "browser command exceeds the size limit")
  else .ok (client.command method params, client.advance)

/-- A message that `next_event` returns. Source: `web_auth.rs` `next_event` -/
def IsEvent (sessionId : Option String) (message : Value) : Prop :=
  message.get "method" ≠ none ∧ (message.get "sessionId").bind Value.asStr = sessionId

instance (sessionId : Option String) : DecidablePred (IsEvent sessionId) := fun _ =>
  inferInstanceAs (Decidable (_ ∧ _))

/-! ## The loop -/

/-- What a sign-in is for: the session, and the URL that it begins with. -/
structure SignIn where
  crate : UrlCrate
  initialUrl : String
  uid : String
  accessToken : String

def methodOf (message : Value) : String := ((message.get "method").bind Value.asStr).getD ""

def paramsOf (message : Value) : Value := (message.get "params").getD .null

/-- The headers that a paused request is continued with. -/
def SignIn.headersFor (signIn : SignIn) (request : Value) : List Value :=
  let requestUrl := ((request.get "url").bind Value.asStr).getD ""
  let headers := headerArray (request.get "headers")
  if requestUrl = signIn.initialUrl then
    setHeader (setHeader headers "x-pm-uid" signIn.uid) "Authorization"
      ("Bearer " ++ signIn.accessToken)
  else headers

/-- The parameters that a paused request is continued with. -/
def SignIn.continuation (signIn : SignIn) (requestId : String) (params : Value) : Value :=
  .obj [("requestId", .string requestId),
    ("headers", .array (signIn.headersFor ((params.get "request").getD .null)))]

/-- What a message leads to: what is written and the client, or the end of the loop. -/
inductive Turn where
  | next (sent : List Value) (client : CdpClient)
  | done (result : NativeResult String)

/-- Source: `web_auth.rs` `complete_sso`, one event; other messages are skipped -/
def SignIn.turn (signIn : SignIn) (client : CdpClient) (message : Value) : Turn :=
  if ¬ IsEvent client.sessionId message then .next [] client
  else if methodOf message = "Fetch.requestPaused" then
    match ((paramsOf message).get "requestId").bind Value.asStr with
    | none => .done (.error { code := "sso_failed", message := "Invalid browser request" })
    | some requestId =>
      match client.send "Fetch.continueRequest"
          (signIn.continuation requestId (paramsOf message)) with
      | .error error => .done (.error error)
      | .ok (sent, client) => .next [sent] client
  else
    match (navigationUrls (methodOf message) (paramsOf message)).findSome? fun candidate =>
        ssoCallbackToken signIn.crate candidate signIn.uid with
    | some token => .done (.ok token)
    | none => .next [] client

/-- What is written while messages are read, and the result; without one, the loop waits for the next
message until its time is over. Source: `web_auth.rs` `complete_sso` -/
def SignIn.awaitCallback (signIn : SignIn) :
    CdpClient → List (NativeResult Value) → List Value × Option (NativeResult String)
  | _, [] => ([], none)
  | _, .error error :: _ => ([], some (.error error))
  | client, .ok message :: messages =>
    match signIn.turn client message with
    | .done result => ([], some result)
    | .next sent client =>
      let (sent', result) := signIn.awaitCallback client messages
      (sent ++ sent', result)

end ProtonVpnOmarchy.Agent.WebAuth
