import ProtonVpnOmarchy.Agent.WebAuth.Sso

/-!
# The callback of a sign-in

The browser reports the URL of a frame or a request without its fragment, which comes on its own in
`urlFragment`. `navigation_urls` does not read it, so only a navigation within a document is noticed.

* `turn_of_paused`, `turn_of_not_paused` — what a message leads to.
* `awaitCallback_append` — as long as nothing is noticed, the loop continues the paused requests.
* `ssoWorks_iff` — when the loop returns the token of the first callback that is reported.
* `frame_callback_missed` — a callback that a frame reports is not noticed.
-/

namespace ProtonVpnOmarchy.Agent.WebAuth

open Native Catalog

/-! ## What the browser reports -/

/-- The URL of a frame or a request, with the fragment that stands beside it. -/
def fullUrl (object : Value) : Option String :=
  ((object.get "url").bind Value.asStr).map fun url =>
    url ++ ((object.get "urlFragment").bind Value.asStr).getD ""

/-- The URL of a navigation or a request that an event reports. -/
def reportedUrl (message : Value) : Option String :=
  match methodOf message with
  | "Page.frameNavigated" => ((paramsOf message).get "frame").bind fullUrl
  | "Page.navigatedWithinDocument" => ((paramsOf message).get "url").bind Value.asStr
  | "Network.requestWillBeSent" => ((paramsOf message).get "request").bind fullUrl
  | _ => none

/-- The callback of a session, with a token. -/
structure Callback (crate : UrlCrate) (uid text token : String) : Prop where
  intro ::
  url : ∃ url fragment, crate.parse text = some url ∧ url.scheme = "https" ∧
    url.host = some "vpn-api.proton.me" ∧ url.port = some 443 ∧ url.path = "/sso/login" ∧
    url.fragment = some fragment ∧ lastValue (crate.formUrlencoded fragment) "uid" = some uid ∧
    lastValue (crate.formUrlencoded fragment) "token" = some token
  token_ne : token ≠ ""

/-- The frame or request has a URL, without a fragment. -/
def PlainUrl (object : Option Value) : Prop :=
  ∃ url, (object.bind (·.get "url")).bind Value.asStr = some url ∧ '#' ∉ url.toList

/-- An event as the protocol describes it. -/
def WellFormed (message : Value) : Prop :=
  match methodOf message with
  | "Fetch.requestPaused" =>
    (((paramsOf message).get "requestId").bind Value.asStr).isSome ∧
      PlainUrl ((paramsOf message).get "request")
  | "Page.frameNavigated" => PlainUrl ((paramsOf message).get "frame")
  | "Page.navigatedWithinDocument" => (((paramsOf message).get "url").bind Value.asStr).isSome
  | "Network.requestWillBeSent" => PlainUrl ((paramsOf message).get "request")
  | _ => True

section sign

variable (signIn : SignIn) (sessionId : Option String)

/-- An event reports the callback of the session. -/
def Reports (message : Value) (token : String) : Prop :=
  IsEvent sessionId message ∧
    ∃ text, reportedUrl message = some text ∧ Callback signIn.crate signIn.uid text token

/-- No event reports the callback. -/
def Silent (messages : List Value) : Prop :=
  ∀ message ∈ messages, ∀ token, ¬ Reports signIn sessionId message token

/-- A paused request of the page. -/
def IsPaused (message : Value) : Prop :=
  IsEvent sessionId message ∧ methodOf message = "Fetch.requestPaused"

instance : DecidablePred (IsPaused sessionId) := fun _ => inferInstanceAs (Decidable (_ ∧ _))

/-- The headers of a request with the session's in the place of its own. -/
def withSession (headers : List (String × String)) : List (String × String) :=
  (headers.filter fun header =>
    !eqIgnoreAsciiCase header.1 "x-pm-uid" && !eqIgnoreAsciiCase header.1 "Authorization") ++
    [("x-pm-uid", signIn.uid), ("Authorization", "Bearer " ++ signIn.accessToken)]

/-- A command continues a paused request: with the session's headers if its URL is the one that the
sign-in begins with, and otherwise with its own. -/
def Continues (message command : Value) : Prop :=
  ∃ url requestId params request, (paramsOf message).get "request" = some request ∧
    (request.get "url").bind Value.asStr = some url ∧
    ((paramsOf message).get "requestId").bind Value.asStr = some requestId ∧
    command.get "method" = some (.string "Fetch.continueRequest") ∧
    command.get "params" = some params ∧ params.get "requestId" = some (.string requestId) ∧
    params.get "headers" = some (.array
      ((if url = signIn.initialUrl then withSession signIn (stringHeaders (request.get "headers"))
        else stringHeaders (request.get "headers")).map headerValue))

/-- The command that continues a paused request. -/
def continueCommand (client : CdpClient) (message : Value) : Value :=
  client.command "Fetch.continueRequest"
    (signIn.continuation ((((paramsOf message).get "requestId").bind Value.asStr).getD "")
      (paramsOf message))

/-- The commands that continue the paused requests, one after the other. -/
def commands (client : CdpClient) : List Value → List Value
  | [] => []
  | message :: messages =>
    if IsPaused client.sessionId message then
      continueCommand signIn client message :: commands client.advance messages
    else commands client messages

end sign

/-- The loop waits as long as nothing is reported, continues the paused requests meanwhile, and returns
the token of the first callback that is reported. -/
structure SsoWorks (signIn : SignIn) (client : CdpClient) (messages : List Value) : Prop where
  waits : ∀ before after, messages = before ++ after → Silent signIn client.sessionId before →
    (signIn.awaitCallback client (before.map .ok)).2 = none ∧
      List.Forall₂ (Continues signIn) (before.filter (IsPaused client.sessionId))
        (signIn.awaitCallback client (before.map .ok)).1
  returns : ∀ before message after token, messages = before ++ message :: after →
    Silent signIn client.sessionId before → Reports signIn client.sessionId message token →
      (signIn.awaitCallback client ((before ++ [message]).map .ok)).2 = some (.ok token)

/-- The first callback that is reported is a navigation within a document, and the commands before it
are not too long. -/
structure SsoReachable (signIn : SignIn) (client : CdpClient) (messages : List Value) : Prop where
  within : ∀ before message after token, messages = before ++ message :: after →
    Silent signIn client.sessionId before → Reports signIn client.sessionId message token →
      methodOf message = "Page.navigatedWithinDocument"
  fits : ∀ before after, messages = before ++ after → Silent signIn client.sessionId before →
    ∀ command ∈ commands signIn client before, payloadSize command ≤ MAX_CDP_MESSAGE_BYTES

theorem ssoCallbackToken_eq_some_iff {crate : UrlCrate} {text uid token : String} :
    ssoCallbackToken crate text uid = some token ↔ Callback crate uid text token := by
  unfold ssoCallbackToken
  constructor
  · intro h
    obtain ⟨url, hurl, h⟩ := Option.bind_eq_some_iff.mp h
    split_ifs at h with hother
    push Not at hother
    obtain ⟨hscheme, hhost, hport, hpath⟩ := hother
    obtain ⟨fragment, hfragment, h⟩ := Option.bind_eq_some_iff.mp h
    dsimp only at h
    split_ifs at h with huid
    obtain ⟨htoken, hne⟩ := Option.filter_eq_some_iff.mp h
    exact ⟨⟨url, fragment, hurl, hscheme, hhost, hport, hpath, hfragment, huid, htoken⟩,
      by simpa using hne⟩
  · rintro ⟨⟨url, fragment, hurl, hscheme, hhost, hport, hpath, hfragment, huid, htoken⟩, hne⟩
    rw [hurl, Option.bind_some, if_neg (by simp [hscheme, hhost, hport, hpath]), hfragment,
      Option.bind_some]
    dsimp only
    rw [if_pos huid, htoken]
    simpa [Option.filter] using hne

/-- A text without `#` is no callback. -/
theorem ssoCallbackToken_of_plain {crate : UrlCrate} (hcrate : crate.Lawful) {text uid : String}
    (h : '#' ∉ text.toList) : ssoCallbackToken crate text uid = none := by
  rw [Option.eq_none_iff_forall_ne_some]
  intro token htoken
  obtain ⟨⟨url, fragment, hurl, -, -, -, -, hfragment, -⟩, -⟩ :=
    ssoCallbackToken_eq_some_iff.mp htoken
  rw [hcrate text url h hurl] at hfragment
  cases hfragment

/-! ## One message -/

theorem findSome?_toList {α β : Type} (f : α → Option β) (a : Option α) :
    a.toList.findSome? f = a.bind f := by
  cases a with
  | none => rfl
  | some a =>
      rw [Option.toList_some, List.findSome?_cons, Option.bind_some]
      cases f a <;> rfl

/-- Of a frame or a request, a URL without a fragment is looked at. -/
theorem bind_ssoCallbackToken_of_plain {crate : UrlCrate} (hcrate : crate.Lawful) (uid : String)
    {object : Option Value} (h : PlainUrl object) :
    ((object.bind (·.get "url")).bind Value.asStr).bind
      (fun candidate => ssoCallbackToken crate candidate uid) = none := by
  obtain ⟨url, hurl, hplain⟩ := h
  rw [hurl, Option.bind_some, ssoCallbackToken_of_plain hcrate hplain]

variable {signIn : SignIn} {client : CdpClient} {message : Value}

/-- Only a navigation within a document is looked at with its fragment. -/
theorem findSome?_navigationUrls (hcrate : signIn.crate.Lawful) (hwell : WellFormed message) :
    (navigationUrls (methodOf message) (paramsOf message)).findSome?
        (fun candidate => ssoCallbackToken signIn.crate candidate signIn.uid) =
      if methodOf message = "Page.navigatedWithinDocument" then
        (reportedUrl message).bind fun candidate =>
          ssoCallbackToken signIn.crate candidate signIn.uid
      else none := by
  unfold WellFormed at hwell
  unfold navigationUrls reportedUrl
  split
  · rename_i hmethod
    rw [hmethod] at hwell
    rw [hmethod, if_neg (by decide), findSome?_toList]
    exact bind_ssoCallbackToken_of_plain hcrate signIn.uid hwell
  · rename_i hmethod
    rw [hmethod, if_pos rfl]
    exact findSome?_toList _ _
  · rename_i hmethod
    rw [hmethod] at hwell
    rw [hmethod, if_neg (by decide), findSome?_toList]
    exact bind_ssoCallbackToken_of_plain hcrate signIn.uid hwell
  · rename_i hother _
    rw [if_neg hother]
    rfl

/-- A paused request is no report. -/
theorem not_reports_of_paused (h : IsPaused client.sessionId message) (token : String) :
    ¬ Reports signIn client.sessionId message token := by
  rintro ⟨-, text, htext, -⟩
  unfold reportedUrl at htext
  rw [h.2] at htext
  cases htext

theorem turn_of_paused (hattached : client.sessionId ≠ none)
    (hpaused : IsPaused client.sessionId message) (hwell : WellFormed message) :
    (payloadSize (continueCommand signIn client message) ≤ MAX_CDP_MESSAGE_BYTES ∧
        signIn.turn client message = .next [continueCommand signIn client message] client.advance) ∨
      (MAX_CDP_MESSAGE_BYTES < payloadSize (continueCommand signIn client message) ∧
        ∃ error, signIn.turn client message = .done (.error error)) := by
  obtain ⟨hevent, hmethod⟩ := hpaused
  unfold WellFormed at hwell
  rw [hmethod] at hwell
  obtain ⟨requestId, hid⟩ := Option.isSome_iff_exists.mp hwell.1
  unfold SignIn.turn continueCommand
  rw [if_neg (not_not.mpr hevent), if_pos hmethod, hid, Option.getD_some]
  dsimp only
  unfold CdpClient.send
  rw [if_neg hattached]
  split_ifs with hlong
  · exact .inr ⟨hlong, _, rfl⟩
  · exact .inl ⟨not_lt.mp hlong, rfl⟩

/-- **What a message that is no paused request leads to.** -/
theorem turn_of_not_paused (hcrate : signIn.crate.Lawful)
    (hpaused : ¬ IsPaused client.sessionId message)
    (hwell : IsEvent client.sessionId message → WellFormed message) :
    (∃ token, methodOf message = "Page.navigatedWithinDocument" ∧
        Reports signIn client.sessionId message token ∧
        signIn.turn client message = .done (.ok token)) ∨
      (signIn.turn client message = .next [] client ∧
        ∀ token, Reports signIn client.sessionId message token →
          methodOf message ≠ "Page.navigatedWithinDocument") := by
  unfold SignIn.turn
  by_cases hevent : IsEvent client.sessionId message
  · have hmethod : methodOf message ≠ "Fetch.requestPaused" := fun h => hpaused ⟨hevent, h⟩
    rw [if_neg (not_not.mpr hevent), if_neg hmethod,
      findSome?_navigationUrls hcrate (hwell hevent)]
    by_cases hwithin : methodOf message = "Page.navigatedWithinDocument"
    · rw [if_pos hwithin]
      rcases htoken : (reportedUrl message).bind fun candidate =>
          ssoCallbackToken signIn.crate candidate signIn.uid with _ | token
      · refine .inr ⟨rfl, ?_⟩
        rintro token ⟨-, text, htext, hcallback⟩
        rw [htext, Option.bind_some, ssoCallbackToken_eq_some_iff.mpr hcallback] at htoken
        cases htoken
      · obtain ⟨text, htext, hcallback⟩ := Option.bind_eq_some_iff.mp htoken
        exact .inl ⟨token, hwithin,
          ⟨hevent, text, htext, ssoCallbackToken_eq_some_iff.mp hcallback⟩, rfl⟩
    · rw [if_neg hwithin]
      exact .inr ⟨rfl, fun token _ => hwithin⟩
  · rw [if_pos hevent]
    exact .inr ⟨rfl, fun token hreports => absurd hreports.1 hevent⟩

theorem get_command (client : CdpClient) (method : String) (params : Value) :
    (client.command method params).get "method" = some (.string method) ∧
      (client.command method params).get "params" = some params := by
  unfold CdpClient.command
  rw [Value.get_obj, Value.get_obj]
  cases client.sessionId with
  | none => exact ⟨by simp [Map.get_cons], by simp [Map.get_cons]⟩
  | some sessionId => exact ⟨by simp [Map.get_cons], by simp [Map.get_cons]⟩

theorem get_continuation (signIn : SignIn) (requestId : String) (params : Value) :
    (signIn.continuation requestId params).get "requestId" = some (.string requestId) ∧
      (signIn.continuation requestId params).get "headers" =
        some (.array (signIn.headersFor ((params.get "request").getD .null))) := by
  unfold SignIn.continuation
  rw [Value.get_obj, Value.get_obj]
  exact ⟨by simp [Map.get_cons], by simp [Map.get_cons]⟩

/-- A header is set in the place of those with its name. -/
theorem setHeader_map (headers : List (String × String)) (name value : String) :
    setHeader (headers.map headerValue) name value =
      ((headers.filter fun header => !eqIgnoreAsciiCase header.1 name) ++ [(name, value)]).map
        headerValue := by
  have hname : ∀ header : String × String, (headerValue header).get "name" = some (.string header.1) := by
    intro header
    unfold headerValue
    rw [Value.get_obj]
    simp [Map.get_cons]
  unfold setHeader
  rw [List.filter_map, List.map_append]
  congr 2
  refine List.filter_congr fun header _ => ?_
  rw [Function.comp_apply, hname]
  rfl

theorem headersFor_eq {request : Value} {url : String}
    (hurl : (request.get "url").bind Value.asStr = some url) :
    signIn.headersFor request =
      (if url = signIn.initialUrl then withSession signIn (stringHeaders (request.get "headers"))
        else stringHeaders (request.get "headers")).map headerValue := by
  have hother : eqIgnoreAsciiCase "x-pm-uid" "Authorization" = false := by decide +kernel
  unfold SignIn.headersFor headerArray withSession
  rw [hurl, Option.getD_some]
  dsimp only
  split_ifs
  · rw [setHeader_map, setHeader_map, List.filter_append, List.filter_filter, List.filter_singleton,
      hother, List.append_assoc]
    congr 2
    refine List.filter_congr fun header _ => ?_
    exact Bool.and_comm _ _
  · rfl

/-- A command goes on with the request that it is made for. -/
theorem continues_continueCommand (hpaused : IsPaused client.sessionId message)
    (hwell : WellFormed message) : Continues signIn message (continueCommand signIn client message) := by
  unfold WellFormed at hwell
  rw [hpaused.2] at hwell
  obtain ⟨hid, url, hurl, -⟩ := hwell
  obtain ⟨requestId, hid⟩ := Option.isSome_iff_exists.mp hid
  obtain ⟨value, hvalue, hurl⟩ := Option.bind_eq_some_iff.mp hurl
  obtain ⟨request, hrequest, hvalue⟩ := Option.bind_eq_some_iff.mp hvalue
  have hurl : (request.get "url").bind Value.asStr = some url := by
    rw [hvalue]
    exact hurl
  have hcommand : continueCommand signIn client message =
      client.command "Fetch.continueRequest" (signIn.continuation requestId (paramsOf message)) := by
    rw [continueCommand, hid, Option.getD_some]
  obtain ⟨hmethod, hparams⟩ :=
    get_command client "Fetch.continueRequest" (signIn.continuation requestId (paramsOf message))
  obtain ⟨hcontinued, hheaders⟩ := get_continuation signIn requestId (paramsOf message)
  rw [hrequest, Option.getD_some, headersFor_eq hurl] at hheaders
  rw [hcommand]
  exact ⟨url, requestId, signIn.continuation requestId (paramsOf message), request, hrequest, hurl,
    hid, hmethod, hparams, hcontinued, hheaders⟩

/-! ## Runs -/

/-- The commands of a client are short enough to be written. -/
def CommandsFit (signIn : SignIn) (client : CdpClient) (messages : List Value) : Prop :=
  ∀ command ∈ commands signIn client messages, payloadSize command ≤ MAX_CDP_MESSAGE_BYTES

section run

variable {messages : List Value}

theorem commandsFit_cons :
    CommandsFit signIn client (message :: messages) ↔
      if IsPaused client.sessionId message then
        payloadSize (continueCommand signIn client message) ≤ MAX_CDP_MESSAGE_BYTES ∧
          CommandsFit signIn client.advance messages
      else CommandsFit signIn client messages := by
  unfold CommandsFit
  rw [commands]
  split_ifs
  · rw [List.forall_mem_cons]
  · exact Iff.rfl

/-- The commands continue the paused requests in their order. -/
theorem forall₂_continues (hwell : ∀ message ∈ messages,
      IsEvent client.sessionId message → WellFormed message) :
    List.Forall₂ (Continues signIn) (messages.filter (IsPaused client.sessionId))
      (commands signIn client messages) := by
  induction messages generalizing client with
  | nil => exact .nil
  | cons message messages ih =>
      have hrest := fun message hmem => hwell message (List.mem_cons_of_mem _ hmem)
      rw [commands]
      by_cases hpaused : IsPaused client.sessionId message
      · rw [List.filter_cons_of_pos (by simpa using hpaused), if_pos hpaused]
        exact .cons (continues_continueCommand hpaused (hwell message List.mem_cons_self hpaused.1))
          (@ih client.advance hrest)
      · rw [List.filter_cons_of_neg (by simpa using hpaused), if_neg hpaused]
        exact ih hrest

/-- The client after its commands. -/
def clientAfter (client : CdpClient) : List Value → CdpClient
  | [] => client
  | message :: messages =>
    clientAfter (if IsPaused client.sessionId message then client.advance else client) messages

theorem sessionId_clientAfter : (clientAfter client messages).sessionId = client.sessionId := by
  induction messages generalizing client with
  | nil => rfl
  | cons message messages ih =>
      rw [clientAfter, ih]
      split_ifs
      · rfl
      · rfl

/-- No navigation within a document reports the callback. -/
def Unnoticed (signIn : SignIn) (sessionId : Option String) (messages : List Value) : Prop :=
  ∀ message ∈ messages, ∀ token, Reports signIn sessionId message token →
    methodOf message ≠ "Page.navigatedWithinDocument"

variable (hcrate : signIn.crate.Lawful) (hattached : client.sessionId ≠ none)
  (hwell : ∀ message ∈ messages, IsEvent client.sessionId message → WellFormed message)
  (hunnoticed : Unnoticed signIn client.sessionId messages)

include hcrate hattached hwell hunnoticed

/-- **Nothing is noticed: the paused requests are continued, and the loop goes on.** -/
theorem awaitCallback_append (hfits : CommandsFit signIn client messages)
    (rest : List (NativeResult Value)) :
    signIn.awaitCallback client (messages.map .ok ++ rest) =
      (commands signIn client messages ++
          (signIn.awaitCallback (clientAfter client messages) rest).1,
        (signIn.awaitCallback (clientAfter client messages) rest).2) := by
  induction messages generalizing client with
  | nil => rfl
  | cons message messages ih =>
      have hrest := fun message hmem => hwell message (List.mem_cons_of_mem _ hmem)
      have hquiet : Unnoticed signIn client.sessionId messages := fun message hmem =>
        hunnoticed message (List.mem_cons_of_mem _ hmem)
      rw [commandsFit_cons] at hfits
      rw [List.map_cons, List.cons_append, SignIn.awaitCallback, commands, clientAfter]
      by_cases hpaused : IsPaused client.sessionId message
      · rw [if_pos hpaused] at hfits
        rcases @turn_of_paused signIn client message hattached hpaused
          (hwell message List.mem_cons_self hpaused.1) with ⟨-, hturn⟩ | ⟨hlong, -⟩
        · rw [if_pos hpaused, if_pos hpaused, hturn]
          dsimp only
          rw [@ih client.advance hattached hrest hquiet hfits.2]
          rfl
        · exact absurd hfits.1 (not_le.mpr hlong)
      · rw [if_neg hpaused] at hfits
        rcases turn_of_not_paused hcrate hpaused (hwell message List.mem_cons_self) with
          ⟨token, hwithin, hreports, -⟩ | ⟨hturn, -⟩
        · exact absurd hwithin (hunnoticed message List.mem_cons_self token hreports)
        · rw [if_neg hpaused, if_neg hpaused, hturn]
          dsimp only
          rw [ih hattached hrest hquiet hfits]
          rfl

/-- A command that is too long ends the loop. -/
theorem awaitCallback_too_long (hlong : ¬ CommandsFit signIn client messages) :
    ∃ error, (signIn.awaitCallback client (messages.map .ok)).2 = some (.error error) := by
  induction messages generalizing client with
  | nil => exact absurd (fun command hmem => absurd hmem List.not_mem_nil) hlong
  | cons message messages ih =>
      have hrest := fun message hmem => hwell message (List.mem_cons_of_mem _ hmem)
      have hquiet : Unnoticed signIn client.sessionId messages := fun message hmem =>
        hunnoticed message (List.mem_cons_of_mem _ hmem)
      rw [commandsFit_cons] at hlong
      rw [List.map_cons, SignIn.awaitCallback]
      by_cases hpaused : IsPaused client.sessionId message
      · rw [if_pos hpaused] at hlong
        rcases @turn_of_paused signIn client message hattached hpaused
          (hwell message List.mem_cons_self hpaused.1) with ⟨hfits, hturn⟩ | ⟨-, error, hturn⟩
        · rw [hturn]
          exact @ih client.advance hattached hrest hquiet fun hcommands =>
            hlong ⟨hfits, hcommands⟩
        · rw [hturn]
          exact ⟨error, rfl⟩
      · rw [if_neg hpaused] at hlong
        rcases turn_of_not_paused hcrate hpaused (hwell message List.mem_cons_self) with
          ⟨token, hwithin, hreports, -⟩ | ⟨hturn, -⟩
        · exact absurd hwithin (hunnoticed message List.mem_cons_self token hreports)
        · rw [hturn]
          exact ih hattached hrest hquiet hlong

end run

/-! ## The token -/

/-- An event reports one token. -/
theorem Reports.unique {sessionId : Option String} {token token' : String}
    (h : Reports signIn sessionId message token) (h' : Reports signIn sessionId message token') :
    token = token' := by
  obtain ⟨-, text, htext, hcallback⟩ := h
  obtain ⟨-, text', htext', hcallback'⟩ := h'
  obtain rfl := Option.some.inj (htext.symm.trans htext')
  exact Option.some.inj ((ssoCallbackToken_eq_some_iff.mpr hcallback).symm.trans
    (ssoCallbackToken_eq_some_iff.mpr hcallback'))

theorem Silent.unnoticed {sessionId : Option String} {messages : List Value}
    (h : Silent signIn sessionId messages) : Unnoticed signIn sessionId messages :=
  fun message hmem token hreports => absurd hreports (h message hmem token)

/-- An event that reports a callback ends the loop exactly if it is a navigation within a document. -/
theorem awaitCallback_of_reports (hcrate : signIn.crate.Lawful)
    (hwell : WellFormed message) {token : String}
    (hreports : Reports signIn client.sessionId message token) :
    (signIn.awaitCallback client [.ok message]).2 =
      if methodOf message = "Page.navigatedWithinDocument" then some (.ok token) else none := by
  have hpaused : ¬ IsPaused client.sessionId message := fun hpaused =>
    not_reports_of_paused hpaused token hreports
  rw [SignIn.awaitCallback]
  rcases turn_of_not_paused hcrate hpaused fun _ => hwell with
    ⟨token', hwithin, hreports', hturn⟩ | ⟨hturn, hother⟩
  · rw [hturn, if_pos hwithin, hreports.unique hreports']
  · rw [hturn, if_neg (hother token hreports)]
    rfl

/-- **The loop returns the token of the first callback that is reported, and continues the paused
requests before it, exactly if that callback is a navigation within a document and the commands are not
too long.** -/
theorem ssoWorks_iff {messages : List Value} (hcrate : signIn.crate.Lawful)
    (hattached : client.sessionId ≠ none)
    (hwell : ∀ message ∈ messages, IsEvent client.sessionId message → WellFormed message) :
    SsoWorks signIn client messages ↔ SsoReachable signIn client messages := by
  have hwellBefore : ∀ before after, messages = before ++ after →
      ∀ message ∈ before, IsEvent client.sessionId message → WellFormed message := by
    rintro before after rfl message hmem
    exact hwell message (List.mem_append_left _ hmem)
  have hsession : ∀ before, (clientAfter client before).sessionId = client.sessionId := fun _ =>
    sessionId_clientAfter
  constructor
  · intro hworks
    have hfits : ∀ before after, messages = before ++ after →
        Silent signIn client.sessionId before → CommandsFit signIn client before := by
      intro before after heq hsilent
      by_contra hlong
      obtain ⟨error, herror⟩ := awaitCallback_too_long hcrate hattached
        (hwellBefore before after heq) hsilent.unnoticed hlong
      rw [(hworks.waits before after heq hsilent).1] at herror
      cases herror
    refine ⟨?_, hfits⟩
    intro before message after token heq hsilent hreports
    have hmessage := hwell message (heq ▸ List.mem_append_right _ List.mem_cons_self) hreports.1
    have hreturns := hworks.returns before message after token heq hsilent hreports
    rw [List.map_append, List.map_singleton, awaitCallback_append hcrate hattached
      (hwellBefore before _ heq) hsilent.unnoticed (hfits before _ heq hsilent)] at hreturns
    rw [← hsession before] at hreports
    rw [awaitCallback_of_reports hcrate hmessage hreports] at hreturns
    by_contra hother
    rw [if_neg hother] at hreturns
    cases hreturns
  · intro hreachable
    refine ⟨?_, ?_⟩
    · intro before after heq hsilent
      have hwaits := awaitCallback_append hcrate hattached (hwellBefore before after heq)
        hsilent.unnoticed (hreachable.fits before after heq hsilent) []
      rw [List.append_nil] at hwaits
      rw [hwaits, SignIn.awaitCallback, List.append_nil]
      exact ⟨rfl, forall₂_continues (hwellBefore before after heq)⟩
    · intro before message after token heq hsilent hreports
      have hmessage := hwell message (heq ▸ List.mem_append_right _ List.mem_cons_self) hreports.1
      have hwithin := hreachable.within before message after token heq hsilent hreports
      rw [List.map_append, List.map_singleton, awaitCallback_append hcrate hattached
        (hwellBefore before _ heq) hsilent.unnoticed (hreachable.fits before _ heq hsilent)]
      rw [← hsession before] at hreports
      rw [awaitCallback_of_reports hcrate hmessage hreports, if_pos hwithin]

/-! ### A callback of each kind -/

/-- `Url::parse` of texts that begin with `https://vpn-api.proton.me/`, and the pairs of texts without
escapes. -/
def plainUrls : UrlCrate where
  parse text :=
    (text.toList.dropPrefix? "https://vpn-api.proton.me".toList).map fun rest =>
      { scheme := "https"
        host := some "vpn-api.proton.me"
        port := some 443
        path := String.ofList (rest.takeWhile (· ≠ '#'))
        fragment :=
          if '#' ∈ rest then some (String.ofList ((rest.dropWhile (· ≠ '#')).drop 1)) else none }
  formUrlencoded text := (text.toList.splitOn '&').map fun pair =>
    (String.ofList (pair.takeWhile (· ≠ '=')), String.ofList ((pair.dropWhile (· ≠ '=')).drop 1))

theorem lawful_plainUrls : plainUrls.Lawful := by
  intro text url hplain hurl
  obtain ⟨rest, hrest, rfl⟩ := Option.map_eq_some_iff.mp hurl
  have htext := Lib.dropPrefix?_eq_some.mp hrest
  refine if_neg fun hmem => hplain ?_
  rw [htext]
  exact List.mem_append_right _ hmem

def exampleSignIn : SignIn where
  crate := plainUrls
  initialUrl := "https://vpn-api.proton.me/auth/sso/challenge"
  uid := "uid-1"
  accessToken := "access"

def exampleClient : CdpClient := ⟨7, some "page"⟩

/-- An event of the page. -/
def pageEvent (method : String) (params : List (String × Value)) : Value :=
  .obj [("method", .string method), ("params", .obj params), ("sessionId", .string "page")]

/-- The callback, as a navigation within a document. -/
def withinCallback : Value :=
  pageEvent "Page.navigatedWithinDocument"
    [("url", .string "https://vpn-api.proton.me/sso/login#token=response&uid=uid-1")]

/-- The callback, as the URL of a frame. -/
def frameCallback : Value :=
  pageEvent "Page.frameNavigated"
    [("frame", .obj [("url", .string "https://vpn-api.proton.me/sso/login"),
      ("urlFragment", .string "#token=response&uid=uid-1")])]

/-- The first request of the sign-in. -/
def pausedRequest : Value :=
  pageEvent "Fetch.requestPaused"
    [("requestId", .string "interception-1"),
      ("request", .obj [("url", .string "https://vpn-api.proton.me/auth/sso/challenge"),
        ("headers", .obj [("Accept", .string "text/html")])])]

/-- A request is continued, and the callback is a navigation within a document. -/
theorem ssoWorks_iff_within :
    SsoWorks exampleSignIn exampleClient [pausedRequest, withinCallback] := by
  refine (ssoWorks_iff lawful_plainUrls (by decide) ?_).mpr ⟨?_, ?_⟩
  · intro message hmem _
    have hplain : '#' ∉ "https://vpn-api.proton.me/auth/sso/challenge".toList := by decide +kernel
    have hurl : (((paramsOf pausedRequest).get "request").bind (·.get "url")).bind Value.asStr =
        some "https://vpn-api.proton.me/auth/sso/challenge" := by decide +kernel
    have hpaused : methodOf pausedRequest = "Fetch.requestPaused" := by decide +kernel
    have hwithin : methodOf withinCallback = "Page.navigatedWithinDocument" := by decide +kernel
    unfold WellFormed
    rcases List.mem_pair.mp hmem with rfl | rfl
    · rw [hpaused]
      exact ⟨by decide +kernel, _, hurl, hplain⟩
    · have hurl : (((paramsOf withinCallback).get "url").bind Value.asStr).isSome := by
        decide +kernel
      rw [hwithin]
      exact hurl
  · intro before message after token heq _ hreports
    have hmem : message ∈ [pausedRequest, withinCallback] :=
      heq ▸ List.mem_append_right _ List.mem_cons_self
    rcases List.mem_pair.mp hmem with rfl | rfl
    · have hpaused : IsPaused exampleClient.sessionId pausedRequest := by decide +kernel
      exact absurd hreports (not_reports_of_paused hpaused token)
    · decide +kernel
  · intro before after heq _
    have hall : ∀ before ∈ [pausedRequest, withinCallback].inits,
        ∀ command ∈ commands exampleSignIn exampleClient before,
          payloadSize command ≤ MAX_CDP_MESSAGE_BYTES := by decide +kernel
    exact hall before ((List.mem_inits before _).mpr ⟨after, heq.symm⟩)

/-- The fragment of a frame's URL is not looked at: the loop goes on waiting. -/
theorem frame_callback_missed : ¬ SsoWorks exampleSignIn exampleClient [frameCallback] := by
  intro hworks
  have hreports : Reports exampleSignIn exampleClient.sessionId frameCallback "response" := by
    have hreported : reportedUrl frameCallback =
        some "https://vpn-api.proton.me/sso/login#token=response&uid=uid-1" := by decide +kernel
    refine ⟨by decide +kernel, _, hreported, ssoCallbackToken_eq_some_iff.mp ?_⟩
    decide +kernel
  have hreturns := hworks.returns [] frameCallback [] "response" rfl (by exact nofun) hreports
  have hwaits : (exampleSignIn.awaitCallback exampleClient [.ok frameCallback]).2 = none := by
    decide +kernel
  rw [List.nil_append, List.map_singleton, hwaits] at hreturns
  cases hreturns

end ProtonVpnOmarchy.Agent.WebAuth
