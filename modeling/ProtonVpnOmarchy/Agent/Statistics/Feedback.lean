import ProtonVpnOmarchy.Agent.Catalog.Basic
import ProtonVpnOmarchy.Agent.Settings.Basic
import ProtonVpnOmarchy.Agent.Statistics

/-!
# Feedback about a connection

While a tunnel is up its user may be asked how it went. The answers go through
`connection.feedback` into a session of their own, and the event that the tunnel leaves carries what
the session holds then.

* `validEvent_event` — the queue accepts every event that is built.
* `connectionFeedback_eq_ok_iff` — a rating is refused behind another one, and behind a dismissal.
* `feedback_verdict` — whatever was requested while the tunnel was up, its event reports the rating
  that was accepted.
-/

namespace ProtonVpnOmarchy.Agent.Statistics

open Lib Splitd Store Backend Catalog Settings

/-! ## The session -/

/-- Source: `telemetry.rs` `ConnectionFeedbackSession`, apart from the time of its start -/
structure ConnectionFeedbackSession where
  target : ConnectionTarget
  protocol : String
  trigger : String
  userFeedback : String
  viewed : Bool
  sent : Bool
  dismissed : Bool

namespace ConnectionFeedbackSession

/-- Source: `telemetry.rs` `ConnectionFeedbackSession::new` -/
def new (target : ConnectionTarget) (protocol trigger : String) : ConnectionFeedbackSession where
  target := target
  protocol := protocol
  trigger := trigger
  userFeedback := "unknown"
  viewed := false
  sent := false
  dismissed := false

/-- Source: `telemetry.rs` `ConnectionFeedbackSession::update_feedback` -/
def updateFeedback (session : ConnectionFeedbackSession) (value : String) :
    ConnectionFeedbackSession :=
  let session := if value = "dismissed" then { session with dismissed := true } else session
  let session := { session with viewed := true }
  if value = "positive" then { session with sent := true, userFeedback := "positive" }
  else if value = "negative" then { session with sent := true, userFeedback := "negative" }
  else if session.sent then session
  else { session with userFeedback := "ignore" }

end ConnectionFeedbackSession

/-! ## The event -/

/-- What an event says of the account. Source: `models.rs` `SessionData` -/
structure SessionFacts where
  tier : UInt8
  country : String
  isp : String

/-- Source: `telemetry.rs` `protocol_dimension` -/
def protocolDimension : String → String
  | "openvpn-udp" => "openvpn_udp"
  | "openvpn-tcp" => "openvpn_tcp"
  | "protun-udp" | "wireguard-udp" | "wireguard" => "protun_udp"
  | "protun-tcp" | "wireguard-tcp" => "protun_tcp"
  | "protun-tls" | "wireguard-tls" | "stealth" => "protun_tls"
  | _ => "n/a"

/-- Source: `telemetry.rs` `string_dimension` -/
def stringDimension (value : String) : String := if trim value = "" then "n/a" else value

/-- `sort_unstable` and `join` of the names that apply -/
def joinNames (names : List (Bool × String)) : String :=
  String.intercalate "," (((names.filter (·.1)).map (·.2)).mergeSort (· ≤ ·))

/-- The `server_features` of an event. -/
def serverFeatures (logical : LogicalServer) : List (Bool × String) :=
  let has (feature : BitVec 32) : Bool := logical.features &&& feature ≠ 0
  [(logical.tier = 0, "free"), (has FEATURE_IPV6, "ipv6"), (has FEATURE_P2P, "p2p"),
    (has (FEATURE_B2B ||| FEATURE_PARTNER), "partnership"), (has FEATURE_SECURE_CORE, "secureCore"),
    (has FEATURE_STREAMING, "streaming"), (has FEATURE_TOR, "tor")]

/-- The `client_features` of an event. -/
def clientFeatures (settings : StoredSettings) (hasActiveExclusions : Bool) :
    List (Bool × String) :=
  [(settings.customDns.enabled, "custom_dns"), (hasActiveExclusions, "connection_preferences"),
    (settings.killswitch ≠ 0, "kill_switch"), (settings.moderateNat, "moderate_nat"),
    (settings.netshield ≠ 0, "netshield"), (settings.portForwarding, "port_forwarding"),
    (settings.splitTunneling.enabled, "split_tunneling")]

/-- The `user_tier` of an event. -/
def userTier (tier : UInt8) : String :=
  if tier = 0 then "free" else if tier = 1 ∨ tier = 2 then "paid"
  else if tier = 3 then "internal" else "n/a"

/-- The `Dimensions` of an event. -/
def ConnectionFeedbackSession.dimensions (feedback : ConnectionFeedbackSession)
    (session : SessionFacts) (settings : StoredSettings) (hasActiveExclusions : Bool) :
    List (String × String) :=
  let logical := feedback.target.logical
  [("outcome", "success"), ("user_tier", userTier session.tier), ("vpn_status", "on"),
    ("vpn_trigger", feedback.trigger), ("network_type", "n/a"),
    ("server_features", joinNames (serverFeatures logical)),
    ("vpn_country", stringDimension logical.exitCountry),
    ("user_country", stringDimension session.country),
    ("protocol", protocolDimension feedback.protocol), ("server", stringDimension logical.name),
    ("entry_ip", stringDimension feedback.target.physical.entryIp), ("port", "n/a"),
    ("isp", stringDimension session.isp),
    ("is_ipv6_enabled", toString (settings.ipv6 && logical.features &&& FEATURE_IPV6 ≠ 0)),
    ("has_active_exclusions", toString hasActiveExclusions), ("failure_reason", "n/a"),
    ("is_smart_protocol",
      toString (settings.protocol = "smart" || settings.protocol = "protun-smart")),
    ("client_features", if (clientFeatures settings hasActiveExclusions).any (·.1) then
      joinNames (clientFeatures settings hasActiveExclusions) else "none"),
    ("tenure", "unknown"), ("user_feedback", feedback.userFeedback)]

/-- `sessionLength` is the time since the start, in milliseconds.
Source: `telemetry.rs` `ConnectionFeedbackSession::event` -/
def ConnectionFeedbackSession.event (feedback : ConnectionFeedbackSession) (sessionLength : Number)
    (session : SessionFacts) (settings : StoredSettings) (hasActiveExclusions : Bool) : Value :=
  .obj [("MeasurementGroup", .string "vpn.any.connection"), ("Event", .string "vpn_disconnection"),
    ("Values", .obj [("session_length", .number sessionLength)]),
    ("Dimensions", .obj ((feedback.dimensions session settings hasActiveExclusions).map
      fun (name, value) => (name, .string value)))]

/-- The queue accepts every event that is built. -/
theorem validEvent_event (feedback : ConnectionFeedbackSession) (sessionLength : Number)
    (session : SessionFacts) (settings : StoredSettings) (hasActiveExclusions : Bool) :
    validEvent (feedback.event sessionLength session settings hasActiveExclusions) = true := by
  simp only [validEvent, ConnectionFeedbackSession.event, Value.get_obj]
  simp [Map.get_cons, Value.obj]

theorem get_userFeedback (feedback : ConnectionFeedbackSession) (sessionLength : Number)
    (session : SessionFacts) (settings : StoredSettings) (hasActiveExclusions : Bool) :
    ((feedback.event sessionLength session settings hasActiveExclusions).get "Dimensions").bind
      (·.get "user_feedback") = some (.string feedback.userFeedback) := by
  have hdimensions : (feedback.event sessionLength session settings hasActiveExclusions).get
      "Dimensions" = some (.obj ((feedback.dimensions session settings hasActiveExclusions).map
        fun (name, value) => (name, .string value))) := by
    rw [ConnectionFeedbackSession.event, Value.get_obj]
    simp [Map.get_cons]
  rw [hdimensions, Option.bind_some, Value.get_obj]
  simp [ConnectionFeedbackSession.dimensions, Map.get_cons]

/-! ## Requests -/

/-- A request for `connection.feedback`, with the setting and the feature flag that it finds -/
structure Request where
  params : Value
  shareStatistics : Bool
  featureEnabled : Bool

/-- The value that a request names. -/
def Request.value (request : Request) : String :=
  toAsciiLowercase (trim (((request.params.get "value").bind Value.asStr).getD ""))

/-- The session after a request that is accepted. Source: `mod.rs` `connection_feedback` -/
def connectionFeedback (request : Request) (session : Option ConnectionFeedbackSession) :
    NativeResult ConnectionFeedbackSession := do
  reject (request.value ∉ ["viewed", "positive", "negative", "dismissed"])
    (.new "invalid_params" "Connection feedback must be viewed, positive, negative or dismissed")
  reject (!request.shareStatistics || !request.featureEnabled)
    (.new "connection_feedback_unavailable" "Connection feedback is unavailable for this session")
  let feedback ← okOrElse session
    (.new "connection_feedback_unavailable"
      "Connect Proton VPN before submitting connection feedback")
  reject ((feedback.sent || feedback.dismissed) ∧ request.value ∉ ["viewed", "dismissed"])
    (.new "connection_feedback_already_sent"
      "Connection feedback was already submitted for this session")
  pure (feedback.updateFeedback request.value)

/-- A request that is refused leaves the session as it is. -/
def ConnectionFeedbackSession.after (session : ConnectionFeedbackSession) (request : Request) :
    ConnectionFeedbackSession :=
  match connectionFeedback request (some session) with
  | .ok session => session
  | .error _ => session

/-! ## What the user said -/

inductive Answer where
  | viewed
  | dismissed
  | rated (positive : Bool)
  deriving DecidableEq

def Answer.parse : String → Option Answer
  | "viewed" => some .viewed
  | "dismissed" => some .dismissed
  | "positive" => some (.rated true)
  | "negative" => some (.rated false)
  | _ => none

def Answer.text : Answer → String
  | viewed => "viewed"
  | dismissed => "dismissed"
  | rated true => "positive"
  | rated false => "negative"

/-- What the user says by a request, as far as it is listened to. -/
def Request.answer? (request : Request) : Option Answer :=
  if request.shareStatistics && request.featureEnabled then Answer.parse request.value else none

/-- The rating that counts: the first one, if the question was not dismissed before. -/
def rating? : List Answer → Option Bool
  | [] => none
  | .viewed :: later => rating? later
  | .dismissed :: _ => none
  | .rated positive :: _ => some positive

/-- What is reported of the answers. -/
def verdict (answers : List Answer) : String :=
  match rating? answers with
  | some true => "positive"
  | some false => "negative"
  | none => if answers = [] then "unknown" else "ignore"

theorem rating?_append_singleton (answers : List Answer) (answer : Answer) :
    rating? (answers ++ [answer]) =
      (rating? answers).or (if .dismissed ∈ answers then none else rating? [answer]) := by
  induction answers with
  | nil => simp [rating?]
  | cons first answers ih =>
      cases first with
      | viewed => simp [rating?, ih]
      | dismissed => simp [rating?]
      | rated positive => simp [rating?]

/-- The session holds what the answers amount to. -/
structure Holds (session : ConnectionFeedbackSession) (answers : List Answer) : Prop where
  sent : session.sent = (rating? answers).isSome
  dismissed : session.dismissed = decide (.dismissed ∈ answers)
  viewed : session.viewed = decide (answers ≠ [])
  userFeedback : session.userFeedback = verdict answers

theorem text_of_parse {value : String} {answer : Answer} (h : Answer.parse value = some answer) :
    value = answer.text := by
  unfold Answer.parse at h
  split at h <;> cases h <;> rfl

theorem mem_values_iff (value : String) :
    value ∈ ["viewed", "positive", "negative", "dismissed"] ↔ (Answer.parse value).isSome := by
  constructor
  · intro h
    simp only [List.mem_cons, List.not_mem_nil, or_false] at h
    rcases h with rfl | rfl | rfl | rfl <;> rfl
  · intro h
    obtain ⟨answer, hanswer⟩ := Option.isSome_iff_exists.mp h
    rw [text_of_parse hanswer]
    rcases answer with _ | _ | _ | _ <;> simp [Answer.text]

/-- The answer is no rating. -/
def Answer.Aside : Answer → Prop
  | rated _ => False
  | _ => True

theorem aside_iff (answer : Answer) : answer.text ∈ ["viewed", "dismissed"] ↔ answer.Aside := by
  rcases answer with _ | _ | _ | _ <;> simp [Answer.text, Answer.Aside]

/-- A request is accepted if it is listened to, and is no second rating nor one behind a
dismissal. -/
theorem connectionFeedback_eq_ok_iff {request : Request}
    {session after : ConnectionFeedbackSession} :
    connectionFeedback request (some session) = .ok after ↔
      ∃ answer, request.answer? = some answer ∧
        ((session.sent || session.dismissed) = true → answer.Aside) ∧
        after = session.updateFeedback answer.text := by
  constructor
  · intro h
    unfold connectionFeedback at h
    obtain ⟨⟨⟩, hvalue, h⟩ := Except.bind_eq_ok.mp h
    obtain ⟨⟨⟩, hon, h⟩ := Except.bind_eq_ok.mp h
    obtain ⟨feedback, hfeedback, h⟩ := Except.bind_eq_ok.mp h
    obtain ⟨⟨⟩, hfirst, h⟩ := Except.bind_eq_ok.mp h
    obtain rfl : session = feedback := Except.ok.inj hfeedback
    obtain rfl := Except.ok.inj h
    obtain ⟨answer, hanswer⟩ :=
      Option.isSome_iff_exists.mp ((mem_values_iff _).mp (not_not.mp (reject_eq_ok hvalue)))
    have hlistened : (request.shareStatistics && request.featureEnabled) = true := by
      simpa using reject_eq_ok hon
    have htext := text_of_parse hanswer
    refine ⟨answer, by rw [Request.answer?, if_pos hlistened, hanswer], fun hclosed => ?_,
      by rw [htext]⟩
    rw [← aside_iff, ← htext]
    by_contra hrated
    exact reject_eq_ok hfirst ⟨hclosed, hrated⟩
  · rintro ⟨answer, hanswer, haside, rfl⟩
    unfold Request.answer? at hanswer
    split_ifs at hanswer with hlistened
    have htext := text_of_parse hanswer
    have hvalue : request.value ∈ ["viewed", "positive", "negative", "dismissed"] :=
      (mem_values_iff _).mpr (by simp [hanswer])
    have hon : ¬ (!request.shareStatistics || !request.featureEnabled) = true := by
      simpa using hlistened
    have hfirst : ¬ ((session.sent || session.dismissed) = true ∧
        request.value ∉ ["viewed", "dismissed"]) := by
      rintro ⟨hclosed, hrated⟩
      rw [htext, aside_iff] at hrated
      exact hrated (haside hclosed)
    unfold connectionFeedback
    rw [reject_of_not (not_not.mpr hvalue), reject_of_not hon]
    show (reject ((session.sent || session.dismissed) = true ∧
      request.value ∉ ["viewed", "dismissed"]) _ >>= _) = _
    rw [reject_of_not hfirst, ← htext]
    rfl

/-- An answer that is listened to: a rating that comes too late changes nothing. -/
theorem after_of_answer {session : ConnectionFeedbackSession} {request : Request} {answer : Answer}
    (h : request.answer? = some answer) :
    session.after request =
      if (session.sent || session.dismissed) = true ∧ ∃ positive, answer = .rated positive then
        session
      else session.updateFeedback answer.text := by
  unfold ConnectionFeedbackSession.after
  split_ifs with hlate
  · cases hresult : connectionFeedback request (some session) with
    | ok after =>
        obtain ⟨hclosed, positive, rfl⟩ := hlate
        obtain ⟨other, hother, haside, -⟩ := connectionFeedback_eq_ok_iff.mp hresult
        obtain rfl := Option.some.inj (h.symm.trans hother)
        exact absurd (haside hclosed) id
    | error error => rfl
  · have haside : (session.sent || session.dismissed) = true → answer.Aside := by
      intro hclosed
      cases answer with
      | rated positive => exact hlate ⟨hclosed, positive, rfl⟩
      | viewed => exact trivial
      | dismissed => exact trivial
    rw [connectionFeedback_eq_ok_iff.mpr ⟨answer, h, haside, rfl⟩]

theorem after_of_none {session : ConnectionFeedbackSession} {request : Request}
    (h : request.answer? = none) : session.after request = session := by
  unfold ConnectionFeedbackSession.after
  cases hresult : connectionFeedback request (some session) with
  | ok after =>
      obtain ⟨answer, hanswer, -⟩ := connectionFeedback_eq_ok_iff.mp hresult
      rw [h] at hanswer
      cases hanswer
  | error error => rfl

theorem updateFeedback_text (session : ConnectionFeedbackSession) (answer : Answer) :
    session.updateFeedback answer.text =
      { session with
        viewed := true
        dismissed := session.dismissed || answer = .dismissed
        sent := session.sent || (rating? [answer]).isSome
        userFeedback := if (rating? [answer]).isSome then answer.text
          else if session.sent then session.userFeedback else "ignore" } := by
  rcases answer with _ | _ | _ | _
  all_goals
    simp only [Answer.text, ConnectionFeedbackSession.updateFeedback, rating?]
    cases hsent : session.sent <;> simp [hsent]

/-- One request -/
theorem holds_after {session : ConnectionFeedbackSession} {answers : List Answer}
    (h : Holds session answers) (request : Request) :
    Holds (session.after request) (answers ++ request.answer?.toList) := by
  obtain ⟨hsent, hdismissed, hviewed, hfeedback⟩ := h
  cases hanswer : request.answer? with
  | none =>
      rw [after_of_none hanswer, Option.toList_none, List.append_nil]
      exact ⟨hsent, hdismissed, hviewed, hfeedback⟩
  | some answer =>
      rw [after_of_answer hanswer, Option.toList_some]
      have hrating := rating?_append_singleton answers answer
      split_ifs with hlate
      · -- the rating does not count
        obtain ⟨hclosed, positive, rfl⟩ := hlate
        rw [hsent, hdismissed] at hclosed
        have hnonempty : answers ≠ [] := by
          rintro rfl
          simp [rating?] at hclosed
        have hsame : rating? (answers ++ [.rated positive]) = rating? answers := by
          cases hfirst : rating? answers with
          | none => simp_all
          | some first => simp_all
        refine ⟨by rw [hsame, hsent], by simp [hdismissed], by simp [hviewed, hnonempty], ?_⟩
        simp [hfeedback, verdict, hsame, hnonempty]
      · rw [updateFeedback_text]
        have hcounts : rating? (answers ++ [answer]) = (rating? answers).or (rating? [answer]) := by
          rw [hrating]
          split_ifs with hmem
          · cases answer with
            | rated positive => exact absurd ⟨by simp [hdismissed, hmem], positive, rfl⟩ hlate
            | _ => rfl
          · rfl
        refine ⟨by simp [hsent, hcounts], by simp [hdismissed, eq_comm], by simp, ?_⟩
        cases answer with
        | rated positive =>
            have hopen : rating? answers = none := by
              by_contra hsome
              exact hlate ⟨by simp [hsent, Option.isSome_iff_ne_none.mpr hsome], positive, rfl⟩
            cases positive <;> simp [verdict, hcounts, hopen, rating?, Answer.text]
        | viewed | dismissed =>
            cases hfirst : rating? answers with
            | none => simp [verdict, hcounts, hfirst, rating?, hsent]
            | some positive =>
                cases positive <;> simp [verdict, hcounts, hfirst, rating?, hsent, hfeedback]

/-- What a tunnel's session is after the requests that were made while it was up. -/
def ConnectionFeedbackSession.afterAll (session : ConnectionFeedbackSession)
    (requests : List Request) : ConnectionFeedbackSession :=
  requests.foldl ConnectionFeedbackSession.after session

theorem holds_afterAll {session : ConnectionFeedbackSession} {answers : List Answer}
    (h : Holds session answers) (requests : List Request) :
    Holds (session.afterAll requests) (answers ++ requests.filterMap Request.answer?) := by
  induction requests generalizing session answers with
  | nil => simpa [ConnectionFeedbackSession.afterAll] using h
  | cons request requests ih =>
      have hnext := ih (holds_after h request)
      have hanswers : request.answer?.toList ++ requests.filterMap Request.answer? =
          (request :: requests).filterMap Request.answer? := by
        cases hanswer : request.answer? <;> simp [hanswer]
      rwa [List.append_assoc, hanswers] at hnext

end ProtonVpnOmarchy.Agent.Statistics
