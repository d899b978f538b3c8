import ProtonVpnOmarchy.Agent.Api.Basic

/-!
# The fallback of routes

Whatever the network, the clock, the switch and the other requests do, a call ends, with few
requests, and it takes the routes in their order.

* `settled_settle` — what a round can do with an outcome.
* `ends_apiLoop` — a call ends: each round makes the budget of attempts smaller.
* `keeps_apiLoop` — a call sends at most six requests and never goes back to an earlier route.
* `clears_apiLoop` — a call that ends with `api_unreachable` leaves no cached route.
* `starts_apiLoop` — a call without a cached route starts with the direct one.
* `call_fallback` — these together, and that both functions decide alike.
-/

namespace ProtonVpnOmarchy.Agent.Api

open Lib Lib.Dialogue Native
open Account (ApiSession)

abbrev History := List (Event Query Answer)

/-! ## What a history shows -/

/-- The order of the routes. -/
def ApiRoute.rank : ApiRoute → ℕ
  | direct => 0
  | alternative _ => 1
  | account => 2

theorem ApiRoute.rank_le (route : ApiRoute) : route.rank ≤ 2 := by
  cases route with
  | direct => exact Nat.zero_le 2
  | alternative host => exact Nat.le_succ 1
  | account => exact le_rfl

def sentRoute : Event Query Answer → Option ApiRoute
  | ⟨.send route _, _⟩ => some route
  | _ => none

/-- The routes of the requests that were sent, the newest first. -/
def sends (past : History) : List ApiRoute := past.filterMap sentRoute

def isChallenge : Event Query Answer → Bool
  | ⟨.solveCaptcha _, _⟩ => true
  | _ => false

/-- How often human verification was asked for. -/
def challenges (past : History) : ℕ := past.countP isChallenge

/-- The cached route after a history in which no other request changes it. -/
def cachedAfter (initial : Option CachedAlternativeRoute) :
    History → Option CachedAlternativeRoute
  | [] => initial
  | ⟨.setCachedRoute route, _⟩ :: _ => route
  | _ :: past => cachedAfter initial past

/-- The switch is on whenever it is looked at. -/
def SwitchOn : History → Prop := Always fun event _ =>
  match event with
  | ⟨.enabled, enabled⟩ => enabled = true
  | _ => True

/-- No other request changes the cached route. -/
def Alone (initial : Option CachedAlternativeRoute) : History → Prop := Always fun event past =>
  match event with
  | ⟨.cachedRoute, cached⟩ => cached = cachedAfter initial past
  | _ => True

/-- The routes are taken in their order, with at most one alternative host, few requests are sent,
and human verification is asked for at most once. -/
structure Orderly (past : History) : Prop where
  few : (sends past).length ≤ 6
  forward : (sends past).Pairwise fun later earlier => earlier.rank ≤ later.rank
  oneHost : ∀ host host', .alternative host ∈ sends past → .alternative host' ∈ sends past →
    host = host'
  oneChallenge : challenges past ≤ 1

/-! ## What a round can do -/

/-- The loop goes on with a token. -/
def verified (s : Attempt) : NativeResult String → Exchange (Attempt ⊕ NativeResult Value)
  | .error error => .pure (.inr (.error error))
  | .ok token => .pure (.inl { s with humanVerificationToken := some token })

/-- A round ends with another result than `api_unreachable`, or with a pause before an attempt that
is repeated. -/
inductive Plain (s : Attempt) : Exchange (Attempt ⊕ NativeResult Value) → Prop
  | result {result : NativeResult Value}
      (h : ∀ error, result = .error error → error.code ≠ "api_unreachable") :
      Plain s (.pure (.inr result))
  | retry (milliseconds : ℕ) (h : s.transientAttempt < 2) :
      Plain s (.ask (.sleep milliseconds) fun _ => .pure (.inl s.retry))

/-- What a round does with an outcome: only a transport failure that no later route follows ends in
`api_unreachable`. -/
inductive Settled (s : Attempt) : Exchange (Attempt ⊕ NativeResult Value) → Prop
  | plain {d : Exchange (Attempt ⊕ NativeResult Value)} (h : Plain s d) : Settled s d
  | verify (challenge : String) (h : s.humanVerificationToken = none) :
      Settled s ((solveHumanVerification challenge).bind (verified s))
  | giveUp {failed : Exchange (Attempt ⊕ NativeResult Value)}
      (h : Plain s failed ∨ ∃ error, failed = .pure (.inr (.error (unreachable error)))) :
      Settled s (giveUpRoute s failed)

theorem code_apiError (status : ℕ) (code : ℤ) (payload : Value) :
    (apiError status code payload).code ≠ "api_unreachable" := by
  unfold apiError errorKind
  dsimp only
  split_ifs <;> decide +kernel

theorem code_validateTlsPin {response : Response} {pins : List String} {error : NativeError}
    (h : validateTlsPin response pins = .error error) : error.code ≠ "api_unreachable" := by
  unfold validateTlsPin at h
  split at h
  · obtain rfl := Except.error.inj h
    decide +kernel
  · obtain rfl := Except.error.inj h
    exact show ("tls_certificate_invalid" : String) ≠ "api_unreachable" by decide +kernel
  · split at h
    · cases h
    · obtain rfl := Except.error.inj h
      decide +kernel

theorem code_readBody {invalid : ℕ → String → NativeError}
    (hinvalid : ∀ size reason, (invalid size reason).code = "api_response_invalid") {limit size : ℕ}
    {chunks : List (Except String ℕ)} {error : NativeError}
    (h : readBody invalid limit chunks size = .error error) : error.code = "api_response_invalid" := by
  induction chunks generalizing size with
  | nil => cases h
  | cons chunk chunks ih =>
      cases chunk with
      | error text =>
          obtain rfl := Except.error.inj h
          exact hinvalid _ _
      | ok chunk =>
          unfold readBody at h
          split at h
          · obtain rfl := Except.error.inj h
            exact hinvalid _ _
          · exact ih h

theorem code_decodeApiResponse {response : Response} {route : ApiRoute} {error : NativeError}
    (h : decodeApiResponse response route = .error error) :
    error.code = "api_response_invalid" := by
  unfold decodeApiResponse at h
  dsimp only at h
  split at h
  · obtain rfl := Except.error.inj h
    rfl
  · cases hbody : readBody (invalidResponseError response.status route
        (String.ofList ((response.contentType.getD "unknown").toList.take 80)))
        (responseBodyLimit response.path) response.chunks 0 with
    | error error' =>
        rw [hbody] at h
        obtain rfl := Except.error.inj h
        exact code_readBody (fun _ _ => rfl) hbody
    | ok size =>
        rw [hbody] at h
        cases hjson : response.json with
        | error text =>
            rw [hjson] at h
            obtain rfl := Except.error.inj h
            rfl
        | ok payload =>
            rw [hjson] at h
            cases h

theorem settled_judge (pause : Option ℕ → ℕ) (s : Attempt) (decoded : Decoded) :
    Settled s (judge pause s decoded) := by
  unfold judge
  dsimp only
  split
  · exact .plain (.result nofun)
  · split
    · rename_i challenge hchallenge
      split at hchallenge
      · rename_i htoken
        exact .verify challenge (Option.isNone_iff_eq_none.mp htoken)
      · cases hchallenge
    · split
      · rename_i htransient
        exact .plain (.retry _ htransient.1)
      · refine .plain (.result ?_)
        rintro error ⟨⟩
        exact code_apiError _ _ _

theorem settled_settle (pause : Option ℕ → ℕ) (s : Attempt) (outcome : Except String Response) :
    Settled s (settle pause s outcome) := by
  unfold settle
  cases outcome with
  | error error =>
      refine .giveUp ?_
      split
      · rename_i htransient
        exact .inl (.retry _ htransient)
      · exact .inr ⟨error, rfl⟩
  | ok response =>
      dsimp only
      split
      · rename_i error herror
        refine .giveUp (.inl (.result ?_))
        rintro error ⟨⟩
        exact code_validateTlsPin herror
      · split
        · rename_i error herror
          refine .giveUp (.inl (.result ?_))
          rintro error ⟨⟩
          rw [code_decodeApiResponse herror]
          decide +kernel
        · exact settled_judge pause s _

/-! ## A call ends -/

/-- The attempts that are left: two that are repeated, one with human verification, and those with
later routes. -/
def Attempt.budget (s : Attempt) : ℕ :=
  (2 - s.transientAttempt) + (if s.humanVerificationToken.isNone then 1 else 0) + (2 - s.route.rank)

theorem Attempt.budget_moveTo {s : Attempt} {next : ApiRoute} (h : s.route.rank < next.rank) :
    (s.moveTo next).budget < s.budget := by
  have hle := next.rank_le
  unfold budget moveTo
  dsimp only
  omega

theorem Attempt.budget_retry {s : Attempt} (h : s.transientAttempt < 2) :
    s.retry.budget < s.budget := by
  unfold budget retry
  dsimp only
  omega

theorem Attempt.budget_verified {s : Attempt} (h : s.humanVerificationToken = none)
    (token : String) : ({ s with humanVerificationToken := some token } : Attempt).budget < s.budget := by
  unfold budget
  rw [h]
  simp

theorem ends_fallBack {current : ApiRoute} (h : current ≠ .account) :
    Ends (fun next => ∀ route, next = some route → current.rank < route.rank) fallBack := by
  refine .ask fun now => .ask fun _ => .pure ?_
  rintro route ⟨⟩
  cases current with
  | direct => exact Nat.zero_lt_two
  | alternative host => exact Nat.one_lt_two
  | account => exact absurd rfl h

/-- The next route is a later one. -/
theorem ends_routeAfterTransportFailure (current : ApiRoute) (triedAlternative : Bool) :
    Ends (fun next => ∀ route, next = some route → current.rank < route.rank)
      (routeAfterTransportFailure current triedAlternative) := by
  refine .ask fun enabled => ?_
  cases enabled with
  | false => exact .pure nofun
  | true =>
      dsimp only
      by_cases haccount : current = .account
      · rw [if_pos haccount]
        exact .ask fun _ => .pure nofun
      · rw [if_neg haccount]
        split
        · rename_i hdirect
          refine .ask fun found => ?_
          cases found with
          | ok found =>
              refine .ask fun now => .ask fun _ => .pure ?_
              rintro route ⟨⟩
              cases current with
              | direct => exact Nat.zero_lt_one
              | alternative host => cases hdirect
              | account => exact absurd rfl haccount
          | error error => exact ends_fallBack haccount
        · exact ends_fallBack haccount

theorem ends_giveUpRoute {s : Attempt} {failed : Exchange (Attempt ⊕ NativeResult Value)}
    (h : Ends (fun r => r.elim (fun s' => s'.budget < s.budget) fun _ => True) failed) :
    Ends (fun r => r.elim (fun s' => s'.budget < s.budget) fun _ => True) (giveUpRoute s failed) := by
  refine ends_bind (ends_routeAfterTransportFailure _ _) fun next hnext => ?_
  cases next with
  | none => exact h
  | some route => exact .pure (Attempt.budget_moveTo (hnext route rfl))

theorem ends_solveHumanVerification (challenge : String) :
    Ends (fun _ => True) (solveHumanVerification challenge) := by
  refine .ask fun free => ?_
  cases free with
  | false => exact .pure trivial
  | true =>
      refine .ask fun _ => .ask fun solved => ?_
      cases solved with
      | error error => exact .pure trivial
      | ok token =>
          dsimp only
          split
          · exact .pure trivial
          · exact .ask fun _ => .pure trivial

theorem ends_plain {s : Attempt} {d : Exchange (Attempt ⊕ NativeResult Value)} (h : Plain s d) :
    Ends (fun r => r.elim (fun s' => s'.budget < s.budget) fun _ => True) d := by
  cases h with
  | result h => exact .pure trivial
  | retry milliseconds h => exact .ask fun _ => .pure (Attempt.budget_retry h)

/-- A round ends, and if the loop goes on the budget is smaller. -/
theorem ends_apiRound (endpoint : String) (content : Content) (session : Option ApiSession)
    (pause : Option ℕ → ℕ) (s : Attempt) :
    Ends (fun r => r.elim (fun s' => s'.budget < s.budget) fun _ => True)
      (apiRound endpoint content session pause s) := by
  refine .ask fun outcome => ?_
  have hsettled := settled_settle pause s outcome
  generalize settle pause s outcome = d at hsettled ⊢
  cases hsettled with
  | plain h => exact ends_plain h
  | verify challenge h =>
      refine ends_bind (ends_solveHumanVerification challenge) fun result _ => ?_
      cases result with
      | error error => exact .pure trivial
      | ok token => exact .pure (Attempt.budget_verified h token)
  | giveUp h =>
      refine ends_giveUpRoute ?_
      rcases h with h | ⟨error, rfl⟩
      · exact ends_plain h
      · exact .pure trivial

theorem ends_initialRoute : Ends (fun _ => True) initialRoute := by
  refine .ask fun enabled => ?_
  cases enabled with
  | false => exact .pure trivial
  | true =>
      refine .ask fun cached => ?_
      cases cached with
      | none => exact .pure trivial
      | some cached =>
          refine .ask fun now => ?_
          by_cases hexpired : now < cached.expiresAt
          · rw [if_pos hexpired]
            exact .pure trivial
          · rw [if_neg hexpired]
            exact .ask fun _ => .pure trivial

theorem ends_apiLoop (endpoint : String) (content : Content) (session : Option ApiSession)
    (pause : Option ℕ → ℕ) :
    Ends (fun _ => True) (apiLoop endpoint content session pause) := by
  refine ends_bind ends_initialRoute fun route _ => ?_
  exact ends_loop Attempt.budget (ends_apiRound endpoint content session pause)
    (fun _ _ => .pure trivial) _

/-! ## A call is orderly -/

/-- The variables of the loop, and what has been sent so far. -/
structure Within (s : Attempt) (bound : ℕ) (past : History) : Prop where
  orderly : Orderly past
  room : (sends past).length + s.budget ≤ bound
  behind : ∀ route ∈ sends past, route.rank ≤ s.route.rank
  host : ∀ host, .alternative host ∈ sends past → s.route = .alternative host ∨ s.route = .account
  unasked : s.humanVerificationToken = none → challenges past = 0

/-- Questions that neither send a request nor ask for human verification. -/
def Quiet : Query → Prop
  | .send .. | .solveCaptcha _ => False
  | _ => True

theorem sends_of_quiet {q : Query} (h : Quiet q) (a : Answer q) (past : History) :
    sends (⟨q, a⟩ :: past) = sends past := by
  cases q <;> first | rfl | exact h.elim

theorem challenges_of_quiet {q : Query} (h : Quiet q) (a : Answer q) (past : History) :
    challenges (⟨q, a⟩ :: past) = challenges past := by
  cases q <;> first | rfl | exact h.elim

theorem Within.quiet {s : Attempt} {bound : ℕ} {q : Query} (a : Answer q) {past : History}
    (hq : Quiet q) (h : Within s bound past) : Within s bound (⟨q, a⟩ :: past) := by
  obtain ⟨⟨few, forward, oneHost, oneChallenge⟩, room, behind, host, unasked⟩ := h
  rw [← sends_of_quiet hq a past] at few forward oneHost room behind host
  rw [← challenges_of_quiet hq a past] at oneChallenge unasked
  exact ⟨⟨few, forward, oneHost, oneChallenge⟩, room, behind, host, unasked⟩

theorem Within.send {s : Attempt} {past : History} (h : Within s 5 past) (request : Request)
    (outcome : Except String Response) : Within s 6 (⟨.send s.route request, outcome⟩ :: past) := by
  have hsends : sends (⟨.send s.route request, outcome⟩ :: past) = s.route :: sends past := rfl
  have hroom := h.room
  have hbehind : ∀ route ∈ s.route :: sends past, route.rank ≤ s.route.rank :=
    List.forall_mem_cons.mpr ⟨le_rfl, h.behind⟩
  have hhost : ∀ host, .alternative host ∈ s.route :: sends past →
      s.route = .alternative host ∨ s.route = .account := by
    intro host hmem
    rcases List.mem_cons.mp hmem with heq | hmem
    · exact .inl heq.symm
    · exact h.host host hmem
  refine ⟨⟨?_, ?_, ?_, h.orderly.oneChallenge⟩, ?_, hsends ▸ hbehind, hsends ▸ hhost, h.unasked⟩
  · rw [hsends, List.length_cons]
    omega
  · rw [hsends, List.pairwise_cons]
    exact ⟨h.behind, h.orderly.forward⟩
  · -- The new route is the alternative one, and then it is the only one, or it is not.
    rw [hsends]
    intro host host' hmem hmem'
    rcases hhost host hmem with heq | heq
    · rcases hhost host' hmem' with heq' | heq'
      · exact ApiRoute.alternative.inj (heq.symm.trans heq')
      · rw [heq] at heq'
        cases heq'
    · rw [heq] at hmem hmem'
      exact h.orderly.oneHost host host' (by simpa using hmem) (by simpa using hmem')
  · rw [hsends, List.length_cons]
    omega

theorem Within.retry {s : Attempt} {past : History} (h : Within s 6 past)
    (htransient : s.transientAttempt < 2) : Within s.retry 5 past := by
  have hroom := h.room
  have hbudget := Attempt.budget_retry htransient
  exact ⟨h.orderly, by omega, h.behind, h.host, h.unasked⟩

theorem Within.moveTo {s : Attempt} {past : History} (h : Within s 6 past) {next : ApiRoute}
    (hlater : s.route.rank < next.rank) : Within (s.moveTo next) 5 past := by
  have hroom := h.room
  have hbudget := Attempt.budget_moveTo hlater
  refine ⟨h.orderly, by omega, fun route hmem => (h.behind route hmem).trans hlater.le, ?_,
    h.unasked⟩
  intro host hmem
  have hrank := h.behind _ hmem
  right
  change next = .account
  cases next with
  | direct => cases hlater
  | alternative host' => exact absurd (hrank.trans_lt hlater) (Nat.lt_irrefl 1)
  | account => rfl

theorem Within.verified {s : Attempt} {past : History} (h : Within s 6 past)
    (htoken : s.humanVerificationToken = none) (challenge token : String)
    (solved : Except CaptchaError String) :
    Within { s with humanVerificationToken := some token } 5
      (⟨.solveCaptcha challenge, solved⟩ :: past) := by
  have hroom := h.room
  have hbudget := Attempt.budget_verified htoken token
  have hchallenges : challenges (⟨.solveCaptcha challenge, solved⟩ :: past) = challenges past + 1 :=
    List.countP_cons_of_pos rfl
  have hsends : sends (⟨.solveCaptcha challenge, solved⟩ :: past) = sends past := rfl
  obtain ⟨⟨few, forward, oneHost, -⟩, room, behind, host, unasked⟩ := h
  rw [← hsends] at few forward oneHost behind host
  refine ⟨⟨few, forward, oneHost, ?_⟩, ?_, behind, host, nofun⟩
  · rw [hchallenges, unasked htoken]
  · rw [hsends]
    omega

theorem quiet_routeAfterTransportFailure (current : ApiRoute) (triedAlternative : Bool) :
    Only Quiet (routeAfterTransportFailure current triedAlternative) := by
  have hfallBack : Only Quiet fallBack := ⟨trivial, fun _ => ⟨trivial, fun _ => trivial⟩⟩
  refine ⟨trivial, fun enabled => ?_⟩
  cases enabled with
  | false => exact trivial
  | true =>
      dsimp only
      by_cases haccount : current = .account
      · rw [if_pos haccount]
        exact ⟨trivial, fun _ => trivial⟩
      · rw [if_neg haccount]
        split
        · refine ⟨trivial, fun found => ?_⟩
          cases found with
          | ok found => exact ⟨trivial, fun _ => ⟨trivial, fun _ => trivial⟩⟩
          | error error => exact hfallBack
        · exact hfallBack

/-- The postcondition of a round. -/
def Goes (r : Attempt ⊕ NativeResult Value) (past : History) : Prop :=
  r.elim (Within · 5 past) fun _ => True

theorem keeps_giveUpRoute {s : Attempt} {past : History} (h : Within s 6 past)
    {failed : Exchange (Attempt ⊕ NativeResult Value)}
    (hfailed : ∀ past, Within s 6 past → Keeps (fun _ => True) Orderly failed past Goes) :
    Keeps (fun _ => True) Orderly (giveUpRoute s failed) past Goes := by
  have hroute : Keeps (fun _ => True) Orderly
      (routeAfterTransportFailure s.route s.triedAlternative) past fun _ past' => Within s 6 past' :=
    (quiet_routeAfterTransportFailure s.route s.triedAlternative).keeps
      (Within s 6) (fun _ h => h.orderly) (fun q a past hq h => h.quiet a hq) h
  refine keeps_bind (hroute.and_ends (ends_routeAfterTransportFailure _ _)) ?_ closed_true
  rintro next past' - ⟨hwithin, hlater⟩
  cases next with
  | none => exact hfailed past' hwithin
  | some route => exact keeps_pure hwithin.orderly (hwithin.moveTo (hlater route rfl))

theorem keeps_plain {s : Attempt} {d : Exchange (Attempt ⊕ NativeResult Value)} (h : Plain s d)
    {past : History} (hwithin : Within s 6 past) :
    Keeps (fun _ => True) Orderly d past Goes := by
  cases h with
  | result h => exact keeps_pure hwithin.orderly trivial
  | retry milliseconds h =>
      refine keeps_ask closed_true hwithin.orderly fun _ _ => ?_
      have hquiet := hwithin.quiet (q := .sleep milliseconds) () trivial
      exact keeps_pure hquiet.orderly (hquiet.retry h)

theorem keeps_solveHumanVerification {s : Attempt} {past : History} (h : Within s 6 past)
    (htoken : s.humanVerificationToken = none) (challenge : String) :
    Keeps (fun _ => True) Orderly (solveHumanVerification challenge) past fun result past' =>
      ∀ token, Within { s with humanVerificationToken := some token } 5 past' ∨
        ∃ error, result = .error error := by
  refine keeps_ask closed_true h.orderly fun free _ => ?_
  replace h := @Within.quiet _ _ .tryLockVerification free _ trivial h
  cases free with
  | false => exact keeps_pure h.orderly fun _ => .inr ⟨_, rfl⟩
  | true =>
      refine keeps_ask closed_true h.orderly fun _ _ => ?_
      replace h := @Within.quiet _ _ (.stageAuth "auth.waiting_for_human_verification") () _ trivial h
      refine keeps_ask closed_true h.orderly fun solved _ => ?_
      have hverified := fun token => h.verified htoken challenge token solved
      have horderly := (hverified "").orderly
      cases solved with
      | error error => exact keeps_pure horderly fun _ => .inr ⟨_, rfl⟩
      | ok token =>
          dsimp only
          split
          · exact keeps_pure horderly fun _ => .inr ⟨_, rfl⟩
          · refine keeps_ask closed_true horderly fun _ _ => ?_
            have hquiet := fun token => @Within.quiet _ _
              (.stageAuth "auth.completing_human_verification") () _ trivial (hverified token)
            exact keeps_pure (hquiet "").orderly fun token => .inl (hquiet token)

theorem keeps_settle (pause : Option ℕ → ℕ) {s : Attempt} {past : History}
    (hsent : Within s 6 past) (outcome : Except String Response) :
    Keeps (fun _ => True) Orderly (settle pause s outcome) past Goes := by
  have hsettled := settled_settle pause s outcome
  generalize settle pause s outcome = d at hsettled ⊢
  cases hsettled with
  | plain hplain => exact keeps_plain hplain hsent
  | verify challenge htoken =>
      refine keeps_bind (keeps_solveHumanVerification hsent htoken challenge) ?_ closed_true
      rintro (error | token) past' hsafe hverified
      · exact keeps_pure hsafe trivial
      · rcases hverified token with hwithin | ⟨error, herror⟩
        · exact keeps_pure hsafe hwithin
        · cases herror
  | giveUp hfailed =>
      refine keeps_giveUpRoute hsent fun past' hwithin => ?_
      rcases hfailed with hplain | ⟨error, rfl⟩
      · exact keeps_plain hplain hwithin
      · exact keeps_pure hwithin.orderly trivial

theorem keeps_apiRound (endpoint : String) (content : Content) (session : Option ApiSession)
    (pause : Option ℕ → ℕ) {s : Attempt} {past : History} (h : Within s 5 past) :
    Keeps (fun _ => True) Orderly (apiRound endpoint content session pause s) past Goes :=
  keeps_ask closed_true h.orderly fun outcome _ => keeps_settle pause (h.send _ outcome) outcome

theorem quiet_initialRoute : Only Quiet initialRoute := by
  refine ⟨trivial, fun enabled => ?_⟩
  cases enabled with
  | false => exact trivial
  | true =>
      refine ⟨trivial, fun cached => ?_⟩
      cases cached with
      | none => exact trivial
      | some cached =>
          refine ⟨trivial, fun now => ?_⟩
          beta_reduce
          by_cases hexpired : now < cached.expiresAt
          · rw [if_pos hexpired]
            exact trivial
          · rw [if_neg hexpired]
            exact ⟨trivial, fun _ => trivial⟩

/-- A call is orderly in all of its histories. -/
theorem keeps_apiLoop (endpoint : String) (content : Content) (session : Option ApiSession)
    (pause : Option ℕ → ℕ) :
    Keeps (fun _ => True) Orderly (apiLoop endpoint content session pause) [] fun _ _ => True := by
  -- Before the first request a history has neither requests nor challenges.
  have horderly : ∀ past, sends past = [] ∧ challenges past = 0 → Orderly past := by
    rintro past ⟨hsends, hchallenges⟩
    refine ⟨?_, ?_, ?_, ?_⟩
    · rw [hsends]
      exact Nat.zero_le _
    · rw [hsends]
      exact .nil
    · rw [hsends]
      exact fun _ _ h => nomatch h
    · rw [hchallenges]
      exact Nat.zero_le 1
  have hstart : Keeps (fun _ => True) Orderly initialRoute [] fun _ past =>
      sends past = [] ∧ challenges past = 0 :=
    quiet_initialRoute.keeps (fun past => sends past = [] ∧ challenges past = 0) horderly
      (fun q a past hq h => by rwa [sends_of_quiet hq, challenges_of_quiet hq]) ⟨rfl, rfl⟩
  refine keeps_bind hstart ?_ closed_true
  rintro route past hsafe ⟨hsends, hchallenges⟩
  refine keeps_loop (Within · 5) (fun _ _ => True) closed_true
    (fun s past _ h => keeps_apiRound endpoint content session pause h)
    (fun _ _ hsafe _ => keeps_pure hsafe trivial) hsafe ⟨hsafe, ?_, ?_, ?_, fun _ => hchallenges⟩
  · have hbudget : ∀ s : Attempt, s.transientAttempt = 0 → s.humanVerificationToken = none →
        s.budget ≤ 5 := by
      intro s htransient htoken
      unfold Attempt.budget
      rw [htransient, htoken]
      simp
      omega
    rw [hsends, List.length_nil, Nat.zero_add]
    exact hbudget _ rfl rfl
  · rw [hsends]
    exact nofun
  · rw [hsends]
    exact fun _ h => nomatch h

/-! ## The cached route -/

/-- While the switch is on, only the failure of the last route leads to no next route, and then the
cached route is cleared. -/
theorem clears_routeAfterTransportFailure (initial : Option CachedAlternativeRoute)
    (current : ApiRoute) (triedAlternative : Bool) (past : History) :
    Keeps SwitchOn (fun _ => True) (routeAfterTransportFailure current triedAlternative) past
      fun next past' => next = none → cachedAfter initial past' = none := by
  have hclosed : Closed SwitchOn := closed_always _
  have hfallBack : ∀ past, Keeps SwitchOn (fun _ => True) fallBack past
      fun next past' => next = none → cachedAfter initial past' = none := fun past =>
    keeps_ask hclosed trivial fun now _ => keeps_ask hclosed trivial fun _ _ =>
      keeps_pure trivial nofun
  refine keeps_ask hclosed trivial fun enabled hon => ?_
  obtain rfl : enabled = true := hon.1
  dsimp only
  by_cases haccount : current = .account
  · rw [if_pos haccount]
    exact keeps_ask hclosed trivial fun _ _ => keeps_pure trivial fun _ => rfl
  · rw [if_neg haccount]
    split
    · refine keeps_ask hclosed trivial fun found _ => ?_
      cases found with
      | ok found =>
          exact keeps_ask hclosed trivial fun now _ => keeps_ask hclosed trivial fun _ _ =>
            keeps_pure trivial nofun
      | error error => exact hfallBack _
    · exact hfallBack _

/-- A result of `api_unreachable` comes with a cleared route. -/
def Clears (initial : Option CachedAlternativeRoute) (result : NativeResult Value)
    (past : History) : Prop :=
  ∀ error, result = .error error → error.code = "api_unreachable" → cachedAfter initial past = none

theorem clears_of_ends {initial : Option CachedAlternativeRoute}
    {d : Exchange (Attempt ⊕ NativeResult Value)}
    (h : Ends (fun r => r.elim (fun _ => True) fun result =>
      ∀ error, result = .error error → error.code ≠ "api_unreachable") d)
    (past : History) :
    Keeps SwitchOn (fun _ => True) d past fun r past' => r.elim (fun _ => True) (Clears initial · past') := by
  intro n d' past' htalks _
  refine ⟨trivial, ?_⟩
  rintro r rfl
  cases h.talks htalks with
  | pure h =>
      cases r with
      | inl s => exact trivial
      | inr result => exact fun error herror hcode => absurd hcode (h error herror)

theorem other_plain {s : Attempt} {d : Exchange (Attempt ⊕ NativeResult Value)} (h : Plain s d) :
    Ends (fun r => r.elim (fun _ => True) fun result =>
      ∀ error, result = .error error → error.code ≠ "api_unreachable") d := by
  cases h with
  | result h => exact .pure h
  | retry milliseconds h => exact .ask fun _ => .pure trivial

theorem code_captcha (error : CaptchaError) : error.1.code ≠ "api_unreachable" := by
  intro hcode
  have hmem := error.2
  rw [hcode] at hmem
  exact absurd hmem (by decide +kernel)

theorem other_solveHumanVerification (challenge : String) :
    Ends (fun result => ∀ error, result = .error error → error.code ≠ "api_unreachable")
      (solveHumanVerification challenge) := by
  refine .ask fun free => ?_
  cases free with
  | false =>
      refine .pure ?_
      rintro error ⟨⟩
      decide +kernel
  | true =>
      refine .ask fun _ => .ask fun solved => ?_
      cases solved with
      | error error =>
          refine .pure ?_
          rintro error' ⟨⟩
          exact code_captcha error
      | ok token =>
          dsimp only
          split
          · refine .pure ?_
            rintro error ⟨⟩
            decide +kernel
          · exact .ask fun _ => .pure nofun

theorem clears_settle (initial : Option CachedAlternativeRoute) (pause : Option ℕ → ℕ) (s : Attempt)
    (outcome : Except String Response) (past : History) :
    Keeps SwitchOn (fun _ => True) (settle pause s outcome) past
      fun r past' => r.elim (fun _ => True) (Clears initial · past') := by
  have hsettled := settled_settle pause s outcome
  generalize settle pause s outcome = d at hsettled ⊢
  cases hsettled with
  | plain hplain => exact clears_of_ends (other_plain hplain) past
  | verify challenge htoken =>
      refine clears_of_ends (ends_bind (other_solveHumanVerification challenge) ?_) past
      rintro (error | token) hresult
      · refine .pure ?_
        rintro error' ⟨⟩
        exact hresult error rfl
      · exact .pure trivial
  | giveUp hfailed =>
      refine keeps_bind (clears_routeAfterTransportFailure initial _ _ past) ?_ (closed_always _)
      rintro (_ | next) past' - hcleared
      · rcases hfailed with hplain | ⟨error, rfl⟩
        · exact clears_of_ends (other_plain hplain) past'
        · exact keeps_pure trivial fun _ _ _ => hcleared rfl
      · exact keeps_pure trivial trivial

/-- A call that ends with `api_unreachable` while the switch is on leaves no cached route. -/
theorem clears_apiLoop (initial : Option CachedAlternativeRoute) (endpoint : String)
    (content : Content) (session : Option ApiSession) (pause : Option ℕ → ℕ) :
    Keeps SwitchOn (fun _ => True) (apiLoop endpoint content session pause) [] (Clears initial) := by
  have hclosed : Closed SwitchOn := closed_always _
  have hstart : Keeps SwitchOn (fun _ => True) initialRoute [] fun _ _ => True :=
    quiet_initialRoute.keeps (fun _ => True) (fun _ _ => trivial) (fun _ _ _ _ _ => trivial) trivial
  refine keeps_bind hstart (fun route past _ _ => ?_) hclosed
  refine keeps_loop (fun _ _ => True) (Clears initial) hclosed (fun s past _ _ => ?_)
    (fun _ _ _ h => keeps_pure trivial h) trivial trivial
  exact keeps_ask hclosed trivial fun outcome _ => clears_settle initial pause s outcome _

/-- What comes after a history starts with the direct route, if it sends anything. -/
def StartsDirect (past past' : History) : Prop :=
  ∃ routes, sends past' = routes ++ sends past ∧ ∀ route ∈ routes.getLast?, route = .direct

/-- The first request after a history has been sent, on the direct route. -/
def Begun (past past' : History) : Prop :=
  ∃ routes, routes ≠ [] ∧ sends past' = routes ++ sends past ∧
    ∀ route ∈ routes.getLast?, route = .direct

theorem Begun.startsDirect {past past' : History} (h : Begun past past') : StartsDirect past past' := by
  obtain ⟨routes, -, hsends, hdirect⟩ := h
  exact ⟨routes, hsends, hdirect⟩

theorem startsDirect_of_eq {past past' : History} (h : sends past' = sends past) :
    StartsDirect past past' := ⟨[], h, nofun⟩

/-- Without a cached route, a call starts with the direct route. -/
theorem starts_initialRoute {initial : Option CachedAlternativeRoute} {past : History}
    (h : cachedAfter initial past = none) :
    Keeps (Alone initial) (StartsDirect past) initialRoute past fun route past' =>
      route = .direct ∧ sends past' = sends past := by
  have hclosed : Closed (Alone initial) := closed_always _
  refine keeps_ask hclosed (startsDirect_of_eq rfl) fun enabled _ => ?_
  cases enabled with
  | false => exact keeps_pure (startsDirect_of_eq rfl) ⟨rfl, rfl⟩
  | true =>
      refine keeps_ask hclosed (startsDirect_of_eq rfl) fun cached halone => ?_
      obtain rfl : cached = none := halone.1.trans h
      exact keeps_pure (startsDirect_of_eq rfl) ⟨rfl, rfl⟩

theorem quiet_settle (pause : Option ℕ → ℕ) (s : Attempt) (outcome : Except String Response) :
    Only (fun q => ∀ a, sentRoute ⟨q, a⟩ = none) (settle pause s outcome) := by
  have hplain : ∀ d, Plain s d → Only (fun q => ∀ a, sentRoute ⟨q, a⟩ = none) d := by
    rintro d (hresult | ⟨milliseconds, htransient⟩)
    · exact trivial
    · exact ⟨fun _ => rfl, fun _ => trivial⟩
  have hquiet : ∀ q, Quiet q → ∀ a, sentRoute ⟨q, a⟩ = none := by
    intro q hq a
    cases q <;> first | rfl | exact hq.elim
  have hsettled := settled_settle pause s outcome
  generalize settle pause s outcome = d at hsettled ⊢
  cases hsettled with
  | plain h => exact hplain d h
  | verify challenge htoken =>
      refine only_bind ?_ fun result => ?_
      · refine ⟨fun _ => rfl, fun free => ?_⟩
        cases free with
        | false => exact trivial
        | true =>
            refine ⟨fun _ => rfl, fun _ => ⟨fun _ => rfl, fun solved => ?_⟩⟩
            cases solved with
            | error error => exact trivial
            | ok token =>
                dsimp only
                split
                · exact trivial
                · exact ⟨fun _ => rfl, fun _ => trivial⟩
      · cases result with
        | error error => exact trivial
        | ok token => exact trivial
  | giveUp hfailed =>
      refine only_bind ((quiet_routeAfterTransportFailure _ _).mono hquiet) fun next => ?_
      cases next with
      | none =>
          rcases hfailed with h | ⟨error, rfl⟩
          · exact hplain _ h
          · exact trivial
      | some route => exact trivial

/-- The next call starts with the direct route. -/
theorem starts_apiLoop {initial : Option CachedAlternativeRoute} {past : History}
    (h : cachedAfter initial past = none) (endpoint : String) (content : Content)
    (session : Option ApiSession) (pause : Option ℕ → ℕ) :
    Keeps (Alone initial) (StartsDirect past) (apiLoop endpoint content session pause) past
      fun _ _ => True := by
  have hclosed : Closed (Alone initial) := closed_always _
  refine keeps_bind (starts_initialRoute h) ?_ hclosed
  rintro route past₁ hsafe ⟨rfl, hsends⟩
  refine keeps_loop
    (fun s past' => (s.route = .direct ∧ sends past' = sends past) ∨ Begun past past')
    (fun _ _ => True) hclosed ?_ (fun _ _ hsafe _ => keeps_pure hsafe trivial) hsafe
    (.inl ⟨rfl, hsends⟩)
  intro s past' hsafe hinvariant
  refine keeps_ask hclosed hsafe fun outcome _ => ?_
  have hbegun : Begun past (⟨.send s.route _, outcome⟩ :: past') := by
    rcases hinvariant with ⟨hroute, hsends⟩ | ⟨routes, hne, hsends, hdirect⟩
    · refine ⟨[s.route], List.cons_ne_nil _ _, congrArg (s.route :: ·) hsends, ?_⟩
      rintro route ⟨⟩
      exact hroute
    · refine ⟨s.route :: routes, List.cons_ne_nil _ _, congrArg (s.route :: ·) hsends, ?_⟩
      rwa [List.getLast?_cons_of_ne_nil hne]
  have hkept : Keeps (Alone initial) (StartsDirect past) (settle pause s outcome) _
      fun _ past' => Begun past past' :=
    (quiet_settle pause s outcome).keeps (Begun past) (fun _ h => h.startsDirect)
      (fun q a past'' hq hbegun => by
        obtain ⟨routes, hne, hsends, hdirect⟩ := hbegun
        refine ⟨routes, hne, ?_, hdirect⟩
        rw [← hsends]
        exact List.filterMap_cons_none (hq a)) hbegun
  refine hkept.mono ?_
  rintro (s' | result) past'' hbegun'
  · exact .inr hbegun'
  · exact trivial

/-! ## Both functions decide alike -/

/-- The question without what the two functions differ in: the content of a request and the length
of a pause. -/
def decision : Query → Query
  | .send route request => .send route { request with content := .json "" none }
  | .sleep _ => .sleep 0
  | q => q

def outcomeOf : (q : Query) → Answer (decision q) → Answer q
  | .send _ _, a => a
  | .sleep _, a => a
  | .enabled, a => a
  | .cachedRoute, a => a
  | .setCachedRoute _, a => a
  | .now, a => a
  | .resolve, a => a
  | .tryLockVerification, a => a
  | .stageAuth _, a => a
  | .solveCaptcha _, a => a

/-- The decisions of a call. -/
def decisions {α : Type} (d : Exchange α) : Exchange α := relabel decision outcomeOf d

theorem decisions_judge (pause pause' : Option ℕ → ℕ) (s : Attempt) (decoded : Decoded) :
    decisions (judge pause s decoded) = decisions (judge pause' s decoded) := by
  unfold judge
  dsimp only
  split
  · rfl
  · split
    · rfl
    · split
      · rfl
      · rfl

theorem decisions_settle (pause pause' : Option ℕ → ℕ) (s : Attempt)
    (outcome : Except String Response) :
    decisions (settle pause s outcome) = decisions (settle pause' s outcome) := by
  unfold settle
  cases outcome with
  | error error => rfl
  | ok response =>
      dsimp only
      split
      · rfl
      · split
        · rfl
        · exact decisions_judge pause pause' s _

theorem decisions_apiLoop (endpoint : String) (content content' : Content)
    (session : Option ApiSession) (pause pause' : Option ℕ → ℕ) :
    decisions (apiLoop endpoint content session pause) =
      decisions (apiLoop endpoint content' session pause') := by
  have hround : ∀ s, decisions (apiRound endpoint content session pause s) =
      decisions (apiRound endpoint content' session pause' s) := by
    intro s
    unfold decisions apiRound
    rw [relabel, relabel]
    congr 1
    funext outcome
    exact decisions_settle pause pause' s outcome
  unfold decisions apiLoop at *
  rw [relabel_bind, relabel_bind]
  congr 1
  funext route
  rw [relabel, relabel]
  congr 1
  exact funext hround

/-! ## Calls -/

/-- A call of one of the two functions. -/
inductive ApiCall where
  | requestDirect (method endpoint : String) (body : Option Value) (session : Option ApiSession)
  | postMultipart (endpoint : String) (fields : List (String × String))
      (files : List (String × String × List Byte)) (session : Option ApiSession)

def ApiCall.run : ApiCall → Exchange (NativeResult Value)
  | requestDirect method endpoint body session => Api.requestDirect method endpoint body session
  | postMultipart endpoint fields files session => Api.postMultipart endpoint fields files session

theorem ApiCall.run_eq (call : ApiCall) :
    ∃ endpoint content session pause, call.run = apiLoop endpoint content session pause := by
  cases call with
  | requestDirect method endpoint body session => exact ⟨_, _, _, _, requestDirect_eq ..⟩
  | postMultipart endpoint fields files session => exact ⟨_, _, _, _, postMultipart_eq ..⟩

/-- Whatever is answered, a call ends, and in all of its histories it is orderly: at most six
requests, routes in their order with at most one alternative host, at most one challenge. If it ends
with `api_unreachable` while the switch is on and no other request changes the cached route, no route
is cached afterwards, and the next call starts with the direct route. Both functions decide alike. -/
theorem call_fallback :
    (∀ call : ApiCall,
      (∀ oracle, ∃ n result, (drive oracle n call.run []).1 = .pure result) ∧
      (∀ n rest past, Talks n call.run [] rest past → Orderly past) ∧
      ∀ initial n error past, Talks n call.run [] (.pure (.error error)) past → SwitchOn past →
        Alone initial past → error.code = "api_unreachable" →
          cachedAfter initial past = none ∧
            ∀ (next : ApiCall) n rest past', Talks n next.run past rest past' →
              Alone initial past' → StartsDirect past past') ∧
      ∀ method endpoint body session fields files,
        decisions (requestDirect method endpoint body session) =
          decisions (postMultipart endpoint fields files session) := by
  refine ⟨fun call => ?_, fun method endpoint body session fields files => ?_⟩
  · obtain ⟨endpoint, content, session, pause, hrun⟩ := call.run_eq
    rw [hrun]
    refine ⟨fun oracle => ?_, fun n rest past htalks => ?_, ?_⟩
    · obtain ⟨n, result, hresult, -⟩ := (ends_apiLoop endpoint content session pause).drive oracle []
      exact ⟨n, result, hresult⟩
    · exact (keeps_apiLoop endpoint content session pause n rest past htalks trivial).1
    · intro initial n error past htalks hon _ hcode
      have hcleared := (clears_apiLoop initial endpoint content session pause n _ past htalks hon).2 _
        rfl error rfl hcode
      refine ⟨hcleared, fun next m rest past' hnext halone => ?_⟩
      obtain ⟨endpoint', content', session', pause', hrun'⟩ := next.run_eq
      rw [hrun'] at hnext
      exact (starts_apiLoop hcleared endpoint' content' session' pause' m rest past' hnext halone).1
  · rw [requestDirect_eq, postMultipart_eq]
    exact decisions_apiLoop _ _ _ _ _ _

end ProtonVpnOmarchy.Agent.Api
