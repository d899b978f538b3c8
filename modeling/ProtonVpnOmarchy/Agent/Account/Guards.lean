import ProtonVpnOmarchy.Agent.Account.Basic
import ProtonVpnOmarchy.Agent.SecretStore.Effects

/-!
# What the operations on the account keep

* `Guard` — what the parts of a refresh keep, every operation that refreshes keeps.
* `SignInGuard` — what the parts of signing in keep, every operation that signs in keeps.
-/

namespace ProtonVpnOmarchy.Agent.Account

open Lib Lib.Fallible Splitd Store Backend SecretStore

/-! ## What the parts of a refresh keep -/

/-- The worlds differ in nothing that the account consists of. -/
structure SameAccount (world world' : World) : Prop where
  session : world'.state.session = world.state.session
  pending : world'.state.sessionRestorePending = world.state.sessionRestorePending
  pendingAuth : world'.pendingAuth = world.pendingAuth
  items : world'.items = world.items
  rotated : world'.rotated = world.rotated
  log : world'.log = world.log

/-- The world after an answered refresh. -/
def World.refreshed (world : World) (tokens : Tokens) : World :=
  { world with rotated := some tokens, log := world.log ++ [.refreshed tokens] }

/-- The world after a save, but for the session in memory. -/
def World.saved (world : World) (session : SessionData) (done : Bool) (items : Items) : World :=
  { world with items, log := world.log ++ [.saved session done] }

def World.published (world : World) (session : SessionData) : World :=
  { world with state := { world.state with session := some session } }

/-- A property of worlds, and one of the session that an operation works on, which the parts of a
refresh keep. -/
structure Guard (serde : Serde) (I : World → Prop) (V : World → SessionData → Prop) : Prop where
  same : ∀ {world world'}, SameAccount world world' → I world → I world'
  same_session : ∀ {world world' session}, SameAccount world world' → V world session →
    V world' session
  start : ∀ {world session}, I world → world.log = [] → world.state.session = some session →
    V world session
  refreshed : ∀ {world session auth}, I world → V world session →
    I (world.refreshed auth.tokens) ∧ V (world.refreshed auth.tokens) (withTokens session auth)
  changed : ∀ {world session} (key : String) (value : Value), V world session →
    V world (withVpn key value session)
  saved : ∀ {world session items}, I world → V world session →
    SaveLeaves serde session world.items (.ok ()) items →
      I ((world.saved session true items).published session) ∧
        V ((world.saved session true items).published session) session
  refused : ∀ {world session error items}, I world → V world session →
    SaveLeaves serde session world.items (.error error) items →
      I (world.saved session false items) ∧ V (world.saved session false items) session

section refreshes

variable {readers : Readers} {outside : Outside} {I J : World → Prop}
  {V : World → SessionData → Prop}

/-! ### Questions -/

section questions

variable (hJ : ∀ {world world'}, SameAccount world world' → J world → J world')

include hJ

theorem keeps_ask {α : Type} (answer : ℕ → α) : Keeps J (ask answer) := by
  intro world h
  have hsame : SameAccount world ((ask answer).exec world).2 := ⟨rfl, rfl, rfl, rfl, rfl, rfl⟩
  exact hJ hsame h

theorem keeps_call {α : Type} (answer : ℕ → NativeResult α) : Keeps J (call answer) := by
  intro world h
  have hsame : SameAccount world ((call answer).exec world).2 := ⟨rfl, rfl, rfl, rfl, rfl, rfl⟩
  exact hJ hsame h

theorem keeps_writeState (change : RuntimeState → RuntimeState) : Keeps J (writeState change) := by
  intro world h
  have hsame : SameAccount world ((writeState change).exec world).2 :=
    ⟨rfl, rfl, rfl, rfl, rfl, rfl⟩
  exact hJ hsame h

end questions

theorem keeps_readState : Keeps J readState := fun _ h => h

theorem keeps_ofOutcome {α : Type} (outcome : NativeResult α) : Keeps J (ofOutcome outcome) :=
  fun _ h => h

theorem keeps_attempt {α : Type} {m : Op α} (hm : Keeps J m) : Keeps J (attempt m) := hm

theorem meets_attempt {α : Type} {m : Op α} {world : World}
    {post : NativeResult α → World → Prop} (hm : Meets m world post) :
    Meets (attempt m) world fun outcome world' =>
      ∃ result, outcome = .ok result ∧ post result world' := ⟨_, rfl, hm⟩

/-- A part whose error is handled. -/
theorem meets_attempt_bind {α β : Type} {m : Op α} {f : NativeResult α → Op β} {world : World}
    {mid : NativeResult α → World → Prop} {post : NativeResult β → World → Prop}
    (hm : Meets m world mid)
    (hf : ∀ result world', mid result world' → Meets (f result) world' post) :
    Meets (attempt m >>= f) world post := by
  refine (meets_attempt hm).bind ?_ ?_
  · rintro _ world' ⟨result, ⟨rfl⟩, hmid⟩
    exact hf _ world' hmid
  · rintro _ _ ⟨_, h, -⟩
    cases h

theorem meets_of_keeps {α : Type} {m : Op α} {world : World} (hm : Keeps J m) (h : J world) :
    Meets m world fun _ world' => J world' := hm world h

/-- A part that keeps a property, and what follows. -/
theorem meets_keeps_bind {α β : Type} {m : Op α} {f : α → Op β} {world : World}
    {post : NativeResult β → World → Prop} (hm : Keeps J m) (hJ : J world)
    (hf : ∀ a world', J world' → Meets (f a) world' post)
    (herror : ∀ error world', J world' → post (.error error) world') :
    Meets (m >>= f) world post := (meets_of_keeps hm hJ).bind hf herror

/-! ### The session in memory -/

theorem meets_readState (world : World) :
    Meets readState world fun outcome world' => outcome = .ok world.state ∧ world' = world :=
  ⟨rfl, rfl⟩

theorem meets_requireSession (world : World) :
    Meets requireSession world fun outcome world' => world' = world ∧
      ∀ session, outcome = .ok session → world.state.session = some session := by
  refine (meets_readState world).bind ?_ fun _ _ h => by cases h.1
  rintro _ world ⟨⟨rfl⟩, rfl⟩
  refine meets_keeps_bind (keeps_ofOutcome _) (rfl : _ = world) ?_ ?_
  · rintro _ _ rfl
    cases hsession : world.state.session with
    | none => exact .throw ⟨rfl, fun _ h => nomatch h⟩
    | some session =>
        refine .pure ⟨rfl, ?_⟩
        rintro _ ⟨rfl⟩
        rfl
  · rintro _ _ rfl
    exact ⟨rfl, fun _ h => nomatch h⟩

/-! ### Saves -/

/-- What a save to the keyring leaves, but for the session in memory. -/
theorem meets_saveSession (session : SessionData) (world : World) :
    Meets (saveSession readers outside session) world fun outcome world' =>
      ∃ items, SaveLeaves readers.serde session world.items outcome items ∧
        SameAccount (world.saved session outcome.isOk items) world' := by
  have hsave : Meets (save readers.serde (outside.keyring world.calls) session)
      { items := world.items } _ := meets_save session
  unfold Fallible.Meets at hsave ⊢
  unfold saveSession
  rw [exec_ofFun]
  generalize (save readers.serde (outside.keyring world.calls) session).exec
    { items := world.items } = result at hsave
  exact ⟨_, hsave, ⟨rfl, rfl, rfl, rfl, rfl, rfl⟩⟩

theorem SameAccount.published {world world' : World} (h : SameAccount world world')
    (session : SessionData) : SameAccount (world.published session) (world'.published session) :=
  ⟨rfl, h.pending, h.pendingAuth, h.items, h.rotated, h.log⟩

namespace Guard

/-! ### Operations -/

/-- The property of a world in which an operation works on a session. -/
def Working (I : World → Prop) (V : World → SessionData → Prop) (session : SessionData)
    (world : World) : Prop :=
  I world ∧ V world session

variable {world : World} {session : SessionData} (guard : Guard readers.serde I V)

include guard

theorem same_working {world world' : World} (h : SameAccount world world')
    (hworking : Working I V session world) : Working I V session world' :=
  ⟨guard.same h hworking.1, guard.same_session h hworking.2⟩

theorem meets_refresh (h : Working I V session world) :
    Meets (refresh outside (storedApiSession session)) world fun outcome world' =>
      match outcome with
      | .ok auth => Working I V (withTokens session auth) world'
      | .error _ => Working I V session world' := by
  refine meets_keeps_bind (keeps_call guard.same_working _) h ?_ fun _ _ h => h
  intro response world₁ h₁
  refine meets_keeps_bind (keeps_ofOutcome _) h₁ ?_ fun _ _ h => h
  intro auth world₂ h₂
  exact guard.refreshed h₂.1 h₂.2

theorem meets_persistSessionData (h : Working I V session world) :
    Meets (persistSessionData readers outside session) world fun _ world' =>
      Working I V session world' := by
  refine (meets_saveSession session world).bind ?_ ?_
  · rintro _ world' ⟨items, hleaves, hsame⟩
    have hsaved : Working I V session ((world.saved session true items).published session) :=
      guard.saved h.1 h.2 hleaves
    exact guard.same_working (hsame.published session) hsaved
  · rintro error world' ⟨items, hleaves, hsame⟩
    have hrefused : Working I V session (world.saved session false items) :=
      guard.refused h.1 h.2 hleaves
    exact guard.same_working hsame hrefused

theorem keeps_persistSessionData :
    Keeps (Working I V session) (persistSessionData readers outside session) :=
  fun _ h => guard.meets_persistSessionData h

theorem keeps_working_call {α : Type} (answer : ℕ → NativeResult α) :
    Keeps (Working I V session) (call answer) := keeps_call guard.same_working answer

theorem keeps_working_writeState (change : RuntimeState → RuntimeState) :
    Keeps (Working I V session) (writeState change) := keeps_writeState guard.same_working change

theorem working_changed (key : String) (value : Value) (h : Working I V session world) :
    Working I V (withVpn key value session) world := ⟨h.1, guard.changed key value h.2⟩

/-- An operation that begins with the session in memory. -/
theorem meets_readState_bind {α : Type} {f : RuntimeState → Op α} (hI : I world)
    (hlog : world.log = []) (hnone : world.state.session = none → Meets (f world.state) world
      fun _ world' => I world')
    (hsome : ∀ session, world.state.session = some session → Working I V session world →
      Meets (f world.state) world fun _ world' => I world') :
    Meets (readState >>= f) world fun _ world' => I world' := by
  refine (meets_readState world).bind ?_ fun _ _ h => by cases h.1
  rintro _ world ⟨⟨rfl⟩, rfl⟩
  cases hsession : world.state.session with
  | none => exact hnone hsession
  | some session => exact hsome session hsession ⟨hI, guard.start hI hlog hsession⟩

theorem meets_requireSession_bind {α : Type} {f : SessionData → Op α} (hI : I world)
    (hlog : world.log = [])
    (hf : ∀ session, Working I V session world → Meets (f session) world fun _ world' => I world') :
    Meets (requireSession >>= f) world fun _ world' => I world' := by
  refine (meets_requireSession world).bind ?_ ?_
  · rintro session _ ⟨rfl, hsession⟩
    exact hf session ⟨hI, guard.start hI hlog (hsession session rfl)⟩
  · rintro _ _ ⟨rfl, -⟩
    exact hI

theorem meets_refreshTokens (hI : I world) (hlog : world.log = []) :
    Meets (refreshTokens readers outside) world fun _ world' => I world' := by
  refine guard.meets_readState_bind hI hlog ?_ ?_
  · intro hnone
    rw [hnone]
    exact hI
  · intro session hsome h
    rw [hsome]
    refine (guard.meets_refresh h).bind ?_ fun _ _ h => h.1
    intro auth world₁ h₁
    exact (guard.meets_persistSessionData h₁).mono fun _ _ h => h.1

theorem keeps_renewCertificate (required : Bool) (h : Working I V session world) :
    Meets (renewCertificate readers outside required session) world fun _ world' => I world' := by
  refine meets_keeps_bind (keeps_attempt (guard.keeps_working_call _)) h ?_ fun _ _ h => h.1
  intro response world₁ h₁
  cases response.bind readers.certificate with
  | ok certificate =>
      refine (guard.meets_persistSessionData (guard.working_changed _ certificate h₁)).bind ?_
        fun _ _ h => h.1
      exact fun _ _ h => .pure h.1
  | error error =>
      dsimp only
      split_ifs
      · exact .throw h₁.1
      · exact .pure h₁.1

theorem meets_refreshCertificateIfNeeded (hI : I world) (hlog : world.log = []) :
    Meets (refreshCertificateIfNeeded readers outside) world fun _ world' => I world' := by
  refine guard.meets_readState_bind hI hlog ?_ ?_
  · intro hnone
    rw [hnone]
    exact hI
  · intro session hsome h
    rw [hsome]
    refine meets_keeps_bind (guard.keeps_working_call _) h ?_ fun _ _ h => h.1
    intro now world₁ h₁
    dsimp only
    split
    · exact .pure h₁.1
    · refine meets_attempt_bind (guard.meets_refresh h₁) ?_
      rintro (error | auth) world₂ h₂
      · dsimp only
        split_ifs
        · exact .throw h₂.1
        · exact .pure h₂.1
      · refine (guard.meets_persistSessionData h₂).bind ?_ fun _ _ h => h.1
        exact fun _ _ h₃ => guard.keeps_renewCertificate _ h₃

/-- The session that comes back has the tokens that a refresh has answered. -/
theorem meets_getRefreshingSession (endpoint : String) (h : Working I V session world) :
    Meets (getRefreshingSession readers outside endpoint session) world fun outcome world' =>
      ∃ response session', outcome = .ok (response, session') ∧ Working I V session' world' := by
  refine meets_attempt_bind (meets_of_keeps (guard.keeps_working_call _) h) ?_
  rintro (error | response) world₁ h₁
  · dsimp only
    split_ifs
    · exact .pure ⟨_, _, rfl, h₁⟩
    · refine meets_attempt_bind (guard.meets_refresh h₁) ?_
      rintro (error | auth) world₂ h₂
      · exact .pure ⟨_, _, rfl, h₂⟩
      · have hagain : Keeps (Working I V (withTokens session auth))
            (getAgain readers outside endpoint session auth) :=
          guard.keeps_persistSessionData.bind fun _ => guard.keeps_working_call _
        refine meets_attempt_bind (meets_of_keeps hagain h₂) ?_
        exact fun _ _ h₃ => .pure ⟨_, _, rfl, h₃⟩
  · exact .pure ⟨_, _, rfl, h₁⟩

theorem meets_getRefreshingSession_bind {α : Type} {endpoint : String}
    {f : NativeResult Value × SessionData → Op α} {post : NativeResult α → World → Prop}
    (h : Working I V session world)
    (hf : ∀ response session' world', Working I V session' world' →
      Meets (f (response, session')) world' post) :
    Meets (getRefreshingSession readers outside endpoint session >>= f) world post := by
  refine (guard.meets_getRefreshingSession endpoint h).bind ?_ ?_
  · rintro _ world' ⟨response, session', ⟨rfl⟩, h'⟩
    exact hf response session' world' h'
  · rintro _ _ ⟨_, _, h, -⟩
    cases h

theorem keeps_saveClientConfig (config : Value) :
    Keeps (Working I V session) (saveClientConfig outside config) :=
  (guard.keeps_working_call _).bind fun _ => guard.keeps_working_writeState _

theorem meets_ensureClientConfig (hI : I world) (hlog : world.log = []) :
    Meets (ensureClientConfig readers outside) world fun _ world' => I world' := by
  refine guard.meets_requireSession_bind hI hlog fun session h => ?_
  refine meets_keeps_bind (guard.keeps_working_call _) h ?_ fun _ _ h => h.1
  intro now world₁ h₁
  refine (meets_readState world₁).bind ?_ fun _ _ h => by cases h.1
  rintro _ world₁ ⟨⟨rfl⟩, rfl⟩
  dsimp only
  split
  · exact .pure h₁.1
  · refine guard.meets_getRefreshingSession_bind h₁ fun response session' world₂ h₂ => ?_
    dsimp only
    cases response.bind readers.clientConfig with
    | ok config =>
        exact (meets_of_keeps (guard.keeps_saveClientConfig config) h₂).mono fun _ _ h => h.1
    | error error =>
        dsimp only
        split_ifs
        · exact .pure h₂.1
        · exact .throw h₂.1

theorem keeps_fetchCatalog (auth : ApiSession) :
    Keeps (Working I V session) (fetchCatalog readers outside auth) :=
  (guard.keeps_working_call _).bind fun _ => keeps_ofOutcome _

theorem keeps_saveCatalog (catalog : Value) :
    Keeps (Working I V session) (saveCatalog outside catalog) :=
  (guard.keeps_working_call _).bind fun _ => guard.keeps_working_writeState _

theorem meets_refetchCatalog (error : BackendError) (h : Working I V session world) :
    Meets (refetchCatalog readers outside session error) world fun _ world' =>
      ∃ session', Working I V session' world' := by
  unfold refetchCatalog
  split_ifs
  · refine (guard.meets_refresh h).bind ?_ fun _ _ h => ⟨_, h⟩
    intro auth world₁ h₁
    refine (guard.meets_persistSessionData h₁).bind ?_ fun _ _ h => ⟨_, h⟩
    intro _ world₂ h₂
    exact (meets_of_keeps (guard.keeps_fetchCatalog auth) h₂).mono fun _ _ h => ⟨_, h⟩
  · exact .throw ⟨_, h⟩

theorem meets_ensureSignedCatalog (hI : I world) (hlog : world.log = []) :
    Meets (ensureSignedCatalog readers outside) world fun _ world' => I world' := by
  refine guard.meets_requireSession_bind hI hlog fun session h => ?_
  refine meets_keeps_bind (guard.keeps_working_call _) h ?_ fun _ _ h => h.1
  intro now world₁ h₁
  refine (meets_readState world₁).bind ?_ fun _ _ h => by cases h.1
  rintro _ world₁ ⟨⟨rfl⟩, rfl⟩
  dsimp only
  split
  · exact .pure h₁.1
  · refine meets_attempt_bind (meets_of_keeps (guard.keeps_fetchCatalog _) h₁) ?_
    rintro (error | catalog) world₂ h₂
    · dsimp only
      split
      · exact .pure h₂.1
      · refine (guard.meets_refetchCatalog error h₂).bind ?_ ?_
        · rintro catalog world₃ ⟨session', h₃⟩
          exact (meets_of_keeps (guard.keeps_saveCatalog catalog) h₃).mono fun _ _ h => h.1
        · rintro _ world₃ ⟨session', h₃⟩
          exact h₃.1
    · exact (meets_of_keeps (guard.keeps_saveCatalog catalog) h₂).mono fun _ _ h => h.1

/-! ### Remote data -/

/-- What the parts of `refresh_remote_data` leave: a session to go on with, or the end. -/
def Proceeds (I : World → Prop) (V : World → SessionData → Prop)
    (outcome : NativeResult Progress) (world : World) : Prop :=
  match outcome with
  | .ok progress => Working I V progress.session world
  | .error _ => I world

theorem meets_remoteAccount (now : ℕ) {progress : Progress}
    (h : Working I V progress.session world) :
    Meets (remoteAccount readers outside now progress) world (Proceeds I V) := by
  refine guard.meets_getRefreshingSession_bind h fun response session' world₁ h₁ => ?_
  dsimp only
  cases response.bind accountInfo with
  | ok info =>
      refine (guard.meets_persistSessionData (guard.working_changed _ info h₁)).bind ?_
        fun _ _ h => h.1
      intro _ world₂ h₂
      exact meets_keeps_bind (guard.keeps_working_writeState _) h₂ (fun _ _ h => .pure h)
        fun _ _ h => h.1
  | error error => exact .pure h₁

theorem meets_remoteConfig {progress : Progress} (h : Working I V progress.session world) :
    Meets (remoteConfig readers outside progress) world (Proceeds I V) := by
  refine guard.meets_getRefreshingSession_bind h fun response session' world₁ h₁ => ?_
  dsimp only
  cases response.bind readers.clientConfig with
  | ok config =>
      exact meets_keeps_bind (guard.keeps_saveClientConfig config) h₁ (fun _ _ h => .pure h)
        fun _ _ h => h.1
  | error error => exact .pure h₁

theorem meets_storeLocation (identity : String) (location : Value) {progress : Progress}
    (h : Working I V progress.session world) :
    Meets (storeLocation readers outside identity location progress) world
      fun _ world' => I world' := by
  refine meets_keeps_bind (guard.keeps_working_call _) h ?_ fun _ _ h => h.1
  intro unchanged world₁ h₁
  split_ifs
  · refine (guard.meets_persistSessionData (guard.working_changed _ location h₁)).bind ?_
      fun _ _ h => h.1
    intro _ world₂ h₂
    exact meets_keeps_bind (guard.keeps_working_writeState _) h₂ (fun _ _ h => .pure h.1)
      fun _ _ h => h.1
  · exact .pure h₁.1

theorem meets_remoteLocation (force refreshAccount canProbe : Bool) (identity : String) (now : ℕ)
    {progress : Progress} (h : Working I V progress.session world) :
    Meets (remoteLocation readers outside force refreshAccount canProbe identity now progress)
      world fun _ world' => I world' := by
  refine meets_keeps_bind (guard.keeps_working_writeState _) h ?_ fun _ _ h => h.1
  intro _ world₁ h₁
  refine (meets_readState world₁).bind ?_ fun _ _ h => by cases h.1
  rintro _ world₁ ⟨⟨rfl⟩, rfl⟩
  dsimp only
  split
  · exact .pure h₁.1
  · refine meets_keeps_bind (guard.keeps_working_writeState _) h₁ ?_ fun _ _ h => h.1
    intro _ world₂ h₂
    refine guard.meets_getRefreshingSession_bind h₂ fun response session' world₃ h₃ => ?_
    dsimp only
    cases response.bind readers.location with
    | ok location => exact guard.meets_storeLocation identity location h₃
    | error error => exact .pure h₃.1

theorem meets_remoteAccountData (refreshAccount : Bool) (now : ℕ) {progress : Progress}
    (h : Working I V progress.session world) :
    Meets (remoteAccountData readers outside refreshAccount now progress) world
      (Proceeds I V) := by
  unfold remoteAccountData
  split_ifs
  · refine meets_keeps_bind (guard.keeps_working_writeState _) h ?_ fun _ _ h => h.1
    intro _ world₁ h₁
    refine (guard.meets_remoteAccount now h₁).bind ?_ fun _ _ h => h
    exact fun _ _ h₂ => guard.meets_remoteConfig h₂
  · exact .pure h

theorem meets_refreshRemoteData (force taken : Bool) (hI : I world) (hlog : world.log = []) :
    Meets (refreshRemoteData readers outside force taken) world fun _ world' => I world' := by
  unfold refreshRemoteData
  split
  · exact .pure hI
  · refine guard.meets_requireSession_bind hI hlog fun session h => ?_
    refine meets_keeps_bind (keeps_ask guard.same_working _) h ?_ fun _ _ h => h.1
    intro now world₁ h₁
    refine (meets_readState world₁).bind ?_ fun _ _ h => by cases h.1
    rintro _ world₁ ⟨⟨rfl⟩, rfl⟩
    refine (guard.meets_remoteAccountData _ now h₁).bind ?_ fun _ _ h => h
    intro progress world₂ h₂
    refine meets_keeps_bind (guard.keeps_working_call _) h₂ ?_ fun _ _ h => h.1
    rintro ⟨identity, canProbe⟩ world₃ h₃
    dsimp only
    split_ifs
    · exact h₃.1
    · refine (guard.meets_remoteLocation _ _ _ _ _ h₃).bind ?_ fun _ _ h => h
      exact fun _ _ h₄ => h₄

end Guard

end refreshes

/-! ## Signing in and out -/

/-- A property of worlds that signing in keeps, as long as the names of the accounts are allowed. -/
structure SignInGuard (serde : Serde) (J : World → Prop) (Allowed : String → Prop) : Prop where
  same : ∀ {world world'}, SameAccount world world' → J world → J world'
  pending : ∀ {world pending}, J world → (∀ auth ∈ pending, Allowed auth.accountName) →
    J { world with pendingAuth := pending }
  saved : ∀ {world session outcome items}, J world → Allowed session.accountName →
    SaveLeaves serde session world.items outcome items →
      J (world.saved session outcome.isOk items)
  published : ∀ {world session catalog clientConfig now}, J world → Allowed session.accountName →
    J ((publishLogin session catalog clientConfig now).exec world).2

section signing

variable {readers : Readers} {outside : Outside} {J : World → Prop} {Allowed : String → Prop}
  {world : World}

/-- An operation ends with the property, or has left the account alone. -/
def EndsWith (J : World → Prop) (world world' : World) : Prop := J world' ∨ SameAccount world world'

theorem SameAccount.refl (world : World) : SameAccount world world := ⟨rfl, rfl, rfl, rfl, rfl, rfl⟩

theorem SameAccount.trans {world world' world'' : World} (h : SameAccount world world')
    (h' : SameAccount world' world'') : SameAccount world world'' :=
  ⟨h'.session.trans h.session, h'.pending.trans h.pending, h'.pendingAuth.trans h.pendingAuth,
    h'.items.trans h.items, h'.rotated.trans h.rotated, h'.log.trans h.log⟩

theorem ensureSessionRestored_eq_ok {state : RuntimeState} {u : Unit}
    (h : ensureSessionRestored state = .ok u) : state.sessionRestorePending = false := by
  have hrejected := reject_eq_ok h
  simpa using hrejected

namespace SignInGuard

variable (guard : SignInGuard readers.serde J Allowed)

include guard

theorem keeps_setPendingAuth {pending : Option ApiSession}
    (h : ∀ auth ∈ pending, Allowed auth.accountName) : Keeps J (setPendingAuth pending) :=
  fun _ hJ => guard.pending hJ h

theorem keeps_saveSession {session : SessionData} (h : Allowed session.accountName) :
    Keeps J (saveSession readers outside session) := by
  intro world hJ
  have hmeets : Meets (saveSession readers outside session) world _ :=
    meets_saveSession session world
  obtain ⟨items, hleaves, hsame⟩ := hmeets.outcome
  exact guard.same hsame (guard.saved hJ h hleaves)

theorem keeps_finalizeAuth {auth : ApiSession} (h : Allowed auth.accountName) :
    Keeps J (finalizeAuth readers outside auth) := by
  refine (keeps_attempt (keeps_call guard.same _)).bind fun answer => ?_
  rcases answer with error | ⟨rest, catalog, clientConfig⟩
  · exact fun _ hJ => hJ
  · refine (keeps_call guard.same _).bind fun _ => ?_
    refine (guard.keeps_saveSession h).bind fun _ => ?_
    refine (keeps_ask guard.same _).bind fun now => ?_
    refine Keeps.bind (fun _ hJ => guard.published hJ h) fun _ => ?_
    exact guard.keeps_setPendingAuth (by simp)

theorem keeps_useAuth {auth : ApiSession} (h : Allowed auth.accountName) :
    Keeps J (useAuth readers outside auth) := by
  unfold useAuth
  split_ifs
  · exact guard.keeps_setPendingAuth (by simpa using h)
  · exact guard.keeps_finalizeAuth h

theorem keeps_abandonLogin (stage : String) (error : BackendError) :
    Keeps J (abandonLogin stage error) :=
  (guard.keeps_setPendingAuth (by simp)).bind fun _ _ hJ => hJ

/-- A login ends with the property, if it is established once a session was restored. -/
theorem meets_accountLogin (params : NativeResult Unit)
    (hrestored : world.state.sessionRestorePending = false → J world)
    (hallowed : ∀ n auth, outside.authenticate n = .ok auth → Allowed auth.accountName) :
    Meets (accountLogin readers outside params) world fun _ world' => EndsWith J world world' := by
  have hauthenticate : ∀ {world : World}, J world → Meets (call outside.authenticate) world
      fun outcome world' => J world' ∧ ∀ auth, outcome = .ok auth → Allowed auth.accountName := by
    intro world hJ
    exact ⟨keeps_call guard.same outside.authenticate world hJ, fun auth h => hallowed _ auth h⟩
  refine (meets_readState world).bind ?_ fun _ _ h => by cases h.1
  rintro _ world ⟨⟨rfl⟩, rfl⟩
  cases hensured : ensureSessionRestored world.state with
  | error error => exact .inr (.refl world)
  | ok _ =>
      have hJ := hrestored (ensureSessionRestored_eq_ok hensured)
      refine meets_keeps_bind (keeps_ofOutcome _) hJ ?_ fun _ _ h => .inl h
      intro _ world₁ h₁
      refine meets_keeps_bind (keeps_ofOutcome _) h₁ ?_ fun _ _ h => .inl h
      intro _ world₂ h₂
      split_ifs
      · exact .pure (.inl h₂)
      · refine meets_attempt_bind (hauthenticate h₂) ?_
        rintro (error | auth) world₃ ⟨h₃, hauth⟩
        · dsimp only
          split_ifs
          · refine meets_attempt_bind (hauthenticate h₃) ?_
            rintro (error' | auth) world₄ ⟨h₄, hauth⟩
            · exact (meets_of_keeps (guard.keeps_abandonLogin _ _) h₄).mono fun _ _ h => .inl h
            · exact (meets_of_keeps (guard.keeps_useAuth (hauth auth rfl)) h₄).mono
                fun _ _ h => .inl h
          · exact (meets_of_keeps (guard.keeps_abandonLogin _ _) h₃).mono fun _ _ h => .inl h
        · exact (meets_of_keeps (guard.keeps_useAuth (hauth auth rfl)) h₃).mono
            fun _ _ h => .inl h

theorem keeps_submitFactor (stage : String) (rejected : BackendError) {auth : ApiSession}
    (h : Allowed auth.accountName) :
    Keeps J (submitFactor readers outside stage rejected auth) := by
  refine (keeps_attempt (keeps_call guard.same _)).bind fun answer => ?_
  rcases answer with error | scopes
  · dsimp only
    split_ifs
    · exact (guard.keeps_setPendingAuth (by simpa using h)).bind fun _ _ hJ => hJ
    · exact fun _ hJ => hJ
  · dsimp only
    split_ifs
    · exact (guard.keeps_setPendingAuth (by simpa using h)).bind fun _ _ hJ => hJ
    · exact guard.keeps_finalizeAuth h

/-- The second factor of tokens that are waiting for it. -/
theorem meets_takePendingAuth_bind {α : Type} {f : Option ApiSession → Op α}
    (hpending : ∀ auth, world.pendingAuth = some auth → J world ∧ Allowed auth.accountName)
    (hnone : Meets (f none) world fun _ world' => EndsWith J world world')
    (hsome : ∀ auth, Allowed auth.accountName → Keeps J (f (some auth))) :
    Meets (takePendingAuth >>= f) world fun _ world' => EndsWith J world world' := by
  have hexec : (takePendingAuth >>= f).exec world =
      (f world.pendingAuth).exec { world with pendingAuth := none } := rfl
  unfold Fallible.Meets at *
  rw [hexec]
  cases hauth : world.pendingAuth with
  | none =>
      have hsame : { world with pendingAuth := none } = world := by
        rw [← hauth]
      rw [hsame]
      exact hnone
  | some auth =>
      obtain ⟨hJ, hallowed⟩ := hpending auth hauth
      exact .inl (hsome auth hallowed _ (guard.pending hJ (by simp)))

theorem meets_accountSubmit2fa (params : NativeResult Unit)
    (hpending : ∀ auth, world.pendingAuth = some auth → J world ∧ Allowed auth.accountName) :
    Meets (accountSubmit2fa readers outside params) world
      fun _ world' => EndsWith J world world' := by
  refine meets_keeps_bind (keeps_ofOutcome _) (rfl : world = world) ?_ ?_
  · rintro _ _ rfl
    refine guard.meets_takePendingAuth_bind hpending ?_ ?_
    · exact .throw (.inr (.refl _))
    · exact fun auth h => guard.keeps_submitFactor _ _ h
  · rintro _ _ rfl
    exact .inr (.refl _)

theorem meets_accountAuthenticateFido2
    (hpending : ∀ auth, world.pendingAuth = some auth → J world ∧ Allowed auth.accountName) :
    Meets (accountAuthenticateFido2 readers outside) world
      fun _ world' => EndsWith J world world' := by
  have hkey : Meets (call outside.securityKey) world fun _ world' => SameAccount world world' :=
    ⟨rfl, rfl, rfl, rfl, rfl, rfl⟩
  refine hkey.bind ?_ fun _ _ h => .inr h
  intro _ world₁ hsame
  have hpending₁ : ∀ auth, world₁.pendingAuth = some auth → J world₁ ∧ Allowed auth.accountName := by
    intro auth hauth
    rw [hsame.pendingAuth] at hauth
    exact ⟨guard.same hsame (hpending auth hauth).1, (hpending auth hauth).2⟩
  refine (guard.meets_takePendingAuth_bind hpending₁ ?_ ?_).mono fun _ _ h => h.imp_right hsame.trans
  · exact .throw (.inr (.refl _))
  · exact fun auth h => guard.keeps_submitFactor _ _ h

end SignInGuard

end signing

end ProtonVpnOmarchy.Agent.Account
