import ProtonVpnOmarchy.Agent.Account.Guards
import ProtonVpnOmarchy.Agent.SecretStore.Orphans

/-!
# Rotated tokens

A refresh that the API has answered makes the tokens before it useless. The operations store the new
ones in the keyring before the session in memory gets them.

* `intact_after` — the session in memory carries the tokens of its last refresh, as long as each
  operation whose refresh was answered has a save that succeeds after it.
* `gone_after` — a session that was signed out comes back only with a login.
-/

namespace ProtonVpnOmarchy.Agent.Account

open Lib Lib.Fallible Splitd Store Backend SecretStore

/-! ## What an operation has stored -/

/-- A refresh was answered, and no save has succeeded since. -/
def unsaved (log : List Exchange) : Bool :=
  log.foldl (fun unsaved exchange =>
    match exchange with
    | .refreshed _ => true
    | .saved _ done => unsaved && !done) false

@[simp] theorem unsaved_nil : unsaved [] = false := rfl

@[simp] theorem unsaved_refreshed (log : List Exchange) (tokens : Tokens) :
    unsaved (log ++ [.refreshed tokens]) = true := by
  simp [unsaved]

@[simp] theorem unsaved_saved (log : List Exchange) (session : SessionData) (done : Bool) :
    unsaved (log ++ [.saved session done]) = (unsaved log && !done) := by
  simp [unsaved]

/-- The session carries the tokens of its last refresh that was answered. -/
def Carries (world : World) (session : SessionData) : Prop :=
  ∀ tokens, world.rotated = some tokens → tokensOf session = tokens

/-- The session in memory carries the tokens of its last refresh that was answered. -/
def Intact (world : World) : Prop :=
  ∀ session, world.state.session = some session → Carries world session

/-! ## The tokens in memory -/

/-- The session in memory carries the tokens of its last refresh, unless an answered one was not
saved; before a session is restored there is none. -/
structure Kept (world : World) : Prop where
  intact : unsaved world.log = false → Intact world
  pending : world.state.sessionRestorePending = true →
    world.state.session = none ∧ world.rotated = none ∧ world.pendingAuth = none

/-- An operation works on a session that carries the tokens of its last refresh. -/
structure Current (world : World) (session : SessionData) : Prop where
  carries : Carries world session
  restored : world.state.sessionRestorePending = false

theorem SameAccount.kept {world world' : World} (h : SameAccount world world')
    (hkept : Kept world) : Kept world' := by
  constructor
  · intro hsaved session hsession tokens hrotated
    rw [h.log] at hsaved
    rw [h.session] at hsession
    rw [h.rotated] at hrotated
    exact hkept.intact hsaved session hsession tokens hrotated
  · intro hpending
    rw [h.pending] at hpending
    rw [h.session, h.rotated, h.pendingAuth]
    exact hkept.pending hpending

theorem SameAccount.current {world world' : World} {session : SessionData}
    (h : SameAccount world world') (hcurrent : Current world session) :
    Current world' session := by
  constructor
  · intro tokens hrotated
    rw [h.rotated] at hrotated
    exact hcurrent.carries tokens hrotated
  · rw [h.pending]
    exact hcurrent.restored

/-- Nothing is pending while an operation works on a session. -/
theorem Current.kept {world : World} {session : SessionData} (h : Current world session)
    (hintact : unsaved world.log = false → Intact world) : Kept world := by
  refine ⟨hintact, fun hpending => ?_⟩
  rw [h.restored] at hpending
  cases hpending

theorem guard_kept (serde : Serde) : Guard serde Kept Current where
  same := SameAccount.kept
  same_session := SameAccount.current
  start := by
    intro world session hkept hlog hsession
    constructor
    · refine hkept.intact ?_ session hsession
      rw [hlog]
      rfl
    · by_contra hpending
      have hnone := (hkept.pending (Bool.eq_true_of_not_eq_false hpending)).1
      rw [hnone] at hsession
      cases hsession
  refreshed := by
    intro world session auth _ hcurrent
    have hcurrent' : Current (world.refreshed auth.tokens) (withTokens session auth) := by
      refine ⟨?_, hcurrent.restored⟩
      rintro tokens ⟨rfl⟩
      rfl
    refine ⟨hcurrent'.kept fun hsaved => ?_, hcurrent'⟩
    simp [World.refreshed] at hsaved
  changed := fun _ _ hcurrent => ⟨hcurrent.carries, hcurrent.restored⟩
  saved := by
    intro world session items _ hcurrent _
    have hcurrent' : Current ((world.saved session true items).published session) session :=
      ⟨hcurrent.carries, hcurrent.restored⟩
    refine ⟨hcurrent'.kept fun _ => ?_, hcurrent'⟩
    rintro _ ⟨rfl⟩
    exact hcurrent.carries
  refused := by
    intro world session error items hkept hcurrent _
    have hcurrent' : Current (world.saved session false items) session :=
      ⟨hcurrent.carries, hcurrent.restored⟩
    refine ⟨hcurrent'.kept fun hsaved => hkept.intact ?_, hcurrent'⟩
    simpa [World.saved] using hsaved

/-- A session was restored, and the one in memory carries the tokens of its last refresh. -/
structure Ready (world : World) : Prop where
  restored : world.state.sessionRestorePending = false
  intact : Intact world

theorem Ready.kept {world : World} (h : Ready world) : Kept world := by
  refine ⟨fun _ => h.intact, fun hpending => ?_⟩
  rw [h.restored] at hpending
  cases hpending

theorem Kept.ready {world : World} (h : Kept world) (hlog : world.log = [])
    (hrestored : world.state.sessionRestorePending = false) : Ready world := by
  refine ⟨hrestored, h.intact ?_⟩
  rw [hlog]
  rfl

theorem SameAccount.ready {world world' : World} (h : SameAccount world world')
    (hready : Ready world) : Ready world' := by
  refine ⟨h.pending.trans hready.restored, ?_⟩
  intro session hsession tokens hrotated
  rw [h.session] at hsession
  rw [h.rotated] at hrotated
  exact hready.intact session hsession tokens hrotated

theorem guard_ready (serde : Serde) : SignInGuard serde Ready fun _ => True where
  same := SameAccount.ready
  pending := fun hready _ => ⟨hready.restored, hready.intact⟩
  saved := fun hready _ _ => ⟨hready.restored, hready.intact⟩
  published := by
    intro world session catalog clientConfig now hready _
    refine ⟨hready.restored, ?_⟩
    intro _ _ tokens hrotated
    cases hrotated

section operations

variable {readers : Readers} {outside : Outside} {world : World}

theorem EndsWith.kept {world world' : World} (h : EndsWith Ready world world')
    (hkept : Kept world) : Kept world' := by
  rcases h with hready | hsame
  · exact hready.kept
  · exact hsame.kept hkept

/-- A session is restored from the keyring, or the operation changes no more than the items. -/
theorem kept_restoreSession (h : Kept world) :
    Kept ((restoreSession readers outside).exec world).2 := by
  unfold restoreSession
  rw [exec_ofFun]
  split_ifs with hpending
  · exact h
  · generalize (loadDefault readers.serde (outside.keyring world.calls)).exec
      { items := world.items } = loaded
    obtain ⟨outcome, keyring⟩ := loaded
    obtain ⟨-, hrotated, -⟩ := h.pending (by simpa using hpending)
    cases outcome with
    | error error => exact ⟨h.intact, h.pending⟩
    | ok session =>
        refine Ready.kept ⟨rfl, ?_⟩
        intro _ _ tokens htokens
        rw [hrotated] at htokens
        cases htokens

theorem keeps_deleteStored {J : World → Prop} {stored : Option SessionData}
    (hJ : ∀ world session outcome items, stored = some session → J world →
      DeleteLeaves readers.serde session.accountName world.items outcome items →
        J { world with items, calls := world.calls + 1 }) :
    Keeps J (deleteStored readers outside stored) := by
  cases stored with
  | none => exact fun _ h => h
  | some session =>
      intro world h
      have hdelete : Meets (delete readers.serde (outside.keyring world.calls)
          session.accountName) { items := world.items } _ := meets_delete session.accountName
      unfold Fallible.Meets at hdelete
      unfold deleteStored
      rw [exec_ofFun]
      dsimp only
      generalize (delete readers.serde (outside.keyring world.calls) session.accountName).exec
        { items := world.items } = deleted at hdelete
      exact hJ world session _ _ rfl h hdelete

/-- A logout keeps what each of its parts keeps. -/
theorem meets_accountLogout {J : World → Prop}
    (hsame : ∀ {world world'}, SameAccount world world' → J world → J world')
    (hpending : ∀ {world}, J world → J { world with pendingAuth := none })
    (hdelete : ∀ {w session outcome items}, world.state.session = some session → J w →
      DeleteLeaves readers.serde session.accountName w.items outcome items →
        J { w with items, calls := w.calls + 1 })
    (hclear : Keeps J clearState)
    (hrestored : world.state.sessionRestorePending = false → J world) :
    Meets (accountLogout readers outside) world fun _ world' => EndsWith J world world' := by
  refine (meets_readState world).bind ?_ fun _ _ h => by cases h.1
  rintro _ world' ⟨⟨rfl⟩, rfl⟩
  cases hensured : ensureSessionRestored world'.state with
  | error error => exact .inr (.refl world')
  | ok _ =>
      have hJ := hrestored (ensureSessionRestored_eq_ok hensured)
      refine meets_keeps_bind (keeps_ofOutcome _) hJ ?_ fun _ _ h => .inl h
      intro _ world₁ h₁
      have hrest : Keeps J (do
          call outside.disconnect
          setPendingAuth none
          deleteStored readers outside world'.state.session
          clearState : Op Unit) := by
        refine (keeps_call hsame _).bind fun _ => ?_
        refine Keeps.bind (fun _ h => hpending h) fun _ => ?_
        refine (keeps_deleteStored fun _ session _ _ hsession h hleaves => ?_).bind
          fun _ => hclear
        exact hdelete hsession h hleaves
      exact (meets_of_keeps hrest h₁).mono fun _ _ h => .inl h

theorem keeps_clearState_ready : Keeps Ready clearState := by
  intro world h
  refine ⟨h.restored, ?_⟩
  intro _ hnone
  cases hnone

theorem exec_discard_snd {α : Type} (m : Op α) (world : World) :
    ((discard m : Op Unit).exec world).2 = (m.exec world).2 := by
  rw [exec_discard]
  rcases m.exec world with ⟨error | a, world'⟩
  · rfl
  · rfl

/-- Every operation keeps the tokens. -/
theorem kept_perform (operation : Operation) (h : Kept world) (hlog : world.log = []) :
    Kept ((operation.perform readers outside).exec world).2 := by
  have hguard := guard_kept readers.serde
  have hsign := guard_ready readers.serde
  have hready : world.state.sessionRestorePending = false → Ready world := h.ready hlog
  have hpending : ∀ auth, world.pendingAuth = some auth → Ready world ∧ True := by
    intro auth hauth
    refine ⟨hready ?_, trivial⟩
    by_contra hrestore
    obtain ⟨-, -, hnone⟩ := h.pending (by simpa using hrestore)
    rw [hnone] at hauth
    cases hauth
  cases operation with
  | refreshTokens => exact (hguard.meets_refreshTokens h hlog).outcome
  | refreshCertificateIfNeeded =>
      rw [Operation.perform, exec_discard_snd]
      exact (hguard.meets_refreshCertificateIfNeeded h hlog).outcome
  | refreshRemoteData force taken => exact (hguard.meets_refreshRemoteData force taken h hlog).outcome
  | ensureClientConfig => exact (hguard.meets_ensureClientConfig h hlog).outcome
  | ensureSignedCatalog => exact (hguard.meets_ensureSignedCatalog h hlog).outcome
  | accountLogin params =>
      exact (hsign.meets_accountLogin params hready fun _ _ _ => trivial).outcome.kept h
  | accountSubmit2fa params =>
      exact (hsign.meets_accountSubmit2fa params hpending).outcome.kept h
  | accountAuthenticateFido2 =>
      exact (hsign.meets_accountAuthenticateFido2 hpending).outcome.kept h
  | restoreSession => exact kept_restoreSession h
  | accountLogout =>
      refine (meets_accountLogout hsign.same ?_ ?_ keeps_clearState_ready hready).outcome.kept h
      · exact fun hready => ⟨hready.restored, hready.intact⟩
      · exact fun _ hready _ => ⟨hready.restored, hready.intact⟩

end operations

/-! ## Sessions that were signed out -/

/-- Neither the memory nor the keyring has a session of the account, and none is waited for. -/
structure Gone (accountName : String) (world : World) : Prop where
  memory : ∀ session, world.state.session = some session → session.accountName ≠ accountName
  restored : world.state.sessionRestorePending = false
  pendingAuth : ∀ auth, world.pendingAuth = some auth → auth.accountName ≠ accountName
  keyring : Absent accountName world.items

section gone

variable {accountName : String} {world world' : World}

theorem SameAccount.gone (h : SameAccount world world') (hgone : Gone accountName world) :
    Gone accountName world' := by
  refine ⟨?_, h.pending.trans hgone.restored, ?_, h.items ▸ hgone.keyring⟩
  · rw [h.session]
    exact hgone.memory
  · rw [h.pendingAuth]
    exact hgone.pendingAuth

theorem guard_gone (serde : Serde) :
    Guard serde (Gone accountName) fun _ session => session.accountName ≠ accountName where
  same := SameAccount.gone
  same_session := fun _ h => h
  start := fun hgone _ hsession => hgone.memory _ hsession
  refreshed := fun hgone hne => ⟨⟨hgone.memory, hgone.restored, hgone.pendingAuth, hgone.keyring⟩, hne⟩
  changed := fun _ _ hne => hne
  saved := by
    intro world session items hgone hne hleaves
    refine ⟨⟨?_, hgone.restored, hgone.pendingAuth, hgone.keyring.save hne hleaves⟩, hne⟩
    rintro _ ⟨rfl⟩
    exact hne
  refused := fun hgone hne hleaves =>
    ⟨⟨hgone.memory, hgone.restored, hgone.pendingAuth, hgone.keyring.save hne hleaves⟩, hne⟩

theorem guard_signIn_gone (serde : Serde) :
    SignInGuard serde (Gone accountName) (· ≠ accountName) where
  same := SameAccount.gone
  pending := fun hgone hpending => ⟨hgone.memory, hgone.restored, hpending, hgone.keyring⟩
  saved := fun hgone hne hleaves =>
    ⟨hgone.memory, hgone.restored, hgone.pendingAuth, hgone.keyring.save hne hleaves⟩
  published := by
    intro world session catalog clientConfig now hgone hne
    refine ⟨?_, hgone.restored, hgone.pendingAuth, hgone.keyring⟩
    rintro _ ⟨rfl⟩
    exact hne

/-- The operation can sign the account in. -/
def Turn.SignsIn (accountName : String) (turn : Turn) : Prop :=
  (∃ params, turn.operation = .accountLogin params) ∧
    ∃ n auth, turn.outside.authenticate n = .ok auth ∧ auth.accountName = accountName

variable {readers : Readers} {outside : Outside}

theorem EndsWith.gone (h : EndsWith (Gone accountName) world world')
    (hgone : Gone accountName world) : Gone accountName world' := by
  rcases h with h | hsame
  · exact h
  · exact hsame.gone hgone

theorem keeps_clearState_gone : Keeps (Gone accountName) clearState :=
  fun _ hgone => ⟨nofun, hgone.restored, hgone.pendingAuth, hgone.keyring⟩

/-- Every operation but a login of the account leaves it signed out. -/
theorem gone_perform {turn : Turn} (hgone : Gone accountName world) (hlog : world.log = [])
    (hsignsIn : ¬ turn.SignsIn accountName) :
    Gone accountName ((turn.operation.perform readers turn.outside).exec world).2 := by
  obtain ⟨operation, outside⟩ := turn
  have hguard : Guard readers.serde (Gone accountName) _ := guard_gone readers.serde
  have hsign : SignInGuard readers.serde (Gone accountName) _ := guard_signIn_gone readers.serde
  have hpending : ∀ auth, world.pendingAuth = some auth →
      Gone accountName world ∧ auth.accountName ≠ accountName :=
    fun auth hauth => ⟨hgone, hgone.pendingAuth auth hauth⟩
  cases operation with
  | refreshTokens => exact (hguard.meets_refreshTokens hgone hlog).outcome
  | refreshCertificateIfNeeded =>
      rw [Operation.perform, exec_discard_snd]
      exact (hguard.meets_refreshCertificateIfNeeded hgone hlog).outcome
  | refreshRemoteData force taken =>
      exact (hguard.meets_refreshRemoteData force taken hgone hlog).outcome
  | ensureClientConfig => exact (hguard.meets_ensureClientConfig hgone hlog).outcome
  | ensureSignedCatalog => exact (hguard.meets_ensureSignedCatalog hgone hlog).outcome
  | accountLogin params =>
      have hallowed : ∀ n auth, outside.authenticate n = .ok auth →
          auth.accountName ≠ accountName :=
        fun n auth hauth hname => hsignsIn ⟨⟨params, rfl⟩, n, auth, hauth, hname⟩
      exact (hsign.meets_accountLogin params (fun _ => hgone) hallowed).outcome.gone hgone
  | accountSubmit2fa params =>
      exact (hsign.meets_accountSubmit2fa params hpending).outcome.gone hgone
  | accountAuthenticateFido2 =>
      exact (hsign.meets_accountAuthenticateFido2 hpending).outcome.gone hgone
  | restoreSession =>
      have hsame : (restoreSession readers outside).exec world = (.ok (), world) := by
        unfold restoreSession
        rw [exec_ofFun, if_pos (by simp [hgone.restored])]
      change Gone accountName ((restoreSession readers outside).exec world).2
      rw [hsame]
      exact hgone
  | accountLogout =>
      refine (meets_accountLogout hsign.same ?_ ?_ keeps_clearState_gone
        fun _ => hgone).outcome.gone hgone
      · exact fun hgone => ⟨hgone.memory, hgone.restored, nofun, hgone.keyring⟩
      · exact fun _ hgone hleaves => ⟨hgone.memory, hgone.restored, hgone.pendingAuth,
          hgone.keyring.delete hleaves⟩

/-- A session that was deleted is absent. -/
theorem meets_deleteStored (session : SessionData) :
    Meets (deleteStored readers outside (some session)) world fun outcome world' =>
      ∀ u, outcome = .ok u → Absent session.accountName world'.items ∧
        world'.state = world.state ∧ world'.pendingAuth = world.pendingAuth := by
  have hdelete : Meets (delete readers.serde (outside.keyring world.calls) session.accountName)
      { items := world.items } _ := meets_delete session.accountName
  unfold Fallible.Meets at hdelete ⊢
  unfold deleteStored
  rw [exec_ofFun]
  dsimp only
  generalize (delete readers.serde (outside.keyring world.calls) session.accountName).exec
    { items := world.items } = deleted at hdelete
  obtain ⟨outcome, keyring⟩ := deleted
  rintro u ⟨rfl⟩
  refine ⟨?_, rfl, rfl⟩
  dsimp only at hdelete ⊢
  generalize hleft : keyring.items = left at hdelete
  cases hdelete with
  | all => exact (absent_withoutSession _).indexed _ _

/-- A logout that succeeds leaves the account signed out. -/
theorem gone_accountLogout {session : SessionData} (hsession : world.state.session = some session)
    {u : Unit} (hok : ((accountLogout readers outside).exec world).1 = .ok u) :
    Gone session.accountName ((accountLogout readers outside).exec world).2 := by
  have hmeets : Meets (accountLogout readers outside) world fun outcome world' =>
      ∀ u, outcome = .ok u → Gone session.accountName world' := by
    refine (meets_readState world).bind ?_ fun _ _ h => by cases h.1
    rintro _ world ⟨⟨rfl⟩, rfl⟩
    cases hensured : ensureSessionRestored world.state with
    | error error => exact fun _ h => nomatch h
    | ok _ =>
        have hrestored := ensureSessionRestored_eq_ok hensured
        have hstate : ∀ {α : Type} (answer : ℕ → NativeResult α) (w : World),
            Meets (call answer) w fun _ w' => w'.state = w.state := fun _ _ => rfl
        refine meets_keeps_bind (keeps_ofOutcome _) (rfl : world = world) ?_
          fun _ _ _ _ h => nomatch h
        rintro _ _ rfl
        refine (hstate outside.disconnect _).bind ?_ fun _ _ _ _ h => nomatch h
        intro _ world₁ hstate₁
        have hpending : Meets (setPendingAuth none) world₁ fun _ world' =>
            world'.state = world₁.state ∧ world'.pendingAuth = none := ⟨rfl, rfl⟩
        refine hpending.bind ?_ fun _ _ _ _ h => nomatch h
        rintro _ world₂ ⟨hstate₂, hpending₂⟩
        rw [hsession]
        refine (meets_deleteStored session).bind ?_ fun _ _ _ _ h => nomatch h
        intro _ world₃ hdeleted
        obtain ⟨habsent, hstate₃, hpending₃⟩ := hdeleted _ rfl
        have hclear : Meets clearState world₃ fun _ world' => world'.state.session = none ∧
            world'.state.sessionRestorePending = world₃.state.sessionRestorePending ∧
            world'.pendingAuth = world₃.pendingAuth ∧ world'.items = world₃.items :=
          ⟨rfl, rfl, rfl, rfl⟩
        refine hclear.mono ?_
        rintro _ world' ⟨hnone, hpending', hauth, hitems⟩ _ _
        rw [hstate₃, hstate₂, hstate₁, hrestored] at hpending'
        rw [hpending₃, hpending₂] at hauth
        exact ⟨by simp [hnone], hpending', by simp [hauth], hitems ▸ habsent⟩
  exact hmeets.outcome u hok

end gone

/-! ## Runs -/

/-- The agent has just been started: its session was loaded, or is still to be restored. -/
structure Started (world : World) : Prop where
  rotated : world.rotated = none
  pendingAuth : world.pendingAuth = none
  pending : world.state.sessionRestorePending = true → world.state.session = none

/-- In every operation whose refresh was answered a later save to the keyring succeeds. -/
def StoresRotated (readers : Readers) (turns : List Turn) (world : World) : Prop :=
  ∀ before turn rest, turns = before ++ turn :: rest →
    unsaved (turn.run readers (worldAfter readers before world)).2.log = false

section runs

variable {readers : Readers} {world : World}

theorem worldAfter_concat (turns : List Turn) (turn : Turn) :
    worldAfter readers (turns ++ [turn]) world =
      (turn.run readers (worldAfter readers turns world)).2 := List.foldl_append

theorem Started.kept (h : Started world) : Kept world := by
  constructor
  · intro _ _ _ tokens hrotated
    rw [h.rotated] at hrotated
    cases hrotated
  · exact fun hpending => ⟨h.pending hpending, h.rotated, h.pendingAuth⟩

/-- The session in memory carries the tokens of its last refresh, after each of the operations. -/
theorem intact_after (h : Started world) {turns : List Turn}
    (hstores : StoresRotated readers turns world) (before : List Turn) (hbefore : before <+: turns) :
    Kept (worldAfter readers before world) ∧ Intact (worldAfter readers before world) := by
  induction before using List.reverseRecOn with
  | nil =>
      refine ⟨h.kept, ?_⟩
      intro _ _ tokens hrotated
      rw [worldAfter, List.foldl_nil, h.rotated] at hrotated
      cases hrotated
  | append_singleton before turn ih =>
      obtain ⟨rest, hturns⟩ := hbefore
      have hsplit : turns = before ++ turn :: rest := by
        rw [← hturns, List.append_assoc]
        rfl
      obtain ⟨hkept, hintact⟩ := ih ⟨_, hsplit.symm⟩
      have hbegin : Kept (worldAfter readers before world).begin :=
        ⟨fun _ => hintact, hkept.pending⟩
      have hafter : Kept (turn.run readers (worldAfter readers before world)).2 :=
        kept_perform turn.operation hbegin rfl
      rw [worldAfter_concat]
      exact ⟨hafter, hafter.intact (hstores _ _ _ hsplit)⟩

/-- An account that was signed out stays so until it signs in. -/
theorem gone_after {accountName : String} {turns : List Turn} (h : Gone accountName world)
    (hturns : ∀ turn ∈ turns, ¬ turn.SignsIn accountName) :
    Gone accountName (worldAfter readers turns world) := by
  induction turns generalizing world with
  | nil => exact h
  | cons turn turns ih =>
      have hbegin : Gone accountName world.begin :=
        ⟨h.memory, h.restored, h.pendingAuth, h.keyring⟩
      exact ih (gone_perform hbegin rfl (hturns turn List.mem_cons_self))
        fun turn' hmem => hturns turn' (List.mem_cons_of_mem _ hmem)

/-- An account that a logout has signed out is found neither in memory nor in the keyring. -/
def SignedOut (readers : Readers) (turns : List Turn) (world : World) : Prop :=
  ∀ before logout rest session, turns = before ++ logout :: rest →
    logout.operation = .accountLogout →
    (worldAfter readers before world).state.session = some session →
    (logout.run readers (worldAfter readers before world)).1 = .ok () →
    (∀ turn ∈ rest, ¬ turn.SignsIn session.accountName) →
      (∀ session', (worldAfter readers turns world).state.session = some session' →
        session'.accountName ≠ session.accountName) ∧
      (worldAfter readers turns world).items SERVICE (privateAccountKey session.accountName) = none

theorem signedOut_after (turns : List Turn) : SignedOut readers turns world := by
  rintro before ⟨operation, outside⟩ rest session rfl hlogout hsession hok hrest
  obtain rfl : operation = .accountLogout := hlogout
  have hgone : Gone session.accountName ((accountLogout readers outside).exec
      (worldAfter readers before world).begin).2 := gone_accountLogout hsession hok
  have hafter : Gone _ (worldAfter readers rest _) := gone_after hgone hrest
  have hworld : worldAfter readers (before ++ ⟨.accountLogout, outside⟩ :: rest) world =
      worldAfter readers rest ((accountLogout readers outside).exec
        (worldAfter readers before world).begin).2 := List.foldl_append
  rw [hworld]
  exact ⟨hafter.memory, hafter.keyring.absent⟩

end runs

/-- Rotated tokens are not lost in a run whose answered refreshes are stored, and a session that was
signed out does not come back. -/
theorem credentials_kept (readers : Readers) {world : World} (h : Started world)
    {turns : List Turn} (hstores : StoresRotated readers turns world) :
    (∀ before, before <+: turns → Intact (worldAfter readers before world)) ∧
      ∀ before, before <+: turns → SignedOut readers before world :=
  ⟨fun before hbefore => (intact_after h hstores before hbefore).2,
    fun before _ => signedOut_after before⟩

/-! ## A refresh that the keyring does not take -/

def plainReaders : Readers where
  serde := plainSerde
  catalog := .ok
  hasEndpointSignatures _ := false
  catalogExpires _ _ := false
  clientConfig := .ok
  clientConfigFresh _ _ := false
  certificate := .ok
  location := .ok

/-- Every refresh is answered with new tokens. -/
def answering (refusals : Refusals) : Outside where
  api _ _ := .ok (.object [("AccessToken", .string "access2"), ("RefreshToken", .string "refresh2"),
    ("Scopes", .array [])])
  authenticate _ := .error (.new "api_unreachable" "The Proton API could not be reached")
  submit _ _ := .ok []
  bootstrap _ _ := .ok (.null, .null, .null)
  securityKey _ := .ok ()
  keyring _ := refusals
  saveValue _ := .ok ()
  unixSeconds _ := .ok 0
  instant _ := 0
  physical _ := .ok ("", false)
  unchanged _ := .ok false
  disconnect _ := .ok ()

/-- The agent with a session, and a keyring without items. -/
def signedIn : World where
  state :=
    { session := some (nthSession 0), sessionRestorePending := false, catalog := none
      clientConfig := none, remoteRefreshAfter := none, locationRetryAfter := none
      locationIdentity := none, physicalLocationKnown := false }
  pendingAuth := none
  items := noItems
  rotated := none
  calls := 0
  log := []

theorem started_signedIn : Started signedIn := ⟨rfl, rfl, nofun⟩

/-- The session of `signedIn` with the tokens of `answering`. -/
def rotatedSession : SessionData :=
  { nthSession 0 with accessToken := "access2", refreshToken := "refresh2" }

theorem run_answering (refusals : Refusals) :
    Turn.run plainReaders ⟨.refreshTokens, answering refusals⟩ signedIn =
      (persistSessionData plainReaders (answering refusals) rotatedSession).exec
        { signedIn.refreshed ⟨"access2", "refresh2"⟩ with calls := 1 } := rfl

/-- A refresh whose save is refused leaves tokens in memory that the API no longer takes. -/
theorem not_always_intact : ¬ ∀ (readers : Readers) (world : World) (turns : List Turn),
    Started world → Intact (worldAfter readers turns world) := by
  intro h
  have hintact := h plainReaders signedIn [⟨.refreshTokens, answering fun _ _ => true⟩]
    started_signedIn
  have hsession : (Turn.run plainReaders ⟨.refreshTokens, answering fun _ _ => true⟩
      signedIn).2.state.session = some (nthSession 0) := rfl
  have htokens := hintact _ hsession ⟨"access2", "refresh2"⟩ rfl
  exact absurd htokens (by decide)

theorem storesRotated_answering : StoresRotated plainReaders
    [⟨.refreshTokens, answering noRefusals⟩] signedIn := by
  have hsaved : Handled.Succeeds plainSerde noItems ⟨.save rotatedSession, noRefusals⟩ := by
    have haccounts : accountsOf plainSerde noItems = accountsBefore 0 := rfl
    have hsaves : ∃ raw index, SavesAs plainSerde rotatedSession noItems raw index :=
      savesAs_nthAccount (Nat.zero_le _) haccounts rfl (by decide) rfl (by decide)
    obtain ⟨raw, index, hsaves⟩ := hsaves
    exact save_succeeds hsaves
  have hok : ((save plainSerde noRefusals rotatedSession).exec { items := noItems }).1 = .ok () :=
    hsaved
  intro before turn rest hsplit
  obtain ⟨rfl, rfl, rfl⟩ : before = [] ∧ turn = ⟨.refreshTokens, answering noRefusals⟩ ∧ rest = [] := by
    cases before with
    | nil =>
        obtain ⟨rfl, rfl⟩ := List.cons.inj hsplit
        exact ⟨rfl, rfl, rfl⟩
    | cons first before =>
        have hnil := (List.cons.inj hsplit).2
        simp at hnil
  rw [worldAfter, List.foldl_nil, run_answering]
  unfold persistSessionData saveSession
  rw [exec_bind, exec_ofFun]
  have hitems : (signedIn.refreshed ⟨"access2", "refresh2"⟩).items = noItems := rfl
  have hanswers : (answering noRefusals).keyring = fun _ => noRefusals := rfl
  have hserde : plainReaders.serde = plainSerde := rfl
  dsimp only
  rw [hitems, hanswers, hserde]
  generalize (save plainSerde noRefusals rotatedSession).exec { items := noItems } = result at hok
  obtain ⟨outcome, keyring⟩ := result
  obtain rfl := hok
  rfl

/-- The tokens of an answered refresh that is stored. -/
theorem credentials_kept_answering :
    (∀ before, before <+: [⟨.refreshTokens, answering noRefusals⟩] →
        Intact (worldAfter plainReaders before signedIn)) ∧
      ∀ before, before <+: [⟨.refreshTokens, answering noRefusals⟩] →
        SignedOut plainReaders before signedIn :=
  credentials_kept plainReaders started_signedIn storesRotated_answering

end ProtonVpnOmarchy.Agent.Account
