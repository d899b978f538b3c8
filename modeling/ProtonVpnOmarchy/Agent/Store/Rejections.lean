import ProtonVpnOmarchy.Agent.Store.Effects

/-!
# Rejected requests

`mutate` keeps a copy of the data, and puts it back when the data cannot be saved. When the change
itself is rejected it returns early, and what was applied before the rejection stays: the fields of
the onboarding data that were read before the invalid one, and an empty record of the account.

* `leavesNothing_onAccount_iff`, `leavesNothing_setPreferences_iff` — the two kinds of change.
* `rejectedWhole_iff` — when nothing of a rejected request is applied.
-/

namespace ProtonVpnOmarchy.Agent.Store

open Lib Lib.Fallible Splitd
open Std (ExtTreeMap)

/-- A request that is rejected leaves the data as it was, and with it all that later requests
answer and write. -/
def RejectedWhole (disk : Disk) (clock : ℕ → UInt64) (method : String) (params : Value)
    (state : StoreState) : Prop :=
  ∀ error, (requestInner disk clock method params state).1 = .error error →
    (requestInner disk clock method params state).2.data = state.data ∧
      ∀ disk' clock' method' params' files, requestInner disk' clock' method' params'
          ⟨(requestInner disk clock method params state).2.data, files⟩ =
        requestInner disk' clock' method' params' ⟨state.data, files⟩

/-! ## The condition -/

/-- A field that is read if it is given. -/
def given {α : Type} (object : Map) (key : String) (read : Value → StoreResult α) :
    StoreResult (Option α) :=
  match object.get key with
  | none => .ok none
  | some value => (read value).map some

/-- Whether a field that was read leaves its preference as it is. -/
def kept {α : Type} [DecidableEq α] (read : StoreResult (Option α)) (current : α) :
    StoreResult Bool :=
  read.map fun value => decide (value.getD current = current)

/-- Fields are applied in order, up to the first that cannot be read: one that changes its
preference comes after that one, or all later ones can be read. -/
def changesLast : List (StoreResult Bool) → Bool
  | [] => true
  | .error _ :: _ => true
  | .ok true :: rest => changesLast rest
  | .ok false :: rest => rest.all Except.isOk

/-- The fields of `onboarding.complete`, in the order they are applied. -/
def onboardingChecks (onboarding : Onboarding) (object : Map) : List (StoreResult Bool) :=
  [kept ((localeValue (object.get "locale")).map some) onboarding.locale,
    kept ((requiredBool object "start_with_omarchy").map some) onboarding.startWithOmarchy,
    kept ((requiredBool object "auto_connect").map some) onboarding.autoConnect]

/-- The fields of `preferences.set`, in the order they are applied. -/
def preferenceChecks (onboarding : Onboarding) (object : Map) : List (StoreResult Bool) :=
  [kept (given object "locale" fun value => localeValue (some value)) onboarding.locale,
    kept (given object "start_with_omarchy" (readFlag "start_with_omarchy"))
      onboarding.startWithOmarchy,
    kept (given object "auto_connect" (readFlag "auto_connect")) onboarding.autoConnect,
    kept (given object "notifications_enabled" (readFlag "notifications_enabled"))
      onboarding.notificationsEnabled,
    kept (given object "port_forwarding_notifications_enabled"
      (readFlag "port_forwarding_notifications_enabled"))
      onboarding.portForwardingNotificationsEnabled]

/-- A profile with valid fields. -/
def ValidProfile (raw : Map) : Prop :=
  (stringValue (raw.get "id") 128 false).isOk ∧ (profileTarget raw).isOk ∧
    (profileSettings raw).isOk ∧ (connectAndGo raw).isOk

/-- There is a record of the account that requests change. -/
def HasAccount (data : StoreFile) : Prop := accountKey data ∈ data.accounts

/-- The requests of which nothing is applied if they are rejected. -/
def SafeToReject (data : StoreFile) (method : String) (params : Value) : Prop :=
  ∀ object, params.asObject = some object →
    match method with
    | "onboarding.complete" => changesLast (onboardingChecks data.onboarding object) = true
    | "preferences.set" => changesLast (preferenceChecks data.onboarding object) = true
    | "profiles.save" => HasAccount data ∨
        ∀ raw, (object.get "profile").bind Value.asObject = some raw → ValidProfile raw
    | "profiles.duplicate" => HasAccount data ∨ ¬ (requiredString object "id" 128).isOk
    | "recents.record" => HasAccount data ∨
        ∀ raw, (object.get "recent").bind Value.asObject = some raw →
          requiredString raw "kind" 32 = .ok "profile" → ¬ (normalizeRecent raw).isOk
    | "recents.pin" => HasAccount data ∨ ¬ (requiredString object "id" 128).isOk ∨
        ¬ (requiredBool object "pinned").isOk
    | "default_connection.set" => HasAccount data ∨
        ∀ selection, (object.get "selection").bind Value.asObject = some selection →
          ∃ kind ∈ ["fastest", "random", "last"], stringOr selection "type" "fastest" 32 = .ok kind
    | _ => True

/-! ## Changes -/

/-- A change that fails has changed nothing. -/
def LeavesNothing (change : Mutation Value) (data : StoreFile) : Prop :=
  ∀ error data', change.exec data = (.error error, data') → data' = data

/-- Only a change that fails leaves something behind; data that cannot be saved is put back. -/
theorem rejectedWhole_iff_leavesNothing (disk : Disk) (clock : ℕ → UInt64) (method : String)
    (params : Value) (state : StoreState) :
    RejectedWhole disk clock method params state ↔
      ∀ change, query method params state.data = none →
        mutation clock method params = some change → LeavesNothing change state.data := by
  constructor
  · intro h change hquery hmutation error data' hexec
    have hrequest : requestInner disk clock method params state =
        (.error error, { state with data := data' }) := by
      simp only [requestInner, hquery, hmutation, mutate, hexec]
    obtain ⟨hdata, -⟩ := h error (by rw [hrequest])
    rwa [hrequest] at hdata
  · intro h error herror
    have hdata : (requestInner disk clock method params state).2.data = state.data := by
      unfold requestInner at herror ⊢
      rcases hquery : query method params state.data with _ | result
      · rcases hmutation : mutation clock method params with _ | change
        · rfl
        · simp only [hquery, hmutation] at herror ⊢
          unfold mutate at herror ⊢
          rcases hexec : change.exec state.data with ⟨error' | value, data'⟩
          · exact h change hquery hmutation error' data' hexec
          · simp only [hexec] at herror ⊢
            rcases hsaved : persist disk state.data { data' with revision := data'.revision + 1 }
              state.files with ⟨_ | _, files⟩
            · rw [hsaved] at herror
              cases herror
            · rfl
      · rfl
    refine ⟨hdata, ?_⟩
    intro disk' clock' method' params' files
    rw [hdata]

theorem leavesNothing_liftResult_bind_iff {α : Type} {result : StoreResult α}
    {f : α → Mutation Value} {data : StoreFile} :
    LeavesNothing (liftResult result >>= f) data ↔
      ∀ a, result = .ok a → LeavesNothing (f a) data := by
  unfold LeavesNothing
  simp only [exec_bind, exec_liftResult]
  rcases result with error | a
  · simp
  · simp

theorem insert_entry_self {data : StoreFile} {key : String} (h : key ∈ data.accounts) :
    data.accounts.insert key (entry data key) = data.accounts := by
  apply ExtTreeMap.ext_getElem?
  intro other
  rw [ExtTreeMap.getElem?_insert]
  split_ifs with hkey
  · obtain rfl := compare_eq_iff_eq.mp hkey
    unfold entry
    rcases hget : data.accounts[key]? with _ | account
    · rw [ExtTreeMap.mem_iff_isSome_getElem?, hget] at h
      cases h
    · rfl
  · rfl

/-- A change of the record of an account leaves nothing if there is a record, or if it succeeds on
an empty one. -/
theorem leavesNothing_onAccount_iff {change : AccountStore → StoreResult (Value × AccountStore)}
    {data : StoreFile} :
    LeavesNothing (onAccount change) data ↔ HasAccount data ∨ (change {}).isOk := by
  unfold LeavesNothing HasAccount
  rw [exec_onAccount]
  by_cases hmem : accountKey data ∈ data.accounts
  · refine iff_of_true ?_ (.inl hmem)
    intro error data' hexec
    rcases hresult : change (entry data (accountKey data)) with error' | ⟨value, account⟩
    · rw [hresult] at hexec
      obtain ⟨-, rfl⟩ := Prod.mk.inj hexec
      rw [insert_entry_self hmem]
    · rw [hresult] at hexec
      cases hexec
  · have hnone : data.accounts[accountKey data]? = none := by
      rwa [ExtTreeMap.getElem?_eq_none]
    have hentry : entry data (accountKey data) = {} := by
      unfold entry
      rw [hnone]
      rfl
    rw [hentry, or_iff_right hmem]
    rcases hresult : change {} with error | ⟨value, account⟩
    · refine iff_of_false ?_ nofun
      intro h
      have hdata := h error _ rfl
      have haccounts := congrArg (fun data' => data'.accounts[accountKey data]?) hdata
      simp only [ExtTreeMap.getElem?_insert_self, hnone] at haccounts
      cases haccounts
    · exact iff_of_true nofun rfl

/-! ## Fields of the onboarding data -/

/-- A field that changes its preference stays changed if a later one cannot be read. -/
theorem changesLast_cons_ok (same : Bool) (rest : List (StoreResult Bool)) :
    changesLast (.ok same :: rest) = if same then changesLast rest else rest.all Except.isOk := by
  cases same
  · rfl
  · rfl

@[simp] theorem changesLast_cons_error (error : BackendError) (rest : List (StoreResult Bool)) :
    changesLast (.error error :: rest) = true := rfl

@[simp] theorem kept_ok {α : Type} [DecidableEq α] (value : Option α) (current : α) :
    kept (.ok value) current = .ok (decide (value.getD current = current)) := rfl

@[simp] theorem kept_error {α : Type} [DecidableEq α] (error : BackendError) (current : α) :
    kept (.error error : StoreResult (Option α)) current = .error error := rfl

@[simp] theorem isOk_ok {α : Type} (a : α) : (Except.ok a : StoreResult α).isOk = true := rfl

@[simp] theorem isOk_error {α : Type} (error : BackendError) :
    (Except.error error : StoreResult α).isOk = false := rfl

/-- A computation that fails leaves the data as given. -/
def FailsAt (start : StoreFile) (change : Mutation Value) (data : StoreFile) : Prop :=
  ∀ error data', change.exec data = (.error error, data') → data' = start

theorem failsAt_pure (start data : StoreFile) (value : Value) : FailsAt start (pure value) data :=
  nofun

theorem failsAt_liftResult_bind_iff {α : Type} {start data : StoreFile} {result : StoreResult α}
    {f : α → Mutation Value} :
    FailsAt start (liftResult result >>= f) data ↔
      match result with
      | .ok a => FailsAt start (f a) data
      | .error _ => data = start := by
  unfold FailsAt
  simp only [exec_bind, exec_liftResult]
  rcases result with error | a
  · simp
  · simp

theorem failsAt_setOnboarding_bind_iff {start data : StoreFile} {change : Onboarding → Onboarding}
    {f : Unit → Mutation Value} :
    FailsAt start (setOnboarding change >>= f) data ↔
      FailsAt start (f ()) { data with onboarding := change data.onboarding } := Iff.rfl

theorem failsAt_setPreference_bind_iff {α : Type} {start data : StoreFile} {object : Map}
    {key : String} {read : Value → StoreResult α} {write : Onboarding → α → Onboarding}
    {f : Unit → Mutation Value} :
    FailsAt start (setPreference object key read write >>= f) data ↔
      match given object key read with
      | .ok value => FailsAt start (f ())
          { data with onboarding := value.elim data.onboarding (write data.onboarding) }
      | .error _ => data = start := by
  unfold setPreference given
  rcases object.get key with _ | value
  · exact Iff.rfl
  · rw [bind_assoc, failsAt_liftResult_bind_iff]
    dsimp only
    rcases read value with error | a
    · exact Iff.rfl
    · exact failsAt_setOnboarding_bind_iff

theorem onboarding_eq_iff {data : StoreFile} {onboarding : Onboarding} :
    { data with onboarding := onboarding } = data ↔ onboarding = data.onboarding := by
  constructor
  · intro h
    exact congrArg StoreFile.onboarding h
  · rintro rfl
    rfl

theorem leavesNothing_completeOnboarding_iff {params : Value} {object : Map} {data : StoreFile}
    (hobject : params.asObject = some object) :
    LeavesNothing (completeOnboarding params) data ↔
      changesLast (onboardingChecks data.onboarding object) = true := by
  change FailsAt data (completeOnboarding params) data ↔ _
  unfold completeOnboarding onboardingChecks objectParams
  rw [hobject, failsAt_liftResult_bind_iff]
  dsimp only [okOrElse]
  -- The fields are read one after the other; the first that fails decides.
  rw [failsAt_liftResult_bind_iff]
  rcases localeValue (object.get "locale") with error | locale
  · simp [Except.map]
  dsimp only
  rw [failsAt_setOnboarding_bind_iff, failsAt_liftResult_bind_iff]
  rcases requiredBool object "start_with_omarchy" with error | start
  · dsimp only
    refine onboarding_eq_iff.trans ?_
    simp [Except.map, changesLast_cons_ok, Onboarding.ext_iff]
  dsimp only
  rw [failsAt_setOnboarding_bind_iff, failsAt_liftResult_bind_iff]
  rcases requiredBool object "auto_connect" with error | auto
  · dsimp only
    refine onboarding_eq_iff.trans ?_
    simp [Except.map, changesLast_cons_ok, Onboarding.ext_iff]
  · refine iff_of_true (failsAt_pure _ _ _) ?_
    simp [Except.map, changesLast_cons_ok, changesLast]

/-- A field that is given replaces the current value. -/
theorem elim_getD {α : Type} (value : Option α) (onboarding : Onboarding)
    (write : Onboarding → α → Onboarding) (read : Onboarding → α)
    (hread : write onboarding (read onboarding) = onboarding) :
    value.elim onboarding (write onboarding) = write onboarding (value.getD (read onboarding)) := by
  rcases value with _ | a
  · exact hread.symm
  · rfl

theorem leavesNothing_setPreferences_iff {params : Value} {object : Map} {data : StoreFile}
    (hobject : params.asObject = some object) :
    LeavesNothing (setPreferences params) data ↔
      changesLast (preferenceChecks data.onboarding object) = true := by
  change FailsAt data (setPreferences params) data ↔ _
  unfold setPreferences preferenceChecks objectParams
  rw [hobject, failsAt_liftResult_bind_iff]
  dsimp only [okOrElse]
  -- As above: the first field that cannot be read decides, with what was written before it.
  rw [failsAt_setPreference_bind_iff]
  rcases given object "locale" (fun value => localeValue (some value)) with error | locale
  · simp
  dsimp only
  rw [failsAt_setPreference_bind_iff,
    elim_getD locale _ (fun onboarding locale => { onboarding with locale := locale })
      Onboarding.locale rfl]
  rcases given object "start_with_omarchy" (readFlag "start_with_omarchy") with error | start
  · dsimp only
    refine onboarding_eq_iff.trans ?_
    simp [changesLast_cons_ok, Onboarding.ext_iff]
  dsimp only
  rw [failsAt_setPreference_bind_iff,
    elim_getD start _ (fun onboarding flag => { onboarding with startWithOmarchy := flag })
      Onboarding.startWithOmarchy rfl]
  rcases given object "auto_connect" (readFlag "auto_connect") with error | auto
  · dsimp only
    refine onboarding_eq_iff.trans ?_
    simp [changesLast_cons_ok, Onboarding.ext_iff]
  dsimp only
  rw [failsAt_setPreference_bind_iff,
    elim_getD auto _ (fun onboarding flag => { onboarding with autoConnect := flag })
      Onboarding.autoConnect rfl]
  rcases given object "notifications_enabled" (readFlag "notifications_enabled") with
    error | notifications
  · dsimp only
    refine onboarding_eq_iff.trans ?_
    simp [changesLast_cons_ok, Onboarding.ext_iff]
  dsimp only
  rw [failsAt_setPreference_bind_iff, elim_getD notifications _
    (fun onboarding flag => { onboarding with notificationsEnabled := flag })
    Onboarding.notificationsEnabled rfl]
  rcases given object "port_forwarding_notifications_enabled"
    (readFlag "port_forwarding_notifications_enabled") with error | portForwarding
  · dsimp only
    refine onboarding_eq_iff.trans ?_
    simp [changesLast_cons_ok, Onboarding.ext_iff]
  · refine iff_of_true (failsAt_setOnboarding_bind_iff.mpr (failsAt_pure _ _ _)) ?_
    simp [changesLast_cons_ok, changesLast]

/-! ## Records of an account -/

/-- An empty record takes every valid profile. -/
theorem isOk_saveProfileIn_empty_iff {clock : ℕ → UInt64} {raw : Map} :
    (saveProfileIn clock raw {}).isOk ↔ ValidProfile raw := by
  unfold saveProfileIn ValidProfile
  rw [isOk_bind_iff, isOk_iff]
  have hspace : ∀ id : String, reject (id = "" ∧ MAX_PROFILES ≤ ([] : List Value).length)
      profileLimitReached = .ok () := by
    intro id
    unfold reject
    rw [if_neg (by simp [MAX_PROFILES])]
  constructor
  · rintro ⟨id, hid, h⟩
    obtain ⟨⟨⟩, -, h⟩ := isOk_bind_iff.mp h
    obtain ⟨profile, hprofile, -⟩ := isOk_bind_iff.mp h
    exact ⟨⟨id, hid⟩, isOk_normalizeProfile_iff.mp (isOk_iff.mpr ⟨profile, hprofile⟩)⟩
  · rintro ⟨⟨id, hid⟩, hvalid⟩
    obtain ⟨profile, hprofile⟩ := isOk_iff.mp (isOk_normalizeProfile_iff.mpr hvalid)
    exact ⟨id, hid, isOk_bind_iff.mpr ⟨(), hspace id, isOk_bind_iff.mpr ⟨profile, hprofile, rfl⟩⟩⟩

/-- An empty record takes every recent connection but one to a profile. -/
theorem isOk_recordRecentIn_empty_iff {clock : ℕ → UInt64} {recent : Map} {kind : String} :
    (recordRecentIn clock recent kind {}).isOk ↔ kind ≠ "profile" := by
  unfold recordRecentIn checkRecentProfile
  by_cases hkind : kind = "profile"
  · refine iff_of_false ?_ (not_not.mpr hkind)
    rw [if_pos hkind, isOk_bind_iff]
    rintro ⟨⟨⟩, h, -⟩
    obtain ⟨id, -, h⟩ := Except.bind_eq_ok.mp h
    cases h
  · rw [if_neg hkind]
    exact iff_of_true rfl hkind

/-- An empty record takes a default connection that names nothing. -/
theorem isOk_setDefault_empty_iff {selection : Map} :
    (do
      let defaultConnection ← normalizeDefault selection {}
      return (Value.obj [("default_connection", defaultConnection)],
        ({ defaultConnection := defaultConnection } : AccountStore)) :
      StoreResult (Value × AccountStore)).isOk ↔
      ∃ kind ∈ ["fastest", "random", "last"],
        stringOr selection "type" "fastest" 32 = .ok kind := by
  rw [isOk_bind_iff]
  unfold normalizeDefault
  rcases stringOr selection "type" "fastest" 32 with error | kind
  · simp [Except.bind_eq_ok]
  · constructor
    · rintro ⟨value, hvalue, -⟩
      obtain ⟨kind', hkind, hvalue⟩ := Except.bind_eq_ok.mp hvalue
      obtain rfl := Except.ok.inj hkind
      refine ⟨kind, ?_, rfl⟩
      split at hvalue
      · simp
      · simp
      · simp
      · obtain ⟨id, -, hvalue⟩ := Except.bind_eq_ok.mp hvalue
        cases hvalue
      · obtain ⟨id, -, hvalue⟩ := Except.bind_eq_ok.mp hvalue
        cases hvalue
      · cases hvalue
    · rintro ⟨kind', hmem, hkind⟩
      obtain rfl := Except.ok.inj hkind
      fin_cases hmem
      all_goals exact ⟨_, rfl, rfl⟩

section changes

variable {clock : ℕ → UInt64} {params : Value} {object : Map} {data : StoreFile}
  (hobject : params.asObject = some object)

include hobject

theorem objectParams_eq : objectParams params = .ok object := by
  unfold objectParams
  rw [hobject]
  rfl

theorem leavesNothing_saveProfile_iff :
    LeavesNothing (saveProfile clock params) data ↔ HasAccount data ∨
      ∀ raw, (object.get "profile").bind Value.asObject = some raw → ValidProfile raw := by
  unfold saveProfile
  rw [objectParams_eq hobject]
  simp only [leavesNothing_liftResult_bind_iff, leavesNothing_onAccount_iff,
    isOk_saveProfileIn_empty_iff, Except.ok.injEq, forall_eq']
  rcases (object.get "profile").bind Value.asObject with _ | raw
  · simp [okOrElse]
  · simp [okOrElse]

theorem leavesNothing_duplicateProfile_iff :
    LeavesNothing (duplicateProfile clock params) data ↔
      HasAccount data ∨ ¬ (requiredString object "id" 128).isOk := by
  have hempty : ∀ id, (duplicateProfileIn clock object id {}).isOk = false := fun _ => rfl
  unfold duplicateProfile
  rw [objectParams_eq hobject]
  simp only [leavesNothing_liftResult_bind_iff, leavesNothing_onAccount_iff, hempty,
    Except.ok.injEq, forall_eq']
  rcases requiredString object "id" 128 with error | id
  · simp
  · simp

theorem leavesNothing_deleteProfile : LeavesNothing (deleteProfile params) data := by
  unfold deleteProfile
  rw [objectParams_eq hobject]
  simp only [leavesNothing_liftResult_bind_iff, leavesNothing_onAccount_iff]
  exact fun _ _ _ _ => .inr rfl

theorem leavesNothing_setExcludedLocations : LeavesNothing (setExcludedLocations params) data := by
  unfold setExcludedLocations
  rw [objectParams_eq hobject]
  simp only [leavesNothing_liftResult_bind_iff, leavesNothing_onAccount_iff]
  exact fun _ _ _ _ _ _ _ _ => .inr rfl

theorem leavesNothing_deleteRecent : LeavesNothing (deleteRecent params) data := by
  unfold deleteRecent
  rw [objectParams_eq hobject]
  simp only [leavesNothing_liftResult_bind_iff, leavesNothing_onAccount_iff]
  exact fun _ _ _ _ => .inr rfl

theorem leavesNothing_pinRecent_iff :
    LeavesNothing (pinRecent clock params) data ↔ HasAccount data ∨
      ¬ (requiredString object "id" 128).isOk ∨ ¬ (requiredBool object "pinned").isOk := by
  have hempty : ∀ id pinned, (pinRecentIn clock id pinned {}).isOk = false := fun _ _ => rfl
  unfold pinRecent
  rw [objectParams_eq hobject]
  simp only [leavesNothing_liftResult_bind_iff, leavesNothing_onAccount_iff, hempty,
    Except.ok.injEq, forall_eq']
  rcases requiredString object "id" 128 with error | id
  · simp
  rcases requiredBool object "pinned" with error | pinned
  · simp
  · simp

theorem leavesNothing_setDefaultConnection_iff :
    LeavesNothing (setDefaultConnection params) data ↔ HasAccount data ∨
      ∀ selection, (object.get "selection").bind Value.asObject = some selection →
        ∃ kind ∈ ["fastest", "random", "last"],
          stringOr selection "type" "fastest" 32 = .ok kind := by
  unfold setDefaultConnection
  rw [objectParams_eq hobject]
  simp only [leavesNothing_liftResult_bind_iff, leavesNothing_onAccount_iff, Except.ok.injEq,
    forall_eq', isOk_setDefault_empty_iff]
  rcases (object.get "selection").bind Value.asObject with _ | selection
  · simp [okOrElse]
  · simp [okOrElse]

theorem leavesNothing_recordRecent_iff :
    LeavesNothing (recordRecent clock params) data ↔ HasAccount data ∨
      ∀ raw, (object.get "recent").bind Value.asObject = some raw →
        requiredString raw "kind" 32 = .ok "profile" → ¬ (normalizeRecent raw).isOk := by
  unfold recordRecent
  rw [objectParams_eq hobject]
  simp only [leavesNothing_liftResult_bind_iff, leavesNothing_onAccount_iff, Except.ok.injEq,
    forall_eq', isOk_recordRecentIn_empty_iff]
  rcases (object.get "recent").bind Value.asObject with _ | raw
  · simp [okOrElse]
  rcases hrecent : normalizeRecent raw with error | recent
  · simp [okOrElse, hrecent]
  -- The kind that is read back is the one of the request.
  obtain ⟨kind, hkind, hnamed, -⟩ := normalizeRecent_spec hrecent
  have hback : requiredString recent "kind" 32 = .ok kind :=
    (stored_of_requiredString hkind).requiredString hnamed.kind
  simp [okOrElse, hrecent, hback, hkind]

end changes

/-- A change that is rejected leaves nothing exactly if it is safe to reject. -/
theorem leavesNothing_mutation_iff {clock : ℕ → UInt64} {method : String} {params : Value}
    {data : StoreFile} {change : Mutation Value}
    (hmutation : mutation clock method params = some change) :
    LeavesNothing change data ↔ SafeToReject data method params := by
  unfold SafeToReject
  rcases hobject : params.asObject with _ | object
  · refine iff_of_true ?_ nofun
    have hnone : ∀ f, LeavesNothing (liftResult (objectParams params) >>= f) data := by
      intro f
      rw [leavesNothing_liftResult_bind_iff]
      intro object h
      rw [okOrElse_eq_ok h] at hobject
      cases hobject
    unfold mutation at hmutation
    split at hmutation
    all_goals cases hmutation
    all_goals exact hnone _
  · simp only [Option.some.injEq, forall_eq']
    unfold mutation at hmutation
    split at hmutation
    all_goals cases hmutation
    · exact leavesNothing_completeOnboarding_iff hobject
    · exact leavesNothing_setPreferences_iff hobject
    · exact leavesNothing_saveProfile_iff hobject
    · exact leavesNothing_duplicateProfile_iff hobject
    · exact iff_of_true (leavesNothing_deleteProfile hobject) trivial
    · exact iff_of_true (leavesNothing_setExcludedLocations hobject) trivial
    · exact leavesNothing_recordRecent_iff hobject
    · exact leavesNothing_pinRecent_iff hobject
    · exact iff_of_true (leavesNothing_deleteRecent hobject) trivial
    · exact leavesNothing_setDefaultConnection_iff hobject

/-- **Nothing of a rejected request is applied, exactly if its record is there or its fields are
such that nothing was applied before the rejection.** -/
theorem rejectedWhole_iff (disk : Disk) (clock : ℕ → UInt64) (method : String) (params : Value)
    (state : StoreState) :
    RejectedWhole disk clock method params state ↔ SafeToReject state.data method params := by
  rw [rejectedWhole_iff_leavesNothing]
  rcases hmutation : mutation clock method params with _ | change
  · refine iff_of_true nofun ?_
    unfold SafeToReject
    intro object _
    split
    all_goals first | cases hmutation | trivial
  · rw [← leavesNothing_mutation_iff hmutation]
    constructor
    · intro h
      refine h change ?_ rfl
      unfold mutation at hmutation
      split at hmutation
      all_goals first | rfl | cases hmutation
    · intro h change' _ hchange
      obtain rfl := Option.some.inj hchange
      exact h

/-- The language of a rejected `onboarding.complete` is applied. -/
theorem onboarding_applied_in_part :
    ¬ RejectedWhole ⟨fun _ => none, fun _ => 0⟩ (fun _ => 0) "onboarding.complete"
      (.obj [("locale", .string "de")]) ⟨{}, {}⟩ := by
  intro h
  obtain ⟨hdata, -⟩ := h (invalidParams "start_with_omarchy must be a boolean") (by decide +kernel)
  exact absurd (congrArg (fun data => data.onboarding.locale) hdata) (by decide +kernel)

end ProtonVpnOmarchy.Agent.Store
