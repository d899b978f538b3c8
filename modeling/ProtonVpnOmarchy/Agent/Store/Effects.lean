import ProtonVpnOmarchy.Agent.Store.Runs

/-!
# What the operations do to the accounts

A request leaves the accounts alone or replaces the record of one account, by one of the changes
that `Effect` lists. Requests, activations and opens write only such data to the file.

* `mutation_effect` — the accounts after a request.
* `AccountInvariant.reachable` — what every effect, every seeding and every repair keeps holds of
  all accounts in every run, in memory and in the file.
-/

namespace ProtonVpnOmarchy.Agent.Store

open Lib Lib.Fallible Splitd
open Std (ExtTreeMap)

/-! ## Requests -/

/-- The record of an account before and after a request is carried out on it. -/
inductive Effect (clock : ℕ → UInt64) : String → Value → AccountStore → AccountStore → Prop
  | saveProfile {params : Value} {object raw : Map} {value : Value} {account account' : AccountStore}
      (hobject : params.asObject = some object)
      (hraw : (object.get "profile").bind Value.asObject = some raw)
      (h : saveProfileIn clock raw account = .ok (value, account')) :
      Effect clock "profiles.save" params account account'
  | duplicateProfile {params : Value} {object : Map} {id : String} {value : Value}
      {account account' : AccountStore} (hobject : params.asObject = some object)
      (hid : requiredString object "id" 128 = .ok id)
      (h : duplicateProfileIn clock object id account = .ok (value, account')) :
      Effect clock "profiles.duplicate" params account account'
  | deleteProfile {params : Value} {account : AccountStore} (id : String) :
      Effect clock "profiles.delete" params account (validateDefault { account with
        profiles := account.profiles.filter fun profile => idOf profile ≠ some id
        recents := account.recents.filter fun recent => ¬ isRecentOf id recent })
  | setExcludedLocations {params : Value} {account : AccountStore}
      (locations : List ExcludedLocation) :
      Effect clock "excluded_locations.set" params account
        { account with excludedLocations := locations }
  | recordRecent {params : Value} {object raw recent : Map} {kind : String} {value : Value}
      {account account' : AccountStore} (hobject : params.asObject = some object)
      (hraw : (object.get "recent").bind Value.asObject = some raw)
      (hrecent : normalizeRecent raw = .ok recent)
      (hkind : requiredString recent "kind" 32 = .ok kind)
      (h : recordRecentIn clock recent kind account = .ok (value, account')) :
      Effect clock "recents.record" params account account'
  | pinRecent {params : Value} {object : Map} {id : String} {pinned : Bool} {value : Value}
      {account account' : AccountStore} (hobject : params.asObject = some object)
      (hid : requiredString object "id" 128 = .ok id)
      (hpinned : requiredBool object "pinned" = .ok pinned)
      (h : pinRecentIn clock id pinned account = .ok (value, account')) :
      Effect clock "recents.pin" params account account'
  | deleteRecent {params : Value} {account : AccountStore} (id : String) :
      Effect clock "recents.delete" params account (validateDefault { account with
        recents := account.recents.filter fun recent => idOf recent ≠ some id })
  | setDefaultConnection {params : Value} {selection : Map} {selected : Value}
      {account : AccountStore} (h : normalizeDefault selection account = .ok selected) :
      Effect clock "default_connection.set" params account
        { account with defaultConnection := selected }

@[simp] theorem exec_liftResult {α : Type} (result : StoreResult α) (data : StoreFile) :
    (liftResult result).exec data = (result, data) := rfl

/-- A check that succeeds is left out. -/
theorem exec_liftResult_bind_of_ok {α β : Type} {result : StoreResult α} {a : α}
    (h : result = .ok a) (f : α → Mutation β) (data : StoreFile) :
    (liftResult result >>= f).exec data = (f a).exec data := by
  rw [exec_bind, exec_liftResult, h]

/-- A check comes before the rest. -/
theorem exec_liftResult_bind {α β : Type} {result : StoreResult α} {f : α → Mutation β}
    {data data' : StoreFile} {outcome : StoreResult β}
    (h : (liftResult result >>= f).exec data = (outcome, data')) :
    (∃ error, result = .error error ∧ outcome = .error error ∧ data' = data) ∨
      ∃ a, result = .ok a ∧ (f a).exec data = (outcome, data') := by
  rw [exec_bind, exec_liftResult] at h
  rcases result with error | a
  · obtain ⟨rfl, rfl⟩ := Prod.mk.inj h
    exact .inl ⟨error, rfl, rfl, rfl⟩
  · exact .inr ⟨a, rfl, h⟩

theorem insert_insert_self (accounts : ExtTreeMap String AccountStore) (key : String)
    (account account' : AccountStore) :
    (accounts.insert key account).insert key account' = accounts.insert key account' := by
  apply ExtTreeMap.ext_getElem?
  intro other
  rw [ExtTreeMap.getElem?_insert, ExtTreeMap.getElem?_insert, ExtTreeMap.getElem?_insert]
  split_ifs
  · rfl
  · rfl

/-- A change of the record of the account is carried out, or leaves the record as it was, or as an
empty one. -/
theorem exec_onAccount (change : AccountStore → StoreResult (Value × AccountStore))
    (data : StoreFile) :
    (onAccount change).exec data =
      match change (entry data (accountKey data)) with
      | .ok (value, account) => (.ok value, { data with
          accounts := data.accounts.insert (accountKey data) account })
      | .error error => (.error error, { data with
          accounts := data.accounts.insert (accountKey data) (entry data (accountKey data)) }) := by
  unfold onAccount
  rw [exec_bind]
  simp only [accountMut, exec_ofFun]
  rw [exec_bind, exec_liftResult]
  rw [show (data.accounts[accountKey data]?).getD {} = entry data (accountKey data) from rfl]
  rcases change (entry data (accountKey data)) with error | ⟨value, account⟩
  · rfl
  · simp only [exec_bind, setAccount, exec_ofFun, exec_pure]
    congr 2
    exact insert_insert_self _ _ _ _

/-- What a request does to the accounts. -/
def Affects (clock : ℕ → UInt64) (method : String) (params : Value) (data data' : StoreFile) :
    Prop :=
  data'.accounts = data.accounts ∨ ∃ account,
    data'.accounts = data.accounts.insert (accountKey data) account ∧
      (account = entry data (accountKey data) ∨
        Effect clock method params (entry data (accountKey data)) account)

theorem affects_onAccount {clock : ℕ → UInt64} {method : String} {params : Value}
    {change : AccountStore → StoreResult (Value × AccountStore)} {data data' : StoreFile}
    {outcome : StoreResult Value}
    (hchange : ∀ value account', change (entry data (accountKey data)) = .ok (value, account') →
      Effect clock method params (entry data (accountKey data)) account')
    (h : (onAccount change).exec data = (outcome, data')) :
    Affects clock method params data data' := by
  rw [exec_onAccount] at h
  rcases hresult : change (entry data (accountKey data)) with error | ⟨value, account⟩
  · rw [hresult] at h
    obtain ⟨-, rfl⟩ := Prod.mk.inj h
    exact .inr ⟨_, rfl, .inl rfl⟩
  · rw [hresult] at h
    obtain ⟨-, rfl⟩ := Prod.mk.inj h
    exact .inr ⟨account, rfl, .inr (hchange value account hresult)⟩

theorem keeps_liftResult {α : Type} (I : StoreFile → Prop) (result : StoreResult α) :
    Keeps I (liftResult result) :=
  .ofFun fun _ h => h

section onboarding

variable {I : StoreFile → Prop}
  (hI : ∀ data onboarding, I data → I { data with onboarding := onboarding })

include hI

/-- What does not depend on the onboarding data. -/
theorem keeps_setOnboarding (change : Onboarding → Onboarding) : Keeps I (setOnboarding change) :=
  .ofFun fun data h => hI data _ h

theorem keeps_completeOnboarding (params : Value) : Keeps I (completeOnboarding params) := by
  unfold completeOnboarding
  refine .bind (keeps_liftResult _ _) fun object => ?_
  refine .bind (keeps_liftResult _ _) fun locale => ?_
  refine .bind (keeps_setOnboarding hI _) fun _ => ?_
  refine .bind (keeps_liftResult _ _) fun start => ?_
  refine .bind (keeps_setOnboarding hI _) fun _ => ?_
  refine .bind (keeps_liftResult _ _) fun auto => ?_
  exact .bind (keeps_setOnboarding hI _) fun _ => .pure _

theorem keeps_setPreference {α : Type} (object : Map) (key : String)
    (read : Value → StoreResult α) (write : Onboarding → α → Onboarding) :
    Keeps I (setPreference object key read write) := by
  unfold setPreference
  split
  · exact .pure ()
  · exact .bind (keeps_liftResult _ _) fun _ => keeps_setOnboarding hI _

theorem keeps_setPreferences (params : Value) : Keeps I (setPreferences params) := by
  unfold setPreferences
  refine .bind (keeps_liftResult _ _) fun object => ?_
  refine .bind (keeps_setPreference hI _ _ _ _) fun _ => ?_
  refine .bind (keeps_setPreference hI _ _ _ _) fun _ => ?_
  refine .bind (keeps_setPreference hI _ _ _ _) fun _ => ?_
  refine .bind (keeps_setPreference hI _ _ _ _) fun _ => ?_
  refine .bind (keeps_setPreference hI _ _ _ _) fun _ => ?_
  exact .bind (keeps_setOnboarding hI _) fun _ => .pure _

end onboarding

/-- What does not depend on the accounts. -/
theorem keeps_onAccount {I : StoreFile → Prop}
    (hI : ∀ data accounts, I data → I { data with accounts := accounts })
    (change : AccountStore → StoreResult (Value × AccountStore)) : Keeps I (onAccount change) := by
  intro data hdata
  rw [exec_onAccount]
  rcases change (entry data (accountKey data)) with error | ⟨value, account⟩
  · exact hI data _ hdata
  · exact hI data _ hdata

/-- A request that is not about the onboarding data changes the accounts only. -/
theorem keeps_accountMutation {I : StoreFile → Prop}
    (haccounts : ∀ data accounts, I data → I { data with accounts := accounts })
    {clock : ℕ → UInt64} {method : String} {params : Value} {change : Mutation Value}
    (hmutation : mutation clock method params = some change)
    (hcomplete : method ≠ "onboarding.complete") (hset : method ≠ "preferences.set") :
    Keeps I change := by
  unfold mutation at hmutation
  split at hmutation
  all_goals cases hmutation
  · exact absurd rfl hcomplete
  · exact absurd rfl hset
  · exact .bind (keeps_liftResult _ _) fun _ => .bind (keeps_liftResult _ _) fun _ =>
      keeps_onAccount haccounts _
  · exact .bind (keeps_liftResult _ _) fun _ => .bind (keeps_liftResult _ _) fun _ =>
      keeps_onAccount haccounts _
  · exact .bind (keeps_liftResult _ _) fun _ => .bind (keeps_liftResult _ _) fun _ =>
      keeps_onAccount haccounts _
  · exact .bind (keeps_liftResult _ _) fun _ => .bind (keeps_liftResult _ _) fun _ =>
      .bind (keeps_liftResult _ _) fun _ => .bind (keeps_liftResult _ _) fun _ =>
        keeps_onAccount haccounts _
  · exact .bind (keeps_liftResult _ _) fun _ => .bind (keeps_liftResult _ _) fun _ =>
      .bind (keeps_liftResult _ _) fun _ => .bind (keeps_liftResult _ _) fun _ =>
        keeps_onAccount haccounts _
  · exact .bind (keeps_liftResult _ _) fun _ => .bind (keeps_liftResult _ _) fun _ =>
      .bind (keeps_liftResult _ _) fun _ => keeps_onAccount haccounts _
  · exact .bind (keeps_liftResult _ _) fun _ => .bind (keeps_liftResult _ _) fun _ =>
      keeps_onAccount haccounts _
  · exact .bind (keeps_liftResult _ _) fun _ => .bind (keeps_liftResult _ _) fun _ =>
      keeps_onAccount haccounts _

/-- **A request changes the accounts and the onboarding data only.** -/
theorem keeps_mutation {I : StoreFile → Prop}
    (honboarding : ∀ data onboarding, I data → I { data with onboarding := onboarding })
    (haccounts : ∀ data accounts, I data → I { data with accounts := accounts })
    {clock : ℕ → UInt64} {method : String} {params : Value} {change : Mutation Value}
    (hmutation : mutation clock method params = some change) : Keeps I change := by
  by_cases hcomplete : method = "onboarding.complete"
  · subst hcomplete
    obtain rfl := Option.some.inj hmutation
    exact keeps_completeOnboarding honboarding params
  by_cases hset : method = "preferences.set"
  · subst hset
    obtain rfl := Option.some.inj hmutation
    exact keeps_setPreferences honboarding params
  · exact keeps_accountMutation haccounts hmutation hcomplete hset

theorem affects_of_keeps {clock : ℕ → UInt64} {method : String} {params : Value}
    {change : Mutation Value} {data data' : StoreFile} {outcome : StoreResult Value}
    (hkeeps : Keeps (fun data' => data'.accounts = data.accounts) change)
    (h : change.exec data = (outcome, data')) : Affects clock method params data data' := by
  have hsame := hkeeps data rfl
  rw [h] at hsame
  exact .inl hsame

section requests

variable {clock : ℕ → UInt64} {params : Value} {data data' : StoreFile}
  {outcome : StoreResult Value}

theorem affects_saveProfile (h : (saveProfile clock params).exec data = (outcome, data')) :
    Affects clock "profiles.save" params data data' := by
  rcases exec_liftResult_bind h with ⟨_, -, -, rfl⟩ | ⟨object, hobject, h⟩
  · exact .inl rfl
  rcases exec_liftResult_bind h with ⟨_, -, -, rfl⟩ | ⟨raw, hraw, h⟩
  · exact .inl rfl
  exact affects_onAccount (fun value account' hsaved =>
    .saveProfile (okOrElse_eq_ok hobject) (okOrElse_eq_ok hraw) hsaved) h

theorem affects_duplicateProfile
    (h : (duplicateProfile clock params).exec data = (outcome, data')) :
    Affects clock "profiles.duplicate" params data data' := by
  rcases exec_liftResult_bind h with ⟨_, -, -, rfl⟩ | ⟨object, hobject, h⟩
  · exact .inl rfl
  rcases exec_liftResult_bind h with ⟨_, -, -, rfl⟩ | ⟨id, hid, h⟩
  · exact .inl rfl
  exact affects_onAccount (fun value account' hsaved =>
    .duplicateProfile (okOrElse_eq_ok hobject) hid hsaved) h

theorem affects_deleteProfile (h : (deleteProfile params).exec data = (outcome, data')) :
    Affects clock "profiles.delete" params data data' := by
  rcases exec_liftResult_bind h with ⟨_, -, -, rfl⟩ | ⟨object, -, h⟩
  · exact .inl rfl
  rcases exec_liftResult_bind h with ⟨_, -, -, rfl⟩ | ⟨id, -, h⟩
  · exact .inl rfl
  refine affects_onAccount (fun value account' hdeleted => ?_) h
  obtain ⟨-, rfl⟩ := Prod.mk.inj (Except.ok.inj hdeleted)
  exact .deleteProfile id

theorem affects_setExcludedLocations
    (h : (setExcludedLocations params).exec data = (outcome, data')) :
    Affects clock "excluded_locations.set" params data data' := by
  rcases exec_liftResult_bind h with ⟨_, -, -, rfl⟩ | ⟨object, -, h⟩
  · exact .inl rfl
  rcases exec_liftResult_bind h with ⟨_, -, -, rfl⟩ | ⟨raw, -, h⟩
  · exact .inl rfl
  rcases exec_liftResult_bind h with ⟨_, -, -, rfl⟩ | ⟨_, -, h⟩
  · exact .inl rfl
  rcases exec_liftResult_bind h with ⟨_, -, -, rfl⟩ | ⟨locations, -, h⟩
  · exact .inl rfl
  refine affects_onAccount (fun value account' hset => ?_) h
  obtain ⟨-, rfl⟩ := Prod.mk.inj (Except.ok.inj hset)
  exact .setExcludedLocations _

theorem affects_recordRecent (h : (recordRecent clock params).exec data = (outcome, data')) :
    Affects clock "recents.record" params data data' := by
  rcases exec_liftResult_bind h with ⟨_, -, -, rfl⟩ | ⟨object, hobject, h⟩
  · exact .inl rfl
  rcases exec_liftResult_bind h with ⟨_, -, -, rfl⟩ | ⟨raw, hraw, h⟩
  · exact .inl rfl
  rcases exec_liftResult_bind h with ⟨_, -, -, rfl⟩ | ⟨recent, hrecent, h⟩
  · exact .inl rfl
  rcases exec_liftResult_bind h with ⟨_, -, -, rfl⟩ | ⟨kind, hkind, h⟩
  · exact .inl rfl
  exact affects_onAccount (fun value account' hrecorded =>
    .recordRecent (okOrElse_eq_ok hobject) (okOrElse_eq_ok hraw) hrecent hkind hrecorded) h

theorem affects_pinRecent (h : (pinRecent clock params).exec data = (outcome, data')) :
    Affects clock "recents.pin" params data data' := by
  rcases exec_liftResult_bind h with ⟨_, -, -, rfl⟩ | ⟨object, hobject, h⟩
  · exact .inl rfl
  rcases exec_liftResult_bind h with ⟨_, -, -, rfl⟩ | ⟨id, hid, h⟩
  · exact .inl rfl
  rcases exec_liftResult_bind h with ⟨_, -, -, rfl⟩ | ⟨pinned, hpinned, h⟩
  · exact .inl rfl
  exact affects_onAccount (fun value account' hmarked =>
    .pinRecent (okOrElse_eq_ok hobject) hid hpinned hmarked) h

theorem affects_deleteRecent (h : (deleteRecent params).exec data = (outcome, data')) :
    Affects clock "recents.delete" params data data' := by
  rcases exec_liftResult_bind h with ⟨_, -, -, rfl⟩ | ⟨object, -, h⟩
  · exact .inl rfl
  rcases exec_liftResult_bind h with ⟨_, -, -, rfl⟩ | ⟨id, -, h⟩
  · exact .inl rfl
  refine affects_onAccount (fun value account' hdeleted => ?_) h
  obtain ⟨-, rfl⟩ := Prod.mk.inj (Except.ok.inj hdeleted)
  exact .deleteRecent id

theorem affects_setDefaultConnection
    (h : (setDefaultConnection params).exec data = (outcome, data')) :
    Affects clock "default_connection.set" params data data' := by
  rcases exec_liftResult_bind h with ⟨_, -, -, rfl⟩ | ⟨object, -, h⟩
  · exact .inl rfl
  rcases exec_liftResult_bind h with ⟨_, -, -, rfl⟩ | ⟨selection, -, h⟩
  · exact .inl rfl
  refine affects_onAccount (fun value account' hset => ?_) h
  obtain ⟨selected, hselected, hset⟩ := Except.bind_eq_ok.mp hset
  obtain ⟨-, rfl⟩ := Prod.mk.inj (Except.ok.inj hset)
  exact .setDefaultConnection hselected

/-- **A request leaves the accounts alone, or makes an empty record, or has its effect on one
record.** -/
theorem mutation_effect {method : String} {change : Mutation Value}
    (hmutation : mutation clock method params = some change)
    (h : change.exec data = (outcome, data')) : Affects clock method params data data' := by
  unfold mutation at hmutation
  split at hmutation
  all_goals cases hmutation
  · exact affects_of_keeps (keeps_completeOnboarding (fun _ _ h => h) _) h
  · exact affects_of_keeps (keeps_setPreferences (fun _ _ h => h) _) h
  · exact affects_saveProfile h
  · exact affects_duplicateProfile h
  · exact affects_deleteProfile h
  · exact affects_setExcludedLocations h
  · exact affects_recordRecent h
  · exact affects_pinRecent h
  · exact affects_deleteRecent h
  · exact affects_setDefaultConnection h

/-- The accounts in memory after a request, whether or not it is accepted and saved. -/
theorem requestInner_affects (disk : Disk) (clock : ℕ → UInt64) (method : String) (params : Value)
    (state : StoreState) : Affects clock method params state.data
      (requestInner disk clock method params state).2.data := by
  unfold requestInner
  rcases query method params state.data with _ | result
  · rcases hmutation : mutation clock method params with _ | change
    · exact .inl rfl
    · dsimp only
      unfold mutate
      rcases hexec : change.exec state.data with ⟨error | value, data⟩
      · exact mutation_effect hmutation hexec
      · have haffects : Affects clock method params state.data data :=
          mutation_effect hmutation hexec
        dsimp only
        rcases persist disk state.data { data with revision := data.revision + 1 } state.files with
          ⟨_ | error, files⟩
        · exact haffects
        · exact .inl rfl
  · exact .inl rfl

/-- A request that succeeds has changed the data in memory, counts it, and has saved it. -/
theorem requestInner_eq_ok {disk : Disk} {method : String} {value : Value} {state : StoreState}
    {change : Mutation Value} (hquery : query method params state.data = none)
    (hmutation : mutation clock method params = some change)
    (h : (requestInner disk clock method params state).1 = .ok value) :
    ∃ data, change.exec state.data = (.ok value, data) ∧
      (requestInner disk clock method params state).2.data =
        { data with revision := data.revision + 1 } ∧
      persist disk state.data { data with revision := data.revision + 1 } state.files =
        (none, (requestInner disk clock method params state).2.files) := by
  unfold requestInner at h ⊢
  rw [hquery, hmutation] at h ⊢
  dsimp only at h ⊢
  unfold mutate at h ⊢
  rcases hexec : change.exec state.data with ⟨error | value', data⟩
  · rw [hexec] at h
    cases h
  · rw [hexec] at h
    dsimp only at h ⊢
    rcases hsaved : persist disk state.data { data with revision := data.revision + 1 } state.files
      with ⟨_ | error, files⟩
    · rw [hsaved] at h
      obtain rfl := Except.ok.inj h
      exact ⟨data, rfl, rfl, hsaved⟩
    · rw [hsaved] at h
      cases h

end requests

/-- The account that requests change is the one that they read afterwards. -/
theorem accountRef_insert (data : StoreFile) (account : AccountStore) :
    accountRef { data with accounts := data.accounts.insert (accountKey data) account } =
      account := by
  unfold accountRef accountKey
  rcases hactive : data.activeAccountKey with _ | key
  · simp
  · simp

/-! ## Files -/

/-- The data of the file, if there is one. -/
def Files.Holds (Q : StoreFile → Prop) (files : Files) : Prop := ∀ data ∈ files.store, Q data

section files

variable {R : Option StoreFile → Prop} {disk : Disk} {n : ℕ} {files files' : Files}

theorem write_store (hfiles : R files.store) (h : write disk n files = .ok files') :
    R files'.store := by
  unfold write at h
  split at h
  · cases h
  · obtain rfl := Except.ok.inj h
    exact hfiles

/-- Data that is saved is not too large. -/
theorem saveStore_store {data : StoreFile}
    (hdata : disk.size data ≤ MAX_STORE_BYTES → R (some data))
    (h : saveStore disk n data files = .ok files') : R files'.store := by
  unfold saveStore at h
  split_ifs at h with hsize
  have hsaved : R ({ files with store := some data } : Files).store :=
    hdata (Nat.le_of_not_lt hsize)
  exact write_store hsaved h

theorem saveLifecycle_store {onboarding : Onboarding} (hfiles : R files.store)
    (h : saveLifecycle disk n onboarding files = .ok files') : R files'.store := by
  unfold saveLifecycle at h
  have hsame : R ({ files with lifecycle := some onboarding } : Files).store := hfiles
  exact write_store hsame h

theorem syncAutostartRegistration_store {enabled : Bool} (hfiles : R files.store)
    (h : syncAutostartRegistration disk n enabled files = .ok files') : R files'.store := by
  unfold syncAutostartRegistration at h
  have hsame : R ({ files with autostart := some enabled } : Files).store := hfiles
  exact write_store hsame h

theorem attempt_store {save : Files → Except String Files} (hfiles : R files.store)
    (hsave : ∀ files', save files = .ok files' → R files'.store) :
    R (attempt save files).store := by
  unfold attempt
  split
  · exact hsave _ (by assumption)
  · exact hfiles

theorem restoreFiles_store {previous : StoreFile}
    (hprevious : disk.size previous ≤ MAX_STORE_BYTES → R (some previous))
    (hfiles : R files.store) : R (restoreFiles disk previous files).store := by
  have hstore : R (attempt (saveStore disk 2 previous) files).store :=
    attempt_store hfiles fun _ h => saveStore_store hprevious h
  exact attempt_store hstore fun _ h => saveLifecycle_store hstore h

/-- The file holds the data from before, the new data, or what it held. -/
theorem persist_store {previous data : StoreFile}
    (hprevious : disk.size previous ≤ MAX_STORE_BYTES → R (some previous))
    (hdata : disk.size data ≤ MAX_STORE_BYTES → R (some data)) (hfiles : R files.store) :
    R (persist disk previous data files).2.store := by
  unfold persist
  split
  · exact hfiles
  · rename_i files₁ h₁
    have hfiles₁ : R files₁.store := saveStore_store hdata h₁
    split
    · exact restoreFiles_store hprevious hfiles₁
    · rename_i files₂ h₂
      have hfiles₂ : R files₂.store := by
        split_ifs at h₂
        · exact saveLifecycle_store hfiles₁ h₂
        · exact Except.ok.inj h₂ ▸ hfiles₁
      split
      · exact attempt_store (restoreFiles_store hprevious hfiles₂) fun _ h =>
          syncAutostartRegistration_store (restoreFiles_store hprevious hfiles₂) h
      · rename_i files₃ h₃
        split_ifs at h₃
        · exact syncAutostartRegistration_store hfiles₂ h₃
        · exact Except.ok.inj h₃ ▸ hfiles₂

theorem persistOpened_store {data : StoreFile} {changed : Bool}
    (hdata : disk.size data ≤ MAX_STORE_BYTES → R (some data)) (hfiles : R files.store) :
    R (persistOpened disk data changed files).2.store := by
  unfold persistOpened
  split
  · exact hfiles
  · rename_i files₁ h₁
    have hfiles₁ : R files₁.store := by
      split_ifs at h₁
      · exact saveStore_store hdata h₁
      · exact Except.ok.inj h₁ ▸ hfiles
    split
    · exact hfiles₁
    · rename_i files₂ h₂
      have hfiles₂ : R files₂.store := saveLifecycle_store hfiles₁ h₂
      split
      · exact hfiles₂
      · exact syncAutostartRegistration_store hfiles₂ (by assumption)

/-- If all writes succeed, the file holds the new data. -/
theorem persist_eq_none {previous data : StoreFile}
    (h : persist disk previous data files = (none, files')) : files'.store = some data := by
  unfold persist at h
  split at h
  · cases h
  · rename_i files₁ h₁
    have hfiles₁ : files₁.store = some data :=
      saveStore_store (R := fun store => store = some data) (fun _ => rfl) h₁
    split at h
    · cases h
    · rename_i files₂ h₂
      have hfiles₂ : files₂.store = some data := by
        split_ifs at h₂
        · exact saveLifecycle_store (R := fun store => store = some data) hfiles₁ h₂
        · exact Except.ok.inj h₂ ▸ hfiles₁
      split at h
      · cases h
      · rename_i files₃ h₃
        obtain ⟨-, rfl⟩ := Prod.mk.inj h
        split_ifs at h₃
        · exact syncAutostartRegistration_store (R := fun store => store = some data) hfiles₂ h₃
        · exact Except.ok.inj h₃ ▸ hfiles₂

/-- The file after `mutate` holds the data from before, the changed data, or what it held. -/
theorem mutate_store {change : Mutation Value} {state : StoreState}
    (hprevious : disk.size state.data ≤ MAX_STORE_BYTES → R (some state.data))
    (hchange : ∀ value data, change.exec state.data = (.ok value, data) →
      disk.size { data with revision := data.revision + 1 } ≤ MAX_STORE_BYTES →
      R (some { data with revision := data.revision + 1 }))
    (hfiles : R state.files.store) : R (mutate disk change state).2.files.store := by
  unfold mutate
  rcases hexec : change.exec state.data with ⟨error | value, data⟩
  · exact hfiles
  · have hpersist : R (persist disk state.data { data with revision := data.revision + 1 }
        state.files).2.store := persist_store hprevious (hchange value data hexec) hfiles
    dsimp only
    rcases hsaved : persist disk state.data { data with revision := data.revision + 1 }
      state.files with ⟨_ | error, files'⟩
    · rw [hsaved] at hpersist
      exact hpersist
    · rw [hsaved] at hpersist
      exact hpersist

/-- The data in memory after `mutate` is that from before, or the changed data. -/
theorem mutate_data {Q : StoreFile → Prop} {change : Mutation Value} {state : StoreState}
    (hrevision : ∀ data revision, Q data → Q { data with revision := revision })
    (hdata : Q state.data) (hchange : Q (change.exec state.data).2) :
    Q (mutate disk change state).2.data := by
  unfold mutate
  rcases hexec : change.exec state.data with ⟨error | value, data⟩
  · rw [hexec] at hchange
    exact hchange
  · rw [hexec] at hchange
    dsimp only
    rcases hsaved : persist disk state.data { data with revision := data.revision + 1 }
      state.files with ⟨_ | error, files'⟩
    · exact hrevision data (data.revision + 1) hchange
    · exact hdata

/-- What depends on neither the accounts, nor the onboarding data, nor the count of changes holds
after every request. -/
theorem requestInner_keeps {I : StoreFile → Prop}
    (honboarding : ∀ data onboarding, I data → I { data with onboarding := onboarding })
    (haccounts : ∀ data accounts, I data → I { data with accounts := accounts })
    (hrevision : ∀ data revision, I data → I { data with revision := revision })
    {clock : ℕ → UInt64} {method : String} {params : Value} {state : StoreState}
    (hdata : I state.data) : I (requestInner disk clock method params state).2.data := by
  unfold requestInner
  rcases query method params state.data with _ | result
  · rcases hmutation : mutation clock method params with _ | change
    · exact hdata
    · exact mutate_data hrevision hdata (keeps_mutation honboarding haccounts hmutation _ hdata)
  · exact hdata

end files

/-! ## Steps -/

/-- The data that an event computes and tries to save. -/
inductive Computes : World → Event → StoreFile → Prop
  | request {data data' : StoreFile} {files : Files} {disk : Disk} {clock : ℕ → UInt64}
      {method : String} {params value : Value} {change : Mutation Value}
      (hmutation : mutation clock method params = some change)
      (hexec : change.exec data = (.ok value, data')) :
      Computes ⟨some data, files⟩ (.request disk clock method params)
        { data' with revision := data'.revision + 1 }
  | activate {data data' : StoreFile} {files : Files} {disk : Disk} {clock : ℕ → UInt64}
      {lowercase : String → String} {accountName : Option String} {name : String}
      (hname : (accountName.map trim).filter (· ≠ "") = some name)
      (hexec : (activation clock (accountFingerprint lowercase name)).exec data = (.ok (), data')) :
      Computes ⟨some data, files⟩ (.activate disk clock lowercase accountName) data'
  | restart {memory : Option StoreFile} {data data' : StoreFile} {files : Files} {disk : Disk}
      {clock : String → ℕ → UInt64} {legacy : Option Value} {changed : Bool}
      (hinitial : initialData disk legacy files = .ok data)
      (hexec : (opening clock).exec data = (.ok changed, data')) :
      Computes ⟨memory, files⟩ (.restart disk clock legacy) data'

/-- The data that an event leaves in memory when it is rejected on the way. -/
inductive Leaves : World → Event → StoreFile → Prop
  | request {data data' : StoreFile} {files : Files} {disk : Disk} {clock : ℕ → UInt64}
      {method : String} {params : Value} {change : Mutation Value} {error : BackendError}
      (hmutation : mutation clock method params = some change)
      (hexec : change.exec data = (.error error, data')) :
      Leaves ⟨some data, files⟩ (.request disk clock method params) data'
  | activate {data data' : StoreFile} {files : Files} {disk : Disk} {clock : ℕ → UInt64}
      {lowercase : String → String} {accountName : Option String} {name : String}
      {error : BackendError} (hname : (accountName.map trim).filter (· ≠ "") = some name)
      (hexec : (activation clock (accountFingerprint lowercase name)).exec data =
        (.error error, data')) :
      Leaves ⟨some data, files⟩ (.activate disk clock lowercase accountName) data'

/-- The disk of an event. -/
def Event.disk : Event → Disk
  | .request disk _ _ _ => disk
  | .activate disk _ _ _ => disk
  | .restart disk _ _ => disk

/-- The store file stays, or is the data from before or the computed data. -/
def StoreAfter (world : World) (event : Event) (store : Option StoreFile) : Prop :=
  store = world.files.store ∨
    ∃ data, store = some data ∧ event.disk.size data ≤ MAX_STORE_BYTES ∧
      (data ∈ world.memory ∨ Computes world event data)

/-- **What an event leaves in memory and in the store file.** -/
theorem World.step_spec (world : World) (event : Event) :
    (∀ data ∈ (world.step event).memory,
      data ∈ world.memory ∨ Computes world event data ∨ Leaves world event data) ∧
      StoreAfter world event (world.step event).files.store := by
  obtain ⟨memory, files⟩ := world
  cases event with
  | request disk clock method params =>
      rcases memory with _ | data
      · exact ⟨nofun, .inl rfl⟩
      show (∀ data' ∈ some (requestInner disk clock method params ⟨data, files⟩).2.data, _) ∧
        StoreAfter _ _ (requestInner disk clock method params ⟨data, files⟩).2.files.store
      unfold requestInner
      rcases query method params data with _ | result
      · rcases hmutation : mutation clock method params with _ | change
        · exact ⟨fun _ hmem => .inl hmem, .inl rfl⟩
        · refine ⟨?_, mutate_store (fun hsize => .inr ⟨data, rfl, hsize, .inl rfl⟩) ?_ (.inl rfl)⟩
          · rintro _ ⟨⟩
            dsimp only
            unfold mutate
            rcases hexec : change.exec data with ⟨error | value, data'⟩
            · exact .inr (.inr (.request hmutation hexec))
            · dsimp only
              rcases persist disk data { data' with revision := data'.revision + 1 } files with
                ⟨_ | error, files'⟩
              · exact .inr (.inl (.request hmutation hexec))
              · exact .inl rfl
          · exact fun value data' hexec hsize =>
              .inr ⟨_, rfl, hsize, .inr (.request hmutation hexec)⟩
      · exact ⟨fun _ hmem => .inl hmem, .inl rfl⟩
  | activate disk clock lowercase accountName =>
      rcases memory with _ | data
      · exact ⟨nofun, .inl rfl⟩
      show (∀ data' ∈ some (activateAccount disk clock lowercase accountName ⟨data, files⟩).2.data,
        _) ∧ StoreAfter _ _ (activateAccount disk clock lowercase accountName
          ⟨data, files⟩).2.files.store
      unfold activateAccount
      split
      · exact ⟨fun _ hmem => .inl hmem, .inl rfl⟩
      · rename_i name hname
        dsimp only
        split_ifs
        · exact ⟨fun _ hmem => .inl hmem, .inl rfl⟩
        · rcases hexec : (activation clock (accountFingerprint lowercase name)).exec data with
            ⟨error | done, data'⟩
          · exact ⟨fun _ hmem => Option.some.inj hmem ▸ .inr (.inr (.activate hname hexec)),
              .inl rfl⟩
          · dsimp only
            rcases hsaved : saveStore disk 0 data' files with error | files'
            · exact ⟨fun _ hmem => .inl hmem, .inl rfl⟩
            · exact ⟨fun _ hmem => Option.some.inj hmem ▸ .inr (.inl (.activate hname hexec)),
                saveStore_store (fun hsize => .inr ⟨data', rfl, hsize, .inr (.activate hname hexec)⟩)
                  hsaved⟩
  | restart disk clock legacy =>
      unfold World.step
      dsimp only
      unfold openStore
      rcases hinitial : initialData disk legacy files with error | data
      · exact ⟨nofun, .inl rfl⟩
      · dsimp only
        rcases hexec : (opening clock).exec data with ⟨error | changed, data'⟩
        · exact ⟨nofun, .inl rfl⟩
        · have hstore : StoreAfter ⟨memory, files⟩ (.restart disk clock legacy)
              (persistOpened disk data' changed files).2.store :=
            persistOpened_store
              (fun hsize => .inr ⟨data', rfl, hsize, .inr (.restart hinitial hexec)⟩) (.inl rfl)
          dsimp only
          rcases hsaved : persistOpened disk data' changed files with ⟨_ | error, files'⟩
          · rw [hsaved] at hstore
            exact ⟨fun _ hmem => Option.some.inj hmem ▸ .inr (.inl (.restart hinitial hexec)),
              hstore⟩
          · rw [hsaved] at hstore
            exact ⟨nofun, hstore⟩

/-- The memory after a restart is what it has computed. -/
theorem World.step_restart_memory {world : World} {disk : Disk} {clock : String → ℕ → UInt64}
    {legacy : Option Value} {data : StoreFile}
    (h : data ∈ (world.step (.restart disk clock legacy)).memory) :
    Computes world (.restart disk clock legacy) data := by
  unfold World.step at h
  dsimp only at h
  unfold openStore at h
  rcases hinitial : initialData disk legacy world.files with error | initial
  · rw [hinitial] at h
    cases h
  rw [hinitial] at h
  dsimp only at h
  rcases hexec : (opening clock).exec initial with ⟨error | changed, data'⟩
  · rw [hexec] at h
    cases h
  rw [hexec] at h
  dsimp only at h
  rcases hsaved : persistOpened disk data' changed world.files with ⟨_ | error, files'⟩
  · rw [hsaved] at h
    obtain rfl := Option.some.inj h
    exact .restart hinitial hexec
  · rw [hsaved] at h
    cases h

/-! ## Runs -/

/-- All accounts. -/
def Everywhere (P : AccountStore → Prop) (data : StoreFile) : Prop :=
  ∀ (key : String) (account : AccountStore), data.accounts[key]? = some account → P account

/-- All accounts, in memory and in the file. -/
structure World.Holds (P : AccountStore → Prop) (world : World) : Prop where
  memory : ∀ data ∈ world.memory, Everywhere P data
  files : world.files.Holds (Everywhere P)

/-- What is to be shown of a property of accounts that holds in every run. -/
structure AccountInvariant (allowed : World → Event → Prop) (P : AccountStore → Prop) : Prop where
  empty : P {}
  effect : ∀ {disk clock method params data files account},
    allowed ⟨some data, files⟩ (.request disk clock method params) →
    P (entry data (accountKey data)) →
    Effect clock method params (entry data (accountKey data)) account → P account
  official : ∀ {clock locale profiles account},
    officialDefaultProfiles clock locale = .ok profiles → P account →
    P (profiles.foldl addOfficial account)
  fastest : ∀ {clock locale profile account},
    fastestDefaultProfile clock locale = .ok profile → P account → P (addFastest account profile)
  repair : ∀ {account}, P account → P (validateDefault account)
  legacy : ∀ {world disk clock legacy object},
    allowed world (.restart disk clock (some legacy)) → world.files.store = none →
    legacy.asObject = some object → P (legacyAccount object)

section runs

variable {allowed : World → Event → Prop} {P : AccountStore → Prop} {data : StoreFile}

/-- Two invariants under both of their conditions. -/
theorem AccountInvariant.and {allowed' : World → Event → Prop} {P' : AccountStore → Prop}
    (h : AccountInvariant allowed P) (h' : AccountInvariant allowed' P') :
    AccountInvariant (fun world event => allowed world event ∧ allowed' world event)
      fun account => P account ∧ P' account where
  empty := ⟨h.empty, h'.empty⟩
  effect := fun hallowed hP heffect =>
    ⟨h.effect hallowed.1 hP.1 heffect, h'.effect hallowed.2 hP.2 heffect⟩
  official := fun hprofiles hP => ⟨h.official hprofiles hP.1, h'.official hprofiles hP.2⟩
  fastest := fun hprofile hP => ⟨h.fastest hprofile hP.1, h'.fastest hprofile hP.2⟩
  repair := fun hP => ⟨h.repair hP.1, h'.repair hP.2⟩
  legacy := fun hallowed hstore hobject =>
    ⟨h.legacy hallowed.1 hstore hobject, h'.legacy hallowed.2 hstore hobject⟩

theorem Everywhere.insert (h : Everywhere P data) {key : String} {account : AccountStore}
    (haccount : P account) {data' : StoreFile}
    (haccounts : data'.accounts = data.accounts.insert key account) : Everywhere P data' := by
  intro other account' hget
  rw [haccounts, ExtTreeMap.getElem?_insert] at hget
  split_ifs at hget
  · obtain rfl := Option.some.inj hget
    exact haccount
  · exact h other account' hget

theorem Everywhere.of_accounts {data' : StoreFile} (h : Everywhere P data)
    (haccounts : data'.accounts = data.accounts) : Everywhere P data' := by
  intro key account hget
  rw [haccounts] at hget
  exact h key account hget

theorem Everywhere.entry (h : Everywhere P data) (hempty : P {}) (key : String) :
    P (entry data key) := by
  unfold Store.entry
  rcases hget : data.accounts[key]? with _ | account
  · exact hempty
  · exact h key account hget

/-- The account that requests read. -/
theorem Everywhere.accountRef (h : Everywhere P data) (hempty : P {}) : P (accountRef data) := by
  unfold Store.accountRef
  rcases hactive : data.activeAccountKey.bind fun key => data.accounts[key]? with _ | account
  · rw [Option.none_or]
    exact h.entry hempty LEGACY_SCOPE
  · obtain ⟨key, -, hget⟩ := Option.bind_eq_some_iff.mp hactive
    exact h key account hget

theorem keeps_getData : Keeps (Everywhere P) getData := .ofFun fun _ h => h

theorem keeps_seedAccount {key : String} {account : AccountStore} {complete : Bool}
    {mark : MigrationState → MigrationState} (haccount : P account) :
    Keeps (Everywhere P) (seedAccount key account complete mark) :=
  .ofFun fun _ h => h.insert haccount rfl

/-- A computation that starts with the data. -/
theorem keeps_getData_bind {α : Type} {f : StoreFile → Mutation α}
    (h : ∀ data, Everywhere P data → Everywhere P ((f data).exec data).2) :
    Keeps (Everywhere P) (getData >>= f) := by
  intro data hdata
  rw [exec_bind]
  exact h data hdata

theorem AccountInvariant.keeps_official (h : AccountInvariant allowed P) (clock : ℕ → UInt64)
    (key : String) : Keeps (Everywhere P) (seedAccountWithOfficialProfiles clock key) := by
  refine keeps_getData_bind fun data hdata => ?_
  by_cases hseeded : key ∈ data.migration.officialDefaultProfilesSeededForAccounts
  · rw [if_pos hseeded]
    exact hdata
  · rw [if_neg hseeded, exec_bind, exec_liftResult]
    rcases htemplates : officialDefaultProfiles clock data.onboarding.locale with error | templates
    · exact hdata
    · exact keeps_seedAccount (h.official htemplates (hdata.entry h.empty key)) data hdata

theorem AccountInvariant.keeps_fastest (h : AccountInvariant allowed P) (clock : ℕ → UInt64)
    (key : String) : Keeps (Everywhere P) (seedAccountWithFastestProfile clock key) := by
  refine keeps_getData_bind fun data hdata => ?_
  by_cases hseeded : key ∈ data.migration.fastestDefaultProfileSeededForAccounts
  · rw [if_pos hseeded]
    exact hdata
  · rw [if_neg hseeded, exec_bind, exec_liftResult]
    rcases hprofile : fastestDefaultProfile clock data.onboarding.locale with error | profile
    · exact hdata
    · exact keeps_seedAccount (h.fastest hprofile (hdata.entry h.empty key)) data hdata

theorem AccountInvariant.keeps_activation (h : AccountInvariant allowed P) (clock : ℕ → UInt64)
    (key : String) : Keeps (Everywhere P) (activation clock key) := by
  unfold activation
  refine .bind (.ofFun fun data hdata => ?_) fun _ => ?_
  · show Everywhere P (adoptLegacy key data)
    unfold adoptLegacy
    split_ifs
    · exact hdata
    · exact hdata.insert (hdata.entry h.empty LEGACY_SCOPE) rfl
    · exact hdata.insert (hdata.entry h.empty LEGACY_SCOPE) rfl
  refine .bind (h.keeps_official clock key).discard fun _ => ?_
  refine .bind (h.keeps_fastest clock key).discard fun _ => ?_
  exact .ofFun fun data hdata => hdata.of_accounts rfl

theorem keeps_seedKnownAccounts {seed : String → Mutation Bool}
    (hseed : ∀ key, Keeps (Everywhere P) (seed key)) :
    Keeps (Everywhere P) (seedKnownAccounts seed) :=
  .bind keeps_getData fun data =>
    .foldlM (fun _ key => .bind (hseed key) fun _ => .pure _) data.accounts.keys false

theorem AccountInvariant.keeps_opening (h : AccountInvariant allowed P)
    (clock : String → ℕ → UInt64) : Keeps (Everywhere P) (opening clock) := by
  unfold opening
  refine .bind (keeps_seedKnownAccounts fun key => h.keeps_official _ key) fun _ => ?_
  refine .bind (keeps_seedKnownAccounts fun key => h.keeps_fastest _ key) fun _ => ?_
  refine .bind (.ofFun fun data hdata => ?_) fun _ => .pure _
  intro key account hget
  simp only [ExtTreeMap.getElem?_map] at hget
  obtain ⟨previous, hprevious, rfl⟩ := Option.map_eq_some_iff.mp hget
  exact h.repair (hdata key previous hprevious)

theorem AccountInvariant.initialData (h : AccountInvariant allowed P) {world : World} {disk : Disk}
    {clock : String → ℕ → UInt64} {legacy : Option Value}
    (hallowed : allowed world (.restart disk clock legacy))
    (hfiles : world.files.Holds (Everywhere P))
    (hinitial : initialData disk legacy world.files = .ok data) : Everywhere P data := by
  unfold Store.initialData at hinitial
  rcases hstore : world.files.store with _ | stored
  · rw [hstore] at hinitial
    obtain rfl := Except.ok.inj hinitial
    have hfresh : Everywhere P {} := by
      intro key account hget
      simp at hget
    unfold importLegacy
    rcases legacy with _ | legacy
    · exact hfresh
    · rcases hobject : legacy.asObject with _ | object
      · simp only [Option.bind_some, hobject]
        exact hfresh
      · simp only [Option.bind_some, hobject]
        split_ifs
        · exact hfresh.insert (h.legacy hallowed hstore hobject) rfl
        · exact hfresh
  · rw [hstore] at hinitial
    simp only [loadStore] at hinitial
    split_ifs at hinitial
    obtain rfl := Except.ok.inj hinitial
    exact hfiles stored hstore

/-- What a request makes of the accounts. -/
theorem AccountInvariant.mutation (h : AccountInvariant allowed P) {data' : StoreFile}
    {files : Files} {disk : Disk} {clock : ℕ → UInt64} {method : String} {params : Value}
    {change : Mutation Value} {outcome : StoreResult Value}
    (hallowed : allowed ⟨some data, files⟩ (.request disk clock method params))
    (hdata : Everywhere P data) (hmutation : mutation clock method params = some change)
    (hexec : change.exec data = (outcome, data')) : Everywhere P data' := by
  rcases mutation_effect hmutation hexec with hsame | ⟨account, haccounts, haccount⟩
  · exact hdata.of_accounts hsame
  · refine hdata.insert ?_ haccounts
    have hentry : P (entry data (accountKey data)) := hdata.entry h.empty _
    rcases haccount with rfl | heffect
    · exact hentry
    · exact h.effect hallowed hentry heffect

theorem AccountInvariant.computes (h : AccountInvariant allowed P) {world : World} {event : Event}
    (hallowed : allowed world event) (hworld : world.Holds P)
    (hcomputes : Computes world event data) : Everywhere P data := by
  cases hcomputes with
  | request hmutation hexec =>
      exact (h.mutation hallowed (hworld.memory _ rfl) hmutation hexec).of_accounts rfl
  | activate _ hexec => exact (h.keeps_activation _ _).of_exec (hworld.memory _ rfl) hexec
  | restart hinitial hexec =>
      exact (h.keeps_opening _).of_exec (h.initialData hallowed hworld.files hinitial) hexec

theorem AccountInvariant.leaves (h : AccountInvariant allowed P) {world : World} {event : Event}
    (hallowed : allowed world event) (hworld : world.Holds P) (hleaves : Leaves world event data) :
    Everywhere P data := by
  cases hleaves with
  | request hmutation hexec => exact h.mutation hallowed (hworld.memory _ rfl) hmutation hexec
  | activate _ hexec => exact (h.keeps_activation _ _).of_exec (hworld.memory _ rfl) hexec

/-- One event. -/
theorem AccountInvariant.step (h : AccountInvariant allowed P) {world : World} {event : Event}
    (hallowed : allowed world event) (hworld : world.Holds P) : (world.step event).Holds P := by
  obtain ⟨hmemory, hstore⟩ := world.step_spec event
  refine ⟨?_, ?_⟩
  · intro data hdata
    rcases hmemory data hdata with hdata | hcomputes | hleaves
    · exact hworld.memory data hdata
    · exact h.computes hallowed hworld hcomputes
    · exact h.leaves hallowed hworld hleaves
  · intro data hdata
    rcases hstore with hstore | ⟨saved, hstore, -, hsaved⟩
    · rw [hstore] at hdata
      exact hworld.files data hdata
    · rw [hstore] at hdata
      obtain rfl := Option.some.inj hdata
      rcases hsaved with hsaved | hcomputes
      · exact hworld.memory saved hsaved
      · exact h.computes hallowed hworld hcomputes

/-- **What every effect, every seeding and every repair keeps holds of all accounts in every
run.** -/
theorem AccountInvariant.reachable (h : AccountInvariant allowed P) {start world : World}
    (hstart : start.Holds P) (hreachable : Reachable allowed start world) : world.Holds P := by
  induction hreachable with
  | start => exact hstart
  | step event _ hallowed ih => exact h.step hallowed ih

/-- Any events after each other. -/
theorem reachable_foldl (start : World) (events : List Event) :
    Reachable (fun _ _ => True) start (events.foldl World.step start) := by
  induction events using List.reverseRecOn with
  | nil => exact .start
  | append_singleton events event ih =>
      rw [List.foldl_append]
      exact .step event ih trivial

/-- A fresh store has no accounts. -/
theorem fresh_holds (P : AccountStore → Prop) : World.Holds P {} := ⟨nofun, nofun⟩

end runs

/-! ## Without faults -/

/-- A disk without faults. -/
def quietDisk : Disk := ⟨fun _ => none, fun _ => 0⟩

/-- A change that is accepted and leaves the onboarding data alone is saved by one write. -/
theorem step_request_quietDisk {data data' : StoreFile} (files : Files) {clock : ℕ → UInt64}
    {method : String} {params value : Value} {change : Mutation Value}
    (hquery : query method params data = none)
    (hmutation : mutation clock method params = some change)
    (hexec : change.exec data = (.ok value, data'))
    (honboarding : data'.onboarding = data.onboarding) :
    World.step ⟨some data, files⟩ (.request quietDisk clock method params) =
      ⟨some { data' with revision := data'.revision + 1 },
        { files with store := some { data' with revision := data'.revision + 1 } }⟩ := by
  simp [World.step, requestInner, hquery, hmutation, mutate, hexec, persist, saveStore, write,
    quietDisk, lifecycleChanged, honboarding]

/-- A request at a time, on a disk without faults. -/
def requestAt (time : UInt64) (method : String) (fields : Map) : Event :=
  .request quietDisk (fun _ => time) method (.object fields)

/-- The first open, without a legacy file. -/
def firstOpen : Event := .restart quietDisk (fun _ _ => 0) none

end ProtonVpnOmarchy.Agent.Store
