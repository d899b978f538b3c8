import ProtonVpnOmarchy.Agent.SecretStore.Texts

/-!
# What the operations of the secret store do

An operation leaves the keyring after one of its writes, all of them in a fixed order: a save
replaces the session, then the index, then sets the mark; a delete sets the mark, then removes the
session, then replaces the index. A load only saves a session that it imports.

* `meets_save`, `meets_delete`, `meets_loadDefault` — the items that an operation can leave.
* `Indexed` — an index that an operation has written.
-/

namespace ProtonVpnOmarchy.Agent.SecretStore

open Lib Lib.Fallible Splitd Store Backend

/-! ## What the items say -/

/-- The items with one of the agent's own replaced. -/
def setItem (items : Items) (username : String) (value : Option String) : Items :=
  Function.update items SERVICE (Function.update (items SERVICE) username value)

@[simp] theorem setItem_self (items : Items) (username : String) (value : Option String) :
    setItem items username value SERVICE username = value := by
  simp [setItem]

theorem setItem_of_ne {username username' : String} (h : username' ≠ username) (items : Items)
    (value : Option String) :
    setItem items username value SERVICE username' = items SERVICE username' := by
  simp [setItem, h]

theorem setItem_eq_self {items : Items} {username : String} {value : Option String}
    (h : items SERVICE username = value) : setItem items username value = items := by
  unfold setItem
  rw [← h, Function.update_eq_self, Function.update_eq_self]

/-- The accounts of the index. -/
def accountsOf (serde : Serde) (items : Items) : List String :=
  ((items SERVICE ACCOUNT_INDEX).bind (decodeAccountIndex serde)).getD []

/-- The mark is set. -/
def ImportComplete (items : Items) : Prop :=
  items SERVICE LEGACY_IMPORT_MARKER = some LEGACY_IMPORT_COMPLETE

/-- The items with the mark. -/
def marked (items : Items) : Items :=
  setItem items LEGACY_IMPORT_MARKER (some LEGACY_IMPORT_COMPLETE)

/-- The items with the text of an index, unless they have these accounts already. -/
def indexed (serde : Serde) (accounts : List String) (index : String) (items : Items) : Items :=
  if accounts ≠ accountsOf serde items then setItem items ACCOUNT_INDEX (some index) else items

theorem accountsOf_setItem (serde : Serde) {username : String} (h : username ≠ ACCOUNT_INDEX)
    (items : Items) (value : Option String) :
    accountsOf serde (setItem items username value) = accountsOf serde items := by
  rw [accountsOf, setItem_of_ne h.symm, accountsOf]

theorem accountsOf_marked (serde : Serde) (items : Items) :
    accountsOf serde (marked items) = accountsOf serde items :=
  accountsOf_setItem serde (by decide) items _

theorem accountsOf_indexed {serde : Serde} {accounts : List String} {index : String}
    (h : encodeAccountIndex serde accounts = .ok index) (items : Items) :
    accountsOf serde (indexed serde accounts index items) = accounts := by
  unfold indexed
  split_ifs with hne
  · rw [accountsOf, setItem_self, Option.bind_some, decodeAccountIndex_encode serde h]
    rfl
  · exact (not_ne_iff.mp hne).symm

theorem indexed_of_ne {serde : Serde} {username : String} (h : username ≠ ACCOUNT_INDEX)
    (accounts : List String) (index : String) (items : Items) :
    indexed serde accounts index items SERVICE username = items SERVICE username := by
  unfold indexed
  split_ifs
  · exact setItem_of_ne h items _
  · rfl

/-! ## Accesses -/

/-- What a read of an item answers. -/
def Answers (value : Option String) : Except KeyringError String → Prop
  | .ok text => value = some text
  | .error .noEntry => value = none
  | .error .refused => True

section operations

variable {serde : Serde} {refusals : Refusals} {keyring : Keyring}

theorem meets_perform {α : Type} {access : Access}
    {effect : Keyring → Except KeyringError α × Keyring}
    {post : Except BackendError (Except KeyringError α) → Keyring → Prop}
    (hrefused : post (.ok (.error .refused)) (keyring.note access false))
    (hanswered : post (.ok (effect keyring).1) ((effect keyring).2.note access true)) :
    Meets (perform refusals access effect) keyring post := by
  unfold Fallible.Meets perform
  rw [exec_ofFun]
  split_ifs
  · exact hrefused
  · exact hanswered

theorem meets_read (service username : String) :
    Meets (read refusals service username) keyring fun outcome keyring' =>
      keyring'.items = keyring.items ∧
        ∃ result, outcome = .ok result ∧ Answers (keyring.items service username) result := by
  refine meets_perform ⟨rfl, _, rfl, trivial⟩ ?_
  cases hitem : keyring.items service username with
  | none => exact ⟨rfl, _, rfl, rfl⟩
  | some value => exact ⟨rfl, _, rfl, rfl⟩

theorem meets_writePrivate (username value : String) :
    Meets (writePrivate refusals username value) keyring fun outcome keyring' =>
      (outcome = .ok (.ok ()) ∧ keyring'.items = setItem keyring.items username (some value)) ∨
        ∃ error, outcome = .ok (.error error) ∧ keyring'.items = keyring.items := by
  exact meets_perform (.inr ⟨_, rfl, rfl⟩) (.inl ⟨rfl, rfl⟩)

theorem meets_deletePrivate (username : String) :
    Meets (deletePrivate refusals username) keyring fun outcome keyring' =>
      ((outcome = .ok (.ok ()) ∨ outcome = .ok (.error .noEntry)) ∧
          keyring'.items = setItem keyring.items username none) ∨
        (outcome = .ok (.error .refused) ∧ keyring'.items = keyring.items ∧
          keyring'.log = keyring.log ++ [(.deletePrivate username, false)]) := by
  refine meets_perform (.inr ⟨rfl, rfl, rfl⟩) (.inl ?_)
  cases hitem : keyring.items SERVICE username with
  | none => exact ⟨.inr rfl, (setItem_eq_self hitem).symm⟩
  | some value => exact ⟨.inl rfl, rfl⟩

/-! ## Parts -/

theorem meets_loadPrivateAccounts :
    Meets (loadPrivateAccounts serde refusals) keyring fun outcome keyring' =>
      keyring'.items = keyring.items ∧
        ∀ accounts, outcome = .ok accounts → accounts = accountsOf serde keyring.items := by
  refine (meets_read SERVICE ACCOUNT_INDEX).bind ?_ (fun e _ h => ?_)
  · rintro result keyring' ⟨hitems, _, ⟨rfl⟩, hanswer⟩
    rcases result with (_ | _) | raw
    · refine .pure ⟨hitems, ?_⟩
      rintro accounts ⟨rfl⟩
      have hnone : keyring.items SERVICE ACCOUNT_INDEX = none := hanswer
      simp [accountsOf, hnone]
    · exact .throw ⟨hitems, fun _ h => nomatch h⟩
    · refine .pure ⟨hitems, ?_⟩
      rintro accounts ⟨rfl⟩
      have hsome : keyring.items SERVICE ACCOUNT_INDEX = some raw := hanswer
      simp [accountsOf, hsome]
  · obtain ⟨-, _, h, -⟩ := h
    cases h

theorem meets_legacyImportComplete :
    Meets (legacyImportComplete refusals) keyring fun outcome keyring' =>
      keyring'.items = keyring.items ∧
        ∀ complete, outcome = .ok complete → (complete = true ↔ ImportComplete keyring.items) := by
  refine (meets_read SERVICE LEGACY_IMPORT_MARKER).bind ?_ (fun e _ h => ?_)
  · rintro result keyring' ⟨hitems, _, ⟨rfl⟩, hanswer⟩
    rcases result with (_ | _) | value
    · refine .pure ⟨hitems, ?_⟩
      rintro complete ⟨rfl⟩
      have hnone : keyring.items SERVICE LEGACY_IMPORT_MARKER = none := hanswer
      simp [ImportComplete, hnone]
    · exact .throw ⟨hitems, fun _ h => nomatch h⟩
    · refine .pure ⟨hitems, ?_⟩
      rintro complete ⟨rfl⟩
      have hsome : keyring.items SERVICE LEGACY_IMPORT_MARKER = some value := hanswer
      simp [ImportComplete, hsome]
  · obtain ⟨-, _, h, -⟩ := h
    cases h

/-- A write is done, or nothing happens. -/
def Writes (items items' : Items) (outcome : Except BackendError Unit) (keyring' : Keyring) : Prop :=
  (outcome = .ok () ∧ keyring'.items = items') ∨
    ∃ error, outcome = .error error ∧ keyring'.items = items

theorem meets_orFail (action username value : String) :
    Meets (orFail action (writePrivate refusals username value)) keyring
      (Writes keyring.items (setItem keyring.items username (some value))) := by
  refine (meets_writePrivate _ _).bind ?_ ?_
  · rintro result keyring' (⟨⟨rfl⟩, hwritten⟩ | ⟨error, ⟨rfl⟩, hsame⟩)
    · exact .pure (.inl ⟨rfl, hwritten⟩)
    · exact .throw (.inr ⟨_, rfl, hsame⟩)
  · rintro e keyring' (⟨h, -⟩ | ⟨error, h, -⟩)
    · cases h
    · cases h

theorem meets_markLegacyImportComplete :
    Meets (markLegacyImportComplete refusals) keyring
      (Writes keyring.items (marked keyring.items)) := by
  refine meets_legacyImportComplete.bind ?_ (fun e _ h => .inr ⟨e, rfl, h.1⟩)
  rintro complete keyring' ⟨hitems, hcomplete⟩
  cases complete with
  | true =>
      have hmark : ImportComplete keyring.items := (hcomplete true rfl).mp rfl
      exact .pure (.inl ⟨rfl, by rw [hitems, marked, setItem_eq_self hmark]⟩)
  | false =>
      rw [marked, ← hitems]
      exact meets_orFail _ _ _

/-- The index is replaced if the accounts are others. -/
theorem meets_storeChangedAccounts {previous : List String}
    (hprevious : previous = accountsOf serde keyring.items) (accounts : List String)
    (encoded : String) :
    Meets (storeChangedAccounts refusals accounts previous encoded) keyring
      (Writes keyring.items (indexed serde accounts encoded keyring.items)) := by
  unfold storeChangedAccounts indexed
  rw [hprevious]
  split_ifs with hne
  · exact meets_orFail _ _ _
  · exact .pure (.inl ⟨rfl, rfl⟩)

theorem meets_removeSession (accountName : String) :
    Meets (removeSession refusals accountName) keyring fun outcome keyring' =>
      (outcome = .ok () ∧
          keyring'.items = setItem keyring.items (privateAccountKey accountName) none) ∨
        ∃ error, outcome = .error error ∧ keyring'.items = keyring.items ∧
          keyring'.log = keyring.log ++ [(.deletePrivate (privateAccountKey accountName), false)] := by
  refine (meets_deletePrivate _).bind ?_ ?_
  · rintro result keyring' (⟨h | h, hremoved⟩ | ⟨h, hsame⟩)
    all_goals obtain rfl := Except.ok.inj h
    · exact .pure (.inl ⟨rfl, hremoved⟩)
    · exact .pure (.inl ⟨rfl, hremoved⟩)
    · exact .throw (.inr ⟨_, rfl, hsame⟩)
  · rintro e keyring' (⟨h | h, -⟩ | ⟨h, -⟩)
    · cases h
    · cases h
    · cases h

/-! ## Sequences -/

variable {α β : Type} {post : Except BackendError β → Keyring → Prop}

theorem meets_ofResult_bind {result : NativeResult α} {f : α → KeyringOp β}
    (herror : ∀ error, post (.error error) keyring)
    (hok : ∀ a, result = .ok a → Meets (f a) keyring post) :
    Meets (ofResult result >>= f) keyring post := by
  cases result with
  | error error => exact herror error
  | ok a => exact hok a rfl

theorem meets_loadPrivateAccounts_bind {f : List String → KeyringOp β}
    (herror : ∀ error keyring', keyring'.items = keyring.items → post (.error error) keyring')
    (hok : ∀ keyring', keyring'.items = keyring.items →
      Meets (f (accountsOf serde keyring.items)) keyring' post) :
    Meets (loadPrivateAccounts serde refusals >>= f) keyring post := by
  refine meets_loadPrivateAccounts.bind ?_ (fun error keyring' h => herror error keyring' h.1)
  rintro accounts keyring' ⟨hitems, haccounts⟩
  obtain rfl := haccounts accounts rfl
  exact hok keyring' hitems

theorem meets_writes_bind {m : KeyringOp Unit} {f : Unit → KeyringOp β} {items items' : Items}
    (hm : Meets m keyring (Writes items items'))
    (herror : ∀ error keyring', keyring'.items = items → post (.error error) keyring')
    (hok : ∀ keyring', keyring'.items = items' → Meets (f ()) keyring' post) :
    Meets (m >>= f) keyring post := by
  refine Meets.bind hm ?_ ?_
  · rintro _ keyring' (⟨-, hwritten⟩ | ⟨error, h, -⟩)
    · exact hok keyring' hwritten
    · cases h
  · rintro _ keyring' (⟨h, -⟩ | ⟨error, -, hsame⟩)
    · cases h
    · exact herror _ keyring' hsame

/-! ## Saves and deletes -/

/-- The accounts of an index after a save. -/
def accountsSaved (serde : Serde) (accountName : String) (items : Items) : List String :=
  normalizedAccounts (accountName :: accountsOf serde items)

/-- The accounts of an index after a delete. -/
def accountsLeft (serde : Serde) (accountName : String) (items : Items) : List String :=
  normalizedAccounts ((accountsOf serde items).filter (· ≠ accountName))

/-- The texts that a save writes. -/
structure SavesAs (serde : Serde) (session : SessionData) (items : Items) (raw index : String) :
    Prop where
  valid : validAccountName session.accountName
  authenticated : session.isAuthenticated
  raw : encodeSession serde session = .ok raw
  index : encodeAccountIndex serde (accountsSaved serde session.accountName items) = .ok index

/-- The items with a session. -/
def withSession (session : SessionData) (raw : String) (items : Items) : Items :=
  setItem items (privateAccountKey session.accountName) (some raw)

/-- The items with a session and the index. -/
def withIndex (serde : Serde) (session : SessionData) (raw index : String) (items : Items) : Items :=
  indexed serde (accountsSaved serde session.accountName items) index
    (withSession session raw items)

/-- What a save leaves. -/
inductive SaveLeaves (serde : Serde) (session : SessionData) (items : Items) :
    Except BackendError Unit → Items → Prop
  | nothing (error : BackendError) : SaveLeaves serde session items (.error error) items
  | session (error : BackendError) {raw index : String}
    (h : SavesAs serde session items raw index) :
    SaveLeaves serde session items (.error error) (withSession session raw items)
  | index (error : BackendError) {raw index : String}
    (h : SavesAs serde session items raw index) :
    SaveLeaves serde session items (.error error) (withIndex serde session raw index items)
  | all {raw index : String} (h : SavesAs serde session items raw index) :
    SaveLeaves serde session items (.ok ()) (marked (withIndex serde session raw index items))

theorem meets_save (session : SessionData) :
    Meets (save serde refusals session) keyring fun outcome keyring' =>
      SaveLeaves serde session keyring.items outcome keyring'.items := by
  unfold save
  refine meets_ofResult_bind (fun error => .nothing error) fun _ hvalid => ?_
  refine meets_ofResult_bind (fun error => .nothing error) fun _ hauthenticated => ?_
  refine meets_loadPrivateAccounts_bind ?_ ?_
  · rintro error keyring' hitems
    rw [hitems]
    exact .nothing error
  · intro keyring₁ hitems
    rw [← hitems]
    refine meets_ofResult_bind (fun error => .nothing error) fun raw hraw => ?_
    refine meets_ofResult_bind (fun error => .nothing error) fun index hindex => ?_
    have hsaves : SavesAs serde session keyring₁.items raw index :=
      ⟨by simpa using reject_eq_ok hvalid, by simpa using reject_eq_ok hauthenticated, hraw, hindex⟩
    refine meets_writes_bind (meets_orFail _ _ _) ?_ ?_
    · rintro error keyring' hsame
      rw [hsame]
      exact .nothing error
    · intro keyring₂ hsession
      have haccounts : accountsOf serde keyring₁.items = accountsOf serde keyring₂.items := by
        rw [hsession, accountsOf_setItem serde (privateAccountKey_ne_index _)]
      refine meets_writes_bind (meets_storeChangedAccounts haccounts _ _) ?_ ?_
      · rintro error keyring' hsame
        rw [hsame, hsession]
        exact .session error hsaves
      · intro keyring₃ hindexed
        rw [hsession] at hindexed
        refine meets_markLegacyImportComplete.mono ?_
        rintro outcome keyring' (⟨rfl, hmarked⟩ | ⟨error, rfl, hsame⟩)
        · rw [hmarked, hindexed]
          exact .all hsaves
        · rw [hsame, hindexed]
          exact .index error hsaves

/-- The text of the index that a delete writes. -/
structure RemovesAs (serde : Serde) (accountName : String) (items : Items) (index : String) : Prop
    where
  valid : validAccountName accountName
  index : encodeAccountIndex serde (accountsLeft serde accountName items) = .ok index

/-- The marked items without the session of an account. -/
def withoutSession (accountName : String) (items : Items) : Items :=
  setItem (marked items) (privateAccountKey accountName) none

/-- What a delete leaves. -/
inductive DeleteLeaves (serde : Serde) (accountName : String) (items : Items) :
    Except BackendError Unit → Items → Prop
  | nothing (error : BackendError) : DeleteLeaves serde accountName items (.error error) items
  | mark (error : BackendError) {index : String} (h : RemovesAs serde accountName items index) :
    DeleteLeaves serde accountName items (.error error) (marked items)
  | session (error : BackendError) {index : String} (h : RemovesAs serde accountName items index) :
    DeleteLeaves serde accountName items (.error error) (withoutSession accountName items)
  | all {index : String} (h : RemovesAs serde accountName items index) :
    DeleteLeaves serde accountName items (.ok ())
      (indexed serde (accountsLeft serde accountName items) index
        (withoutSession accountName items))

theorem meets_delete (accountName : String) :
    Meets (delete serde refusals accountName) keyring fun outcome keyring' =>
      DeleteLeaves serde accountName keyring.items outcome keyring'.items := by
  unfold delete
  refine meets_ofResult_bind (fun error => .nothing error) fun _ hvalid => ?_
  refine meets_loadPrivateAccounts_bind ?_ ?_
  · rintro error keyring' hitems
    rw [hitems]
    exact .nothing error
  · intro keyring₁ hitems
    rw [← hitems]
    refine meets_ofResult_bind (fun error => .nothing error) fun index hindex => ?_
    have hremoves : RemovesAs serde accountName keyring₁.items index :=
      ⟨by simpa using reject_eq_ok hvalid, hindex⟩
    refine meets_writes_bind meets_markLegacyImportComplete ?_ ?_
    · rintro error keyring' hsame
      rw [hsame]
      exact .nothing error
    · intro keyring₂ hmarked
      refine (meets_removeSession accountName).bind ?_ ?_
      · rintro _ keyring₃ (⟨-, hremoved⟩ | ⟨error, h, -⟩)
        · rw [hmarked] at hremoved
          have haccounts : accountsOf serde keyring₁.items = accountsOf serde keyring₃.items := by
            rw [hremoved, accountsOf_setItem serde (privateAccountKey_ne_index _),
              accountsOf_marked]
          refine (meets_storeChangedAccounts haccounts _ _).mono ?_
          rintro outcome keyring' (⟨rfl, hindexed⟩ | ⟨error, rfl, hsame⟩)
          · rw [hindexed, hremoved]
            exact .all hremoves
          · rw [hsame, hremoved]
            exact .session error hremoves
        · cases h
      · rintro e keyring' (⟨h, -⟩ | ⟨error, -, hsame, -⟩)
        · cases h
        · rw [hsame, hmarked]
          exact .mark e hremoves

/-! ## Loads -/

/-- A session that is stored for its account, and authenticated. -/
structure PrivateSession (serde : Serde) (session : SessionData) (items : Items) : Prop where
  stored : ∃ raw, items SERVICE (privateAccountKey session.accountName) = some raw ∧
    decodeSession serde raw = some session
  authenticated : session.isAuthenticated

/-- A session that the older application has stored for its account, and authenticated. -/
structure LegacySession (serde : Serde) (session : SessionData) (items : Items) : Prop where
  stored : ∃ raw, items LEGACY_SERVICE (legacyAccountKey session.accountName) = some raw ∧
    decodeLegacySession serde raw = some session
  authenticated : session.isAuthenticated

/-- The session that a load finds, if any; a load that finds one or none changes nothing. -/
def Finds (Session : SessionData → Items → Prop) (items : Items)
    (outcome : Except BackendError (Option SessionData)) (keyring' : Keyring) : Prop :=
  keyring'.items = items ∧ ∀ session, outcome = .ok (some session) → Session session items

theorem ownSession_eq_some {account : String} {session? : Option SessionData}
    {session : SessionData} (h : ownSession account session? = some session) :
    session? = some session ∧ session.accountName = account ∧ session.isAuthenticated := by
  obtain ⟨hsession, hown⟩ := Option.filter_eq_some_iff.mp h
  simp only [Bool.and_eq_true, decide_eq_true_eq] at hown
  exact ⟨hsession, hown⟩

theorem meets_firstPrivateSession (accounts : List String) :
    Meets (firstPrivateSession serde refusals accounts) keyring
      (Finds (PrivateSession serde) keyring.items) := by
  induction accounts generalizing keyring with
  | nil => exact .pure ⟨rfl, by simp⟩
  | cons account accounts ih =>
      refine (meets_read SERVICE (privateAccountKey account)).bind ?_ ?_
      · rintro result keyring' ⟨hitems, _, ⟨rfl⟩, hanswer⟩
        have hrest : Meets (firstPrivateSession serde refusals accounts) keyring'
            (Finds (PrivateSession serde) keyring.items) := by
          rw [← hitems]
          exact ih
        rcases result with (_ | _) | raw
        · exact hrest
        · exact .throw ⟨hitems, by simp⟩
        · dsimp only
          cases hown : ownSession account (decodeSession serde raw) with
          | none => exact hrest
          | some session =>
              obtain ⟨hdecode, rfl, hauthenticated⟩ := ownSession_eq_some hown
              refine .pure ⟨hitems, ?_⟩
              rintro _ ⟨rfl⟩
              exact ⟨⟨raw, hanswer, hdecode⟩, hauthenticated⟩
      · rintro e keyring' ⟨-, _, h, -⟩
        cases h

theorem meets_firstLegacySession (accounts : List String) :
    Meets (firstLegacySession serde refusals accounts) keyring
      (Finds (LegacySession serde) keyring.items) := by
  induction accounts generalizing keyring with
  | nil => exact .pure ⟨rfl, by simp⟩
  | cons account accounts ih =>
      refine (meets_read LEGACY_SERVICE (legacyAccountKey account)).bind ?_ ?_
      · rintro result keyring' ⟨hitems, _, ⟨rfl⟩, hanswer⟩
        have hrest : Meets (firstLegacySession serde refusals accounts) keyring'
            (Finds (LegacySession serde) keyring.items) := by
          rw [← hitems]
          exact ih
        rcases result with (_ | _) | raw
        · exact hrest
        · exact .throw ⟨hitems, by simp⟩
        · dsimp only
          cases hown : ownSession account (decodeLegacySession serde raw) with
          | none => exact hrest
          | some session =>
              obtain ⟨hdecode, rfl, hauthenticated⟩ := ownSession_eq_some hown
              refine .pure ⟨hitems, ?_⟩
              rintro _ ⟨rfl⟩
              exact ⟨⟨raw, hanswer, hdecode⟩, hauthenticated⟩
      · rintro e keyring' ⟨-, _, h, -⟩
        cases h

theorem meets_loadPrivateDefault :
    Meets (loadPrivateDefault serde refusals) keyring
      (Finds (PrivateSession serde) keyring.items) := by
  refine meets_loadPrivateAccounts_bind (fun error keyring' hitems => ⟨hitems, by simp⟩) ?_
  intro keyring' hitems
  rw [← hitems]
  exact meets_firstPrivateSession _

theorem meets_loadLegacyDefault :
    Meets (loadLegacyDefault serde refusals) keyring
      (Finds (LegacySession serde) keyring.items) := by
  refine (meets_read LEGACY_SERVICE LEGACY_ACCOUNT_INDEX).bind ?_ ?_
  · rintro result keyring' ⟨hitems, _, ⟨rfl⟩, -⟩
    rcases result with (_ | _) | raw
    · exact .pure ⟨hitems, by simp⟩
    · exact .throw ⟨hitems, by simp⟩
    · dsimp only
      split_ifs
      · exact .pure ⟨hitems, by simp⟩
      · rw [← hitems]
        exact meets_firstLegacySession _
  · rintro e keyring' ⟨-, _, h, -⟩
    cases h

/-- What a load of the default session returns and leaves. -/
structure Loads (serde : Serde) (items : Items)
    (outcome : Except BackendError (Option SessionData)) (keyring' : Keyring) : Prop where
  found : ∀ session, outcome = .ok (some session) → PrivateSession serde session items ∨
    (¬ ImportComplete items ∧ LegacySession serde session items)
  left : keyring'.items = items ∨ ¬ ImportComplete items ∧ ∃ session outcome',
    LegacySession serde session items ∧ SaveLeaves serde session items outcome' keyring'.items

theorem meets_loadDefault :
    Meets (loadDefault serde refusals) keyring (Loads serde keyring.items) := by
  refine meets_loadPrivateDefault.bind ?_ ?_
  · rintro (_ | session) keyring₁ ⟨hitems₁, hfound⟩
    · refine meets_legacyImportComplete.bind ?_ ?_
      · rintro complete keyring₂ ⟨hitems₂, hcomplete⟩
        rw [hitems₁] at hitems₂ hcomplete
        cases complete with
        | true => exact .pure ⟨by simp, .inl hitems₂⟩
        | false =>
            have hincomplete : ¬ ImportComplete keyring.items := by
              rw [← hcomplete false rfl]
              simp
            refine meets_loadLegacyDefault.bind ?_ ?_
            · rintro (_ | session) keyring₃ ⟨hitems₃, hlegacy⟩
              · exact .pure ⟨by simp, .inl (hitems₃.trans hitems₂)⟩
              · rw [hitems₂] at hitems₃ hlegacy
                have hsession := hlegacy session rfl
                refine (meets_save session).bind ?_ ?_
                · rintro _ keyring₄ hleaves
                  rw [hitems₃] at hleaves
                  refine .pure ⟨?_, .inr ⟨hincomplete, session, _, hsession, hleaves⟩⟩
                  rintro _ ⟨rfl⟩
                  exact .inr ⟨hincomplete, hsession⟩
                · rintro e keyring₄ hleaves
                  rw [hitems₃] at hleaves
                  exact ⟨by simp, .inr ⟨hincomplete, session, _, hsession, hleaves⟩⟩
            · rintro e keyring₃ ⟨hitems₃, -⟩
              exact ⟨by simp, .inl (hitems₃.trans hitems₂)⟩
      · rintro e keyring₂ ⟨hitems₂, -⟩
        exact ⟨by simp, .inl (hitems₂.trans hitems₁)⟩
    · refine .pure ⟨?_, .inl hitems₁⟩
      rintro _ ⟨rfl⟩
      exact .inl (hfound session rfl)
  · rintro e keyring₁ ⟨hitems₁, -⟩
    exact ⟨by simp, .inl hitems₁⟩

end operations

end ProtonVpnOmarchy.Agent.SecretStore
