import ProtonVpnOmarchy.Agent.SecretStore.Durability

/-!
# Sessions that the index does not name

A save names its account first and keeps as many of the others as the index holds. The session of
an account that it drops from the index stays in the keyring.

* `tokensListed_iff` — the sessions in the keyring are those of the index as long as no save drops
  an account.
-/

namespace ProtonVpnOmarchy.Agent.SecretStore

open Lib Lib.Fallible Splitd Store Backend

/-! ## Saves and deletes that succeed -/

/-- A save or a delete that returns `Ok`. -/
def Handled.Succeeds (serde : Serde) (items : Items) (handled : Handled) : Prop :=
  match handled.call with
  | .save session => ((save serde handled.refusals session).exec { items }).1 = .ok ()
  | .delete accountName => ((delete serde handled.refusals accountName).exec { items }).1 = .ok ()
  | .loadDefault => False

/-- Saves and deletes that all return `Ok`. -/
def AllSucceed (serde : Serde) (calls : List Handled) (items : Items) : Prop :=
  ∀ before handled rest, calls = before ++ handled :: rest →
    handled.Succeeds serde (itemsAfter serde before items)

/-- What an operation that succeeds leaves. -/
inductive Leaves (serde : Serde) (items : Items) : Call → Items → Prop
  | save {session : SessionData} {items' : Items}
    (h : SaveLeaves serde session items (.ok ()) items') : Leaves serde items (.save session) items'
  | delete {accountName : String} {items' : Items}
    (h : DeleteLeaves serde accountName items (.ok ()) items') :
    Leaves serde items (.delete accountName) items'

variable {serde : Serde} {items : Items}

theorem Handled.Succeeds.leaves {handled : Handled} (h : handled.Succeeds serde items) :
    Leaves serde items handled.call (handled.next serde items) := by
  obtain ⟨call, refusals⟩ := handled
  cases call with
  | save session =>
      have hmeets : Meets (SecretStore.save serde refusals session) { items } _ :=
        meets_save session
      have hok : ((SecretStore.save serde refusals session).exec { items }).1 = .ok () := h
      have hleaves := hmeets.outcome
      rw [hok] at hleaves
      exact .save hleaves
  | delete accountName =>
      have hmeets : Meets (SecretStore.delete serde refusals accountName) { items } _ :=
        meets_delete accountName
      have hok : ((SecretStore.delete serde refusals accountName).exec { items }).1 = .ok () := h
      have hleaves := hmeets.outcome
      rw [hok] at hleaves
      exact .delete hleaves
  | loadDefault => exact h.elim

theorem itemsAfter_concat (calls : List Handled) (handled : Handled) :
    itemsAfter serde (calls ++ [handled]) items =
      handled.next serde (itemsAfter serde calls items) := List.foldl_append

/-! ## The accounts of an index -/

theorem normalizedAccounts_of_normalized {accounts : List String} (h : Normalized accounts) :
    normalizedAccounts accounts = accounts := by
  have hvalid : accounts.filter validAccountName = accounts := List.filter_eq_self.mpr h.valid
  rw [normalizedAccounts, hvalid, firstOccurrences_of_nodup h.nodup,
    List.take_of_length_le h.length_le]

/-- The index of a save, before it is cut. -/
theorem normalizedAccounts_cons_of_normalized {account : String} {accounts : List String}
    (hvalid : validAccountName account) (h : Normalized accounts) :
    normalizedAccounts (account :: accounts) =
      (account :: accounts.filter (· ≠ account)).take MAX_ACCOUNTS := by
  have hfilter : accounts.filter validAccountName = accounts := List.filter_eq_self.mpr h.valid
  rw [normalizedAccounts, List.filter_cons_of_pos hvalid, hfilter, firstOccurrences_cons,
    firstOccurrences_of_nodup h.nodup]

theorem length_filter_ne_lt {account : String} {accounts : List String}
    (h : Normalized accounts) (hroom : accounts.length = MAX_ACCOUNTS → account ∈ accounts) :
    (accounts.filter (· ≠ account)).length < MAX_ACCOUNTS := by
  have hle := h.length_le
  by_cases hmem : account ∈ accounts
  · have hlt : (accounts.filter (· ≠ account)).length < accounts.length :=
      List.length_filter_lt_length_iff_exists.mpr ⟨account, hmem, by simp⟩
    omega
  · have hlt := List.length_filter_le (· ≠ account) accounts
    have hne : accounts.length ≠ MAX_ACCOUNTS := fun heq => hmem (hroom heq)
    omega

/-- With room for an account a save keeps all the others. -/
theorem mem_normalizedAccounts_cons {account : String} {accounts : List String}
    (hvalid : validAccountName account) (h : Normalized accounts)
    (hroom : accounts.length = MAX_ACCOUNTS → account ∈ accounts) (name : String) :
    name ∈ normalizedAccounts (account :: accounts) ↔ name = account ∨ name ∈ accounts := by
  have hlt := length_filter_ne_lt h hroom
  rw [normalizedAccounts_cons_of_normalized hvalid h, List.take_of_length_le (by simpa using hlt),
    List.mem_cons, List.mem_filter, decide_eq_true_eq]
  tauto

theorem mem_accountsLeft {accountName : String} (h : Normalized (accountsOf serde items))
    (name : String) :
    name ∈ accountsLeft serde accountName items ↔
      name ∈ accountsOf serde items ∧ name ≠ accountName := by
  have hsublist : ((accountsOf serde items).filter (· ≠ accountName)).Sublist
      (accountsOf serde items) := List.filter_sublist
  have hleft : Normalized ((accountsOf serde items).filter (· ≠ accountName)) :=
    ⟨h.nodup.sublist hsublist, hsublist.length_le.trans h.length_le,
      fun account haccount => h.valid account (hsublist.subset haccount)⟩
  rw [accountsLeft, normalizedAccounts_of_normalized hleft, List.mem_filter, decide_eq_true_eq]

/-- Without room for an account a save drops one. -/
theorem exists_dropped {account : String} {accounts : List String}
    (hvalid : validAccountName account) (h : Normalized accounts)
    (hfull : accounts.length = MAX_ACCOUNTS) (hnew : account ∉ accounts) :
    ∃ name ∈ accounts, name ∉ normalizedAccounts (account :: accounts) := by
  have hfilter : accounts.filter (· ≠ account) = accounts := by
    refine List.filter_eq_self.mpr fun name hname => ?_
    rw [decide_eq_true_eq]
    rintro rfl
    exact hnew hname
  by_contra hall
  push Not at hall
  -- the saved account and the others would be one more than the index holds
  have hsubset : account :: accounts ⊆ normalizedAccounts (account :: accounts) := by
    intro name hname
    rcases List.mem_cons.mp hname with rfl | hname
    · rw [normalizedAccounts_cons_of_normalized hvalid h]
      exact List.mem_cons_self
    · exact hall name hname
  have hnodup : (account :: accounts).Nodup := List.nodup_cons.mpr ⟨hnew, h.nodup⟩
  have hle := (hnodup.subperm hsubset).length_le
  have hbound := (normalized_normalizedAccounts (account :: accounts)).length_le
  rw [List.length_cons, hfull] at hle
  omega

/-! ## The sessions in the keyring -/

/-- The items besides the index and the mark are the sessions of the accounts of the index. -/
def TokensListed (serde : Serde) (items : Items) : Prop :=
  ∀ username, username ≠ ACCOUNT_INDEX → username ≠ LEGACY_IMPORT_MARKER →
    ((items SERVICE username).isSome ↔
      ∃ account ∈ accountsOf serde items, username = privateAccountKey account)

/-- The save drops no account from the index. -/
def Fits (serde : Serde) (items : Items) : Call → Prop
  | .save session => (accountsOf serde items).length = MAX_ACCOUNTS →
      session.accountName ∈ accountsOf serde items
  | _ => True

section steps

variable {items' : Items}

theorem SaveLeaves.isSome {session : SessionData}
    (h : SaveLeaves serde session items (.ok ()) items') {username : String}
    (hindex : username ≠ ACCOUNT_INDEX) (hmarker : username ≠ LEGACY_IMPORT_MARKER) :
    (items' SERVICE username).isSome ↔
      username = privateAccountKey session.accountName ∨ (items SERVICE username).isSome := by
  cases h with
  | all =>
      rw [marked, setItem_of_ne hmarker, withIndex, indexed_of_ne hindex, withSession]
      by_cases hkey : username = privateAccountKey session.accountName
      · subst hkey
        simp
      · rw [setItem_of_ne hkey]
        simp [hkey]

theorem DeleteLeaves.isSome {accountName : String}
    (h : DeleteLeaves serde accountName items (.ok ()) items') {username : String}
    (hindex : username ≠ ACCOUNT_INDEX) (hmarker : username ≠ LEGACY_IMPORT_MARKER) :
    (items' SERVICE username).isSome ↔
      username ≠ privateAccountKey accountName ∧ (items SERVICE username).isSome := by
  cases h with
  | all =>
      rw [indexed_of_ne hindex, withoutSession]
      by_cases hkey : username = privateAccountKey accountName
      · subst hkey
        simp
      · rw [setItem_of_ne hkey, marked, setItem_of_ne hmarker]
        simp [hkey]

theorem TokensListed.save (h : TokensListed serde items)
    (hnormalized : Normalized (accountsOf serde items)) {session : SessionData}
    (hfits : Fits serde items (.save session))
    (hleaves : SaveLeaves serde session items (.ok ()) items') : TokensListed serde items' := by
  intro username hindex hmarker
  rcases hleaves.accountsOf with ⟨-, herror⟩ | ⟨hvalid, haccounts⟩
  · exact absurd rfl herror
  · rw [hleaves.isSome hindex hmarker, h username hindex hmarker, haccounts, accountsSaved]
    simp only [mem_normalizedAccounts_cons hvalid hnormalized hfits, or_and_right, exists_or,
      exists_eq_left]

theorem TokensListed.delete (h : TokensListed serde items)
    (hnormalized : Normalized (accountsOf serde items)) {accountName : String}
    (hleaves : DeleteLeaves serde accountName items (.ok ()) items') :
    TokensListed serde items' := by
  intro username hindex hmarker
  rcases hleaves.accountsOf with ⟨-, herror⟩ | haccounts
  · exact absurd rfl herror
  · rw [hleaves.isSome hindex hmarker, h username hindex hmarker, haccounts]
    constructor
    · rintro ⟨hne, account, hmem, rfl⟩
      exact ⟨account, (mem_accountsLeft hnormalized account).mpr ⟨hmem, fun h => hne (h ▸ rfl)⟩,
        rfl⟩
    · rintro ⟨account, hmem, rfl⟩
      obtain ⟨hmem, hne⟩ := (mem_accountsLeft hnormalized account).mp hmem
      exact ⟨fun hkey => hne (privateAccountKey_injective hkey), account, hmem, rfl⟩

theorem TokensListed.step (h : TokensListed serde items)
    (hnormalized : Normalized (accountsOf serde items)) {call : Call}
    (hfits : Fits serde items call) (hleaves : Leaves serde items call items') :
    TokensListed serde items' := by
  cases hleaves with
  | save hsave => exact h.save hnormalized hfits hsave
  | delete hdelete => exact h.delete hnormalized hdelete

/-- A save that drops an account leaves its session. -/
theorem TokensListed.not_step (h : TokensListed serde items)
    (hnormalized : Normalized (accountsOf serde items)) {call : Call}
    (hfits : ¬ Fits serde items call) (hleaves : Leaves serde items call items') :
    ¬ TokensListed serde items' := by
  cases hleaves with
  | delete => exact absurd trivial hfits
  | @save session _ hsave =>
      rcases hsave.accountsOf with ⟨-, herror⟩ | ⟨hvalid, haccounts⟩
      · exact absurd rfl herror
      · obtain ⟨hfull, hnew⟩ := Classical.not_imp.mp hfits
        obtain ⟨name, hmem, hdropped⟩ := exists_dropped hvalid hnormalized hfull hnew
        intro h'
        have hindex := privateAccountKey_ne_index name
        have hmarker := privateAccountKey_ne_marker name
        have hstored : (items' SERVICE (privateAccountKey name)).isSome :=
          (hsave.isSome hindex hmarker).mpr (.inr ((h _ hindex hmarker).mpr ⟨name, hmem, rfl⟩))
        obtain ⟨account, haccount, hkey⟩ := (h' _ hindex hmarker).mp hstored
        obtain rfl := privateAccountKey_injective hkey
        rw [haccounts] at haccount
        exact hdropped haccount

end steps

/-! ## Saves that nothing refuses -/

def noRefusals : Refusals := fun _ _ => false

section answered

variable {keyring : Keyring}

theorem meets_perform_answered {α : Type} {access : Access}
    {effect : Keyring → Except KeyringError α × Keyring}
    {post : Except BackendError (Except KeyringError α) → Keyring → Prop}
    (h : post (.ok (effect keyring).1) ((effect keyring).2.note access true)) :
    Meets (perform noRefusals access effect) keyring post := h

theorem meets_read_answered (service username : String) :
    Meets (read noRefusals service username) keyring fun outcome keyring' =>
      keyring'.items = keyring.items ∧ ∃ result, outcome = .ok result ∧
        result ≠ .error .refused := by
  refine meets_perform_answered ?_
  cases hitem : keyring.items service username with
  | none => exact ⟨rfl, _, rfl, by simp⟩
  | some value => exact ⟨rfl, _, rfl, by simp⟩

theorem meets_orFail_answered (action username value : String) :
    Meets (orFail action (writePrivate noRefusals username value)) keyring
      fun outcome _ => outcome = .ok () := by
  have hwrite : Meets (writePrivate noRefusals username value) keyring
      fun outcome _ => outcome = .ok (.ok ()) := meets_perform_answered rfl
  refine hwrite.bind ?_ fun _ _ h => nomatch h
  rintro result keyring' ⟨rfl⟩
  exact .pure rfl

theorem meets_loadPrivateAccounts_answered :
    Meets (loadPrivateAccounts serde noRefusals) keyring fun outcome keyring' =>
      keyring'.items = keyring.items ∧ outcome = .ok (accountsOf serde keyring.items) := by
  have hok : Meets (loadPrivateAccounts serde noRefusals) keyring
      fun outcome _ => ∃ accounts, outcome = .ok accounts := by
    refine (meets_read_answered SERVICE ACCOUNT_INDEX).bind ?_ ?_
    · rintro result keyring' ⟨-, _, ⟨rfl⟩, hanswered⟩
      rcases result with (_ | _) | raw
      · exact .pure ⟨_, rfl⟩
      · exact absurd rfl hanswered
      · exact .pure ⟨_, rfl⟩
    · rintro _ _ ⟨-, _, h, -⟩
      cases h
  obtain ⟨accounts, haccounts⟩ := hok.outcome
  have hload : Meets (loadPrivateAccounts serde noRefusals) keyring _ := meets_loadPrivateAccounts
  obtain ⟨hitems, hread⟩ := hload.outcome
  exact ⟨hitems, by rw [haccounts, hread accounts haccounts]⟩

theorem meets_markLegacyImportComplete_answered :
    Meets (markLegacyImportComplete noRefusals) keyring fun outcome _ => outcome = .ok () := by
  have hcomplete : Meets (legacyImportComplete noRefusals) keyring
      fun outcome _ => ∃ complete, outcome = .ok complete := by
    refine (meets_read_answered SERVICE LEGACY_IMPORT_MARKER).bind ?_ ?_
    · rintro result keyring' ⟨-, _, ⟨rfl⟩, hanswered⟩
      rcases result with (_ | _) | value
      · exact .pure ⟨_, rfl⟩
      · exact absurd rfl hanswered
      · exact .pure ⟨_, rfl⟩
    · rintro _ _ ⟨-, _, h, -⟩
      cases h
  refine hcomplete.bind ?_ fun _ _ ⟨_, h⟩ => nomatch h
  rintro complete keyring' -
  cases complete with
  | true => exact .pure rfl
  | false => exact meets_orFail_answered _ _ _

theorem meets_ofResult_ok_bind {α β : Type} {result : NativeResult α} {a : α}
    {f : α → KeyringOp β} {post : Except BackendError β → Keyring → Prop} (h : result = .ok a)
    (hf : Meets (f a) keyring post) : Meets (ofResult result >>= f) keyring post := by
  subst h
  exact hf

/-- A save that nothing refuses succeeds if its texts are short enough. -/
theorem save_succeeds {session : SessionData} {raw index : String}
    (h : SavesAs serde session items raw index) :
    Handled.Succeeds serde items ⟨.save session, noRefusals⟩ := by
  have hvalid : validateAccountName session.accountName = .ok () :=
    reject_of_not (by simpa using h.valid) _
  have hmeets : Meets (SecretStore.save serde noRefusals session) { items }
      fun outcome _ => outcome = .ok () := by
    unfold SecretStore.save
    refine meets_ofResult_ok_bind hvalid ?_
    refine meets_ofResult_ok_bind (reject_of_not (by simpa using h.authenticated) _) ?_
    refine meets_loadPrivateAccounts_answered.bind ?_ fun _ _ h => nomatch h.2
    rintro accounts keyring₁ ⟨-, ⟨rfl⟩⟩
    refine meets_ofResult_ok_bind h.raw ?_
    refine meets_ofResult_ok_bind h.index ?_
    refine (meets_orFail_answered _ _ _).bind ?_ fun _ _ h => nomatch h
    rintro _ keyring₂ -
    have hindex : Meets (storeChangedAccounts noRefusals (accountsSaved serde session.accountName
        items) (accountsOf serde items) index) keyring₂ fun outcome _ => outcome = .ok () := by
      unfold storeChangedAccounts
      split_ifs
      · exact meets_orFail_answered _ _ _
      · exact .pure rfl
    refine hindex.bind ?_ fun _ _ h => nomatch h
    exact fun _ _ _ => meets_markLegacyImportComplete_answered
  exact hmeets.outcome

end answered

/-! ## From an empty keyring -/

/-- A keyring without items. -/
def noItems : Items := fun _ _ => none

/-- No save drops an account from the index. -/
def AllFit (serde : Serde) (calls : List Handled) (items : Items) : Prop :=
  ∀ before handled rest, calls = before ++ handled :: rest →
    Fits serde (itemsAfter serde before items) handled.call

theorem normalized_itemsAfter_noItems (calls : List Handled) :
    Normalized (accountsOf serde (itemsAfter serde calls noItems)) := by
  have hafter : accountsOf serde (itemsAfter serde calls noItems) = _ ∨ _ := normalized_after calls
  rcases hafter with hsame | hnormalized
  · have hempty : accountsOf serde noItems = [] := rfl
    rw [hsame, hempty]
    exact ⟨List.nodup_nil, Nat.zero_le _, fun _ h => absurd h List.not_mem_nil⟩
  · exact hnormalized

theorem tokensListed_noItems : TokensListed serde noItems := by
  intro username _ _
  have hempty : accountsOf serde noItems = [] := rfl
  rw [hempty]
  simp [noItems]

theorem tokensListed_of_allFit {calls : List Handled} (h : AllSucceed serde calls noItems)
    (hfit : AllFit serde calls noItems) (before : List Handled) (hbefore : before <+: calls) :
    TokensListed serde (itemsAfter serde before noItems) := by
  induction before using List.reverseRecOn with
  | nil => exact tokensListed_noItems
  | append_singleton before handled ih =>
      obtain ⟨rest, hcalls⟩ := hbefore
      have hsplit : calls = before ++ handled :: rest := by
        rw [← hcalls, List.append_assoc]
        rfl
      rw [itemsAfter_concat]
      exact (ih ⟨_, hsplit.symm⟩).step (normalized_itemsAfter_noItems before)
        (hfit _ _ _ hsplit) (h _ _ _ hsplit).leaves

/-- From an empty keyring the sessions are those of the index, after each of the operations, if and
only if no save drops an account from it. -/
theorem tokensListed_iff (serde : Serde) {calls : List Handled}
    (h : AllSucceed serde calls noItems) :
    (∀ before, before <+: calls → TokensListed serde (itemsAfter serde before noItems)) ↔
      AllFit serde calls noItems := by
  constructor
  · intro hlisted before handled rest hsplit
    by_contra hfits
    have hbefore := hlisted before ⟨_, hsplit.symm⟩
    have hafter := hlisted (before ++ [handled]) ⟨rest, by simp [hsplit]⟩
    rw [itemsAfter_concat] at hafter
    exact hbefore.not_step (normalized_itemsAfter_noItems before) hfits
      (h _ _ _ hsplit).leaves hafter
  · exact fun hfit before hbefore => tokensListed_of_allFit h hfit before hbefore

/-! ## More accounts than the index holds -/

/-- The names `a`, `aa`, … -/
def nthAccount (n : ℕ) : String := .ofList (List.replicate (n + 1) 'a')

def nthSession (n : ℕ) : SessionData where
  uid := "uid"
  accessToken := "access"
  refreshToken := "refresh"
  accountName := nthAccount n
  rest := .null

/-- The accounts before the one with this number, the last one first. -/
def accountsBefore (n : ℕ) : List String := ((List.range n).map nthAccount).reverse

/-- Saves of so many accounts. -/
def saves (n : ℕ) : List Handled := (List.range n).map fun i => ⟨.save (nthSession i), noRefusals⟩

theorem nthAccount_injective : Function.Injective nthAccount := by
  intro n n' h
  have hlength := congrArg String.length h
  simpa [nthAccount] using hlength

theorem not_mem_accountsBefore (n : ℕ) : nthAccount n ∉ accountsBefore n := by
  intro hmem
  obtain ⟨i, hi, heq⟩ := List.mem_map.mp (List.mem_reverse.mp hmem)
  rw [List.mem_range, nthAccount_injective heq] at hi
  exact absurd hi (lt_irrefl n)

theorem accountsBefore_succ (n : ℕ) : accountsBefore (n + 1) = nthAccount n :: accountsBefore n := by
  rw [accountsBefore, List.range_succ, List.map_append, List.reverse_append]
  rfl

theorem saves_succ (n : ℕ) :
    saves (n + 1) = saves n ++ [⟨.save (nthSession n), noRefusals⟩] := by
  rw [saves, List.range_succ, List.map_append]
  rfl

theorem validAccountName_nthAccount {n : ℕ} (h : n ≤ MAX_ACCOUNTS) :
    validAccountName (nthAccount n) := by
  have hvalid : ∀ i ≤ MAX_ACCOUNTS, validAccountName (nthAccount i) := by decide +kernel
  exact hvalid n h

theorem normalized_accountsBefore {n : ℕ} (h : n ≤ MAX_ACCOUNTS) :
    Normalized (accountsBefore n) := by
  refine ⟨?_, by simpa [accountsBefore] using h, ?_⟩
  · exact List.nodup_reverse.mpr (List.nodup_range.map nthAccount_injective)
  · intro account hmem
    obtain ⟨i, hi, rfl⟩ := List.mem_map.mp (List.mem_reverse.mp hmem)
    exact validAccountName_nthAccount ((List.mem_range.mp hi).le.trans h)

/-- The index names the last accounts. -/
theorem normalizedAccounts_accountsBefore {n : ℕ} (h : n ≤ MAX_ACCOUNTS) :
    normalizedAccounts (nthAccount n :: accountsBefore n) =
      (accountsBefore (n + 1)).take MAX_ACCOUNTS := by
  have hfilter : (accountsBefore n).filter (· ≠ nthAccount n) = accountsBefore n := by
    refine List.filter_eq_self.mpr fun name hname => ?_
    rw [decide_eq_true_eq]
    rintro rfl
    exact not_mem_accountsBefore n hname
  rw [normalizedAccounts_cons_of_normalized (validAccountName_nthAccount h)
    (normalized_accountsBefore h), hfilter,
    accountsBefore_succ]

theorem utf8ByteSize_nthAccount (n : ℕ) : (nthAccount n).utf8ByteSize = n + 1 := by
  have ha : 'a'.utf8Size = 1 := rfl
  rw [nthAccount, utf8ByteSize_ofList, List.map_replicate, List.sum_replicate, ha, smul_eq_mul,
    mul_one]

/-- The text of a session is as long as its fields. -/
theorem utf8ByteSize_plainSession_le {session : SessionData} (hrest : session.rest = .null) :
    (plainSerde.sessionToJson session).utf8ByteSize ≤ 6 * (session.uid.utf8ByteSize +
      session.accessToken.utf8ByteSize + session.refreshToken.utf8ByteSize +
      session.accountName.utf8ByteSize) + 500 := by
  have huid := charsSize_writeString_le session.uid
  have haccess := charsSize_writeString_le session.accessToken
  have hrefresh := charsSize_writeString_le session.refreshToken
  have hname := charsSize_writeString_le session.accountName
  have hkeys : charsSize (writeString "UID") + charsSize (writeString "AccessToken") +
      charsSize (writeString "RefreshToken") + charsSize (writeString "AccountName") +
      charsSize (writeString "vpn") ≤ 100 := by decide
  have hmarks : '\x7b'.utf8Size = 1 ∧ '}'.utf8Size = 1 ∧ ':'.utf8Size = 1 ∧ ','.utf8Size = 1 :=
    ⟨rfl, rfl, rfl, rfl⟩
  have hnull : charsSize ['n', 'u', 'l', 'l'] = 4 := rfl
  simp only [plainSerde, hrest, utf8ByteSize_ofList_eq_charsSize, writeValue, writeFields,
    List.isEmpty_cons, List.isEmpty_nil, Bool.false_eq_true, if_false, if_true, charsSize_append,
    charsSize_cons, charsSize_nil, hmarks, hnull]
  omega

/-- A session of the next account can be saved, if it is not too long. -/
theorem savesAs_nthAccount {n : ℕ} (h : n ≤ MAX_ACCOUNTS)
    (haccounts : accountsOf plainSerde items = accountsBefore n) {session : SessionData}
    (hname : session.accountName = nthAccount n) (hauthenticated : session.isAuthenticated)
    (hrest : session.rest = .null) (hsize : session.uid.utf8ByteSize +
      session.accessToken.utf8ByteSize + session.refreshToken.utf8ByteSize ≤ 1000) :
    ∃ raw index, SavesAs plainSerde session items raw index := by
  have hsaved : accountsSaved plainSerde session.accountName items =
      (accountsBefore (n + 1)).take MAX_ACCOUNTS := by
    rw [accountsSaved, haccounts, hname]
    exact normalizedAccounts_accountsBefore h
  have hsession := utf8ByteSize_plainSession_le hrest
  rw [hname, utf8ByteSize_nthAccount] at hsession
  have hnames : ∀ account ∈ (accountsBefore (n + 1)).take MAX_ACCOUNTS,
      account.utf8ByteSize ≤ 33 := by
    intro account hmem
    obtain ⟨i, hi, rfl⟩ := List.mem_map.mp (List.mem_reverse.mp (List.mem_of_mem_take hmem))
    have hi := List.mem_range.mp hi
    rw [utf8ByteSize_nthAccount]
    unfold MAX_ACCOUNTS at h
    omega
  have hindex := utf8ByteSize_accountsToJson_le plainSerde hnames
  have hlength := List.length_take_le MAX_ACCOUNTS (accountsBefore (n + 1))
  have hvalid := validAccountName_nthAccount h
  unfold MAX_ACCOUNTS at h hlength hindex
  have hraw : (plainSerde.sessionToJson session).utf8ByteSize ≤ MAX_SESSION_BYTES := by
    unfold MAX_SESSION_BYTES
    omega
  obtain ⟨raw, hraw⟩ := exists_encodeSession hraw
  obtain ⟨index, hindex⟩ := exists_encodeAccountIndex plainSerde
    (hindex.trans (show _ ≤ MAX_INDEX_BYTES by unfold MAX_INDEX_BYTES; omega))
  exact ⟨raw, index, hname ▸ hvalid, hauthenticated, hraw, by rwa [hsaved]⟩

theorem isAuthenticated_nthSession (n : ℕ) : (nthSession n).isAuthenticated := by
  have hname : nthAccount n ≠ "" := by
    intro hempty
    have hlength := congrArg String.length hempty
    simp [nthAccount] at hlength
  simp [SessionData.isAuthenticated, nthSession, hname]

theorem AllSucceed.concat {calls : List Handled} {handled : Handled}
    (h : AllSucceed serde calls items)
    (hlast : handled.Succeeds serde (itemsAfter serde calls items)) :
    AllSucceed serde (calls ++ [handled]) items := by
  intro before handled' rest hsplit
  rcases List.append_eq_append_iff.mp hsplit with ⟨between, rfl, hbetween⟩ | ⟨between, rfl, hrest⟩
  · cases between with
    | nil =>
        obtain ⟨rfl, -⟩ := List.cons.inj hbetween
        rwa [List.append_nil]
    | cons first between =>
        have hnil := (List.cons.inj hbetween).2
        simp at hnil
  · cases between with
    | nil =>
        obtain ⟨rfl, -⟩ := List.cons.inj hrest
        rwa [List.append_nil] at hlast
    | cons first between =>
        obtain ⟨rfl, -⟩ := List.cons.inj hrest
        exact h before _ between rfl

theorem saves_spec {n : ℕ} (h : n ≤ MAX_ACCOUNTS + 1) :
    AllSucceed plainSerde (saves n) noItems ∧
      accountsOf plainSerde (itemsAfter plainSerde (saves n) noItems) =
        (accountsBefore n).take MAX_ACCOUNTS := by
  induction n with
  | zero => exact ⟨fun before handled rest h => absurd h (by simp [saves]), rfl⟩
  | succ n ih =>
      have hle : n ≤ MAX_ACCOUNTS := Nat.le_of_succ_le_succ h
      obtain ⟨hall, haccounts⟩ := ih (Nat.le_succ_of_le hle)
      have hwhole : (accountsBefore n).take MAX_ACCOUNTS = accountsBefore n :=
        List.take_of_length_le (normalized_accountsBefore hle).length_le
      rw [hwhole] at haccounts
      obtain ⟨raw, index, hsaves⟩ := savesAs_nthAccount hle haccounts rfl
        (isAuthenticated_nthSession n) rfl (by simp only [nthSession]; decide)
      have hlast := save_succeeds hsaves
      refine ⟨saves_succ n ▸ hall.concat hlast, ?_⟩
      rw [saves_succ, itemsAfter_concat]
      have hleaves := hlast.leaves
      cases hleaves with
      | save hsave =>
          rcases hsave.accountsOf with ⟨-, herror⟩ | ⟨-, hsaved⟩
          · exact absurd rfl herror
          · rw [hsaved, accountsSaved, haccounts]
            exact normalizedAccounts_accountsBefore hle

/-- The operations of `tokensListed_iff`, with one account more than the index holds. -/
theorem tokensListed_iff_saves :
    (∀ before, before <+: saves 33 →
        TokensListed plainSerde (itemsAfter plainSerde before noItems)) ↔
      AllFit plainSerde (saves 33) noItems :=
  tokensListed_iff plainSerde (saves_spec (by decide)).1

/-- The session of the first of 33 accounts is in the keyring, and not in the index. -/
theorem not_always_tokensListed : ¬ ∀ (serde : Serde) (calls : List Handled),
    AllSucceed serde calls noItems → TokensListed serde (itemsAfter serde calls noItems) := by
  intro h
  have hbefore := h plainSerde (saves 32) (saves_spec (by decide)).1
  have hall := (saves_spec (n := 33) (by decide)).1
  have haccounts : accountsOf plainSerde (itemsAfter plainSerde (saves 32) noItems) =
      accountsBefore 32 := by
    rw [(saves_spec (by decide)).2, List.take_of_length_le (by simp [accountsBefore, MAX_ACCOUNTS])]
  have hfits : ¬ Fits plainSerde (itemsAfter plainSerde (saves 32) noItems)
      (.save (nthSession 32)) := by
    intro hfits
    rw [Fits, haccounts] at hfits
    exact not_mem_accountsBefore 32 (hfits (by simp [accountsBefore, MAX_ACCOUNTS]))
  have hafter := h plainSerde (saves 33) hall
  rw [saves_succ, itemsAfter_concat] at hafter
  exact hbefore.not_step (normalized_itemsAfter_noItems _) hfits
    (hall (saves 32) _ [] (saves_succ 32)).leaves hafter

end ProtonVpnOmarchy.Agent.SecretStore
