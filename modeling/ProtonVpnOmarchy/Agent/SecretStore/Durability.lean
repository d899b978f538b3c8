import ProtonVpnOmarchy.Agent.SecretStore.Effects

/-!
# The secret store across refusals and restarts

* `ImportComplete.after` — the mark stays set, and with it no load reads what the older application
  stored.
* `Absent.after` — a session that was removed stays away until its account is saved.
* `normalized_after` — an index that an operation has written names no account twice.
* `secretStore_durable` — what the user has removed stays removed, whatever is refused.
-/

namespace ProtonVpnOmarchy.Agent.SecretStore

open Lib Lib.Fallible Splitd Store Backend

/-! ## Sequences of operations -/

inductive Call where
  | save (session : SessionData)
  | delete (accountName : String)
  | loadDefault

/-- An operation, and which of its accesses are refused. -/
structure Handled where
  call : Call
  refusals : Refusals

/-- The items that an operation leaves. -/
def Handled.next (serde : Serde) (handled : Handled) (items : Items) : Items :=
  match handled.call with
  | .save session => ((save serde handled.refusals session).exec { items }).2.items
  | .delete accountName => ((delete serde handled.refusals accountName).exec { items }).2.items
  | .loadDefault => ((loadDefault serde handled.refusals).exec { items }).2.items

/-- The items that a sequence of operations leaves. -/
def itemsAfter (serde : Serde) (calls : List Handled) (items : Items) : Items :=
  calls.foldl (fun items handled => handled.next serde items) items

/-- What an operation can leave. -/
inductive CallLeaves (serde : Serde) (items : Items) : Call → Items → Prop
  | unchanged (call : Call) : CallLeaves serde items call items
  | save {session : SessionData} {outcome : Except BackendError Unit} {items' : Items}
    (h : SaveLeaves serde session items outcome items') : CallLeaves serde items (.save session) items'
  | delete {accountName : String} {outcome : Except BackendError Unit} {items' : Items}
    (h : DeleteLeaves serde accountName items outcome items') :
    CallLeaves serde items (.delete accountName) items'
  | load {session : SessionData} {outcome : Except BackendError Unit} {items' : Items}
    (hincomplete : ¬ ImportComplete items) (hsession : LegacySession serde session items)
    (h : SaveLeaves serde session items outcome items') : CallLeaves serde items .loadDefault items'

section sequences

variable {serde : Serde} {items : Items}

theorem callLeaves_next (handled : Handled) :
    CallLeaves serde items handled.call (handled.next serde items) := by
  obtain ⟨call, refusals⟩ := handled
  cases call with
  | save session =>
      have hmeets : Meets (save serde refusals session) { items } _ := meets_save session
      exact .save hmeets.outcome
  | delete accountName =>
      have hmeets : Meets (delete serde refusals accountName) { items } _ :=
        meets_delete accountName
      exact .delete hmeets.outcome
  | loadDefault =>
      have hmeets : Meets (loadDefault serde refusals) { items } _ := meets_loadDefault
      rcases hmeets.outcome.left with hsame | ⟨hincomplete, session, outcome, hsession, hleaves⟩
      · have hnext : Handled.next serde ⟨.loadDefault, refusals⟩ items = items := hsame
        rw [hnext]
        exact .unchanged _
      · exact .load hincomplete hsession hleaves

/-- What every operation of a sequence keeps. -/
theorem itemsAfter_inv {I : Items → Prop} {calls : List Handled}
    (hkeep : ∀ handled ∈ calls, ∀ items items', I items →
      CallLeaves serde items handled.call items' → I items')
    (h : I items) : I (itemsAfter serde calls items) := by
  induction calls generalizing items with
  | nil => exact h
  | cons handled calls ih =>
      exact ih (fun handled hmem => hkeep handled (List.mem_cons_of_mem _ hmem))
        (hkeep handled List.mem_cons_self _ _ h (callLeaves_next handled))

/-! ## The mark -/

theorem importComplete_marked : ImportComplete (marked items) := setItem_self _ _ _

theorem ImportComplete.setItem (h : ImportComplete items) {username : String}
    (hne : username ≠ LEGACY_IMPORT_MARKER) (value : Option String) :
    ImportComplete (setItem items username value) :=
  (setItem_of_ne hne.symm items value).trans h

theorem ImportComplete.indexed (h : ImportComplete items) (accounts : List String)
    (index : String) : ImportComplete (indexed serde accounts index items) :=
  (indexed_of_ne (by decide) accounts index items).trans h

theorem ImportComplete.save (h : ImportComplete items) {session : SessionData}
    {outcome : Except BackendError Unit} {items' : Items}
    (hleaves : SaveLeaves serde session items outcome items') : ImportComplete items' := by
  cases hleaves with
  | nothing => exact h
  | session => exact h.setItem (privateAccountKey_ne_marker _) _
  | index => exact (h.setItem (privateAccountKey_ne_marker _) _).indexed _ _
  | all => exact importComplete_marked

theorem ImportComplete.delete (h : ImportComplete items) {accountName : String}
    {outcome : Except BackendError Unit} {items' : Items}
    (hleaves : DeleteLeaves serde accountName items outcome items') : ImportComplete items' := by
  cases hleaves with
  | nothing => exact h
  | mark => exact importComplete_marked
  | session => exact importComplete_marked.setItem (privateAccountKey_ne_marker _) _
  | all => exact (importComplete_marked.setItem (privateAccountKey_ne_marker _) _).indexed _ _

/-- The mark stays set. -/
theorem ImportComplete.after (h : ImportComplete items) (calls : List Handled) :
    ImportComplete (itemsAfter serde calls items) := by
  refine itemsAfter_inv ?_ h
  rintro ⟨call, refusals⟩ - items items' h hleaves
  dsimp only at hleaves
  cases hleaves with
  | unchanged => exact h
  | save hsave => exact h.save hsave
  | delete hdelete => exact h.delete hdelete
  | load hincomplete => exact absurd h hincomplete

/-! ## Sessions that were removed -/

/-- There is no session of the account, and none is imported. -/
structure Absent (accountName : String) (items : Items) : Prop where
  complete : ImportComplete items
  absent : items SERVICE (privateAccountKey accountName) = none

theorem Absent.setItem {accountName : String} (h : Absent accountName items) {username : String}
    (hmarker : username ≠ LEGACY_IMPORT_MARKER) (hne : privateAccountKey accountName ≠ username)
    (value : Option String) : Absent accountName (setItem items username value) :=
  ⟨h.complete.setItem hmarker value, (setItem_of_ne hne items value).trans h.absent⟩

theorem Absent.marked {accountName : String} (h : Absent accountName items) :
    Absent accountName (marked items) :=
  ⟨importComplete_marked,
    (setItem_of_ne (privateAccountKey_ne_marker accountName) items _).trans h.absent⟩

theorem Absent.indexed {accountName : String} (h : Absent accountName items)
    (accounts : List String) (index : String) :
    Absent accountName (indexed serde accounts index items) :=
  ⟨h.complete.indexed accounts index,
    (indexed_of_ne (privateAccountKey_ne_index accountName) accounts index items).trans h.absent⟩

theorem absent_withoutSession (accountName : String) :
    Absent accountName (withoutSession accountName items) :=
  ⟨importComplete_marked.setItem (privateAccountKey_ne_marker _) _, setItem_self _ _ _⟩

/-- A removal of a session, of this account or of another one. -/
theorem Absent.withoutSession {accountName : String} (h : Absent accountName items)
    (accountName' : String) : Absent accountName (withoutSession accountName' items) := by
  by_cases hname : accountName' = accountName
  · subst hname
    exact absent_withoutSession accountName'
  · exact h.marked.setItem (privateAccountKey_ne_marker _)
      (fun hkey => hname (privateAccountKey_injective hkey).symm) _

/-- The operation saves a session of the account. -/
def Call.Saves (accountName : String) : Call → Prop
  | .save session => session.accountName = accountName
  | _ => False

theorem Absent.save {accountName : String} (h : Absent accountName items) {session : SessionData}
    (hne : session.accountName ≠ accountName) {outcome : Except BackendError Unit} {items' : Items}
    (hleaves : SaveLeaves serde session items outcome items') : Absent accountName items' := by
  have hsession : ∀ raw, Absent accountName (withSession session raw items) := fun raw =>
    h.setItem (privateAccountKey_ne_marker _)
      (fun hkey => hne (privateAccountKey_injective hkey).symm) (some raw)
  cases hleaves with
  | nothing => exact h
  | session => exact hsession _
  | index => exact (hsession _).indexed _ _
  | all => exact ((hsession _).indexed _ _).marked

theorem Absent.delete {accountName : String} (h : Absent accountName items) {accountName' : String}
    {outcome : Except BackendError Unit} {items' : Items}
    (hleaves : DeleteLeaves serde accountName' items outcome items') : Absent accountName items' := by
  cases hleaves with
  | nothing => exact h
  | mark => exact h.marked
  | session => exact h.withoutSession accountName'
  | all => exact (h.withoutSession accountName').indexed _ _

/-- A session that was removed stays away until its account is saved. -/
theorem Absent.after {accountName : String} (h : Absent accountName items) {calls : List Handled}
    (hcalls : ∀ handled ∈ calls, ¬ handled.call.Saves accountName) :
    Absent accountName (itemsAfter serde calls items) := by
  refine itemsAfter_inv ?_ h
  rintro ⟨call, refusals⟩ hmem items items' h hleaves
  have hsaves : ¬ call.Saves accountName := hcalls _ hmem
  dsimp only at hleaves
  cases hleaves with
  | unchanged => exact h
  | save hsave => exact h.save hsaves hsave
  | delete hdelete => exact h.delete hdelete
  | load hincomplete => exact absurd h.complete hincomplete

end sequences

/-! ## Accesses -/

section accesses

variable {serde : Serde} {refusals : Refusals} {I : Keyring → Prop}

theorem keeps_perform {α : Type} {access : Access}
    {effect : Keyring → Except KeyringError α × Keyring}
    (hrefused : ∀ keyring, I keyring → I (keyring.note access false))
    (hanswered : ∀ keyring, I keyring → I ((effect keyring).2.note access true)) :
    Keeps I (perform refusals access effect) := by
  refine .ofFun fun keyring h => ?_
  dsimp only
  split_ifs
  · exact hrefused keyring h
  · exact hanswered keyring h

theorem keeps_read {service username : String}
    (hread : ∀ keyring answered, I keyring → I (keyring.note (.read service username) answered)) :
    Keeps I (read refusals service username) := by
  refine keeps_perform (fun keyring => hread keyring false) fun keyring h => ?_
  cases keyring.items service username with
  | none => exact hread keyring true h
  | some value => exact hread keyring true h

section reads

variable (hread : ∀ keyring username answered, I keyring →
  I (keyring.note (.read SERVICE username) answered))

include hread

theorem keeps_loadPrivateAccounts : Keeps I (loadPrivateAccounts serde refusals) := by
  refine (keeps_read fun keyring => hread keyring ACCOUNT_INDEX).bind fun result => ?_
  rcases result with (_ | _) | raw
  · exact .pure _
  · exact fun _ h => h
  · exact .pure _

theorem keeps_legacyImportComplete : Keeps I (legacyImportComplete refusals) := by
  refine (keeps_read fun keyring => hread keyring LEGACY_IMPORT_MARKER).bind fun result => ?_
  rcases result with (_ | _) | value
  · exact .pure _
  · exact fun _ h => h
  · exact .pure _

theorem keeps_firstPrivateSession (accounts : List String) :
    Keeps I (firstPrivateSession serde refusals accounts) := by
  induction accounts with
  | nil => exact .pure _
  | cons account accounts ih =>
      refine (keeps_read fun keyring => hread keyring _).bind fun result => ?_
      rcases result with (_ | _) | raw
      · exact ih
      · exact fun _ h => h
      · dsimp only
        cases ownSession account (decodeSession serde raw) with
        | none => exact ih
        | some session => exact .pure _

theorem keeps_loadPrivateDefault : Keeps I (loadPrivateDefault serde refusals) :=
  (keeps_loadPrivateAccounts hread).bind fun _ => keeps_firstPrivateSession hread _

variable (hwrite : ∀ keyring username value, I keyring →
  I (keyring.note (.writePrivate username value) false) ∧
    I ((keyring.set username (some value)).note (.writePrivate username value) true))

include hwrite

omit hread in
theorem keeps_orFail (action username value : String) :
    Keeps I (orFail action (writePrivate refusals username value)) := by
  refine Keeps.bind (keeps_perform (fun keyring h => (hwrite keyring username value h).1)
    fun keyring h => (hwrite keyring username value h).2) fun result => ?_
  rcases result with error | _
  · exact fun _ h => h
  · exact .pure _

theorem keeps_markLegacyImportComplete : Keeps I (markLegacyImportComplete refusals) := by
  refine (keeps_legacyImportComplete hread).bind fun complete => ?_
  cases complete with
  | true => exact .pure _
  | false => exact keeps_orFail hwrite _ _ _

theorem keeps_save (session : SessionData) : Keeps I (save serde refusals session) := by
  refine Keeps.bind (fun _ h => h) fun _ => ?_
  refine Keeps.bind (fun _ h => h) fun _ => ?_
  refine (keeps_loadPrivateAccounts hread).bind fun previous => ?_
  refine Keeps.bind (fun _ h => h) fun raw => ?_
  refine Keeps.bind (fun _ h => h) fun index => ?_
  refine (keeps_orFail hwrite _ _ _).bind fun _ => ?_
  have hindex : Keeps I (storeChangedAccounts refusals
      (normalizedAccounts (session.accountName :: previous)) previous index) := by
    unfold storeChangedAccounts
    split_ifs
    · exact keeps_orFail hwrite _ _ _
    · exact .pure _
  exact hindex.bind fun _ => keeps_markLegacyImportComplete hread hwrite

end reads

end accesses

/-! ## What a load reads -/

/-- No entry of the older application was read. -/
def NoLegacyRead (keyring : Keyring) : Prop :=
  ∀ entry ∈ keyring.log, ∀ username, entry.1 ≠ .read LEGACY_SERVICE username

theorem noLegacyRead_note {keyring : Keyring} (h : NoLegacyRead keyring) (username : String)
    (answered : Bool) : NoLegacyRead (keyring.note (.read SERVICE username) answered) := by
  intro entry hentry username' heq
  rcases List.mem_append.mp hentry with hentry | hentry
  · exact h entry hentry username' heq
  · rw [List.mem_singleton.mp hentry] at heq
    have hservice : SERVICE ≠ LEGACY_SERVICE := by decide
    exact hservice (Access.read.inj heq).1

/-- With the mark set nothing of the older application is read. -/
theorem ImportComplete.noLegacyRead {serde : Serde} {refusals : Refusals} {keyring : Keyring}
    (h : ImportComplete keyring.items) (hlog : NoLegacyRead keyring) :
    Meets (loadDefault serde refusals) keyring fun _ keyring' => NoLegacyRead keyring' := by
  have hread : ∀ keyring username answered, NoLegacyRead keyring →
      NoLegacyRead (keyring.note (.read SERVICE username) answered) :=
    fun _ username answered h => noLegacyRead_note h username answered
  refine (meets_loadPrivateDefault.keeps (keeps_loadPrivateDefault hread) hlog).bind ?_ ?_
  · rintro (_ | session) keyring₁ ⟨⟨hitems, -⟩, hlog₁⟩
    · refine (meets_legacyImportComplete.keeps (keeps_legacyImportComplete hread) hlog₁).bind ?_ ?_
      · rintro complete keyring₂ ⟨⟨-, hcomplete⟩, hlog₂⟩
        rw [hitems] at hcomplete
        obtain rfl : complete = true := (hcomplete complete rfl).mpr h
        exact .pure hlog₂
      · exact fun _ _ h => h.2
    · exact .pure hlog₁
  · exact fun _ _ h => h.2

/-! ## What a delete removes -/

/-- No session was asked to be removed. -/
def NoRemoval (keyring : Keyring) : Prop :=
  ∀ entry ∈ keyring.log, ∀ username, entry.1 ≠ .deletePrivate username

theorem noRemoval_note {keyring keyring' : Keyring} (h : NoRemoval keyring)
    (hlog : keyring'.log = keyring.log) {access : Access}
    (hne : ∀ username, access ≠ .deletePrivate username) (answered : Bool) :
    NoRemoval (keyring'.note access answered) := by
  intro entry hentry username heq
  rw [Keyring.note, hlog] at hentry
  rcases List.mem_append.mp hentry with hentry | hentry
  · exact h entry hentry username heq
  · rw [List.mem_singleton.mp hentry] at heq
    exact hne username heq

/-- A delete that has removed the session, whatever comes after. -/
theorem meets_delete_removed {serde : Serde} {refusals : Refusals} {keyring : Keyring}
    (h : NoRemoval keyring) (accountName : String) :
    Meets (delete serde refusals accountName) keyring fun _ keyring' =>
      (.deletePrivate (privateAccountKey accountName), true) ∈ keyring'.log →
        Absent accountName keyring'.items := by
  have hread : ∀ keyring username answered, NoRemoval keyring →
      NoRemoval (keyring.note (.read SERVICE username) answered) :=
    fun _ _ answered h => noRemoval_note h rfl (by simp) answered
  have hwrite : ∀ keyring username value, NoRemoval keyring →
      NoRemoval (keyring.note (.writePrivate username value) false) ∧
        NoRemoval ((keyring.set username (some value)).note (.writePrivate username value) true) :=
    fun _ _ _ h => ⟨noRemoval_note h rfl (by simp) _, noRemoval_note h rfl (by simp) _⟩
  have hnone : ∀ {keyring : Keyring}, NoRemoval keyring →
      (.deletePrivate (privateAccountKey accountName), true) ∈ keyring.log →
        Absent accountName keyring.items := fun h hmem => absurd rfl (h _ hmem _)
  unfold delete
  refine meets_ofResult_bind (fun _ => hnone h) fun _ _ => ?_
  refine (meets_loadPrivateAccounts.keeps (keeps_loadPrivateAccounts hread) h).bind ?_
    fun _ _ h => hnone h.2
  rintro previous keyring₁ ⟨⟨hitems, hprevious⟩, h₁⟩
  obtain rfl := hprevious previous rfl
  refine meets_ofResult_bind (fun _ => hnone h₁) fun index _ => ?_
  refine (meets_markLegacyImportComplete.keeps (keeps_markLegacyImportComplete hread hwrite)
    h₁).bind ?_ fun _ _ h => hnone h.2
  rintro _ keyring₂ ⟨⟨-, hmarked⟩ | ⟨_, h, -⟩, h₂⟩
  · refine (meets_removeSession accountName).bind ?_ ?_
    · rintro _ keyring₃ (⟨-, hremoved⟩ | ⟨_, h, -⟩)
      · have habsent : Absent accountName keyring₃.items := by
          rw [hremoved, hmarked]
          exact absent_withoutSession accountName
        have haccounts : accountsOf serde keyring.items = accountsOf serde keyring₃.items := by
          rw [hremoved, accountsOf_setItem serde (privateAccountKey_ne_index _), hmarked,
            accountsOf_marked, hitems]
        refine (meets_storeChangedAccounts haccounts _ _).mono ?_
        rintro _ keyring' (⟨-, hindexed⟩ | ⟨_, -, hsame⟩) -
        · rw [hindexed]
          exact habsent.indexed _ _
        · rwa [hsame]
      · cases h
    · rintro _ keyring₃ (⟨h, -⟩ | ⟨_, -, -, hlog⟩) hmem
      · cases h
      · rw [hlog, List.mem_append, List.mem_singleton] at hmem
        rcases hmem with hmem | hmem
        · exact absurd rfl (h₂ _ hmem _)
        · cases hmem
  · cases h

/-- The mark was not written. -/
def NoMark (keyring : Keyring) : Prop :=
  (.writePrivate LEGACY_IMPORT_MARKER LEGACY_IMPORT_COMPLETE, true) ∉ keyring.log

theorem noMark_note {keyring : Keyring} (h : NoMark keyring) (username : String)
    (answered : Bool) : NoMark (keyring.note (.read SERVICE username) answered) := by
  intro hmem
  rcases List.mem_append.mp hmem with hmem | hmem
  · exact h hmem
  · cases List.mem_singleton.mp hmem

/-- A mark that was not written is set already, or the operation ends. -/
theorem meets_markLegacyImportComplete_noMark {refusals : Refusals} {keyring : Keyring}
    (h : NoMark keyring) :
    Meets (markLegacyImportComplete refusals) keyring fun outcome keyring' =>
      (outcome = .ok () ∧ ImportComplete keyring'.items) ∨
        ∃ error, outcome = .error error ∧ NoMark keyring' := by
  have hread : ∀ keyring username answered, NoMark keyring →
      NoMark (keyring.note (.read SERVICE username) answered) :=
    fun _ username answered h => noMark_note h username answered
  refine (meets_legacyImportComplete.keeps (keeps_legacyImportComplete hread) h).bind ?_
    fun error _ h => .inr ⟨error, rfl, h.2⟩
  rintro complete keyring₁ ⟨⟨hitems, hcomplete⟩, h₁⟩
  cases complete with
  | true =>
      rw [← hitems] at hcomplete
      exact .pure (.inl ⟨rfl, (hcomplete true rfl).mp rfl⟩)
  | false =>
      let mid : Except BackendError (Except KeyringError Unit) → Keyring → Prop :=
        fun outcome keyring' => (outcome = .ok (.ok ()) ∧ ImportComplete keyring'.items) ∨
          ∃ error, outcome = .ok (.error error) ∧ NoMark keyring'
      have hwrite : Meets (writePrivate refusals LEGACY_IMPORT_MARKER LEGACY_IMPORT_COMPLETE)
          keyring₁ mid := by
        refine meets_perform (.inr ⟨_, rfl, ?_⟩) (.inl ⟨rfl, importComplete_marked⟩)
        intro hmem
        rcases List.mem_append.mp hmem with hmem | hmem
        · exact h₁ hmem
        · cases List.mem_singleton.mp hmem
      refine Meets.bind hwrite ?_ ?_
      · rintro result keyring' (⟨⟨rfl⟩, hmarked⟩ | ⟨error, ⟨rfl⟩, hnone⟩)
        · exact .pure (.inl ⟨rfl, hmarked⟩)
        · exact .throw (.inr ⟨_, rfl, hnone⟩)
      · rintro error keyring' (⟨h, -⟩ | ⟨_, h, -⟩)
        · cases h
        · cases h

theorem meets_storeChangedAccounts_importComplete {refusals : Refusals} {keyring : Keyring}
    (h : ImportComplete keyring.items) (accounts previous : List String) (encoded : String) :
    Meets (storeChangedAccounts refusals accounts previous encoded) keyring
      fun _ keyring' => ImportComplete keyring'.items := by
  unfold storeChangedAccounts
  split_ifs
  · refine (meets_orFail _ _ _).mono ?_
    rintro _ keyring' (⟨-, hwritten⟩ | ⟨_, -, hsame⟩)
    · rw [hwritten]
      exact h.setItem (by decide) _
    · rwa [hsame]
  · exact .pure h

/-- A delete that has written the mark, whatever comes after. -/
theorem meets_delete_marked {serde : Serde} {refusals : Refusals} {keyring : Keyring}
    (h : NoMark keyring) (accountName : String) :
    Meets (delete serde refusals accountName) keyring fun _ keyring' =>
      (.writePrivate LEGACY_IMPORT_MARKER LEGACY_IMPORT_COMPLETE, true) ∈ keyring'.log →
        ImportComplete keyring'.items := by
  have hread : ∀ keyring username answered, NoMark keyring →
      NoMark (keyring.note (.read SERVICE username) answered) :=
    fun _ username answered h => noMark_note h username answered
  unfold delete
  refine meets_ofResult_bind (fun _ hmem => absurd hmem h) fun _ _ => ?_
  refine (meets_loadPrivateAccounts.keeps (keeps_loadPrivateAccounts hread) h).bind ?_
    fun _ _ h hmem => absurd hmem h.2
  rintro previous keyring₁ ⟨⟨hitems, hprevious⟩, h₁⟩
  obtain rfl := hprevious previous rfl
  refine meets_ofResult_bind (fun _ hmem => absurd hmem h₁) fun index _ => ?_
  refine (meets_markLegacyImportComplete_noMark h₁).bind ?_ ?_
  · rintro _ keyring₂ (⟨-, hcomplete⟩ | ⟨_, h, -⟩)
    · refine (meets_removeSession accountName).bind ?_ ?_
      · rintro _ keyring₃ (⟨-, hremoved⟩ | ⟨_, h, -⟩)
        · have hcomplete₃ : ImportComplete keyring₃.items := by
            rw [hremoved]
            exact hcomplete.setItem (privateAccountKey_ne_marker _) _
          exact (meets_storeChangedAccounts_importComplete hcomplete₃ _ _ _).mono
            fun _ _ h _ => h
        · cases h
      · rintro _ keyring₃ (⟨h, -⟩ | ⟨_, -, hsame, -⟩) -
        · cases h
        · rwa [hsame]
    · cases h
  · rintro _ keyring₂ (⟨h, -⟩ | ⟨_, -, h₂⟩) hmem
    · cases h
    · exact absurd hmem h₂

/-! ## What a save leaves that writes nothing -/

/-- Nothing but reads was answered, or the items may have changed. -/
def UnlessWritten (items : Items) (keyring : Keyring) : Prop :=
  (∀ entry ∈ keyring.log, entry.2 = true → ∃ service username, entry.1 = .read service username) →
    keyring.items = items

/-- A save none of whose writes was answered leaves everything as it is. -/
theorem save_unlessWritten {serde : Serde} {refusals : Refusals} {keyring : Keyring}
    (session : SessionData) :
    UnlessWritten keyring.items ((save serde refusals session).exec keyring).2 := by
  refine keeps_save ?_ ?_ session keyring fun _ => rfl
  · intro keyring' username answered h hlog
    exact h fun entry hentry => hlog entry (List.mem_append_left _ hentry)
  · intro keyring' username value h
    constructor
    · intro hlog
      exact h fun entry hentry => hlog entry (List.mem_append_left _ hentry)
    · intro hlog
      obtain ⟨_, _, hread⟩ := hlog _ (List.mem_append_right _ (List.mem_singleton_self _)) rfl
      cases hread

/-! ## The index -/

/-- The accounts that the index can name. -/
structure Normalized (accounts : List String) : Prop where
  nodup : accounts.Nodup
  length_le : accounts.length ≤ MAX_ACCOUNTS
  valid : ∀ account ∈ accounts, validAccountName account

theorem normalized_normalizedAccounts (accounts : List String) :
    Normalized (normalizedAccounts accounts) := by
  refine ⟨?_, List.length_take_le _ _, ?_⟩
  · exact (nodup_firstOccurrences _).sublist (List.take_sublist _ _)
  · intro account haccount
    have hmem := mem_firstOccurrences.mp (List.mem_of_mem_take haccount)
    exact (List.mem_filter.mp hmem).2

theorem normalizedAccounts_sublist (accounts : List String) :
    (normalizedAccounts accounts).Sublist accounts :=
  (List.take_sublist _ _).trans ((firstOccurrences_sublist _).trans List.filter_sublist)

/-- An account that is saved comes first, and some of the others follow in their order. -/
theorem normalizedAccounts_cons {account : String} (h : validAccountName account)
    (accounts : List String) : ∃ rest, normalizedAccounts (account :: accounts) = account :: rest ∧
      rest.Sublist accounts ∧ account ∉ rest := by
  refine ⟨((firstOccurrences (accounts.filter validAccountName)).filter (· ≠ account)).take
    (MAX_ACCOUNTS - 1), ?_, ?_, ?_⟩
  · rw [normalizedAccounts, List.filter_cons_of_pos h, firstOccurrences_cons]
    rfl
  · exact (List.take_sublist _ _).trans (List.filter_sublist.trans
      ((firstOccurrences_sublist _).trans List.filter_sublist))
  · intro hmem
    have hne := (List.mem_filter.mp (List.mem_of_mem_take hmem)).2
    simp at hne

/-- The operation can save a session of the account; a load can save one that it imports. -/
def Call.MaySave (accountName : String) : Call → Prop
  | .save session => session.accountName = accountName
  | .delete _ => False
  | .loadDefault => True

/-- How an operation changes the accounts of the index. -/
inductive IndexChange (call : Call) (accounts : List String) : List String → Prop
  | unchanged : IndexChange call accounts accounts
  | saved {accountName : String} {rest : List String} (hcall : call.MaySave accountName)
    (hrest : rest.Sublist accounts) (hnew : accountName ∉ rest) :
    IndexChange call accounts (accountName :: rest)
  | deleted {accountName : String} {rest : List String} (hcall : call = .delete accountName)
    (hrest : rest.Sublist accounts) (hgone : accountName ∉ rest) : IndexChange call accounts rest

section index

variable {serde : Serde} {items items' : Items}

theorem SaveLeaves.accountsOf {session : SessionData} {outcome : Except BackendError Unit}
    (h : SaveLeaves serde session items outcome items') :
    accountsOf serde items' = accountsOf serde items ∧ outcome ≠ .ok () ∨
      validAccountName session.accountName ∧
        accountsOf serde items' = accountsSaved serde session.accountName items := by
  cases h with
  | nothing => exact .inl ⟨rfl, by simp⟩
  | session => exact .inl ⟨accountsOf_setItem serde (privateAccountKey_ne_index _) _ _, by simp⟩
  | index _ h => exact .inr ⟨h.valid, accountsOf_indexed h.index _⟩
  | all h => exact .inr ⟨h.valid, (accountsOf_marked serde _).trans (accountsOf_indexed h.index _)⟩

theorem DeleteLeaves.accountsOf {accountName : String} {outcome : Except BackendError Unit}
    (h : DeleteLeaves serde accountName items outcome items') :
    accountsOf serde items' = accountsOf serde items ∧ outcome ≠ .ok () ∨
      accountsOf serde items' = accountsLeft serde accountName items := by
  have hsession : SecretStore.accountsOf serde (withoutSession accountName items) =
      SecretStore.accountsOf serde items :=
    (accountsOf_setItem serde (privateAccountKey_ne_index _) _ _).trans (accountsOf_marked serde _)
  cases h with
  | nothing => exact .inl ⟨rfl, by simp⟩
  | mark => exact .inl ⟨accountsOf_marked serde _, by simp⟩
  | session => exact .inl ⟨hsession, by simp⟩
  | all h => exact .inr (accountsOf_indexed h.index _)

theorem CallLeaves.normalized {call : Call} (h : CallLeaves serde items call items') :
    accountsOf serde items' = accountsOf serde items ∨ Normalized (accountsOf serde items') := by
  cases h with
  | unchanged => exact .inl rfl
  | save h =>
      rcases h.accountsOf with ⟨hsame, -⟩ | ⟨-, hsaved⟩
      · exact .inl hsame
      · exact .inr (hsaved ▸ normalized_normalizedAccounts _)
  | delete h =>
      rcases h.accountsOf with ⟨hsame, -⟩ | hleft
      · exact .inl hsame
      · exact .inr (hleft ▸ normalized_normalizedAccounts _)
  | load _ _ h =>
      rcases h.accountsOf with ⟨hsame, -⟩ | ⟨-, hsaved⟩
      · exact .inl hsame
      · exact .inr (hsaved ▸ normalized_normalizedAccounts _)

theorem CallLeaves.indexChange {call : Call} (h : CallLeaves serde items call items') :
    IndexChange call (accountsOf serde items) (accountsOf serde items') := by
  have hsave : ∀ {session outcome}, SaveLeaves serde session items outcome items' →
      call.MaySave session.accountName →
        IndexChange call (SecretStore.accountsOf serde items) (SecretStore.accountsOf serde items') := by
    intro session outcome hleaves hcall
    rcases hleaves.accountsOf with ⟨hsame, -⟩ | ⟨hvalid, hsaved⟩
    · rw [hsame]
      exact .unchanged
    · obtain ⟨rest, hcons, hrest, hnew⟩ :=
        normalizedAccounts_cons hvalid (SecretStore.accountsOf serde items)
      rw [hsaved, accountsSaved, hcons]
      exact .saved hcall hrest hnew
  cases h with
  | unchanged => exact .unchanged
  | save h => exact hsave h rfl
  | load _ _ h => exact hsave h trivial
  | @delete accountName _ _ h =>
      rcases h.accountsOf with ⟨hsame, -⟩ | hleft
      · rw [hsame]
        exact .unchanged
      · rw [hleft]
        refine .deleted rfl ((normalizedAccounts_sublist _).trans List.filter_sublist) ?_
        intro hmem
        have hne := (List.mem_filter.mp ((normalizedAccounts_sublist _).subset hmem)).2
        simp at hne

/-- An index that an operation has written names no account twice. -/
theorem normalized_after (calls : List Handled) :
    accountsOf serde (itemsAfter serde calls items) = accountsOf serde items ∨
      Normalized (accountsOf serde (itemsAfter serde calls items)) := by
  refine itemsAfter_inv (I := fun items' => accountsOf serde items' = accountsOf serde items ∨
    Normalized (accountsOf serde items')) ?_ (.inl rfl)
  rintro handled - items₁ items₂ h hleaves
  rcases hleaves.normalized with hsame | hnormalized
  · rwa [hsame]
  · exact .inr hnormalized

end index

/-! ## What holds whatever is refused -/

section durable

variable (serde : Serde) (items : Items)

/-- The items and the accesses after a delete. -/
def afterDelete (refusals : Refusals) (accountName : String) : Keyring :=
  ((delete serde refusals accountName).exec { items }).2

/-- A load after a sequence of operations. -/
def loadAfter (calls : List Handled) (refusals : Refusals) :
    Except BackendError (Option SessionData) × Keyring :=
  (loadDefault serde refusals).exec { items := itemsAfter serde calls items }

/-- What users can rely on, from any content of the keyring and at any refusals. -/
structure Durable : Prop where
  signed_out : ∀ accountName refusals calls refusals',
    (.writePrivate LEGACY_IMPORT_MARKER LEGACY_IMPORT_COMPLETE, true) ∈
        (afterDelete serde items refusals accountName).log →
      NoLegacyRead
        (loadAfter serde (afterDelete serde items refusals accountName).items calls refusals').2
  removed : ∀ accountName refusals calls refusals' session,
    (.deletePrivate (privateAccountKey accountName), true) ∈
        (afterDelete serde items refusals accountName).log →
      (∀ handled ∈ calls, ¬ handled.call.Saves accountName) →
        (loadAfter serde (afterDelete serde items refusals accountName).items calls refusals').1 =
            .ok (some session) →
          session.accountName ≠ accountName
  unless_written : ∀ session refusals,
    UnlessWritten items ((save serde refusals session).exec { items }).2
  own : ∀ calls refusals session, (loadAfter serde items calls refusals).1 = .ok (some session) →
    PrivateSession serde session (itemsAfter serde calls items) ∨
      LegacySession serde session (itemsAfter serde calls items)
  normalized : ∀ calls, accountsOf serde (itemsAfter serde calls items) = accountsOf serde items ∨
    Normalized (accountsOf serde (itemsAfter serde calls items))
  changes : ∀ calls (handled : Handled), IndexChange handled.call
    (accountsOf serde (itemsAfter serde calls items))
    (accountsOf serde (handled.next serde (itemsAfter serde calls items)))
  saved_first : ∀ calls session refusals,
    ((save serde refusals session).exec { items := itemsAfter serde calls items }).1 = .ok () →
      (accountsOf serde (itemsAfter serde (calls ++ [⟨.save session, refusals⟩]) items)).head? =
        some session.accountName

end durable

variable {serde : Serde} {items : Items}

theorem loadAfter_loads (calls : List Handled) (refusals : Refusals) :
    Loads serde (itemsAfter serde calls items) (loadAfter serde items calls refusals).1
      (loadAfter serde items calls refusals).2 :=
  have hmeets : Meets (loadDefault serde refusals) { items := itemsAfter serde calls items } _ :=
    meets_loadDefault
  hmeets.outcome

/-- An absent session is not loaded. -/
theorem Absent.not_loaded {accountName : String} (h : Absent accountName items)
    {calls : List Handled} (hcalls : ∀ handled ∈ calls, ¬ handled.call.Saves accountName)
    (refusals : Refusals) {session : SessionData}
    (hload : (loadAfter serde items calls refusals).1 = .ok (some session)) :
    session.accountName ≠ accountName := by
  rintro rfl
  have hafter : Absent _ (itemsAfter serde calls items) := h.after hcalls
  rcases (loadAfter_loads calls refusals).found session hload with hprivate | ⟨hincomplete, -⟩
  · obtain ⟨raw, hraw, -⟩ := hprivate.stored
    rw [hafter.absent] at hraw
    cases hraw
  · exact hincomplete hafter.complete

theorem save_head {refusals : Refusals} {session : SessionData}
    (h : ((save serde refusals session).exec { items }).1 = .ok ()) :
    (accountsOf serde ((save serde refusals session).exec { items }).2.items).head? =
      some session.accountName := by
  have hmeets : Meets (save serde refusals session) { items } _ := meets_save session
  rcases hmeets.outcome.accountsOf with ⟨-, herror⟩ | ⟨hvalid, haccounts⟩
  · exact absurd h herror
  · obtain ⟨rest, hcons, -⟩ := normalizedAccounts_cons hvalid (accountsOf serde items)
    rw [haccounts]
    exact congrArg List.head? hcons

/-- What the user has removed stays removed, whatever is refused. -/
theorem secretStore_durable (serde : Serde) (items : Items) : Durable serde items where
  signed_out := by
    intro accountName refusals calls refusals' hmem
    have hnone : NoMark { items } := List.not_mem_nil
    have hdelete : Meets (delete serde refusals accountName) { items } _ :=
      meets_delete_marked hnone accountName
    have hcomplete : ImportComplete (itemsAfter serde calls _) := (hdelete.outcome hmem).after calls
    have hload : Meets (loadDefault serde refusals') { items := itemsAfter serde calls _ } _ :=
      hcomplete.noLegacyRead fun _ h => absurd h List.not_mem_nil
    exact hload.outcome
  removed := by
    intro accountName refusals calls refusals' session hmem hcalls hload
    have hnone : NoRemoval { items } := fun _ h => absurd h List.not_mem_nil
    have hdelete : Meets (delete serde refusals accountName) { items } _ :=
      meets_delete_removed hnone accountName
    exact (hdelete.outcome hmem).not_loaded hcalls refusals' hload
  unless_written := fun session refusals => save_unlessWritten session
  own := by
    intro calls refusals session hload
    exact ((loadAfter_loads calls refusals).found session hload).imp_right And.right
  normalized := normalized_after
  changes := fun _ handled => (callLeaves_next handled).indexChange
  saved_first := by
    intro calls session refusals hok
    have hafter : itemsAfter serde (calls ++ [⟨.save session, refusals⟩]) items =
        ((save serde refusals session).exec { items := itemsAfter serde calls items }).2.items :=
      List.foldl_append
    rw [hafter]
    exact save_head hok

/-- Sessions as the JSON text of their fields. -/
def plainSerde : Serde where
  floats := ⟨fun _ => [], fun _ => none⟩
  sessionToJson session := .ofList <| writeValue ⟨fun _ => [], fun _ => none⟩ <| .object
    [("UID", .string session.uid), ("AccessToken", .string session.accessToken),
      ("RefreshToken", .string session.refreshToken),
      ("AccountName", .string session.accountName), ("vpn", session.rest)]
  sessionFromJson json := do
    let value ← readJson ⟨fun _ => [], fun _ => none⟩ json.toList
    return { uid := ← (← value.get "UID").asStr
             accessToken := ← (← value.get "AccessToken").asStr
             refreshToken := ← (← value.get "RefreshToken").asStr
             accountName := ← (← value.get "AccountName").asStr
             rest := ← value.get "vpn" }

/-- An index that is in the keyring already names what it names. -/
theorem not_always_nodup : ¬ ∀ (serde : Serde) (items : Items) (calls : List Handled),
    (accountsOf serde (itemsAfter serde calls items)).Nodup ∧
      (accountsOf serde (itemsAfter serde calls items)).length ≤ MAX_ACCOUNTS := by
  intro h
  have hsize : (accountsToJson plainSerde ["ada", "ada"]).utf8ByteSize ≤ MAX_INDEX_BYTES := by
    decide +kernel
  obtain ⟨index, hindex⟩ := exists_encodeAccountIndex plainSerde hsize
  have haccounts : accountsOf plainSerde
      (setItem (fun _ _ => none) ACCOUNT_INDEX (some index)) = ["ada", "ada"] := by
    rw [accountsOf, setItem_self, Option.bind_some, decodeAccountIndex_encode plainSerde hindex]
    rfl
  have hnodup := (h plainSerde (setItem (fun _ _ => none) ACCOUNT_INDEX (some index)) []).1
  rw [itemsAfter, List.foldl_nil, haccounts] at hnodup
  exact absurd hnodup (by decide)

end ProtonVpnOmarchy.Agent.SecretStore
