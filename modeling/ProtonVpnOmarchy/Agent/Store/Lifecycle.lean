import ProtonVpnOmarchy.Agent.Store.Rejections
import ProtonVpnOmarchy.Agent.Store.Seeding

/-!
# The lifecycle file and the autostart

The onboarding data of the store is written to a second file, and one of its switches registers the
autostart. `mutate` writes the second file when one of four fields changes; the file has six.

* `Describes` — the store file, the lifecycle file and the autostart have one onboarding record.
* `files_in_sync` — as long as a changed notification switch comes with a change of another field,
  rejected requests leave the record alone, and taking back a change succeeds, they always have.
* `lifecycle_out_of_sync` — a change of a notification switch alone is not written.
-/

namespace ProtonVpnOmarchy.Agent.Store

open Lib Lib.Fallible Splitd
open Std (ExtTreeMap)

/-! ## What is compared -/

/-- The files have this onboarding record. -/
structure Describes (files : Files) (onboarding : Onboarding) : Prop where
  store : files.store.map StoreFile.onboarding = some onboarding
  lifecycle : files.lifecycle = some onboarding
  autostart : files.autostart = some onboarding.startWithOmarchy

/-- The agent connects at its start only if it is started. -/
def AutoStarts (onboarding : Onboarding) : Prop :=
  onboarding.autoConnect = true → onboarding.startWithOmarchy = true

/-- The four fields decide, if the notification switches are the same. -/
theorem eq_of_not_lifecycleChanged {previous onboarding : Onboarding}
    (h : lifecycleChanged previous onboarding = false)
    (hnotifications : onboarding.notificationsEnabled = previous.notificationsEnabled)
    (hforwarding : onboarding.portForwardingNotificationsEnabled =
      previous.portForwardingNotificationsEnabled) : onboarding = previous := by
  unfold lifecycleChanged at h
  simp only [Bool.or_eq_false_iff, decide_eq_false_iff_not, not_not] at h
  obtain ⟨⟨⟨hcomplete, hlocale⟩, hstart⟩, hauto⟩ := h
  exact Onboarding.ext hcomplete hlocale hstart hauto hnotifications hforwarding

/-! ## Changes of the onboarding data -/

/-- The record after the first three fields of `preferences.set`. -/
def withSwitches (onboarding : Onboarding) (locale : Option String) (start auto : Option Bool) :
    Onboarding :=
  reconcileSwitches { onboarding with
    locale := locale.getD onboarding.locale
    startWithOmarchy := start.getD onboarding.startWithOmarchy
    autoConnect := auto.getD onboarding.autoConnect }

/-- A notification switch is changed only together with another field. -/
def SwitchesReachLifecycle (onboarding : Onboarding) (object : Map) : Prop :=
  ∀ locale start auto notifications forwarding,
    given object "locale" (fun value => localeValue (some value)) = .ok locale →
    given object "start_with_omarchy" (readFlag "start_with_omarchy") = .ok start →
    given object "auto_connect" (readFlag "auto_connect") = .ok auto →
    given object "notifications_enabled" (readFlag "notifications_enabled") = .ok notifications →
    given object "port_forwarding_notifications_enabled"
      (readFlag "port_forwarding_notifications_enabled") = .ok forwarding →
    (notifications.getD onboarding.notificationsEnabled = onboarding.notificationsEnabled ∧
      forwarding.getD onboarding.portForwardingNotificationsEnabled =
        onboarding.portForwardingNotificationsEnabled) ∨
      lifecycleChanged onboarding (withSwitches onboarding locale start auto) = true

theorem exec_setPreference {α : Type} {object : Map} {key : String} {read : Value → StoreResult α}
    {write : Onboarding → α → Onboarding} {data data' : StoreFile} {done : Unit}
    (current : Onboarding → α)
    (hcurrent : ∀ onboarding, write onboarding (current onboarding) = onboarding)
    (h : (setPreference object key read write).exec data = (.ok done, data')) :
    ∃ value, given object key read = .ok value ∧ data' = { data with
      onboarding := write data.onboarding (value.getD (current data.onboarding)) } := by
  unfold setPreference at h
  unfold given
  rcases hget : object.get key with _ | value
  · rw [hget] at h
    obtain ⟨-, rfl⟩ := Prod.mk.inj h
    refine ⟨none, rfl, ?_⟩
    rw [Option.getD_none, hcurrent]
  · rw [hget] at h
    rcases exec_liftResult_bind h with ⟨_, -, herror, -⟩ | ⟨a, ha, h⟩
    · cases herror
    · obtain ⟨-, rfl⟩ := Prod.mk.inj h
      refine ⟨some a, ?_, rfl⟩
      show (read value).map some = _
      rw [ha]
      rfl

/-- The dependent switches are apart from the notifications. -/
theorem reconcileSwitches_notifications (onboarding : Onboarding) (notifications forwarding : Bool) :
    reconcileSwitches { onboarding with
        notificationsEnabled := notifications
        portForwardingNotificationsEnabled := forwarding } =
      { reconcileSwitches onboarding with
        notificationsEnabled := notifications
        portForwardingNotificationsEnabled := forwarding } := by
  unfold reconcileSwitches
  dsimp only
  split_ifs
  all_goals rfl

/-- What `preferences.set` makes of the record. -/
theorem exec_setPreferences {params value : Value} {object : Map} {data data' : StoreFile}
    (hobject : params.asObject = some object)
    (h : (setPreferences params).exec data = (.ok value, data')) :
    ∃ locale start auto notifications forwarding,
      given object "locale" (fun value => localeValue (some value)) = .ok locale ∧
      given object "start_with_omarchy" (readFlag "start_with_omarchy") = .ok start ∧
      given object "auto_connect" (readFlag "auto_connect") = .ok auto ∧
      given object "notifications_enabled" (readFlag "notifications_enabled") =
        .ok notifications ∧
      given object "port_forwarding_notifications_enabled"
        (readFlag "port_forwarding_notifications_enabled") = .ok forwarding ∧
      data' = { data with
        onboarding := { withSwitches data.onboarding locale start auto with
          notificationsEnabled := notifications.getD data.onboarding.notificationsEnabled
          portForwardingNotificationsEnabled :=
            forwarding.getD data.onboarding.portForwardingNotificationsEnabled } } := by
  unfold setPreferences at h
  rw [objectParams_eq hobject] at h
  obtain ⟨_, _, ⟨⟩, h⟩ := exec_bind_eq_ok h
  obtain ⟨_, _, hstep, h⟩ := exec_bind_eq_ok h
  obtain ⟨locale, hlocale, rfl⟩ := exec_setPreference Onboarding.locale (fun _ => rfl) hstep
  obtain ⟨_, _, hstep, h⟩ := exec_bind_eq_ok h
  obtain ⟨start, hstart, rfl⟩ := exec_setPreference Onboarding.startWithOmarchy (fun _ => rfl) hstep
  obtain ⟨_, _, hstep, h⟩ := exec_bind_eq_ok h
  obtain ⟨auto, hauto, rfl⟩ := exec_setPreference Onboarding.autoConnect (fun _ => rfl) hstep
  obtain ⟨_, _, hstep, h⟩ := exec_bind_eq_ok h
  obtain ⟨notifications, hnotifications, rfl⟩ :=
    exec_setPreference Onboarding.notificationsEnabled (fun _ => rfl) hstep
  obtain ⟨_, _, hstep, h⟩ := exec_bind_eq_ok h
  obtain ⟨forwarding, hforwarding, rfl⟩ :=
    exec_setPreference Onboarding.portForwardingNotificationsEnabled (fun _ => rfl) hstep
  obtain ⟨-, rfl⟩ := Prod.mk.inj h
  refine ⟨locale, start, auto, notifications, forwarding, hlocale, hstart, hauto, hnotifications,
    hforwarding, ?_⟩
  unfold withSwitches
  dsimp only
  rw [reconcileSwitches_notifications { data.onboarding with
    locale := locale.getD data.onboarding.locale
    startWithOmarchy := start.getD data.onboarding.startWithOmarchy
    autoConnect := auto.getD data.onboarding.autoConnect }]

theorem autoStarts_reconcileSwitches (onboarding : Onboarding) :
    AutoStarts (reconcileSwitches onboarding) := by
  unfold AutoStarts reconcileSwitches
  dsimp only
  split_ifs
  all_goals simp_all

/-- The record before and after a change that succeeds: what is not written to the lifecycle file
is the same. -/
structure Tracked (previous onboarding : Onboarding) : Prop where
  autoStarts : AutoStarts previous → AutoStarts onboarding
  same : lifecycleChanged previous onboarding = false → onboarding = previous

theorem Tracked.refl (onboarding : Onboarding) : Tracked onboarding onboarding :=
  ⟨fun h => h, fun _ => rfl⟩

theorem tracked_setPreferences {params value : Value} {object : Map} {data data' : StoreFile}
    (hobject : params.asObject = some object)
    (hreach : SwitchesReachLifecycle data.onboarding object)
    (h : (setPreferences params).exec data = (.ok value, data')) :
    Tracked data.onboarding data'.onboarding := by
  obtain ⟨locale, start, auto, notifications, forwarding, hlocale, hstart, hauto, hnotifications,
    hforwarding, rfl⟩ := exec_setPreferences hobject h
  refine ⟨fun _ => autoStarts_reconcileSwitches _, fun hsame => ?_⟩
  rcases hreach locale start auto notifications forwarding hlocale hstart hauto hnotifications
    hforwarding with ⟨hkept, hkept'⟩ | hchanged
  · exact eq_of_not_lifecycleChanged hsame hkept hkept'
  · have hsame' : lifecycleChanged data.onboarding
        (withSwitches data.onboarding locale start auto) = false := hsame
    rw [hsame'] at hchanged
    cases hchanged

theorem tracked_completeOnboarding {params value : Value} {data data' : StoreFile}
    (h : (completeOnboarding params).exec data = (.ok value, data')) :
    Tracked data.onboarding data'.onboarding := by
  unfold completeOnboarding at h
  rcases exec_liftResult_bind h with ⟨_, -, herror, -⟩ | ⟨object, -, h⟩
  · cases herror
  rcases exec_liftResult_bind h with ⟨_, -, herror, -⟩ | ⟨locale, -, h⟩
  · cases herror
  obtain ⟨_, _, ⟨⟩, h⟩ := exec_bind_eq_ok h
  rcases exec_liftResult_bind h with ⟨_, -, herror, -⟩ | ⟨start, -, h⟩
  · cases herror
  obtain ⟨_, _, ⟨⟩, h⟩ := exec_bind_eq_ok h
  rcases exec_liftResult_bind h with ⟨_, -, herror, -⟩ | ⟨auto, -, h⟩
  · cases herror
  obtain ⟨_, _, ⟨⟩, h⟩ := exec_bind_eq_ok h
  obtain ⟨-, rfl⟩ := Prod.mk.inj h
  refine ⟨fun _ => ?_, fun hsame => eq_of_not_lifecycleChanged hsame rfl rfl⟩
  intro hauto
  exact Bool.or_eq_true_iff.mpr (.inr hauto)

/-! ## Files -/

/-- If a write fails after the store was saved, taking the change back succeeds. -/
def RollsBack (disk : Disk) (data : StoreFile) : Prop :=
  disk.fails 1 ≠ none ∨ disk.fails 4 ≠ none →
    disk.fails 2 = none ∧ disk.fails 3 = none ∧ disk.fails 5 = none ∧
      disk.size data ≤ MAX_STORE_BYTES

theorem restoreFiles_eq {disk : Disk} {previous : StoreFile} (h : disk.fails 2 = none)
    (h' : disk.fails 3 = none) (hsize : disk.size previous ≤ MAX_STORE_BYTES) (files : Files) :
    restoreFiles disk previous files =
      { files with store := some previous, lifecycle := some previous.onboarding } := by
  simp [restoreFiles, attempt, saveStore, saveLifecycle, write, h, h', Nat.not_lt.mpr hsize]

theorem saveStore_ok {disk : Disk} {n : ℕ} {data : StoreFile} {files files' : Files}
    (h : saveStore disk n data files = .ok files') : files' = { files with store := some data } := by
  unfold saveStore write at h
  split_ifs at h
  split at h
  · cases h
  · exact (Except.ok.inj h).symm

/-- A write of the lifecycle file or of the autostart. -/
theorem write_cases {disk : Disk} {n : ℕ} {files : Files} {result : Except String Files}
    (h : write disk n files = result) :
    (∃ error, result = .error error ∧ disk.fails n ≠ none) ∨ result = .ok files := by
  unfold write at h
  split at h
  · rename_i error herror
    exact .inl ⟨error, h.symm, by rw [herror]; exact Option.some_ne_none error⟩
  · exact .inr h.symm

/-- The files after `mutate` has saved the data, or has taken the change back. -/
theorem persist_describes {disk : Disk} {previous data : StoreFile} {files files' : Files}
    {error : Option String} (hfiles : Describes files previous.onboarding)
    (htracked : Tracked previous.onboarding data.onboarding)
    (hback : data.onboarding ≠ previous.onboarding → RollsBack disk previous)
    (h : persist disk previous data files = (error, files')) :
    Describes files' (if error.isNone then data.onboarding else previous.onboarding) := by
  unfold persist at h
  rcases hsaved : saveStore disk 0 data files with failure | files₁
  · rw [hsaved] at h
    obtain ⟨rfl, rfl⟩ := Prod.mk.inj h
    exact hfiles
  rw [hsaved] at h
  obtain rfl := saveStore_ok hsaved
  dsimp only at h
  by_cases hchanged : lifecycleChanged previous.onboarding data.onboarding = true
  · rw [if_pos hchanged] at h
    have hback : RollsBack disk previous := hback fun hsame => by
      rw [hsame] at hchanged
      simp [lifecycleChanged] at hchanged
    rcases write_cases (rfl : saveLifecycle disk 1 data.onboarding _ = _) with
      ⟨failure, hfailed, hfails⟩ | hwritten
    · rw [hfailed] at h
      obtain ⟨rfl, rfl⟩ := Prod.mk.inj h
      obtain ⟨hstore, hlifecycle, -, hsize⟩ := hback (.inl hfails)
      rw [restoreFiles_eq hstore hlifecycle hsize]
      exact ⟨rfl, rfl, hfiles.autostart⟩
    rw [hwritten] at h
    dsimp only at h
    by_cases hstart : data.onboarding.startWithOmarchy = previous.onboarding.startWithOmarchy
    · rw [if_neg (not_not.mpr hstart)] at h
      obtain ⟨rfl, rfl⟩ := Prod.mk.inj h
      refine ⟨rfl, rfl, ?_⟩
      show files.autostart = some data.onboarding.startWithOmarchy
      rw [hstart]
      exact hfiles.autostart
    · rw [if_pos hstart] at h
      rcases write_cases (rfl : syncAutostartRegistration disk 4 _ _ = _) with
        ⟨failure, hfailed, hfails⟩ | hwritten
      · rw [hfailed] at h
        obtain ⟨rfl, rfl⟩ := Prod.mk.inj h
        obtain ⟨hstore, hlifecycle, hautostart, hsize⟩ := hback (.inr hfails)
        rw [restoreFiles_eq hstore hlifecycle hsize]
        simp only [attempt, syncAutostartRegistration, write, hautostart]
        exact ⟨rfl, rfl, rfl⟩
      · rw [hwritten] at h
        obtain ⟨rfl, rfl⟩ := Prod.mk.inj h
        exact ⟨rfl, rfl, rfl⟩
  · -- Without a change of the four fields the record is the same.
    have hsame := htracked.same (Bool.eq_false_iff.mpr hchanged)
    rw [if_neg hchanged] at h
    dsimp only at h
    rw [if_neg (by rw [hsame]; exact fun h => h rfl)] at h
    obtain ⟨rfl, rfl⟩ := Prod.mk.inj h
    rw [hsame]
    refine ⟨?_, hfiles.lifecycle, hfiles.autostart⟩
    exact congrArg some hsame

/-- The files after an open that succeeds. -/
theorem persistOpened_describes {disk : Disk} {data : StoreFile} {changed : Bool}
    {files files' : Files}
    (hstore : files.store.isSome → files.store.map StoreFile.onboarding = some data.onboarding)
    (h : persistOpened disk data changed files = (none, files')) :
    Describes files' data.onboarding := by
  unfold persistOpened at h
  split at h
  · cases h
  rename_i files₁ hsaved
  have hstore₁ : files₁.store.map StoreFile.onboarding = some data.onboarding := by
    split_ifs at hsaved with hsaves
    · rw [saveStore_ok hsaved]
      rfl
    · obtain rfl := Except.ok.inj hsaved
      refine hstore ?_
      rw [not_or, Option.isNone_iff_eq_none] at hsaves
      exact Option.isSome_iff_ne_none.mpr hsaves.1
  rcases write_cases (rfl : saveLifecycle disk 1 data.onboarding files₁ = _) with
    ⟨failure, hfailed, -⟩ | hwritten
  · rw [hfailed] at h
    cases h
  rw [hwritten] at h
  rcases write_cases (rfl : syncAutostartRegistration disk 2 data.onboarding.startWithOmarchy
    { files₁ with lifecycle := some data.onboarding } = _) with ⟨failure, hfailed, -⟩ | hwritten
  · simp only [hfailed] at h
    cases h
  · simp only [hwritten] at h
    obtain ⟨-, rfl⟩ := Prod.mk.inj h
    exact ⟨hstore₁, rfl, rfl⟩

/-! ## Requests -/

/-- The requests that keep the files in step. -/
def StaysInStep (disk : Disk) (data : StoreFile) (method : String) (params : Value) : Prop :=
  ∀ object, params.asObject = some object →
    match method with
    | "onboarding.complete" => RollsBack disk data ∧
        changesLast (onboardingChecks data.onboarding object) = true
    | "preferences.set" => RollsBack disk data ∧
        changesLast (preferenceChecks data.onboarding object) = true ∧
        SwitchesReachLifecycle data.onboarding object
    | _ => True

/-- Without an object nothing is changed. -/
theorem exec_objectParams_bind {params value : Value} {data data' : StoreFile}
    {change : Map → Mutation Value}
    (h : (liftResult (objectParams params) >>= change).exec data = (.ok value, data')) :
    ∃ object, params.asObject = some object := by
  rcases exec_liftResult_bind h with ⟨_, -, herror, -⟩ | ⟨object, hobject, -⟩
  · cases herror
  · exact ⟨object, okOrElse_eq_ok hobject⟩

theorem leavesNothing_of_not_object {params : Value} {change : Map → Mutation Value}
    (h : params.asObject = none) (data : StoreFile) :
    LeavesNothing (liftResult (objectParams params) >>= change) data := by
  rw [leavesNothing_liftResult_bind_iff]
  intro object hobject
  rw [okOrElse_eq_ok hobject] at h
  cases h

/-- What a change makes of the record: if it fails, nothing, and else what the lifecycle file can
follow. -/
structure InStep (disk : Disk) (data : StoreFile) (change : Mutation Value) : Prop where
  fails : ∀ error data', change.exec data = (.error error, data') →
    data'.onboarding = data.onboarding
  tracked : ∀ value data', change.exec data = (.ok value, data') →
    Tracked data.onboarding data'.onboarding
  rollsBack : ∀ value data', change.exec data = (.ok value, data') →
    data'.onboarding ≠ data.onboarding → RollsBack disk data

theorem StaysInStep.inStep {disk : Disk} {data : StoreFile} {clock : ℕ → UInt64} {method : String}
    {params : Value} {change : Mutation Value} (h : StaysInStep disk data method params)
    (hmutation : mutation clock method params = some change) : InStep disk data change := by
  by_cases hcomplete : method = "onboarding.complete"
  · subst hcomplete
    obtain rfl := Option.some.inj hmutation
    refine ⟨fun error data' hexec => ?_, fun _ _ hexec => tracked_completeOnboarding hexec, ?_⟩
    · have hnothing : LeavesNothing (completeOnboarding params) data := by
        rcases hobject : params.asObject with _ | object
        · exact leavesNothing_of_not_object hobject data
        · exact (leavesNothing_completeOnboarding_iff hobject).mpr (h object hobject).2
      rw [hnothing error data' hexec]
    · intro value data' hexec _
      obtain ⟨object, hobject⟩ := exec_objectParams_bind hexec
      exact (h object hobject).1
  by_cases hset : method = "preferences.set"
  · subst hset
    obtain rfl := Option.some.inj hmutation
    refine ⟨fun error data' hexec => ?_, fun value data' hexec => ?_, ?_⟩
    · have hnothing : LeavesNothing (setPreferences params) data := by
        rcases hobject : params.asObject with _ | object
        · exact leavesNothing_of_not_object hobject data
        · exact (leavesNothing_setPreferences_iff hobject).mpr (h object hobject).2.1
      rw [hnothing error data' hexec]
    · obtain ⟨object, hobject⟩ := exec_objectParams_bind hexec
      exact tracked_setPreferences hobject (h object hobject).2.2 hexec
    · intro value data' hexec _
      obtain ⟨object, hobject⟩ := exec_objectParams_bind hexec
      exact (h object hobject).1
  · have hkeeps : Keeps (fun data' => data'.onboarding = data.onboarding) change :=
      keeps_accountMutation (fun _ _ h => h) hmutation hcomplete hset
    refine ⟨fun error data' hexec => hkeeps.of_exec rfl hexec, fun value data' hexec => ?_,
      fun value data' hexec hchanged => absurd (hkeeps.of_exec rfl hexec) hchanged⟩
    rw [hkeeps.of_exec rfl hexec]
    exact .refl _

/-- The record in memory and the files after a request. -/
theorem InStep.mutate {disk : Disk} {data : StoreFile} {files : Files} {change : Mutation Value}
    (h : InStep disk data change) (hfiles : Describes files data.onboarding)
    (hauto : AutoStarts data.onboarding) :
    let after := mutate disk change ⟨data, files⟩
    Describes after.2.files after.2.data.onboarding ∧ AutoStarts after.2.data.onboarding ∧
      ((∃ error, after.1 = .error error) → after.2.data.onboarding = data.onboarding) := by
  dsimp only
  unfold Store.mutate
  dsimp only
  rcases hexec : change.exec data with ⟨error | value, data'⟩
  · dsimp only
    rw [h.fails error data' hexec]
    exact ⟨hfiles, hauto, fun _ => rfl⟩
  · dsimp only
    have htracked := h.tracked value data' hexec
    have hdescribes := fun files' error => @persist_describes disk data
      { data' with revision := data'.revision + 1 } files files' error hfiles htracked
      (h.rollsBack value data' hexec)
    rcases hsaved : persist disk data { data' with revision := data'.revision + 1 } files with
      ⟨_ | failure, files'⟩
    · exact ⟨hdescribes _ _ hsaved, htracked.autoStarts hauto,
        fun ⟨_, herror⟩ => nomatch herror⟩
    · exact ⟨hdescribes _ _ hsaved, hauto, fun _ => rfl⟩

theorem requestInner_describes {disk : Disk} {data : StoreFile} {files : Files}
    {clock : ℕ → UInt64} {method : String} {params : Value}
    (h : StaysInStep disk data method params) (hfiles : Describes files data.onboarding)
    (hauto : AutoStarts data.onboarding) :
    let after := requestInner disk clock method params ⟨data, files⟩
    Describes after.2.files after.2.data.onboarding ∧ AutoStarts after.2.data.onboarding ∧
      ((∃ error, after.1 = .error error) → after.2.data.onboarding = data.onboarding) := by
  dsimp only
  unfold requestInner
  dsimp only
  rcases query method params data with _ | result
  · rcases hmutation : mutation clock method params with _ | change
    · exact ⟨hfiles, hauto, fun _ => rfl⟩
    · exact (h.inStep hmutation).mutate hfiles hauto
  · exact ⟨hfiles, hauto, fun _ => rfl⟩

/-! ## Activations and opens -/

theorem seedOfficial_onboarding (clock : ℕ → UInt64) (key : String) (data : StoreFile) :
    (seedOfficial clock key data).onboarding = data.onboarding := by
  obtain ⟨-, hmarked, hseeded⟩ := exec_seedOfficial clock key data
  by_cases h : key ∈ data.migration.officialDefaultProfilesSeededForAccounts
  · rw [hmarked h]
  · obtain ⟨profiles, -, heq⟩ := hseeded h
    rw [heq]

theorem seedFastest_onboarding (clock : ℕ → UInt64) (key : String) (data : StoreFile) :
    (seedFastest clock key data).onboarding = data.onboarding := by
  obtain ⟨-, hmarked, hseeded⟩ := exec_seedFastest clock key data
  by_cases h : key ∈ data.migration.fastestDefaultProfileSeededForAccounts
  · rw [hmarked h]
  · obtain ⟨profile, -, heq⟩ := hseeded h
    rw [heq]

theorem opened_onboarding (clock : String → ℕ → UInt64) (data : StoreFile) :
    (opened clock data).onboarding = data.onboarding := by
  have hofficial : (data.accounts.keys.foldl
      (fun data key => seedOfficial (clock key) key data) data).onboarding = data.onboarding :=
    List.foldlRecOn (motive := fun after => after.onboarding = data.onboarding) _ _ rfl
      fun after hafter key _ => (seedOfficial_onboarding _ _ after).trans hafter
  exact List.foldlRecOn (motive := fun after => after.onboarding = data.onboarding) _ _ hofficial
    fun after hafter key _ => (seedFastest_onboarding _ _ after).trans hafter

/-- The record in memory and the files after an activation. -/
theorem activateAccount_describes {disk : Disk} {data : StoreFile} {files : Files}
    {clock : ℕ → UInt64} {lowercase : String → String} {accountName : Option String}
    (hfiles : Describes files data.onboarding) :
    let after := (activateAccount disk clock lowercase accountName ⟨data, files⟩).2
    Describes after.files after.data.onboarding ∧ after.data.onboarding = data.onboarding := by
  dsimp only
  unfold activateAccount
  split
  · exact ⟨hfiles, rfl⟩
  · dsimp only
    split_ifs
    · exact ⟨hfiles, rfl⟩
    · rw [exec_activation]
      dsimp only
      split
      · exact ⟨hfiles, rfl⟩
      · rename_i files' hsaved
        obtain rfl := saveStore_ok hsaved
        have hsame : ∀ key, (seedFastest clock key (seedOfficial clock key
            (adoptLegacy key data))).onboarding = data.onboarding := fun key => by
          rw [seedFastest_onboarding, seedOfficial_onboarding, (adoptLegacy_same key data).1]
        dsimp only
        rw [hsame]
        exact ⟨⟨rfl, hfiles.lifecycle, hfiles.autostart⟩, rfl⟩

/-- The record that an open starts with is that of the file, or a new one. -/
theorem initialData_onboarding {disk : Disk} {legacy : Option Value} {files : Files}
    {data : StoreFile} (h : initialData disk legacy files = .ok data) :
    files.store = some data ∨ files.store = none ∧ data.onboarding = {} := by
  unfold initialData at h
  split at h
  · rename_i stored hstore
    unfold loadStore at h
    split_ifs at h
    obtain rfl := Except.ok.inj h
    exact .inl hstore
  · rename_i hstore
    obtain rfl := Except.ok.inj h
    refine .inr ⟨hstore, ?_⟩
    unfold importLegacy
    split
    · rfl
    · dsimp only
      split_ifs
      · rfl
      · rfl

/-! ## Runs -/

/-- The events that keep the files in step. -/
def StaysInSync (world : World) : Event → Prop
  | .request disk _ method params => ∀ data ∈ world.memory, StaysInStep disk data method params
  | _ => True

/-- The files describe the record in memory. -/
structure InSync (world : World) : Prop where
  stored : ∀ data ∈ world.files.store, AutoStarts data.onboarding
  described : ∀ data ∈ world.memory, Describes world.files data.onboarding
  autoStarts : ∀ data ∈ world.memory, AutoStarts data.onboarding

/-- An open store is in step if its files describe its record. -/
theorem InSync.of_describes {data : StoreFile} {files : Files}
    (hfiles : Describes files data.onboarding) (hauto : AutoStarts data.onboarding) :
    InSync ⟨some data, files⟩ where
  stored := by
    intro stored hstored
    have hstore := hfiles.store
    rw [show files.store = some stored from hstored] at hstore
    rw [Option.some.inj hstore]
    exact hauto
  described := fun _ h => Option.some.inj h ▸ hfiles
  autoStarts := fun _ h => Option.some.inj h ▸ hauto

theorem InSync.restart {world : World} (h : InSync world) (disk : Disk)
    (clock : String → ℕ → UInt64) (legacy : Option Value) :
    InSync (world.step (.restart disk clock legacy)) := by
  unfold World.step
  dsimp only
  unfold openStore
  rcases hinitial : initialData disk legacy world.files with error | data
  · exact ⟨h.stored, nofun, nofun⟩
  obtain ⟨changed, hexec⟩ := exec_opening clock data
  have hauto : AutoStarts (opened clock data).onboarding := by
    rw [opened_onboarding]
    rcases initialData_onboarding hinitial with hstore | ⟨-, hfresh⟩
    · exact h.stored data hstore
    · rw [hfresh]
      exact nofun
  dsimp only
  rw [hexec]
  dsimp only
  rcases hsaved : persistOpened disk (opened clock data) changed world.files with
    ⟨_ | error, files'⟩
  · refine .of_describes (persistOpened_describes ?_ hsaved) hauto
    intro hsome
    rcases initialData_onboarding hinitial with hstore | ⟨hnone, -⟩
    · rw [hstore, opened_onboarding]
      rfl
    · rw [hnone] at hsome
      cases hsome
  · -- A failed open leaves the store closed, with the old or the new data in its file.
    refine ⟨?_, nofun, nofun⟩
    have hstored : (persistOpened disk (opened clock data) changed world.files).2.Holds
        fun data => AutoStarts data.onboarding := by
      refine persistOpened_store (R := fun store => ∀ data ∈ store, AutoStarts data.onboarding)
        (fun _ stored hmem => ?_) h.stored
      rw [← Option.some.inj hmem]
      exact hauto
    rw [hsaved] at hstored
    exact hstored

/-- One event. -/
theorem InSync.step {world : World} (h : InSync world) (event : Event)
    (hallowed : StaysInSync world event) : InSync (world.step event) := by
  cases event with
  | request disk clock method params =>
      obtain ⟨_ | data, files⟩ := world
      · exact h
      · obtain ⟨hfiles, hauto, -⟩ := requestInner_describes (hallowed data rfl)
          (h.described data rfl) (h.autoStarts data rfl)
        exact .of_describes hfiles hauto
  | activate disk clock lowercase accountName =>
      obtain ⟨_ | data, files⟩ := world
      · exact h
      · obtain ⟨hfiles, hsame⟩ := activateAccount_describes (h.described data rfl)
        refine .of_describes hfiles ?_
        rw [hsame]
        exact h.autoStarts data rfl
  | restart disk clock legacy => exact h.restart disk clock legacy

/-- **The store file, the lifecycle file and the autostart have the record in memory, as long as a
changed notification switch comes with a change of another field, rejected requests leave the
record alone, and taking back a change succeeds. A request that fails leaves them at the record
from before.** -/
theorem files_in_sync {world : World} (h : Reachable StaysInSync {} world) :
    (∀ data ∈ world.memory, Describes world.files data.onboarding ∧ AutoStarts data.onboarding) ∧
      ∀ data ∈ world.memory, ∀ disk clock method params error,
        StaysInSync world (.request disk clock method params) →
        (requestInner disk clock method params ⟨data, world.files⟩).1 = .error error →
        Describes (requestInner disk clock method params ⟨data, world.files⟩).2.files
          data.onboarding := by
  have hsync : InSync world := by
    induction h with
    | start => exact ⟨nofun, nofun, nofun⟩
    | step event _ hallowed ih => exact ih.step event hallowed
  refine ⟨fun data hdata => ⟨hsync.described data hdata, hsync.autoStarts data hdata⟩, ?_⟩
  intro data hdata disk clock method params error hallowed herror
  obtain ⟨hfiles, -, hsame⟩ := requestInner_describes (hallowed data hdata)
    (hsync.described data hdata) (hsync.autoStarts data hdata)
  rw [hsame ⟨error, herror⟩] at hfiles
  exact hfiles

/-- Notifications are switched off together with a change of the language. -/
theorem files_in_sync_language :
    let world := World.step (World.step {} firstOpen) (requestAt 1 "preferences.set"
      [("locale", .string "de"), ("notifications_enabled", .bool false)])
    (∀ data ∈ world.memory, Describes world.files data.onboarding ∧
        AutoStarts data.onboarding) ∧
      world.files.lifecycle.map (fun onboarding => onboarding.notificationsEnabled) =
        some false := by
  have honboarding : (World.step {} firstOpen).memory.map StoreFile.onboarding =
      some ({} : Onboarding) := by decide +kernel
  have hallowed : StaysInSync (World.step {} firstOpen) (requestAt 1 "preferences.set"
      [("locale", .string "de"), ("notifications_enabled", .bool false)]) := by
    intro data hdata object hobject
    rw [hdata] at honboarding
    obtain rfl := Option.some.inj hobject
    rw [Option.some.inj honboarding]
    refine ⟨fun hfails => ⟨rfl, rfl, rfl, Nat.zero_le _⟩, by decide +kernel, ?_⟩
    intro locale start auto _ _ hlocale hstart hauto _ _
    obtain rfl := Except.ok.inj ((by decide +kernel :
      given _ "locale" (fun value => localeValue (some value)) = .ok (some "de")).symm.trans hlocale)
    obtain rfl := Except.ok.inj hstart
    obtain rfl := Except.ok.inj hauto
    exact .inr (by decide +kernel)
  exact ⟨(files_in_sync (.step _ (.step firstOpen .start trivial) hallowed)).1, by decide +kernel⟩

/-- **After notifications alone were switched off, the lifecycle file still has them on.** -/
theorem lifecycle_out_of_sync :
    ¬ ∀ world, Reachable (fun _ _ => True) {} world → ∀ data ∈ world.memory,
      ∀ disk clock method params value,
        (requestInner disk clock method params ⟨data, world.files⟩).1 = .ok value →
        let state := (requestInner disk clock method params ⟨data, world.files⟩).2
        Describes state.files state.data.onboarding := by
  intro h
  have hfacts : ((World.step {} firstOpen).memory.map fun data =>
      let done := requestInner quietDisk (fun _ => 1) "preferences.set"
        (.object [("notifications_enabled", .bool false)]) ⟨data, (World.step {} firstOpen).files⟩
      decide (done.1 = .ok (.obj [("updated", .bool true)])) &&
        decide (done.2.files.lifecycle ≠ some done.2.data.onboarding)) = some true := by
    decide +kernel
  obtain ⟨data, hmemory, hfacts⟩ := Option.map_eq_some_iff.mp hfacts
  simp only [Bool.and_eq_true, decide_eq_true_eq] at hfacts
  obtain ⟨hdone, hne⟩ := hfacts
  have hdescribes := h _ (.step firstOpen .start trivial) data hmemory _ _ _ _ _ hdone
  exact hne hdescribes.lifecycle

end ProtonVpnOmarchy.Agent.Store
