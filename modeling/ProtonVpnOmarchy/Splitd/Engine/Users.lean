import ProtonVpnOmarchy.Splitd.Engine.EmptyConfigs

/-!
# One user's configuration and another user's processes

Two engines see the same processes and the same events; their configurations agree on one user
only. `twins_same` says when that user's processes fare the same in both: no match crosses from
another user's process to one of this user's, by descent in a scan or by an exec, and the two track
processes at all or not. `inherited_from_another_user` is a match that crosses.
-/

namespace ProtonVpnOmarchy.Splitd

open Std (ExtTreeMap)
open Lib Lib.Fallible Bpf

/-! ## Scans -/

section scans

variable {uid : UInt16} {config : SplitConfig} {configs configs₁ configs₂ : ConfigMap}
  {processes : List ProcessInfo} {pid : UInt32}

/-- Where a process of `uid` that does not match by itself has a parent of another user, that parent
is matched under both configurations or under neither. -/
def ScanIndependent (uid : UInt16) (config : SplitConfig) (configs₁ configs₂ : ConfigMap)
    (processes : List ProcessInfo) : Prop :=
  ∀ info ∈ processes, info.uid = uid → config.isMatch info.identities = false →
    ∀ parent ∈ processes, parent.pid = info.ppid → parent.uid ≠ uid →
      (Matched configs₁ processes parent.pid ↔ Matched configs₂ processes parent.pid)

theorem ScanIndependent.symm (h : ScanIndependent uid config configs₁ configs₂ processes) :
    ScanIndependent uid config configs₂ configs₁ processes :=
  fun info hinfo huid hmatch parent hparent hpid hne =>
    (h info hinfo huid hmatch parent hparent hpid hne).symm

theorem Matched.exists_mem (h : Matched configs processes pid) :
    ∃ info ∈ processes, info.pid = pid := by
  cases h with
  | direct hmem => exact ⟨_, hmem, rfl⟩
  | inherited hmem => exact ⟨_, hmem, rfl⟩

/-- A match of a process of `uid` does not depend on the other users' configurations. -/
theorem Matched.transfer (hnodup : (processes.map (·.pid)).Nodup)
    (hconfig₁ : configs₁[uid]? = some config) (hconfig₂ : configs₂[uid]? = some config)
    (hindependent : ScanIndependent uid config configs₁ configs₂ processes)
    (h : Matched configs₁ processes pid) :
    ∀ info ∈ processes, info.pid = pid → info.uid = uid → Matched configs₂ processes pid := by
  induction h with
  | @direct info' config' hmem hconfig' hmatch =>
      intro info hinfo hpid huid
      obtain rfl := eq_of_pid hnodup hinfo hmem hpid
      rw [huid, hconfig₁] at hconfig'
      obtain rfl := Option.some.inj hconfig'
      exact .direct hmem (huid ▸ hconfig₂) hmatch
  | @inherited info' config' hmem hconfig' hparent ih =>
      intro info hinfo hpid huid
      obtain rfl := eq_of_pid hnodup hinfo hmem hpid
      by_cases hmatch : config.isMatch info.identities = true
      · exact .direct hmem (huid ▸ hconfig₂) hmatch
      refine .inherited hmem (huid ▸ hconfig₂) ?_
      obtain ⟨parent, hparent', hppid⟩ := hparent.exists_mem
      by_cases hother : parent.uid = uid
      · exact ih parent hparent' hppid hother
      · rw [← hppid] at hparent ⊢
        exact (hindependent info hinfo huid (by simpa using hmatch) parent hparent' hppid
          hother).mp hparent

/-- The entry of a process of `uid` in the table of a scan. -/
theorem buildTracking_transfer {entry : TrackedProcess} (hnodup : (processes.map (·.pid)).Nodup)
    (hconfig₁ : configs₁[uid]? = some config) (hconfig₂ : configs₂[uid]? = some config)
    (hindependent : ScanIndependent uid config configs₁ configs₂ processes)
    (huid : entry.uid = uid) (h : (buildTracking configs₁ processes)[pid]? = some entry) :
    (buildTracking configs₂ processes)[pid]? = some entry := by
  obtain ⟨info, hmem, config', rfl, hconfig', hentry, hmatched⟩ := (buildTracking_spec hnodup).mp h
  have hinfo : info.uid = uid := by
    rw [← huid, hentry]
    rfl
  rw [hinfo, hconfig₁] at hconfig'
  obtain rfl := Option.some.inj hconfig'
  refine (buildTracking_spec hnodup).mpr ⟨info, hmem, config, rfl, hinfo ▸ hconfig₂, hentry, ?_⟩
  rw [hmatched]
  constructor
  · exact fun h => h.transfer hnodup hconfig₁ hconfig₂ hindependent info hmem rfl hinfo
  · exact fun h => h.transfer hnodup hconfig₂ hconfig₁ hindependent.symm info hmem rfl hinfo

end scans

/-! ## Events -/

section events

variable {uid : UInt16} {config : SplitConfig} {inner₁ inner₂ : Inner} {env : EventEnv}
  {event : ProcessEvent}

/-- The same entries of processes of `uid`. -/
def SameFor (uid : UInt16) (tracked₁ tracked₂ : TrackedTable) : Prop :=
  ∀ (pid : UInt32) (entry : TrackedProcess), entry.uid = uid →
    (tracked₁[pid]? = some entry ↔ tracked₂[pid]? = some entry)

/-- The process is tracked as another user's, with a match. -/
def CarriesMatch (uid : UInt16) (tracked : TrackedTable) (pid : UInt32) : Prop :=
  ∃ entry, tracked[pid]? = some entry ∧ entry.uid ≠ uid ∧ entry.matched = true

/-- What an event must not do for the tables to stay the same for `uid`: fork a process of `uid`
from a parent that only one engine tracks, or with the pid of one; or make a process `uid`'s by an
exec, with another user's match in only one engine. -/
def EventIndependent (uid : UInt16) (config : SplitConfig) (tracked₁ tracked₂ : TrackedTable)
    (env : EventEnv) : ProcessEvent → Prop
  | .fork parent child =>
    (∀ info, env.read child = some info → info.uid = uid →
      (tracked₁[parent]?.isSome = tracked₂[parent]?.isSome)) ∧
      ∀ entry, tracked₁[child]? = some entry → entry.uid ≠ uid
  | .exec pid => ∀ info, env.read pid = some info → info.uid = uid →
      config.isMatch info.identities = false →
      (CarriesMatch uid tracked₁ pid ↔ CarriesMatch uid tracked₂ pid)
  | .exit _ => True

theorem SameFor.symm {tracked₁ tracked₂ : TrackedTable} (h : SameFor uid tracked₁ tracked₂) :
    SameFor uid tracked₂ tracked₁ :=
  fun pid entry huid => (h pid entry huid).symm

theorem EventIndependent.symm {tracked₁ tracked₂ : TrackedTable} (h : SameFor uid tracked₁ tracked₂)
    (hevent : EventIndependent uid config tracked₁ tracked₂ env event) :
    EventIndependent uid config tracked₂ tracked₁ env event := by
  rcases event with ⟨parent, child⟩ | pid | pid
  · refine ⟨fun info hread huid => (hevent.1 info hread huid).symm, ?_⟩
    intro entry hget huid
    exact hevent.2 entry ((h child entry huid).mpr hget) huid
  · exact fun info hread huid hmatch => (hevent info hread huid hmatch).symm
  · exact hevent

/-- A flag carried into an exec is the same in both tables. -/
theorem any_matched_eq {tracked₁ tracked₂ : TrackedTable} {pid : UInt32}
    (h : SameFor uid tracked₁ tracked₂)
    (hcarries : CarriesMatch uid tracked₁ pid ↔ CarriesMatch uid tracked₂ pid) :
    tracked₁[pid]?.any (·.matched) = tracked₂[pid]?.any (·.matched) := by
  have himp : ∀ {tracked₁ tracked₂ : TrackedTable}, SameFor uid tracked₁ tracked₂ →
      (CarriesMatch uid tracked₁ pid ↔ CarriesMatch uid tracked₂ pid) →
      tracked₁[pid]?.any (·.matched) = true → tracked₂[pid]?.any (·.matched) = true := by
    intro tracked₁ tracked₂ h hcarries hany
    obtain ⟨entry, hget, hmatched⟩ := (Option.any_eq_true _ _).mp hany
    by_cases huid : entry.uid = uid
    · rw [(h pid entry huid).mp hget]
      exact hmatched
    · obtain ⟨entry', hget', -, hmatched'⟩ := hcarries.mp ⟨entry, hget, huid, hmatched⟩
      rw [hget']
      exact hmatched'
  exact Bool.eq_iff_iff.mpr ⟨himp h hcarries, himp h.symm hcarries.symm⟩

/-- A fork tracks a process of `uid` alike in both engines. -/
theorem forkedProcess_transfer (hconfig₁ : inner₁.configs[uid]? = some config)
    (hconfig₂ : inner₂.configs[uid]? = some config)
    (h : SameFor uid inner₁.tracked inner₂.tracked) {parent child : UInt32}
    (hparent : ∀ info, env.read child = some info → info.uid = uid →
      (inner₁.tracked[parent]?.isSome = inner₂.tracked[parent]?.isSome))
    {process : TrackedProcess} (huid : process.uid = uid)
    (hforked : forkedProcess env inner₁ parent child = some process) :
    forkedProcess env inner₂ parent child = some process := by
  unfold forkedProcess
  rcases forkedProcess_cases hforked with ⟨entry, config', hget, hconfig', rfl⟩ |
    ⟨hnone, info, config', hread, hconfig', rfl⟩
  · change entry.uid = uid at huid
    rw [huid, hconfig₁] at hconfig'
    obtain rfl := Option.some.inj hconfig'
    rw [(h parent entry huid).mp hget]
    simp [huid, hconfig₂]
  · change info.uid = uid at huid
    rw [huid, hconfig₁] at hconfig'
    obtain rfl := Option.some.inj hconfig'
    have hnone₂ : inner₂.tracked[parent]? = none := by
      have hsome := hparent info hread huid
      rw [hnone] at hsome
      exact Option.not_isSome_iff_eq_none.mp (by rw [← hsome]; simp)
    rw [hnone₂]
    simp [hread, huid, hconfig₂]

/-- An event tracks a process of `uid` alike in both engines. -/
theorem eventTable_transfer (hconfig₁ : inner₁.configs[uid]? = some config)
    (hconfig₂ : inner₂.configs[uid]? = some config)
    (h : SameFor uid inner₁.tracked inner₂.tracked)
    (hevent : EventIndependent uid config inner₁.tracked inner₂.tracked env event)
    {pid : UInt32} {entry : TrackedProcess} (huid : entry.uid = uid)
    (hget : (eventTable env inner₁ event)[pid]? = some entry) :
    (eventTable env inner₂ event)[pid]? = some entry := by
  by_cases hpid : event.subject = pid
  swap
  · rw [eventTable_of_ne hpid] at hget ⊢
    exact (h pid entry huid).mp hget
  rcases event with ⟨parent, child⟩ | pid' | pid'
  · obtain rfl : child = pid := hpid
    simp only [eventTable] at hget ⊢
    cases hforked : forkedProcess env inner₁ parent child with
    | none =>
        rw [hforked] at hget
        exact absurd huid (hevent.2 entry hget)
    | some process =>
        simp only [hforked, ExtTreeMap.getElem?_insert_self, Option.some.injEq] at hget
        rw [← hget] at huid
        rw [forkedProcess_transfer hconfig₁ hconfig₂ h hevent.1 huid hforked]
        simp [hget]
  · obtain rfl : pid' = pid := hpid
    simp only [eventTable] at hget ⊢
    cases hread : env.read pid' with
    | none =>
        simp only [hread] at hget
        exact (h pid' entry huid).mp hget
    | some info =>
        simp only [hread] at hget ⊢
        cases hconfig : inner₁.configs[info.uid]? with
        | none => simp [hconfig] at hget
        | some config' =>
            simp only [hconfig, ExtTreeMap.getElem?_insert_self, Option.some.injEq] at hget
            have hinfo : info.uid = uid := by
              rw [← huid, ← hget]
              rfl
            rw [hinfo, hconfig₁] at hconfig
            obtain rfl := Option.some.inj hconfig
            rw [hinfo, hconfig₂]
            simp only [ExtTreeMap.getElem?_insert_self, Option.some.injEq]
            rw [← hget, hinfo]
            by_cases hmatch : config.isMatch info.identities = true
            · simp [hmatch]
            · rw [any_matched_eq h (hevent info hread hinfo (by simpa using hmatch))]
  · obtain rfl : pid' = pid := hpid
    simp [eventTable] at hget

end events

/-! ## Two runs -/

section runs

variable {text : IpNetText} {uid : UInt16} {config : SplitConfig} {inner₁ inner₂ : Inner}

/-- Two engines with `config` for `uid`, a marker attached, and arbitrary configurations for other
users, that rescanned the same processes and have seen the same events since. -/
inductive Twins (text : IpNetText) (uid : UInt16) (config : SplitConfig) : Inner → Inner → Prop
  | rescan {before₁ before₂ after₁ after₂ : Inner} {env₁ env₂ : ReconcileEnv}
      {processes : List ProcessInfo}
      (hconfig₁ : before₁.configs[uid]? = some config)
      (hconfig₂ : before₂.configs[uid]? = some config)
      (hscan₁ : env₁.scan = .ok processes) (hscan₂ : env₂.scan = .ok processes)
      (hok₁ : (reconcile text env₁).exec before₁ = (.ok (), after₁))
      (hok₂ : (reconcile text env₂).exec before₂ = (.ok (), after₂))
      (hmarker₁ : after₁.marker ≠ none) (hmarker₂ : after₂.marker ≠ none)
      (hdistinct : (processes.map (·.pid)).Nodup)
      (htracking : before₁.needsTracking = before₂.needsTracking)
      (hindependent : before₁.needsTracking = true →
        ScanIndependent uid config before₁.configs before₂.configs processes) :
      Twins text uid config after₁ after₂
  | event {inner₁ inner₂ : Inner} {env : EventEnv} {event : ProcessEvent}
      (htwins : Twins text uid config inner₁ inner₂) (hpids : ∀ n op, env.pids n op = none)
      (hindependent : EventIndependent uid config inner₁.tracked inner₂.tracked env event) :
      Twins text uid config ((handleEvent env event).exec inner₁).2
        ((handleEvent env event).exec inner₂).2

/-- Both engines are attached, and agree on `uid`. -/
theorem twins_inv (htwins : Twins text uid config inner₁ inner₂) :
    inner₁.marker ≠ none ∧ inner₂.marker ≠ none ∧ inner₁.configs[uid]? = some config ∧
      inner₂.configs[uid]? = some config ∧ SameFor uid inner₁.tracked inner₂.tracked := by
  induction htwins with
  | @rescan before₁ before₂ after₁ after₂ env₁ env₂ processes hconfig₁ hconfig₂ hscan₁ hscan₂ hok₁
      hok₂ hmarker₁ hmarker₂ hdistinct htracking hindependent =>
      have htable₁ := reconcile_ok_table hok₁
      have htable₂ := reconcile_ok_table hok₂
      rw [← (reconcile_frame hok₁).1] at hconfig₁
      rw [← (reconcile_frame hok₂).1] at hconfig₂
      refine ⟨hmarker₁, hmarker₂, hconfig₁, hconfig₂, ?_⟩
      rw [(reconcile_frame hok₁).1] at hconfig₁
      rw [(reconcile_frame hok₂).1] at hconfig₂
      unfold rescanTable at htable₁ htable₂
      by_cases hneeds : before₁.needsTracking = true
      · rw [if_pos hneeds, hscan₁] at htable₁
        rw [if_pos (htracking ▸ hneeds), hscan₂] at htable₂
        rw [← Except.ok.inj htable₁, ← Except.ok.inj htable₂]
        have hindependent := hindependent hneeds
        intro pid entry huid
        constructor
        · exact buildTracking_transfer hdistinct hconfig₁ hconfig₂ hindependent huid
        · exact buildTracking_transfer hdistinct hconfig₂ hconfig₁ hindependent.symm huid
      · rw [if_neg hneeds] at htable₁
        rw [if_neg (htracking ▸ hneeds)] at htable₂
        rw [← Except.ok.inj htable₁, ← Except.ok.inj htable₂]
        exact fun _ _ _ => Iff.rfl
  | @event inner₁ inner₂ env event htwins hpids hindependent ih =>
      obtain ⟨hmarker₁, hmarker₂, hconfig₁, hconfig₂, hsame⟩ := ih
      obtain ⟨marker₁, hmarker₁⟩ := Option.ne_none_iff_exists'.mp hmarker₁
      obtain ⟨marker₂, hmarker₂⟩ := Option.ne_none_iff_exists'.mp hmarker₂
      obtain ⟨marker₁', hexec₁⟩ := handleEvent_eq hmarker₁ hpids event
      obtain ⟨marker₂', hexec₂⟩ := handleEvent_eq hmarker₂ hpids event
      rw [hexec₁, hexec₂]
      refine ⟨by simp, by simp, hconfig₁, hconfig₂, ?_⟩
      intro pid entry huid
      constructor
      · exact eventTable_transfer hconfig₁ hconfig₂ hsame hindependent huid
      · exact eventTable_transfer hconfig₂ hconfig₁ hsame.symm (hindependent.symm hsame) huid

/-- **One user's configuration does not decide about another user's processes**, in every pair of
runs in which no match crosses from another user's process to one of this user's. -/
theorem twins_same (htwins : Twins text uid config inner₁ inner₂) (pid : UInt32)
    (entry : TrackedProcess) (huid : entry.uid = uid) :
    inner₁.tracked[pid]? = some entry ↔ inner₂.tracked[pid]? = some entry := by
  obtain ⟨-, -, -, -, hsame⟩ := twins_inv htwins
  exact hsame pid entry huid

/-! ### Sample runs -/

def excludePath (path : String) : SplitConfig :=
  { mode := .exclude, appPaths := [path], ipRanges := [] }

/-- User 1000 excludes the application `path`, user 1001 another one. -/
def twoUsers (path : String) : ConfigMap :=
  ((∅ : ConfigMap).insert 1000 (excludePath path)).insert 1001 (excludePath "/usr/bin/wget")

/-- The engine after a scan that finds `processes`. -/
def afterScan (path : String) (processes : List ProcessInfo) : Except IoError Unit × Inner :=
  (reconcile decimalText (quietRescan (.ok processes))).exec { configs := twoUsers path }

theorem twins_same_unrelated :
    (afterScan "/usr/bin/firefox" [firefox, curl]).2.tracked[(20 : UInt32)]? =
        some ⟨1001, false, false⟩ ↔
      (afterScan "/usr/bin/other" [firefox, curl]).2.tracked[(20 : UInt32)]? =
        some ⟨1001, false, false⟩ := by
  have hindependent : ∀ configs₁ configs₂,
      ScanIndependent 1001 (excludePath "/usr/bin/wget") configs₁ configs₂ [firefox, curl] := by
    intro configs₁ configs₂ info hinfo huid _ parent hparent hpid _
    rcases List.mem_pair.mp hinfo with rfl | rfl
    · exact absurd huid (by decide)
    · rcases List.mem_pair.mp hparent with rfl | rfl
      · exact absurd hpid (by decide)
      · exact absurd hpid (by decide)
  have htwins : Twins decimalText 1001 (excludePath "/usr/bin/wget")
      (afterScan "/usr/bin/firefox" [firefox, curl]).2
      (afterScan "/usr/bin/other" [firefox, curl]).2 := by
    refine .rescan (by decide +kernel) (by decide +kernel) rfl rfl
      (Prod.ext (by decide +kernel) rfl) (Prod.ext (by decide +kernel) rfl) ?_ ?_ (by decide)
      (by decide +kernel) fun _ => hindependent _ _
    · exact Option.isSome_iff_ne_none.mp (by decide +kernel)
    · exact Option.isSome_iff_ne_none.mp (by decide +kernel)
  exact twins_same htwins 20 _ rfl

/-- A process of user 1001 started by user 1000's application, as with `su`. -/
def curlOfFirefox : ProcessInfo := { curl with ppid := 10 }

/-- User 1000's configuration decides whether user 1001's process leaves the VPN. -/
theorem inherited_from_another_user :
    (twoUsers "/usr/bin/firefox")[(1001 : UInt16)]? = (twoUsers "/usr/bin/other")[(1001 : UInt16)]? ∧
      (afterScan "/usr/bin/firefox" [firefox, curlOfFirefox]).1 = .ok () ∧
      (afterScan "/usr/bin/other" [firefox, curlOfFirefox]).1 = .ok () ∧
      (afterScan "/usr/bin/firefox" [firefox, curlOfFirefox]).2.marker.isSome ∧
      (afterScan "/usr/bin/other" [firefox, curlOfFirefox]).2.marker.isSome ∧
      (afterScan "/usr/bin/firefox" [firefox, curlOfFirefox]).2.tracked[(20 : UInt32)]? =
        some ⟨1001, true, true⟩ ∧
      (afterScan "/usr/bin/other" [firefox, curlOfFirefox]).2.tracked[(20 : UInt32)]? =
        some ⟨1001, false, false⟩ := by
  refine ⟨?_, ?_, ?_, ?_, ?_, ?_, ?_⟩
  · decide +kernel
  · decide +kernel
  · decide +kernel
  · decide +kernel
  · decide +kernel
  · decide +kernel
  · decide +kernel

end runs

end ProtonVpnOmarchy.Splitd
