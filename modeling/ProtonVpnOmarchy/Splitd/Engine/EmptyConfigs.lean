import ProtonVpnOmarchy.Splitd.Engine.Consistency

/-!
# Users without rules

A configuration without rules asks for nothing, and `replace_maps` leaves it out. `build_tracking`
and `handle_event` do not: while another user's rules keep the marker attached, an empty
configuration in include mode excludes every process of its user (`empty_include_excluded`), and
one in exclude mode excludes what inherits another user's match. `excluded_has_rules` says that these
two are all.
-/

namespace ProtonVpnOmarchy.Splitd

open Std (ExtTreeMap)
open Lib Lib.Fallible Bpf

/-- Configurations without rules are in exclude mode. -/
def EmptyExcludes (configs : ConfigMap) : Prop :=
  ∀ (uid : UInt16) (config : SplitConfig), configs[uid]? = some config →
    config.hasRules = false → config.mode = .exclude

/-- Users without rules exclude what matches, and nothing of theirs does. -/
def Ruled (configs : ConfigMap) (tracked : TrackedTable) : Prop :=
  ∀ (pid : UInt32) (process : TrackedProcess) (config : SplitConfig),
    tracked[pid]? = some process → configs[process.uid]? = some config →
      config.hasRules = false → config.mode = .exclude ∧ process.matched = false

/-- The scan succeeds and lists each pid once, and no process of a user without rules descends from
a match. -/
def ReconcileEnv.ScanApart (env : ReconcileEnv) (configs : ConfigMap) : Prop :=
  ∃ processes, env.scan = .ok processes ∧ (processes.map (·.pid)).Nodup ∧
    ∀ info ∈ processes, ∀ config, configs[info.uid]? = some config → config.hasRules = false →
      ¬ Matched configs processes info.pid

/-- An exec that changes a process's user to one without rules finds it unmatched. -/
def ExecApart (inner : Inner) (event : ProcessEvent) (env : EventEnv) : Prop :=
  ∀ pid info config entry, event = .exec pid → env.read pid = some info →
    inner.configs[info.uid]? = some config → config.hasRules = false →
    inner.tracked[pid]? = some entry → entry.uid ≠ info.uid → entry.matched = false

/-- With a rule in force, users without rules are in exclude mode. -/
def Inner.EmptyHarmless (inner : Inner) : Prop :=
  inner.needsMarker = true → EmptyExcludes inner.configs

/-- The request stores no empty configuration in include mode beside a rule, and no process of a
user without rules gets another user's match. -/
def Request.Apart (inner : Inner) (request : Request) : Prop :=
  (inner.retarget (request.target inner) ∅).EmptyHarmless ∧
    (∀ env, request.env? = some env →
      env.reconcile.ScanApart (request.target inner).1 ∧ env.rollback.ScanApart inner.configs) ∧
    (∀ env, request = .reconcile env → env.ScanApart inner.configs) ∧
    ∀ event env, request = .event event env → ExecApart inner event env

section tables

variable {env : ReconcileEnv} {inner : Inner} {configs : ConfigMap} {next : TrackedTable}

theorem isMatch_of_no_rules {config : SplitConfig} (hrules : config.hasRules = false)
    (hmode : config.mode = .exclude) (identities : List String) :
    config.isMatch identities = false := by
  unfold SplitConfig.hasRules SplitConfig.hasAppRules at hrules
  rw [Bool.or_eq_false_iff] at hrules
  have hpaths : (config.appPaths.filter fun path => path ≠ "") = [] := by
    rw [List.filter_eq_nil_iff]
    intro path hpath
    have hempty := List.any_eq_false.mp hrules.1 path hpath
    simpa using hempty
  unfold SplitConfig.isMatch
  rw [hpaths, hmode]
  simp

theorem ruled_buildTracking {processes : List ProcessInfo} (hempty : EmptyExcludes configs)
    (hnodup : (processes.map (·.pid)).Nodup)
    (hunmatched : ∀ info ∈ processes, ∀ config, configs[info.uid]? = some config →
      config.hasRules = false → ¬ Matched configs processes info.pid) :
    Ruled configs (buildTracking configs processes) := by
  intro pid process config hget hconfig hrules
  obtain ⟨info, hmem, config', hpid, hconfig', hprocess, hmatched⟩ :=
    (buildTracking_spec hnodup).mp hget
  have huid : process.uid = info.uid := by rw [hprocess]; rfl
  rw [huid] at hconfig
  refine ⟨hempty _ _ hconfig hrules, ?_⟩
  rw [← hpid] at hmatched
  exact Bool.eq_false_iff.mpr fun h => hunmatched info hmem config hconfig hrules (hmatched.mp h)

theorem ruled_empty (configs : ConfigMap) : Ruled configs ∅ := by
  intro pid process config hget
  simp at hget

/-- A rescan keeps users without rules apart. -/
theorem ruled_rescanTable (hharmless : inner.EmptyHarmless) (hscan : env.ScanApart inner.configs)
    (hnext : rescanTable env inner = .ok next) : Ruled inner.configs next := by
  unfold rescanTable at hnext
  obtain ⟨processes, hprocesses, hnodup, hunmatched⟩ := hscan
  by_cases htracking : inner.needsTracking = true
  · have hneeds : inner.needsMarker = true := by
      by_contra hneeds
      rw [needsTracking_of_not_needsMarker (by simpa using hneeds)] at htracking
      cases htracking
    rw [if_pos htracking, hprocesses] at hnext
    rw [← Except.ok.inj hnext]
    exact ruled_buildTracking (hharmless hneeds) hnodup hunmatched
  · rw [if_neg htracking] at hnext
    rw [← Except.ok.inj hnext]
    exact ruled_empty _

end tables

/-! ## Runs -/

section runs

variable {text : IpNetText} {inner inner' : Inner} {r : Except IoError Unit}

/-- What holds between requests. -/
structure Inner.Apart (text : IpNetText) (inner : Inner) : Prop extends inner.Consistent text where
  needed : inner.marker ≠ none → inner.needsMarker = true
  harmless : inner.EmptyHarmless
  ruled : Ruled inner.configs inner.tracked

theorem Inner.needsMarker_congr (hconfigs : inner'.configs = inner.configs)
    (hpolicies : inner'.destinationPolicies = inner.destinationPolicies) :
    inner'.needsMarker = inner.needsMarker := by
  unfold Inner.needsMarker
  rw [hconfigs, hpolicies]

/-- The marker is attached only for a rule in force. -/
theorem reconcile_needed {env : ReconcileEnv}
    (hexec : (reconcile text env).exec inner = (r, inner')) (hmarker : inner'.marker ≠ none) :
    inner'.needsMarker = true := by
  obtain ⟨hconfigs, hpolicies, -⟩ := reconcile_frame hexec
  rw [Inner.needsMarker_congr hconfigs hpolicies]
  rcases reconcile_cases hexec with ⟨-, -, rfl⟩ | ⟨hneeds, -, -, -⟩ | ⟨hneeds, -⟩
  · exact absurd rfl hmarker
  · exact hneeds
  · exact hneeds

theorem EmptyHarmless_congr (hconfigs : inner'.configs = inner.configs)
    (hpolicies : inner'.destinationPolicies = inner.destinationPolicies)
    (h : inner.EmptyHarmless) : inner'.EmptyHarmless := by
  unfold Inner.EmptyHarmless
  rw [Inner.needsMarker_congr hconfigs hpolicies, hconfigs]
  exact h

/-- The marker and the configurations after a request that changes them. -/
theorem changes_needed {env : RequestEnv} {target : ConfigMap × PolicyMap} (h : inner.Apart text)
    (htarget : (inner.retarget target ∅).EmptyHarmless)
    (hchanges : Changes text env inner target inner') :
    (inner'.marker ≠ none → inner'.needsMarker = true) ∧ inner'.EmptyHarmless := by
  cases hchanges with
  | rejected => exact ⟨h.needed, h.harmless⟩
  | saved hexec hsave =>
      obtain ⟨hconfigs, hpolicies, -⟩ := reconcile_frame hexec
      exact ⟨reconcile_needed hexec, EmptyHarmless_congr hconfigs hpolicies htarget⟩
  | @nothingToRestore bypass bypass' after r hexec _ =>
      obtain ⟨hconfigs, hpolicies, -⟩ := reconcile_frame hexec
      have hneeded : after.marker ≠ none → after.needsMarker = true := reconcile_needed hexec
      exact ⟨hneeded, EmptyHarmless_congr hconfigs hpolicies htarget⟩
  | @rolledBack bypass bypass' after r hexec hfail =>
      rcases hexec' : (reconcile text env.rollback).exec (after.retarget
        (inner.configs, inner.destinationPolicies) after.killSwitchBypass) with ⟨r', after'⟩
      obtain ⟨hconfigs, hpolicies, -⟩ := reconcile_frame hexec'
      have hneeded : after'.marker ≠ none → after'.needsMarker = true := reconcile_needed hexec'
      exact ⟨hneeded, EmptyHarmless_congr hconfigs hpolicies h.harmless⟩

theorem changes_apart {env : RequestEnv} {target : ConfigMap × PolicyMap} (h : inner.Apart text)
    (hreconcile : env.reconcile.MapsSucceed) (hrollback : env.rollback.MapsSucceed)
    (htarget : (inner.retarget target ∅).EmptyHarmless)
    (hfirst : env.reconcile.ScanApart target.1) (hsecond : env.rollback.ScanApart inner.configs)
    (hchanges : Changes text env inner target inner') : inner'.Apart text := by
  have hscan : ∃ processes, env.rollback.scan = .ok processes := by
    obtain ⟨processes, hprocesses, -⟩ := hsecond
    exact ⟨processes, hprocesses⟩
  obtain ⟨hneeded, hharmless⟩ := changes_needed h htarget hchanges
  refine ⟨changes_consistent h.toConsistent hreconcile hrollback (.inr fun _ => hscan) hchanges,
    hneeded, hharmless, ?_⟩
  refine changes_table h.toConsistent hreconcile hrollback h.ruled (ruled_empty _) ?_ ?_
    (.inr fun _ => hscan) hchanges
  · intro before next hconfigs hnext
    have hnext : rescanTable env.reconcile (inner.retarget target ∅) = .ok next := by
      rw [← hnext]
      unfold rescanTable Inner.needsTracking
      rw [hconfigs]
      rfl
    exact ruled_rescanTable htarget hfirst hnext
  · intro before next hconfigs hnext
    have hnext : rescanTable env.rollback inner = .ok next := by
      rw [← hnext]
      unfold rescanTable Inner.needsTracking
      rw [hconfigs]
    exact ruled_rescanTable h.harmless hsecond hnext

theorem reconcile_apart {env : ReconcileEnv} (h : inner.Apart text) (hmaps : env.MapsSucceed)
    (hscan : env.ScanApart inner.configs) (hexec : (reconcile text env).exec inner = (r, inner')) :
    inner'.Apart text := by
  obtain ⟨hconfigs, hpolicies, -⟩ := reconcile_frame hexec
  refine ⟨reconcile_consistent h.toConsistent hmaps hexec, reconcile_needed hexec,
    EmptyHarmless_congr hconfigs hpolicies h.harmless, ?_⟩
  obtain ⟨-, hok, hsame⟩ := reconcile_aligned hmaps h.toAligned hexec
  rw [hconfigs]
  by_cases hr : r = .ok ()
  · exact ruled_rescanTable h.harmless hscan (hok hr).1
  · rw [hsame hr]
    exact h.ruled

/-- A new entry is as ruled as the ones it comes from. -/
theorem ruled_insert {configs : ConfigMap} {tracked : TrackedTable} {pid : UInt32}
    {process : TrackedProcess} (h : Ruled configs tracked)
    (hprocess : ∀ config, configs[process.uid]? = some config → config.hasRules = false →
      config.mode = .exclude ∧ process.matched = false) :
    Ruled configs (tracked.insert pid process) := by
  intro pid' process' config hget hconfig hrules
  rw [ExtTreeMap.getElem?_insert] at hget
  split_ifs at hget
  · obtain rfl := Option.some.inj hget
    exact hprocess config hconfig hrules
  · exact h pid' process' config hget hconfig hrules

theorem ruled_erase {configs : ConfigMap} {tracked : TrackedTable} {pid : UInt32}
    (h : Ruled configs tracked) : Ruled configs (tracked.erase pid) := by
  intro pid' process config hget
  rw [ExtTreeMap.getElem?_erase] at hget
  split_ifs at hget
  exact h pid' process config hget

theorem handleEvent_ruled {env : EventEnv} {event : ProcessEvent} (h : inner.Apart text)
    (hexec' : ExecApart inner event env)
    (hexec : (handleEvent env event).exec inner = (r, inner')) :
    inner'.configs = inner.configs ∧ inner'.destinationPolicies = inner.destinationPolicies ∧
      Ruled inner.configs inner'.tracked ∧ (inner'.marker ≠ none → inner.marker ≠ none) := by
  cases hmarker : inner.marker with
  | none =>
      unfold handleEvent at hexec
      rw [exec_ofFun, hmarker] at hexec
      rw [← (Prod.mk.inj hexec).2]
      exact ⟨rfl, rfl, h.ruled, fun hne => absurd hmarker hne⟩
  | some marker =>
      have hempty := h.harmless (h.needed (by simp [hmarker]))
      rcases handleEvent_cases hmarker hexec with ⟨-, rfl⟩ | ⟨pid, -, huntrack⟩ |
        ⟨pid, config, uid, matched, hconfig, hentry, htrack⟩
      · exact ⟨rfl, rfl, h.ruled, by simp⟩
      · rcases untrack_cases huntrack with ⟨-, -, rfl⟩ | ⟨-, -, -, rfl⟩ | ⟨_, -, -, -, rfl⟩
        · exact ⟨rfl, rfl, ruled_erase h.ruled, by simp⟩
        · exact ⟨rfl, rfl, ruled_erase h.ruled, by simp⟩
        · exact ⟨rfl, rfl, ruled_erase h.ruled, by simp⟩
      · rcases track_cases htrack with ⟨-, -, rfl⟩ | ⟨error, -, -, rfl⟩
        · refine ⟨rfl, rfl, ruled_insert h.ruled ?_, by simp⟩
          intro config' hconfig' hrules
          obtain rfl := Option.some.inj (hconfig.symm.trans hconfig')
          have hmode := hempty uid config hconfig hrules
          refine ⟨hmode, ?_⟩
          rcases hentry with ⟨parent, -, hforked⟩ | ⟨rfl, info, hread, rfl, hmatched⟩
          · rcases forkedProcess_cases hforked with ⟨entry, config', hparent, hconfig'', hprocess⟩ |
              ⟨-, info, config', -, hconfig'', hprocess⟩
            · obtain ⟨huid, hmatched, -⟩ := TrackedProcess.mk.inj hprocess
              change matched = false
              rw [hmatched]
              exact (h.ruled parent entry config hparent (huid ▸ hconfig) hrules).2
            · obtain ⟨huid, hmatched, -⟩ := TrackedProcess.mk.inj hprocess
              rw [← huid, hconfig] at hconfig''
              obtain rfl := Option.some.inj hconfig''
              exact hmatched.trans (isMatch_of_no_rules hrules hmode _)
          · change matched = false
            rw [hmatched, isMatch_of_no_rules hrules hmode, Bool.or_false]
            cases hget : inner.tracked[pid]? with
            | none => rfl
            | some entry =>
                by_cases huid : entry.uid = info.uid
                · exact (h.ruled pid entry config hget (huid ▸ hconfig) hrules).2
                · exact hexec' pid info config entry rfl hread hconfig hrules hget huid
        · exact ⟨rfl, rfl, h.ruled, by simp⟩

theorem perform_apart {request : Request} (h : inner.Apart text) (hmaps : request.MapsSucceed)
    (hapart : request.Apart inner) : ((request.perform text).exec inner).2.Apart text := by
  obtain ⟨htarget, hscans, hscan, hexec⟩ := hapart
  rcases request with ⟨uid, config, env⟩ | ⟨uid, env⟩ | ⟨uid, ranges, env⟩ | env | ⟨event, env⟩
  · obtain ⟨hfirst, hsecond⟩ := hscans env rfl
    exact changes_apart h hmaps.1 hmaps.2 htarget hfirst hsecond (perform_changes rfl inner)
  · obtain ⟨hfirst, hsecond⟩ := hscans env rfl
    exact changes_apart h hmaps.1 hmaps.2 htarget hfirst hsecond (perform_changes rfl inner)
  · obtain ⟨hfirst, hsecond⟩ := hscans env rfl
    exact changes_apart h hmaps.1 hmaps.2 htarget hfirst hsecond (perform_changes rfl inner)
  · exact reconcile_apart h hmaps (hscan env rfl) rfl
  · change ((handleEvent env event).exec inner).2.Apart text
    rcases hevent : (handleEvent env event).exec inner with ⟨r, inner'⟩
    obtain ⟨hconfigs, hpolicies, hruled, hmarker⟩ :=
      handleEvent_ruled h (hexec event env rfl) hevent
    refine ⟨handleEvent_consistent h.toConsistent hmaps hevent, ?_,
      EmptyHarmless_congr hconfigs hpolicies h.harmless, by rwa [hconfigs]⟩
    intro hne
    rw [Inner.needsMarker_congr hconfigs hpolicies]
    exact h.needed (hmarker hne)

theorem apart_of_reachable
    (hreach : inner.Reachable text
      (fun inner env => env.MapsSucceed ∧ inner.EmptyHarmless ∧ env.ScanApart inner.configs)
      fun inner request => request.MapsSucceed ∧ request.Apart inner) : inner.Apart text := by
  induction hreach with
  | @new configs policies env inner hstart hok =>
      obtain ⟨hmaps, hharmless, hscan⟩ := hstart
      obtain ⟨hconfigs, hpolicies, -⟩ := reconcile_frame hok
      obtain ⟨-, hok', -⟩ := reconcile_aligned hmaps (aligned_start configs policies) hok
      refine ⟨consistent_new hmaps hok, reconcile_needed hok,
        EmptyHarmless_congr hconfigs hpolicies hharmless, ?_⟩
      rw [hconfigs]
      exact ruled_rescanTable hharmless hscan (hok' rfl).1
  | step hreach hrequest ih => exact perform_apart ih hrequest.1 hrequest.2

/-- **Only users with rules have excluded processes, in every run** in which no empty configuration
in include mode stands beside a rule, and no process of a user without rules gets another user's
match by descent or by an exec. -/
theorem excluded_has_rules
    (hreach : inner.Reachable text
      (fun inner env => env.MapsSucceed ∧ inner.EmptyHarmless ∧ env.ScanApart inner.configs)
      fun inner request => request.MapsSucceed ∧ request.Apart inner)
    (marker : SocketMarker) (hmarker : inner.marker = some marker) :
    ∀ pid ∈ marker.pidMap, ∃ process config, inner.tracked[pid]? = some process ∧
      inner.configs[process.uid]? = some config ∧ config.hasRules = true := by
  have h := apart_of_reachable hreach
  intro pid hpid
  rw [← Inner.pidMap_of_marker hmarker, h.pids, isExcluded_iff] at hpid
  obtain ⟨process, hprocess, hexcluded⟩ := hpid
  obtain ⟨config, hconfig, hflag⟩ := h.current pid process hprocess
  refine ⟨process, config, hprocess, hconfig, ?_⟩
  by_contra hrules
  obtain ⟨hmode, hmatched⟩ := h.ruled pid process config hprocess hconfig (by simpa using hrules)
  simp [hflag, SplitConfig.excludes, hmode, hmatched] at hexcluded

/-! ### Sample runs -/

/-- One user excludes an application; another user's configuration is empty, in mode `mode`. -/
def besideEmpty (mode : SplitMode) : ConfigMap :=
  (oneApplication .exclude).insert 1001 { mode := mode, appPaths := [], ipRanges := [] }

/-- A process of the user with the empty configuration. -/
def curl : ProcessInfo :=
  { uid := 1001, pid := 20, ppid := 1, identities := ["/usr/bin/curl"] }

/-- A new engine with both users' processes running. -/
def besideEmptyStart (mode : SplitMode) : Inner :=
  ((reconcile decimalText (quietRescan (.ok [firefox, curl]))).exec
    { configs := besideEmpty mode }).2

theorem besideEmpty_cases {mode : SplitMode} {uid : UInt16} {config : SplitConfig}
    (h : (besideEmpty mode)[uid]? = some config) (hrules : config.hasRules = false) :
    uid = 1001 ∧ config.mode = mode := by
  unfold besideEmpty oneApplication at h
  rw [ExtTreeMap.getElem?_insert, ExtTreeMap.getElem?_insert] at h
  split_ifs at h with huid huid'
  · rw [← Option.some.inj h]
    exact ⟨(Std.LawfulEqCmp.eq_of_compare huid).symm, rfl⟩
  · rw [← Option.some.inj h] at hrules
    exact absurd hrules (by decide)
  · simp at h

/-- Of these processes only the application is matched. -/
theorem not_matched_curl :
    ¬ Matched (besideEmpty .exclude) [firefox, curl] curl.pid := by
  intro h
  have hflag := flags_complete (by decide) h
  revert hflag
  decide +kernel

theorem excluded_has_rules_besideEmpty :
    ∃ marker, (besideEmptyStart .exclude).marker = some marker ∧ (10 : UInt32) ∈ marker.pidMap ∧
      ∀ pid ∈ marker.pidMap, ∃ process config,
        (besideEmptyStart .exclude).tracked[pid]? = some process ∧
          (besideEmptyStart .exclude).configs[process.uid]? = some config ∧
          config.hasRules = true := by
  have hpid : (besideEmptyStart .exclude).marker.any
      fun marker => decide ((10 : UInt32) ∈ marker.pidMap) := by decide +kernel
  obtain ⟨marker, hmarker, hpid⟩ := (Option.any_eq_true _ _).mp hpid
  refine ⟨marker, hmarker, by simpa using hpid, ?_⟩
  have hscan : (quietRescan (.ok [firefox, curl])).ScanApart (besideEmpty .exclude) := by
    refine ⟨[firefox, curl], rfl, by decide, ?_⟩
    intro info hinfo config hconfig hrules
    have huid := (besideEmpty_cases hconfig hrules).1
    rcases List.mem_pair.mp hinfo with rfl | rfl
    · cases huid
    · exact not_matched_curl
  refine excluded_has_rules (.new ⟨quietRescan_mapsSucceed (.ok [firefox, curl]), ?_, hscan⟩
    (Prod.ext (by decide +kernel) rfl)) marker hmarker
  intro _ uid config hget hrules
  exact (besideEmpty_cases hget hrules).2

/-- The user with the empty configuration in include mode has a process excluded. -/
theorem empty_include_excluded :
    (besideEmptyStart .include).Reachable decimalText
        (fun _ env => env.MapsSucceed ∧ ∃ processes, env.scan = .ok processes)
        (fun _ request => request.MapsSucceed) ∧
      ∃ marker, (besideEmptyStart .include).marker = some marker ∧ (20 : UInt32) ∈ marker.pidMap ∧
        ∃ process config, (besideEmptyStart .include).tracked[(20 : UInt32)]? = some process ∧
          (besideEmptyStart .include).configs[process.uid]? = some config ∧
          config.appPaths = [] ∧ config.ipRanges = [] := by
  have hpid : (besideEmptyStart .include).marker.any
      fun marker => decide ((20 : UInt32) ∈ marker.pidMap) := by decide +kernel
  obtain ⟨marker, hmarker, hpid⟩ := (Option.any_eq_true _ _).mp hpid
  refine ⟨.new ⟨quietRescan_mapsSucceed (.ok [firefox, curl]), _, rfl⟩
    (Prod.ext (by decide +kernel) rfl), marker, hmarker, by simpa using hpid,
    ⟨1001, false, true⟩, { mode := .include, appPaths := [], ipRanges := [] }, ?_, ?_, rfl, rfl⟩
  · decide +kernel
  · decide +kernel

end runs

end ProtonVpnOmarchy.Splitd
