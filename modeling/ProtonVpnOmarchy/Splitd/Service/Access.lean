import ProtonVpnOmarchy.Splitd.Engine.Consistency
import ProtonVpnOmarchy.Splitd.Service.Loadable
import ProtonVpnOmarchy.Splitd.StateText

/-!
# Users and their entries

A user has a configuration, a destination policy and routes past the kill switch. Only a call that the
daemon accepts from that user, or from root, changes one of them.

* `call_frame` — a call changes the entries of one user.
* `owner_changes` — over a run of the daemon, the entries of a user change by accepted calls only.
* `replies_confined` — what a user is told depends on the entries of that user.
-/

namespace ProtonVpnOmarchy.Splitd.Service

open Std (ExtTreeMap)
open Lib Lib.Fallible Bpf StateStore

/-! ## The entries of a user -/

/-- The entries of a user are the same. -/
structure SameFor (uid : UInt16) (inner inner' : Inner) : Prop where
  config : inner'.configs[uid]? = inner.configs[uid]?
  policy : inner'.destinationPolicies[uid]? = inner.destinationPolicies[uid]?
  routes : inner'.killSwitchBypass[uid]? = inner.killSwitchBypass[uid]?

theorem SameFor.rfl {uid : UInt16} {inner : Inner} : SameFor uid inner inner where
  config := Eq.refl _
  policy := Eq.refl _
  routes := Eq.refl _

theorem SameFor.trans {uid : UInt16} {inner inner' inner'' : Inner} (h : SameFor uid inner inner')
    (h' : SameFor uid inner' inner'') : SameFor uid inner inner'' where
  config := h'.config.trans h.config
  policy := h'.policy.trans h.policy
  routes := h'.routes.trans h.routes

section requests

variable {text : IpNetText} {inner inner' after : Inner} {env : RequestEnv} {uid other : UInt16}

theorem getElem?_insert_other {V : Type} (map : ExtTreeMap UInt16 V) (value : V)
    (hne : uid ≠ other) : (map.insert uid value)[other]? = map[other]? := by
  simp [ExtTreeMap.getElem?_insert, hne]

theorem getElem?_erase_other {V : Type} (map : ExtTreeMap UInt16 V) (hne : uid ≠ other) :
    (map.erase uid)[other]? = map[other]? := by
  simp [ExtTreeMap.getElem?_erase, hne]

theorem getElem?_restoreEntry_other {V : Type} (map : ExtTreeMap UInt16 V) (previous : Option V)
    (hne : uid ≠ other) : (restoreEntry map uid previous)[other]? = map[other]? := by
  cases previous
  · exact getElem?_erase_other map hne
  · exact getElem?_insert_other map _ hne

theorem sameFor_reconcile (env : ReconcileEnv) (inner : Inner) :
    SameFor other inner ((reconcile text env).exec inner).2 := by
  obtain ⟨hconfigs, hpolicies, hbypass⟩ := frame_reconcile text env inner
  exact ⟨by rw [hconfigs], by rw [hpolicies], by rw [hbypass]⟩

theorem sameFor_of_exec {env : ReconcileEnv} {r : Except IoError Unit}
    (hexec : (reconcile text env).exec inner = (r, after)) : SameFor other inner after := by
  have hsame : SameFor other inner ((reconcile text env).exec inner).2 := sameFor_reconcile env inner
  rwa [hexec] at hsame

theorem sameFor_reconcileAndSave {r : Except IoError Unit}
    (hexec : (reconcileAndSave text env).exec inner = (r, after)) : SameFor other inner after := by
  obtain ⟨r', hreconcile, -⟩ := reconcileAndSave_cases hexec
  exact sameFor_of_exec hreconcile

theorem sameFor_removeBypass (hne : uid ≠ other) {bypass : Option (List PhysicalRoute)}
    (h : removeBypass env uid bypass inner = .ok inner') : SameFor other inner inner' := by
  obtain rfl := removeBypass_spec h
  refine ⟨rfl, rfl, ?_⟩
  dsimp only
  split_ifs
  · exact getElem?_erase_other _ hne
  · rfl

theorem sameFor_restoreBypass (hne : uid ≠ other) (bypass : Option (List PhysicalRoute))
    (inner : Inner) : SameFor other inner (restoreBypass env uid bypass inner) := by
  unfold restoreBypass
  split
  · exact ⟨rfl, rfl, getElem?_insert_other _ _ hne⟩
  · exact .rfl

/-- What a request leaves behind for another user, and what it saves -/
def LeavesSame (text : IpNetText) (other : UInt16) (inner : Inner) (request : Request) : Prop :=
  SameFor other inner ((request.perform text).exec inner).2 ∧
    ∀ state, saved text inner request = some state → SameFor other inner state

theorem leavesSame_setConfig (hne : uid ≠ other) (config : SplitConfig) :
    LeavesSame text other inner (.setConfig uid config env) := by
  unfold LeavesSame Request.perform saved setConfig
  dsimp only
  rw [exec_ofFun]
  by_cases hfull : inner.full uid = true
  · rw [if_pos hfull, if_pos hfull]
    exact ⟨.rfl, fun state hstate => by cases hstate⟩
  rw [if_neg hfull, if_neg hfull]
  generalize (if env.routingEnabled && !config.hasRules then inner.killSwitchBypass[uid]? else none) =
    bypass
  rcases hremove : removeBypass env uid bypass inner with error | removed
  · exact ⟨.rfl, fun state hstate => by cases hstate⟩
  have htarget : SameFor other inner { removed with configs := removed.configs.insert uid config } :=
    (sameFor_removeBypass hne hremove).trans ⟨getElem?_insert_other _ _ hne, rfl, rfl⟩
  refine ⟨?_, ?_⟩
  · dsimp only
    rcases hsave : (reconcileAndSave text env).exec _ with ⟨error | _, after⟩
    · have hafter := htarget.trans (sameFor_reconcileAndSave hsave)
      have hrestored : SameFor other after
          { after with configs := restoreEntry after.configs uid removed.configs[uid]? } :=
        ⟨getElem?_restoreEntry_other _ _ hne, rfl, rfl⟩
      exact ((hafter.trans hrestored).trans (sameFor_reconcile _ _)).trans
        (sameFor_restoreBypass hne bypass _)
    · exact htarget.trans (sameFor_reconcileAndSave hsave)
  · intro state hstate
    dsimp only at hstate
    split at hstate
    · next hexec =>
        obtain rfl := Option.some.inj hstate
        exact htarget.trans (sameFor_of_exec hexec)
    · cases hstate

theorem leavesSame_clearConfig (hne : uid ≠ other) :
    LeavesSame text other inner (.clearConfig uid env) := by
  unfold LeavesSame Request.perform saved clearConfig
  dsimp only
  rw [exec_ofFun]
  generalize (if env.routingEnabled then inner.killSwitchBypass[uid]? else none) = bypass
  rcases hremove : removeBypass env uid bypass inner with error | removed
  · exact ⟨.rfl, fun state hstate => by cases hstate⟩
  have htarget : SameFor other inner { removed with configs := removed.configs.erase uid } :=
    (sameFor_removeBypass hne hremove).trans ⟨getElem?_erase_other _ hne, rfl, rfl⟩
  refine ⟨?_, ?_⟩
  · dsimp only
    rcases hsave : (reconcileAndSave text env).exec _ with ⟨error | _, after⟩
    · have hafter := htarget.trans (sameFor_reconcileAndSave hsave)
      refine SameFor.trans ?_ (sameFor_restoreBypass hne _ _)
      split
      · have hrestored : ∀ config, SameFor other after
            { after with configs := after.configs.insert uid config } :=
          fun config => ⟨getElem?_insert_other _ _ hne, rfl, rfl⟩
        exact (hafter.trans (hrestored _)).trans (sameFor_reconcile _ _)
      · exact hafter
    · exact htarget.trans (sameFor_reconcileAndSave hsave)
  · intro state hstate
    dsimp only at hstate
    split at hstate
    · next hexec =>
        obtain rfl := Option.some.inj hstate
        exact htarget.trans (sameFor_of_exec hexec)
    · cases hstate

theorem leavesSame_setDestinationPolicy (hne : uid ≠ other) (ranges : List String) :
    LeavesSame text other inner (.setDestinationPolicy uid ranges env) := by
  unfold LeavesSame Request.perform saved setDestinationPolicy
  dsimp only
  rw [exec_ofFun]
  by_cases hfull : inner.full uid = true
  · rw [if_pos hfull, if_pos hfull]
    exact ⟨.rfl, fun state hstate => by cases hstate⟩
  rw [if_neg hfull, if_neg hfull]
  have htarget : SameFor other inner { inner with
      destinationPolicies :=
        if ranges.isEmpty then inner.destinationPolicies.erase uid
        else inner.destinationPolicies.insert uid ranges } := by
    refine ⟨rfl, ?_, rfl⟩
    dsimp only
    split_ifs
    · exact getElem?_erase_other _ hne
    · exact getElem?_insert_other _ _ hne
  refine ⟨?_, ?_⟩
  · rcases hsave : (reconcileAndSave text env).exec _ with ⟨error | _, after⟩
    · have hafter := htarget.trans (sameFor_reconcileAndSave hsave)
      have hrestored : SameFor other after { after with
          destinationPolicies :=
            restoreEntry after.destinationPolicies uid inner.destinationPolicies[uid]? } :=
        ⟨rfl, getElem?_restoreEntry_other _ _ hne, rfl⟩
      exact (hafter.trans hrestored).trans (sameFor_reconcile _ _)
    · exact htarget.trans (sameFor_reconcileAndSave hsave)
  · intro state hstate
    split at hstate
    · next hexec =>
        obtain rfl := Option.some.inj hstate
        exact htarget.trans (sameFor_of_exec hexec)
    · cases hstate

end requests

/-! ## Calls -/

/-- The user whose entries a method may change -/
def Method.changes {V : Type} : Method V → Option UInt16
  | .setConfig uid _ => some uid
  | .clearConfig uid => some uid
  | .setDestinationPolicy uid _ => some uid
  | .setKillSwitchBypass uid _ _ => some uid
  | .getConfig _ => none
  | .logStatus => none
  | .getDestinationPolicy _ => none
  | .getAllConfigs => none

/-- The user whose configuration or destination policy a method may change -/
def Method.configures {V : Type} (method : Method V) : Option UInt16 :=
  match method with
  | .setKillSwitchBypass _ _ _ => none
  | _ => method.changes

/-- The caller is root or the user. -/
def MayTarget (header : Header) (uid : UInt16) : Prop :=
  ∃ caller, callerUid header = .ok caller ∧ (caller = 0 ∨ caller = uid.toUInt32)

theorem authorize_eq_ok {header : Header} {uid : UInt16} :
    authorize header uid = .ok () ↔ MayTarget header uid := by
  unfold authorize MayTarget
  rcases callerUid header with error | caller
  · refine ⟨fun h => (by cases h), ?_⟩
    rintro ⟨caller, hcaller, -⟩
    cases hcaller
  · show (if caller = 0 ∨ caller = uid.toUInt32 then _ else _) = _ ↔ _
    split_ifs with htarget
    · exact ⟨fun _ => ⟨caller, rfl, htarget⟩, fun _ => rfl⟩
    · refine ⟨fun h => (by cases h), ?_⟩
      rintro ⟨caller', hcaller, htarget'⟩
      obtain rfl := Except.ok.inj hcaller
      exact absurd htarget' htarget

section calls

variable {V : Type} {json : StateJson} {text : IpNetText} {values : OwnedValues V} {env : CallEnv}
  {uid other : UInt16}

theorem perform_frame {request : RequestEnv → Request} (daemon : Daemon)
    (hsame : ∀ inner save, LeavesSame text other inner (request (env.request uid inner save))) :
    SameFor other daemon.engine ((perform json text env uid request).exec daemon).2.engine := by
  unfold perform
  rw [exec_ofFun]
  exact (hsame daemon.engine _).1

theorem reinstall_frame (hne : uid ≠ other) (previous : Option (List PhysicalRoute)) (daemon : Daemon) :
    SameFor other daemon.engine (reinstall env uid previous daemon).engine := by
  unfold reinstall
  rcases previous with _ | routes
  · exact .rfl
  · dsimp only
    rcases ((Routing.enable env.restore.1 uid routes).exec env.restore.2).1 with error | restored
    · exact .rfl
    · exact ⟨rfl, rfl, getElem?_insert_other _ _ hne⟩

theorem withBypass_frame {daemon : Daemon} {bypass : BypassMap}
    (hbypass : bypass[other]? = daemon.engine.killSwitchBypass[other]?) :
    SameFor other daemon.engine (daemon.withBypass bypass).engine := ⟨rfl, rfl, hbypass⟩

theorem setKillSwitchBypass_frame (hne : uid ≠ other) (enabled : Bool) (routes : List PhysicalRoute)
    (daemon : Daemon) : SameFor other daemon.engine
      ((setKillSwitchBypass json env uid enabled routes).exec daemon).2.engine := by
  have herased := getElem?_erase_other daemon.engine.killSwitchBypass hne
  unfold setKillSwitchBypass
  rw [exec_ofFun]
  dsimp only
  by_cases hrefused : (enabled && !daemon.engine.configs[uid]?.any SplitConfig.hasRules) = true
  · rw [if_pos hrefused]
    exact .rfl
  rw [if_neg hrefused]
  by_cases henabled : enabled = true
  · rw [if_pos henabled]
    by_cases hsame : daemon.engine.killSwitchBypass[uid]? = some routes
    · rw [if_pos hsame]
      exact .rfl
    rw [if_neg hsame]
    split
    · exact .rfl
    rcases ((Routing.enable env.enable.1 uid routes).exec env.enable.2).1 with error | installed
    · exact (withBypass_frame herased).trans (reinstall_frame hne _ _)
    · dsimp only
      rcases hsave : (saveEngine json env).exec _ with ⟨error | _, after⟩
      · have hengine : after.engine = _ := congrArg (fun result => result.2.engine) hsave.symm
        refine SameFor.trans ?_ (reinstall_frame hne _ _)
        refine ⟨by rw [Daemon.withBypass, hengine]; rfl, by rw [Daemon.withBypass, hengine]; rfl, ?_⟩
        dsimp only [Daemon.withBypass]
        rw [getElem?_erase_other _ hne, hengine]
        exact (getElem?_insert_other _ _ hne).trans herased
      · have hengine : after.engine = _ := congrArg (fun result => result.2.engine) hsave.symm
        dsimp only
        rw [hengine]
        exact withBypass_frame ((getElem?_insert_other _ _ hne).trans herased)
  · rw [if_neg henabled]
    rcases daemon.engine.killSwitchBypass[uid]? with _ | previous
    · exact .rfl
    dsimp only
    rcases ((Routing.disable env.disable.1 uid _).exec env.disable.2).1 with error | _
    · exact .rfl
    dsimp only
    rcases hsave : (saveEngine json env).exec _ with ⟨error | _, after⟩
    · have hengine : after.engine = _ := congrArg (fun result => result.2.engine) hsave.symm
      refine SameFor.trans ?_ (reinstall_frame hne _ _)
      rw [hengine]
      exact withBypass_frame herased
    · have hengine : after.engine = _ := congrArg (fun result => result.2.engine) hsave.symm
      dsimp only
      rw [hengine]
      exact withBypass_frame herased

theorem change_frame {result : Except FdoError (Fallible IoError Daemon Unit)} {daemon : Daemon}
    (hsame : ∀ request, result = .ok request →
      SameFor other daemon.engine (request.exec daemon).2.engine) :
    SameFor other daemon.engine (change (V := V) result daemon).2.engine := by
  rcases result with error | request
  · exact .rfl
  · exact hsame request rfl

/-- **A call** changes the entries of the user that it is about, if the caller may. -/
theorem call_frame (daemon : Daemon) {method : Method V}
    (hspared : method.changes = some other → ¬ MayTarget env.header other) :
    SameFor other daemon.engine (call json text values env daemon method).2.engine := by
  -- An accepted call is about another user.
  have hne : ∀ uid, method.changes = some uid → authorize env.header uid = .ok () → uid ≠ other := by
    rintro uid hchanges hauthorized rfl
    exact hspared hchanges (authorize_eq_ok.mp hauthorized)
  cases method with
  | setConfig uid entries =>
      refine change_frame fun request hrequest => ?_
      obtain ⟨⟨⟩, hauthorized, hrequest⟩ := Except.bind_eq_ok.mp hrequest
      obtain ⟨config, -, hrequest⟩ := Except.bind_eq_ok.mp hrequest
      obtain rfl := Except.ok.inj hrequest
      exact perform_frame daemon fun inner save => leavesSame_setConfig (hne uid rfl hauthorized) config
  | getConfig uid => exact .rfl
  | clearConfig uid =>
      refine change_frame fun request hrequest => ?_
      obtain ⟨⟨⟩, hauthorized, hrequest⟩ := Except.bind_eq_ok.mp hrequest
      obtain rfl := Except.ok.inj hrequest
      exact perform_frame daemon fun inner save => leavesSame_clearConfig (hne uid rfl hauthorized)
  | logStatus => exact .rfl
  | setDestinationPolicy uid ranges =>
      refine change_frame fun request hrequest => ?_
      obtain ⟨⟨⟩, hauthorized, hrequest⟩ := Except.bind_eq_ok.mp hrequest
      obtain ⟨ranges, -, hrequest⟩ := Except.bind_eq_ok.mp hrequest
      obtain rfl := Except.ok.inj hrequest
      exact perform_frame daemon fun inner save =>
        leavesSame_setDestinationPolicy (hne uid rfl hauthorized) ranges
  | getDestinationPolicy uid => exact .rfl
  | setKillSwitchBypass uid enabled routes =>
      refine change_frame fun request hrequest => ?_
      obtain ⟨⟨⟩, hauthorized, hrequest⟩ := Except.bind_eq_ok.mp hrequest
      obtain ⟨routes, -, hrequest⟩ := Except.bind_eq_ok.mp hrequest
      obtain rfl := Except.ok.inj hrequest
      exact setKillSwitchBypass_frame (hne uid rfl hauthorized) enabled routes daemon
  | getAllConfigs => exact .rfl

end calls

/-! ## Over a run of the daemon -/

/-- A call about the user from a caller who may, where `target` says who a call is about. -/
def Accepted {V : Type} (target : Method V → Option UInt16) (uid : UInt16) (happening : Happening V) :
    Prop :=
  ∃ env method, happening = .call env method ∧ target method = some uid ∧ MayTarget env.header uid

section runs

variable {V : Type} {json : StateJson} {text : IpNetText} {values : OwnedValues V} {uid : UInt16}

theorem sameFor_handleEvent (env : EventEnv) (event : ProcessEvent) (inner : Inner) :
    SameFor uid inner ((handleEvent env event).exec inner).2 := by
  obtain ⟨hconfigs, hpolicies, hbypass⟩ := frame_handleEvent env event inner
  exact ⟨by rw [hconfigs], by rw [hpolicies], by rw [hbypass]⟩

theorem step_frame {system : System} {engine : Inner} (hengine : system.engine = some engine)
    {happening : Happening V} (hstop : happening ≠ .stop) (hspared : ¬ Accepted Method.changes uid happening) :
    ∃ engine', (system.step json text values happening).engine = some engine' ∧
      SameFor uid engine engine' := by
  obtain ⟨file, running⟩ := system
  obtain rfl : running = some engine := hengine
  cases happening with
  | start env => exact ⟨engine, rfl, .rfl⟩
  | call env method =>
      exact ⟨_, rfl, call_frame ⟨engine, file⟩ fun hchanges hmay =>
        hspared ⟨env, method, rfl, hchanges, hmay⟩⟩
  | event event env => exact ⟨_, rfl, sameFor_handleEvent env event engine⟩
  | rescan env => exact ⟨_, rfl, sameFor_reconcile env engine⟩
  | stop => exact absurd rfl hstop

/-- **While the daemon runs, the entries of a user change by accepted calls only.** -/
theorem owner_changes (happenings : List (Happening V)) {system : System} {engine : Inner}
    (hengine : system.engine = some engine) (hruns : ∀ happening ∈ happenings, happening ≠ .stop)
    (hspared : ∀ happening ∈ happenings, ¬ Accepted Method.changes uid happening) :
    ∃ engine', (happenings.foldl (System.step json text values) system).engine = some engine' ∧
      SameFor uid engine engine' := by
  induction happenings generalizing system engine with
  | nil => exact ⟨engine, hengine, .rfl⟩
  | cons happening happenings ih =>
      obtain ⟨next, hnext, hsame⟩ : ∃ next,
          (system.step json text values happening).engine = some next ∧ SameFor uid engine next :=
        step_frame hengine (hruns happening List.mem_cons_self) (hspared happening List.mem_cons_self)
      obtain ⟨engine', hengine', hsame'⟩ := ih hnext
        (fun other hother => hruns other (List.mem_cons_of_mem _ hother))
        (fun other hother => hspared other (List.mem_cons_of_mem _ hother))
      exact ⟨engine', hengine', hsame.trans hsame'⟩

end runs

/-! ### A run with two users -/

/-- A call in which nothing of the system fails -/
def quietCall (caller : UInt32) : CallEnv where
  header := { sender := some ":1.7", unixUser := fun _ => .ok caller }
  disable := (Routing.iproute2, ⟨0, Routing.startedDb []⟩)
  enable := (Routing.iproute2, ⟨0, Routing.startedDb []⟩)
  restore := (Routing.iproute2, ⟨0, Routing.startedDb []⟩)
  reconcile := quietRescan (.ok [])
  rollback := quietRescan (.ok [])
  save := { processId := 7 }

def quietStart : StartEnv where
  load := {}
  disable _ := (Routing.iproute2, ⟨0, Routing.startedDb []⟩)
  save := { processId := 7 }
  reconcile := quietRescan (.ok [])
  connect := .ok ()

def firefoxEntries : ExtTreeMap String (String ⊕ List String) :=
  ((∅ : ExtTreeMap String (String ⊕ List String)).insert "mode" (.inl "exclude")).insert "app_paths"
    (.inr ["/usr/bin/firefox"]) |>.insert "ip_ranges" (.inr ["192.0.2.7/24"])

/-- The daemon is started, and a user excludes an application. -/
def firefoxExcludes : List (Happening (String ⊕ List String)) :=
  [.start quietStart, .call (quietCall 1000) (.setConfig 1000 firefoxEntries)]

/-- Another user does so too, and tries to remove the first one's configuration. -/
def otherUser : List (Happening (String ⊕ List String)) :=
  [.call (quietCall 1001) (.setConfig 1001 firefoxEntries), .rescan (quietRescan (.ok [firefox])),
    .call (quietCall 1001) (.clearConfig 1000)]

theorem otherUser_spares {target : Method (String ⊕ List String) → Option UInt16} :
    ∀ happening ∈ otherUser, ¬ Accepted target 1000 happening := by
  rintro happening hmem ⟨env, method, rfl, -, caller, hcaller, htarget⟩
  have henv : env = quietCall 1001 := by
    simp only [otherUser, List.mem_cons, Happening.call.injEq, List.not_mem_nil, or_false] at hmem
    rcases hmem with ⟨rfl, -⟩ | hfalse | ⟨rfl, -⟩
    · rfl
    · cases hfalse
    · rfl
  subst henv
  obtain rfl := Except.ok.inj hcaller
  revert htarget
  decide

theorem owner_changes_otherUser : ∃ engine engine',
    (System.after StateText.stateJson decimalText plainValues firefoxExcludes).engine = some engine ∧
      (otherUser.foldl (System.step StateText.stateJson decimalText plainValues)
        (System.after StateText.stateJson decimalText plainValues firefoxExcludes)).engine =
          some engine' ∧ SameFor 1000 engine engine' := by
  obtain ⟨engine, hengine⟩ := Option.isSome_iff_exists.mp (show
    (System.after StateText.stateJson decimalText plainValues firefoxExcludes).engine.isSome by
      decide +kernel)
  have hruns : ∀ happening ∈ otherUser, happening ≠ .stop := by
    rintro happening hmem rfl
    simp [otherUser] at hmem
  obtain ⟨engine', hengine', hsame⟩ := owner_changes otherUser hengine hruns otherUser_spares
  exact ⟨engine, engine', hengine, hengine', hsame⟩

/-! ## Replies -/

/-- The only entry of a user -/
theorem filter_key {V : Type} (map : ExtTreeMap UInt16 V) (uid : UInt16) :
    map.toList.filter (fun entry => entry.1 = uid) = (map[uid]?.map fun value => (uid, value)).toList := by
  have hnodup : map.toList.Nodup := by
    refine List.Nodup.of_map Prod.fst ?_
    rw [ExtTreeMap.map_fst_toList_eq_keys]
    exact ExtTreeMap.nodup_keys
  have hmem : ∀ entry, entry ∈ map.toList.filter (fun entry => entry.1 = uid) ↔
      map[uid]? = some entry.2 ∧ entry.1 = uid := by
    intro entry
    rw [List.mem_filter, decide_eq_true_eq]
    refine and_congr_left fun hkey => ?_
    subst hkey
    exact ExtTreeMap.mem_toList_iff_getElem?_eq_some
  rcases hget : map[uid]? with _ | value
  · refine List.eq_nil_iff_forall_not_mem.mpr fun entry hentry => ?_
    rw [hmem, hget] at hentry
    cases hentry.1
  · refine List.perm_singleton.mp ((List.perm_ext_iff_of_nodup (hnodup.filter _)
      (List.nodup_singleton _)).mpr fun entry => ?_)
    rw [hmem, hget, List.mem_singleton, Option.some.injEq]
    constructor
    · rintro ⟨hvalue, hkey⟩
      exact Prod.ext hkey hvalue.symm
    · rintro rfl
      exact ⟨rfl, rfl⟩

section replies

variable {V : Type} {json : StateJson} {text : IpNetText} {values : OwnedValues V}

theorem authorize_caller {header : Header} {uid : UInt16} {caller : UInt32}
    (hcaller : callerUid header = .ok caller) (hroot : caller ≠ 0) :
    authorize header uid =
      if caller = uid.toUInt32 then .ok ()
      else .error (.accessDenied "split-tunneling configuration may only target the calling user") := by
  unfold authorize
  rw [hcaller]
  show (if caller = 0 ∨ caller = uid.toUInt32 then _ else _) = _
  exact if_congr (or_iff_right hroot) rfl rfl

/-- The entries that a caller other than root is told about -/
theorem filter_caller (configs : ConfigMap) {caller : UInt32} (hroot : caller ≠ 0) {uid : UInt16}
    (huid : uid.toUInt32 = caller) :
    configs.toList.filter (fun entry => caller = 0 || entry.1.toUInt32 = caller) =
      (configs[uid]?.map fun config => (uid, config)).toList := by
  rw [← filter_key]
  refine List.filter_congr fun entry _ => ?_
  rw [decide_eq_false hroot, Bool.false_or, ← huid]
  exact decide_eq_decide.mpr UInt16.toUInt32_inj

/-- **What a user is told depends on the entries of that user only**, unless it is root. -/
theorem replies_confined {env : CallEnv} {caller : UInt32} (hcaller : callerUid env.header = .ok caller)
    (hroot : caller ≠ 0) {daemon daemon' : Daemon}
    (hsame : ∀ uid : UInt16, uid.toUInt32 = caller → SameFor uid daemon.engine daemon'.engine)
    {method : Method V} (hreads : method.changes = none) :
    (call json text values env daemon' method).1 = (call json text values env daemon method).1 := by
  cases method with
  | setConfig uid entries => cases hreads
  | clearConfig uid => cases hreads
  | setDestinationPolicy uid ranges => cases hreads
  | setKillSwitchBypass uid enabled routes => cases hreads
  | logStatus => rfl
  | getConfig uid =>
      dsimp only [call]
      rw [authorize_caller hcaller hroot]
      split_ifs with huid
      · rw [(hsame uid huid.symm).config]
      · rfl
  | getDestinationPolicy uid =>
      dsimp only [call]
      rw [authorize_caller hcaller hroot]
      split_ifs with huid
      · rw [(hsame uid huid.symm).policy]
      · rfl
  | getAllConfigs =>
      dsimp only [call]
      rw [hcaller]
      dsimp only [bind, Except.bind]
      by_cases hknown : ∃ uid : UInt16, uid.toUInt32 = caller
      · obtain ⟨uid, huid⟩ := hknown
        rw [filter_caller _ hroot huid, filter_caller _ hroot huid, (hsame uid huid).config]
      · have hnone : ∀ configs : ConfigMap,
            configs.toList.filter (fun entry => caller = 0 || entry.1.toUInt32 = caller) = [] := by
          intro configs
          rw [List.filter_eq_nil_iff]
          intro entry _
          simpa [hroot] using fun huid => hknown ⟨entry.1, huid⟩
        rw [hnone, hnone]

/-- The configuration of one user -/
def firefoxUser : ConfigMap := (∅ : ConfigMap).insert 1000 ⟨.exclude, ["/usr/bin/firefox"], []⟩

theorem replies_confined_twoUsers :
    (call (V := String ⊕ List String) StateText.stateJson decimalText plainValues (quietCall 1000)
        ⟨{ configs := firefoxUser.insert 1001 ⟨.include, [], ["192.0.2.0/24"]⟩ }, none⟩ .getAllConfigs).1 =
      (call StateText.stateJson decimalText plainValues (quietCall 1000)
        ⟨{ configs := firefoxUser }, none⟩ .getAllConfigs).1 := by
  have hcaller : callerUid (quietCall 1000).header = .ok 1000 := rfl
  refine replies_confined hcaller (by decide) (fun uid huid => ?_) rfl
  obtain rfl : uid = 1000 := UInt16.toUInt32_inj.mp huid
  exact ⟨by decide +kernel, rfl, rfl⟩

end replies

end ProtonVpnOmarchy.Splitd.Service
