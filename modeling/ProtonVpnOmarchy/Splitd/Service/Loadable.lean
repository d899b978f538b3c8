import ProtonVpnOmarchy.Splitd.Service.Basic

/-!
# What the daemon saves can be loaded

Every request keeps the engine in a state that a new engine would load as it is, and saves such states
only.

* `loadable_setConfig`, `loadable_clearConfig`, `loadable_setDestinationPolicy` —
  one request.
-/

namespace ProtonVpnOmarchy.Splitd.Service

open Std (ExtTreeMap)
open Lib Lib.Fallible Bpf StateStore

/-! ## Users -/

section users

variable {configs configs' : ConfigMap} {policies policies' : PolicyMap}

/-- The user has a configuration or a destination policy. -/
def Configured (configs : ConfigMap) (policies : PolicyMap) (uid : UInt16) : Prop :=
  uid ∈ configs ∨ uid ∈ policies

theorem configuredUserCount_le {users : List UInt16}
    (h : ∀ uid, Configured configs policies uid → uid ∈ users) :
    configuredUserCount configs policies ≤ users.length := by
  refine ((List.nodup_dedup _).subperm fun uid huid => h uid ?_).length_le
  rcases List.mem_append.mp (List.mem_dedup.mp huid) with hmem | hmem
  · exact .inl (ExtTreeMap.mem_keys.mp hmem)
  · exact .inr (ExtTreeMap.mem_keys.mp hmem)

theorem mem_users {uid : UInt16} (h : Configured configs policies uid) :
    uid ∈ (configs.keys ++ policies.keys).dedup := by
  rw [List.mem_dedup, List.mem_append]
  rcases h with hmem | hmem
  · exact .inl (ExtTreeMap.mem_keys.mpr hmem)
  · exact .inr (ExtTreeMap.mem_keys.mpr hmem)

/-- One more user, unless there are too many. -/
theorem users_le_of_not_full {inner : Inner} {uid : UInt16} (hfull : inner.full uid = false)
    (husers : configuredUserCount inner.configs inner.destinationPolicies ≤ MAX_CONFIGS)
    (h : ∀ uid', Configured configs' policies' uid' →
      uid' = uid ∨ Configured inner.configs inner.destinationPolicies uid') :
    configuredUserCount configs' policies' ≤ MAX_CONFIGS := by
  by_cases hknown : Configured inner.configs inner.destinationPolicies uid
  · refine (configuredUserCount_le fun uid' huid' => ?_).trans husers
    rcases h uid' huid' with rfl | hold
    · exact mem_users hknown
    · exact mem_users hold
  · have hlt : configuredUserCount inner.configs inner.destinationPolicies < MAX_CONFIGS := by
      unfold Inner.full at hfull
      unfold Configured at hknown
      rw [not_or, ExtTreeMap.mem_iff_contains, ExtTreeMap.mem_iff_contains] at hknown
      simpa [hknown.1, hknown.2] using hfull
    have husers : ∀ uid', Configured configs' policies' uid' →
        uid' ∈ uid :: (inner.configs.keys ++ inner.destinationPolicies.keys).dedup := by
      intro uid' huid'
      rcases h uid' huid' with rfl | hold
      · exact List.mem_cons_self
      · exact List.mem_cons_of_mem _ (mem_users hold)
    exact (configuredUserCount_le husers).trans hlt

end users

/-! ## Changes of a state -/

section changes

variable {text : IpNetText} {configs configs' : ConfigMap} {policies : PolicyMap}
  {bypass bypass' : BypassMap} {uid : UInt16}

theorem loadable_of_bypass_le (h : Loadable text configs policies bypass)
    (hle : ∀ (uid : UInt16) (routes : List PhysicalRoute), bypass'[uid]? = some routes →
      bypass[uid]? = some routes) : Loadable text configs policies bypass' :=
  { h with routes := fun uid routes hroutes => h.routes uid routes (hle uid routes hroutes) }

theorem loadable_erase (h : Loadable text configs policies bypass) (uid : UInt16) :
    Loadable text configs policies (bypass.erase uid) := by
  refine loadable_of_bypass_le h fun uid' routes hroutes => ?_
  rw [ExtTreeMap.getElem?_erase] at hroutes
  split_ifs at hroutes
  exact hroutes

theorem loadable_noBypass (h : Loadable text configs policies bypass) :
    Loadable text configs policies ∅ :=
  loadable_of_bypass_le h fun uid routes hroutes => by simp at hroutes

theorem loadable_empty : Loadable text ∅ ∅ ∅ where
  users := by
    have hnone : ∀ uid, Configured (∅ : ConfigMap) (∅ : PolicyMap) uid → uid ∈ ([] : List UInt16) :=
      fun uid huid => by simp [Configured] at huid
    exact (configuredUserCount_le hnone).trans (Nat.zero_le _)
  config := fun uid config hconfig => by simp at hconfig
  policy := fun uid ranges hranges => by simp at hranges
  routes := fun uid routes hroutes => by simp at hroutes

theorem loadable_install (h : Loadable text configs policies bypass) {routes : List PhysicalRoute}
    (hinstalled : Installed routes) (hrules : configs[uid]?.any SplitConfig.hasRules = true) :
    Loadable text configs policies (bypass.insert uid routes) := by
  refine { h with routes := fun uid' routes' hroutes => ?_ }
  rw [ExtTreeMap.getElem?_insert] at hroutes
  split_ifs at hroutes with huid
  · obtain rfl := Std.LawfulEqCmp.eq_of_compare huid
    obtain rfl := Option.some.inj hroutes
    exact ⟨hinstalled, hrules⟩
  · exact h.routes uid' routes' hroutes

/-- Another configuration of a user, which has rules if there are routes. -/
theorem loadable_insertConfig (h : Loadable text configs policies bypass) {config : SplitConfig}
    (husers : configuredUserCount (configs.insert uid config) policies ≤ MAX_CONFIGS)
    (hvalid : config.validate text = .ok config)
    (hrules : config.hasRules = true ∨ bypass[uid]? = none) :
    Loadable text (configs.insert uid config) policies bypass := by
  refine ⟨husers, fun uid' config' hconfig => ?_, h.policy, fun uid' routes hroutes => ?_⟩
  · rw [ExtTreeMap.getElem?_insert] at hconfig
    split_ifs at hconfig
    · obtain rfl := Option.some.inj hconfig
      exact hvalid
    · exact h.config uid' config' hconfig
  · obtain ⟨hinstalled, hold⟩ := h.routes uid' routes hroutes
    refine ⟨hinstalled, ?_⟩
    rw [ExtTreeMap.getElem?_insert]
    split_ifs with huid
    · obtain rfl := Std.LawfulEqCmp.eq_of_compare huid
      rcases hrules with hrules | hnone
      · exact hrules
      · rw [hnone] at hroutes
        cases hroutes
    · exact hold

/-- No configuration of a user, who has no routes then. -/
theorem loadable_eraseConfig (h : Loadable text configs policies bypass)
    (hnone : bypass[uid]? = none) : Loadable text (configs.erase uid) policies bypass := by
  have hget : ∀ uid' : UInt16, uid ≠ uid' → (configs.erase uid)[uid']? = configs[uid']? :=
    fun uid' huid => by simp [ExtTreeMap.getElem?_erase, huid]
  refine ⟨?_, fun uid' config hconfig => ?_, h.policy, fun uid' routes hroutes => ?_⟩
  · refine (configuredUserCount_le fun uid' huid' => mem_users ?_).trans h.users
    exact huid'.imp_left ExtTreeMap.mem_of_mem_erase
  · rw [ExtTreeMap.getElem?_erase] at hconfig
    split_ifs at hconfig
    exact h.config uid' config hconfig
  · obtain ⟨hinstalled, hold⟩ := h.routes uid' routes hroutes
    refine ⟨hinstalled, ?_⟩
    rw [hget uid' fun huid => ?_]
    · exact hold
    · rw [huid, hroutes] at hnone
      cases hnone

/-- Other destination policies -/
theorem loadable_policies (h : Loadable text configs policies bypass) {policies' : PolicyMap}
    (husers : configuredUserCount configs policies' ≤ MAX_CONFIGS)
    (hvalid : ∀ (uid : UInt16) (ranges : List String), policies'[uid]? = some ranges →
      validateIpRanges text ranges = .ok ranges) : Loadable text configs policies' bypass :=
  { h with users := husers, policy := hvalid }

end changes

/-! ## Routes -/

/-- `enable` tells what it installed: the preferred routes. -/
theorem installed_of_enable {env : Routing.IpEnv} {uid : UInt16} {routes installed : List PhysicalRoute}
    {s : Routing.IpState} (hvalid : ∀ route ∈ routes, route.validated = .ok route)
    (hok : ((Routing.enable env uid routes).exec s).1 = .ok installed) : Installed installed := by
  have hexec : (Routing.enable env uid routes).exec s =
      (.ok installed, ((Routing.enable env uid routes).exec s).2) := Prod.ext hok rfl
  have hne := Routing.preferredRoutes_ne_nil hexec
  obtain rfl : Routing.preferredRoutes routes = installed := by
    unfold Routing.enable at hok
    dsimp only at hok
    rw [if_neg hne] at hok
    simp only [exec_bind] at hok
    repeat' split at hok
    all_goals first | exact Except.ok.inj hok | cases hok
  have hshape := Routing.preferredRoutes_shape routes
  refine ⟨hne, ?_, ?_, Routing.preferredRoutes_families_nodup routes⟩
  · rcases hshape with h | ⟨route, h⟩ | ⟨first, second, h, -, -⟩
    · rw [h]
      exact Nat.zero_le _
    · rw [h]
      exact one_le_two
    · rw [h]
      exact le_rfl
  · exact fun route hroute => hvalid route (Routing.mem_of_mem_preferredRoutes hroute)

/-! ## Requests -/

/-- A new engine would load this state as it is. -/
abbrev InnerLoadable (text : IpNetText) (inner : Inner) : Prop :=
  Loadable text inner.configs inner.destinationPolicies inner.killSwitchBypass

section requests

variable {text : IpNetText} {inner : Inner} {env : RequestEnv} {uid : UInt16}

/-- A rescan changes nothing that is saved. -/
theorem frame_reconcile (text : IpNetText) (env : ReconcileEnv) (inner : Inner) :
    ((reconcile text env).exec inner).2.configs = inner.configs ∧
      ((reconcile text env).exec inner).2.destinationPolicies = inner.destinationPolicies ∧
      ((reconcile text env).exec inner).2.killSwitchBypass = inner.killSwitchBypass := by
  rcases hexec : (reconcile text env).exec inner with ⟨r, after⟩
  exact reconcile_frame hexec

/-- A process event changes nothing that is saved. -/
theorem frame_handleEvent (env : EventEnv) (event : ProcessEvent) (inner : Inner) :
    ((handleEvent env event).exec inner).2.configs = inner.configs ∧
      ((handleEvent env event).exec inner).2.destinationPolicies = inner.destinationPolicies ∧
      ((handleEvent env event).exec inner).2.killSwitchBypass = inner.killSwitchBypass := by
  rcases hexec : (handleEvent env event).exec inner with ⟨r, after⟩
  rcases hmarker : inner.marker with _ | marker
  · unfold handleEvent at hexec
    rw [exec_ofFun, hmarker] at hexec
    obtain rfl := (Prod.mk.inj hexec).2
    exact ⟨rfl, rfl, rfl⟩
  rcases handleEvent_cases hmarker hexec with ⟨-, rfl⟩ | ⟨pid, -, huntrack⟩ | ⟨pid, config, uid, matched, -, -, htrack⟩
  · exact ⟨rfl, rfl, rfl⟩
  · rcases untrack_cases huntrack with ⟨-, -, rfl⟩ | ⟨-, -, -, rfl⟩ | ⟨error, -, -, -, rfl⟩ <;>
      exact ⟨rfl, rfl, rfl⟩
  · rcases track_cases htrack with ⟨-, -, rfl⟩ | ⟨error, -, -, rfl⟩ <;> exact ⟨rfl, rfl, rfl⟩

theorem loadable_reconcile (env : ReconcileEnv) (h : InnerLoadable text inner) :
    InnerLoadable text ((reconcile text env).exec inner).2 := by
  obtain ⟨hconfigs, hpolicies, hbypass⟩ := frame_reconcile text env inner
  unfold InnerLoadable
  rw [hconfigs, hpolicies, hbypass]
  exact h

theorem loadable_of_exec {env : ReconcileEnv} {after : Inner} {r : Except IoError Unit}
    (h : InnerLoadable text inner) (hexec : (reconcile text env).exec inner = (r, after)) :
    InnerLoadable text after := by
  have hafter := loadable_reconcile env h
  rwa [hexec] at hafter

theorem removeBypass_spec {bypass : Option (List PhysicalRoute)} {inner' : Inner}
    (h : removeBypass env uid bypass inner = .ok inner') :
    inner' = { inner with killSwitchBypass :=
      if bypass.isSome then inner.killSwitchBypass.erase uid else inner.killSwitchBypass } := by
  unfold removeBypass at h
  rcases bypass with _ | routes
  · obtain rfl := Except.ok.inj h
    rfl
  · rcases hdisable : env.disable with error | _
    · rw [hdisable] at h
      cases h
    · rw [hdisable] at h
      obtain rfl := Except.ok.inj h
      rfl

/-- What `routing::enable` answers when routes that were there before are installed again. -/
def Restores (env : RequestEnv) (uid : UInt16) (inner : Inner) : Prop :=
  ∀ installed, env.enable = .ok installed → inner.killSwitchBypass[uid]?.isSome = true →
    Installed installed

theorem loadable_restoreBypass {after : Inner} {bypass : Option (List PhysicalRoute)}
    (h : InnerLoadable text after)
    (henable : ∀ installed, env.enable = .ok installed → bypass.isSome = true → Installed installed)
    (hrules : bypass.isSome = true → after.configs[uid]?.any SplitConfig.hasRules = true) :
    InnerLoadable text (restoreBypass env uid bypass after) := by
  unfold restoreBypass
  rcases bypass with _ | routes
  · exact h
  · rcases hresult : env.enable with error | installed
    · exact h
    · exact loadable_install h (henable installed hresult rfl) (hrules rfl)

/-- The routes of a user are removed if the new configuration has no rules. -/
def bypassOf (inner : Inner) (uid : UInt16) (config : SplitConfig) : Option (List PhysicalRoute) :=
  if config.hasRules then none else inner.killSwitchBypass[uid]?

theorem isSome_of_bypassOf {config : SplitConfig} (h : (bypassOf inner uid config).isSome = true) :
    inner.killSwitchBypass[uid]?.isSome = true := by
  unfold bypassOf at h
  split_ifs at h
  · cases h
  · exact h

/-- The state in which `set_config` rescans -/
theorem loadable_setConfig_target (h : InnerLoadable text inner) {config : SplitConfig}
    (hvalid : config.validate text = .ok config) (hfull : inner.full uid = false) {inner' : Inner}
    (hremove : removeBypass env uid (bypassOf inner uid config) inner = .ok inner') :
    InnerLoadable text { inner' with configs := inner'.configs.insert uid config } := by
  obtain rfl := removeBypass_spec hremove
  have husers : configuredUserCount (inner.configs.insert uid config) inner.destinationPolicies ≤
      MAX_CONFIGS := by
    refine users_le_of_not_full hfull h.users fun uid' huid' => ?_
    rcases huid' with hmem | hmem
    · rcases ExtTreeMap.mem_insert.mp hmem with heq | hmem
      · exact .inl (Std.LawfulEqCmp.eq_of_compare heq).symm
      · exact .inr (.inl hmem)
    · exact .inr (.inr hmem)
  unfold bypassOf
  by_cases hrules : config.hasRules = true
  · rw [if_pos hrules]
    exact loadable_insertConfig h husers hvalid (.inl hrules)
  · rw [if_neg hrules]
    by_cases hsome : inner.killSwitchBypass[uid]?.isSome = true
    · rw [if_pos hsome]
      exact loadable_insertConfig (loadable_erase h uid) husers hvalid (.inr (by simp))
    · rw [if_neg hsome]
      exact loadable_insertConfig h husers hvalid (.inr (by simpa using hsome))

/-- What a request of a user leaves behind, and what it saves -/
def LeavesLoadable (text : IpNetText) (inner : Inner) (request : Request) : Prop :=
  InnerLoadable text ((request.perform text).exec inner).2 ∧
    ∀ state, saved text inner request = some state → InnerLoadable text state

theorem loadable_setConfig (h : InnerLoadable text inner) {config : SplitConfig}
    (hvalid : config.validate text = .ok config) (hrouting : env.routingEnabled = true)
    (henable : Restores env uid inner) : LeavesLoadable text inner (.setConfig uid config env) := by
  have hbypass : (if env.routingEnabled && !config.hasRules then inner.killSwitchBypass[uid]? else none) =
      bypassOf inner uid config := by
    unfold bypassOf
    rw [hrouting]
    cases config.hasRules <;> rfl
  unfold LeavesLoadable Request.perform saved setConfig
  dsimp only
  rw [exec_ofFun, hbypass]
  by_cases hfull : inner.full uid = true
  · rw [if_pos hfull, if_pos hfull]
    exact ⟨h, fun state hstate => by cases hstate⟩
  rw [if_neg hfull, if_neg hfull]
  rcases hremove : removeBypass env uid (bypassOf inner uid config) inner with error | inner'
  · exact ⟨h, fun state hstate => by cases hstate⟩
  have htarget := loadable_setConfig_target h hvalid (Bool.not_eq_true _ ▸ hfull) hremove
  obtain rfl := removeBypass_spec hremove
  dsimp only at htarget ⊢
  refine ⟨?_, ?_⟩
  · rcases hsave : (reconcileAndSave text env).exec _ with ⟨error | _, after⟩
    · -- The previous configurations are restored, and the routes if possible.
      obtain ⟨r, hexec, -⟩ := reconcileAndSave_cases hsave
      obtain ⟨hconfigs, hpolicies, hkept⟩ := reconcile_frame hexec
      dsimp only
      have hrestored : restoreEntry after.configs uid inner.configs[uid]? = inner.configs := by
        rw [hconfigs]
        exact restoreEntry_eq fun uid' huid => by simp [ExtTreeMap.getElem?_insert, huid]
      have hbefore : InnerLoadable text
          { after with configs := restoreEntry after.configs uid inner.configs[uid]? } := by
        show Loadable text (restoreEntry _ _ _) after.destinationPolicies after.killSwitchBypass
        rw [hrestored, hpolicies, hkept]
        dsimp only
        split_ifs
        · exact loadable_erase h uid
        · exact h
      have hrescanned := loadable_reconcile env.rollback hbefore
      have hsame := (frame_reconcile text env.rollback
        { after with configs := restoreEntry after.configs uid inner.configs[uid]? }).1
      refine loadable_restoreBypass hrescanned ?_ ?_
      · exact fun installed hresult hsome => henable installed hresult (isSome_of_bypassOf hsome)
      · intro hsome
        obtain ⟨routes, hroutes⟩ := Option.isSome_iff_exists.mp (isSome_of_bypassOf hsome)
        rw [hsame]
        dsimp only
        rw [hrestored]
        exact (h.routes uid routes hroutes).2
    · obtain ⟨r, hexec, -⟩ := reconcileAndSave_cases hsave
      exact loadable_of_exec htarget hexec
  · intro state hstate
    split at hstate
    · next hexec =>
        obtain rfl := Option.some.inj hstate
        exact loadable_of_exec htarget hexec
    · cases hstate

theorem loadable_clearConfig (h : InnerLoadable text inner) (hrouting : env.routingEnabled = true)
    (henable : Restores env uid inner) : LeavesLoadable text inner (.clearConfig uid env) := by
  unfold LeavesLoadable Request.perform saved clearConfig
  dsimp only
  rw [exec_ofFun, if_pos hrouting]
  rcases hremove : removeBypass env uid inner.killSwitchBypass[uid]? inner with error | inner'
  · exact ⟨h, fun state hstate => by cases hstate⟩
  obtain rfl := removeBypass_spec hremove
  have hremoved : InnerLoadable text { inner with killSwitchBypass :=
      if inner.killSwitchBypass[uid]?.isSome then inner.killSwitchBypass.erase uid
      else inner.killSwitchBypass } := by
    show Loadable text inner.configs inner.destinationPolicies (if _ then _ else _)
    split_ifs
    · exact loadable_erase h uid
    · exact h
  have hnone : (if inner.killSwitchBypass[uid]?.isSome then inner.killSwitchBypass.erase uid
      else inner.killSwitchBypass)[uid]? = none := by
    by_cases hsome : inner.killSwitchBypass[uid]?.isSome = true
    · rw [if_pos hsome]
      simp
    · rw [if_neg hsome]
      simpa using hsome
  have htarget := loadable_eraseConfig hremoved hnone
  dsimp only at hremoved htarget ⊢
  refine ⟨?_, ?_⟩
  · rcases hsave : (reconcileAndSave text env).exec _ with ⟨error | _, after⟩
    · obtain ⟨r, hexec, -⟩ := reconcileAndSave_cases hsave
      obtain ⟨hconfigs, hpolicies, hkept⟩ := reconcile_frame hexec
      dsimp only at hconfigs hpolicies hkept ⊢
      have hrestores : ∀ rescanned : Inner, rescanned.configs = inner.configs →
          InnerLoadable text rescanned →
          InnerLoadable text (restoreBypass env uid inner.killSwitchBypass[uid]? rescanned) := by
        intro rescanned hsame hrescanned
        refine loadable_restoreBypass hrescanned henable fun hsome => ?_
        obtain ⟨routes, hroutes⟩ := Option.isSome_iff_exists.mp hsome
        rw [hsame]
        exact (h.routes uid routes hroutes).2
      rcases hprevious : inner.configs[uid]? with _ | config
      · -- There was no configuration.
        have hsame : inner.configs.erase uid = inner.configs := by
          refine ExtTreeMap.ext_getElem? fun uid' => ?_
          by_cases huid : uid = uid'
          · simp [← huid, hprevious]
          · simp [ExtTreeMap.getElem?_erase, huid]
        exact hrestores after (hconfigs.trans hsame) (loadable_of_exec htarget hexec)
      · have hrestored : after.configs.insert uid config = inner.configs := by
          rw [hconfigs]
          have hget : ∀ uid' : UInt16, uid ≠ uid' →
              (inner.configs.erase uid)[uid']? = inner.configs[uid']? :=
            fun uid' huid => by simp [ExtTreeMap.getElem?_erase, huid]
          have hentry := restoreEntry_eq hget
          rwa [hprevious] at hentry
        refine hrestores _ ?_ (loadable_reconcile env.rollback ?_)
        · rw [(frame_reconcile text env.rollback _).1]
          exact hrestored
        · show Loadable text (after.configs.insert uid config) after.destinationPolicies
            after.killSwitchBypass
          rw [hrestored, hpolicies, hkept]
          exact hremoved
    · obtain ⟨r, hexec, -⟩ := reconcileAndSave_cases hsave
      exact loadable_of_exec htarget hexec
  · intro state hstate
    split at hstate
    · next hexec =>
        obtain rfl := Option.some.inj hstate
        exact loadable_of_exec htarget hexec
    · cases hstate

theorem loadable_setDestinationPolicy (h : InnerLoadable text inner) {ranges : List String}
    (hvalid : validateIpRanges text ranges = .ok ranges) :
    LeavesLoadable text inner (.setDestinationPolicy uid ranges env) := by
  unfold LeavesLoadable Request.perform saved setDestinationPolicy
  dsimp only
  rw [exec_ofFun]
  by_cases hfull : inner.full uid = true
  · rw [if_pos hfull, if_pos hfull]
    exact ⟨h, fun state hstate => by cases hstate⟩
  rw [if_neg hfull, if_neg hfull]
  have hget : ∀ uid' : UInt16, uid ≠ uid' →
      (if ranges.isEmpty then inner.destinationPolicies.erase uid
        else inner.destinationPolicies.insert uid ranges)[uid']? = inner.destinationPolicies[uid']? := by
    intro uid' huid
    split_ifs
    · simp [ExtTreeMap.getElem?_erase, huid]
    · simp [ExtTreeMap.getElem?_insert, huid]
  have htarget : InnerLoadable text { inner with
      destinationPolicies :=
        if ranges.isEmpty then inner.destinationPolicies.erase uid
        else inner.destinationPolicies.insert uid ranges } := by
    refine loadable_policies h (users_le_of_not_full (Bool.not_eq_true _ ▸ hfull) h.users ?_) ?_
    · intro uid' huid'
      by_cases huid : uid = uid'
      · exact .inl huid.symm
      · refine .inr (huid'.imp_right fun hmem => ?_)
        rw [ExtTreeMap.mem_iff_isSome_getElem?] at hmem ⊢
        rwa [hget uid' huid] at hmem
    · intro uid' ranges' hranges
      by_cases huid : uid = uid'
      · subst huid
        split_ifs at hranges
        · simp at hranges
        · rw [ExtTreeMap.getElem?_insert_self] at hranges
          obtain rfl := Option.some.inj hranges
          exact hvalid
      · rw [hget uid' huid] at hranges
        exact h.policy uid' ranges' hranges
  refine ⟨?_, ?_⟩
  · rcases hsave : (reconcileAndSave text env).exec _ with ⟨error | _, after⟩
    · obtain ⟨r, hexec, -⟩ := reconcileAndSave_cases hsave
      obtain ⟨hconfigs, hpolicies, hkept⟩ := reconcile_frame hexec
      refine loadable_reconcile env.rollback ?_
      show Loadable text after.configs
        (restoreEntry after.destinationPolicies uid inner.destinationPolicies[uid]?)
        after.killSwitchBypass
      rw [hconfigs, hkept, hpolicies, restoreEntry_eq hget]
      exact h
    · obtain ⟨r, hexec, -⟩ := reconcileAndSave_cases hsave
      exact loadable_of_exec htarget hexec
  · intro state hstate
    split at hstate
    · next hexec =>
        obtain rfl := Option.some.inj hstate
        exact loadable_of_exec htarget hexec
    · cases hstate

end requests

end ProtonVpnOmarchy.Splitd.Service
