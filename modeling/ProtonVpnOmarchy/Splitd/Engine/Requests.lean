import ProtonVpnOmarchy.Splitd.Engine.PidMap

/-!
# What a request leaves behind

The three requests that change a configuration share one course: change it, rescan, save, and on a
failure restore it and rescan again, ignoring the outcome. `Changes` lists the states this can end
in; `perform_changes` says that these are all.
-/

namespace ProtonVpnOmarchy.Splitd

open Std (ExtTreeMap)
open Lib Lib.Fallible Bpf

section requests

variable {text : IpNetText} {inner inner' : Inner} {r : Except IoError Unit}

/-- A rescan changes the marker and the table only. -/
theorem reconcile_frame {env : ReconcileEnv}
    (hexec : (reconcile text env).exec inner = (r, inner')) :
    inner'.configs = inner.configs ∧ inner'.destinationPolicies = inner.destinationPolicies ∧
      inner'.killSwitchBypass = inner.killSwitchBypass := by
  rcases reconcile_cases hexec with ⟨-, -, rfl⟩ | ⟨-, -, -, rfl⟩ |
    ⟨-, marker, -, ⟨error, -, -, rfl⟩ | ⟨next, p, -, -, -, rfl⟩⟩
  · exact ⟨rfl, rfl, rfl⟩
  · exact ⟨rfl, rfl, rfl⟩
  · exact ⟨rfl, rfl, rfl⟩
  · exact ⟨rfl, rfl, rfl⟩

/-- The configurations and destination policies a request asks for. -/
def Request.target (inner : Inner) : Request → ConfigMap × PolicyMap
  | .setConfig uid config _ => (inner.configs.insert uid config, inner.destinationPolicies)
  | .clearConfig uid _ => (inner.configs.erase uid, inner.destinationPolicies)
  | .setDestinationPolicy uid ranges _ =>
    (inner.configs,
      if ranges.isEmpty then inner.destinationPolicies.erase uid
      else inner.destinationPolicies.insert uid ranges)
  | .reconcile _ => (inner.configs, inner.destinationPolicies)
  | .event _ _ => (inner.configs, inner.destinationPolicies)

/-- What a request that changes a configuration depends on. -/
def Request.env? : Request → Option RequestEnv
  | .setConfig _ _ env => some env
  | .clearConfig _ env => some env
  | .setDestinationPolicy _ _ env => some env
  | .reconcile _ => none
  | .event _ _ => none

/-- The state in which a request rescans: the routes it removed are of no concern to the rescan. -/
def Inner.retarget (inner : Inner) (target : ConfigMap × PolicyMap)
    (bypass : ExtTreeMap UInt16 (List PhysicalRoute)) : Inner :=
  { inner with
    configs := target.1
    destinationPolicies := target.2
    killSwitchBypass := bypass }

theorem Inner.retarget_eq {after : Inner} {configs : ConfigMap} {policies : PolicyMap}
    {target : ConfigMap × PolicyMap} (hconfigs : configs = target.1)
    (hpolicies : policies = target.2) :
    { after with configs := configs, destinationPolicies := policies } =
      after.retarget target after.killSwitchBypass := by
  rw [hconfigs, hpolicies]
  rfl

/-- The states a request that asks for `target` can end in. -/
inductive Changes (text : IpNetText) (env : RequestEnv) (inner : Inner)
    (target : ConfigMap × PolicyMap) : Inner → Prop
  /-- The request was turned down. -/
  | rejected : Changes text env inner target inner
  /-- The rescan and the save succeeded. -/
  | saved {bypass : ExtTreeMap UInt16 (List PhysicalRoute)} {after : Inner}
      (hexec : (reconcile text env.reconcile).exec (inner.retarget target bypass) = (.ok (), after))
      (hsave : env.save = .ok ()) : Changes text env inner target after
  /-- One of them failed, and there was nothing to restore. -/
  | nothingToRestore {bypass bypass' : ExtTreeMap UInt16 (List PhysicalRoute)} {after : Inner}
      {r : Except IoError Unit}
      (hexec : (reconcile text env.reconcile).exec (inner.retarget target bypass) = (r, after))
      (htarget : target = (inner.configs, inner.destinationPolicies)) :
      Changes text env inner target { after with killSwitchBypass := bypass' }
  /-- One of them failed, and the previous configurations were restored. -/
  | rolledBack {bypass bypass' : ExtTreeMap UInt16 (List PhysicalRoute)} {after : Inner}
      {r : Except IoError Unit}
      (hexec : (reconcile text env.reconcile).exec (inner.retarget target bypass) = (r, after))
      (hfail : r ≠ .ok () ∨ env.save ≠ .ok ()) :
      Changes text env inner target
        { ((reconcile text env.rollback).exec (after.retarget
            (inner.configs, inner.destinationPolicies) after.killSwitchBypass)).2 with
          killSwitchBypass := bypass' }

/-- Restoring an entry undoes a change of it. -/
theorem restoreEntry_eq {V : Type} {map map' : ExtTreeMap UInt16 V} {uid : UInt16}
    (h : ∀ uid', uid ≠ uid' → map'[uid']? = map[uid']?) : restoreEntry map' uid map[uid]? = map := by
  refine ExtTreeMap.ext_getElem? fun uid' => ?_
  unfold restoreEntry
  by_cases huid : uid = uid'
  · subst huid
    cases hget : map[uid]? <;> simp
  · cases hget : map[uid]? <;> simp [ExtTreeMap.getElem?_insert, ExtTreeMap.getElem?_erase, huid, h]

theorem exec_reconcileAndSave (env : RequestEnv) (inner : Inner) :
    (reconcileAndSave text env).exec inner =
      match (reconcile text env.reconcile).exec inner with
      | (.ok (), inner) => (env.save, inner)
      | (.error error, inner) => (.error error, inner) := by
  unfold reconcileAndSave
  rw [exec_bind]
  rcases (reconcile text env.reconcile).exec inner with ⟨_ | _, _⟩ <;> rfl

/-- A failure comes from the rescan or from the save. -/
theorem reconcileAndSave_cases {env : RequestEnv}
    (hexec : (reconcileAndSave text env).exec inner = (r, inner')) :
    ∃ r₁, (reconcile text env.reconcile).exec inner = (r₁, inner') ∧
      (r = .ok () ∧ r₁ = .ok () ∧ env.save = .ok () ∨
        (∃ error, r = .error error) ∧ (r₁ ≠ .ok () ∨ env.save ≠ .ok ())) := by
  rw [exec_reconcileAndSave] at hexec
  rcases h : (reconcile text env.reconcile).exec inner with ⟨error | _, after⟩
  · rw [h] at hexec
    obtain ⟨rfl, rfl⟩ := Prod.mk.inj hexec
    exact ⟨_, rfl, .inr ⟨⟨error, rfl⟩, .inl (by simp)⟩⟩
  · rw [h] at hexec
    obtain ⟨rfl, rfl⟩ := Prod.mk.inj hexec
    refine ⟨_, rfl, ?_⟩
    cases hsave : env.save with
    | ok _ => exact .inl ⟨rfl, rfl, rfl⟩
    | error error => exact .inr ⟨⟨error, rfl⟩, .inr (by simp)⟩

theorem restoreBypass_eq (env : RequestEnv) (uid : UInt16) (bypass : Option (List PhysicalRoute))
    (inner : Inner) : ∃ bypass', restoreBypass env uid bypass inner =
      { inner with killSwitchBypass := bypass' } := by
  unfold restoreBypass
  rcases bypass with _ | routes
  · exact ⟨_, rfl⟩
  · rcases env.enable with _ | installed <;> exact ⟨_, rfl⟩

theorem removeBypass_eq {env : RequestEnv} {uid : UInt16} {bypass : Option (List PhysicalRoute)}
    (h : removeBypass env uid bypass inner = .ok inner') :
    ∃ bypass', inner' = { inner with killSwitchBypass := bypass' } := by
  unfold removeBypass at h
  rcases bypass with _ | routes
  · exact ⟨_, (Except.ok.inj h).symm⟩
  · cases hdisable : env.disable with
    | error error => simp [hdisable] at h
    | ok _ =>
        simp only [hdisable, Except.ok.injEq] at h
        exact ⟨_, h.symm⟩

/-- The common course of the requests, with `undo` what is done on a failure. -/
theorem changes_of_undo {env : RequestEnv} {target : ConfigMap × PolicyMap}
    {bypass : ExtTreeMap UInt16 (List PhysicalRoute)} {undo : Inner → Inner}
    (hundo : ∀ after : Inner, after.configs = target.1 → after.destinationPolicies = target.2 →
      (∃ bypass', undo after = { ((reconcile text env.rollback).exec (after.retarget
          (inner.configs, inner.destinationPolicies) after.killSwitchBypass)).2 with
          killSwitchBypass := bypass' }) ∨
        target = (inner.configs, inner.destinationPolicies) ∧
          ∃ bypass', undo after = { after with killSwitchBypass := bypass' }) :
    Changes text env inner target
      (match (reconcileAndSave text env).exec (inner.retarget target bypass) with
        | (.ok (), after) => ((.ok (), after) : Except IoError Unit × Inner)
        | (.error error, after) => (.error error, undo after)).2 := by
  rcases hexec : (reconcileAndSave text env).exec (inner.retarget target bypass) with
    ⟨error | _, after⟩
  · obtain ⟨r, hreconcile, h | ⟨-, hfail⟩⟩ := reconcileAndSave_cases hexec
    · cases h.1
    obtain ⟨hconfigs, hpolicies, -⟩ := reconcile_frame hreconcile
    rcases hundo after hconfigs hpolicies with ⟨bypass', h⟩ | ⟨htarget, bypass', h⟩
    · simp only [h]
      exact .rolledBack hreconcile hfail
    · simp only [h]
      exact .nothingToRestore hreconcile htarget
  · obtain ⟨r, hreconcile, ⟨-, rfl, hsave⟩ | ⟨⟨error, h⟩, -⟩⟩ := reconcileAndSave_cases hexec
    · exact .saved hreconcile hsave
    · cases h

theorem setConfig_changes (env : RequestEnv) (uid : UInt16) (config : SplitConfig) (inner : Inner) :
    Changes text env inner (inner.configs.insert uid config, inner.destinationPolicies)
      ((setConfig text env uid config).exec inner).2 := by
  unfold setConfig
  rw [exec_ofFun]
  by_cases hfull : inner.full uid = true
  · rw [if_pos hfull]
    exact .rejected
  rw [if_neg hfull]
  generalize (if env.routingEnabled && !config.hasRules then inner.killSwitchBypass[uid]?
    else none) = bypass
  cases hremove : removeBypass env uid bypass inner with
  | error error =>
      simp only [hremove]
      exact .rejected
  | ok inner₁ =>
      simp only [hremove]
      obtain ⟨bypass₁, rfl⟩ := removeBypass_eq hremove
      refine changes_of_undo (fun after hconfigs hpolicies => .inl ?_)
      obtain ⟨bypass', h⟩ := restoreBypass_eq env uid bypass
        ((reconcile text env.rollback).exec { after with
          configs := restoreEntry after.configs uid inner.configs[uid]? }).2
      have hrestored : restoreEntry after.configs uid inner.configs[uid]? = inner.configs := by
        rw [hconfigs]
        refine restoreEntry_eq fun uid' huid => ?_
        simp [ExtTreeMap.getElem?_insert, huid]
      have hstate : { after with configs := restoreEntry after.configs uid inner.configs[uid]? } =
          after.retarget (inner.configs, inner.destinationPolicies) after.killSwitchBypass :=
        Inner.retarget_eq hrestored hpolicies
      rw [hstate] at h
      exact ⟨bypass', by rw [← h, ← hstate]⟩

theorem clearConfig_changes (env : RequestEnv) (uid : UInt16) (inner : Inner) :
    Changes text env inner (inner.configs.erase uid, inner.destinationPolicies)
      ((clearConfig text env uid).exec inner).2 := by
  unfold clearConfig
  rw [exec_ofFun]
  cases hremove : removeBypass env uid
    (if env.routingEnabled then inner.killSwitchBypass[uid]? else none) inner with
  | error error =>
      simp only [hremove]
      exact .rejected
  | ok inner₁ =>
      simp only [hremove]
      obtain ⟨bypass₁, rfl⟩ := removeBypass_eq hremove
      refine changes_of_undo (fun after hconfigs hpolicies => ?_)
      cases hprevious : inner.configs[uid]? with
      | some config =>
          left
          have hrestored : after.configs.insert uid config = inner.configs := by
            rw [hconfigs]
            have h : ∀ uid', uid ≠ uid' → (inner.configs.erase uid)[uid']? = inner.configs[uid']? :=
              fun uid' huid => by simp [ExtTreeMap.getElem?_erase, huid]
            have h := restoreEntry_eq h
            rwa [hprevious] at h
          have hstate : { after with configs := after.configs.insert uid config } =
              after.retarget (inner.configs, inner.destinationPolicies) after.killSwitchBypass :=
            Inner.retarget_eq hrestored hpolicies
          obtain ⟨bypass', h⟩ := restoreBypass_eq env uid inner.killSwitchBypass[uid]?
            ((reconcile text env.rollback).exec { after with
              configs := after.configs.insert uid config }).2
          rw [hstate] at h
          exact ⟨bypass', by rw [← h, ← hstate]⟩
      | none =>
          obtain ⟨bypass', h⟩ := restoreBypass_eq env uid inner.killSwitchBypass[uid]? after
          have hsame : inner.configs.erase uid = inner.configs := by
            refine ExtTreeMap.ext_getElem? fun uid' => ?_
            by_cases huid : uid = uid'
            · simp [← huid, hprevious]
            · simp [ExtTreeMap.getElem?_erase, huid]
          exact .inr ⟨by rw [hsame], bypass', h⟩

theorem setDestinationPolicy_changes (env : RequestEnv) (uid : UInt16) (ranges : List String)
    (inner : Inner) :
    Changes text env inner ((Request.setDestinationPolicy uid ranges env).target inner)
      ((setDestinationPolicy text env uid ranges).exec inner).2 := by
  unfold setDestinationPolicy
  rw [exec_ofFun]
  by_cases hfull : inner.full uid = true
  · rw [if_pos hfull]
    exact .rejected
  rw [if_neg hfull]
  refine changes_of_undo fun after hconfigs hpolicies => .inl ?_
  have hrestored : restoreEntry after.destinationPolicies uid inner.destinationPolicies[uid]? =
      inner.destinationPolicies := by
    rw [hpolicies]
    refine restoreEntry_eq fun uid' huid => ?_
    simp only [Request.target]
    by_cases hempty : ranges.isEmpty = true
    · rw [if_pos hempty]
      simp [ExtTreeMap.getElem?_erase, huid]
    · rw [if_neg hempty]
      simp [ExtTreeMap.getElem?_insert, huid]
  have hstate : ({ after with
      destinationPolicies :=
        restoreEntry after.destinationPolicies uid inner.destinationPolicies[uid]? } : Inner) =
      after.retarget (inner.configs, inner.destinationPolicies) after.killSwitchBypass :=
    Inner.retarget_eq hconfigs hrestored
  exact ⟨_, congrArg (fun state => ((reconcile text env.rollback).exec state).2) hstate⟩

/-- Every request that changes a configuration ends in one of these states. -/
theorem perform_changes {request : Request} {env : RequestEnv} (henv : request.env? = some env)
    (inner : Inner) :
    Changes text env inner (request.target inner) ((request.perform text).exec inner).2 := by
  rcases request with ⟨uid, config, env'⟩ | ⟨uid, env'⟩ | ⟨uid, ranges, env'⟩ | _ | _
  · obtain rfl := Option.some.inj henv
    exact setConfig_changes _ uid config inner
  · obtain rfl := Option.some.inj henv
    exact clearConfig_changes _ uid inner
  · obtain rfl := Option.some.inj henv
    exact setDestinationPolicy_changes _ uid ranges inner
  · cases henv
  · cases henv

end requests

end ProtonVpnOmarchy.Splitd
