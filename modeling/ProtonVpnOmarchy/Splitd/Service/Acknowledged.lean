import ProtonVpnOmarchy.Splitd.Service.Durability

/-!
# What the daemon has acknowledged

A call that changes a configuration or a destination policy is answered after the state was saved.

* `call_done` — once it is answered, the engine and the file have what was asked for.
* `acknowledged_survives` — this stays so over stops, starts and everything else, until another call
  changes the entries of that user.
-/

namespace ProtonVpnOmarchy.Splitd.Service

open Std (ExtTreeMap)
open Lib Lib.Fallible Bpf StateStore

/-! ## Requests -/

section requests

variable {text : IpNetText} {inner after : Inner} {env : RequestEnv}

/-- A successful rescan and save -/
theorem reconcile_of_ok (hexec : (reconcileAndSave text env).exec inner = (.ok (), after)) :
    (reconcile text env.reconcile).exec inner = (.ok (), after) ∧ env.save = .ok () := by
  obtain ⟨r, hreconcile, ⟨-, rfl, hsave⟩ | ⟨⟨error, herror⟩, -⟩⟩ := reconcileAndSave_cases hexec
  · exact ⟨hreconcile, hsave⟩
  · cases herror

/-- **A request that succeeds** saves the state that it leaves, which is the one it was to lead to. -/
theorem perform_ok {request : Request} (henv : request.env? = some env)
    (hexec : (request.perform text).exec inner = (.ok (), after)) :
    saved text inner request = some after ∧ env.save = .ok () ∧
      after.configs = (request.target inner).1 ∧ after.destinationPolicies = (request.target inner).2 := by
  rcases request with ⟨uid, config, env'⟩ | ⟨uid, env'⟩ | ⟨uid, ranges, env'⟩ | _ | _
  · obtain rfl := Option.some.inj henv
    unfold Request.perform setConfig at hexec
    unfold saved
    dsimp only at hexec ⊢
    rw [exec_ofFun] at hexec
    by_cases hfull : inner.full uid = true
    · rw [if_pos hfull] at hexec
      cases (Prod.mk.inj hexec).1
    rw [if_neg hfull] at hexec ⊢
    rcases hremove : removeBypass env' uid _ inner with error | removed
    · rw [hremove] at hexec
      cases (Prod.mk.inj hexec).1
    · rw [hremove] at hexec
      obtain rfl := removeBypass_spec hremove
      dsimp only at hexec ⊢
      split at hexec
      · next after' hsave =>
          obtain rfl := (Prod.mk.inj hexec).2
          obtain ⟨hreconcile, hsaved⟩ := reconcile_of_ok hsave
          obtain ⟨hconfigs, hpolicies, -⟩ := reconcile_frame hreconcile
          rw [hreconcile]
          exact ⟨rfl, hsaved, hconfigs, hpolicies⟩
      · cases (Prod.mk.inj hexec).1
  · obtain rfl := Option.some.inj henv
    unfold Request.perform clearConfig at hexec
    unfold saved
    dsimp only at hexec ⊢
    rw [exec_ofFun] at hexec
    rcases hremove : removeBypass env' uid _ inner with error | removed
    · rw [hremove] at hexec
      cases (Prod.mk.inj hexec).1
    · rw [hremove] at hexec
      obtain rfl := removeBypass_spec hremove
      dsimp only at hexec ⊢
      split at hexec
      · next after' hsave =>
          obtain rfl := (Prod.mk.inj hexec).2
          obtain ⟨hreconcile, hsaved⟩ := reconcile_of_ok hsave
          obtain ⟨hconfigs, hpolicies, -⟩ := reconcile_frame hreconcile
          rw [hreconcile]
          exact ⟨rfl, hsaved, hconfigs, hpolicies⟩
      · cases (Prod.mk.inj hexec).1
  · obtain rfl := Option.some.inj henv
    unfold Request.perform setDestinationPolicy at hexec
    unfold saved
    dsimp only at hexec ⊢
    rw [exec_ofFun] at hexec
    by_cases hfull : inner.full uid = true
    · rw [if_pos hfull] at hexec
      cases (Prod.mk.inj hexec).1
    rw [if_neg hfull] at hexec ⊢
    split at hexec
    · next after' hsave =>
        obtain rfl := (Prod.mk.inj hexec).2
        obtain ⟨hreconcile, hsaved⟩ := reconcile_of_ok hsave
        obtain ⟨hconfigs, hpolicies, -⟩ := reconcile_frame hreconcile
        rw [hreconcile]
        exact ⟨rfl, hsaved, hconfigs, hpolicies⟩
    · cases (Prod.mk.inj hexec).1
  · cases henv
  · cases henv

end requests

/-! ## Calls -/

section calls

variable {V : Type} {json : StateJson} {text : IpNetText} {values : OwnedValues V}

/-- What a call asks for, of the configurations and the policies -/
def Method.Asks (values : OwnedValues V) (text : IpNetText) :
    Method V → ConfigMap → PolicyMap → Prop
  | .setConfig uid entries, configs, _ =>
    ∃ config, configFromDbus values text entries = .ok config ∧ configs[uid]? = some config
  | .clearConfig uid, configs, _ => configs[uid]? = none
  | .setDestinationPolicy uid ranges, _, policies =>
    validateIpRanges text ranges = .ok (policies[uid]?.getD [])
  | _, _, _ => True

/-- A request that is acknowledged is in the file. -/
theorem perform_done {P : ConfigMap → PolicyMap → Prop} {env : CallEnv} {uid : UInt16}
    {request : RequestEnv → Request} {daemon : Daemon}
    (hrequest : (∃ config, request = .setConfig uid config) ∨ request = .clearConfig uid ∨
      ∃ ranges, request = .setDestinationPolicy uid ranges)
    (hsound : DaemonSound json text P ((perform json text env uid request).exec daemon).2)
    (hdone : ((perform json text env uid request).exec daemon).1 = .ok ())
    {Q : ConfigMap → PolicyMap → Prop}
    (htarget : ∀ env, Q ((request env).target daemon.engine).1 ((request env).target daemon.engine).2) :
    DaemonSound json text Q ((perform json text env uid request).exec daemon).2 := by
  have henv : ∀ env, (request env).env? = some env := by
    rcases hrequest with ⟨config, rfl⟩ | rfl | ⟨ranges, rfl⟩ <;> exact fun env => rfl
  have hloadable := hsound.engine
  unfold perform at hdone hloadable ⊢
  rw [exec_ofFun] at hdone hloadable ⊢
  dsimp only at hdone hloadable ⊢
  rcases hsave : saveOf json text env daemon (request (env.request uid daemon.engine (.ok ())))
    with ⟨save, file⟩
  rw [hsave] at hdone hloadable
  dsimp only at hdone hloadable ⊢
  rcases hexec : ((request (env.request uid daemon.engine save)).perform text).exec daemon.engine
    with ⟨result, after⟩
  rw [hexec] at hdone hloadable
  obtain rfl : result = .ok () := hdone
  obtain ⟨hsaved, hok, hconfigs, hpolicies⟩ := perform_ok (henv _) hexec
  obtain rfl : save = .ok () := hok
  have hQ : Q after.configs after.destinationPolicies := by
    rw [hconfigs, hpolicies]
    exact htarget _
  refine ⟨hloadable, hQ, ?_⟩
  unfold saveOf at hsave
  rw [hsaved] at hsave
  dsimp only at hsave
  rcases save_spec json env.save (stored after) daemon.file with ⟨-, hfailed⟩ | ⟨hfile, hsize⟩
  · rw [hsave] at hfailed
    exact absurd rfl hfailed
  · rw [hsave] at hfile
    obtain rfl : file = _ := hfile
    exact ⟨stored after, ⟨rfl, hloadable, rfl, hsize⟩, hQ⟩

theorem change_done {result : Except FdoError (Fallible IoError Daemon Unit)} {daemon : Daemon}
    {reply : Reply V} (hdone : (change result daemon).1 = .ok reply) :
    ∃ request, result = .ok request ∧ (request.exec daemon).1 = .ok () ∧
      (change (V := V) result daemon).2 = (request.exec daemon).2 := by
  rcases result with error | request
  · cases hdone
  · refine ⟨request, rfl, ?_, rfl⟩
    dsimp only [change] at hdone
    rcases hexec : (request.exec daemon).1 with error | _
    · rw [hexec] at hdone
      cases hdone
    · rfl

/-- **Once a call is answered**, the engine and the file have what was asked for. -/
theorem call_done (hlaw : text.Lawful) (hshort : text.Short) {env : CallEnv} {daemon : Daemon}
    (h : DaemonSound json text (fun _ _ => True) daemon) {method : Method V} {uid : UInt16}
    (hmethod : method.configures = some uid) {reply : Reply V}
    (hdone : (call json text values env daemon method).1 = .ok reply) :
    DaemonSound json text (method.Asks values text) (call json text values env daemon method).2 := by
  have hsound : DaemonSound json text (fun _ _ => True) (call json text values env daemon method).2 :=
    call_sound hlaw hshort h fun uid _ _ inner inner' _ _ => trivial
  cases method with
  | setConfig uid entries =>
      obtain ⟨request, hrequest, hexec, hafter⟩ := change_done hdone
      obtain ⟨⟨⟩, -, hrequest⟩ := Except.bind_eq_ok.mp hrequest
      obtain ⟨config, hconfig, hrequest⟩ := Except.bind_eq_ok.mp hrequest
      obtain rfl := Except.ok.inj hrequest
      refine (congrArg (DaemonSound json text _) hafter).mpr (perform_done (.inl ⟨config, rfl⟩)
        ((congrArg (DaemonSound json text _) hafter).mp hsound) hexec fun _ => ?_)
      refine ⟨config, ?_, ExtTreeMap.getElem?_insert_self⟩
      rcases hread : configFromDbus values text entries with error | read
      · rw [hread] at hconfig
        cases hconfig
      · rw [hread] at hconfig
        obtain rfl := Except.ok.inj hconfig
        rfl
  | clearConfig uid =>
      obtain ⟨request, hrequest, hexec, hafter⟩ := change_done hdone
      obtain ⟨⟨⟩, -, hrequest⟩ := Except.bind_eq_ok.mp hrequest
      obtain rfl := Except.ok.inj hrequest
      refine (congrArg (DaemonSound json text _) hafter).mpr (perform_done (.inr (.inl rfl))
        ((congrArg (DaemonSound json text _) hafter).mp hsound) hexec fun _ => ?_)
      exact ExtTreeMap.getElem?_erase_self
  | setDestinationPolicy uid given =>
      obtain ⟨request, hrequest, hexec, hafter⟩ := change_done hdone
      obtain ⟨⟨⟩, -, hrequest⟩ := Except.bind_eq_ok.mp hrequest
      obtain ⟨ranges, hranges, hrequest⟩ := Except.bind_eq_ok.mp hrequest
      obtain rfl := Except.ok.inj hrequest
      refine (congrArg (DaemonSound json text _) hafter).mpr (perform_done (.inr (.inr ⟨ranges, rfl⟩))
        ((congrArg (DaemonSound json text _) hafter).mp hsound) hexec fun _ => ?_)
      rcases hread : validateIpRanges text given with error | read
      · rw [hread] at hranges
        cases hranges
      · rw [hread] at hranges
        obtain rfl := Except.ok.inj hranges
        show validateIpRanges text given = .ok _
        rw [hread]
        dsimp only [Request.target]
        split_ifs with hempty
        · rw [ExtTreeMap.getElem?_erase_self, List.isEmpty_iff.mp hempty]
          rfl
        · rw [ExtTreeMap.getElem?_insert_self]
          rfl
  | getConfig uid => cases hmethod
  | logStatus => cases hmethod
  | getDestinationPolicy uid => cases hmethod
  | setKillSwitchBypass uid enabled routes => cases hmethod
  | getAllConfigs => cases hmethod

/-- What a call asks for is about its user. -/
theorem asks_indifferent {method : Method V} {uid other : UInt16} (hmethod : method.configures = some uid)
    (hne : other ≠ uid) : Indifferent (method.Asks values text) other := by
  intro inner inner' hsame hasks
  have huser := hsame uid hne
  cases method with
  | setConfig uid' entries =>
      obtain rfl := Option.some.inj hmethod
      obtain ⟨config, hconfig, hget⟩ := hasks
      exact ⟨config, hconfig, huser.config.trans hget⟩
  | clearConfig uid' =>
      obtain rfl := Option.some.inj hmethod
      exact huser.config.trans hasks
  | setDestinationPolicy uid' ranges =>
      obtain rfl := Option.some.inj hmethod
      dsimp only [Method.Asks] at hasks ⊢
      rw [huser.policy]
      exact hasks
  | getConfig uid => cases hmethod
  | logStatus => cases hmethod
  | getDestinationPolicy uid => cases hmethod
  | setKillSwitchBypass uid enabled routes => cases hmethod
  | getAllConfigs => cases hmethod

/-- **What was acknowledged stays so**, over stops, starts and everything else, until a call about the
same user is accepted. -/
theorem acknowledged_survives (hlaw : text.Lawful) (hshort : text.Short) (hjson : json.Lawful)
    {happenings later : List (Happening V)} {env : CallEnv} {method : Method V} {uid : UInt16}
    {engine : Inner} {reply : Reply V}
    (hengine : (System.after json text values happenings).engine = some engine)
    (hmethod : method.configures = some uid)
    (hdone : (call json text values env
      ⟨engine, (System.after json text values happenings).file⟩ method).1 = .ok reply)
    (hspared : ∀ happening ∈ later, ¬ Accepted Method.configures uid happening) {engine' : Inner}
    (hengine' : (System.after json text values (happenings ++ .call env method :: later)).engine =
      some engine') :
    method.Asks values text engine'.configs engine'.destinationPolicies := by
  have hbefore : Sound json text (fun _ _ => True) (System.after json text values happenings) :=
    after_sound hlaw hshort hjson happenings
  have hcalled := call_done hlaw hshort
    ⟨hbefore.engine engine hengine, trivial, hbefore.file⟩ hmethod hdone
  have hstep : Sound json text (method.Asks values text)
      ((System.after json text values happenings).step json text values (.call env method)) := by
    unfold System.step
    dsimp only
    rw [hengine]
    exact ⟨hcalled.file, by rintro _ ⟨⟩; exact hcalled.engine, by rintro _ ⟨⟩; exact hcalled.entries⟩
  have hothers : ∀ other, ∀ happening ∈ later, Accepted Method.configures other happening →
      Indifferent (method.Asks values text) other := by
    intro other happening hmem haccepted
    refine asks_indifferent hmethod ?_
    rintro rfl
    exact hspared happening hmem haccepted
  have hlater : Sound json text (method.Asks values text) (later.foldl (System.step json text values)
      ((System.after json text values happenings).step json text values (.call env method))) :=
    run_sound hlaw hshort hjson hothers hstep
  unfold System.after at hengine'
  rw [List.foldl_append, List.foldl_cons] at hengine'
  exact hlater.entries engine' hengine'

def restarts : List (Happening (String ⊕ List String)) := [.stop, .start quietStart]

/-- The daemon after its start -/
def started : Inner :=
  (System.after StateText.stateJson decimalText plainValues [.start quietStart]).engine.getD {}

theorem acknowledged_survives_restart : ∃ engine,
    (System.after StateText.stateJson decimalText plainValues
      (policySet ++ restarts)).engine = some engine ∧
      setsPolicy.Asks plainValues decimalText engine.configs engine.destinationPolicies := by
  have hstarted : (System.after StateText.stateJson decimalText plainValues [.start quietStart]).engine =
      some started := by
    have hsome : (System.after StateText.stateJson decimalText plainValues
        [.start quietStart]).engine.isSome := by decide +kernel
    obtain ⟨engine, hengine⟩ := Option.isSome_iff_exists.mp hsome
    unfold started
    rw [hengine]
    rfl
  obtain ⟨reply, hreply⟩ : ∃ reply, (call StateText.stateJson decimalText plainValues (quietCall 1000)
      ⟨started, (System.after StateText.stateJson decimalText plainValues [.start quietStart]).file⟩
      setsPolicy).1 = .ok reply := by
    have hok : (call StateText.stateJson decimalText plainValues (quietCall 1000)
        ⟨started, (System.after StateText.stateJson decimalText plainValues [.start quietStart]).file⟩
        setsPolicy).1.isOk = true := by decide +kernel
    rcases hcall : (call StateText.stateJson decimalText plainValues (quietCall 1000)
      ⟨started, (System.after StateText.stateJson decimalText plainValues [.start quietStart]).file⟩
      setsPolicy).1 with error | reply
    · rw [hcall] at hok
      cases hok
    · exact ⟨reply, rfl⟩
  obtain ⟨engine, hengine⟩ := Option.isSome_iff_exists.mp (show
    (System.after StateText.stateJson decimalText plainValues
      (policySet ++ restarts)).engine.isSome by decide +kernel)
  have hspared : ∀ happening ∈ restarts, ¬ Accepted Method.configures 1000 happening := by
    rintro happening hmem ⟨env, method, rfl, -, -⟩
    simp [restarts] at hmem
  exact ⟨engine, hengine, acknowledged_survives decimalText_lawful decimalText_short
    StateText.stateJson_lawful hstarted rfl hreply hspared hengine⟩

end calls

end ProtonVpnOmarchy.Splitd.Service
