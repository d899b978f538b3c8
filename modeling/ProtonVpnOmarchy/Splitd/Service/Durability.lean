import ProtonVpnOmarchy.Splitd.Service.Access

/-!
# The state file over the life of the daemon

* `step_sound` — one happening leaves the engine and the file in states that can be loaded.
* `file_loads` — whatever happened, the file is loaded as what was saved last, unless it is one byte too
  long.
-/

namespace ProtonVpnOmarchy.Splitd.Service

open Std (ExtTreeMap)
open Lib Lib.Fallible Bpf StateStore

/-! ## The file -/

section file

variable {json : StateJson} {text : IpNetText} {file : Option String}

/-- The file has a state that was saved. -/
structure Contains (json : StateJson) (text : IpNetText) (contents : String) (state : StoredState) :
    Prop where
  version : state.schemaVersion = SCHEMA_VERSION
  loadable : Loadable text state.configs state.destinationPolicies state.killSwitchBypass
  contents : contents = json.toVecPretty state ++ "\n"
  size_le : (json.toVecPretty state).utf8ByteSize ≤ MAX_STATE_BYTES

/-- The file has a state with such configurations and policies; without a file there are none. -/
def FileHas (json : StateJson) (text : IpNetText) (P : ConfigMap → PolicyMap → Prop) :
    Option String → Prop
  | none => P ∅ ∅
  | some contents => ∃ state, Contains json text contents state ∧
      P state.configs state.destinationPolicies

theorem fileHas_save {P : ConfigMap → PolicyMap → Prop} (h : FileHas json text P file) {env : SaveEnv}
    {state : StoredState} (hversion : state.schemaVersion = SCHEMA_VERSION)
    (hloadable : Loadable text state.configs state.destinationPolicies state.killSwitchBypass)
    (hstate : P state.configs state.destinationPolicies) :
    FileHas json text P ((save json env state).exec file).2 := by
  rcases save_spec json env state file with ⟨hsame, -⟩ | ⟨hsaved, hsize⟩
  · rw [hsame]
    exact h
  · rw [hsaved]
    exact ⟨state, ⟨hversion, hloadable, rfl, hsize⟩, hstate⟩

/-- A load that succeeds finds what was saved. -/
theorem load_eq (hjson : json.Lawful) {contents : String} {state : StoredState} {env : LoadEnv}
    {loaded : LoadedState} (hcontains : Contains json text contents state)
    (h : load json text env (some contents) = .ok loaded) :
    loaded = ⟨state.configs, state.destinationPolicies, state.killSwitchBypass⟩ := by
  obtain ⟨version, configs, policies, bypass⟩ := state
  obtain rfl : version = SCHEMA_VERSION := hcontains.version
  obtain rfl := hcontains.contents
  unfold load at h
  obtain ⟨-, -, h⟩ := Except.bind_eq_ok.mp h
  obtain ⟨-, -, h⟩ := Except.bind_eq_ok.mp h
  split_ifs at h
  obtain ⟨-, -, h⟩ := Except.bind_eq_ok.mp h
  rw [hjson] at h
  have haccepted : accept text ⟨SCHEMA_VERSION, configs, policies, bypass⟩ = .ok loaded := h
  rw [accept_of_loadable hcontains.loadable] at haccepted
  exact (Except.ok.inj haccepted).symm

end file

/-! ## Calls -/

section calls

variable {V : Type} {json : StateJson} {text : IpNetText} {values : OwnedValues V}
  {P : ConfigMap → PolicyMap → Prop}

/-- The engine and the file are in states that can be loaded, with such configurations and policies. -/
structure DaemonSound (json : StateJson) (text : IpNetText) (P : ConfigMap → PolicyMap → Prop)
    (daemon : Daemon) : Prop where
  engine : InnerLoadable text daemon.engine
  entries : P daemon.engine.configs daemon.engine.destinationPolicies
  file : FileHas json text P daemon.file

/-- Changes for one user do not matter. -/
def Indifferent (P : ConfigMap → PolicyMap → Prop) (uid : UInt16) : Prop :=
  ∀ inner inner' : Inner, (∀ other, uid ≠ other → SameFor other inner inner') →
    P inner.configs inner.destinationPolicies → P inner'.configs inner'.destinationPolicies

theorem restores_request {env : CallEnv} {uid : UInt16} {inner : Inner} {save : Except IoError Unit}
    (h : InnerLoadable text inner) : Restores (env.request uid inner save) uid inner := by
  intro installed hresult hsome
  obtain ⟨routes, hroutes⟩ := Option.isSome_iff_exists.mp hsome
  refine installed_of_enable (fun route hroute => ?_) hresult
  rw [hroutes] at hroute
  exact (h.routes uid routes hroutes).1.validated route hroute

/-- A request that keeps the engine loadable does so together with the file. -/
theorem perform_sound {env : CallEnv} {uid : UInt16} {request : RequestEnv → Request}
    (hP : Indifferent P uid)
    (hkeeps : ∀ inner save, InnerLoadable text inner →
      LeavesLoadable text inner (request (env.request uid inner save)))
    (hothers : ∀ other, uid ≠ other → ∀ inner save,
      LeavesSame text other inner (request (env.request uid inner save))) :
    Keeps (DaemonSound json text P) (perform json text env uid request) := by
  intro daemon h
  unfold perform
  rw [exec_ofFun]
  dsimp only
  refine ⟨(hkeeps daemon.engine _ h.engine).1,
    hP daemon.engine _ (fun other hne => (hothers other hne daemon.engine _).1) h.entries, ?_⟩
  unfold saveOf
  rcases hsaved : saved text daemon.engine (request (env.request uid daemon.engine (.ok ()))) with _ | state
  · exact h.file
  · have hstate := (hkeeps daemon.engine (.ok ()) h.engine).2 state hsaved
    exact fileHas_save h.file rfl hstate (hP daemon.engine state
      (fun other hne => (hothers other hne daemon.engine (.ok ())).2 state hsaved) h.entries)

theorem saveEngine_sound (env : CallEnv) : Keeps (DaemonSound json text P) (saveEngine json env) := by
  intro daemon h
  exact ⟨h.engine, h.entries, fileHas_save h.file rfl h.engine h.entries⟩

theorem withBypass_sound {daemon : Daemon} (h : DaemonSound json text P daemon) {bypass : BypassMap}
    (hbypass : Loadable text daemon.engine.configs daemon.engine.destinationPolicies bypass) :
    DaemonSound json text P (daemon.withBypass bypass) := ⟨hbypass, h.entries, h.file⟩

theorem reinstall_sound {env : CallEnv} {uid : UInt16} {previous : Option (List PhysicalRoute)}
    {daemon : Daemon} (h : DaemonSound json text P daemon)
    (hprevious : ∀ routes, previous = some routes → (∀ route ∈ routes, route.validated = .ok route) ∧
      daemon.engine.configs[uid]?.any SplitConfig.hasRules = true) :
    DaemonSound json text P (reinstall env uid previous daemon) := by
  unfold reinstall
  rcases previous with _ | routes
  · exact h
  · obtain ⟨hvalid, hrules⟩ := hprevious routes rfl
    dsimp only
    rcases hresult : ((Routing.enable env.restore.1 uid routes).exec env.restore.2).1 with error | restored
    · exact h
    · exact withBypass_sound h (loadable_install h.engine (installed_of_enable hvalid hresult) hrules)

theorem setKillSwitchBypass_sound (env : CallEnv) (uid : UInt16) (enabled : Bool)
    {routes : List PhysicalRoute} (hvalid : ∀ route ∈ routes, route.validated = .ok route) :
    Keeps (DaemonSound json text P) (setKillSwitchBypass json env uid enabled routes) := by
  intro daemon h
  -- The routes from before may be installed again, whatever was done in between.
  have hprevious : ∀ other : Daemon, other.engine.configs = daemon.engine.configs →
      ∀ routes, daemon.engine.killSwitchBypass[uid]? = some routes →
        (∀ route ∈ routes, route.validated = .ok route) ∧
          other.engine.configs[uid]?.any SplitConfig.hasRules = true := by
    intro other hconfigs routes hroutes
    rw [hconfigs]
    exact ⟨(h.engine.routes uid routes hroutes).1.validated, (h.engine.routes uid routes hroutes).2⟩
  have herased : DaemonSound json text P
      (daemon.withBypass (daemon.engine.killSwitchBypass.erase uid)) :=
    withBypass_sound h (loadable_erase h.engine uid)
  unfold setKillSwitchBypass
  rw [exec_ofFun]
  dsimp only
  by_cases hrefused : (enabled && !daemon.engine.configs[uid]?.any SplitConfig.hasRules) = true
  · rw [if_pos hrefused]
    exact h
  rw [if_neg hrefused]
  by_cases henabled : enabled = true
  · have hrules : daemon.engine.configs[uid]?.any SplitConfig.hasRules = true := by
      simpa [henabled] using hrefused
    rw [if_pos henabled]
    by_cases hsame : daemon.engine.killSwitchBypass[uid]? = some routes
    · rw [if_pos hsame]
      exact h
    rw [if_neg hsame]
    split
    · exact h
    rcases hresult : ((Routing.enable env.enable.1 uid routes).exec env.enable.2).1 with error | installed
    · exact reinstall_sound herased (hprevious _ rfl)
    · have hinstalled : DaemonSound json text P
          (daemon.withBypass ((daemon.engine.killSwitchBypass.erase uid).insert uid installed)) :=
        withBypass_sound h
          (loadable_install herased.engine (installed_of_enable hvalid hresult) hrules)
      dsimp only
      rcases hsave : (saveEngine json env).exec _ with ⟨error | _, after⟩
      · have hafter := (saveEngine_sound env).of_exec hinstalled hsave
        have hengine : after.engine = _ := congrArg (fun result => result.2.engine) hsave.symm
        refine reinstall_sound (withBypass_sound hafter (loadable_erase hafter.engine uid))
          (hprevious _ ?_)
        rw [Daemon.withBypass, hengine]
        rfl
      · exact (saveEngine_sound env).of_exec hinstalled hsave
  · rw [if_neg henabled]
    rcases hbypass : daemon.engine.killSwitchBypass[uid]? with _ | previous
    · exact h
    dsimp only
    rcases ((Routing.disable env.disable.1 uid _).exec env.disable.2).1 with error | _
    · exact h
    dsimp only
    rcases hsave : (saveEngine json env).exec _ with ⟨error | _, after⟩
    · have hafter := (saveEngine_sound env).of_exec herased hsave
      have hengine : after.engine = _ := congrArg (fun result => result.2.engine) hsave.symm
      rw [← hbypass]
      refine reinstall_sound hafter (hprevious _ ?_)
      rw [hengine]
      rfl
    · exact (saveEngine_sound env).of_exec herased hsave

/-! ### Arguments -/

theorem validated_of_parseRoutes {arguments : List (String × String × String)}
    {routes : List PhysicalRoute} (h : parseRoutes arguments = .ok routes) :
    ∀ route ∈ routes, route.validated = .ok route := by
  intro route hroute
  unfold parseRoutes at h
  split_ifs at h
  rcases hparsed : arguments.mapM (fun route => PhysicalRoute.parse route.1 route.2.1 route.2.2)
    with error | parsed
  · rw [hparsed] at h
    cases h
  · rw [hparsed] at h
    obtain rfl := Except.ok.inj h
    obtain ⟨argument, -, hargument⟩ := (Except.mem_of_mapM_eq_ok hparsed).2 route hroute
    exact PhysicalRoute.validated_of_parse hargument

theorem validated_of_invalidArgs {entries : ExtTreeMap String V} {config : SplitConfig}
    (hlaw : text.Lawful) (hshort : text.Short)
    (h : invalidArgs (configFromDbus values text entries) = .ok config) :
    config.validate text = .ok config := by
  rcases hconfig : configFromDbus values text entries with error | read
  · rw [hconfig] at h
    cases h
  · rw [hconfig] at h
    obtain rfl := Except.ok.inj h
    unfold configFromDbus at hconfig
    obtain ⟨mode, -, hconfig⟩ := Except.bind_eq_ok.mp hconfig
    obtain ⟨appPaths, -, hconfig⟩ := Except.bind_eq_ok.mp hconfig
    obtain ⟨ipRanges, -, hconfig⟩ := Except.bind_eq_ok.mp hconfig
    dsimp only at hconfig
    split_ifs at hconfig
    obtain ⟨mode, -, hconfig⟩ := Except.bind_eq_ok.mp hconfig
    exact (validate_spec hlaw hshort hconfig).again

theorem validateIpRanges_again {given ranges : List String} (hlaw : text.Lawful)
    (hshort : text.Short) (h : invalidArgs (validateIpRanges text given) = .ok ranges) :
    validateIpRanges text ranges = .ok ranges := by
  rcases hranges : validateIpRanges text given with error | read
  · rw [hranges] at h
    cases h
  · rw [hranges] at h
    obtain rfl := Except.ok.inj h
    obtain ⟨hcanonical, hlength⟩ := validateIpRanges_spec hranges
    obtain ⟨canonical, -, rfl⟩ := validateIpRanges_eq_ok hranges
    exact validateIpRanges_of_canonical hlaw hshort hlength (nodup_normalize _) hcanonical

theorem change_sound {result : Except FdoError (Fallible IoError Daemon Unit)} {daemon : Daemon}
    (h : DaemonSound json text P daemon)
    (hkeeps : ∀ request, result = .ok request → Keeps (DaemonSound json text P) request) :
    DaemonSound json text P (change (V := V) result daemon).2 := by
  rcases result with error | request
  · exact h
  · exact hkeeps request rfl daemon h

/-- **A call** leaves a daemon whose states can be loaded. -/
theorem call_sound (hlaw : text.Lawful) (hshort : text.Short) {env : CallEnv} {daemon : Daemon}
    (h : DaemonSound json text P daemon) {method : Method V}
    (hP : ∀ uid, method.configures = some uid → MayTarget env.header uid → Indifferent P uid) :
    DaemonSound json text P (call json text values env daemon method).2 := by
  cases method with
  | setConfig uid entries =>
      refine change_sound h fun request hrequest => ?_
      obtain ⟨⟨⟩, hauthorized, hrequest⟩ := Except.bind_eq_ok.mp hrequest
      obtain ⟨config, hconfig, hrequest⟩ := Except.bind_eq_ok.mp hrequest
      obtain rfl := Except.ok.inj hrequest
      exact perform_sound (hP uid rfl (authorize_eq_ok.mp hauthorized))
        (fun inner save hinner => loadable_setConfig hinner
          (validated_of_invalidArgs hlaw hshort hconfig) rfl (restores_request hinner))
        (fun other hne inner save => leavesSame_setConfig hne config)
  | getConfig uid => exact h
  | clearConfig uid =>
      refine change_sound h fun request hrequest => ?_
      obtain ⟨⟨⟩, hauthorized, hrequest⟩ := Except.bind_eq_ok.mp hrequest
      obtain rfl := Except.ok.inj hrequest
      exact perform_sound (hP uid rfl (authorize_eq_ok.mp hauthorized))
        (fun inner save hinner => loadable_clearConfig hinner rfl (restores_request hinner))
        (fun other hne inner save => leavesSame_clearConfig hne)
  | logStatus => exact h
  | setDestinationPolicy uid ranges =>
      refine change_sound h fun request hrequest => ?_
      obtain ⟨⟨⟩, hauthorized, hrequest⟩ := Except.bind_eq_ok.mp hrequest
      obtain ⟨ranges, hranges, hrequest⟩ := Except.bind_eq_ok.mp hrequest
      obtain rfl := Except.ok.inj hrequest
      exact perform_sound (hP uid rfl (authorize_eq_ok.mp hauthorized))
        (fun inner save hinner => loadable_setDestinationPolicy hinner
          (validateIpRanges_again hlaw hshort hranges))
        (fun other hne inner save => leavesSame_setDestinationPolicy hne ranges)
  | getDestinationPolicy uid => exact h
  | setKillSwitchBypass uid enabled routes =>
      refine change_sound h fun request hrequest => ?_
      obtain ⟨-, -, hrequest⟩ := Except.bind_eq_ok.mp hrequest
      obtain ⟨routes, hroutes, hrequest⟩ := Except.bind_eq_ok.mp hrequest
      obtain rfl := Except.ok.inj hrequest
      exact setKillSwitchBypass_sound env uid enabled (validated_of_parseRoutes hroutes)
  | getAllConfigs => exact h

/-! ## Starts, events and rescans -/

/-- **A start** takes what is in the file, and leaves a file with the same configurations and policies. -/
theorem start_spec (hjson : json.Lawful) {file : Option String}
    (h : FileHas json text P file) (env : StartEnv) :
    FileHas json text P ((start json text env).exec file).2 ∧
      ∀ engine, ((start json text env).exec file).1 = .ok engine →
        InnerLoadable text engine ∧ P engine.configs engine.destinationPolicies := by
  have hloaded : ∀ loaded, load json text env.load file = .ok loaded →
      Loadable text loaded.configs loaded.destinationPolicies loaded.killSwitchBypass ∧
        P loaded.configs loaded.destinationPolicies := by
    intro loaded hload
    rcases file with _ | contents
    · unfold load at hload
      obtain ⟨-, -, hload⟩ := Except.bind_eq_ok.mp hload
      obtain rfl := Except.ok.inj hload
      exact ⟨loadable_empty, h⟩
    · obtain ⟨state, hcontains, hstate⟩ := h
      obtain rfl := load_eq hjson hcontains hload
      exact ⟨hcontains.loadable, hstate⟩
  unfold start
  rw [exec_ofFun]
  rcases hload : load json text env.load file with error | loaded
  · exact ⟨h, fun engine hengine => by cases hengine⟩
  obtain ⟨hloadable, hP⟩ := hloaded loaded hload
  have hstale := loadable_noBypass hloadable
  dsimp only
  rcases removeStale env loaded.killSwitchBypass with error | _
  · exact ⟨h, fun engine hengine => by cases hengine⟩
  have hfile : FileHas json text P ((forgetStale json env loaded).exec file).2 := by
    unfold forgetStale
    split_ifs
    · exact h
    · exact fileHas_save h rfl hstale hP
  dsimp only
  rcases hforget : (forgetStale json env loaded).exec file with ⟨error | _, after⟩
  · rw [hforget] at hfile
    exact ⟨hfile, fun engine hengine => by cases hengine⟩
  rw [hforget] at hfile
  dsimp only
  rcases hexec : (reconcile text env.reconcile).exec _ with ⟨error | _, inner⟩
  · exact ⟨hfile, fun engine hengine => by cases hengine⟩
  obtain ⟨hconfigs, hpolicies, -⟩ := reconcile_frame hexec
  refine ⟨hfile, fun engine hengine => ?_⟩
  obtain ⟨-, -, rfl⟩ := Except.map_eq_ok.mp hengine
  refine ⟨loadable_of_exec hstale hexec, ?_⟩
  rw [hconfigs, hpolicies]
  exact hP

theorem loadable_handleEvent {inner : Inner} (h : InnerLoadable text inner) (env : EventEnv)
    (event : ProcessEvent) : InnerLoadable text ((handleEvent env event).exec inner).2 := by
  obtain ⟨hconfigs, hpolicies, hbypass⟩ := frame_handleEvent env event inner
  unfold InnerLoadable
  rw [hconfigs, hpolicies, hbypass]
  exact h

/-! ## Runs -/

/-- The file, and the engine if there is one, are in states that can be loaded, with such
configurations and policies. -/
structure Sound (json : StateJson) (text : IpNetText) (P : ConfigMap → PolicyMap → Prop)
    (system : System) : Prop where
  file : FileHas json text P system.file
  engine : ∀ engine, system.engine = some engine → InnerLoadable text engine
  entries : ∀ engine, system.engine = some engine → P engine.configs engine.destinationPolicies

/-- **Whatever happens** leaves states that can be loaded. -/
theorem step_sound (hlaw : text.Lawful) (hshort : text.Short) (hjson : json.Lawful) {system : System}
    (h : Sound json text P system) {happening : Happening V}
    (hP : ∀ uid, Accepted Method.configures uid happening → Indifferent P uid) :
    Sound json text P (system.step json text values happening) := by
  obtain ⟨file, running⟩ := system
  -- What is left of the engine, if anything
  have hrunning : ∀ {file engine}, DaemonSound json text P ⟨engine, file⟩ →
      Sound json text P { file, engine := some engine } := fun {file engine} hdaemon =>
    ⟨hdaemon.file, by rintro _ ⟨⟩; exact hdaemon.engine, by rintro _ ⟨⟩; exact hdaemon.entries⟩
  have hstopped : ∀ {file}, FileHas json text P file → Sound json text P { file, engine := none } :=
    fun {file} hfile => ⟨hfile, by rintro _ ⟨⟩, by rintro _ ⟨⟩⟩
  cases happening with
  | start env =>
      rcases running with _ | engine
      · obtain ⟨hfile, hengine⟩ := start_spec hjson h.file env
        dsimp only [System.step]
        rcases hstart : (start json text env).exec file with ⟨error | engine, after⟩
        · rw [hstart] at hfile
          exact hstopped hfile
        · rw [hstart] at hfile hengine
          exact hrunning ⟨(hengine engine rfl).1, (hengine engine rfl).2, hfile⟩
      · exact h
  | call env method =>
      rcases running with _ | engine
      · exact h
      · exact hrunning (call_sound hlaw hshort
          ⟨h.engine engine rfl, h.entries engine rfl, h.file⟩
          fun uid hconfigures hmay => hP uid ⟨env, method, rfl, hconfigures, hmay⟩)
  | event event env =>
      rcases running with _ | engine
      · exact h
      · obtain ⟨hconfigs, hpolicies, -⟩ := frame_handleEvent env event engine
        refine hrunning ⟨loadable_handleEvent (h.engine engine rfl) env event, ?_, h.file⟩
        dsimp only
        rw [hconfigs, hpolicies]
        exact h.entries engine rfl
  | rescan env =>
      rcases running with _ | engine
      · exact h
      · obtain ⟨hconfigs, hpolicies, -⟩ := frame_reconcile text env engine
        refine hrunning ⟨loadable_reconcile env (h.engine engine rfl), ?_, h.file⟩
        dsimp only
        rw [hconfigs, hpolicies]
        exact h.entries engine rfl
  | stop => exact hstopped h.file

theorem run_sound (hlaw : text.Lawful) (hshort : text.Short) (hjson : json.Lawful)
    {happenings : List (Happening V)}
    (hP : ∀ uid, ∀ happening ∈ happenings, Accepted Method.configures uid happening →
      Indifferent P uid)
    {system : System} (h : Sound json text P system) :
    Sound json text P (happenings.foldl (System.step json text values) system) := by
  induction happenings generalizing system with
  | nil => exact h
  | cons happening happenings ih =>
      exact ih (fun uid other hother => hP uid other (List.mem_cons_of_mem _ hother))
        (step_sound hlaw hshort hjson h fun uid => hP uid happening List.mem_cons_self)

theorem after_sound (hlaw : text.Lawful) (hshort : text.Short) (hjson : json.Lawful)
    (happenings : List (Happening V)) :
    Sound json text (fun _ _ => True) (System.after json text values happenings) :=
  run_sound hlaw hshort hjson (fun uid happening _ _ inner inner' _ _ => trivial)
    ⟨trivial, by rintro _ ⟨⟩, by rintro _ ⟨⟩⟩

/-- **Whatever happened, the file can be loaded**: it is the text of a state, and a load takes that
state, unless the newline after the text is one byte too much. -/
theorem file_loads (hlaw : text.Lawful) (hshort : text.Short) (hjson : json.Lawful)
    (happenings : List (Happening V)) {contents : String}
    (hfile : (System.after json text values happenings).file = some contents) :
    ∃ configs policies bypass,
      contents = json.toVecPretty ⟨SCHEMA_VERSION, configs, policies, bypass⟩ ++ "\n" ∧
      load json text {} (some contents) =
        if (json.toVecPretty ⟨SCHEMA_VERSION, configs, policies, bypass⟩).utf8ByteSize = MAX_STATE_BYTES
        then .error (invalidState "state file exceeds the 2 MiB limit")
        else .ok ⟨configs, policies, bypass⟩ := by
  have hsound : FileHas json text (fun _ _ => True) (System.after json text values happenings).file :=
    (after_sound hlaw hshort hjson happenings).file
  rw [hfile] at hsound
  obtain ⟨⟨version, configs, policies, bypass⟩, hcontains, -⟩ := hsound
  obtain rfl : version = SCHEMA_VERSION := hcontains.version
  refine ⟨configs, policies, bypass, hcontains.contents, ?_⟩
  have hcontents := hcontains.contents
  subst hcontents
  rw [load_of_loadable hjson hcontains.loadable]
  refine if_congr ?_ rfl rfl
  exact ⟨fun hlong => le_antisymm hcontains.size_le (Nat.le_of_lt_succ hlong),
    fun heq => heq ▸ Nat.lt_succ_self _⟩

/-- The user's own network is reached outside the tunnel. -/
def setsPolicy : Method (String ⊕ List String) := .setDestinationPolicy 1000 ["10.0.0.0/8"]

def policySet : List (Happening (String ⊕ List String)) :=
  [.start quietStart, .call (quietCall 1000) setsPolicy]

theorem file_loads_policySet : ∃ contents,
    (System.after StateText.stateJson decimalText plainValues policySet).file = some contents ∧
      ∃ configs policies bypass,
        contents = StateText.stateJson.toVecPretty ⟨SCHEMA_VERSION, configs, policies, bypass⟩ ++ "\n" ∧
        load StateText.stateJson decimalText {} (some contents) =
          if (StateText.stateJson.toVecPretty
            ⟨SCHEMA_VERSION, configs, policies, bypass⟩).utf8ByteSize = MAX_STATE_BYTES
          then .error (invalidState "state file exceeds the 2 MiB limit")
          else .ok ⟨configs, policies, bypass⟩ := by
  obtain ⟨contents, hfile⟩ := Option.isSome_iff_exists.mp (show
    (System.after StateText.stateJson decimalText plainValues policySet).file.isSome by
      decide +kernel)
  exact ⟨contents, hfile, file_loads decimalText_lawful decimalText_short StateText.stateJson_lawful
    policySet hfile⟩

end calls

end ProtonVpnOmarchy.Splitd.Service
