import ProtonVpnOmarchy.Splitd.Engine.EmptyConfigs

/-!
# Following the events and scanning again

The engine learns of processes in two ways: it follows the kernel's events, and it scans. Between
two scans the process forest changes by `KernelChange`s, and the engine handles the event of each.
Following inherits a match when a process is forked and keeps it across an exec; a scan inherits from
whoever is the parent now. `following_agrees` says when the two agree: no exec and no exit changes
what a process inherits. `orphan_loses_match` is an exit that does.
-/

namespace ProtonVpnOmarchy.Splitd

open Std (ExtTreeMap)
open Lib Lib.Fallible Bpf

/-! ## The process forest -/

section forest

variable {processes : List ProcessInfo} {pid : UInt32}

/-- Pids are distinct and parents come first in some order. -/
structure Forest (processes : List ProcessInfo) : Prop where
  nodup : (processes.map (·.pid)).Nodup
  acyclic : ∃ rank : UInt32 → ℕ, ∀ info ∈ processes, rank info.ppid < rank info.pid

/-- A process and its descendants. -/
inductive Descendant (processes : List ProcessInfo) (pid : UInt32) : UInt32 → Prop
  | self : Descendant processes pid pid
  | child {info : ProcessInfo} (hmem : info ∈ processes)
      (hparent : Descendant processes pid info.ppid) : Descendant processes pid info.pid

/-- The process `pid` runs another program, possibly as another user. -/
def execInto (pid : UInt32) (uid : UInt16) (identities : List String) (info : ProcessInfo) :
    ProcessInfo :=
  if info.pid = pid then { info with uid := uid, identities := identities } else info

/-- Children of `pid` get a new parent. -/
def reparent (pid reaper : UInt32) (info : ProcessInfo) : ProcessInfo :=
  if info.ppid = pid then { info with ppid := reaper } else info

/-- What the kernel does to the forest. -/
inductive KernelChange where
  | fork (parent : ProcessInfo) (child : UInt32)
  | exec (info : ProcessInfo) (uid : UInt16) (identities : List String)
  | exit (info : ProcessInfo) (reaper : UInt32)

namespace KernelChange

/-- The event the kernel reports. -/
def event : KernelChange → ProcessEvent
  | .fork parent child => .fork parent.pid child
  | .exec info _ _ => .exec info.pid
  | .exit info _ => .exit info.pid

/-- The forest afterwards. A forked process is a copy of its parent; the children of a process that
exits go to a reaper. -/
def after (processes : List ProcessInfo) : KernelChange → List ProcessInfo
  | .fork parent child => { parent with pid := child, ppid := parent.pid } :: processes
  | .exec info uid identities => processes.map (execInto info.pid uid identities)
  | .exit info reaper =>
    (processes.filter fun other => other.pid ≠ info.pid).map (reparent info.pid reaper)

/-- The change is one of live processes, with a new pid for a forked process and a reaper outside the
descendants of one that exits. -/
def Allowed (processes : List ProcessInfo) : KernelChange → Prop
  | .fork parent child =>
    parent ∈ processes ∧ ∀ info ∈ processes, info.pid ≠ child ∧ info.ppid ≠ child
  | .exec info _ _ => info ∈ processes
  | .exit info reaper => info ∈ processes ∧ ¬ Descendant processes info.pid reaper

end KernelChange

@[simp] theorem execInto_pid (pid : UInt32) (uid : UInt16) (identities : List String)
    (info : ProcessInfo) : (execInto pid uid identities info).pid = info.pid := by
  unfold execInto
  split_ifs <;> rfl

@[simp] theorem execInto_ppid (pid : UInt32) (uid : UInt16) (identities : List String)
    (info : ProcessInfo) : (execInto pid uid identities info).ppid = info.ppid := by
  unfold execInto
  split_ifs <;> rfl

@[simp] theorem reparent_pid (pid reaper : UInt32) (info : ProcessInfo) :
    (reparent pid reaper info).pid = info.pid := by
  unfold reparent
  split_ifs <;> rfl

@[simp] theorem reparent_uid (pid reaper : UInt32) (info : ProcessInfo) :
    (reparent pid reaper info).uid = info.uid := by
  unfold reparent
  split_ifs <;> rfl

@[simp] theorem reparent_identities (pid reaper : UInt32) (info : ProcessInfo) :
    (reparent pid reaper info).identities = info.identities := by
  unfold reparent
  split_ifs <;> rfl

theorem fork_forest {parent : ProcessInfo} {child : UInt32} (h : Forest processes)
    (hparent : parent ∈ processes)
    (hfresh : ∀ info ∈ processes, info.pid ≠ child ∧ info.ppid ≠ child) :
    Forest ({ parent with pid := child, ppid := parent.pid } :: processes) := by
  obtain ⟨rank, hrank⟩ := h.acyclic
  constructor
  · rw [List.map_cons, List.nodup_cons]
    refine ⟨?_, h.nodup⟩
    intro hmem
    obtain ⟨info, hinfo, hpid⟩ := List.mem_map.mp hmem
    exact (hfresh info hinfo).1 hpid
  · refine ⟨fun pid => if pid = child then rank parent.pid + 1 else rank pid, ?_⟩
    intro info hinfo
    rcases List.mem_cons.mp hinfo with rfl | hinfo
    · dsimp only
      rw [if_neg (hfresh parent hparent).1, if_pos rfl]
      exact Nat.lt_succ_self _
    · dsimp only
      rw [if_neg (hfresh info hinfo).1, if_neg (hfresh info hinfo).2]
      exact hrank info hinfo

theorem exec_forest (uid : UInt16) (identities : List String) (h : Forest processes) :
    Forest (processes.map (execInto pid uid identities)) := by
  obtain ⟨rank, hrank⟩ := h.acyclic
  refine ⟨?_, rank, ?_⟩
  · rw [List.map_map]
    have hpids : (fun info : ProcessInfo => info.pid) ∘ execInto pid uid identities =
        fun info => info.pid := funext fun info => execInto_pid pid uid identities info
    rw [hpids]
    exact h.nodup
  · intro info hinfo
    obtain ⟨info', hinfo', rfl⟩ := List.mem_map.mp hinfo
    rw [execInto_pid, execInto_ppid]
    exact hrank info' hinfo'

theorem exit_forest {reaper : UInt32} (h : Forest processes)
    (hreaper : ¬ Descendant processes pid reaper) :
    Forest ((processes.filter fun other => other.pid ≠ pid).map (reparent pid reaper)) := by
  classical
  obtain ⟨rank, hrank⟩ := h.acyclic
  constructor
  · rw [List.map_map]
    have hpids : (fun info : ProcessInfo => info.pid) ∘ reparent pid reaper =
        fun info => info.pid := funext fun info => reparent_pid pid reaper info
    rw [hpids]
    exact h.nodup.sublist (List.filter_sublist.map _)
  · -- the descendants of the process move behind its reaper
    refine ⟨fun x => if Descendant processes pid x then rank x + rank reaper + 1 else rank x, ?_⟩
    intro info hinfo
    obtain ⟨info', hinfo', rfl⟩ := List.mem_map.mp hinfo
    have hmem := (List.mem_filter.mp hinfo').1
    have hlt := hrank info' hmem
    dsimp only
    rw [reparent_pid]
    unfold reparent
    by_cases hchild : info'.ppid = pid
    · have hdesc : Descendant processes pid info'.pid := .child hmem (hchild ▸ .self)
      rw [if_pos hchild, if_pos hdesc]
      dsimp only
      rw [if_neg hreaper]
      omega
    · rw [if_neg hchild]
      by_cases hdesc : Descendant processes pid info'.ppid
      · rw [if_pos hdesc, if_pos (Descendant.child hmem hdesc)]
        omega
      · rw [if_neg hdesc]
        split_ifs
        · omega
        · exact hlt

theorem KernelChange.forest {change : KernelChange} (hallowed : change.Allowed processes)
    (h : Forest processes) : Forest (change.after processes) := by
  cases change with
  | fork parent child => exact fork_forest h hallowed.1 hallowed.2
  | exec info uid identities => exact exec_forest uid identities h
  | exit info reaper => exact exit_forest h hallowed.2

end forest

/-! ## Matches after a step -/

section matched

variable {configs : ConfigMap} {processes : List ProcessInfo} {pid : UInt32}

theorem Matched.of_direct {info : ProcessInfo} {config : SplitConfig} (hmem : info ∈ processes)
    (hpid : info.pid = pid) (hconfig : configs[info.uid]? = some config)
    (hmatch : config.isMatch info.identities = true) : Matched configs processes pid := by
  rw [← hpid]
  exact .direct hmem hconfig hmatch

theorem Matched.of_inherited {info : ProcessInfo} {config : SplitConfig} (hmem : info ∈ processes)
    (hpid : info.pid = pid) (hconfig : configs[info.uid]? = some config)
    (hparent : Matched configs processes info.ppid) : Matched configs processes pid := by
  rw [← hpid]
  exact .inherited hmem hconfig hparent

/-- Only processes of configured users are matched. -/
theorem Matched.config {info : ProcessInfo} (hnodup : (processes.map (·.pid)).Nodup)
    (hmem : info ∈ processes) (h : Matched configs processes info.pid) :
    ∃ config, configs[info.uid]? = some config := by
  generalize hpid : info.pid = pid at h
  cases h with
  | direct hmem' hconfig =>
      obtain rfl := eq_of_pid hnodup hmem hmem' hpid
      exact ⟨_, hconfig⟩
  | inherited hmem' hconfig =>
      obtain rfl := eq_of_pid hnodup hmem hmem' hpid
      exact ⟨_, hconfig⟩

/-- A fork matches the new process exactly if it matched the parent. -/
theorem fork_matched {parent : ProcessInfo} {child : UInt32}
    (hnodup : (processes.map (·.pid)).Nodup) (hparent : parent ∈ processes)
    (hfresh : ∀ info ∈ processes, info.pid ≠ child ∧ info.ppid ≠ child) (pid : UInt32) :
    Matched configs ({ parent with pid := child, ppid := parent.pid } :: processes) pid ↔
      if pid = child then Matched configs processes parent.pid
      else Matched configs processes pid := by
  constructor
  · intro h
    induction h with
    | @direct info config hmem hconfig hmatch =>
        rcases List.mem_cons.mp hmem with rfl | hmem
        · rw [if_pos rfl]
          exact .direct hparent hconfig hmatch
        · rw [if_neg (hfresh info hmem).1]
          exact .direct hmem hconfig hmatch
    | @inherited info config hmem hconfig _ ih =>
        rcases List.mem_cons.mp hmem with rfl | hmem
        · rw [if_pos rfl]
          rwa [if_neg (hfresh parent hparent).1] at ih
        · rw [if_neg (hfresh info hmem).1]
          rw [if_neg (hfresh info hmem).2] at ih
          exact .inherited hmem hconfig ih
  · intro h
    split_ifs at h with hpid
    · subst hpid
      obtain ⟨config, hconfig⟩ := h.config hnodup hparent
      have hmatched : Matched configs
          ({ parent with pid := pid, ppid := parent.pid } :: processes) parent.pid :=
        h.mono fun info hmem => List.mem_cons_of_mem _ hmem
      exact .of_inherited List.mem_cons_self rfl hconfig hmatched
    · exact h.mono fun info hmem => List.mem_cons_of_mem _ hmem

/-- The process of a configured user does not match by itself. -/
def OnlyInherits (configs : ConfigMap) (info : ProcessInfo) : Prop :=
  ∃ config, configs[info.uid]? = some config ∧ config.isMatch info.identities = false

/-- A process of a configured user matches by itself or only inherits. -/
theorem matched_or_onlyInherits {info : ProcessInfo} {config : SplitConfig}
    (hmem : info ∈ processes) (hconfig : configs[info.uid]? = some config) :
    Matched configs processes info.pid ∨ OnlyInherits configs info := by
  by_cases hmatch : config.isMatch info.identities = true
  · exact .inl (.direct hmem hconfig hmatch)
  · exact .inr ⟨config, hconfig, by simpa using hmatch⟩

/-- What `pid` is after it ran another program: matched by it, or by its parent. -/
def MatchedAfterExec (configs : ConfigMap) (processes : List ProcessInfo) (ppid : UInt32)
    (uid : UInt16) (identities : List String) : Prop :=
  ∃ config, configs[uid]? = some config ∧
    (config.isMatch identities = true ∨ Matched configs processes ppid)

/-- An exec changes the match of its own process only, if no child inherits anything else now. -/
theorem exec_matched {info : ProcessInfo} {uid : UInt16} {identities : List String}
    (h : Forest processes) (hmem : info ∈ processes)
    (hchildren : ∀ child ∈ processes, child.ppid = info.pid → OnlyInherits configs child →
      (Matched configs processes info.pid ↔
        MatchedAfterExec configs processes info.ppid uid identities)) (pid : UInt32) :
    Matched configs (processes.map (execInto info.pid uid identities)) pid ↔
      if pid = info.pid then MatchedAfterExec configs processes info.ppid uid identities
      else Matched configs processes pid := by
  obtain ⟨rank, hrank⟩ := h.acyclic
  have hppid : info.ppid ≠ info.pid := fun heq => by
    have hlt := hrank info hmem
    rw [heq] at hlt
    exact absurd hlt (lt_irrefl _)
  have hself : execInto info.pid uid identities info =
      { info with uid := uid, identities := identities } := if_pos rfl
  constructor
  · intro hmatched
    induction hmatched with
    | @direct info' config hmem' hconfig hmatch =>
        obtain ⟨other, hother, rfl⟩ := List.mem_map.mp hmem'
        by_cases hpid : other.pid = info.pid
        · obtain rfl := eq_of_pid h.nodup hother hmem hpid
          rw [hself] at hconfig hmatch
          rw [execInto_pid, if_pos rfl]
          exact ⟨config, hconfig, .inl hmatch⟩
        · rw [show execInto info.pid uid identities other = other from if_neg hpid] at hconfig hmatch ⊢
          rw [if_neg hpid]
          exact .direct hother hconfig hmatch
    | @inherited info' config hmem' hconfig _ ih =>
        obtain ⟨other, hother, rfl⟩ := List.mem_map.mp hmem'
        rw [execInto_ppid] at ih
        by_cases hpid : other.pid = info.pid
        · obtain rfl := eq_of_pid h.nodup hother hmem hpid
          rw [hself] at hconfig
          rw [if_neg hppid] at ih
          rw [execInto_pid, if_pos rfl]
          exact ⟨config, hconfig, .inr ih⟩
        · rw [show execInto info.pid uid identities other = other from if_neg hpid] at hconfig ⊢
          rw [if_neg hpid]
          by_cases hchild : other.ppid = info.pid
          · rw [if_pos hchild] at ih
            rcases matched_or_onlyInherits hother hconfig with hmatched | honly
            · exact hmatched
            · refine .inherited hother hconfig ?_
              rw [hchild]
              exact (hchildren other hother hchild honly).mpr ih
          · rw [if_neg hchild] at ih
            exact .inherited hother hconfig ih
  · -- along the ranks, since the match of the process itself has another reason now
    induction hn : rank pid using Nat.strong_induction_on generalizing pid with
    | _ n ih =>
        intro hmatched
        by_cases hpid : pid = info.pid
        · subst hpid
          rw [if_pos rfl] at hmatched
          have hmem' := List.mem_map_of_mem (f := execInto info.pid uid identities) hmem
          rw [hself] at hmem'
          obtain ⟨config, hconfig, hmatch | hparent⟩ := hmatched
          · exact .of_direct hmem' rfl hconfig hmatch
          · have hrec := ih (rank info.ppid) (hn ▸ hrank info hmem) info.ppid rfl
            rw [if_neg hppid] at hrec
            exact .of_inherited hmem' rfl hconfig (hrec hparent)
        · rw [if_neg hpid] at hmatched
          cases hmatched with
          | @direct other config hother hconfig hmatch =>
              have hmem' := List.mem_map_of_mem (f := execInto info.pid uid identities) hother
              rw [show execInto info.pid uid identities other = other from if_neg hpid] at hmem'
              exact .direct hmem' hconfig hmatch
          | @inherited other config hother hconfig hparent =>
              have hmem' := List.mem_map_of_mem (f := execInto info.pid uid identities) hother
              rw [show execInto info.pid uid identities other = other from if_neg hpid] at hmem'
              by_cases hmatch : config.isMatch other.identities = true
              · exact .direct hmem' hconfig hmatch
              refine .inherited hmem' hconfig ?_
              refine ih (rank other.ppid) (hn ▸ hrank other hother) other.ppid rfl ?_
              by_cases hchild : other.ppid = info.pid
              · rw [if_pos hchild]
                rw [hchild] at hparent
                exact (hchildren other hother hchild ⟨config, hconfig, by simpa using hmatch⟩).mp
                  hparent
              · rwa [if_neg hchild]

/-- An exit changes no match, if the reaper passes on to each child what the process did. -/
theorem exit_matched {reaper : UInt32} (h : Forest processes)
    (hreaper : ¬ Descendant processes pid reaper)
    (hchildren : ∀ child ∈ processes, child.ppid = pid → OnlyInherits configs child →
      (Matched configs processes pid ↔ Matched configs processes reaper)) (x : UInt32) :
    Matched configs ((processes.filter fun other => other.pid ≠ pid).map (reparent pid reaper)) x ↔
      x ≠ pid ∧ Matched configs processes x := by
  obtain ⟨rank, hrank⟩ := (exit_forest h hreaper).acyclic
  constructor
  · intro hmatched
    induction hmatched with
    | @direct info' config hmem' hconfig hmatch =>
        obtain ⟨other, hother, rfl⟩ := List.mem_map.mp hmem'
        obtain ⟨hother, hpid⟩ := List.mem_filter.mp hother
        rw [reparent_uid] at hconfig
        rw [reparent_identities] at hmatch
        rw [reparent_pid]
        exact ⟨by simpa using hpid, .direct hother hconfig hmatch⟩
    | @inherited info' config hmem' hconfig _ ih =>
        obtain ⟨other, hother, rfl⟩ := List.mem_map.mp hmem'
        obtain ⟨hother, hpid⟩ := List.mem_filter.mp hother
        rw [reparent_uid] at hconfig
        rw [reparent_pid]
        refine ⟨by simpa using hpid, ?_⟩
        rcases matched_or_onlyInherits hother hconfig with hmatched | honly
        · exact hmatched
        refine .inherited hother hconfig ?_
        unfold reparent at ih
        by_cases hchild : other.ppid = pid
        · rw [if_pos hchild] at ih
          rw [hchild]
          exact (hchildren other hother hchild honly).mpr ih.2
        · rw [if_neg hchild] at ih
          exact ih.2
  · -- along the ranks of the new forest, in which the reaper comes before the child
    induction hn : rank x using Nat.strong_induction_on generalizing x with
    | _ n ih =>
        rintro ⟨hx, hmatched⟩
        have hkept : ∀ other ∈ processes, other.pid = x → reparent pid reaper other ∈
            (processes.filter fun other => other.pid ≠ pid).map (reparent pid reaper) := by
          intro other hother hpid
          refine List.mem_map_of_mem (List.mem_filter.mpr ⟨hother, ?_⟩)
          simpa [hpid] using hx
        cases hmatched with
        | @direct other config hother hconfig hmatch =>
            have hmem' := hkept other hother rfl
            exact .of_direct hmem' (reparent_pid _ _ _) (by rwa [reparent_uid])
              (by rwa [reparent_identities])
        | @inherited other config hother hconfig hparent =>
            have hmem' := hkept other hother rfl
            have hrec := ih _ (hn ▸ reparent_pid pid reaper other ▸ hrank _ hmem') _ rfl
            have hconfig' : configs[(reparent pid reaper other).uid]? = some config := by
              rwa [reparent_uid]
            by_cases hmatch : config.isMatch other.identities = true
            · exact .of_direct hmem' (reparent_pid _ _ _) hconfig' (by rwa [reparent_identities])
            refine .of_inherited hmem' (reparent_pid _ _ _) hconfig' (hrec ?_)
            unfold reparent
            by_cases hchild : other.ppid = pid
            · rw [if_pos hchild]
              rw [hchild] at hparent
              refine ⟨fun heq => hreaper (heq ▸ .self), ?_⟩
              exact (hchildren other hother hchild ⟨config, hconfig, by simpa using hmatch⟩).mp
                hparent
            · rw [if_neg hchild]
              exact ⟨hchild, hparent⟩

end matched

/-! ## The table after a step -/

section tables

variable {configs : ConfigMap} {processes processes' : List ProcessInfo} {pid : UInt32}
  {process : TrackedProcess} {inner : Inner} {env : EventEnv}

/-- The entry of a process in the table of a scan. -/
def Tracks (configs : ConfigMap) (processes : List ProcessInfo) (pid : UInt32)
    (process : TrackedProcess) : Prop :=
  ∃ info ∈ processes, ∃ config, info.pid = pid ∧ configs[info.uid]? = some config ∧
    process = trackedEntry config info.uid process.matched ∧
    (process.matched = true ↔ Matched configs processes pid)

theorem Tracks.congr
    (hmem : ∀ info ∈ processes, info.pid = pid → ∃ info' ∈ processes', info'.pid = pid ∧
      info'.uid = info.uid)
    (hmatched : Matched configs processes pid ↔ Matched configs processes' pid)
    (h : Tracks configs processes pid process) : Tracks configs processes' pid process := by
  obtain ⟨info, hinfo, config, hpid, hconfig, hprocess, hflag⟩ := h
  obtain ⟨info', hinfo', hpid', huid⟩ := hmem info hinfo hpid
  rw [← huid] at hconfig hprocess
  exact ⟨info', hinfo', config, hpid', hconfig, hprocess, hflag.trans hmatched⟩

/-- No exec and no exit changes what a process inherits: a process that runs a program it does not
match by itself was matched exactly if its parent is, and the children that only inherit find their
parent, or the reaper, as matched as their parent was. -/
def KernelChange.Stable (configs : ConfigMap) (processes : List ProcessInfo) : KernelChange → Prop
  | .fork _ _ => True
  | .exec info uid identities =>
    (∀ config, configs[uid]? = some config → config.isMatch identities = false →
      (Matched configs processes info.pid ↔ Matched configs processes info.ppid)) ∧
      ∀ child ∈ processes, child.ppid = info.pid → OnlyInherits configs child →
        (Matched configs processes info.pid ↔
          MatchedAfterExec configs processes info.ppid uid identities)
  | .exit info reaper =>
    ∀ child ∈ processes, child.ppid = info.pid → OnlyInherits configs child →
      (Matched configs processes info.pid ↔ Matched configs processes reaper)

/-- Other processes keep their matches. -/
theorem KernelChange.matched_of_ne {change : KernelChange} (h : Forest processes)
    (hallowed : change.Allowed processes) (hstable : change.Stable configs processes)
    (hne : change.event.subject ≠ pid) :
    Matched configs (change.after processes) pid ↔ Matched configs processes pid := by
  cases change with
  | fork parent child =>
      have hpid : pid ≠ child := Ne.symm hne
      refine (fork_matched h.nodup hallowed.1 hallowed.2 pid).trans ?_
      rw [if_neg hpid]
  | exec info uid identities =>
      have hpid : pid ≠ info.pid := Ne.symm hne
      refine (exec_matched h hallowed hstable.2 pid).trans ?_
      rw [if_neg hpid]
  | exit info reaper =>
      refine (exit_matched h hallowed.2 hstable pid).trans ?_
      exact and_iff_right (Ne.symm hne)

/-- Other processes are still there, as the same user. -/
theorem KernelChange.mem_of_ne {change : KernelChange} (hne : change.event.subject ≠ pid) :
    (∀ info ∈ processes, info.pid = pid → ∃ info' ∈ change.after processes, info'.pid = pid ∧
        info'.uid = info.uid) ∧
      ∀ info ∈ change.after processes, info.pid = pid → ∃ info' ∈ processes, info'.pid = pid ∧
        info'.uid = info.uid := by
  cases change with
  | fork parent child =>
      refine ⟨fun info hinfo hpid => ⟨info, List.mem_cons_of_mem _ hinfo, hpid, rfl⟩, ?_⟩
      intro info hinfo hpid
      rcases List.mem_cons.mp hinfo with rfl | hinfo
      · exact absurd hpid hne
      · exact ⟨info, hinfo, hpid, rfl⟩
  | exec changed uid identities =>
      have hsame : ∀ info : ProcessInfo, info.pid = pid →
          execInto changed.pid uid identities info = info :=
        fun info hpid => if_neg (hpid ▸ Ne.symm hne)
      constructor
      · intro info hinfo hpid
        exact ⟨_, List.mem_map_of_mem hinfo, by rw [hsame info hpid]; exact ⟨hpid, rfl⟩⟩
      · intro info hinfo hpid
        obtain ⟨info', hinfo', rfl⟩ := List.mem_map.mp hinfo
        rw [execInto_pid] at hpid
        exact ⟨info', hinfo', hpid, by rw [hsame info' hpid]⟩
  | exit exited reaper =>
      constructor
      · intro info hinfo hpid
        have hkept : info.pid ≠ exited.pid := hpid ▸ Ne.symm hne
        refine ⟨_, List.mem_map_of_mem (List.mem_filter.mpr ⟨hinfo, ?_⟩), ?_⟩
        · simpa using hkept
        · exact ⟨by rw [reparent_pid]; exact hpid, by rw [reparent_uid]⟩
      · intro info hinfo hpid
        obtain ⟨info', hinfo', rfl⟩ := List.mem_map.mp hinfo
        rw [reparent_pid] at hpid
        exact ⟨info', (List.mem_filter.mp hinfo').1, hpid, by rw [reparent_uid]⟩

theorem find_of_mem {info : ProcessInfo} (hnodup : (processes.map (·.pid)).Nodup)
    (hmem : info ∈ processes) : processes.find? (fun other => other.pid == info.pid) = some info := by
  cases hfind : processes.find? (fun other => other.pid == info.pid) with
  | none =>
      have hnone := List.find?_eq_none.mp hfind info hmem
      simp at hnone
  | some other =>
      have hpid := List.find?_some hfind
      rw [eq_of_pid hnodup (List.mem_of_find?_eq_some hfind) hmem (by simpa using hpid)]

theorem tracked_none (h : inner.tracked = buildTracking inner.configs processes)
    (hnone : ∀ info ∈ processes, info.pid = pid → inner.configs[info.uid]? = none) :
    inner.tracked[pid]? = none := by
  cases hget : inner.tracked[pid]? with
  | none => rfl
  | some process =>
      rw [h] at hget
      obtain ⟨info, hmem, config, hpid, hconfig, -⟩ := buildTracking_entry hget
      rw [hnone info hmem hpid] at hconfig
      cases hconfig

open Classical in
/-- The one entry a scan can give a process of a configured user. -/
theorem tracks_iff {info : ProcessInfo} {config : SplitConfig}
    (hnodup : (processes.map (·.pid)).Nodup) (hmem : info ∈ processes)
    (hconfig : configs[info.uid]? = some config) :
    Tracks configs processes info.pid process ↔
      process = trackedEntry config info.uid (decide (Matched configs processes info.pid)) := by
  constructor
  · rintro ⟨info', hmem', config', hpid, hconfig', hprocess, hflag⟩
    obtain rfl := eq_of_pid hnodup hmem' hmem hpid
    rw [hconfig] at hconfig'
    obtain rfl := Option.some.inj hconfig'
    rw [hprocess, Bool.eq_iff_iff.mpr (hflag.trans decide_eq_true_iff.symm)]
  · rintro rfl
    exact ⟨info, hmem, config, rfl, hconfig, rfl, decide_eq_true_iff⟩

theorem not_tracks {info : ProcessInfo} (hnodup : (processes.map (·.pid)).Nodup)
    (hmem : info ∈ processes) (hconfig : configs[info.uid]? = none) :
    ¬ Tracks configs processes info.pid process := by
  rintro ⟨info', hmem', config, hpid, hconfig', -⟩
  obtain rfl := eq_of_pid hnodup hmem' hmem hpid
  rw [hconfig] at hconfig'
  cases hconfig'

open Classical in
theorem tracked_some {info : ProcessInfo} {config : SplitConfig} (h : Forest processes)
    (htracked : inner.tracked = buildTracking inner.configs processes) (hmem : info ∈ processes)
    (hconfig : inner.configs[info.uid]? = some config) :
    inner.tracked[info.pid]? = some (trackedEntry config info.uid
      (decide (Matched inner.configs processes info.pid))) := by
  rw [htracked, buildTracking_spec h.nodup]
  exact (tracks_iff h.nodup hmem hconfig).mpr rfl

theorem any_matched_iff {info : ProcessInfo} (h : Forest processes)
    (htracked : inner.tracked = buildTracking inner.configs processes) (hmem : info ∈ processes) :
    inner.tracked[info.pid]?.any (·.matched) = true ↔
      Matched inner.configs processes info.pid := by
  cases hconfig : inner.configs[info.uid]? with
  | some config =>
      rw [tracked_some h htracked hmem hconfig]
      simp [trackedEntry]
  | none =>
      rw [tracked_none htracked fun info' hmem' hpid => by
        rwa [eq_of_pid h.nodup hmem' hmem hpid]]
      constructor
      · intro hfalse
        cases hfalse
      · intro hmatched
        obtain ⟨config, hsome⟩ := hmatched.config h.nodup hmem
        rw [hconfig] at hsome
        cases hsome

/-- The entry a fork adds. -/
theorem fork_tracks {parent : ProcessInfo} {child : UInt32} (h : Forest processes)
    (htracked : inner.tracked = buildTracking inner.configs processes)
    (hparent : parent ∈ processes)
    (hfresh : ∀ info ∈ processes, info.pid ≠ child ∧ info.ppid ≠ child)
    (hread : env.read child = some { parent with pid := child, ppid := parent.pid }) :
    (eventTable env inner (.fork parent.pid child))[child]? = some process ↔
      Tracks inner.configs ({ parent with pid := child, ppid := parent.pid } :: processes) child
        process := by
  classical
  have h' := fork_forest h hparent hfresh
  have hmatched : Matched inner.configs _ child ↔ _ := fork_matched h.nodup hparent hfresh child
  rw [if_pos rfl] at hmatched
  cases hconfig : inner.configs[parent.uid]? with
  | some config =>
      have hforked : forkedProcess env inner parent.pid child = some (trackedEntry config parent.uid
          (decide (Matched inner.configs processes parent.pid))) := by
        unfold forkedProcess
        rw [tracked_some h htracked hparent hconfig]
        simp [trackedEntry, hconfig]
      simp only [eventTable, hforked, ExtTreeMap.getElem?_insert_self, Option.some.injEq]
      refine Iff.trans ?_ (tracks_iff h'.nodup List.mem_cons_self hconfig).symm
      simp only [hmatched]
      exact eq_comm
  | none =>
      have hforked : forkedProcess env inner parent.pid child = none := by
        unfold forkedProcess
        rw [tracked_none htracked fun info hmem hpid => by
          rwa [eq_of_pid h.nodup hmem hparent hpid], hread]
        simp [hconfig]
      have hnone : inner.tracked[child]? = none :=
        tracked_none htracked fun info hmem hpid => absurd hpid (hfresh info hmem).1
      simp only [eventTable, hforked, hnone]
      refine iff_of_false ?_ (not_tracks h'.nodup List.mem_cons_self hconfig)
      intro hsome
      cases hsome

/-- The entry an exec leaves. -/
theorem exec_tracks {info : ProcessInfo} {uid : UInt16} {identities : List String}
    (h : Forest processes) (htracked : inner.tracked = buildTracking inner.configs processes)
    (hmem : info ∈ processes)
    (hstable : (KernelChange.exec info uid identities).Stable inner.configs processes)
    (hmem' : { info with uid := uid, identities := identities } ∈
      processes.map (execInto info.pid uid identities))
    (hread : env.read info.pid = some { info with uid := uid, identities := identities }) :
    (eventTable env inner (.exec info.pid))[info.pid]? = some process ↔
      Tracks inner.configs (processes.map (execInto info.pid uid identities)) info.pid process := by
  classical
  have h' : Forest (processes.map (execInto info.pid uid identities)) := exec_forest uid identities h
  cases hconfig : inner.configs[uid]? with
  | none =>
      have hnot : ¬ Tracks inner.configs (processes.map (execInto info.pid uid identities))
          ({ info with uid := uid, identities := identities } : ProcessInfo).pid process :=
        not_tracks h'.nodup hmem' hconfig
      simp only [eventTable, hread, hconfig, ExtTreeMap.getElem?_erase_self]
      refine iff_of_false ?_ hnot
      intro hsome
      cases hsome
  | some config =>
      have hmatched : Matched inner.configs (processes.map (execInto info.pid uid identities))
          info.pid ↔ config.isMatch identities = true ∨
            Matched inner.configs processes info.ppid := by
        rw [exec_matched h hmem hstable.2, if_pos rfl]
        unfold MatchedAfterExec
        rw [hconfig]
        simp
      have hflag : (inner.tracked[info.pid]?.any (·.matched) || config.isMatch identities) =
          decide (Matched inner.configs (processes.map (execInto info.pid uid identities))
            info.pid) := by
        rw [Bool.eq_iff_iff, Bool.or_eq_true, any_matched_iff h htracked hmem, decide_eq_true_iff,
          hmatched]
        by_cases hmatch : config.isMatch identities = true
        · simp [hmatch]
        · rw [hstable.1 config hconfig (by simpa using hmatch)]
          simp [hmatch]
      simp only [eventTable, hread, hconfig, ExtTreeMap.getElem?_insert_self, Option.some.injEq]
      refine Iff.trans ?_ (tracks_iff h'.nodup hmem' hconfig).symm
      rw [hflag]
      exact eq_comm

/-- **One step**: the table the engine arrives at is the one a scan of the new forest gives. -/
theorem eventTable_eq {change : KernelChange} (h : Forest processes)
    (htracked : inner.tracked = buildTracking inner.configs processes)
    (hallowed : change.Allowed processes) (hstable : change.Stable inner.configs processes)
    (hread : ∀ pid, env.read pid =
      (change.after processes).find? (fun info => info.pid == pid)) :
    eventTable env inner change.event = buildTracking inner.configs (change.after processes) := by
  have h' := KernelChange.forest hallowed h
  refine ExtTreeMap.ext_getElem? fun pid => Option.ext fun process => ?_
  refine Iff.trans ?_ (buildTracking_spec h'.nodup).symm
  by_cases hpid : change.event.subject = pid
  · subst hpid
    cases change with
    | fork parent child =>
        refine fork_tracks h htracked hallowed.1 hallowed.2 ?_
        rw [hread]
        exact find_of_mem h'.nodup List.mem_cons_self
    | exec info uid identities =>
        have hmem' : { info with uid := uid, identities := identities } ∈
            processes.map (execInto info.pid uid identities) := by
          have hself : execInto info.pid uid identities info =
              { info with uid := uid, identities := identities } := if_pos rfl
          rw [← hself]
          exact List.mem_map_of_mem hallowed
        refine exec_tracks h htracked hallowed hstable hmem' ?_
        rw [hread]
        exact find_of_mem h'.nodup hmem'
    | exit info reaper =>
        constructor
        · intro hget
          simp [eventTable, KernelChange.event, ProcessEvent.subject] at hget
        · rintro ⟨info', hmem', config, hpid, -⟩
          obtain ⟨other, hother, rfl⟩ := List.mem_map.mp hmem'
          have hkept := (List.mem_filter.mp hother).2
          rw [reparent_pid] at hpid
          simp [hpid, KernelChange.event, ProcessEvent.subject] at hkept
  · rw [eventTable_of_ne hpid, htracked, buildTracking_spec h.nodup]
    have hmatched := KernelChange.matched_of_ne h hallowed hstable hpid
    obtain ⟨hmem, hmem'⟩ := KernelChange.mem_of_ne hpid
    exact ⟨Tracks.congr hmem hmatched.symm, Tracks.congr hmem' hmatched⟩

end tables

/-! ## Runs -/

section runs

variable {text : IpNetText} {inner : Inner} {processes : List ProcessInfo}

/-- An engine that rescanned when it met `start`, and has handled the event of every change of the
forest since, each of which meets `P`; what it reads about a process is what the kernel has. -/
inductive Following (text : IpNetText) (start : Inner → Prop)
    (P : ConfigMap → List ProcessInfo → KernelChange → Prop) : Inner → List ProcessInfo → Prop
  | scan {before inner : Inner} {env : ReconcileEnv} {processes : List ProcessInfo}
      (hstart : start before) (hforest : Forest processes) (hscan : env.scan = .ok processes)
      (hok : (reconcile text env).exec before = (.ok (), inner)) : Following text start P inner processes
  | event {inner : Inner} {processes : List ProcessInfo} {change : KernelChange} {env : EventEnv}
      (hfollowing : Following text start P inner processes) (hallowed : change.Allowed processes)
      (hpids : ∀ n op, env.pids n op = none)
      (hread : ∀ pid, env.read pid = (change.after processes).find? (fun info => info.pid == pid))
      (hchange : P inner.configs processes change) :
      Following text start P ((handleEvent env change.event).exec inner).2 (change.after processes)

theorem reconcile_ok_marker {env : ReconcileEnv} {before : Inner}
    (hneeds : before.needsTracking = true)
    (hok : (reconcile text env).exec before = (.ok (), inner)) : inner.marker ≠ none := by
  rcases reconcile_cases hok with ⟨hnot, -⟩ | ⟨-, -, ⟨error, -, h⟩, -⟩ |
    ⟨-, _, -, ⟨error, h, -⟩ | ⟨next, p, -, -, -, rfl⟩⟩
  · rw [needsTracking_of_not_needsMarker hnot] at hneeds
    cases hneeds
  · cases h
  · cases h
  · exact Option.some_ne_none _

theorem following_inv
    (h : Following text (fun before => before.needsTracking = true)
      (fun configs processes change => change.Stable configs processes) inner processes) :
    Forest processes ∧ inner.marker ≠ none ∧ inner.needsTracking = true ∧
      inner.tracked = buildTracking inner.configs processes := by
  induction h with
  | @scan before inner env processes hstart hforest hscan hok =>
      have htable := reconcile_ok_table hok
      unfold rescanTable at htable
      rw [if_pos hstart, hscan] at htable
      have hconfigs := (reconcile_frame hok).1
      refine ⟨hforest, ?_, ?_, ?_⟩
      · exact reconcile_ok_marker hstart hok
      · unfold Inner.needsTracking
        rw [hconfigs]
        exact hstart
      · rw [hconfigs]
        exact (Except.ok.inj htable).symm
  | @event inner processes change env hfollowing hallowed hpids hread hchange ih =>
      obtain ⟨hforest, hmarker, hneeds, htracked⟩ := ih
      obtain ⟨marker, hmarker⟩ := Option.ne_none_iff_exists'.mp hmarker
      obtain ⟨marker', hexec⟩ := handleEvent_eq hmarker hpids change.event
      rw [hexec]
      exact ⟨KernelChange.forest hallowed hforest, by simp, hneeds,
        eventTable_eq hforest htracked hallowed hchange hread⟩

/-- **Following the events agrees with scanning again**, in every run in which no exec and no exit
changes what a process inherits and the rules need the processes tracked: the table is the one
`build_tracking` computes, and a rescan does not change it. -/
theorem following_agrees
    (h : Following text (fun before => before.needsTracking = true)
      (fun configs processes change => change.Stable configs processes) inner processes) :
    inner.tracked = buildTracking inner.configs processes ∧
      ∀ env inner' scanned, scanned.Perm processes → env.scan = .ok scanned →
        (reconcile text env).exec inner = (.ok (), inner') → inner'.tracked = inner.tracked := by
  obtain ⟨hforest, -, hneeds, htracked⟩ := following_inv h
  refine ⟨htracked, ?_⟩
  intro env inner' scanned hperm hscan hok
  have htable := reconcile_ok_table hok
  unfold rescanTable at htable
  rw [if_pos hneeds, hscan] at htable
  rw [← Except.ok.inj htable, htracked, buildTracking_perm hforest.nodup hperm]

/-- What the engine reads about the processes. -/
def readFrom (processes : List ProcessInfo) : EventEnv :=
  ⟨fun pid => processes.find? fun info => info.pid == pid, fun _ _ => none⟩

/-- The engine after a scan and one change. -/
def afterChange (processes : List ProcessInfo) (change : KernelChange) : Inner :=
  ((handleEvent (readFrom (change.after processes)) change.event).exec
    ((reconcile decimalText (quietRescan (.ok processes))).exec
      { configs := oneApplication .exclude }).2).2

theorem afterChange_following {start : Inner → Prop}
    {P : ConfigMap → List ProcessInfo → KernelChange → Prop} {change : KernelChange}
    (hstart : start { configs := oneApplication .exclude }) (hforest : Forest processes)
    (hok : ((reconcile decimalText (quietRescan (.ok processes))).exec
      { configs := oneApplication .exclude }).1 = .ok ())
    (hallowed : change.Allowed processes)
    (hchange : ∀ configs, P configs processes change) :
    Following decimalText start P (afterChange processes change) (change.after processes) :=
  .event (.scan hstart hforest rfl (Prod.ext hok rfl)) hallowed (fun _ _ => rfl) (fun _ => rfl)
    (hchange _)

/-- A process started by the application, running a program of its own. -/
def downloader : ProcessInfo :=
  { uid := 1000, pid := 11, ppid := 10, identities := ["/usr/bin/wget"] }

theorem forest_firefox : Forest [firefox] :=
  ⟨by decide, UInt32.toNat, by simp [firefox]⟩

theorem forest_downloader : Forest [firefox, downloader] :=
  ⟨by decide, UInt32.toNat, by simp [firefox, downloader]⟩

theorem following_agrees_after_fork :
    (afterChange [firefox] (.fork firefox 11)).tracked = buildTracking
        (afterChange [firefox] (.fork firefox 11)).configs [{ firefox with pid := 11, ppid := 10 },
          firefox] ∧
      isExcluded (afterChange [firefox] (.fork firefox 11)).tracked 11 = true := by
  have hallowed : (KernelChange.fork firefox 11).Allowed [firefox] :=
    ⟨List.mem_singleton_self _, by simp [firefox]⟩
  have hstable : ∀ configs, (KernelChange.fork firefox 11).Stable configs [firefox] :=
    fun _ => trivial
  exact ⟨(following_agrees (afterChange_following (by decide +kernel) forest_firefox
    (by decide +kernel) hallowed hstable)).1, by decide +kernel⟩

/-- The application exits and its child goes to pid 1: the child is still excluded, and the next
rescan includes it. -/
theorem orphan_loses_match :
    Following decimalText (fun before => before.needsTracking = true) (fun _ _ _ => True)
        (afterChange [firefox, downloader] (.exit firefox 1)) [{ downloader with ppid := 1 }] ∧
      isExcluded (afterChange [firefox, downloader] (.exit firefox 1)).tracked 11 = true ∧
      isExcluded (buildTracking (oneApplication .exclude) [{ downloader with ppid := 1 }]) 11 =
        false ∧
      isExcluded ((reconcile decimalText (quietRescan (.ok [{ downloader with ppid := 1 }]))).exec
        (afterChange [firefox, downloader] (.exit firefox 1))).2.tracked 11 = false := by
  refine ⟨afterChange_following (by decide +kernel) forest_downloader (by decide +kernel) ?_
    fun _ => trivial, by decide +kernel, by decide +kernel, by decide +kernel⟩
  refine ⟨List.mem_cons_self, ?_⟩
  intro hdescendant
  have hpids : ∀ pid, Descendant [firefox, downloader] 10 pid → pid ≠ 1 := by
    intro pid h
    induction h with
    | self => decide
    | child hmem _ _ =>
        rcases List.mem_pair.mp hmem with rfl | rfl
        · decide
        · decide
  exact hpids 1 hdescendant rfl

end runs

end ProtonVpnOmarchy.Splitd
