import ProtonVpnOmarchy.Splitd.Engine.Basic

/-!
# Inherited matches

`build_tracking` propagates matches from parents to children in passes over the process list, as
many as there are processes. `Matched` says what this is for: a process is matched if it or one of
its ancestors, through processes of configured users, matches its own user's configuration.
`buildTracking_spec` says that the passes suffice, and that the table has one entry for each process
of a configured user with exactly this flag.
-/

namespace ProtonVpnOmarchy.Splitd

open Std (ExtTreeMap)

/-- Processes that match the configuration of their user, and their descendants. -/
inductive Matched (configs : ConfigMap) (processes : List ProcessInfo) : UInt32 → Prop
  | direct {info : ProcessInfo} {config : SplitConfig} (hmem : info ∈ processes)
      (hconfig : configs[info.uid]? = some config)
      (hmatch : config.isMatch info.identities = true) : Matched configs processes info.pid
  | inherited {info : ProcessInfo} {config : SplitConfig} (hmem : info ∈ processes)
      (hconfig : configs[info.uid]? = some config)
      (hparent : Matched configs processes info.ppid) : Matched configs processes info.pid

/-! ## The passes -/

section passes

variable {processes : List ProcessInfo} {found : ExtTreeMap UInt32 Bool}

/-- What an inherited match keeps, a pass keeps. -/
theorem foldl_inheritStep_inv {I : ExtTreeMap UInt32 Bool → Prop} {state : ExtTreeMap UInt32 Bool × Bool}
    (hstep : ∀ found, ∀ process ∈ processes, I found → found[process.pid]? = some false →
      found[process.ppid]? = some true → I (found.insert process.pid true))
    (h : I state.1) : I (processes.foldl inheritStep state).1 := by
  induction processes generalizing state with
  | nil => exact h
  | cons process processes ih =>
      rw [List.foldl_cons]
      refine ih (fun found p hp => hstep found p (List.mem_cons_of_mem _ hp)) ?_
      unfold inheritStep
      split_ifs with hfires
      · exact hstep _ process List.mem_cons_self h hfires.1 hfires.2
      · exact h

/-- `found'` has the keys of `found`, and what was matched is still matched. -/
def Extends (found found' : ExtTreeMap UInt32 Bool) : Prop :=
  ∀ pid : UInt32, found'[pid]?.isSome = found[pid]?.isSome ∧
    (found[pid]? = some true → found'[pid]? = some true)

theorem Extends.refl (found : ExtTreeMap UInt32 Bool) : Extends found found :=
  fun _ => ⟨rfl, id⟩

theorem Extends.trans {found' found'' : ExtTreeMap UInt32 Bool} (h : Extends found found')
    (h' : Extends found' found'') : Extends found found'' :=
  fun pid => ⟨(h' pid).1.trans (h pid).1, fun htrue => (h' pid).2 ((h pid).2 htrue)⟩

theorem Extends.eq_false {found' : ExtTreeMap UInt32 Bool} (h : Extends found found') {pid : UInt32}
    (hfalse : found'[pid]? = some false) : found[pid]? = some false := by
  obtain ⟨hsome, htrue⟩ := h pid
  rcases hget : found[pid]? with _ | _ | _
  · simp [hfalse, hget] at hsome
  · rfl
  · rw [htrue hget] at hfalse
    cases hfalse

theorem Extends.insert {pid : UInt32} (hpid : found[pid]? = some false) :
    Extends found (found.insert pid true) := by
  intro pid'
  by_cases h : pid = pid'
  · subst h
    simp [hpid]
  · simp [ExtTreeMap.getElem?_insert, h]

theorem foldl_inheritStep_extends (state : ExtTreeMap UInt32 Bool × Bool) :
    Extends state.1 (processes.foldl inheritStep state).1 :=
  foldl_inheritStep_inv (I := Extends state.1)
    (fun _ _ _ h hpid _ => h.trans (.insert hpid)) (.refl _)

/-- No matched parent has an unmatched child in the list. -/
def Closed (processes : List ProcessInfo) (found : ExtTreeMap UInt32 Bool) : Prop :=
  ∀ process ∈ processes, found[process.pid]? = some false → found[process.ppid]? ≠ some true

/-- A pass that reports no change found nothing to inherit. -/
theorem foldl_inheritStep_unchanged {changed : Bool}
    (h : (processes.foldl inheritStep (found, changed)).2 = false) :
    changed = false ∧ (processes.foldl inheritStep (found, changed)).1 = found ∧
      Closed processes found := by
  induction processes generalizing found changed with
  | nil => exact ⟨h, rfl, by simp [Closed]⟩
  | cons process processes ih =>
      rw [List.foldl_cons] at h ⊢
      unfold inheritStep at h ⊢
      split_ifs at h ⊢ with hfires
      · cases (ih h).1
      · obtain ⟨hchanged, hfound, hclosed⟩ := ih h
        refine ⟨hchanged, hfound, ?_⟩
        intro p hp hfalse htrue
        rcases List.mem_cons.mp hp with rfl | hp
        · exact hfires ⟨hfalse, htrue⟩
        · exact hclosed p hp hfalse htrue

/-- A pass that reports a change made one. -/
theorem foldl_inheritStep_changed {changed : Bool}
    (h : (processes.foldl inheritStep (found, changed)).2 = true) :
    changed = true ∨ ∃ process ∈ processes, found[process.pid]? = some false ∧
      (processes.foldl inheritStep (found, changed)).1[process.pid]? = some true := by
  induction processes generalizing found changed with
  | nil => exact .inl h
  | cons process processes ih =>
      rw [List.foldl_cons] at h ⊢
      by_cases hfires : found[process.pid]? = some false ∧ found[process.ppid]? = some true
      · refine .inr ⟨process, List.mem_cons_self, hfires.1, ?_⟩
        refine (foldl_inheritStep_extends _ process.pid).2 ?_
        simp [inheritStep, hfires]
      · have hstep : inheritStep (found, changed) process = (found, changed) := by
          simp only [inheritStep, hfires, if_false]
        rw [hstep] at h ⊢
        rcases ih h with h | ⟨p, hp, hp'⟩
        · exact .inl h
        · exact .inr ⟨p, List.mem_cons_of_mem _ hp, hp'⟩

/-- The processes a further pass could still change. -/
def unmatched (processes : List ProcessInfo) (found : ExtTreeMap UInt32 Bool) : Finset UInt32 :=
  (processes.map (·.pid)).toFinset.filter fun pid => found[pid]? = some false

theorem unmatched_card_le (processes : List ProcessInfo) (found : ExtTreeMap UInt32 Bool) :
    (unmatched processes found).card ≤ processes.length := by
  calc (unmatched processes found).card
      ≤ (processes.map (·.pid)).toFinset.card := Finset.card_filter_le _ _
    _ ≤ (processes.map (·.pid)).length := List.toFinset_card_le _
    _ = processes.length := List.length_map _

theorem unmatched_card_lt (h : (inheritRound processes found).2 = true) :
    (unmatched processes (inheritRound processes found).1).card < (unmatched processes found).card := by
  have hextends : Extends found (inheritRound processes found).1 := foldl_inheritStep_extends _
  rcases foldl_inheritStep_changed h with h | ⟨process, hmem, hfalse, htrue⟩
  · cases h
  refine Finset.card_lt_card (Finset.ssubset_iff_of_subset ?_ |>.mpr ⟨process.pid, ?_, ?_⟩)
  · intro pid hpid
    obtain ⟨hmem, hpid⟩ := Finset.mem_filter.mp hpid
    exact Finset.mem_filter.mpr ⟨hmem, hextends.eq_false hpid⟩
  · refine Finset.mem_filter.mpr ⟨?_, hfalse⟩
    exact List.mem_toFinset.mpr (List.mem_map_of_mem hmem)
  · intro hpid
    have hfalse' := (Finset.mem_filter.mp hpid).2
    rw [show (inheritRound processes found).1[process.pid]? = some true from htrue] at hfalse'
    cases hfalse'

/-- As many passes as there are unmatched processes reach a state in which nothing is inherited. -/
theorem inheritMatches_closed {n : ℕ} (hn : (unmatched processes found).card ≤ n) :
    Closed processes (inheritMatches processes n found) := by
  induction n generalizing found with
  | zero =>
      intro process hmem hfalse
      have hempty : unmatched processes found = ∅ := Finset.card_eq_zero.mp (Nat.le_zero.mp hn)
      have hpid : process.pid ∈ unmatched processes found :=
        Finset.mem_filter.mpr ⟨List.mem_toFinset.mpr (List.mem_map_of_mem hmem), hfalse⟩
      rw [hempty] at hpid
      simp at hpid
  | succ n ih =>
      unfold inheritMatches
      rcases h : inheritRound processes found with ⟨found', _ | _⟩
      · have hunchanged : (processes.foldl inheritStep (found, false)).2 = false :=
          congrArg Prod.snd h
        obtain ⟨-, hfound, hclosed⟩ := foldl_inheritStep_unchanged hunchanged
        rwa [← show found' = found from (congrArg Prod.fst h).symm.trans hfound] at hclosed
      · have hlt := unmatched_card_lt (congrArg Prod.snd h)
        simp only [h] at hlt
        exact ih (by omega)

theorem inheritMatches_inv {I : ExtTreeMap UInt32 Bool → Prop}
    (hstep : ∀ found, ∀ process ∈ processes, I found → found[process.pid]? = some false →
      found[process.ppid]? = some true → I (found.insert process.pid true)) (n : ℕ) (h : I found) :
    I (inheritMatches processes n found) := by
  induction n generalizing found with
  | zero => exact h
  | succ n ih =>
      unfold inheritMatches
      have hround : I (inheritRound processes found).1 := foldl_inheritStep_inv hstep h
      rcases hr : inheritRound processes found with ⟨found', _ | _⟩
      · rwa [hr] at hround
      · rw [hr] at hround
        exact ih hround

end passes

/-! ## The table -/

section table

variable {configs : ConfigMap} {processes : List ProcessInfo} {pid : UInt32}

/-- The pairs a map is collected from, one for each process of a configured user. -/
def collected {V : Type} (configs : ConfigMap) (processes : List ProcessInfo)
    (value : SplitConfig → ProcessInfo → V) : List (UInt32 × V) :=
  processes.filterMap fun process =>
    configs[process.uid]?.map fun config => (process.pid, value config process)

theorem mem_collected {V : Type} {value : SplitConfig → ProcessInfo → V} {v : V} :
    (pid, v) ∈ collected configs processes value ↔
      ∃ info ∈ processes, ∃ config, info.pid = pid ∧ configs[info.uid]? = some config ∧
        v = value config info := by
  unfold collected
  simp only [List.mem_filterMap, Option.map_eq_some_iff, Prod.mk.injEq]
  constructor
  · rintro ⟨info, hinfo, config, hconfig, hpid, hv⟩
    exact ⟨info, hinfo, config, hpid, hconfig, hv.symm⟩
  · rintro ⟨info, hinfo, config, hpid, hconfig, hv⟩
    exact ⟨info, hinfo, config, hconfig, hpid, hv.symm⟩

theorem mem_of_getElem?_ofList {V : Type} {entries : List (UInt32 × V)} {v : V}
    (h : (ExtTreeMap.ofList entries compare)[pid]? = some v) : (pid, v) ∈ entries := by
  rw [ExtTreeMap.ofList_eq_insertMany_empty, ExtTreeMap.getElem?_insertMany_list] at h
  simp only [ExtTreeMap.getElem?_empty, Option.or_none, List.findSomeRev?_eq_findSome?_reverse] at h
  obtain ⟨⟨pid', v'⟩, hmem, hentry⟩ := List.exists_of_findSome?_eq_some h
  split_ifs at hentry with hpid
  rw [← Std.LawfulEqCmp.eq_of_compare hpid, ← Option.some.inj hentry]
  exact List.mem_reverse.mp hmem

/-- Distinct processes keep their own entries. -/
theorem getElem?_collected {V : Type} {value : SplitConfig → ProcessInfo → V} {v : V}
    (hnodup : (processes.map (·.pid)).Nodup) :
    (ExtTreeMap.ofList (collected configs processes value) compare)[pid]? = some v ↔
      ∃ info ∈ processes, ∃ config, info.pid = pid ∧ configs[info.uid]? = some config ∧
        v = value config info := by
  rw [← mem_collected]
  constructor
  · exact mem_of_getElem?_ofList
  · intro hmem
    refine ExtTreeMap.getElem?_ofList_of_mem (k := pid) (by simp) ?_ hmem
    have hdistinct : processes.Pairwise fun a b => a.pid ≠ b.pid := List.pairwise_map.mp hnodup
    refine List.pairwise_filterMap.mpr (hdistinct.imp ?_)
    intro a b hne x hx y hy heq
    obtain ⟨_, -, rfl⟩ := Option.map_eq_some_iff.mp hx
    obtain ⟨_, -, rfl⟩ := Option.map_eq_some_iff.mp hy
    exact hne (Std.LawfulEqCmp.eq_of_compare heq)

/-- The flags `build_tracking` ends with. -/
def flags (configs : ConfigMap) (processes : List ProcessInfo) : ExtTreeMap UInt32 Bool :=
  inheritMatches processes processes.length (directMatches configs processes)

theorem extends_flags (configs : ConfigMap) (processes : List ProcessInfo) :
    Extends (directMatches configs processes) (flags configs processes) :=
  inheritMatches_inv (I := Extends (directMatches configs processes))
    (fun _ _ _ h hfalse _ => h.trans (.insert hfalse)) _ (.refl _)

/-- A process is found in a list without duplicates by its pid. -/
theorem eq_of_pid {info info' : ProcessInfo} (hnodup : (processes.map (·.pid)).Nodup)
    (hmem : info ∈ processes) (hmem' : info' ∈ processes) (hpid : info.pid = info'.pid) :
    info = info' :=
  List.inj_on_of_nodup_map hnodup hmem hmem' hpid

theorem directMatches_eq_some (hnodup : (processes.map (·.pid)).Nodup) {matched : Bool} :
    (directMatches configs processes)[pid]? = some matched ↔
      ∃ info ∈ processes, ∃ config, info.pid = pid ∧ configs[info.uid]? = some config ∧
        matched = config.isMatch info.identities :=
  getElem?_collected hnodup

theorem flags_sound (hnodup : (processes.map (·.pid)).Nodup)
    (h : (flags configs processes)[pid]? = some true) : Matched configs processes pid := by
  have hinv : Extends (directMatches configs processes) (flags configs processes) ∧
      ∀ pid : UInt32, (flags configs processes)[pid]? = some true → Matched configs processes pid := by
    refine inheritMatches_inv (I := fun found => Extends (directMatches configs processes) found ∧
      ∀ pid : UInt32, found[pid]? = some true → Matched configs processes pid) ?_ _ ⟨.refl _, ?_⟩
    · rintro found process hmem ⟨hextends, hsound⟩ hfalse htrue
      refine ⟨hextends.trans (.insert hfalse), ?_⟩
      intro pid hpid
      by_cases h : process.pid = pid
      · obtain ⟨info, hinfo, config, hpid', hconfig, -⟩ :=
          (directMatches_eq_some hnodup).mp (hextends.eq_false hfalse)
        obtain rfl := eq_of_pid hnodup hinfo hmem hpid'
        rw [← h]
        exact .inherited hmem hconfig (hsound _ htrue)
      · rw [ExtTreeMap.getElem?_insert, if_neg (by simpa using h)] at hpid
        exact hsound pid hpid
    · intro pid hpid
      obtain ⟨info, hmem, config, rfl, hconfig, hmatch⟩ := (directMatches_eq_some hnodup).mp hpid
      exact .direct hmem hconfig hmatch.symm
  exact hinv.2 pid h

theorem flags_complete (hnodup : (processes.map (·.pid)).Nodup)
    (h : Matched configs processes pid) : (flags configs processes)[pid]? = some true := by
  have hextends := extends_flags configs processes
  have hclosed : Closed processes (flags configs processes) :=
    inheritMatches_closed (unmatched_card_le _ _)
  induction h with
  | direct hmem hconfig hmatch =>
      exact (hextends _).2
        ((directMatches_eq_some hnodup).mpr ⟨_, hmem, _, rfl, hconfig, hmatch.symm⟩)
  | @inherited info config hmem hconfig hparent ih =>
      have hdirect := (directMatches_eq_some hnodup).mpr ⟨info, hmem, config, rfl, hconfig, rfl⟩
      rcases hflag : (flags configs processes)[info.pid]? with _ | _ | _
      · have hsome := (hextends info.pid).1
        simp [hflag, hdirect] at hsome
      · exact absurd ih (hclosed info hmem hflag)
      · rfl

/-- **The table of a scan** has one entry for each process of a configured user, and its flag says
whether the process or one of its ancestors matches. -/
theorem buildTracking_spec (hnodup : (processes.map (·.pid)).Nodup) {process : TrackedProcess} :
    (buildTracking configs processes)[pid]? = some process ↔
      ∃ info ∈ processes, ∃ config, info.pid = pid ∧ configs[info.uid]? = some config ∧
        process = trackedEntry config info.uid process.matched ∧
        (process.matched = true ↔ Matched configs processes pid) := by
  have hflag : ∀ pid : UInt32, (flags configs processes)[pid]?.getD false = true ↔
      Matched configs processes pid := by
    intro pid
    constructor
    · intro h
      refine flags_sound hnodup ?_
      rcases hget : (flags configs processes)[pid]? with _ | _ | _
      · simp [hget] at h
      · simp [hget] at h
      · rfl
    · intro h
      rw [flags_complete hnodup h]
      rfl
  refine (getElem?_collected hnodup).trans ?_
  constructor
  · rintro ⟨info, hmem, config, rfl, hconfig, rfl⟩
    exact ⟨info, hmem, config, rfl, hconfig, rfl, hflag info.pid⟩
  · rintro ⟨info, hmem, config, rfl, hconfig, hprocess, hmatched⟩
    refine ⟨info, hmem, config, rfl, hconfig, ?_⟩
    have heq : process.matched = (flags configs processes)[info.pid]?.getD false :=
      Bool.eq_iff_iff.mpr (hmatched.trans (hflag info.pid).symm)
    rw [hprocess, heq]
    rfl

/-- Every entry of the table of a scan is what its user's configuration makes of its flag, also for
a list with duplicates. -/
theorem buildTracking_entry {process : TrackedProcess}
    (h : (buildTracking configs processes)[pid]? = some process) :
    ∃ info ∈ processes, ∃ config, info.pid = pid ∧ configs[info.uid]? = some config ∧
      process = trackedEntry config info.uid process.matched := by
  obtain ⟨info, hmem, config, hpid, hconfig, rfl⟩ := mem_collected.mp (mem_of_getElem?_ofList h)
  exact ⟨info, hmem, config, hpid, hconfig, rfl⟩

/-! ## The order of a scan -/

theorem Matched.mono {processes' : List ProcessInfo} (hsub : ∀ info ∈ processes, info ∈ processes')
    (h : Matched configs processes pid) : Matched configs processes' pid := by
  induction h with
  | direct hmem hconfig hmatch => exact .direct (hsub _ hmem) hconfig hmatch
  | inherited hmem hconfig hparent ih => exact .inherited (hsub _ hmem) hconfig ih

/-- A scan does not depend on the order of the processes. -/
theorem buildTracking_perm {scanned : List ProcessInfo}
    (hnodup : (processes.map (·.pid)).Nodup) (hperm : scanned.Perm processes) :
    buildTracking configs scanned = buildTracking configs processes := by
  have hmatched : ∀ {a b : List ProcessInfo}, a.Perm b → ∀ pid, Matched configs a pid →
      Matched configs b pid := fun hperm pid h => h.mono fun info hmem => hperm.mem_iff.mp hmem
  refine ExtTreeMap.ext_getElem? fun pid => Option.ext fun process => ?_
  rw [buildTracking_spec ((hperm.map _).nodup_iff.mpr hnodup), buildTracking_spec hnodup]
  have hiff : Matched configs scanned pid ↔ Matched configs processes pid :=
    ⟨hmatched hperm pid, hmatched hperm.symm pid⟩
  simp only [hperm.mem_iff, hiff]

/-! ## Following the parents -/

/-- From a process of a configured user to its parent, if its user is configured too. -/
def ParentStep (configs : ConfigMap) (processes : List ProcessInfo)
    (child parent : ProcessInfo) : Prop :=
  child ∈ processes ∧ parent ∈ processes ∧ configs[child.uid]?.isSome ∧
    configs[parent.uid]?.isSome ∧ parent.pid = child.ppid

/-- The configuration of the user of a process matches it. -/
def MatchesItself (configs : ConfigMap) (info : ProcessInfo) : Prop :=
  ∃ config, configs[info.uid]? = some config ∧ config.isMatch info.identities = true

/-- The parents of a process lead to one that its own user's configuration matches. -/
def ReachesMatch (configs : ConfigMap) (processes : List ProcessInfo) (info : ProcessInfo) : Prop :=
  ∃ ancestor, Relation.ReflTransGen (ParentStep configs processes) info ancestor ∧
    MatchesItself configs ancestor

theorem ReachesMatch.matched {info : ProcessInfo} (hmem : info ∈ processes)
    (h : ReachesMatch configs processes info) : Matched configs processes info.pid := by
  obtain ⟨ancestor, hpath, config, hconfig, hmatch⟩ := h
  induction hpath using Relation.ReflTransGen.head_induction_on with
  | refl => exact .direct hmem hconfig hmatch
  | @head child parent hstep _ ih =>
      obtain ⟨-, hparent, hchild, -, hpid⟩ := hstep
      obtain ⟨config', hconfig'⟩ := Option.isSome_iff_exists.mp hchild
      refine .inherited hmem hconfig' ?_
      rw [← hpid]
      exact ih hparent

theorem Matched.exists_reachesMatch (h : Matched configs processes pid) :
    ∃ info ∈ processes, info.pid = pid ∧ configs[info.uid]?.isSome ∧
      ReachesMatch configs processes info := by
  induction h with
  | @direct info config hmem hconfig hmatch =>
      exact ⟨info, hmem, rfl, by rw [hconfig]; rfl, info, .refl, config, hconfig, hmatch⟩
  | @inherited info config hmem hconfig hparent ih =>
      obtain ⟨parent, hmem', hpid, hsome, ancestor, hpath, hmatch⟩ := ih
      have hsome' : configs[info.uid]?.isSome := by rw [hconfig]; rfl
      exact ⟨info, hmem, rfl, hsome', ancestor,
        hpath.head ⟨hmem, hmem', hsome', hsome, hpid⟩, hmatch⟩

/-- The two descriptions of a match agree. -/
theorem matched_iff_reachesMatch (hnodup : (processes.map (·.pid)).Nodup) {info : ProcessInfo}
    (hmem : info ∈ processes) :
    Matched configs processes info.pid ↔ ReachesMatch configs processes info := by
  refine ⟨fun h => ?_, ReachesMatch.matched hmem⟩
  obtain ⟨info', hmem', hpid, -, hreaches⟩ := h.exists_reachesMatch
  rwa [eq_of_pid hnodup hmem' hmem hpid] at hreaches

/-- Where nothing is inherited, a pass changes nothing. -/
theorem Closed.inheritRound {found : ExtTreeMap UInt32 Bool} (h : Closed processes found) :
    inheritRound processes found = (found, false) := by
  have hfold : ∀ rest : List ProcessInfo, (∀ process ∈ rest, process ∈ processes) →
      rest.foldl inheritStep (found, false) = (found, false) := by
    intro rest hrest
    induction rest with
    | nil => rfl
    | cons process rest ih =>
        have hstep : inheritStep (found, false) process = (found, false) := by
          unfold inheritStep
          rw [if_neg fun hfires => h process (hrest process List.mem_cons_self) hfires.1 hfires.2]
        rw [List.foldl_cons, hstep]
        exact ih fun p hp => hrest p (List.mem_cons_of_mem _ hp)
  exact hfold processes fun _ => id

/-- **A scan tracks the processes of configured users**, whatever the parents are: a process is
marked as matched if its parents lead to a match. The passes reach a state that a further one
does not change, and the order of the processes does not matter. -/
theorem buildTracking_exact (configs : ConfigMap) (processes : List ProcessInfo)
    (hnodup : (processes.map (·.pid)).Nodup) :
    (∀ pid, (buildTracking configs processes)[pid]?.isSome ↔
      ∃ info ∈ processes, info.pid = pid ∧ configs[info.uid]?.isSome) ∧
    (∀ info ∈ processes, ∀ config, configs[info.uid]? = some config →
      ∃ matched, (buildTracking configs processes)[info.pid]? =
          some (trackedEntry config info.uid matched) ∧
        (matched = true ↔ ReachesMatch configs processes info)) ∧
    (∀ scanned, scanned.Perm processes →
      buildTracking configs scanned = buildTracking configs processes) ∧
    inheritRound processes (flags configs processes) = (flags configs processes, false) := by
  have hentry : ∀ info ∈ processes, ∀ config, configs[info.uid]? = some config →
      ∃ matched, (buildTracking configs processes)[info.pid]? =
          some (trackedEntry config info.uid matched) ∧
        (matched = true ↔ ReachesMatch configs processes info) := by
    intro info hmem config hconfig
    classical
    refine ⟨decide (Matched configs processes info.pid), ?_, ?_⟩
    · exact (buildTracking_spec hnodup).mpr
        ⟨info, hmem, config, rfl, hconfig, rfl, decide_eq_true_iff⟩
    · rw [decide_eq_true_iff, matched_iff_reachesMatch hnodup hmem]
  refine ⟨fun pid => ⟨?_, ?_⟩, hentry, fun scanned hperm => buildTracking_perm hnodup hperm, ?_⟩
  · intro hsome
    obtain ⟨process, hget⟩ := Option.isSome_iff_exists.mp hsome
    obtain ⟨info, hmem, config, hpid, hconfig, -⟩ := buildTracking_entry hget
    exact ⟨info, hmem, hpid, by rw [hconfig]; rfl⟩
  · rintro ⟨info, hmem, rfl, hsome⟩
    obtain ⟨config, hconfig⟩ := Option.isSome_iff_exists.mp hsome
    obtain ⟨matched, hget, -⟩ := hentry info hmem config hconfig
    rw [hget]
    rfl
  · exact Closed.inheritRound (inheritMatches_closed (unmatched_card_le _ _))

/-- A helper whose parent is an application, and the helper the parent of the application. -/
theorem buildTracking_exact_cycle :
    (buildTracking (ExtTreeMap.ofList [(1000, ⟨.exclude, ["/usr/bin/firefox"], []⟩)] compare)
      [⟨1000, 10, 11, []⟩, ⟨1000, 11, 10, ["/usr/bin/firefox"]⟩])[(10 : UInt32)]? =
        some ⟨1000, true, true⟩ := by
  obtain ⟨-, hentry, -, -⟩ := buildTracking_exact
    (ExtTreeMap.ofList [(1000, ⟨.exclude, ["/usr/bin/firefox"], []⟩)] compare)
    [⟨1000, 10, 11, []⟩, ⟨1000, 11, 10, ["/usr/bin/firefox"]⟩] (by decide)
  have hconfig : (ExtTreeMap.ofList [((1000 : UInt16), SplitConfig.mk .exclude
      ["/usr/bin/firefox"] [])] compare)[(1000 : UInt16)]? =
        some ⟨.exclude, ["/usr/bin/firefox"], []⟩ := by simp
  obtain ⟨matched, hget, hmatched⟩ := hentry ⟨1000, 10, 11, []⟩ List.mem_cons_self _ hconfig
  rw [hget, hmatched.mpr]
  · rfl
  · refine ⟨⟨1000, 11, 10, ["/usr/bin/firefox"]⟩, .single ?_, _, hconfig, by decide +kernel⟩
    exact ⟨by simp, by simp, by simp, by simp, rfl⟩

end table

end ProtonVpnOmarchy.Splitd
