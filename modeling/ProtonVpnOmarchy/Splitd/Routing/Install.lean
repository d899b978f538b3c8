import ProtonVpnOmarchy.Splitd.Routing.Disable

/-!
# The steps of an installation

`enable` looks whether the table and the priority of a user are free, adds the routes and then the
rules, and looks again. Each of these steps can fail at any of its commands.

* `installCommands_exec` — the commands of a route are added all or none, whichever fails.
* `installRoutes_exec` — the routes before one that fails stay.
* `ensureFamilyAvailable_exec` — the first look succeeds exactly if everything is free.
* `ruleAdds_exec` — the rules are added one after the other.
-/

namespace ProtonVpnOmarchy.Splitd.Routing

open Lib Lib.Fallible Bpf

/-! ## Rules in their order -/

section rules

variable {rule : Rule} {rules : List Rule}

theorem insertRule_perm (rule : Rule) (rules : List Rule) :
    (insertRule rule rules).Perm (rule :: rules) := by
  induction rules with
  | nil => exact List.Perm.refl _
  | cons other rules ih =>
      unfold insertRule
      split_ifs
      · exact List.Perm.refl _
      · exact (ih.cons other).trans (List.Perm.swap _ _ _)

theorem erase_insertRule (h : rule ∉ rules) : (insertRule rule rules).erase rule = rules := by
  induction rules with
  | nil => simp [insertRule]
  | cons other rules ih =>
      rw [List.mem_cons, not_or] at h
      unfold insertRule
      split_ifs
      · rw [List.erase_cons_head]
      · rw [List.erase_cons_tail (by simpa using Ne.symm h.1), ih h.2]

theorem filter_insertRule_of_neg {p : Rule → Bool} (h : p rule = false) (rules : List Rule) :
    (insertRule rule rules).filter p = rules.filter p := by
  induction rules with
  | nil => simp [insertRule, h]
  | cons other rules ih =>
      unfold insertRule
      split_ifs
      · rw [List.filter_cons_of_neg (by simp [h])]
      · rw [List.filter_cons, List.filter_cons, ih]

/-- A rule that is the only one with a property. -/
theorem filter_insertRule_of_pos {p : Rule → Bool} (h : p rule = true)
    (hnone : rules.filter p = []) : (insertRule rule rules).filter p = [rule] := by
  have hperm := (insertRule_perm rule rules).filter p
  rw [List.filter_cons_of_pos h, hnone] at hperm
  exact List.perm_singleton.mp hperm

/-- The rules with those of a user. -/
def insertRules (uid : UInt16) (families : List AddressFamily) (rules : AddressFamily → List Rule) :
    AddressFamily → List Rule := fun family =>
  if family ∈ families then insertRule (ruleSpec uid family) (rules family) else rules family

theorem insertRules_nil (uid : UInt16) (rules : AddressFamily → List Rule) :
    insertRules uid [] rules = rules := by
  funext family
  simp [insertRules]

theorem insertRules_cons {uid : UInt16} {family : AddressFamily} {families : List AddressFamily}
    (hfamily : family ∉ families) (rules : AddressFamily → List Rule) :
    insertRules uid families
        (Function.update rules family (insertRule (ruleSpec uid family) (rules family))) =
      insertRules uid (family :: families) rules := by
  funext family'
  by_cases heq : family' = family
  · subst heq
    simp [insertRules, hfamily]
  · simp [insertRules, heq]

/-- What was inserted is erased. -/
theorem eraseRules_insertRules {uid : UInt16} {done families : List AddressFamily}
    {rules : AddressFamily → List Rule} (hsub : done ⊆ families)
    (hnone : ∀ family ∈ families, ruleSpec uid family ∉ rules family) :
    eraseRules uid families (insertRules uid done rules) = rules := by
  funext family
  unfold eraseRules insertRules
  by_cases hdone : family ∈ done
  · rw [if_pos (hsub hdone), if_pos hdone, erase_insertRule (hnone family (hsub hdone))]
  · rw [if_neg hdone]
    split_ifs with hfamily
    · exact List.erase_of_not_mem (hnone family hfamily)
    · rfl

end rules

/-! ## Additions -/

section additions

variable {env : IpEnv} {uid : UInt16} {db : RoutingDb}

/-- The two routes have one place. -/
def Route.Clashes (route other : Route) : Prop :=
  other.family = route.family ∧ other.table = route.table ∧ other.destination = route.destination

theorem RoutingDb.conflicts_eq_false {route : Route} :
    db.conflicts route = false ↔ ∀ other ∈ db.routes, ¬ route.Clashes other := by
  unfold RoutingDb.conflicts Route.Clashes
  simp [and_assoc]

/-- The database after `touched` were added, of which `present` are still there. -/
def RoutingDb.after (db : RoutingDb) (touched present : List Route) : RoutingDb :=
  { db with
    routes := db.routes ++ present
    tables := touched.reverse.map (fun route => (route.family, route.table)) ++ db.tables }

@[simp] theorem RoutingDb.after_nil (db : RoutingDb) : db.after [] [] = db := by
  simp [RoutingDb.after]

theorem RoutingDb.after_after (db : RoutingDb) (touched present touched' present' : List Route) :
    (db.after touched present).after touched' present' =
      db.after (touched ++ touched') (present ++ present') := by
  simp [RoutingDb.after]

@[simp] theorem RoutingDb.after_rules (db : RoutingDb) (touched present : List Route) :
    (db.after touched present).rules = db.rules := rfl

@[simp] theorem RoutingDb.after_interfaces (db : RoutingDb) (touched present : List Route) :
    (db.after touched present).interfaces = db.interfaces := rfl

@[simp] theorem RoutingDb.after_routes (db : RoutingDb) (touched present : List Route) :
    (db.after touched present).routes = db.routes ++ present := rfl

theorem RoutingDb.mem_after_tables {touched present : List Route} {table : AddressFamily × ℕ} :
    table ∈ (db.after touched present).tables ↔
      (∃ route ∈ touched, (route.family, route.table) = table) ∨ table ∈ db.tables := by
  simp [RoutingDb.after]

/-- The additions succeed, the first one being the `n`-th command. -/
def Accepts (env : IpEnv) (interfaces : List String) : ℕ → List Route → Prop
  | _, [] => True
  | n, command :: commands =>
    (env.fails n = none ∧ command.interface ∈ interfaces) ∧
      Accepts env interfaces (n + 1) commands

theorem routeAdd_ok (db : RoutingDb) {command : Route} {n : ℕ} (hfails : env.fails n = none)
    (hinterface : command.interface ∈ db.interfaces)
    (hfree : ∀ other ∈ db.routes, ¬ command.Clashes other) :
    (discard (runIp env (.routeAdd command)) : Fallible IoError IpState Unit).exec ⟨n, db⟩ =
      (.ok (), ⟨n + 1, db.after [command] [command]⟩) := by
  rw [exec_discard]
  unfold runIp
  simp [IpCommand.isDelete, IpCommand.exec, hfails, hinterface,
    RoutingDb.conflicts_eq_false.mpr hfree, RoutingDb.after]

theorem routeAdd_error (db : RoutingDb) {command : Route} {n : ℕ}
    (hrefused : ¬ (env.fails n = none ∧ command.interface ∈ db.interfaces)) :
    ∃ error, (discard (runIp env (.routeAdd command)) : Fallible IoError IpState Unit).exec
      ⟨n, db⟩ = (.error error, ⟨n + 1, db⟩) := by
  rw [exec_discard]
  unfold runIp
  cases hfails : env.fails n with
  | some error => exact ⟨error, by simp [IpCommand.isDelete, hfails]⟩
  | none =>
      have hinterface : command.interface ∉ db.interfaces := fun h => hrefused ⟨hfails, h⟩
      exact ⟨_, by simp [IpCommand.isDelete, IpCommand.exec, hfails, hinterface]; rfl⟩

/-- Deletions whose answers are ignored. -/
theorem rollback_exec (env : IpEnv) (commands : List Route) (s : IpState) :
    ∃ count, (forM commands fun route =>
        ignoreError (discard (runIp env (.routeDelete route)))).exec s =
      (.ok (), ⟨count, { s.db with routes := s.db.routes.diff commands }⟩) := by
  induction commands generalizing s with
  | nil => exact ⟨s.count, rfl⟩
  | cons command commands ih =>
      have hdelete : ((discard (runIp env (.routeDelete command)) :
          Fallible IoError IpState Unit).exec s).2 =
            ⟨s.count + 1, { s.db with routes := s.db.routes.erase command }⟩ := by
        rw [exec_discard]
        unfold runIp
        by_cases hmem : command ∈ s.db.routes
        · simp [IpCommand.isDelete, IpCommand.exec, hmem]
        · simp only [IpCommand.isDelete, IpCommand.exec, hmem, if_true, if_false,
            List.erase_of_not_mem hmem, exec_ofFun]
          split_ifs
          · rfl
          · rfl
          · rfl
      rw [List.forM_cons, exec_bind, exec_ignoreError, hdelete]
      obtain ⟨count, hexec⟩ := ih ⟨s.count + 1, { s.db with routes := s.db.routes.erase command }⟩
      refine ⟨count, ?_⟩
      dsimp only
      rw [hexec, List.diff_cons]

theorem diff_append_of_nodup {α : Type} [DecidableEq α] {kept extra removed : List α}
    (h : (kept ++ extra).Nodup) (hkept : ∀ a ∈ kept, a ∉ removed) :
    (kept ++ extra).diff removed = kept ++ extra.filter (· ∉ removed) := by
  rw [h.sdiff_eq_filter, List.filter_append]
  congr 1
  exact List.filter_eq_self.mpr fun a ha => by simpa using hkept a ha

theorem nodup_append_of_not_clashes {routes commands : List Route} (hroutes : routes.Nodup)
    (hcommands : commands.Pairwise fun first second => ¬ second.Clashes first)
    (hfree : ∀ other ∈ routes, ∀ command ∈ commands, ¬ command.Clashes other) :
    (routes ++ commands).Nodup := by
  refine List.nodup_append.mpr ⟨hroutes, ?_, ?_⟩
  · refine List.Pairwise.imp ?_ hcommands
    rintro first second hclash rfl
    exact hclash ⟨rfl, rfl, rfl⟩
  · intro other hother command hcommand heq
    exact hfree other hother command hcommand (heq ▸ ⟨rfl, rfl, rfl⟩)

/-- The commands are added all, or none is left. -/
theorem installCommands_exec (env : IpEnv) (installed commands : List Route) (n : ℕ)
    (hnodup : (db.routes ++ installed).Nodup)
    (hcommands : commands.Pairwise fun first second => ¬ second.Clashes first)
    (hfree : ∀ other ∈ db.routes ++ installed, ∀ command ∈ commands, ¬ command.Clashes other) :
    (Accepts env db.interfaces n commands ∧
      (installCommands env installed commands).exec ⟨n, db.after installed installed⟩ =
        (.ok (), ⟨n + commands.length,
          db.after (installed ++ commands) (installed ++ commands)⟩)) ∨
    ∃ done command rest error count, commands = done ++ command :: rest ∧
      Accepts env db.interfaces n done ∧
      ¬ (env.fails (n + done.length) = none ∧ command.interface ∈ db.interfaces) ∧
      (installCommands env installed commands).exec ⟨n, db.after installed installed⟩ =
        (.error error, ⟨count, db.after (installed ++ done) []⟩) := by
  induction commands generalizing n installed with
  | nil => exact .inl ⟨trivial, by simp [installCommands]⟩
  | cons command commands ih =>
      rw [List.pairwise_cons] at hcommands
      unfold installCommands
      rw [exec_bind, exec_onError]
      by_cases haccepted : env.fails n = none ∧ command.interface ∈ db.interfaces
      · have hadd := routeAdd_ok (db.after installed installed) haccepted.1 haccepted.2
          fun other hother => hfree other hother command List.mem_cons_self
        rw [hadd, RoutingDb.after_after]
        have hfree' : ∀ other ∈ db.routes ++ (installed ++ [command]), ∀ later ∈ commands,
            ¬ later.Clashes other := by
          intro other hother later hlater
          rw [← List.append_assoc] at hother
          rcases List.mem_append.mp hother with hother | hother
          · exact hfree other hother later (List.mem_cons_of_mem _ hlater)
          · rw [List.mem_singleton.mp hother]
            exact hcommands.1 later hlater
        have hnodup' : (db.routes ++ (installed ++ [command])).Nodup := by
          rw [← List.append_assoc]
          refine nodup_append_of_not_clashes hnodup (List.pairwise_singleton _ _) ?_
          intro other hother command' hcommand'
          rw [List.mem_singleton.mp hcommand']
          exact hfree other hother command List.mem_cons_self
        rcases ih (installed ++ [command]) (n + 1) hnodup' hcommands.2 hfree' with
          ⟨haccepts, hexec⟩ | ⟨done, failing, rest, error, count, rfl, haccepts, hfails, hexec⟩
        · refine .inl ⟨⟨haccepted, haccepts⟩, ?_⟩
          dsimp only
          rw [hexec, List.length_cons, List.append_assoc, List.singleton_append,
            Nat.add_right_comm, Nat.add_assoc]
        · refine .inr ⟨command :: done, failing, rest, error, count, rfl,
            ⟨haccepted, haccepts⟩, ?_, ?_⟩
          · rwa [List.length_cons, ← Nat.add_assoc, Nat.add_right_comm]
          · dsimp only
            rw [hexec, List.append_assoc, List.singleton_append]
      · obtain ⟨error, hadd⟩ := routeAdd_error (db.after installed installed) haccepted
        obtain ⟨count, hrollback⟩ := rollback_exec env installed.reverse
          ⟨n + 1, db.after installed installed⟩
        refine .inr ⟨[], command, commands, error, count, rfl, trivial, haccepted, ?_⟩
        rw [hadd]
        dsimp only
        rw [hrollback, RoutingDb.after_routes, diff_append_of_nodup hnodup ?_]
        · have hnone : installed.filter (fun route => route ∉ installed.reverse) = [] := by
            simp
          rw [hnone, List.append_nil, List.append_nil]
          simp [RoutingDb.after]
        · intro route hroute hmem
          exact (List.nodup_append.mp hnodup).2.2 route hroute route
            (List.mem_reverse.mp hmem) rfl

/-- The commands of a route have different destinations. -/
theorem routeCommands_pairwise (uid : UInt16) (route : PhysicalRoute) :
    (routeCommands uid route).Pairwise fun first second => ¬ second.Clashes first := by
  unfold routeCommands
  cases route.gateway with
  | none => exact List.pairwise_singleton _ _
  | some gateway => simp [Route.Clashes]

/-- The user's table has no route of the family. -/
def RoutingDb.TableFree (db : RoutingDb) (uid : UInt16) (family : AddressFamily) : Prop :=
  ∀ route ∈ db.routes, ¬ (route.family = family ∧ route.table = userTable uid)

theorem installRoute_exec (env : IpEnv) {route : PhysicalRoute} (n : ℕ) (hnodup : db.routes.Nodup)
    (hfree : db.TableFree uid route.family) :
    (Accepts env db.interfaces n (routeCommands uid route) ∧
      (installRoute env uid route).exec ⟨n, db⟩ = (.ok (), ⟨n + (routeCommands uid route).length,
        db.after (routeCommands uid route) (routeCommands uid route)⟩)) ∨
    ∃ done command rest error count, routeCommands uid route = done ++ command :: rest ∧
      Accepts env db.interfaces n done ∧
      ¬ (env.fails (n + done.length) = none ∧ command.interface ∈ db.interfaces) ∧
      (installRoute env uid route).exec ⟨n, db⟩ = (.error error, ⟨count, db.after done []⟩) := by
  have hclash : ∀ other ∈ db.routes ++ [], ∀ command ∈ routeCommands uid route,
      ¬ command.Clashes other := by
    intro other hother command hcommand hclash
    rw [List.append_nil] at hother
    obtain ⟨hfamily, htable, -⟩ := routeCommands_fields hcommand
    exact hfree other hother ⟨hclash.1.trans hfamily, hclash.2.1.trans htable⟩
  have hexec := installCommands_exec env [] (routeCommands uid route) n
    (by rwa [List.append_nil]) (routeCommands_pairwise uid route) hclash
  rw [RoutingDb.after_nil, List.nil_append] at hexec
  exact hexec

end additions

/-! ## Looking -/

section looking

variable {env : IpEnv} {uid : UInt16} {s : IpState} {family : AddressFamily} {α β : Type}

/-- The computation leaves the database alone. -/
def ReadOnly (m : Fallible IoError IpState α) : Prop := ∀ s, (m.exec s).2.db = s.db

theorem ReadOnly.pure (a : α) : ReadOnly (Pure.pure a) := fun _ => rfl

theorem ReadOnly.throw (error : IoError) : ReadOnly (throw error : Fallible IoError IpState α) :=
  fun _ => rfl

theorem ReadOnly.ofExcept (result : Except IoError α) : ReadOnly (ofExcept result) := fun _ => rfl

theorem ReadOnly.bind {m : Fallible IoError IpState α} {f : α → Fallible IoError IpState β}
    (hm : ReadOnly m) (hf : ∀ a, ReadOnly (f a)) : ReadOnly (m >>= f) := by
  intro s
  have h := hm s
  rw [exec_bind]
  rcases hexec : m.exec s with ⟨error | a, s'⟩
  · rw [hexec] at h
    exact h
  · rw [hexec] at h
    exact (hf a s').trans h

theorem ReadOnly.forM {f : α → Fallible IoError IpState Unit} (hf : ∀ a, ReadOnly (f a))
    (xs : List α) : ReadOnly (forM xs f) := by
  induction xs with
  | nil => exact ReadOnly.pure _
  | cons x xs ih =>
      rw [List.forM_cons]
      exact (hf x).bind fun _ => ih

/-- What `route_inventory` returns as the `n`-th command. -/
def routeListing (env : IpEnv) (family : AddressFamily) (table n : ℕ) (db : RoutingDb) :
    Except IoError (Except String (List Item)) :=
  match env.fails n with
  | some error => .error error
  | none =>
    if (family, table) ∈ db.tables then
      match env.garbled n with
      | some detail => .ok (.error detail)
      | none => .ok (.ok ((db.routes.filter fun route =>
          route.family = family && route.table = table).map
            fun route => some (env.protocolField route.protocol)))
    else .ok (.ok [])

theorem routeInventory_exec (env : IpEnv) (family : AddressFamily) (table : ℕ) (s : IpState) :
    (routeInventory env family table).exec s =
      (routeListing env family table s.count s.db, ⟨s.count + 1, s.db⟩) := by
  unfold routeInventory runIp routeListing
  cases hfails : env.fails s.count with
  | some error =>
      have htext := env.fails_text _ _ hfails
      simp [IpCommand.isDelete, hfails, htext]
  | none =>
      by_cases htable : (family, table) ∈ s.db.tables
      · cases hgarbled : env.garbled s.count with
        | some detail => simp [IpCommand.isDelete, IpCommand.exec, hfails, htable, hgarbled]
        | none => simp [IpCommand.isDelete, IpCommand.exec, hfails, htable, hgarbled]
      · simp [IpCommand.isDelete, IpCommand.exec, hfails, htable, env.answers.tableAbsent_text]

/-- What `ip rule show` prints as the `n`-th command. -/
def ruleListing (env : IpEnv) (family : AddressFamily) (priority n : ℕ) (db : RoutingDb) :
    Except IoError (Except String (List Item)) :=
  match env.fails n with
  | some error => .error error
  | none =>
    match env.garbled n with
    | some detail => .ok (.error detail)
    | none =>
      .ok (.ok (((db.rules family).filter fun rule => rule.priority = priority).map fun _ => none))

theorem ruleShow_exec (env : IpEnv) (family : AddressFamily) (priority : ℕ) (s : IpState) :
    (runIp env (.ruleShow family priority)).exec s =
      (ruleListing env family priority s.count s.db, ⟨s.count + 1, s.db⟩) := by
  unfold runIp ruleListing
  cases hfails : env.fails s.count with
  | some error => simp [IpCommand.isDelete, hfails]
  | none =>
      cases hgarbled : env.garbled s.count with
      | some detail => simp [IpCommand.isDelete, IpCommand.exec, hfails, hgarbled]
      | none => simp [IpCommand.isDelete, IpCommand.exec, hfails, hgarbled]

theorem readOnly_routeInventory (env : IpEnv) (family : AddressFamily) (table : ℕ) :
    ReadOnly (routeInventory env family table) := by
  intro s
  rw [routeInventory_exec]

theorem readOnly_ruleShow (env : IpEnv) (family : AddressFamily) (priority : ℕ) :
    ReadOnly (runIp env (.ruleShow family priority)) := by
  intro s
  rw [ruleShow_exec]

theorem readOnly_ensureFamilyAvailable (env : IpEnv) (uid : UInt16) (family : AddressFamily) :
    ReadOnly (ensureFamilyAvailable env uid family) := by
  refine (readOnly_routeInventory env family _).bind fun routes => ?_
  refine (readOnly_ruleShow env family _).bind fun rules => ?_
  refine (ReadOnly.ofExcept _).bind fun routes => ?_
  split_ifs
  · exact ReadOnly.throw _
  · refine (ReadOnly.ofExcept _).bind fun rules => ?_
    split_ifs
    · exact ReadOnly.throw _
    · exact ReadOnly.pure _

theorem readOnly_verifyFamilyOwnership (env : IpEnv) (uid : UInt16) (routes : List PhysicalRoute)
    (family : AddressFamily) : ReadOnly (verifyFamilyOwnership env uid family routes) := by
  refine (readOnly_routeInventory env family _).bind fun routeItems => ?_
  refine (readOnly_ruleShow env family _).bind fun ruleItems => ?_
  refine (ReadOnly.ofExcept _).bind fun routeItems => ?_
  split_ifs
  · refine (ReadOnly.ofExcept _).bind fun ruleItems => ?_
    split_ifs
    · exact ReadOnly.throw _
    · exact ReadOnly.pure _
  · exact ReadOnly.throw _

/-- The family has no rule at the user's priority. -/
def RoutingDb.PriorityFree (db : RoutingDb) (uid : UInt16) (family : AddressFamily) : Prop :=
  ∀ rule ∈ db.rules family, rule.priority ≠ rulePriority uid

/-- The two listings that start at the `n`-th command are read, and are empty. -/
structure Available (env : IpEnv) (uid : UInt16) (family : AddressFamily) (n : ℕ)
    (db : RoutingDb) : Prop where
  routes_read : env.fails n = none ∧
    ((family, userTable uid) ∈ db.tables → env.garbled n = none)
  routes_free : db.TableFree uid family
  rules_read : env.fails (n + 1) = none ∧ env.garbled (n + 1) = none
  rules_free : db.PriorityFree uid family

theorem listing_eq_ok_nil_iff {listing : Except IoError (Except String (List Item))} :
    (∃ output, listing = .ok output ∧ inventory output = .ok []) ↔ listing = .ok (.ok []) := by
  constructor
  · rintro ⟨output, rfl, h⟩
    unfold inventory at h
    split at h
    · rw [Except.ok.inj h]
    · cases h
  · intro h
    exact ⟨.ok [], h, rfl⟩

theorem routeListing_eq_nil_iff (hwf : s.db.WellFormed) {n : ℕ} :
    routeListing env family (userTable uid) n s.db = .ok (.ok []) ↔
      (env.fails n = none ∧ ((family, userTable uid) ∈ s.db.tables → env.garbled n = none)) ∧
        s.db.TableFree uid family := by
  have habsent : (family, userTable uid) ∉ s.db.tables → s.db.TableFree uid family := by
    rintro habsent route hroute ⟨rfl, htable⟩
    exact habsent (htable ▸ hwf.table_mem route hroute)
  unfold routeListing
  cases hfails : env.fails n with
  | some error => simp
  | none =>
      by_cases htable : (family, userTable uid) ∈ s.db.tables
      · cases hgarbled : env.garbled n with
        | some detail => simp [htable]
        | none => simp [htable, RoutingDb.TableFree]
      · simp [htable, habsent htable]

theorem ruleListing_eq_nil_iff {db : RoutingDb} {n : ℕ} :
    ruleListing env family (rulePriority uid) n db = .ok (.ok []) ↔
      (env.fails n = none ∧ env.garbled n = none) ∧ db.PriorityFree uid family := by
  unfold ruleListing
  cases hfails : env.fails n with
  | some error => simp
  | none =>
      cases hgarbled : env.garbled n with
      | some detail => simp
      | none => simp [RoutingDb.PriorityFree]

/-- The first look succeeds exactly if everything is free. -/
theorem ensureFamilyAvailable_exec (env : IpEnv) (uid : UInt16) (family : AddressFamily)
    (hwf : s.db.WellFormed) :
    (Available env uid family s.count s.db ∧
        (ensureFamilyAvailable env uid family).exec s = (.ok (), ⟨s.count + 2, s.db⟩)) ∨
      (¬ Available env uid family s.count s.db ∧
        ∃ error count, (ensureFamilyAvailable env uid family).exec s =
          (.error error, ⟨count, s.db⟩)) := by
  have hiff : Available env uid family s.count s.db ↔
      routeListing env family (userTable uid) s.count s.db = .ok (.ok []) ∧
        ruleListing env family (rulePriority uid) (s.count + 1) s.db = .ok (.ok []) := by
    rw [routeListing_eq_nil_iff hwf, ruleListing_eq_nil_iff]
    exact ⟨fun h => ⟨⟨h.1, h.2⟩, h.3, h.4⟩, fun h => ⟨h.1.1, h.1.2, h.2.1, h.2.2⟩⟩
  have hdb := readOnly_ensureFamilyAvailable env uid family s
  have hok : ∀ s', (ensureFamilyAvailable env uid family).exec s = (.ok (), s') →
      Available env uid family s.count s.db := by
    intro s' hok
    obtain ⟨routes, s₁, hroutes, hok⟩ := exec_bind_eq_ok hok
    obtain ⟨rules, s₂, hrules, hok⟩ := exec_bind_eq_ok hok
    obtain ⟨routeItems, s₃, hrouteItems, hok⟩ := exec_bind_eq_ok hok
    split_ifs at hok with hempty
    · cases hok
    rw [not_not] at hempty
    obtain ⟨ruleItems, s₄, hruleItems, hok⟩ := exec_bind_eq_ok hok
    split_ifs at hok with hempty'
    · cases hok
    rw [not_not] at hempty'
    subst hempty hempty'
    rw [routeInventory_exec] at hroutes
    obtain ⟨hlisting, rfl⟩ := Prod.mk.inj hroutes
    rw [ruleShow_exec] at hrules
    rw [hiff]
    exact ⟨listing_eq_ok_nil_iff.mp ⟨routes, hlisting, (Prod.mk.inj hrouteItems).1⟩,
      listing_eq_ok_nil_iff.mp ⟨rules, (Prod.mk.inj hrules).1, (Prod.mk.inj hruleItems).1⟩⟩
  by_cases havailable : Available env uid family s.count s.db
  · refine .inl ⟨havailable, ?_⟩
    obtain ⟨hroutes, hrules⟩ := hiff.mp havailable
    unfold ensureFamilyAvailable
    rw [exec_bind, routeInventory_exec, hroutes]
    dsimp only
    rw [exec_bind, ruleShow_exec, hrules]
    rfl
  · refine .inr ⟨havailable, ?_⟩
    rcases hexec : (ensureFamilyAvailable env uid family).exec s with ⟨error | ⟨⟩, s'⟩
    · rw [hexec] at hdb
      exact ⟨error, s'.count, by rw [← hdb]⟩
    · exact absurd (hok s' hexec) havailable

end looking

/-! ## The steps of `enable` -/

section steps

variable {env : IpEnv} {uid : UInt16} {db : RoutingDb}

/-- The commands of all routes. -/
def allCommands (uid : UInt16) (routes : List PhysicalRoute) : List Route :=
  routes.flatMap (routeCommands uid)

theorem allCommands_cons (uid : UInt16) (route : PhysicalRoute) (routes : List PhysicalRoute) :
    allCommands uid (route :: routes) = routeCommands uid route ++ allCommands uid routes :=
  List.flatMap_cons

theorem mem_allCommands {routes : List PhysicalRoute} {command : Route} :
    command ∈ allCommands uid routes ↔ ∃ route ∈ routes, command ∈ routeCommands uid route :=
  List.mem_flatMap

theorem accepts_append {interfaces : List String} {first second : List Route} {n : ℕ} :
    Accepts env interfaces n (first ++ second) ↔
      Accepts env interfaces n first ∧ Accepts env interfaces (n + first.length) second := by
  induction first generalizing n with
  | nil => simp [Accepts]
  | cons command first ih =>
      rw [List.cons_append, Accepts, Accepts, ih, List.length_cons, Nat.add_right_comm n 1,
        Nat.add_assoc n]
      exact and_assoc.symm

theorem Accepts.interface_mem {interfaces : List String} {commands : List Route} {n : ℕ}
    (h : Accepts env interfaces n commands) : ∀ command ∈ commands,
      command.interface ∈ interfaces := by
  induction commands generalizing n with
  | nil => simp
  | cons command commands ih => exact List.forall_mem_cons.mpr ⟨h.1.2, ih h.2⟩

/-- The routes are added one after the other; those before one that fails stay. -/
theorem installRoutes_exec (env : IpEnv) {routes : List PhysicalRoute} (n : ℕ)
    (hnodup : db.routes.Nodup) (hfamilies : (routes.map PhysicalRoute.family).Nodup)
    (hfree : ∀ route ∈ routes, db.TableFree uid route.family) :
    (Accepts env db.interfaces n (allCommands uid routes) ∧
      (forM routes (installRoute env uid)).exec ⟨n, db⟩ =
        (.ok (), ⟨n + (allCommands uid routes).length,
          db.after (allCommands uid routes) (allCommands uid routes)⟩)) ∨
    ∃ before route later done command rest error count,
      routes = before ++ route :: later ∧ routeCommands uid route = done ++ command :: rest ∧
      Accepts env db.interfaces n (allCommands uid before ++ done) ∧
      ¬ (env.fails (n + (allCommands uid before ++ done).length) = none ∧
        command.interface ∈ db.interfaces) ∧
      (forM routes (installRoute env uid)).exec ⟨n, db⟩ = (.error error,
        ⟨count, db.after (allCommands uid before ++ done) (allCommands uid before)⟩) := by
  induction routes generalizing n db with
  | nil => exact .inl ⟨trivial, by simp [allCommands]⟩
  | cons route routes ih =>
      rw [List.map_cons, List.nodup_cons] at hfamilies
      rw [List.forM_cons, exec_bind]
      rcases installRoute_exec env n hnodup (hfree route List.mem_cons_self) with
        ⟨haccepts, hexec⟩ | ⟨done, command, rest, error, count, hcommands, haccepts, hfails, hexec⟩
      · rw [hexec]
        have hclash : ∀ other ∈ db.routes, ∀ command ∈ routeCommands uid route,
            ¬ command.Clashes other := by
          intro other hother command hcommand hclash
          obtain ⟨hfamily, htable, -⟩ := routeCommands_fields hcommand
          exact hfree route List.mem_cons_self other hother
            ⟨hclash.1.trans hfamily, hclash.2.1.trans htable⟩
        have hfree' : ∀ later ∈ routes, (db.after (routeCommands uid route)
            (routeCommands uid route)).TableFree uid later.family := by
          rintro later hlater other hother ⟨hfamily, htable⟩
          rw [RoutingDb.after_routes] at hother
          rcases List.mem_append.mp hother with hother | hother
          · exact hfree later (List.mem_cons_of_mem _ hlater) other hother ⟨hfamily, htable⟩
          · refine hfamilies.1 (List.mem_map.mpr ⟨later, hlater, ?_⟩)
            rw [← hfamily, (routeCommands_fields hother).1]
        dsimp only
        rcases ih (n + (routeCommands uid route).length)
            (nodup_append_of_not_clashes hnodup (routeCommands_pairwise uid route) hclash)
            hfamilies.2 hfree' with ⟨haccepts', hexec'⟩ |
          ⟨before, failing, later, done, command, rest, error, count, rfl, hcommands, haccepts',
            hfails, hexec'⟩
        · refine .inl ⟨accepts_append.mpr ⟨haccepts, haccepts'⟩, ?_⟩
          rw [hexec', RoutingDb.after_after, allCommands_cons, List.length_append, Nat.add_assoc]
        · refine .inr ⟨route :: before, failing, later, done, command, rest, error, count, rfl,
            hcommands, ?_, ?_, ?_⟩
          · rw [allCommands_cons, List.append_assoc]
            exact accepts_append.mpr ⟨haccepts, haccepts'⟩
          · rw [allCommands_cons, List.append_assoc, List.length_append, ← Nat.add_assoc]
            exact hfails
          · rw [hexec', RoutingDb.after_after, allCommands_cons, List.append_assoc]
      · rw [hexec]
        exact .inr ⟨[], route, routes, done, command, rest, error, count, rfl, hcommands,
          haccepts, hfails, rfl⟩

/-- The rules are added one after the other. -/
theorem ruleAdds_exec (env : IpEnv) {families : List AddressFamily} (hnodup : families.Nodup)
    (s : IpState) (hnone : ∀ family ∈ families, ruleSpec uid family ∉ s.db.rules family) :
    ∃ r count done, (forM families fun family =>
        (discard (runIp env (.ruleAdd (ruleSpec uid family))) :
          Fallible IoError IpState Unit)).exec s =
      (r, ⟨count, { s.db with rules := insertRules uid done s.db.rules }⟩) ∧
      done ⊆ families ∧ (r = .ok () → done = families) := by
  induction families generalizing s with
  | nil => exact ⟨.ok (), s.count, [], by rw [insertRules_nil]; rfl, by simp, fun _ => rfl⟩
  | cons family families ih =>
      obtain ⟨hfamily, hnodup⟩ := List.nodup_cons.mp hnodup
      rw [List.forM_cons, exec_bind, exec_discard]
      unfold runIp
      cases hfails : env.fails s.count with
      | some error =>
          refine ⟨.error error, s.count + 1, [], ?_, List.nil_subset _, nofun⟩
          rw [insertRules_nil]
          simp [IpCommand.isDelete, hfails]
      | none =>
          have habsent : ruleSpec uid family ∉ s.db.rules family :=
            hnone family List.mem_cons_self
          obtain ⟨r, count, done, hexec, hsub, hok⟩ := ih hnodup ⟨s.count + 1, { s.db with
            rules := Function.update s.db.rules family
              (insertRule (ruleSpec uid family) (s.db.rules family)) }⟩ (by
              intro family' hfamily'
              have hne : family' ≠ family := fun heq => hfamily (heq ▸ hfamily')
              simpa [hne] using hnone family' (List.mem_cons_of_mem _ hfamily'))
          refine ⟨r, count, family :: done, ?_, List.cons_subset_cons _ hsub,
            fun h => by rw [hok h]⟩
          rw [← insertRules_cons (fun hdone => hfamily (hsub hdone)), ← hexec]
          simp only [IpCommand.isDelete, IpCommand.exec, hfails, exec_ofFun, Bool.false_eq_true,
            if_false]
          rw [if_neg (show ruleSpec uid family ∉ s.db.rules (ruleSpec uid family).family from
            habsent)]
          rfl

end steps

end ProtonVpnOmarchy.Splitd.Routing
