import ProtonVpnOmarchy.Splitd.Routing.Basic

/-!
# Removing a user's routes

`disable` deletes the rules and routes of a user. It goes on over a rule or a route that is absent,
but stops at an answer it does not know: that a table does not exist, or that an interface is gone.

* `disable_exec` — what it leaves, and when it stops.
* `recovery_ok_iff` — the recovery of `Engine::with_store` succeeds exactly if every recorded route
  has its table and its interface.
* `recovery_stops_after_reboot` — a daemon that cannot start.
-/

namespace ProtonVpnOmarchy.Splitd.Routing

open Lib Lib.Fallible Bpf

section deletions

variable {env : IpEnv} {uid : UInt16} {s s' : IpState} {route : Route} {rule : Rule}

/-- The kernel has the table of the route, and its interface. -/
def RoutingDb.Knows (db : RoutingDb) (route : Route) : Prop :=
  route.interface ∈ db.interfaces ∧ (route.family, route.table) ∈ db.tables

instance (db : RoutingDb) : DecidablePred db.Knows := fun route =>
  inferInstanceAs (Decidable (route.interface ∈ db.interfaces ∧
    (route.family, route.table) ∈ db.tables))

/-- A rule is gone afterwards, whether it was there or not. -/
theorem deletePresent_rule (env : IpEnv) (rule : Rule) (s : IpState) :
    (deletePresent env (.ruleDelete rule)).exec s = (.ok (), ⟨s.count + 1, { s.db with
      rules := Function.update s.db.rules rule.family ((s.db.rules rule.family).erase rule) }⟩) := by
  unfold deletePresent runIp
  by_cases hmem : rule ∈ s.db.rules rule.family
  · simp [IpCommand.isDelete, IpCommand.exec, hmem]
  · simp [IpCommand.isDelete, IpCommand.exec, hmem, env.answers.ruleAbsent_text,
      List.erase_of_not_mem hmem]

/-- A route whose table and interface exist is gone afterwards. -/
theorem deletePresent_route (hknown : s.db.Knows route) :
    (deletePresent env (.routeDelete route)).exec s = (.ok (), ⟨s.count + 1, { s.db with
      routes := s.db.routes.erase route }⟩) := by
  unfold deletePresent runIp
  by_cases hmem : route ∈ s.db.routes
  · simp [IpCommand.isDelete, IpCommand.exec, hmem]
  · simp [IpCommand.isDelete, IpCommand.exec, hmem, hknown.1, hknown.2,
      env.answers.routeAbsent_text, List.erase_of_not_mem hmem]

/-- Otherwise `ip` gives an answer the daemon does not know. -/
theorem deletePresent_unknown (env : IpEnv) (hwf : s.db.WellFormed) (hblank : ' ' ∉ route.interface.toList)
    (hunknown : ¬ s.db.Knows route) :
    ∃ error, (deletePresent env (.routeDelete route)).exec s =
      (.error error, { s with count := s.count + 1 }) := by
  have hmem : route ∉ s.db.routes :=
    fun hmem => hunknown ⟨hwf.interface_mem route hmem, hwf.table_mem route hmem⟩
  unfold deletePresent runIp
  by_cases hinterface : route.interface ∈ s.db.interfaces
  · have htable : (route.family, route.table) ∉ s.db.tables :=
      fun htable => hunknown ⟨hinterface, htable⟩
    simp [IpCommand.isDelete, IpCommand.exec, hmem, hinterface, htable,
      env.answers.tableAbsent_text]
  · simp [IpCommand.isDelete, IpCommand.exec, hmem, hinterface,
      env.answers.interfaceAbsent_text _ hblank]

/-- Fewer routes over the same tables and interfaces. -/
theorem RoutingDb.WellFormed.of_sublist {db : RoutingDb} {routes : List Route}
    (h : db.WellFormed) (hsub : routes.Sublist db.routes) :
    RoutingDb.WellFormed { db with routes := routes } where
  rules_nodup := h.rules_nodup
  routes_nodup := h.routes_nodup.sublist hsub
  table_mem := fun route hmem => h.table_mem route (hsub.subset hmem)
  interface_mem := fun route hmem => h.interface_mem route (hsub.subset hmem)

/-- Routes are deleted one after the other, up to the first unknown one. -/
theorem forM_deletePresent_routes (env : IpEnv) (commands : List Route) (hwf : s.db.WellFormed)
    (hblank : ∀ route ∈ commands, ' ' ∉ route.interface.toList) :
    ∃ r count, (forM commands fun route => deletePresent env (.routeDelete route)).exec s =
        (r, ⟨count, { s.db with
          routes := s.db.routes.diff (commands.takeWhile fun route => s.db.Knows route) }⟩) ∧
      (r = .ok () ↔ ∀ route ∈ commands, s.db.Knows route) := by
  induction commands generalizing s with
  | nil => exact ⟨.ok (), s.count, rfl, by simp⟩
  | cons route commands ih =>
      rw [List.forM_cons, exec_bind]
      by_cases hknown : s.db.Knows route
      · rw [deletePresent_route hknown]
        obtain ⟨r, count, hexec, hr⟩ := ih
          (s := ⟨s.count + 1, { s.db with routes := s.db.routes.erase route }⟩)
          (hwf.of_sublist List.erase_sublist)
          (fun route hmem => hblank route (List.mem_cons_of_mem _ hmem))
        refine ⟨r, count, ?_, ?_⟩
        · dsimp only
          rw [hexec, List.takeWhile_cons_of_pos (by simpa using hknown), List.diff_cons]
          rfl
        · rw [hr, List.forall_mem_cons]
          exact (and_iff_right hknown).symm
      · obtain ⟨error, hexec⟩ := deletePresent_unknown env hwf
          (hblank route List.mem_cons_self) hknown
        rw [hexec]
        refine ⟨.error error, s.count + 1, ?_, ?_⟩
        · rw [List.takeWhile_cons_of_neg (by simpa using hknown)]
          rfl
        · refine ⟨nofun, fun h => absurd (h route List.mem_cons_self) hknown⟩

/-- The rules without those of a user. -/
def eraseRules (uid : UInt16) (families : List AddressFamily) (rules : AddressFamily → List Rule) :
    AddressFamily → List Rule := fun family =>
  if family ∈ families then (rules family).erase (ruleSpec uid family) else rules family

theorem eraseRules_nil (uid : UInt16) (rules : AddressFamily → List Rule) :
    eraseRules uid [] rules = rules := by
  funext family
  simp [eraseRules]

theorem eraseRules_cons {family : AddressFamily} {families : List AddressFamily}
    (hfamily : family ∉ families) (rules : AddressFamily → List Rule) :
    eraseRules uid families
        (Function.update rules family ((rules family).erase (ruleSpec uid family))) =
      eraseRules uid (family :: families) rules := by
  funext family'
  by_cases heq : family' = family
  · subst heq
    simp [eraseRules, hfamily]
  · simp [eraseRules, heq]

theorem nodup_eraseRules {families : List AddressFamily} {rules : AddressFamily → List Rule}
    (h : ∀ family, (rules family).Nodup) (family : AddressFamily) :
    (eraseRules uid families rules family).Nodup := by
  unfold eraseRules
  split_ifs
  · exact (h family).erase _
  · exact h family

/-- The rules of every family are deleted. -/
theorem forM_deletePresent_rules (env : IpEnv) (uid : UInt16) {families : List AddressFamily}
    (hnodup : families.Nodup) (s : IpState) :
    ∃ count, (forM families fun family =>
        deletePresent env (.ruleDelete (ruleSpec uid family))).exec s =
      (.ok (), ⟨count, { s.db with rules := eraseRules uid families s.db.rules }⟩) := by
  induction families generalizing s with
  | nil => exact ⟨s.count, by rw [eraseRules_nil]; rfl⟩
  | cons family families ih =>
      obtain ⟨hfamily, hnodup⟩ := List.nodup_cons.mp hnodup
      rw [List.forM_cons, exec_bind, deletePresent_rule]
      obtain ⟨count, hexec⟩ := ih hnodup ⟨s.count + 1, { s.db with
        rules := Function.update s.db.rules family
          ((s.db.rules family).erase (ruleSpec uid family)) }⟩
      refine ⟨count, ?_⟩
      rw [← eraseRules_cons hfamily]
      exact hexec

theorem routeFamilies_nodup (routes : List PhysicalRoute) : (routeFamilies routes).Nodup :=
  List.Nodup.filter _ (by decide)

theorem mem_routeFamilies {routes : List PhysicalRoute} {family : AddressFamily} :
    family ∈ routeFamilies routes ↔ ∃ route ∈ routes, route.family = family := by
  unfold routeFamilies
  rw [List.mem_filter, List.any_eq_true]
  have hmem : family ∈ [AddressFamily.ipv4, AddressFamily.ipv6] := by
    cases family with
    | ipv4 => decide
    | ipv6 => decide
  simp [hmem]

/-- The commands of a route are about its family, its interface and the user's table. -/
theorem routeCommands_fields {route : PhysicalRoute} {command : Route}
    (h : command ∈ routeCommands uid route) : command.family = route.family ∧
      command.table = userTable uid ∧ command.interface = route.interface := by
  unfold routeCommands at h
  cases hgateway : route.gateway with
  | none =>
      simp only [hgateway, List.mem_singleton] at h
      subst h
      exact ⟨rfl, rfl, rfl⟩
  | some gateway =>
      simp only [hgateway, List.mem_cons, List.not_mem_nil, or_false] at h
      rcases h with rfl | rfl
      · exact ⟨rfl, rfl, rfl⟩
      · exact ⟨rfl, rfl, rfl⟩

theorem routeCommands_ne_nil (uid : UInt16) (route : PhysicalRoute) :
    routeCommands uid route ≠ [] := by
  unfold routeCommands
  cases route.gateway with
  | none => exact List.cons_ne_nil _ _
  | some gateway => exact List.cons_ne_nil _ _

/-- The kernel has the user's table of the route's family, and its interface. -/
def RoutingDb.KnowsRoute (db : RoutingDb) (uid : UInt16) (route : PhysicalRoute) : Prop :=
  route.interface ∈ db.interfaces ∧ (route.family, userTable uid) ∈ db.tables

instance (db : RoutingDb) (uid : UInt16) : DecidablePred (db.KnowsRoute uid) := fun route =>
  inferInstanceAs (Decidable (route.interface ∈ db.interfaces ∧
    (route.family, userTable uid) ∈ db.tables))

theorem RoutingDb.knows_iff {db : RoutingDb} {route : PhysicalRoute} {command : Route}
    (h : command ∈ routeCommands uid route) : db.Knows command ↔ db.KnowsRoute uid route := by
  obtain ⟨hfamily, htable, hinterface⟩ := routeCommands_fields h
  unfold RoutingDb.Knows RoutingDb.KnowsRoute
  rw [hfamily, htable, hinterface]

/-- The routes of a user in the order in which they are deleted. -/
def deletionOrder (uid : UInt16) (routes : List PhysicalRoute) : List Route :=
  routes.reverse.flatMap fun route => (routeCommands uid route).reverse

theorem mem_deletionOrder {routes : List PhysicalRoute} {command : Route} :
    command ∈ deletionOrder uid routes ↔ ∃ route ∈ routes, command ∈ routeCommands uid route := by
  simp [deletionOrder]

/-- What `disable` leaves: the rules are gone, the routes up to the first one whose table or
interface is not there; without such a one it succeeds. -/
theorem disable_exec (env : IpEnv) {routes : List PhysicalRoute} (hwf : s.db.WellFormed)
    (hblank : ∀ route ∈ routes, ' ' ∉ route.interface.toList) :
    ∃ r count, (disable env uid routes).exec s = (r, ⟨count, { s.db with
        rules := eraseRules uid (routeFamilies routes) s.db.rules
        routes := s.db.routes.diff
          ((deletionOrder uid routes).takeWhile fun command => s.db.Knows command) }⟩) ∧
      (r = .ok () ↔ ∀ route ∈ routes, s.db.KnowsRoute uid route) := by
  obtain ⟨count, hrules⟩ := forM_deletePresent_rules env uid (routeFamilies_nodup routes) s
  have hwf' : RoutingDb.WellFormed
      { s.db with rules := eraseRules uid (routeFamilies routes) s.db.rules } := by
    refine ⟨?_, hwf.routes_nodup, hwf.table_mem, hwf.interface_mem⟩
    exact nodup_eraseRules hwf.rules_nodup
  have hblank' : ∀ command ∈ deletionOrder uid routes, ' ' ∉ command.interface.toList := by
    intro command hcommand
    obtain ⟨route, hroute, hmem⟩ := mem_deletionOrder.mp hcommand
    rw [(routeCommands_fields hmem).2.2]
    exact hblank route hroute
  obtain ⟨r, count', hexec, hr⟩ := forM_deletePresent_routes env (s := ⟨count, _⟩)
    (deletionOrder uid routes) hwf' hblank'
  refine ⟨r, count', ?_, hr.trans ?_⟩
  · unfold disable
    rw [exec_bind, hrules, ← forM_flatMap]
    exact hexec
  · constructor
    · intro h route hroute
      obtain ⟨command, hcommand⟩ := List.exists_mem_of_ne_nil _ (routeCommands_ne_nil uid route)
      exact (RoutingDb.knows_iff hcommand).mp
        (h command (mem_deletionOrder.mpr ⟨route, hroute, hcommand⟩))
    · intro h command hcommand
      obtain ⟨route, hroute, hmem⟩ := mem_deletionOrder.mp hcommand
      exact (RoutingDb.knows_iff hmem).mpr (h route hroute)

end deletions

/-! ## Recovery -/

section recovery

variable {env : IpEnv} {s s' : IpState} {uid : UInt16} {routes : List PhysicalRoute}

/-- What was recorded of the user is gone and everything else is as before. -/
structure RemovedExactly (uid : UInt16) (routes : List PhysicalRoute) (db db' : RoutingDb) : Prop
    where
  rules : ∀ family rule, rule ∈ db'.rules family ↔
    rule ∈ db.rules family ∧ ¬ (family ∈ routeFamilies routes ∧ rule = ruleSpec uid family)
  routes : ∀ command, command ∈ db'.routes ↔
    command ∈ db.routes ∧ ¬ ∃ route ∈ routes, command ∈ routeCommands uid route
  tables : db'.tables = db.tables
  interfaces : db'.interfaces = db.interfaces

theorem mem_eraseRules {families : List AddressFamily} {rules : AddressFamily → List Rule}
    (h : ∀ family, (rules family).Nodup) (family : AddressFamily) (rule : Rule) :
    rule ∈ eraseRules uid families rules family ↔
      rule ∈ rules family ∧ ¬ (family ∈ families ∧ rule = ruleSpec uid family) := by
  unfold eraseRules
  by_cases hfamily : family ∈ families
  · rw [if_pos hfamily, (h family).mem_erase_iff]
    simp [hfamily, and_comm]
  · rw [if_neg hfamily]
    simp [hfamily]

/-- `disable` succeeds exactly if every route has its table and its interface, and then removes what
is left of them. -/
theorem disable_ok_iff (env : IpEnv) (uid : UInt16) (hwf : s.db.WellFormed)
    (hblank : ∀ route ∈ routes, ' ' ∉ route.interface.toList) :
    (((disable env uid routes).exec s).1 = .ok () ↔ ∀ route ∈ routes, s.db.KnowsRoute uid route) ∧
      (((disable env uid routes).exec s).1 = .ok () →
        RemovedExactly uid routes s.db ((disable env uid routes).exec s).2.db) := by
  obtain ⟨r, count, hexec, hr⟩ := disable_exec env hwf hblank
  rw [hexec]
  refine ⟨hr, ?_⟩
  intro hok
  have hknown := hr.mp hok
  have htake : (deletionOrder uid routes).takeWhile (fun command => s.db.Knows command) =
      deletionOrder uid routes := by
    rw [List.takeWhile_eq_self_iff]
    intro command hcommand
    obtain ⟨route, hroute, hmem⟩ := mem_deletionOrder.mp hcommand
    simpa using (RoutingDb.knows_iff hmem).mpr (hknown route hroute)
  refine ⟨mem_eraseRules hwf.rules_nodup, ?_, rfl, rfl⟩
  intro command
  dsimp only
  rw [htake, hwf.routes_nodup.mem_sdiff_iff, mem_deletionOrder]

/-- Deletions keep the database well formed. -/
theorem disable_wellFormed (env : IpEnv) (uid : UInt16) (hwf : s.db.WellFormed)
    (hblank : ∀ route ∈ routes, ' ' ∉ route.interface.toList) :
    ((disable env uid routes).exec s).2.db.WellFormed ∧
      ((disable env uid routes).exec s).2.db.tables = s.db.tables ∧
      ((disable env uid routes).exec s).2.db.interfaces = s.db.interfaces := by
  obtain ⟨r, count, hexec, -⟩ := disable_exec env hwf hblank
  rw [hexec]
  refine ⟨⟨nodup_eraseRules hwf.rules_nodup, hwf.routes_nodup.diff, ?_, ?_⟩, rfl, rfl⟩
  · exact fun route hmem => hwf.table_mem route (List.diff_subset _ _ hmem)
  · exact fun route hmem => hwf.interface_mem route (List.diff_subset _ _ hmem)

/-- The routes recorded for each user. -/
abbrev BypassRecords := List (UInt16 × List PhysicalRoute)

/-- Source: `engine.rs` `Engine::with_store`, the loop over the recorded routes -/
def recoverRouting (env : IpEnv) (records : BypassRecords) : Fallible IoError IpState Unit :=
  forM records fun (uid, routes) => disable env uid routes

/-- What was recorded of every user is gone and everything else is as before. -/
structure RecoveredExactly (records : BypassRecords) (db db' : RoutingDb) : Prop where
  rules : ∀ family rule, rule ∈ db'.rules family ↔ rule ∈ db.rules family ∧
    ¬ ∃ record ∈ records, family ∈ routeFamilies record.2 ∧ rule = ruleSpec record.1 family
  routes : ∀ command, command ∈ db'.routes ↔ command ∈ db.routes ∧
    ¬ ∃ record ∈ records, ∃ route ∈ record.2, command ∈ routeCommands record.1 route

theorem recoverRouting_exec (env : IpEnv) {records : BypassRecords} (hwf : s.db.WellFormed)
    (hblank : ∀ record ∈ records, ∀ route ∈ record.2, ' ' ∉ route.interface.toList) :
    (((recoverRouting env records).exec s).1 = .ok () ↔
        ∀ record ∈ records, ∀ route ∈ record.2, s.db.KnowsRoute record.1 route) ∧
      (((recoverRouting env records).exec s).1 = .ok () →
        RecoveredExactly records s.db ((recoverRouting env records).exec s).2.db) := by
  unfold recoverRouting
  induction records generalizing s with
  | nil => exact ⟨by simp, fun _ => ⟨by simp, by simp⟩⟩
  | cons record records ih =>
      obtain ⟨uid, routes⟩ := record
      have hblank' := hblank (uid, routes) List.mem_cons_self
      obtain ⟨hok, hremoved⟩ := disable_ok_iff env uid hwf hblank'
      obtain ⟨hwf', htables, hinterfaces⟩ := disable_wellFormed env uid hwf hblank'
      rw [List.forM_cons, exec_bind]
      rcases hexec : (disable env uid routes).exec s with ⟨error | ⟨⟩, s₁⟩
      · rw [hexec] at hok
        refine ⟨⟨nofun, fun h => ?_⟩, nofun⟩
        exact absurd (hok.mpr (h (uid, routes) List.mem_cons_self)) nofun
      · rw [hexec] at hok hremoved hwf' htables hinterfaces
        dsimp only at hok hremoved hwf' htables hinterfaces ⊢
        obtain ⟨hrest, hexact⟩ := ih hwf'
          (fun record hrecord => hblank record (List.mem_cons_of_mem _ hrecord))
        have hknows : ∀ uid route, s₁.db.KnowsRoute uid route ↔ s.db.KnowsRoute uid route := by
          intro uid route
          unfold RoutingDb.KnowsRoute
          rw [htables, hinterfaces]
        constructor
        · rw [hrest, List.forall_mem_cons]
          simp only [hknows]
          exact (and_iff_right (hok.mp rfl)).symm
        · intro hrestOk
          obtain ⟨hrules, hroutes⟩ := hexact hrestOk
          have hremoved := hremoved rfl
          refine ⟨fun family rule => ?_, fun command => ?_⟩
          · rw [hrules, hremoved.rules, List.exists_mem_cons_iff, not_or, and_assoc]
          · rw [hroutes, hremoved.routes, List.exists_mem_cons_iff, not_or, and_assoc]

/-- **The recovery of recorded routes succeeds, and removes exactly what is left of them, exactly if
the kernel has the table and the interface of every recorded route.** -/
theorem recovery_ok_iff {records : BypassRecords} (hwf : s.db.WellFormed)
    (hvalid : ∀ record ∈ records, ∀ route ∈ record.2, route.validated = .ok route) :
    (((recoverRouting env records).exec s).1 = .ok () ∧
        RecoveredExactly records s.db ((recoverRouting env records).exec s).2.db) ↔
      ∀ record ∈ records, ∀ route ∈ record.2, s.db.KnowsRoute record.1 route := by
  obtain ⟨hok, hexact⟩ := recoverRouting_exec env hwf
    fun record hrecord route hroute =>
      PhysicalRoute.not_blank_of_validated (hvalid record hrecord route hroute)
  exact ⟨fun h => hok.mp h.1, fun h => ⟨hok.mpr h, hexact (hok.mpr h)⟩⟩

/-- A default route over a wireless interface. -/
def wlanRoute : PhysicalRoute :=
  { family := .ipv4, gateway := some (.v4 0xc0000201), interface := "wlan0" }

/-- The kernel's database after a start, with nothing of the daemon's in it, and with the given
tables of its own. -/
def startedDb (tables : List (AddressFamily × ℕ)) : RoutingDb :=
  { rules := fun _ => []
    routes := []
    tables := tables
    interfaces := ["wlan0"] }

theorem startedDb_wellFormed (tables : List (AddressFamily × ℕ)) : (startedDb tables).WellFormed :=
  ⟨fun _ => List.nodup_nil, List.nodup_nil, fun _ h => absurd h List.not_mem_nil,
    fun _ h => absurd h List.not_mem_nil⟩

theorem validated_wlanRoute : wlanRoute.validated = .ok wlanRoute := by
  have hparse : PhysicalRoute.parse "ipv4" "192.0.2.1" "wlan0" = .ok wlanRoute := by
    decide +kernel
  exact PhysicalRoute.validated_of_parse hparse

theorem recovery_of_present_table :
    (∀ record ∈ [((1000 : UInt16), [wlanRoute])], ∀ route ∈ record.2,
        (startedDb [(.ipv4, 31000)]).KnowsRoute record.1 route) ∧
      ((recoverRouting iproute2 [(1000, [wlanRoute])]).exec
        ⟨0, startedDb [(.ipv4, 31000)]⟩).1 = .ok () := by
  have hvalid : ∀ record ∈ [((1000 : UInt16), [wlanRoute])], ∀ route ∈ record.2,
      route.validated = .ok route := by
    simp [validated_wlanRoute]
  have hknown : ∀ record ∈ [((1000 : UInt16), [wlanRoute])], ∀ route ∈ record.2,
      (startedDb [(.ipv4, 31000)]).KnowsRoute record.1 route := by
    simp only [List.mem_singleton, forall_eq]
    decide
  exact ⟨hknown, ((recovery_ok_iff (startedDb_wellFormed _) hvalid).mpr hknown).1⟩

/-- After a reboot the table of a user is gone, and the recovery stops there. -/
theorem recovery_stops_after_reboot :
    (startedDb []).WellFormed ∧ wlanRoute.validated = .ok wlanRoute ∧
      ((recoverRouting iproute2 [(1000, [wlanRoute])]).exec ⟨0, startedDb []⟩).1 ≠ .ok () := by
  refine ⟨startedDb_wellFormed _, validated_wlanRoute, fun hok => ?_⟩
  have hblank : ∀ record ∈ [((1000 : UInt16), [wlanRoute])], ∀ route ∈ record.2,
      ' ' ∉ route.interface.toList := by
    simp [PhysicalRoute.not_blank_of_validated validated_wlanRoute]
  have hknown := (recoverRouting_exec iproute2 (startedDb_wellFormed []) hblank).1.mp hok
  have htable := (hknown (1000, [wlanRoute]) (by simp) wlanRoute (by simp)).2
  exact absurd htable List.not_mem_nil

end recovery

end ProtonVpnOmarchy.Splitd.Routing
