import ProtonVpnOmarchy.Splitd.Routing.Install

/-!
# Installing a user's routes

On an error `enable` removes what it added with `disable`, which stops at the first answer it does
not know.

* `disable_leaves` — what the removal leaves of a partly installed list of routes.
* `enable_outcome` — the ways in which `enable` can end.
* `enable_atomic_iff` — `enable` does everything or nothing, except if the first addition for IPv6
  fails while the kernel does not know the IPv6 table or the interface.
-/

namespace ProtonVpnOmarchy.Splitd.Routing

open Lib Lib.Fallible Bpf

/-! ## Everything or nothing -/

section atomic

variable {env : IpEnv} {uid : UInt16} {db : RoutingDb} {routes : List PhysicalRoute}

/-- The database in the middle of `enable`: routes and rules of the user were added. -/
def RoutingDb.during (db : RoutingDb) (uid : UInt16) (touched present : List Route)
    (done : List AddressFamily) : RoutingDb :=
  { db.after touched present with rules := insertRules uid done db.rules }

theorem RoutingDb.during_nil (db : RoutingDb) (uid : UInt16) (touched present : List Route) :
    db.during uid touched present [] = db.after touched present := by
  unfold RoutingDb.during
  rw [insertRules_nil]
  rfl

theorem RoutingDb.WellFormed.during {touched present : List Route} {done : List AddressFamily}
    (h : db.WellFormed) (hnodup : (db.routes ++ present).Nodup) (hsub : present ⊆ touched)
    (hinterface : ∀ command ∈ present, command.interface ∈ db.interfaces)
    (hnone : ∀ family ∈ done, ruleSpec uid family ∉ db.rules family) :
    (db.during uid touched present done).WellFormed := by
  refine ⟨?_, hnodup, ?_, ?_⟩
  · intro family
    change (insertRules uid done db.rules family).Nodup
    unfold insertRules
    split_ifs with hfamily
    · exact (insertRule_perm _ _).nodup_iff.mpr
        (List.nodup_cons.mpr ⟨hnone family hfamily, h.rules_nodup family⟩)
    · exact h.rules_nodup family
  · intro route hroute
    change _ ∈ (db.after touched present).tables
    rw [RoutingDb.mem_after_tables]
    rcases List.mem_append.mp hroute with hroute | hroute
    · exact .inr (h.table_mem route hroute)
    · exact .inl ⟨route, hsub hroute, rfl⟩
  · intro route hroute
    rcases List.mem_append.mp hroute with hroute | hroute
    · exact h.interface_mem route hroute
    · exact hinterface route hroute

/-- The list has what `enable` needs: free tables and priorities for its families. -/
structure RoutingDb.Free (db : RoutingDb) (uid : UInt16) (routes : List PhysicalRoute) : Prop where
  tables : ∀ route ∈ routes, db.TableFree uid route.family
  rules : ∀ family ∈ routeFamilies routes, db.PriorityFree uid family

theorem RoutingDb.Free.ruleSpec_not_mem (h : db.Free uid routes) :
    ∀ family ∈ routeFamilies routes, ruleSpec uid family ∉ db.rules family :=
  fun family hfamily hmem => h.rules family hfamily _ hmem rfl

theorem RoutingDb.Free.not_mem_of_mem (h : db.Free uid routes) {command : Route}
    (hcommand : command ∈ db.routes) : command ∉ deletionOrder uid routes := by
  intro hmem
  obtain ⟨route, hroute, hmem⟩ := mem_deletionOrder.mp hmem
  obtain ⟨hfamily, htable, -⟩ := routeCommands_fields hmem
  exact h.tables route hroute command hcommand ⟨hfamily, htable⟩

/-- `disable` removes all rules that were added, and the routes up to the first one the kernel does
not know. -/
theorem disable_leaves (env : IpEnv) {touched present : List Route} {done : List AddressFamily}
    {n : ℕ} (hfree : db.Free uid routes)
    (hblank : ∀ route ∈ routes, ' ' ∉ route.interface.toList)
    (hwf : (db.during uid touched present done).WellFormed) (hdone : done ⊆ routeFamilies routes) :
    ((disable env uid routes).exec ⟨n, db.during uid touched present done⟩).2.db =
      db.after touched (present.filter fun command => command ∉
        (deletionOrder uid routes).takeWhile fun command =>
          (db.after touched present).Knows command) := by
  obtain ⟨r, count, hexec, -⟩ := disable_exec env (s := ⟨n, db.during uid touched present done⟩)
    hwf hblank
  rw [hexec]
  have hkept : ∀ command ∈ db.routes, command ∉
      (deletionOrder uid routes).takeWhile fun command =>
        (db.during uid touched present done).Knows command :=
    fun command hcommand hmem =>
      hfree.not_mem_of_mem hcommand ((List.takeWhile_sublist _).subset hmem)
  have hroutes := diff_append_of_nodup hwf.routes_nodup hkept
  have hrules := eraseRules_insertRules hdone hfree.ruleSpec_not_mem
  change RoutingDb.mk (eraseRules uid (routeFamilies routes) (insertRules uid done db.rules))
    ((db.routes ++ present).diff _) _ _ = _
  rw [hrules]
  exact congrArg (fun routes => RoutingDb.mk db.rules routes
    (db.after touched present).tables db.interfaces) hroutes

/-- Once every route of the list is known, nothing is left. -/
theorem disable_leaves_nothing (env : IpEnv) {touched present : List Route}
    {done : List AddressFamily} {n : ℕ} (hfree : db.Free uid routes)
    (hblank : ∀ route ∈ routes, ' ' ∉ route.interface.toList)
    (hwf : (db.during uid touched present done).WellFormed) (hdone : done ⊆ routeFamilies routes)
    (hpresent : present ⊆ allCommands uid routes)
    (hknown : ∀ route ∈ routes, (db.after touched present).KnowsRoute uid route) :
    ((disable env uid routes).exec ⟨n, db.during uid touched present done⟩).2.db =
      db.after touched [] := by
  rw [disable_leaves env hfree hblank hwf hdone]
  congr 1
  rw [List.filter_eq_nil_iff]
  intro command hcommand
  have hall : (deletionOrder uid routes).takeWhile (fun command =>
      (db.after touched present).Knows command) = deletionOrder uid routes := by
    rw [List.takeWhile_eq_self_iff]
    intro command hcommand
    obtain ⟨route, hroute, hmem⟩ := mem_deletionOrder.mp hcommand
    simpa using (RoutingDb.knows_iff hmem).mpr (hknown route hroute)
  rw [hall]
  simpa using mem_deletionOrder.mpr (mem_allCommands.mp (hpresent hcommand))

/-- If the last route is not known, everything is left. -/
theorem disable_leaves_everything (env : IpEnv) (before : List PhysicalRoute)
    (last : PhysicalRoute) {touched present : List Route} {n : ℕ} (hfree : db.Free uid (before ++ [last]))
    (hblank : ∀ route ∈ before ++ [last], ' ' ∉ route.interface.toList)
    (hwf : (db.during uid touched present []).WellFormed)
    (hunknown : ¬ (db.after touched present).KnowsRoute uid last) :
    ((disable env uid (before ++ [last])).exec ⟨n, db.during uid touched present []⟩).2.db =
      db.after touched present := by
  rw [disable_leaves env hfree hblank hwf (List.nil_subset _)]
  congr 1
  have hnone : (deletionOrder uid (before ++ [last])).takeWhile (fun command =>
      (db.after touched present).Knows command) = [] := by
    obtain ⟨command, commands, hcons⟩ := List.exists_cons_of_ne_nil
      (List.reverse_ne_nil_iff.mpr (routeCommands_ne_nil uid last))
    have hmem : command ∈ routeCommands uid last := by
      rw [← List.mem_reverse, hcons]
      exact List.mem_cons_self
    have horder : deletionOrder uid (before ++ [last]) =
        command :: (commands ++ deletionOrder uid before) := by
      simp [deletionOrder, hcons]
    rw [horder, List.takeWhile_cons_of_neg]
    simpa using fun h => hunknown ((RoutingDb.knows_iff hmem).mp h)
  rw [hnone]
  simp

/-- The first looks at the families succeed, the first one being the `n`-th command. -/
def AllAvailable (env : IpEnv) (uid : UInt16) (db : RoutingDb) : ℕ → List AddressFamily → Prop
  | _, [] => True
  | n, family :: families =>
    Available env uid family n db ∧ AllAvailable env uid db (n + 2) families

theorem ensureAll_exec (env : IpEnv) (uid : UInt16) (families : List AddressFamily) {n : ℕ}
    (hwf : db.WellFormed) :
    (AllAvailable env uid db n families ∧
        (forM families (ensureFamilyAvailable env uid)).exec ⟨n, db⟩ =
          (.ok (), ⟨n + 2 * families.length, db⟩)) ∨
      (¬ AllAvailable env uid db n families ∧
        ∃ error count, (forM families (ensureFamilyAvailable env uid)).exec ⟨n, db⟩ =
          (.error error, ⟨count, db⟩)) := by
  induction families generalizing n with
  | nil => exact .inl ⟨trivial, rfl⟩
  | cons family families ih =>
      rw [List.forM_cons, exec_bind]
      rcases ensureFamilyAvailable_exec (s := ⟨n, db⟩) env uid family hwf with
        ⟨havailable, hexec⟩ | ⟨hnot, error, count, hexec⟩
      · rw [hexec]
        dsimp only
        rcases ih (n := n + 2) with ⟨hall, hexec'⟩ | ⟨hnot, error, count, hexec'⟩
        · refine .inl ⟨⟨havailable, hall⟩, ?_⟩
          rw [hexec', List.length_cons]
          congr 2
          omega
        · exact .inr ⟨fun h => hnot h.2, error, count, hexec'⟩
      · rw [hexec]
        exact .inr ⟨fun h => hnot h.1, error, count, rfl⟩

theorem AllAvailable.free {families : List AddressFamily} {n : ℕ}
    (h : AllAvailable env uid db n families) :
    ∀ family ∈ families, db.TableFree uid family ∧ db.PriorityFree uid family := by
  induction families generalizing n with
  | nil => simp
  | cons family families ih =>
      exact List.forall_mem_cons.mpr ⟨⟨h.1.routes_free, h.1.rules_free⟩, ih h.2⟩

/-! ### The preferred routes -/

theorem mem_of_mem_preferredRoutes {route : PhysicalRoute} (h : route ∈ preferredRoutes routes) :
    route ∈ routes := by
  obtain ⟨family, -, hmin⟩ := List.mem_filterMap.mp h
  exact (List.mem_filter.mp (List.argmin_mem hmin)).1

theorem family_of_argmin {family : AddressFamily} {route : PhysicalRoute}
    (h : (routes.filter fun route => route.family = family).argmin routeKey = some route) :
    route.family = family := by
  simpa using (List.mem_filter.mp (List.argmin_mem h)).2

/-- At most one route of each family. -/
theorem preferredRoutes_shape (routes : List PhysicalRoute) :
    preferredRoutes routes = [] ∨ (∃ route, preferredRoutes routes = [route]) ∨
      ∃ first second, preferredRoutes routes = [first, second] ∧ first.family = .ipv4 ∧
        second.family = .ipv6 := by
  unfold preferredRoutes
  cases h4 : (routes.filter fun route => route.family = .ipv4).argmin routeKey with
  | none =>
      cases h6 : (routes.filter fun route => route.family = .ipv6).argmin routeKey with
      | none => exact .inl (by simp [h4, h6])
      | some second => exact .inr (.inl ⟨second, by simp [h4, h6]⟩)
  | some first =>
      cases h6 : (routes.filter fun route => route.family = .ipv6).argmin routeKey with
      | none => exact .inr (.inl ⟨first, by simp [h4, h6]⟩)
      | some second =>
          exact .inr (.inr ⟨first, second, by simp [h4, h6], family_of_argmin h4,
            family_of_argmin h6⟩)

theorem preferredRoutes_families_nodup (routes : List PhysicalRoute) :
    ((preferredRoutes routes).map PhysicalRoute.family).Nodup := by
  rcases preferredRoutes_shape routes with h | ⟨route, h⟩ | ⟨first, second, h, h4, h6⟩
  · simp [h]
  · simp [h]
  · simp [h, h4, h6]

theorem nodup_allCommands (uid : UInt16) (preferred : List PhysicalRoute)
    (hnodup : db.routes.Nodup)
    (hfamilies : (preferred.map PhysicalRoute.family).Nodup)
    (hfree : ∀ route ∈ preferred, db.TableFree uid route.family) :
    (db.routes ++ allCommands uid preferred).Nodup := by
  refine nodup_append_of_not_clashes hnodup ?_ ?_
  · refine List.pairwise_flatMap.mpr ⟨fun route _ => routeCommands_pairwise uid route, ?_⟩
    refine List.Pairwise.imp ?_ (List.pairwise_map.mp hfamilies)
    intro first second hne command hcommand command' hcommand' hclash
    rw [← (routeCommands_fields hcommand).1, ← (routeCommands_fields hcommand').1] at hne
    exact hne hclash.1
  · intro other hother command hcommand hclash
    obtain ⟨route, hroute, hmem⟩ := mem_allCommands.mp hcommand
    obtain ⟨hfamily, htable, -⟩ := routeCommands_fields hmem
    exact hfree route hroute other hother ⟨hclash.1.trans hfamily, hclash.2.1.trans htable⟩

/-! ### What `enable` can do -/

/-- Both families have a route; that of IPv4 was installed, the first addition of that of IPv6
fails, and the kernel does not know the IPv6 table or the interface. -/
structure Stranded (env : IpEnv) (uid : UInt16) (routes : List PhysicalRoute) (s : IpState)
    (first second : PhysicalRoute) : Prop where
  both : preferredRoutes routes = [first, second]
  available : AllAvailable env uid s.db s.count [.ipv4, .ipv6]
  installed : Accepts env s.db.interfaces (s.count + 4) (routeCommands uid first)
  refused : ¬ (env.fails (s.count + 4 + (routeCommands uid first).length) = none ∧
    second.interface ∈ s.db.interfaces)
  unknown : ¬ s.db.KnowsRoute uid second

/-- Where the second route is refused, not everything is accepted. -/
theorem Stranded.not_accepts {s : IpState} {first second : PhysicalRoute}
    (h : Stranded env uid routes s first second) :
    ¬ Accepts env s.db.interfaces (s.count + 4) (allCommands uid [first, second]) := by
  intro haccepts
  rw [allCommands_cons, accepts_append, allCommands_cons] at haccepts
  obtain ⟨command, commands, hcons⟩ :=
    List.exists_cons_of_ne_nil (routeCommands_ne_nil uid second)
  rw [hcons, List.cons_append] at haccepts
  refine h.refused ⟨haccepts.2.1.1, ?_⟩
  have hmem : command ∈ routeCommands uid second := by
    rw [hcons]
    exact List.mem_cons_self
  rw [← (routeCommands_fields hmem).2.2]
  exact haccepts.2.1.2

theorem routeFamilies_pair {first second : PhysicalRoute} (h4 : first.family = .ipv4)
    (h6 : second.family = .ipv6) : routeFamilies [first, second] = [.ipv4, .ipv6] := by
  simp [routeFamilies, h4, h6]

/-- A route with an accepted command is known. -/
theorem knowsRoute_of_accepts {route : PhysicalRoute} {touched present commands : List Route}
    {n : ℕ} (haccepts : Accepts env db.interfaces n touched) (hcommands : commands ≠ [])
    (hsub : commands ⊆ touched) (hroute : commands ⊆ routeCommands uid route) :
    (db.after touched present).KnowsRoute uid route := by
  obtain ⟨command, hcommand⟩ := List.exists_mem_of_ne_nil _ hcommands
  rw [← RoutingDb.knows_iff (hroute hcommand)]
  exact ⟨haccepts.interface_mem command (hsub hcommand),
    RoutingDb.mem_after_tables.mpr (.inl ⟨command, hsub hcommand, rfl⟩)⟩

/-- The ways in which `enable` can end. -/
inductive Outcome (env : IpEnv) (uid : UInt16) (routes : List PhysicalRoute) (s : IpState) :
    Except IoError (List PhysicalRoute) × IpState → Prop
  | installed (count : ℕ) (hfree : s.db.Free uid (preferredRoutes routes))
      (hnot : ∀ first second, ¬ Stranded env uid routes s first second) :
    Outcome env uid routes s (.ok (preferredRoutes routes), ⟨count,
      s.db.during uid (allCommands uid (preferredRoutes routes))
        (allCommands uid (preferredRoutes routes)) (routeFamilies (preferredRoutes routes))⟩)
  | restored (error : IoError) (count : ℕ) (touched : List Route)
      (hnot : ∀ first second, ¬ Stranded env uid routes s first second) :
    Outcome env uid routes s (.error error, ⟨count, s.db.after touched []⟩)
  | stranded (error : IoError) (count : ℕ) (first second : PhysicalRoute)
      (h : Stranded env uid routes s first second) :
    Outcome env uid routes s (.error error, ⟨count,
      s.db.after (routeCommands uid first) (routeCommands uid first)⟩)

theorem Stranded.families {s : IpState} {first second : PhysicalRoute}
    (h : Stranded env uid routes s first second) :
    first.family = .ipv4 ∧ second.family = .ipv6 := by
  rcases preferredRoutes_shape routes with hshape | ⟨route, hshape⟩ |
    ⟨first', second', hshape, h4, h6⟩
  · rw [h.both] at hshape
    cases hshape
  · rw [h.both] at hshape
    cases hshape
  · rw [h.both] at hshape
    rw [List.cons_eq_cons, List.cons_eq_cons] at hshape
    rw [hshape.1, hshape.2.1]
    exact ⟨h4, h6⟩

theorem routeCommands_subset_allCommands {route : PhysicalRoute} (h : route ∈ routes) :
    routeCommands uid route ⊆ allCommands uid routes :=
  fun _ hcommand => mem_allCommands.mpr ⟨route, h, hcommand⟩

theorem knowsRoute_after_of_ne {route : PhysicalRoute} {touched present : List Route}
    (h : ∀ command ∈ touched, command.family ≠ route.family) :
    (db.after touched present).KnowsRoute uid route ↔ db.KnowsRoute uid route := by
  unfold RoutingDb.KnowsRoute
  rw [RoutingDb.mem_after_tables, RoutingDb.after_interfaces]
  refine and_congr_right fun _ => ⟨fun hmem => ?_, .inr⟩
  rcases hmem with ⟨command, hcommand, htable⟩ | htable
  · exact absurd (Prod.mk.inj htable).1 (h command hcommand)
  · exact htable

/-- The first route of the list fails: nothing is there to be removed. -/
theorem install_outcome_first {s : IpState} {route : PhysicalRoute} {later : List PhysicalRoute}
    {done rest : List Route} {command : Route} {n count : ℕ} (error : IoError)
    (hpreferred : preferredRoutes routes = route :: later) (hwf : s.db.WellFormed)
    (hblank : ∀ other ∈ route :: later, ' ' ∉ other.interface.toList)
    (hfree : s.db.Free uid (route :: later))
    (hn : n = s.count + 2 * (routeFamilies (route :: later)).length)
    (hcommands : routeCommands uid route = done ++ command :: rest)
    (hrefused : ¬ (env.fails (n + done.length) = none ∧
      command.interface ∈ s.db.interfaces)) :
    Outcome env uid routes s (.error error,
      ((disable env uid (route :: later)).exec ⟨count, s.db.after done []⟩).2) := by
  have hwf' : (s.db.during uid done [] []).WellFormed := by
    refine hwf.during (by rw [List.append_nil]; exact hwf.routes_nodup) (List.nil_subset _)
      (fun _ h => absurd h List.not_mem_nil) (fun _ h => absurd h List.not_mem_nil)
  have hleaves := disable_leaves env (n := count) hfree hblank hwf' (List.nil_subset _)
  rw [RoutingDb.during_nil] at hleaves
  rcases hexec : (disable env uid (route :: later)).exec ⟨count, s.db.after done []⟩ with ⟨r, s'⟩
  rw [hexec] at hleaves
  obtain ⟨count', db'⟩ := s'
  obtain rfl : db' = s.db.after done [] := hleaves
  refine .restored error count' done ?_
  intro first second h
  have hboth := hpreferred.symm.trans h.both
  obtain ⟨rfl, rfl⟩ := List.cons_eq_cons.mp hboth
  rw [routeFamilies_pair h.families.1 h.families.2] at hn
  subst hn
  have haccepts := h.installed
  rw [hcommands, accepts_append] at haccepts
  exact hrefused haccepts.2.1

/-- The second route fails after the first one was installed. -/
theorem install_outcome_second {s : IpState} {first second : PhysicalRoute}
    {done rest : List Route} {command : Route} {count : ℕ} (error : IoError)
    (hpreferred : preferredRoutes routes = [first, second]) (h4 : first.family = .ipv4)
    (h6 : second.family = .ipv6) (hwf : s.db.WellFormed)
    (hblank : ∀ route ∈ [first, second], ' ' ∉ route.interface.toList)
    (havailable : AllAvailable env uid s.db s.count [.ipv4, .ipv6])
    (hfree : s.db.Free uid [first, second])
    (hcommands : routeCommands uid second = done ++ command :: rest)
    (haccepts : Accepts env s.db.interfaces (s.count + 4) (routeCommands uid first ++ done))
    (hrefused : ¬ (env.fails (s.count + 4 + (routeCommands uid first ++ done).length) = none ∧
      command.interface ∈ s.db.interfaces)) :
    Outcome env uid routes s (.error error, ((disable env uid [first, second]).exec
      ⟨count, s.db.after (routeCommands uid first ++ done) (routeCommands uid first)⟩).2) := by
  have hinstalled := (accepts_append.mp haccepts).1
  have hwf' : (s.db.during uid (routeCommands uid first ++ done)
      (routeCommands uid first) []).WellFormed := by
    refine hwf.during ?_ (List.subset_append_left _ _) hinstalled.interface_mem
      (fun _ h => absurd h List.not_mem_nil)
    have hnodup := nodup_allCommands uid [first] hwf.routes_nodup
      (List.nodup_singleton _) (by simpa using hfree.tables first (by simp))
    simpa [allCommands] using hnodup
  have hipv6 : ∀ command ∈ routeCommands uid first, command.family ≠ second.family := by
    intro command hcommand
    rw [(routeCommands_fields hcommand).1, h4, h6]
    decide
  have hfirst : (s.db.after (routeCommands uid first ++ done)
      (routeCommands uid first)).KnowsRoute uid first :=
    knowsRoute_of_accepts haccepts (routeCommands_ne_nil uid first)
      (List.subset_append_left _ _) (List.Subset.refl _)
  rcases hexec : (disable env uid [first, second]).exec
    ⟨count, s.db.after (routeCommands uid first ++ done) (routeCommands uid first)⟩ with ⟨r, s'⟩
  obtain ⟨count', db'⟩ := s'
  by_cases hknown : (s.db.after (routeCommands uid first ++ done)
      (routeCommands uid first)).KnowsRoute uid second
  · have hleaves := disable_leaves_nothing env (n := count) hfree hblank hwf' (List.nil_subset _)
      (routeCommands_subset_allCommands (by simp)) (by simp [hfirst, hknown])
    rw [RoutingDb.during_nil, hexec] at hleaves
    obtain rfl : db' = _ := hleaves
    refine .restored error count' _ ?_
    intro first' second' h
    have hboth := hpreferred.symm.trans h.both
    rw [List.cons_eq_cons, List.cons_eq_cons] at hboth
    obtain ⟨rfl, rfl, -⟩ := hboth
    rcases done with _ | ⟨command', done⟩
    · rw [List.append_nil, knowsRoute_after_of_ne hipv6] at hknown
      exact h.unknown hknown
    · have hhead := (accepts_append.mp haccepts).2.1
      have hmem : command' ∈ routeCommands uid second := by
        rw [hcommands]
        exact List.mem_cons_self
      rw [(routeCommands_fields hmem).2.2] at hhead
      exact h.refused hhead
  · obtain rfl : done = [] := by
      by_contra hdone
      exact hknown (knowsRoute_of_accepts haccepts hdone (List.subset_append_right _ _)
        (by rw [hcommands]; exact List.subset_append_left _ _))
    rw [List.append_nil] at hknown hwf' hrefused hexec
    have hleaves := disable_leaves_everything env [first] second (n := count) hfree hblank hwf' hknown
    rw [RoutingDb.during_nil, List.singleton_append, hexec] at hleaves
    obtain rfl : db' = _ := hleaves
    have hmem : command ∈ routeCommands uid second := by
      rw [hcommands]
      exact List.mem_cons_self
    rw [(routeCommands_fields hmem).2.2] at hrefused
    exact .stranded error count' first second ⟨hpreferred, havailable, hinstalled, hrefused,
      fun h => hknown ((knowsRoute_after_of_ne hipv6).mpr h)⟩

/-- The installation of the routes, and the removal if it fails. -/
theorem install_outcome {s : IpState} {preferred : List PhysicalRoute}
    (hpreferred : preferredRoutes routes = preferred) (hwf : s.db.WellFormed)
    (hblank : ∀ route ∈ preferred, ' ' ∉ route.interface.toList)
    (havailable : AllAvailable env uid s.db s.count (routeFamilies preferred))
    (hfree : s.db.Free uid preferred) :
    (Accepts env s.db.interfaces (s.count + 2 * (routeFamilies preferred).length)
        (allCommands uid preferred) ∧
      ∃ count, (onError (forM preferred (installRoute env uid)) (disable env uid preferred)).exec
          ⟨s.count + 2 * (routeFamilies preferred).length, s.db⟩ =
        (.ok (), ⟨count, s.db.after (allCommands uid preferred) (allCommands uid preferred)⟩)) ∨
    ∃ error s', (onError (forM preferred (installRoute env uid))
        (disable env uid preferred)).exec
          ⟨s.count + 2 * (routeFamilies preferred).length, s.db⟩ = (.error error, s') ∧
      Outcome env uid routes s (.error error, s') := by
  have hfamilies : (preferred.map PhysicalRoute.family).Nodup := by
    rw [← hpreferred]
    exact preferredRoutes_families_nodup routes
  rw [exec_onError]
  rcases installRoutes_exec env (s.count + 2 * (routeFamilies preferred).length)
      hwf.routes_nodup hfamilies hfree.tables with ⟨haccepts, hexec⟩ |
    ⟨before, route, later, done, command, rest, error, count, hsplit, hcommands, haccepts,
      hrefused, hexec⟩
  · rw [hexec]
    exact .inl ⟨haccepts, _, rfl⟩
  · rw [hexec]
    refine .inr ⟨error, _, rfl, ?_⟩
    clear hexec
    rcases before with _ | ⟨first, before⟩
    · subst hsplit
      exact install_outcome_first error hpreferred hwf hblank hfree rfl hcommands hrefused
    · rcases preferredRoutes_shape routes with hshape | ⟨only, hshape⟩ |
        ⟨first', second, hshape, h4, h6⟩
      · rw [← hpreferred, hshape] at hsplit
        cases hsplit
      · rw [← hpreferred, hshape] at hsplit
        simp at hsplit
      · obtain rfl : preferred = [first', second] := hpreferred.symm.trans hshape
        obtain ⟨rfl, rfl, rfl, rfl⟩ : first' = first ∧ before = [] ∧ second = route ∧
            later = [] := by
          rcases before with _ | ⟨other, before⟩
          · simpa using hsplit
          · simp at hsplit
        rw [routeFamilies_pair h4 h6] at havailable haccepts hrefused
        have hsingle : allCommands uid [first'] = routeCommands uid first' := by
          simp [allCommands]
        rw [hsingle] at haccepts hrefused ⊢
        exact install_outcome_second error hpreferred h4 h6 hwf hblank havailable hfree
          hcommands haccepts hrefused

/-- Whatever fails after the routes were installed, everything is removed. -/
theorem removal_outcome {s : IpState} {preferred : List PhysicalRoute} {done : List AddressFamily}
    {count : ℕ} (error : IoError) (hpreferred : preferredRoutes routes = preferred)
    (hwf : s.db.WellFormed) (hblank : ∀ route ∈ preferred, ' ' ∉ route.interface.toList)
    (hfree : s.db.Free uid preferred) (hdone : done ⊆ routeFamilies preferred)
    (haccepts : Accepts env s.db.interfaces (s.count + 2 * (routeFamilies preferred).length)
      (allCommands uid preferred))
    (hnot : ∀ first second, ¬ Stranded env uid routes s first second) :
    Outcome env uid routes s (.error error, ((disable env uid preferred).exec ⟨count,
      s.db.during uid (allCommands uid preferred) (allCommands uid preferred) done⟩).2) := by
  have hwf' : (s.db.during uid (allCommands uid preferred) (allCommands uid preferred)
      done).WellFormed := by
    refine hwf.during ?_ (List.Subset.refl _) haccepts.interface_mem
      (fun family hfamily => hfree.ruleSpec_not_mem family (hdone hfamily))
    refine nodup_allCommands uid preferred hwf.routes_nodup ?_ hfree.tables
    rw [← hpreferred]
    exact preferredRoutes_families_nodup routes
  have hleaves := disable_leaves_nothing env (n := count) hfree hblank hwf' hdone
    (List.Subset.refl _) fun route hroute => knowsRoute_of_accepts haccepts
      (routeCommands_ne_nil uid route) (routeCommands_subset_allCommands hroute)
      (List.Subset.refl _)
  rcases hexec : (disable env uid preferred).exec ⟨count,
    s.db.during uid (allCommands uid preferred) (allCommands uid preferred) done⟩ with ⟨r, s'⟩
  obtain ⟨count', db'⟩ := s'
  rw [hexec] at hleaves
  obtain rfl : db' = _ := hleaves
  exact .restored error count' _ hnot

/-- Nothing was changed before the first look was over. -/
theorem Outcome.unchanged {s : IpState} (error : IoError) (count : ℕ)
    (hnot : ∀ first second, ¬ Stranded env uid routes s first second) :
    Outcome env uid routes s (.error error, ⟨count, s.db⟩) := by
  have hrestored := Outcome.restored error count [] hnot
  rwa [RoutingDb.after_nil] at hrestored

theorem RoutingDb.free_of_allAvailable {preferred : List PhysicalRoute} {n : ℕ}
    (h : AllAvailable env uid db n (routeFamilies preferred)) : db.Free uid preferred where
  tables := fun route hroute => (h.free _ (mem_routeFamilies.mpr ⟨route, hroute, rfl⟩)).1
  rules := fun family hfamily => (h.free family hfamily).2

/-- What one call of `enable` can do. -/
theorem enable_outcome (env : IpEnv) (uid : UInt16) {s : IpState} (hwf : s.db.WellFormed)
    (hblank : ∀ route ∈ routes, ' ' ∉ route.interface.toList) :
    Outcome env uid routes s ((enable env uid routes).exec s) := by
  unfold enable
  dsimp only
  generalize hpreferred : preferredRoutes routes = preferred
  have hblank' : ∀ route ∈ preferred, ' ' ∉ route.interface.toList := by
    intro route hroute
    rw [← hpreferred] at hroute
    exact hblank route (mem_of_mem_preferredRoutes hroute)
  by_cases hempty : preferred = []
  · rw [if_pos hempty]
    refine .unchanged _ s.count ?_
    intro first second h
    rw [← hpreferred, h.both] at hempty
    cases hempty
  rw [if_neg hempty, exec_bind]
  rcases ensureAll_exec env uid (routeFamilies preferred) (n := s.count) hwf with
    ⟨havailable, hexec⟩ | ⟨hnot, error, count, hexec⟩
  swap
  · rw [hexec]
    refine .unchanged error count ?_
    intro first second h
    rw [← hpreferred, h.both, routeFamilies_pair h.families.1 h.families.2] at hnot
    exact hnot h.available
  have hfree := RoutingDb.free_of_allAvailable havailable
  rw [hexec]
  dsimp only
  rw [exec_bind]
  rcases install_outcome hpreferred hwf hblank' havailable hfree with
    ⟨haccepts, count, hexec⟩ | ⟨error, s', hexec, houtcome⟩
  swap
  · rw [hexec]
    exact houtcome
  have hnot : ∀ first second, ¬ Stranded env uid routes s first second := by
    intro first second h
    rw [← hpreferred, h.both, routeFamilies_pair h.families.1 h.families.2] at haccepts
    exact h.not_accepts haccepts
  rw [hexec]
  dsimp only
  rw [exec_bind, exec_onError]
  obtain ⟨r, count, done, hexec, hdone, hall⟩ := ruleAdds_exec env (routeFamilies_nodup preferred)
    ⟨count, s.db.after (allCommands uid preferred) (allCommands uid preferred)⟩
    hfree.ruleSpec_not_mem
  change _ = (r, IpState.mk count (s.db.during uid (allCommands uid preferred)
    (allCommands uid preferred) done)) at hexec
  rw [hexec]
  rcases r with error | ⟨⟩
  · exact removal_outcome error hpreferred hwf hblank' hfree hdone haccepts hnot
  obtain rfl := hall rfl
  dsimp only
  rw [exec_bind, exec_onError]
  have hread := ReadOnly.forM (readOnly_verifyFamilyOwnership env uid preferred)
    (routeFamilies preferred) ⟨count, s.db.during uid (allCommands uid preferred)
      (allCommands uid preferred) (routeFamilies preferred)⟩
  rcases hexec : (forM (routeFamilies preferred) fun family =>
    verifyFamilyOwnership env uid family preferred).exec ⟨count, s.db.during uid
      (allCommands uid preferred) (allCommands uid preferred) (routeFamilies preferred)⟩ with
    ⟨error | ⟨⟩, ⟨count, db'⟩⟩
  · rw [hexec] at hread
    obtain rfl : db' = _ := hread
    exact removal_outcome error hpreferred hwf hblank' hfree hdone haccepts hnot
  · rw [hexec] at hread
    obtain rfl : db' = _ := hread
    subst hpreferred
    exact .installed count hfree hnot

/-- The routes of a family in the user's table. -/
def RoutingDb.userRoutes (db : RoutingDb) (uid : UInt16) (family : AddressFamily) : List Route :=
  db.routes.filter fun route => route.family = family ∧ route.table = userTable uid

/-- The rules of a family at the user's priority. -/
def RoutingDb.userRules (db : RoutingDb) (uid : UInt16) (family : AddressFamily) : List Rule :=
  (db.rules family).filter fun rule => rule.priority = rulePriority uid

/-- The user's tables and rules are those of the installed routes. -/
structure Enabled (uid : UInt16) (installed : List PhysicalRoute) (db db' : RoutingDb) : Prop where
  routes : ∀ family ∈ routeFamilies installed, db'.userRoutes uid family =
    allCommands uid (installed.filter fun route => route.family = family)
  rules : ∀ family ∈ routeFamilies installed, db'.userRules uid family = [ruleSpec uid family]
  other : ∀ family ∉ routeFamilies installed, db'.userRoutes uid family = db.userRoutes uid family ∧
    db'.userRules uid family = db.userRules uid family

/-- What is not of the user is as before. -/
structure OthersUntouched (uid : UInt16) (db db' : RoutingDb) : Prop where
  routes : db'.routes.filter (fun route => route.table ≠ userTable uid) =
    db.routes.filter fun route => route.table ≠ userTable uid
  rules : ∀ family, (db'.rules family).filter (fun rule => rule ≠ ruleSpec uid family) =
    (db.rules family).filter fun rule => rule ≠ ruleSpec uid family

/-- Everything or nothing. -/
def EnableAtomic (uid : UInt16) (routes : List PhysicalRoute) (db : RoutingDb)
    (result : Except IoError (List PhysicalRoute)) (db' : RoutingDb) : Prop :=
  OthersUntouched uid db db' ∧
    match result with
    | .ok installed => installed = preferredRoutes routes ∧ Enabled uid installed db db'
    | .error _ => db'.routes = db.routes ∧ db'.rules = db.rules

theorem filter_allCommands (uid : UInt16) (family : AddressFamily) (routes : List PhysicalRoute) :
    (allCommands uid routes).filter (fun route =>
        route.family = family ∧ route.table = userTable uid) =
      allCommands uid (routes.filter fun route => route.family = family) := by
  induction routes with
  | nil => rfl
  | cons route routes ih =>
      rw [allCommands_cons, List.filter_append, ih]
      by_cases hfamily : route.family = family
      · rw [List.filter_cons_of_pos (by simpa using hfamily), allCommands_cons]
        congr 1
        refine List.filter_eq_self.mpr fun command hcommand => ?_
        obtain ⟨h, htable, -⟩ := routeCommands_fields hcommand
        simp [h, htable, hfamily]
      · rw [List.filter_cons_of_neg (by simpa using hfamily)]
        have hnone : (routeCommands uid route).filter (fun route =>
            decide (route.family = family ∧ route.table = userTable uid)) = [] := by
          refine List.filter_eq_nil_iff.mpr fun command hcommand => ?_
          simp [(routeCommands_fields hcommand).1, hfamily]
        rw [hnone, List.nil_append]

theorem enabled_during (hfree : db.Free uid routes) :
    Enabled uid routes db (db.during uid (allCommands uid routes) (allCommands uid routes)
      (routeFamilies routes)) := by
  have hroutes : ∀ family, (db.during uid (allCommands uid routes) (allCommands uid routes)
      (routeFamilies routes)).userRoutes uid family = db.userRoutes uid family ++
        allCommands uid (routes.filter fun route => route.family = family) := by
    intro family
    rw [← filter_allCommands]
    exact List.filter_append _ _
  have hrules : ∀ family, (db.during uid (allCommands uid routes) (allCommands uid routes)
      (routeFamilies routes)).rules family = if family ∈ routeFamilies routes then
        insertRule (ruleSpec uid family) (db.rules family) else db.rules family := fun _ => rfl
  refine ⟨?_, ?_, ?_⟩
  · intro family hfamily
    obtain ⟨route, hroute, rfl⟩ := mem_routeFamilies.mp hfamily
    have hnone : db.userRoutes uid route.family = [] := by
      refine List.filter_eq_nil_iff.mpr fun other hother => ?_
      simpa using hfree.tables route hroute other hother
    rw [hroutes, hnone, List.nil_append]
  · intro family hfamily
    unfold RoutingDb.userRules
    rw [hrules, if_pos hfamily]
    refine filter_insertRule_of_pos (by simp [ruleSpec]) ?_
    refine List.filter_eq_nil_iff.mpr fun rule hrule => ?_
    simpa using hfree.rules family hfamily rule hrule
  · intro family hfamily
    constructor
    · have hnone : routes.filter (fun route => decide (route.family = family)) = [] := by
        refine List.filter_eq_nil_iff.mpr fun route hroute => ?_
        simpa using fun heq => hfamily (mem_routeFamilies.mpr ⟨route, hroute, heq⟩)
      rw [hroutes, hnone]
      exact List.append_nil _
    · unfold RoutingDb.userRules
      rw [hrules, if_neg hfamily]

theorem othersUntouched_during {touched present : List Route} {done : List AddressFamily}
    (hpresent : ∀ command ∈ present, command.table = userTable uid) :
    OthersUntouched uid db (db.during uid touched present done) := by
  constructor
  · change (db.routes ++ present).filter _ = _
    have hnone : present.filter (fun route => decide (route.table ≠ userTable uid)) = [] :=
      List.filter_eq_nil_iff.mpr fun command hcommand => by simp [hpresent command hcommand]
    rw [List.filter_append, hnone, List.append_nil]
  · intro family
    change (insertRules uid done db.rules family).filter _ = _
    unfold insertRules
    split_ifs
    · exact filter_insertRule_of_neg (by simp) _
    · rfl

theorem Outcome.atomic_iff {s : IpState} {outcome : Except IoError (List PhysicalRoute) × IpState}
    (h : Outcome env uid routes s outcome) :
    EnableAtomic uid routes s.db outcome.1 outcome.2.db ↔
      ∀ first second, ¬ Stranded env uid routes s first second := by
  rcases h with ⟨count, hfree, hnot⟩ | ⟨error, count, touched, hnot⟩ |
    ⟨error, count, first, second, hstranded⟩
  · refine iff_of_true ⟨othersUntouched_during ?_, rfl, enabled_during hfree⟩ hnot
    intro command hcommand
    obtain ⟨route, -, hmem⟩ := mem_allCommands.mp hcommand
    exact (routeCommands_fields hmem).2.1
  · refine iff_of_true ⟨?_, List.append_nil _, rfl⟩ hnot
    rw [← RoutingDb.during_nil s.db uid]
    exact othersUntouched_during fun _ h => absurd h List.not_mem_nil
  · refine iff_of_false (fun h => ?_) fun h => h first second hstranded
    have hroutes : s.db.routes ++ routeCommands uid first = s.db.routes := h.2.1
    exact routeCommands_ne_nil uid first (List.append_right_eq_self.mp hroutes)

/-- **`enable` installs everything or leaves everything as it was, exactly if it is not that the
first addition for IPv6 fails where the kernel has no IPv6 table or no interface to answer for.** -/
theorem enable_atomic_iff (env : IpEnv) (uid : UInt16) (routes : List PhysicalRoute) (s : IpState)
    (hwf : s.db.WellFormed) (hvalid : ∀ route ∈ routes, route.validated = .ok route) :
    EnableAtomic uid routes s.db ((enable env uid routes).exec s).1
        ((enable env uid routes).exec s).2.db ↔
      ∀ first second, ¬ Stranded env uid routes s first second :=
  (enable_outcome env uid hwf fun route hroute =>
    PhysicalRoute.not_blank_of_validated (hvalid route hroute)).atomic_iff

/-! ### A stranded route -/

/-- Default routes of both families over one interface. -/
def dualRoutes : List PhysicalRoute :=
  [wlanRoute, { family := .ipv6, gateway := none, interface := "wlan0" }]

theorem validated_dualRoutes : ∀ route ∈ dualRoutes, route.validated = .ok route := by
  have hparse : PhysicalRoute.parse "ipv6" "" "wlan0" =
      .ok { family := .ipv6, gateway := none, interface := "wlan0" } := by
    decide +kernel
  intro route hroute
  rcases List.mem_pair.mp hroute with rfl | rfl
  · exact validated_wlanRoute
  · exact PhysicalRoute.validated_of_parse hparse

theorem preferredRoutes_dualRoutes : preferredRoutes dualRoutes = dualRoutes := by
  decide +kernel

theorem enable_atomic_dualRoutes :
    (∀ first second, ¬ Stranded iproute2 1000 dualRoutes ⟨0, startedDb []⟩ first second) ∧
      EnableAtomic 1000 dualRoutes (startedDb [])
        ((enable iproute2 1000 dualRoutes).exec ⟨0, startedDb []⟩).1
        ((enable iproute2 1000 dualRoutes).exec ⟨0, startedDb []⟩).2.db := by
  have hnot : ∀ first second,
      ¬ Stranded iproute2 1000 dualRoutes ⟨0, startedDb []⟩ first second := by
    intro first second h
    have hboth := h.both
    rw [preferredRoutes_dualRoutes, dualRoutes, List.cons_eq_cons, List.cons_eq_cons] at hboth
    obtain ⟨-, rfl, -⟩ := hboth
    exact h.refused ⟨rfl, List.mem_cons_self⟩
  exact ⟨hnot, (enable_atomic_iff iproute2 1000 dualRoutes ⟨0, startedDb []⟩
    (startedDb_wellFormed _) validated_dualRoutes).mpr hnot⟩

/-- The `n`-th command is refused. -/
def refusing (n : ℕ) : IpEnv :=
  { iproute2 with
    fails := fun m => if m = n then some (ipError "RTNETLINK answers: Permission denied") else none
    fails_text := fun m error h => by
      split_ifs at h
      rw [← Option.some.inj h]
      decide +kernel }

/-- If the addition of the IPv6 route is refused, the IPv4 routes of the user stay. -/
theorem enable_strands_ipv4 :
    ¬ EnableAtomic 1000 dualRoutes (startedDb [])
      ((enable (refusing 6) 1000 dualRoutes).exec ⟨0, startedDb []⟩).1
      ((enable (refusing 6) 1000 dualRoutes).exec ⟨0, startedDb []⟩).2.db := by
  have houtcome : Outcome (refusing 6) 1000 dualRoutes ⟨0, startedDb []⟩ _ :=
    enable_outcome (refusing 6) 1000 (startedDb_wellFormed [])
      fun route hroute => PhysicalRoute.not_blank_of_validated (validated_dualRoutes route hroute)
  rw [houtcome.atomic_iff]
  intro hnot
  refine hnot wlanRoute { family := .ipv6, gateway := none, interface := "wlan0" }
    ⟨preferredRoutes_dualRoutes, ⟨?_, ?_, trivial⟩, ?_, ?_, ?_⟩
  · exact ⟨⟨rfl, nofun⟩, fun _ h => absurd h List.not_mem_nil, ⟨rfl, rfl⟩,
      fun _ h => absurd h List.not_mem_nil⟩
  · exact ⟨⟨rfl, nofun⟩, fun _ h => absurd h List.not_mem_nil, ⟨rfl, rfl⟩,
      fun _ h => absurd h List.not_mem_nil⟩
  · exact ⟨⟨rfl, List.mem_cons_self⟩, ⟨rfl, List.mem_cons_self⟩, trivial⟩
  · rintro ⟨hfails, -⟩
    cases hfails
  · rintro ⟨-, htable⟩
    exact absurd htable List.not_mem_nil

end atomic

end ProtonVpnOmarchy.Splitd.Routing
