import ProtonVpnOmarchy.Splitd.Routing.Enable

/-!
# The place of the bypass among the kernel's rules

The kernel asks its rules in the order of their priorities and looks the destination up in the table
of each rule that matches the packet. `rule_spec` puts the rule of a user at `12000 + uid`.

* `bypass_precedence_iff` — the bypass comes before the main table exactly for user ids below 20766.
* `bypass_after_main` — a user whose bypass comes too late.
-/

namespace ProtonVpnOmarchy.Splitd.Routing

open Lib Lib.Fallible Bpf

/-- What a rule can select a packet by. -/
structure Packet where
  family : AddressFamily
  mark : BitVec 32
  uid : ℕ

def Rule.selects (rule : Rule) (packet : Packet) : Bool :=
  (rule.fwmark.all fun (value, mask) => packet.mark &&& mask = value) &&
    rule.uidRange.all fun (first, last) => first ≤ packet.uid && packet.uid ≤ last

/-- The tables in which the kernel looks a packet up, in this order. -/
def RoutingDb.consulted (db : RoutingDb) (packet : Packet) : List ℕ :=
  ((db.rules packet.family).filter fun rule => rule.selects packet).map Rule.table

def LOCAL_TABLE : ℕ := 255
def MAIN_TABLE : ℕ := 254
def DEFAULT_TABLE : ℕ := 253

/-- A rule without selectors. -/
def plainRule (family : AddressFamily) (priority table : ℕ) : Rule :=
  { family := family, priority := priority, fwmark := none, uidRange := none, table := table }

/-- The rules with which the kernel starts. -/
def kernelRules (family : AddressFamily) : List Rule :=
  [plainRule family 0 LOCAL_TABLE, plainRule family 32766 MAIN_TABLE,
    plainRule family 32767 DEFAULT_TABLE]

/-- The kernel looks the packet up in the table before it looks it up in the main table. -/
def BeforeMain (table : ℕ) (consulted : List ℕ) : Prop :=
  ∃ before later, consulted = before ++ table :: later ∧ MAIN_TABLE ∉ before

/-- The bypass of a user over the routes of the families: its own packets go through it first, others
do not see it, and it shares neither its table nor its priority. -/
structure BypassPrecedence (uid : UInt16) (families : List AddressFamily) (db db' : RoutingDb) :
    Prop where
  own : ∀ packet : Packet, packet.family ∈ families → packet.mark = FWMARK_VALUE →
    packet.uid = uid.toNat → BeforeMain (userTable uid) (db'.consulted packet)
  others : ∀ packet : Packet, packet.mark ≠ FWMARK_VALUE ∨ packet.uid ≠ uid.toNat →
    db'.consulted packet = db.consulted packet
  distinct : ∀ uid' : UInt16, uid' ≠ uid →
    userTable uid' ≠ userTable uid ∧ rulePriority uid' ≠ rulePriority uid

section precedence

variable {env : IpEnv} {uid : UInt16} {routes installed : List PhysicalRoute} {s s' : IpState}

/-- A bypass rule selects the marked packets of its user. -/
theorem ruleSpec_selects {family : AddressFamily} {packet : Packet} :
    (ruleSpec uid family).selects packet = true ↔
      packet.mark = FWMARK_VALUE ∧ packet.uid = uid.toNat := by
  have hmask : packet.mark &&& 0xffffffff = packet.mark := BitVec.and_allOnes
  unfold Rule.selects ruleSpec
  simp only [Option.all_some, hmask, Bool.and_eq_true, decide_eq_true_eq]
  constructor
  · rintro ⟨hmark, hfirst, hlast⟩
    exact ⟨hmark, le_antisymm hlast hfirst⟩
  · rintro ⟨hmark, huid⟩
    exact ⟨hmark, huid.ge, huid.le⟩

theorem plainRule_selects (family : AddressFamily) (priority table : ℕ) (packet : Packet) :
    (plainRule family priority table).selects packet = true := rfl

/-- Packets that the rule does not select do not see it. -/
theorem consulted_insertRules {db : RoutingDb} {families : List AddressFamily} {packet : Packet}
    {touched present : List Route} (h : packet.mark ≠ FWMARK_VALUE ∨ packet.uid ≠ uid.toNat) :
    (db.during uid touched present families).consulted packet = db.consulted packet := by
  have hnot : (ruleSpec uid packet.family).selects packet = false := by
    rw [Bool.eq_false_iff, ne_eq, ruleSpec_selects, not_and_or]
    exact h
  unfold RoutingDb.consulted
  congr 1
  change (insertRules uid families db.rules packet.family).filter _ = _
  unfold insertRules
  split_ifs
  · exact filter_insertRule_of_neg hnot _
  · rfl

theorem not_beforeMain (uid : UInt16) :
    ¬ BeforeMain (userTable uid) [LOCAL_TABLE, MAIN_TABLE, DEFAULT_TABLE, userTable uid] := by
  have hlarge : DEFAULT_TABLE + 2 < userTable uid := by
    unfold DEFAULT_TABLE userTable ROUTE_TABLE_BASE
    omega
  rintro ⟨before, later, h, hmain⟩
  -- The user's table is neither the first nor the second one, so the main table is before it.
  rcases before with _ | ⟨first, _ | ⟨second, before⟩⟩
  · rw [List.nil_append, List.cons_eq_cons] at h
    have hlocal : LOCAL_TABLE = userTable uid := h.1
    exact absurd hlarge (by rw [← hlocal]; decide)
  · rw [List.cons_append, List.nil_append, List.cons_eq_cons, List.cons_eq_cons] at h
    have hmain : MAIN_TABLE = userTable uid := h.2.1
    exact absurd hlarge (by rw [← hmain]; decide)
  · rw [List.cons_append, List.cons_append, List.cons_eq_cons, List.cons_eq_cons] at h
    exact hmain (by rw [h.2.1]; simp)

/-- Where the bypass rule goes among the kernel's. -/
theorem insertRule_kernelRules {family : AddressFamily}
    (hfree : ∀ rule ∈ kernelRules family, rule.priority ≠ rulePriority uid) :
    (uid.toNat < 20766 ∧ insertRule (ruleSpec uid family) (kernelRules family) =
        [plainRule family 0 LOCAL_TABLE, ruleSpec uid family, plainRule family 32766 MAIN_TABLE,
          plainRule family 32767 DEFAULT_TABLE]) ∨
      (¬ uid.toNat < 20766 ∧ insertRule (ruleSpec uid family) (kernelRules family) =
        kernelRules family ++ [ruleSpec uid family]) := by
  have hmain : 32766 ≠ rulePriority uid := hfree (plainRule family 32766 MAIN_TABLE) (by
    simp [kernelRules])
  have hdefault : 32767 ≠ rulePriority uid := hfree (plainRule family 32767 DEFAULT_TABLE) (by
    simp [kernelRules])
  have hlocal : ¬ (ruleSpec uid family).priority < (plainRule family 0 LOCAL_TABLE).priority :=
    Nat.not_lt_zero _
  unfold kernelRules
  rw [insertRule, if_neg hlocal]
  by_cases huid : uid.toNat < 20766
  · have hlt : (ruleSpec uid family).priority <
        (plainRule family 32766 MAIN_TABLE).priority := by
      change 12000 + uid.toNat < 32766
      omega
    rw [insertRule, if_pos hlt]
    exact .inl ⟨huid, rfl⟩
  · have hge : ¬ (ruleSpec uid family).priority <
        (plainRule family 32766 MAIN_TABLE).priority := by
      change ¬ 12000 + uid.toNat < 32766
      omega
    have hge' : ¬ (ruleSpec uid family).priority <
        (plainRule family 32767 DEFAULT_TABLE).priority := by
      change 32766 ≠ 12000 + uid.toNat at hmain
      change ¬ 12000 + uid.toNat < 32767
      omega
    rw [insertRule, if_neg hge, insertRule, if_neg hge', insertRule]
    exact .inr ⟨huid, rfl⟩

/-- The tables of a marked packet of the user. -/
theorem consulted_own {db : RoutingDb} {families : List AddressFamily} (packet : Packet)
    {touched present : List Route} (hkernel : db.rules = kernelRules)
    (hfree : ∀ family ∈ families, db.PriorityFree uid family) (hfamily : packet.family ∈ families)
    (hmark : packet.mark = FWMARK_VALUE) (huid : packet.uid = uid.toNat) :
    (uid.toNat < 20766 ∧ (db.during uid touched present families).consulted packet =
        [LOCAL_TABLE, userTable uid, MAIN_TABLE, DEFAULT_TABLE]) ∨
      (¬ uid.toNat < 20766 ∧ (db.during uid touched present families).consulted packet =
        [LOCAL_TABLE, MAIN_TABLE, DEFAULT_TABLE, userTable uid]) := by
  have hrules : (db.during uid touched present families).rules packet.family =
      insertRule (ruleSpec uid packet.family) (kernelRules packet.family) := by
    change insertRules uid families db.rules packet.family = _
    rw [insertRules, if_pos hfamily, hkernel]
  have hown : (ruleSpec uid packet.family).selects packet = true :=
    ruleSpec_selects.mpr ⟨hmark, huid⟩
  have hfree' := hfree packet.family hfamily
  unfold RoutingDb.PriorityFree at hfree'
  rw [hkernel] at hfree'
  unfold RoutingDb.consulted
  rw [hrules]
  rcases insertRule_kernelRules hfree' with ⟨hlt, hinsert⟩ | ⟨hge, hinsert⟩
  · refine .inl ⟨hlt, ?_⟩
    rw [hinsert, List.filter_eq_self.mpr (by simp [hown, plainRule_selects])]
    rfl
  · refine .inr ⟨hge, ?_⟩
    rw [hinsert, List.filter_eq_self.mpr (by simp [kernelRules, hown, plainRule_selects])]
    rfl

/-- `enable` does not succeed with nothing. -/
theorem preferredRoutes_ne_nil (hok : (enable env uid routes).exec s = (.ok installed, s')) :
    preferredRoutes routes ≠ [] := by
  intro hempty
  unfold enable at hok
  dsimp only at hok
  rw [if_pos hempty] at hok
  cases hok

/-- What `enable` leaves when it succeeds. -/
theorem enable_ok_spec (hwf : s.db.WellFormed)
    (hvalid : ∀ route ∈ routes, route.validated = .ok route)
    (hok : (enable env uid routes).exec s = (.ok installed, s')) :
    installed = preferredRoutes routes ∧ s.db.Free uid installed ∧
      s'.db = s.db.during uid (allCommands uid installed) (allCommands uid installed)
        (routeFamilies installed) := by
  have houtcome := enable_outcome env uid hwf
    fun route hroute => PhysicalRoute.not_blank_of_validated (hvalid route hroute)
  rw [hok] at houtcome
  cases houtcome with
  | installed count hfree hnot => exact ⟨rfl, hfree, rfl⟩

/-- **Among the kernel's rules, a bypass that was enabled has precedence over the main table exactly
if the user id is below 20766.** -/
theorem bypass_precedence_iff (hwf : s.db.WellFormed)
    (hvalid : ∀ route ∈ routes, route.validated = .ok route) (hkernel : s.db.rules = kernelRules)
    (hok : (enable env uid routes).exec s = (.ok installed, s')) :
    BypassPrecedence uid (routeFamilies installed) s.db s'.db ↔ uid.toNat < 20766 := by
  obtain ⟨hinstalled, hfree, hdb⟩ := enable_ok_spec hwf hvalid hok
  rw [hdb]
  constructor
  · intro hprecedence
    obtain ⟨route, hroute⟩ := List.exists_mem_of_ne_nil _
      (hinstalled ▸ preferredRoutes_ne_nil hok)
    have hfamily : route.family ∈ routeFamilies installed :=
      mem_routeFamilies.mpr ⟨route, hroute, rfl⟩
    have hbefore := hprecedence.own ⟨route.family, FWMARK_VALUE, uid.toNat⟩ hfamily rfl rfl
    rcases consulted_own ⟨route.family, FWMARK_VALUE, uid.toNat⟩ hkernel hfree.rules
      hfamily rfl rfl with ⟨hlt, -⟩ | ⟨-, hconsulted⟩
    · exact hlt
    · rw [hconsulted] at hbefore
      exact absurd hbefore (not_beforeMain uid)
  · intro hlt
    refine ⟨?_, fun packet hother => consulted_insertRules hother, ?_⟩
    · intro packet hfamily hmark huid
      rcases consulted_own packet hkernel hfree.rules hfamily hmark huid with
        ⟨-, hconsulted⟩ | ⟨hge, -⟩
      · rw [hconsulted]
        exact ⟨[LOCAL_TABLE], [MAIN_TABLE, DEFAULT_TABLE], rfl, by decide⟩
      · exact absurd hlt hge
    · intro uid' hne
      have hne : uid'.toNat ≠ uid.toNat := fun h => hne (UInt16.toNat_inj.mp h)
      unfold userTable rulePriority
      omega

/-- The kernel's database with its own rules. -/
def kernelDb : RoutingDb := { startedDb [] with rules := kernelRules }

theorem kernelDb_wellFormed : kernelDb.WellFormed := by
  refine ⟨fun family => ?_, List.nodup_nil, fun _ h => absurd h List.not_mem_nil,
    fun _ h => absurd h List.not_mem_nil⟩
  change (kernelRules family).Nodup
  simp [kernelRules, plainRule]

theorem validated_singleton : ∀ route ∈ [wlanRoute], route.validated = .ok route := by
  intro route hroute
  rw [List.mem_singleton.mp hroute]
  exact validated_wlanRoute

theorem bypass_precedence_1000 :
    (enable iproute2 1000 [wlanRoute]).exec ⟨0, kernelDb⟩ =
        (.ok [wlanRoute], ((enable iproute2 1000 [wlanRoute]).exec ⟨0, kernelDb⟩).2) ∧
      BypassPrecedence 1000 (routeFamilies [wlanRoute]) kernelDb
        ((enable iproute2 1000 [wlanRoute]).exec ⟨0, kernelDb⟩).2.db := by
  have hok : (enable iproute2 1000 [wlanRoute]).exec ⟨0, kernelDb⟩ =
      (.ok [wlanRoute], ((enable iproute2 1000 [wlanRoute]).exec ⟨0, kernelDb⟩).2) :=
    Prod.ext (by decide +kernel) rfl
  exact ⟨hok, (bypass_precedence_iff kernelDb_wellFormed validated_singleton rfl hok).mpr
    (by decide)⟩

/-- The bypass of the user 60001 is enabled, but comes after the main table. -/
theorem bypass_after_main :
    ((enable iproute2 60001 [wlanRoute]).exec ⟨0, kernelDb⟩).1 = .ok [wlanRoute] ∧
      ((enable iproute2 60001 [wlanRoute]).exec ⟨0, kernelDb⟩).2.db.consulted
        ⟨.ipv4, FWMARK_VALUE, 60001⟩ = [LOCAL_TABLE, MAIN_TABLE, DEFAULT_TABLE, 90001] ∧
      ¬ BypassPrecedence 60001 (routeFamilies [wlanRoute]) kernelDb
        ((enable iproute2 60001 [wlanRoute]).exec ⟨0, kernelDb⟩).2.db := by
  have hconsulted : ((enable iproute2 60001 [wlanRoute]).exec ⟨0, kernelDb⟩).2.db.consulted
      ⟨.ipv4, FWMARK_VALUE, 60001⟩ = [LOCAL_TABLE, MAIN_TABLE, DEFAULT_TABLE, 90001] := by
    decide +kernel
  refine ⟨by decide +kernel, hconsulted, fun h => ?_⟩
  have hbefore := h.own ⟨.ipv4, FWMARK_VALUE, 60001⟩ (by decide) rfl rfl
  rw [hconsulted] at hbefore
  exact not_beforeMain 60001 hbefore

end precedence

end ProtonVpnOmarchy.Splitd.Routing
