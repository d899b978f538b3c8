import ProtonVpnOmarchy.Agent.NativeError
import ProtonVpnOmarchy.Lib.FirstMatch
import ProtonVpnOmarchy.Lib.Text
import ProtonVpnOmarchy.Splitd.Net

/-!
# Physical default routes

`NetworkManagerBackend::physical_default_routes` of `network.rs`: the default route of each address
family over an active Ethernet or Wi-Fi device. NetworkManager and `/usr/bin/ip` are parameters.

The kernel prefers the default route with the least metric, and a route without a metric has metric 0;
`physical_default_routes` takes it for one with the largest metric.

* `physicalDefaultRoutes_asKernel_iff` — when the routes that are returned are those that the kernel
  prefers.
* `wired_route_missed` — a wired route without a metric is not returned beside a wireless one.
-/

namespace ProtonVpnOmarchy.Agent.Network

open Lib Splitd Native

/-! ## The model -/

/-- A device of NetworkManager, as far as its properties can be read. -/
structure Device where
  state : Option UInt32
  deviceType : Option UInt32
  interface : Option String

/-- What a command leaves behind; `stdout` is read as a JSON array, or the reader fails. -/
structure Output where
  success : Bool
  stdout : Except String (List Value)
  stderr : List UInt8

/-- NetworkManager, and `ip -j route show table main default` with a flag before `-j`. -/
structure Host where
  devices : NativeResult (List Device)
  routeShow : (flag : String) → Except String Output

/-- The interfaces of the devices that are active and Ethernet or Wi-Fi. -/
def physicalInterfaces (devices : List Device) : List String :=
  devices.filterMap fun device =>
    if device.state.getD 0 = 100 ∧ device.deviceType.getD 0 ∈ [1, 2] then
      device.interface.filter (· ≠ "")
    else none

/-- The families and the flags of their listings. -/
def families : List (String × String) := [("ipv4", "-4"), ("ipv6", "-6")]

def routeUnavailable (message : String) : NativeError :=
  { code := "physical_route_unavailable", message }

/-- The default routes of a family, as the kernel lists them. -/
def listing (host : Host) (family flag : String) : NativeResult (List Value) :=
  match host.routeShow flag with
  | .error error =>
    .error { routeUnavailable "Unable to inspect the physical default route" with
      source := some error }
  | .ok output =>
    if output.success then
      match output.stdout with
      | .error error =>
        .error { routeUnavailable "The kernel returned an invalid default-route description" with
          source := some error }
      | .ok values => .ok values
    else
      .error { routeUnavailable "The kernel did not return the physical default route" with
        details := some (.obj [("family", .string family),
          ("stderr", .string (trim (lossy output.stderr)))]) }

def interfaceOf (value : Value) : Option String := (value.get "dev").bind Value.asStr

def gatewayOf (value : Value) : String := ((value.get "gateway").bind Value.asStr).getD ""

/-- The metric that a route is listed with. -/
def listedMetric (value : Value) : Option ℕ :=
  ((value.get "metric").bind Value.asU64).map UInt64.toNat

/-- A route that may be preferred. -/
structure Candidate where
  metric : ℕ
  gateway : String
  interface : String

def Candidate.key (candidate : Candidate) : ℕ ×ₗ String :=
  toLex (candidate.metric, candidate.interface)

/-- A route over one of the interfaces. -/
def candidate (physical : List String) (value : Value) : Option Candidate :=
  (interfaceOf value).bind fun interface =>
    if interface ∈ physical then
      some ⟨(listedMetric value).getD (2 ^ 64 - 1), gatewayOf value, interface⟩
    else none

/-- The first of the least candidates. -/
def preferred (physical : List String) (values : List Value) : Option Candidate :=
  (values.filterMap (candidate physical)).argmin Candidate.key

/-- Source: `network.rs` `physical_default_routes` -/
def physicalDefaultRoutes (host : Host) : NativeResult (List (String × String × String)) := do
  let devices ← host.devices
  let physical := physicalInterfaces devices
  let found ← families.mapM fun (family, flag) => do
    let values ← listing host family flag
    return (preferred physical values).map fun route => (family, route.gateway, route.interface)
  let routes := found.reduceOption
  if routes = [] then
    throw { routeUnavailable
      "No active Ethernet or Wi-Fi default route is available for split tunneling" with
      retryable := true }
  return routes

/-! ## What the kernel prefers -/

section kernel

variable (physical : List String) (values : List Value)

/-- The route leads over one of the interfaces. -/
def OverPhysical (value : Value) : Prop := ∃ interface ∈ physical, interfaceOf value = some interface

instance : DecidablePred (OverPhysical physical) := fun value =>
  inferInstanceAs (Decidable (∃ interface ∈ physical, interfaceOf value = some interface))

/-- The metric that the kernel goes by. -/
def kernelMetric (value : Value) : ℕ := (listedMetric value).getD 0

/-- Among the default routes over the interfaces, none has a smaller metric. -/
def KernelPrefers (value : Value) : Prop :=
  value ∈ values ∧ OverPhysical physical value ∧
    ∀ other ∈ values, OverPhysical physical other → kernelMetric value ≤ kernelMetric other

/-- The gateway and the interface of a route. -/
def via (value : Value) : String × String := (gatewayOf value, (interfaceOf value).getD "")

end kernel

/-- The routes of a family among those that are returned. -/
def routesOf (result : NativeResult (List (String × String × String))) (family : String) :
    List (String × String × String) :=
  match result with
  | .ok routes => routes.filter fun route => route.1 = family
  | .error _ => []

/-- For each family that has a default route over one of the interfaces, one route is returned, which
the kernel prefers; for another family none is. -/
def AsKernel (physical : List String) (listed : String → List Value)
    (result : NativeResult (List (String × String × String))) : Prop :=
  ∀ family ∈ families.map Prod.fst,
    if ∃ value ∈ listed family, OverPhysical physical value then
      ∃ value, KernelPrefers physical (listed family) value ∧
        routesOf result family = [(family, via value)]
    else routesOf result family = []

/-- The routes over the interfaces that are listed with a metric. -/
def metered (physical : List String) (values : List Value) : List Value :=
  values.filter fun value => OverPhysical physical value ∧ listedMetric value ≠ none

/-- The place of a route, by its metric and by its interface. -/
def place (value : Value) : ℕ ×ₗ String :=
  toLex ((listedMetric value).getD (2 ^ 64 - 1), (interfaceOf value).getD "")

/-- Every route over the interfaces is listed with a metric, or none is, or the first of those that are
has metric 0, or leads where a route without a metric leads. -/
def MetricDecides (physical : List String) (values : List Value) : Prop :=
  (∀ value ∈ values, OverPhysical physical value → listedMetric value ≠ none) ∨
    ∀ first ∈ (metered physical values).argmin place, kernelMetric first = 0 ∨
      ∃ value ∈ values, OverPhysical physical value ∧ listedMetric value = none ∧
        via value = via first

/-- Metrics as the kernel keeps them, in 32 bits. -/
def KernelMetrics (values : List Value) : Prop :=
  ∀ value ∈ values, ∀ metric, listedMetric value = some metric → metric < 2 ^ 32

/-! ## The route of a family -/

section family

variable {physical : List String} {values : List Value}

/-- What the code makes of a route over the interfaces. -/
def toCandidate (value : Value) : Candidate :=
  ⟨(listedMetric value).getD (2 ^ 64 - 1), gatewayOf value, (interfaceOf value).getD ""⟩

theorem candidate_eq (physical : List String) (value : Value) :
    candidate physical value =
      if OverPhysical physical value then some (toCandidate value) else none := by
  by_cases h : OverPhysical physical value
  · obtain ⟨interface, hmem, hinterface⟩ := h
    rw [if_pos ⟨interface, hmem, hinterface⟩]
    unfold candidate toCandidate
    rw [hinterface, Option.bind_some, if_pos hmem, Option.getD_some]
  · rw [if_neg h]
    unfold candidate
    rcases hinterface : interfaceOf value with _ | interface
    · rfl
    · rw [Option.bind_some, if_neg fun hmem => h ⟨interface, hmem, hinterface⟩]

theorem filterMap_candidate (physical : List String) (values : List Value) :
    values.filterMap (candidate physical) =
      (values.filter fun value => OverPhysical physical value).map toCandidate := by
  induction values with
  | nil => rfl
  | cons value values ih =>
      rw [List.filterMap_cons, candidate_eq]
      by_cases h : OverPhysical physical value
      · rw [if_pos h, List.filter_cons_of_pos (by simpa using h), List.map_cons, ih]
      · rw [if_neg h, List.filter_cons_of_neg (by simpa using h), ih]

theorem preferred_eq (physical : List String) (values : List Value) :
    preferred physical values =
      ((values.filter fun value => OverPhysical physical value).argmin place).map toCandidate := by
  unfold preferred
  rw [filterMap_candidate, argmin_map]
  rfl

/-- Where a metric is listed, the first route is one with a metric. -/
theorem argmin_metered (hmetrics : KernelMetrics values) (h : metered physical values ≠ []) :
    (metered physical values).argmin place =
      (values.filter fun value => OverPhysical physical value).argmin place := by
  obtain ⟨value, hvalue⟩ := List.exists_mem_of_ne_nil _ h
  have hmetered : metered physical values =
      (values.filter fun value => OverPhysical physical value).filter fun value =>
        listedMetric value ≠ none := by
    unfold metered
    rw [List.filter_filter]
    exact List.filter_congr fun value _ => by simp [Bool.and_comm]
  rw [hmetered] at hvalue ⊢
  obtain ⟨hover, hlisted⟩ := List.mem_filter.mp hvalue
  refine argmin_filter ⟨value, hover, by simpa using hlisted⟩ ?_
  intro first hfirst hsome other hother hnone
  obtain ⟨metric, hmetric⟩ := Option.ne_none_iff_exists'.mp hsome
  have hlt := hmetrics first (List.mem_filter.mp hfirst).1 metric hmetric
  rw [not_not] at hnone
  refine Prod.Lex.toLex_lt_toLex.mpr (.inl ?_)
  rw [hmetric, hnone]
  exact hlt.trans (by norm_num)

theorem mem_metered {value : Value} :
    value ∈ metered physical values ↔
      value ∈ values ∧ OverPhysical physical value ∧ listedMetric value ≠ none := by
  unfold metered
  rw [List.mem_filter, decide_eq_true_eq]

/-- A metric that is listed is the kernel's. -/
theorem place_of_listed {value : Value} (h : listedMetric value ≠ none) :
    place value = toLex (kernelMetric value, (interfaceOf value).getD "") := by
  obtain ⟨metric, hmetric⟩ := Option.ne_none_iff_exists'.mp h
  unfold place kernelMetric
  rw [hmetric]
  rfl

theorem kernelMetric_le_of_place_le {value other : Value} (hvalue : listedMetric value ≠ none)
    (hother : listedMetric other ≠ none) (h : place value ≤ place other) :
    kernelMetric value ≤ kernelMetric other := by
  rw [place_of_listed hvalue, place_of_listed hother] at h
  exact Prod.Lex.monotone_fst _ _ h

/-- The route that is returned is one that the kernel prefers exactly if the metrics decide. -/
theorem kernelPrefers_preferred_iff (hmetrics : KernelMetrics values)
    (hsome : ∃ value ∈ values, OverPhysical physical value) :
    (∃ value, KernelPrefers physical values value ∧
      (preferred physical values).map (fun route => (route.gateway, route.interface)) =
        some (via value)) ↔ MetricDecides physical values := by
  obtain ⟨first, hfirst⟩ : ∃ first,
      (values.filter fun value => OverPhysical physical value).argmin place = some first := by
    rw [← Option.isSome_iff_exists, Option.isSome_iff_ne_none, ne_eq, List.argmin_eq_none,
      List.filter_eq_nil_iff]
    obtain ⟨value, hvalue, hover⟩ := hsome
    exact fun hnone => hnone value hvalue (by simpa using hover)
  have hreturned : (preferred physical values).map (fun route => (route.gateway, route.interface)) =
      some (via first) := by
    rw [preferred_eq, hfirst]
    rfl
  obtain ⟨hmem, hover⟩ := List.mem_filter.mp (List.argmin_mem hfirst)
  rw [decide_eq_true_eq] at hover
  have hleast : ∀ other ∈ values, OverPhysical physical other → place first ≤ place other :=
    fun other hother hphysical =>
      List.le_of_mem_argmin (List.mem_filter.mpr ⟨hother, by simpa using hphysical⟩) hfirst
  rw [hreturned]
  by_cases hall : ∀ value ∈ values, OverPhysical physical value → listedMetric value ≠ none
  · refine iff_of_true ⟨first, ⟨hmem, hover, ?_⟩, rfl⟩ (.inl hall)
    intro other hother hphysical
    exact kernelMetric_le_of_place_le (hall first hmem hover) (hall other hother hphysical)
      (hleast other hother hphysical)
  · -- A route without a metric has the least one.
    push Not at hall
    obtain ⟨free, hfree, hfreeOver, hfreeMetric⟩ := hall
    have hzero : kernelMetric free = 0 := by
      rw [kernelMetric, hfreeMetric]
      rfl
    have hprefers : ∀ value, value ∈ values → OverPhysical physical value →
        kernelMetric value = 0 → KernelPrefers physical values value := fun value hvalue hphysical hmetric =>
      ⟨hvalue, hphysical, fun other _ _ => hmetric ▸ Nat.zero_le _⟩
    by_cases hmetered : metered physical values = []
    · have hnone : listedMetric first = none := by
        by_contra hlisted
        have hmem' := mem_metered.mpr ⟨hmem, hover, hlisted⟩
        rw [hmetered] at hmem'
        cases hmem'
      refine iff_of_true ⟨first, hprefers first hmem hover ?_, rfl⟩ (.inr ?_)
      · rw [kernelMetric, hnone]
        rfl
      · rw [hmetered]
        rintro other ⟨⟩
    · have hargmin : (metered physical values).argmin place = some first := by
        rw [argmin_metered hmetrics hmetered, hfirst]
      have hlisted := (mem_metered.mp (List.argmin_mem hargmin)).2.2
      constructor
      · rintro ⟨value, ⟨hvalue, hphysical, hleastKernel⟩, hvia⟩
        have hmetric : kernelMetric value = 0 := by
          have hle := hleastKernel free hfree hfreeOver
          rw [hzero] at hle
          exact Nat.le_zero.mp hle
        refine .inr fun other hother => ?_
        obtain rfl := Option.some.inj (hargmin.symm.trans hother)
        by_cases hvalueListed : listedMetric value = none
        · exact .inr ⟨value, hvalue, hphysical, hvalueListed, (Option.some.inj hvia).symm⟩
        · have hle := kernelMetric_le_of_place_le hlisted hvalueListed (hleast value hvalue hphysical)
          rw [hmetric] at hle
          exact .inl (Nat.le_zero.mp hle)
      · rintro (hall | hdecides)
        · exact absurd hfreeMetric (hall free hfree hfreeOver)
        · rcases hdecides first hargmin with hmetric | ⟨value, hvalue, hphysical, hnone, hvia⟩
          · exact ⟨first, hprefers first hmem hover hmetric, rfl⟩
          · refine ⟨value, hprefers value hvalue hphysical ?_, by rw [hvia]⟩
            rw [kernelMetric, hnone]
            rfl

end family

/-! ## All families -/

section host

variable {host : Host} {devices : List Device} {listed : String → List Value}
  (hdevices : host.devices = .ok devices)
  (hlisted : ∀ entry ∈ families, listing host entry.1 entry.2 = .ok (listed entry.1))

/-- The route of a family, if there is one. -/
def familyRoute (physical : List String) (listed : String → List Value) (family : String) :
    Option (String × String × String) :=
  (preferred physical (listed family)).map fun route => (family, route.gateway, route.interface)

theorem fst_of_familyRoute {physical : List String} {family : String}
    {route : String × String × String} (h : familyRoute physical listed family = some route) :
    route.1 = family := by
  obtain ⟨candidate, -, rfl⟩ := Option.map_eq_some_iff.mp h
  rfl

/-- The routes of a family are found among those of all families. -/
theorem filter_familyRoutes (physical : List String) {family : String}
    (hfamily : family ∈ families.map Prod.fst) :
    ((families.map fun entry => familyRoute physical listed entry.1).reduceOption.filter fun route =>
      route.1 = family) = (familyRoute physical listed family).toList := by
  have hfilter : ∀ family', ((familyRoute physical listed family').toList.filter fun route =>
      route.1 = family) = if family' = family then (familyRoute physical listed family').toList
        else [] := by
    intro family'
    rcases hroute : familyRoute physical listed family' with _ | route
    · simp
    · have hfst := fst_of_familyRoute hroute
      split_ifs with h
      · rw [Option.toList_some, List.filter_singleton, hfst, h]
        simp
      · rw [Option.toList_some, List.filter_singleton, hfst]
        simp [h]
  have hreduce : (families.map fun entry => familyRoute physical listed entry.1).reduceOption =
      (familyRoute physical listed "ipv4").toList ++ (familyRoute physical listed "ipv6").toList := by
    rcases h4 : familyRoute physical listed "ipv4" with _ | route <;>
      rcases h6 : familyRoute physical listed "ipv6" with _ | route' <;>
        simp [families, List.reduceOption, h4, h6]
  rw [hreduce, List.filter_append, hfilter, hfilter]
  rcases List.mem_pair.mp hfamily with rfl | rfl
  · rw [if_pos rfl, if_neg (by decide), List.append_nil]
  · rw [if_pos rfl, if_neg (by decide), List.nil_append]

include hdevices hlisted

theorem physicalDefaultRoutes_eq :
    physicalDefaultRoutes host =
      let routes := (families.map fun entry =>
        familyRoute (physicalInterfaces devices) listed entry.1).reduceOption
      if routes = [] then
        .error { routeUnavailable
          "No active Ethernet or Wi-Fi default route is available for split tunneling" with
          retryable := true }
      else .ok routes := by
  have h4 := hlisted ("ipv4", "-4") (by decide)
  have h6 := hlisted ("ipv6", "-6") (by decide)
  unfold physicalDefaultRoutes families
  rw [hdevices]
  simp only [List.mapM_cons, List.mapM_nil, h4, h6]
  rfl

/-- Each family gets its own route. -/
theorem routesOf_physicalDefaultRoutes {family : String} (hfamily : family ∈ families.map Prod.fst) :
    routesOf (physicalDefaultRoutes host) family =
      (familyRoute (physicalInterfaces devices) listed family).toList := by
  rw [physicalDefaultRoutes_eq hdevices hlisted,
    ← filter_familyRoutes (physicalInterfaces devices) hfamily]
  dsimp only
  split_ifs with hnone
  · rw [hnone]
    rfl
  · rfl

end host

/-- **For each family the route that the kernel prefers is returned, and no other, exactly if the
listed metrics decide.** -/
theorem physicalDefaultRoutes_asKernel_iff {host : Host} {devices : List Device}
    {listed : String → List Value} (hdevices : host.devices = .ok devices)
    (hlisted : ∀ entry ∈ families, listing host entry.1 entry.2 = .ok (listed entry.1))
    (hmetrics : ∀ family ∈ families.map Prod.fst, KernelMetrics (listed family)) :
    AsKernel (physicalInterfaces devices) listed (physicalDefaultRoutes host) ↔
      ∀ family ∈ families.map Prod.fst,
        MetricDecides (physicalInterfaces devices) (listed family) := by
  unfold AsKernel
  refine forall₂_congr fun family hfamily => ?_
  rw [routesOf_physicalDefaultRoutes hdevices hlisted hfamily]
  unfold familyRoute
  by_cases hsome : ∃ value ∈ listed family, OverPhysical (physicalInterfaces devices) value
  · rw [if_pos hsome, ← kernelPrefers_preferred_iff (hmetrics family hfamily) hsome]
    refine exists_congr fun value => and_congr_right fun _ => ?_
    cases preferred (physicalInterfaces devices) (listed family) with
    | none => simp
    | some route => simp [Prod.ext_iff]
  · rw [if_neg hsome]
    refine iff_of_true ?_ (.inl fun value hvalue hover => absurd ⟨value, hvalue, hover⟩ hsome)
    have hnone : preferred (physicalInterfaces devices) (listed family) = none := by
      rw [preferred_eq, List.filter_eq_nil_iff.mpr]
      · rfl
      · exact fun value hvalue hover => hsome ⟨value, hvalue, by simpa using hover⟩
    rw [hnone]
    rfl

/-- A host with an Ethernet and a Wi-Fi device and no IPv6 routes. -/
def hostListing (routes : List Value) : Host where
  devices := .ok [⟨some 100, some 1, some "eth0"⟩, ⟨some 100, some 2, some "wlan0"⟩]
  routeShow flag := .ok ⟨true, .ok (if flag = "-4" then routes else []), []⟩

/-- The listings of such a host. -/
def listedBy (routes : List Value) (family : String) : List Value :=
  if family = "ipv4" then routes else []

def wiredRoute (entries : List (String × Value)) : Value :=
  .obj ([("dst", .string "default"), ("gateway", .string "192.0.2.1"), ("dev", .string "eth0")] ++
    entries)

def wirelessRoute : Value :=
  .obj [("dst", .string "default"), ("gateway", .string "198.51.100.1"), ("dev", .string "wlan0"),
    ("metric", .u64 600)]

/-- Both routes are listed with metrics. -/
theorem physicalDefaultRoutes_asKernel_iff_metered :
    AsKernel ["eth0", "wlan0"] (listedBy [wiredRoute [("metric", .u64 100)], wirelessRoute])
      (physicalDefaultRoutes (hostListing [wiredRoute [("metric", .u64 100)], wirelessRoute])) := by
  have hlisted : ∀ family ∈ families.map Prod.fst,
      ∀ value ∈ listedBy [wiredRoute [("metric", .u64 100)], wirelessRoute] family,
        listedMetric value = some 100 ∨ listedMetric value = some 600 := by decide +kernel
  have hdevices : (hostListing [wiredRoute [("metric", .u64 100)], wirelessRoute]).devices =
      .ok [⟨some 100, some 1, some "eth0"⟩, ⟨some 100, some 2, some "wlan0"⟩] := rfl
  have hlisting : ∀ entry ∈ families,
      listing (hostListing [wiredRoute [("metric", .u64 100)], wirelessRoute]) entry.1 entry.2 =
        .ok (listedBy [wiredRoute [("metric", .u64 100)], wirelessRoute] entry.1) := by
    decide +kernel
  refine (physicalDefaultRoutes_asKernel_iff hdevices hlisting ?_).mpr ?_
  · intro family hfamily value hvalue metric hmetric
    rcases hlisted family hfamily value hvalue with h | h
    · rw [h] at hmetric
      rw [← Option.some.inj hmetric]
      norm_num
    · rw [h] at hmetric
      rw [← Option.some.inj hmetric]
      norm_num
  · intro family hfamily
    refine .inl fun value hvalue _ hnone => ?_
    rcases hlisted family hfamily value hvalue with h | h
    · rw [hnone] at h
      cases h
    · rw [hnone] at h
      cases h

/-- The route over Ethernet has no metric, so the kernel prefers it; the one over Wi-Fi is returned. -/
theorem wired_route_missed :
    ¬ AsKernel ["eth0", "wlan0"] (listedBy [wiredRoute [], wirelessRoute])
      (physicalDefaultRoutes (hostListing [wiredRoute [], wirelessRoute])) := by
  intro h
  have hfamily := h "ipv4" (by decide)
  rw [if_pos (by decide +kernel)] at hfamily
  obtain ⟨value, ⟨hvalue, -, hleast⟩, hroutes⟩ := hfamily
  have hreturned : routesOf (physicalDefaultRoutes (hostListing [wiredRoute [], wirelessRoute]))
      "ipv4" = [("ipv4", "198.51.100.1", "wlan0")] := by decide +kernel
  rw [hreturned] at hroutes
  have hvia : via value = ("198.51.100.1", "wlan0") :=
    (Prod.mk.inj (List.cons.inj hroutes).1).2.symm
  have hnever : ∀ value ∈ listedBy [wiredRoute [], wirelessRoute] "ipv4",
      via value = ("198.51.100.1", "wlan0") → ¬ kernelMetric value ≤ kernelMetric (wiredRoute []) := by
    decide +kernel
  exact hnever value hvalue hvia (hleast (wiredRoute []) (by decide +kernel) (by decide +kernel))

end ProtonVpnOmarchy.Agent.Network
