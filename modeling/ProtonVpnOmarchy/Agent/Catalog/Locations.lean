import ProtonVpnOmarchy.Agent.Catalog.Selection

/-!
# The locations of a catalog

`catalog.rs` `locations` lists the countries, states and cities of the consumer servers, and the
gateways of the others; `select_validated` chooses a server for a target. The two read a catalog in
different ways: one tells consumer servers apart, the other standard ones; one groups the codes of
the countries in upper case, the other compares them as they are.

* `locations`, `listedItems` — what is listed.
* `mem_listedItems_iff` — the servers a listed location comes from.
* `selectsConsumers_iff` — targets without a gateway and a server choose consumer servers only, if
  no other server passes for standard or has one of the features.
* `selectable_of_source`, `itemsSelectable_iff` — the locations that can be chosen.
-/

namespace ProtonVpnOmarchy.Agent.Catalog

open Lib Splitd Store Backend

/-! ## The listing -/

namespace LogicalServer

variable (server : LogicalServer)

/-- A server that is neither a gateway nor a business or partner server. -/
def isConsumer : Bool :=
  server.gateway = "" && !server.has FEATURE_B2B && !server.has FEATURE_PARTNER

/-- The code of a country as it is listed. -/
def countryCode : String := toAsciiUppercase server.exitCountry

end LogicalServer

structure Country where
  code : String
  name : String
  serverCount : ℕ
  availableServerCount : ℕ
  standard : Bool
  secureCore : Bool
  p2p : Bool
  tor : Bool
  streaming : Bool
  smartRoutingCountries : List String
  states : List (String × List String)
  cities : List String
  p2pStates : List (String × List String)
  p2pCities : List String
  secureCoreEntries : List String

structure Gateway where
  name : String
  serverCount : ℕ
  availableServerCount : ℕ

structure Locations where
  countries : List Country
  gateways : List Gateway

section listing

variable (names : CountryNames) (catalog : ServerCatalog) (tier : UInt8)

/-- The servers that are listed below a country. -/
def consumers : List LogicalServer :=
  catalog.logicalServers.filter fun server =>
    server.tier ≤ tier && server.isConsumer && server.exitCountry ≠ ""

/-- The states of servers, each with its cities. Source: `catalog.rs` `insert_subdivision` -/
def subdivisions (servers : List LogicalServer) : List (String × List String) :=
  (textSet (servers.map (canonicalState catalog))).map fun state =>
    (state, textSet (((servers.filter fun server => canonicalState catalog server = state).map
      LogicalServer.city).filter (· ≠ "")))

/-- The states with a name, and the cities below the other one.
Source: `catalog.rs` `serialized_subdivisions` -/
def serializedSubdivisions (subdivisions : List (String × List String)) :
    List (String × List String) × List String :=
  (subdivisions.filter (·.1 ≠ ""), (subdivisions.filter (·.1 = "")).flatMap Prod.snd)

/-- The entry of a country for its servers. -/
def countryEntry (code : String) (servers : List LogicalServer) : Country where
  code := code
  name := countryName names ((servers.head?.map LogicalServer.exitCountry).getD "")
  serverCount := servers.length
  availableServerCount := (servers.filter LogicalServer.enabled).length
  standard := servers.any LogicalServer.standard
  secureCore := servers.any (·.has FEATURE_SECURE_CORE)
  p2p := servers.any (·.has FEATURE_P2P)
  tor := servers.any (·.has FEATURE_TOR)
  streaming := servers.any (·.has FEATURE_STREAMING)
  smartRoutingCountries := textSet (servers.filterMap LogicalServer.hostCountryCode)
  states :=
    (serializedSubdivisions (subdivisions catalog (servers.filter LogicalServer.standard))).1
  cities :=
    (serializedSubdivisions (subdivisions catalog (servers.filter LogicalServer.standard))).2
  p2pStates :=
    (serializedSubdivisions (subdivisions catalog (servers.filter (·.has FEATURE_P2P)))).1
  p2pCities :=
    (serializedSubdivisions (subdivisions catalog (servers.filter (·.has FEATURE_P2P)))).2
  secureCoreEntries := textSet ((servers.filter fun server =>
    server.has FEATURE_SECURE_CORE && server.entryCountry ≠ "").map fun server =>
      toAsciiUppercase server.entryCountry)

/-- The entry of a gateway for its servers. -/
def gatewayEntry (name : String) (servers : List LogicalServer) : Gateway where
  name := name
  serverCount := servers.length
  availableServerCount := (servers.filter LogicalServer.enabled).length

/-- The countries in the order of their names; the sort is stable, as `sort_by` is.
Source: `catalog.rs` `ServerCatalog::locations` -/
def locations : Locations where
  countries :=
    ((textSet ((consumers catalog tier).map LogicalServer.countryCode)).map fun code =>
      countryEntry names catalog code
        ((consumers catalog tier).filter fun server => server.countryCode = code)).insertionSort
          fun left right => left.name ≤ right.name
  gateways :=
    let servers := catalog.logicalServers.filter fun server =>
      server.tier ≤ tier && server.gateway ≠ ""
    (textSet (servers.map LogicalServer.gateway)).map fun name =>
      gatewayEntry name (servers.filter fun server => server.gateway = name)

end listing

/-- A country with its code and its name. -/
def codeValue (names : CountryNames) (code : String) : Value :=
  .obj [("code", .string code), ("name", .string (countryName names code))]

def stateValue (state : String × List String) : Value :=
  .obj [("name", .string state.1), ("cities", .array (state.2.map .string))]

def Country.toValue (names : CountryNames) (country : Country) : Value :=
  .obj [
    ("code", .string country.code),
    ("name", .string country.name),
    ("server_count", .u64 (.ofNat country.serverCount)),
    ("available_server_count", .u64 (.ofNat country.availableServerCount)),
    ("standard", .bool country.standard),
    ("secure_core", .bool country.secureCore),
    ("p2p", .bool country.p2p),
    ("tor", .bool country.tor),
    ("streaming", .bool country.streaming),
    ("smart_routing_countries", .array (country.smartRoutingCountries.map (codeValue names))),
    ("cities", .array (country.cities.map .string)),
    ("states", .array (country.states.map stateValue)),
    ("p2p_cities", .array (country.p2pCities.map .string)),
    ("p2p_states", .array (country.p2pStates.map stateValue)),
    ("secure_core_entries", .array (country.secureCoreEntries.map (codeValue names)))]

def Gateway.toValue (gateway : Gateway) : Value :=
  .obj [
    ("name", .string gateway.name),
    ("server_count", .u64 (.ofNat gateway.serverCount)),
    ("available_server_count", .u64 (.ofNat gateway.availableServerCount))]

def Locations.toValue (names : CountryNames) (locations : Locations) : Value :=
  .obj [
    ("countries", .array (locations.countries.map (Country.toValue names))),
    ("gateways", .array (locations.gateways.map Gateway.toValue))]

/-! ## Consumer servers -/

/-- The modes of a target without a gateway and a server. -/
inductive Mode where
  | plain
  | secureCore
  | p2p
  | tor

namespace Mode

/-- The servers that a mode admits. -/
def admits (mode : Mode) (server : LogicalServer) : Bool :=
  match mode with
  | .plain => server.standard
  | .secureCore => server.has FEATURE_SECURE_CORE
  | .p2p => server.has FEATURE_P2P
  | .tor => server.has FEATURE_TOR

/-- The parameters of a mode. -/
def fields : Mode → List (String × Value)
  | .plain => []
  | .secureCore => [("secure_core", .bool true)]
  | .p2p => [("p2p", .bool true)]
  | .tor => [("tor", .bool true)]

/-- A request for any server that a mode admits. -/
def request (mode : Mode) : Value := requestFor (("random_server", .bool true) :: mode.fields)

theorem accepted_request (mode : Mode) : Accepted mode.request "" := by
  refine ⟨?_, fun h => ?_⟩
  · cases mode
    all_goals decide +kernel
  · revert h
    cases mode
    all_goals decide +kernel

/-- A request for any server of a mode names nothing else. -/
theorem targetOf_request (mode : Mode) : targetOf mode.request = {
    serverName := "", countryCode := "", entryCountryCode := "", stateName := "", cityName := ""
    gatewayName := "", excludeServerName := "", randomTarget := false, randomServer := true
    excludeMyCountry := false, freeRandom := false
    secureCore := mode matches .secureCore, p2p := mode matches .p2p
    tor := mode matches .tor } := by
  cases mode
  all_goals decide +kernel

theorem fits_request {mode : Mode} {server : LogicalServer} (h : mode.admits server = true)
    (catalog : ServerCatalog) (deviceCountry : String) :
    (targetOf mode.request).Fits catalog deviceCountry server := by
  rw [targetOf_request]
  refine ⟨?_, ?_, ?_, ?_, ?_, ?_, ?_, ?_, ?_, ?_⟩
  all_goals first
    | exact fun hne => absurd rfl hne
    | exact fun hfalse => absurd hfalse Bool.false_ne_true
    | skip
  · cases mode with
    | plain => rfl
    | secureCore => simpa [Target.hasFeatures, admits] using h
    | p2p => simpa [Target.hasFeatures, admits] using h
    | tor => simpa [Target.hasFeatures, admits] using h
  · cases mode with
    | plain => exact fun _ _ _ _ => h
    | secureCore => exact fun hmode => absurd hmode (by decide)
    | p2p => exact fun _ hmode => absurd hmode (by decide)
    | tor => exact fun _ _ hmode => absurd hmode (by decide)

end Mode

section consumers

variable {catalog : ServerCatalog} {tier : UInt8} {validate : PhysicalServer → Bool}

/-- A server that fits a target without a gateway is admitted by the mode of the target. -/
theorem exists_admits_of_fits {target : Target} {deviceCountry : String} {server : LogicalServer}
    (h : target.Fits catalog deviceCountry server) (hgateway : target.gatewayName = "") :
    ∃ mode : Mode, mode.admits server = true := by
  have hfeatures := Target.hasFeatures_iff.mp h.features
  by_cases hsecure : target.secureCore = true
  · exact ⟨.secureCore, hfeatures.1 hsecure⟩
  by_cases hp2p : target.p2p = true
  · exact ⟨.p2p, hfeatures.2.1 hp2p⟩
  by_cases htor : target.tor = true
  · exact ⟨.tor, hfeatures.2.2 htor⟩
  rw [Bool.not_eq_true] at hsecure hp2p htor
  exact ⟨.plain, h.standard hsecure hp2p htor hgateway⟩

/-- Any server of a mode is chosen for some random numbers. -/
theorem exists_selectValidated_request {mode : Mode} {server : LogicalServer}
    (hmem : server ∈ catalog.logicalServers) (henabled : server.enabled = true)
    (htier : server.tier ≤ tier) (husable : Usable validate server)
    (hadmits : mode.admits server = true) : ∃ draws result,
      selectValidated catalog mode.request tier [] "" validate draws = .ok result ∧
        result.logical = { server with state := canonicalState catalog server } := by
  have hfits := Mode.fits_request hadmits catalog (deviceCode "")
  have hname : (targetOf mode.request).serverName = "" := by rw [Mode.targetOf_request]
  have hserver : (targetOf mode.request).randomServer = true := by rw [Mode.targetOf_request]
  have hcountry : ((targetOf mode.request).randomTarget || (targetOf mode.request).freeRandom) =
      false := by rw [Mode.targetOf_request]; rfl
  obtain ⟨candidate, hcandidate, rfl⟩ := exists_candidate hmem henabled htier
  have hexcludes : (targetOf mode.request).excludes catalog tier [] candidate.1 = false := by
    unfold Target.excludes
    rw [List.any_nil, Bool.and_false]
  obtain ⟨draw, hdraw⟩ := exists_draw (mem_allowed_iff.mpr ⟨hcandidate, hfits, hexcludes⟩)
  obtain ⟨physical, hphysical⟩ := exists_pick (endpoints_ne_nil_iff.mpr husable) 0
  have hchoose : chooseLogical catalog (targetOf mode.request) tier [] (deviceCode "")
      ⟨fun _ => 0, fun _ => draw, fun _ => 0⟩ 0 (available catalog tier) = .ok candidate := by
    have hleaves : (targetOf mode.request).leavesOut tier [] = false := by
      simp [Target.leavesOut]
    unfold chooseLogical chooseCandidate
    rw [if_neg (not_not.mpr hname)]
    dsimp only
    rw [if_neg (fun hall => by rw [hleaves] at hall; exact Bool.false_ne_true hall.1),
      restrictCountry, hcountry, if_neg Bool.false_ne_true, takeCandidate, if_pos hserver, hdraw]
    change (reject (¬ (targetOf mode.request).hasFeatures candidate.1) serverFeatureMismatch >>=
      fun _ => Except.ok candidate) = _
    rw [reject_of_not (not_not.mpr hfits.features)]
    rfl
  refine ⟨⟨fun _ => 0, fun _ => draw, fun _ => 0⟩, {
    logical := { candidate.1 with state := canonicalState catalog candidate.1 }
    physical := physical }, ?_, rfl⟩
  rw [selectValidated_of_accepted (Mode.accepted_request mode)]
  unfold retry
  rw [hchoose]
  dsimp only
  have hendpoint : chooseEndpoint catalog validate ⟨fun _ => 0, fun _ => draw, fun _ => 0⟩ 0
      candidate = some {
        logical := { candidate.1 with state := canonicalState catalog candidate.1 }
        physical := physical } := by
    unfold chooseEndpoint
    rw [hphysical]
    rfl
  rw [hendpoint]

/-- Requests without a gateway and a server name choose consumer servers only. -/
def SelectsConsumers (catalog : ServerCatalog) (tier : UInt8)
    (validate : PhysicalServer → Bool) : Prop :=
  ∀ (params : Value) (excluded : List ExcludedLocation) (deviceCountry : String) (draws : Draws)
    (result : ConnectionTarget), (targetOf params).serverName = "" →
      (targetOf params).gatewayName = "" →
      selectValidated catalog params tier excluded deviceCountry validate draws = .ok result →
      result.logical.isConsumer = true

/-- **Consumer servers only are chosen** exactly if every server that can be chosen, and is standard
or has one of the features, is one. -/
theorem selectsConsumers_iff : SelectsConsumers catalog tier validate ↔
    ∀ server ∈ catalog.logicalServers, server.enabled = true → server.tier ≤ tier →
      Usable validate server →
      (server.standard = true ∨ server.has FEATURE_SECURE_CORE = true ∨
        server.has FEATURE_P2P = true ∨ server.has FEATURE_TOR = true) →
      server.isConsumer = true := by
  constructor
  · intro h server hmem henabled htier husable hfeature
    obtain ⟨mode, hmode⟩ : ∃ mode : Mode, mode.admits server = true := by
      rcases hfeature with hstandard | hsecure | hp2p | htor
      · exact ⟨.plain, hstandard⟩
      · exact ⟨.secureCore, hsecure⟩
      · exact ⟨.p2p, hp2p⟩
      · exact ⟨.tor, htor⟩
    obtain ⟨draws, result, hresult, hlogical⟩ :=
      exists_selectValidated_request hmem henabled htier husable hmode
    have hconsumer := h mode.request [] "" draws result (by rw [Mode.targetOf_request])
      (by rw [Mode.targetOf_request]) hresult
    rw [hlogical] at hconsumer
    exact hconsumer
  · intro h params excluded deviceCountry draws result hname hgateway hresult
    obtain ⟨server, hselects⟩ := selects_of_eq_ok hresult
    obtain ⟨mode, hmode⟩ := exists_admits_of_fits (hselects.fits hname) hgateway
    have husable : Usable validate server :=
      ⟨result.physical, hselects.physical_mem, hselects.physical_active, hselects.physical_valid⟩
    have hconsumer := h server hselects.mem hselects.enabled hselects.tier_le husable (by
      cases mode with
      | plain => exact .inl hmode
      | secureCore => exact .inr (.inl hmode)
      | p2p => exact .inr (.inr (.inl hmode))
      | tor => exact .inr (.inr (.inr hmode)))
    rw [hselects.logical]
    exact hconsumer

end consumers

/-- A server of a gateway, without any feature. -/
def acmeServer : LogicalServer := { usServer with gatewayName := "ACME" }

/-- The server of a gateway is the fastest one. -/
theorem not_selectsConsumers_acme :
    ¬ SelectsConsumers { logicalServers := [acmeServer] } 0 fun _ => true := by
  intro h
  have hconsumer := h (requestFor []) [] "" firstDraws
    { logical := acmeServer, physical := { id := "1", status := 1 } } (by decide +kernel)
    (by decide +kernel) (by decide +kernel)
  exact absurd hconsumer (by decide +kernel)

/-! ## Listed locations -/

/-- A country, a state or a city of the listing. -/
structure LocationItem where
  code : String
  state : String
  city : String
  p2p : Bool
  deriving DecidableEq

/-- The states with their cities, and the cities without a state. -/
def subdivisionItems (code : String) (p2p : Bool) (states : List (String × List String))
    (cities : List String) : List LocationItem :=
  states.flatMap (fun state => ⟨code, state.1, "", p2p⟩ ::
    state.2.map fun city => ⟨code, state.1, city, p2p⟩) ++
      cities.map fun city => ⟨code, "", city, p2p⟩

def Country.items (country : Country) : List LocationItem :=
  ⟨country.code, "", "", false⟩ ::
    (subdivisionItems country.code false country.states country.cities ++
      subdivisionItems country.code true country.p2pStates country.p2pCities)

def listedItems (names : CountryNames) (catalog : ServerCatalog) (tier : UInt8) :
    List LocationItem :=
  (locations names catalog tier).countries.flatMap Country.items

namespace LocationItem

variable (item : LocationItem)

/-- The servers that a list of states and cities is made of. -/
def lists (server : LogicalServer) : Bool :=
  if item.p2p then server.has FEATURE_P2P else server.standard

/-- A request for the item. -/
def request : Value :=
  requestFor [("country_code", .string item.code), ("state", .string item.state),
    ("city", .string item.city), ("p2p", .bool item.p2p)]

theorem targetOf_request : targetOf item.request = {
    serverName := "", countryCode := toAsciiUppercase (trim item.code), entryCountryCode := ""
    stateName := trim item.state, cityName := trim item.city, gatewayName := ""
    excludeServerName := "", secureCore := false, p2p := item.p2p, tor := false
    randomTarget := false, randomServer := false, excludeMyCountry := false
    freeRandom := false } := by
  have htrim : trim "" = "" := by decide +kernel
  have hupper : toAsciiUppercase "" = "" := by decide +kernel
  unfold targetOf request requestFor
  rw [Value.get_obj]
  change readTarget (Map.insertAll [] _) = _
  unfold readTarget objectString objectBool
  simp [Map.get_insertAll, Map.get_cons, Value.asStr, Value.asBool, htrim, hupper]

theorem toAsciiUppercase_eq_empty {text : String} : toAsciiUppercase text = "" ↔ text = "" := by
  unfold toAsciiUppercase
  rw [← String.toList_inj, String.toList_map, ← String.toList_inj]
  exact List.map_eq_nil_iff

/-- A state or a city needs the code of a country. -/
theorem accepted_request_iff (deviceCountry : String) : Accepted item.request deviceCountry ↔
    (trim item.code = "" → trim item.state = "" ∧ trim item.city = "") := by
  have hobject : ∃ object, (item.request.get "target").bind Value.asObject = some object := by
    unfold request requestFor
    rw [Value.get_obj]
    exact ⟨_, rfl⟩
  obtain ⟨object, hobject⟩ := hobject
  have hchecked := checkTarget_eq_ok_iff hobject
  rw [targetOf_request] at hchecked
  dsimp only at hchecked
  rw [toAsciiUppercase_eq_empty] at hchecked
  have hmodes : ¬ (1 < false.toNat + item.p2p.toNat + false.toNat ∨
      ("" ≠ "" ∧ 0 < false.toNat + item.p2p.toNat + false.toNat)) := by
    cases item.p2p
    all_goals decide
  constructor
  · rintro ⟨hok, -⟩ hcode
    have hstate := (hchecked.mp hok).2.1
    by_contra hnot
    exact hstate ⟨not_and_or.mp hnot, hcode⟩
  · intro hcode
    refine ⟨hchecked.mpr ⟨hmodes, ?_, ?_, ?_⟩, fun hexclude => ?_⟩
    · rintro ⟨hname, hempty⟩
      obtain ⟨hstate, hcity⟩ := hcode hempty
      exact hname.elim (fun h => h hstate) fun h => h hcity
    · exact fun h => h.1 rfl
    · exact fun h => Bool.false_ne_true h.1
    · rw [targetOf_request] at hexclude
      cases hexclude

end LocationItem

section selectable

variable {catalog : ServerCatalog} {tier : UInt8} {excluded : List ExcludedLocation}
  {deviceCountry : String} {validate : PhysicalServer → Bool}

/-- A server that an item of the listing comes from. -/
structure Source (catalog : ServerCatalog) (tier : UInt8) (item : LocationItem)
    (server : LogicalServer) : Prop where
  mem : server ∈ consumers catalog tier
  code : server.countryCode = item.code
  place : (item.state = "" ∧ item.city = "" ∧ item.p2p = false) ∨
    ((item.state ≠ "" ∨ item.city ≠ "") ∧ item.lists server = true ∧
      canonicalState catalog server = item.state ∧ (item.city = "" ∨ server.city = item.city))

/-- A server has the names of an item as a request spells them: without blanks around them, the
code in upper case. -/
structure Spelled (catalog : ServerCatalog) (item : LocationItem) (server : LogicalServer) :
    Prop where
  code : trim item.code ≠ "" → server.exitCountry = toAsciiUppercase (trim item.code)
  state : trim item.state ≠ "" →
    eqIgnoreAsciiCase (canonicalState catalog server) (trim item.state) = true
  city : trim item.city ≠ "" → eqIgnoreAsciiCase server.city (trim item.city) = true
  listed : item.lists server = true

theorem fits_request_iff {item : LocationItem} {server : LogicalServer} :
    (targetOf item.request).Fits catalog deviceCountry server ↔ Spelled catalog item server := by
  rw [LocationItem.targetOf_request]
  have hfeatures : Target.hasFeatures {
      serverName := "", countryCode := toAsciiUppercase (trim item.code), entryCountryCode := ""
      stateName := trim item.state, cityName := trim item.city, gatewayName := ""
      excludeServerName := "", secureCore := false, p2p := item.p2p, tor := false
      randomTarget := false, randomServer := false, excludeMyCountry := false
      freeRandom := false } server = true ↔ (item.p2p = true → server.has FEATURE_P2P = true) := by
    rw [Target.hasFeatures_iff]
    simp
  have hcode : toAsciiUppercase (trim item.code) ≠ "" ↔ trim item.code ≠ "" :=
    LocationItem.toAsciiUppercase_eq_empty.not
  constructor
  · intro h
    refine ⟨fun hne => h.country (hcode.mpr hne), h.state, h.city, ?_⟩
    unfold LocationItem.lists
    cases hp2p : item.p2p with
    | true => exact hfeatures.mp h.features hp2p
    | false => exact h.standard rfl hp2p rfl rfl
  · intro h
    have hlisted := h.listed
    unfold LocationItem.lists at hlisted
    refine ⟨fun hne => absurd rfl hne, fun hne => h.code (hcode.mp hne),
      fun hfalse => absurd hfalse Bool.false_ne_true, fun hne => absurd rfl hne, h.state, h.city,
      hfeatures.mpr fun hp2p => ?_, fun _ hp2p _ _ => ?_,
      fun hfalse => absurd hfalse Bool.false_ne_true, fun hne => absurd rfl hne⟩
    · rwa [hp2p] at hlisted
    · have hp2p : item.p2p = false := hp2p
      rwa [hp2p] at hlisted

/-- An item can be chosen: a request for it answers with a server of its location. -/
def Selectable (catalog : ServerCatalog) (tier : UInt8) (excluded : List ExcludedLocation)
    (deviceCountry : String) (validate : PhysicalServer → Bool) (item : LocationItem) : Prop :=
  ∀ draws, ∃ result,
    selectValidated catalog item.request tier excluded deviceCountry validate draws =
      .ok result ∧ Spelled catalog item result.logical

/-- Some enabled server within the tier has the names of the item as a request spells them, is of
the kind that the list is made of, and has an endpoint; and where the code is blank, so are the
other names, and the server is not excluded. -/
structure Reachable (catalog : ServerCatalog) (tier : UInt8) (excluded : List ExcludedLocation)
    (validate : PhysicalServer → Bool) (item : LocationItem) : Prop where
  code : trim item.code = "" → trim item.state = "" ∧ trim item.city = ""
  server : ∃ server ∈ catalog.logicalServers, server.enabled = true ∧ server.tier ≤ tier ∧
    Usable validate server ∧ Spelled catalog item server ∧
    (trim item.code = "" → 0 < tier → ∀ location ∈ excluded,
      excludedLocationMatches location server (canonicalState catalog server) = false)

/-- The state of a server does not change when it is filled in. -/
theorem canonicalState_fill (server : LogicalServer) :
    canonicalState catalog { server with state := canonicalState catalog server } =
      canonicalState catalog server := by
  by_cases hblank : trim server.state = ""
  · by_cases hcanonical : trim (canonicalState catalog server) = ""
    · -- Both are blank: the state is that of the city, which is the same.
      have hfilled : canonicalState catalog
          { server with state := canonicalState catalog server } = canonicalState catalog server :=
        (if_neg (not_not.mpr hcanonical)).trans (if_neg (not_not.mpr hblank)).symm
      exact hfilled
    · exact if_pos hcanonical
  · have hstate : canonicalState catalog server = server.state := if_pos hblank
    rw [hstate]
    exact hstate

theorem Spelled.fill {item : LocationItem} {server : LogicalServer}
    (h : Spelled catalog item server) :
    Spelled catalog item { server with state := canonicalState catalog server } :=
  ⟨h.code, fun hne => by rw [canonicalState_fill]; exact h.state hne, h.city, h.listed⟩

theorem explicitLocation_request {item : LocationItem} :
    (targetOf item.request).explicitLocation = false ↔
      trim item.code = "" ∧ trim item.state = "" ∧ trim item.city = "" := by
  rw [LocationItem.targetOf_request]
  unfold Target.explicitLocation
  simp [LocationItem.toAsciiUppercase_eq_empty, and_assoc]

theorem selectable_iff {item : LocationItem} :
    Selectable catalog tier excluded deviceCountry validate item ↔
      Reachable catalog tier excluded validate item := by
  have hname : (targetOf item.request).serverName = "" := by
    rw [LocationItem.targetOf_request]
  constructor
  · intro h
    obtain ⟨result, hresult, -⟩ := h firstDraws
    have hcode := (item.accepted_request_iff deviceCountry).mp (accepted_of_eq_ok hresult)
    obtain ⟨server, hselects⟩ := selects_of_eq_ok hresult
    refine ⟨hcode, server, hselects.mem, hselects.enabled, hselects.tier_le,
      ⟨result.physical, hselects.physical_mem, hselects.physical_active,
        hselects.physical_valid⟩, fits_request_iff.mp (hselects.fits hname), ?_⟩
    intro hblank htier
    exact hselects.allowed htier (explicitLocation_request.mpr ⟨hblank, hcode hblank⟩)
  · rintro ⟨hcode, server, hmem, henabled, htier, husable, hspelled, hallowed⟩ draws
    have haccepted := (item.accepted_request_iff deviceCountry).mpr hcode
    have heligible : Eligible catalog (targetOf item.request) tier (deviceCode deviceCountry)
        validate server := ⟨hmem, henabled, htier, fits_request_iff.mpr hspelled, husable⟩
    rcases selectValidated_of_eligible haccepted hname heligible with
      ⟨result, hresult⟩ | ⟨-, hexcludes⟩
    · obtain ⟨chosen, hselects⟩ := selects_of_eq_ok hresult
      refine ⟨result, hresult, ?_⟩
      rw [hselects.logical]
      exact (fits_request_iff.mp (hselects.fits hname)).fill
    · have hnot : (targetOf item.request).excludes catalog tier excluded server = false := by
        refine Target.excludes_eq_false_iff.mpr fun hpaid hexplicit => ?_
        exact hallowed (explicitLocation_request.mp hexplicit).1 hpaid
      rw [hnot] at hexcludes
      cases hexcludes

/-- The catalog spells the names of an item as a request does: the code of the country is listed as
the server has it, and no name has blanks around it. -/
structure WellSpelled (item : LocationItem) (server : LogicalServer) : Prop where
  country : server.exitCountry = item.code
  code : trim item.code = item.code
  state : trim item.state = item.state
  city : trim item.city = item.city

/-- An item is reached by a server it comes from, if that one is well spelled and of the kind the
list is made of. -/
theorem reachable_of_source {item : LocationItem} {server : LogicalServer}
    (h : Source catalog tier item server) (henabled : server.enabled = true)
    (husable : Usable validate server) (hlisted : item.lists server = true)
    (hspelled : WellSpelled item server) : Reachable catalog tier excluded validate item := by
  obtain ⟨hmem, hconsumer⟩ := List.mem_filter.mp h.mem
  simp only [Bool.and_eq_true, decide_eq_true_eq] at hconsumer
  have hcode : trim item.code ≠ "" := by
    rw [hspelled.code, ← hspelled.country]
    exact hconsumer.2
  have hcountry : server.exitCountry = toAsciiUppercase (trim item.code) := by
    rw [hspelled.code, hspelled.country, ← hspelled.country]
    exact hspelled.country.trans h.code.symm
  refine ⟨fun hblank => absurd hblank hcode, server, hmem, henabled, hconsumer.1.1, husable,
    ⟨fun _ => hcountry, ?_, ?_, hlisted⟩, fun hblank => absurd hblank hcode⟩
  · rw [hspelled.state]
    intro hne
    rcases h.place with ⟨hempty, -⟩ | ⟨-, -, hcanonical, -⟩
    · exact absurd hempty hne
    · rw [hcanonical]
      exact decide_eq_true rfl
  · rw [hspelled.city]
    intro hne
    rcases h.place with ⟨-, hempty, -⟩ | ⟨-, -, -, hempty | hserver⟩
    · exact absurd hempty hne
    · exact absurd hempty hne
    · rw [hserver]
      exact decide_eq_true rfl

/-- **A listed item can be chosen**, if it comes from an enabled server that has an endpoint, is
well spelled, and is of the kind the list is made of: a P2P server for the P2P lists, a standard
one for a country and for the other lists. -/
theorem selectable_of_source {item : LocationItem} {server : LogicalServer}
    (h : Source catalog tier item server) (henabled : server.enabled = true)
    (husable : Usable validate server) (hlisted : item.lists server = true)
    (hspelled : WellSpelled item server) :
    Selectable catalog tier excluded deviceCountry validate item :=
  selectable_iff.mpr (reachable_of_source h henabled husable hlisted hspelled)

/-! ### The sources of the items -/

theorem mem_subdivisions_iff {servers : List LogicalServer} {state : String × List String} :
    state ∈ subdivisions catalog servers ↔
      (∃ server ∈ servers, canonicalState catalog server = state.1) ∧
        state.2 = textSet (((servers.filter fun server =>
          canonicalState catalog server = state.1).map LogicalServer.city).filter (· ≠ "")) := by
  obtain ⟨name, cities⟩ := state
  unfold subdivisions
  simp only [List.mem_map, mem_textSet, Prod.mk.injEq]
  constructor
  · rintro ⟨_, hserver, rfl, rfl⟩
    exact ⟨hserver, rfl⟩
  · rintro ⟨hserver, hcities⟩
    exact ⟨name, hserver, rfl, hcities.symm⟩

/-- A city of a state. -/
theorem mem_cities_iff {servers : List LogicalServer} {state : String × List String}
    (h : state ∈ subdivisions catalog servers) {city : String} : city ∈ state.2 ↔
      city ≠ "" ∧ ∃ server ∈ servers, canonicalState catalog server = state.1 ∧
        server.city = city := by
  rw [(mem_subdivisions_iff.mp h).2, mem_textSet, List.mem_filter, List.mem_map, and_comm,
    decide_eq_true_eq]
  simp only [List.mem_filter, decide_eq_true_eq, and_assoc]

theorem mem_subdivisionItems_iff {servers : List LogicalServer} {code : String} {p2p : Bool}
    {item : LocationItem} : item ∈ subdivisionItems code p2p
        (serializedSubdivisions (subdivisions catalog servers)).1
        (serializedSubdivisions (subdivisions catalog servers)).2 ↔
      item.code = code ∧ item.p2p = p2p ∧ (item.state ≠ "" ∨ item.city ≠ "") ∧
        ∃ server ∈ servers, canonicalState catalog server = item.state ∧
          (item.city = "" ∨ server.city = item.city) := by
  unfold subdivisionItems serializedSubdivisions
  rw [List.mem_append, List.mem_flatMap, List.mem_map]
  constructor
  · rintro (⟨state, hstate, hitem⟩ | ⟨city, hcity, rfl⟩)
    · obtain ⟨hmem, hname⟩ := List.mem_filter.mp hstate
      rw [decide_eq_true_eq] at hname
      rcases List.mem_cons.mp hitem with rfl | hitem
      · obtain ⟨server, hserver, hcanonical⟩ := (mem_subdivisions_iff.mp hmem).1
        exact ⟨rfl, rfl, .inl hname, server, hserver, hcanonical, .inl rfl⟩
      · obtain ⟨city, hcity, rfl⟩ := List.mem_map.mp hitem
        obtain ⟨-, server, hserver, hcanonical, hat⟩ := (mem_cities_iff hmem).mp hcity
        exact ⟨rfl, rfl, .inl hname, server, hserver, hcanonical, .inr hat⟩
    · obtain ⟨state, hstate, hcity⟩ := List.mem_flatMap.mp hcity
      obtain ⟨hmem, hname⟩ := List.mem_filter.mp hstate
      rw [decide_eq_true_eq] at hname
      obtain ⟨hne, server, hserver, hcanonical, hat⟩ := (mem_cities_iff hmem).mp hcity
      exact ⟨rfl, rfl, .inr hne, server, hserver, hcanonical.trans hname, .inr hat⟩
  · obtain ⟨code', name, city, p2p'⟩ := item
    rintro ⟨rfl, rfl, hplace, server, hserver, hcanonical, hcity⟩
    dsimp only at hplace hcanonical hcity
    have hmem : (name, textSet (((servers.filter fun server =>
        canonicalState catalog server = name).map LogicalServer.city).filter (· ≠ ""))) ∈
          subdivisions catalog servers :=
      mem_subdivisions_iff.mpr ⟨⟨server, hserver, hcanonical⟩, rfl⟩
    by_cases hname : name = ""
    · have hne := hplace.resolve_left (not_not.mpr hname)
      refine .inr ⟨city, List.mem_flatMap.mpr ⟨_, List.mem_filter.mpr ⟨hmem, ?_⟩, ?_⟩, ?_⟩
      · exact decide_eq_true hname
      · exact (mem_cities_iff hmem).mpr ⟨hne, server, hserver, hcanonical,
          hcity.resolve_left hne⟩
      · rw [hname]
    · refine .inl ⟨_, List.mem_filter.mpr ⟨hmem, decide_eq_true hname⟩, ?_⟩
      by_cases hempty : city = ""
      · rw [hempty]
        exact List.mem_cons_self
      · refine List.mem_cons_of_mem _ (List.mem_map.mpr ⟨city, ?_, rfl⟩)
        exact (mem_cities_iff hmem).mpr ⟨hempty, server, hserver, hcanonical,
          hcity.resolve_left hempty⟩

/-- The listed items are those that come from a server. -/
theorem mem_listedItems_iff {names : CountryNames} {item : LocationItem} :
    item ∈ listedItems names catalog tier ↔ ∃ server, Source catalog tier item server := by
  unfold listedItems locations
  simp only [List.mem_flatMap, List.mem_insertionSort, List.mem_map, mem_textSet]
  constructor
  · rintro ⟨_, ⟨code, ⟨server, hserver, hcode⟩, rfl⟩, hitem⟩
    unfold Country.items countryEntry at hitem
    rw [List.mem_cons, List.mem_append, mem_subdivisionItems_iff, mem_subdivisionItems_iff] at hitem
    rcases hitem with rfl | ⟨rfl, hp2p, hplace, other, hother, hcanonical, hcity⟩ |
      ⟨rfl, hp2p, hplace, other, hother, hcanonical, hcity⟩
    · exact ⟨server, hserver, hcode, .inl ⟨rfl, rfl, rfl⟩⟩
    all_goals
      obtain ⟨hother, hlisted⟩ := List.mem_filter.mp hother
      obtain ⟨hother, hat⟩ := List.mem_filter.mp hother
      refine ⟨other, hother, of_decide_eq_true hat, .inr ⟨hplace, ?_, hcanonical, hcity⟩⟩
      unfold LocationItem.lists
      rw [hp2p]
      exact hlisted
  · rintro ⟨server, hserver, hcode, hplace⟩
    refine ⟨_, ⟨item.code, ⟨server, hserver, hcode⟩, rfl⟩, ?_⟩
    unfold Country.items countryEntry
    rw [List.mem_cons, List.mem_append, mem_subdivisionItems_iff, mem_subdivisionItems_iff]
    have hat : server ∈ (consumers catalog tier).filter fun server =>
        server.countryCode = item.code := List.mem_filter.mpr ⟨hserver, decide_eq_true hcode⟩
    rcases hplace with ⟨hstate, hcity, hp2p⟩ | ⟨hne, hlisted, hcanonical, hcity⟩
    · obtain ⟨code, state, city, p2p⟩ := item
      dsimp only at hstate hcity hp2p
      rw [hstate, hcity, hp2p]
      exact .inl rfl
    · unfold LocationItem.lists at hlisted
      cases hp2p : item.p2p with
      | false =>
          rw [hp2p] at hlisted
          exact .inr (.inl ⟨rfl, rfl, hne, server, List.mem_filter.mpr ⟨hat, hlisted⟩, hcanonical,
            hcity⟩)
      | true =>
          rw [hp2p] at hlisted
          exact .inr (.inr ⟨rfl, rfl, hne, server, List.mem_filter.mpr ⟨hat, hlisted⟩, hcanonical,
            hcity⟩)

/-- Every listed item that comes from an enabled server with an endpoint can be chosen. -/
def ItemsSelectable (names : CountryNames) (catalog : ServerCatalog) (tier : UInt8)
    (excluded : List ExcludedLocation) (deviceCountry : String)
    (validate : PhysicalServer → Bool) : Prop :=
  ∀ item ∈ listedItems names catalog tier,
    (∃ server, Source catalog tier item server ∧ server.enabled = true ∧ Usable validate server) →
      Selectable catalog tier excluded deviceCountry validate item

/-- The listed items can be chosen exactly if each of them is spelled as some server that can be
chosen. -/
theorem itemsSelectable_iff {names : CountryNames} :
    ItemsSelectable names catalog tier excluded deviceCountry validate ↔
      ∀ item ∈ listedItems names catalog tier,
        (∃ server, Source catalog tier item server ∧ server.enabled = true ∧
          Usable validate server) → Reachable catalog tier excluded validate item :=
  forall_congr' fun _ => forall_congr' fun _ => forall_congr' fun _ => selectable_iff

end selectable

theorem source_newYork : Source { logicalServers := [usServer] } 0
    ⟨"US", "New York", "New York", false⟩ usServer :=
  ⟨by decide +kernel, by decide +kernel, .inr ⟨.inl (by decide), by decide, by decide +kernel,
    .inr rfl⟩⟩

/-- The city of a server. -/
theorem selectable_newYork : Selectable { logicalServers := [usServer] } 0 [] "" (fun _ => true)
    ⟨"US", "New York", "New York", false⟩ :=
  selectable_of_source source_newYork (by decide) ⟨_, List.mem_cons_self, rfl, rfl⟩ (by decide)
    ⟨rfl, by decide +kernel, by decide +kernel, by decide +kernel⟩

/-- A server whose country is written in lower case, and a server of Tor only. -/
def lowerServer : LogicalServer := { usServer with exitCountry := "us" }

def torServer : LogicalServer := { usServer with features := FEATURE_TOR }

/-- The country of the one server of a catalog, as it is listed. -/
theorem source_country {server : LogicalServer} {code : String} (hcode : server.countryCode = code)
    (hmem : server ∈ consumers { logicalServers := [server] } 0) :
    Source { logicalServers := [server] } 0 ⟨code, "", "", false⟩ server :=
  ⟨hmem, hcode, .inl ⟨rfl, rfl, rfl⟩⟩

/-- The country of either of them is listed, and cannot be chosen. -/
theorem not_itemsSelectable :
    ¬ ItemsSelectable (fun _ => none) { logicalServers := [lowerServer] } 0 [] "" (fun _ => true) ∧
      ¬ ItemsSelectable (fun _ => none) { logicalServers := [torServer] } 0 [] "" fun _ => true := by
  suffices h : ∀ server ∈ [lowerServer, torServer],
      ¬ ItemsSelectable (fun _ => none) { logicalServers := [server] } 0 [] "" fun _ => true by
    exact ⟨h lowerServer (.head _), h torServer (.tail _ (.head _))⟩
  intro server hserver h
  have hlisted : ∀ server ∈ [lowerServer, torServer], server.countryCode = "US" ∧
      server ∈ consumers { logicalServers := [server] } 0 ∧ server.enabled = true := by
    decide +kernel
  have hfails : ∀ server ∈ [lowerServer, torServer],
      selectValidated { logicalServers := [server] } (LocationItem.request ⟨"US", "", "", false⟩)
        0 [] "" (fun _ => true) firstDraws = .error serverNotFound := by
    decide +kernel
  have husable : ∀ server ∈ [lowerServer, torServer], Usable (fun _ => true) server := by
    intro server hserver
    refine ⟨{ id := "1", status := 1 }, ?_, rfl, rfl⟩
    revert server
    decide
  obtain ⟨hcode, hmem, henabled⟩ := hlisted server hserver
  have hsource := source_country hcode hmem
  obtain ⟨result, hresult, -⟩ := h _ (mem_listedItems_iff.mpr ⟨server, hsource⟩)
    ⟨server, hsource, henabled, husable server hserver⟩ firstDraws
  rw [hfails server hserver] at hresult
  cases hresult

end ProtonVpnOmarchy.Agent.Catalog
