import ProtonVpnOmarchy.Agent.Catalog.Basic
import ProtonVpnOmarchy.Agent.Backend.ConnectParams
import ProtonVpnOmarchy.Agent.Store.Basic
import ProtonVpnOmarchy.Lib.Retry

/-!
# The choice of a server

`catalog.rs` `select_validated`: a logical server is chosen among those that fit the target, and one
of its endpoints at random. A logical server without a valid endpoint is put aside, and another one
is chosen. Which endpoints are valid, and what the random numbers are, are parameters.

* `Target`, `Target.admits` — what a target asks for.
* `selectValidated` — the choice, as attempts on the servers that are left.
* `selectValidated_ends` — what is known of a server that is chosen, and of an error.
-/

namespace ProtonVpnOmarchy.Agent.Catalog

open Lib Splitd Store Backend

/-! ## Targets -/

/-- `str::eq_ignore_ascii_case` -/
def eqIgnoreAsciiCase (a b : String) : Bool := toAsciiLowercase a = toAsciiLowercase b

/-- The fields of a target that the choice depends on. -/
structure Target where
  serverName : String
  countryCode : String
  entryCountryCode : String
  stateName : String
  cityName : String
  gatewayName : String
  secureCore : Bool
  p2p : Bool
  tor : Bool
  randomTarget : Bool
  randomServer : Bool
  excludeMyCountry : Bool
  freeRandom : Bool
  excludeServerName : String
  deriving DecidableEq

def readTarget (target : Map) : Target where
  serverName := objectString target "server_name"
  countryCode := toAsciiUppercase (objectString target "country_code")
  entryCountryCode := toAsciiUppercase (objectString target "entry_country_code")
  stateName := objectString target "state"
  cityName := objectString target "city"
  gatewayName := objectString target "gateway_name"
  secureCore := objectBool target "secure_core"
  p2p := objectBool target "p2p"
  tor := objectBool target "tor"
  randomTarget := objectBool target "random"
  randomServer := objectBool target "random_server"
  excludeMyCountry := objectBool target "exclude_my_country"
  freeRandom := objectBool target "free_random"
  excludeServerName := objectString target "exclude_server_name"

/-- Source: `catalog.rs` `excluded_location_matches` -/
def excludedLocationMatches (location : ExcludedLocation) (server : LogicalServer)
    (state : String) : Bool :=
  if server.has FEATURE_SECURE_CORE && location.kind = "country" &&
      eqIgnoreAsciiCase server.entryCountry location.countryCode then true
  else if !eqIgnoreAsciiCase server.exitCountry location.countryCode then false
  else
    match location.kind with
    | "country" => true
    | "state" => eqIgnoreAsciiCase state location.state
    | "city" =>
      (location.state = "" || eqIgnoreAsciiCase state location.state) &&
        eqIgnoreAsciiCase server.city location.city
    | _ => false

namespace Target

variable (target : Target)

/-- A server has the features that are asked for. -/
def hasFeatures (server : LogicalServer) : Bool :=
  (!target.secureCore || server.has FEATURE_SECURE_CORE) &&
    (!target.p2p || server.has FEATURE_P2P) && (!target.tor || server.has FEATURE_TOR)

/-- A server passes the filters. -/
def admits (catalog : ServerCatalog) (deviceCountry : String) (server : LogicalServer) : Bool :=
  (target.gatewayName = "" || server.gateway = target.gatewayName) &&
    (target.countryCode = "" || server.exitCountry = target.countryCode) &&
    (!target.excludeMyCountry || !eqIgnoreAsciiCase server.exitCountry deviceCountry) &&
    (target.entryCountryCode = "" ||
      eqIgnoreAsciiCase server.entryCountry target.entryCountryCode) &&
    (target.stateName = "" ||
      eqIgnoreAsciiCase (canonicalState catalog server) target.stateName) &&
    (target.cityName = "" || eqIgnoreAsciiCase server.city target.cityName) &&
    target.hasFeatures server &&
    (target.secureCore || target.p2p || target.tor || target.gatewayName ≠ "" ||
      server.standard) &&
    (!target.freeRandom || server.tier = 0) &&
    (target.excludeServerName = "" || !eqIgnoreAsciiCase server.name target.excludeServerName)

/-- The target names a location or a server. -/
def explicitLocation : Bool :=
  target.serverName ≠ "" || target.countryCode ≠ "" || target.entryCountryCode ≠ "" ||
    target.stateName ≠ "" || target.cityName ≠ "" || target.gatewayName ≠ ""

/-- The excluded locations are left out. -/
def leavesOut (tier : UInt8) (excluded : List ExcludedLocation) : Bool :=
  0 < tier && !target.explicitLocation && excluded ≠ []

/-- A server lies in an excluded location, if these are left out. -/
def excludes (catalog : ServerCatalog) (tier : UInt8) (excluded : List ExcludedLocation)
    (server : LogicalServer) : Bool :=
  target.leavesOut tier excluded && excluded.any fun location =>
    excludedLocationMatches location server (canonicalState catalog server)

end Target

/-! ## The choice -/

/-- The random numbers of each round. -/
structure Draws where
  country : ℕ → ℕ
  server : ℕ → ℕ
  endpoint : ℕ → ℕ

/-- A logical server and its place in the catalog. -/
abbrev Candidate := LogicalServer × ℕ

/-- The order of the scores. -/
def ScoredBefore (left right : Candidate) : Prop := left.1.score ≤ right.1.score

instance : DecidableRel ScoredBefore := fun _ _ => inferInstanceAs (Decidable (_ ≤ _))

/-- The texts in order, each once; `BTreeSet`. -/
def textSet (texts : List String) : List String := texts.dedup.insertionSort (· ≤ ·)

def serverNotFound : BackendError :=
  .new "server_not_found" "No available Proton server matches this target"

def serverValidationFailed : BackendError where
  code := "server_validation_failed"
  message := "No verified endpoint is available for this connection"
  retryable := true

def serverFeatureMismatch : BackendError :=
  .new "server_feature_mismatch" "Selected server does not provide the requested feature"

def allCandidatesExcluded : BackendError :=
  .new "all_candidates_excluded"
    "Every available server for this connection is in Excluded locations"

def deviceLocationUnavailable : BackendError where
  code := "device_location_unavailable"
  message := "The current country is unavailable, so it cannot be excluded"
  retryable := true

section choice

variable (catalog : ServerCatalog) (target : Target) (tier : UInt8)
  (excluded : List ExcludedLocation) (deviceCountry : String)
  (validate : PhysicalServer → Bool) (draws : Draws)

/-- The candidates of one country at random, if the target asks for it. -/
def restrictCountry (draw : ℕ) (candidates : List Candidate) : List Candidate :=
  if target.randomTarget || target.freeRandom then
    let selected := pick draw (textSet (candidates.map fun candidate => candidate.1.exitCountry))
    candidates.filter fun candidate => selected = some candidate.1.exitCountry
  else candidates

/-- One of the candidates at random, or the best one; the sort is stable, as `sort_by` is. -/
def takeCandidate (draw : ℕ) (candidates : List Candidate) : Option Candidate :=
  if target.randomServer then pick draw candidates
  else (candidates.insertionSort ScoredBefore).head?

/-- The candidates of a target without a server name. -/
def fitting (left : List Candidate) : List Candidate :=
  left.filter fun candidate => target.admits catalog deviceCountry candidate.1

/-- The candidates outside of the excluded locations. -/
def allowed (candidates : List Candidate) : List Candidate :=
  candidates.filter fun candidate => !target.excludes catalog tier excluded candidate.1

/-- The candidate of a round. -/
def chooseCandidate (round : ℕ) (left : List Candidate) : NativeResult (Option Candidate) :=
  if target.serverName ≠ "" then
    .ok (left.find? fun candidate => eqIgnoreAsciiCase candidate.1.name target.serverName)
  else
    let candidates := fitting catalog target deviceCountry left
    let kept := allowed catalog target tier excluded candidates
    if target.leavesOut tier excluded ∧ candidates ≠ [] ∧ kept = [] then
      .error allCandidatesExcluded
    else
      .ok (takeCandidate target (draws.server round)
        (restrictCountry target (draws.country round) kept))

/-- The logical server of a round. -/
def chooseLogical (round : ℕ) (left : List Candidate) : NativeResult Candidate := do
  let chosen ← chooseCandidate catalog target tier excluded deviceCountry draws round left
  let logical ← okOrElse chosen (if round = 0 then serverNotFound else serverValidationFailed)
  reject (¬ target.hasFeatures logical.1) serverFeatureMismatch
  return logical

/-- The endpoints of a logical server that can be used. -/
def endpoints (server : LogicalServer) : List PhysicalServer :=
  server.servers.filter fun physical => physical.status = 1 && validate physical

/-- The logical server with one of its endpoints. -/
def chooseEndpoint (round : ℕ) (candidate : Candidate) : Option ConnectionTarget :=
  (pick (draws.endpoint round) (endpoints validate candidate.1)).map fun physical => {
    logical := { candidate.1 with state := canonicalState catalog candidate.1 }
    physical := physical }

/-- No other server is tried. -/
def giveUp (left : List Candidate) : Option BackendError :=
  if target.serverName ≠ "" ∨ left = [] then some serverValidationFailed else none

/-- The servers that are on and within the tier. -/
def available : List Candidate :=
  catalog.logicalServers.zipIdx.filter fun candidate =>
    candidate.1.enabled && candidate.1.tier ≤ tier

end choice

/-- Source: `catalog.rs` `ServerCatalog::select_validated` -/
def selectValidated (catalog : ServerCatalog) (params : Value) (tier : UInt8)
    (excluded : List ExcludedLocation) (deviceCountry : String)
    (validate : PhysicalServer → Bool) (draws : Draws) : NativeResult ConnectionTarget := do
  checkTarget params
  let target := readTarget (((params.get "target").bind Value.asObject).getD [])
  let deviceCountry := toAsciiUppercase (trim deviceCountry)
  reject (target.excludeMyCountry ∧ deviceCountry = "") deviceLocationUnavailable
  retry (chooseLogical catalog target tier excluded deviceCountry draws)
    (chooseEndpoint catalog validate draws) (giveUp target) serverValidationFailed
    ((available catalog tier).length + 1) 0 (available catalog tier)

/-! ## What a target asks for -/

/-- A server satisfies the constraints of a target without a server name. -/
structure Target.Fits (target : Target) (catalog : ServerCatalog) (deviceCountry : String)
    (server : LogicalServer) : Prop where
  gateway : target.gatewayName ≠ "" → server.gateway = target.gatewayName
  country : target.countryCode ≠ "" → server.exitCountry = target.countryCode
  notMyCountry : target.excludeMyCountry = true →
    eqIgnoreAsciiCase server.exitCountry deviceCountry = false
  entryCountry : target.entryCountryCode ≠ "" →
    eqIgnoreAsciiCase server.entryCountry target.entryCountryCode = true
  state : target.stateName ≠ "" →
    eqIgnoreAsciiCase (canonicalState catalog server) target.stateName = true
  city : target.cityName ≠ "" → eqIgnoreAsciiCase server.city target.cityName = true
  features : target.hasFeatures server = true
  standard : target.secureCore = false → target.p2p = false → target.tor = false →
    target.gatewayName = "" → server.standard = true
  free : target.freeRandom = true → server.tier = 0
  notServer : target.excludeServerName ≠ "" →
    eqIgnoreAsciiCase server.name target.excludeServerName = false

theorem or_decide_iff {p : Prop} [Decidable p] {b : Bool} :
    (decide p || b) = true ↔ (¬ p → b = true) := by
  rw [Bool.or_eq_true, decide_eq_true_eq, or_iff_not_imp_left]

theorem not_or_iff {a b : Bool} : (!a || b) = true ↔ (a = true → b = true) := by
  cases a
  · simp
  · simp

theorem Target.hasFeatures_iff {target : Target} {server : LogicalServer} :
    target.hasFeatures server = true ↔
      (target.secureCore = true → server.has FEATURE_SECURE_CORE = true) ∧
      (target.p2p = true → server.has FEATURE_P2P = true) ∧
      (target.tor = true → server.has FEATURE_TOR = true) := by
  unfold hasFeatures
  simp only [Bool.and_eq_true, not_or_iff, and_assoc]

theorem Target.admits_iff {target : Target} {catalog : ServerCatalog} {deviceCountry : String}
    {server : LogicalServer} :
    target.admits catalog deviceCountry server = true ↔
      target.Fits catalog deviceCountry server := by
  have hstandard : (target.secureCore || target.p2p || target.tor ||
      decide (target.gatewayName ≠ "") || server.standard) = true ↔
        (target.secureCore = false → target.p2p = false → target.tor = false →
          target.gatewayName = "" → server.standard = true) := by
    cases target.secureCore <;> cases target.p2p <;> cases target.tor <;>
      simp
    exact or_iff_not_imp_left.trans (by simp)
  unfold admits
  simp only [Bool.and_eq_true, or_decide_iff, not_or_iff, hstandard, decide_eq_true_eq,
    Bool.not_eq_true']
  constructor
  · rintro ⟨⟨⟨⟨⟨⟨⟨⟨⟨h₁, h₂⟩, h₃⟩, h₄⟩, h₅⟩, h₆⟩, h₇⟩, h₈⟩, h₉⟩, h₁₀⟩
    exact ⟨h₁, h₂, h₃, h₄, h₅, h₆, h₇, h₈, h₉, h₁₀⟩
  · rintro ⟨h₁, h₂, h₃, h₄, h₅, h₆, h₇, h₈, h₉, h₁₀⟩
    exact ⟨⟨⟨⟨⟨⟨⟨⟨⟨h₁, h₂⟩, h₃⟩, h₄⟩, h₅⟩, h₆⟩, h₇⟩, h₈⟩, h₉⟩, h₁₀⟩

theorem Target.serverName_eq_of_explicitLocation {target : Target}
    (h : target.explicitLocation = false) : target.serverName = "" := by
  unfold explicitLocation at h
  simp only [Bool.or_eq_false_iff, decide_eq_false_iff_not, not_not] at h
  exact h.1.1.1.1.1

theorem Target.excludes_eq_false_iff {target : Target} {catalog : ServerCatalog} {tier : UInt8}
    {excluded : List ExcludedLocation} {server : LogicalServer} :
    target.excludes catalog tier excluded server = false ↔
      (0 < tier → target.explicitLocation = false → ∀ location ∈ excluded,
        excludedLocationMatches location server (canonicalState catalog server) = false) := by
  unfold excludes leavesOut
  rcases excluded with _ | ⟨location, excluded⟩
  · simp
  · cases target.explicitLocation with
    | true => simp
    | false =>
        by_cases htier : 0 < tier
        · simp [htier]
        · simp [htier]

/-! ## What is chosen -/

section chosen

variable {catalog : ServerCatalog} {target : Target} {tier : UInt8}
  {excluded : List ExcludedLocation} {deviceCountry : String}
  {validate : PhysicalServer → Bool} {draws : Draws}

/-- A logical server with an endpoint that can be used. -/
def Usable (validate : PhysicalServer → Bool) (server : LogicalServer) : Prop :=
  ∃ physical ∈ server.servers, physical.status = 1 ∧ validate physical = true

theorem endpoints_ne_nil_iff {server : LogicalServer} :
    endpoints validate server ≠ [] ↔ Usable validate server := by
  unfold endpoints Usable
  rw [ne_eq, List.filter_eq_nil_iff]
  simp

theorem chooseEndpoint_eq_none {round : ℕ} {candidate : Candidate}
    (h : chooseEndpoint catalog validate draws round candidate = none) :
    ¬ Usable validate candidate.1 := by
  rw [← endpoints_ne_nil_iff, not_not]
  exact pick_eq_none (Option.map_eq_none_iff.mp h)

theorem chooseEndpoint_eq_some {round : ℕ} {candidate : Candidate} {result : ConnectionTarget}
    (h : chooseEndpoint catalog validate draws round candidate = some result) :
    result.logical = { candidate.1 with state := canonicalState catalog candidate.1 } ∧
      result.physical ∈ candidate.1.servers ∧ result.physical.status = 1 ∧
      validate result.physical = true := by
  obtain ⟨physical, hpick, rfl⟩ := Option.map_eq_some_iff.mp h
  obtain ⟨hmem, hvalid⟩ := List.mem_filter.mp (mem_of_pick hpick)
  rw [Bool.and_eq_true, decide_eq_true_eq] at hvalid
  exact ⟨rfl, hmem, hvalid.1, hvalid.2⟩

theorem mem_of_mem_restrictCountry {draw : ℕ} {candidates : List Candidate} {candidate : Candidate}
    (h : candidate ∈ restrictCountry target draw candidates) : candidate ∈ candidates := by
  unfold restrictCountry at h
  split_ifs at h
  · exact (List.mem_filter.mp h).1
  · exact h

theorem mem_textSet {texts : List String} {text : String} :
    text ∈ textSet texts ↔ text ∈ texts := by
  unfold textSet
  rw [List.mem_insertionSort, List.mem_dedup]

/-- Some candidate is in the country that is drawn. -/
theorem restrictCountry_ne_nil {draw : ℕ} {candidates : List Candidate} (h : candidates ≠ []) :
    restrictCountry target draw candidates ≠ [] := by
  unfold restrictCountry
  split_ifs
  · have hcountries : textSet (candidates.map fun candidate => candidate.1.exitCountry) ≠ [] := by
      obtain ⟨candidate, hmem⟩ := List.exists_mem_of_ne_nil _ h
      exact List.ne_nil_of_mem (mem_textSet.mpr (List.mem_map.mpr ⟨candidate, hmem, rfl⟩))
    obtain ⟨country, hcountry⟩ := exists_pick hcountries draw
    obtain ⟨candidate, hmem, rfl⟩ := List.mem_map.mp (mem_textSet.mp (mem_of_pick hcountry))
    refine List.ne_nil_of_mem (a := candidate) (List.mem_filter.mpr ⟨hmem, ?_⟩)
    rw [hcountry]
    exact decide_eq_true rfl
  · exact h

theorem mem_of_takeCandidate {draw : ℕ} {candidates : List Candidate} {candidate : Candidate}
    (h : takeCandidate target draw candidates = some candidate) : candidate ∈ candidates := by
  unfold takeCandidate at h
  split_ifs at h
  · exact mem_of_pick h
  · exact (List.mem_insertionSort _).mp (List.mem_of_head? h)

theorem exists_takeCandidate {draw : ℕ} {candidates : List Candidate} (h : candidates ≠ []) :
    ∃ candidate, takeCandidate target draw candidates = some candidate := by
  unfold takeCandidate
  split_ifs
  · exact exists_pick h draw
  · have hlength : 0 < (candidates.insertionSort ScoredBefore).length := by
      rw [List.length_insertionSort]
      exact List.length_pos_iff.mpr h
    exact ⟨_, List.head?_eq_some_head (List.length_pos_iff.mp hlength)⟩

instance total_scoredBefore : Std.Total ScoredBefore where
  total left right := le_total left.1.score right.1.score

instance isTrans_scoredBefore : IsTrans Candidate ScoredBefore where
  trans _ _ _ := le_trans

/-- The best candidate is no worse than another one. -/
theorem score_le_of_takeCandidate {draw : ℕ} {candidates : List Candidate}
    {candidate other : Candidate} (hrandom : target.randomServer = false)
    (h : takeCandidate target draw candidates = some candidate) (hother : other ∈ candidates) :
    candidate.1.score ≤ other.1.score := by
  unfold takeCandidate at h
  rw [hrandom, if_neg Bool.false_ne_true] at h
  have hsorted := List.pairwise_insertionSort ScoredBefore candidates
  obtain ⟨rest, hrest⟩ := List.head?_eq_some_iff.mp h
  rw [hrest] at hsorted
  have hmem := (List.mem_insertionSort ScoredBefore).mpr hother
  rw [hrest, List.mem_cons] at hmem
  rcases hmem with rfl | hmem
  · exact le_rfl
  · exact List.rel_of_pairwise_cons hsorted hmem

theorem mem_allowed_iff {left : List Candidate} {candidate : Candidate} :
    candidate ∈ allowed catalog target tier excluded (fitting catalog target deviceCountry left) ↔
      candidate ∈ left ∧ target.Fits catalog deviceCountry candidate.1 ∧
        target.excludes catalog tier excluded candidate.1 = false := by
  unfold allowed fitting
  rw [List.mem_filter, List.mem_filter, Target.admits_iff, Bool.not_eq_true', and_assoc]

/-- What is known of the logical server of a round. -/
structure Chosen (catalog : ServerCatalog) (target : Target) (tier : UInt8)
    (excluded : List ExcludedLocation) (deviceCountry : String) (left : List Candidate)
    (candidate : Candidate) : Prop where
  mem : candidate ∈ left
  features : target.hasFeatures candidate.1 = true
  named : target.serverName ≠ "" →
    eqIgnoreAsciiCase candidate.1.name target.serverName = true
  fits : target.serverName = "" → target.Fits catalog deviceCountry candidate.1
  allowed : target.serverName = "" → target.excludes catalog tier excluded candidate.1 = false
  best : target.serverName = "" → target.randomTarget = false → target.randomServer = false →
    target.freeRandom = false → ∀ other ∈ left, target.Fits catalog deviceCountry other.1 →
      target.excludes catalog tier excluded other.1 = false →
        candidate.1.score ≤ other.1.score

theorem chosen_of_chooseLogical {round : ℕ} {left : List Candidate} {candidate : Candidate}
    (h : chooseLogical catalog target tier excluded deviceCountry draws round left =
      .ok candidate) : Chosen catalog target tier excluded deviceCountry left candidate := by
  unfold chooseLogical at h
  obtain ⟨found, hfound, h⟩ := Except.bind_eq_ok.mp h
  obtain ⟨logical, hlogical, h⟩ := Except.bind_eq_ok.mp h
  obtain ⟨⟨⟩, hfeatures, h⟩ := Except.bind_eq_ok.mp h
  obtain rfl := Except.ok.inj h
  have hfeatures := not_not.mp (reject_eq_ok hfeatures)
  obtain rfl := okOrElse_eq_ok hlogical
  unfold chooseCandidate at hfound
  by_cases hname : target.serverName = ""
  · rw [if_neg (not_not.mpr hname)] at hfound
    dsimp only at hfound
    split_ifs at hfound with hall
    have htake := Except.ok.inj hfound
    have hmem := mem_allowed_iff.mp (mem_of_mem_restrictCountry (mem_of_takeCandidate htake))
    refine ⟨hmem.1, hfeatures, fun h => absurd hname h, fun _ => hmem.2.1, fun _ => hmem.2.2, ?_⟩
    intro _ hcountry hserver hfree other hother hfits hexcludes
    refine score_le_of_takeCandidate hserver htake ?_
    unfold restrictCountry
    rw [hcountry, hfree, if_neg (by decide)]
    exact mem_allowed_iff.mpr ⟨hother, hfits, hexcludes⟩
  · rw [if_pos hname] at hfound
    have hfind := Except.ok.inj hfound
    have hnamed : eqIgnoreAsciiCase logical.1.name target.serverName = true :=
      (List.find?_some hfind :)
    exact ⟨List.mem_of_find?_eq_some hfind, hfeatures, fun _ => hnamed,
      fun h => absurd h hname, fun h => absurd h hname, fun h => absurd h hname⟩

/-- A candidate that fits is left: the choice fails only if all candidates are excluded. -/
theorem chooseLogical_eq_error {round : ℕ} {left : List Candidate} {candidate : Candidate}
    {error : BackendError} (hname : target.serverName = "") (hmem : candidate ∈ left)
    (hfits : target.Fits catalog deviceCountry candidate.1)
    (h : chooseLogical catalog target tier excluded deviceCountry draws round left =
      .error error) :
    error = allCandidatesExcluded ∧ target.excludes catalog tier excluded candidate.1 = true := by
  have hfitting : candidate ∈ fitting catalog target deviceCountry left :=
    List.mem_filter.mpr ⟨hmem, Target.admits_iff.mpr hfits⟩
  unfold chooseLogical chooseCandidate at h
  rw [if_neg (not_not.mpr hname)] at h
  dsimp only at h
  by_cases hall : allowed catalog target tier excluded
      (fitting catalog target deviceCountry left) = []
  · have hexcludes : target.excludes catalog tier excluded candidate.1 = true := by
      by_contra hnot
      rw [Bool.not_eq_true] at hnot
      have hallowed := mem_allowed_iff.mpr ⟨hmem, hfits, hnot⟩
      rw [hall] at hallowed
      cases hallowed
    have hleaves : target.leavesOut tier excluded = true := by
      unfold Target.excludes at hexcludes
      exact (Bool.and_eq_true _ _ ▸ hexcludes).1
    rw [if_pos ⟨hleaves, List.ne_nil_of_mem hfitting, hall⟩] at h
    exact ⟨(Except.error.inj h).symm, hexcludes⟩
  · obtain ⟨taken, htaken⟩ : ∃ taken, takeCandidate target (draws.server round)
        (restrictCountry target (draws.country round) (allowed catalog target tier excluded
          (fitting catalog target deviceCountry left))) = some taken :=
      exists_takeCandidate (restrictCountry_ne_nil hall)
    rw [if_neg (fun hcondition => hall hcondition.2.2), htaken] at h
    have hfeatures := (mem_allowed_iff.mp
      (mem_of_mem_restrictCountry (mem_of_takeCandidate htaken))).2.1.features
    change (reject (¬ target.hasFeatures taken.1) serverFeatureMismatch >>= fun _ =>
      Except.ok taken) = _ at h
    rw [reject_of_not (not_not.mpr hfeatures)] at h
    cases h

theorem mem_available_iff {candidate : Candidate} : candidate ∈ available catalog tier ↔
    candidate ∈ catalog.logicalServers.zipIdx ∧ candidate.1.enabled = true ∧
      candidate.1.tier ≤ tier := by
  unfold available
  rw [List.mem_filter, Bool.and_eq_true, decide_eq_true_eq]

theorem exists_candidate {server : LogicalServer} (hmem : server ∈ catalog.logicalServers)
    (henabled : server.enabled = true) (htier : server.tier ≤ tier) :
    ∃ candidate ∈ available catalog tier, candidate.1 = server := by
  obtain ⟨i, hi⟩ := List.mem_iff_getElem?.mp hmem
  exact ⟨(server, i), mem_available_iff.mpr ⟨List.mem_zipIdx_iff_getElem?.mpr hi, henabled, htier⟩,
    rfl⟩

theorem mem_of_mem_zipIdx {candidate : Candidate}
    (h : candidate ∈ catalog.logicalServers.zipIdx) : candidate.1 ∈ catalog.logicalServers :=
  List.mem_of_getElem? (List.mem_zipIdx_iff_getElem?.mp h)

/-- A server is enabled, within the tier, fits the target, and has an endpoint. -/
structure Eligible (catalog : ServerCatalog) (target : Target) (tier : UInt8)
    (deviceCountry : String) (validate : PhysicalServer → Bool) (server : LogicalServer) :
    Prop where
  mem : server ∈ catalog.logicalServers
  enabled : server.enabled = true
  tier_le : server.tier ≤ tier
  fits : target.Fits catalog deviceCountry server
  usable : Usable validate server

/-- What is known of a choice. -/
structure Selects (catalog : ServerCatalog) (target : Target) (tier : UInt8)
    (excluded : List ExcludedLocation) (deviceCountry : String)
    (validate : PhysicalServer → Bool) (server : LogicalServer) (result : ConnectionTarget) :
    Prop where
  mem : server ∈ catalog.logicalServers
  enabled : server.enabled = true
  tier_le : server.tier ≤ tier
  logical : result.logical = { server with state := canonicalState catalog server }
  physical_mem : result.physical ∈ server.servers
  physical_active : result.physical.status = 1
  physical_valid : validate result.physical = true
  features : target.hasFeatures server = true
  named : target.serverName ≠ "" → eqIgnoreAsciiCase server.name target.serverName = true
  fits : target.serverName = "" → target.Fits catalog deviceCountry server
  allowed : 0 < tier → target.explicitLocation = false → ∀ location ∈ excluded,
    excludedLocationMatches location server (canonicalState catalog server) = false
  best : target.serverName = "" → target.randomTarget = false → target.randomServer = false →
    target.freeRandom = false → ∀ other, Eligible catalog target tier deviceCountry validate other →
      target.excludes catalog tier excluded other = false → server.score ≤ other.score

/-- The attempts of a choice. -/
theorem attempts_end : Ends (chooseLogical catalog target tier excluded deviceCountry draws)
    (chooseEndpoint catalog validate draws) (giveUp target)
    (fun candidate => Usable validate candidate.1) (available catalog tier)
    (retry (chooseLogical catalog target tier excluded deviceCountry draws)
      (chooseEndpoint catalog validate draws) (giveUp target) serverValidationFailed
      ((available catalog tier).length + 1) 0 (available catalog tier)) :=
  retry_cases (fun _ _ _ h => (chosen_of_chooseLogical h).mem)
    (fun _ _ h => chooseEndpoint_eq_none h) (Nat.lt_succ_self _) Left.refl

theorem selects_of_retry {result : ConnectionTarget}
    (h : retry (chooseLogical catalog target tier excluded deviceCountry draws)
      (chooseEndpoint catalog validate draws) (giveUp target) serverValidationFailed
      ((available catalog tier).length + 1) 0 (available catalog tier) = .ok result) :
    ∃ server, Selects catalog target tier excluded deviceCountry validate server result := by
  have hends : Ends (chooseLogical catalog target tier excluded deviceCountry draws)
    (chooseEndpoint catalog validate draws) (giveUp target)
    (fun candidate => Usable validate candidate.1) (available catalog tier) (.ok result) :=
    h ▸ attempts_end
  cases hends with
  | @success round left candidate _ hleft hselect hattempt =>
      have hchosen := chosen_of_chooseLogical hselect
      obtain ⟨hlogical, hphysical, hactive, hvalid⟩ := chooseEndpoint_eq_some hattempt
      obtain ⟨hmem, henabled, htier⟩ := mem_available_iff.mp (hleft.sublist.subset hchosen.mem)
      refine ⟨candidate.1, mem_of_mem_zipIdx hmem, henabled, htier, hlogical, hphysical, hactive,
        hvalid, hchosen.features, hchosen.named, hchosen.fits, fun hpaid hexplicit => ?_, ?_⟩
      · exact Target.excludes_eq_false_iff.mp
          (hchosen.allowed (Target.serverName_eq_of_explicitLocation hexplicit)) hpaid hexplicit
      intro hname hcountry hserver hfree other hother hexcludes
      -- a server that can be used is still left
      obtain ⟨entry, hentry, rfl⟩ := exists_candidate hother.mem hother.enabled hother.tier_le
      exact hchosen.best hname hcountry hserver hfree entry
        (hleft.usable_mem entry hentry hother.usable) hother.fits hexcludes

/-- An eligible server is left until one is chosen, unless it lies in an excluded location. -/
theorem retry_of_eligible {server : LogicalServer} (hname : target.serverName = "")
    (h : Eligible catalog target tier deviceCountry validate server) :
    (∃ result, retry (chooseLogical catalog target tier excluded deviceCountry draws)
      (chooseEndpoint catalog validate draws) (giveUp target) serverValidationFailed
      ((available catalog tier).length + 1) 0 (available catalog tier) = .ok result) ∨
    (retry (chooseLogical catalog target tier excluded deviceCountry draws)
      (chooseEndpoint catalog validate draws) (giveUp target) serverValidationFailed
      ((available catalog tier).length + 1) 0 (available catalog tier) =
        .error allCandidatesExcluded ∧
      target.excludes catalog tier excluded server = true) := by
  have hends := @attempts_end catalog target tier excluded deviceCountry validate draws
  obtain ⟨entry, hentry, rfl⟩ := exists_candidate h.mem h.enabled h.tier_le
  generalize retry (chooseLogical catalog target tier excluded deviceCountry draws) _ _ _ _ _ _ =
    outcome at hends ⊢
  cases hends with
  | @success _ _ _ result => exact .inl ⟨result, rfl⟩
  | unselected hleft hselect =>
      obtain ⟨rfl, hexcludes⟩ := chooseLogical_eq_error hname
        (hleft.usable_mem entry hentry h.usable) h.fits hselect
      exact .inr ⟨rfl, hexcludes⟩
  | @givenUp left _ hleft hgiveUp =>
      have hne : left ≠ [] := List.ne_nil_of_mem (hleft.usable_mem entry hentry h.usable)
      unfold giveUp at hgiveUp
      rw [if_neg (by rw [not_or, not_not]; exact ⟨hname, hne⟩)] at hgiveUp
      cases hgiveUp

end chosen

/-! ## Requests -/

section requests

variable {catalog : ServerCatalog} {params : Value} {tier : UInt8}
  {excluded : List ExcludedLocation} {deviceCountry : String}
  {validate : PhysicalServer → Bool} {draws : Draws}

/-- The target of a request. -/
def targetOf (params : Value) : Target :=
  readTarget (((params.get "target").bind Value.asObject).getD [])

/-- The country of the device as it is compared. -/
def deviceCode (deviceCountry : String) : String := toAsciiUppercase (trim deviceCountry)

/-- A request passes the checks that come before the choice. -/
structure Accepted (params : Value) (deviceCountry : String) : Prop where
  checked : checkTarget params = .ok ()
  located : (targetOf params).excludeMyCountry = true → deviceCode deviceCountry ≠ ""

/-- The checks of a target, on its fields. -/
theorem checkTarget_eq_ok_iff {object : Map}
    (h : (params.get "target").bind Value.asObject = some object) :
    checkTarget params = .ok () ↔
      ¬ (1 < (targetOf params).secureCore.toNat + (targetOf params).p2p.toNat +
          (targetOf params).tor.toNat ∨
        ((targetOf params).gatewayName ≠ "" ∧ 0 < (targetOf params).secureCore.toNat +
          (targetOf params).p2p.toNat + (targetOf params).tor.toNat)) ∧
      ¬ (((targetOf params).stateName ≠ "" ∨ (targetOf params).cityName ≠ "") ∧
        (targetOf params).countryCode = "") ∧
      ¬ ((targetOf params).entryCountryCode ≠ "" ∧ ¬ (targetOf params).secureCore = true) ∧
      ¬ ((targetOf params).randomTarget = true ∧ (targetOf params).randomServer = true) := by
  have htarget : targetOf params = readTarget object := by
    unfold targetOf
    rw [h]
    rfl
  rw [htarget]
  unfold checkTarget
  rw [h]
  constructor
  · intro hok
    obtain ⟨object', hobject, hok⟩ := Except.bind_eq_ok.mp hok
    obtain rfl : object = object' := Except.ok.inj hobject
    obtain ⟨⟨⟩, hmodes, hok⟩ := Except.bind_eq_ok.mp hok
    obtain ⟨⟨⟩, hstate, hok⟩ := Except.bind_eq_ok.mp hok
    obtain ⟨⟨⟩, hentry, hok⟩ := Except.bind_eq_ok.mp hok
    exact ⟨reject_eq_ok hmodes, reject_eq_ok hstate, reject_eq_ok hentry, reject_eq_ok hok⟩
  · rintro ⟨hmodes, hstate, hentry, hrandom⟩
    refine Except.bind_eq_ok.mpr ⟨object, rfl, ?_⟩
    refine Except.bind_eq_ok.mpr ⟨(), reject_of_not hmodes _, ?_⟩
    refine Except.bind_eq_ok.mpr ⟨(), reject_of_not hstate _, ?_⟩
    exact Except.bind_eq_ok.mpr ⟨(), reject_of_not hentry _, reject_of_not hrandom _⟩

theorem selectValidated_of_accepted (h : Accepted params deviceCountry) :
    selectValidated catalog params tier excluded deviceCountry validate draws =
      retry (chooseLogical catalog (targetOf params) tier excluded (deviceCode deviceCountry) draws)
        (chooseEndpoint catalog validate draws) (giveUp (targetOf params)) serverValidationFailed
        ((available catalog tier).length + 1) 0 (available catalog tier) := by
  unfold selectValidated
  rw [h.checked]
  change (reject ((targetOf params).excludeMyCountry = true ∧ deviceCode deviceCountry = "")
    deviceLocationUnavailable >>= fun _ => _) = _
  rw [reject_of_not fun hmissing => h.located hmissing.1 hmissing.2]
  rfl

theorem accepted_of_eq_ok {result : ConnectionTarget}
    (h : selectValidated catalog params tier excluded deviceCountry validate draws = .ok result) :
    Accepted params deviceCountry := by
  unfold selectValidated at h
  obtain ⟨⟨⟩, hchecked, h⟩ := Except.bind_eq_ok.mp h
  obtain ⟨⟨⟩, hlocated, -⟩ := Except.bind_eq_ok.mp h
  have hlocated := reject_eq_ok hlocated
  exact ⟨hchecked, fun hexclude hmissing => hlocated ⟨hexclude, hmissing⟩⟩

theorem selects_of_eq_ok {result : ConnectionTarget}
    (h : selectValidated catalog params tier excluded deviceCountry validate draws = .ok result) :
    ∃ server, Selects catalog (targetOf params) tier excluded (deviceCode deviceCountry) validate
      server result := by
  rw [selectValidated_of_accepted (accepted_of_eq_ok h)] at h
  exact selects_of_retry h

theorem selectValidated_of_eligible (h : Accepted params deviceCountry)
    (hname : (targetOf params).serverName = "") {server : LogicalServer}
    (heligible : Eligible catalog (targetOf params) tier (deviceCode deviceCountry) validate
      server) :
    (∃ result, selectValidated catalog params tier excluded deviceCountry validate draws =
        .ok result) ∨
      (selectValidated catalog params tier excluded deviceCountry validate draws =
          .error allCandidatesExcluded ∧
        (targetOf params).excludes catalog tier excluded server = true) := by
  rw [selectValidated_of_accepted h]
  exact retry_of_eligible hname heligible

/-- **What is chosen.** The server and its endpoint can be used; the server satisfies the features,
and the name or, if the target has none, all other constraints, and no better one could be chosen;
and a request that is accepted and names no server does not fail if there is one to choose, unless
all are excluded. -/
theorem selectValidated_correct :
    (∀ result, selectValidated catalog params tier excluded deviceCountry validate draws =
        .ok result → ∃ server, Selects catalog (targetOf params) tier excluded
          (deviceCode deviceCountry) validate server result) ∧
      (Accepted params deviceCountry → (targetOf params).serverName = "" →
        (∃ server, Eligible catalog (targetOf params) tier (deviceCode deviceCountry) validate
          server) →
        (∃ result, selectValidated catalog params tier excluded deviceCountry validate draws =
            .ok result) ∨
          selectValidated catalog params tier excluded deviceCountry validate draws =
            .error allCandidatesExcluded) := by
  refine ⟨fun result h => selects_of_eq_ok h, fun haccepted hname ⟨server, heligible⟩ => ?_⟩
  rcases selectValidated_of_eligible haccepted hname heligible with hok | ⟨herror, -⟩
  · exact .inl hok
  · exact .inr herror

end requests

/-! ## One server -/

/-- A server in the United States. -/
def usServer : LogicalServer where
  id := "1"
  name := "US#1"
  entryCountry := "US"
  exitCountry := "US"
  city := "New York"
  state := "New York"
  status := 1
  servers := [{ id := "1", status := 1 }]

/-- A request with a target. -/
def requestFor (target : List (String × Value)) : Value := .obj [("target", .obj target)]

/-- The first one at random. -/
def firstDraws : Draws := ⟨fun _ => 0, fun _ => 0, fun _ => 0⟩

theorem eligible_usServer {target : Target}
    (h : target.admits { logicalServers := [usServer] } (deviceCode "") usServer = true) :
    Eligible { logicalServers := [usServer] } target 0 (deviceCode "") (fun _ => true)
      usServer where
  mem := List.mem_cons_self
  enabled := by decide
  tier_le := by decide
  fits := Target.admits_iff.mp h
  usable := ⟨_, List.mem_cons_self, rfl, rfl⟩

/-- The server is chosen for its country. -/
theorem selectValidated_correct_us : ∃ result server,
    selectValidated { logicalServers := [usServer] } (requestFor [("country_code", .string "us")])
      0 [] "" (fun _ => true) firstDraws = .ok result ∧
    Selects { logicalServers := [usServer] }
      (targetOf (requestFor [("country_code", .string "us")])) 0 [] (deviceCode "") (fun _ => true)
        server result := by
  have hcorrect := @selectValidated_correct { logicalServers := [usServer] }
    (requestFor [("country_code", .string "us")]) 0 [] "" (fun _ => true) firstDraws
  have haccepted : Accepted (requestFor [("country_code", .string "us")]) "" :=
    ⟨by decide +kernel, fun h => absurd h (by decide +kernel)⟩
  rcases hcorrect.2 haccepted (by decide +kernel)
    ⟨usServer, eligible_usServer (by decide +kernel)⟩ with ⟨result, hresult⟩ | herror
  · obtain ⟨server, hselects⟩ := hcorrect.1 result hresult
    exact ⟨result, server, hresult, hselects⟩
  · exact absurd herror (by decide +kernel)

/-- A server that is named is chosen whatever its country is, and a target with two random modes is
refused though there is a server for it. -/
theorem not_always_correct :
    (∃ result, selectValidated { logicalServers := [usServer] }
        (requestFor [("server_name", .string "US#1"), ("country_code", .string "CH")])
        0 [] "" (fun _ => true) firstDraws = .ok result ∧
      (targetOf (requestFor [("server_name", .string "US#1"),
        ("country_code", .string "CH")])).countryCode = "CH" ∧
      result.logical.exitCountry = "US") ∧
    (Eligible { logicalServers := [usServer] }
        (targetOf (requestFor [("random", .bool true), ("random_server", .bool true)])) 0
        (deviceCode "") (fun _ => true) usServer ∧
      selectValidated { logicalServers := [usServer] }
        (requestFor [("random", .bool true), ("random_server", .bool true)]) 0 [] ""
        (fun _ => true) firstDraws = .error (invalidParams
          "Country-random and server-random selection cannot be combined")) := by
  refine ⟨⟨{ logical := usServer, physical := { id := "1", status := 1 } }, ?_, ?_, rfl⟩,
    eligible_usServer ?_, ?_⟩
  all_goals decide +kernel

end ProtonVpnOmarchy.Agent.Catalog
