import ProtonVpnOmarchy.Agent.Catalog.Basic
import ProtonVpnOmarchy.Lib.Paging

/-!
# Pages of servers

`catalog.rs` `servers_page`: the servers that pass the filters of a request, in one order, cut into
pages. What Unicode says about letters and marks is a parameter.

* `isLE_compareServers_trans` — the order of the servers is a preorder.
* `serversPage_eq` — a page is cut from the sorted servers, whatever its offset and limit are.
* `serversPage_pages` — the pages together are these servers, if the offsets are accepted.
-/

namespace ProtonVpnOmarchy.Agent.Catalog

open Lib Splitd Store

/-! ## Texts -/

/-- Decompositions, combining marks and lower case. -/
structure Unicode where
  nfd : List Char → List Char
  isCombiningMark : Char → Bool
  toLowercase : Char → List Char

section texts

variable (unicode : Unicode)

/-- Source: `catalog.rs` `normalize_search` -/
def normalizeSearch (value : String) : String :=
  .ofList (((unicode.nfd (trim value).toList).filter fun c => !unicode.isCombiningMark c).flatMap
    unicode.toLowercase)

def isNameMark (c : Char) : Bool := c = '#' || c = '-'

/-- Source: `catalog.rs` `compact_server_name` -/
def compactServerName (value : String) : String :=
  .ofList ((normalizeSearch unicode value).toList.filter fun c => !isNameMark c && !isWhitespace c)

/-- A match of the query stands at the beginning or behind a blank or a mark. The matches do not
overlap: `skip` characters belong to the last one. -/
def matchesWord (query : List Char) : (skip : ℕ) → (before : Option Char) → List Char → Bool
  | _, _, [] => false
  | skip + 1, _, c :: text => matchesWord query skip (some c) text
  | 0, before, c :: text =>
    if query.isPrefixOf (c :: text) then
      before.all (fun c => isWhitespace c || isNameMark c) ||
        matchesWord query (query.length - 1) (some c) text
    else matchesWord query 0 (some c) text

/-- Source: `catalog.rs` `server_name_match_rank` -/
def serverNameMatchRank (name query compactQuery : String) : Option ℕ :=
  if query = "" then some 0
  else
    let normalizedName := normalizeSearch unicode name
    let compactName := compactServerName unicode normalizedName
    if normalizedName = query ∨ (compactQuery ≠ "" ∧ compactName = compactQuery) then some 0
    else if query.toList.isPrefixOf normalizedName.toList ∨
        (compactQuery ≠ "" ∧ compactQuery.toList.isPrefixOf compactName.toList) then some 1
    else if matchesWord query.toList 0 none normalizedName.toList then some 2
    else none

end texts

/-! ## Requests -/

def MAX_SERVER_QUERY_BYTES : ℕ := 256

/-- Source: `catalog.rs` `bounded_u64` -/
def boundedU64 (value : Option Value) (default maximum : UInt64) : StoreResult UInt64 :=
  let value := (value.bind Value.asU64).getD default
  if maximum < value then
    .error (invalidParams "Numeric request parameter is out of range")
  else .ok value

/-- Source: `catalog.rs` `string` -/
def string (params : Value) (key : String) : String :=
  trim (((params.get key).bind Value.asStr).getD "")

/-- What a request asks for, its page apart. -/
structure ServerFilter where
  query : String
  countryCode : String
  gatewayName : String
  feature : String
  scope : String
  deriving DecidableEq

/-- The filters of a request. -/
def serverFilter (unicode : Unicode) (params : Value) : StoreResult ServerFilter := do
  let rawQuery := string params "query"
  reject (MAX_SERVER_QUERY_BYTES < rawQuery.utf8ByteSize)
    (invalidParams "query must be at most 256 bytes")
  let gatewayName := string params "gateway_name"
  let feature := toAsciiLowercase (string params "feature")
  let scope := toAsciiLowercase (string params "scope")
  reject (feature ∉ ["", "all", "standard", "secure_core", "p2p", "tor"])
    (invalidParams "Unknown server feature filter")
  reject (gatewayName ≠ "" ∧ feature ∉ ["", "all"])
    (invalidParams "Gateway and consumer feature filters cannot be combined")
  reject (scope ∉ ["", "all", "consumer", "gateways"])
    (invalidParams "Unknown server search scope")
  return {
    query := normalizeSearch unicode rawQuery
    countryCode := toAsciiUppercase (string params "country_code")
    gatewayName := gatewayName
    feature := feature
    scope := scope }

section pages

variable (names : CountryNames) (unicode : Unicode)

namespace ServerFilter

variable (spec : ServerFilter)

/-- The rank of a server among the matches of the query. -/
def rank (server : LogicalServer) : Option ℕ :=
  serverNameMatchRank unicode server.name spec.query (compactServerName unicode spec.query)

/-- The server passes the filters. -/
def passes (tier : UInt8) (server : LogicalServer) : Bool :=
  server.tier ≤ tier &&
    (spec.countryCode = "" || server.exitCountry = spec.countryCode) &&
    (spec.gatewayName = "" || server.gateway = spec.gatewayName) &&
    (match spec.scope with
      | "consumer" => server.gateway = ""
      | "gateways" => server.gateway ≠ ""
      | _ => true) &&
    (match spec.feature with
      | "standard" => server.standard
      | "secure_core" => server.has FEATURE_SECURE_CORE
      | "p2p" => server.has FEATURE_P2P
      | "tor" => server.has FEATURE_TOR
      | _ => true) &&
    (spec.query = "" || (spec.rank unicode server).isSome)

/-- The comparison of two servers: the rank, the country, Secure Core first, the entry country, the
city and the name. -/
def compareServers : LogicalServer → LogicalServer → Ordering :=
  compareLex (compareOn (spec.rank unicode)) <|
  compareLex (compareOn fun server => countryName names server.exitCountry) <|
  compareLex (compareOn fun server => !server.has FEATURE_SECURE_CORE) <|
  compareLex (compareOn fun server => countryName names server.entryCountry) <|
  compareLex (compareOn LogicalServer.city) (compareOn LogicalServer.name)

/-- A server stands before another one, or their order is open. -/
def Before (left right : LogicalServer) : Prop := (spec.compareServers names unicode left right).isLE

instance : DecidableRel (spec.Before names unicode) := fun _ _ => inferInstanceAs (Decidable (_ = _))

end ServerFilter

/-- A server as a page shows it. -/
def shown (catalog : ServerCatalog) (server : LogicalServer) : Value :=
  match server.serialized names with
  | .object fields =>
    .object (Map.insert fields "state" (.string (canonicalState catalog server)))
  | value => value

structure ServersPage where
  offset : ℕ
  limit : ℕ
  total : ℕ
  spec : ServerFilter
  servers : List Value
  deriving DecidableEq

/-- The sorted servers that pass; the sort is stable, as `sort_by` is. -/
def sortedServers (catalog : ServerCatalog) (spec : ServerFilter) (tier : UInt8) :
    List LogicalServer :=
  (catalog.logicalServers.filter (spec.passes unicode tier)).insertionSort
    (spec.Before names unicode)

/-- Source: `catalog.rs` `ServerCatalog::servers_page` -/
def serversPage (catalog : ServerCatalog) (params : Value) (tier : UInt8) :
    StoreResult ServersPage := do
  let offset ← boundedU64 (params.get "offset") 0 1000000
  let limit ← boundedU64 (params.get "limit") 100 100
  let spec ← serverFilter unicode params
  let servers := sortedServers names unicode catalog spec tier
  return {
    offset := offset.toNat
    limit := limit.toNat
    total := servers.length
    spec := spec
    servers := (page servers offset.toNat limit.toNat).map (shown names catalog) }

/-- The answer to a request. -/
def ServersPage.toValue (result : ServersPage) : Value :=
  .obj [
    ("offset", .u64 (.ofNat result.offset)),
    ("limit", .u64 (.ofNat result.limit)),
    ("total", .u64 (.ofNat result.total)),
    ("query", .string result.spec.query),
    ("country_code", .string result.spec.countryCode),
    ("gateway_name", .string result.spec.gatewayName),
    ("feature", .string result.spec.feature),
    ("scope", .string result.spec.scope),
    ("servers", .array result.servers)]

/-! ## The order -/

section order

variable {names unicode} {spec : ServerFilter}

instance transCmp_compareServers : Std.TransCmp (spec.compareServers names unicode) := by
  unfold ServerFilter.compareServers
  infer_instance

instance total_before : Std.Total (spec.Before names unicode) where
  total left right := by
    unfold ServerFilter.Before
    have hswap : spec.compareServers names unicode right left =
        (spec.compareServers names unicode left right).swap := Std.OrientedCmp.eq_swap
    rw [hswap]
    cases spec.compareServers names unicode left right with
    | lt => exact .inl rfl
    | eq => exact .inl rfl
    | gt => exact .inr rfl

instance isTrans_before : IsTrans LogicalServer (spec.Before names unicode) where
  trans _ _ _ := Std.TransCmp.isLE_trans

theorem sortedServers_perm (catalog : ServerCatalog) (tier : UInt8) :
    (sortedServers names unicode catalog spec tier).Perm
      (catalog.logicalServers.filter (spec.passes unicode tier)) :=
  List.perm_insertionSort _ _

theorem sortedServers_pairwise (catalog : ServerCatalog) (tier : UInt8) :
    (sortedServers names unicode catalog spec tier).Pairwise (spec.Before names unicode) :=
  List.pairwise_insertionSort _ _

end order

/-! ## Pages -/

/-- A request for a page. -/
def pageParams (filter : Map) (offset limit : ℕ) : Value :=
  .object ((filter.insert "offset" (.u64 (.ofNat offset))).insert "limit" (.u64 (.ofNat limit)))

theorem get_pageParams {key : String} (hoffset : key ≠ "offset") (hlimit : key ≠ "limit")
    (filter : Map) (offset limit : ℕ) :
    (pageParams filter offset limit).get key = (Value.object filter).get key := by
  unfold pageParams
  rw [Value.get_object, Value.get_object, Map.get_insert_of_ne hlimit, Map.get_insert_of_ne hoffset]

theorem serverFilter_pageParams (filter : Map) (offset limit : ℕ) :
    serverFilter unicode (pageParams filter offset limit) =
      serverFilter unicode (.object filter) := by
  have hstring : ∀ key, key ≠ "offset" → key ≠ "limit" →
      string (pageParams filter offset limit) key = string (.object filter) key := by
    intro key hoffset hlimit
    unfold string
    rw [get_pageParams hoffset hlimit]
  unfold serverFilter
  rw [hstring "query" (by decide) (by decide), hstring "gateway_name" (by decide) (by decide),
    hstring "feature" (by decide) (by decide), hstring "scope" (by decide) (by decide),
    hstring "country_code" (by decide) (by decide)]

theorem boundedU64_ofNat {n : ℕ} (default maximum : UInt64) (h : n ≤ maximum.toNat) :
    ∃ value, boundedU64 (some (.u64 (.ofNat n))) default maximum = .ok value ∧ value.toNat = n := by
  have hlt : n < 2 ^ 64 := h.trans_lt maximum.toNat_lt
  have hn : (UInt64.ofNat n).toNat = n := UInt64.toNat_ofNat_of_lt' hlt
  refine ⟨.ofNat n, ?_, hn⟩
  have hle : ¬ maximum < UInt64.ofNat n := by
    rw [UInt64.lt_iff_toNat_lt, hn]
    omega
  change (if maximum < UInt64.ofNat n then _ else _) = _
  rw [if_neg hle]
  rfl

/-- A page of an accepted request. -/
theorem serversPage_eq {catalog : ServerCatalog} {filter : Map} {spec : ServerFilter} {tier : UInt8}
    (hfilter : serverFilter unicode (.object filter) = .ok spec) {offset limit : ℕ}
    (hoffset : offset ≤ 1000000) (hlimit : limit ≤ 100) :
    serversPage names unicode catalog (pageParams filter offset limit) tier = .ok {
      offset := offset
      limit := limit
      total := (sortedServers names unicode catalog spec tier).length
      spec := spec
      servers := (page (sortedServers names unicode catalog spec tier) offset limit).map
        (shown names catalog) } := by
  have hget : (pageParams filter offset limit).get "offset" = some (.u64 (.ofNat offset)) ∧
      (pageParams filter offset limit).get "limit" = some (.u64 (.ofNat limit)) := by
    unfold pageParams
    rw [Value.get_object, Value.get_object, Map.get_insert_of_ne (by decide),
      Map.get_insert_self, Map.get_insert_self]
    exact ⟨rfl, rfl⟩
  obtain ⟨value, hvalue, hvalueNat⟩ := boundedU64_ofNat 0 1000000 hoffset
  obtain ⟨value', hvalue', hvalueNat'⟩ := boundedU64_ofNat 100 100 hlimit
  unfold serversPage
  rw [hget.1, hget.2, hvalue, hvalue', serverFilter_pageParams, hfilter]
  change Except.ok _ = _
  rw [hvalueNat, hvalueNat']

/-- The requests for the pages are accepted and say how many servers there are, and the pages
together are the servers in order. -/
def AllPages (catalog : ServerCatalog) (tier : UInt8) (filter : Map) (order : List LogicalServer)
    (limit : ℕ) : Prop :=
  ∃ pages : ℕ → ServersPage,
    (∀ k < pageCount order.length limit,
      serversPage names unicode catalog (pageParams filter (k * limit) limit) tier =
        .ok (pages k) ∧ (pages k).total = order.length) ∧
    ((List.range (pageCount order.length limit)).flatMap fun k => (pages k).servers) =
      order.map (shown names catalog)

/-- **The pages show every server that passes once**, in one order for every limit, if no more
servers pass than there are offsets. -/
theorem serversPage_pages {catalog : ServerCatalog} {tier : UInt8} {filter : Map}
    {spec : ServerFilter} (hfilter : serverFilter unicode (.object filter) = .ok spec)
    (hcount : (catalog.logicalServers.filter (spec.passes unicode tier)).length ≤ 1000001) :
    ∃ order : List LogicalServer,
      order.Perm (catalog.logicalServers.filter (spec.passes unicode tier)) ∧
      order.Pairwise (spec.Before names unicode) ∧
      ∀ limit, 0 < limit → limit ≤ 100 →
        AllPages names unicode catalog tier filter order limit := by
  have hperm : (sortedServers names unicode catalog spec tier).Perm
      (catalog.logicalServers.filter (spec.passes unicode tier)) := sortedServers_perm catalog tier
  refine ⟨sortedServers names unicode catalog spec tier, hperm, sortedServers_pairwise catalog tier,
    fun limit hpos hlimit => ?_⟩
  rw [← hperm.length_eq] at hcount
  refine ⟨fun k => {
    offset := k * limit
    limit := limit
    total := (sortedServers names unicode catalog spec tier).length
    spec := spec
    servers := (page (sortedServers names unicode catalog spec tier) (k * limit) limit).map
      (shown names catalog) }, fun k hk => ⟨?_, rfl⟩, ?_⟩
  · have hoffset := mul_lt_of_lt_pageCount hpos hk
    exact serversPage_eq names unicode hfilter (by omega) hlimit
  · dsimp only
    rw [← List.map_flatMap, flatMap_page_all hpos]

end pages

/-! ## Small catalogs and a large one -/

/-- Letters without accents. -/
def asciiUnicode : Unicode where
  nfd := id
  isCombiningMark _ := false
  toLowercase c := [c.toLower]

/-- A request without filters. -/
def everything : ServerFilter where
  query := ""
  countryCode := ""
  gatewayName := ""
  feature := ""
  scope := ""

theorem serverFilter_everything : serverFilter asciiUnicode (.object []) = .ok everything := by
  decide +kernel

/-- Two servers, one on a page. -/
theorem serversPage_pages_two : ∃ order : List LogicalServer,
    order.Perm [{ id := "a", name := "CH#1" }, { id := "b", name := "CH#2" }] ∧
      AllPages (fun _ => none) asciiUnicode
        { logicalServers := [{ id := "a", name := "CH#1" }, { id := "b", name := "CH#2" }] } 0 []
        order 1 := by
  have hfew : (({ logicalServers := [{ id := "a", name := "CH#1" }, { id := "b", name := "CH#2" }] } :
      ServerCatalog).logicalServers.filter (everything.passes asciiUnicode 0)).length ≤ 1000001 := by
    decide +kernel
  obtain ⟨order, hperm, -, hpages⟩ :=
    serversPage_pages (fun _ => none) asciiUnicode serverFilter_everything hfew
  exact ⟨order, hperm, hpages 1 (by decide) (by decide)⟩

/-- The last of 1 000 002 servers is on no page of one. -/
theorem not_always_allPages : ¬ ∀ (names : CountryNames) (unicode : Unicode)
    (catalog : ServerCatalog) (tier : UInt8) (filter : Map) (spec : ServerFilter),
    serverFilter unicode (.object filter) = .ok spec → ∃ order : List LogicalServer,
      order.Perm (catalog.logicalServers.filter (spec.passes unicode tier)) ∧
      order.Pairwise (spec.Before names unicode) ∧
      ∀ limit, 0 < limit → limit ≤ 100 →
        AllPages names unicode catalog tier filter order limit := by
  intro h
  obtain ⟨order, hperm, -, hpages⟩ := h (fun _ => none) asciiUnicode
    { logicalServers := List.replicate 1000002 { id := "", name := "" } } 0 [] everything
    serverFilter_everything
  have hpasses : everything.passes asciiUnicode 0 { id := "", name := "" } = true := by
    decide +kernel
  have hlength : order.length = 1000002 := by
    rw [hperm.length_eq, List.filter_replicate_of_pos hpasses, List.length_replicate]
  obtain ⟨pages, hpage, -⟩ := hpages 1 (by decide) (by decide)
  have hlast := (hpage 1000001 (by
    refine lt_pageCount_of_mul_lt (by decide) ?_
    rw [hlength]
    decide)).1
  unfold serversPage at hlast
  obtain ⟨offset, hoffset, -⟩ := Except.bind_eq_ok.mp hlast
  have herror : boundedU64 ((pageParams [] (1000001 * 1) 1).get "offset") 0 1000000 =
      .error (invalidParams "Numeric request parameter is out of range") := by
    rfl
  rw [herror] at hoffset
  cases hoffset

end ProtonVpnOmarchy.Agent.Catalog
