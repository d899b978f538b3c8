import ProtonVpnOmarchy.Agent.Backend.ConnectParams
import ProtonVpnOmarchy.Splitd.AddressText

/-!
# The destination policy

The ranges that go past the tunnel: those of local networks, and the resolvers that NetworkManager
reports for physical devices. The gateway of the tunnel must not be among them.

* `exists_first_difference`, `contains_sibling` — an address that is not the one carved out has a
  network of its own among the siblings of it.
* `lanBypassRanges_contain` — the ranges of local networks hold every local address but the gateway.
* `gateway_kept_iff` — the gateway stays in the tunnel unless a physical device reports it as its
  resolver while local DNS is allowed.
-/

namespace ProtonVpnOmarchy.Agent.Backend

open Lib Splitd

/-! ## The text of networks -/

def readIpv4Net : Parser (Network 4) := do
  let address ← Parser.readIpv4Addr
  Parser.readGivenChar '/'
  let prefixLen ← Parser.readNumber 10 2 33 true
  if h : prefixLen ≤ 32 then pure ⟨address, prefixLen, h⟩ else failure

def readIpv6Net : Parser (Network 16) := do
  let address ← Parser.readIpv6Addr
  Parser.readGivenChar '/'
  let prefixLen ← Parser.readNumber 10 3 129 true
  if h : prefixLen ≤ 128 then pure ⟨address, prefixLen, h⟩ else failure

/-- `ipnet`'s parser of networks -/
def readIpNet : Parser IpNet := (.v4 <$> readIpv4Net) <|> (.v6 <$> readIpv6Net)

/-- `IpNet::from_str`: the whole text must be read. -/
def readRange (text : String) : Option IpNet :=
  match readIpNet.run text.toList with
  | some (network, []) => some network
  | _ => none

/-- `IpNet::to_string` -/
def networkText : IpNet → String
  | .v4 network => (IpAddr.v4 network.address).display ++ "/" ++ toString network.prefixLen
  | .v6 network => (IpAddr.v6 network.address).display ++ "/" ++ toString network.prefixLen

/-- An address is in one of the ranges. -/
def Bypassed (ranges : List String) (address : IpAddr) : Prop :=
  ∃ range ∈ ranges, ∃ network, readRange range = some network ∧ network.Contains address

/-! ## The ranges of local networks -/

def LAN_BYPASS_RANGES : List String :=
  ["10.128.0.0/9", "10.64.0.0/10", "10.32.0.0/11", "10.16.0.0/12", "10.8.0.0/13", "10.4.0.0/14",
    "10.0.0.0/15", "10.3.0.0/16", "10.2.128.0/17", "10.2.64.0/18", "10.2.32.0/19", "10.2.16.0/20",
    "10.2.8.0/21", "10.2.4.0/22", "10.2.2.0/23", "10.2.1.0/24", "10.2.0.128/25", "10.2.0.64/26",
    "10.2.0.32/27", "10.2.0.16/28", "10.2.0.8/29", "10.2.0.4/30", "10.2.0.2/31", "10.2.0.0/32",
    "172.16.0.0/12", "192.168.0.0/16", "169.254.0.0/16", "fc00::/7", "fe80::/10"]

/-- mDNS and LLMNR -/
def LOCAL_NAME_BYPASS_RANGES : List String :=
  ["224.0.0.251/32", "224.0.0.252/32", "ff02::fb/128", "ff02::1:3/128"]

/-- The address of the tunnel and of the Local Agent, 10.2.0.1. -/
def tunnelGateway : Ipv4Addr := 0x0a020001

/-! ## The resolvers of physical devices -/

/-- The IPv4 configuration of a device: the addresses of its resolvers as texts, if they are texts,
and as numbers. -/
structure Ip4Config where
  nameserverData : List (Option String) := []
  nameservers : List UInt32 := []

/-- What NetworkManager says about a device. A configuration that cannot be read is left out. -/
structure NmDevice where
  state : ℕ
  deviceType : ℕ
  ip4Config : Option Ip4Config := none
  /-- The octets of the resolvers of its IPv6 configuration -/
  ip6Nameservers : List (List Byte) := []

/-- A connected Ethernet or Wi-Fi device -/
def NmDevice.isPhysical (device : NmDevice) : Bool :=
  device.state = 100 && (device.deviceType = 1 || device.deviceType = 2)

/-- `Ipv4Addr::from(address.to_ne_bytes())`, on a little-endian machine -/
def ofNeBytes (address : UInt32) : Ipv4Addr :=
  let n := address.toNat
  BitVec.ofNat _ (((n % 256 * 256 + n / 256 % 256) * 256 + n / 65536 % 256) * 256 + n / 16777216)

/-- `Ipv6Addr::from` on sixteen octets -/
def ofOctets (octets : List Byte) : Option IpAddr :=
  if octets.length = 16 then
    some (.v6 (BitVec.ofNat _ (octets.foldl (fun n octet => n * 256 + octet.toNat) 0)))
  else none

/-- The resolvers of a device. -/
def NmDevice.nameservers (device : NmDevice) : List IpAddr :=
  let ip4 := device.ip4Config.getD {}
  ip4.nameserverData.filterMap (fun entry => entry.bind IpAddr.fromStr) ++
    ip4.nameservers.map (fun address => .v4 (ofNeBytes address)) ++
      device.ip6Nameservers.filterMap ofOctets

/-- `Ipv4Addr::is_private`, `is_link_local`, `is_loopback` -/
def isLocalIpv4 (address : Ipv4Addr) : Bool :=
  let n := address.toNat
  n / 2 ^ 24 = 10 || n / 2 ^ 20 = 0xac1 || n / 2 ^ 16 = 0xc0a8 || n / 2 ^ 16 = 0xa9fe ||
    n / 2 ^ 24 = 127

/-- Source: `network.rs` `is_local_resolver` -/
def isLocalResolver : IpAddr → Bool
  | .v4 address => isLocalIpv4 address
  | .v6 address =>
    address.toNat = 1 || address.toNat / 2 ^ 121 = 0x7e || address.toNat / 2 ^ 118 = 0x3fa

/-- A hash set that is collected and sorted. -/
def sortedSet (texts : List String) : List String := texts.dedup.mergeSort (· ≤ ·)

/-- Source: `network.rs` `physical_dns_servers` -/
def physicalDnsServers (devices : NativeResult (List NmDevice)) : NativeResult (List String) := do
  let devices ← devices
  let addresses := (devices.filter NmDevice.isPhysical).flatMap NmDevice.nameservers
  return sortedSet ((addresses.filter isLocalResolver).map IpAddr.display)

/-! ## The policy -/

/-- Source: `mod.rs` `apply_destination_policy`, the range of a resolver -/
def resolverRange (server : String) : NativeResult String :=
  match IpAddr.fromStr server with
  | none => .error (.new "local_dns_invalid"
      "NetworkManager returned an invalid physical DNS server")
  | some address => .ok (address.display ++ if address.isIpv6 then "/128" else "/32")

/-- Source: `mod.rs` `apply_destination_policy`, up to the call of the split service: the ranges it is
called with -/
def applyDestinationPolicy (available allowLan allowLocalDns : Bool)
    (devices : NativeResult (List NmDevice)) : NativeResult (List String) := do
  if !available then
    throw (.new "destination_policy_unavailable"
      "LAN and local DNS policy require the Proton Omarchy Rust split service")
  let lan := if allowLan then LAN_BYPASS_RANGES else []
  if allowLocalDns then
    let servers ← physicalDnsServers devices
    let resolvers ← servers.mapM resolverRange
    return sortedSet (lan ++ LOCAL_NAME_BYPASS_RANGES ++ resolvers)
  else return sortedSet lan

/-! ## An address that is carved out -/

section siblings

variable {n : ℕ}

/-- The network that leaves the way to an address at bit `k`. -/
def IsSibling (carved : BitVec (n * 8)) (k : ℕ) (network : Network n) : Prop :=
  network.prefixLen = k + 1 ∧ (∀ i < k, network.address.getMsbD i = carved.getMsbD i) ∧
    network.address.getMsbD k ≠ carved.getMsbD k

instance (carved : BitVec (n * 8)) (k : ℕ) (network : Network n) :
    Decidable (IsSibling carved k network) :=
  inferInstanceAs (Decidable (_ ∧ _ ∧ _))

/-- Another address leaves the way to the carved one somewhere. -/
theorem exists_first_difference {carved address : BitVec (n * 8)} (hne : address ≠ carved) :
    ∃ k < n * 8, (∀ i < k, address.getMsbD i = carved.getMsbD i) ∧
      address.getMsbD k ≠ carved.getMsbD k := by
  have hdiffers : ∃ k, address.getMsbD k ≠ carved.getMsbD k := by
    by_contra hsame
    refine hne (BitVec.eq_of_getMsbD_eq fun i _ => ?_)
    by_contra hi
    exact hsame ⟨i, hi⟩
  classical
  refine ⟨Nat.find hdiffers, ?_, fun i hi => ?_, Nat.find_spec hdiffers⟩
  · by_contra hle
    refine Nat.find_spec hdiffers ?_
    rw [BitVec.getMsbD_of_ge _ _ (by omega), BitVec.getMsbD_of_ge _ _ (by omega)]
  · by_contra hi'
    exact Nat.find_min hdiffers hi hi'

theorem contains_sibling {carved address : BitVec (n * 8)} {k : ℕ} {network : Network n}
    (hsame : ∀ i < k, address.getMsbD i = carved.getMsbD i)
    (hdiffers : address.getMsbD k ≠ carved.getMsbD k) (h : IsSibling carved k network) :
    network.Contains address := by
  obtain ⟨hlen, hnetwork, hnot⟩ := h
  intro i hi
  rw [hlen] at hi
  rcases Nat.lt_succ_iff_lt_or_eq.mp hi with hlt | rfl
  · rw [hsame i hlt, hnetwork i hlt]
  · exact (Bool.eq_not.mpr hdiffers).trans (Bool.eq_not.mpr hnot).symm

end siblings

/-- 10.0.0.0/8, 172.16.0.0/12, 192.168.0.0/16 and 169.254.0.0/16 -/
def localNetworks : List (Network 4) :=
  [⟨0x0a000000, 8, by decide⟩, ⟨0xac100000, 12, by decide⟩, ⟨0xc0a80000, 16, by decide⟩,
    ⟨0xa9fe0000, 16, by decide⟩]

/-- A range that is the sibling of the gateway at a length. -/
def rangeIsSibling (k : ℕ) (range : String) : Bool :=
  match readRange range with
  | some (.v4 network) => decide (IsSibling tunnelGateway (8 + k) network)
  | _ => false

/-- The ranges of 10.0.0.0/8 are the siblings of the gateway. -/
theorem lanBypassRanges_siblings : ∀ k < 24, ∃ range ∈ LAN_BYPASS_RANGES,
    ∃ network, readRange range = some (.v4 network) ∧ IsSibling tunnelGateway (8 + k) network := by
  have hall : ∀ k < 24, LAN_BYPASS_RANGES.any (rangeIsSibling k) = true := by decide +kernel
  intro k hk
  obtain ⟨range, hrange, hsibling⟩ := List.any_eq_true.mp (hall k hk)
  refine ⟨range, hrange, ?_⟩
  unfold rangeIsSibling at hsibling
  split at hsibling
  · next network hread => exact ⟨network, hread, of_decide_eq_true hsibling⟩
  · cases hsibling

/-- The ranges of the other local networks are these networks. -/
theorem lanBypassRanges_whole : ∀ network ∈ localNetworks.tail, ∃ range ∈ LAN_BYPASS_RANGES,
    readRange range = some (.v4 network) := by
  decide +kernel

/-- **The ranges of local networks hold every local address but the gateway.** -/
theorem lanBypassRanges_contain {network : Network 4} {address : Ipv4Addr}
    (hnetwork : network ∈ localNetworks) (h : network.Contains address)
    (hne : address ≠ tunnelGateway) : Bypassed LAN_BYPASS_RANGES (.v4 address) := by
  rcases List.mem_cons.mp hnetwork with rfl | hwhole
  · obtain ⟨k, hk, hsame, hdiffers⟩ := exists_first_difference hne
    have hge : 8 ≤ k := by
      by_contra hlt
      have hbit : address.getMsbD k = BitVec.getMsbD (0x0a000000 : Ipv4Addr) k :=
        h k (show k < 8 by omega)
      have hgateway : ∀ i < 8, BitVec.getMsbD (0x0a000000 : Ipv4Addr) i =
          tunnelGateway.getMsbD i := by decide
      exact hdiffers (hbit.trans (hgateway k (by omega)))
    obtain ⟨range, hrange, sibling, hread, hsibling⟩ := lanBypassRanges_siblings (k - 8) (by omega)
    rw [Nat.add_sub_cancel' hge] at hsibling
    exact ⟨range, hrange, .v4 sibling, hread, contains_sibling hsame hdiffers hsibling⟩
  · obtain ⟨range, hrange, hread⟩ := lanBypassRanges_whole network hwhole
    exact ⟨range, hrange, .v4 network, hread, h⟩

/-- None of the fixed ranges holds the gateway. -/
theorem not_bypassed_fixed :
    ¬ Bypassed (LAN_BYPASS_RANGES ++ LOCAL_NAME_BYPASS_RANGES) (.v4 tunnelGateway) := by
  have hall : ∀ range ∈ LAN_BYPASS_RANGES ++ LOCAL_NAME_BYPASS_RANGES,
      ∀ network ∈ readRange range, ¬ network.Contains (.v4 tunnelGateway) := by
    decide +kernel
  rintro ⟨range, hrange, network, hread, hcontains⟩
  exact hall range hrange network hread hcontains

/-! ## The ranges of resolvers -/

/-- The range of one address. -/
def hostRange (address : IpAddr) : String :=
  address.display ++ if address.isIpv6 then "/128" else "/32"

theorem resolverRange_display (address : IpAddr) :
    resolverRange address.display = .ok (hostRange address) := by
  unfold resolverRange
  rw [IpAddr.fromStr_display]
  rfl

theorem readRange_ipv4 (address : Ipv4Addr) :
    readRange (hostRange (.v4 address)) = some (.v4 ⟨address, 32, le_rfl⟩) := by
  have hslash : ∀ c, ("/32".toList).head? = some c → Parser.toDigit 10 c = none := by
    intro c hc
    obtain rfl : '/' = c := by simpa using hc
    decide
  have htext : (hostRange (.v4 address)).toList = address.display ++ "/32".toList := by
    simp [hostRange, IpAddr.display, IpAddr.isIpv6]
  have hnetwork : readIpv4Net (address.display ++ "/32".toList) =
      some (⟨address, 32, le_rfl⟩, []) := by
    unfold readIpv4Net
    rw [Parser.bind_apply, Parser.readIpv4Addr_display address hslash]
    rfl
  have hread : readIpNet ((hostRange (.v4 address)).toList) =
      some (.v4 ⟨address, 32, le_rfl⟩, []) := by
    rw [htext]
    unfold readIpNet
    rw [Parser.orElse_apply, map_eq_pure_bind, Parser.bind_apply, hnetwork]
    rfl
  unfold readRange
  simp only [StateT.run, hread]

/-- A printed IPv6 address does not begin like an IPv4 address, whatever follows it. -/
theorem readIpv4Addr_ipv6_append (address : Ipv6Addr) {rest : List Char} (hrest : '.' ∉ rest) :
    Parser.readIpv4Addr (address.display ++ rest) = none := by
  unfold Ipv6Addr.display
  by_cases hmapped : address.segments.take 6 = [0, 0, 0, 0, 0, 0xffff]
  · rw [if_pos hmapped]
    refine Parser.readIpv4Addr_of_head fun c hc => ?_
    obtain rfl : ':' = c := by simpa using hc
    decide
  · rw [if_neg hmapped]
    dsimp only
    split_ifs
    · refine Parser.readIpv4Addr_none ?_
      simp [Parser.not_dot_mem_displayGroups, hrest]
    · refine Parser.readIpv4Addr_none ?_
      simp [Parser.not_dot_mem_displayGroups, hrest]

/-- The range of an IPv6 address is no IPv4 network. -/
theorem readRange_ipv6 {address : Ipv6Addr} {network : IpNet}
    (h : readRange (hostRange (.v6 address)) = some network) (other : Ipv4Addr) :
    ¬ network.Contains (.v4 other) := by
  have htext : (hostRange (.v6 address)).toList = address.display ++ "/128".toList := by
    simp [hostRange, IpAddr.display, IpAddr.isIpv6]
  have hnot : readIpv4Net (address.display ++ "/128".toList) = none := by
    unfold readIpv4Net
    rw [Parser.bind_apply, readIpv4Addr_ipv6_append address (by decide), Option.bind_none]
  have hread : readIpNet ((hostRange (.v6 address)).toList) =
      (readIpv6Net (address.display ++ "/128".toList)).map fun r => (.v6 r.1, r.2) := by
    rw [htext]
    unfold readIpNet
    rw [Parser.orElse_apply, map_eq_pure_bind, Parser.bind_apply, hnot, Option.bind_none,
      Option.none_or, map_eq_pure_bind, Parser.bind_apply]
    cases readIpv6Net (address.display ++ "/128".toList) with
    | none => rfl
    | some r => rfl
  unfold readRange at h
  simp only [StateT.run, hread] at h
  split at h
  · next hsome =>
      obtain ⟨r, -, hr⟩ := Option.map_eq_some_iff.mp hsome
      obtain rfl := Option.some.inj h
      obtain ⟨hnetwork, -⟩ := Prod.mk.inj hr
      rw [← hnetwork]
      exact id
  · cases h

/-! ## The policy -/

/-- The addresses that connected physical devices report as their resolvers. -/
def reportedServers (devices : List NmDevice) : List IpAddr :=
  (devices.filter NmDevice.isPhysical).flatMap NmDevice.nameservers

theorem mem_sortedSet {text : String} {texts : List String} :
    text ∈ sortedSet texts ↔ text ∈ texts := by
  unfold sortedSet
  rw [List.mem_mergeSort, List.mem_dedup]

theorem mem_physicalDnsServers {devices : NativeResult (List NmDevice)} {servers : List String}
    (h : physicalDnsServers devices = .ok servers) : ∃ list, devices = .ok list ∧
      ∀ server, server ∈ servers ↔
        ∃ address ∈ reportedServers list, isLocalResolver address = true ∧
          address.display = server := by
  obtain ⟨list, hlist, h⟩ := Except.bind_eq_ok.mp h
  refine ⟨list, hlist, fun server => ?_⟩
  cases h
  rw [mem_sortedSet, List.mem_map]
  simp only [List.mem_filter, and_assoc]
  rfl

/-- The ranges that the split service is called with. -/
theorem mem_applyDestinationPolicy {available allowLan allowLocalDns : Bool}
    {devices : NativeResult (List NmDevice)} {ranges : List String}
    (h : applyDestinationPolicy available allowLan allowLocalDns devices = .ok ranges)
    (range : String) :
    range ∈ ranges ↔ allowLan = true ∧ range ∈ LAN_BYPASS_RANGES ∨
      allowLocalDns = true ∧ (range ∈ LOCAL_NAME_BYPASS_RANGES ∨ ∃ list, devices = .ok list ∧
        ∃ address ∈ reportedServers list, isLocalResolver address = true ∧
          hostRange address = range) := by
  unfold applyDestinationPolicy at h
  cases available with
  | false => cases h
  | true =>
      dsimp only [Bool.not_true, Bool.false_eq_true, if_false] at h
      cases allowLocalDns with
      | false =>
          cases h
          rw [mem_sortedSet]
          cases allowLan <;> simp
      | true =>
          obtain ⟨servers, hservers, hrest⟩ := Except.bind_eq_ok.mp h
          obtain ⟨resolvers, hresolvers, hranges⟩ := Except.bind_eq_ok.mp hrest
          obtain ⟨list, rfl, hmem⟩ := mem_physicalDnsServers hservers
          cases hranges
          have hresolver : range ∈ resolvers ↔ ∃ address ∈ reportedServers list,
              isLocalResolver address = true ∧ hostRange address = range := by
            constructor
            · intro hrange
              obtain ⟨server, hserver, hread⟩ :=
                (Except.mem_of_mapM_eq_ok hresolvers).2 range hrange
              obtain ⟨address, haddress, hlocal, rfl⟩ := (hmem server).mp hserver
              rw [resolverRange_display] at hread
              exact ⟨address, haddress, hlocal, Except.ok.inj hread⟩
            · rintro ⟨address, haddress, hlocal, rfl⟩
              obtain ⟨text, htext, hread⟩ := Except.exists_mem_of_mapM_eq_ok hresolvers
                ((hmem _).mpr ⟨address, haddress, hlocal, rfl⟩)
              rw [resolverRange_display] at hread
              rwa [Except.ok.inj hread]
          rw [mem_sortedSet, List.mem_append, List.mem_append, hresolver]
          cases allowLan <;> simp [or_assoc]

/-- What NetworkManager reports is never invalid. -/
theorem exists_applyDestinationPolicy (allowLan allowLocalDns : Bool) (devices : List NmDevice) :
    ∃ ranges, applyDestinationPolicy true allowLan allowLocalDns (.ok devices) = .ok ranges := by
  cases allowLocalDns with
  | false => exact ⟨_, rfl⟩
  | true =>
      obtain ⟨servers, hservers⟩ : ∃ servers, physicalDnsServers (.ok devices) = .ok servers :=
        ⟨_, rfl⟩
      obtain ⟨list, -, hmem⟩ := mem_physicalDnsServers hservers
      obtain ⟨resolvers, hresolvers⟩ : ∃ resolvers, servers.mapM resolverRange = .ok resolvers := by
        refine Except.exists_mapM_eq_ok fun server hserver => ?_
        obtain ⟨address, -, -, rfl⟩ := (hmem server).mp hserver
        exact ⟨_, resolverRange_display address⟩
      exact ⟨_, Except.bind_eq_ok.mpr ⟨servers, hservers,
        Except.bind_eq_ok.mpr ⟨resolvers, hresolvers, rfl⟩⟩⟩

/-- **The gateway stays in the tunnel, and with local networks allowed everything else of them goes past
it, unless local DNS is allowed and a physical device reports the gateway as its resolver.** -/
theorem gateway_kept_iff {available allowLan allowLocalDns : Bool} {devices : List NmDevice}
    {ranges : List String}
    (h : applyDestinationPolicy available allowLan allowLocalDns (.ok devices) = .ok ranges) :
    (¬ Bypassed ranges (.v4 tunnelGateway) ∧
      (allowLan = true → ∀ network ∈ localNetworks, ∀ address : Ipv4Addr,
        network.Contains address → address ≠ tunnelGateway → Bypassed ranges (.v4 address))) ↔
      ¬ (allowLocalDns = true ∧ .v4 tunnelGateway ∈ reportedServers devices) := by
  have hmem := mem_applyDestinationPolicy h
  constructor
  · rintro ⟨hkept, -⟩ ⟨hdns, hreported⟩
    refine hkept ⟨hostRange (.v4 tunnelGateway), (hmem _).mpr (.inr ⟨hdns, .inr ?_⟩), _,
      readRange_ipv4 tunnelGateway, fun _ _ => rfl⟩
    exact ⟨devices, rfl, _, hreported, by decide, rfl⟩
  · intro hnot
    refine ⟨?_, fun hlan network hnetwork address hcontains hne => ?_⟩
    · rintro ⟨range, hrange, network, hread, hcontains⟩
      rcases (hmem range).mp hrange with ⟨-, hfixed⟩ | ⟨hdns, hfixed | hresolver⟩
      · exact not_bypassed_fixed
          ⟨range, List.mem_append_left _ hfixed, network, hread, hcontains⟩
      · exact not_bypassed_fixed
          ⟨range, List.mem_append_right _ hfixed, network, hread, hcontains⟩
      · obtain ⟨list, hlist, address, hreported, -, rfl⟩ := hresolver
        cases hlist
        cases address with
        | v4 address =>
            rw [readRange_ipv4] at hread
            cases hread
            have hsame : tunnelGateway = address :=
              BitVec.eq_of_getMsbD_eq fun i hi => hcontains i hi
            subst hsame
            exact hnot ⟨hdns, hreported⟩
        | v6 address => exact readRange_ipv6 hread _ hcontains
    · obtain ⟨range, hrange, network', hread, hcontains'⟩ :=
        lanBypassRanges_contain hnetwork hcontains hne
      exact ⟨range, (hmem range).mpr (.inl ⟨hlan, hrange⟩), network', hread, hcontains'⟩

/-- A connected Ethernet device whose resolver is the router at 10.2.0.1. -/
def routedDevice : NmDevice :=
  { state := 100
    deviceType := 1
    ip4Config := some { nameserverData := [some "10.2.0.1"] } }

theorem gateway_kept_iff_lan : ∃ ranges,
    applyDestinationPolicy true true false (.ok [routedDevice]) = .ok ranges ∧
      ¬ Bypassed ranges (.v4 tunnelGateway) := by
  obtain ⟨ranges, hranges⟩ : ∃ ranges,
      applyDestinationPolicy true true false (.ok [routedDevice]) = .ok ranges := ⟨_, rfl⟩
  exact ⟨ranges, hranges, ((gateway_kept_iff hranges).mpr nofun).1⟩

/-- A router at 10.2.0.1 takes the gateway out of the tunnel. -/
theorem not_gateway_kept : ¬ ∀ (allowLan allowLocalDns : Bool) (devices : List NmDevice)
    (ranges : List String),
    applyDestinationPolicy true allowLan allowLocalDns (.ok devices) = .ok ranges →
      ¬ Bypassed ranges (.v4 tunnelGateway) ∧
        (allowLan = true → ∀ network ∈ localNetworks, ∀ address : Ipv4Addr,
          network.Contains address → address ≠ tunnelGateway → Bypassed ranges (.v4 address)) := by
  intro h
  obtain ⟨ranges, hranges⟩ := exists_applyDestinationPolicy false true [routedDevice]
  have hresolver : hostRange (.v4 tunnelGateway) ∈ ranges := by
    refine (mem_applyDestinationPolicy hranges _).mpr (.inr ⟨rfl, .inr ⟨_, rfl, ?_⟩⟩)
    exact ⟨.v4 tunnelGateway, by decide +kernel, by decide, rfl⟩
  exact (h false true [routedDevice] ranges hranges).1
    ⟨_, hresolver, _, readRange_ipv4 tunnelGateway, fun _ _ => rfl⟩

end ProtonVpnOmarchy.Agent.Backend
