import ProtonVpnOmarchy.Splitd.Bpf.Replace
import ProtonVpnOmarchy.Splitd.Bpf.Decision

/-!
# Destinations and the capacity of the maps

What the maps of a configuration mean to a lookup, and how large they are.

* `lookup_range_iff`, `lookup_bypass_iff` — a longest-prefix lookup of a user and a destination hits
  exactly if one of that user's ranges contains the destination, whatever other users configure.
* `fits_of_sub` — maps that hold only entries of the image stay within the capacities the maps are
  created with.
-/

namespace ProtonVpnOmarchy.Splitd.Bpf

open Std (ExtTreeMap)
open Lib

/-! ## Keys and containment -/

theorem leBytes_uid_injective {uid uid' : UInt32}
    (h : leBytes 4 uid.toNat = leBytes 4 uid'.toNat) : uid = uid' := by
  rw [← ofNat_ofLeBytes_leBytes uid, h, ofNat_ofLeBytes_leBytes]

/-- The bits of a key: all of the uid, then the prefix of the network. -/
theorem take_bits_key {n : ℕ} (uid : UInt32) (net : Network n) :
    (bits (leBytes 4 uid.toNat ++ beBytes n net.network)).take (32 + net.prefixLen) =
      bits (leBytes 4 uid.toNat) ++ (bits (beBytes n net.network)).take net.prefixLen := by
  have hlen : (bits (leBytes 4 uid.toNat)).length = 32 := by simp
  rw [bits_append, List.take_append, hlen, Nat.add_sub_cancel_left,
    List.take_of_length_le (by omega)]

theorem take_bits_prefix_iff {n : ℕ} (net : Network n) (address : BitVec (n * 8)) :
    (bits (beBytes n net.network)).take net.prefixLen <+: bits (beBytes n address) ↔
      net.Contains address := by
  have hle := net.prefixLen_le
  rw [List.prefix_iff_eq_take, bits_beBytes, bits_beBytes, List.length_take, List.length_ofFn,
    Nat.min_eq_left hle]
  constructor
  · intro h i hi
    have hbit := congrArg (fun l => l[i]?) h
    have hin : i < n * 8 := by omega
    simpa [hi, hin, List.getElem?_take, Network.getMsbD_network] using hbit.symm
  · intro h
    apply List.ext_getElem?
    intro i
    rw [List.getElem?_take, List.getElem?_take]
    split_ifs with hi
    · have hin : i < n * 8 := by omega
      simp [hin, Network.getMsbD_network, hi, h i hi]
    · rfl

/-- A stored key is a prefix of a lookup's key iff it is of the same user and its network contains
the address. -/
theorem key_prefix_iff {n : ℕ} (uid uid' : UInt32) (net : Network n) (address : BitVec (n * 8)) :
    (bits (leBytes 4 uid.toNat ++ beBytes n net.network)).take (32 + net.prefixLen) <+:
        bits (leBytes 4 uid'.toNat ++ beBytes n address) ↔
      uid = uid' ∧ net.Contains address := by
  rw [take_bits_key, bits_append, ← take_bits_prefix_iff]
  constructor
  · rintro ⟨rest, hrest⟩
    rw [List.append_assoc] at hrest
    obtain ⟨huid, haddress⟩ := List.append_inj hrest (by simp)
    exact ⟨leBytes_uid_injective (bits_injective huid), rest, haddress⟩
  · rintro ⟨rfl, h⟩
    exact (List.prefix_append_right_inj _).mpr h

/-! ## Lookups -/

section lookups

/-- The range trie of a family. -/
def PolicyMaps.ranges (maps : PolicyMaps) (ipv6 : Bool) : LpmTrie UInt32 :=
  if ipv6 then maps.ipv6 else maps.ipv4

/-- The bypass trie of a family. -/
def PolicyMaps.bypasses (maps : PolicyMaps) (ipv6 : Bool) : LpmTrie UInt32 :=
  if ipv6 then maps.bypassIpv6 else maps.bypassIpv4

theorem mem_ranges {maps : PolicyMaps} {ipv6 : Bool} {key : List Bool} :
    key ∈ maps.ranges ipv6 ↔ ∃ value, maps.get (.range ipv6 key) = some value := by
  rw [ExtTreeMap.mem_iff_isSome_getElem?, Option.isSome_iff_exists]
  cases ipv6 <;> rfl

theorem mem_bypasses {maps : PolicyMaps} {ipv6 : Bool} {key : List Bool} :
    key ∈ maps.bypasses ipv6 ↔ ∃ value, maps.get (.bypass ipv6 key) = some value := by
  rw [ExtTreeMap.mem_iff_isSome_getElem?, Option.isSome_iff_exists]
  cases ipv6 <;> rfl

variable {text : IpNetText} {configs : ConfigMap} {policies : PolicyMap}

/-- The entry of a network is a hit for a destination of its family iff the user is the same and
the network contains it. -/
theorem rangeCell_hit_iff (cell : Bool → List Bool → Cell)
    (hcell : ∀ f k f' k', cell f k = cell f' k' → f = f' ∧ k = k') {uid uid' : UInt32}
    {network : IpNet} {destination : IpAddr} :
    (∃ key, rangeCell cell uid network = cell destination.isIpv6 key ∧
        key <+: lpmKey uid' destination) ↔ uid = uid' ∧ network.Contains destination := by
  rcases network with net | net <;> rcases destination with address | address
  · constructor
    · rintro ⟨key, hkey, hprefix⟩
      obtain ⟨-, rfl⟩ := hcell _ _ _ _ hkey
      exact (key_prefix_iff uid uid' net address).mp hprefix
    · intro h
      exact ⟨_, rfl, (key_prefix_iff uid uid' net address).mpr h⟩
  · constructor
    · rintro ⟨key, hkey, -⟩
      exact absurd (hcell _ _ _ _ hkey).1 (by simp [IpAddr.isIpv6])
    · rintro ⟨-, h⟩
      exact h.elim
  · constructor
    · rintro ⟨key, hkey, -⟩
      exact absurd (hcell _ _ _ _ hkey).1 (by simp [IpAddr.isIpv6])
    · rintro ⟨-, h⟩
      exact h.elim
  · constructor
    · rintro ⟨key, hkey, hprefix⟩
      obtain ⟨-, rfl⟩ := hcell _ _ _ _ hkey
      exact (key_prefix_iff uid uid' net address).mp hprefix
    · intro h
      exact ⟨_, rfl, (key_prefix_iff uid uid' net address).mpr h⟩

/-- A range configured for `uid` contains the destination. -/
def RangeContains (text : IpNetText) (configs : ConfigMap) (uid : UInt32) (destination : IpAddr) :
    Prop :=
  ∃ (u : UInt16) (config : SplitConfig), configs[u]? = some config ∧ u.toUInt32 = uid ∧
    ∃ range ∈ config.ipRanges, ∃ network, parseIpRange text range = .ok network ∧
      network.Contains destination

/-- A destination policy of `uid` contains the destination. -/
def PolicyContains (text : IpNetText) (policies : PolicyMap) (uid : UInt32)
    (destination : IpAddr) : Prop :=
  ∃ (u : UInt16) (ranges : List String), policies[u]? = some ranges ∧ u.toUInt32 = uid ∧
    ∃ range ∈ ranges, ∃ network, parseIpRange text range = .ok network ∧
      network.Contains destination

theorem lookup_range_iff (uid : UInt32) (destination : IpAddr) :
    (((policyImage text configs policies).ranges destination.isIpv6).lookup
        (lpmKey uid destination)).isSome ↔ RangeContains text configs uid destination := by
  rw [LpmTrie.lookup_isSome_iff]
  constructor
  · rintro ⟨key, hmem, hprefix⟩
    obtain ⟨value, hget⟩ := mem_ranges.mp hmem
    rcases mem_policyEntries.mp (get_policyImage.mp hget) with
      ⟨u, config, hconfig, -, h | ⟨network, hnetwork, h⟩⟩ | ⟨u, ranges, -, network, -, h⟩
    · simp at h
    · obtain ⟨range, hrange, hparse⟩ := mem_networks.mp hnetwork
      obtain ⟨rfl, hcontains⟩ := (rangeCell_hit_iff _ (by simp)).mp
        ⟨key, (Prod.mk.inj h).1.symm, hprefix⟩
      exact ⟨u, config, hconfig, rfl, range, hrange, network, hparse, hcontains⟩
    · cases network <;> simp [rangeCell] at h
  · rintro ⟨u, config, hconfig, rfl, range, hrange, network, hparse, hcontains⟩
    have hnetwork := mem_networks.mpr ⟨range, hrange, hparse⟩
    obtain ⟨key, hkey, hprefix⟩ := (rangeCell_hit_iff .range (by simp)).mpr
      ⟨rfl, hcontains⟩
    have hrules : config.hasRules := by
      have := List.ne_nil_of_mem hrange
      simp [SplitConfig.hasRules, this]
    refine ⟨key, mem_ranges.mpr ⟨1, get_policyImage.mpr (mem_policyEntries.mpr (.inl
      ⟨u, config, hconfig, hrules, .inr ⟨network, hnetwork, ?_⟩⟩))⟩, hprefix⟩
    rw [hkey]

theorem lookup_bypass_iff (uid : UInt32) (destination : IpAddr) :
    (((policyImage text configs policies).bypasses destination.isIpv6).lookup
        (lpmKey uid destination)).isSome ↔ PolicyContains text policies uid destination := by
  rw [LpmTrie.lookup_isSome_iff]
  constructor
  · rintro ⟨key, hmem, hprefix⟩
    obtain ⟨value, hget⟩ := mem_bypasses.mp hmem
    rcases mem_policyEntries.mp (get_policyImage.mp hget) with
      ⟨u, config, -, -, h | ⟨network, -, h⟩⟩ | ⟨u, ranges, hranges, network, hnetwork, h⟩
    · simp at h
    · cases network <;> simp [rangeCell] at h
    · obtain ⟨range, hrange, hparse⟩ := mem_networks.mp hnetwork
      obtain ⟨rfl, hcontains⟩ := (rangeCell_hit_iff _ (by simp)).mp
        ⟨key, (Prod.mk.inj h).1.symm, hprefix⟩
      exact ⟨u, ranges, hranges, rfl, range, hrange, network, hparse, hcontains⟩
  · rintro ⟨u, ranges, hranges, rfl, range, hrange, network, hparse, hcontains⟩
    have hnetwork := mem_networks.mpr ⟨range, hrange, hparse⟩
    obtain ⟨key, hkey, hprefix⟩ := (rangeCell_hit_iff .bypass (by simp)).mpr
      ⟨rfl, hcontains⟩
    refine ⟨key, mem_bypasses.mpr ⟨1, get_policyImage.mpr (mem_policyEntries.mpr (.inr
      ⟨u, ranges, hranges, network, hnetwork, ?_⟩))⟩, hprefix⟩
    rw [hkey]

end lookups

/-! ## Capacity -/

section capacity

variable {text : IpNetText} {configs : ConfigMap} {policies : PolicyMap} {maps : PolicyMaps}

/-- The maps are within the capacities they are created with. -/
structure PolicyMaps.Fits (maps : PolicyMaps) : Prop where
  mode : maps.mode.size ≤ MAX_USER_POLICIES
  ranges : ∀ ipv6, (maps.ranges ipv6).size ≤ MAX_DESTINATIONS
  bypasses : ∀ ipv6, (maps.bypasses ipv6).size ≤ MAX_DESTINATIONS

/-- At most 64 users with at most 256 ranges each. -/
structure Bounded (configs : ConfigMap) (policies : PolicyMap) : Prop where
  users : configs.size ≤ 64
  ranges : ∀ (uid : UInt16) (config : SplitConfig), configs[uid]? = some config →
    config.ipRanges.length ≤ 256
  policyUsers : policies.size ≤ 64
  policyRanges : ∀ (uid : UInt16) (ranges : List String), policies[uid]? = some ranges →
    ranges.length ≤ 256

theorem Bounded.of_validated (h : Validated text configs policies)
    (hcount : configuredUserCount configs policies ≤ MAX_CONFIGS) : Bounded configs policies where
  users := (size_configs_le configs policies).trans hcount
  ranges _ _ hget := (h.config_spec hget).2
  policyUsers := (size_policies_le configs policies).trans hcount
  policyRanges _ _ hget := (h.policy_spec hget).2

/-- A map whose keys are in a list is not larger than the list. -/
theorem size_le_length {K V : Type} [Ord K] [Std.TransOrd K] [Std.LawfulEqOrd K] [DecidableEq K]
    (map : ExtTreeMap K V) (keys : List K) (h : ∀ key ∈ map, key ∈ keys) :
    map.size ≤ keys.length := by
  have hsub : map.keys ⊆ keys := fun key hkey => h key (ExtTreeMap.mem_keys.mp hkey)
  have := (ExtTreeMap.nodup_keys.subperm hsub).length_le
  rwa [ExtTreeMap.length_keys] at this

theorem length_flatMap_le {α β : Type} {xs : List α} {f : α → List β} {n k : ℕ}
    (hf : ∀ x ∈ xs, (f x).length ≤ k) (hxs : xs.length ≤ n) : (xs.flatMap f).length ≤ n * k := by
  rw [List.length_flatMap]
  calc (xs.map fun x => (f x).length).sum ≤ xs.length * k := by
        have := List.sum_le_card_nsmul (xs.map fun x => (f x).length) k (by simpa using hf)
        simpa using this
    _ ≤ n * k := Nat.mul_le_mul_right k hxs

theorem length_networks_le (ranges : List String) : (networks text ranges).length ≤ ranges.length :=
  List.length_filterMap_le _ _

/-- The key of a trie entry. -/
def Cell.key : Cell → List Bool
  | .mode _ => []
  | .range _ key => key
  | .bypass _ key => key

theorem fits_of_sub (hbound : Bounded configs policies)
    (hsub : maps.All fun cell value =>
      (policyImage text configs policies).get cell = some value) : maps.Fits where
  mode := by
    have hkeys : ∀ uid ∈ maps.mode, uid ∈ configs.toList.map fun entry => entry.1.toUInt32 := by
      intro uid huid
      obtain ⟨value, hget⟩ := Option.isSome_iff_exists.mp
        (ExtTreeMap.mem_iff_isSome_getElem?.mp huid)
      obtain ⟨u, config, hconfig, -, hu, -⟩ := get_policyImage_mode.mp (hsub (.mode uid) value hget)
      exact List.mem_map.mpr
        ⟨(u, config), ExtTreeMap.mem_toList_iff_getElem?_eq_some.mpr hconfig, hu⟩
    have := size_le_length _ _ hkeys
    rw [List.length_map, ExtTreeMap.length_toList] at this
    exact this.trans hbound.users
  ranges ipv6 := by
    have hkeys : ∀ key ∈ maps.ranges ipv6, key ∈ configs.toList.flatMap fun entry =>
        (networks text entry.2.ipRanges).map fun network =>
          (rangeCell .range entry.1.toUInt32 network).key := by
      intro key hkey
      obtain ⟨value, hget⟩ := mem_ranges.mp hkey
      rcases mem_policyEntries.mp (get_policyImage.mp (hsub _ value hget)) with
        ⟨u, config, hconfig, -, h | ⟨network, hnetwork, h⟩⟩ | ⟨u, ranges, -, network, -, h⟩
      · simp at h
      · exact List.mem_flatMap.mpr ⟨(u, config),
          ExtTreeMap.mem_toList_iff_getElem?_eq_some.mpr hconfig,
          List.mem_map.mpr ⟨network, hnetwork, by rw [← (Prod.mk.inj h).1]; rfl⟩⟩
      · cases network <;> simp [rangeCell] at h
    refine (size_le_length _ _ hkeys).trans (length_flatMap_le ?_ ?_)
    · rintro ⟨u, config⟩ hmem
      have hget := ExtTreeMap.mem_toList_iff_getElem?_eq_some.mp hmem
      rw [List.length_map]
      exact (length_networks_le _).trans (hbound.ranges u config hget)
    · rw [ExtTreeMap.length_toList]
      exact hbound.users
  bypasses ipv6 := by
    have hkeys : ∀ key ∈ maps.bypasses ipv6, key ∈ policies.toList.flatMap fun entry =>
        (networks text entry.2).map fun network =>
          (rangeCell .bypass entry.1.toUInt32 network).key := by
      intro key hkey
      obtain ⟨value, hget⟩ := mem_bypasses.mp hkey
      rcases mem_policyEntries.mp (get_policyImage.mp (hsub _ value hget)) with
        ⟨u, config, -, -, h | ⟨network, -, h⟩⟩ | ⟨u, ranges, hranges, network, hnetwork, h⟩
      · simp at h
      · cases network <;> simp [rangeCell] at h
      · exact List.mem_flatMap.mpr ⟨(u, ranges),
          ExtTreeMap.mem_toList_iff_getElem?_eq_some.mpr hranges,
          List.mem_map.mpr ⟨network, hnetwork, by rw [← (Prod.mk.inj h).1]; rfl⟩⟩
    refine (size_le_length _ _ hkeys).trans (length_flatMap_le ?_ ?_)
    · rintro ⟨u, ranges⟩ hmem
      have hget := ExtTreeMap.mem_toList_iff_getElem?_eq_some.mp hmem
      rw [List.length_map]
      exact (length_networks_le _).trans (hbound.policyRanges u ranges hget)
    · rw [ExtTreeMap.length_toList]
      exact hbound.policyUsers

end capacity

end ProtonVpnOmarchy.Splitd.Bpf
