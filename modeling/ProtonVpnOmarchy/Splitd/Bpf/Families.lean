import ProtonVpnOmarchy.Splitd.Bpf.History

/-!
# One destination, two families

A dual-stack socket connects to an IPv4 host through the IPv4-mapped address `::ffff:a.b.c.d`, and
then the IPv6 program decides. The two programs look the destination up in different tries, which
are filled by the family of the ranges: an IPv4 range is not found by the IPv6 program. The
decisions agree exactly under `FamiliesAgree` (`mapped_decision_iff`).
-/

namespace ProtonVpnOmarchy.Splitd.Bpf

open Std (ExtTreeMap)
open Lib Lib.Outcome

/-- The maps the program of a family is built with. Source: `bpf.rs` `SocketMarker::attach` -/
def PolicyMaps.destinationMaps (maps : PolicyMaps) (pid : ExtTreeMap UInt32 UInt32) (ipv6 : Bool) :
    DestinationMaps where
  pid := pid
  mode := maps.mode
  range := maps.ranges ipv6
  bypass := maps.bypasses ipv6

/-- The mark of a socket after the connect program of the destination's family ran. -/
def connectMark (fds : MapFds) (maps : DestinationMaps) (tgid pid uid gid : UInt32)
    (destination : IpAddr) (mark : BitVec 32) : Option (BitVec 32) := do
  let code ← destinationMarkProgram fds.pid fds.mode fds.range fds.bypass destination.isIpv6
  let m ← run (step (environment fds maps destination.isIpv6 tgid pid uid gid) code) 199
    (start destination mark)
  return m.mark

theorem connectMark_eq (fds : MapFds) (maps : DestinationMaps) (tgid pid uid gid : UInt32)
    (destination : IpAddr) (mark : BitVec 32) :
    connectMark fds maps tgid pid uid gid destination mark =
      some (markAfter (maps.marks uid tgid destination) mark) := by
  obtain ⟨m, hrun, -, hmark⟩ := assembled_run fds maps tgid pid uid gid destination mark
  simp [connectMark, destinationMarkProgram_eq_assembled, hrun, hmark]

theorem markAfter_injective (mark : BitVec 32) :
    Function.Injective fun marked => markAfter marked mark := by
  intro a b h
  have h' : markAfter a mark = FWMARK_VALUE ↔ markAfter b mark = FWMARK_VALUE := by
    rw [show markAfter a mark = markAfter b mark from h]
  rw [markAfter_eq_fwmark_iff, markAfter_eq_fwmark_iff] at h'
  exact Bool.eq_iff_iff.mpr h'

/-- The user's configuration excludes the destinations of its ranges. -/
def ExcludesRanges (configs : ConfigMap) (uid : UInt32) : Prop :=
  ∃ (u : UInt16) (config : SplitConfig), configs[u]? = some config ∧ u.toUInt32 = uid ∧
    config.mode = .exclude

/-- What the user's own rules say about a destination: the mode decides over its ranges, the
application over every other destination. -/
def SplitExcludes (text : IpNetText) (configs : ConfigMap) (pids : ExtTreeMap UInt32 UInt32)
    (uid tgid : UInt32) (destination : IpAddr) : Prop :=
  (RangeContains text configs uid destination ∧ ExcludesRanges configs uid) ∨
    (¬ RangeContains text configs uid destination ∧ tgid ∈ pids)

section decision

variable {text : IpNetText} {configs : ConfigMap} {policies : PolicyMap}
  {pids : ExtTreeMap UInt32 UInt32} {uid tgid : UInt32} {destination : IpAddr}

theorem mode_eq_zero_iff {value : UInt32}
    (hget : (policyImage text configs policies).mode[uid]? = some value) :
    value = 0 ↔ ExcludesRanges configs uid := by
  obtain ⟨u, config, hconfig, -, rfl, rfl⟩ := get_policyImage_mode.mp
    (show (policyImage text configs policies).get (.mode uid) = some value from hget)
  have hvalue : modeValue config = 0 ↔ config.mode = .exclude := by
    unfold modeValue
    cases config.mode <;> simp
  rw [hvalue]
  constructor
  · intro h
    exact ⟨u, config, hconfig, rfl, h⟩
  · rintro ⟨u', config', hconfig', hu, h⟩
    obtain rfl := toUInt32_injective hu
    rw [hconfig, Option.some.injEq] at hconfig'
    rwa [hconfig']

/-- A user with ranges has a mode entry. -/
theorem mode_isSome_of_rangeContains (h : RangeContains text configs uid destination) :
    ∃ value, (policyImage text configs policies).mode[uid]? = some value := by
  obtain ⟨u, config, hconfig, rfl, range, hrange, -⟩ := h
  have hrules : config.hasRules := by
    have := List.ne_nil_of_mem hrange
    simp [SplitConfig.hasRules, this]
  exact ⟨modeValue config, get_policyImage_mode.mpr ⟨u, config, hconfig, hrules, rfl, rfl⟩⟩

theorem splitPolicy_iff :
    splitPolicy (policyImage text configs policies).mode[uid]?
        (((policyImage text configs policies).ranges destination.isIpv6).lookup
          (lpmKey uid destination)).isSome (pids.contains tgid) = true ↔
      SplitExcludes text configs pids uid tgid destination := by
  have hhit : (((policyImage text configs policies).ranges destination.isIpv6).lookup
      (lpmKey uid destination)).isSome ↔ RangeContains text configs uid destination :=
    lookup_range_iff uid destination
  unfold SplitExcludes
  by_cases hrange : RangeContains text configs uid destination
  · obtain ⟨value, hvalue⟩ : ∃ value, (policyImage text configs policies).mode[uid]? = some value :=
      mode_isSome_of_rangeContains hrange
    simp [splitPolicy, hvalue, hhit.mpr hrange, hrange, mode_eq_zero_iff hvalue]
  · rw [← hhit] at hrange
    cases hmode : (policyImage text configs policies).mode[uid]? with
    | none => simp [splitPolicy, ← hhit, hrange]
    | some value => simp [splitPolicy, ← hhit, hrange]

/-- What the program of the destination's family decides, in terms of the configuration. -/
theorem marks_iff (text : IpNetText) (configs : ConfigMap) (policies : PolicyMap)
    (pids : ExtTreeMap UInt32 UInt32) (uid tgid : UInt32) (destination : IpAddr) :
    ((policyImage text configs policies).destinationMaps pids destination.isIpv6).marks uid tgid
        destination = true ↔
      PolicyContains text policies uid destination ∨
        SplitExcludes text configs pids uid tgid destination := by
  unfold DestinationMaps.marks PolicyMaps.destinationMaps
  simp only [Bool.or_eq_true]
  rw [lookup_bypass_iff, splitPolicy_iff]

end decision

/-- Two decisions that differ in the bypass and range hits only. -/
theorem decisions_agree_iff (b₄ b₆ r₄ r₆ v p : Prop) :
    ((b₆ ∨ (r₆ ∧ v ∨ ¬ r₆ ∧ p)) ↔ (b₄ ∨ (r₄ ∧ v ∨ ¬ r₄ ∧ p))) ↔
      (b₄ ∧ b₆) ∨ (¬ b₄ ∧ ¬ b₆ ∧ ((r₄ ↔ r₆) ∨ (v ↔ p))) ∨
        (b₄ ∧ ¬ b₆ ∧ (r₆ ∧ v ∨ ¬ r₆ ∧ p)) ∨ (¬ b₄ ∧ b₆ ∧ (r₄ ∧ v ∨ ¬ r₄ ∧ p)) := by
  by_cases b₄ <;> by_cases b₆ <;> by_cases r₄ <;> by_cases r₆ <;> simp [*]
  exact iff_comm

/-- When the two programs agree on an IPv4 address: both find it in a destination policy; or
neither does, and both or neither find it in a range, or the mode says what the application says;
or only one finds it in a destination policy and the other excludes it by the user's own rules. -/
def FamiliesAgree (text : IpNetText) (configs : ConfigMap) (policies : PolicyMap)
    (pids : ExtTreeMap UInt32 UInt32) (uid tgid : UInt32) (address : Ipv4Addr) : Prop :=
  let v4 := IpAddr.v4 address
  let v6 := IpAddr.v6 address.toIpv6Mapped
  (PolicyContains text policies uid v4 ∧ PolicyContains text policies uid v6) ∨
    (¬ PolicyContains text policies uid v4 ∧ ¬ PolicyContains text policies uid v6 ∧
      ((RangeContains text configs uid v4 ↔ RangeContains text configs uid v6) ∨
        (ExcludesRanges configs uid ↔ tgid ∈ pids))) ∨
    (PolicyContains text policies uid v4 ∧ ¬ PolicyContains text policies uid v6 ∧
      SplitExcludes text configs pids uid tgid v6) ∨
    (¬ PolicyContains text policies uid v4 ∧ PolicyContains text policies uid v6 ∧
      SplitExcludes text configs pids uid tgid v4)

/-- **The IPv6 program decides an IPv4-mapped destination as the IPv4 program decides the IPv4
destination exactly if `FamiliesAgree`.** -/
theorem mapped_decision_iff (text : IpNetText) (configs : ConfigMap) (policies : PolicyMap)
    (pids : ExtTreeMap UInt32 UInt32) (fds₄ fds₆ : MapFds) (tgid pid uid gid : UInt32)
    (address : Ipv4Addr) (mark : BitVec 32) :
    connectMark fds₆ ((policyImage text configs policies).destinationMaps pids true) tgid pid uid gid
          (.v6 address.toIpv6Mapped) mark =
        connectMark fds₄ ((policyImage text configs policies).destinationMaps pids false) tgid pid uid
          gid (.v4 address) mark ↔
      FamiliesAgree text configs policies pids uid tgid address := by
  rw [connectMark_eq, connectMark_eq, Option.some.injEq, (markAfter_injective mark).eq_iff,
    Bool.eq_iff_iff]
  have h₆ := marks_iff text configs policies pids uid tgid (.v6 address.toIpv6Mapped)
  have h₄ := marks_iff text configs policies pids uid tgid (.v4 address)
  simp only [IpAddr.isIpv6] at h₆ h₄
  rw [h₆, h₄]
  exact decisions_agree_iff _ _ _ _ _ _

/-- User 1000 excludes 192.0.2.0/24. A connect to 192.0.2.7 leaves the VPN from an IPv4 socket and
stays in it from a dual-stack socket. -/
theorem mapped_decision_ne :
    connectMark ⟨3, 4, 6, 8, by decide⟩
        ((policyImage decimalText oneNetwork ∅).destinationMaps ∅ true) 42 42 1000 1000
        (.v6 (Ipv4Addr.toIpv6Mapped 0xc0000207)) 0 ≠
      connectMark ⟨3, 4, 5, 7, by decide⟩
        ((policyImage decimalText oneNetwork ∅).destinationMaps ∅ false) 42 42 1000 1000
        (.v4 0xc0000207) 0 := by
  rw [connectMark_eq, connectMark_eq]
  decide +kernel

end ProtonVpnOmarchy.Splitd.Bpf
