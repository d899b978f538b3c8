import ProtonVpnOmarchy.Agent.Settings.Basic

/-!
# Settings that exclude each other

NetShield excludes custom DNS, and moderate NAT excludes port forwarding. A request for NetShield,
for moderate NAT and for port forwarding is refused while its counterpart is enabled, and a profile
with both is refused; a request for custom DNS is not.

* `profileOverrides_exclusive` — what a profile makes of any settings.
* `exclusive_afterRequests_iff` — the settings exclude each other throughout a sequence of requests
  exactly if none of them enables custom DNS while NetShield is on.
-/

namespace ProtonVpnOmarchy.Agent.Settings

open Lib Splitd Store Backend

/-! ## Sequences of requests -/

/-- A request that changes the settings, and what it finds. -/
inductive SettingsRequest where
  | featureSet (session : SessionState) (params : Value)
  | dnsSet (session : SessionState) (params : Value)
  | protocolSet (session : SessionState) (installed : Descriptors) (disconnected : Bool)
    (params : Value)
  | splitTunnelingSet (session : SessionState) (available : Bool) (params : Value)

/-- The settings that a request asks for. -/
def SettingsRequest.update : SettingsRequest → StoredSettings → NativeResult StoredSettings
  | .featureSet session params, settings => do
    let tier ← checkFeature session (featureOf params)
    featureUpdate (featureOf params) tier params settings
  | .dnsSet session params, settings => dnsUpdate session params settings
  | .protocolSet session installed disconnected params, settings =>
    protocolUpdate session installed disconnected params settings
  | .splitTunnelingSet session available params, settings =>
    splitTunnelingUpdate session available params settings

/-- A request whose settings are stored, or that fails after its checks. -/
structure Handling where
  request : SettingsRequest
  stored : Bool

/-- The settings after a request; requests hold `settings_write` from their checks to the write. -/
def Handling.next (handling : Handling) (settings : StoredSettings) : StoredSettings :=
  match handling.request.update settings with
  | .ok updated => if handling.stored then updated else settings
  | .error _ => settings

/-- The settings after a sequence of requests, from the default ones. -/
def afterRequests (handlings : List Handling) : StoredSettings :=
  handlings.foldl (fun settings handling => handling.next settings) {}

/-! ## Exclusions -/

structure Exclusive (settings : NativeSettings) : Prop where
  dns : ¬ (0 < settings.netshield ∧ settings.customDns.enabled)
  nat : ¬ (settings.moderateNat ∧ settings.portForwarding)

/-- A request enables custom DNS while NetShield is on. -/
def Handling.Clashes (handling : Handling) (settings : StoredSettings) : Prop :=
  ∃ session params customDns, handling.request = .dnsSet session params ∧ handling.stored ∧
    requestedDns session params = .ok customDns ∧ customDns.enabled ∧ 0 < settings.netshield

/-! ## What one request makes of the settings -/

theorem exclusive_default : Exclusive ({} : StoredSettings).toNativeSettings :=
  ⟨by simp, by simp⟩

theorem toUInt8_pos {level : UInt64} (h : 0 < level.toUInt8) : 0 < level := by
  rw [UInt64.lt_iff_toNat_lt]
  rw [UInt8.lt_iff_toNat_lt, UInt64.toNat_toUInt8] at h
  simp only [UInt8.toNat_zero, UInt64.toNat_zero] at h ⊢
  omega

theorem setNetshield_exclusive {tier : UInt8} {params : Value} {settings updated : StoredSettings}
    (hs : Exclusive settings.toNativeSettings)
    (h : setNetshield tier params settings = .ok updated) :
    Exclusive updated.toNativeSettings := by
  unfold setNetshield at h
  obtain ⟨_, -, h⟩ := Except.bind_eq_ok.mp h
  obtain ⟨level, -, h⟩ := Except.bind_eq_ok.mp h
  obtain ⟨_, hreject, h⟩ := Except.bind_eq_ok.mp h
  obtain rfl := Except.ok.inj h
  refine ⟨?_, hs.nat⟩
  rintro ⟨hlevel, hdns⟩
  exact reject_eq_ok hreject ⟨toUInt8_pos hlevel, hdns⟩

theorem setModerateNat_exclusive {tier : UInt8} {params : Value}
    {settings updated : StoredSettings} (hs : Exclusive settings.toNativeSettings)
    (h : setModerateNat tier params settings = .ok updated) :
    Exclusive updated.toNativeSettings := by
  unfold setModerateNat at h
  obtain ⟨_, -, h⟩ := Except.bind_eq_ok.mp h
  obtain ⟨enabled, -, h⟩ := Except.bind_eq_ok.mp h
  obtain ⟨_, hreject, h⟩ := Except.bind_eq_ok.mp h
  obtain rfl := Except.ok.inj h
  exact ⟨hs.dns, reject_eq_ok hreject⟩

theorem setPortForwarding_exclusive {tier : UInt8} {params : Value}
    {settings updated : StoredSettings} (hs : Exclusive settings.toNativeSettings)
    (h : setPortForwarding tier params settings = .ok updated) :
    Exclusive updated.toNativeSettings := by
  unfold setPortForwarding at h
  obtain ⟨_, -, h⟩ := Except.bind_eq_ok.mp h
  obtain ⟨enabled, -, h⟩ := Except.bind_eq_ok.mp h
  obtain ⟨_, hreject, h⟩ := Except.bind_eq_ok.mp h
  obtain rfl := Except.ok.inj h
  exact ⟨hs.dns, fun ⟨hnat, hforwarding⟩ => reject_eq_ok hreject ⟨hforwarding, hnat⟩⟩

theorem featureUpdate_exclusive {feature : String} {tier : UInt8} {params : Value}
    {settings updated : StoredSettings} (hs : Exclusive settings.toNativeSettings)
    (h : featureUpdate feature tier params settings = .ok updated) :
    Exclusive updated.toNativeSettings := by
  unfold featureUpdate setVpnAccelerator at h
  split at h
  case h_4 => exact setNetshield_exclusive hs h
  case h_5 =>
    obtain ⟨_, -, h⟩ := Except.bind_eq_ok.mp h
    obtain ⟨enabled, -, h⟩ := Except.bind_eq_ok.mp h
    obtain rfl := Except.ok.inj h
    exact hs
  case h_6 => exact setModerateNat_exclusive hs h
  case h_12 => exact setPortForwarding_exclusive hs h
  -- The other features are not among those that exclude each other.
  all_goals first
    | cases h
    | obtain ⟨_, -, rfl⟩ := Except.map_eq_ok.mp h
      exact ⟨hs.dns, hs.nat⟩

theorem dnsUpdate_exclusive_iff {session : SessionState} {params : Value}
    {settings updated : StoredSettings} (hs : Exclusive settings.toNativeSettings)
    (h : dnsUpdate session params settings = .ok updated) :
    Exclusive updated.toNativeSettings ↔ ¬ (0 < settings.netshield ∧ ∃ customDns,
      requestedDns session params = .ok customDns ∧ customDns.enabled) := by
  obtain ⟨customDns, hdns, rfl⟩ := Except.map_eq_ok.mp h
  constructor
  · rintro hupdated ⟨hlevel, customDns', hdns', henabled⟩
    rw [hdns, Except.ok.injEq] at hdns'
    subst hdns'
    exact hupdated.dns ⟨hlevel, henabled⟩
  · intro hno
    exact ⟨fun ⟨hlevel, henabled⟩ => hno ⟨hlevel, customDns, hdns, henabled⟩, hs.nat⟩

theorem protocolUpdate_eq_ok {session : SessionState} {installed : Descriptors}
    {disconnected : Bool} {params : Value} {settings updated : StoredSettings}
    (h : protocolUpdate session installed disconnected params settings = .ok updated) :
    ∃ protocol, updated = { settings with protocol } := by
  unfold protocolUpdate at h
  obtain ⟨_, -, h⟩ := Except.bind_eq_ok.mp h
  obtain ⟨value, -, h⟩ := Except.bind_eq_ok.mp h
  obtain ⟨_, -, h⟩ := Except.bind_eq_ok.mp h
  obtain ⟨_, -, h⟩ := Except.bind_eq_ok.mp h
  exact ⟨value, (Except.ok.inj h).symm⟩

theorem splitTunnelingUpdate_eq_ok {session : SessionState} {available : Bool} {params : Value}
    {settings updated : StoredSettings}
    (h : splitTunnelingUpdate session available params settings = .ok updated) :
    ∃ splitTunneling, updated = { settings with splitTunneling } := by
  unfold splitTunnelingUpdate at h
  obtain ⟨_, -, h⟩ := Except.bind_eq_ok.mp h
  obtain ⟨_, -, h⟩ := Except.bind_eq_ok.mp h
  obtain ⟨enabled, -, h⟩ := Except.bind_eq_ok.mp h
  obtain ⟨mode, -, h⟩ := Except.bind_eq_ok.mp h
  obtain ⟨standard, -, h⟩ := Except.bind_eq_ok.mp h
  obtain ⟨inverse, -, h⟩ := Except.bind_eq_ok.mp h
  obtain ⟨_, -, h⟩ := Except.bind_eq_ok.mp h
  exact ⟨_, (Except.ok.inj h).symm⟩

/-- The settings still exclude each other exactly if the request does not clash. -/
theorem next_exclusive_iff {handling : Handling} {settings : StoredSettings}
    (hs : Exclusive settings.toNativeSettings) :
    Exclusive (handling.next settings).toNativeSettings ↔ ¬ handling.Clashes settings := by
  obtain ⟨request, stored⟩ := handling
  cases hupdate : request.update settings with
  | error error =>
      have hnext : Handling.next ⟨request, stored⟩ settings = settings := by
        simp only [Handling.next, hupdate]
      rw [hnext]
      refine iff_of_true hs ?_
      rintro ⟨session, params, customDns, hrequest, -, hdns, -⟩
      obtain rfl : request = .dnsSet session params := hrequest
      simp only [SettingsRequest.update, dnsUpdate, hdns, Except.map] at hupdate
      cases hupdate
  | ok updated =>
      have hnext : Handling.next ⟨request, stored⟩ settings =
          if stored then updated else settings := by
        simp only [Handling.next, hupdate]
      rw [hnext]
      cases stored with
      | false =>
          refine iff_of_true hs ?_
          rintro ⟨_, _, _, -, hstored, -⟩
          cases hstored
      | true =>
          rw [if_pos rfl]
          cases request with
          | featureSet session params =>
              obtain ⟨tier, -, hupdate⟩ := Except.bind_eq_ok.mp hupdate
              refine iff_of_true (featureUpdate_exclusive hs hupdate) ?_
              rintro ⟨_, _, _, hrequest, -⟩
              cases hrequest
          | dnsSet session params =>
              rw [dnsUpdate_exclusive_iff hs hupdate, not_iff_not]
              constructor
              · rintro ⟨hlevel, customDns, hdns, henabled⟩
                exact ⟨session, params, customDns, rfl, rfl, hdns, henabled, hlevel⟩
              · rintro ⟨_, _, customDns, hrequest, -, hdns, henabled, hlevel⟩
                cases hrequest
                exact ⟨hlevel, customDns, hdns, henabled⟩
          | protocolSet session installed disconnected params =>
              obtain ⟨protocol, rfl⟩ := protocolUpdate_eq_ok hupdate
              refine iff_of_true ⟨hs.dns, hs.nat⟩ ?_
              rintro ⟨_, _, _, hrequest, -⟩
              cases hrequest
          | splitTunnelingSet session available params =>
              obtain ⟨split, rfl⟩ := splitTunnelingUpdate_eq_ok hupdate
              refine iff_of_true hs ?_
              rintro ⟨_, _, _, hrequest, -⟩
              cases hrequest

/-! ## What a profile makes of the settings -/

/-- A profile settles both exclusions, whatever the settings are. -/
theorem profileOverrides_exclusive {installed : Descriptors} {raw : Map} {global : NativeSettings}
    {tier : UInt8} {result : NativeSettings × String × Bool}
    (h : profileOverrides installed raw global tier = .ok result) : Exclusive result.1 := by
  unfold profileOverrides at h
  obtain ⟨_, -, h⟩ := Except.bind_eq_ok.mp h
  obtain ⟨netshieldEnabled, -, h⟩ := Except.bind_eq_ok.mp h
  obtain ⟨netshieldLevel, -, h⟩ := Except.bind_eq_ok.mp h
  obtain ⟨moderateNat, -, h⟩ := Except.bind_eq_ok.mp h
  obtain ⟨portForwarding, -, h⟩ := Except.bind_eq_ok.mp h
  obtain ⟨customDns, -, h⟩ := Except.bind_eq_ok.mp h
  obtain ⟨allowLanConnections, -, h⟩ := Except.bind_eq_ok.mp h
  obtain ⟨allowLocalDns, -, h⟩ := Except.bind_eq_ok.mp h
  obtain ⟨_, -, h⟩ := Except.bind_eq_ok.mp h
  obtain ⟨_, hnat, h⟩ := Except.bind_eq_ok.mp h
  obtain ⟨_, hdns, h⟩ := Except.bind_eq_ok.mp h
  obtain rfl := Except.ok.inj h
  refine ⟨?_, reject_eq_ok hnat⟩
  rintro ⟨hlevel, henabled⟩
  cases netshieldEnabled with
  | false => simp at hlevel
  | true =>
      cases customDns with
      | none => simp at henabled
      | some customDns => exact reject_eq_ok hdns ⟨rfl, henabled⟩

theorem effectiveConnectionSettings_exclusive {installed : Descriptors} {params : Value}
    {global : NativeSettings} {tier : UInt8} {result : NativeSettings × String × Bool}
    (hglobal : Exclusive global)
    (h : effectiveConnectionSettings installed params global tier = .ok result) :
    Exclusive result.1 := by
  unfold effectiveConnectionSettings at h
  split at h
  · obtain ⟨_, -, h⟩ := Except.bind_eq_ok.mp h
    obtain rfl := Except.ok.inj h
    exact hglobal
  · obtain ⟨raw, -, h⟩ := Except.bind_eq_ok.mp h
    exact profileOverrides_exclusive h

/-! ## Sequences of requests -/

theorem afterRequests_append (handlings : List Handling) (handling : Handling) :
    afterRequests (handlings ++ [handling]) = handling.next (afterRequests handlings) := by
  simp [afterRequests]

/-- The settings exclude each other throughout, and so do those of every connection, exactly if no
request that is stored enables custom DNS while NetShield is on. -/
theorem exclusive_afterRequests_iff (handlings : List Handling) :
    (∀ earlier, earlier <+: handlings →
      Exclusive (afterRequests earlier).toNativeSettings ∧
        ∀ installed params tier result, effectiveConnectionSettings installed params
          (afterRequests earlier).toNativeSettings tier = .ok result → Exclusive result.1) ↔
      ∀ earlier handling, earlier ++ [handling] <+: handlings →
        ¬ handling.Clashes (afterRequests earlier) := by
  constructor
  · intro hexclusive earlier handling hprefix
    have hearlier := (hexclusive earlier ((List.prefix_append _ _).trans hprefix)).1
    rw [← next_exclusive_iff hearlier, ← afterRequests_append]
    exact (hexclusive _ hprefix).1
  · intro hclash
    have hexclusive : ∀ earlier, earlier <+: handlings →
        Exclusive (afterRequests earlier).toNativeSettings := by
      intro earlier
      induction earlier using List.reverseRecOn with
      | nil => exact fun _ => exclusive_default
      | append_singleton earlier handling ih =>
          intro hprefix
          rw [afterRequests_append]
          exact (next_exclusive_iff (ih ((List.prefix_append _ _).trans hprefix))).mpr
            (hclash earlier handling hprefix)
    intro earlier hprefix
    exact ⟨hexclusive earlier hprefix, fun _ _ _ _ h =>
      effectiveConnectionSettings_exclusive (hexclusive earlier hprefix) h⟩

/-- NetShield at level 2, then custom DNS. -/
theorem not_exclusive_afterRequests : ¬ ∀ handlings : List Handling,
    Exclusive (afterRequests handlings).toNativeSettings := by
  intro h
  have hdns := (h [
    ⟨.featureSet { tier := some 2 }
      (.obj [("feature", .string "netshield"), ("value", .number (.posInt 2))]), true⟩,
    ⟨.dnsSet { tier := some 2 }
      (.obj [("enabled", .bool true), ("servers", .array [.string "9.9.9.9"])]), true⟩]).dns
  revert hdns
  decide +kernel

end ProtonVpnOmarchy.Agent.Settings
