import ProtonVpnOmarchy.Splitd.Bpf.Destinations

/-!
# Histories of synchronisations

The marker records which configurations it wrote last and takes the record for the content of the
kernel's maps: a call with the recorded configurations returns at once. `Synced` says that the
record is right. It is kept by every call whose rollback is not refused (`sync_synced`), whatever
operation of the replacement is refused, and is lost when a rollback fails.
-/

namespace ProtonVpnOmarchy.Splitd.Bpf

open Std (ExtTreeMap)
open Lib Lib.Fallible

/-- A call of `sync_configs`, and what the kernel refuses during it. -/
structure SyncCall where
  configs : ConfigMap
  destinationPolicies : PolicyMap
  faults : SyncFaults

/-- Source: `bpf.rs` `SocketMarker::sync_configs` -/
def SocketMarker.sync (text : IpNetText) (marker : SocketMarker) (call : SyncCall) :
    Except IoError Unit × SocketMarker :=
  (syncConfigs text call.faults call.configs call.destinationPolicies).exec marker

/-- The markers reachable from a freshly attached one through calls that meet `P`. -/
inductive Reachable (text : IpNetText) (P : SocketMarker → SyncCall → Prop) : SocketMarker → Prop
  | attach : Reachable text P {}
  | sync {marker : SocketMarker} {call : SyncCall} (hreach : Reachable text P marker)
      (hcall : P marker call) : Reachable text P (marker.sync text call).2

/-- The maps hold what the marker recorded. -/
structure Synced (text : IpNetText) (marker : SocketMarker) : Prop where
  policy_eq : marker.policy = policyImage text marker.configs marker.destinationPolicies
  parses : Parses text marker.configs marker.destinationPolicies

/-- No refused operation of the call can leave a wrong entry: its ranges parse, its rollback is not
refused, and a refused mode deletion is overwritten. -/
structure Harmless (text : IpNetText) (marker : SocketMarker) (call : SyncCall) : Prop where
  parses : Parses text call.configs call.destinationPolicies
  rollback : ∀ n op, call.faults.rollback n op = none
  mode : HarmlessModeFaults call.faults.replace marker.configs call.configs

/-! ## Sample configurations -/

/-- One user, one application, in mode `mode`. -/
def oneApplication (mode : SplitMode) : ConfigMap :=
  (∅ : ConfigMap).insert 1000 { mode := mode, appPaths := ["/usr/bin/firefox"], ipRanges := [] }

/-- One user, one application and one network, excluded. -/
def oneNetwork : ConfigMap :=
  (∅ : ConfigMap).insert 1000
    { mode := .exclude, appPaths := ["/usr/bin/firefox"], ipRanges := ["192.0.2.0/24"] }

theorem validated_insert {text : IpNetText} {uid : UInt16} {config : SplitConfig}
    (h : config.validate text = .ok config) :
    Validated text ((∅ : ConfigMap).insert uid config) ∅ := by
  refine ⟨?_, by simp⟩
  intro uid' config' hget
  rw [ExtTreeMap.getElem?_insert] at hget
  split_ifs at hget
  · obtain rfl := Option.some.inj hget
    exact ⟨config, h⟩
  · simp at hget

theorem oneApplication_validated (mode : SplitMode) :
    Validated decimalText (oneApplication mode) ∅ := by
  cases mode <;> exact validated_insert (by decide)

theorem oneNetwork_validated : Validated decimalText oneNetwork ∅ := validated_insert (by decide)

/-- The kernel refuses to write mode entries. -/
def refuseModes : PolicyFaults := fun _ op =>
  match op with
  | .update (.mode _) _ => some { kind := .os 12, message := "Cannot allocate memory" }
  | _ => none

def noFaults : PolicyFaults := fun _ _ => none

section history

variable {text : IpNetText} {marker : SocketMarker} {call : SyncCall}

/-- What a call can do: return at once, replace the maps, or stop and roll back. -/
theorem sync_cases (text : IpNetText) (marker : SocketMarker) (call : SyncCall) :
    (call.configs = marker.configs ∧ call.destinationPolicies = marker.destinationPolicies ∧
        marker.sync text call = (.ok (), marker)) ∨
      (∃ p, (replaceMaps text call.faults.replace marker.configs marker.destinationPolicies
            call.configs call.destinationPolicies).exec ⟨0, marker.policy⟩ = (.ok (), p) ∧
          marker.sync text call = (.ok (), { marker with
            policy := p.state
            configs := call.configs
            destinationPolicies := call.destinationPolicies })) ∨
      ∃ error p result p', (replaceMaps text call.faults.replace marker.configs
            marker.destinationPolicies call.configs call.destinationPolicies).exec
              ⟨0, marker.policy⟩ = (.error error, p) ∧
          (replaceMaps text call.faults.rollback call.configs call.destinationPolicies
            marker.configs marker.destinationPolicies).exec ⟨0, p.state⟩ = (result, p') ∧
          ∃ error, marker.sync text call = (.error error, { marker with policy := p'.state }) := by
  unfold SocketMarker.sync syncConfigs
  rw [exec_ofFun]
  split_ifs with hsame
  · exact .inl ⟨hsame.1, hsame.2, rfl⟩
  · right
    rcases hreplace : (replaceMaps text call.faults.replace marker.configs
      marker.destinationPolicies call.configs call.destinationPolicies).exec
      ⟨0, marker.policy⟩ with ⟨error | _, p⟩
    · right
      rcases hrollback : (replaceMaps text call.faults.rollback call.configs
        call.destinationPolicies marker.configs marker.destinationPolicies).exec
        ⟨0, p.state⟩ with ⟨rollback | _, p'⟩
      · refine ⟨error, p, _, p', rfl, hrollback, ?_⟩
        simp only [hrollback]
        exact ⟨_, rfl⟩
      · refine ⟨error, p, _, p', rfl, hrollback, ?_⟩
        simp only [hrollback]
        exact ⟨_, rfl⟩
    · exact .inl ⟨p, rfl, rfl⟩

theorem image_all_left {configs configs' : ConfigMap} {policies policies' : PolicyMap} :
    (policyImage text configs policies).All fun cell value =>
      (policyImage text configs policies).get cell = some value ∨
        (policyImage text configs' policies').get cell = some value :=
  fun _ _ h => .inl h

theorem image_all_right {configs configs' : ConfigMap} {policies policies' : PolicyMap} :
    (policyImage text configs' policies').All fun cell value =>
      (policyImage text configs policies).get cell = some value ∨
        (policyImage text configs' policies').get cell = some value :=
  fun _ _ h => .inr h

/-- A harmless call keeps the record right, and records what it was given exactly if it returns. -/
theorem sync_synced (hsynced : Synced text marker) (hcall : Harmless text marker call) :
    Synced text (marker.sync text call).2 ∧
      (((marker.sync text call).1 = .ok () ∧ (marker.sync text call).2.configs = call.configs ∧
          (marker.sync text call).2.destinationPolicies = call.destinationPolicies) ∨
        ∃ error, (marker.sync text call).1 = .error error ∧
          (marker.sync text call).2.configs = marker.configs ∧
          (marker.sync text call).2.destinationPolicies = marker.destinationPolicies) := by
  rcases sync_cases text marker call with ⟨hconfigs, hpolicies, hsync⟩ | ⟨p, hreplace, hsync⟩ |
    ⟨error, p, result, p', hreplace, hrollback, error', hsync⟩
  · rw [hsync]
    exact ⟨hsynced, .inl ⟨rfl, hconfigs.symm, hpolicies.symm⟩⟩
  · rw [hsync]
    refine ⟨⟨?_, hcall.parses⟩, .inl ⟨rfl, rfl, rfl⟩⟩
    refine replaceMaps_ok hcall.parses ?_ hcall.mode hreplace
    rw [hsynced.policy_eq]
    exact image_all_left
  · rw [hsync]
    refine ⟨⟨?_, hsynced.parses⟩, .inr ⟨error', rfl, rfl, rfl⟩⟩
    have hreturns := replaceMaps_returns ⟨0, p.state⟩ hcall.rollback hcall.parses hsynced.parses
    rw [hrollback] at hreturns
    subst hreturns
    -- the stopped replacement left old and new entries only
    have hwithin : p.state.All fun cell value =>
        (policyImage text call.configs call.destinationPolicies).get cell = some value ∨
          (policyImage text marker.configs marker.destinationPolicies).get cell = some value := by
      refine replaceMaps_all hreplace ?_ image_all_left
      rw [hsynced.policy_eq]
      exact image_all_right
    exact replaceMaps_ok (p := ⟨0, p.state⟩) hsynced.parses hwithin
      (fun n uid h => absurd (hcall.rollback n _) h) hrollback

theorem synced_of_reachable {P : SocketMarker → SyncCall → Prop}
    (hP : ∀ marker call, P marker call → Harmless text marker call)
    (hreach : Reachable text P marker) : Synced text marker := by
  induction hreach with
  | attach => exact ⟨rfl, by simp [Parses]⟩
  | sync hreach hcall ih => exact (sync_synced ih (hP _ _ hcall)).1

/-- **A synchronisation that returns is right after every harmless history.** In particular the
early return of a call with the recorded configurations reports success over maps that hold them. -/
theorem sync_ok_policy (hreach : Reachable text (Harmless text) marker)
    (hcall : Harmless text marker call) (hok : (marker.sync text call).1 = .ok ()) :
    (marker.sync text call).2.policy =
      policyImage text call.configs call.destinationPolicies := by
  have hsynced := synced_of_reachable (fun _ _ h => h) hreach
  obtain ⟨hsynced', h | ⟨error, h, -⟩⟩ := sync_synced hsynced hcall
  · rw [hsynced'.policy_eq, h.2.1, h.2.2]
  · rw [hok] at h
    cases h

/-- Switching the mode fails and is rolled back; the old configuration is then reported as set. -/
theorem sync_ok_policy_after_rollback :
    (((({} : SocketMarker).sync decimalText ⟨oneApplication .exclude, ∅, noFaults, noFaults⟩).2.sync
      decimalText ⟨oneApplication .include, ∅, refuseModes, noFaults⟩).2.sync decimalText
        ⟨oneApplication .exclude, ∅, noFaults, noFaults⟩).2.policy =
      policyImage decimalText (oneApplication .exclude) ∅ := by
  have hparses : ∀ mode, Parses decimalText (oneApplication mode) ∅ := fun mode =>
    Parses.of_validated decimalText_lawful (oneApplication_validated mode)
  have hnone : ∀ n op, noFaults n op = none := fun _ _ => rfl
  refine sync_ok_policy (.sync (.sync .attach ⟨hparses _, hnone, ?_⟩) ⟨hparses _, hnone, ?_⟩)
    ⟨hparses _, hnone, ?_⟩ (by decide)
  · exact fun _ _ h => absurd rfl h
  · exact fun _ _ h => absurd rfl h
  · exact fun _ _ h => absurd rfl h

/-- Switching the mode failed, and so did its rollback. -/
def halfReplaced : SocketMarker :=
  ((({} : SocketMarker).sync decimalText ⟨oneApplication .exclude, ∅, noFaults, noFaults⟩).2.sync
    decimalText ⟨oneApplication .include, ∅, refuseModes, refuseModes⟩).2

/-- A call with the recorded configuration then returns at once, but the mode entry is gone. -/
theorem sync_ok_over_half_replaced_maps :
    Reachable decimalText (fun _ _ => True) halfReplaced ∧
      (halfReplaced.sync decimalText ⟨oneApplication .exclude, ∅, noFaults, noFaults⟩).1 = .ok () ∧
      (halfReplaced.sync decimalText ⟨oneApplication .exclude, ∅, noFaults, noFaults⟩).2.policy ≠
        policyImage decimalText (oneApplication .exclude) ∅ := by
  refine ⟨.sync (.sync .attach trivial) trivial, by decide, ?_⟩
  intro h
  have hget : none = some (0 : UInt32) := congrArg (PolicyMaps.get · (.mode 1000)) h
  cases hget

end history

/-! ## Histories whose rollbacks succeed -/

section rolledBack

variable {text : IpNetText} {marker : SocketMarker} {call : SyncCall}

/-- A call with validated configurations whose rollback and whose mode deletions are not refused. -/
structure RollsBack (text : IpNetText) (call : SyncCall) : Prop where
  validated : Validated text call.configs call.destinationPolicies
  rollback : ∀ n op, call.faults.rollback n op = none
  mode : ∀ n uid, call.faults.replace n (.delete (.mode uid)) = none

theorem RollsBack.harmless (hlaw : text.Lawful) (h : RollsBack text call) (marker : SocketMarker) :
    Harmless text marker call where
  parses := Parses.of_validated hlaw h.validated
  rollback := h.rollback
  mode n uid hne := absurd (h.mode n uid.toUInt32) hne

/-- What the marker records is validated. -/
theorem validated_of_reachable (hlaw : text.Lawful)
    (hreach : Reachable text (fun _ call => RollsBack text call) marker) :
    Validated text marker.configs marker.destinationPolicies := by
  induction hreach with
  | attach => exact ⟨by simp, by simp⟩
  | @sync marker call hreach hcall ih =>
      have hsynced := synced_of_reachable (fun marker _ h => h.harmless hlaw marker) hreach
      rcases (sync_synced hsynced (hcall.harmless hlaw marker)).2 with
        ⟨-, hconfigs, hpolicies⟩ | ⟨error, -, hconfigs, hpolicies⟩
      · rw [hconfigs, hpolicies]
        exact hcall.validated
      · rw [hconfigs, hpolicies]
        exact ih

/-- Wherever a call stops, rollback included, the maps hold entries of the recorded configurations
only or of the given ones only. -/
theorem sync_sub (hsynced : Synced text marker)
    (hreplace : ∀ n uid, call.faults.replace n (.delete (.mode uid)) = none)
    (hrollback : ∀ n uid, call.faults.rollback n (.delete (.mode uid)) = none) :
    ((marker.sync text call).2.policy.All fun cell value =>
        (policyImage text marker.configs marker.destinationPolicies).get cell = some value) ∨
      (marker.sync text call).2.policy.All fun cell value =>
        (policyImage text call.configs call.destinationPolicies).get cell = some value := by
  have hpolicy : marker.policy.All fun cell value =>
      (policyImage text marker.configs marker.destinationPolicies).get cell = some value := by
    rw [hsynced.policy_eq]
    exact fun _ _ h => h
  rcases sync_cases text marker call with ⟨-, -, hsync⟩ | ⟨p, hexec, hsync⟩ |
    ⟨error, p, result, p', hexec, hexec', error', hsync⟩
  · rw [hsync]
    exact .inl hpolicy
  · rw [hsync]
    exact replaceMaps_sub hexec hreplace (.inl hpolicy)
  · rw [hsync]
    have hstopped := replaceMaps_sub hexec hreplace (.inl hpolicy)
    exact (replaceMaps_sub hexec' hrollback hstopped.symm).symm

/-- **The maps are those of the recorded configurations after every history of calls**, each of
which may be stopped at any operation: the new ones after a call that returns, the previous ones
after one that fails. A lookup hits exactly if one of the user's ranges contains the destination.
With at most 64 users no map outgrows its capacity, wherever the call and its rollback stop. -/
theorem sync_policy_exact (hlaw : text.Lawful)
    (hreach : Reachable text (fun _ call => RollsBack text call) marker)
    (hcall : RollsBack text call) :
    (((marker.sync text call).1 = .ok () ∧ (marker.sync text call).2.configs = call.configs ∧
          (marker.sync text call).2.destinationPolicies = call.destinationPolicies) ∨
        ∃ error, (marker.sync text call).1 = .error error ∧
          (marker.sync text call).2.configs = marker.configs ∧
          (marker.sync text call).2.destinationPolicies = marker.destinationPolicies) ∧
      (marker.sync text call).2.policy = policyImage text (marker.sync text call).2.configs
        (marker.sync text call).2.destinationPolicies ∧
      (∀ uid value, (marker.sync text call).2.policy.mode[uid]? = some value ↔
        ∃ (u : UInt16) (config : SplitConfig),
          (marker.sync text call).2.configs[u]? = some config ∧ config.hasRules ∧
            u.toUInt32 = uid ∧ value = modeValue config) ∧
      (∀ uid destination, (((marker.sync text call).2.policy.ranges destination.isIpv6).lookup
          (lpmKey uid destination)).isSome ↔
        RangeContains text (marker.sync text call).2.configs uid destination) ∧
      (∀ uid destination, (((marker.sync text call).2.policy.bypasses destination.isIpv6).lookup
          (lpmKey uid destination)).isSome ↔
        PolicyContains text (marker.sync text call).2.destinationPolicies uid destination) ∧
      (configuredUserCount marker.configs marker.destinationPolicies ≤ MAX_CONFIGS →
        configuredUserCount call.configs call.destinationPolicies ≤ MAX_CONFIGS →
        ∀ faults : SyncFaults, (∀ n uid, faults.replace n (.delete (.mode uid)) = none) →
          (∀ n uid, faults.rollback n (.delete (.mode uid)) = none) →
          (marker.sync text { call with faults := faults }).2.policy.Fits) := by
  have hsynced := synced_of_reachable (fun marker _ h => h.harmless hlaw marker) hreach
  obtain ⟨hsynced', hrecorded⟩ := sync_synced hsynced (hcall.harmless hlaw marker)
  refine ⟨hrecorded, hsynced'.policy_eq, ?_, ?_, ?_, ?_⟩
  · intro uid value
    change (marker.sync text call).2.policy.get (.mode uid) = some value ↔ _
    rw [hsynced'.policy_eq]
    exact get_policyImage_mode
  · intro uid destination
    rw [hsynced'.policy_eq]
    exact lookup_range_iff uid destination
  · intro uid destination
    rw [hsynced'.policy_eq]
    exact lookup_bypass_iff uid destination
  · intro hcount hcount' faults hreplace hrollback
    have hvalidated := validated_of_reachable hlaw hreach
    rcases @sync_sub text marker { call with faults := faults } hsynced hreplace hrollback with h | h
    · exact fits_of_sub (Bounded.of_validated hvalidated hcount) h
    · exact fits_of_sub (Bounded.of_validated hcall.validated hcount') h

/-- A network is excluded; a second call is refused the mode entry and rolled back. -/
theorem sync_policy_exact_oneNetwork :
    ((({} : SocketMarker).sync decimalText ⟨oneNetwork, ∅, noFaults, noFaults⟩).2.sync decimalText
        ⟨oneApplication .include, ∅, refuseModes, noFaults⟩).1.isOk = false ∧
      ((({} : SocketMarker).sync decimalText ⟨oneNetwork, ∅, noFaults, noFaults⟩).2.sync decimalText
          ⟨oneApplication .include, ∅, refuseModes, noFaults⟩).2.policy =
        policyImage decimalText
          ((({} : SocketMarker).sync decimalText ⟨oneNetwork, ∅, noFaults, noFaults⟩).2.sync
            decimalText ⟨oneApplication .include, ∅, refuseModes, noFaults⟩).2.configs
          ((({} : SocketMarker).sync decimalText ⟨oneNetwork, ∅, noFaults, noFaults⟩).2.sync
            decimalText ⟨oneApplication .include, ∅, refuseModes, noFaults⟩).2.destinationPolicies := by
  have hnone : ∀ n op, noFaults n op = none := fun _ _ => rfl
  have hfirst : RollsBack decimalText ⟨oneNetwork, ∅, noFaults, noFaults⟩ :=
    ⟨oneNetwork_validated, hnone, fun _ _ => rfl⟩
  have hsecond : RollsBack decimalText ⟨oneApplication .include, ∅, refuseModes, noFaults⟩ :=
    ⟨oneApplication_validated _, hnone, fun _ _ => rfl⟩
  exact ⟨by decide +kernel, (sync_policy_exact decimalText_lawful (.sync .attach hfirst) hsecond).2.1⟩

end rolledBack

end ProtonVpnOmarchy.Splitd.Bpf
