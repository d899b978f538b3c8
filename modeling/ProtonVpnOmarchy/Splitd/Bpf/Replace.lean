import ProtonVpnOmarchy.Splitd.Bpf.Maps

/-!
# Replacing the policy maps

`policyImage` is what the five policy maps are to hold for given configurations and destination
policies. `replace_maps` deletes the entries of the old configurations and then writes those of the
new ones; any of its operations can be refused.

* `replaceMaps_ok` — a replacement that returns leaves exactly the image of the new configurations,
  from every state whose entries are old or new ones.
* `replaceMaps_all` — wherever a replacement stops, its entries are old or new ones; with the first
  result this is what makes the rollback work.
* `replaceMaps_sub` — it never holds old and new entries at the same time, which bounds the maps
  during a replacement too.
-/

namespace ProtonVpnOmarchy.Splitd.Bpf

open Std (ExtTreeMap)
open Lib Lib.Fallible

/-! ## The maps of a configuration -/

section image

variable (text : IpNetText)

/-- The networks of those ranges that parse. -/
def networks (ranges : List String) : List IpNet :=
  ranges.filterMap fun range => (parseIpRange text range).toOption

/-- The entries the configurations and destination policies ask for. -/
def policyEntries (configs : ConfigMap) (policies : PolicyMap) : List (Cell × UInt32) :=
  ((configs.toList.filter fun (_, config) => config.hasRules).flatMap fun (uid, config) =>
      (.mode uid.toUInt32, modeValue config) ::
        (networks text config.ipRanges).map fun network =>
          (rangeCell .range uid.toUInt32 network, (1 : UInt32))) ++
    policies.toList.flatMap fun (uid, ranges) =>
      (networks text ranges).map fun network => (rangeCell .bypass uid.toUInt32 network, (1 : UInt32))

/-- The maps that hold exactly these entries. -/
def policyImage (configs : ConfigMap) (policies : PolicyMap) : PolicyMaps :=
  PolicyMaps.fill {} (policyEntries text configs policies)

variable {text}

/-- Range entries are not mode entries. -/
theorem rangeCell_ne_mode {cell : Bool → List Bool → Cell}
    (hcell : ∀ ipv6 key uid, cell ipv6 key ≠ .mode uid) (uid uid' : UInt32) (network : IpNet) :
    rangeCell cell uid network ≠ .mode uid' := by
  cases network <;> exact hcell _ _ _

theorem mem_policyEntries {configs : ConfigMap} {policies : PolicyMap} {entry : Cell × UInt32} :
    entry ∈ policyEntries text configs policies ↔
      (∃ (uid : UInt16) (config : SplitConfig), configs[uid]? = some config ∧ config.hasRules ∧
        (entry = (.mode uid.toUInt32, modeValue config) ∨
          ∃ network ∈ networks text config.ipRanges,
            entry = (rangeCell .range uid.toUInt32 network, 1))) ∨
      ∃ (uid : UInt16) (ranges : List String), policies[uid]? = some ranges ∧
        ∃ network ∈ networks text ranges, entry = (rangeCell .bypass uid.toUInt32 network, 1) := by
  unfold policyEntries
  rw [List.mem_append, List.mem_flatMap, List.mem_flatMap]
  constructor
  · rintro (⟨⟨uid, config⟩, hmem, hentry⟩ | ⟨⟨uid, ranges⟩, hmem, hentry⟩)
    · obtain ⟨hmem, hrules⟩ := List.mem_filter.mp hmem
      refine .inl ⟨uid, config, ExtTreeMap.mem_toList_iff_getElem?_eq_some.mp hmem, hrules, ?_⟩
      rcases List.mem_cons.mp hentry with h | h
      · exact .inl h
      · obtain ⟨network, hnetwork, h⟩ := List.mem_map.mp h
        exact .inr ⟨network, hnetwork, h.symm⟩
    · obtain ⟨network, hnetwork, h⟩ := List.mem_map.mp hentry
      exact .inr ⟨uid, ranges, ExtTreeMap.mem_toList_iff_getElem?_eq_some.mp hmem, network,
        hnetwork, h.symm⟩
  · rintro (⟨uid, config, hget, hrules, hentry⟩ | ⟨uid, ranges, hget, network, hnetwork, rfl⟩)
    · refine .inl ⟨(uid, config), List.mem_filter.mpr
        ⟨ExtTreeMap.mem_toList_iff_getElem?_eq_some.mpr hget, hrules⟩, ?_⟩
      rcases hentry with rfl | ⟨network, hnetwork, rfl⟩
      · exact List.mem_cons_self
      · exact List.mem_cons_of_mem _ (List.mem_map.mpr ⟨network, hnetwork, rfl⟩)
    · exact .inr ⟨(uid, ranges), ExtTreeMap.mem_toList_iff_getElem?_eq_some.mpr hget,
        List.mem_map.mpr ⟨network, hnetwork, rfl⟩⟩

/-- Only mode entries carry a value of their own. -/
theorem policyEntries_value {configs : ConfigMap} {policies : PolicyMap} {cell : Cell}
    {value : UInt32} (h : (cell, value) ∈ policyEntries text configs policies) :
    (∃ (uid : UInt16) (config : SplitConfig), configs[uid]? = some config ∧ config.hasRules ∧
        cell = .mode uid.toUInt32 ∧ value = modeValue config) ∨
      ((∀ uid, cell ≠ .mode uid) ∧ value = 1) := by
  rcases mem_policyEntries.mp h with ⟨uid, config, hget, hrules, h | ⟨network, -, h⟩⟩ |
    ⟨uid, ranges, -, network, -, h⟩
  · obtain ⟨rfl, rfl⟩ := Prod.mk.inj h
    exact .inl ⟨uid, config, hget, hrules, rfl, rfl⟩
  · obtain ⟨rfl, rfl⟩ := Prod.mk.inj h
    exact .inr ⟨fun uid' => rangeCell_ne_mode (by simp) _ uid' network, rfl⟩
  · obtain ⟨rfl, rfl⟩ := Prod.mk.inj h
    exact .inr ⟨fun uid' => rangeCell_ne_mode (by simp) _ uid' network, rfl⟩

theorem toUInt32_injective : Function.Injective UInt16.toUInt32 := by
  intro a b h
  have := congrArg UInt32.toNat h
  simp only [UInt16.toNat_toUInt32] at this
  exact UInt16.toNat_inj.mp this

theorem policyEntries_functional (configs : ConfigMap) (policies : PolicyMap) (cell : Cell)
    (v v' : UInt32) (h : (cell, v) ∈ policyEntries text configs policies)
    (h' : (cell, v') ∈ policyEntries text configs policies) : v = v' := by
  rcases policyEntries_value h with ⟨uid, config, hget, -, rfl, rfl⟩ | ⟨hmode, rfl⟩
  · rcases policyEntries_value h' with ⟨uid', config', hget', -, hcell, rfl⟩ | ⟨hmode, -⟩
    · simp only [Cell.mode.injEq] at hcell
      obtain rfl := toUInt32_injective hcell
      rw [hget, Option.some.injEq] at hget'
      rw [hget']
    · exact absurd rfl (hmode _)
  · rcases policyEntries_value h' with ⟨uid', config', -, -, rfl, -⟩ | ⟨-, rfl⟩
    · exact absurd rfl (hmode _)
    · rfl

/-- The image holds exactly the entries. -/
theorem get_policyImage {configs : ConfigMap} {policies : PolicyMap} {cell : Cell}
    {value : UInt32} : (policyImage text configs policies).get cell = some value ↔
      (cell, value) ∈ policyEntries text configs policies :=
  PolicyMaps.get_fill_eq_some_iff (policyEntries_functional configs policies)

theorem get_policyImage_mode {configs : ConfigMap} {policies : PolicyMap} {uid : UInt32}
    {value : UInt32} : (policyImage text configs policies).get (.mode uid) = some value ↔
      ∃ (u : UInt16) (config : SplitConfig), configs[u]? = some config ∧ config.hasRules ∧ u.toUInt32 = uid ∧
        value = modeValue config := by
  rw [get_policyImage]
  constructor
  · intro h
    rcases policyEntries_value h with ⟨u, config, hget, hrules, hcell, hvalue⟩ | ⟨hmode, -⟩
    · exact ⟨u, config, hget, hrules, (Cell.mode.inj hcell).symm, hvalue⟩
    · exact absurd rfl (hmode uid)
  · rintro ⟨u, config, hget, hrules, rfl, rfl⟩
    exact mem_policyEntries.mpr (.inl ⟨u, config, hget, hrules, .inl rfl⟩)

end image

/-! ## The steps of a replacement -/

section steps

variable {text : IpNetText} {configs : ConfigMap} {policies : PolicyMap}

/-- Every range is the text of a network. -/
def Parses (text : IpNetText) (configs : ConfigMap) (policies : PolicyMap) : Prop :=
  (∀ (uid : UInt16) (config : SplitConfig), configs[uid]? = some config →
      ∀ range ∈ config.ipRanges, ∃ network, parseIpRange text range = .ok network) ∧
    ∀ (uid : UInt16) (ranges : List String), policies[uid]? = some ranges →
      ∀ range ∈ ranges, ∃ network, parseIpRange text range = .ok network

/-- Validated ranges are texts of networks. -/
theorem Parses.of_validated (hlaw : text.Lawful) (h : Validated text configs policies) :
    Parses text configs policies := by
  constructor
  · intro uid config hget range hrange
    obtain ⟨network, -, hparse⟩ := parseIpRange_canonical hlaw ((h.config_spec hget).1 range hrange)
    exact ⟨network, hparse⟩
  · intro uid ranges hget range hrange
    obtain ⟨network, -, hparse⟩ := parseIpRange_canonical hlaw ((h.policy_spec hget).1 range hrange)
    exact ⟨network, hparse⟩

theorem mem_networks {ranges : List String} {network : IpNet} :
    network ∈ networks text ranges ↔ ∃ range ∈ ranges, parseIpRange text range = .ok network := by
  unfold networks
  rw [List.mem_filterMap]
  constructor
  · rintro ⟨range, hrange, h⟩
    refine ⟨range, hrange, ?_⟩
    cases hparse : parseIpRange text range with
    | error error => simp [hparse, Except.toOption] at h
    | ok network' => simpa [hparse, Except.toOption] using h
  · rintro ⟨range, hrange, h⟩
    exact ⟨range, hrange, by simp [h, Except.toOption]⟩

/-- A range step is an operation on the entry of a network of the list. -/
theorem rangeStep_op {cell : Bool → List Bool → Cell} {op : Cell → MapOp} {uid : UInt32}
    {ranges : List String} {step : Step MapOp IoError} {o : MapOp}
    (hstep : step ∈ ranges.map (rangeStep text cell op uid)) (ho : o ∈ step.op?) :
    ∃ network ∈ networks text ranges, o = op (rangeCell cell uid network) := by
  obtain ⟨range, hrange, rfl⟩ := List.mem_map.mp hstep
  unfold rangeStep at ho
  cases hparse : parseIpRange text range with
  | error error => simp [hparse, Step.op?] at ho
  | ok network =>
      refine ⟨network, mem_networks.mpr ⟨range, hrange, hparse⟩, ?_⟩
      simpa [hparse, Step.op?] using ho.symm

theorem rangeStep_mem {cell : Bool → List Bool → Cell} {op : Cell → MapOp} {uid : UInt32}
    {ranges : List String} {network : IpNet} (h : network ∈ networks text ranges) :
    .attempt (op (rangeCell cell uid network)) ∈ ranges.map (rangeStep text cell op uid) := by
  obtain ⟨range, hrange, hparse⟩ := mem_networks.mp h
  exact List.mem_map.mpr ⟨range, hrange, by simp [rangeStep, hparse]⟩

/-- The deletion pass only deletes. -/
theorem deletionSteps_op {step : Step MapOp IoError} {op : MapOp}
    (hstep : step ∈ deletionSteps text configs policies) (hop : op ∈ step.op?) :
    ∃ cell, op = .delete cell := by
  rcases List.mem_append.mp hstep with h | h
  · obtain ⟨⟨uid, config⟩, -, h⟩ := List.mem_flatMap.mp h
    rcases List.mem_cons.mp h with rfl | h
    · exact ⟨_, (Option.some.inj hop).symm⟩
    · obtain ⟨network, -, rfl⟩ := rangeStep_op h hop
      exact ⟨_, rfl⟩
  · obtain ⟨⟨uid, ranges⟩, -, h⟩ := List.mem_flatMap.mp h
    obtain ⟨network, -, rfl⟩ := rangeStep_op h hop
    exact ⟨_, rfl⟩

/-- The deletion pass visits every entry of the image; only a mode entry's deletion is one whose
refusal is ignored. -/
theorem mem_deletionSteps {cell : Cell} {value : UInt32}
    (h : (cell, value) ∈ policyEntries text configs policies) :
    .attempt (.delete cell) ∈ deletionSteps text configs policies ∨
      .ignore (.delete cell) ∈ deletionSteps text configs policies ∧ ∃ uid, cell = .mode uid := by
  unfold deletionSteps
  rcases mem_policyEntries.mp h with ⟨uid, config, hget, hrules, h | ⟨network, hnetwork, h⟩⟩ |
    ⟨uid, ranges, hget, network, hnetwork, h⟩
  · obtain ⟨rfl, rfl⟩ := Prod.mk.inj h
    refine .inr ⟨List.mem_append_left _ (List.mem_flatMap.mpr ⟨(uid, config), ?_, ?_⟩), _, rfl⟩
    · exact ExtTreeMap.mem_toList_iff_getElem?_eq_some.mpr hget
    · exact List.mem_cons_self
  · obtain ⟨rfl, rfl⟩ := Prod.mk.inj h
    refine .inl (List.mem_append_left _ (List.mem_flatMap.mpr ⟨(uid, config), ?_, ?_⟩))
    · exact ExtTreeMap.mem_toList_iff_getElem?_eq_some.mpr hget
    · exact List.mem_cons_of_mem _ (rangeStep_mem hnetwork)
  · obtain ⟨rfl, rfl⟩ := Prod.mk.inj h
    refine .inl (List.mem_append_right _ (List.mem_flatMap.mpr ⟨(uid, ranges), ?_, ?_⟩))
    · exact ExtTreeMap.mem_toList_iff_getElem?_eq_some.mpr hget
    · exact rangeStep_mem hnetwork

/-- The insertion pass only writes entries of the image. -/
theorem insertionSteps_op {step : Step MapOp IoError} {op : MapOp}
    (hstep : step ∈ insertionSteps text configs policies) (hop : op ∈ step.op?) :
    ∃ cell value, op = .update cell value ∧
      (cell, value) ∈ policyEntries text configs policies := by
  rcases List.mem_append.mp hstep with h | h
  · obtain ⟨⟨uid, config⟩, hmem, h⟩ := List.mem_flatMap.mp h
    obtain ⟨hmem, hrules⟩ := List.mem_filter.mp hmem
    have hget := ExtTreeMap.mem_toList_iff_getElem?_eq_some.mp hmem
    rcases List.mem_cons.mp h with rfl | h
    · exact ⟨_, _, (Option.some.inj hop).symm,
        mem_policyEntries.mpr (.inl ⟨uid, config, hget, hrules, .inl rfl⟩)⟩
    · obtain ⟨network, hnetwork, rfl⟩ := rangeStep_op h hop
      exact ⟨_, _, rfl, mem_policyEntries.mpr
        (.inl ⟨uid, config, hget, hrules, .inr ⟨network, hnetwork, rfl⟩⟩)⟩
  · obtain ⟨⟨uid, ranges⟩, hmem, h⟩ := List.mem_flatMap.mp h
    obtain ⟨network, hnetwork, rfl⟩ := rangeStep_op h hop
    exact ⟨_, _, rfl, mem_policyEntries.mpr (.inr ⟨uid, ranges,
      ExtTreeMap.mem_toList_iff_getElem?_eq_some.mp hmem, network, hnetwork, rfl⟩)⟩

theorem map_rangeStep_of_parses {cell : Bool → List Bool → Cell} {op : Cell → MapOp} {uid : UInt32}
    {ranges : List String}
    (h : ∀ range ∈ ranges, ∃ network, parseIpRange text range = .ok network) :
    ranges.map (rangeStep text cell op uid) =
      (networks text ranges).map fun network => .attempt (op (rangeCell cell uid network)) := by
  induction ranges with
  | nil => rfl
  | cons range ranges ih =>
      obtain ⟨network, hparse⟩ := h range List.mem_cons_self
      have ih := ih fun range hrange => h range (List.mem_cons_of_mem _ hrange)
      unfold networks at ih ⊢
      rw [List.map_cons, ih, List.filterMap_cons_some (b := network) (by simp [hparse, Except.toOption])]
      simp [rangeStep, hparse]

/-- If every range parses, the insertion pass attempts the entries of the image in order. -/
theorem insertionSteps_eq (h : Parses text configs policies) :
    insertionSteps text configs policies =
      ((policyEntries text configs policies).map fun entry => MapOp.update entry.1 entry.2).map
        Step.attempt := by
  unfold insertionSteps policyEntries
  simp only [List.map_append, List.map_flatMap, List.map_cons, List.map_map]
  congr 1
  · apply List.flatMap_congr
    rintro ⟨uid, config⟩ hmem
    have hget := ExtTreeMap.mem_toList_iff_getElem?_eq_some.mp (List.mem_filter.mp hmem).1
    simp only [map_rangeStep_of_parses (h.1 uid config hget)]
    rfl
  · apply List.flatMap_congr
    rintro ⟨uid, ranges⟩ hmem
    have hget := ExtTreeMap.mem_toList_iff_getElem?_eq_some.mp hmem
    simp only [map_rangeStep_of_parses (h.2 uid ranges hget)]
    rfl

theorem deletionSteps_isSome (h : Parses text configs policies) :
    ∀ step ∈ deletionSteps text configs policies, step.op?.isSome := by
  unfold deletionSteps
  intro step hstep
  rcases List.mem_append.mp hstep with hs | hs
  · obtain ⟨⟨uid, config⟩, hmem, hs⟩ := List.mem_flatMap.mp hs
    have hget := ExtTreeMap.mem_toList_iff_getElem?_eq_some.mp hmem
    simp only [map_rangeStep_of_parses (h.1 uid config hget)] at hs
    rcases List.mem_cons.mp hs with rfl | hs
    · rfl
    · obtain ⟨network, -, rfl⟩ := List.mem_map.mp hs
      rfl
  · obtain ⟨⟨uid, ranges⟩, hmem, hs⟩ := List.mem_flatMap.mp hs
    have hget := ExtTreeMap.mem_toList_iff_getElem?_eq_some.mp hmem
    simp only [map_rangeStep_of_parses (h.2 uid ranges hget)] at hs
    obtain ⟨network, -, rfl⟩ := List.mem_map.mp hs
    rfl

end steps

/-! ## Replacing maps -/

section replace

variable {text : IpNetText} {faults : PolicyFaults} {configs oldConfigs newConfigs : ConfigMap}
  {policies oldPolicies newPolicies : PolicyMap} {p p' : Pass PolicyMaps} {r : Except IoError Unit}

/-- Every entry has property `P`. -/
def PolicyMaps.All (P : Cell → UInt32 → Prop) (maps : PolicyMaps) : Prop :=
  ∀ cell value, maps.get cell = some value → P cell value

/-- Wherever the deletion pass stops, it added no entry. -/
theorem deletions_all {P : Cell → UInt32 → Prop}
    (hexec : (forM (deletionSteps text configs policies) (Step.perform MapOp.apply faults)).exec p =
      (r, p')) (h : p.state.All P) : p'.state.All P := by
  have hp' : p' = _ := (congrArg Prod.snd hexec).symm
  rw [hp']
  refine forM_perform_inv _ ?_ h
  intro step hstep op hop maps hmaps cell value hget
  obtain ⟨cell', rfl⟩ := deletionSteps_op hstep hop
  rw [MapOp.apply, PolicyMaps.get_remove] at hget
  split_ifs at hget
  exact hmaps cell value hget

/-- Wherever the insertion pass stops, it added entries of the image only. -/
theorem insertions_all {P : Cell → UInt32 → Prop}
    (hexec : (forM (insertionSteps text configs policies) (Step.perform MapOp.apply faults)).exec p =
      (r, p')) (h : p.state.All P) (hnew : (policyImage text configs policies).All P) :
    p'.state.All P := by
  have hp' : p' = _ := (congrArg Prod.snd hexec).symm
  rw [hp']
  refine forM_perform_inv _ ?_ h
  intro step hstep op hop maps hmaps cell value hget
  obtain ⟨cell', value', rfl, hmem⟩ := insertionSteps_op hstep hop
  rw [MapOp.apply, PolicyMaps.get_put] at hget
  split_ifs at hget with hcell
  · obtain rfl := Option.some.inj hget
    exact hnew cell value' (get_policyImage.mpr (hcell ▸ hmem))
  · exact hmaps cell value hget

/-- A deletion pass that was not stopped removed every entry of the image, but for mode entries
whose deletion was refused. -/
theorem deletions_clear {cell : Cell} {value : UInt32}
    (hok : (forM (deletionSteps text configs policies) (Step.perform MapOp.apply faults)).exec p =
      (.ok (), p'))
    (hmem : (cell, value) ∈ policyEntries text configs policies)
    (hmode : ∀ uid, cell = .mode uid → ∀ n, faults n (.delete cell) = none) :
    p'.state.get cell = none := by
  refine forM_perform_establishes (fun maps => maps.get cell = none) (.delete cell) ?_ ?_ ?_ hok
  · rcases mem_deletionSteps hmem with h | ⟨h, uid, hcell⟩
    · exact .inl h
    · exact .inr ⟨h, hmode uid hcell⟩
  · intro maps
    simp [MapOp.apply, PolicyMaps.get_remove]
  · intro step hstep op hop maps hnone
    obtain ⟨cell', rfl⟩ := deletionSteps_op hstep hop
    simp [MapOp.apply, PolicyMaps.get_remove, hnone]

theorem insertions_fill (hparses : Parses text configs policies)
    (hok : (forM (insertionSteps text configs policies) (Step.perform MapOp.apply faults)).exec p =
      (.ok (), p')) : p'.state = p.state.fill (policyEntries text configs policies) := by
  rw [insertionSteps_eq hparses] at hok
  rw [forM_perform_eq_foldl hok, List.foldl_map]
  rfl

/-- The user has a configuration with rules. -/
def HasRulesFor (configs : ConfigMap) (uid : UInt16) : Prop :=
  ∃ config, configs[uid]? = some config ∧ config.hasRules

/-- A mode deletion that is refused does no harm: the user had no entry, or gets a new one. -/
def HarmlessModeFaults (faults : PolicyFaults) (oldConfigs newConfigs : ConfigMap) : Prop :=
  ∀ n uid, faults n (.delete (.mode uid.toUInt32)) ≠ none →
    HasRulesFor oldConfigs uid → HasRulesFor newConfigs uid

/-- **A replacement that returns leaves exactly the new maps**, from every state whose entries are
old or new ones: also from the half-replaced state an earlier replacement was stopped in. -/
theorem replaceMaps_ok (hparses : Parses text newConfigs newPolicies)
    (hwithin : p.state.All fun cell value =>
      (policyImage text oldConfigs oldPolicies).get cell = some value ∨
        (policyImage text newConfigs newPolicies).get cell = some value)
    (hmode : HarmlessModeFaults faults oldConfigs newConfigs)
    (hok : (replaceMaps text faults oldConfigs oldPolicies newConfigs newPolicies).exec p =
      (.ok (), p')) : p'.state = policyImage text newConfigs newPolicies := by
  rw [replaceMaps_eq, exec_bind] at hok
  rcases hdel : (forM (deletionSteps text oldConfigs oldPolicies)
    (Step.perform MapOp.apply faults)).exec p with ⟨_ | _, p₁⟩
  · simp [hdel] at hok
  simp only [hdel] at hok
  rw [insertions_fill hparses hok]
  ext1 cell
  rw [PolicyMaps.get_fill]
  change ((policyImage text newConfigs newPolicies).get cell).or _ = _
  cases hnew : (policyImage text newConfigs newPolicies).get cell with
  | some value => rfl
  | none =>
      -- an entry that survived the deletions would be an old one, and those were deleted
      cases hleft : p₁.state.get cell with
      | none => rfl
      | some value =>
          have hold := (deletions_all hdel hwithin cell value hleft).resolve_right (by simp [hnew])
          have hnone := deletions_clear hdel (get_policyImage.mp hold) fun uid hcell n => by
            by_contra hne
            subst hcell
            obtain ⟨u, config, hconfig, hrules, rfl, -⟩ := get_policyImage_mode.mp hold
            obtain ⟨config', hconfig', hrules'⟩ := hmode n u hne ⟨config, hconfig, hrules⟩
            have hget : (policyImage text newConfigs newPolicies).get (.mode u.toUInt32) =
                some (modeValue config') :=
              get_policyImage_mode.mpr ⟨u, config', hconfig', hrules', rfl, rfl⟩
            rw [hnew] at hget
            cases hget
          simp [hnone] at hleft

/-- Wherever a replacement stops, every entry was there before or is a new one. -/
theorem replaceMaps_all {P : Cell → UInt32 → Prop}
    (hexec : (replaceMaps text faults oldConfigs oldPolicies newConfigs newPolicies).exec p = (r, p'))
    (h : p.state.All P) (hnew : (policyImage text newConfigs newPolicies).All P) :
    p'.state.All P := by
  rw [replaceMaps_eq, exec_bind] at hexec
  rcases hdel : (forM (deletionSteps text oldConfigs oldPolicies)
    (Step.perform MapOp.apply faults)).exec p with ⟨_ | _, p₁⟩
  · simp only [hdel, Prod.mk.injEq] at hexec
    exact hexec.2 ▸ deletions_all hdel h
  · simp only [hdel] at hexec
    exact insertions_all hexec (deletions_all hdel h) hnew

/-- A replacement of maps that hold only old entries, or only new ones, stops with maps of one of
these kinds; it never mixes them. -/
theorem replaceMaps_sub
    (hexec : (replaceMaps text faults oldConfigs oldPolicies newConfigs newPolicies).exec p = (r, p'))
    (hmode : ∀ n uid, faults n (.delete (.mode uid)) = none)
    (h : (p.state.All fun cell value =>
        (policyImage text oldConfigs oldPolicies).get cell = some value) ∨
      p.state.All fun cell value =>
        (policyImage text newConfigs newPolicies).get cell = some value) :
    (p'.state.All fun cell value =>
        (policyImage text oldConfigs oldPolicies).get cell = some value) ∨
      p'.state.All fun cell value =>
        (policyImage text newConfigs newPolicies).get cell = some value := by
  rcases h with h | h
  · rw [replaceMaps_eq, exec_bind] at hexec
    rcases hdel : (forM (deletionSteps text oldConfigs oldPolicies)
      (Step.perform MapOp.apply faults)).exec p with ⟨_ | _, p₁⟩
    · simp only [hdel, Prod.mk.injEq] at hexec
      exact .inl (hexec.2 ▸ deletions_all hdel h)
    · simp only [hdel] at hexec
      refine .inr (insertions_all hexec ?_ fun _ _ h => h)
      intro cell value hget
      have hmem := get_policyImage.mp (deletions_all hdel h cell value hget)
      have hnone := deletions_clear hdel hmem fun uid hcell n => hcell ▸ hmode n uid
      simp [hnone] at hget
  · exact .inr (replaceMaps_all hexec h fun _ _ h => h)

/-- Without refusals a replacement returns. -/
theorem replaceMaps_returns (p : Pass PolicyMaps) (hnone : ∀ n op, faults n op = none)
    (hold : Parses text oldConfigs oldPolicies) (hnew : Parses text newConfigs newPolicies) :
    ((replaceMaps text faults oldConfigs oldPolicies newConfigs newPolicies).exec p).1 = .ok () := by
  have hins : ∀ step ∈ insertionSteps text newConfigs newPolicies, step.op?.isSome := by
    rw [insertionSteps_eq hnew]
    intro step hstep
    obtain ⟨op, -, rfl⟩ := List.mem_map.mp hstep
    rfl
  rw [replaceMaps_eq, exec_bind]
  rcases h : (forM (deletionSteps text oldConfigs oldPolicies)
    (Step.perform MapOp.apply faults)).exec p with ⟨_ | _, p₁⟩
  · have hdel : ((forM (deletionSteps text oldConfigs oldPolicies)
        (Step.perform MapOp.apply faults)).exec p).1 = .ok () :=
      forM_perform_ok hnone (deletionSteps_isSome hold)
    rw [h] at hdel
    cases hdel
  · exact forM_perform_ok hnone hins

theorem parses_of_rangeStep {cell : Bool → List Bool → Cell} {op : Cell → MapOp} {uid : UInt32}
    {range : String} (h : (rangeStep text cell op uid range).op?.isSome) :
    ∃ network, parseIpRange text range = .ok network := by
  unfold rangeStep at h
  cases hparse : parseIpRange text range with
  | ok network => exact ⟨network, rfl⟩
  | error error => simp [hparse, Step.op?] at h

/-- What a replacement wrote consists of networks. -/
theorem replaceMaps_parses
    (hok : (replaceMaps text faults oldConfigs oldPolicies newConfigs newPolicies).exec p =
      (.ok (), p')) : Parses text newConfigs newPolicies := by
  rw [replaceMaps_eq, exec_bind] at hok
  rcases h : (forM (deletionSteps text oldConfigs oldPolicies)
    (Step.perform MapOp.apply faults)).exec p with ⟨_ | _, p₁⟩
  · simp [h] at hok
  · rw [h] at hok
    have hsome := forM_perform_isSome hok
    constructor
    · intro uid config hget range hrange
      have hrules : config.hasRules = true := by
        have hne : config.ipRanges ≠ [] := List.ne_nil_of_mem hrange
        simp [SplitConfig.hasRules, hne]
      have hstep : rangeStep text .range (.update · 1) uid.toUInt32 range ∈
          insertionSteps text newConfigs newPolicies := by
        refine List.mem_append_left _ (List.mem_flatMap.mpr ⟨(uid, config), ?_, ?_⟩)
        · exact List.mem_filter.mpr ⟨ExtTreeMap.mem_toList_iff_getElem?_eq_some.mpr hget, hrules⟩
        · exact List.mem_cons_of_mem _ (List.mem_map_of_mem hrange)
      exact parses_of_rangeStep (hsome _ hstep)
    · intro uid ranges hget range hrange
      have hstep : rangeStep text .bypass (.update · 1) uid.toUInt32 range ∈
          insertionSteps text newConfigs newPolicies := by
        refine List.mem_append_right _ (List.mem_flatMap.mpr ⟨(uid, ranges), ?_, ?_⟩)
        · exact ExtTreeMap.mem_toList_iff_getElem?_eq_some.mpr hget
        · exact List.mem_map_of_mem hrange
      exact parses_of_rangeStep (hsome _ hstep)

end replace

end ProtonVpnOmarchy.Splitd.Bpf
