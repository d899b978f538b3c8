import ProtonVpnOmarchy.Agent.Store.Effects
import ProtonVpnOmarchy.Lib.StableSort

/-!
# Lists of records

Profiles and recent connections are found by their ids, replaced in place, and, recent connections,
trimmed.

* `map_idOf_putById_of_mem`, `putById_of_not_mem` — replacing and adding a record.
* `mem_trimRecents_of_pinned`, `mem_trimRecents_of_latest` — what trimming keeps.
-/

namespace ProtonVpnOmarchy.Agent.Store

open Lib Lib.Fallible Splitd

/-! ## Ids -/

theorem hasProfile_iff {account : AccountStore} {id : String} :
    hasProfile account id = true ↔ id ∈ account.profiles.filterMap idOf := by
  simp [hasProfile, List.mem_filterMap]

theorem idOf_of_stored {profile : Map} {id : String} (h : StoredProfile profile id) :
    idOf (.object profile) = some id := by
  unfold idOf
  rw [Value.get_object, h.id]
  rfl

/-- A record that is listed is found, with its id. -/
theorem findById_of_mem {values : List Value} {id : String} (h : id ∈ values.filterMap idOf) :
    ∃ value ∈ values, findById values id = some value ∧ idOf value = some id := by
  unfold findById
  rcases hfind : values.find? (fun value => decide (idOf value = some id)) with _ | value
  · obtain ⟨value, hvalue, hid⟩ := List.mem_filterMap.mp h
    have hnone := List.find?_eq_none.mp hfind value hvalue
    simp [hid] at hnone
  · exact ⟨value, List.mem_of_find?_eq_some hfind, rfl, by simpa using List.find?_some hfind⟩

theorem findById_eq_some {values : List Value} {id : String} {value : Value}
    (h : findById values id = some value) : value ∈ values ∧ idOf value = some id :=
  ⟨List.mem_of_find?_eq_some h, by simpa using List.find?_some h⟩

/-- Replacing a record by one that reads the same. -/
theorem map_putById {β : Type} {values : List Value} {id : String} {old value : Value}
    (f : Value → β) (hfound : findById values id = some old) (hsame : f value = f old) :
    (putById values id value).map f = values.map f := by
  unfold findById at hfound
  rw [List.find?_eq_bind_findIdx?_getElem?] at hfound
  obtain ⟨index, hindex, hget⟩ := Option.bind_eq_some_iff.mp hfound
  obtain ⟨hlt, hold⟩ := List.getElem?_eq_some_iff.mp hget
  have hlt' : index < (values.map f).length := by rwa [List.length_map]
  have hsame' : (values.map f)[index] = f value := by rw [List.getElem_map, hold, hsame]
  unfold putById
  rw [hindex]
  simp only [List.map_set]
  rw [← hsame', List.set_getElem_self]

/-- Replacing a record by one with its id keeps the ids. -/
theorem map_idOf_putById_of_mem {values : List Value} {id : String} {value : Value}
    (hvalue : idOf value = some id) (hmem : id ∈ values.filterMap idOf) :
    (putById values id value).map idOf = values.map idOf := by
  obtain ⟨old, -, hfound, hid⟩ := findById_of_mem hmem
  exact map_putById idOf hfound (hvalue.trans hid.symm)

theorem putById_of_not_mem {values : List Value} {id : String} {value : Value}
    (hmem : id ∉ values.filterMap idOf) : putById values id value = values ++ [value] := by
  unfold putById
  have hnone : values.findIdx? (fun other => decide (idOf other = some id)) = none := by
    rw [List.findIdx?_eq_none_iff]
    intro other hother
    rw [decide_eq_false_iff_not]
    intro hid
    exact hmem (List.mem_filterMap.mpr ⟨other, hother, hid⟩)
  rw [hnone]

theorem filterMap_idOf (values : List Value) :
    values.filterMap idOf = (values.map idOf).filterMap id := by
  rw [List.filterMap_map]
  rfl

theorem mem_putById {values : List Value} {id : String} {value other : Value}
    (h : other ∈ putById values id value) : other ∈ values ∨ other = value := by
  unfold putById at h
  split at h
  · exact List.mem_or_eq_of_mem_set h
  · rcases List.mem_append.mp h with h | h
    · exact .inl h
    · exact .inr (List.mem_singleton.mp h)

/-- A record with another id stays. -/
theorem mem_putById_of_ne {values : List Value} {id : String} {value other : Value}
    (hmem : other ∈ values) (hid : idOf other ≠ some id) : other ∈ putById values id value := by
  unfold putById
  rcases hfind : values.findIdx? (fun other => decide (idOf other = some id)) with _ | index
  · exact List.mem_append_left _ hmem
  · obtain ⟨hlt, hfound, -⟩ := List.findIdx?_eq_some_iff_getElem.mp hfind
    obtain ⟨place, hplace, rfl⟩ := List.mem_iff_getElem.mp hmem
    have hne : index ≠ place := by
      rintro rfl
      exact hid (of_decide_eq_true hfound)
    refine List.mem_iff_getElem.mpr ⟨place, by rwa [List.length_set], ?_⟩
    rw [List.getElem_set_of_ne hne]

/-- The new record is there. -/
theorem mem_putById_self (values : List Value) (id : String) (value : Value) :
    value ∈ putById values id value := by
  unfold putById
  rcases hfind : values.findIdx? (fun other => decide (idOf other = some id)) with _ | index
  · exact List.mem_append_right _ List.mem_cons_self
  · obtain ⟨hlt, -, -⟩ := List.findIdx?_eq_some_iff_getElem.mp hfind
    exact List.mem_set hlt value

theorem exists_idOf_iff {values : List Value} {id : String} :
    (∃ value ∈ values, idOf value = some id) ↔ id ∈ values.filterMap idOf :=
  List.mem_filterMap.symm

theorem any_idOf_iff {values : List Value} {id : String} :
    (values.any fun value => idOf value = some id) = true ↔ id ∈ values.filterMap idOf := by
  simp [List.mem_filterMap]

/-! ## Trimming -/

instance : IsTrans Value PinnedBefore := ⟨fun _ _ _ hab hbc => UInt64.le_trans hab hbc⟩

instance : Std.Total PinnedBefore := ⟨fun _ _ => UInt64.le_total _ _⟩

instance : IsTrans Value ConnectedAfter := ⟨fun _ _ _ hab hbc => UInt64.le_trans hbc hab⟩

instance : Std.Total ConnectedAfter := ⟨fun _ _ => UInt64.le_total _ _⟩

theorem mem_of_mem_trimRecents {recents : List Value} {value : Value}
    (h : value ∈ trimRecents recents) : value ∈ recents := by
  rcases List.mem_append.mp h with h | h
  · exact (List.mem_filter.mp ((List.mem_insertionSort _).mp h)).1
  · exact (List.mem_filter.mp ((List.mem_insertionSort _).mp (List.mem_of_mem_take h))).1

theorem mem_trimRecents_of_pinned {recents : List Value} {value : Value} (hmem : value ∈ recents)
    (hpinned : isPinned value = true) : value ∈ trimRecents recents :=
  List.mem_append_left _
    ((List.mem_insertionSort _).mpr (List.mem_filter.mpr ⟨hmem, hpinned⟩))

/-- An entry is kept if fewer than six others that are not pinned go before it. -/
theorem mem_trimRecents_of_latest {recents front back : List Value} {value : Value}
    (hsplit : unpinned recents = front ++ value :: back)
    (hbefore : (goBefore ConnectedAfter front value back).length < MAX_UNPINNED_RECENTS) :
    value ∈ trimRecents recents := by
  unfold trimRecents
  rw [hsplit]
  exact List.mem_append_right _ (mem_take_insertionSort ConnectedAfter hbefore)

end ProtonVpnOmarchy.Agent.Store
