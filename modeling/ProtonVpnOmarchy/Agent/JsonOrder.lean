import ProtonVpnOmarchy.Agent.Json

/-!
# Maps in the order of their keys

Maps that are made by insertions hold their keys in increasing order, so that they are determined by
what is read from them.

* `Sorted.insert`, `Sorted.insertAll` — insertions keep the order.
* `Sorted.ext` — sorted maps from which the same is read are the same.
-/

namespace ProtonVpnOmarchy.Agent.Map

/-- The keys are in increasing order. -/
def Sorted (map : Map) : Prop := map.Pairwise fun entry entry' => entry.1 < entry'.1

theorem sorted_nil : Sorted [] := List.Pairwise.nil

theorem mem_insert {map : Map} {key : String} {value : Value} {entry : String × Value}
    (h : entry ∈ map.insert key value) : entry = (key, value) ∨ entry ∈ map := by
  induction map with
  | nil => exact .inl (List.mem_singleton.mp h)
  | cons first map ih =>
      unfold insert at h
      split_ifs at h with heq hlt
      · rcases List.mem_cons.mp h with rfl | hmem
        · exact .inl rfl
        · exact .inr (.tail _ hmem)
      · rcases List.mem_cons.mp h with rfl | hmem
        · exact .inl rfl
        · exact .inr hmem
      · rcases List.mem_cons.mp h with rfl | hmem
        · exact .inr (.head _)
        · rcases ih hmem with rfl | hmem
          · exact .inl rfl
          · exact .inr (.tail _ hmem)

/-- An insertion keeps the order. -/
theorem Sorted.insert {map : Map} (h : Sorted map) (key : String) (value : Value) :
    Sorted (map.insert key value) := by
  induction map with
  | nil => exact List.pairwise_singleton _ _
  | cons first map ih =>
      obtain ⟨hfirst, hrest⟩ := List.pairwise_cons.mp h
      unfold Map.insert
      split_ifs with heq hlt
      · subst heq
        exact List.pairwise_cons.mpr ⟨hfirst, hrest⟩
      · refine List.pairwise_cons.mpr ⟨fun entry hentry => ?_, h⟩
        rcases List.mem_cons.mp hentry with rfl | hmem
        · exact hlt
        · exact lt_trans hlt (hfirst entry hmem)
      · refine List.pairwise_cons.mpr ⟨fun entry hentry => ?_, ih hrest⟩
        rcases mem_insert hentry with rfl | hmem
        · exact lt_of_le_of_ne (not_lt.mp hlt) (Ne.symm heq)
        · exact hfirst entry hmem

theorem Sorted.insertAll {map : Map} (h : Sorted map) (entries : List (String × Value)) :
    Sorted (map.insertAll entries) := by
  unfold Map.insertAll
  induction entries generalizing map with
  | nil => exact h
  | cons entry entries ih => exact ih (h.insert entry.1 entry.2)

/-- Nothing is read under a key that goes before all others. -/
theorem get_of_forall_lt {map : Map} {key : String} (h : ∀ entry ∈ map, key < entry.1) :
    map.get key = none := by
  induction map with
  | nil => rfl
  | cons first map ih =>
      rw [get_cons, if_neg (h first (.head _)).ne]
      exact ih fun entry hentry => h entry (.tail _ hentry)

/-- Sorted maps from which the same is read are the same. -/
theorem Sorted.ext {map map' : Map} (h : Sorted map) (h' : Sorted map')
    (hget : ∀ key, map.get key = map'.get key) : map = map' := by
  induction map generalizing map' with
  | nil =>
      cases map' with
      | nil => rfl
      | cons first' map' =>
          have hfirst := hget first'.1
          rw [get_nil, get_cons, if_pos rfl] at hfirst
          cases hfirst
  | cons first map ih =>
      cases map' with
      | nil =>
          have hfirst := hget first.1
          rw [get_nil, get_cons, if_pos rfl] at hfirst
          cases hfirst
      | cons first' map' =>
          obtain ⟨hbefore, hrest⟩ := List.pairwise_cons.mp h
          obtain ⟨hbefore', hrest'⟩ := List.pairwise_cons.mp h'
          have hkey : first.1 = first'.1 := by
            rcases lt_trichotomy first.1 first'.1 with hlt | heq | hgt
            · have hnone : get (first' :: map') first.1 = none := by
                refine get_of_forall_lt fun entry hentry => ?_
                rcases List.mem_cons.mp hentry with rfl | hmem
                · exact hlt
                · exact lt_trans hlt (hbefore' entry hmem)
              rw [← hget, get_cons, if_pos rfl] at hnone
              cases hnone
            · exact heq
            · have hnone : get (first :: map) first'.1 = none := by
                refine get_of_forall_lt fun entry hentry => ?_
                rcases List.mem_cons.mp hentry with rfl | hmem
                · exact hgt
                · exact lt_trans hgt (hbefore entry hmem)
              rw [hget, get_cons, if_pos rfl] at hnone
              cases hnone
          have hvalue : first.2 = first'.2 := by
            have hfirst := hget first.1
            rw [get_cons, if_pos rfl, get_cons, if_pos hkey] at hfirst
            exact Option.some.inj hfirst
          have hgetRest : ∀ key, get map key = get map' key := by
            intro key
            have hkeys := hget key
            rw [get_cons, get_cons, ← hkey] at hkeys
            by_cases hfirst : key = first.1
            · rw [hfirst, get_of_forall_lt hbefore, hkey, get_of_forall_lt hbefore']
            · rw [if_neg hfirst, if_neg hfirst] at hkeys
              exact hkeys
          rw [Prod.ext hkey hvalue, ih hrest hrest' hgetRest]

end ProtonVpnOmarchy.Agent.Map
