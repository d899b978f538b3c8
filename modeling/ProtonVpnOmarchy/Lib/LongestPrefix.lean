import Mathlib

/-!
# Longest-prefix-match tries

A longest-prefix-match trie stores values under bit strings, the *prefixes*; looking up a bit
string returns the value of the longest stored prefix of it. The trie is the finite map from
prefixes to values: an update replaces the value of a prefix that is already there, a deletion
removes exactly the named prefix.

* `lookup_isSome_iff`: a lookup hits iff some stored prefix is an initial segment of the key.
* `lookup_eq_some_iff`: a lookup returns `v` iff `v` is stored under a longest such prefix.
-/

namespace ProtonVpnOmarchy.Lib

open Std (ExtTreeMap)

/-- A longest-prefix-match trie: the finite map from stored prefixes to values. -/
abbrev LpmTrie (V : Type) := ExtTreeMap (List Bool) V

namespace LpmTrie

variable {V : Type}

/-- The initial segments of a bit string, longest first. -/
def candidates (key : List Bool) : List (List Bool) := key.inits.reverse

theorem mem_candidates {key p : List Bool} : p ∈ candidates key ↔ p <+: key := by
  simp [candidates]

theorem candidates_pairwise (key : List Bool) :
    (candidates key).Pairwise fun a b => b.length < a.length := by
  rw [candidates, List.pairwise_reverse]
  induction key with
  | nil => simp
  | cons b key ih =>
      rw [List.inits_cons, List.pairwise_cons]
      refine ⟨?_, ?_⟩
      · intro a ha
        obtain ⟨c, _, rfl⟩ := List.mem_map.mp ha
        simp
      · rw [List.pairwise_map]
        exact ih.imp fun h => by simpa using h

/-- The value of the longest stored prefix of `key`. -/
def lookup (t : LpmTrie V) (key : List Bool) : Option V :=
  (candidates key).findSome? fun p => t[p]?

theorem lookup_isSome_iff (t : LpmTrie V) (key : List Bool) :
    (t.lookup key).isSome ↔ ∃ p, p ∈ t ∧ p <+: key := by
  rw [lookup, List.findSome?_isSome_iff]
  constructor
  · rintro ⟨p, hp, h⟩
    exact ⟨p, ExtTreeMap.mem_iff_isSome_getElem?.mpr h, mem_candidates.mp hp⟩
  · rintro ⟨p, hp, h⟩
    exact ⟨p, mem_candidates.mpr h, ExtTreeMap.mem_iff_isSome_getElem?.mp hp⟩

/-- A lookup returns the value stored under the longest matching prefix. -/
theorem lookup_eq_some_iff (t : LpmTrie V) (key : List Bool) (v : V) :
    t.lookup key = some v ↔
      ∃ p, t[p]? = some v ∧ p <+: key ∧ ∀ q, q ∈ t → q <+: key → q.length ≤ p.length := by
  rw [lookup, List.findSome?_eq_some_iff]
  have hsorted := candidates_pairwise key
  constructor
  · rintro ⟨before, p, after, hsplit, hv, hnone⟩
    rw [hsplit] at hsorted
    refine ⟨p, hv, mem_candidates.mp (by simp [hsplit]), fun q hq hqk => ?_⟩
    have hmem : q ∈ before ++ p :: after := hsplit ▸ mem_candidates.mpr hqk
    rcases List.mem_append.mp hmem with hb | hpa
    · have := hnone q hb
      rw [ExtTreeMap.mem_iff_isSome_getElem?, this] at hq
      simp at hq
    · rcases List.mem_cons.mp hpa with rfl | ha
      · exact le_rfl
      · exact (List.rel_of_pairwise_cons (List.pairwise_append.mp hsorted).2.1 ha).le
  · rintro ⟨p, hv, hpk, hmax⟩
    obtain ⟨before, after, hsplit⟩ := List.append_of_mem (mem_candidates.mpr hpk)
    refine ⟨before, p, after, hsplit, hv, fun q hq => ?_⟩
    rw [hsplit] at hsorted
    have hlt := (List.pairwise_append.mp hsorted).2.2 q hq p List.mem_cons_self
    have hqk : q <+: key := mem_candidates.mp (by rw [hsplit]; exact List.mem_append_left _ hq)
    by_contra hne
    have hmem : q ∈ t := ExtTreeMap.mem_iff_isSome_getElem?.mpr (Option.isSome_iff_ne_none.mpr hne)
    exact absurd (hmax q hmem hqk) (by omega)

end LpmTrie

end ProtonVpnOmarchy.Lib
