import Mathlib

/-!
# Pages of a sorted list

A list is handed out in pages of a fixed size. If every page is cut from the same list, the pages
together are the list. If each page is cut from an arrangement of its own, sorted by the same key,
they are a rearrangement of the list as long as no page ends between two elements with equal keys.

* `flatMap_page_all` — the pages of one list.
* `flatMap_page_perm` — the pages of several arrangements, where the pages end between keys.
* `exists_not_nodup` — arrangements that show an element twice, where a page ends within a key.
-/

namespace ProtonVpnOmarchy.Lib

variable {α κ : Type}

/-- The page of a list at an offset. -/
def page (l : List α) (offset limit : ℕ) : List α := (l.drop offset).take limit

/-- How many pages there are. -/
def pageCount (total limit : ℕ) : ℕ := (total + limit - 1) / limit

theorem mul_lt_of_lt_pageCount {total limit k : ℕ} (hlimit : 0 < limit)
    (h : k < pageCount total limit) : k * limit < total := by
  have hle := (Nat.le_div_iff_mul_le hlimit).mp (Nat.succ_le_of_lt h)
  rw [Nat.succ_mul] at hle
  omega

theorem lt_pageCount_of_mul_lt {total limit k : ℕ} (hlimit : 0 < limit) (h : k * limit < total) :
    k < pageCount total limit := by
  refine (Nat.le_div_iff_mul_le hlimit).mpr ?_
  rw [Nat.succ_mul]
  omega

theorem le_pageCount_mul {limit : ℕ} (hlimit : 0 < limit) (total : ℕ) :
    total ≤ pageCount total limit * limit := by
  by_contra h
  exact absurd (lt_pageCount_of_mul_lt hlimit (not_le.mp h)) (lt_irrefl _)

theorem map_page (f : α → κ) (l : List α) (offset limit : ℕ) :
    (page l offset limit).map f = page (l.map f) offset limit := by
  unfold page
  rw [List.map_take, List.map_drop]

theorem take_append_page (l : List α) (offset limit : ℕ) :
    l.take offset ++ page l offset limit = l.take (offset + limit) :=
  List.take_add.symm

theorem flatMap_page (l : List α) (limit n : ℕ) :
    ((List.range n).flatMap fun k => page l (k * limit) limit) = l.take (n * limit) := by
  induction n with
  | zero => simp
  | succ n ih =>
      rw [List.range_succ, List.flatMap_append, ih, List.flatMap_cons, List.flatMap_nil,
        List.append_nil, take_append_page, Nat.succ_mul]

/-- The pages of a list are the list. -/
theorem flatMap_page_all {limit : ℕ} (hlimit : 0 < limit) (l : List α) :
    ((List.range (pageCount l.length limit)).flatMap fun k => page l (k * limit) limit) = l := by
  rw [flatMap_page, List.take_of_length_le (le_pageCount_mul hlimit _)]

/-! ## Arrangements -/

variable [LinearOrder κ] (key : α → κ)

/-- A list of the items, sorted by the key. -/
structure Arranges (items l : List α) : Prop where
  perm : l.Perm items
  sorted : l.Pairwise fun a b => key a ≤ key b

/-- The keys in order. -/
def sortedKeys (items : List α) : List κ := (items.map key).insertionSort (· ≤ ·)

/-- The list does not end at a place, and the keys on both sides of it are equal. -/
def CutsKey (keys : List κ) (m : ℕ) : Prop :=
  0 < m ∧ ∃ a, keys[m - 1]? = some a ∧ keys[m]? = some a

variable {key} {items : List α}

theorem Arranges.map_key {l : List α} (h : Arranges key items l) :
    l.map key = sortedKeys key items := by
  refine List.Perm.eq_of_pairwise (fun a b _ _ hab hba => le_antisymm hab hba)
    (List.pairwise_map.mpr h.sorted) (List.pairwise_insertionSort _ _) ?_
  exact (h.perm.map key).trans (List.perm_insertionSort _ _).symm

theorem arranges_insertionSort (items : List α) :
    Arranges key items (items.insertionSort fun a b => key a ≤ key b) := by
  have htotal : Std.Total fun a b : α => key a ≤ key b := ⟨fun a b => le_total (key a) (key b)⟩
  have htrans : IsTrans α fun a b => key a ≤ key b := ⟨fun a b c => le_trans⟩
  exact ⟨List.perm_insertionSort _ _, List.pairwise_insertionSort _ _⟩

/-- What stands before a place between two keys. -/
theorem Arranges.take_eq_filter {l : List α} (h : Arranges key items l) {m : ℕ}
    (hcut : ¬ CutsKey (sortedKeys key items) m) (hm : 0 < m) {b : κ}
    (hb : (sortedKeys key items)[m]? = some b) : l.take m = l.filter fun a => key a < b := by
  have hkeys := h.map_key
  obtain ⟨c, hc, hcb⟩ : ∃ c, l[m]? = some c ∧ key c = b := by
    rw [← hkeys, List.getElem?_map] at hb
    exact Option.map_eq_some_iff.mp hb
  have hlength : m < l.length := (List.getElem?_eq_some_iff.mp hc).1
  have hsplit : l = l.take m ++ l.drop m := (List.take_append_drop m l).symm
  have hle : ∀ i j : ℕ, i ≤ j → ∀ a b : α, l[i]? = some a → l[j]? = some b → key a ≤ key b := by
    intro i j hij a b ha hb
    obtain ⟨hi, rfl⟩ := List.getElem?_eq_some_iff.mp ha
    obtain ⟨hj, rfl⟩ := List.getElem?_eq_some_iff.mp hb
    rcases hij.eq_or_lt with rfl | hlt
    · exact le_rfl
    · exact List.pairwise_iff_getElem.mp h.sorted i j hi hj hlt
  have hbefore : ∀ a ∈ l.take m, key a < b := by
    intro a ha
    obtain ⟨i, hi⟩ := List.mem_iff_getElem?.mp ha
    rw [List.getElem?_take] at hi
    split_ifs at hi with him
    obtain ⟨d, hd⟩ : ∃ d, l[m - 1]? = some d :=
      ⟨_, List.getElem?_eq_getElem (show m - 1 < l.length by omega)⟩
    have had : key a ≤ key d := hle i (m - 1) (by omega) a d hi hd
    have hdb : key d ≤ b := hcb ▸ hle (m - 1) m (by omega) d c hd hc
    refine had.trans_lt (hdb.lt_of_ne fun heq => hcut ⟨hm, b, ?_, hb⟩)
    rw [← hkeys, List.getElem?_map, hd, ← heq]
    rfl
  have hafter : ∀ a ∈ l.drop m, ¬ key a < b := by
    intro a ha
    obtain ⟨i, hi⟩ := List.mem_iff_getElem?.mp ha
    rw [List.getElem?_drop] at hi
    rw [not_lt, ← hcb]
    exact hle m (m + i) (by omega) c a hc hi
  nth_rewrite 2 [hsplit]
  rw [List.filter_append, List.filter_eq_self.mpr (by simpa using hbefore),
    List.filter_eq_nil_iff.mpr (by simpa using hafter), List.append_nil]

/-- Two arrangements have the same elements before a place between two keys. -/
theorem Arranges.take_perm {l l' : List α} (h : Arranges key items l) (h' : Arranges key items l')
    {m : ℕ} (hcut : ¬ CutsKey (sortedKeys key items) m) : (l.take m).Perm (l'.take m) := by
  have hperm := h.perm.trans h'.perm.symm
  rcases Nat.eq_zero_or_pos m with rfl | hm
  · simp
  cases hb : (sortedKeys key items)[m]? with
  | none =>
      have hlength := List.getElem?_eq_none_iff.mp hb
      have hl : l.length ≤ m := by
        rwa [← h.map_key, List.length_map] at hlength
      have hl' : l'.length ≤ m := by
        rwa [← hperm.length_eq]
      rwa [List.take_of_length_le hl, List.take_of_length_le hl']
  | some b =>
      rw [h.take_eq_filter hcut hm hb, h'.take_eq_filter hcut hm hb]
      exact hperm.filter _

/-- Two arrangements have the same page between two such places. -/
theorem Arranges.page_perm {l l' : List α} (h : Arranges key items l) (h' : Arranges key items l')
    {offset limit : ℕ} (hcut : ¬ CutsKey (sortedKeys key items) offset)
    (hcut' : ¬ CutsKey (sortedKeys key items) (offset + limit)) :
    (page l offset limit).Perm (page l' offset limit) := by
  have hlong := h.take_perm h' hcut'
  rw [← take_append_page, ← take_append_page] at hlong
  have hshort := h.take_perm h' hcut
  exact (List.perm_append_left_iff _).mp (((hshort.append_right _).symm.trans hlong))

/-- The pages of several arrangements are a rearrangement, if no page ends within a key. -/
theorem flatMap_page_perm {limit : ℕ} (hlimit : 0 < limit)
    (hcut : ∀ k, ¬ CutsKey (sortedKeys key items) (k * limit)) {order : ℕ → List α}
    (horder : ∀ k, Arranges key items (order k)) :
    ((List.range (pageCount items.length limit)).flatMap fun k =>
      page (order k) (k * limit) limit).Perm items := by
  have hpages : ((List.range (pageCount items.length limit)).flatMap fun k =>
      page (order k) (k * limit) limit).Perm ((List.range (pageCount items.length limit)).flatMap
        fun k => page (order 0) (k * limit) limit) := by
    refine List.Perm.flatMap_left _ fun k _ => (horder k).page_perm (horder 0) (hcut k) ?_
    rw [← Nat.succ_mul]
    exact hcut (k + 1)
  refine hpages.trans ?_
  rw [← (horder 0).perm.length_eq, flatMap_page_all hlimit]
  exact (horder 0).perm

/-- The keys of the pages of several arrangements are in order. -/
theorem map_key_flatMap_page {limit : ℕ} (hlimit : 0 < limit) {order : ℕ → List α}
    (horder : ∀ k, Arranges key items (order k)) :
    ((List.range (pageCount items.length limit)).flatMap fun k =>
      page (order k) (k * limit) limit).map key = sortedKeys key items := by
  have hlength : (sortedKeys key items).length = items.length := by
    rw [← (horder 0).map_key, List.length_map, (horder 0).perm.length_eq]
  rw [List.map_flatMap]
  simp only [map_page, (horder _).map_key]
  rw [← hlength, flatMap_page_all hlimit]

/-- The neighbours of a place exchanged. -/
def exchangeAt (l : List α) (m : ℕ) (a b : α) : List α := l.take (m - 1) ++ b :: a :: l.drop (m + 1)

theorem Arranges.exchangeAt {l : List α} (h : Arranges key items l) {m : ℕ} {a b : α}
    (hm : 0 < m) (ha : l[m - 1]? = some a) (hb : l[m]? = some b) (hkey : key a = key b) :
    Arranges key items (exchangeAt l m a b) := by
  have hsplit : l = l.take (m - 1) ++ a :: b :: l.drop (m + 1) := by
    obtain ⟨hlt, ha⟩ := List.getElem?_eq_some_iff.mp ha
    obtain ⟨hlt', hb⟩ := List.getElem?_eq_some_iff.mp hb
    have hdrop : l.drop m = b :: l.drop (m + 1) := by
      rw [List.drop_eq_getElem_cons hlt', hb]
    have hdrop' : l.drop (m - 1) = a :: l.drop (m - 1 + 1) := by
      rw [List.drop_eq_getElem_cons hlt, ha]
    rw [Nat.sub_add_cancel hm, hdrop] at hdrop'
    rw [← hdrop', List.take_append_drop]
  have hmap : (Lib.exchangeAt l m a b).map key = l.map key := by
    nth_rewrite 2 [hsplit]
    simp [Lib.exchangeAt, hkey]
  refine ⟨?_, ?_⟩
  · have hswap : (Lib.exchangeAt l m a b).Perm l := by
      nth_rewrite 2 [hsplit]
      exact (List.Perm.swap _ _ _).append_left _
    exact hswap.trans h.perm
  · have hsorted := List.pairwise_map.mpr h.sorted
    rw [← hmap] at hsorted
    exact List.pairwise_map.mp hsorted

/-- Where a page ends within a key, some arrangements show an element twice. -/
theorem exists_not_nodup {limit k : ℕ} (hlimit : 0 < limit)
    (hcut : CutsKey (sortedKeys key items) (k * limit)) :
    ∃ order : ℕ → List α, (∀ k, Arranges key items (order k)) ∧
      ¬ ((List.range (pageCount items.length limit)).flatMap fun k =>
        page (order k) (k * limit) limit).Nodup := by
  obtain ⟨hm, c, hc, hc'⟩ := hcut
  have hsorted : Arranges key items (items.insertionSort fun a b => key a ≤ key b) :=
    arranges_insertionSort items
  generalize items.insertionSort (fun a b => key a ≤ key b) = l at hsorted
  rw [← hsorted.map_key, List.getElem?_map] at hc hc'
  obtain ⟨a, ha, hac⟩ := Option.map_eq_some_iff.mp hc
  obtain ⟨b, hb, hbc⟩ := Option.map_eq_some_iff.mp hc'
  have hexchanged := hsorted.exchangeAt hm ha hb (hac.trans hbc.symm)
  have hk : 0 < k := Nat.pos_of_mul_pos_right hm
  refine ⟨fun j => if j = k then exchangeAt l (k * limit) a b else l, fun j => ?_, fun hnodup => ?_⟩
  · dsimp only
    split_ifs
    · exact hexchanged
    · exact hsorted
  · have hlength : k * limit < items.length := by
      rw [← hsorted.perm.length_eq]
      exact (List.getElem?_eq_some_iff.mp hb).1
    have hcount := lt_pageCount_of_mul_lt hlimit hlength
    have hpred : (k - 1) * limit + limit = k * limit := by
      rw [← Nat.succ_mul]
      congr 1
      omega
    -- the element before the end of the page is the first of the next one
    have hfirst : a ∈ page l ((k - 1) * limit) limit := by
      unfold page
      refine List.mem_iff_getElem?.mpr ⟨limit - 1, ?_⟩
      rw [List.getElem?_take_of_lt (by omega), List.getElem?_drop]
      rw [← ha]
      congr 1
      omega
    have hsecond : a ∈ page (exchangeAt l (k * limit) a b) (k * limit) limit := by
      unfold page exchangeAt
      refine List.mem_iff_getElem?.mpr ⟨0, ?_⟩
      rw [List.getElem?_take_of_lt hlimit, List.getElem?_drop]
      have htake : (l.take (k * limit - 1)).length = k * limit - 1 := by
        rw [List.length_take]
        have hlt := (List.getElem?_eq_some_iff.mp ha).1
        omega
      rw [List.getElem?_append_right (by omega), htake]
      have hone : k * limit + 0 - (k * limit - 1) = 1 := by omega
      rw [hone]
      rfl
    have hdisjoint := (List.nodup_flatMap.mp hnodup).2
    have hpair := List.pairwise_iff_getElem.mp hdisjoint (k - 1) k (by simp; omega) (by simpa) (by omega)
    simp only [List.getElem_range, Function.onFun] at hpair
    rw [if_neg (by omega), if_pos trivial] at hpair
    exact hpair hfirst hsecond

end ProtonVpnOmarchy.Lib
