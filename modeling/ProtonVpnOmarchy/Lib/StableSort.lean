import Mathlib

/-!
# Sorted lists

`List.insertionSort` is stable: equal elements keep their order. An element of a list is among the
first `n` after sorting if fewer than `n` others go before it, where an equal one goes before it if
it stands before it in the list.

* `mem_take_insertionSort` — that fact, for the element at a place in the list.
* `mem_destutter_ne`, `pairwise_lt_destutter_ne` — a sorted list whose repeated neighbours are
  dropped is strictly sorted and has the values it had.
-/

namespace ProtonVpnOmarchy.Lib

variable {α : Type} (r : α → α → Prop) [DecidableRel r]

/-- The elements that go before an element that stands between two parts of a list. -/
def goBefore (front : List α) (a : α) (back : List α) : List α :=
  front.filter (fun b => r b a) ++ back.filter fun b => ¬ r a b

omit [DecidableRel r] in
/-- A prefix that ends in the first part. -/
theorem takeWhile_append_of_stop (p : α → Bool) (l₁ l₂ : List α) (hstop : ∃ a ∈ l₁, p a = false) :
    (l₁ ++ l₂).takeWhile p = l₁.takeWhile p ∧ (l₁ ++ l₂).dropWhile p = l₁.dropWhile p ++ l₂ := by
  induction l₁ with
  | nil => simp at hstop
  | cons a l₁ ih =>
      by_cases ha : p a
      · have hstop' : ∃ b ∈ l₁, p b = false := by
          obtain ⟨b, hb, hpb⟩ := hstop
          rcases List.mem_cons.mp hb with rfl | hb
          · rw [ha] at hpb
            cases hpb
          · exact ⟨b, hb, hpb⟩
        obtain ⟨htake, hdrop⟩ := ih hstop'
        rw [List.cons_append, List.takeWhile_cons_of_pos ha, List.dropWhile_cons_of_pos ha,
          List.takeWhile_cons_of_pos ha, List.dropWhile_cons_of_pos ha, htake, hdrop]
        exact ⟨rfl, rfl⟩
      · rw [List.cons_append, List.takeWhile_cons_of_neg ha, List.dropWhile_cons_of_neg ha,
          List.takeWhile_cons_of_neg ha, List.dropWhile_cons_of_neg ha]
        exact ⟨rfl, rfl⟩

/-- The place of an element after sorting. -/
theorem exists_insertionSort_split [Std.Total r] [IsTrans α r] (front : List α) (a : α)
    (back : List α) : ∃ before after,
      (front ++ a :: back).insertionSort r = before ++ a :: after ∧
        before.length ≤ (goBefore r front a back).length := by
  induction front with
  | nil =>
      -- The element is put behind those that are smaller.
      refine ⟨(back.insertionSort r).takeWhile fun b => ¬ r a b,
        (back.insertionSort r).dropWhile fun b => ¬ r a b,
        List.insertionSort_cons_eq_take_drop r a back, ?_⟩
      have hperm : ((back.insertionSort r).filter fun b => ¬ r a b).Perm
          (back.filter fun b => ¬ r a b) := (List.perm_insertionSort r back).filter _
      have hsublist : ((back.insertionSort r).takeWhile fun b => ¬ r a b).Sublist
          ((back.insertionSort r).filter fun b => ¬ r a b) := by
        have hkept := (List.takeWhile_sublist (fun b => decide (¬ r a b))
          (l := back.insertionSort r)).filter fun b => decide (¬ r a b)
        have hself : ((back.insertionSort r).takeWhile fun b => decide (¬ r a b)).filter
            (fun b => decide (¬ r a b)) =
              (back.insertionSort r).takeWhile fun b => decide (¬ r a b) := by
          rw [List.filter_eq_self]
          intro b hb
          exact List.mem_takeWhile_imp (p := fun b => decide (¬ r a b)) hb
        rwa [hself] at hkept
      exact hsublist.length_le.trans hperm.length_eq.le
  | cons b front ih =>
      obtain ⟨before, after, hsorted, hlength⟩ := ih
      have hpairwise := List.pairwise_insertionSort r (front ++ a :: back)
      rw [hsorted] at hpairwise
      have hinsert : (b :: front ++ a :: back).insertionSort r =
          (before ++ a :: after).orderedInsert r b := by
        rw [List.cons_append, List.insertionSort_cons, hsorted]
      have hgrow : r b a → before.length + 1 ≤ (goBefore r (b :: front) a back).length := by
        intro hba
        have hcons : goBefore r (b :: front) a back = b :: goBefore r front a back := by
          unfold goBefore
          rw [List.filter_cons_of_pos (by simpa using hba), List.cons_append]
        rw [hcons, List.length_cons]
        exact Nat.succ_le_succ hlength
      have hkeep : before.length ≤ (goBefore r (b :: front) a back).length := by
        refine hlength.trans ?_
        unfold goBefore
        rw [List.length_append, List.length_append]
        exact Nat.add_le_add_right ((List.sublist_cons_self b front).filter _).length_le _
      rw [hinsert, List.orderedInsert_eq_take_drop]
      by_cases hbefore : ∀ c ∈ before, ¬ r b c
      · have htake : ∀ l, (before ++ l).takeWhile (fun c => decide (¬ r b c)) =
            before ++ l.takeWhile fun c => decide (¬ r b c) := fun l =>
          List.takeWhile_append_of_pos (by simpa using hbefore)
        have hdrop : ∀ l, (before ++ l).dropWhile (fun c => decide (¬ r b c)) =
            l.dropWhile fun c => decide (¬ r b c) := fun l =>
          List.dropWhile_append_of_pos (by simpa using hbefore)
        by_cases hba : r b a
        · refine ⟨before ++ [b], after, ?_, ?_⟩
          · rw [htake, hdrop, List.takeWhile_cons_of_neg (by simpa using hba),
              List.dropWhile_cons_of_neg (by simpa using hba)]
            simp
          · rw [List.length_append]
            exact hgrow hba
        · refine ⟨before, after.takeWhile (fun c => decide (¬ r b c)) ++
            b :: after.dropWhile (fun c => decide (¬ r b c)), ?_, hkeep⟩
          rw [htake, hdrop, List.takeWhile_cons_of_pos (by simpa using hba),
            List.dropWhile_cons_of_pos (by simpa using hba), List.append_assoc, List.cons_append]
      · -- The new element goes before one that goes before `a`.
        simp only [not_forall, not_not] at hbefore
        obtain ⟨c, hc, hbc⟩ := hbefore
        have hca : r c a := (List.pairwise_append.mp hpairwise).2.2 c hc a List.mem_cons_self
        obtain ⟨hd, hdmem, hdstop⟩ : ∃ d ∈ before, (decide (¬ r b d)) = false :=
          ⟨c, hc, by simpa using hbc⟩
        refine ⟨before.takeWhile (fun c => decide (¬ r b c)) ++
          b :: before.dropWhile (fun c => decide (¬ r b c)), after, ?_, ?_⟩
        · obtain ⟨htake, hdrop⟩ := takeWhile_append_of_stop (fun c => decide (¬ r b c)) before
            (a :: after) ⟨hd, hdmem, hdstop⟩
          rw [htake, hdrop]
          simp
        · rw [List.length_append, List.length_cons, ← Nat.add_assoc, ← List.length_append,
            List.takeWhile_append_dropWhile]
          exact hgrow (Trans.trans hbc hca)

/-- An element is among the first `n` if fewer than `n` go before it. -/
theorem mem_take_insertionSort [Std.Total r] [IsTrans α r] {front back : List α} {a : α} {n : ℕ}
    (h : (goBefore r front a back).length < n) :
    a ∈ ((front ++ a :: back).insertionSort r).take n := by
  obtain ⟨before, after, hsorted, hlength⟩ := exists_insertionSort_split r front a back
  rw [hsorted, List.take_append, List.mem_append]
  obtain ⟨k, hk⟩ : ∃ k, n - before.length = k + 1 := ⟨n - before.length - 1, by omega⟩
  rw [hk, List.take_succ_cons]
  exact .inr List.mem_cons_self

section dedup

variable {α β : Type} [DecidableEq α]

theorem mem_destutter'_ne {l : List α} {a b : α} (h : b ∈ a :: l) :
    b ∈ l.destutter' (· ≠ ·) a := by
  induction l generalizing a with
  | nil => exact h
  | cons c l ih =>
      by_cases hac : a ≠ c
      · rw [List.destutter'_cons_pos _ hac]
        rcases List.mem_cons.mp h with rfl | hl
        · exact List.mem_cons_self
        · exact List.mem_cons_of_mem _ (ih hl)
      · rw [List.destutter'_cons_neg _ hac]
        obtain rfl := not_not.mp hac
        exact ih (by simpa using h)

/-- Dropping repeated neighbours drops no value. -/
theorem mem_destutter_ne {l : List α} {b : α} : b ∈ l.destutter (· ≠ ·) ↔ b ∈ l := by
  refine ⟨fun h => (List.destutter_sublist _ l).subset h, fun h => ?_⟩
  cases l with
  | nil => exact h
  | cons a l => exact mem_destutter'_ne h

/-- A sorted list without repeated neighbours is strictly sorted. -/
theorem pairwise_lt_destutter_ne [LinearOrder β] {f : α → β} (hf : Function.Injective f)
    {l : List α} (hle : l.Pairwise fun a b => f a ≤ f b) :
    (l.destutter (· ≠ ·)).Pairwise fun a b => f a < f b := by
  have hsorted := (hle.sublist (List.destutter_sublist (· ≠ ·) l)).isChain
  have hne := List.isChain_destutter (· ≠ ·) l
  have htrans : Trans (fun a b => f a < f b) (fun a b => f a < f b) fun a b => f a < f b :=
    ⟨lt_trans⟩
  rw [← List.isChain_iff_pairwise, List.isChain_iff_forall_rel_of_append_cons_cons]
  intro a b front back heq
  refine lt_of_le_of_ne ?_ fun hfab => ?_
  · exact List.isChain_iff_forall_rel_of_append_cons_cons.mp hsorted heq
  · exact List.isChain_iff_forall_rel_of_append_cons_cons.mp hne heq (hf hfab)

end dedup

end ProtonVpnOmarchy.Lib
