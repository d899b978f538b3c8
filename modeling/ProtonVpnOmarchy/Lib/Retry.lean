import Mathlib

/-!
# Trying candidates until one succeeds

A candidate is selected from those that are left, and tried. If it fails, it is removed and another
one is selected. Only candidates that cannot succeed are removed, so a selection is always made
among all that can.

* `pick` — an element of a list at random.
* `retry_cases` — how the attempts end.
-/

namespace ProtonVpnOmarchy.Lib

/-! ## Random elements -/

section pick

variable {α : Type}

/-- The element of a list that a draw stands for. -/
def pick (draw : ℕ) (l : List α) : Option α := l[draw % l.length]?

theorem mem_of_pick {draw : ℕ} {l : List α} {a : α} (h : pick draw l = some a) : a ∈ l :=
  List.mem_of_getElem? h

theorem exists_pick {l : List α} (h : l ≠ []) (draw : ℕ) : ∃ a, pick draw l = some a :=
  ⟨_, List.getElem?_eq_getElem (Nat.mod_lt _ (List.length_pos_iff.mpr h))⟩

theorem pick_eq_none {draw : ℕ} {l : List α} (h : pick draw l = none) : l = [] := by
  by_contra hne
  obtain ⟨a, ha⟩ := exists_pick hne draw
  rw [ha] at h
  cases h

/-- Every element is the one of some draw. -/
theorem exists_draw {l : List α} {a : α} (h : a ∈ l) : ∃ draw, pick draw l = some a := by
  obtain ⟨i, hi⟩ := List.mem_iff_getElem?.mp h
  refine ⟨i, ?_⟩
  unfold pick
  rw [Nat.mod_eq_of_lt (List.getElem?_eq_some_iff.mp hi).1, hi]

end pick

/-! ## Attempts -/

section retry

variable {ι β ε : Type} [DecidableEq ι]

variable (select : ℕ → List ι → Except ε ι) (attempt : ℕ → ι → Option β)
  (giveUp : List ι → Option ε) (exhausted : ε)

/-- Attempts in rounds; the bound of the rounds is not reached if it exceeds the candidates. -/
def retry : (bound : ℕ) → (round : ℕ) → List ι → Except ε β
  | 0, _, _ => .error exhausted
  | bound + 1, round, left =>
    match select round left with
    | .error e => .error e
    | .ok candidate =>
      match attempt round candidate with
      | some b => .ok b
      | none =>
        match giveUp (left.filter (· ≠ candidate)) with
        | some e => .error e
        | none => retry bound (round + 1) (left.filter (· ≠ candidate))

/-- What is left of the candidates: all that can succeed are. -/
structure Left (usable : ι → Prop) (candidates left : List ι) : Prop where
  sublist : left.Sublist candidates
  usable_mem : ∀ candidate ∈ candidates, usable candidate → candidate ∈ left

variable {select attempt giveUp exhausted} {usable : ι → Prop} {candidates : List ι}

omit [DecidableEq ι] in
theorem Left.refl : Left usable candidates candidates :=
  ⟨List.Sublist.refl _, fun _ hmem _ => hmem⟩

theorem Left.remove {left : List ι} (h : Left usable candidates left) {candidate : ι}
    (hfails : ¬ usable candidate) : Left usable candidates (left.filter (· ≠ candidate)) := by
  refine ⟨List.filter_sublist.trans h.sublist, fun other hother husable => ?_⟩
  refine List.mem_filter.mpr ⟨h.usable_mem other hother husable, ?_⟩
  rw [decide_eq_true_eq]
  rintro rfl
  exact hfails husable

/-- How the attempts end: a candidate succeeds, no candidate is selected, or they are given up. -/
inductive Ends (select : ℕ → List ι → Except ε ι) (attempt : ℕ → ι → Option β)
    (giveUp : List ι → Option ε) (usable : ι → Prop) (candidates : List ι) : Except ε β → Prop
  | success {round : ℕ} {left : List ι} {candidate : ι} {b : β}
      (hleft : Left usable candidates left) (hselect : select round left = .ok candidate)
      (hattempt : attempt round candidate = some b) :
      Ends select attempt giveUp usable candidates (.ok b)
  | unselected {round : ℕ} {left : List ι} {e : ε} (hleft : Left usable candidates left)
      (hselect : select round left = .error e) :
      Ends select attempt giveUp usable candidates (.error e)
  | givenUp {left : List ι} {e : ε} (hleft : Left usable candidates left)
      (hgiveUp : giveUp left = some e) :
      Ends select attempt giveUp usable candidates (.error e)

theorem retry_cases (hselect : ∀ round left candidate, select round left = .ok candidate →
      candidate ∈ left)
    (hattempt : ∀ round candidate, attempt round candidate = none → ¬ usable candidate)
    {bound round : ℕ} {left : List ι} (hbound : left.length < bound)
    (hleft : Left usable candidates left) : Ends select attempt giveUp usable candidates
      (retry select attempt giveUp exhausted bound round left) := by
  induction bound generalizing round left with
  | zero => exact absurd hbound (Nat.not_lt_zero _)
  | succ bound ih =>
      unfold retry
      cases hselected : select round left with
      | error e => exact .unselected hleft hselected
      | ok candidate =>
          dsimp only
          cases hattempted : attempt round candidate with
          | some b => exact .success hleft hselected hattempted
          | none =>
              dsimp only
              have hremoved := hleft.remove (hattempt round candidate hattempted)
              cases hgiveUp : giveUp (left.filter (· ≠ candidate)) with
              | some e => exact .givenUp hremoved hgiveUp
              | none =>
                  refine ih ?_ hremoved
                  have hlt : (left.filter (· ≠ candidate)).length < left.length :=
                    List.length_filter_lt_length_iff_exists.mpr
                      ⟨candidate, hselect round left candidate hselected, by simp⟩
                  omega

end retry

end ProtonVpnOmarchy.Lib
