import Mathlib

/-!
# The first element that matches

`modifyFirst p f l` changes the first element of `l` that `p` accepts, and `eraseP p l` of the core
library takes it away.

* `map_modifyFirst` — what `f` keeps is kept of the whole list.
* `perm_cons_eraseP` — the element that is taken away and the rest make up the list.
* `argmin_map`, `argmin_filter` — the first minimum of a list, where it is looked for elsewhere.
* `exists_unused` — of more candidates than there are names in use, one is not in use.
-/

namespace ProtonVpnOmarchy.Lib

variable {α β : Type} {p : α → Bool} {f : α → α}

/-- The list with its first element that `p` accepts changed by `f`. -/
def modifyFirst (p : α → Bool) (f : α → α) : List α → List α
  | [] => []
  | a :: l => if p a then f a :: l else a :: modifyFirst p f l

theorem modifyFirst_cons_of_pos {a : α} {l : List α} (h : p a = true) :
    modifyFirst p f (a :: l) = f a :: l := if_pos h

theorem modifyFirst_cons_of_neg {a : α} {l : List α} (h : p a = false) :
    modifyFirst p f (a :: l) = a :: modifyFirst p f l := if_neg (by simp [h])

/-- Where nothing is accepted, nothing is changed. -/
theorem modifyFirst_of_find?_eq_none {l : List α} (h : l.find? p = none) :
    modifyFirst p f l = l := by
  induction l with
  | nil => rfl
  | cons a l ih =>
      have ha : p a = false := by simpa using List.find?_eq_none.mp h a List.mem_cons_self
      rw [List.find?_cons_of_neg (by simp [ha])] at h
      rw [modifyFirst_cons_of_neg ha, ih h]

/-- What `f` keeps is kept of the whole list. -/
theorem map_modifyFirst (g : α → β) (h : ∀ a, g (f a) = g a) (l : List α) :
    (modifyFirst p f l).map g = l.map g := by
  induction l with
  | nil => rfl
  | cons a l ih =>
      rcases hp : p a with _ | _
      · rw [modifyFirst_cons_of_neg hp, List.map_cons, List.map_cons, ih]
      · rw [modifyFirst_cons_of_pos hp, List.map_cons, List.map_cons, h]

/-- An element that is not changed, or the changed one. -/
theorem mem_modifyFirst {b : α} {l : List α} (h : b ∈ modifyFirst p f l) :
    b ∈ l ∨ ∃ a, l.find? p = some a ∧ b = f a := by
  induction l with
  | nil => exact absurd h List.not_mem_nil
  | cons a l ih =>
      rcases hp : p a with _ | _
      · rw [modifyFirst_cons_of_neg hp] at h
        rw [List.find?_cons_of_neg (by simp [hp])]
        rcases List.mem_cons.mp h with rfl | hmem
        · exact .inl List.mem_cons_self
        · rcases ih hmem with hmem | hfound
          · exact .inl (List.mem_cons_of_mem _ hmem)
          · exact .inr hfound
      · rw [modifyFirst_cons_of_pos hp] at h
        rw [List.find?_cons_of_pos hp]
        rcases List.mem_cons.mp h with rfl | hmem
        · exact .inr ⟨a, rfl, rfl⟩
        · exact .inl (List.mem_cons_of_mem _ hmem)

/-- The changed element is in the changed list. -/
theorem mem_modifyFirst_of_find? {a : α} {l : List α} (h : l.find? p = some a) :
    f a ∈ modifyFirst p f l := by
  induction l with
  | nil => cases h
  | cons b l ih =>
      rcases hp : p b with _ | _
      · rw [List.find?_cons_of_neg (by simp [hp])] at h
        rw [modifyFirst_cons_of_neg hp]
        exact List.mem_cons_of_mem _ (ih h)
      · rw [List.find?_cons_of_pos hp] at h
        rw [modifyFirst_cons_of_pos hp, Option.some.inj h]
        exact List.mem_cons_self

/-- What holds of every element and is kept by `f` holds of the elements of the changed list. -/
theorem forall_modifyFirst {P : α → Prop} {l : List α} (h : ∀ a ∈ l, P a)
    (hf : ∀ a, P a → P (f a)) : ∀ b ∈ modifyFirst p f l, P b := by
  intro b hb
  rcases mem_modifyFirst hb with hmem | ⟨a, hfound, rfl⟩
  · exact h b hmem
  · exact hf a (h a (List.mem_of_find?_eq_some hfound))

/-- The element that is taken away and the rest make up the list. -/
theorem perm_cons_eraseP {a : α} {l : List α} (h : l.find? p = some a) :
    l.Perm (a :: l.eraseP p) := by
  induction l with
  | nil => cases h
  | cons b l ih =>
      rcases hp : p b with _ | _
      · rw [List.find?_cons_of_neg (by simp [hp])] at h
        rw [List.eraseP_cons_of_neg (by simp [hp])]
        exact ((ih h).cons b).trans (.swap a b _)
      · rw [List.find?_cons_of_pos hp] at h
        rw [List.eraseP_cons_of_pos hp, Option.some.inj h]

/-- Of more candidates than there are names in use, the name of one is not in use. -/
theorem exists_unused {name : α → β} {candidates : List α} {taken : List β}
    (hnodup : (candidates.map name).Nodup) (hlength : taken.length < candidates.length) :
    ∃ a ∈ candidates, name a ∉ taken := by
  by_contra hnone
  have hsub : candidates.map name ⊆ taken := by
    intro b hb
    obtain ⟨a, ha, rfl⟩ := List.mem_map.mp hb
    by_contra hunused
    exact hnone ⟨a, ha, hunused⟩
  have hle := (hnodup.subperm hsub).length_le
  rw [List.length_map] at hle
  omega

/-! ## First minima -/

section minima

variable {γ : Type} [LinearOrder γ]

theorem argmin_map (g : α → β) (key : β → γ) (l : List α) :
    (l.map g).argmin key = (l.argmin fun a => key (g a)).map g := by
  induction l with
  | nil => rfl
  | cons a l ih =>
      rw [List.map_cons, List.argmin_cons, List.argmin_cons, ih]
      cases l.argmin fun a => key (g a) with
      | none => rfl
      | some c =>
          dsimp only [Option.map_some]
          split_ifs
          · rfl
          · rfl

/-- A minimum is found among elements that lie below all the others. -/
theorem argmin_filter {q : α → Prop} [DecidablePred q] {key : α → γ} {l : List α}
    (hexists : ∃ a ∈ l, q a) (hbelow : ∀ a ∈ l, q a → ∀ b ∈ l, ¬ q b → key a < key b) :
    (l.filter q).argmin key = l.argmin key := by
  induction l with
  | nil =>
      obtain ⟨a, ha, -⟩ := hexists
      cases ha
  | cons a l ih =>
      have hrest : ∀ b ∈ l, q b → ∀ c ∈ l, ¬ q c → key b < key c := fun b hb hqb c hc hqc =>
        hbelow b (List.mem_cons_of_mem _ hb) hqb c (List.mem_cons_of_mem _ hc) hqc
      by_cases hsome : ∃ b ∈ l, q b
      · have ih := ih hsome hrest
        by_cases hq : q a
        · rw [List.filter_cons_of_pos (by simpa using hq), List.argmin_cons, List.argmin_cons, ih]
        · obtain ⟨b, hb, hqb⟩ := hsome
          rw [List.filter_cons_of_neg (by simpa using hq), List.argmin_cons, ih]
          rcases hmin : l.argmin key with _ | c
          · rw [List.argmin_eq_none.mp hmin] at hb
            cases hb
          · have hc : key c ≤ key b := List.le_of_mem_argmin hb hmin
            have hb : key b < key a :=
              hbelow b (List.mem_cons_of_mem _ hb) hqb a List.mem_cons_self hq
            dsimp only
            rw [if_pos (hc.trans_lt hb)]
      · have hnone : ∀ b ∈ l, ¬ q b := fun b hb hqb => hsome ⟨b, hb, hqb⟩
        obtain ⟨b, hb, hqb⟩ := hexists
        have hq : q a := by
          rcases List.mem_cons.mp hb with rfl | hb
          · exact hqb
          · exact absurd hqb (hnone b hb)
        have hempty : l.filter q = [] := List.filter_eq_nil_iff.mpr fun b hb => by
          simpa using hnone b hb
        rw [List.filter_cons_of_pos (by simpa using hq), hempty, List.argmin_cons, List.argmin_cons]
        rcases hmin : l.argmin key with _ | c
        · rfl
        · have hc := List.argmin_mem hmin
          have hlt : key a < key c :=
            hbelow a List.mem_cons_self hq c (List.mem_cons_of_mem _ hc) (hnone c hc)
          dsimp only [List.argmin_nil]
          rw [if_neg (not_lt_of_gt hlt)]

end minima

end ProtonVpnOmarchy.Lib
