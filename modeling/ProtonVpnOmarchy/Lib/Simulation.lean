import ProtonVpnOmarchy.Lib.Stepping

/-!
# Simulations between machines

A map of states carries one machine over to another if the other does what the first one does, up
to steps that the map does not see; a rank says that only finitely many of those follow each other.
Both machines are functions, so the map then carries every result, in both directions.

* `Carries.halts_iff` — the second machine halts where the first one does.
* `Carries.faults_iff` — and it faults if the first one does.
-/

namespace ProtonVpnOmarchy.Lib.Outcome

variable {σ τ : Type}

/-- The machine halts in `r`. -/
def Halts (step : σ → Outcome σ) (s r : σ) : Prop := ∃ fuel, run step fuel s = some r

/-- The machine goes on to a state in which it faults. -/
def Faults (step : σ → Outcome σ) (s : σ) : Prop :=
  ∃ n s', iterate step n s = some s' ∧ step s' = .fault

section results

variable {step : σ → Outcome σ} {s s' r : σ}

theorem halts_of_next (h : step s = .next s') : Halts step s r ↔ Halts step s' r := by
  constructor
  · rintro ⟨fuel, hrun⟩
    cases fuel with
    | zero => simp [run] at hrun
    | succ fuel => exact ⟨fuel, by simpa [run, h] using hrun⟩
  · rintro ⟨fuel, hrun⟩
    exact ⟨fuel + 1, by simpa [run, h] using hrun⟩

theorem halts_of_halt (h : step s = .halt s') : Halts step s r ↔ s' = r := by
  constructor
  · rintro ⟨fuel, hrun⟩
    cases fuel with
    | zero => simp [run] at hrun
    | succ fuel => simpa [run, h] using hrun
  · rintro rfl
    exact ⟨1, by simp [run, h]⟩

theorem faults_of_fault (h : step s = .fault) : Faults step s := ⟨0, s, rfl, h⟩

theorem faults_of_next (h : step s = .next s') : Faults step s ↔ Faults step s' := by
  constructor
  · rintro ⟨n, t, hrun, hfault⟩
    cases n with
    | zero =>
        obtain rfl : s = t := by simpa [iterate] using hrun
        rw [h] at hfault
        cases hfault
    | succ n => exact ⟨n, t, by rwa [iterate_succ_of_next h] at hrun, hfault⟩
  · rintro ⟨n, t, hrun, hfault⟩
    exact ⟨n + 1, t, by rwa [iterate_succ_of_next h], hfault⟩

/-- What halts does so by induction along the run. -/
theorem Halts.induction {motive : (s : σ) → Halts step s r → Prop}
    (halt : ∀ s h, step s = .halt r → motive s h)
    (next : ∀ s s' h h', step s = .next s' → motive s' h' → motive s h) (h : Halts step s r) :
    motive s h := by
  obtain ⟨fuel, hrun⟩ := h
  induction fuel generalizing s with
  | zero => simp [run] at hrun
  | succ fuel ih =>
      cases hstep : step s with
      | next s' =>
          have hrest : run step fuel s' = some r := by simpa [run, hstep] using hrun
          exact next s s' _ ⟨fuel, hrest⟩ hstep (ih hrest)
      | halt s' =>
          obtain rfl : s' = r := by simpa [run, hstep] using hrun
          exact halt s _ hstep
      | fault => simp [run, hstep] at hrun

/-- What faults does so by induction along the run. -/
theorem Faults.induction {motive : (s : σ) → Faults step s → Prop}
    (fault : ∀ s h, step s = .fault → motive s h)
    (next : ∀ s s' h h', step s = .next s' → motive s' h' → motive s h) (h : Faults step s) :
    motive s h := by
  obtain ⟨n, t, hrun, hfault⟩ := h
  induction n generalizing s with
  | zero =>
      obtain rfl : s = t := by simpa [iterate] using hrun
      exact fault s _ hfault
  | succ n ih =>
      cases hstep : step s with
      | next s' =>
          rw [iterate_succ_of_next hstep] at hrun
          exact next s s' _ ⟨n, t, hrun, hfault⟩ hstep (ih hrun)
      | halt s' => simp [iterate, hstep] at hrun
      | fault => simp [iterate, hstep] at hrun

end results

/-- The machine on `τ` does in `f s` what the machine on `σ` does in `s`, up to steps that leave
`f s` as it is and lower the rank. -/
def Carries (step : σ → Outcome σ) (step' : τ → Outcome τ) (f : σ → τ) (rank : σ → ℕ) : Prop :=
  ∀ s, match step s with
    | .next s' => step' (f s) = .next (f s') ∨ f s' = f s ∧ rank s' < rank s
    | .halt s' => step' (f s) = .halt (f s')
    | .fault => step' (f s) = .fault

namespace Carries

variable {step : σ → Outcome σ} {step' : τ → Outcome τ} {f : σ → τ} {rank : σ → ℕ}

theorem next (h : Carries step step' f rank) {s s' : σ} (hs : step s = .next s') :
    step' (f s) = .next (f s') ∨ f s' = f s ∧ rank s' < rank s := by
  have hstep := h s
  rwa [hs] at hstep

theorem halt (h : Carries step step' f rank) {s s' : σ} (hs : step s = .halt s') :
    step' (f s) = .halt (f s') := by
  have hstep := h s
  rwa [hs] at hstep

theorem fault (h : Carries step step' f rank) {s : σ} (hs : step s = .fault) :
    step' (f s) = .fault := by
  have hstep := h s
  rwa [hs] at hstep

/-- Every state leads, without a step of the second machine, to one in which both do the same. -/
theorem exists_settled (h : Carries step step' f rank) (s : σ) :
    ∃ t, f t = f s ∧ (∀ r, Halts step s r ↔ Halts step t r) ∧ (Faults step s ↔ Faults step t) ∧
      ∀ t', step t = .next t' → step' (f t) = .next (f t') := by
  induction hrank : rank s using Nat.strong_induction_on generalizing s with
  | _ n ih =>
      cases hstep : step s with
      | next s' =>
          rcases h.next hstep with hnext | ⟨hsame, hlt⟩
          · refine ⟨s, rfl, fun _ => Iff.rfl, Iff.rfl, fun t' ht' => ?_⟩
            rw [hstep] at ht'
            obtain rfl := Outcome.next.inj ht'
            exact hnext
          · obtain ⟨t, hf, hhalts, hfaults, hgoes⟩ := ih _ (hrank ▸ hlt) s' rfl
            exact ⟨t, hf.trans hsame, fun r => (halts_of_next hstep).trans (hhalts r),
              (faults_of_next hstep).trans hfaults, hgoes⟩
      | halt s' => exact ⟨s, rfl, fun _ => Iff.rfl, Iff.rfl, by simp [hstep]⟩
      | fault => exact ⟨s, rfl, fun _ => Iff.rfl, Iff.rfl, by simp [hstep]⟩

theorem halts (h : Carries step step' f rank) {s r : σ} (hs : Halts step s r) :
    Halts step' (f s) (f r) := by
  induction hs using Halts.induction with
  | halt s _ hstep => exact (halts_of_halt (h.halt hstep)).mpr rfl
  | next s s' _ _ hstep ih =>
      rcases h.next hstep with hnext | ⟨hsame, -⟩
      · exact (halts_of_next hnext).mpr ih
      · rwa [← hsame]

theorem faults (h : Carries step step' f rank) {s : σ} (hs : Faults step s) :
    Faults step' (f s) := by
  induction hs using Faults.induction with
  | fault s _ hstep => exact faults_of_fault (h.fault hstep)
  | next s s' _ _ hstep ih =>
      rcases h.next hstep with hnext | ⟨hsame, -⟩
      · exact (faults_of_next hnext).mpr ih
      · rwa [← hsame]

theorem exists_halts (h : Carries step step' f rank) {t r : τ} (ht : Halts step' t r) :
    ∀ s, f s = t → ∃ r', Halts step s r' ∧ f r' = r := by
  induction ht using Halts.induction with
  | halt t _ hstep =>
      rintro s rfl
      obtain ⟨s₀, hf, hhalts, -, hgoes⟩ := h.exists_settled s
      rw [← hf] at hstep
      cases hs₀ : step s₀ with
      | next s' =>
          rw [hgoes s' hs₀] at hstep
          cases hstep
      | halt s' =>
          rw [h.halt hs₀] at hstep
          exact ⟨s', (hhalts s').mpr ((halts_of_halt hs₀).mpr rfl), Outcome.halt.inj hstep⟩
      | fault =>
          rw [h.fault hs₀] at hstep
          cases hstep
  | next t t' _ _ hstep ih =>
      rintro s rfl
      obtain ⟨s₀, hf, hhalts, -, hgoes⟩ := h.exists_settled s
      rw [← hf] at hstep
      cases hs₀ : step s₀ with
      | next s' =>
          rw [hgoes s' hs₀] at hstep
          obtain ⟨r', hr', hfr⟩ := ih s' (Outcome.next.inj hstep)
          exact ⟨r', (hhalts r').mpr ((halts_of_next hs₀).mpr hr'), hfr⟩
      | halt s' =>
          rw [h.halt hs₀] at hstep
          cases hstep
      | fault =>
          rw [h.fault hs₀] at hstep
          cases hstep

theorem faults_back (h : Carries step step' f rank) {t : τ} (ht : Faults step' t) :
    ∀ s, f s = t → Faults step s := by
  induction ht using Faults.induction with
  | fault t _ hstep =>
      rintro s rfl
      obtain ⟨s₀, hf, -, hfaults, hgoes⟩ := h.exists_settled s
      rw [← hf] at hstep
      cases hs₀ : step s₀ with
      | next s' =>
          rw [hgoes s' hs₀] at hstep
          cases hstep
      | halt s' =>
          rw [h.halt hs₀] at hstep
          cases hstep
      | fault => exact hfaults.mpr (faults_of_fault hs₀)
  | next t t' _ _ hstep ih =>
      rintro s rfl
      obtain ⟨s₀, hf, -, hfaults, hgoes⟩ := h.exists_settled s
      rw [← hf] at hstep
      cases hs₀ : step s₀ with
      | next s' =>
          rw [hgoes s' hs₀] at hstep
          exact hfaults.mpr ((faults_of_next hs₀).mpr (ih s' (Outcome.next.inj hstep)))
      | halt s' =>
          rw [h.halt hs₀] at hstep
          cases hstep
      | fault =>
          rw [h.fault hs₀] at hstep
          cases hstep

theorem halts_iff (h : Carries step step' f rank) (s : σ) (r : τ) :
    Halts step' (f s) r ↔ ∃ r', Halts step s r' ∧ f r' = r := by
  constructor
  · intro hs
    exact h.exists_halts hs s rfl
  · rintro ⟨r', hs, rfl⟩
    exact h.halts hs

theorem faults_iff (h : Carries step step' f rank) (s : σ) :
    Faults step' (f s) ↔ Faults step s :=
  ⟨fun hs => h.faults_back hs s rfl, h.faults⟩

end Carries

end ProtonVpnOmarchy.Lib.Outcome
