import Mathlib

/-!
# Machines that step until they halt

A machine is a step function into `Outcome`: go on in a next state, halt in a state, or fault
(run off the program, touch memory out of bounds). `iterate` takes a fixed number of going-on
steps, `run` goes on until the machine halts or the fuel is used up.

* `iterate_add`, `run_of_iterate`: runs compose.
* `iterate_map`: a map of states that commutes with going-on steps carries iterations along
  (a simulation with one step per step).
-/

namespace ProtonVpnOmarchy.Lib

/-- What one step of a machine leads to. -/
inductive Outcome (σ : Type) where
  | next (s : σ)
  | halt (s : σ)
  | fault
  deriving DecidableEq

namespace Outcome

variable {σ τ : Type}

/-- `n` going-on steps, `none` if the machine halts or faults before. -/
def iterate (step : σ → Outcome σ) : ℕ → σ → Option σ
  | 0, s => some s
  | n + 1, s =>
    match step s with
    | .next s' => iterate step n s'
    | _ => none

/-- Step until the machine halts, at most `fuel` steps; `none` on a fault or out of fuel. -/
def run (step : σ → Outcome σ) : ℕ → σ → Option σ
  | 0, _ => none
  | fuel + 1, s =>
    match step s with
    | .next s' => run step fuel s'
    | .halt s' => some s'
    | .fault => none

variable {step : σ → Outcome σ}

theorem iterate_succ_of_next {n : ℕ} {s s' : σ} (h : step s = .next s') :
    iterate step (n + 1) s = iterate step n s' := by
  simp [iterate, h]

theorem iterate_add {n k : ℕ} {s s' s'' : σ} (h : iterate step n s = some s')
    (h' : iterate step k s' = some s'') : iterate step (n + k) s = some s'' := by
  induction n generalizing s with
  | zero =>
      simp only [iterate, Option.some.injEq] at h
      subst h
      simpa using h'
  | succ n ih =>
      rw [Nat.succ_add]
      cases hs : step s with
      | next s₁ =>
          rw [iterate_succ_of_next hs] at h ⊢
          exact ih h
      | halt s₁ => simp [iterate, hs] at h
      | fault => simp [iterate, hs] at h

theorem run_of_iterate {n : ℕ} {s s' : σ} (h : iterate step n s = some s') (fuel : ℕ) :
    run step (n + fuel) s = run step fuel s' := by
  induction n generalizing s with
  | zero =>
      simp only [iterate, Option.some.injEq] at h
      simp [h]
  | succ n ih =>
      rw [Nat.succ_add]
      cases hs : step s with
      | next s₁ =>
          rw [iterate_succ_of_next hs] at h
          simpa [run, hs] using ih h
      | halt s₁ => simp [iterate, hs] at h
      | fault => simp [iterate, hs] at h

theorem run_of_halt {s s' : σ} (h : step s = .halt s') (fuel : ℕ) :
    run step (fuel + 1) s = some s' := by
  simp [run, h]

/-- A map of states that commutes with going-on steps carries iterations along. -/
theorem iterate_map {step' : τ → Outcome τ} (f : σ → τ)
    (hf : ∀ s s', step s = .next s' → step' (f s) = .next (f s')) {n : ℕ} {s s' : σ}
    (h : iterate step n s = some s') : iterate step' n (f s) = some (f s') := by
  induction n generalizing s with
  | zero =>
      simp only [iterate, Option.some.injEq] at h
      simp [iterate, h]
  | succ n ih =>
      cases hs : step s with
      | next s₁ =>
          rw [iterate_succ_of_next hs] at h
          rw [iterate_succ_of_next (hf s s₁ hs)]
          exact ih h
      | halt s₁ => simp [iterate, hs] at h
      | fault => simp [iterate, hs] at h

end Outcome

end ProtonVpnOmarchy.Lib
