import Mathlib

/-!
# Stateful computations that can fail, and sequences of refusable operations

`Fallible` is the monad of code that changes a state in place and can return early with an error:
the state is kept on an error.

A system carries out operations one after the other on a state it does not control: any of them can
be refused, a refusal stops the sequence, and what was done before stays done. A refusal is
described by `Faults`, which sees the operation and its number; a `Step` says whether a refusal
stops the sequence, is ignored, or whether the sequence fails here without an operation.

* `forM_perform_inv` — what every operation keeps holds wherever the sequence stops.
* `forM_perform_establishes` — what one operation establishes and all keep holds at the end of a
  sequence that was not stopped.
* `forM_perform_attempts` — a sequence of plain attempts does all of them, or stops at the first
  one that is refused with those before it done.
* `forM_perform_ok` — without refusals nothing stops a sequence.
-/

namespace ProtonVpnOmarchy.Lib

theorem Except.bind_eq_ok {ε α β : Type} {x : Except ε α} {f : α → Except ε β} {b : β} :
    (x >>= f) = .ok b ↔ ∃ a, x = .ok a ∧ f a = .ok b := by
  cases x with
  | error e => simp [bind, Except.bind]
  | ok a => simp [bind, Except.bind]

theorem Except.exists_bind_eq_ok {ε α β : Type} {x : Except ε α} {f : α → Except ε β} :
    (∃ b, (x >>= f) = .ok b) ↔ ∃ a, x = .ok a ∧ ∃ b, f a = .ok b := by
  simp only [bind_eq_ok]
  constructor
  · rintro ⟨b, a, hx, hf⟩
    exact ⟨a, hx, b, hf⟩
  · rintro ⟨a, hx, b, hf⟩
    exact ⟨b, a, hx, hf⟩

theorem Except.map_eq_ok {ε α β : Type} {x : Except ε α} {f : α → β} {b : β} :
    x.map f = .ok b ↔ ∃ a, x = .ok a ∧ f a = b := by
  cases x with
  | error e => simp [Except.map]
  | ok a => simp [Except.map]

theorem Except.mem_of_mapM_eq_ok {ε α β : Type} {f : α → Except ε β} {xs : List α} {ys : List β}
    (h : xs.mapM f = .ok ys) :
    ys.length = xs.length ∧ ∀ y ∈ ys, ∃ x ∈ xs, f x = .ok y := by
  induction xs generalizing ys with
  | nil =>
      obtain rfl : [] = ys := by simpa [pure, Except.pure] using h
      simp
  | cons x xs ih =>
      rw [List.mapM_cons] at h
      obtain ⟨y, hy, h⟩ := bind_eq_ok.mp h
      obtain ⟨ys', hys', h⟩ := bind_eq_ok.mp h
      obtain rfl : y :: ys' = ys := by simpa [pure, Except.pure] using h
      obtain ⟨hlen, hmem⟩ := ih hys'
      refine ⟨by simp [hlen], ?_⟩
      intro z hz
      rcases List.mem_cons.mp hz with rfl | hz
      · exact ⟨x, List.mem_cons_self, hy⟩
      · obtain ⟨x', hx', hz'⟩ := hmem z hz
        exact ⟨x', List.mem_cons_of_mem _ hx', hz'⟩

theorem Except.exists_mem_of_mapM_eq_ok {ε α β : Type} {f : α → Except ε β} {xs : List α}
    {ys : List β} (h : xs.mapM f = .ok ys) {x : α} (hx : x ∈ xs) : ∃ y ∈ ys, f x = .ok y := by
  induction xs generalizing ys with
  | nil => cases hx
  | cons x' xs ih =>
      rw [List.mapM_cons] at h
      obtain ⟨y, hy, h⟩ := bind_eq_ok.mp h
      obtain ⟨ys', hys', h⟩ := bind_eq_ok.mp h
      obtain rfl : y :: ys' = ys := by simpa [pure, Except.pure] using h
      rcases List.mem_cons.mp hx with rfl | hx
      · exact ⟨y, List.mem_cons_self, hy⟩
      · obtain ⟨z, hz, hfz⟩ := ih hys' hx
        exact ⟨z, List.mem_cons_of_mem _ hz, hfz⟩

theorem Except.exists_mapM_eq_ok {ε α β : Type} {f : α → Except ε β} {xs : List α}
    (h : ∀ x ∈ xs, ∃ y, f x = .ok y) : ∃ ys, xs.mapM f = .ok ys := by
  induction xs with
  | nil => exact ⟨[], rfl⟩
  | cons x xs ih =>
      obtain ⟨y, hy⟩ := h x List.mem_cons_self
      obtain ⟨ys, hys⟩ := ih fun x' hx' => h x' (List.mem_cons_of_mem _ hx')
      refine ⟨y :: ys, ?_⟩
      rw [List.mapM_cons]
      exact bind_eq_ok.mpr ⟨y, hy, bind_eq_ok.mpr ⟨ys, hys, rfl⟩⟩

/-- What every round keeps holds at the end of a loop that was not left early. -/
theorem Except.foldlM_inv {ε α β : Type} {f : β → α → Except ε β} (I : β → Prop) {xs : List α}
    (hkeep : ∀ x ∈ xs, ∀ b b', I b → f b x = .ok b' → I b') {b b' : β} (hb : I b)
    (h : xs.foldlM f b = .ok b') : I b' := by
  induction xs generalizing b with
  | nil =>
      obtain rfl := Except.ok.inj h
      exact hb
  | cons x xs ih =>
      rw [List.foldlM_cons] at h
      obtain ⟨b₁, hb₁, h⟩ := bind_eq_ok.mp h
      exact ih (fun x hx => hkeep x (List.mem_cons_of_mem _ hx))
        (hkeep x List.mem_cons_self b b₁ hb hb₁) h

/-- Computations that change a state of type `σ` and may fail; the state survives a failure. -/
abbrev Fallible (ε σ : Type) := ExceptT ε (StateM σ)

namespace Fallible

variable {ε σ α β : Type}

/-- The result of a computation and the state it leaves. -/
def exec (m : Fallible ε σ α) (s : σ) : Except ε α × σ := (ExceptT.run m).run s

/-- A computation from its effect. -/
def ofFun (f : σ → Except ε α × σ) : Fallible ε σ α := ExceptT.mk (fun s => f s)

@[simp] theorem exec_ofFun (f : σ → Except ε α × σ) (s : σ) : (ofFun f).exec s = f s := rfl

@[simp] theorem exec_pure (a : α) (s : σ) : (pure a : Fallible ε σ α).exec s = (.ok a, s) := rfl

@[simp] theorem exec_throw (e : ε) (s : σ) :
    (throw e : Fallible ε σ α).exec s = (.error e, s) := rfl

theorem exec_bind (m : Fallible ε σ α) (f : α → Fallible ε σ β) (s : σ) :
    (m >>= f).exec s =
      match m.exec s with
      | (.ok a, s') => (f a).exec s'
      | (.error e, s') => (.error e, s') := by
  change (match (m s).1 with
    | .ok a => f a
    | .error e => pure (.error e) : StateM σ (Except ε β)) (m s).2 = _
  change _ = match m s with
    | (.ok a, s') => (f a).exec s'
    | (.error e, s') => (.error e, s')
  rcases m s with ⟨_ | _, _⟩ <;> rfl

/-- A sequence that succeeds has parts that succeed. -/
theorem exec_bind_eq_ok {m : Fallible ε σ α} {f : α → Fallible ε σ β} {s s' : σ} {b : β}
    (h : (m >>= f).exec s = (.ok b, s')) :
    ∃ a s₁, m.exec s = (.ok a, s₁) ∧ (f a).exec s₁ = (.ok b, s') := by
  rw [exec_bind] at h
  rcases hexec : m.exec s with ⟨e | a, s₁⟩
  · rw [hexec] at h
    cases h
  · rw [hexec] at h
    exact ⟨a, s₁, rfl, h⟩

/-- What holds before the computation holds after it, also after a failure. -/
def Keeps (I : σ → Prop) (m : Fallible ε σ α) : Prop := ∀ s, I s → I (m.exec s).2

namespace Keeps

variable {I : σ → Prop}

/-- What is kept holds of the state afterwards, whatever the outcome. -/
theorem of_exec {m : Fallible ε σ α} (hm : Keeps I m) {s s' : σ} {outcome : Except ε α} (hs : I s)
    (hexec : m.exec s = (outcome, s')) : I s' := by
  have hs' := hm s hs
  rwa [hexec] at hs'

theorem pure (a : α) : Keeps I (Pure.pure a : Fallible ε σ α) := fun _ hs => hs

theorem ofFun {f : σ → Except ε α × σ} (h : ∀ s, I s → I (f s).2) :
    Keeps I (Fallible.ofFun f) := h

theorem bind {m : Fallible ε σ α} {f : α → Fallible ε σ β} (hm : Keeps I m)
    (hf : ∀ a, Keeps I (f a)) : Keeps I (m >>= f) := by
  intro s hs
  have hs₁ := hm s hs
  rw [exec_bind]
  rcases hexec : m.exec s with ⟨e | a, s₁⟩
  · rwa [hexec] at hs₁
  · rw [hexec] at hs₁
    exact hf a s₁ hs₁

theorem discard {m : Fallible ε σ α} (hm : Keeps I m) :
    Keeps I (Functor.discard m : Fallible ε σ Unit) := hm.bind fun _ => pure ()

theorem foldlM {f : β → α → Fallible ε σ β} (hf : ∀ b x, Keeps I (f b x)) (xs : List α) (b : β) :
    Keeps I (xs.foldlM f b) := by
  induction xs generalizing b with
  | nil => exact pure b
  | cons x xs ih =>
      rw [List.foldlM_cons]
      exact (hf b x).bind ih

end Keeps

/-- What holds of the outcome of a computation and of the state it leaves. -/
def Meets (m : Fallible ε σ α) (s : σ) (post : Except ε α → σ → Prop) : Prop :=
  post (m.exec s).1 (m.exec s).2

namespace Meets

variable {post : Except ε α → σ → Prop} {s : σ}

theorem of_exec {m : Fallible ε σ α} (hm : Meets m s post) {outcome : Except ε α} {s' : σ}
    (hexec : m.exec s = (outcome, s')) : post outcome s' := by
  unfold Meets at hm
  rwa [hexec] at hm

theorem mono {m : Fallible ε σ α} {post' : Except ε α → σ → Prop} (hm : Meets m s post)
    (h : ∀ outcome s', post outcome s' → post' outcome s') : Meets m s post' := h _ _ hm

theorem pure {a : α} (h : post (.ok a) s) : Meets (Pure.pure a : Fallible ε σ α) s post := h

theorem throw {e : ε} (h : post (.error e) s) :
    Meets (MonadExcept.throw e : Fallible ε σ α) s post := h

theorem outcome {m : Fallible ε σ α} (hm : Meets m s post) : post (m.exec s).1 (m.exec s).2 := hm

theorem keeps {m : Fallible ε σ α} {I : σ → Prop} (hm : Meets m s post) (hkeeps : Keeps I m)
    (hs : I s) : Meets m s fun outcome s' => post outcome s' ∧ I s' := ⟨hm, hkeeps s hs⟩

/-- A sequence, by what holds in between; a first part that fails ends it. -/
theorem bind {m : Fallible ε σ β} {f : β → Fallible ε σ α} {mid : Except ε β → σ → Prop}
    (hm : Meets m s mid) (hok : ∀ a s', mid (.ok a) s' → Meets (f a) s' post)
    (herror : ∀ e s', mid (.error e) s' → post (.error e) s') : Meets (m >>= f) s post := by
  unfold Meets at hm ⊢
  rw [exec_bind]
  rcases hexec : m.exec s with ⟨e | a, s'⟩
  · rw [hexec] at hm
    exact herror e s' hm
  · rw [hexec] at hm
    exact hok a s' hm

end Meets

/-- A loop whose steps succeed is a fold over the state. -/
theorem exec_foldlM_eq_ok {f : β → α → Fallible ε σ β} {g : σ → α → σ}
    (h : ∀ b x s, ∃ b', (f b x).exec s = (.ok b', g s x)) (xs : List α) (b : β) (s : σ) :
    ∃ b', (xs.foldlM f b).exec s = (.ok b', xs.foldl g s) := by
  induction xs generalizing b s with
  | nil => exact ⟨b, rfl⟩
  | cons x xs ih =>
      obtain ⟨b', hstep⟩ := h b x s
      obtain ⟨b'', hrest⟩ := ih b' (g s x)
      refine ⟨b'', ?_⟩
      rw [List.foldlM_cons, exec_bind, hstep, List.foldl_cons]
      exact hrest

theorem forM_flatMap (f : β → Fallible ε σ Unit) (g : α → List β) (xs : List α) :
    forM (xs.flatMap g) f = forM xs fun x => forM (g x) f := by
  induction xs with
  | nil => rfl
  | cons x xs ih => rw [List.flatMap_cons, List.forM_append, List.forM_cons, ih]

theorem forM_ite (c : α → Bool) (f : α → Fallible ε σ Unit) (xs : List α) :
    (forM xs fun x => if c x then f x else pure ()) = forM (xs.filter c) f := by
  induction xs with
  | nil => rfl
  | cons x xs ih =>
      rw [List.forM_cons, ih, List.filter_cons]
      by_cases h : c x
      · rw [if_pos h, if_pos h, List.forM_cons]
      · rw [if_neg h, if_neg h, pure_bind]

/-- Clean up if the computation fails; what becomes of the cleanup is ignored. -/
def onError (m : Fallible ε σ α) (cleanup : Fallible ε σ Unit) : Fallible ε σ α := ofFun fun s =>
  match m.exec s with
  | (.ok a, s') => (.ok a, s')
  | (.error e, s') => (.error e, (cleanup.exec s').2)

/-- The computation without its error. -/
def ignoreError (m : Fallible ε σ Unit) : Fallible ε σ Unit := ofFun fun s => (.ok (), (m.exec s).2)

theorem exec_onError (m : Fallible ε σ α) (cleanup : Fallible ε σ Unit) (s : σ) :
    (onError m cleanup).exec s =
      match m.exec s with
      | (.ok a, s') => (.ok a, s')
      | (.error e, s') => (.error e, (cleanup.exec s').2) := rfl

theorem exec_ignoreError (m : Fallible ε σ Unit) (s : σ) :
    (ignoreError m).exec s = (.ok (), (m.exec s).2) := rfl

theorem exec_discard (m : Fallible ε σ α) (s : σ) :
    (discard m : Fallible ε σ Unit).exec s =
      match m.exec s with
      | (.ok _, s') => (.ok (), s')
      | (.error e, s') => (.error e, s') := by
  change (m >>= fun _ => pure ()).exec s = _
  rw [exec_bind]
  rfl

end Fallible

open Fallible

/-- Which operation is refused when it is the `n`-th of a sequence, and with what error. -/
abbrev Faults (Op ε : Type) := ℕ → Op → Option ε

/-- The number of operations tried so far, and the state. -/
structure Pass (σ : Type) where
  count : ℕ
  state : σ

/-- One step of a sequence. -/
inductive Step (Op ε : Type) where
  | attempt (op : Op)
  | ignore (op : Op)
  | fail (error : ε)

namespace Step

variable {Op ε σ : Type} (apply : Op → σ → σ) (faults : Faults Op ε)

/-- The operation a step tries. -/
def op? : Step Op ε → Option Op
  | .attempt op => some op
  | .ignore op => some op
  | .fail _ => none

def perform : Step Op ε → Fallible ε (Pass σ) Unit
  | .attempt op => ofFun fun p =>
    match faults p.count op with
    | none => (.ok (), ⟨p.count + 1, apply op p.state⟩)
    | some error => (.error error, ⟨p.count + 1, p.state⟩)
  | .ignore op => ofFun fun p =>
    match faults p.count op with
    | none => (.ok (), ⟨p.count + 1, apply op p.state⟩)
    | some _ => (.ok (), ⟨p.count + 1, p.state⟩)
  | .fail error => throw error

variable {apply faults}

/-- A step leaves the state alone or applies its operation. -/
theorem state_perform (step : Step Op ε) (p : Pass σ) :
    ((step.perform apply faults).exec p).2.state = p.state ∨
      ∃ op ∈ step.op?, ((step.perform apply faults).exec p).2.state = apply op p.state := by
  rcases step with op | op | error
  · cases h : faults p.count op with
    | none => exact .inr ⟨op, rfl, by simp [perform, h]⟩
    | some error => exact .inl (by simp [perform, h])
  · cases h : faults p.count op with
    | none => exact .inr ⟨op, rfl, by simp [perform, h]⟩
    | some error => exact .inl (by simp [perform, h])
  · exact .inl rfl

end Step

section sequences

variable {Op ε σ : Type} {apply : Op → σ → σ} {faults : Faults Op ε} {steps : List (Step Op ε)}
  {p p' : Pass σ}

/-- What every operation keeps holds wherever the sequence stops. -/
theorem forM_perform_inv (I : σ → Prop)
    (hkeep : ∀ step ∈ steps, ∀ op ∈ step.op?, ∀ s, I s → I (apply op s)) (hp : I p.state) :
    I ((forM steps (Step.perform apply faults)).exec p).2.state := by
  induction steps generalizing p with
  | nil => exact hp
  | cons step steps ih =>
      have hstep : I ((step.perform apply faults).exec p).2.state := by
        rcases Step.state_perform step p with h | ⟨op, hop, h⟩
        · rwa [h]
        · rw [h]
          exact hkeep step List.mem_cons_self op hop _ hp
      rw [List.forM_cons, exec_bind]
      rcases h : (step.perform apply faults).exec p with ⟨_ | _, p'⟩
      · rwa [h] at hstep
      · rw [h] at hstep
        exact ih (fun step hs => hkeep step (List.mem_cons_of_mem _ hs)) hstep

/-- What one operation establishes and every operation keeps holds at the end of a sequence that
was not stopped. -/
theorem forM_perform_establishes (I : σ → Prop) (op : Op)
    (hmem : .attempt op ∈ steps ∨ .ignore op ∈ steps ∧ ∀ n, faults n op = none)
    (hop : ∀ s, I (apply op s))
    (hkeep : ∀ step ∈ steps, ∀ op ∈ step.op?, ∀ s, I s → I (apply op s))
    (hok : (forM steps (Step.perform apply faults)).exec p = (.ok (), p')) : I p'.state := by
  induction steps generalizing p with
  | nil => simp at hmem
  | cons step steps ih =>
      have hkeep' : ∀ step ∈ steps, ∀ op ∈ step.op?, ∀ s, I s → I (apply op s) :=
        fun step hs => hkeep step (List.mem_cons_of_mem _ hs)
      rw [List.forM_cons, exec_bind] at hok
      rcases h : (step.perform apply faults).exec p with ⟨_ | _, p₁⟩
      · simp [h] at hok
      · simp only [h] at hok
        by_cases hhead : step = .attempt op ∨ step = .ignore op ∧ ∀ n, faults n op = none
        · have hp₁ : I p₁.state := by
            rcases hhead with rfl | ⟨rfl, hnone⟩
            · cases hf : faults p.count op with
              | none =>
                  simp only [Step.perform, exec_ofFun, hf, Prod.mk.injEq] at h
                  rw [← h.2]
                  exact hop _
              | some error => simp [Step.perform, hf] at h
            · simp only [Step.perform, exec_ofFun, hnone, Prod.mk.injEq] at h
              rw [← h.2]
              exact hop _
          have hlast : I ((forM steps (Step.perform apply faults)).exec p₁).2.state :=
            forM_perform_inv I hkeep' hp₁
          rwa [hok] at hlast
        · refine ih ?_ hkeep' hok
          rcases hmem with hm | ⟨hm, hnone⟩
          · rcases List.mem_cons.mp hm with rfl | hm
            · exact absurd (.inl rfl) hhead
            · exact .inl hm
          · rcases List.mem_cons.mp hm with rfl | hm
            · exact absurd (.inr ⟨rfl, hnone⟩) hhead
            · exact .inr ⟨hm, hnone⟩

/-- A sequence of attempts does all of them, or stops at the first one that is refused. -/
theorem forM_perform_attempts {ops : List Op} {r : Except ε Unit}
    (hexec : (forM (ops.map Step.attempt) (Step.perform apply faults)).exec p = (r, p')) :
    (r = .ok () ∧ p' = ⟨p.count + ops.length, ops.foldl (fun s op => apply op s) p.state⟩) ∨
      ∃ done op rest error, ops = done ++ op :: rest ∧
        faults (p.count + done.length) op = some error ∧ r = .error error ∧
        p'.state = done.foldl (fun s op => apply op s) p.state := by
  induction ops generalizing p with
  | nil =>
      obtain ⟨rfl, rfl⟩ := Prod.mk.inj hexec
      exact .inl ⟨rfl, rfl⟩
  | cons op ops ih =>
      rw [List.map_cons, List.forM_cons, exec_bind] at hexec
      cases hf : faults p.count op with
      | some error =>
          simp only [Step.perform, exec_ofFun, hf, Prod.mk.injEq] at hexec
          obtain ⟨rfl, rfl⟩ := hexec
          exact .inr ⟨[], op, ops, error, rfl, hf, rfl, rfl⟩
      | none =>
          simp only [Step.perform, exec_ofFun, hf] at hexec
          rcases ih hexec with ⟨hr, hp'⟩ | ⟨done, op', rest, error, hops, hfault, hr, hp'⟩
          · refine .inl ⟨hr, ?_⟩
            rw [hp', List.length_cons, List.foldl_cons, Nat.add_right_comm, Nat.add_assoc]
          · refine .inr ⟨op :: done, op', rest, error, by rw [hops]; rfl, ?_, hr, hp'⟩
            rw [List.length_cons, ← Nat.add_right_comm, Nat.add_assoc] at *
            exact hfault

/-- A sequence of attempts that was not stopped did all of them. -/
theorem forM_perform_eq_foldl {ops : List Op}
    (hok : (forM (ops.map Step.attempt) (Step.perform apply faults)).exec p = (.ok (), p')) :
    p'.state = ops.foldl (fun s op => apply op s) p.state := by
  rcases forM_perform_attempts hok with ⟨-, hp'⟩ | ⟨_, _, _, _, _, _, hr, _⟩
  · rw [hp']
  · cases hr

/-- Without refusals nothing stops a sequence. -/
theorem forM_perform_ok (hnone : ∀ n op, faults n op = none)
    (hfail : ∀ step ∈ steps, step.op?.isSome) :
    ((forM steps (Step.perform apply faults)).exec p).1 = .ok () := by
  induction steps generalizing p with
  | nil => rfl
  | cons step steps ih =>
      have hrest := fun step hs => hfail step (List.mem_cons_of_mem _ hs)
      rw [List.forM_cons, exec_bind]
      rcases step with op | op | error
      · simpa [Step.perform, hnone] using ih hrest
      · simpa [Step.perform, hnone] using ih hrest
      · simpa [Step.op?] using hfail _ List.mem_cons_self

/-- A sequence that was not stopped has no failing step. -/
theorem forM_perform_isSome
    (hok : (forM steps (Step.perform apply faults)).exec p = (.ok (), p')) :
    ∀ step ∈ steps, step.op?.isSome := by
  induction steps generalizing p with
  | nil => simp
  | cons step steps ih =>
      rw [List.forM_cons, exec_bind] at hok
      rcases h : (step.perform apply faults).exec p with ⟨_ | _, p₁⟩
      · simp [h] at hok
      · simp only [h] at hok
        intro step' hstep'
        rcases List.mem_cons.mp hstep' with rfl | hstep'
        · rcases step' with op | op | error
          · rfl
          · rfl
          · simp [Step.perform] at h
        · exact ih hok step' hstep'

end sequences

end ProtonVpnOmarchy.Lib
