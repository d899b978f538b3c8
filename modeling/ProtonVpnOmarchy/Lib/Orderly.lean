import ProtonVpnOmarchy.Lib.Interleaving

/-!
# Programs that run one after another

A run of several programs is orderly as long as none asks anything while another is under way. What every program
keeps from its start to its result then holds whenever all are at rest, whatever order they run in.

* `Only.meets` — programs whose questions keep a predicate.
* `orderly_invariant` — from the programs to an orderly run.
* `Pool.orderly_play` — one program that goes on by itself.
-/

namespace ProtonVpnOmarchy.Lib

open Dialogue

section only

variable {Q : Type} {A : Q → Type} {σ α : Type} {act : (q : Q) → σ → A q → σ → Prop}
  {rely guar : σ → σ → Prop} {p : σ → Prop} {kind : Q → Prop}

/-- A program keeps what each of its questions keeps. -/
theorem Dialogue.Only.meets {d : Dialogue Q A α} (h : Only kind d) (hstable : Stable rely p)
    (hstep : ∀ q s a s', kind q → p s → act q s a s' → guar s s' ∧ p s') :
    Meets act rely guar p d fun _ s => p s := by
  intro s hs n d' s' hevolves
  have hkept : p s' ∧ Only kind d' := by
    induction hevolves with
    | stay => exact ⟨hs, h⟩
    | others hrely _ ih => exact ih h (hstable _ _ hs hrely)
    | ask a hact _ ih => exact ih (h.2 a) (hstep _ _ _ _ h.1 hs hact).2
    | @loop _ _ _ body t next _ _ _ _ ih =>
        refine ih (only_bind (h.1 t) ?_) hs
        rintro (t' | b)
        · exact ⟨h.1, h.2⟩
        · exact h.2 b
  refine ⟨?_, fun _ _ => hkept.1⟩
  rintro q next a s'' rfl hact
  exact (hstep q _ a s'' hkept.2.1 hkept.1 hact).1

end only

section orderly

variable {ι Q : Type} {A : Q → Type} {σ α : Type} [DecidableEq ι] {machine : Machine ι Q A σ}

/-- A program that has asked nothing yet, or has come to its result. -/
def Pool.AtRest (pool : Pool ι Q A σ α) (i : ι) : Prop :=
  pool.past i = [] ∨ ∃ a, pool.tasks i = .pure a

/-- While a program is under way, no other asks anything. -/
def Pool.Orderly (pool pool' : Pool ι Q A σ α) : Prop :=
  ∀ i j, ¬ pool.AtRest i → pool'.past j ≠ pool.past j → i = j

/-- The pools that are reached by orderly steps. -/
def Pool.OrderlyReach (machine : Machine ι Q A σ) : Pool ι Q A σ α → Pool ι Q A σ α → Prop :=
  Relation.ReflTransGen fun pool pool' => Pool.Moves machine pool pool' ∧ pool.Orderly pool'

variable {tasks : ι → Dialogue Q A α} {shared : σ} {invariant : σ → Prop}
  {rely : σ → σ → Prop} {guar : ι → σ → σ → Prop}

/-- Where an orderly run stands: a program that has asked nothing can go to where it is from any
state, and the one under way has come there from a state with the invariant. -/
structure Standing (machine : Machine ι Q A σ) (rely : σ → σ → Prop) (invariant : σ → Prop)
    (tasks : ι → Dialogue Q A α) (pool : Pool ι Q A σ α) : Prop where
  silent : ∀ i, pool.past i = [] → ∀ s, ∃ n,
    Evolves (machine.act i) rely n (tasks i) s (pool.tasks i) s
  resting : (∀ i, pool.AtRest i) → invariant pool.shared
  underway : ∀ i, ¬ pool.AtRest i → ∃ s n, invariant s ∧
    Evolves (machine.act i) rely n (tasks i) s (pool.tasks i) pool.shared

theorem standing_of_reach
    (hmeets : ∀ i, Meets (machine.act i) rely (guar i) invariant (tasks i) fun _ s => invariant s)
    (hstable : Stable rely invariant) (hsurroundings : ∀ s s', machine.surroundings s s' → rely s s')
    (hstart : invariant shared) {pool : Pool ι Q A σ α}
    (h : Pool.OrderlyReach machine (.start tasks shared) pool) :
    Standing machine rely invariant tasks pool := by
  induction h with
  | refl =>
      exact ⟨fun i _ s => ⟨0, .stay⟩, fun _ => hstart, fun i hi => absurd (.inl rfl) hi⟩
  | @tail pool _ _ hmove ih =>
      obtain ⟨hmove, horderly⟩ := hmove
      cases hmove with
      | @ask j q next htask a s hact =>
          have hothers : ∀ i ≠ j, pool.AtRest i := by
            intro i hij
            by_contra hi
            refine hij (horderly i j hi ?_)
            dsimp only
            rw [Function.update_self]
            exact List.cons_ne_self _ _
          -- A program that asks its first question starts from where all are at rest.
          obtain ⟨s₀, n, hs₀, hevolves⟩ : ∃ s₀ n, invariant s₀ ∧
              Evolves (machine.act j) rely n (tasks j) s₀ (.ask q next) pool.shared := by
            by_cases hj : pool.AtRest j
            · have hnew : pool.past j = [] := hj.resolve_right fun ⟨b, hb⟩ => by
                rw [htask] at hb
                cases hb
              obtain ⟨n, hevolves⟩ := ih.silent j hnew pool.shared
              refine ⟨pool.shared, n, ih.resting fun i => ?_, htask ▸ hevolves⟩
              by_cases hij : i = j
              · exact hij ▸ hj
              · exact hothers i hij
            · obtain ⟨s₀, n, hs₀, hevolves⟩ := ih.underway j hj
              exact ⟨s₀, n, hs₀, htask ▸ hevolves⟩
          have hnext : Evolves (machine.act j) rely (n + 1) (tasks j) s₀ (next a) s :=
            hevolves.trans (.ask a hact .stay)
          refine ⟨fun i hi => ?_, fun hrest => ?_, fun i hi => ?_⟩
          · by_cases hij : i = j
            · subst hij
              simp at hi
            · dsimp only at hi ⊢
              rw [Function.update_of_ne hij] at hi ⊢
              exact ih.silent i hi
          · rcases hrest j with hnew | ⟨b, hb⟩
            · simp at hnew
            · dsimp only at hb
              rw [Function.update_self] at hb
              exact (hmeets j s₀ hs₀ _ _ _ hnext).2 b hb
          · by_cases hij : i = j
            · subst hij
              dsimp only
              rw [Function.update_self]
              exact ⟨s₀, n + 1, hs₀, hnext⟩
            · refine absurd ?_ hi
              unfold Pool.AtRest
              dsimp only
              rw [Function.update_of_ne hij, Function.update_of_ne hij]
              exact hothers i hij
      | @loop j _ _ body t next htask =>
          refine ⟨fun i hi => ?_, fun hrest => ?_, fun i hi => ?_⟩
          · by_cases hij : i = j
            · subst hij
              intro s
              obtain ⟨n, hevolves⟩ := ih.silent i hi s
              dsimp only
              rw [Function.update_self]
              exact ⟨n + 1, (htask ▸ hevolves).trans (.loop .stay)⟩
            · dsimp only
              rw [Function.update_of_ne hij]
              exact ih.silent i hi
          · have hrest' : ∀ i ≠ j, pool.AtRest i := by
              intro i hij
              have hi := hrest i
              unfold Pool.AtRest at hi
              dsimp only at hi
              rwa [Function.update_of_ne hij] at hi
            by_cases hj : pool.AtRest j
            · refine ih.resting fun i => ?_
              by_cases hij : i = j
              · exact hij ▸ hj
              · exact hrest' i hij
            · obtain ⟨s₀, n, hs₀, hevolves⟩ := ih.underway j hj
              rcases hrest j with hnew | ⟨b, hb⟩
              · exact absurd (.inl hnew) hj
              · dsimp only at hb
                rw [Function.update_self] at hb
                exact (hmeets j s₀ hs₀ _ _ _
                  ((htask ▸ hevolves).trans (.loop .stay))).2 b hb
          · by_cases hij : i = j
            · subst hij
              have hi' : ¬ pool.AtRest i := by
                rintro (hnew | ⟨b, hb⟩)
                · exact hi (.inl hnew)
                · rw [htask] at hb
                  cases hb
              obtain ⟨s₀, n, hs₀, hevolves⟩ := ih.underway i hi'
              dsimp only
              rw [Function.update_self]
              exact ⟨s₀, n + 1, hs₀, (htask ▸ hevolves).trans (.loop .stay)⟩
            · have hi' : ¬ pool.AtRest i := by
                unfold Pool.AtRest at hi
                dsimp only at hi
                rwa [Function.update_of_ne hij] at hi
              dsimp only
              rw [Function.update_of_ne hij]
              exact ih.underway i hi'
      | surroundings s hact =>
          refine ⟨ih.silent, fun hrest => ?_, fun i hi => ?_⟩
          · exact hstable _ _ (ih.resting hrest) (hsurroundings _ _ hact)
          · obtain ⟨s₀, n, hs₀, hevolves⟩ := ih.underway i hi
            exact ⟨s₀, n + 1, hs₀, hevolves.trans (.others (hsurroundings _ _ hact) .stay)⟩

/-- Whatever the order, the invariant holds whenever all programs of an orderly run are at rest. -/
theorem orderly_invariant
    (hmeets : ∀ i, Meets (machine.act i) rely (guar i) invariant (tasks i) fun _ s => invariant s)
    (hstable : Stable rely invariant) (hsurroundings : ∀ s s', machine.surroundings s s' → rely s s')
    (hstart : invariant shared) {pool : Pool ι Q A σ α}
    (h : Pool.OrderlyReach machine (.start tasks shared) pool) (hrest : ∀ i, pool.AtRest i) :
    invariant pool.shared :=
  (standing_of_reach hmeets hstable hsurroundings hstart h).resting hrest

/-! ## Replaying an orderly run -/

section replay

variable {reply : ι → (q : Q) → σ → Option (A q × σ)}

theorem Pool.atRest_turn {pool : Pool ι Q A σ α} {i j : ι} (hne : j ≠ i) (h : pool.AtRest j) :
    (pool.turn reply i).AtRest j := by
  unfold Pool.turn
  split
  · exact h
  · split
    · exact h
    · unfold Pool.AtRest
      dsimp only
      rwa [Function.update_of_ne hne, Function.update_of_ne hne]
  · unfold Pool.AtRest
    dsimp only
    rwa [Function.update_of_ne hne]

theorem Pool.orderly_turn
    (hreply : ∀ i q s a s', reply i q s = some (a, s') → machine.act i q s a s')
    {pool : Pool ι Q A σ α} {i : ι} (hothers : ∀ j ≠ i, pool.AtRest j) :
    Pool.OrderlyReach machine pool (pool.turn reply i) := by
  have hunderway : ∀ j, ¬ pool.AtRest j → j = i := by
    intro j hj
    by_contra hne
    exact hj (hothers j hne)
  unfold Pool.turn
  split
  · exact .refl
  · next q next htask =>
      split
      · exact .refl
      · next a s hanswer =>
          refine .single ⟨.ask i htask a s (hreply i q _ a s hanswer), fun j k hj hpast => ?_⟩
          by_contra hne
          refine hpast (Function.update_of_ne ?_ _ _)
          rintro rfl
          exact hne (hunderway j hj)
  · next htask => exact .single ⟨.loop i htask, fun j k _ hpast => absurd rfl hpast⟩

/-- One program goes on by itself. -/
theorem Pool.orderly_play
    (hreply : ∀ i q s a s', reply i q s = some (a, s') → machine.act i q s a s')
    {pool : Pool ι Q A σ α} {i : ι} (hothers : ∀ j ≠ i, pool.AtRest j) (n : ℕ) :
    Pool.OrderlyReach machine pool (pool.play reply (List.replicate n i)) := by
  induction n generalizing pool with
  | zero => exact .refl
  | succ n ih =>
      exact (Pool.orderly_turn hreply hothers).trans
        (ih fun j hne => Pool.atRest_turn hne (hothers j hne))

end replay

end orderly

end ProtonVpnOmarchy.Lib
