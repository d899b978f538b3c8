import ProtonVpnOmarchy.Lib.Dialogue

/-!
# Programs that run beside each other

Several dialogues over one shared state. A question is answered by the state in one uninterrupted step,
which may change it; between two questions of a program any other program, or the surroundings, may
change the state.

* `Pool.Reach` — the states that a family of programs reaches together; `Pool.play` computes one of
  them from the turns that the programs take.
* `Meets` — a program keeps its guarantee and comes to its result as long as the others keep to what it
  relies on; `meets_pure`, `meets_ask`, `meets_bind` and `meets_loop` are the rules for it.
* `Passive` — a program that leaves a view of the state alone.
* `reach_meets` — programs whose guarantees are what the others rely on can be judged one by one.
-/

namespace ProtonVpnOmarchy.Lib

open Dialogue

/-- How questions of the programs act on a shared state, and what else may change it. -/
structure Machine (ι Q : Type) (A : Q → Type) (σ : Type) where
  act : ι → (q : Q) → σ → A q → σ → Prop
  surroundings : σ → σ → Prop

section pool

variable {ι Q : Type} {A : Q → Type} {σ α : Type} [DecidableEq ι]

/-- Programs with their histories, and the state they share. -/
structure Pool (ι Q : Type) (A : Q → Type) (σ α : Type) where
  tasks : ι → Dialogue Q A α
  past : ι → List (Event Q A)
  shared : σ

/-- One step of one program, or of the surroundings. -/
inductive Pool.Moves (machine : Machine ι Q A σ) (pool : Pool ι Q A σ α) :
    Pool ι Q A σ α → Prop
  | ask (i : ι) {q : Q} {next : A q → Dialogue Q A α} (htask : pool.tasks i = .ask q next)
      (a : A q) (s : σ) (hact : machine.act i q pool.shared a s) :
      Moves machine pool
        { tasks := Function.update pool.tasks i (next a)
          past := Function.update pool.past i (⟨q, a⟩ :: pool.past i)
          shared := s }
  | loop (i : ι) {τ β : Type} {body : τ → Dialogue Q A (τ ⊕ β)} {t : τ}
      {next : β → Dialogue Q A α} (htask : pool.tasks i = .loop body t next) :
      Moves machine pool
        { pool with
          tasks := Function.update pool.tasks i ((body t).bind (again body next)) }
  | surroundings (s : σ) (hact : machine.surroundings pool.shared s) :
      Moves machine pool { pool with shared := s }

/-- The pools that are reached from one. -/
def Pool.Reach (machine : Machine ι Q A σ) : Pool ι Q A σ α → Pool ι Q A σ α → Prop :=
  Relation.ReflTransGen (Pool.Moves machine)

/-- Programs that have not begun. -/
def Pool.start (tasks : ι → Dialogue Q A α) (shared : σ) : Pool ι Q A σ α :=
  { tasks, past := fun _ => [], shared }

/-- One more step of a program. -/
theorem Dialogue.Talks.ask_snoc {n : ℕ} {d : Dialogue Q A α} {past past' : List (Event Q A)}
    {q : Q} {next : A q → Dialogue Q A α} (h : Talks n d past (.ask q next) past') (a : A q) :
    Talks (n + 1) d past (next a) (⟨q, a⟩ :: past') := by
  generalize hd' : Dialogue.ask q next = d' at h
  induction h with
  | stay =>
      rw [← hd']
      exact .ask a .stay
  | ask b _ ih => exact .ask b (ih hd')
  | loop _ ih => exact .loop (ih hd')

theorem Dialogue.Talks.loop_snoc {n : ℕ} {d : Dialogue Q A α} {past past' : List (Event Q A)}
    {τ β : Type} {body : τ → Dialogue Q A (τ ⊕ β)} {t : τ} {next : β → Dialogue Q A α}
    (h : Talks n d past (.loop body t next) past') :
    Talks (n + 1) d past ((body t).bind (again body next)) past' := by
  generalize hd' : Dialogue.loop body t next = d' at h
  induction h with
  | stay =>
      rw [← hd']
      exact .loop .stay
  | ask b _ ih => exact .ask b (ih hd')
  | loop _ ih => exact .loop (ih hd')

/-- What a program of a pool has said is one of its own histories. -/
theorem Pool.Reach.talks {machine : Machine ι Q A σ} {pool pool' : Pool ι Q A σ α}
    (h : Pool.Reach machine pool pool') (i : ι) :
    ∃ n, Talks n (pool.tasks i) (pool.past i) (pool'.tasks i) (pool'.past i) := by
  induction h with
  | refl => exact ⟨0, .stay⟩
  | tail _ hmove ih =>
      obtain ⟨n, htalks⟩ := ih
      cases hmove with
      | ask j htask a s hact =>
          dsimp only
          by_cases hj : i = j
          · subst hj
            rw [htask] at htalks
            rw [Function.update_self, Function.update_self]
            exact ⟨n + 1, htalks.ask_snoc a⟩
          · rw [Function.update_of_ne hj, Function.update_of_ne hj]
            exact ⟨n, htalks⟩
      | loop j htask =>
          dsimp only
          by_cases hj : i = j
          · subst hj
            rw [htask] at htalks
            rw [Function.update_self]
            exact ⟨n + 1, htalks.loop_snoc⟩
          · rw [Function.update_of_ne hj]
            exact ⟨n, htalks⟩
      | surroundings s hact => exact ⟨n, htalks⟩

/-- One step of one program, if a function has an answer to its question. -/
def Pool.turn (reply : ι → (q : Q) → σ → Option (A q × σ)) (pool : Pool ι Q A σ α) (i : ι) :
    Pool ι Q A σ α :=
  match pool.tasks i with
  | .pure _ => pool
  | .ask q next =>
    match reply i q pool.shared with
    | none => pool
    | some (a, s) =>
      { tasks := Function.update pool.tasks i (next a)
        past := Function.update pool.past i (⟨q, a⟩ :: pool.past i)
        shared := s }
  | .loop body t next =>
    { pool with tasks := Function.update pool.tasks i ((body t).bind (again body next)) }

/-- Programs that take turns. -/
def Pool.play (reply : ι → (q : Q) → σ → Option (A q × σ)) (turns : List ι)
    (pool : Pool ι Q A σ α) : Pool ι Q A σ α :=
  turns.foldl (Pool.turn reply) pool

theorem Pool.reach_turn {machine : Machine ι Q A σ} {reply : ι → (q : Q) → σ → Option (A q × σ)}
    (hreply : ∀ i q s a s', reply i q s = some (a, s') → machine.act i q s a s')
    (pool : Pool ι Q A σ α) (i : ι) : Pool.Reach machine pool (pool.turn reply i) := by
  unfold Pool.turn
  split
  · exact .refl
  · next q next htask =>
      split
      · exact .refl
      · next a s hanswer => exact .single (.ask i htask a s (hreply i q _ a s hanswer))
  · next htask => exact .single (.loop i htask)

theorem Pool.reach_play {machine : Machine ι Q A σ} {reply : ι → (q : Q) → σ → Option (A q × σ)}
    (hreply : ∀ i q s a s', reply i q s = some (a, s') → machine.act i q s a s')
    (turns : List ι) (pool : Pool ι Q A σ α) : Pool.Reach machine pool (pool.play reply turns) := by
  induction turns generalizing pool with
  | nil => exact .refl
  | cons i turns ih => exact (Pool.reach_turn hreply pool i).trans (ih _)

end pool

/-! ## Programs with their surroundings -/

section meets

variable {Q : Type} {A : Q → Type} {σ α β : Type}

/-- In `n` steps a program comes to another one, while others change the state as it relies on. -/
inductive Evolves (act : (q : Q) → σ → A q → σ → Prop) (rely : σ → σ → Prop) {α : Type} :
    ℕ → Dialogue Q A α → σ → Dialogue Q A α → σ → Prop
  | stay {d : Dialogue Q A α} {s : σ} : Evolves act rely 0 d s d s
  | others {n : ℕ} {d d' : Dialogue Q A α} {s s₁ s' : σ} (hrely : rely s s₁)
      (h : Evolves act rely n d s₁ d' s') : Evolves act rely (n + 1) d s d' s'
  | ask {n : ℕ} {q : Q} {next : A q → Dialogue Q A α} {d' : Dialogue Q A α} {s s₁ s' : σ}
      (a : A q) (hact : act q s a s₁) (h : Evolves act rely n (next a) s₁ d' s') :
      Evolves act rely (n + 1) (.ask q next) s d' s'
  | loop {n : ℕ} {τ β : Type} {body : τ → Dialogue Q A (τ ⊕ β)} {t : τ}
      {next : β → Dialogue Q A α} {d' : Dialogue Q A α} {s s' : σ}
      (h : Evolves act rely n ((body t).bind (again body next)) s d' s') :
      Evolves act rely (n + 1) (.loop body t next) s d' s'

section snoc

variable {act : (q : Q) → σ → A q → σ → Prop} {rely : σ → σ → Prop} {n : ℕ}
  {d d₁ d' : Dialogue Q A α} {s s₁ s' : σ}

theorem Evolves.trans {k : ℕ} (h : Evolves act rely n d s d₁ s₁)
    (h' : Evolves act rely k d₁ s₁ d' s') : Evolves act rely (n + k) d s d' s' := by
  induction h with
  | stay => rwa [Nat.zero_add]
  | others hrely _ ih =>
      rw [Nat.add_right_comm]
      exact .others hrely (ih h')
  | ask a hact _ ih =>
      rw [Nat.add_right_comm]
      exact .ask a hact (ih h')
  | loop _ ih =>
      rw [Nat.add_right_comm]
      exact .loop (ih h')

/-- A program after another one is still in the first, or the first has come to a result. -/
theorem evolves_bind {f : α → Dialogue Q A β} {e : Dialogue Q A β}
    (h : Evolves act rely n (d.bind f) s e s') :
    (∃ d₁, e = d₁.bind f ∧ Evolves act rely n d s d₁ s') ∨
      ∃ k a s₁, k ≤ n ∧ (∃ m, Evolves act rely m d s (.pure a) s₁) ∧
        Evolves act rely k (f a) s₁ e s' := by
  induction n generalizing d s with
  | zero =>
      cases h
      exact .inl ⟨d, rfl, .stay⟩
  | succ n ih =>
      cases d with
      | pure a => exact .inr ⟨n + 1, a, s, le_rfl, ⟨0, .stay⟩, h⟩
      | ask q next =>
          cases h with
          | others hrely h =>
              rcases ih h with ⟨d₁, rfl, hfirst⟩ | ⟨k, b, s₁, hk, ⟨m, hfirst⟩, hrest⟩
              · exact .inl ⟨d₁, rfl, .others hrely hfirst⟩
              · exact .inr ⟨k, b, s₁, by omega, ⟨m + 1, .others hrely hfirst⟩, hrest⟩
          | ask a hact h =>
              rcases ih h with ⟨d₁, rfl, hfirst⟩ | ⟨k, b, s₁, hk, ⟨m, hfirst⟩, hrest⟩
              · exact .inl ⟨d₁, rfl, .ask a hact hfirst⟩
              · exact .inr ⟨k, b, s₁, by omega, ⟨m + 1, .ask a hact hfirst⟩, hrest⟩
      | loop body t next =>
          cases h with
          | others hrely h =>
              rcases ih h with ⟨d₁, rfl, hfirst⟩ | ⟨k, b, s₁, hk, ⟨m, hfirst⟩, hrest⟩
              · exact .inl ⟨d₁, rfl, .others hrely hfirst⟩
              · exact .inr ⟨k, b, s₁, by omega, ⟨m + 1, .others hrely hfirst⟩, hrest⟩
          | loop h =>
              rw [again_bind, ← bind_assoc] at h
              rcases ih h with ⟨d₁, rfl, hfirst⟩ | ⟨k, b, s₁, hk, ⟨m, hfirst⟩, hrest⟩
              · exact .inl ⟨d₁, rfl, .loop hfirst⟩
              · exact .inr ⟨k, b, s₁, by omega, ⟨m + 1, .loop hfirst⟩, hrest⟩

end snoc

variable (act : (q : Q) → σ → A q → σ → Prop) (rely guar : σ → σ → Prop)

/-- From states with a precondition, every step of a program keeps its guarantee and a result comes
with a postcondition, as long as others change the state as it relies on. -/
def Meets (pre : σ → Prop) (d : Dialogue Q A α) (post : α → σ → Prop) : Prop :=
  ∀ s, pre s → ∀ n d' s', Evolves act rely n d s d' s' →
    (∀ q next a s'', d' = .ask q next → act q s' a s'' → guar s' s'') ∧
      ∀ a, d' = .pure a → post a s'

/-- What others cannot change. -/
def Stable (rely : σ → σ → Prop) (p : σ → Prop) : Prop := ∀ s s', p s → rely s s' → p s'

variable {act rely guar} {pre : σ → Prop} {post : α → σ → Prop}

theorem meets_pure {a : α} (hstable : Stable rely (post a)) (h : ∀ s, pre s → post a s) :
    Meets act rely guar pre (.pure a) post := by
  intro s hpre n
  have hpost := h s hpre
  clear hpre
  induction n generalizing s with
  | zero =>
      intro d' s' hevolves
      cases hevolves
      refine ⟨nofun, ?_⟩
      rintro b ⟨⟩
      exact hpost
  | succ n ih =>
      intro d' s' hevolves
      cases hevolves with
      | others hrely hevolves => exact ih _ (hstable _ _ hpost hrely) _ _ hevolves

/-- A question: whatever the answer, its step keeps the guarantee and leads to where the rest of the
program starts. -/
theorem meets_ask {q : Q} {next : A q → Dialogue Q A α} (mid : A q → σ → Prop)
    (hstable : Stable rely pre)
    (hstep : ∀ s a s', pre s → act q s a s' → guar s s' ∧ mid a s')
    (hnext : ∀ a, Meets act rely guar (mid a) (next a) post) :
    Meets act rely guar pre (.ask q next) post := by
  intro s hpre n
  induction n generalizing s with
  | zero =>
      intro d' s' hevolves
      cases hevolves
      refine ⟨?_, nofun⟩
      rintro _ _ a s'' ⟨⟩ hact
      exact (hstep s a s'' hpre hact).1
  | succ n ih =>
      intro d' s' hevolves
      cases hevolves with
      | others hrely hevolves => exact ih _ (hstable _ _ hpre hrely) _ _ hevolves
      | ask a hact hevolves => exact hnext a _ (hstep s a _ hpre hact).2 _ _ _ hevolves

/-- One program after another. -/
theorem meets_bind {d : Dialogue Q A α} {f : α → Dialogue Q A β} (mid : α → σ → Prop)
    {post : β → σ → Prop} (hd : Meets act rely guar pre d mid)
    (hf : ∀ a, Meets act rely guar (mid a) (f a) post) :
    Meets act rely guar pre (d.bind f) post := by
  intro s hpre n e s' hevolves
  rcases evolves_bind hevolves with ⟨d₁, rfl, hfirst⟩ | ⟨k, a, s₁, -, ⟨m, hfirst⟩, hrest⟩
  · obtain ⟨hguar, hresult⟩ := hd s hpre n d₁ s' hfirst
    -- What is left of the first part is a result already, or its next step is that of the whole.
    cases d₁ with
    | pure a => exact hf a s' (hresult a rfl) 0 _ _ .stay
    | ask q next =>
        refine ⟨?_, nofun⟩
        rintro _ _ a s'' ⟨⟩ hact
        exact hguar q next a s'' rfl hact
    | loop body t next => exact ⟨nofun, nofun⟩
  · exact hf a s₁ ((hd s hpre m _ s₁ hfirst).2 a rfl) k e s' hrest

/-- A loop, by an invariant of its own state and the shared one. -/
theorem meets_loop {τ : Type} {body : τ → Dialogue Q A (τ ⊕ β)} {t : τ}
    {next : β → Dialogue Q A α} (invariant : τ → σ → Prop) (mid : β → σ → Prop)
    (hstable : ∀ t, Stable rely (invariant t))
    (hbody : ∀ t, Meets act rely guar (invariant t) (body t) fun r s =>
      r.elim (invariant · s) (mid · s))
    (hnext : ∀ b, Meets act rely guar (mid b) (next b) post) :
    Meets act rely guar (invariant t) (.loop body t next) post := by
  intro s hinvariant n
  -- A body that is run again takes fewer of the steps.
  induction n using Nat.strong_induction_on generalizing s t with
  | _ n ih =>
      intro d' s' hevolves
      cases hevolves with
      | stay => exact ⟨nofun, nofun⟩
      | @others n _ _ _ _ _ hrely hevolves =>
          exact ih n (Nat.lt_succ_self n) _ (hstable t _ _ hinvariant hrely) _ _ hevolves
      | @loop n _ _ _ _ _ _ _ _ hevolves =>
          rcases evolves_bind hevolves with ⟨d₁, rfl, hfirst⟩ | ⟨k, r, s₁, hk, ⟨m, hfirst⟩, hrest⟩
          · obtain ⟨hguar, hresult⟩ := hbody t s hinvariant n d₁ s' hfirst
            cases d₁ with
            | pure r =>
                have hr := hresult r rfl
                rcases r with t' | b
                · exact ⟨nofun, nofun⟩
                · exact hnext b s' hr 0 _ _ .stay
            | ask q next =>
                refine ⟨?_, nofun⟩
                rintro _ _ a s'' ⟨⟩ hact
                exact hguar q next a s'' rfl hact
            | loop body t next => exact ⟨nofun, nofun⟩
          · have hr := (hbody t s hinvariant m _ s₁ hfirst).2 r rfl
            rcases r with t' | b
            · exact ih k (by omega) s₁ hr d' s' hrest
            · exact hnext b s₁ hr k d' s' hrest

/-- A weaker precondition and a stronger postcondition. -/
theorem Meets.consequence {pre' : σ → Prop} {post' : α → σ → Prop} {d : Dialogue Q A α}
    (h : Meets act rely guar pre d post) (hpre : ∀ s, pre' s → pre s)
    (hpost : ∀ a s, post a s → post' a s) : Meets act rely guar pre' d post' := by
  intro s hs n d' s' hevolves
  obtain ⟨hguar, hresult⟩ := h s (hpre s hs) n d' s' hevolves
  exact ⟨hguar, fun a ha => hpost a s' (hresult a ha)⟩

/-! ## Programs that change nothing that matters -/

/-- A program that leaves a view of the state alone, with what can be said about its result. -/
def Passive {κ : Type} (view : σ → κ) (act : (q : Q) → σ → A q → σ → Prop)
    (rely guar : σ → σ → Prop) (result : α → Prop) (d : Dialogue Q A α) : Prop :=
  ∀ p : κ → Prop, Stable rely (fun s => p (view s)) →
    Meets act rely guar (fun s => p (view s)) d fun a s => result a ∧ p (view s)

section passive

variable {κ : Type} {view : σ → κ} {result : α → Prop}

theorem passive_pure {a : α} (h : result a) : Passive view act rely guar result (.pure a) := by
  intro p hstable
  exact meets_pure (fun s s' hs hrely => ⟨hs.1, hstable s s' hs.2 hrely⟩) fun s hs => ⟨h, hs⟩

/-- A question that leaves the view alone. -/
theorem passive_ask {q : Q} {next : A q → Dialogue Q A α} (answer : A q → Prop)
    (hguar : ∀ s s', view s' = view s → guar s s')
    (hact : ∀ s a s', act q s a s' → view s' = view s ∧ answer a)
    (hnext : ∀ a, answer a → Passive view act rely guar result (next a)) :
    Passive view act rely guar result (.ask q next) := by
  intro p hstable
  refine meets_ask (fun a s => answer a ∧ p (view s)) hstable ?_ ?_
  · intro s a s' hs hstep
    obtain ⟨hview, hanswer⟩ := hact s a s' hstep
    refine ⟨hguar s s' hview, hanswer, ?_⟩
    rw [hview]
    exact hs
  · intro a
    by_cases hanswer : answer a
    · exact (hnext a hanswer p hstable).consequence (fun _ hs => hs.2) fun _ _ hs => hs
    · exact fun s hs => absurd hs.1 hanswer

theorem passive_bind {d : Dialogue Q A α} {f : α → Dialogue Q A β} {result' : β → Prop}
    (hd : Passive view act rely guar result d)
    (hf : ∀ a, result a → Passive view act rely guar result' (f a)) :
    Passive view act rely guar result' (d.bind f) := by
  intro p hstable
  refine meets_bind (fun a s => result a ∧ p (view s)) (hd p hstable) fun a => ?_
  by_cases ha : result a
  · exact (hf a ha p hstable).consequence (fun _ hs => hs.2) fun _ _ hs => hs
  · exact fun s hs => absurd hs.1 ha

theorem passive_loop {τ : Type} {body : τ → Dialogue Q A (τ ⊕ β)} {t : τ}
    {next : β → Dialogue Q A α} (ending : β → Prop)
    (hbody : ∀ t, Passive view act rely guar (fun r => ∀ b, r = .inr b → ending b) (body t))
    (hnext : ∀ b, ending b → Passive view act rely guar result (next b)) :
    Passive view act rely guar result (.loop body t next) := by
  intro p hstable
  refine meets_loop (fun _ s => p (view s)) (fun b s => ending b ∧ p (view s)) (fun _ => hstable)
    ?_ ?_
  · intro t
    refine (hbody t p hstable).consequence (fun _ hs => hs) ?_
    rintro (t' | b) s ⟨hr, hs⟩
    · exact hs
    · exact ⟨hr b rfl, hs⟩
  · intro b
    by_cases hb : ending b
    · exact (hnext b hb p hstable).consequence (fun _ hs => hs.2) fun _ _ hs => hs
    · exact fun s hs => absurd hs.1 hb

end passive

end meets

section parallel

variable {ι Q : Type} {A : Q → Type} {σ α : Type} [DecidableEq ι] {machine : Machine ι Q A σ}
  {rely guar : ι → σ → σ → Prop} {pre : ι → σ → Prop} {post : ι → α → σ → Prop}

/-- Programs that meet their guarantees as long as the others meet theirs do so together. -/
theorem reach_meets {tasks : ι → Dialogue Q A α} {shared : σ}
    (hmeets : ∀ i, Meets (machine.act i) (rely i) (guar i) (pre i) (tasks i) (post i))
    (hpre : ∀ i, pre i shared)
    (hothers : ∀ i j, i ≠ j → ∀ s s', guar j s s' → rely i s s')
    (hsurroundings : ∀ i s s', machine.surroundings s s' → rely i s s')
    {pool : Pool ι Q A σ α} (h : Pool.Reach machine (.start tasks shared) pool) :
    ∀ i, (∃ n, Evolves (machine.act i) (rely i) n (tasks i) shared (pool.tasks i) pool.shared) ∧
      ∀ a, pool.tasks i = .pure a → post i a pool.shared := by
  have hevolves : ∀ i, ∃ n,
      Evolves (machine.act i) (rely i) n (tasks i) shared (pool.tasks i) pool.shared := by
    induction h with
    | refl => exact fun i => ⟨0, .stay⟩
    | tail _ hmove ih =>
        intro i
        obtain ⟨n, hevolves⟩ := ih i
        cases hmove with
        | @ask j q next htask a s hact =>
            by_cases hj : i = j
            · subst hj
              rw [htask] at hevolves
              dsimp only
              rw [Function.update_self]
              exact ⟨n + 1, hevolves.trans (.ask a hact .stay)⟩
            · obtain ⟨m, hother⟩ := ih j
              have hguar := (hmeets j shared (hpre j) m _ _ hother).1 q next a s htask hact
              dsimp only
              rw [Function.update_of_ne hj]
              exact ⟨n + 1, hevolves.trans (.others (hothers i j hj _ _ hguar) .stay)⟩
        | @loop j _ _ body t next htask =>
            by_cases hj : i = j
            · subst hj
              rw [htask] at hevolves
              dsimp only
              rw [Function.update_self]
              exact ⟨n + 1, hevolves.trans (.loop .stay)⟩
            · dsimp only
              rw [Function.update_of_ne hj]
              exact ⟨n, hevolves⟩
        | surroundings s hact =>
            exact ⟨n + 1, hevolves.trans (.others (hsurroundings i _ _ hact) .stay)⟩
  intro i
  obtain ⟨n, hi⟩ := hevolves i
  exact ⟨⟨n, hi⟩, (hmeets i shared (hpre i) n _ _ hi).2⟩

/-- What every guarantee keeps holds at every moment. -/
theorem reach_invariant {tasks : ι → Dialogue Q A α} {shared : σ} {invariant : σ → Prop}
    (hmeets : ∀ i, Meets (machine.act i) (rely i) (guar i) (pre i) (tasks i) (post i))
    (hpre : ∀ i, pre i shared)
    (hothers : ∀ i j, i ≠ j → ∀ s s', guar j s s' → rely i s s')
    (hsurroundings : ∀ i s s', machine.surroundings s s' → rely i s s')
    (hstart : invariant shared)
    (hguar : ∀ i s s', invariant s → guar i s s' → invariant s')
    (houtside : ∀ s s', invariant s → machine.surroundings s s' → invariant s')
    {pool : Pool ι Q A σ α} (h : Pool.Reach machine (.start tasks shared) pool) :
    invariant pool.shared := by
  induction h with
  | refl => exact hstart
  | tail hreach hmove ih =>
      cases hmove with
      | @ask j q next htask a s hact =>
          obtain ⟨⟨n, hevolves⟩, -⟩ := reach_meets hmeets hpre hothers hsurroundings hreach j
          exact hguar j _ _ ih ((hmeets j shared (hpre j) n _ _ hevolves).1 q next a s htask hact)
      | loop j htask => exact ih
      | surroundings s hact => exact houtside _ _ ih hact

end parallel

end ProtonVpnOmarchy.Lib
