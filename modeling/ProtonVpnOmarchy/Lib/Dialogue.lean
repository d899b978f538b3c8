import Mathlib

/-!
# Programs in a dialogue with their surroundings

A `Dialogue` asks questions and goes on with the answers. Nothing is said about the answers: a program
is judged over every history of questions and answers that it can lead to.

* `Talks` — the histories of a program, and what is left of it after each.
* `Keeps` — every history that the surroundings allow is safe, and a result comes with a
  postcondition; `keeps_pure`, `keeps_ask`, `keeps_bind`, `keeps_loop` are the rules for it.
* `Only` — programs whose questions are all of one kind; `Only.keeps` carries along whatever no such
  question changes.
-/

namespace ProtonVpnOmarchy.Lib

/-- A program that asks questions `q : Q` and gets answers of type `A q`. -/
inductive Dialogue (Q : Type) (A : Q → Type) : Type → Type 1
  | pure {α : Type} (a : α) : Dialogue Q A α
  | ask {α : Type} (q : Q) (next : A q → Dialogue Q A α) : Dialogue Q A α
  /-- The body is run until it gives a result of its right type. -/
  | loop {σ β α : Type} (body : σ → Dialogue Q A (σ ⊕ β)) (s : σ) (next : β → Dialogue Q A α) :
      Dialogue Q A α

namespace Dialogue

variable {Q : Type} {A : Q → Type} {α β σ : Type}

/-- One program after another. -/
def bind : Dialogue Q A α → (α → Dialogue Q A β) → Dialogue Q A β
  | pure a, f => f a
  | ask q next, f => ask q fun a => (next a).bind f
  | loop body s next, f => loop body s fun b => (next b).bind f

instance : Monad (Dialogue Q A) where
  pure := Dialogue.pure
  bind := Dialogue.bind

/-- The result of a program that has come to one. -/
def result? : Dialogue Q A α → Option α
  | pure a => some a
  | _ => none

theorem eq_pure_of_result? {d : Dialogue Q A α} {a : α} (h : d.result? = some a) : d = pure a := by
  cases d with
  | pure b => exact congrArg pure (Option.some.inj h)
  | _ => cases h

/-- A question on its own. -/
def answer (q : Q) : Dialogue Q A (A q) := ask q pure

/-- A question with its answer. -/
abbrev Event (Q : Type) (A : Q → Type) : Type := (q : Q) × A q

/-- What follows the body of a loop. -/
def again (body : σ → Dialogue Q A (σ ⊕ β)) (next : β → Dialogue Q A α) :
    σ ⊕ β → Dialogue Q A α
  | .inl s => loop body s next
  | .inr b => next b

theorem bind_assoc {γ : Type} (d : Dialogue Q A α) (g : α → Dialogue Q A β)
    (f : β → Dialogue Q A γ) : (d.bind g).bind f = d.bind fun a => (g a).bind f := by
  induction d with
  | pure a => rfl
  | ask q next ih => exact congrArg (Dialogue.ask q) (funext fun a => ih a g)
  | loop body s next _ ih => exact congrArg (Dialogue.loop body s) (funext fun b => ih b g)

/-- A loop whose rest is followed by a program. -/
theorem again_bind {γ : Type} (body : σ → Dialogue Q A (σ ⊕ β)) (next : β → Dialogue Q A α)
    (f : α → Dialogue Q A γ) :
    again body (fun b => (next b).bind f) = fun r => (again body next r).bind f := by
  funext r
  rcases r with s | b <;> rfl

/-- In `n` steps a program with a history comes to another one. Histories have the newest event
first. -/
inductive Talks {α : Type} : ℕ → Dialogue Q A α → List (Event Q A) → Dialogue Q A α →
    List (Event Q A) → Prop
  | stay {d : Dialogue Q A α} {past : List (Event Q A)} : Talks 0 d past d past
  | ask {n : ℕ} {q : Q} {next : A q → Dialogue Q A α} {past past' : List (Event Q A)}
      {d' : Dialogue Q A α} (a : A q) (h : Talks n (next a) (⟨q, a⟩ :: past) d' past') :
      Talks (n + 1) (.ask q next) past d' past'
  | loop {n : ℕ} {σ β : Type} {body : σ → Dialogue Q A (σ ⊕ β)} {s : σ}
      {next : β → Dialogue Q A α} {past past' : List (Event Q A)} {d' : Dialogue Q A α}
      (h : Talks n ((body s).bind (again body next)) past d' past') :
      Talks (n + 1) (.loop body s next) past d' past'

/-- Histories grow. -/
theorem Talks.suffix {n : ℕ} {d d' : Dialogue Q A α} {past past' : List (Event Q A)}
    (h : Talks n d past d' past') : past <:+ past' := by
  induction h with
  | stay => exact List.suffix_refl _
  | ask a h ih => exact (List.suffix_cons _ _).trans ih
  | loop h ih => exact ih

/-- A program after another one is still in the first, or the first has come to a result. -/
theorem talks_bind {n : ℕ} {d : Dialogue Q A α} {f : α → Dialogue Q A β}
    {past past' : List (Event Q A)} {d' : Dialogue Q A β}
    (h : Talks n (d.bind f) past d' past') :
    (∃ d₁, d' = d₁.bind f ∧ Talks n d past d₁ past') ∨
      ∃ k a past₁, k ≤ n ∧ (∃ m, Talks m d past (.pure a) past₁) ∧ Talks k (f a) past₁ d' past' := by
  induction n generalizing d past with
  | zero =>
      cases h
      exact .inl ⟨d, rfl, .stay⟩
  | succ n ih =>
      cases d with
      | pure a => exact .inr ⟨n + 1, a, past, le_rfl, ⟨0, .stay⟩, h⟩
      | ask q next =>
          cases h with
          | ask a h =>
              rcases ih h with ⟨d₁, rfl, htalks⟩ | ⟨k, b, past₁, hk, ⟨m, hfirst⟩, hrest⟩
              · exact .inl ⟨d₁, rfl, .ask a htalks⟩
              · exact .inr ⟨k, b, past₁, by omega, ⟨m + 1, .ask a hfirst⟩, hrest⟩
      | @loop σ β' _ body s next =>
          cases h with
          | loop h =>
              rw [again_bind, ← bind_assoc] at h
              rcases ih h with ⟨d₁, rfl, htalks⟩ | ⟨k, b, past₁, hk, ⟨m, hfirst⟩, hrest⟩
              · exact .inl ⟨d₁, rfl, .loop htalks⟩
              · exact .inr ⟨k, b, past₁, by omega, ⟨m + 1, .loop hfirst⟩, hrest⟩

/-- The first `n` steps of a program whose questions an oracle answers. -/
def drive (oracle : (q : Q) → List (Event Q A) → A q) :
    ℕ → Dialogue Q A α → List (Event Q A) → Dialogue Q A α × List (Event Q A)
  | 0, d, past => (d, past)
  | _ + 1, .pure a, past => (.pure a, past)
  | n + 1, .ask q next, past =>
    drive oracle n (next (oracle q past)) (⟨q, oracle q past⟩ :: past)
  | n + 1, .loop body s next, past => drive oracle n ((body s).bind (again body next)) past

theorem talks_drive (oracle : (q : Q) → List (Event Q A) → A q) (n : ℕ) (d : Dialogue Q A α)
    (past : List (Event Q A)) :
    ∃ m, Talks m d past (drive oracle n d past).1 (drive oracle n d past).2 := by
  induction n generalizing d past with
  | zero => exact ⟨0, .stay⟩
  | succ n ih =>
      cases d with
      | pure a => exact ⟨0, .stay⟩
      | ask q next =>
          obtain ⟨m, htalks⟩ := ih (next (oracle q past)) (⟨q, oracle q past⟩ :: past)
          exact ⟨m + 1, .ask _ htalks⟩
      | loop body s next =>
          obtain ⟨m, htalks⟩ := ih ((body s).bind (again body next)) past
          exact ⟨m + 1, .loop htalks⟩

/-! ## Guarantees -/

/-- What the surroundings allow of a history they allow of what came before. -/
def Closed (rely : List (Event Q A) → Prop) : Prop :=
  ∀ event past, rely (event :: past) → rely past

theorem closed_true : Closed fun _ : List (Event Q A) => True := fun _ _ _ => trivial

theorem Closed.of_suffix {rely : List (Event Q A) → Prop} (h : Closed rely)
    {past past' : List (Event Q A)} (hsuffix : past <:+ past') (hrely : rely past') :
    rely past := by
  obtain ⟨events, rfl⟩ := hsuffix
  induction events with
  | nil => exact hrely
  | cons event events ih => exact ih (h event _ hrely)

section keeps

variable (rely safe : List (Event Q A) → Prop)

/-- Every history that the surroundings allow is safe, and a result comes with a postcondition. -/
def Keeps (d : Dialogue Q A α) (past : List (Event Q A)) (post : α → List (Event Q A) → Prop) :
    Prop :=
  ∀ n d' past', Talks n d past d' past' → rely past' →
    safe past' ∧ ∀ a, d' = .pure a → post a past'

variable {rely safe} {past : List (Event Q A)} {post : α → List (Event Q A) → Prop}

theorem Keeps.now {d : Dialogue Q A α} (h : Keeps rely safe d past post) (hrely : rely past) :
    safe past := (h 0 d past .stay hrely).1

theorem keeps_pure {a : α} (hsafe : safe past) (hpost : post a past) :
    Keeps rely safe (.pure a) past post := by
  intro n d' past' htalks _
  cases htalks
  refine ⟨hsafe, ?_⟩
  rintro b ⟨⟩
  exact hpost

/-- A question: every answer that the surroundings allow is dealt with. -/
theorem keeps_ask (hclosed : Closed rely) {q : Q}
    {next : A q → Dialogue Q A α} (hsafe : safe past)
    (h : ∀ a, rely (⟨q, a⟩ :: past) → Keeps rely safe (next a) (⟨q, a⟩ :: past) post) :
    Keeps rely safe (.ask q next) past post := by
  intro n d' past' htalks hrely
  cases htalks with
  | stay => exact ⟨hsafe, nofun⟩
  | ask a htalks =>
      exact h a (hclosed.of_suffix htalks.suffix hrely) _ _ _ htalks hrely

/-- One program after another. -/
theorem keeps_bind {d : Dialogue Q A α} {f : α → Dialogue Q A β}
    {mid : α → List (Event Q A) → Prop} {post : β → List (Event Q A) → Prop}
    (hd : Keeps rely safe d past mid)
    (hf : ∀ a past', safe past' → mid a past' → Keeps rely safe (f a) past' post)
    (hclosed : Closed rely) :
    Keeps rely safe (d >>= f) past post := by
  intro n d' past' htalks hrely
  rcases talks_bind htalks with ⟨d₁, rfl, hfirst⟩ | ⟨k, a, past₁, -, ⟨m, hfirst⟩, hrest⟩
  · obtain ⟨hsafe, hresult⟩ := hd _ _ _ hfirst hrely
    refine ⟨hsafe, ?_⟩
    intro b hb
    -- A composition is a result only if its first part is one.
    cases d₁ with
    | pure a =>
        have hmid := hresult a rfl
        rw [show (Dialogue.pure a : Dialogue Q A α).bind f = f a from rfl] at hb
        exact (hf a past' hsafe hmid 0 _ _ .stay hrely).2 b hb
    | ask q next => cases hb
    | loop body s next => cases hb
  · obtain ⟨hsafe, hresult⟩ := hd _ _ _ hfirst (hclosed.of_suffix hrest.suffix hrely)
    exact hf a past₁ hsafe (hresult a rfl) _ _ _ hrest hrely

/-- A loop, by an invariant of its state and the history. -/
theorem keeps_loop {body : σ → Dialogue Q A (σ ⊕ β)} {s : σ} {next : β → Dialogue Q A α}
    (invariant : σ → List (Event Q A) → Prop) (mid : β → List (Event Q A) → Prop)
    (hclosed : Closed rely)
    (hbody : ∀ s past, safe past → invariant s past → Keeps rely safe (body s) past fun r past' =>
      r.elim (invariant · past') (mid · past'))
    (hnext : ∀ b past, safe past → mid b past → Keeps rely safe (next b) past post)
    (hsafe : safe past) (hinvariant : invariant s past) : Keeps rely safe (.loop body s next) past post := by
  intro n
  -- The body of a loop that is run again takes fewer of the steps.
  induction n using Nat.strong_induction_on generalizing s past with
  | _ n ih =>
      intro d' past' htalks hrely
      cases htalks with
      | stay => exact ⟨hsafe, nofun⟩
      | @loop n _ _ _ _ _ _ _ _ htalks =>
          rcases talks_bind htalks with ⟨d₁, rfl, hfirst⟩ | ⟨k, r, past₁, hk, ⟨m, hfirst⟩, hrest⟩
          · obtain ⟨hsafe', hresult⟩ := hbody s past hsafe hinvariant _ _ _ hfirst hrely
            refine ⟨hsafe', ?_⟩
            intro a ha
            cases d₁ with
            | pure r =>
                have hr := hresult r rfl
                rcases r with s' | b
                · cases ha
                · exact (hnext b past' hsafe' hr 0 _ _ .stay hrely).2 a ha
            | ask q next => cases ha
            | loop body s next => cases ha
          · obtain ⟨hsafe', hresult⟩ := hbody s past hsafe hinvariant _ _ _ hfirst
              (hclosed.of_suffix hrest.suffix hrely)
            have hr := hresult r rfl
            rcases r with s' | b
            · exact ih k (by omega) hsafe' hr _ _ hrest hrely
            · exact hnext b past₁ hsafe' hr _ _ _ hrest hrely

/-- What holds without relying on the surroundings holds beside what relies on them. -/
theorem Keeps.and {safe' : List (Event Q A) → Prop} {d : Dialogue Q A α}
    {post' : α → List (Event Q A) → Prop} (h : Keeps rely safe d past post)
    (h' : Keeps (fun _ => True) safe' d past post') :
    Keeps rely safe d past fun a past' => post a past' ∧ post' a past' := by
  intro n d' past' htalks hrely
  obtain ⟨hsafe, hpost⟩ := h n d' past' htalks hrely
  exact ⟨hsafe, fun a ha => ⟨hpost a ha, (h' n d' past' htalks trivial).2 a ha⟩⟩

/-! ## Programs that ask questions of one kind -/

/-- All that a program asks is of one kind. -/
def Only (kind : Q → Prop) {α : Type} : Dialogue Q A α → Prop
  | pure _ => True
  | ask q next => kind q ∧ ∀ a, Only kind (next a)
  | loop body _ next => (∀ s, Only kind (body s)) ∧ ∀ b, Only kind (next b)

section only

variable {kind : Q → Prop}

theorem only_bind {d : Dialogue Q A α} {f : α → Dialogue Q A β} (h : Only kind d)
    (hf : ∀ a, Only kind (f a)) : Only kind (d.bind f) := by
  induction d with
  | pure a => exact hf a
  | ask q next ih => exact ⟨h.1, fun a => ih a (h.2 a) hf⟩
  | loop body s next _ ih => exact ⟨h.1, fun b => ih b (h.2 b) hf⟩

theorem Only.mono {kind' : Q → Prop} {d : Dialogue Q A α} (h : Only kind d)
    (hkind : ∀ q, kind q → kind' q) : Only kind' d := by
  induction d with
  | pure a => exact trivial
  | ask q next ih => exact ⟨hkind q h.1, fun a => ih a (h.2 a)⟩
  | loop body s next ihBody ihNext =>
      exact ⟨fun s => ihBody s (h.1 s), fun b => ihNext b (h.2 b)⟩

/-- What no question of the kind changes is left alone by a program that asks no others. -/
theorem Only.keeps {d : Dialogue Q A α} (h : Only kind d)
    (p : List (Event Q A) → Prop) (hsafe : ∀ past, p past → safe past)
    (hstep : ∀ q a past, kind q → p past → p (⟨q, a⟩ :: past)) (hp : p past) :
    Keeps rely safe d past fun _ past' => p past' := by
  have hkept : ∀ n d' past', Talks n d past d' past' → p past' := by
    intro n d' past' htalks
    induction htalks with
    | stay => exact hp
    | ask a _ ih => exact ih (h.2 a) (hstep _ a _ h.1 hp)
    | @loop _ _ _ body s next _ _ _ _ ih =>
        refine ih (only_bind (h.1 s) ?_) hp
        rintro (s' | b)
        · exact ⟨h.1, h.2⟩
        · exact h.2 b
  intro n d' past' htalks _
  have hp' := hkept n d' past' htalks
  exact ⟨hsafe past' hp', fun _ _ => hp'⟩

end only

/-! ## Results that can be errors -/

/-- The operator `?`, before the rest of a function. -/
def andThen {ε : Type} (d : Dialogue Q A (Except ε α)) (next : α → Dialogue Q A (Except ε β)) :
    Dialogue Q A (Except ε β) :=
  d.bind fun
    | .error error => pure (.error error)
    | .ok value => next value

theorem only_andThen {ε : Type} {kind : Q → Prop} {d : Dialogue Q A (Except ε α)}
    {next : α → Dialogue Q A (Except ε β)} (h : Only kind d) (hnext : ∀ a, Only kind (next a)) :
    Only kind (d.andThen next) := by
  refine only_bind h ?_
  rintro (error | value)
  · exact trivial
  · exact hnext value

/-- An error goes to the end at once. -/
theorem keeps_andThen {ε : Type} {d : Dialogue Q A (Except ε α)}
    {next : α → Dialogue Q A (Except ε β)} {mid : Except ε α → List (Event Q A) → Prop}
    {post : Except ε β → List (Event Q A) → Prop} (hclosed : Closed rely)
    (hd : Keeps rely safe d past mid)
    (herror : ∀ error past', safe past' → mid (.error error) past' → post (.error error) past')
    (hnext : ∀ value past', safe past' → mid (.ok value) past' →
      Keeps rely safe (next value) past' post) :
    Keeps rely safe (d.andThen next) past post := by
  refine keeps_bind hd ?_ hclosed
  rintro (error | value) past' hsafe hmid
  · exact keeps_pure hsafe (herror error past' hsafe hmid)
  · exact hnext value past' hsafe hmid

end keeps

/-! ## Histories, event by event -/

/-- Every event is as a predicate of it and of what came before wants. -/
def Always (p : Event Q A → List (Event Q A) → Prop) : List (Event Q A) → Prop
  | [] => True
  | event :: past => p event past ∧ Always p past

instance (p : Event Q A → List (Event Q A) → Prop) [∀ event past, Decidable (p event past)] :
    ∀ past, Decidable (Always p past)
  | [] => .isTrue trivial
  | event :: past =>
    have : Decidable (Always p past) := instDecidableAlways p past
    inferInstanceAs (Decidable (p event past ∧ Always p past))

theorem closed_always (p : Event Q A → List (Event Q A) → Prop) : Closed (Always p) :=
  fun _ _ h => h.2

theorem Closed.and {rely rely' : List (Event Q A) → Prop} (h : Closed rely) (h' : Closed rely') :
    Closed fun past => rely past ∧ rely' past :=
  fun event past hrely => ⟨h event past hrely.1, h' event past hrely.2⟩

end Dialogue

end ProtonVpnOmarchy.Lib
