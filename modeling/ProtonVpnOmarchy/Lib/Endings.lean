import ProtonVpnOmarchy.Lib.Dialogue

/-!
# Programs that end, and programs up to their questions

* `Ends` — a program comes to a result with a property, whatever is answered; `ends_bind` and
  `ends_loop` are the rules for it, the latter by a measure of the state of the loop.
* `Ends.drive` — every oracle drives such a program to a result.
* `Keeps.and_ends` — what every result has goes along with a guarantee.
* `relabel` — the program that asks other questions and goes on in the same way.
-/

namespace ProtonVpnOmarchy.Lib.Dialogue

variable {Q Q' : Type} {A : Q → Type} {A' : Q' → Type} {α β σ : Type}

/-- Every run of a program comes to a result with a property. -/
inductive Ends {α : Type} (post : α → Prop) : Dialogue Q A α → Prop
  | pure {a : α} (h : post a) : Ends post (.pure a)
  | ask {q : Q} {next : A q → Dialogue Q A α} (h : ∀ a, Ends post (next a)) :
      Ends post (.ask q next)
  | loop {σ β : Type} {body : σ → Dialogue Q A (σ ⊕ β)} {s : σ} {next : β → Dialogue Q A α}
      (h : Ends post ((body s).bind (again body next))) : Ends post (.loop body s next)

theorem ends_bind {mid : α → Prop} {post : β → Prop} {d : Dialogue Q A α}
    {f : α → Dialogue Q A β} (hd : Ends mid d) (hf : ∀ a, mid a → Ends post (f a)) :
    Ends post (d.bind f) := by
  induction hd with
  | pure h => exact hf _ h
  | ask h ih => exact .ask fun a => ih a
  | loop h ih =>
      rw [bind_assoc, ← again_bind] at ih
      exact .loop ih

theorem Ends.mono {post post' : α → Prop} {d : Dialogue Q A α} (h : Ends post d)
    (hpost : ∀ a, post a → post' a) : Ends post' d := by
  induction h with
  | pure h => exact .pure (hpost _ h)
  | ask h ih => exact .ask ih
  | loop h ih => exact .loop ih

/-- A loop whose body ends and makes a measure of its state smaller. -/
theorem ends_loop {mid : β → Prop} {post : α → Prop} (measure : σ → ℕ)
    {body : σ → Dialogue Q A (σ ⊕ β)} {next : β → Dialogue Q A α}
    (hbody : ∀ s, Ends (fun r => r.elim (fun s' => measure s' < measure s) mid) (body s))
    (hnext : ∀ b, mid b → Ends post (next b)) (s : σ) : Ends post (.loop body s next) := by
  induction hsteps : measure s using Nat.strong_induction_on generalizing s with
  | _ steps ih =>
      refine .loop (ends_bind (hbody s) ?_)
      rintro (s' | b) h
      · exact ih _ (hsteps ▸ h) s' rfl
      · exact hnext b h

/-- Every oracle drives the program to a result. -/
theorem Ends.drive {post : α → Prop} {d : Dialogue Q A α} (h : Ends post d)
    (oracle : (q : Q) → List (Event Q A) → A q) (past : List (Event Q A)) :
    ∃ n a, (drive oracle n d past).1 = .pure a ∧ post a := by
  induction h generalizing past with
  | pure h => exact ⟨0, _, rfl, h⟩
  | @ask q next h ih =>
      obtain ⟨n, a, hn, hpost⟩ := ih (oracle q past) (⟨q, oracle q past⟩ :: past)
      exact ⟨n + 1, a, hn, hpost⟩
  | loop h ih =>
      obtain ⟨n, a, hn, hpost⟩ := ih past
      exact ⟨n + 1, a, hn, hpost⟩

theorem Ends.talks {post : α → Prop} {d d' : Dialogue Q A α} (h : Ends post d) {n : ℕ}
    {past past' : List (Event Q A)} (htalks : Talks n d past d' past') : Ends post d' := by
  induction htalks with
  | stay => exact h
  | ask a _ ih =>
      cases h with
      | ask h => exact ih (h a)
  | loop _ ih =>
      cases h with
      | loop h => exact ih h

theorem Keeps.mono {rely safe : List (Event Q A) → Prop} {d : Dialogue Q A α}
    {past : List (Event Q A)} {post post' : α → List (Event Q A) → Prop}
    (h : Keeps rely safe d past post) (hpost : ∀ a past', post a past' → post' a past') :
    Keeps rely safe d past post' := by
  intro n d' past' htalks hrely
  obtain ⟨hsafe, hresult⟩ := h n d' past' htalks hrely
  exact ⟨hsafe, fun a ha => hpost a past' (hresult a ha)⟩

/-- What every result has, it has beside what a guarantee says of it. -/
theorem Keeps.and_ends {rely safe : List (Event Q A) → Prop} {d : Dialogue Q A α}
    {past : List (Event Q A)} {post : α → List (Event Q A) → Prop} {post' : α → Prop}
    (h : Keeps rely safe d past post) (h' : Ends post' d) :
    Keeps rely safe d past fun a past' => post a past' ∧ post' a := by
  intro n d' past' htalks hrely
  obtain ⟨hsafe, hpost⟩ := h n d' past' htalks hrely
  refine ⟨hsafe, ?_⟩
  rintro a rfl
  refine ⟨hpost a rfl, ?_⟩
  cases h'.talks htalks with
  | pure h => exact h

/-- The program with other questions, whose answers are translated back. -/
def relabel (ask' : Q → Q') (back : (q : Q) → A' (ask' q) → A q) :
    {α : Type} → Dialogue Q A α → Dialogue Q' A' α
  | _, pure a => .pure a
  | _, ask q next => .ask (ask' q) fun a => relabel ask' back (next (back q a))
  | _, loop body s next =>
    .loop (fun s => relabel ask' back (body s)) s fun b => relabel ask' back (next b)

theorem relabel_bind {ask' : Q → Q'} {back : (q : Q) → A' (ask' q) → A q} (d : Dialogue Q A α)
    (f : α → Dialogue Q A β) :
    relabel ask' back (d.bind f) = (relabel ask' back d).bind fun a => relabel ask' back (f a) := by
  induction d with
  | pure a => rfl
  | ask q next ih => exact congrArg (Dialogue.ask (ask' q)) (funext fun a => ih (back q a) f)
  | loop body s next _ ih =>
      exact congrArg (Dialogue.loop (fun s => relabel ask' back (body s)) s)
        (funext fun b => ih b f)

theorem only_relabel {ask' : Q → Q'} {back : (q : Q) → A' (ask' q) → A q} (d : Dialogue Q A α) :
    Only (fun query => ∃ q, query = ask' q) (relabel ask' back d) := by
  induction d with
  | pure a => exact trivial
  | ask q next ih => exact ⟨⟨q, rfl⟩, fun a => ih (back q a)⟩
  | loop body s next ihBody ihNext => exact ⟨ihBody, ihNext⟩

end ProtonVpnOmarchy.Lib.Dialogue
