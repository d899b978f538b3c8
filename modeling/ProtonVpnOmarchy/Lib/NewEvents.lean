import ProtonVpnOmarchy.Lib.Endings

/-!
# What a program adds to a history

Once something has happened, a program `Adds` events to the history with a property, as long as every
later event is as the surroundings are relied on to make it.

* `adds_pure`, `adds_answer`, `adds_bind`, `adds_loop` — the rules for it.
* `Only.adds` — what is asked is what is added.
* `Adds.keeps` — from there to a guarantee.
-/

namespace ProtonVpnOmarchy.Lib.Dialogue

variable {Q : Type} {A : Q → Type} {α β σ : Type}

/-- From an event of a kind on, every event is as it is relied on. -/
def From (start fact : Event Q A → Prop) : List (Event Q A) → Prop :=
  Always fun event past => (∃ earlier ∈ past, start earlier) → fact event

theorem closed_from (start fact : Event Q A → Prop) : Closed (From start fact) := closed_always _

/-- After the start, a program comes to its result with new events that have a property. -/
def Adds (start fact : Event Q A → Prop) (post : α → List (Event Q A) → Prop)
    (d : Dialogue Q A α) : Prop :=
  ∀ past, (∃ earlier ∈ past, start earlier) →
    Keeps (From start fact) (fun _ => True) d past fun a past' =>
      ∃ new, past' = new ++ past ∧ post a new

variable {start fact : Event Q A → Prop} {post post' : α → List (Event Q A) → Prop}
  {d : Dialogue Q A α}

theorem Adds.keeps (h : Adds start fact post d) {past : List (Event Q A)}
    (hstart : ∃ earlier ∈ past, start earlier) :
    Keeps (From start fact) (fun _ => True) d past fun a past' =>
      ∃ new, past' = new ++ past ∧ post a new := h past hstart

theorem Adds.mono (h : Adds start fact post d) (hpost : ∀ a new, post a new → post' a new) :
    Adds start fact post' d := by
  intro past hstart
  refine (h past hstart).mono ?_
  rintro a _ ⟨new, rfl, hnew⟩
  exact ⟨new, rfl, hpost a new hnew⟩

theorem adds_pure {a : α} (h : post a []) : Adds start fact post (.pure a) :=
  fun _ _ => keeps_pure trivial ⟨[], rfl, h⟩

/-- A question adds itself, with an answer that is relied on. -/
theorem adds_answer {q : Q} (post : A q → List (Event Q A) → Prop)
    (h : ∀ a, fact ⟨q, a⟩ → post a [⟨q, a⟩]) : Adds start fact post (answer q) := by
  intro past hstart
  refine keeps_ask (closed_from _ _) trivial fun a hrely => ?_
  exact keeps_pure trivial ⟨[⟨q, a⟩], rfl, h a (hrely.1 hstart)⟩

/-- A question adds its own event. -/
theorem adds_event (q : Q) :
    Adds start fact (fun a new => fact ⟨q, a⟩ ∧ new = [⟨q, a⟩]) (answer q) :=
  adds_answer _ fun _ hfact => ⟨hfact, rfl⟩

theorem adds_bind (mid : α → List (Event Q A) → Prop) {f : α → Dialogue Q A β}
    {post : β → List (Event Q A) → Prop} (hd : Adds start fact mid d)
    (hf : ∀ a old, mid a old → Adds start fact (fun b new => post b (new ++ old)) (f a)) :
    Adds start fact post (d.bind f) := by
  intro past hstart
  refine keeps_bind (hd past hstart) ?_ (closed_from _ _)
  rintro a _ - ⟨old, rfl, hold⟩
  obtain ⟨earlier, hmem, hearlier⟩ := hstart
  refine (hf a old hold (old ++ past) ⟨earlier, List.mem_append_right _ hmem, hearlier⟩).mono ?_
  rintro b _ ⟨new, rfl, hnew⟩
  exact ⟨new ++ old, (List.append_assoc _ _ _).symm, hnew⟩

/-- A loop, by an invariant of its state and of what it has added. -/
theorem adds_loop (invariant : σ → List (Event Q A) → Prop)
    {body : σ → Dialogue Q A (σ ⊕ α)} {s : σ} (hinvariant : invariant s [])
    (hbody : ∀ s old, invariant s old → Adds start fact
      (fun r new => r.elim (invariant · (new ++ old)) (post · (new ++ old))) (body s)) :
    Adds start fact post (.loop body s .pure) := by
  intro past hstart
  refine keeps_loop (fun s past' => ∃ new, past' = new ++ past ∧ invariant s new)
    (fun a past' => ∃ new, past' = new ++ past ∧ post a new) (closed_from _ _) ?_
    (fun a past' _ h => keeps_pure trivial h) trivial ⟨[], rfl, hinvariant⟩
  rintro s _ - ⟨old, rfl, hold⟩
  obtain ⟨earlier, hmem, hearlier⟩ := hstart
  refine (hbody s old hold (old ++ past) ⟨earlier, List.mem_append_right _ hmem, hearlier⟩).mono ?_
  rintro r _ ⟨new, rfl, hnew⟩
  rcases r with s' | a
  · exact ⟨new ++ old, (List.append_assoc _ _ _).symm, hnew⟩
  · exact ⟨new ++ old, (List.append_assoc _ _ _).symm, hnew⟩

/-- A program that asks questions of one kind adds nothing else. -/
theorem Only.adds {kind : Q → Prop} (h : Only kind d) :
    Adds start fact (fun _ new => ∀ event ∈ new, kind event.1) d := by
  intro past _
  refine h.keeps (fun past' => ∃ new, past' = new ++ past ∧ ∀ event ∈ new, kind event.1)
    (fun _ _ => trivial) ?_ ⟨[], rfl, fun event hmem => absurd hmem List.not_mem_nil⟩
  rintro q a _ hkind ⟨new, rfl, hnew⟩
  exact ⟨⟨q, a⟩ :: new, rfl, List.forall_mem_cons.mpr ⟨hkind, hnew⟩⟩

theorem Adds.and (h : Adds start fact post d) (h' : Adds start fact post' d) :
    Adds start fact (fun a new => post a new ∧ post' a new) d := by
  intro past hstart n d' past' htalks hrely
  obtain ⟨-, hpost⟩ := h past hstart n d' past' htalks hrely
  obtain ⟨-, hpost'⟩ := h' past hstart n d' past' htalks hrely
  refine ⟨trivial, fun a ha => ?_⟩
  obtain ⟨new, rfl, hnew⟩ := hpost a ha
  obtain ⟨new', heq, hnew'⟩ := hpost' a ha
  exact ⟨new, rfl, hnew, List.append_cancel_right heq ▸ hnew'⟩

/-- What an oracle always answers is what a program that it drives is told. -/
theorem forall_drive {oracle : (q : Q) → List (Event Q A) → A q}
    (h : ∀ q past, fact ⟨q, oracle q past⟩) (n : ℕ) (d : Dialogue Q A α) :
    ∀ event ∈ (drive oracle n d []).2, fact event := by
  suffices hpast : ∀ past, (∀ event ∈ past, fact event) →
      ∀ event ∈ (drive oracle n d past).2, fact event from hpast [] nofun
  induction n generalizing d with
  | zero => exact fun _ hpast => hpast
  | succ n ih =>
      intro past hpast
      cases d with
      | pure a => exact hpast
      | ask q next => exact ih _ _ (List.forall_mem_cons.mpr ⟨h q past, hpast⟩)
      | loop body s next => exact ih _ _ hpast

theorem from_of_forall {past : List (Event Q A)} (h : ∀ event ∈ past, fact event) :
    From start fact past := by
  induction past with
  | nil => exact trivial
  | cons event past ih =>
      obtain ⟨hevent, hpast⟩ := List.forall_mem_cons.mp h
      exact ⟨fun _ => hevent, ih hpast⟩

end ProtonVpnOmarchy.Lib.Dialogue
