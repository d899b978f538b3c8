import Mathlib

/-!
# Reading from a stream in pieces

What arrives at a reader comes in chunks of any length, and a read that waits for more can be stopped:
its time ends, or the stream does. A read of an exact number of elements that is stopped has lost what
it had taken. How the elements were split into chunks makes no difference to any read.

* `readExact_tokens` — a read depends only on the elements and the stops between them.
* `readTokens_append` — elements that have all arrived are read, whatever comes after them.
* `readPieces_wire` — pieces come out as they went in, if the stops come between them.
-/

namespace ProtonVpnOmarchy.Lib

variable {α σ β : Type}

/-- What arrives: a chunk, or what stops a read that waits. -/
inductive Arrival (α σ : Type) where
  | chunk (elements : List α)
  | stop (reason : σ)

/-- The end of a read. -/
inductive Got (σ β : Type) where
  | all (value : β)
  | stopped (reason : σ)
  /-- Nothing more arrives, and the read waits. -/
  | pending
  deriving DecidableEq

namespace Got

def map {γ : Type} (f : β → γ) : Got σ β → Got σ γ
  | .all value => .all (f value)
  | .stopped reason => .stopped reason
  | .pending => .pending

@[simp] theorem map_all {γ : Type} (f : β → γ) (value : β) :
    (Got.all value : Got σ β).map f = .all (f value) := rfl

@[simp] theorem map_stopped {γ : Type} (f : β → γ) (reason : σ) :
    (Got.stopped reason : Got σ β).map f = .stopped reason := rfl

@[simp] theorem map_pending {γ : Type} (f : β → γ) : (Got.pending : Got σ β).map f = .pending := rfl

theorem map_map {γ δ : Type} (f : β → γ) (g : γ → δ) (got : Got σ β) :
    (got.map f).map g = got.map (g ∘ f) := by
  cases got <;> rfl

end Got

/-- A read of a number of elements, and what is left of what arrives. -/
def readExact : ℕ → List (Arrival α σ) → Got σ (List α) × List (Arrival α σ)
  | n, [] => (if n = 0 then .all [] else .pending, [])
  | n, .stop reason :: arrivals =>
    if n = 0 then (.all [], .stop reason :: arrivals) else (.stopped reason, arrivals)
  | n, .chunk elements :: arrivals =>
    if n ≤ elements.length then (.all (elements.take n), .chunk (elements.drop n) :: arrivals)
    else
      let (got, rest) := readExact (n - elements.length) arrivals
      (got.map (elements ++ ·), rest)

/-! ## Without chunks -/

/-- The elements, and what stops a read between them. -/
def tokensOf : List (Arrival α σ) → List (α ⊕ σ)
  | [] => []
  | .chunk elements :: arrivals => elements.map .inl ++ tokensOf arrivals
  | .stop reason :: arrivals => .inr reason :: tokensOf arrivals

/-- The same read, without the chunks. -/
def readTokens : ℕ → List (α ⊕ σ) → Got σ (List α) × List (α ⊕ σ)
  | 0, tokens => (.all [], tokens)
  | _ + 1, [] => (.pending, [])
  | _ + 1, .inr reason :: tokens => (.stopped reason, tokens)
  | n + 1, .inl element :: tokens =>
    let (got, rest) := readTokens n tokens
    (got.map (element :: ·), rest)

theorem readTokens_append (elements : List α) (n : ℕ) (rest : List (α ⊕ σ)) :
    readTokens (elements.length + n) (elements.map .inl ++ rest) =
      ((readTokens n rest).1.map (elements ++ ·), (readTokens n rest).2) := by
  induction elements with
  | nil =>
      rw [List.length_nil, Nat.zero_add]
      cases h : (readTokens n rest).1 <;> simp [Got.map, ← h]
  | cons element elements ih =>
      rw [List.length_cons, Nat.succ_add, List.map_cons, List.cons_append]
      change (((readTokens _ _).1.map _, _) : Got σ (List α) × List (α ⊕ σ)) = _
      rw [ih, Got.map_map]
      rfl

/-- What has all arrived is read. -/
theorem readTokens_all (elements : List α) (rest : List (α ⊕ σ)) :
    readTokens elements.length (elements.map .inl ++ rest) = (.all elements, rest) := by
  have h := readTokens_append elements 0 rest
  rwa [Nat.add_zero, readTokens, Got.map_all, List.append_nil] at h

/-- A read depends only on the elements and on the stops between them. -/
theorem readExact_tokens (n : ℕ) (arrivals : List (Arrival α σ)) :
    ((readExact n arrivals).1, tokensOf (readExact n arrivals).2) = readTokens n (tokensOf arrivals) := by
  induction arrivals generalizing n with
  | nil =>
      cases n with
      | zero => rfl
      | succ n => rfl
  | cons arrival arrivals ih =>
      cases arrival with
      | stop reason =>
          cases n with
          | zero => rfl
          | succ n => rfl
      | chunk elements =>
          unfold readExact
          split_ifs with hle
          · have htake : (elements.take n).length = n := List.length_take_of_le hle
            have hsplit : tokensOf (.chunk elements :: arrivals : List (Arrival α σ)) =
                (elements.take n).map .inl ++ tokensOf (.chunk (elements.drop n) :: arrivals) := by
              simp only [tokensOf]
              rw [← List.append_assoc, ← List.map_append, List.take_append_drop]
            have hall := readTokens_all (σ := σ) (elements.take n)
              (tokensOf (.chunk (elements.drop n) :: arrivals))
            rw [htake] at hall
            rw [hsplit, hall]
          · obtain ⟨k, rfl⟩ := Nat.exists_eq_add_of_le (not_le.mp hle).le
            have hrest := ih k
            simp only [tokensOf, Nat.add_sub_cancel_left]
            rw [readTokens_append, ← hrest]

/-! ## Pieces -/

/-- A reader of pieces: the end of the read, and what is left. -/
abbrev PieceReader (τ σ β : Type) := List τ → Got σ β × List τ

/-- A number of reads, one after the other. -/
def readPieces {τ : Type} (read : PieceReader τ σ β) : ℕ → List τ → List (Got σ β) × List τ
  | 0, rest => ([], rest)
  | n + 1, rest =>
    let (got, rest) := read rest
    let (gots, rest) := readPieces read n rest
    (got :: gots, rest)

/-- What goes over the wire: pieces, each as the elements it is written as, and stops between them. -/
def wire (write : β → List α) : List (β ⊕ σ) → List (α ⊕ σ)
  | [] => []
  | .inl piece :: items => (write piece).map .inl ++ wire write items
  | .inr reason :: items => .inr reason :: wire write items

/-- Pieces come out as they went in, with the stops between them, if a reader of what arrives takes one
item off the wire. -/
theorem readPieces_wire {τ γ : Type} {read : PieceReader τ σ γ} {view : List τ → List (α ⊕ σ)}
    {write : β → List α} {got : β ⊕ σ → Got σ γ} {items : List (β ⊕ σ)}
    (hread : ∀ item ∈ items, ∀ rest arrivals, view arrivals = wire write (item :: rest) →
      (read arrivals).1 = got item ∧ view (read arrivals).2 = wire write rest)
    {arrivals : List τ} (h : view arrivals = wire write items) :
    (readPieces read items.length arrivals).1 = items.map got ∧
      view (readPieces read items.length arrivals).2 = [] := by
  induction items generalizing arrivals with
  | nil => exact ⟨rfl, h⟩
  | cons item items ih =>
      obtain ⟨hone, hrest⟩ := hread item List.mem_cons_self items arrivals h
      obtain ⟨hmore, hnone⟩ := ih (fun other hmem => hread other (List.mem_cons_of_mem _ hmem)) hrest
      simp only [List.length_cons, readPieces, List.map_cons]
      exact ⟨by rw [hone, hmore], hnone⟩

end ProtonVpnOmarchy.Lib
