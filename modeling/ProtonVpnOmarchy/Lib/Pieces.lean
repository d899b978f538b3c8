import ProtonVpnOmarchy.Lib.Fallible

/-!
# Pieces of a message, and readers that walk over them

A reader of a binary format keeps an offset into a message. A piece `LiesAt` an offset when the
message goes on with it there; pieces that follow each other are one piece (`liesAt_append`), and
what lies in a message still lies in a longer one (`LiesAt.append_right`).

A reader may index out of bounds, which a `Stop` tells apart from the errors it returns.

* `Format` — a reader accepts at every offset exactly the pieces of a format, stops behind the
  piece and returns its value.
* `Format.readMany` — so does a loop that runs a reader a number of times.
* `length_flatMap_unique` — two sequences of pieces at one offset end at one place.
-/

namespace ProtonVpnOmarchy.Lib

/-! ## Indexing -/

/-- Why a computation stops early. -/
inductive Stop (ε : Type) where
  | outOfBounds
  | error (error : ε)
  deriving DecidableEq

section indexing

variable {ε α β : Type}

/-- `bytes[i]` -/
def index (bytes : List α) (i : ℕ) : Except (Stop ε) α :=
  match bytes[i]? with
  | some b => .ok b
  | none => .error .outOfBounds

/-- `bytes[first..last]` -/
def indexRange (bytes : List α) (first last : ℕ) : Except (Stop ε) (List α) :=
  if first ≤ last ∧ last ≤ bytes.length then .ok ((bytes.drop first).take (last - first))
  else .error .outOfBounds

/-- `bytes.get(first..last)` -/
def getRange (bytes : List α) (first last : ℕ) : Option (List α) :=
  if first ≤ last ∧ last ≤ bytes.length then some ((bytes.drop first).take (last - first))
  else none

/-- Nothing is indexed out of bounds. -/
def InBounds (x : Except (Stop ε) β) : Prop := x ≠ .error .outOfBounds

theorem inBounds_ok (b : β) : InBounds (.ok b : Except (Stop ε) β) :=
  fun h => by cases h

theorem inBounds_error (error : ε) : InBounds (.error (.error error) : Except (Stop ε) β) :=
  fun h => by cases h

theorem InBounds.bind {x : Except (Stop ε) β} {f : β → Except (Stop ε) α} (hx : InBounds x)
    (hf : ∀ b, x = .ok b → InBounds (f b)) : InBounds (x >>= f) := by
  cases x with
  | error stop => exact fun h => hx (congrArg Except.error (Except.error.inj h))
  | ok b => exact hf b rfl

theorem index_eq_ok {bytes : List α} {i : ℕ} {a : α} :
    (index bytes i : Except (Stop ε) α) = .ok a ↔ bytes[i]? = some a := by
  unfold index
  cases bytes[i]? <;> simp

theorem inBounds_index {bytes : List α} {i : ℕ} (h : i < bytes.length) :
    InBounds (index bytes i : Except (Stop ε) α) := by
  rw [index_eq_ok.mpr (List.getElem?_eq_getElem h)]
  exact inBounds_ok _

end indexing

/-! ## Pieces -/

section pieces

variable {α : Type} {message piece next : List α} {offset : ℕ}

/-- From the offset on the message goes on with the piece. -/
def LiesAt (message piece : List α) (offset : ℕ) : Prop := piece <+: message.drop offset

theorem liesAt_append :
    LiesAt message (piece ++ next) offset ↔
      LiesAt message piece offset ∧ LiesAt message next (offset + piece.length) := by
  unfold LiesAt
  constructor
  · rintro ⟨rest, h⟩
    rw [List.append_assoc] at h
    refine ⟨⟨next ++ rest, h⟩, rest, ?_⟩
    rw [← List.drop_drop, ← h, List.drop_left]
  · rintro ⟨⟨rest, h⟩, rest', h'⟩
    refine ⟨rest', ?_⟩
    rw [← List.drop_drop, ← h, List.drop_left] at h'
    rw [List.append_assoc, h', h]

theorem LiesAt.append_right (h : LiesAt message piece offset) (rest : List α) :
    LiesAt (message ++ rest) piece offset := by
  obtain ⟨behind, h⟩ := h
  by_cases hle : offset ≤ message.length
  · refine ⟨behind ++ rest, ?_⟩
    rw [List.drop_append_of_le_length hle, ← h, List.append_assoc]
  · rw [List.drop_eq_nil_of_le (Nat.le_of_not_le hle), List.append_eq_nil_iff] at h
    rw [h.1]
    exact List.nil_prefix

theorem liesAt_of_append (before piece rest : List α) :
    LiesAt (before ++ (piece ++ rest)) piece before.length :=
  ⟨rest, (List.drop_left).symm⟩

theorem LiesAt.length_le (h : LiesAt message piece offset) (hne : piece ≠ []) :
    offset + piece.length ≤ message.length := by
  have hle := List.IsPrefix.length_le h
  rw [List.length_drop] at hle
  have hpos := List.length_pos_iff.mpr hne
  omega

theorem LiesAt.length_le' (h : LiesAt message piece offset) (hle : offset ≤ message.length) :
    offset + piece.length ≤ message.length := by
  by_cases hne : piece = []
  · rw [hne]
    exact hle
  · exact h.length_le hne

/-- A piece of given length is what the message has there. -/
theorem liesAt_iff :
    LiesAt message piece offset ↔ (message.drop offset).take piece.length = piece :=
  ⟨fun hlies => (List.prefix_iff_eq_take.mp hlies).symm,
    fun htake => List.prefix_iff_eq_take.mpr htake.symm⟩

theorem LiesAt.eq {other : List α} (h : LiesAt message piece offset)
    (hother : LiesAt message other offset) (hlength : piece.length = other.length) :
    piece = other := by
  rw [List.prefix_iff_eq_take.mp h, List.prefix_iff_eq_take.mp hother, hlength]

theorem liesAt_take (length : ℕ) : LiesAt message ((message.drop offset).take length) offset :=
  List.take_prefix _ _

theorem liesAt_nil : LiesAt message [] offset := List.nil_prefix

theorem liesAt_cons {a : α} :
    LiesAt message (a :: piece) offset ↔
      message[offset]? = some a ∧ LiesAt message piece (offset + 1) := by
  unfold LiesAt
  cases hdrop : message.drop offset with
  | nil =>
      have hlength : message[offset]? = none :=
        List.getElem?_eq_none (List.drop_eq_nil_iff.mp hdrop)
      simp [hlength]
  | cons b bs =>
      have hget : message[offset]? = some b := by
        rw [← List.head?_drop, hdrop, List.head?_cons]
      have htail : message.drop (offset + 1) = bs := by
        rw [← List.drop_drop, hdrop, List.drop_one, List.tail_cons]
      rw [hget, htail, List.cons_prefix_cons, Option.some.injEq, eq_comm]

theorem liesAt_singleton {a : α} : LiesAt message [a] offset ↔ message[offset]? = some a := by
  rw [liesAt_cons, and_iff_left liesAt_nil]

theorem getRange_eq_some {length : ℕ} {bytes : List α} :
    getRange message offset (offset + length) = some bytes ↔
      offset + length ≤ message.length ∧ bytes.length = length ∧ LiesAt message bytes offset := by
  unfold getRange
  rw [Nat.add_sub_cancel_left]
  constructor
  · intro h
    split at h
    · obtain rfl := Option.some.inj h
      refine ⟨by omega, ?_, liesAt_take _⟩
      rw [List.length_take, List.length_drop]
      omega
    · cases h
  · rintro ⟨hle, rfl, hlies⟩
    rw [if_pos ⟨Nat.le_add_right _ _, hle⟩, liesAt_iff.mp hlies]

theorem LiesAt.getElem? (h : LiesAt message piece offset) {i : ℕ} (hi : i < piece.length) :
    message[offset + i]? = piece[i]? := by
  rw [← List.getElem?_drop, List.prefix_iff_getElem?.mp h i hi, List.getElem?_eq_getElem hi]

theorem getRange_eq_none {length : ℕ} :
    getRange message offset (offset + length) = none ↔ message.length < offset + length := by
  unfold getRange
  split
  · simp only [reduceCtorEq, false_iff]
    omega
  · simp only [true_iff]
    omega

theorem indexRange_eq_ok {ε : Type} {length : ℕ} {bytes : List α} :
    (indexRange message offset (offset + length) : Except (Stop ε) (List α)) = .ok bytes ↔
      offset + length ≤ message.length ∧ bytes.length = length ∧ LiesAt message bytes offset := by
  rw [← getRange_eq_some]
  unfold indexRange getRange
  split <;> simp

theorem indexRange_eq {ε : Type} {length : ℕ} (h : offset + length ≤ message.length) :
    (indexRange message offset (offset + length) : Except (Stop ε) (List α)) =
      .ok ((message.drop offset).take length) := by
  unfold indexRange
  rw [if_pos ⟨Nat.le_add_right _ _, h⟩, Nat.add_sub_cancel_left]

/-- Pieces whose end is determined by their place, as many of them each time, end at one place. -/
theorem length_flatMap_unique {γ : Type} {bytes : γ → List α}
    (h : ∀ x y offset, LiesAt message (bytes x) offset → LiesAt message (bytes y) offset →
      (bytes x).length = (bytes y).length) {xs ys : List γ} (hlength : xs.length = ys.length)
    (hxs : LiesAt message (xs.flatMap bytes) offset)
    (hys : LiesAt message (ys.flatMap bytes) offset) :
    (xs.flatMap bytes).length = (ys.flatMap bytes).length := by
  induction xs generalizing ys offset with
  | nil => rw [List.length_eq_zero_iff.mp hlength.symm]
  | cons x xs ih =>
      cases ys with
      | nil => cases hlength
      | cons y ys =>
          rw [List.flatMap_cons, liesAt_append] at hxs hys
          have hfirst := h x y offset hxs.1 hys.1
          rw [List.flatMap_cons, List.flatMap_cons, List.length_append, List.length_append, hfirst,
            ih (Nat.succ.inj hlength) hxs.2 (hfirst ▸ hys.2)]

end pieces

/-! ## Readers -/

section readers

variable {ε α β γ : Type}

/-- A reader at an offset of a message: a value and the offset behind what was read. -/
abbrev Reader (ε β : Type) := ℕ → Except ε (β × ℕ)

/-- A loop that reads a number of times. -/
def readMany (read : Reader ε β) : ℕ → Reader ε (List β)
  | 0, offset => .ok ([], offset)
  | n + 1, offset => do
    let (value, offset) ← read offset
    let (values, offset) ← readMany read n offset
    return (value :: values, offset)

/-- A reader accepts the pieces of a format, stops behind them and returns their values. -/
def Format (message : List α) (read : Reader ε β) (good : γ → Prop) (bytes : γ → List α)
    (value : γ → β) : Prop :=
  ∀ offset result, read offset = .ok result ↔
    ∃ x, good x ∧ LiesAt message (bytes x) offset ∧ result = (value x, offset + (bytes x).length)

variable {message : List α} {read : Reader ε β} {good : γ → Prop} {bytes : γ → List α}
  {value : γ → β}

theorem Format.readMany (h : Format message read good bytes value) (n : ℕ) :
    Format message (readMany read n) (fun xs : List γ => xs.length = n ∧ ∀ x ∈ xs, good x)
      (fun xs => xs.flatMap bytes) (fun xs => xs.map value) := by
  induction n with
  | zero =>
      intro offset result
      unfold Lib.readMany
      rw [Except.ok.injEq]
      constructor
      · rintro rfl
        exact ⟨[], ⟨rfl, by simp⟩, liesAt_nil, rfl⟩
      · rintro ⟨xs, ⟨hlength, -⟩, -, rfl⟩
        rw [List.length_eq_zero_iff.mp hlength]
        rfl
  | succ n ih =>
      intro offset result
      unfold Lib.readMany
      rw [Except.bind_eq_ok]
      constructor
      · rintro ⟨first, hfirst, hrest⟩
        obtain ⟨x, hx, hlies, rfl⟩ := (h _ _).mp hfirst
        obtain ⟨others, hothers, hresult⟩ := Except.bind_eq_ok.mp hrest
        obtain ⟨xs, ⟨hlength, hgood⟩, hliesxs, rfl⟩ := (ih _ _).mp hothers
        obtain rfl := Except.ok.inj hresult
        refine ⟨x :: xs, ⟨by rw [List.length_cons, hlength], List.forall_mem_cons.mpr ⟨hx, hgood⟩⟩,
          ?_, ?_⟩
        · beta_reduce
          rw [List.flatMap_cons, liesAt_append]
          exact ⟨hlies, hliesxs⟩
        · beta_reduce
          rw [List.map_cons, List.flatMap_cons, List.length_append, Nat.add_assoc]
      · rintro ⟨xs, ⟨hlength, hgood⟩, hlies, rfl⟩
        cases xs with
        | nil => cases hlength
        | cons x xs =>
            beta_reduce at hlies ⊢
            rw [List.flatMap_cons, liesAt_append] at hlies
            rw [List.forall_mem_cons] at hgood
            refine ⟨_, (h _ _).mpr ⟨x, hgood.1, hlies.1, rfl⟩, Except.bind_eq_ok.mpr ⟨_,
              (ih _ _).mpr ⟨xs, ⟨Nat.succ.inj hlength, hgood.2⟩, hlies.2, rfl⟩, ?_⟩⟩
            rw [List.map_cons, List.flatMap_cons, List.length_append, ← Nat.add_assoc]
            rfl

end readers

section bounds

variable {ε β : Type} {read : Reader (Stop ε) β}

theorem inBounds_readMany (h : ∀ offset, InBounds (read offset)) (n offset : ℕ) :
    InBounds (readMany read n offset) := by
  induction n generalizing offset with
  | zero => exact inBounds_ok _
  | succ n ih =>
      exact (h offset).bind fun first _ => (ih first.2).bind fun others _ => inBounds_ok _

end bounds

end ProtonVpnOmarchy.Lib
