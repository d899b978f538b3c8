import Mathlib.Data.List.Basic
import Mathlib.Data.Option.Basic
import Mathlib.Tactic.SplitIfs

/-!
# Codecs of structured text

A `Codec` writes a value at a depth of nesting, and reads it back from the front of any text that goes
on with a delimiter. Sequences in brackets and entries of a key and a value are built from codecs of
their parts, blanks between the parts are skipped.

* `Codec.sequence` — items in brackets, one a line.
* `Codec.entry` — a key, and a value whose form depends on the key.
* `Codec.map` — another representation of the same values.
-/

namespace ProtonVpnOmarchy.Lib

/-- The characters between values, and how a line begins at a depth. -/
structure Punctuation where
  blank : Char → Bool
  mark : Char → Bool
  line : ℕ → List Char
  line_blank : ∀ depth, ∀ c ∈ line depth, blank c = true

namespace Punctuation

variable (p : Punctuation)

def delimits (c : Char) : Bool := p.blank c || p.mark c

def skip (text : List Char) : List Char := text.dropWhile p.blank

/-- The text goes on with a delimiter, or is at its end. -/
def Ends (rest : List Char) : Prop := ∀ c ∈ rest.head?, p.delimits c = true

variable {p}

theorem blank_of_not_delimits {c : Char} (h : p.delimits c = false) : p.blank c = false := by
  unfold delimits at h
  exact (Bool.or_eq_false_iff.mp h).1

theorem delimits_of_mark {c : Char} (h : p.mark c = true) : p.delimits c = true := by
  unfold delimits
  rw [h, Bool.or_true]

theorem skip_cons {c : Char} (h : p.blank c = false) (text : List Char) : p.skip (c :: text) = c :: text :=
  List.dropWhile_cons_of_neg (by simp [h])

theorem skip_append {blanks : List Char} (hblanks : ∀ c ∈ blanks, p.blank c = true) {c : Char}
    (h : p.blank c = false) (text : List Char) : p.skip (blanks ++ c :: text) = c :: text := by
  unfold skip
  rw [List.dropWhile_append_of_pos hblanks]
  exact skip_cons h text

theorem ends_cons {c : Char} (h : p.delimits c = true) (rest : List Char) : p.Ends (c :: rest) := by
  rintro _ ⟨⟩
  exact h

theorem ends_line {c : Char} (h : p.delimits c = true) (depth : ℕ) (rest : List Char) :
    p.Ends (p.line depth ++ c :: rest) := by
  rcases hline : p.line depth with _ | ⟨blank, blanks⟩
  · exact ends_cons h rest
  · have hblank := p.line_blank depth blank (by rw [hline]; exact List.mem_cons_self)
    refine ends_cons ?_ _
    unfold delimits
    rw [hblank, Bool.true_or]

end Punctuation

/-- A writer of values and the reader of what it writes. -/
structure Codec (p : Punctuation) (α : Type) where
  write : ℕ → α → List Char
  read : List Char → Option (α × List Char)
  begins : ∀ depth value, ∃ c text, write depth value = c :: text ∧ p.delimits c = false
  read_write : ∀ depth value rest, p.Ends rest → read (write depth value ++ rest) = some (value, rest)

/-- Brackets around items with a separator between them. -/
structure Brackets (p : Punctuation) where
  opening : Char
  closing : Char
  separator : Char
  opening_begins : p.delimits opening = false
  closing_mark : p.mark closing = true
  separator_mark : p.mark separator = true
  closing_solid : p.blank closing = false
  separator_solid : p.blank separator = false
  distinct : closing ≠ separator

namespace Codec

variable {p : Punctuation} {α β : Type}

/-- A value is read after blanks. -/
theorem read_skip (codec : Codec p α) {blanks : List Char} (hblanks : ∀ c ∈ blanks, p.blank c = true)
    (depth : ℕ) (value : α) {rest : List Char} (hrest : p.Ends rest) :
    codec.read (p.skip (blanks ++ (codec.write depth value ++ rest))) = some (value, rest) := by
  have hread := codec.read_write depth value rest hrest
  obtain ⟨c, text, htext, hbegins⟩ := codec.begins depth value
  rw [htext, List.cons_append] at hread ⊢
  rw [Punctuation.skip_append hblanks (Punctuation.blank_of_not_delimits hbegins)]
  exact hread

/-- Another representation of the same values. -/
def map (codec : Codec p α) (f : β → α) (g : α → Option β) (h : ∀ value, g (f value) = some value) :
    Codec p β where
  write depth value := codec.write depth (f value)
  read text := (codec.read text).bind fun (value, rest) => (g value).map fun value => (value, rest)
  begins depth value := codec.begins depth (f value)
  read_write depth value rest hrest := by
    rw [codec.read_write depth (f value) rest hrest, Option.bind_some]
    dsimp only
    rw [h]
    rfl

/-! ## Sequences -/

section sequence

variable (b : Brackets p)

def writeItems (write : α → List Char) (depth : ℕ) : List α → List Char
  | [] => []
  | item :: items =>
    p.line depth ++ (write item ++
      if items.isEmpty then [] else b.separator :: writeItems write depth items)

/-- Items up to the closing bracket; `fuel` bounds their number. -/
def readItems (read : List Char → Option (α × List Char)) :
    (fuel : ℕ) → List Char → Option (List α × List Char)
  | 0, _ => none
  | fuel + 1, text =>
    (read (p.skip text)).bind fun (item, rest) =>
      match p.skip rest with
      | [] => none
      | c :: rest =>
        if c = b.separator then
          (readItems read fuel rest).map fun (items, rest) => (item :: items, rest)
        else if c = b.closing then some ([item], rest)
        else none

def writeSequence (write : ℕ → α → List Char) (depth : ℕ) (items : List α) : List Char :=
  b.opening :: if items.isEmpty then [b.closing]
    else writeItems b (write (depth + 1)) (depth + 1) items ++ (p.line depth ++ [b.closing])

def readSequence (read : List Char → Option (α × List Char)) : List Char → Option (List α × List Char)
  | [] => none
  | c :: rest =>
    if c = b.opening then
      match p.skip rest with
      | [] => none
      | c :: rest' => if c = b.closing then some ([], rest') else readItems b read rest.length rest
    else none

variable {b}

theorem length_le_writeItems (codec : Codec p α) (depth : ℕ) (items : List α) :
    items.length ≤ (writeItems b (codec.write depth) depth items).length := by
  induction items with
  | nil => exact Nat.zero_le _
  | cons item items ih =>
      obtain ⟨c, text, htext, -⟩ := codec.begins depth item
      rw [writeItems, List.length_append, List.length_append, htext, List.length_cons,
        List.length_cons]
      rcases items with _ | ⟨next, items⟩
      · simp only [List.length_nil]
        omega
      · rw [List.isEmpty_cons, if_neg Bool.false_ne_true, List.length_cons (a := b.separator)]
        omega

/-- The items are read, part by part. -/
theorem readItems_writeItems (codec : Codec p α) (depth outer : ℕ) {items : List α} (hne : items ≠ [])
    {fuel : ℕ} (hfuel : items.length ≤ fuel) (rest : List Char) :
    readItems b codec.read fuel
      (writeItems b (codec.write depth) depth items ++ (p.line outer ++ b.closing :: rest)) =
      some (items, rest) := by
  induction items generalizing fuel with
  | nil => exact absurd rfl hne
  | cons item items ih =>
      obtain ⟨fuel, rfl⟩ : ∃ fuel', fuel = fuel' + 1 := ⟨fuel - 1, by simp at hfuel; omega⟩
      rw [readItems, writeItems, List.append_assoc, List.append_assoc]
      rcases items with _ | ⟨next, items⟩
      · rw [List.isEmpty_nil, if_pos rfl, List.nil_append,
          codec.read_skip (p.line_blank depth) depth item
            (Punctuation.ends_line (Punctuation.delimits_of_mark b.closing_mark) outer rest),
          Option.bind_some]
        dsimp only
        rw [Punctuation.skip_append (p.line_blank outer) b.closing_solid]
        dsimp only
        rw [if_neg b.distinct, if_pos rfl]
      · rw [List.isEmpty_cons, if_neg Bool.false_ne_true, List.cons_append,
          codec.read_skip (p.line_blank depth) depth item
            (Punctuation.ends_cons (Punctuation.delimits_of_mark b.separator_mark) _),
          Option.bind_some]
        dsimp only
        rw [Punctuation.skip_cons b.separator_solid]
        dsimp only
        rw [if_pos rfl, ih (List.cons_ne_nil _ _) (Nat.le_of_succ_le_succ hfuel)]
        rfl

variable (b)

/-- Items in brackets, one a line. -/
def sequence (codec : Codec p α) : Codec p (List α) where
  write := writeSequence b codec.write
  read := readSequence b codec.read
  begins depth items := ⟨_, _, rfl, b.opening_begins⟩
  read_write depth items rest _ := by
    rcases items with _ | ⟨item, items⟩
    · unfold writeSequence readSequence
      rw [List.isEmpty_nil, if_pos rfl, List.cons_append]
      dsimp only [List.cons_append, List.nil_append]
      rw [if_pos rfl, Punctuation.skip_cons b.closing_solid]
      dsimp only
      rw [if_pos rfl]
    · have hlength := length_le_writeItems (b := b) codec (depth + 1) (item :: items)
      have hitems := readItems_writeItems (b := b) codec (depth + 1) depth (List.cons_ne_nil item items)
        (Nat.le_trans hlength (Nat.le_add_right _ (p.line depth ++ b.closing :: rest).length)) rest
      obtain ⟨c, text, htext, hbegins⟩ := codec.begins (depth + 1) item
      have hclosing : c ≠ b.closing := by
        rintro rfl
        rw [Punctuation.delimits_of_mark b.closing_mark] at hbegins
        cases hbegins
      unfold writeSequence readSequence
      rw [List.isEmpty_cons, if_neg Bool.false_ne_true, List.cons_append]
      dsimp only
      rw [if_pos rfl, List.append_assoc, List.append_assoc, List.singleton_append, ← hitems,
        List.length_append]
      -- The first item does not begin with the closing bracket.
      have hskip : ∃ text', p.skip (writeItems b (codec.write (depth + 1)) (depth + 1) (item :: items) ++
          (p.line depth ++ b.closing :: rest)) = c :: text' := by
        rw [writeItems, htext, List.append_assoc, List.append_assoc, List.cons_append]
        exact ⟨_, Punctuation.skip_append (p.line_blank _) (Punctuation.blank_of_not_delimits hbegins) _⟩
      obtain ⟨text', hskip⟩ := hskip
      rw [hskip]
      dsimp only
      rw [if_neg hclosing]

end sequence

/-! ## Entries -/

/-- What stands between a key and its value. -/
structure Colon (p : Punctuation) where
  colon : Char
  gap : List Char
  colon_mark : p.mark colon = true
  colon_solid : p.blank colon = false
  gap_blank : ∀ c ∈ gap, p.blank c = true

/-- Values, each with a key that tells its form. -/
structure Fields (p : Punctuation) (κ α : Type) where
  key : α → κ
  write : ℕ → α → List Char
  read : κ → List Char → Option (α × List Char)
  begins : ∀ depth value, ∃ c text, write depth value = c :: text ∧ p.delimits c = false
  read_write : ∀ depth value rest, p.Ends rest →
    read (key value) (write depth value ++ rest) = some (value, rest)

/-- A key, and a value whose form depends on the key. -/
def entry {κ : Type} (colon : Colon p) (keys : Codec p κ) (fields : Fields p κ α) : Codec p α where
  write depth value :=
    keys.write depth (fields.key value) ++ colon.colon :: (colon.gap ++ fields.write depth value)
  read text := (keys.read text).bind fun (key, rest) =>
    match p.skip rest with
    | [] => none
    | c :: rest => if c = colon.colon then fields.read key (p.skip rest) else none
  begins depth value := by
    obtain ⟨c, text, htext, hbegins⟩ := keys.begins depth (fields.key value)
    rw [htext, List.cons_append]
    exact ⟨c, _, rfl, hbegins⟩
  read_write depth value rest hrest := by
    have hread := fields.read_write depth value rest hrest
    obtain ⟨c, text, htext, hbegins⟩ := fields.begins depth value
    rw [List.append_assoc, List.cons_append, keys.read_write depth _ _
      (Punctuation.ends_cons (Punctuation.delimits_of_mark colon.colon_mark) _), Option.bind_some]
    dsimp only
    rw [Punctuation.skip_cons colon.colon_solid]
    dsimp only
    rw [htext, List.cons_append] at hread
    rw [if_pos rfl, htext, List.append_assoc, List.cons_append,
      Punctuation.skip_append colon.gap_blank (Punctuation.blank_of_not_delimits hbegins)]
    exact hread

end Codec

end ProtonVpnOmarchy.Lib
