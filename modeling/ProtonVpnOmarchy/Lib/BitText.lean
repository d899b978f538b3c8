import Mathlib

/-!
# Binary data as text

A text of binary data spells its bits, so many to a character: six in Base64, five in Base32. The
bits stand most significant bit of each word first, and the last character is filled up with zeros.

* `regroup` — words of one width as words of another one; `regroup_regroup` takes them back.
* `decode_encode` — data is recovered from its text, so `encode_injective`.
-/

namespace ProtonVpnOmarchy.Lib

/-! ## Words of other widths -/

section regroup

variable {u w : ℕ}

/-- A bit of a sequence of words; there are zeros behind the last one. -/
def wordBit (words : List (BitVec u)) (k : ℕ) : Bool :=
  (words.getD (k / u) 0).getMsbD (k % u)

/-- The word of the given bits, most significant bit first. -/
def wordOf (w : ℕ) (bit : ℕ → Bool) : BitVec w := BitVec.ofFnLE fun i => bit (w - 1 - i)

/-- The first `n` words of another width. -/
def regroup (w n : ℕ) (words : List (BitVec u)) : List (BitVec w) :=
  (List.range n).map fun i => wordOf w fun j => wordBit words (w * i + j)

@[simp] theorem length_regroup (n : ℕ) (words : List (BitVec u)) :
    (regroup w n words).length = n := by
  simp [regroup]

theorem getMsbD_wordOf (bit : ℕ → Bool) {j : ℕ} (hj : j < w) :
    (wordOf w bit).getMsbD j = bit j := by
  have hlt : w - 1 - j < w := by omega
  have hsub : w - 1 - (w - 1 - j) = j := by omega
  rw [BitVec.getMsbD, wordOf, BitVec.getLsbD_ofFnLE, dif_pos hlt]
  simp [hj, hsub]

theorem wordBit_regroup {n k : ℕ} (hw : 0 < w) (hk : k < w * n) (words : List (BitVec u)) :
    wordBit (regroup w n words) k = wordBit words k := by
  have hdiv : k / w < n := Nat.div_lt_of_lt_mul hk
  have hget : (regroup w n words).getD (k / w) 0 =
      wordOf w fun j => wordBit words (w * (k / w) + j) := by
    simp [regroup, List.getD_eq_getElem?_getD, List.getElem?_range hdiv]
  rw [wordBit, hget, getMsbD_wordOf _ (Nat.mod_lt _ hw), Nat.div_add_mod]

/-- Words that are all there are taken back. -/
theorem regroup_regroup {n : ℕ} (hu : 0 < u) (hw : 0 < w) {words : List (BitVec u)}
    (h : u * words.length ≤ w * n) :
    regroup u words.length (regroup w n words) = words := by
  refine List.ext_getElem (length_regroup _ _) ?_
  intro i hi hi'
  have hword : (regroup u words.length (regroup w n words))[i] =
      wordOf u fun j => wordBit (regroup w n words) (u * i + j) := by
    simp [regroup]
  rw [hword]
  apply BitVec.eq_of_getMsbD_eq
  intro j hj
  have hk : u * i + j < w * n := by
    have hmul : u * (i + 1) ≤ u * words.length := Nat.mul_le_mul_left u hi'
    rw [Nat.mul_add, Nat.mul_one] at hmul
    omega
  have hdiv : (u * i + j) / u = i := by
    rw [Nat.mul_add_div hu, Nat.div_eq_of_lt hj, Nat.add_zero]
  have hmod : (u * i + j) % u = j := by
    rw [Nat.mul_add_mod, Nat.mod_eq_of_lt hj]
  rw [getMsbD_wordOf _ hj, wordBit_regroup hw hk, wordBit, hdiv, hmod, List.getD_eq_getElem _ _ hi']

end regroup

/-! ## Alphabets -/

/-- Characters for the words of a width. -/
structure Alphabet (w : ℕ) where
  chars : List Char
  length_chars : chars.length = 2 ^ w
  nodup : chars.Nodup

namespace Alphabet

variable {w : ℕ} (alphabet : Alphabet w)

def char (word : BitVec w) : Char :=
  alphabet.chars.get ⟨word.toNat, alphabet.length_chars.symm ▸ word.isLt⟩

def word? (c : Char) : Option (BitVec w) :=
  if c ∈ alphabet.chars then some (BitVec.ofNat w (alphabet.chars.idxOf c)) else none

theorem char_mem (word : BitVec w) : alphabet.char word ∈ alphabet.chars := List.get_mem _ _

theorem word?_char (word : BitVec w) : alphabet.word? (alphabet.char word) = some word := by
  unfold word?
  rw [if_pos (alphabet.char_mem word), char, List.get_eq_getElem, alphabet.nodup.idxOf_getElem]
  simp

/-- How many characters spell a number of words of width `u`. -/
def textLength (u w length : ℕ) : ℕ := (u * length + w - 1) / w

/-- The text of data. -/
def encode {u : ℕ} (words : List (BitVec u)) : List Char :=
  (regroup w (textLength u w words.length) words).map alphabet.char

/-- The data that a text spells; another text, with other characters or with bits behind the last
word, spells none. -/
def decode (u : ℕ) (text : List Char) : Option (List (BitVec u)) := do
  let words ← text.mapM alphabet.word?
  let data := regroup u (w * text.length / u) words
  if alphabet.encode data = text then some data else none

theorem mapM_word?_map_char (words : List (BitVec w)) :
    (words.map alphabet.char).mapM alphabet.word? = some words := by
  induction words with
  | nil => rfl
  | cons word words ih => simp [alphabet.word?_char, ih]

theorem mul_textLength {u : ℕ} (hw : 0 < w) (hwu : w ≤ u) (length : ℕ) :
    u * length ≤ w * textLength u w length ∧ w * textLength u w length / u = length := by
  have hu : 0 < u := by omega
  have hmod := Nat.div_add_mod (u * length + w - 1) w
  have hlt := Nat.mod_lt (u * length + w - 1) hw
  unfold textLength
  constructor
  · omega
  · refine Nat.div_eq_of_lt_le ?_ ?_
    · rw [Nat.mul_comm length u]
      omega
    · rw [Nat.succ_mul, Nat.mul_comm length u]
      omega

/-- Data is recovered from its text. -/
theorem decode_encode {u : ℕ} (hw : 0 < w) (hwu : w ≤ u) (words : List (BitVec u)) :
    alphabet.decode u (alphabet.encode words) = some words := by
  obtain ⟨hle, hlength⟩ := mul_textLength hw hwu words.length
  have hlen : (alphabet.encode words).length = textLength u w words.length := by simp [encode]
  unfold decode
  rw [hlen, hlength]
  nth_rewrite 1 [encode]
  rw [mapM_word?_map_char]
  dsimp only [Option.bind_eq_bind, Option.bind_some]
  rw [regroup_regroup (by omega) hw hle, if_pos rfl]

theorem encode_injective {u : ℕ} (hw : 0 < w) (hwu : w ≤ u) :
    Function.Injective (alphabet.encode (u := u)) := by
  intro words words' h
  have hdecode := alphabet.decode_encode hw hwu words
  rw [h, alphabet.decode_encode hw hwu words'] at hdecode
  exact (Option.some.inj hdecode).symm

end Alphabet

end ProtonVpnOmarchy.Lib
