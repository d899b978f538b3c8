import Mathlib

/-!
# Byte strings: little-endian words, bit strings, memory slices

What a program that talks to a kernel through raw bytes needs, over arbitrary lengths:

* `leBytes n v` / `ofLeBytes bs` — the `n` little-endian bytes of a number and the number they
  spell (`ofLeBytes_leBytes`, `leBytes_ofLeBytes`).
* `bits bs` — the bits of a byte string, most significant bit of each byte first. It is a
  monoid map (`bits_append`) and injective (`bits_injective`), and on the big-endian octets of a
  word it is the list of the word's bits (`bits_beBytes`).
* `Memory` — byte-addressed memory with slices: what a write leaves at the written place
  (`slice_write_same`), inside it (`slice_write_sub`) and elsewhere (`slice_write_of_disjoint`).
-/

namespace ProtonVpnOmarchy.Lib

/-- A byte. -/
abbrev Byte := BitVec 8

/-! ## Little-endian words -/

/-- The `n` low bytes of `v`, least significant first. -/
def leBytes : ℕ → ℕ → List Byte
  | 0, _ => []
  | n + 1, v => BitVec.ofNat 8 v :: leBytes n (v / 256)

/-- The number a little-endian byte string spells. -/
def ofLeBytes : List Byte → ℕ
  | [] => 0
  | b :: bs => b.toNat + 256 * ofLeBytes bs

@[simp] theorem length_leBytes (n v : ℕ) : (leBytes n v).length = n := by
  induction n generalizing v with
  | zero => rfl
  | succ n ih => simp [leBytes, ih]

theorem ofLeBytes_leBytes_of_lt (n : ℕ) {v : ℕ} (h : v < 256 ^ n) :
    ofLeBytes (leBytes n v) = v := by
  induction n generalizing v with
  | zero => simp at h; simp [leBytes, ofLeBytes, h]
  | succ n ih =>
      have hdiv : v / 256 < 256 ^ n := by
        rw [Nat.div_lt_iff_lt_mul (by norm_num)]
        simpa [pow_succ] using h
      simp only [leBytes, ofLeBytes, ih hdiv, BitVec.toNat_ofNat]
      omega

/-- A 32-bit word is recovered from its four bytes. -/
@[simp] theorem ofLeBytes_leBytes_four (w : BitVec 32) : ofLeBytes (leBytes 4 w.toNat) = w.toNat :=
  ofLeBytes_leBytes_of_lt 4 (by simpa using w.isLt)

theorem ofLeBytes_lt (bs : List Byte) : ofLeBytes bs < 256 ^ bs.length := by
  induction bs with
  | nil => simp [ofLeBytes]
  | cons b bs ih =>
      have hb := b.isLt
      simp only [ofLeBytes, List.length_cons, pow_succ]
      omega

theorem leBytes_ofLeBytes (bs : List Byte) : leBytes bs.length (ofLeBytes bs) = bs := by
  induction bs with
  | nil => rfl
  | cons b bs ih =>
      have hb := b.isLt
      have hdiv : (b.toNat + 256 * ofLeBytes bs) / 256 = ofLeBytes bs := by omega
      simp only [List.length_cons, leBytes, ofLeBytes, hdiv, ih]
      congr 1
      apply BitVec.eq_of_toNat_eq
      simp only [BitVec.toNat_ofNat]
      omega

/-- Reading a byte string as a word of its own width and taking the word's bytes loses nothing. -/
theorem leBytes_ofNat_ofLeBytes {n : ℕ} {bs : List Byte} (h : bs.length = n) :
    leBytes n (BitVec.ofNat (8 * n) (ofLeBytes bs)).toNat = bs := by
  have hlt : ofLeBytes bs < 2 ^ (8 * n) := by
    have := ofLeBytes_lt bs
    rwa [h, show (256 : ℕ) = 2 ^ 8 by norm_num, ← pow_mul] at this
  rw [BitVec.toNat_ofNat, Nat.mod_eq_of_lt hlt, ← h, leBytes_ofLeBytes]

/-! ## Bit strings -/

/-- The bits of a byte, most significant first. -/
def bitsOfByte (b : Byte) : List Bool := List.ofFn fun i : Fin 8 => b.getMsbD i

/-- The bits of a byte string, each byte most significant bit first. -/
def bits (bs : List Byte) : List Bool := bs.flatMap bitsOfByte

@[simp] theorem length_bitsOfByte (b : Byte) : (bitsOfByte b).length = 8 := by
  simp [bitsOfByte]

@[simp] theorem bits_nil : bits [] = [] := rfl

@[simp] theorem bits_cons (b : Byte) (bs : List Byte) : bits (b :: bs) = bitsOfByte b ++ bits bs :=
  rfl

theorem bits_append (as bs : List Byte) : bits (as ++ bs) = bits as ++ bits bs := by
  simp [bits]

@[simp] theorem length_bits (bs : List Byte) : (bits bs).length = 8 * bs.length := by
  induction bs with
  | nil => rfl
  | cons b bs ih => simp [ih]; ring

theorem bitsOfByte_injective : Function.Injective bitsOfByte := by
  intro a b h
  apply BitVec.eq_of_getMsbD_eq
  intro i hi
  have := congrFun (List.ofFn_injective h) ⟨i, hi⟩
  simpa using this

theorem bits_injective : Function.Injective bits := by
  intro as
  induction as with
  | nil =>
      intro bs h
      have : (bits bs).length = 0 := by rw [← h]; rfl
      simp only [length_bits, Nat.mul_eq_zero, List.length_eq_zero_iff] at this
      simpa using this.symm
  | cons a as ih =>
      intro bs h
      cases bs with
      | nil => have := congrArg List.length h; simp at this
      | cons b bs =>
          rw [bits_cons, bits_cons] at h
          obtain ⟨h₁, h₂⟩ := List.append_inj h (by simp)
          rw [bitsOfByte_injective h₁, ih h₂]

/-- The big-endian octets of an `n`-byte word. -/
def beBytes (n : ℕ) (w : BitVec (n * 8)) : List Byte :=
  List.ofFn fun i : Fin n => w.extractLsb' (8 * (n - 1 - i)) 8

@[simp] theorem length_beBytes (n : ℕ) (w : BitVec (n * 8)) : (beBytes n w).length = n := by
  simp [beBytes]

/-- The bits of a word's octets are the word's bits, most significant first. -/
theorem bits_beBytes (n : ℕ) (w : BitVec (n * 8)) :
    bits (beBytes n w) = List.ofFn fun i : Fin (n * 8) => w.getMsbD i := by
  rw [List.ofFn_mul]
  unfold bits beBytes
  rw [List.flatMap_def, List.map_ofFn]
  congr 1
  apply congrArg
  funext i
  simp only [Function.comp_apply, bitsOfByte]
  congr 1
  funext j
  have hi := i.isLt
  have hj := j.isLt
  simp only [BitVec.getMsbD, BitVec.getLsbD_extractLsb']
  have h₁ : (i : ℕ) * 8 + j < n * 8 := by omega
  have h₂ : 8 * (n - 1 - (i : ℕ)) + (8 - 1 - (j : ℕ)) = n * 8 - 1 - ((i : ℕ) * 8 + j) := by omega
  have h₃ : (8 - 1 - (j : ℕ)) < 8 := by omega
  simp [h₁, h₂, h₃, hj]

/-! ## Memory -/

/-- Byte-addressed memory. -/
abbrev Memory := ℕ → Byte

namespace Memory

/-- The `n` bytes from address `a` on. -/
def slice (m : Memory) (a n : ℕ) : List Byte := List.ofFn fun i : Fin n => m (a + i)

/-- The memory with the byte string `bs` copied to address `a`. -/
def write (m : Memory) (a : ℕ) (bs : List Byte) : Memory := fun i =>
  if a ≤ i then (bs[i - a]?).getD (m i) else m i

@[simp] theorem length_slice (m : Memory) (a n : ℕ) : (m.slice a n).length = n := by
  simp [slice]

theorem slice_add (m : Memory) (a n k : ℕ) : m.slice a (n + k) = m.slice a n ++ m.slice (a + n) k := by
  simp only [slice, List.ofFn_add, Fin.val_natAdd, Nat.add_assoc]
  rfl

/-- A slice inside a written range reads the written bytes. -/
theorem slice_write_sub (m : Memory) {a k n : ℕ} {bs : List Byte} (h : k + n ≤ bs.length) :
    (m.write a bs).slice (a + k) n = (bs.drop k).take n := by
  apply List.ext_getElem
  · simp; omega
  · intro i h₁ h₂
    have hi : i < n := by simpa using h₁
    have hb : k + i < bs.length := by omega
    simp [slice, write, Nat.add_assoc, List.getElem?_eq_getElem hb]

theorem slice_write_same (m : Memory) (a : ℕ) {n : ℕ} {bs : List Byte} (h : bs.length = n) :
    (m.write a bs).slice a n = bs := by
  subst h
  have h := slice_write_sub m (a := a) (k := 0) (show 0 + bs.length ≤ bs.length by omega)
  simpa using h

/-- A slice that does not meet a written range is unchanged. -/
theorem slice_write_of_disjoint (m : Memory) {a b n : ℕ} {bs : List Byte}
    (h : b + n ≤ a ∨ a + bs.length ≤ b) : (m.write a bs).slice b n = m.slice b n := by
  apply List.ext_getElem
  · simp
  · intro i h₁ h₂
    have hi : i < n := by simpa using h₁
    simp only [slice, List.getElem_ofFn, write]
    by_cases hab : a ≤ b + i
    · have hlen : bs.length ≤ b + i - a := by omega
      simp [hab, List.getElem?_eq_none hlen]
    · simp [hab]

end Memory

end ProtonVpnOmarchy.Lib
