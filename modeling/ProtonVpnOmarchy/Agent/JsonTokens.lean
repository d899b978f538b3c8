import ProtonVpnOmarchy.Agent.JsonSyntax

/-!
# The tokens of JSON text

A JSON decoder sees the characters between the strings, and of a string what it denotes.

* `ReadsChars` — the rules by which a string is read, one for each way to spell a character.
* `Lexes` — a text and its tokens; `lexes_lexTokens` finds them.
* `Unescapes` — some of the control characters in the strings of a text are no longer escaped.
* `lexes_of_unescapes` — if every control character is escaped again, the tokens are the same.
-/

namespace ProtonVpnOmarchy.Agent

open Splitd Splitd.Parser

/-! ## Strings -/

/-- The string up to the quote, what it denotes, and what stands behind the quote. -/
inductive ReadsChars : List Char → List Char → List Char → Prop
  | quote (rest) : ReadsChars ('"' :: rest) [] rest
  | plain {c text chars rest} (hquote : c ≠ '"') (hescape : c ≠ '\\') (hcontrol : 0x20 ≤ c.toNat)
      (htail : ReadsChars text chars rest) : ReadsChars (c :: text) (c :: chars) rest
  | short {letter c text chars rest} (hletter : shortUnescapes.lookup letter = some c)
      (htail : ReadsChars text chars rest) :
      ReadsChars ('\\' :: letter :: text) (c :: chars) rest
  | quad {a b c d n text chars rest} (hquad : hexQuad a b c d = some n)
      (hsingle : n < 0xD800 ∨ 0xE000 ≤ n) (htail : ReadsChars text chars rest) :
      ReadsChars ('\\' :: 'u' :: a :: b :: c :: d :: text) (Char.ofNat n :: chars) rest
  | pair {a b c d a' b' c' d' high low text chars rest} (hhigh : hexQuad a b c d = some high)
      (hlow : hexQuad a' b' c' d' = some low)
      (hsurrogates : 0xD800 ≤ high ∧ high < 0xDC00 ∧ 0xDC00 ≤ low ∧ low < 0xE000)
      (htail : ReadsChars text chars rest) :
      ReadsChars ('\\' :: 'u' :: a :: b :: c :: d :: '\\' :: 'u' :: a' :: b' :: c' :: d' :: text)
        (Char.ofNat (0x10000 + (high - 0xD800) * 0x400 + (low - 0xDC00)) :: chars) rest

theorem ne_of_lookup_shortUnescapes {letter c : Char}
    (h : shortUnescapes.lookup letter = some c) : letter ≠ 'u' := by
  rintro rfl
  have hnone : shortUnescapes.lookup 'u' = none := by decide
  rw [hnone] at h
  cases h

/-- An escape of half a character is read together with the next one. -/
theorem readChars_surrogates {a b c d a' b' c' d' : Char} {high : ℕ}
    (hhigh : hexQuad a b c d = some high) (hpaired : ¬ (high < 0xD800 ∨ 0xE000 ≤ high))
    (text : List Char) :
    readChars ('\\' :: 'u' :: a :: b :: c :: d :: '\\' :: 'u' :: a' :: b' :: c' :: d' :: text) =
      (hexQuad a' b' c' d').bind fun low =>
        if high < 0xDC00 ∧ 0xDC00 ≤ low ∧ low < 0xE000 then
          (readChars text).map fun (chars, rest) =>
            (Char.ofNat (0x10000 + (high - 0xD800) * 0x400 + (low - 0xDC00)) :: chars, rest)
        else none := by
  rw [readChars, hhigh]
  dsimp only
  rw [if_neg hpaired]
  cases hlow : hexQuad a' b' c' d' with
  | none => simp [hlow]
  | some low => simp [hlow]

theorem readChars_short {letter c : Char} (hletter : shortUnescapes.lookup letter = some c)
    (text : List Char) :
    readChars ('\\' :: letter :: text) =
      (readChars text).map fun (chars, rest) => (c :: chars, rest) := by
  rw [readChars, hletter]
  rintro a b c d rest rfl
  exact absurd rfl (ne_of_lookup_shortUnescapes hletter)

theorem readChars_quad {a b c d : Char} {n : ℕ} (hquad : hexQuad a b c d = some n)
    (hsingle : n < 0xD800 ∨ 0xE000 ≤ n) (text : List Char) :
    readChars ('\\' :: 'u' :: a :: b :: c :: d :: text) =
      (readChars text).map fun (chars, rest) => (Char.ofNat n :: chars, rest) := by
  rw [readChars, hquad]
  dsimp only
  rw [if_pos hsingle]

/-- A control character in a string is refused. -/
theorem readChars_control {c : Char} (h : c.toNat < 0x20) (text : List Char) :
    readChars (c :: text) = none := by
  have hne : ∀ d : Char, 0x20 ≤ d.toNat → c ≠ d := by
    rintro d hd rfl
    omega
  have hquote := hne '"' (by decide)
  have hescape := hne '\\' (by decide)
  rw [readChars, if_pos (.inr h)]
  · exact hquote
  · exact fun _ _ _ _ _ hc _ => hescape hc
  · exact fun _ _ hc _ => hescape hc

theorem readChars_of_readsChars {text chars rest : List Char} (h : ReadsChars text chars rest) :
    readChars text = some (chars, rest) := by
  induction h with
  | quote rest => rw [readChars]
  | plain hquote hescape hcontrol _ ih => rw [readChars_cons hquote hescape hcontrol, ih]; rfl
  | short hletter _ ih => rw [readChars_short hletter, ih, Option.map_some]
  | quad hquad hsingle _ ih => rw [readChars_quad hquad hsingle, ih, Option.map_some]
  | pair hhigh hlow hsurrogates _ ih =>
      have hpaired := hsurrogates.1
      rw [readChars_surrogates hhigh (by omega), hlow, Option.bind_some, if_pos hsurrogates.2, ih,
        Option.map_some]

/-- A string is read by the rules only. -/
theorem readsChars_of_readChars {text chars rest : List Char}
    (h : readChars text = some (chars, rest)) : ReadsChars text chars rest := by
  induction text using readChars.induct generalizing chars rest with
  | case1 => cases h
  | case2 tail =>
      obtain ⟨rfl, rfl⟩ := Prod.mk.inj (Option.some.inj h)
      exact .quote _
  | case3 a b c d tail hquad =>
      rw [readChars, hquad] at h
      cases h
  | case4 a b c d tail n hquad hsingle ih =>
      rw [readChars_quad hquad hsingle, Option.map_eq_some_iff] at h
      obtain ⟨⟨chars, rest⟩, htail, ⟨⟩⟩ := h
      exact .quad hquad hsingle (ih htail)
  | case5 a b c d high hhigh hpaired a' b' c' d' tail hlow =>
      rw [readChars_surrogates hhigh hpaired, hlow] at h
      cases h
  | case6 a b c d high hhigh hpaired a' b' c' d' tail low hlow hsurrogates ih =>
      rw [readChars_surrogates hhigh hpaired, hlow, Option.bind_some, if_pos hsurrogates, Option.map_eq_some_iff] at h
      obtain ⟨⟨chars, rest⟩, htail, ⟨⟩⟩ := h
      exact .pair hhigh hlow ⟨by omega, hsurrogates⟩ (ih htail)
  | case7 a b c d high hhigh hpaired a' b' c' d' tail low hlow hsurrogates =>
      rw [readChars_surrogates hhigh hpaired, hlow, Option.bind_some, if_neg hsurrogates] at h
      cases h
  | case8 a b c d tail high hhigh hpaired halone =>
      rw [readChars, hhigh] at h
      dsimp only at h
      rw [if_neg hpaired] at h
      split at h
      · exact absurd rfl (halone _ _ _ _ _)
      · cases h
  | case9 letter tail hlong hletter =>
      rw [readChars, hletter] at h
      · cases h
      · exact hlong
  | case10 letter tail hlong c hletter ih =>
      rw [readChars_short hletter, Option.map_eq_some_iff] at h
      obtain ⟨⟨chars, rest⟩, htail, ⟨⟩⟩ := h
      exact .short hletter (ih htail)
  | case11 c tail hquote hlong hshort hrefused =>
      rw [readChars, if_pos hrefused] at h
      · cases h
      · exact hquote
      · exact hlong
      · exact hshort
  | case12 c tail hquote hlong hshort hplain ih =>
      rw [readChars, if_neg hplain, Option.map_eq_some_iff] at h
      · obtain ⟨⟨chars, rest⟩, htail, ⟨⟩⟩ := h
        rw [not_or, not_lt] at hplain
        exact .plain hquote hplain.1 hplain.2 (ih htail)
      · exact hquote
      · exact hlong
      · exact hshort

theorem readChars_eq_some_iff {text chars rest : List Char} :
    readChars text = some (chars, rest) ↔ ReadsChars text chars rest :=
  ⟨readsChars_of_readChars, readChars_of_readsChars⟩

/-! ## Tokens -/

/-- A character between the strings, or what a string denotes. -/
inductive Token where
  | char (c : Char)
  | string (chars : List Char)
  deriving DecidableEq

/-- A text and its tokens. -/
inductive Lexes : List Char → List Token → Prop
  | nil : Lexes [] []
  | char {c text tokens} (hquote : c ≠ '"') (htail : Lexes text tokens) :
      Lexes (c :: text) (.char c :: tokens)
  | string {text chars rest tokens} (hstring : ReadsChars text chars rest)
      (htail : Lexes rest tokens) : Lexes ('"' :: text) (.string chars :: tokens)

/-- The tokens of a text; the fuel is for one token each. -/
def lexTokens : ℕ → List Char → Option (List Token)
  | _, [] => some []
  | 0, _ :: _ => none
  | fuel + 1, '"' :: text =>
    (readChars text).bind fun (chars, rest) => (lexTokens fuel rest).map (.string chars :: ·)
  | fuel + 1, c :: text => (lexTokens fuel text).map (.char c :: ·)

theorem ReadsChars.length_lt {text chars rest : List Char} (h : ReadsChars text chars rest) :
    rest.length < text.length := by
  induction h with
  | quote rest => simp
  | plain _ _ _ _ ih => simp only [List.length_cons]; omega
  | short _ _ ih => simp only [List.length_cons]; omega
  | quad _ _ _ ih => simp only [List.length_cons]; omega
  | pair _ _ _ _ ih => simp only [List.length_cons]; omega

theorem lexTokens_of_lexes {text : List Char} {tokens : List Token} (h : Lexes text tokens)
    {fuel : ℕ} (hfuel : text.length ≤ fuel) : lexTokens fuel text = some tokens := by
  induction h generalizing fuel with
  | nil => cases fuel <;> rfl
  | char hquote _ ih =>
      rcases fuel with _ | fuel
      · cases hfuel
      rw [lexTokens, ih (Nat.le_of_succ_le_succ hfuel), Option.map_some]
      exact hquote
  | string hstring _ ih =>
      rcases fuel with _ | fuel
      · cases hfuel
      have hrest := hstring.length_lt
      rw [List.length_cons] at hfuel
      rw [lexTokens, readChars_of_readsChars hstring, Option.bind_some]
      dsimp only
      rw [ih (by omega), Option.map_some]

theorem lexes_of_lexTokens {fuel : ℕ} {text : List Char} {tokens : List Token}
    (h : lexTokens fuel text = some tokens) : Lexes text tokens := by
  induction fuel, text using lexTokens.induct generalizing tokens with
  | case1 fuel =>
      rw [lexTokens] at h
      obtain rfl := Option.some.inj h
      exact .nil
  | case2 c text => cases h
  | case3 fuel text ih =>
      rw [lexTokens, Option.bind_eq_some_iff] at h
      obtain ⟨⟨chars, rest⟩, hstring, h⟩ := h
      obtain ⟨tokens, htail, rfl⟩ := Option.map_eq_some_iff.mp h
      exact .string (readsChars_of_readChars hstring) (ih rest htail)
  | case4 fuel c text hquote ih =>
      rw [lexTokens] at h
      · obtain ⟨tokens, htail, rfl⟩ := Option.map_eq_some_iff.mp h
        exact .char hquote (ih htail)
      · exact hquote

/-- Enough fuel finds the tokens. -/
theorem lexTokens_eq_some_iff {text : List Char} {tokens : List Token} :
    lexTokens text.length text = some tokens ↔ Lexes text tokens :=
  ⟨lexes_of_lexTokens, fun h => lexTokens_of_lexes h le_rfl⟩

theorem Lexes.of_char {c : Char} {text : List Char} {tokens : List Token} (hquote : c ≠ '"')
    (h : Lexes (c :: text) tokens) : ∃ tail, Lexes text tail := by
  generalize hfirst : c :: text = first at h
  cases h with
  | nil => cases hfirst
  | char _ htail =>
      obtain ⟨-, rfl⟩ := List.cons.inj hfirst
      exact ⟨_, htail⟩
  | string _ _ => exact absurd (List.cons.inj hfirst).1 hquote

theorem Lexes.of_string {text : List Char} {tokens : List Token} (h : Lexes ('"' :: text) tokens) :
    ∃ chars rest tail, ReadsChars text chars rest ∧ Lexes rest tail := by
  generalize hfirst : '"' :: text = first at h
  cases h with
  | nil => cases hfirst
  | char hquote _ => exact absurd (List.cons.inj hfirst).1.symm hquote
  | string hstring htail =>
      obtain ⟨-, rfl⟩ := List.cons.inj hfirst
      exact ⟨_, _, _, hstring, htail⟩

/-! ## Control characters -/

/-- The code of a control character, as `char::is_control` has it. -/
def IsControlCode (n : ℕ) : Prop := n < 0x20 ∨ (0x7f ≤ n ∧ n < 0xa0)

/-- Some escapes of control characters in the strings of a text are replaced by the characters
themselves; `inside` says whether the text begins in a string. -/
inductive Unescapes : (inside : Bool) → List Char → List Char → Prop
  | nil : Unescapes false [] []
  | outside {c text text'} (hquote : c ≠ '"') (htail : Unescapes false text text') :
      Unescapes false (c :: text) (c :: text')
  | opens {text text'} (htail : Unescapes true text text') :
      Unescapes false ('"' :: text) ('"' :: text')
  | closes {text text'} (htail : Unescapes false text text') :
      Unescapes true ('"' :: text) ('"' :: text')
  | plain {c text text'} (hquote : c ≠ '"') (hescape : c ≠ '\\')
      (htail : Unescapes true text text') : Unescapes true (c :: text) (c :: text')
  | kept {letter text text'} (htail : Unescapes true text text') :
      Unescapes true ('\\' :: letter :: text) ('\\' :: letter :: text')
  | short {letter c text text'} (hletter : shortUnescapes.lookup letter = some c)
      (hcontrol : IsControlCode c.toNat) (htail : Unescapes true text text') :
      Unescapes true ('\\' :: letter :: text) (c :: text')
  | quad {a b c d n text text'} (hquad : hexQuad a b c d = some n)
      (hcontrol : IsControlCode n) (htail : Unescapes true text text') :
      Unescapes true ('\\' :: 'u' :: a :: b :: c :: d :: text) (Char.ofNat n :: text')

/-- The low control characters of a text are escaped. -/
def escapeControls (text : List Char) : List Char :=
  text.flatMap fun c => if c.toNat < 0x20 then escapeChar c else [c]

@[simp] theorem escapeControls_nil : escapeControls [] = [] := rfl

theorem escapeControls_cons_of_le {c : Char} (h : 0x20 ≤ c.toNat) (text : List Char) :
    escapeControls (c :: text) = c :: escapeControls text := by
  rw [escapeControls, List.flatMap_cons, if_neg (not_lt.mpr h)]
  rfl

theorem escapeControls_append (text text' : List Char) :
    escapeControls (text ++ text') = escapeControls text ++ escapeControls text' :=
  List.flatMap_append

theorem escapeControls_of_forall {text : List Char} (h : ∀ c ∈ text, 0x20 ≤ c.toNat) :
    escapeControls text = text := by
  induction text with
  | nil => rfl
  | cons c text ih =>
      rw [escapeControls_cons_of_le (h c List.mem_cons_self),
        ih fun c hc => h c (List.mem_cons_of_mem _ hc)]

theorem escapeControls_cons_of_lt {c : Char} (h : c.toNat < 0x20) (text : List Char) :
    escapeControls (c :: text) = escapeChar c ++ escapeControls text := by
  rw [escapeControls, List.flatMap_cons, if_pos h]
  rfl

section inversion

variable {text text' : List Char}

theorem Unescapes.of_quote (h : Unescapes true ('"' :: text) text') :
    ∃ rest, text' = '"' :: rest ∧ Unescapes false text rest := by
  generalize hfirst : '"' :: text = first at h
  generalize hinside : true = inside at h
  cases h with
  | closes htail =>
      obtain ⟨-, rfl⟩ := List.cons.inj hfirst
      exact ⟨_, rfl, htail⟩
  | plain hquote _ _ => exact absurd (List.cons.inj hfirst).1.symm hquote
  | kept _ => exact absurd (List.cons.inj hfirst).1 (by decide)
  | short _ _ _ => exact absurd (List.cons.inj hfirst).1 (by decide)
  | quad _ _ _ => exact absurd (List.cons.inj hfirst).1 (by decide)
  | _ => cases hinside

theorem Unescapes.of_plain {c : Char} (hquote : c ≠ '"') (hescape : c ≠ '\\')
    (h : Unescapes true (c :: text) text') : ∃ rest, text' = c :: rest ∧ Unescapes true text rest := by
  generalize hfirst : c :: text = first at h
  generalize hinside : true = inside at h
  cases h with
  | closes _ => exact absurd (List.cons.inj hfirst).1 hquote
  | plain _ _ htail =>
      obtain ⟨rfl, rfl⟩ := List.cons.inj hfirst
      exact ⟨_, rfl, htail⟩
  | kept _ => exact absurd (List.cons.inj hfirst).1 hescape
  | short _ _ _ => exact absurd (List.cons.inj hfirst).1 hescape
  | quad _ _ _ => exact absurd (List.cons.inj hfirst).1 hescape
  | _ => cases hinside

/-- An escape is kept, or it is one of a control character and is replaced. -/
theorem Unescapes.of_escape {letter : Char} (h : Unescapes true ('\\' :: letter :: text) text') :
    (∃ rest, text' = '\\' :: letter :: rest ∧ Unescapes true text rest) ∨
      (∃ c rest, shortUnescapes.lookup letter = some c ∧ IsControlCode c.toNat ∧
        text' = c :: rest ∧ Unescapes true text rest) ∨
      ∃ a b c d n tail rest, letter = 'u' ∧ text = a :: b :: c :: d :: tail ∧
        hexQuad a b c d = some n ∧ IsControlCode n ∧ text' = Char.ofNat n :: rest ∧
        Unescapes true tail rest := by
  generalize hfirst : '\\' :: letter :: text = first at h
  generalize hinside : true = inside at h
  cases h with
  | closes _ => exact absurd (List.cons.inj hfirst).1 (by decide)
  | plain _ hescape _ => exact absurd (List.cons.inj hfirst).1.symm hescape
  | kept htail =>
      obtain ⟨-, hfirst⟩ := List.cons.inj hfirst
      obtain ⟨rfl, rfl⟩ := List.cons.inj hfirst
      exact .inl ⟨_, rfl, htail⟩
  | short hletter hcontrol htail =>
      obtain ⟨-, hfirst⟩ := List.cons.inj hfirst
      obtain ⟨rfl, rfl⟩ := List.cons.inj hfirst
      exact .inr (.inl ⟨_, _, hletter, hcontrol, rfl, htail⟩)
  | quad hquad hcontrol htail =>
      obtain ⟨-, hfirst⟩ := List.cons.inj hfirst
      obtain ⟨rfl, rfl⟩ := List.cons.inj hfirst
      exact .inr (.inr ⟨_, _, _, _, _, _, _, rfl, rfl, hquad, hcontrol, rfl, htail⟩)
  | _ => cases hinside

theorem Unescapes.of_outside {c : Char} (hquote : c ≠ '"') (h : Unescapes false (c :: text) text') :
    ∃ rest, text' = c :: rest ∧ Unescapes false text rest := by
  generalize hfirst : c :: text = first at h
  generalize hinside : false = inside at h
  cases h with
  | nil => cases hfirst
  | outside _ htail =>
      obtain ⟨rfl, rfl⟩ := List.cons.inj hfirst
      exact ⟨_, rfl, htail⟩
  | opens _ => exact absurd (List.cons.inj hfirst).1 hquote
  | _ => cases hinside

theorem Unescapes.of_opening (h : Unescapes false ('"' :: text) text') :
    ∃ rest, text' = '"' :: rest ∧ Unescapes true text rest := by
  generalize hfirst : '"' :: text = first at h
  generalize hinside : false = inside at h
  cases h with
  | nil => cases hfirst
  | outside hquote _ => exact absurd (List.cons.inj hfirst).1.symm hquote
  | opens htail =>
      obtain ⟨-, rfl⟩ := List.cons.inj hfirst
      exact ⟨_, rfl, htail⟩
  | _ => cases hinside

end inversion

/-! ## Escaping them again -/

/-- Escaped again, an altered string is read as the string was, and leaves an alteration of what
the string left. As it is, it leaves the same, if it is read at all. -/
def Restored (text' chars rest : List Char) : Prop :=
  ∃ rest', Unescapes false rest rest' ∧
    ReadsChars (escapeControls text') chars (escapeControls rest') ∧
    ∀ chars' rest'', readChars text' = some (chars', rest'') → rest'' = rest'

section restored

variable {text text' text₀ chars rest : List Char} {c : Char}

/-- One more character. -/
theorem Restored.cons (h : Restored text' chars rest)
    (hescaped : ∀ {chars rest}, ReadsChars (escapeControls text') chars rest →
      ReadsChars (escapeControls text₀) (c :: chars) rest)
    (hread : readChars text₀ = none ∨
      readChars text₀ = (readChars text').map fun (chars, rest) => (c :: chars, rest)) :
    Restored text₀ (c :: chars) rest := by
  obtain ⟨rest', hrest, hreads, hsame⟩ := h
  refine ⟨rest', hrest, hescaped hreads, fun chars' rest'' htext => ?_⟩
  rcases hread with hread | hread
  · rw [hread] at htext
    cases htext
  · rw [hread, Option.map_eq_some_iff] at htext
    obtain ⟨⟨chars', rest''⟩, htext, ⟨⟩⟩ := htext
    exact hsame _ _ htext

theorem Restored.plain (h : Restored text' chars rest) (hquote : c ≠ '"') (hescape : c ≠ '\\')
    (hcontrol : 0x20 ≤ c.toNat) : Restored (c :: text') (c :: chars) rest := by
  refine h.cons (fun hreads => ?_) (.inr (readChars_cons hquote hescape hcontrol _))
  rw [escapeControls_cons_of_le hcontrol]
  exact .plain hquote hescape hcontrol hreads

/-- A control character is escaped again. -/
theorem Restored.control (h : Restored text' chars rest) (hcontrol : IsControlCode c.toNat) :
    Restored (c :: text') (c :: chars) rest := by
  by_cases hlow : c.toNat < 0x20
  · refine h.cons (fun hreads => ?_) (.inl (readChars_control hlow _))
    rw [escapeControls_cons_of_lt hlow, ← readChars_eq_some_iff, readChars_escapeChar,
      readChars_of_readsChars hreads, Option.map_some]
  · have hhigh : 0x7f ≤ c.toNat := by
      rcases hcontrol with hcontrol | hcontrol
      · exact absurd hcontrol hlow
      · exact hcontrol.1
    refine h.plain ?_ ?_ (by omega)
    · rintro rfl
      exact absurd hhigh (by decide)
    · rintro rfl
      exact absurd hhigh (by decide)

end restored

theorem toNat_ofNat_of_isControlCode {n : ℕ} (h : IsControlCode n) : (Char.ofNat n).toNat = n := by
  have hvalid : n.isValidChar := .inl (by unfold IsControlCode at h; omega)
  rw [Char.ofNat, dif_pos hvalid]
  rfl

/-- The letters of escapes are neither quotes nor controls. -/
theorem le_of_lookup_shortUnescapes {letter c : Char}
    (h : shortUnescapes.lookup letter = some c) : 0x20 ≤ letter.toNat := by
  have hletters : ∀ entry ∈ shortUnescapes, 0x20 ≤ entry.1.toNat := by decide
  obtain ⟨_, _, hsplit, _⟩ := List.lookup_eq_some_iff.mp h
  exact hletters (letter, c) (by rw [hsplit]; simp)

theorem isHexDigit_of_hexQuad {a b c d : Char} {n : ℕ} (h : hexQuad a b c d = some n) :
    ∀ digit ∈ [a, b, c, d], (toDigit 16 digit).isSome := by
  unfold hexQuad at h
  simp only [Option.bind_eq_bind, Option.bind_eq_some_iff] at h
  obtain ⟨_, ha, _, hb, _, hc, _, hd, -⟩ := h
  simp [ha, hb, hc, hd]

theorem plain_of_toDigit {digit : Char} (h : (toDigit 16 digit).isSome) :
    digit ≠ '"' ∧ digit ≠ '\\' ∧ 0x20 ≤ digit.toNat := by
  refine ⟨?_, ?_, ?_⟩
  · rintro rfl
    exact absurd h (by decide)
  · rintro rfl
    exact absurd h (by decide)
  · by_contra hlow
    have hcontrols : ∀ n < 0x20, (toDigit 16 (Char.ofNat n)).isSome = false := by decide
    have hnone := hcontrols digit.toNat (by omega)
    rw [Char.ofNat_toNat, h] at hnone
    cases hnone

section quads

variable {a b c d : Char} {n : ℕ} (hquad : hexQuad a b c d = some n)
include hquad

theorem Unescapes.of_digits {text text' : List Char}
    (h : Unescapes true (a :: b :: c :: d :: text) text') :
    ∃ rest, text' = a :: b :: c :: d :: rest ∧ Unescapes true text rest := by
  have hplain := fun digit hdigit => plain_of_toDigit (isHexDigit_of_hexQuad hquad digit hdigit)
  obtain ⟨_, rfl, hb⟩ := h.of_plain (hplain a (by simp)).1 (hplain a (by simp)).2.1
  obtain ⟨_, rfl, hc⟩ := hb.of_plain (hplain b (by simp)).1 (hplain b (by simp)).2.1
  obtain ⟨_, rfl, hd⟩ := hc.of_plain (hplain c (by simp)).1 (hplain c (by simp)).2.1
  obtain ⟨rest, rfl, hrest⟩ := hd.of_plain (hplain d (by simp)).1 (hplain d (by simp)).2.1
  exact ⟨rest, rfl, hrest⟩

theorem escapeControls_quad (text : List Char) :
    escapeControls ('\\' :: 'u' :: a :: b :: c :: d :: text) =
      '\\' :: 'u' :: a :: b :: c :: d :: escapeControls text := by
  have hplain := fun digit hdigit =>
    (plain_of_toDigit (isHexDigit_of_hexQuad hquad digit hdigit)).2.2
  rw [escapeControls_cons_of_le (by decide), escapeControls_cons_of_le (by decide),
    escapeControls_cons_of_le (hplain a (by simp)), escapeControls_cons_of_le (hplain b (by simp)),
    escapeControls_cons_of_le (hplain c (by simp)), escapeControls_cons_of_le (hplain d (by simp))]

end quads

/-- **Escaping restores a string**, by the rule that reads its next character. -/
theorem restored_of_unescapes {text chars rest : List Char} (h : ReadsChars text chars rest)
    {text' : List Char} (haltered : Unescapes true text text') : Restored text' chars rest := by
  induction h generalizing text' with
  | quote rest =>
      obtain ⟨rest', rfl, hrest⟩ := haltered.of_quote
      refine ⟨rest', hrest, ?_, fun chars' rest'' h => ?_⟩
      · rw [escapeControls_cons_of_le (by decide)]
        exact .quote _
      · rw [readChars] at h
        exact (Prod.mk.inj (Option.some.inj h)).2.symm
  | plain hquote hescape hcontrol _ ih =>
      obtain ⟨_, rfl, htail⟩ := haltered.of_plain hquote hescape
      exact (ih htail).plain hquote hescape hcontrol
  | short hletter _ ih =>
      rcases haltered.of_escape with ⟨_, rfl, htail⟩ | ⟨c, _, hletter', hcontrol, rfl, htail⟩ |
        ⟨_, _, _, _, _, _, _, rfl, -⟩
      · refine (ih htail).cons (fun hreads => ?_) (.inr (readChars_short hletter _))
        rw [escapeControls_cons_of_le (by decide),
          escapeControls_cons_of_le (le_of_lookup_shortUnescapes hletter)]
        exact .short hletter hreads
      · obtain rfl := Option.some.inj (hletter.symm.trans hletter')
        exact (ih htail).control hcontrol
      · exact absurd rfl (ne_of_lookup_shortUnescapes hletter)
  | quad hquad hsingle _ ih =>
      rcases haltered.of_escape with ⟨_, rfl, htail⟩ | ⟨_, _, hletter, -⟩ |
        ⟨_, _, _, _, n, _, _, -, htext, hquad', hcontrol, rfl, htail⟩
      · obtain ⟨_, rfl, hbehind⟩ := htail.of_digits hquad
        refine (ih hbehind).cons (fun hreads => ?_) (.inr (readChars_quad hquad hsingle _))
        rw [escapeControls_quad hquad]
        exact .quad hquad hsingle hreads
      · exact absurd rfl (ne_of_lookup_shortUnescapes hletter)
      · simp only [List.cons.injEq] at htext
        obtain ⟨rfl, rfl, rfl, rfl, rfl⟩ := htext
        obtain rfl := Option.some.inj (hquad.symm.trans hquad')
        refine (ih htail).control ?_
        rwa [toNat_ofNat_of_isControlCode hcontrol]
  | pair hhigh hlow hsurrogates _ ih =>
      -- Neither half is a control character, so both are kept.
      rcases haltered.of_escape with ⟨_, rfl, htail⟩ | ⟨_, _, hletter, -⟩ |
        ⟨_, _, _, _, _, _, _, -, htext, hquad', hcontrol, -⟩
      · obtain ⟨_, rfl, hsecond⟩ := htail.of_digits hhigh
        rcases hsecond.of_escape with ⟨_, rfl, hdigits⟩ | ⟨_, _, hletter, -⟩ |
          ⟨_, _, _, _, _, _, _, -, htext, hquad', hcontrol, -⟩
        · obtain ⟨_, rfl, hbehind⟩ := hdigits.of_digits hlow
          refine (ih hbehind).cons (fun hreads => ?_) (.inr ?_)
          · rw [escapeControls_quad hhigh, escapeControls_quad hlow]
            exact .pair hhigh hlow hsurrogates hreads
          · have hpaired := hsurrogates.1
            rw [readChars_surrogates hhigh (by omega), hlow, Option.bind_some,
              if_pos hsurrogates.2]
        · exact absurd rfl (ne_of_lookup_shortUnescapes hletter)
        · simp only [List.cons.injEq] at htext
          obtain ⟨rfl, rfl, rfl, rfl, rfl⟩ := htext
          obtain rfl := Option.some.inj (hlow.symm.trans hquad')
          unfold IsControlCode at hcontrol
          omega
      · exact absurd rfl (ne_of_lookup_shortUnescapes hletter)
      · simp only [List.cons.injEq] at htext
        obtain ⟨rfl, rfl, rfl, rfl, rfl⟩ := htext
        obtain rfl := Option.some.inj (hhigh.symm.trans hquad')
        unfold IsControlCode at hcontrol
        omega

/-- There are no low control characters in a string that is read. -/
theorem ReadsChars.exists_append {text chars rest : List Char} (h : ReadsChars text chars rest) :
    ∃ before, text = before ++ rest ∧ ∀ c ∈ before, 0x20 ≤ c.toNat := by
  induction h with
  | quote rest => exact ⟨['"'], rfl, by simp⟩
  | @plain c _ _ _ _ _ hcontrol _ ih =>
      obtain ⟨before, rfl, hbefore⟩ := ih
      refine ⟨c :: before, rfl, ?_⟩
      simpa [hcontrol] using hbefore
  | @short letter _ _ _ _ hletter _ ih =>
      obtain ⟨before, rfl, hbefore⟩ := ih
      refine ⟨'\\' :: letter :: before, rfl, ?_⟩
      simpa [le_of_lookup_shortUnescapes hletter] using hbefore
  | @quad a b c d _ _ _ _ hquad _ _ ih =>
      obtain ⟨before, rfl, hbefore⟩ := ih
      refine ⟨'\\' :: 'u' :: a :: b :: c :: d :: before, rfl, ?_⟩
      have hdigits := fun digit hdigit =>
        (plain_of_toDigit (isHexDigit_of_hexQuad hquad digit hdigit)).2.2
      simp only [List.mem_cons, List.not_mem_nil, or_false, forall_eq_or_imp, forall_eq] at hdigits ⊢
      exact ⟨by decide, by decide, hdigits.1, hdigits.2.1, hdigits.2.2.1, hdigits.2.2.2, hbefore⟩
  | @pair a b c d a' b' c' d' _ _ _ _ _ hhigh hlow _ _ ih =>
      obtain ⟨before, rfl, hbefore⟩ := ih
      refine ⟨'\\' :: 'u' :: a :: b :: c :: d :: '\\' :: 'u' :: a' :: b' :: c' :: d' :: before,
        by simp only [List.cons_append], ?_⟩
      have hdigits := fun digit hdigit =>
        (plain_of_toDigit (isHexDigit_of_hexQuad hhigh digit hdigit)).2.2
      have hdigits' := fun digit hdigit =>
        (plain_of_toDigit (isHexDigit_of_hexQuad hlow digit hdigit)).2.2
      simp only [List.mem_cons, List.not_mem_nil, or_false, forall_eq_or_imp, forall_eq]
        at hdigits hdigits' ⊢
      exact ⟨by decide, by decide, hdigits.1, hdigits.2.1, hdigits.2.2.1, hdigits.2.2.2, by decide,
        by decide, hdigits'.1, hdigits'.2.1, hdigits'.2.2.1, hdigits'.2.2.2, hbefore⟩

/-- **Escaping restores the tokens of a text** without control characters between its strings. The
altered text itself has tokens only if there is nothing to escape. -/
theorem lexes_of_unescapes {text : List Char} {tokens : List Token} (h : Lexes text tokens)
    (hcompact : ∀ c, .char c ∈ tokens → 0x20 ≤ c.toNat) {text' : List Char}
    (haltered : Unescapes false text text') :
    Lexes (escapeControls text') tokens ∧
      ∀ tokens', Lexes text' tokens' → escapeControls text' = text' := by
  induction h generalizing text' with
  | nil =>
      cases haltered
      exact ⟨.nil, fun _ _ => rfl⟩
  | char hquote _ ih =>
      obtain ⟨rest, rfl, hrest⟩ := haltered.of_outside hquote
      obtain ⟨hlexes, hsame⟩ := ih (fun c hc => hcompact c (List.mem_cons_of_mem _ hc)) hrest
      rw [escapeControls_cons_of_le (hcompact _ List.mem_cons_self)]
      refine ⟨.char hquote hlexes, fun tokens' h => ?_⟩
      obtain ⟨tail, htail⟩ := h.of_char hquote
      rw [hsame tail htail]
  | string hstring _ ih =>
      obtain ⟨inside, rfl, hinside⟩ := haltered.of_opening
      obtain ⟨rest, hrest, hreads, hsame⟩ := restored_of_unescapes hstring hinside
      obtain ⟨hlexes, hagain⟩ := ih (fun c hc => hcompact c (List.mem_cons_of_mem _ hc)) hrest
      rw [escapeControls_cons_of_le (by decide)]
      refine ⟨.string hreads hlexes, fun tokens' h => ?_⟩
      obtain ⟨chars', rest', tail, hstring', htail⟩ := h.of_string
      obtain rfl := hsame _ _ (readChars_of_readsChars hstring')
      obtain ⟨before, rfl, hbefore⟩ := hstring'.exists_append
      rw [escapeControls_append, escapeControls_of_forall hbefore, hagain tail htail]

end ProtonVpnOmarchy.Agent
